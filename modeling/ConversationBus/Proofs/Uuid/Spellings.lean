import ConversationBus.Proofs.Uuid
import Mathlib.Data.List.Basic
import Mathlib.Data.List.Forall2

/-!
# The spellings of a UUID

The texts that a UUID is read from: its digits alone, in five groups with hyphens between them, and
that form in braces or as a URN. Digits and the start of a URN may be in either case.
-/

namespace ConversationBus

/-- A character that stands for a hexadecimal digit. -/
def Hex.Spells (c : Char) (value : Fin 16) : Prop :=
  c = Hex.digit value ∨ c = (Hex.digit value).toUpper

theorem Hex.toNat_digit (value : Fin 16) :
    (Hex.digit value).toNat = if value.val < 10 then 0x30 + value.val else 0x57 + value.val := by
  revert value
  decide

theorem Hex.toNat_toUpper_digit (value : Fin 16) :
    (Hex.digit value).toUpper.toNat =
      if value.val < 10 then 0x30 + value.val else 0x37 + value.val := by
  revert value
  decide

/-- A digit is read from exactly the characters that stand for it. -/
theorem Hex.value?_eq_some_iff {c : Char} {value : Fin 16} :
    Hex.value? c = some value ↔ Hex.Spells c value := by
  constructor
  · intro read
    rw [Hex.Spells, ← Char.toNat_inj, ← Char.toNat_inj, Hex.toNat_digit, Hex.toNat_toUpper_digit]
    simp only [Hex.value?] at read
    split at read
    next =>
      cases read
      grind
    split at read
    next =>
      cases read
      grind
    split at read
    next =>
      cases read
      grind
    next => cases read
  · rintro (rfl | rfl)
    · exact Hex.value?_digit value
    · revert value
      decide

theorem Hex.values_eq_some_iff {row : List Char} {digits : List (Fin 16)} :
    row.mapM Hex.value? = some digits ↔ List.Forall₂ Hex.Spells row digits := by
  induction row generalizing digits with
  | nil => simp [eq_comm]
  | cons c row ih =>
      simp only [List.mapM_cons, Option.bind_eq_bind, Option.bind_eq_some_iff,
        Hex.value?_eq_some_iff, ih, List.forall₂_cons_left_iff]
      constructor
      · rintro ⟨digit, first, later, rest, made⟩
        exact ⟨digit, later, first, rest, (Option.some.inj made).symm⟩
      · rintro ⟨digit, later, first, rest, rfl⟩
        exact ⟨digit, first, later, rest, rfl⟩

namespace Uuid

/-- The characters of a UUID in groups, with hyphens between them. -/
def Hyphenated (uuid : Uuid) (text : List Char) : Prop :=
  ∃ parts : List (List Char), parts.map List.length = [8, 4, 4, 4, 12] ∧
    text = ['-'].intercalate parts ∧ List.Forall₂ Hex.Spells parts.flatten uuid.digits

/-- The texts that stand for a UUID. -/
inductive Spelled (uuid : Uuid) : List Char → Prop where
  | plain {text : List Char} (digits : List.Forall₂ Hex.Spells text uuid.digits) : Spelled uuid text
  | hyphenated {text : List Char} (groups : uuid.Hyphenated text) : Spelled uuid text
  | braced {text : List Char} (groups : uuid.Hyphenated text) : Spelled uuid ('{' :: text ++ ['}'])
  | urn {start text : List Char} (urn : start.map Char.toLower = "urn:uuid:".toList)
      (groups : uuid.Hyphenated text) : Spelled uuid (start ++ text)

/-- The first of several groups is what stands before the first hyphen. -/
theorem joinGroups?_cons_cons {width next : Nat} {later : List Nat} {text row : List Char} :
    joinGroups? (width :: next :: later) text = some row ↔ ∃ first rest joined,
      first.length = width ∧ text = first ++ '-' :: rest ∧
        joinGroups? (next :: later) rest = some joined ∧ row = first ++ joined := by
  constructor
  · intro read
    simp only [joinGroups?] at read
    split at read
    next rest begins =>
      rcases Option.map_eq_some_iff.mp read with ⟨joined, more, rfl⟩
      have long : width < text.length := by
        by_contra short
        rw [List.drop_eq_nil_of_le (by omega)] at begins
        cases begins
      refine ⟨text.take width, rest, joined, ?_, ?_, more, rfl⟩
      · rw [List.length_take]
        omega
      · rw [← begins, List.take_append_drop]
    next => cases read
  · rintro ⟨first, rest, joined, rfl, rfl, more, rfl⟩
    simp only [joinGroups?, List.drop_left, List.take_left, more, Option.map_some]

/-- Removing the hyphens takes a text apart into groups of the given lengths. -/
theorem joinGroups?_eq_some_iff {width : Nat} {more : List Nat} {text row : List Char} :
    joinGroups? (width :: more) text = some row ↔ ∃ parts : List (List Char),
      parts.map List.length = width :: more ∧ text = ['-'].intercalate parts ∧
        row = parts.flatten := by
  induction more generalizing width text row with
  | nil =>
      simp only [joinGroups?, Option.ite_none_right_eq_some, Option.some.injEq]
      constructor
      · rintro ⟨rfl, rfl⟩
        exact ⟨[text], by simp⟩
      · rintro ⟨parts, lengths, rfl, rfl⟩
        rcases List.map_eq_singleton_iff.mp lengths with ⟨part, rfl, length⟩
        simpa using length
  | cons next later ih =>
      rw [joinGroups?_cons_cons]
      constructor
      · rintro ⟨first, rest, joined, rfl, rfl, read, rfl⟩
        rcases ih.mp read with ⟨parts, lengths, rfl, rfl⟩
        have some : parts ≠ [] := by
          rintro rfl
          cases lengths
        refine ⟨first :: parts, by rw [List.map_cons, lengths], ?_, rfl⟩
        rw [List.intercalate_cons_of_ne_nil some, List.append_assoc, List.singleton_append]
      · rintro ⟨parts, lengths, rfl, rfl⟩
        rcases List.map_eq_cons_iff.mp lengths with ⟨first, others, rfl, rfl, widths⟩
        have some : others ≠ [] := by
          rintro rfl
          cases widths
        refine ⟨first, ['-'].intercalate others, others.flatten, rfl, ?_, ?_, rfl⟩
        · rw [List.intercalate_cons_of_ne_nil some, List.append_assoc, List.singleton_append]
        · exact ih.mpr ⟨others, widths, rfl, rfl⟩

theorem ofDigits?_eq_some_iff {digits : List (Fin 16)} {uuid : Uuid} :
    ofDigits? digits = some uuid ↔ digits = uuid.digits := by
  rw [ofDigits?]
  constructor
  · intro made
    split at made
    next whole =>
      cases made
      rfl
    next => cases made
  · rintro rfl
    rw [dif_pos uuid.length_digits]

theorem ofHyphenated?_eq_some_iff {text : List Char} {uuid : Uuid} :
    ofHyphenated? text = some uuid ↔ uuid.Hyphenated text := by
  simp only [ofHyphenated?, groups, Option.bind_eq_bind, Option.bind_eq_some_iff,
    joinGroups?_eq_some_iff, Hex.values_eq_some_iff, ofDigits?_eq_some_iff]
  constructor
  · rintro ⟨row, ⟨parts, lengths, apart, rfl⟩, digits, spelled, rfl⟩
    exact ⟨parts, lengths, apart, spelled⟩
  · rintro ⟨parts, lengths, apart, spelled⟩
    exact ⟨_, ⟨parts, lengths, apart, rfl⟩, _, spelled, rfl⟩

/-! ## The four spellings -/

theorem length_intercalate {parts : List (List Char)} (some : parts ≠ []) :
    (['-'].intercalate parts).length + 1 = (parts.map List.length).sum + parts.length := by
  induction parts with
  | nil => exact absurd rfl some
  | cons part others ih =>
      cases others with
      | nil => simp
      | cons next later =>
          have rest := ih (List.cons_ne_nil next later)
          rw [List.intercalate_cons_cons]
          simp only [List.length_append, List.map_cons, List.sum_cons, List.length_cons,
            List.length_nil] at rest ⊢
          omega

theorem Hyphenated.length {uuid : Uuid} {text : List Char} (groups : uuid.Hyphenated text) :
    text.length = 36 := by
  rcases groups with ⟨parts, lengths, rfl, -⟩
  have five : parts.length = 5 := by
    rw [← List.length_map List.length, lengths]
    rfl
  have some : parts ≠ [] := by
    rintro rfl
    cases five
  have whole := length_intercalate some
  rw [lengths, five] at whole
  simpa using whole

theorem upperDigit_ne (digit : Fin 16) :
    (Hex.digit digit).toUpper.toLower ≠ 'u' ∧ (Hex.digit digit).toUpper ≠ '{' := by
  revert digit
  decide

/-- The hyphenated form begins with a digit, so it is none of the other spellings. -/
theorem Hyphenated.begins {uuid : Uuid} {text : List Char} (groups : uuid.Hyphenated text) :
    ∃ c rest, text = c :: rest ∧ c.toLower ≠ 'u' ∧ c ≠ '{' := by
  rcases groups with ⟨parts, lengths, rfl, spelled⟩
  rcases List.map_eq_cons_iff.mp lengths with ⟨first, others, rfl, eight, -⟩
  rcases List.exists_cons_of_length_eq_add_one eight with ⟨c, tail, rfl⟩
  rw [List.flatten_cons, List.cons_append, List.forall₂_cons_left_iff] at spelled
  rcases spelled with ⟨digit, -, stands, -, -⟩
  refine ⟨c, _, List.intercalate_cons_cons_left, ?_⟩
  rcases stands with rfl | rfl
  · exact digit_ne digit
  · exact upperDigit_ne digit

/-- A UUID is read from exactly its spellings. -/
theorem parse?_eq_some_iff {text : String} {uuid : Uuid} :
    parse? text = some uuid ↔ uuid.Spelled text.toList := by
  constructor
  · intro read
    simp only [parse?] at read
    generalize text.toList = chars at read ⊢
    split at read
    next =>
      simp only [Option.bind_eq_bind, Option.bind_eq_some_iff, Hex.values_eq_some_iff,
        ofDigits?_eq_some_iff] at read
      rcases read with ⟨digits, spelled, rfl⟩
      exact .plain spelled
    split at read
    next urn =>
      have groups := ofHyphenated?_eq_some_iff.mp read
      exact List.take_append_drop 9 chars ▸ Spelled.urn urn groups
    split at read
    next rest =>
      split at read
      next closed =>
        have groups := ofHyphenated?_eq_some_iff.mp read
        exact List.dropLast_append_getLast? _ closed ▸ Spelled.braced groups
      next => cases read
    next => exact .hyphenated (ofHyphenated?_eq_some_iff.mp read)
  · intro spelled
    generalize same : text.toList = chars at spelled
    cases spelled with
    | plain digits =>
        have whole : chars.length = 32 := digits.length_eq.trans uuid.length_digits
        simp only [parse?, same]
        rw [if_pos whole, Option.bind_eq_bind, Hex.values_eq_some_iff.mpr digits]
        exact ofDigits?_eq_some_iff.mpr rfl
    | hyphenated groups =>
        rcases groups.begins with ⟨c, rest, begins, noUrn, noBrace⟩
        rw [parse?_of_begins (same.trans begins) (same ▸ groups.length) noUrn noBrace, same]
        exact ofHyphenated?_eq_some_iff.mpr groups
    | @braced inner groups =>
        have long : ('{' :: inner ++ ['}']).length = 38 := by simp [groups.length]
        simp only [parse?, same]
        rw [if_neg (by omega), List.cons_append, if_neg (not_urn (by decide))]
        simp [ofHyphenated?_eq_some_iff.mpr groups]
    | @urn start inner urn groups =>
        have nine : start.length = 9 := by
          rw [← List.length_map Char.toLower, urn]
          rfl
        have long : (start ++ inner).length = 45 := by simp [groups.length, nine]
        have begins : start.map Char.toLower = urnStart := urn
        simp only [parse?, same]
        rw [if_neg (by omega), List.take_left' nine, if_pos begins, List.drop_left' nine]
        exact ofHyphenated?_eq_some_iff.mpr groups

end Uuid

end ConversationBus
