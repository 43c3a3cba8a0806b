import ConversationBus.Uuid
import Mathlib.Algebra.GroupWithZero.Nat

/-!
# UUIDs that are read back

A UUID comes back from its hyphenated form. The form is told from the other spellings by its length
and by its first character, which is a digit.
-/

namespace ConversationBus

theorem Hex.values_digits (digits : List (Fin 16)) :
    (digits.map Hex.digit).mapM Hex.value? = some digits := by
  induction digits with
  | nil => rfl
  | cons digit digits ih => simp [ih]

namespace Uuid

/-- Groups of digits and the hyphens between them. -/
theorem length_writeGroups {widths : List Nat} {digits : List (Fin 16)}
    (whole : digits.length = widths.sum) :
    (writeGroups widths digits).length = widths.sum + (widths.length - 1) := by
  induction widths generalizing digits with
  | nil => rfl
  | cons width more ih =>
      rw [List.sum_cons] at whole
      cases more with
      | nil => simp [writeGroups, whole]
      | cons next later =>
          have rest : (digits.drop width).length = (next :: later).sum := by
            rw [List.length_drop]
            omega
          have written := ih rest
          simp only [writeGroups, List.length_append, List.length_map, List.length_take,
            List.length_cons, written, List.sum_cons] at whole ⊢
          omega

theorem joinGroups?_writeGroups {widths : List Nat} {digits : List (Fin 16)}
    (whole : digits.length = widths.sum) :
    joinGroups? widths (writeGroups widths digits) = some (digits.map Hex.digit) := by
  induction widths generalizing digits with
  | nil =>
      rw [List.length_eq_zero_iff.mp whole]
      rfl
  | cons width more ih =>
      rw [List.sum_cons] at whole
      cases more with
      | nil =>
          have all : digits.take width = digits := List.take_of_length_le (by simp [whole])
          simp [writeGroups, joinGroups?, all, whole]
      | cons next later =>
          have rest : (digits.drop width).length = (next :: later).sum := by
            rw [List.length_drop]
            omega
          have first : ((digits.take width).map Hex.digit).length = width := by
            rw [List.length_map, List.length_take]
            omega
          have joined := ih rest
          simp only [writeGroups, joinGroups?, List.drop_left' first, List.take_left' first, joined,
            Option.map_some, ← List.map_append, List.take_append_drop]

/-- The digit that a UUID begins with is not the beginning of another spelling. -/
theorem digit_ne (digit : Fin 16) :
    (Hex.digit digit).toLower ≠ 'u' ∧ Hex.digit digit ≠ '{' := by
  revert digit
  decide

theorem not_urn {c : Char} {rest : List Char} (other : c.toLower ≠ 'u') :
    ((c :: rest).take 9).map Char.toLower ≠ urnStart := by
  have start : urnStart = 'u' :: "rn:uuid:".toList := by decide
  rw [start, List.take_succ_cons, List.map_cons]
  intro same
  exact other (List.cons.inj same).1

/-- A text as long as the hyphenated form that begins like it is read as it. -/
theorem parse?_of_begins {text : String} {c : Char} {rest : List Char}
    (begins : text.toList = c :: rest) (long : text.toList.length = 36)
    (noUrn : c.toLower ≠ 'u') (noBrace : c ≠ '{') : parse? text = ofHyphenated? text.toList := by
  simp only [parse?, long]
  rw [if_neg (by decide), begins, if_neg (not_urn noUrn)]
  split
  next same => exact absurd (List.cons.inj same).1 noBrace
  next => rfl

theorem writeGroups_eq_cons {digits : List (Fin 16)} (whole : digits.length = groups.sum) :
    ∃ digit rest, writeGroups groups digits = Hex.digit digit :: rest := by
  cases digits with
  | nil => cases whole
  | cons digit later => exact ⟨digit, _, by simp only [groups, writeGroups]; rfl⟩

theorem parse?_text (uuid : Uuid) : parse? uuid.text = some uuid := by
  obtain ⟨digits, length⟩ := uuid
  have whole : digits.length = groups.sum := length
  have longer : (writeGroups groups digits).length = 36 :=
    (length_writeGroups whole).trans (by decide)
  have read : ofHyphenated? (writeGroups groups digits) = some ⟨digits, length⟩ := by
    rw [ofHyphenated?, joinGroups?_writeGroups whole, Option.bind_eq_bind, Option.bind_some,
      Hex.values_digits, Option.bind_eq_bind, Option.bind_some, ofDigits?, dif_pos length]
  have chars : (text ⟨digits, length⟩).toList = writeGroups groups digits := by
    rw [text, String.toList_ofList]
  rcases writeGroups_eq_cons whole with ⟨digit, rest, begins⟩
  rw [parse?_of_begins (chars.trans begins) (chars ▸ longer) (digit_ne digit).1 (digit_ne digit).2,
    chars]
  exact read

end Uuid

end ConversationBus
