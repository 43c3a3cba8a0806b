import ConversationBus.Message.Validation
import ConversationBus.Proofs.Text.Utf8
import Mathlib.Data.List.TakeWhile

/-!
# Canonical texts

The check of an identifier trims it and compares the numbers of bytes. Here the texts that it
accepts are described by their characters, and each fault that it reports by what is wrong with
them.
-/

namespace ConversationBus

namespace Text

/-! ## Trimming -/

/-- A text with a blank as its first or as its last character. -/
def BlankEdged (text : List Char) : Prop :=
  ∃ c, (text.head? = some c ∨ text.getLast? = some c) ∧ isBlank c

theorem trimEnd_eq_reverse (text : List Char) : trimEnd text = (trimStart text.reverse).reverse :=
  rfl

theorem trimStart_eq_self_iff {text : List Char} :
    trimStart text = text ↔ ∀ c, text.head? = some c → ¬ isBlank c := by
  rw [trimStart, List.dropWhile_eq_self_iff]
  cases text with
  | nil => simp
  | cons c rest => simp

theorem trimEnd_eq_self_iff {text : List Char} :
    trimEnd text = text ↔ ∀ c, text.getLast? = some c → ¬ isBlank c := by
  rw [trimEnd_eq_reverse, List.reverse_eq_iff, trimStart_eq_self_iff, List.head?_reverse]

theorem trimStart_sublist (text : List Char) : (trimStart text).Sublist text :=
  (List.dropWhile_suffix isBlank).sublist

theorem trimEnd_sublist (text : List Char) : (trimEnd text).Sublist text := by
  rw [trimEnd_eq_reverse, ← List.reverse_sublist, List.reverse_reverse]
  exact trimStart_sublist text.reverse

theorem trim_sublist (text : List Char) : (trim text).Sublist text :=
  (trimEnd_sublist _).trans (trimStart_sublist text)

theorem trim_eq_self_iff {text : List Char} : trim text = text ↔ ¬ BlankEdged text := by
  have both : trim text = text ↔ trimStart text = text ∧ trimEnd text = text := by
    constructor
    · intro same
      have fits : (trim text).length ≤ (trimStart text).length := (trimEnd_sublist _).length_le
      rw [same] at fits
      have first : trimStart text = text := (trimStart_sublist text).eq_of_length_le fits
      rw [trim, first] at same
      exact ⟨first, same⟩
    · rintro ⟨first, last⟩
      rw [trim, first, last]
  rw [both, trimStart_eq_self_iff, trimEnd_eq_self_iff, BlankEdged]
  constructor
  · rintro ⟨noFirst, noLast⟩ ⟨c, first | last, blank⟩
    · exact noFirst c first blank
    · exact noLast c last blank
  · intro inner
    exact ⟨fun c first blank => inner ⟨c, .inl first, blank⟩,
      fun c last blank => inner ⟨c, .inr last, blank⟩⟩

/-- Trimming removes bytes from exactly the texts with a blank at an edge. -/
theorem length_encode_trim_ne_iff {text : List Char} :
    (Utf8.encode (trim text)).length ≠ (Utf8.encode text).length ↔ BlankEdged text := by
  rw [← not_iff_not, not_ne_iff, ← trim_eq_self_iff]
  exact ⟨Utf8.eq_of_sublist_of_length_encode (trim_sublist text), fun same => by rw [same]⟩

theorem trim_eq_nil_iff {text : List Char} : trim text = [] ↔ ∀ c ∈ text, isBlank c := by
  rw [trim, trimEnd_eq_reverse, List.reverse_eq_nil_iff, trimStart, List.dropWhile_eq_nil_iff]
  constructor
  · intro blanks c member
    by_contra shown
    -- the first character that trimming keeps is none of the blanks
    have kept : trimStart text ≠ [] := fun none =>
      shown (List.dropWhile_eq_nil_iff.mp none c member)
    have first : isBlank ((trimStart text).head kept) = false :=
      List.head_dropWhile_not isBlank kept
    rw [blanks _ (List.mem_reverse.mpr (List.head_mem kept))] at first
    cases first
  · intro blanks c member
    exact blanks c ((trimStart_sublist text).subset (List.mem_reverse.mp member))

/-- A text with a character that is not blank is not trimmed away. -/
theorem not_isEmpty_trim {text : List Char} (shown : ∃ c ∈ text, ¬ isBlank c) :
    ¬ (trim text).isEmpty := by
  rw [List.isEmpty_iff, trim_eq_nil_iff]
  rcases shown with ⟨c, member, shown⟩
  exact fun blanks => shown (blanks c member)

theorem shown_of_inner {text : List Char} (nonempty : text ≠ []) (inner : ¬ BlankEdged text) :
    ∃ c ∈ text, ¬ isBlank c := by
  refine ⟨text.head nonempty, List.head_mem nonempty, fun blank => ?_⟩
  exact inner ⟨_, .inl (List.head?_eq_some_head nonempty), blank⟩

theorem not_any_isControl {text : List Char} (printable : ∀ c ∈ text, ¬ isControl c) :
    ¬ text.any isControl := by
  simpa only [List.any_eq_true, not_exists, not_and] using printable

end Text

/-! ## The check -/

/-- The texts that identifiers may be. -/
structure Canonical (text : String) : Prop where
  nonempty : text.toList ≠ []
  inner : ¬ Text.BlankEdged text.toList
  printable : ∀ c ∈ text.toList, ¬ Text.isControl c
  short : text.utf8ByteSize ≤ 512

/-- What is wrong with a text that is not canonical. An earlier fault hides the later ones. -/
inductive Flaw (text : String) : FieldFault → Prop where
  | blank (blanks : ∀ c ∈ text.toList, Text.isBlank c) : Flaw text .blank
  | surroundingBlank (shown : ∃ c ∈ text.toList, ¬ Text.isBlank c)
      (edged : Text.BlankEdged text.toList) : Flaw text .surroundingBlank
  | controlCharacter (shown : ∃ c ∈ text.toList, ¬ Text.isBlank c)
      (inner : ¬ Text.BlankEdged text.toList) (control : ∃ c ∈ text.toList, Text.isControl c) :
      Flaw text .controlCharacter
  | tooLong (shown : ∃ c ∈ text.toList, ¬ Text.isBlank c)
      (inner : ¬ Text.BlankEdged text.toList) (printable : ∀ c ∈ text.toList, ¬ Text.isControl c)
      (long : 512 < text.utf8ByteSize) : Flaw text .tooLong

/-- A text is canonical if and only if nothing is wrong with it. -/
theorem canonical_iff {text : String} : Canonical text ↔ ∀ fault, ¬ Flaw text fault := by
  constructor
  · intro canonical fault flaw
    have shown := Text.shown_of_inner canonical.nonempty canonical.inner
    cases flaw with
    | blank blanks =>
        rcases shown with ⟨c, member, shown⟩
        exact shown (blanks c member)
    | surroundingBlank _ edged => exact canonical.inner edged
    | controlCharacter _ _ control =>
        rcases control with ⟨c, member, control⟩
        exact canonical.printable c member control
    | tooLong _ _ _ long => exact absurd canonical.short (by omega)
  · intro sound
    have shown : ∃ c ∈ text.toList, ¬ Text.isBlank c := by
      by_contra none
      refine sound .blank (.blank fun c member => ?_)
      by_contra shown
      exact none ⟨c, member, shown⟩
    have inner : ¬ Text.BlankEdged text.toList := fun edged =>
      sound _ (.surroundingBlank shown edged)
    have printable : ∀ c ∈ text.toList, ¬ Text.isControl c := fun c member control =>
      sound _ (.controlCharacter shown inner ⟨c, member, control⟩)
    rcases shown with ⟨c, member, plain⟩
    refine ⟨List.ne_nil_of_mem member, inner, printable, ?_⟩
    by_contra long
    exact sound _ (.tooLong ⟨c, member, plain⟩ inner printable (by omega))

theorem checkCanonical_of_flaw {text : String} {fault : FieldFault} (flaw : Flaw text fault)
    (field : String) : checkCanonical field text = .error (.invalidField field fault) := by
  rw [checkCanonical]
  cases flaw with
  | blank blanks => rw [if_pos (List.isEmpty_iff.mpr (Text.trim_eq_nil_iff.mpr blanks))]
  | surroundingBlank shown edged =>
      rw [if_neg (Text.not_isEmpty_trim shown), if_pos (Text.length_encode_trim_ne_iff.mpr edged)]
  | controlCharacter shown inner control =>
      rw [if_neg (Text.not_isEmpty_trim shown), if_neg (mt Text.length_encode_trim_ne_iff.mp inner),
        if_pos (List.any_eq_true.mpr control)]
  | tooLong shown inner printable long =>
      rw [if_neg (Text.not_isEmpty_trim shown), if_neg (mt Text.length_encode_trim_ne_iff.mp inner),
        if_neg (Text.not_any_isControl printable),
        if_pos (show greatestCanonicalLength < text.utf8ByteSize from long)]

theorem checkCanonical_of_canonical {text : String} (canonical : Canonical text)
    (field : String) : checkCanonical field text = .ok () := by
  have shown := Text.shown_of_inner canonical.nonempty canonical.inner
  have short : ¬ greatestCanonicalLength < text.utf8ByteSize := Nat.not_lt.mpr canonical.short
  rw [checkCanonical, if_neg (Text.not_isEmpty_trim shown),
    if_neg (mt Text.length_encode_trim_ne_iff.mp canonical.inner),
    if_neg (Text.not_any_isControl canonical.printable), if_neg short]

theorem canonical_or_flaw (text : String) : Canonical text ∨ ∃ fault, Flaw text fault := by
  by_cases canonical : Canonical text
  · exact .inl canonical
  · rw [canonical_iff, not_forall_not] at canonical
    exact .inr canonical

/-- The check accepts exactly the canonical texts. -/
theorem checkCanonical_eq_ok_iff {field text : String} :
    checkCanonical field text = .ok () ↔ Canonical text := by
  refine ⟨fun accepted => ?_, fun canonical => checkCanonical_of_canonical canonical field⟩
  rcases canonical_or_flaw text with canonical | ⟨fault, flaw⟩
  · exact canonical
  · rw [checkCanonical_of_flaw flaw] at accepted
    cases accepted

/-- The check reports what is wrong with a text, under the name of the field. -/
theorem checkCanonical_eq_error_iff {field text : String} {error : ValidationError} :
    checkCanonical field text = .error error ↔
      ∃ fault, Flaw text fault ∧ error = .invalidField field fault := by
  constructor
  · intro refused
    rcases canonical_or_flaw text with canonical | ⟨fault, flaw⟩
    · rw [checkCanonical_of_canonical canonical] at refused
      cases refused
    · rw [checkCanonical_of_flaw flaw] at refused
      exact ⟨fault, flaw, (Except.error.inj refused).symm⟩
  · rintro ⟨fault, flaw, rfl⟩
    exact checkCanonical_of_flaw flaw field

/-! ## The reasons in words -/

/-- The check refuses a text, in the name of a field and for a reason that is given in words. -/
def RefusedFor (field text reason : String) : Prop :=
  ∃ fault, checkCanonical field text = .error (.invalidField field fault) ∧ fault.reason = reason

/-- The faults that the check reports. -/
def canonicalFaults : List FieldFault :=
  [.blank, .surroundingBlank, .controlCharacter, .tooLong]

theorem Flaw.mem_canonicalFaults {text : String} {fault : FieldFault} (flaw : Flaw text fault) :
    fault ∈ canonicalFaults := by
  cases flaw <;> decide

/-- The words tell the faults apart. -/
theorem eq_of_reason_eq : ∀ first ∈ canonicalFaults, ∀ second ∈ canonicalFaults,
    first.reason = second.reason → first = second := by
  decide +kernel

theorem refusedFor_reason_iff {field text : String} {fault : FieldFault}
    (reported : fault ∈ canonicalFaults) :
    RefusedFor field text fault.reason ↔ Flaw text fault := by
  constructor
  · rintro ⟨other, refused, words⟩
    rcases checkCanonical_eq_error_iff.mp refused with ⟨found, flaw, same⟩
    cases same
    rwa [← eq_of_reason_eq other flaw.mem_canonicalFaults fault reported words]
  · exact fun flaw => ⟨fault, checkCanonical_of_flaw flaw field, rfl⟩

/-- The check of an identifier, told by the characters of the text. It accepts the texts that are
not empty, have no blank at an edge and no control character, and take up at most 512 bytes. Of
what is wrong with any other text it gives the first in the order of the reasons below. -/
theorem checkCanonical_decides (field text : String) :
    (checkCanonical field text = .ok () ↔
      text ≠ "" ∧ ¬ Text.BlankEdged text.toList ∧ (∀ c ∈ text.toList, ¬ Text.isControl c) ∧
        (Utf8.encodeText text).length ≤ 512) ∧
      (RefusedFor field text "must not be empty" ↔ ∀ c ∈ text.toList, Text.isBlank c) ∧
      (RefusedFor field text "must not have leading or trailing whitespace" ↔
        (∃ c ∈ text.toList, ¬ Text.isBlank c) ∧ Text.BlankEdged text.toList) ∧
      (RefusedFor field text "must not contain control characters" ↔
        (∃ c ∈ text.toList, ¬ Text.isBlank c) ∧ ¬ Text.BlankEdged text.toList ∧
          ∃ c ∈ text.toList, Text.isControl c) ∧
      (RefusedFor field text "must be at most 512 bytes" ↔
        (∃ c ∈ text.toList, ¬ Text.isBlank c) ∧ ¬ Text.BlankEdged text.toList ∧
          (∀ c ∈ text.toList, ¬ Text.isControl c) ∧ 512 < (Utf8.encodeText text).length) := by
  have bytes : (Utf8.encodeText text).length = text.utf8ByteSize := Utf8.length_encode_toList text
  have limit : FieldFault.tooLong.reason = "must be at most 512 bytes" := by decide +kernel
  rw [bytes, ← limit]
  have refused (fault : FieldFault) (reported : fault ∈ canonicalFaults) :
      RefusedFor field text fault.reason ↔ Flaw text fault := refusedFor_reason_iff reported
  refine ⟨checkCanonical_eq_ok_iff.trans ?accepted, (refused .blank (by decide)).trans ?blank,
    (refused .surroundingBlank (by decide)).trans ?surrounded,
    (refused .controlCharacter (by decide)).trans ?control,
    (refused .tooLong (by decide)).trans ?long⟩
  case accepted =>
    rw [ne_eq, ← String.toList_eq_nil_iff]
    exact ⟨fun canonical => ⟨canonical.nonempty, canonical.inner, canonical.printable,
      canonical.short⟩, fun ⟨nonempty, inner, printable, short⟩ =>
      ⟨nonempty, inner, printable, short⟩⟩
  case blank => exact ⟨fun (.blank blanks) => blanks, .blank⟩
  case surrounded =>
    exact ⟨fun (.surroundingBlank shown edged) => ⟨shown, edged⟩,
      fun ⟨shown, edged⟩ => .surroundingBlank shown edged⟩
  case control =>
    exact ⟨fun (.controlCharacter shown inner control) => ⟨shown, inner, control⟩,
      fun ⟨shown, inner, control⟩ => .controlCharacter shown inner control⟩
  case long =>
    exact ⟨fun (.tooLong shown inner printable long) => ⟨shown, inner, printable, long⟩,
      fun ⟨shown, inner, printable, long⟩ => .tooLong shown inner printable long⟩

/-- U+0085 is both a blank and a control character; at an edge it counts as a blank. -/
example : checkCanonical "id" "a\u0085" = .error (.invalidField "id" .surroundingBlank) := by
  decide +kernel

end ConversationBus
