import ConversationBus.Text.Decimal

/-!
# Numerals that are read back

What is written in decimal is a row of digits that stands for the number. A reader that takes as
many digits as were written, or meets something else after them, gives the number back.
-/

namespace ConversationBus.Decimal

/-- A text that does not go on with a digit. -/
def Ended (text : List Char) : Prop :=
  ∀ c rest, text = c :: rest → Text.isDigit c = false

theorem isDigit_eq (c : Char) : Text.isDigit c = c.isDigit := rfl

theorem isBlank_of_isDigit {c : Char} (digit : Text.isDigit c = true) : Text.isBlank c = false := by
  simp only [Text.isDigit, Bool.and_eq_true, decide_eq_true_eq, Char.le_def,
    UInt32.le_iff_toNat_le] at digit
  have low : 0x30 ≤ c.toNat := digit.1
  have high : c.toNat ≤ 0x39 := digit.2
  simp only [Text.isBlank, Bool.or_eq_false_iff, Bool.and_eq_false_iff, decide_eq_false_iff_not,
    beq_eq_false_iff_ne]
  omega

theorem isDigit_of_mem_digits {number : Nat} {c : Char} (member : c ∈ digits number) :
    Text.isDigit c = true := by
  rw [isDigit_eq]
  exact Nat.isDigit_of_mem_toDigits (by decide) (by decide) member

theorem digits_ne_nil (number : Nat) : digits number ≠ [] :=
  Nat.toDigits_ne_nil

@[simp] theorem value_digits (number : Nat) : value (digits number) = number :=
  Nat.ofDigitChars_toDigits (by decide) (by decide)

theorem isDigit_of_mem_padded {width number : Nat} {c : Char} (member : c ∈ padded width number) :
    Text.isDigit c = true := by
  rcases List.mem_append.mp member with zero | digit
  · rw [List.eq_of_mem_replicate zero]
    decide
  · exact isDigit_of_mem_digits digit

@[simp] theorem value_padded (width number : Nat) : value (padded width number) = number := by
  simp only [value, padded, Nat.ofDigitChars_append, Nat.ofDigitChars_replicate_zero, Nat.mul_zero]
  exact value_digits number

theorem length_padded {width number : Nat} (fits : number < Nat.pow 10 width) (wide : 0 < width) :
    (padded width number).length = width := by
  have short : (digits number).length ≤ width :=
    (Nat.length_toDigits_le_iff (by decide) wide).mpr fits
  simp only [padded, List.length_append, List.length_replicate]
  omega

/-- A row of digits is split off whole where it is as long as it may be, or ends by itself. -/
theorem splitRow_append {most : Nat} {row rest : List Char}
    (digits : ∀ c ∈ row, Text.isDigit c = true) (fits : row.length ≤ most)
    (stops : row.length = most ∨ Ended rest) : splitRow most (row ++ rest) = (row, rest) := by
  induction row generalizing most with
  | nil =>
      cases most with
      | zero => rfl
      | succ most =>
          cases rest with
          | nil => rfl
          | cons c rest =>
              have other : Text.isDigit c = false := by
                rcases stops with short | ended
                · cases short
                · exact ended c rest rfl
              simp [splitRow, other]
  | cons c row ih =>
      cases most with
      | zero => cases fits
      | succ most =>
          have split := ih (fun d member => digits d (List.mem_cons_of_mem c member))
            (Nat.le_of_succ_le_succ fits) (stops.imp_left Nat.succ.inj)
          simp [splitRow, digits c List.mem_cons_self, split]

theorem readRow_append {least most : Nat} {row rest : List Char}
    (digits : ∀ c ∈ row, Text.isDigit c = true) (long : least ≤ row.length)
    (fits : row.length ≤ most) (stops : row.length = most ∨ Ended rest) :
    readRow least most (row ++ rest) = some (row, rest) := by
  simp [readRow, splitRow_append digits fits stops, Nat.not_lt.mpr long]

theorem padded_eq_cons (width number : Nat) :
    ∃ c row, padded width number = c :: row ∧ Text.isDigit c = true := by
  cases row : padded width number with
  | nil => exact absurd (List.append_eq_nil_iff.mp row).2 (digits_ne_nil number)
  | cons c later => exact ⟨c, later, rfl, isDigit_of_mem_padded (row ▸ List.mem_cons_self)⟩

theorem read_padded_append {least most width number : Nat} {rest : List Char}
    (long : least ≤ (padded width number).length) (fits : (padded width number).length ≤ most)
    (stops : (padded width number).length = most ∨ Ended rest) :
    read least most (padded width number ++ rest) = some (number, rest) := by
  have whole := readRow_append (fun _ => isDigit_of_mem_padded) long fits stops
  simp [read, whole]

/-- A number that was filled up to the width which is read. -/
theorem read_padded {width number : Nat} (rest : List Char) (fits : number < Nat.pow 10 width)
    (wide : 0 < width) :
    read width width (padded width number ++ rest) = some (number, rest) := by
  have length := length_padded fits wide
  exact read_padded_append (Nat.le_of_eq length.symm) (Nat.le_of_eq length) (.inl length)

end ConversationBus.Decimal
