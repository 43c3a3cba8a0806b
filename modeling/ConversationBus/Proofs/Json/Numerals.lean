import ConversationBus.Json.Value
import ConversationBus.Proofs.Text.Decimal
import ConversationBus.Proofs.Text.Utf8

/-!
# Numerals

The texts of numbers by their parts, and that the reader of numbers takes exactly these off its
input. Integers and doubles are written as numerals, whatever digits the latter are given.
-/

namespace ConversationBus.Json

open Utf8

@[simp] theorem glyphs_nil : glyphs [] = [] := rfl

@[simp] theorem glyphs_cons (c : Char) (text : List Char) :
    glyphs (c :: text) = .char c :: glyphs text := rfl

@[simp] theorem glyphs_append (front back : List Char) :
    glyphs (front ++ back) = glyphs front ++ glyphs back :=
  List.map_append

/-! ## Where numbers end -/

/-- An input that does not go on with a digit. -/
def Stops (input : List Glyph) : Prop :=
  ∀ c rest, input = .char c :: rest → Text.isDigit c = false

/-- An input that does not go on with a part of a number. -/
def Ended (input : List Glyph) : Prop :=
  ∀ c rest, input = .char c :: rest → Text.isDigit c = false ∧ c ≠ '.' ∧ c ≠ 'e' ∧ c ≠ 'E'

theorem stops_cons {c : Char} (other : Text.isDigit c = false) (rest : List Glyph) :
    Stops (.char c :: rest) := by
  rintro d later same
  cases same
  exact other

theorem ended_nil : Ended [] := by
  simp [Ended]

theorem ended_cons {c : Char} {rest : List Glyph}
    (other : Text.isDigit c = false ∧ c ≠ '.' ∧ c ≠ 'e' ∧ c ≠ 'E') : Ended (.char c :: rest) := by
  rintro d later same
  cases same
  exact other

theorem Ended.stops {input : List Glyph} (ended : Ended input) : Stops input :=
  fun c rest same => (ended c rest same).1

/-! ## The parts of a numeral -/

/-- At least one digit. -/
structure Row (row : List Char) : Prop where
  nonempty : row ≠ []
  digits : ∀ c ∈ row, Text.isDigit c = true

/-- The digits before the point. A leading zero stands alone. -/
structure WholeRow (row : List Char) : Prop extends Row row where
  leads : ∀ c later, row ≠ '0' :: c :: later

/-- The texts of a fraction, and its digits. -/
inductive Fraction : List Char → List Char → Prop where
  | absent : Fraction [] []
  | present {row : List Char} (digits : Row row) : Fraction ('.' :: row) row

/-- The texts of a sign, and whether it negates. -/
inductive Sign : List Char → Bool → Prop where
  | absent : Sign [] false
  | plus : Sign ['+'] false
  | minus : Sign ['-'] true

/-- The texts of an exponent, and its sign and digits. -/
inductive Exponent : List Char → Option (Bool × List Char) → Prop where
  | absent : Exponent [] none
  | present {mark : Char} {sign row : List Char} {negative : Bool} (marked : mark = 'e' ∨ mark = 'E')
      (signed : Sign sign negative) (digits : Row row) :
      Exponent (mark :: (sign ++ row)) (some (negative, row))

/-- The texts of a number, and the literal that they stand for. -/
inductive Numeral : List Char → Literal → Prop where
  | of {text fraction exponent : List Char} {literal : Literal} (whole : WholeRow literal.whole)
      (fractional : Fraction fraction literal.fraction)
      (exponential : Exponent exponent literal.exponent)
      (spelled : text = (if literal.negative then ['-'] else []) ++
        (literal.whole ++ (fraction ++ exponent))) :
      Numeral text literal

theorem Row.begins {row : List Char} (digits : Row row) :
    ∃ c later, row = c :: later ∧ Text.isDigit c = true := by
  cases row with
  | nil => exact absurd rfl digits.nonempty
  | cons c later => exact ⟨c, later, rfl, digits.digits c List.mem_cons_self⟩

theorem WholeRow.take {row : List Char} (whole : WholeRow row) {count : Nat} (some : 0 < count) :
    WholeRow (row.take count) where
  nonempty empty := by
    rcases List.take_eq_nil_iff.mp empty with zero | empty
    · omega
    · exact whole.nonempty empty
  digits c member := whole.digits c (List.mem_of_mem_take member)
  leads c later same := by
    have parts := List.take_append_drop count row
    rw [same] at parts
    exact whole.leads c (later ++ row.drop count) parts.symm

theorem Row.drop {row : List Char} (digits : Row row) {count : Nat} (short : count < row.length) :
    Row (row.drop count) where
  nonempty empty := by
    have covered := List.drop_eq_nil_iff.mp empty
    omega
  digits c member := digits.digits c (List.mem_of_mem_drop member)

theorem Row.zeros {row : List Char} (digits : Row row) (front back : Nat) :
    Row (List.replicate front '0' ++ (row ++ List.replicate back '0')) where
  nonempty := by simp [digits.nonempty]
  digits c member := by
    rcases List.mem_append.mp member with zero | member
    · rw [List.eq_of_mem_replicate zero]
      rfl
    rcases List.mem_append.mp member with digit | zero
    · exact digits.digits c digit
    · rw [List.eq_of_mem_replicate zero]
      rfl

theorem Numeral.begins {text : List Char} {literal : Literal} (numeral : Numeral text literal) :
    ∃ c later, text = c :: later ∧ (c = '-' ∨ Text.isDigit c = true) := by
  cases numeral with
  | of whole _ _ spelled =>
      rcases whole.begins with ⟨c, later, row, digit⟩
      rw [row] at spelled
      cases negative : literal.negative with
      | true =>
          rw [negative] at spelled
          exact ⟨'-', _, spelled, .inl rfl⟩
      | false =>
          rw [negative] at spelled
          exact ⟨c, _, spelled, .inr digit⟩

/-! ## Reading -/

section Reading

variable {input rest : List Glyph} {row : List Char} {literal : Literal}

theorem splitDigits_append (digits : ∀ c ∈ row, Text.isDigit c = true) (stops : Stops rest) :
    splitDigits (glyphs row ++ rest) = (row, rest) := by
  induction row with
  | nil =>
      cases rest with
      | nil => rfl
      | cons glyph rest =>
          cases glyph with
          | junk byte => rfl
          | char c => simp [splitDigits, stops c rest rfl]
  | cons c row ih =>
      have split := ih fun d member => digits d (List.mem_cons_of_mem c member)
      simp [splitDigits, digits c List.mem_cons_self, split]

theorem digits_of_splitDigits (split : splitDigits input = (row, rest)) :
    (∀ c ∈ row, Text.isDigit c = true) ∧ input = glyphs row ++ rest := by
  fun_induction splitDigits input generalizing row with
  | case1 c later digit front after found ih =>
      cases split
      rcases ih found with ⟨digits, rfl⟩
      exact ⟨List.forall_mem_cons.mpr ⟨digit, digits⟩, rfl⟩
  | case2 | case3 =>
      cases split
      exact ⟨nofun, rfl⟩

theorem readDigits_row (digits : Row row) (stops : Stops rest) :
    readDigits (glyphs row ++ rest) = some (row, rest) := by
  rw [readDigits, splitDigits_append digits.digits stops]
  split
  next same => exact absurd (congrArg Prod.fst same) digits.nonempty
  next => rfl

theorem row_of_readDigits (read : readDigits input = some (row, rest)) :
    Row row ∧ input = glyphs row ++ rest := by
  rw [readDigits] at read
  split at read
  next => cases read
  next some =>
    rcases digits_of_splitDigits (Option.some.inj read) with ⟨digits, whole⟩
    refine ⟨⟨?_, digits⟩, whole⟩
    rintro rfl
    exact some rest (Option.some.inj read)

theorem readWhole_row (whole : WholeRow row) (stops : Stops rest) :
    readWhole (glyphs row ++ rest) = some (row, rest) := by
  rw [readWhole, readDigits_row whole.toRow stops]
  split
  next same => exact absurd (congrArg Prod.fst (Option.some.inj same)) (whole.leads _ _)
  next => rfl

theorem whole_of_readWhole (read : readWhole input = some (row, rest)) :
    WholeRow row ∧ input = glyphs row ++ rest := by
  rw [readWhole] at read
  split at read
  next => cases read
  next other =>
    rcases row_of_readDigits read with ⟨digits, whole⟩
    refine ⟨⟨digits, ?_⟩, whole⟩
    rintro c later rfl
    exact other c later rest read

theorem readFraction_text {text : List Char} (fraction : Fraction text row) (stops : Stops rest)
    (noPoint : ∀ later, rest ≠ .char '.' :: later) :
    readFraction (glyphs text ++ rest) = some (row, rest) := by
  cases fraction with
  | absent =>
      rw [glyphs_nil, List.nil_append, readFraction.eq_def]
      split
      next later => exact absurd rfl (noPoint later)
      next => rfl
  | present digits =>
      rw [glyphs_cons, List.cons_append, readFraction, readDigits_row digits stops]

theorem fraction_of_readFraction (read : readFraction input = some (row, rest)) :
    ∃ text, Fraction text row ∧ input = glyphs text ++ rest := by
  rw [readFraction.eq_def] at read
  split at read
  next later =>
    rcases row_of_readDigits read with ⟨digits, rfl⟩
    exact ⟨'.' :: row, .present digits, rfl⟩
  next =>
    cases read
    exact ⟨[], .absent, rfl⟩

def readSign : List Glyph → Bool × List Glyph
  | .char '-' :: rest => (true, rest)
  | .char '+' :: rest => (false, rest)
  | rest => (false, rest)

theorem readSign_digit {sign : List Char} {negative : Bool} {c : Char} (signed : Sign sign negative)
    (digit : Text.isDigit c = true) :
    readSign (glyphs sign ++ .char c :: rest) = (negative, .char c :: rest) := by
  cases signed with
  | plus | minus => rfl
  | absent =>
      rw [glyphs_nil, List.nil_append, readSign.eq_def]
      split
      next same =>
        cases same
        cases digit
      next same =>
        cases same
        cases digit
      next => rfl

theorem sign_of_readSign (input : List Glyph) :
    ∃ sign, Sign sign (readSign input).1 ∧ input = glyphs sign ++ (readSign input).2 := by
  rw [readSign.eq_def]
  split
  · exact ⟨['-'], .minus, rfl⟩
  · exact ⟨['+'], .plus, rfl⟩
  · exact ⟨[], .absent, rfl⟩

theorem readExponent_mark {mark : Char} (marked : mark = 'e' ∨ mark = 'E') (input : List Glyph) :
    readExponent (.char mark :: input) =
      (readDigits (readSign input).2).map fun (row, rest) =>
        (some ((readSign input).1, row), rest) := by
  simp only [readExponent, marked, if_true]
  rfl

theorem readExponent_text {text : List Char} {exponent : Option (Bool × List Char)}
    (exponential : Exponent text exponent) (ended : Ended rest) :
    readExponent (glyphs text ++ rest) = some (exponent, rest) := by
  cases exponential with
  | absent =>
      cases rest with
      | nil => rfl
      | cons glyph rest =>
          cases glyph with
          | junk byte => rfl
          | char c =>
              have other := ended c rest rfl
              simp [readExponent, other.2.2.1, other.2.2.2]
  | present marked signed digits =>
      have read := readDigits_row digits ended.stops
      rcases digits.begins with ⟨c, later, rfl, digit⟩
      rw [glyphs_cons, List.cons_append] at read
      rw [glyphs_cons, glyphs_append, glyphs_cons, List.cons_append, List.append_assoc,
        List.cons_append, readExponent_mark marked, readSign_digit signed digit, read,
        Option.map_some]

theorem exponent_of_readExponent {exponent : Option (Bool × List Char)}
    (read : readExponent input = some (exponent, rest)) :
    ∃ text, Exponent text exponent ∧ input = glyphs text ++ rest := by
  cases input with
  | nil =>
      cases read
      exact ⟨[], .absent, rfl⟩
  | cons glyph later =>
      cases glyph with
      | junk byte =>
          cases read
          exact ⟨[], .absent, rfl⟩
      | char c =>
          by_cases marked : c = 'e' ∨ c = 'E'
          · rw [readExponent_mark marked] at read
            rcases Option.map_eq_some_iff.mp read with ⟨⟨row, after⟩, digits, same⟩
            cases same
            rcases sign_of_readSign later with ⟨sign, signed, front⟩
            rcases row_of_readDigits digits with ⟨digits, found⟩
            refine ⟨c :: (sign ++ row), .present marked signed digits, ?_⟩
            rw [glyphs_cons, glyphs_append, List.cons_append, List.append_assoc, ← found, ← front]
          · simp only [readExponent, marked, if_false] at read
            cases read
            exact ⟨[], .absent, rfl⟩

/-- Reads a number after its sign. -/
def readUnsigned (negative : Bool) (input : List Glyph) : Option (Literal × List Glyph) := do
  let (whole, input) ← readWhole input
  let (fraction, input) ← readFraction input
  let (exponent, input) ← readExponent input
  some ({ negative, whole, fraction, exponent }, input)

theorem readNumber_minus (input : List Glyph) :
    readNumber (.char '-' :: input) = readUnsigned true input :=
  rfl

theorem readNumber_unsigned (unsigned : ∀ later, input ≠ .char '-' :: later) :
    readNumber input = readUnsigned false input := by
  rw [readNumber.eq_def]
  split
  next found =>
    split at found
    next later => exact absurd rfl (unsigned later)
    next =>
      cases found
      rfl

theorem Exponent.follows {text : List Char} {exponent : Option (Bool × List Char)}
    (exponential : Exponent text exponent) (ended : Ended rest) :
    Stops (glyphs text ++ rest) ∧ ∀ later, glyphs text ++ rest ≠ .char '.' :: later := by
  cases exponential with
  | absent => exact ⟨ended.stops, fun later same => (ended '.' later same).2.1 rfl⟩
  | present marked =>
      rcases marked with rfl | rfl
      all_goals exact ⟨stops_cons rfl _, nofun⟩

theorem Fraction.follows {text : List Char} (fractional : Fraction text row) (stops : Stops rest) :
    Stops (glyphs text ++ rest) := by
  cases fractional with
  | absent => exact stops
  | present => exact stops_cons rfl _

theorem readUnsigned_parts {fraction exponent : List Char} (whole : WholeRow literal.whole)
    (fractional : Fraction fraction literal.fraction)
    (exponential : Exponent exponent literal.exponent) (ended : Ended rest) :
    readUnsigned literal.negative
        (glyphs (literal.whole ++ (fraction ++ exponent)) ++ rest) = some (literal, rest) := by
  rcases exponential.follows ended with ⟨stops, noPoint⟩
  have readFront := readWhole_row whole (fractional.follows stops)
  have readMiddle := readFraction_text fractional stops noPoint
  have readTail := readExponent_text exponential ended
  rw [glyphs_append, glyphs_append, List.append_assoc, List.append_assoc]
  simp only [readUnsigned, readFront, readMiddle, readTail, Option.bind_eq_bind, Option.bind_some]

/-- A numeral is read whole when what comes after it is no part of a number. -/
theorem readNumber_numeral {text : List Char} (numeral : Numeral text literal)
    (ended : Ended rest) : readNumber (glyphs text ++ rest) = some (literal, rest) := by
  cases numeral with
  | of whole fractional exponential spelled =>
      have read := readUnsigned_parts whole fractional exponential ended
      subst spelled
      cases negative : literal.negative with
      | true =>
          rw [negative] at read
          exact read
      | false =>
          rw [negative] at read
          refine Eq.trans (readNumber_unsigned ?_) read
          rcases whole.begins with ⟨c, later, row, digit⟩
          rw [row]
          rintro more same
          cases same
          cases digit

theorem numeral_of_readUnsigned {negative : Bool}
    (read : readUnsigned negative input = some (literal, rest)) :
    ∃ fraction exponent, WholeRow literal.whole ∧ Fraction fraction literal.fraction ∧
      Exponent exponent literal.exponent ∧ literal.negative = negative ∧
      input = glyphs (literal.whole ++ (fraction ++ exponent)) ++ rest := by
  simp only [readUnsigned, Option.bind_eq_bind, Option.bind_eq_some_iff, Prod.exists] at read
  rcases read with ⟨whole, middle, front, fraction, tail, next, exponent, after, last, same⟩
  cases same
  rcases whole_of_readWhole front with ⟨digits, rfl⟩
  rcases fraction_of_readFraction next with ⟨fraction, fractional, rfl⟩
  rcases exponent_of_readExponent last with ⟨exponent, exponential, rfl⟩
  exact ⟨fraction, exponent, digits, fractional, exponential, rfl, by simp⟩

theorem numeral_of_readNumber (read : readNumber input = some (literal, rest)) :
    ∃ text, Numeral text literal ∧ input = glyphs text ++ rest := by
  by_cases minus : ∃ later, input = .char '-' :: later
  · rcases minus with ⟨later, rfl⟩
    rcases numeral_of_readUnsigned (readNumber_minus later ▸ read) with
      ⟨fraction, exponent, whole, fractional, exponential, negative, rfl⟩
    refine ⟨_, .of whole fractional exponential rfl, ?_⟩
    rw [negative]
    rfl
  · rw [readNumber_unsigned fun later same => minus ⟨later, same⟩] at read
    rcases numeral_of_readUnsigned read with
      ⟨fraction, exponent, whole, fractional, exponential, negative, rfl⟩
    refine ⟨_, .of whole fractional exponential rfl, ?_⟩
    rw [negative]
    rfl

end Reading

/-! ## Writing -/

/-- A number is not written with a leading zero, unless it is zero. -/
theorem digits_zero_cons {number : Nat} {c : Char} {row : List Char} :
    Decimal.digits number ≠ '0' :: c :: row := by
  induction number using Nat.strongRecOn generalizing c row with
  | _ number ih =>
      rw [Decimal.digits, Nat.toDigits_eq_if (by decide)]
      split
      next => simp
      next large =>
        have smaller : number / 10 < number := by omega
        intro same
        cases digits : Decimal.digits (number / 10) with
        | nil => exact Decimal.digits_ne_nil _ digits
        | cons d later =>
            rw [← Decimal.digits, digits, List.cons_append, List.cons.injEq] at same
            cases later with
            | cons e later => exact ih _ smaller (same.1 ▸ digits)
            | nil =>
                -- A lone zero stands for nothing, and what is before the last digit does not.
                have value := Decimal.value_digits (number / 10)
                rw [digits, same.1] at value
                have zero : Decimal.value ['0'] = 0 := rfl
                omega

theorem row_digits (number : Nat) : Row (Decimal.digits number) where
  nonempty := Decimal.digits_ne_nil number
  digits _ := Decimal.isDigit_of_mem_digits

theorem whole_digits (number : Nat) : WholeRow (Decimal.digits number) where
  toRow := row_digits number
  leads _ _ := digits_zero_cons

/-- An integer as it is written. -/
def Literal.ofInt (value : Int) : Literal :=
  { negative := value < 0, whole := Decimal.digits value.natAbs, fraction := [], exponent := none }

theorem numeral_signed (value : Int) : Numeral (Decimal.signed value) (.ofInt value) := by
  refine .of (whole_digits value.natAbs) .absent .absent ?_
  by_cases negative : value < 0
  · simp [Literal.ofInt, Decimal.signed, negative]
  · simp [Literal.ofInt, Decimal.signed, negative]

@[simp] theorem Literal.integer?_ofInt (value : Int) :
    (Literal.ofInt value).integer? = some value := by
  simp only [Literal.integer?, Literal.ofInt, ne_eq, not_true, or_self, if_false,
    Decimal.value_digits, decide_eq_true_eq]
  split
  next negative =>
    rw [if_neg (by omega)]
    exact congrArg some (by omega)
  next => exact congrArg some (by omega)

theorem row_zero : Row ['0'] where
  nonempty := nofun
  digits := List.forall_mem_singleton.mpr rfl

theorem whole_zero : WholeRow ['0'] where
  toRow := row_zero
  leads _ _ := nofun

/-- Zeros after a number that is not zero. -/
theorem whole_zeros {digits zeros : Nat} (leads : digits = 0 → zeros = 0) :
    WholeRow (Decimal.digits digits ++ List.replicate zeros '0') where
  toRow := (row_digits digits).zeros 0 zeros
  leads c later same := by
    cases row : Decimal.digits digits with
    | nil => exact Decimal.digits_ne_nil digits row
    | cons d more =>
        rw [row, List.cons_append, List.cons.injEq] at same
        cases more with
        | cons e more => exact digits_zero_cons (same.1 ▸ row)
        | nil =>
            have value := Decimal.value_digits digits
            rw [row, same.1] at value
            have none := leads value.symm
            simp [none] at same

theorem exponent_signed (value : Int) :
    Exponent ('e' :: Decimal.signed value) (some (value < 0, Decimal.digits value.natAbs)) := by
  by_cases negative : value < 0
  · simpa [Decimal.signed, negative] using
      Exponent.present (.inl rfl) .minus (row_digits value.natAbs)
  · simpa [Decimal.signed, negative] using
      Exponent.present (.inl rfl) .absent (row_digits value.natAbs)

end ConversationBus.Json
