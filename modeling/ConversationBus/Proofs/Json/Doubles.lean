import ConversationBus.Proofs.Json.Numerals

/-!
# Doubles as numerals

Whatever digits a double is given, it is written as a numeral: the point falls within them, or zeros
fill the space up to it, or there is an exponent. So the reader of numbers takes every written
number for one.
-/

namespace ConversationBus.Binary64

open Json

/-- A number without its sign, by where the point falls. -/
def unsignedText (digits : Nat) (scale : Int) : List Char :=
  let row := Decimal.digits digits
  let point : Int := row.length + scale
  if 0 ≤ scale ∧ point ≤ 16 then row ++ List.replicate scale.toNat '0' ++ ".0".toList
  else if 0 < point ∧ point ≤ 16 then row.take point.toNat ++ '.' :: row.drop point.toNat
  else if -5 < point ∧ point ≤ 0 then "0.".toList ++ List.replicate point.natAbs '0' ++ row
  else
    let fraction := if row.length = 1 then [] else '.' :: row.drop 1
    row.take 1 ++ fraction ++ 'e' :: Decimal.signed (point - 1)

theorem text_eq {number : Binary64} (nonzero : number.mantissa ≠ 0) :
    number.text = (if number.negative then ['-'] else []) ++
      unsignedText (dropZeros 20 number.shortest).1 (dropZeros 20 number.shortest).2 := by
  simp only [text, nonzero, if_false]
  rfl

/-- The literal of a number without its sign, by where the point falls. -/
def layout (negative : Bool) (digits : Nat) (scale : Int) : Literal :=
  let row := Decimal.digits digits
  let point : Int := row.length + scale
  if 0 ≤ scale ∧ point ≤ 16 then
    { negative, whole := row ++ List.replicate scale.toNat '0', fraction := ['0'], exponent := none }
  else if 0 < point ∧ point ≤ 16 then
    { negative, whole := row.take point.toNat, fraction := row.drop point.toNat, exponent := none }
  else if -5 < point ∧ point ≤ 0 then
    { negative, whole := ['0'], fraction := List.replicate point.natAbs '0' ++ row,
      exponent := none }
  else
    { negative, whole := row.take 1, fraction := row.drop 1,
      exponent := some (point - 1 < 0, Decimal.digits (point - 1).natAbs) }

theorem fraction_drop {row : List Char} (digits : Row row) :
    Fraction (if row.length = 1 then [] else '.' :: row.drop 1) (row.drop 1) := by
  have some := List.length_pos_iff.mpr digits.nonempty
  split
  next single =>
    rw [List.drop_eq_nil_of_le (Nat.le_of_eq single)]
    exact .absent
  next => exact .present (digits.drop (by omega))

/-- The text of a number is a numeral, unless it is a zero with more zeros after it. -/
theorem numeral_layout (negative : Bool) {digits : Nat} {scale : Int}
    (leads : digits = 0 → scale = 0) :
    Numeral ((if negative then ['-'] else []) ++ unsignedText digits scale)
      (layout negative digits scale) := by
  have whole := whole_digits digits
  rw [unsignedText, layout]
  by_cases integral : 0 ≤ scale ∧ ((Decimal.digits digits).length : Int) + scale ≤ 16
  · rw [if_pos integral, if_pos integral]
    have zeros : WholeRow (Decimal.digits digits ++ List.replicate scale.toNat '0') :=
      whole_zeros fun zero => by rw [leads zero]; rfl
    exact .of zeros (.present row_zero) .absent (by simp)
  rw [if_neg integral, if_neg integral]
  by_cases inside : 0 < ((Decimal.digits digits).length : Int) + scale ∧
      ((Decimal.digits digits).length : Int) + scale ≤ 16
  · rw [if_pos inside, if_pos inside]
    refine .of (whole.take (by omega)) (.present (whole.toRow.drop (by omega))) .absent ?_
    simp
  rw [if_neg inside, if_neg inside]
  by_cases small : -5 < ((Decimal.digits digits).length : Int) + scale ∧
      ((Decimal.digits digits).length : Int) + scale ≤ 0
  · rw [if_pos small, if_pos small]
    have row := whole.toRow.zeros (((Decimal.digits digits).length : Int) + scale).natAbs 0
    rw [List.replicate_zero, List.append_nil] at row
    exact .of whole_zero (.present row) .absent (by simp)
  rw [if_neg small, if_neg small]
  refine .of (whole.take Nat.one_pos) (fraction_drop whole.toRow) (exponent_signed _) ?_
  simp

theorem dropZeros_ne_zero {fuel digits : Nat} {scale : Int} (nonzero : digits ≠ 0) :
    (dropZeros fuel (digits, scale)).1 ≠ 0 := by
  induction fuel generalizing digits scale with
  | zero => exact nonzero
  | succ fuel ih =>
      rw [dropZeros]
      split
      next trailing => exact ih (by omega)
      next => exact nonzero

theorem dropZeros_zero (fuel : Nat) (scale : Int) : dropZeros fuel (0, scale) = (0, scale) := by
  cases fuel with
  | zero => rfl
  | succ fuel => rw [dropZeros, if_neg (fun trailing => trailing.1 rfl)]

theorem getD_findSome? {α β : Type} {items : List α} {find? : α → Option β} {default : β}
    {good : β → Prop} (finds : ∀ item found, find? item = some found → good found) :
    (items.findSome? find?).getD default = default ∨
      good ((items.findSome? find?).getD default) := by
  cases first : items.findSome? find? with
  | none => exact .inl rfl
  | some found =>
      rcases List.exists_of_findSome?_eq_some first with ⟨item, _, found⟩
      exact .inr (finds item _ found)

theorem reads_of_tried {reads : Nat → Int → Bool} {best other : Nat} {scale : Int}
    {pair : Nat × Int}
    (tried : (if reads best scale then some (best, scale)
      else if reads other scale then some (other, scale) else none) = some pair) :
    reads pair.1 pair.2 = true := by
  split at tried
  next first =>
    cases tried
    exact first
  next =>
    split at tried
    next second =>
      cases tried
      exact second
    next => cases tried

/-- Digits with a scale that are read as the number. -/
def ReadAs (number : Binary64) (pair : Nat × Int) : Prop :=
  (ofDecimal? number.negative pair.1 pair.2 == some number) = true

/-- The digits that are written were tried, if any were found. -/
theorem shortest_reads (number : Binary64) :
    number.shortest = (0, 0) ∨ number.ReadAs number.shortest := by
  unfold shortest
  extract_lets numerator denominator width onGrid readsBack candidate
  refine getD_findSome? fun count pair tried => ?_
  have reads : readsBack pair.1 pair.2 = true := reads_of_tried tried
  exact reads

/-- A number that is not zero is written without leading zeros, unless no digits were found. -/
theorem shortest_leads {number : Binary64} (nonzero : number.mantissa ≠ 0)
    (zero : (dropZeros 20 number.shortest).1 = 0) : (dropZeros 20 number.shortest).2 = 0 := by
  rcases shortest_reads number with none | reads
  · rw [none, dropZeros_zero]
  · have digits : number.shortest.1 ≠ 0 := by
      intro none
      rw [ReadAs, none, ofDecimal?, if_pos (.inl rfl), beq_iff_eq, Option.some.injEq] at reads
      exact nonzero (congrArg Binary64.mantissa reads).symm
    exact absurd zero (dropZeros_ne_zero digits)

def literal (number : Binary64) : Literal :=
  if number.mantissa = 0 then
    { negative := number.negative, whole := ['0'], fraction := ['0'], exponent := none }
  else
    layout number.negative (dropZeros 20 number.shortest).1 (dropZeros 20 number.shortest).2

theorem numeral_text (number : Binary64) : Numeral number.text number.literal := by
  rw [literal]
  split
  next zero =>
    refine .of whole_zero (.present row_zero) .absent ?_
    simp [text, zero]
  next nonzero =>
    rw [text_eq nonzero]
    exact numeral_layout number.negative (shortest_leads nonzero)

end ConversationBus.Binary64

namespace ConversationBus.Json

def Number.literal : Number → Literal
  | .integer value => .ofInt value
  | .float value => value.literal

theorem Number.numeral_render (number : Number) : Numeral number.render number.literal := by
  cases number with
  | integer value => exact numeral_signed value
  | float value => exact value.numeral_text

end ConversationBus.Json
