import ConversationBus.Text.Decimal

/-!
# Double-precision numbers as text

The finite numbers of 64-bit binary floating point, read from decimal with rounding to nearest
and written with the fewest decimal digits that read back as the same number. All arithmetic is
on exact natural numbers.

A reader that scales a 64-bit significand by powers of ten in floating point, as the usual fast one
does, rounds twice. It reads some numbers as a neighbour of the nearest one and refuses some close
to the greatest. Here every number is read as the nearest one.
-/

namespace ConversationBus

/-- A finite double-precision number, `mantissa · 2 ^ exponent` with a sign. The mantissa has at
most 53 bits, and 53 unless the exponent is the least. -/
structure Binary64 where
  negative : Bool
  mantissa : Nat
  exponent : Int
  deriving DecidableEq, Repr

namespace Binary64

def precision : Nat := 53

/-- The least and the greatest exponent. -/
def leastExponent : Int := -1074

@[inherit_doc leastExponent]
def greatestExponent : Int := 971

/-- The quotient rounded to the nearest integer, a half to the even neighbour. -/
def roundDiv (numerator denominator : Nat) : Nat :=
  let quotient := numerator / denominator
  let twice := 2 * (numerator % denominator)
  if twice < denominator then quotient
  else if denominator < twice then quotient + 1
  else quotient + quotient % 2

/-- The magnitude nearest to a positive fraction, or nothing when it is out of range. -/
def nearest (negative : Bool) (numerator denominator : Nat) : Option Binary64 :=
  let estimate := (numerator.log2 : Int) - denominator.log2 - precision + 1
  let scaled (exponent : Int) : Nat × Nat :=
    if exponent < 0 then (numerator * Nat.pow 2 exponent.natAbs, denominator)
    else (numerator, denominator * Nat.pow 2 exponent.toNat)
  let tooLarge (exponent : Int) : Bool :=
    let (top, bottom) := scaled exponent
    Nat.pow 2 precision * bottom ≤ top
  let tooSmall (exponent : Int) : Bool :=
    let (top, bottom) := scaled exponent
    top < Nat.pow 2 (precision - 1) * bottom
  let fitted :=
    if tooLarge estimate then estimate + 1
    else if tooSmall estimate then estimate - 1
    else estimate
  let exponent := max fitted leastExponent
  let (top, bottom) := scaled exponent
  let mantissa := roundDiv top bottom
  let (mantissa, exponent) :=
    if mantissa = Nat.pow 2 precision then (Nat.pow 2 (precision - 1), exponent + 1)
    else (mantissa, exponent)
  if greatestExponent < exponent then none else some { negative, mantissa, exponent }

/-- The number nearest to `significand · 10 ^ scale`, or nothing when it is out of range. A scale
far out of range is not worked out. -/
def ofDecimal? (negative : Bool) (significand : Nat) (scale : Int) : Option Binary64 :=
  let zero : Binary64 := { negative, mantissa := 0, exponent := leastExponent }
  let magnitude := (Decimal.digits significand).length + scale
  if significand = 0 ∨ magnitude < -400 then some zero
  else if 400 < magnitude then none
  else if scale < 0 then nearest negative significand (Nat.pow 10 scale.natAbs)
  else nearest negative (significand * Nat.pow 10 scale.toNat) 1

/-- Digits and a scale that stand for the magnitude: the fewest digits that read back, and of
those the nearest. The candidates with `count` digits are the two neighbours on their grid. -/
def shortest (number : Binary64) : Nat × Int :=
  let numerator := number.mantissa * Nat.pow 2 number.exponent.toNat
  let denominator := Nat.pow 2 (-number.exponent).toNat
  let width : Int :=
    if denominator ≤ numerator then (Decimal.digits (numerator / denominator)).length
    else 1 - (Decimal.digits ((denominator - 1) / numerator)).length
  let onGrid (scale : Int) : Nat × Nat :=
    if scale < 0 then (numerator * Nat.pow 10 scale.natAbs, denominator)
    else (numerator, denominator * Nat.pow 10 scale.toNat)
  let readsBack (digits : Nat) (scale : Int) : Bool :=
    ofDecimal? number.negative digits scale == some number
  let candidate (count : Nat) : Option (Nat × Int) :=
    let scale := width - count
    let (top, bottom) := onGrid scale
    let below := top / bottom
    let best := roundDiv top bottom
    let other := if best = below then below + 1 else below
    if readsBack best scale then some (best, scale)
    else if readsBack other scale then some (other, scale)
    else none
  ((List.range 18).findSome? fun count => candidate (count + 1)).getD (0, 0)

/-- Removes the trailing zeros of a positive number of at most `fuel` digits. -/
def dropZeros : Nat → Nat × Int → Nat × Int
  | 0, pair => pair
  | fuel + 1, (digits, scale) =>
    if digits ≠ 0 ∧ digits % 10 = 0 then dropZeros fuel (digits / 10, scale + 1)
    else (digits, scale)

/-- The written form: positional with a point when the point falls at most sixteen digits to the
right of the first digit or four zeros to its left, otherwise with an exponent. -/
def text (number : Binary64) : List Char :=
  let sign := if number.negative then ['-'] else []
  if number.mantissa = 0 then sign ++ "0.0".toList
  else
    let (digits, scale) := dropZeros 20 number.shortest
    let row := Decimal.digits digits
    let point : Int := row.length + scale
    sign ++
      if 0 ≤ scale ∧ point ≤ 16 then row ++ List.replicate scale.toNat '0' ++ ".0".toList
      else if 0 < point ∧ point ≤ 16 then row.take point.toNat ++ '.' :: row.drop point.toNat
      else if -5 < point ∧ point ≤ 0 then
        "0.".toList ++ List.replicate point.natAbs '0' ++ row
      else
        let fraction := if row.length = 1 then [] else '.' :: row.drop 1
        row.take 1 ++ fraction ++ 'e' :: Decimal.signed (point - 1)

end Binary64

end ConversationBus
