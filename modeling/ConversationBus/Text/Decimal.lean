import ConversationBus.Text.CharClass

/-!
# Decimal numerals

Reading and writing numbers in decimal. A reader returns the number together with the text that
follows it, and takes at most as many digits as it is allowed to.
-/

namespace ConversationBus.Decimal

/-- The number in decimal, without leading zeros. -/
def digits (number : Nat) : List Char :=
  Nat.toDigits 10 number

/-- The number in decimal, filled up with leading zeros to at least `width` digits. -/
def padded (width number : Nat) : List Char :=
  List.replicate (width - (digits number).length) '0' ++ digits number

def value (row : List Char) : Nat :=
  Nat.ofDigitChars 10 row 0

/-- Splits off the longest row of at most `most` digits. -/
def splitRow : Nat → List Char → List Char × List Char
  | 0, text => ([], text)
  | _ + 1, [] => ([], [])
  | most + 1, c :: rest =>
    if Text.isDigit c then
      let (row, after) := splitRow most rest
      (c :: row, after)
    else ([], c :: rest)

/-- Reads a row of at least `least` and at most `most` digits. -/
def readRow (least most : Nat) (text : List Char) : Option (List Char × List Char) :=
  let (row, rest) := splitRow most text
  if row.length < least then none else some (row, rest)

/-- Reads the number that a row of `least` to `most` digits stands for. -/
def read (least most : Nat) (text : List Char) : Option (Nat × List Char) :=
  (readRow least most text).map fun (row, rest) => (value row, rest)

/-- An integer in decimal, with a sign when it is negative. -/
def signed (number : Int) : List Char :=
  if number < 0 then '-' :: digits number.natAbs else digits number.natAbs

end ConversationBus.Decimal
