import ConversationBus.Text.Decimal
import ConversationBus.Time.Instant

/-!
# Instants as text

The written form of an instant is that of RFC 3339: date and time in UTC with a fraction of 0, 3,
6 or 9 digits, the shortest that is exact. Years outside 0000 to 9999 carry a sign. Where the
nanoseconds run on into one more second, this second is the one that is written: a leap second is
second 60. Two readers accept the form: a strict one, for text that was written by this module, and
a relaxed one, for text from elsewhere.
-/

namespace ConversationBus

namespace Instant

/-- How the offset of UTC is written. -/
inductive Zone where
  /-- A single `Z`. -/
  | letter
  /-- The offset in digits, `+00:00`. -/
  | digits
  deriving DecidableEq, Repr

def Zone.text : Zone → List Char
  | .letter => ['Z']
  | .digits => "+00:00".toList

/-- Four digits for the years 0000 to 9999, a sign and at least four digits for the others. -/
def yearText (year : Int) : List Char :=
  if 0 ≤ year ∧ year ≤ 9999 then Decimal.padded 4 year.toNat
  else (if year < 0 then '-' else '+') :: Decimal.padded 4 year.natAbs

/-- The fraction of a second, with the fewest digits out of 0, 3, 6 and 9 that are exact. -/
def fractionText (nanosecond : Nat) : List Char :=
  if nanosecond = 0 then []
  else if nanosecond % 1000000 = 0 then '.' :: Decimal.padded 3 (nanosecond / 1000000)
  else if nanosecond % 1000 = 0 then '.' :: Decimal.padded 6 (nanosecond / 1000)
  else '.' :: Decimal.padded 9 nanosecond

/-- The written form of an instant. -/
def text (zone : Zone) (instant : Instant) : List Char :=
  let leap := nanosPerSecond ≤ instant.nanosecond
  let second := instant.second % 60 + if leap then 1 else 0
  let nanosecond := instant.nanosecond - if leap then nanosPerSecond else 0
  yearText instant.date.year ++ ['-'] ++ Decimal.padded 2 instant.date.month ++ ['-'] ++
    Decimal.padded 2 instant.date.day ++ ['T'] ++ Decimal.padded 2 (instant.second / 3600) ++
    [':'] ++ Decimal.padded 2 (instant.second / 60 % 60) ++ [':'] ++ Decimal.padded 2 second ++
    fractionText nanosecond ++ zone.text

/-- The written form with a `Z`. -/
def toText (instant : Instant) : String :=
  String.ofList (instant.text .letter)

/-- The date and time as they stand in a text, before the offset is taken into account. -/
structure Reading where
  year : Int
  month : Nat
  day : Nat
  hour : Nat
  minute : Nat
  second : Nat
  nanosecond : Nat

/-- The instant that a reading denotes on a clock ahead of UTC by `offset` seconds. Second 60 is
the leap second after second 59. -/
def Reading.instant? (reading : Reading) (offset : Int) : Option Instant :=
  if 24 ≤ reading.hour ∨ 60 ≤ reading.minute ∨ 61 ≤ reading.second then none
  else
    let leap := reading.second = 60
    let second := if leap then 59 else reading.second
    let nanosecond := reading.nanosecond + if leap then nanosPerSecond else 0
    ofLocal? ⟨reading.year, reading.month, reading.day⟩
      (reading.hour * 3600 + reading.minute * 60 + second) nanosecond offset

/-- Reads one given character. -/
def expect (c : Char) : List Char → Option (List Char)
  | d :: rest => if d = c then some rest else none
  | [] => none

/-- Reads the letter or blank between date and time. -/
def readSeparator : List Char → Option (List Char)
  | 'T' :: rest | 't' :: rest | ' ' :: rest => some rest
  | _ => none

/-- Reads an optional fraction of a second as nanoseconds. Digits after the ninth have no
effect. -/
def readFraction : List Char → Option (Nat × List Char)
  | '.' :: rest => do
    let (row, rest) ← Decimal.readRow 1 9 rest
    some (Decimal.value row * Nat.pow 10 (9 - row.length), rest.dropWhile Text.isDigit)
  | text => some (0, text)

/-- Reads an offset as seconds ahead of UTC. `gap` reads what stands between hours and minutes. -/
def readOffset (gap : List Char → Option (List Char)) : List Char → Option (Int × List Char)
  | 'Z' :: rest | 'z' :: rest => some (0, rest)
  | sign :: rest => do
    let negative ← match sign with
      | '+' => some false
      | '-' | '−' => some true
      | _ => none
    let (hours, rest) ← Decimal.read 2 2 rest
    let rest ← gap rest
    let (minutes, rest) ← Decimal.read 2 2 rest
    if 60 ≤ minutes then none
    else
      let seconds : Int := hours * 3600 + minutes * 60
      some (if negative then -seconds else seconds, rest)
  | [] => none

/-! ## The strict form -/

/-- Reads the date and the time of the strict form: every number has its full width. -/
def readStrict (text : List Char) : Option (Reading × List Char) := do
  let (year, text) ← Decimal.read 4 4 text
  let text ← expect '-' text
  let (month, text) ← Decimal.read 2 2 text
  let text ← expect '-' text
  let (day, text) ← Decimal.read 2 2 text
  let text ← readSeparator text
  let (hour, text) ← Decimal.read 2 2 text
  let text ← expect ':' text
  let (minute, text) ← Decimal.read 2 2 text
  let text ← expect ':' text
  let (second, text) ← Decimal.read 2 2 text
  let (nanosecond, text) ← readFraction text
  some ({ year, month, day, hour, minute, second, nanosecond }, text)

/-- The instant that a text in the strict form denotes. -/
def ofStrict? (text : List Char) : Option Instant := do
  let (reading, text) ← readStrict text
  let (offset, rest) ← readOffset (expect ':') text
  if rest.isEmpty then reading.instant? offset else none

/-! ## The relaxed form -/

/-- Reads a number of one or two digits after any number of blanks. -/
def readLoose (text : List Char) : Option (Nat × List Char) :=
  Decimal.read 1 2 (Text.trimStart text)

/-- Reads a year: up to four digits, or a sign and any number of digits. -/
def readYear (text : List Char) : Option (Int × List Char) :=
  match Text.trimStart text with
  | '-' :: rest => (Decimal.read 1 rest.length rest).map fun (year, rest) => (-(year : Int), rest)
  | '+' :: rest => (Decimal.read 1 rest.length rest).map fun (year, rest) => ((year : Int), rest)
  | rest => (Decimal.read 1 4 rest).map fun (year, rest) => ((year : Int), rest)

/-- Reads one given character after any number of blanks. -/
def expectLoose (c : Char) (text : List Char) : Option (List Char) :=
  expect c (Text.trimStart text)

/-- Reads the date and the time of the relaxed form: numbers may be short, and blanks may stand
before numbers and before the characters that separate them. -/
def readRelaxed (text : List Char) : Option (Reading × List Char) := do
  let (year, text) ← readYear text
  let text ← expectLoose '-' text
  let (month, text) ← readLoose text
  let text ← expectLoose '-' text
  let (day, text) ← readLoose text
  let text ← readSeparator text
  let (hour, text) ← readLoose text
  let text ← expectLoose ':' text
  let (minute, text) ← readLoose text
  let text ← expectLoose ':' text
  let (second, text) ← readLoose text
  let (nanosecond, text) ← readFraction text
  some ({ year, month, day, hour, minute, second, nanosecond }, text)

/-- Reads `UTC`, in any case, or an offset whose hours and minutes may be set apart by any run of
colons and blanks. -/
def readRelaxedOffset (text : List Char) : Option (Int × List Char) :=
  if (text.take 3).map Char.toLower = "utc".toList then some (0, text.drop 3)
  else readOffset (fun rest => some (rest.dropWhile fun c => c = ':' || Text.isBlank c)) text

/-- The instant that a text in the relaxed form denotes. -/
def ofRelaxed? (text : List Char) : Option Instant := do
  let (reading, text) ← readRelaxed text
  let (offset, rest) ← readRelaxedOffset (Text.trimStart text)
  if (Text.trimStart rest).isEmpty then reading.instant? offset else none

end Instant

end ConversationBus
