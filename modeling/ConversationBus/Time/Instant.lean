/-!
# Instants

Points in time on the proleptic Gregorian calendar in UTC, to the nanosecond, with leap seconds.
The calendar spans the years -262143 to 262142. A leap second is kept as the 59th second of its
minute with a nanosecond count of a thousand million or more. Whoever sets the nanoseconds of an
instant by hand can give any other second such a count as well.
-/

namespace ConversationBus

/-- A day of the proleptic Gregorian calendar. -/
structure Date where
  year : Int
  month : Nat
  day : Nat
  deriving DecidableEq, Repr

namespace Date

/-- The first and the last year of the calendar. -/
def firstYear : Int := -262143

@[inherit_doc firstYear]
def lastYear : Int := 262142

/-- Every fourth year is a leap year, except the hundreds that are no multiple of four hundred. -/
def isLeapYear (year : Int) : Bool :=
  year % 4 == 0 && (year % 100 != 0 || year % 400 == 0)

def daysInMonth (year : Int) (month : Nat) : Nat :=
  match month with
  | 2 => if isLeapYear year then 29 else 28
  | 4 | 6 | 9 | 11 => 30
  | _ => 31

/-- The days that exist on the calendar. -/
def Exists (date : Date) : Prop :=
  firstYear ≤ date.year ∧ date.year ≤ lastYear ∧ 1 ≤ date.month ∧ date.month ≤ 12 ∧
    1 ≤ date.day ∧ date.day ≤ daysInMonth date.year date.month

instance (date : Date) : Decidable date.Exists := by
  unfold Exists; infer_instance

/-- The day after. It leaves the calendar at its end. -/
def next (date : Date) : Date :=
  if date.day < daysInMonth date.year date.month then { date with day := date.day + 1 }
  else if date.month < 12 then { date with month := date.month + 1, day := 1 }
  else { year := date.year + 1, month := 1, day := 1 }

/-- The day before. It leaves the calendar at its beginning. -/
def previous (date : Date) : Date :=
  if 1 < date.day then { date with day := date.day - 1 }
  else if 1 < date.month then
    { date with month := date.month - 1, day := daysInMonth date.year (date.month - 1) }
  else { year := date.year - 1, month := 12, day := 31 }

end Date

/-- Seconds in a day without a leap second. -/
def secondsPerDay : Nat := 86400

/-- A thousand million, the nanoseconds of a second. -/
def nanosPerSecond : Nat := 1000000000

/-- What the parts of an instant have to satisfy: the day exists, the second is one of the day,
and the nanoseconds run on for one more second at most. -/
def Instant.Fits (date : Date) (second nanosecond : Nat) : Prop :=
  date.Exists ∧ second < secondsPerDay ∧ nanosecond < 2 * nanosPerSecond

instance (date : Date) (second nanosecond : Nat) :
    Decidable (Instant.Fits date second nanosecond) := by
  unfold Instant.Fits; infer_instance

/-- A point in time: the day, the second of the day and the nanosecond within it. -/
structure Instant where
  date : Date
  second : Nat
  nanosecond : Nat
  fits : Instant.Fits date second nanosecond
  deriving DecidableEq

namespace Instant

/-- The instant with the given parts, if there is one. -/
def ofParts? (date : Date) (second nanosecond : Nat) : Option Instant :=
  if fits : Fits date second nanosecond then some ⟨date, second, nanosecond, fits⟩ else none

/-- The instant that a clock ahead of UTC by `offset` seconds shows as the given parts. The
offset is less than a day in size; the date shown must exist, and so must the date in UTC. -/
def ofLocal? (date : Date) (second nanosecond : Nat) (offset : Int) : Option Instant :=
  if (secondsPerDay : Int) ≤ offset.natAbs then none
  else if ¬ Fits date second nanosecond then none
  else
    let shifted := (second : Int) - offset
    if shifted < 0 then ofParts? date.previous (shifted + secondsPerDay).toNat nanosecond
    else if (secondsPerDay : Int) ≤ shifted then
      ofParts? date.next (shifted - secondsPerDay).toNat nanosecond
    else ofParts? date shifted.toNat nanosecond

/-- The parts that instants are ordered by, the most significant first. -/
def sortKey (instant : Instant) : Int × Nat × Nat × Nat × Nat :=
  (instant.date.year, instant.date.month, instant.date.day, instant.second, instant.nanosecond)

/-- The beginning of the year 1970. -/
def epoch : Instant :=
  ⟨⟨1970, 1, 1⟩, 0, 0, by decide⟩

instance : Inhabited Instant := ⟨epoch⟩

end Instant

end ConversationBus
