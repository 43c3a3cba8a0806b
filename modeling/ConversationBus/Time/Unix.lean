import ConversationBus.Time.Instant

/-!
# Unix time

Instants from the number of seconds since the beginning of the year 1970.
-/

namespace ConversationBus

/-- The number of days in four hundred years. -/
def daysPerEra : Int := 146097

/-- The date that is so many days after the first of March of the year zero. Counting from March
puts the leap day at the end of a year. -/
def Date.ofMarchDays (days : Int) : Date :=
  let era := days / daysPerEra
  let dayOfEra := days % daysPerEra
  let yearOfEra :=
    (dayOfEra - dayOfEra / 1460 + dayOfEra / 36524 - dayOfEra / (daysPerEra - 1)) / 365
  let dayOfYear := dayOfEra - (365 * yearOfEra + yearOfEra / 4 - yearOfEra / 100)
  let monthFromMarch := (5 * dayOfYear + 2) / 153
  let day := dayOfYear - (153 * monthFromMarch + 2) / 5 + 1
  let year := yearOfEra + 400 * era
  if monthFromMarch < 10 then
    { year, month := (monthFromMarch + 3).toNat, day := day.toNat }
  else { year := year + 1, month := (monthFromMarch - 9).toNat, day := day.toNat }

/-- The day number of the first of January 1970, counted from the first of March of the year
zero. -/
def unixDayNumber : Int := 719468

/-- The instant that is so many seconds and nanoseconds after the beginning of the year 1970. Only
the last second of a minute may run on into a leap second. -/
def Instant.ofUnix? (seconds : Int) (nanoseconds : Nat) : Option Instant :=
  if nanosPerSecond ≤ nanoseconds ∧ seconds % 60 ≠ 59 then none
  else
    Instant.ofParts? (Date.ofMarchDays (seconds / secondsPerDay + unixDayNumber))
      (seconds % secondsPerDay).toNat nanoseconds

end ConversationBus
