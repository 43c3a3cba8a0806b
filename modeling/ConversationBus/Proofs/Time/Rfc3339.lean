import ConversationBus.Proofs.Text.Decimal
import ConversationBus.Time.Rfc3339

/-!
# Instants that are read back

The relaxed reading takes the written form with a `Z` of every instant: signed years, the
nanoseconds, whatever digits of theirs are written, and leap seconds as well. The strict reading
takes those of the years 0000 to 9999 and no others. What is read is the instant that was written,
unless its nanoseconds run on after a second that is not the last of its minute: then it is the
instant that the text shows, one second later.
-/

namespace ConversationBus.Instant

/-- The year is written with four digits and no sign. -/
def HasPlainYear (instant : Instant) : Prop :=
  0 ≤ instant.date.year ∧ instant.date.year ≤ 9999

instance (instant : Instant) : Decidable instant.HasPlainYear := by
  unfold HasPlainYear; infer_instance

/-- The nanoseconds run on into a leap second only, which comes at the end of a minute. -/
def HasProperSecond (instant : Instant) : Prop :=
  nanosPerSecond ≤ instant.nanosecond → instant.second % 60 = 59

instance (instant : Instant) : Decidable instant.HasProperSecond := by
  unfold HasProperSecond; infer_instance

/-- The instant that the written form shows: nanoseconds that run on within a minute are those of
the next second. -/
def settled (instant : Instant) : Instant :=
  if runsOn : nanosPerSecond ≤ instant.nanosecond ∧ instant.second % 60 ≠ 59 then
    { instant with
      second := instant.second + 1
      nanosecond := instant.nanosecond - nanosPerSecond
      fits := by
        have second : instant.second < 86400 := instant.fits.2.1
        have nanosecond := instant.fits.2.2
        refine ⟨instant.fits.1, show instant.second + 1 < 86400 by omega, by omega⟩ }
  else instant

@[simp] theorem expect_cons (c : Char) (rest : List Char) : expect c (c :: rest) = some rest :=
  if_pos rfl

/-- The digits of a fraction, of which the shortest exact row was written. -/
theorem readFraction_digits {width scale nanosecond : Nat} {rest : List Char}
    (wide : 0 < width) (narrow : width ≤ 9) (scaled : scale = Nat.pow 10 (9 - width))
    (exact : nanosecond % scale = 0) (fits : nanosecond < nanosPerSecond)
    (ended : Decimal.Ended rest) :
    readFraction ('.' :: Decimal.padded width (nanosecond / scale) ++ rest) =
      some (nanosecond, rest) := by
  have positive : 0 < scale := scaled ▸ Nat.pow_pos (by decide)
  have whole : nanosPerSecond = Nat.pow 10 width * scale := by
    rw [scaled, Nat.pow_eq, Nat.pow_eq, ← Nat.pow_add, Nat.add_sub_cancel' narrow]
    rfl
  have short : nanosecond / scale < Nat.pow 10 width := by
    rw [Nat.div_lt_iff_lt_mul positive, ← whole]
    exact fits
  have length := Decimal.length_padded short wide
  have row : Decimal.readRow 1 9 (Decimal.padded width (nanosecond / scale) ++ rest) =
      some (Decimal.padded width (nanosecond / scale), rest) :=
    Decimal.readRow_append (fun _ => Decimal.isDigit_of_mem_padded) (by omega) (by omega)
      (.inr ended)
  have nothingMore : rest.dropWhile Text.isDigit = rest := by
    cases rest with
    | nil => rfl
    | cons c rest => rw [List.dropWhile_cons, ended c rest rfl, if_neg (by decide)]
  have value : nanosecond / scale * Nat.pow 10 (9 - width) = nanosecond := by
    rw [← scaled, Nat.div_mul_cancel (Nat.dvd_of_mod_eq_zero exact)]
  simp only [readFraction, List.cons_append, row, bind, Option.bind, Decimal.value_padded, length,
    nothingMore, value]

theorem readFraction_fractionText {nanosecond : Nat} {c : Char} {rest : List Char}
    (fits : nanosecond < nanosPerSecond) (other : Text.isDigit c = false) (noPoint : c ≠ '.') :
    readFraction (fractionText nanosecond ++ c :: rest) = some (nanosecond, c :: rest) := by
  have ended : Decimal.Ended (c :: rest) := by
    rintro d later same
    cases same
    exact other
  simp only [fractionText]
  split
  next none =>
    subst none
    simp [readFraction, noPoint]
  next =>
    split
    next millis =>
      exact readFraction_digits (by decide) (by decide) rfl millis fits ended
    next =>
      split
      next micros =>
        exact readFraction_digits (by decide) (by decide) rfl micros fits ended
      next =>
        have exact : readFraction ('.' :: Decimal.padded 9 (nanosecond / 1) ++ c :: rest) =
            some (nanosecond, c :: rest) :=
          readFraction_digits (by decide) (by decide) rfl (Nat.mod_one _) fits ended
        rwa [Nat.div_one] at exact

/-- The parts of an instant as they stand in its written form. -/
def reading (instant : Instant) : Reading :=
  let leap := nanosPerSecond ≤ instant.nanosecond
  { year := instant.date.year
    month := instant.date.month
    day := instant.date.day
    hour := instant.second / 3600
    minute := instant.second / 60 % 60
    second := instant.second % 60 + if leap then 1 else 0
    nanosecond := instant.nanosecond - if leap then nanosPerSecond else 0 }

variable (instant : Instant)

theorem month_le : instant.date.month ≤ 12 :=
  instant.fits.1.2.2.2.1

theorem day_le : instant.date.day ≤ 31 := by
  refine Nat.le_trans instant.fits.1.2.2.2.2.2 ?_
  simp only [Date.daysInMonth]
  split
  next => split <;> decide
  all_goals decide

theorem second_lt : instant.second < 86400 :=
  instant.fits.2.1

theorem nanosecond_lt : instant.nanosecond < 2 * nanosPerSecond :=
  instant.fits.2.2

theorem reading_nanosecond_lt : instant.reading.nanosecond < nanosPerSecond := by
  have bound := instant.nanosecond_lt
  have positive : 0 < nanosPerSecond := by decide
  simp only [reading]
  split
  next => omega
  next => omega

/-- The written form in terms of the parts that stand in it. -/
theorem text_eq_reading (zone : Zone) :
    instant.text zone =
      yearText instant.date.year ++ ['-'] ++ Decimal.padded 2 instant.date.month ++ ['-'] ++
        Decimal.padded 2 instant.date.day ++ ['T'] ++ Decimal.padded 2 instant.reading.hour ++
        [':'] ++ Decimal.padded 2 instant.reading.minute ++ [':'] ++
        Decimal.padded 2 instant.reading.second ++ fractionText instant.reading.nanosecond ++
        zone.text := rfl

theorem reading_lt :
    instant.reading.hour < 24 ∧ instant.reading.minute < 60 ∧ instant.reading.second < 61 := by
  have second := instant.second_lt
  refine ⟨?_, ?_, ?_⟩
  · change instant.second / 3600 < 24
    omega
  · change instant.second / 60 % 60 < 60
    omega
  · simp only [reading]
    split
    next => omega
    next => omega

/-- The parts of an instant are read from its written form. -/
theorem readStrict_text (plain : instant.HasPlainYear) :
    readStrict (instant.text .digits) = some (instant.reading, Zone.digits.text) := by
  have month := instant.month_le
  have day := instant.day_le
  have clock := instant.reading_lt
  have year : yearText instant.date.year = Decimal.padded 4 instant.date.year.toNat :=
    if_pos plain
  have small : instant.date.year.toNat < 10000 := by
    have last := plain.2
    omega
  have signless : (instant.date.year.toNat : Int) = instant.date.year := Int.toNat_of_nonneg plain.1
  have readYear : ∀ rest, Decimal.read 4 4 (Decimal.padded 4 instant.date.year.toNat ++ rest) =
      some (instant.date.year.toNat, rest) :=
    fun rest => Decimal.read_padded rest small (by decide)
  have readTwo : ∀ {number}, number < 100 → ∀ rest,
      Decimal.read 2 2 (Decimal.padded 2 number ++ rest) = some (number, rest) :=
    fun fits rest => Decimal.read_padded rest fits (by decide)
  have readMonth := readTwo (show instant.date.month < 100 by omega)
  have readDay := readTwo (show instant.date.day < 100 by omega)
  have readHour := readTwo (show instant.reading.hour < 100 by omega)
  have readMinute := readTwo (show instant.reading.minute < 100 by omega)
  have readSecond := readTwo (show instant.reading.second < 100 by omega)
  have fraction : readFraction (fractionText instant.reading.nanosecond ++ Zone.digits.text) =
      some (instant.reading.nanosecond, Zone.digits.text) :=
    readFraction_fractionText instant.reading_nanosecond_lt (by decide) (by decide)
  simp only [text_eq_reading, List.append_assoc, List.cons_append, List.nil_append, readStrict,
    Option.bind_eq_bind, Option.bind_some, year, readYear, expect_cons, readMonth, readDay,
    readSeparator, readHour, readMinute, readSecond, fraction, signless]
  rfl

/-- A clock that shows UTC shows the parts of an instant. -/
theorem ofLocal?_utc :
    ofLocal? instant.date instant.second instant.nanosecond 0 = some instant := by
  have fits := instant.fits
  have second := instant.second_lt
  have natural : ((instant.second : Int) - 0).toNat = instant.second := by omega
  have day : (secondsPerDay : Int) = 86400 := rfl
  simp only [ofLocal?, natural, ofParts?]
  rw [if_neg (by decide), if_neg (not_not_intro fits), if_neg (by omega), if_neg (by omega)]
  exact dif_pos fits

/-- The parts of an instant are told from those of its written form. -/
theorem instant?_reading (proper : instant.HasProperSecond) :
    instant.reading.instant? 0 = some instant := by
  have clock := instant.reading_lt
  have hour : instant.reading.hour = instant.second / 3600 := rfl
  have minute : instant.reading.minute = instant.second / 60 % 60 := rfl
  have leap : instant.reading.second = 60 ↔ nanosPerSecond ≤ instant.nanosecond := by
    simp only [reading]
    split
    next leap =>
      have last := proper leap
      simp [last, leap]
    next early =>
      simp [early]
      omega
  have nanosecond : (instant.reading.nanosecond +
      if instant.reading.second = 60 then nanosPerSecond else 0) = instant.nanosecond := by
    simp only [leap]
    simp only [reading]
    split
    next => omega
    next => omega
  have ofDay : instant.second / 3600 * 3600 + instant.second / 60 % 60 * 60 +
      (if instant.reading.second = 60 then 59 else instant.reading.second) = instant.second := by
    simp only [leap]
    split
    next late =>
      have last := proper late
      omega
    next early =>
      have same : instant.reading.second = instant.second % 60 := by simp [reading, early]
      omega
  simp only [Reading.instant?, hour, minute, nanosecond, ofDay]
  rw [if_neg (by omega)]
  exact instant.ofLocal?_utc

/-! ## Settled instants -/

theorem settled_of_proper (proper : instant.HasProperSecond) : instant.settled = instant :=
  dif_neg fun runsOn => runsOn.2 (proper runsOn.1)

theorem settled_proper : instant.settled.HasProperSecond := by
  have bound := instant.nanosecond_lt
  rw [settled]
  split
  next runsOn =>
    intro leap
    simp only at leap
    omega
  next proper =>
    exact fun leap => Decidable.byContradiction fun early => proper ⟨leap, early⟩

/-- An instant is settled just if its nanoseconds run on into a leap second only. -/
theorem settled_eq_self_iff : instant.settled = instant ↔ instant.HasProperSecond := by
  constructor
  · intro same
    exact same ▸ instant.settled_proper
  · exact instant.settled_of_proper

@[simp] theorem settled_date : instant.settled.date = instant.date := by
  rw [settled]
  split
  next => rfl
  next => rfl

@[simp] theorem hasPlainYear_settled : instant.settled.HasPlainYear ↔ instant.HasPlainYear := by
  rw [HasPlainYear, settled_date, HasPlainYear]

theorem reading_settled : instant.settled.reading = instant.reading := by
  have bound := instant.nanosecond_lt
  rw [settled]
  split
  next runsOn =>
    rcases runsOn with ⟨late, early⟩
    have done : ¬ nanosPerSecond ≤ instant.nanosecond - nanosPerSecond := by omega
    have hour : (instant.second + 1) / 3600 = instant.second / 3600 := by omega
    have minute : (instant.second + 1) / 60 % 60 = instant.second / 60 % 60 := by omega
    have second : (instant.second + 1) % 60 = instant.second % 60 + 1 := by omega
    simp [reading, late, done, hour, minute, second]
  next => rfl

/-- What is written of an instant does not tell it from the settled one. -/
theorem text_settled (zone : Zone) : instant.settled.text zone = instant.text zone := by
  rw [text_eq_reading, reading_settled, settled_date, text_eq_reading]

/-! ## The strict form -/

/-- An instant with a plain year comes back settled from its written form. -/
theorem ofStrict?_text (plain : instant.HasPlainYear) :
    ofStrict? (instant.text .digits) = some instant.settled := by
  have offset : readOffset (expect ':') Zone.digits.text = some (0, []) := by decide
  have read := instant.settled.instant?_reading instant.settled_proper
  rw [reading_settled] at read
  simp only [ofStrict?, instant.readStrict_text plain, Option.bind_eq_bind, Option.bind_some,
    offset, List.isEmpty_nil, if_true, read]

/-- A year with a sign is not read in the strict form. -/
theorem ofStrict?_text_signed (signed : ¬ instant.HasPlainYear) :
    ofStrict? (instant.text .digits) = none := by
  have year : yearText instant.date.year = (if instant.date.year < 0 then '-' else '+') ::
      Decimal.padded 4 instant.date.year.natAbs := if_neg signed
  have sign : Text.isDigit (if instant.date.year < 0 then '-' else '+') = false := by
    split
    next => decide
    next => decide
  simp [ofStrict?, readStrict, text_eq_reading, year, Decimal.read, Decimal.readRow,
    Decimal.splitRow, sign]

/-! ## The relaxed form -/

section Relaxed

variable {c : Char} {rest : List Char} {number width : Nat}

theorem trimStart_cons (visible : Text.isBlank c = false) :
    Text.trimStart (c :: rest) = c :: rest := by
  simp [Text.trimStart, visible]

theorem trimStart_padded :
    Text.trimStart (Decimal.padded width number ++ rest) = Decimal.padded width number ++ rest := by
  rcases Decimal.padded_eq_cons width number with ⟨c, row, padded, digit⟩
  rw [padded, List.cons_append, trimStart_cons (Decimal.isBlank_of_isDigit digit)]

theorem expectLoose_cons (visible : Text.isBlank c = false) :
    expectLoose c (c :: rest) = some rest := by
  rw [expectLoose, trimStart_cons visible, expect_cons]

theorem readLoose_padded (fits : number < 100) :
    readLoose (Decimal.padded 2 number ++ rest) = some (number, rest) := by
  have length : (Decimal.padded 2 number).length = 2 := Decimal.length_padded fits (by decide)
  rw [readLoose, trimStart_padded]
  exact Decimal.read_padded_append (by omega) (by omega) (.inl length)

/-- A year is read whether or not it has a sign. -/
theorem readYear_yearText (year : Int) :
    readYear (yearText year ++ '-' :: rest) = some (year, '-' :: rest) := by
  have ended : Decimal.Ended ('-' :: rest) := by
    rintro d later same
    cases same
    decide
  have digits (number : Nat) : Decimal.read 1 (Decimal.padded 4 number ++ '-' :: rest).length
      (Decimal.padded 4 number ++ '-' :: rest) = some (number, '-' :: rest) := by
    rcases Decimal.padded_eq_cons 4 number with ⟨c, row, padded, _⟩
    refine Decimal.read_padded_append ?_ ?_ (.inr ended)
    · simp [padded]
    · simp
  simp only [yearText]
  split
  next plain =>
    have length : (Decimal.padded 4 year.toNat).length = 4 :=
      Decimal.length_padded (show year.toNat < 10000 by omega) (by decide)
    have read : Decimal.read 1 4 (Decimal.padded 4 year.toNat ++ '-' :: rest) =
        some (year.toNat, '-' :: rest) :=
      Decimal.read_padded_append (by omega) (by omega) (.inl length)
    have same : (year.toNat : Int) = year := Int.toNat_of_nonneg plain.1
    rcases Decimal.padded_eq_cons 4 year.toNat with ⟨c, row, padded, digit⟩
    have unsigned : c ≠ '-' ∧ c ≠ '+' := by
      constructor
      all_goals
        rintro rfl
        revert digit
        decide
    rw [readYear, trimStart_padded]
    rw [padded, List.cons_append] at read ⊢
    simp [unsigned, read, same]
  next signed =>
    have visible : Text.isBlank (if year < 0 then '-' else '+') = false := by
      split
      next => decide
      next => decide
    rw [List.cons_append, readYear, trimStart_cons visible]
    by_cases negative : year < 0
    · simp only [negative, if_true, digits, Option.map_some]
      exact congrArg (fun read => some (read, '-' :: rest)) (by omega)
    · simp only [negative, if_false, digits, Option.map_some]
      exact congrArg (fun read => some (read, '-' :: rest)) (by omega)

end Relaxed

/-- The parts of an instant are read from its written form, whatever its year. -/
theorem readRelaxed_text :
    readRelaxed (instant.text .letter) = some (instant.reading, Zone.letter.text) := by
  have month := instant.month_le
  have day := instant.day_le
  have clock := instant.reading_lt
  have readTwo : ∀ {number}, number < 100 → ∀ rest,
      readLoose (Decimal.padded 2 number ++ rest) = some (number, rest) :=
    fun fits _ => readLoose_padded fits
  have readMonth := readTwo (show instant.date.month < 100 by omega)
  have readDay := readTwo (show instant.date.day < 100 by omega)
  have readHour := readTwo (show instant.reading.hour < 100 by omega)
  have readMinute := readTwo (show instant.reading.minute < 100 by omega)
  have readSecond := readTwo (show instant.reading.second < 100 by omega)
  have hyphen : Text.isBlank '-' = false := by decide
  have colon : Text.isBlank ':' = false := by decide
  have fraction : readFraction (fractionText instant.reading.nanosecond ++ Zone.letter.text) =
      some (instant.reading.nanosecond, Zone.letter.text) :=
    readFraction_fractionText instant.reading_nanosecond_lt (by decide) (by decide)
  simp only [text_eq_reading, List.append_assoc, List.cons_append, List.nil_append, readRelaxed,
    Option.bind_eq_bind, Option.bind_some, readYear_yearText, expectLoose_cons hyphen,
    expectLoose_cons colon, readMonth, readDay, readSeparator, readHour, readMinute, readSecond,
    fraction]
  rfl

/-- Every instant comes back settled from its written form with a `Z`. -/
theorem ofRelaxed?_text : ofRelaxed? (instant.text .letter) = some instant.settled := by
  have offset : readRelaxedOffset (Text.trimStart Zone.letter.text) = some (0, []) := by decide
  have ended : Text.trimStart [] = [] := rfl
  have read := instant.settled.instant?_reading instant.settled_proper
  rw [reading_settled] at read
  simp only [ofRelaxed?, instant.readRelaxed_text, Option.bind_eq_bind, Option.bind_some, offset,
    ended, List.isEmpty_nil, if_true, read]

end ConversationBus.Instant
