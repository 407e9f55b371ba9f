import AutoTrade.Domain.TimestampText

/-! # Dates as ISO texts

`Date.prototype.toISOString` over the whole range of times, in milliseconds since 1970: four digits for
the years `0` to `9999`, a sign and six digits for the others. A text of a four-digit year is a strict
timestamp of its instant (`instant_isoDateText`), a text of another year is none, as it starts with a
sign (`sign_isoDateText`).

`Date.parse` reads more than timestamps, in a way that depends on the engine. What is relied on is the
`DateParser`: it reads a strict timestamp as its millisecond. -/

namespace AutoTrade.Domain.IsoDate

open Lib.Text Domain.Timestamp

/-! ### The text of a time -/

/-- The largest time of a `Date`. -/
def maxTimeMs : ℤ := 8640000000000000

/-- The day of a time, counted from the first day of the year `0`. -/
def dayNumber (ms : ℤ) : ℤ := ms / 86400000 + daysBeforeYear 1970

/-- The calendar repeats after 400 years: how often a day is moved by them to lie after the first day
of the year `0`. -/
def cyclesBefore (day : ℤ) : ℕ := (-(day / 146097)).toNat

def yearText (year : ℤ) : List Char :=
  if year < 0 then '-' :: padStart 6 year.natAbs
  else if 9999 < year then '+' :: padStart 6 year.toNat
  else padStart 4 year.toNat

/-- The text after the year, of a day counted as above and a millisecond of it. -/
def afterYear (day time : ℕ) : List Char :=
  let year := yearOfDay day
  let dayOfYear := day - daysBeforeYear year
  let month := monthOfDay year dayOfYear
  '-' :: (padStart 2 month ++ '-' :: (padStart 2 (dayOfYear - daysBeforeMonth year month + 1) ++
    'T' :: (padStart 2 (time / 3600000) ++ ':' :: (padStart 2 (time % 3600000 / 60000) ++
      ':' :: (padStart 2 (time % 60000 / 1000) ++ '.' :: (padStart 3 (time % 1000) ++ ['Z']))))))

/-- `new Date(ms).toISOString()` of a time in the range of dates. -/
def isoDateText (ms : ℤ) : String :=
  let cycles := cyclesBefore (dayNumber ms)
  let day := (dayNumber ms + 146097 * cycles).toNat
  String.ofList (yearText (yearOfDay day - 400 * cycles) ++ afterYear day (ms % 86400000).toNat)

def inDateRange (ms : ℤ) : Bool := -maxTimeMs ≤ ms ∧ ms ≤ maxTimeMs

/-- `new Date(ms).toISOString()`; `none` is a `RangeError`. -/
def toISOString (ms : ℤ) : Option String := if inDateRange ms then some (isoDateText ms) else none

example : isoDateText (-1) = "1969-12-31T23:59:59.999Z" := by decide +kernel
example : isoDateText (-maxTimeMs) = "-271821-04-20T00:00:00.000Z" := by decide +kernel

/-! ### Four-digit years -/

/-- The first instant of the year `0` and of the year `10000`, in milliseconds. -/
def firstYearMs : ℤ := -62167219200000
def lateYearMs : ℤ := 253402300800000

/-- The time lies in the years `0` to `9999`. -/
def FourDigitYear (ms : ℤ) : Prop := firstYearMs ≤ ms ∧ ms < lateYearMs

instance (ms : ℤ) : Decidable (FourDigitYear ms) := inferInstanceAs (Decidable (_ ∧ _))

theorem daysBeforeYear_1970 : daysBeforeYear 1970 = 719528 := by decide

theorem cyclesBefore_of_nonneg {day : ℤ} (h : 0 ≤ day) : cyclesBefore day = 0 := by
  unfold cyclesBefore
  omega

theorem moved_nonneg (day : ℤ) : 0 ≤ day + 146097 * cyclesBefore day := by
  unfold cyclesBefore
  omega

variable {ms : ℤ}

theorem dayNumber_nonneg (h : firstYearMs ≤ ms) : 0 ≤ dayNumber ms := by
  unfold firstYearMs at h
  unfold dayNumber
  rw [daysBeforeYear_1970]
  omega

theorem yearOfDay_le {day : ℕ} (h : day < daysBeforeYear 10000) : yearOfDay day ≤ 9999 :=
  Nat.lt_succ_iff.mp ((yearOfDay_lt_iff day 10000).mpr h)

/-- The groups that a text of a four-digit year is scanned to. -/
def fieldsOfDay (day time : ℕ) : Fields where
  year := yearOfDay day
  month := monthOfDay (yearOfDay day) (day - daysBeforeYear (yearOfDay day))
  day := day - daysBeforeYear (yearOfDay day) - daysBeforeMonth (yearOfDay day)
    (monthOfDay (yearOfDay day) (day - daysBeforeYear (yearOfDay day))) + 1
  hour := time / 3600000
  minute := time % 3600000 / 60000
  second := time % 60000 / 1000
  fractionNanoseconds := time % 1000 * 10 ^ 6
  offsetNegative := false
  offsetHour := 0
  offsetMinute := 0

theorem fieldsOfDay_spec (day time : ℕ) :
    1 ≤ (fieldsOfDay day time).month ∧ (fieldsOfDay day time).month ≤ 12 ∧
      1 ≤ (fieldsOfDay day time).day ∧
      (fieldsOfDay day time).day ≤ daysInMonth (fieldsOfDay day time).year
        (fieldsOfDay day time).month ∧
      daysBeforeYear (fieldsOfDay day time).year +
        daysBeforeMonth (fieldsOfDay day time).year (fieldsOfDay day time).month +
        ((fieldsOfDay day time).day - 1) = day := by
  have hspec := calendar_spec day rfl rfl rfl
  unfold fieldsOfDay
  dsimp only
  exact hspec

theorem scan_fourDigitText {day time : ℕ} (hyear : yearOfDay day ≤ 9999) (htime : time < 86400000) :
    scan (String.ofList (padStart 4 (yearOfDay day) ++ afterYear day time)) =
      some (fieldsOfDay day time) := by
  obtain ⟨-, hm12, -, hday, -⟩ := fieldsOfDay_spec day time
  have hday31 := daysInMonth_le (fieldsOfDay day time).year (fieldsOfDay day time).month
  unfold fieldsOfDay at hm12 hday hday31
  dsimp only at hm12 hday hday31
  have hscan := scan_civilText (show yearOfDay day < 10000 by omega)
    (show monthOfDay (yearOfDay day) (day - daysBeforeYear (yearOfDay day)) < 100 by omega)
    (show _ < 100 by exact hday.trans_lt (by omega)) (show time / 3600000 < 100 by omega)
    (show time % 3600000 / 60000 < 100 by omega) (show time % 60000 / 1000 < 100 by omega)
    ('.' :: (padStart 3 (time % 1000) ++ ['Z']))
  rw [scanFraction_milliseconds (by omega)] at hscan
  exact hscan

theorem inCandidateRange_fieldsOfDay {day time : ℕ} (htime : time < 86400000) :
    (fieldsOfDay day time).inCandidateRange = true := by
  obtain ⟨hm1, hm12, hd1, hday, -⟩ := fieldsOfDay_spec day time
  simp only [Fields.inCandidateRange, Fields.hasValidTimezone, decide_eq_true_eq]
  refine ⟨hm1, hm12, hd1, hday, ?_, ?_, ?_, ?_⟩
  · change time / 3600000 ≤ 23
    omega
  · change time % 3600000 / 60000 ≤ 59
    omega
  · change time % 60000 / 1000 ≤ 59
    omega
  · exact ⟨Nat.zero_le _, Or.inl (Nat.succ_pos 13)⟩

theorem epochSeconds_fieldsOfDay (day time : ℕ) :
    (fieldsOfDay day time).epochSeconds = 86400 * ((day : ℤ) - 719528) + (time / 1000 : ℕ) := by
  obtain ⟨-, -, -, -, hsum⟩ := fieldsOfDay_spec day time
  have hday : epochDay (fieldsOfDay day time).year (fieldsOfDay day time).month
      (fieldsOfDay day time).day = day - 719528 := by
    unfold epochDay
    rw [hsum, daysBeforeYear_1970]
    rfl
  have htime : 3600 * (fieldsOfDay day time).hour + 60 * (fieldsOfDay day time).minute +
      (fieldsOfDay day time).second = time / 1000 := by
    change 3600 * (time / 3600000) + 60 * (time % 3600000 / 60000) + time % 60000 / 1000 = _
    omega
  have hzone : (fieldsOfDay day time).offsetNegative = false := rfl
  have hhour : (fieldsOfDay day time).offsetHour = 0 := rfl
  have hminute : (fieldsOfDay day time).offsetMinute = 0 := rfl
  unfold Fields.epochSeconds
  rw [hday, htime, hzone, hhour, hminute]
  simp

theorem year_le_of_fourDigit (h : FourDigitYear ms) :
    yearOfDay (dayNumber ms).toNat ≤ 9999 := by
  have hbound : daysBeforeYear 10000 = 3652425 := by decide
  have hnonneg := dayNumber_nonneg h.1
  have hlate := h.2
  refine yearOfDay_le ?_
  unfold lateYearMs at hlate
  unfold dayNumber at hnonneg ⊢
  rw [daysBeforeYear_1970] at hnonneg ⊢
  omega

theorem toList_isoDateText (h : FourDigitYear ms) :
    (isoDateText ms).toList = padStart 4 (yearOfDay (dayNumber ms).toNat) ++
      afterYear (dayNumber ms).toNat (ms % 86400000).toNat := by
  have hyear := year_le_of_fourDigit h
  have htext : yearText (yearOfDay (dayNumber ms).toNat) =
      padStart 4 (yearOfDay (dayNumber ms).toNat) := by
    unfold yearText
    rw [if_neg (by omega), if_neg (by omega)]
    rfl
  unfold isoDateText
  rw [cyclesBefore_of_nonneg (dayNumber_nonneg h.1), String.toList_ofList]
  simp only [Nat.cast_zero, mul_zero, add_zero, sub_zero]
  rw [htext]

theorem scan_isoDateText (h : FourDigitYear ms) :
    scan (isoDateText ms) = some (fieldsOfDay (dayNumber ms).toNat (ms % 86400000).toNat) := by
  have htext := congrArg String.ofList (toList_isoDateText h)
  rw [String.ofList_toList] at htext
  rw [htext]
  exact scan_fourDigitText (year_le_of_fourDigit h) (by omega)

/-- **A text of a four-digit year denotes the time it was written for.** -/
theorem instant_isoDateText (h : FourDigitYear ms) :
    IsCandidateTimestamp (isoDateText ms) ∧ instant (isoDateText ms) = ms * 1000000 := by
  have hscan := scan_isoDateText h
  refine ⟨⟨_, hscan, inCandidateRange_fieldsOfDay (by omega)⟩, ?_⟩
  have hnano : (fieldsOfDay (dayNumber ms).toNat (ms % 86400000).toNat).fractionNanoseconds =
      (ms % 86400000).toNat % 1000 * 10 ^ 6 := rfl
  have hnonneg := dayNumber_nonneg h.1
  unfold instant
  rw [hscan]
  dsimp only
  rw [epochSeconds_fieldsOfDay, hnano]
  unfold dayNumber at hnonneg ⊢
  rw [daysBeforeYear_1970] at hnonneg ⊢
  push_cast
  omega

/-! ### Other years -/

theorem scan_of_sign {sign : Char} (h : sign.isDigit = false) (rest : List Char) :
    scan (String.ofList (sign :: rest)) = none := by
  unfold scan
  rw [String.toList_ofList, numeral, if_neg (by simp [h])]
  rfl

/-- The text of another year starts with a sign. -/
theorem sign_isoDateText (h : ¬ FourDigitYear ms) :
    ∃ sign rest, (isoDateText ms).toList = sign :: rest ∧ sign.isDigit = false := by
  have hbound : daysBeforeYear 10000 = 3652425 := by decide
  set cycles := cyclesBefore (dayNumber ms) with hcycles
  set day := (dayNumber ms + 146097 * cycles).toNat with hday
  have hyear : (yearOfDay day : ℤ) - 400 * cycles < 0 ∨ 9999 < (yearOfDay day : ℤ) - 400 * cycles := by
    by_cases hfirst : firstYearMs ≤ ms
    · right
      have hnonneg := dayNumber_nonneg hfirst
      rw [hcycles, cyclesBefore_of_nonneg hnonneg] at hday ⊢
      have hlate : daysBeforeYear 10000 ≤ day := by
        unfold FourDigitYear lateYearMs at h
        unfold dayNumber at hday
        rw [daysBeforeYear_1970] at hday
        omega
      have := (yearOfDay_lt_iff day 10000).not.mpr (not_lt.mpr hlate)
      omega
    · left
      have hneg : dayNumber ms < 0 := by
        unfold firstYearMs at hfirst
        unfold dayNumber
        rw [daysBeforeYear_1970]
        omega
      have hcycle : daysBeforeYear (400 * cycles) = 146097 * cycles := by
        unfold daysBeforeYear
        omega
      have hlt : day < daysBeforeYear (400 * cycles) := by
        have := moved_nonneg (dayNumber ms)
        rw [hcycle]
        omega
      have := (yearOfDay_lt_iff day (400 * cycles)).mpr hlt
      omega
  have htext : (isoDateText ms).toList =
      yearText (yearOfDay day - 400 * cycles) ++ afterYear day (ms % 86400000).toNat := by
    unfold isoDateText
    rw [String.toList_ofList]
  rw [htext]
  unfold yearText
  rcases hyear with hneg | hlate
  · rw [if_pos hneg]
    exact ⟨_, _, rfl, by decide⟩
  · rw [if_neg (by omega), if_pos hlate]
    exact ⟨_, _, rfl, by decide⟩

/-! ### `Date.parse` -/

/-- What is known of `Date.parse`; `none` is `NaN`. -/
structure DateParser where
  parse : String → Option ℤ
  strict : ∀ text, IsCandidateTimestamp text → parse text = some (instant text / 1000000)

/-- The parser that reads strict timestamps only. -/
def DateParser.timestamps : DateParser where
  parse text := if IsCandidateTimestamp text then some (instant text / 1000000) else none
  strict _ h := if_pos h

theorem DateParser.parse_isoDateText (dates : DateParser) (h : FourDigitYear ms) :
    dates.parse (isoDateText ms) = some ms := by
  obtain ⟨hcandidate, hinstant⟩ := instant_isoDateText h
  rw [dates.strict _ hcandidate, hinstant]
  congr 1
  omega

end AutoTrade.Domain.IsoDate
