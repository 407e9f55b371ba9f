import AutoTrade.Domain.Timestamp
import AutoTrade.Lib.Decimal
import Mathlib.Data.Nat.Find

/-! # Instants written as canonical UTC texts

`formatCanonicalUtcIsoNanoseconds` of `candidate-execution-authority.ts`. The calendar day of an
instant follows ECMAScript: the year is the largest one that does not begin after it, and so is the
month. `format_spec`: what it writes denotes the instant it was given. -/

namespace AutoTrade.Domain.Timestamp

open Lib.Text Lib.Decimal

/-! ### The calendar day -/

/-- The year of a day, counted from the first day of the year `0`. -/
def yearOfDay (day : ℕ) : ℕ :=
  Nat.findGreatest (fun year => daysBeforeYear year ≤ day) (day / 365)

/-- The month of a day, counted from the first day of the year. -/
def monthOfDay (year dayOfYear : ℕ) : ℕ :=
  Nat.findGreatest (fun month => daysBeforeMonth year month ≤ dayOfYear) 12

/-- `n.toString().padStart(width, "0")`. -/
def padStart (width n : ℕ) : List Char := (Nat.toDigits 10 n).leftpad width '0'

/-- The day of an instant in seconds since 1970, counted from the first day of the year `0`. -/
def dayOfSeconds (seconds : ℕ) : ℕ := seconds / 86400 + daysBeforeYear 1970

/-- `new Date(1000 * seconds).toISOString().slice(0, 19)` in the years of four digits, followed by
`rest`. -/
def isoText (seconds : ℕ) (rest : List Char) : List Char :=
  let day := dayOfSeconds seconds
  let year := yearOfDay day
  let dayOfYear := day - daysBeforeYear year
  let month := monthOfDay year dayOfYear
  padStart 4 year ++ '-' :: (padStart 2 month ++
    '-' :: (padStart 2 (dayOfYear - daysBeforeMonth year month + 1) ++
      'T' :: (padStart 2 (seconds % 86400 / 3600) ++
        ':' :: (padStart 2 (seconds % 3600 / 60) ++ ':' :: (padStart 2 (seconds % 60) ++ rest)))))

/-- `formatCanonicalUtcIsoNanoseconds(epochNanoseconds)`. `toISOString` writes the years from 10000 on
with a sign and six digits, which the last check refuses. -/
def formatCanonicalUtcIsoNanoseconds (epochNanoseconds : ℤ) : Except String String :=
  if epochNanoseconds < 0 then .error "Cannot format a pre-epoch timestamp."
  else
    let wholeSeconds := (epochNanoseconds / 1000000000).toNat
    let fractionalNanoseconds := (epochNanoseconds % 1000000000).toNat
    if 8640000000000000 < wholeSeconds * 1000 then
      .error "Epoch nanoseconds exceed the supported UTC calendar range."
    else if 9999 < yearOfDay (dayOfSeconds wholeSeconds) then
      .error "Epoch nanoseconds exceed the supported four-digit UTC year range."
    else
      .ok (String.ofList (isoText wholeSeconds ('.' :: (padStart 9 fractionalNanoseconds ++ ['Z']))))

example : formatCanonicalUtcIsoNanoseconds 1709210096000000007 =
    .ok "2024-02-29T12:34:56.000000007Z" := by decide +kernel

/-! ### Years and months -/

variable (year : ℕ)

theorem daysBeforeYear_le : 365 * year ≤ daysBeforeYear year := by
  unfold daysBeforeYear
  omega

theorem daysBeforeMonth_succ {month : ℕ} (h : 1 ≤ month) :
    daysBeforeMonth year (month + 1) = daysBeforeMonth year month + daysInMonth year month := by
  unfold daysBeforeMonth
  rw [show month + 1 - 1 = (month - 1) + 1 by omega, List.range_succ, List.map_append,
    List.sum_append]
  simp [Nat.sub_add_cancel h]

theorem daysBeforeYear_succ :
    daysBeforeYear (year + 1) = daysBeforeYear year + daysBeforeMonth year 13 := by
  have hmonths : daysBeforeMonth year 13 = 337 + daysInMonth year 2 := by
    simp [daysBeforeMonth, List.range, List.range.loop, daysInMonth]
    omega
  have hleap : daysInMonth year 2 = if isLeapYear year then 29 else 28 := rfl
  have h4 : (year + 1 + 3) / 4 = (year + 3) / 4 + if year % 4 = 0 then 1 else 0 := by
    split_ifs <;> omega
  have h100 : (year + 1 + 99) / 100 = (year + 99) / 100 + if year % 100 = 0 then 1 else 0 := by
    split_ifs <;> omega
  have h400 : (year + 1 + 399) / 400 = (year + 399) / 400 + if year % 400 = 0 then 1 else 0 := by
    split_ifs <;> omega
  have hle : (year + 99) / 100 ≤ 365 * year + (year + 3) / 4 := by omega
  have h100_4 : year % 100 = 0 → year % 4 = 0 := by omega
  have h400_100 : year % 400 = 0 → year % 100 = 0 := by omega
  rw [hmonths, hleap]
  unfold isLeapYear daysBeforeYear
  rw [h4, h100, h400]
  -- from here on only the three remainders matter
  generalize (year + 3) / 4 = fours at *
  generalize (year + 99) / 100 = hundreds at *
  generalize (year + 399) / 400 = fourHundreds at *
  by_cases hy4 : year % 4 = 0 <;> by_cases hy100 : year % 100 = 0 <;>
    by_cases hy400 : year % 400 = 0 <;> simp_all <;> omega

theorem daysBeforeYear_mono {a b : ℕ} (h : a ≤ b) : daysBeforeYear a ≤ daysBeforeYear b := by
  refine monotone_nat_of_le_succ (fun year => ?_) h
  rw [daysBeforeYear_succ]
  exact Nat.le_add_right _ _

theorem yearOfDay_spec (day : ℕ) :
    daysBeforeYear (yearOfDay day) ≤ day ∧ day < daysBeforeYear (yearOfDay day + 1) := by
  constructor
  · exact Nat.findGreatest_spec (P := fun year => daysBeforeYear year ≤ day) (Nat.zero_le _)
      (Nat.zero_le _)
  · rcases Nat.lt_or_ge (day / 365) (yearOfDay day + 1) with h | h
    · have := daysBeforeYear_le (yearOfDay day + 1)
      omega
    · exact not_le.mp (Nat.findGreatest_is_greatest
        (P := fun year => daysBeforeYear year ≤ day) (Nat.lt_succ_self _) h)

theorem yearOfDay_lt_iff (day year : ℕ) : yearOfDay day < year ↔ day < daysBeforeYear year := by
  obtain ⟨hle, hlt⟩ := yearOfDay_spec day
  constructor
  · intro h
    exact lt_of_lt_of_le hlt (daysBeforeYear_mono h)
  · intro h
    by_contra hge
    have := daysBeforeYear_mono (not_lt.mp hge)
    omega

theorem monthOfDay_spec {year dayOfYear : ℕ} (h : dayOfYear < daysBeforeMonth year 13) :
    1 ≤ monthOfDay year dayOfYear ∧ monthOfDay year dayOfYear ≤ 12 ∧
      daysBeforeMonth year (monthOfDay year dayOfYear) ≤ dayOfYear ∧
      dayOfYear < daysBeforeMonth year (monthOfDay year dayOfYear + 1) := by
  have hfirst : daysBeforeMonth year 1 ≤ dayOfYear := Nat.zero_le _
  refine ⟨?_, Nat.findGreatest_le 12, ?_, ?_⟩
  · exact Nat.le_findGreatest (by decide) hfirst
  · exact Nat.findGreatest_spec (P := fun month => daysBeforeMonth year month ≤ dayOfYear)
      (show 1 ≤ 12 by decide) hfirst
  · rcases Nat.lt_or_ge (monthOfDay year dayOfYear) 12 with hlt | hge
    · exact not_le.mp (Nat.findGreatest_is_greatest
        (P := fun month => daysBeforeMonth year month ≤ dayOfYear) (Nat.lt_succ_self _) hlt)
    · have : monthOfDay year dayOfYear = 12 := le_antisymm (Nat.findGreatest_le 12) hge
      rw [this]
      exact h

/-! ### Scanning what was written -/

variable {width n : ℕ}

theorem length_padStart (hw : 0 < width) (h : n < 10 ^ width) :
    (padStart width n).length = width := by
  have := (Nat.length_toDigits_le_iff (b := 10) (by decide) hw).mpr h
  unfold padStart List.leftpad
  rw [List.length_append, List.length_replicate]
  omega

theorem padStart_all_isDigit (width n : ℕ) : (padStart width n).all Char.isDigit = true := by
  unfold padStart List.leftpad
  rw [List.all_append, toDigits_all_isDigit, Bool.and_true, List.all_replicate]
  split_ifs
  · rfl
  · decide

theorem ofDigitChars_padStart (width n : ℕ) : Nat.ofDigitChars 10 (padStart width n) 0 = n := by
  unfold padStart List.leftpad
  rw [Nat.ofDigitChars_append, Nat.ofDigitChars_replicate_zero, Nat.mul_zero,
    Nat.ofDigitChars_ten_toDigits]

variable {digits : List Char}

theorem numeral_append (h : digits.all Char.isDigit = true) (acc : ℕ) (rest : List Char) :
    numeral digits.length acc (digits ++ rest) = some (Nat.ofDigitChars 10 digits acc, rest) := by
  induction digits generalizing acc with
  | nil => rfl
  | cons c digits ih =>
    rw [List.all_cons, Bool.and_eq_true] at h
    rw [List.length_cons, List.cons_append, numeral, if_pos h.1, ih h.2, Nat.ofDigitChars_cons]
    rfl

theorem fraction_append (h : digits.all Char.isDigit = true) (acc : ℕ) (rest : List Char) :
    fraction digits.length acc (digits ++ rest) = (Nat.ofDigitChars 10 digits acc, 0, rest) := by
  induction digits generalizing acc with
  | nil => rfl
  | cons c digits ih =>
    rw [List.all_cons, Bool.and_eq_true] at h
    rw [List.length_cons, List.cons_append, fraction, if_pos h.1, ih h.2, Nat.ofDigitChars_cons]
    rfl

theorem numeral_padStart (hw : 0 < width) (h : n < 10 ^ width) (rest : List Char) :
    numeral width 0 (padStart width n ++ rest) = some (n, rest) := by
  have := numeral_append (padStart_all_isDigit width n) 0 rest
  rwa [length_padStart hw h, ofDigitChars_padStart] at this

theorem scanFraction_padStart {n : ℕ} (h : n < 10 ^ 9) (rest : List Char) :
    scanFraction ('.' :: (padStart 9 n ++ rest)) = some (n, rest) := by
  have := fraction_append (padStart_all_isDigit 9 n) 0 rest
  rw [length_padStart (by decide) h, ofDigitChars_padStart] at this
  simp [scanFraction, this]

theorem fraction_append_Z (h : digits.all Char.isDigit = true) (missing acc : ℕ) :
    fraction (digits.length + missing) acc (digits ++ ['Z']) =
      (Nat.ofDigitChars 10 digits acc, missing, ['Z']) := by
  induction digits generalizing acc with
  | nil =>
    rw [List.length_nil, Nat.zero_add]
    cases missing with
    | zero => rfl
    | succ missing => rfl
  | cons c digits ih =>
    rw [List.all_cons, Bool.and_eq_true] at h
    rw [List.length_cons, Nat.add_right_comm, List.cons_append, fraction, if_pos h.1, ih h.2,
      Nat.ofDigitChars_cons]
    rfl

theorem scanFraction_milliseconds {n : ℕ} (h : n < 1000) :
    scanFraction ('.' :: (padStart 3 n ++ ['Z'])) = some (n * 1000000, ['Z']) := by
  have hread : fraction 9 0 (padStart 3 n ++ ['Z']) = (n, 6, ['Z']) := by
    have := fraction_append_Z (padStart_all_isDigit 3 n) 6 0
    rwa [length_padStart (by decide) h, ofDigitChars_padStart] at this
  simp [scanFraction, hread]

@[simp] theorem literal_cons (c : Char) (rest : List Char) : literal c (c :: rest) = some rest :=
  if_pos rfl

/-- The groups that the text of an instant is scanned to. -/
def fieldsOf (seconds nanoseconds : ℕ) : Fields where
  year := yearOfDay (dayOfSeconds seconds)
  month := monthOfDay (yearOfDay (dayOfSeconds seconds))
    (dayOfSeconds seconds - daysBeforeYear (yearOfDay (dayOfSeconds seconds)))
  day := dayOfSeconds seconds - daysBeforeYear (yearOfDay (dayOfSeconds seconds)) -
    daysBeforeMonth (yearOfDay (dayOfSeconds seconds)) (monthOfDay (yearOfDay (dayOfSeconds seconds))
      (dayOfSeconds seconds - daysBeforeYear (yearOfDay (dayOfSeconds seconds)))) + 1
  hour := seconds % 86400 / 3600
  minute := seconds % 3600 / 60
  second := seconds % 60
  fractionNanoseconds := nanoseconds
  offsetNegative := false
  offsetHour := 0
  offsetMinute := 0

theorem daysInMonth_le (year month : ℕ) : daysInMonth year month ≤ 31 := by
  unfold daysInMonth
  split_ifs <;> omega

theorem calendar_spec (day : ℕ) {year month dayOfMonth : ℕ} (hyear : year = yearOfDay day)
    (hmonth : month = monthOfDay year (day - daysBeforeYear year))
    (hday : dayOfMonth = day - daysBeforeYear year - daysBeforeMonth year month + 1) :
    1 ≤ month ∧ month ≤ 12 ∧ 1 ≤ dayOfMonth ∧ dayOfMonth ≤ daysInMonth year month ∧
      daysBeforeYear year + daysBeforeMonth year month + (dayOfMonth - 1) = day := by
  obtain ⟨hle, hnext⟩ := yearOfDay_spec day
  rw [← hyear] at hle hnext
  rw [daysBeforeYear_succ] at hnext
  have hlt : day - daysBeforeYear year < daysBeforeMonth year 13 := by omega
  obtain ⟨hm1, hm12, hbefore, hmnext⟩ := monthOfDay_spec hlt
  rw [← hmonth] at hm1 hm12 hbefore hmnext
  rw [daysBeforeMonth_succ _ hm1] at hmnext
  exact ⟨hm1, hm12, by omega, by omega, by omega⟩

theorem fieldsOf_spec (seconds nanoseconds : ℕ) :
    1 ≤ (fieldsOf seconds nanoseconds).month ∧ (fieldsOf seconds nanoseconds).month ≤ 12 ∧
      1 ≤ (fieldsOf seconds nanoseconds).day ∧
      (fieldsOf seconds nanoseconds).day ≤ daysInMonth (fieldsOf seconds nanoseconds).year
        (fieldsOf seconds nanoseconds).month ∧
      daysBeforeYear (fieldsOf seconds nanoseconds).year +
        daysBeforeMonth (fieldsOf seconds nanoseconds).year (fieldsOf seconds nanoseconds).month +
        ((fieldsOf seconds nanoseconds).day - 1) = dayOfSeconds seconds := by
  have hspec := calendar_spec (dayOfSeconds seconds) rfl rfl rfl
  unfold fieldsOf
  dsimp only
  exact hspec

theorem numeral_padStart_bind {β : Type} {f : ℕ × List Char → Option β} (hw : 0 < width)
    (h : n < 10 ^ width) (rest : List Char) :
    (numeral width 0 (padStart width n ++ rest)).bind f = f (n, rest) := by
  rw [numeral_padStart hw h]
  rfl

theorem literal_bind {β : Type} {c : Char} {f : List Char → Option β} (rest : List Char) :
    (literal c (c :: rest)).bind f = f rest := by
  rw [literal_cons]
  rfl

theorem scan_eq (input : String) : scan input =
    (numeral 4 0 input.toList).bind fun year => (literal '-' year.2).bind fun rest =>
    (numeral 2 0 rest).bind fun month => (literal '-' month.2).bind fun rest =>
    (numeral 2 0 rest).bind fun day => (literal 'T' day.2).bind fun rest =>
    (numeral 2 0 rest).bind fun hour => (literal ':' hour.2).bind fun rest =>
    (numeral 2 0 rest).bind fun minute => (literal ':' minute.2).bind fun rest =>
    (numeral 2 0 rest).bind fun second => (scanFraction second.2).bind fun fraction =>
    (scanZone fraction.2).bind fun zone =>
    some { year := year.1, month := month.1, day := day.1, hour := hour.1, minute := minute.1,
           second := second.1, fractionNanoseconds := fraction.1, offsetNegative := zone.1,
           offsetHour := zone.2.1, offsetMinute := zone.2.2 } := rfl

/-- A calendar second as a text, followed by `rest`. -/
def civilText (year month day hour minute second : ℕ) (rest : List Char) : List Char :=
  padStart 4 year ++ '-' :: (padStart 2 month ++ '-' :: (padStart 2 day ++ 'T' :: (padStart 2 hour ++
    ':' :: (padStart 2 minute ++ ':' :: (padStart 2 second ++ rest)))))

/-- A calendar second is scanned to its groups, and then its fraction and its timezone are. -/
theorem scan_civilText {year month day hour minute second : ℕ} (hyear : year < 10000)
    (hmonth : month < 100) (hday : day < 100) (hhour : hour < 100) (hminute : minute < 100)
    (hsecond : second < 100) (rest : List Char) :
    scan (String.ofList (civilText year month day hour minute second rest)) =
      (scanFraction rest).bind fun fraction => (scanZone fraction.2).map fun zone =>
        { year, month, day, hour, minute, second, fractionNanoseconds := fraction.1,
          offsetNegative := zone.1, offsetHour := zone.2.1, offsetMinute := zone.2.2 } := by
  rw [scan_eq, String.toList_ofList]
  unfold civilText
  rw [numeral_padStart_bind (by decide) hyear, literal_bind,
    numeral_padStart_bind (by decide) hmonth, literal_bind,
    numeral_padStart_bind (by decide) hday, literal_bind,
    numeral_padStart_bind (by decide) hhour, literal_bind,
    numeral_padStart_bind (by decide) hminute, literal_bind,
    numeral_padStart_bind (by decide) hsecond]
  cases scanFraction rest with
  | none => rfl
  | some fraction =>
    rw [Option.bind_some, Option.bind_some]
    cases scanZone fraction.2 with
    | none => rfl
    | some zone => rfl

theorem scan_isoText_bind {seconds : ℕ} (hyear : yearOfDay (dayOfSeconds seconds) ≤ 9999)
    (rest : List Char) :
    scan (String.ofList (isoText seconds rest)) =
      (scanFraction rest).bind fun fraction => (scanZone fraction.2).map fun zone =>
        { fieldsOf seconds fraction.1 with
          offsetNegative := zone.1, offsetHour := zone.2.1, offsetMinute := zone.2.2 } := by
  obtain ⟨-, hm12, -, hday, -⟩ := fieldsOf_spec seconds 0
  have hday31 := daysInMonth_le (fieldsOf seconds 0).year (fieldsOf seconds 0).month
  unfold fieldsOf at hm12 hday hday31 ⊢
  dsimp only at hm12 hday hday31
  exact scan_civilText (by omega) (by omega) (by omega) (by omega) (by omega) (by omega) rest

variable {seconds nanoseconds : ℕ}

theorem scan_isoText_rest {rest : List Char} (hyear : yearOfDay (dayOfSeconds seconds) ≤ 9999)
    (hrest : scanFraction rest = some (nanoseconds, ['Z'])) :
    scan (String.ofList (isoText seconds rest)) = some (fieldsOf seconds nanoseconds) := by
  rw [scan_isoText_bind hyear, hrest]
  rfl

theorem scan_isoText (hyear : yearOfDay (dayOfSeconds seconds) ≤ 9999) (hn : nanoseconds < 10 ^ 9) :
    scan (String.ofList (isoText seconds ('.' :: (padStart 9 nanoseconds ++ ['Z'])))) =
      some (fieldsOf seconds nanoseconds) :=
  scan_isoText_rest hyear (scanFraction_padStart hn ['Z'])

theorem inCandidateRange_fieldsOf (seconds nanoseconds : ℕ) :
    (fieldsOf seconds nanoseconds).inCandidateRange = true := by
  obtain ⟨hm1, hm12, hd1, hday, -⟩ := fieldsOf_spec seconds nanoseconds
  simp only [Fields.inCandidateRange, Fields.hasValidTimezone, decide_eq_true_eq]
  refine ⟨hm1, hm12, hd1, hday, ?_, ?_, ?_, ?_⟩
  · change seconds % 86400 / 3600 ≤ 23
    omega
  · change seconds % 3600 / 60 ≤ 59
    omega
  · change seconds % 60 ≤ 59
    omega
  · exact ⟨Nat.zero_le _, Or.inl (Nat.succ_pos 13)⟩

theorem inRange_fieldsOf (seconds nanoseconds : ℕ) :
    (fieldsOf seconds nanoseconds).inRange = true := by
  obtain ⟨hm1, hm12, hd1, hday, -⟩ := fieldsOf_spec seconds nanoseconds
  have hyear : ¬ (fieldsOf seconds nanoseconds).year ≤ 99 := by
    have hlate : ¬ yearOfDay (dayOfSeconds seconds) < 100 := by
      rw [yearOfDay_lt_iff, dayOfSeconds]
      have hepoch : daysBeforeYear 100 ≤ daysBeforeYear 1970 := daysBeforeYear_mono (by norm_num)
      omega
    exact fun hle => hlate (Nat.lt_succ_iff.mpr hle)
  simp only [Fields.inRange, decide_eq_true_eq]
  refine ⟨hm1, hm12, hd1, ?_, ?_, ?_, ?_, Nat.zero_le _, Nat.zero_le _⟩
  · rw [utcDaysInMonth, if_neg hyear]
    exact hday
  · change seconds % 86400 / 3600 ≤ 23
    omega
  · change seconds % 3600 / 60 ≤ 59
    omega
  · change seconds % 60 ≤ 59
    omega

theorem epochSeconds_fieldsOf (seconds nanoseconds : ℕ) :
    (fieldsOf seconds nanoseconds).epochSeconds = seconds := by
  obtain ⟨-, -, -, -, hsum⟩ := fieldsOf_spec seconds nanoseconds
  have hday : epochDay (fieldsOf seconds nanoseconds).year (fieldsOf seconds nanoseconds).month
      (fieldsOf seconds nanoseconds).day = seconds / 86400 := by
    unfold epochDay
    rw [hsum]
    unfold dayOfSeconds
    omega
  have htime : 3600 * (fieldsOf seconds nanoseconds).hour +
      60 * (fieldsOf seconds nanoseconds).minute + (fieldsOf seconds nanoseconds).second =
      seconds % 86400 := by
    change 3600 * (seconds % 86400 / 3600) + 60 * (seconds % 3600 / 60) + seconds % 60 = _
    omega
  have hzone : (fieldsOf seconds nanoseconds).offsetNegative = false := rfl
  have hhour : (fieldsOf seconds nanoseconds).offsetHour = 0 := rfl
  have hminute : (fieldsOf seconds nanoseconds).offsetMinute = 0 := rfl
  unfold Fields.epochSeconds
  rw [hday, htime, hzone, hhour, hminute]
  simp
  omega

/-! ### The round trip -/

/-- The first instant of the year 10000, in nanoseconds since 1970. -/
def endOfFourDigitYears : ℤ := 253402300800000000000

theorem yearOfDay_seconds_iff (seconds : ℕ) :
    9999 < yearOfDay (dayOfSeconds seconds) ↔ 253402300800 ≤ seconds := by
  have hbound : daysBeforeYear 10000 = 253402300800 / 86400 + daysBeforeYear 1970 := by decide
  rw [← not_iff_not, not_lt, ← Nat.lt_succ_iff, yearOfDay_lt_iff, hbound, dayOfSeconds]
  omega

theorem instant_of_scan {text : String} {fields : Fields} (h : scan text = some fields) :
    instant text = fields.epochSeconds * 1000000000 + fields.fractionNanoseconds := by
  unfold instant
  rw [h]

theorem instant_isoText (hyear : yearOfDay (dayOfSeconds seconds) ≤ 9999)
    (hn : nanoseconds < 10 ^ 9) :
    instant (String.ofList (isoText seconds ('.' :: (padStart 9 nanoseconds ++ ['Z'])))) =
      seconds * 1000000000 + nanoseconds := by
  have hnano : (fieldsOf seconds nanoseconds).fractionNanoseconds = nanoseconds := rfl
  rw [instant_of_scan (scan_isoText hyear hn), epochSeconds_fieldsOf, hnano]

variable {t : ℤ}

theorem format_eq (h0 : 0 ≤ t) (h : t < endOfFourDigitYears) :
    formatCanonicalUtcIsoNanoseconds t = .ok (String.ofList (isoText (t / 1000000000).toNat
      ('.' :: (padStart 9 (t % 1000000000).toNat ++ ['Z'])))) := by
  unfold endOfFourDigitYears at h
  have hyear : ¬ 9999 < yearOfDay (dayOfSeconds (t / 1000000000).toNat) := by
    rw [yearOfDay_seconds_iff]
    omega
  have hmax : ¬ 8640000000000000 < (t / 1000000000).toNat * 1000 := by omega
  unfold formatCanonicalUtcIsoNanoseconds
  rw [if_neg (not_lt.mpr h0)]
  dsimp only
  rw [if_neg hmax, if_neg hyear]

/-- **Before the year 10000 the text denotes the instant it was written for.** -/
theorem format_spec (h0 : 0 ≤ t) (h : t < endOfFourDigitYears) :
    ∃ text, formatCanonicalUtcIsoNanoseconds t = .ok text ∧ IsCandidateTimestamp text ∧
      instant text = t := by
  have hlate : ¬ 9999 < yearOfDay (dayOfSeconds (t / 1000000000).toNat) := by
    unfold endOfFourDigitYears at h
    rw [yearOfDay_seconds_iff]
    omega
  have hyear := not_lt.mp hlate
  have hlt : (t % 1000000000).toNat < 10 ^ 9 := by omega
  refine ⟨_, format_eq h0 h, ⟨_, scan_isoText hyear hlt, inCandidateRange_fieldsOf _ _⟩, ?_⟩
  rw [instant_isoText hyear hlt]
  omega

theorem isStrictIso_of_format {text : String} (h : formatCanonicalUtcIsoNanoseconds t = .ok text) :
    IsStrictIso text := by
  unfold formatCanonicalUtcIsoNanoseconds at h
  dsimp only at h
  split_ifs at h with hneg hmax hyear
  have hlt : (t % 1000000000).toNat < 10 ^ 9 := by omega
  rw [← Except.ok.inj h]
  exact ⟨_, scan_isoText (not_lt.mp hyear) hlt, inRange_fieldsOf _ _⟩

theorem format_of_late (h : endOfFourDigitYears ≤ t) :
    ∃ e, formatCanonicalUtcIsoNanoseconds t = .error e := by
  unfold endOfFourDigitYears at h
  unfold formatCanonicalUtcIsoNanoseconds
  dsimp only
  rw [if_neg (by omega)]
  by_cases hmax : 8640000000000000 < (t / 1000000000).toNat * 1000
  · exact ⟨_, if_pos hmax⟩
  · rw [if_neg hmax, if_pos ((yearOfDay_seconds_iff _).mpr (by omega))]
    exact ⟨_, rfl⟩

end AutoTrade.Domain.Timestamp
