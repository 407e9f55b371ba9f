import AutoTrade.Domain.IsoOrder

/-! # Performance timestamps

`parsePerformanceTimestamp` of `performance-timestamp.ts` with the text it normalizes to: the whole
second in UTC, cut out of `toISOString`, and the digits of the fraction as they were written, at least
three of them.

* `parse_stampText`: such a text of a four-digit year is read back as the instant it was written for,
  `parse_stampText_other`: one of another year is not read at all.
* `canonical_iff`: when normalized texts stand for instants. -/

namespace AutoTrade.Performance.Timestamp

open Lib.Text Lib.Decimal Domain.Timestamp Domain.IsoDate
open Domain.IsoOrder Lib.Result

/-! ### Texts of instants -/

/-- `new Date(1000 * seconds).toISOString().slice(0, 19)`. -/
def secondText (seconds : ℤ) : List Char := (isoDateText (1000 * seconds)).toList.take 19

/-- A whole second in UTC with the digits of a fraction. -/
def stampText (seconds : ℤ) (fraction : List Char) : String :=
  String.ofList (secondText seconds ++ '.' :: (fraction ++ ['Z']))

/-- The second lies in the years `0` to `9999`. -/
def FourDigitSecond (seconds : ℤ) : Prop := FourDigitYear (1000 * seconds)

instance (seconds : ℤ) : Decidable (FourDigitSecond seconds) :=
  inferInstanceAs (Decidable (FourDigitYear _))

/-- `HOUR_NANOSECONDS`. -/
def hourNanoseconds : ℤ := 3600000000000

/-! ### The parser -/

structure PerformanceTimestamp where
  normalized : String
  epochNanoseconds : ℤ
  deriving DecidableEq

/-- `match[7] ?? ""`: the digits of the fraction, after the nineteen characters of the second. -/
def fractionText (value : String) : List Char :=
  match value.toList.drop 19 with
  | '.' :: rest => (rest.takeWhile Char.isDigit).take 9
  | _ => []

/-- The digits of the fraction in the normalized text, `fraction.padEnd(3, "0")` where they are less
than three. -/
def normalizedFraction (value : String) : List Char := (fractionText value).rightpad 3 '0'

def parsePerformanceTimestamp (value : String) : Option PerformanceTimestamp :=
  match scan value with
  | none => none
  | some f =>
    if f.inPerformanceRange then
      f.dateParse.map fun seconds =>
        { normalized := stampText seconds (normalizedFraction value)
          epochNanoseconds := seconds * 1000000000 + f.fractionNanoseconds }
    else none

example : parsePerformanceTimestamp "2024-01-01T08:59:59.25+09:00" =
    some ⟨"2023-12-31T23:59:59.250Z", 1704067199250000000⟩ := by decide +kernel

def performanceTimestampEpochNanoseconds (value : String) : Except String ℤ :=
  match parsePerformanceTimestamp value with
  | none => .error ("Invalid performance timestamp " ++ value ++ ".")
  | some parsed => .ok parsed.epochNanoseconds

variable {value : String} {t : PerformanceTimestamp}

/-- **The accepted texts are the candidate timestamps**, read as the instants they denote. -/
theorem parse_eq_some_iff :
    parsePerformanceTimestamp value = some t ↔ ∃ f, scan value = some f ∧ f.inCandidateRange = true ∧
      t = ⟨stampText f.epochSeconds (normalizedFraction value), instant value⟩ := by
  unfold parsePerformanceTimestamp instant
  cases hs : scan value with
  | none => simp
  | some f =>
    have hcandidate := inCandidateRange_iff f
    dsimp only
    by_cases hr : f.inPerformanceRange = true
    · by_cases hm : f.offsetMinute ≤ 59
      · rw [if_pos hr, Fields.dateParse, if_pos hm, Option.map_some, Option.some.injEq]
        constructor
        · intro h
          exact ⟨f, rfl, hcandidate.mpr ⟨hr, hm⟩, h.symm⟩
        · rintro ⟨g, hg, -, ht⟩
          rw [ht, ← Option.some.inj hg]
      · rw [if_pos hr, Fields.dateParse, if_neg hm, Option.map_none]
        constructor
        · intro h
          cases h
        · rintro ⟨g, hg, hrange, -⟩
          exact absurd (hcandidate.mp (Option.some.inj hg ▸ hrange)).2 hm
    · rw [if_neg hr]
      constructor
      · intro h
        cases h
      · rintro ⟨g, hg, hrange, -⟩
        exact absurd (hcandidate.mp (Option.some.inj hg ▸ hrange)).1 hr

theorem isCandidateTimestamp_of_parse (h : parsePerformanceTimestamp value = some t) :
    IsCandidateTimestamp value ∧ t.epochNanoseconds = instant value := by
  obtain ⟨f, hf, hr, rfl⟩ := parse_eq_some_iff.mp h
  exact ⟨⟨f, hf, hr⟩, rfl⟩

theorem parse_isSome_iff (value : String) :
    (parsePerformanceTimestamp value).isSome ↔ IsCandidateTimestamp value := by
  rw [Option.isSome_iff_exists]
  constructor
  · rintro ⟨t, h⟩
    exact (isCandidateTimestamp_of_parse h).1
  · rintro ⟨f, hf, hr⟩
    exact ⟨_, parse_eq_some_iff.mpr ⟨f, hf, hr, rfl⟩⟩

/-! ### The second of a text -/

/-- The whole second of the groups, followed by `rest`. -/
def civilOf (f : Fields) (rest : List Char) : List Char :=
  civilText f.year f.month f.day f.hour f.minute f.second rest

/-- The groups fit the fields of a text. -/
structure Written (f : Fields) : Prop where
  year : f.year < 10000
  month : f.month < 100
  day : f.day < 100
  hour : f.hour < 100
  minute : f.minute < 100
  second : f.second < 100

theorem written_fieldsOfDay {day time : ℕ} (hyear : yearOfDay day ≤ 9999) (htime : time < 86400000) :
    Written (fieldsOfDay day time) := by
  obtain ⟨-, hm12, -, hday, -⟩ := fieldsOfDay_spec day time
  have hday31 := daysInMonth_le (fieldsOfDay day time).year (fieldsOfDay day time).month
  refine ⟨Nat.lt_succ_of_le hyear, by omega, by omega, ?_, ?_, ?_⟩
  · change time / 3600000 < 100
    omega
  · change time % 3600000 / 60000 < 100
    omega
  · change time % 60000 / 1000 < 100
    omega

theorem civilOf_append (f : Fields) (rest : List Char) : civilOf f [] ++ rest = civilOf f rest := by
  simp [civilOf, civilText]

variable {f : Fields}

theorem Written.length (h : Written f) : (civilOf f []).length = 19 := by
  unfold civilOf civilText
  simp only [List.length_append, List.length_cons, List.length_nil]
  rw [length_padStart (by decide) h.year, length_padStart (by decide) h.month,
    length_padStart (by decide) h.day, length_padStart (by decide) h.hour,
    length_padStart (by decide) h.minute, length_padStart (by decide) h.second]

theorem Written.take (h : Written f) (rest : List Char) :
    (civilOf f rest).take 19 = civilOf f [] := by
  rw [← civilOf_append, List.take_left' h.length]

theorem Written.scan (h : Written f) (rest : List Char) :
    scan (String.ofList (civilOf f rest)) =
      (scanFraction rest).bind fun fraction => (scanZone fraction.2).map fun zone =>
        { f with fractionNanoseconds := fraction.1, offsetNegative := zone.1,
                 offsetHour := zone.2.1, offsetMinute := zone.2.2 } :=
  scan_civilText h.year h.month h.day h.hour h.minute h.second rest

/-- The groups of a second in the years `0` to `9999`. -/
def secondFields (seconds : ℤ) : Fields :=
  fieldsOfDay (dayNumber (1000 * seconds)).toNat (1000 * seconds % 86400000).toNat

section Second
variable {seconds : ℤ} (h : FourDigitSecond seconds)
include h

theorem written_secondFields : Written (secondFields seconds) :=
  written_fieldsOfDay (year_le_of_fourDigit h) (by omega)

theorem epochSeconds_secondFields : (secondFields seconds).epochSeconds = seconds := by
  have hnonneg := dayNumber_nonneg h.1
  unfold secondFields
  rw [epochSeconds_fieldsOfDay]
  unfold dayNumber at hnonneg ⊢
  rw [daysBeforeYear_1970] at hnonneg ⊢
  omega

theorem secondText_eq : secondText seconds = civilOf (secondFields seconds) [] := by
  unfold secondText
  rw [toList_isoDateText h]
  exact (written_secondFields h).take _

theorem length_secondText : (secondText seconds).length = 19 := by
  rw [secondText_eq h]
  exact (written_secondFields h).length

end Second

/-! ### The fraction of a text -/

/-- The digits at the front of a text, at most `width` of them. -/
def leadingDigits (width : ℕ) (chars : List Char) : List Char :=
  (chars.takeWhile Char.isDigit).take width

theorem all_isDigit_leadingDigits (width : ℕ) (chars : List Char) :
    (leadingDigits width chars).all Char.isDigit = true := by
  rw [List.all_eq_true]
  intro c hc
  exact List.mem_takeWhile_imp (List.mem_of_mem_take hc)

theorem length_leadingDigits_le (width : ℕ) (chars : List Char) :
    (leadingDigits width chars).length ≤ width := List.length_take_le _ _

variable {digits : List Char}

theorem leadingDigits_append {width : ℕ} (h : digits.all Char.isDigit = true)
    (hlength : digits.length ≤ width) (rest : List Char) :
    leadingDigits width (digits ++ 'Z' :: rest) = digits := by
  unfold leadingDigits
  rw [List.takeWhile_append_of_pos (by rwa [List.all_eq_true] at h),
    List.takeWhile_cons_of_neg (by decide), List.append_nil, List.take_of_length_le hlength]

theorem fraction_eq (width acc : ℕ) (chars : List Char) : fraction width acc chars =
    (Nat.ofDigitChars 10 (leadingDigits width chars) acc,
      width - (leadingDigits width chars).length,
      chars.drop (leadingDigits width chars).length) := by
  induction width generalizing acc chars with
  | zero => simp [fraction, leadingDigits]
  | succ width ih =>
    rcases chars with - | ⟨c, chars⟩
    · simp [fraction, leadingDigits]
    · by_cases hc : c.isDigit = true
      · have hleading : leadingDigits (width + 1) (c :: chars) = c :: leadingDigits width chars := by
          unfold leadingDigits
          rw [List.takeWhile_cons_of_pos hc, List.take_succ_cons]
        rw [fraction, if_pos hc, ih, hleading, Nat.ofDigitChars_cons, List.length_cons,
          List.drop_succ_cons, Nat.add_sub_add_right]
        rfl
      · have hleading : leadingDigits (width + 1) (c :: chars) = [] := by
          unfold leadingDigits
          rw [List.takeWhile_cons_of_neg hc, List.take_nil]
        rw [fraction, if_neg hc, hleading]
        rfl

/-- The nanoseconds of the digits of a fraction. -/
def nanosecondsOf (digits : List Char) : ℕ := Nat.ofDigitChars 10 digits 0 * 10 ^ (9 - digits.length)

variable {n : ℕ}

theorem scanFraction_point {chars : List Char} {rest : List Char}
    (h : scanFraction ('.' :: chars) = some (n, rest)) :
    n = nanosecondsOf (leadingDigits 9 chars) ∧ leadingDigits 9 chars ≠ [] := by
  simp only [scanFraction, fraction_eq] at h
  split_ifs at h with hmissing
  obtain ⟨rfl, -⟩ := Prod.ext_iff.mp (Option.some.inj h)
  refine ⟨rfl, fun hnil => hmissing ?_⟩
  rw [hnil]
  rfl

theorem scanFraction_digits (hall : digits.all Char.isDigit = true) (hne : digits ≠ [])
    (hlength : digits.length ≤ 9) :
    scanFraction ('.' :: (digits ++ ['Z'])) = some (nanosecondsOf digits, ['Z']) := by
  have hpos := List.length_pos_iff.mpr hne
  simp only [scanFraction, fraction_eq, leadingDigits_append hall hlength, List.drop_left]
  rw [if_neg (by omega)]
  rfl

/-! ### Reading a text of an instant -/

theorem inCandidateRange_fraction (f : Fields) (n : ℕ) :
    { f with fractionNanoseconds := n }.inCandidateRange = f.inCandidateRange := rfl

theorem epochSeconds_fraction (f : Fields) (n : ℕ) :
    { f with fractionNanoseconds := n }.epochSeconds = f.epochSeconds := rfl

section Stamp
variable {seconds : ℤ} {digits : List Char} (h : FourDigitSecond seconds)
  (hall : digits.all Char.isDigit = true)
include h

theorem fractionText_stampText (hall : digits.all Char.isDigit = true) (hlength : digits.length ≤ 9) :
    fractionText (stampText seconds digits) = digits := by
  unfold fractionText stampText
  rw [String.toList_ofList, List.drop_left' (length_secondText h)]
  exact leadingDigits_append hall hlength []

section

variable (hall : digits.all Char.isDigit = true) (hne : digits ≠ []) (hlength : digits.length ≤ 9)
include hall hne hlength

theorem scan_stampText : scan (stampText seconds digits) =
      some { secondFields seconds with fractionNanoseconds := nanosecondsOf digits } := by
  unfold stampText
  rw [secondText_eq h, civilOf_append, (written_secondFields h).scan,
    scanFraction_digits hall hne hlength]
  rfl

/-- **A text of a four-digit year is read back as the instant it was written for.** -/
theorem parse_stampText : parsePerformanceTimestamp (stampText seconds digits) =
      some ⟨stampText seconds (digits.rightpad 3 '0'),
        seconds * 1000000000 + nanosecondsOf digits⟩ := by
  have hscan := scan_stampText h hall hne hlength
  refine parse_eq_some_iff.mpr ⟨_, hscan, ?_, ?_⟩
  · rw [inCandidateRange_fraction, secondFields, inCandidateRange_fieldsOfDay (by omega)]
  · rw [instant_of_scan hscan, epochSeconds_fraction, epochSeconds_secondFields h,
      normalizedFraction, fractionText_stampText h hall hlength]

end

end Stamp

variable {seconds : ℤ}

theorem parse_stampText_other (h : ¬ FourDigitSecond seconds) (digits : List Char) :
    parsePerformanceTimestamp (stampText seconds digits) = none := by
  obtain ⟨sign, rest, htext, hsign⟩ := sign_isoDateText h
  have hscan : scan (stampText seconds digits) = none := by
    unfold stampText secondText
    rw [htext, List.take_succ_cons, List.cons_append, scan_of_sign hsign]
  unfold parsePerformanceTimestamp
  rw [hscan]

/-! ### The fraction of an accepted text -/

variable {chars rest : List Char}

theorem numeral_rest {width acc n : ℕ} (h : numeral width acc chars = some (n, rest)) :
    rest = chars.drop width := by
  induction width generalizing acc chars with
  | zero =>
    rw [numeral] at h
    exact (Prod.ext_iff.mp (Option.some.inj h)).2.symm
  | succ width ih =>
    rcases chars with - | ⟨c, chars⟩
    · rw [numeral] at h
      cases h
    · rw [numeral] at h
      split_ifs at h with hc
      rw [List.drop_succ_cons]
      exact ih h

theorem literal_rest {c : Char} (h : literal c chars = some rest) : rest = chars.drop 1 := by
  rcases chars with - | ⟨d, chars⟩
  · cases h
  · rw [literal] at h
    split_ifs at h with hd
    exact (Option.some.inj h).symm

theorem fraction_of_scan (h : scan value = some f) :
    ∃ rest, scanFraction (value.toList.drop 19) = some (f.fractionNanoseconds, rest) := by
  rw [scan_eq] at h
  simp only [Option.bind_eq_some_iff] at h
  obtain ⟨⟨year, r1⟩, h1, r2, h2, ⟨month, r3⟩, h3, r4, h4, ⟨day, r5⟩, h5, r6, h6, ⟨hour, r7⟩, h7,
    r8, h8, ⟨minute, r9⟩, h9, r10, h10, ⟨second, r11⟩, h11, ⟨nanoseconds, r12⟩, h12, zone, -, hf⟩ := h
  have hrest : r11 = value.toList.drop 19 := by
    rw [numeral_rest h11, literal_rest h10, numeral_rest h9, literal_rest h8, numeral_rest h7,
      literal_rest h6, numeral_rest h5, literal_rest h4, numeral_rest h3, literal_rest h2,
      numeral_rest h1]
    simp only [List.drop_drop]
  refine ⟨r12, ?_⟩
  rw [← hrest, h12, ← Option.some.inj hf]

theorem all_isDigit_fractionText (value : String) : (fractionText value).all Char.isDigit = true := by
  unfold fractionText
  split
  · exact all_isDigit_leadingDigits 9 _
  · rfl

theorem length_fractionText_le (value : String) : (fractionText value).length ≤ 9 := by
  unfold fractionText
  split
  · exact length_leadingDigits_le 9 _
  · exact Nat.zero_le 9

theorem nanoseconds_of_scan (h : scan value = some f) :
    f.fractionNanoseconds = nanosecondsOf (fractionText value) := by
  obtain ⟨rest, hfraction⟩ := fraction_of_scan h
  unfold fractionText
  split
  · rename_i chars hchars
    rw [hchars] at hfraction
    exact (scanFraction_point hfraction).1
  · rename_i hpoint
    unfold scanFraction at hfraction
    split at hfraction
    · rename_i chars hchars
      exact absurd hchars (hpoint chars)
    · exact (Prod.ext_iff.mp (Option.some.inj hfraction)).1.symm

theorem rightpad_eq {α : Type} (n : ℕ) (a : α) (l : List α) :
    l.rightpad n a = l ++ List.replicate (n - l.length) a := rfl

theorem nanosecondsOf_rightpad {width : ℕ} (hwidth : width ≤ 9) (hlength : digits.length ≤ 9) :
    nanosecondsOf (digits.rightpad width '0') = nanosecondsOf digits := by
  have hpow : 10 ^ (width - digits.length) * 10 ^ (9 - (digits.length + (width - digits.length))) =
      10 ^ (9 - digits.length) := by
    rw [← Nat.pow_add]
    congr 1
    omega
  unfold nanosecondsOf
  rw [rightpad_eq, Nat.ofDigitChars_append, Nat.ofDigitChars_replicate_zero, List.length_append,
    List.length_replicate, ← hpow]
  ring

theorem nanosecondsOf_lt (hall : digits.all Char.isDigit = true) (hlength : digits.length ≤ 9) :
    nanosecondsOf digits < 1000000000 := by
  have hlt : Nat.ofDigitChars 10 digits 0 <
      Nat.ofDigitChars 10 (List.replicate digits.length '0') 1 :=
    ofDigitChars_lt List.length_replicate.symm hall Nat.zero_lt_one
  rw [Nat.ofDigitChars_replicate_zero, Nat.mul_one] at hlt
  have hpow : 10 ^ digits.length * 10 ^ (9 - digits.length) = 1000000000 := by
    rw [← Nat.pow_add, show digits.length + (9 - digits.length) = 9 by omega]
  calc nanosecondsOf digits
      < 10 ^ digits.length * 10 ^ (9 - digits.length) :=
        Nat.mul_lt_mul_of_pos_right hlt (Nat.pos_of_ne_zero (by positivity))
    _ = 1000000000 := hpow

theorem eq_of_nanosecondsOf_eq {left right : List Char} (hleft : left.all Char.isDigit = true)
    (hright : right.all Char.isDigit = true) (hne : left ≠ [])
    (hlength : left.length = right.length) (h : nanosecondsOf left = nanosecondsOf right) :
    left = right := by
  have hne' : right ≠ [] := by
    rintro rfl
    exact hne (List.length_eq_zero_iff.mp hlength)
  unfold nanosecondsOf at h
  rw [hlength] at h
  have hvalue := Nat.eq_of_mul_eq_mul_right (by positivity) h
  rw [← leftpad_toDigits_ofDigitChars hleft hne, hvalue, hlength,
    leftpad_toDigits_ofDigitChars hright hne']

/-! ### The normalized fraction -/

theorem all_isDigit_normalizedFraction (value : String) :
    (normalizedFraction value).all Char.isDigit = true := by
  unfold normalizedFraction
  rw [rightpad_eq, List.all_append, all_isDigit_fractionText, Bool.true_and, List.all_replicate]
  split_ifs
  · rfl
  · decide

theorem length_normalizedFraction (value : String) :
    (normalizedFraction value).length = max 3 (fractionText value).length := by
  unfold normalizedFraction
  rw [rightpad_eq, List.length_append, List.length_replicate]
  omega

theorem length_normalizedFraction_le (value : String) : (normalizedFraction value).length ≤ 9 := by
  rw [length_normalizedFraction]
  have := length_fractionText_le value
  omega

theorem normalizedFraction_ne_nil (value : String) : normalizedFraction value ≠ [] := by
  intro h
  have hlength := length_normalizedFraction value
  rw [h, List.length_nil] at hlength
  omega

/-! ### Instants of the accepted texts -/

/-- The text is read as the instant. -/
def Denotes (value : String) (t : ℤ) : Prop := IsCandidateTimestamp value ∧ instant value = t

/-- `requireTimestamp` with the error it throws. -/
def requireTimestamp (value error : String) : Except String ℤ :=
  match parsePerformanceTimestamp value with
  | none => .error error
  | some t => .ok t.epochNanoseconds

theorem requireTimestamp_eq_ok {value error : String} {t : ℤ} :
    requireTimestamp value error = .ok t ↔ Denotes value t := by
  unfold requireTimestamp Denotes
  cases h : parsePerformanceTimestamp value with
  | none =>
    have hnot : ¬ IsCandidateTimestamp value := by
      rw [← parse_isSome_iff, h]
      exact Bool.false_ne_true
    simp [hnot]
  | some parsed =>
    obtain ⟨hcandidate, hinstant⟩ := isCandidateTimestamp_of_parse h
    dsimp only
    rw [hinstant, Except.ok.injEq]
    exact ⟨fun ht => ⟨hcandidate, ht⟩, fun ht => ht.2⟩

theorem requireTimestamp_bind {α : Type} {value error : String} {f : ℤ → Except String α}
    {a : α} : (requireTimestamp value error >>= f) = .ok a ↔
      ∃ t, Denotes value t ∧ f t = .ok a := by
  rw [bind_eq_ok]
  simp only [requireTimestamp_eq_ok]

theorem performanceTimestampEpochNanoseconds_eq_ok {t : ℤ} :
    performanceTimestampEpochNanoseconds value = .ok t ↔ Denotes value t :=
  requireTimestamp_eq_ok

/-! ### Formatted instants -/

/-- `n.toString().padStart(width, "0")` of an integer. -/
def padInteger (width : ℕ) (n : ℤ) : List Char :=
  ((if n < 0 then ['-'] else []) ++ Nat.toDigits 10 n.natAbs).leftpad width '0'

theorem padInteger_of_nonneg {n : ℤ} (h : 0 ≤ n) (width : ℕ) :
    padInteger width n = padStart width n.toNat := by
  unfold padInteger padStart
  have habs : n.natAbs = n.toNat := by omega
  rw [if_neg (not_lt.mpr h), List.nil_append, habs]

/-- The text of a second with a fraction, where `toISOString` does not throw. -/
def formatStamp (seconds : ℤ) (digits : List Char) : Except String String :=
  if inDateRange (1000 * seconds) then .ok (stampText seconds digits) else .error "Invalid time value"

/-- `formatTimestamp` of `performance-hourly-coverage.ts`: nine digits of the fraction. -/
def formatNanoseconds (epochNanoseconds : ℤ) : Except String String :=
  formatStamp (epochNanoseconds.tdiv 1000000000) (padInteger 9 (epochNanoseconds.tmod 1000000000))

/-- The digits of the fraction: three of them where they are enough, else nine. -/
def exactDigits (fractionalNanoseconds : ℤ) : List Char :=
  if fractionalNanoseconds.tmod 1000000 = 0 then padInteger 3 (fractionalNanoseconds.tdiv 1000000)
  else padInteger 9 fractionalNanoseconds

/-- `formatExactTimestamp` of `research-no-trade-evidence.ts` and `formatTimestamp` of
`performance-candle-coverage.ts`, which differ in the error of a time out of the safe range. -/
def formatExact (error : String) (epochNanoseconds : ℤ) : Except String String :=
  let seconds := epochNanoseconds.tdiv 1000000000
  if 9007199254740991 < (1000 * seconds).natAbs then .error error
  else formatStamp seconds (exactDigits (epochNanoseconds.tmod 1000000000))

theorem nanosecondsOf_padStart_nine (h : n < 1000000000) : nanosecondsOf (padStart 9 n) = n := by
  unfold nanosecondsOf
  rw [length_padStart (by decide) h, ofDigitChars_padStart, Nat.sub_self, Nat.pow_zero, Nat.mul_one]

theorem nanosecondsOf_padStart_three (h : n < 1000) :
    nanosecondsOf (padStart 3 n) = n * 1000000 := by
  unfold nanosecondsOf
  rw [length_padStart (by decide) h, ofDigitChars_padStart, show 9 - 3 = 6 from rfl]
  norm_num

/-- The digits of a fraction of a second. -/
structure FractionDigits (digits : List Char) (n : ℕ) : Prop where
  all_isDigit : digits.all Char.isDigit = true
  ne_nil : digits ≠ []
  length_le : digits.length ≤ 9
  nanoseconds : nanosecondsOf digits = n

theorem fractionDigits_nine (h : n < 1000000000) : FractionDigits (padStart 9 n) n := by
  have hlength : (padStart 9 n).length = 9 := length_padStart (by decide) h
  refine ⟨padStart_all_isDigit 9 n, ?_, hlength.le, nanosecondsOf_padStart_nine h⟩
  rw [← List.length_pos_iff, hlength]
  decide

theorem fractionDigits_three (h : n < 1000) : FractionDigits (padStart 3 n) (n * 1000000) := by
  have hlength : (padStart 3 n).length = 3 := length_padStart (by decide) h
  refine ⟨padStart_all_isDigit 3 n, ?_, hlength.le.trans (by decide), nanosecondsOf_padStart_three h⟩
  rw [← List.length_pos_iff, hlength]
  decide

theorem fractionDigits_exact {n : ℤ} (h0 : 0 ≤ n) (h : n < 1000000000) :
    FractionDigits (exactDigits n) n.toNat := by
  unfold exactDigits
  split_ifs with hms
  · have hdiv : 0 ≤ n.tdiv 1000000 := Int.tdiv_nonneg h0 (by decide)
    rw [Int.tmod_eq_emod_of_nonneg h0] at hms
    rw [padInteger_of_nonneg hdiv]
    rw [Int.tdiv_eq_ediv_of_nonneg h0] at hdiv ⊢
    have hn : n.toNat = (n / 1000000).toNat * 1000000 := by omega
    rw [hn]
    exact fractionDigits_three (by omega)
  · rw [padInteger_of_nonneg h0]
    exact fractionDigits_nine (by omega)

/-- **A formatted instant of the four-digit years is read as itself.** -/
theorem denotes_stampText (h : FourDigitSecond seconds) (hdigits : FractionDigits digits n) :
    Denotes (stampText seconds digits) (seconds * 1000000000 + n) := by
  have hparse := parse_stampText h hdigits.all_isDigit hdigits.ne_nil hdigits.length_le
  obtain ⟨hcandidate, hinstant⟩ := isCandidateTimestamp_of_parse hparse
  rw [← hdigits.nanoseconds]
  exact ⟨hcandidate, hinstant.symm⟩

theorem not_denotes_stampText (h : ¬ FourDigitSecond seconds) (digits : List Char) (t : ℤ) :
    ¬ Denotes (stampText seconds digits) t := by
  rintro ⟨hcandidate, -⟩
  rw [← parse_isSome_iff, parse_stampText_other h] at hcandidate
  exact Bool.false_ne_true hcandidate

theorem fourDigitSecond_iff {t : ℤ} (h0 : 0 ≤ t) :
    FourDigitSecond (t / 1000000000) ↔ t < endOfFourDigitYears := by
  unfold FourDigitSecond FourDigitYear firstYearMs lateYearMs endOfFourDigitYears
  omega

theorem denotes_iff_of_stamp {t : ℤ} (h0 : 0 ≤ t)
    (hdigits : FractionDigits digits (t % 1000000000).toNat) (u : ℤ) :
    Denotes (stampText (t / 1000000000) digits) u ↔ t < endOfFourDigitYears ∧ u = t := by
  rw [← fourDigitSecond_iff h0]
  constructor
  · intro hdenotes
    by_cases hfour : FourDigitSecond (t / 1000000000)
    · have hself := denotes_stampText hfour hdigits
      refine ⟨hfour, ?_⟩
      rw [← hdenotes.2, hself.2]
      omega
    · exact absurd hdenotes (not_denotes_stampText hfour digits u)
  · rintro ⟨hfour, rfl⟩
    have hself := denotes_stampText hfour hdigits
    rwa [show u / 1000000000 * 1000000000 + ((u % 1000000000).toNat : ℤ) = u by omega] at hself

/-- The last time of a `Date`, in nanoseconds. -/
def endOfDates : ℤ := 8640000000000000000000

section Format

variable {t : ℤ} (h0 : 0 ≤ t) (h : t ≤ endOfDates)
include h0 h

theorem inDateRange_second : inDateRange (1000 * (t / 1000000000)) = true := by
  unfold endOfDates at h
  unfold inDateRange maxTimeMs
  rw [decide_eq_true_eq]
  omega

theorem formatNanoseconds_eq : formatNanoseconds t =
    .ok (stampText (t / 1000000000) (padStart 9 (t % 1000000000).toNat)) := by
  unfold formatNanoseconds formatStamp
  rw [Int.tdiv_eq_ediv_of_nonneg h0, Int.tmod_eq_emod_of_nonneg h0, if_pos (inDateRange_second h0 h),
    padInteger_of_nonneg (by omega)]

end Format

/-! ### Texts that stand for instants -/

/-- The text is accepted again, as the same instant. -/
def Reparses (t : PerformanceTimestamp) : Prop :=
  ∃ again, parsePerformanceTimestamp t.normalized = some again ∧
    again.epochNanoseconds = t.epochNanoseconds

/-- Two accepted texts: their normalized texts are accepted again as the instants they were made from,
and they are equal exactly when the instants are. -/
structure Canonical (left right : PerformanceTimestamp) : Prop where
  reparses_left : Reparses left
  reparses_right : Reparses right
  eq_iff : left.normalized = right.normalized ↔ left.epochNanoseconds = right.epochNanoseconds

/-- The instant a text denotes lies in the years `0` to `9999` of UTC. -/
def InFourDigitYears (value : String) : Prop :=
  -62167219200000000000 ≤ instant value ∧ instant value < endOfFourDigitYears

/-- How many digits of the fraction were written, with three at least. -/
def writtenDigits (value : String) : ℕ := max 3 (fractionText value).length

theorem parts_of_parse (h : parsePerformanceTimestamp value = some t) :
    ∃ seconds, t = ⟨stampText seconds (normalizedFraction value),
        seconds * 1000000000 + nanosecondsOf (normalizedFraction value)⟩ ∧
      (FourDigitSecond seconds ↔ InFourDigitYears value) := by
  obtain ⟨f, hf, -, rfl⟩ := parse_eq_some_iff.mp h
  have hlength := length_fractionText_le value
  have hinstant : instant value =
      f.epochSeconds * 1000000000 + nanosecondsOf (fractionText value) := by
    rw [instant_of_scan hf, nanoseconds_of_scan hf]
  have hlt := nanosecondsOf_lt (all_isDigit_fractionText value) hlength
  refine ⟨f.epochSeconds, ?_, ?_⟩
  · rw [hinstant, normalizedFraction, nanosecondsOf_rightpad (by decide) hlength]
  · unfold FourDigitSecond FourDigitYear firstYearMs lateYearMs InFourDigitYears endOfFourDigitYears
    rw [hinstant]
    omega

theorem reparses_iff (h : parsePerformanceTimestamp value = some t) :
    Reparses t ↔ InFourDigitYears value := by
  obtain ⟨seconds, rfl, hyears⟩ := parts_of_parse h
  rw [← hyears]
  constructor
  · rintro ⟨again, hagain, -⟩
    by_contra hother
    rw [parse_stampText_other hother] at hagain
    cases hagain
  · intro hfour
    exact ⟨_, parse_stampText hfour (all_isDigit_normalizedFraction value)
      (normalizedFraction_ne_nil value) (length_normalizedFraction_le value), rfl⟩

theorem length_stampText (h : FourDigitSecond seconds) (digits : List Char) :
    (stampText seconds digits).toList.length = 21 + digits.length := by
  unfold stampText
  rw [String.toList_ofList, List.length_append, length_secondText h, List.length_cons,
    List.length_append, List.length_singleton]
  omega

/-- **Normalized texts stand for instants** exactly in the years of four digits, and where two texts of
one instant were written with as many digits of its fraction. -/
theorem canonical_iff {left right : String} {l r : PerformanceTimestamp}
    (hl : parsePerformanceTimestamp left = some l) (hr : parsePerformanceTimestamp right = some r) :
    Canonical l r ↔ InFourDigitYears left ∧ InFourDigitYears right ∧
      (instant left = instant right → writtenDigits left = writtenDigits right) := by
  have hinstantL := (isCandidateTimestamp_of_parse hl).2
  have hinstantR := (isCandidateTimestamp_of_parse hr).2
  obtain ⟨secondsL, hpartsL, hyearsL⟩ := parts_of_parse hl
  obtain ⟨secondsR, hpartsR, hyearsR⟩ := parts_of_parse hr
  have hltL := nanosecondsOf_lt (all_isDigit_normalizedFraction left)
    (length_normalizedFraction_le left)
  have hltR := nanosecondsOf_lt (all_isDigit_normalizedFraction right)
    (length_normalizedFraction_le right)
  have hdigitsL : writtenDigits left = _ := (length_normalizedFraction left).symm
  have hdigitsR : writtenDigits right = _ := (length_normalizedFraction right).symm
  constructor
  · rintro ⟨hleft, hright, heq⟩
    have hfourL := (reparses_iff hl).mp hleft
    have hfourR := (reparses_iff hr).mp hright
    refine ⟨hfourL, hfourR, fun hsame => ?_⟩
    -- one instant has one text, and the length of the text gives the digits
    have htext := heq.mpr (by rw [hinstantL, hinstantR, hsame])
    have hlengthL := length_stampText (hyearsL.mpr hfourL) (normalizedFraction left)
    have hlengthR := length_stampText (hyearsR.mpr hfourR) (normalizedFraction right)
    rw [hpartsL, hpartsR] at htext
    dsimp only at htext
    rw [htext] at hlengthL
    omega
  · rintro ⟨hfourL, hfourR, hsame⟩
    have hleft := (reparses_iff hl).mpr hfourL
    have hright := (reparses_iff hr).mpr hfourR
    refine ⟨hleft, hright, fun htext => ?_, fun hepoch => ?_⟩
    · obtain ⟨again, hagain, hepoch⟩ := hleft
      obtain ⟨again', hagain', hepoch'⟩ := hright
      rw [htext, hagain'] at hagain
      rw [← hepoch, ← hepoch', Option.some.inj hagain]
    · have hlength : (normalizedFraction left).length = (normalizedFraction right).length := by
        rw [← hdigitsL, ← hdigitsR]
        exact hsame (by rw [← hinstantL, ← hinstantR, hepoch])
      rw [hpartsL, hpartsR] at hepoch ⊢
      dsimp only at hepoch ⊢
      have hseconds : secondsL = secondsR := by omega
      have hnano : nanosecondsOf (normalizedFraction left) =
          nanosecondsOf (normalizedFraction right) := by omega
      rw [hseconds, eq_of_nanosecondsOf_eq (all_isDigit_normalizedFraction left)
        (all_isDigit_normalizedFraction right) (normalizedFraction_ne_nil left) hlength hnano]

/-- Two texts of one instant, written with and without the zeros of the fraction. -/
theorem canonical_iff_seoul : parsePerformanceTimestamp "2024-01-01T08:59:59.25+09:00" =
      parsePerformanceTimestamp "2023-12-31T23:59:59.250Z" ∧
    Canonical ⟨"2023-12-31T23:59:59.250Z", 1704067199250000000⟩
      ⟨"2023-12-31T23:59:59.250Z", 1704067199250000000⟩ := by
  have hseoul : parsePerformanceTimestamp "2024-01-01T08:59:59.25+09:00" =
      some ⟨"2023-12-31T23:59:59.250Z", 1704067199250000000⟩ := by decide +kernel
  have hutc : parsePerformanceTimestamp "2023-12-31T23:59:59.250Z" =
      some ⟨"2023-12-31T23:59:59.250Z", 1704067199250000000⟩ := by decide +kernel
  exact ⟨hseoul.trans hutc.symm, (canonical_iff hseoul hutc).mpr
    ⟨⟨by decide +kernel, by decide +kernel⟩, ⟨by decide +kernel, by decide +kernel⟩,
      fun _ => by decide +kernel⟩⟩

/-- **A zero more in the fraction gives another text of the same instant**, and a text of the year
before the year `0` is not accepted again. -/
theorem trailing_zero_not_canonical :
    (parsePerformanceTimestamp "2024-01-01T00:00:00.100Z" =
        some ⟨"2024-01-01T00:00:00.100Z", 1704067200100000000⟩ ∧
      parsePerformanceTimestamp "2024-01-01T00:00:00.1000Z" =
        some ⟨"2024-01-01T00:00:00.1000Z", 1704067200100000000⟩ ∧
      "2024-01-01T00:00:00.100Z" ≠ "2024-01-01T00:00:00.1000Z") ∧
    parsePerformanceTimestamp "0000-01-01T00:00:00+09:00" =
        some ⟨"-000001-12-31T15:00.000Z", -62167251600000000000⟩ ∧
      parsePerformanceTimestamp "-000001-12-31T15:00.000Z" = none := by
  decide +kernel

end AutoTrade.Performance.Timestamp
