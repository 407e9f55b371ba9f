import AutoTrade.Lib.Result
import AutoTrade.Lib.Text
import Mathlib.Data.Int.Notation
import Mathlib.Algebra.Group.Nat.Defs
import Mathlib.Algebra.GroupWithZero.Nat

/-! # Strict ISO-8601 timestamps

`parseStrictIsoTimestamp` of `atomic-lifecycle-validation.ts`: a four-digit year, an optional
fraction of one to nine digits and an explicit time zone, read as nanoseconds since 1970. The
calendar part follows ECMAScript: `Date.UTC` takes the years `0` to `99` for `1900` to `1999`, which
only the length of the month sees; `Date.parse` takes the year as written. -/

namespace AutoTrade.Domain.Timestamp

open Lib.Text Lib.Result

/-! ### The calendar -/

def isLeapYear (year : ℕ) : Bool := year % 4 = 0 ∧ (year % 100 ≠ 0 ∨ year % 400 = 0)

def daysInMonth (year month : ℕ) : ℕ :=
  if month = 2 then (if isLeapYear year then 29 else 28)
  else if month = 4 ∨ month = 6 ∨ month = 9 ∨ month = 11 then 30
  else 31

/-- Days of the years `0`, …, `year - 1`. -/
def daysBeforeYear (year : ℕ) : ℕ :=
  365 * year + (year + 3) / 4 - (year + 99) / 100 + (year + 399) / 400

/-- Days of the months before `month` in `year`. -/
def daysBeforeMonth (year month : ℕ) : ℕ :=
  ((List.range (month - 1)).map fun m => daysInMonth year (m + 1)).sum

/-- Days from 1970-01-01 to the given day. -/
def epochDay (year month day : ℕ) : ℤ :=
  (daysBeforeYear year + daysBeforeMonth year month + (day - 1) : ℕ) - (daysBeforeYear 1970 : ℤ)

/-- The length of the month as `new Date(Date.UTC(year, month, 0)).getUTCDate()` computes it. -/
def utcDaysInMonth (year month : ℕ) : ℕ :=
  daysInMonth (if year ≤ 99 then 1900 + year else year) month

/-! ### The parser -/

/-- The groups of the timestamp expression; the offset is in signed minutes. -/
structure Fields where
  year : ℕ
  month : ℕ
  day : ℕ
  hour : ℕ
  minute : ℕ
  second : ℕ
  fractionNanoseconds : ℕ
  offsetNegative : Bool
  offsetHour : ℕ
  offsetMinute : ℕ

/-- `(?:\.(\d{1,9}))?`, as nanoseconds. -/
def scanFraction : List Char → Option (ℕ × List Char)
  | '.' :: rest =>
    match fraction 9 0 rest with
    | (value, missing, rest') => if missing = 9 then none else some (value * 10 ^ missing, rest')
  | rest => some (0, rest)

/-- `(Z|([+-])(\d{2}):(\d{2}))$`. -/
def scanZone : List Char → Option (Bool × ℕ × ℕ)
  | ['Z'] => some (false, 0, 0)
  | sign :: rest => do
    if sign ≠ '+' ∧ sign ≠ '-' then none
    let (hour, rest) ← numeral 2 0 rest
    let rest ← literal ':' rest
    let (minute, rest) ← numeral 2 0 rest
    if rest.isEmpty then some (sign = '-', hour, minute) else none
  | [] => none

/-- The match of the timestamp expression, if any. -/
def scan (input : String) : Option Fields := do
  let (year, rest) ← numeral 4 0 input.toList
  let rest ← literal '-' rest
  let (month, rest) ← numeral 2 0 rest
  let rest ← literal '-' rest
  let (day, rest) ← numeral 2 0 rest
  let rest ← literal 'T' rest
  let (hour, rest) ← numeral 2 0 rest
  let rest ← literal ':' rest
  let (minute, rest) ← numeral 2 0 rest
  let rest ← literal ':' rest
  let (second, rest) ← numeral 2 0 rest
  let (nanoseconds, rest) ← scanFraction rest
  let (negative, offsetHour, offsetMinute) ← scanZone rest
  some { year, month, day, hour, minute, second, fractionNanoseconds := nanoseconds,
         offsetNegative := negative, offsetHour, offsetMinute }

/-- The groups denote an instant. -/
def Fields.inRange (f : Fields) : Bool :=
  1 ≤ f.month ∧ f.month ≤ 12 ∧ 1 ≤ f.day ∧ f.day ≤ utcDaysInMonth f.year f.month ∧
    f.hour ≤ 23 ∧ f.minute ≤ 59 ∧ f.second ≤ 59 ∧ f.offsetHour ≤ 23 ∧ f.offsetMinute ≤ 59

/-- `Date.parse` of the whole seconds, in seconds. -/
def Fields.epochSeconds (f : Fields) : ℤ :=
  let offset : ℤ := 60 * (60 * f.offsetHour + f.offsetMinute)
  86400 * epochDay f.year f.month f.day + (3600 * f.hour + 60 * f.minute + f.second : ℕ) -
    (if f.offsetNegative then -offset else offset)

/-- `parseStrictIsoTimestamp(input, label)`: nanoseconds since 1970, or the text of the error. -/
def parseStrictIsoTimestamp (input label : String) : Except String ℤ :=
  match scan input with
  | none => .error (label ++ " must be an ISO-8601 timestamp with explicit timezone.")
  | some f =>
    if f.inRange then .ok (f.epochSeconds * 1000000000 + f.fractionNanoseconds)
    else .error (label ++ " must be a valid ISO-8601 timestamp.")

/-- A text that the parser accepts. -/
def IsStrictIso (input : String) : Prop := ∃ f, scan input = some f ∧ f.inRange = true

instance (input : String) : Decidable (IsStrictIso input) :=
  match h : scan input with
  | none => isFalse (by rintro ⟨f, hf, -⟩; rw [h] at hf; cases hf)
  | some f =>
    if hr : f.inRange = true then isTrue ⟨f, h, hr⟩
    else isFalse (by rintro ⟨g, hg, hgr⟩; rw [h] at hg; cases hg; exact hr hgr)

/-- The instant a text denotes, `0` if it denotes none. -/
def instant (input : String) : ℤ :=
  match scan input with
  | some f => f.epochSeconds * 1000000000 + f.fractionNanoseconds
  | none => 0

theorem parse_of_isStrictIso {input : String} (h : IsStrictIso input) (label : String) :
    parseStrictIsoTimestamp input label = .ok (instant input) := by
  obtain ⟨f, hf, hr⟩ := h
  unfold parseStrictIsoTimestamp instant
  rw [hf]
  simp [hr]

theorem isStrictIso_of_parse {input label : String} {t : ℤ}
    (h : parseStrictIsoTimestamp input label = .ok t) : IsStrictIso input ∧ t = instant input := by
  unfold parseStrictIsoTimestamp at h
  cases hs : scan input with
  | none => rw [hs] at h; cases h
  | some f =>
    rw [hs] at h
    by_cases hr : f.inRange = true
    · have hi : IsStrictIso input := ⟨f, hs, hr⟩
      have hp := parse_of_isStrictIso hi label
      unfold parseStrictIsoTimestamp at hp
      rw [hs] at hp
      simp only [hr, if_true] at h hp
      exact ⟨hi, by rw [h] at hp; exact Except.ok.inj hp⟩
    · simp only [hr] at h
      cases h

example : parseStrictIsoTimestamp "1970-01-01T09:00:00.000000001+09:00" "t" = .ok 1 := by decide

/-! ### Clock readings -/

/-- What `new Date().toISOString()` returns in the four-digit years: an accepted timestamp. -/
structure ClockText where
  text : String
  strict : IsStrictIso text

/-- The first instant of 1970. -/
def ClockText.epoch : ClockText := ⟨"1970-01-01T00:00:00.000Z", by decide⟩

theorem IsStrictIso.ne_empty {input : String} (h : IsStrictIso input) : input ≠ "" := by
  rintro rfl
  exact absurd h (by decide)

/-! ### Candidate timestamps -/

/-- `isValidTimezone`: offsets up to fourteen hours. -/
def Fields.hasValidTimezone (f : Fields) : Bool :=
  f.offsetMinute ≤ 59 ∧ (f.offsetHour < 14 ∨ (f.offsetHour = 14 ∧ f.offsetMinute = 0))

/-- The range check of `parsePositionGuardCandidateTimestamp`, with the Gregorian month length. -/
def Fields.inCandidateRange (f : Fields) : Bool :=
  1 ≤ f.month ∧ f.month ≤ 12 ∧ 1 ≤ f.day ∧ f.day ≤ daysInMonth f.year f.month ∧
    f.hour ≤ 23 ∧ f.minute ≤ 59 ∧ f.second ≤ 59 ∧ f.hasValidTimezone

/-- `parsePositionGuardCandidateTimestamp(value, label)`: the same expression as above, with other
bounds on the day and on the offset. -/
def parsePositionGuardCandidateTimestamp (value label : String) : Except String ℤ :=
  let invalid := "Invalid PositionGuard candidate " ++ label ++ ": " ++ value
  match scan value with
  | none => .error invalid
  | some f =>
    if f.inCandidateRange then .ok (f.epochSeconds * 1000000000 + f.fractionNanoseconds)
    else .error invalid

/-! ### Performance timestamps -/

/-- The range check of `parsePerformanceTimestamp`: its `isValidTimezone` does not look at the minutes
of an offset below fourteen hours. -/
def Fields.inPerformanceRange (f : Fields) : Bool :=
  1 ≤ f.month ∧ f.month ≤ 12 ∧ 1 ≤ f.day ∧ f.day ≤ daysInMonth f.year f.month ∧
    f.hour ≤ 23 ∧ f.minute ≤ 59 ∧ f.second ≤ 59 ∧
    (f.offsetHour < 14 ∨ (f.offsetHour = 14 ∧ f.offsetMinute = 0))

/-- `Date.parse` of the whole seconds, in seconds: an offset of more than 59 minutes is `NaN`. -/
def Fields.dateParse (f : Fields) : Option ℤ :=
  if f.offsetMinute ≤ 59 then some f.epochSeconds else none

/-- A text that the candidate parser accepts. -/
def IsCandidateTimestamp (value : String) : Prop :=
  ∃ f, scan value = some f ∧ f.inCandidateRange = true

instance (value : String) : Decidable (IsCandidateTimestamp value) :=
  match h : scan value with
  | none => isFalse (by rintro ⟨f, hf, -⟩; rw [h] at hf; cases hf)
  | some f =>
    if hr : f.inCandidateRange = true then isTrue ⟨f, h, hr⟩
    else isFalse (by rintro ⟨g, hg, hgr⟩; rw [h] at hg; cases hg; exact hr hgr)

variable {value : String}

theorem parseCandidate_of_is (h : IsCandidateTimestamp value) (label : String) :
    parsePositionGuardCandidateTimestamp value label = .ok (instant value) := by
  obtain ⟨f, hf, hr⟩ := h
  unfold parsePositionGuardCandidateTimestamp instant
  rw [hf]
  simp [hr]

theorem parseCandidate_of_not (h : ¬ IsCandidateTimestamp value) (label : String) :
    parsePositionGuardCandidateTimestamp value label =
      .error ("Invalid PositionGuard candidate " ++ label ++ ": " ++ value) := by
  unfold parsePositionGuardCandidateTimestamp
  cases hs : scan value with
  | none => rfl
  | some f =>
    have hr : ¬ f.inCandidateRange = true := fun hr => h ⟨f, hs, hr⟩
    simp [hr]

theorem parseCandidate_eq_ok {value label : String} {t : ℤ} :
    parsePositionGuardCandidateTimestamp value label = .ok t ↔
      IsCandidateTimestamp value ∧ t = instant value := by
  by_cases h : IsCandidateTimestamp value
  · rw [parseCandidate_of_is h, Except.ok.injEq]
    exact ⟨fun ht => ⟨h, ht.symm⟩, fun ht => ht.2.symm⟩
  · rw [parseCandidate_of_not h]
    simp [h]

theorem parse_bind {α : Type} {value label : String} {f : ℤ → Except String α} {a : α} :
    (parsePositionGuardCandidateTimestamp value label >>= f) = .ok a ↔
      IsCandidateTimestamp value ∧ f (instant value) = .ok a := by
  rw [bind_eq_ok]
  simp only [parseCandidate_eq_ok]
  constructor
  · rintro ⟨t, ⟨hp, rfl⟩, hf⟩
    exact ⟨hp, hf⟩
  · rintro ⟨hp, hf⟩
    exact ⟨_, ⟨hp, rfl⟩, hf⟩

theorem inCandidateRange_iff (f : Fields) :
    f.inCandidateRange = true ↔ f.inPerformanceRange = true ∧ f.offsetMinute ≤ 59 := by
  simp only [Fields.inCandidateRange, Fields.inPerformanceRange, Fields.hasValidTimezone,
    decide_eq_true_eq]
  tauto

end AutoTrade.Domain.Timestamp
