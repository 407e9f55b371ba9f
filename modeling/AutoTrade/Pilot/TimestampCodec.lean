import AutoTrade.Domain.IsoOrder
import AutoTrade.Pilot.IntentFaults

/-! # The timestamps of the candidate

Both formatters write an instant of the years 1970 to 9999 with nine digits of the fraction, and the
texts are read back and ordered like the instants (`before_candidateText_iff`). Two parsers read such
texts. They share the expression, and differ in two bounds: one takes offsets up to fourteen hours,
the other up to 23:59 (`isCandidateTimestamp_iff`); and that one takes the length of February from
the years 1900 to 1999 where the year is below 100, which only shows in the year 0. -/

namespace AutoTrade.Pilot.TimestampCodec

open Lib.Text Domain.Timestamp Domain.IsoOrder
open Pilot.PhaseCalls (formatCandidatePilotUtcNanoseconds)
open Pilot.IntentFaults (formatPilot_eq_ok)

/-! ### The order of the texts -/

section Order

variable {u v : List Char} {a b : ℕ}

/-- Texts that start with a second: the second decides, or what follows it. -/
theorem isoText_lt (hyear : yearOfDay (dayOfSeconds b) ≤ 9999) (hle : a ≤ b) (hrest : a = b → u < v) :
    isoText a u < isoText b v := by
  have hdayle : dayOfSeconds a ≤ dayOfSeconds b := by
    unfold dayOfSeconds
    omega
  refine date_lt hyear hdayle fun hdate => ?_
  have hsameDay : a / 86400 = b / 86400 := by
    unfold dayOfSeconds at hdate
    omega
  refine field_lt (by decide) (by omega) (by omega) fun hhour => cons_lt ':' ?_
  refine field_lt (by decide) (by omega) (by omega) fun hminute => cons_lt ':' ?_
  exact field_lt (by decide) (by omega) (by omega) fun hsecond => hrest (by omega)

theorem flatMap_charUnits (h : ∀ c ∈ u, c.toNat < 0x10000) : u.flatMap charUnits = u.map Char.toNat := by
  rw [List.map_eq_flatMap]
  exact List.flatMap_congr fun c hc => if_pos (h c hc)

theorem before_of_lt (hu : ∀ c ∈ u, c.toNat < 0x10000) (hv : ∀ c ∈ v, c.toNat < 0x10000)
    (h : u < v) : before (String.ofList u) (String.ofList v) = true := by
  unfold before
  rw [decide_eq_true_eq, String.toList_ofList, String.toList_ofList, flatMap_charUnits hu,
    flatMap_charUnits hv]
  exact List.map_lt (fun c d hlt => hlt) h

end Order

variable {s t : ℤ}

/-- The text of an instant. -/
def candidateText (t : ℤ) : String :=
  String.ofList (isoText (t / 1000000000).toNat
    ('.' :: (padStart 9 (t % 1000000000).toNat ++ ['Z'])))

theorem toNat_lt_of_mem {c : Char} (hc : c ∈ (candidateText t).toList) : c.toNat < 0x10000 := by
  have hdigit : ∀ width n, c ∈ padStart width n → c.toNat < 0x10000 := fun width n hmem => by
    have := digit_bounds (List.all_eq_true.mp (padStart_all_isDigit width n) c hmem)
    omega
  simp only [candidateText, String.toList_ofList, isoText, List.mem_append, List.mem_cons,
    List.not_mem_nil, or_false] at hc
  rcases hc with h | rfl | h | rfl | h | rfl | h | rfl | h | rfl | h | rfl | h | rfl
  all_goals first | exact hdigit _ _ h | decide

theorem before_candidateText (hs : 0 ≤ s) (ht : t < endOfFourDigitYears) (h : s < t) :
    before (candidateText s) (candidateText t) = true := by
  have hyear : yearOfDay (dayOfSeconds (t / 1000000000).toNat) ≤ 9999 := by
    unfold endOfFourDigitYears at ht
    rw [← not_lt, yearOfDay_seconds_iff]
    omega
  refine before_of_lt (fun c hc => ?_) (fun c hc => ?_) (isoText_lt hyear (by omega) fun hsame => ?_)
  · exact toNat_lt_of_mem (t := s) (by rwa [candidateText, String.toList_ofList])
  · exact toNat_lt_of_mem (t := t) (by rwa [candidateText, String.toList_ofList])
  · exact cons_lt '.' (field_lt (by decide) (by omega) (by omega) fun hsameNano => by omega)

/-- **The texts are ordered like the instants.** -/
theorem before_candidateText_iff (hs : 0 ≤ s) (hs' : s < endOfFourDigitYears) (ht : 0 ≤ t)
    (ht' : t < endOfFourDigitYears) : before (candidateText s) (candidateText t) = true ↔ s < t := by
  constructor
  · intro h
    unfold before at h
    rw [decide_eq_true_eq] at h
    by_contra hge
    rcases Int.lt_or_eq_of_le (not_lt.mp hge) with hlt | rfl
    · have hback := before_candidateText ht hs' hlt
      unfold before at hback
      exact lt_asymm h (of_decide_eq_true hback)
    · exact lt_irrefl _ h
  · exact before_candidateText hs ht'

/-! ### The two parsers -/

variable {text label label' : String} {f : Fields}

theorem utcDaysInMonth_eq {year : ℕ} (month : ℕ) (h : year ≠ 0) :
    utcDaysInMonth year month = daysInMonth year month := by
  unfold utcDaysInMonth
  split_ifs with hearly
  · have hleap : isLeapYear (1900 + year) = isLeapYear year := by
      simp only [isLeapYear, decide_eq_decide]
      omega
    unfold daysInMonth
    rw [hleap]
  · rfl

/-- **What the candidate parser accepts** of the texts from the year 1 on: what the strict parser
accepts with an offset of at most fourteen hours. -/
theorem isCandidateTimestamp_iff (hscan : scan text = some f) (hyear : f.year ≠ 0) :
    IsCandidateTimestamp text ↔
      IsStrictIso text ∧ (f.offsetHour < 14 ∨ (f.offsetHour = 14 ∧ f.offsetMinute = 0)) := by
  have hcandidate : IsCandidateTimestamp text ↔ f.inCandidateRange = true := by
    unfold IsCandidateTimestamp
    simp [hscan]
  have hstrict : IsStrictIso text ↔ f.inRange = true := by
    unfold IsStrictIso
    simp [hscan]
  rw [hcandidate, hstrict]
  simp only [Fields.inCandidateRange, Fields.inRange, Fields.hasValidTimezone, decide_eq_true_eq,
    utcDaysInMonth_eq _ hyear]
  omega

theorem parseStrict_eq_ok : parseStrictIsoTimestamp text label = .ok t ↔
    IsStrictIso text ∧ t = instant text := by
  constructor
  · intro h
    obtain ⟨hstrict, rfl⟩ := isStrictIso_of_parse h
    exact ⟨hstrict, rfl⟩
  · rintro ⟨hstrict, rfl⟩
    exact parse_of_isStrictIso hstrict label

/-- **The codec of the candidate timestamps.** Of the instants of the years 1970 to 9999, both formatters
write one text, which is read back, and the texts compare like the instants. The two parsers read the
same instant where both accept, and from the year 1 on they accept the same texts with an offset of at
most fourteen hours. -/
theorem candidate_timestamp_codec :
    (∀ ns, 0 ≤ ns → ns < endOfFourDigitYears → ∃ text,
      formatCanonicalUtcIsoNanoseconds ns = .ok text ∧
      formatCandidatePilotUtcNanoseconds ns = .ok text ∧
      ∀ label, parsePositionGuardCandidateTimestamp text label = .ok ns) ∧
    (∀ a b textA textB, 0 ≤ a → a < endOfFourDigitYears → 0 ≤ b → b < endOfFourDigitYears →
      formatCanonicalUtcIsoNanoseconds a = .ok textA → formatCanonicalUtcIsoNanoseconds b = .ok textB →
        (before textA textB = true ↔ a < b) ∧ (textA = textB ↔ a = b)) ∧
    (∀ text label label' s t, parsePositionGuardCandidateTimestamp text label = .ok s →
      parseStrictIsoTimestamp text label' = .ok t → s = t) ∧
    ∀ text f label label', scan text = some f → f.year ≠ 0 →
      ((∃ t, parsePositionGuardCandidateTimestamp text label = .ok t) ↔
        (∃ t, parseStrictIsoTimestamp text label' = .ok t) ∧
          (f.offsetHour < 14 ∨ (f.offsetHour = 14 ∧ f.offsetMinute = 0))) := by
  refine ⟨fun ns h0 hlt => ?_, fun a b textA textB ha ha' hb hb' htextA htextB => ?_,
    fun text label label' s t hs ht => ?_, fun text f label label' hscan hyear => ?_⟩
  · obtain ⟨text, htext, hreadable, rfl⟩ := format_spec h0 hlt
    exact ⟨text, htext, formatPilot_eq_ok.mpr htext, parseCandidate_of_is hreadable⟩
  · obtain rfl := Except.ok.inj ((format_eq ha ha').symm.trans htextA)
    obtain rfl := Except.ok.inj ((format_eq hb hb').symm.trans htextB)
    refine ⟨before_candidateText_iff ha ha' hb hb', fun hsame => ?_, fun hsame => by rw [hsame]⟩
    obtain ⟨textA, htextA, -, rfl⟩ := format_spec ha ha'
    obtain ⟨textB, htextB, -, rfl⟩ := format_spec hb hb'
    rw [format_eq ha ha', hsame, ← format_eq hb hb', htextB] at htextA
    rw [Except.ok.inj htextA]
  · rw [(parseCandidate_eq_ok.mp hs).2, (parseStrict_eq_ok.mp ht).2]
  · simp only [parseCandidate_eq_ok, parseStrict_eq_ok, exists_and_left, exists_eq, and_true]
    exact isCandidateTimestamp_iff hscan hyear

/-- An offset of fifteen hours is accepted by the strict parser only. -/
theorem fifteen_hours_strict_only :
    parseStrictIsoTimestamp "2026-01-01T00:00:00+15:00" "occurredAt" = .ok 1767171600000000000 ∧
      ¬ ∃ t, parsePositionGuardCandidateTimestamp "2026-01-01T00:00:00+15:00" "occurredAt" = .ok t := by
  refine ⟨by decide +kernel, ?_⟩
  rintro ⟨t, ht⟩
  exact absurd (parseCandidate_eq_ok.mp ht).1 (by decide +kernel)

end AutoTrade.Pilot.TimestampCodec
