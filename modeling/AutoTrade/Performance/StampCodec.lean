import AutoTrade.Performance.NoTradeEvidence
import Mathlib.Order.Bounds.Basic

/-! # The formatters against the parser

The formatters of instants divide with truncation. Before 1970 the remainder carries the sign, and it is
written into the fraction, where no parser reads it (`not_denotes_of_sign`); a whole second has no
remainder. `ceilToHour` divides in the same way and goes one hour too far before 1970. -/

namespace AutoTrade.Performance.StampCodec

open Lib.Text Domain.Timestamp Domain.IsoDate Performance.Timestamp
open Performance.NoTradeEvidence

/-- `formatTimestamp` of `performance-candle-coverage.ts`. -/
def formatTimestamp (epochNanoseconds : ℤ) : Except String String :=
  formatExact "Coverage timestamp is outside the safe range." epochNanoseconds

/-! ### Truncated division -/

theorem tmod_bounds (t : ℤ) {c : ℤ} (hc : 0 < c) :
    (0 ≤ t → 0 ≤ t.tmod c) ∧ (t ≤ 0 → t.tmod c ≤ 0) ∧ t.tmod c < c := by
  refine ⟨fun h => Int.tmod_nonneg c h, fun h => ?_, Int.tmod_lt_of_pos t hc⟩
  have hneg := Int.tmod_nonneg c (show 0 ≤ -t by omega)
  rw [Int.neg_tmod] at hneg
  omega

theorem tmod_nonneg_iff (t : ℤ) {c : ℤ} (hc : 0 < c) : 0 ≤ t.tmod c ↔ 0 ≤ t ∨ c ∣ t := by
  obtain ⟨hpos, hneg, -⟩ := tmod_bounds t hc
  constructor
  · intro h
    by_cases h0 : 0 ≤ t
    · exact Or.inl h0
    · have hle := hneg (by omega)
      exact Or.inr (Int.dvd_of_tmod_eq_zero (by omega))
  · rintro (h | h)
    · exact hpos h
    · exact (Int.tmod_eq_zero_of_dvd h).ge

/-! ### A sign in the fraction -/

theorem scanZone_eq_some {rest : List Char} {zone : Bool × ℕ × ℕ} (h : scanZone rest = some zone) :
    rest = ['Z'] ∨ ':' ∈ rest := by
  unfold scanZone at h
  split at h
  · exact Or.inl rfl
  · rename_i sign tail _
    refine Or.inr (List.mem_cons_of_mem _ ?_)
    split_ifs at h
    · cases h
    obtain ⟨⟨hour, rest⟩, hhour, h⟩ := Option.bind_eq_some_iff.mp h
    obtain ⟨colon, hcolon, -⟩ := Option.bind_eq_some_iff.mp h
    have hrest := numeral_rest hhour
    rcases rest with - | ⟨c, rest⟩
    · cases hcolon
    · rw [literal] at hcolon
      split_ifs at hcolon with hc
      rw [hc] at hrest
      exact List.mem_of_mem_drop (hrest ▸ List.mem_cons_self)
  · cases h

/-- **A text with a sign in the fraction is not read.** -/
theorem not_denotes_of_sign {seconds t : ℤ} {digits : List Char} (h : FourDigitSecond seconds)
    (hsign : '-' ∈ digits) (hcolon : ':' ∉ digits) : ¬ Denotes (stampText seconds digits) t := by
  rintro ⟨⟨f, hf, -⟩, -⟩
  unfold stampText at hf
  rw [secondText_eq h, civilOf_append, (written_secondFields h).scan] at hf
  obtain ⟨⟨n, rest⟩, hfraction, hzone⟩ := Option.bind_eq_some_iff.mp hf
  obtain ⟨zone, hzone, -⟩ := Option.map_eq_some_iff.mp hzone
  simp only [scanFraction, fraction_eq] at hfraction
  split_ifs at hfraction
  obtain ⟨-, rfl⟩ := Prod.mk.inj (Option.some.inj hfraction)
  have hprefix : leadingDigits 9 (digits ++ ['Z']) <+: digits ++ ['Z'] :=
    (List.take_prefix _ _).trans (List.takeWhile_prefix _)
  rcases scanZone_eq_some hzone with hend | hmem
  -- nothing but the `Z` is left, so the sign was read as a digit
  · have hlength := congrArg List.length hend
    rw [List.length_drop, List.length_append, List.length_singleton] at hlength
    have hread : leadingDigits 9 (digits ++ ['Z']) = digits := by
      rw [List.prefix_iff_eq_take.mp hprefix]
      exact List.take_left' (by omega)
    have hall := all_isDigit_leadingDigits 9 (digits ++ ['Z'])
    rw [hread] at hall
    exact absurd (List.all_eq_true.mp hall _ hsign) (by decide)
  · have hmem := List.mem_of_mem_drop hmem
    rw [List.mem_append, List.mem_singleton] at hmem
    exact hmem.elim hcolon (by decide)

theorem sign_padInteger {n : ℤ} (h : n < 0) (width : ℕ) :
    '-' ∈ padInteger width n ∧ ':' ∉ padInteger width n := by
  have hdigits : ':' ∉ Nat.toDigits 10 n.natAbs := fun hmem =>
    absurd (Nat.isDigit_of_mem_toDigits (by decide) (by decide) hmem) (by decide)
  unfold padInteger List.leftpad
  rw [if_pos h]
  simp [List.mem_replicate, hdigits]

theorem sign_exactDigits {n : ℤ} (h : n < 0) : '-' ∈ exactDigits n ∧ ':' ∉ exactDigits n := by
  unfold exactDigits
  split_ifs with hms
  · refine sign_padInteger ?_ 3
    have := Int.mul_tdiv_add_tmod n 1000000
    omega
  · exact sign_padInteger h 9

/-! ### When a formatter inverts the parser -/

/-- The text of the instant is parsed back as it. -/
def Inverts (format : ℤ → Except String String) (t : ℤ) : Prop :=
  ∃ text again, format t = .ok text ∧ parsePerformanceTimestamp text = some again ∧
    again.epochNanoseconds = t

/-- What a formatter writes: the second of the truncated quotient and the digits of the remainder. -/
structure Formats (format : ℤ → Except String String) (digits : ℤ → List Char) : Prop where
  text : ∀ {t text}, format t = .ok text →
    text = stampText (t.tdiv 1000000000) (digits (t.tmod 1000000000))
  returns : ∀ {t}, FourDigitSecond (t.tdiv 1000000000) → ∃ text, format t = .ok text
  fraction : ∀ {n}, 0 ≤ n → n < 1000000000 → FractionDigits (digits n) n.toNat
  sign : ∀ {n}, n < 0 → '-' ∈ digits n ∧ ':' ∉ digits n

theorem inDateRange_of_fourDigit {seconds : ℤ} (h : FourDigitSecond seconds) :
    inDateRange (1000 * seconds) = true := by
  unfold FourDigitSecond FourDigitYear firstYearMs lateYearMs at h
  unfold inDateRange maxTimeMs
  rw [decide_eq_true_eq]
  omega

theorem formats_nanoseconds : Formats formatNanoseconds (padInteger 9) where
  text h := by
    unfold formatNanoseconds formatStamp at h
    split_ifs at h
    exact (Except.ok.inj h).symm
  returns h := ⟨_, if_pos (inDateRange_of_fourDigit h)⟩
  fraction h0 h := by
    rw [padInteger_of_nonneg h0]
    exact fractionDigits_nine (by omega)
  sign h := sign_padInteger h 9

theorem formats_exact (error : String) : Formats (formatExact error) exactDigits where
  text h := by
    unfold formatExact formatStamp at h
    dsimp only at h
    split_ifs at h
    exact (Except.ok.inj h).symm
  returns {t} h := by
    have hsafe : ¬ 9007199254740991 < (1000 * t.tdiv 1000000000).natAbs := by
      unfold FourDigitSecond FourDigitYear firstYearMs lateYearMs at h
      omega
    exact ⟨_, (if_neg hsafe).trans (if_pos (inDateRange_of_fourDigit h))⟩
  fraction := fractionDigits_exact
  sign := sign_exactDigits

/-- The instant lies in the years `0` to `9999` of UTC. -/
def FourDigitInstant (t : ℤ) : Prop := -62167219200000000000 ≤ t ∧ t < endOfFourDigitYears

/-- **A formatter inverts the parser** in the four-digit years, from 1970 on and at whole seconds. -/
theorem Formats.inverts_iff {format : ℤ → Except String String} {digits : ℤ → List Char}
    (h : Formats format digits) (t : ℤ) :
    Inverts format t ↔ FourDigitInstant t ∧ (0 ≤ t ∨ 1000000000 ∣ t) := by
  have hparts := Int.mul_tdiv_add_tmod t 1000000000
  obtain ⟨-, -, hlt⟩ := tmod_bounds t (show (0 : ℤ) < 1000000000 by decide)
  rw [← tmod_nonneg_iff t (by decide)]
  have hyears (h0 : 0 ≤ t.tmod 1000000000) :
      FourDigitSecond (t.tdiv 1000000000) ↔ FourDigitInstant t := by
    unfold FourDigitSecond FourDigitYear firstYearMs lateYearMs FourDigitInstant endOfFourDigitYears
    omega
  constructor
  · rintro ⟨text, again, htext, hagain, hinstant⟩
    obtain ⟨hcandidate, hepoch⟩ := isCandidateTimestamp_of_parse hagain
    have hdenotes : Denotes text t := ⟨hcandidate, hepoch ▸ hinstant⟩
    rw [h.text htext] at hdenotes
    have hfour : FourDigitSecond (t.tdiv 1000000000) := by
      by_contra hother
      exact not_denotes_stampText hother _ t hdenotes
    have hnonneg : 0 ≤ t.tmod 1000000000 := by
      by_contra hneg
      obtain ⟨hsign, hcolon⟩ := h.sign (not_le.mp hneg)
      exact not_denotes_of_sign hfour hsign hcolon hdenotes
    exact ⟨(hyears hnonneg).mp hfour, hnonneg⟩
  · rintro ⟨hinstant, hnonneg⟩
    have hfour := (hyears hnonneg).mpr hinstant
    obtain ⟨text, htext⟩ := h.returns hfour
    have hdigits := h.fraction hnonneg hlt
    have hparse := parse_stampText hfour hdigits.all_isDigit hdigits.ne_nil hdigits.length_le
    rw [← h.text htext, hdigits.nanoseconds] at hparse
    refine ⟨text, _, htext, hparse, ?_⟩
    dsimp only
    omega

/-! ### The hour -/

/-- **`ceilToHour` is the ceiling** from 1970 on and at full hours. -/
theorem isLeast_ceilToHour_iff (t : ℤ) :
    IsLeast {x | hourNanoseconds ∣ x ∧ t ≤ x} (ceilToHour t) ↔ 0 ≤ t ∨ hourNanoseconds ∣ t := by
  have hhour : (0 : ℤ) < hourNanoseconds := by decide
  have hparts := Int.mul_tdiv_add_tmod t hourNanoseconds
  constructor
  · rintro ⟨-, hleast⟩
    rw [← tmod_nonneg_iff t hhour]
    by_contra hneg
    -- the multiple that the truncated quotient gives lies before the result
    have hceil : ceilToHour t = t + hourNanoseconds - t.tmod hourNanoseconds := if_neg (by omega)
    have hle := hleast (show hourNanoseconds * t.tdiv hourNanoseconds ∈ {x | _ ∧ t ≤ x} from
      ⟨Dvd.intro _ rfl, by omega⟩)
    omega
  · rintro (h0 | hdvd)
    · obtain ⟨hceil, hle, hlt⟩ := ceilToHour_spec h0
      refine ⟨⟨hceil, hle⟩, fun x ⟨hx, htx⟩ => ?_⟩
      unfold hourNanoseconds at hceil hlt hx
      omega
    · have hceil : ceilToHour t = t := if_pos (Int.tmod_eq_zero_of_dvd hdvd)
      rw [hceil]
      exact ⟨⟨hdvd, le_rfl⟩, fun x ⟨_, htx⟩ => htx⟩

/-! ### All of them -/

/-- The three formatters invert the parser at the instant, and `ceilToHour` gives the least multiple of
an hour that is not below it. -/
structure Inverted (t : ℤ) : Prop where
  formatExactTimestamp : Inverts formatExactTimestamp t
  formatTimestamp : Inverts formatTimestamp t
  formatNanoseconds : Inverts formatNanoseconds t
  ceilToHour : IsLeast {x | hourNanoseconds ∣ x ∧ t ≤ x} (ceilToHour t)

/-- **When all of them are right**: in the four-digit years, from 1970 on and at full hours. -/
theorem inverted_iff (t : ℤ) :
    Inverted t ↔ FourDigitInstant t ∧ (0 ≤ t ∨ hourNanoseconds ∣ t) := by
  constructor
  · intro h
    exact ⟨((formats_exact _).inverts_iff t |>.mp h.formatExactTimestamp).1,
      (isLeast_ceilToHour_iff t).mp h.ceilToHour⟩
  · rintro ⟨hfour, hwhole⟩
    have hsecond : 0 ≤ t ∨ 1000000000 ∣ t :=
      hwhole.imp_right (Dvd.dvd.trans (by decide))
    exact ⟨(formats_exact _).inverts_iff t |>.mpr ⟨hfour, hsecond⟩,
      (formats_exact _).inverts_iff t |>.mpr ⟨hfour, hsecond⟩,
      formats_nanoseconds.inverts_iff t |>.mpr ⟨hfour, hsecond⟩,
      (isLeast_ceilToHour_iff t).mpr hwhole⟩

/-- Half a second before 1970. -/
theorem half_second_before_1970 :
    (parsePerformanceTimestamp "1969-12-31T23:59:59.500Z").map (·.epochNanoseconds) =
        some (-500000000) ∧
      formatExactTimestamp (-500000000) = .ok "1970-01-01T00:00:00.-500Z" ∧
      formatNanoseconds (-500000000) = .ok "1970-01-01T00:00:00.-500000000Z" ∧
      ceilToHour (-500000000) = 3600000000000 ∧ ¬ Inverted (-500000000) := by
  refine ⟨by decide +kernel, by decide +kernel, by decide +kernel, by decide, fun h => ?_⟩
  have hle := h.ceilToHour.2 (show (0 : ℤ) ∈ {x | hourNanoseconds ∣ x ∧ -500000000 ≤ x} from
    ⟨dvd_zero _, by decide⟩)
  exact absurd hle (by decide)

end AutoTrade.Performance.StampCodec
