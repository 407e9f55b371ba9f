import AutoTrade.Performance.Timestamp

/-! # Formatted instants as keys

The texts of `formatTimestamp` of `performance-hourly-coverage.ts` for the instants that accepted
texts denote, which reach a day past the year `9999`: there the nineteen characters hold no seconds,
and the text is not read again. Texts of instants that are whole hours apart still differ
(`stampOf_injective`). -/

namespace AutoTrade.Performance.StampTexts

open Lib.Text Domain.Timestamp Domain.IsoDate
open Domain.IsoOrder Performance.Timestamp

/-! ### The last instant of a text -/

theorem numeral_lt {width acc n : ℕ} {chars rest : List Char}
    (h : numeral width acc chars = some (n, rest)) : n < (acc + 1) * 10 ^ width := by
  induction width generalizing acc chars with
  | zero =>
    rw [numeral] at h
    obtain ⟨rfl, -⟩ := Prod.mk.inj (Option.some.inj h)
    omega
  | succ width ih =>
    rcases chars with - | ⟨c, chars⟩
    · cases h
    · rw [numeral] at h
      split_ifs at h with hdigit
      have hc := (digit_bounds hdigit).2
      calc n < (10 * acc + (c.toNat - 48) + 1) * 10 ^ width := ih h
        _ ≤ ((acc + 1) * 10) * 10 ^ width := Nat.mul_le_mul_right _ (by omega)
        _ = (acc + 1) * 10 ^ (width + 1) := by rw [Nat.pow_succ]; ring

theorem year_lt_of_scan {value : String} {f : Fields} (h : scan value = some f) : f.year < 10000 := by
  rw [scan_eq] at h
  simp only [Option.bind_eq_some_iff] at h
  obtain ⟨⟨year, r1⟩, hyear, r2, -, ⟨month, r3⟩, -, r4, -, ⟨day, r5⟩, -, r6, -, ⟨hour, r7⟩, -, r8, -,
    ⟨minute, r9⟩, -, r10, -, ⟨second, r11⟩, -, ⟨nanoseconds, r12⟩, -, zone, -, hf⟩ := h
  rw [← Option.some.inj hf]
  simpa using numeral_lt hyear

theorem daysBeforeMonth_mono (year : ℕ) {a b : ℕ} (ha : 1 ≤ a) (h : a ≤ b) :
    daysBeforeMonth year a ≤ daysBeforeMonth year b := by
  induction b, h using Nat.le_induction with
  | base => exact le_refl _
  | succ b hb ih =>
    rw [daysBeforeMonth_succ year (ha.trans hb)]
    omega

theorem epochDay_lt {f : Fields} (h : f.inCandidateRange = true) :
    epochDay f.year f.month f.day < daysBeforeYear (f.year + 1) - 719528 := by
  simp only [Fields.inCandidateRange, decide_eq_true_eq] at h
  obtain ⟨hm1, hm12, hd1, hday, -⟩ := h
  have hmonth := daysBeforeMonth_mono f.year (show 1 ≤ f.month + 1 by omega)
    (show f.month + 1 ≤ 13 by omega)
  rw [daysBeforeMonth_succ f.year hm1] at hmonth
  unfold epochDay
  rw [daysBeforeYear_1970, daysBeforeYear_succ]
  omega

/-- The second day of the year `10000`. -/
def endOfTexts : ℤ := 253402387200000000000

theorem endOfTexts_eq : endOfTexts = endOfFourDigitYears + 86400000000000 := rfl

/-- **An accepted text denotes an instant before the second day of the year `10000`.** -/
theorem instant_lt {value : String} (h : IsCandidateTimestamp value) :
    instant value < endOfTexts := by
  obtain ⟨f, hf, hr⟩ := h
  have hday := epochDay_lt hr
  have hyear := daysBeforeYear_mono (show f.year + 1 ≤ 10000 from year_lt_of_scan hf)
  have hbound : daysBeforeYear 10000 = 3652425 := by decide
  have hnano := nanosecondsOf_lt (all_isDigit_fractionText value) (length_fractionText_le value)
  simp only [Fields.inCandidateRange, Fields.hasValidTimezone, decide_eq_true_eq] at hr
  rw [instant_of_scan hf, nanoseconds_of_scan hf]
  unfold Fields.epochSeconds endOfTexts
  dsimp only
  split_ifs <;> omega

/-! ### Texts of instants -/

/-- The text of an instant from 1970 on, with nine digits of the fraction. -/
def stampOf (t : ℤ) : String := stampText (t / 1000000000) (padStart 9 (t % 1000000000).toNat)

theorem formatNanoseconds_of_lt {t : ℤ} (h0 : 0 ≤ t) (hlt : t < endOfTexts) :
    formatNanoseconds t = .ok (stampOf t) :=
  formatNanoseconds_eq h0 (by unfold endOfTexts at hlt; unfold endOfDates; omega)

theorem isDigit_of_mem_padStart {width n : ℕ} {c : Char} (h : c ∈ padStart width n) :
    c.isDigit = true := List.all_eq_true.mp (padStart_all_isDigit width n) c h

theorem slash_notMem_padStart (width n : ℕ) : '/' ∉ padStart width n := by
  intro h
  exact absurd (isDigit_of_mem_padStart h) (by decide)

theorem slash_notMem_isoDateText (ms : ℤ) : '/' ∉ (isoDateText ms).toList := by
  unfold isoDateText yearText afterYear
  simp only [String.toList_ofList]
  split_ifs <;> simp [slash_notMem_padStart]

theorem slash_notMem_stampOf (t : ℤ) : '/' ∉ (stampOf t).toList := by
  unfold stampOf stampText secondText
  rw [String.toList_ofList]
  have htext : '/' ∉ (isoDateText (1000 * (t / 1000000000))).toList.take 19 :=
    fun h => slash_notMem_isoDateText _ (List.mem_of_mem_take h)
  simp [htext, slash_notMem_padStart]

section Late

variable {t : ℤ} (h : endOfFourDigitYears ≤ t) (hlt : t < endOfTexts)
include h hlt

/-- The text of a second of the first day of the year `10000` ends with its minute. -/
theorem secondText_late : secondText (t / 1000000000) = "+010000-01-01T".toList ++
    (padStart 2 ((t - endOfFourDigitYears) / 3600000000000).toNat ++
      ':' :: padStart 2 ((t - endOfFourDigitYears) / 60000000000 % 60).toNat) := by
  rw [endOfTexts_eq] at hlt
  have hday : dayNumber (1000 * (t / 1000000000)) = 3652425 := by
    unfold dayNumber
    rw [daysBeforeYear_1970]
    unfold endOfFourDigitYears at h hlt
    omega
  have hyear : yearOfDay 3652425 = 10000 := by
    have hle := (yearOfDay_lt_iff 3652425 10000).not.mpr (by decide)
    have hlt := (yearOfDay_lt_iff 3652425 10001).mpr (by decide)
    omega
  have hmonth : monthOfDay 10000 0 = 1 := by decide
  have htime : (1000 * (t / 1000000000) % 86400000).toNat =
      ((t - endOfFourDigitYears) / 1000000000).toNat * 1000 := by
    unfold endOfFourDigitYears at h hlt ⊢
    omega
  have hhour : ((t - endOfFourDigitYears) / 1000000000).toNat * 1000 / 3600000 =
      ((t - endOfFourDigitYears) / 3600000000000).toNat := by omega
  have hminute : ((t - endOfFourDigitYears) / 1000000000).toNat * 1000 % 3600000 / 60000 =
      ((t - endOfFourDigitYears) / 60000000000 % 60).toNat := by omega
  have hlength : ∀ n, n < 100 → (padStart 2 n).length = 2 := fun n hn => length_padStart (by decide) hn
  have hnames : daysBeforeYear 10000 = 3652425 ∧ daysBeforeMonth 10000 1 = 0 ∧
      yearText 10000 = "+010000".toList ∧ padStart 2 1 = ['0', '1'] := by decide
  unfold secondText isoDateText
  rw [hday, cyclesBefore_of_nonneg (by decide), htime, String.toList_ofList]
  simp only [Nat.cast_zero, mul_zero, add_zero, sub_zero]
  rw [show (3652425 : ℤ).toNat = 3652425 from rfl, hyear]
  unfold afterYear
  dsimp only
  rw [hyear, hnames.1, Nat.sub_self, hmonth, hnames.2.1, hhour, hminute, hnames.2.2.2]
  have hyearText : yearText ((10000 : ℕ) : ℤ) = "+010000".toList := hnames.2.2.1
  rw [hyearText]
  have hhours := hlength ((t - endOfFourDigitYears) / 3600000000000).toNat (by
    unfold endOfFourDigitYears at hlt ⊢
    omega)
  have hminutes := hlength ((t - endOfFourDigitYears) / 60000000000 % 60).toNat (by omega)
  generalize padStart 2 ((t - endOfFourDigitYears) / 3600000000000).toNat = hours at *
  generalize padStart 2 ((t - endOfFourDigitYears) / 60000000000 % 60).toNat = minutes at *
  have htake : ∀ rest, (hours ++ ':' :: (minutes ++ rest)).take 5 = hours ++ ':' :: minutes :=
    fun rest => by
      rw [← List.cons_append, ← List.append_assoc]
      exact List.take_left' (by simp [hhours, hminutes])
  simp [htake]

theorem toList_stampOf_late : (stampOf t).toList = "+010000-01-01T".toList ++
    (padStart 2 ((t - endOfFourDigitYears) / 3600000000000).toNat ++
      (':' :: padStart 2 ((t - endOfFourDigitYears) / 60000000000 % 60).toNat ++
        '.' :: (padStart 9 (t % 1000000000).toNat ++ ['Z']))) := by
  unfold stampOf stampText
  rw [String.toList_ofList, secondText_late h hlt, List.append_assoc, List.append_assoc]

end Late

theorem denotes_stampOf_iff {t : ℤ} (h0 : 0 ≤ t) (u : ℤ) :
    Denotes (stampOf t) u ↔ t < endOfFourDigitYears ∧ u = t :=
  denotes_iff_of_stamp h0 (fractionDigits_nine (by omega)) u

/-- **Instants that are whole hours apart have different texts.** -/
theorem stampOf_injective {a b : ℤ} (ha : 0 ≤ a) (hb : 0 ≤ b)
    (haLt : a < endOfTexts) (hbLt : b < endOfTexts) (hgrid : (3600000000000 : ℤ) ∣ b - a)
    (h : stampOf a = stampOf b) : a = b := by
  have hread := denotes_stampOf_iff ha a
  rw [h, denotes_stampOf_iff hb] at hread
  rcases lt_or_ge a endOfFourDigitYears with hea | hea
  · exact (hread.mpr ⟨hea, rfl⟩).2
  rcases lt_or_ge b endOfFourDigitYears with heb | heb
  · have := (denotes_stampOf_iff hb b).mpr ⟨heb, rfl⟩
    rw [← h, denotes_stampOf_iff ha] at this
    exact this.2.symm
  have htext := congrArg String.toList h
  rw [toList_stampOf_late hea haLt, toList_stampOf_late heb hbLt, List.append_cancel_left_eq] at htext
  have hlength : ∀ n, n < 100 → (padStart 2 n).length = 2 :=
    fun n hn => length_padStart (by decide) hn
  have hhour := (List.append_inj htext (by
    rw [endOfTexts_eq] at haLt hbLt
    rw [hlength _ (by omega), hlength _ (by omega)])).1
  have hhour := congrArg (Nat.ofDigitChars 10 · 0) hhour
  rw [ofDigitChars_padStart, ofDigitChars_padStart] at hhour
  unfold endOfFourDigitYears at hea heb hhour
  omega

end AutoTrade.Performance.StampTexts
