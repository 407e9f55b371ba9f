import AutoTrade.Execution.OrderDecimals

/-! # Signed decimal texts

What `formatExactDecimal` writes and `parseCanonicalSignedDecimal` reads. Every text that is read is
written back as it was (`format_parse_signed`). The texts of the numbers strictly between -1 and 1
other than zero are written and not read (`signed_round_trip_iff`). -/

namespace AutoTrade.Execution.SignedDecimals

open Lib.Decimal
open Execution.EvidenceDecimals Execution.OrderDecimals

variable {s t label : String} {d e : ExactDecimal}

theorem parseSigned_eq_ok :
    parseCanonicalSignedDecimal s label = .ok e ↔
      isCanonicalSigned s.toList = true ∧ e = parseCanonicalDecimal s := by
  unfold parseCanonicalSignedDecimal
  by_cases h : isCanonicalSigned s.toList = true
  · rw [if_pos h, Except.ok.injEq]
    exact ⟨fun he => ⟨h, he.symm⟩, fun he => he.2.symm⟩
  · simp [h]

theorem isCanonicalNonNegative_of_fromOne {chars : List Char}
    (h : isCanonicalFromOne chars = true) : isCanonicalNonNegative chars = true := by
  simp only [isCanonicalFromOne, decide_eq_true_eq] at h
  simp only [isCanonicalNonNegative, isNumeral, decide_eq_true_eq]
  exact ⟨Or.inr h.1, h.2⟩

theorem format_of_trimmed_neg {n scale : ℕ} (hn : 0 < n) (h : scale = 0 ∨ n % 10 ≠ 0) :
    formatExactDecimal ⟨-n, scale⟩ = String.ofList ('-' :: pointed n scale) := by
  have hnormal : Normalized ⟨-n, scale⟩ := h.imp_right fun hmod => by
    change (-n : ℤ) % 10 ≠ 0
    omega
  have hself : normalizeExactDecimal ⟨-n, scale⟩ = ⟨-n, scale⟩ :=
    (normalized_normalize _).ext hnormal (value_normalize _)
  have hsign : (-n : ℤ) < 0 := by omega
  have habs : (-n : ℤ).natAbs = n := by omega
  unfold formatExactDecimal
  simp only [hself, if_pos hsign, habs]

theorem format_parse_negative {chars : List Char} (hs : s.toList = '-' :: chars)
    (h : isCanonicalFromOne chars = true) : formatExactDecimal (parseCanonicalDecimal s) = s := by
  have hplain := isPlainDecimal_of_canonical (isCanonicalNonNegative_of_fromOne h)
  set n := Nat.ofDigitChars 10 (wholePart chars ++ (fractionPart chars).getD []) 0 with hn
  set scale := ((fractionPart chars).getD []).length with hscale
  have htext : pointed n scale = chars := pointed_ofDigitChars hplain
  have htrimmed : scale = 0 ∨ n % 10 ≠ 0 := by
    have htrim := h
    simp only [isCanonicalFromOne, decide_eq_true_eq] at htrim
    rw [← trimmed_pointed, htext]
    exact htrim.2
  have hlarge : 10 ^ scale ≤ n := by
    rw [← isCanonicalFromOne_pointed htrimmed, htext]
    exact h
  have hpos : 0 < n := lt_of_lt_of_le (by positivity) hlarge
  have hparse : parseCanonicalDecimal s = normalizeExactDecimal ⟨-n, scale⟩ := by
    unfold parseCanonicalDecimal
    simp only [hs, List.head?_cons, List.tail_cons, if_true]
    rw [← hn, ← hscale, neg_one_mul]
  have hvalue : (parseCanonicalDecimal s).value = (⟨-n, scale⟩ : ExactDecimal).value := by
    rw [hparse, value_normalize]
  rw [(format_eq_iff _ _).mpr hvalue, format_of_trimmed_neg hpos htrimmed, htext, ← hs,
    String.ofList_toList]

/-- **A text that is read is written back as it was.** -/
theorem format_parse_signed (h : isCanonicalSigned s.toList = true) :
    formatExactDecimal (parseCanonicalDecimal s) = s := by
  simp only [isCanonicalSigned, decide_eq_true_eq] at h
  rcases h with hzero | hone | ⟨hsign, hone⟩
  · have : isCanonicalNonNegative s.toList = true := by
      rw [hzero]
      decide
    exact format_parse this
  · exact format_parse (isCanonicalNonNegative_of_fromOne hone)
  · obtain ⟨chars, hs⟩ : ∃ chars, s.toList = '-' :: chars :=
      List.head?_eq_some_iff.mp hsign
    rw [hs, List.tail_cons] at hone
    exact format_parse_negative hs hone

/-- **What is written is read as the same number exactly when the number is zero or at least one in
absolute value**; what is read is always written back. -/
theorem signed_round_trip_iff (label : String) :
    (∀ d : ExactDecimal,
      (∃ e, parseCanonicalSignedDecimal (formatExactDecimal d) label = .ok e ∧ e.value = d.value) ↔
        d.value = 0 ∨ 1 ≤ |d.value|) ∧
    ∀ s e, parseCanonicalSignedDecimal s label = .ok e → formatExactDecimal e = s := by
  constructor
  · intro d
    rw [← isCanonicalSigned_format]
    constructor
    · rintro ⟨e, he, -⟩
      exact (parseSigned_eq_ok.mp he).1
    · intro h
      exact ⟨_, parseSigned_eq_ok.mpr ⟨h, rfl⟩, parse_format_value d⟩
  · intro s e he
    obtain ⟨h, rfl⟩ := parseSigned_eq_ok.mp he
    exact format_parse_signed h

theorem signed_round_trip_two_and_a_half :
    ∃ e, parseCanonicalSignedDecimal (formatExactDecimal ⟨-25, 1⟩) "currentEpisodeRealizedPnlKrw" =
      .ok e ∧ e.value = (⟨-25, 1⟩ : ExactDecimal).value :=
  ((signed_round_trip_iff _).1 _).mpr (Or.inr (by norm_num [ExactDecimal.value, abs_of_neg]))

/-- A profit of half a won is written as `0.5`, which is not read. -/
theorem signed_round_trip_fails_at_half :
    formatExactDecimal ⟨5, 1⟩ = "0.5" ∧
      ¬ ∃ e, parseCanonicalSignedDecimal (formatExactDecimal ⟨5, 1⟩) "currentEpisodeRealizedPnlKrw" =
        .ok e ∧ e.value = (⟨5, 1⟩ : ExactDecimal).value := by
  refine ⟨by decide, ?_⟩
  rintro ⟨e, he, -⟩
  have hrefused : isCanonicalSigned (formatExactDecimal ⟨5, 1⟩).toList = false := by decide
  rw [(parseSigned_eq_ok.mp he).1] at hrefused
  cases hrefused

end AutoTrade.Execution.SignedDecimals
