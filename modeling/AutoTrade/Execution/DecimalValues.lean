import AutoTrade.Execution.EvidenceDecimals
import Mathlib.Tactic.NormNum

/-! # The rational numbers behind the decimals

What the operations on exact decimals do to the rational they denote (`value`), and how the texts
and the rationals determine each other: `formatExactDecimal` of two decimals is the same text exactly
when they denote the same number. The signed grammar leaves out the texts of the numbers strictly
between -1 and 1 other than zero (`isCanonicalSigned_format`). -/

namespace AutoTrade.Execution.EvidenceDecimals

open Lib.Decimal Lib.Result Strategy.CandidateState

/-- The number a decimal denotes. -/
def ExactDecimal.value (d : ExactDecimal) : ℚ := d.coefficient / 10 ^ d.scale

/-! ### Arithmetic -/

theorem value_dropZeros (coefficient : ℤ) (scale : ℕ) :
    (dropZeros coefficient scale).value = coefficient / 10 ^ scale := by
  induction scale generalizing coefficient with
  | zero => rfl
  | succ scale ih =>
    unfold dropZeros
    split_ifs with h
    · have hten : coefficient = 10 * (coefficient / 10) := by omega
      rw [ih]
      conv_rhs => rw [hten]
      push_cast
      field_simp
      ring
    · rfl

@[simp] theorem value_normalize (d : ExactDecimal) : (normalizeExactDecimal d).value = d.value :=
  value_dropZeros _ _

theorem value_atScale (d : ExactDecimal) {scale : ℕ} (h : d.scale ≤ scale) :
    (d.atScale scale : ℚ) / 10 ^ scale = d.value := by
  unfold ExactDecimal.atScale ExactDecimal.value
  rw [div_eq_div_iff (by positivity) (by positivity)]
  push_cast
  rw [mul_assoc, ← pow_add, Nat.sub_add_cancel h]

variable (a b : ExactDecimal)

@[simp] theorem value_add : (addExactDecimals a b).value = a.value + b.value := by
  unfold addExactDecimals
  rw [value_normalize, ← value_atScale a (le_max_left a.scale b.scale),
    ← value_atScale b (le_max_right a.scale b.scale)]
  unfold ExactDecimal.value
  push_cast
  ring

@[simp] theorem value_subtract : (subtractExactDecimals a b).value = a.value - b.value := by
  unfold subtractExactDecimals
  rw [value_normalize, ← value_atScale a (le_max_left a.scale b.scale),
    ← value_atScale b (le_max_right a.scale b.scale)]
  unfold ExactDecimal.value
  push_cast
  ring

@[simp] theorem value_multiply : (multiplyExactDecimals a b).value = a.value * b.value := by
  unfold multiplyExactDecimals
  rw [value_normalize]
  unfold ExactDecimal.value
  push_cast
  rw [pow_add]
  field_simp

theorem atScale_lt_iff {scale : ℕ} (ha : a.scale ≤ scale) (hb : b.scale ≤ scale) :
    a.atScale scale < b.atScale scale ↔ a.value < b.value := by
  rw [← value_atScale a ha, ← value_atScale b hb,
    div_lt_div_iff_of_pos_right (by positivity : (0 : ℚ) < 10 ^ scale)]
  exact Int.cast_lt.symm

theorem compare_eq_iff :
    (compareExactDecimals a b = -1 ↔ a.value < b.value) ∧
      (compareExactDecimals a b = 0 ↔ a.value = b.value) ∧
      (compareExactDecimals a b = 1 ↔ b.value < a.value) := by
  have hlt := atScale_lt_iff a b (le_max_left _ _) (le_max_right _ _)
  have hgt := atScale_lt_iff b a (le_max_right a.scale b.scale) (le_max_left _ _)
  unfold compareExactDecimals
  dsimp only
  split_ifs with hless hmore
  · have hvalue := hlt.mp hless
    simp [hvalue, hvalue.ne, hvalue.asymm]
  · have hvalue := hgt.mp hmore
    simp [hvalue, hvalue.ne', hvalue.asymm]
  · have hle := not_lt.mp (hlt.not.mp hless)
    have hge := not_lt.mp (hgt.not.mp hmore)
    simp [le_antisymm hge hle]

theorem compare_pos_iff : 0 < compareExactDecimals a b ↔ b.value < a.value := by
  obtain ⟨hless, hsame, hmore⟩ := compare_eq_iff a b
  rcases lt_trichotomy a.value b.value with h | h | h
  · simp [hless.mpr h, h.asymm]
  · simp [hsame.mpr h, h]
  · simp [hmore.mpr h, h]

theorem compare_nonpos_iff : compareExactDecimals a b ≤ 0 ↔ a.value ≤ b.value := by
  rw [← not_lt, compare_pos_iff, not_lt]

theorem value_abs (a : ExactDecimal) : (absDecimal a).value = |a.value| := by
  have hpow : (0 : ℚ) < 10 ^ a.scale := by positivity
  unfold absDecimal
  split_ifs with h
  · have hneg : a.value < 0 := div_neg_of_neg_of_pos (by exact_mod_cast h) hpow
    rw [abs_of_neg hneg]
    unfold ExactDecimal.value
    push_cast
    ring
  · have hnonneg : 0 ≤ a.value := div_nonneg (by exact_mod_cast not_lt.mp h) hpow.le
    rw [abs_of_nonneg hnonneg]

/-! ### Division -/

theorem factorOut_mul (p : ℤ) (fuel : ℕ) (d : ℤ) :
    (factorOut p fuel d).1 * p ^ (factorOut p fuel d).2 = d := by
  induction fuel generalizing d with
  | zero => simp [factorOut]
  | succ fuel ih =>
    unfold factorOut
    split_ifs with h
    · have hd : d / p * p = d := Int.ediv_mul_cancel (Int.dvd_of_emod_eq_zero h)
      dsimp only
      rw [pow_succ, ← mul_assoc, ih, hd]
    · simp

variable {label : String}

/-- One or minus one is left of the denominator, and its sign is dropped. -/
theorem value_divideReduced {numerator denominator : ℤ} {q : ExactDecimal}
    (h : divideReduced numerator denominator label = .ok q) :
    q.value = numerator / |(denominator : ℚ)| := by
  unfold divideReduced at h
  dsimp only at h
  set twos := factorOut 2 denominator.natAbs denominator with htwos
  set fives := factorOut 5 twos.1.natAbs twos.1 with hfives
  have h2 : twos.1 * 2 ^ twos.2 = denominator := factorOut_mul 2 _ denominator
  have h5 : fives.1 * 5 ^ fives.2 = twos.1 := factorOut_mul 5 _ twos.1
  have hall : fives.1 * 5 ^ fives.2 * 2 ^ twos.2 = denominator := by rw [h5, h2]
  split_ifs at h with hend
  have hone : |(fives.1 : ℚ)| = 1 := by
    have hunit : fives.1 = 1 ∨ fives.1 = -1 := by tauto
    rcases hunit with hunit | hunit <;> simp [hunit]
  have habs : |(denominator : ℚ)| = 5 ^ fives.2 * 2 ^ twos.2 := by
    rw [← hall]
    push_cast
    rw [abs_mul, abs_mul, hone, one_mul, abs_of_pos (by positivity), abs_of_pos (by positivity)]
  rw [← Except.ok.inj h, value_normalize, habs]
  set scale := max twos.2 fives.2 with hscale
  have hs2 : scale = (scale - twos.2) + twos.2 := by omega
  have hs5 : scale = (scale - fives.2) + fives.2 := by omega
  unfold ExactDecimal.value
  dsimp only
  have hten : (10 : ℚ) ^ scale = (2 ^ (scale - twos.2) * 2 ^ twos.2) *
      (5 ^ (scale - fives.2) * 5 ^ fives.2) := by
    rw [← pow_add, ← pow_add, ← hs2, ← hs5, ← mul_pow]
    norm_num
  rw [hten]
  push_cast
  field_simp

variable {d : ExactDecimal}

theorem coefficient_pos (h : 0 < d.value) : 0 < d.coefficient := by
  have hpow : (0 : ℚ) < 10 ^ d.scale := by positivity
  have : (0 : ℚ) < d.coefficient := (div_pos_iff_of_pos_right hpow).mp h
  exact_mod_cast this

variable {a b : ExactDecimal}

theorem ratio_eq (hb : b.coefficient ≠ 0) :
    ((a.coefficient * 10 ^ (b.scale - a.scale) : ℤ) : ℚ) /
      ((b.coefficient * 10 ^ (a.scale - b.scale) : ℤ) : ℚ) = a.value / b.value := by
  unfold ExactDecimal.value
  push_cast
  have hbq : (b.coefficient : ℚ) ≠ 0 := by exact_mod_cast hb
  rcases le_total a.scale b.scale with hle | hle
  · rw [Nat.sub_eq_zero_of_le hle, show (10 : ℚ) ^ b.scale = 10 ^ (b.scale - a.scale) * 10 ^ a.scale by
      rw [← pow_add, Nat.sub_add_cancel hle]]
    field_simp
  · rw [Nat.sub_eq_zero_of_le hle, show (10 : ℚ) ^ a.scale = 10 ^ (a.scale - b.scale) * 10 ^ b.scale by
      rw [← pow_add, Nat.sub_add_cancel hle]]
    field_simp

theorem ratio_abs (hb : b.coefficient ≠ 0) :
    ((a.coefficient * 10 ^ (b.scale - a.scale) : ℤ) : ℚ) /
      |((b.coefficient * 10 ^ (a.scale - b.scale) : ℤ) : ℚ)| = a.value / |b.value| := by
  have hpow : (0 : ℤ) < 10 ^ (a.scale - b.scale) := by positivity
  rcases lt_or_gt_of_ne hb with hneg | hpos
  · have hvalue : b.value < 0 := div_neg_of_neg_of_pos (by exact_mod_cast hneg) (by positivity)
    rw [abs_of_neg (by exact_mod_cast mul_neg_of_neg_of_pos hneg hpow), abs_of_neg hvalue, div_neg,
      div_neg, ratio_eq hb]
  · have hvalue : 0 < b.value := div_pos (by exact_mod_cast hpos) (by positivity)
    rw [abs_of_pos (by exact_mod_cast mul_pos hpos hpow), abs_of_pos hvalue, ratio_eq hb]

theorem greatestCommonDivisor_eq (a : ℕ) {b turns : ℕ} (hb : b ≠ 0) (hturns : b ≤ turns) :
    greatestCommonDivisor turns a b = Nat.gcd a b := by
  induction turns generalizing a b with
  | zero => exact absurd (Nat.le_zero.mp hturns) hb
  | succ turns ih =>
    have hlt : a % b < b := Nat.mod_lt _ (Nat.pos_of_ne_zero hb)
    unfold greatestCommonDivisor
    rw [if_neg hb]
    by_cases hlast : a % b = 0
    · have hdone : greatestCommonDivisor turns b 0 = b := by
        cases turns <;> simp [greatestCommonDivisor, hb]
      rw [hlast, hdone]
      exact (Nat.gcd_eq_right (Nat.dvd_of_mod_eq_zero hlast)).symm
    · rw [ih b hlast (by omega), Nat.gcd_comm b, ← Nat.gcd_rec, Nat.gcd_comm]

theorem greatestCommonDivisor_natAbs (a : ℤ) {b : ℤ} (hb : b ≠ 0) :
    greatestCommonDivisor b.natAbs a.natAbs b.natAbs = Int.gcd a b :=
  greatestCommonDivisor_eq _ (Int.natAbs_ne_zero.mpr hb) le_rfl

theorem value_divide {a b q : ExactDecimal} (h : divideExactDecimals a b label = .ok q) :
    q.value = a.value / |b.value| := by
  unfold divideExactDecimals at h
  split_ifs at h with hb
  dsimp only at h
  rw [← ratio_abs hb]
  set numerator := a.coefficient * 10 ^ (b.scale - a.scale) with hn
  set denominator := b.coefficient * 10 ^ (a.scale - b.scale) with hd
  have hne : denominator ≠ 0 := mul_ne_zero hb (by positivity)
  rw [greatestCommonDivisor_natAbs _ hne] at h
  have hg : 0 < Int.gcd numerator denominator := Int.gcd_pos_of_ne_zero_right _ hne
  have hgd : (Int.gcd numerator denominator : ℤ) ∣ denominator := Int.gcd_dvd_right ..
  have hgn : (Int.gcd numerator denominator : ℤ) ∣ numerator := Int.gcd_dvd_left ..
  have hgq : (0 : ℚ) < (Int.gcd numerator denominator : ℤ) := by exact_mod_cast hg
  rw [value_divideReduced h, Int.cast_div hgn hgq.ne', Int.cast_div hgd hgq.ne', abs_div,
    abs_of_pos hgq, div_div_div_cancel_right₀ hgq.ne']

/-! ### Normal forms -/

/-- The fraction does not end in a zero. -/
def Normalized (d : ExactDecimal) : Prop := d.scale = 0 ∨ d.coefficient % 10 ≠ 0

theorem normalized_dropZeros (coefficient : ℤ) (scale : ℕ) :
    Normalized (dropZeros coefficient scale) := by
  induction scale generalizing coefficient with
  | zero => exact Or.inl rfl
  | succ scale ih =>
    unfold dropZeros
    split_ifs with h
    · exact ih _
    · exact Or.inr h

theorem normalized_normalize (d : ExactDecimal) : Normalized (normalizeExactDecimal d) :=
  normalized_dropZeros _ _

theorem Normalized.scale_le (ha : Normalized a) (h : a.value = b.value) : a.scale ≤ b.scale := by
  by_contra hlt
  have hpos : a.scale ≠ 0 := by omega
  have hmod := ha.resolve_left hpos
  -- the coefficient of `a` is that of `b` with zeros appended
  have hcoefficient : a.coefficient = b.coefficient * 10 ^ (a.scale - b.scale) := by
    unfold ExactDecimal.value at h
    rw [div_eq_div_iff (by positivity) (by positivity),
      show (10 : ℚ) ^ a.scale = 10 ^ (a.scale - b.scale) * 10 ^ b.scale by
        rw [← pow_add, Nat.sub_add_cancel (by omega)], ← mul_assoc] at h
    exact_mod_cast mul_right_cancel₀ (by positivity) h
  rw [show a.scale - b.scale = (a.scale - b.scale - 1) + 1 by omega, pow_succ, ← mul_assoc]
    at hcoefficient
  exact hmod (by rw [hcoefficient]; exact Int.mul_emod_left ..)

theorem Normalized.ext (ha : Normalized a) (hb : Normalized b) (h : a.value = b.value) : a = b := by
  have hscale : a.scale = b.scale := le_antisymm (ha.scale_le h) (hb.scale_le h.symm)
  have hcoefficient : a.coefficient = b.coefficient := by
    unfold ExactDecimal.value at h
    rw [hscale, div_left_inj' (by positivity)] at h
    exact_mod_cast h
  cases a
  cases b
  simp_all

/-! ### Texts -/

theorem pointed_ne_minus (n scale : ℕ) : (pointed n scale).head? ≠ some '-' := by
  by_cases h : scale = 0
  · subst h
    rw [pointed_zero]
    intro hhead
    exact absurd (List.all_eq_true.mp (toDigits_all_isDigit n) _ (List.mem_of_mem_head? hhead))
      (by decide)
  · obtain ⟨whole, fraction, hp, -, -, hwhole, -, hne⟩ := pointed_parts n h
    rw [hp, List.head?_append_of_ne_nil _ hne]
    intro hhead
    exact absurd (List.all_eq_true.mp hwhole _ (List.mem_of_mem_head? hhead)) (by decide)

theorem value_of_natAbs (d : ExactDecimal) :
    d.value = if d.coefficient < 0 then -((d.coefficient.natAbs : ℚ) / 10 ^ d.scale)
      else (d.coefficient.natAbs : ℚ) / 10 ^ d.scale := by
  have habs : ((d.coefficient.natAbs : ℤ) : ℚ) = (d.coefficient.natAbs : ℚ) := rfl
  unfold ExactDecimal.value
  split_ifs with h
  · rw [← habs, show ((d.coefficient.natAbs : ℕ) : ℤ) = -d.coefficient by omega]
    push_cast
    ring
  · rw [← habs, show ((d.coefficient.natAbs : ℕ) : ℤ) = d.coefficient by omega]

@[simp] theorem routingNumber_format (d : ExactDecimal) :
    routingNumber (formatExactDecimal d) = d.value := by
  rw [← value_normalize d, value_of_natAbs]
  unfold formatExactDecimal routingNumber
  simp only [String.toList_ofList]
  by_cases h : (normalizeExactDecimal d).coefficient < 0
  · simp only [if_pos h, List.head?_cons, List.tail_cons, if_true, decimalValue_pointed]
  · simp only [if_neg h, if_neg (pointed_ne_minus _ _), decimalValue_pointed]

theorem value_parse (t : String) : (parseCanonicalDecimal t).value = routingNumber t := by
  unfold parseCanonicalDecimal routingNumber
  rw [value_normalize]
  unfold ExactDecimal.value decimalValue
  split_ifs <;> simp [neg_div]

theorem format_eq_iff (a b : ExactDecimal) :
    formatExactDecimal a = formatExactDecimal b ↔ a.value = b.value := by
  constructor
  · intro h
    rw [← routingNumber_format a, h, routingNumber_format]
  · intro h
    have hn : normalizeExactDecimal a = normalizeExactDecimal b :=
      (normalized_normalize a).ext (normalized_normalize b) (by simpa using h)
    unfold formatExactDecimal
    rw [hn]

theorem format_eq_zero_iff (a : ExactDecimal) : formatExactDecimal a = "0" ↔ a.value = 0 := by
  have hzero : formatExactDecimal ⟨0, 0⟩ = "0" := by decide
  rw [← hzero, format_eq_iff]
  simp [ExactDecimal.value]

theorem parse_format_value (d : ExactDecimal) :
    (parseCanonicalDecimal (formatExactDecimal d)).value = d.value := by
  rw [value_parse, routingNumber_format]

theorem isCanonicalNonNegative_format (h : 0 ≤ d.value) :
    isCanonicalNonNegative (formatExactDecimal d).toList = true := by
  have hc : ¬ (normalizeExactDecimal d).coefficient < 0 := by
    intro hneg
    rw [← value_normalize] at h
    exact absurd h (not_le.mpr (div_neg_of_neg_of_pos (by exact_mod_cast hneg) (by positivity)))
  unfold formatExactDecimal isCanonicalNonNegative
  simp only [String.toList_ofList, if_neg hc, decide_eq_true_eq]
  constructor
  · unfold isNumeral
    rcases wholePart_pointed (normalizeExactDecimal d).coefficient.natAbs
      (normalizeExactDecimal d).scale with ⟨-, hw⟩ | ⟨-, hw⟩
    · simp [hw]
    · simp [hw]
  · refine trimmed_pointed.mpr ((normalized_normalize d).imp_right fun hmod hnat => hmod ?_)
    omega

theorem abs_value (d : ExactDecimal) :
    |d.value| = (d.coefficient.natAbs : ℚ) / 10 ^ d.scale := by
  have hnonneg : (0 : ℚ) ≤ (d.coefficient.natAbs : ℚ) / 10 ^ d.scale := by positivity
  rw [value_of_natAbs]
  split_ifs
  · rw [abs_neg, abs_of_nonneg hnonneg]
  · exact abs_of_nonneg hnonneg

theorem one_le_abs_value (d : ExactDecimal) :
    1 ≤ |d.value| ↔ 10 ^ d.scale ≤ d.coefficient.natAbs := by
  rw [abs_value, le_div_iff₀ (by positivity), one_mul]
  exact_mod_cast Iff.rfl

theorem isCanonicalFromOne_pointed {n scale : ℕ} (h : scale = 0 ∨ n % 10 ≠ 0) :
    isCanonicalFromOne (pointed n scale) = true ↔ 10 ^ scale ≤ n := by
  simp only [isCanonicalFromOne, decide_eq_true_eq, trimmed_pointed.mpr h, and_true]
  rcases wholePart_pointed n scale with ⟨hle, hw⟩ | ⟨hlt, hw⟩
  · exact ⟨fun _ => hle, fun _ => hw⟩
  · rw [hw]
    exact ⟨fun h => absurd h (by decide), fun h => absurd h (not_le.mpr hlt)⟩

/-- The signed grammar accepts the text of a number exactly when the number is zero or at least one
in absolute value. -/
theorem isCanonicalSigned_format (d : ExactDecimal) :
    isCanonicalSigned (formatExactDecimal d).toList = true ↔ d.value = 0 ∨ 1 ≤ |d.value| := by
  have hnormal : (normalizeExactDecimal d).scale = 0 ∨
      (normalizeExactDecimal d).coefficient.natAbs % 10 ≠ 0 := by
    refine (normalized_normalize d).imp_right fun hmod hnat => hmod ?_
    omega
  rw [← value_normalize d, one_le_abs_value]
  set e := normalizeExactDecimal d with he
  have hzero : formatExactDecimal d = "0" ↔ e.value = 0 := by
    rw [format_eq_zero_iff, he, value_normalize]
  have htext : (formatExactDecimal d).toList = ['0'] ↔ e.value = 0 := by
    rw [← hzero, ← String.toList_inj]
    rfl
  unfold isCanonicalSigned
  simp only [decide_eq_true_eq, htext]
  refine or_congr_right ?_
  have hlist : (formatExactDecimal d).toList = if e.coefficient < 0 then
      '-' :: pointed e.coefficient.natAbs e.scale else pointed e.coefficient.natAbs e.scale := by
    unfold formatExactDecimal
    rw [String.toList_ofList]
  rw [hlist, ← isCanonicalFromOne_pointed hnormal]
  split_ifs with hneg
  · have hminus : isCanonicalFromOne ('-' :: pointed e.coefficient.natAbs e.scale) = false := by
      have hw : wholePart ('-' :: pointed e.coefficient.natAbs e.scale) =
          '-' :: wholePart (pointed e.coefficient.natAbs e.scale) := rfl
      have hdigit : Char.isDigit '-' = false := by decide
      simp [isCanonicalFromOne, hw, isPositiveNumeral, hdigit]
    rw [hminus]
    simp
  · simp [pointed_ne_minus]

theorem head_of_isCanonicalNonNegative {t : String} (h : isCanonicalNonNegative t.toList = true) :
    t.toList.head? ≠ some '-' := by
  simp only [isCanonicalNonNegative, decide_eq_true_eq] at h
  intro hhead
  obtain ⟨rest, hrest⟩ : ∃ rest, t.toList = '-' :: rest := by
    cases ht : t.toList with
    | nil => rw [ht] at hhead; cases hhead
    | cons c rest => rw [ht] at hhead; exact ⟨rest, by rw [Option.some.inj hhead]⟩
  have hw : wholePart t.toList = '-' :: wholePart rest := by rw [hrest]; rfl
  have hdigit : Char.isDigit '-' = false := by decide
  rw [hw] at h
  simp [isNumeral, isPositiveNumeral, hdigit] at h

theorem routingNumber_of_canonical {t : String} (h : isCanonicalNonNegative t.toList = true) :
    routingNumber t = decimalValue t.toList :=
  if_neg (head_of_isCanonicalNonNegative h)

theorem isPlainDecimal_of_canonical {chars : List Char} (h : isCanonicalNonNegative chars = true) :
    isPlainDecimal chars = true := by
  simp only [isCanonicalNonNegative, isPlainDecimal, decide_eq_true_eq] at h ⊢
  refine ⟨h.1, ?_⟩
  rcases hf : fractionPart chars with _ | fraction
  · rfl
  · have htrim := h.2
    rw [hf] at htrim
    simp only [Option.all_some, isTrimmedDigits, decide_eq_true_eq] at htrim ⊢
    exact htrim.1

theorem decimalValue_nonneg (chars : List Char) : 0 ≤ decimalValue chars := by
  unfold decimalValue
  positivity

/-! ### What the parsers accept -/

variable {value : PositionGuardCandidateDecimal}

theorem parseNonNegative_eq_ok :
    parseCanonicalNonNegativeDecimal value label = .ok d ↔
      ∃ t, value = .text t ∧ isCanonicalNonNegative t.toList = true ∧ d = parseCanonicalDecimal t := by
  unfold parseCanonicalNonNegativeDecimal
  cases value with
  | number q => simp
  | text t =>
    by_cases h : isCanonicalNonNegative t.toList = true
    · simp only [if_pos h, Except.ok.injEq, PositionGuardCandidateDecimal.text.injEq]
      constructor
      · rintro rfl
        exact ⟨t, rfl, h, rfl⟩
      · rintro ⟨t', rfl, -, rfl⟩
        rfl
    · simp only [if_neg h, reduceCtorEq, false_iff, PositionGuardCandidateDecimal.text.injEq]
      rintro ⟨t', rfl, hc, -⟩
      exact h hc

theorem canonicalNonNegative_eq_ok {label text : String} :
    canonicalNonNegativeDecimal value label = .ok text ↔
      ∃ t, value = .text t ∧ isCanonicalNonNegative t.toList = true ∧
        text = formatExactDecimal (parseCanonicalDecimal t) := by
  unfold canonicalNonNegativeDecimal
  simp only [bind_eq_ok, parseNonNegative_eq_ok, Except.ok.injEq]
  constructor
  · rintro ⟨d, ⟨t, ht, hc, rfl⟩, rfl⟩
    exact ⟨t, ht, hc, rfl⟩
  · rintro ⟨t, ht, hc, rfl⟩
    exact ⟨_, ⟨t, ht, hc, rfl⟩, rfl⟩

end AutoTrade.Execution.EvidenceDecimals
