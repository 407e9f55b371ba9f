import AutoTrade.Execution.PartialSells

/-! # The laws of the exact decimals

Addition, subtraction, multiplication and comparison are those of the rational numbers, and a text
stands for one number (`exact_decimals_are_rationals`). The division drops the sign of a divisor
below zero: the last denominator may be minus one, and the numerator keeps its sign. So it is exact
for the divisors above zero, and elsewhere only where the sign does not show (`divides_exactly_iff`). -/

namespace AutoTrade.Execution.ExactArithmetic

open Execution.EvidenceDecimals Execution.OrderDecimals
open Execution.PartialSells Strategy.CandidateState

variable {l r : ExactDecimal} {label : String}

/-! ### Division -/

/-- **The division is exact**: it returns the quotient if that has a decimal representation that ends,
and throws if it has none. -/
structure DividesExactly (l r : ExactDecimal) (label : String) : Prop where
  returns : IsTerminating (l.value / r.value) →
    ∃ q, divideExactDecimals l r label = .ok q ∧ q.value * r.value = l.value
  throws : ¬ IsTerminating (l.value / r.value) →
    ∃ message, divideExactDecimals l r label = .error message

theorem value_ne_zero (h : r.coefficient ≠ 0) : r.value ≠ 0 :=
  div_ne_zero (by exact_mod_cast h) (by positivity)

theorem value_eq_zero_iff (d : ExactDecimal) : d.value = 0 ↔ d.coefficient = 0 := by
  constructor
  · intro hzero
    by_contra hne
    exact value_ne_zero hne hzero
  · intro hzero
    unfold ExactDecimal.value
    rw [hzero, Int.cast_zero, zero_div]

theorem divide_throws (h : r.coefficient ≠ 0) (hnot : ¬ IsTerminating (l.value / r.value)) :
    ∃ message, divideExactDecimals l r label = .error message := by
  rcases hresult : divideExactDecimals l r label with message | q
  · exact ⟨message, rfl⟩
  · exact absurd ((divide_isOk_iff h).mp ⟨q, hresult⟩) hnot

theorem quotient_mul_iff {q : ExactDecimal} (h : r.coefficient ≠ 0)
    (hresult : divideExactDecimals l r label = .ok q) :
    q.value * r.value = l.value ↔ 0 < r.coefficient ∨ l.coefficient = 0 := by
  have hr := value_ne_zero h
  rw [value_divide hresult, ← value_eq_zero_iff l]
  rcases lt_or_gt_of_ne h with hneg | hpos
  · have hvalue : r.value < 0 := div_neg_of_neg_of_pos (by exact_mod_cast hneg) (by positivity)
    have hflip : l.value / |r.value| * r.value = -l.value := by
      rw [abs_of_neg hvalue, div_neg, neg_mul, div_mul_cancel₀ _ hr]
    rw [hflip, neg_eq_self]
    exact ⟨Or.inr, fun hor => hor.resolve_left hneg.asymm⟩
  · have hvalue : 0 < r.value := div_pos (by exact_mod_cast hpos) (by positivity)
    rw [abs_of_pos hvalue, div_mul_cancel₀ _ hr]
    exact ⟨fun _ => Or.inl hpos, fun _ => rfl⟩

/-- **When the division is exact**: the divisor is above zero, or the dividend is zero, or the quotient
has no decimal representation that ends. -/
theorem divides_exactly_iff (h : r.coefficient ≠ 0) :
    DividesExactly l r label ↔
      0 < r.coefficient ∨ l.coefficient = 0 ∨ ¬ IsTerminating (l.value / r.value) := by
  constructor
  · intro hexact
    by_cases hends : IsTerminating (l.value / r.value)
    · obtain ⟨q, hresult, hquotient⟩ := hexact.returns hends
      exact ((quotient_mul_iff h hresult).mp hquotient).imp_right Or.inl
    · exact Or.inr (Or.inr hends)
  · intro hcondition
    refine ⟨fun hends => ?_, divide_throws h⟩
    obtain ⟨q, hresult⟩ := (divide_isOk_iff h).mpr hends
    refine ⟨q, hresult, (quotient_mul_iff h hresult).mpr ?_⟩
    exact hcondition.imp_right fun hor => hor.resolve_right (not_not.mpr hends)

theorem divides_exactly_by_four : (⟨4, 0⟩ : ExactDecimal).coefficient ≠ 0 ∧
    DividesExactly ⟨1, 0⟩ ⟨4, 0⟩ "share" :=
  ⟨by decide, (divides_exactly_iff (by decide)).mpr (Or.inl (by decide))⟩

/-- One divided by minus two is one half. -/
theorem divides_by_minus_two_wrongly : divideExactDecimals ⟨1, 0⟩ ⟨-2, 0⟩ "share" = .ok ⟨5, 1⟩ ∧
    ¬ DividesExactly ⟨1, 0⟩ ⟨-2, 0⟩ "share" := by
  have hresult : divideExactDecimals ⟨1, 0⟩ ⟨-2, 0⟩ "share" = .ok ⟨5, 1⟩ := by decide
  refine ⟨hresult, fun hexact => ?_⟩
  obtain ⟨q, hq, hquotient⟩ := hexact.returns ((divide_isOk_iff (by decide)).mp ⟨_, hresult⟩)
  obtain rfl := Except.ok.inj (hresult.symm.trans hq)
  norm_num [ExactDecimal.value] at hquotient

/-! ### Arithmetic, order and texts -/

theorem parse_format {d : ExactDecimal} (h : 0 ≤ d.value) (label : String) :
    ∃ e, parseCanonicalNonNegativeDecimal (.text (formatExactDecimal d)) label = .ok e ∧
      e.value = d.value :=
  ⟨_, parseNonNegative_eq_ok.mpr ⟨_, rfl, isCanonicalNonNegative_format h, rfl⟩,
    parse_format_value d⟩

theorem eq_format_of_parse {d e : ExactDecimal} {value : PositionGuardCandidateDecimal}
    (hread : parseCanonicalNonNegativeDecimal value label = .ok e) (hvalue : e.value = d.value) :
    value = .text (formatExactDecimal d) := by
  obtain ⟨t, rfl, hcanonical, rfl⟩ := parseNonNegative_eq_ok.mp hread
  rw [← (format_eq_iff _ _).mpr hvalue, format_parse hcanonical]

/-- **Exact decimals are rational numbers with canonical texts.** -/
theorem exact_decimals_are_rationals (a b : ExactDecimal) :
    (addExactDecimals a b).value = a.value + b.value ∧
      (subtractExactDecimals a b).value = a.value - b.value ∧
      (multiplyExactDecimals a b).value = a.value * b.value ∧
      ((compareExactDecimals a b = -1 ↔ a.value < b.value) ∧
        (compareExactDecimals a b = 0 ↔ a.value = b.value) ∧
        (compareExactDecimals a b = 1 ↔ b.value < a.value)) ∧
      (formatExactDecimal a = formatExactDecimal b ↔ a.value = b.value) ∧
      (0 ≤ a.value → ∀ label,
        (∃ e, parseCanonicalNonNegativeDecimal (.text (formatExactDecimal a)) label = .ok e ∧
          e.value = a.value) ∧
        ∀ value e, parseCanonicalNonNegativeDecimal value label = .ok e → e.value = a.value →
          value = .text (formatExactDecimal a)) :=
  ⟨value_add a b, value_subtract a b, value_multiply a b, compare_eq_iff a b, format_eq_iff a b,
    fun h label => ⟨parse_format h label, fun _ _ => eq_format_of_parse⟩⟩

end AutoTrade.Execution.ExactArithmetic
