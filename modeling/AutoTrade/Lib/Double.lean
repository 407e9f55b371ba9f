import Mathlib.Algebra.Order.Field.Power
import Mathlib.Data.Int.Log
import Mathlib.Data.Rat.Floor
import Mathlib.Tactic.Linarith
import Mathlib.Tactic.Positivity

/-! # Numbers of double precision

`ofRat q` is the double that the number `q` is read as: its absolute value is rounded to a multiple of
the unit of its last place, of two that are as near to the even one, and there is none where the
result exceeds the largest finite double.

* `lt_magnitude_iff`: the rounded number exceeds a bound, between two neighboring doubles, exactly
  from the midpoint of the two on. The midpoint itself is rounded to the even one.
* `ofRat_eq_some_iff`, `nearest_eq_zero_iff`: where the rounded number is finite, and where it is
  zero. -/

namespace AutoTrade.Lib.Double

/-- The nearest integer, of two that are as near the even one. -/
def roundEven (q : ℚ) : ℤ := if Even ⌊q⌋ then ⌈q - 1 / 2⌉ else ⌊q + 1 / 2⌋

/-- The exponent of the last place of a double of this size. -/
def exponent (q : ℚ) : ℤ := max (-1074) (Int.log 2 q - 52)

/-- A number that is not negative, rounded as if there were no largest double. -/
def magnitude (q : ℚ) : ℚ := roundEven (q / 2 ^ exponent q) * 2 ^ exponent q

/-- `Number.MAX_VALUE`. -/
def maxValue : ℚ := (2 ^ 53 - 1) * 2 ^ 971

/-- The same for any number. -/
def nearest (q : ℚ) : ℚ := if q < 0 then -magnitude |q| else magnitude |q|

/-- The double a number is read as, none where that is not finite. -/
def ofRat (q : ℚ) : Option ℚ := if maxValue < magnitude |q| then none else some (nearest q)

/-! ### Integers -/

theorem le_roundEven_iff (n : ℤ) (q : ℚ) :
    n ≤ roundEven q ↔ if Even n then (n : ℚ) - 1 / 2 ≤ q else (n : ℚ) - 1 / 2 < q := by
  -- at a midpoint the two integers are `n` and the floor `n - 1`
  have htie : q = n - 1 / 2 → ⌊q⌋ = n - 1 := by
    intro heq
    rw [Int.floor_eq_iff]
    push_cast
    constructor <;> linarith
  unfold roundEven
  by_cases hfloor : Even ⌊q⌋
  · have hceil : n ≤ ⌈q - 1 / 2⌉ ↔ (n : ℚ) - 1 / 2 < q := by
      rw [← Int.sub_one_lt_iff, Int.lt_ceil]
      push_cast
      constructor <;> intro h <;> linarith
    rw [if_pos hfloor, hceil]
    split_ifs with hn
    · refine ⟨le_of_lt, fun hle => lt_of_le_of_ne hle fun heq => ?_⟩
      rw [htie heq.symm, Int.even_sub_one] at hfloor
      exact hfloor hn
    · exact Iff.rfl
  · have hle : n ≤ ⌊q + 1 / 2⌋ ↔ (n : ℚ) - 1 / 2 ≤ q := by
      rw [Int.le_floor]
      constructor <;> intro h <;> linarith
    rw [if_neg hfloor, hle]
    split_ifs with hn
    · exact Iff.rfl
    · refine ⟨fun hle => lt_of_le_of_ne hle fun heq => ?_, le_of_lt⟩
      rw [htie heq.symm, Int.even_sub_one, not_not] at hfloor
      exact hn hfloor

/-! ### Doubles -/

variable {q a : ℚ} {n e : ℤ}

theorem neg_le_exponent (q : ℚ) : -1074 ≤ exponent q := le_max_left _ _

theorem lt_two_zpow_exponent (q : ℚ) : q < 2 ^ (exponent q + 53) := by
  refine (Int.lt_zpow_succ_log_self Nat.one_lt_two q).trans_le ?_
  rw [Nat.cast_ofNat]
  refine zpow_le_zpow_right₀ one_le_two ?_
  unfold exponent
  omega

theorem two_zpow_exponent_le (hq : 0 < q) (he : -1074 < exponent q) :
    2 ^ (exponent q + 52) ≤ q := by
  have hlog : exponent q + 52 = Int.log 2 q := by
    unfold exponent at he ⊢
    omega
  rw [hlog]
  exact Int.zpow_log_le_self Nat.one_lt_two hq

theorem magnitude_le (q : ℚ) : magnitude q ≤ 2 ^ (exponent q + 53) := by
  have hpos : (0 : ℚ) < 2 ^ exponent q := by positivity
  have hbound : q / 2 ^ exponent q < 2 ^ 53 := by
    rw [div_lt_iff₀ hpos, ← zpow_natCast, ← zpow_add₀ two_ne_zero, add_comm]
    exact lt_two_zpow_exponent q
  have hround : ¬ (2 ^ 53 + 1 : ℤ) ≤ roundEven (q / 2 ^ exponent q) := by
    rw [le_roundEven_iff, if_neg (by decide)]
    push_cast
    linarith
  have hcast : (roundEven (q / 2 ^ exponent q) : ℚ) ≤ 2 ^ 53 := by
    exact_mod_cast Int.lt_add_one_iff.mp (not_le.mp hround)
  calc magnitude q ≤ 2 ^ 53 * 2 ^ exponent q := mul_le_mul_of_nonneg_right hcast hpos.le
    _ = 2 ^ (exponent q + 53) := by rw [zpow_add₀ two_ne_zero, mul_comm]; norm_num

theorem le_magnitude (hq : 0 < q) (he : -1074 < exponent q) :
    2 ^ (exponent q + 52) ≤ magnitude q := by
  have hpos : (0 : ℚ) < 2 ^ exponent q := by positivity
  have hbound : 2 ^ 52 ≤ q / 2 ^ exponent q := by
    rw [le_div_iff₀ hpos, ← zpow_natCast, ← zpow_add₀ two_ne_zero, add_comm]
    exact two_zpow_exponent_le hq he
  have hround : (2 ^ 52 : ℤ) ≤ roundEven (q / 2 ^ exponent q) := by
    rw [le_roundEven_iff, if_pos (by decide)]
    push_cast
    linarith
  have hcast : (2 ^ 52 : ℚ) ≤ roundEven (q / 2 ^ exponent q) := by exact_mod_cast hround
  calc (2 : ℚ) ^ (exponent q + 52) = 2 ^ 52 * 2 ^ exponent q := by
        rw [zpow_add₀ two_ne_zero, mul_comm]; norm_num
    _ ≤ magnitude q := mul_le_mul_of_nonneg_right hcast hpos.le

theorem magnitude_nonneg (hq : 0 ≤ q) : 0 ≤ magnitude q := by
  have hpos : (0 : ℚ) < 2 ^ exponent q := by positivity
  have hround : 0 ≤ roundEven (q / 2 ^ exponent q) := by
    rw [le_roundEven_iff, if_pos (by decide)]
    have hle := div_nonneg hq hpos.le
    push_cast
    linarith
  exact mul_nonneg (Int.cast_nonneg hround) hpos.le

theorem magnitude_zero : magnitude 0 = 0 := by decide +kernel

/-- **Where rounding exceeds a bound**: `n * 2 ^ e` is a double, and the bound is not below the one
before it. -/
theorem lt_magnitude_iff (hq : 0 ≤ q) (hpos : 0 < n) (hn : n ≤ 2 ^ 53)
    (he : e = -1074 ∨ -1074 ≤ e ∧ 2 ^ 52 < n) (hbelow : (n - 1) * 2 ^ e ≤ a)
    (habove : a < n * 2 ^ e) :
    a < magnitude q ↔ if Even n then (n - 1 / 2) * 2 ^ e ≤ q else (n - 1 / 2) * 2 ^ e < q := by
  have hunit : (0 : ℚ) < 2 ^ e := by positivity
  have hmid : (n - 1 : ℚ) * 2 ^ e < (n - 1 / 2) * 2 ^ e :=
    mul_lt_mul_of_pos_right (by linarith) hunit
  rcases hq.eq_or_lt with rfl | hq
  · have hn1 : (1 : ℚ) ≤ n := by exact_mod_cast hpos
    have ha : 0 ≤ a := le_trans (mul_nonneg (by linarith) hunit.le) hbelow
    have hnot : 0 < (n - 1 / 2 : ℚ) * 2 ^ e := mul_pos (by linarith) hunit
    rw [magnitude_zero]
    split_ifs
    · exact iff_of_false ha.not_gt hnot.not_ge
    · exact iff_of_false ha.not_gt hnot.asymm
  rcases lt_trichotomy (exponent q) e with hlt | heq | hgt
  · -- the number is too small for this exponent, as is what it is rounded to
    have hlarge : (2 ^ 52 : ℚ) ≤ n - 1 := by
      have hlarge : (2 ^ 52 : ℤ) ≤ n - 1 := by have := neg_le_exponent q; omega
      exact_mod_cast hlarge
    have hsmall : (2 : ℚ) ^ (exponent q + 53) ≤ (n - 1) * 2 ^ e := by
      calc (2 : ℚ) ^ (exponent q + 53) ≤ 2 ^ (52 + e) := zpow_le_zpow_right₀ one_le_two (by omega)
        _ = 2 ^ 52 * 2 ^ e := by rw [zpow_add₀ two_ne_zero]; norm_num
        _ ≤ (n - 1) * 2 ^ e := mul_le_mul_of_nonneg_right hlarge hunit.le
    have hround := magnitude_le q
    have hless := lt_two_zpow_exponent q
    split_ifs <;> exact iff_of_false (by linarith) (by linarith)
  · -- both are counted in the same unit
    have hcount : a < magnitude q ↔ n ≤ roundEven (q / 2 ^ e) := by
      unfold magnitude
      rw [heq]
      constructor
      · intro hlt
        have hcast := lt_of_mul_lt_mul_right (hbelow.trans_lt hlt) hunit.le
        have hcast' : ((n - 1 : ℤ) : ℚ) < roundEven (q / 2 ^ e) := by
          push_cast
          exact hcast
        exact Int.sub_one_lt_iff.mp (Int.cast_lt.mp hcast')
      · intro hle
        exact habove.trans_le (mul_le_mul_of_nonneg_right (Int.cast_le.mpr hle) hunit.le)
    rw [hcount, le_roundEven_iff, le_div_iff₀ hunit, lt_div_iff₀ hunit]
  · -- the number is too large for this exponent, as is what it is rounded to
    have hleast : -1074 < exponent q := by omega
    have hlarge : (n : ℚ) * 2 ^ e ≤ 2 ^ (exponent q + 52) := by
      have hn' : (n : ℚ) ≤ 2 ^ 53 := by exact_mod_cast hn
      calc (n : ℚ) * 2 ^ e ≤ 2 ^ 53 * 2 ^ e := mul_le_mul_of_nonneg_right hn' hunit.le
        _ = 2 ^ (53 + e) := by rw [zpow_add₀ two_ne_zero]; norm_num
        _ ≤ 2 ^ (exponent q + 52) := zpow_le_zpow_right₀ one_le_two (by omega)
    have hround := le_magnitude hq hleast
    have hmore := two_zpow_exponent_le hq hleast
    have hhalf : (n - 1 / 2 : ℚ) * 2 ^ e < n * 2 ^ e :=
      mul_lt_mul_of_pos_right (by linarith) hunit
    split_ifs <;> exact iff_of_true (by linarith) (by linarith)

theorem magnitude_pos_iff (hq : 0 ≤ q) : 0 < magnitude q ↔ 1 / 2 ^ 1075 < q := by
  have hhalf : (1 / 2 ^ 1075 : ℚ) = (((1 : ℤ) : ℚ) - 1 / 2) * 2 ^ (-1074 : ℤ) := by
    rw [zpow_neg, zpow_ofNat, pow_succ, one_div, mul_inv, mul_comm]
    congr 1
    norm_num
  rw [lt_magnitude_iff hq one_pos (by norm_num) (Or.inl rfl) (by simp) (by simp),
    if_neg Int.not_even_one, hhalf]

theorem nearest_of_nonneg (hq : 0 ≤ q) : nearest q = magnitude q := by
  unfold nearest
  rw [if_neg hq.not_gt, abs_of_nonneg hq]

theorem nearest_eq_zero_iff : nearest q = 0 ↔ |q| ≤ 1 / 2 ^ 1075 := by
  rw [← not_lt, ← magnitude_pos_iff (abs_nonneg q), (magnitude_nonneg (abs_nonneg q)).lt_iff_ne',
    not_not]
  unfold nearest
  split_ifs <;> simp

theorem ofRat_eq_some_iff {r : ℚ} :
    ofRat q = some r ↔ |q| < 2 ^ 1024 - 2 ^ 970 ∧ nearest q = r := by
  have hhalf : (2 ^ 1024 - 2 ^ 970 : ℚ) = (((2 ^ 53 : ℤ) : ℚ) - 1 / 2) * 2 ^ (971 : ℤ) := by
    rw [show (1024 : ℕ) = 54 + 970 from rfl, pow_add, ← sub_one_mul, zpow_ofNat, pow_succ' 2 970,
      ← mul_assoc]
    congr 1
    norm_num
  have hmax : maxValue = (((2 ^ 53 : ℤ) : ℚ) - 1) * 2 ^ (971 : ℤ) := by
    unfold maxValue
    rw [zpow_ofNat]
    congr 1
  have hover : maxValue < magnitude |q| ↔ 2 ^ 1024 - 2 ^ 970 ≤ |q| := by
    rw [lt_magnitude_iff (abs_nonneg q) (by norm_num) le_rfl (Or.inr ⟨by norm_num, by norm_num⟩)
      hmax.ge ?_, if_pos (by decide), hhalf]
    rw [hmax]
    exact mul_lt_mul_of_pos_right (by linarith) (by positivity)
  rw [lt_iff_not_ge, ← hover]
  unfold ofRat
  by_cases h : maxValue < magnitude |q|
  · simp [h]
  · simp [h]

end AutoTrade.Lib.Double
