import AutoTrade.Lib.Decimal
import Mathlib.Algebra.Order.Field.Power
import Mathlib.Data.List.DropRight
import Mathlib.Data.Rat.Floor
import Mathlib.Tactic.Linarith
import Mathlib.Tactic.Positivity

/-! # Numbers as ECMAScript writes them

A positive number in the form in which `Number::toString` takes it apart, a significand without a
zero at its end times a power of ten, and the texts that `String(x)` and `x.toFixed(f)` give.

* `numberText_of_plain`: from `10 ^ (-6)` up to below `10 ^ 21` the text is the plain decimal.
* `e_mem_numberText`: outside of this range it has an exponent. -/

namespace AutoTrade.Lib.NumberText

open Lib.Decimal

/-- A positive number: `significand * 10 ^ exponent`. -/
structure PositiveNumber where
  significand : ℕ
  exponent : ℤ
  trimmed : significand % 10 ≠ 0

namespace PositiveNumber

variable (x : PositiveNumber)

def value : ℚ := x.significand * 10 ^ x.exponent

/-- The digits of the significand: `s` of the specification, and `k` its length. -/
def digits : List Char := Nat.toDigits 10 x.significand

/-- `n` of the specification: the place of the point, counted from the first digit. -/
def magnitude : ℤ := x.digits.length + x.exponent

/-- `Number.isInteger(x)`. -/
def isInteger : Bool := x.value.den = 1

/-- The first digit, and the others after a point. -/
def mantissa : List Char → List Char
  | [] => []
  | [digit] => [digit]
  | digit :: rest => digit :: '.' :: rest

/-- The form with an exponent. -/
def exponentText : List Char :=
  mantissa x.digits ++ 'e' :: (if 0 < x.magnitude - 1 then '+' else '-') ::
    Nat.toDigits 10 (x.magnitude - 1).natAbs

/-- `String(x)`. -/
def numberText : List Char :=
  if x.digits.length ≤ x.magnitude ∧ x.magnitude ≤ 21 then
    x.digits ++ List.replicate (x.magnitude - x.digits.length).toNat '0'
  else if 0 < x.magnitude ∧ x.magnitude ≤ 21 then
    x.digits.take x.magnitude.toNat ++ '.' :: x.digits.drop x.magnitude.toNat
  else if -6 < x.magnitude ∧ x.magnitude ≤ 0 then
    '0' :: '.' :: (List.replicate (-x.magnitude).toNat '0' ++ x.digits)
  else x.exponentText

/-- The integer nearest to `x * 10 ^ places`, the larger one of two. -/
def rounded (places : ℕ) : ℕ := ⌊x.value * 10 ^ places + 1 / 2⌋₊

/-- `x.toFixed(places)`. -/
def toFixed (places : ℕ) : List Char :=
  if x.value < 10 ^ 21 then pointed (x.rounded places) places else x.numberText

/-- The range in which the text has no exponent. -/
def Plain : Prop := 10 ^ (-6 : ℤ) ≤ x.value ∧ x.value < 10 ^ 21

instance : Decidable x.Plain := inferInstanceAs (Decidable (_ ∧ _))

end PositiveNumber

/-- `text.replace(/0+$/u, "")`. -/
def stripZeros (chars : List Char) : List Char := chars.rdropWhile (· = '0')

/-- `text.replace(/\.$/u, "")`. -/
def stripPoint (chars : List Char) : List Char :=
  if chars.getLast? = some '.' then chars.dropLast else chars

/-- `fraction.length > 0 ? whole.fraction : whole`. -/
def joinPoint (whole fraction : List Char) : List Char :=
  if fraction = [] then whole else whole ++ '.' :: fraction

/-! ### The range without an exponent -/

namespace PositiveNumber

variable (x : PositiveNumber)

theorem significand_pos : 0 < x.significand := by
  have := x.trimmed
  omega

theorem length_digits_pos : 0 < x.digits.length := Nat.length_toDigits_pos

theorem significand_lt : x.significand < 10 ^ x.digits.length :=
  (Nat.length_toDigits_le_iff (by decide) x.length_digits_pos).mp le_rfl

theorem le_significand : 10 ^ (x.digits.length - 1) ≤ x.significand := by
  have hpos := x.length_digits_pos
  rcases Nat.eq_zero_or_pos (x.digits.length - 1) with h | h
  · rw [h, pow_zero]
    exact x.significand_pos
  · by_contra hlt
    have := (Nat.length_toDigits_le_iff (b := 10) (by decide) h).mpr (not_le.mp hlt)
    change x.digits.length ≤ x.digits.length - 1 at this
    omega

theorem value_pos : 0 < x.value := by
  have := x.significand_pos
  unfold value
  positivity

theorem value_lt_magnitude : x.value < 10 ^ x.magnitude := by
  have h : (x.significand : ℚ) < 10 ^ x.digits.length := by exact_mod_cast x.significand_lt
  unfold value magnitude
  rw [zpow_add₀ (by norm_num), zpow_natCast]
  exact mul_lt_mul_of_pos_right h (by positivity)

theorem magnitude_le_value : 10 ^ (x.magnitude - 1) ≤ x.value := by
  have hpos := x.length_digits_pos
  have h : (10 : ℚ) ^ (x.digits.length - 1) ≤ x.significand := by exact_mod_cast x.le_significand
  unfold value magnitude
  rw [show (x.digits.length : ℤ) + x.exponent - 1 = ((x.digits.length - 1 : ℕ) : ℤ) + x.exponent by
    omega, zpow_add₀ (by norm_num), zpow_natCast]
  exact mul_le_mul_of_nonneg_right h (by positivity)

theorem value_lt_iff (m : ℤ) : x.value < 10 ^ m ↔ x.magnitude ≤ m := by
  constructor
  · intro h
    have := lt_of_le_of_lt x.magnitude_le_value h
    rw [zpow_lt_zpow_iff_right₀ (by norm_num)] at this
    omega
  · intro h
    exact lt_of_lt_of_le x.value_lt_magnitude (zpow_le_zpow_right₀ (by norm_num) h)

theorem plain_iff : x.Plain ↔ -6 < x.magnitude ∧ x.magnitude ≤ 21 := by
  unfold Plain
  rw [← not_lt, value_lt_iff, not_le, show (10 : ℚ) ^ 21 = 10 ^ (21 : ℤ) by norm_cast, value_lt_iff]

/-- The number as a natural number over a power of ten. -/
def plainCoefficient : ℕ := x.significand * 10 ^ x.exponent.toNat

def plainScale : ℕ := (-x.exponent).toNat

theorem value_eq_plain : x.value = x.plainCoefficient / 10 ^ x.plainScale := by
  unfold value plainCoefficient plainScale
  rcases le_total 0 x.exponent with h | h
  · rw [show (-x.exponent).toNat = 0 by omega, pow_zero, div_one]
    push_cast
    rw [← zpow_natCast, Int.toNat_of_nonneg h]
  · rw [show x.exponent.toNat = 0 by omega, pow_zero, mul_one, ← zpow_natCast,
      Int.toNat_of_nonneg (by omega), zpow_neg, div_inv_eq_mul]

theorem plain_trimmed : x.plainScale = 0 ∨ x.plainCoefficient % 10 ≠ 0 := by
  unfold plainScale plainCoefficient
  rcases le_or_gt 0 x.exponent with h | h
  · exact Or.inl (by omega)
  · right
    rw [show x.exponent.toNat = 0 by omega, pow_zero, mul_one]
    exact x.trimmed

end PositiveNumber

theorem toDigits_mul_pow {n : ℕ} (h : 0 < n) (zeros : ℕ) :
    Nat.toDigits 10 (n * 10 ^ zeros) = Nat.toDigits 10 n ++ List.replicate zeros '0' := by
  induction zeros with
  | zero => simp
  | succ zeros ih =>
    have hpos : 0 < n * 10 ^ zeros := by positivity
    have happend := Nat.toDigits_append_toDigits (b := 10) (d := 0) (by decide) hpos (by decide)
    rw [Nat.add_zero, ih, Nat.toDigits_zero, List.append_assoc, ← List.replicate_succ'] at happend
    rw [happend, pow_succ]
    congr 1
    ring

theorem pointed_of_short {n scale : ℕ} (h : (Nat.toDigits 10 n).length ≤ scale) :
    pointed n scale = '0' :: '.' ::
      (List.replicate (scale - (Nat.toDigits 10 n).length) '0' ++ Nat.toDigits 10 n) := by
  have hpos : 0 < (Nat.toDigits 10 n).length := Nat.length_toDigits_pos
  have hpadded : paddedDigits n scale =
      '0' :: (List.replicate (scale - (Nat.toDigits 10 n).length) '0' ++ Nat.toDigits 10 n) := by
    unfold paddedDigits List.leftpad
    rw [show scale + 1 - (Nat.toDigits 10 n).length =
      (scale - (Nat.toDigits 10 n).length) + 1 by omega, List.replicate_succ, List.cons_append]
  have hlength : (paddedDigits n scale).length - scale = 1 := by
    rw [hpadded, List.length_cons, List.length_append, List.length_replicate]
    omega
  unfold pointed
  rw [if_neg (by omega)]
  dsimp only
  rw [hlength, hpadded]
  rfl

theorem pointed_of_long {n scale : ℕ} (hpos : 0 < scale) (h : scale < (Nat.toDigits 10 n).length) :
    pointed n scale = (Nat.toDigits 10 n).take ((Nat.toDigits 10 n).length - scale) ++
      '.' :: (Nat.toDigits 10 n).drop ((Nat.toDigits 10 n).length - scale) := by
  have hpadded : paddedDigits n scale = Nat.toDigits 10 n := by
    unfold paddedDigits List.leftpad
    rw [show scale + 1 - (Nat.toDigits 10 n).length = 0 by omega, List.replicate_zero,
      List.nil_append]
  unfold pointed
  rw [if_neg (by omega)]
  dsimp only
  rw [hpadded]

variable {x : PositiveNumber}

/-- **Between `10 ^ (-6)` and `10 ^ 21` a number is written as a plain decimal.** -/
theorem PositiveNumber.numberText_of_plain (h : x.Plain) :
    x.numberText = pointed x.plainCoefficient x.plainScale := by
  obtain ⟨hlow, hhigh⟩ := x.plain_iff.mp h
  have hpos := x.length_digits_pos
  have hdigits : x.digits = Nat.toDigits 10 x.significand := rfl
  unfold numberText
  by_cases hwhole : (x.digits.length : ℤ) ≤ x.magnitude ∧ x.magnitude ≤ 21
  · rw [if_pos hwhole]
    have hexp : 0 ≤ x.exponent := by
      unfold magnitude at hwhole
      omega
    have hscale : x.plainScale = 0 := by
      unfold plainScale
      omega
    rw [hscale, pointed_zero, plainCoefficient, toDigits_mul_pow x.significand_pos, ← hdigits]
    congr 2
    unfold magnitude
    omega
  · rw [if_neg hwhole]
    -- the point stands before the last digit: the exponent is negative
    have hexp : x.exponent < 0 := by
      unfold magnitude at hwhole hhigh
      omega
    have hscale : (x.plainScale : ℤ) = x.digits.length - x.magnitude := by
      unfold plainScale magnitude
      omega
    have hcoefficient : x.plainCoefficient = x.significand := by
      unfold plainCoefficient
      rw [show x.exponent.toNat = 0 by omega, pow_zero, mul_one]
    rw [hcoefficient]
    by_cases hpoint : 0 < x.magnitude ∧ x.magnitude ≤ 21
    · rw [if_pos hpoint, pointed_of_long (by omega) (by rw [← hdigits]; omega), ← hdigits]
      have : x.digits.length - x.plainScale = x.magnitude.toNat := by omega
      rw [this]
    · rw [if_neg hpoint, if_pos ⟨hlow, by omega⟩, pointed_of_short (by rw [← hdigits]; omega),
        ← hdigits]
      have : x.plainScale - x.digits.length = (-x.magnitude).toNat := by omega
      rw [this]

/-- **Outside of it, with an exponent.** -/
theorem PositiveNumber.e_mem_numberText (h : ¬ x.Plain) : 'e' ∈ x.numberText := by
  rw [plain_iff] at h
  have hpos := x.length_digits_pos
  unfold numberText
  rw [if_neg (by omega), if_neg (by omega), if_neg (by omega)]
  simp [exponentText]

/-! ### Trailing zeros -/

theorem stripZeros_append (chars : List Char) :
    ∃ zeros, chars = stripZeros chars ++ List.replicate zeros '0' := by
  refine ⟨(chars.rtakeWhile (· = '0')).length, ?_⟩
  have hzeros : chars.rtakeWhile (· = '0') =
      List.replicate (chars.rtakeWhile (· = '0')).length '0' := by
    rw [List.eq_replicate_iff]
    exact ⟨rfl, fun c hc => by simpa using List.mem_rtakeWhile_imp hc⟩
  rw [← hzeros]
  exact (List.rdropWhile_append_rtakeWhile ..).symm

theorem stripZeros_of_append {kept : List Char} (h : kept.getLast? ≠ some '0') (zeros : ℕ) :
    stripZeros (kept ++ List.replicate zeros '0') = kept := by
  unfold stripZeros
  induction zeros with
  | zero =>
    rw [List.replicate_zero, List.append_nil, List.rdropWhile_eq_self_iff]
    intro hne hlast
    exact h (by rw [List.getLast?_eq_some_getLast hne]; simpa using hlast)
  | succ zeros ih =>
    rw [List.replicate_succ', ← List.append_assoc, List.rdropWhile_concat_pos _ _ _ (by decide), ih]

theorem getLast_stripZeros (chars : List Char) : (stripZeros chars).getLast? ≠ some '0' := by
  intro hlast
  have hne : stripZeros chars ≠ [] := by
    intro hnil
    rw [hnil] at hlast
    cases hlast
  have hnot := List.rdropWhile_last_not (fun c : Char => decide (c = '0')) chars hne
  rw [List.getLast?_eq_some_getLast hne, Option.some.injEq] at hlast
  exact hnot (decide_eq_true hlast)

theorem all_stripZeros {chars : List Char} (h : chars.all Char.isDigit = true) :
    (stripZeros chars).all Char.isDigit = true := by
  obtain ⟨zeros, hsplit⟩ := stripZeros_append chars
  rw [hsplit, List.all_append, Bool.and_eq_true] at h
  exact h.1

variable {whole fraction : List Char}

/-- Stripping the zeros, then the point, of a text with a point. -/
theorem stripPoint_stripZeros (hfraction : fraction.all Char.isDigit = true) :
    stripPoint (stripZeros (whole ++ '.' :: fraction)) = joinPoint whole (stripZeros fraction) := by
  obtain ⟨zeros, hsplit⟩ := stripZeros_append fraction
  have hlast : (whole ++ '.' :: stripZeros fraction).getLast? =
      if stripZeros fraction = [] then some '.' else (stripZeros fraction).getLast? := by
    rw [List.getLast?_append_of_ne_nil _ (by simp)]
    rcases stripZeros fraction with _ | ⟨c, rest⟩
    · rfl
    · rw [List.getLast?_cons_cons, if_neg (by simp)]
  have hkept : stripZeros (whole ++ '.' :: fraction) = whole ++ '.' :: stripZeros fraction := by
    conv_lhs => rw [hsplit, ← List.cons_append, ← List.append_assoc]
    refine stripZeros_of_append ?_ zeros
    rw [hlast]
    split_ifs
    · simp
    · exact getLast_stripZeros fraction
  rw [hkept, stripPoint, joinPoint, hlast]
  by_cases hnil : stripZeros fraction = []
  · rw [if_pos hnil, if_pos rfl, if_pos hnil, hnil, List.dropLast_concat]
  · rw [if_neg hnil, if_neg hnil, if_neg]
    intro hpoint
    have hmem := List.mem_of_getLast? hpoint
    have := List.all_eq_true.mp (all_stripZeros hfraction) _ hmem
    exact absurd this (by decide)

/-! ### Joined texts -/

section

variable (hwhole : whole.all Char.isDigit = true)
include hwhole

theorem wholePart_joinPoint : wholePart (joinPoint whole fraction) = whole := by
  unfold joinPoint
  split_ifs
  · exact wholePart_of_all hwhole
  · exact wholePart_append hwhole

theorem fractionPart_joinPoint :
    fractionPart (joinPoint whole fraction) = if fraction = [] then none else some fraction := by
  unfold joinPoint
  split_ifs
  · exact fractionPart_of_all hwhole
  · exact fractionPart_append hwhole

theorem decimalValue_joinPoint :
    decimalValue (joinPoint whole fraction) =
      (Nat.ofDigitChars 10 (whole ++ fraction) 0 : ℚ) / 10 ^ fraction.length := by
  have hgetD : (fractionPart (joinPoint whole fraction)).getD [] = fraction := by
    rw [fractionPart_joinPoint hwhole]
    split_ifs with h
    · exact h.symm
    · rfl
  unfold decimalValue
  rw [hgetD, wholePart_joinPoint hwhole]

theorem decimalValue_joinPoint_stripZeros :
    decimalValue (joinPoint whole (stripZeros fraction)) =
      (Nat.ofDigitChars 10 (whole ++ fraction) 0 : ℚ) / 10 ^ fraction.length := by
  obtain ⟨zeros, hsplit⟩ := stripZeros_append fraction
  have hvalue : Nat.ofDigitChars 10 (whole ++ fraction) 0 =
      10 ^ zeros * Nat.ofDigitChars 10 (whole ++ stripZeros fraction) 0 := by
    conv_lhs => rw [hsplit, ← List.append_assoc, Nat.ofDigitChars_append,
      Nat.ofDigitChars_replicate_zero]
  have hlength : fraction.length = zeros + (stripZeros fraction).length := by
    conv_lhs => rw [hsplit, List.length_append, List.length_replicate]
    omega
  rw [decimalValue_joinPoint hwhole, hvalue, hlength, pow_add]
  push_cast
  field_simp

theorem trimmed_joinPoint_stripZeros (hfraction : fraction.all Char.isDigit = true) :
    (fractionPart (joinPoint whole (stripZeros fraction))).all isTrimmedDigits = true := by
  rw [fractionPart_joinPoint hwhole]
  split_ifs with h
  · rfl
  · simp only [Option.all_some, isTrimmedDigits, isDigits, decide_eq_true_eq]
    exact ⟨⟨h, all_stripZeros hfraction⟩, getLast_stripZeros fraction⟩

end

theorem all_of_isNumeral {chars : List Char} (h : isNumeral chars = true) :
    chars.all Char.isDigit = true := by
  simp only [isNumeral, isPositiveNumeral, decide_eq_true_eq] at h
  rcases h with rfl | ⟨-, -, h⟩
  · decide
  · exact h

theorem isNumeral_wholePart_pointed (n scale : ℕ) :
    isNumeral (wholePart (pointed n scale)) = true := by
  unfold isNumeral
  rcases wholePart_pointed n scale with ⟨-, hw⟩ | ⟨-, hw⟩ <;> simp [hw]

end AutoTrade.Lib.NumberText
