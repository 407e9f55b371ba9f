import AutoTrade.Execution.DecimalValues
import AutoTrade.Lib.NumberText

/-! # The decimals of an order

The three ways in which the runner turns a number into the text of an order or of a decision:
`String(x)`, `formatDecimal` of `position-guard-runner.ts` and `serializeUpbitOrderDecimal` of
`order-decimals.ts`. All of them are compared with the canonical decimals of the candidate.

* `canonical_jsText`: `String(x)` is canonical exactly when it has no exponent.
* `formatDecimal_eq_jsText`: `formatDecimal` agrees with it on at most twelve decimals.
* `serialize_of_plain`: the quote of a buy is canonical whenever it is written at all. -/

namespace AutoTrade.Execution.OrderDecimals

open Lib.Decimal Lib.NumberText Lib.NumberText.PositiveNumber
open Strategy.CandidateState Execution.EvidenceDecimals

/-! ### The serializers -/

/-- `text.replace(/^0+(?=\d)/u, "")`. -/
def stripLeadingZeros : List Char → List Char
  | '0' :: digit :: rest =>
    if digit.isDigit then stripLeadingZeros (digit :: rest) else '0' :: digit :: rest
  | chars => chars

/-- `^\d+(?:\.\d+)?$`. -/
def isDecimalText (chars : List Char) : Bool :=
  isDigits (wholePart chars) ∧ (fractionPart chars).all isDigits

def canonicalizeUpbitOrderDecimal (value label : String) : Except String String :=
  if isDecimalText value.toList then
    .ok (String.ofList (joinPoint (stripLeadingZeros (wholePart value.toList))
      (stripZeros (((fractionPart value.toList).getD []).take 8))))
  else .error (label ++ " must be a non-negative decimal string.")

/-- `String(x)`. -/
def jsText (x : PositiveNumber) : String := String.ofList x.numberText

def serializeUpbitOrderDecimal (x : PositiveNumber) (label : String) : Except String String :=
  canonicalizeUpbitOrderDecimal (jsText x) label

def formatDecimal (x : PositiveNumber) : String :=
  if x.isInteger then jsText x
  else String.ofList (stripPoint (stripZeros (x.toFixed 12)))

def formatUpbitMarketBuyQuote (x : PositiveNumber) : Except String String :=
  serializeUpbitOrderDecimal x "Upbit market-buy quote"

/-! ### Canonical texts -/

/-- A canonical decimal that is not zero. -/
def IsCanonicalPositive (t : String) : Prop := isCanonicalNonNegative t.toList = true ∧ t ≠ "0"

theorem natCast_value (n scale : ℕ) : (⟨n, scale⟩ : ExactDecimal).value = n / 10 ^ scale := by
  simp [ExactDecimal.value]

theorem format_of_trimmed {n scale : ℕ} (h : scale = 0 ∨ n % 10 ≠ 0) :
    formatExactDecimal ⟨n, scale⟩ = String.ofList (pointed n scale) := by
  have hnormal : normalizeExactDecimal ⟨n, scale⟩ = ⟨n, scale⟩ := by
    have hnormal : Normalized ⟨n, scale⟩ := h.imp_right fun hmod => by
      change (n : ℤ) % 10 ≠ 0
      omega
    exact (normalized_normalize _).ext hnormal (value_normalize _)
  have hsign : ¬ (n : ℤ) < 0 := by omega
  unfold formatExactDecimal
  simp only [hnormal, if_neg hsign, Int.natAbs_natCast]

/-- **A canonical text is written back as it was.** -/
theorem format_parse {t : String} (h : isCanonicalNonNegative t.toList = true) :
    formatExactDecimal (parseCanonicalDecimal t) = t := by
  have hplain := isPlainDecimal_of_canonical h
  set n := Nat.ofDigitChars 10 (wholePart t.toList ++ (fractionPart t.toList).getD []) 0 with hn
  set scale := ((fractionPart t.toList).getD []).length with hscale
  have htext : pointed n scale = t.toList := pointed_ofDigitChars hplain
  have hvalue : (parseCanonicalDecimal t).value = (⟨n, scale⟩ : ExactDecimal).value := by
    rw [value_parse, routingNumber_of_canonical h, natCast_value]
    rfl
  have htrimmed : scale = 0 ∨ n % 10 ≠ 0 := by
    simp only [isCanonicalNonNegative, decide_eq_true_eq] at h
    rw [← trimmed_pointed, htext]
    exact h.2
  rw [(format_eq_iff _ _).mpr hvalue, format_of_trimmed htrimmed, htext, String.ofList_toList]

theorem canonicalNonNegative_self {t label : String} :
    canonicalNonNegativeDecimal (.text t) label = .ok t ↔ isCanonicalNonNegative t.toList = true := by
  rw [canonicalNonNegative_eq_ok]
  constructor
  · rintro ⟨t', ht, hc, -⟩
    rw [PositionGuardCandidateDecimal.text.injEq] at ht
    rw [ht]
    exact hc
  · intro h
    exact ⟨t, rfl, h, (format_parse h).symm⟩

/-! ### `String(x)` -/

theorem value_plain (x : PositiveNumber) :
    (⟨x.plainCoefficient, x.plainScale⟩ : ExactDecimal).value = x.value := by
  rw [natCast_value, x.value_eq_plain]

variable {x : PositiveNumber}

theorem jsText_of_plain (h : x.Plain) :
    jsText x = formatExactDecimal ⟨x.plainCoefficient, x.plainScale⟩ := by
  rw [format_of_trimmed x.plain_trimmed, jsText, numberText_of_plain h]

variable {chars : List Char}

theorem isDecimalText_of_canonical (h : isCanonicalNonNegative chars = true) :
    isDecimalText chars = true := by
  have hplain := isPlainDecimal_of_canonical h
  simp only [isPlainDecimal, decide_eq_true_eq] at hplain
  simp only [isDecimalText, decide_eq_true_eq]
  refine ⟨?_, hplain.2⟩
  simp only [isDigits, decide_eq_true_eq]
  refine ⟨?_, all_of_isNumeral hplain.1⟩
  intro hnil
  rw [hnil] at hplain
  exact absurd hplain.1 (by decide)

theorem not_isDecimalText_of_e (h : 'e' ∈ chars) : ¬ isDecimalText chars = true := by
  intro hdecimal
  simp only [isDecimalText, isDigits, decide_eq_true_eq] at hdecimal
  have hdigit : ¬ Char.isDigit 'e' = true := by decide
  rw [wholePart_append_fractionPart chars] at h
  rcases hf : fractionPart chars with _ | fraction
  · rw [hf] at h
    exact hdigit (List.all_eq_true.mp hdecimal.1.2 _ h)
  · rw [hf] at h hdecimal
    simp only [Option.all_some, isDigits, decide_eq_true_eq] at hdecimal
    rcases List.mem_append.mp h with h | h
    · exact hdigit (List.all_eq_true.mp hdecimal.1.2 _ h)
    · rcases List.mem_cons.mp h with h | h
      · exact absurd h (by decide)
      · exact hdigit (List.all_eq_true.mp hdecimal.2.2 _ h)

theorem isDecimalText_jsText (x : PositiveNumber) :
    isDecimalText (jsText x).toList = true → x.Plain := by
  intro hdecimal
  by_contra hplain
  refine not_isDecimalText_of_e ?_ hdecimal
  rw [jsText, String.toList_ofList]
  exact e_mem_numberText hplain

theorem format_ne_zero {d : ExactDecimal} (h : d.value ≠ 0) : formatExactDecimal d ≠ "0" :=
  mt (format_eq_zero_iff d).mp h

/-- **`String(x)` is canonical exactly when it has no exponent.** -/
theorem canonical_jsText (x : PositiveNumber) :
    isCanonicalNonNegative (jsText x).toList = true ↔ x.Plain := by
  constructor
  · intro hc
    exact isDecimalText_jsText x (isDecimalText_of_canonical hc)
  · intro hplain
    rw [jsText_of_plain hplain]
    exact isCanonicalNonNegative_format (by rw [value_plain]; exact x.value_pos.le)

theorem jsText_ne_zero (h : x.Plain) : jsText x ≠ "0" := by
  rw [jsText_of_plain h]
  exact format_ne_zero (by rw [value_plain]; exact x.value_pos.ne')

/-! ### `formatDecimal` -/

theorem rounded_of_nat {places n : ℕ} (h : x.value * 10 ^ places = n) : x.rounded places = n := by
  have hpos : (0 : ℚ) ≤ (n : ℚ) + 1 / 2 := by positivity
  rw [rounded, h, Nat.floor_eq_iff hpos]
  constructor
  · linarith
  · linarith

/-- Rounding to a number of places changes nothing exactly when there are not more of them. -/
theorem rounded_eq_iff (x : PositiveNumber) (places : ℕ) :
    (x.rounded places : ℚ) / 10 ^ places = x.value ↔ -(places : ℤ) ≤ x.exponent := by
  have hten : (10 : ℚ) ≠ 0 := by norm_num
  have hvalue : x.value * 10 ^ places = x.significand * 10 ^ (x.exponent + places) := by
    unfold value
    rw [mul_assoc, zpow_add₀ hten, zpow_natCast]
  constructor
  · intro h
    by_contra hlt
    -- the significand would be a multiple of ten
    have hint : (x.rounded places : ℚ) = x.significand * 10 ^ (x.exponent + places) := by
      rw [← hvalue, ← h, div_mul_cancel₀ _ (by positivity)]
    have hmul : x.significand = x.rounded places * 10 ^ (-(x.exponent + places)).toNat := by
      have hcast : (x.significand : ℚ) =
          x.rounded places * 10 ^ (-(x.exponent + places)).toNat := by
        rw [hint, mul_assoc, ← zpow_natCast, Int.toNat_of_nonneg (by omega), ← zpow_add₀ hten,
          add_neg_cancel, zpow_zero, mul_one]
      exact_mod_cast hcast
    rw [show (-(x.exponent + places)).toNat = ((-(x.exponent + places)).toNat - 1) + 1 by omega,
      pow_succ, ← mul_assoc] at hmul
    exact x.trimmed (by rw [hmul]; exact Nat.mul_mod_left ..)
  · intro h
    have hnat : x.value * 10 ^ places =
        (x.significand * 10 ^ (x.exponent + places).toNat : ℕ) := by
      rw [hvalue]
      push_cast
      rw [← zpow_natCast, Int.toNat_of_nonneg (by omega)]
    rw [rounded_of_nat hnat, ← hnat, mul_div_cancel_right₀ _ (by positivity)]

theorem canonical_strip_pointed {n scale : ℕ} (h : scale ≠ 0) :
    String.ofList (stripPoint (stripZeros (pointed n scale))) = formatExactDecimal ⟨n, scale⟩ := by
  have hnumeral := isNumeral_wholePart_pointed n scale
  obtain ⟨whole, fraction, hp, hdigits, hlength, hwhole, hfraction, -⟩ := pointed_parts n h
  rw [hp, wholePart_append hwhole] at hnumeral
  rw [hp, stripPoint_stripZeros hfraction]
  set t := String.ofList (joinPoint whole (stripZeros fraction)) with ht
  have hlist : t.toList = joinPoint whole (stripZeros fraction) := String.toList_ofList
  have hc : isCanonicalNonNegative t.toList = true := by
    simp only [isCanonicalNonNegative, decide_eq_true_eq]
    rw [hlist, wholePart_joinPoint hwhole]
    exact ⟨hnumeral, trimmed_joinPoint_stripZeros hwhole hfraction⟩
  rw [← format_parse hc, format_eq_iff, value_parse, routingNumber_of_canonical hc, hlist,
    decimalValue_joinPoint_stripZeros hwhole, natCast_value, hdigits, hlength,
    ofDigitChars_paddedDigits]

theorem formatDecimal_of_plain (h : x.Plain) :
    formatDecimal x = formatExactDecimal ⟨x.rounded 12, 12⟩ := by
  unfold formatDecimal
  by_cases hint : x.isInteger = true
  · rw [if_pos hint, jsText_of_plain h, format_eq_iff, value_plain, natCast_value, eq_comm]
    have hden : x.value.den = 1 := by simpa [isInteger] using hint
    have hnum : x.value = (x.value.num.toNat : ℕ) := by
      have hpos : 0 ≤ x.value.num := Rat.num_nonneg.mpr x.value_pos.le
      conv_lhs => rw [← Rat.coe_int_num_of_den_eq_one hden]
      exact_mod_cast (Int.toNat_of_nonneg hpos).symm
    have hnat : x.value * 10 ^ 12 = (x.value.num.toNat * 10 ^ 12 : ℕ) := by
      rw [Nat.cast_mul, ← hnum]
      norm_num
    rw [rounded_of_nat hnat, ← hnat, mul_div_cancel_right₀ _ (by positivity)]
  · have hlt : x.value < 10 ^ 21 := h.2
    rw [if_neg hint, toFixed, if_pos hlt, canonical_strip_pointed (by decide)]

/-- **On at most twelve decimals `formatDecimal` gives the same text as `String(x)`.** -/
theorem formatDecimal_eq_jsText (h : x.Plain) : formatDecimal x = jsText x ↔ -12 ≤ x.exponent := by
  rw [formatDecimal_of_plain h, jsText_of_plain h, format_eq_iff, value_plain, natCast_value,
    rounded_eq_iff]
  rfl

/-! ### The quote of a buy -/

theorem stripLeadingZeros_of_isNumeral (h : isNumeral chars = true) :
    stripLeadingZeros chars = chars := by
  simp only [isNumeral, isPositiveNumeral, decide_eq_true_eq] at h
  rcases h with rfl | ⟨-, hhead, -⟩
  · rfl
  · unfold stripLeadingZeros
    split
    · exact absurd rfl hhead
    · rfl

theorem ofDigitChars_lt (h : chars.all Char.isDigit = true) :
    Nat.ofDigitChars 10 chars 0 < 10 ^ chars.length := by
  by_cases hnil : chars = []
  · rw [hnil]
    decide
  · have hpos := List.length_pos_iff.mpr hnil
    rw [← Nat.length_toDigits_le_iff (by decide) hpos]
    have := congrArg List.length (leftpad_toDigits_ofDigitChars h hnil)
    rw [List.leftpad, List.length_append, List.length_replicate] at this
    omega

/-- A decimal of at least `10 ^ (-8)` has a digit among the first eight after the point. -/
theorem truncated_pos {whole fraction : List Char} (hfraction : fraction.all Char.isDigit = true)
    (h : (1 : ℚ) / 10 ^ 8 ≤
      (Nat.ofDigitChars 10 (whole ++ fraction) 0 : ℚ) / 10 ^ fraction.length) :
    0 < Nat.ofDigitChars 10 (whole ++ fraction.take 8) 0 := by
  by_contra hzero
  have hzero : Nat.ofDigitChars 10 (whole ++ fraction.take 8) 0 = 0 := by omega
  have hsplit : Nat.ofDigitChars 10 (whole ++ fraction) 0 =
      Nat.ofDigitChars 10 (fraction.drop 8) 0 := by
    conv_lhs => rw [← List.take_append_drop 8 fraction, ← List.append_assoc,
      Nat.ofDigitChars_append, hzero]
  have hdrop : (fraction.drop 8).all Char.isDigit = true :=
    List.all_eq_true.mpr fun c hc => List.all_eq_true.mp hfraction c (List.mem_of_mem_drop hc)
  have hlt := ofDigitChars_lt hdrop
  rw [← hsplit, List.length_drop] at hlt
  rw [div_le_div_iff₀ (by positivity) (by positivity), one_mul] at h
  have hle : 10 ^ fraction.length ≤ Nat.ofDigitChars 10 (whole ++ fraction) 0 * 10 ^ 8 := by
    exact_mod_cast h
  rcases Nat.lt_or_ge fraction.length 8 with hshort | hlong
  · rw [Nat.sub_eq_zero_of_le hshort.le, pow_zero, Nat.lt_one_iff] at hlt
    rw [hlt, Nat.zero_mul] at hle
    exact absurd hle (not_le.mpr (by positivity))
  · have hpow : 10 ^ fraction.length = 10 ^ (fraction.length - 8) * 10 ^ 8 := by
      rw [← pow_add, Nat.sub_add_cancel hlong]
    rw [hpow] at hle
    exact absurd hlt (not_lt.mpr (Nat.le_of_mul_le_mul_right hle (by positivity)))

/-- **The quote is canonical and positive**: the eight decimals that are kept hold a digit. -/
theorem serialize_of_plain (h : x.Plain) (label : String) :
    ∃ t, serializeUpbitOrderDecimal x label = .ok t ∧ IsCanonicalPositive t := by
  have hc := (canonical_jsText x).mpr h
  have hplain := isPlainDecimal_of_canonical hc
  simp only [isPlainDecimal, decide_eq_true_eq] at hplain
  obtain ⟨hnumeral, hfraction⟩ := hplain
  have hwhole := all_of_isNumeral hnumeral
  set whole := wholePart (jsText x).toList with hw
  set fraction := (fractionPart (jsText x).toList).getD [] with hf
  have hdigits : fraction.all Char.isDigit = true := by
    rw [hf]
    rcases hpart : fractionPart (jsText x).toList with _ | part
    · rfl
    · rw [hpart] at hfraction
      simp only [Option.all_some, isDigits, decide_eq_true_eq] at hfraction
      exact hfraction.2
  have hvalue : (Nat.ofDigitChars 10 (whole ++ fraction) 0 : ℚ) / 10 ^ fraction.length = x.value := by
    have hdecimal : decimalValue (jsText x).toList = x.value := by
      rw [← routingNumber_of_canonical hc, jsText_of_plain h, routingNumber_format, value_plain]
    exact hdecimal
  have hpos : 0 < Nat.ofDigitChars 10 (whole ++ fraction.take 8) 0 := by
    refine truncated_pos hdigits ?_
    rw [hvalue]
    refine le_trans ?_ h.1
    norm_num
  have htake : (fraction.take 8).all Char.isDigit = true :=
    List.all_eq_true.mpr fun c hc => List.all_eq_true.mp hdigits c (List.mem_of_mem_take hc)
  refine ⟨String.ofList (joinPoint whole (stripZeros (fraction.take 8))), ?_, ?_, ?_⟩
  · unfold serializeUpbitOrderDecimal canonicalizeUpbitOrderDecimal
    rw [if_pos (isDecimalText_of_canonical hc), ← hw, ← hf, stripLeadingZeros_of_isNumeral hnumeral]
  · rw [String.toList_ofList]
    simp only [isCanonicalNonNegative, decide_eq_true_eq]
    rw [wholePart_joinPoint hwhole]
    exact ⟨hnumeral, trimmed_joinPoint_stripZeros hwhole htake⟩
  · intro hzero
    have hvalue := @decimalValue_joinPoint_stripZeros whole (fraction.take 8) hwhole
    have hlist := congrArg String.toList hzero
    rw [String.toList_ofList] at hlist
    rw [hlist] at hvalue
    have hleft : decimalValue "0".toList = 0 := by decide +kernel
    rw [hleft, eq_comm, div_eq_zero_iff] at hvalue
    rcases hvalue with hnum | hpow
    · exact hpos.ne' (by exact_mod_cast hnum)
    · exact absurd hpow (by positivity)

theorem serialize_of_not_plain (h : ¬ x.Plain) (label : String) :
    serializeUpbitOrderDecimal x label =
      .error (label ++ " must be a non-negative decimal string.") := by
  unfold serializeUpbitOrderDecimal canonicalizeUpbitOrderDecimal
  rw [if_neg (mt (isDecimalText_jsText x) h)]

end AutoTrade.Execution.OrderDecimals
