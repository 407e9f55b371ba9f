import Mathlib.Data.Rat.Defs
import Mathlib.Algebra.Order.Field.Rat
import Mathlib.Data.List.Induction
import Mathlib.Data.List.TakeWhile
import Mathlib.Tactic.FieldSimp
import Mathlib.Tactic.IntervalCases
import Mathlib.Tactic.Ring

/-! # Decimal texts

A text of decimal digits with at most one point, taken apart at the point, the rational number it
denotes, and the text of a number of given digits and scale. -/

namespace AutoTrade.Lib.Decimal

/-- The characters before the point. -/
def wholePart (chars : List Char) : List Char := chars.takeWhile (· ≠ '.')

/-- The characters after the point, if there is one. -/
def fractionPart (chars : List Char) : Option (List Char) :=
  match chars.dropWhile (· ≠ '.') with
  | [] => none
  | _ :: rest => some rest

/-- `[1-9]\d*`. -/
def isPositiveNumeral (chars : List Char) : Bool :=
  chars ≠ [] ∧ chars.head? ≠ some '0' ∧ chars.all Char.isDigit

/-- `0|[1-9]\d*`. -/
def isNumeral (chars : List Char) : Bool := chars = ['0'] ∨ isPositiveNumeral chars

/-- `\d+`. -/
def isDigits (chars : List Char) : Bool := chars ≠ [] ∧ chars.all Char.isDigit

/-- `\d*[1-9]`. -/
def isTrimmedDigits (chars : List Char) : Bool := isDigits chars ∧ chars.getLast? ≠ some '0'

/-- `(?:0|[1-9]\d*)(?:\.\d+)?`. -/
def isPlainDecimal (chars : List Char) : Bool :=
  isNumeral (wholePart chars) ∧ (fractionPart chars).all isDigits

/-- The number a decimal text without a sign denotes. -/
def decimalValue (chars : List Char) : ℚ :=
  let fraction := (fractionPart chars).getD []
  (Nat.ofDigitChars 10 (wholePart chars ++ fraction) 0 : ℚ) / 10 ^ fraction.length

/-! ### The digits of a natural number -/

theorem digitChar_ne_zero {d : ℕ} (hd : d < 10) (h0 : d ≠ 0) : d.digitChar ≠ '0' := by
  interval_cases d
  · exact absurd rfl h0
  all_goals decide

variable {n : ℕ}

theorem toDigits_head_ne_zero (h : 0 < n) : (Nat.toDigits 10 n).head? ≠ some '0' := by
  induction n using Nat.strong_induction_on with
  | _ n ih =>
    rcases Nat.lt_or_ge n 10 with hlt | hge
    · rw [Nat.toDigits_of_lt_base hlt]
      simpa using digitChar_ne_zero hlt h.ne'
    · rw [Nat.toDigits_of_base_le (by decide) hge, List.head?_append_of_ne_nil _ Nat.toDigits_ne_nil]
      exact ih (n / 10) (by omega) (by omega)

theorem toDigits_getLast : (Nat.toDigits 10 n).getLast? = some (n % 10).digitChar := by
  rcases Nat.lt_or_ge n 10 with hlt | hge
  · rw [Nat.toDigits_of_lt_base hlt, Nat.mod_eq_of_lt hlt]
    rfl
  · rw [Nat.toDigits_of_base_le (by decide) hge]
    simp

theorem toDigits_all_isDigit (n : ℕ) : (Nat.toDigits 10 n).all Char.isDigit = true := by
  rw [List.all_eq_true]
  exact fun c hc => Nat.isDigit_of_mem_toDigits (by decide) (by decide) hc

theorem ne_point_of_isDigit {c : Char} (h : c.isDigit = true) : c ≠ '.' := by
  rintro rfl
  exact absurd h (by decide)

/-! ### The text of a number -/

/-- The digits of `n`, filled up with zeros on the left to more than `scale`. -/
def paddedDigits (n scale : ℕ) : List Char :=
  (Nat.toDigits 10 n).leftpad (scale + 1) '0'

/-- The text of `n / 10 ^ scale`, with `scale` digits after the point. -/
def pointed (n scale : ℕ) : List Char :=
  if scale = 0 then Nat.toDigits 10 n
  else
    let digits := paddedDigits n scale
    digits.take (digits.length - scale) ++ '.' :: digits.drop (digits.length - scale)

theorem pointed_zero (n : ℕ) : pointed n 0 = Nat.toDigits 10 n := if_pos rfl

theorem paddedDigits_all_isDigit (n scale : ℕ) :
    (paddedDigits n scale).all Char.isDigit = true := by
  rw [List.all_eq_true]
  intro c hc
  rcases List.mem_append.mp hc with hc | hc
  · rw [List.eq_of_mem_replicate hc]
    rfl
  · exact List.all_eq_true.mp (toDigits_all_isDigit n) c hc

theorem scale_lt_length_paddedDigits (n scale : ℕ) : scale < (paddedDigits n scale).length := by
  unfold paddedDigits List.leftpad
  rw [List.length_append, List.length_replicate]
  omega

theorem ofDigitChars_paddedDigits (n scale : ℕ) :
    Nat.ofDigitChars 10 (paddedDigits n scale) 0 = n := by
  unfold paddedDigits List.leftpad
  rw [Nat.ofDigitChars_append, Nat.ofDigitChars_replicate_zero, Nat.mul_zero,
    Nat.ofDigitChars_ten_toDigits]

variable {chars : List Char}

theorem wholePart_of_all (h : chars.all Char.isDigit = true) : wholePart chars = chars := by
  unfold wholePart
  rw [List.takeWhile_eq_self_iff]
  exact fun c hc => by simpa using ne_point_of_isDigit (List.all_eq_true.mp h c hc)

theorem fractionPart_of_all (h : chars.all Char.isDigit = true) : fractionPart chars = none := by
  unfold fractionPart
  rw [List.dropWhile_eq_nil_iff.mpr]
  exact fun c hc => by simpa using ne_point_of_isDigit (List.all_eq_true.mp h c hc)

variable {whole fraction : List Char}

theorem wholePart_append (h : whole.all Char.isDigit = true) :
    wholePart (whole ++ '.' :: fraction) = whole := by
  unfold wholePart
  rw [List.takeWhile_append_of_pos]
  · simp
  · exact fun c hc => by simpa using ne_point_of_isDigit (List.all_eq_true.mp h c hc)

theorem fractionPart_append (h : whole.all Char.isDigit = true) :
    fractionPart (whole ++ '.' :: fraction) = some fraction := by
  unfold fractionPart
  rw [List.dropWhile_append_of_pos]
  · simp
  · exact fun c hc => by simpa using ne_point_of_isDigit (List.all_eq_true.mp h c hc)

theorem pointed_parts {scale : ℕ} (n : ℕ) (h : scale ≠ 0) :
    ∃ whole fraction, pointed n scale = whole ++ '.' :: fraction ∧
      whole ++ fraction = paddedDigits n scale ∧ fraction.length = scale ∧
      whole.all Char.isDigit = true ∧ fraction.all Char.isDigit = true ∧ whole ≠ [] := by
  have hlength := scale_lt_length_paddedDigits n scale
  have hall := List.all_eq_true.mp (paddedDigits_all_isDigit n scale)
  refine ⟨_, _, if_neg h, List.take_append_drop _ _, ?_, ?_, ?_, ?_⟩
  · rw [List.length_drop]
    omega
  · exact List.all_eq_true.mpr fun c hc => hall c (List.mem_of_mem_take hc)
  · exact List.all_eq_true.mpr fun c hc => hall c (List.mem_of_mem_drop hc)
  · rw [← List.length_pos_iff, List.length_take]
    omega

theorem decimalValue_pointed (n scale : ℕ) : decimalValue (pointed n scale) = n / 10 ^ scale := by
  unfold decimalValue
  by_cases h : scale = 0
  · have hall := toDigits_all_isDigit n
    subst h
    simp only [pointed_zero, wholePart_of_all hall, fractionPart_of_all hall, Option.getD_none,
      List.append_nil, List.length_nil, Nat.ofDigitChars_ten_toDigits]
  · obtain ⟨whole, fraction, hp, hdigits, hlength, hwhole, -, -⟩ := pointed_parts n h
    simp only [hp, wholePart_append hwhole, fractionPart_append hwhole, Option.getD_some, hdigits,
      ofDigitChars_paddedDigits, hlength]

theorem fractionPart_pointed {scale : ℕ} (n : ℕ) (h : scale ≠ 0) :
    ∃ fraction, fractionPart (pointed n scale) = some fraction ∧ isDigits fraction = true ∧
      fraction.getLast? = some (n % 10).digitChar := by
  obtain ⟨whole, fraction, hp, hdigits, hlength, hwhole, hfraction, -⟩ := pointed_parts n h
  have hne : fraction ≠ [] := by
    rintro rfl
    exact h hlength.symm
  refine ⟨fraction, ?_, ?_, ?_⟩
  · rw [hp, fractionPart_append hwhole]
  · simp [isDigits, hne, hfraction]
  · have := congrArg List.getLast? hdigits
    rwa [List.getLast?_append_of_ne_nil _ hne, paddedDigits, List.leftpad,
      List.getLast?_append_of_ne_nil _ Nat.toDigits_ne_nil, toDigits_getLast] at this

theorem trimmed_pointed {n scale : ℕ} :
    (fractionPart (pointed n scale)).all isTrimmedDigits = true ↔ scale = 0 ∨ n % 10 ≠ 0 := by
  by_cases h0 : scale = 0
  · subst h0
    simp [pointed_zero, fractionPart_of_all (toDigits_all_isDigit n)]
  · obtain ⟨fraction, hf, hdigits, hlast⟩ := fractionPart_pointed n h0
    rw [hf, Option.all_some]
    simp only [isTrimmedDigits, hdigits, hlast, true_and, decide_eq_true_eq, ne_eq,
      Option.some.injEq, Nat.digitChar_eq_zero, h0, false_or]

theorem isPositiveNumeral_toDigits (h : 0 < n) : isPositiveNumeral (Nat.toDigits 10 n) = true := by
  simp only [isPositiveNumeral, decide_eq_true_eq]
  exact ⟨Nat.toDigits_ne_nil, toDigits_head_ne_zero h, toDigits_all_isDigit n⟩

/-- Before the point stand the digits of the whole part, or a single zero if there is none. -/
theorem wholePart_pointed (n scale : ℕ) :
    (10 ^ scale ≤ n ∧ isPositiveNumeral (wholePart (pointed n scale)) = true) ∨
      (n < 10 ^ scale ∧ wholePart (pointed n scale) = ['0']) := by
  by_cases h0 : scale = 0
  · subst h0
    rw [pointed_zero, wholePart_of_all (toDigits_all_isDigit n), pow_zero]
    rcases Nat.eq_zero_or_pos n with rfl | hpos
    · exact Or.inr ⟨by decide, rfl⟩
    · exact Or.inl ⟨hpos, isPositiveNumeral_toDigits hpos⟩
  · have hpos : 0 < scale := Nat.pos_of_ne_zero h0
    obtain ⟨whole, fraction, hp, hdigits, hlength, hwhole, -, hne⟩ := pointed_parts n h0
    rw [hp, wholePart_append hwhole]
    rcases Nat.lt_or_ge n (10 ^ scale) with hlt | hge
    · have hshort := (Nat.length_toDigits_le_iff (by decide) hpos).mpr hlt
      refine Or.inr ⟨hlt, ?_⟩
      have hone : whole.length = 1 := by
        have := congrArg List.length hdigits
        rw [List.length_append, hlength, paddedDigits, List.leftpad, List.length_append,
          List.length_replicate] at this
        omega
      obtain ⟨c, rfl⟩ := List.length_eq_one_iff.mp hone
      have hhead := congrArg List.head? hdigits
      rw [paddedDigits, List.leftpad, show scale + 1 - (Nat.toDigits 10 n).length =
        (scale - (Nat.toDigits 10 n).length) + 1 by omega, List.replicate_succ] at hhead
      simpa using hhead
    · have hlong : scale < (Nat.toDigits 10 n).length := by
        have := mt (Nat.length_toDigits_le_iff (b := 10) (by decide) hpos).mp (not_lt.mpr hge)
        omega
      have hnpos : 0 < n := lt_of_lt_of_le (by positivity) hge
      refine Or.inl ⟨hge, ?_⟩
      have hhead : whole.head? = (Nat.toDigits 10 n).head? := by
        have := congrArg List.head? hdigits
        rwa [List.head?_append_of_ne_nil _ hne, paddedDigits, List.leftpad,
          show scale + 1 - (Nat.toDigits 10 n).length = 0 by omega, List.replicate_zero,
          List.nil_append] at this
      simp only [isPositiveNumeral, decide_eq_true_eq]
      exact ⟨hne, hhead ▸ toDigits_head_ne_zero hnpos, hwhole⟩

/-! ### Texts read and written back -/

theorem digitChar_toNat_sub {c : Char} (h : c.isDigit = true) : (c.toNat - 48).digitChar = c := by
  obtain ⟨hlow, hhigh⟩ := Char.isDigit_iff_toNat.mp h
  change 48 ≤ c.toNat at hlow
  change c.toNat ≤ 57 at hhigh
  rw [← Char.toNat_inj]
  have hdigit := Nat.toNat_digitChar_sub_48_of_lt_ten (n := c.toNat - 48) (by omega)
  have hle : 48 ≤ (c.toNat - 48).digitChar.toNat := by
    have := Char.isDigit_iff_toNat.mp
      (show (c.toNat - 48).digitChar.isDigit = true by simp; omega)
    exact this.1
  omega

/-- A run of digits is its number, filled up with zeros on the left. -/
theorem leftpad_toDigits_ofDigitChars (hall : chars.all Char.isDigit = true) (hne : chars ≠ []) :
    (Nat.toDigits 10 (Nat.ofDigitChars 10 chars 0)).leftpad chars.length '0' = chars := by
  induction chars using List.reverseRecOn with
  | nil => exact absurd rfl hne
  | append_singleton chars c ih =>
    rw [List.all_append, Bool.and_eq_true] at hall
    have hc : c.isDigit = true := by simpa using hall.2
    have hlt : c.toNat - 48 < 10 := by
      have := (Char.isDigit_iff_toNat.mp hc).2
      change c.toNat ≤ 57 at this
      omega
    have hvalue : Nat.ofDigitChars 10 (chars ++ [c]) 0 =
        10 * Nat.ofDigitChars 10 chars 0 + (c.toNat - 48) := by
      rw [Nat.ofDigitChars_append, Nat.ofDigitChars_cons, Nat.ofDigitChars_nil]
      rfl
    rw [hvalue, List.length_append, List.length_singleton]
    rcases Nat.eq_zero_or_pos (Nat.ofDigitChars 10 chars 0) with hzero | hpos
    · rw [hzero, Nat.mul_zero, Nat.zero_add, Nat.toDigits_of_lt_base hlt, digitChar_toNat_sub hc]
      have hzeros : chars = List.replicate chars.length '0' := by
        by_cases hnil : chars = []
        · rw [hnil]
          rfl
        · have hpos := List.length_pos_iff.mpr hnil
          have := ih hall.1 hnil
          rw [hzero, Nat.toDigits_zero, List.leftpad, List.length_singleton,
            ← List.replicate_succ', Nat.sub_add_cancel hpos] at this
          exact this.symm
      rw [List.leftpad, List.length_singleton, Nat.add_sub_cancel, ← hzeros]
    · have hnil : chars ≠ [] := by
        rintro rfl
        exact absurd hpos (by decide)
      have hdigits := Nat.toDigits_append_toDigits (b := 10) (by decide) hpos hlt
      rw [Nat.toDigits_of_lt_base hlt, digitChar_toNat_sub hc] at hdigits
      rw [← hdigits, List.leftpad, List.length_append, List.length_singleton,
        Nat.add_sub_add_right, ← List.append_assoc]
      exact congrArg (· ++ [c]) (ih hall.1 hnil)

/-- A numeral, with digits after the point, is the text of its digits at that scale. -/
theorem paddedDigits_ofDigitChars (hwhole : isNumeral whole = true)
    (hfraction : fraction.all Char.isDigit = true) :
    paddedDigits (Nat.ofDigitChars 10 (whole ++ fraction) 0) fraction.length = whole ++ fraction := by
  simp only [isNumeral, isPositiveNumeral, decide_eq_true_eq] at hwhole
  have hall : (whole ++ fraction).all Char.isDigit = true := by
    rw [List.all_append, hfraction, Bool.and_true]
    rcases hwhole with rfl | ⟨-, -, h⟩
    · decide
    · exact h
  have hne : whole ++ fraction ≠ [] := by
    rcases hwhole with rfl | ⟨h, -, -⟩
    · simp
    · simp [h]
  have hpad := leftpad_toDigits_ofDigitChars hall hne
  rcases hwhole with rfl | ⟨hwne, hhead, -⟩
  · rw [List.length_append, List.length_singleton, Nat.add_comm] at hpad
    exact hpad
  -- the first digit is not a zero, so none was filled up
  · have hlength : (whole ++ fraction).length ≤
        (Nat.toDigits 10 (Nat.ofDigitChars 10 (whole ++ fraction) 0)).length := by
      by_contra hlt
      rw [List.leftpad, show (whole ++ fraction).length -
        (Nat.toDigits 10 (Nat.ofDigitChars 10 (whole ++ fraction) 0)).length =
        ((whole ++ fraction).length -
          (Nat.toDigits 10 (Nat.ofDigitChars 10 (whole ++ fraction) 0)).length - 1) + 1 by omega,
        List.replicate_succ] at hpad
      have := congrArg List.head? hpad
      rw [List.head?_append_of_ne_nil _ hwne] at this
      exact hhead this.symm
    have hwpos := List.length_pos_iff.mpr hwne
    rw [List.leftpad, Nat.sub_eq_zero_of_le hlength, List.replicate_zero, List.nil_append] at hpad
    rw [List.length_append] at hlength
    rw [paddedDigits, List.leftpad, Nat.sub_eq_zero_of_le (by omega), List.replicate_zero,
      List.nil_append, hpad]

theorem wholePart_append_fractionPart (chars : List Char) :
    chars = match fractionPart chars with
      | none => wholePart chars
      | some fraction => wholePart chars ++ '.' :: fraction := by
  unfold fractionPart wholePart
  have hsplit := List.takeWhile_append_dropWhile (p := fun c : Char => decide (c ≠ '.')) (l := chars)
  cases hdrop : chars.dropWhile (fun c => decide (c ≠ '.')) with
  | nil =>
    rw [hdrop, List.append_nil] at hsplit
    exact hsplit.symm
  | cons c rest =>
    have hc := List.head?_dropWhile_not (fun c : Char => decide (c ≠ '.')) chars
    rw [hdrop] at hc hsplit
    have hpoint : c = '.' := by simpa using hc
    rw [hpoint] at hsplit
    exact hsplit.symm

theorem pointed_ofDigitChars (h : isPlainDecimal chars = true) :
    pointed (Nat.ofDigitChars 10 (wholePart chars ++ (fractionPart chars).getD []) 0)
      ((fractionPart chars).getD []).length = chars := by
  simp only [isPlainDecimal, decide_eq_true_eq] at h
  obtain ⟨hwhole, hfraction⟩ := h
  conv_rhs => rw [wholePart_append_fractionPart chars]
  rcases hf : fractionPart chars with _ | fraction
  · have := @paddedDigits_ofDigitChars (wholePart chars) [] hwhole rfl
    rw [List.append_nil, List.length_nil] at this
    rw [Option.getD_none, List.length_nil, pointed_zero, List.append_nil, ← this]
    rw [paddedDigits, List.leftpad, Nat.sub_eq_zero_of_le Nat.length_toDigits_pos,
      List.replicate_zero, List.nil_append, Nat.ofDigitChars_ten_toDigits]
  · rw [hf] at hfraction
    simp only [Option.all_some, isDigits, decide_eq_true_eq] at hfraction
    have hpos := List.length_pos_iff.mpr hfraction.1
    rw [Option.getD_some, pointed, if_neg hpos.ne']
    dsimp only
    rw [paddedDigits_ofDigitChars hwhole hfraction.2, List.length_append, Nat.add_sub_cancel,
      List.take_left, List.drop_left]

end AutoTrade.Lib.Decimal
