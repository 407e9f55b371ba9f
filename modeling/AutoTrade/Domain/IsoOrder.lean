import AutoTrade.Domain.IsoDate
import AutoTrade.Lib.Latest

/-! # The order of ISO texts

The texts that `toISOString` writes in the four-digit years have one shape, and they are ordered like
the times they denote (`isoDateText_lt_iff`), by their bytes as by any collation. -/

namespace AutoTrade.Domain.IsoOrder

open Lib.Latest Domain.Timestamp Domain.IsoDate

/-! ### Digits -/

theorem digit_bounds {c : Char} (h : c.isDigit = true) : 48 ≤ c.toNat ∧ c.toNat ≤ 57 := by
  simp only [Char.isDigit, Bool.and_eq_true, decide_eq_true_eq] at h
  exact ⟨h.1, h.2⟩

theorem ofDigitChars_lt : ∀ {left right : List Char} {a b : ℕ}, left.length = right.length →
    left.all Char.isDigit = true → a < b →
      Nat.ofDigitChars 10 left a < Nat.ofDigitChars 10 right b
  | [], [], a, b, _, _, h => h
  | c :: left, d :: right, a, b, hlength, hdigits, h => by
    rw [List.all_cons, Bool.and_eq_true] at hdigits
    have := digit_bounds hdigits.1
    rw [Nat.ofDigitChars_cons, Nat.ofDigitChars_cons]
    refine ofDigitChars_lt (Nat.succ.inj hlength) hdigits.2 ?_
    have : '0'.toNat = 48 := rfl
    omega

theorem ofDigitChars_le : ∀ {left right : List Char} (acc : ℕ), left.length = right.length →
    left.all Char.isDigit = true → right.all Char.isDigit = true → ¬ right < left →
      Nat.ofDigitChars 10 left acc ≤ Nat.ofDigitChars 10 right acc
  | [], [], _, _, _, _, _ => Nat.le_refl _
  | c :: left, d :: right, acc, hlength, hleft, hright, h => by
    rw [List.all_cons, Bool.and_eq_true] at hleft hright
    have hc := digit_bounds hleft.1
    have hd := digit_bounds hright.1
    have hzero : '0'.toNat = 48 := rfl
    rw [List.cons_lt_cons_iff, not_or] at h
    rw [Nat.ofDigitChars_cons, Nat.ofDigitChars_cons]
    rcases lt_trichotomy c d with hlt | rfl | hgt
    · have hnat : c.toNat < d.toNat := hlt
      exact (ofDigitChars_lt (Nat.succ.inj hlength) hleft.2 (by omega)).le
    · exact ofDigitChars_le _ (Nat.succ.inj hlength) hleft.2 hright.2
        fun hlt => h.2 ⟨rfl, hlt⟩
    · exact absurd hgt h.1

variable {width n m : ℕ}

theorem padStart_lt (hw : 0 < width) (h : n < m) (hm : m < 10 ^ width) :
    padStart width n < padStart width m := by
  by_contra hge
  have hle := ofDigitChars_le 0 (by rw [length_padStart hw hm, length_padStart hw (h.trans hm)])
    (padStart_all_isDigit width m) (padStart_all_isDigit width n) hge
  rw [ofDigitChars_padStart, ofDigitChars_padStart] at hle
  omega

theorem append_lt_append : ∀ {left right : List Char}, left.length = right.length → left < right →
    ∀ u v, left ++ u < right ++ v
  | [], [], _, h, _, _ => absurd h (List.not_lt_nil [])
  | c :: left, d :: right, hlength, h, u, v => by
    rw [List.cons_append, List.cons_append]
    rcases List.cons_lt_cons_iff.mp h with hlt | ⟨rfl, hlt⟩
    · exact List.cons_lt_cons_iff.mpr (Or.inl hlt)
    · exact List.cons_lt_cons_iff.mpr
        (Or.inr ⟨rfl, append_lt_append (Nat.succ.inj hlength) hlt u v⟩)

variable {u v : List Char}

theorem field_lt (hw : 0 < width) (hm : m < 10 ^ width) (hle : n ≤ m) (hrest : n = m → u < v) :
    padStart width n ++ u < padStart width m ++ v := by
  rcases Nat.lt_or_eq_of_le hle with hlt | rfl
  · refine append_lt_append ?_ (padStart_lt hw hlt hm) u v
    rw [length_padStart hw hm, length_padStart hw (hlt.trans hm)]
  · exact List.append_left_lt (hrest rfl)

theorem cons_lt (c : Char) (h : u < v) : c :: u < c :: v :=
  List.cons_lt_cons_iff.mpr (Or.inr ⟨rfl, h⟩)

/-! ### Days and times -/

theorem yearOfDay_mono {day day' : ℕ} (h : day ≤ day') : yearOfDay day ≤ yearOfDay day' := by
  by_contra hlt
  have := (yearOfDay_lt_iff day' (yearOfDay day)).mp (not_le.mp hlt)
  have := (yearOfDay_spec day).1
  omega

theorem monthOfDay_mono (year : ℕ) {day day' : ℕ} (h : day ≤ day') :
    monthOfDay year day ≤ monthOfDay year day' :=
  Nat.findGreatest_mono_left (fun _ hmonth => le_trans hmonth h) 12

theorem time_lt {time time' : ℕ} (h : time < time') (htime : time' < 86400000) (rest rest' : List Char) :
    padStart 2 (time / 3600000) ++ ':' :: (padStart 2 (time % 3600000 / 60000) ++
      ':' :: (padStart 2 (time % 60000 / 1000) ++ '.' :: (padStart 3 (time % 1000) ++ rest))) <
    padStart 2 (time' / 3600000) ++ ':' :: (padStart 2 (time' % 3600000 / 60000) ++
      ':' :: (padStart 2 (time' % 60000 / 1000) ++ '.' :: (padStart 3 (time' % 1000) ++ rest'))) := by
  refine field_lt (by decide) (by omega) (by omega) fun hhour => cons_lt ':' ?_
  refine field_lt (by decide) (by omega) (by omega) fun hminute => cons_lt ':' ?_
  refine field_lt (by decide) (by omega) (by omega) fun hsecond => cons_lt '.' ?_
  exact field_lt (by decide) (by omega) (by omega) fun hmillisecond => by omega

variable {day day' time time' : ℕ}

/-- A date and what follows its `T`. -/
def dateText (day : ℕ) (rest : List Char) : List Char :=
  let year := yearOfDay day
  let dayOfYear := day - daysBeforeYear year
  let month := monthOfDay year dayOfYear
  padStart 4 year ++ '-' :: (padStart 2 month ++
    '-' :: (padStart 2 (dayOfYear - daysBeforeMonth year month + 1) ++ 'T' :: rest))

/-- Texts that start with a date: the day decides, or what follows it. -/
theorem date_lt (hyear : yearOfDay day' ≤ 9999) (h : day ≤ day') {rest rest' : List Char}
    (hrest : day = day' → rest < rest') :
    dateText day rest < dateText day' rest' := by
  obtain ⟨hm, hm12, hd, hdays, hsum⟩ := fieldsOfDay_spec day 0
  obtain ⟨hm', hm12', hd', hdays', hsum'⟩ := fieldsOfDay_spec day' 0
  have hmax := daysInMonth_le (fieldsOfDay day' 0).year (fieldsOfDay day' 0).month
  refine field_lt (by decide) (by omega) (yearOfDay_mono h) fun hsame => ?_
  simp only [fieldsOfDay] at hm hm12 hd hdays hsum hm' hm12' hd' hdays' hsum' hmax
  rw [hsame] at hm hm12 hd hdays hsum ⊢
  refine cons_lt '-' (field_lt (by decide) (by omega) (monthOfDay_mono _ (by omega)) fun hmonth => ?_)
  rw [hmonth] at hd hdays hsum ⊢
  refine cons_lt '-' (field_lt (by decide) (by omega) (by omega) fun hday => cons_lt 'T' ?_)
  exact hrest (by omega)

theorem text_lt (hyear : yearOfDay day' ≤ 9999) (htime : time' < 86400000)
    (h : day < day' ∨ (day = day' ∧ time < time')) :
    padStart 4 (yearOfDay day) ++ afterYear day time <
      padStart 4 (yearOfDay day') ++ afterYear day' time' :=
  date_lt hyear (by omega) fun _ => time_lt (by omega) htime _ _

/-! ### Texts of the four-digit years -/

variable {a b : ℤ}

theorem isoDateText_lt (ha : FourDigitYear a) (hb : FourDigitYear b) (h : a < b) :
    (isoDateText a).toList < (isoDateText b).toList := by
  have hnonneg := dayNumber_nonneg ha.1
  have hnonneg' := dayNumber_nonneg hb.1
  rw [toList_isoDateText ha, toList_isoDateText hb]
  refine text_lt (year_le_of_fourDigit hb) (by omega) ?_
  unfold dayNumber at hnonneg hnonneg' ⊢
  omega

/-- **The texts of the four-digit years are ordered like their times.** -/
theorem isoDateText_lt_iff (ha : FourDigitYear a) (hb : FourDigitYear b) :
    (isoDateText a).toList < (isoDateText b).toList ↔ a < b := by
  constructor
  · intro h
    by_contra hge
    rcases Int.lt_or_eq_of_le (not_lt.mp hge) with hlt | rfl
    · exact absurd (isoDateText_lt hb ha hlt) (not_lt_of_gt h)
    · exact absurd h (lt_irrefl _)
  · exact isoDateText_lt ha hb

/-! ### One shape -/

theorem sameShape_refl (chars : List Char) : SameShape chars chars :=
  List.forall₂_same.mpr fun _ _ => Or.inl rfl

theorem sameShape_digits {left right : List Char} (hlength : left.length = right.length)
    (hleft : left.all Char.isDigit = true) (hright : right.all Char.isDigit = true) :
    SameShape left right := by
  induction left generalizing right with
  | nil =>
    rw [List.eq_nil_of_length_eq_zero hlength.symm]
    exact List.Forall₂.nil
  | cons c left ih =>
    obtain ⟨d, right, rfl⟩ := List.exists_cons_of_length_eq_add_one hlength.symm
    rw [List.all_cons, Bool.and_eq_true] at hleft hright
    exact List.Forall₂.cons (Or.inr ⟨hleft.1, hright.1⟩)
      (ih (Nat.succ.inj hlength) hleft.2 hright.2)

theorem sameShape_field (hw : 0 < width) (hn : n < 10 ^ width) (hm : m < 10 ^ width)
    (h : SameShape u v) : SameShape (padStart width n ++ u) (padStart width m ++ v) :=
  List.rel_append (sameShape_digits (by rw [length_padStart hw hn, length_padStart hw hm])
    (padStart_all_isDigit width n) (padStart_all_isDigit width m)) h

theorem sameShape_cons (c : Char) (h : SameShape u v) :
    SameShape (c :: u) (c :: v) := List.Forall₂.cons (Or.inl rfl) h

theorem sameShape_afterYear (htime : time < 86400000) (htime' : time' < 86400000) :
    SameShape (afterYear day time) (afterYear day' time') := by
  obtain ⟨-, hm, -, hd, -⟩ := fieldsOfDay_spec day time
  obtain ⟨-, hm', -, hd', -⟩ := fieldsOfDay_spec day' time'
  have hmax := daysInMonth_le (fieldsOfDay day time).year (fieldsOfDay day time).month
  have hmax' := daysInMonth_le (fieldsOfDay day' time').year (fieldsOfDay day' time').month
  simp only [fieldsOfDay] at hm hm' hd hd' hmax hmax'
  unfold afterYear
  dsimp only
  refine sameShape_cons '-' (sameShape_field (by decide) (by omega) (by omega) ?_)
  refine sameShape_cons '-' (sameShape_field (by decide) (by omega) (by omega) ?_)
  refine sameShape_cons 'T' (sameShape_field (by decide) (by omega) (by omega) ?_)
  refine sameShape_cons ':' (sameShape_field (by decide) (by omega) (by omega) ?_)
  refine sameShape_cons ':' (sameShape_field (by decide) (by omega) (by omega) ?_)
  refine sameShape_cons '.' (sameShape_field (by decide) (by omega) (by omega) ?_)
  exact sameShape_refl _

/-- **Any collation orders the texts of the four-digit years like their times.** -/
theorem compare_isoDateText (order : Collation) (ha : FourDigitYear a) (hb : FourDigitYear b) :
    order.compare (isoDateText a) (isoDateText b) < 0 ↔ a < b := by
  have hyear := year_le_of_fourDigit ha
  have hyear' := year_le_of_fourDigit hb
  have hshape : SameShape (isoDateText a).toList (isoDateText b).toList := by
    rw [toList_isoDateText ha, toList_isoDateText hb]
    exact sameShape_field (by decide) (by omega) (by omega)
      (sameShape_afterYear (by omega) (by omega))
  rw [order.digits _ _ hshape, isoDateText_lt_iff ha hb]

end AutoTrade.Domain.IsoOrder
