import Mathlib.Order.Defs.LinearOrder
import Mathlib.Data.Int.Notation
import Mathlib.Data.List.Basic
import Mathlib.Tactic.Linarith
import Mathlib.Tactic.Ring

/-! # Half-open intervals

Lists of half-open intervals of a linear order and the points they cover: taking a list away from an
interval with one sweep (`subtractFrom`), testing that a list covers an interval (`coversFrom`), and
grouping the points of a grid into runs (`runs`), each run being maximal. -/

namespace AutoTrade.Lib.Intervals

/-- The points from `start` on and before `stop`. -/
structure Interval (α : Type) where
  start : α
  stop : α

section Order

variable {α : Type} [LinearOrder α]

def Interval.Has (i : Interval α) (t : α) : Prop := i.start ≤ t ∧ t < i.stop

instance (i : Interval α) (t : α) : Decidable (i.Has t) := inferInstanceAs (Decidable (_ ∧ _))

/-- The point lies in one of the intervals. -/
def Covered (is : List (Interval α)) (t : α) : Prop := ∃ i ∈ is, i.Has t

instance (is : List (Interval α)) (t : α) : Decidable (Covered is t) := by
  unfold Covered; infer_instance

@[simp] theorem covered_nil (t : α) : ¬ Covered [] t := by
  rintro ⟨i, hi, -⟩
  exact absurd hi List.not_mem_nil

@[simp] theorem covered_cons (i : Interval α) (is : List (Interval α)) (t : α) :
    Covered (i :: is) t ↔ i.Has t ∨ Covered is t := by
  simp [Covered]

@[simp] theorem covered_append (is js : List (Interval α)) (t : α) :
    Covered (is ++ js) t ↔ Covered is t ∨ Covered js t := by
  simp [Covered, or_and_right, exists_or]

/-- Intervals with points, one after the other. -/
structure Ordered (is : List (Interval α)) : Prop where
  nonempty : ∀ i ∈ is, i.start < i.stop
  apart : is.Pairwise fun i j => i.stop ≤ j.start

theorem Ordered.nil : Ordered ([] : List (Interval α)) :=
  ⟨fun _ h => absurd h List.not_mem_nil, List.Pairwise.nil⟩

variable {is : List (Interval α)}

theorem Ordered.tail {i : Interval α} (h : Ordered (i :: is)) : Ordered is :=
  ⟨fun j hj => h.nonempty j (List.mem_cons_of_mem i hj), (List.pairwise_cons.mp h.apart).2⟩

theorem ordered_cons {i : Interval α} :
    Ordered (i :: is) ↔ i.start < i.stop ∧ (∀ j ∈ is, i.stop ≤ j.start) ∧ Ordered is := by
  constructor
  · intro h
    exact ⟨h.nonempty i List.mem_cons_self, (List.pairwise_cons.mp h.apart).1, h.tail⟩
  · rintro ⟨hi, hafter, his⟩
    refine ⟨fun j hj => ?_, List.pairwise_cons.mpr ⟨hafter, his.apart⟩⟩
    rcases List.mem_cons.mp hj with rfl | hj
    · exact hi
    · exact his.nonempty j hj

theorem Ordered.append {is js : List (Interval α)} (his : Ordered is) (hjs : Ordered js)
    (h : ∀ i ∈ is, ∀ j ∈ js, i.stop ≤ j.start) : Ordered (is ++ js) := by
  refine ⟨fun k hk => ?_, List.pairwise_append.mpr ⟨his.apart, hjs.apart, h⟩⟩
  rcases List.mem_append.mp hk with hk | hk
  · exact his.nonempty k hk
  · exact hjs.nonempty k hk

/-! ### Taking intervals away -/

/-- The points from `cursor` on and before `stop`, if there are any. -/
def restFrom (cursor stop : α) : List (Interval α) := if cursor < stop then [⟨cursor, stop⟩] else []

/-- What the intervals leave of the points from `cursor` on and before `stop`. -/
def subtractFrom (stop : α) : (cursor : α) → List (Interval α) → List (Interval α)
  | cursor, [] => restFrom cursor stop
  | cursor, i :: is =>
    if i.stop ≤ cursor then subtractFrom stop cursor is
    else if stop ≤ i.start then restFrom cursor stop
    else restFrom cursor i.start ++
      (if stop ≤ i.stop then [] else subtractFrom stop i.stop is)

theorem covered_restFrom (cursor stop t : α) :
    Covered (restFrom cursor stop) t ↔ cursor ≤ t ∧ t < stop := by
  unfold restFrom
  split_ifs with h
  · simp [Interval.Has]
  · simp only [covered_nil, false_iff, not_and, not_lt]
    intro hle
    exact (not_lt.mp h).trans hle

theorem ordered_restFrom (cursor stop : α) : Ordered (restFrom cursor stop) := by
  unfold restFrom
  split_ifs with h
  · exact ordered_cons.mpr ⟨h, fun j hj => absurd hj List.not_mem_nil, Ordered.nil⟩
  · exact Ordered.nil

theorem bounds_restFrom {cursor stop : α} {j : Interval α} (h : j ∈ restFrom cursor stop) :
    cursor ≤ j.start ∧ j.stop ≤ stop := by
  unfold restFrom at h
  split_ifs at h with hlt
  · rw [List.mem_singleton] at h
    rw [h]
    exact ⟨le_refl _, le_refl _⟩
  · exact absurd h List.not_mem_nil

/-- **What is left are the points that no interval has.** -/
theorem covered_subtractFrom {stop : α} (his : Ordered is) (cursor t : α) :
    Covered (subtractFrom stop cursor is) t ↔ cursor ≤ t ∧ t < stop ∧ ¬ Covered is t := by
  induction is generalizing cursor with
  | nil =>
    rw [subtractFrom, covered_restFrom]
    simp
  | cons i is ih =>
    obtain ⟨hi, hafter, his'⟩ := ordered_cons.mp his
    -- a point of a later interval is not before the end of this one
    have hlater : Covered is t → i.stop ≤ t := by
      rintro ⟨j, hj, hhas⟩
      exact (hafter j hj).trans hhas.1
    rw [subtractFrom, covered_cons, Interval.Has]
    split_ifs with hpast hbreak hlast
    · rw [ih his']
      constructor
      · rintro ⟨hc, hs, hnot⟩
        refine ⟨hc, hs, ?_⟩
        rintro (⟨-, hlt⟩ | hcov)
        · exact absurd (hpast.trans hc) (not_le.mpr hlt)
        · exact hnot hcov
      · rintro ⟨hc, hs, hnot⟩
        exact ⟨hc, hs, fun hcov => hnot (Or.inr hcov)⟩
    · rw [covered_restFrom]
      constructor
      · rintro ⟨hc, hs⟩
        refine ⟨hc, hs, ?_⟩
        rintro (⟨hle, -⟩ | hcov)
        · exact absurd (hbreak.trans hle) (not_le.mpr hs)
        · exact absurd ((hbreak.trans hi.le).trans (hlater hcov)) (not_le.mpr hs)
      · rintro ⟨hc, hs, -⟩
        exact ⟨hc, hs⟩
    · rw [List.append_nil, covered_restFrom]
      constructor
      · rintro ⟨hc, hs⟩
        refine ⟨hc, hs.trans (not_le.mp hbreak), ?_⟩
        rintro (⟨hle, -⟩ | hcov)
        · exact absurd hle (not_le.mpr hs)
        · exact absurd (hi.le.trans (hlater hcov)) (not_le.mpr hs)
      · rintro ⟨hc, hs, hnot⟩
        refine ⟨hc, ?_⟩
        by_contra hge
        exact hnot (Or.inl ⟨not_lt.mp hge, hs.trans_le hlast⟩)
    · rw [covered_append, covered_restFrom, ih his']
      constructor
      · rintro (⟨hc, hs⟩ | ⟨hc, hs, hnot⟩)
        · refine ⟨hc, hs.trans (not_le.mp hbreak), ?_⟩
          rintro (⟨hle, -⟩ | hcov)
          · exact absurd hle (not_le.mpr hs)
          · exact absurd (hi.le.trans (hlater hcov)) (not_le.mpr hs)
        · refine ⟨(not_le.mp hpast).le.trans hc, hs, ?_⟩
          rintro (⟨-, hlt⟩ | hcov)
          · exact absurd hc (not_le.mpr hlt)
          · exact hnot hcov
      · rintro ⟨hc, hs, hnot⟩
        rcases lt_or_ge t i.start with hlt | hge
        · exact Or.inl ⟨hc, hlt⟩
        · refine Or.inr ⟨?_, hs, fun hcov => hnot (Or.inr hcov)⟩
          by_contra hbefore
          exact hnot (Or.inl ⟨hge, not_le.mp hbefore⟩)

variable {stop cursor : α}

theorem bounds_subtractFrom (his : Ordered is) {j : Interval α}
    (h : j ∈ subtractFrom stop cursor is) : cursor ≤ j.start ∧ j.stop ≤ stop := by
  induction is generalizing cursor with
  | nil => exact bounds_restFrom h
  | cons i is ih =>
    rw [subtractFrom] at h
    split_ifs at h with hpast hbreak hlast
    · exact ih his.tail h
    · exact bounds_restFrom h
    · rw [List.append_nil] at h
      exact ⟨(bounds_restFrom h).1, (bounds_restFrom h).2.trans (not_le.mp hbreak).le⟩
    · rcases List.mem_append.mp h with h | h
      · exact ⟨(bounds_restFrom h).1, (bounds_restFrom h).2.trans (not_le.mp hbreak).le⟩
      · obtain ⟨hc, hs⟩ := ih his.tail h
        exact ⟨(not_le.mp hpast).le.trans hc, hs⟩

theorem ordered_subtractFrom (his : Ordered is) : Ordered (subtractFrom stop cursor is) := by
  induction is generalizing cursor with
  | nil => exact ordered_restFrom cursor stop
  | cons i is ih =>
    rw [subtractFrom]
    split_ifs with hpast hbreak hlast
    · exact ih his.tail
    · exact ordered_restFrom cursor stop
    · rw [List.append_nil]
      exact ordered_restFrom cursor i.start
    · refine (ordered_restFrom cursor i.start).append (ih his.tail) fun j hj k hk => ?_
      have hi := (ordered_cons.mp his).1
      exact (bounds_restFrom hj).2.trans (hi.le.trans (bounds_subtractFrom his.tail hk).1)

/-- What the intervals leave of each of `ms`. -/
def subtractAll (ms is : List (Interval α)) : List (Interval α) :=
  ms.flatMap fun m => subtractFrom m.stop m.start is

theorem covered_subtractAll (his : Ordered is) (ms : List (Interval α)) (t : α) :
    Covered (subtractAll ms is) t ↔ Covered ms t ∧ ¬ Covered is t := by
  induction ms with
  | nil => simp [subtractAll]
  | cons m ms ih =>
    have hcons : subtractAll (m :: ms) is = subtractFrom m.stop m.start is ++ subtractAll ms is :=
      List.flatMap_cons
    rw [hcons, covered_append, covered_subtractFrom his, ih, covered_cons, Interval.Has]
    tauto

theorem ordered_subtractAll {ms is : List (Interval α)} (hms : Ordered ms) (his : Ordered is) :
    Ordered (subtractAll ms is) := by
  induction ms with
  | nil => exact Ordered.nil
  | cons m ms ih =>
    have hcons : subtractAll (m :: ms) is = subtractFrom m.stop m.start is ++ subtractAll ms is :=
      List.flatMap_cons
    obtain ⟨-, hafter, hms'⟩ := ordered_cons.mp hms
    rw [hcons]
    refine (ordered_subtractFrom his).append (ih hms') fun i hi j hj => ?_
    obtain ⟨k, hk, hj⟩ := List.mem_flatMap.mp hj
    exact ((bounds_subtractFrom his hi).2.trans (hafter k hk)).trans (bounds_subtractFrom his hj).1

theorem Ordered.eq_nil_iff (h : Ordered is) : is = [] ↔ ∀ t, ¬ Covered is t := by
  constructor
  · rintro rfl t
    exact covered_nil t
  · intro hnone
    by_contra hne
    obtain ⟨i, hi⟩ := List.exists_mem_of_ne_nil is hne
    exact hnone i.start ⟨i, hi, le_refl _, h.nonempty i hi⟩

/-! ### Covering an interval -/

/-- The intervals, taken in turn, cover the points from `cursor` on and before `stop`. -/
def coversFrom (stop : α) : (cursor : α) → List (Interval α) → Bool
  | _, [] => false
  | cursor, i :: is =>
    if i.stop ≤ cursor then coversFrom stop cursor is
    else if cursor < i.start then false
    else if stop ≤ i.stop then true
    else coversFrom stop i.stop is

theorem covered_of_coversFrom (h : coversFrom stop cursor is = true) {t : α} (hc : cursor ≤ t)
    (hs : t < stop) : Covered is t := by
  induction is generalizing cursor with
  | nil => cases h
  | cons i is ih =>
    rw [coversFrom] at h
    rw [covered_cons]
    split_ifs at h with hpast hgap hlast
    · exact Or.inr (ih h hc)
    · exact Or.inl ⟨(not_lt.mp hgap).trans hc, hs.trans_le hlast⟩
    · rcases lt_or_ge t i.stop with hlt | hge
      · exact Or.inl ⟨(not_lt.mp hgap).trans hc, hlt⟩
      · exact Or.inr (ih h hge)

end Order

/-! ### Runs of a grid -/

/-- Consecutive points of a grid, by the first and the last of them. -/
structure Run where
  first : ℤ
  last : ℤ

/-- The runs of `first, …, last` followed by the given points. -/
def runsFrom (step : ℤ) : (first last : ℤ) → List ℤ → List Run
  | first, last, [] => [⟨first, last⟩]
  | first, last, x :: xs =>
    if x = last + step then runsFrom step first x xs else ⟨first, last⟩ :: runsFrom step x x xs

/-- The points, grouped where each is one step after the one before. -/
def runs (step : ℤ) : List ℤ → List Run
  | [] => []
  | x :: xs => runsFrom step x x xs

/-- The point is put after the last run. -/
def addToRuns (step : ℤ) (rs : List Run) (x : ℤ) : List Run :=
  match rs.getLast? with
  | none => rs ++ [⟨x, x⟩]
  | some r => if x = r.last + step then rs.dropLast ++ [⟨r.first, x⟩] else rs ++ [⟨x, x⟩]

theorem foldl_addToRuns (step first last : ℤ) (rs : List Run) (xs : List ℤ) :
    xs.foldl (addToRuns step) (rs ++ [⟨first, last⟩]) = rs ++ runsFrom step first last xs := by
  induction xs generalizing rs first last with
  | nil => rfl
  | cons x xs ih =>
    rw [List.foldl_cons, runsFrom, addToRuns, List.getLast?_concat]
    dsimp only
    split_ifs with hx
    · rw [List.dropLast_concat, ih]
    · rw [ih, List.append_assoc]
      rfl

theorem foldl_addToRuns_nil (step : ℤ) (xs : List ℤ) : xs.foldl (addToRuns step) [] = runs step xs := by
  rcases xs with - | ⟨x, xs⟩
  · rfl
  · exact foldl_addToRuns step x x [] xs

variable {xs : List ℤ}

theorem ends_runsFrom {step first last : ℤ} (hle : first ≤ last)
    (hsorted : (last :: xs).Pairwise (· < ·)) {r : Run} (h : r ∈ runsFrom step first last xs) :
    (r.first = first ∨ r.first ∈ xs) ∧ (r.last = last ∨ r.last ∈ xs) ∧ first ≤ r.first ∧
      r.first ≤ r.last := by
  induction xs generalizing first last with
  | nil =>
    rw [runsFrom, List.mem_singleton] at h
    rw [h]
    exact ⟨Or.inl rfl, Or.inl rfl, le_refl _, hle⟩
  | cons x xs ih =>
    obtain ⟨hlast, hxs⟩ := List.pairwise_cons.mp hsorted
    have hx := hlast x List.mem_cons_self
    rw [runsFrom] at h
    split_ifs at h with hstep
    · obtain ⟨hfirst, hlast', hbound, hr⟩ := ih (by omega) hxs h
      refine ⟨hfirst.imp_right (List.mem_cons_of_mem x), Or.inr ?_, hbound, hr⟩
      rcases hlast' with heq | hmem
      · rw [heq]
        exact List.mem_cons_self
      · exact List.mem_cons_of_mem x hmem
    · rcases List.mem_cons.mp h with rfl | h
      · exact ⟨Or.inl rfl, Or.inl rfl, le_refl _, hle⟩
      · obtain ⟨hfirst, hlast', hbound, hr⟩ := ih (le_refl x) hxs h
        refine ⟨Or.inr ?_, Or.inr ?_, by omega, hr⟩
        · rcases hfirst with heq | hmem
          · rw [heq]
            exact List.mem_cons_self
          · exact List.mem_cons_of_mem x hmem
        · rcases hlast' with heq | hmem
          · rw [heq]
            exact List.mem_cons_self
          · exact List.mem_cons_of_mem x hmem

/-- Points on the grid of `anchor`. -/
def OnGrid (step anchor x : ℤ) : Prop := step ∣ x - anchor

variable {step anchor x y : ℤ}

theorem OnGrid.sub (hx : OnGrid step anchor x) (hy : OnGrid step anchor y) : step ∣ y - x := by
  have := Int.dvd_sub hy hx
  rwa [sub_sub_sub_cancel_right] at this

theorem OnGrid.next (hx : OnGrid step anchor x) (hy : OnGrid step anchor y) (hlt : x < y) :
    x + step ≤ y := by
  have := Int.le_of_dvd (by omega) (hx.sub hy)
  omega

/-- So many points of a grid from `start` on. -/
def gridPoints (step start : ℤ) (count : ℕ) : List ℤ :=
  (List.range count).map fun (index : ℕ) => start + index * step

theorem mem_gridPoints_iff {step start stop x : ℤ} (hstep : 0 < step) :
    x ∈ gridPoints step start ((stop - start) / step).toNat ↔
      OnGrid step start x ∧ start ≤ x ∧ x + step ≤ stop := by
  unfold gridPoints OnGrid
  rw [List.mem_map]
  constructor
  · rintro ⟨index, hindex, rfl⟩
    have hle : (index : ℤ) + 1 ≤ (stop - start) / step := by
      have := List.mem_range.mp hindex
      omega
    have hmul := (Int.le_ediv_iff_mul_le hstep).mp hle
    have hnonneg : 0 ≤ (index : ℤ) * step := Int.mul_nonneg (Int.natCast_nonneg _) hstep.le
    rw [add_sub_cancel_left]
    refine ⟨Int.dvd_mul_left _ _, by omega, ?_⟩
    linarith [add_mul (index : ℤ) 1 step]
  · rintro ⟨⟨k, hk⟩, hle, hstop⟩
    have hk0 : 0 ≤ k := by
      by_contra hneg
      have : step * k < 0 := Int.mul_neg_of_pos_of_neg hstep (not_le.mp hneg)
      omega
    have hcount : k + 1 ≤ (stop - start) / step := by
      rw [Int.le_ediv_iff_mul_le hstep]
      linarith [add_mul k 1 step, mul_comm k step]
    refine ⟨k.toNat, List.mem_range.mpr (by omega), ?_⟩
    rw [Int.toNat_of_nonneg hk0]
    linarith [mul_comm k step]

theorem sorted_gridPoints {step : ℤ} (hstep : 0 < step) (start : ℤ) (count : ℕ) :
    (gridPoints step start count).Pairwise (· < ·) := by
  unfold gridPoints
  rw [List.pairwise_map]
  refine List.pairwise_lt_range.imp fun {a b} hlt => ?_
  have := Int.mul_lt_mul_of_pos_right (Int.ofNat_lt.mpr hlt) hstep
  omega

section Grid

variable {step anchor : ℤ}

theorem mem_runsFrom_iff {first last x : ℤ} (hstep : 0 < step) (hle : first ≤ last)
    (hsorted : (last :: xs).Pairwise (· < ·)) (hgrid : ∀ y ∈ last :: xs, OnGrid step anchor y)
    (hx : OnGrid step anchor x) :
    (∃ r ∈ runsFrom step first last xs, r.first ≤ x ∧ x ≤ r.last) ↔
      (first ≤ x ∧ x ≤ last) ∨ x ∈ xs := by
  induction xs generalizing first last with
  | nil => simp [runsFrom]
  | cons y xs ih =>
    obtain ⟨hlast, hxs⟩ := List.pairwise_cons.mp hsorted
    have hy := hlast y List.mem_cons_self
    have hgrid' : ∀ z ∈ y :: xs, OnGrid step anchor z :=
      fun z hz => hgrid z (List.mem_cons_of_mem last hz)
    rw [runsFrom]
    split_ifs with hnext
    · rw [ih (by omega) hxs hgrid', List.mem_cons]
      constructor
      · rintro (⟨hfirst, hto⟩ | hmem)
        · rcases lt_or_ge last x with hlt | hge
          · have := (hgrid last List.mem_cons_self).next hx hlt
            exact Or.inr (Or.inl (by omega))
          · exact Or.inl ⟨hfirst, hge⟩
        · exact Or.inr (Or.inr hmem)
      · rintro (⟨hfirst, hto⟩ | rfl | hmem)
        · exact Or.inl ⟨hfirst, by omega⟩
        · exact Or.inl ⟨by omega, le_refl _⟩
        · exact Or.inr hmem
    · have htail := ih (le_refl y) hxs hgrid'
      have hpoint : y ≤ x ∧ x ≤ y ↔ x = y := by omega
      rw [hpoint] at htail
      rw [List.mem_cons, ← htail]
      simp only [List.mem_cons, or_and_right, exists_or, exists_eq_left]

theorem apart_runsFrom {first last : ℤ} (hle : first ≤ last)
    (hsorted : (last :: xs).Pairwise (· < ·)) (hgrid : ∀ y ∈ last :: xs, OnGrid step anchor y) :
    (runsFrom step first last xs).Pairwise fun r r' => r.last + step < r'.first := by
  induction xs generalizing first last with
  | nil => exact List.pairwise_singleton _ _
  | cons y xs ih =>
    obtain ⟨hlast, hxs⟩ := List.pairwise_cons.mp hsorted
    have hy := hlast y List.mem_cons_self
    have hgrid' : ∀ z ∈ y :: xs, OnGrid step anchor z :=
      fun z hz => hgrid z (List.mem_cons_of_mem last hz)
    rw [runsFrom]
    split_ifs with hnext
    · exact ih (by omega) hxs hgrid'
    · refine List.pairwise_cons.mpr ⟨fun r hr => ?_, ih (le_refl y) hxs hgrid'⟩
      have hbound := (ends_runsFrom (le_refl y) hxs hr).2.2.1
      have := (hgrid last List.mem_cons_self).next (hgrid' y List.mem_cons_self) hy
      dsimp only
      omega

theorem apart_of_ne {rs : List Run} (h : rs.Pairwise fun r r' => r.last + step < r'.first) {r r' : Run}
    (hr : r ∈ rs) (hr' : r' ∈ rs) (hne : r ≠ r') :
    r.last + step < r'.first ∨ r'.last + step < r.first := by
  induction rs with
  | nil => exact absurd hr List.not_mem_nil
  | cons s rs ih =>
    obtain ⟨hs, hrs⟩ := List.pairwise_cons.mp h
    rcases List.mem_cons.mp hr with rfl | htail
    · rcases List.mem_cons.mp hr' with rfl | htail'
      · exact absurd rfl hne
      · exact Or.inl (hs r' htail')
    · rcases List.mem_cons.mp hr' with rfl | htail'
      · exact Or.inr (hs r htail)
      · exact ih hrs htail htail'

variable {xs : List ℤ} (hsorted : xs.Pairwise (· < ·))
include hsorted

theorem ends_runs {r : Run} (h : r ∈ runs step xs) :
    r.first ∈ xs ∧ r.last ∈ xs ∧ r.first ≤ r.last := by
  rcases xs with - | ⟨x, xs⟩
  · exact absurd h List.not_mem_nil
  · obtain ⟨hfirst, hlast, -, hle⟩ := ends_runsFrom (le_refl x) hsorted h
    exact ⟨List.mem_cons.mpr hfirst, List.mem_cons.mpr hlast, hle⟩

/-- **The runs have the points of the grid that were grouped.** -/
theorem mem_runs_iff (hstep : 0 < step) (hgrid : ∀ y ∈ xs, OnGrid step anchor y) {x : ℤ}
    (hx : OnGrid step anchor x) : (∃ r ∈ runs step xs, r.first ≤ x ∧ x ≤ r.last) ↔ x ∈ xs := by
  rcases xs with - | ⟨y, xs⟩
  · simp [runs]
  · have hpoint : y ≤ x ∧ x ≤ y ↔ x = y := by omega
    rw [runs, mem_runsFrom_iff hstep (le_refl y) hsorted hgrid hx, hpoint, List.mem_cons]

/-- **The runs are maximal**: no point of the grid is missing between two of them. -/
theorem apart_runs (hgrid : ∀ y ∈ xs, OnGrid step anchor y) :
    (runs step xs).Pairwise fun r r' => r.last + step < r'.first := by
  rcases xs with - | ⟨y, xs⟩
  · exact List.Pairwise.nil
  · exact apart_runsFrom (le_refl y) hsorted hgrid

/-- The points of the grid next to a run were not grouped. -/
theorem notMem_next_runs (hstep : 0 < step) (hgrid : ∀ y ∈ xs, OnGrid step anchor y) {r : Run}
    (hr : r ∈ runs step xs) : r.first - step ∉ xs ∧ r.last + step ∉ xs := by
  have hle := (ends_runs hsorted hr).2.2
  -- a grouped point lies in a run, which lies to one side of this one
  have hside : ∀ x ∈ xs, x < r.first ∨ r.last < x → x < r.first - step ∨ r.last + step < x := by
    intro x hx hout
    obtain ⟨r', hr', hfirst, hlast⟩ := (mem_runs_iff hsorted hstep hgrid (hgrid x hx)).mpr hx
    have hne : r ≠ r' := by
      rintro rfl
      omega
    have hle' := (ends_runs hsorted hr').2.2
    have hapart := apart_of_ne (apart_runs hsorted hgrid) hr hr' hne
    omega
  constructor
  · intro hmem
    have := hside _ hmem (Or.inl (by omega))
    omega
  · intro hmem
    have := hside _ hmem (Or.inr (by omega))
    omega

/-- The hours of a run as an interval, up to a step after its last point. -/
def Run.interval (step : ℤ) (r : Run) : Interval ℤ := ⟨r.first, r.last + step⟩

/-- **The intervals of the runs have the points of the steps that were grouped.** -/
theorem covered_runs_iff (hstep : 0 < step) (hgrid : ∀ y ∈ xs, OnGrid step anchor y) (t : ℤ) :
    Covered ((runs step xs).map (Run.interval step)) t ↔ ∃ x ∈ xs, x ≤ t ∧ t < x + step := by
  constructor
  · rintro ⟨i, hi, hfirst, hlast⟩
    obtain ⟨r, hr, rfl⟩ := List.mem_map.mp hi
    change r.first ≤ t at hfirst
    change t < r.last + step at hlast
    have hgridF := hgrid _ (ends_runs hsorted hr).1
    have hgridL := hgrid _ (ends_runs hsorted hr).2.1
    -- the point of the grid at or before `t`
    have hx : OnGrid step anchor (t - (t - r.first) % step) := by
      have hdvd : step ∣ t - (t - r.first) % step - r.first := by
        have := Int.dvd_self_sub_emod (x := t - r.first) (m := step)
        rwa [sub_right_comm] at this
      have := Int.dvd_add hdvd hgridF
      rwa [sub_add_sub_cancel] at this
    have hmod := Int.emod_nonneg (t - r.first) hstep.ne'
    have hmod' := Int.emod_lt_of_pos (t - r.first) hstep
    have hle : (t - r.first) % step ≤ t - r.first := by
      have hsum := Int.emod_add_mul_ediv (t - r.first) step
      have hquotient : 0 ≤ (t - r.first) / step := Int.ediv_nonneg (by omega) hstep.le
      have := Int.mul_nonneg hstep.le hquotient
      omega
    have hlast' : t - (t - r.first) % step ≤ r.last := by
      by_contra hgt
      have := hgridL.next hx (not_le.mp hgt)
      omega
    exact ⟨_, (mem_runs_iff hsorted hstep hgrid hx).mp ⟨r, hr, by omega, hlast'⟩, by omega,
      by omega⟩
  · rintro ⟨x, hx, hle, hlt⟩
    obtain ⟨r, hr, hfirst, hlast⟩ := (mem_runs_iff hsorted hstep hgrid (hgrid x hx)).mpr hx
    exact ⟨_, List.mem_map_of_mem hr, hfirst.trans hle, by
      change t < r.last + step
      omega⟩

theorem apart_intervals (hgrid : ∀ y ∈ xs, OnGrid step anchor y) :
    ((runs step xs).map (Run.interval step)).Pairwise fun i j => i.stop < j.start := by
  rw [List.pairwise_map]
  exact apart_runs hsorted hgrid

theorem ordered_intervals (hstep : 0 < step) (hgrid : ∀ y ∈ xs, OnGrid step anchor y) :
    Ordered ((runs step xs).map (Run.interval step)) := by
  refine ⟨fun i hi => ?_, (apart_intervals hsorted hgrid).imp fun h => h.le⟩
  obtain ⟨r, hr, rfl⟩ := List.mem_map.mp hi
  have := (ends_runs hsorted hr).2.2
  change r.first < r.last + step
  omega

end Grid

end AutoTrade.Lib.Intervals
