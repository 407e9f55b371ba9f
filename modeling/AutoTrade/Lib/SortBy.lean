import Mathlib.Data.List.Sort
import Mathlib.Order.Defs.LinearOrder

/-! # Stable sorting by a key

`sortBy key` sorts by a key and keeps the order of elements with equal keys. Sorting and filtering
commute, and in a sorted list the elements up to a cutoff are the first ones: a scan that stops at the
first later element (`countUpTo`), also when it resumes where an earlier scan stopped, counts them
all. -/

namespace AutoTrade.Lib.SortBy

variable {α κ : Type} [LinearOrder κ] (key : α → κ)

def sortBy (l : List α) : List α := l.insertionSort fun a b => key a ≤ key b

/-- The keys do not decrease. -/
def SortedBy (l : List α) : Prop := l.Pairwise fun a b => key a ≤ key b

theorem sortedBy_sortBy (l : List α) : SortedBy key (sortBy key l) := by
  have : Std.Total fun a b : α => key a ≤ key b := ⟨fun a b => le_total _ _⟩
  have : IsTrans α fun a b => key a ≤ key b := ⟨fun _ _ _ => le_trans⟩
  exact List.pairwise_insertionSort _ l

variable {l : List α}

theorem mem_sortBy {a : α} : a ∈ sortBy key l ↔ a ∈ l := List.mem_insertionSort _

theorem sortBy_of_sortedBy (h : SortedBy key l) : sortBy key l = l :=
  h.insertionSort_eq

theorem sortBy_of_perm {l m : List α} (hperm : l.Perm m) (h : m.Pairwise fun a b => key a < key b) :
    sortBy key l = m := by
  have hsorted : SortedBy key (sortBy key l) := sortedBy_sortBy key l
  have hsame : (sortBy key l).Perm m := (List.perm_insertionSort _ l).trans hperm
  refine hsame.eq_of_pairwise (fun a b ha hb hab hba => ?_) hsorted (h.imp fun hlt => hlt.le)
  by_contra hne
  have hkeys : key a = key b := le_antisymm hab hba
  have hmem : a ∈ m := hsame.subset ha
  rcases List.mem_iff_getElem.mp hmem with ⟨i, hi, rfl⟩
  rcases List.mem_iff_getElem.mp hb with ⟨j, hj, rfl⟩
  rw [List.pairwise_iff_getElem] at h
  rcases lt_trichotomy i j with hij | rfl | hij
  · exact (h i j hi hj hij).ne hkeys
  · exact hne rfl
  · exact (h j i hj hi hij).ne hkeys.symm

theorem filter_orderedInsert (p : α → Bool) (a : α) (h : SortedBy key l) :
    (l.orderedInsert (fun a b => key a ≤ key b) a).filter p =
      if p a then (l.filter p).orderedInsert (fun a b => key a ≤ key b) a else l.filter p := by
  induction l with
  | nil =>
    rw [List.orderedInsert_nil]
    split_ifs with ha
    · simp [ha]
    · simp [ha]
  | cons b rest ih =>
    obtain ⟨hb, hrest⟩ := List.pairwise_cons.mp h
    by_cases hab : key a ≤ key b
    · -- every element that is left is at or after `a`
      rw [List.orderedInsert_cons, if_pos hab, List.filter_cons]
      split_ifs with ha
      · cases hf : (b :: rest).filter p with
        | nil => rfl
        | cons c tail =>
          have hc : c ∈ b :: rest := List.mem_of_mem_filter (hf ▸ List.mem_cons_self)
          have hac : key a ≤ key c := by
            rcases List.mem_cons.mp hc with rfl | hc
            · exact hab
            · exact hab.trans (hb c hc)
          rw [List.orderedInsert_cons, if_pos hac]
      · rfl
    · rw [List.orderedInsert_cons, if_neg hab, List.filter_cons, List.filter_cons, ih hrest]
      by_cases hpb : p b = true
      · rw [if_pos hpb, if_pos hpb]
        split_ifs with ha
        · rw [List.orderedInsert_cons, if_neg hab]
        · rfl
      · rw [if_neg hpb, if_neg hpb]

theorem filter_sortBy (p : α → Bool) (l : List α) :
    (sortBy key l).filter p = sortBy key (l.filter p) := by
  induction l with
  | nil => rfl
  | cons a rest ih =>
    have hsorted := sortedBy_sortBy key rest
    have hcons : sortBy key (a :: rest) =
        (sortBy key rest).orderedInsert (fun a b => key a ≤ key b) a := rfl
    rw [hcons, filter_orderedInsert key p a hsorted, ih, List.filter_cons]
    split_ifs <;> rfl

/-! ### Scans up to a cutoff -/

/-- How many elements a scan passes before the first one after the cutoff. -/
def countUpTo (cutoff : κ) : List α → ℕ
  | [] => 0
  | a :: rest => if key a ≤ cutoff then countUpTo cutoff rest + 1 else 0

variable {key} {cutoff : κ} {l : List α}

theorem filter_eq_nil_of_lt {a : α} (ha : ∀ b ∈ l, key a ≤ key b) (hlt : cutoff < key a) :
    l.filter (fun b => key b ≤ cutoff) = [] := by
  rw [List.filter_eq_nil_iff]
  intro b hb
  simpa using hlt.trans_le (ha b hb)

theorem countUpTo_eq (h : SortedBy key l) :
    countUpTo key cutoff l = (l.filter fun a => key a ≤ cutoff).length := by
  induction l with
  | nil => rfl
  | cons a rest ih =>
    obtain ⟨ha, hrest⟩ := List.pairwise_cons.mp h
    unfold countUpTo
    by_cases hle : key a ≤ cutoff
    · simp [hle, ih hrest]
    · simp [hle, filter_eq_nil_of_lt ha (not_le.mp hle)]

theorem take_filter_length (h : SortedBy key l) :
    l.take (l.filter fun a => key a ≤ cutoff).length = l.filter fun a => key a ≤ cutoff := by
  induction l with
  | nil => rfl
  | cons a rest ih =>
    obtain ⟨ha, hrest⟩ := List.pairwise_cons.mp h
    by_cases hle : key a ≤ cutoff
    · simp [hle, ih hrest]
    · simp [hle, filter_eq_nil_of_lt ha (not_le.mp hle)]

theorem resume_countUpTo (h : SortedBy key l) {n : ℕ}
    (hn : n ≤ (l.filter fun a => key a ≤ cutoff).length) :
    n + countUpTo key cutoff (l.drop n) = (l.filter fun a => key a ≤ cutoff).length := by
  have hsplit : (l.filter fun a => key a ≤ cutoff).length =
      ((l.take n).filter fun a => key a ≤ cutoff).length +
        ((l.drop n).filter fun a => key a ≤ cutoff).length := by
    rw [← List.length_append, ← List.filter_append, List.take_append_drop]
  have htake : (l.take n).filter (fun a => key a ≤ cutoff) = l.take n := by
    rw [List.filter_eq_self]
    intro a ha
    have hmem : a ∈ l.take (l.filter fun a => key a ≤ cutoff).length :=
      (List.take_subset_take_left l hn) ha
    rw [take_filter_length h] at hmem
    exact (List.mem_filter.mp hmem).2
  have hlength : n ≤ l.length := hn.trans (List.length_filter_le _ _)
  rw [hsplit, htake, List.length_take, countUpTo_eq (h.sublist (List.drop_sublist n l)),
    Nat.min_eq_left hlength]

end AutoTrade.Lib.SortBy
