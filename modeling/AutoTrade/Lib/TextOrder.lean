import AutoTrade.Lib.Text
import Mathlib.Data.List.Lex
import Mathlib.Data.List.Sort
import Mathlib.Data.Prod.Lex

/-! # The order of texts

`left < right` on texts compares their UTF-16 code units. A text is determined by its code units
(`units_injective`), so of two different texts one comes before the other. Elements sorted by a time
and then by a text of their own lose the arrangement they came in (`sorted_eq_of_perm`). -/

namespace AutoTrade.Lib.TextOrder

open Lib.Text

def units (text : String) : List ℕ := text.toList.flatMap charUnits

theorem char_range (c : Char) : c.toNat < 0xd800 ∨ (0xe000 ≤ c.toNat ∧ c.toNat < 0x110000) := by
  have hvalid : c.toNat.isValidChar := c.valid
  unfold Nat.isValidChar at hvalid
  omega

theorem charUnits_append_inj {a b : Char} {l m : List ℕ}
    (h : charUnits a ++ l = charUnits b ++ m) : a = b ∧ l = m := by
  have ha := char_range a
  have hb := char_range b
  unfold charUnits at h
  split_ifs at h with hal hbl hbl
  · rw [List.singleton_append, List.singleton_append, List.cons.injEq] at h
    exact ⟨Char.toNat_inj.mp h.1, h.2⟩
  · simp only [List.cons_append, List.nil_append, List.cons.injEq] at h
    omega
  · simp only [List.cons_append, List.nil_append, List.cons.injEq] at h
    omega
  · simp only [List.cons_append, List.nil_append, List.cons.injEq] at h
    obtain ⟨hhigh, hlow, hrest⟩ := h
    refine ⟨Char.toNat_inj.mp ?_, hrest⟩
    omega

theorem flatMap_charUnits_inj {l m : List Char}
    (h : l.flatMap charUnits = m.flatMap charUnits) : l = m := by
  have hne : ∀ c : Char, charUnits c ≠ [] := by
    intro c
    unfold charUnits
    split_ifs <;> simp
  induction l generalizing m with
  | nil =>
    rcases m with _ | ⟨b, m⟩
    · rfl
    · rw [List.flatMap_nil, List.flatMap_cons, eq_comm, List.append_eq_nil_iff] at h
      exact absurd h.1 (hne b)
  | cons a l ih =>
    rcases m with _ | ⟨b, m⟩
    · rw [List.flatMap_nil, List.flatMap_cons, List.append_eq_nil_iff] at h
      exact absurd h.1 (hne a)
    · rw [List.flatMap_cons, List.flatMap_cons] at h
      obtain ⟨rfl, hrest⟩ := charUnits_append_inj h
      rw [ih hrest]

theorem units_injective : Function.Injective units := fun _ _ h =>
  String.toList_inj.mp (flatMap_charUnits_inj h)

theorem before_iff {left right : String} : before left right = true ↔ units left < units right := by
  unfold before
  rw [decide_eq_true_eq]
  exact Iff.rfl

/-! ### By time, then by text -/

section Order

variable {α : Type} (time : α → ℤ) (text : α → String)

/-- By a time and, at one time, by a text. -/
def timeTextLe (a b : α) : Bool :=
  time a < time b ∨ (time a = time b ∧ ¬ before (text b) (text a))

/-- What the order compares. -/
def timeTextKey (a : α) : ℤ ×ₗ List ℕ := toLex (time a, units (text a))

theorem timeTextLe_iff {a b : α} :
    timeTextLe time text a b = true ↔ timeTextKey time text a ≤ timeTextKey time text b := by
  unfold timeTextLe timeTextKey
  rw [decide_eq_true_eq, before_iff, not_lt, Prod.Lex.toLex_le_toLex]

theorem pairwise_sorted (l : List α) : (l.insertionSort fun a b => timeTextLe time text a b).Pairwise
    fun a b => timeTextLe time text a b := by
  have htotal : Std.Total fun a b : α => timeTextLe time text a b = true := by
    simp only [timeTextLe_iff]
    exact ⟨fun a b => le_total _ _⟩
  have htrans : IsTrans α fun a b => timeTextLe time text a b = true := by
    simp only [timeTextLe_iff]
    exact ⟨fun a b c => le_trans⟩
  exact List.pairwise_insertionSort _ l

/-- **The arrangement is lost**: elements of distinct texts are sorted into one list. -/
theorem sorted_eq_of_perm {l m : List α} (hperm : l.Perm m) (htexts : (l.map text).Nodup) :
    l.insertionSort (fun a b => timeTextLe time text a b) =
      m.insertionSort fun a b => timeTextLe time text a b := by
  have hsorted : (l.insertionSort fun a b => timeTextLe time text a b).Perm
      (m.insertionSort fun a b => timeTextLe time text a b) :=
    (List.perm_insertionSort _ l).trans (hperm.trans (List.perm_insertionSort _ m).symm)
  refine hsorted.eq_of_pairwise (fun a b ha hb hab hba => ?_) (pairwise_sorted time text l)
    (pairwise_sorted time text m)
  have hal : a ∈ l := (List.mem_insertionSort _).mp ha
  have hbl : b ∈ l := hperm.mem_iff.mpr ((List.mem_insertionSort _).mp hb)
  rw [timeTextLe_iff] at hab hba
  have hkey := toLex.injective (le_antisymm hab hba)
  exact List.inj_on_of_nodup_map htexts hal hbl (units_injective (Prod.mk.inj hkey).2)

end Order

end AutoTrade.Lib.TextOrder
