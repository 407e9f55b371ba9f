import Mathlib.Data.List.Sort
import Mathlib.Data.String.Basic

/-! # The latest record

Records are looked up by sorting them on a text, the greatest first, and taking the first. Texts are
compared by a collation: `localeCompare`, or the order of their bytes.

`head_latestFirst_iff`: the record found is the first one saved among those with the greatest text. -/

namespace AutoTrade.Lib.Latest

variable {α : Type*}

/-! ### Collations -/

/-- The texts have the same length, and at every place the same character or two digits. -/
def SameShape (left right : List Char) : Prop :=
  List.Forall₂ (fun a b => a = b ∨ (a.isDigit = true ∧ b.isDigit = true)) left right

/-- A consistent comparison of texts, in which digits are ordered by their value. -/
structure Collation where
  compare : String → String → ℤ
  swap : ∀ left right, 0 < compare left right ↔ compare right left < 0
  trans : ∀ a b c, compare a b ≤ 0 → compare b c ≤ 0 → compare a c ≤ 0
  digits : ∀ left right, SameShape left.toList right.toList →
    (compare left right < 0 ↔ left.toList < right.toList)

namespace Collation

variable (order : Collation)

/-- The order of the bytes of the texts in UTF-8, which is the order of their characters. -/
def bytes : Collation where
  compare left right :=
    if left.toList < right.toList then -1 else if left.toList = right.toList then 0 else 1
  swap left right := by
    rcases lt_trichotomy left.toList right.toList with h | h | h
    · simp [h, not_lt_of_gt h, h.ne']
    · simp [h]
    · simp [h, not_lt_of_gt h, h.ne']
  trans a b c hab hbc := by
    have hle : ∀ left right : String, (if left.toList < right.toList then (-1 : ℤ)
        else if left.toList = right.toList then 0 else 1) ≤ 0 ↔ left.toList ≤ right.toList := by
      intro left right
      rcases lt_trichotomy left.toList right.toList with h | h | h
      · simp [h, h.le]
      · simp [h]
      · simp [not_lt_of_gt h, h.ne', not_le_of_gt h]
    rw [hle] at hab hbc ⊢
    exact le_trans hab hbc
  digits left right _ := by
    split_ifs <;> simp_all

end Collation

/-! ### The lookup -/

/-- `rows.sort((left, right) => compare(key(right), key(left)))`. -/
def latestFirst (order : Collation) (key : α → String) (rows : List α) : List α :=
  rows.insertionSort fun a b => order.compare (key b) (key a) ≤ 0

variable {order : Collation} {key : α → String}

theorem head_latestFirst_cons (row : α) (rows : List α) :
    (latestFirst order key (row :: rows)).head? =
      match (latestFirst order key rows).head? with
      | none => some row
      | some latest => if order.compare (key latest) (key row) ≤ 0 then some row else some latest := by
  have hcons : latestFirst order key (row :: rows) =
      (latestFirst order key rows).orderedInsert (fun a b => order.compare (key b) (key a) ≤ 0) row :=
    rfl
  rw [hcons]
  cases latestFirst order key rows with
  | nil => rfl
  | cons latest rest =>
    rw [List.orderedInsert]
    dsimp only [List.head?_cons]
    split_ifs <;> rfl

/-- **The record found** is later than those saved before it, and those saved after it are not later. -/
theorem head_latestFirst_iff {rows : List α} {latest : α} :
    (latestFirst order key rows).head? = some latest ↔
      ∃ before after, rows = before ++ latest :: after ∧
        (∀ row ∈ before, order.compare (key row) (key latest) < 0) ∧
        ∀ row ∈ after, order.compare (key row) (key latest) ≤ 0 := by
  induction rows generalizing latest with
  | nil =>
    constructor
    · intro h
      cases h
    · rintro ⟨before, after, h, -⟩
      simp at h
  | cons row rows ih =>
    rw [head_latestFirst_cons]
    constructor
    · intro h
      split at h
      · rename_i hnone
        obtain rfl := Option.some.inj h
        have hempty : rows = [] := by
          cases rows with
          | nil => rfl
          | cons other rest =>
            rw [head_latestFirst_cons] at hnone
            split at hnone
            · cases hnone
            · split at hnone
              · cases hnone
              · cases hnone
        exact ⟨[], rows, rfl, by simp, by simp [hempty]⟩
      · rename_i found hfound
        obtain ⟨before, after, hrows, hbefore, hafter⟩ := ih.mp hfound
        split_ifs at h with hle
        · obtain rfl := Option.some.inj h
          refine ⟨[], rows, rfl, by simp, ?_⟩
          rw [hrows]
          intro other hother
          rcases List.mem_append.mp hother with hother | hother
          · exact order.trans _ _ _ (hbefore other hother).le hle
          · rcases List.mem_cons.mp hother with rfl | hother
            · exact hle
            · exact order.trans _ _ _ (hafter other hother) hle
        · obtain rfl := Option.some.inj h
          refine ⟨row :: before, after, by rw [hrows, List.cons_append], ?_, hafter⟩
          intro other hother
          rcases List.mem_cons.mp hother with hother | hother
          · rw [hother]
            have := order.swap (key found) (key row)
            omega
          · exact hbefore other hother
    · rintro ⟨before, after, hrows, hbefore, hafter⟩
      cases before with
      | nil =>
        obtain ⟨rfl, rfl⟩ := List.cons.inj hrows
        split
        · rfl
        · rename_i found hfound
          obtain ⟨front, back, hsplit, -⟩ := ih.mp hfound
          rw [if_pos (hafter found (by rw [hsplit]; simp))]
      | cons other before =>
        obtain ⟨rfl, hrest⟩ := List.cons.inj hrows
        have hfound := ih.mpr ⟨before, after, hrest,
          fun row hrow => hbefore row (List.mem_cons_of_mem _ hrow), hafter⟩
        have hless := hbefore row List.mem_cons_self
        have hnot : ¬ order.compare (key latest) (key row) ≤ 0 := by
          have := order.swap (key latest) (key row)
          omega
        rw [hfound]
        exact if_neg hnot

theorem head_latestFirst_of_lt {rows before after : List α} {latest : α}
    (hrows : rows = before ++ latest :: after)
    (h : ∀ row ∈ before ++ after, order.compare (key row) (key latest) < 0) :
    (latestFirst order key rows).head? = some latest :=
  head_latestFirst_iff.mpr ⟨before, after, hrows,
    fun row hrow => h row (List.mem_append_left _ hrow),
    fun row hrow => (h row (List.mem_append_right _ hrow)).le⟩

end AutoTrade.Lib.Latest
