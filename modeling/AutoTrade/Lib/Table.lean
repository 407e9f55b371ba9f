import Mathlib.Data.List.Nodup

/-! # Keyed tables

A table is the list of its rows in insertion order. The operations are the statements a repository
runs on it: the first row of a key, an update of the rows that satisfy a condition, an insertion that
a unique key may refuse, and the newest row that satisfies a condition. -/

namespace AutoTrade.Lib.Table

variable {α κ : Type*} [DecidableEq κ] (key : α → κ)

/-- `SELECT … WHERE key = k LIMIT 1`. -/
def select (k : κ) (rows : List α) : Option α := rows.find? fun r => key r = k

/-- `UPDATE … SET … WHERE p`. -/
def update (p : α → Bool) (f : α → α) (rows : List α) : List α :=
  rows.map fun r => if p r then f r else r

/-- `INSERT` under the unique key: the rows with the new one, unless its key is taken. -/
def insert (r : α) (rows : List α) : Option (List α) :=
  if (select key (key r) rows).isSome then none else some (rows ++ [r])

/-- `INSERT … ON CONFLICT(key) DO UPDATE`. -/
def upsert (r : α) (rows : List α) : List α :=
  if (select key (key r) rows).isSome then update (fun s => key s = key r) (fun _ => r) rows
  else rows ++ [r]

/-- The row inserted last among those that satisfy `p`. -/
def newest (p : α → Bool) (rows : List α) : Option α := (rows.filter p).getLast?

variable {key}

variable {k : κ} {r : α} {rows : List α}

theorem key_of_select (h : select key k rows = some r) : key r = k := by
  have := List.find?_some h
  simpa using this

theorem mem_of_select (h : select key k rows = some r) :
    r ∈ rows := List.mem_of_find?_eq_some h

theorem select_cons (k : κ) (r : α) (rows : List α) :
    select key k (r :: rows) = if key r = k then some r else select key k rows := by
  unfold select
  by_cases h : key r = k <;> simp [h]

theorem select_append (k : κ) (rows rows' : List α) :
    select key k (rows ++ rows') = (select key k rows).or (select key k rows') :=
  List.find?_append

variable {p : α → Bool}

theorem select_update {f : α → α} (hf : ∀ r, key (f r) = key r) (k : κ) (rows : List α) :
    select key k (update p f rows) =
      (select key k rows).map fun r => if p r then f r else r := by
  induction rows with
  | nil => rfl
  | cons r rows ih =>
    have hkey : key (if p r then f r else r) = key r := by
      split
      · exact hf r
      · rfl
    have hcons : update p f (r :: rows) = (if p r then f r else r) :: update p f rows := rfl
    rw [hcons, select_cons, select_cons, ih, hkey]
    by_cases h : key r = k
    · simp [h]
    · simp [h]

theorem select_overwrite (r : α) (k : κ) (rows : List α) :
    select key k (update (fun s => key s = key r) (fun _ => r) rows) =
      if key r = k then (select key k rows).map fun _ => r else select key k rows := by
  induction rows with
  | nil => simp [select, update]
  | cons s rows ih =>
    have hcons : update (fun s => key s = key r) (fun _ => r) (s :: rows) =
        (if key s = key r then r else s) :: update (fun s => key s = key r) (fun _ => r) rows := by
      simp [update]
    rw [hcons, select_cons, select_cons, ih]
    by_cases hs : key s = key r
    · by_cases hk : key r = k
      · simp [hs, hk]
      · simp [hs, hk]
    · by_cases hk : key r = k
      · have hsk : key s ≠ k := fun h => hs (h.trans hk.symm)
        simp [hk, hsk]
      · simp [hs, hk]

theorem select_upsert (r : α) (k : κ) (rows : List α) :
    select key k (upsert key r rows) = if key r = k then some r else select key k rows := by
  unfold upsert
  by_cases hk : key r = k
  · subst hk
    cases h : select key (key r) rows with
    | some s => simp [select_overwrite, h]
    | none => simp [select_append, h, select_cons]
  · rw [if_neg hk]
    cases h : select key (key r) rows with
    | some s => simp [select_overwrite, hk]
    | none => simp [hk, select]

theorem mem_upsert {r s : α} (h : s ∈ upsert key r rows) : s = r ∨ (s ∈ rows ∧ key s ≠ key r) := by
  unfold upsert at h
  split_ifs at h with hsome
  · obtain ⟨old, hold, rfl⟩ := List.mem_map.mp h
    by_cases hkey : key old = key r
    · simp [hkey]
    · simp [hkey, hold]
  · rcases List.mem_append.mp h with hold | hnew
    · refine Or.inr ⟨hold, fun hkey => hsome ?_⟩
      exact List.find?_isSome.mpr ⟨s, hold, by simpa using hkey⟩
    · exact Or.inl (List.mem_singleton.mp hnew)

/-- A key of at most one row has exactly the new row after an upsert. -/
theorem filter_upsert (h : (rows.filter fun s => key s = key r).length ≤ 1) :
    (upsert key r rows).filter (fun s => key s = key r) = [r] := by
  have hselect : select key (key r) rows = (rows.filter fun s => key s = key r).head? :=
    (List.head?_filter ..).symm
  unfold upsert
  rw [hselect]
  rcases hrows : rows.filter (fun s => key s = key r) with _ | ⟨s, rest⟩
  · simp [List.filter_append, hrows]
  · have hrest : rest = [] := by
      rw [hrows, List.length_cons] at h
      exact List.eq_nil_of_length_eq_zero (by omega)
    have hmap : (update (fun s => key s = key r) (fun _ => r) rows).filter (fun s => key s = key r) =
        (rows.filter fun s => key s = key r).map fun _ => r := by
      unfold update
      rw [List.filter_map]
      have hkey : ((fun s => decide (key s = key r)) ∘ fun s =>
          if decide (key s = key r) = true then r else s) = fun s => decide (key s = key r) := by
        funext s
        by_cases hs : key s = key r
        · simp [hs]
        · simp [hs]
      rw [hkey]
      refine List.map_congr_left fun s hs => ?_
      rw [if_pos (List.mem_filter.mp hs).2]
    simp [hmap, hrows, hrest]

theorem filter_key_eq_singleton (h : (rows.map key).Nodup) (hr : r ∈ rows) :
    rows.filter (fun s => key s = key r) = [r] := by
  induction rows with
  | nil => simp at hr
  | cons s rows ih =>
    rw [List.map_cons, List.nodup_cons] at h
    rcases List.mem_cons.mp hr with rfl | hmem
    · have hrest : rows.filter (fun s => key s = key r) = [] :=
        List.filter_eq_nil_iff.mpr fun s hs => by
          simpa using fun heq : key s = key r => h.1 (heq ▸ List.mem_map_of_mem hs)
      simp [hrest]
    · have hne : key s ≠ key r := fun heq => h.1 (heq ▸ List.mem_map_of_mem hmem)
      rw [List.filter_cons_of_neg (by simpa using hne)]
      exact ih h.2 hmem

theorem select_of_mem (h : (rows.map key).Nodup) (hr : r ∈ rows) :
    select key (key r) rows = some r := by
  have hhead : select key (key r) rows = (rows.filter fun s => key s = key r).head? :=
    (List.head?_filter ..).symm
  rw [hhead, filter_key_eq_singleton h hr]
  rfl

theorem length_filter_key (h : (rows.map key).Nodup) (k : κ) (q : α → Bool) :
    (rows.filter fun r => key r = k ∧ q r).length = if (select key k rows).any q then 1 else 0 := by
  have hsplit : rows.filter (fun r => decide (key r = k ∧ q r)) =
      (rows.filter fun r => key r = k).filter q := by
    rw [List.filter_filter]
    refine List.filter_congr fun r _ => ?_
    by_cases hr : key r = k <;> simp [hr]
  rw [hsplit]
  cases hselect : select key k rows with
  | none =>
    have hnil : rows.filter (fun r => key r = k) = [] :=
      List.filter_eq_nil_iff.mpr (List.find?_eq_none.mp hselect)
    simp [hnil]
  | some r =>
    have hrow := filter_key_eq_singleton h (mem_of_select hselect)
    rw [key_of_select hselect] at hrow
    rw [hrow]
    by_cases hq : q r = true <;> simp [hq]

theorem select_filter_of_none (h : select key k rows = none) (p : α → Bool) :
    select key k (rows.filter p) = none := by
  have hnone := List.find?_eq_none.mp h
  exact List.find?_eq_none.mpr fun r hr => hnone r (List.mem_of_mem_filter hr)

theorem select_filter_of_some (h : (rows.map key).Nodup) (hr : select key k rows = some r)
    (hp : p r = true) : select key k (rows.filter p) = some r := by
  have hsub : ((rows.filter p).map key).Nodup := h.sublist (List.filter_sublist.map key)
  have hkept := select_of_mem hsub (List.mem_filter.mpr ⟨mem_of_select hr, hp⟩)
  rw [key_of_select hr] at hkept
  exact hkept

/-- Deleting the row of a unique key that satisfies a condition. -/
theorem select_delete (h : (rows.map key).Nodup) (k : κ) (q : α → Bool) (j : κ) :
    select key j (rows.filter fun r => !decide (key r = k ∧ q r)) =
      if j = k then (select key k rows).filter fun r => !q r else select key j rows := by
  by_cases hj : j = k
  · subst hj
    rw [if_pos rfl]
    cases hselect : select key j rows with
    | none => exact select_filter_of_none hselect _
    | some r =>
      have hkey := key_of_select hselect
      by_cases hq : q r = true
      · have hgone : select key j (rows.filter fun r => !decide (key r = j ∧ q r)) = none := by
          refine List.find?_eq_none.mpr fun s hs hsj => ?_
          obtain ⟨hmem, hcond⟩ := List.mem_filter.mp hs
          have hsj' : key s = j := by simpa using hsj
          have hs' := select_of_mem h hmem
          rw [hsj', hselect] at hs'
          rw [← Option.some.inj hs'] at hcond
          simp [hkey, hq] at hcond
        rw [hgone, Option.filter_some]
        simp [hq]
      · rw [select_filter_of_some h hselect (by simp [hq]), Option.filter_some]
        simp [hq]
  · rw [if_neg hj]
    cases hselect : select key j rows with
    | none => exact select_filter_of_none hselect _
    | some r =>
      have hne : key r ≠ k := fun heq => hj ((key_of_select hselect).symm.trans heq)
      exact select_filter_of_some h hselect (by simp [hne])

theorem nodup_append_of_fresh (h : (rows.map key).Nodup) (hr : select key (key r) rows = none) :
    ((rows ++ [r]).map key).Nodup := by
  rw [List.map_append, List.nodup_append]
  refine ⟨h, List.nodup_singleton _, ?_⟩
  intro k hk k' hk' heq
  obtain ⟨s, hs, rfl⟩ := List.mem_map.mp hk
  have hk'' : k' = key r := List.mem_singleton.mp hk'
  have hfree := List.find?_eq_none.mp hr s hs
  rw [heq, hk''] at hfree
  simp at hfree

theorem insert_eq_some {rows rows' : List α} :
    insert key r rows = some rows' ↔ select key (key r) rows = none ∧ rows' = rows ++ [r] := by
  unfold insert
  cases h : select key (key r) rows with
  | none => simp [eq_comm]
  | some s => simp

theorem newest_append_of_pos (h : p r = true) (rows : List α) :
    newest p (rows ++ [r]) = some r := by
  unfold newest
  simp [List.filter_append, h]

theorem newest_append_of_neg (h : p r = false) (rows : List α) :
    newest p (rows ++ [r]) = newest p rows := by
  unfold newest
  simp [List.filter_append, h]

end AutoTrade.Lib.Table
