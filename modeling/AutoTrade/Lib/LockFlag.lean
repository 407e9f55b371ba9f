import Mathlib.Data.List.Basic

/-! # A flag used as a lock

A flag that workers raise when they start and lower when they are done, beside the number of workers
that raised it and have not lowered it. `Move` is what one step can do to the pair. A step that
`clears` lowers the flag for a worker that is still there, a step that `strands` lets a worker go
without lowering it. -/

namespace AutoTrade.Lib.LockFlag

/-- The flag, and how many workers hold it. -/
structure Flag where
  raised : Bool
  holders : ℕ

/-- A raised flag has a holder. -/
def Backed (f : Flag) : Prop := f.raised = true → 0 < f.holders

/-- The flag is raised for exactly one holder, and lowered without one. -/
def Exact (f : Flag) : Prop := f.holders = if f.raised then 1 else 0

/-- What a step does to the flag. -/
inductive Move (clears strands : Prop) (f f' : Flag) : Prop
  | stay (h : f' = f)
  | mark (hdown : f.raised = false) (hup : f'.raised = true) (hn : f'.holders = f.holders + 1)
  | lower (hdown : f'.raised = false) (hn : f.holders = f'.holders + 1)
  | clear (hc : clears) (hdown : f'.raised = false) (hn : f'.holders = f.holders)
  | strand (hs : strands)

variable {clears strands : Prop} {f f' : Flag}

theorem Move.backed (h : Move clears strands f f') (hs : ¬ strands) (hf : Backed f) :
    Backed f' := by
  intro hup
  rcases h with h | ⟨_, _, hn⟩ | ⟨hdown, _⟩ | ⟨_, hdown, _⟩ | h
  · rw [h] at hup ⊢
    exact hf hup
  · omega
  · rw [hdown] at hup
    cases hup
  · rw [hdown] at hup
    cases hup
  · exact absurd h hs

theorem Move.exact (h : Move clears strands f f') (hc : clears → f.holders = 0) (hs : ¬ strands)
    (hf : Exact f) : Exact f' := by
  unfold Exact at hf ⊢
  rcases h with h | ⟨hdown, hup, hn⟩ | ⟨hdown, hn⟩ | ⟨hcl, hdown, hn⟩ | h
  · rw [h, hf]
  · rw [hn, hup, hf, hdown]
    rfl
  · have hone : f.holders ≤ 1 := by
      rw [hf]
      split <;> omega
    rw [hdown]
    show f'.holders = 0
    omega
  · rw [hdown, hn, hc hcl]
    rfl
  · exact absurd h hs

/-- Two members at which a predicate of count at most one holds are the same member. -/
theorem index_unique_of_countP_le_one {α : Type*} {p : α → Bool} {l : List α}
    (h : l.countP p ≤ 1) {i j : ℕ} {a b : α} (ha : l[i]? = some a) (hb : l[j]? = some b)
    (hpa : p a = true) (hpb : p b = true) : i = j := by
  induction l generalizing i j with
  | nil => simp at ha
  | cons x l ih =>
    rw [List.countP_cons] at h
    cases i with
    | zero =>
      cases j with
      | zero => rfl
      | succ j =>
        have hx : x = a := by simpa using ha
        have hpos : 0 < l.countP p :=
          List.countP_pos_iff.mpr ⟨b, List.mem_of_getElem? (by simpa using hb), hpb⟩
        rw [hx, if_pos hpa] at h
        omega
    | succ i =>
      cases j with
      | zero =>
        have hx : x = b := by simpa using hb
        have hpos : 0 < l.countP p :=
          List.countP_pos_iff.mpr ⟨a, List.mem_of_getElem? (by simpa using ha), hpa⟩
        rw [hx, if_pos hpb] at h
        omega
      | succ j =>
        have htail : l.countP p ≤ 1 := by omega
        exact congrArg (· + 1) (ih htail (by simpa using ha) (by simpa using hb))

end AutoTrade.Lib.LockFlag
