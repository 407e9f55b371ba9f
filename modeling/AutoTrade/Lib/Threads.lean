import AutoTrade.Lib.Awaits
import AutoTrade.Lib.Run

/-! # Programs next to each other

Any number of programs over one shared state: an event starts a program or performs the operation
that a program awaits, so the programs are interleaved at their awaits in every way. Each program
carries the state of its protocol along.

When every program follows the protocol from its start, an invariant of the shared state and the
protocol states holds in every state reached, provided the operations the protocol allows keep it:
`Machine.reach`, which takes a condition on the steps as `Lib.Run` does. -/

namespace AutoTrade.Lib.Threads

open Lib.Awaits Lib.Run

/-- How programs start and how an operation acts: `perform` answers `none` when the event cannot
happen there. -/
structure Machine (Op : Type) (Reply : Op → Type) (α γ W E A : Type) where
  protocol : Protocol Op Reply γ
  start : A → Prog Op Reply α
  ghost : A → γ
  perform : W → E → (op : Op) → Option (Reply op × W)

structure Thread (Op : Type) (Reply : Op → Type) (α γ : Type) where
  program : Prog Op Reply α
  ghost : γ

structure State (Op : Type) (Reply : Op → Type) (α γ W : Type) where
  shared : W
  threads : List (Thread Op Reply α γ)

inductive Event (E A : Type)
  | start (a : A)
  | resume (i : ℕ) (e : E)

variable {Op : Type} {Reply : Op → Type} {α γ W E A : Type}

def State.ghosts (s : State Op Reply α γ W) : List γ := s.threads.map Thread.ghost

namespace Machine

variable (M : Machine Op Reply α γ W E A)

/-- An event without a program that awaits something, or that cannot happen, changes nothing. -/
def step (s : State Op Reply α γ W) : Event E A → State Op Reply α γ W
  | .start a => { s with threads := s.threads ++ [⟨M.start a, M.ghost a⟩] }
  | .resume i e =>
    match s.threads[i]? with
    | some ⟨.call op k, g⟩ =>
      match M.perform s.shared e op with
      | some (r, w) => ⟨w, s.threads.set i ⟨k r, M.protocol.next g op r⟩⟩
      | none => s
    | _ => s

/-- The operation awaited by a resumed program meets `cond`. -/
def StepMeets (cond : W → E → γ → Op → Prop) (s : State Op Reply α γ W) : Event E A → Prop
  | .start _ => True
  | .resume i e => ∀ op k g, s.threads[i]? = some ⟨.call op k, g⟩ → cond s.shared e g op

instance StepMeets.decidable (cond : W → E → γ → Op → Prop)
    [∀ w e g op, Decidable (cond w e g op)] (s : State Op Reply α γ W) :
    (event : Event E A) → Decidable (StepMeets cond s event)
  | .start _ => isTrue trivial
  | .resume i e =>
    match h : s.threads[i]? with
    | some ⟨.call op k, g⟩ =>
      decidable_of_iff (cond s.shared e g op) (by
        constructor
        · intro hc op' k' g' h'
          rw [h] at h'
          cases Option.some.inj h'
          exact hc
        · intro hc
          exact hc op k g h)
    | some ⟨.done a, g⟩ => isTrue fun op k g' h' => by
        rw [h] at h'
        cases Option.some.inj h'
    | none => isTrue fun op k g' h' => by
        rw [h] at h'
        cases h'

/-- Every program awaits only what its protocol state allows, now and later. -/
def Disciplined (s : State Op Reply α γ W) : Prop :=
  ∀ (i : ℕ) (t : Thread Op Reply α γ), s.threads[i]? = some t →
    t.program.Follows M.protocol t.ghost fun _ _ => True

variable {M}

/-- What an event can do. -/
theorem step_cases (s : State Op Reply α γ W) (event : Event E A) :
    M.step s event = s ∨
    (∃ a, event = .start a ∧
      M.step s event = { s with threads := s.threads ++ [⟨M.start a, M.ghost a⟩] }) ∨
    (∃ i e op k g r w, event = .resume i e ∧ s.threads[i]? = some ⟨.call op k, g⟩ ∧
      M.perform s.shared e op = some (r, w) ∧
      M.step s event = ⟨w, s.threads.set i ⟨k r, M.protocol.next g op r⟩⟩) := by
  cases event with
  | start a => exact Or.inr (Or.inl ⟨a, rfl, rfl⟩)
  | resume i e =>
    cases ht : s.threads[i]? with
    | none =>
      left
      simp [step, ht]
    | some t =>
      obtain ⟨program, g⟩ := t
      cases program with
      | done a =>
        left
        simp [step, ht]
      | call op k =>
        cases hp : M.perform s.shared e op with
        | none =>
          left
          simp [step, ht, hp]
        | some rw =>
          obtain ⟨r, w⟩ := rw
          refine Or.inr (Or.inr ⟨i, e, op, k, g, r, w, rfl, ht, hp, ?_⟩)
          simp [step, ht, hp]

theorem step_disciplined (hstart : ∀ a, (M.start a).Follows M.protocol (M.ghost a) fun _ _ => True)
    (hpossible : ∀ w e op r w', M.perform w e op = some (r, w') → M.protocol.possible op r)
    {s : State Op Reply α γ W} (h : M.Disciplined s) (event : Event E A) :
    M.Disciplined (M.step s event) := by
  obtain heq | ⟨a, -, heq⟩ | ⟨i, e, op, k, g, r, w, -, ht, hp, heq⟩ := step_cases (M := M) s event
  · rw [heq]
    exact h
  · rw [heq]
    intro j t hj
    rcases List.mem_append.mp (List.mem_of_getElem? hj) with hold | hnew
    · obtain ⟨j', hj'⟩ := List.getElem?_of_mem hold
      exact h j' t hj'
    · rw [List.mem_singleton.mp hnew]
      exact hstart a
  · rw [heq]
    intro j t hj
    rcases List.mem_or_eq_of_mem_set (List.mem_of_getElem? hj) with hold | hnew
    · obtain ⟨j', hj'⟩ := List.getElem?_of_mem hold
      exact h j' t hj'
    · rw [hnew]
      exact (h i ⟨.call op k, g⟩ ht).2 r (hpossible s.shared e op r w hp)

/-- **The invariant rule.** Every program follows its protocol from its start, and each operation
that the protocol allows, and that meets `cond`, keeps `I`. -/
theorem reach (hstart : ∀ a, (M.start a).Follows M.protocol (M.ghost a) fun _ _ => True)
    (hpossible : ∀ w e op r w', M.perform w e op = some (r, w') → M.protocol.possible op r)
    (cond : W → E → γ → Op → Prop) (I : W → List γ → Prop)
    (hspawn : ∀ w gs a, I w gs → I w (gs ++ [M.ghost a]))
    (hperform : ∀ w gs i g e op r w', I w gs → gs[i]? = some g → M.protocol.allowed g op →
      cond w e g op → M.perform w e op = some (r, w') → I w' (gs.set i (M.protocol.next g op r)))
    {w : W} (hw : I w []) {events : List (Event E A)}
    (hrun : SafeRun M.step (StepMeets cond) ⟨w, []⟩ events) :
    M.Disciplined (run M.step ⟨w, []⟩ events) ∧
      I (run M.step ⟨w, []⟩ events).shared (run M.step ⟨w, []⟩ events).ghosts := by
  refine SafeRun.invariant (fun s => M.Disciplined s ∧ I s.shared s.ghosts) ?_ ?_ hrun
  · rintro s event ⟨hd, hI⟩ hsafe
    refine ⟨step_disciplined hstart hpossible hd event, ?_⟩
    obtain heq | ⟨a, -, heq⟩ | ⟨i, e, op, k, g, r, w', rfl, ht, hp, heq⟩ :=
      step_cases (M := M) s event
    · rw [heq]
      exact hI
    · rw [heq]
      simpa [State.ghosts] using hspawn s.shared s.ghosts a hI
    · have hg : s.ghosts[i]? = some g := by simp [State.ghosts, ht]
      have hall : M.protocol.allowed g op := (hd i ⟨.call op k, g⟩ ht).1
      have hkeep := hperform s.shared s.ghosts i g e op r w' hI hg hall (hsafe op k g ht) hp
      rw [heq]
      simpa [State.ghosts, List.map_set] using hkeep
  · exact ⟨fun i t h => by simp at h, hw⟩

end Machine

end AutoTrade.Lib.Threads
