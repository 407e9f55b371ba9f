import AutoTrade.Lib.Awaits
import AutoTrade.Lib.Run

/-! # A process that runs one program after the other

The programs of `Awaits` run in a world that nothing else changes meanwhile: an event lets the
process begin its next program, answers the operation it awaits, or restarts it, which loses the
program and its locals and keeps the world.

`Setting.Within` says that a program stays within an invariant of the world and what holds when it
finishes; `Setting.During` is the same for a part of a program with locals, `Setting.Keeps` for a part
that keeps a relation between the locals and the world and throws only what is stated. `System.reach`
is the invariant rule: when every program that begins within `J` ends within `J`, and a restart leads
into it, the world never leaves `I`. -/

namespace AutoTrade.Lib.Sessions

open Lib.Awaits Lib.Run

/-- How an operation acts on the world (`none` when the event cannot happen there), the condition on
the events that is assumed, and the invariant of the world that is shown. -/
structure Setting (Op : Type) (Reply : Op → Type) (W E : Type) where
  perform : W → E → (op : Op) → Option (Reply op × W)
  cond : W → E → Op → Prop
  inv : W → Prop

namespace Setting

section Programs

variable {Op : Type} {Reply : Op → Type} {W E α β : Type} (S : Setting Op Reply W E)

/-- The invariant holds whenever the program awaits an operation, and `Q` when it finishes. -/
def Within : Prog Op Reply α → W → (α → W → Prop) → Prop
  | .done a, w, Q => Q a w
  | .call op k, w, Q =>
    S.inv w ∧ ∀ e r w', S.cond w e op → S.perform w e op = some (r, w') → Within (k r) w' Q

variable {S} {x : Prog Op Reply α}

theorem Within.mono {Q Q' : α → W → Prop} (hQ : ∀ a w, Q a w → Q' a w) {w : W}
    (h : S.Within x w Q) : S.Within x w Q' := by
  induction x generalizing w with
  | done a => exact hQ a w h
  | call op k ih => exact ⟨h.1, fun e r w' hcond hr => ih r (h.2 e r w' hcond hr)⟩

theorem within_bind {Q : β → W → Prop} {f : α → Prog Op Reply β} {w : W} :
    S.Within (x.bind f) w Q ↔ S.Within x w fun a w' => S.Within (f a) w' Q := by
  induction x generalizing w with
  | done a => rfl
  | call op k ih =>
    constructor
    · intro h
      exact ⟨h.1, fun e r w' hcond hr => (ih r).mp (h.2 e r w' hcond hr)⟩
    · intro h
      exact ⟨h.1, fun e r w' hcond hr => (ih r).mpr (h.2 e r w' hcond hr)⟩

end Programs

/-! ### Parts with locals -/

section Parts

variable {Op : Type} {Ans : Op → Type} {ε σ α β W E : Type}
  (S : Setting Op (fun op => Except ε (Ans op)) W E)

/-- From the locals `s` in the world `w`. -/
def During (x : Async Op Ans ε σ α) (s : σ) (w : W) (Q : Except ε α → σ → W → Prop) : Prop :=
  S.Within (x s) w fun r w' => Q r.1 r.2 w'

/-- The relation between the locals and the world holds, and an exception meets `X`. -/
def Post (K : σ → W → Prop) (X : ε → W → Prop) (r : Except ε α) (s : σ) (w : W) : Prop :=
  K s w ∧ ∀ e, r = .error e → X e w

/-- The part keeps the relation between the locals and the world, and what it throws meets `X`. -/
def Keeps (K : σ → W → Prop) (X : ε → W → Prop) (x : Async Op Ans ε σ α) : Prop :=
  ∀ s w, K s w → S.During x s w (Post K X)

variable {S} {s : σ} {w : W} {Q : Except ε α → σ → W → Prop}

variable {x : Async Op Ans ε σ α}

theorem During.mono {Q' : Except ε α → σ → W → Prop} (hQ : ∀ r s w, Q r s w → Q' r s w)
    (h : S.During x s w Q) : S.During x s w Q' :=
  Within.mono (fun (r : Except ε α × σ) w' => hQ r.1 r.2 w') h

theorem during_locals {Q : Except ε σ → σ → W → Prop} :
    S.During (Async.locals : Async Op Ans ε σ σ) s w Q ↔ Q (.ok s) s w := Iff.rfl

theorem during_assign {f : σ → σ} {Q : Except ε Unit → σ → W → Prop} :
    S.During (Async.assign f : Async Op Ans ε σ Unit) s w Q ↔ Q (.ok ()) (f s) w := Iff.rfl

variable {f : α → Async Op Ans ε σ β}

theorem during_bind {Q : Except ε β → σ → W → Prop} :
    S.During (x >>= f) s w Q ↔ S.During x s w fun r s' w' =>
      match r with
      | .ok a => S.During (f a) s' w' Q
      | .error e => Q (.error e) s' w' := by
  refine within_bind.trans (Iff.of_eq ?_)
  unfold During
  congr 1
  funext r w'
  obtain ⟨a | e, s'⟩ := r <;> rfl

variable {h : ε → Async Op Ans ε σ α}

theorem during_catching :
    S.During (Async.catching x h) s w Q ↔ S.During x s w fun r s' w' =>
      match r with
      | .ok a => Q (.ok a) s' w'
      | .error e => S.During (h e) s' w' Q := by
  refine within_bind.trans (Iff.of_eq ?_)
  unfold During
  congr 1
  funext r w'
  obtain ⟨a | e, s'⟩ := r <;> rfl

variable {K : σ → W → Prop} {X X' : ε → W → Prop}

theorem Keeps.weaken (hX : ∀ e w, X e w → X' e w) (h : S.Keeps K X x) : S.Keeps K X' x :=
  fun s w hK => (h s w hK).mono fun _ _ _ hpost =>
    ⟨hpost.1, fun e he => hX e _ (hpost.2 e he)⟩

theorem Keeps.pure (a : α) : S.Keeps K X (Pure.pure a : Async Op Ans ε σ α) :=
  fun _ _ h => ⟨h, fun _ he => by cases he⟩

theorem Keeps.raise {e : ε} (he : ∀ w, X e w) :
    S.Keeps K X (Async.raise e : Async Op Ans ε σ α) := by
  intro s w h
  refine ⟨h, fun e' heq => ?_⟩
  rw [← Except.error.inj heq]
  exact he w

theorem Keeps.locals : S.Keeps K X (Async.locals : Async Op Ans ε σ σ) :=
  fun _ _ h => ⟨h, fun _ he => by cases he⟩

theorem Keeps.assign {f : σ → σ} (hf : ∀ s w, K s w → K (f s) w) :
    S.Keeps K X (Async.assign f : Async Op Ans ε σ Unit) :=
  fun s w h => ⟨hf s w h, fun _ he => by cases he⟩

theorem Keeps.await {op : Op} (hinv : ∀ s w, K s w → S.inv w)
    (hop : ∀ s w e r w', K s w → S.cond w e op → S.perform w e op = some (r, w') →
      Post K X r s w') : S.Keeps K X (Async.await op : Async Op Ans ε σ (Ans op)) :=
  fun s w h => ⟨hinv s w h, fun e r w' hcond hr => hop s w e r w' h hcond hr⟩

theorem During.bind (hx : S.During x s w (Post K X)) (hf : ∀ a, S.Keeps K X (f a)) :
    S.During (x >>= f) s w (Post K X) := by
  refine during_bind.mpr (hx.mono fun r s' w' hpost => ?_)
  rcases r with e | a
  · refine ⟨hpost.1, fun e' he' => ?_⟩
    rw [← Except.error.inj he']
    exact hpost.2 e rfl
  · exact hf a s' w' hpost.1

theorem Keeps.bind (hx : S.Keeps K X x) (hf : ∀ a, S.Keeps K X (f a)) : S.Keeps K X (x >>= f) :=
  fun s w h => (hx s w h).bind hf

theorem During.catching (hx : S.During x s w (Post K X))
    (hh : ∀ e s w, K s w → X e w → S.During (h e) s w (Post K X')) :
    S.During (Async.catching x h) s w (Post K X') := by
  refine during_catching.mpr (hx.mono fun r s' w' hpost => ?_)
  rcases r with e | a
  · exact hh e s' w' hpost.1 (hpost.2 e rfl)
  · exact ⟨hpost.1, fun e he => by cases he⟩

theorem Keeps.catching (hx : S.Keeps K X x)
    (hh : ∀ e s w, K s w → X e w → S.During (h e) s w (Post K X')) :
    S.Keeps K X' (Async.catching x h) :=
  fun s w hK => (hx s w hK).catching hh

end Parts

end Setting

/-! ### The process -/

/-- The program a process begins from its locals, the locals it boots with, how the world answers
and what a restart does to it. -/
structure System (Op : Type) (Reply : Op → Type) (σ W E B : Type) where
  session : σ → Prog Op Reply σ
  boot : σ
  perform : W → E → (op : Op) → Option (Reply op × W)
  reboot : B → W → W

/-- A program that has finished leaves its locals to the next one. -/
structure State (Op : Type) (Reply : Op → Type) (σ W : Type) where
  program : Prog Op Reply σ
  world : W

inductive Event (E B : Type)
  | begin
  | reply (e : E)
  | restart (b : B)

/-- A part of a program, run to its end for its locals. -/
def session {Op : Type} {Ans : Op → Type} {ε σ α : Type} (x : Async Op Ans ε σ α) (s : σ) :
    Prog Op (fun op => Except ε (Ans op)) σ :=
  (x s).bind fun r => .done r.2

namespace System

variable {Op : Type} {Reply : Op → Type} {σ W E B : Type} (M : System Op Reply σ W E B)

/-- An event that cannot happen changes nothing. -/
def step (s : State Op Reply σ W) : Event E B → State Op Reply σ W
  | .begin =>
    match s.program with
    | .done locals => { s with program := M.session locals }
    | .call _ _ => s
  | .reply e =>
    match s.program with
    | .done _ => s
    | .call op k =>
      match M.perform s.world e op with
      | some (r, w) => ⟨k r, w⟩
      | none => s
  | .restart b => ⟨.done M.boot, M.reboot b s.world⟩

def start (w : W) : State Op Reply σ W := ⟨.done M.boot, w⟩

/-- An answered operation meets the condition. -/
def Meets (cond : W → E → Op → Prop) (s : State Op Reply σ W) : Event E B → Prop
  | .begin => True
  | .reply e => ∀ op k, s.program = .call op k → cond s.world e op
  | .restart _ => True

instance Meets.decidable (cond : W → E → Op → Prop) [∀ w e op, Decidable (cond w e op)] :
    (s : State Op Reply σ W) → (event : Event E B) → Decidable (Meets cond s event)
  | _, .begin => isTrue trivial
  | _, .restart _ => isTrue trivial
  | ⟨.done _, _⟩, .reply _ => isTrue fun _ _ h => nomatch h
  | ⟨.call op _, w⟩, .reply e =>
    decidable_of_iff (cond w e op)
      ⟨fun h _ _ heq => (Prog.call.inj heq).1 ▸ h, fun h => h op _ rfl⟩

/-- **The invariant rule.** -/
theorem reach {cond : W → E → Op → Prop} {I : W → Prop} (J : σ → W → Prop)
    (hJ : ∀ s w, J s w → I w) (hreboot : ∀ b w, I w → J M.boot (M.reboot b w))
    (hsession : ∀ s w, J s w →
      Setting.Within ⟨M.perform, cond, I⟩ (M.session s) w J)
    {w : W} (hstart : J M.boot w) {events : List (Event E B)}
    (hsafe : SafeRun M.step (Meets cond) (M.start w) events) :
    I (run M.step (M.start w) events).world := by
  have hinv : ∀ s : State Op Reply σ W,
      Setting.Within ⟨M.perform, cond, I⟩ s.program s.world J → I s.world := by
    rintro ⟨program, w⟩ h
    cases program with
    | done locals => exact hJ locals w h
    | call op k => exact h.1
  refine hinv _ (SafeRun.invariant (fun s : State Op Reply σ W =>
    Setting.Within ⟨M.perform, cond, I⟩ s.program s.world J)
    ?_ hstart hsafe)
  rintro ⟨program, w⟩ event h hmeets
  cases event with
  | begin =>
    cases program with
    | done locals => exact hsession locals w h
    | call op k => exact h
  | reply e =>
    cases program with
    | done locals => exact h
    | call op k =>
      rcases hr : M.perform w e op with _ | ⟨r, w'⟩
      · simpa [step, hr] using h
      · simpa [step, hr] using h.2 e r w' (hmeets op k rfl) hr
  | restart b => exact hreboot b w (hinv _ h)

end System

theorem within_session {Op : Type} {Ans : Op → Type} {ε σ α W E : Type}
    {S : Setting Op (fun op => Except ε (Ans op)) W E} {x : Async Op Ans ε σ α} {s : σ} {w : W}
    {J : σ → W → Prop} : S.Within (session x s) w J ↔ S.During x s w fun _ s' w' => J s' w' :=
  Setting.within_bind

end AutoTrade.Lib.Sessions
