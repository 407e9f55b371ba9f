import Mathlib.Order.Defs.Unbundled

/-! # Programs that await their dependencies

A program is a tree: it has finished with a value, or it awaits an operation and goes on with the
reply. Nothing is said here about what an operation does, so the same program can be run against a
store, next to other programs, or against an environment that answers as it likes.

* `Protocol`: what a caller may await next, as a state that advances with every reply, and the
  replies that can come; `Follows`: a program awaits only what the protocol allows, whatever it is
  answered, and finishes as asked.
* `Async`: programs with exceptions and mutable locals, in which an assignment made before an
  exception survives it. The rules say how `Follows` passes through `>>=`, `catching` and
  `finishing`.
* `Moves`: a part of a program that moves the state of the protocol only within a given relation;
  `Quiet`: one that leaves the locals alone, too; `Fails`: a quiet part that always throws. -/

namespace AutoTrade.Lib.Awaits

inductive Prog (Op : Type) (Reply : Op → Type) (α : Type)
  | done (a : α)
  | call (op : Op) (k : Reply op → Prog Op Reply α)

/-- What a caller in the state `g` may await, the replies an operation can give, and the state a
reply leaves the caller in. -/
structure Protocol (Op : Type) (Reply : Op → Type) (γ : Type) where
  allowed : γ → Op → Prop
  possible : (op : Op) → Reply op → Prop
  next : γ → (op : Op) → Reply op → γ

section Programs

variable {Op : Type} {Reply : Op → Type} {α β γ : Type} {P : Protocol Op Reply γ}

/-- The program awaits nothing any more. -/
def Prog.finished : Prog Op Reply α → Bool
  | .done _ => true
  | .call _ _ => false

def Prog.bind : Prog Op Reply α → (α → Prog Op Reply β) → Prog Op Reply β
  | .done a, f => f a
  | .call op k, f => .call op fun r => (k r).bind f

/-- Every operation the program awaits is allowed, whatever the replies, and the value and the state
it finishes with satisfy `Q`. -/
def Prog.Follows (P : Protocol Op Reply γ) : Prog Op Reply α → γ → (α → γ → Prop) → Prop
  | .done a, g, Q => Q a g
  | .call op k, g, Q =>
    P.allowed g op ∧ ∀ r, P.possible op r → (k r).Follows P (P.next g op r) Q

variable {x : Prog Op Reply α}

theorem Prog.Follows.mono {Q Q' : α → γ → Prop} (hQ : ∀ a g, Q a g → Q' a g) {g : γ}
    (h : x.Follows P g Q) : x.Follows P g Q' := by
  induction x generalizing g with
  | done a => exact hQ a g h
  | call op k ih => exact ⟨h.1, fun r hr => ih r (h.2 r hr)⟩

theorem Prog.follows_bind {Q : β → γ → Prop} {f : α → Prog Op Reply β} {g : γ} :
    (x.bind f).Follows P g Q ↔ x.Follows P g fun a g' => (f a).Follows P g' Q := by
  induction x generalizing g with
  | done a => rfl
  | call op k ih =>
    constructor
    · intro h
      exact ⟨h.1, fun r hr => (ih r).mp (h.2 r hr)⟩
    · intro h
      exact ⟨h.1, fun r hr => (ih r).mpr (h.2 r hr)⟩

/-- The value a program finishes with when its operations are answered so. -/
def Prog.result (answer : (op : Op) → Reply op) : Prog Op Reply α → α
  | .done a => a
  | .call op k => (k (answer op)).result answer

/-- The operations a program awaits when they are answered so, each with the state it is awaited in. -/
def Prog.path (P : Protocol Op Reply γ) (answer : (op : Op) → Reply op) :
    Prog Op Reply α → γ → List (γ × Op)
  | .done _, _ => []
  | .call op k, g => (g, op) :: (k (answer op)).path P answer (P.next g op (answer op))

theorem Prog.Follows.path {Q : α → γ → Prop} {g : γ} (h : x.Follows P g Q)
    {answer : (op : Op) → Reply op} (hpossible : ∀ op, P.possible op (answer op)) :
    ∀ p ∈ x.path P answer g, P.allowed p.1 p.2 := by
  induction x generalizing g with
  | done a => exact fun _ hp => absurd hp List.not_mem_nil
  | call op k ih =>
    intro p hp
    rcases List.mem_cons.mp hp with rfl | hp
    · exact h.1
    · exact ih (answer op) (h.2 _ (hpossible op)) p hp

end Programs

/-! ### Exceptions and locals -/

/-- A program with mutable locals `σ` that returns a value or throws. -/
def Async (Op : Type) (Ans : Op → Type) (ε σ α : Type) : Type :=
  σ → Prog Op (fun op => Except ε (Ans op)) (Except ε α × σ)

namespace Async

variable {Op : Type} {Ans : Op → Type} {ε σ α β γ : Type}

/-- Go on with `f` after a value, and leave with the exception otherwise. -/
def andThen (x : Async Op Ans ε σ α) (f : α → Async Op Ans ε σ β) : Async Op Ans ε σ β :=
  fun s => (x s).bind fun
    | (.ok a, s') => f a s'
    | (.error e, s') => .done (.error e, s')

instance : Monad (Async Op Ans ε σ) where
  pure a := fun s => .done (.ok a, s)
  bind := andThen

def raise (e : ε) : Async Op Ans ε σ α := fun s => .done (.error e, s)

/-- `await` of a dependency; what it throws is thrown here. -/
def await (op : Op) : Async Op Ans ε σ (Ans op) := fun s => .call op fun r => .done (r, s)

def locals : Async Op Ans ε σ σ := fun s => .done (.ok s, s)

def assign (f : σ → σ) : Async Op Ans ε σ Unit := fun s => .done (.ok (), f s)

/-- A value that was computed or threw on the way. -/
def lift (r : Except ε α) : Async Op Ans ε σ α := fun s => .done (r, s)

def catching (x : Async Op Ans ε σ α) (h : ε → Async Op Ans ε σ α) : Async Op Ans ε σ α :=
  fun s => (x s).bind fun
    | (.ok a, s') => .done (.ok a, s')
    | (.error e, s') => h e s'

/-- `try { x } finally { f }`: an exception of `f` replaces the outcome of `x`. -/
def finishing (x : Async Op Ans ε σ α) (f : Async Op Ans ε σ Unit) : Async Op Ans ε σ α :=
  fun s => (x s).bind fun (r, s') => (f s').bind fun
    | (.ok (), s'') => .done (r, s'')
    | (.error e, s'') => .done (.error e, s'')

/-! ### Rules -/

variable (P : Protocol Op (fun op => Except ε (Ans op)) γ)

/-- From the locals `s` and the state `g` of the protocol. -/
def Follows (x : Async Op Ans ε σ α) (s : σ) (g : γ) (Q : Except ε α → σ → γ → Prop) : Prop :=
  (x s).Follows P g fun r g' => Q r.1 r.2 g'

variable {P} {s : σ} {g : γ} {Q : Except ε α → σ → γ → Prop}

variable {x : Async Op Ans ε σ α}

theorem Follows.mono {Q' : Except ε α → σ → γ → Prop} (hQ : ∀ r s g, Q r s g → Q' r s g)
    (h : Follows P x s g Q) : Follows P x s g Q' :=
  Prog.Follows.mono (fun (r : Except ε α × σ) g' => hQ r.1 r.2 g') h

theorem follows_pure {a : α} : Follows P (pure a) s g Q ↔ Q (.ok a) s g := Iff.rfl

theorem follows_lift {r : Except ε α} : Follows P (lift r) s g Q ↔ Q r s g := Iff.rfl

theorem follows_locals {Q : Except ε σ → σ → γ → Prop} :
    Follows P (locals : Async Op Ans ε σ σ) s g Q ↔ Q (.ok s) s g := Iff.rfl

theorem follows_assign {f : σ → σ} {Q : Except ε Unit → σ → γ → Prop} :
    Follows P (assign f : Async Op Ans ε σ Unit) s g Q ↔ Q (.ok ()) (f s) g := Iff.rfl

theorem follows_await {op : Op} {Q : Except ε (Ans op) → σ → γ → Prop} :
    Follows P (await op : Async Op Ans ε σ (Ans op)) s g Q ↔
      P.allowed g op ∧ ∀ r, P.possible op r → Q r s (P.next g op r) := Iff.rfl

variable {f : α → Async Op Ans ε σ β}

theorem follows_bind {Q : Except ε β → σ → γ → Prop} :
    Follows P (x >>= f) s g Q ↔ Follows P x s g fun r s' g' =>
      match r with
      | .ok a => Follows P (f a) s' g' Q
      | .error e => Q (.error e) s' g' := by
  refine Prog.follows_bind.trans (Iff.of_eq ?_)
  unfold Follows
  congr 1
  funext r g'
  obtain ⟨a | e, s'⟩ := r <;> rfl

variable {h : ε → Async Op Ans ε σ α}

theorem follows_catching :
    Follows P (catching x h) s g Q ↔ Follows P x s g fun r s' g' =>
      match r with
      | .ok a => Q (.ok a) s' g'
      | .error e => Follows P (h e) s' g' Q := by
  refine Prog.follows_bind.trans (Iff.of_eq ?_)
  unfold Follows
  congr 1
  funext r g'
  obtain ⟨a | e, s'⟩ := r <;> rfl

theorem follows_finishing {f : Async Op Ans ε σ Unit} :
    Follows P (finishing x f) s g Q ↔ Follows P x s g fun r s' g' =>
      Follows P f s' g' fun r' s'' g'' =>
        match r' with
        | .ok () => Q r s'' g''
        | .error e => Q (.error e) s'' g'' := by
  refine Prog.follows_bind.trans (Iff.of_eq ?_)
  unfold Follows
  congr 1
  funext r g'
  refine propext (Prog.follows_bind.trans (Iff.of_eq ?_))
  congr 1
  funext r' g''
  obtain ⟨_ | e, s''⟩ := r' <;> rfl

/-! ### A part and what comes after it -/

section Steps

variable {f : α → Async Op Ans ε σ β} {Q : Except ε β → σ → γ → Prop}

/-- What the part throws leaves, and its values go on. -/
theorem Follows.andThen {Q' : Except ε α → σ → γ → Prop} (hx : Follows P x s g Q')
    (herror : ∀ e s' g', Q' (.error e) s' g' → Q (.error e) s' g')
    (hok : ∀ a s' g', Q' (.ok a) s' g' → Follows P (f a) s' g' Q) : Follows P (x >>= f) s g Q := by
  refine follows_bind.mpr (hx.mono fun r s' g' hr => ?_)
  cases r with
  | ok a => exact hok a s' g' hr
  | error e => exact herror e s' g' hr

theorem Follows.await_andThen {op : Op} {f : Ans op → Async Op Ans ε σ β} (hallowed : P.allowed g op)
    (herror : ∀ e, P.possible op (.error e) → Q (.error e) s (P.next g op (.error e)))
    (hok : ∀ a, P.possible op (.ok a) → Follows P (f a) s (P.next g op (.ok a)) Q) :
    Follows P (await op >>= f) s g Q := by
  refine follows_bind.mpr (follows_await.mpr ⟨hallowed, fun r hr => ?_⟩)
  cases r with
  | ok a => exact hok a hr
  | error e => exact herror e hr

end Steps

/-! ### Quiet parts -/

variable (P) in
/-- The part leaves the locals alone and moves the protocol only along `R`. -/
def Quiet (R : γ → γ → Prop) (x : Async Op Ans ε σ α) : Prop :=
  ∀ s g, Follows P x s g fun _ s' g' => s' = s ∧ R g g'

variable {R : γ → γ → Prop}

theorem Quiet.follows (h : Quiet P R x) (hQ : ∀ r g', R g g' → Q r s g') : Follows P x s g Q :=
  (h s g).mono fun r s' g' hr => by
    rw [hr.1]
    exact hQ r g' hr.2

theorem Quiet.andThen {Q : Except ε β → σ → γ → Prop} (hx : Quiet P R x)
    (herror : ∀ e g', R g g' → Q (.error e) s g')
    (hok : ∀ a g', R g g' → Follows P (f a) s g' Q) : Follows P (x >>= f) s g Q :=
  (hx s g).andThen (fun e _ g' hr => hr.1 ▸ herror e g' hr.2) fun a _ g' hr => hr.1 ▸ hok a g' hr.2

theorem Quiet.catching_andThen {Q : Except ε β → σ → γ → Prop} (hx : Quiet P R x)
    (herror : ∀ e g', R g g' → Follows P (h e) s g' fun r s' g'' =>
      match r with
      | .ok a => Follows P (f a) s' g'' Q
      | .error e => Q (.error e) s' g'')
    (hok : ∀ a g', R g g' → Follows P (f a) s g' Q) : Follows P (catching x h >>= f) s g Q := by
  refine follows_bind.mpr (follows_catching.mpr (hx.follows fun r g' hg => ?_))
  cases r with
  | ok a => exact hok a g' hg
  | error e => exact herror e g' hg

section Closure

variable [Std.Refl R]

theorem Quiet.pure (a : α) : Quiet P R (Pure.pure a : Async Op Ans ε σ α) :=
  fun _ g => ⟨rfl, refl g⟩

theorem Quiet.raise (e : ε) : Quiet P R (raise e : Async Op Ans ε σ α) :=
  fun _ g => ⟨rfl, refl g⟩

theorem Quiet.lift (r : Except ε α) : Quiet P R (lift r : Async Op Ans ε σ α) :=
  fun _ g => ⟨rfl, refl g⟩

end Closure

theorem Quiet.await {op : Op} (hallowed : ∀ g, P.allowed g op)
    (hnext : ∀ g r, P.possible op r → R g (P.next g op r)) :
    Quiet P R (await op : Async Op Ans ε σ (Ans op)) :=
  fun _ g => ⟨hallowed g, fun r hr => ⟨rfl, hnext g r hr⟩⟩

variable [IsTrans γ R]

theorem Quiet.bind (hx : Quiet P R x) (hf : ∀ a, Quiet P R (f a)) : Quiet P R (x >>= f) := by
  intro s g
  exact hx.andThen (fun _ _ hg => ⟨rfl, hg⟩) fun a _ hg =>
    (hf a).follows fun _ _ hg' => ⟨rfl, IsTrans.trans _ _ _ hg hg'⟩

theorem Quiet.catching (hx : Quiet P R x) (hh : ∀ e, Quiet P R (h e)) :
    Quiet P R (catching x h) := by
  intro s g
  refine follows_catching.mpr (hx.follows fun r g' hg => ?_)
  cases r with
  | ok a => exact ⟨rfl, hg⟩
  | error e => exact (hh e).follows fun _ _ hg' => ⟨rfl, IsTrans.trans _ _ _ hg hg'⟩

variable (P R) in
/-- A quiet part that always throws. -/
def Fails (x : Async Op Ans ε σ α) : Prop :=
  ∀ s g, Follows P x s g fun r s' g' => s' = s ∧ R g g' ∧ ∃ e, r = .error e

omit [IsTrans γ R] in
theorem Fails.follows (h : Fails P R x) (hQ : ∀ e g', R g g' → Q (.error e) s g') :
    Follows P x s g Q :=
  (h s g).mono fun r s' g' hr => by
    obtain ⟨rfl, hg, e, rfl⟩ := hr
    exact hQ e g' hg

omit [IsTrans γ R] in
theorem Fails.quiet (h : Fails P R x) : Quiet P R x :=
  fun _ _ => h.follows fun _ _ hg => ⟨rfl, hg⟩

omit [IsTrans γ R] in
theorem Fails.raise [Std.Refl R] (e : ε) : Fails P R (raise e : Async Op Ans ε σ α) :=
  fun _ g => ⟨rfl, refl g, e, rfl⟩

theorem Fails.after (hx : Quiet P R x) (hf : ∀ a, Fails P R (f a)) : Fails P R (x >>= f) := by
  intro s g
  exact hx.andThen (fun e _ hg => ⟨rfl, hg, e, rfl⟩) fun a _ hg =>
    (hf a).follows fun e _ hg' => ⟨rfl, IsTrans.trans _ _ _ hg hg', e, rfl⟩

/-! ### Parts that may assign -/

variable (P R) in
omit [IsTrans γ R] in
/-- The part moves the protocol only along `R`, whatever it assigns. -/
def Moves (x : Async Op Ans ε σ α) : Prop :=
  ∀ s g, Follows P x s g fun _ _ g' => R g g'

omit [IsTrans γ R] in
theorem Moves.follows (h : Moves P R x) (hQ : ∀ r s' g', R g g' → Q r s' g') : Follows P x s g Q :=
  (h s g).mono fun r s' g' hr => hQ r s' g' hr

omit [IsTrans γ R] in
theorem Moves.andThen {Q : Except ε β → σ → γ → Prop} (hx : Moves P R x)
    (herror : ∀ e s' g', R g g' → Q (.error e) s' g')
    (hok : ∀ a s' g', R g g' → Follows P (f a) s' g' Q) : Follows P (x >>= f) s g Q :=
  (hx s g).andThen herror hok

omit [IsTrans γ R] in
theorem Moves.await {op : Op} (hallowed : ∀ g, P.allowed g op)
    (hnext : ∀ g r, P.possible op r → R g (P.next g op r)) :
    Moves P R (await op : Async Op Ans ε σ (Ans op)) :=
  fun _ g => ⟨hallowed g, fun r hr => hnext g r hr⟩

section Closure

variable [Std.Refl R]

omit [IsTrans γ R] in
theorem Moves.pure (a : α) : Moves P R (Pure.pure a : Async Op Ans ε σ α) := fun _ g => refl g

omit [IsTrans γ R] in
theorem Moves.raise (e : ε) : Moves P R (raise e : Async Op Ans ε σ α) := fun _ g => refl g

omit [IsTrans γ R] in
theorem Moves.lift (r : Except ε α) : Moves P R (lift r : Async Op Ans ε σ α) := fun _ g => refl g

omit [IsTrans γ R] in
theorem Moves.assign (f : σ → σ) : Moves P R (assign f : Async Op Ans ε σ Unit) := fun _ g => refl g

omit [IsTrans γ R] in
theorem Moves.locals : Moves P R (locals : Async Op Ans ε σ σ) := fun _ g => refl g

end Closure

theorem Moves.bind (hx : Moves P R x) (hf : ∀ a, Moves P R (f a)) : Moves P R (x >>= f) := by
  intro s g
  exact hx.andThen (fun _ _ _ hg => hg) fun a _ _ hg =>
    (hf a).follows fun _ _ _ hg' => IsTrans.trans _ _ _ hg hg'

theorem Moves.catching (hx : Moves P R x) (hh : ∀ e, Moves P R (h e)) :
    Moves P R (catching x h) := by
  intro s g
  refine follows_catching.mpr (hx.follows fun r s' g' hg => ?_)
  cases r with
  | ok a => exact hg
  | error e => exact (hh e).follows fun _ _ _ hg' => IsTrans.trans _ _ _ hg hg'

variable (P R) in
omit [IsTrans γ R] in
/-- A part that always throws, whatever it assigns. -/
def Throws (x : Async Op Ans ε σ α) : Prop :=
  ∀ s g, Follows P x s g fun r _ g' => R g g' ∧ ∃ e, r = .error e

omit [IsTrans γ R] in
theorem Throws.raise [Std.Refl R] (e : ε) : Throws P R (raise e : Async Op Ans ε σ α) :=
  fun _ g => ⟨refl g, e, rfl⟩

theorem Throws.after (hx : Moves P R x) (hf : ∀ a, Throws P R (f a)) : Throws P R (x >>= f) := by
  intro s g
  exact hx.andThen (fun e _ _ hg => ⟨hg, e, rfl⟩) fun a s' g' hg =>
    (hf a s' g').mono fun _ _ _ hthrows => ⟨IsTrans.trans _ _ _ hg hthrows.1, hthrows.2⟩

end Async

end AutoTrade.Lib.Awaits
