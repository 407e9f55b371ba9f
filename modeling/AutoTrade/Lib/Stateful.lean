import Mathlib.Data.List.Basic

/-! # Programs that keep their state when they throw

A program of `ExceptT ε (StateM σ)` run from a state: its result and the state it leaves, which is
also there when the result is an error. -/

namespace AutoTrade.Lib.Stateful

variable {ε σ α β : Type}

/-- The result of a program and the state after it. -/
def exec (m : ExceptT ε (StateM σ) α) (s : σ) : Except ε α × σ := m.run.run s

theorem exec_pure (a : α) (s : σ) : exec (pure a : ExceptT ε (StateM σ) α) s = (.ok a, s) := rfl

theorem exec_get (s : σ) : exec (get : ExceptT ε (StateM σ) σ) s = (.ok s, s) := rfl

theorem exec_modify (f : σ → σ) (s : σ) :
    exec (modify f : ExceptT ε (StateM σ) PUnit) s = (.ok ⟨⟩, f s) := rfl

theorem exec_bind (m : ExceptT ε (StateM σ) α) (f : α → ExceptT ε (StateM σ) β) (s : σ) :
    exec (m >>= f) s = match exec m s with
      | (.ok a, s') => exec (f a) s'
      | (.error e, s') => (.error e, s') := by
  unfold exec
  rw [ExceptT.run_bind, StateT.run_bind]
  rcases h : m.run.run s with ⟨r, s'⟩
  cases r <;> rfl

variable {f : α → ExceptT ε (StateM σ) β} {m : ExceptT ε (StateM σ) α}

theorem exec_bind_ok {s s' : σ} {a : α} (h : exec m s = (.ok a, s')) :
    exec (m >>= f) s = exec (f a) s' := by
  rw [exec_bind, h]

theorem exec_bind_error {s s' : σ} {e : ε} (h : exec m s = (.error e, s')) :
    exec (m >>= f) s = (.error e, s') := by
  rw [exec_bind, h]

theorem exec_tryCatch (m : ExceptT ε (StateM σ) α) (handler : ε → ExceptT ε (StateM σ) α) (s : σ) :
    exec (tryCatch m handler) s = match exec m s with
      | (.ok a, s') => (.ok a, s')
      | (.error e, s') => exec (handler e) s' := by
  unfold exec
  rw [ExceptT.run_tryCatch, StateT.run_bind]
  rcases h : m.run.run s with ⟨r, s'⟩
  cases r <;> rfl

end AutoTrade.Lib.Stateful
