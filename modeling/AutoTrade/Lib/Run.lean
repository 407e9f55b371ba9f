import Mathlib.Data.List.Basic

/-! # Runs of a step function

A system is a step function on states, a run the left fold of a list of events. An invariant that
every step keeps holds after every run; when only the steps that meet a condition keep it, it holds
after every run all of whose steps meet the condition. -/

namespace AutoTrade.Lib.Run

variable {σ ε : Type*} (step : σ → ε → σ)

/-- The state after the events `es`. -/
def run (s : σ) (es : List ε) : σ := es.foldl step s

@[simp] theorem run_nil (s : σ) : run step s [] = s := rfl

@[simp] theorem run_cons (s : σ) (e : ε) (es : List ε) :
    run step s (e :: es) = run step (step s e) es := rfl

theorem run_append (s : σ) (es fs : List ε) :
    run step s (es ++ fs) = run step (run step s es) fs := List.foldl_append

/-- Every step of the run meets `Safe` in the state it is taken in. -/
def SafeRun (Safe : σ → ε → Prop) : σ → List ε → Prop
  | _, [] => True
  | s, e :: es => Safe s e ∧ SafeRun Safe (step s e) es

instance SafeRun.decidable (Safe : σ → ε → Prop) [∀ s e, Decidable (Safe s e)] :
    (s : σ) → (es : List ε) → Decidable (SafeRun step Safe s es)
  | _, [] => isTrue trivial
  | s, e :: es =>
    have := SafeRun.decidable Safe (step s e) es
    inferInstanceAs (Decidable (Safe s e ∧ SafeRun step Safe (step s e) es))

variable {step}

variable {Safe : σ → ε → Prop} {s : σ}

theorem safeRun_append {es fs : List ε} :
    SafeRun step Safe s (es ++ fs) ↔
      SafeRun step Safe s es ∧ SafeRun step Safe (run step s es) fs := by
  induction es generalizing s with
  | nil => simp [SafeRun]
  | cons e es ih => simp [SafeRun, ih, and_assoc]

theorem safeRun_of_forall (h : ∀ s e, Safe s e) (s : σ) (es : List ε) : SafeRun step Safe s es := by
  induction es generalizing s with
  | nil => trivial
  | cons e es ih => exact ⟨h s e, ih (step s e)⟩

variable {es : List ε}

theorem safeRun_of_mem {P : ε → Prop} (hsafe : ∀ s e, P e → Safe s e) (h : ∀ e ∈ es, P e) :
    SafeRun step Safe s es := by
  induction es generalizing s with
  | nil => trivial
  | cons e es ih =>
    obtain ⟨he, hes⟩ := List.forall_mem_cons.mp h
    exact ⟨hsafe s e he, ih hes⟩

theorem exists_unsafe_step (h : ¬ SafeRun step Safe s es) :
    ∃ pre e post, es = pre ++ e :: post ∧ SafeRun step Safe s pre ∧ ¬ Safe (run step s pre) e := by
  induction es generalizing s with
  | nil => exact absurd trivial h
  | cons e es ih =>
    by_cases hsafe : Safe s e
    · obtain ⟨pre, e', post, rfl, hpre, hunsafe⟩ := ih fun hrest => h ⟨hsafe, hrest⟩
      exact ⟨e :: pre, e', post, rfl, ⟨hsafe, hpre⟩, hunsafe⟩
    · exact ⟨[], e, es, rfl, trivial, hsafe⟩

variable (I : σ → Prop)

/-- **The invariant rule under a condition on the steps.** -/
theorem SafeRun.invariant (hstep : ∀ s e, I s → Safe s e → I (step s e)) (hs : I s)
    (h : SafeRun step Safe s es) : I (run step s es) := by
  induction es generalizing s with
  | nil => exact hs
  | cons e es ih => exact ih (hstep s e hs h.1) h.2

theorem SafeRun.imp {Safe Holds : σ → ε → Prop}
    (hstep : ∀ s e, I s → Safe s e → Holds s e ∧ I (step s e)) (hs : I s)
    (h : SafeRun step Safe s es) : SafeRun step Holds s es := by
  induction es generalizing s with
  | nil => trivial
  | cons e es ih =>
    obtain ⟨hholds, hnext⟩ := hstep s e hs h.1
    exact ⟨hholds, ih hnext h.2⟩

theorem SafeRun.forall_mem {P : ε → Prop} (hsafe : ∀ s e, Safe s e → P e)
    (h : SafeRun step Safe s es) : ∀ e ∈ es, P e := by
  induction es generalizing s with
  | nil =>
    intro e hmem
    cases hmem
  | cons first es ih =>
    intro e hmem
    rcases List.mem_cons.mp hmem with rfl | hmem
    · exact hsafe s e h.1
    · exact ih h.2 e hmem

/-- **The invariant rule.** -/
theorem run_invariant (hstep : ∀ s e, I s → I (step s e)) (hs : I s) (es : List ε) :
    I (run step s es) := by
  induction es generalizing s with
  | nil => exact hs
  | cons e es ih => exact ih (hstep s e hs)

end AutoTrade.Lib.Run
