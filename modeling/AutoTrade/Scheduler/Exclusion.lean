import AutoTrade.Scheduler.Frames
import AutoTrade.Scheduler.Rejections

/-! # One run of a market at a time

The `running` flag is a lock: `executeMarketNow` starts only when it finds the flag lowered, and
applying the result lowers it. The lock covers a run up to that point. Persisting and reporting the
result come after it, and a new run of the market may start meanwhile (`tail_overlaps_next_run`).

`Undisturbed` says that ownership is held and that nobody takes the flag from a run: a tick skipped
for its batch and a start blocked by the preflight lower the flag of whoever runs, and a direct call
that the controller rejects leaves it raised. -/

namespace AutoTrade.Scheduler.Exclusion

open Lib.Run Lib.LockFlag Domain.Types Scheduler.Records
open Scheduler.Machine Scheduler.Frames Scheduler.Flags
open Scheduler.Rejections

variable {config : StrategySchedulerConfig}

instance decidableForallMarket {p : SupportedMarket → Prop} [DecidablePred p] :
    Decidable (∀ market, p market) :=
  decidable_of_iff (p .krwBtc ∧ p .krwEth)
    ⟨fun h market => by cases market; exacts [h.1, h.2], fun h => ⟨h .krwBtc, h .krwEth⟩⟩

/-! ### The condition -/

/-- Ownership is held through the step, and the controller does not reject a direct run. -/
def Owned (s : StrategyScheduler config) : Event → Prop
  | .ownership held => held = true
  | .advance index answer _ => failure answer ≠ some .ownership ∧
      ∀ run ∈ s.runs[index]?, ¬ (controllerFails answer = true ∧ run.caller.isDirect = true)
  | .react _ _ heldAtReport => heldAtReport = true
  | _ => True

instance (s : StrategyScheduler config) (e : Event) : Decidable (Owned s e) := by
  induction e using Event.casesOn <;> unfold Owned <;> infer_instance

/-- The step finds ownership held, and lowers no flag that a run still holds. -/
def Undisturbed (s : StrategyScheduler config) (e : Event) : Prop :=
  Owned s e ∧ ∀ market, Clears s market e → s.holders market = 0

instance (s : StrategyScheduler config) (e : Event) : Decidable (Undisturbed s e) := by
  unfold Undisturbed
  infer_instance

variable {s : StrategyScheduler config}

theorem holdable_of_owned {e : Event} (hheld : s.ownershipHeld = true) (h : Owned s e) :
    Holdable s e := by
  cases e with
  | advance index answer now =>
    intro run hrun _
    exact ⟨h.1, fun _ => hheld, h.2 run hrun⟩
  | react index now heldAtReport => exact fun _ _ _ => hheld
  | _ => trivial

theorem ownershipHeld_step {e : Event} (hheld : s.ownershipHeld = true) (h : Owned s e) :
    (step s e).ownershipHeld = true := by
  by_cases hwait : e = .stopAndWait
  · rw [hwait]
    exact hheld
  · by_cases hresolve : ∃ waiter timedOut, e = .resolveStop waiter timedOut
    · obtain ⟨waiter, timedOut, rfl⟩ := hresolve
      show (s.resolveStop waiter timedOut).ownershipHeld = true
      unfold StrategyScheduler.resolveStop
      split
      · exact hheld
      · split_ifs <;> exact hheld
    · have hframed := framed_step (s := s) hwait fun waiter timedOut he =>
        hresolve ⟨waiter, timedOut, he⟩
      by_cases howner : ∃ owned, e = .ownership owned
      · obtain ⟨owned, rfl⟩ := howner
        exact h
      · have hguard : guardHolds e = true := by
          cases e with
          | ownership owned => exact absurd ⟨owned, rfl⟩ howner
          | react index now heldAtReport => exact h
          | _ => rfl
        rw [hframed.ownershipHeld hguard, hheld]

/-! ### The lock -/

/-- The flag of every market is raised for exactly one run, ownership is held, and a rejected run has
a caller that lowers its flag. -/
structure Locked (s : StrategyScheduler config) : Prop where
  exact : ∀ market, Exact (s.flag market)
  ownershipHeld : s.ownershipHeld = true
  recoverable : Recoverable s

theorem locked_create (preflight : Option StartupPreflight) :
    Locked (create config true preflight) where
  exact := fun market => rfl
  ownershipHeld := rfl
  recoverable := fun i run hrun => by simp [create] at hrun

theorem locked_step (s : StrategyScheduler config) (e : Event) (h : Locked s)
    (hsafe : Undisturbed s e) : Locked (step s e) := by
  have hholdable := holdable_of_owned h.ownershipHeld hsafe.1
  refine ⟨fun market => ?_, ownershipHeld_step h.ownershipHeld hsafe.1,
    recoverable_step s e h.recoverable hholdable⟩
  exact (move_step s e market).exact (hsafe.2 market) (not_strands h.recoverable hholdable)
    (h.exact market)

theorem runMarketNow_of_lowered {s s' : StrategyScheduler config} {caller : Caller config}
    {now i : ℕ} (hdown : (s.status caller.market).running = false)
    (h : s.runMarketNow caller now = (s', .ok i)) :
    ∃ run, s'.runs[i]? = some run ∧ run.market = caller.market ∧
      run.phase = .resolvingOwner now := by
  unfold StrategyScheduler.runMarketNow at h
  rw [hdown] at h
  split at h
  · cases (Prod.mk.inj h).2
  · split at h
    · cases (Prod.mk.inj h).2
    · split at h
      · cases (Prod.mk.inj h).2
      · rename_i entry _
        obtain ⟨hs, hi⟩ := Prod.mk.inj h
        rw [← hs, ← Except.ok.inj hi]
        exact ⟨⟨caller, entry.intervalMs, .resolvingOwner now⟩, List.getElem?_concat_length, rfl,
          rfl⟩

/-- **One run per market, and no market gets stuck.** While nothing disturbs the flags: at most one
run of a market is between its running check and the application of its result, `running` is true
exactly while one is, and once every run of the market has settled and its caller has gone on, a new
one starts. -/
theorem one_run_per_market (preflight : Option StartupPreflight) (es : List Event)
    (h : SafeRun step Undisturbed (create config true preflight) es) (market : SupportedMarket) :
    let s := run step (create config true preflight) es
    (∀ (i j : ℕ) (a b : Run config), s.runs[i]? = some a → s.runs[j]? = some b →
        a.holds market = true → b.holds market = true → i = j) ∧
      ((s.status market).running = true ↔ ∃ run ∈ s.runs, run.holds market = true) ∧
      ((∀ run ∈ s.runs, run.market = market → run.phase = .closed) →
        ∀ (caller : Caller config) (now i : ℕ) (s' : StrategyScheduler config),
          caller.market = market → s.runMarketNow caller now = (s', .ok i) →
            ∃ run, s'.runs[i]? = some run ∧ run.market = market ∧
              run.phase = .resolvingOwner now) := by
  intro s
  have hlocked : Locked s := h.invariant Locked locked_step (locked_create preflight)
  have hexact : s.runs.countP (Run.holds market) = if (s.status market).running then 1 else 0 :=
    hlocked.exact market
  have hiff : (s.status market).running = true ↔ ∃ run ∈ s.runs, run.holds market = true := by
    rw [← List.countP_pos_iff, hexact]
    split <;> simp_all
  refine ⟨fun i j a b ha hb hpa hpb => ?_, hiff, fun hclosed caller now i s' hcaller hcall => ?_⟩
  · refine index_unique_of_countP_le_one (p := Run.holds market) ?_ ha hb hpa hpb
    rw [hexact]
    split <;> omega
  · have hdown : (s.status caller.market).running = false := by
      rw [hcaller]
      refine eq_false_of_ne_true fun hup => ?_
      obtain ⟨run, hmem, hholds⟩ := hiff.mp hup
      simp only [Run.holds, Bool.and_eq_true, decide_eq_true_eq] at hholds
      rw [hclosed run hmem hholds.1] at hholds
      cases hholds.2
    rw [← hcaller]
    exact runMarketNow_of_lowered hdown hcall

/-- A direct run waits for the controller; a second call is answered `ALREADY_RUNNING` beside it. -/
theorem one_run_per_market_answered :
    SafeRun step Undisturbed (create plainConfig true none)
        (runUntilController ++ [.runMarketNow .krwBtc 1]) ∧
      ((run step (create plainConfig true none)
          (runUntilController ++ [.runMarketNow .krwBtc 1])).status .krwBtc).running = true := by
  have hsafe : SafeRun step Undisturbed (create plainConfig true none)
      (runUntilController ++ [.runMarketNow .krwBtc 1]) := by decide
  exact ⟨hsafe, (one_run_per_market none _ hsafe .krwBtc).2.1.mpr (by decide)⟩

/-- The result of the first run is applied and not yet persisted and reported when the second call
starts a run of its own: both are between their running check and their end. -/
theorem tail_overlaps_next_run :
    let es := runUntilController ++
      [.advance 0 (.controlled (.ok holdResult)) 1, .runMarketNow .krwBtc 2]
    SafeRun step Undisturbed (create plainConfig true none) es ∧
      ∃ first second : Run plainConfig,
        (run step (create plainConfig true none) es).runs = [first, second] ∧
          first.market = second.market ∧ first.phase.settled = false ∧ first.phase ≠ .closed ∧
          second.phase = .resolvingOwner 2 := by
  refine ⟨by decide, _, _, rfl, ?_⟩
  decide

end AutoTrade.Scheduler.Exclusion
