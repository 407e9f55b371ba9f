import AutoTrade.Scheduler.Rejections
import AutoTrade.Scheduler.Silence

/-! # A quiesced scheduler is idle

`stopAndWait` decides `quiesced` from promises, while the shutdown of the runtime also looks at the
`running` flags of the status it returns. The two agree as long as no run strands its flag: the exits
of `executeMarketNow` for ownership do (`fenced_run_stays_running`), although the run has settled.

Whatever happened to the flags, a scheduler that has reported `quiesced` does nothing more. -/

namespace AutoTrade.Scheduler.Quiescence

open Lib.Run Lib.LockFlag Domain.Types Scheduler.Records
open Scheduler.Machine Scheduler.Flags Scheduler.Rejections
open Scheduler.Silence

variable {config : StrategySchedulerConfig}

/-- Every raised flag has a holder, and every rejected run a caller that will lower it. -/
structure Accounted (s : StrategyScheduler config) : Prop where
  backed : ∀ market, Backed (s.flag market)
  recoverable : Recoverable s

theorem accounted_create (held : Bool) (preflight : Option StartupPreflight) :
    Accounted (create config held preflight) where
  backed := fun market hup => by cases hup
  recoverable := fun i run hrun => by simp [create] at hrun

theorem accounted_step (s : StrategyScheduler config) (e : Event) (h : Accounted s)
    (hsafe : Holdable s e) : Accounted (step s e) where
  backed := fun market =>
    (move_step s e market).backed (not_strands h.recoverable hsafe) (h.backed market)
  recoverable := recoverable_step s e h.recoverable hsafe

theorem holders_of_silent {s : StrategyScheduler config} (h : Silent s)
    (market : SupportedMarket) : s.holders market = 0 := by
  refine List.countP_eq_zero.mpr fun run hmem => ?_
  obtain ⟨i, hget⟩ := List.mem_iff_getElem?.mp hmem
  have hclosed := h.runs i run hget
  simp [Run.holds, hclosed, RunPhase.holdsFlag]

/-- **A quiesced scheduler is idle and stays so.** Once a `stopAndWait` has resolved with `quiesced`,
no later step starts a run, arms a timer, or writes a record or a report. If in addition no run that
held its flag met an ownership failure, and the controller failed no direct run, every market of the
status is idle. -/
theorem quiesced_scheduler_is_idle (held : Bool) (preflight : Option StartupPreflight)
    (es later : List Event) (hq : Quiesced (run step (create config held preflight) es)) :
    (SafeRun step Holdable (create config held preflight) es →
        ∀ status ∈ (run step (create config held preflight) es).getStatus,
          status.running = false) ∧
      (run step (create config held preflight) (es ++ later)).trace =
        (run step (create config held preflight) es).trace := by
  have hsilent := silent_of_quiesced held preflight es hq
  constructor
  · intro hsafe status hmem
    have haccounted : Accounted (run step (create config held preflight) es) :=
      hsafe.invariant Accounted accounted_step (accounted_create held preflight)
    obtain ⟨entry, _, rfl⟩ := List.mem_map.mp hmem
    by_contra hup
    have hpos := haccounted.backed entry.market (eq_true_of_ne_false hup)
    have hnone := holders_of_silent hsilent entry.market
    unfold StrategyScheduler.flag at hpos
    dsimp only at hpos
    omega
  · rw [run_append]
    exact trace_run_of_silent hsilent later

/-- The run that is in flight when the scheduler is stopped goes to its end. -/
def stopDuringRun : List Event :=
  runUntilController ++
    [.stopAndWait, .advance 0 (.controlled (.ok holdResult)) 1, .advance 0 .go 1, .advance 0 .go 1,
      .advance 0 .go 1, .react 0 1 true, .resolveStop 0 false]

theorem quiesced_scheduler_is_idle_in_flight :
    Quiesced (run step (create plainConfig true none) stopDuringRun) ∧
      SafeRun step Holdable (create plainConfig true none) stopDuringRun ∧
      ∀ status ∈ (run step (create plainConfig true none) stopDuringRun).getStatus,
        status.running = false := by
  have hq : Quiesced (run step (create plainConfig true none) stopDuringRun) := by decide
  have hsafe : SafeRun step Holdable (create plainConfig true none) stopDuringRun := by decide
  exact ⟨hq, hsafe, (quiesced_scheduler_is_idle true none stopDuringRun [] hq).1 hsafe⟩

/-- The fence of the shutdown comes before the controller answers: the run settles, `stopAndWait`
resolves with `quiesced`, and the market is still running. -/
theorem fenced_run_stays_running :
    let s := run step (create plainConfig true none)
      (runUntilController ++
        [.ownership false, .stopAndWait, .advance 0 (.controlled (.ok holdResult)) 1,
          .react 0 1 true, .resolveStop 0 false])
    Quiesced s ∧ ∃ status ∈ s.getStatus, status.running = true := by
  decide

end AutoTrade.Scheduler.Quiescence
