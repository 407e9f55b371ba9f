import AutoTrade.Scheduler.Flags
import AutoTrade.Lib.Run

/-! # Runs that are rejected before their result

`executeMarketNow` leaves by an exception when a check finds ownership lost, when a dependency fails
for ownership, and when the controller fails. Only the last is repaired, and only for a scheduled
caller, which applies a failed result. `Holdable` is the condition on a step under which no run that
holds the flag leaves by another way; in a run of such steps no flag is stranded. -/

namespace AutoTrade.Scheduler.Rejections

open Lib.Run Scheduler.Records
open Scheduler.Machine Scheduler.Flags

variable {config : StrategySchedulerConfig} {s : StrategyScheduler config}

/-! ### How a stretch rejects -/

def failureOf {α : Type} : Except Failure α → Option Failure
  | .error failure => some failure
  | .ok _ => none

/-- The failure of what the run awaited. -/
def failure : Answer → Option Failure
  | .go => none
  | .owner outcome => failureOf outcome
  | .refreshed outcome => failureOf outcome
  | .preflighted outcome => failureOf outcome
  | .saved outcome => failureOf outcome
  | .controlled outcome => failureOf outcome
  | .reported outcome => failureOf outcome

def controllerFails : Answer → Bool
  | .controlled (.error _) => true
  | _ => false

/-- The stretch of a run that holds the flag asks the guard. -/
def checksOwnership (config : StrategySchedulerConfig) : RunPhase → Answer → Bool
  | .resolvingOwner _, .owner (.error _) => true
  | .refreshing _, .refreshed _ => true
  | .preflighting _, .preflighted _ => true
  | .saving _ _ _, .go => config.repositories
  | .awaitingSave _, .saved _ => true
  | .awaitingController _ _, .controlled (.ok _) => true
  | _, _ => false

/-- The stretch rejects with the failure only if something is wrong with ownership. -/
def RejectsForOwnership (seg : Segment) (answer : Answer) (lost : Prop) : Prop :=
  ∀ f, seg.phase = .rejected f → failure answer = some .ownership ∨ lost

variable {answer : Answer}

theorem rejects_failAfterCatch (held : Bool) (entry : StrategySchedulerMarketConfig)
    (startedAt now : ℕ) (prefixText : String) {f : Failure} (hanswer : failure answer = some f) :
    RejectsForOwnership (failAfterCatch config held entry startedAt now prefixText f) answer
      (held = false) := by
  cases f with
  | ownership => exact fun _ _ => Or.inl hanswer
  | other message =>
    intro g hphase
    rw [failAfterCatch] at hphase
    split at hphase
    · rename_i hlost
      exact Or.inr hlost
    · cases hphase

theorem preparePreflight_ne_rejected (entry : StrategySchedulerMarketConfig) (startedAt : ℕ)
    (f : Failure) : preparePreflight config entry startedAt ≠ .rejected f := by
  unfold preparePreflight prepareStart
  split <;> intro h <;> cases h

/-- **How a run that holds the flag is rejected**: the controller failed, or it is about ownership. -/
theorem segment_rejected {held : Bool} {entry : StrategySchedulerMarketConfig} {phase : RunPhase}
    {now : ℕ} {seg : Segment} {f : Failure}
    (h : Machine.segment config held entry phase answer now = some seg) (hf : seg.phase = .rejected f) :
    answer = .controlled (.error f) ∨ failure answer = some .ownership ∨
      (checksOwnership config phase answer = true ∧ held = false) := by
  unfold Machine.segment at h
  split at h <;> first | rw [← Option.some.inj h] at hf | cases h
  · exact Or.inr ((rejects_failAfterCatch held entry _ _ _ rfl f hf).imp_right fun hl => ⟨rfl, hl⟩)
  · cases hf
  · exfalso
    dsimp only [Segment.goto] at hf
    split at hf
    · cases hf
    · exact preparePreflight_ne_rejected entry _ f hf
  · exact Or.inr ((rejects_failAfterCatch held entry _ _ _ rfl f hf).imp_right fun hl => ⟨rfl, hl⟩)
  · split at hf
    · rename_i hlost
      exact Or.inr (Or.inr ⟨rfl, hlost⟩)
    · exfalso
      split at hf
      · cases hf
      · exact preparePreflight_ne_rejected entry _ f hf
  · exact Or.inr ((rejects_failAfterCatch held entry _ _ _ rfl f hf).imp_right fun hl => ⟨rfl, hl⟩)
  · split at hf
    · rename_i hlost
      exact Or.inr (Or.inr ⟨rfl, hlost⟩)
    · exfalso
      split at hf
      · cases hf
      · cases hf
  · unfold segmentSaving at hf
    split at hf
    · cases hf
    · rename_i hrepositories
      split at hf
      · rename_i hlost
        exact Or.inr (Or.inr ⟨eq_true_of_ne_false hrepositories, hlost⟩)
      · cases hf
  · unfold segmentSaved at hf
    split at hf
    · exact Or.inr (Or.inl rfl)
    · split at hf
      · rename_i hlost
        exact Or.inr (Or.inr ⟨rfl, hlost⟩)
      · cases hf
    · split at hf
      · rename_i hlost
        exact Or.inr (Or.inr ⟨rfl, hlost⟩)
      · cases hf
  · unfold segmentAfterSave at hf
    split at hf
    · cases hf
    · split at hf <;> cases hf
  · exact Or.inl (by cases hf; rfl)
  · split at hf
    · rename_i hlost
      exact Or.inr (Or.inr ⟨rfl, hlost⟩)
    · cases hf
  · unfold segmentReporting at hf
    split at hf
    · cases hf
    · split at hf <;> cases hf
  · unfold segmentReported at hf
    split at hf
    · cases hf
    · split at hf <;> cases hf

/-! ### Only a run that goes on becomes rejected -/

/-- Every run after the step was there, or is not rejected. -/
def Keeps (s s' : StrategyScheduler config) : Prop :=
  ∀ (i : ℕ) (run' : Run config), s'.runs[i]? = some run' →
    s.runs[i]? = some run' ∨ ∀ f, run'.phase ≠ .rejected f

variable {s' : StrategyScheduler config}

theorem keeps_of_runs (h : s'.runs = s.runs) : Keeps s s' :=
  fun i run' hrun => Or.inl (by rw [← h]; exact hrun)

theorem keeps_trans {s' s'' : StrategyScheduler config} (h : Keeps s s') (h' : Keeps s' s'') :
    Keeps s s'' := fun i run' hrun => (h' i run' hrun).elim (h i run') Or.inr

theorem keeps_append {run : Run config} (h : s'.runs = s.runs ++ [run])
    (hrun : ∀ f, run.phase ≠ .rejected f) : Keeps s s' := by
  intro i run' hget
  rw [h, List.getElem?_append] at hget
  split at hget
  · exact Or.inl hget
  · rw [List.mem_singleton.mp (List.mem_of_getElem? hget)]
    exact Or.inr hrun

variable (caller : Caller config)

theorem keeps_runMarketNow (now : ℕ) : Keeps s (s.runMarketNow caller now).1 := by
  unfold StrategyScheduler.runMarketNow
  split
  · exact keeps_of_runs rfl
  · split
    · exact keeps_of_runs rfl
    · split
      · exact keeps_of_runs rfl
      · split <;> exact keeps_append rfl fun f h => by cases h

variable (entry : Entry config)

theorem runs_scheduleMarket (delayMs now : ℕ) :
    (s.scheduleMarket entry delayMs now).runs = s.runs := by
  unfold StrategyScheduler.scheduleMarket
  split <;> rfl

theorem runs_foldl_scheduleMarket (entries : List (Entry config)) (now : ℕ) :
    (entries.foldl (fun s entry => s.scheduleMarket entry entry.1.intervalMs now) s).runs =
      s.runs := by
  induction entries generalizing s with
  | nil => rfl
  | cons entry entries ih => rw [List.foldl_cons, ih, runs_scheduleMarket]

theorem runs_handleRuntimeOwnershipFailure (f : Failure) :
    (s.handleRuntimeOwnershipFailure f).runs = s.runs := by
  unfold StrategyScheduler.handleRuntimeOwnershipFailure
  split <;> rfl

theorem runs_resumeScheduled (phase : RunPhase) (now : ℕ) (heldAtReport : Bool) :
    (s.resumeScheduled entry phase now heldAtReport).1.runs = s.runs := by
  unfold StrategyScheduler.resumeScheduled
  split
  · rfl
  · exact catchScheduled_runs ..
  · rfl

theorem keeps_runScheduledMarket (now : ℕ) : Keeps s (s.runScheduledMarket caller entry now).1 := by
  have hrun := keeps_runMarketNow (s := s) caller now
  unfold StrategyScheduler.runScheduledMarket
  split
  · rename_i h
    rw [h] at hrun
    exact hrun
  · rename_i h
    rw [h] at hrun
    exact keeps_trans hrun (keeps_of_runs (catchScheduled_runs ..))

theorem keeps_tickSegment (index : ℕ) (tick : Tick config) (answer : Answer) (now : ℕ) :
    Keeps s (s.tickSegment index tick answer now).1 := by
  unfold StrategyScheduler.tickSegment
  split
  · split
    · unfold StrategyScheduler.startTick
      split
      · exact keeps_of_runs rfl
      · split
        · exact keeps_of_runs (applyResult_runs ..)
        · exact keeps_runScheduledMarket _ _ now
    · exact keeps_of_runs rfl
  · exact keeps_of_runs rfl
  · split <;> exact keeps_of_runs rfl
  · exact keeps_of_runs rfl
  · exact keeps_of_runs rfl
  · unfold StrategyScheduler.skipTick
    split <;> exact keeps_of_runs rfl
  · exact keeps_of_runs (runs_scheduleMarket ..)
  · dsimp only
    split
    · exact keeps_of_runs (runs_handleRuntimeOwnershipFailure ..)
    · exact keeps_of_runs (runs_scheduleMarket ..)
  · exact keeps_of_runs rfl

theorem keeps_loopSegment (loop : StartLoop config) (answer : Answer) (now : ℕ) :
    Keeps s (s.loopSegment loop answer now).1 := by
  unfold StrategyScheduler.loopSegment
  split
  · exact keeps_of_runs rfl
  · split
    · exact keeps_of_runs rfl
    · exact keeps_runScheduledMarket _ _ now
  · split <;> exact keeps_of_runs rfl
  · exact keeps_of_runs (runs_scheduleMarket ..)
  · exact keeps_of_runs (runs_handleRuntimeOwnershipFailure ..)
  · exact keeps_of_runs rfl
  · exact keeps_of_runs rfl

theorem keeps_react (index now : ℕ) (heldAtReport : Bool) :
    Keeps s (s.react index now heldAtReport) := by
  unfold StrategyScheduler.react
  split
  · exact keeps_of_runs rfl
  · rename_i run hrun
    split
    · exact keeps_of_runs rfl
    · have hclose : Keeps s (s.moveRun index run .closed) := by
        intro i run' h
        rcases moveRun_getElem? hrun h with ⟨_, rfl⟩ | ⟨_, h⟩
        · exact Or.inr fun f h => by cases h
        · exact Or.inl h
      dsimp only
      split
      · exact hclose
      · exact keeps_trans hclose (keeps_of_runs (runs_resumeScheduled ..))
      · exact keeps_trans hclose (keeps_of_runs (runs_resumeScheduled ..))

theorem keeps_start (now : ℕ) : Keeps s (s.start now) := by
  unfold StrategyScheduler.start
  split
  · exact keeps_of_runs rfl
  · split
    · exact keeps_of_runs rfl
    · dsimp only
      split
      · exact keeps_of_runs rfl
      · exact keeps_of_runs (runs_foldl_scheduleMarket ..)

theorem keeps_step {e : Event} (hne : ∀ run answer now, e ≠ .advance run answer now) :
    Keeps s (step s e) := by
  cases e with
  | start now => exact keeps_start now
  | runMarketNow market now => exact keeps_runMarketNow _ now
  | advance run answer now => exact absurd rfl (hne run answer now)
  | react index now heldAtReport => exact keeps_react index now heldAtReport
  | timerFired id =>
    show Keeps s (s.timerFired id)
    unfold StrategyScheduler.timerFired
    split <;> exact keeps_of_runs rfl
  | advanceTick index answer now =>
    show Keeps s (s.advanceTick index answer now)
    unfold StrategyScheduler.advanceTick
    split
    · exact keeps_of_runs rfl
    · exact keeps_tickSegment index _ answer now
  | advanceLoop answer now =>
    show Keeps s (s.advanceLoop answer now)
    unfold StrategyScheduler.advanceLoop
    split
    · exact keeps_of_runs rfl
    · exact keeps_loopSegment _ answer now
  | reportStartupBlockIfNeeded =>
    show Keeps s s.reportStartupBlockIfNeeded
    unfold StrategyScheduler.reportStartupBlockIfNeeded
    split <;> exact keeps_of_runs rfl
  | resolveStop waiter timedOut =>
    show Keeps s (s.resolveStop waiter timedOut)
    unfold StrategyScheduler.resolveStop
    split
    · exact keeps_of_runs rfl
    · split_ifs <;> exact keeps_of_runs rfl
  | ownership held => exact keeps_of_runs rfl
  | setStartupPreflight preflight => exact keeps_of_runs rfl
  | startupBlockReported report => exact keeps_of_runs rfl
  | stop => exact keeps_of_runs rfl
  | stopAndWait => exact keeps_of_runs rfl

/-! ### The condition -/

/-- While a run holds the flag: what it awaits does not fail for ownership, ownership is held when it
(or the scheduled caller of a rejected run) asks, and the controller does not fail a direct run. -/
def Holdable (s : StrategyScheduler config) : Event → Prop
  | .advance index answer _ => ∀ run ∈ s.runs[index]?, run.phase.holdsFlag = true →
      failure answer ≠ some .ownership ∧
        (checksOwnership config run.phase answer = true → s.ownershipHeld = true) ∧
        ¬ (controllerFails answer = true ∧ run.caller.isDirect = true)
  | .react index _ _ => ∀ run ∈ s.runs[index]?, run.phase.holdsFlag = true →
      s.ownershipHeld = true
  | _ => True

instance (s : StrategyScheduler config) (e : Event) : Decidable (Holdable s e) := by
  induction e using Event.casesOn <;> unfold Holdable <;> infer_instance

/-- Every rejected run has a scheduled caller, and did not fail for ownership. -/
def Recoverable (s : StrategyScheduler config) : Prop :=
  ∀ (i : ℕ) (run : Run config), s.runs[i]? = some run → ∀ f, run.phase = .rejected f →
    f ≠ .ownership ∧ run.caller.isDirect = false

theorem recoverable_advance {index : ℕ} {now : ℕ} (h : Recoverable s)
    (hsafe : Holdable s (.advance index answer now)) :
    Recoverable (s.advance index answer now) := by
  unfold StrategyScheduler.advance
  split
  · exact h
  · rename_i run hrun
    split
    · exact h
    · rename_i seg hseg
      have hruns := applyResult_runs (s := s) run.market seg.applied
      intro i run' hget f hf
      have hrun' : ((s.applyResult run.market seg.applied).emit seg.effects).runs[index]? =
          some run := by
        rw [← hrun]
        exact congrArg (fun runs => runs[index]?) hruns
      rcases moveRun_getElem? hrun' hget with ⟨_, rfl⟩ | ⟨_, hold⟩
      · -- the run that went on: it held the flag, so the condition speaks of it
        have hhold : run.phase.holdsFlag = true := by
          rcases lowers_segment hseg with ⟨_, hkeep⟩ | ⟨_, _, hdown⟩
          · rw [← hkeep, show seg.phase = .rejected f from hf]
            rfl
          · rw [show seg.phase = .rejected f from hf] at hdown
            cases hdown
        obtain ⟨hanswer, hchecks, hdirect⟩ := hsafe run hrun hhold
        rcases segment_rejected hseg hf with hcontrol | hlost | ⟨hasks, hlost⟩
        · refine ⟨fun hown => hanswer ?_, eq_false_of_ne_true fun hd => hdirect ⟨?_, hd⟩⟩
          · rw [hcontrol, hown]
            rfl
          · rw [hcontrol]
            rfl
        · exact absurd hlost hanswer
        · rw [hchecks hasks] at hlost
          cases hlost
      · exact h i run' (by rw [← hruns]; exact hold) f hf

theorem recoverable_step (s : StrategyScheduler config) (e : Event) (h : Recoverable s)
    (hsafe : Holdable s e) : Recoverable (step s e) := by
  by_cases hadvance : ∃ run answer now, e = .advance run answer now
  · obtain ⟨index, answer, now, rfl⟩ := hadvance
    exact recoverable_advance h hsafe
  · have hkeeps := keeps_step (s := s) fun run answer now he => hadvance ⟨run, answer, now, he⟩
    intro i run' hget f hf
    rcases hkeeps i run' hget with hold | hnew
    · exact h i run' hold f hf
    · exact absurd hf (hnew f)

theorem not_strands {e : Event} (h : Recoverable s) (hsafe : Holdable s e) : ¬ Strands s e := by
  intro hstrands
  cases e with
  | react index now heldAtReport =>
    obtain ⟨run, hrun, f, hf, hcause⟩ := hstrands
    obtain ⟨hown, hdirect⟩ := h index run hrun f hf
    have hheld : s.ownershipHeld = true := hsafe run hrun (by rw [hf]; rfl)
    rcases hcause with hf | hlost | hcaller
    · exact hown hf
    · rw [hheld] at hlost
      cases hlost
    · rw [hdirect] at hcaller
      cases hcaller
  | _ => exact hstrands

end AutoTrade.Scheduler.Rejections
