import AutoTrade.Scheduler.Machine

/-! # What the parts of the scheduler leave alone

No part of the scheduler but `stopAndWait` and its resolution touches the waiters, and no part but a
guard that expires before a report changes whether ownership is held. -/

namespace AutoTrade.Scheduler.Frames

open Domain.Types Scheduler.Records Scheduler.Machine

variable {config : StrategySchedulerConfig} {s : StrategyScheduler config}

/-- The waiters are the same, and so is the guard if it holds at a report. -/
structure Framed (heldAtReport : Bool) (s s' : StrategyScheduler config) : Prop where
  waiters : s'.waiters = s.waiters
  ownershipHeld : heldAtReport = true → s'.ownershipHeld = s.ownershipHeld

/-- Whether the step leaves the guard as it is. -/
def guardHolds : Event → Bool
  | .ownership _ => false
  | .react _ _ heldAtReport => heldAtReport
  | _ => true

theorem framed_refl (held : Bool) : Framed held s s := ⟨rfl, fun _ => rfl⟩

theorem framed_trans {held : Bool} {s' s'' : StrategyScheduler config} (h : Framed held s s')
    (h' : Framed held s' s'') : Framed held s s'' :=
  ⟨h'.waiters.trans h.waiters, fun hh => (h'.ownershipHeld hh).trans (h.ownershipHeld hh)⟩

theorem framed_scheduleMarket (held : Bool) (entry : Entry config) (delayMs now : ℕ) :
    Framed held s (s.scheduleMarket entry delayMs now) := by
  unfold StrategyScheduler.scheduleMarket
  split <;> exact ⟨rfl, fun _ => rfl⟩

theorem framed_foldl_scheduleMarket (held : Bool) (entries : List (Entry config)) (now : ℕ) :
    Framed held s
      (entries.foldl (fun s entry => s.scheduleMarket entry entry.1.intervalMs now) s) := by
  induction entries generalizing s with
  | nil => exact framed_refl held
  | cons entry entries ih =>
    rw [List.foldl_cons]
    exact framed_trans (framed_scheduleMarket held entry entry.1.intervalMs now) ih

theorem framed_start (held : Bool) (now : ℕ) : Framed held s (s.start now) := by
  unfold StrategyScheduler.start
  split
  · exact framed_refl held
  · split
    · exact ⟨rfl, fun _ => rfl⟩
    · dsimp only
      split
      · exact ⟨rfl, fun _ => rfl⟩
      · have hfold := framed_foldl_scheduleMarket (s := { s with lifecycle := .started }) held
          config.markets.attach now
        exact ⟨hfold.waiters, hfold.ownershipHeld⟩

theorem framed_runMarketNow (held : Bool) (caller : Caller config) (now : ℕ) :
    Framed held s (s.runMarketNow caller now).1 := by
  unfold StrategyScheduler.runMarketNow
  split
  · exact framed_refl held
  · split
    · exact framed_refl held
    · split
      · exact framed_refl held
      · split <;> exact ⟨rfl, fun _ => rfl⟩

theorem framed_applyResult (held : Bool) (market : SupportedMarket)
    (applied : Option (StrategyRunResult × ℕ × ℕ)) :
    Framed held s (s.applyResult market applied) := by
  cases applied <;> exact ⟨rfl, fun _ => rfl⟩

variable (entry : Entry config)

theorem framed_catchScheduled (failure : Failure) (now : ℕ) (heldAtReport : Bool) :
    Framed heldAtReport s (s.catchScheduled entry failure now heldAtReport).1 := by
  unfold StrategyScheduler.catchScheduled
  split
  · exact framed_refl heldAtReport
  · split
    · exact framed_refl heldAtReport
    · dsimp only
      split
      · exact ⟨rfl, fun _ => rfl⟩
      · split
        · rename_i hlost
          exact ⟨rfl, fun hh => by rw [hlost] at hh; cases hh⟩
        · exact ⟨rfl, fun _ => rfl⟩

theorem framed_resumeScheduled (phase : RunPhase) (now : ℕ) (heldAtReport : Bool) :
    Framed heldAtReport s (s.resumeScheduled entry phase now heldAtReport).1 := by
  unfold StrategyScheduler.resumeScheduled
  split
  · exact framed_refl heldAtReport
  · exact framed_catchScheduled ..
  · exact framed_refl heldAtReport

theorem framed_runScheduledMarket (caller : Caller config) (entry : Entry config) (now : ℕ) :
    Framed true s (s.runScheduledMarket caller entry now).1 := by
  have hrun := framed_runMarketNow (s := s) true caller now
  unfold StrategyScheduler.runScheduledMarket
  split
  · rename_i h
    rw [h] at hrun
    exact hrun
  · rename_i h
    rw [h] at hrun
    exact framed_trans hrun (framed_catchScheduled ..)

theorem framed_handleRuntimeOwnershipFailure (held : Bool) (failure : Failure) :
    Framed held s (s.handleRuntimeOwnershipFailure failure) := by
  unfold StrategyScheduler.handleRuntimeOwnershipFailure
  split <;> exact ⟨rfl, fun _ => rfl⟩

theorem framed_tickSegment (index : ℕ) (tick : Tick config) (answer : Answer) (now : ℕ) :
    Framed true s (s.tickSegment index tick answer now).1 := by
  unfold StrategyScheduler.tickSegment
  split
  · split
    · unfold StrategyScheduler.startTick
      split
      · exact framed_refl true
      · split
        · exact ⟨rfl, fun _ => rfl⟩
        · exact framed_runScheduledMarket ..
    · exact framed_refl true
  · exact framed_refl true
  · split <;> exact framed_refl true
  · exact ⟨rfl, fun _ => rfl⟩
  · exact framed_refl true
  · unfold StrategyScheduler.skipTick
    split <;> exact ⟨rfl, fun _ => rfl⟩
  · exact framed_scheduleMarket ..
  · dsimp only
    split
    · exact framed_handleRuntimeOwnershipFailure ..
    · exact framed_scheduleMarket ..
  · exact framed_refl true

theorem framed_loopSegment (loop : StartLoop config) (answer : Answer) (now : ℕ) :
    Framed true s (s.loopSegment loop answer now).1 := by
  unfold StrategyScheduler.loopSegment
  split
  · exact framed_refl true
  · split
    · exact framed_refl true
    · exact framed_runScheduledMarket ..
  · split <;> exact framed_refl true
  · exact framed_scheduleMarket ..
  · exact framed_handleRuntimeOwnershipFailure ..
  · exact framed_refl true
  · exact framed_refl true

theorem framed_react (index now : ℕ) (heldAtReport : Bool) :
    Framed heldAtReport s (s.react index now heldAtReport) := by
  unfold StrategyScheduler.react
  split
  · exact framed_refl heldAtReport
  · rename_i run _
    split
    · exact framed_refl heldAtReport
    · have hmoved : Framed heldAtReport s (s.moveRun index run .closed) := ⟨rfl, fun _ => rfl⟩
      dsimp only
      split
      · exact hmoved
      · rename_i entry _
        have h := framed_trans hmoved (framed_resumeScheduled entry run.phase now heldAtReport)
        exact ⟨h.waiters, h.ownershipHeld⟩
      · rename_i entry _
        have h := framed_trans hmoved (framed_resumeScheduled entry run.phase now heldAtReport)
        exact ⟨h.waiters, h.ownershipHeld⟩

/-- A step touches the waiters, or the guard, only if it says so. -/
theorem framed_step {e : Event} (hwait : e ≠ .stopAndWait)
    (hresolve : ∀ waiter timedOut, e ≠ .resolveStop waiter timedOut) :
    Framed (guardHolds e) s (step s e) := by
  cases e with
  | start now => exact framed_start true now
  | runMarketNow market now => exact framed_runMarketNow ..
  | advance index answer now =>
    show Framed true s (s.advance index answer now)
    unfold StrategyScheduler.advance
    split
    · exact framed_refl true
    · split
      · exact framed_refl true
      · rename_i run _ _ seg _
        have h := framed_applyResult (s := s) true run.market seg.applied
        exact ⟨h.waiters, h.ownershipHeld⟩
  | react index now heldAtReport => exact framed_react index now heldAtReport
  | timerFired id =>
    show Framed true s (s.timerFired id)
    unfold StrategyScheduler.timerFired
    split <;> exact ⟨rfl, fun _ => rfl⟩
  | advanceTick index answer now =>
    show Framed true s (s.advanceTick index answer now)
    unfold StrategyScheduler.advanceTick
    split
    · exact framed_refl true
    · rename_i tick _
      have h := framed_tickSegment (s := s) index tick answer now
      exact ⟨h.waiters, h.ownershipHeld⟩
  | advanceLoop answer now =>
    show Framed true s (s.advanceLoop answer now)
    unfold StrategyScheduler.advanceLoop
    split
    · exact framed_refl true
    · rename_i loop _
      have h := framed_loopSegment (s := s) loop answer now
      exact ⟨h.waiters, h.ownershipHeld⟩
  | reportStartupBlockIfNeeded =>
    show Framed true s s.reportStartupBlockIfNeeded
    unfold StrategyScheduler.reportStartupBlockIfNeeded
    split <;> exact ⟨rfl, fun _ => rfl⟩
  | ownership owned => exact ⟨rfl, fun hh => by cases hh⟩
  | setStartupPreflight preflight => exact ⟨rfl, fun _ => rfl⟩
  | startupBlockReported report => exact ⟨rfl, fun _ => rfl⟩
  | stop => exact ⟨rfl, fun _ => rfl⟩
  | stopAndWait => exact absurd rfl hwait
  | resolveStop waiter timedOut => exact absurd rfl (hresolve waiter timedOut)

end AutoTrade.Scheduler.Frames
