import AutoTrade.Scheduler.Frames
import AutoTrade.Scheduler.Flags
import AutoTrade.Lib.Run

/-! # A stopped scheduler falls silent

After `stop` the scheduler starts no run, and a `stopAndWait` that resolves with `quiesced` has seen
every run closed and every tick of its queue settled. From there no step does anything to the
outside: a leaked timer enqueues a tick that returns at once, and the run-on-start loop, which no
`stopAndWait` waits for, finds the scheduler stopped. -/

namespace AutoTrade.Scheduler.Silence

open Lib.Run Domain.Types Scheduler.Records
open Scheduler.Machine Scheduler.Frames Scheduler.Flags

variable {config : StrategySchedulerConfig} {s : StrategyScheduler config}

/-! ### What a stopped scheduler can do -/

/-- The tick has not begun, or its queue promise has settled. -/
def isQuiet : TickPhase → Bool
  | .queued => true
  | .finished _ => true
  | .closed => true
  | _ => false

theorem isQuiet_of_settled {phase : TickPhase} (h : phase.settled = true) :
    isQuiet phase = true := by
  cases phase <;> simp_all [isQuiet, TickPhase.settled]

/-- The lifecycle, the runs and the ticks are the same. -/
structure Same (s s' : StrategyScheduler config) : Prop where
  lifecycle : s'.lifecycle = s.lifecycle
  runs : s'.runs = s.runs
  ticks : s'.ticks = s.ticks

theorem same_applyResult (market : SupportedMarket)
    (applied : Option (StrategyRunResult × ℕ × ℕ)) : Same s (s.applyResult market applied) := by
  cases applied <;> exact ⟨rfl, rfl, rfl⟩

theorem same_catchScheduled (entry : Entry config) (failure : Failure) (now : ℕ)
    (heldAtReport : Bool) : Same s (s.catchScheduled entry failure now heldAtReport).1 := by
  unfold StrategyScheduler.catchScheduled
  split
  · exact ⟨rfl, rfl, rfl⟩
  · split
    · exact ⟨rfl, rfl, rfl⟩
    · dsimp only
      split
      · exact ⟨rfl, rfl, rfl⟩
      · split <;> exact ⟨rfl, rfl, rfl⟩

theorem same_resumeScheduled (entry : Entry config) (phase : RunPhase) (now : ℕ)
    (heldAtReport : Bool) : Same s (s.resumeScheduled entry phase now heldAtReport).1 := by
  unfold StrategyScheduler.resumeScheduled
  split
  · exact ⟨rfl, rfl, rfl⟩
  · exact same_catchScheduled ..
  · exact ⟨rfl, rfl, rfl⟩

section Stopped
variable (hstop : s.lifecycle = .stopBegun)
include hstop

theorem scheduleMarket_of_stopped (entry : Entry config) (delayMs now : ℕ) :
    s.scheduleMarket entry delayMs now = s := by
  unfold StrategyScheduler.scheduleMarket
  rw [if_pos (Or.inl (by rw [hstop]; decide))]

theorem runMarketNow_of_stopped (caller : Caller config) (now : ℕ) :
    (s.runMarketNow caller now).1 = s := by
  unfold StrategyScheduler.runMarketNow
  rw [if_pos hstop]
  split <;> rfl

theorem start_of_stopped (now : ℕ) : s.start now = s := by
  unfold StrategyScheduler.start
  rw [if_pos (Or.inl (by rw [hstop]; decide))]

theorem startTick_of_stopped (index : ℕ) (tick : Tick config) (now : ℕ) :
    s.startTick index tick now = (s, .finished none) := by
  unfold StrategyScheduler.startTick
  rw [if_pos (Or.inl (by rw [hstop]; decide))]

theorem same_handleRuntimeOwnershipFailure (failure : Failure) :
    Same s (s.handleRuntimeOwnershipFailure failure) := by
  unfold StrategyScheduler.handleRuntimeOwnershipFailure
  split
  · exact ⟨hstop.symm, rfl, rfl⟩
  · exact ⟨rfl, rfl, rfl⟩

theorem same_loopSegment (loop : StartLoop config) (answer : Answer) (now : ℕ) :
    Same s (s.loopSegment loop answer now).1 := by
  unfold StrategyScheduler.loopSegment
  split
  · exact ⟨rfl, rfl, rfl⟩
  · rw [if_pos (Or.inl (by rw [hstop]; decide))]
    exact ⟨rfl, rfl, rfl⟩
  · split <;> exact ⟨rfl, rfl, rfl⟩
  · rw [scheduleMarket_of_stopped hstop]
    exact ⟨rfl, rfl, rfl⟩
  · exact same_handleRuntimeOwnershipFailure hstop _
  · exact ⟨rfl, rfl, rfl⟩
  · exact ⟨rfl, rfl, rfl⟩

/-- A stretch of a tick leaves the rest of the work alone, and a quiet tick quiet. -/
theorem same_tickSegment (index : ℕ) (tick : Tick config) (answer : Answer) (now : ℕ) :
    Same s (s.tickSegment index tick answer now).1 ∧
      (isQuiet tick.phase = true →
        isQuiet (s.tickSegment index tick answer now).2 = true) := by
  unfold StrategyScheduler.tickSegment
  split
  · split
    · rw [startTick_of_stopped hstop]
      exact ⟨⟨rfl, rfl, rfl⟩, fun _ => rfl⟩
    · exact ⟨⟨rfl, rfl, rfl⟩, fun _ => rfl⟩
  · rename_i hphase
    exact ⟨⟨rfl, rfl, rfl⟩, fun h => by rw [hphase] at h; cases h⟩
  · rename_i hphase
    split <;> exact ⟨⟨rfl, rfl, rfl⟩, fun h => by rw [hphase] at h; cases h⟩
  · exact ⟨⟨rfl, rfl, rfl⟩, fun _ => rfl⟩
  · exact ⟨⟨rfl, rfl, rfl⟩, fun _ => rfl⟩
  · rename_i hphase
    refine ⟨?_, fun h => by rw [hphase] at h; cases h⟩
    unfold StrategyScheduler.skipTick
    split <;> exact ⟨rfl, rfl, rfl⟩
  · rw [scheduleMarket_of_stopped hstop]
    exact ⟨⟨rfl, rfl, rfl⟩, fun _ => rfl⟩
  · refine ⟨?_, fun _ => rfl⟩
    dsimp only
    split
    · exact same_handleRuntimeOwnershipFailure hstop _
    · rw [scheduleMarket_of_stopped hstop]
      exact ⟨rfl, rfl, rfl⟩
  · exact ⟨⟨rfl, rfl, rfl⟩, fun _ => rfl⟩

end Stopped

/-- What a step of a stopped scheduler can do: no run is added and a closed one stays closed; a tick
that is not quiet after the step was there and was not quiet before it. -/
structure Winds (s s' : StrategyScheduler config) : Prop where
  lifecycle : s'.lifecycle = .stopBegun
  runs : ∀ (i : ℕ) (run' : Run config), s'.runs[i]? = some run' →
    ∃ run : Run config, s.runs[i]? = some run ∧ (run.phase = .closed → run'.phase = .closed)
  ticks : ∀ (i : ℕ) (tick' : Tick config), s'.ticks[i]? = some tick' → isQuiet tick'.phase = false →
    ∃ tick : Tick config, s.ticks[i]? = some tick ∧ isQuiet tick.phase = false

theorem winds_of_same {s' : StrategyScheduler config} (hstop : s.lifecycle = .stopBegun)
    (h : Same s s') : Winds s s' where
  lifecycle := h.lifecycle.trans hstop
  runs := fun i run' hrun => ⟨run', by rw [← h.runs]; exact hrun, id⟩
  ticks := fun i tick' htick hquiet => ⟨tick', by rw [← h.ticks]; exact htick, hquiet⟩

theorem segment_closed (held : Bool) (entry : StrategySchedulerMarketConfig) (answer : Answer)
    (now : ℕ) : Machine.segment config held entry .closed answer now = none := by
  cases answer <;> rfl

theorem winds_advance (hstop : s.lifecycle = .stopBegun) (index : ℕ) (answer : Answer) (now : ℕ) :
    Winds s (s.advance index answer now) := by
  unfold StrategyScheduler.advance
  split
  · exact winds_of_same hstop ⟨rfl, rfl, rfl⟩
  · rename_i run hrun
    split
    · exact winds_of_same hstop ⟨rfl, rfl, rfl⟩
    · rename_i seg hseg
      have hsame := same_applyResult (s := s) run.market seg.applied
      have hrun' : ((s.applyResult run.market seg.applied).emit seg.effects).runs[index]? =
          some run := by
        rw [← hrun]
        exact congrArg (fun runs => runs[index]?) hsame.runs
      refine ⟨hsame.lifecycle.trans hstop, fun i run' h => ?_, fun i tick' h hquiet => ?_⟩
      · rcases moveRun_getElem? hrun' h with ⟨rfl, rfl⟩ | ⟨_, h⟩
        · refine ⟨run, hrun, fun hclosed => ?_⟩
          rw [hclosed, segment_closed] at hseg
          cases hseg
        · exact ⟨run', by rw [← hsame.runs]; exact h, id⟩
      · exact ⟨tick', by rw [← hsame.ticks]; exact h, hquiet⟩

theorem quiet_modify {ticks : List (Tick config)} {target index i : ℕ} {phase : TickPhase}
    {tick' : Tick config}
    (h : (ticks.modify target fun tick =>
      if tick.phase = .running (.awaitingRun index) then { tick with phase } else tick)[i]? =
        some tick') (hquiet : isQuiet tick'.phase = false) :
    ∃ tick, ticks[i]? = some tick ∧ isQuiet tick.phase = false := by
  rw [List.getElem?_modify] at h
  obtain ⟨tick, htick, hmap⟩ := Option.map_eq_some_iff.mp h
  refine ⟨tick, htick, ?_⟩
  by_cases hi : target = i
  · simp only [hi, if_true] at hmap
    by_cases hawait : tick.phase = .running (.awaitingRun index)
    · rw [hawait]
      rfl
    · rw [if_neg hawait] at hmap
      rw [hmap]
      exact hquiet
  · simp only [hi, if_false] at hmap
    rw [show tick = tick' from hmap]
    exact hquiet

theorem winds_react (hstop : s.lifecycle = .stopBegun) (index now : ℕ) (heldAtReport : Bool) :
    Winds s (s.react index now heldAtReport) := by
  unfold StrategyScheduler.react
  split
  · exact winds_of_same hstop ⟨rfl, rfl, rfl⟩
  · rename_i run hrun
    split
    · exact winds_of_same hstop ⟨rfl, rfl, rfl⟩
    · have hclose : ∀ (i : ℕ) (run' : Run config),
          (s.moveRun index run .closed).runs[i]? = some run' → ∃ run : Run config,
            s.runs[i]? = some run ∧ (run.phase = .closed → run'.phase = .closed) := by
        intro i run' h
        rcases moveRun_getElem? hrun h with ⟨rfl, rfl⟩ | ⟨_, h⟩
        · exact ⟨run, hrun, fun _ => rfl⟩
        · exact ⟨run', h, id⟩
      dsimp only
      split
      · exact ⟨hstop, hclose, fun i tick' h hquiet => ⟨tick', h, hquiet⟩⟩
      · rename_i target entry hcaller
        have hsame := same_resumeScheduled (s := s.moveRun index run .closed) entry run.phase now
          heldAtReport
        refine ⟨hsame.lifecycle.trans hstop, fun i run' h => ?_, fun i tick' h hquiet => ?_⟩
        · exact hclose i run' (by rw [← hsame.runs]; exact h)
        · obtain ⟨tick, htick, hq⟩ := quiet_modify h hquiet
          exact ⟨tick, by rw [hsame.ticks] at htick; exact htick, hq⟩
      · rename_i entry hcaller
        have hsame := same_resumeScheduled (s := s.moveRun index run .closed) entry run.phase now
          heldAtReport
        refine ⟨hsame.lifecycle.trans hstop, fun i run' h => ?_, fun i tick' h hquiet => ?_⟩
        · exact hclose i run' (by rw [← hsame.runs]; exact h)
        · exact ⟨tick', by rw [hsame.ticks] at h; exact h, hquiet⟩

theorem winds_advanceTick (hstop : s.lifecycle = .stopBegun) (index : ℕ) (answer : Answer)
    (now : ℕ) : Winds s (s.advanceTick index answer now) := by
  unfold StrategyScheduler.advanceTick
  split
  · exact winds_of_same hstop ⟨rfl, rfl, rfl⟩
  · rename_i tick htick
    obtain ⟨hsame, hquiet⟩ := same_tickSegment hstop index tick answer now
    refine ⟨hsame.lifecycle.trans hstop, fun i run' h => ⟨run', by rw [← hsame.runs]; exact h, id⟩,
      fun i tick' h hq => ?_⟩
    dsimp only at h
    rw [List.getElem?_set, hsame.ticks] at h
    by_cases hi : index = i
    · obtain ⟨hlt, _⟩ := List.getElem?_eq_some_iff.mp htick
      rw [if_pos hi, if_pos hlt] at h
      refine ⟨tick, hi ▸ htick, eq_false_of_ne_true fun hwas => ?_⟩
      rw [← Option.some.inj h] at hq
      exact absurd (hquiet hwas) (by rw [hq]; decide)
    · rw [if_neg hi] at h
      exact ⟨tick', h, hq⟩

/-- **A step of a stopped scheduler** winds its work down. -/
theorem winds_step (hstop : s.lifecycle = .stopBegun) (e : Event) : Winds s (step s e) := by
  have hsame : Same s s := ⟨rfl, rfl, rfl⟩
  cases e with
  | start now =>
    show Winds s (s.start now)
    rw [start_of_stopped hstop]
    exact winds_of_same hstop hsame
  | runMarketNow market now =>
    show Winds s (s.runMarketNow (.direct market) now).1
    rw [runMarketNow_of_stopped hstop]
    exact winds_of_same hstop hsame
  | advance index answer now => exact winds_advance hstop index answer now
  | react index now heldAtReport => exact winds_react hstop index now heldAtReport
  | timerFired id =>
    show Winds s (s.timerFired id)
    unfold StrategyScheduler.timerFired
    split
    · exact winds_of_same hstop hsame
    · refine ⟨hstop, fun i run' h => ⟨run', h, fun h => h⟩, fun i tick' h hquiet => ?_⟩
      dsimp only at h
      rw [List.getElem?_append] at h
      split at h
      · exact ⟨tick', h, hquiet⟩
      · -- the new tick is queued
        have hnew := List.mem_singleton.mp (List.mem_of_getElem? h)
        rw [hnew] at hquiet
        cases hquiet
  | advanceTick index answer now => exact winds_advanceTick hstop index answer now
  | advanceLoop answer now =>
    show Winds s (s.advanceLoop answer now)
    unfold StrategyScheduler.advanceLoop
    split
    · exact winds_of_same hstop hsame
    · rename_i loop _
      have h := same_loopSegment hstop loop answer now
      exact winds_of_same hstop ⟨h.lifecycle, h.runs, h.ticks⟩
  | reportStartupBlockIfNeeded =>
    show Winds s s.reportStartupBlockIfNeeded
    unfold StrategyScheduler.reportStartupBlockIfNeeded
    split <;> exact winds_of_same hstop ⟨rfl, rfl, rfl⟩
  | stop => exact winds_of_same hstop ⟨hstop.symm, rfl, rfl⟩
  | stopAndWait => exact winds_of_same hstop ⟨hstop.symm, rfl, rfl⟩
  | resolveStop waiter timedOut =>
    show Winds s (s.resolveStop waiter timedOut)
    unfold StrategyScheduler.resolveStop
    split
    · exact winds_of_same hstop hsame
    · split_ifs <;> exact winds_of_same hstop ⟨rfl, rfl, rfl⟩
  | ownership held => exact winds_of_same hstop ⟨rfl, rfl, rfl⟩
  | setStartupPreflight preflight => exact winds_of_same hstop ⟨rfl, rfl, rfl⟩
  | startupBlockReported report => exact winds_of_same hstop ⟨rfl, rfl, rfl⟩

/-! ### Silence -/

/-- Every run is closed and every tick is quiet: nothing is left to go on. -/
structure Silent (s : StrategyScheduler config) : Prop where
  lifecycle : s.lifecycle = .stopBegun
  runs : ∀ (i : ℕ) (run : Run config), s.runs[i]? = some run → run.phase = .closed
  ticks : ∀ (i : ℕ) (tick : Tick config), s.ticks[i]? = some tick → isQuiet tick.phase = true

theorem silent_step (h : Silent s) (e : Event) : Silent (step s e) := by
  have hw := winds_step h.lifecycle e
  refine ⟨hw.lifecycle, fun i run' hrun => ?_, fun i tick' htick => ?_⟩
  · obtain ⟨run, hget, hclosed⟩ := hw.runs i run' hrun
    exact hclosed (h.runs i run hget)
  · by_contra hquiet
    obtain ⟨tick, hget, hloud⟩ := hw.ticks i tick' htick (eq_false_of_ne_true hquiet)
    rw [h.ticks i tick hget] at hloud
    cases hloud

/-- A quiet tick of a stopped scheduler does nothing to the outside. -/
theorem trace_tickSegment (hstop : s.lifecycle = .stopBegun) {tick : Tick config}
    (hquiet : isQuiet tick.phase = true) (index : ℕ) (answer : Answer) (now : ℕ) :
    (s.tickSegment index tick answer now).1.trace = s.trace := by
  unfold StrategyScheduler.tickSegment
  split
  · rw [startTick_of_stopped hstop]
    split <;> rfl
  · rfl
  · split <;> rfl
  · rfl
  · rfl
  · rename_i hphase
    rw [hphase] at hquiet
    cases hquiet
  · rw [scheduleMarket_of_stopped hstop]
  · rw [scheduleMarket_of_stopped hstop]
    dsimp only
    unfold StrategyScheduler.handleRuntimeOwnershipFailure
    split_ifs <;> rfl
  · rfl

theorem trace_loopSegment (hstop : s.lifecycle = .stopBegun) (loop : StartLoop config)
    (answer : Answer) (now : ℕ) : (s.loopSegment loop answer now).1.trace = s.trace := by
  unfold StrategyScheduler.loopSegment
  split
  · rfl
  · rw [if_pos (Or.inl (by rw [hstop]; decide))]
  · split <;> rfl
  · rw [scheduleMarket_of_stopped hstop]
  · unfold StrategyScheduler.handleRuntimeOwnershipFailure
    split_ifs <;> rfl
  · rfl
  · rfl

theorem trace_step_of_silent (h : Silent s) (e : Event) : (step s e).trace = s.trace := by
  cases e with
  | start now =>
    show (s.start now).trace = s.trace
    rw [start_of_stopped h.lifecycle]
  | runMarketNow market now =>
    show (s.runMarketNow (.direct market) now).1.trace = s.trace
    rw [runMarketNow_of_stopped h.lifecycle]
  | advance index answer now =>
    show (s.advance index answer now).trace = s.trace
    unfold StrategyScheduler.advance
    split
    · rfl
    · rename_i run hrun
      rw [h.runs index run hrun, segment_closed]
  | react index now heldAtReport =>
    show (s.react index now heldAtReport).trace = s.trace
    unfold StrategyScheduler.react
    split
    · rfl
    · rename_i run hrun
      rw [if_pos (by rw [h.runs index run hrun]; rfl)]
  | timerFired id =>
    show (s.timerFired id).trace = s.trace
    unfold StrategyScheduler.timerFired
    split <;> rfl
  | advanceTick index answer now =>
    show (s.advanceTick index answer now).trace = s.trace
    unfold StrategyScheduler.advanceTick
    split
    · rfl
    · rename_i tick htick
      exact trace_tickSegment h.lifecycle (h.ticks index tick htick) index answer now
  | advanceLoop answer now =>
    show (s.advanceLoop answer now).trace = s.trace
    unfold StrategyScheduler.advanceLoop
    split
    · rfl
    · exact trace_loopSegment h.lifecycle ..
  | reportStartupBlockIfNeeded =>
    show s.reportStartupBlockIfNeeded.trace = s.trace
    unfold StrategyScheduler.reportStartupBlockIfNeeded
    split <;> rfl
  | resolveStop waiter timedOut =>
    show (s.resolveStop waiter timedOut).trace = s.trace
    unfold StrategyScheduler.resolveStop
    split
    · rfl
    · split_ifs <;> rfl
  | ownership held => rfl
  | setStartupPreflight preflight => rfl
  | startupBlockReported report => rfl
  | stop => rfl
  | stopAndWait => rfl

/-! ### What a waiter has seen -/

/-- The call waits for every run that is still open, and for every tick that is not quiet; once it
has resolved with `quiesced`, there is none. -/
structure Covers (s : StrategyScheduler config) (waiter : Waiter) : Prop where
  lifecycle : s.lifecycle = .stopBegun
  runs : ∀ (i : ℕ) (run : Run config), s.runs[i]? = some run → run.phase ≠ .closed →
    i ∈ waiter.runs
  ticks : ∀ (i : ℕ) (tick : Tick config), s.ticks[i]? = some tick → isQuiet tick.phase = false →
    i < waiter.ticks
  silent : waiter.quiesced = some true → Silent s

/-- Every waiter covers the work that is left. -/
def Covered (s : StrategyScheduler config) : Prop := ∀ waiter ∈ s.waiters, Covers s waiter

theorem covers_step {waiter : Waiter} (h : Covers s waiter) (e : Event) :
    Covers (step s e) waiter := by
  have hw := winds_step h.lifecycle e
  refine ⟨hw.lifecycle, fun i run' hrun hopen => ?_, fun i tick' htick hloud => ?_,
    fun hq => silent_step (h.silent hq) e⟩
  · obtain ⟨run, hget, hclosed⟩ := hw.runs i run' hrun
    exact h.runs i run hget fun hc => hopen (hclosed hc)
  · obtain ⟨tick, hget, hwas⟩ := hw.ticks i tick' htick hloud
    exact h.ticks i tick hget hwas

theorem covered_stopAndWait (h : Covered s) : Covered s.stopAndWait := by
  intro waiter hmem
  rcases List.mem_append.mp hmem with hold | hnew
  · exact covers_step (h waiter hold) .stopAndWait
  · rw [List.mem_singleton.mp hnew]
    refine ⟨rfl, fun i run hrun hopen => ?_, fun i tick htick _ => ?_, fun hq => by cases hq⟩
    · have hrun' : s.stop.runs[i]? = some run := hrun
      obtain ⟨hlt, _⟩ := List.getElem?_eq_some_iff.mp hrun'
      refine List.mem_filter.mpr ⟨List.mem_range.mpr hlt, ?_⟩
      rw [hrun']
      simpa using hopen
    · exact (List.getElem?_eq_some_iff.mp htick).1

theorem silent_of_settled {waiter : Waiter} (h : Covers s waiter) (hsettled : s.Settled waiter) :
    Silent s := by
  refine ⟨h.lifecycle, fun i run hrun => ?_, fun i tick htick => ?_⟩
  · by_contra hopen
    exact hopen (hsettled.1 i (h.runs i run hrun hopen) run hrun)
  · by_contra hloud
    have hlt := h.ticks i tick htick (eq_false_of_ne_true hloud)
    have hmem : tick ∈ s.ticks.take waiter.ticks :=
      List.mem_of_getElem? (i := i) (by rw [List.getElem?_take_of_lt hlt, htick])
    exact hloud (isQuiet_of_settled (hsettled.2.2 tick hmem))

theorem covered_resolveStop (h : Covered s) (index : ℕ) (timedOut : Bool) :
    Covered (s.resolveStop index timedOut) := by
  unfold StrategyScheduler.resolveStop
  split
  · exact h
  · rename_i waiter hwaiter
    have hcovers := h waiter (List.mem_of_getElem? hwaiter)
    -- the waiters after the resolution: the old ones, and this one with its `quiesced`
    have hset : ∀ quiesced, (quiesced = true → Silent s) → Covered
        { s with waiters := s.waiters.set index { waiter with quiesced := some quiesced } } := by
      intro quiesced hsilent other hmem
      rcases List.mem_or_eq_of_mem_set hmem with hold | hnew
      · have hc := h other hold
        exact ⟨hc.lifecycle, hc.runs, hc.ticks, fun hq =>
          ⟨hc.lifecycle, (hc.silent hq).runs, (hc.silent hq).ticks⟩⟩
      · rw [hnew]
        refine ⟨hcovers.lifecycle, hcovers.runs, hcovers.ticks, fun hq => ?_⟩
        have hs := hsilent (Option.some.inj hq)
        exact ⟨hs.lifecycle, hs.runs, hs.ticks⟩
    split
    · exact h
    · split
      · exact hset false fun hq => by cases hq
      · split
        · rename_i hsettled
          exact hset true fun _ => silent_of_settled hcovers hsettled
        · exact h

theorem covered_step (s : StrategyScheduler config) (e : Event) (h : Covered s) :
    Covered (step s e) := by
  by_cases hwait : e = .stopAndWait
  · rw [hwait]
    exact covered_stopAndWait h
  · by_cases hresolve : ∃ waiter timedOut, e = .resolveStop waiter timedOut
    · obtain ⟨waiter, timedOut, rfl⟩ := hresolve
      exact covered_resolveStop h waiter timedOut
    · have hwaiters := (framed_step (s := s) hwait fun waiter timedOut he =>
        hresolve ⟨waiter, timedOut, he⟩).waiters
      intro waiter hmem
      rw [hwaiters] at hmem
      exact covers_step (h waiter hmem) e

/-- Some `stopAndWait` has resolved with `quiesced`. -/
def Quiesced (s : StrategyScheduler config) : Prop :=
  ∃ waiter ∈ s.waiters, waiter.quiesced = some true

instance (s : StrategyScheduler config) : Decidable (Quiesced s) := by
  unfold Quiesced
  infer_instance

/-- **A quiesced scheduler is silent**, in every run. -/
theorem silent_of_quiesced (held : Bool) (preflight : Option StartupPreflight) (es : List Event)
    (h : Quiesced (run step (create config held preflight) es)) :
    Silent (run step (create config held preflight) es) := by
  have hcovered : Covered (run step (create config held preflight) es) :=
    run_invariant Covered covered_step (by intro waiter hmem; cases hmem) es
  obtain ⟨waiter, hmem, hq⟩ := h
  exact (hcovered waiter hmem).silent hq

theorem trace_run_of_silent (h : Silent s) (es : List Event) : (run step s es).trace = s.trace := by
  induction es generalizing s with
  | nil => rfl
  | cons e es ih => rw [run_cons, ih (silent_step h e), trace_step_of_silent h e]

end AutoTrade.Scheduler.Silence
