import AutoTrade.Scheduler.Machine

/-! # The running flag

What each step of the scheduler does to the `running` flag of a market and to the runs that hold it:
a run holds the flag from the check that found it lowered until its result is applied. A run that is
rejected before that still holds it, until the scheduled caller applies a failed result for it.

Two steps lower the flag of a run that goes on (`Clears`): a tick that is skipped for its batch, and
a start that the preflight blocks. One lets a run go without lowering its flag (`Strands`): the
rejection of a run whose caller applies nothing. -/

namespace AutoTrade.Scheduler.Flags

open Lib.LockFlag Domain.Types Scheduler.Records
open Scheduler.Machine

variable {config : StrategySchedulerConfig} {s : StrategyScheduler config}

variable {market : SupportedMarket} {s' : StrategyScheduler config}

theorem flag_congr (hruns : s'.runs = s.runs)
    (hrunning : (s'.status market).running = (s.status market).running) :
    s'.flag market = s.flag market := by
  unfold StrategyScheduler.flag StrategyScheduler.holders
  rw [hruns, hrunning]

variable {index : ℕ} {phase : RunPhase} {run : Run config}

theorem moveRun_getElem? {i : ℕ} {run' : Run config} (hrun : s.runs[index]? = some run)
    (h : (s.moveRun index run phase).runs[i]? = some run') :
    (i = index ∧ run' = { run with phase }) ∨ (i ≠ index ∧ s.runs[i]? = some run') := by
  unfold StrategyScheduler.moveRun at h
  dsimp only at h
  rw [List.getElem?_set] at h
  by_cases hi : index = i
  · obtain ⟨hlt, _⟩ := List.getElem?_eq_some_iff.mp hrun
    rw [if_pos hi, if_pos hlt] at h
    exact Or.inl ⟨hi.symm, (Option.some.inj h).symm⟩
  · rw [if_neg hi] at h
    exact Or.inr ⟨fun h => hi h.symm, h⟩

/-- A run that moves and holds what it held leaves the flag. -/
theorem flag_moveRun_of_same (h : s.runs[index]? = some run) (phase : RunPhase)
    (market : SupportedMarket)
    (hsame : run.market = market → phase.holdsFlag = run.phase.holdsFlag) :
    (s.moveRun index run phase).flag market = s.flag market := by
  obtain ⟨hlt, hget⟩ := List.getElem?_eq_some_iff.mp h
  have hholds : Run.holds market { run with phase } = run.holds market := by
    unfold Run.holds Run.market
    by_cases hm : run.market = market
    · rw [hsame hm]
    · have hne : ¬ run.caller.market = market := hm
      simp only [hne, decide_false, Bool.false_and]
  have hpos : run.holds market = true → 0 < s.runs.countP (Run.holds market) := fun hp =>
    List.countP_pos_iff.mpr ⟨run, List.mem_of_getElem? h, hp⟩
  unfold StrategyScheduler.flag StrategyScheduler.holders StrategyScheduler.moveRun
  congr 1
  rw [List.countP_set hlt, hget, hholds]
  split
  · rename_i hp
    have := hpos hp
    omega
  · omega

theorem holders_moveRun_of_lowered (h : s.runs[index]? = some run) (phase : RunPhase)
    (hold : run.phase.holdsFlag = true) (hdown : phase.holdsFlag = false) :
    s.holders run.market = (s.moveRun index run phase).holders run.market + 1 := by
  obtain ⟨hlt, hget⟩ := List.getElem?_eq_some_iff.mp h
  have hself : run.holds run.market = true := by simp [Run.holds, hold]
  have hnew : Run.holds run.market { run with phase } = false := by simp [Run.holds, hdown]
  have hpos : 0 < s.runs.countP (Run.holds run.market) :=
    List.countP_pos_iff.mpr ⟨run, List.mem_of_getElem? h, hself⟩
  unfold StrategyScheduler.holders StrategyScheduler.moveRun
  rw [List.countP_set hlt, hget, hself, hnew]
  simp only [if_true, Bool.false_eq_true, if_false]
  omega

theorem rejected_of_settled (hsettled : phase.settled = true) (hhold : phase.holdsFlag = true) :
    ∃ failure, phase = .rejected failure := by
  cases phase <;> simp_all [RunPhase.settled, RunPhase.holdsFlag]

/-! ### What a stretch of a run does -/

/-- Either nothing is applied and the flag is held as before, or the holder applies its result. -/
def Lowers (holds : Bool) (seg : Segment) : Prop :=
  (seg.applied = none ∧ seg.phase.holdsFlag = holds) ∨
    (holds = true ∧ seg.applied.isSome = true ∧ seg.phase.holdsFlag = false)

theorem lowers_goto {holds : Bool} (h : phase.holdsFlag = holds) :
    Lowers holds (.goto phase) := Or.inl ⟨rfl, h⟩

theorem holdsFlag_lostWhileSaving (next : AfterSave) :
    (lostWhileSaving next).holdsFlag = next.beforeRun := by cases next <;> rfl

variable (entry : StrategySchedulerMarketConfig)

theorem holdsFlag_preparePreflight (startedAt : ℕ) :
    (preparePreflight config entry startedAt).holdsFlag = true := by
  unfold preparePreflight
  split <;> rfl

theorem lowers_failAfterCatch (held : Bool) (entry : StrategySchedulerMarketConfig)
    (startedAt now : ℕ) (prefixText : String) (failure : Failure) :
    Lowers true (failAfterCatch config held entry startedAt now prefixText failure) := by
  cases failure with
  | ownership => exact lowers_goto rfl
  | other message =>
    rw [failAfterCatch]
    split
    · exact lowers_goto rfl
    · exact Or.inr ⟨rfl, rfl, rfl⟩

theorem lowers_segmentSaving (held : Bool) (record : SchedulerRunRecord) (update : Bool)
    (next : AfterSave) : Lowers next.beforeRun (segmentSaving config held record update next) := by
  unfold segmentSaving
  split
  · exact lowers_goto rfl
  · split
    · exact lowers_goto (holdsFlag_lostWhileSaving next)
    · exact Or.inl ⟨rfl, rfl⟩

theorem lowers_segmentSaved (held : Bool) (next : AfterSave) (outcome : Except Failure Unit) :
    Lowers next.beforeRun (segmentSaved held next outcome) := by
  have hlost := lowers_goto (holdsFlag_lostWhileSaving next)
  have hsaved : ∀ persisted, Lowers next.beforeRun (.goto (.saved persisted next)) :=
    fun _ => lowers_goto rfl
  unfold segmentSaved
  split
  · exact hlost
  · split
    · exact hlost
    · exact hsaved false
  · split
    · exact hlost
    · exact hsaved true

theorem lowers_segmentAfterSave (persisted : Bool) (now : ℕ) (next : AfterSave) :
    Lowers next.beforeRun (segmentAfterSave entry persisted now next) := by
  cases next with
  | report result => exact lowers_goto rfl
  | requestRun startedAt record =>
    rw [segmentAfterSave]
    split
    · exact Or.inl ⟨rfl, rfl⟩
    · exact Or.inr ⟨rfl, rfl, rfl⟩

theorem lowers_segmentReporting (held : Bool) (entry : StrategySchedulerMarketConfig)
    (result : StrategyRunResult) : Lowers false (segmentReporting config held entry result) := by
  unfold segmentReporting
  split
  · exact lowers_goto rfl
  · split
    · exact lowers_goto rfl
    · exact Or.inl ⟨rfl, rfl⟩

theorem lowers_segmentReported (held : Bool) (result : StrategyRunResult)
    (outcome : Except Failure Unit) : Lowers false (segmentReported held result outcome) := by
  unfold segmentReported
  split
  · exact lowers_goto rfl
  · split
    · exact lowers_goto rfl
    · exact lowers_goto rfl

variable {answer : Answer} {now : ℕ}

/-- **One stretch of `executeMarketNow`** keeps the flag, or applies the result and lowers it. -/
theorem lowers_segment {held : Bool} {entry : StrategySchedulerMarketConfig} {seg : Segment}
    (h : Machine.segment config held entry phase answer now = some seg) :
    Lowers phase.holdsFlag seg := by
  unfold Machine.segment at h
  split at h <;> first | rw [← Option.some.inj h] | cases h
  · exact lowers_failAfterCatch ..
  · exact lowers_goto rfl
  · split
    · exact lowers_goto rfl
    · exact lowers_goto (holdsFlag_preparePreflight ..)
  · exact lowers_failAfterCatch ..
  · split
    · exact lowers_goto rfl
    · split
      · exact Or.inr ⟨rfl, rfl, rfl⟩
      · exact lowers_goto (holdsFlag_preparePreflight ..)
  · exact lowers_failAfterCatch ..
  · split
    · exact lowers_goto rfl
    · split
      · exact Or.inr ⟨rfl, rfl, rfl⟩
      · exact lowers_goto rfl
  · exact lowers_segmentSaving ..
  · exact lowers_segmentSaved ..
  · exact lowers_segmentAfterSave ..
  · exact lowers_goto rfl
  · split
    · exact lowers_goto rfl
    · exact Or.inr ⟨rfl, rfl, rfl⟩
  · exact lowers_segmentReporting ..
  · exact lowers_segmentReported ..

/-! ### What leaves the flag alone -/

theorem flag_updateMarketStatus (patch : MarketStatus → MarketStatus)
    (h : ∀ current, (patch current).running = current.running) (target market : SupportedMarket) :
    (s.updateMarketStatus target patch).flag market = s.flag market := by
  refine flag_congr rfl ?_
  show (Function.update s.status target (patch (s.status target)) market).running = _
  by_cases hm : market = target
  · rw [hm, Function.update_self, h]
  · rw [Function.update_of_ne hm]

variable (entry : Entry config)

theorem flag_scheduleMarket (delayMs now : ℕ) (market : SupportedMarket) :
    (s.scheduleMarket entry delayMs now).flag market = s.flag market := by
  unfold StrategyScheduler.scheduleMarket
  split
  · rfl
  · exact flag_updateMarketStatus (s := s)
      (fun current => { current with nextRunAt := some (now + delayMs) }) (fun _ => rfl)
      entry.1.market market

theorem flag_foldl_scheduleMarket (entries : List (Entry config)) (now : ℕ)
    (market : SupportedMarket) :
    (entries.foldl (fun s entry => s.scheduleMarket entry entry.1.intervalMs now) s).flag market =
      s.flag market := by
  induction entries generalizing s with
  | nil => rfl
  | cons entry entries ih => rw [List.foldl_cons, ih, flag_scheduleMarket]

theorem flag_stop (market : SupportedMarket) : s.stop.flag market = s.flag market := by
  refine flag_congr rfl ?_
  unfold StrategyScheduler.stop
  dsimp only
  split <;> rfl

theorem flag_handleRuntimeOwnershipFailure (failure : Failure) (market : SupportedMarket) :
    (s.handleRuntimeOwnershipFailure failure).flag market = s.flag market := by
  unfold StrategyScheduler.handleRuntimeOwnershipFailure
  split
  · exact flag_stop market
  · rfl

theorem flag_skipTick (phase : RunPhase) (answer : Answer) (now : ℕ) (market : SupportedMarket) :
    (s.skipTick entry phase answer now).1.flag market = s.flag market := by
  unfold StrategyScheduler.skipTick
  split <;> rfl

/-! ### Starting and applying -/

variable {caller : Caller config}

/-- A call of `runMarketNow` changes nothing when it is refused. -/
theorem runMarketNow_error {failure : Failure}
    (h : s.runMarketNow caller now = (s', .error failure)) :
    s' = s ∧ ((s.ownershipHeld = false ∧ failure = .ownership) ∨ s.lifecycle = .stopBegun ∨
      config.find caller.market = none) := by
  unfold StrategyScheduler.runMarketNow at h
  split at h
  · rename_i hheld
    obtain ⟨rfl, hfailure⟩ := Prod.mk.injEq .. ▸ h
    exact ⟨rfl, Or.inl ⟨hheld, (Except.error.inj hfailure).symm⟩⟩
  · split at h
    · rename_i hstop
      obtain ⟨rfl, _⟩ := Prod.mk.injEq .. ▸ h
      exact ⟨rfl, Or.inr (Or.inl hstop)⟩
    · split at h
      · rename_i hfind
        obtain ⟨rfl, _⟩ := Prod.mk.injEq .. ▸ h
        exact ⟨rfl, Or.inr (Or.inr hfind)⟩
      · split at h
        · cases (Prod.mk.injEq .. ▸ h).2
        · cases (Prod.mk.injEq .. ▸ h).2

theorem find_entry : config.find entry.1.market ≠ none := by
  intro h
  have hnone := List.find?_eq_none.mp h entry.1 entry.2
  simp at hnone

variable {entry : Entry config}

theorem runMarketNow_error_of_started (hcaller : caller.market = entry.1.market)
    (hstarted : s.lifecycle = .started) {failure : Failure}
    (h : s.runMarketNow caller now = (s', .error failure)) : s' = s ∧ failure = .ownership := by
  obtain ⟨hs, ⟨_, hf⟩ | hstop | hfind⟩ := runMarketNow_error h
  · exact ⟨hs, hf⟩
  · rw [hstarted] at hstop
    cases hstop
  · rw [hcaller] at hfind
    exact absurd hfind (find_entry entry)

/-- **A run raises a lowered flag and holds it**; without one to raise, the flag stays. -/
theorem move_runMarketNow (caller : Caller config) (now : ℕ) (market : SupportedMarket)
    (clears strands : Prop) :
    Move clears strands (s.flag market) ((s.runMarketNow caller now).1.flag market) := by
  unfold StrategyScheduler.runMarketNow
  split
  · exact .stay rfl
  · split
    · exact .stay rfl
    · split
      · exact .stay rfl
      · rename_i entry _
        split
        · -- skipped: the new run does not hold the flag
          refine .stay ?_
          have hpatch := flag_updateMarketStatus (s := s)
            (fun current =>
              { current with
                skippedCount := current.skippedCount + 1
                lastCompletedAt := some now
                lastStatus := .run .alreadyRunning
                lastError := none })
            (fun _ => rfl) caller.market market
          rw [← hpatch]
          simp [StrategyScheduler.flag, StrategyScheduler.holders,
            StrategyScheduler.updateMarketStatus, Run.holds, RunPhase.holdsFlag,
            AfterSave.beforeRun]
        · rename_i hdown
          by_cases hm : market = caller.market
          · refine .mark ?_ ?_ ?_
            · rw [hm]
              exact eq_false_of_ne_true hdown
            · simp [StrategyScheduler.flag, StrategyScheduler.updateMarketStatus, hm]
            · simp [StrategyScheduler.flag, StrategyScheduler.holders,
                StrategyScheduler.updateMarketStatus, Run.holds, Run.market, RunPhase.holdsFlag, hm]
          · refine .stay ?_
            have hne : ¬ caller.market = market := fun h => hm h.symm
            simp [StrategyScheduler.flag, StrategyScheduler.holders,
              StrategyScheduler.updateMarketStatus, Run.holds, Run.market, Function.update_of_ne hm,
              hne]

@[simp] theorem applyResult_runs (market : SupportedMarket)
    (applied : Option (StrategyRunResult × ℕ × ℕ)) :
    (s.applyResult market applied).runs = s.runs := by
  cases applied <;> rfl

theorem applyResult_running_of_ne {target market : SupportedMarket} (h : market ≠ target)
    (applied : Option (StrategyRunResult × ℕ × ℕ)) :
    ((s.applyResult target applied).status market).running = (s.status market).running := by
  cases applied with
  | none => rfl
  | some applied =>
    show (Function.update s.status target _ market).running = _
    rw [Function.update_of_ne h]

theorem applyResult_running_self {applied : Option (StrategyRunResult × ℕ × ℕ)}
    (h : applied.isSome = true) (market : SupportedMarket) :
    ((s.applyResult market applied).status market).running = false := by
  obtain ⟨applied, rfl⟩ := Option.isSome_iff_exists.mp h
  show (Function.update s.status market _ market).running = false
  rw [Function.update_self, applyRunResult_running]

theorem move_advance (index : ℕ) (answer : Answer) (now : ℕ) (market : SupportedMarket)
    (clears strands : Prop) :
    Move clears strands (s.flag market) ((s.advance index answer now).flag market) := by
  unfold StrategyScheduler.advance
  split
  · exact .stay rfl
  · rename_i run hrun
    split
    · exact .stay rfl
    · rename_i seg hseg
      have hrun' : ((s.applyResult run.market seg.applied).emit seg.effects).runs[index]? =
          some run := by
        rw [← hrun]
        exact congrArg (fun runs => runs[index]?) (applyResult_runs run.market seg.applied)
      by_cases hm : run.market = market
      · rcases lowers_segment hseg with ⟨hnone, hkeep⟩ | ⟨hold, hsome, hdown⟩
        · refine .stay ?_
          rw [flag_moveRun_of_same hrun' seg.phase market fun _ => hkeep, hnone]
          rfl
        · refine .lower ?_ ?_
          · rw [← hm]
            exact applyResult_running_self hsome run.market
          · rw [← hm]
            have hcount := holders_moveRun_of_lowered hrun' seg.phase hold hdown
            have hsame : ((s.applyResult run.market seg.applied).emit seg.effects).holders
                run.market = s.holders run.market :=
              congrArg (List.countP (Run.holds run.market))
                (applyResult_runs run.market seg.applied)
            rw [hsame] at hcount
            exact hcount
      · refine .stay ?_
        rw [flag_moveRun_of_same hrun' seg.phase market fun h => absurd h hm]
        exact flag_congr (applyResult_runs _ _) (applyResult_running_of_ne (Ne.symm hm) _)

/-! ### Scheduled callers -/

theorem catchScheduled_runs (entry : Entry config) (failure : Failure) (now : ℕ)
    (heldAtReport : Bool) : (s.catchScheduled entry failure now heldAtReport).1.runs = s.runs := by
  unfold StrategyScheduler.catchScheduled
  split
  · rfl
  · split
    · rfl
    · dsimp only
      split
      · exact applyResult_runs ..
      · split
        · exact applyResult_runs ..
        · exact applyResult_runs ..

theorem catchScheduled_status (hheld : s.ownershipHeld = true) (entry : Entry config)
    (message : String) (now : ℕ) (heldAtReport : Bool) :
    (s.catchScheduled entry (.other message) now heldAtReport).1.status =
      (s.applyResult entry.1.market (some
        (createFailedRunResult now entry.1.market ("Strategy scheduler failed: " ++ message),
          now, now))).status := by
  unfold StrategyScheduler.catchScheduled
  dsimp only
  rw [if_neg (by rw [hheld]; decide)]
  split
  · rfl
  · split <;> rfl

theorem move_runScheduledMarket (hcaller : caller.market = entry.1.market)
    (hstarted : s.lifecycle = .started) (now : ℕ) (market : SupportedMarket)
    (clears strands : Prop) :
    Move clears strands (s.flag market) ((s.runScheduledMarket caller entry now).1.flag market) := by
  have hmove := move_runMarketNow (s := s) caller now market clears strands
  unfold StrategyScheduler.runScheduledMarket
  split
  · rename_i s' run hrun
    rw [hrun] at hmove
    exact hmove
  · rename_i s' failure hrun
    obtain ⟨rfl, rfl⟩ := runMarketNow_error_of_started hcaller hstarted hrun
    exact .stay rfl

/-! ### What a step does to the flag -/

/-- The step lets a run go without lowering its flag: the run was rejected, and its caller is not a
scheduled one that applies the failure. -/
def Strands (s : StrategyScheduler config) : Event → Prop
  | .react index _ _ => ∃ run, s.runs[index]? = some run ∧ ∃ failure,
      run.phase = .rejected failure ∧
        (failure = .ownership ∨ s.ownershipHeld = false ∨ run.caller.isDirect = true)
  | _ => False

/-- The step lowers the flag of the market whoever holds it. -/
def Clears (s : StrategyScheduler config) (market : SupportedMarket) : Event → Prop
  | .start _ => s.startBlock.isSome = true
  | .advanceTick index _ _ => ∃ tick ∈ s.ticks[index]?, tick.phase = .queued ∧
      s.skipsTick tick = true ∧ tick.entry.1.market = market
  | _ => False

instance (s : StrategyScheduler config) (market : SupportedMarket) (e : Event) :
    Decidable (Clears s market e) := by
  cases e <;> unfold Clears <;> infer_instance

/-- A scheduled caller resumes: the flag is lowered for a failure it applies. -/
theorem move_resumed (hrun : s.runs[index]? = some run) (hsettled : run.phase.settled = true)
    (entry : Entry config) (hcaller : run.market = entry.1.market) (now : ℕ) (heldAtReport : Bool)
    (market : SupportedMarket) (clears strands : Prop)
    (hstrands : ∀ failure, run.phase = .rejected failure →
      failure = .ownership ∨ s.ownershipHeld = false → strands) :
    Move clears strands (s.flag market)
      (((s.moveRun index run .closed).resumeScheduled entry run.phase now heldAtReport).1.flag
        market) := by
  have hkeep : run.phase.holdsFlag = false →
      Move clears strands (s.flag market) ((s.moveRun index run .closed).flag market) := fun h =>
    .stay (flag_moveRun_of_same hrun .closed market fun _ => h.symm)
  unfold StrategyScheduler.resumeScheduled
  split
  · rename_i result hphase
    exact hkeep (by rw [hphase]; rfl)
  · rename_i failure hphase
    by_cases hlost : failure = .ownership ∨ s.ownershipHeld = false
    · exact .strand (hstrands failure hphase hlost)
    · rw [not_or] at hlost
      cases failure with
      | ownership => exact absurd rfl hlost.1
      | other message =>
        have hheld : (s.moveRun index run .closed).ownershipHeld = true :=
          eq_true_of_ne_false hlost.2
        have hstatus := catchScheduled_status hheld entry message now heldAtReport
        by_cases hm : market = run.market
        · have hcount := holders_moveRun_of_lowered hrun .closed (by rw [hphase]; rfl) rfl
          refine .lower ?_ ?_
          · unfold StrategyScheduler.flag
            rw [hstatus, hm, hcaller]
            exact applyResult_running_self rfl _
          · unfold StrategyScheduler.flag StrategyScheduler.holders
            rw [catchScheduled_runs, hm]
            exact hcount
        · refine .stay ?_
          rw [← flag_moveRun_of_same (s := s) hrun .closed market fun h => absurd h.symm hm]
          refine flag_congr (catchScheduled_runs ..) ?_
          rw [hstatus]
          exact applyResult_running_of_ne (fun h => hm (h.trans hcaller.symm)) _
  · rename_i hnf hnr
    refine hkeep (eq_false_of_ne_true fun hhold => ?_)
    obtain ⟨failure, hphase⟩ := rejected_of_settled hsettled hhold
    exact hnr failure hphase

variable {clears strands : Prop} {tick : Tick config}

theorem move_startTick (hclears : s.skipsTick tick = true → tick.entry.1.market = market → clears) :
    Move clears strands (s.flag market) ((s.startTick index tick now).1.flag market) := by
  unfold StrategyScheduler.startTick
  split
  · exact .stay rfl
  · rename_i hstarted
    split
    · rename_i hskip
      dsimp only
      by_cases hm : tick.entry.1.market = market
      · refine .clear (hclears hskip hm) ?_ ?_
        · rw [← hm]
          exact applyResult_running_self rfl _
        · rfl
      · exact .stay (flag_congr (applyResult_runs ..)
          (applyResult_running_of_ne (Ne.symm hm) _))
    · have hrunning : s.lifecycle = .started := by
        rw [not_or, not_not] at hstarted
        exact hstarted.1
      exact move_runScheduledMarket rfl hrunning now market clears strands

theorem move_tickSegment
    (hclears : tick.phase = .queued → s.skipsTick tick = true → tick.entry.1.market = market →
      clears) :
    Move clears strands (s.flag market) ((s.tickSegment index tick answer now).1.flag market) := by
  unfold StrategyScheduler.tickSegment
  split
  · rename_i hqueued
    split
    · exact move_startTick (hclears hqueued)
    · exact .stay rfl
  · exact .stay rfl
  · split <;> exact .stay rfl
  · exact .stay rfl
  · exact .stay rfl
  · exact .stay (flag_skipTick ..)
  · exact .stay (flag_scheduleMarket ..)
  · refine .stay ?_
    dsimp only
    split
    · exact flag_handleRuntimeOwnershipFailure ..
    · exact flag_scheduleMarket ..
  · exact .stay rfl

theorem move_loopSegment {loop : StartLoop config} :
    Move clears strands (s.flag market) ((s.loopSegment loop answer now).1.flag market) := by
  unfold StrategyScheduler.loopSegment
  split
  · exact .stay rfl
  · split
    · exact .stay rfl
    · rename_i hstarted
      have hrunning : s.lifecycle = .started := by
        rw [not_or, not_not] at hstarted
        exact hstarted.1
      exact move_runScheduledMarket rfl hrunning now market clears strands
  · split <;> exact .stay rfl
  · exact .stay (flag_scheduleMarket ..)
  · exact .stay (flag_handleRuntimeOwnershipFailure ..)
  · exact .stay rfl
  · exact .stay rfl

theorem move_start (now : ℕ) (market : SupportedMarket) (strands : Prop) :
    Move (s.startBlock.isSome = true) strands (s.flag market) ((s.start now).flag market) := by
  unfold StrategyScheduler.start
  split
  · exact .stay rfl
  · split
    · rename_i preflight hblock
      by_cases hconfigured : (config.find market).isSome = true
      · refine .clear (by rw [hblock]; rfl) ?_ rfl
        show (if (config.find market).isSome then _ else _ : MarketStatus).running = false
        rw [if_pos hconfigured]
      · refine .stay (flag_congr rfl ?_)
        show (if (config.find market).isSome then _ else _ : MarketStatus).running = _
        rw [if_neg hconfigured]
    · dsimp only
      split
      · exact .stay rfl
      · exact .stay (flag_foldl_scheduleMarket ..)

theorem move_react (index now : ℕ) (heldAtReport : Bool) (market : SupportedMarket)
    (clears : Prop) :
    Move clears (Strands s (.react index now heldAtReport)) (s.flag market)
      ((s.react index now heldAtReport).flag market) := by
  unfold StrategyScheduler.react
  split
  · exact .stay rfl
  · rename_i run hrun
    split
    · exact .stay rfl
    · rename_i hsettled
      have hsettled := eq_true_of_ne_false hsettled
      have hstrands : ∀ failure, run.phase = .rejected failure →
          failure = .ownership ∨ s.ownershipHeld = false →
            Strands s (.react index now heldAtReport) := fun failure hphase hlost =>
        ⟨run, hrun, failure, hphase, hlost.imp_right Or.inl⟩
      dsimp only
      split
      · rename_i target hcaller
        by_cases hhold : run.phase.holdsFlag = true
        · obtain ⟨failure, hphase⟩ := rejected_of_settled hsettled hhold
          exact .strand ⟨run, hrun, failure, hphase, Or.inr (Or.inr (by rw [hcaller]; rfl))⟩
        · exact .stay (flag_moveRun_of_same hrun .closed market fun _ =>
            (eq_false_of_ne_true hhold).symm)
      · rename_i tick entry hcaller
        exact move_resumed hrun hsettled entry (by rw [Run.market, hcaller]; rfl) now heldAtReport
          market clears _ hstrands
      · rename_i entry hcaller
        exact move_resumed hrun hsettled entry (by rw [Run.market, hcaller]; rfl) now heldAtReport
          market clears _ hstrands

/-- **Every step of the scheduler moves the flag of a market** as a lock is moved, but for the steps
that clear it and the steps that strand it. -/
theorem move_step (s : StrategyScheduler config) (e : Event) (market : SupportedMarket) :
    Move (Clears s market e) (Strands s e) (s.flag market) ((step s e).flag market) := by
  cases e with
  | start now => exact move_start now market _
  | runMarketNow target now => exact move_runMarketNow (.direct target) now market _ _
  | advance run answer now => exact move_advance run answer now market _ _
  | react run now heldAtReport => exact move_react run now heldAtReport market _
  | advanceTick index answer now =>
    show Move _ _ _ ((s.advanceTick index answer now).flag market)
    unfold StrategyScheduler.advanceTick
    split
    · exact .stay rfl
    · rename_i tick htick
      exact move_tickSegment fun hqueued hskip hm => ⟨tick, htick, hqueued, hskip, hm⟩
  | advanceLoop answer now =>
    show Move _ _ _ ((s.advanceLoop answer now).flag market)
    unfold StrategyScheduler.advanceLoop
    split
    · exact .stay rfl
    · exact move_loopSegment
  | timerFired id =>
    refine .stay ?_
    show (s.timerFired id).flag market = _
    unfold StrategyScheduler.timerFired
    split <;> rfl
  | reportStartupBlockIfNeeded =>
    refine .stay ?_
    show s.reportStartupBlockIfNeeded.flag market = _
    unfold StrategyScheduler.reportStartupBlockIfNeeded
    split <;> rfl
  | stop => exact .stay (flag_stop market)
  | stopAndWait => exact .stay (flag_stop market)
  | resolveStop waiter timedOut =>
    refine .stay ?_
    show (s.resolveStop waiter timedOut).flag market = _
    unfold StrategyScheduler.resolveStop
    split
    · rfl
    · split_ifs <;> rfl
  | ownership held => exact .stay rfl
  | setStartupPreflight preflight => exact .stay rfl
  | startupBlockReported report => exact .stay rfl

end AutoTrade.Scheduler.Flags
