import AutoTrade.Scheduler.Rejections

/-! # The timers, the queue and the remembered batch

What a step does to the part of the scheduler that decides about the batches: the timers with the time
they were armed for, the queue of ticks and the batch that an order was submitted in. Nothing but a
timer that fires enqueues a tick, nothing but a tick that ends remembers a batch, and a run belongs to
a tick only when that tick started it. -/

namespace AutoTrade.Scheduler.Batches

open Domain.Types Scheduler.Records
open Scheduler.Machine Scheduler.Flags Scheduler.Rejections
open Scheduler.Machine.StrategyScheduler (buildSchedulerBatchKey)

variable {config : StrategySchedulerConfig} {s s' s'' : StrategyScheduler config}

/-! ### When a timer was armed for -/

def nextRunAt : Effect → Option ℕ
  | .setTimer _ nextRunAt => some nextRunAt
  | _ => none

/-- The times for which the timers were armed, in the order of their ids. -/
def plans (s : StrategyScheduler config) : List ℕ := s.trace.filterMap nextRunAt

/-- A timer carries the batch of the time it was armed for. -/
structure Timed (s : StrategyScheduler config) : Prop where
  count : s.timerCount = (plans s).length
  armed : ∀ timer ∈ s.armed, ∃ planned, (plans s)[timer.id]? = some planned ∧
    timer.batchKey = buildSchedulerBatchKey planned

/-! ### The effects of a run -/

/-- Nothing but `scheduleMarket` sets a timer. -/
def SetsNoTimer (effects : List Effect) : Prop := ∀ effect ∈ effects, nextRunAt effect = none

theorem setsNoTimer_nil : SetsNoTimer [] := fun _ hmem => (nomatch hmem)

theorem setsNoTimer_singleton {effect : Effect} (h : nextRunAt effect = none) :
    SetsNoTimer [effect] := by
  intro other hmem
  rw [List.mem_singleton.mp hmem]
  exact h

section Segments
variable (held : Bool) (entry : StrategySchedulerMarketConfig)

theorem setsNoTimer_failAfterCatch (startedAt now : ℕ) (prefixText : String) (failure : Failure) :
    SetsNoTimer (failAfterCatch config held entry startedAt now prefixText failure).effects := by
  cases failure with
  | ownership => exact setsNoTimer_nil
  | other message =>
    unfold failAfterCatch
    dsimp only
    split <;> exact setsNoTimer_nil

theorem setsNoTimer_segment {phase : RunPhase} {answer : Answer} {now : ℕ} {seg : Segment}
    (h : Machine.segment config held entry phase answer now = some seg) : SetsNoTimer seg.effects := by
  unfold Machine.segment at h
  split at h <;> first | rw [← Option.some.inj h] | cases h
  · exact setsNoTimer_failAfterCatch _ _ _ _ _ _
  · exact setsNoTimer_nil
  · exact setsNoTimer_nil
  · exact setsNoTimer_failAfterCatch _ _ _ _ _ _
  · split
    · exact setsNoTimer_nil
    · split <;> exact setsNoTimer_nil
  · exact setsNoTimer_failAfterCatch _ _ _ _ _ _
  · split
    · exact setsNoTimer_nil
    · split <;> exact setsNoTimer_nil
  · -- a record is saved
    unfold segmentSaving
    split
    · exact setsNoTimer_nil
    · split
      · exact setsNoTimer_nil
      · refine setsNoTimer_singleton ?_
        split <;> rfl
  · unfold segmentSaved
    split
    · exact setsNoTimer_nil
    · split <;> exact setsNoTimer_nil
    · split <;> exact setsNoTimer_nil
  · unfold segmentAfterSave
    split
    · exact setsNoTimer_nil
    · split
      · exact setsNoTimer_singleton rfl
      · exact setsNoTimer_nil
  · exact setsNoTimer_nil
  · split <;> exact setsNoTimer_nil
  · unfold segmentReporting
    split
    · exact setsNoTimer_nil
    · split
      · exact setsNoTimer_nil
      · exact setsNoTimer_singleton rfl
  · unfold segmentReported
    split
    · exact setsNoTimer_nil
    · split <;> exact setsNoTimer_nil

end Segments

/-! ### Everything but the queue -/

/-- A tick as it was, or still running. -/
def Resumes (before after : Tick config) : Prop :=
  after.entry = before.entry ∧ after.batchKey = before.batchKey ∧
    (after.phase = before.phase ∨
      ∃ phase next, before.phase = .running phase ∧ after.phase = .running next)

/-- The same ticks, some of which run on. -/
structure Rephased (before after : List (Tick config)) : Prop where
  length : after.length = before.length
  tick : ∀ (i : ℕ) (tick : Tick config), before[i]? = some tick →
    ∃ next, after[i]? = some next ∧ Resumes tick next

theorem rephased_refl (ticks : List (Tick config)) : Rephased ticks ticks :=
  ⟨rfl, fun _ tick h => ⟨tick, h, rfl, rfl, Or.inl rfl⟩⟩

variable {before after : List (Tick config)}

theorem rephased_of_eq (h : after = before) :
    Rephased before after := h ▸ rephased_refl before

theorem Rephased.trans {first second third : List (Tick config)} (h : Rephased first second)
    (h' : Rephased second third) : Rephased first third := by
  refine ⟨h'.length.trans h.length, fun i tick htick => ?_⟩
  obtain ⟨middle, hmiddle, hentry, hkey, hphase⟩ := h.tick i tick htick
  obtain ⟨last, hlast, hentry', hkey', hphase'⟩ := h'.tick i middle hmiddle
  refine ⟨last, hlast, hentry'.trans hentry, hkey'.trans hkey, ?_⟩
  rcases hphase' with hsame' | ⟨phase', next', hfrom', hto'⟩
  · rw [hsame']
    exact hphase
  · rcases hphase with hsame | ⟨phase, next, hfrom, -⟩
    · exact Or.inr ⟨phase', next', hsame ▸ hfrom', hto'⟩
    · exact Or.inr ⟨phase, next', hfrom, hto'⟩

theorem Rephased.back (h : Rephased before after) {i : ℕ} {next : Tick config}
    (hnext : after[i]? = some next) : ∃ tick, before[i]? = some tick ∧ Resumes tick next := by
  have hlt : i < before.length := by
    rw [← h.length]
    exact (List.getElem?_eq_some_iff.mp hnext).1
  obtain ⟨other, hother, hresumes⟩ := h.tick i before[i] (List.getElem?_eq_getElem hlt)
  rw [hnext] at hother
  rw [Option.some.inj hother]
  exact ⟨before[i], List.getElem?_eq_getElem hlt, hresumes⟩

theorem Resumes.settled {before after : Tick config} (h : Resumes before after) :
    after.phase.settled = before.phase.settled := by
  obtain ⟨-, -, hsame | ⟨phase, next, hfrom, hto⟩⟩ := h
  · rw [hsame]
  · rw [hfrom, hto]
    rfl

theorem Resumes.queued {before after : Tick config} (h : Resumes before after) :
    after.phase = .queued ↔ before.phase = .queued := by
  obtain ⟨-, -, hsame | ⟨phase, next, hfrom, hto⟩⟩ := h
  · rw [hsame]
  · rw [hfrom, hto]
    simp

theorem Rephased.keys (h : Rephased before after) :
    after.map Tick.batchKey = before.map Tick.batchKey := by
  refine List.ext_getElem? fun i => ?_
  rw [List.getElem?_map, List.getElem?_map]
  cases htick : before[i]? with
  | none =>
    have hnone : after[i]? = none := by
      rw [List.getElem?_eq_none_iff, h.length]
      exact List.getElem?_eq_none_iff.mp htick
    rw [hnone]
  | some tick =>
    obtain ⟨next, hnext, -, hkey, -⟩ := h.tick i tick htick
    rw [hnext, Option.map_some, Option.map_some, hkey]

/-- A step that leaves the queue and the remembered batch alone, and gives runs to the callers `new`
only. -/
structure Moves (new : Caller config → Prop) (s s' : StrategyScheduler config) : Prop where
  ticks : Rephased s.ticks s'.ticks
  remembered : s'.orderSubmittedBatchKey = s.orderSubmittedBatchKey
  timed : Timed s → Timed s'
  created : s'.lifecycle = .created → s.lifecycle = .created ∧ s'.armed = s.armed
  started : s'.lifecycle = .started →
    s.lifecycle = .started ∨ s.lifecycle = .created ∧ config.enabled = true
  callers : ∀ run ∈ s'.runs, (∃ old ∈ s.runs, old.caller = run.caller) ∨ new run.caller

section Moves

variable {new : Caller config → Prop}

theorem moves_refl (new : Caller config → Prop) (s : StrategyScheduler config) : Moves new s s :=
  ⟨rephased_refl _, rfl, id, fun h => ⟨h, rfl⟩, Or.inl, fun run hmem => Or.inl ⟨run, hmem, rfl⟩⟩

theorem Moves.trans (h : Moves new s s') (h' : Moves new s' s'') : Moves new s s'' := by
  refine ⟨h.ticks.trans h'.ticks, h'.remembered.trans h.remembered, fun ht => h'.timed (h.timed ht),
    fun hcreated => ?_, fun hstarted => ?_, fun run hmem => ?_⟩
  · obtain ⟨hmiddle, harmed⟩ := h'.created hcreated
    obtain ⟨hfirst, harmed'⟩ := h.created hmiddle
    exact ⟨hfirst, harmed.trans harmed'⟩
  · rcases h'.started hstarted with hmiddle | ⟨hmiddle, henabled⟩
    · exact h.started hmiddle
    · exact Or.inr ⟨(h.created hmiddle).1, henabled⟩
  · rcases h'.callers run hmem with ⟨old, hold, hcaller⟩ | hnew
    · rw [← hcaller]
      exact h.callers old hold
    · exact Or.inr hnew

theorem Moves.stopped (h : Moves new s s')
    (hstopped : s.lifecycle = .stopBegun) : s'.lifecycle = .stopBegun := by
  cases hlifecycle : s'.lifecycle with
  | created =>
    have hcreated := (h.created hlifecycle).1
    rw [hstopped] at hcreated
    cases hcreated
  | started =>
    rcases h.started hlifecycle with hstarted | ⟨hcreated, -⟩
    · rw [hstopped] at hstarted
      cases hstarted
    · rw [hstopped] at hcreated
      cases hcreated
  | stopBegun => rfl

variable {effects : List Effect}

section

variable (hticks : s'.ticks = s.ticks)
  (hremembered : s'.orderSubmittedBatchKey = s.orderSubmittedBatchKey) (harmed : s'.armed = s.armed)
  (hcount : s'.timerCount = s.timerCount) (hlifecycle : s'.lifecycle = s.lifecycle)
include hticks hremembered harmed hcount hlifecycle

theorem moves_of_effects (htrace : s'.trace = s.trace ++ effects) (heffects : SetsNoTimer effects)
    (hcallers : ∀ run ∈ s'.runs, (∃ old ∈ s.runs, old.caller = run.caller) ∨ new run.caller) :
    Moves new s s' := by
  have hplans : plans s' = plans s := by
    unfold plans
    rw [htrace, List.filterMap_append, List.filterMap_eq_nil_iff.mpr heffects, List.append_nil]
  refine ⟨rephased_of_eq hticks, hremembered, fun h => ⟨?_, ?_⟩, fun h => ?_, fun h => ?_,
    hcallers⟩
  · rw [hcount, hplans]
    exact h.count
  · rw [harmed, hplans]
    exact h.armed
  · exact ⟨hlifecycle ▸ h, harmed⟩
  · exact Or.inl (hlifecycle ▸ h)

theorem moves_of_same (htrace : s'.trace = s.trace) (hruns : s'.runs = s.runs) :
    Moves new s s' := by
  refine moves_of_effects hticks hremembered harmed hcount hlifecycle
    (htrace.trans (List.append_nil _).symm) setsNoTimer_nil fun run hmem => ?_
  rw [hruns] at hmem
  exact Or.inl ⟨run, hmem, rfl⟩

end

theorem moves_applyResult (market : SupportedMarket)
    (applied : Option (StrategyRunResult × ℕ × ℕ)) :
    Moves new s (s.applyResult market applied) := by
  cases applied with
  | none => exact moves_refl new s
  | some result => exact moves_of_same rfl rfl rfl rfl rfl rfl rfl

theorem moves_emit (h : SetsNoTimer effects) : Moves new s (s.emit effects) :=
  moves_of_effects rfl rfl rfl rfl rfl rfl h fun run hmem => Or.inl ⟨run, hmem, rfl⟩

theorem moves_moveRun {index : ℕ} {run : Run config} (hrun : s.runs[index]? = some run)
    (phase : RunPhase) : Moves new s (s.moveRun index run phase) := by
  refine moves_of_effects rfl rfl rfl rfl rfl (List.append_nil _).symm setsNoTimer_nil
    fun other hmem => Or.inl ?_
  rcases List.mem_or_eq_of_mem_set hmem with hold | rfl
  · exact ⟨other, hold, rfl⟩
  · exact ⟨run, List.mem_of_getElem? hrun, rfl⟩

/-- A timer is set: it is the next one, and its time is the next plan. -/
structure Arms (s s' : StrategyScheduler config) (entry : Entry config) (at_ : ℕ) : Prop where
  trace : s'.trace = s.trace ++ [.setTimer entry.1.market at_]
  armed : s'.armed = s.armed ++ [⟨s.timerCount, entry, buildSchedulerBatchKey at_⟩]
  count : s'.timerCount = s.timerCount + 1

theorem arms_scheduleMarket (hstarted : s.lifecycle = .started) (henabled : config.enabled = true)
    (entry : Entry config) (delayMs now : ℕ) :
    Arms s (s.scheduleMarket entry delayMs now) entry (now + delayMs) := by
  unfold StrategyScheduler.scheduleMarket
  rw [if_neg (by simp [hstarted, henabled])]
  exact ⟨rfl, rfl, rfl⟩

theorem Arms.timed {entry : Entry config} {at_ : ℕ} (harms : Arms s s' entry at_)
    (h : Timed s) : Timed s' := by
  have hplans : plans s' = plans s ++ [at_] := by
    unfold plans
    rw [harms.trace, List.filterMap_append]
    rfl
  refine ⟨?_, fun timer hmem => ?_⟩
  · rw [harms.count, hplans, h.count, List.length_append, List.length_singleton]
  · rw [harms.armed] at hmem
    rw [hplans]
    rcases List.mem_append.mp hmem with hold | hnew
    · obtain ⟨planned, hplanned, hkey⟩ := h.armed timer hold
      have hlt : timer.id < (plans s).length := (List.getElem?_eq_some_iff.mp hplanned).1
      exact ⟨planned, by rw [List.getElem?_append_left hlt]; exact hplanned, hkey⟩
    · rw [List.mem_singleton.mp hnew, h.count]
      exact ⟨at_, List.getElem?_concat_length, rfl⟩

variable (entry : Entry config)

theorem moves_scheduleMarket (delayMs now : ℕ) :
    Moves new s (s.scheduleMarket entry delayMs now) := by
  by_cases hnot : s.lifecycle ≠ .started ∨ config.enabled = false
  · unfold StrategyScheduler.scheduleMarket
    rw [if_pos hnot]
    exact moves_refl new s
  · have hready : s.lifecycle = .started ∧ config.enabled = true := by
      push Not at hnot
      exact ⟨hnot.1, eq_true_of_ne_false hnot.2⟩
    have harms := arms_scheduleMarket hready.1 hready.2 entry delayMs now
    have hlifecycle : (s.scheduleMarket entry delayMs now).lifecycle = s.lifecycle := by
      unfold StrategyScheduler.scheduleMarket
      rw [if_neg hnot]
      rfl
    refine ⟨?_, ?_, harms.timed, fun hcreated => ?_, fun _ => Or.inl hready.1, ?_⟩
    · refine rephased_of_eq ?_
      unfold StrategyScheduler.scheduleMarket
      rw [if_neg hnot]
      rfl
    · unfold StrategyScheduler.scheduleMarket
      rw [if_neg hnot]
      rfl
    · rw [hlifecycle, hready.1] at hcreated
      cases hcreated
    · rw [runs_scheduleMarket]
      exact fun run hmem => Or.inl ⟨run, hmem, rfl⟩

theorem moves_foldl_scheduleMarket (entries : List (Entry config)) (now : ℕ) :
    Moves new s
      (entries.foldl (fun s entry => s.scheduleMarket entry entry.1.intervalMs now) s) := by
  induction entries generalizing s with
  | nil => exact moves_refl new s
  | cons entry entries ih =>
    rw [List.foldl_cons]
    exact (moves_scheduleMarket entry entry.1.intervalMs now).trans ih

theorem moves_stop : Moves new s s.stop := by
  refine ⟨rephased_refl _, rfl, fun h => ⟨h.count, fun timer hmem => ?_⟩, fun h => (nomatch h),
    fun h => (nomatch h), fun run hmem => Or.inl ⟨run, hmem, rfl⟩⟩
  exact h.armed timer (List.mem_filter.mp hmem).1

theorem moves_handleRuntimeOwnershipFailure (failure : Failure) :
    Moves new s (s.handleRuntimeOwnershipFailure failure) := by
  unfold StrategyScheduler.handleRuntimeOwnershipFailure
  split
  · exact moves_stop
  · exact moves_refl new s

theorem moves_start (now : ℕ) : Moves new s (s.start now) := by
  unfold StrategyScheduler.start
  split
  · exact moves_refl new s
  · next hnot =>
    push Not at hnot
    split
    · exact moves_of_same rfl rfl rfl rfl rfl rfl rfl
    · have hstarted : Moves new s { s with lifecycle := .started } :=
        ⟨rephased_refl _, rfl, fun h => ⟨h.count, h.armed⟩, fun h => (nomatch h),
          fun _ => Or.inr ⟨hnot.1, eq_true_of_ne_false hnot.2.2⟩,
          fun run hmem => Or.inl ⟨run, hmem, rfl⟩⟩
      dsimp only
      split
      · exact hstarted.trans (moves_of_same rfl rfl rfl rfl rfl rfl rfl)
      · exact hstarted.trans (moves_foldl_scheduleMarket _ now)

variable {caller : Caller config}

theorem moves_runMarketNow (hnew : new caller) (now : ℕ) :
    Moves new s (s.runMarketNow caller now).1 := by
  have happend : ∀ {next : StrategyScheduler config} {run : Run config}, run.caller = caller →
      next.ticks = s.ticks → next.orderSubmittedBatchKey = s.orderSubmittedBatchKey →
      next.armed = s.armed → next.timerCount = s.timerCount → next.lifecycle = s.lifecycle →
      next.trace = s.trace → next.runs = s.runs ++ [run] → Moves new s next := by
    intro next run hcaller hticks hremembered harmed hcount hlifecycle htrace hruns
    refine moves_of_effects hticks hremembered harmed hcount hlifecycle
      (htrace.trans (List.append_nil _).symm) setsNoTimer_nil fun other hmem => ?_
    rw [hruns] at hmem
    rcases List.mem_append.mp hmem with hold | hlast
    · exact Or.inl ⟨other, hold, rfl⟩
    · right
      rw [List.mem_singleton.mp hlast, hcaller]
      exact hnew
  unfold StrategyScheduler.runMarketNow
  split
  · exact moves_refl new s
  · split
    · exact moves_refl new s
    · split
      · exact moves_refl new s
      · split <;> exact happend rfl rfl rfl rfl rfl rfl rfl rfl

theorem moves_catchScheduled (failure : Failure) (now : ℕ) (heldAtReport : Bool) :
    Moves new s (s.catchScheduled entry failure now heldAtReport).1 := by
  unfold StrategyScheduler.catchScheduled
  split
  · exact moves_refl new s
  · split
    · exact moves_refl new s
    · dsimp only
      have happlied : ∀ result, Moves new s (s.applyResult entry.1.market (some result)) :=
        fun result => moves_applyResult entry.1.market (some result)
      split
      · dsimp only
        exact happlied _
      · split
        · exact moves_of_same rfl rfl rfl rfl rfl rfl rfl
        · exact (happlied _).trans (moves_emit (setsNoTimer_singleton rfl))

theorem moves_resumeScheduled (phase : RunPhase) (now : ℕ) (heldAtReport : Bool) :
    Moves new s (s.resumeScheduled entry phase now heldAtReport).1 := by
  unfold StrategyScheduler.resumeScheduled
  split
  · exact moves_refl new s
  · exact moves_catchScheduled ..
  · exact moves_refl new s

theorem moves_runScheduledMarket (hnew : new caller) (entry : Entry config) (now : ℕ) :
    Moves new s (s.runScheduledMarket caller entry now).1 := by
  have hrun := moves_runMarketNow (s := s) hnew now
  unfold StrategyScheduler.runScheduledMarket
  split
  · next h =>
    rw [h] at hrun
    exact hrun
  · next h =>
    rw [h] at hrun
    exact hrun.trans (moves_catchScheduled ..)

theorem moves_advance (index : ℕ) (answer : Answer) (now : ℕ) :
    Moves new s (s.advance index answer now) := by
  unfold StrategyScheduler.advance
  split
  · exact moves_refl new s
  · next run hrun =>
    split
    · exact moves_refl new s
    · next seg hseg =>
      have happlied : Moves new s (s.applyResult run.market seg.applied) := moves_applyResult ..
      have hemitted := happlied.trans (moves_emit (setsNoTimer_segment _ _ hseg))
      refine hemitted.trans (moves_moveRun ?_ seg.phase)
      show (s.applyResult run.market seg.applied).runs[index]? = some run
      rw [applyResult_runs]
      exact hrun

theorem moves_loopSegment (hnew : ∀ entry, new (.onStart entry)) (loop : StartLoop config)
    (answer : Answer) (now : ℕ) : Moves new s (s.loopSegment loop answer now).1 := by
  unfold StrategyScheduler.loopSegment
  split
  · exact moves_refl new s
  · split
    · exact moves_refl new s
    · exact moves_runScheduledMarket (hnew _) _ now
  · split
    · exact moves_refl new s
    · exact moves_refl new s
  · exact moves_scheduleMarket ..
  · exact moves_handleRuntimeOwnershipFailure ..
  · exact moves_refl new s
  · exact moves_refl new s

theorem moves_react (index now : ℕ) (heldAtReport : Bool) :
    Moves new s (s.react index now heldAtReport) := by
  unfold StrategyScheduler.react
  split
  · exact moves_refl new s
  · next run hrun =>
    split
    · exact moves_refl new s
    · have hclosed : Moves new s (s.moveRun index run .closed) := moves_moveRun hrun .closed
      dsimp only
      split
      · exact hclosed
      · next i entry hcaller =>
        have hresumed := hclosed.trans
          (moves_resumeScheduled entry run.phase now heldAtReport)
        refine ⟨hresumed.ticks.trans ⟨List.length_modify _ _ _, fun j tick htick => ?_⟩,
          hresumed.remembered, fun h => ?_, hresumed.created, hresumed.started, hresumed.callers⟩
        · refine ⟨_, by rw [List.getElem?_modify, htick]; rfl, ?_⟩
          split
          · dsimp only
            split
            · next hphase => exact ⟨rfl, rfl, Or.inr ⟨_, _, hphase, rfl⟩⟩
            · exact ⟨rfl, rfl, Or.inl rfl⟩
          · exact ⟨rfl, rfl, Or.inl rfl⟩
        · have htimed := hresumed.timed h
          exact ⟨htimed.count, htimed.armed⟩
      · next entry hcaller =>
        have hresumed := hclosed.trans
          (moves_resumeScheduled entry run.phase now heldAtReport)
        exact ⟨hresumed.ticks, hresumed.remembered, fun h =>
          ⟨(hresumed.timed h).count, (hresumed.timed h).armed⟩, hresumed.created, hresumed.started,
          hresumed.callers⟩

end Moves

end AutoTrade.Scheduler.Batches
