import AutoTrade.Scheduler.Batches
import AutoTrade.Scheduler.Silence

/-! # One live order per scheduler batch

Only the last batch that submitted an order is remembered. Timers that fire in the order of their times
enqueue ticks of batches that never go back, and the queue is serial; so between a tick that submitted
an order and a later one of its batch every tick is of that batch, and the batch is still the remembered
one when the later tick begins. That tick is recorded as skipped and its market scheduled again. -/

namespace AutoTrade.Scheduler.BatchOrders

open Lib.Run Domain.Types Scheduler.Records
open Scheduler.Machine Scheduler.Batches
open Scheduler.Machine.StrategyScheduler (buildSchedulerBatchKey)

/-! ### What is watched of a run -/

/-- The scheduler with the times of the timers that fired, the ticks that submitted a live order, the
ticks that were deferred, and what each tick and its run did to the outside. -/
structure Watch (config : StrategySchedulerConfig) where
  scheduler : StrategyScheduler config
  fired : List ℕ
  submitted : List ℕ
  deferred : List ℕ
  effects : ℕ → List Effect

variable {config : StrategySchedulerConfig}

/-- The time for which the timer that fires was armed. -/
def firedAt (s : StrategyScheduler config) : Event → Option ℕ
  | .timerFired id =>
    (s.armed.find? fun timer => timer.id = id).bind fun timer => (plans s)[timer.id]?
  | _ => none

/-- The tick whose run returned a live order. -/
def submittedBy (s : StrategyScheduler config) : Event → Option ℕ
  | .advanceTick index _ _ =>
    (s.ticks[index]?).bind fun tick =>
      match tick.phase with
      | .running (.returned result) =>
        if wasLiveOrderSubmitted config result then some index else none
      | _ => none
  | _ => none

def isSkipping : TickPhase → Bool
  | .skipping _ => true
  | _ => false

/-- The tick that begins and is recorded as skipped. -/
def deferredBy (s : StrategyScheduler config) : Event → Option ℕ
  | .advanceTick index answer now =>
    (s.ticks[index]?).bind fun tick =>
      if tick.phase = .queued ∧ isSkipping (s.tickSegment index tick answer now).2 then some index
      else none
  | _ => none

def callingTick : Caller config → Option ℕ
  | .tick index _ => some index
  | _ => none

/-- The tick for which a step is taken. -/
def tickOf (s : StrategyScheduler config) : Event → Option ℕ
  | .advanceTick index _ _ => some index
  | .advance run _ _ => (s.runs[run]?).bind fun run => callingTick run.caller
  | .react run _ _ => (s.runs[run]?).bind fun run => callingTick run.caller
  | _ => none

namespace Watch

def create (held : Bool) (preflight : Option StartupPreflight) : Watch config where
  scheduler := Machine.create config held preflight
  fired := []
  submitted := []
  deferred := []
  effects := fun _ => []

def step (w : Watch config) (e : Event) : Watch config where
  scheduler := Machine.step w.scheduler e
  fired := w.fired ++ (firedAt w.scheduler e).toList
  submitted := w.submitted ++ (submittedBy w.scheduler e).toList
  deferred := w.deferred ++ (deferredBy w.scheduler e).toList
  effects := fun index =>
    if tickOf w.scheduler e = some index then
      w.effects index ++ (Machine.step w.scheduler e).trace.drop w.scheduler.trace.length
    else w.effects index

end Watch

/-! ### A tick that is deferred -/

/-- The record of the skipped run is saved, where there is a repository. -/
def Saved (config : StrategySchedulerConfig) (market : SupportedMarket) (effects : List Effect) :
    Prop :=
  if config.repositories then
    ∃ record : SchedulerRunRecord, record.status = .skipped ∧ record.market = market ∧
      effects = [.saveRun record]
  else effects = []

/-- The skipped run is saved, and perhaps reported. -/
def Told (config : StrategySchedulerConfig) (market : SupportedMarket) (effects : List Effect) :
    Prop :=
  ∃ saved reports, effects = saved ++ reports ∧ Saved config market saved ∧
    ∀ report ∈ reports, ∃ notification, report = .report notification

/-- What the record of the skipped run did so far. -/
def SkipsRun (config : StrategySchedulerConfig) (market : SupportedMarket)
    (effects : List Effect) : RunPhase → Prop
  | .saving record false (.report _) =>
    record.status = .skipped ∧ record.market = market ∧ effects = []
  | .awaitingSave (.report _) => config.repositories = true ∧ Saved config market effects
  | .saved _ (.report _) => Saved config market effects
  | .reporting _ => Saved config market effects
  | .awaitingReport _ => Told config market effects
  | _ => False

/-- What a tick that is skipped did so far, phase by phase. -/
def Skips (config : StrategySchedulerConfig) (market : SupportedMarket) (stopped : Prop)
    (effects : List Effect) : TickPhase → Prop
  | .queued => effects = []
  | .running _ => False
  | .skipping phase => SkipsRun config market effects phase
  | .finished none => stopped ∨ Told config market effects
  | .finished (some failure) => failure = .ownership
  | .closed => stopped ∨ ∃ told nextRunAt, Told config market told ∧
      effects = told ++ [.setTimer market nextRunAt]

/-- The tick of the index starts no run and asks no controller: it waits, or is recorded as skipped, and
its market is scheduled again, unless the scheduler stops. -/
structure Deferral (w : Watch config) (index : ℕ) (tick : Tick config) : Prop where
  unrun : ∀ run ∈ w.scheduler.runs, callingTick run.caller ≠ some index
  silent : ∀ market, .requestRun market ∉ w.effects index
  skips : Skips config tick.entry.1.market (w.scheduler.lifecycle = .stopBegun) (w.effects index)
    tick.phase
  listed : tick.phase ≠ .queued → w.scheduler.lifecycle = .started → index ∈ w.deferred

/-! ### The invariant -/

/-- The queue is serial, ticks stand in it in the order in which their timers fired, and the remembered
batch is that of the last tick that submitted an order. -/
structure Sound (w : Watch config) : Prop where
  created : w.scheduler.lifecycle = .created → w.scheduler.armed = [] ∧ w.scheduler.ticks = []
  enabled : w.scheduler.lifecycle = .started → config.enabled = true
  timed : Timed w.scheduler
  keys : w.scheduler.ticks.map Tick.batchKey = w.fired.map buildSchedulerBatchKey
  serial : ∀ (i j : ℕ) (first later : Tick config), i < j →
    w.scheduler.ticks[i]? = some first → w.scheduler.ticks[j]? = some later →
      later.phase ≠ .queued → first.phase.settled = true
  callers : ∀ run ∈ w.scheduler.runs, ∀ j, callingTick run.caller = some j →
    ∃ tick, w.scheduler.ticks[j]? = some tick ∧ tick.phase ≠ .queued
  fresh : ∀ j, (∀ tick, w.scheduler.ticks[j]? = some tick → tick.phase = .queued) →
    w.effects j = []
  submitted : ∀ i ∈ w.submitted, ∃ tick, w.scheduler.ticks[i]? = some tick ∧
    tick.phase.settled = true
  remembered : ∀ i ∈ w.submitted, ∃ last ∈ w.submitted, i ≤ last ∧
    ∃ tick, w.scheduler.ticks[last]? = some tick ∧
      w.scheduler.orderSubmittedBatchKey = some tick.batchKey
  source : ∀ key, w.scheduler.orderSubmittedBatchKey = some key →
    ∃ i ∈ w.submitted, ∃ tick, w.scheduler.ticks[i]? = some tick ∧ tick.batchKey = key
  deferred : ∀ j ∈ w.deferred, ∃ later, w.scheduler.ticks[j]? = some later ∧
    ∃ i ∈ w.submitted, i < j ∧
      ∃ first, w.scheduler.ticks[i]? = some first ∧ first.batchKey = later.batchKey
  batches : w.fired.Pairwise (· ≤ ·) → ∀ i ∈ w.submitted, ∀ (j : ℕ) (first later : Tick config),
    i < j → w.scheduler.ticks[i]? = some first → w.scheduler.ticks[j]? = some later →
      later.batchKey = first.batchKey → Deferral w j later

theorem sound_create (held : Bool) (preflight : Option StartupPreflight) :
    Sound (Watch.create held preflight : Watch config) where
  created _ := ⟨rfl, rfl⟩
  enabled h := nomatch h
  timed := ⟨rfl, fun _ hmem => nomatch hmem⟩
  keys := rfl
  serial _ _ _ _ _ h := nomatch h
  callers _ hmem := nomatch hmem
  fresh _ _ := rfl
  submitted _ hmem := nomatch hmem
  remembered _ hmem := nomatch hmem
  source _ h := nomatch h
  deferred _ hmem := nomatch hmem
  batches _ _ hmem := nomatch hmem

/-! ### Small facts -/

theorem buildSchedulerBatchKey_mono {at_ later : ℕ} (h : at_ ≤ later) :
    buildSchedulerBatchKey at_ ≤ buildSchedulerBatchKey later :=
  Nat.mul_le_mul_right _ (Nat.div_le_div_right h)

section Facts

variable {w w' : Watch config} {new : Caller config → Prop}

theorem Sound.key_le (h : Sound w) (hfired : w.fired.Pairwise (· ≤ ·)) {i j : ℕ} (hij : i ≤ j)
    {first later : Tick config} (hfirst : w.scheduler.ticks[i]? = some first)
    (hlater : w.scheduler.ticks[j]? = some later) : first.batchKey ≤ later.batchKey := by
  have hsorted : (w.scheduler.ticks.map Tick.batchKey).Pairwise (· ≤ ·) := by
    rw [h.keys]
    exact hfired.map _ fun _ _ hle => buildSchedulerBatchKey_mono hle
  rcases Nat.eq_or_lt_of_le hij with rfl | hlt
  · rw [hfirst] at hlater
    exact Nat.le_of_eq (by rw [Option.some.inj hlater])
  · have hfirst' : (w.scheduler.ticks.map Tick.batchKey)[i]? = some first.batchKey := by
      rw [List.getElem?_map, hfirst]
      rfl
    have hlater' : (w.scheduler.ticks.map Tick.batchKey)[j]? = some later.batchKey := by
      rw [List.getElem?_map, hlater]
      rfl
    obtain ⟨hi, hkey⟩ := List.getElem?_eq_some_iff.mp hfirst'
    obtain ⟨hj, hkey'⟩ := List.getElem?_eq_some_iff.mp hlater'
    rw [← hkey, ← hkey']
    exact List.pairwise_iff_getElem.mp hsorted i j hi hj hlt

theorem Skips.mono {market : SupportedMarket} {stopped stopped' : Prop} {effects : List Effect}
    {phase : TickPhase} (hstopped : stopped → stopped')
    (h : Skips config market stopped effects phase) :
    Skips config market stopped' effects phase := by
  cases phase with
  | queued => exact h
  | running phase => exact h
  | skipping phase => exact h
  | finished failure =>
    cases failure with
    | none => exact h.imp_left hstopped
    | some failure => exact h
  | closed => exact h.imp_left hstopped

theorem Sound.not_created (h : Sound w) {j : ℕ} {tick : Tick config}
    (htick : w.scheduler.ticks[j]? = some tick) : w.scheduler.lifecycle ≠ .created := by
  intro hcreated
  rw [(h.created hcreated).2] at htick
  cases htick

theorem Sound.stopBegun_of_idle (h : Sound w) {j : ℕ} {tick : Tick config}
    (htick : w.scheduler.ticks[j]? = some tick)
    (hidle : w.scheduler.lifecycle ≠ .started ∨ config.enabled = false) :
    w.scheduler.lifecycle = .stopBegun := by
  cases hlifecycle : w.scheduler.lifecycle with
  | created => exact absurd hlifecycle (h.not_created htick)
  | stopBegun => rfl
  | started =>
    rcases hidle with hnot | hdisabled
    · exact absurd hlifecycle hnot
    · rw [h.enabled hlifecycle] at hdisabled
      cases hdisabled

/-- Every tick is still there with its batch, a settled one settled and a begun one begun, and the
orders and the remembered batch are what they were. -/
structure Carried (w w' : Watch config) : Prop where
  tick : ∀ (j : ℕ) (old : Tick config), w.scheduler.ticks[j]? = some old →
    ∃ next, w'.scheduler.ticks[j]? = some next ∧ next.batchKey = old.batchKey ∧
      (old.phase.settled = true → next.phase.settled = true) ∧
      (old.phase ≠ .queued → next.phase ≠ .queued)
  submitted : w'.submitted = w.submitted
  remembered : w'.scheduler.orderSubmittedBatchKey = w.scheduler.orderSubmittedBatchKey

namespace Carried

variable (c : Carried w w') (h : Sound w)
include c h

theorem callers {j : ℕ} {run : Run config} (hrun : run ∈ w.scheduler.runs)
    (hj : callingTick run.caller = some j) :
    ∃ tick, w'.scheduler.ticks[j]? = some tick ∧ tick.phase ≠ .queued := by
  obtain ⟨tick, htick, hphase⟩ := h.callers run hrun j hj
  obtain ⟨next, hnext, -, -, hbegun⟩ := c.tick j tick htick
  exact ⟨next, hnext, hbegun hphase⟩

theorem settled : ∀ i ∈ w'.submitted, ∃ tick, w'.scheduler.ticks[i]? = some tick ∧
    tick.phase.settled = true := by
  intro i hi
  rw [c.submitted] at hi
  obtain ⟨tick, htick, hsettled⟩ := h.submitted i hi
  obtain ⟨next, hnext, -, hkept, -⟩ := c.tick i tick htick
  exact ⟨next, hnext, hkept hsettled⟩

theorem last : ∀ i ∈ w'.submitted, ∃ last ∈ w'.submitted, i ≤ last ∧
    ∃ tick, w'.scheduler.ticks[last]? = some tick ∧
      w'.scheduler.orderSubmittedBatchKey = some tick.batchKey := by
  intro i hi
  rw [c.submitted] at hi ⊢
  obtain ⟨last, hlast, hle, tick, htick, hremembered⟩ := h.remembered i hi
  obtain ⟨next, hnext, hkey, -⟩ := c.tick last tick htick
  exact ⟨last, hlast, hle, next, hnext, by rw [c.remembered, hremembered, hkey]⟩

theorem source : ∀ key, w'.scheduler.orderSubmittedBatchKey = some key →
    ∃ i ∈ w'.submitted, ∃ tick, w'.scheduler.ticks[i]? = some tick ∧ tick.batchKey = key := by
  intro key hkey
  rw [c.remembered] at hkey
  rw [c.submitted]
  obtain ⟨i, hi, tick, htick, hsource⟩ := h.source key hkey
  obtain ⟨next, hnext, hsame, -⟩ := c.tick i tick htick
  exact ⟨i, hi, next, hnext, hsame.trans hsource⟩

theorem deferred {j : ℕ} (hj : j ∈ w.deferred) : ∃ later, w'.scheduler.ticks[j]? = some later ∧
    ∃ i ∈ w'.submitted, i < j ∧
      ∃ first, w'.scheduler.ticks[i]? = some first ∧ first.batchKey = later.batchKey := by
  rw [c.submitted]
  obtain ⟨later, hlater, i, hi, hij, first, hfirst, hkey⟩ := h.deferred j hj
  obtain ⟨later', hlater', hkeyl, -⟩ := c.tick j later hlater
  obtain ⟨first', hfirst', hkeyf, -⟩ := c.tick i first hfirst
  exact ⟨later', hlater', i, hi, hij, first', hfirst', by rw [hkeyf, hkeyl, hkey]⟩

end Carried

/-- A step outside the queue, of a run or of the run-on-start loop. -/
theorem Sound.moves (h : Sound w) (hmoves : Moves new w.scheduler w'.scheduler)
    (hnew : ∀ caller, new caller → callingTick caller = none)
    (hfired : w'.fired = w.fired) (hsubmitted : w'.submitted = w.submitted)
    (hdeferred : w'.deferred = w.deferred)
    (heffects : ∀ j, w'.effects j = w.effects j ∨
      ∃ run ∈ w.scheduler.runs, callingTick run.caller = some j) : Sound w' := by
  have hforth := hmoves.ticks.tick
  have hcarried : Carried w w' := by
    refine ⟨fun j old hold => ?_, hsubmitted, hmoves.remembered⟩
    obtain ⟨next, hnext, hresumes⟩ := hforth j old hold
    exact ⟨next, hnext, hresumes.2.1, fun hdone => hresumes.settled.trans hdone,
      fun hbegun hq => hbegun (hresumes.queued.mp hq)⟩
  have hcaller : ∀ run ∈ w'.scheduler.runs, ∀ j, callingTick run.caller = some j →
      ∃ old ∈ w.scheduler.runs, callingTick old.caller = some j := by
    intro run hrun j hj
    rcases hmoves.callers run hrun with ⟨old, hold, heq⟩ | hfresh
    · exact ⟨old, hold, by rw [heq]; exact hj⟩
    · rw [hnew _ hfresh] at hj
      cases hj
  refine
    { created := fun hcreated => ?_
      enabled := fun hstarted => ?_
      timed := hmoves.timed h.timed
      keys := by rw [hmoves.ticks.keys, h.keys, hfired]
      serial := fun i j first later hij hfirst hlater hphase => ?_
      callers := fun run hrun j hj => ?_
      fresh := fun j hqueued => ?_
      submitted := hcarried.settled h
      remembered := hcarried.last h
      source := hcarried.source h
      deferred := fun j hj => hcarried.deferred h (hdeferred ▸ hj)
      batches := fun hsorted i hi j first later hij hfirst hlater hkey => ?_ }
  · obtain ⟨hbefore, harmed⟩ := hmoves.created hcreated
    obtain ⟨hnone, hticks⟩ := h.created hbefore
    refine ⟨harmed.trans hnone, List.eq_nil_of_length_eq_zero ?_⟩
    rw [hmoves.ticks.length, hticks]
    rfl
  · rcases hmoves.started hstarted with hbefore | ⟨-, henabled⟩
    · exact h.enabled hbefore
    · exact henabled
  · obtain ⟨first', hfirst', hresumes⟩ := hmoves.ticks.back hfirst
    obtain ⟨later', hlater', hresumes'⟩ := hmoves.ticks.back hlater
    rw [hresumes.settled]
    exact h.serial i j first' later' hij hfirst' hlater' fun hq => hphase (hresumes'.queued.mpr hq)
  · obtain ⟨old, hold, hold'⟩ := hcaller run hrun j hj
    exact hcarried.callers h hold hold'
  · have hbefore : ∀ tick, w.scheduler.ticks[j]? = some tick → tick.phase = .queued := by
      intro tick htick
      obtain ⟨next, hnext, hresumes⟩ := hforth j tick htick
      exact hresumes.queued.mp (hqueued next hnext)
    rcases heffects j with hsame | ⟨run, hrun, hj⟩
    · rw [hsame]
      exact h.fresh j hbefore
    · obtain ⟨tick, htick, hphase⟩ := h.callers run hrun j hj
      exact absurd (hbefore tick htick) hphase
  · rw [hfired] at hsorted
    rw [hsubmitted] at hi
    obtain ⟨first', hfirst', -, hkeyf, -⟩ := hmoves.ticks.back hfirst
    obtain ⟨later', hlater', hentry, hkeyl, hphase⟩ := hmoves.ticks.back hlater
    have hdeferral := h.batches hsorted i hi j first' later' hij hfirst' hlater'
      (by rw [← hkeyf, ← hkeyl, hkey])
    have hsame : later.phase = later'.phase := by
      rcases hphase with hsame | ⟨phase, next, hfrom, -⟩
      · exact hsame
      · have hskips := hdeferral.skips
        rw [hfrom] at hskips
        exact hskips.elim
    have heffects' : w'.effects j = w.effects j := by
      rcases heffects j with heq | ⟨run, hrun, hj⟩
      · exact heq
      · exact absurd hj (hdeferral.unrun run hrun)
    refine ⟨fun run hrun hj => ?_, ?_, ?_, fun hnot hstarted => ?_⟩
    · obtain ⟨old, hold, hold'⟩ := hcaller run hrun j hj
      exact hdeferral.unrun old hold hold'
    · rw [heffects']
      exact hdeferral.silent
    · rw [heffects', hsame, hentry]
      exact hdeferral.skips.mono hmoves.stopped
    · rw [hdeferred]
      rw [hsame] at hnot
      refine hdeferral.listed hnot ?_
      rcases hmoves.started hstarted with hbefore | ⟨hcreated, -⟩
      · exact hbefore
      · exact absurd hcreated (h.not_created hlater')

end Facts

section Queue

variable {w w' : Watch config}

/-- A timer fires: a tick of its batch joins the end of the queue. -/
theorem Sound.enqueue (h : Sound w) {timer : Timer config} (htimer : timer ∈ w.scheduler.armed)
    {planned : ℕ} (hplanned : (plans w.scheduler)[timer.id]? = some planned)
    (hticks : w'.scheduler.ticks = w.scheduler.ticks ++ [⟨timer.entry, timer.batchKey, .queued⟩])
    (harmed : ∀ other ∈ w'.scheduler.armed, other ∈ w.scheduler.armed)
    (hcount : w'.scheduler.timerCount = w.scheduler.timerCount)
    (htrace : w'.scheduler.trace = w.scheduler.trace)
    (hlifecycle : w'.scheduler.lifecycle = w.scheduler.lifecycle)
    (hremembered : w'.scheduler.orderSubmittedBatchKey = w.scheduler.orderSubmittedBatchKey)
    (hruns : w'.scheduler.runs = w.scheduler.runs) (hfired : w'.fired = w.fired ++ [planned])
    (hsubmitted : w'.submitted = w.submitted) (hdeferred : w'.deferred = w.deferred)
    (heffects : w'.effects = w.effects) : Sound w' := by
  have hplans : plans w'.scheduler = plans w.scheduler := by
    unfold plans
    rw [htrace]
  have hkeep : ∀ {i : ℕ} {tick : Tick config}, w.scheduler.ticks[i]? = some tick →
      w'.scheduler.ticks[i]? = some tick := by
    intro i tick htick
    rw [hticks, List.getElem?_append_left (List.getElem?_eq_some_iff.mp htick).1]
    exact htick
  have hcarried : Carried w w' :=
    ⟨fun _ old hold => ⟨old, hkeep hold, rfl, id, id⟩, hsubmitted, hremembered⟩
  -- a tick is an old one, or the new one at the end
  have hcases : ∀ {i : ℕ} {tick : Tick config}, w'.scheduler.ticks[i]? = some tick →
      w.scheduler.ticks[i]? = some tick ∨
        i = w.scheduler.ticks.length ∧ tick = ⟨timer.entry, timer.batchKey, .queued⟩ := by
    intro i tick htick
    rw [hticks, List.getElem?_append] at htick
    split at htick
    · exact Or.inl htick
    · next hlt =>
      obtain ⟨hsmall, heq⟩ := List.getElem?_eq_some_iff.mp htick
      have hzero : i - w.scheduler.ticks.length = 0 := by
        rw [List.length_singleton] at hsmall
        omega
      simp only [hzero, List.getElem_cons_zero] at heq
      exact Or.inr ⟨by omega, heq.symm⟩
  obtain ⟨planned', hplanned', hkey⟩ := h.timed.armed timer htimer
  obtain rfl := Option.some.inj (hplanned'.symm.trans hplanned)
  refine
    { created := fun hcreated => ?_
      enabled := fun hstarted => h.enabled (hlifecycle ▸ hstarted)
      timed := ⟨?_, fun other hother => ?_⟩
      keys := ?_
      serial := fun i j first later hij hfirst hlater hphase => ?_
      callers := fun run hrun j hj => hcarried.callers h (hruns ▸ hrun) hj
      fresh := fun j hqueued => ?_
      submitted := hcarried.settled h
      remembered := hcarried.last h
      source := hcarried.source h
      deferred := fun j hj => hcarried.deferred h (hdeferred ▸ hj)
      batches := fun hsorted i hi j first later hij hfirst hlater hsame => ?_ }
  · rw [hlifecycle] at hcreated
    rw [(h.created hcreated).1] at htimer
    cases htimer
  · rw [hcount, hplans]
    exact h.timed.count
  · rw [hplans]
    exact h.timed.armed other (harmed other hother)
  · rw [hticks, hfired, List.map_append, List.map_append, h.keys]
    exact congrArg _ (congrArg (fun key => [key]) hkey)
  · rcases hcases hlater with hold | ⟨-, rfl⟩
    · rcases hcases hfirst with hold' | ⟨hlast, -⟩
      · exact h.serial i j first later hij hold' hold hphase
      · have hj := (List.getElem?_eq_some_iff.mp hold).1
        omega
    · exact absurd rfl hphase
  · rw [heffects]
    exact h.fresh j fun tick htick => hqueued tick (hkeep htick)
  · rw [hsubmitted] at hi
    rw [hfired] at hsorted
    obtain ⟨tick, htick, -⟩ := h.submitted i hi
    have hfirst' : w.scheduler.ticks[i]? = some first := by
      rw [hkeep htick] at hfirst
      rw [htick, Option.some.inj hfirst]
    rcases hcases hlater with hold | ⟨rfl, rfl⟩
    · have hdeferral := h.batches (List.pairwise_append.mp hsorted).1 i hi j first later hij
        hfirst' hold hsame
      refine ⟨?_, ?_, ?_, fun hnot hstarted => ?_⟩
      · rw [hruns]
        exact hdeferral.unrun
      · rw [heffects]
        exact hdeferral.silent
      · rw [heffects, hlifecycle]
        exact hdeferral.skips
      · rw [hdeferred]
        exact hdeferral.listed hnot (hlifecycle ▸ hstarted)
    · -- nothing was done yet for the tick that joins
      have hnone : w.scheduler.ticks[w.scheduler.ticks.length]? = none :=
        List.getElem?_eq_none_iff.mpr (Nat.le_refl _)
      have hfresh : w'.effects w.scheduler.ticks.length = [] := by
        rw [heffects]
        exact h.fresh _ fun tick htick => by rw [hnone] at htick; cases htick
      refine ⟨fun run hrun hj => ?_, ?_, hfresh, fun hnot => absurd rfl hnot⟩
      · rw [hruns] at hrun
        obtain ⟨tick, htick, -⟩ := h.callers run hrun _ hj
        rw [hnone] at htick
        cases htick
      · rw [hfresh]
        exact fun market hmem => by cases hmem

variable {tick : Tick config}

/-! ### A stretch of a tick -/

/-- The tick of the index goes on to a phase, and the scheduler to `middle`. -/
structure Stretch (w w' : Watch config) (index : ℕ) (tick : Tick config) (phase : TickPhase)
    (middle : StrategyScheduler config) : Prop where
  found : w.scheduler.ticks[index]? = some tick
  moves : Moves (fun caller => callingTick caller = some index) w.scheduler middle
  begun : phase ≠ .queued
  settled : tick.phase.settled = true → phase.settled = true
  turn : tick.phase = .queued → ∀ (i : ℕ) (first : Tick config), i < index →
    w.scheduler.ticks[i]? = some first → first.phase.settled = true
  ticks : middle.ticks = w.scheduler.ticks
  scheduler : w'.scheduler =
    { middle with ticks := middle.ticks.set index { tick with phase := phase } }
  fired : w'.fired = w.fired
  submitted : w'.submitted = w.submitted
  deferred : w'.deferred = w.deferred ∨ w'.deferred = w.deferred ++ [index] ∧
    ∃ i ∈ w.submitted, i < index ∧
      ∃ first, w.scheduler.ticks[i]? = some first ∧ first.batchKey = tick.batchKey
  effects : ∀ j, j ≠ index → w'.effects j = w.effects j

namespace Stretch

variable {index : ℕ} {phase : TickPhase} {middle : StrategyScheduler config}
  (g : Stretch w w' index tick phase middle)
include g

theorem self : w'.scheduler.ticks[index]? = some { tick with phase := phase } := by
  rw [g.scheduler]
  show (middle.ticks.set index _)[index]? = _
  rw [g.ticks, List.getElem?_set_self (List.getElem?_eq_some_iff.mp g.found).1]

theorem other {j : ℕ} (hne : j ≠ index) : w'.scheduler.ticks[j]? = w.scheduler.ticks[j]? := by
  rw [g.scheduler]
  show (middle.ticks.set index _)[j]? = _
  rw [g.ticks, List.getElem?_set_ne (Ne.symm hne)]

theorem carried : Carried w w' := by
  refine ⟨fun j old hold => ?_, g.submitted, by rw [g.scheduler]; exact g.moves.remembered⟩
  by_cases hne : j = index
  · subst hne
    obtain rfl := Option.some.inj (g.found.symm.trans hold)
    exact ⟨_, g.self, rfl, g.settled, fun _ => g.begun⟩
  · exact ⟨old, (g.other hne).trans hold, rfl, id, id⟩

theorem back {j : ℕ} {next : Tick config} (hnext : w'.scheduler.ticks[j]? = some next) :
    j ≠ index ∧ w.scheduler.ticks[j]? = some next ∨
      j = index ∧ next = { tick with phase := phase } := by
  by_cases hne : j = index
  · subst hne
    exact Or.inr ⟨rfl, Option.some.inj (hnext.symm.trans g.self)⟩
  · exact Or.inl ⟨hne, (g.other hne).symm.trans hnext⟩

theorem keys : w'.scheduler.ticks.map Tick.batchKey = w.scheduler.ticks.map Tick.batchKey := by
  refine List.ext_getElem? fun j => ?_
  rw [List.getElem?_map, List.getElem?_map]
  by_cases hne : j = index
  · subst hne
    rw [g.self, g.found]
    rfl
  · rw [g.other hne]

theorem serial (h : Sound w) {i j : ℕ} {first later : Tick config} (hij : i < j)
    (hfirst : w'.scheduler.ticks[i]? = some first) (hlater : w'.scheduler.ticks[j]? = some later)
    (hnot : later.phase ≠ .queued) : first.phase.settled = true := by
  rcases g.back hfirst with ⟨hne, hold⟩ | ⟨rfl, rfl⟩
  · rcases g.back hlater with ⟨-, hold'⟩ | ⟨rfl, rfl⟩
    · exact h.serial i j first later hij hold hold' hnot
    · by_cases hqueued : tick.phase = .queued
      · exact g.turn hqueued i first hij hold
      · exact h.serial i j first tick hij hold g.found hqueued
  · rcases g.back hlater with ⟨-, hold'⟩ | ⟨rfl, -⟩
    · exact g.settled (h.serial i j tick later hij g.found hold' hnot)
    · exact absurd hij (Nat.lt_irrefl _)

theorem callers (h : Sound w) {run : Run config} (hrun : run ∈ w'.scheduler.runs) {j : ℕ}
    (hj : callingTick run.caller = some j) :
    ∃ tick, w'.scheduler.ticks[j]? = some tick ∧ tick.phase ≠ .queued := by
  rw [g.scheduler] at hrun
  rcases g.moves.callers run hrun with ⟨old, hold, heq⟩ | hnew
  · exact g.carried.callers h hold (by rw [heq]; exact hj)
  · obtain rfl := Option.some.inj (hnew.symm.trans hj)
    exact ⟨_, g.self, g.begun⟩

/-- A deferred tick was deferred before, or is deferred now behind an order of its batch. -/
theorem deferred_of (h : Sound w) {j : ℕ} (hj : j ∈ w'.deferred) :
    ∃ later, w'.scheduler.ticks[j]? = some later ∧ ∃ i ∈ w'.submitted, i < j ∧
      ∃ first, w'.scheduler.ticks[i]? = some first ∧ first.batchKey = later.batchKey := by
  rcases g.deferred with heq | ⟨heq, i, hi, hij, first, hfirst, hkey⟩
  · exact g.carried.deferred h (heq ▸ hj)
  · rw [heq] at hj
    rcases List.mem_append.mp hj with hold | hnew
    · exact g.carried.deferred h hold
    · obtain rfl := List.mem_singleton.mp hnew
      obtain ⟨first', hfirst', hkeyf, -⟩ := g.carried.tick i first hfirst
      exact ⟨_, g.self, i, g.submitted ▸ hi, hij, first', hfirst', hkeyf.trans hkey⟩

theorem deferral_of_ne (h : Sound w) {j : ℕ} {later : Tick config} (hne : j ≠ index)
    (hdeferral : Deferral w j later) : Deferral w' j later := by
  have hlifecycle : w'.scheduler.lifecycle = middle.lifecycle := by rw [g.scheduler]
  refine ⟨fun run hrun hj => ?_, ?_, ?_, fun hnot hstarted => ?_⟩
  · rw [g.scheduler] at hrun
    rcases g.moves.callers run hrun with ⟨before, hbefore, heq⟩ | hnew
    · exact hdeferral.unrun before hbefore (by rw [heq]; exact hj)
    · exact hne (Option.some.inj (hj.symm.trans hnew))
  · rw [g.effects j hne]
    exact hdeferral.silent
  · rw [g.effects j hne]
    refine hdeferral.skips.mono fun hstopped => ?_
    rw [hlifecycle]
    exact g.moves.stopped hstopped
  · rw [hlifecycle] at hstarted
    have hstarted' : w.scheduler.lifecycle = .started := by
      rcases g.moves.started hstarted with hbefore | ⟨hcreated, -⟩
      · exact hbefore
      · exact absurd hcreated (h.not_created g.found)
    have hmem := hdeferral.listed hnot hstarted'
    rcases g.deferred with heq | ⟨heq, -⟩
    · exact heq ▸ hmem
    · exact heq ▸ List.mem_append_left _ hmem

/-- A stretch of a tick that does not end with an order. -/
theorem sound (h : Sound w)
    (hbatch : w.fired.Pairwise (· ≤ ·) → ∀ i ∈ w.submitted, ∀ first : Tick config, i < index →
      w.scheduler.ticks[i]? = some first → tick.batchKey = first.batchKey →
        Deferral w index tick → Deferral w' index { tick with phase := phase }) :
    Sound w' := by
  have hlifecycle : w'.scheduler.lifecycle = middle.lifecycle := by rw [g.scheduler]
  refine
    { created := fun hcreated => ?_
      enabled := fun hstarted => ?_
      timed := ?_
      keys := by rw [g.fired, ← h.keys, g.keys]
      serial := fun i j first later hij hfirst hlater hnot => g.serial h hij hfirst hlater hnot
      callers := fun run hrun j hj => g.callers h hrun hj
      fresh := fun j hqueued => ?_
      submitted := g.carried.settled h
      remembered := g.carried.last h
      source := g.carried.source h
      deferred := fun j hj => g.deferred_of h hj
      batches := fun hsorted i hi j first later hij hfirst hlater hsame => ?_ }
  · rw [hlifecycle] at hcreated
    exact absurd (g.moves.created hcreated).1 (h.not_created g.found)
  · rw [hlifecycle] at hstarted
    rcases g.moves.started hstarted with hbefore | ⟨-, henabled⟩
    · exact h.enabled hbefore
    · exact henabled
  · have htimed := g.moves.timed h.timed
    rw [g.scheduler]
    exact ⟨htimed.count, htimed.armed⟩
  · by_cases hne : j = index
    · subst hne
      exact absurd (hqueued _ g.self) g.begun
    · rw [g.effects j hne]
      exact h.fresh j fun old hold => hqueued old ((g.other hne).trans hold)
  · rw [g.fired] at hsorted
    rw [g.submitted] at hi
    obtain ⟨old, hold, -⟩ := h.submitted i hi
    obtain ⟨first', hfirst', hkeyf, -⟩ := g.carried.tick i old hold
    obtain rfl := Option.some.inj (hfirst'.symm.trans hfirst)
    rcases g.back hlater with ⟨hne, hlater'⟩ | ⟨rfl, rfl⟩
    · exact g.deferral_of_ne h hne
        (h.batches hsorted i hi j old later hij hold hlater' (hsame.trans hkeyf))
    · have hkey : tick.batchKey = old.batchKey := hsame.trans hkeyf
      exact hbatch hsorted i hi old hij hold hkey
        (h.batches hsorted i hi j old tick hij hold g.found hkey)

end Stretch

/-- The tick that submitted an order is remembered; all later ones are still queued. -/
theorem Sound.remember (h : Sound w) {index : ℕ} (htick : w.scheduler.ticks[index]? = some tick)
    (hsettled : tick.phase.settled = true)
    (hlast : ∀ (j : ℕ) (later : Tick config), index < j →
      w.scheduler.ticks[j]? = some later → later.phase = .queued) :
    Sound { w with
      scheduler := { w.scheduler with orderSubmittedBatchKey := some tick.batchKey }
      submitted := w.submitted ++ [index] } := by
  have hle : ∀ i ∈ w.submitted, i ≤ index := by
    intro i hi
    obtain ⟨old, hold, hdone⟩ := h.submitted i hi
    by_contra hlt
    have hqueued := hlast i old (by omega) hold
    rw [hqueued] at hdone
    cases hdone
  refine
    { created := h.created
      enabled := h.enabled
      timed := ⟨h.timed.count, h.timed.armed⟩
      keys := h.keys
      serial := h.serial
      callers := h.callers
      fresh := h.fresh
      submitted := fun i hi => ?_
      remembered := fun i hi => ?_
      source := fun key hsource => ?_
      deferred := fun j hj => ?_
      batches := fun hsorted i hi j first later hij hfirst hlater hsame => ?_ }
  · rcases List.mem_append.mp hi with hold | hnew
    · exact h.submitted i hold
    · rw [List.mem_singleton.mp hnew]
      exact ⟨tick, htick, hsettled⟩
  · refine ⟨index, List.mem_append_right _ (List.mem_singleton_self _), ?_, tick, htick, rfl⟩
    rcases List.mem_append.mp hi with hold | hnew
    · exact hle i hold
    · exact Nat.le_of_eq (List.mem_singleton.mp hnew)
  · exact ⟨index, List.mem_append_right _ (List.mem_singleton_self _), tick, htick,
      Option.some.inj hsource⟩
  · obtain ⟨later, hlater, i, hi, hrest⟩ := h.deferred j hj
    exact ⟨later, hlater, i, List.mem_append_left _ hi, hrest⟩
  · have hdeferral : Deferral w j later := by
      rcases List.mem_append.mp hi with hold | hnew
      · exact h.batches hsorted i hold j first later hij hfirst hlater hsame
      · obtain rfl := List.mem_singleton.mp hnew
        have hqueued := hlast j later hij hlater
        have hfresh : w.effects j = [] := h.fresh j fun other hother => by
          rw [Option.some.inj (hother.symm.trans hlater)]
          exact hqueued
        refine ⟨fun run hrun hj => ?_, ?_, ?_, fun hnot => absurd hqueued hnot⟩
        · obtain ⟨other, hother, hnot⟩ := h.callers run hrun j hj
          rw [Option.some.inj (hother.symm.trans hlater)] at hnot
          exact hnot hqueued
        · rw [hfresh]
          exact fun market hmem => by cases hmem
        · rw [hqueued]
          exact hfresh
    exact ⟨hdeferral.unrun, hdeferral.silent, hdeferral.skips, hdeferral.listed⟩

end Queue

/-! ### A stretch of a tick that is skipped -/

section Skipping

variable {s : StrategyScheduler config} {entry : Entry config} {phase : RunPhase}
  {effects : List Effect} {market : SupportedMarket}

theorem Saved.told (h : Saved config market effects) : Told config market effects :=
  ⟨effects, [], (List.append_nil _).symm, h, fun _ hmem => (nomatch hmem)⟩

theorem Saved.told_report (h : Saved config market effects) (notification : SchedulerNotification) :
    Told config market (effects ++ [.report notification]) :=
  ⟨effects, [.report notification], rfl, h, fun _ hmem =>
    ⟨notification, List.mem_singleton.mp hmem⟩⟩

/-- Where a segment leads the record of a skipped run. -/
def LeadsOn (config : StrategySchedulerConfig) (market : SupportedMarket) (effects : List Effect) :
    RunPhase → Prop
  | .fulfilled _ => Told config market effects
  | .interrupted => True
  | phase => SkipsRun config market effects phase

theorem leadsOn_segment {held : Bool} {answer : Answer} {now : ℕ} {seg : Segment}
    (h : SkipsRun config entry.1.market effects phase)
    (hseg : Machine.segment config held entry.1 phase answer now = some seg) :
    (∀ market, .requestRun market ∉ seg.effects) ∧
      LeadsOn config entry.1.market (effects ++ seg.effects) seg.phase := by
  have hnone : ∀ market, Effect.requestRun market ∉ ([] : List Effect) :=
    fun _ hmem => (nomatch hmem)
  unfold SkipsRun at h
  split at h
  · next record result =>
    obtain ⟨hstatus, hmarket, rfl⟩ := h
    cases answer with
    | go =>
      obtain rfl := Option.some.inj hseg
      unfold segmentSaving
      by_cases hrepositories : config.repositories = false
      · rw [if_pos hrepositories]
        refine ⟨hnone, ?_⟩
        show Saved config entry.1.market _
        unfold Saved
        rw [if_neg (by simp [hrepositories])]
        rfl
      rw [if_neg hrepositories]
      by_cases hheld : held = false
      · rw [if_pos hheld]
        exact ⟨hnone, trivial⟩
      · rw [if_neg hheld]
        have hpresent : config.repositories = true := eq_true_of_ne_false hrepositories
        refine ⟨by simp, hpresent, ?_⟩
        unfold Saved
        rw [if_pos hpresent]
        exact ⟨record, hstatus, hmarket, rfl⟩
    | _ => cases hseg
  · next result =>
    cases answer with
    | saved outcome =>
      obtain rfl := Option.some.inj hseg
      have hsaved : ∀ persisted, LeadsOn config entry.1.market (effects ++ [])
          (.saved persisted (.report result)) := by
        intro persisted
        rw [List.append_nil]
        exact h.2
      unfold segmentSaved
      split
      · exact ⟨hnone, trivial⟩
      · split_ifs with hheld
        · exact ⟨hnone, trivial⟩
        · exact ⟨hnone, hsaved false⟩
      · split_ifs with hheld
        · exact ⟨hnone, trivial⟩
        · exact ⟨hnone, hsaved true⟩
    | _ => cases hseg
  · next persisted result =>
    cases answer with
    | go =>
      obtain rfl := Option.some.inj hseg
      refine ⟨hnone, ?_⟩
      show Saved config entry.1.market (effects ++ [])
      rw [List.append_nil]
      exact h
    | _ => cases hseg
  · next result =>
    cases answer with
    | go =>
      obtain rfl := Option.some.inj hseg
      unfold segmentReporting
      split
      · refine ⟨hnone, ?_⟩
        show Told config entry.1.market (effects ++ [])
        rw [List.append_nil]
        exact h.told
      · next notification hnotification =>
        split_ifs with hheld
        · exact ⟨hnone, trivial⟩
        · exact ⟨by simp, h.told_report notification⟩
    | _ => cases hseg
  · next result =>
    cases answer with
    | reported outcome =>
      obtain rfl := Option.some.inj hseg
      have htold : LeadsOn config entry.1.market (effects ++ []) (.fulfilled result) := by
        rw [List.append_nil]
        exact h
      unfold segmentReported
      split
      · exact ⟨hnone, trivial⟩
      · split_ifs with hheld
        · exact ⟨hnone, trivial⟩
        · exact ⟨hnone, htold⟩
    | _ => cases hseg
  · exact h.elim

/-- A tick whose run is recorded as skipped does nothing but save and report. -/
theorem skipTick_emits (entry : Entry config) (phase : RunPhase) (answer : Answer) (now : ℕ) :
    ∃ added, (s.skipTick entry phase answer now).1 = s.emit added ∧ SetsNoTimer added ∧
      (s.skipTick entry phase answer now).2 ≠ .queued ∧
      ∀ effects, SkipsRun config entry.1.market effects phase →
        (∀ market, .requestRun market ∉ added) ∧
        ∀ stopped, Skips config entry.1.market stopped (effects ++ added)
          (s.skipTick entry phase answer now).2 := by
  unfold StrategyScheduler.skipTick
  split
  · refine ⟨[], ?_, setsNoTimer_nil, by simp, fun effects h => ⟨fun _ hmem => (nomatch hmem), ?_⟩⟩
    · unfold StrategyScheduler.emit
      rw [List.append_nil]
    · rw [List.append_nil]
      exact fun stopped => h
  · next seg hseg =>
    refine ⟨seg.effects, rfl, setsNoTimer_segment _ _ hseg, ?_, fun effects h => ?_⟩
    · dsimp only
      split <;> simp
    · obtain ⟨hsilent, hleads⟩ := leadsOn_segment h hseg
      refine ⟨hsilent, fun stopped => ?_⟩
      dsimp only
      split
      · next result hphase =>
        rw [hphase] at hleads
        exact Or.inr hleads
      · rfl
      · next hfulfilled hinterrupted =>
        unfold LeadsOn at hleads
        split at hleads
        · next result hphase => exact absurd hphase (hfulfilled result)
        · next hphase => exact absurd hphase hinterrupted
        · exact hleads

end Skipping

/-! ### The stretches of a tick -/

section Stretches

variable {w : Watch config} {index : ℕ} {tick : Tick config} {answer : Answer} {now : ℕ}

theorem step_scheduler (htick : w.scheduler.ticks[index]? = some tick) (answer : Answer)
    (now : ℕ) :
    (w.step (.advanceTick index answer now)).scheduler =
      { (w.scheduler.tickSegment index tick answer now).1 with
        ticks := (w.scheduler.tickSegment index tick answer now).1.ticks.set index
          { tick with phase := (w.scheduler.tickSegment index tick answer now).2 } } := by
  show w.scheduler.advanceTick index answer now = _
  unfold StrategyScheduler.advanceTick
  rw [htick]

theorem step_fired (w : Watch config) (index : ℕ) (answer : Answer) (now : ℕ) :
    (w.step (.advanceTick index answer now)).fired = w.fired :=
  List.append_nil _

theorem step_effects_of_ne {j : ℕ} (hne : j ≠ index) (w : Watch config) (answer : Answer)
    (now : ℕ) : (w.step (.advanceTick index answer now)).effects j = w.effects j :=
  if_neg fun h => hne (Option.some.inj h).symm

variable {added : List Effect}

section

variable (htick : w.scheduler.ticks[index]? = some tick)
include htick

theorem step_effects_self
    (htrace : (w.scheduler.tickSegment index tick answer now).1.trace = w.scheduler.trace ++ added) :
    (w.step (.advanceTick index answer now)).effects index = w.effects index ++ added := by
  have hscheduler := step_scheduler htick answer now
  have heffects : (w.step (.advanceTick index answer now)).effects index = w.effects index ++
      (w.step (.advanceTick index answer now)).scheduler.trace.drop w.scheduler.trace.length :=
    if_pos rfl
  rw [heffects, hscheduler]
  show _ ++ ((w.scheduler.tickSegment index tick answer now).1.trace).drop _ = _
  rw [htrace, List.drop_left]

theorem step_effects_same
    (htrace : (w.scheduler.tickSegment index tick answer now).1.trace = w.scheduler.trace) :
    (w.step (.advanceTick index answer now)).effects index = w.effects index := by
  rw [step_effects_self htick (htrace.trans (List.append_nil _).symm), List.append_nil]

theorem step_submitted (hphase : ∀ result, tick.phase = .running (.returned result) →
      wasLiveOrderSubmitted config result = false) :
    (w.step (.advanceTick index answer now)).submitted = w.submitted := by
  show w.submitted ++ (submittedBy w.scheduler (.advanceTick index answer now)).toList = _
  simp only [submittedBy, htick, Option.bind_some]
  split
  · next result hreturned =>
    rw [if_neg (by rw [hphase result hreturned]; simp)]
    exact List.append_nil _
  · exact List.append_nil _

theorem step_deferred (hnot : ¬ (tick.phase = .queued ∧
      isSkipping (w.scheduler.tickSegment index tick answer now).2 = true)) :
    (w.step (.advanceTick index answer now)).deferred = w.deferred := by
  show w.deferred ++ (deferredBy w.scheduler (.advanceTick index answer now)).toList = _
  simp only [deferredBy, htick, Option.bind_some]
  rw [if_neg hnot]
  exact List.append_nil _

end

variable {phase : TickPhase}

/-- A stretch after which the tick waits on, or runs on. -/
theorem Sound.stay (h : Sound w) (htick : w.scheduler.ticks[index]? = some tick)
    (hsegment : w.scheduler.tickSegment index tick answer now = (w.scheduler, phase))
    (hphase : phase = tick.phase ∨
      ∃ before after, tick.phase = .running before ∧ phase = .running after)
    (hreturned : ∀ result, tick.phase ≠ .running (.returned result)) :
    Sound (w.step (.advanceTick index answer now)) := by
  have hlt : index < w.scheduler.ticks.length := (List.getElem?_eq_some_iff.mp htick).1
  have hscheduler := step_scheduler htick answer now
  rw [hsegment] at hscheduler
  have hnot : ¬ (tick.phase = .queued ∧
      isSkipping (w.scheduler.tickSegment index tick answer now).2 = true) := by
    rw [hsegment]
    rintro ⟨hqueued, hskipping⟩
    rcases hphase with rfl | ⟨before, after, hbefore, -⟩
    · rw [hqueued] at hskipping
      cases hskipping
    · rw [hqueued] at hbefore
      cases hbefore
  have hrephased : Rephased w.scheduler.ticks
      (w.scheduler.ticks.set index { tick with phase := phase }) := by
    refine ⟨List.length_set, fun j old hold => ?_⟩
    by_cases hne : j = index
    · subst hne
      obtain rfl := Option.some.inj (htick.symm.trans hold)
      exact ⟨_, List.getElem?_set_self hlt, rfl, rfl, hphase⟩
    · exact ⟨old, by rw [List.getElem?_set_ne (Ne.symm hne)]; exact hold, rfl, rfl, Or.inl rfl⟩
  have hmoves : Moves (fun _ => False) w.scheduler
      (w.step (.advanceTick index answer now)).scheduler := by
    rw [hscheduler]
    exact ⟨hrephased, rfl, fun ht => ⟨ht.count, ht.armed⟩, fun hc => ⟨hc, rfl⟩, Or.inl,
      fun run hmem => Or.inl ⟨run, hmem, rfl⟩⟩
  refine h.moves hmoves (fun _ hfalse => hfalse.elim) (step_fired w index answer now)
    (step_submitted htick fun result hresult => absurd hresult (hreturned result))
    (step_deferred htick hnot) fun j => Or.inl ?_
  by_cases hne : j = index
  · subst hne
    exact step_effects_same htick (by rw [hsegment])
  · exact step_effects_of_ne hne w answer now

variable (s : StrategyScheduler config)

theorem ticks_scheduleMarket (entry : Entry config) (delayMs now : ℕ) :
    (s.scheduleMarket entry delayMs now).ticks = s.ticks := by
  unfold StrategyScheduler.scheduleMarket
  split <;> rfl

theorem ticks_runScheduledMarket (caller : Caller config) (entry : Entry config) (now : ℕ) :
    (s.runScheduledMarket caller entry now).1.ticks = s.ticks := by
  have hrun : (s.runMarketNow caller now).1.ticks = s.ticks := by
    unfold StrategyScheduler.runMarketNow
    split
    · rfl
    · split
      · rfl
      · split
        · rfl
        · split <;> rfl
  unfold StrategyScheduler.runScheduledMarket
  split
  · next h =>
    rw [h] at hrun
    exact hrun
  · next h =>
    rw [h] at hrun
    exact (Silence.same_catchScheduled _ _ _ _).ticks.trans hrun

theorem Sound.lt_of_settled (h : Sound w) (htick : w.scheduler.ticks[index]? = some tick)
    (hqueued : tick.phase = .queued) {i : ℕ} {other : Tick config}
    (hother : w.scheduler.ticks[i]? = some other) (hsettled : other.phase.settled = true) :
    i < index := by
  rcases Nat.lt_trichotomy i index with hlt | rfl | hgt
  · exact hlt
  · obtain rfl := Option.some.inj (htick.symm.trans hother)
    rw [hqueued] at hsettled
    cases hsettled
  · have hnot : other.phase ≠ .queued := fun hq => by rw [hq] at hsettled; cases hsettled
    have hdone := h.serial index i tick other hgt htick hother hnot
    rw [hqueued] at hdone
    cases hdone

/-- What an order of the batch leaves behind: the batch is still remembered when a later tick of it
begins. -/
theorem Sound.remembered_of_batch (h : Sound w) (hsorted : w.fired.Pairwise (· ≤ ·))
    (htick : w.scheduler.ticks[index]? = some tick) (hqueued : tick.phase = .queued)
    {i : ℕ} (hi : i ∈ w.submitted) {first : Tick config}
    (hfirst : w.scheduler.ticks[i]? = some first) (hkey : tick.batchKey = first.batchKey) :
    w.scheduler.orderSubmittedBatchKey = some tick.batchKey := by
  obtain ⟨last, hlast, hle, other, hother, hremembered⟩ := h.remembered i hi
  have hsettled : other.phase.settled = true := by
    obtain ⟨same, hsame, hdone⟩ := h.submitted last hlast
    rw [Option.some.inj (hother.symm.trans hsame)]
    exact hdone
  have hlt : last < index := h.lt_of_settled htick hqueued hother hsettled
  have hlower := h.key_le hsorted hle hfirst hother
  have hupper := h.key_le hsorted (Nat.le_of_lt hlt) hother htick
  rw [hremembered, show other.batchKey = tick.batchKey by omega]

section

variable (h : Sound w) (htick : w.scheduler.ticks[index]? = some tick)
  (hqueued : tick.phase = .queued)
include h htick hqueued

theorem Sound.source_before
    (hremembered : w.scheduler.orderSubmittedBatchKey = some tick.batchKey) :
    ∃ i ∈ w.submitted, i < index ∧
      ∃ first, w.scheduler.ticks[i]? = some first ∧ first.batchKey = tick.batchKey := by
  obtain ⟨i, hi, first, hfirst, hkey⟩ := h.source _ hremembered
  refine ⟨i, hi, ?_, first, hfirst, hkey⟩
  obtain ⟨same, hsame, hdone⟩ := h.submitted i hi
  obtain rfl := Option.some.inj (hfirst.symm.trans hsame)
  exact h.lt_of_settled htick hqueued hfirst hdone

theorem Sound.effects_of_queued : w.effects index = [] := by
  refine h.fresh index fun other hother => ?_
  rw [Option.some.inj (hother.symm.trans htick)]
  exact hqueued

end

theorem settled_of_turn
    (hturn : (w.scheduler.ticks.take index).all fun earlier => earlier.phase.settled)
    (i : ℕ) (first : Tick config) (hi : i < index)
    (hfirst : w.scheduler.ticks[i]? = some first) : first.phase.settled = true := by
  have hmem : first ∈ w.scheduler.ticks.take index := by
    refine List.mem_of_getElem? (i := i) ?_
    rw [List.getElem?_take_of_lt hi]
    exact hfirst
  exact List.all_eq_true.mp hturn first hmem

theorem tickSegment_of_turn (hqueued : tick.phase = .queued)
    (hturn : (w.scheduler.ticks.take index).all fun earlier => earlier.phase.settled) :
    w.scheduler.tickSegment index tick answer now = w.scheduler.startTick index tick now := by
  unfold StrategyScheduler.tickSegment
  rw [hqueued]
  dsimp only
  rw [if_pos hturn]

theorem unsettled_of_queued (hqueued : tick.phase = .queued)
    (hsettled : tick.phase.settled = true) : phase.settled = true := by
  rw [hqueued] at hsettled
  cases hsettled

theorem submitted_of_queued (htick : w.scheduler.ticks[index]? = some tick)
    (hqueued : tick.phase = .queued) :
    (w.step (.advanceTick index answer now)).submitted = w.submitted :=
  step_submitted htick fun result hresult => by rw [hqueued] at hresult; cases hresult

section

variable (h : Sound w) (htick : w.scheduler.ticks[index]? = some tick)
  (hqueued : tick.phase = .queued)
  (hturn : (w.scheduler.ticks.take index).all fun earlier => earlier.phase.settled)
include h htick hqueued hturn

/-- A tick that begins after the scheduler was stopped ends at once. -/
theorem Sound.begin_stopped (hidle : w.scheduler.lifecycle ≠ .started ∨ config.enabled = false) :
    Sound (w.step (.advanceTick index answer now)) := by
  have hsegment : w.scheduler.tickSegment index tick answer now = (w.scheduler, .finished none) := by
    rw [tickSegment_of_turn hqueued hturn]
    unfold StrategyScheduler.startTick
    rw [if_pos hidle]
  have hscheduler := step_scheduler htick answer now
  rw [hsegment] at hscheduler
  have hstopped := h.stopBegun_of_idle htick hidle
  have heffects : (w.step (.advanceTick index answer now)).effects index = w.effects index :=
    step_effects_same htick (by rw [hsegment])
  have hdeferred : (w.step (.advanceTick index answer now)).deferred = w.deferred := by
    refine step_deferred htick ?_
    rw [hsegment]
    exact fun hboth => by cases hboth.2
  refine Stretch.sound ⟨htick, moves_refl _ _, by simp, unsettled_of_queued hqueued,
    fun _ => settled_of_turn hturn, rfl, hscheduler, step_fired w index answer now,
    submitted_of_queued htick hqueued, Or.inl hdeferred,
    fun j hne => step_effects_of_ne hne w answer now⟩ h
    fun _ i _ first _ _ _ hdeferral => ⟨?_, ?_, ?_, fun _ hlifecycle => ?_⟩
  · rw [hscheduler]
    exact hdeferral.unrun
  · rw [heffects]
    exact hdeferral.silent
  · rw [hscheduler]
    exact Or.inl hstopped
  · rw [hscheduler] at hlifecycle
    cases hstopped.symm.trans hlifecycle

/-- A tick that begins after an order of its batch is recorded as skipped. -/
theorem Sound.begin_skipped (hidle : ¬ (w.scheduler.lifecycle ≠ .started ∨ config.enabled = false))
    (hskips : w.scheduler.skipsTick tick = true) :
    Sound (w.step (.advanceTick index answer now)) := by
  have hsegment : ∃ result record, w.scheduler.tickSegment index tick answer now =
      (w.scheduler.applyResult tick.entry.1.market (some (result, now, now)),
        .skipping (.saving record false (.report result))) ∧
      record.status = .skipped ∧ record.market = tick.entry.1.market := by
    rw [tickSegment_of_turn hqueued hturn]
    unfold StrategyScheduler.startTick
    rw [if_neg hidle, if_pos hskips]
    exact ⟨_, _, rfl, rfl, rfl⟩
  obtain ⟨result, record, hsegment, hstatus, hmarket⟩ := hsegment
  have hscheduler := step_scheduler htick answer now
  rw [hsegment] at hscheduler
  have hremembered : w.scheduler.orderSubmittedBatchKey = some tick.batchKey := by
    unfold StrategyScheduler.skipsTick at hskips
    exact (of_decide_eq_true hskips).2.2
  have heffects : (w.step (.advanceTick index answer now)).effects index = w.effects index :=
    step_effects_same htick (by rw [hsegment]; rfl)
  have hdeferred : (w.step (.advanceTick index answer now)).deferred = w.deferred ++ [index] := by
    show w.deferred ++ (deferredBy w.scheduler (.advanceTick index answer now)).toList = _
    simp only [deferredBy, htick, Option.bind_some]
    rw [hsegment, if_pos ⟨hqueued, rfl⟩]
    rfl
  refine Stretch.sound ⟨htick, moves_applyResult _ _, by simp, unsettled_of_queued hqueued,
    fun _ => settled_of_turn hturn, rfl, hscheduler, step_fired w index answer now,
    submitted_of_queued htick hqueued,
    Or.inr ⟨hdeferred, h.source_before htick hqueued hremembered⟩,
    fun j hne => step_effects_of_ne hne w answer now⟩ h
    fun _ i _ first _ _ _ hdeferral => ⟨?_, ?_, ?_, fun _ _ => ?_⟩
  · rw [hscheduler]
    exact hdeferral.unrun
  · rw [heffects]
    exact hdeferral.silent
  · exact ⟨hstatus, hmarket, heffects.trans (h.effects_of_queued htick hqueued)⟩
  · rw [hdeferred]
    exact List.mem_append_right _ (List.mem_singleton_self _)

/-- A tick that begins otherwise runs: no order of its batch went out. -/
theorem Sound.begin_run (hidle : ¬ (w.scheduler.lifecycle ≠ .started ∨ config.enabled = false))
    (hskips : ¬ w.scheduler.skipsTick tick = true) :
    Sound (w.step (.advanceTick index answer now)) := by
  have hsegment : w.scheduler.tickSegment index tick answer now =
      ((w.scheduler.runScheduledMarket (.tick index tick.entry) tick.entry now).1,
        .running (w.scheduler.runScheduledMarket (.tick index tick.entry) tick.entry now).2) := by
    rw [tickSegment_of_turn hqueued hturn]
    unfold StrategyScheduler.startTick
    rw [if_neg hidle, if_neg hskips]
  have hscheduler := step_scheduler htick answer now
  rw [hsegment] at hscheduler
  have hdeferred : (w.step (.advanceTick index answer now)).deferred = w.deferred := by
    refine step_deferred htick ?_
    rw [hsegment]
    exact fun hboth => by cases hboth.2
  have hmoves : Moves (fun caller => callingTick caller = some index) w.scheduler
      (w.scheduler.runScheduledMarket (.tick index tick.entry) tick.entry now).1 := by
    refine moves_runScheduledMarket ?_ tick.entry now
    rfl
  refine Stretch.sound ⟨htick, hmoves, by simp, unsettled_of_queued hqueued,
    fun _ => settled_of_turn hturn, ticks_runScheduledMarket _ _ _ _, hscheduler,
    step_fired w index answer now, submitted_of_queued htick hqueued, Or.inl hdeferred,
    fun j hne => step_effects_of_ne hne w answer now⟩ h
    fun hsorted i hi first _ hfirst hkey _ => absurd ?_ hskips
  have hremembered := h.remembered_of_batch hsorted htick hqueued hi hfirst hkey
  push Not at hidle
  unfold StrategyScheduler.skipsTick
  exact decide_eq_true ⟨hidle.1, eq_true_of_ne_false hidle.2, hremembered⟩

end

section

variable (h : Sound w) (htick : w.scheduler.ticks[index]? = some tick)
include h htick

theorem Sound.returned {result : StrategyRunResult}
    (hphase : tick.phase = .running (.returned result)) :
    Sound (w.step (.advanceTick index answer now)) := by
  have hlater : ∀ (j : ℕ) (later : Tick config), index < j →
      w.scheduler.ticks[j]? = some later → later.phase = .queued := by
    intro j later hlt hother
    by_contra hnot
    have hsettled := h.serial index j tick later hlt htick hother hnot
    rw [hphase] at hsettled
    cases hsettled
  have hlt : index < w.scheduler.ticks.length := (List.getElem?_eq_some_iff.mp htick).1
  -- the tick ends, and then its batch is remembered
  have hended : Sound { w with scheduler := { w.scheduler with
      ticks := w.scheduler.ticks.set index { tick with phase := .finished none } } } := by
    refine Stretch.sound ⟨htick, moves_refl _ w.scheduler, by simp, fun _ => rfl,
      (fun hqueued => by rw [hphase] at hqueued; cases hqueued), rfl, rfl, rfl, rfl, Or.inl rfl,
      fun j _ => rfl⟩ h fun _ i _ first _ _ _ hdeferral => ?_
    have hskips := hdeferral.skips
    rw [hphase] at hskips
    exact hskips.elim
  have hsegment : w.scheduler.tickSegment index tick answer now =
      ({ w.scheduler with
          orderSubmittedBatchKey :=
            if wasLiveOrderSubmitted config result then some tick.batchKey
            else w.scheduler.orderSubmittedBatchKey }, .finished none) := by
    unfold StrategyScheduler.tickSegment
    rw [hphase]
  have hscheduler := step_scheduler htick answer now
  rw [hsegment] at hscheduler
  have hdeferred : (w.step (.advanceTick index answer now)).deferred = w.deferred := by
    refine step_deferred htick ?_
    rw [hphase]
    exact fun hboth => by cases hboth.1
  have heffects : (w.step (.advanceTick index answer now)).effects = w.effects := by
    funext j
    by_cases hne : j = index
    · subst hne
      exact step_effects_same htick (by rw [hsegment])
    · exact step_effects_of_ne hne w answer now
  by_cases hlive : wasLiveOrderSubmitted config result = true
  · have hself : (w.scheduler.ticks.set index { tick with phase := .finished none })[index]? =
        some { tick with phase := .finished none } := List.getElem?_set_self hlt
    have hremembers := hended.remember hself rfl fun j later hgt hother => by
      refine hlater j later hgt ?_
      rw [← hother]
      exact (List.getElem?_set_ne (Nat.ne_of_lt hgt)).symm
    have hsubmitted : (w.step (.advanceTick index answer now)).submitted =
        w.submitted ++ [index] := by
      show w.submitted ++ (submittedBy w.scheduler (.advanceTick index answer now)).toList = _
      simp only [submittedBy, htick, Option.bind_some, hphase]
      rw [if_pos hlive]
      rfl
    have hstep : w.step (.advanceTick index answer now) = { w with
        scheduler := { w.scheduler with
          orderSubmittedBatchKey := some tick.batchKey
          ticks := w.scheduler.ticks.set index { tick with phase := .finished none } }
        submitted := w.submitted ++ [index] } := by
      rw [if_pos hlive] at hscheduler
      rw [← hsubmitted, ← hdeferred, ← heffects, ← step_fired w index answer now]
      rw [← hscheduler]
    rw [hstep]
    exact hremembers
  · have hsubmitted : (w.step (.advanceTick index answer now)).submitted = w.submitted := by
      refine step_submitted htick fun other hother => ?_
      rw [hphase] at hother
      rw [← (ScheduledPhase.returned.inj (TickPhase.running.inj hother))]
      exact eq_false_of_ne_true hlive
    have hstep : w.step (.advanceTick index answer now) = { w with
        scheduler := { w.scheduler with
          ticks := w.scheduler.ticks.set index { tick with phase := .finished none } } } := by
      rw [if_neg hlive] at hscheduler
      rw [← hsubmitted, ← hdeferred, ← heffects, ← step_fired w index answer now]
      rw [← hscheduler]
    rw [hstep]
    exact hended

/-- A stretch of a tick that has begun and does not return an order. -/
theorem Sound.proceed {middle : StrategyScheduler config}
    (hsegment : w.scheduler.tickSegment index tick answer now = (middle, phase))
    (hmoves : Moves (fun caller => callingTick caller = some index) w.scheduler middle)
    (hticks : middle.ticks = w.scheduler.ticks) (htrace : middle.trace = w.scheduler.trace ++ added)
    (hruns : middle.runs = w.scheduler.runs) (hbegun : tick.phase ≠ .queued)
    (hphase : phase ≠ .queued) (hsettled : tick.phase.settled = true → phase.settled = true)
    (hreturned : ∀ result, tick.phase ≠ .running (.returned result))
    (hskips : Skips config tick.entry.1.market (w.scheduler.lifecycle = .stopBegun)
        (w.effects index) tick.phase →
      (∀ market, .requestRun market ∉ added) ∧
        Skips config tick.entry.1.market (middle.lifecycle = .stopBegun)
          (w.effects index ++ added) phase) : Sound (w.step (.advanceTick index answer now)) := by
  have hscheduler := step_scheduler htick answer now
  rw [hsegment] at hscheduler
  have heffects : (w.step (.advanceTick index answer now)).effects index =
      w.effects index ++ added := step_effects_self htick (by rw [hsegment]; exact htrace)
  have hdeferred : (w.step (.advanceTick index answer now)).deferred = w.deferred :=
    step_deferred htick fun hboth => hbegun hboth.1
  refine Stretch.sound ⟨htick, hmoves, hphase, hsettled, fun hqueued => absurd hqueued hbegun,
    hticks, hscheduler, step_fired w index answer now,
    step_submitted htick fun result hresult => absurd hresult (hreturned result),
    Or.inl hdeferred, fun j hne => step_effects_of_ne hne w answer now⟩ h
    fun _ i _ first _ _ _ hdeferral => ⟨?_, ?_, ?_, fun _ hlifecycle => ?_⟩
  · rw [hscheduler]
    show ∀ run ∈ middle.runs, _
    rw [hruns]
    exact hdeferral.unrun
  · rw [heffects]
    intro market hmem
    rcases List.mem_append.mp hmem with hold | hnew
    · exact hdeferral.silent market hold
    · exact (hskips hdeferral.skips).1 market hnew
  · rw [heffects, hscheduler]
    exact (hskips hdeferral.skips).2
  · rw [hdeferred]
    rw [hscheduler] at hlifecycle
    refine hdeferral.listed hbegun ?_
    rcases hmoves.started hlifecycle with hbefore | ⟨hcreated, -⟩
    · exact hbefore
    · exact absurd hcreated (h.not_created htick)

/-- The queue promise of the tick has settled: its market is scheduled again. -/
theorem Sound.reschedule {failure : Option Failure} (hphase : tick.phase = .finished failure)
    (hfailure : ∀ f ∈ failure, isRuntimeOwnershipFailure f = false)
    (hsegment : w.scheduler.tickSegment index tick answer now =
      (w.scheduler.scheduleMarket tick.entry tick.entry.1.intervalMs now, .closed)) :
    Sound (w.step (.advanceTick index answer now)) := by
  have hbegun : tick.phase ≠ .queued := by rw [hphase]; simp
  have hreturned : ∀ result, tick.phase ≠ .running (.returned result) := by
    intro result
    rw [hphase]
    simp
  by_cases hidle : w.scheduler.lifecycle ≠ .started ∨ config.enabled = false
  · have hsame : w.scheduler.scheduleMarket tick.entry tick.entry.1.intervalMs now =
        w.scheduler := by
      unfold StrategyScheduler.scheduleMarket
      rw [if_pos hidle]
    rw [hsame] at hsegment
    refine h.proceed htick hsegment (moves_refl _ _) rfl (List.append_nil _).symm rfl hbegun
      (by simp) (fun _ => rfl) hreturned fun hskips =>
        ⟨fun _ hmem => (nomatch hmem), Or.inl (h.stopBegun_of_idle htick hidle)⟩
  · push Not at hidle
    have harms := arms_scheduleMarket hidle.1 (eq_true_of_ne_false hidle.2) tick.entry
      tick.entry.1.intervalMs now
    refine h.proceed htick hsegment (moves_scheduleMarket _ _ _) (ticks_scheduleMarket _ _ _ _)
      harms.trace (Rejections.runs_scheduleMarket _ _ _) hbegun (by simp) (fun _ => rfl) hreturned
      fun hskips => ⟨by simp, ?_⟩
    rw [hphase] at hskips
    cases failure with
    | none =>
      rcases hskips with hstopped | htold
      · rw [hidle.1] at hstopped
        cases hstopped
      · exact Or.inr ⟨_, _, htold, rfl⟩
    | some f =>
      obtain rfl : f = .ownership := hskips
      cases hfailure _ rfl

end

theorem Sound.advance_absent (h : Sound w) (htick : w.scheduler.ticks[index]? = none) :
    Sound (w.step (.advanceTick index answer now)) := by
  have hsame : (w.step (.advanceTick index answer now)).scheduler = w.scheduler := by
    show w.scheduler.advanceTick index answer now = w.scheduler
    unfold StrategyScheduler.advanceTick
    rw [htick]
  have hmoves : Moves (fun _ => False) w.scheduler
      (w.step (.advanceTick index answer now)).scheduler := by
    rw [hsame]
    exact moves_refl _ _
  refine h.moves hmoves (fun _ hfalse => hfalse.elim) (step_fired w index answer now) ?_ ?_
    fun j => Or.inl ?_
  · show w.submitted ++ (submittedBy w.scheduler (.advanceTick index answer now)).toList = _
    simp [submittedBy, htick]
  · show w.deferred ++ (deferredBy w.scheduler (.advanceTick index answer now)).toList = _
    simp [deferredBy, htick]
  · show (if _ then w.effects j ++
      (w.step (.advanceTick index answer now)).scheduler.trace.drop _ else w.effects j) = _
    rw [hsame, List.drop_length, List.append_nil, ite_self]

section

variable (h : Sound w) (htick : w.scheduler.ticks[index]? = some tick)
include h htick

theorem Sound.advance_queued (hphase : tick.phase = .queued) :
    Sound (w.step (.advanceTick index answer now)) := by
  by_cases hturn : (w.scheduler.ticks.take index).all fun earlier => earlier.phase.settled
  · by_cases hidle : w.scheduler.lifecycle ≠ .started ∨ config.enabled = false
    · exact h.begin_stopped htick hphase hturn hidle
    · by_cases hskips : w.scheduler.skipsTick tick = true
      · exact h.begin_skipped htick hphase hturn hidle hskips
      · exact h.begin_run htick hphase hturn hidle hskips
  · have hsegment : w.scheduler.tickSegment index tick answer now = (w.scheduler, .queued) := by
      unfold StrategyScheduler.tickSegment
      rw [hphase]
      dsimp only
      rw [if_neg hturn]
    refine h.stay htick hsegment (Or.inl hphase.symm) fun result => ?_
    rw [hphase]
    simp

theorem Sound.advance_running {scheduled : ScheduledPhase}
    (hphase : tick.phase = .running scheduled) :
    Sound (w.step (.advanceTick index answer now)) := by
  cases scheduled with
  | awaitingRun run =>
    have hsegment : w.scheduler.tickSegment index tick answer now =
        (w.scheduler, .running (.awaitingRun run)) := by
      unfold StrategyScheduler.tickSegment
      rw [hphase]
    refine h.stay htick hsegment (Or.inl hphase.symm) fun result => ?_
    rw [hphase]
    simp
  | awaitingReport report =>
    have hsegment : ∃ next, w.scheduler.tickSegment index tick answer now =
        (w.scheduler, .running next) := by
      unfold StrategyScheduler.tickSegment
      rw [hphase]
      dsimp only
      split <;> exact ⟨_, rfl⟩
    obtain ⟨next, hsegment⟩ := hsegment
    refine h.stay htick hsegment (Or.inr ⟨_, _, hphase, rfl⟩) fun result => ?_
    rw [hphase]
    simp
  | returned result => exact h.returned htick hphase
  | threw failure =>
    have hsegment : w.scheduler.tickSegment index tick answer now =
        (w.scheduler, .finished (some failure)) := by
      unfold StrategyScheduler.tickSegment
      rw [hphase]
    refine h.proceed htick hsegment (moves_refl _ _) rfl (List.append_nil _).symm rfl ?_
      (by simp) (fun _ => rfl) ?_ fun hskips => ?_
    · rw [hphase]
      simp
    · rw [hphase]
      simp
    · rw [hphase] at hskips
      exact hskips.elim

theorem Sound.advance_skipping {run : RunPhase} (hphase : tick.phase = .skipping run) :
    Sound (w.step (.advanceTick index answer now)) := by
  obtain ⟨added, hemits, htimers, hnot, hleads⟩ :=
    skipTick_emits (s := w.scheduler) tick.entry run answer now
  have hsegment : w.scheduler.tickSegment index tick answer now =
      (w.scheduler.emit added, (w.scheduler.skipTick tick.entry run answer now).2) := by
    unfold StrategyScheduler.tickSegment
    rw [hphase]
    exact Prod.ext hemits rfl
  refine h.proceed htick hsegment (moves_emit htimers) rfl rfl rfl ?_ hnot ?_ ?_ fun hskips => ?_
  · rw [hphase]
    simp
  · rw [hphase]
    exact fun hsettled => by cases hsettled
  · rw [hphase]
    simp
  · rw [hphase] at hskips
    obtain ⟨hsilent, hon⟩ := hleads _ hskips
    exact ⟨hsilent, hon _⟩

theorem Sound.advance_finished {failure : Option Failure} (hphase : tick.phase = .finished failure) :
    Sound (w.step (.advanceTick index answer now)) := by
  by_cases hownership : ∃ f ∈ failure, isRuntimeOwnershipFailure f = true
  · obtain ⟨f, hfailure, hownership⟩ := hownership
    obtain rfl : failure = some f := hfailure
    have hsegment : w.scheduler.tickSegment index tick answer now = (w.scheduler.stop, .closed) := by
      unfold StrategyScheduler.tickSegment
      rw [hphase]
      dsimp only
      rw [if_pos hownership]
      unfold StrategyScheduler.handleRuntimeOwnershipFailure
      rw [if_pos hownership]
    refine h.proceed htick hsegment moves_stop rfl (List.append_nil _).symm rfl ?_
      (by simp) (fun _ => rfl) ?_ fun hskips => ⟨fun _ hmem => (nomatch hmem), Or.inl rfl⟩
    · rw [hphase]
      simp
    · rw [hphase]
      simp
  · have hother : ∀ f ∈ failure, isRuntimeOwnershipFailure f = false :=
      fun f hmem => eq_false_of_ne_true fun htrue => hownership ⟨f, hmem, htrue⟩
    refine h.reschedule htick hphase hother ?_
    unfold StrategyScheduler.tickSegment
    rw [hphase]
    cases failure with
    | none => rfl
    | some f =>
      dsimp only
      rw [if_neg (by rw [hother f rfl]; decide)]

end

/-- **One stretch of a tick.** -/
theorem sound_advanceTick (h : Sound w) (index : ℕ) (answer : Answer) (now : ℕ) :
    Sound (w.step (.advanceTick index answer now)) := by
  cases htick : w.scheduler.ticks[index]? with
  | none => exact h.advance_absent htick
  | some tick =>
    cases hphase : tick.phase with
    | queued => exact h.advance_queued htick hphase
    | running scheduled => exact h.advance_running htick hphase
    | skipping run => exact h.advance_skipping htick hphase
    | finished failure => exact h.advance_finished htick hphase
    | closed =>
      have hsegment : w.scheduler.tickSegment index tick answer now = (w.scheduler, .closed) := by
        unfold StrategyScheduler.tickSegment
        rw [hphase]
      refine h.stay htick hsegment (Or.inl hphase.symm) fun result => ?_
      rw [hphase]
      simp

end Stretches


/-! ### Runs -/

section Runs

variable {w : Watch config}

/-- A step that is not a stretch of a tick and fires no timer. -/
theorem Sound.elsewhere (h : Sound w) {e : Event} {new : Caller config → Prop}
    (hmoves : Moves new w.scheduler (Machine.step w.scheduler e))
    (hnew : ∀ caller, new caller → callingTick caller = none) (hfired : firedAt w.scheduler e = none)
    (hadvance : ∀ index answer now, e ≠ .advanceTick index answer now) : Sound (w.step e) := by
  have hsubmitted : submittedBy w.scheduler e = none := by
    cases e with
    | advanceTick index answer now => exact absurd rfl (hadvance index answer now)
    | _ => rfl
  have hdeferred : deferredBy w.scheduler e = none := by
    cases e with
    | advanceTick index answer now => exact absurd rfl (hadvance index answer now)
    | _ => rfl
  have hcaller : ∀ {index j : ℕ}, ((w.scheduler.runs[index]?).bind fun run =>
      callingTick run.caller) = some j →
        ∃ run ∈ w.scheduler.runs, callingTick run.caller = some j := by
    intro index j hbind
    obtain ⟨run, hrun, hj⟩ := Option.bind_eq_some_iff.mp hbind
    exact ⟨run, List.mem_of_getElem? hrun, hj⟩
  refine h.moves hmoves hnew ?_ ?_ ?_ fun j => ?_
  · show w.fired ++ (firedAt w.scheduler e).toList = w.fired
    rw [hfired]
    exact List.append_nil _
  · show w.submitted ++ (submittedBy w.scheduler e).toList = w.submitted
    rw [hsubmitted]
    exact List.append_nil _
  · show w.deferred ++ (deferredBy w.scheduler e).toList = w.deferred
    rw [hdeferred]
    exact List.append_nil _
  · by_cases htick : tickOf w.scheduler e = some j
    · right
      cases e with
      | advanceTick index answer now => exact absurd rfl (hadvance index answer now)
      | advance index answer now => exact hcaller htick
      | react index now heldAtReport => exact hcaller htick
      | _ => cases htick
    · exact Or.inl (if_neg htick)

theorem sound_timerFired (h : Sound w) (id : ℕ) : Sound (w.step (.timerFired id)) := by
  cases hfind : w.scheduler.armed.find? fun timer => timer.id = id with
  | none =>
    have hsame : Machine.step w.scheduler (.timerFired id) = w.scheduler := by
      show w.scheduler.timerFired id = w.scheduler
      unfold StrategyScheduler.timerFired
      rw [hfind]
    have hmoves : Moves (fun _ => False) w.scheduler
        (Machine.step w.scheduler (.timerFired id)) := by
      rw [hsame]
      exact moves_refl _ _
    refine h.elsewhere hmoves (fun _ hfalse => hfalse.elim) ?_ fun _ _ _ heq => by cases heq
    simp only [firedAt, hfind, Option.bind_none]
  | some timer =>
    have hmem : timer ∈ w.scheduler.armed := List.mem_of_find?_eq_some hfind
    obtain ⟨planned, hplanned, -⟩ := h.timed.armed timer hmem
    have hfired : (w.step (.timerFired id)).fired = w.fired ++ [planned] := by
      show w.fired ++ (firedAt w.scheduler (.timerFired id)).toList = _
      simp only [firedAt, hfind, Option.bind_some, hplanned]
      rfl
    have hscheduler : (w.step (.timerFired id)).scheduler =
        { w.scheduler with
          armed := w.scheduler.armed.filter fun timer => timer.id ≠ id
          timers := Function.update w.scheduler.timers timer.entry.1.market none
          ticks := w.scheduler.ticks ++ [⟨timer.entry, timer.batchKey, .queued⟩] } := by
      show w.scheduler.timerFired id = _
      unfold StrategyScheduler.timerFired
      rw [hfind]
    refine h.enqueue hmem hplanned ?_ ?_ ?_ ?_ ?_ ?_ ?_ hfired (List.append_nil _)
      (List.append_nil _) rfl
    · rw [hscheduler]
    · rw [hscheduler]
      exact fun other hother => (List.mem_filter.mp hother).1
    · rw [hscheduler]
    · rw [hscheduler]
    · rw [hscheduler]
    · rw [hscheduler]
    · rw [hscheduler]

/-- A caller that is no tick. -/
def NoTick (caller : Caller config) : Prop := callingTick caller = none

theorem sound_step (w : Watch config) (e : Event) (h : Sound w) : Sound (w.step e) := by
  have hother : ∀ {e : Event}, Moves NoTick w.scheduler (Machine.step w.scheduler e) →
      firedAt w.scheduler e = none →
      (∀ index answer now, e ≠ .advanceTick index answer now) → Sound (w.step e) :=
    fun hmoves hfired hadvance => h.elsewhere hmoves (fun _ hnone => hnone) hfired hadvance
  cases e with
  | advanceTick index answer now => exact sound_advanceTick h index answer now
  | timerFired id => exact sound_timerFired h id
  | start now => exact hother (moves_start now) rfl (by simp)
  | runMarketNow market now =>
    refine hother ?_ rfl (by simp)
    refine moves_runMarketNow ?_ now
    rfl
  | advance index answer now =>
    exact hother (moves_advance index answer now) rfl (by simp)
  | react index now heldAtReport =>
    exact hother (moves_react index now heldAtReport) rfl (by simp)
  | advanceLoop answer now =>
    refine hother ?_ rfl (by simp)
    show Moves NoTick w.scheduler (w.scheduler.advanceLoop answer now)
    unfold StrategyScheduler.advanceLoop
    split
    · exact moves_refl _ _
    · next loop hloop =>
      have hmoves : Moves NoTick w.scheduler (w.scheduler.loopSegment loop answer now).1 :=
        moves_loopSegment (fun _ => rfl) loop answer now
      exact hmoves.trans (moves_of_same rfl rfl rfl rfl rfl rfl rfl)
  | reportStartupBlockIfNeeded =>
    refine hother ?_ rfl (by simp)
    show Moves NoTick w.scheduler w.scheduler.reportStartupBlockIfNeeded
    unfold StrategyScheduler.reportStartupBlockIfNeeded
    split
    · exact moves_refl _ _
    · exact moves_of_same rfl rfl rfl rfl rfl rfl rfl
  | ownership held =>
    exact hother (moves_of_same rfl rfl rfl rfl rfl rfl rfl) rfl (by simp)
  | setStartupPreflight preflight =>
    exact hother (moves_of_same rfl rfl rfl rfl rfl rfl rfl) rfl (by simp)
  | startupBlockReported report =>
    exact hother (moves_of_same rfl rfl rfl rfl rfl rfl rfl) rfl (by simp)
  | stop => exact hother moves_stop rfl (by simp)
  | stopAndWait =>
    refine hother ?_ rfl (by simp)
    exact moves_stop.trans (moves_of_same rfl rfl rfl rfl rfl rfl rfl)
  | resolveStop waiter timedOut =>
    refine hother ?_ rfl (by simp)
    show Moves NoTick w.scheduler (w.scheduler.resolveStop waiter timedOut)
    unfold StrategyScheduler.resolveStop
    split
    · exact moves_refl _ _
    · split_ifs
      · exact moves_refl _ _
      · exact moves_of_same rfl rfl rfl rfl rfl rfl rfl
      · exact moves_of_same rfl rfl rfl rfl rfl rfl rfl
      · exact moves_refl _ _

variable {s : StrategyScheduler config}

/-- A tick that is skipped has its result applied first. -/
theorem tickSegment_of_skipping {index : ℕ} {tick : Tick config} {answer : Answer} {now : ℕ}
    (hqueued : tick.phase = .queued)
    (h : isSkipping (s.tickSegment index tick answer now).2 = true) :
    ∃ result : StrategyRunResult, result.status = .skipped ∧
      (s.tickSegment index tick answer now).1 =
        s.applyResult tick.entry.1.market (some (result, now, now)) := by
  unfold StrategyScheduler.tickSegment at h ⊢
  rw [hqueued] at h ⊢
  dsimp only at h ⊢
  by_cases hturn : (s.ticks.take index).all fun earlier => earlier.phase.settled
  · rw [if_pos hturn] at h ⊢
    unfold StrategyScheduler.startTick at h ⊢
    split at h
    · cases h
    · next hidle =>
      rw [if_neg hidle]
      by_cases hskips : s.skipsTick tick = true
      · rw [if_pos hskips]
        exact ⟨_, rfl, rfl⟩
      · rw [if_neg hskips] at h
        cases h
  · rw [if_neg hturn] at h
    cases h

/-- A tick that is deferred is recorded as skipped in the status of its market at once. -/
theorem status_of_deferredBy {e : Event} {index : ℕ} (h : deferredBy s e = some index) :
    ∃ tick, s.ticks[index]? = some tick ∧
      ((Machine.step s e).status tick.entry.1.market).lastStatus = .run .skipped := by
  cases e with
  | advanceTick i answer now =>
    obtain ⟨tick, htick, hif⟩ := Option.bind_eq_some_iff.mp h
    split_ifs at hif with hboth
    obtain rfl := Option.some.inj hif
    obtain ⟨result, hstatus, hsegment⟩ := tickSegment_of_skipping hboth.1 hboth.2
    refine ⟨tick, htick, ?_⟩
    have hnext : (Machine.step s (.advanceTick i answer now)).status =
        (s.applyResult tick.entry.1.market (some (result, now, now))).status := by
      have hadvance : (s.advanceTick i answer now).status =
          (s.tickSegment i tick answer now).1.status := by
        unfold StrategyScheduler.advanceTick
        rw [htick]
      rw [← hsegment]
      exact hadvance
    rw [hnext]
    simp [StrategyScheduler.applyResult, StrategyScheduler.updateMarketStatus, applyRunResult,
      hstatus]
  | _ => cases h

/-- **One live order per batch.** In every run in which timers fire in the order of the times they were
armed for: a tick behind one of its batch that submitted a live order asks no controller, is recorded as
skipped, and has its market scheduled again; and only such a tick is skipped. -/
theorem one_order_per_batch (held : Bool) (preflight : Option StartupPreflight)
    (history : List Event)
    (hfired : (run Watch.step (Watch.create held preflight : Watch config) history).fired.Pairwise
      (· ≤ ·)) :
    let w := run Watch.step (Watch.create held preflight : Watch config) history
    (∀ i ∈ w.submitted, ∀ (j : ℕ) (first later : Tick config), i < j →
      w.scheduler.ticks[i]? = some first → w.scheduler.ticks[j]? = some later →
        later.batchKey = first.batchKey → Deferral w j later) ∧
    (∀ j ∈ w.deferred, ∃ later, w.scheduler.ticks[j]? = some later ∧
      ∃ i ∈ w.submitted, i < j ∧
        ∃ first, w.scheduler.ticks[i]? = some first ∧ first.batchKey = later.batchKey) ∧
    ∀ earlier event later, history = earlier ++ event :: later →
      let before := run Watch.step (Watch.create held preflight : Watch config) earlier
      ∀ j, deferredBy before.scheduler event = some j →
        ∃ tick, before.scheduler.ticks[j]? = some tick ∧
          ((before.step event).scheduler.status tick.entry.1.market).lastStatus =
            .run .skipped := by
  have hsound : Sound (run Watch.step (Watch.create held preflight : Watch config) history) :=
    run_invariant Sound sound_step (sound_create held preflight) history
  exact ⟨hsound.batches hfired, hsound.deferred,
    fun earlier event later _ j hdeferred => status_of_deferredBy hdeferred⟩

end Runs

/-! ### Two markets of one batch -/

/-- Two markets with one interval, and a live send path. -/
def twoMarkets : StrategySchedulerConfig where
  enabled := true
  runOnStart := false
  exchangeAccountId := "primary"
  liveSendPath := .liveAdapter
  markets := [⟨.krwBtc, 3600000⟩, ⟨.krwEth, 3600000⟩]
  repositories := true
  reporter := false
  beforeRunAccountRefresh := false
  beforeRunPreflight := false

def orderResult : StrategyRunResult where
  status := .completed
  requestedAt := 3600000
  market := some .krwBtc
  strategyDecisionId := some "decision"
  action := some .enter
  orderId := some "order"
  orderStatus := none
  submissionAccepted := some true
  submissionOutcome := none
  detail := "Decision ENTER persisted and submitted."

/-- Both timers fire, the first market submits an order, and the second one is skipped. -/
def bothFire : List Event :=
  [.start 0, .timerFired 0, .timerFired 1, .advanceTick 0 .go 3600000,
    .advance 0 (.owner (.ok .scheduler)) 3600000, .advance 0 .go 3600000,
    .advance 0 (.saved (.ok ())) 3600000, .advance 0 .go 3600000,
    .advance 0 (.controlled (.ok orderResult)) 3600500, .advance 0 .go 3600500,
    .advance 0 (.saved (.ok ())) 3600500, .advance 0 .go 3600500, .advance 0 .go 3600500,
    .react 0 3600500 true, .advanceTick 0 .go 3600500, .advanceTick 0 .go 3600500,
    .advanceTick 1 .go 3600600, .advanceTick 1 .go 3600600,
    .advanceTick 1 (.saved (.ok ())) 3600700, .advanceTick 1 .go 3600700,
    .advanceTick 1 .go 3600700, .advanceTick 1 .go 3600700]

/-- The second market saved a skipped record and was scheduled again. -/
theorem one_order_per_batch_two_markets :
    (run Watch.step (Watch.create true none : Watch twoMarkets) bothFire).submitted = [0] ∧
    (run Watch.step (Watch.create true none : Watch twoMarkets) bothFire).deferred = [1] ∧
    (∀ market, .requestRun market ∉
      (run Watch.step (Watch.create true none : Watch twoMarkets) bothFire).effects 1) ∧
    ∃ told nextRunAt, Told twoMarkets .krwEth told ∧
      (run Watch.step (Watch.create true none : Watch twoMarkets) bothFire).effects 1 =
        told ++ [.setTimer .krwEth nextRunAt] := by
  have hends : (run Watch.step (Watch.create true none : Watch twoMarkets) bothFire).submitted =
      [0] ∧ (run Watch.step (Watch.create true none : Watch twoMarkets) bothFire).deferred = [1] ∧
      (run Watch.step (Watch.create true none : Watch twoMarkets) bothFire).scheduler.lifecycle =
        .started := by decide +kernel
  have hticks : ∃ first later : Tick twoMarkets,
      (run Watch.step (Watch.create true none : Watch twoMarkets) bothFire).scheduler.ticks =
        [first, later] ∧ later.batchKey = first.batchKey ∧ later.entry.1.market = .krwEth ∧
      later.phase = .closed := by
    refine ⟨_, _, rfl, ?_⟩
    decide +kernel
  obtain ⟨first, later, hticks, hkey, hmarket, hclosed⟩ := hticks
  have hdeferral := (one_order_per_batch true none bothFire (by decide +kernel)).1 0
    (by rw [hends.1]; exact List.mem_singleton_self _) 1 first later Nat.one_pos
    (by rw [hticks]; rfl) (by rw [hticks]; rfl) hkey
  refine ⟨hends.1, hends.2.1, hdeferral.silent, ?_⟩
  have hskips := hdeferral.skips
  rw [hclosed, hmarket, hends.2.2] at hskips
  rcases hskips with hstopped | hscheduled
  · cases hstopped
  · exact hscheduled

end AutoTrade.Scheduler.BatchOrders
