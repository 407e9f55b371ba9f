import AutoTrade.Scheduler.Records
import AutoTrade.Lib.LockFlag
import Mathlib.Logic.Function.Basic

/-! # The strategy scheduler as a machine

`StrategyScheduler`, cut at its awaits: a step is one synchronous stretch of a run, of a scheduled
tick, of the run-on-start loop or of a call from outside. What the scheduler awaits (the preparation
hooks, the repositories, the controller, the reporter) answers in the event, at any time and in any
order, and ownership may be lost between any two steps. A stretch that checks ownership twice is cut
before the second check.

One order of microtasks matters and is kept: the reactions of a run's promise run in the order they
were registered, so a settled run leaves `inFlightRuns` and resumes the scheduled caller that awaits
it in one step (`react`), before a `stopAndWait` that waits for it goes on. -/

namespace AutoTrade.Scheduler.Machine

open Lib.LockFlag Domain.Types Scheduler.Records

/-! ### State -/

section State
variable (config : StrategySchedulerConfig)

/-- A market of the configuration. -/
abbrev Entry := { entry : StrategySchedulerMarketConfig // entry ∈ config.markets }

/-- What follows `persistSchedulerRun`. -/
inductive AfterSave
  | report (result : StrategyRunResult)
  | requestRun (startedAt : ℕ) (record : SchedulerRunRecord)
  deriving DecidableEq

/-- Where an `executeMarketNow` stands. `rejected` has failed before it applied a result,
`interrupted` has lost ownership after that, and the reactions of a `closed` one have run. -/
inductive RunPhase
  | resolvingOwner (startedAt : ℕ)
  | refreshing (startedAt : ℕ)
  | preflighting (startedAt : ℕ)
  | saving (record : SchedulerRunRecord) (update : Bool) (next : AfterSave)
  | awaitingSave (next : AfterSave)
  | saved (persisted : Bool) (next : AfterSave)
  | awaitingController (startedAt : ℕ) (record : SchedulerRunRecord)
  | reporting (result : StrategyRunResult)
  | awaitingReport (result : StrategyRunResult)
  | fulfilled (result : StrategyRunResult)
  | rejected (failure : Failure)
  | interrupted
  | closed
  deriving DecidableEq

/-- The promise of the run has settled, and its reactions have not run. -/
def RunPhase.settled : RunPhase → Bool
  | .fulfilled _ => true
  | .rejected _ => true
  | .interrupted => true
  | _ => false

/-- Who called `runMarketNow`: anyone, the tick of an index, or the run-on-start loop. -/
inductive Caller
  | direct (market : SupportedMarket)
  | tick (index : ℕ) (entry : Entry config)
  | onStart (entry : Entry config)

structure Run where
  caller : Caller config
  intervalMs : ℕ
  phase : RunPhase

/-- Where a `runScheduledMarket` stands. -/
inductive ScheduledPhase
  | awaitingRun (run : ℕ)
  | awaitingReport (result : StrategyRunResult)
  | returned (result : StrategyRunResult)
  | threw (failure : Failure)
  deriving DecidableEq

/-- Where a tick stands. It is `finished` when its queue promise has settled, and `closed` when its
market has been scheduled again, or not. -/
inductive TickPhase
  | queued
  | running (phase : ScheduledPhase)
  | skipping (phase : RunPhase)
  | finished (failure : Option Failure)
  | closed
  deriving DecidableEq

/-- The queue promise of the tick has settled. -/
def TickPhase.settled : TickPhase → Bool
  | .finished _ => true
  | .closed => true
  | _ => false

structure Tick where
  entry : Entry config
  batchKey : ℕ
  phase : TickPhase

/-- `runMarketsOnStartSequentially`: at the head of its loop, or in the run of a market. -/
inductive LoopPhase
  | head
  | running (entry : Entry config) (phase : ScheduledPhase)
  | closed
  deriving DecidableEq

structure StartLoop where
  remaining : List (Entry config)
  phase : LoopPhase config

structure Timer where
  id : ℕ
  entry : Entry config
  batchKey : ℕ

/-- A pending `stopAndWait`: what it waits for, and the `quiesced` it resolved with. -/
structure Waiter where
  runs : List ℕ
  reports : List ℕ
  ticks : ℕ
  quiesced : Option Bool

/-- What the scheduler does to the outside for its runs. -/
inductive Effect
  | requestRun (market : SupportedMarket)
  | setTimer (market : SupportedMarket) (nextRunAt : ℕ)
  | saveRun (record : SchedulerRunRecord)
  | updateRun (record : SchedulerRunRecord)
  | report (notification : SchedulerNotification)

/-- The flags `started` and `stopBegun`: never both. -/
inductive Lifecycle
  | created
  | started
  | stopBegun
  deriving DecidableEq

/-- `armed` are the timers that will fire, `timers` the one the scheduler remembers of each market. -/
structure StrategyScheduler where
  lifecycle : Lifecycle
  ownershipHeld : Bool
  startupPreflight : Option StartupPreflight
  startupBlockReported : Bool
  inFlightStartupBlockReports : List ℕ
  startupBlockReports : ℕ
  armed : List (Timer config)
  timers : SupportedMarket → Option ℕ
  timerCount : ℕ
  status : SupportedMarket → MarketStatus
  orderSubmittedBatchKey : Option ℕ
  runs : List (Run config)
  ticks : List (Tick config)
  startLoop : Option (StartLoop config)
  waiters : List Waiter
  trace : List Effect

end State

variable {config : StrategySchedulerConfig}

def Caller.market : Caller config → SupportedMarket
  | .direct market => market
  | .tick _ entry => entry.1.market
  | .onStart entry => entry.1.market

def Caller.isDirect : Caller config → Bool
  | .direct _ => true
  | _ => false

def Run.market (run : Run config) : SupportedMarket := run.caller.market

/-- The configuration `executeMarketNow` found for the market. -/
def Run.entry (run : Run config) : StrategySchedulerMarketConfig := ⟨run.market, run.intervalMs⟩

variable (config) in
def create (ownershipHeld : Bool) (startupPreflight : Option StartupPreflight) :
    StrategyScheduler config where
  lifecycle := .created
  ownershipHeld
  startupPreflight
  startupBlockReported := false
  inFlightStartupBlockReports := []
  startupBlockReports := 0
  armed := []
  timers := fun _ => none
  timerCount := 0
  status := fun market =>
    createInitialMarketStatus market (((config.find market).map (·.intervalMs)).getD 0)
  orderSubmittedBatchKey := none
  runs := []
  ticks := []
  startLoop := none
  waiters := []
  trace := []

namespace StrategyScheduler

def updateMarketStatus (s : StrategyScheduler config) (market : SupportedMarket)
    (patch : MarketStatus → MarketStatus) : StrategyScheduler config :=
  { s with status := Function.update s.status market (patch (s.status market)) }

def emit (s : StrategyScheduler config) (effects : List Effect) : StrategyScheduler config :=
  { s with trace := s.trace ++ effects }

/-! ### Timers, start and stop -/

def buildSchedulerBatchKey (nextRunAt : ℕ) : ℕ := nextRunAt / 1000 * 1000

def scheduleMarket (s : StrategyScheduler config) (entry : Entry config) (delayMs now : ℕ) :
    StrategyScheduler config :=
  if s.lifecycle ≠ .started ∨ config.enabled = false then s
  else
    let nextRunAt := now + delayMs
    let s := s.updateMarketStatus entry.1.market fun current =>
      { current with nextRunAt := some nextRunAt }
    { s with
      armed := s.armed ++ [⟨s.timerCount, entry, buildSchedulerBatchKey nextRunAt⟩]
      timers := Function.update s.timers entry.1.market (some s.timerCount)
      timerCount := s.timerCount + 1
      trace := s.trace ++ [.setTimer entry.1.market nextRunAt] }

/-- `stop`: the remembered timers are cleared. -/
def stop (s : StrategyScheduler config) : StrategyScheduler config :=
  { s with
    lifecycle := .stopBegun
    armed := s.armed.filter fun timer => s.timers timer.entry.1.market ≠ some timer.id
    timers := fun _ => none
    status := fun market =>
      if (config.find market).isSome then { s.status market with nextRunAt := none }
      else s.status market }

def handleRuntimeOwnershipFailure (s : StrategyScheduler config) (failure : Failure) : StrategyScheduler config :=
  if isRuntimeOwnershipFailure failure then s.stop else s

def applyStartupBlock (s : StrategyScheduler config) (preflight : StartupPreflight) : StrategyScheduler config :=
  { s with
    status := fun market =>
      if (config.find market).isSome then
        { s.status market with
          running := false
          nextRunAt := none
          lastCompletedAt := some preflight.checkedAt
          lastStatus := .startupBlocked
          lastError := some preflight.detail }
      else s.status market }

/-- `start` would block: it is enabled and not started, and the startup preflight says so. -/
def startBlock (s : StrategyScheduler config) : Option StartupPreflight :=
  if s.lifecycle ≠ .created ∨ s.ownershipHeld = false ∨ config.enabled = false then none
  else s.startupPreflight.filter (·.status = .block)

/-- `start`; where it throws, nothing changes. The run-on-start loop begins at its head. -/
def start (s : StrategyScheduler config) (now : ℕ) : StrategyScheduler config :=
  if s.lifecycle ≠ .created ∨ s.ownershipHeld = false ∨ config.enabled = false then s
  else
    match s.startBlock with
    | some preflight => s.applyStartupBlock preflight
    | none =>
      let s := { s with lifecycle := .started }
      if config.runOnStart then { s with startLoop := some ⟨config.markets.attach, .head⟩ }
      else config.markets.attach.foldl (fun s entry => s.scheduleMarket entry entry.1.intervalMs now) s

/-! ### Runs -/

/-- `runMarketNow` and the first stretch of `executeMarketNow`: the index of the new run. A call that
is refused before the market is looked up leaves nothing behind. -/
def runMarketNow (s : StrategyScheduler config) (caller : Caller config) (now : ℕ) :
    StrategyScheduler config × Except Failure ℕ :=
  if s.ownershipHeld = false then (s, .error .ownership)
  else if s.lifecycle = .stopBegun then
    (s, .error (.other "Strategy scheduler cannot run after stop has begun."))
  else
    match config.find caller.market with
    | none => (s, .error (.other ("Unsupported scheduled market: " ++ caller.market.text)))
    | some entry =>
      if (s.status caller.market).running then
        let skipped := createEmptyRunResult .alreadyRunning now caller.market
          ("A scheduled strategy run is already running for " ++ caller.market.text ++ ".")
        let record :=
          createSchedulerRunRecord config entry .skipped now (some now) (some skipped)
        let s := s.updateMarketStatus caller.market fun current =>
          { current with
            skippedCount := current.skippedCount + 1
            lastCompletedAt := some now
            lastStatus := .run .alreadyRunning
            lastError := none }
        ({ s with
            runs := s.runs ++ [⟨caller, entry.intervalMs, .saving record false (.report skipped)⟩] },
          .ok s.runs.length)
      else
        let s := s.updateMarketStatus caller.market fun current =>
          { current with
            running := true
            lastStartedAt := some now
            lastCompletedAt := none
            lastError := none }
        ({ s with runs := s.runs ++ [⟨caller, entry.intervalMs, .resolvingOwner now⟩] },
          .ok s.runs.length)

end StrategyScheduler

/-- What is awaited, and how it settled. `go` is nothing awaited. -/
inductive Answer
  | go
  | owner (outcome : Except Failure RunPreparationOwner)
  | refreshed (outcome : Except Failure (Option AccountRefreshResult))
  | preflighted (outcome : Except Failure (Option StartupPreflight))
  | saved (outcome : Except Failure Unit)
  | controlled (outcome : Except Failure StrategyRunResult)
  | reported (outcome : Except Failure Unit)

/-- The outcome of a stretch of a run: where it stands now, the result it applied to its market (with
the start and the end of the run), and what it did to the outside. -/
structure Segment where
  phase : RunPhase
  applied : Option (StrategyRunResult × ℕ × ℕ)
  effects : List Effect

namespace Segment

/-- A stretch that only moves on. -/
def goto (phase : RunPhase) : Segment := ⟨phase, none, []⟩

end Segment

/-- Where `persistSchedulerRun` throws. -/
def lostWhileSaving : AfterSave → RunPhase
  | .report _ => .interrupted
  | .requestRun _ _ => .rejected .ownership

section Segments
variable (config : StrategySchedulerConfig) (held : Bool) (entry : StrategySchedulerMarketConfig)

/-- The run fails before the controller: the result is applied, then persisted and reported. -/
def failBeforeRun (startedAt failedAt : ℕ) (detail : String) : Segment :=
  let failed := createFailedRunResult startedAt entry.market detail
  let record := createSchedulerRunRecord config entry .failed startedAt (some failedAt) (some failed)
  ⟨.saving record false (.report failed), some (failed, startedAt, failedAt), []⟩

/-- The message of an error in a catch block, after the ownership failures are rethrown. -/
def failAfterCatch (startedAt now : ℕ) (prefixText : String) : Failure → Segment
  | .ownership => .goto (.rejected .ownership)
  | .other message =>
    if held = false then .goto (.rejected .ownership)
    else failBeforeRun config entry startedAt now (prefixText ++ message)

/-- The record of the start, before the controller is asked. -/
def prepareStart (startedAt : ℕ) : RunPhase :=
  let record := createSchedulerRunRecord config entry .started startedAt none none
  .saving record false (.requestRun startedAt record)

def preparePreflight (startedAt : ℕ) : RunPhase :=
  if config.beforeRunPreflight then .preflighting startedAt
  else prepareStart config entry startedAt

/-- `persistSchedulerRun` up to the repository call. -/
def segmentSaving (record : SchedulerRunRecord) (update : Bool) (next : AfterSave) : Segment :=
  if config.repositories = false then .goto (.saved true next)
  else if held = false then .goto (lostWhileSaving next)
  else ⟨.awaitingSave next, none, [if update then .updateRun record else .saveRun record]⟩

/-- `persistSchedulerRun` after the repository call. -/
def segmentSaved (next : AfterSave) : Except Failure Unit → Segment
  | .error .ownership => .goto (lostWhileSaving next)
  | .error (.other _) =>
    if held = false then .goto (lostWhileSaving next) else .goto (.saved false next)
  | .ok () => if held = false then .goto (lostWhileSaving next) else .goto (.saved true next)

/-- `executeMarketNow` after `persistSchedulerRun`. -/
def segmentAfterSave (persisted : Bool) (now : ℕ) : AfterSave → Segment
  | .report result => .goto (.reporting result)
  | .requestRun startedAt record =>
    if persisted then ⟨.awaitingController startedAt record, none, [.requestRun entry.market]⟩
    else
      let failed := createFailedRunResult startedAt entry.market
        "Strategy scheduler did not run because scheduler history could not be persisted."
      ⟨.reporting failed, some (failed, startedAt, now), []⟩

/-- `reportSchedulerResult` up to the reporter call. -/
def segmentReporting (result : StrategyRunResult) : Segment :=
  match if config.reporter then buildSchedulerNotification config entry result else none with
  | none => .goto (.fulfilled result)
  | some notification =>
    if held = false then .goto .interrupted
    else ⟨.awaitingReport result, none, [.report notification]⟩

/-- `reportSchedulerResult` after the reporter call: a failed report changes nothing. -/
def segmentReported (result : StrategyRunResult) : Except Failure Unit → Segment
  | .error .ownership => .goto .interrupted
  | _ => if held = false then .goto .interrupted else .goto (.fulfilled result)

/-- One stretch of `executeMarketNow`. -/
def segment : RunPhase → Answer → ℕ → Option Segment
  | .resolvingOwner startedAt, .owner (.error failure), now =>
    some (failAfterCatch config held entry startedAt now
      "Strategy scheduler preparation ownership failed before run: " failure)
  | .resolvingOwner startedAt, .owner (.ok .controller), _ =>
    some (.goto (prepareStart config entry startedAt))
  | .resolvingOwner startedAt, .owner (.ok .scheduler), _ =>
    some (.goto (if config.beforeRunAccountRefresh then .refreshing startedAt
      else preparePreflight config entry startedAt))
  | .refreshing startedAt, .refreshed (.error failure), now =>
    some (failAfterCatch config held entry startedAt now
      "Strategy scheduler account refresh failed before run: " failure)
  | .refreshing startedAt, .refreshed (.ok refresh), now =>
    some
      (if held = false then .goto (.rejected .ownership)
      else
        match refresh.filter (·.failed) with
        | some refresh => failBeforeRun config entry startedAt now
            ("Strategy scheduler account refresh failed before run: " ++ refresh.detail)
        | none => .goto (preparePreflight config entry startedAt))
  | .preflighting startedAt, .preflighted (.error failure), now =>
    some (failAfterCatch config held entry startedAt now "Strategy scheduler preflight failed: "
      failure)
  | .preflighting startedAt, .preflighted (.ok preflight), now =>
    some
      (if held = false then .goto (.rejected .ownership)
      else
        match preflight.filter (·.status = .block) with
        | some preflight => failBeforeRun config entry startedAt now
            ("Strategy scheduler blocked before run: " ++ preflight.detail)
        | none => .goto (prepareStart config entry startedAt))
  | .saving record update next, .go, _ => some (segmentSaving config held record update next)
  | .awaitingSave next, .saved outcome, _ => some (segmentSaved held next outcome)
  | .saved persisted next, .go, now => some (segmentAfterSave entry persisted now next)
  | .awaitingController _ _, .controlled (.error failure), _ => some (.goto (.rejected failure))
  | .awaitingController startedAt record, .controlled (.ok result), now =>
    some
      (if held = false then .goto (.rejected .ownership)
      else
        ⟨.saving (completeSchedulerRunRecord record result now) true (.report result),
          some (result, startedAt, now), []⟩)
  | .reporting result, .go, _ => some (segmentReporting config held entry result)
  | .awaitingReport result, .reported outcome, _ => some (segmentReported held result outcome)
  | _, _, _ => none

end Segments

namespace StrategyScheduler

/-- The result is applied to its market, if there is one. -/
def applyResult (s : StrategyScheduler config) (market : SupportedMarket) :
    Option (StrategyRunResult × ℕ × ℕ) → StrategyScheduler config
  | none => s
  | some (result, startedAt, completedAt) =>
    s.updateMarketStatus market fun current => applyRunResult current result startedAt completedAt

/-- The run of the index moves to another phase. -/
def moveRun (s : StrategyScheduler config) (index : ℕ) (run : Run config) (phase : RunPhase) :
    StrategyScheduler config :=
  { s with runs := s.runs.set index { run with phase } }

/-- A run goes on. -/
def advance (s : StrategyScheduler config) (index : ℕ) (answer : Answer) (now : ℕ) : StrategyScheduler config :=
  match s.runs[index]? with
  | none => s
  | some run =>
    match segment config s.ownershipHeld run.entry run.phase answer now with
    | none => s
    | some seg =>
      ((s.applyResult run.market seg.applied).emit seg.effects).moveRun index run seg.phase

/-! ### Scheduled runs -/

/-- The catch block of `runScheduledMarket`. Ownership may expire before the report. -/
def catchScheduled (s : StrategyScheduler config) (entry : Entry config) (failure : Failure) (now : ℕ)
    (heldAtReport : Bool) : StrategyScheduler config × ScheduledPhase :=
  match failure with
  | .ownership => (s, .threw .ownership)
  | .other message =>
    if s.ownershipHeld = false then (s, .threw .ownership)
    else
      let result := createFailedRunResult now entry.1.market ("Strategy scheduler failed: " ++ message)
      let s := s.applyResult entry.1.market (some (result, now, now))
      match if config.reporter then buildSchedulerNotification config entry.1 result else none with
      | none => (s, .returned result)
      | some notification =>
        if heldAtReport = false then ({ s with ownershipHeld := false }, .threw .ownership)
        else (s.emit [.report notification], .awaitingReport result)

/-- `runScheduledMarket` up to its first await. -/
def runScheduledMarket (s : StrategyScheduler config) (caller : Caller config) (entry : Entry config)
    (now : ℕ) : StrategyScheduler config × ScheduledPhase :=
  match s.runMarketNow caller now with
  | (s, .ok run) => (s, .awaitingRun run)
  | (s, .error failure) => s.catchScheduled entry failure now true

/-- The awaiting caller goes on with what the run settled to. -/
def resumeScheduled (s : StrategyScheduler config) (entry : Entry config) (phase : RunPhase) (now : ℕ)
    (heldAtReport : Bool) : StrategyScheduler config × ScheduledPhase :=
  match phase with
  | .fulfilled result => (s, .returned result)
  | .rejected failure => s.catchScheduled entry failure now heldAtReport
  | _ => (s, .threw .ownership)

/-- The reactions of a settled run's promise: it leaves `inFlightRuns`, and its caller goes on. -/
def react (s : StrategyScheduler config) (index : ℕ) (now : ℕ) (heldAtReport : Bool) : StrategyScheduler config :=
  match s.runs[index]? with
  | none => s
  | some run =>
    if run.phase.settled = false then s
    else
      let s := s.moveRun index run .closed
      match run.caller with
      | .direct _ => s
      | .tick i entry =>
        let resumed := s.resumeScheduled entry run.phase now heldAtReport
        { resumed.1 with
          ticks := resumed.1.ticks.modify i fun tick =>
            if tick.phase = .running (.awaitingRun index) then
              { tick with phase := .running resumed.2 }
            else tick }
      | .onStart entry =>
        let resumed := s.resumeScheduled entry run.phase now heldAtReport
        { resumed.1 with
          startLoop := resumed.1.startLoop.map fun loop =>
            if loop.phase = .running entry (.awaitingRun index) then
              { loop with phase := .running entry resumed.2 }
            else loop }

/-- `runScheduledMarket` after the report of its catch block. -/
def afterScheduledReport (s : StrategyScheduler config) (result : StrategyRunResult) :
    Except Failure Unit → ScheduledPhase
  | .error .ownership => .threw .ownership
  | _ => if s.ownershipHeld = false then .threw .ownership else .returned result

/-! ### Ticks and the run-on-start loop -/

/-- A timer fires: its tick is enqueued. -/
def timerFired (s : StrategyScheduler config) (id : ℕ) : StrategyScheduler config :=
  match s.armed.find? fun timer => timer.id = id with
  | none => s
  | some timer =>
    { s with
      armed := s.armed.filter fun timer => timer.id ≠ id
      timers := Function.update s.timers timer.entry.1.market none
      ticks := s.ticks ++ [⟨timer.entry, timer.batchKey, .queued⟩] }

/-- The tick would be skipped: an order went out earlier in its batch. -/
def skipsTick (s : StrategyScheduler config) (tick : Tick config) : Bool :=
  s.lifecycle = .started ∧ config.enabled ∧ s.orderSubmittedBatchKey = some tick.batchKey

/-- The first stretch of a queued tick: the next phase, with `recordSkippedScheduledRun` up to its
first await. -/
def startTick (s : StrategyScheduler config) (index : ℕ) (tick : Tick config) (now : ℕ) :
    StrategyScheduler config × TickPhase :=
  if s.lifecycle ≠ .started ∨ config.enabled = false then (s, .finished none)
  else if s.skipsTick tick then
    let entry := tick.entry.1
    let result := createEmptyRunResult .skipped now entry.market
      ("A scheduled order was submitted earlier in the same scheduler batch; deferring " ++
        entry.market.text ++ " until its next scheduled interval.")
    let record := createSchedulerRunRecord config entry .skipped now (some now) (some result)
    (s.applyResult entry.market (some (result, now, now)),
      .skipping (.saving record false (.report result)))
  else
    let started := s.runScheduledMarket (.tick index tick.entry) tick.entry now
    (started.1, .running started.2)

/-- A tick whose run is recorded as skipped goes on. -/
def skipTick (s : StrategyScheduler config) (entry : Entry config) (phase : RunPhase) (answer : Answer)
    (now : ℕ) : StrategyScheduler config × TickPhase :=
  match segment config s.ownershipHeld entry.1 phase answer now with
  | none => (s, .skipping phase)
  | some seg =>
    (s.emit seg.effects,
      match seg.phase with
      | .fulfilled _ => .finished none
      | .interrupted => .finished (some .ownership)
      | phase => .skipping phase)

/-- One stretch of a tick: the callback of `enqueueScheduledMarketRun`, and the reaction that
schedules the market again. -/
def tickSegment (s : StrategyScheduler config) (index : ℕ) (tick : Tick config) (answer : Answer)
    (now : ℕ) : StrategyScheduler config × TickPhase :=
  match tick.phase with
  | .queued =>
    if (s.ticks.take index).all fun earlier => earlier.phase.settled then
      s.startTick index tick now
    else (s, .queued)
  | .running (.awaitingRun run) => (s, .running (.awaitingRun run))
  | .running (.awaitingReport result) =>
    match answer with
    | .reported outcome => (s, .running (s.afterScheduledReport result outcome))
    | _ => (s, .running (.awaitingReport result))
  | .running (.returned result) =>
    ({ s with
        orderSubmittedBatchKey :=
          if wasLiveOrderSubmitted config result then some tick.batchKey
          else s.orderSubmittedBatchKey },
      .finished none)
  | .running (.threw failure) => (s, .finished (some failure))
  | .skipping phase => s.skipTick tick.entry phase answer now
  | .finished none => (s.scheduleMarket tick.entry tick.entry.1.intervalMs now, .closed)
  | .finished (some failure) =>
    (if isRuntimeOwnershipFailure failure then s.handleRuntimeOwnershipFailure failure
      else s.scheduleMarket tick.entry tick.entry.1.intervalMs now,
      .closed)
  | .closed => (s, .closed)

def advanceTick (s : StrategyScheduler config) (index : ℕ) (answer : Answer) (now : ℕ) :
    StrategyScheduler config :=
  match s.ticks[index]? with
  | none => s
  | some tick =>
    let moved := s.tickSegment index tick answer now
    { moved.1 with ticks := moved.1.ticks.set index { tick with phase := moved.2 } }

/-- One stretch of the run-on-start loop. -/
def loopSegment (s : StrategyScheduler config) (loop : StartLoop config) (answer : Answer) (now : ℕ) :
    StrategyScheduler config × StartLoop config :=
  match loop.phase, loop.remaining with
  | .head, [] => (s, { loop with phase := .closed })
  | .head, entry :: rest =>
    if s.lifecycle ≠ .started ∨ config.enabled = false then (s, { loop with phase := .closed })
    else
      let started := s.runScheduledMarket (.onStart entry) entry now
      (started.1, ⟨rest, .running entry started.2⟩)
  | .running entry (.awaitingReport result), _ =>
    match answer with
    | .reported outcome =>
      (s, { loop with phase := .running entry (s.afterScheduledReport result outcome) })
    | _ => (s, loop)
  | .running entry (.returned _), _ =>
    (s.scheduleMarket entry entry.1.intervalMs now, { loop with phase := .head })
  | .running _ (.threw failure), _ =>
    (s.handleRuntimeOwnershipFailure failure, { loop with phase := .closed })
  | .running _ (.awaitingRun _), _ => (s, loop)
  | .closed, _ => (s, loop)

def advanceLoop (s : StrategyScheduler config) (answer : Answer) (now : ℕ) : StrategyScheduler config :=
  match s.startLoop with
  | none => s
  | some loop =>
    let moved := s.loopSegment loop answer now
    { moved.1 with startLoop := some moved.2 }

/-! ### Startup reports, `getStatus` and `stopAndWait` -/

/-- The `markets` of `getStatus`. -/
def getStatus (s : StrategyScheduler config) : List MarketStatus :=
  config.markets.map fun entry => s.status entry.market

def reportStartupBlockIfNeeded (s : StrategyScheduler config) : StrategyScheduler config :=
  if (s.startupPreflight.filter (·.status = .block)).isNone ∨ s.startupBlockReported then s
  else
    { s with
      startupBlockReported := true
      inFlightStartupBlockReports := s.inFlightStartupBlockReports ++ [s.startupBlockReports]
      startupBlockReports := s.startupBlockReports + 1 }

/-- The runs in `inFlightRuns`. -/
def inFlightRuns (s : StrategyScheduler config) : List ℕ :=
  (List.range s.runs.length).filter fun i => (s.runs[i]?).any fun run => run.phase ≠ .closed

def stopAndWait (s : StrategyScheduler config) : StrategyScheduler config :=
  let s := s.stop
  { s with
    waiters := s.waiters ++
      [⟨s.inFlightRuns, s.inFlightStartupBlockReports, s.ticks.length, none⟩] }

/-- Everything the call waits for has settled. -/
def Settled (s : StrategyScheduler config) (waiter : Waiter) : Prop :=
  (∀ i ∈ waiter.runs, ∀ run ∈ s.runs[i]?, run.phase = .closed) ∧
    (∀ report ∈ waiter.reports, report ∉ s.inFlightStartupBlockReports) ∧
    (∀ tick ∈ s.ticks.take waiter.ticks, tick.phase.settled = true)

instance (s : StrategyScheduler config) (waiter : Waiter) : Decidable (s.Settled waiter) := by
  unfold Settled
  infer_instance

/-- The wait is over: because all of it has settled, or at the timeout. -/
def resolveStop (s : StrategyScheduler config) (index : ℕ) (timedOut : Bool) : StrategyScheduler config :=
  match s.waiters[index]? with
  | none => s
  | some waiter =>
    if waiter.quiesced.isSome then s
    else if timedOut then
      { s with waiters := s.waiters.set index { waiter with quiesced := some false } }
    else if s.Settled waiter then
      { s with waiters := s.waiters.set index { waiter with quiesced := some true } }
    else s

end StrategyScheduler

/-! ### Events -/

inductive Event
  | ownership (held : Bool)
  | setStartupPreflight (preflight : Option StartupPreflight)
  | start (now : ℕ)
  | runMarketNow (market : SupportedMarket) (now : ℕ)
  | advance (run : ℕ) (answer : Answer) (now : ℕ)
  | react (run : ℕ) (now : ℕ) (heldAtReport : Bool)
  | timerFired (id : ℕ)
  | advanceTick (tick : ℕ) (answer : Answer) (now : ℕ)
  | advanceLoop (answer : Answer) (now : ℕ)
  | reportStartupBlockIfNeeded
  | startupBlockReported (report : ℕ)
  | stop
  | stopAndWait
  | resolveStop (waiter : ℕ) (timedOut : Bool)

def step (s : StrategyScheduler config) : Event → StrategyScheduler config
  | .ownership held => { s with ownershipHeld := held }
  | .setStartupPreflight preflight =>
    { s with startupPreflight := preflight, startupBlockReported := false }
  | .start now => s.start now
  | .runMarketNow market now => (s.runMarketNow (.direct market) now).1
  | .advance run answer now => s.advance run answer now
  | .react run now heldAtReport => s.react run now heldAtReport
  | .timerFired id => s.timerFired id
  | .advanceTick tick answer now => s.advanceTick tick answer now
  | .advanceLoop answer now => s.advanceLoop answer now
  | .reportStartupBlockIfNeeded => s.reportStartupBlockIfNeeded
  | .startupBlockReported report =>
    { s with inFlightStartupBlockReports := s.inFlightStartupBlockReports.filter (· ≠ report) }
  | .stop => s.stop
  | .stopAndWait => s.stopAndWait
  | .resolveStop waiter timedOut => s.resolveStop waiter timedOut

/-! ### Who holds the running flag -/

def AfterSave.beforeRun : AfterSave → Bool
  | .report _ => false
  | .requestRun _ _ => true

/-- The run is between its running check and the application of its result. -/
def RunPhase.holdsFlag : RunPhase → Bool
  | .resolvingOwner _ => true
  | .refreshing _ => true
  | .preflighting _ => true
  | .saving _ _ next => next.beforeRun
  | .awaitingSave next => next.beforeRun
  | .saved _ next => next.beforeRun
  | .awaitingController _ _ => true
  | .rejected _ => true
  | _ => false

/-- The run holds the flag of the market. -/
def Run.holds (market : SupportedMarket) (run : Run config) : Bool :=
  decide (run.market = market) && run.phase.holdsFlag

namespace StrategyScheduler

def holders (s : StrategyScheduler config) (market : SupportedMarket) : ℕ :=
  s.runs.countP (Run.holds market)

def flag (s : StrategyScheduler config) (market : SupportedMarket) : Flag :=
  ⟨(s.status market).running, s.holders market⟩

end StrategyScheduler

/-! ### A small configuration -/

/-- One market, and none of the optional dependencies. -/
def plainConfig : StrategySchedulerConfig where
  enabled := true
  runOnStart := false
  exchangeAccountId := "primary"
  liveSendPath := .dryRunAdapter
  markets := [⟨.krwBtc, 3600000⟩]
  repositories := false
  reporter := false
  beforeRunAccountRefresh := false
  beforeRunPreflight := false

/-- A run of the market that is waiting for the controller. -/
def runUntilController : List Event :=
  [.runMarketNow .krwBtc 0, .advance 0 (.owner (.ok .scheduler)) 0, .advance 0 .go 0,
    .advance 0 .go 0]

def holdResult : StrategyRunResult where
  status := .completed
  requestedAt := 0
  market := some .krwBtc
  strategyDecisionId := none
  action := some .hold
  orderId := none
  orderStatus := none
  submissionAccepted := none
  submissionOutcome := none
  detail := "Decision HOLD persisted; no order submission was requested."

end AutoTrade.Scheduler.Machine
