import AutoTrade.Runtime.GuardProtocol

/-! # The heartbeat of one guard

`RuntimeHeartbeat` with its timer, and the guard it renews. Any number of `assertCurrent` calls may
be under way; a renewal is split at its call of the store. A call of the store runs at once, or
throws the error that the step names, and its answer arrives in a later step. The row of the store
is written by the heartbeat alone.

A loss of the guard clears the timer. A timer that fires on a lost guard does nothing, so the timer
is left set there. -/

namespace AutoTrade.Runtime.Heartbeat

open Domain.Types
open Runtime.OwnershipStore Runtime.GuardProtocol

/-- An `assertCurrent` that awaits the row it reads. -/
structure Assertion where
  expected : RuntimeOwnershipRecord
  atEpochMs : ℤ
  answer : Except String (Option RuntimeOwnershipRecord)

/-- An `attemptRenewal` that awaits its renewal: the expiry of the lease it started with. -/
structure Attempt where
  expiresAtEpochMs : ℤ
  answer : Except String (Option RuntimeOwnershipRecord)

/-- The guard, its heartbeat and the store. -/
structure Process where
  store : Store
  guard : Guard
  assertions : List Assertion
  ownerToken : String
  started : Bool
  stopped : Bool
  timerSet : Bool
  inFlight : Option Attempt
  /-- The expiry of the last renewal that the guard accepted, at first that of its acquisition. -/
  accepted : ℤ

inductive Event
  | assertLocallyHeld (nowEpochMs : ℤ)
  | assertCurrent (atEpochMs nowEpochMs : ℤ) (fault : Option String)
  /-- The row arrives at one of the assertions under way. -/
  | resumeAssertion (index : ℕ) (nowEpochMs : ℤ)
  | runWithCurrentExecutionAuthority (input : Guard.AssertCurrentExecutionAuthorityInput)
    (joined : Except String (Option PersistedExecutionState)) (nowEpochMs laterEpochMs : ℤ)
  | start
  | stop
  | timerFires (attemptedAtEpochMs nowEpochMs retryAtEpochMs : ℤ) (isTransient : Bool)
    (fault : Option String)
  /-- The renewal arrives at the attempt under way. -/
  | resumeAttempt (nowEpochMs retryAtEpochMs : ℤ) (isTransient : Bool)
  | markLost (reason : String)
  | processLock (held : Bool)

/-- A call of the store that may throw before it does anything. -/
def faulty {α : Type} (fault : Option String) (store : Store) (call : Except String α × Store) :
    Except String α × Store :=
  match fault with
  | some e => (.error e, store)
  | none => call

namespace Process

variable (process : Process)

/-- A guard that was just created and acquires over a store. -/
def acquire (before : Store) (guardToken ownerToken : String) (executionMode : ExecutionMode)
    (acquiredAtEpochMs : ℤ) (lockHeld : Bool) : Process :=
  let reserved := (Guard.create guardToken true).reserve.2
  let (answer, store) :=
    before.acquireAfterProcessLock (reserved.acquisitionInput executionMode acquiredAtEpochMs)
  let guard := ({ reserved with lockHeld := lockHeld }.completeAcquisition answer).2
  { store := store
    guard := guard
    assertions := []
    ownerToken := ownerToken
    started := false
    stopped := false
    timerSet := false
    inFlight := none
    accepted := (guard.record.map (·.expiresAtEpochMs)).getD 0 }

def schedule : Process :=
  if process.stopped ∨ process.guard.status ≠ .owned then process
  else { process with timerSet := true }

/-- `start`; the guard that is not owned throws. -/
def start : Process :=
  if process.stopped ∨ process.started ∨ process.guard.status ≠ .owned then process
  else { process with started := true }.schedule

def stop : Process := { process with started := false, stopped := true, timerSet := false }

/-- `runScheduledAttempt` up to its call of the store. Every way out of an attempt that leaves the
guard owned schedules the next one, except that an attempt without a lease ends at once. -/
def runScheduledAttempt (attemptedAtEpochMs nowEpochMs retryAtEpochMs : ℤ) (isTransient : Bool)
    (fault : Option String) : Process :=
  let fired := { process with timerSet := false }
  if fired.stopped ∨ fired.guard.status ≠ .owned ∨ fired.guard.record = none then fired
  else
    match fired.guard.beginRenewal attemptedAtEpochMs nowEpochMs retryAtEpochMs isTransient with
    | (none, guard) => { fired with guard := guard }.schedule
    | (some lease, guard) =>
      let (answer, store) := faulty fault fired.store (fired.store.renew
        ⟨fired.ownerToken, lease.generation, attemptedAtEpochMs,
          attemptedAtEpochMs + runtimeOwnershipTtlMs⟩)
      { fired with
        guard := guard
        store := store
        inFlight := some ⟨lease.expiresAtEpochMs, answer⟩ }

/-- `attemptRenewal` from the answer of the store on. A renewal that arrives and that the guard then
holds was accepted. -/
def completeAttempt (attempt : Attempt) (nowEpochMs retryAtEpochMs : ℤ) (isTransient : Bool) :
    Process :=
  let guard := process.guard.completeRenewal attempt.expiresAtEpochMs attempt.answer nowEpochMs
    retryAtEpochMs isTransient
  let accepted :=
    match attempt.answer with
    | .ok (some renewed) =>
      if guard.status = .owned ∧ guard.record = some renewed then renewed.expiresAtEpochMs
      else process.accepted
    | _ => process.accepted
  { process with guard := guard, inFlight := none, accepted := accepted }.schedule

def step : Event → Process
  | .assertLocallyHeld nowEpochMs =>
    { process with guard := (process.guard.assertLocallyHeld nowEpochMs).2 }
  | .assertCurrent atEpochMs nowEpochMs fault =>
    match process.guard.beginAssertCurrent atEpochMs nowEpochMs with
    | (.error _, guard) => { process with guard := guard }
    | (.ok expected, guard) =>
      { process with
        guard := guard
        assertions := process.assertions ++ [⟨expected, atEpochMs,
          (faulty fault process.store (process.store.getCurrent, process.store)).1⟩] }
  | .resumeAssertion index nowEpochMs =>
    match process.assertions[index]? with
    | none => process
    | some assertion =>
      { process with
        guard := (process.guard.completeAssertCurrent assertion.expected assertion.answer
          assertion.atEpochMs nowEpochMs).2
        assertions := process.assertions.eraseIdx index }
  | .runWithCurrentExecutionAuthority input joined nowEpochMs laterEpochMs =>
    { process with
      guard := (process.guard.runWithCurrentExecutionAuthority input
        (process.store.getCurrentExecutionAuthority joined) nowEpochMs laterEpochMs).2 }
  | .start => process.start
  | .stop => process.stop
  | .timerFires attemptedAtEpochMs nowEpochMs retryAtEpochMs isTransient fault =>
    if process.timerSet = false then process
    else process.runScheduledAttempt attemptedAtEpochMs nowEpochMs retryAtEpochMs isTransient fault
  | .resumeAttempt nowEpochMs retryAtEpochMs isTransient =>
    match process.inFlight with
    | none => process
    | some attempt => process.completeAttempt attempt nowEpochMs retryAtEpochMs isTransient
  | .markLost reason => { process with guard := process.guard.markLost reason }
  | .processLock held => { process with guard := { process.guard with lockHeld := held } }

/-- The times that a step compares with an expiry. -/
def times : Event → List ℤ
  | .assertLocallyHeld nowEpochMs => [nowEpochMs]
  | .assertCurrent _ nowEpochMs _ => [nowEpochMs]
  | .resumeAssertion index nowEpochMs =>
    nowEpochMs :: (process.assertions[index]?.map (·.atEpochMs)).toList
  | .runWithCurrentExecutionAuthority input _ nowEpochMs laterEpochMs =>
    [nowEpochMs, laterEpochMs, input.atEpochMs]
  | .timerFires attemptedAtEpochMs nowEpochMs retryAtEpochMs _ _ =>
    [attemptedAtEpochMs, nowEpochMs, retryAtEpochMs]
  | .resumeAttempt nowEpochMs retryAtEpochMs _ => [nowEpochMs, retryAtEpochMs]
  | _ => []

end Process

end AutoTrade.Runtime.Heartbeat
