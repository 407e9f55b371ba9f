import AutoTrade.Runtime.OwnershipAgreement

/-! # The ownership guard over a store

`RuntimeOwnershipGuard` with all its methods, the renewals of `RuntimeHeartbeat`, and any number of
guards over one ownership store. A step is what a method does up to its next await: an acquisition,
an assertion or a renewal starts with its call of the store, which runs at once, and goes on with the
answer in a later step. The loss listeners and the callback run at the end of what the guard does, so
what they call are later steps. -/

namespace AutoTrade.Runtime.GuardProtocol

open Lib.Run Lib.Result Domain.Types
open Runtime.OwnershipGuard (OwnershipStatus)
open Runtime.OwnershipStore Runtime.OwnershipAgreement
open Runtime.SqliteOwnershipStore (OwnershipTables selectCurrent)
open Strategy.CandidateState (maxSafeInteger)

/-! ### The store -/

/-- One of the two implementations; the SQLite store acts for its scope. -/
inductive Store
  | inMemory (store : StoredOwnership)
  | sqlite (scopeKey : String) (db : OwnershipTables)

/-- A call that someone makes on the store. The tables of SQLite are shared, so it may be made for
another scope. -/
def Store.run (store : Store) (scopeKey : String) (call : StoreCall) : StoreAnswer × Store :=
  match store with
  | .inMemory stored =>
    let (answer, next) := runInMemory stored call
    (answer, .inMemory next)
  | .sqlite own db =>
    let (answer, next) := runSqlite scopeKey db call
    (answer, .sqlite own next)

def Store.acquireAfterProcessLock (store : Store) (input : AcquireRuntimeOwnershipInput) :
    Except String RuntimeOwnershipAcquisition × Store :=
  match store with
  | .inMemory stored =>
    let (answer, next) := OwnershipStore.acquireAfterProcessLock stored input
    (answer, .inMemory next)
  | .sqlite own db =>
    let (answer, next) := SqliteOwnershipStore.acquireAfterProcessLock own db input
    (answer, .sqlite own next)

def Store.renew (store : Store) (input : RenewRuntimeOwnershipInput) :
    Except String (Option RuntimeOwnershipRecord) × Store :=
  match store with
  | .inMemory stored =>
    let (answer, next) := OwnershipStore.renew stored input
    (answer, .inMemory next)
  | .sqlite own db =>
    let (answer, next) := SqliteOwnershipStore.renew own db input
    (answer, .sqlite own next)

def Store.getCurrent : Store → Except String (Option RuntimeOwnershipRecord)
  | .inMemory stored => OwnershipStore.getCurrent stored
  | .sqlite own db => selectCurrent own db

/-- The columns of `execution_state` that the combined read joins. -/
structure PersistedExecutionState where
  exchangeAccountId : String
  executionMode : ExecutionMode
  liveExecutionGate : LiveExecutionGate
  systemStatus : SystemStatus
  killSwitchActive : Bool

structure PersistedRuntimeExecutionAuthority where
  runtimeOwnership : RuntimeOwnershipRecord
  executionState : Option PersistedExecutionState

/-- `getCurrentExecutionAuthority`. The in-memory store has no execution state; the one of the row
that SQLite joins is given, or the error of an invalid kill switch. -/
def Store.getCurrentExecutionAuthority (store : Store)
    (joined : Except String (Option PersistedExecutionState)) :
    Except String (Option PersistedRuntimeExecutionAuthority) :=
  match store with
  | .inMemory stored => do
    validateCurrent stored
    .ok (stored.current.map fun record => ⟨record, none⟩)
  | .sqlite own db => do
    match ← selectCurrent own db with
    | none => .ok none
    | some record => do
      let executionState ← joined
      .ok (some ⟨record, executionState⟩)

/-! ### The guard -/

/-- `RUNTIME_OWNERSHIP_TTL_MS`. -/
def runtimeOwnershipTtlMs : ℤ := 45000

/-- The fields of the guard, and whether its process lock is held. -/
structure Guard where
  ownerToken : String
  lockHeld : Bool
  status : OwnershipStatus
  acquisitionReserved : Bool
  record : Option RuntimeOwnershipRecord
  takeover : Bool

namespace Guard

variable (guard : Guard)

/-- The constructor. -/
def create (ownerToken : String) (lockHeld : Bool) : Guard :=
  ⟨ownerToken, lockHeld, if lockHeld then .unowned else .lost "PROCESS_LOCK_LOST", false, none, false⟩

def isLost : Bool := guard.status.lossReason.isSome

def markLost (reason : String) : Guard :=
  { guard with status := OwnershipGuard.markLost guard.status reason }

/-- `throwLost`. -/
def lostMessage : String :=
  "RUNTIME_OWNERSHIP_LOST: " ++ guard.status.lossReason.getD "UNKNOWN"

def notHeldMessage : String :=
  "RUNTIME_OWNERSHIP_NOT_HELD: Runtime ownership has not been acquired."

/-- `this.markLost(reason); this.throwLost()`. -/
def loseAndThrow {α : Type} (reason : String) : Except String α × Guard :=
  (.error (guard.markLost reason).lostMessage, guard.markLost reason)

/-- `validateEpochMs` of the guard. -/
def validateAssertionTime (value : ℤ) : Except String Unit :=
  throwIf (maxSafeInteger < value ∨ value < 0)
    "Runtime ownership assertion time must be a non-negative safe integer."

def sameOwnership (expected persisted : RuntimeOwnershipRecord) : Bool :=
  persisted.ownerToken = expected.ownerToken ∧ persisted.generation = expected.generation ∧
    persisted.executionMode = expected.executionMode ∧
    persisted.acquiredAtEpochMs = expected.acquiredAtEpochMs

/-- `assertLocallyHeld` with the time of the clock: the record that is held. -/
def assertLocallyHeld (nowEpochMs : ℤ) : Except String RuntimeOwnershipRecord × Guard :=
  if guard.isLost then (.error guard.lostMessage, guard)
  else if guard.lockHeld = false then guard.loseAndThrow "PROCESS_LOCK_LOST"
  else
    match guard.status, guard.record with
    | .owned, some record =>
      match validateAssertionTime nowEpochMs with
      | .error e => (.error e, guard)
      | .ok () =>
        if record.expiresAtEpochMs ≤ nowEpochMs then guard.loseAndThrow "OWNERSHIP_EXPIRED"
        else (.ok record, guard)
    | _, _ => (.error notHeldMessage, guard)

/-! #### Acquisition -/

/-- `acquire` up to its call of the store. -/
def reserve : Except String Unit × Guard :=
  if guard.status ≠ .unowned ∨ guard.acquisitionReserved then
    (.error
      "RUNTIME_OWNERSHIP_REACQUISITION_FORBIDDEN: A runtime ownership guard can acquire only once.",
      guard)
  else
    let reserved := { guard with acquisitionReserved := true }
    if guard.lockHeld = false then reserved.loseAndThrow "PROCESS_LOCK_LOST" else (.ok (), reserved)

def acquisitionInput (executionMode : ExecutionMode) (acquiredAtEpochMs : ℤ) :
    AcquireRuntimeOwnershipInput :=
  ⟨guard.ownerToken, executionMode, acquiredAtEpochMs, acquiredAtEpochMs + runtimeOwnershipTtlMs⟩

/-- `acquire` from the answer of the store on. -/
def completeAcquisition (answer : Except String RuntimeOwnershipAcquisition) :
    Except String RuntimeOwnershipRecord × Guard :=
  match answer with
  | .error e => (.error e, guard)
  | .ok acquisition =>
    let stored := { guard with record := some acquisition.record, takeover := acquisition.takeover }
    if stored.isLost ∨ stored.lockHeld = false then stored.loseAndThrow "PROCESS_LOCK_LOST"
    else (.ok acquisition.record, { stored with status := .owned })

/-! #### Assertions -/

/-- What the assertions check of the persisted record. -/
def confirm (expected : RuntimeOwnershipRecord) (persisted : Option RuntimeOwnershipRecord)
    (atEpochMs : ℤ) : Except String RuntimeOwnershipRecord × Guard :=
  match persisted with
  | none => guard.loseAndThrow "PERSISTED_OWNERSHIP_MISMATCH"
  | some persisted =>
    if sameOwnership expected persisted = false then
      guard.loseAndThrow "PERSISTED_OWNERSHIP_MISMATCH"
    else if persisted.expiresAtEpochMs ≤ atEpochMs then guard.loseAndThrow "OWNERSHIP_EXPIRED"
    else (.ok persisted, guard)

/-- `assertCurrent` up to its call of the store: the record it expects. -/
def beginAssertCurrent (atEpochMs nowEpochMs : ℤ) : Except String RuntimeOwnershipRecord × Guard :=
  match validateAssertionTime atEpochMs with
  | .error e => (.error e, guard)
  | .ok () => guard.assertLocallyHeld nowEpochMs

/-- `assertCurrent` from the answer of the store on. -/
def completeAssertCurrent (expected : RuntimeOwnershipRecord)
    (answer : Except String (Option RuntimeOwnershipRecord)) (atEpochMs nowEpochMs : ℤ) :
    Except String RuntimeOwnershipRecord × Guard :=
  match answer with
  | .error e => (.error e, guard)
  | .ok persisted =>
    match guard.assertLocallyHeld nowEpochMs with
    | (.error e, next) => (.error e, next)
    | (.ok _, next) =>
      match next.confirm expected persisted atEpochMs with
      | (.error e, last) => (.error e, last)
      | (.ok confirmed, last) => (.ok confirmed, { last with record := some confirmed })

/-! #### The fence -/

structure AssertCurrentExecutionAuthorityInput where
  atEpochMs : ℤ
  exchangeAccountId : String
  expectedExecutionMode : ExecutionMode
  expectedLiveExecutionGate : LiveExecutionGate

def isExecutionAllowed (state : PersistedExecutionState)
    (expected : AssertCurrentExecutionAuthorityInput) : Bool :=
  state.exchangeAccountId = expected.exchangeAccountId ∧ state.systemStatus = .running ∧
    state.killSwitchActive = false ∧ state.executionMode = expected.expectedExecutionMode ∧
    state.liveExecutionGate = expected.expectedLiveExecutionGate

/-- `runWithCurrentExecutionAuthority`: the authority under which the callback is invoked. The clock
is read before and after the combined read. -/
def runWithCurrentExecutionAuthority (input : AssertCurrentExecutionAuthorityInput)
    (read : Except String (Option PersistedRuntimeExecutionAuthority)) (nowEpochMs laterEpochMs : ℤ) :
    Except String (RuntimeOwnershipRecord × PersistedExecutionState) × Guard :=
  match validateAssertionTime input.atEpochMs with
  | .error e => (.error e, guard)
  | .ok () =>
    if input.exchangeAccountId = "" then
      (.error "Final runtime execution authority requires an exchange account id.", guard)
    else
      match guard.assertLocallyHeld nowEpochMs with
      | (.error e, next) => (.error e, next)
      | (.ok expected, next) =>
        match read with
        | .error e => (.error e, next)
        | .ok persisted =>
          match next.assertLocallyHeld laterEpochMs with
          | (.error e, next) => (.error e, next)
          | (.ok _, next) =>
            match next.confirm expected (persisted.map (·.runtimeOwnership)) input.atEpochMs with
            | (.error e, last) => (.error e, last)
            | (.ok confirmed, last) =>
              match (persisted.bind (·.executionState)).filter (isExecutionAllowed · input) with
              | none => (.error "final pre-send authority is blocked", last)
              | some state => (.ok (confirmed, state), { last with record := some confirmed })

/-! #### Renewal -/

def acceptRenewal (record : RuntimeOwnershipRecord) : Except String Unit × Guard :=
  if guard.status ≠ .owned then (.ok (), guard)
  else
    match guard.record with
    | none => (.error notHeldMessage, guard)
    | some expected =>
      if sameOwnership expected record = false then
        guard.loseAndThrow "PERSISTED_OWNERSHIP_MISMATCH"
      else (.ok (), { guard with record := some record })

/-- `lose` of the heartbeat. -/
def lose (reason : String) : Guard := if guard.isLost then guard else guard.markLost reason

/-- The `catch` of `attemptRenewal`. -/
def failRenewal (expiresAtEpochMs retryAtEpochMs : ℤ) (isTransient : Bool) : Guard :=
  if guard.status ≠ .owned then guard
  else if expiresAtEpochMs ≤ retryAtEpochMs then guard.lose "HEARTBEAT_EXPIRED"
  else if isTransient = false then guard.lose "HEARTBEAT_RENEWAL_FAILED"
  else guard

/-- `attemptRenewal` up to its call of the store: the lease it renews, if it goes on. -/
def beginRenewal (attemptedAtEpochMs nowEpochMs retryAtEpochMs : ℤ) (isTransient : Bool) :
    Option RuntimeOwnershipRecord × Guard :=
  match guard.status, guard.record with
  | .owned, some lease =>
    if lease.expiresAtEpochMs ≤ attemptedAtEpochMs then (none, guard.lose "HEARTBEAT_EXPIRED")
    else
      match guard.assertLocallyHeld nowEpochMs with
      | (.error _, next) =>
        (none, next.failRenewal lease.expiresAtEpochMs retryAtEpochMs isTransient)
      | (.ok _, next) => (some lease, next)
  | _, _ => (none, guard)

/-- `attemptRenewal` from the answer of the store on. -/
def completeRenewal (expiresAtEpochMs : ℤ) (answer : Except String (Option RuntimeOwnershipRecord))
    (nowEpochMs retryAtEpochMs : ℤ) (isTransient : Bool) : Guard :=
  match answer with
  | .error _ => guard.failRenewal expiresAtEpochMs retryAtEpochMs isTransient
  | .ok renewed =>
    if guard.status ≠ .owned then guard
    else
      match renewed with
      | none => guard.lose "HEARTBEAT_RENEWAL_MISMATCH"
      | some renewed =>
        if expiresAtEpochMs ≤ nowEpochMs then guard.lose "HEARTBEAT_EXPIRED"
        else
          match guard.acceptRenewal renewed with
          | (.error _, next) => next.failRenewal expiresAtEpochMs retryAtEpochMs isTransient
          | (.ok (), next) => next

end Guard

/-! ### Guards next to each other -/

/-- A method that awaits the answer of the store. -/
inductive Pending
  | acquisition (answer : Except String RuntimeOwnershipAcquisition)
  | assertion (expected : RuntimeOwnershipRecord) (atEpochMs : ℤ)
    (answer : Except String (Option RuntimeOwnershipRecord))
  | renewal (expiresAtEpochMs : ℤ) (answer : Except String (Option RuntimeOwnershipRecord))

/-- A guard with the methods that are under way. -/
structure Party where
  guard : Guard
  pending : List Pending
  /-- The generation of its acquisition, once that completed in the store. -/
  acquired : Option ℤ

/-- What happens at one guard. -/
inductive Action
  | acquire (executionMode : ExecutionMode) (acquiredAtEpochMs : ℤ)
  | assertLocallyHeld (nowEpochMs : ℤ)
  | assertCurrent (atEpochMs nowEpochMs : ℤ)
  | runWithCurrentExecutionAuthority (input : Guard.AssertCurrentExecutionAuthorityInput)
    (joined : Except String (Option PersistedExecutionState)) (nowEpochMs laterEpochMs : ℤ)
  | acceptRenewal (record : RuntimeOwnershipRecord)
  /-- A heartbeat starts a renewal with its owner token. -/
  | attemptRenewal (ownerToken : String) (attemptedAtEpochMs nowEpochMs retryAtEpochMs : ℤ)
    (isTransient : Bool)
  /-- The answer of the store arrives at one of the methods under way. -/
  | resume (index : ℕ) (nowEpochMs retryAtEpochMs : ℤ) (isTransient : Bool)
  | markLost (reason : String)
  /-- The process lock is lost, released or held. -/
  | processLock (held : Bool)

/-- What a caller of the guard gets to see of a step. -/
inductive Outcome
  | callbackInvoked
  | assertCurrentReturned
  | assertLocallyHeldReturned
  deriving DecidableEq

/-- The outcome of a method that returns or throws. -/
def returned {ε α : Type} (result : Except ε α) (outcome : Outcome) : Option Outcome :=
  match result with
  | .ok _ => some outcome
  | .error _ => none

/-- The answer of the store arrives. -/
def Party.complete (party : Party) (pending : Pending) (nowEpochMs retryAtEpochMs : ℤ)
    (isTransient : Bool) : Guard × Option Outcome :=
  match pending with
  | .acquisition answer => ((party.guard.completeAcquisition answer).2, none)
  | .assertion expected atEpochMs answer =>
    let (result, guard) := party.guard.completeAssertCurrent expected answer atEpochMs nowEpochMs
    (guard, returned result .assertCurrentReturned)
  | .renewal expiresAtEpochMs answer =>
    (party.guard.completeRenewal expiresAtEpochMs answer nowEpochMs retryAtEpochMs isTransient, none)

/-- A step of a guard on the store. -/
def Party.act (party : Party) (store : Store) : Action → Party × Store × Option Outcome
  | .acquire executionMode acquiredAtEpochMs =>
    match party.guard.reserve with
    | (.error _, guard) => ({ party with guard }, store, none)
    | (.ok (), guard) =>
      let (answer, next) :=
        store.acquireAfterProcessLock (guard.acquisitionInput executionMode acquiredAtEpochMs)
      (⟨guard, party.pending ++ [.acquisition answer],
        answer.toOption.map (·.record.generation)⟩, next, none)
  | .assertLocallyHeld nowEpochMs =>
    let (result, guard) := party.guard.assertLocallyHeld nowEpochMs
    ({ party with guard }, store, returned result .assertLocallyHeldReturned)
  | .assertCurrent atEpochMs nowEpochMs =>
    match party.guard.beginAssertCurrent atEpochMs nowEpochMs with
    | (.error _, guard) => ({ party with guard }, store, none)
    | (.ok expected, guard) =>
      ({ party with
        guard, pending := party.pending ++ [.assertion expected atEpochMs store.getCurrent] },
        store, none)
  | .runWithCurrentExecutionAuthority input joined nowEpochMs laterEpochMs =>
    let (result, guard) := party.guard.runWithCurrentExecutionAuthority input
      (store.getCurrentExecutionAuthority joined) nowEpochMs laterEpochMs
    ({ party with guard }, store, returned result .callbackInvoked)
  | .acceptRenewal record => ({ party with guard := (party.guard.acceptRenewal record).2 }, store, none)
  | .attemptRenewal ownerToken attemptedAtEpochMs nowEpochMs retryAtEpochMs isTransient =>
    match party.guard.beginRenewal attemptedAtEpochMs nowEpochMs retryAtEpochMs isTransient with
    | (none, guard) => ({ party with guard }, store, none)
    | (some lease, guard) =>
      let (answer, next) := store.renew ⟨ownerToken, lease.generation, attemptedAtEpochMs,
        attemptedAtEpochMs + runtimeOwnershipTtlMs⟩
      ({ party with
        guard, pending := party.pending ++ [.renewal lease.expiresAtEpochMs answer] }, next, none)
  | .resume index nowEpochMs retryAtEpochMs isTransient =>
    match party.pending[index]? with
    | none => (party, store, none)
    | some pending =>
      let (guard, outcome) := party.complete pending nowEpochMs retryAtEpochMs isTransient
      ({ party with guard, pending := party.pending.eraseIdx index }, store, outcome)
  | .markLost reason => ({ party with guard := party.guard.markLost reason }, store, none)
  | .processLock held => ({ party with guard := { party.guard with lockHeld := held } }, store, none)

/-- The guards over one store. -/
structure System (ι : Type) where
  store : Store
  parties : ι → Party

inductive Event (ι : Type)
  | guard (i : ι) (action : Action)
  /-- Someone else calls the store, for this scope or another one. -/
  | store (scopeKey : String) (call : StoreCall)

variable {ι : Type} [DecidableEq ι]

/-- New guards over a store. -/
def System.initial (store : Store) (ownerToken : ι → String) (lockHeld : ι → Bool) : System ι :=
  ⟨store, fun i => ⟨.create (ownerToken i) (lockHeld i), [], none⟩⟩

def System.step (system : System ι) : Event ι → System ι
  | .guard i action =>
    let (party, store, _) := (system.parties i).act system.store action
    ⟨store, Function.update system.parties i party⟩
  | .store scopeKey call => { system with store := (system.store.run scopeKey call).2 }

/-- What a step of the guard `i` lets its caller see. -/
def System.outcome (system : System ι) (i : ι) (action : Action) : Option Outcome :=
  ((system.parties i).act system.store action).2.2

end AutoTrade.Runtime.GuardProtocol
