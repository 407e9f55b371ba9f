import AutoTrade.Runtime.OwnershipGuard
import AutoTrade.Strategy.CandidateState

/-! # The in-memory store of runtime ownership

`InMemoryRuntimeOwnershipStore` with the validation of `runtime-ownership-interfaces.ts`. An
acquisition takes the next generation after all generations of the current record and of the events,
so a generation is not used again after a release. Numbers that are no integers are rejected by every
check that reads them and are left out; that a value has exactly the documented keys holds by type. -/

namespace AutoTrade.Runtime.OwnershipStore

open Lib.Result Domain.Types Runtime.OwnershipGuard
open Strategy.CandidateState (maxSafeInteger)

/-! ### Records -/

/-- What happened to the ownership. -/
inductive RuntimeOwnershipEventType
  | acquired
  | takenOver
  | released
  | lost
  deriving DecidableEq

/-- Who owns the runtime, in which generation, until when. -/
structure RuntimeOwnershipRecord where
  ownerToken : String
  generation : ℤ
  executionMode : ExecutionMode
  acquiredAtEpochMs : ℤ
  heartbeatAtEpochMs : ℤ
  expiresAtEpochMs : ℤ
  deriving DecidableEq

/-- An entry of the log of events. -/
structure RuntimeOwnershipEventRecord where
  id : ℤ
  generation : ℤ
  eventType : RuntimeOwnershipEventType
  executionMode : ExecutionMode
  reasonCode : String
  eventAtEpochMs : ℤ

/-- The record, and whether another one was replaced. -/
structure RuntimeOwnershipAcquisition where
  record : RuntimeOwnershipRecord
  takeover : Bool

/-- The inputs of the four calls. -/
structure AcquireRuntimeOwnershipInput where
  ownerToken : String
  executionMode : ExecutionMode
  acquiredAtEpochMs : ℤ
  expiresAtEpochMs : ℤ

structure RenewRuntimeOwnershipInput where
  ownerToken : String
  generation : ℤ
  heartbeatAtEpochMs : ℤ
  expiresAtEpochMs : ℤ

structure ReleaseRuntimeOwnershipInput where
  ownerToken : String
  generation : ℤ
  releasedAtEpochMs : ℤ

structure RecordRuntimeOwnershipLostInput where
  ownerToken : String
  generation : ℤ
  lostAtEpochMs : ℤ
  reasonCode : String

/-! ### Validation -/

/-- `/^[A-Za-z0-9_-]{64}$/u`. -/
def isOwnerToken (token : String) : Bool :=
  token.toList.length = 64 ∧ token.toList.all fun c => c.isAlphanum || c = '_' || c = '-'

/-- The checks of single values, each with its message. -/
def validateOwnerToken (ownerToken : String) : Except String Unit :=
  throwIf (isOwnerToken ownerToken = false)
    "Runtime ownership owner token must be exactly 64 token-safe characters."

def validateReasonCode (reasonCode : String) : Except String Unit :=
  throwIf (isReasonCode reasonCode = false)
    "Runtime ownership reason code must be 1-64 uppercase code characters."

def validateEpochMs (value : ℤ) (label : String) : Except String Unit :=
  throwIf (maxSafeInteger < value ∨ value < 0)
    ("Runtime ownership " ++ label ++ " must be a non-negative safe integer.")

def validatePositiveSafeInteger (value : ℤ) (label : String) : Except String Unit :=
  throwIf (maxSafeInteger < value ∨ value < 1) (label ++ " must be a positive safe integer.")

def validateGeneration (generation : ℤ) : Except String Unit :=
  validatePositiveSafeInteger generation "Runtime ownership generation"

/-- The checks of the inputs, in the order of the source. -/
def validateAcquireRuntimeOwnershipInput (input : AcquireRuntimeOwnershipInput) :
    Except String Unit := do
  validateOwnerToken input.ownerToken
  validateEpochMs input.acquiredAtEpochMs "acquiredAtEpochMs"
  validateEpochMs input.expiresAtEpochMs "expiresAtEpochMs"
  throwIf (input.expiresAtEpochMs ≤ input.acquiredAtEpochMs)
    "Runtime ownership expiry must be after acquisition time."

def validateRenewRuntimeOwnershipInput (input : RenewRuntimeOwnershipInput) :
    Except String Unit := do
  validateOwnerToken input.ownerToken
  validateGeneration input.generation
  validateEpochMs input.heartbeatAtEpochMs "heartbeatAtEpochMs"
  validateEpochMs input.expiresAtEpochMs "expiresAtEpochMs"
  throwIf (input.expiresAtEpochMs ≤ input.heartbeatAtEpochMs)
    "Runtime ownership expiry must be after heartbeat time."

def validateReleaseRuntimeOwnershipInput (input : ReleaseRuntimeOwnershipInput) :
    Except String Unit := do
  validateOwnerToken input.ownerToken
  validateGeneration input.generation
  validateEpochMs input.releasedAtEpochMs "releasedAtEpochMs"

def validateRecordRuntimeOwnershipLostInput (input : RecordRuntimeOwnershipLostInput) :
    Except String Unit := do
  validateOwnerToken input.ownerToken
  validateGeneration input.generation
  validateEpochMs input.lostAtEpochMs "lostAtEpochMs"
  validateReasonCode input.reasonCode

/-- Times are in order: acquired, heartbeat, expiry. -/
def validateRuntimeOwnershipRecord (record : RuntimeOwnershipRecord) : Except String Unit := do
  validateOwnerToken record.ownerToken
  validateGeneration record.generation
  validateEpochMs record.acquiredAtEpochMs "acquiredAtEpochMs"
  validateEpochMs record.heartbeatAtEpochMs "heartbeatAtEpochMs"
  validateEpochMs record.expiresAtEpochMs "expiresAtEpochMs"
  throwIf (record.heartbeatAtEpochMs < record.acquiredAtEpochMs)
    "Runtime ownership heartbeat timestamp cannot precede acquisition."
  throwIf (record.expiresAtEpochMs ≤ record.heartbeatAtEpochMs)
    "Runtime ownership expiry must be after heartbeat time."

/-- The checks of an event that is appended or read. -/
def validateRuntimeOwnershipEventRecord (event : RuntimeOwnershipEventRecord) :
    Except String Unit := do
  validatePositiveSafeInteger event.id "Runtime ownership event id"
  validateGeneration event.generation
  validateReasonCode event.reasonCode
  validateEpochMs event.eventAtEpochMs "eventAtEpochMs"

/-- No call is older than what is stored. -/
def assertNoTimestampRollback (candidateEpochMs floorEpochMs : ℤ) : Except String Unit :=
  throwIf (candidateEpochMs < floorEpochMs)
    "Runtime ownership timestamp rollback is not permitted."

/-! ### The store -/

/-- The fields of the store. -/
structure StoredOwnership where
  current : Option RuntimeOwnershipRecord
  events : List RuntimeOwnershipEventRecord
  nextEventId : ℤ

/-- The store after its construction. -/
def StoredOwnership.initial : StoredOwnership := ⟨none, [], 1⟩

/-- The greatest `value` of the events from `start` on; every event is validated on the way. -/
def maximumOver (value : RuntimeOwnershipEventRecord → ℤ) (start : ℤ)
    (events : List RuntimeOwnershipEventRecord) : Except String ℤ :=
  events.foldlM (fun maximum event => do
    validateRuntimeOwnershipEventRecord event
    .ok (max maximum (value event))) start

/-- The time of the newest event. -/
def maximumEventTimestamp (store : StoredOwnership) : Except String ℤ :=
  maximumOver RuntimeOwnershipEventRecord.eventAtEpochMs 0 store.events

/-- The most elements an array can have. -/
def maxArrayLength : ℕ := 2 ^ 32 - 1

/-- `appendEvent`: the event without its id. `push` throws on an array that is full. -/
def appendEvent (store : StoredOwnership) (event : RuntimeOwnershipEventRecord) :
    Except String StoredOwnership := do
  throwIf (maxSafeInteger < store.nextEventId) "Runtime ownership event id overflow."
  let record := { event with id := store.nextEventId }
  validateRuntimeOwnershipEventRecord record
  throwIf (maxArrayLength ≤ store.events.length) "Invalid array length"
  .ok { store with events := store.events ++ [record], nextEventId := store.nextEventId + 1 }

/-! ### Acquisition -/

/-- A stored record is checked when it is read. -/
def validateCurrent (store : StoredOwnership) : Except String Unit :=
  match store.current with
  | none => .ok ()
  | some current => validateRuntimeOwnershipRecord current

/-- The record that an acquisition is about to store. -/
def acquisitionRecord (store : StoredOwnership) (input : AcquireRuntimeOwnershipInput) :
    Except String RuntimeOwnershipRecord := do
  validateAcquireRuntimeOwnershipInput input
  validateCurrent store
  let latestEvent ← maximumEventTimestamp store
  assertNoTimestampRollback input.acquiredAtEpochMs
    (max ((store.current.map (·.heartbeatAtEpochMs)).getD 0) latestEvent)
  let maximumGeneration ← maximumOver RuntimeOwnershipEventRecord.generation
    ((store.current.map (·.generation)).getD 0) store.events
  throwIf (maxSafeInteger ≤ maximumGeneration) "Runtime ownership generation overflow."
  let record : RuntimeOwnershipRecord :=
    { ownerToken := input.ownerToken
      generation := maximumGeneration + 1
      executionMode := input.executionMode
      acquiredAtEpochMs := input.acquiredAtEpochMs
      heartbeatAtEpochMs := input.acquiredAtEpochMs
      expiresAtEpochMs := input.expiresAtEpochMs }
  validateRuntimeOwnershipRecord record
  .ok record

/-- The id is given when it is appended. -/
def acquisitionEvent (record : RuntimeOwnershipRecord) (takeover : Bool) :
    RuntimeOwnershipEventRecord where
  id := 0
  generation := record.generation
  eventType := if takeover then .takenOver else .acquired
  executionMode := record.executionMode
  reasonCode := "PROCESS_LOCK_ACQUIRED"
  eventAtEpochMs := record.acquiredAtEpochMs

/-- `acquireAfterProcessLock`. The record is assigned before the event is appended, so it stays when
the append throws. -/
def acquireAfterProcessLock (store : StoredOwnership) (input : AcquireRuntimeOwnershipInput) :
    Except String RuntimeOwnershipAcquisition × StoredOwnership :=
  match acquisitionRecord store input with
  | .error e => (.error e, store)
  | .ok record =>
    let owned := { store with current := some record }
    match appendEvent owned (acquisitionEvent record store.current.isSome) with
    | .error e => (.error e, owned)
    | .ok next => (.ok ⟨record, store.current.isSome⟩, next)

/-! ### Renewal, release and loss -/

/-- The current record, if the caller holds it: the checks that `renew`, `release` and `recordLost`
share. -/
def heldRecord (store : StoredOwnership) (ownerToken : String) (generation atEpochMs : ℤ) :
    Except String (Option RuntimeOwnershipRecord) :=
  match store.current with
  | none => .ok none
  | some current => do
    validateRuntimeOwnershipRecord current
    if current.ownerToken ≠ ownerToken ∨ current.generation ≠ generation then .ok none
    else do
      let latestEvent ← maximumEventTimestamp store
      assertNoTimestampRollback atEpochMs (max current.heartbeatAtEpochMs latestEvent)
      .ok (some current)

/-- The record a renewal stores for the held one, unless it is refused. -/
def renewedRecord (current : RuntimeOwnershipRecord) (input : RenewRuntimeOwnershipInput) :
    Except String (Option RuntimeOwnershipRecord) :=
  if input.heartbeatAtEpochMs = current.heartbeatAtEpochMs ∨
      current.expiresAtEpochMs ≤ input.heartbeatAtEpochMs ∨
      input.expiresAtEpochMs ≤ current.expiresAtEpochMs then .ok none
  else do
    let renewed := { current with
      heartbeatAtEpochMs := input.heartbeatAtEpochMs
      expiresAtEpochMs := input.expiresAtEpochMs }
    validateRuntimeOwnershipRecord renewed
    .ok (some renewed)

/-- The checks of `renew`. -/
def renewal (store : StoredOwnership) (input : RenewRuntimeOwnershipInput) :
    Except String (Option RuntimeOwnershipRecord) := do
  validateRenewRuntimeOwnershipInput input
  let held ← heldRecord store input.ownerToken input.generation input.heartbeatAtEpochMs
  match held with
  | none => .ok none
  | some current => renewedRecord current input

/-- A refused renewal returns `null`. -/
def renew (store : StoredOwnership) (input : RenewRuntimeOwnershipInput) :
    Except String (Option RuntimeOwnershipRecord) × StoredOwnership :=
  match renewal store input with
  | .error e => (.error e, store)
  | .ok none => (.ok none, store)
  | .ok (some renewed) => (.ok (some renewed), { store with current := some renewed })

/-- The event of a release. -/
def releaseEvent (current : RuntimeOwnershipRecord) (releasedAtEpochMs : ℤ) :
    RuntimeOwnershipEventRecord where
  id := 0
  generation := current.generation
  eventType := .released
  executionMode := current.executionMode
  reasonCode := "CLEAN_RELEASE"
  eventAtEpochMs := releasedAtEpochMs

/-- The event of a loss. -/
def lostEvent (current : RuntimeOwnershipRecord) (input : RecordRuntimeOwnershipLostInput) :
    RuntimeOwnershipEventRecord where
  id := 0
  generation := current.generation
  eventType := .lost
  executionMode := current.executionMode
  reasonCode := input.reasonCode
  eventAtEpochMs := input.lostAtEpochMs

/-- The store after a release, or `none` if it is refused. -/
def released (store : StoredOwnership) (input : ReleaseRuntimeOwnershipInput) :
    Except String (Option StoredOwnership) := do
  validateReleaseRuntimeOwnershipInput input
  let held ← heldRecord store input.ownerToken input.generation input.releasedAtEpochMs
  match held with
  | none => .ok none
  | some current =>
    if current.expiresAtEpochMs ≤ input.releasedAtEpochMs then .ok none
    else do
      let next ← appendEvent store (releaseEvent current input.releasedAtEpochMs)
      .ok (some { next with current := none })

/-- The store after a loss is recorded, or `none` if it is refused. -/
def recordedLost (store : StoredOwnership) (input : RecordRuntimeOwnershipLostInput) :
    Except String (Option StoredOwnership) := do
  validateRecordRuntimeOwnershipLostInput input
  let held ← heldRecord store input.ownerToken input.generation input.lostAtEpochMs
  match held with
  | none => .ok none
  | some current => do
    let next ← appendEvent store (lostEvent current input)
    .ok (some next)

/-- A call that stores a new state or none. -/
def answer (store : StoredOwnership) (result : Except String (Option StoredOwnership)) :
    Except String Bool × StoredOwnership :=
  match result with
  | .error e => (.error e, store)
  | .ok none => (.ok false, store)
  | .ok (some next) => (.ok true, next)

/-- Whether the store gave the record up. -/
def release (store : StoredOwnership) (input : ReleaseRuntimeOwnershipInput) :
    Except String Bool × StoredOwnership := answer store (released store input)

/-- Whether the loss was recorded. -/
def recordLost (store : StoredOwnership) (input : RecordRuntimeOwnershipLostInput) :
    Except String Bool × StoredOwnership := answer store (recordedLost store input)

/-! ### Reads -/

/-- Throws when the record is not valid. -/
def getCurrent (store : StoredOwnership) : Except String (Option RuntimeOwnershipRecord) := do
  validateCurrent store
  .ok store.current

/-- The limit of a read of events. -/
def validateRuntimeOwnershipEventLimit (limit : ℤ) : Except String Unit :=
  validatePositiveSafeInteger limit "Runtime ownership event limit"

/-- An event that is returned to a caller. -/
def validatedEvent (event : RuntimeOwnershipEventRecord) :
    Except String RuntimeOwnershipEventRecord := do
  validateRuntimeOwnershipEventRecord event
  .ok event

/-- `events.slice(-limit).reverse()`, each one validated. -/
def listRecentEvents (store : StoredOwnership) (limit : ℤ) :
    Except String (List RuntimeOwnershipEventRecord) := do
  validateRuntimeOwnershipEventLimit limit
  (store.events.drop (store.events.length - limit.toNat)).reverse.mapM validatedEvent

end AutoTrade.Runtime.OwnershipStore
