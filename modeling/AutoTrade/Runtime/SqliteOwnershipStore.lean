import AutoTrade.Lib.SortBy
import AutoTrade.Lib.Table
import AutoTrade.Runtime.OwnershipStore
import Mathlib.Data.Prod.Lex

/-! # The SQLite store of runtime ownership

`SqliteRuntimeOwnershipStore` over the tables `runtime_ownership` and `runtime_ownership_events`, which
all scopes share. The lease scope has a single value and is left out. The `CHECK` clauses of the tables
refuse what the validation of a record or of an event refuses, an event without an id left included.
The body of a transaction answers with the tables it leaves, or throws and leaves them as they
were. -/

namespace AutoTrade.Runtime.SqliteOwnershipStore

open Lib Lib.Result Lib.SortBy
open Runtime.OwnershipStore
open Strategy.CandidateState (maxSafeInteger)

/-! ### Tables -/

structure OwnershipRow where
  scopeKey : String
  record : RuntimeOwnershipRecord

structure OwnershipEventRow where
  scopeKey : String
  event : RuntimeOwnershipEventRecord

/-- The rows of both tables, and the greatest event id that was ever assigned. -/
structure OwnershipTables where
  ownership : List OwnershipRow
  events : List OwnershipEventRow
  sequence : ℤ

/-- `withImmediateTransaction`. -/
def withImmediateTransaction {α : Type} (db : OwnershipTables)
    (operation : Except String (α × OwnershipTables)) : Except String α × OwnershipTables :=
  match operation with
  | .ok (value, next) => (.ok value, next)
  | .error e => (.error e, db)

section Scope

variable (scopeKey : String)

/-- The events of the scope in the order of their insertion. -/
def scopeEvents (db : OwnershipTables) : List RuntimeOwnershipEventRecord :=
  (db.events.filter fun row => row.scopeKey = scopeKey).map OwnershipEventRow.event

/-- `ORDER BY value DESC, id DESC`. -/
def orderedDescending (value : RuntimeOwnershipEventRecord → ℤ)
    (events : List RuntimeOwnershipEventRecord) : List RuntimeOwnershipEventRecord :=
  (sortBy (fun event => toLex (value event, event.id)) events).reverse

def selectCurrent (db : OwnershipTables) : Except String (Option RuntimeOwnershipRecord) :=
  match Table.select OwnershipRow.scopeKey scopeKey db.ownership with
  | none => .ok none
  | some row => do
    validateRuntimeOwnershipRecord row.record
    .ok (some row.record)

/-- One of the two queries of `selectMaximumEvent`. -/
def selectMaximum (value : RuntimeOwnershipEventRecord → ℤ) (db : OwnershipTables) :
    Except String (Option ℤ) :=
  match (orderedDescending value (scopeEvents scopeKey db)).head? with
  | none => .ok none
  | some event => do
    validateRuntimeOwnershipEventRecord event
    .ok (some (value event))

/-- `appendEvent`: the event without its id. One acquisition per scope and generation is unique. -/
def appendEvent (db : OwnershipTables) (event : RuntimeOwnershipEventRecord) :
    Except String OwnershipTables := do
  let record := { event with id := db.sequence + 1 }
  throwIf ((event.eventType = .acquired ∨ event.eventType = .takenOver) ∧
      ∃ earlier ∈ scopeEvents scopeKey db, (earlier.eventType = .acquired ∨
        earlier.eventType = .takenOver) ∧ earlier.generation = event.generation)
    "UNIQUE constraint failed"
  validateRuntimeOwnershipEventRecord record
  .ok { db with events := db.events ++ [⟨scopeKey, record⟩], sequence := db.sequence + 1 }

/-! ### Calls -/

/-- The record that an acquisition is about to store, and the one before it. -/
def acquisitionRecord (db : OwnershipTables) (input : AcquireRuntimeOwnershipInput) :
    Except String (RuntimeOwnershipRecord × Option RuntimeOwnershipRecord) := do
  validateAcquireRuntimeOwnershipInput input
  let current ← selectCurrent scopeKey db
  let generation ← selectMaximum scopeKey RuntimeOwnershipEventRecord.generation db
  let latestEvent ← selectMaximum scopeKey RuntimeOwnershipEventRecord.eventAtEpochMs db
  assertNoTimestampRollback input.acquiredAtEpochMs
    (max ((current.map (·.heartbeatAtEpochMs)).getD 0) (latestEvent.getD 0))
  let maximumGeneration := max ((current.map (·.generation)).getD 0) (generation.getD 0)
  throwIf (maxSafeInteger ≤ maximumGeneration) "Runtime ownership generation overflow."
  let record : RuntimeOwnershipRecord :=
    { ownerToken := input.ownerToken
      generation := maximumGeneration + 1
      executionMode := input.executionMode
      acquiredAtEpochMs := input.acquiredAtEpochMs
      heartbeatAtEpochMs := input.acquiredAtEpochMs
      expiresAtEpochMs := input.expiresAtEpochMs }
  validateRuntimeOwnershipRecord record
  .ok (record, current)

def acquireAfterProcessLock (db : OwnershipTables) (input : AcquireRuntimeOwnershipInput) :
    Except String RuntimeOwnershipAcquisition × OwnershipTables :=
  withImmediateTransaction db do
    let (record, current) ← acquisitionRecord scopeKey db input
    let stored := { db with
      ownership := Table.upsert OwnershipRow.scopeKey ⟨scopeKey, record⟩ db.ownership }
    let next ← appendEvent scopeKey stored (acquisitionEvent record current.isSome)
    .ok (⟨record, current.isSome⟩, next)

/-- The current record, if the caller holds it: the checks that `renew`, `release` and `recordLost`
share. -/
def heldRecord (db : OwnershipTables) (ownerToken : String) (generation atEpochMs : ℤ) :
    Except String (Option RuntimeOwnershipRecord) := do
  let current ← selectCurrent scopeKey db
  match current with
  | none => .ok none
  | some current =>
    if current.ownerToken ≠ ownerToken ∨ current.generation ≠ generation then .ok none
    else do
      let _ ← selectMaximum scopeKey RuntimeOwnershipEventRecord.generation db
      let latestEvent ← selectMaximum scopeKey RuntimeOwnershipEventRecord.eventAtEpochMs db
      assertNoTimestampRollback atEpochMs (max current.heartbeatAtEpochMs (latestEvent.getD 0))
      .ok (some current)

/-- The guarded update of `renew` and the row it leaves. -/
def updateRenewed (db : OwnershipTables) (current : RuntimeOwnershipRecord)
    (input : RenewRuntimeOwnershipInput) :
    Except String (Option RuntimeOwnershipRecord × OwnershipTables) := do
  let hits (row : OwnershipRow) : Bool :=
    row.scopeKey = scopeKey ∧ row.record.ownerToken = input.ownerToken ∧
      row.record.generation = input.generation ∧
      row.record.heartbeatAtEpochMs = current.heartbeatAtEpochMs ∧
      row.record.expiresAtEpochMs = current.expiresAtEpochMs
  throwIf ((db.ownership.filter hits).length ≠ 1)
    "Runtime ownership renewal compare-and-set changed unexpectedly."
  let next := { db with
    ownership := Table.update hits (fun row => { row with
      record := { row.record with
        heartbeatAtEpochMs := input.heartbeatAtEpochMs
        expiresAtEpochMs := input.expiresAtEpochMs } }) db.ownership }
  let renewed ← selectCurrent scopeKey next
  .ok (renewed, next)

def renew (db : OwnershipTables) (input : RenewRuntimeOwnershipInput) :
    Except String (Option RuntimeOwnershipRecord) × OwnershipTables :=
  withImmediateTransaction db do
    validateRenewRuntimeOwnershipInput input
    let held ← heldRecord scopeKey db input.ownerToken input.generation input.heartbeatAtEpochMs
    match held with
    | none => .ok (none, db)
    | some current =>
      if input.heartbeatAtEpochMs = current.heartbeatAtEpochMs ∨
          current.expiresAtEpochMs ≤ input.heartbeatAtEpochMs ∨
          input.expiresAtEpochMs ≤ current.expiresAtEpochMs then .ok (none, db)
      else updateRenewed scopeKey db current input

/-- The guarded deletion of `release`. -/
def deleteReleased (db : OwnershipTables) (input : ReleaseRuntimeOwnershipInput) :
    Except String OwnershipTables := do
  let hits (row : OwnershipRow) : Bool :=
    row.scopeKey = scopeKey ∧ row.record.ownerToken = input.ownerToken ∧
      row.record.generation = input.generation ∧ input.releasedAtEpochMs < row.record.expiresAtEpochMs
  throwIf ((db.ownership.filter hits).length ≠ 1)
    "Runtime ownership release compare-and-set changed unexpectedly."
  .ok { db with ownership := db.ownership.filter fun row => !hits row }

def release (db : OwnershipTables) (input : ReleaseRuntimeOwnershipInput) :
    Except String Bool × OwnershipTables :=
  withImmediateTransaction db do
    validateReleaseRuntimeOwnershipInput input
    let held ← heldRecord scopeKey db input.ownerToken input.generation input.releasedAtEpochMs
    match held with
    | none => .ok (false, db)
    | some current =>
      if current.expiresAtEpochMs ≤ input.releasedAtEpochMs then .ok (false, db)
      else do
        let appended ← appendEvent scopeKey db (releaseEvent current input.releasedAtEpochMs)
        let next ← deleteReleased scopeKey appended input
        .ok (true, next)

def recordLost (db : OwnershipTables) (input : RecordRuntimeOwnershipLostInput) :
    Except String Bool × OwnershipTables :=
  withImmediateTransaction db do
    validateRecordRuntimeOwnershipLostInput input
    let held ← heldRecord scopeKey db input.ownerToken input.generation input.lostAtEpochMs
    match held with
    | none => .ok (false, db)
    | some current => do
      let next ← appendEvent scopeKey db (lostEvent current input)
      .ok (true, next)

def listRecentEvents (db : OwnershipTables) (limit : ℤ) :
    Except String (List RuntimeOwnershipEventRecord) := do
  validateRuntimeOwnershipEventLimit limit
  ((orderedDescending RuntimeOwnershipEventRecord.eventAtEpochMs (scopeEvents scopeKey db)).take
    limit.toNat).mapM validatedEvent

end Scope

end AutoTrade.Runtime.SqliteOwnershipStore
