import AutoTrade.Db.OrderStore
import AutoTrade.Execution.OrderDecimals

/-! # The order repository of a reconciliation

The methods of `SqliteExecutionRepository` that a reconciliation run uses besides those of a
submission, and the checks of `atomic-lifecycle-validation.ts` they make. A reconciled order and a
recovery mark are compared with the stored row first and conflict when it changed; a fill that is
stored already has to come again as it was. `saveOrder` of `InMemoryExecutionRepository` appends
without looking at what is stored. -/

namespace AutoTrade.Db.ReconciliationStore

open Lib.Result Lib.Decimal Domain.Types
open Db.Tables Db.LifecycleValidation Db.OrderStore
open Execution.OrderDecimals

/-! ### Fills -/

/-- `validateExactDecimal`. -/
def validateExactDecimal (value label : String) (allowZero : Bool) : Except String Unit :=
  if isDecimalText value.toList = false then
    .error (label ++ " must be a plain non-negative decimal string.")
  else if allowZero = false ∧ value.toList.any (fun c => '1' ≤ c ∧ c ≤ '9') = false then
    .error (label ++ " must be greater than zero.")
  else .ok ()

def validateFillFee (fill : FillRecord) : Except String Unit :=
  match fill.feeAmount with
  | some feeAmount => validateExactDecimal feeAmount "fill fee amount" true
  | none => .ok ()

def validateFillForOrder (order : OrderRecord) (fill : FillRecord) : Except String Unit :=
  if fill.orderId ≠ order.id ∨ fill.market ≠ order.market ∨ fill.side ≠ order.side then
    .error ("Fill " ++ fill.id ++ " identity does not match order " ++ order.id ++ ".")
  else do
    validateExactDecimal fill.price "fill price" false
    validateExactDecimal fill.volume "fill volume" false
    validateFillFee fill
    if fill.executionEpochNs.any fun epochNs => isDigits epochNs.toList = false then
      .error ("Fill " ++ fill.id ++ " executionEpochNs must be an exact non-negative integer string.")
    else .ok ()

inductive FillReplay
  | insert
  | preserve
  deriving DecidableEq

/-- A stored fill must be the next one in everything but its id. -/
def resolveImmutableFillReplay (existing : Option FillRecord) (next : FillRecord) :
    Except String FillReplay :=
  match existing with
  | none => .ok .insert
  | some existing =>
    if fillExchangeIdentity existing ≠ fillExchangeIdentity next ∨
        (existing.id = next.id ∧ existing.orderId ≠ next.orderId) then
      .error ("Conflicting fill identity " ++ next.id ++ ".")
    else if { existing with id := next.id } ≠ next then
      .error ("Conflicting duplicate fill " ++ next.exchangeFillId ++ ".")
    else .ok .preserve

def resolveFill (db : Database) (fill : FillRecord) : Except String FillReplay := do
  let existing ← getFillByIdentity db fill
  resolveImmutableFillReplay existing fill

def saveFill (db : Database) (record : FillRecord) : Except String Database :=
  let normalizedRecord := normalizeFillFeeProvenance record
  match getOrderById db normalizedRecord.orderId with
  | none =>
    .error ("Cannot persist fill for missing order " ++ normalizedRecord.orderId ++ ".")
  | some order => do
    validateFillForOrder order normalizedRecord
    match ← resolveFill db normalizedRecord with
    | .insert => insertFill db normalizedRecord
    | .preserve => .ok db

/-- `listFills(orderId)`. -/
def listFills (db : Database) (orderId : String) : List FillRecord :=
  (db.fills.filter fun fill => fill.orderId = orderId).insertionSort fun a b =>
    b.filledAt ≤ a.filledAt

/-! ### Reconciled orders -/

structure PersistReconciledExchangeSnapshotInput where
  expectedOrder : OrderRecord
  order : OrderRecord
  event : Option OrderEventRecord
  fills : List FillRecord

inductive PersistenceOutcome
  | applied
  | duplicate
  | conflict
  deriving DecidableEq

structure PersistReconciledExchangeSnapshotResult where
  outcome : PersistenceOutcome
  insertedFillCount : ℕ

def validateReconciliationEvent (order : OrderRecord) (event : OrderEventRecord) :
    Except String Unit :=
  if event.orderId ≠ order.id ∨ event.eventType ≠ "RECONCILIATION_STATUS_UPDATED" ∨
      event.eventSource ≠ .reconciliation then
    .error ("Reconciliation event " ++ event.id ++ " is invalid for order " ++ order.id ++ ".")
  else .ok ()

/-- The loop over the fills, with the ids and the exchange identities seen so far. -/
def validateReconciledFills (order : OrderRecord) (ids identities : List String) :
    List FillRecord → Except String Unit
  | [] => .ok ()
  | fill :: fills => do
    validateFillForOrder order fill
    if fill.id ∈ ids ∨ fillExchangeIdentity fill ∈ identities then
      .error ("Duplicate fill identity " ++ fill.id ++ " in reconciled order " ++ order.id ++ ".")
    else validateReconciledFills order (fill.id :: ids) (fillExchangeIdentity fill :: identities) fills

def validateReconciledExchangeSnapshotInput (input : PersistReconciledExchangeSnapshotInput) :
    Except String Unit := do
  validateOrderIdentity input.expectedOrder input.order
  throwIf (decide (input.expectedOrder ≠ input.order) ≠ input.event.isSome)
    "Reconciled order changes require exactly one reconciliation event."
  match input.event with
  | some event => validateReconciliationEvent input.order event
  | none => .ok ()
  validateReconciledFills input.order [] [] input.fills

/-- The stored event of the same id, which has to be the given one. -/
def existingReconciliationEvent (db : Database) (event : Option OrderEventRecord) :
    Except String (Option OrderEventRecord) :=
  match event with
  | none => .ok none
  | some event => do
    assertNoConflictingRecord (getOrderEventById db event.id) event "reconciliation order event"
      event.id
    .ok (getOrderEventById db event.id)

/-- The event, unless it is stored. -/
def insertNewEvent (db : Database) (event existing : Option OrderEventRecord) :
    Except String Database :=
  match event, existing with
  | some event, none => insertOrderEvent db event
  | _, _ => .ok db

def persistReconciledExchangeSnapshot (db : Database)
    (request : PersistReconciledExchangeSnapshotInput) :
    Except String (PersistReconciledExchangeSnapshotResult × Database) := do
  let input := { request with fills := request.fills.map normalizeFillFeeProvenance }
  validateReconciledExchangeSnapshotInput input
  match getOrderById db input.order.id with
  | none => .error ("Cannot persist reconciliation for missing order " ++ input.order.id ++ ".")
  | some currentOrder =>
    if currentOrder ≠ input.expectedOrder then .ok (⟨.conflict, 0⟩, db)
    else do
      let existingEvent ← existingReconciliationEvent db input.event
      let resolutions ← input.fills.mapM (resolveFill db)
      let insertedFills := ((input.fills.zip resolutions).filter fun p => p.2 = .insert).map Prod.fst
      let written ← upsertOrder db input.order
      let recorded ← insertNewEvent written input.event existingEvent
      let filled ← insertedFills.foldlM insertFill recorded
      .ok (⟨if currentOrder ≠ input.order ∨ (input.event.isSome ∧ existingEvent = none) ∨
          insertedFills ≠ [] then .applied else .duplicate, insertedFills.length⟩, filled)

/-! ### Recovery marks -/

structure PersistReconciliationRecoveryInput where
  expectedOrder : OrderRecord
  order : OrderRecord
  event : OrderEventRecord
  riskEvent : RiskEventRecord

def validateReconciliationRecoveryInput (input : PersistReconciliationRecoveryInput) :
    Except String Unit := do
  validateOrderIdentity input.expectedOrder input.order
  throwIf (input.order.status ≠ .reconciliationRequired ∨
      input.order.failureCode ≠ some "RECONCILIATION_REQUIRED")
    "Reconciliation recovery must set RECONCILIATION_REQUIRED status and failureCode."
  validateOrderEvent input.order input.event "RECONCILIATION_RECOVERY_REQUIRED" .reconciliation
  throwIf (input.riskEvent.level ≠ .warn ∨ input.riskEvent.ruleCode ≠ "ORDER_RECOVERY_REQUIRED" ∨
      input.riskEvent.orderId ≠ some input.order.id ∨
      input.riskEvent.exchangeAccountId ≠ input.order.exchangeAccountId ∨
      input.riskEvent.strategyDecisionId ≠ input.order.strategyDecisionId)
    "Reconciliation recovery risk event must exactly link the blocked order."

def validateReconciliationRecoveryCompletion (currentOrder : OrderRecord)
    (input : PersistReconciliationRecoveryInput) (existingEvents : List OrderEventRecord)
    (existingRiskEvents : List RiskEventRecord) : Except String Completion := do
  validateOrderIdentity currentOrder input.order
  let recoveryEvents := existingEvents.filter fun event =>
    event.eventType = "RECONCILIATION_RECOVERY_REQUIRED"
  let recoveryRiskEvents := existingRiskEvents.filter fun event =>
    event.ruleCode = "ORDER_RECOVERY_REQUIRED"
  if currentOrder ≠ input.order then
    if recoveryEvents = [] ∧ recoveryRiskEvents = [] then .ok .apply
    else
      .error ("Corrupt partial reconciliation recovery children for order " ++ input.order.id ++ ".")
  else if recoveryEvents = [input.event] ∧ recoveryRiskEvents = [input.riskEvent] then .ok .retry
  else .error ("Conflicting reconciliation recovery for order " ++ input.order.id ++ ".")

def persistReconciliationRecovery (db : Database) (input : PersistReconciliationRecoveryInput) :
    Except String (PersistenceOutcome × Database) := do
  validateReconciliationRecoveryInput input
  match getOrderById db input.order.id with
  | none =>
    .error ("Cannot persist reconciliation recovery for missing order " ++ input.order.id ++ ".")
  | some currentOrder =>
    if currentOrder ≠ input.expectedOrder then .ok (.conflict, db)
    else do
      assertSameAccount currentOrder input.order
      assertNoConflictingRecord (getOrderEventById db input.event.id) input.event
        "reconciliation recovery event" input.event.id
      assertNoConflictingRecord (getRiskEventById db input.riskEvent.id) input.riskEvent
        "reconciliation recovery risk event" input.riskEvent.id
      match ← validateReconciliationRecoveryCompletion currentOrder input
          (getOrderEventsForOrder db input.order.id) (getRiskEventsForOrder db input.order.id) with
      | .retry => .ok (.duplicate, db)
      | .apply => do
        let written ← upsertOrder db input.order
        let recorded ← insertOrderEvent written input.event
        .ok (.applied, upsertRiskEvent recorded input.riskEvent)

/-! ### Recovery observations -/

/-- `ON CONFLICT(id) DO NOTHING`. -/
def saveOrderSubmissionRecoveryObservation (db : Database)
    (record : OrderSubmissionRecoveryObservationRecord) : Database :=
  if db.recoveryObservations.any fun row => row.id = record.id then db
  else { db with recoveryObservations := db.recoveryObservations ++ [record] }

end AutoTrade.Db.ReconciliationStore
