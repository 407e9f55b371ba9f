import AutoTrade.Reconciliation.OrderWrites
import AutoTrade.Lib.Stateful

/-! # The reconciliation of one active order

`reconcileActiveOrder` of `reconciliation-service.ts` with all it calls: the identifier recovery of a
submission that is in doubt, the snapshot of an order that was found, and the mark of one that was
not. The orders and their children are rows of the database; what the reader of the exchange, the
clock and the candidate projection answer is given. `createId` gives out a new id at each place. -/

namespace AutoTrade.Reconciliation.ActiveOrders

open Lib.Text Lib.Run Domain.Types
open Db.Tables Db.OrderStore Db.ReconciliationStore
open Reconciliation.Snapshots
open Reconciliation.OrderWrites

/-! ### What a reconciliation is given -/

inductive Thrown
  | runtimeOwnership (message : String)
  | error (message : String)
  deriving DecidableEq

/-- What `getOrder` of the reader does. -/
inductive Lookup
  | missing
  | answered (candidate : ExchangeOrderSnapshot)
  | transientFailure (message : String)
  | failed (message : String)
  | notOwned (message : String)

structure RecoveryObservationTime where
  observedAt : String
  observedAtEpochMs : ℤ

structure IdentifierRecoveryPolicy where
  minimumNotFoundObservations : ℤ
  minimumElapsedMs : ℤ

/-- What `processTerminalOrder` writes, and the detail of the fault it may report. -/
structure Projection where
  writes : List OrderWrite
  fault : Except Thrown (Option String)

/-- The ids that `createId` gives out. -/
structure CreatedIds where
  event : String
  riskEvent : String
  observation : String
  observationEvent : String
  fill : ℕ → String

structure Dependencies where
  lib : Library
  orderReader : Option (ExchangeOrderLookupIdentity → Lookup)
  recoveryClock : Option RecoveryObservationTime
  identifierRecovery : Option IdentifierRecoveryPolicy
  processTerminalOrder : Option (String → Projection)
  createId : CreatedIds

structure Issue where
  code : String
  message : String
  deriving DecidableEq

/-! ### Programs over the database -/

abbrev Program (α : Type) : Type := ExceptT Thrown (StateM Database) α

/-- A write of the repository, which commits or throws. -/
def call (w : OrderWrite) : Program w.Result := do
  match perform (← get) w with
  | .ok (result, db) => do
    set db
    return result
  | .error message => throw (.error message)

def project (projection : Projection) : Program (Option String) := do
  modify fun db => run write db projection.writes
  match projection.fault with
  | .ok fault => return fault
  | .error e => throw e

/-- `catch (error)` of the source, which passes the loss of the runtime on. -/
def catching {α : Type} (body : Program α) (handler : String → Program α) : Program α :=
  tryCatch body fun e =>
    match e with
    | .runtimeOwnership message => throw (.runtimeOwnership message)
    | .error message => handler message

/-! ### Marks and snapshots -/

def classifyConcurrentOrderChange (order : OrderRecord) : Program Issue := do
  match findOrderById (← get) order.exchangeAccountId order.id with
  | none => return ⟨"OPEN_ORDER_NEEDS_REVIEW", "Order " ++ order.id ++
      " changed concurrently and is no longer available for reconciliation classification."⟩
  | some current => return ⟨"OPEN_ORDER_NEEDS_REVIEW", "Order " ++ order.id ++
      " changed concurrently to " ++ current.status.text ++
        "; stale reconciliation material was not persisted."⟩

def createRecoveryRiskEvent (id : String) (order : OrderRecord) (message createdAt : String) :
    RiskEventRecord where
  id
  exchangeAccountId := order.exchangeAccountId
  strategyDecisionId := order.strategyDecisionId
  orderId := some order.id
  level := .warn
  ruleCode := "ORDER_RECOVERY_REQUIRED"
  message
  payloadJson := jsonRecord [("orderId", jsonString order.id),
    ("market", jsonString order.market.text), ("identifier", jsonString order.identifier),
    ("upbitUuid", jsonNullable order.upbitUuid)]
  createdAt

/-- What `markOrderForRecovery` hands to the repository. -/
def recoveryMark (createId : CreatedIds) (order : OrderRecord) (reconciledAt message : String) :
    PersistReconciliationRecoveryInput where
  expectedOrder := order
  order := { order with
    status := .reconciliationRequired
    failureCode := some (order.failureCode.getD "RECONCILIATION_REQUIRED")
    failureMessage := some message
    updatedAt := reconciledAt }
  event :=
    { id := createId.event
      orderId := order.id
      eventType := "RECONCILIATION_RECOVERY_REQUIRED"
      eventSource := .reconciliation
      payloadJson := jsonRecord [("reason", jsonString message)]
      createdAt := reconciledAt }
  riskEvent := createRecoveryRiskEvent createId.riskEvent order message reconciledAt

def markOrderForRecovery (deps : Dependencies) (order : OrderRecord)
    (reconciledAt message issueCode : String) : Program Issue := do
  match ← call (.persistReconciliationRecovery
      (recoveryMark deps.createId order reconciledAt message)) with
  | .conflict => classifyConcurrentOrderChange order
  | _ => return ⟨issueCode,
      "Order " ++ order.id ++ " marked RECONCILIATION_REQUIRED. " ++ message⟩

/-- The projection of a terminal order, as an issue when it faults. -/
def projectTerminalOrder (deps : Dependencies) (orderId : String) (status : OrderLifecycleStatus) :
    Program (List Issue) := do
  match deps.processTerminalOrder with
  | none => return []
  | some processTerminalOrder =>
    if status = .filled ∨ status = .canceled then
      match ← project (processTerminalOrder orderId) with
      | some detail => return [⟨"CANDIDATE_EVIDENCE_PROJECTION_FAILED",
          "Candidate evidence projection failed for order " ++ orderId ++ ". " ++ detail⟩]
      | none => return []
    else return []

def applyExchangeSnapshot (deps : Dependencies) (order : OrderRecord)
    (snapshot : ExchangeOrderSnapshot) (reconciledAt : String) : Program (List Issue) := do
  let nextStatus := mapExchangeOrderToLifecycleStatus deps.lib snapshot
  let fillIds := (List.range snapshot.fills.length).map deps.createId.fill
  let persistence ← call (.persistReconciledExchangeSnapshot
    (reconciledInput deps.lib order snapshot reconciledAt deps.createId.event fillIds))
  if persistence.outcome = .conflict then return [← classifyConcurrentOrderChange order]
  else
    let reconciled : List Issue :=
      if nextStatus ≠ order.status then [⟨"ORDER_STATUS_RECONCILED",
        "Order " ++ order.id ++ " reconciled from " ++ order.status.text ++ " to " ++
          nextStatus.text ++ " using exchange state " ++ snapshot.state ++ "."⟩]
      else []
    let backfilled : List Issue :=
      if 0 < persistence.insertedFillCount then [⟨"ORDER_FILLS_BACKFILLED",
        "Backfilled " ++ toString persistence.insertedFillCount ++ " fill(s) for order " ++ order.id ++
          " from exchange snapshot."⟩]
      else []
    let projected ← projectTerminalOrder deps order.id nextStatus
    return reconciled ++ backfilled ++ projected

/-! ### Identifier recovery -/

inductive IdentifierRecoveryOutcome
  | recovered
  | recoveredButProjectionFailed
  | stillUncertain
  | absenceConfirmed
  | transientFailure
  deriving DecidableEq

structure IdentifierRecoverySummary where
  outcome : IdentifierRecoveryOutcome
  detail : String

def RecoveryObservationOutcome.text : RecoveryObservationOutcome → String
  | .found => "FOUND"
  | .notFound => "NOT_FOUND"
  | .transientFailure => "TRANSIENT_FAILURE"

def bindingErrorMessage : String :=
  "Exchange order snapshot is not exactly bound to the lookup and local order intent."

def isPotentiallyDispatchedRecoveryStatus (status : OrderLifecycleStatus) : Bool :=
  status = .submitting ∨ status = .reconciliationRequired ∨ status = .failed ∨ status = .rejected

/-- `DEFAULT_IDENTIFIER_RECOVERY_POLICY`. -/
def defaultIdentifierRecoveryPolicy : IdentifierRecoveryPolicy := ⟨2, 60000⟩

def validateIdentifierRecoveryPolicy (policy : IdentifierRecoveryPolicy) : Except String Unit :=
  if policy.minimumNotFoundObservations < 2 then
    .error "Identifier recovery requires at least two persisted not-found observations."
  else if policy.minimumElapsedMs ≤ 0 then
    .error "Identifier recovery requires a positive persisted elapsed-time bound."
  else .ok ()

def validateRecoveryObservationTime (lib : Library) (value : RecoveryObservationTime) :
    Except String Unit :=
  if value.observedAtEpochMs < 0 then
    .error "Recovery observation time must include a non-negative integer epoch timestamp."
  else
    match lib.dateParse value.observedAt with
    | none => .error "Recovery observation time must include a valid persisted timestamp."
    | some parsedObservedAt =>
      if parsedObservedAt ≠ value.observedAtEpochMs then
        .error ("Recovery observation ISO timestamp and epoch timestamp must identify the same " ++
          "instant.")
      else .ok ()

structure BoundedAbsenceEvaluation where
  notFoundObservationCount : ℕ
  elapsedMs : ℤ
  confirmed : Bool

def evaluateBoundedAbsence (observations : List OrderSubmissionRecoveryObservationRecord)
    (policy : IdentifierRecoveryPolicy) : BoundedAbsenceEvaluation :=
  let hasDurableFoundEvidence := observations.any fun observation => observation.outcome = .found
  let absence := (observations.filter fun observation => observation.outcome = .notFound).insertionSort
    fun left right => left.observedAtEpochMs < right.observedAtEpochMs ∨
      (left.observedAtEpochMs = right.observedAtEpochMs ∧ left.id ≤ right.id)
  let elapsedMs := match absence.head?, absence.getLast? with
    | some first, some latest => latest.observedAtEpochMs - first.observedAtEpochMs
    | _, _ => 0
  { notFoundObservationCount := absence.length
    elapsedMs
    confirmed := hasDurableFoundEvidence = false ∧
      policy.minimumNotFoundObservations ≤ absence.length ∧ policy.minimumElapsedMs ≤ elapsedMs }

/-- A query as JSON; it has one of the two keys. -/
def jsonQuery (query : ExchangeOrderLookupIdentity) : String :=
  jsonRecord ((query.uuid.map fun uuid => ("uuid", jsonString uuid)).toList ++
    (query.identifier.map fun identifier => ("identifier", jsonString identifier)).toList)

def jsonQueries (queries : List ExchangeOrderLookupIdentity) : String :=
  "[" ++ String.intercalate "," (queries.map jsonQuery) ++ "]"

def recordRecoveryObservation (deps : Dependencies) (order : OrderRecord)
    (outcome : RecoveryObservationOutcome) (now : RecoveryObservationTime)
    (detail : List (String × String)) : Program Unit := do
  call (.saveOrderSubmissionRecoveryObservation
    { id := deps.createId.observation
      orderId := order.id
      outcome
      observedAt := now.observedAt
      observedAtEpochMs := now.observedAtEpochMs
      detailJson := jsonRecord detail
      createdAt := now.observedAt })
  call (.appendOrderEvent
    { id := deps.createId.observationEvent
      orderId := order.id
      eventType := "RECONCILIATION_IDENTIFIER_RECOVERY_OBSERVED"
      eventSource := .reconciliation
      payloadJson := jsonRecord ([("outcome", jsonString (RecoveryObservationOutcome.text outcome)),
        ("observationId", jsonString deps.createId.observation)] ++ detail)
      createdAt := now.observedAt })

/-- `ORDER BY observed_at_epoch_ms ASC, id ASC`. -/
def listOrderSubmissionRecoveryObservations (orderId : String) :
    Program (List OrderSubmissionRecoveryObservationRecord) := do
  return getRecoveryObservationsForOrder (← get) orderId

def persistRecoveredProjectionFailure (order : OrderRecord) (occurredAt message : String) :
    Program Unit := do
  let eventId := "candidate-evidence-recovery-fault:" ++ order.id
  let existingEvent := (getOrderEventsForOrder (← get) order.id).find? fun event =>
    event.id = eventId
  let event := existingEvent.getD
    { id := eventId
      orderId := order.id
      eventType := "CANDIDATE_EVIDENCE_PROJECTION_FAILED"
      eventSource := .reconciliation
      payloadJson := jsonRecord [("code", jsonString "RECOVERED_SNAPSHOT_PROJECTION_FAILED"),
        ("message", jsonString message)]
      createdAt := occurredAt }
  let _ ← call (.persistCandidateProjectionFault
    { orderId := order.id
      event
      faultPause :=
        { exchangeAccountId := order.exchangeAccountId
          faultId := eventId
          reason := "RECOVERED_SNAPSHOT_PROJECTION_FAILED: " ++ message
          occurredAt := event.createdAt
          transitionAt := some occurredAt } })

/-- What the queries of an identifier recovery came to. -/
inductive IdentifierLookup
  | found (query : ExchangeOrderLookupIdentity) (snapshot : ExchangeOrderSnapshot)
  | notFound
  | unbound
  | transientFailure (message : String)
  | failed (message : String)
  | notOwned (message : String)

/-- The loop over the queries: the first answer that is an order counts. -/
def lookUpQueries (getOrder : ExchangeOrderLookupIdentity → Lookup) (order : OrderRecord) :
    List ExchangeOrderLookupIdentity → IdentifierLookup
  | [] => .notFound
  | query :: queries =>
    match getOrder query with
    | .missing => lookUpQueries getOrder order queries
    | .answered candidate =>
      match bindExchangeOrderSnapshot candidate query order with
      | some snapshot => .found query snapshot
      | none => .unbound
    | .transientFailure message => .transientFailure message
    | .failed message => .failed message
    | .notOwned message => .notOwned message

/-- The queries of an order, one for each of its references. -/
def identifierQueries (order : OrderRecord) : List ExchangeOrderLookupIdentity :=
  (if truthy order.upbitUuid then [⟨order.upbitUuid, none⟩] else []) ++
    (if order.identifier ≠ "" then [⟨none, some order.identifier⟩] else [])

/-- The snapshot of an order in doubt is applied; what goes wrong pauses the account. -/
def recoverFoundOrder (deps : Dependencies) (order : OrderRecord) (now : RecoveryObservationTime)
    (snapshot : ExchangeOrderSnapshot) : Program IdentifierRecoverySummary :=
  catching
    (do
      let issues ← applyExchangeSnapshot deps order snapshot now.observedAt
      match issues.find? fun issue => issue.code = "CANDIDATE_EVIDENCE_PROJECTION_FAILED" with
      | some projectionFailure => do
        persistRecoveredProjectionFailure order now.observedAt projectionFailure.message
        return ⟨.recoveredButProjectionFailed, "Exchange order was recovered, but terminal " ++
          "candidate projection failed and paused execution."⟩
      | none => return ⟨.recovered, "Exchange order recovery lookup found a matching order."⟩)
    fun message => do
      persistRecoveredProjectionFailure order now.observedAt message
      return ⟨.recoveredButProjectionFailed,
        "Exchange order was recovered, but local projection failed: " ++ message⟩

/-- A lookup that found nothing: enough of them, over enough time, confirm the absence. -/
def confirmAbsence (deps : Dependencies) (order : OrderRecord) (now : RecoveryObservationTime) :
    Program IdentifierRecoverySummary := do
  let policy := deps.identifierRecovery.getD defaultIdentifierRecoveryPolicy
  match validateIdentifierRecoveryPolicy policy with
  | .error message => throw (.error message)
  | .ok () => do
    let absence := evaluateBoundedAbsence
      (← listOrderSubmissionRecoveryObservations order.id) policy
    if absence.confirmed = false then
      return ⟨.stillUncertain, "Persisted absence evidence is below the explicit recovery bound (" ++
        toString absence.notFoundObservationCount ++ "/" ++
        toString policy.minimumNotFoundObservations ++ "; " ++ toString absence.elapsedMs ++ "/" ++
        toString policy.minimumElapsedMs ++ "ms)."⟩
    else do
      let message := "Bounded identifier recovery confirmed persistent exchange absence."
      let finalized : Bool ← call (.finalizeBoundedSubmissionAbsence
        { orderId := order.id
          expectedStatus := order.status
          expectedUpdatedAt := order.updatedAt
          failedAt := now.observedAt
          failureMessage := message
          event :=
            { id := "identifier-recovery-absence-event:" ++ order.id
              orderId := order.id
              eventType := "RECONCILIATION_IDENTIFIER_ABSENCE_CONFIRMED"
              eventSource := .reconciliation
              payloadJson := jsonRecord
                [("absenceObservationCount", toString absence.notFoundObservationCount),
                  ("elapsedMs", toString absence.elapsedMs),
                  ("minimumNotFoundObservations", toString policy.minimumNotFoundObservations),
                  ("minimumElapsedMs", toString policy.minimumElapsedMs)]
              createdAt := now.observedAt }
          faultPause :=
            { exchangeAccountId := order.exchangeAccountId
              faultId := "identifier-recovery-absence:" ++ order.id
              reason := message
              occurredAt := now.observedAt
              transitionAt := none } })
      if finalized then return ⟨.absenceConfirmed, message⟩
      else return ⟨.stillUncertain, "Bounded absence finalization lost its order compare-and-set " ++
        "and did not overwrite newer recovery evidence."⟩

def recoverOrderByIdentifier (deps : Dependencies) (order : OrderRecord) :
    Program IdentifierRecoverySummary := do
  if isSubmissionAbsenceConfirmed order then
    return ⟨.absenceConfirmed,
      "Bounded identifier recovery previously confirmed persistent exchange absence."⟩
  else if isPotentiallyDispatchedRecoveryStatus order.status = false then
    throw (.error ("Order " ++ order.id ++ " is not eligible for submission recovery."))
  else
    let queries := identifierQueries order
    match deps.orderReader, deps.recoveryClock with
    | none, _ => return ⟨.stillUncertain,
        "No exchange lookup reference is available for uncertain submission recovery."⟩
    | some getOrder, clock =>
      if queries = [] then return ⟨.stillUncertain,
        "No exchange lookup reference is available for uncertain submission recovery."⟩
      else
        match clock with
        | none =>
          throw (.error "Identifier recovery requires an injected persisted-observation clock.")
        | some now =>
          match validateRecoveryObservationTime deps.lib now with
          | .error message => throw (.error message)
          | .ok () =>
            let attempted := ("attemptedQueries", jsonQueries queries)
            match lookUpQueries getOrder order queries with
            | .notOwned message => throw (.runtimeOwnership message)
            | .failed message => throw (.error message)
            | .unbound => do
              recordRecoveryObservation deps order .transientFailure now [attempted,
                ("reasonCode", jsonString "EXCHANGE_SNAPSHOT_BINDING_MISMATCH")]
              return ⟨.transientFailure, "Exchange snapshot binding validation failed; manual " ++
                "reconciliation is required."⟩
            | .transientFailure message => do
              recordRecoveryObservation deps order .transientFailure now [attempted,
                ("reason", jsonString message)]
              return ⟨.transientFailure,
                "Transient identifier recovery lookup failure: " ++ message⟩
            | .found query snapshot => do
              recordRecoveryObservation deps order .found now [("query", jsonQuery query),
                attempted, ("uuid", jsonString snapshot.uuid)]
              recoverFoundOrder deps order now snapshot
            | .notFound => do
              recordRecoveryObservation deps order .notFound now [attempted]
              confirmAbsence deps order now

/-! ### One active order -/

def identifierRecoveryIssueCode : IdentifierRecoveryOutcome → String
  | .recovered => "ORDER_IDENTIFIER_RECOVERED"
  | .recoveredButProjectionFailed => "CANDIDATE_EVIDENCE_PROJECTION_FAILED"
  | .absenceConfirmed => "ORDER_SUBMISSION_ABSENCE_CONFIRMED"
  | _ => "ORDER_IDENTIFIER_RECOVERY_UNCERTAIN"

/-- The query by both references of the order. -/
def orderQuery (order : OrderRecord) : ExchangeOrderLookupIdentity where
  uuid := if truthy order.upbitUuid then order.upbitUuid else none
  identifier := if order.identifier ≠ "" then some order.identifier else none

/-- A failure of the lookup that may pass is an event of the order. -/
def recordTransientFailure (deps : Dependencies) (order : OrderRecord) (reconciledAt message : String) :
    Program Issue := do
  call (.appendOrderEvent
    { id := deps.createId.event
      orderId := order.id
      eventType := "RECONCILIATION_LOOKUP_TRANSIENT_FAILURE"
      eventSource := .reconciliation
      payloadJson := jsonRecord [("reason", jsonString message)]
      createdAt := reconciledAt })
  return ⟨"ORDER_LOOKUP_TRANSIENT_FAILURE",
    "Transient exchange lookup failure for order " ++ order.id ++ ". " ++ message⟩

/-- The snapshot of the order is applied; what the repository throws is an issue. -/
def reconcileFoundOrder (deps : Dependencies) (order : OrderRecord) (snapshot : ExchangeOrderSnapshot)
    (reconciledAt : String) : Program (List Issue) :=
  catching (applyExchangeSnapshot deps order snapshot reconciledAt) fun message =>
    return [⟨"OPEN_ORDER_NEEDS_REVIEW",
      "Local reconciliation persistence failed for order " ++ order.id ++ ". " ++ message⟩]

/-- An order with a status that no submission is in doubt of. -/
def reconcileReferencedOrder (deps : Dependencies) (getOrder : ExchangeOrderLookupIdentity → Lookup)
    (order : OrderRecord) (reconciledAt : String) : Program (List Issue) := do
  match getOrder (orderQuery order) with
  | .notOwned message => throw (.runtimeOwnership message)
  | .transientFailure message => return [← recordTransientFailure deps order reconciledAt message]
  | .failed message =>
    return [← markOrderForRecovery deps order reconciledAt
      ("Exchange order lookup failed: " ++ message) "ORDER_MARKED_FOR_RECOVERY"]
  | .missing =>
    return [← markOrderForRecovery deps order reconciledAt
      "Exchange order snapshot could not be found." "ORDER_MARKED_FOR_RECOVERY"]
  | .answered candidate =>
    match bindExchangeOrderSnapshot candidate (orderQuery order) order with
    | some snapshot => reconcileFoundOrder deps order snapshot reconciledAt
    | none =>
      return [← markOrderForRecovery deps order reconciledAt
        ("Exchange order lookup failed: " ++ bindingErrorMessage) "ORDER_MARKED_FOR_RECOVERY"]

def reconcileActiveOrder (deps : Dependencies) (order : OrderRecord) (reconciledAt : String) :
    Program (List Issue) := do
  match deps.orderReader with
  | none =>
    if order.status = .reconciliationRequired then return [⟨"ORDER_MARKED_FOR_RECOVERY",
      "Order " ++ order.id ++ " is already marked for recovery."⟩]
    else return [⟨"OPEN_ORDER_NEEDS_REVIEW",
      "Order " ++ order.id ++ " remains active and exchange order lookup is not wired."⟩]
  | some getOrder =>
    if order.status = .reconciliationRequired ∨ order.status = .submitting then do
      let recovery ← recoverOrderByIdentifier deps order
      return [⟨identifierRecoveryIssueCode recovery.outcome,
        "Order " ++ order.id ++ " identifier recovery: " ++ recovery.detail⟩]
    else if truthy order.upbitUuid = false ∧ order.identifier = "" then
      return [← markOrderForRecovery deps order reconciledAt
        "Order has no exchange reference for reconciliation." "ORDER_REFERENCE_MISSING"]
    else reconcileReferencedOrder deps getOrder order reconciledAt

end AutoTrade.Reconciliation.ActiveOrders
