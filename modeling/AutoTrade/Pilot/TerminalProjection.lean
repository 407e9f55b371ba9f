import AutoTrade.Execution.CandidateEvidence
import AutoTrade.Lib.JsonText
import AutoTrade.Lib.Latest
import AutoTrade.Operator.ProjectionFaults
import AutoTrade.Pilot.PhaseMachine

/-! # The projection of a terminal order

`processTerminalOrder` and `classifyTerminalOrderForSweep` of `candidate-evidence-service.ts` over the
in-memory repositories. A call reads first (`planProjection`), then makes the one write that it has
decided on; whatever it throws on the way is recorded as a fault of the order, together with an
automatic pause.

A dependency may throw: `failure` gives the message. All readings of the clock in one call are one
reading. The material version of the stored evidence has a single value and is left out. -/

namespace AutoTrade.Pilot.TerminalProjection

open Lib Lib.Text Lib.Result Lib.Json Lib.JsonText
open Lib.Latest (Collation)
open Domain.Types Domain.PilotTypes Domain.Timestamp
open Strategy.Core (entryPathText)
open Strategy.CandidateState
open Execution.EvidenceDecimals Execution.CandidateEvidence
open Operator.InMemoryStore (getTransitionById)
open Operator.FaultWriters (PersistCandidateProjectionFaultInput ProjectionFaultOutcome)
open Operator.ProjectionFaults (InMemoryRepositories)
open Pilot.InMemoryRepository
open Pilot.PhaseMachine (orderedEvidence)

/-! ### The service -/

/-- What the service calls while it projects an order. -/
inductive Dependency
  | listOrderEvents
  | getTransitionById
  | getDeploymentForExchangeAccount
  | getExecutionBindingForOrder
  | getStrategyDecisionById
  | listFills
  | getExactState
  | listEvidenceRecords
  | getEvidenceRecord
  | advanceStateWithEvidence
  | appendOrderEvent
  deriving DecidableEq

structure Clock where
  occurredAt : String
  occurredAtEpochMs : ℤ

structure Service (Num : Type) where
  exchangeAccountId : String
  /-- How `JSON.stringify` and `JSON.parse` treat numbers. -/
  numbers : NumberSyntax Num
  /-- `localeCompare`. -/
  order : Collation
  /-- `Date.parse`; `none` is `NaN`. -/
  dateParse : String → Option ℤ
  sha256Hex : String → String
  /-- The message of the error that a dependency throws, if it throws. -/
  failure : Dependency → Option String

/-- The stores behind the service. -/
structure Stores where
  repositories : InMemoryRepositories
  fills : List FillRecord
  strategyDecisions : List StrategyDecisionRecord
  pilot : PilotRepository
  bindingsByOrderId : String → Option CandidateExecutionBindingRecord

inductive CandidateEvidenceProjectionOutcome
  | advanced
  | duplicate
  | noActiveDeployment
  | notCandidateOrder
  | notTerminal
  | terminalNoFill
  | fault
  deriving DecidableEq

structure CandidateEvidenceProjectionResult where
  outcome : CandidateEvidenceProjectionOutcome
  orderId : String
  detail : String
  deriving DecidableEq

inductive TerminalCandidateSweepDisposition
  | eligible
  | disposed
  | preActivation
  | outsideScope
  deriving DecidableEq

section Service

variable {Num : Type} (service : Service Num) (stores : Stores)

/-- What a dependency answers, unless it throws. -/
def Service.read {α : Type} (dependency : Dependency) (value : α) : Except Thrown α :=
  match service.failure dependency with
  | some message => .error (.error message)
  | none => .ok value

/-! ### Lookups -/

def findOrderByReference (reference : String) : Option OrderRecord :=
  stores.repositories.orders.find? fun candidate =>
    candidate.exchangeAccountId = service.exchangeAccountId ∧
      (candidate.id = reference ∨ candidate.identifier = reference ∨
        candidate.upbitUuid = some reference)

def listOrderEvents (orderId : String) : List OrderEventRecord :=
  (stores.repositories.orderEvents.filter (·.orderId = orderId)).insertionSort fun left right =>
    service.order.compare left.createdAt right.createdAt ≤ 0

def listFills (orderId : String) : List FillRecord := stores.fills.filter (·.orderId = orderId)

def getStrategyDecisionById (id : String) : Option StrategyDecisionRecord :=
  stores.strategyDecisions.find? fun candidate => candidate.id = id

/-- The deployment of the account that was created first. -/
def getDeploymentForExchangeAccount (exchangeAccountId : String) :
    Option PositionGuardPilotDeploymentRecord :=
  ((stores.pilot.deployments.filter (·.exchangeAccountId = exchangeAccountId)).insertionSort
    fun left right => service.order.compare left.createdAt right.createdAt < 0 ∨
      (service.order.compare left.createdAt right.createdAt = 0 ∧
        service.order.compare left.id right.id ≤ 0)).head?

def getEvidenceRecord (deploymentId evidenceId : String) : Option StoredEvidence :=
  (stores.pilot.records deploymentId).find? fun item => item.evidence.evidenceId = evidenceId

/-! ### Fault events -/

def startsWith (text start : String) : Bool := start.toList.isPrefixOf text.toList

def candidateProjectionFaultEvents (events : List OrderEventRecord) (orderId : String) :
    List OrderEventRecord :=
  events.filter fun event =>
    event.eventType = "CANDIDATE_EVIDENCE_PROJECTION_FAILED" ∧
      (startsWith event.id ("candidate-evidence-fault:" ++ orderId ++ ":") ∨
        startsWith event.id ("candidate-evidence-recovery-fault:" ++ orderId))

/-- A text of a record that is not blank, trimmed. -/
def trimmedField (record : List (String × JsonValue Num)) (name : String) : Option String :=
  match Table.select Prod.fst name record with
  | some (_, .text text) => if trim text = "" then none else some (trim text)
  | _ => none

def persistedFaultReason (event : OrderEventRecord) : String :=
  let unreadable := "Persisted candidate projection fault " ++ event.id ++ "."
  match parse service.numbers event.payloadJson with
  | some (.object record) =>
    match trimmedField record "code", trimmedField record "message" with
    | some code, some message => code ++ ": " ++ message
    | some code, none => code
    | none, some message => message
    | none, none => unreadable
  | _ => unreadable

/-- The transition was made no earlier than the fault occurred. -/
def followsFaultOccurrence (transition : ExecutionStateTransitionRecord) (event : OrderEventRecord) :
    Bool :=
  match parsePositionGuardCandidateTimestamp transition.createdAt "automatic fault pause createdAt",
    parsePositionGuardCandidateTimestamp event.createdAt "candidate fault event createdAt" with
  | .ok transitionAt, .ok occurredAt => occurredAt ≤ transitionAt
  | _, _ => false

def isMatchingFaultPauseTransition (transition : Option ExecutionStateTransitionRecord)
    (order : OrderRecord) (event : OrderEventRecord) : Bool :=
  transition.any fun transition =>
    transition.id = event.id ∧ transition.exchangeAccountId = order.exchangeAccountId ∧
      transition.command = .automaticPause ∧
      (transition.toSystemStatus = .paused ∨ transition.toSystemStatus = .killSwitched) ∧
      followsFaultOccurrence transition event ∧
      transition.reason = some
        ("faultId=" ++ event.id ++ "; reason=" ++ persistedFaultReason service event)

def hasMatchingFaultPauseTransition (order : OrderRecord) (event : OrderEventRecord) : Bool :=
  isMatchingFaultPauseTransition service
    (getTransitionById stores.repositories.operator event.id) order event

/-- The fault events of an order in the order in which their pauses are repaired. -/
def orderedFaultEvents (order : OrderRecord) : List OrderEventRecord :=
  (candidateProjectionFaultEvents (listOrderEvents service stores order.id) order.id).insertionSort
    fun left right => service.order.compare left.createdAt right.createdAt < 0 ∨
      (service.order.compare left.createdAt right.createdAt = 0 ∧
        service.order.compare left.id right.id ≤ 0)

/-- The first fault event without its pause. -/
def findIncompleteFaultPause (order : OrderRecord) : Except Thrown (Option OrderEventRecord) := do
  let events ← service.read .listOrderEvents (orderedFaultEvents service stores order)
  match events with
  | [] => .ok none
  | events =>
    service.read .getTransitionById
      (events.find? fun event => hasMatchingFaultPauseTransition service stores order event = false)

def noFillEventId (order : OrderRecord) : String := "candidate-evidence-no-fill:" ++ order.id

def hasTerminalNoFillMarker (order : OrderRecord) : Bool :=
  (listOrderEvents service stores order.id).any (·.id = noFillEventId order)

/-! ### Reading -/

/-- What a call does once it has read everything. -/
inductive Plan
  | report (outcome : CandidateEvidenceProjectionOutcome) (detail : String)
  | repair (event : OrderEventRecord)
  | recordNoFill (decision : VerifiedDecision)
  | advance (input : AdvanceCandidatePilotStateInput)

def isPreActivationOrder (order : OrderRecord) (deployment : PositionGuardPilotDeploymentRecord) :
    Bool :=
  hasVerifiedDeploymentActivation deployment &&
    match parseTimestamp order.requestedAt "order requestedAt" with
    | .ok requestedAt => deployment.activationEpochNs.any (requestedAt < ·)
    | .error _ => false

def isBeforeEvidence (record : StoredEvidence) (epoch : ℤ) (evidenceId : String) :
    Except Thrown Bool := do
  let recordEpoch ←
    parseTimestamp record.evidence.executedAt "persisted candidate evidence executedAt"
  .ok (recordEpoch < epoch ∨
    (recordEpoch = epoch ∧ before record.evidence.evidenceId evidenceId))

/-- `records.filter(...)` with a condition that may throw. -/
def earlierRecords (epoch : ℤ) (evidenceId : String) :
    List StoredEvidence → Except Thrown (List StoredEvidence)
  | [] => .ok []
  | record :: rest => do
    let earlier ← isBeforeEvidence record epoch evidenceId
    let kept ← earlierRecords epoch evidenceId rest
    .ok (if earlier then record :: kept else kept)

/-- The fields that are compared, everything but the id. -/
def assertMatchingExistingEvidence (existing expected : EvidenceSnapshot) : Except Thrown Unit :=
  throwFault (existing.executedAt ≠ expected.executedAt ∨ existing.action ≠ expected.action ∨
      existing.entryPath ≠ expected.entryPath ∨
      existing.terminalStatus ≠ expected.terminalStatus ∨
      existing.executedQuantity ≠ expected.executedQuantity ∨
      existing.grossQuoteValueKrw ≠ expected.grossQuoteValueKrw ∨
      existing.confirmedFeeKrw ≠ expected.confirmedFeeKrw ∨
      existing.remainingQuantity ≠ expected.remainingQuantity)
    "CONFLICTING_TERMINAL_EVIDENCE"
    "Persisted candidate evidence conflicts with terminal order evidence."

def evidenceIdOf (order : OrderRecord) : String := "terminal-order:" ++ order.id

def terminalStatusOf : OrderLifecycleStatus → TerminalStatus
  | .filled => .filled
  | _ => .canceled

/-- The record of a terminal order. -/
def evidenceOf (order : OrderRecord) (decision : VerifiedDecision)
    (aggregate : TerminalFillAggregate) (remainingQuantity : String) : EvidenceSnapshot where
  evidenceId := evidenceIdOf order
  executedAt := aggregate.executedAt
  action := decision.action
  entryPath := decision.entryPath
  terminalStatus := terminalStatusOf order.status
  executedQuantity := aggregate.executedQuantity
  grossQuoteValueKrw := aggregate.grossQuoteValueKrw
  confirmedFeeKrw := aggregate.confirmedFeeKrw
  remainingQuantity

/-- The aggregate of the fills is compared with the ledger. -/
def planEvidence (order : OrderRecord) (deployment : PositionGuardPilotDeploymentRecord)
    (decision : VerifiedDecision) (aggregate : TerminalFillAggregate) : Except Thrown Plan := do
  let exactState ← service.read .getExactState (stores.pilot.exactStates deployment.id)
  match exactState with
  | none => .error (.fault "CANDIDATE_STATE_LEGACY_APPROXIMATE"
      "Candidate state has no authoritative exact decimal representation.")
  | some exactState => do
    let records ←
      service.read .listEvidenceRecords (orderedEvidence (stores.pilot.records deployment.id))
    let evidenceEpoch ← parseTimestamp aggregate.executedAt "terminal fill executedAt"
    let earlier ← earlierRecords evidenceEpoch (evidenceIdOf order) records
    let stateBeforeEvidence ←
      call (projectExactCandidateState (earlier.map fun record => asEvidence record.evidence))
    let remainingQuantity ← call (deriveExactRemainingQuantity
      stateBeforeEvidence.currentEpisodeInventoryQuantity decision.action aggregate.executedQuantity)
    let evidence := evidenceOf order decision aggregate remainingQuantity
    let existing ←
      service.read .getEvidenceRecord (getEvidenceRecord stores deployment.id (evidenceIdOf order))
    match existing with
    | some existing => do
      assertMatchingExistingEvidence existing.evidence evidence
      .ok (.report .duplicate "Terminal order evidence was already projected.")
    | none => .ok (.advance ⟨deployment.id, exactState.stateVersion, asEvidence evidence⟩)

/-- The stored decisions, which are asked only for the decision that the order names. -/
def storedDecisions (order : OrderRecord) :
    Except Thrown (String → Option StrategyDecisionRecord) :=
  if truthy order.strategyDecisionId then
    service.read .getStrategyDecisionById (getStrategyDecisionById stores)
  else .ok (getStrategyDecisionById stores)

variable [DecidableEq Num]

/-- An order with a binding: its decision is verified and its fills are added up. -/
def planBound (order : OrderRecord) (deployment : PositionGuardPilotDeploymentRecord)
    (binding : CandidateExecutionBindingRecord) : Except Thrown Plan := do
  let decisions ← storedDecisions service stores order
  let decision ← getVerifiedDecision (parse service.numbers) decisions order deployment binding
  let fills ← service.read .listFills (listFills stores order.id)
  if fills.isEmpty then do
    let marked ← service.read .listOrderEvents (hasTerminalNoFillMarker service stores order)
    if marked then .ok (.report .duplicate "Terminal no-fill cancellation was already recorded.")
    else .ok (.recordNoFill decision)
  else do
    let aggregate ← aggregateTerminalFills order decision fills
    planEvidence service stores order deployment decision aggregate

/-- The deployment takes new evidence. -/
def isOpen (deployment : PositionGuardPilotDeploymentRecord) : Bool :=
  deployment.phase = .active ∨ deployment.phase = .draining

def planActive (order : OrderRecord) (deployment : PositionGuardPilotDeploymentRecord) :
    Except Thrown Plan := do
  throwFault (hasVerifiedDeploymentActivation deployment = false)
    "CANDIDATE_DEPLOYMENT_ACTIVATION_UNVERIFIED"
    "Active candidate deployment has no authoritative persisted activation instant."
  let binding ← service.read .getExecutionBindingForOrder (stores.bindingsByOrderId order.id)
  match binding with
  | some binding => planBound service stores order deployment binding
  | none =>
    if isPreActivationOrder order deployment then
      .ok (.report .notCandidateOrder
        "Terminal strategy order predates the persisted candidate deployment.")
    else .error (.fault "CANDIDATE_EXECUTION_BINDING_MISSING"
      "Terminal candidate order has no persisted deployment binding.")

def planProjection (order : OrderRecord) : Except Thrown Plan := do
  let incompleteFault ← findIncompleteFaultPause service stores order
  match incompleteFault with
  | some event => .ok (.repair event)
  | none => do
    let deployment ← service.read .getDeploymentForExchangeAccount
      (getDeploymentForExchangeAccount service stores order.exchangeAccountId)
    match deployment.filter fun deployment => isOpen deployment with
    | none => .ok (.report .noActiveDeployment "No active candidate deployment is persisted.")
    | some deployment => planActive service stores order deployment

/-! ### Writing -/

def validateClock (now : Clock) : Except String Unit :=
  throwIf (now.occurredAtEpochMs < 0 ∨ (maxSafeInteger : ℤ) < now.occurredAtEpochMs ∨
      service.dateParse now.occurredAt ≠ some now.occurredAtEpochMs)
    "Candidate evidence clock must provide matching persisted ISO and epoch-millisecond values."

/-- The pause that belongs to a fault event. -/
def faultPauseOf (order : OrderRecord) (event : OrderEventRecord) (reason : String) (now : Clock) :
    PersistCandidateProjectionFaultInput where
  orderId := order.id
  event
  faultPause :=
    { exchangeAccountId := order.exchangeAccountId, faultId := event.id, reason
      occurredAt := event.createdAt, transitionAt := some now.occurredAt }

def Stores.withRepositories (repositories : InMemoryRepositories) : Stores :=
  { stores with repositories }

def repairPersistedFaultPause (order : OrderRecord) (event : OrderEventRecord) (now : Clock) :
    Except Thrown (CandidateEvidenceProjectionResult × Stores) := do
  let reason := persistedFaultReason service event
  call (validateClock service now)
  let (_, repositories) ← call (stores.repositories.persistCandidateProjectionFault
    (faultPauseOf order event reason now))
  .ok (⟨.fault, order.id, "Repaired persisted candidate projection fault pause: " ++ reason⟩,
    stores.withRepositories repositories)

def noFillEvent (order : OrderRecord) (decision : VerifiedDecision) (now : Clock) :
    OrderEventRecord where
  id := noFillEventId order
  orderId := order.id
  eventType := "CANDIDATE_EVIDENCE_TERMINAL_NO_FILL"
  eventSource := .reconciliation
  payloadJson := stringify service.numbers (.object
    [("action", .text (actionText decision.action)),
      ("entryPath", .text (entryPathText decision.entryPath)),
      ("terminalStatus", .text order.status.text)])
  createdAt := now.occurredAt

/-- The marker is looked for a second time; nothing was written since the first. -/
def recordTerminalNoFill (order : OrderRecord) (decision : VerifiedDecision) (now : Clock) :
    Except Thrown (CandidateEvidenceProjectionResult × Stores) := do
  let marked ← service.read .listOrderEvents (hasTerminalNoFillMarker service stores order)
  if marked then
    .ok (⟨.duplicate, order.id, "Terminal no-fill cancellation was already recorded."⟩, stores)
  else do
    call (validateClock service now)
    service.read .appendOrderEvent ()
    .ok (⟨.terminalNoFill, order.id,
        "Terminal no-fill cancellation was recorded without candidate state advancement."⟩,
      stores.withRepositories { stores.repositories with
        orderEvents := stores.repositories.orderEvents ++ [noFillEvent service order decision now] })

/-- `advanceStateWithEvidence` may throw after it has stored the evidence. -/
def advance (order : OrderRecord) (input : AdvanceCandidatePilotStateInput) :
    Except Thrown CandidateEvidenceProjectionResult × Stores :=
  match service.failure .advanceStateWithEvidence with
  | some message => (.error (.error message), stores)
  | none =>
    let (answer, pilot) := advanceStateWithEvidence service.sha256Hex stores.pilot input
    (match answer with
      | .error message => .error (.error message)
      | .ok result => .ok (if result.duplicate then
          ⟨.duplicate, order.id, "Terminal order evidence was already projected."⟩
        else ⟨.advanced, order.id, "Terminal order evidence was projected atomically."⟩),
      { stores with pilot })

/-- A call that throws writes nothing. -/
def orUnchanged {α : Type} (x : Except Thrown (α × Stores)) : Except Thrown α × Stores :=
  match x with
  | .ok (a, stores') => (.ok a, stores')
  | .error thrown => (.error thrown, stores)

/-- The block that is tried. -/
def project (order : OrderRecord) (now : Clock) :
    Except Thrown CandidateEvidenceProjectionResult × Stores :=
  match planProjection service stores order with
  | .error thrown => (.error thrown, stores)
  | .ok (.report outcome detail) => (.ok ⟨outcome, order.id, detail⟩, stores)
  | .ok (.repair event) =>
    orUnchanged stores (repairPersistedFaultPause service stores order event now)
  | .ok (.recordNoFill decision) =>
    orUnchanged stores (recordTerminalNoFill service stores order decision now)
  | .ok (.advance input) => advance service stores order input

def faultEventId (order : OrderRecord) (code : String) : String :=
  "candidate-evidence-fault:" ++ order.id ++ ":" ++ code

def faultEvent (order : OrderRecord) (code message : String) (now : Clock) : OrderEventRecord where
  id := faultEventId order code
  orderId := order.id
  eventType := "CANDIDATE_EVIDENCE_PROJECTION_FAILED"
  eventSource := .reconciliation
  payloadJson := stringify service.numbers (.object [("code", .text code), ("message", .text message)])
  createdAt := now.occurredAt

/-- The event that a fault is stored under: the one that is there, or a new one. -/
def storedFaultEvent (order : OrderRecord) (code message : String) (now : Clock) :
    OrderEventRecord :=
  ((listOrderEvents service stores order.id).find? (·.id = faultEventId order code)).getD
    (faultEvent service order code message now)

/-- `fault`; what it throws ends the call. -/
def fault (order : OrderRecord) (code message : String) (now : Clock) :
    Except Thrown (CandidateEvidenceProjectionResult × Stores) := do
  call (validateClock service now)
  let event ←
    service.read .listOrderEvents (storedFaultEvent service stores order code message now)
  let (_, repositories) ← call (stores.repositories.persistCandidateProjectionFault
    (faultPauseOf order event (code ++ ": " ++ message) now))
  .ok (⟨.fault, order.id, code ++ ": " ++ message⟩, stores.withRepositories repositories)

/-- An order that the projection is about. -/
def isCandidateOrder (order : OrderRecord) : Bool :=
  order.origin = .strategy ∧ order.market = .krwBtc

def isTerminal (order : OrderRecord) : Bool := order.status = .filled ∨ order.status = .canceled

def projectOrFault (order : OrderRecord) (now : Clock) :
    Except Thrown CandidateEvidenceProjectionResult × Stores :=
  match project service stores order now with
  | (.ok result, stores') => (.ok result, stores')
  | (.error thrown, stores') =>
    orUnchanged stores'
      (fault service stores' order thrown.recorded.1 thrown.recorded.2 now)

def processTerminalOrder (orderId : String) (now : Clock) :
    Except Thrown CandidateEvidenceProjectionResult × Stores :=
  match findOrderByReference service stores orderId with
  | none => (.ok ⟨.notCandidateOrder, orderId,
      "Order is not persisted for the candidate account."⟩, stores)
  | some order =>
    if isCandidateOrder order = false then
      (.ok ⟨.notCandidateOrder, orderId, "Order is outside candidate strategy provenance."⟩, stores)
    else if isTerminal order = false then
      (.ok ⟨.notTerminal, orderId,
        "Order lifecycle " ++ order.status.text ++ " is not terminal."⟩, stores)
    else projectOrFault service stores order now

/-! ### The sweep -/

/-- An order without fault events, whose deployment is open. -/
def classifyOpen (order : OrderRecord) (deployment : PositionGuardPilotDeploymentRecord) :
    Except Thrown TerminalCandidateSweepDisposition :=
  if service.failure .getExecutionBindingForOrder ≠ none then .ok .eligible
  else if hasVerifiedDeploymentActivation deployment = false then .ok .eligible
  else
    match stores.bindingsByOrderId order.id with
    | none => .ok (if isPreActivationOrder order deployment then .preActivation else .eligible)
    | some binding =>
      if binding.deploymentId ≠ deployment.id then .ok .eligible
      else do
        let existing ← service.read .getEvidenceRecord
          (getEvidenceRecord stores deployment.id (evidenceIdOf order))
        .ok (if existing.isSome then .disposed else .eligible)

/-- The order is marked as one without fills, and has none. -/
def isRecordedNoFill (order : OrderRecord) : Except Thrown Bool :=
  if hasTerminalNoFillMarker service stores order then
    service.read .listFills (listFills stores order.id).isEmpty
  else .ok false

/-- An order without fault events. -/
def classifyUnfaulted (order : OrderRecord) : Except Thrown TerminalCandidateSweepDisposition := do
  let unfilled ← isRecordedNoFill service stores order
  if unfilled then .ok .disposed
  else if service.failure .getDeploymentForExchangeAccount ≠ none then .ok .eligible
  else
    match (getDeploymentForExchangeAccount service stores order.exchangeAccountId).filter
        fun deployment => isOpen deployment with
    | none => .ok .outsideScope
    | some deployment => classifyOpen service stores order deployment

def classifyOrder (order : OrderRecord) : Except Thrown TerminalCandidateSweepDisposition := do
  let events ← service.read .listOrderEvents
    (candidateProjectionFaultEvents (listOrderEvents service stores order.id) order.id)
  if events.isEmpty then classifyUnfaulted service stores order
  else do
    let incomplete ← service.read .getTransitionById (events.any fun event =>
      hasMatchingFaultPauseTransition service stores order event = false)
    .ok (if incomplete then .eligible else .disposed)

def classifyTerminalOrderForSweep (orderId : String) :
    Except Thrown TerminalCandidateSweepDisposition :=
  match findOrderByReference service stores orderId with
  | none => .ok .outsideScope
  | some order =>
    if isCandidateOrder order = false ∨ isTerminal order = false then .ok .outsideScope
    else classifyOrder service stores order

end Service

end AutoTrade.Pilot.TerminalProjection
