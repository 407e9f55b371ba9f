import AutoTrade.Operator.FaultWriters
import AutoTrade.Operator.InMemoryStore
import AutoTrade.Pilot.InMemoryRepository

/-! # The calls that change the phase of a deployment

Activation, the two rollbacks and the two fault pauses of `InMemoryCandidatePilotRepository`, over the
in-memory operator-state store. Activation and the body of a rollback run without an await. A fault
pause awaits the operator store twice: it reads the deployment, its state and the records of the fault
id, then the execution state, and then it writes (`readFault`, `InMemoryOperatorStateStore.state`,
`writeFault`).

`sha256Hex` is the digest of a text, `parseKind` and `parseProvenance` stand for `JSON.parse`: the kind
of a value, and the fields of the provenance of an intent fault, where a field of another type or a
missing or additional one is an error. -/

namespace AutoTrade.Pilot.PhaseCalls

open Lib Lib.Text Lib.Result Domain.Types
open Domain.PilotTypes Domain.Timestamp
open Strategy.CandidateState Execution.EvidenceDecimals
open Execution.CandidateBinding
open Operator.State Operator.FaultWriters
open Operator.InMemoryStore (InMemoryOperatorStateStore getTransitionById
  applyFaultPauseAtomically)
open Pilot.InMemoryRepository

/-- The repository with the operator store it pauses. -/
structure PilotStores where
  repo : PilotRepository
  operator : InMemoryOperatorStateStore

/-- `deployments.set` and one more audit event. -/
def PilotRepository.storePhase (repo : PilotRepository)
    (deployment : PositionGuardPilotDeploymentRecord)
    (event : PositionGuardPilotAuditEventRecord) : PilotRepository :=
  { repo with
    deployments := Table.upsert PositionGuardPilotDeploymentRecord.id deployment repo.deployments
    auditEvents := Function.update repo.auditEvents deployment.id
      (some (repo.audits deployment.id ++ [event])) }

/-! ### Activation -/

structure ActivateCandidatePilotDeploymentInput where
  deploymentId : String
  expectedPhase : PositionGuardPilotPhase
  expectedUpdatedAt : String
  activationAt : String
  activationEpochNs : ℤ

def validateActivationInput (input : ActivateCandidatePilotDeploymentInput)
    (deployment : PositionGuardPilotDeploymentRecord) : Except String Unit := do
  let activation ←
    parsePositionGuardCandidateTimestamp input.activationAt "deployment activationAt"
  throwIf (activation < 0 ∨ activation ≠ input.activationEpochNs)
    "Candidate deployment activation epoch does not match its timestamp."
  let createdAt ←
    parsePositionGuardCandidateTimestamp deployment.createdAt "deployment createdAt"
  throwIf (activation < createdAt)
    "Candidate deployment activation cannot precede persisted deployment chronology."
  let updatedAt ←
    parsePositionGuardCandidateTimestamp deployment.updatedAt "deployment updatedAt"
  throwIf (activation < updatedAt)
    "Candidate deployment activation cannot precede persisted deployment chronology."

def activationAuditEvent (input : ActivateCandidatePilotDeploymentInput)
    (deployment : PositionGuardPilotDeploymentRecord) (stateVersion : ℕ) :
    PositionGuardPilotAuditEventRecord where
  id := deployment.id ++ ":activation:" ++ toString input.activationEpochNs
  deploymentId := deployment.id
  eventType := .phaseTransition
  fromPhase := some deployment.phase
  toPhase := some .active
  stateVersion
  payloadJson := jsonObject [("activationAt", input.activationAt),
    ("activationEpochNs", toString input.activationEpochNs)]
  createdAt := input.activationAt

def activateDeployment (repo : PilotRepository) (input : ActivateCandidatePilotDeploymentInput) :
    Except String (Option PositionGuardPilotDeploymentRecord) × PilotRepository :=
  match repo.deployment input.deploymentId with
  | none => (.ok none, repo)
  | some deployment =>
    if deployment.phase ≠ input.expectedPhase ∨ deployment.updatedAt ≠ input.expectedUpdatedAt ∨
        deployment.activationAt ≠ none ∨ deployment.activationEpochNs ≠ none then (.ok none, repo)
    else
      match validateActivationInput input deployment with
      | .error e => (.error e, repo)
      | .ok () =>
        let activated := { deployment with
          phase := .active, activationAt := some input.activationAt
          activationEpochNs := some input.activationEpochNs, updatedAt := input.activationAt }
        let stateVersion := ((repo.exactStates deployment.id).map (·.stateVersion)).getD 0
        (.ok (some activated),
          PilotRepository.storePhase repo activated
            (activationAuditEvent input deployment stateVersion))

/-! ### Rollback -/

structure CandidatePilotRollbackOperatorState where
  id : String
  exchangeAccountId : String
  systemStatus : SystemStatus
  updatedAt : String

structure CandidatePilotRollbackInput where
  deploymentId : String
  expectedPhase : PositionGuardPilotPhase
  expectedUpdatedAt : String
  expectedStateVersion : ℤ
  expectedOperatorState : CandidatePilotRollbackOperatorState
  transitionAt : String
  transitionEpochNs : ℤ

def validateCandidatePilotRollbackOperatorState (value : CandidatePilotRollbackOperatorState) :
    Except String Unit := do
  requireNonEmpty value.id "candidate pilot rollback execution state id"
  requireNonEmpty value.exchangeAccountId
    "candidate pilot rollback execution state exchangeAccountId"
  throwIf (¬ Stopped value.systemStatus)
    "Candidate pilot rollback expected operator state must be PAUSED or KILL_SWITCHED."
  let _ ← parsePositionGuardCandidateTimestamp value.updatedAt
    "candidate pilot rollback expected operator state updatedAt"
  .ok ()

def validateCandidatePilotRollbackInput (input : CandidatePilotRollbackInput) :
    Except String Unit := do
  requireNonEmpty input.deploymentId "candidate pilot rollback deploymentId"
  let _ ← parsePositionGuardCandidateTimestamp input.expectedUpdatedAt
    "candidate pilot rollback expectedUpdatedAt"
  throwIf (input.expectedStateVersion < 0 ∨ maxSafeInteger < input.expectedStateVersion)
    "Candidate pilot rollback expected state version must be a non-negative safe integer."
  validateCandidatePilotRollbackOperatorState input.expectedOperatorState
  let transitionEpochNs ← parsePositionGuardCandidateTimestamp input.transitionAt
    "candidate pilot rollback transitionAt"
  throwIf (transitionEpochNs < 0 ∨ transitionEpochNs ≠ input.transitionEpochNs)
    "Candidate pilot rollback transition epoch does not match its timestamp."

def matchesCandidatePilotRollbackOperatorState (current : ExecutionStateRecord)
    (expected : CandidatePilotRollbackOperatorState) : Bool :=
  current.id = expected.id ∧ current.exchangeAccountId = expected.exchangeAccountId ∧
    current.systemStatus = expected.systemStatus ∧ current.updatedAt = expected.updatedAt ∧
    Stopped current.systemStatus

def validateCandidatePilotRollbackChronology (transitionEpochNs : ℤ)
    (deployment : PositionGuardPilotDeploymentRecord) (state : ExactCandidateState) :
    Except String Unit := do
  let createdAt ←
    parsePositionGuardCandidateTimestamp deployment.createdAt "candidate deployment createdAt"
  let updatedAt ←
    parsePositionGuardCandidateTimestamp deployment.updatedAt "candidate deployment updatedAt"
  throwIf (deployment.phase = .draining ∧ transitionEpochNs ≤ updatedAt)
    ("Candidate pilot rollback completion from DRAINING must occur strictly after the prior " ++
      "transition.")
  throwIf (transitionEpochNs < createdAt ∨ transitionEpochNs < updatedAt)
    "Candidate pilot rollback cannot precede persisted deployment chronology."
  match state.lastEvidenceAt with
  | none => .ok ()
  | some text => do
    let lastEvidenceAt ←
      parsePositionGuardCandidateTimestamp text "candidate state lastEvidenceAt"
    throwIf (transitionEpochNs < lastEvidenceAt)
      "Candidate pilot rollback cannot precede persisted candidate evidence chronology."

def isExactCandidateStateRollbackFlat (state : ExactCandidateState) : Bool :=
  state.currentEpisodeAddCount = 0 ∧ state.currentEpisodeCostBasisKrw = "0" ∧
    state.currentEpisodeInventoryQuantity = "0" ∧ state.currentEpisodeRealizedPnlKrw = "0"

inductive RollbackEventType
  | started
  | completed
  deriving DecidableEq

def RollbackEventType.eventType : RollbackEventType → PositionGuardPilotAuditEventType
  | started => .rollbackStarted
  | completed => .rollbackCompleted

/-- `eventType.toLowerCase()`. -/
def RollbackEventType.lowerText : RollbackEventType → String
  | started => "rollback_started"
  | completed => "rollback_completed"

/-- The phase that a rollback moves to. -/
def RollbackEventType.toPhase : RollbackEventType → PositionGuardPilotPhase
  | started => .draining
  | completed => .disabled

def buildCandidatePilotRollbackAuditEvent (rollback : CandidatePilotRollbackInput)
    (eventType : RollbackEventType) (fromPhase toPhase : PositionGuardPilotPhase)
    (stateVersion : ℕ) : PositionGuardPilotAuditEventRecord where
  id := rollback.deploymentId ++ ":" ++ eventType.lowerText ++ ":" ++
    toString rollback.transitionEpochNs
  deploymentId := rollback.deploymentId
  eventType := eventType.eventType
  fromPhase := some fromPhase
  toPhase := some toPhase
  stateVersion
  payloadJson := jsonObject [("transitionAt", rollback.transitionAt)]
  createdAt := rollback.transitionAt

def isRollbackCompletablePhase : PositionGuardPilotPhase → Bool
  | .pendingFlat | .active | .draining => true
  | .disabled | .pausedFault => false

/-- The phase a rollback may leave: only an active deployment starts to drain. -/
def RollbackEventType.admits (eventType : RollbackEventType) (expected : PositionGuardPilotPhase) :
    Bool :=
  match eventType with
  | started => expected = .active
  | completed => isRollbackCompletablePhase expected

/-- The deployment and the state that a rollback moves, if they are the expected ones. -/
def rollbackTarget (repo : PilotRepository) (eventType : RollbackEventType)
    (rollback : CandidatePilotRollbackInput) :
    Option (PositionGuardPilotDeploymentRecord × ExactCandidateState) :=
  match repo.deployment rollback.deploymentId, repo.exactStates rollback.deploymentId with
  | some deployment, some state =>
    if eventType.admits rollback.expectedPhase ∧
        deployment.exchangeAccountId = rollback.expectedOperatorState.exchangeAccountId ∧
        deployment.phase = rollback.expectedPhase ∧
        deployment.updatedAt = rollback.expectedUpdatedAt ∧
        (state.stateVersion : ℤ) = rollback.expectedStateVersion then some (deployment, state)
    else none
  | _, _ => none

def checkRollback (eventType : RollbackEventType) (rollback : CandidatePilotRollbackInput)
    (deployment : PositionGuardPilotDeploymentRecord) (state : ExactCandidateState) :
    Except String Unit := do
  validateCandidatePilotRollbackChronology rollback.transitionEpochNs deployment state
  throwIf (eventType = .completed ∧ isExactCandidateStateRollbackFlat state = false)
    "Candidate pilot rollback completion requires an exact flat current episode state."

/-- The operation of a rollback under its authority. The deployment is validated after it is
stored. -/
def applyRollback (repo : PilotRepository) (eventType : RollbackEventType)
    (rollback : CandidatePilotRollbackInput) :
    Except String (Option PositionGuardPilotDeploymentRecord) × PilotRepository :=
  match rollbackTarget repo eventType rollback with
  | none => (.ok none, repo)
  | some (deployment, state) =>
    match checkRollback eventType rollback deployment state with
    | .error e => (.error e, repo)
    | .ok () =>
      let next := { deployment with
        phase := eventType.toPhase, updatedAt := rollback.transitionAt }
      let audit := buildCandidatePilotRollbackAuditEvent rollback eventType deployment.phase
        next.phase state.stateVersion
      ((validateCandidatePilotDeployment next).map fun _ => some next,
        PilotRepository.storePhase repo next audit)

/-- A rollback under the authority of `runWithCandidatePilotRollbackAuthority`. -/
def rollbackWithAuthority (stores : PilotStores) (eventType : RollbackEventType)
    (rollback : CandidatePilotRollbackInput) :
    Except String (Option PositionGuardPilotDeploymentRecord) × PilotStores :=
  match validateCandidatePilotRollbackInput rollback with
  | .error e => (.error e, stores)
  | .ok () =>
    if matchesCandidatePilotRollbackOperatorState stores.operator.state
        rollback.expectedOperatorState then
      let (answer, repo) := applyRollback stores.repo eventType rollback
      (answer, { stores with repo })
    else (.ok none, stores)

def startRollback (stores : PilotStores) (rollback : CandidatePilotRollbackInput) :
    Except String (Option PositionGuardPilotDeploymentRecord) × PilotStores :=
  rollbackWithAuthority stores .started rollback

def completeRollback (stores : PilotStores) (rollback : CandidatePilotRollbackInput) :
    Except String (Option PositionGuardPilotDeploymentRecord) × PilotStores :=
  rollbackWithAuthority stores .completed rollback

/-! ### Intent faults -/

structure PauseCandidateIntentFaultInput extends PauseCandidatePilotForRecoveryFaultInput where
  stage : CandidateIntentFaultStage
  strategyDecisionId : String
  orderId : String
  bindingId : String

/-- The fields of `provenanceJson`. -/
structure CandidateIntentFaultProvenance where
  schemaVersion : String
  stage : String
  deploymentId : String
  exchangeAccountId : String
  strategyDecisionId : String
  orderId : String
  bindingId : String
  market : String
  action : String
  side : String
  ordType : String
  price : Option PositionGuardCandidateDecimal
  volume : Option PositionGuardCandidateDecimal
  expectedPhase : String
  expectedDeploymentUpdatedAt : String
  expectedStateVersion : ℤ

section Faults

variable (sha256Hex : String → String) (parseKind : String → Option JsonKind)
  (parseProvenance : String → Except String CandidateIntentFaultProvenance)

/-- A field of the provenance that is a decimal or `null`. -/
def validateOptionalDecimal (value : Option PositionGuardCandidateDecimal) (label : String) :
    Except String Unit :=
  match value with
  | none => .ok ()
  | some decimal => (canonicalNonNegativeDecimal decimal label).map fun _ => ()

def validateIntentFaultProvenance (input : PauseCandidateIntentFaultInput)
    (provenance : CandidateIntentFaultProvenance) : Except String Unit := do
  throwIf (provenance.schemaVersion ≠ "CANDIDATE_INTENT_FAULT_V1")
    "Candidate intent fault provenance schema is invalid."
  throwIf (provenance.stage ∉ ["DUPLICATE", "DERIVATION", "PERSISTENCE", "FINAL_REVALIDATION"])
    "Candidate intent fault provenance stage is invalid."
  throwIf (provenance.stage ≠ input.stage.text ∨ provenance.deploymentId ≠ input.deploymentId ∨
      provenance.exchangeAccountId ≠ input.exchangeAccountId ∨
      provenance.strategyDecisionId ≠ input.strategyDecisionId ∨
      provenance.orderId ≠ input.orderId ∨ provenance.bindingId ≠ input.bindingId)
    "Candidate intent fault provenance identity does not match the request."
  throwIf (provenance.market ≠ "KRW-BTC" ∨ provenance.action ∉ ["ENTER", "ADD", "REDUCE", "EXIT"] ∨
      provenance.side ∉ ["bid", "ask"] ∨
      provenance.ordType ∉ ["limit", "price", "market", "best"] ∨
      provenance.expectedPhase ∉ ["ACTIVE", "DRAINING"] ∨ provenance.expectedStateVersion < 0 ∨
      maxSafeInteger < provenance.expectedStateVersion)
    "Candidate intent fault provenance material is invalid."
  let _ ← parsePositionGuardCandidateTimestamp provenance.expectedDeploymentUpdatedAt
    "candidate intent fault expectedDeploymentUpdatedAt"
  validateOptionalDecimal provenance.price "candidate intent fault price"
  validateOptionalDecimal provenance.volume "candidate intent fault volume"

def validateCandidateIntentFaultInput (input : PauseCandidateIntentFaultInput) :
    Except String Unit := do
  requireNonEmpty input.deploymentId "candidate intent fault deploymentId"
  requireNonEmpty input.exchangeAccountId "candidate intent fault exchangeAccountId"
  requireNonEmpty input.strategyDecisionId "candidate intent fault strategyDecisionId"
  requireNonEmpty input.orderId "candidate intent fault orderId"
  requireNonEmpty input.bindingId "candidate intent fault bindingId"
  requireNonEmpty input.faultId "candidate intent fault faultId"
  throwIf (input.reasonCode ≠
      if input.stage = .persistence then "ACTIVATION_CAS_CONFLICT" else "IDENTITY_MISMATCH")
    "Candidate intent fault reason does not match its stage."
  let _ ← parsePositionGuardCandidateTimestamp input.occurredAt "candidate intent fault occurredAt"
  let provenance ← parseProvenance input.provenanceJson
  validateIntentFaultProvenance input provenance
  throwIf (input.faultId ≠ "candidate-intent:" ++ sha256Hex input.provenanceJson)
    "Candidate intent fault ID does not match the deterministic provenance hash."

def formatCandidatePilotUtcNanoseconds (epochNanoseconds : ℤ) : Except String String :=
  if epochNanoseconds < 0 then
    .error "Candidate intent fault occurrence cannot precede the Unix epoch."
  else
    let wholeSeconds := (epochNanoseconds / 1000000000).toNat
    let fractionalNanoseconds := (epochNanoseconds % 1000000000).toNat
    if 8640000000000000 < wholeSeconds * 1000 then
      .error "Candidate intent fault occurrence exceeds the supported UTC range."
    else if 9999 < yearOfDay (dayOfSeconds wholeSeconds) then
      .error "Candidate intent fault occurrence exceeds the supported canonical UTC range."
    else
      .ok (String.ofList (isoText wholeSeconds ('.' :: (padStart 9 fractionalNanoseconds ++ ['Z']))))

/-- The latest of the persisted timestamps. -/
def latestPersistedEpoch (persistedChronology : List String) : Except String (Option ℤ) :=
  persistedChronology.foldlM (fun latest timestamp => do
    let epoch ← parsePositionGuardCandidateTimestamp timestamp
      "candidate intent fault persisted chronology"
    .ok (some (latest.elim epoch (max epoch)))) none

/-- The occurrence of `resolveCandidateIntentFaultOccurrence`: the given one, or one nanosecond after
the persisted chronology. -/
def resolveCandidateIntentFaultOccurrence (input : PauseCandidateIntentFaultInput)
    (persistedChronology : List String) : Except String String := do
  validateCandidateIntentFaultInput sha256Hex parseProvenance input
  let attempted ← parsePositionGuardCandidateTimestamp input.occurredAt
    "candidate intent fault attempted occurredAt"
  let latest ← latestPersistedEpoch persistedChronology
  formatCandidatePilotUtcNanoseconds
    (latest.elim attempted fun epoch => if attempted ≤ epoch then epoch + 1 else attempted)

/-! ### Fault pauses -/

structure PauseCandidatePilotForRecoveryFaultResult where
  deployment : PositionGuardPilotDeploymentRecord
  executionState : ExecutionStateRecord
  auditEvent : PositionGuardPilotAuditEventRecord
  duplicate : Bool
  deriving DecidableEq

/-- A validated fault pause; `intent` is the input of an intent fault. -/
structure FaultRequest where
  fault : PauseCandidatePilotForRecoveryFaultInput
  intent : Option PauseCandidateIntentFaultInput

/-- What a fault pause reads before it first awaits the operator store. -/
structure FaultReads where
  deployment : PositionGuardPilotDeploymentRecord
  stateVersion : ℕ
  existingAudit : Option PositionGuardPilotAuditEventRecord
  existingTransition : Option ExecutionStateTransitionRecord
  deriving DecidableEq

def readFault (stores : PilotStores) (request : FaultRequest) : Except String FaultReads :=
  match stores.repo.deployment request.fault.deploymentId,
    stores.repo.exactStates request.fault.deploymentId with
  | some deployment, some state =>
    if deployment.exchangeAccountId ≠ request.fault.exchangeAccountId then
      .error "Candidate recovery fault deployment provenance does not match persisted state."
    else
      .ok ⟨deployment, state.stateVersion,
        (stores.repo.audits request.fault.deploymentId).find? fun event =>
          event.id = request.fault.faultId,
        getTransitionById stores.operator request.fault.faultId⟩
  | _, _ => .error "Candidate recovery fault deployment provenance does not match persisted state."

/-- The newest audit event; the first of two with one instant. -/
def latestAudit (events : List PositionGuardPilotAuditEventRecord) :
    Except String (Option PositionGuardPilotAuditEventRecord) :=
  events.foldlM (fun latest event =>
    match latest with
    | none => .ok (some event)
    | some best => do
      let epoch ← parsePositionGuardCandidateTimestamp event.createdAt "candidate audit createdAt"
      let bestEpoch ← parsePositionGuardCandidateTimestamp best.createdAt "candidate audit createdAt"
      .ok (some (if bestEpoch < epoch then event else best))) none

/-- `effectiveInput.occurredAt`. -/
def effectiveOccurredAt (request : FaultRequest) (reads : FaultReads)
    (latest : Option PositionGuardPilotAuditEventRecord) : Except String String :=
  match request.intent, reads.existingAudit with
  | none, _ => .ok request.fault.occurredAt
  | some _, some audit => .ok audit.createdAt
  | some intent, none =>
    resolveCandidateIntentFaultOccurrence sha256Hex parseProvenance intent
      (reads.deployment.updatedAt :: (latest.map (·.createdAt)).toList)

/-- The answer of a fault pause whose fault is recorded. -/
def replayFault (reads : FaultReads) (fault : PauseCandidatePilotForRecoveryFaultInput)
    (executionState : ExecutionStateRecord) :
    Except String PauseCandidatePilotForRecoveryFaultResult :=
  match reads.existingAudit, reads.existingTransition with
  | some audit, some transition =>
    if reads.deployment.phase ≠ .pausedFault ∨ reads.deployment.updatedAt ≠ fault.occurredAt ∨
        ¬ Stopped executionState.systemStatus then
      .error ("Conflicting partial candidate recovery fault " ++ fault.faultId ++ ".")
    else
      match audit.fromPhase with
      | none => .error ("Conflicting duplicate candidate recovery fault " ++ fault.faultId ++ ".")
      | some fromPhase =>
        if isFaultPausablePhase fromPhase = false ∨
            audit ≠ buildCandidatePilotRecoveryFaultAuditEvent fault fromPhase reads.stateVersion ∨
            transition.command ≠ .automaticPause ∨
            transition.exchangeAccountId ≠ fault.exchangeAccountId ∨
            transition.reason ≠ some ("faultId=" ++ fault.faultId ++ "; reason=" ++
              candidatePilotRecoveryFaultReason fault) then
          .error ("Conflicting duplicate candidate recovery fault " ++ fault.faultId ++ ".")
        else .ok ⟨reads.deployment, executionState, audit, true⟩
  | _, _ => .error ("Conflicting partial candidate recovery fault " ++ fault.faultId ++ ".")

/-- The pause of the operator store and of the deployment that was read. -/
def applyFault (stores : PilotStores) (reads : FaultReads)
    (fault : PauseCandidatePilotForRecoveryFaultInput) (latestAuditAt : Option String)
    (transitionAt : String) :
    Except String (PauseCandidatePilotForRecoveryFaultResult × PilotStores) := do
  throwIf (isFaultPausablePhase reads.deployment.phase = false)
    ("Candidate recovery fault cannot pause phase " ++ reads.deployment.phase.text ++ ".")
  validateCandidatePilotRecoveryFaultChronology fault.occurredAt reads.deployment latestAuditAt
  let auditEvent :=
    buildCandidatePilotRecoveryFaultAuditEvent fault reads.deployment.phase reads.stateVersion
  let operator ← applyFaultPauseAtomically stores.operator ⟨fault.exchangeAccountId, fault.faultId,
    candidatePilotRecoveryFaultReason fault, fault.occurredAt, some transitionAt⟩
  let pausedDeployment := { reads.deployment with
    phase := .pausedFault, updatedAt := fault.occurredAt }
  .ok (⟨pausedDeployment, operator.state, auditEvent, false⟩,
    ⟨PilotRepository.storePhase stores.repo pausedDeployment auditEvent, operator⟩)

/-- The rest of a fault pause, from the execution state on. The newest audit event is the stored one,
the deployment the one that was read before. -/
def writeFault (stores : PilotStores) (request : FaultRequest) (reads : FaultReads)
    (executionState : ExecutionStateRecord) :
    Except String (PauseCandidatePilotForRecoveryFaultResult × PilotStores) := do
  let latest ← latestAudit (stores.repo.audits request.fault.deploymentId)
  let occurredAt ← effectiveOccurredAt sha256Hex parseProvenance request reads latest
  let fault := { request.fault with occurredAt }
  let transitionAt ← deriveFaultPauseTransitionAt occurredAt executionState.updatedAt
  if reads.existingAudit = none ∧ reads.existingTransition = none then
    applyFault stores reads fault (latest.map (·.createdAt)) transitionAt
  else do
    let result ← replayFault reads fault executionState
    .ok (result, stores)

end Faults

end AutoTrade.Pilot.PhaseCalls
