import AutoTrade.Lib.Run
import AutoTrade.Execution.CandidateBinding

/-! # The in-memory repository of the pilot

`InMemoryCandidatePilotRepository`: deployments, their exact states, their evidence and their audit
events, each a map by deployment id. A deployment is stored with an empty state and advances by
execution evidence: the whole history with the new record is projected again, under a check of the
version the caller expects.

The material version of a record has a single value here and is left out. `sha256Hex` is a parameter:
the digest of a text as hexadecimal digits. -/

namespace AutoTrade.Pilot.InMemoryRepository

open Lib Lib.Text Lib.Result Domain.PilotTypes
open Domain.Timestamp Strategy.Core Strategy.CandidateState
open Execution.EvidenceDecimals Execution.CandidateBinding

/-! ### Evidence material -/

def actionText : ExecutedAction → String
  | .enter => "ENTER"
  | .add => "ADD"
  | .reduce => "REDUCE"
  | .exit => "EXIT"

def terminalStatusText : TerminalStatus → String
  | .filled => "FILLED"
  | .canceled => "CANCELED"

/-- Evidence whose amounts are canonical texts. -/
abbrev EvidenceSnapshot := ExecutionEvidence String

/-- A snapshot as evidence. -/
def asEvidence (snapshot : EvidenceSnapshot) : PositionGuardCandidateExecutionEvidence where
  evidenceId := snapshot.evidenceId
  executedAt := snapshot.executedAt
  action := snapshot.action
  entryPath := snapshot.entryPath
  terminalStatus := snapshot.terminalStatus
  executedQuantity := .text snapshot.executedQuantity
  grossQuoteValueKrw := .text snapshot.grossQuoteValueKrw
  confirmedFeeKrw := .text snapshot.confirmedFeeKrw
  remainingQuantity := .text snapshot.remainingQuantity

structure EvidenceMaterial where
  hash : String
  epochNanoseconds : ℤ
  evidence : EvidenceSnapshot

/-- The snapshot that `candidateEvidenceMaterial` takes. -/
def evidenceSnapshot (evidence : PositionGuardCandidateExecutionEvidence) :
    Except String EvidenceSnapshot := do
  let executedQuantity ← canonicalNonNegativeDecimal evidence.executedQuantity "executedQuantity"
  let grossQuoteValueKrw ←
    canonicalNonNegativeDecimal evidence.grossQuoteValueKrw "grossQuoteValueKrw"
  let confirmedFeeKrw ← canonicalNonNegativeDecimal evidence.confirmedFeeKrw "confirmedFeeKrw"
  let remainingQuantity ← canonicalNonNegativeDecimal evidence.remainingQuantity "remainingQuantity"
  .ok { evidenceId := evidence.evidenceId, executedAt := evidence.executedAt
        action := evidence.action, entryPath := evidence.entryPath
        terminalStatus := evidence.terminalStatus, executedQuantity, grossQuoteValueKrw
        confirmedFeeKrw, remainingQuantity }

/-- The amounts of a snapshot: a record without a fill is canceled and has no value, a fill has a
value. -/
def validateSnapshotAmounts (snapshot : EvidenceSnapshot) : Except String Unit :=
  if snapshot.executedQuantity = "0" then
    throwIf (snapshot.terminalStatus ≠ .canceled ∨ snapshot.grossQuoteValueKrw ≠ "0" ∨
        snapshot.confirmedFeeKrw ≠ "0")
      "Candidate no-fill evidence must be canceled with zero value and fee."
  else
    throwIf (snapshot.grossQuoteValueKrw = "0")
      "Candidate filled evidence must have a finite positive quote value."

def evidenceMaterialHash (sha256Hex : String → String) (deploymentId : String)
    (snapshot : EvidenceSnapshot) (epochNanoseconds : ℤ) : String :=
  sha256Hex (jsonRecord [
    ("schemaVersion", "2"),
    ("materialVersion", jsonString "EXACT_V2"),
    ("deploymentId", jsonString deploymentId),
    ("evidenceId", jsonString snapshot.evidenceId),
    ("executedAt", jsonString snapshot.executedAt),
    ("executedAtEpochNs", jsonString (toString epochNanoseconds)),
    ("action", jsonString (actionText snapshot.action)),
    ("entryPath", jsonString (entryPathText snapshot.entryPath)),
    ("terminalStatus", jsonString (terminalStatusText snapshot.terminalStatus)),
    ("executedQuantity", jsonString snapshot.executedQuantity),
    ("grossQuoteValueKrw", jsonString snapshot.grossQuoteValueKrw),
    ("confirmedFeeKrw", jsonString snapshot.confirmedFeeKrw),
    ("remainingQuantity", jsonString snapshot.remainingQuantity)])

def candidateEvidenceMaterial (sha256Hex : String → String) (deploymentId : String)
    (evidence : PositionGuardCandidateExecutionEvidence) : Except String EvidenceMaterial := do
  requireNonEmpty deploymentId "deploymentId"
  let snapshot ← evidenceSnapshot evidence
  requireNonEmpty snapshot.evidenceId "evidenceId"
  validateSnapshotAmounts snapshot
  let epochNanoseconds ←
    parsePositionGuardCandidateTimestamp snapshot.executedAt "evidence executedAt"
  throwIf (epochNanoseconds < 0)
    "Candidate evidence executedAt cannot be before the Unix epoch."
  .ok ⟨evidenceMaterialHash sha256Hex deploymentId snapshot epochNanoseconds, epochNanoseconds,
    snapshot⟩

/-! ### The maps -/

structure StoredEvidence where
  evidence : EvidenceSnapshot
  materialHash : String
  epochNanoseconds : ℤ
  deriving DecidableEq

structure PilotRepository where
  deployments : List PositionGuardPilotDeploymentRecord
  exactStates : String → Option ExactCandidateState
  evidence : String → Option (List StoredEvidence)
  auditEvents : String → Option (List PositionGuardPilotAuditEventRecord)

def PilotRepository.empty : PilotRepository := ⟨[], fun _ => none, fun _ => none, fun _ => none⟩

def PilotRepository.deployment (repo : PilotRepository) (deploymentId : String) :
    Option PositionGuardPilotDeploymentRecord :=
  Table.select PositionGuardPilotDeploymentRecord.id deploymentId repo.deployments

def PilotRepository.records (repo : PilotRepository) (deploymentId : String) : List StoredEvidence :=
  (repo.evidence deploymentId).getD []

def PilotRepository.audits (repo : PilotRepository) (deploymentId : String) :
    List PositionGuardPilotAuditEventRecord :=
  (repo.auditEvents deploymentId).getD []

/-! ### Creation -/

def isPristineInitialState (state : PositionGuardCandidateState) : Bool :=
  state.currentEpisodeAddCount = 0 ∧ state.currentEpisodeCostBasisKrw = 0 ∧
    state.currentEpisodeInventoryQuantity = 0 ∧ state.currentEpisodeRealizedPnlKrw = 0 ∧
    state.lastFullExitAt = none ∧ state.lastFullExitRealizedPnlKrw = none ∧
    state.lastEntryPath = none ∧ state.lastEvidenceAt = none ∧ state.lastEvidenceId = none ∧
    state.stateVersion = 0

def validateInitialDeployment (deployment : PositionGuardPilotDeploymentRecord)
    (initialState : PositionGuardCandidateState) : Except String Unit := do
  validateCandidatePilotDeployment deployment
  validatePositionGuardCandidateState initialState
  throwIf (isPristineInitialState initialState = false)
    "Candidate pilot deployment initial state must be pristine."

def createdAuditEvent (deployment : PositionGuardPilotDeploymentRecord) :
    PositionGuardPilotAuditEventRecord where
  id := deployment.id ++ ":created"
  deploymentId := deployment.id
  eventType := .deploymentCreated
  fromPhase := none
  toPhase := some deployment.phase
  stateVersion := 0
  payloadJson := jsonObject [("pilotId", "BTC_COMBINED_CONSERVATIVE_PILOT_V1"),
    ("market", "KRW-BTC"), ("policyId", "COMBINED_CONSERVATIVE"),
    ("policyVersion", "PCS-2026-001.DEPLOYMENT_READINESS_V1")]
  createdAt := deployment.createdAt

def PilotRepository.insertDeploymentWithInitialState (repo : PilotRepository)
    (deployment : PositionGuardPilotDeploymentRecord) : PilotRepository where
  deployments := Table.upsert PositionGuardPilotDeploymentRecord.id deployment repo.deployments
  exactStates :=
    Function.update repo.exactStates deployment.id (some createExactEmptyCandidateState)
  evidence := Function.update repo.evidence deployment.id (some [])
  auditEvents :=
    Function.update repo.auditEvents deployment.id (some [createdAuditEvent deployment])

/-- The checks of `createDeploymentWithInitialState`. An account has one deployment, the pilot of a
deployment having a single value. -/
def checkNewDeployment (repo : PilotRepository) (deployment : PositionGuardPilotDeploymentRecord)
    (initialState : PositionGuardCandidateState) : Except String Unit := do
  validateInitialDeployment deployment initialState
  throwIf ((repo.deployment deployment.id).isSome = true)
    ("Candidate pilot deployment " ++ deployment.id ++ " already exists.")
  throwIf (repo.deployments.any fun candidate =>
      candidate.exchangeAccountId = deployment.exchangeAccountId)
    ("Candidate pilot deployment already exists for account " ++ deployment.exchangeAccountId ++ ".")

def createDeploymentWithInitialState (repo : PilotRepository)
    (deployment : PositionGuardPilotDeploymentRecord) (initialState : PositionGuardCandidateState) :
    Except String PositionGuardPilotDeploymentRecord × PilotRepository :=
  match checkNewDeployment repo deployment initialState with
  | .error e => (.error e, repo)
  | .ok () => (.ok deployment, repo.insertDeploymentWithInitialState deployment)

/-! ### Advance by evidence -/

structure AdvanceCandidatePilotStateInput where
  deploymentId : String
  expectedStateVersion : ℤ
  evidence : PositionGuardCandidateExecutionEvidence

structure AdvanceCandidatePilotStateResult where
  state : PositionGuardCandidateState
  evidence : EvidenceSnapshot
  duplicate : Bool
  deriving DecidableEq

def advancedAuditEvent (deploymentId : String) (phase : PositionGuardPilotPhase)
    (material : EvidenceMaterial) (fromStateVersion toStateVersion : ℕ) :
    PositionGuardPilotAuditEventRecord where
  id := deploymentId ++ ":evidence:" ++ material.evidence.evidenceId
  deploymentId
  eventType := .stateAdvanced
  fromPhase := some phase
  toPhase := some phase
  stateVersion := toStateVersion
  payloadJson := jsonRecord [("evidenceId", jsonString material.evidence.evidenceId),
    ("materialHash", jsonString material.hash), ("materialVersion", jsonString "EXACT_V2"),
    ("fromStateVersion", toString fromStateVersion), ("toStateVersion", toString toStateVersion)]
  createdAt := material.evidence.executedAt

/-- What a call of `advanceStateWithEvidence` is about to do once all its checks have passed: return
the stored state, or store the new one. -/
inductive EvidenceOutcome
  | duplicate (state : ExactCandidateState) (evidence : EvidenceSnapshot)
  | advanced (phase : PositionGuardPilotPhase) (records : List StoredEvidence)
      (state next : ExactCandidateState) (material : EvidenceMaterial)

def storedRecord (material : EvidenceMaterial) : StoredEvidence :=
  ⟨material.evidence, material.hash, material.epochNanoseconds⟩

section Advance

variable (sha256Hex : String → String)

/-- The branch of a record whose id is not stored. -/
def resolveNewEvidence (deployment : PositionGuardPilotDeploymentRecord)
    (currentState : ExactCandidateState) (records : List StoredEvidence)
    (material : EvidenceMaterial) (expectedStateVersion : ℤ) : Except String EvidenceOutcome := do
  throwIf ((currentState.stateVersion : ℤ) ≠ expectedStateVersion)
    ("Candidate state version mismatch: expected " ++ toString expectedStateVersion ++
      ", persisted " ++ toString currentState.stateVersion ++ ".")
  let nextRecords := records ++ [storedRecord material]
  let nextState ← projectExactCandidateState (nextRecords.map fun item => asEvidence item.evidence)
  throwIf (nextState.stateVersion ≠ currentState.stateVersion + 1)
    "Candidate evidence replay did not advance the exact state by one version."
  .ok (.advanced deployment.phase nextRecords currentState nextState material)

/-- A record whose id is stored has to have the stored material. -/
def resolveDuplicate (currentState : ExactCandidateState) (stored : StoredEvidence)
    (material : EvidenceMaterial) : Except String EvidenceOutcome := do
  throwIf (stored.materialHash ≠ material.hash)
    ("Conflicting duplicate candidate evidence " ++ material.evidence.evidenceId ++ ".")
  .ok (.duplicate currentState material.evidence)

/-- Whether the material was stored before. -/
def resolveMaterial (deployment : PositionGuardPilotDeploymentRecord)
    (currentState : ExactCandidateState) (records : List StoredEvidence)
    (material : EvidenceMaterial) (expectedStateVersion : ℤ) : Except String EvidenceOutcome :=
  match records.find? fun item => item.evidence.evidenceId = material.evidence.evidenceId with
  | some stored => resolveDuplicate currentState stored material
  | none => resolveNewEvidence deployment currentState records material expectedStateVersion

def resolveEvidence (repo : PilotRepository) (input : AdvanceCandidatePilotStateInput) :
    Except String EvidenceOutcome := do
  throwIf (input.expectedStateVersion < 0 ∨ maxSafeInteger < input.expectedStateVersion)
    "Candidate pilot expected state version must be a non-negative safe integer."
  match repo.deployment input.deploymentId, repo.exactStates input.deploymentId with
  | some deployment, some currentState => do
    let material ← candidateEvidenceMaterial sha256Hex input.deploymentId input.evidence
    resolveMaterial deployment currentState (repo.records input.deploymentId) material
      input.expectedStateVersion
  | _, _ => .error ("Candidate state " ++ input.deploymentId ++
      " does not exist or is legacy approximate.")

/-- The maps after an advance. -/
def PilotRepository.storeAdvance (repo : PilotRepository) (deploymentId : String)
    (phase : PositionGuardPilotPhase) (records : List StoredEvidence)
    (state next : ExactCandidateState) (material : EvidenceMaterial) :
    PilotRepository :=
  { repo with
    exactStates := Function.update repo.exactStates deploymentId (some next)
    evidence := Function.update repo.evidence deploymentId (some records)
    auditEvents := Function.update repo.auditEvents deploymentId (some (repo.audits deploymentId ++
      [advancedAuditEvent deploymentId phase material state.stateVersion next.stateVersion])) }

/-- `advanceStateWithEvidence`. The maps are written before the routing state is read back, so a call
may throw after it has stored the new state. -/
def advanceStateWithEvidence (repo : PilotRepository) (input : AdvanceCandidatePilotStateInput) :
    Except String AdvanceCandidatePilotStateResult × PilotRepository :=
  match resolveEvidence sha256Hex repo input with
  | .error e => (.error e, repo)
  | .ok (.duplicate state evidence) =>
    ((toPositionGuardCandidateRoutingState state).map fun routing => ⟨routing, evidence, true⟩, repo)
  | .ok (.advanced phase records state next material) =>
    ((toPositionGuardCandidateRoutingState next).map fun routing =>
        ⟨routing, material.evidence, false⟩,
      repo.storeAdvance input.deploymentId phase records state next material)

end Advance

end AutoTrade.Pilot.InMemoryRepository
