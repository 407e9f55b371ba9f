import AutoTrade.Db.OrderStore
import AutoTrade.Operator.SqliteStore

/-! # The repositories that pause on a fault

Three repository methods write the execution state without going through the operator-state store,
each in one immediate transaction with the rows that document its fault:
`finalizeBoundedSubmissionAbsence` and `persistCandidateProjectionFault` of
`SqliteExecutionRepository`, and `pauseForRecoveryFaultAtomically` of
`SqliteCandidatePilotRepository`. A method that throws rolls back. -/

namespace AutoTrade.Operator.FaultWriters

open Lib Lib.Result Lib.Text Domain.Types
open Domain.PilotTypes
open Domain.Timestamp Db.Tables Operator.State
open Operator.SqliteStore
open Db.OrderStore (getOrderById getOrderEventById insertOrderEvent insertOrderEvent_eq_ok)

/-- Write the paused state of the account and insert its transition. -/
def writeFaultPause (db : Database) (account : String) (input : FaultPauseInput)
    (current next : ExecutionStateRecord) : Except String Database :=
  recordExecutionStateTransition (writeState db account next)
    (transitionBetween input.faultId account .automaticPause
      (some (formatFaultPauseReason input)) current next)

/-! ### `finalizeBoundedSubmissionAbsence` -/

structure FinalizeBoundedSubmissionAbsenceInput where
  orderId : String
  expectedStatus : OrderLifecycleStatus
  expectedUpdatedAt : String
  failedAt : String
  failureMessage : String
  event : OrderEventRecord
  faultPause : FaultPauseInput

/-- The rows the conditional update of the order hits. -/
def FinalizeBoundedSubmissionAbsenceInput.hits (input : FinalizeBoundedSubmissionAbsenceInput)
    (order : OrderRecord) : Bool :=
  order.id = input.orderId ∧ order.status = input.expectedStatus ∧
    order.updatedAt = input.expectedUpdatedAt

def finalizeBoundedSubmissionAbsence (db : Database)
    (input : FinalizeBoundedSubmissionAbsenceInput) : Except String (Bool × Database) :=
  match getOrderById db input.orderId with
  | none => .ok (false, db)
  | some order =>
    if order.status ≠ input.expectedStatus ∨ order.updatedAt ≠ input.expectedUpdatedAt then
      .ok (false, db)
    else if input.event.orderId ≠ order.id ∨
        input.faultPause.exchangeAccountId ≠ order.exchangeAccountId then
      .error "Bounded absence finalization provenance does not match the expected order."
    else if input.event.createdAt ≠ input.faultPause.occurredAt then
      .error "Bounded absence fault occurrence does not match its immutable event timestamp."
    else if (getOrderEventById db input.event.id).isSome then
      .error ("Conflicting bounded absence event " ++ input.event.id ++ ".")
    else do
      validateFaultPauseInput input.faultPause
      let current ← getState db order.exchangeAccountId
      let transitionAt ← validateFaultPauseTimestamp input.faultPause current
      if (db.orders.filter input.hits).length ≠ 1 then .ok (false, db)
      else do
        let failed := { db with
          orders := Table.update input.hits (fun row => { row with
            status := .failed
            failureCode := some "ORDER_SUBMISSION_ABSENCE_CONFIRMED"
            failureMessage := some input.failureMessage
            updatedAt := input.failedAt }) db.orders }
        let recorded ← insertOrderEvent failed input.event
        let next := faultPausedState current (formatFaultPauseReason input.faultPause) transitionAt
        let paused ← writeFaultPause recorded order.exchangeAccountId input.faultPause current next
        .ok (true, paused)

/-! ### `persistCandidateProjectionFault` -/

structure PersistCandidateProjectionFaultInput where
  orderId : String
  event : OrderEventRecord
  faultPause : FaultPauseInput

inductive ProjectionFaultOutcome
  | applied
  | duplicate
  deriving DecidableEq

/-- The recorded transition of the fault may be replayed; unlike `acceptsReplay` this does not ask
whether the pause still holds. -/
def matchesRecordedFault (existing : ExecutionStateTransitionRecord) (account : String)
    (input : FaultPauseInput) : Bool :=
  existing.command = .automaticPause ∧ existing.exchangeAccountId = account ∧
    existing.reason = some (formatFaultPauseReason input) ∧
    faultPauseTransitionMatchesOccurrence input existing.createdAt

/-- The time the paused row is stamped with: its own for a recorded fault. -/
def projectionPauseUpdatedAt (existing : Option ExecutionStateTransitionRecord) (account : String)
    (current : ExecutionStateRecord) (input : FaultPauseInput) : Except String String :=
  match existing with
  | some transition =>
    if matchesRecordedFault transition account input then .ok current.updatedAt
    else .error ("Conflicting duplicate automatic pause " ++ input.faultId ++ ".")
  | none => validateFaultPauseTimestamp input current

/-- The row is written in any case, the transition only when the fault is new. -/
def writeProjectionPause (db : Database) (existing : Option ExecutionStateTransitionRecord)
    (account : String) (input : FaultPauseInput) (current next : ExecutionStateRecord) :
    Except String Database :=
  match existing with
  | some _ => .ok (writeState db account next)
  | none => writeFaultPause db account input current next

def insertMissingOrderEvent (db : Database) (existing : Option OrderEventRecord)
    (event : OrderEventRecord) : Except String Database :=
  match existing with
  | some _ => .ok db
  | none => insertOrderEvent db event

def persistCandidateProjectionFault (db : Database) (input : PersistCandidateProjectionFaultInput) :
    Except String (ProjectionFaultOutcome × Database) :=
  match getOrderById db input.orderId with
  | none => .error "Candidate projection fault provenance does not match a persisted order."
  | some order =>
    if input.event.orderId ≠ order.id ∨
        input.faultPause.exchangeAccountId ≠ order.exchangeAccountId then
      .error "Candidate projection fault provenance does not match a persisted order."
    else if input.event.createdAt ≠ input.faultPause.occurredAt then
      .error "Candidate projection fault occurrence does not match its immutable event timestamp."
    else do
      validateFaultPauseInput input.faultPause
      let existingEvent := getOrderEventById db input.event.id
      if existingEvent.any (· ≠ input.event) then
        .error ("Conflicting candidate projection fault event " ++ input.event.id ++ ".")
      else do
        let account := order.exchangeAccountId
        let current ← getState db account
        let existing := selectTransition db input.faultPause.faultId
        let updatedAt ← projectionPauseUpdatedAt existing account current input.faultPause
        let next := faultPausedState current (formatFaultPauseReason input.faultPause) updatedAt
        let recorded ← insertMissingOrderEvent db existingEvent input.event
        let paused ← writeProjectionPause recorded existing account input.faultPause current next
        .ok (if existingEvent.isSome then .duplicate else .applied, paused)

/-! ### `pauseForRecoveryFault` -/

inductive JsonKind
  | object
  | other
  deriving DecidableEq

/-- `parseKind` stands for `JSON.parse`: `none` where it throws. -/
def validateCandidatePilotRecoveryFaultInput (parseKind : String → Option JsonKind)
    (input : PauseCandidatePilotForRecoveryFaultInput) : Except String Unit := do
  requireNonEmpty input.deploymentId "candidate recovery fault deploymentId"
  requireNonEmpty input.exchangeAccountId "candidate recovery fault exchangeAccountId"
  requireNonEmpty input.faultId "candidate recovery fault faultId"
  requireNonEmpty input.reasonCode "candidate recovery fault reasonCode"
  let _ ← parsePositionGuardCandidateTimestamp input.occurredAt
    "candidate recovery fault occurredAt"
  match parseKind input.provenanceJson with
  | none => .error "Candidate recovery fault provenanceJson must be valid JSON."
  | some .other => .error "Candidate recovery fault provenanceJson must contain an object."
  | some .object => .ok ()

def candidatePilotRecoveryFaultReason (input : PauseCandidatePilotForRecoveryFaultInput) : String :=
  "candidate_pilot_recovery:" ++ input.reasonCode ++ "; provenance=" ++ input.provenanceJson

def buildCandidatePilotRecoveryFaultAuditEvent (fault : PauseCandidatePilotForRecoveryFaultInput)
    (fromPhase : PositionGuardPilotPhase) (stateVersion : ℕ) :
    PositionGuardPilotAuditEventRecord where
  id := fault.faultId
  deploymentId := fault.deploymentId
  eventType := .faultPaused
  fromPhase := some fromPhase
  toPhase := some .pausedFault
  stateVersion
  payloadJson := jsonObject
    [("reasonCode", fault.reasonCode), ("provenanceJson", fault.provenanceJson)]
  createdAt := fault.occurredAt

def isFaultPausablePhase : PositionGuardPilotPhase → Bool
  | .pendingFlat | .active | .draining => true
  | .disabled | .pausedFault => false

/-- The newest audit row of the deployment: `ORDER BY created_at_epoch_ns DESC, id DESC`. -/
def selectLatestAuditTimestamp (db : Database) (deploymentId : String) : Option String :=
  let later (a b : AuditEventRow) : Bool :=
    b.createdAtEpochNs < a.createdAtEpochNs ∨
      (b.createdAtEpochNs = a.createdAtEpochNs ∧ b.record.id < a.record.id)
  let rows := db.auditEvents.filter fun row => row.record.deploymentId = deploymentId
  (rows.foldl (fun best row =>
    match best with
    | none => some row
    | some b => if later row b then some row else some b) none).map (·.record.createdAt)

def validateCandidatePilotRecoveryFaultChronology (occurredAt : String)
    (deployment : PositionGuardPilotDeploymentRecord) (latestAuditAt : Option String) :
    Except String Unit := do
  let occurred ← parsePositionGuardCandidateTimestamp occurredAt
    "candidate recovery fault occurredAt"
  let updated ← parsePositionGuardCandidateTimestamp deployment.updatedAt "deployment updatedAt"
  let latest ← match latestAuditAt with
    | none => .ok none
    | some text => do
      let epoch ← parsePositionGuardCandidateTimestamp text "candidate audit createdAt"
      .ok (some epoch)
  if deployment.phase = .draining ∧ (occurred ≤ updated ∨ latest.any (occurred ≤ ·)) then
    .error ("Candidate recovery fault from DRAINING must occur strictly after deployment and " ++
      "audit chronology.")
  else if occurred < updated ∨ latest.any (occurred < ·) then
    .error "Candidate recovery fault cannot precede deployment chronology."
  else .ok ()

def isMatchingRecoveryFaultTransition (transition : ExecutionStateTransitionRecord)
    (faultPause : FaultPauseInput) : Bool :=
  transition.command = .automaticPause ∧
    transition.exchangeAccountId = faultPause.exchangeAccountId ∧
    transition.reason = some (formatFaultPauseReason faultPause) ∧
    faultPauseTransitionMatchesOccurrence faultPause transition.createdAt ∧
    transition.fromExecutionMode = some transition.toExecutionMode ∧
    transition.fromLiveExecutionGate = some transition.toLiveExecutionGate ∧
    transition.fromKillSwitchActive = some transition.toKillSwitchActive ∧
    Stopped transition.toSystemStatus

/-- `INSERT INTO strategy_pilot_audit_events`. -/
def insertAuditEvent (db : Database) (event : PositionGuardPilotAuditEventRecord)
    (createdAtEpochNs : ℤ) : Except String Database :=
  if createdAtEpochNs < 0 then
    .error "CHECK constraint failed: created_at_epoch_ns >= 0"
  else
    match Table.insert (fun row : AuditEventRow => row.record.id)
        ⟨event, createdAtEpochNs⟩ db.auditEvents with
    | some rows => .ok { db with auditEvents := rows }
    | none => .error "UNIQUE constraint failed: strategy_pilot_audit_events.id"

structure RecoveryFaultResult where
  executionState : ExecutionStateRecord
  auditEvent : PositionGuardPilotAuditEventRecord
  duplicate : Bool

/-- The replay branch: every recorded trace of the fault is the one this call would leave. -/
def replayRecoveryFault (deployment : PositionGuardPilotDeploymentRecord) (stateVersion : ℕ)
    (executionState : ExecutionStateRecord) (input : PauseCandidatePilotForRecoveryFaultInput)
    (faultPause : FaultPauseInput) (audit : PositionGuardPilotAuditEventRecord)
    (transition : ExecutionStateTransitionRecord) : Except String RecoveryFaultResult :=
  if deployment.phase ≠ .pausedFault ∨ deployment.updatedAt ≠ input.occurredAt ∨
      ¬ Stopped executionState.systemStatus then
    .error ("Conflicting partial candidate recovery fault " ++ input.faultId ++ ".")
  else
    match audit.fromPhase with
    | none => .error ("Conflicting duplicate candidate recovery fault " ++ input.faultId ++ ".")
    | some fromPhase =>
      if isFaultPausablePhase fromPhase = false ∨
          audit ≠ buildCandidatePilotRecoveryFaultAuditEvent input fromPhase stateVersion ∨
          isMatchingRecoveryFaultTransition transition faultPause = false then
        .error ("Conflicting duplicate candidate recovery fault " ++ input.faultId ++ ".")
      else .ok ⟨executionState, audit, true⟩

/-- The writing branch: the deployment, its audit event, the state and the transition. -/
def applyRecoveryFault (db : Database) (deployment : PositionGuardPilotDeploymentRecord)
    (stateVersion : ℕ) (executionState : ExecutionStateRecord) (latestAuditAt : Option String)
    (input : PauseCandidatePilotForRecoveryFaultInput) (faultPause : FaultPauseInput) :
    Except String (RecoveryFaultResult × Database) := do
  if isFaultPausablePhase deployment.phase = false then
    .error ("Candidate recovery fault cannot pause phase " ++ deployment.phase.text ++ ".")
  else do
    validateCandidatePilotRecoveryFaultChronology input.occurredAt deployment latestAuditAt
    let occurredAtEpoch ← parsePositionGuardCandidateTimestamp input.occurredAt
      "candidate recovery fault occurredAt"
    let transitionAt ← validateFaultPauseTimestamp faultPause executionState
    let auditEvent := buildCandidatePilotRecoveryFaultAuditEvent input deployment.phase stateVersion
    let next := faultPausedState executionState (formatFaultPauseReason faultPause) transitionAt
    let hits (row : PositionGuardPilotDeploymentRecord) : Bool :=
      row.id = input.deploymentId ∧ row.exchangeAccountId = input.exchangeAccountId ∧
        row.phase = deployment.phase ∧ row.updatedAt = deployment.updatedAt
    if (db.deployments.filter hits).length ≠ 1 then
      .error "Candidate recovery fault deployment compare-and-swap failed."
    else do
      let paused := { db with
        deployments := Table.update hits
          (fun row => { row with phase := .pausedFault, updatedAt := input.occurredAt })
          db.deployments }
      let audited ← insertAuditEvent paused auditEvent occurredAtEpoch
      let stateHits (row : ExecutionStateRecord) : Bool :=
        row.exchangeAccountId = input.exchangeAccountId ∧ row.updatedAt = executionState.updatedAt
      if (audited.executionState.filter stateHits).length ≠ 1 then
        .error "Candidate recovery fault execution-state compare-and-swap failed."
      else do
        let written := { audited with
          executionState := Table.update stateHits (overwrite next) audited.executionState }
        let done ← recordExecutionStateTransition written
          (transitionBetween input.faultId input.exchangeAccountId .automaticPause
            (some (formatFaultPauseReason faultPause)) executionState next)
        .ok (⟨next, auditEvent, false⟩, done)

/-- The occurrence of the fault: a candidate intent fault is moved past the persisted chronology
once, and keeps the recorded occurrence on a replay. -/
def effectiveOccurrence (input : PauseCandidatePilotForRecoveryFaultInput)
    (resolve : Option (List String → Except String String))
    (existingAudit : Option PositionGuardPilotAuditEventRecord) (chronology : List String) :
    Except String String :=
  match resolve, existingAudit with
  | none, _ => .ok input.occurredAt
  | some _, some audit => .ok audit.createdAt
  | some moved, none => moved chronology

/-- `resolve` is `none` for a recovery fault. For a candidate intent fault it stands for
`resolveCandidateIntentFaultOccurrence`, which moves the occurrence past the given timestamps. -/
def pauseForRecoveryFaultAtomically (db : Database)
    (input : PauseCandidatePilotForRecoveryFaultInput)
    (resolve : Option (List String → Except String String)) :
    Except String (RecoveryFaultResult × Database) := do
  validateFaultPauseInput ⟨input.exchangeAccountId, input.faultId,
    candidatePilotRecoveryFaultReason input, input.occurredAt, none⟩
  match Table.select PositionGuardPilotDeploymentRecord.id input.deploymentId db.deployments,
    Table.select CandidateStateRow.deploymentId input.deploymentId db.candidateStates with
  | some deployment, some stateRow =>
    if deployment.exchangeAccountId ≠ input.exchangeAccountId then
      .error "Candidate recovery fault deployment provenance does not match persisted state."
    else do
      let existingAudit := (Table.select (fun row : AuditEventRow => row.record.id) input.faultId
        db.auditEvents).map (·.record)
      let executionState ← getState db input.exchangeAccountId
      let latestAuditAt := selectLatestAuditTimestamp db input.deploymentId
      let occurredAt ← effectiveOccurrence input resolve existingAudit
        (deployment.updatedAt :: latestAuditAt.toList)
      let effective := { input with occurredAt }
      let transitionAt ← deriveFaultPauseTransitionAt occurredAt executionState.updatedAt
      let faultPause : FaultPauseInput := ⟨input.exchangeAccountId, input.faultId,
        candidatePilotRecoveryFaultReason input, occurredAt, some transitionAt⟩
      validateFaultPauseInput faultPause
      match existingAudit, selectTransition db input.faultId with
      | none, none =>
        applyRecoveryFault db deployment stateRow.stateVersion executionState latestAuditAt
          effective faultPause
      | some audit, some transition => do
        let result ← replayRecoveryFault deployment stateRow.stateVersion executionState effective
          faultPause audit transition
        .ok (result, db)
      | _, _ => .error ("Conflicting partial candidate recovery fault " ++ input.faultId ++ ".")
  | _, _ => .error "Candidate recovery fault deployment provenance does not match persisted state."

def pauseForRecoveryFault (parseKind : String → Option JsonKind) (db : Database)
    (input : PauseCandidatePilotForRecoveryFaultInput) :
    Except String (RecoveryFaultResult × Database) := do
  validateCandidatePilotRecoveryFaultInput parseKind input
  pauseForRecoveryFaultAtomically db input none

/-! ### What the methods can do to the execution state -/

/-- Neither a state row nor a transition changes. -/
def Untouched (db db' : Database) : Prop :=
  db'.executionState = db.executionState ∧
    db'.executionStateTransitions = db.executionStateTransitions

/-- The account is paused and one transition to the paused state is inserted. -/
def PausesAccount (db db' : Database) (account : String) : Prop :=
  ∃ current reason transitionAt transition,
    getState db account = .ok current ∧
    getState db' account =
      .ok (overwrite (faultPausedState current reason transitionAt) current) ∧
    (∀ other, other ≠ account → getState db' other = getState db other) ∧
    db'.executionStateTransitions = db.executionStateTransitions ++ [transition] ∧
    transition.exchangeAccountId = account ∧
    Leads transition (faultPausedState current reason transitionAt)

variable {db db' : Database}

theorem insertOrderEvent_untouched {event : OrderEventRecord}
    (h : insertOrderEvent db event = .ok db') : Untouched db db' := by
  obtain ⟨-, rfl⟩ := insertOrderEvent_eq_ok.mp h
  exact ⟨rfl, rfl⟩

theorem insertAuditEvent_untouched {event : PositionGuardPilotAuditEventRecord} {epoch : ℤ}
    (h : insertAuditEvent db event epoch = .ok db') : Untouched db db' := by
  unfold insertAuditEvent at h
  split at h
  · cases h
  split at h
  · cases h; exact ⟨rfl, rfl⟩
  · cases h

theorem Untouched.getState (h : Untouched db db') (account : String) :
    SqliteStore.getState db' account = SqliteStore.getState db account := getState_congr h.1 account

variable {current : ExecutionStateRecord}

theorem pausesAccount_writeFaultPause {db mid db' : Database} {account reason transitionAt : String}
    {input : FaultPauseInput} (hu : Untouched db mid)
    (hc : SqliteStore.getState db account = .ok current)
    (h : writeFaultPause mid account input current
      (faultPausedState current reason transitionAt) = .ok db') : PausesAccount db db' account := by
  obtain ⟨-, rfl⟩ := recordExecutionStateTransition_ok h
  have hmid : SqliteStore.getState mid account = .ok current := (hu.getState account).trans hc
  refine ⟨current, reason, transitionAt,
    transitionBetween input.faultId account .automaticPause (some (formatFaultPauseReason input))
      current (faultPausedState current reason transitionAt),
    hc, ?_, fun other hne => ?_, ?_, rfl, leads_transitionBetween _ _ _ _ _ _⟩
  · exact (getState_congr rfl account).trans (getState_writeState_self _ hmid)
  · exact (getState_congr rfl other).trans ((getState_writeState_ne hne).trans (hu.getState other))
  · exact congrArg (· ++ _) hu.2

theorem finalizeBoundedSubmissionAbsence_ok {result : Bool}
    {input : FinalizeBoundedSubmissionAbsenceInput}
    (h : finalizeBoundedSubmissionAbsence db input = .ok (result, db')) :
    Untouched db db' ∨ ∃ account, PausesAccount db db' account := by
  unfold finalizeBoundedSubmissionAbsence at h
  split at h
  · cases h; exact Or.inl ⟨rfl, rfl⟩
  next order ho =>
  split at h
  · cases h; exact Or.inl ⟨rfl, rfl⟩
  obtain ⟨-, h⟩ := guard_eq_ok.mp h
  obtain ⟨-, h⟩ := guard_eq_ok.mp h
  obtain ⟨-, h⟩ := guard_eq_ok.mp h
  obtain ⟨-, -, h⟩ := bind_eq_ok.mp h
  obtain ⟨current, hc, h⟩ := bind_eq_ok.mp h
  obtain ⟨transitionAt, -, h⟩ := bind_eq_ok.mp h
  split at h
  · cases h; exact Or.inl ⟨rfl, rfl⟩
  obtain ⟨recorded, hrec, h⟩ := bind_eq_ok.mp h
  obtain ⟨paused, hp, h⟩ := bind_eq_ok.mp h
  cases h
  have hrecorded := insertOrderEvent_untouched hrec
  have hu : Untouched db recorded := hrecorded
  exact Or.inr ⟨_, pausesAccount_writeFaultPause hu hc hp⟩

/-- A projection fault pauses its account like the others, or, when the fault is already recorded,
writes the paused row alone. -/
theorem persistCandidateProjectionFault_ok {outcome : ProjectionFaultOutcome}
    {input : PersistCandidateProjectionFaultInput}
    (h : persistCandidateProjectionFault db input = .ok (outcome, db')) :
    (∃ account, PausesAccount db db' account) ∨
      ((selectTransition db input.faultPause.faultId).isSome ∧ ∃ current reason,
        getState db input.faultPause.exchangeAccountId = .ok current ∧
        db'.executionState = (writeState db input.faultPause.exchangeAccountId
          (faultPausedState current reason current.updatedAt)).executionState ∧
        db'.executionStateTransitions = db.executionStateTransitions) := by
  unfold persistCandidateProjectionFault at h
  split at h
  · cases h
  next order ho =>
  obtain ⟨hprov, h⟩ := guard_eq_ok.mp h
  obtain ⟨-, h⟩ := guard_eq_ok.mp h
  obtain ⟨-, -, h⟩ := bind_eq_ok.mp h
  obtain ⟨-, h⟩ := guard_eq_ok.mp h
  obtain ⟨current, hc, h⟩ := bind_eq_ok.mp h
  obtain ⟨updatedAt, ht, h⟩ := bind_eq_ok.mp h
  obtain ⟨recorded, hrec, h⟩ := bind_eq_ok.mp h
  obtain ⟨paused, hp, h⟩ := bind_eq_ok.mp h
  cases h
  have hacc : input.faultPause.exchangeAccountId = order.exchangeAccountId := by
    by_contra hne
    exact hprov (Or.inr hne)
  have hu : Untouched db recorded := by
    unfold insertMissingOrderEvent at hrec
    split at hrec
    · cases hrec; exact ⟨rfl, rfl⟩
    · exact insertOrderEvent_untouched hrec
  cases hx : selectTransition db input.faultPause.faultId with
  | none =>
    rw [hx] at hp
    exact Or.inl ⟨_, pausesAccount_writeFaultPause hu hc hp⟩
  | some transition =>
    rw [hx] at hp ht
    have hupd : updatedAt = current.updatedAt := by
      unfold projectionPauseUpdatedAt at ht
      dsimp only at ht
      split at ht
      · cases ht; rfl
      · cases ht
    cases hp
    subst hupd
    rw [← hacc] at hc
    refine Or.inr ⟨rfl, current, formatFaultPauseReason input.faultPause, hc, ?_, hu.2⟩
    unfold writeState
    rw [hu.1, hacc]

variable {input : PauseCandidatePilotForRecoveryFaultInput} {result : RecoveryFaultResult}

theorem applyRecoveryFault_ok {deployment : PositionGuardPilotDeploymentRecord} {stateVersion : ℕ}
    {latestAuditAt : Option String} {faultPause : FaultPauseInput}
    (hc : getState db input.exchangeAccountId = .ok current)
    (h : applyRecoveryFault db deployment stateVersion current latestAuditAt input faultPause =
      .ok (result, db')) : PausesAccount db db' input.exchangeAccountId := by
  unfold applyRecoveryFault at h
  obtain ⟨-, h⟩ := guard_eq_ok.mp h
  obtain ⟨-, -, h⟩ := bind_eq_ok.mp h
  obtain ⟨epoch, -, h⟩ := bind_eq_ok.mp h
  obtain ⟨transitionAt, -, h⟩ := bind_eq_ok.mp h
  obtain ⟨-, h⟩ := guard_eq_ok.mp h
  obtain ⟨audited, haud, h⟩ := bind_eq_ok.mp h
  obtain ⟨-, h⟩ := guard_eq_ok.mp h
  obtain ⟨done, hd, h⟩ := bind_eq_ok.mp h
  cases h
  obtain ⟨-, rfl⟩ := recordExecutionStateTransition_ok hd
  have haudited := insertAuditEvent_untouched haud
  have hu : Untouched db audited := haudited
  have hmid := getState_ok_iff.mp ((hu.getState input.exchangeAccountId).trans hc)
  refine ⟨current, formatFaultPauseReason faultPause, transitionAt,
    transitionBetween input.faultId input.exchangeAccountId .automaticPause
      (some (formatFaultPauseReason faultPause)) current
      (faultPausedState current (formatFaultPauseReason faultPause) transitionAt),
    hc, ?_, fun other hne => ?_, ?_, rfl, leads_transitionBetween _ _ _ _ _ _⟩
  · rw [getState_ok_iff]
    dsimp only
    rw [Table.select_update (overwrite_account _), hmid]
    simp [getState_account hc]
  · refine Eq.trans ?_ (hu.getState other)
    unfold SqliteStore.getState
    dsimp only
    rw [Table.select_update (overwrite_account _)]
    cases hs : Table.select ExecutionStateRecord.exchangeAccountId other audited.executionState with
    | none => rfl
    | some row =>
      have hrow : row.exchangeAccountId = other := Table.key_of_select hs
      have hnot : ¬ row.exchangeAccountId = input.exchangeAccountId := by rw [hrow]; exact hne
      simp [hnot]
  · exact congrArg (· ++ _) hu.2

theorem pauseForRecoveryFaultAtomically_ok {resolve : Option (List String → Except String String)}
    (h : pauseForRecoveryFaultAtomically db input resolve = .ok (result, db')) :
    Untouched db db' ∨ PausesAccount db db' input.exchangeAccountId := by
  unfold pauseForRecoveryFaultAtomically at h
  obtain ⟨-, -, h⟩ := bind_eq_ok.mp h
  split at h
  next deployment stateRow hd hs =>
    obtain ⟨-, h⟩ := guard_eq_ok.mp h
    obtain ⟨current, hc, h⟩ := bind_eq_ok.mp h
    obtain ⟨occurredAt, -, h⟩ := bind_eq_ok.mp h
    obtain ⟨transitionAt, -, h⟩ := bind_eq_ok.mp h
    obtain ⟨-, -, h⟩ := bind_eq_ok.mp h
    split at h
    · have hp := applyRecoveryFault_ok (by exact hc) h
      exact Or.inr hp
    · obtain ⟨r, -, h⟩ := bind_eq_ok.mp h
      cases h
      exact Or.inl ⟨rfl, rfl⟩
    · cases h
  next => cases h

end AutoTrade.Operator.FaultWriters
