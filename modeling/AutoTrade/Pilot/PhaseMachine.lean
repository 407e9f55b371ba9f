import AutoTrade.Pilot.Linearizability

/-! # The phases of a deployment

Sequences of calls of `InMemoryCandidatePilotRepository`, one after the other, throwing calls included.
Every call leaves the deployments and their audit events as they are, inserts a deployment, records
evidence of one, or moves one to its next phase (`Effect`). From this the rules of the phases follow
for every step, and for every run that the recorded changes of phase lead from the phase a deployment
was created with to the one it has.

`initializeDeploymentWithInitialState` creates a deployment in `PENDING_FLAT` only;
`createDeploymentWithInitialState` takes the phase it is given. -/

namespace AutoTrade.Pilot.PhaseMachine

open Lib Lib.Run Lib.Result Domain.Types
open Domain.PilotTypes Domain.Timestamp Strategy.CandidateState
open Execution.EvidenceDecimals
open Operator.FaultWriters Pilot.InMemoryRepository
open Pilot.PhaseCalls Pilot.Linearizability

/-! ### Initialization -/

inductive InitializationOutcome
  | created
  | existing
  deriving DecidableEq

structure CandidatePilotDeploymentInitializationResult where
  outcome : InitializationOutcome
  deployment : PositionGuardPilotDeploymentRecord
  exactState : ExactCandidateState
  evidenceRecords : List StoredEvidence
  auditEvents : List PositionGuardPilotAuditEventRecord

/-- `compareSqliteBinaryText` compares the bytes of two texts, which is the order of their code
points. -/
def orderedEvidence (records : List StoredEvidence) : List StoredEvidence :=
  records.insertionSort fun left right =>
    left.epochNanoseconds < right.epochNanoseconds ∨
      (left.epochNanoseconds = right.epochNanoseconds ∧
        left.evidence.evidenceId ≤ right.evidence.evidenceId)

section Calls

variable (localeLe : String → String → Bool)

/-- The audit events by their time and then their id. The comparison of two events parses their times,
so a single event is not parsed. -/
def orderedAuditEvents (events : List PositionGuardPilotAuditEventRecord) :
    Except String (List PositionGuardPilotAuditEventRecord) :=
  if events.length < 2 then .ok events
  else do
    let dated ← events.mapM fun event => do
      let epoch ← parsePositionGuardCandidateTimestamp event.createdAt "audit createdAt"
      .ok (epoch, event)
    .ok ((dated.insertionSort fun left right =>
      left.1 < right.1 ∨ (left.1 = right.1 ∧ localeLe left.2.id right.2.id)).map Prod.snd)

def bootstrapAuthority (repo : PilotRepository) (outcome : InitializationOutcome)
    (deployment : PositionGuardPilotDeploymentRecord) :
    Except String CandidatePilotDeploymentInitializationResult :=
  match repo.exactStates deployment.id with
  | none => .error ("Candidate pilot deployment " ++ deployment.id ++
      " is missing exact state authority.")
  | some exactState => do
    let auditEvents ← orderedAuditEvents localeLe (repo.audits deployment.id)
    .ok ⟨outcome, deployment, exactState, orderedEvidence (repo.records deployment.id), auditEvents⟩

def validateInitialization (deployment : PositionGuardPilotDeploymentRecord)
    (initialState : PositionGuardCandidateState) : Except String Unit := do
  validateInitialDeployment deployment initialState
  throwIf (deployment.phase ≠ .pendingFlat ∨ deployment.activationAt ≠ none ∨
      deployment.activationEpochNs ≠ none)
    "Candidate pilot deployment initialization requires PENDING_FLAT without activation authority."

/-- The deployment that is there already: the one of the id, or the first of the account. The other
fields of the identity have a single value. -/
def existingDeployment (repo : PilotRepository) (deployment : PositionGuardPilotDeploymentRecord) :
    Except String (Option PositionGuardPilotDeploymentRecord) :=
  match repo.deployment deployment.id with
  | some existing =>
    if existing.exchangeAccountId ≠ deployment.exchangeAccountId then
      .error ("Candidate pilot deployment " ++ deployment.id ++ " identity collision.")
    else .ok (some existing)
  | none => .ok (repo.deployments.find? fun candidate =>
      candidate.exchangeAccountId = deployment.exchangeAccountId)

def initializeDeploymentWithInitialState (repo : PilotRepository)
    (deployment : PositionGuardPilotDeploymentRecord) (initialState : PositionGuardCandidateState) :
    Except String CandidatePilotDeploymentInitializationResult × PilotRepository :=
  match validateInitialization deployment initialState with
  | .error e => (.error e, repo)
  | .ok () =>
    match existingDeployment repo deployment with
    | .error e => (.error e, repo)
    | .ok (some existing) => (bootstrapAuthority localeLe repo .existing existing, repo)
    | .ok none =>
      let inserted := repo.insertDeploymentWithInitialState deployment
      (bootstrapAuthority localeLe inserted .created deployment, inserted)

/-! ### Calls -/

inductive RepositoryCall
  | createDeploymentWithInitialState (deployment : PositionGuardPilotDeploymentRecord)
      (initialState : PositionGuardCandidateState)
  | initializeDeploymentWithInitialState (deployment : PositionGuardPilotDeploymentRecord)
      (initialState : PositionGuardCandidateState)
  | pilot (call : PilotCall)

/-- The type of `expectedPhase` of an activation is the literal `PENDING_FLAT`. -/
def RepositoryCall.Typed : RepositoryCall → Prop
  | .pilot (.activateDeployment input) => input.expectedPhase = .pendingFlat
  | _ => True

/-- Without an atomic fault-pause store a rollback returns `null` and a fault pause throws. -/
def needsStore : PilotCall → Bool
  | .startRollback _ | .completeRollback _ | .pauseForRecoveryFault _ |
    .pauseForCandidateIntentFault _ => true
  | _ => false

variable (sha256Hex : String → String) (parseKind : String → Option JsonKind)
  (parseProvenance : String → Except String CandidateIntentFaultProvenance) (hasStore : Bool)

/-- The stores after a call of the repository. -/
def runRepositoryCall (stores : PilotStores) : RepositoryCall → PilotStores
  | .createDeploymentWithInitialState deployment initialState =>
    { stores with repo := (createDeploymentWithInitialState stores.repo deployment initialState).2 }
  | .initializeDeploymentWithInitialState deployment initialState =>
    { stores with
      repo := (initializeDeploymentWithInitialState localeLe stores.repo deployment initialState).2 }
  | .pilot call =>
    if hasStore = false ∧ needsStore call = true then stores
    else (runCall sha256Hex parseKind parseProvenance stores call).2

end Calls

/-! ### The rules -/

/-- The changes of the phase; `flat` says that the exact state of the deployment is flat. -/
inductive PhaseMove (flat : Prop) : PositionGuardPilotPhase → PositionGuardPilotPhase → Prop
  | stay (phase : PositionGuardPilotPhase) : PhaseMove flat phase phase
  | activate : PhaseMove flat .pendingFlat .active
  | drain : PhaseMove flat .active .draining
  | fault {phase : PositionGuardPilotPhase} (h : isFaultPausablePhase phase = true) :
      PhaseMove flat phase .pausedFault
  | disable {phase : PositionGuardPilotPhase} (h : isRollbackCompletablePhase phase = true)
      (hflat : flat) : PhaseMove flat phase .disabled

/-- The activation is kept, and the phase does not become active, or the activation is set and the
phase becomes active. -/
def ActivationMove (before after : PositionGuardPilotDeploymentRecord) : Prop :=
  (after.activationAt = before.activationAt ∧ after.activationEpochNs = before.activationEpochNs ∧
      (after.phase = .active → before.phase = .active)) ∨
    (before.phase = .pendingFlat ∧ before.activationAt = none ∧ before.activationEpochNs = none ∧
      after.phase = .active ∧ after.activationAt.isSome = true ∧
      after.activationEpochNs = after.activationAt.map instant)

/-- What one step may change of a deployment. -/
structure DeploymentMove (flat : Prop) (before after : PositionGuardPilotDeploymentRecord) : Prop where
  identity : after.id = before.id ∧ after.exchangeAccountId = before.exchangeAccountId ∧
    after.createdAt = before.createdAt
  phase : PhaseMove flat before.phase after.phase
  updatedAt : instant before.updatedAt ≤ instant after.updatedAt
  activation : ActivationMove before after

theorem DeploymentMove.refl (flat : Prop) (deployment : PositionGuardPilotDeploymentRecord) :
    DeploymentMove flat deployment deployment :=
  ⟨⟨rfl, rfl, rfl⟩, .stay _, le_refl _, Or.inl ⟨rfl, rfl, id⟩⟩

/-- The exact state of the deployment is flat. -/
def FlatState (repo : PilotRepository) (deploymentId : String) : Prop :=
  ∃ state, repo.exactStates deploymentId = some state ∧
    isExactCandidateStateRollbackFlat state = true

/-- The audit events that change the phase. -/
def phaseChanges (events : List PositionGuardPilotAuditEventRecord) :
    List PositionGuardPilotAuditEventRecord :=
  events.filter fun event => event.fromPhase ≠ none ∧ event.fromPhase ≠ event.toPhase

/-- The events lead from one phase to the other, each from where the one before it ended. -/
def PhaseChain (first : PositionGuardPilotPhase) :
    List PositionGuardPilotAuditEventRecord → PositionGuardPilotPhase → Prop
  | [], last => first = last
  | event :: rest, last => event.fromPhase = some first ∧
      ∃ next, event.toPhase = some next ∧ PhaseChain next rest last

/-- The first audit event is the creation of the deployment in a phase, from which the changes of phase
lead to the one it has. -/
def Recorded (first : PositionGuardPilotPhase) (events : List PositionGuardPilotAuditEventRecord)
    (phase : PositionGuardPilotPhase) : Prop :=
  ∃ created rest, events = created :: rest ∧ created.eventType = .deploymentCreated ∧
    created.fromPhase = none ∧ created.toPhase = some first ∧
    PhaseChain first (phaseChanges events) phase

variable {event : PositionGuardPilotAuditEventRecord}
  {events added : List PositionGuardPilotAuditEventRecord} {first middle last : PositionGuardPilotPhase}

theorem phaseChain_append (h : PhaseChain first events middle)
    (hadded : PhaseChain middle added last) : PhaseChain first (events ++ added) last := by
  induction events generalizing first with
  | nil =>
    obtain rfl : first = middle := h
    exact hadded
  | cons head rest ih =>
    obtain ⟨hhead, next, hnext, hrest⟩ := h
    exact ⟨hhead, next, hnext, ih hrest⟩

theorem phaseChain_phaseChanges_append (h : PhaseChain first (phaseChanges events) middle)
    (hadded : PhaseChain middle (phaseChanges added) last) :
    PhaseChain first (phaseChanges (events ++ added)) last := by
  unfold phaseChanges
  rw [List.filter_append]
  exact phaseChain_append h hadded

theorem phaseChain_single (hfrom : event.fromPhase = some first) (hto : event.toPhase = some last) :
    PhaseChain first (phaseChanges [event]) last := by
  by_cases hsame : first = last
  · simp [phaseChanges, PhaseChain, hfrom, hto, hsame]
  · simp [phaseChanges, PhaseChain, hfrom, hto, hsame]

theorem Recorded.append (h : Recorded first events middle)
    (hadded : PhaseChain middle (phaseChanges added) last) :
    Recorded first (events ++ added) last := by
  obtain ⟨created, rest, rfl, htype, hnone, hfirst, hchain⟩ := h
  exact ⟨created, rest ++ added, rfl, htype, hnone, hfirst,
    phaseChain_phaseChanges_append hchain hadded⟩

/-- The audit events go on with at most `count` new ones, which lead from the one phase to the
other. -/
def Continues (count : ℕ) (events : List PositionGuardPilotAuditEventRecord)
    (first : PositionGuardPilotPhase) (events' : List PositionGuardPilotAuditEventRecord)
    (last : PositionGuardPilotPhase) : Prop :=
  ∃ added, events' = events ++ added ∧ added.length ≤ count ∧
    PhaseChain first (phaseChanges added) last

theorem Continues.same (count : ℕ) : Continues count events first events first :=
  ⟨[], by simp, by simp, rfl⟩

theorem Continues.one (hfrom : event.fromPhase = some first) (hto : event.toPhase = some last) :
    Continues 1 events first (events ++ [event]) last :=
  ⟨[event], rfl, le_rfl, phaseChain_single hfrom hto⟩

theorem Continues.trans {m n : ℕ} {events' events'' : List PositionGuardPilotAuditEventRecord}
    (h : Continues m events first events' middle) (h' : Continues n events' middle events'' last) :
    Continues (m + n) events first events'' last := by
  obtain ⟨added, rfl, hlength, hchain⟩ := h
  obtain ⟨added', rfl, hlength', hchain'⟩ := h'
  refine ⟨added ++ added', List.append_assoc _ _ _, ?_, phaseChain_phaseChanges_append hchain hchain'⟩
  rw [List.length_append]
  exact Nat.add_le_add hlength hlength'

/-! ### Effects of the calls -/

/-- What a call may do to the repository; `creates` are the deployments that it may insert. -/
inductive Effect (creates : PositionGuardPilotDeploymentRecord → Prop) (repo : PilotRepository) :
    PilotRepository → Prop
  | same : Effect creates repo repo
  | create (deployment : PositionGuardPilotDeploymentRecord)
      (hnew : repo.deployment deployment.id = none) (hcreates : creates deployment) :
      Effect creates repo (repo.insertDeploymentWithInitialState deployment)
  | advance (deployment : PositionGuardPilotDeploymentRecord) (deploymentId : String)
      (hdeployment : repo.deployment deploymentId = some deployment) (records : List StoredEvidence)
      (state next : ExactCandidateState) (material : EvidenceMaterial) :
      Effect creates repo (repo.storeAdvance deploymentId deployment.phase records state next material)
  | move (before after : PositionGuardPilotDeploymentRecord)
      (event : PositionGuardPilotAuditEventRecord)
      (hdeployment : repo.deployment before.id = some before)
      (hmove : DeploymentMove (FlatState repo before.id) before after)
      (hfrom : event.fromPhase = some before.phase) (hto : event.toPhase = some after.phase) :
      Effect creates repo (PilotRepository.storePhase repo after event)

/-- What a rollback or a fault pause does: nothing, or one move of a stored deployment. -/
inductive Moved (repo : PilotRepository) : PilotRepository → Prop
  | same : Moved repo repo
  | move (before after : PositionGuardPilotDeploymentRecord)
      (event : PositionGuardPilotAuditEventRecord)
      (hdeployment : repo.deployment before.id = some before)
      (hmove : DeploymentMove (FlatState repo before.id) before after)
      (hfrom : event.fromPhase = some before.phase) (hto : event.toPhase = some after.phase) :
      Moved repo (PilotRepository.storePhase repo after event)

theorem Moved.effect {creates : PositionGuardPilotDeploymentRecord → Prop}
    {repo repo' : PilotRepository} (h : Moved repo repo') : Effect creates repo repo' := by
  cases h with
  | same => exact .same
  | move before after event hdeployment hmove hfrom hto =>
    exact .move before after event hdeployment hmove hfrom hto

/-- The deployments that a call may insert. -/
def RepositoryCall.Creates : RepositoryCall → PositionGuardPilotDeploymentRecord → Prop
  | .createDeploymentWithInitialState deployment _, created => created = deployment
  | .initializeDeploymentWithInitialState deployment _, created =>
    created = deployment ∧ deployment.phase = .pendingFlat ∧ deployment.activationAt = none ∧
      deployment.activationEpochNs = none
  | .pilot _, _ => False

variable {creates : PositionGuardPilotDeploymentRecord → Prop} (repo : PilotRepository)

theorem effect_create (deployment : PositionGuardPilotDeploymentRecord)
    (initialState : PositionGuardCandidateState) :
    Effect (RepositoryCall.Creates (.createDeploymentWithInitialState deployment initialState)) repo
      (createDeploymentWithInitialState repo deployment initialState).2 := by
  unfold createDeploymentWithInitialState
  cases hcheck : checkNewDeployment repo deployment initialState with
  | error e => exact .same
  | ok u =>
    simp only [checkNewDeployment, then_eq_ok, throwIf_eq_ok, Option.not_isSome_iff_eq_none]
      at hcheck
    exact .create deployment hcheck.2.1 rfl

/-- An initialization stores nothing, or a valid deployment of a new id and a new account. -/
theorem initialize_cases (localeLe : String → String → Bool) (repo : PilotRepository)
    (deployment : PositionGuardPilotDeploymentRecord) (initialState : PositionGuardCandidateState) :
    let after := (initializeDeploymentWithInitialState localeLe repo deployment initialState).2
    after = repo ∨ after = repo.insertDeploymentWithInitialState deployment ∧
      validateInitialization deployment initialState = .ok () ∧
      repo.deployment deployment.id = none ∧
      ∀ other ∈ repo.deployments, other.exchangeAccountId ≠ deployment.exchangeAccountId := by
  unfold initializeDeploymentWithInitialState existingDeployment
  cases validateInitialization deployment initialState with
  | error e => exact Or.inl rfl
  | ok u =>
    cases repo.deployment deployment.id with
    | some existing =>
      dsimp only
      split_ifs <;> exact Or.inl rfl
    | none =>
      dsimp only
      cases hfind : repo.deployments.find? fun candidate =>
          candidate.exchangeAccountId = deployment.exchangeAccountId with
      | some existing => exact Or.inl rfl
      | none =>
        refine Or.inr ⟨rfl, rfl, rfl, fun other hother => ?_⟩
        simpa using List.find?_eq_none.mp hfind other hother

theorem effect_initialize (localeLe : String → String → Bool) (repo : PilotRepository)
    (deployment : PositionGuardPilotDeploymentRecord) (initialState : PositionGuardCandidateState) :
    Effect (RepositoryCall.Creates (.initializeDeploymentWithInitialState deployment initialState))
      repo (initializeDeploymentWithInitialState localeLe repo deployment initialState).2 := by
  rcases initialize_cases localeLe repo deployment initialState with h | ⟨h, hvalid, hnew, -⟩
  · rw [h]
    exact .same
  · simp only [validateInitialization, then_eq_ok, throwIf_eq_ok, not_or, ne_eq, not_not]
      at hvalid
    rw [h]
    exact .create deployment hnew ⟨rfl, hvalid.2⟩

theorem effect_activate (input : ActivateCandidatePilotDeploymentInput)
    (htyped : input.expectedPhase = .pendingFlat) :
    Effect creates repo (activateDeployment repo input).2 := by
  unfold activateDeployment
  cases hdeployment : repo.deployment input.deploymentId with
  | none => exact .same
  | some deployment =>
    dsimp only
    split_ifs with hguard
    · exact .same
    · simp only [not_or, ne_eq, not_not] at hguard
      obtain ⟨hphase, -, hat, hepoch⟩ := hguard
      cases hvalid : validateActivationInput input deployment with
      | error e => exact .same
      | ok u =>
        simp only [validateActivationInput, parse_bind, then_eq_ok, throwIf_eq_ok, not_or,
          not_lt, not_not, ne_eq] at hvalid
        obtain ⟨-, ⟨-, hinstant⟩, -, -, -, hupdated⟩ := hvalid
        have hid : deployment.id = input.deploymentId := Table.key_of_select hdeployment
        refine .move deployment _ _ (hid ▸ hdeployment) ⟨⟨rfl, rfl, rfl⟩, ?_, hupdated, ?_⟩ rfl rfl
        · rw [hphase, htyped]
          exact .activate
        · refine Or.inr ⟨hphase.trans htyped, hat, hepoch, rfl, rfl, ?_⟩
          rw [← hinstant]
          rfl

theorem phaseMove_rollback {eventType : RollbackEventType} {flat : Prop}
    {phase : PositionGuardPilotPhase} (hadmits : eventType.admits phase = true)
    (hflat : eventType = .completed → flat) : PhaseMove flat phase eventType.toPhase := by
  cases eventType with
  | started =>
    obtain rfl : phase = .active := by simpa [RollbackEventType.admits] using hadmits
    exact .drain
  | completed => exact .disable hadmits (hflat rfl)

theorem toPhase_ne_active (eventType : RollbackEventType) : eventType.toPhase ≠ .active := by
  cases eventType <;> decide

theorem moved_rollback (eventType : RollbackEventType) {rollback : CandidatePilotRollbackInput}
    (hinput : validateCandidatePilotRollbackInput rollback = .ok ()) :
    Moved repo (applyRollback repo eventType rollback).2 := by
  have hepoch : instant rollback.transitionAt = rollback.transitionEpochNs := by
    simp only [validateCandidatePilotRollbackInput, then_eq_ok, parse_bind,
      throwIf_eq_ok, not_or, ne_eq, not_not] at hinput
    exact hinput.2.2.2.2.2.2
  unfold applyRollback
  cases htarget : rollbackTarget repo eventType rollback with
  | none => exact .same
  | some target =>
    obtain ⟨deployment, state⟩ := target
    dsimp only
    cases hcheck : checkRollback eventType rollback deployment state with
    | error e => exact .same
    | ok u =>
      unfold rollbackTarget at htarget
      split at htarget
      · rename_i stored exact hdeployment hstate
        split_ifs at htarget with hmatch
        obtain ⟨rfl, rfl⟩ := Prod.mk.inj (Option.some.inj htarget)
        have hid : stored.id = rollback.deploymentId := Table.key_of_select hdeployment
        simp only [checkRollback, validateCandidatePilotRollbackChronology, then_eq_ok,
          parse_bind, throwIf_eq_ok, not_or, not_lt, not_and, Bool.not_eq_false] at hcheck
        obtain ⟨⟨-, -, -, ⟨-, hupdated⟩, -⟩, hflat⟩ := hcheck
        refine .move stored _ _ (hid ▸ hdeployment) ⟨⟨rfl, rfl, rfl⟩, ?_, ?_, ?_⟩ rfl rfl
        · refine phaseMove_rollback (hmatch.2.2.1 ▸ hmatch.1) fun hcompleted => ?_
          exact ⟨exact, hid ▸ hstate, hflat hcompleted⟩
        · exact hepoch ▸ hupdated
        · exact Or.inl ⟨rfl, rfl, fun hactive => absurd hactive (toPhase_ne_active eventType)⟩
      · cases htarget

theorem moved_rollbackWithAuthority (stores : PilotStores) (eventType : RollbackEventType)
    (rollback : CandidatePilotRollbackInput) :
    Moved stores.repo (rollbackWithAuthority stores eventType rollback).2.repo := by
  unfold rollbackWithAuthority
  cases hinput : validateCandidatePilotRollbackInput rollback with
  | error e => exact .same
  | ok u =>
    dsimp only
    split_ifs
    · exact moved_rollback stores.repo eventType hinput
    · exact .same

variable (sha256Hex : String → String)

theorem effect_advanceStateWithEvidence (repo : PilotRepository)
    (input : AdvanceCandidatePilotStateInput) :
    Effect creates repo (advanceStateWithEvidence sha256Hex repo input).2 := by
  unfold advanceStateWithEvidence
  cases hresolve : resolveEvidence sha256Hex repo input with
  | error e => exact .same
  | ok outcome =>
    cases outcome with
    | duplicate state evidence => exact .same
    | advanced phase records state next material =>
      -- the phase of the outcome is that of the stored deployment
      unfold resolveEvidence at hresolve
      obtain ⟨-, hresolve⟩ := then_eq_ok.mp hresolve
      split at hresolve
      · rename_i deployment current hdeployment hstate
        obtain ⟨stored, -, hresolve⟩ := bind_eq_ok.mp hresolve
        unfold resolveMaterial at hresolve
        split at hresolve
        · simp [resolveDuplicate, then_eq_ok] at hresolve
        · simp only [resolveNewEvidence, bind_eq_ok, Except.ok.injEq] at hresolve
          obtain ⟨-, -, projected, -, -, -, heq⟩ := hresolve
          injection heq with hphase
          subst hphase
          exact .advance deployment input.deploymentId hdeployment records state next material
      · cases hresolve

variable {deployment : PositionGuardPilotDeploymentRecord}

theorem updatedAt_le_of_chronology {occurredAt : String} {latestAuditAt : Option String} {u : Unit}
    (h : validateCandidatePilotRecoveryFaultChronology occurredAt deployment latestAuditAt = .ok u) :
    instant deployment.updatedAt ≤ instant occurredAt := by
  unfold validateCandidatePilotRecoveryFaultChronology at h
  rw [parse_bind, parse_bind] at h
  obtain ⟨-, -, h⟩ := h
  cases latestAuditAt with
  | none =>
    dsimp only at h
    rw [ok_bind] at h
    split_ifs at h with _ hearlier
    exact not_lt.mp fun hlt => hearlier (Or.inl hlt)
  | some text =>
    dsimp only at h
    rw [parse_bind, ok_bind] at h
    obtain ⟨-, h⟩ := h
    split_ifs at h with _ hearlier
    exact not_lt.mp fun hlt => hearlier (Or.inl hlt)

variable {request : FaultRequest} {stores : PilotStores} {reads : FaultReads}

theorem deployment_of_readFault (h : readFault stores request = .ok reads) :
    stores.repo.deployment reads.deployment.id = some reads.deployment := by
  unfold readFault at h
  split at h
  · rename_i deployment state hdeployment hstate
    split_ifs at h
    rw [← Except.ok.inj h]
    have hid : deployment.id = request.fault.deploymentId := Table.key_of_select hdeployment
    exact hid ▸ hdeployment
  · cases h

theorem moved_finishFault (parseProvenance : String → Except String CandidateIntentFaultProvenance)
    (hreads : readFault stores request = .ok reads) (executionState : ExecutionStateRecord) :
    Moved stores.repo
      (finishFault sha256Hex parseProvenance stores request reads executionState).2.repo := by
  have hdeployment := deployment_of_readFault hreads
  unfold finishFault
  cases hwrite : writeFault sha256Hex parseProvenance stores request reads executionState with
  | error e => exact .same
  | ok written =>
    obtain ⟨result, stores'⟩ := written
    simp only [writeFault, bind_eq_ok] at hwrite
    obtain ⟨latest, -, occurredAt, -, transitionAt, -, hwrite⟩ := hwrite
    split_ifs at hwrite
    · simp only [applyFault, bind_eq_ok, throwIf_eq_ok, Bool.not_eq_false, Except.ok.injEq,
        Prod.mk.injEq] at hwrite
      obtain ⟨_, hpausable, _, hchronology, operator, -, -, rfl⟩ := hwrite
      have hupdated := updatedAt_le_of_chronology hchronology
      refine .move reads.deployment _ _ hdeployment ⟨⟨rfl, rfl, rfl⟩, .fault hpausable, hupdated, ?_⟩
        rfl rfl
      exact Or.inl ⟨rfl, rfl, fun hactive => by cases hactive⟩
    · rw [bind_eq_ok] at hwrite
      obtain ⟨answer, -, heq⟩ := hwrite
      obtain ⟨-, rfl⟩ := Prod.mk.inj (Except.ok.inj heq)
      exact .same

section Steps

variable {localeLe : String → String → Bool} {sha256Hex : String → String}
  {parseKind : String → Option JsonKind}
  {parseProvenance : String → Except String CandidateIntentFaultProvenance} {hasStore : Bool}

theorem effect_runAtOnce (stores : PilotStores) {call : PilotCall}
    (htyped : RepositoryCall.Typed (.pilot call)) :
    Effect creates stores.repo (runAtOnce sha256Hex stores call).2.repo := by
  cases call with
  | activateDeployment input => exact effect_activate stores.repo input htyped
  | startRollback input => exact (moved_rollbackWithAuthority stores .started input).effect
  | completeRollback input => exact (moved_rollbackWithAuthority stores .completed input).effect
  | advanceStateWithEvidence input => exact effect_advanceStateWithEvidence _ _ input
  | operatorCommand command clock => exact .same
  | operatorFaultPause input =>
    unfold runAtOnce
    dsimp only
    split <;> exact .same
  | pauseForRecoveryFault input => exact .same
  | pauseForCandidateIntentFault input => exact .same

theorem effect_runCall (stores : PilotStores) {call : PilotCall}
    (htyped : RepositoryCall.Typed (.pilot call)) :
    Effect creates stores.repo (runCall sha256Hex parseKind parseProvenance stores call).2.repo := by
  unfold runCall
  cases faultRequest sha256Hex parseKind parseProvenance call with
  | none => exact effect_runAtOnce stores htyped
  | some validated =>
    cases validated with
    | error e => exact .same
    | ok request =>
      dsimp only
      cases hreads : readFault stores request with
      | error e => exact .same
      | ok reads => exact (moved_finishFault _ _ hreads _).effect

theorem effect_runRepositoryCall (stores : PilotStores) {call : RepositoryCall}
    (htyped : call.Typed) :
    Effect call.Creates stores.repo
      (runRepositoryCall localeLe sha256Hex parseKind parseProvenance hasStore stores call).repo := by
  cases call with
  | createDeploymentWithInitialState deployment initialState =>
    exact effect_create stores.repo deployment initialState
  | initializeDeploymentWithInitialState deployment initialState =>
    exact effect_initialize localeLe stores.repo deployment initialState
  | pilot call =>
    unfold runRepositoryCall
    dsimp only
    split_ifs
    · exact .same
    · exact effect_runCall stores htyped

/-! ### Steps and runs -/

variable {repo repo' : PilotRepository}

theorem deployment_storePhase (after : PositionGuardPilotDeploymentRecord)
    (event : PositionGuardPilotAuditEventRecord) (id : String) :
    (PilotRepository.storePhase repo after event).deployment id =
      if after.id = id then some after else repo.deployment id :=
  Table.select_upsert after id repo.deployments

theorem deployment_insert (deployment : PositionGuardPilotDeploymentRecord) (id : String) :
    (repo.insertDeploymentWithInitialState deployment).deployment id =
      if deployment.id = id then some deployment else repo.deployment id :=
  Table.select_upsert deployment id repo.deployments

variable {id : String} {after : PositionGuardPilotDeploymentRecord}

/-- **The step rule.** A deployment is never lost, and moves by the rules only. -/
theorem deploymentMove_of_effect (h : Effect creates repo repo')
    (hdeployment : repo.deployment id = some deployment) :
    ∃ after, repo'.deployment id = some after ∧
      DeploymentMove (FlatState repo id) deployment after := by
  cases h with
  | same => exact ⟨deployment, hdeployment, .refl _ _⟩
  | create created hnew hcreates =>
    have hne : created.id ≠ id := by
      rintro rfl
      rw [hnew] at hdeployment
      cases hdeployment
    refine ⟨deployment, ?_, .refl _ _⟩
    rw [deployment_insert, if_neg hne, hdeployment]
  | advance stored deploymentId hstored records state next material =>
    exact ⟨deployment, hdeployment, .refl _ _⟩
  | move before after event hbefore hmove hfrom hto =>
    rw [deployment_storePhase, hmove.identity.1]
    by_cases hid : before.id = id
    · subst hid
      rw [hbefore] at hdeployment
      obtain rfl := Option.some.inj hdeployment
      exact ⟨after, if_pos rfl, hmove⟩
    · exact ⟨deployment, by rw [if_neg hid, hdeployment], .refl _ _⟩

/-- Every deployment is recorded from its creation on. -/
def AllRecorded (repo : PilotRepository) : Prop :=
  ∀ id deployment, repo.deployment id = some deployment →
    ∃ first, Recorded first (repo.audits id) deployment.phase

theorem audits_update (id id' : String) (events : List PositionGuardPilotAuditEventRecord) :
    (Function.update repo.auditEvents id (some events) id').getD [] =
      if id = id' then events else repo.audits id' := by
  by_cases h : id = id'
  · subst h
    simp
  · rw [Function.update_of_ne (Ne.symm h), if_neg h]
    rfl

theorem audits_insert (deployment : PositionGuardPilotDeploymentRecord) (id : String) :
    (repo.insertDeploymentWithInitialState deployment).audits id =
      if deployment.id = id then [createdAuditEvent deployment] else repo.audits id :=
  audits_update deployment.id id _

theorem audits_storePhase (after : PositionGuardPilotDeploymentRecord)
    (event : PositionGuardPilotAuditEventRecord) (id : String) :
    (PilotRepository.storePhase repo after event).audits id =
      if after.id = id then repo.audits after.id ++ [event] else repo.audits id :=
  audits_update after.id id _

theorem audits_storeAdvance (deploymentId : String) (phase : PositionGuardPilotPhase)
    (records : List StoredEvidence) (state next : ExactCandidateState) (material : EvidenceMaterial)
    (id : String) :
    (repo.storeAdvance deploymentId phase records state next material).audits id =
      if deploymentId = id then repo.audits deploymentId ++ [advancedAuditEvent deploymentId phase
        material state.stateVersion next.stateVersion] else repo.audits id :=
  audits_update deploymentId id _

theorem recorded_created (deployment : PositionGuardPilotDeploymentRecord) :
    Recorded deployment.phase [createdAuditEvent deployment] deployment.phase :=
  ⟨_, [], rfl, rfl, rfl, rfl, rfl⟩

theorem created_of_effect (h : Effect creates repo repo') (hnew : repo.deployment id = none)
    (hdeployment : repo'.deployment id = some deployment) :
    creates deployment ∧ repo'.audits id = [createdAuditEvent deployment] := by
  cases h with
  | same =>
    rw [hnew] at hdeployment
    cases hdeployment
  | create created hfree hcreates =>
    rw [deployment_insert] at hdeployment
    split_ifs at hdeployment with hid
    · obtain rfl := Option.some.inj hdeployment
      exact ⟨hcreates, (audits_insert created id).trans (if_pos hid)⟩
    · rw [hnew] at hdeployment
      cases hdeployment
  | advance stored deploymentId hstored records state next material =>
    have hsame : repo.deployment id = some deployment := hdeployment
    rw [hnew] at hsame
    cases hsame
  | move before after event hbefore hmove hfrom hto =>
    rw [deployment_storePhase, hmove.identity.1] at hdeployment
    split_ifs at hdeployment with hid
    · rw [hid, hnew] at hbefore
      cases hbefore
    · rw [hnew] at hdeployment
      cases hdeployment

/-- **The step rule of the audit events.** -/
theorem continues_of_effect (h : Effect creates repo repo')
    (hbefore : repo.deployment id = some deployment) (hafter : repo'.deployment id = some after) :
    Continues 1 (repo.audits id) deployment.phase (repo'.audits id) after.phase := by
  cases h with
  | same =>
    obtain rfl := Option.some.inj (hbefore.symm.trans hafter)
    exact .same _
  | create created hnew hcreates =>
    have hne : created.id ≠ id := by
      rintro rfl
      rw [hnew] at hbefore
      cases hbefore
    rw [deployment_insert, if_neg hne, hbefore] at hafter
    obtain rfl := Option.some.inj hafter
    rw [audits_insert, if_neg hne]
    exact .same _
  | advance stored deploymentId hstored records state next material =>
    obtain rfl := Option.some.inj (hbefore.symm.trans hafter)
    rw [audits_storeAdvance]
    split_ifs with hid
    · subst hid
      obtain rfl := Option.some.inj (hstored.symm.trans hbefore)
      exact .one rfl rfl
    · exact .same _
  | move before moved event hstored hmove hfrom hto =>
    rw [deployment_storePhase] at hafter
    rw [audits_storePhase]
    split_ifs at hafter ⊢ with hid
    · rw [← hmove.identity.1, hid, hbefore] at hstored
      obtain rfl := Option.some.inj hafter
      obtain rfl := Option.some.inj hstored
      rw [hid]
      exact .one hfrom hto
    · obtain rfl := Option.some.inj (hbefore.symm.trans hafter)
      exact .same _

theorem allRecorded_of_effect (h : Effect creates repo repo') (hrecorded : AllRecorded repo) :
    AllRecorded repo' := by
  intro id after hafter
  cases hbefore : repo.deployment id with
  | none =>
    rw [(created_of_effect h hbefore hafter).2]
    exact ⟨_, recorded_created after⟩
  | some deployment =>
    obtain ⟨first, hfirst⟩ := hrecorded id deployment hbefore
    obtain ⟨added, hadded, -, hchain⟩ := continues_of_effect h hbefore hafter
    rw [hadded]
    exact ⟨first, hfirst.append hchain⟩

/-- What any number of steps may change of a deployment. -/
structure LaterDeployment (before after : PositionGuardPilotDeploymentRecord) : Prop where
  updatedAt : instant before.updatedAt ≤ instant after.updatedAt
  activation : before.activationAt ≠ none ∨ before.activationEpochNs ≠ none →
    after.activationAt = before.activationAt ∧ after.activationEpochNs = before.activationEpochNs
  final : before.phase = .pausedFault ∨ before.phase = .disabled → after.phase = before.phase

theorem laterDeployment_of_move {flat : Prop} {before after : PositionGuardPilotDeploymentRecord}
    (h : DeploymentMove flat before after) : LaterDeployment before after where
  updatedAt := h.updatedAt
  activation := by
    intro hset
    rcases h.activation with ⟨hat, hepoch, -⟩ | ⟨-, hat, hepoch, -⟩
    · exact ⟨hat, hepoch⟩
    · rcases hset with hset | hset
      · exact absurd hat hset
      · exact absurd hepoch hset
  final := by
    intro hfinal
    have hphase := h.phase
    generalize before.phase = phase at hphase hfinal
    generalize after.phase = phase' at hphase
    cases hphase with
    | stay => rfl
    | activate => simp at hfinal
    | drain => simp at hfinal
    | fault hpausable => rcases hfinal with rfl | rfl <;> simp [isFaultPausablePhase] at hpausable
    | disable hcompletable =>
      rcases hfinal with rfl | rfl <;> simp [isRollbackCompletablePhase] at hcompletable

theorem LaterDeployment.trans {a b c : PositionGuardPilotDeploymentRecord}
    (hab : LaterDeployment a b) (hbc : LaterDeployment b c) : LaterDeployment a c where
  updatedAt := hab.updatedAt.trans hbc.updatedAt
  activation := by
    intro hset
    obtain ⟨hat, hepoch⟩ := hab.activation hset
    obtain ⟨hat', hepoch'⟩ := hbc.activation (by rw [hat, hepoch]; exact hset)
    exact ⟨hat'.trans hat, hepoch'.trans hepoch⟩
  final := by
    intro hfinal
    have hphase := hab.final hfinal
    exact (hbc.final (by rw [hphase]; exact hfinal)).trans hphase

variable (localeLe sha256Hex parseKind parseProvenance hasStore)

/-- The stores after the calls, from an empty repository on. -/
def runCalls (operator : AutoTrade.Operator.InMemoryStore.InMemoryOperatorStateStore)
    (calls : List RepositoryCall) : PilotStores :=
  run (runRepositoryCall localeLe sha256Hex parseKind parseProvenance hasStore) ⟨.empty, operator⟩
    calls

variable {localeLe sha256Hex parseKind parseProvenance hasStore}

section

variable (operator : AutoTrade.Operator.InMemoryStore.InMemoryOperatorStateStore)
include operator

theorem runCalls_concat (calls : List RepositoryCall) (call : RepositoryCall) :
    runCalls localeLe sha256Hex parseKind parseProvenance hasStore operator (calls ++ [call]) =
      runRepositoryCall localeLe sha256Hex parseKind parseProvenance hasStore
        (runCalls localeLe sha256Hex parseKind parseProvenance hasStore operator calls) call := by
  unfold runCalls
  rw [run_append]
  rfl

theorem allRecorded_runCalls {calls : List RepositoryCall} (htyped : ∀ call ∈ calls, call.Typed) :
    AllRecorded
      (runCalls localeLe sha256Hex parseKind parseProvenance hasStore operator calls).repo := by
  induction calls using List.reverseRecOn with
  | nil =>
    intro id deployment hdeployment
    cases hdeployment
  | append_singleton calls call ih =>
    rw [runCalls_concat]
    have hcall := htyped call (by simp)
    exact allRecorded_of_effect (effect_runRepositoryCall _ hcall)
      (ih fun c hc => htyped c (List.mem_append_left _ hc))

theorem laterDeployment_runCalls {calls later : List RepositoryCall}
    (htyped : ∀ call ∈ later, call.Typed)
    (hdeployment : (runCalls localeLe sha256Hex parseKind parseProvenance hasStore operator
      calls).repo.deployment id = some deployment) :
    ∃ after, (runCalls localeLe sha256Hex parseKind parseProvenance hasStore operator
      (calls ++ later)).repo.deployment id = some after ∧ LaterDeployment deployment after := by
  induction later using List.reverseRecOn with
  | nil =>
    refine ⟨deployment, by rwa [List.append_nil], ?_⟩
    exact laterDeployment_of_move (.refl False deployment)
  | append_singleton later call ih =>
    obtain ⟨middle, hmiddle, hlater⟩ := ih fun c hc => htyped c (List.mem_append_left _ hc)
    rw [← List.append_assoc, runCalls_concat]
    obtain ⟨after, hafter, hmove⟩ :=
      deploymentMove_of_effect (effect_runRepositoryCall _ (htyped call (by simp))) hmiddle
    exact ⟨after, hafter, hlater.trans (laterDeployment_of_move hmove)⟩

/-- **The audit events are append-only.** After any more calls the events of a deployment are those it
had and at most one new one for each call, and the new ones lead from the phase it had to its
phase. -/
theorem audits_append_only {calls later : List RepositoryCall}
    (htyped : ∀ call ∈ later, call.Typed) (id : String) :
    let repo := fun calls =>
      (runCalls localeLe sha256Hex parseKind parseProvenance hasStore operator calls).repo
    ∀ deployment, (repo calls).deployment id = some deployment →
      ∃ after, (repo (calls ++ later)).deployment id = some after ∧
        Continues later.length ((repo calls).audits id) deployment.phase
          ((repo (calls ++ later)).audits id) after.phase := by
  intro repo deployment hdeployment
  induction later using List.reverseRecOn with
  | nil =>
    rw [List.append_nil]
    exact ⟨deployment, hdeployment, .same _⟩
  | append_singleton later call ih =>
    obtain ⟨middle, hmiddle, hcontinues⟩ := ih fun c hc => htyped c (List.mem_append_left _ hc)
    have heffect : Effect call.Creates (repo (calls ++ later)) (repo (calls ++ (later ++ [call]))) := by
      rw [← List.append_assoc]
      dsimp only [repo]
      rw [runCalls_concat]
      exact effect_runRepositoryCall _ (htyped call (by simp))
    obtain ⟨after, hafter, -⟩ := deploymentMove_of_effect heffect hmiddle
    refine ⟨after, hafter, ?_⟩
    rw [List.length_append]
    exact hcontinues.trans (continues_of_effect heffect hmiddle hafter)

end

/-- **The phase machine.** In every run of well-typed calls, throwing ones included, a deployment is
recorded from its creation on, each step moves it by the rules, no step sets its activation again,
lets its last update go back or leaves `PAUSED_FAULT` or `DISABLED`, and a new deployment is one that
the call creates. -/
theorem deployments_follow_phases
    (operator : AutoTrade.Operator.InMemoryStore.InMemoryOperatorStateStore)
    {calls later : List RepositoryCall} {call : RepositoryCall}
    (htyped : ∀ c ∈ calls ++ call :: later, c.Typed) (id : String) :
    let stores := runCalls localeLe sha256Hex parseKind parseProvenance hasStore operator calls
    let next := runCalls localeLe sha256Hex parseKind parseProvenance hasStore operator
      (calls ++ [call])
    let final := runCalls localeLe sha256Hex parseKind parseProvenance hasStore operator
      (calls ++ call :: later)
    (∀ deployment, stores.repo.deployment id = some deployment →
      (∃ first, Recorded first (stores.repo.audits id) deployment.phase) ∧
        (∃ after, next.repo.deployment id = some after ∧
          DeploymentMove (FlatState stores.repo id) deployment after) ∧
        ∃ after, final.repo.deployment id = some after ∧ LaterDeployment deployment after) ∧
      (stores.repo.deployment id = none → ∀ deployment, next.repo.deployment id = some deployment →
        call.Creates deployment ∧ next.repo.audits id = [createdAuditEvent deployment]) := by
  intro stores next final
  have hcall : call.Typed := htyped call (by simp)
  have heffect : Effect call.Creates stores.repo next.repo := by
    have hnext : next = runRepositoryCall localeLe sha256Hex parseKind parseProvenance hasStore
        stores call := runCalls_concat operator calls call
    rw [hnext]
    exact effect_runRepositoryCall stores hcall
  refine ⟨fun deployment hdeployment => ⟨?_, ?_, ?_⟩, fun hnew deployment hdeployment => ?_⟩
  · exact allRecorded_runCalls operator (fun c hc => htyped c (List.mem_append_left _ hc)) id
      deployment hdeployment
  · exact deploymentMove_of_effect heffect hdeployment
  · exact laterDeployment_runCalls operator (fun c hc => htyped c (List.mem_append_right _ hc))
      hdeployment
  · exact created_of_effect heffect hnew hdeployment

end Steps

/-! ### Sample runs -/

/-- The run of calls whose digests and provenances are not read. -/
def sampleRun (calls : List RepositoryCall) : PilotStores :=
  runCalls (fun _ _ => true) (fun _ => "") parseEmptyObject (fun _ => .error "no provenance") true
    sampleStores.operator calls

def sampleCalls : List RepositoryCall :=
  [.initializeDeploymentWithInitialState sampleDeployment createEmptyPositionGuardCandidateState,
    .pilot (.activateDeployment sampleActivation)]

theorem deployments_follow_phases_rollback :
    ((sampleRun sampleCalls).repo.deployment "deployment").isSome = true ∧
      (((sampleRun (sampleCalls ++ [.pilot sampleRollback])).repo.deployment "deployment").map
        (·.phase)) = some .disabled ∧
      ∀ deployment, (sampleRun sampleCalls).repo.deployment "deployment" = some deployment →
        ∃ after, (sampleRun (sampleCalls ++ [.pilot sampleRollback])).repo.deployment "deployment" =
          some after ∧ DeploymentMove (FlatState (sampleRun sampleCalls).repo "deployment") deployment
            after := by
  have htyped : ∀ c ∈ sampleCalls ++ .pilot sampleRollback :: [], c.Typed := by
    simp [sampleCalls, RepositoryCall.Typed, sampleRollback, sampleActivation]
  refine ⟨by decide +kernel, by decide +kernel, fun deployment hdeployment => ?_⟩
  exact ((deployments_follow_phases sampleStores.operator htyped "deployment").1 deployment
    hdeployment).2.1

theorem audits_append_only_rollback :
    ((sampleRun sampleCalls).repo.audits "deployment").length = 2 ∧
      ∀ deployment, (sampleRun sampleCalls).repo.deployment "deployment" = some deployment →
        ∃ after, (sampleRun (sampleCalls ++ [.pilot sampleRollback])).repo.deployment "deployment" =
          some after ∧ Continues 1 ((sampleRun sampleCalls).repo.audits "deployment") deployment.phase
            ((sampleRun (sampleCalls ++ [.pilot sampleRollback])).repo.audits "deployment")
            after.phase := by
  refine ⟨by decide +kernel, ?_⟩
  exact audits_append_only sampleStores.operator
    (by simp [RepositoryCall.Typed, sampleRollback]) "deployment"

/-- A deployment that is active from the start. -/
def activeDeployment : PositionGuardPilotDeploymentRecord :=
  { sampleDeployment with
    phase := .active
    activationAt := some "2026-01-01T00:00:00.000Z"
    activationEpochNs := some 1767225600000000000 }

/-- **A deployment may be created in a later phase.** It is active without a change from
`PENDING_FLAT`. -/
theorem created_active_without_change :
    let repo := (sampleRun [.createDeploymentWithInitialState activeDeployment
      createEmptyPositionGuardCandidateState]).repo
    (repo.deployment "deployment").map (·.phase) = some .active ∧
      ¬ PhaseChain .pendingFlat (phaseChanges (repo.audits "deployment")) .active := by
  have hchanges : phaseChanges ((sampleRun [.createDeploymentWithInitialState activeDeployment
      createEmptyPositionGuardCandidateState]).repo.audits "deployment") = [] := by decide +kernel
  refine ⟨by decide +kernel, ?_⟩
  rw [hchanges]
  intro hchain
  cases hchain

end AutoTrade.Pilot.PhaseMachine
