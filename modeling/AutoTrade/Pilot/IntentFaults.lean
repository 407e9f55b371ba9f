import AutoTrade.Operator.FaultPauses
import AutoTrade.Pilot.EvidenceReplay
import AutoTrade.Pilot.PhaseMachine

/-! # Pausing for an intent fault, twice

A fault of a candidate intent pauses the deployment and the account at the attempted instant, or one
nanosecond after everything that is recorded of the deployment. All times of a run can be read
(`dated_runCalls`), so the only instants at which the pause cannot be made are those before 1970 and
from the year 10000 on.

A repetition of the request builds the record of the fault again and compares it with the stored one.
The version of the state is part of the record, so the request is a duplicate only as long as no new
evidence is stored (`applies_iff`). -/

namespace AutoTrade.Pilot.IntentFaults

open Lib Lib.Run Lib.Text Lib.Result Domain.Types
open Domain.PilotTypes Domain.Timestamp
open Strategy.CandidateState Execution.EvidenceDecimals
open Execution.CandidateBinding
open Operator.State Operator.FaultWriters
open Operator.InMemoryStore (InMemoryOperatorStateStore getTransitionById recordTransition
  applyFaultPauseAtomically applyFaultPause_cases step_of_ok)
open Operator.FaultPauses.InMemory (Stamped stamped_step faultPause_outcome)
open Pilot.InMemoryRepository Pilot.EvidenceReplay Pilot.PhaseCalls
open Pilot.Linearizability Pilot.PhaseMachine

/-! ### The times of a run -/

variable {localeLe : String → String → Bool} {sha256Hex : String → String}
  {parseKind : String → Option JsonKind}
  {parseProvenance : String → Except String CandidateIntentFaultProvenance} {hasStore : Bool}
  {repo : PilotRepository} {stores : PilotStores} {account : String}
  {input : PauseCandidateIntentFaultInput} {deployment : PositionGuardPilotDeploymentRecord}
  {state : ExactCandidateState} {text : String}

/-- The times of deployments and audit events can be read. -/
structure Dated (repo : PilotRepository) : Prop where
  deployments : ∀ deployment ∈ repo.deployments, IsCandidateTimestamp deployment.updatedAt
  audits : ∀ id, ∀ event ∈ repo.audits id, IsCandidateTimestamp event.createdAt

theorem dated_insert (h : Dated repo)
    (hvalid : validateCandidatePilotDeployment deployment = .ok ()) :
    Dated (repo.insertDeploymentWithInitialState deployment) := by
  simp only [validateCandidatePilotDeployment, then_eq_ok, parse_bind] at hvalid
  obtain ⟨-, -, hcreated, hupdated, -⟩ := hvalid
  constructor
  · intro stored hstored
    rcases Table.mem_upsert hstored with rfl | ⟨hold, -⟩
    · exact hupdated
    · exact h.deployments stored hold
  · intro id event hevent
    rw [audits_insert] at hevent
    split_ifs at hevent
    · rw [List.mem_singleton.mp hevent]
      exact hcreated
    · exact h.audits id event hevent

theorem dated_storePhase (h : Dated repo) {event : PositionGuardPilotAuditEventRecord}
    (hdeployment : IsCandidateTimestamp deployment.updatedAt)
    (hevent : IsCandidateTimestamp event.createdAt) :
    Dated (PilotRepository.storePhase repo deployment event) := by
  constructor
  · intro stored hstored
    rcases Table.mem_upsert hstored with rfl | ⟨hold, -⟩
    · exact hdeployment
    · exact h.deployments stored hold
  · intro id other hother
    rw [audits_storePhase] at hother
    split_ifs at hother
    · rcases List.mem_append.mp hother with hold | hnew
      · exact h.audits _ other hold
      · rw [List.mem_singleton.mp hnew]
        exact hevent
    · exact h.audits id other hother

theorem readable_of_material {deploymentId : String} {evidence : PositionGuardCandidateExecutionEvidence}
    {material : EvidenceMaterial}
    (h : candidateEvidenceMaterial sha256Hex deploymentId evidence = .ok material) :
    IsCandidateTimestamp material.evidence.executedAt := by
  unfold candidateEvidenceMaterial at h
  rw [then_eq_ok] at h
  obtain ⟨snapshot, -, h⟩ := bind_eq_ok.mp h.2
  simp only [then_eq_ok, parse_bind, Except.ok.injEq] at h
  obtain ⟨-, -, hreadable, -, rfl⟩ := h
  exact hreadable

theorem dated_advance (h : Dated repo) (input : AdvanceCandidatePilotStateInput) :
    Dated (advanceStateWithEvidence sha256Hex repo input).2 := by
  unfold advanceStateWithEvidence
  cases hresolve : resolveEvidence sha256Hex repo input with
  | error e => exact h
  | ok outcome =>
    cases outcome with
    | duplicate state evidence => exact h
    | advanced phase records state next material =>
      obtain ⟨-, hmaterial, -, -, -, -⟩ := resolve_advanced hresolve
      refine ⟨h.deployments, fun id event hevent => ?_⟩
      rw [audits_storeAdvance] at hevent
      split_ifs at hevent
      · rcases List.mem_append.mp hevent with hold | hnew
        · exact h.audits _ event hold
        · rw [List.mem_singleton.mp hnew]
          exact readable_of_material hmaterial
      · exact h.audits id event hevent

theorem dated_activate (h : Dated repo) (input : ActivateCandidatePilotDeploymentInput) :
    Dated (activateDeployment repo input).2 := by
  unfold activateDeployment
  cases repo.deployment input.deploymentId with
  | none => exact h
  | some deployment =>
    dsimp only
    split_ifs
    · exact h
    · cases hvalid : validateActivationInput input deployment with
      | error e => exact h
      | ok u =>
        simp only [validateActivationInput, parse_bind] at hvalid
        exact dated_storePhase h hvalid.1 hvalid.1

theorem dated_rollback (h : Dated repo) (eventType : RollbackEventType)
    {rollback : CandidatePilotRollbackInput}
    (hinput : validateCandidatePilotRollbackInput rollback = .ok ()) :
    Dated (applyRollback repo eventType rollback).2 := by
  simp only [validateCandidatePilotRollbackInput, then_eq_ok, parse_bind] at hinput
  obtain ⟨-, -, -, -, htransition, -⟩ := hinput
  unfold applyRollback
  cases rollbackTarget repo eventType rollback with
  | none => exact h
  | some target =>
    obtain ⟨deployment, state⟩ := target
    dsimp only
    cases checkRollback eventType rollback deployment state with
    | error e => exact h
    | ok u => exact dated_storePhase h htransition htransition

/-- The times of the stores can be read, and the operator state is the one of the account. -/
structure Sound (account : String) (stores : PilotStores) : Prop where
  dated : Dated stores.repo
  stamped : Stamped account stores.operator

theorem writeFault_eq_ok {request : FaultRequest} {reads : FaultReads}
    {executionState : ExecutionStateRecord} {result : PauseCandidatePilotForRecoveryFaultResult}
    {stores' : PilotStores}
    (h : writeFault sha256Hex parseProvenance stores request reads executionState =
      .ok (result, stores')) :
    stores' = stores ∨ ∃ fault transitionAt operator event,
      IsCandidateTimestamp fault ∧ event.createdAt = fault ∧
        applyFaultPauseAtomically stores.operator transitionAt = .ok operator ∧
        stores' = ⟨PilotRepository.storePhase stores.repo { reads.deployment with
          phase := .pausedFault, updatedAt := fault } event, operator⟩ := by
  simp only [writeFault, bind_eq_ok] at h
  obtain ⟨latest, -, occurredAt, -, transitionAt, -, h⟩ := h
  split_ifs at h
  · unfold applyFault at h
    rw [then_eq_ok, then_eq_ok] at h
    obtain ⟨-, hchronology, h⟩ := h
    obtain ⟨operator, hoperator, h⟩ := bind_eq_ok.mp h
    unfold validateCandidatePilotRecoveryFaultChronology at hchronology
    rw [parse_bind] at hchronology
    exact Or.inr ⟨occurredAt, _, operator, _, hchronology.1, rfl, hoperator,
      (Prod.mk.inj (Except.ok.inj h)).2.symm⟩
  · obtain ⟨answer, -, h⟩ := bind_eq_ok.mp h
    exact Or.inl (Prod.mk.inj (Except.ok.inj h)).2.symm

section

variable (h : Sound account stores)
include h

theorem sound_finishFault (request : FaultRequest) (reads : FaultReads)
    (executionState : ExecutionStateRecord) :
    Sound account
      (finishFault sha256Hex parseProvenance stores request reads executionState).2 := by
  unfold finishFault
  cases hwrite : writeFault sha256Hex parseProvenance stores request reads executionState with
  | error e => exact h
  | ok written =>
    obtain ⟨result, stores'⟩ := written
    obtain rfl | ⟨fault, pause, operator, event, hfault, hevent, hoperator, rfl⟩ :=
      writeFault_eq_ok hwrite
    · exact h
    · refine ⟨dated_storePhase h.dated hfault (hevent ▸ hfault), ?_⟩
      have hstep := stamped_step h.stamped (.faultPause pause)
      rw [step_of_ok hoperator] at hstep
      exact hstep

theorem sound_runAtOnce (call : PilotCall) : Sound account (runAtOnce sha256Hex stores call).2 := by
  have hrollback : ∀ eventType rollback,
      Sound account (rollbackWithAuthority stores eventType rollback).2 := by
    intro eventType rollback
    unfold rollbackWithAuthority
    cases hinput : validateCandidatePilotRollbackInput rollback with
    | error e => exact h
    | ok u =>
      dsimp only
      split_ifs
      · exact ⟨dated_rollback h.dated eventType hinput, h.stamped⟩
      · exact h
  cases call with
  | activateDeployment input => exact ⟨dated_activate h.dated input, h.stamped⟩
  | startRollback input => exact hrollback .started input
  | completeRollback input => exact hrollback .completed input
  | advanceStateWithEvidence input => exact ⟨dated_advance h.dated input, h.stamped⟩
  | operatorCommand command clock => exact ⟨h.dated, stamped_step h.stamped (.command command clock)⟩
  | operatorFaultPause input =>
    have hstep := stamped_step h.stamped (.faultPause input)
    unfold runAtOnce
    dsimp only
    cases hpause : applyFaultPauseAtomically stores.operator input with
    | error e => exact h
    | ok operator =>
      rw [step_of_ok hpause] at hstep
      exact ⟨h.dated, hstep⟩
  | pauseForRecoveryFault input => exact h
  | pauseForCandidateIntentFault input => exact h

theorem sound_runCall (call : PilotCall) :
    Sound account (runCall sha256Hex parseKind parseProvenance stores call).2 := by
  unfold runCall
  cases faultRequest sha256Hex parseKind parseProvenance call with
  | none => exact sound_runAtOnce h call
  | some validated =>
    cases validated with
    | error e => exact h
    | ok request =>
      dsimp only
      cases readFault stores request with
      | error e => exact h
      | ok reads => exact sound_finishFault h request reads _

theorem sound_runRepositoryCall (call : RepositoryCall) :
    Sound account
      (runRepositoryCall localeLe sha256Hex parseKind parseProvenance hasStore stores call) := by
  cases call with
  | createDeploymentWithInitialState deployment initialState =>
    refine ⟨?_, h.stamped⟩
    change Dated (createDeploymentWithInitialState stores.repo deployment initialState).2
    unfold createDeploymentWithInitialState
    cases hcheck : checkNewDeployment stores.repo deployment initialState with
    | error e => exact h.dated
    | ok u =>
      simp only [checkNewDeployment, validateInitialDeployment, then_eq_ok] at hcheck
      exact dated_insert h.dated hcheck.1.1
  | initializeDeploymentWithInitialState deployment initialState =>
    refine ⟨?_, h.stamped⟩
    change Dated (initializeDeploymentWithInitialState localeLe stores.repo deployment initialState).2
    rcases initialize_cases localeLe stores.repo deployment initialState with
      hsame | ⟨hinserted, hvalid, -⟩
    · rw [hsame]
      exact h.dated
    · simp only [validateInitialization, validateInitialDeployment, then_eq_ok] at hvalid
      rw [hinserted]
      exact dated_insert h.dated hvalid.1.1
  | pilot call =>
    unfold runRepositoryCall
    dsimp only
    split_ifs
    · exact h
    · exact sound_runCall h call

end

/-- **All times of a run can be read.** -/
theorem sound_runCalls {operator : InMemoryOperatorStateStore} (h : Stamped account operator)
    (calls : List RepositoryCall) :
    Sound account
      (runCalls localeLe sha256Hex parseKind parseProvenance hasStore operator calls) := by
  induction calls using List.reverseRecOn with
  | nil =>
    refine ⟨⟨fun deployment hdeployment => ?_, fun id event hevent => ?_⟩, h⟩
    · cases hdeployment
    · cases hevent
  | append_singleton calls call ih =>
    rw [runCalls_concat]
    exact sound_runRepositoryCall ih call

/-! ### The instant of the pause -/

/-- The latest instant that is recorded of the deployment. -/
def latestInstant (repo : PilotRepository) (deployment : PositionGuardPilotDeploymentRecord) : ℤ :=
  (repo.audits deployment.id).foldl (fun latest event => max latest (instant event.createdAt))
    (instant deployment.updatedAt)

/-- The instant at which a fault pauses the deployment: the attempted one, or one nanosecond after
everything that is recorded. -/
def occurrence (repo : PilotRepository) (deployment : PositionGuardPilotDeploymentRecord)
    (input : PauseCandidateIntentFaultInput) : ℤ :=
  max (instant input.occurredAt) (latestInstant repo deployment + 1)

/-- The newest audit event carries the latest instant. -/
theorem latestAudit_spec {events : List PositionGuardPilotAuditEventRecord}
    (h : ∀ event ∈ events, IsCandidateTimestamp event.createdAt) :
    ∃ latest, latestAudit events = .ok latest ∧
      (∀ event, latest = some event → IsCandidateTimestamp event.createdAt) ∧
        ∀ t, (latest.elim t fun event => max t (instant event.createdAt)) =
          events.foldl (fun t event => max t (instant event.createdAt)) t := by
  induction events using List.reverseRecOn with
  | nil => exact ⟨none, rfl, (fun event hevent => by cases hevent), fun t => rfl⟩
  | append_singleton events event ih =>
    obtain ⟨latest, hlatest, hreadable, hmax⟩ := ih fun e he => h e (List.mem_append_left _ he)
    have hevent : IsCandidateTimestamp event.createdAt := h event (by simp)
    unfold latestAudit at hlatest ⊢
    rw [List.foldlM_append, hlatest, ok_bind, List.foldlM_cons]
    cases latest with
    | none =>
      refine ⟨some event, rfl, fun e he => Option.some.inj he ▸ hevent, fun t => ?_⟩
      rw [List.foldl_append, ← hmax t]
      rfl
    | some best =>
      have hbest := hreadable best rfl
      dsimp only
      rw [parseCandidate_of_is hevent, ok_bind,
        parseCandidate_of_is hbest, ok_bind]
      refine ⟨_, rfl, ?_, fun t => ?_⟩
      · intro e he
        rw [← Option.some.inj he]
        split_ifs
        · exact hevent
        · exact hbest
      · rw [List.foldl_append, ← hmax t]
        dsimp only [Option.elim_some, List.foldl_cons, List.foldl_nil]
        split_ifs <;> omega

variable {t : ℤ}

theorem formatPilot_eq_ok {text : String} :
    formatCandidatePilotUtcNanoseconds t = .ok text ↔
      formatCanonicalUtcIsoNanoseconds t = .ok text := by
  unfold formatCandidatePilotUtcNanoseconds formatCanonicalUtcIsoNanoseconds
  dsimp only
  split_ifs <;> simp

/-- **A pause has a time exactly in the years 1970 to 9999.** -/
theorem formatPilot_spec :
    (∃ text, formatCandidatePilotUtcNanoseconds t = .ok text) ↔ 0 ≤ t ∧ t < endOfFourDigitYears := by
  simp only [formatPilot_eq_ok]
  constructor
  · rintro ⟨text, htext⟩
    by_contra hrange
    rcases not_and_or.mp hrange with hneg | hlate
    · unfold formatCanonicalUtcIsoNanoseconds at htext
      rw [if_pos (not_le.mp hneg)] at htext
      cases htext
    · obtain ⟨e, he⟩ := format_of_late (not_lt.mp hlate)
      rw [he] at htext
      cases htext
  · rintro ⟨h0, hlt⟩
    obtain ⟨text, htext, -, -⟩ := format_spec h0 hlt
    exact ⟨text, htext⟩

theorem instant_formatPilot {text : String} (h : formatCandidatePilotUtcNanoseconds t = .ok text) :
    IsStrictIso text ∧ IsCandidateTimestamp text ∧ instant text = t := by
  obtain ⟨h0, hlt⟩ := formatPilot_spec.mp ⟨text, h⟩
  obtain ⟨text', htext', hreadable, hinstant⟩ := format_spec h0 hlt
  obtain rfl := Except.ok.inj (htext'.symm.trans (formatPilot_eq_ok.mp h))
  exact ⟨isStrictIso_of_format htext', hreadable, hinstant⟩

theorem resolve_eq {latest : Option PositionGuardPilotAuditEventRecord}
    (hvalid : validateCandidateIntentFaultInput sha256Hex parseProvenance input = .ok ())
    (hupdated : IsCandidateTimestamp deployment.updatedAt)
    (hreadable : ∀ event, latest = some event → IsCandidateTimestamp event.createdAt)
    (hlatest : (latest.elim (instant deployment.updatedAt) fun event =>
      max (instant deployment.updatedAt) (instant event.createdAt)) = latestInstant repo deployment) :
    resolveCandidateIntentFaultOccurrence sha256Hex parseProvenance input
        (deployment.updatedAt :: (latest.map (·.createdAt)).toList) =
      formatCandidatePilotUtcNanoseconds (occurrence repo deployment input) := by
  have hoccurred : IsCandidateTimestamp input.occurredAt := by
    simp only [validateCandidateIntentFaultInput, then_eq_ok, parse_bind] at hvalid
    exact hvalid.2.2.2.2.2.2.2.1
  have hpersisted : latestPersistedEpoch (deployment.updatedAt ::
      (latest.map (·.createdAt)).toList) = .ok (some (latestInstant repo deployment)) := by
    rw [← hlatest]
    unfold latestPersistedEpoch
    rw [List.foldlM_cons, parseCandidate_of_is hupdated]
    cases latest with
    | none => rfl
    | some event =>
      have hevent := hreadable event rfl
      rw [ok_bind, ok_bind]
      dsimp only [Option.map_some, Option.toList_some, Option.elim_none, Option.elim_some]
      rw [List.foldlM_cons, parseCandidate_of_is hevent, ok_bind, ok_bind,
        Option.elim_some, max_comm]
      rfl
  unfold resolveCandidateIntentFaultOccurrence
  rw [hvalid, ok_bind, parseCandidate_of_is hoccurred, ok_bind, hpersisted, ok_bind,
    Option.elim_some]
  congr 1
  unfold occurrence
  split_ifs <;> omega

/-! ### The first call -/

/-- A valid request for a stored deployment, in the account of the operator state. -/
structure IsFaultOf (sha256Hex : String → String)
    (parseProvenance : String → Except String CandidateIntentFaultProvenance) (account : String)
    (stores : PilotStores) (input : PauseCandidateIntentFaultInput)
    (deployment : PositionGuardPilotDeploymentRecord) : Prop where
  valid : validateCandidateIntentFaultInput sha256Hex parseProvenance input = .ok ()
  deployed : stores.repo.deployment input.deploymentId = some deployment
  deploymentAccount : deployment.exchangeAccountId = input.exchangeAccountId
  account : input.exchangeAccountId = account

/-- Nothing is recorded under the id of the fault. -/
def IsNew (stores : PilotStores) (input : PauseCandidateIntentFaultInput) : Prop :=
  (∀ event ∈ stores.repo.audits input.deploymentId, event.id ≠ input.faultId) ∧
    getTransitionById stores.operator input.faultId = none

instance (stores : PilotStores) (input : PauseCandidateIntentFaultInput) :
    Decidable (IsNew stores input) := by
  unfold IsNew; infer_instance

/-- The fault at the time of its pause. -/
def faultAt (input : PauseCandidateIntentFaultInput) (occurredAt : String) :
    PauseCandidatePilotForRecoveryFaultInput :=
  { input.toPauseCandidatePilotForRecoveryFaultInput with occurredAt }

def pauseAt (input : PauseCandidateIntentFaultInput) (occurredAt transitionAt : String) :
    FaultPauseInput :=
  ⟨input.exchangeAccountId, input.faultId, candidatePilotRecoveryFaultReason (faultAt input occurredAt),
    occurredAt, some transitionAt⟩

def pausedAt (deployment : PositionGuardPilotDeploymentRecord) (occurredAt : String) :
    PositionGuardPilotDeploymentRecord :=
  { deployment with phase := .pausedFault, updatedAt := occurredAt }

def auditAt (input : PauseCandidateIntentFaultInput) (occurredAt : String)
    (deployment : PositionGuardPilotDeploymentRecord) (stateVersion : ℕ) :
    PositionGuardPilotAuditEventRecord :=
  buildCandidatePilotRecoveryFaultAuditEvent (faultAt input occurredAt) deployment.phase stateVersion

/-- What a call reads of a request. -/
def readsOf (stores : PilotStores) (input : PauseCandidateIntentFaultInput)
    (deployment : PositionGuardPilotDeploymentRecord) (state : ExactCandidateState) : FaultReads :=
  ⟨deployment, state.stateVersion,
    (stores.repo.audits input.deploymentId).find? fun event => event.id = input.faultId,
    getTransitionById stores.operator input.faultId⟩

theorem runCall_eq (h : IsFaultOf sha256Hex parseProvenance account stores input deployment)
    (hstate : stores.repo.exactStates input.deploymentId = some state) :
    runCall sha256Hex parseKind parseProvenance stores (.pauseForCandidateIntentFault input) =
      finishFault sha256Hex parseProvenance stores
        ⟨input.toPauseCandidatePilotForRecoveryFaultInput, some input⟩
        (readsOf stores input deployment state) stores.operator.state := by
  have hread : readFault stores ⟨input.toPauseCandidatePilotForRecoveryFaultInput, some input⟩ =
      .ok (readsOf stores input deployment state) := by
    unfold readFault
    dsimp only
    rw [h.deployed, hstate]
    dsimp only
    rw [if_neg (fun hne => hne h.deploymentAccount)]
    rfl
  unfold runCall faultRequest
  dsimp only
  rw [h.valid]
  dsimp only [Except.map]
  rw [hread]

theorem validate_pauseAt {transitionAt : String}
    (h : IsFaultOf sha256Hex parseProvenance account stores input deployment)
    (htext : IsStrictIso text) (htransition : IsStrictIso transitionAt)
    (hle : instant text ≤ instant transitionAt) :
    validateFaultPauseInput (pauseAt input text transitionAt) = .ok () := by
  have hvalid := h.valid
  simp only [validateCandidateIntentFaultInput, then_eq_ok] at hvalid
  obtain ⟨-, hrequireAccount, -, -, -, hrequireId, -⟩ := hvalid
  have haccount := requireNonEmpty_eq_ok.mp hrequireAccount
  have hid := requireNonEmpty_eq_ok.mp hrequireId
  have hreason : isBlank (candidatePilotRecoveryFaultReason (faultAt input text)) = false :=
    isBlank_append (isBlank_append (isBlank_append (by decide)))
  unfold validateFaultPauseInput
  rw [if_neg]
  · change (parseStrictIsoTimestamp text "occurredAt" >>= fun _ =>
      parseStrictIsoTimestamp transitionAt "transitionAt" >>= _) = _
    rw [parse_of_isStrictIso htext, ok_bind, parse_of_isStrictIso htransition, ok_bind,
      if_neg (not_lt.mpr hle)]
  · rintro (hempty | hblank | hblank)
    · have hempty' : input.exchangeAccountId = "" := hempty
      rw [hempty'] at haccount
      exact absurd haccount (by decide)
    · exact absurd (hid.symm.trans hblank) (by decide)
    · exact absurd (hreason.symm.trans hblank) (by decide)

theorem derive_eq {updatedAt : String} (htext : IsStrictIso text) (hupdated : IsStrictIso updatedAt) :
    ∃ transitionAt, deriveFaultPauseTransitionAt text updatedAt = .ok transitionAt ∧
      IsStrictIso transitionAt ∧ instant text ≤ instant transitionAt := by
  unfold deriveFaultPauseTransitionAt
  rw [parse_of_isStrictIso htext, ok_bind, parse_of_isStrictIso hupdated, ok_bind]
  refine ⟨_, rfl, ?_, ?_⟩
  · split_ifs
    · exact hupdated
    · exact htext
  · split_ifs with hlt
    · exact hlt.le
    · exact le_refl _

/-- A fault after everything that is recorded of its deployment keeps the chronology. -/
theorem chronology_of_later {latestAuditAt : Option String} (htext : IsCandidateTimestamp text)
    (hupdated : IsCandidateTimestamp deployment.updatedAt)
    (hlatest : ∀ auditAt, latestAuditAt = some auditAt →
      IsCandidateTimestamp auditAt ∧ instant auditAt < instant text)
    (hlt : instant deployment.updatedAt < instant text) :
    validateCandidatePilotRecoveryFaultChronology text deployment latestAuditAt = .ok () := by
  unfold validateCandidatePilotRecoveryFaultChronology
  rw [parseCandidate_of_is htext, ok_bind,
    parseCandidate_of_is hupdated, ok_bind]
  cases latestAuditAt with
  | none =>
    dsimp only
    rw [ok_bind, if_neg, if_neg]
    · rintro (hbefore | hbefore)
      · exact absurd hbefore (not_lt.mpr hlt.le)
      · cases hbefore
    · rintro ⟨-, hbefore | hbefore⟩
      · exact absurd hlt (not_lt.mpr hbefore)
      · cases hbefore
  | some auditAt =>
    obtain ⟨hreadable, hearlier⟩ := hlatest auditAt rfl
    dsimp only
    rw [parseCandidate_of_is hreadable, ok_bind, ok_bind, if_neg, if_neg]
    · rintro (hbefore | hbefore)
      · exact absurd hbefore (not_lt.mpr hlt.le)
      · exact absurd (of_decide_eq_true hbefore) (not_lt.mpr hearlier.le)
    · rintro ⟨-, hbefore | hbefore⟩
      · exact absurd hlt (not_lt.mpr hbefore)
      · exact absurd hearlier (not_lt.mpr (of_decide_eq_true hbefore))

theorem latestInstant_le (hsound : Sound account stores)
    (hdeployed : stores.repo.deployment input.deploymentId = some deployment) :
    ∃ latest, latestAudit (stores.repo.audits input.deploymentId) = .ok latest ∧
      IsCandidateTimestamp deployment.updatedAt ∧
      (∀ event, latest = some event → IsCandidateTimestamp event.createdAt ∧
        instant event.createdAt ≤ latestInstant stores.repo deployment) ∧
      instant deployment.updatedAt ≤ latestInstant stores.repo deployment ∧
      (latest.elim (instant deployment.updatedAt) fun event =>
        max (instant deployment.updatedAt) (instant event.createdAt)) =
          latestInstant stores.repo deployment := by
  have hid : deployment.id = input.deploymentId := Table.key_of_select hdeployed
  obtain ⟨latest, hlatest, hreadable, hmax⟩ :=
    latestAudit_spec (hsound.dated.audits input.deploymentId)
  have hinstant : (latest.elim (instant deployment.updatedAt) fun event =>
      max (instant deployment.updatedAt) (instant event.createdAt)) =
        latestInstant stores.repo deployment := by
    unfold latestInstant
    rw [hid]
    exact hmax _
  refine ⟨latest, hlatest, hsound.dated.deployments deployment (Table.mem_of_select hdeployed),
    fun event hevent => ⟨hreadable event hevent, ?_⟩, ?_, hinstant⟩
  · rw [← hinstant, hevent]
    exact le_max_right _ _
  · rw [← hinstant]
    cases latest with
    | none => exact le_refl _
    | some event => exact le_max_left _ _

theorem effectiveOccurredAt_new (h : IsFaultOf sha256Hex parseProvenance account stores input deployment)
    (hsound : Sound account stores) (hnew : IsNew stores input) :
    ∃ latest, latestAudit (stores.repo.audits input.deploymentId) = .ok latest ∧
      effectiveOccurredAt sha256Hex parseProvenance
          ⟨input.toPauseCandidatePilotForRecoveryFaultInput, some input⟩
          (readsOf stores input deployment state) latest =
        formatCandidatePilotUtcNanoseconds (occurrence stores.repo deployment input) ∧
      ∀ event, latest = some event → IsCandidateTimestamp event.createdAt ∧
        instant event.createdAt ≤ latestInstant stores.repo deployment := by
  obtain ⟨latest, hlatest, hupdated, hevents, -, hinstant⟩ := latestInstant_le hsound h.deployed
  refine ⟨latest, hlatest, ?_, hevents⟩
  have haudit : (readsOf stores input deployment state).existingAudit = none :=
    List.find?_eq_none.mpr fun event hevent => by simpa using hnew.1 event hevent
  unfold effectiveOccurredAt
  rw [haudit]
  exact resolve_eq h.valid hupdated (fun event hevent => (hevents event hevent).1) hinstant

section

variable (h : IsFaultOf sha256Hex parseProvenance account stores input deployment)
  (hpausable : isFaultPausablePhase deployment.phase = true) (hsound : Sound account stores)
  (hstate : stores.repo.exactStates input.deploymentId = some state)
include h hpausable hsound hstate

/-- **A new fault pauses the deployment and the account**, if its time can be written. -/
theorem runCall_new (hnew : IsNew stores input)
    (htext : formatCandidatePilotUtcNanoseconds (occurrence stores.repo deployment input) =
      .ok text) :
    ∃ transitionAt operator,
      applyFaultPauseAtomically stores.operator (pauseAt input text transitionAt) = .ok operator ∧
        Stopped operator.state.systemStatus ∧
        runCall sha256Hex parseKind parseProvenance stores (.pauseForCandidateIntentFault input) =
          (.paused (.ok ⟨pausedAt deployment text, operator.state,
            auditAt input text deployment state.stateVersion, false⟩),
          ⟨PilotRepository.storePhase stores.repo (pausedAt deployment text)
            (auditAt input text deployment state.stateVersion), operator⟩) := by
  obtain ⟨latest, hlatest, heffective, hevents⟩ := effectiveOccurredAt_new h hsound hnew
  obtain ⟨-, -, hupdated, -, hle, -⟩ := latestInstant_le hsound h.deployed
  obtain ⟨hstrict, hreadable, hinstant⟩ := instant_formatPilot htext
  have hlater : latestInstant stores.repo deployment < instant text := by
    rw [hinstant]
    unfold occurrence
    omega
  obtain ⟨transitionAt, hderive, htransition, hfollows⟩ := derive_eq hstrict hsound.stamped.2
  have hvalid := validate_pauseAt h hstrict htransition hfollows
  obtain ⟨operator, hoperator, hstopped⟩ :=
    (faultPause_outcome hvalid (h.account ▸ hsound.stamped)).1 (by
      have hnone : getTransitionById stores.operator (pauseAt input text transitionAt).faultId =
          none := hnew.2
      unfold Refused
      rw [hnone]
      rintro ⟨hnotime, -⟩
      cases hnotime)
  have hchronology : validateCandidatePilotRecoveryFaultChronology text deployment
      (latest.map (·.createdAt)) = .ok () := by
    refine chronology_of_later hreadable hupdated (fun auditTime haudit => ?_) (hle.trans_lt hlater)
    obtain ⟨event, hevent, rfl⟩ := Option.map_eq_some_iff.mp haudit
    obtain ⟨hreads, hbefore⟩ := hevents event hevent
    exact ⟨hreads, hbefore.trans_lt hlater⟩
  refine ⟨transitionAt, operator, hoperator, hstopped, ?_⟩
  have haudit : (readsOf stores input deployment state).existingAudit = none :=
    List.find?_eq_none.mpr fun event hevent => by simpa using hnew.1 event hevent
  have hwrite : writeFault sha256Hex parseProvenance stores
      ⟨input.toPauseCandidatePilotForRecoveryFaultInput, some input⟩
      (readsOf stores input deployment state) stores.operator.state = .ok
        (⟨pausedAt deployment text, operator.state,
            auditAt input text deployment state.stateVersion, false⟩,
          ⟨PilotRepository.storePhase stores.repo (pausedAt deployment text)
            (auditAt input text deployment state.stateVersion), operator⟩) := by
    unfold writeFault
    rw [hlatest, ok_bind, heffective, htext, ok_bind]
    dsimp only
    rw [hderive, ok_bind, if_pos ⟨haudit, hnew.2⟩]
    unfold applyFault
    have hphase : (readsOf stores input deployment state).deployment = deployment := rfl
    rw [hphase, hpausable, throwIf, if_neg (by decide), ok_bind, hchronology, ok_bind]
    change (applyFaultPauseAtomically stores.operator (pauseAt input text transitionAt) >>= _) = _
    rw [hoperator]
    rfl
  rw [runCall_eq h hstate]
  unfold finishFault
  rw [hwrite]

/-- A call that returns for a deployment under way has paused it at a new fault. -/
theorem new_of_runCall {result : PauseCandidatePilotForRecoveryFaultResult} {stores' : PilotStores}
    (hcall : runCall sha256Hex parseKind parseProvenance stores
      (.pauseForCandidateIntentFault input) = (.paused (.ok result), stores')) :
    IsNew stores input ∧ ∃ text, formatCandidatePilotUtcNanoseconds
      (occurrence stores.repo deployment input) = .ok text := by
  rw [runCall_eq h hstate] at hcall
  unfold finishFault at hcall
  split at hcall
  · rename_i written writtenStores hwrite
    unfold writeFault at hwrite
    obtain ⟨latest, hlatest, hwrite⟩ := bind_eq_ok.mp hwrite
    obtain ⟨text, heffective, hwrite⟩ := bind_eq_ok.mp hwrite
    dsimp only at hwrite
    obtain ⟨transitionAt, -, hwrite⟩ := bind_eq_ok.mp hwrite
    split_ifs at hwrite with hnone
    · have hnew : IsNew stores input := by
        refine ⟨fun event hevent hid => ?_, hnone.2⟩
        exact absurd (decide_eq_true hid) (List.find?_eq_none.mp hnone.1 event hevent)
      obtain ⟨latest', hlatest', heffective', -⟩ := effectiveOccurredAt_new h hsound hnew
      obtain rfl := Except.ok.inj (hlatest.symm.trans hlatest')
      exact ⟨hnew, text, heffective'.symm.trans heffective⟩
    · -- only a paused deployment has its fault recorded
      obtain ⟨answer, hreplay, -⟩ := bind_eq_ok.mp hwrite
      unfold replayFault at hreplay
      split at hreplay
      · split_ifs at hreplay with hpartial
        have hphase : deployment.phase = .pausedFault :=
          by_contra fun hne => hpartial (Or.inl hne)
        rw [hphase] at hpausable
        cases hpausable
      · cases hreplay
  · cases (Prod.mk.inj hcall).1

end

/-! ### Advances in between -/

section Advances

variable {repo' repo'' left right : PilotRepository} {id : String}

variable (sha256Hex parseKind parseProvenance stores) in
/-- The stores after advances, throwing ones included. -/
def advanceAll (advances : List AdvanceCandidatePilotStateInput) : PilotStores :=
  run (fun stores input => (runCall sha256Hex parseKind parseProvenance stores
    (.advanceStateWithEvidence input)).2) stores advances

/-- What advances may change: audit events are added, and the version of a state counts the records
that are. -/
structure Grown (repo repo' : PilotRepository) (id : String) : Prop where
  deployments : repo'.deployments = repo.deployments
  audits : ∃ more, repo'.audits id = repo.audits id ++ more
  state : ∀ state, repo.exactStates id = some state → ∃ state' more,
    repo'.exactStates id = some state' ∧ repo'.records id = repo.records id ++ more ∧
      state'.stateVersion = state.stateVersion + more.length

theorem Grown.refl (repo : PilotRepository) (id : String) : Grown repo repo id where
  deployments := rfl
  audits := ⟨[], (List.append_nil _).symm⟩
  state := fun state hstate => ⟨state, [], hstate, (List.append_nil _).symm, rfl⟩

theorem Grown.trans (h : Grown repo repo' id) (h' : Grown repo' repo'' id) : Grown repo repo'' id where
  deployments := h'.deployments.trans h.deployments
  audits := by
    obtain ⟨more, hmore⟩ := h.audits
    obtain ⟨more', hmore'⟩ := h'.audits
    exact ⟨more ++ more', by rw [hmore', hmore, List.append_assoc]⟩
  state := by
    intro state hstate
    obtain ⟨state', more, hstate', hrecords, hversion⟩ := h.state state hstate
    obtain ⟨state'', more', hstate'', hrecords', hversion'⟩ := h'.state state' hstate'
    refine ⟨state'', more ++ more', hstate'', by rw [hrecords', hrecords, List.append_assoc], ?_⟩
    rw [hversion', hversion, List.length_append]
    omega

theorem grown_advance (repo : PilotRepository) (input : AdvanceCandidatePilotStateInput) (id : String) :
    Grown repo (advanceStateWithEvidence sha256Hex repo input).2 id := by
  unfold advanceStateWithEvidence
  cases hresolve : resolveEvidence sha256Hex repo input with
  | error e => exact .refl repo id
  | ok outcome =>
    cases outcome with
    | duplicate state evidence => exact .refl repo id
    | advanced phase records state next material =>
      obtain ⟨hstate, -, rfl, -, -, hversion⟩ := resolve_advanced hresolve
      by_cases hid : input.deploymentId = id
      · subst hid
        refine ⟨rfl, ⟨_, (audits_update input.deploymentId input.deploymentId _).trans (if_pos rfl)⟩,
          fun state' hstate' => ?_⟩
        obtain rfl := Option.some.inj (hstate.symm.trans hstate')
        refine ⟨next, [storedRecord material], Function.update_self .., ?_, hversion⟩
        change (Function.update repo.evidence input.deploymentId _ input.deploymentId).getD [] = _
        rw [Function.update_self]
        rfl
      · refine ⟨rfl, ⟨[], ?_⟩, fun state' hstate' => ⟨state', [], ?_, ?_, rfl⟩⟩
        · rw [List.append_nil]
          exact (audits_update input.deploymentId id _).trans (if_neg hid)
        · exact (Function.update_of_ne (Ne.symm hid) _ _).trans hstate'
        · rw [List.append_nil]
          change (Function.update repo.evidence input.deploymentId _ id).getD [] = _
          rw [Function.update_of_ne (Ne.symm hid)]
          rfl

theorem grown_advanceAll (stores : PilotStores) (advances : List AdvanceCandidatePilotStateInput)
    (id : String) :
    Grown stores.repo (advanceAll sha256Hex parseKind parseProvenance stores advances).repo id ∧
      (advanceAll sha256Hex parseKind parseProvenance stores advances).operator =
        stores.operator := by
  induction advances generalizing stores with
  | nil => exact ⟨.refl stores.repo id, rfl⟩
  | cons input rest ih =>
    obtain ⟨hgrown, hoperator⟩ := ih (runCall sha256Hex parseKind parseProvenance stores
      (.advanceStateWithEvidence input)).2
    exact ⟨(grown_advance stores.repo input id).trans hgrown, hoperator⟩

theorem sound_advanceAll (h : Sound account stores)
    (advances : List AdvanceCandidatePilotStateInput) :
    Sound account (advanceAll sha256Hex parseKind parseProvenance stores advances) := by
  induction advances generalizing stores with
  | nil => exact h
  | cons input rest ih => exact ih (sound_runCall h _)

/-- The same states and records, of deployments with the same ids. -/
structure SameLedger (left right : PilotRepository) : Prop where
  exactStates : left.exactStates = right.exactStates
  evidence : left.evidence = right.evidence
  deployed : ∀ id, (left.deployment id).isSome = (right.deployment id).isSome

/-- The outcomes of one advance, which differ at most in the phase that is recorded. -/
inductive SameOutcome : EvidenceOutcome → EvidenceOutcome → Prop
  | duplicate (state : ExactCandidateState) (evidence : EvidenceSnapshot) :
    SameOutcome (.duplicate state evidence) (.duplicate state evidence)
  | advanced (phase phase' : PositionGuardPilotPhase) (records : List StoredEvidence)
    (state next : ExactCandidateState) (material : EvidenceMaterial) :
    SameOutcome (.advanced phase records state next material)
      (.advanced phase' records state next material)

theorem sameOutcome_of_resolve (h : SameLedger left right) {input : AdvanceCandidatePilotStateInput}
    {outcome : EvidenceOutcome} (hresolve : resolveEvidence sha256Hex left input = .ok outcome) :
    ∃ outcome', resolveEvidence sha256Hex right input = .ok outcome' ∧
      SameOutcome outcome outcome' := by
  have hrecords : left.records input.deploymentId = right.records input.deploymentId := by
    unfold PilotRepository.records
    rw [h.evidence]
  unfold resolveEvidence at hresolve ⊢
  obtain ⟨hversion, hresolve⟩ := then_eq_ok.mp hresolve
  rw [hversion, ok_bind, ← h.exactStates]
  split at hresolve
  · rename_i deployment state hdeployment hstate
    have hsome := h.deployed input.deploymentId
    rw [hdeployment, Option.isSome_some] at hsome
    obtain ⟨deployment', hdeployment'⟩ := Option.isSome_iff_exists.mp hsome.symm
    rw [hdeployment', hstate]
    obtain ⟨material, hmaterial, hresolve⟩ := bind_eq_ok.mp hresolve
    dsimp only
    rw [hmaterial, ok_bind, ← hrecords]
    unfold resolveMaterial at hresolve ⊢
    split at hresolve
    · unfold resolveDuplicate at hresolve ⊢
      obtain ⟨hhash, hresolve⟩ := then_eq_ok.mp hresolve
      rw [hhash, ok_bind, ← Except.ok.inj hresolve]
      exact ⟨_, rfl, .duplicate _ _⟩
    · unfold resolveNewEvidence at hresolve ⊢
      obtain ⟨hexpected, hresolve⟩ := then_eq_ok.mp hresolve
      obtain ⟨next, hnext, hresolve⟩ := bind_eq_ok.mp hresolve
      obtain ⟨hone, hresolve⟩ := then_eq_ok.mp hresolve
      rw [hexpected, ok_bind]
      dsimp only
      rw [hnext, ok_bind, hone, ok_bind, ← Except.ok.inj hresolve]
      exact ⟨_, rfl, .advanced _ _ _ _ _ _⟩
  · cases hresolve

theorem SameLedger.symm (h : SameLedger left right) : SameLedger right left :=
  ⟨h.exactStates.symm, h.evidence.symm, fun id => (h.deployed id).symm⟩

theorem sameLedger_advance (h : SameLedger left right) (input : AdvanceCandidatePilotStateInput) :
    SameLedger (advanceStateWithEvidence sha256Hex left input).2
      (advanceStateWithEvidence sha256Hex right input).2 := by
  unfold advanceStateWithEvidence
  cases hleft : resolveEvidence sha256Hex left input with
  | error e =>
    cases hright : resolveEvidence sha256Hex right input with
    | error e' => exact h
    | ok outcome =>
      obtain ⟨outcome', hsame, -⟩ := sameOutcome_of_resolve h.symm hright
      rw [hleft] at hsame
      cases hsame
  | ok outcome =>
    obtain ⟨outcome', hright, hsame⟩ := sameOutcome_of_resolve h hleft
    rw [hright]
    cases hsame with
    | duplicate state evidence => exact h
    | advanced phase phase' records state next material =>
      refine ⟨?_, ?_, h.deployed⟩
      · change Function.update left.exactStates _ _ = Function.update right.exactStates _ _
        rw [h.exactStates]
      · change Function.update left.evidence _ _ = Function.update right.evidence _ _
        rw [h.evidence]

theorem sameLedger_advanceAll {stores stores' : PilotStores} (h : SameLedger stores.repo stores'.repo)
    (advances : List AdvanceCandidatePilotStateInput) :
    SameLedger (advanceAll sha256Hex parseKind parseProvenance stores advances).repo
      (advanceAll sha256Hex parseKind parseProvenance stores' advances).repo := by
  induction advances generalizing stores stores' with
  | nil => exact h
  | cons input rest ih => exact ih (sameLedger_advance h input)

end Advances

/-! ### The call again -/

section Again

variable {later : PilotStores} {state' : ExactCandidateState} {transitionAt : String}

theorem IsFaultOf.pausedId
    (h : IsFaultOf sha256Hex parseProvenance account stores input deployment) :
    (pausedAt deployment text).id = input.deploymentId := by
  have hid : deployment.id = input.deploymentId := Table.key_of_select h.deployed
  exact hid

/-- The stores with the records of a pause. -/
structure Paused (later : PilotStores) (input : PauseCandidateIntentFaultInput)
    (deployment : PositionGuardPilotDeploymentRecord) (stateVersion : ℕ) (text : String) : Prop where
  deployed : later.repo.deployment input.deploymentId = some (pausedAt deployment text)
  audit : ((later.repo.audits input.deploymentId).find? fun event => event.id = input.faultId) =
    some (auditAt input text deployment stateVersion)
  transition : ∃ transition, getTransitionById later.operator input.faultId = some transition ∧
    transition.command = .automaticPause ∧ transition.exchangeAccountId = input.exchangeAccountId ∧
    transition.reason = some ("faultId=" ++ input.faultId ++ "; reason=" ++
      candidatePilotRecoveryFaultReason (faultAt input text))
  stopped : Stopped later.operator.state.systemStatus

variable {stateVersion : ℕ}

/-- A repeated request is a duplicate exactly while the version of the state is the recorded one. -/
theorem runCall_paused (h : IsFaultOf sha256Hex parseProvenance account stores input deployment)
    (hpausable : isFaultPausablePhase deployment.phase = true) (hsound : Sound account later)
    (hpaused : Paused later input deployment stateVersion text) (hstrict : IsStrictIso text)
    (hstate : later.repo.exactStates input.deploymentId = some state') :
    runCall sha256Hex parseKind parseProvenance later (.pauseForCandidateIntentFault input) =
      (.paused (if state'.stateVersion = stateVersion then
          .ok ⟨pausedAt deployment text, later.operator.state,
            auditAt input text deployment stateVersion, true⟩
        else .error ("Conflicting duplicate candidate recovery fault " ++ input.faultId ++ ".")),
        later) := by
  have hfault : IsFaultOf sha256Hex parseProvenance account later input (pausedAt deployment text) :=
    ⟨h.valid, hpaused.deployed, h.deploymentAccount, h.account⟩
  obtain ⟨latest, hlatest, -⟩ := latestInstant_le hsound hpaused.deployed
  obtain ⟨transition, htransition, hcommand, haccount, hreason⟩ := hpaused.transition
  obtain ⟨transitionAt, hderive, -⟩ := derive_eq hstrict hsound.stamped.2
  have heffective : effectiveOccurredAt sha256Hex parseProvenance
      ⟨input.toPauseCandidatePilotForRecoveryFaultInput, some input⟩
      (readsOf later input (pausedAt deployment text) state') latest = .ok text := by
    unfold effectiveOccurredAt readsOf
    dsimp only
    rw [hpaused.audit]
    rfl
  have hwrite : writeFault sha256Hex parseProvenance later
      ⟨input.toPauseCandidatePilotForRecoveryFaultInput, some input⟩
      (readsOf later input (pausedAt deployment text) state') later.operator.state =
        (replayFault (readsOf later input (pausedAt deployment text) state') (faultAt input text)
          later.operator.state).map fun result => (result, later) := by
    unfold writeFault
    rw [hlatest, ok_bind, heffective, ok_bind]
    dsimp only
    rw [hderive, ok_bind, if_neg]
    · rfl
    · rintro ⟨hnone, -⟩
      have haudit : (readsOf later input (pausedAt deployment text) state').existingAudit =
          some (auditAt input text deployment stateVersion) := hpaused.audit
      rw [hnone] at haudit
      cases haudit
  have hreplay : replayFault (readsOf later input (pausedAt deployment text) state')
      (faultAt input text) later.operator.state =
        if state'.stateVersion = stateVersion then
          .ok ⟨pausedAt deployment text, later.operator.state,
            auditAt input text deployment stateVersion, true⟩
        else .error ("Conflicting duplicate candidate recovery fault " ++ input.faultId ++ ".") := by
    unfold replayFault readsOf
    dsimp only
    rw [hpaused.audit, htransition]
    dsimp only
    rw [if_neg]
    · have hphase : (auditAt input text deployment stateVersion).fromPhase =
          some deployment.phase := rfl
      rw [hphase]
      dsimp only
      by_cases hversion : state'.stateVersion = stateVersion
      · rw [if_pos hversion, if_neg]
        rintro (hfinal | hdiffers | hother | hforeign | hworded)
        · rw [hfinal] at hpausable
          cases hpausable
        · exact hdiffers (by rw [hversion]; rfl)
        · exact hother hcommand
        · exact hforeign haccount
        · exact hworded hreason
      · rw [if_neg hversion, if_pos]
        · rfl
        · refine Or.inr (Or.inl fun hsame => hversion ?_)
          exact (congrArg PositionGuardPilotAuditEventRecord.stateVersion hsame).symm
    · rintro (hphase | hupdated | hrunning)
      · exact hphase rfl
      · exact hupdated rfl
      · exact hrunning hpaused.stopped
  rw [runCall_eq hfault hstate]
  unfold finishFault
  rw [hwrite, hreplay]
  split_ifs <;> rfl

/-- **Advances keep the records of a pause.** -/
theorem paused_advanceAll (h : IsFaultOf sha256Hex parseProvenance account stores input deployment)
    (hnew : IsNew stores input) {operator : InMemoryOperatorStateStore}
    (hoperator : applyFaultPauseAtomically stores.operator (pauseAt input text transitionAt) =
      .ok operator) (hstopped : Stopped operator.state.systemStatus)
    (advances : List AdvanceCandidatePilotStateInput) :
    Paused (advanceAll sha256Hex parseKind parseProvenance
      ⟨PilotRepository.storePhase stores.repo (pausedAt deployment text)
        (auditAt input text deployment stateVersion), operator⟩ advances) input deployment stateVersion
      text := by
  have hid : (pausedAt deployment text).id = input.deploymentId := h.pausedId
  have hadvanced : Grown _ (advanceAll sha256Hex parseKind parseProvenance
      ⟨PilotRepository.storePhase stores.repo (pausedAt deployment text)
        (auditAt input text deployment stateVersion), operator⟩ advances).repo
          input.deploymentId ∧ _ := grown_advanceAll _ advances input.deploymentId
  obtain ⟨hgrown, hkept⟩ := hadvanced
  constructor
  · unfold PilotRepository.deployment
    rw [hgrown.deployments]
    exact (deployment_storePhase (pausedAt deployment text) _ input.deploymentId).trans (if_pos hid)
  · obtain ⟨more, hmore⟩ := hgrown.audits
    have haudits : (PilotRepository.storePhase stores.repo (pausedAt deployment text)
        (auditAt input text deployment stateVersion)).audits input.deploymentId =
          stores.repo.audits input.deploymentId ++
            [auditAt input text deployment stateVersion] := by
      rw [audits_storePhase, if_pos hid, ← hid]
    have hbefore : (stores.repo.audits input.deploymentId).find?
        (fun event => event.id = input.faultId) = none :=
      List.find?_eq_none.mpr fun event hevent => by simpa using hnew.1 event hevent
    rw [hmore, haudits, List.find?_append, List.find?_append, hbefore]
    have hfound : [auditAt input text deployment stateVersion].find?
        (fun event => event.id = input.faultId) = some (auditAt input text deployment stateVersion) :=
      List.find?_cons_of_pos (decide_eq_true rfl)
    rw [hfound]
    rfl
  · rw [hkept]
    obtain ⟨haccount, ⟨transition, hfound, -, -⟩ | ⟨-, recordedAt, -, rfl⟩⟩ :=
      applyFaultPause_cases hoperator
    · have hnone : getTransitionById stores.operator (pauseAt input text transitionAt).faultId =
          none := hnew.2
      rw [hnone] at hfound
      cases hfound
    · exact ⟨_, List.find?_cons_of_pos (decide_eq_true rfl), rfl, haccount, rfl⟩
  · rw [hkept]
    exact hstopped

/-- Every deployment has a state. -/
def AllHaveState (repo : PilotRepository) : Prop :=
  ∀ id, (repo.deployment id).isSome = true → ∃ state, repo.exactStates id = some state

theorem allHaveState_of_effect {creates : PositionGuardPilotDeploymentRecord → Prop}
    {repo repo' : PilotRepository} (h : Effect creates repo repo') (hstates : AllHaveState repo) :
    AllHaveState repo' := by
  intro id hdeployed
  cases h with
  | same => exact hstates id hdeployed
  | create created hfresh hcreates =>
    rw [deployment_insert] at hdeployed
    split_ifs at hdeployed with hid
    · subst hid
      exact ⟨_, Function.update_self ..⟩
    · obtain ⟨state, hstate⟩ := hstates id hdeployed
      exact ⟨state, (Function.update_of_ne (Ne.symm hid) _ _).trans hstate⟩
  | advance stored deploymentId hstored records state next material =>
    by_cases hid : deploymentId = id
    · subst hid
      exact ⟨next, Function.update_self ..⟩
    · obtain ⟨state', hstate'⟩ := hstates id hdeployed
      exact ⟨state', (Function.update_of_ne (Ne.symm hid) _ _).trans hstate'⟩
  | move before after event hbefore hmove hfrom hto =>
    rw [deployment_storePhase] at hdeployed
    refine hstates id ?_
    split_ifs at hdeployed with hid
    · rw [← hid, hmove.identity.1, hbefore]
      rfl
    · exact hdeployed

theorem allHaveState_runCalls (operator : InMemoryOperatorStateStore) {calls : List RepositoryCall}
    (htyped : ∀ call ∈ calls, call.Typed) :
    AllHaveState
      (runCalls localeLe sha256Hex parseKind parseProvenance hasStore operator calls).repo := by
  induction calls using List.reverseRecOn with
  | nil =>
    intro id hdeployed
    cases hdeployed
  | append_singleton calls call ih =>
    rw [runCalls_concat]
    have hcall := htyped call (by simp)
    exact allHaveState_of_effect (effect_runRepositoryCall _ hcall)
      (ih fun c hc => htyped c (List.mem_append_left _ hc))

variable (sha256Hex parseKind parseProvenance stores input) in
/-- **The pause applies**: the call pauses the deployment and the account, and the same request is a
duplicate after the advances, and changes nothing. -/
def Applies (advances : List AdvanceCandidatePilotStateInput) : Prop :=
  ∃ result paused, runCall sha256Hex parseKind parseProvenance stores
      (.pauseForCandidateIntentFault input) = (.paused (.ok result), paused) ∧
    result.duplicate = false ∧
    (paused.repo.deployment input.deploymentId).map (·.phase) = some .pausedFault ∧
    Stopped paused.operator.state.systemStatus ∧
    ∃ retry, runCall sha256Hex parseKind parseProvenance
        (advanceAll sha256Hex parseKind parseProvenance paused advances)
        (.pauseForCandidateIntentFault input) =
          (.paused (.ok retry), advanceAll sha256Hex parseKind parseProvenance paused advances) ∧
      retry.duplicate = true

variable (sha256Hex parseKind parseProvenance stores) in
/-- The advances store no record of the deployment. -/
def NoNewEvidence (deploymentId : String) (advances : List AdvanceCandidatePilotStateInput) : Prop :=
  (advanceAll sha256Hex parseKind parseProvenance stores advances).repo.records deploymentId =
    stores.repo.records deploymentId

/-- After the pause the advances store what they would have stored before it. -/
theorem version_after (h : IsFaultOf sha256Hex parseProvenance account stores input deployment)
    (hstate : stores.repo.exactStates input.deploymentId = some state)
    (operator : InMemoryOperatorStateStore) (event : PositionGuardPilotAuditEventRecord)
    (advances : List AdvanceCandidatePilotStateInput) :
    ∃ state', (advanceAll sha256Hex parseKind parseProvenance
        ⟨PilotRepository.storePhase stores.repo (pausedAt deployment text) event, operator⟩
          advances).repo.exactStates input.deploymentId = some state' ∧
      (state'.stateVersion = state.stateVersion ↔
        NoNewEvidence sha256Hex parseKind parseProvenance stores input.deploymentId advances) := by
  have hid : (pausedAt deployment text).id = input.deploymentId := h.pausedId
  have hledger : SameLedger
      (PilotRepository.storePhase stores.repo (pausedAt deployment text) event) stores.repo := by
    refine ⟨rfl, rfl, fun id => ?_⟩
    rw [deployment_storePhase]
    split_ifs with hsame
    · rw [← hsame, hid, h.deployed]
      rfl
    · rfl
  have hsame : SameLedger (advanceAll sha256Hex parseKind parseProvenance
      ⟨PilotRepository.storePhase stores.repo (pausedAt deployment text) event, operator⟩
        advances).repo (advanceAll sha256Hex parseKind parseProvenance stores advances).repo :=
    sameLedger_advanceAll hledger advances
  have hadvanced : Grown stores.repo
      (advanceAll sha256Hex parseKind parseProvenance stores advances).repo input.deploymentId ∧ _ :=
    grown_advanceAll stores advances input.deploymentId
  obtain ⟨state', more, hstate', hrecords, hversion⟩ := hadvanced.1.state state hstate
  refine ⟨state', by rw [hsame.exactStates, hstate'], ?_⟩
  unfold NoNewEvidence
  rw [hrecords, hversion, Nat.add_eq_left, List.length_eq_zero_iff, List.append_right_eq_self]

/-- **When an intent fault applies.** Of a deployment that any calls have led to and that is under way,
a fault pauses the deployment and the account, and is a duplicate when it is requested again after
advances, exactly if nothing is recorded under its id, the time of the pause lies in the years 1970 to
9999, and the advances store no new record of the deployment. -/
theorem applies_iff {operator : InMemoryOperatorStateStore} (hoperator : Stamped account operator)
    {calls : List RepositoryCall} (htyped : ∀ call ∈ calls, call.Typed)
    (hreached : stores =
      runCalls localeLe sha256Hex parseKind parseProvenance hasStore operator calls)
    (h : IsFaultOf sha256Hex parseProvenance account stores input deployment)
    (hpausable : isFaultPausablePhase deployment.phase = true)
    (advances : List AdvanceCandidatePilotStateInput) :
    Applies sha256Hex parseKind parseProvenance stores input advances ↔
      IsNew stores input ∧ 0 ≤ occurrence stores.repo deployment input ∧
        occurrence stores.repo deployment input < endOfFourDigitYears ∧
        NoNewEvidence sha256Hex parseKind parseProvenance stores input.deploymentId advances := by
  have hsound : Sound account stores := hreached ▸ sound_runCalls hoperator calls
  obtain ⟨state, hstate⟩ : ∃ state, stores.repo.exactStates input.deploymentId = some state := by
    rw [hreached]
    refine allHaveState_runCalls operator htyped input.deploymentId ?_
    rw [← hreached, h.deployed]
    rfl
  have hcall : ∀ text, IsNew stores input → formatCandidatePilotUtcNanoseconds
      (occurrence stores.repo deployment input) = .ok text →
        (Applies sha256Hex parseKind parseProvenance stores input advances ↔
          NoNewEvidence sha256Hex parseKind parseProvenance stores input.deploymentId advances) := by
    intro text hnew htext
    obtain ⟨transitionAt, paused, hpause, hstopped, hrun⟩ :=
      runCall_new h hpausable hsound hstate hnew htext
    obtain ⟨state', hstate', hversion⟩ := version_after h hstate paused
      (auditAt input text deployment state.stateVersion) advances
    have hid : (pausedAt deployment text).id = input.deploymentId := h.pausedId
    have hafter : Sound account (runCall sha256Hex parseKind parseProvenance stores
        (.pauseForCandidateIntentFault input)).2 := sound_runCall hsound _
    rw [hrun] at hafter
    rw [← hversion]
    constructor
    · rintro ⟨result, paused', hrun', -, -, -, retry, hretry, -⟩
      obtain ⟨-, rfl⟩ := Prod.mk.inj (hrun.symm.trans hrun')
      by_contra hchanged
      rw [runCall_paused h hpausable (sound_advanceAll hafter advances)
        (paused_advanceAll h hnew hpause hstopped advances) (instant_formatPilot htext).1 hstate',
        if_neg hchanged] at hretry
      cases (Prod.mk.inj hretry).1
    · intro hunchanged
      refine ⟨_, _, hrun, rfl, ?_, hstopped, ?_⟩
      · rw [deployment_storePhase, if_pos hid]
        rfl
      · rw [runCall_paused h hpausable (sound_advanceAll hafter advances)
          (paused_advanceAll h hnew hpause hstopped advances) (instant_formatPilot htext).1 hstate',
          if_pos hunchanged]
        exact ⟨_, rfl, rfl⟩
  constructor
  · intro happlies
    have ⟨result, paused, hrun, _⟩ := happlies
    obtain ⟨hnew, text, htext⟩ := new_of_runCall h hpausable hsound hstate hrun
    obtain ⟨h0, hlt⟩ := formatPilot_spec.mp ⟨text, htext⟩
    exact ⟨hnew, h0, hlt, (hcall text hnew htext).mp happlies⟩
  · rintro ⟨hnew, h0, hlt, hevidence⟩
    obtain ⟨text, htext⟩ := formatPilot_spec.mpr ⟨h0, hlt⟩
    exact (hcall text hnew htext).mpr hevidence

end Again

/-! ### A purchase that could not be persisted -/

def purchaseProvenanceJson : String :=
  "\x7b\"schemaVersion\":\"CANDIDATE_INTENT_FAULT_V1\",\"stage\":\"PERSISTENCE\"," ++
    "\"deploymentId\":\"deployment\",\"exchangeAccountId\":\"account\"," ++
    "\"strategyDecisionId\":\"decision\",\"orderId\":\"order\"," ++
    "\"bindingId\":\"binding\",\"market\":\"KRW-BTC\",\"action\":\"ENTER\"," ++
    "\"side\":\"bid\",\"ordType\":\"price\",\"price\":\"100000000\",\"volume\":null," ++
    "\"expectedPhase\":\"ACTIVE\"," ++
    "\"expectedDeploymentUpdatedAt\":\"2026-01-01T00:01:00.000Z\"," ++
    "\"expectedStateVersion\":0\x7d"

def purchaseProvenance : CandidateIntentFaultProvenance where
  schemaVersion := "CANDIDATE_INTENT_FAULT_V1"
  stage := "PERSISTENCE"
  deploymentId := "deployment"
  exchangeAccountId := "account"
  strategyDecisionId := "decision"
  orderId := "order"
  bindingId := "binding"
  market := "KRW-BTC"
  action := "ENTER"
  side := "bid"
  ordType := "price"
  price := some (.text "100000000")
  volume := none
  expectedPhase := "ACTIVE"
  expectedDeploymentUpdatedAt := "2026-01-01T00:01:00.000Z"
  expectedStateVersion := 0

def readProvenance (text : String) : Except String CandidateIntentFaultProvenance :=
  if text = purchaseProvenanceJson then .ok purchaseProvenance else .error "no provenance"

/-- The digest of the provenance. -/
def purchaseDigest (_ : String) : String :=
  "d007eae831b795cb610cb4136d857ba7acbb523144f0c0996964ffbde7a559fa"

/-- The fault of the purchase; the clock runs behind the activation of the deployment. -/
def purchaseFault : PauseCandidateIntentFaultInput where
  deploymentId := "deployment"
  exchangeAccountId := "account"
  faultId := "candidate-intent:" ++ purchaseDigest purchaseProvenanceJson
  reasonCode := "ACTIVATION_CAS_CONFLICT"
  provenanceJson := purchaseProvenanceJson
  occurredAt := "2026-01-01T00:00:30.000Z"
  stage := .persistence
  strategyDecisionId := "decision"
  orderId := "order"
  bindingId := "binding"

/-- An active deployment of a paused account. -/
def activeStores : PilotStores :=
  runCalls (fun _ _ => true) purchaseDigest parseEmptyObject readProvenance true sampleStores.operator
    sampleCalls

/-- The evidence of an earlier purchase, which is projected after the pause. -/
def lateEvidence : AdvanceCandidatePilotStateInput where
  deploymentId := "deployment"
  expectedStateVersion := 0
  evidence := Execution.LedgerAgreement.pullback "terminal-order:earlier" "2026-01-01T00:01:30.000Z"
    .enter "1" "100000000" "50000" "1"

/-- The stores after the call of a fault. -/
def storesAfter (stores : PilotStores) (input : PauseCandidateIntentFaultInput) : PilotStores :=
  (runCall purchaseDigest parseEmptyObject readProvenance stores
    (.pauseForCandidateIntentFault input)).2

-- stated for all stores: on those of the example `rfl` would run the call
theorem storesAfter_eq (stores : PilotStores) (input : PauseCandidateIntentFaultInput) :
    storesAfter stores input = (runCall purchaseDigest parseEmptyObject readProvenance stores
      (.pauseForCandidateIntentFault input)).2 := rfl

/-- The stores after the pause. -/
def pausedStores : PilotStores := storesAfter activeStores purchaseFault

theorem stamped_sampleStores : Stamped "account" sampleStores.operator :=
  ⟨by decide, by decide +kernel⟩

theorem purchaseFault_fits : IsFaultOf purchaseDigest readProvenance "account" activeStores
    purchaseFault (activeStores.repo.deployments.head (by decide +kernel)) :=
  ⟨by decide +kernel, by decide +kernel, by decide +kernel, rfl⟩

/-- **The request is refused once evidence is stored.** It pauses the deployment, and is a duplicate when
it is repeated at once; after one advance it is in conflict with its own record. -/
theorem repeated_after_evidence_throws :
    (pausedStores.repo.deployment "deployment").map (fun d => (d.phase, d.updatedAt)) =
        some (.pausedFault, "2026-01-01T00:01:00.000000001Z") ∧
      (match (runCall purchaseDigest parseEmptyObject readProvenance pausedStores
          (.pauseForCandidateIntentFault purchaseFault)).1 with
        | .paused (.ok result) => result.duplicate
        | _ => false) = true ∧
      (runCall purchaseDigest parseEmptyObject readProvenance
          (advanceAll purchaseDigest parseEmptyObject readProvenance pausedStores [lateEvidence])
          (.pauseForCandidateIntentFault purchaseFault)).1 =
        .paused (.error ("Conflicting duplicate candidate recovery fault " ++ purchaseFault.faultId ++
          ".")) := by
  have hsound : Sound "account" activeStores := sound_runCalls stamped_sampleStores sampleCalls
  have hstate : activeStores.repo.exactStates purchaseFault.deploymentId =
      some createExactEmptyCandidateState := by decide +kernel
  have hnew : IsNew activeStores purchaseFault := by decide +kernel
  have htext : formatCandidatePilotUtcNanoseconds (occurrence activeStores.repo
      (activeStores.repo.deployments.head (by decide +kernel)) purchaseFault) =
        .ok "2026-01-01T00:01:00.000000001Z" := by decide +kernel
  obtain ⟨transitionAt, operator, hpause, hstopped, hrun⟩ :=
    runCall_new purchaseFault_fits (by decide +kernel) hsound hstate hnew htext
  have hpaused : pausedStores = ⟨_, operator⟩ :=
    (storesAfter_eq activeStores purchaseFault).trans (congrArg Prod.snd hrun)
  have hafter : Sound "account" (runCall purchaseDigest parseEmptyObject readProvenance activeStores
      (.pauseForCandidateIntentFault purchaseFault)).2 := sound_runCall hsound _
  rw [hrun] at hafter
  rw [hpaused]
  have hrecords : ∀ advances, Paused (advanceAll purchaseDigest parseEmptyObject readProvenance _
      advances) purchaseFault _ 0 _ :=
    paused_advanceAll purchaseFault_fits hnew hpause hstopped
  refine ⟨?_, ?_, ?_⟩
  · have hdeployed := (hrecords []).deployed
    exact (congrArg _ hdeployed).trans (by decide +kernel)
  · rw [runCall_paused purchaseFault_fits (by decide +kernel) hafter (hrecords [])
      (instant_formatPilot htext).1 hstate]
    rfl
  · obtain ⟨state, hlater, hversion⟩ := version_after purchaseFault_fits hstate operator
      (auditAt purchaseFault "2026-01-01T00:01:00.000000001Z"
        (activeStores.repo.deployments.head (by decide +kernel)) 0) [lateEvidence]
    have hstored : ¬ NoNewEvidence purchaseDigest parseEmptyObject readProvenance activeStores
        "deployment" [lateEvidence] := fun hnone =>
      absurd (congrArg List.length hnone) (by decide +kernel)
    have hchanged : state.stateVersion ≠ 0 := fun hsame => hstored (hversion.mp hsame)
    rw [runCall_paused purchaseFault_fits (by decide +kernel) (sound_advanceAll hafter _)
      (hrecords [lateEvidence]) (instant_formatPilot htext).1 hlater, if_neg hchanged]

/-- The pause applies when nothing is projected before the request is repeated. -/
theorem applies_iff_purchase :
    Applies purchaseDigest parseEmptyObject readProvenance activeStores purchaseFault [] ∧
      ¬ Applies purchaseDigest parseEmptyObject readProvenance activeStores purchaseFault
        [lateEvidence] := by
  have htyped : ∀ call ∈ sampleCalls, call.Typed := by
    simp [sampleCalls, RepositoryCall.Typed, sampleActivation]
  have happlies := applies_iff stamped_sampleStores htyped rfl purchaseFault_fits (by decide +kernel)
  refine ⟨(happlies []).mpr ⟨by decide +kernel, by decide +kernel, by decide +kernel, rfl⟩,
    fun h => ?_⟩
  have hnone := ((happlies [lateEvidence]).mp h).2.2.2
  exact absurd (congrArg List.length hnone) (by decide +kernel)

end AutoTrade.Pilot.IntentFaults
