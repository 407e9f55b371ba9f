import AutoTrade.Pilot.DisabledFlat

/-! # An advance that throws

`advanceStateWithEvidence` stores the new state, the evidence and the audit event before it reads the
new state back as a routing state. If that fails, the call throws and the maps keep what it stored.

`advance_atomic_iff`: a call changes nothing when it throws exactly if, whenever it gets to store a
record, the book of all records reads back (`BookReadsBack`). -/

namespace AutoTrade.Pilot.AtomicAdvance

open Lib.Run
open Domain.PilotTypes Strategy.CandidateState Strategy.CandidateLedger
open Execution.EvidenceDecimals
open Execution.LedgerAgreement Execution.RoutingNumbers Pilot.InMemoryRepository
open Pilot.EvidenceReplay hiding Call step step_cases
open Pilot.PhaseCalls Pilot.PhaseMachine
open Pilot.DisabledFlat
open Operator.FaultWriters (JsonKind)

/-! ### What a stored deployment holds -/

/-- State, evidence and audit events of a deployment are as before. -/
def Unchanged (id : String) (before after : PilotRepository) : Prop :=
  after.exactStates id = before.exactStates id ∧ after.evidence id = before.evidence id ∧
    after.auditEvents id = before.auditEvents id

/-- A call that throws leaves the deployment as it was. -/
def Atomic (sha256Hex : String → String) (repo : PilotRepository)
    (input : AdvanceCandidatePilotStateInput) : Prop :=
  ∀ message, (advanceStateWithEvidence sha256Hex repo input).1 = .error message →
    Unchanged input.deploymentId repo (advanceStateWithEvidence sha256Hex repo input).2

/-! ### The new state -/

/-- The call gets to store these records: it is no duplicate, and every check has passed. -/
def Stores (sha256Hex : String → String) (repo : PilotRepository)
    (input : AdvanceCandidatePilotStateInput) (records : List StoredEvidence) : Prop :=
  ∃ phase state next material,
    resolveEvidence sha256Hex repo input = .ok (.advanced phase records state next material)

theorem routing_isOk_iff_book {evidence : List PositionGuardCandidateExecutionEvidence}
    {exact : ExactCandidateState} (he : ∀ item ∈ evidence, EvidenceValid (numbersOf item))
    (h : projectExactCandidateState evidence = .ok exact) :
    (∃ routing, toPositionGuardCandidateRoutingState exact = .ok routing) ↔
      BookReadsBack (bookOfEvidence evidence) ∧ exact.stateVersion ≤ maxSafeInteger := by
  obtain ⟨state, ht, hs, hbook⟩ := booked_project he h
  rw [Execution.RoutingNumbers.routing_isOk_iff hs ht, hbook]

/-! ### The call -/

section Calls

variable {sha256Hex : String → String} {repo : PilotRepository}
  {input : AdvanceCandidatePilotStateInput} {phase : PositionGuardPilotPhase}
  {records : List StoredEvidence} {state next : ExactCandidateState} {material : EvidenceMaterial}

theorem evidence_ne_of_advanced
    (h : resolveEvidence sha256Hex repo input = .ok (.advanced phase records state next material)) :
    (repo.storeAdvance input.deploymentId phase records state next material).evidence
      input.deploymentId ≠ repo.evidence input.deploymentId := by
  obtain ⟨-, -, hrecords, -⟩ := resolve_advanced h
  have hstored : (repo.storeAdvance input.deploymentId phase records state next material).evidence
      input.deploymentId = some records := by
    simp [PilotRepository.storeAdvance]
  intro hsame
  rw [hstored] at hsame
  have hold : repo.records input.deploymentId = records := by
    unfold PilotRepository.records
    rw [← hsame, Option.getD_some]
  have hlength := congrArg List.length hrecords
  rw [List.length_append, List.length_singleton, hold] at hlength
  omega

section

variable (hall : AllProjected repo)
  (h : resolveEvidence sha256Hex repo input = .ok (.advanced phase records state next material))
include hall h

theorem valid_of_advanced :
    ∀ item ∈ records.map fun item => asEvidence item.evidence, EvidenceValid (numbersOf item) := by
  obtain ⟨hstate, hmaterial, hrecords, -⟩ := resolve_advanced h
  intro item hmem
  obtain ⟨stored, hstored, rfl⟩ := List.mem_map.mp hmem
  rw [hrecords] at hstored
  rcases List.mem_append.mp hstored with hold | hnew
  · exact (hall _ _ hstate).valid stored hold
  · rw [List.mem_singleton.mp hnew]
    exact (material_eq_ok hmaterial).2

/-- A call that stores is atomic exactly if the new state is read back. -/
theorem atomic_of_advanced :
    Atomic sha256Hex repo input ↔
      BookReadsBack (bookOfEvidence (records.map fun item => asEvidence item.evidence)) ∧
        input.expectedStateVersion < maxSafeInteger := by
  obtain ⟨-, -, -, -, hproject, hversion⟩ := resolve_advanced h
  obtain ⟨hexpected, -⟩ := version_of_advanced h
  have hrouting := routing_isOk_iff_book (valid_of_advanced hall h) hproject
  have hsafe : next.stateVersion ≤ maxSafeInteger ↔ input.expectedStateVersion < maxSafeInteger := by
    omega
  have hcall : advanceStateWithEvidence sha256Hex repo input =
      ((toPositionGuardCandidateRoutingState next).map fun routing =>
        ⟨routing, material.evidence, false⟩,
      repo.storeAdvance input.deploymentId phase records state next material) := by
    unfold advanceStateWithEvidence
    rw [h]
  rw [← hsafe, ← hrouting]
  unfold Atomic
  rw [hcall]
  constructor
  · intro hatomic
    cases hread : toPositionGuardCandidateRoutingState next with
    | ok routing => exact ⟨routing, rfl⟩
    | error message =>
      obtain ⟨-, hevidence, -⟩ := hatomic message (by rw [hread]; rfl)
      exact absurd hevidence (evidence_ne_of_advanced h)
  · rintro ⟨routing, hread⟩ message hthrows
    rw [hread] at hthrows
    cases hthrows

end

theorem atomic_iff_of_allProjected (hall : AllProjected repo) :
    Atomic sha256Hex repo input ↔ ∀ records, Stores sha256Hex repo input records →
      BookReadsBack (bookOfEvidence (records.map fun item => asEvidence item.evidence)) ∧
        input.expectedStateVersion < maxSafeInteger := by
  cases hresolve : resolveEvidence sha256Hex repo input with
  | error e =>
    have hcall : (advanceStateWithEvidence sha256Hex repo input).2 = repo := by
      unfold advanceStateWithEvidence
      rw [hresolve]
    constructor
    · rintro - records ⟨phase, state, next, material, hstores⟩
      rw [hresolve] at hstores
      cases hstores
    · intro _ message _
      rw [hcall]
      exact ⟨rfl, rfl, rfl⟩
  | ok outcome =>
    cases outcome with
    | duplicate state evidence =>
      have hcall : (advanceStateWithEvidence sha256Hex repo input).2 = repo := by
        unfold advanceStateWithEvidence
        rw [hresolve]
      constructor
      · rintro - records ⟨phase, state, next, material, hstores⟩
        rw [hresolve] at hstores
        cases hstores
      · intro _ message _
        rw [hcall]
        exact ⟨rfl, rfl, rfl⟩
    | advanced phase records state next material =>
      rw [atomic_of_advanced hall hresolve]
      constructor
      · rintro hback records' ⟨phase', state', next', material', hstores⟩
        rw [hresolve] at hstores
        injection hstores with hstores
        injection hstores with _ hrecords
        rw [← hrecords]
        exact hback
      · intro hback
        exact hback records ⟨phase, state, next, material, hresolve⟩

end Calls

/-! ### Every reachable repository -/

section Runs

variable (localeLe : String → String → Bool) (sha256Hex : String → String)
  (parseKind : String → Option JsonKind)
  (parseProvenance : String → Except String CandidateIntentFaultProvenance) (hasStore : Bool)
  (operator : AutoTrade.Operator.InMemoryStore.InMemoryOperatorStateStore)

theorem allProjected_runCalls (calls : List RepositoryCall) :
    AllProjected
      (runCalls localeLe sha256Hex parseKind parseProvenance hasStore operator calls).repo := by
  refine run_invariant (fun stores : PilotStores => AllProjected stores.repo)
    (fun stores call h => ?_) ?_ calls
  · exact allProjected_of_effect (stateEffect_runRepositoryCall sha256Hex localeLe parseKind
      parseProvenance hasStore stores call) h
  · intro id state hstate
    cases hstate

/-- **An advance that throws changes nothing exactly if it stores nothing that does not read back.** -/
theorem advance_atomic_iff (calls : List RepositoryCall) (input : AdvanceCandidatePilotStateInput) :
    Atomic sha256Hex
        (runCalls localeLe sha256Hex parseKind parseProvenance hasStore operator calls).repo input ↔
      ∀ records, Stores sha256Hex
          (runCalls localeLe sha256Hex parseKind parseProvenance hasStore operator calls).repo input
          records →
        BookReadsBack (bookOfEvidence (records.map fun item => asEvidence item.evidence)) ∧
          input.expectedStateVersion < maxSafeInteger :=
  atomic_iff_of_allProjected
    (allProjected_runCalls localeLe sha256Hex parseKind parseProvenance hasStore operator calls)

end Runs

/-! ### Sample runs -/

/-- A deployment buys one coin for 100 KRW. -/
def buyOne : List RepositoryCall :=
  [.createDeploymentWithInitialState exampleDeployment createEmptyPositionGuardCandidateState,
    .pilot (.advanceStateWithEvidence ⟨"pilot", 0, (roundTrip "100")[0]⟩)]

/-- The coin is sold for 100.5 KRW: the call throws, and the exit is stored. -/
theorem throwing_exit_is_stored :
    ¬ ∀ (calls : List RepositoryCall) (input : AdvanceCandidatePilotStateInput),
      Atomic (fun _ => "") (sampleRun calls).repo input := by
  intro h
  obtain ⟨-, hevidence, -⟩ := h buyOne ⟨"pilot", 1, (roundTrip "100.5")[1]⟩
    "candidate exact full-exit pnl must be a canonical signed decimal string." (by decide +kernel)
  revert hevidence
  decide +kernel

end AutoTrade.Pilot.AtomicAdvance
