import AutoTrade.Execution.RoutingNumbers
import AutoTrade.Pilot.InMemoryRepository

/-! # The stored state is a replay of the stored evidence

Whatever calls are made, and whether they throw or not, the exact state of a deployment is the
projection of its stored evidence, its version counts the records, and so do the audit events of its
advances. A record that fills nothing is never stored, since it does not advance the version.

A record that is sent again with the stored material changes nothing. It is answered as a duplicate
exactly when the stored state can be read back as a routing state (`BookReadsBack`). -/

namespace AutoTrade.Pilot.EvidenceReplay

open Lib Lib.Run Lib.Decimal Lib.Result
open Domain.PilotTypes Domain.Timestamp Strategy.CandidateState
open Strategy.CandidateLedger Execution.EvidenceDecimals
open Execution.CandidateBinding Execution.LedgerAgreement Execution.RoutingNumbers
open Execution.OrderDecimals (format_parse)
open Pilot.InMemoryRepository

variable {sha256Hex : String → String}

/-! ### Calls -/

inductive Call
  | create (deployment : PositionGuardPilotDeploymentRecord)
      (initialState : PositionGuardCandidateState)
  | advance (input : AdvanceCandidatePilotStateInput)

/-- The repository after a call, thrown or not. -/
def step (sha256Hex : String → String) (repo : PilotRepository) : Call → PilotRepository
  | .create deployment initialState =>
    (createDeploymentWithInitialState repo deployment initialState).2
  | .advance input => (advanceStateWithEvidence sha256Hex repo input).2

/-- What a call can do to the repository. -/
theorem step_cases (repo : PilotRepository) (call : Call) :
    step sha256Hex repo call = repo ∨
      (∃ deployment, repo.deployment deployment.id = none ∧
        step sha256Hex repo call = repo.insertDeploymentWithInitialState deployment) ∨
      ∃ input phase records state next material,
        resolveEvidence sha256Hex repo input = .ok (.advanced phase records state next material) ∧
        step sha256Hex repo call =
          repo.storeAdvance input.deploymentId phase records state next material := by
  cases call with
  | create deployment initialState =>
    simp only [step, createDeploymentWithInitialState]
    cases hcheck : checkNewDeployment repo deployment initialState with
    | error e => exact Or.inl rfl
    | ok u =>
      simp only [checkNewDeployment, then_eq_ok, throwIf_eq_ok, Bool.not_eq_true,
        Option.isSome_eq_false_iff, Option.isNone_iff_eq_none] at hcheck
      exact Or.inr (Or.inl ⟨deployment, hcheck.2.1, rfl⟩)
  | advance input =>
    simp only [step, advanceStateWithEvidence]
    cases houtcome : resolveEvidence sha256Hex repo input with
    | error e => exact Or.inl rfl
    | ok outcome =>
      cases outcome with
      | duplicate state evidence => exact Or.inl rfl
      | advanced phase records state next material =>
        exact Or.inr (Or.inr ⟨input, phase, records, state, next, material, houtcome, rfl⟩)

/-! ### Stored material -/

theorem amountOf_text {text : String} {q : ℚ} (h : Writes text q) (hq : 0 ≤ q) :
    amountOf (.text text) = q := by
  obtain ⟨d, rfl, rfl⟩ := h
  have hcanonical := isCanonicalNonNegative_format hq
  show decimalValue (formatExactDecimal d).toList = d.value
  rw [← routingNumber_of_canonical hcanonical, routingNumber_format]

theorem canonical_amount {value : PositionGuardCandidateDecimal} {label text : String}
    (h : canonicalNonNegativeDecimal value label = .ok text) :
    0 ≤ amountOf (.text text) ∧ (text = "0" ↔ amountOf (.text text) = 0) := by
  have hwrites := writes_of_canonical h
  have hnonneg : 0 ≤ amountOf value := by
    obtain ⟨t, rfl, -, -⟩ := canonicalNonNegative_eq_ok.mp h
    exact decimalValue_nonneg _
  rw [amountOf_text hwrites hnonneg]
  exact ⟨hnonneg, hwrites.eq_zero_iff⟩

theorem canonical_of_text {text label canonical : String}
    (h : canonicalNonNegativeDecimal (.text text) label = .ok canonical) : canonical = text := by
  obtain ⟨t, ht, hform, rfl⟩ := canonicalNonNegative_eq_ok.mp h
  obtain rfl := PositionGuardCandidateDecimal.text.inj ht
  exact format_parse hform

variable {deploymentId : String} {material : EvidenceMaterial}

theorem material_evidence {evidence : EvidenceSnapshot}
    (h : candidateEvidenceMaterial sha256Hex deploymentId (asEvidence evidence) = .ok material) :
    material.evidence = evidence := by
  unfold candidateEvidenceMaterial at h
  simp only [then_eq_ok] at h
  obtain ⟨-, h⟩ := h
  obtain ⟨snapshot, hsnapshot, h⟩ := bind_eq_ok.mp h
  simp only [then_eq_ok, parse_bind, Except.ok.injEq] at h
  obtain ⟨-, -, -, -, rfl⟩ := h
  unfold evidenceSnapshot at hsnapshot
  simp only [bind_eq_ok, Except.ok.injEq] at hsnapshot
  obtain ⟨executed, hx, gross, hg, fee, hf, remaining, hr, rfl⟩ := hsnapshot
  rw [canonical_of_text hx, canonical_of_text hg, canonical_of_text hf, canonical_of_text hr]
  rfl

variable {evidence : PositionGuardCandidateExecutionEvidence}

theorem material_eq_ok
    (h : candidateEvidenceMaterial sha256Hex deploymentId evidence = .ok material) :
    material.hash = evidenceMaterialHash sha256Hex deploymentId material.evidence
        (instant material.evidence.executedAt) ∧
      EvidenceValid (numbersOf (asEvidence material.evidence)) := by
  unfold candidateEvidenceMaterial at h
  simp only [then_eq_ok] at h
  obtain ⟨-, h⟩ := h
  obtain ⟨snapshot, hsnapshot, h⟩ := bind_eq_ok.mp h
  simp only [then_eq_ok, parse_bind, requireNonEmpty, throwIf_eq_ok, Bool.not_eq_true,
    Except.ok.injEq] at h
  obtain ⟨hid, hamounts, hparses, -, rfl⟩ := h
  unfold evidenceSnapshot at hsnapshot
  simp only [bind_eq_ok, Except.ok.injEq] at hsnapshot
  obtain ⟨executed, hx, gross, hg, fee, hf, remaining, hr, rfl⟩ := hsnapshot
  obtain ⟨hxn, hxz⟩ := canonical_amount hx
  obtain ⟨hgn, hgz⟩ := canonical_amount hg
  obtain ⟨hfn, hfz⟩ := canonical_amount hf
  obtain ⟨hrn, -⟩ := canonical_amount hr
  refine ⟨rfl, hid, hparses, hxn, hgn, hfn, hrn, ?_, ?_⟩
  · intro hzero
    have hnone : executed = "0" := hxz.mpr hzero
    simp only [validateSnapshotAmounts, if_pos hnone, throwIf_eq_ok, not_or, ne_eq, not_not] at hamounts
    obtain ⟨hstatus, hgross, hfee⟩ := hamounts
    exact ⟨hstatus, hgz.mp hgross, hfz.mp hfee⟩
  · intro hfill
    have hsome : ¬ executed = "0" := fun hnone => hfill (hxz.mp hnone)
    simp only [validateSnapshotAmounts, if_neg hsome, throwIf_eq_ok] at hamounts
    exact lt_of_le_of_ne hgn fun hzero => hamounts (hgz.mpr hzero.symm)

/-! ### The invariant -/

def isAdvance (event : PositionGuardPilotAuditEventRecord) : Bool := event.eventType = .stateAdvanced

/-- What is stored for a deployment. -/
structure Replays (sha256Hex : String → String) (deploymentId : String) (state : ExactCandidateState)
    (records : List StoredEvidence) (audits : List PositionGuardPilotAuditEventRecord) : Prop where
  replay : projectExactCandidateState (records.map fun item => asEvidence item.evidence) = .ok state
  version : state.stateVersion = records.length
  advances : audits.countP isAdvance = records.length
  ids : (records.map fun item => item.evidence.evidenceId).Nodup
  material : ∀ item ∈ records,
    item.materialHash = evidenceMaterialHash sha256Hex deploymentId item.evidence
        (instant item.evidence.executedAt) ∧
      EvidenceValid (numbersOf (asEvidence item.evidence))

/-- Each deployment has its state, its evidence and its audit events, and they belong together. -/
def Consistent (sha256Hex : String → String) (repo : PilotRepository) : Prop :=
  ∀ deploymentId deployment, repo.deployment deploymentId = some deployment →
    ∃ state records audits, repo.exactStates deploymentId = some state ∧
      repo.evidence deploymentId = some records ∧ repo.auditEvents deploymentId = some audits ∧
      Replays sha256Hex deploymentId state records audits

theorem replays_created (deployment : PositionGuardPilotDeploymentRecord) :
    Replays sha256Hex deployment.id createExactEmptyCandidateState []
      [createdAuditEvent deployment] := by
  refine ⟨rfl, rfl, ?_, List.nodup_nil, ?_⟩
  · simp [isAdvance, createdAuditEvent]
  · intro item hmem
    cases hmem

variable {records : List StoredEvidence} {repo : PilotRepository} {state next : ExactCandidateState}

theorem resolve_advanced {input : AdvanceCandidatePilotStateInput}
    {phase : PositionGuardPilotPhase}
    (h : resolveEvidence sha256Hex repo input = .ok (.advanced phase records state next material)) :
    repo.exactStates input.deploymentId = some state ∧
      candidateEvidenceMaterial sha256Hex input.deploymentId input.evidence = .ok material ∧
      records = repo.records input.deploymentId ++ [storedRecord material] ∧
      (∀ item ∈ repo.records input.deploymentId,
        item.evidence.evidenceId ≠ material.evidence.evidenceId) ∧
      projectExactCandidateState (records.map fun item => asEvidence item.evidence) = .ok next ∧
      next.stateVersion = state.stateVersion + 1 := by
  unfold resolveEvidence at h
  obtain ⟨-, h⟩ := then_eq_ok.mp h
  cases hdeployment : repo.deployment input.deploymentId with
  | none => simp [hdeployment] at h
  | some deployment =>
    cases hstate : repo.exactStates input.deploymentId with
    | none => simp [hdeployment, hstate] at h
    | some current =>
      simp only [hdeployment, hstate, bind_eq_ok] at h
      obtain ⟨found, hmaterial, h⟩ := h
      unfold resolveMaterial at h
      cases hfind : (repo.records input.deploymentId).find? fun item =>
          item.evidence.evidenceId = found.evidence.evidenceId with
      | some stored =>
        simp only [hfind, resolveDuplicate, then_eq_ok, Except.ok.injEq, reduceCtorEq,
          and_false] at h
      | none =>
        simp only [hfind, resolveNewEvidence, then_eq_ok] at h
        obtain ⟨-, h⟩ := h
        obtain ⟨projected, hproject, h⟩ := bind_eq_ok.mp h
        simp only [then_eq_ok, throwIf_eq_ok, ne_eq, not_not, Except.ok.injEq,
          EvidenceOutcome.advanced.injEq] at h
        obtain ⟨hversion, -, rfl, rfl, rfl, rfl⟩ := h
        refine ⟨rfl, hmaterial, rfl, ?_, hproject, hversion⟩
        intro item hmem
        simpa using List.find?_eq_none.mp hfind item hmem

variable {audits : List PositionGuardPilotAuditEventRecord}

theorem replays_advanced (phase : PositionGuardPilotPhase)
    (hr : Replays sha256Hex deploymentId state records audits)
    (hmaterial : candidateEvidenceMaterial sha256Hex deploymentId evidence = .ok material)
    (hnew : ∀ item ∈ records, item.evidence.evidenceId ≠ material.evidence.evidenceId)
    (hproject : projectExactCandidateState
      ((records ++ [storedRecord material]).map fun item => asEvidence item.evidence) = .ok next)
    (hversion : next.stateVersion = state.stateVersion + 1) :
    Replays sha256Hex deploymentId next (records ++ [storedRecord material])
      (audits ++ [advancedAuditEvent deploymentId phase material state.stateVersion
        next.stateVersion]) := by
  refine ⟨hproject, ?_, ?_, ?_, ?_⟩
  · rw [hversion, hr.version, List.length_append, List.length_singleton]
  · rw [List.countP_append, hr.advances, List.length_append]
    rfl
  · rw [List.map_append, List.nodup_append]
    refine ⟨hr.ids, List.nodup_singleton _, ?_⟩
    intro id hid other hother
    obtain ⟨item, hmem, rfl⟩ := List.mem_map.mp hid
    rw [List.map_singleton, List.mem_singleton] at hother
    rw [hother]
    exact hnew item hmem
  · intro item hmem
    rcases List.mem_append.mp hmem with hold | hlast
    · exact hr.material item hold
    · rw [List.mem_singleton.mp hlast]
      exact material_eq_ok hmaterial

theorem consistent_step (h : Consistent sha256Hex repo) (call : Call) :
    Consistent sha256Hex (step sha256Hex repo call) := by
  rcases step_cases repo call with hsame | ⟨created, hfresh, hcreated⟩ |
    ⟨input, phase, records, state, next, material, houtcome, hstored⟩
  · rw [hsame]
    exact h
  · rw [hcreated]
    intro deploymentId deployment hdeployment
    by_cases hid : deploymentId = created.id
    · subst hid
      exact ⟨createExactEmptyCandidateState, [], [createdAuditEvent created],
        by simp [PilotRepository.insertDeploymentWithInitialState],
        by simp [PilotRepository.insertDeploymentWithInitialState],
        by simp [PilotRepository.insertDeploymentWithInitialState], replays_created created⟩
    · have hold : repo.deployment deploymentId = some deployment := by
        unfold PilotRepository.deployment PilotRepository.insertDeploymentWithInitialState
          at hdeployment
        rw [Table.select_upsert, if_neg (Ne.symm hid)] at hdeployment
        exact hdeployment
      obtain ⟨state, records, audits, hstate, hrecords, haudits, hr⟩ := h deploymentId deployment hold
      exact ⟨state, records, audits,
        by simp [PilotRepository.insertDeploymentWithInitialState, hid, hstate],
        by simp [PilotRepository.insertDeploymentWithInitialState, hid, hrecords],
        by simp [PilotRepository.insertDeploymentWithInitialState, hid, haudits], hr⟩
  · rw [hstored]
    obtain ⟨hstate, hmaterial, rfl, hnew, hproject, hversion⟩ := resolve_advanced houtcome
    intro deploymentId deployment hdeployment
    obtain ⟨old, oldRecords, audits, hold, hrecords, haudits, hr⟩ :=
      h deploymentId deployment hdeployment
    by_cases hid : deploymentId = input.deploymentId
    · subst hid
      have hsame : old = state := Option.some.inj (hold.symm.trans hstate)
      subst hsame
      rw [PilotRepository.records, hrecords, Option.getD_some] at hnew hproject
      refine ⟨next, oldRecords ++ [storedRecord material], _, ?_, ?_, ?_,
        replays_advanced phase hr hmaterial hnew hproject hversion⟩
      · simp [PilotRepository.storeAdvance]
      · simp [PilotRepository.storeAdvance, PilotRepository.records, hrecords]
      · simp [PilotRepository.storeAdvance, PilotRepository.audits, haudits]
    · exact ⟨old, oldRecords, audits, by simp [PilotRepository.storeAdvance, hid, hold],
        by simp [PilotRepository.storeAdvance, hid, hrecords],
        by simp [PilotRepository.storeAdvance, hid, haudits], hr⟩

theorem consistent_run (sha256Hex : String → String) (calls : List Call) :
    Consistent sha256Hex (run (step sha256Hex) PilotRepository.empty calls) := by
  refine run_invariant (Consistent sha256Hex) (fun repo call h => consistent_step h call) ?_ calls
  intro deploymentId deployment h
  cases h

/-! ### Records that are sent again -/

/-- The stored state can be read back as a routing state. -/
def StateReadsBack (state : ExactCandidateState) : Prop :=
  BookReadsBack (exactBook state) ∧ state.stateVersion ≤ maxSafeInteger

theorem Replays.routing_isOk_iff {state : ExactCandidateState}
    (hr : Replays sha256Hex deploymentId state records audits) :
    (∃ routing, toPositionGuardCandidateRoutingState state = .ok routing) ↔ StateReadsBack state := by
  have hvalid : ∀ item ∈ records.map fun item => asEvidence item.evidence,
      EvidenceValid (numbersOf item) := by
    intro item hmem
    obtain ⟨stored, hstored, rfl⟩ := List.mem_map.mp hmem
    exact (hr.material stored hstored).2
  obtain ⟨tracked, ht, hs⟩ := sound_project hvalid hr.replay
  unfold StateReadsBack
  rw [exactBook_eq ht]
  exact Execution.RoutingNumbers.routing_isOk_iff hs ht

variable {stored : StoredEvidence}

theorem find_stored (hids : (records.map fun item => item.evidence.evidenceId).Nodup)
    (hmem : stored ∈ records) :
    (records.find? fun item => item.evidence.evidenceId = stored.evidence.evidenceId) =
      some stored := by
  induction records with
  | nil => cases hmem
  | cons item rest ih =>
    rw [List.map_cons, List.nodup_cons] at hids
    rcases List.mem_cons.mp hmem with rfl | hrest
    · simp
    · have hne : item.evidence.evidenceId ≠ stored.evidence.evidenceId := by
        intro heq
        exact hids.1 (heq ▸ List.mem_map_of_mem hrest)
      rw [List.find?_cons_of_neg (by simpa using hne)]
      exact ih hids.2 hrest

/-- The material of a stored record, sent again. -/
theorem resend_eq {deployment : PositionGuardPilotDeploymentRecord} {state : ExactCandidateState}
    {expectedStateVersion : ℤ} (hdeployment : repo.deployment deploymentId = some deployment)
    (hstate : repo.exactStates deploymentId = some state)
    (hrecords : repo.evidence deploymentId = some records)
    (hr : Replays sha256Hex deploymentId state records audits) (hmem : stored ∈ records)
    (hmaterial : candidateEvidenceMaterial sha256Hex deploymentId evidence = .ok material)
    (hsame : material.evidence = stored.evidence) (hmin : 0 ≤ expectedStateVersion)
    (hmax : expectedStateVersion ≤ maxSafeInteger) :
    advanceStateWithEvidence sha256Hex repo ⟨deploymentId, expectedStateVersion, evidence⟩ =
      ((toPositionGuardCandidateRoutingState state).map fun routing =>
        ⟨routing, stored.evidence, true⟩, repo) := by
  have hversion : throwIf (expectedStateVersion < 0 ∨ (maxSafeInteger : ℤ) < expectedStateVersion)
      "Candidate pilot expected state version must be a non-negative safe integer." =
      Except.ok () := by
    rw [throwIf_eq_ok, not_or, not_lt, not_lt]
    exact ⟨hmin, hmax⟩
  have hhash : ¬ stored.materialHash ≠ material.hash := by
    rw [(hr.material stored hmem).1, (material_eq_ok hmaterial).1, hsame, ne_eq, not_not]
  have houtcome : resolveEvidence sha256Hex repo ⟨deploymentId, expectedStateVersion, evidence⟩ =
      .ok (.duplicate state stored.evidence) := by
    unfold resolveEvidence
    simp only [hversion, ok_bind, hdeployment, hstate, hmaterial, resolveMaterial, hsame,
      PilotRepository.records, hrecords, Option.getD_some, find_stored hr.ids hmem, resolveDuplicate]
    rw [throwIf, if_neg hhash]
    rfl
  unfold advanceStateWithEvidence
  rw [houtcome]

/-- **The stored state is a replay of the stored evidence**, whatever calls were made. Sending stored
material again changes nothing, and is answered as a duplicate exactly if the stored state can be read
back. -/
theorem candidate_state_is_replay (sha256Hex : String → String) (calls : List Call)
    {deploymentId : String} {deployment : PositionGuardPilotDeploymentRecord}
    (h : (run (step sha256Hex) PilotRepository.empty calls).deployment deploymentId =
      some deployment) :
    ∃ state records audits,
      (run (step sha256Hex) PilotRepository.empty calls).exactStates deploymentId = some state ∧
      (run (step sha256Hex) PilotRepository.empty calls).evidence deploymentId = some records ∧
      (run (step sha256Hex) PilotRepository.empty calls).auditEvents deploymentId = some audits ∧
      projectExactCandidateState (records.map fun item => asEvidence item.evidence) = .ok state ∧
      state.stateVersion = records.length ∧ audits.countP isAdvance = records.length ∧
      (records.map fun item => item.evidence.evidenceId).Nodup ∧
      ∀ stored ∈ records, ∀ evidence material, ∀ expectedStateVersion : ℤ,
        candidateEvidenceMaterial sha256Hex deploymentId evidence = .ok material →
        material.evidence = stored.evidence → 0 ≤ expectedStateVersion →
        expectedStateVersion ≤ maxSafeInteger →
        step sha256Hex (run (step sha256Hex) PilotRepository.empty calls)
            (.advance ⟨deploymentId, expectedStateVersion, evidence⟩) =
          run (step sha256Hex) PilotRepository.empty calls ∧
        ((∃ routing, (advanceStateWithEvidence sha256Hex
            (run (step sha256Hex) PilotRepository.empty calls)
            ⟨deploymentId, expectedStateVersion, evidence⟩).1 = .ok ⟨routing, stored.evidence, true⟩) ↔
          StateReadsBack state) := by
  obtain ⟨state, records, audits, hstate, hrecords, haudits, hr⟩ :=
    consistent_run sha256Hex calls deploymentId deployment h
  refine ⟨state, records, audits, hstate, hrecords, haudits, hr.replay, hr.version, hr.advances,
    hr.ids, ?_⟩
  intro stored hmem evidence material expectedStateVersion hmaterial hsame hmin hmax
  have hanswer := resend_eq h hstate hrecords hr hmem hmaterial hsame hmin hmax
  constructor
  · show (advanceStateWithEvidence _ _ _).2 = _
    rw [hanswer]
  · rw [hanswer, ← hr.routing_isOk_iff]
    constructor
    · rintro ⟨routing, hok⟩
      obtain ⟨result, hresult, -⟩ := map_eq_ok hok
      exact ⟨result, hresult⟩
    · rintro ⟨routing, hok⟩
      exact ⟨routing, by rw [hok]; rfl⟩

def exampleDeployment : PositionGuardPilotDeploymentRecord where
  id := "pilot"
  exchangeAccountId := "account"
  phase := .pendingFlat
  activationAt := none
  activationEpochNs := none
  createdAt := "2026-01-01T00:00:00.000Z"
  updatedAt := "2026-01-01T00:00:00.000Z"

/-- A deployment whose entry of 100 KRW is sold for `gross` KRW. -/
def roundTripCalls (gross : String) : List Call :=
  .create exampleDeployment createEmptyPositionGuardCandidateState ::
    (roundTrip gross).mapIdx fun index item => .advance ⟨"pilot", index, item⟩

/-- The exit of `roundTripCalls`, as it is stored. -/
def exitSnapshot (gross : String) : EvidenceSnapshot where
  evidenceId := "b"
  executedAt := "2026-01-03T00:00:00.000Z"
  action := .exit
  entryPath := .pullback
  terminalStatus := .filled
  executedQuantity := "1"
  grossQuoteValueKrw := gross
  confirmedFeeKrw := "0"
  remainingQuantity := "0"

/-- The repository after `roundTripCalls`, with a text as its own digest. -/
def roundTripRepository (gross : String) : PilotRepository :=
  run (step fun text => text) PilotRepository.empty (roundTripCalls gross)

/-- After a profit of 5 KRW the exit is answered as a duplicate when it is sent again. -/
theorem candidate_state_is_replay_profit_five :
    ∃ routing, (advanceStateWithEvidence (fun text => text) (roundTripRepository "105")
      ⟨"pilot", 2, asEvidence (exitSnapshot "105")⟩).1 =
        .ok ⟨routing, exitSnapshot "105", true⟩ := by
  have hdeployment : (roundTripRepository "105").deployment "pilot" = some exampleDeployment := by
    decide +kernel
  have hexit : (roundTripRepository "105").exactStates "pilot" = some (exitedWith "5") := by
    decide +kernel
  have hstored : ((roundTripRepository "105").records "pilot").any
      (fun item => item.evidence = exitSnapshot "105") = true := by
    decide +kernel
  have hmaterial : (candidateEvidenceMaterial (fun text => text) "pilot"
      (asEvidence (exitSnapshot "105"))).map (·.evidence) = .ok (exitSnapshot "105") := by
    decide +kernel
  obtain ⟨material, hmaterial, hsame⟩ := map_eq_ok hmaterial
  obtain ⟨stored, hmem, hsnapshot⟩ := List.any_eq_true.mp hstored
  have hsnapshot : stored.evidence = exitSnapshot "105" := of_decide_eq_true hsnapshot
  obtain ⟨state, records, audits, hstate, hrecords, -, -, -, -, -, hresend⟩ :=
    candidate_state_is_replay (fun text => text) (roundTripCalls "105") hdeployment
  have hmem : stored ∈ records := by
    have hrecords : (roundTripRepository "105").evidence "pilot" = some records := hrecords
    rw [PilotRepository.records, hrecords] at hmem
    exact hmem
  have hback : StateReadsBack state := by
    have hstate : (roundTripRepository "105").exactStates "pilot" = some state := hstate
    rw [hexit] at hstate
    rw [← Option.some.inj hstate]
    exact ⟨⟨by decide +kernel, by decide +kernel, by decide +kernel, Or.inl (by decide +kernel)⟩,
      by decide⟩
  have hanswer := hresend stored hmem (asEvidence (exitSnapshot "105")) material 2 hmaterial
    (hsame.trans hsnapshot.symm) (by decide) (by decide)
  rw [hsnapshot] at hanswer
  exact hanswer.2.mpr hback

/-- After a profit of half a KRW the exit is stored, and sending it again throws. -/
theorem duplicate_after_profit_half_throws :
    ¬ ∀ (calls : List Call) (deploymentId : String),
      ∀ stored ∈ (run (step fun text => text) PilotRepository.empty calls).records deploymentId,
      ∃ routing, (advanceStateWithEvidence (fun text => text)
        (run (step fun text => text) PilotRepository.empty calls)
        ⟨deploymentId, 2, asEvidence stored.evidence⟩).1 = .ok ⟨routing, stored.evidence, true⟩ := by
  intro h
  have hstored : ((roundTripRepository "100.5").records "pilot").any
      (fun item => item.evidence = exitSnapshot "100.5") = true := by
    decide +kernel
  have hthrows : (advanceStateWithEvidence (fun text => text) (roundTripRepository "100.5")
      ⟨"pilot", 2, asEvidence (exitSnapshot "100.5")⟩).1 =
        .error "candidate exact full-exit pnl must be a canonical signed decimal string." := by
    decide +kernel
  obtain ⟨stored, hmem, hsnapshot⟩ := List.any_eq_true.mp hstored
  have hsnapshot : stored.evidence = exitSnapshot "100.5" := of_decide_eq_true hsnapshot
  obtain ⟨routing, hok⟩ := h (roundTripCalls "100.5") "pilot" stored hmem
  rw [hsnapshot] at hok
  exact absurd (hthrows.symm.trans hok) (by simp)

end AutoTrade.Pilot.EvidenceReplay
