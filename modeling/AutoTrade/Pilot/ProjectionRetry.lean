import AutoTrade.Execution.ArrivalOrder
import AutoTrade.Execution.DecisionVerification
import AutoTrade.Execution.TerminalFills
import AutoTrade.Pilot.DisabledFlat
import AutoTrade.Pilot.TerminalProjection

/-! # Projecting an order again

A call of `processTerminalOrder` for an order whose evidence is stored computes the record again and
compares it with the stored one. The quantity that remains is computed from the records before it, and
other orders may have been projected since, also earlier ones. But every advance replays the whole
history and checks the remaining quantity of each record, so the records before a stored one always
lead to a state from which it follows (`replay_before`).

`retry_is_duplicate`: the call reports a duplicate and writes nothing. -/

namespace AutoTrade.Pilot.ProjectionRetry

open Lib Lib.Run Lib.Text Lib.Result Lib.Json
open Lib.JsonText
open Domain.Types Domain.PilotTypes Domain.Timestamp
open Strategy.CandidateState
open Execution.EvidenceDecimals Execution.CandidateEvidence
open Execution.LedgerAgreement
open Execution.ArrivalOrder Execution.TerminalFills
open Pilot.InMemoryRepository Pilot.EvidenceReplay Pilot.PhaseCalls
open Execution.DecisionVerification (saleOrder saleDecision saleDeployment saleBinding plainDigest)
open Lib.Latest (Collation)
open Operator.FaultWriters (JsonKind)
open Pilot.Linearizability (sampleStores sampleActivation sampleRollback)
open Pilot.PhaseMachine Pilot.DisabledFlat Pilot.TerminalProjection

/-! ### The records before a record -/

instance (left right : PositionGuardCandidateExecutionEvidence) : Decidable (Earlier left right) := by
  unfold Earlier; infer_instance

section Prefix

variable {records : List StoredEvidence} {state : ExactCandidateState} {stored : StoredEvidence}

def evidences (records : List StoredEvidence) : List PositionGuardCandidateExecutionEvidence :=
  records.map fun item => asEvidence item.evidence

theorem filter_earlier {front back : List PositionGuardCandidateExecutionEvidence}
    {item : PositionGuardCandidateExecutionEvidence}
    (h : (front ++ item :: back).Pairwise Earlier) :
    (front ++ item :: back).filter (fun other => Earlier other item) = front := by
  obtain ⟨-, hback, hfront⟩ := List.pairwise_append.mp h
  have hitem : ¬ Earlier item item := fun hself => hself.asymm hself
  have hkept : front.filter (fun other => Earlier other item) = front :=
    List.filter_eq_self.mpr fun other hother =>
      decide_eq_true (hfront other hother item List.mem_cons_self)
  have hdropped : back.filter (fun other => Earlier other item) = [] := by
    refine List.filter_eq_nil_iff.mpr fun other hother => ?_
    have hlater : Earlier item other := (List.pairwise_cons.mp hback).1 other hother
    simpa using hlater.asymm
  rw [List.filter_append, hkept, List.filter_cons_of_neg (by simpa using hitem), hdropped,
    List.append_nil]

theorem chronological_of_earlier {items : List PositionGuardCandidateExecutionEvidence}
    (h : items.Pairwise Earlier) : chronological items = items := by
  have hsorted : (items.map fun item => OrderedEvidence.mk item (instant item.executedAt)).Pairwise
      fun a b => a.le b = true := by
    rw [List.pairwise_map]
    refine h.imp fun {a b} hab => decide_eq_true ?_
    rcases hab with hlt | ⟨heq, hid⟩
    · exact Or.inl hlt
    · exact Or.inr ⟨heq, before_asymm hid⟩
  unfold chronological
  rw [hsorted.insertionSort_eq, List.map_map]
  exact List.map_id _

/-- **The records before a stored one lead to a state that it goes on from.** -/
theorem replay_before (hreplay : projectExactCandidateState (evidences records) = .ok state)
    (hversion : state.stateVersion = records.length)
    (hids : (records.map fun item => item.evidence.evidenceId).Nodup) (hmem : stored ∈ records)
    {earlier : List StoredEvidence}
    (hearlier : earlier.Perm (records.filter fun item =>
      Earlier (asEvidence item.evidence) (asEvidence stored.evidence))) :
    ∃ before after, projectExactCandidateState (evidences earlier) = .ok before ∧
      advanceExactCandidateState before (asEvidence stored.evidence) = .ok after ∧
        IsFill (asEvidence stored.evidence) := by
  have hrun := projectExact_eq_ok hreplay
  have hfills : ∀ item ∈ chronological (evidences records), IsFill item := by
    refine isFill_of_version hrun ?_
    rw [length_chronological, evidences, List.length_map, hversion]
    exact (Nat.zero_add _).symm
  obtain ⟨hpairwise, -, -⟩ := run_fills hfills hrun
  have hitem : asEvidence stored.evidence ∈ chronological (evidences records) :=
    mem_chronological.mpr (List.mem_map_of_mem hmem)
  have hperm := perm_chronological (evidences records)
  have htimes := times_of_projection hreplay
  -- the sorted records, split at the stored one
  obtain ⟨front, back, hsplit⟩ := List.append_of_mem hitem
  have hfill := hfills _ hitem
  rw [hsplit] at hrun hpairwise hperm
  rw [List.foldlM_append, bind_eq_ok] at hrun
  obtain ⟨before, hbefore, hrest⟩ := hrun
  rw [List.foldlM_cons, bind_eq_ok] at hrest
  obtain ⟨after, hafter, -⟩ := hrest
  have hfront : (evidences earlier).Perm front := by
    have hfiltered := (hperm.filter fun other => Earlier other (asEvidence stored.evidence)).symm
    rw [filter_earlier hpairwise, evidences, List.filter_map] at hfiltered
    exact (hearlier.map _).trans hfiltered
  have hearlierMem : ∀ item ∈ evidences earlier, item ∈ evidences records := by
    intro item hmem
    rw [← hperm.mem_iff]
    exact List.mem_append_left _ (hfront.mem_iff.mp hmem)
  have hearlierIds : ((evidences earlier).map (·.evidenceId)).Nodup := by
    have hsub : (records.filter fun item =>
        Earlier (asEvidence item.evidence) (asEvidence stored.evidence)).Sublist records :=
      List.filter_sublist
    unfold evidences
    rw [List.map_map]
    exact (hearlier.map _).nodup_iff.mpr (hids.sublist (hsub.map _))
  refine ⟨before, after, ?_, hafter, hfill⟩
  have hfrontTimes : ∀ item ∈ front, IsCandidateTimestamp item.executedAt := fun item hitem =>
    htimes item (hearlierMem item (hfront.mem_iff.mpr hitem))
  rw [projection_eq_of_perm hfront hearlierIds fun item hitem => htimes item (hearlierMem item hitem),
    projection_of_times hfrontTimes, chronological_of_earlier (List.pairwise_append.mp hpairwise).1]
  exact hbefore

theorem derive_of_advance {before after : ExactCandidateState} {snapshot : EvidenceSnapshot}
    (hfill : IsFill (asEvidence snapshot))
    (h : advanceExactCandidateState before (asEvidence snapshot) = .ok after) :
    deriveExactRemainingQuantity before.currentEpisodeInventoryQuantity snapshot.action
      snapshot.executedQuantity = .ok snapshot.remainingQuantity := by
  unfold advanceExactCandidateState at h
  simp only [bind_eq_ok] at h
  obtain ⟨executed, hx, gross, -, fee, -, remaining, hr, ⟨⟩, -, hrest⟩ := h
  have hexecuted : executed ≠ "0" := fun hzero =>
    hfill ((writes_of_canonical hx).eq_zero_iff.mp hzero)
  rw [if_neg hexecuted] at hrest
  obtain ⟨fill, next, hderive, -⟩ := advanceFill_eq_ok hrest
  rw [canonical_of_text hx, canonical_of_text hr] at hderive
  exact hderive

theorem earlierRecords_eq (target : EvidenceSnapshot)
    (h : ∀ item ∈ records, IsCandidateTimestamp item.evidence.executedAt) :
    earlierRecords (instant target.executedAt) target.evidenceId records =
      .ok (records.filter fun item => Earlier (asEvidence item.evidence) (asEvidence target)) := by
  induction records with
  | nil => rfl
  | cons item rest ih =>
    obtain ⟨hitem, hrest⟩ := List.forall_mem_cons.mp h
    have hepoch : parseTimestamp item.evidence.executedAt
        "persisted candidate evidence executedAt" = .ok (instant item.evidence.executedAt) :=
      parseTimestamp_eq_ok.mpr ⟨hitem, rfl⟩
    unfold earlierRecords isBeforeEvidence
    rw [hepoch, ok_bind, ok_bind, ih hrest, ok_bind, List.filter_cons]
    rfl

end Prefix

/-! ### The ledgers of a repository -/

section Ledger

variable {localeLe : String → String → Bool} {sha256Hex : String → String}
  {parseKind : String → Option JsonKind}
  {parseProvenance : String → Except String CandidateIntentFaultProvenance} {hasStore : Bool}
  {repo repo' : PilotRepository} {offers : AdvanceCandidatePilotStateInput → Prop}
  {creates : PositionGuardPilotDeploymentRecord → Prop}

/-- No two deployments of one account. -/
def AccountsOnce (repo : PilotRepository) : Prop :=
  ∀ left ∈ repo.deployments, ∀ right ∈ repo.deployments,
    left.exchangeAccountId = right.exchangeAccountId → left = right

/-- No two deployments of one id. -/
def IdsOnce (repo : PilotRepository) : Prop :=
  ∀ left ∈ repo.deployments, ∀ right ∈ repo.deployments, left.id = right.id → left = right

/-- Every state is the projection of its records, no two records of a deployment have one id, and no
two deployments one id or one account. -/
structure Ledger (repo : PilotRepository) : Prop where
  projected : AllProjected repo
  ids : ∀ id, ((repo.records id).map fun item => item.evidence.evidenceId).Nodup
  deployments : IdsOnce repo
  accounts : AccountsOnce repo

theorem ids_of_effect (h : StateEffect sha256Hex offers repo repo')
    (hids : ∀ id, ((repo.records id).map fun item => item.evidence.evidenceId).Nodup) (id : String) :
    ((repo'.records id).map fun item => item.evidence.evidenceId).Nodup := by
  cases h with
  | kept hstates hevidence hdeployments =>
    have hrecords : repo'.records id = repo.records id := by
      unfold PilotRepository.records
      rw [hevidence]
    rw [hrecords]
    exact hids id
  | created deployment hnew =>
    have hrecords : (repo.insertDeploymentWithInitialState deployment).records id =
        if deployment.id = id then [] else repo.records id := records_update deployment.id id []
    rw [hrecords]
    split_ifs
    · exact List.nodup_nil
    · exact hids id
  | @advanced input phase records state next material hoffers hresolve =>
    obtain ⟨-, -, rfl, hfresh, -, -⟩ := resolve_advanced hresolve
    have hrecords : (repo.storeAdvance input.deploymentId phase
        (repo.records input.deploymentId ++ [storedRecord material]) state next material).records id =
        if input.deploymentId = id then
          repo.records input.deploymentId ++ [storedRecord material] else repo.records id :=
      records_update input.deploymentId id _
    rw [hrecords]
    split_ifs with hid
    · refine Table.nodup_append_of_fresh (hids _) (List.find?_eq_none.mpr fun item hitem => ?_)
      exact fun hsame => hfresh item hitem (of_decide_eq_true hsame)
    · exact hids id

variable {deployment : PositionGuardPilotDeploymentRecord}

theorem once_upsert (key : PositionGuardPilotDeploymentRecord → String)
    (honce : ∀ left ∈ repo.deployments, ∀ right ∈ repo.deployments, key left = key right →
      left = right)
    (hkey : ∀ other ∈ repo.deployments, key other = key deployment → other.id = deployment.id) :
    ∀ left ∈ Table.upsert PositionGuardPilotDeploymentRecord.id deployment repo.deployments,
      ∀ right ∈ Table.upsert PositionGuardPilotDeploymentRecord.id deployment repo.deployments,
        key left = key right → left = right := by
  intro left hleft right hright hsame
  rcases Table.mem_upsert hleft with rfl | ⟨hleftOld, hleftId⟩
  · rcases Table.mem_upsert hright with rfl | ⟨hrightOld, hrightId⟩
    · rfl
    · exact absurd (hkey right hrightOld hsame.symm) hrightId
  · rcases Table.mem_upsert hright with rfl | ⟨hrightOld, -⟩
    · exact absurd (hkey left hleftOld hsame) hleftId
    · exact honce left hleftOld right hrightOld hsame

theorem idsOnce_of_effect (h : Effect creates repo repo') (honce : IdsOnce repo) : IdsOnce repo' := by
  cases h with
  | same => exact honce
  | create deployment hnew hcreates => exact once_upsert _ honce fun _ _ h => h
  | advance deployment deploymentId hdeployment records state next material => exact honce
  | move before after event hbefore hmove hfrom hto => exact once_upsert _ honce fun _ _ h => h

theorem accountsOnce_of_effect (h : Effect (fun _ => False) repo repo') (honce : AccountsOnce repo) :
    AccountsOnce repo' := by
  cases h with
  | same => exact honce
  | create deployment hnew hcreates => exact hcreates.elim
  | advance deployment deploymentId hdeployment records state next material => exact honce
  | move before after event hbefore hmove hfrom hto =>
    refine once_upsert _ honce fun other hother haccount => ?_
    rw [hmove.identity.2.1] at haccount
    rw [honce other hother before (Table.mem_of_select hbefore) haccount]
    exact hmove.identity.1.symm

theorem accountsOnce_create (deployment : PositionGuardPilotDeploymentRecord)
    (initialState : PositionGuardCandidateState) (honce : AccountsOnce repo) :
    AccountsOnce (createDeploymentWithInitialState repo deployment initialState).2 := by
  unfold createDeploymentWithInitialState
  cases hcheck : checkNewDeployment repo deployment initialState with
  | error e => exact honce
  | ok u =>
    simp only [checkNewDeployment, then_eq_ok, throwIf_eq_ok] at hcheck
    refine once_upsert _ honce fun other hother haccount => ?_
    exact absurd (List.any_eq_true.mpr ⟨other, hother, decide_eq_true haccount⟩) hcheck.2.2

theorem accountsOnce_initialize (deployment : PositionGuardPilotDeploymentRecord)
    (initialState : PositionGuardCandidateState) (honce : AccountsOnce repo) :
    AccountsOnce
      (initializeDeploymentWithInitialState localeLe repo deployment initialState).2 := by
  rcases initialize_cases localeLe repo deployment initialState with h | ⟨h, -, -, hfree⟩
  · rw [h]
    exact honce
  · rw [h]
    exact once_upsert _ honce fun other hother haccount => absurd haccount (hfree other hother)

variable {call : RepositoryCall} (stores : PilotStores)

theorem accountsOnce_step (htyped : call.Typed) (honce : AccountsOnce stores.repo) :
    AccountsOnce
      (runRepositoryCall localeLe sha256Hex parseKind parseProvenance hasStore stores call).repo := by
  cases call with
  | createDeploymentWithInitialState deployment initialState =>
    exact accountsOnce_create deployment initialState honce
  | initializeDeploymentWithInitialState deployment initialState =>
    exact accountsOnce_initialize deployment initialState honce
  | pilot call =>
    unfold runRepositoryCall
    dsimp only
    split_ifs
    · exact honce
    · exact accountsOnce_of_effect (effect_runCall stores htyped) honce

theorem ledger_step (htyped : call.Typed) (h : Ledger stores.repo) :
    Ledger
      (runRepositoryCall localeLe sha256Hex parseKind parseProvenance hasStore stores call).repo := by
  have heffect := stateEffect_runRepositoryCall sha256Hex localeLe parseKind parseProvenance hasStore
    stores call
  exact ⟨allProjected_of_effect heffect h.projected, ids_of_effect heffect h.ids,
    idsOnce_of_effect (effect_runRepositoryCall stores htyped) h.deployments,
    accountsOnce_step stores htyped h.accounts⟩

/-- The record is stored for the deployment, which has the account and the activation it had. -/
structure Holds (repo : PilotRepository) (deployment : PositionGuardPilotDeploymentRecord)
    (stored : StoredEvidence) : Prop where
  deployed : ∃ current, repo.deployment deployment.id = some current ∧
    current.exchangeAccountId = deployment.exchangeAccountId ∧
    current.activationAt = deployment.activationAt ∧
    current.activationEpochNs = deployment.activationEpochNs
  hasState : ∃ state, repo.exactStates deployment.id = some state
  recorded : stored ∈ repo.records deployment.id

variable {stored : StoredEvidence}

theorem holds_of_effects (heffect : Effect creates repo repo')
    (hstates : StateEffect sha256Hex offers repo repo')
    (hactivated : deployment.activationAt ≠ none) (h : Holds repo deployment stored) :
    Holds repo' deployment stored := by
  obtain ⟨current, hcurrent, haccount, hat, hepoch⟩ := h.deployed
  obtain ⟨state, hstate⟩ := h.hasState
  have hdeployed : ∃ current, repo'.deployment deployment.id = some current ∧
      current.exchangeAccountId = deployment.exchangeAccountId ∧
      current.activationAt = deployment.activationAt ∧
      current.activationEpochNs = deployment.activationEpochNs := by
    obtain ⟨after, hafter, hmove⟩ := deploymentMove_of_effect heffect hcurrent
    obtain ⟨hat', hepoch'⟩ :=
      (laterDeployment_of_move hmove).activation (Or.inl (by rw [hat]; exact hactivated))
    exact ⟨after, hafter, hmove.identity.2.1.trans haccount, hat'.trans hat, hepoch'.trans hepoch⟩
  cases hstates with
  | kept hsame hevidence hids =>
    refine ⟨hdeployed, ⟨state, by rw [hsame]; exact hstate⟩, ?_⟩
    have hrecords : repo'.records deployment.id = repo.records deployment.id := by
      unfold PilotRepository.records
      rw [hevidence]
    rw [hrecords]
    exact h.recorded
  | created created hnew =>
    have hne : created.id ≠ deployment.id := by
      intro hid
      rw [hid, hcurrent] at hnew
      cases hnew
    refine ⟨hdeployed, ⟨state, ?_⟩, ?_⟩
    · exact (Function.update_of_ne hne.symm _ _).trans hstate
    · have hrecords : (repo.insertDeploymentWithInitialState created).records deployment.id =
          if created.id = deployment.id then [] else repo.records deployment.id :=
        records_update created.id deployment.id []
      rw [hrecords, if_neg hne]
      exact h.recorded
  | @advanced input phase records current next material hoffers hresolve =>
    obtain ⟨-, -, rfl, -, -, -⟩ := resolve_advanced hresolve
    have hrecords : (repo.storeAdvance input.deploymentId phase
        (repo.records input.deploymentId ++ [storedRecord material]) current next
        material).records deployment.id =
        if input.deploymentId = deployment.id then
          repo.records input.deploymentId ++ [storedRecord material]
        else repo.records deployment.id := records_update input.deploymentId deployment.id _
    by_cases hid : input.deploymentId = deployment.id
    · rw [if_pos hid, hid] at hrecords
      refine ⟨hdeployed, ⟨next, ?_⟩, ?_⟩
      · rw [← hid]
        exact Function.update_self ..
      · rw [hid, hrecords]
        exact List.mem_append_left _ h.recorded
    · rw [if_neg hid] at hrecords
      refine ⟨hdeployed, ⟨state, ?_⟩, ?_⟩
      · exact (Function.update_of_ne (Ne.symm hid) _ _).trans hstate
      · rw [hrecords]
        exact h.recorded

theorem ledger_advanced {input : AdvanceCandidatePilotStateInput} (h : Ledger repo) :
    Ledger (advanceStateWithEvidence sha256Hex repo input).2 := by
  have hstates : StateEffect sha256Hex (fun _ => True) repo
      (advanceStateWithEvidence sha256Hex repo input).2 := stateEffect_advance trivial
  have heffect : Effect (fun _ => False) repo (advanceStateWithEvidence sha256Hex repo input).2 :=
    effect_advanceStateWithEvidence sha256Hex repo input
  exact ⟨allProjected_of_effect hstates h.projected, ids_of_effect hstates h.ids,
    idsOnce_of_effect heffect h.deployments, accountsOnce_of_effect heffect h.accounts⟩

theorem holds_advanced {version : ℤ} {evidence : PositionGuardCandidateExecutionEvidence}
    {phase : PositionGuardPilotPhase} {records : List StoredEvidence}
    {state next : ExactCandidateState} {material : EvidenceMaterial} (honce : IdsOnce repo)
    (hmem : deployment ∈ repo.deployments)
    (hresolve : resolveEvidence sha256Hex repo ⟨deployment.id, version, evidence⟩ =
      .ok (.advanced phase records state next material)) :
    Holds (advanceStateWithEvidence sha256Hex repo ⟨deployment.id, version, evidence⟩).2 deployment
      (storedRecord material) := by
  obtain ⟨hstate, -, rfl, -, -, -⟩ := resolve_advanced hresolve
  have hstored : (advanceStateWithEvidence sha256Hex repo ⟨deployment.id, version, evidence⟩).2 =
      repo.storeAdvance deployment.id phase
        (repo.records deployment.id ++ [storedRecord material]) state next material := by
    unfold advanceStateWithEvidence
    rw [hresolve]
  rw [hstored]
  refine ⟨?_, ⟨next, Function.update_self ..⟩, ?_⟩
  · have hsome : (repo.deployment deployment.id).isSome = true :=
      List.find?_isSome.mpr ⟨deployment, hmem, decide_eq_true rfl⟩
    obtain ⟨found, hfound⟩ := Option.isSome_iff_exists.mp hsome
    obtain rfl : found = deployment := honce found (Table.mem_of_select hfound) deployment hmem
      (Table.key_of_select hfound)
    exact ⟨found, hfound, rfl, rfl, rfl⟩
  · have hrecords : (repo.storeAdvance deployment.id phase
        (repo.records deployment.id ++ [storedRecord material]) state next
        material).records deployment.id = _ :=
      (records_update deployment.id deployment.id _).trans (if_pos rfl)
    rw [hrecords]
    exact List.mem_append_right _ List.mem_cons_self

variable {calls : List RepositoryCall}

/-- **Every later run keeps the ledger and the record.** -/
theorem holds_run (hactivated : deployment.activationAt ≠ none) {stores : PilotStores}
    (hledger : Ledger stores.repo) (h : Holds stores.repo deployment stored)
    (htyped : ∀ call ∈ calls, call.Typed) :
    Ledger (run (runRepositoryCall localeLe sha256Hex parseKind parseProvenance hasStore) stores
        calls).repo ∧
      Holds (run (runRepositoryCall localeLe sha256Hex parseKind parseProvenance hasStore) stores
        calls).repo deployment stored := by
  induction calls generalizing stores with
  | nil => exact ⟨hledger, h⟩
  | cons call rest ih =>
    have hcall := htyped call List.mem_cons_self
    have hstates := stateEffect_runRepositoryCall sha256Hex localeLe parseKind parseProvenance
      hasStore stores call
    exact ih (ledger_step stores hcall hledger)
      (holds_of_effects (effect_runRepositoryCall stores hcall) hstates hactivated h)
      fun later hlater => htyped later (List.mem_cons_of_mem _ hlater)

theorem ledger_runCalls (operator : AutoTrade.Operator.InMemoryStore.InMemoryOperatorStateStore)
    (htyped : ∀ call ∈ calls, call.Typed) :
    Ledger
      (runCalls localeLe sha256Hex parseKind parseProvenance hasStore operator calls).repo := by
  induction calls using List.reverseRecOn with
  | nil =>
    refine ⟨fun id state hstate => ?_, fun id => List.nodup_nil, fun left hleft => ?_,
      fun left hleft => ?_⟩
    · cases hstate
    · cases hleft
    · cases hleft
  | append_singleton calls call ih =>
    rw [runCalls_concat]
    exact ledger_step _ (htyped call (by simp)) (ih fun c hc => htyped c (List.mem_append_left _ hc))

/-- **One deployment for each id and account.** This holds after every run of calls, and every state
is the projection of its evidence, in which no id is twice. -/
theorem one_deployment_per_account
    (operator : AutoTrade.Operator.InMemoryStore.InMemoryOperatorStateStore)
    (htyped : ∀ call ∈ calls, call.Typed) :
    let repo := (runCalls localeLe sha256Hex parseKind parseProvenance hasStore operator calls).repo
    (∀ left ∈ repo.deployments, ∀ right ∈ repo.deployments,
      left.id = right.id ∨ left.exchangeAccountId = right.exchangeAccountId → left = right) ∧
    (∀ id, ((repo.records id).map fun item => item.evidence.evidenceId).Nodup) ∧
    ∀ id state, repo.exactStates id = some state →
      projectExactCandidateState (evidences (repo.records id)) = .ok state := by
  intro repo
  have h : Ledger repo := ledger_runCalls operator htyped
  refine ⟨fun left hleft right hright hsame => ?_, h.ids, fun id state hstate => ?_⟩
  · exact hsame.elim (h.deployments left hleft right hright) (h.accounts left hleft right hright)
  · exact (h.projected id state hstate).replay

end Ledger

theorem one_deployment_per_account_rollback :
    let repo := (sampleRun (sampleCalls ++ [.pilot sampleRollback])).repo
    repo.deployments.length = 1 ∧ ∀ left ∈ repo.deployments, ∀ right ∈ repo.deployments,
      left.id = right.id ∨ left.exchangeAccountId = right.exchangeAccountId → left = right := by
  refine ⟨by decide +kernel, ?_⟩
  exact (one_deployment_per_account sampleStores.operator
    (by simp [sampleCalls, RepositoryCall.Typed, sampleRollback, sampleActivation])).1

/-! ### A call that advances -/

section Calls

variable {Num : Type} {service : Service Num} {stores stores' : Stores} {order : OrderRecord}
  {deployment : PositionGuardPilotDeploymentRecord} {decision : VerifiedDecision}
  {aggregate : TerminalFillAggregate}

variable {α : Type}

theorem read_eq_ok {dependency : Dependency} {value answer : α} :
    service.read dependency value = .ok answer ↔
      service.failure dependency = none ∧ value = answer := by
  unfold Service.read
  cases service.failure dependency with
  | none => simp
  | some message => simp

/-- What a call has read of an order whose record it projects. -/
structure Reads (service : Service Num) [DecidableEq Num] (stores : Stores) (order : OrderRecord)
    (deployment : PositionGuardPilotDeploymentRecord) (decision : VerifiedDecision)
    (aggregate : TerminalFillAggregate) : Prop where
  deployed : getDeploymentForExchangeAccount service stores order.exchangeAccountId =
    some deployment
  activated : hasVerifiedDeploymentActivation deployment = true
  verified : ∃ binding, stores.bindingsByOrderId order.id = some binding ∧
    getVerifiedDecision (parse service.numbers) (getStrategyDecisionById stores) order deployment
      binding = .ok decision
  filled : (listFills stores order.id).isEmpty = false
  aggregated : aggregateTerminalFills order decision (listFills stores order.id) = .ok aggregate

/-- The plan is to store a record of the order for the deployment. -/
def Projects (order : OrderRecord) (deployment : PositionGuardPilotDeploymentRecord)
    (decision : VerifiedDecision) (aggregate : TerminalFillAggregate)
    (input : AdvanceCandidatePilotStateInput) : Prop :=
  ∃ version remaining,
    input = ⟨deployment.id, version, asEvidence (evidenceOf order decision aggregate remaining)⟩

variable {plan : Plan}

variable {now : Clock} {result : CandidateEvidenceProjectionResult}

theorem fault_outcome {code message : String}
    (h : fault service stores order code message now = .ok (result, stores')) :
    result.outcome = .fault := by
  unfold fault at h
  simp only [bind_eq_ok, Except.ok.injEq, Prod.mk.injEq] at h
  obtain ⟨-, -, event, -, persisted, -, rfl, -⟩ := h
  rfl

theorem repair_outcome {event : OrderEventRecord}
    (h : repairPersistedFaultPause service stores order event now = .ok (result, stores')) :
    result.outcome = .fault := by
  unfold repairPersistedFaultPause at h
  simp only [bind_eq_ok, Except.ok.injEq, Prod.mk.injEq] at h
  obtain ⟨-, -, persisted, -, rfl, -⟩ := h
  rfl

theorem recordNoFill_outcome
    (h : recordTerminalNoFill service stores order decision now = .ok (result, stores')) :
    result.outcome ≠ .advanced := by
  unfold recordTerminalNoFill at h
  obtain ⟨marked, -, h⟩ := bind_eq_ok.mp h
  split_ifs at h
  · obtain ⟨rfl, -⟩ := Prod.mk.inj (Except.ok.inj h)
    exact fun heq => by cases heq
  · simp only [bind_eq_ok, Except.ok.injEq, Prod.mk.injEq] at h
    obtain ⟨-, -, -, -, rfl, -⟩ := h
    exact fun heq => by cases heq

theorem orUnchanged_eq_ok {x : Except Thrown (α × Stores)} {answer : α} :
    orUnchanged stores x = (.ok answer, stores') ↔ x = .ok (answer, stores') := by
  unfold orUnchanged
  cases x with
  | error thrown => simp
  | ok value => simp [Prod.ext_iff]

theorem advance_eq_advanced {input : AdvanceCandidatePilotStateInput}
    (h : advance service stores order input = (.ok result, stores'))
    (hadvanced : result.outcome = .advanced) :
    stores' = { stores with
        pilot := (advanceStateWithEvidence service.sha256Hex stores.pilot input).2 } ∧
      ∃ phase records state next material,
        resolveEvidence service.sha256Hex stores.pilot input =
          .ok (.advanced phase records state next material) := by
  unfold advance at h
  cases hfailure : service.failure .advanceStateWithEvidence with
  | some message =>
    rw [hfailure] at h
    cases (Prod.mk.inj h).1
  | none =>
    rw [hfailure] at h
    obtain ⟨hresult, hstores⟩ := Prod.mk.inj h
    refine ⟨hstores.symm, ?_⟩
    cases hresolve : resolveEvidence service.sha256Hex stores.pilot input with
    | error e => simp [hresolve] at hresult
    | ok outcome =>
      cases outcome with
      | duplicate state evidence =>
        -- a duplicate is reported as one
        cases hrouting : toPositionGuardCandidateRoutingState state with
        | error e =>
          simp [hresolve, hrouting, Except.map] at hresult
        | ok routing =>
          simp [hresolve, hrouting, Except.map] at hresult
          rw [← hresult] at hadvanced
          cases hadvanced
      | advanced phase records state next material =>
        exact ⟨phase, records, state, next, material, rfl⟩

variable [DecidableEq Num] {binding : CandidateExecutionBindingRecord}

/-- The order is bound to the open deployment of its account. -/
structure Served (service : Service Num) (stores : Stores) (order : OrderRecord)
    (deployment : PositionGuardPilotDeploymentRecord) (binding : CandidateExecutionBindingRecord) :
    Prop where
  deployed : getDeploymentForExchangeAccount service stores order.exchangeAccountId = some deployment
  isOpen : isOpen deployment = true
  activated : hasVerifiedDeploymentActivation deployment = true
  bound : stores.bindingsByOrderId order.id = some binding
  deploymentId : binding.deploymentId = deployment.id

/-- How a plan comes about. -/
inductive Planned (service : Service Num) [DecidableEq Num] (stores : Stores) (order : OrderRecord) :
    Plan → Prop
  | repair {event : OrderEventRecord} :
    findIncompleteFaultPause service stores order = .ok (some event) →
    Planned service stores order (.repair event)
  | notOpen {detail : String} :
    ((getDeploymentForExchangeAccount service stores order.exchangeAccountId).filter
      fun deployment => isOpen deployment) = none →
    Planned service stores order (.report .noActiveDeployment detail)
  | preActivation {deployment : PositionGuardPilotDeploymentRecord} {detail : String} :
    getDeploymentForExchangeAccount service stores order.exchangeAccountId = some deployment →
    hasVerifiedDeploymentActivation deployment = true → stores.bindingsByOrderId order.id = none →
    isPreActivationOrder order deployment = true →
    Planned service stores order (.report .notCandidateOrder detail)
  | marked {detail : String} : hasTerminalNoFillMarker service stores order = true →
    (listFills stores order.id).isEmpty = true →
    Planned service stores order (.report .duplicate detail)
  | noFill {decision : VerifiedDecision} : (listFills stores order.id).isEmpty = true →
    Planned service stores order (.recordNoFill decision)
  | recorded {deployment : PositionGuardPilotDeploymentRecord}
    {binding : CandidateExecutionBindingRecord} {detail : String} :
    Served service stores order deployment binding →
    (getEvidenceRecord stores deployment.id (evidenceIdOf order)).isSome = true →
    Planned service stores order (.report .duplicate detail)
  | advance {deployment : PositionGuardPilotDeploymentRecord}
    {binding : CandidateExecutionBindingRecord} {decision : VerifiedDecision}
    {aggregate : TerminalFillAggregate} {version : ℕ} {remaining : String} :
    Served service stores order deployment binding →
    Reads service stores order deployment decision aggregate →
    Planned service stores order
      (.advance ⟨deployment.id, version, asEvidence (evidenceOf order decision aggregate remaining)⟩)

theorem planned_evidence (hserved : Served service stores order deployment binding)
    (hreads : Reads service stores order deployment decision aggregate)
    (h : planEvidence service stores order deployment decision aggregate = .ok plan) :
    Planned service stores order plan := by
  unfold planEvidence at h
  obtain ⟨exactState, -, h⟩ := bind_eq_ok.mp h
  cases exactState with
  | none => cases h
  | some exactState =>
    simp only [bind_eq_ok] at h
    obtain ⟨records, -, epoch, -, earlier, -, before, -, remaining, -, existing, hexisting, h⟩ := h
    obtain ⟨-, rfl⟩ := read_eq_ok.mp hexisting
    cases hrecord : getEvidenceRecord stores deployment.id (evidenceIdOf order) with
    | some existing =>
      rw [hrecord] at h
      dsimp only at h
      rw [then_eq_ok] at h
      rw [← Except.ok.inj h.2]
      exact .recorded hserved (by rw [hrecord]; rfl)
    | none =>
      rw [hrecord] at h
      rw [← Except.ok.inj h]
      exact .advance hserved hreads

omit [DecidableEq Num] in
theorem deploymentId_of_verified {parseJson : String → Option (JsonValue Num)} [DecidableEq Num]
    {decisions : String → Option StrategyDecisionRecord}
    (h : getVerifiedDecision parseJson decisions order deployment binding = .ok decision) :
    binding.deploymentId = deployment.id := by
  unfold getVerifiedDecision at h
  obtain ⟨-, h⟩ := then_eq_ok.mp h
  cases hdecision : order.strategyDecisionId.bind decisions with
  | none =>
    rw [hdecision] at h
    cases h
  | some stored =>
    rw [hdecision] at h
    dsimp only at h
    obtain ⟨hbinding, -⟩ := then_eq_ok.mp h
    unfold verifyBinding at hbinding
    rw [then_eq_ok, throwIf_eq_ok] at hbinding
    exact by_contra fun hne => hbinding.1 (Or.inl hne)

theorem planned_bound (hserved : binding.deploymentId = deployment.id →
      Served service stores order deployment binding)
    (h : planBound service stores order deployment binding = .ok plan) :
    Planned service stores order plan := by
  unfold planBound at h
  obtain ⟨decisions, hdecisions, h⟩ := bind_eq_ok.mp h
  obtain rfl : getStrategyDecisionById stores = decisions := by
    unfold storedDecisions at hdecisions
    split_ifs at hdecisions
    · exact (read_eq_ok.mp hdecisions).2
    · exact Except.ok.inj hdecisions
  simp only [bind_eq_ok] at h
  obtain ⟨decision, hdecision, fills, hfills, h⟩ := h
  obtain ⟨-, rfl⟩ := read_eq_ok.mp hfills
  split_ifs at h with hempty
  · obtain ⟨marked, hmarked, h⟩ := bind_eq_ok.mp h
    obtain ⟨-, rfl⟩ := read_eq_ok.mp hmarked
    split_ifs at h with hmarker
    · rw [← Except.ok.inj h]
      exact .marked hmarker hempty
    · rw [← Except.ok.inj h]
      exact .noFill hempty
  · obtain ⟨aggregate, haggregate, h⟩ := bind_eq_ok.mp h
    have hbound := hserved (deploymentId_of_verified hdecision)
    exact planned_evidence hbound ⟨hbound.deployed, hbound.activated, ⟨binding, hbound.bound, hdecision⟩,
      by simpa using hempty, haggregate⟩ h

theorem planned (h : planProjection service stores order = .ok plan) :
    Planned service stores order plan := by
  unfold planProjection at h
  obtain ⟨incompleteFault, hincomplete, h⟩ := bind_eq_ok.mp h
  cases incompleteFault with
  | some event =>
    rw [← Except.ok.inj h]
    exact .repair hincomplete
  | none =>
    obtain ⟨found, hfound, h⟩ := bind_eq_ok.mp h
    obtain ⟨-, rfl⟩ := read_eq_ok.mp hfound
    cases hfilter : (getDeploymentForExchangeAccount service stores order.exchangeAccountId).filter
        fun deployment => isOpen deployment with
    | none =>
      rw [hfilter] at h
      rw [← Except.ok.inj h]
      exact .notOpen hfilter
    | some deployment =>
      rw [hfilter] at h
      obtain ⟨hdeployed, hopen⟩ := Option.filter_eq_some_iff.mp hfilter
      unfold planActive throwFault at h
      dsimp only at h
      rw [then_eq_ok, throwIf_eq_ok, Bool.not_eq_false] at h
      obtain ⟨hactivated, h⟩ := h
      obtain ⟨binding, hread, h⟩ := bind_eq_ok.mp h
      obtain ⟨-, hbinding⟩ := read_eq_ok.mp hread
      cases binding with
      | none =>
        dsimp only at h
        split_ifs at h with hpre
        rw [← Except.ok.inj h]
        exact .preActivation hdeployed hactivated hbinding hpre
      | some binding =>
        exact planned_bound (fun hid => ⟨hdeployed, hopen, hactivated, hbinding, hid⟩) h

theorem projectOrFault_advanced
    (h : projectOrFault service stores order now = (.ok result, stores'))
    (hadvanced : result.outcome = .advanced) :
    ∃ input, planProjection service stores order = .ok (.advance input) ∧
      advance service stores order input = (.ok result, stores') := by
  unfold projectOrFault at h
  split at h
  · rename_i projected projectedStores hproject
    obtain ⟨hresult, rfl⟩ := Prod.mk.inj h
    obtain rfl := Except.ok.inj hresult
    unfold project at hproject
    cases hplan : planProjection service stores order with
    | error thrown =>
      rw [hplan] at hproject
      cases (Prod.mk.inj hproject).1
    | ok plan =>
      have hplanned := planned hplan
      rw [hplan] at hproject
      cases plan with
      | report outcome detail =>
        rw [← Except.ok.inj (Prod.mk.inj hproject).1] at hadvanced
        cases hadvanced
        cases hplanned
      | repair event =>
        rw [repair_outcome (orUnchanged_eq_ok.mp hproject)] at hadvanced
        cases hadvanced
      | recordNoFill decision =>
        exact absurd hadvanced (recordNoFill_outcome (orUnchanged_eq_ok.mp hproject))
      | advance input => exact ⟨input, rfl, hproject⟩
  · rw [fault_outcome (orUnchanged_eq_ok.mp h)] at hadvanced
    cases hadvanced

variable {reference : String}

/-- **A call that returns `ADVANCED`** has stored a new record, and nothing else. -/
theorem processTerminalOrder_advanced
    (h : processTerminalOrder service stores reference now = (.ok result, stores'))
    (hadvanced : result.outcome = .advanced) :
    ∃ order deployment decision aggregate input,
      findOrderByReference service stores reference = some order ∧ isCandidateOrder order = true ∧
        isTerminal order = true ∧
        Reads service stores order deployment decision aggregate ∧
        Projects order deployment decision aggregate input ∧
        stores' = { stores with
          pilot := (advanceStateWithEvidence service.sha256Hex stores.pilot input).2 } ∧
        ∃ phase records state next material,
          resolveEvidence service.sha256Hex stores.pilot input =
            .ok (.advanced phase records state next material) := by
  unfold processTerminalOrder at h
  cases hfound : findOrderByReference service stores reference with
  | none =>
    rw [hfound] at h
    rw [← Except.ok.inj (Prod.mk.inj h).1] at hadvanced
    cases hadvanced
  | some order =>
    rw [hfound] at h
    dsimp only at h
    split_ifs at h with hcandidate hterminal
    · rw [← Except.ok.inj (Prod.mk.inj h).1] at hadvanced
      cases hadvanced
    · rw [← Except.ok.inj (Prod.mk.inj h).1] at hadvanced
      cases hadvanced
    · obtain ⟨input, hplan, hadvance⟩ := projectOrFault_advanced h hadvanced
      obtain ⟨hstores, hresolve⟩ := advance_eq_advanced hadvance hadvanced
      cases planned hplan with
      | advance _ hreads =>
        exact ⟨order, _, _, _, _, rfl, by simpa using hcandidate, by simpa using hterminal, hreads,
          ⟨_, _, rfl⟩, hstores, hresolve⟩

/-! ### The call again -/

/-- The service while its dependencies answer. -/
def answering (service : Service Num) : Service Num := { service with failure := fun _ => none }

omit [DecidableEq Num] in
theorem read_answering (dependency : Dependency) (value : α) :
    (answering service).read dependency value = .ok value := rfl

variable {stored : StoredEvidence} {current : PositionGuardPilotDeploymentRecord}
  {remaining : String}

omit [DecidableEq Num] in
/-- The record of the order is stored: computed again it is the same. -/
theorem planEvidence_duplicate (hledger : Ledger stores.pilot)
    (hholds : Holds stores.pilot deployment stored) (hid : current.id = deployment.id)
    (hstored : stored.evidence = evidenceOf order decision aggregate remaining) :
    planEvidence (answering service) stores order current decision aggregate =
      .ok (.report .duplicate "Terminal order evidence was already projected.") := by
  obtain ⟨state, hstate⟩ := hholds.hasState
  obtain ⟨hreplay, hversion, -⟩ := hledger.projected deployment.id state hstate
  have hids := hledger.ids deployment.id
  have htimes : ∀ item ∈ stores.pilot.records deployment.id,
      IsCandidateTimestamp item.evidence.executedAt := fun item hitem =>
    times_of_projection hreplay _ (List.mem_map_of_mem hitem)
  have hordered : (orderedEvidence (stores.pilot.records deployment.id)).Perm
      (stores.pilot.records deployment.id) := List.perm_insertionSort _ _
  have hepoch : parseTimestamp aggregate.executedAt "terminal fill executedAt" =
      .ok (instant stored.evidence.executedAt) := by
    refine parseTimestamp_eq_ok.mpr ⟨?_, by rw [hstored]; rfl⟩
    have htime := htimes stored hholds.recorded
    rw [hstored] at htime
    exact htime
  have hearlier : earlierRecords (instant stored.evidence.executedAt) (evidenceIdOf order)
      (orderedEvidence (stores.pilot.records deployment.id)) =
        .ok ((orderedEvidence (stores.pilot.records deployment.id)).filter fun item =>
          Earlier (asEvidence item.evidence) (asEvidence stored.evidence)) := by
    have hevidenceId : evidenceIdOf order = stored.evidence.evidenceId := by rw [hstored]; rfl
    rw [hevidenceId]
    exact earlierRecords_eq stored.evidence fun item hitem => htimes item (hordered.mem_iff.mp hitem)
  obtain ⟨before, after, hbefore, hafter, hfill⟩ :=
    replay_before hreplay hversion hids hholds.recorded (hordered.filter _)
  have hderive : deriveExactRemainingQuantity before.currentEpisodeInventoryQuantity decision.action
      aggregate.executedQuantity = .ok remaining := by
    have hstoredRemaining := derive_of_advance hfill hafter
    rw [hstored] at hstoredRemaining
    exact hstoredRemaining
  have hexisting : getEvidenceRecord stores deployment.id (evidenceIdOf order) = some stored := by
    have hselect := Table.select_of_mem hids hholds.recorded
    rw [hstored] at hselect
    exact hselect
  have hmatches : assertMatchingExistingEvidence stored.evidence
      (evidenceOf order decision aggregate remaining) = .ok () := by
    rw [hstored, assertMatchingExistingEvidence, throwFault, throwIf_eq_ok]
    simp
  unfold evidences at hbefore
  unfold planEvidence
  simp only [hid, hstate, read_answering, ok_bind, hepoch, hearlier, hbefore, call, Except.mapError,
    hderive, hexisting, hmatches]

theorem getVerifiedDecision_congr {parseJson : String → Option (JsonValue Num)}
    {decisions decisions' : String → Option StrategyDecisionRecord}
    (hdecision : order.strategyDecisionId.bind decisions' = order.strategyDecisionId.bind decisions)
    (hid : current.id = deployment.id) (hat : current.activationAt = deployment.activationAt)
    (hepoch : current.activationEpochNs = deployment.activationEpochNs) :
    getVerifiedDecision parseJson decisions' order current binding =
      getVerifiedDecision parseJson decisions order deployment binding := by
  unfold getVerifiedDecision verifyBinding verifyInstants
  rw [hdecision, hid, hat, hepoch]

omit [DecidableEq Num] in
theorem mem_of_getDeploymentForExchangeAccount {exchangeAccountId : String}
    (h : getDeploymentForExchangeAccount service stores exchangeAccountId = some deployment) :
    deployment ∈ stores.pilot.deployments ∧ deployment.exchangeAccountId = exchangeAccountId := by
  have hmem := List.mem_of_mem_head? (Option.mem_def.mpr h)
  rw [List.mem_insertionSort, List.mem_filter, decide_eq_true_eq] at hmem
  exact hmem

/-- What an order is projected from is the same: its row, its decision, its binding and its fills. -/
structure SameInputs (service : Service Num) (reference : String) (before after : Stores) : Prop where
  row : findOrderByReference service after reference = findOrderByReference service before reference
  decision : ∀ order ∈ findOrderByReference service before reference,
    order.strategyDecisionId.bind (getStrategyDecisionById after) =
      order.strategyDecisionId.bind (getStrategyDecisionById before)
  binding : ∀ order ∈ findOrderByReference service before reference,
    after.bindingsByOrderId order.id = before.bindingsByOrderId order.id
  fills : ∀ order ∈ findOrderByReference service before reference,
    listFills after order.id = listFills before order.id

/-- No fault event of the order is recorded. -/
def Unfaulted (service : Service Num) (stores : Stores) (reference : String) : Prop :=
  ∀ order ∈ findOrderByReference service stores reference,
    candidateProjectionFaultEvents (listOrderEvents service stores order.id) order.id = []

/-- The deployment of the order's account is active or draining. -/
def DeploymentOpen (service : Service Num) (stores : Stores) (reference : String) : Prop :=
  ∀ order ∈ findOrderByReference service stores reference, ∃ deployment,
    getDeploymentForExchangeAccount service stores order.exchangeAccountId = some deployment ∧
      isOpen deployment = true

omit [DecidableEq Num] in
theorem findIncompleteFaultPause_none
    (h : candidateProjectionFaultEvents (listOrderEvents service stores order.id) order.id = []) :
    findIncompleteFaultPause (answering service) stores order = .ok none := by
  have hevents : orderedFaultEvents (answering service) stores order = [] := by
    unfold orderedFaultEvents
    change (candidateProjectionFaultEvents (listOrderEvents service stores order.id)
      order.id).insertionSort _ = []
    rw [h]
    rfl
  unfold findIncompleteFaultPause
  rw [read_answering, ok_bind, hevents]

/-- An order whose record is stored: the plan is to report a duplicate. -/
theorem planProjection_duplicate {before : Stores}
    (hfound : findOrderByReference service before reference = some order)
    (hreads : Reads service before order deployment decision aggregate)
    (hledger : Ledger stores.pilot) (hholds : Holds stores.pilot deployment stored)
    (hstored : stored.evidence = evidenceOf order decision aggregate remaining)
    (hsame : SameInputs service reference before stores)
    (hfault : Unfaulted service stores reference)
    (hopen : DeploymentOpen service stores reference) :
    planProjection (answering service) stores order =
      .ok (.report .duplicate "Terminal order evidence was already projected.") := by
  have hrow : findOrderByReference service stores reference = some order := hsame.row.trans hfound
  obtain ⟨found, hdeployment, hphase⟩ := hopen order hrow
  obtain ⟨hmem, haccount⟩ := mem_of_getDeploymentForExchangeAccount hdeployment
  obtain ⟨-, haccount'⟩ := mem_of_getDeploymentForExchangeAccount hreads.deployed
  -- the deployment of the account is the one that holds the record
  obtain ⟨current, hcurrent, hcurrentAccount, hat, hepoch⟩ := hholds.deployed
  have hid : current.id = deployment.id := Table.key_of_select hcurrent
  obtain rfl : current = found := hledger.accounts current (Table.mem_of_select hcurrent) found hmem
    (by rw [hcurrentAccount, haccount', haccount])
  obtain ⟨binding, hbinding, hverified⟩ := hreads.verified
  have hdeployed : getDeploymentForExchangeAccount (answering service) stores
      order.exchangeAccountId = some current := hdeployment
  have hactivated : hasVerifiedDeploymentActivation current = true := by
    have hverifiedActivation := hreads.activated
    unfold hasVerifiedDeploymentActivation at hverifiedActivation ⊢
    rw [hat, hepoch]
    exact hverifiedActivation
  have hdecision : getVerifiedDecision (parse service.numbers) (getStrategyDecisionById stores) order
      current binding = .ok decision := by
    rw [getVerifiedDecision_congr (hsame.decision order hfound) hid hat hepoch]
    exact hverified
  have hfills : listFills stores order.id = listFills before order.id := hsame.fills order hfound
  have hdecisions : storedDecisions (answering service) stores order =
      .ok (getStrategyDecisionById stores) := by
    unfold storedDecisions
    split_ifs <;> rfl
  unfold planProjection
  rw [findIncompleteFaultPause_none (hfault order hrow), ok_bind]
  dsimp only
  rw [read_answering, ok_bind, hdeployed, Option.filter_some, if_pos hphase]
  unfold planActive throwFault
  dsimp only
  rw [hactivated, hsame.binding order hfound, hbinding]
  simp only [throwIf, Bool.true_eq_false, if_false, read_answering, ok_bind]
  change planBound (answering service) stores order current binding = _
  unfold planBound
  rw [hdecisions, ok_bind]
  change (getVerifiedDecision (parse service.numbers) (getStrategyDecisionById stores) order current
    binding >>= _) = _
  rw [hdecision, ok_bind, read_answering, ok_bind, hfills, if_neg (by rw [hreads.filled]; decide),
    hreads.aggregated, ok_bind]
  exact planEvidence_duplicate hledger hholds hid hstored

end Calls

/-! ### The retry -/

section Retry

variable {Num : Type} [DecidableEq Num] {service : Service Num}
  {localeLe : String → String → Bool} {parseKind : String → Option JsonKind}
  {parseProvenance : String → Except String CandidateIntentFaultProvenance} {hasStore : Bool}

/-- **Projecting an order again.** In a repository that any calls have led to, a call has returned
`ADVANCED`. After any further calls, and whatever else has been written, a call for the same order
reports a duplicate and writes nothing, as long as the order's own row, decision, binding and fills are
what they were, no fault of it is recorded, its deployment is open and the dependencies answer. -/
theorem retry_is_duplicate
    (operator operator' : AutoTrade.Operator.InMemoryStore.InMemoryOperatorStateStore)
    {calls later : List RepositoryCall} (htyped : ∀ call ∈ calls ++ later, call.Typed)
    {stores advanced after : Stores} {reference : String} {now : Clock}
    {result : CandidateEvidenceProjectionResult}
    (hreached : stores.pilot =
      (runCalls localeLe service.sha256Hex parseKind parseProvenance hasStore operator calls).repo)
    (hcall : processTerminalOrder service stores reference now = (.ok result, advanced))
    (hadvanced : result.outcome = .advanced)
    (hlater : after.pilot = (run
      (runRepositoryCall localeLe service.sha256Hex parseKind parseProvenance hasStore)
      ⟨advanced.pilot, operator'⟩ later).repo)
    (hsame : SameInputs service reference advanced after) (hfault : Unfaulted service after reference)
    (hopen : DeploymentOpen service after reference) (now' : Clock) :
    ∃ orderId, processTerminalOrder (answering service) after reference now' =
      (.ok ⟨.duplicate, orderId, "Terminal order evidence was already projected."⟩, after) := by
  obtain ⟨order, deployment, decision, aggregate, input, hfound, hcandidate, hterminal, hreads,
    ⟨version, remaining, rfl⟩, hstores, phase, records, state, next, material, hresolve⟩ :=
    processTerminalOrder_advanced hcall hadvanced
  have hledger : Ledger stores.pilot := by
    rw [hreached]
    exact ledger_runCalls operator fun call hmem => htyped call (List.mem_append_left _ hmem)
  obtain ⟨-, hmaterial, -, -, -, -⟩ := resolve_advanced hresolve
  obtain ⟨hmem, -⟩ := mem_of_getDeploymentForExchangeAccount hreads.deployed
  have hactivated : deployment.activationAt ≠ none := by
    have hverified := hreads.activated
    unfold hasVerifiedDeploymentActivation at hverified
    intro hnone
    rw [hnone] at hverified
    cases hverified
  have hledgerAdvanced : Ledger (PilotStores.mk advanced.pilot operator').repo := by
    rw [hstores]
    exact ledger_advanced hledger
  have hholdsAdvanced :
      Holds (PilotStores.mk advanced.pilot operator').repo deployment (storedRecord material) := by
    rw [hstores]
    exact holds_advanced hledger.deployments hmem hresolve
  obtain ⟨hledgerAfter, hholds⟩ := holds_run hactivated hledgerAdvanced hholdsAdvanced
    fun call hmem => htyped call (List.mem_append_right _ hmem)
  rw [← hlater] at hledgerAfter hholds
  -- the advance changed the ledger only
  have hinputs : SameInputs service reference stores after := by
    rw [hstores] at hsame
    exact ⟨hsame.row, hsame.decision, hsame.binding, hsame.fills⟩
  have hplan := planProjection_duplicate hfound hreads hledgerAfter hholds
    (material_evidence hmaterial) hinputs hfault hopen
  have hfoundAfter : findOrderByReference (answering service) after reference = some order :=
    hinputs.row.trans hfound
  refine ⟨order.id, ?_⟩
  unfold processTerminalOrder projectOrFault project
  rw [hfoundAfter]
  dsimp only
  rw [if_neg (by rw [hcandidate]; decide), if_neg (by rw [hterminal]; decide), hplan]

end Retry

/-! ### A purchase that is projected twice -/

def purchaseBasis : String :=
  "\x7b\"strategyDecision\":\x7b\"market\":\"KRW-BTC\",\"action\":\"ENTER\"\x7d," ++
    "\"engineDecision\":\x7b\"entryPath\":\"PULLBACK\"\x7d\x7d"

/-- The repositories with a purchase of one bitcoin for 100000000 KRW that is filled. -/
def purchaseStores : Stores where
  repositories :=
    { orders := [{ saleOrder .filled with
        side := .bid, ordType := .price, volume := none, price := some "100000000" }]
      orderEvents := []
      operator := sampleStores.operator }
  fills := [{
    id := "fill", orderId := "order", exchangeFillId := "trade", market := .krwBtc, side := .bid
    price := "100000000", volume := "1", feeCurrency := some "KRW", feeAmount := some "50000"
    feeProvenance := some .exchangeFillConfirmed
    executionTimestampProvenance := some .exchangeFillConfirmed
    executionEpochNs := some "1767225601000000000", filledAt := "2026-01-01T09:00:01+09:00"
    rawPayloadJson := "null" }]
  strategyDecisions := [{ saleDecision purchaseBasis with
    action := .enter, intendedQuantity := none, intendedNotionalKrw := some "100000000" }]
  pilot := (runCalls (fun _ _ => true) plainDigest (fun _ => none) (fun _ => .error "no provenance")
    true sampleStores.operator
    [.createDeploymentWithInitialState saleDeployment createEmptyPositionGuardCandidateState]).repo
  bindingsByOrderId := fun orderId => if orderId = "order" then some { saleBinding with
      ordType := .price, action := .enter, side := .bid, intendedQuantity := none
      intendedNotionalKrw := some "100000000", boundPrice := some "100000000", boundVolume := none }
    else none

def purchaseService : Service ℤ where
  exchangeAccountId := "acct"
  numbers := integers
  order := Collation.bytes
  dateParse := fun _ => none
  sha256Hex := plainDigest
  failure := fun _ => none

/-- A second purchase, in the record of which the first one is counted. -/
def addition : RepositoryCall := .pilot (.advanceStateWithEvidence {
  deploymentId := "deployment"
  expectedStateVersion := 1
  evidence := pullback "terminal-order:other" "2026-01-02T09:00:00+09:00" .add "2" "200000000"
    "100000" "3" })

/-- The stores after the first call, and after a later record of another order. -/
def purchaseAdvanced : Stores :=
  (processTerminalOrder purchaseService purchaseStores "order" ⟨"2026-01-01T00:00:02.000Z", 0⟩).2

def purchaseAfter : Stores :=
  { purchaseAdvanced with
    pilot := (run (runRepositoryCall (fun _ _ => true) plainDigest (fun _ => none)
      (fun _ => .error "no provenance") true) ⟨purchaseAdvanced.pilot, sampleStores.operator⟩
        [addition]).repo }

/-- The addition is stored, and the purchase is a duplicate. -/
theorem retry_is_duplicate_purchase :
    (purchaseAfter.pilot.records "deployment").map (fun item => item.evidence.evidenceId) =
        ["terminal-order:order", "terminal-order:other"] ∧
      ∃ orderId, processTerminalOrder (answering purchaseService) purchaseAfter "order"
          ⟨"2026-01-02T00:00:01.000Z", 0⟩ =
        (.ok ⟨.duplicate, orderId, "Terminal order evidence was already projected."⟩,
          purchaseAfter) := by
  have hcall : (processTerminalOrder purchaseService purchaseStores "order"
      ⟨"2026-01-01T00:00:02.000Z", 0⟩).1 =
        .ok ⟨.advanced, "order", "Terminal order evidence was projected atomically."⟩ := by
    decide +kernel
  have hprocess : processTerminalOrder purchaseService purchaseStores "order"
      ⟨"2026-01-01T00:00:02.000Z", 0⟩ = (.ok ⟨.advanced, "order",
        "Terminal order evidence was projected atomically."⟩, purchaseAdvanced) :=
    Prod.ext hcall rfl
  have hlater : purchaseAfter.pilot = (run (runRepositoryCall (fun _ _ => true) plainDigest
      (fun _ => none) (fun _ => .error "no provenance") true)
        ⟨purchaseAdvanced.pilot, sampleStores.operator⟩ [addition]).repo := rfl
  have hsame : SameInputs purchaseService "order" purchaseAdvanced purchaseAfter :=
    ⟨rfl, fun _ _ => rfl, fun _ _ => rfl, fun _ _ => rfl⟩
  have hrow : findOrderByReference purchaseService purchaseAfter "order" =
      purchaseStores.repositories.orders.head? := by decide +kernel
  have hfault : Unfaulted purchaseService purchaseAfter "order" := by
    intro order horder
    rw [hrow] at horder
    obtain rfl := Option.mem_some.mp horder
    decide +kernel
  have hopen : DeploymentOpen purchaseService purchaseAfter "order" := by
    intro order horder
    rw [hrow] at horder
    obtain rfl := Option.mem_some.mp horder
    exact ⟨saleDeployment, by decide +kernel, by decide⟩
  have htyped : ∀ call ∈ [.createDeploymentWithInitialState saleDeployment
      createEmptyPositionGuardCandidateState] ++ [addition], call.Typed := by
    simp [RepositoryCall.Typed, addition]
  exact ⟨by decide +kernel, retry_is_duplicate sampleStores.operator sampleStores.operator htyped rfl
    hprocess rfl hlater hsame hfault hopen _⟩

end AutoTrade.Pilot.ProjectionRetry
