import AutoTrade.Pilot.EvidenceReplay
import AutoTrade.Pilot.PhaseMachine

/-! # What a disabled deployment holds

`completeRollback` disables a deployment whose exact state is flat, but `advanceStateWithEvidence`
takes evidence in every phase. Every record the repository stores is a fill, so the inventory of a
state is the remaining quantity of the last record in the order of the projection. Evidence that comes
before that one leaves a flat inventory flat; evidence that comes after it is taken only as an entry,
and opens the inventory again.

`Reopens` says when a call offers such an entry. A disabled deployment stays disabled and flat along
every run that does not offer it one (`disabled_stays_flat`); a late fill of an order that was executed
before the rollback may be one (`late_fill_reopens`). -/

namespace AutoTrade.Pilot.DisabledFlat

open Lib Lib.Run Lib.Text Lib.Result
open Domain.PilotTypes Domain.Timestamp Strategy.Core
open Strategy.CandidateState Strategy.CandidateLedger
open Execution.EvidenceDecimals
open Execution.LedgerAgreement Pilot.InMemoryRepository
open Pilot.EvidenceReplay hiding Call step step_cases
open Pilot.PhaseCalls Pilot.Linearizability Pilot.PhaseMachine
open Operator.FaultWriters (JsonKind)

/-! ### Fills in the exact ledger -/

/-- The record is before the other in the order of the projection. -/
def Earlier (left right : PositionGuardCandidateExecutionEvidence) : Prop :=
  instant left.executedAt < instant right.executedAt ∨
    (instant left.executedAt = instant right.executedAt ∧
      before left.evidenceId right.evidenceId = true)

/-- The record is after the cursor of the state. -/
def AfterState (state : ExactCandidateState) (item : PositionGuardCandidateExecutionEvidence) : Prop :=
  ∀ cursorAt ∈ state.lastEvidenceAt, instant cursorAt < instant item.executedAt ∨
    (instant cursorAt = instant item.executedAt ∧
      before (state.lastEvidenceId.getD "") item.evidenceId = true)

/-- The record fills something. -/
def IsFill (item : PositionGuardCandidateExecutionEvidence) : Prop :=
  (numbersOf item).executedQuantity ≠ 0

instance (item : PositionGuardCandidateExecutionEvidence) : Decidable (IsFill item) := by
  unfold IsFill; infer_instance

theorem before_trans {a b c : String} (hab : before a b = true) (hbc : before b c = true) :
    before a c = true := by
  unfold before at *
  rw [decide_eq_true_eq] at *
  exact lt_trans hab hbc

theorem before_asymm {a b : String} (hab : before a b = true) : before b a ≠ true := by
  unfold before at *
  rw [ne_eq, decide_eq_true_eq]
  rw [decide_eq_true_eq] at hab
  exact lt_asymm hab

theorem Earlier.asymm {a b : PositionGuardCandidateExecutionEvidence} (hab : Earlier a b) :
    ¬ Earlier b a := by
  intro hba
  rcases hab with hab | ⟨hab, hid⟩
  · rcases hba with hba | ⟨hba, -⟩
    · exact lt_asymm hab hba
    · exact hab.ne' hba
  · rcases hba with hba | ⟨-, hid'⟩
    · exact hba.ne' hab
    · exact before_asymm hid hid'

variable {state : ExactCandidateState}

theorem AfterState.trans {first second : PositionGuardCandidateExecutionEvidence}
    (h : AfterState state first) (hlater : Earlier first second) : AfterState state second := by
  intro cursorAt hcursor
  rcases h cursorAt hcursor with hlt | ⟨heq, hid⟩
  · rcases hlater with hlt' | ⟨heq', -⟩
    · exact Or.inl (hlt.trans hlt')
    · exact Or.inl (heq' ▸ hlt)
  · rcases hlater with hlt' | ⟨heq', hid'⟩
    · exact Or.inl (heq ▸ hlt')
    · exact Or.inr ⟨heq.trans heq', before_trans hid hid'⟩

variable {exact exact' : ExactCandidateState} {item : PositionGuardCandidateExecutionEvidence}

/-- The state after a fill: the cursor is at the record, the inventory is what the record leaves. -/
structure EndsWith (state : ExactCandidateState) (item : PositionGuardCandidateExecutionEvidence) :
    Prop where
  at' : state.lastEvidenceAt = some item.executedAt
  id : state.lastEvidenceId = some item.evidenceId
  inventory : Writes state.currentEpisodeInventoryQuantity (numbersOf item).remainingQuantity

theorem advance_fill (hfill : IsFill item) (h : advanceExactCandidateState exact item = .ok exact') :
    EndsWith exact' item ∧ exact'.stateVersion = exact.stateVersion + 1 ∧ AfterState exact item := by
  obtain ⟨executed, gross, fee, remaining, hx, -, -, hr, hchronology, hrest⟩ := advanceExact_eq_ok h
  have hexecuted : executed ≠ "0" := fun hzero => hfill (hx.eq_zero_iff.mp hzero)
  rw [if_neg hexecuted] at hrest
  obtain ⟨fill, next, -, -, hnext, rfl⟩ := advanceFill_eq_ok hrest
  have hafter : AfterState exact item := after_of_chronology hchronology
  cases haction : isBuyAction item.action with
  | true =>
    rw [haction, if_pos rfl] at hnext
    unfold exactBuy at hnext
    rw [guard_eq_ok, guard_eq_ok] at hnext
    obtain ⟨-, -, hnext⟩ := hnext
    rw [← Except.ok.inj hnext]
    exact ⟨⟨rfl, rfl, hr⟩, rfl, hafter⟩
  | false =>
    rw [haction, if_neg (by decide)] at hnext
    obtain ⟨-, removed, -, hnext⟩ := exactSell_eq_ok hnext
    rw [hnext]
    split_ifs with hremaining
    · rw [hremaining] at hr
      exact ⟨⟨rfl, rfl, hr⟩, rfl, hafter⟩
    · exact ⟨⟨rfl, rfl, hr⟩, rfl, hafter⟩

theorem advance_noFill (hfill : ¬ IsFill item)
    (h : advanceExactCandidateState exact item = .ok exact') : exact' = exact := by
  obtain ⟨executed, gross, fee, remaining, hx, -, -, -, -, hrest⟩ := advanceExact_eq_ok h
  have hexecuted : executed = "0" := hx.eq_zero_iff.mpr (not_not.mp hfill)
  rw [if_pos hexecuted] at hrest
  unfold advanceNoFill at hrest
  rw [then_eq_ok] at hrest
  exact (Except.ok.inj hrest.2).symm

variable {items : List PositionGuardCandidateExecutionEvidence}

theorem version_run (h : items.foldlM advanceExactCandidateState exact = .ok exact') :
    exact'.stateVersion = exact.stateVersion + items.countP fun item => IsFill item := by
  induction items generalizing exact with
  | nil =>
    rw [← Except.ok.inj h]
    rfl
  | cons item rest ih =>
    rw [List.foldlM_cons, bind_eq_ok] at h
    obtain ⟨middle, hstep, hrest⟩ := h
    have hcount := ih hrest
    by_cases hfill : IsFill item
    · have hversion := (advance_fill hfill hstep).2.1
      rw [List.countP_cons_of_pos (by simpa using hfill)]
      omega
    · rw [advance_noFill hfill hstep] at hcount
      rw [List.countP_cons_of_neg (by simpa using hfill)]
      exact hcount

theorem isFill_of_version (h : items.foldlM advanceExactCandidateState exact = .ok exact')
    (hversion : exact'.stateVersion = exact.stateVersion + items.length) :
    ∀ item ∈ items, IsFill item := by
  have hcount := version_run h
  have hall : items.countP (fun item => IsFill item) = items.length := by omega
  intro item hmem
  simpa using List.countP_eq_length.mp hall item hmem

theorem afterState_of_endsWith {last : PositionGuardCandidateExecutionEvidence}
    (h : EndsWith state last) : AfterState state item ↔ Earlier last item := by
  unfold AfterState Earlier
  rw [h.at', h.id]
  simp

/-- **A run over fills**: they are in the order of the projection, after the cursor the run starts
from, and the last one gives the cursor and the inventory. -/
theorem run_fills (hfills : ∀ item ∈ items, IsFill item)
    (h : items.foldlM advanceExactCandidateState exact = .ok exact') :
    items.Pairwise Earlier ∧ (∀ item ∈ items, AfterState exact item) ∧
      ∀ last ∈ items.getLast?, EndsWith exact' last := by
  induction items generalizing exact with
  | nil => exact ⟨List.Pairwise.nil, by simp, by simp⟩
  | cons first rest ih =>
    rw [List.foldlM_cons, bind_eq_ok] at h
    obtain ⟨middle, hstep, hrest⟩ := h
    obtain ⟨hends, -, hafter⟩ := advance_fill (hfills first List.mem_cons_self) hstep
    obtain ⟨hpairwise, hlater, hlast⟩ :=
      ih (fun item hmem => hfills item (List.mem_cons_of_mem _ hmem)) hrest
    have hfirst : ∀ item ∈ rest, Earlier first item :=
      fun item hmem => (afterState_of_endsWith hends).mp (hlater item hmem)
    refine ⟨List.pairwise_cons.mpr ⟨hfirst, hpairwise⟩, ?_, ?_⟩
    · intro item hmem
      rcases List.mem_cons.mp hmem with rfl | hmem
      · exact hafter
      · exact hafter.trans (hfirst item hmem)
    · cases rest with
      | nil =>
        rw [← Except.ok.inj hrest]
        simpa using hends
      | cons second rest => simpa using hlast

/-! ### Flat inventories -/

/-- A fill that a flat inventory takes is an entry that leaves what it fills. -/
theorem entry_of_flat {state : PositionGuardCandidateState} (ht : Tracks exact state)
    (hflat : exact.currentEpisodeInventoryQuantity = "0") (hfill : IsFill item)
    (h : advanceExactCandidateState exact item = .ok exact') :
    item.action = .enter ∧
      (numbersOf item).remainingQuantity = (numbersOf item).executedQuantity := by
  have hnone : state.currentEpisodeInventoryQuantity = 0 := ht.quantity.eq_zero_iff.mp hflat
  obtain ⟨executed, gross, fee, remaining, hx, -, -, hr, -, hrest⟩ := advanceExact_eq_ok h
  have hexecuted : executed ≠ "0" := fun hzero => hfill (hx.eq_zero_iff.mp hzero)
  rw [if_neg hexecuted] at hrest
  obtain ⟨fill, next, hderive, -, hnext, -⟩ := advanceFill_eq_ok hrest
  cases haction : isBuyAction item.action with
  | true =>
    rw [haction, if_pos rfl] at hnext
    obtain ⟨-, hadd, -⟩ := exactBuy_eq_ok ht hnext
    have henter : item.action = .enter := by
      revert haction hadd
      cases item.action with
      | enter => intros; rfl
      | add => intro _ hadd; exact absurd hnone (hadd rfl)
      | reduce => intro hbuy; cases hbuy
      | exit => intro hbuy; cases hbuy
    have hsum := derive_buy ht haction hx hderive
    rw [hnone, zero_add] at hsum
    exact ⟨henter, hr.routingNumber_eq.symm.trans hsum.routingNumber_eq⟩
  | false =>
    rw [haction, if_neg (by decide)] at hnext
    exact absurd hflat (exactSell_eq_ok hnext).1

theorem perm_chronological (items : List PositionGuardCandidateExecutionEvidence) :
    (chronological items).Perm items := by
  have hsort := List.perm_insertionSort (fun a b => OrderedEvidence.le a b)
    (items.map fun item => OrderedEvidence.mk item (instant item.executedAt))
  have hmap := hsort.map OrderedEvidence.evidence
  rw [List.map_map] at hmap
  exact hmap.trans (by simp [Function.comp_def])

theorem eq_of_perm_of_earlier {l m : List PositionGuardCandidateExecutionEvidence}
    (hperm : l.Perm m) (hl : l.Pairwise Earlier) (hm : m.Pairwise Earlier) : l = m :=
  hperm.eq_of_pairwise (fun _ _ _ _ hab hba => absurd hba hab.asymm) hl hm

theorem last_eq_of_earlier {front front' : List PositionGuardCandidateExecutionEvidence}
    {last last' : PositionGuardCandidateExecutionEvidence}
    (h : (front ++ [last]).Pairwise Earlier) (h' : (front' ++ [last']).Pairwise Earlier)
    (hmem : last ∈ front' ++ [last']) (hmem' : last' ∈ front ++ [last]) : last = last' := by
  rcases List.mem_append.mp hmem with hfront' | hlast'
  · rcases List.mem_append.mp hmem' with hfront | hlast
    · have hlater : Earlier last last' :=
        (List.pairwise_append.mp h').2.2 last hfront' last' (by simp)
      have hearlier : Earlier last' last :=
        (List.pairwise_append.mp h).2.2 last' hfront last (by simp)
      exact absurd hearlier hlater.asymm
    · exact (List.mem_singleton.mp hlast).symm
  · exact List.mem_singleton.mp hlast'

variable {state next : ExactCandidateState}

/-- **One more record over a flat inventory**: it stays flat, or the record is an entry after the
cursor. -/
theorem flat_or_entry (hvalid : ∀ other ∈ items, EvidenceValid (numbersOf other))
    (hstate : projectExactCandidateState items = .ok state)
    (hversion : state.stateVersion = items.length)
    (hflat : state.currentEpisodeInventoryQuantity = "0")
    (hnext : projectExactCandidateState (items ++ [item]) = .ok next)
    (hversion' : next.stateVersion = items.length + 1) :
    next.currentEpisodeInventoryQuantity = "0" ∨
      (IsFill item ∧ AfterState state item ∧ item.action = .enter ∧
        (numbersOf item).remainingQuantity = (numbersOf item).executedQuantity) := by
  have hrun := projectExact_eq_ok hstate
  have hrun' := projectExact_eq_ok hnext
  have hperm := perm_chronological items
  have hperm' := perm_chronological (items ++ [item])
  have hfills : ∀ other ∈ chronological items, IsFill other := by
    refine isFill_of_version hrun ?_
    rw [length_chronological, hversion]
    exact (Nat.zero_add _).symm
  have hfills' : ∀ other ∈ chronological (items ++ [item]), IsFill other := by
    refine isFill_of_version hrun' ?_
    rw [length_chronological, hversion', List.length_append, List.length_singleton]
    exact (Nat.zero_add _).symm
  obtain ⟨hordered, -, hlast⟩ := run_fills hfills hrun
  obtain ⟨hordered', -, hlast'⟩ := run_fills hfills' hrun'
  rcases List.eq_nil_or_concat' (chronological (items ++ [item])) with hnil | ⟨front, last, hsplit⟩
  · rw [hnil] at hperm'
    simpa using hperm'.length_eq
  rw [hsplit] at hperm' hordered' hlast' hrun'
  have hends : EndsWith next last := hlast' last (by simp)
  by_cases hitem : last = item
  · -- the new record is the last one, and the others give the stored state
    subst hitem
    have hfront : front = chronological items := by
      refine eq_of_perm_of_earlier ?_ (List.pairwise_append.mp hordered').1 hordered
      exact ((List.perm_append_right_iff _).mp hperm').trans hperm.symm
    rw [List.foldlM_append, hfront, hrun, ok_bind, List.foldlM_cons, bind_eq_ok] at hrun'
    obtain ⟨after, hadvance, hdone⟩ := hrun'
    have hfill : IsFill last := hfills' last (by rw [hsplit]; simp)
    obtain ⟨tracked, ht, -⟩ := sound_project hvalid hstate
    exact Or.inr ⟨hfill, (advance_fill hfill hadvance).2.2, entry_of_flat ht hflat hfill hadvance⟩
  · -- an old record is still the last one
    left
    have hold : last ∈ chronological items := by
      have hmem : last ∈ items ++ [item] := hperm'.subset (by simp)
      rcases List.mem_append.mp hmem with hmem | hmem
      · exact hperm.symm.subset hmem
      · exact absurd (List.mem_singleton.mp hmem) hitem
    obtain ⟨front', last', hsplit'⟩ := (List.eq_nil_or_concat' (chronological items)).resolve_left
      (List.ne_nil_of_mem hold)
    have hmem' : last' ∈ items ++ [item] := by
      refine List.mem_append_left _ (hperm.subset ?_)
      rw [hsplit']
      simp
    have hsame : last' = last := by
      rw [hsplit'] at hold hordered
      exact last_eq_of_earlier hordered hordered' (hperm'.symm.subset hmem') hold
    have hends' : EndsWith state last := by
      refine hlast last ?_
      rw [hsplit', ← hsame]
      simp
    have hnone := hends'.inventory.eq_zero_iff.mp hflat
    exact hends.inventory.eq_zero_iff.mpr hnone

/-! ### Calls and the states -/

/-- What a call may do to the exact states and the evidence; `offers` is the evidence that it may
store. -/
inductive StateEffect (sha256Hex : String → String) (offers : AdvanceCandidatePilotStateInput → Prop)
    (repo : PilotRepository) : PilotRepository → Prop
  | kept {repo' : PilotRepository} (hstates : repo'.exactStates = repo.exactStates)
      (hevidence : repo'.evidence = repo.evidence)
      (hids : ∀ id, repo.deployment id = none → repo'.deployment id = none) :
      StateEffect sha256Hex offers repo repo'
  | created (deployment : PositionGuardPilotDeploymentRecord)
      (hnew : repo.deployment deployment.id = none) :
      StateEffect sha256Hex offers repo (repo.insertDeploymentWithInitialState deployment)
  | advanced {input : AdvanceCandidatePilotStateInput} {phase : PositionGuardPilotPhase}
      {records : List StoredEvidence} {state next : ExactCandidateState}
      {material : EvidenceMaterial} (hoffers : offers input)
      (h : resolveEvidence sha256Hex repo input =
        .ok (.advanced phase records state next material)) :
      StateEffect sha256Hex offers repo
        (repo.storeAdvance input.deploymentId phase records state next material)

variable {stores : PilotStores}

section Effects

variable {sha256Hex : String → String} {offers : AdvanceCandidatePilotStateInput → Prop}
  {repo : PilotRepository}

theorem stateEffect_refl : StateEffect sha256Hex offers repo repo := .kept rfl rfl fun _ hid => hid

theorem stateEffect_storePhase {before after : PositionGuardPilotDeploymentRecord}
    (event : PositionGuardPilotAuditEventRecord) (hbefore : repo.deployment before.id = some before)
    (hid : after.id = before.id) :
    StateEffect sha256Hex offers repo (PilotRepository.storePhase repo after event) := by
  refine .kept rfl rfl fun id hnone => ?_
  rw [deployment_storePhase, hid]
  have hne : before.id ≠ id := by
    rintro rfl
    rw [hbefore] at hnone
    cases hnone
  rw [if_neg hne]
  exact hnone

theorem stateEffect_create (deployment : PositionGuardPilotDeploymentRecord)
    (initialState : PositionGuardCandidateState) :
    StateEffect sha256Hex offers repo (createDeploymentWithInitialState repo deployment initialState).2 := by
  unfold createDeploymentWithInitialState
  cases hcheck : checkNewDeployment repo deployment initialState with
  | error e => exact stateEffect_refl
  | ok u =>
    simp only [checkNewDeployment, then_eq_ok, throwIf_eq_ok, Option.not_isSome_iff_eq_none]
      at hcheck
    exact .created deployment hcheck.2.1

theorem stateEffect_initialize (localeLe : String → String → Bool)
    (deployment : PositionGuardPilotDeploymentRecord) (initialState : PositionGuardCandidateState) :
    StateEffect sha256Hex offers repo
      (initializeDeploymentWithInitialState localeLe repo deployment initialState).2 := by
  rcases initialize_cases localeLe repo deployment initialState with h | ⟨h, -, hnew, -⟩
  · rw [h]
    exact stateEffect_refl
  · rw [h]
    exact .created deployment hnew

theorem stateEffect_activate (input : ActivateCandidatePilotDeploymentInput) :
    StateEffect sha256Hex offers repo (activateDeployment repo input).2 := by
  unfold activateDeployment
  cases hdeployment : repo.deployment input.deploymentId with
  | none => exact stateEffect_refl
  | some deployment =>
    dsimp only
    split_ifs
    · exact stateEffect_refl
    · cases validateActivationInput input deployment with
      | error e => exact stateEffect_refl
      | ok u =>
        have hid : deployment.id = input.deploymentId := Table.key_of_select hdeployment
        have hstored : repo.deployment deployment.id = some deployment := hid ▸ hdeployment
        exact stateEffect_storePhase _ hstored rfl

theorem stateEffect_of_moved {repo' : PilotRepository} (h : Moved repo repo') :
    StateEffect sha256Hex offers repo repo' := by
  cases h with
  | same => exact stateEffect_refl
  | move before after event hdeployment hmove hfrom hto =>
    exact stateEffect_storePhase event hdeployment hmove.identity.1

theorem stateEffect_advance {input : AdvanceCandidatePilotStateInput} (hoffers : offers input) :
    StateEffect sha256Hex offers repo (advanceStateWithEvidence sha256Hex repo input).2 := by
  unfold advanceStateWithEvidence
  cases hresolve : resolveEvidence sha256Hex repo input with
  | error e => exact stateEffect_refl
  | ok outcome =>
    cases outcome with
    | duplicate state evidence => exact stateEffect_refl
    | advanced phase records state next material => exact .advanced hoffers hresolve

/-- The evidence that a call offers. -/
def Offers (call : RepositoryCall) (input : AdvanceCandidatePilotStateInput) : Prop :=
  call = .pilot (.advanceStateWithEvidence input)

theorem stateEffect_runAtOnce (stores : PilotStores) (call : PilotCall) :
    StateEffect sha256Hex (Offers (.pilot call)) stores.repo
      (runAtOnce sha256Hex stores call).2.repo := by
  cases call with
  | activateDeployment input => exact stateEffect_activate input
  | startRollback input => exact stateEffect_of_moved (moved_rollbackWithAuthority stores .started input)
  | completeRollback input => exact stateEffect_of_moved (moved_rollbackWithAuthority stores .completed input)
  | advanceStateWithEvidence input => exact stateEffect_advance rfl
  | operatorCommand command clock => exact stateEffect_refl
  | operatorFaultPause input =>
    unfold runAtOnce
    dsimp only
    split <;> exact stateEffect_refl
  | pauseForRecoveryFault input => exact stateEffect_refl
  | pauseForCandidateIntentFault input => exact stateEffect_refl

theorem stateEffect_runRepositoryCall (sha256Hex : String → String)
    (localeLe : String → String → Bool)
    (parseKind : String → Option JsonKind)
    (parseProvenance : String → Except String CandidateIntentFaultProvenance) (hasStore : Bool)
    (stores : PilotStores) (call : RepositoryCall) :
    StateEffect sha256Hex (Offers call) stores.repo
      (runRepositoryCall localeLe sha256Hex parseKind parseProvenance hasStore stores call).repo := by
  cases call with
  | createDeploymentWithInitialState deployment initialState =>
    exact stateEffect_create deployment initialState
  | initializeDeploymentWithInitialState deployment initialState =>
    exact stateEffect_initialize localeLe deployment initialState
  | pilot call =>
    unfold runRepositoryCall
    dsimp only
    split_ifs
    · exact stateEffect_refl
    · unfold runCall
      cases faultRequest sha256Hex parseKind parseProvenance call with
      | none => exact stateEffect_runAtOnce stores call
      | some validated =>
        cases validated with
        | error e => exact stateEffect_refl
        | ok request =>
          dsimp only
          cases hreads : readFault stores request with
          | error e => exact stateEffect_refl
          | ok reads => exact stateEffect_of_moved (moved_finishFault _ _ hreads _)

end Effects

/-! ### The condition -/

variable {call : RepositoryCall}

section Runs

variable (sha256Hex : String → String)

/-- **The call reopens the inventory**: it offers a new entry under the stored version, whose fill is
what it leaves, after everything the state has seen. -/
structure Reopens (repo : PilotRepository) (input : AdvanceCandidatePilotStateInput)
    (state : ExactCandidateState) (material : EvidenceMaterial) : Prop where
  stored : repo.exactStates input.deploymentId = some state
  version : (state.stateVersion : ℤ) = input.expectedStateVersion
  safe : input.expectedStateVersion ≤ maxSafeInteger
  valid : candidateEvidenceMaterial sha256Hex input.deploymentId input.evidence = .ok material
  fresh : ∀ item ∈ repo.records input.deploymentId,
    item.evidence.evidenceId ≠ material.evidence.evidenceId
  fill : IsFill (asEvidence material.evidence)
  after : AfterState state (asEvidence material.evidence)
  entry : material.evidence.action = .enter
  remaining : (numbersOf (asEvidence material.evidence)).remainingQuantity =
    (numbersOf (asEvidence material.evidence)).executedQuantity

/-- The call is well typed, and does not offer a disabled deployment an entry that reopens it. -/
def KeepsFlat (stores : PilotStores) (call : RepositoryCall) : Prop :=
  call.Typed ∧ ∀ input, Offers call input →
    ∀ deployment, stores.repo.deployment input.deploymentId = some deployment →
      deployment.phase = .disabled → ∀ state material,
        ¬ Reopens sha256Hex stores.repo input state material

/-- What is stored for a deployment: its state is the projection of its records, all of them
fills. -/
structure Projected (repo : PilotRepository) (id : String) (state : ExactCandidateState) : Prop where
  replay : projectExactCandidateState
    ((repo.records id).map fun item => asEvidence item.evidence) = .ok state
  version : state.stateVersion = (repo.records id).length
  valid : ∀ item ∈ repo.records id, EvidenceValid (numbersOf (asEvidence item.evidence))

def AllProjected (repo : PilotRepository) : Prop :=
  ∀ id state, repo.exactStates id = some state → Projected repo id state

variable {sha256Hex} {offers : AdvanceCandidatePilotStateInput → Prop}
  {repo repo' : PilotRepository}

theorem records_update (id id' : String) (records : List StoredEvidence) :
    (Function.update repo.evidence id (some records) id').getD [] =
      if id = id' then records else repo.records id' := by
  by_cases h : id = id'
  · subst h
    simp
  · rw [Function.update_of_ne (Ne.symm h), if_neg h]
    rfl

theorem exactStates_update {id id' : String} {state stored : ExactCandidateState}
    (h : Function.update repo.exactStates id (some state) id' = some stored) :
    (id = id' ∧ stored = state) ∨ (id ≠ id' ∧ repo.exactStates id' = some stored) := by
  by_cases hid : id = id'
  · subst hid
    rw [Function.update_self] at h
    exact Or.inl ⟨rfl, (Option.some.inj h).symm⟩
  · rw [Function.update_of_ne (Ne.symm hid)] at h
    exact Or.inr ⟨hid, h⟩

theorem allProjected_of_effect (h : StateEffect sha256Hex offers repo repo')
    (hall : AllProjected repo) : AllProjected repo' := by
  intro id state hstate
  cases h with
  | kept hstates hevidence hids =>
    rw [hstates] at hstate
    have hrecords : repo'.records id = repo.records id := by
      unfold PilotRepository.records
      rw [hevidence]
    obtain ⟨hreplay, hversion, hvalid⟩ := hall id state hstate
    rw [← hrecords] at hreplay hversion hvalid
    exact ⟨hreplay, hversion, hvalid⟩
  | created deployment hnew =>
    have hrecords : (repo.insertDeploymentWithInitialState deployment).records id =
        if deployment.id = id then [] else repo.records id := records_update deployment.id id []
    rcases exactStates_update hstate with ⟨hid, hempty⟩ | ⟨hid, hold⟩
    · rw [if_pos hid] at hrecords
      rw [hempty]
      refine ⟨?_, ?_, ?_⟩
      · rw [hrecords]
        rfl
      · rw [hrecords]
        rfl
      · rw [hrecords]
        intro item hmem
        cases hmem
    · rw [if_neg hid] at hrecords
      obtain ⟨hreplay, hversion, hvalid⟩ := hall id state hold
      rw [← hrecords] at hreplay hversion hvalid
      exact ⟨hreplay, hversion, hvalid⟩
  | @advanced input phase records current next material hoffers hresolve =>
    obtain ⟨hcurrent, hmaterial, hrecords, -, hproject, hversion⟩ :=
      resolve_advanced hresolve
    have hstored : (repo.storeAdvance input.deploymentId phase records current next
        material).records id = if input.deploymentId = id then records else repo.records id :=
      records_update input.deploymentId id records
    rcases exactStates_update hstate with ⟨hid, hnext⟩ | ⟨hid, hold⟩
    · rw [if_pos hid] at hstored
      rw [hnext]
      refine ⟨?_, ?_, ?_⟩
      · rw [hstored]
        exact hproject
      · rw [hstored, hversion, hrecords, List.length_append, List.length_singleton,
          (hall _ _ hcurrent).version]
      · rw [hstored, hrecords]
        intro item hmem
        rcases List.mem_append.mp hmem with hmem | hmem
        · exact (hall _ _ hcurrent).valid item hmem
        · rw [List.mem_singleton.mp hmem]
          exact (material_eq_ok hmaterial).2
    · rw [if_neg hid] at hstored
      obtain ⟨hreplay, hversion, hvalid⟩ := hall id state hold
      rw [← hstored] at hreplay hversion hvalid
      exact ⟨hreplay, hversion, hvalid⟩

variable {input : AdvanceCandidatePilotStateInput} {phase : PositionGuardPilotPhase}
  {records : List StoredEvidence} {material : EvidenceMaterial}

/-- A call that stores evidence expects the stored version. -/
theorem version_of_advanced
    (h : resolveEvidence sha256Hex repo input = .ok (.advanced phase records state next material)) :
    (state.stateVersion : ℤ) = input.expectedStateVersion ∧
      input.expectedStateVersion ≤ maxSafeInteger := by
  unfold resolveEvidence at h
  rw [then_eq_ok, throwIf_eq_ok, not_or, not_lt, not_lt] at h
  obtain ⟨⟨-, hsafe⟩, h⟩ := h
  refine ⟨?_, hsafe⟩
  split at h
  · rw [bind_eq_ok] at h
    obtain ⟨found, -, h⟩ := h
    unfold resolveMaterial at h
    split at h
    · simp [resolveDuplicate, then_eq_ok] at h
    · unfold resolveNewEvidence at h
      rw [then_eq_ok, throwIf_eq_ok, ne_eq, not_not, bind_eq_ok] at h
      obtain ⟨hversion, projected, -, h⟩ := h
      rw [then_eq_ok] at h
      have heq := Except.ok.inj h.2
      injection heq with _ _ hstate
      rw [← hstate]
      exact hversion
  · cases h

/-- **Evidence that does not reopen a flat inventory leaves it flat.** -/
theorem flat_of_advanced (hall : AllProjected repo)
    (h : resolveEvidence sha256Hex repo input = .ok (.advanced phase records state next material))
    (hflat : state.currentEpisodeInventoryQuantity = "0")
    (hkeeps : ¬ Reopens sha256Hex repo input state material) :
    next.currentEpisodeInventoryQuantity = "0" := by
  obtain ⟨hstored, hvalid, hrecords, hfresh, hproject, hversion⟩ := resolve_advanced h
  obtain ⟨hexpected, hsafe⟩ := version_of_advanced h
  obtain ⟨hreplay, hcount, hitems⟩ := hall _ _ hstored
  rw [hrecords, List.map_append, List.map_singleton] at hproject
  have hcount' : state.stateVersion =
      ((repo.records input.deploymentId).map fun item => asEvidence item.evidence).length := by
    rw [hcount, List.length_map]
  have hvalidItems : ∀ other ∈ (repo.records input.deploymentId).map
      fun item => asEvidence item.evidence, EvidenceValid (numbersOf other) := by
    intro other hmem
    obtain ⟨item, hitem, rfl⟩ := List.mem_map.mp hmem
    exact hitems item hitem
  rcases flat_or_entry hvalidItems hreplay hcount' hflat hproject (by rw [hversion, hcount']) with
    hnext | ⟨hfill, hafter, hentry, hremaining⟩
  · exact hnext
  · exact absurd ⟨hstored, hexpected, hsafe, hvalid, hfresh, hfill, hafter, hentry, hremaining⟩ hkeeps

/-! ### Disabled deployments -/

/-- The exact state of a deployment has zero inventory. -/
def ZeroInventory (repo : PilotRepository) (id : String) : Prop :=
  ∃ state, repo.exactStates id = some state ∧ state.currentEpisodeInventoryQuantity = "0"

/-- Every disabled deployment has zero inventory. -/
def AllDisabledFlat (repo : PilotRepository) : Prop :=
  ∀ id deployment, repo.deployment id = some deployment → deployment.phase = .disabled →
    ZeroInventory repo id

variable {id : String}

theorem zeroInventory_of_flatState (h : FlatState repo id) : ZeroInventory repo id := by
  obtain ⟨state, hstate, hflat⟩ := h
  unfold isExactCandidateStateRollbackFlat at hflat
  exact ⟨state, hstate, (of_decide_eq_true hflat).2.2.1⟩

/-- The inventory of a deployment stays zero under every call that does not reopen it. -/
theorem zeroInventory_of_effect (h : StateEffect sha256Hex offers repo repo')
    (hall : AllProjected repo) (hexists : repo.deployment id ≠ none)
    (hkeeps : ∀ input, offers input → input.deploymentId = id → ∀ state material,
      ¬ Reopens sha256Hex repo input state material) (hzero : ZeroInventory repo id) :
    ZeroInventory repo' id := by
  obtain ⟨state, hstate, hflat⟩ := hzero
  cases h with
  | kept hstates hevidence hids => exact ⟨state, by rw [hstates, hstate], hflat⟩
  | created deployment hnew =>
    have hne : id ≠ deployment.id := by
      rintro rfl
      exact hexists hnew
    exact ⟨state, (Function.update_of_ne hne _ _).trans hstate, hflat⟩
  | @advanced input phase records current next material hoffers hresolve =>
    by_cases hid : id = input.deploymentId
    · subst hid
      have hcurrent : repo.exactStates input.deploymentId = some current :=
        (resolve_advanced hresolve).1
      rw [hstate] at hcurrent
      rw [Option.some.inj hcurrent] at hflat
      exact ⟨next, Function.update_self _ _ _,
        flat_of_advanced hall hresolve hflat (hkeeps input hoffers rfl current material)⟩
    · exact ⟨state, (Function.update_of_ne hid _ _).trans hstate, hflat⟩

theorem zeroInventory_of_new (h : StateEffect sha256Hex offers repo repo')
    {deployment : PositionGuardPilotDeploymentRecord} (hnew : repo.deployment id = none)
    (hdeployment : repo'.deployment id = some deployment) : ZeroInventory repo' id := by
  cases h with
  | kept hstates hevidence hids =>
    rw [hids id hnew] at hdeployment
    cases hdeployment
  | created created hfresh =>
    rw [deployment_insert] at hdeployment
    split_ifs at hdeployment with hid
    · subst hid
      exact ⟨_, Function.update_self _ _ _, rfl⟩
    · rw [hnew] at hdeployment
      cases hdeployment
  | @advanced input phase records current next material hoffers hresolve =>
    have hsame : repo.deployment id = some deployment := hdeployment
    rw [hnew] at hsame
    cases hsame

variable {localeLe : String → String → Bool} {parseKind : String → Option JsonKind}
  {parseProvenance : String → Except String CandidateIntentFaultProvenance} {hasStore : Bool}

theorem deployment_of_offers (h : Offers call input) (id : String) :
    (runRepositoryCall localeLe sha256Hex parseKind parseProvenance hasStore stores
      call).repo.deployment id = stores.repo.deployment id := by
  rw [h]
  unfold runRepositoryCall
  dsimp only
  split_ifs
  · rfl
  · show (advanceStateWithEvidence sha256Hex stores.repo input).2.deployment id = _
    unfold advanceStateWithEvidence
    split <;> rfl

/-- **A step that keeps disabled deployments flat.** -/
theorem disabledFlat_step (hall : AllProjected stores.repo) (hflat : AllDisabledFlat stores.repo)
    (hkeeps : KeepsFlat sha256Hex stores call) :
    AllDisabledFlat (runRepositoryCall localeLe sha256Hex parseKind parseProvenance hasStore stores
      call).repo := by
  intro id after hafter hdisabled
  have hstates := stateEffect_runRepositoryCall sha256Hex localeLe parseKind
    parseProvenance hasStore stores call
  cases hbefore : stores.repo.deployment id with
  | none => exact zeroInventory_of_new hstates hbefore hafter
  | some before =>
    obtain ⟨after', hafter', hmove⟩ :=
      deploymentMove_of_effect (effect_runRepositoryCall stores hkeeps.1) hbefore
    have hexists : stores.repo.deployment id ≠ none := by
      rw [hbefore]
      simp
    rw [hafter'] at hafter
    rw [← Option.some.inj hafter] at hdisabled
    by_cases hphase : before.phase = .disabled
    · refine zeroInventory_of_effect hstates hall hexists ?_ (hflat id before hbefore hphase)
      rintro input hoffers rfl
      exact hkeeps.2 input hoffers before hbefore hphase
    · -- the call disables the deployment, so it is flat and the call offers no evidence
      have hzero : ZeroInventory stores.repo id := by
        have hphases := hmove.phase
        rw [hdisabled] at hphases
        generalize before.phase = phase at hphase hphases
        cases hphases with
        | stay => exact absurd rfl hphase
        | disable _ hstate => exact zeroInventory_of_flatState hstate
      refine zeroInventory_of_effect hstates hall hexists ?_ hzero
      intro input hoffers
      rw [deployment_of_offers hoffers, hbefore] at hafter'
      rw [← Option.some.inj hafter'] at hdisabled
      exact absurd hdisabled hphase

/-- **A disabled deployment stays disabled and flat**, along every run whose calls do not offer it an
entry that reopens it. -/
theorem disabled_stays_flat
    (operator : AutoTrade.Operator.InMemoryStore.InMemoryOperatorStateStore)
    {calls later : List RepositoryCall}
    (h : SafeRun (runRepositoryCall localeLe sha256Hex parseKind parseProvenance hasStore)
      (KeepsFlat sha256Hex) ⟨.empty, operator⟩ (calls ++ later)) {id : String}
    {deployment : PositionGuardPilotDeploymentRecord}
    (hdeployment : (runCalls localeLe sha256Hex parseKind parseProvenance hasStore operator
      calls).repo.deployment id = some deployment)
    (hdisabled : deployment.phase = .disabled) :
    ∃ after, (runCalls localeLe sha256Hex parseKind parseProvenance hasStore operator
        (calls ++ later)).repo.deployment id = some after ∧ after.phase = .disabled ∧
      ZeroInventory (runCalls localeLe sha256Hex parseKind parseProvenance hasStore operator
        (calls ++ later)).repo id := by
  have htyped : ∀ call ∈ later, call.Typed := by
    intro call hmem
    exact h.forall_mem (fun _ _ hkeeps => hkeeps.1) call (List.mem_append_right _ hmem)
  obtain ⟨after, hafter, hlater⟩ := laterDeployment_runCalls operator htyped hdeployment
  have hphase : after.phase = .disabled :=
    (hlater.final (Or.inr hdisabled)).trans hdisabled
  have hinvariant := SafeRun.invariant
    (fun stores : PilotStores => AllProjected stores.repo ∧ AllDisabledFlat stores.repo)
    (fun stores call hstores hkeeps => ⟨allProjected_of_effect (stateEffect_runRepositoryCall
      sha256Hex localeLe parseKind parseProvenance hasStore stores call) hstores.1,
      disabledFlat_step hstores.1 hstores.2 hkeeps⟩)
    ⟨fun _ _ hstate => (by cases hstate), fun _ _ hempty => (by cases hempty)⟩ h
  exact ⟨after, hafter, hphase, hinvariant.2 id after hafter hphase⟩

end Runs

/-! ### Sample runs -/

/-- A fill of one unit, executed before `sampleRollback`. -/
def lateFill (action : ExecutedAction) : AdvanceCandidatePilotStateInput where
  deploymentId := "deployment"
  expectedStateVersion := 0
  evidence := pullback "late" "2026-01-01T00:02:00.000Z" action "1" "100" "0" "1"

theorem keepsFlat_of_no_evidence (htyped : call.Typed) (h : ∀ input, ¬ Offers call input) :
    KeepsFlat (fun _ => "") stores call :=
  ⟨htyped, fun input hoffers => absurd hoffers (h input)⟩

/-- After the rollback the deployment is offered an `ADD`, which it refuses. -/
theorem disabled_stays_flat_add :
    ZeroInventory (sampleRun (sampleCalls ++ [.pilot sampleRollback] ++
      [.pilot (.advanceStateWithEvidence (lateFill .add))])).repo "deployment" := by
  have hphase : ((sampleRun (sampleCalls ++ [.pilot sampleRollback])).repo.deployment
      "deployment").map (·.phase) = some .disabled := by decide +kernel
  obtain ⟨deployment, hdeployment, hdisabled⟩ := Option.map_eq_some_iff.mp hphase
  have hadd : (candidateEvidenceMaterial (fun _ => "") "deployment" (lateFill .add).evidence).map
      (fun material => material.evidence.action) = .ok .add := by decide +kernel
  have hrefused (stores : PilotStores) : KeepsFlat (fun _ => "") stores
      (.pilot (.advanceStateWithEvidence (lateFill .add))) := by
    refine ⟨trivial, ?_⟩
    rintro input hoffers - - - state material hreopens
    injection hoffers with hcall
    injection hcall with hinput
    have hvalid := hreopens.valid
    rw [← hinput] at hvalid
    obtain ⟨other, hother, haction⟩ := map_eq_ok hadd
    have hvalid' : candidateEvidenceMaterial (fun _ => "") "deployment"
        (lateFill .add).evidence = .ok material := hvalid
    rw [hother] at hvalid'
    rw [Except.ok.inj hvalid', hreopens.entry] at haction
    cases haction
  have hsafe : SafeRun (runRepositoryCall (fun _ _ => true) (fun _ => "") parseEmptyObject
      (fun _ => .error "no provenance") true) (KeepsFlat fun _ => "") ⟨.empty, sampleStores.operator⟩
      (sampleCalls ++ [.pilot sampleRollback] ++
        [.pilot (.advanceStateWithEvidence (lateFill .add))]) := by
    refine ⟨?_, ?_, ?_, hrefused _, trivial⟩
    · exact keepsFlat_of_no_evidence trivial fun input hoffers => by cases hoffers
    · exact keepsFlat_of_no_evidence rfl fun input hoffers => by cases hoffers
    · exact keepsFlat_of_no_evidence trivial fun input hoffers => by cases hoffers
  obtain ⟨-, -, -, hzero⟩ :=
    disabled_stays_flat sampleStores.operator hsafe hdeployment hdisabled
  exact hzero

/-- **A late fill reopens a disabled deployment**: its order was executed before the rollback, its
evidence arrives after it. -/
theorem late_fill_reopens :
    let disabled := sampleRun (sampleCalls ++ [.pilot sampleRollback])
    let later := sampleRun (sampleCalls ++ [.pilot sampleRollback] ++
      [.pilot (.advanceStateWithEvidence (lateFill .enter))])
    (disabled.repo.deployment "deployment").map (·.phase) = some .disabled ∧
      (disabled.repo.exactStates "deployment").map (·.currentEpisodeInventoryQuantity) = some "0" ∧
      (later.repo.deployment "deployment").map (·.phase) = some .disabled ∧
      (later.repo.exactStates "deployment").map (·.currentEpisodeInventoryQuantity) = some "1" ∧
      ¬ ZeroInventory later.repo "deployment" := by
  intro disabled later
  have hopen : (later.repo.exactStates "deployment").map (·.currentEpisodeInventoryQuantity) =
      some "1" := by decide +kernel
  refine ⟨by decide +kernel, by decide +kernel, by decide +kernel, hopen, ?_⟩
  rintro ⟨state, hstate, hzero⟩
  rw [hstate, Option.map_some, hzero] at hopen
  revert hopen
  decide

end AutoTrade.Pilot.DisabledFlat
