import AutoTrade.Strategy.CandidateState
import Mathlib.Tactic.Linarith
import Mathlib.Tactic.Positivity

/-! # What the routing ledger accepts

The checks of the routing ledger as propositions: which states are valid (`Valid`), which records are
(`EvidenceValid`), and when a record advances a valid state (`advance_eq_ok`). After a sell the next
state is always valid; after a buy it is unless the inventory is within the tolerance. -/

namespace AutoTrade.Strategy.CandidateLedger

open Lib.Text Lib.Result Domain.Timestamp
open Strategy.CandidateState

variable {state : PositionGuardCandidateState} {evidence : NormalizedEvidence}

theorem quantityTolerance_pos : 0 < quantityTolerance := by unfold quantityTolerance; positivity

/-! ### Valid states -/

/-- The cursor of a state: absent from an empty state, and otherwise not before the last full
exit. -/
structure CursorValid (state : PositionGuardCandidateState) : Prop where
  both : state.lastEvidenceAt.isSome = state.lastEvidenceId.isSome
  id : state.lastEvidenceId.any isBlank = false
  pristine : state.lastEvidenceAt = none → isPristineCandidateState state = true
  parses : ∀ at' ∈ state.lastEvidenceAt, IsCandidateTimestamp at' ∧ state.stateVersion ≠ 0
  exit : ∀ at' ∈ state.lastEvidenceAt, ∀ exitAt ∈ state.lastFullExitAt,
    instant exitAt ≤ instant at'

/-- The episode of a state: nothing is left of it, or it is open. -/
def EpisodeValid (state : PositionGuardCandidateState) : Prop :=
  (state.currentEpisodeInventoryQuantity = 0 ∧ state.currentEpisodeCostBasisKrw = 0 ∧
      state.currentEpisodeAddCount = 0 ∧ state.currentEpisodeRealizedPnlKrw = 0 ∧
      (state.lastEvidenceAt ≠ none → state.lastFullExitAt ≠ none)) ∨
    (quantityTolerance < state.currentEpisodeInventoryQuantity ∧
      0 < state.currentEpisodeCostBasisKrw ∧ state.lastEntryPath ≠ none)

/-- A state that `validateStateSnapshot` accepts. -/
structure Valid (state : PositionGuardCandidateState) : Prop where
  version_safe : state.stateVersion ≤ maxSafeInteger
  exit_parses : ∀ exitAt ∈ state.lastFullExitAt, IsCandidateTimestamp exitAt
  exit_both : state.lastFullExitAt.isNone = state.lastFullExitRealizedPnlKrw.isNone
  exit_path : state.lastFullExitAt ≠ none → state.lastEntryPath ≠ none
  cursor : CursorValid state
  episode : EpisodeValid state
  version_min : minimumReachableStateVersion state ≤ state.stateVersion

theorem parseOptional_eq_ok {value : Option String} {label : String} :
    parseOptional value label = .ok () ↔ ∀ text ∈ value, IsCandidateTimestamp text := by
  rcases value with _ | text
  · simp [parseOptional]
  · simp [parseOptional, parse_bind]

theorem validateExitBeforeCursor_eq_ok {evidenceAt : String} (h : IsCandidateTimestamp evidenceAt) :
    validateExitBeforeCursor state evidenceAt = .ok () ↔
      ∀ exitAt ∈ state.lastFullExitAt, IsCandidateTimestamp exitAt ∧
        instant exitAt ≤ instant evidenceAt := by
  unfold validateExitBeforeCursor
  rcases state.lastFullExitAt with _ | exitAt
  · simp
  · simp [parse_bind, h]

theorem validateCursor_eq_ok (h : ∀ exitAt ∈ state.lastFullExitAt, IsCandidateTimestamp exitAt) :
    validateCursor state = .ok () ↔ CursorValid state := by
  unfold validateCursor
  simp only [then_eq_ok, throwIf_eq_ok, Bool.not_eq_true, ne_eq, not_not]
  cases hat : state.lastEvidenceAt with
  | none =>
    simp only [throwIf_eq_ok, Bool.not_eq_false]
    constructor
    · rintro ⟨hid, hboth, hpristine⟩
      exact ⟨by rw [hat, hboth], hid, fun _ => hpristine, by simp [hat], by simp [hat]⟩
    · intro hc
      exact ⟨hc.id, by rw [← hat, hc.both], hc.pristine hat⟩
  | some evidenceAt =>
    simp only [then_eq_ok, parse_bind, throwIf_eq_ok]
    constructor
    · rintro ⟨hid, hboth, hparse, hversion, hexit⟩
      rw [validateExitBeforeCursor_eq_ok hparse] at hexit
      refine ⟨by rw [hat, hboth], hid, by simp [hat], ?_, ?_⟩
      · simpa [hat] using ⟨hparse, hversion⟩
      · simpa [hat] using fun exitAt he => (hexit exitAt he).2
    · intro hc
      obtain ⟨hparse, hversion⟩ := hc.parses evidenceAt (by simp [hat])
      refine ⟨hc.id, by rw [← hat, hc.both], hparse, hversion, ?_⟩
      rw [validateExitBeforeCursor_eq_ok hparse]
      exact fun exitAt he => ⟨h exitAt he, hc.exit evidenceAt (by simp [hat]) exitAt he⟩

theorem validateEpisode_eq_ok : validateEpisode state = .ok () ↔ EpisodeValid state := by
  have htol := quantityTolerance_pos
  unfold validateEpisode EpisodeValid
  split_ifs with hle
  · simp only [then_eq_ok, throwIf_eq_ok]
    constructor
    · rintro ⟨hq, hrest, hexit⟩
      push Not at hq hrest hexit
      exact Or.inl ⟨hq, hrest.1, hrest.2.1, hrest.2.2, hexit⟩
    · rintro (⟨hq, hc, ha, hp, hexit⟩ | ⟨hlt, -, -⟩)
      · exact ⟨by simp [hq], by simp [hc, ha, hp], by push Not; exact hexit⟩
      · exact absurd hle (not_le.mpr hlt)
  · rw [throwIf_eq_ok]
    push Not at hle ⊢
    constructor
    · exact fun h => Or.inr ⟨hle, h.1, h.2⟩
    · rintro (⟨hq, -⟩ | ⟨-, h⟩)
      · rw [hq] at hle
        exact absurd htol hle.asymm
      · exact h

theorem EpisodeValid.nonneg (h : EpisodeValid state) :
    0 ≤ state.currentEpisodeInventoryQuantity ∧ 0 ≤ state.currentEpisodeCostBasisKrw := by
  have htol := quantityTolerance_pos
  rcases h with ⟨hq, hc, -⟩ | ⟨hq, hc, -⟩
  · exact ⟨hq.ge, hc.ge⟩
  · exact ⟨(htol.trans hq).le, hc.le⟩

theorem validateStateSnapshot_eq_ok : validateStateSnapshot state = .ok () ↔ Valid state := by
  unfold validateStateSnapshot validateFullExitMetadata
  simp only [then_eq_ok, throwIf_eq_ok, parseOptional_eq_ok, validateEpisode_eq_ok, not_lt,
    not_and, not_not, ne_eq]
  constructor
  · rintro ⟨-, -, hsafe, ⟨hparse, hboth⟩, hpath, hcursor, hepisode, hmin⟩
    rw [validateCursor_eq_ok hparse] at hcursor
    exact ⟨hsafe, hparse, hboth, hpath, hcursor, hepisode, hmin⟩
  · intro h
    refine ⟨h.episode.nonneg.1, h.episode.nonneg.2, h.version_safe, ⟨h.exit_parses, h.exit_both⟩,
      h.exit_path, ?_, h.episode, h.version_min⟩
    exact (validateCursor_eq_ok h.exit_parses).mpr h.cursor

theorem valid_empty : Valid createEmptyPositionGuardCandidateState := by
  rw [← validateStateSnapshot_eq_ok]
  decide +kernel

/-! ### Valid evidence -/

/-- A record that `validateExecutionEvidence` accepts. -/
structure EvidenceValid (evidence : NormalizedEvidence) : Prop where
  id : isBlank evidence.evidenceId = false
  parses : IsCandidateTimestamp evidence.executedAt
  executed : 0 ≤ evidence.executedQuantity
  gross : 0 ≤ evidence.grossQuoteValueKrw
  fee : 0 ≤ evidence.confirmedFeeKrw
  remaining : 0 ≤ evidence.remainingQuantity
  noFill : evidence.executedQuantity = 0 → evidence.terminalStatus = .canceled ∧
    evidence.grossQuoteValueKrw = 0 ∧ evidence.confirmedFeeKrw = 0
  fill : evidence.executedQuantity ≠ 0 → 0 < evidence.grossQuoteValueKrw

theorem validateAmounts_eq_ok : validateAmounts evidence = .ok () ↔
    0 ≤ evidence.executedQuantity ∧ 0 ≤ evidence.grossQuoteValueKrw ∧
      0 ≤ evidence.confirmedFeeKrw ∧ 0 ≤ evidence.remainingQuantity ∧
      (evidence.executedQuantity = 0 → evidence.terminalStatus = .canceled ∧
        evidence.grossQuoteValueKrw = 0 ∧ evidence.confirmedFeeKrw = 0) ∧
      (evidence.executedQuantity ≠ 0 → 0 < evidence.grossQuoteValueKrw) := by
  unfold validateAmounts requireNonNegative
  simp only [then_eq_ok, throwIf_eq_ok, not_lt]
  by_cases h0 : evidence.executedQuantity = 0
  · simp [h0, then_eq_ok]
  · simp [h0]

theorem validateExecutionEvidence_eq_ok :
    validateExecutionEvidence evidence = .ok () ↔ EvidenceValid evidence := by
  unfold validateExecutionEvidence
  simp only [then_eq_ok, parse_bind, throwIf_eq_ok, validateAmounts_eq_ok,
    Bool.not_eq_true]
  constructor
  · rintro ⟨hid, hparses, hx, hg, hf, hr, hnoFill, hfill⟩
    exact ⟨hid, hparses, hx, hg, hf, hr, hnoFill, hfill⟩
  · intro h
    exact ⟨h.id, h.parses, h.executed, h.gross, h.fee, h.remaining, h.noFill, h.fill⟩

/-! ### Advance -/

/-- The record is ordered after the cursor of the state. -/
def AfterCursor (state : PositionGuardCandidateState) (evidence : NormalizedEvidence) : Prop :=
  ∀ cursorAt ∈ state.lastEvidenceAt, instant cursorAt < instant evidence.executedAt ∨
    (instant cursorAt = instant evidence.executedAt ∧
      before (state.lastEvidenceId.getD "") evidence.evidenceId = true)

/-- What a fill asks of the inventory before it. -/
def LifecycleOk (state : PositionGuardCandidateState) (evidence : NormalizedEvidence) : Prop :=
  match evidence.action with
  | .enter => state.currentEpisodeInventoryQuantity = 0
  | .add => quantityTolerance < state.currentEpisodeInventoryQuantity
  | .reduce | .exit => quantityTolerance < state.currentEpisodeInventoryQuantity ∧
    evidence.executedQuantity ≤ state.currentEpisodeInventoryQuantity + quantityTolerance

/-- The state after a fill. -/
def afterFill (state : PositionGuardCandidateState) (evidence : NormalizedEvidence) :
    PositionGuardCandidateState :=
  moveCursor (applyEvidence state evidence).1 evidence

theorem assertEvidenceAfterStateCursor_eq_ok (hs : CursorValid state)
    (he : IsCandidateTimestamp evidence.executedAt) :
    assertEvidenceAfterStateCursor state evidence = .ok () ↔ AfterCursor state evidence := by
  unfold assertEvidenceAfterStateCursor AfterCursor
  cases hat : state.lastEvidenceAt with
  | none => simp
  | some cursorAt =>
    have hparse := (hs.parses cursorAt (by simp [hat])).1
    simp only [parse_bind, hparse, he, true_and, throwIf_eq_ok, Option.mem_some_iff,
      forall_eq']
    push Not
    constructor
    · rintro ⟨hle, hid⟩
      rcases hle.lt_or_eq with hlt | heq
      · exact Or.inl hlt
      · exact Or.inr ⟨heq, hid heq.symm⟩
    · rintro (hlt | ⟨heq, hid⟩)
      · exact ⟨hlt.le, fun h => absurd h.symm hlt.ne⟩
      · exact ⟨heq.le, fun _ => hid⟩

theorem assertNonZeroFillLifecycle_eq_ok :
    assertNonZeroFillLifecycle state evidence = .ok () ↔ LifecycleOk state evidence := by
  unfold assertNonZeroFillLifecycle LifecycleOk
  cases evidence.action <;> simp [then_eq_ok]

theorem assertResidualMatches_eq_ok {expected actual : ℚ} {id : String} :
    assertResidualMatches expected actual id = .ok () ↔ |expected - actual| ≤ quantityTolerance := by
  simp [assertResidualMatches]

variable {next : PositionGuardCandidateState}

theorem advance_noFill_eq_ok (hs : Valid state) (he : EvidenceValid evidence)
    (h0 : evidence.executedQuantity = 0) :
    advanceValidatedPositionGuardCandidateState state evidence = .ok next ↔
      AfterCursor state evidence ∧
        |state.currentEpisodeInventoryQuantity - evidence.remainingQuantity| ≤ quantityTolerance ∧
        next = state := by
  unfold advanceValidatedPositionGuardCandidateState
  simp only [then_eq_ok, if_pos h0, assertResidualMatches_eq_ok,
    assertEvidenceAfterStateCursor_eq_ok hs.cursor he.parses, Except.ok.injEq]
  rw [eq_comm (a := state)]

theorem advance_fill_eq_ok (hs : Valid state) (he : EvidenceValid evidence)
    (h0 : evidence.executedQuantity ≠ 0) :
    advanceValidatedPositionGuardCandidateState state evidence = .ok next ↔
      AfterCursor state evidence ∧ LifecycleOk state evidence ∧
        |(applyEvidence state evidence).2 - evidence.remainingQuantity| ≤ quantityTolerance ∧
        Valid (afterFill state evidence) ∧ next = afterFill state evidence := by
  unfold advanceValidatedPositionGuardCandidateState
  simp only [then_eq_ok, if_neg h0, assertResidualMatches_eq_ok,
    assertEvidenceAfterStateCursor_eq_ok hs.cursor he.parses, assertNonZeroFillLifecycle_eq_ok,
    validateStateSnapshot_eq_ok, Except.ok.injEq, afterFill]
  rw [eq_comm (b := next)]

/-! ### The state after a fill -/

theorem afterFill_buy (h : isBuyAction evidence.action = true) :
    afterFill state evidence = moveCursor (applyBuyEvidence state evidence) evidence := by
  simp [afterFill, applyEvidence, h]

theorem afterFill_sell (h : isBuyAction evidence.action = false) :
    afterFill state evidence = moveCursor (applySellEvidence state evidence) evidence := by
  simp [afterFill, applyEvidence, h]

/-- The cursor after a fill is valid: the last full exit is the fill itself, or was not after the
cursor before. -/
theorem cursorValid_moveCursor (hs : CursorValid state) (he : EvidenceValid evidence)
    (hafter : AfterCursor state evidence) {applied : PositionGuardCandidateState}
    (hexit : applied.lastFullExitAt = some evidence.executedAt ∨
      applied.lastFullExitAt = state.lastFullExitAt) : CursorValid (moveCursor applied evidence) := by
  refine ⟨rfl, by simp [moveCursor, he.id], by simp [moveCursor], ?_, ?_⟩
  · simp [moveCursor, he.parses]
  · intro at' hat exitAt hexitAt
    simp only [moveCursor, Option.mem_some_iff] at hat hexitAt
    subst hat
    rcases hexit with hexit | hexit
    · rw [hexit, Option.mem_some_iff] at hexitAt
      rw [hexitAt]
    · rw [hexit] at hexitAt
      cases hcursor : state.lastEvidenceAt with
      | none =>
        have hpristine := hs.pristine hcursor
        simp only [isPristineCandidateState, decide_eq_true_eq] at hpristine
        rw [hpristine.2.2.2.2.1] at hexitAt
        cases hexitAt
      | some cursorAt =>
        have hle := hs.exit cursorAt (by simp [hcursor]) exitAt hexitAt
        rcases hafter cursorAt (by simp [hcursor]) with hlt | ⟨heq, -⟩
        · exact hle.trans hlt.le
        · exact hle.trans heq.le

/-! ### States of a ledger without a tolerance

A buy may leave an inventory that is positive and within the tolerance, which the validation rejects.
What every ledger state has, such ones included, is `Sound`; a valid state is a sound one whose
inventory is not within the tolerance and whose version is a safe integer. -/

/-- The fewest versions after which a state with this episode is reached. -/
def leastVersion (state : PositionGuardCandidateState) : ℕ :=
  (if state.lastFullExitAt = none then 0 else 2) +
    (if 0 < state.currentEpisodeInventoryQuantity then
      1 + state.currentEpisodeAddCount +
        (if state.currentEpisodeRealizedPnlKrw ≠ 0 then 1 else 0)
    else 0)

structure Sound (state : PositionGuardCandidateState) : Prop where
  exit_parses : ∀ exitAt ∈ state.lastFullExitAt, IsCandidateTimestamp exitAt
  exit_both : state.lastFullExitAt.isNone = state.lastFullExitRealizedPnlKrw.isNone
  exit_path : state.lastFullExitAt ≠ none → state.lastEntryPath ≠ none
  cursor : CursorValid state
  episode : (state.currentEpisodeInventoryQuantity = 0 ∧ state.currentEpisodeCostBasisKrw = 0 ∧
      state.currentEpisodeAddCount = 0 ∧ state.currentEpisodeRealizedPnlKrw = 0 ∧
      (state.lastEvidenceAt ≠ none → state.lastFullExitAt ≠ none)) ∨
    (0 < state.currentEpisodeInventoryQuantity ∧
      0 < state.currentEpisodeCostBasisKrw ∧ state.lastEntryPath ≠ none)
  version_min : leastVersion state ≤ state.stateVersion

/-- The inventory is none or above the tolerance. -/
def Clean (state : PositionGuardCandidateState) : Prop :=
  state.currentEpisodeInventoryQuantity = 0 ∨
    quantityTolerance < state.currentEpisodeInventoryQuantity

theorem minimumReachable_of_clean (h : Clean state) :
    minimumReachableStateVersion state = leastVersion state := by
  unfold minimumReachableStateVersion leastVersion
  rcases h with hzero | hopen
  · have htolerance : ¬ quantityTolerance < state.currentEpisodeInventoryQuantity := by
      rw [hzero]
      exact quantityTolerance_pos.asymm
    have hflat : ¬ 0 < state.currentEpisodeInventoryQuantity := by rw [hzero]; exact lt_irrefl 0
    rw [if_neg htolerance, if_neg hflat]
  · rw [if_pos hopen, if_pos (quantityTolerance_pos.trans hopen)]

theorem Valid.quantity_cases (hs : Valid state) : state.currentEpisodeInventoryQuantity = 0 ∨
    quantityTolerance < state.currentEpisodeInventoryQuantity := by
  rcases hs.episode with ⟨hq, -⟩ | ⟨hq, -⟩
  · exact Or.inl hq
  · exact Or.inr hq

theorem Valid.sound (hs : Valid state) : Sound state := by
  refine ⟨hs.exit_parses, hs.exit_both, hs.exit_path, hs.cursor, ?_, ?_⟩
  · rcases hs.episode with hflat | ⟨hq, hrest⟩
    · exact Or.inl hflat
    · exact Or.inr ⟨quantityTolerance_pos.trans hq, hrest⟩
  · rw [← minimumReachable_of_clean hs.quantity_cases]
    exact hs.version_min

theorem Sound.valid (hs : Sound state) (hclean : Clean state)
    (hversion : state.stateVersion ≤ maxSafeInteger) : Valid state := by
  refine ⟨hversion, hs.exit_parses, hs.exit_both, hs.exit_path, hs.cursor, ?_, ?_⟩
  · rcases hs.episode with hflat | ⟨hpos, hrest⟩
    · exact Or.inl hflat
    · exact Or.inr ⟨hclean.resolve_left hpos.ne', hrest⟩
  · rw [minimumReachable_of_clean hclean]
    exact hs.version_min

theorem sound_empty : Sound createEmptyPositionGuardCandidateState := valid_empty.sound

section

variable (hs : Sound state)
include hs

theorem Sound.flat (hflat : state.currentEpisodeInventoryQuantity = 0) :
    state.currentEpisodeCostBasisKrw = 0 ∧ state.currentEpisodeAddCount = 0 ∧
      state.currentEpisodeRealizedPnlKrw = 0 := by
  rcases hs.episode with ⟨-, hc, ha, hp, -⟩ | ⟨hq, -⟩
  · exact ⟨hc, ha, hp⟩
  · exact absurd hflat hq.ne'

theorem Sound.quantity_nonneg : 0 ≤ state.currentEpisodeInventoryQuantity := by
  rcases hs.episode with ⟨hq, -⟩ | ⟨hq, -⟩
  · exact hq.ge
  · exact hq.le

theorem Sound.cost_nonneg : 0 ≤ state.currentEpisodeCostBasisKrw := by
  rcases hs.episode with ⟨-, hc, -⟩ | ⟨-, hc, -⟩
  · exact hc.ge
  · exact hc.le

theorem Sound.isOpen (hopen : 0 < state.currentEpisodeInventoryQuantity) :
    0 < state.currentEpisodeCostBasisKrw ∧ state.lastEntryPath ≠ none ∧
      (if state.lastFullExitAt = none then 0 else 2) + (1 + state.currentEpisodeAddCount +
        if state.currentEpisodeRealizedPnlKrw ≠ 0 then 1 else 0) ≤ state.stateVersion := by
  have hmin := hs.version_min
  unfold leastVersion at hmin
  rw [if_pos hopen] at hmin
  rcases hs.episode with ⟨hq, -⟩ | ⟨-, hcost, hpath⟩
  · exact absurd hq hopen.ne'
  · exact ⟨hcost, hpath, hmin⟩

theorem sound_afterFill_enter (he : EvidenceValid evidence) (h0 : evidence.executedQuantity ≠ 0)
    (hafter : AfterCursor state evidence) (haction : evidence.action = .enter)
    (hflat : state.currentEpisodeInventoryQuantity = 0) : Sound (afterFill state evidence) := by
  obtain ⟨hcost, hadds, hpnl⟩ := hs.flat hflat
  have hmin := hs.version_min
  have hgross := he.fill h0
  have hfee := he.fee
  have hbuy : 0 < state.currentEpisodeInventoryQuantity + evidence.executedQuantity := by
    rw [hflat, zero_add]
    exact lt_of_le_of_ne he.executed (Ne.symm h0)
  have hnone : ¬ 0 < state.currentEpisodeInventoryQuantity := by rw [hflat]; exact lt_irrefl 0
  unfold leastVersion at hmin
  rw [if_neg hnone] at hmin
  rw [afterFill_buy (by rw [haction]; rfl)]
  refine ⟨hs.exit_parses, hs.exit_both, ?_, cursorValid_moveCursor hs.cursor he hafter (Or.inr rfl),
    Or.inr ⟨hbuy, ?_, ?_⟩, ?_⟩
  · simp [moveCursor, applyBuyEvidence, haction]
  · simp only [moveCursor, applyBuyEvidence, hcost]
    linarith
  · simp [moveCursor, applyBuyEvidence, haction]
  · unfold leastVersion
    rw [if_pos (show 0 < (moveCursor (applyBuyEvidence state evidence)
      evidence).currentEpisodeInventoryQuantity from hbuy)]
    simp only [moveCursor, applyBuyEvidence, hadds, hpnl, haction]
    simp
    omega

theorem sound_afterFill_add (he : EvidenceValid evidence) (h0 : evidence.executedQuantity ≠ 0)
    (hafter : AfterCursor state evidence) (haction : evidence.action = .add)
    (hopen : 0 < state.currentEpisodeInventoryQuantity) : Sound (afterFill state evidence) := by
  obtain ⟨hcost, hpath, hmin⟩ := hs.isOpen hopen
  have hgross := he.fill h0
  have hfee := he.fee
  have hx := he.executed
  have hbuy : 0 < state.currentEpisodeInventoryQuantity + evidence.executedQuantity := by linarith
  rw [afterFill_buy (by rw [haction]; rfl)]
  refine ⟨hs.exit_parses, hs.exit_both, ?_, cursorValid_moveCursor hs.cursor he hafter (Or.inr rfl),
    Or.inr ⟨hbuy, ?_, ?_⟩, ?_⟩
  · simp [moveCursor, applyBuyEvidence, haction, hpath]
  · simp only [moveCursor, applyBuyEvidence]
    linarith
  · simp [moveCursor, applyBuyEvidence, haction, hpath]
  · unfold leastVersion
    rw [if_pos (show 0 < (moveCursor (applyBuyEvidence state evidence)
      evidence).currentEpisodeInventoryQuantity from hbuy)]
    simp only [moveCursor, applyBuyEvidence, haction, if_true]
    omega

theorem sound_afterFill_sell (he : EvidenceValid evidence) (hafter : AfterCursor state evidence)
    (hsell : isBuyAction evidence.action = false)
    (hopen : 0 < state.currentEpisodeInventoryQuantity) : Sound (afterFill state evidence) := by
  obtain ⟨hcost, hpath, hmin⟩ := hs.isOpen hopen
  have htol := quantityTolerance_pos
  rw [afterFill_sell hsell]
  unfold applySellEvidence
  by_cases hclose : closesEpisode state evidence = true
  · rw [if_pos hclose]
    refine ⟨?_, rfl, fun _ => hpath, cursorValid_moveCursor hs.cursor he hafter (Or.inl rfl),
      Or.inl ⟨rfl, rfl, rfl, rfl, ?_⟩, ?_⟩
    · simp [moveCursor, he.parses]
    · simp [moveCursor]
    · simp only [leastVersion, moveCursor, reduceCtorEq, if_false, lt_irrefl]
      omega
  · have hleft : quantityTolerance <
        state.currentEpisodeInventoryQuantity - evidence.executedQuantity := by
      simp only [closesEpisode, decide_eq_true_eq, not_le] at hclose
      exact hclose
    rw [if_neg hclose]
    refine ⟨hs.exit_parses, hs.exit_both, fun _ => hpath,
      cursorValid_moveCursor hs.cursor he hafter (Or.inr rfl),
      Or.inr ⟨htol.trans hleft, ?_, hpath⟩, ?_⟩
    · have hfraction : evidence.executedQuantity / state.currentEpisodeInventoryQuantity < 1 := by
        rw [div_lt_one hopen]
        linarith
      simp only [moveCursor, removedCost, if_neg hclose]
      nlinarith
    · show (if state.lastFullExitAt = none then 0 else 2) +
        (if 0 < state.currentEpisodeInventoryQuantity - evidence.executedQuantity then
          1 + state.currentEpisodeAddCount + (if realizedPnl state evidence ≠ 0 then 1 else 0)
        else 0) ≤ state.stateVersion + 1
      rw [if_pos (htol.trans hleft)]
      -- the realized profit may have become non-zero, which asks for one version more
      have hone : (if realizedPnl state evidence ≠ 0 then 1 else 0) ≤ 1 := by split_ifs <;> simp
      omega

end

/-- What a fill asks of the inventory before it, without a tolerance. -/
def EpisodeFits (state : PositionGuardCandidateState) (evidence : NormalizedEvidence) : Prop :=
  if evidence.action = .enter then state.currentEpisodeInventoryQuantity = 0
  else 0 < state.currentEpisodeInventoryQuantity

theorem sound_afterFill (hs : Sound state) (he : EvidenceValid evidence)
    (h0 : evidence.executedQuantity ≠ 0) (hafter : AfterCursor state evidence)
    (hfits : EpisodeFits state evidence) : Sound (afterFill state evidence) := by
  unfold EpisodeFits at hfits
  cases haction : evidence.action <;> rw [haction] at hfits
  · exact sound_afterFill_enter hs he h0 hafter haction hfits
  · exact sound_afterFill_add hs he h0 hafter haction hfits
  · exact sound_afterFill_sell hs he hafter (by rw [haction]; rfl) hfits
  · exact sound_afterFill_sell hs he hafter (by rw [haction]; rfl) hfits

theorem clean_afterFill_sell (hsell : isBuyAction evidence.action = false) :
    Clean (afterFill state evidence) := by
  rw [afterFill_sell hsell]
  unfold applySellEvidence
  by_cases hclose : closesEpisode state evidence = true
  · rw [if_pos hclose]
    exact Or.inl rfl
  · rw [if_neg hclose]
    simp only [closesEpisode, decide_eq_true_eq, not_le] at hclose
    exact Or.inr hclose

theorem valid_afterFill_sell (hs : Valid state) (he : EvidenceValid evidence)
    (hversion : state.stateVersion < maxSafeInteger) (hafter : AfterCursor state evidence)
    (hsell : isBuyAction evidence.action = false)
    (hopen : quantityTolerance < state.currentEpisodeInventoryQuantity) :
    Valid (afterFill state evidence) := by
  have hsound := sound_afterFill_sell hs.sound he hafter hsell (quantityTolerance_pos.trans hopen)
  refine hsound.valid (clean_afterFill_sell hsell) ?_
  rw [afterFill_sell hsell]
  unfold applySellEvidence
  split_ifs <;> exact Nat.succ_le_of_lt hversion

/-- A fill that passes the lifecycle checks leaves a valid state, unless it is a buy that leaves an
inventory within the tolerance. -/
theorem valid_afterFill (hs : Valid state) (he : EvidenceValid evidence)
    (h0 : evidence.executedQuantity ≠ 0) (hversion : state.stateVersion < maxSafeInteger)
    (hafter : AfterCursor state evidence) (hlife : LifecycleOk state evidence)
    (hbuy : isBuyAction evidence.action = true → quantityTolerance <
      state.currentEpisodeInventoryQuantity + evidence.executedQuantity) :
    Valid (afterFill state evidence) := by
  have htol := quantityTolerance_pos
  have hbought : isBuyAction evidence.action = true → EpisodeFits state evidence →
      Valid (afterFill state evidence) := by
    intro haction hfits
    refine (sound_afterFill hs.sound he h0 hafter hfits).valid ?_ ?_
    · rw [afterFill_buy haction]
      exact Or.inr (hbuy haction)
    · rw [afterFill_buy haction]
      exact Nat.succ_le_of_lt hversion
  unfold LifecycleOk at hlife
  unfold EpisodeFits at hbought
  cases haction : evidence.action <;> rw [haction] at hlife hbought
  · exact hbought rfl hlife
  · exact hbought rfl (htol.trans hlife)
  · exact valid_afterFill_sell hs he hversion hafter (by rw [haction]; rfl) hlife.1
  · exact valid_afterFill_sell hs he hversion hafter (by rw [haction]; rfl) hlife.1

end AutoTrade.Strategy.CandidateLedger
