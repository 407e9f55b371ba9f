import AutoTrade.Lib.Decimal
import AutoTrade.Domain.Timestamp
import AutoTrade.Strategy.Core
import Mathlib.Data.List.Sort

/-! # The routing ledger of the candidate

`position-guard-candidate-state.ts`: the state the candidate policy reads, its validation, and its
advance by terminal execution evidence. Counters are natural numbers and amounts are rationals, so
the checks that a number is finite or a counter is a non-negative integer hold by type; every other
check is here, in the order of the source and with its message. -/

namespace AutoTrade.Strategy.CandidateState

open Lib.Text Lib.Decimal Lib.Result
open Domain.Timestamp Strategy.Core

/-! ### Records -/

/-- `POSITION_GUARD_CANDIDATE_QUANTITY_TOLERANCE`. -/
def quantityTolerance : ℚ := 1 / 10 ^ 12

/-- `Number.MAX_SAFE_INTEGER`. -/
def maxSafeInteger : ℕ := 2 ^ 53 - 1

/-- `PositionGuardCandidateDecimal`: `string | number`. -/
inductive PositionGuardCandidateDecimal
  | text (value : String)
  | number (value : ℚ)
  deriving DecidableEq

inductive TerminalStatus
  | filled
  | canceled
  deriving DecidableEq

structure PositionGuardCandidateState where
  currentEpisodeAddCount : ℕ
  currentEpisodeCostBasisKrw : ℚ
  currentEpisodeInventoryQuantity : ℚ
  currentEpisodeRealizedPnlKrw : ℚ
  lastFullExitAt : Option String
  lastFullExitRealizedPnlKrw : Option ℚ
  lastEntryPath : Option StrategyEntryPath
  lastEvidenceAt : Option String
  lastEvidenceId : Option String
  stateVersion : ℕ
  deriving DecidableEq

/-- Execution evidence, with the type of its amounts: as recorded, or normalized to numbers. -/
structure ExecutionEvidence (Amount : Type) where
  evidenceId : String
  executedAt : String
  action : ExecutedAction
  entryPath : StrategyEntryPath
  terminalStatus : TerminalStatus
  executedQuantity : Amount
  grossQuoteValueKrw : Amount
  confirmedFeeKrw : Amount
  remainingQuantity : Amount
  deriving DecidableEq

/-- `PositionGuardCandidateExecutionEvidence`. -/
abbrev PositionGuardCandidateExecutionEvidence := ExecutionEvidence PositionGuardCandidateDecimal

/-- `NormalizedPositionGuardCandidateExecutionEvidence`. -/
abbrev NormalizedEvidence := ExecutionEvidence ℚ

def createEmptyPositionGuardCandidateState : PositionGuardCandidateState where
  currentEpisodeAddCount := 0
  currentEpisodeCostBasisKrw := 0
  currentEpisodeInventoryQuantity := 0
  currentEpisodeRealizedPnlKrw := 0
  lastFullExitAt := none
  lastFullExitRealizedPnlKrw := none
  lastEntryPath := none
  lastEvidenceAt := none
  lastEvidenceId := none
  stateVersion := 0

def isBuyAction : ExecutedAction → Bool
  | .enter | .add => true
  | .reduce | .exit => false

/-! ### Normalization of evidence -/

def parseCandidateDecimal (value : PositionGuardCandidateDecimal) (label : String) :
    Except String ℚ :=
  match value with
  | .number q =>
    if q < 0 then
      .error ("PositionGuard candidate evidence " ++ label ++ " must be finite and non-negative.")
    else .ok q
  | .text t =>
    if isPlainDecimal t.toList then .ok (decimalValue t.toList)
    else .error ("PositionGuard candidate evidence " ++ label ++
      " must be a non-negative decimal string.")

def normalizeExecutionEvidence (value : PositionGuardCandidateExecutionEvidence) :
    Except String NormalizedEvidence := do
  let executedQuantity ← parseCandidateDecimal value.executedQuantity "executedQuantity"
  let grossQuoteValueKrw ← parseCandidateDecimal value.grossQuoteValueKrw "grossQuoteValueKrw"
  let confirmedFeeKrw ← parseCandidateDecimal value.confirmedFeeKrw "confirmedFeeKrw"
  let remainingQuantity ← parseCandidateDecimal value.remainingQuantity "remainingQuantity"
  .ok { evidenceId := value.evidenceId, executedAt := value.executedAt, action := value.action,
        entryPath := value.entryPath, terminalStatus := value.terminalStatus,
        executedQuantity, grossQuoteValueKrw, confirmedFeeKrw, remainingQuantity }

def requireNonNegative (label : String) (value : ℚ) : Except String Unit :=
  throwIf (value < 0)
    ("PositionGuard candidate evidence " ++ label ++ " must be finite and non-negative.")

/-- The amounts of a record: none is negative, a terminal record without a fill is canceled and has
no value, and a fill has a positive value. -/
def validateAmounts (evidence : NormalizedEvidence) : Except String Unit := do
  requireNonNegative "executedQuantity" evidence.executedQuantity
  requireNonNegative "grossQuoteValueKrw" evidence.grossQuoteValueKrw
  requireNonNegative "confirmedFeeKrw" evidence.confirmedFeeKrw
  requireNonNegative "remainingQuantity" evidence.remainingQuantity
  if evidence.executedQuantity = 0 then do
    throwIf (evidence.terminalStatus ≠ .canceled)
      "Terminal no-fill PositionGuard candidate evidence must be CANCELED."
    throwIf (evidence.grossQuoteValueKrw ≠ 0 ∨ evidence.confirmedFeeKrw ≠ 0)
      "Terminal no-fill PositionGuard candidate evidence must have zero value and fee."
  else
    throwIf (evidence.grossQuoteValueKrw ≤ 0)
      "PositionGuard candidate evidence must have a positive quote value for a non-zero fill."

def validateExecutionEvidence (evidence : NormalizedEvidence) : Except String Unit := do
  throwIf (isBlank evidence.evidenceId)
    "PositionGuard candidate evidenceId must be a non-empty string."
  let _ ← parsePositionGuardCandidateTimestamp evidence.executedAt "evidence executedAt"
  validateAmounts evidence

/-! ### Validation of a state -/

def isPristineCandidateState (state : PositionGuardCandidateState) : Bool :=
  state.currentEpisodeAddCount = 0 ∧ state.currentEpisodeCostBasisKrw = 0 ∧
    state.currentEpisodeInventoryQuantity = 0 ∧ state.currentEpisodeRealizedPnlKrw = 0 ∧
    state.lastFullExitAt = none ∧ state.lastFullExitRealizedPnlKrw = none ∧
    state.lastEntryPath = none ∧ state.stateVersion = 0

/-- A timestamp field, if it is set. -/
def parseOptional (value : Option String) (label : String) : Except String Unit :=
  match value with
  | none => .ok ()
  | some text => do
    let _ ← parsePositionGuardCandidateTimestamp text label
    .ok ()

def validateFullExitMetadata (state : PositionGuardCandidateState) : Except String Unit := do
  parseOptional state.lastFullExitAt "state lastFullExitAt"
  throwIf (state.lastFullExitAt.isNone ≠ state.lastFullExitRealizedPnlKrw.isNone)
    "PositionGuard candidate state full-exit metadata must be either both null or both non-null."

/-- The full exit of the state is not after its chronology cursor `evidenceAt`. -/
def validateExitBeforeCursor (state : PositionGuardCandidateState) (evidenceAt : String) :
    Except String Unit :=
  match state.lastFullExitAt with
  | none => .ok ()
  | some exitAt => do
    let exit ← parsePositionGuardCandidateTimestamp exitAt "state lastFullExitAt"
    let cursor ← parsePositionGuardCandidateTimestamp evidenceAt "state lastEvidenceAt"
    throwIf (cursor < exit)
      "PositionGuard candidate state full-exit metadata cannot be after its chronology cursor."

def validateCursor (state : PositionGuardCandidateState) : Except String Unit := do
  throwIf (state.lastEvidenceId.any isBlank)
    "PositionGuard candidate state lastEvidenceId must be a non-empty string or null."
  throwIf (state.lastEvidenceAt.isSome ≠ state.lastEvidenceId.isSome)
    "PositionGuard candidate state cursor metadata must be either both null or both non-null."
  match state.lastEvidenceAt with
  | none =>
    throwIf (¬ isPristineCandidateState state)
      "PositionGuard candidate state may use a null cursor only when the state is empty."
  | some evidenceAt => do
    let _ ← parsePositionGuardCandidateTimestamp evidenceAt "state lastEvidenceAt"
    throwIf (state.stateVersion = 0)
      "PositionGuard candidate state with a cursor must have a positive stateVersion."
    validateExitBeforeCursor state evidenceAt

def minimumReachableStateVersion (state : PositionGuardCandidateState) : ℕ :=
  (if state.lastFullExitAt = none then 0 else 2) +
    (if quantityTolerance < state.currentEpisodeInventoryQuantity then
      1 + state.currentEpisodeAddCount +
        (if state.currentEpisodeRealizedPnlKrw ≠ 0 then 1 else 0)
    else 0)

/-- The inventory and what goes with it: a flat state has nothing left of an episode, an open one has
a cost basis and an entry path. -/
def validateEpisode (state : PositionGuardCandidateState) : Except String Unit :=
  if state.currentEpisodeInventoryQuantity ≤ quantityTolerance then do
    throwIf (state.currentEpisodeInventoryQuantity ≠ 0)
      "Flat PositionGuard candidate state must normalize inventory quantity to zero."
    throwIf (state.currentEpisodeCostBasisKrw ≠ 0 ∨ state.currentEpisodeAddCount ≠ 0 ∨
        state.currentEpisodeRealizedPnlKrw ≠ 0)
      "Flat PositionGuard candidate state must have zero cost basis, add count, and realized PnL."
    throwIf (state.lastEvidenceAt ≠ none ∧ state.lastFullExitAt = none)
      "Flat PositionGuard candidate state with a cursor requires full-exit metadata."
  else
    throwIf (state.currentEpisodeCostBasisKrw ≤ 0 ∨ state.lastEntryPath = none)
      "Open PositionGuard candidate state requires positive cost basis and entry path."

def validateStateSnapshot (state : PositionGuardCandidateState) : Except String Unit := do
  throwIf (state.currentEpisodeInventoryQuantity < 0)
    "PositionGuard candidate state currentEpisodeInventoryQuantity must be finite and non-negative."
  throwIf (state.currentEpisodeCostBasisKrw < 0)
    "PositionGuard candidate state currentEpisodeCostBasisKrw must be finite and non-negative."
  throwIf (maxSafeInteger < state.stateVersion)
    "PositionGuard candidate state stateVersion must be a non-negative safe integer."
  validateFullExitMetadata state
  throwIf (state.lastFullExitAt ≠ none ∧ state.lastEntryPath = none)
    "Completed PositionGuard candidate state requires lastEntryPath."
  validateCursor state
  validateEpisode state
  throwIf (state.stateVersion < minimumReachableStateVersion state)
    ("PositionGuard candidate state stateVersion is below the minimum implied by its persisted " ++
      "episode state.")

/-- `validatePositionGuardCandidateState`: a typed state is its own snapshot. -/
def validatePositionGuardCandidateState (state : PositionGuardCandidateState) :
    Except String Unit :=
  validateStateSnapshot state

/-! ### Advance by one record of evidence -/

/-- `assertEvidenceAfterStateCursor`: later, or at the same instant with a greater id. -/
def assertEvidenceAfterStateCursor (state : PositionGuardCandidateState)
    (evidence : NormalizedEvidence) : Except String Unit :=
  match state.lastEvidenceAt with
  | none => .ok ()
  | some cursorAt => do
    let cursor ← parsePositionGuardCandidateTimestamp cursorAt "state lastEvidenceAt"
    let epoch ← parsePositionGuardCandidateTimestamp evidence.executedAt "evidence executedAt"
    throwIf (epoch < cursor ∨
        (epoch = cursor ∧ ¬ before (state.lastEvidenceId.getD "") evidence.evidenceId))
      ("PositionGuard candidate evidence must be ordered after the state chronology cursor by " ++
        "epoch nanoseconds and evidenceId.")

def assertResidualMatches (expected actual : ℚ) (evidenceId : String) : Except String Unit :=
  throwIf (quantityTolerance < |expected - actual|)
    ("PositionGuard candidate evidence " ++ evidenceId ++
      " remainingQuantity contradicts the episode residual.")

def assertNonZeroFillLifecycle (state : PositionGuardCandidateState)
    (evidence : NormalizedEvidence) : Except String Unit :=
  match evidence.action with
  | .enter =>
    throwIf (state.currentEpisodeInventoryQuantity ≠ 0)
      "PositionGuard candidate ENTER evidence requires a flat episode."
  | .add =>
    throwIf (state.currentEpisodeInventoryQuantity ≤ quantityTolerance)
      "PositionGuard candidate ADD evidence requires an open episode."
  | .reduce | .exit => do
    throwIf (state.currentEpisodeInventoryQuantity ≤ quantityTolerance)
      "PositionGuard candidate sell evidence requires an open episode."
    throwIf (state.currentEpisodeInventoryQuantity + quantityTolerance < evidence.executedQuantity)
      "PositionGuard candidate sell evidence exceeds episode inventory."

/-- The state after a buy, before the cursor moves. -/
def applyBuyEvidence (state : PositionGuardCandidateState) (evidence : NormalizedEvidence) :
    PositionGuardCandidateState :=
  { state with
    currentEpisodeInventoryQuantity :=
      state.currentEpisodeInventoryQuantity + evidence.executedQuantity
    currentEpisodeCostBasisKrw := state.currentEpisodeCostBasisKrw +
      (evidence.grossQuoteValueKrw + evidence.confirmedFeeKrw)
    lastEntryPath :=
      if evidence.action = .enter then some evidence.entryPath else state.lastEntryPath
    currentEpisodeAddCount :=
      if evidence.action = .add then state.currentEpisodeAddCount + 1
      else state.currentEpisodeAddCount }

/-- A sell that leaves no more than the tolerance closes the episode. -/
def closesEpisode (state : PositionGuardCandidateState) (evidence : NormalizedEvidence) : Bool :=
  state.currentEpisodeInventoryQuantity - evidence.executedQuantity ≤ quantityTolerance

/-- The part of the cost basis that a sell takes with it. -/
def removedCost (state : PositionGuardCandidateState) (evidence : NormalizedEvidence) : ℚ :=
  if closesEpisode state evidence then state.currentEpisodeCostBasisKrw
  else state.currentEpisodeCostBasisKrw *
    (evidence.executedQuantity / state.currentEpisodeInventoryQuantity)

/-- The profit and loss of the episode up to and with a sell. -/
def realizedPnl (state : PositionGuardCandidateState) (evidence : NormalizedEvidence) : ℚ :=
  state.currentEpisodeRealizedPnlKrw + evidence.grossQuoteValueKrw - evidence.confirmedFeeKrw -
    removedCost state evidence

/-- The state after a sell, before the cursor moves. -/
def applySellEvidence (state : PositionGuardCandidateState) (evidence : NormalizedEvidence) :
    PositionGuardCandidateState :=
  if closesEpisode state evidence then
    { state with
      currentEpisodeAddCount := 0
      currentEpisodeCostBasisKrw := 0
      currentEpisodeInventoryQuantity := 0
      currentEpisodeRealizedPnlKrw := 0
      lastFullExitAt := some evidence.executedAt
      lastFullExitRealizedPnlKrw := some (realizedPnl state evidence) }
  else
    { state with
      currentEpisodeCostBasisKrw :=
        state.currentEpisodeCostBasisKrw - removedCost state evidence
      currentEpisodeInventoryQuantity :=
        state.currentEpisodeInventoryQuantity - evidence.executedQuantity
      currentEpisodeRealizedPnlKrw := realizedPnl state evidence }

/-- The episode after a non-zero fill, with the residual it must leave. -/
def applyEvidence (state : PositionGuardCandidateState) (evidence : NormalizedEvidence) :
    PositionGuardCandidateState × ℚ :=
  if isBuyAction evidence.action then
    let next := applyBuyEvidence state evidence
    (next, next.currentEpisodeInventoryQuantity)
  else
    (applySellEvidence state evidence,
      if closesEpisode state evidence then 0
      else state.currentEpisodeInventoryQuantity - evidence.executedQuantity)

/-- The cursor and the version after a non-zero fill. -/
def moveCursor (state : PositionGuardCandidateState) (evidence : NormalizedEvidence) :
    PositionGuardCandidateState :=
  { state with
    lastEvidenceAt := some evidence.executedAt
    lastEvidenceId := some evidence.evidenceId
    stateVersion := state.stateVersion + 1 }

def advanceValidatedPositionGuardCandidateState (state : PositionGuardCandidateState)
    (evidence : NormalizedEvidence) : Except String PositionGuardCandidateState := do
  assertEvidenceAfterStateCursor state evidence
  if evidence.executedQuantity = 0 then do
    assertResidualMatches state.currentEpisodeInventoryQuantity evidence.remainingQuantity
      evidence.evidenceId
    .ok state
  else do
    assertNonZeroFillLifecycle state evidence
    let (applied, residual) := applyEvidence state evidence
    assertResidualMatches residual evidence.remainingQuantity evidence.evidenceId
    let next := moveCursor applied evidence
    validateStateSnapshot next
    .ok next

/-! ### Projection of a list of evidence -/

/-- Evidence with the instant it was executed at. -/
structure OrderedEvidence (Amount : Type) where
  evidence : ExecutionEvidence Amount
  epochNanoseconds : ℤ

/-- The order of the projection: by instant, then by id. -/
def OrderedEvidence.le {Amount : Type} (left right : OrderedEvidence Amount) : Bool :=
  left.epochNanoseconds < right.epochNanoseconds ∨
    (left.epochNanoseconds = right.epochNanoseconds ∧
      ¬ before right.evidence.evidenceId left.evidence.evidenceId)

/-- The `map` of `projectPositionGuardCandidateState`, with the ids seen so far. -/
def orderEvidence (evidenceIds : List String) :
    List PositionGuardCandidateExecutionEvidence → Except String (List (OrderedEvidence ℚ))
  | [] => .ok []
  | item :: rest => do
    let snapshot ← normalizeExecutionEvidence item
    validateExecutionEvidence snapshot
    throwIf (snapshot.evidenceId ∈ evidenceIds)
      ("Duplicate PositionGuard candidate evidenceId " ++ snapshot.evidenceId ++ ".")
    let epochNanoseconds ←
      parsePositionGuardCandidateTimestamp snapshot.executedAt "evidence executedAt"
    let ordered ← orderEvidence (snapshot.evidenceId :: evidenceIds) rest
    .ok (⟨snapshot, epochNanoseconds⟩ :: ordered)

def projectPositionGuardCandidateState (initialState : PositionGuardCandidateState)
    (evidence : List PositionGuardCandidateExecutionEvidence) :
    Except String PositionGuardCandidateState := do
  validateStateSnapshot initialState
  let ordered ← orderEvidence initialState.lastEvidenceId.toList evidence
  (ordered.insertionSort fun a b => a.le b).foldlM
    (fun state item => advanceValidatedPositionGuardCandidateState state item.evidence) initialState

end AutoTrade.Strategy.CandidateState
