import AutoTrade.Lib.Double
import AutoTrade.Strategy.CandidateState

/-! # The exact ledger of the candidate

`candidate-evidence-decimals.ts`: decimals as an integer coefficient and a scale, their canonical
texts, and the ledger that is persisted, whose amounts are such texts. -/

namespace AutoTrade.Execution.EvidenceDecimals

open Lib.Text Lib.Decimal Lib.Result Domain.Timestamp
open Strategy.Core Strategy.CandidateState

/-! ### Exact decimals -/

structure ExactDecimal where
  coefficient : ℤ
  scale : ℕ
  deriving DecidableEq

/-- The loop of `normalizeExactDecimal`: zeros at the end of the fraction are dropped. -/
def dropZeros (coefficient : ℤ) : ℕ → ExactDecimal
  | 0 => ⟨coefficient, 0⟩
  | scale + 1 =>
    if coefficient % 10 = 0 then dropZeros (coefficient / 10) scale else ⟨coefficient, scale + 1⟩

def normalizeExactDecimal (value : ExactDecimal) : ExactDecimal :=
  dropZeros value.coefficient value.scale

/-- The coefficient at a scale that is not smaller. -/
def ExactDecimal.atScale (value : ExactDecimal) (scale : ℕ) : ℤ :=
  value.coefficient * 10 ^ (scale - value.scale)

def compareExactDecimals (left right : ExactDecimal) : ℤ :=
  let scale := max left.scale right.scale
  if left.atScale scale < right.atScale scale then -1
  else if right.atScale scale < left.atScale scale then 1
  else 0

def addExactDecimals (left right : ExactDecimal) : ExactDecimal :=
  let scale := max left.scale right.scale
  normalizeExactDecimal ⟨left.atScale scale + right.atScale scale, scale⟩

def subtractExactDecimals (left right : ExactDecimal) : ExactDecimal :=
  let scale := max left.scale right.scale
  normalizeExactDecimal ⟨left.atScale scale - right.atScale scale, scale⟩

def multiplyExactDecimals (left right : ExactDecimal) : ExactDecimal :=
  normalizeExactDecimal ⟨left.coefficient * right.coefficient, left.scale + right.scale⟩

/-- `while (denominator % p === 0) { denominator /= p; count += 1; }`; a non-zero denominator has
fewer factors than its absolute value. -/
def factorOut (p : ℤ) : (fuel : ℕ) → ℤ → ℤ × ℕ
  | 0, denominator => (denominator, 0)
  | fuel + 1, denominator =>
    if denominator % p = 0 then
      let rest := factorOut p fuel (denominator / p)
      (rest.1, rest.2 + 1)
    else (denominator, 0)

/-- The quotient of a numerator and a denominator that only has the factors two and five. -/
def divideReduced (numerator denominator : ℤ) (label : String) : Except String ExactDecimal :=
  let twos := factorOut 2 denominator.natAbs denominator
  let fives := factorOut 5 twos.1.natAbs twos.1
  if fives.1 ≠ 1 ∧ fives.1 ≠ -1 then
    .error (label ++ " does not have a terminating exact decimal representation.")
  else
    let scale := max twos.2 fives.2
    .ok (normalizeExactDecimal
      ⟨numerator * 2 ^ (scale - twos.2) * 5 ^ (scale - fives.2), scale⟩)

/-- `greatestCommonDivisor`. The remainder falls from turn to turn, so there are no more turns than the
second number says. -/
def greatestCommonDivisor : (turns : ℕ) → ℕ → ℕ → ℕ
  | 0, a, _ => if a = 0 then 1 else a
  | turns + 1, a, b =>
    if b = 0 then if a = 0 then 1 else a else greatestCommonDivisor turns b (a % b)

def divideExactDecimals (left right : ExactDecimal) (label : String) : Except String ExactDecimal :=
  if right.coefficient = 0 then .error (label ++ " cannot divide by zero.")
  else
    let numerator := left.coefficient * 10 ^ (right.scale - left.scale)
    let denominator := right.coefficient * 10 ^ (left.scale - right.scale)
    let divisor := greatestCommonDivisor denominator.natAbs numerator.natAbs denominator.natAbs
    divideReduced (numerator / divisor) (denominator / divisor) label

def absDecimal (value : ExactDecimal) : ExactDecimal :=
  if value.coefficient < 0 then { value with coefficient := -value.coefficient } else value

/-! ### Texts -/

def formatExactDecimal (value : ExactDecimal) : String :=
  let normalized := normalizeExactDecimal value
  let digits := pointed normalized.coefficient.natAbs normalized.scale
  String.ofList (if normalized.coefficient < 0 then '-' :: digits else digits)

/-- `CANONICAL_NON_NEGATIVE`. -/
def isCanonicalNonNegative (chars : List Char) : Bool :=
  isNumeral (wholePart chars) ∧ (fractionPart chars).all isTrimmedDigits

/-- `[1-9]\d*(?:\.\d*[1-9])?`. -/
def isCanonicalFromOne (chars : List Char) : Bool :=
  isPositiveNumeral (wholePart chars) ∧ (fractionPart chars).all isTrimmedDigits

/-- `CANONICAL_SIGNED`. -/
def isCanonicalSigned (chars : List Char) : Bool :=
  chars = ['0'] ∨ isCanonicalFromOne chars ∨
    (chars.head? = some '-' ∧ isCanonicalFromOne chars.tail)

/-- `parseCanonicalDecimal`. -/
def parseCanonicalDecimal (value : String) : ExactDecimal :=
  let negative := value.toList.head? = some '-'
  let unsigned := if negative then value.toList.tail else value.toList
  let fractional := (fractionPart unsigned).getD []
  let digits := Nat.ofDigitChars 10 (wholePart unsigned ++ fractional) 0
  normalizeExactDecimal ⟨(if negative then -1 else 1) * digits, fractional.length⟩

def parseCanonicalNonNegativeDecimal (value : PositionGuardCandidateDecimal) (label : String) :
    Except String ExactDecimal :=
  match value with
  | .text t =>
    if isCanonicalNonNegative t.toList then .ok (parseCanonicalDecimal t)
    else .error (label ++ " must be a canonical non-negative decimal string.")
  | .number _ => .error (label ++ " must be a canonical non-negative decimal string.")

def parseCanonicalSignedDecimal (value label : String) : Except String ExactDecimal :=
  if isCanonicalSigned value.toList then .ok (parseCanonicalDecimal value)
  else .error (label ++ " must be a canonical signed decimal string.")

def canonicalNonNegativeDecimal (value : PositionGuardCandidateDecimal) (label : String) :
    Except String String := do
  let parsed ← parseCanonicalNonNegativeDecimal value label
  .ok (formatExactDecimal parsed)

def canonicalSignedDecimal (value label : String) : Except String String := do
  let parsed ← parseCanonicalSignedDecimal value label
  .ok (formatExactDecimal parsed)

/-! ### The ledger -/

structure ExactCandidateState where
  currentEpisodeAddCount : ℕ
  currentEpisodeCostBasisKrw : String
  currentEpisodeInventoryQuantity : String
  currentEpisodeRealizedPnlKrw : String
  lastFullExitAt : Option String
  lastFullExitRealizedPnlKrw : Option String
  lastEntryPath : Option StrategyEntryPath
  lastEvidenceAt : Option String
  lastEvidenceId : Option String
  stateVersion : ℕ
  deriving DecidableEq

def createExactEmptyCandidateState : ExactCandidateState where
  currentEpisodeAddCount := 0
  currentEpisodeCostBasisKrw := "0"
  currentEpisodeInventoryQuantity := "0"
  currentEpisodeRealizedPnlKrw := "0"
  lastFullExitAt := none
  lastFullExitRealizedPnlKrw := none
  lastEntryPath := none
  lastEvidenceAt := none
  lastEvidenceId := none
  stateVersion := 0

/-- `QUANTITY_TOLERANCE`: the decimal of `EXACT_CANDIDATE_QUANTITY_TOLERANCE`. -/
def exactQuantityTolerance : ExactDecimal := parseCanonicalDecimal "0.000000000001"

def deriveExactRemainingQuantity (currentQuantity : String) (action : ExecutedAction)
    (executedQuantity : String) : Except String String := do
  let current ←
    parseCanonicalNonNegativeDecimal (.text currentQuantity) "candidate exact inventory quantity"
  let executed ←
    parseCanonicalNonNegativeDecimal (.text executedQuantity) "candidate executed quantity"
  if isBuyAction action then .ok (formatExactDecimal (addExactDecimals current executed))
  else if 0 < compareExactDecimals executed (addExactDecimals current exactQuantityTolerance) then
    .error "Terminal sell evidence exceeds exact candidate inventory."
  else
    let remaining := subtractExactDecimals current executed
    if compareExactDecimals (absDecimal remaining) exactQuantityTolerance ≤ 0 then .ok "0"
    else .ok (formatExactDecimal remaining)

def assertExactChronology (state : ExactCandidateState)
    (evidence : PositionGuardCandidateExecutionEvidence) : Except String Unit :=
  match state.lastEvidenceAt with
  | none => .ok ()
  | some cursorAt => do
    let cursor ← parsePositionGuardCandidateTimestamp cursorAt "candidate state lastEvidenceAt"
    let next ←
      parsePositionGuardCandidateTimestamp evidence.executedAt "candidate evidence executedAt"
    throwIf (next < cursor ∨
        (next = cursor ∧ ¬ before (state.lastEvidenceId.getD "") evidence.evidenceId))
      "Candidate evidence must be in exact persisted chronology order."

/-- The decimals a fill is computed with. -/
structure ExactFill where
  currentCost : ExactDecimal
  currentQuantity : ExactDecimal
  currentPnl : ExactDecimal
  executed : ExactDecimal
  gross : ExactDecimal
  fee : ExactDecimal

/-- The state after a buy, before the cursor moves. -/
def exactBuy (state : ExactCandidateState) (evidence : PositionGuardCandidateExecutionEvidence)
    (fill : ExactFill) (expectedRemaining : String) : Except String ExactCandidateState :=
  if evidence.action = .enter ∧ state.currentEpisodeInventoryQuantity ≠ "0" then
    .error "Candidate ENTER evidence requires an exact flat episode."
  else if evidence.action = .add ∧ state.currentEpisodeInventoryQuantity = "0" then
    .error "Candidate ADD evidence requires an exact open episode."
  else
    .ok { state with
      currentEpisodeInventoryQuantity := expectedRemaining
      currentEpisodeCostBasisKrw := formatExactDecimal
        (addExactDecimals fill.currentCost (addExactDecimals fill.gross fill.fee))
      lastEntryPath :=
        if evidence.action = .enter then some evidence.entryPath else state.lastEntryPath
      currentEpisodeAddCount :=
        if evidence.action = .add then state.currentEpisodeAddCount + 1
        else state.currentEpisodeAddCount }

/-- The cost that a sell takes with it: all of it if nothing remains. -/
def exactRemovedCost (fill : ExactFill) (expectedRemaining : String) : Except String ExactDecimal :=
  if expectedRemaining = "0" then .ok fill.currentCost
  else divideExactDecimals (multiplyExactDecimals fill.currentCost fill.executed)
    fill.currentQuantity "candidate proportional cost allocation"

def exactRealized (fill : ExactFill) (removedCost : ExactDecimal) : ExactDecimal :=
  subtractExactDecimals
    (addExactDecimals fill.currentPnl (subtractExactDecimals fill.gross fill.fee)) removedCost

/-- The state after a sell, before the cursor moves. -/
def exactSell (state : ExactCandidateState) (evidence : PositionGuardCandidateExecutionEvidence)
    (fill : ExactFill) (expectedRemaining : String) : Except String ExactCandidateState := do
  throwIf (state.currentEpisodeInventoryQuantity = "0")
    "Candidate sell evidence requires an exact open episode."
  let removedCost ← exactRemovedCost fill expectedRemaining
  if expectedRemaining = "0" then
    .ok { state with
      currentEpisodeAddCount := 0
      currentEpisodeCostBasisKrw := "0"
      currentEpisodeInventoryQuantity := "0"
      currentEpisodeRealizedPnlKrw := "0"
      lastFullExitAt := some evidence.executedAt
      lastFullExitRealizedPnlKrw := some (formatExactDecimal (exactRealized fill removedCost)) }
  else
    .ok { state with
      currentEpisodeCostBasisKrw :=
        formatExactDecimal (subtractExactDecimals fill.currentCost removedCost)
      currentEpisodeInventoryQuantity := expectedRemaining
      currentEpisodeRealizedPnlKrw := formatExactDecimal (exactRealized fill removedCost) }

/-- The decimals of a fill, parsed from the state and from the canonical texts of the record. -/
def parseFill (state : ExactCandidateState) (executedQuantity grossQuoteValueKrw confirmedFeeKrw :
    String) : Except String ExactFill := do
  let currentCost ← parseCanonicalNonNegativeDecimal (.text state.currentEpisodeCostBasisKrw)
    "candidate exact cost basis"
  let currentQuantity ← parseCanonicalNonNegativeDecimal
    (.text state.currentEpisodeInventoryQuantity) "candidate exact inventory"
  let currentPnl ← parseCanonicalSignedDecimal state.currentEpisodeRealizedPnlKrw
    "candidate exact realized pnl"
  let executed ← parseCanonicalNonNegativeDecimal (.text executedQuantity)
    "candidate executed quantity"
  let gross ← parseCanonicalNonNegativeDecimal (.text grossQuoteValueKrw)
    "candidate gross quote value"
  let fee ← parseCanonicalNonNegativeDecimal (.text confirmedFeeKrw) "candidate confirmed fee"
  .ok { currentCost, currentQuantity, currentPnl, executed, gross, fee }

/-- The state after a record that fills nothing. -/
def advanceNoFill (state : ExactCandidateState) (remainingQuantity : String) :
    Except String ExactCandidateState := do
  throwIf (remainingQuantity ≠ state.currentEpisodeInventoryQuantity)
    "Terminal no-fill candidate evidence contradicts exact inventory."
  .ok state

/-- The state after a fill. -/
def advanceFill (state : ExactCandidateState) (evidence : PositionGuardCandidateExecutionEvidence)
    (executedQuantity grossQuoteValueKrw confirmedFeeKrw remainingQuantity : String) :
    Except String ExactCandidateState := do
  let expectedRemaining ← deriveExactRemainingQuantity state.currentEpisodeInventoryQuantity
    evidence.action executedQuantity
  throwIf (expectedRemaining ≠ remainingQuantity)
    ("Candidate evidence " ++ evidence.evidenceId ++
      " remainingQuantity contradicts exact inventory.")
  let fill ← parseFill state executedQuantity grossQuoteValueKrw confirmedFeeKrw
  let next ← (if isBuyAction evidence.action then exactBuy else exactSell) state evidence fill
    expectedRemaining
  .ok { next with
    lastEvidenceAt := some evidence.executedAt
    lastEvidenceId := some evidence.evidenceId
    stateVersion := next.stateVersion + 1 }

def advanceExactCandidateState (state : ExactCandidateState)
    (evidence : PositionGuardCandidateExecutionEvidence) : Except String ExactCandidateState := do
  let executedQuantity ← canonicalNonNegativeDecimal evidence.executedQuantity
    "candidate evidence executedQuantity"
  let grossQuoteValueKrw ← canonicalNonNegativeDecimal evidence.grossQuoteValueKrw
    "candidate evidence grossQuoteValueKrw"
  let confirmedFeeKrw ← canonicalNonNegativeDecimal evidence.confirmedFeeKrw
    "candidate evidence confirmedFeeKrw"
  let remainingQuantity ← canonicalNonNegativeDecimal evidence.remainingQuantity
    "candidate evidence remainingQuantity"
  assertExactChronology state evidence
  if executedQuantity = "0" then advanceNoFill state remainingQuantity
  else
    advanceFill state evidence executedQuantity grossQuoteValueKrw confirmedFeeKrw remainingQuantity

/-- The `map` of `projectExactCandidateState`. -/
def orderExactEvidence : List PositionGuardCandidateExecutionEvidence →
    Except String (List (OrderedEvidence PositionGuardCandidateDecimal))
  | [] => .ok []
  | item :: rest => do
    let epochNanoseconds ←
      parsePositionGuardCandidateTimestamp item.executedAt "candidate evidence executedAt"
    let ordered ← orderExactEvidence rest
    .ok (⟨item, epochNanoseconds⟩ :: ordered)

def projectExactCandidateState (evidence : List PositionGuardCandidateExecutionEvidence) :
    Except String ExactCandidateState := do
  let ordered ← orderExactEvidence evidence
  (ordered.insertionSort fun a b => a.le b).foldlM
    (fun state item => advanceExactCandidateState state item.evidence) createExactEmptyCandidateState

/-! ### The routing state of an exact state -/

/-- The number a decimal text denotes. -/
def routingNumber (value : String) : ℚ :=
  if value.toList.head? = some '-' then -decimalValue value.toList.tail
  else decimalValue value.toList

/-- `finiteRoutingNumber`; `number` is what `Number` reads for the number of a text, none where that is
not finite. -/
def finiteRoutingNumber (number : ℚ → Option ℚ) (value label : String) : Except String ℚ :=
  match number (routingNumber value) with
  | none => .error (label ++ " cannot be represented as a finite routing number.")
  | some result => .ok result

/-- The routing state whose numbers are what `number` reads. -/
def routingStateOf (number : ℚ → Option ℚ) (state : ExactCandidateState) :
    Except String PositionGuardCandidateState := do
  let costBasis ← canonicalNonNegativeDecimal (.text state.currentEpisodeCostBasisKrw)
    "candidate exact cost basis"
  let currentEpisodeCostBasisKrw ← finiteRoutingNumber number costBasis "candidate exact cost basis"
  let inventory ← canonicalNonNegativeDecimal (.text state.currentEpisodeInventoryQuantity)
    "candidate exact inventory quantity"
  let currentEpisodeInventoryQuantity ←
    finiteRoutingNumber number inventory "candidate exact inventory quantity"
  let realized ← canonicalSignedDecimal state.currentEpisodeRealizedPnlKrw
    "candidate exact realized pnl"
  let currentEpisodeRealizedPnlKrw ←
    finiteRoutingNumber number realized "candidate exact realized pnl"
  let lastFullExitRealizedPnlKrw ← state.lastFullExitRealizedPnlKrw.mapM fun value => do
    let fullExit ← canonicalSignedDecimal value "candidate exact full-exit pnl"
    finiteRoutingNumber number fullExit "candidate exact full-exit pnl"
  let result : PositionGuardCandidateState :=
    { currentEpisodeAddCount := state.currentEpisodeAddCount
      currentEpisodeCostBasisKrw
      currentEpisodeInventoryQuantity
      currentEpisodeRealizedPnlKrw
      lastFullExitAt := state.lastFullExitAt
      lastFullExitRealizedPnlKrw
      lastEntryPath := state.lastEntryPath
      lastEvidenceAt := state.lastEvidenceAt
      lastEvidenceId := state.lastEvidenceId
      stateVersion := state.stateVersion }
  validatePositionGuardCandidateState result
  .ok result

/-- `toPositionGuardCandidateRoutingState` of `pilot-interfaces.ts`. -/
def toPositionGuardCandidateRoutingState : ExactCandidateState →
    Except String PositionGuardCandidateState := routingStateOf Lib.Double.ofRat

/-- `toPositionGuardCandidateRoutingState` over exact rationals. -/
def toRationalRoutingState : ExactCandidateState → Except String PositionGuardCandidateState :=
  routingStateOf some

end AutoTrade.Execution.EvidenceDecimals
