import AutoTrade.Execution.CandidateBinding
import AutoTrade.Lib.Json

/-! # Candidate evidence

`candidate-evidence-service.ts`: what it verifies of the decision of a terminal order, and how it
adds up the fills of the order. A check of this file throws a fault with a code, and a decimal that
another file refuses throws a plain error; `processTerminalOrder` turns the latter into a fault as
well. -/

namespace AutoTrade.Execution.CandidateEvidence

open Lib.Json Lib.Text Lib.Result Domain.Types
open Domain.PilotTypes Domain.Timestamp
open Strategy.Core
open Execution.EvidenceDecimals

/-- `CandidateEvidenceFault`, or an `Error` of another file. -/
inductive Thrown
  | fault (code message : String)
  | error (message : String)
  deriving DecidableEq

/-- The fault that `processTerminalOrder` records. -/
def Thrown.recorded : Thrown → String × String
  | .fault code message => (code, message)
  | .error message => ("CANDIDATE_EVIDENCE_PROJECTION_FAILED", message)

def throwFault (p : Prop) [Decidable p] (code message : String) : Except Thrown Unit :=
  throwIf p (.fault code message)

/-- A call into another file. -/
def call {α : Type} (x : Except String α) : Except Thrown α := x.mapError .error

def parseTimestamp (value label : String) : Except Thrown ℤ :=
  (parsePositionGuardCandidateTimestamp value label).mapError (.fault "TIMESTAMP_INVALID")

/-! ### The basis of a decision -/

section Basis

variable {Num : Type}

/-- `asRecord`. -/
def asRecord (value : Option (JsonValue Num)) : Option (List (String × JsonValue Num)) :=
  match value with
  | some (.object fields) => some fields
  | _ => none

/-- `isEntryPath`. -/
def entryPathOf (value : Option (JsonValue Num)) : Option StrategyEntryPath :=
  match value with
  | some (.text "PULLBACK") => some .pullback
  | some (.text "RECLAIM") => some .reclaim
  | some (.text "BREAKOUT_HOLD") => some .breakoutHold
  | some (.text "NONE") => some .none
  | _ => none

/-- `canonical ?? legacy`. -/
def coalesce (canonical legacy : Option (JsonValue Num)) : Option (JsonValue Num) :=
  match canonical with
  | none | some .null => legacy
  | some value => some value

variable [DecidableEq Num]

/-- Both paths are there and differ; two objects or arrays always do. -/
def conflicting (canonical legacy : Option (JsonValue Num)) : Bool :=
  match canonical, legacy with
  | some canonical, some legacy => canonical.strictlyEqual legacy = false
  | _, _ => false

/-- The fields of the basis that are compared with the decision. -/
def entryPathOfBasis (record : List (String × JsonValue Num)) (decision : StrategyDecisionRecord) :
    Except Thrown StrategyEntryPath := do
  let strategyDecision := asRecord (record.lookup "strategyDecision")
  let engineDecision := asRecord (record.lookup "engineDecision")
  let diagnostics := asRecord (engineDecision.bind fun fields => fields.lookup "diagnostics")
  let canonicalEntryPath := diagnostics.bind fun fields => fields.lookup "entryPath"
  let legacyEntryPath := engineDecision.bind fun fields => fields.lookup "entryPath"
  throwFault (conflicting canonicalEntryPath legacyEntryPath = true) "STRATEGY_DECISION_INVALID"
    "Strategy decision basis contains conflicting entry-path provenance."
  let mismatch : Thrown := .fault "STRATEGY_DECISION_INVALID"
    "Strategy decision basis does not match persisted decision provenance."
  throwIf (isText (strategyDecision.bind fun fields => fields.lookup "market")
      decision.market.text = false ∨
    isText (strategyDecision.bind fun fields => fields.lookup "action")
      decision.action.text = false) mismatch
  match entryPathOf (coalesce canonicalEntryPath legacyEntryPath) with
  | some entryPath => .ok entryPath
  | none => .error mismatch

/-- `parseDecisionBasis`; `parseJson` is `JSON.parse`, `none` where it throws. -/
def parseDecisionBasis (parseJson : String → Option (JsonValue Num))
    (decision : StrategyDecisionRecord) : Except Thrown StrategyEntryPath :=
  match parseJson decision.decisionBasisJson with
  | none => .error (.fault "STRATEGY_DECISION_INVALID" "Strategy decision basis JSON is malformed.")
  | some (.object record) => entryPathOfBasis record decision
  | some _ => .error (.fault "STRATEGY_DECISION_INVALID" "Strategy decision basis JSON is invalid.")

end Basis

/-! ### The decision of an order -/

/-- `CandidateAction`, if the action of a decision is one. -/
def candidateAction : StrategyDecisionAction → Option ExecutedAction
  | .enter => some .enter
  | .add => some .add
  | .reduce => some .reduce
  | .exit => some .exit
  | .hold => none

structure VerifiedDecision where
  action : ExecutedAction
  entryPath : StrategyEntryPath
  decision : StrategyDecisionRecord
  requestedAt : ℤ
  bindingCreatedAt : ℤ
  deriving DecidableEq

def sameOptionalCanonicalDecimal (left right : Option String) : Except Thrown Bool :=
  match left, right with
  | some left, some right => do
    let left ← call (canonicalNonNegativeDecimal (.text left) "candidate order binding decimal")
    let right ← call (canonicalNonNegativeDecimal (.text right) "candidate order decimal")
    .ok (decide (left = right))
  | left, right => .ok (decide (left = right))

def assertSameOptionalExactDecimal (left right : Option String) (label : String) :
    Except Thrown Unit := do
  let mismatch := "Binding " ++ label ++ " does not match strategy decision."
  match left, right with
  | some left, some right => do
    let left ← call (canonicalNonNegativeDecimal (.text left) ("binding " ++ label))
    let right ← call (canonicalNonNegativeDecimal (.text right) ("decision " ++ label))
    throwFault (left ≠ right) "CANDIDATE_EXECUTION_BINDING_INVALID" mismatch
  | left, right => throwFault (left ≠ right) "CANDIDATE_EXECUTION_BINDING_INVALID" mismatch

def hasVerifiedDeploymentActivation (deployment : PositionGuardPilotDeploymentRecord) : Bool :=
  match deployment.activationAt, deployment.activationEpochNs with
  | some activationAt, some activationEpochNs =>
    match parseTimestamp activationAt "candidate deployment activationAt" with
    | .ok parsed => parsed = activationEpochNs
    | .error _ => false
  | _, _ => false

/-- The binding of the order is one of the deployment and of the decision. -/
def verifyBinding (order : OrderRecord) (deployment : PositionGuardPilotDeploymentRecord)
    (binding : CandidateExecutionBindingRecord) (decision : StrategyDecisionRecord) :
    Except Thrown Unit := do
  let mismatch : Thrown := .fault "CANDIDATE_EXECUTION_BINDING_INVALID"
    "Persisted order binding does not match deployment provenance."
  throwIf (binding.deploymentId ≠ deployment.id ∨ binding.strategyDecisionId ≠ decision.id ∨
    binding.orderId ≠ order.id ∨ binding.exchangeAccountId ≠ order.exchangeAccountId ∨
    order.market ≠ .krwBtc ∨ some binding.activationAt ≠ deployment.activationAt ∨
    some binding.activationEpochNs ≠ deployment.activationEpochNs ∨
    binding.executionMode ≠ order.executionMode ∨ binding.ordType ≠ order.ordType) mismatch
  let samePrice ← sameOptionalCanonicalDecimal binding.boundPrice order.price
  throwIf (samePrice = false) mismatch
  let sameVolume ← sameOptionalCanonicalDecimal binding.boundVolume order.volume
  throwIf (sameVolume = false) mismatch
  throwIf (binding.boundTimeInForce ≠ order.timeInForce ∨ binding.boundSmpType ≠ order.smpType)
    mismatch

/-- The decision is a candidate decision for the order, in the quantities that are bound. -/
def verifyDecision (order : OrderRecord) (binding : CandidateExecutionBindingRecord)
    (decision : StrategyDecisionRecord) : Except Thrown Unit := do
  throwFault (decision.exchangeAccountId ≠ order.exchangeAccountId ∨
      decision.strategyKey ≠ "position_guard.paper_core.v1" ∨ decision.market ≠ order.market ∨
      decision.status ≠ .ready ∨ (candidateAction decision.action).isNone = true ∨
      binding.action ≠ decision.action)
    "STRATEGY_DECISION_INVALID" "Persisted strategy decision is invalid for candidate evidence."
  let expectedSide : OrderSide :=
    if decision.action = .enter ∨ decision.action = .add then .bid else .ask
  throwFault (order.side ≠ expectedSide ∨ binding.side ≠ expectedSide) "ORDER_SIDE_ACTION_MISMATCH"
    "Order side does not match persisted candidate action."
  assertSameOptionalExactDecimal binding.intendedQuantity decision.intendedQuantity
    "intended quantity"
  assertSameOptionalExactDecimal binding.intendedNotionalKrw decision.intendedNotionalKrw
    "intended notional"
  throwFault (binding.intendedQuantity ≠ none ∧ order.volume ≠ binding.intendedQuantity)
    "ORDER_QUANTITY_INVALID" "Order volume does not match its bound intended quantity."
  throwFault (order.ordType = .price ∧ binding.intendedNotionalKrw ≠ none ∧
      order.price ≠ binding.intendedNotionalKrw)
    "ORDER_QUANTITY_INVALID" "Price order budget does not match its bound intended notional."

/-- The instants at which the order was requested and bound, in the order of the events. -/
def verifyInstants (order : OrderRecord) (deployment : PositionGuardPilotDeploymentRecord)
    (binding : CandidateExecutionBindingRecord) (decision : StrategyDecisionRecord) :
    Except Thrown (ℤ × ℤ) := do
  let decisionAt ← parseTimestamp decision.createdAt "strategy decision createdAt"
  let requestedAt ← parseTimestamp order.requestedAt "order requestedAt"
  match deployment.activationEpochNs with
  | none =>
    .error (.fault "CANDIDATE_DEPLOYMENT_ACTIVATION_UNVERIFIED"
      "Candidate deployment activation instant is unavailable.")
  | some activationAt => do
    let bindingCreatedAt ←
      parseTimestamp binding.createdAt "candidate execution binding createdAt"
    throwFault (requestedAt < decisionAt ∨ requestedAt < activationAt ∨
        requestedAt ≤ bindingCreatedAt)
      "ORDER_TIMESTAMP_INVALID" "Decision, activation, and order timestamps are inconsistent."
    .ok (requestedAt, bindingCreatedAt)

/-- `getVerifiedDecision`, over the stored decisions. -/
def getVerifiedDecision {Num : Type} [DecidableEq Num]
    (parseJson : String → Option (JsonValue Num))
    (getStrategyDecisionById : String → Option StrategyDecisionRecord) (order : OrderRecord)
    (deployment : PositionGuardPilotDeploymentRecord) (binding : CandidateExecutionBindingRecord) :
    Except Thrown VerifiedDecision := do
  throwFault (truthy order.strategyDecisionId = false) "STRATEGY_DECISION_MISSING"
    "Terminal strategy order has no decision reference."
  match order.strategyDecisionId.bind getStrategyDecisionById with
  | none =>
    .error (.fault "STRATEGY_DECISION_MISSING"
      "Terminal strategy order references no persisted decision.")
  | some decision => do
    verifyBinding order deployment binding decision
    verifyDecision order binding decision
    let (requestedAt, bindingCreatedAt) ← verifyInstants order deployment binding decision
    let entryPath ← parseDecisionBasis parseJson decision
    .ok ⟨(candidateAction decision.action).getD .exit, entryPath, decision, requestedAt,
      bindingCreatedAt⟩

/-! ### The fills of an order -/

structure TerminalFillAggregate where
  executedAt : String
  executedQuantity : String
  grossQuoteValueKrw : String
  confirmedFeeKrw : String
  deriving DecidableEq

def verifiedExchangeFillEpoch (fill : FillRecord) : Except Thrown ℤ :=
  let unverified (message : String) : Thrown := .fault "FILL_EXECUTION_TIMESTAMP_UNVERIFIED" message
  match fill.executionEpochNs with
  | none => .error (unverified
      "Every candidate fill requires an exchange-confirmed execution timestamp and epoch nanoseconds.")
  | some executionEpochNs => do
    throwIf (fill.executionTimestampProvenance ≠ some .exchangeFillConfirmed) (unverified
      "Every candidate fill requires an exchange-confirmed execution timestamp and epoch nanoseconds.")
    throwIf (AutoTrade.Lib.Decimal.isNumeral executionEpochNs.toList = false)
      (unverified "Persisted fill execution epoch nanoseconds are invalid.")
    let parsed ← parseTimestamp fill.filledAt "fill filledAt"
    throwIf (toString parsed ≠ executionEpochNs)
      (unverified "Persisted fill execution timestamp and epoch nanoseconds disagree.")
    .ok parsed

/-- A fill with its verified instant. -/
structure TimedFill where
  fill : FillRecord
  epochNanoseconds : ℤ

def timedFill (fill : FillRecord) : Except Thrown TimedFill := do
  let epochNanoseconds ← verifiedExchangeFillEpoch fill
  .ok ⟨fill, epochNanoseconds⟩

/-- By instant, then by id. -/
def TimedFill.le (left right : TimedFill) : Bool :=
  left.epochNanoseconds < right.epochNanoseconds ∨
    (left.epochNanoseconds = right.epochNanoseconds ∧ ¬ before right.fill.id left.fill.id)

/-- The three sums of the loop over the fills. -/
structure FillTotals where
  executedQuantity : ExactDecimal
  grossQuoteValueKrw : ExactDecimal
  confirmedFeeKrw : ExactDecimal

def FillTotals.zero : FillTotals := ⟨⟨0, 0⟩, ⟨0, 0⟩, ⟨0, 0⟩⟩

def FillTotals.add (totals : FillTotals) (price volume fee : ExactDecimal) : FillTotals where
  executedQuantity := addExactDecimals totals.executedQuantity volume
  grossQuoteValueKrw :=
    addExactDecimals totals.grossQuoteValueKrw (multiplyExactDecimals price volume)
  confirmedFeeKrw := addExactDecimals totals.confirmedFeeKrw fee

/-- One round of the loop. -/
def addFill (order : OrderRecord) (decision : VerifiedDecision) (totals : FillTotals)
    (timed : TimedFill) : Except Thrown FillTotals := do
  let fill := timed.fill
  throwFault (fill.orderId ≠ order.id ∨ fill.market ≠ order.market ∨ fill.side ≠ order.side)
    "FILL_ORDER_MISMATCH" "Persisted fill does not match terminal order identity."
  throwFault (timed.epochNanoseconds < decision.requestedAt) "FILL_TIMESTAMP_INVALID"
    "Persisted fill precedes the terminal order request."
  throwFault (timed.epochNanoseconds ≤ decision.bindingCreatedAt) "FILL_TIMESTAMP_INVALID"
    "Persisted fill does not occur strictly after candidate binding creation."
  throwFault (fill.feeCurrency ≠ some "KRW" ∨ fill.feeAmount = none ∨
      fill.feeProvenance ≠ some .exchangeFillConfirmed)
    "UNVERIFIED_FEE_PROVENANCE" "Every terminal fill requires a confirmed per-fill KRW fee source."
  let volume ← call (parseCanonicalNonNegativeDecimal (.text fill.volume) "fill volume")
  let price ← call (parseCanonicalNonNegativeDecimal (.text fill.price) "fill price")
  let fee ← call (parseCanonicalNonNegativeDecimal (.text (fill.feeAmount.getD ""))
    "fill feeAmount")
  throwFault (volume.coefficient = 0 ∨ price.coefficient = 0) "DECIMAL_INVALID"
    "Terminal fill volume and price must be positive."
  .ok (totals.add price volume fee)

def checkQuantity (order : OrderRecord) (executedQuantity : ExactDecimal) : Except Thrown Unit :=
  match order.volume with
  | none => .ok ()
  | some volume => do
    let requestedQuantity ← call (parseCanonicalNonNegativeDecimal (.text volume) "order volume")
    throwFault (0 < compareExactDecimals executedQuantity requestedQuantity)
      "ORDER_QUANTITY_INVALID" "Terminal fills exceed persisted order quantity."

def checkBudget (order : OrderRecord) (grossQuoteValueKrw : ExactDecimal) : Except Thrown Unit :=
  if order.side = .bid ∧ order.ordType = .price then do
    let quoteBudget ←
      call (parseCanonicalNonNegativeDecimal (.text (order.price.getD "")) "order price")
    throwFault (0 < compareExactDecimals grossQuoteValueKrw quoteBudget)
      "ORDER_QUANTITY_INVALID" "Terminal bid fills exceed persisted quote budget."
  else .ok ()

def aggregateTerminalFills (order : OrderRecord) (decision : VerifiedDecision)
    (fills : List FillRecord) : Except Thrown TerminalFillAggregate := do
  let timed ← fills.mapM timedFill
  let ordered := timed.insertionSort fun left right => left.le right
  let totals ← ordered.foldlM (addFill order decision) .zero
  throwFault (totals.executedQuantity.coefficient = 0) "TERMINAL_FILL_ZERO"
    "Terminal order contains only zero fills."
  checkQuantity order totals.executedQuantity
  checkBudget order totals.grossQuoteValueKrw
  .ok { executedAt := (ordered.getLast?.map fun latest => latest.fill.filledAt).getD ""
        executedQuantity := formatExactDecimal totals.executedQuantity
        grossQuoteValueKrw := formatExactDecimal totals.grossQuoteValueKrw
        confirmedFeeKrw := formatExactDecimal totals.confirmedFeeKrw }

end AutoTrade.Execution.CandidateEvidence
