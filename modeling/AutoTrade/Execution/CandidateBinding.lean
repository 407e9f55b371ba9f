import AutoTrade.Domain.TimestampText
import AutoTrade.Execution.OrderDecimals
import AutoTrade.Execution.Records

/-! # Candidate bindings

What has to hold before a candidate order is persisted: `candidate-execution-authority.ts`,
`candidate-bound-order-validation.ts` and the checks of deployments and bindings of
`pilot-interfaces.ts`. That a value is a record with exactly the declared keys holds by type, and so
do the checks of constants (pilot, market, policy and version of a deployment or binding).

`sha256Hex` is a parameter: the digest of a text as hexadecimal digits. -/

namespace AutoTrade.Execution.CandidateBinding

open Lib.Text Lib.Result Domain.Types Domain.PilotTypes
open Domain.Timestamp Db.LifecycleValidation Db.LeaseStore
open Execution.Records Execution.EvidenceDecimals
open Execution.OrderDecimals

/-! ### Texts -/

/-- `^[a-f0-9]{64}$`. -/
def isHexDigest (text : String) : Bool :=
  text.toList.length = 64 ∧
    text.toList.all fun c => c.isDigit ∨ (97 ≤ c.toNat ∧ c.toNat ≤ 102)

/-! ### Deployments and bindings -/

/-- The activation of a deployment, if it has one. -/
def validateActivation (deployment : PositionGuardPilotDeploymentRecord) : Except String Unit :=
  match deployment.activationAt, deployment.activationEpochNs with
  | none, none => .ok ()
  | some activationAt, some recorded => do
    let activationEpochNs ←
      parsePositionGuardCandidateTimestamp activationAt "deployment activationAt"
    throwIf (activationEpochNs < 0 ∨ activationEpochNs ≠ recorded)
      "Candidate pilot deployment activation epoch does not match its timestamp."
  | _, _ => .error
      "Candidate pilot deployment activation timestamp and epoch must be persisted together."

def validateCandidatePilotDeployment (deployment : PositionGuardPilotDeploymentRecord) :
    Except String Unit := do
  requireNonEmpty deployment.id "deployment id"
  requireNonEmpty deployment.exchangeAccountId "deployment exchangeAccountId"
  let createdAt ←
    parsePositionGuardCandidateTimestamp deployment.createdAt "deployment createdAt"
  let updatedAt ←
    parsePositionGuardCandidateTimestamp deployment.updatedAt "deployment updatedAt"
  throwIf (updatedAt < createdAt) "Candidate pilot deployment updatedAt cannot precede createdAt."
  validateActivation deployment
  throwIf ((deployment.phase = .active ∨ deployment.phase = .draining) ∧
      deployment.activationAt = none)
    "Active candidate pilot deployments require a persisted activation instant."

section Hash

variable (sha256Hex : String → String)

def candidateExecutionBindingMaterialHash (binding : CandidateExecutionBindingRecord) : String :=
  sha256Hex (jsonRecord [
    ("schemaVersion", "2"),
    ("materialVersion", jsonString "BINDING_V2"),
    ("id", jsonString binding.id),
    ("deploymentId", jsonString binding.deploymentId),
    ("strategyDecisionId", jsonString binding.strategyDecisionId),
    ("orderId", jsonString binding.orderId),
    ("exchangeAccountId", jsonString binding.exchangeAccountId),
    ("activationAt", jsonString binding.activationAt),
    ("activationEpochNs", jsonString (toString binding.activationEpochNs)),
    ("market", jsonString "KRW-BTC"),
    ("strategyKey", jsonString "position_guard.paper_core.v1"),
    ("policyId", jsonString "COMBINED_CONSERVATIVE"),
    ("policyVersion", jsonString "PCS-2026-001.DEPLOYMENT_READINESS_V1"),
    ("executionMode", jsonString binding.executionMode.text),
    ("ordType", jsonString binding.ordType.text),
    ("action", jsonString binding.action.text),
    ("side", jsonString binding.side.text),
    ("intendedQuantity", jsonNullable binding.intendedQuantity),
    ("intendedNotionalKrw", jsonNullable binding.intendedNotionalKrw),
    ("boundPrice", jsonNullable binding.boundPrice),
    ("boundVolume", jsonNullable binding.boundVolume),
    ("boundTimeInForce", jsonNullable (binding.boundTimeInForce.map TimeInForce.text)),
    ("boundSmpType", jsonNullable (binding.boundSmpType.map UpbitSelfMatchPrevention.text)),
    ("createdAt", jsonString binding.createdAt)])

/-- A decimal of a binding is read by the canonical grammar. -/
def requireOptionalDecimal (value : Option String) (label : String) : Except String Unit :=
  match value with
  | none => .ok ()
  | some text => do
    let _ ← canonicalNonNegativeDecimal (.text text) label
    .ok ()

def validateCandidateExecutionBinding (binding : CandidateExecutionBindingRecord) :
    Except String Unit := do
  requireNonEmpty binding.id "candidate execution binding identity"
  requireNonEmpty binding.deploymentId "candidate execution binding identity"
  requireNonEmpty binding.strategyDecisionId "candidate execution binding identity"
  requireNonEmpty binding.orderId "candidate execution binding identity"
  requireNonEmpty binding.exchangeAccountId "candidate execution binding identity"
  throwIf (binding.action = .hold)
    "Candidate execution binding has an invalid persisted provenance identity."
  let activationEpochNs ←
    parsePositionGuardCandidateTimestamp binding.activationAt "binding activationAt"
  throwIf (activationEpochNs < 0 ∨ activationEpochNs ≠ binding.activationEpochNs)
    "Candidate execution binding activation epoch does not match its timestamp."
  let createdAt ← parsePositionGuardCandidateTimestamp binding.createdAt "binding createdAt"
  requireOptionalDecimal binding.intendedQuantity "binding intendedQuantity"
  requireOptionalDecimal binding.intendedNotionalKrw "binding intendedNotionalKrw"
  requireOptionalDecimal binding.boundPrice "binding boundPrice"
  requireOptionalDecimal binding.boundVolume "binding boundVolume"
  throwIf (isHexDigest binding.orderMaterialHash = false)
    "Candidate execution binding material version or hash is invalid."
  throwIf (createdAt ≤ activationEpochNs)
    "Candidate execution binding must be created after its activation instant."
  throwIf (candidateExecutionBindingMaterialHash sha256Hex binding ≠ binding.orderMaterialHash)
    "Candidate execution binding material hash does not match its persisted shape."

end Hash

/-! ### The bound intent -/

structure PersistCandidateBoundOrderIntentInput where
  order : OrderRecord
  event : OrderEventRecord
  binding : CandidateExecutionBindingRecord
  decision : StrategyDecisionRecord
  deployment : PositionGuardPilotDeploymentRecord
  exactStateVersion : ℕ
  expectedPhase : PositionGuardPilotPhase
  expectedDeploymentUpdatedAt : String
  expectedStateVersion : ℕ

def validateStateVersion (value : ℕ) (label : String) : Except String Unit :=
  throwIf (isSafeInteger value = false)
    ("Candidate-bound " ++ label ++ " must be a non-negative safe integer.")

/-- The text is its own canonical form. -/
def validateOptionalDecimal (value : Option String) (label : String) : Except String Unit :=
  match value with
  | none => .ok ()
  | some text => do
    let canonical ← canonicalNonNegativeDecimal (.text text) label
    throwIf (canonical ≠ text) (label ++ " must be canonical.")

def validatePositiveDecimal (value label : String) : Except String Unit := do
  let canonical ← canonicalNonNegativeDecimal (.text value) (label ++ " value")
  throwIf (canonical ≠ value ∨ canonical = "0")
    (label ++ " requires a canonical positive decimal.")

def isEntry (action : StrategyDecisionAction) : Bool := action = .enter ∨ action = .add

def expectedSide (action : StrategyDecisionAction) : OrderSide :=
  if isEntry action then .bid else .ask

/-- The amount of the side that is traded, on the decision and on the order. -/
def validateAmounts (decision : StrategyDecisionRecord) (order : OrderRecord) : Except String Unit :=
  if expectedSide decision.action = .bid then
    throwIf (decision.intendedNotionalKrw = none ∨ order.price ≠ decision.intendedNotionalKrw)
      "Candidate entry order does not match its intended notional."
  else
    throwIf (decision.intendedQuantity = none ∨ order.volume ≠ decision.intendedQuantity)
      "Candidate exit order does not match its intended quantity."

def validateDecision (decision : StrategyDecisionRecord) (order : OrderRecord)
    (binding : CandidateExecutionBindingRecord) : Except String Unit := do
  throwIf (isBlank decision.id = true ∨ decision.status ≠ .ready ∨
      decision.strategyKey ≠ "position_guard.paper_core.v1" ∨ decision.market ≠ .krwBtc ∨
      decision.action = .hold ∨ some decision.id ≠ order.strategyDecisionId ∨
      decision.id ≠ binding.strategyDecisionId ∨
      decision.exchangeAccountId ≠ order.exchangeAccountId ∨
      decision.exchangeAccountId ≠ binding.exchangeAccountId ∨ decision.market ≠ order.market ∨
      decision.action ≠ binding.action ∨ decision.intendedQuantity ≠ binding.intendedQuantity ∨
      decision.intendedNotionalKrw ≠ binding.intendedNotionalKrw)
    "Candidate-bound order intent does not match its persisted READY strategy decision."
  validateOptionalDecimal decision.intendedQuantity "decision intendedQuantity"
  validateOptionalDecimal decision.intendedNotionalKrw "decision intendedNotionalKrw"
  validateOptionalDecimal decision.referencePrice "decision referencePrice"
  let decisionCreatedAt ←
    parsePositionGuardCandidateTimestamp decision.createdAt "candidate-bound decision createdAt"
  let bindingCreatedAt ←
    parsePositionGuardCandidateTimestamp binding.createdAt "candidate-bound binding createdAt"
  let requestedAt ←
    parsePositionGuardCandidateTimestamp order.requestedAt "candidate-bound order requestedAt"
  throwIf (bindingCreatedAt < decisionCreatedAt ∨ requestedAt ≤ bindingCreatedAt)
    "Candidate decision and binding chronology must satisfy decision <= binding < request."
  throwIf (order.side ≠ expectedSide decision.action ∨ binding.side ≠ expectedSide decision.action)
    "Candidate-bound order side does not match its strategy action."
  validateAmounts decision order

def validateDeployment (input : PersistCandidateBoundOrderIntentInput) : Except String Unit :=
  throwIf (input.deployment.id ≠ input.binding.deploymentId ∨
      input.deployment.exchangeAccountId ≠ input.binding.exchangeAccountId ∨
      input.deployment.phase ≠ input.expectedPhase ∨
      input.deployment.updatedAt ≠ input.expectedDeploymentUpdatedAt ∨
      input.deployment.activationAt ≠ some input.binding.activationAt ∨
      input.deployment.activationEpochNs ≠ some input.binding.activationEpochNs)
    "Candidate-bound order intent does not match its persisted deployment authority."

def validateOrderBinding (order : OrderRecord) (binding : CandidateExecutionBindingRecord) :
    Except String Unit := do
  throwIf (order.id ≠ binding.orderId ∨ order.exchangeAccountId ≠ binding.exchangeAccountId ∨
      order.market ≠ .krwBtc ∨ order.executionMode ≠ binding.executionMode ∨
      order.ordType ≠ binding.ordType ∨ order.side ≠ binding.side ∨
      order.price ≠ binding.boundPrice ∨ order.volume ≠ binding.boundVolume ∨
      order.timeInForce ≠ binding.boundTimeInForce ∨ order.smpType ≠ binding.boundSmpType)
    "Candidate execution binding does not match immutable order material."
  validateOptionalDecimal order.price "order price"
  validateOptionalDecimal order.volume "order volume"

/-- The shape of an entry. -/
def validateEntryShape (decision : StrategyDecisionRecord) (order : OrderRecord) :
    Except String Unit :=
  match order.price with
  | none => .error "Candidate entry order shape is invalid."
  | some price => do
    throwIf (order.side ≠ .bid ∨ order.ordType ≠ .price ∨
        some price ≠ decision.intendedNotionalKrw ∨ decision.intendedQuantity ≠ none ∨
        order.volume ≠ none ∨ order.timeInForce ≠ none ∨ order.smpType ≠ none)
      "Candidate entry order shape is invalid."
    validatePositiveDecimal price "Candidate entry order shape"

/-- The shape of a reduction or an exit. -/
def validateExitShape (decision : StrategyDecisionRecord) (order : OrderRecord) :
    Except String Unit :=
  match order.volume with
  | none => .error "Candidate exit order shape is invalid."
  | some volume => do
    throwIf (order.side ≠ .ask ∨ order.ordType ≠ .market ∨ decision.intendedNotionalKrw ≠ none ∨
        order.price ≠ none ∨ some volume ≠ decision.intendedQuantity ∨ order.timeInForce ≠ none ∨
        order.smpType ≠ none)
      "Candidate exit order shape is invalid."
    validatePositiveDecimal volume "Candidate exit order shape"

def validateCandidateOrderShape (phase : PositionGuardPilotPhase) (decision : StrategyDecisionRecord)
    (order : OrderRecord) : Except String Unit := do
  throwIf (phase = .draining ∧ isEntry decision.action = true)
    "DRAINING candidate deployments allow only REDUCE or EXIT orders."
  if isEntry decision.action then validateEntryShape decision order
  else validateExitShape decision order

def validateImmutableRequest (order : OrderRecord) (event : OrderEventRecord)
    (binding : CandidateExecutionBindingRecord) : Except String Unit := do
  throwIf (order.origin ≠ .strategy ∨ order.upbitUuid ≠ none ∨ order.exchangeResponseJson ≠ none ∨
      order.failureCode ≠ none ∨ order.failureMessage ≠ none)
    "Candidate-bound order intent must be a pristine local strategy order."
  throwIf (order.requestedAt ≠ order.createdAt ∨ order.requestedAt ≠ order.updatedAt ∨
      event.createdAt ≠ order.requestedAt)
    "Candidate-bound order timestamps must share the immutable request instant."
  let bindingCreatedAt ← parsePositionGuardCandidateTimestamp binding.createdAt "binding createdAt"
  let requestedAt ← parsePositionGuardCandidateTimestamp order.requestedAt "order requestedAt"
  throwIf (requestedAt ≠ bindingCreatedAt + 1)
    "Candidate order requestedAt must be the exact nanosecond successor of binding createdAt."

def validateCandidateBoundOrderIntent (sha256Hex : String → String)
    (input : PersistCandidateBoundOrderIntentInput) : Except String Unit := do
  validateOrderIntentInput ⟨input.order, input.event⟩
  validateCandidateExecutionBinding sha256Hex input.binding
  validateCandidatePilotDeployment input.deployment
  validateStateVersion input.exactStateVersion "exact state version"
  validateStateVersion input.expectedStateVersion "expected state version"
  throwIf (input.exactStateVersion ≠ input.expectedStateVersion)
    "Candidate-bound order intent exact state version has changed."
  throwIf (input.expectedPhase ≠ .active ∧ input.expectedPhase ≠ .draining)
    "Candidate-bound order intent expected deployment phase is invalid."
  let _ ← parsePositionGuardCandidateTimestamp input.expectedDeploymentUpdatedAt
    "candidate-bound expected deployment updatedAt"
  validateDecision input.decision input.order input.binding
  validateDeployment input
  validateOrderBinding input.order input.binding
  validateCandidateOrderShape input.expectedPhase input.decision input.order
  validateImmutableRequest input.order input.event input.binding

/-! ### The authority -/

/-- `requireNonEmpty` of `candidate-execution-authority.ts`. -/
def requireAuthorityText (value label : String) : Except String Unit :=
  throwIf (isBlank value = true)
    ("Candidate execution authority " ++ label ++ " must be a non-empty string.")

def validateRouteReason (phase : PositionGuardPilotPhase) (routeReason : String) :
    Except String Unit :=
  match phase with
  | .active =>
    throwIf (routeReason ≠ "CANDIDATE_ALLOWED" ∧ routeReason ≠ "CANDIDATE_EARLY_THESIS_FAILURE")
      "ACTIVE candidate execution authority route reason is invalid."
  | .draining =>
    throwIf (routeReason ≠ "DRAINING_RISK_REDUCTION_PRESERVED")
      "DRAINING candidate execution authority route reason is invalid."
  | _ => .error "Candidate execution authority expected phase is invalid."

def validateCandidateExecutionAuthority (authority : CandidateExecutionAuthority) :
    Except String Unit := do
  requireAuthorityText authority.deploymentId "deploymentId"
  requireAuthorityText authority.exchangeAccountId "exchangeAccountId"
  let activationEpochNs ← parsePositionGuardCandidateTimestamp authority.activationAt
    "execution authority activationAt"
  throwIf (activationEpochNs < 0 ∨ activationEpochNs ≠ authority.activationEpochNs)
    "Candidate execution authority activation epoch does not match its timestamp."
  let deploymentUpdatedAt ← parsePositionGuardCandidateTimestamp
    authority.expectedDeploymentUpdatedAt "execution authority expected deployment updatedAt"
  throwIf (deploymentUpdatedAt < activationEpochNs)
    "Candidate execution authority deployment chronology is invalid: updatedAt precedes activation."
  throwIf (isSafeInteger authority.expectedStateVersion = false)
    "Candidate execution authority expected state version must be a non-negative safe integer."
  validateRouteReason authority.expectedPhase authority.routeReason

def createCandidateExecutionAttemptTimestamps (activationEpochNs : ℤ) (bindingCreatedAt : String) :
    Except String CandidateExecutionAttemptTimestamps := do
  throwIf (activationEpochNs < 0)
    "Candidate execution activation epoch must be a non-negative bigint."
  let bindingEpochNs ←
    parsePositionGuardCandidateTimestamp bindingCreatedAt "execution binding createdAt"
  throwIf (bindingEpochNs < 0) "Candidate execution binding createdAt cannot be pre-epoch."
  throwIf (bindingEpochNs ≤ activationEpochNs)
    "Candidate execution binding createdAt must be after activation."
  let created ← formatCanonicalUtcIsoNanoseconds bindingEpochNs
  let requested ← formatCanonicalUtcIsoNanoseconds (bindingEpochNs + 1)
  .ok ⟨created, requested⟩

/-- The record that is hashed: it has no digest yet. -/
def bindingMaterial (authority : CandidateExecutionAuthority) (order : OrderRecord)
    (decision : StrategyDecisionRecord) (bindingId createdAt : String) :
    CandidateExecutionBindingRecord where
  id := bindingId
  deploymentId := authority.deploymentId
  strategyDecisionId := decision.id
  orderId := order.id
  exchangeAccountId := authority.exchangeAccountId
  activationAt := authority.activationAt
  activationEpochNs := authority.activationEpochNs
  executionMode := order.executionMode
  ordType := order.ordType
  action := decision.action
  side := order.side
  intendedQuantity := decision.intendedQuantity
  intendedNotionalKrw := decision.intendedNotionalKrw
  boundPrice := order.price
  boundVolume := order.volume
  boundTimeInForce := order.timeInForce
  boundSmpType := order.smpType
  orderMaterialHash := ""
  createdAt := createdAt

/-- The deployment that an authority stands for. -/
def authorityDeployment (authority : CandidateExecutionAuthority) :
    PositionGuardPilotDeploymentRecord where
  id := authority.deploymentId
  exchangeAccountId := authority.exchangeAccountId
  phase := authority.expectedPhase
  activationAt := some authority.activationAt
  activationEpochNs := some authority.activationEpochNs
  createdAt := authority.activationAt
  updatedAt := authority.expectedDeploymentUpdatedAt

/-- The event that stands in for the one that will be persisted. -/
def validationEvent (order : OrderRecord) (decision : StrategyDecisionRecord) (bindingId : String) :
    OrderEventRecord :=
  ⟨"candidate-binding-validation:" ++ bindingId, order.id, "ORDER_PERSISTED", .local,
    jsonObject [("decisionAction", decision.action.text)], order.requestedAt⟩

def deriveCandidateExecutionBinding (sha256Hex : String → String)
    (authority : CandidateExecutionAuthority) (order : OrderRecord)
    (decision : StrategyDecisionRecord) (bindingId createdAt : String) :
    Except String CandidateExecutionBindingRecord := do
  validateCandidateExecutionAuthority authority
  requireAuthorityText bindingId "bindingId"
  let timestamps ←
    createCandidateExecutionAttemptTimestamps authority.activationEpochNs createdAt
  throwIf (decision.action = .hold)
    "Candidate execution binding requires an executed strategy action."
  throwIf (authority.routeReason = "CANDIDATE_EARLY_THESIS_FAILURE" ∧ decision.action ≠ .exit)
    "Candidate early thesis failure authority permits only an EXIT action."
  throwIf (order.requestedAt ≠ timestamps.orderRequestedAt)
    "Candidate order requestedAt must be the exact canonical nanosecond successor."
  let material := bindingMaterial authority order decision bindingId timestamps.bindingCreatedAt
  let binding : CandidateExecutionBindingRecord :=
    { material with
      orderMaterialHash := candidateExecutionBindingMaterialHash sha256Hex material }
  validateCandidateExecutionBinding sha256Hex binding
  validateCandidateBoundOrderIntent sha256Hex
    { order, event := validationEvent order decision binding.id, binding, decision,
      deployment := authorityDeployment authority,
      exactStateVersion := authority.expectedStateVersion,
      expectedPhase := authority.expectedPhase,
      expectedDeploymentUpdatedAt := authority.expectedDeploymentUpdatedAt,
      expectedStateVersion := authority.expectedStateVersion }
  .ok binding

/-! ### What the checks accept -/

variable {value label : String}

theorem requireAuthorityText_eq_ok :
    requireAuthorityText value label = .ok () ↔ isBlank value = false := by
  simp [requireAuthorityText]

theorem requireOptionalDecimal_eq_ok {value : Option String} {label : String} :
    requireOptionalDecimal value label = .ok () ↔
      ∀ t ∈ value, isCanonicalNonNegative t.toList = true := by
  rcases value with _ | text
  · simp [requireOptionalDecimal]
  · simp only [requireOptionalDecimal, bind_eq_ok, canonicalNonNegative_eq_ok, and_true]
    constructor
    · rintro ⟨_, t, ht, hc, -⟩ _ ⟨⟩
      cases ht
      exact hc
    · intro h
      exact ⟨_, text, rfl, h text rfl, rfl⟩

theorem validateOptionalDecimal_eq_ok {value : Option String} {label : String} :
    validateOptionalDecimal value label = .ok () ↔
      ∀ t ∈ value, isCanonicalNonNegative t.toList = true := by
  rcases value with _ | text
  · simp [validateOptionalDecimal]
  · simp only [validateOptionalDecimal, bind_eq_ok, throwIf_eq_ok, not_not]
    constructor
    · rintro ⟨_, h, rfl⟩ _ ⟨⟩
      exact canonicalNonNegative_self.mp h
    · intro h
      exact ⟨text, canonicalNonNegative_self.mpr (h text rfl), rfl⟩

theorem validatePositiveDecimal_eq_ok :
    validatePositiveDecimal value label = .ok () ↔ IsCanonicalPositive value := by
  simp only [validatePositiveDecimal, bind_eq_ok, throwIf_eq_ok, not_or, not_not]
  constructor
  · rintro ⟨_, h, rfl, hne⟩
    exact ⟨canonicalNonNegative_self.mp h, hne⟩
  · rintro ⟨hc, hne⟩
    exact ⟨value, canonicalNonNegative_self.mpr hc, rfl, hne⟩

variable {activationEpochNs : ℤ}

theorem validateCandidatePilotDeployment_eq_ok {deployment : PositionGuardPilotDeploymentRecord}
    {activationAt : String} (hat : deployment.activationAt = some activationAt)
    (hepoch : deployment.activationEpochNs = some activationEpochNs) :
    validateCandidatePilotDeployment deployment = .ok () ↔
      isBlank deployment.id = false ∧ isBlank deployment.exchangeAccountId = false ∧
        IsCandidateTimestamp deployment.createdAt ∧ IsCandidateTimestamp deployment.updatedAt ∧
        instant deployment.createdAt ≤ instant deployment.updatedAt ∧
        IsCandidateTimestamp activationAt ∧ 0 ≤ instant activationAt ∧
        instant activationAt = activationEpochNs := by
  simp only [validateCandidatePilotDeployment, then_eq_ok, requireNonEmpty_eq_ok,
    parse_bind, throwIf_eq_ok, validateActivation, hat, hepoch, not_lt, not_or, not_not,
    reduceCtorEq, and_false, not_false_eq_true, and_true]

variable {binding : CandidateExecutionBindingRecord} {sha256Hex : String → String}

theorem validateCandidateExecutionBinding_eq_ok (hsha : ∀ text, isHexDigest (sha256Hex text) = true)
    (hhash : binding.orderMaterialHash = candidateExecutionBindingMaterialHash sha256Hex binding) :
    validateCandidateExecutionBinding sha256Hex binding = .ok () ↔
      isBlank binding.id = false ∧ isBlank binding.deploymentId = false ∧
        isBlank binding.strategyDecisionId = false ∧ isBlank binding.orderId = false ∧
        isBlank binding.exchangeAccountId = false ∧ binding.action ≠ .hold ∧
        IsCandidateTimestamp binding.activationAt ∧
        (0 ≤ instant binding.activationAt ∧ instant binding.activationAt = binding.activationEpochNs) ∧
        IsCandidateTimestamp binding.createdAt ∧
        (∀ t ∈ binding.intendedQuantity, isCanonicalNonNegative t.toList = true) ∧
        (∀ t ∈ binding.intendedNotionalKrw, isCanonicalNonNegative t.toList = true) ∧
        (∀ t ∈ binding.boundPrice, isCanonicalNonNegative t.toList = true) ∧
        (∀ t ∈ binding.boundVolume, isCanonicalNonNegative t.toList = true) ∧
        instant binding.activationAt < instant binding.createdAt := by
  have hdigest : isHexDigest binding.orderMaterialHash = true := by
    rw [hhash]
    exact hsha _
  simp only [validateCandidateExecutionBinding, then_eq_ok, requireNonEmpty_eq_ok,
    parse_bind, throwIf_eq_ok, requireOptionalDecimal_eq_ok, hdigest, ← hhash, not_or, not_lt,
    not_le, not_not, Bool.true_eq_false, not_false_eq_true, true_and, and_true, ne_eq]

variable {authority : CandidateExecutionAuthority}

theorem validateCandidateExecutionAuthority_eq_ok :
    validateCandidateExecutionAuthority authority = .ok () ↔
      isBlank authority.deploymentId = false ∧ isBlank authority.exchangeAccountId = false ∧
        IsCandidateTimestamp authority.activationAt ∧
        (0 ≤ instant authority.activationAt ∧
          instant authority.activationAt = authority.activationEpochNs) ∧
        IsCandidateTimestamp authority.expectedDeploymentUpdatedAt ∧
        instant authority.activationAt ≤ instant authority.expectedDeploymentUpdatedAt ∧
        isSafeInteger authority.expectedStateVersion = true ∧
        validateRouteReason authority.expectedPhase authority.routeReason = .ok () := by
  simp only [validateCandidateExecutionAuthority, then_eq_ok, requireAuthorityText_eq_ok,
    parse_bind, throwIf_eq_ok, not_or, not_lt, not_not, ne_eq, Bool.not_eq_false]

variable {timestamps : CandidateExecutionAttemptTimestamps} {createdAt : String}

theorem attemptTimestamps_eq_ok :
    createCandidateExecutionAttemptTimestamps activationEpochNs createdAt = .ok timestamps ↔
      0 ≤ activationEpochNs ∧ IsCandidateTimestamp createdAt ∧ 0 ≤ instant createdAt ∧
        activationEpochNs < instant createdAt ∧
        formatCanonicalUtcIsoNanoseconds (instant createdAt) = .ok timestamps.bindingCreatedAt ∧
        formatCanonicalUtcIsoNanoseconds (instant createdAt + 1) =
          .ok timestamps.orderRequestedAt := by
  simp only [createCandidateExecutionAttemptTimestamps, then_eq_ok, parse_bind,
    throwIf_eq_ok, not_lt, not_le]
  simp only [bind_eq_ok, Except.ok.injEq]
  constructor
  · rintro ⟨h0, hat, hpos, hafter, created, hc, requested, hr, rfl⟩
    exact ⟨h0, hat, hpos, hafter, hc, hr⟩
  · rintro ⟨h0, hat, hpos, hafter, hc, hr⟩
    exact ⟨h0, hat, hpos, hafter, _, hc, _, hr, rfl⟩

theorem lt_of_format_eq_ok {t : ℤ} {text : String}
    (h : formatCanonicalUtcIsoNanoseconds t = .ok text) : t < endOfFourDigitYears := by
  by_contra hlate
  obtain ⟨e, he⟩ := format_of_late (not_lt.mp hlate)
  rw [he] at h
  cases h

theorem exists_attemptTimestamps (h0 : 0 ≤ activationEpochNs) (hat : IsCandidateTimestamp createdAt)
    (hafter : activationEpochNs < instant createdAt)
    (hlt : instant createdAt + 1 < endOfFourDigitYears) : ∃ timestamps,
      createCandidateExecutionAttemptTimestamps activationEpochNs createdAt = .ok timestamps := by
  have hpos : 0 ≤ instant createdAt := by omega
  obtain ⟨created, hc, -, -⟩ := format_spec hpos (by omega)
  obtain ⟨requested, hr, -, -⟩ := format_spec (t := instant createdAt + 1) (by omega) hlt
  exact ⟨⟨created, requested⟩, attemptTimestamps_eq_ok.mpr ⟨h0, hat, hpos, hafter, hc, hr⟩⟩

section

variable
  (h : createCandidateExecutionAttemptTimestamps activationEpochNs createdAt = .ok timestamps)
include h

theorem attemptTimestamps_spec :
    instant createdAt + 1 < endOfFourDigitYears ∧
      IsCandidateTimestamp timestamps.bindingCreatedAt ∧
      instant timestamps.bindingCreatedAt = instant createdAt ∧
      IsCandidateTimestamp timestamps.orderRequestedAt ∧
      instant timestamps.orderRequestedAt = instant createdAt + 1 := by
  obtain ⟨-, -, hpos, -, hc, hr⟩ := attemptTimestamps_eq_ok.mp h
  have hlt := lt_of_format_eq_ok hr
  obtain ⟨created, hc', hcs, hci⟩ := format_spec hpos (by omega)
  obtain ⟨requested, hr', hrs, hri⟩ := format_spec (t := instant createdAt + 1) (by omega) hlt
  rw [hc', Except.ok.injEq] at hc
  rw [hr', Except.ok.injEq] at hr
  rw [← hc, ← hr]
  exact ⟨hlt, hcs, hci, hrs, hri⟩

theorem attemptTimestamps_again :
    createCandidateExecutionAttemptTimestamps activationEpochNs timestamps.bindingCreatedAt =
      .ok timestamps := by
  obtain ⟨-, hbs, hbi, -, -⟩ := attemptTimestamps_spec h
  rw [attemptTimestamps_eq_ok] at h ⊢
  rw [hbi]
  exact ⟨h.1, hbs, h.2.2⟩

end

/-! ### When a binding is derived -/

/-- The texts that a binding compares: the reference price, and the amount of the side traded. -/
structure CanonicalTexts (decision : StrategyDecisionRecord) (order : OrderRecord) : Prop where
  referencePrice : ∀ t ∈ decision.referencePrice, isCanonicalNonNegative t.toList = true
  entry : isEntry decision.action = true →
    ∃ price, order.price = some price ∧ decision.intendedNotionalKrw = some price ∧
      IsCanonicalPositive price
  exit : isEntry decision.action = false →
    ∃ volume, order.volume = some volume ∧ decision.intendedQuantity = some volume ∧
      IsCanonicalPositive volume

variable {decision : StrategyDecisionRecord} {order : OrderRecord}

theorem validateEntryShape_eq_ok :
    validateEntryShape decision order = .ok () ↔
      ∃ price, order.price = some price ∧ (order.side = .bid ∧ order.ordType = .price ∧
        some price = decision.intendedNotionalKrw ∧ decision.intendedQuantity = none ∧
        order.volume = none ∧ order.timeInForce = none ∧ order.smpType = none) ∧
        IsCanonicalPositive price := by
  unfold validateEntryShape
  rcases order.price with _ | price
  · simp
  · simp only [then_eq_ok, throwIf_eq_ok, validatePositiveDecimal_eq_ok, not_or, not_not,
      Option.some.injEq, exists_eq_left', ne_eq]

theorem validateExitShape_eq_ok :
    validateExitShape decision order = .ok () ↔
      ∃ volume, order.volume = some volume ∧ (order.side = .ask ∧ order.ordType = .market ∧
        decision.intendedNotionalKrw = none ∧ order.price = none ∧
        some volume = decision.intendedQuantity ∧ order.timeInForce = none ∧
        order.smpType = none) ∧ IsCanonicalPositive volume := by
  unfold validateExitShape
  rcases order.volume with _ | volume
  · simp
  · simp only [then_eq_ok, throwIf_eq_ok, validatePositiveDecimal_eq_ok, not_or, not_not,
      Option.some.injEq, exists_eq_left', ne_eq]

theorem canonicalTexts_of_intent {input : PersistCandidateBoundOrderIntentInput}
    (h : validateCandidateBoundOrderIntent sha256Hex input = .ok ()) :
    CanonicalTexts input.decision input.order := by
  simp only [validateCandidateBoundOrderIntent, then_eq_ok, parse_bind] at h
  obtain ⟨-, -, -, -, -, -, -, -, hdecision, -, -, hshape, -⟩ := h
  simp only [validateDecision, then_eq_ok, parse_bind, validateOptionalDecimal_eq_ok]
    at hdecision
  obtain ⟨-, -, -, hreference, -⟩ := hdecision
  rw [validateCandidateOrderShape, then_eq_ok] at hshape
  obtain ⟨-, hshape⟩ := hshape
  refine ⟨hreference, fun hentry => ?_, fun hexit => ?_⟩
  · rw [if_pos hentry, validateEntryShape_eq_ok] at hshape
    obtain ⟨price, hprice, ⟨-, -, hnotional, -⟩, hpositive⟩ := hshape
    exact ⟨price, hprice, hnotional.symm, hpositive⟩
  · rw [if_neg (by simp [hexit]), validateExitShape_eq_ok] at hshape
    obtain ⟨volume, hvolume, ⟨-, -, -, -, hquantity, -⟩, hpositive⟩ := hshape
    exact ⟨volume, hvolume, hquantity.symm, hpositive⟩

/-- **A derived binding has canonical texts.** -/
theorem canonicalTexts_of_derive {bindingId createdAt : String}
    (h : deriveCandidateExecutionBinding sha256Hex authority order decision bindingId createdAt =
      .ok binding) : CanonicalTexts decision order := by
  simp only [deriveCandidateExecutionBinding, then_eq_ok] at h
  obtain ⟨-, -, h⟩ := h
  obtain ⟨timestamps, -, h⟩ := bind_eq_ok.mp h
  simp only [then_eq_ok] at h
  obtain ⟨-, -, -, -, hintent, -⟩ := h
  exact canonicalTexts_of_intent hintent

/-- An order that was built for a decision under an authority: everything but the texts fits. -/
structure Fits (authority : CandidateExecutionAuthority) (order : OrderRecord)
    (decision : StrategyDecisionRecord) : Prop where
  decisionId : isBlank decision.id = false
  orderId : isBlank order.id = false
  ready : decision.status = .ready
  strategyKey : decision.strategyKey = "position_guard.paper_core.v1"
  market : decision.market = .krwBtc
  action : decision.action ≠ .hold
  earlyThesis : authority.routeReason = "CANDIDATE_EARLY_THESIS_FAILURE" → decision.action = .exit
  draining : authority.expectedPhase = .draining → isEntry decision.action = false
  strategyDecisionId : order.strategyDecisionId = some decision.id
  decisionAccount : decision.exchangeAccountId = authority.exchangeAccountId
  orderAccount : order.exchangeAccountId = authority.exchangeAccountId
  orderMarket : order.market = .krwBtc
  entry : isEntry decision.action = true → order.side = .bid ∧ order.ordType = .price ∧
    order.volume = none ∧ decision.intendedQuantity = none
  exit : isEntry decision.action = false → order.side = .ask ∧ order.ordType = .market ∧
    order.price = none ∧ decision.intendedNotionalKrw = none
  timeInForce : order.timeInForce = none
  smpType : order.smpType = none
  status : order.status = .persisted
  pristine : order.origin = .strategy ∧ order.upbitUuid = none ∧ order.exchangeResponseJson = none ∧
    order.failureCode = none ∧ order.failureMessage = none
  instants : order.requestedAt = order.createdAt ∧ order.requestedAt = order.updatedAt

section Fits

variable {authority : CandidateExecutionAuthority} {order : OrderRecord}
  {decision : StrategyDecisionRecord}

theorem CanonicalTexts.validateAmounts (htexts : CanonicalTexts decision order) :
    validateAmounts decision order = .ok () := by
  unfold CandidateBinding.validateAmounts expectedSide
  rcases hentry : isEntry decision.action with _ | _
  · obtain ⟨volume, hvolume, hquantity, -⟩ := htexts.exit hentry
    simp [hvolume, hquantity]
  · obtain ⟨price, hprice, hnotional, -⟩ := htexts.entry hentry
    simp [hprice, hnotional]

variable (hfits : Fits authority order decision)
include hfits

theorem Fits.side : order.side = expectedSide decision.action := by
  unfold expectedSide
  rcases hentry : isEntry decision.action with _ | _
  · exact (hfits.exit hentry).1
  · exact (hfits.entry hentry).1

variable (bindingId : String)

theorem Fits.validateEvent :
    validateOrderIntentInput ⟨order, validationEvent order decision bindingId⟩ = .ok () := by
  unfold validateOrderIntentInput validateOrderEvent
  rw [if_neg (by simp [hfits.status]), if_neg]
  rintro (h | h | h) <;> exact h rfl

theorem Fits.validateRequest (hcreated : IsCandidateTimestamp binding.createdAt)
    (hrequested : IsCandidateTimestamp order.requestedAt)
    (hnext : instant order.requestedAt = instant binding.createdAt + 1) :
    validateImmutableRequest order (validationEvent order decision bindingId) binding = .ok () := by
  have hinstant : (validationEvent order decision bindingId).createdAt = order.requestedAt := rfl
  simp only [validateImmutableRequest, then_eq_ok, parse_bind, throwIf_eq_ok, hinstant]
  refine ⟨?_, ?_, hcreated, hrequested, by simp [hnext]⟩
  · simp [hfits.pristine]
  · rintro (h | h | h)
    · exact h hfits.instants.1
    · exact h hfits.instants.2
    · exact h rfl

variable (htexts : CanonicalTexts decision order)
include htexts

theorem Fits.amounts :
    (∀ t ∈ decision.intendedQuantity, isCanonicalNonNegative t.toList = true) ∧
      (∀ t ∈ decision.intendedNotionalKrw, isCanonicalNonNegative t.toList = true) ∧
      (∀ t ∈ order.price, isCanonicalNonNegative t.toList = true) ∧
      (∀ t ∈ order.volume, isCanonicalNonNegative t.toList = true) := by
  rcases hentry : isEntry decision.action with _ | _
  · obtain ⟨-, -, hprice, hnotional⟩ := hfits.exit hentry
    obtain ⟨volume, hvolume, hquantity, hcanonical, -⟩ := htexts.exit hentry
    simp [hprice, hnotional, hvolume, hquantity, hcanonical]
  · obtain ⟨-, -, hvolume, hquantity⟩ := hfits.entry hentry
    obtain ⟨price, hprice, hnotional, hcanonical, -⟩ := htexts.entry hentry
    simp [hprice, hnotional, hvolume, hquantity, hcanonical]

theorem Fits.validateShape :
    validateCandidateOrderShape authority.expectedPhase decision order = .ok () := by
  rw [validateCandidateOrderShape, then_eq_ok, throwIf_eq_ok]
  refine ⟨fun hdraining => ?_, ?_⟩
  · have := hfits.draining hdraining.1
    rw [hdraining.2] at this
    cases this
  · rcases hentry : isEntry decision.action with _ | _
    · obtain ⟨hside, htype, hprice, hnotional⟩ := hfits.exit hentry
      obtain ⟨volume, hvolume, hquantity, hpositive⟩ := htexts.exit hentry
      rw [if_neg (by decide), validateExitShape_eq_ok]
      exact ⟨volume, hvolume, ⟨hside, htype, hnotional, hprice, hquantity.symm, hfits.timeInForce,
        hfits.smpType⟩, hpositive⟩
    · obtain ⟨hside, htype, hvolume, hquantity⟩ := hfits.entry hentry
      obtain ⟨price, hprice, hnotional, hpositive⟩ := htexts.entry hentry
      rw [if_pos rfl, validateEntryShape_eq_ok]
      exact ⟨price, hprice, ⟨hside, htype, hnotional.symm, hquantity, hvolume, hfits.timeInForce,
        hfits.smpType⟩, hpositive⟩

/-- **An order that fits its decision is bound when its texts are canonical.** -/
theorem Fits.derive {bindingId createdAt : String}
    (hsha : ∀ text, isHexDigest (sha256Hex text) = true)
    (hauthority : validateCandidateExecutionAuthority authority = .ok ())
    (hbinding : isBlank bindingId = false)
    (htimestamps : createCandidateExecutionAttemptTimestamps authority.activationEpochNs createdAt =
      .ok timestamps) (hrequested : order.requestedAt = timestamps.orderRequestedAt)
    (hcreated : IsCandidateTimestamp decision.createdAt)
    (hafter : instant decision.createdAt ≤ instant createdAt) :
    ∃ binding, deriveCandidateExecutionBinding sha256Hex authority order decision bindingId
      timestamps.bindingCreatedAt = .ok binding := by
  obtain ⟨hdeployment, haccount, hactivation, ⟨hnonneg, hepoch⟩, hupdated, hchronology, hsafe,
    hreason⟩ := validateCandidateExecutionAuthority_eq_ok.mp hauthority
  obtain ⟨-, hbs, hbi, hrs, hri⟩ := attemptTimestamps_spec htimestamps
  obtain ⟨-, -, -, hlater, -, -⟩ := attemptTimestamps_eq_ok.mp htimestamps
  obtain ⟨hquantity, hnotional, hprice, hvolume⟩ := hfits.amounts htexts
  set material := bindingMaterial authority order decision bindingId timestamps.bindingCreatedAt
    with hmaterial
  set binding : CandidateExecutionBindingRecord := { material with
    orderMaterialHash := candidateExecutionBindingMaterialHash sha256Hex material } with hb
  have hvalid : validateCandidateExecutionBinding sha256Hex binding = .ok () := by
    rw [validateCandidateExecutionBinding_eq_ok hsha rfl]
    exact ⟨hbinding, hdeployment, hfits.decisionId, hfits.orderId, haccount, hfits.action,
      hactivation, ⟨hnonneg, hepoch⟩, hbs, hquantity, hnotional, hprice, hvolume, by
        change instant authority.activationAt < instant timestamps.bindingCreatedAt
        omega⟩
  have hphase : authority.expectedPhase = .active ∨ authority.expectedPhase = .draining := by
    unfold validateRouteReason at hreason
    rcases hp : authority.expectedPhase <;> rw [hp] at hreason <;> simp at hreason ⊢
  have hdecision : validateDecision decision order binding = .ok () := by
    simp only [validateDecision, then_eq_ok, parse_bind, throwIf_eq_ok,
      validateOptionalDecimal_eq_ok]
    refine ⟨?_, hquantity, hnotional, htexts.referencePrice, hcreated, hbs, ?_, ?_, ?_,
      htexts.validateAmounts⟩
    · simp [hfits.decisionId, hfits.ready, hfits.strategyKey, hfits.market, hfits.action,
        hfits.strategyDecisionId, hfits.decisionAccount, hfits.orderAccount, hfits.orderMarket, hb,
        hmaterial, bindingMaterial]
    · rw [hrequested]
      exact hrs
    · change ¬ (instant timestamps.bindingCreatedAt < instant decision.createdAt ∨
        instant order.requestedAt ≤ instant timestamps.bindingCreatedAt)
      rw [hrequested]
      omega
    · change ¬ (order.side ≠ expectedSide decision.action ∨
        order.side ≠ expectedSide decision.action)
      simp [hfits.side]
  have hdeploymentOk : validateCandidatePilotDeployment (authorityDeployment authority) = .ok () := by
    rw [validateCandidatePilotDeployment_eq_ok rfl rfl]
    exact ⟨hdeployment, haccount, hactivation, hupdated, hchronology, hactivation, hnonneg, hepoch⟩
  refine ⟨binding, ?_⟩
  simp only [deriveCandidateExecutionBinding, then_eq_ok, hauthority,
    attemptTimestamps_again htimestamps, ok_bind, throwIf_eq_ok, requireAuthorityText_eq_ok, hbinding,
    true_and]
  refine ⟨hfits.action, ?_, ?_, hvalid, ?_, rfl⟩
  · rintro ⟨hearly, hexit⟩
    exact hexit (hfits.earlyThesis hearly)
  · simp [hrequested]
  · simp only [validateCandidateBoundOrderIntent, then_eq_ok, parse_bind]
    refine ⟨hfits.validateEvent _, hvalid, hdeploymentOk, ?_, ?_, ?_, ?_, hupdated, hdecision, ?_, ?_,
      hfits.validateShape htexts, ?_⟩
    · simp [validateStateVersion, hsafe]
    · simp [validateStateVersion, hsafe]
    · simp
    · rw [throwIf_eq_ok]
      rcases hphase with hp | hp <;> simp [hp]
    · simp [validateDeployment, authorityDeployment, bindingMaterial]
    · simp only [validateOrderBinding, then_eq_ok, throwIf_eq_ok, validateOptionalDecimal_eq_ok]
      refine ⟨?_, hprice, hvolume⟩
      simp [bindingMaterial, hfits.orderAccount, hfits.orderMarket]
    · refine hfits.validateRequest _ hbs ?_ ?_
      · rw [hrequested]
        exact hrs
      · change instant order.requestedAt = instant timestamps.bindingCreatedAt + 1
        rw [hrequested, hri, hbi]

end Fits

end AutoTrade.Execution.CandidateBinding
