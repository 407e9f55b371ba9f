import AutoTrade.Execution.Records

/-! # The execution service: computations

The functions of `execution-service.ts` and `idempotency.ts` that await nothing. -/

namespace AutoTrade.Execution.Helpers

open Lib.Text Domain.Types Domain.PilotTypes
open Db.LeaseStore Execution.Records

variable {Num : Type}

/-! ### Keys of an order -/

/-- The fields of a key, joined by a bar. -/
def joined (fields : List String) : String := String.intercalate "|" fields

/-- The same request has the same key. -/
def buildOrderIdempotencyKey (lib : Library Num) (input : SubmitOrderFromDecisionInput Num)
    (market : SupportedMarket) : String :=
  lib.sha256Hex (joined [input.exchangeAccountId, input.strategyDecisionId.getD "manual",
    market.text, input.side.text, input.ordType.text, input.price.getD "null",
    input.volume.getD "null"])

/-- The identifier names the market, the side and a fingerprint. -/
def buildOrderIdentifier (lib : Library Num) (market : SupportedMarket) (side : OrderSide)
    (strategyDecisionId : Option String) (requestedAt : String) : String :=
  let timestamp := String.ofList (requestedAt.toList.filter fun c =>
    !(c ∈ ['-', ':', '.', 'T', 'Z']))
  let fingerprint := lib.sha256Hex (joined [market.text, side.text,
    strategyDecisionId.getD "manual", timestamp])
  market.text ++ "-" ++ side.text ++ "-" ++ String.ofList (fingerprint.toList.take 12)

/-! ### Execution authority -/

/-- `ExecutionAuthorityTuple`. -/
structure ExecutionAuthority where
  executionMode : ExecutionMode
  liveExecutionGate : LiveExecutionGate
  deriving DecidableEq

/-- The authority that the state stands for. -/
def selectExecutionAuthority (state : ExecutionStateRecord) : ExecutionAuthority :=
  ⟨state.executionMode, state.liveExecutionGate⟩

/-- The live adapter takes a live and enabled authority, the other one any other. -/
def executionAdapterAcceptsAuthority (sendPath : SendPath) (authority : ExecutionAuthority) :
    Bool :=
  let fullyLive := authority = ⟨.live, .enabled⟩
  match sendPath with
  | .liveAdapter => fullyLive
  | .dryRunAdapter => !fullyLive

/-- The mode that an order of the adapter records. -/
def executionModeForAdapter : SendPath → ExecutionMode
  | .liveAdapter => .live
  | .dryRunAdapter => .dryRun

/-- Who its events come from. -/
def eventSourceForAdapter : SendPath → OrderEventSource
  | .liveAdapter => .exchange
  | .dryRunAdapter => .local

/-- The policy that the risk checks apply. -/
def composeExecutionPolicy (state : ExecutionStateRecord) (limits : ExecutionRiskLimits Num)
    (sendPath : SendPath) : ExecutionPolicy Num where
  executionMode := executionModeForAdapter sendPath
  liveExecutionGate := if sendPath = .liveAdapter then .enabled else .disabled
  globalKillSwitch := state.killSwitchActive
  limits := limits

/-! ### Amounts -/

/-- Price times volume, if both are given. -/
def deriveRequestedNotionalKrw (lib : Library Num) (decision : StrategyDecision Num)
    (price volume : Option String) : Option Num :=
  let fromPrice := if truthy price then
      let priceNumber := lib.number (price.getD "")
      if lib.isFinite priceNumber then some priceNumber else none
    else none
  let fromVolume := if truthy volume ∧ lib.isFinite (lib.number (volume.getD "")) ∧
      lib.isFinite decision.referencePrice then
      some (lib.mul decision.referencePrice (lib.number (volume.getD "")))
    else fromPrice
  if truthy price ∧ truthy volume ∧ lib.isFinite (lib.number (price.getD "")) ∧
      lib.isFinite (lib.number (volume.getD "")) then
    some (lib.mul (lib.number (price.getD "")) (lib.number (volume.getD "")))
  else fromVolume

/-- That of the decision goes first. -/
def requestedNotionalKrw (lib : Library Num) (input : SubmitOrderFromDecisionInput Num) :
    Option Num :=
  match input.decision.requestedNotionalKrw with
  | some notional => some notional
  | none => deriveRequestedNotionalKrw lib input.decision input.price input.volume

/-- That of the decision goes first. -/
def requestedQuantity (lib : Library Num) (input : SubmitOrderFromDecisionInput Num) :
    Option Num :=
  match input.decision.requestedQuantity with
  | some quantity => some quantity
  | none => if truthy input.volume then some (lib.number (input.volume.getD "")) else none

/-! ### Leases -/

/-- From when to when a lease is asked for. -/
structure LeaseWindow where
  atEpochMs : ℤ
  expiresAtEpochMs : ℤ

/-- What the window is for, which its errors name. -/
inductive LeaseOperation
  | acquisition
  | renewal
  deriving DecidableEq

def LeaseOperation.text : LeaseOperation → String
  | acquisition => "acquisition"
  | renewal => "renewal"

/-- Its bounds are safe integers, or the call throws. -/
def leaseWindow (deps : Dependencies Num) (timestamp : String) (operation : LeaseOperation) :
    Except Thrown LeaseWindow :=
  let duration := deps.accountExecutionLeaseMs
  match deps.library.dateParse timestamp with
  | some atEpochMs =>
    if isSafeInteger atEpochMs = false ∨ atEpochMs < 0 ∨ isSafeInteger duration = false ∨
        duration ≤ 0 then
      .error (.accountExecutionLease ("Account execution lease " ++ operation.text ++
        " requires positive safe integer timestamps and duration."))
    else if isSafeInteger (atEpochMs + duration) = false ∨ atEpochMs + duration ≤ atEpochMs then
      .error (.accountExecutionLease ("Account execution lease " ++ operation.text ++
        " expiry is unsafe."))
    else .ok ⟨atEpochMs, atEpochMs + duration⟩
  | none =>
    .error (.accountExecutionLease ("Account execution lease " ++ operation.text ++
      " requires positive safe integer timestamps and duration."))

/-- The store answered with a lease of the caller that has not expired. -/
def isOwnedLease (lease : Option AccountExecutionLeaseRecord) (account ownerToken : String)
    (atEpochMs : ℤ) : Bool :=
  lease.any fun lease =>
    lease.exchangeAccountId = account ∧ lease.ownerToken = ownerToken ∧
      isSafeInteger lease.acquiredAtEpochMs ∧ isSafeInteger lease.expiresAtEpochMs ∧
      lease.expiresAtEpochMs > atEpochMs

/-! ### The final scan -/

/-- `CANDIDATE_FINAL_ORDER_SCAN_LIMIT`. -/
def candidateFinalOrderScanLimit : ℕ := 100

/-- The loop over the blocking orders: whether the expected order and a competing one were seen. -/
def scanActiveOrders (expectedOrder : OrderRecord) (expectedOrderIsActive hasCompetingOrder : Bool) :
    List OrderRecord → Except String (Bool × Bool)
  | [] => .ok (expectedOrderIsActive, hasCompetingOrder)
  | activeOrder :: rest =>
    if activeOrder.id = expectedOrder.id then
      if expectedOrderIsActive ∨ activeOrder ≠ expectedOrder then
        .error "final persisted order scan is ambiguous or mutated"
      else scanActiveOrders expectedOrder true hasCompetingOrder rest
    else scanActiveOrders expectedOrder expectedOrderIsActive true rest

/-- Only the expected order blocks, and it is stored as expected. -/
def assertFinalPersistedSubmissionAuthority (expectedOrder : OrderRecord)
    (activeOrders : List OrderRecord) (persistedOrder : Option OrderRecord) :
    Except String Unit :=
  if activeOrders.length > candidateFinalOrderScanLimit then
    .error "final submission-blocking order scan exceeded its safety bound"
  else do
    let (expectedOrderIsActive, hasCompetingOrder) ←
      scanActiveOrders expectedOrder false false activeOrders
    if hasCompetingOrder ∨ expectedOrderIsActive = false ∨ persistedOrder ≠ some expectedOrder ∨
        expectedOrder.status ≠ .submitting then
      .error "final persisted SUBMITTING order authority changed"
    else .ok ()

/-! ### The response of the exchange -/

/-- Something was filled. -/
def hasExecutedVolume (lib : Library Num) (executedVolume : Option String) : Bool :=
  truthy executedVolume && lib.lt lib.zero (lib.number (executedVolume.getD ""))

/-- A canceled market buy that filled something is `FILLED`. -/
def mapExchangeOrderStatus (lib : Library Num) (snapshot : ExchangeOrderSnapshot) :
    OrderLifecycleStatus :=
  if snapshot.state = "done" then .filled
  else if snapshot.state = "cancel" then
    if snapshot.side = .bid ∧ snapshot.ordType = .price ∧
        hasExecutedVolume lib snapshot.executedVolume then .filled
    else .canceled
  else if hasExecutedVolume lib snapshot.executedVolume then .partiallyFilled
  else .open

/-- Nothing more will happen to the order. -/
def isTerminalOrderStatus (status : OrderLifecycleStatus) : Bool :=
  status = .filled ∨ status = .canceled ∨ status = .rejected

/-- The exchange knows the identifier already. -/
def isDuplicateIdentifierError (error : ExchangeOrderSubmissionError) : Bool :=
  [error.exchangeCode, error.exchangeName].any fun value =>
    value.any fun text => (trim text).toLower = "duplicate_identifier"

/-- The thrown value is an exchange's definitive rejection, and not of a duplicate identifier. -/
def isDefinitiveRejection : Thrown → Bool
  | .exchangeSubmission error =>
    error.kind = .definitiveRejection ∧ isDuplicateIdentifierError error = false
  | _ => false

/-- What is recorded of the error. -/
structure SubmissionErrorDescription where
  message : String
  metadata : ExchangeOrderSubmissionError

/-- `describeSubmissionError`; the metadata of another error is that of an uncertain outcome. -/
def describeSubmissionError : Thrown → SubmissionErrorDescription
  | .exchangeSubmission error => ⟨error.message, error⟩
  | _ => ⟨"Order submission outcome is uncertain and requires reconciliation.",
      ⟨.uncertain, none, none, none, false⟩⟩

/-- The fields of the metadata as JSON. -/
def metadataFields (metadata : ExchangeOrderSubmissionError) : List (String × String) :=
  [("kind", jsonString (match metadata.kind with
      | .definitiveRejection => "DEFINITIVE_REJECTION"
      | .uncertain => "UNCERTAIN")),
    ("status", (metadata.status.map toString).getD "null"),
    ("exchangeCode", jsonNullable metadata.exchangeCode),
    ("exchangeName", jsonNullable metadata.exchangeName),
    ("responseReceived", if metadata.responseReceived then "true" else "false")]

/-- When a fill happened, and how that is known. -/
structure FillTimestamp where
  provenance : FillExecutionTimestampProvenance
  epochNanoseconds : Option String
  filledAt : String

/-- A time that cannot be read is unverified. -/
def directExchangeFillTimestamp (lib : Library Num) : Option String → FillTimestamp
  | none => ⟨.legacyUnverified, none, ""⟩
  | some createdAt =>
    match lib.parseCandidateEvidenceTimestamp createdAt with
    | .ok epochNs => ⟨.exchangeFillConfirmed, some (toString epochNs), createdAt⟩
    | .error _ => ⟨.legacyUnverified, none, createdAt⟩

/-- The volume that the amount buys. -/
def deriveDryRunVolume (lib : Library Num) (notional : Option Num) (referencePrice : Num) :
    Option String :=
  match notional with
  | some notional =>
    if lib.isFinite notional = false ∨ lib.le notional lib.zero ∨
        lib.isFinite referencePrice = false ∨ lib.le referencePrice lib.zero then none
    else some (lib.dryRunVolume notional referencePrice)
  | none => none

/-- The price and the volume of the simulated fill, when there is one. -/
def dryRunFillTerms (lib : Library Num) (input : SubmitOrderFromDecisionInput Num) :
    Option (String × String) :=
  let price := if input.ordType = .price then lib.numberText input.decision.referencePrice
    else input.price.getD (lib.numberText input.decision.referencePrice)
  let volume := match input.volume with
    | some volume => some volume
    | none => deriveDryRunVolume lib (requestedNotionalKrw lib input) input.decision.referencePrice
  if truthy volume = false ∨ lib.le (lib.number (volume.getD "")) lib.zero ∨
      lib.le (lib.number price) lib.zero then none
  else some (price, volume.getD "")

/-- The status a response of the adapter results in: the one it maps to, or, for the dry-run
adapter, `FILLED` when the exchange or the simulation gives a fill. -/
def resultingStatus (deps : Dependencies Num) (input : SubmitOrderFromDecisionInput Num)
    (snapshot : ExchangeOrderSnapshot) : OrderLifecycleStatus :=
  match deps.sendPath with
  | .liveAdapter => mapExchangeOrderStatus deps.library snapshot
  | .dryRunAdapter =>
    if snapshot.fills ≠ [] ∨ (dryRunFillTerms deps.library input).isSome then .filled
    else .submitting

/-! ### Candidate routes -/

/-- What a candidate order is submitted under. -/
structure CandidateContext where
  authority : CandidateExecutionAuthority
  decision : StrategyDecisionRecord

/-- The amount as its order text. -/
def nullableDecisionNotionalString (lib : Library Num) (decision : StrategyDecision Num) :
    Except String (Option String) :=
  match decision.requestedNotionalKrw with
  | none => .ok none
  | some notional =>
    (lib.serializeUpbitOrderDecimal notional "candidate market-buy quote").map some

/-- The stored order is the one the decision asks for. -/
def matchesCandidateDuplicateOrder (order : OrderRecord) (decision : StrategyDecisionRecord)
    (idempotencyKey : String) : Bool :=
  order.exchangeAccountId = decision.exchangeAccountId ∧
    order.strategyDecisionId = some decision.id ∧ order.market = decision.market ∧
    order.origin = .strategy ∧ order.idempotencyKey = idempotencyKey ∧
    isBlank order.identifier = false ∧ order.createdAt = order.requestedAt ∧
    (if decision.action = .enter ∨ decision.action = .add then
      order.side = .bid ∧ order.ordType = .price ∧ order.price = decision.intendedNotionalKrw ∧
        order.volume = none
    else
      order.side = .ask ∧ order.ordType = .market ∧ order.price = none ∧
        order.volume = decision.intendedQuantity) ∧
    order.timeInForce = none ∧ order.smpType = none

/-- The stored binding ties that order to the decision. -/
def matchesCandidateDuplicateBinding (lib : Library Num) (binding : CandidateExecutionBindingRecord)
    (order : OrderRecord) (context : CandidateContext) : Bool :=
  let expectedRequestedAt := do
    let createdAt ← lib.parseCandidateEvidenceTimestamp binding.createdAt
    lib.formatCanonicalUtcIsoNanoseconds (createdAt + 1)
  match expectedRequestedAt with
  | .error _ => false
  | .ok requestedAt =>
    binding.deploymentId = context.authority.deploymentId ∧
      binding.strategyDecisionId = context.decision.id ∧ binding.orderId = order.id ∧
      binding.exchangeAccountId = context.authority.exchangeAccountId ∧
      binding.activationAt = context.authority.activationAt ∧
      binding.activationEpochNs = context.authority.activationEpochNs ∧
      binding.executionMode = order.executionMode ∧ binding.ordType = order.ordType ∧
      binding.action = context.decision.action ∧ binding.side = order.side ∧
      binding.intendedQuantity = context.decision.intendedQuantity ∧
      binding.intendedNotionalKrw = context.decision.intendedNotionalKrw ∧
      binding.boundPrice = order.price ∧ binding.boundVolume = order.volume ∧
      binding.boundTimeInForce = order.timeInForce ∧ binding.boundSmpType = order.smpType ∧
      order.requestedAt = requestedAt

/-- The deployment is as the authority expects it. -/
def matchesCandidateDuplicateDeployment (deployment : PositionGuardPilotDeploymentRecord)
    (exactStateVersion : ℕ) (authority : CandidateExecutionAuthority) : Bool :=
  deployment.id = authority.deploymentId ∧
    deployment.exchangeAccountId = authority.exchangeAccountId ∧
    deployment.phase = authority.expectedPhase ∧
    deployment.updatedAt = authority.expectedDeploymentUpdatedAt ∧
    deployment.activationAt = some authority.activationAt ∧
    deployment.activationEpochNs = some authority.activationEpochNs ∧
    exactStateVersion = authority.expectedStateVersion

/-- The event that the intent was stored with. -/
def matchesCandidateDuplicatePersistedEvent (lib : Library Num) (event : OrderEventRecord)
    (order : OrderRecord) (decision : StrategyDecisionRecord) : Bool :=
  event.orderId = order.id ∧ event.eventSource = .local ∧ event.createdAt = order.requestedAt ∧
    lib.persistedPayloadMatches event.payloadJson order.idempotencyKey decision.action

/-- No earlier than the activation and the last update. -/
def candidateFaultOccurredAt (lib : Library Num) (authority : CandidateExecutionAuthority)
    (attemptedAt : Option String) : Except String String := do
  let updatedAt ← lib.parseCandidateEvidenceTimestamp authority.expectedDeploymentUpdatedAt
  let minimumEpochNs := max authority.activationEpochNs updatedAt
  let fromAttempt := do
    let attemptedAt ← attemptedAt
    let attemptedEpochNs ← (lib.parseCandidateEvidenceTimestamp attemptedAt).toOption
    if attemptedEpochNs ≥ minimumEpochNs then
      (lib.formatCanonicalUtcIsoNanoseconds attemptedEpochNs).toOption
    else none
  match fromAttempt with
  | some text => .ok text
  | none => lib.formatCanonicalUtcIsoNanoseconds (minimumEpochNs + 1)

/-- The provenance of a candidate intent fault, as JSON. -/
def candidateIntentFaultProvenance (context : CandidateContext)
    (input : SubmitOrderFromDecisionInput Num) (orderId bindingId : String)
    (stage : CandidateIntentFaultStage) : String :=
  jsonRecord [("schemaVersion", jsonString "CANDIDATE_INTENT_FAULT_V1"),
    ("stage", jsonString stage.text),
    ("deploymentId", jsonString context.authority.deploymentId),
    ("exchangeAccountId", jsonString context.authority.exchangeAccountId),
    ("strategyDecisionId", jsonString context.decision.id), ("orderId", jsonString orderId),
    ("bindingId", jsonString bindingId), ("market", jsonString context.authority.market.text),
    ("action", jsonString context.decision.action.text), ("side", jsonString input.side.text),
    ("ordType", jsonString input.ordType.text), ("price", jsonNullable input.price),
    ("volume", jsonNullable input.volume),
    ("expectedPhase", jsonString context.authority.expectedPhase.text),
    ("expectedDeploymentUpdatedAt", jsonString context.authority.expectedDeploymentUpdatedAt),
    ("expectedStateVersion", toString context.authority.expectedStateVersion)]

end AutoTrade.Execution.Helpers
