import AutoTrade.Db.LeaseStore
import AutoTrade.Lib.Awaits

/-! # The execution service: records and dependencies

The inputs and results of `ExecutionService.submitOrderFromDecision`, the values it can throw, and
the operations it awaits with the answers they give.

JavaScript numbers are a type `Num`, and the functions that the service takes from other modules
(order decimals, risk guards, candidate validation, hashes, `Date.parse`) are the fields of a
`Library`: nothing that is proved about the service depends on what they compute. -/

namespace AutoTrade.Execution.Records

open Lib.Awaits Domain.Types Domain.PilotTypes
open Db.LifecycleValidation Db.OrderStore Db.LeaseStore

/-! ### Inputs and results -/

structure StrategyDecision (Num : Type) where
  strategyKey : String
  market : SupportedMarket
  action : StrategyDecisionAction
  referencePrice : Num
  requestedNotionalKrw : Option Num
  requestedQuantity : Option Num

/-- The fields with a single value (kind, pilot, market, strategy, policy) are left out. -/
structure CandidateExecutionAuthority where
  deploymentId : String
  exchangeAccountId : String
  activationAt : String
  activationEpochNs : ℤ
  expectedPhase : PositionGuardPilotPhase
  expectedDeploymentUpdatedAt : String
  expectedStateVersion : ℕ
  routeReason : String

/-- The only market and strategy a candidate authority can name. -/
def CandidateExecutionAuthority.market (_ : CandidateExecutionAuthority) : SupportedMarket :=
  .krwBtc

def CandidateExecutionAuthority.strategyKey (_ : CandidateExecutionAuthority) : String :=
  "position_guard.paper_core.v1"

structure SubmitOrderFromDecisionInput (Num : Type) where
  exchangeAccountId : String
  strategyDecisionId : Option String
  referencePriceCapturedAt : String
  decision : StrategyDecision Num
  side : OrderSide
  ordType : Domain.Types.OrderType
  price : Option String
  volume : Option String
  origin : Option OrderOrigin
  market : Option SupportedMarket
  candidateAuthority : Option CandidateExecutionAuthority

structure SubmitOrderFromDecisionResult where
  accepted : Bool
  outcome : SubmissionOutcome
  order : Option OrderRecord
  reason : Option String
  deriving DecidableEq

/-! ### What can be thrown -/

inductive ExchangeOrderSubmissionErrorKind
  | definitiveRejection
  | uncertain
  deriving DecidableEq

structure ExchangeOrderSubmissionError where
  kind : ExchangeOrderSubmissionErrorKind
  status : Option ℕ
  exchangeCode : Option String
  exchangeName : Option String
  responseReceived : Bool
  deriving DecidableEq

def ExchangeOrderSubmissionError.message (error : ExchangeOrderSubmissionError) : String :=
  match error.kind with
  | .definitiveRejection => "Upbit definitively rejected the order submission."
  | .uncertain => "Upbit order submission outcome is uncertain and requires recovery."

/-- A thrown value: the error classes the service tells apart, any other `Error`, and values that
are no errors, of which it sees whether they are `null` and whether they are truthy. -/
inductive Thrown
  | runtimeOwnership (message : String)
  | postSendPersistence (message : String)
  | accountExecutionLease (message : String)
  | candidateExecution (message : String)
  | automaticFaultPause (message : String)
  | leaseBlockPersistence (message : String)
  | exchangeSubmission (error : ExchangeOrderSubmissionError)
  | error (message : String)
  | value (truthy : Bool)
  | null
  deriving DecidableEq

def Thrown.truthy : Thrown → Bool
  | .value truthy => truthy
  | .null => false
  | _ => true

/-- `error instanceof Error ? error.message : otherwise`. -/
def Thrown.messageOr (otherwise : String) : Thrown → String
  | .runtimeOwnership message => message
  | .postSendPersistence message => message
  | .accountExecutionLease message => message
  | .candidateExecution message => message
  | .automaticFaultPause message => message
  | .leaseBlockPersistence message => message
  | .exchangeSubmission failure => failure.message
  | .error message => message
  | .value _ => otherwise
  | .null => otherwise

/-! ### The exchange -/

inductive SendPath
  | dryRunAdapter
  | liveAdapter
  deriving DecidableEq

structure UpbitOrderRequest where
  market : SupportedMarket
  side : OrderSide
  ordType : Domain.Types.OrderType
  volume : Option String
  price : Option String
  identifier : String
  timeInForce : Option TimeInForce
  smpType : Option UpbitSelfMatchPrevention

structure UpbitOrderChance (Num : Type) where
  marketId : String
  askTypes : List String
  bidTypes : List String
  maxTotal : Option String
  bidMinTotal : Option Num
  askMinTotal : Option Num

/-- A raw payload is kept as its JSON text. -/
structure ExchangeFillSnapshot where
  tradeUuid : Option String
  side : OrderSide
  price : String
  volume : String
  fee : Option String
  createdAt : Option String
  raw : String
  deriving DecidableEq

/-- The fields of the response that a submission reads. -/
structure ExchangeOrderSnapshot where
  uuid : String
  side : OrderSide
  ordType : Domain.Types.OrderType
  state : String
  executedVolume : Option String
  fills : List ExchangeFillSnapshot
  raw : String
  deriving DecidableEq

/-- The preview of the order is only copied into a payload and is left out. -/
structure OrderValidationResult where
  accepted : Bool
  marketOnline : Bool
  reason : Option String

/-! ### Risk -/

structure AllocationByAsset (Num : Type) where
  btc : Num
  eth : Num

structure ExecutionRiskLimits (Num : Type) where
  maxAllocationByAsset : AllocationByAsset Num
  totalExposureCap : Num
  stalePriceThresholdMs : Num
  minimumOrderValueKrw : Num

structure ExecutionPolicy (Num : Type) where
  executionMode : ExecutionMode
  liveExecutionGate : LiveExecutionGate
  globalKillSwitch : Bool
  limits : ExecutionRiskLimits Num

structure PortfolioExposureSnapshot (Num : Type) where
  totalEquityKrw : Num
  totalExposureKrw : Num
  assetExposureKrw : AllocationByAsset Num

structure RiskEvaluationContext (Num : Type) where
  policy : ExecutionPolicy Num
  systemStatus : SystemStatus
  market : SupportedMarket
  tradePrice : Num
  capturedAt : String
  portfolio : PortfolioExposureSnapshot Num
  openOrders : List OrderRecord
  requestedSide : OrderSide
  requestedIdempotencyKey : String
  requestedPrice : Option String
  requestedVolume : Option String
  requestedNotionalKrw : Option Num
  requestedQuantity : Option Num
  now : String

structure TriggeredRule where
  code : String
  message : String

structure RiskEvaluationResult where
  accepted : Bool
  triggeredRules : List TriggeredRule

/-! ### Functions of other modules -/

structure CandidateExecutionAttemptTimestamps where
  bindingCreatedAt : String
  orderRequestedAt : String
  deriving DecidableEq

structure Library (Num : Type) where
  number : String → Num
  numberText : Num → String
  isFinite : Num → Bool
  lt : Num → Num → Bool
  le : Num → Num → Bool
  mul : Num → Num → Num
  zero : Num
  /-- `Date.parse`; `none` is `NaN`. -/
  dateParse : String → Option ℤ
  sha256Hex : String → String
  assertCanonicalUpbitMarketBuyQuote : SubmitOrderFromDecisionInput Num → Except String Unit
  serializeUpbitOrderDecimal : Num → String → Except String String
  /-- The text of `deriveDryRunVolume` for a positive notional and price. -/
  dryRunVolume : Num → Num → String
  evaluateRiskGuards : RiskEvaluationContext Num → RiskEvaluationResult
  parseCandidateEvidenceTimestamp : String → Except String ℤ
  formatCanonicalUtcIsoNanoseconds : ℤ → Except String String
  validateCandidateExecutionAuthority :
    CandidateExecutionAuthority → Except String CandidateExecutionAuthority
  createCandidateExecutionAttemptTimestamps :
    ℤ → String → Except String CandidateExecutionAttemptTimestamps
  deriveCandidateExecutionBinding : CandidateExecutionAuthority → OrderRecord →
    StrategyDecisionRecord → String → String → Except String CandidateExecutionBindingRecord
  validateCandidateExecutionBinding : CandidateExecutionBindingRecord → Except String Unit
  /-- The payload of an `ORDER_PERSISTED` event has this idempotency key and action. -/
  persistedPayloadMatches : String → String → StrategyDecisionAction → Bool
  /-- `projectCandidateFinalBoundOrderIntent` and `validateCandidateBoundOrderIntent`. -/
  validateFinalCandidateIntent : CandidateExecutionAuthority → OrderRecord →
    OrderEventRecord × OrderEventRecord → StrategyDecisionRecord × StrategyDecisionRecord →
    CandidateExecutionBindingRecord × CandidateExecutionBindingRecord →
    PositionGuardPilotDeploymentRecord → ℕ → Except String Unit

/-- What a service is constructed with; the flags say which optional dependencies are there. -/
structure Dependencies (Num : Type) where
  library : Library Num
  riskLimits : ExecutionRiskLimits Num
  sendPath : SendPath
  accountExecutionLeaseMs : ℤ
  hasCandidatePilots : Bool
  hasStrategyDecisionReads : Bool
  hasReporter : Bool
  hasExecutionAuthority : Bool

/-! ### Operations -/

/-- The places of the service that read the clock. -/
inductive ClockSite
  | attemptStartedAt
  | bindingCreatedAt
  | faultOccurredAt
  | renewalAt
  | submittedAt
  | settledAt
  | rejectedAt
  | uncertainAt
  | releasedAt
  deriving DecidableEq

structure PauseForCandidateIntentFaultInput where
  deploymentId : String
  exchangeAccountId : String
  stage : CandidateIntentFaultStage
  strategyDecisionId : String
  orderId : String
  bindingId : String
  faultId : String
  reasonCode : String
  provenanceJson : String
  occurredAt : String

structure AssertCurrentExecutionAuthorityInput where
  exchangeAccountId : String
  expectedExecutionMode : ExecutionMode
  expectedLiveExecutionGate : LiveExecutionGate

structure OperatorNotification where
  exchangeAccountId : String
  notificationType : String
  severity : String
  title : String
  message : String
  payloadJson : String

/-- Everything the service asks of its dependencies, named by the method it calls. -/
inductive Op
  | assertLocallyHeld
  | assertCurrent
  /-- The guard, with the order and the request that its callback hands to `createOrder`. -/
  | runWithCurrentExecutionAuthority (input : AssertCurrentExecutionAuthorityInput)
    (orderId : String) (request : UpbitOrderRequest)
  /-- `await exchangeOrderPromise`. -/
  | exchangeOrder
  | now (site : ClockSite)
  /-- `new Date().toISOString()`. -/
  | systemClock
  | createId (kind : String)
  | findOrderByIdempotencyKey (account idempotencyKey : String)
  | findOrderById (account orderId : String)
  | listOrderEvents (orderId : String)
  | listActiveOrders (account : String)
  | listSubmissionBlockingOrders (account : String) (limit : ℕ)
  | saveRiskEvent (event : RiskEventRecord)
  | persistOrderIntent (input : PersistOrderIntentInput)
  | persistCandidateBoundOrderIntent (input : PersistCandidateBoundOrderIntentRequest)
  | updateOrder (order : OrderRecord)
  | persistExchangeSubmission (input : PersistExchangeSubmissionInput)
  | persistUncertainSubmission (input : PersistUncertainSubmissionInput)
  | acquireLease (input : AcquireAccountExecutionLeaseInput)
  | renewLease (input : RenewAccountExecutionLeaseInput)
  | releaseLease (account ownerToken : String)
  | getStrategyDecisionById (id : String)
  | getPortfolioExposure (account : String)
  | getState
  | pauseForFault (input : FaultPauseInput)
  | getDeployment (id : String)
  | getExactStateVersion (deploymentId : String)
  | getExecutionBindingForOrder (orderId : String)
  | pauseForCandidateIntentFault (input : PauseForCandidateIntentFaultInput)
  | getOrderChance (market : SupportedMarket)
  | testOrder (request : UpbitOrderRequest)
  | report (notification : OperatorNotification)

/-- The answers. The guard answers whether the callback threw: `createOrder` was invoked, and threw
at once or returned a promise; a guard that throws did not run it. -/
@[reducible] def Ans (Num : Type) : Op → Type
  | .assertLocallyHeld => Unit
  | .assertCurrent => Unit
  | .runWithCurrentExecutionAuthority _ _ _ => Option Thrown
  | .exchangeOrder => ExchangeOrderSnapshot
  | .now _ => String
  | .systemClock => String
  | .createId _ => String
  | .findOrderByIdempotencyKey _ _ => Option OrderRecord
  | .findOrderById _ _ => Option OrderRecord
  | .listOrderEvents _ => List OrderEventRecord
  | .listActiveOrders _ => List OrderRecord
  | .listSubmissionBlockingOrders _ _ => List OrderRecord
  | .saveRiskEvent _ => Unit
  | .persistOrderIntent _ => Unit
  | .persistCandidateBoundOrderIntent _ => Unit
  | .updateOrder _ => Unit
  | .persistExchangeSubmission _ => Unit
  | .persistUncertainSubmission _ => Unit
  | .acquireLease _ => Option AccountExecutionLeaseRecord
  | .renewLease _ => Option AccountExecutionLeaseRecord
  | .releaseLease _ _ => Bool
  | .getStrategyDecisionById _ => Option StrategyDecisionRecord
  | .getPortfolioExposure _ => PortfolioExposureSnapshot Num
  | .getState => ExecutionStateRecord
  | .pauseForFault _ => Unit
  | .getDeployment _ => Option PositionGuardPilotDeploymentRecord
  | .getExactStateVersion _ => Option ℕ
  | .getExecutionBindingForOrder _ => Option CandidateExecutionBindingRecord
  | .pauseForCandidateIntentFault _ => Unit
  | .getOrderChance _ => UpbitOrderChance Num
  | .testOrder _ => OrderValidationResult
  | .report _ => Unit

/-- A dependency answers or throws. -/
abbrev Reply (Num : Type) (op : Op) : Type := Except Thrown (Ans Num op)

/-- The mutable variables of `submitOrderFromDecision`. -/
structure Locals where
  releaseLease : Bool := true
  createOrderInvoked : Bool := false
  finalRuntimeExecutionAuthorityCheckStarted : Bool := false
  /-- `synchronousSubmissionError`, `none` while it is `null`. -/
  synchronousSubmissionError : Option Thrown := none
  /-- `exchangeOrderPromise` is set. -/
  exchangeOrderStarted : Bool := false
  postAdapterOwnershipAssertionFailed : Bool := false

abbrev Service (Num α : Type) : Type := Async Op (Ans Num) Thrown Locals α

/-- `await` of one of the operations. -/
abbrev ask {Num : Type} (op : Op) : Service Num (Ans Num op) := Async.await op

end AutoTrade.Execution.Records
