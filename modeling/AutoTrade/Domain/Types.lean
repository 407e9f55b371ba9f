import Mathlib.Data.List.Basic

/-! # The records of the trading runtime

The enumerations and records of `src/domain/types.ts` that the modelled components read or write. A
`string | null` field is an `Option String`; identifiers, decimal texts and timestamps stay texts,
as in the source and in the database. -/

namespace AutoTrade.Domain.Types

/-! ### Enumerations -/

inductive SupportedMarket
  | krwBtc
  | krwEth
  deriving DecidableEq

inductive ExecutionMode
  | dryRun
  | live
  deriving DecidableEq

inductive LiveExecutionGate
  | disabled
  | enabled
  deriving DecidableEq

inductive SystemStatus
  | booting
  | running
  | paused
  | killSwitched
  | degraded
  deriving DecidableEq

inductive StrategyDecisionAction
  | enter
  | add
  | reduce
  | exit
  | hold
  deriving DecidableEq

inductive StrategyDecisionStatus
  | ready
  | pendingConfirmation
  | blockedByRisk
  | noAction
  | dataStale
  deriving DecidableEq

inductive OrderSide
  | bid
  | ask
  deriving DecidableEq

inductive OrderType
  | limit
  | price
  | market
  | best
  deriving DecidableEq

inductive TimeInForce
  | ioc
  | fok
  | postOnly
  deriving DecidableEq

inductive UpbitSelfMatchPrevention
  | cancelMaker
  | cancelTaker
  | reduce
  deriving DecidableEq

inductive OrderLifecycleStatus
  | intentCreated
  | riskRejected
  | persisted
  | submitting
  | open
  | partiallyFilled
  | filled
  | cancelRequested
  | canceled
  | rejected
  | failed
  | reconciliationRequired
  deriving DecidableEq

inductive OrderOrigin
  | strategy
  | operator
  | recovery
  deriving DecidableEq

inductive OrderEventSource
  | local
  | exchange
  | reconciliation
  | telegram
  deriving DecidableEq

inductive RiskEventLevel
  | info
  | warn
  | block
  deriving DecidableEq

inductive RecoveryObservationOutcome
  | found
  | notFound
  | transientFailure
  deriving DecidableEq

inductive FillFeeProvenance
  | exchangeFillConfirmed
  | orderLevelUnallocated
  | orderLevelAllocated
  | missing
  | legacyUnverified
  | simulated
  deriving DecidableEq

inductive FillExecutionTimestampProvenance
  | exchangeFillConfirmed
  | reconciliationObservedAtFallback
  | orderUpdatedAtFallback
  | localSynthetic
  | legacyUnverified
  deriving DecidableEq

/-- The command column of `execution_state_transitions`. -/
inductive ExecutionStateTransitionCommand
  | bootstrap
  | automaticPause
  | pause
  | resume
  | killswitch
  | setExecutionMode
  | setLiveExecutionGate
  | markDegraded
  | clearDegraded
  deriving DecidableEq

/-! ### Column texts -/

/-- The text of the mode, as the database and the transition log store it. -/
def ExecutionMode.text : ExecutionMode → String
  | dryRun => "DRY_RUN"
  | live => "LIVE"

def LiveExecutionGate.text : LiveExecutionGate → String
  | disabled => "DISABLED"
  | enabled => "ENABLED"

def SupportedMarket.text : SupportedMarket → String
  | krwBtc => "KRW-BTC"
  | krwEth => "KRW-ETH"

def StrategyDecisionAction.text : StrategyDecisionAction → String
  | enter => "ENTER"
  | add => "ADD"
  | reduce => "REDUCE"
  | exit => "EXIT"
  | hold => "HOLD"

def OrderLifecycleStatus.text : OrderLifecycleStatus → String
  | .intentCreated => "INTENT_CREATED"
  | .riskRejected => "RISK_REJECTED"
  | .persisted => "PERSISTED"
  | .submitting => "SUBMITTING"
  | .open => "OPEN"
  | .partiallyFilled => "PARTIALLY_FILLED"
  | .filled => "FILLED"
  | .cancelRequested => "CANCEL_REQUESTED"
  | .canceled => "CANCELED"
  | .rejected => "REJECTED"
  | .failed => "FAILED"
  | .reconciliationRequired => "RECONCILIATION_REQUIRED"

def OrderSide.text : OrderSide → String
  | bid => "bid"
  | ask => "ask"

def OrderType.text : OrderType → String
  | limit => "limit"
  | price => "price"
  | market => "market"
  | best => "best"

def TimeInForce.text : TimeInForce → String
  | ioc => "ioc"
  | fok => "fok"
  | postOnly => "post_only"

def UpbitSelfMatchPrevention.text : UpbitSelfMatchPrevention → String
  | cancelMaker => "cancel_maker"
  | cancelTaker => "cancel_taker"
  | reduce => "reduce"

/-! ### Operator state -/

structure ExecutionStateRecord where
  id : String
  exchangeAccountId : String
  executionMode : ExecutionMode
  liveExecutionGate : LiveExecutionGate
  systemStatus : SystemStatus
  killSwitchActive : Bool
  pauseReason : Option String
  degradedReason : Option String
  degradedAt : Option String
  updatedAt : String
  deriving DecidableEq

structure ExecutionStateTransitionRecord where
  id : String
  exchangeAccountId : String
  command : ExecutionStateTransitionCommand
  fromExecutionMode : Option ExecutionMode
  toExecutionMode : ExecutionMode
  fromLiveExecutionGate : Option LiveExecutionGate
  toLiveExecutionGate : LiveExecutionGate
  fromSystemStatus : Option SystemStatus
  toSystemStatus : SystemStatus
  fromKillSwitchActive : Option Bool
  toKillSwitchActive : Bool
  reason : Option String
  createdAt : String
  deriving DecidableEq

/-- The settings a fresh execution state starts from. -/
structure ExecutionStateSeed where
  executionMode : ExecutionMode
  liveExecutionGate : LiveExecutionGate
  killSwitchActive : Bool

/-- `FaultPauseInput` of `src/modules/db/interfaces.ts`; `transitionAt` is optional there. -/
structure FaultPauseInput where
  exchangeAccountId : String
  faultId : String
  reason : String
  occurredAt : String
  transitionAt : Option String

/-! ### Strategy decisions -/

structure StrategyDecisionRecord where
  id : String
  exchangeAccountId : String
  strategyKey : String
  market : SupportedMarket
  action : StrategyDecisionAction
  status : StrategyDecisionStatus
  decisionBasisJson : String
  intendedNotionalKrw : Option String
  intendedQuantity : Option String
  referencePrice : Option String
  createdAt : String
  deriving DecidableEq

/-! ### Orders -/

structure OrderRecord where
  id : String
  strategyDecisionId : Option String
  exchangeAccountId : String
  market : SupportedMarket
  side : OrderSide
  ordType : OrderType
  volume : Option String
  price : Option String
  timeInForce : Option TimeInForce
  smpType : Option UpbitSelfMatchPrevention
  identifier : String
  idempotencyKey : String
  origin : OrderOrigin
  requestedAt : String
  upbitUuid : Option String
  status : OrderLifecycleStatus
  executionMode : ExecutionMode
  exchangeResponseJson : Option String
  failureCode : Option String
  failureMessage : Option String
  createdAt : String
  updatedAt : String
  deriving DecidableEq

structure OrderEventRecord where
  id : String
  orderId : String
  eventType : String
  eventSource : OrderEventSource
  payloadJson : String
  createdAt : String
  deriving DecidableEq

structure FillRecord where
  id : String
  orderId : String
  exchangeFillId : String
  market : SupportedMarket
  side : OrderSide
  price : String
  volume : String
  feeCurrency : Option String
  feeAmount : Option String
  feeProvenance : Option FillFeeProvenance
  executionTimestampProvenance : Option FillExecutionTimestampProvenance
  executionEpochNs : Option String
  filledAt : String
  rawPayloadJson : String
  deriving DecidableEq

/-- The rule code of a risk event stays a text: the modelled functions only compare and store it. -/
structure RiskEventRecord where
  id : String
  exchangeAccountId : String
  strategyDecisionId : Option String
  orderId : Option String
  level : RiskEventLevel
  ruleCode : String
  message : String
  payloadJson : String
  createdAt : String
  deriving DecidableEq

structure OrderSubmissionRecoveryObservationRecord where
  id : String
  orderId : String
  outcome : RecoveryObservationOutcome
  observedAt : String
  observedAtEpochMs : Int
  detailJson : String
  createdAt : String
  deriving DecidableEq

/-- The lease row; its purpose is always `ORDER_SUBMISSION` and is left out. -/
structure AccountExecutionLeaseRecord where
  exchangeAccountId : String
  ownerToken : String
  acquiredAtEpochMs : Int
  expiresAtEpochMs : Int
  deriving DecidableEq

inductive SubmissionOutcome
  | submitted
  | simulatedFilled
  | rejected
  | duplicate
  | leaseBlocked
  | reconciliationRequired
  deriving DecidableEq

end AutoTrade.Domain.Types
