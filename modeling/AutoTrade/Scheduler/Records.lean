import AutoTrade.Domain.Types

/-! # The records of the strategy scheduler

The configuration of `StrategyScheduler`, the results of its runs, the status it keeps for each
market, and the run records and notifications it writes. Instants are milliseconds since the epoch.
The record's generated id and its JSON summary are left out: nothing reads them here. -/

namespace AutoTrade.Scheduler.Records

open Domain.Types

/-! ### Configuration -/

structure StrategySchedulerMarketConfig where
  market : SupportedMarket
  intervalMs : ℕ
  deriving DecidableEq

inductive LiveSendPath
  | dryRunAdapter
  | liveAdapter
  deriving DecidableEq

/-- The configuration, and which of the optional dependencies are there. -/
structure StrategySchedulerConfig where
  enabled : Bool
  runOnStart : Bool
  exchangeAccountId : String
  liveSendPath : LiveSendPath
  markets : List StrategySchedulerMarketConfig
  repositories : Bool
  reporter : Bool
  beforeRunAccountRefresh : Bool
  beforeRunPreflight : Bool

/-- The configuration of a market: the first entry that names it. -/
def StrategySchedulerConfig.find (config : StrategySchedulerConfig) (market : SupportedMarket) :
    Option StrategySchedulerMarketConfig :=
  config.markets.find? fun candidate => candidate.market = market

/-! ### What the dependencies answer -/

/-- How a call fails: `isRuntimeOwnershipFailure` separates the two. -/
inductive Failure
  | ownership
  | other (message : String)
  deriving DecidableEq

def isRuntimeOwnershipFailure : Failure → Bool
  | .ownership => true
  | .other _ => false

inductive RunPreparationOwner
  | scheduler
  | controller
  deriving DecidableEq

/-- The status is `FAILED`, or else `COMPLETED`. -/
structure AccountRefreshResult where
  failed : Bool
  detail : String

inductive StartupPreflightStatus
  | pass
  | warn
  | block
  deriving DecidableEq

structure StartupPreflight where
  checkedAt : ℕ
  status : StartupPreflightStatus
  detail : String

/-! ### Run results -/

inductive RunStatus
  | completed
  | alreadyRunning
  | skipped
  | notConnected
  | failed
  deriving DecidableEq

/-- `submissionOutcome` is absent (`none`), null (`some none`) or a value. -/
structure StrategyRunResult where
  status : RunStatus
  requestedAt : ℕ
  market : Option SupportedMarket
  strategyDecisionId : Option String
  action : Option StrategyDecisionAction
  orderId : Option String
  orderStatus : Option OrderLifecycleStatus
  submissionAccepted : Option Bool
  submissionOutcome : Option (Option SubmissionOutcome)
  detail : String
  deriving DecidableEq

/-- A result without a decision or an order. -/
def createEmptyRunResult (status : RunStatus) (requestedAt : ℕ) (market : SupportedMarket)
    (detail : String) : StrategyRunResult where
  status
  requestedAt
  market := some market
  strategyDecisionId := none
  action := none
  orderId := none
  orderStatus := none
  submissionAccepted := none
  submissionOutcome := some none
  detail

def createFailedRunResult (requestedAt : ℕ) (market : SupportedMarket) (detail : String) :
    StrategyRunResult :=
  createEmptyRunResult .failed requestedAt market detail

/-- `Boolean(text)` of a nullable text. -/
def isPresent (text : Option String) : Bool := text.any (· ≠ "")

def wasLiveOrderSubmitted (config : StrategySchedulerConfig) (result : StrategyRunResult) : Bool :=
  config.liveSendPath = .liveAdapter ∧ result.status = .completed ∧ isPresent result.orderId ∧
    result.submissionAccepted = some true

/-! ### The status of a market -/

inductive SchedulerLastStatus
  | neverRun
  | startupBlocked
  | run (status : RunStatus)

structure MarketStatus where
  market : SupportedMarket
  intervalMs : ℕ
  running : Bool
  runCount : ℕ
  successCount : ℕ
  failureCount : ℕ
  skippedCount : ℕ
  lastStartedAt : Option ℕ
  lastCompletedAt : Option ℕ
  lastStatus : SchedulerLastStatus
  lastStrategyDecisionId : Option String
  lastAction : Option StrategyDecisionAction
  lastOrderId : Option String
  lastOrderStatus : Option OrderLifecycleStatus
  lastError : Option String
  nextRunAt : Option ℕ

def createInitialMarketStatus (market : SupportedMarket) (intervalMs : ℕ) : MarketStatus where
  market
  intervalMs
  running := false
  runCount := 0
  successCount := 0
  failureCount := 0
  skippedCount := 0
  lastStartedAt := none
  lastCompletedAt := none
  lastStatus := .neverRun
  lastStrategyDecisionId := none
  lastAction := none
  lastOrderId := none
  lastOrderStatus := none
  lastError := none
  nextRunAt := none

/-- The status after `applyRunResult`: whatever the result, the market no longer runs. -/
def applyRunResult (current : MarketStatus) (result : StrategyRunResult)
    (startedAt completedAt : ℕ) : MarketStatus :=
  let success := decide (result.status = .completed)
  let skipped := decide (result.status = .alreadyRunning ∨ result.status = .skipped)
  { current with
    running := false
    runCount := current.runCount + if skipped then 0 else 1
    successCount := current.successCount + if success then 1 else 0
    failureCount := current.failureCount + if !success && !skipped then 1 else 0
    skippedCount := current.skippedCount + if skipped then 1 else 0
    lastStartedAt := some startedAt
    lastCompletedAt := some completedAt
    lastStatus := .run result.status
    lastStrategyDecisionId := result.strategyDecisionId
    lastAction := result.action
    lastOrderId := result.orderId
    lastOrderStatus := result.orderStatus
    lastError := if success || skipped then none else some result.detail }

@[simp] theorem applyRunResult_running (current : MarketStatus) (result : StrategyRunResult)
    (startedAt completedAt : ℕ) :
    (applyRunResult current result startedAt completedAt).running = false := rfl

/-! ### Run records -/

inductive SchedulerRunStatus
  | started
  | completed
  | skipped
  | failed
  deriving DecidableEq

structure SchedulerRunRecord where
  exchangeAccountId : String
  market : SupportedMarket
  status : SchedulerRunStatus
  startedAt : ℕ
  completedAt : Option ℕ
  intervalMs : ℕ
  runOnStart : Bool
  strategyDecisionId : Option String
  action : Option StrategyDecisionAction
  orderId : Option String
  orderStatus : Option OrderLifecycleStatus
  submissionAccepted : Option Bool
  detail : Option String
  errorMessage : Option String
  deriving DecidableEq

def isSchedulerRunError (result : StrategyRunResult) : Bool :=
  result.status ≠ .completed ∧ result.status ≠ .alreadyRunning ∧ result.status ≠ .skipped

def createSchedulerRunRecord (config : StrategySchedulerConfig)
    (market : StrategySchedulerMarketConfig) (status : SchedulerRunStatus) (startedAt : ℕ)
    (completedAt : Option ℕ) (result : Option StrategyRunResult) : SchedulerRunRecord where
  exchangeAccountId := config.exchangeAccountId
  market := market.market
  status
  startedAt
  completedAt
  intervalMs := market.intervalMs
  runOnStart := config.runOnStart
  strategyDecisionId := result.bind (·.strategyDecisionId)
  action := result.bind (·.action)
  orderId := result.bind (·.orderId)
  orderStatus := result.bind (·.orderStatus)
  submissionAccepted := result.bind (·.submissionAccepted)
  detail := result.map (·.detail)
  errorMessage := (result.filter isSchedulerRunError).map (·.detail)

def mapSchedulerRunStatus : RunStatus → SchedulerRunStatus
  | .completed => .completed
  | .alreadyRunning => .skipped
  | .skipped => .skipped
  | .notConnected => .failed
  | .failed => .failed

def completeSchedulerRunRecord (started : SchedulerRunRecord) (result : StrategyRunResult)
    (completedAt : ℕ) : SchedulerRunRecord :=
  let status := mapSchedulerRunStatus result.status
  { started with
    status
    completedAt := some completedAt
    strategyDecisionId := result.strategyDecisionId
    action := result.action
    orderId := result.orderId
    orderStatus := result.orderStatus
    submissionAccepted := result.submissionAccepted
    detail := some result.detail
    errorMessage := if status = .failed then some result.detail else none }

/-! ### Notifications -/

inductive NotificationType
  | schedulerRunFailed
  | schedulerRunSkipped
  | schedulerOrderSubmitted
  | schedulerOrderRejected
  deriving DecidableEq

inductive NotificationSeverity
  | info
  | warn
  | error
  deriving DecidableEq

structure SchedulerNotificationPayload where
  market : SupportedMarket
  intervalMs : ℕ
  runOnStart : Bool
  liveSendPath : LiveSendPath
  strategyDecisionId : Option String
  action : Option StrategyDecisionAction
  orderId : Option String
  orderStatus : Option OrderLifecycleStatus
  submissionAccepted : Option Bool
  submissionOutcome : Option SubmissionOutcome
  requestedAt : ℕ

structure SchedulerNotification where
  exchangeAccountId : String
  notificationType : NotificationType
  severity : NotificationSeverity
  title : String
  message : String
  payload : SchedulerNotificationPayload

/-- The notification of a run result, if it is worth one. -/
def buildSchedulerNotification (config : StrategySchedulerConfig)
    (market : StrategySchedulerMarketConfig) (result : StrategyRunResult) :
    Option SchedulerNotification :=
  let payload : SchedulerNotificationPayload :=
    { market := market.market
      intervalMs := market.intervalMs
      runOnStart := config.runOnStart
      liveSendPath := config.liveSendPath
      strategyDecisionId := result.strategyDecisionId
      action := result.action
      orderId := result.orderId
      orderStatus := result.orderStatus
      submissionAccepted := result.submissionAccepted
      submissionOutcome := result.submissionOutcome.join
      requestedAt := result.requestedAt }
  let notify (notificationType : NotificationType) (severity : NotificationSeverity)
      (title message : String) : Option SchedulerNotification :=
    some
      { exchangeAccountId := config.exchangeAccountId
        notificationType, severity, title, message, payload }
  if result.status = .failed then
    notify .schedulerRunFailed .error "Scheduled strategy run failed" result.detail
  else if result.status = .alreadyRunning ∨ result.status = .skipped then
    notify .schedulerRunSkipped .warn "Scheduled strategy run skipped" result.detail
  else if isPresent result.orderId ∧ result.submissionAccepted = some true then
    notify .schedulerOrderSubmitted .info "Scheduled strategy submitted an order"
      (market.market.text ++ " scheduled " ++
        (result.action.map StrategyDecisionAction.text).getD "UNKNOWN" ++
        " created order " ++ result.orderId.getD "" ++ ".")
  else if result.submissionOutcome = some (some .rejected) ∨
      (result.submissionOutcome = none ∧ result.submissionAccepted = some false) then
    notify .schedulerOrderRejected .warn "Scheduled strategy order was rejected" result.detail
  else none

end AutoTrade.Scheduler.Records
