import AutoTrade.Strategy.ResearchPolicy
import Mathlib.Algebra.Order.Ring.Unbundled.Rat

/-! # The backtest

`runPositionGuardBacktest` of `position-guard-backtest.ts`: the strategy is asked at every frame, the
research policy may intervene, and the decision that remains is executed at the close of the frame
or, with the next-frame timing, at the close of the frame after it.

Numbers are rationals; how money and quantities are rounded is a parameter, and so is the strategy
itself (`decidePositionGuardCore`), a function of its context. -/

namespace AutoTrade.Strategy.Backtest

open Lib.Result Domain.Types Strategy.Core
open Strategy.ResearchPolicy

/-! ### Records -/

inductive SupportedStrategyTimeframe
  | oneHour
  | fourHours
  | oneDay
  deriving DecidableEq

/-- A value for each timeframe: `Record<SupportedStrategyTimeframe, α>`. -/
structure PerTimeframe (α : Type) where
  oneHour : α
  fourHours : α
  oneDay : α
  deriving DecidableEq

structure PositionGuardBacktestFrameSource where
  candleCounts : PerTimeframe ℕ
  latestCloseTime : PerTimeframe (Option String)
  deriving DecidableEq

structure PositionGuardBacktestFrame where
  generatedAt : String
  analysis : PositionGuardStructureAnalysis
  source : Option PositionGuardBacktestFrameSource
  deriving DecidableEq

structure PositionGuardBacktestExecutionModel where
  feeRate : ℚ
  slippageRate : ℚ
  minimumTradeValueKrw : ℚ

inductive PositionGuardBacktestExecutionTimingModel
  | sameCloseModeled
  | nextFrameModeled
  deriving DecidableEq

inductive PositionGuardBacktestConditionalAddPolicyId
  | addRiskClear
  | addHighAlignment
  | addCoreTrend
  deriving DecidableEq

/-- `PositionGuardBacktestResearchExecutionPolicy`, by the kind of its id. -/
inductive PositionGuardBacktestResearchExecutionPolicy
  | noAdd (suppressedActions : List StrategyDecisionAction)
  | conditionalAdd (id : PositionGuardBacktestConditionalAddPolicyId)
  | intervention (id : PositionGuardBacktestInterventionPolicyId)

inductive ConditionalAddReason
  | atrShock
  | weakeningPresent
  | trendAlignmentBelow4
  | regimeNotCoreTrend
  deriving DecidableEq

/-- What a conditional policy on adds records of the analysis. -/
structure ConditionalAddSnapshot where
  atrShock : Bool
  weakeningStage : StrategyWeakeningStage
  trendAlignmentScore : ℚ
  regime : StrategyMarketRegime

/-- The reason is absent when the add is allowed. -/
structure PositionGuardBacktestConditionalAddPolicyEvaluation where
  policyId : PositionGuardBacktestConditionalAddPolicyId
  generatedAt : String
  analysisSnapshot : ConditionalAddSnapshot
  reason : Option ConditionalAddReason

inductive PositionGuardBacktestResearchSuppression
  | noAdd
  | conditionalAdd (policyId : PositionGuardBacktestConditionalAddPolicyId)
      (reason : ConditionalAddReason) (generatedAt : String)
      (analysisSnapshot : ConditionalAddSnapshot)

inductive PositionGuardBacktestSkipReason
  | belowMinimumTradeValue
  | insufficientCash
  | noPosition
  deriving DecidableEq

structure PositionGuardBacktestTrade where
  action : ExecutedAction
  side : OrderSide
  price : ℚ
  quantity : ℚ
  grossNotionalKrw : ℚ
  feeKrw : ℚ
  realizedPnlKrw : ℚ

inductive ModeledExecutionStatus
  | pendingNextFrame
  | executedNextFrame
  | skippedNextFrame
  | skippedNoNextFrame
  deriving DecidableEq

inductive ModeledExecutionReason
  | skip (reason : PositionGuardBacktestSkipReason)
  | noNextFrame

structure PositionGuardBacktestModeledExecutionEvidence where
  timingModel : PositionGuardBacktestExecutionTimingModel
  decisionGeneratedAt : String
  status : ModeledExecutionStatus
  executedAt : Option String
  executionPrice : Option ℚ
  reason : Option ModeledExecutionReason

/-- The outcome and the reason of an intervention. -/
structure InterventionSummary where
  outcome : ResearchOutcome
  reason : PositionGuardBacktestResearchInterventionReason

structure PositionGuardBacktestModeledTradeOriginEvidence where
  decisionGeneratedAt : String
  decisionFrameIndex : ℕ
  executedAt : String
  executionFrameIndex : ℕ
  originalAction : StrategyDecisionAction
  effectiveAction : StrategyDecisionAction
  scenario : Option PositionGuardBacktestInterventionPolicyId
  intervention : Option InterventionSummary

/-- The fields of a research policy are present (`some`) only in a run with such a policy. -/
structure PositionGuardBacktestFrameResult where
  generatedAt : String
  regime : StrategyMarketRegime
  source : Option PositionGuardBacktestFrameSource
  decision : PositionGuardEngineDecision
  startingState : PositionGuardBacktestState
  endingState : PositionGuardBacktestState
  executed : Bool
  trade : Option PositionGuardBacktestTrade
  skipReason : Option PositionGuardBacktestSkipReason
  equityKrw : ℚ
  drawdownPct : ℚ
  researchSuppression : Option (Option PositionGuardBacktestResearchSuppression)
  researchPolicyEvaluation : Option (Option PositionGuardBacktestConditionalAddPolicyEvaluation)
  researchIntervention : Option (Option PositionGuardBacktestResearchIntervention)
  modeledExecution : Option PositionGuardBacktestModeledExecutionEvidence
  modeledTradeOrigin : Option PositionGuardBacktestModeledTradeOriginEvidence

structure PositionGuardBacktestMetrics where
  actionCounts : StrategyDecisionAction → ℕ
  regimeCounts : StrategyMarketRegime → ℕ
  tradeCount : ℕ
  skippedOrderCount : ℕ
  turnoverKrw : ℚ
  feesKrw : ℚ
  realizedPnlKrw : ℚ
  finalEquityKrw : ℚ
  totalReturnPct : ℚ
  maxDrawdownPct : ℚ
  timeInMarketFrames : ℕ

structure PositionGuardBacktestInput where
  asset : SupportedAsset
  market : SupportedMarket
  initialCashKrw : ℚ
  initialQuantity : ℚ
  initialAverageEntryPrice : ℚ
  frames : List PositionGuardBacktestFrame
  settings : Option PositionGuardStrategySettings
  execution : Option PositionGuardBacktestExecutionModel
  researchExecutionPolicy : Option PositionGuardBacktestResearchExecutionPolicy
  researchCarryInState : Option PositionGuardBacktestResearchState
  executionTimingModel : Option PositionGuardBacktestExecutionTimingModel

structure PositionGuardBacktestResult where
  frames : List PositionGuardBacktestFrameResult
  metrics : PositionGuardBacktestMetrics
  finalState : PositionGuardBacktestState
  finalResearchState : Option PositionGuardBacktestResearchState

/-- `DEFAULT_BACKTEST_EXECUTION`. -/
def defaultBacktestExecution : PositionGuardBacktestExecutionModel where
  feeRate := 0.0005
  slippageRate := 0
  minimumTradeValueKrw := defaultPositionGuardStrategySettings.minimumTradeValueKrw

/-- `roundMoney` and `roundQuantity`. -/
structure Rounding where
  roundMoney : ℚ → ℚ
  roundQuantity : ℚ → ℚ

/-- No rounding. -/
def Rounding.exact : Rounding := ⟨id, id⟩

/-! ### Execution of a decision -/

section Execution

variable (R : Rounding)

def cloneState (state : PositionGuardBacktestState) : PositionGuardBacktestState where
  cashKrw := R.roundMoney state.cashKrw
  quantity := R.roundQuantity state.quantity
  averageEntryPrice := R.roundMoney state.averageEntryPrice

structure DecisionExecutionResult where
  state : PositionGuardBacktestState
  trade : Option PositionGuardBacktestTrade
  skipReason : Option PositionGuardBacktestSkipReason

structure ApplyDecisionInput where
  decision : PositionGuardEngineDecision
  state : PositionGuardBacktestState
  execution : PositionGuardBacktestExecutionModel
  minimumTradeValueKrw : ℚ

/-- The decision is not executed. -/
def skipped (input : ApplyDecisionInput) (reason : Option PositionGuardBacktestSkipReason) :
    DecisionExecutionResult :=
  ⟨cloneState R input.state, none, reason⟩

/-- A buy of the given gross value. -/
def executeBuy (input : ApplyDecisionInput) (grossNotional : ℚ) : DecisionExecutionResult :=
  let price := input.decision.referencePrice * (1 + input.execution.slippageRate)
  let quantity := grossNotional / price
  let feeKrw := grossNotional * input.execution.feeRate
  let previousCost := input.state.averageEntryPrice * input.state.quantity
  let nextQuantity := input.state.quantity + quantity
  let nextAverageEntryPrice :=
    if 0 < nextQuantity then (previousCost + grossNotional) / nextQuantity else 0
  { state :=
      { cashKrw := R.roundMoney (input.state.cashKrw - grossNotional - feeKrw)
        quantity := R.roundQuantity nextQuantity
        averageEntryPrice := R.roundMoney nextAverageEntryPrice }
    trade := some
      { action := if input.decision.action = .add then .add else .enter
        side := .bid
        price := R.roundMoney price
        quantity := R.roundQuantity quantity
        grossNotionalKrw := R.roundMoney grossNotional
        feeKrw := R.roundMoney feeKrw
        realizedPnlKrw := 0 }
    skipReason := none }

def applyBuy (input : ApplyDecisionInput) : DecisionExecutionResult :=
  let targetNotional := max 0 input.decision.targetNotionalKrw
  if targetNotional < input.minimumTradeValueKrw then skipped R input (some .belowMinimumTradeValue)
  else
    let grossNotional := min targetNotional (input.state.cashKrw / (1 + input.execution.feeRate))
    if grossNotional < input.minimumTradeValueKrw then skipped R input (some .insufficientCash)
    else executeBuy R input grossNotional

/-- The quantity a sell takes from the position. -/
def sellQuantity (input : ApplyDecisionInput) : ℚ :=
  let quantity :=
    if input.decision.action = .exit then input.state.quantity
    else input.state.quantity * input.decision.targetQuantityFraction.getD 0
  min input.state.quantity (max 0 quantity)

/-- A sell of the given quantity. -/
def executeSell (input : ApplyDecisionInput) (quantity : ℚ) : DecisionExecutionResult :=
  let price := input.decision.referencePrice * (1 - input.execution.slippageRate)
  let grossNotional := quantity * price
  let feeKrw := grossNotional * input.execution.feeRate
  let proceeds := grossNotional - feeKrw
  let costBasis := quantity * input.state.averageEntryPrice
  let nextQuantity := max 0 (input.state.quantity - quantity)
  { state :=
      { cashKrw := R.roundMoney (input.state.cashKrw + proceeds)
        quantity := R.roundQuantity nextQuantity
        averageEntryPrice := if 0 < nextQuantity then input.state.averageEntryPrice else 0 }
    trade := some
      { action := if input.decision.action = .exit then .exit else .reduce
        side := .ask
        price := R.roundMoney price
        quantity := R.roundQuantity quantity
        grossNotionalKrw := R.roundMoney grossNotional
        feeKrw := R.roundMoney feeKrw
        realizedPnlKrw := R.roundMoney (proceeds - costBasis) }
    skipReason := none }

def applySell (input : ApplyDecisionInput) : DecisionExecutionResult :=
  if input.state.quantity ≤ 0 then skipped R input (some .noPosition)
  else
    let price := input.decision.referencePrice * (1 - input.execution.slippageRate)
    if sellQuantity input * price < input.minimumTradeValueKrw then
      skipped R input (some .belowMinimumTradeValue)
    else executeSell R input (sellQuantity input)

def applyDecision (input : ApplyDecisionInput) : DecisionExecutionResult :=
  if input.decision.executionDisposition = .deferredConfirmation then skipped R input none
  else match input.decision.action with
  | .enter | .add => applyBuy R input
  | .reduce | .exit => applySell R input
  | .hold => skipped R input none

/-! ### The research state -/

/-- What a trade changes of the episode, before a full exit closes it. -/
def recordTrade (researchState : PositionGuardBacktestResearchState)
    (trade : PositionGuardBacktestTrade) (entryPath : StrategyEntryPath) :
    PositionGuardBacktestResearchState :=
  match trade.action with
  | .enter => { researchState with lastEntryPath := some entryPath }
  | .add =>
    { researchState with currentEpisodeAddCount := researchState.currentEpisodeAddCount + 1 }
  | .reduce | .exit =>
    { researchState with
      currentEpisodeRealizedPnlKrw :=
        R.roundMoney (researchState.currentEpisodeRealizedPnlKrw + trade.realizedPnlKrw) }

def advanceResearchState (researchState : PositionGuardBacktestResearchState)
    (executionResult : DecisionExecutionResult) (entryPath : StrategyEntryPath)
    (executedAt : String) : PositionGuardBacktestResearchState :=
  match executionResult.trade with
  | none => researchState
  | some trade =>
    let next := recordTrade R researchState trade entryPath
    if trade.action = .exit ∧ executionResult.state.quantity ≤ manifest.quantityTolerance then
      { next with
        currentEpisodeAddCount := 0
        lastFullExitAt := some executedAt
        lastFullExitRealizedPnlKrw := some next.currentEpisodeRealizedPnlKrw
        currentEpisodeRealizedPnlKrw := 0 }
    else next

end Execution

/-- The research state of a run without carry-in. -/
def emptyResearchState : PositionGuardBacktestResearchState where
  currentEpisodeAddCount := 0
  currentEpisodeRealizedPnlKrw := 0
  lastFullExitAt := none
  lastFullExitRealizedPnlKrw := none
  lastEntryPath := none

/-! ### The research policy of a run -/

def validateResearchExecutionPolicy
    (policy : Option PositionGuardBacktestResearchExecutionPolicy) :
    Except String (Option PositionGuardBacktestResearchExecutionPolicy) :=
  match policy with
  | some (.noAdd suppressedActions) =>
    if suppressedActions.length ≠ 1 ∨ suppressedActions.head? ≠ some .add then
      .error "NO_ADD research execution policy may only suppress ADD."
    else .ok policy
  | policy => .ok policy

def isInterventionResearchPolicy :
    Option PositionGuardBacktestResearchExecutionPolicy → Bool
  | some (.intervention _) => true
  | _ => false

def getConditionalAddSuppressionReason (policyId : PositionGuardBacktestConditionalAddPolicyId)
    (analysis : PositionGuardStructureAnalysis) : Option ConditionalAddReason :=
  if analysis.atrShock then some .atrShock
  else if analysis.weakeningStage ≠ .none then some .weakeningPresent
  else if policyId = .addRiskClear then none
  else if analysis.trendAlignmentScore < 4 then some .trendAlignmentBelow4
  else if policyId = .addHighAlignment then none
  else if analysis.regime ≠ .bullTrend ∧ analysis.regime ≠ .pullbackInUptrend then
    some .regimeNotCoreTrend
  else none

def getConditionalAddPolicyEvaluation
    (policy : Option PositionGuardBacktestResearchExecutionPolicy)
    (action : StrategyDecisionAction) (frame : PositionGuardBacktestFrame) :
    Option PositionGuardBacktestConditionalAddPolicyEvaluation :=
  match policy with
  | some (.conditionalAdd id) =>
    if action ≠ .add then none
    else
      some
        { policyId := id
          generatedAt := frame.generatedAt
          analysisSnapshot :=
            { atrShock := frame.analysis.atrShock
              weakeningStage := frame.analysis.weakeningStage
              trendAlignmentScore := frame.analysis.trendAlignmentScore
              regime := frame.analysis.regime }
          reason := getConditionalAddSuppressionReason id frame.analysis }
  | _ => none

def getResearchSuppression (policy : Option PositionGuardBacktestResearchExecutionPolicy)
    (action : StrategyDecisionAction)
    (conditionalEvaluation : Option PositionGuardBacktestConditionalAddPolicyEvaluation) :
    Option PositionGuardBacktestResearchSuppression :=
  if action ≠ .add then none
  else match policy with
  | some (.noAdd _) => some .noAdd
  | some (.conditionalAdd id) =>
    match conditionalEvaluation with
    | none => none
    | some evaluation =>
      evaluation.reason.map fun reason =>
        .conditionalAdd id reason evaluation.generatedAt evaluation.analysisSnapshot
  | _ => none

def interventionPolicyIdText : PositionGuardBacktestInterventionPolicyId → String
  | .htfTrendGate => "HTF_TREND_GATE"
  | .strictPullback => "STRICT_PULLBACK"
  | .earlyThesisFailure => "EARLY_THESIS_FAILURE"
  | .addLimited => "ADD_LIMITED"
  | .cooldownControl => "COOLDOWN_CONTROL"
  | .combinedConservative => "COMBINED_CONSERVATIVE"
  | .combinedMinusHtfTrendGate => "COMBINED_MINUS_HTF_TREND_GATE"
  | .combinedMinusEarlyThesisFailure => "COMBINED_MINUS_EARLY_THESIS_FAILURE"
  | .combinedMinusAddLimited => "COMBINED_MINUS_ADD_LIMITED"
  | .combinedMinusCooldownControl => "COMBINED_MINUS_COOLDOWN_CONTROL"

/-- `validateResearchState`: the counter and the numbers are what they have to be by their types. -/
def validateResearchState (state : PositionGuardBacktestResearchState) : Except String Unit :=
  match state.lastFullExitAt with
  | none => .ok ()
  | some lastFullExitAt => do
    let _ ← parseExactTimestamp lastFullExitAt
    .ok ()

/-- A policy that keeps count needs to know the episode that an initial position belongs to. -/
def requireCarryIn (input : PositionGuardBacktestInput)
    (policy : Option PositionGuardBacktestResearchExecutionPolicy) : Except String Unit :=
  match policy with
  | some (.intervention id) =>
    throwIf ((isComponentActive id .addLimited ∨ isComponentActive id .cooldownControl) ∧
        manifest.quantityTolerance < input.initialQuantity ∧ input.researchCarryInState = none)
      (interventionPolicyIdText id ++
        " requires explicit carry-in research state when initial quantity is non-zero.")
  | _ => .ok ()

def initializeResearchState (input : PositionGuardBacktestInput)
    (policy : Option PositionGuardBacktestResearchExecutionPolicy) :
    Except String PositionGuardBacktestResearchState := do
  requireCarryIn input policy
  let state := input.researchCarryInState.getD emptyResearchState
  validateResearchState state
  .ok state

/-! ### The run -/

structure PendingModeledDecision where
  decision : PositionGuardEngineDecision
  originalGeneratedAt : String
  sourceResultIndex : ℕ
  entryPath : StrategyEntryPath
  originalAction : StrategyDecisionAction
  effectiveAction : StrategyDecisionAction
  scenario : Option PositionGuardBacktestInterventionPolicyId
  intervention : Option InterventionSummary

/-- What a run is configured with, after the defaults. -/
structure RunConfig where
  asset : SupportedAsset
  market : SupportedMarket
  settings : PositionGuardStrategySettings
  execution : PositionGuardBacktestExecutionModel
  researchExecutionPolicy : Option PositionGuardBacktestResearchExecutionPolicy
  executionTimingModel : PositionGuardBacktestExecutionTimingModel

def RunConfig.minimumTradeValueKrw (config : RunConfig) : ℚ :=
  max config.execution.minimumTradeValueKrw config.settings.minimumTradeValueKrw

/-- The variables of the loop over the frames. -/
structure LoopState where
  state : PositionGuardBacktestState
  researchState : PositionGuardBacktestResearchState
  pendingDecision : Option PendingModeledDecision
  latestDecision : Option PreviousPositionGuardDecision
  peakEquity : ℚ
  metrics : PositionGuardBacktestMetrics
  results : List PositionGuardBacktestFrameResult

def getEquity (state : PositionGuardBacktestState) (currentPrice : ℚ) : ℚ :=
  state.cashKrw + state.quantity * currentPrice

def getInitialEquity (frames : List PositionGuardBacktestFrame)
    (state : PositionGuardBacktestState) : ℚ :=
  getEquity state ((frames.head?.map fun frame => frame.analysis.currentPrice).getD
    state.averageEntryPrice)

def isExecutableDecision (decision : PositionGuardEngineDecision) : Bool :=
  decision.executionDisposition ≠ .deferredConfirmation ∧
    (decision.action = .enter ∨ decision.action = .add ∨ decision.action = .reduce ∨
      decision.action = .exit)

def buildContext (config : RunConfig) (frame : PositionGuardBacktestFrame)
    (state : PositionGuardBacktestState) (latestDecision : Option PreviousPositionGuardDecision) :
    PositionGuardStrategyContext :=
  let currentPrice := frame.analysis.currentPrice
  let assetMarketValueKrw := state.quantity * currentPrice
  let averageEntryPrice := if 0 < state.quantity then state.averageEntryPrice else 0
  { asset := config.asset
    market := config.market
    generatedAt := frame.generatedAt
    availableKrw := state.cashKrw
    positionQuantity := state.quantity
    averageEntryPrice
    portfolio :=
      { totalEquityKrw := state.cashKrw + assetMarketValueKrw
        assetMarketValueKrw
        totalExposureKrw := assetMarketValueKrw }
    latestDecision
    recentExit := { createdAt := none, hoursSinceExit := none, realizedPnl := none }
    settings := config.settings
    analysis :=
      { frame.analysis with
        averageEntryPrice
        pnlPct := if 0 < averageEntryPrice then
          (currentPrice - averageEntryPrice) / averageEntryPrice else 0 } }

/-- `results[index].modeledExecution = evidence`, if there is such a result. -/
def markResult (results : List PositionGuardBacktestFrameResult) (index : ℕ)
    (evidence : PositionGuardBacktestModeledExecutionEvidence) :
    List PositionGuardBacktestFrameResult :=
  results.modify index fun result => { result with modeledExecution := some evidence }

/-- What a frame did with the decision of the frame before it. -/
structure Carried where
  loop : LoopState
  execution : Option DecisionExecutionResult
  origin : Option PositionGuardBacktestModeledTradeOriginEvidence

/-- What the strategy and the policy say at a frame. -/
structure Judgement where
  context : PositionGuardStrategyContext
  decision : PositionGuardEngineDecision
  intervention : Option PositionGuardBacktestResearchIntervention
  evaluation : Option PositionGuardBacktestConditionalAddPolicyEvaluation
  suppression : Option PositionGuardBacktestResearchSuppression

def Judgement.effectiveDecision (judgement : Judgement) : PositionGuardEngineDecision :=
  toEffectiveDecision judgement.decision judgement.intervention

/-- The policy keeps the decision from being executed. -/
def Judgement.isSuppressed (judgement : Judgement) : Bool :=
  judgement.suppression.isSome ∨ judgement.intervention.any (·.outcome = .suppress)

/-- What a frame executed, or will have executed at the next frame. -/
structure Executed where
  loop : LoopState
  result : DecisionExecutionResult
  modeledExecution : Option PositionGuardBacktestModeledExecutionEvidence

section Run

variable (R : Rounding)
  (decidePositionGuardCore : PositionGuardStrategyContext → PositionGuardEngineDecision)
  (config : RunConfig)

/-- With the next-frame timing, the decision of the frame before is executed at this one. -/
def executePending (loop : LoopState) (frame : PositionGuardBacktestFrame) (frameIndex : ℕ) :
    Carried :=
  match config.executionTimingModel, loop.pendingDecision with
  | .nextFrameModeled, some pending =>
    let executionDecision :=
      { pending.decision with referencePrice := frame.analysis.currentPrice }
    let execution := applyDecision R
      { decision := executionDecision
        state := loop.state
        execution := config.execution
        minimumTradeValueKrw := config.minimumTradeValueKrw }
    { loop :=
        { loop with
          state := execution.state
          researchState := advanceResearchState R loop.researchState execution pending.entryPath
            frame.generatedAt
          pendingDecision := none
          results := markResult loop.results pending.sourceResultIndex
            { timingModel := .nextFrameModeled
              decisionGeneratedAt := pending.originalGeneratedAt
              status := if execution.trade.isSome then .executedNextFrame else .skippedNextFrame
              executedAt := some frame.generatedAt
              executionPrice := some frame.analysis.currentPrice
              reason := execution.skipReason.map .skip } }
      execution := some execution
      origin := execution.trade.map fun _ =>
        { decisionGeneratedAt := pending.originalGeneratedAt
          decisionFrameIndex := pending.sourceResultIndex
          executedAt := frame.generatedAt
          executionFrameIndex := frameIndex
          originalAction := pending.originalAction
          effectiveAction := pending.effectiveAction
          scenario := pending.scenario
          intervention := pending.intervention } }
  | _, _ => { loop, execution := none, origin := none }

/-- The intervention of the policy, if it is one that intervenes. -/
def interventionAt (loop : LoopState) (frame : PositionGuardBacktestFrame)
    (context : PositionGuardStrategyContext) (decision : PositionGuardEngineDecision) :
    Except String (Option PositionGuardBacktestResearchIntervention) :=
  match config.researchExecutionPolicy with
  | some (.intervention policyId) =>
    evaluatePositionGuardResearchIntervention
      { policyId
        generatedAt := frame.generatedAt
        decision
        state := loop.state
        researchState := loop.researchState
        analysis := context.analysis }
  | _ => .ok none

def judge (loop : LoopState) (frame : PositionGuardBacktestFrame) : Except String Judgement := do
  let context := buildContext config frame loop.state loop.latestDecision
  let decision := decidePositionGuardCore context
  let intervention ← interventionAt config loop frame context decision
  let evaluation :=
    getConditionalAddPolicyEvaluation config.researchExecutionPolicy decision.action frame
  .ok
    { context
      decision
      intervention
      evaluation
      suppression :=
        getResearchSuppression config.researchExecutionPolicy decision.action evaluation }

/-- The decision that waits for the next frame. -/
def pendingOf (loop : LoopState) (frame : PositionGuardBacktestFrame) (judgement : Judgement) :
    PendingModeledDecision where
  decision := judgement.effectiveDecision
  originalGeneratedAt := frame.generatedAt
  sourceResultIndex := loop.results.length
  entryPath := judgement.context.analysis.entryPath
  originalAction := judgement.decision.action
  effectiveAction := judgement.effectiveDecision.action
  scenario := judgement.intervention.map (·.scenario)
  intervention := judgement.intervention.map fun i => { outcome := i.outcome, reason := i.reason }

/-- Nothing is executed. -/
def notExecuted (loop : LoopState) : DecisionExecutionResult := ⟨cloneState R loop.state, none, none⟩

def executeFrame (loop : LoopState) (frame : PositionGuardBacktestFrame) (judgement : Judgement)
    (carried : Option DecisionExecutionResult) : Executed :=
  match config.executionTimingModel with
  | .nextFrameModeled =>
    let result := carried.getD (notExecuted R loop)
    if ¬ judgement.isSuppressed ∧ isExecutableDecision judgement.effectiveDecision then
      { loop := { loop with pendingDecision := some (pendingOf loop frame judgement) }
        result
        modeledExecution := some
          { timingModel := .nextFrameModeled
            decisionGeneratedAt := frame.generatedAt
            status := .pendingNextFrame
            executedAt := none
            executionPrice := none
            reason := none } }
    else { loop, result, modeledExecution := none }
  | .sameCloseModeled =>
    let result :=
      if judgement.isSuppressed then notExecuted R loop
      else applyDecision R
        { decision := judgement.effectiveDecision
          state := loop.state
          execution := config.execution
          minimumTradeValueKrw := config.minimumTradeValueKrw }
    { loop :=
        { loop with
          state := result.state
          researchState := advanceResearchState R loop.researchState result
            judgement.context.analysis.entryPath frame.generatedAt }
      result
      modeledExecution := none }

/-- `counts[key] += 1`. -/
def bump {κ : Type} [DecidableEq κ] (counts : κ → ℕ) (key : κ) : κ → ℕ :=
  Function.update counts key (counts key + 1)

def recordMetrics (metrics : PositionGuardBacktestMetrics) (state : PositionGuardBacktestState)
    (frame : PositionGuardBacktestFrame) (action : StrategyDecisionAction)
    (result : DecisionExecutionResult) (equity drawdownPct : ℚ) : PositionGuardBacktestMetrics :=
  { metrics with
    actionCounts := bump metrics.actionCounts action
    regimeCounts := bump metrics.regimeCounts frame.analysis.regime
    finalEquityKrw := equity
    maxDrawdownPct := max metrics.maxDrawdownPct drawdownPct
    timeInMarketFrames := metrics.timeInMarketFrames + (if 0 < state.quantity then 1 else 0)
    tradeCount := metrics.tradeCount + (if result.trade.isSome then 1 else 0)
    turnoverKrw := metrics.turnoverKrw + (result.trade.map (·.grossNotionalKrw)).getD 0
    feesKrw := metrics.feesKrw + (result.trade.map (·.feeKrw)).getD 0
    realizedPnlKrw := metrics.realizedPnlKrw + (result.trade.map (·.realizedPnlKrw)).getD 0
    skippedOrderCount := metrics.skippedOrderCount +
      (if result.trade.isNone ∧ result.skipReason.isSome then 1 else 0) }

/-- The end of a turn of the loop: the equity, the metrics, the result and the latest decision. -/
def recordFrame (executed : Executed) (frame : PositionGuardBacktestFrame)
    (startingState : PositionGuardBacktestState) (judgement : Judgement)
    (origin : Option PositionGuardBacktestModeledTradeOriginEvidence) : LoopState :=
  let loop := executed.loop
  let equity := getEquity loop.state frame.analysis.currentPrice
  let peakEquity := max loop.peakEquity equity
  let drawdownPct := if 0 < peakEquity then (peakEquity - equity) / peakEquity else 0
  { loop with
    peakEquity
    metrics := recordMetrics loop.metrics loop.state frame judgement.decision.action
      executed.result equity drawdownPct
    results := loop.results ++
      [{ generatedAt := frame.generatedAt
         regime := frame.analysis.regime
         source := frame.source
         decision := judgement.decision
         startingState
         endingState := cloneState R loop.state
         executed := executed.result.trade.isSome
         trade := executed.result.trade
         skipReason := executed.result.skipReason
         equityKrw := R.roundMoney equity
         drawdownPct
         researchSuppression := config.researchExecutionPolicy.map fun _ => judgement.suppression
         researchPolicyEvaluation := match config.researchExecutionPolicy with
           | none | some (.noAdd _) => none
           | some _ => some judgement.evaluation
         researchIntervention :=
           if isInterventionResearchPolicy config.researchExecutionPolicy then
             some judgement.intervention else none
         modeledExecution := executed.modeledExecution
         modeledTradeOrigin := origin }]
    latestDecision := some
      { action := judgement.decision.action
        executionDisposition := judgement.decision.executionDisposition
        entryPath := judgement.decision.diagnostics.entryPath
        qualityBucket := judgement.decision.signalQuality.bucket
        createdAt := frame.generatedAt } }

/-- One turn of the loop over the frames. -/
def runFrame (loop : LoopState) (entry : PositionGuardBacktestFrame × ℕ) :
    Except String LoopState := do
  let carried := executePending R config loop entry.1 entry.2
  let startingState := cloneState R carried.loop.state
  let judgement ← judge decidePositionGuardCore config carried.loop entry.1
  let executed := executeFrame R config carried.loop entry.1 judgement carried.execution
  .ok (recordFrame R config executed entry.1 startingState judgement carried.origin)

/-- The results, after the decision that no frame followed is marked. -/
def finalResults (loop : LoopState) : List PositionGuardBacktestFrameResult :=
  match loop.pendingDecision with
  | none => loop.results
  | some pending =>
    markResult loop.results pending.sourceResultIndex
      { timingModel := .nextFrameModeled
        decisionGeneratedAt := pending.originalGeneratedAt
        status := .skippedNoNextFrame
        executedAt := none
        executionPrice := none
        reason := some .noNextFrame }

def finishRun (initialEquity : ℚ) (loop : LoopState) : PositionGuardBacktestResult :=
  let finalEquityKrw := R.roundMoney loop.metrics.finalEquityKrw
  { frames := finalResults loop
    metrics :=
      { loop.metrics with
        finalEquityKrw
        totalReturnPct :=
          if 0 < initialEquity then (finalEquityKrw - initialEquity) / initialEquity else 0
        turnoverKrw := R.roundMoney loop.metrics.turnoverKrw
        feesKrw := R.roundMoney loop.metrics.feesKrw
        realizedPnlKrw := R.roundMoney loop.metrics.realizedPnlKrw }
    finalState := cloneState R loop.state
    finalResearchState :=
      if isInterventionResearchPolicy config.researchExecutionPolicy then some loop.researchState
      else none }

/-- The variables of the loop before the first frame. -/
def initialLoop (state : PositionGuardBacktestState)
    (researchState : PositionGuardBacktestResearchState) (initialEquity : ℚ) : LoopState where
  state
  researchState
  pendingDecision := none
  latestDecision := none
  peakEquity := initialEquity
  metrics :=
    { actionCounts := fun _ => 0
      regimeCounts := fun _ => 0
      tradeCount := 0
      skippedOrderCount := 0
      turnoverKrw := 0
      feesKrw := 0
      realizedPnlKrw := 0
      finalEquityKrw := initialEquity
      totalReturnPct := 0
      maxDrawdownPct := 0
      timeInMarketFrames := 0 }
  results := []

end Run

/-- The configuration of a run with its defaults. -/
def PositionGuardBacktestInput.config (input : PositionGuardBacktestInput)
    (researchExecutionPolicy : Option PositionGuardBacktestResearchExecutionPolicy) :
    RunConfig where
  asset := input.asset
  market := input.market
  settings := input.settings.getD defaultPositionGuardStrategySettings
  execution := input.execution.getD defaultBacktestExecution
  researchExecutionPolicy
  executionTimingModel := input.executionTimingModel.getD .sameCloseModeled

def runPositionGuardBacktest (R : Rounding)
    (decidePositionGuardCore : PositionGuardStrategyContext → PositionGuardEngineDecision)
    (input : PositionGuardBacktestInput) : Except String PositionGuardBacktestResult := do
  let policy ← validateResearchExecutionPolicy input.researchExecutionPolicy
  let state : PositionGuardBacktestState :=
    { cashKrw := input.initialCashKrw
      quantity := input.initialQuantity
      averageEntryPrice := input.initialAverageEntryPrice }
  let researchState ← initializeResearchState input policy
  let initialEquity := getInitialEquity input.frames state
  let loop ← input.frames.zipIdx.foldlM
    (runFrame R decidePositionGuardCore (input.config policy))
    (initialLoop state researchState initialEquity)
  .ok (finishRun R (input.config policy) initialEquity loop)

end AutoTrade.Strategy.Backtest
