import AutoTrade.Domain.Types
import Mathlib.Data.Rat.Defs

/-! # The records of the strategy

The enumerations and records of `position-guard-core.ts` that the candidate policy, the research
policy and the backtest read or write. Numbers are rationals. -/

namespace AutoTrade.Strategy.Core

open Domain.Types

/-! ### Enumerations -/

inductive StrategyMarketRegime
  | bullTrend
  | pullbackInUptrend
  | earlyRecovery
  | reclaimAttempt
  | range
  | weakDowntrend
  | breakdownRisk
  deriving DecidableEq

inductive StrategyRiskLevel
  | low
  | moderate
  | elevated
  | high
  deriving DecidableEq

inductive StrategyInvalidationState
  | clear
  | unclear
  | broken
  deriving DecidableEq

inductive StrategyEntryPath
  | pullback
  | reclaim
  | breakoutHold
  | none
  deriving DecidableEq

def entryPathText : StrategyEntryPath → String
  | .pullback => "PULLBACK"
  | .reclaim => "RECLAIM"
  | .breakoutHold => "BREAKOUT_HOLD"
  | .none => "NONE"

inductive StrategyWeakeningStage
  | none
  | soft
  | clear
  | failure
  deriving DecidableEq

inductive StrategySignalQualityBucket
  | high
  | medium
  | borderline
  | low
  deriving DecidableEq

inductive StrategyExecutionDisposition
  | immediate
  | deferredConfirmation
  | executedAfterConfirmation
  | skipped
  deriving DecidableEq

inductive StructureLocation
  | lower
  | middle
  | upper
  deriving DecidableEq

inductive SupportedAsset
  | btc
  | eth
  deriving DecidableEq

def assetText : SupportedAsset → String
  | .btc => "BTC"
  | .eth => "ETH"

def getAssetForMarket : SupportedMarket → SupportedAsset
  | .krwBtc => .btc
  | .krwEth => .eth

/-- The actions that trade: `Extract<StrategyDecisionAction, "ENTER" | "ADD" | "REDUCE" | "EXIT">`. -/
inductive ExecutedAction
  | enter
  | add
  | reduce
  | exit
  deriving DecidableEq

/-! ### Analysis and decision -/

structure PositionGuardStrategySettings where
  minimumTradeValueKrw : ℚ
  entryAllocation : ℚ
  addAllocation : ℚ
  reduceFraction : ℚ
  perAssetMaxAllocation : ℚ
  strongTrendPerAssetMaxAllocation : ℚ
  totalPortfolioMaxExposure : ℚ

/-- `DEFAULT_POSITION_GUARD_STRATEGY_SETTINGS`. -/
def defaultPositionGuardStrategySettings : PositionGuardStrategySettings where
  minimumTradeValueKrw := 5000
  entryAllocation := 0.30
  addAllocation := 0.18
  reduceFraction := 0.33
  perAssetMaxAllocation := 0.45
  strongTrendPerAssetMaxAllocation := 0.60
  totalPortfolioMaxExposure := 0.75

structure PositionGuardStructureAnalysis where
  regime : StrategyMarketRegime
  riskLevel : StrategyRiskLevel
  invalidationState : StrategyInvalidationState
  invalidationLevel : Option ℚ
  pullbackZone : Bool
  reclaimStructure : Bool
  breakoutHoldStructure : Bool
  upperRangeChase : Bool
  currentPrice : ℚ
  entryPath : StrategyEntryPath
  trendAlignmentScore : ℚ
  recoveryQualityScore : ℚ
  breakdownPressureScore : ℚ
  weakeningStage : StrategyWeakeningStage
  breakdown1d : Bool
  breakdown4h : Bool
  failedReclaim : Bool
  bearishMomentumExpansion : Bool
  volumeRecovery : Bool
  macdImproving : Bool
  rsiRecovery : Bool
  atrShock : Bool
  averageEntryPrice : ℚ
  pnlPct : ℚ
  oneHourLocation : Option StructureLocation
  fourHourLocation : Option StructureLocation
  deriving DecidableEq

structure PreviousPositionGuardDecision where
  action : StrategyDecisionAction
  executionDisposition : StrategyExecutionDisposition
  entryPath : StrategyEntryPath
  qualityBucket : StrategySignalQualityBucket
  createdAt : String

structure RecentExitContext where
  createdAt : Option String
  hoursSinceExit : Option ℚ
  realizedPnl : Option ℚ

structure PortfolioValues where
  totalEquityKrw : ℚ
  assetMarketValueKrw : ℚ
  totalExposureKrw : ℚ

structure PositionGuardStrategyContext where
  asset : SupportedAsset
  market : SupportedMarket
  generatedAt : String
  availableKrw : ℚ
  positionQuantity : ℚ
  averageEntryPrice : ℚ
  portfolio : PortfolioValues
  latestDecision : Option PreviousPositionGuardDecision
  recentExit : RecentExitContext
  settings : PositionGuardStrategySettings
  analysis : PositionGuardStructureAnalysis

structure SignalQuality where
  score : ℚ
  bucket : StrategySignalQualityBucket
  confirmationRequired : Bool
  confirmationSatisfied : Bool
  reentryPenaltyApplied : Bool
  deriving DecidableEq

structure ExposureGuardrails where
  perAssetMaxAllocation : ℚ
  totalPortfolioMaxExposure : ℚ
  remainingAssetCapacity : ℚ
  remainingPortfolioCapacity : ℚ
  deriving DecidableEq

structure StructureDiagnostics where
  regime : StrategyMarketRegime
  riskLevel : StrategyRiskLevel
  invalidationState : StrategyInvalidationState
  invalidationLevel : Option ℚ
  entryPath : StrategyEntryPath
  trendAlignmentScore : ℚ
  recoveryQualityScore : ℚ
  breakdownPressureScore : ℚ
  weakeningStage : StrategyWeakeningStage
  upperRangeChase : Bool
  pullbackZone : Bool
  reclaimStructure : Bool
  breakoutHoldStructure : Bool
  deriving DecidableEq

structure PositionGuardEngineDecision where
  action : StrategyDecisionAction
  summary : String
  reasons : List String
  targetNotionalKrw : ℚ
  targetQuantityFraction : Option ℚ
  referencePrice : ℚ
  executionDisposition : StrategyExecutionDisposition
  signalQuality : SignalQuality
  exposureGuardrails : ExposureGuardrails
  diagnostics : StructureDiagnostics
  deriving DecidableEq

end AutoTrade.Strategy.Core
