import AutoTrade.Domain.IsoDate
import AutoTrade.Strategy.Core
import Mathlib.Data.Rat.Floor

/-! # The core decision

`decidePositionGuardCore` of `position-guard-core.ts`: the scores of a market structure and the
decision they lead to. A buy whose score lies between the two thresholds is deferred, and is executed
when the latest decision was the same buy, deferred in the hour before.

* `decide_executed`: a decision executed after confirmation is a buy whose confirmation was pending. -/

namespace AutoTrade.Strategy.CoreDecision

open Domain.Types Domain.IsoDate Strategy.Core

/-! ### Texts -/

/-- The source's text of a regime. -/
def regimeText : StrategyMarketRegime → String
  | .bullTrend => "BULL_TREND"
  | .pullbackInUptrend => "PULLBACK_IN_UPTREND"
  | .earlyRecovery => "EARLY_RECOVERY"
  | .reclaimAttempt => "RECLAIM_ATTEMPT"
  | .range => "RANGE"
  | .weakDowntrend => "WEAK_DOWNTREND"
  | .breakdownRisk => "BREAKDOWN_RISK"

/-- The text of a stage. -/
def weakeningStageText : StrategyWeakeningStage → String
  | .none => "NONE"
  | .soft => "SOFT"
  | .clear => "CLEAR"
  | .failure => "FAILURE"

/-! ### Constants -/

/-- The key that each decision carries. -/
def positionGuardStrategyKey : String := "position_guard.paper_core.v1"

/-- From this score an entry is made at once, from the next one it waits an hour. -/
def entryStrongThreshold : ℤ := 8
def entryBorderlineThreshold : ℤ := 6
/-- The same two scores of an add. -/
def addStrongThreshold : ℤ := 8
def addBorderlineThreshold : ℤ := 6
/-- The weakness that calls for a reduction, of an unhealthy and of a healthy position. -/
def reduceThreshold : ℤ := 4
def healthyHoldReduceThreshold : ℤ := 5
/-- How long an exit, and one at a loss, counts against a new entry. -/
def recentExitPenaltyHours : ℚ := 24
def recentLossExitPenaltyHours : ℚ := 12
/-- A confirmation comes one hour after the deferral. -/
def hourlyConfirmationWindowMs : ℤ := 3600000

/-- The actions that take on risk: `"ENTER" | "ADD"`. -/
inductive BullishAction
  | enter
  | add
  deriving DecidableEq

/-- As an action of a decision. -/
def BullishAction.action : BullishAction → StrategyDecisionAction
  | .enter => .enter
  | .add => .add

/-! ### Rounding -/

/-- `Number(value.toFixed(places))`. -/
def toFixed (places : ℕ) (value : ℚ) : ℚ :=
  if 10 ^ 21 ≤ |value| then value
  else if value < 0 then -(⌊-value * 10 ^ places + 1 / 2⌋ / 10 ^ places)
  else ⌊value * 10 ^ places + 1 / 2⌋ / 10 ^ places

/-- Amounts have six decimal places. -/
def roundMoney (value : ℚ) : ℚ := toFixed 6 value

/-- Quantities have twelve. -/
def roundQuantity (value : ℚ) : ℚ := toFixed 12 value

/-- The part of the position that a decision sells. -/
def getRequestedQuantity (positionQuantity : ℚ) (targetQuantityFraction : Option ℚ) : Option ℚ :=
  targetQuantityFraction.map fun fraction => roundQuantity (positionQuantity * fraction)

/-! ### Structure -/

section Analysis

variable (analysis : PositionGuardStructureAnalysis)

/-- A pullback that is low in its range, or recovers in volume. -/
def hasConstructivePullbackQuality : Bool :=
  analysis.pullbackZone ∧
    (analysis.oneHourLocation = some .lower ∨ analysis.fourHourLocation = some .lower ∨
      (analysis.oneHourLocation = some .middle ∧ analysis.volumeRecovery))

/-- Nothing speaks against keeping the position. -/
def isHealthyHoldState : Bool :=
  analysis.invalidationState = .clear ∧ ¬ analysis.failedReclaim ∧
    ¬ analysis.bearishMomentumExpansion ∧ analysis.regime ≠ .weakDowntrend

/-- The structure has failed: a position is sold whole. -/
def isImmediateExitRequired : Bool :=
  analysis.invalidationState = .broken ∨ analysis.breakdown1d ∨
    (analysis.breakdown4h ∧ analysis.bearishMomentumExpansion)

/-- The structure allows an entry. -/
def isConstructiveBullishCandidate : Bool :=
  analysis.invalidationState = .clear ∧ ¬ analysis.upperRangeChase ∧ ¬ analysis.breakdown1d ∧
    ¬ analysis.breakdown4h ∧
    (hasConstructivePullbackQuality analysis ∨ analysis.reclaimStructure ∨
      analysis.breakoutHoldStructure) ∧
    (analysis.regime = .bullTrend ∨ analysis.regime = .pullbackInUptrend ∨
      analysis.regime = .earlyRecovery ∨ analysis.regime = .reclaimAttempt)

/-- The structure allows to add to a position. -/
def isConstructiveAddCandidate : Bool :=
  isConstructiveBullishCandidate analysis ∧ isHealthyHoldState analysis ∧
    analysis.breakdownPressureScore ≤ 1 ∧ 3 ≤ analysis.trendAlignmentScore ∧
    (analysis.entryPath = .reclaim ∨ analysis.entryPath = .breakoutHold ∨
      (analysis.entryPath = .pullback ∧ 2 ≤ analysis.recoveryQualityScore))

/-- More than the weakening stage speaks for a reduction. -/
def hasIndependentReduceEvidence : Bool :=
  analysis.failedReclaim ∨ analysis.breakdown4h ∨ 2 ≤ analysis.breakdownPressureScore ∨
    analysis.atrShock ∨ analysis.upperRangeChase ∨ analysis.regime = .weakDowntrend ∨
    analysis.weakeningStage = .clear ∨ analysis.weakeningStage = .failure

/-- What a condition adds to a score. -/
def points (condition : Prop) [Decidable condition] (amount : ℤ) : ℤ :=
  if condition then amount else 0

/-- The weights are those of the source. -/
def computeBullishScore : ℤ :=
  (if analysis.regime = .bullTrend ∨ analysis.regime = .pullbackInUptrend then 3
    else if analysis.regime = .earlyRecovery then 2
    else if analysis.regime = .reclaimAttempt then 1 else 0) +
  points (analysis.invalidationState = .clear) 2 +
  (if hasConstructivePullbackQuality analysis then 1 else if analysis.pullbackZone then -1 else 0) +
  points (analysis.reclaimStructure = true) 2 +
  points (analysis.breakoutHoldStructure = true) 2 +
  points (analysis.volumeRecovery = true) 1 +
  points (analysis.macdImproving = true) 1 +
  points (analysis.rsiRecovery = true) 1 +
  points (analysis.upperRangeChase = true) (-2) +
  points (analysis.breakdown4h = true) (-3) +
  points (analysis.breakdown1d = true) (-4) +
  points (4 ≤ analysis.trendAlignmentScore) 1 +
  points (4 ≤ analysis.recoveryQualityScore) 1 +
  points (analysis.entryPath = .none) (-1) +
  points (3 ≤ analysis.breakdownPressureScore) (-1)

/-- How much speaks for a reduction. -/
def computeWeaknessScore : ℤ :=
  points (analysis.failedReclaim = true) 2 +
  points (analysis.bearishMomentumExpansion = true) 2 +
  points (analysis.breakdown4h = true) 2 +
  points (analysis.regime = .weakDowntrend) 1 +
  points (analysis.atrShock = true) 1 +
  points (analysis.upperRangeChase = true) 1

/-- The scores of an immediate and of a deferred buy. -/
structure BullishThresholds where
  strong : ℤ
  borderline : ℤ

/-- Both move alike. -/
def BullishThresholds.raise (thresholds : BullishThresholds) (amount : ℤ) : BullishThresholds :=
  ⟨thresholds.strong + amount, thresholds.borderline + amount⟩

/-- How much the entry path moves the thresholds. -/
def entryPathShift (action : BullishAction) : ℤ :=
  if analysis.entryPath = .reclaim ∧ 3 ≤ analysis.recoveryQualityScore ∧
      3 ≤ analysis.trendAlignmentScore then -1
  else if analysis.entryPath = .breakoutHold then
    1 + points (analysis.oneHourLocation = some .upper) 1
  else if analysis.entryPath = .pullback then
    points (action = .add) 1 +
      points (analysis.oneHourLocation ≠ some .lower ∧ analysis.fourHourLocation ≠ some .lower) 1
  else 0

/-- The borderline stays below the strong threshold. -/
def getBullishThresholds (action : BullishAction) : BullishThresholds :=
  let base : BullishThresholds := match action with
    | .enter => ⟨entryStrongThreshold, entryBorderlineThreshold⟩
    | .add => ⟨addStrongThreshold, addBorderlineThreshold⟩
  let raised := (base.raise (entryPathShift analysis action)).raise
    (points (2 ≤ analysis.breakdownPressureScore ∧ action = .add) 1)
  ⟨raised.strong, min raised.borderline (raised.strong - 1)⟩

/-- The share of the budgeted amount that a buy takes. -/
def getBullishAllocationMultiplier (action : BullishAction)
    (executionDisposition : StrategyExecutionDisposition) : ℚ :=
  let base : ℚ := if action = .enter then 0.72 else 0.48
  let path : ℚ :=
    if analysis.entryPath = .reclaim then 0.16
    else if analysis.entryPath = .breakoutHold then 0.12
    else if analysis.entryPath = .pullback ∧ (analysis.oneHourLocation = some .lower ∨
        analysis.fourHourLocation = some .lower) then 0.08
    else 0
  let trend : ℚ :=
    if 4 ≤ analysis.trendAlignmentScore then 0.08
    else if analysis.trendAlignmentScore ≤ 2 then -0.05 else 0
  let recovery : ℚ :=
    if 4 ≤ analysis.recoveryQualityScore then 0.08
    else if analysis.recoveryQualityScore ≤ 1 then -0.08 else 0
  let disposition : ℚ :=
    (if executionDisposition = .executedAfterConfirmation then -0.08 else 0) +
      (if executionDisposition = .deferredConfirmation then -0.18 else 0)
  max (if action = .enter then 0.35 else 0.25)
    (min (if action = .enter then 1 else 0.9) (base + path + trend + recovery + disposition))

/-- A strong trend may hold a larger share. -/
def getEffectivePerAssetMaxAllocation (settings : PositionGuardStrategySettings) : ℚ :=
  if analysis.invalidationState = .clear ∧ ¬ analysis.upperRangeChase ∧
      analysis.breakdownPressureScore ≤ 1 ∧ 4 ≤ analysis.trendAlignmentScore ∧
      4 ≤ analysis.recoveryQualityScore ∧
      (analysis.regime = .bullTrend ∨ analysis.regime = .pullbackInUptrend ∨
        analysis.entryPath = .reclaim) then
    max settings.perAssetMaxAllocation settings.strongTrendPerAssetMaxAllocation
  else settings.perAssetMaxAllocation

/-- What a decision keeps of the analysis. -/
def buildDiagnostics : StructureDiagnostics where
  regime := analysis.regime
  riskLevel := analysis.riskLevel
  invalidationState := analysis.invalidationState
  invalidationLevel := analysis.invalidationLevel
  entryPath := analysis.entryPath
  trendAlignmentScore := analysis.trendAlignmentScore
  recoveryQualityScore := analysis.recoveryQualityScore
  breakdownPressureScore := analysis.breakdownPressureScore
  weakeningStage := analysis.weakeningStage
  upperRangeChase := analysis.upperRangeChase
  pullbackZone := analysis.pullbackZone
  reclaimStructure := analysis.reclaimStructure
  breakoutHoldStructure := analysis.breakoutHoldStructure

end Analysis

/-- The bucket of a bullish score. -/
def toQualityBucket (score : ℤ) : StrategySignalQualityBucket :=
  if 8 ≤ score then .high
  else if 6 ≤ score then .medium
  else if 4 ≤ score then .borderline
  else .low

/-- The reason a buy gives for its path. -/
def getEntryPathReason : StrategyEntryPath → String
  | .reclaim => "Reclaim structure is intact."
  | .breakoutHold => "Breakout-hold structure is intact."
  | .pullback => "Constructive pullback structure is available."
  | .none => "No constructive entry path is active."

/-! ### The context -/

section Context

variable (context : PositionGuardStrategyContext)

/-- What a recent exit takes off the score of an entry. -/
def getReentryPenalty : ℤ :=
  if 0 < context.positionQuantity then 0
  else match context.recentExit.hoursSinceExit with
  | none => 0
  | some hours =>
    if recentExitPenaltyHours < hours then 0
    else
      max 0 (1 +
        points (hours ≤ recentLossExitPenaltyHours ∧ context.recentExit.realizedPnl.getD 0 ≤ 0) 1 +
        points (context.analysis.reclaimStructure = true ∧
          3 ≤ context.analysis.recoveryQualityScore) (-1))

/-- The room that the exposure limits leave, in KRW. -/
def buildExposureGuardrails : ExposureGuardrails :=
  let totalEquity := max context.portfolio.totalEquityKrw context.availableKrw
  let perAssetMaxAllocation := getEffectivePerAssetMaxAllocation context.analysis context.settings
  { perAssetMaxAllocation
    totalPortfolioMaxExposure := context.settings.totalPortfolioMaxExposure
    remainingAssetCapacity :=
      max 0 (totalEquity * perAssetMaxAllocation - context.portfolio.assetMarketValueKrw)
    remainingPortfolioCapacity :=
      max 0 (totalEquity * context.settings.totalPortfolioMaxExposure -
        context.portfolio.totalExposureKrw) }

/-- A buy of the minimum value fits everywhere. -/
def hasBullishRiskCapacity (exposureGuardrails : ExposureGuardrails) : Bool :=
  context.settings.minimumTradeValueKrw ≤ context.availableKrw ∧
    context.settings.minimumTradeValueKrw ≤ exposureGuardrails.remainingAssetCapacity ∧
    context.settings.minimumTradeValueKrw ≤ exposureGuardrails.remainingPortfolioCapacity

/-! ### Confirmation -/

/-- `toHourlyBucketMs`, of a time. -/
def hourlyBucketMs (ms : ℤ) : ℤ := ms / 3600000 * 3600000

variable (dates : DateParser)

/-- The start of the hour of a text; `none` is `NaN`. -/
def toHourlyBucketMs (value : String) : Option ℤ := (dates.parse value).map hourlyBucketMs

/-- The two lie in neighbouring hours. -/
def isImmediatePreviousHourlyDecision (previousCreatedAt currentGeneratedAt : String) : Bool :=
  match toHourlyBucketMs dates previousCreatedAt, toHourlyBucketMs dates currentGeneratedAt with
  | some previousBucket, some currentBucket =>
    currentBucket - previousBucket = hourlyConfirmationWindowMs
  | _, _ => false

/-- The latest decision was this buy, deferred one hour ago. -/
def hasPendingBullishConfirmation (action : BullishAction) (entryPath : StrategyEntryPath)
    (qualityBucket : StrategySignalQualityBucket) : Bool :=
  match context.latestDecision with
  | none => false
  | some latestDecision =>
    if latestDecision.action ≠ action.action ∨
        latestDecision.executionDisposition ≠ .deferredConfirmation then false
    else
      latestDecision.entryPath = entryPath ∧ latestDecision.qualityBucket = qualityBucket ∧
        isImmediatePreviousHourlyDecision dates latestDecision.createdAt context.generatedAt

/-! ### Decisions -/

/-- The signal quality of a decision that asks for no confirmation. -/
def unconfirmed (score : ℤ) (bucket : StrategySignalQualityBucket) (reentryPenaltyApplied : Bool) :
    SignalQuality where
  score := score
  bucket
  confirmationRequired := false
  confirmationSatisfied := false
  reentryPenaltyApplied

/-- The decision to buy, at once, deferred or confirmed. -/
def bullishDecision (action : BullishAction) (executionDisposition : StrategyExecutionDisposition)
    (qualityBucket : StrategySignalQualityBucket) (bullishScore : ℤ)
    (reentryPenaltyApplied confirmationSatisfied : Bool) (exposureGuardrails : ExposureGuardrails) :
    PositionGuardEngineDecision :=
  let analysis := context.analysis
  let budgetBase := max context.portfolio.totalEquityKrw context.availableKrw
  let baseNotional := budgetBase *
    (if action = .enter then context.settings.entryAllocation else context.settings.addAllocation)
  let deferred := executionDisposition = .deferredConfirmation
  { action := action.action
    summary := assetText context.asset ++ " " ++ action.action.text.toLower ++
      if deferred then " setup is deferred pending one additional hourly confirmation."
      else " is allowed by constructive structure."
    reasons := ["Regime is " ++ regimeText analysis.regime ++ ".",
      if deferred then
        "Bullish structure is valid but borderline, so " ++
          "one additional hourly confirmation is required."
      else "Constructive structure is strong enough to act.",
      getEntryPathReason analysis.entryPath]
    targetNotionalKrw :=
      max 0 (min (min (min
        (baseNotional * getBullishAllocationMultiplier analysis action executionDisposition)
        context.availableKrw) exposureGuardrails.remainingAssetCapacity)
        exposureGuardrails.remainingPortfolioCapacity)
    targetQuantityFraction := none
    referencePrice := analysis.currentPrice
    executionDisposition
    signalQuality :=
      { score := bullishScore
        bucket := qualityBucket
        confirmationRequired := deferred ∨ confirmationSatisfied
        confirmationSatisfied
        reentryPenaltyApplied }
    exposureGuardrails
    diagnostics := buildDiagnostics analysis }

/-- The decision to do nothing. -/
def holdDecision (reasons : List String) (score : ℤ) (qualityBucket : StrategySignalQualityBucket)
    (reentryPenaltyApplied : Bool) (exposureGuardrails : ExposureGuardrails) :
    PositionGuardEngineDecision where
  action := .hold
  summary := assetText context.asset ++
    if 0 < context.positionQuantity then
      " stays on hold while the existing position remains valid."
    else " stays on hold because entry quality is not strong enough yet."
  reasons
  targetNotionalKrw := 0
  targetQuantityFraction := none
  referencePrice := context.analysis.currentPrice
  executionDisposition := .skipped
  signalQuality := unconfirmed score qualityBucket reentryPenaltyApplied
  exposureGuardrails
  diagnostics := buildDiagnostics context.analysis

/-- An exit without a position is a hold. -/
def flatNoPositionExitHoldDecision (reentryPenaltyApplied : Bool)
    (exposureGuardrails : ExposureGuardrails) : PositionGuardEngineDecision where
  action := .hold
  summary := "No position is open for " ++ assetText context.asset ++
    ", so the strategy holds flat instead of emitting an exit."
  reasons := ["Regime is " ++ regimeText context.analysis.regime ++ ".",
    "No position is open, so bearish exit evidence is treated as flat-state risk " ++
      "avoidance rather than a sell order.",
    "Higher-timeframe support has broken or invalidation is already broken."]
  targetNotionalKrw := 0
  targetQuantityFraction := none
  referencePrice := context.analysis.currentPrice
  executionDisposition := .skipped
  signalQuality := unconfirmed 0 .low reentryPenaltyApplied
  exposureGuardrails
  diagnostics := buildDiagnostics context.analysis

/-- The decision on an exit of a position. -/
def exitDecision (reentryPenaltyApplied : Bool) (exposureGuardrails : ExposureGuardrails) :
    PositionGuardEngineDecision where
  action := .exit
  summary := assetText context.asset ++ " exit is required because invalidation has failed."
  reasons := ["Regime is " ++ regimeText context.analysis.regime ++ ".",
    "Higher-timeframe support has broken or invalidation is already broken.",
    "Invalidation-first exit remains immediate and unchanged."]
  targetNotionalKrw := 0
  targetQuantityFraction := some 1
  referencePrice := context.analysis.currentPrice
  executionDisposition := .immediate
  signalQuality := unconfirmed 0 .low reentryPenaltyApplied
  exposureGuardrails
  diagnostics := buildDiagnostics context.analysis

/-- The reasons, after the regime, for which a kind of buy is held back. -/
structure HoldReasons where
  structureTooWeak : String
  noCapacity : String
  belowThreshold : String

/-- `decideFlatPositionAction` and `decideAddOrHoldAction`, which differ in the action, in the
structure they ask for and in the reasons they give. -/
def decideBullishAction (action : BullishAction) (isCandidate : Bool) (holdReasons : HoldReasons)
    (bullishScore : ℤ) (qualityBucket : StrategySignalQualityBucket) (reentryPenaltyApplied : Bool)
    (exposureGuardrails : ExposureGuardrails) : PositionGuardEngineDecision :=
  let thresholds := getBullishThresholds context.analysis action
  let hold reason := holdDecision context
    ["Regime is " ++ regimeText context.analysis.regime ++ ".", reason] bullishScore qualityBucket
    reentryPenaltyApplied exposureGuardrails
  if isCandidate = false then hold holdReasons.structureTooWeak
  else if hasBullishRiskCapacity context exposureGuardrails = false then hold holdReasons.noCapacity
  else if thresholds.strong ≤ bullishScore then
    bullishDecision context action .immediate qualityBucket bullishScore reentryPenaltyApplied false
      exposureGuardrails
  else if thresholds.borderline ≤ bullishScore then
    let confirmationSatisfied := hasPendingBullishConfirmation context dates action
      context.analysis.entryPath qualityBucket
    bullishDecision context action
      (if confirmationSatisfied then .executedAfterConfirmation else .deferredConfirmation)
      qualityBucket bullishScore reentryPenaltyApplied confirmationSatisfied exposureGuardrails
  else hold holdReasons.belowThreshold

/-- Without a position: an entry or nothing. -/
def decideFlatPositionAction (bullishScore : ℤ) (qualityBucket : StrategySignalQualityBucket)
    (reentryPenaltyApplied : Bool) (exposureGuardrails : ExposureGuardrails) :
    PositionGuardEngineDecision :=
  decideBullishAction context dates .enter (isConstructiveBullishCandidate context.analysis)
    { structureTooWeak :=
        if context.analysis.upperRangeChase then "Price is too extended for a no-chase entry."
        else "Bullish structure is not strong enough to justify a fresh entry."
      noCapacity := "Exposure guardrails leave no room for additional risk right now."
      belowThreshold :=
        if reentryPenaltyApplied then
          "Recent exit caution slightly raised the entry threshold and the " ++
            "recovery quality is not strong enough yet."
        else "Bullish score did not clear the entry hysteresis threshold." }
    bullishScore qualityBucket reentryPenaltyApplied exposureGuardrails

/-- With a position to keep: an add or nothing. -/
def decideAddOrHoldAction (bullishScore : ℤ) (qualityBucket : StrategySignalQualityBucket)
    (reentryPenaltyApplied : Bool) (exposureGuardrails : ExposureGuardrails) :
    PositionGuardEngineDecision :=
  decideBullishAction context dates .add (isConstructiveAddCandidate context.analysis)
    { structureTooWeak :=
        if context.analysis.weakeningStage = .soft then
          "Existing position is still valid, but mild weakening means add quality " ++
            "is not strong enough yet."
        else
          "Existing position remains valid, but add quality needs stronger trend " ++
            "alignment and recovery structure."
      noCapacity := "Exposure guardrails leave no room for an additional add."
      belowThreshold :=
        "Existing hold remains valid, but add quality did not clear the stricter add threshold." }
    bullishScore qualityBucket reentryPenaltyApplied exposureGuardrails

/-! ### Reductions -/

/-- How much of the position to sell, and why. -/
structure StructuredReducePlan where
  reduceFraction : ℚ
  qualityBucket : StrategySignalQualityBucket
  reasons : List String

/-- The order is worth the minimum. -/
def hasMinimumReduceOrderValue (reduceFraction : ℚ) : Bool :=
  match getRequestedQuantity context.positionQuantity (some reduceFraction) with
  | none => false
  | some requestedQuantity =>
    context.settings.minimumTradeValueKrw ≤ requestedQuantity * context.analysis.currentPrice

/-- A plan below the minimum order is dropped. -/
def buildStructuredReducePlan (reduceFraction : ℚ) (qualityBucket : StrategySignalQualityBucket)
    (reasons : List String) : Option StructuredReducePlan :=
  if hasMinimumReduceOrderValue context reduceFraction then
    some ⟨reduceFraction, qualityBucket, reasons⟩
  else none

/-- The weaker the structure, the larger the share. -/
def getGraduatedReduceFraction (weaknessScore : ℤ) (base : ℚ) : ℚ :=
  if 7 ≤ weaknessScore then min 0.9 (base * 1.75)
  else if 5 ≤ weaknessScore then min 0.75 (base * 1.2)
  else max 0.2 (base * 0.65)

/-- The plan by weakness and stage. -/
def getLegacyStructuredReducePlan (weaknessScore : ℤ) : Option StructuredReducePlan :=
  let analysis := context.analysis
  let healthyThreshold :=
    if isHealthyHoldState analysis then healthyHoldReduceThreshold else reduceThreshold
  let threshold :=
    if analysis.weakeningStage = .clear then max 3 (healthyThreshold - 1) else healthyThreshold
  if analysis.weakeningStage = .soft then
    if analysis.pnlPct < 0.02 ∨ hasIndependentReduceEvidence analysis = false then none
    else buildStructuredReducePlan context
      (min 0.35 (max 0.15 (context.settings.reduceFraction * 0.5))) .borderline
      ["Weakening is still soft, so any reduction stays modest and mainly protects open gains."]
  else if analysis.weakeningStage = .none ∧ hasIndependentReduceEvidence analysis = false then none
  else if weaknessScore < threshold then none
  else buildStructuredReducePlan context
    (getGraduatedReduceFraction weaknessScore context.settings.reduceFraction)
    (if 7 ≤ weaknessScore then .high else if 5 ≤ weaknessScore then .medium else .borderline)
    [if analysis.weakeningStage = .clear then
        "Weakening has become clear enough that a larger staged reduction is now justified."
      else "Weakening evidence cleared the reduce hysteresis threshold."]

/-- A gain in a weak downtrend that gets worse. -/
def hasProfitableWeakDowntrendDeterioration (analysis : PositionGuardStructureAnalysis) : Bool :=
  analysis.regime = .weakDowntrend ∧ 0.02 ≤ analysis.pnlPct ∧
    (analysis.failedReclaim ∨ analysis.bearishMomentumExpansion ∨ analysis.atrShock ∨
      2 ≤ analysis.breakdownPressureScore ∨ analysis.weakeningStage ≠ .none)

/-- A gain at the risk of a breakdown. -/
def hasProfitableBreakdownRiskDeterioration (analysis : PositionGuardStructureAnalysis) : Bool :=
  analysis.regime = .breakdownRisk ∧ 0.02 ≤ analysis.pnlPct ∧
    (2 ≤ analysis.breakdownPressureScore ∨ analysis.failedReclaim ∨
      analysis.bearishMomentumExpansion ∨ analysis.atrShock ∨ analysis.weakeningStage ≠ .none)

/-- A gain in a range that weakens a little. -/
def hasProfitableRangeProtectionEvidence (analysis : PositionGuardStructureAnalysis) : Bool :=
  analysis.regime = .range ∧ 0.02 ≤ analysis.pnlPct ∧ analysis.weakeningStage = .soft ∧
    (analysis.failedReclaim ∨ analysis.bearishMomentumExpansion ∨ analysis.atrShock ∨
      analysis.upperRangeChase ∨ 1 ≤ analysis.breakdownPressureScore)

/-- The plan that protects a gain. -/
def getDefensiveExposureReducePlan (weaknessScore : ℤ) : Option StructuredReducePlan :=
  let reduceFraction := context.settings.reduceFraction
  if hasProfitableWeakDowntrendDeterioration context.analysis then
    buildStructuredReducePlan context (min 0.45 (max 0.25 (reduceFraction * 0.9)))
      (if 4 ≤ weaknessScore then .medium else .borderline)
      ["Weak downtrend exposure is profitable and has independent deterioration, so the position " ++
        "shifts to defensive reduction."]
  else if hasProfitableBreakdownRiskDeterioration context.analysis then
    buildStructuredReducePlan context (min 0.55 (max 0.3 reduceFraction))
      (if 5 ≤ weaknessScore then .medium else .borderline)
      ["Breakdown risk exposure is profitable and elevated, so exposure is reduced before full " ++
        "invalidation is reached."]
  else if hasProfitableRangeProtectionEvidence context.analysis then
    buildStructuredReducePlan context (min 0.28 (max 0.15 (reduceFraction * 0.5))) .borderline
      ["Profitable range exposure has soft deterioration, so a modest reduction protects open gains."]
  else none

/-- The plan that sells more; of equals, the plan by weakness. -/
def getStructuredReducePlan (weaknessScore : ℤ) : Option StructuredReducePlan :=
  match getDefensiveExposureReducePlan context weaknessScore,
    getLegacyStructuredReducePlan context weaknessScore with
  | none, legacyPlan => legacyPlan
  | some defensivePlan, none => some defensivePlan
  | some defensivePlan, some legacyPlan =>
    if legacyPlan.reduceFraction < defensivePlan.reduceFraction then some defensivePlan
    else some legacyPlan

/-- A reduction, if there is a plan for one. -/
def decideReduceAction (exposureGuardrails : ExposureGuardrails) (reentryPenaltyApplied : Bool) :
    Option PositionGuardEngineDecision :=
  let analysis := context.analysis
  let weaknessScore := computeWeaknessScore analysis
  (getStructuredReducePlan context weaknessScore).map fun reducePlan =>
    { action := .reduce
      summary := assetText context.asset ++
        " reduction is allowed because weakening is now sufficiently clear."
      reasons := ["Regime is " ++ regimeText analysis.regime ++ ".",
        "Weakening stage is " ++ weakeningStageText analysis.weakeningStage ++ "."] ++
        reducePlan.reasons
      targetNotionalKrw := 0
      targetQuantityFraction := some reducePlan.reduceFraction
      referencePrice := analysis.currentPrice
      executionDisposition := .immediate
      signalQuality := unconfirmed weaknessScore reducePlan.qualityBucket reentryPenaltyApplied
      exposureGuardrails
      diagnostics := buildDiagnostics analysis }

/-! ### The decision -/

/-- A failed structure goes first, then a reduction, then a buy. -/
def decidePositionGuardCore : PositionGuardEngineDecision :=
  let analysis := context.analysis
  let bullishScore := computeBullishScore analysis - getReentryPenalty context
  let reentryPenaltyApplied := computeBullishScore analysis ≠ bullishScore
  let qualityBucket := toQualityBucket bullishScore
  let exposureGuardrails := buildExposureGuardrails context
  if context.positionQuantity ≤ 0 then
    if isImmediateExitRequired analysis then
      flatNoPositionExitHoldDecision context reentryPenaltyApplied exposureGuardrails
    else
      decideFlatPositionAction context dates bullishScore qualityBucket reentryPenaltyApplied
        exposureGuardrails
  else if isImmediateExitRequired analysis then
    exitDecision context reentryPenaltyApplied exposureGuardrails
  else match decideReduceAction context exposureGuardrails reentryPenaltyApplied with
  | some reduceDecision => reduceDecision
  | none =>
    decideAddOrHoldAction context dates bullishScore qualityBucket reentryPenaltyApplied
      exposureGuardrails

/-! ### Which decisions are executed after confirmation -/

/-- The decision is a buy whose confirmation was pending. -/
def Confirms (decision : PositionGuardEngineDecision) : Prop :=
  ∃ action : BullishAction, decision.action = action.action ∧
    hasPendingBullishConfirmation context dates action decision.diagnostics.entryPath
      decision.signalQuality.bucket = true

variable {context dates}

theorem decideBullish_executed {action : BullishAction} {isCandidate : Bool}
    {holdReasons : HoldReasons} {bullishScore : ℤ} {qualityBucket : StrategySignalQualityBucket}
    {reentryPenaltyApplied : Bool} {exposureGuardrails : ExposureGuardrails}
    (h : (decideBullishAction context dates action isCandidate holdReasons bullishScore qualityBucket
      reentryPenaltyApplied exposureGuardrails).executionDisposition = .executedAfterConfirmation) :
    Confirms context dates (decideBullishAction context dates action isCandidate holdReasons
      bullishScore qualityBucket reentryPenaltyApplied exposureGuardrails) := by
  unfold decideBullishAction at h ⊢
  dsimp only at h ⊢
  split_ifs at h ⊢ with hcandidate hcapacity hstrong hborderline hconfirmed
  · cases h
  · cases h
  · cases h
  · exact ⟨action, rfl, hconfirmed⟩
  · cases h
  · cases h

/-- **Only a pending buy is executed after confirmation.** -/
theorem decide_executed
    (h : (decidePositionGuardCore context dates).executionDisposition = .executedAfterConfirmation) :
    Confirms context dates (decidePositionGuardCore context dates) := by
  unfold decidePositionGuardCore at h ⊢
  dsimp only at h ⊢
  split_ifs at h ⊢ with hflat hbroken hexit
  · cases h
  · exact decideBullish_executed h
  · cases h
  · split at h
    · -- a reduction is immediate
      rename_i hreduce
      unfold decideReduceAction at hreduce
      obtain ⟨plan, -, rfl⟩ := Option.map_eq_some_iff.mp hreduce
      cases h
    · exact decideBullish_executed h

end Context

end AutoTrade.Strategy.CoreDecision
