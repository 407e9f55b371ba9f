import AutoTrade.Performance.Timestamp
import AutoTrade.Strategy.Core

/-! # The researched policies

`evaluatePositionGuardResearchIntervention` and `toEffectiveDecision` of `position-guard-backtest.ts`,
with the constants of `position-guard-research-manifest.ts`: the policies a backtest can apply to
the decisions of the strategy. -/

namespace AutoTrade.Strategy.ResearchPolicy

open Lib.Result Domain.Types Domain.Timestamp Performance.Timestamp Strategy.Core

/-! ### Records -/

/-- `PositionGuardBacktestInterventionPolicyId`. -/
inductive PositionGuardBacktestInterventionPolicyId
  | htfTrendGate
  | strictPullback
  | earlyThesisFailure
  | addLimited
  | cooldownControl
  | combinedConservative
  | combinedMinusHtfTrendGate
  | combinedMinusEarlyThesisFailure
  | combinedMinusAddLimited
  | combinedMinusCooldownControl
  deriving DecidableEq

inductive CombinedConservativeComponent
  | htfTrendGate
  | earlyThesisFailure
  | addLimited
  | cooldownControl
  deriving DecidableEq

structure PositionGuardBacktestResearchState where
  currentEpisodeAddCount : ℕ
  currentEpisodeRealizedPnlKrw : ℚ
  lastFullExitAt : Option String
  lastFullExitRealizedPnlKrw : Option ℚ
  lastEntryPath : Option StrategyEntryPath

structure PositionGuardBacktestState where
  cashKrw : ℚ
  quantity : ℚ
  averageEntryPrice : ℚ

inductive PositionGuardBacktestResearchInterventionReason
  | conditionsMet
  | riskReducingDecisionPreserved
  | htfBreakdown
  | trendAlignmentBelow3
  | weakeningPresent
  | regimeNotEntryTrend
  | entryPathNotPullback
  | pullbackZoneMissing
  | regimeNotPullbackInUptrend
  | trendAlignmentBelow4
  | recoveryQualityBelow3
  | oneHourLocationNotLowerOrMiddle
  | volumeRecoveryMissing
  | momentumRecoveryMissing
  | failedReclaimThesis
  | bearishLossThesis
  | positionAtLoss
  | episodeAddLimitReached
  | atrShock
  | regimeNotCoreTrend
  | nonPositiveExit12hCooldown
  | sameEntryPath24hCooldown
  deriving DecidableEq

def PositionGuardBacktestResearchInterventionReason.text :
    PositionGuardBacktestResearchInterventionReason → String
  | conditionsMet => "CONDITIONS_MET"
  | riskReducingDecisionPreserved => "RISK_REDUCING_DECISION_PRESERVED"
  | htfBreakdown => "HTF_BREAKDOWN"
  | trendAlignmentBelow3 => "TREND_ALIGNMENT_BELOW_3"
  | weakeningPresent => "WEAKENING_PRESENT"
  | regimeNotEntryTrend => "REGIME_NOT_ENTRY_TREND"
  | entryPathNotPullback => "ENTRY_PATH_NOT_PULLBACK"
  | pullbackZoneMissing => "PULLBACK_ZONE_MISSING"
  | regimeNotPullbackInUptrend => "REGIME_NOT_PULLBACK_IN_UPTREND"
  | trendAlignmentBelow4 => "TREND_ALIGNMENT_BELOW_4"
  | recoveryQualityBelow3 => "RECOVERY_QUALITY_BELOW_3"
  | oneHourLocationNotLowerOrMiddle => "ONE_HOUR_LOCATION_NOT_LOWER_OR_MIDDLE"
  | volumeRecoveryMissing => "VOLUME_RECOVERY_MISSING"
  | momentumRecoveryMissing => "MOMENTUM_RECOVERY_MISSING"
  | failedReclaimThesis => "FAILED_RECLAIM_THESIS"
  | bearishLossThesis => "BEARISH_LOSS_THESIS"
  | positionAtLoss => "POSITION_AT_LOSS"
  | episodeAddLimitReached => "EPISODE_ADD_LIMIT_REACHED"
  | atrShock => "ATR_SHOCK"
  | regimeNotCoreTrend => "REGIME_NOT_CORE_TREND"
  | nonPositiveExit12hCooldown => "NON_POSITIVE_EXIT_12H_COOLDOWN"
  | sameEntryPath24hCooldown => "SAME_ENTRY_PATH_24H_COOLDOWN"

inductive ResearchOutcome
  | allow
  | suppress
  | overrideExit
  deriving DecidableEq

def ResearchOutcome.text : ResearchOutcome → String
  | allow => "ALLOW"
  | suppress => "SUPPRESS"
  | overrideExit => "OVERRIDE_EXIT"

/-- What an intervention records of the analysis. -/
structure AnalysisEvidence where
  regime : StrategyMarketRegime
  entryPath : StrategyEntryPath
  pullbackZone : Bool
  breakdown1d : Bool
  breakdown4h : Bool
  trendAlignmentScore : ℚ
  recoveryQualityScore : ℚ
  breakdownPressureScore : ℚ
  weakeningStage : StrategyWeakeningStage
  failedReclaim : Bool
  bearishMomentumExpansion : Bool
  volumeRecovery : Bool
  macdImproving : Bool
  rsiRecovery : Bool
  atrShock : Bool
  oneHourLocation : Option StructureLocation
  currentPrice : ℚ
  averageEntryPrice : ℚ
  pnlPct : ℚ

structure PositionGuardBacktestResearchIntervention where
  scenario : PositionGuardBacktestInterventionPolicyId
  generatedAt : String
  originalAction : StrategyDecisionAction
  effectiveAction : StrategyDecisionAction
  outcome : ResearchOutcome
  reason : PositionGuardBacktestResearchInterventionReason
  analysis : AnalysisEvidence
  researchState : PositionGuardBacktestResearchState

/-- The input of the evaluation. -/
structure InterventionInput where
  policyId : PositionGuardBacktestInterventionPolicyId
  generatedAt : String
  decision : PositionGuardEngineDecision
  state : PositionGuardBacktestState
  researchState : PositionGuardBacktestResearchState
  analysis : PositionGuardStructureAnalysis

/-! ### The manifest -/

/-- `POSITION_GUARD_RESEARCH_POLICY_MANIFEST`, scenario by scenario. -/
structure ResearchPolicyManifest where
  quantityTolerance : ℚ
  htfMinimumTrendAlignmentScore : ℚ
  htfAllowedRegimes : List StrategyMarketRegime
  strictRequiredEntryPath : StrategyEntryPath
  strictRequiredRegime : StrategyMarketRegime
  strictMinimumTrendAlignmentScore : ℚ
  strictMinimumRecoveryQualityScore : ℚ
  strictAllowedOneHourLocations : List StructureLocation
  maximumFailedReclaimRecoveryQualityScore : ℚ
  minimumBearishBreakdownPressureScore : ℚ
  maxAddsPerEpisode : ℕ
  addMinimumTrendAlignmentScore : ℚ
  addMinimumRecoveryQualityScore : ℚ
  addAllowedRegimes : List StrategyMarketRegime
  nonPositiveExitHours : ℤ
  sameEntryPathHours : ℤ

def manifest : ResearchPolicyManifest where
  quantityTolerance := 1 / 10 ^ 12
  htfMinimumTrendAlignmentScore := 3
  htfAllowedRegimes := [.bullTrend, .pullbackInUptrend, .earlyRecovery]
  strictRequiredEntryPath := .pullback
  strictRequiredRegime := .pullbackInUptrend
  strictMinimumTrendAlignmentScore := 4
  strictMinimumRecoveryQualityScore := 3
  strictAllowedOneHourLocations := [.lower, .middle]
  maximumFailedReclaimRecoveryQualityScore := 1
  minimumBearishBreakdownPressureScore := 2
  maxAddsPerEpisode := 1
  addMinimumTrendAlignmentScore := 4
  addMinimumRecoveryQualityScore := 3
  addAllowedRegimes := [.bullTrend, .pullbackInUptrend]
  nonPositiveExitHours := 12
  sameEntryPathHours := 24

/-- `COMBINED_CONSERVATIVE_COMPONENTS`. -/
def combinedConservativeComponents : List CombinedConservativeComponent :=
  [.htfTrendGate, .earlyThesisFailure, .addLimited, .cooldownControl]

/-- The policy that consists of one component. -/
def CombinedConservativeComponent.policyId :
    CombinedConservativeComponent → PositionGuardBacktestInterventionPolicyId
  | htfTrendGate => .htfTrendGate
  | earlyThesisFailure => .earlyThesisFailure
  | addLimited => .addLimited
  | cooldownControl => .cooldownControl

/-- The active components of an ablation of the combined policy. -/
def ablationComponents :
    PositionGuardBacktestInterventionPolicyId → Option (List CombinedConservativeComponent)
  | .combinedMinusHtfTrendGate => some [.earlyThesisFailure, .addLimited, .cooldownControl]
  | .combinedMinusEarlyThesisFailure => some [.htfTrendGate, .addLimited, .cooldownControl]
  | .combinedMinusAddLimited => some [.htfTrendGate, .earlyThesisFailure, .cooldownControl]
  | .combinedMinusCooldownControl => some [.htfTrendGate, .earlyThesisFailure, .addLimited]
  | _ => none

def isAblationPolicy (policyId : PositionGuardBacktestInterventionPolicyId) : Bool :=
  (ablationComponents policyId).isSome

def isCombinedPolicy (policyId : PositionGuardBacktestInterventionPolicyId) : Bool :=
  policyId = .combinedConservative ∨ isAblationPolicy policyId

def isComponentActive (policyId : PositionGuardBacktestInterventionPolicyId)
    (component : CombinedConservativeComponent) : Bool :=
  if policyId = component.policyId then true
  else if policyId = .combinedConservative then component ∈ combinedConservativeComponents
  else (ablationComponents policyId).any (component ∈ ·)

/-! ### The components -/

def getHtfTrendGateReason (input : InterventionInput) :
    Option PositionGuardBacktestResearchInterventionReason :=
  if input.decision.action ≠ .enter then none
  else if input.analysis.breakdown1d ∨ input.analysis.breakdown4h then some .htfBreakdown
  else if input.analysis.trendAlignmentScore < manifest.htfMinimumTrendAlignmentScore then
    some .trendAlignmentBelow3
  else if input.analysis.weakeningStage ≠ .none then some .weakeningPresent
  else if input.analysis.regime ∉ manifest.htfAllowedRegimes then some .regimeNotEntryTrend
  else none

def getStrictPullbackReason (analysis : PositionGuardStructureAnalysis) :
    Option PositionGuardBacktestResearchInterventionReason :=
  if analysis.entryPath ≠ manifest.strictRequiredEntryPath then some .entryPathNotPullback
  else if ¬ analysis.pullbackZone then some .pullbackZoneMissing
  else if analysis.regime ≠ manifest.strictRequiredRegime then some .regimeNotPullbackInUptrend
  else if analysis.breakdown1d ∨ analysis.breakdown4h then some .htfBreakdown
  else if analysis.trendAlignmentScore < manifest.strictMinimumTrendAlignmentScore then
    some .trendAlignmentBelow4
  else if analysis.recoveryQualityScore < manifest.strictMinimumRecoveryQualityScore then
    some .recoveryQualityBelow3
  else if ¬ analysis.oneHourLocation.any (· ∈ manifest.strictAllowedOneHourLocations) then
    some .oneHourLocationNotLowerOrMiddle
  else if ¬ analysis.volumeRecovery then some .volumeRecoveryMissing
  else if ¬ analysis.macdImproving ∧ ¬ analysis.rsiRecovery then some .momentumRecoveryMissing
  else none

def getEarlyThesisFailureReason (input : InterventionInput) :
    Option PositionGuardBacktestResearchInterventionReason :=
  if input.state.quantity ≤ manifest.quantityTolerance then none
  else if input.decision.action ≠ .hold ∧ input.decision.action ≠ .add then none
  else if input.analysis.failedReclaim ∧
      (input.analysis.weakeningStage = .clear ∨ input.analysis.weakeningStage = .failure) ∧
      input.analysis.recoveryQualityScore ≤ manifest.maximumFailedReclaimRecoveryQualityScore then
    some .failedReclaimThesis
  else if manifest.minimumBearishBreakdownPressureScore ≤ input.analysis.breakdownPressureScore ∧
      input.analysis.bearishMomentumExpansion ∧ input.analysis.pnlPct < 0 then
    some .bearishLossThesis
  else none

def getAddLimitedReason (input : InterventionInput) :
    Option PositionGuardBacktestResearchInterventionReason :=
  if input.decision.action ≠ .add then none
  else if input.analysis.currentPrice < input.state.averageEntryPrice then some .positionAtLoss
  else if manifest.maxAddsPerEpisode ≤ input.researchState.currentEpisodeAddCount then
    some .episodeAddLimitReached
  else if input.analysis.atrShock then some .atrShock
  else if input.analysis.weakeningStage ≠ .none then some .weakeningPresent
  else if input.analysis.trendAlignmentScore < manifest.addMinimumTrendAlignmentScore then
    some .trendAlignmentBelow4
  else if input.analysis.recoveryQualityScore < manifest.addMinimumRecoveryQualityScore then
    some .recoveryQualityBelow3
  else if input.analysis.regime ∉ manifest.addAllowedRegimes then some .regimeNotCoreTrend
  else none

def parseExactTimestamp (value : String) : Except String ℤ :=
  match performanceTimestampEpochNanoseconds value with
  | .ok epochNanoseconds => .ok epochNanoseconds
  | .error _ => .error ("Invalid research timestamp " ++ value ++ ".")

def hoursToNanoseconds (hours : ℤ) : ℤ := hours * 3600000000000

/-- The cooldown that an entry meets so many nanoseconds after the last full exit. -/
def cooldownAfter (input : InterventionInput) (elapsed : ℤ) :
    Option PositionGuardBacktestResearchInterventionReason :=
  if input.researchState.lastFullExitRealizedPnlKrw.any (· ≤ 0) ∧
      elapsed < hoursToNanoseconds manifest.nonPositiveExitHours then
    some .nonPositiveExit12hCooldown
  else if input.researchState.lastEntryPath = some input.analysis.entryPath ∧
      elapsed < hoursToNanoseconds manifest.sameEntryPathHours then
    some .sameEntryPath24hCooldown
  else none

def getCooldownReason (input : InterventionInput) :
    Except String (Option PositionGuardBacktestResearchInterventionReason) :=
  if input.decision.action ≠ .enter then .ok none
  else match input.researchState.lastFullExitAt with
  | none => .ok none
  | some lastFullExitAt => do
    let generated ← parseExactTimestamp input.generatedAt
    let exit ← parseExactTimestamp lastFullExitAt
    throwIf (generated - exit < 0) "Research cooldown generatedAt must not precede lastFullExitAt."
    .ok (cooldownAfter input (generated - exit))

/-! ### The evaluation -/

def createResearchIntervention (input : InterventionInput) (outcome : ResearchOutcome)
    (effectiveAction : StrategyDecisionAction)
    (reason : PositionGuardBacktestResearchInterventionReason) :
    PositionGuardBacktestResearchIntervention where
  scenario := input.policyId
  generatedAt := input.generatedAt
  originalAction := input.decision.action
  effectiveAction
  outcome
  reason
  analysis :=
    { regime := input.analysis.regime
      entryPath := input.analysis.entryPath
      pullbackZone := input.analysis.pullbackZone
      breakdown1d := input.analysis.breakdown1d
      breakdown4h := input.analysis.breakdown4h
      trendAlignmentScore := input.analysis.trendAlignmentScore
      recoveryQualityScore := input.analysis.recoveryQualityScore
      breakdownPressureScore := input.analysis.breakdownPressureScore
      weakeningStage := input.analysis.weakeningStage
      failedReclaim := input.analysis.failedReclaim
      bearishMomentumExpansion := input.analysis.bearishMomentumExpansion
      volumeRecovery := input.analysis.volumeRecovery
      macdImproving := input.analysis.macdImproving
      rsiRecovery := input.analysis.rsiRecovery
      atrShock := input.analysis.atrShock
      oneHourLocation := input.analysis.oneHourLocation
      currentPrice := input.analysis.currentPrice
      averageEntryPrice := input.analysis.averageEntryPrice
      pnlPct := input.analysis.pnlPct }
  researchState := input.researchState

/-- The end of the evaluation: the limit on adds. -/
def evaluateAdds (input : InterventionInput) : Option PositionGuardBacktestResearchIntervention :=
  if isComponentActive input.policyId .addLimited then
    match getAddLimitedReason input with
    | some addReason => some (createResearchIntervention input .suppress .hold addReason)
    | none =>
      if input.decision.action = .add then
        some (createResearchIntervention input .allow .add .conditionsMet)
      else none
  else none

/-- The evaluation from the strict pullback on. -/
def evaluatePullback (input : InterventionInput) :
    Option PositionGuardBacktestResearchIntervention :=
  if input.policyId = .strictPullback then
    if input.decision.action ≠ .enter then none
    else match getStrictPullbackReason input.analysis with
      | some reason => some (createResearchIntervention input .suppress .hold reason)
      | none => some (createResearchIntervention input .allow .enter .conditionsMet)
  else evaluateAdds input

/-- A single-component policy on buys allows an entry it does not suppress. -/
def allowEntry (input : InterventionInput) : Option PositionGuardBacktestResearchIntervention :=
  if input.decision.action = .enter then
    some (createResearchIntervention input .allow .enter .conditionsMet)
  else none

/-- The evaluation from the trend gate on. -/
def evaluateTrendGate (input : InterventionInput) :
    Option PositionGuardBacktestResearchIntervention :=
  if isComponentActive input.policyId .htfTrendGate then
    match getHtfTrendGateReason input with
    | some htfReason => some (createResearchIntervention input .suppress .hold htfReason)
    | none =>
      if input.policyId = .htfTrendGate then allowEntry input
      else evaluatePullback input
  else evaluatePullback input

/-- The evaluation from the cooldown on. -/
def evaluateCooldown (input : InterventionInput) :
    Except String (Option PositionGuardBacktestResearchIntervention) :=
  if isComponentActive input.policyId .cooldownControl then do
    let cooldownReason ← getCooldownReason input
    match cooldownReason with
    | some cooldownReason =>
      .ok (some (createResearchIntervention input .suppress .hold cooldownReason))
    | none =>
      if input.policyId = .cooldownControl then .ok (allowEntry input)
      else .ok (evaluateTrendGate input)
  else .ok (evaluateTrendGate input)

def evaluatePositionGuardResearchIntervention (input : InterventionInput) :
    Except String (Option PositionGuardBacktestResearchIntervention) :=
  if (input.policyId = .earlyThesisFailure ∨ isCombinedPolicy input.policyId) ∧
      (input.decision.action = .exit ∨ input.decision.action = .reduce) then
    .ok (some (createResearchIntervention input .allow input.decision.action
      .riskReducingDecisionPreserved))
  else if isComponentActive input.policyId .earlyThesisFailure then
    match getEarlyThesisFailureReason input with
    | some earlyFailureReason =>
      .ok (some (createResearchIntervention input .overrideExit .exit earlyFailureReason))
    | none =>
      if input.policyId = .earlyThesisFailure then
        if input.decision.action = .hold ∨ input.decision.action = .add then
          .ok (some (createResearchIntervention input .allow input.decision.action .conditionsMet))
        else .ok none
      else evaluateCooldown input
  else evaluateCooldown input

def toEffectiveDecision (decision : PositionGuardEngineDecision)
    (intervention : Option PositionGuardBacktestResearchIntervention) :
    PositionGuardEngineDecision :=
  match intervention with
  | none => decision
  | some intervention =>
    match intervention.outcome with
    | .allow => decision
    | .overrideExit =>
      { decision with
        action := .exit
        targetNotionalKrw := 0
        targetQuantityFraction := some 1
        executionDisposition := .immediate }
    | .suppress =>
      { decision with
        action := .hold
        targetNotionalKrw := 0
        targetQuantityFraction := none
        executionDisposition := .skipped }

end AutoTrade.Strategy.ResearchPolicy
