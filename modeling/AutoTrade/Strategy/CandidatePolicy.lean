import AutoTrade.Strategy.CandidateState

/-! # The candidate policy

`evaluatePositionGuardCandidate` of `position-guard-candidate-policy.ts`: four components, asked in a
fixed order, that suppress a buy or turn a hold into an exit. The checks that the decision and the
analysis have the declared shape hold by type. -/

namespace AutoTrade.Strategy.CandidatePolicy

open Lib.Result Domain.Types Domain.Timestamp
open Strategy.Core Strategy.CandidateState

/-! ### Records -/

/-- `POSITION_GUARD_REGISTERED_CANDIDATE_POLICY_IDS`. -/
inductive PositionGuardRegisteredCandidatePolicyId
  | combinedConservative
  | combinedMinusEarlyThesisFailure
  | combinedMinusCooldownControl
  deriving DecidableEq

inductive PositionGuardCandidateOutcome
  | allow
  | suppress
  | overrideExit
  deriving DecidableEq

def PositionGuardCandidateOutcome.text : PositionGuardCandidateOutcome → String
  | allow => "ALLOW"
  | suppress => "SUPPRESS"
  | overrideExit => "OVERRIDE_EXIT"

inductive PositionGuardCandidatePrecedence
  | preserveRiskReduction
  | earlyThesisFailure
  | cooldownControl
  | htfTrendGate
  | addLimited
  | noIntervention
  deriving DecidableEq

inductive PositionGuardCandidateReason
  | conditionsMet
  | riskReducingDecisionPreserved
  | failedReclaimThesis
  | bearishLossThesis
  | nonPositiveExit12hCooldown
  | sameEntryPath24hCooldown
  | htfBreakdown
  | trendAlignmentBelow3
  | weakeningPresent
  | regimeNotEntryTrend
  | positionAtLoss
  | episodeAddLimitReached
  | atrShock
  | trendAlignmentBelow4
  | recoveryQualityBelow3
  | regimeNotCoreTrend
  | noIntervention
  deriving DecidableEq

def PositionGuardCandidateReason.text : PositionGuardCandidateReason → String
  | conditionsMet => "CONDITIONS_MET"
  | riskReducingDecisionPreserved => "RISK_REDUCING_DECISION_PRESERVED"
  | failedReclaimThesis => "FAILED_RECLAIM_THESIS"
  | bearishLossThesis => "BEARISH_LOSS_THESIS"
  | nonPositiveExit12hCooldown => "NON_POSITIVE_EXIT_12H_COOLDOWN"
  | sameEntryPath24hCooldown => "SAME_ENTRY_PATH_24H_COOLDOWN"
  | htfBreakdown => "HTF_BREAKDOWN"
  | trendAlignmentBelow3 => "TREND_ALIGNMENT_BELOW_3"
  | weakeningPresent => "WEAKENING_PRESENT"
  | regimeNotEntryTrend => "REGIME_NOT_ENTRY_TREND"
  | positionAtLoss => "POSITION_AT_LOSS"
  | episodeAddLimitReached => "EPISODE_ADD_LIMIT_REACHED"
  | atrShock => "ATR_SHOCK"
  | trendAlignmentBelow4 => "TREND_ALIGNMENT_BELOW_4"
  | recoveryQualityBelow3 => "RECOVERY_QUALITY_BELOW_3"
  | regimeNotCoreTrend => "REGIME_NOT_CORE_TREND"
  | noIntervention => "NO_INTERVENTION"

/-- The input of the evaluation. -/
structure CandidateInput where
  policyId : PositionGuardRegisteredCandidatePolicyId
  generatedAt : String
  decision : PositionGuardEngineDecision
  positionQuantity : ℚ
  averageEntryPrice : ℚ
  candidateState : PositionGuardCandidateState
  analysis : PositionGuardStructureAnalysis

structure PositionGuardCandidateEvaluation where
  policyId : PositionGuardRegisteredCandidatePolicyId
  generatedAt : String
  originalAction : StrategyDecisionAction
  effectiveAction : StrategyDecisionAction
  outcome : PositionGuardCandidateOutcome
  reason : PositionGuardCandidateReason
  precedence : PositionGuardCandidatePrecedence
  effectiveDecision : PositionGuardEngineDecision
  deriving DecidableEq

inductive PositionGuardCandidateComponent
  | htfTrendGate
  | earlyThesisFailure
  | addLimited
  | cooldownControl
  deriving DecidableEq

/-! ### The authority -/

/-- `POSITION_GUARD_CANDIDATE_AUTHORITY`. -/
structure CandidateAuthority where
  quantityTolerance : ℚ
  htfMinimumTrendAlignmentScore : ℚ
  htfAllowedRegimes : List StrategyMarketRegime
  maximumFailedReclaimRecoveryQualityScore : ℚ
  minimumBearishBreakdownPressureScore : ℚ
  maxAddsPerEpisode : ℕ
  addMinimumTrendAlignmentScore : ℚ
  addMinimumRecoveryQualityScore : ℚ
  addAllowedRegimes : List StrategyMarketRegime
  nonPositiveExitHours : ℤ
  sameEntryPathHours : ℤ

def authority : CandidateAuthority where
  quantityTolerance := 1 / 10 ^ 12
  htfMinimumTrendAlignmentScore := 3
  htfAllowedRegimes := [.bullTrend, .pullbackInUptrend, .earlyRecovery]
  maximumFailedReclaimRecoveryQualityScore := 1
  minimumBearishBreakdownPressureScore := 2
  maxAddsPerEpisode := 1
  addMinimumTrendAlignmentScore := 4
  addMinimumRecoveryQualityScore := 3
  addAllowedRegimes := [.bullTrend, .pullbackInUptrend]
  nonPositiveExitHours := 12
  sameEntryPathHours := 24

/-- `POLICY_COMPONENTS`. -/
def policyComponents :
    PositionGuardRegisteredCandidatePolicyId → List PositionGuardCandidateComponent
  | .combinedConservative => [.htfTrendGate, .earlyThesisFailure, .addLimited, .cooldownControl]
  | .combinedMinusEarlyThesisFailure => [.htfTrendGate, .addLimited, .cooldownControl]
  | .combinedMinusCooldownControl => [.htfTrendGate, .earlyThesisFailure, .addLimited]

def nanosecondsPerHour : ℤ := 3600000000000

/-! ### The components -/

def getEarlyFailureReason (input : CandidateInput) : Option PositionGuardCandidateReason :=
  if input.decision.action ≠ .hold ∧ input.decision.action ≠ .add then none
  else if input.positionQuantity ≤ authority.quantityTolerance then none
  else if input.analysis.failedReclaim ∧
      (input.analysis.weakeningStage = .clear ∨ input.analysis.weakeningStage = .failure) ∧
      input.analysis.recoveryQualityScore ≤ authority.maximumFailedReclaimRecoveryQualityScore then
    some .failedReclaimThesis
  else if authority.minimumBearishBreakdownPressureScore ≤ input.analysis.breakdownPressureScore ∧
      input.analysis.bearishMomentumExpansion ∧ input.analysis.pnlPct < 0 then
    some .bearishLossThesis
  else none

/-- The cooldown that an entry meets so many nanoseconds after the last full exit. -/
def cooldownAfter (input : CandidateInput) (elapsed : ℤ) : Option PositionGuardCandidateReason :=
  if input.candidateState.lastFullExitRealizedPnlKrw.any (· ≤ 0) ∧
      elapsed < authority.nonPositiveExitHours * nanosecondsPerHour then
    some .nonPositiveExit12hCooldown
  else if input.candidateState.lastEntryPath = some input.analysis.entryPath ∧
      elapsed < authority.sameEntryPathHours * nanosecondsPerHour then
    some .sameEntryPath24hCooldown
  else none

def getCooldownReason (input : CandidateInput) :
    Except String (Option PositionGuardCandidateReason) :=
  if input.decision.action ≠ .enter then .ok none
  else match input.candidateState.lastFullExitAt with
  | none => .ok none
  | some exitAt => do
    let generatedAt ← parsePositionGuardCandidateTimestamp input.generatedAt "generatedAt"
    let lastFullExitAt ← parsePositionGuardCandidateTimestamp exitAt "lastFullExitAt"
    throwIf (generatedAt - lastFullExitAt < 0)
      "PositionGuard candidate generatedAt must not be before lastFullExitAt."
    .ok (cooldownAfter input (generatedAt - lastFullExitAt))

def getHtfTrendGateReason (input : CandidateInput) : Option PositionGuardCandidateReason :=
  if input.decision.action ≠ .enter then none
  else if input.analysis.breakdown1d ∨ input.analysis.breakdown4h then some .htfBreakdown
  else if input.analysis.trendAlignmentScore < authority.htfMinimumTrendAlignmentScore then
    some .trendAlignmentBelow3
  else if input.analysis.weakeningStage ≠ .none then some .weakeningPresent
  else if input.analysis.regime ∉ authority.htfAllowedRegimes then some .regimeNotEntryTrend
  else none

def getAddLimitReason (input : CandidateInput) : Option PositionGuardCandidateReason :=
  if input.decision.action ≠ .add then none
  else if input.analysis.currentPrice < input.averageEntryPrice then some .positionAtLoss
  else if authority.maxAddsPerEpisode ≤ input.candidateState.currentEpisodeAddCount then
    some .episodeAddLimitReached
  else if input.analysis.atrShock then some .atrShock
  else if input.analysis.weakeningStage ≠ .none then some .weakeningPresent
  else if input.analysis.trendAlignmentScore < authority.addMinimumTrendAlignmentScore then
    some .trendAlignmentBelow4
  else if input.analysis.recoveryQualityScore < authority.addMinimumRecoveryQualityScore then
    some .recoveryQualityBelow3
  else if input.analysis.regime ∉ authority.addAllowedRegimes then some .regimeNotCoreTrend
  else none

/-! ### The evaluation -/

def holdDecision (decision : PositionGuardEngineDecision) (reason : PositionGuardCandidateReason) :
    PositionGuardEngineDecision :=
  { decision with
    action := .hold
    summary := "Candidate policy suppressed " ++ decision.action.text ++ " because " ++
      reason.text ++ "."
    reasons := [reason.text]
    targetNotionalKrw := 0
    targetQuantityFraction := none
    executionDisposition := .skipped }

def exitDecision (decision : PositionGuardEngineDecision) (reason : PositionGuardCandidateReason) :
    PositionGuardEngineDecision :=
  { decision with
    action := .exit
    summary := "Candidate policy requires EXIT because " ++ reason.text ++ "."
    reasons := [reason.text]
    targetNotionalKrw := 0
    targetQuantityFraction := some 1
    executionDisposition := .immediate }

def evaluation (input : CandidateInput) (outcome : PositionGuardCandidateOutcome)
    (reason : PositionGuardCandidateReason) (precedence : PositionGuardCandidatePrecedence)
    (effectiveDecision : PositionGuardEngineDecision) : PositionGuardCandidateEvaluation where
  policyId := input.policyId
  generatedAt := input.generatedAt
  originalAction := input.decision.action
  effectiveAction := effectiveDecision.action
  outcome
  reason
  precedence
  effectiveDecision

/-- `validateInput`. -/
def validateInput (input : CandidateInput) : Except String Unit := do
  let _ ← parsePositionGuardCandidateTimestamp input.generatedAt "generatedAt"
  throwIf (input.positionQuantity < 0)
    "PositionGuard candidate positionQuantity must be finite and non-negative."
  throwIf (input.averageEntryPrice < 0)
    "PositionGuard candidate averageEntryPrice must be finite and non-negative."
  validatePositionGuardCandidateState input.candidateState

/-- The answer of a component, if the policy has it. -/
def ifComponent (input : CandidateInput) (component : PositionGuardCandidateComponent)
    (reason : Option PositionGuardCandidateReason) : Option PositionGuardCandidateReason :=
  if component ∈ policyComponents input.policyId then reason else none

/-- The evaluation from the trend gate on. -/
def evaluateGates (input : CandidateInput) : PositionGuardCandidateEvaluation :=
  match ifComponent input .htfTrendGate (getHtfTrendGateReason input) with
  | some htf => evaluation input .suppress htf .htfTrendGate (holdDecision input.decision htf)
  | none =>
    match ifComponent input .addLimited (getAddLimitReason input) with
    | some add => evaluation input .suppress add .addLimited (holdDecision input.decision add)
    | none =>
      if .addLimited ∈ policyComponents input.policyId ∧ input.decision.action = .add then
        evaluation input .allow .conditionsMet .addLimited input.decision
      else evaluation input .allow .noIntervention .noIntervention input.decision

/-- The evaluation from the cooldown on. -/
def evaluateEntries (input : CandidateInput) : Except String PositionGuardCandidateEvaluation :=
  if .cooldownControl ∈ policyComponents input.policyId then do
    let cooldown ← getCooldownReason input
    match cooldown with
    | some cooldown =>
      .ok (evaluation input .suppress cooldown .cooldownControl
        (holdDecision input.decision cooldown))
    | none => .ok (evaluateGates input)
  else .ok (evaluateGates input)

def evaluatePositionGuardCandidate (input : CandidateInput) :
    Except String PositionGuardCandidateEvaluation := do
  validateInput input
  if input.decision.action = .exit ∨ input.decision.action = .reduce then
    .ok (evaluation input .allow .riskReducingDecisionPreserved .preserveRiskReduction
      input.decision)
  else
    match ifComponent input .earlyThesisFailure (getEarlyFailureReason input) with
    | some earlyFailure =>
      .ok (evaluation input .overrideExit earlyFailure .earlyThesisFailure
        (exitDecision input.decision earlyFailure))
    | none => evaluateEntries input

end AutoTrade.Strategy.CandidatePolicy
