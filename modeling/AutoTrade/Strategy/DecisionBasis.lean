import AutoTrade.Execution.DecisionVerification
import AutoTrade.Lib.JsonText
import AutoTrade.Strategy.CoreDecision

/-! # The basis of a decision

How the runner writes a decision into a record (`toStrategyDecision`, `createStrategyDecisionRecord`,
`toOrderSubmissionInput`) and how the context of a later run reads it back from the JSON texts of the
record (`toPreviousPositionGuardDecision`).

Numbers are rationals; `number` is the number of the JSON texts that stands for one. What the record
says of the policy route is not read back, and is any value that the parser can return.

* `toPrevious_createStrategyDecisionRecord`: a record is read back as the decision it was written for. -/

namespace AutoTrade.Strategy.DecisionBasis

open Lib.Result Lib.Decimal Lib.Json Lib.JsonText
open Lib.NumberText
open Domain.Types Strategy.Core Strategy.CoreDecision
open Execution.CandidateEvidence (asRecord coalesce entryPathOf)
open Execution.DecisionVerification (entryPathOf_eq_some)
open Execution.OrderDecimals (canonicalizeUpbitOrderDecimal)

/-! ### Strategy decisions -/

/-- What a decision says of itself, lists as JSON texts. -/
structure DecisionMetadata where
  summary : String
  reasonsJson : String
  executionDisposition : StrategyExecutionDisposition
  signalQualityBucket : StrategySignalQualityBucket
  signalQualityScore : ℚ
  confirmationRequired : Bool
  confirmationSatisfied : Bool
  reentryPenaltyApplied : Bool
  diagnosticsJson : String
  exposureGuardrailsJson : String
  sourceEngine : String

/-- The decision as the execution service takes it. -/
structure StrategyDecision where
  strategyKey : String
  market : SupportedMarket
  action : StrategyDecisionAction
  reasonCodes : List String
  referencePrice : ℚ
  requestedNotionalKrw : Option ℚ
  requestedQuantity : Option ℚ
  metadata : DecisionMetadata

/-- `SubmitOrderFromDecisionInput`, without the authority of a candidate. -/
structure OrderSubmissionInput where
  exchangeAccountId : String
  strategyDecisionId : String
  referencePriceCapturedAt : String
  decision : StrategyDecision
  side : OrderSide
  ordType : Domain.Types.OrderType
  price : Option String
  volume : Option String

/-! ### Texts -/

/-- The texts of the enumerations. -/
def executionDispositionText : StrategyExecutionDisposition → String
  | .immediate => "IMMEDIATE"
  | .deferredConfirmation => "DEFERRED_CONFIRMATION"
  | .executedAfterConfirmation => "EXECUTED_AFTER_CONFIRMATION"
  | .skipped => "SKIPPED"

def qualityBucketText : StrategySignalQualityBucket → String
  | .high => "HIGH"
  | .medium => "MEDIUM"
  | .borderline => "BORDERLINE"
  | .low => "LOW"

def riskLevelText : StrategyRiskLevel → String
  | .low => "LOW"
  | .moderate => "MODERATE"
  | .elevated => "ELEVATED"
  | .high => "HIGH"

def invalidationStateText : StrategyInvalidationState → String
  | .clear => "CLEAR"
  | .unclear => "UNCLEAR"
  | .broken => "BROKEN"

def locationText : StructureLocation → String
  | .lower => "LOWER"
  | .middle => "MIDDLE"
  | .upper => "UPPER"

/-! ### Writing a decision -/

section Writing

variable {Num : Type} (N : NumberSyntax Num) (number : ℚ → Num)

/-- A number of the JSON text. -/
def numberValue (value : ℚ) : JsonValue Num := .number (number value)

/-- `null` stands for a missing value. -/
def nullable {α : Type} (value : α → JsonValue Num) : Option α → JsonValue Num
  | none => .null
  | some a => value a

/-- An array of texts. -/
def textsValue (texts : List String) : JsonValue Num := .array (texts.map .text)

/-- The diagnostics as JSON. -/
def diagnosticsValue (diagnostics : StructureDiagnostics) : JsonValue Num :=
  .object
    [("regime", .text (regimeText diagnostics.regime)),
      ("riskLevel", .text (riskLevelText diagnostics.riskLevel)),
      ("invalidationState", .text (invalidationStateText diagnostics.invalidationState)),
      ("invalidationLevel", nullable (numberValue number) diagnostics.invalidationLevel),
      ("entryPath", .text (entryPathText diagnostics.entryPath)),
      ("trendAlignmentScore", numberValue number diagnostics.trendAlignmentScore),
      ("recoveryQualityScore", numberValue number diagnostics.recoveryQualityScore),
      ("breakdownPressureScore", numberValue number diagnostics.breakdownPressureScore),
      ("weakeningStage", .text (weakeningStageText diagnostics.weakeningStage)),
      ("upperRangeChase", .bool diagnostics.upperRangeChase),
      ("pullbackZone", .bool diagnostics.pullbackZone),
      ("reclaimStructure", .bool diagnostics.reclaimStructure),
      ("breakoutHoldStructure", .bool diagnostics.breakoutHoldStructure)]

/-- The guardrails as JSON. -/
def guardrailsValue (guardrails : ExposureGuardrails) : JsonValue Num :=
  .object
    [("perAssetMaxAllocation", numberValue number guardrails.perAssetMaxAllocation),
      ("totalPortfolioMaxExposure", numberValue number guardrails.totalPortfolioMaxExposure),
      ("remainingAssetCapacity", numberValue number guardrails.remainingAssetCapacity),
      ("remainingPortfolioCapacity", numberValue number guardrails.remainingPortfolioCapacity)]

/-- Buys carry an amount, sales a quantity. -/
def toStrategyDecision (context : PositionGuardStrategyContext)
    (decision : PositionGuardEngineDecision) : StrategyDecision where
  strategyKey := positionGuardStrategyKey
  market := context.market
  action := decision.action
  reasonCodes := [decision.action.text.toLower,
    (executionDispositionText decision.executionDisposition).toLower,
    (entryPathText decision.diagnostics.entryPath).toLower,
    (qualityBucketText decision.signalQuality.bucket).toLower]
  referencePrice := decision.referencePrice
  requestedNotionalKrw :=
    if decision.action = .enter ∨ decision.action = .add then
      some (roundMoney decision.targetNotionalKrw)
    else none
  requestedQuantity :=
    if decision.action = .reduce ∨ decision.action = .exit then
      getRequestedQuantity context.positionQuantity decision.targetQuantityFraction
    else none
  metadata :=
    { summary := decision.summary
      reasonsJson := stringify N (textsValue decision.reasons)
      executionDisposition := decision.executionDisposition
      signalQualityBucket := decision.signalQuality.bucket
      signalQualityScore := decision.signalQuality.score
      confirmationRequired := decision.signalQuality.confirmationRequired
      confirmationSatisfied := decision.signalQuality.confirmationSatisfied
      reentryPenaltyApplied := decision.signalQuality.reentryPenaltyApplied
      diagnosticsJson := stringify N (diagnosticsValue number decision.diagnostics)
      exposureGuardrailsJson := stringify N (guardrailsValue number decision.exposureGuardrails)
      sourceEngine := "PositionGuard_PaperTrade" }

/-- The metadata as JSON. -/
def metadataValue (metadata : DecisionMetadata) : JsonValue Num :=
  .object
    [("summary", .text metadata.summary),
      ("reasonsJson", .text metadata.reasonsJson),
      ("executionDisposition", .text (executionDispositionText metadata.executionDisposition)),
      ("signalQualityBucket", .text (qualityBucketText metadata.signalQualityBucket)),
      ("signalQualityScore", numberValue number metadata.signalQualityScore),
      ("confirmationRequired", .bool metadata.confirmationRequired),
      ("confirmationSatisfied", .bool metadata.confirmationSatisfied),
      ("reentryPenaltyApplied", .bool metadata.reentryPenaltyApplied),
      ("diagnosticsJson", .text metadata.diagnosticsJson),
      ("exposureGuardrailsJson", .text metadata.exposureGuardrailsJson),
      ("sourceEngine", .text metadata.sourceEngine)]

/-- The decision as JSON. -/
def strategyDecisionValue (decision : StrategyDecision) : JsonValue Num :=
  .object
    [("strategyKey", .text decision.strategyKey),
      ("market", .text decision.market.text),
      ("action", .text decision.action.text),
      ("reasonCodes", textsValue decision.reasonCodes),
      ("referencePrice", numberValue number decision.referencePrice),
      ("requestedNotionalKrw", nullable (numberValue number) decision.requestedNotionalKrw),
      ("requestedQuantity", nullable (numberValue number) decision.requestedQuantity),
      ("metadata", metadataValue number decision.metadata)]

def signalQualityValue (quality : SignalQuality) : JsonValue Num :=
  .object
    [("score", numberValue number quality.score),
      ("bucket", .text (qualityBucketText quality.bucket)),
      ("confirmationRequired", .bool quality.confirmationRequired),
      ("confirmationSatisfied", .bool quality.confirmationSatisfied),
      ("reentryPenaltyApplied", .bool quality.reentryPenaltyApplied)]

/-- The decision of the core as JSON. -/
def engineDecisionValue (decision : PositionGuardEngineDecision) : JsonValue Num :=
  .object
    [("action", .text decision.action.text),
      ("summary", .text decision.summary),
      ("reasons", textsValue decision.reasons),
      ("targetNotionalKrw", numberValue number decision.targetNotionalKrw),
      ("targetQuantityFraction", nullable (numberValue number) decision.targetQuantityFraction),
      ("referencePrice", numberValue number decision.referencePrice),
      ("executionDisposition", .text (executionDispositionText decision.executionDisposition)),
      ("signalQuality", signalQualityValue number decision.signalQuality),
      ("exposureGuardrails", guardrailsValue number decision.exposureGuardrails),
      ("diagnostics", diagnosticsValue number decision.diagnostics)]

/-- A field that is left out when it is `undefined`. -/
def optionalLocation (name : String) (location : Option StructureLocation) :
    List (String × JsonValue Num) :=
  match location with
  | none => []
  | some location => [(name, .text (locationText location))]

/-- The analysis as JSON. -/
def analysisValue (analysis : PositionGuardStructureAnalysis) : JsonValue Num :=
  .object
    ([("regime", .text (regimeText analysis.regime)),
      ("riskLevel", .text (riskLevelText analysis.riskLevel)),
      ("invalidationState", .text (invalidationStateText analysis.invalidationState)),
      ("invalidationLevel", nullable (numberValue number) analysis.invalidationLevel),
      ("pullbackZone", .bool analysis.pullbackZone),
      ("reclaimStructure", .bool analysis.reclaimStructure),
      ("breakoutHoldStructure", .bool analysis.breakoutHoldStructure),
      ("upperRangeChase", .bool analysis.upperRangeChase),
      ("currentPrice", numberValue number analysis.currentPrice),
      ("entryPath", .text (entryPathText analysis.entryPath)),
      ("trendAlignmentScore", numberValue number analysis.trendAlignmentScore),
      ("recoveryQualityScore", numberValue number analysis.recoveryQualityScore),
      ("breakdownPressureScore", numberValue number analysis.breakdownPressureScore),
      ("weakeningStage", .text (weakeningStageText analysis.weakeningStage)),
      ("breakdown1d", .bool analysis.breakdown1d),
      ("breakdown4h", .bool analysis.breakdown4h),
      ("failedReclaim", .bool analysis.failedReclaim),
      ("bearishMomentumExpansion", .bool analysis.bearishMomentumExpansion),
      ("volumeRecovery", .bool analysis.volumeRecovery),
      ("macdImproving", .bool analysis.macdImproving),
      ("rsiRecovery", .bool analysis.rsiRecovery),
      ("atrShock", .bool analysis.atrShock),
      ("averageEntryPrice", numberValue number analysis.averageEntryPrice),
      ("pnlPct", numberValue number analysis.pnlPct)] ++
      optionalLocation "oneHourLocation" analysis.oneHourLocation ++
      optionalLocation "fourHourLocation" analysis.fourHourLocation)

/-- The parts of the context as JSON. -/
def previousDecisionValue (previous : PreviousPositionGuardDecision) : JsonValue Num :=
  .object
    [("action", .text previous.action.text),
      ("executionDisposition", .text (executionDispositionText previous.executionDisposition)),
      ("entryPath", .text (entryPathText previous.entryPath)),
      ("qualityBucket", .text (qualityBucketText previous.qualityBucket)),
      ("createdAt", .text previous.createdAt)]

def recentExitValue (exit : RecentExitContext) : JsonValue Num :=
  .object
    [("createdAt", nullable .text exit.createdAt),
      ("hoursSinceExit", nullable (numberValue number) exit.hoursSinceExit),
      ("realizedPnl", nullable (numberValue number) exit.realizedPnl)]

def settingsValue (settings : PositionGuardStrategySettings) : JsonValue Num :=
  .object
    [("minimumTradeValueKrw", numberValue number settings.minimumTradeValueKrw),
      ("entryAllocation", numberValue number settings.entryAllocation),
      ("addAllocation", numberValue number settings.addAllocation),
      ("reduceFraction", numberValue number settings.reduceFraction),
      ("perAssetMaxAllocation", numberValue number settings.perAssetMaxAllocation),
      ("strongTrendPerAssetMaxAllocation",
        numberValue number settings.strongTrendPerAssetMaxAllocation),
      ("totalPortfolioMaxExposure", numberValue number settings.totalPortfolioMaxExposure)]

def portfolioValue (portfolio : PortfolioValues) : JsonValue Num :=
  .object
    [("totalEquityKrw", numberValue number portfolio.totalEquityKrw),
      ("assetMarketValueKrw", numberValue number portfolio.assetMarketValueKrw),
      ("totalExposureKrw", numberValue number portfolio.totalExposureKrw)]

/-- The context as JSON. -/
def contextValue (context : PositionGuardStrategyContext) : JsonValue Num :=
  .object
    [("asset", .text (assetText context.asset)),
      ("market", .text context.market.text),
      ("generatedAt", .text context.generatedAt),
      ("positionQuantity", numberValue number context.positionQuantity),
      ("averageEntryPrice", numberValue number context.averageEntryPrice),
      ("portfolio", portfolioValue number context.portfolio),
      ("latestDecision", nullable previousDecisionValue context.latestDecision),
      ("recentExit", recentExitValue number context.recentExit),
      ("settings", settingsValue number context.settings),
      ("analysis", analysisValue number context.analysis)]

/-- A value that the parser can return. -/
def ParsedValue (Num : Type) : Type := { value : JsonValue Num // NamedOnce value }

/-- The object whose text is `decisionBasisJson`. -/
def decisionBasis (strategyDecision : StrategyDecision) (engineDecision : PositionGuardEngineDecision)
    (context : PositionGuardStrategyContext) (policyRoute : Option (ParsedValue Num)) :
    JsonValue Num :=
  .object
    ([("strategyDecision", strategyDecisionValue number strategyDecision),
      ("engineDecision", engineDecisionValue number engineDecision),
      ("context", contextValue number context),
      ("metadata", metadataValue number strategyDecision.metadata)] ++
      (policyRoute.map fun audit => ("policyRoute", audit.val)).toList)

/-- `String(value)`. -/
def numberText (value : ℚ) : String := String.ofList (N.print (number value))

/-- The amount of a market buy. -/
def formatUpbitMarketBuyQuote (value : ℚ) : Except String String := do
  throwIf (value < 0) "Upbit market-buy quote must be a finite non-negative number."
  canonicalizeUpbitOrderDecimal (numberText N number value) "Upbit market-buy quote"

/-- `formatDecimal`, of a quantity that is not negative. -/
def formatDecimal (value : ℚ) : String :=
  if value.den = 1 then numberText N number value
  else String.ofList (stripPoint (stripZeros (pointed ⌊value * 10 ^ 12 + 1 / 2⌋₊ 12)))

/-- Throws when the amount has no order text. -/
def createStrategyDecisionRecord (id exchangeAccountId generatedAt : String)
    (strategyDecision : StrategyDecision) (engineDecision : PositionGuardEngineDecision)
    (context : PositionGuardStrategyContext) (policyRoute : Option (ParsedValue Num)) :
    Except String StrategyDecisionRecord := do
  let intendedNotionalKrw ←
    strategyDecision.requestedNotionalKrw.mapM (formatUpbitMarketBuyQuote N number)
  .ok
    { id
      exchangeAccountId
      strategyKey := strategyDecision.strategyKey
      market := strategyDecision.market
      action := strategyDecision.action
      status :=
        if engineDecision.executionDisposition = .deferredConfirmation then .pendingConfirmation
        else if strategyDecision.action = .hold then .noAction
        else .ready
      decisionBasisJson :=
        stringify N (decisionBasis number strategyDecision engineDecision context policyRoute)
      intendedNotionalKrw
      intendedQuantity := strategyDecision.requestedQuantity.map (numberText N number)
      referencePrice := some (numberText N number strategyDecision.referencePrice)
      createdAt := generatedAt }

/-- The order for an amount that is positive. -/
def submissionFor (amount : Option ℚ) (order : ℚ → Except String OrderSubmissionInput) :
    Except String (Option OrderSubmissionInput) :=
  match amount with
  | none => .ok none
  | some amount => if amount ≤ 0 then .ok none else (order amount).map some

/-- `none` is a decision that orders nothing. -/
def toOrderSubmissionInput (exchangeAccountId strategyDecisionId : String)
    (decision : StrategyDecision) (referencePriceCapturedAt : String) :
    Except String (Option OrderSubmissionInput) :=
  let submission (side : OrderSide) (ordType : Domain.Types.OrderType) (price volume : Option String) :
      OrderSubmissionInput :=
    { exchangeAccountId, strategyDecisionId, referencePriceCapturedAt, decision, side, ordType,
      price, volume }
  if decision.metadata.executionDisposition = .deferredConfirmation then .ok none
  else match decision.action with
  | .enter | .add =>
    submissionFor decision.requestedNotionalKrw fun notional =>
      (formatUpbitMarketBuyQuote N number notional).map fun price =>
        submission .bid .price (some price) none
  | .reduce | .exit =>
    submissionFor decision.requestedQuantity fun quantity =>
      .ok (submission .ask .market none (some (formatDecimal N number quantity)))
  | .hold => .ok none

end Writing

/-! ### Reading a decision back -/

section Reading

variable {Num : Type} (N : NumberSyntax Num)

/-- `readObject`. -/
def readObject (value : Option (JsonValue Num)) : List (String × JsonValue Num) :=
  (asRecord value).getD []

/-- A text that is no object reads as `{}`. -/
def parseJsonObject (value : String) : List (String × JsonValue Num) := readObject (parse N value)

/-- Only of a text. -/
def parseMaybeJsonObject (value : Option (JsonValue Num)) : Option (List (String × JsonValue Num)) :=
  match value with
  | some (.text text) => (parse N text).map fun parsed => readObject (some parsed)
  | _ => none

/-- `null` for another text. -/
def asExecutionDisposition (value : Option (JsonValue Num)) : Option StrategyExecutionDisposition :=
  match value with
  | some (.text "IMMEDIATE") => some .immediate
  | some (.text "DEFERRED_CONFIRMATION") => some .deferredConfirmation
  | some (.text "EXECUTED_AFTER_CONFIRMATION") => some .executedAfterConfirmation
  | some (.text "SKIPPED") => some .skipped
  | _ => none

/-- `asEntryPath`. -/
def asEntryPath (value : Option (JsonValue Num)) : Option StrategyEntryPath := entryPathOf value

/-- `null` for another text. -/
def asQualityBucket (value : Option (JsonValue Num)) : Option StrategySignalQualityBucket :=
  match value with
  | some (.text "HIGH") => some .high
  | some (.text "MEDIUM") => some .medium
  | some (.text "BORDERLINE") => some .borderline
  | some (.text "LOW") => some .low
  | _ => none

/-- What a later run reads of the record. -/
def toPreviousPositionGuardDecision (record : StrategyDecisionRecord) :
    Option PreviousPositionGuardDecision := do
  let basis := parseJsonObject N record.decisionBasisJson
  let metadata := readObject (basis.lookup "metadata")
  let diagnostics := (parseMaybeJsonObject N (metadata.lookup "diagnosticsJson")).getD
    (readObject (basis.lookup "diagnostics"))
  let signalQuality := readObject (basis.lookup "signalQuality")
  let executionDisposition ← asExecutionDisposition
    (coalesce (metadata.lookup "executionDisposition") (basis.lookup "executionDisposition"))
  let entryPath ← asEntryPath (coalesce (diagnostics.lookup "entryPath")
    (coalesce (metadata.lookup "entryPath") (basis.lookup "entryPath")))
  let qualityBucket ← asQualityBucket (coalesce (metadata.lookup "signalQualityBucket")
    (coalesce (signalQuality.lookup "bucket") (basis.lookup "qualityBucket")))
  some
    { action := record.action
      executionDisposition
      entryPath
      qualityBucket
      createdAt := record.createdAt }

end Reading

/-! ### What is written has each name once -/

section Named

variable {Num : Type} {number : ℚ → Num}

@[simp] theorem namedOnce_text (text : String) : NamedOnce (.text text : JsonValue Num) := trivial

@[simp] theorem namedOnce_bool (value : Bool) : NamedOnce (.bool value : JsonValue Num) := trivial

@[simp] theorem namedOnce_number (value : ℚ) : NamedOnce (numberValue number value) := trivial

@[simp] theorem namedOnce_nullable {α : Type} {value : α → JsonValue Num}
    (h : ∀ a, NamedOnce (value a)) (option : Option α) : NamedOnce (nullable value option) := by
  cases option with
  | none => trivial
  | some a => exact h a

@[simp] theorem namedOnce_texts (texts : List String) :
    NamedOnce (textsValue texts : JsonValue Num) := by
  unfold textsValue
  change NamedOnceItems (texts.map JsonValue.text)
  induction texts with
  | nil => trivial
  | cons text texts ih => exact ⟨trivial, ih⟩

theorem namedOnce_object {fields : List (String × JsonValue Num)}
    (hnames : (fields.map Prod.fst).Nodup) (hvalues : ∀ field ∈ fields, NamedOnce field.2) :
    NamedOnce (.object fields) := by
  refine ⟨hnames, ?_⟩
  clear hnames
  induction fields with
  | nil => trivial
  | cons field fields ih =>
    exact ⟨hvalues field List.mem_cons_self,
      ih fun other hother => hvalues other (List.mem_cons_of_mem _ hother)⟩

@[simp] theorem namedOnce_diagnostics (diagnostics : StructureDiagnostics) :
    NamedOnce (diagnosticsValue number diagnostics) :=
  namedOnce_object (by simp) (by simp)

@[simp] theorem namedOnce_guardrails (guardrails : ExposureGuardrails) :
    NamedOnce (guardrailsValue number guardrails) :=
  namedOnce_object (by simp) (by simp)

@[simp] theorem namedOnce_metadata (metadata : DecisionMetadata) :
    NamedOnce (metadataValue number metadata) :=
  namedOnce_object (by simp) (by simp)

@[simp] theorem namedOnce_strategyDecision (decision : StrategyDecision) :
    NamedOnce (strategyDecisionValue number decision) :=
  namedOnce_object (by simp) (by simp)

@[simp] theorem namedOnce_signalQuality (quality : SignalQuality) :
    NamedOnce (signalQualityValue number quality) :=
  namedOnce_object (by simp) (by simp)

@[simp] theorem namedOnce_engineDecision (decision : PositionGuardEngineDecision) :
    NamedOnce (engineDecisionValue number decision) :=
  namedOnce_object (by simp) (by simp)

@[simp] theorem namedOnce_analysis (analysis : PositionGuardStructureAnalysis) :
    NamedOnce (analysisValue number analysis) := by
  unfold analysisValue
  rcases analysis.oneHourLocation with _ | oneHour
  · rcases analysis.fourHourLocation with _ | fourHour
    · exact namedOnce_object (by simp [optionalLocation]) (by simp [optionalLocation])
    · exact namedOnce_object (by simp [optionalLocation]) (by simp [optionalLocation])
  · rcases analysis.fourHourLocation with _ | fourHour
    · exact namedOnce_object (by simp [optionalLocation]) (by simp [optionalLocation])
    · exact namedOnce_object (by simp [optionalLocation]) (by simp [optionalLocation])

@[simp] theorem namedOnce_previousDecision (previous : PreviousPositionGuardDecision) :
    NamedOnce (previousDecisionValue previous : JsonValue Num) :=
  namedOnce_object (by simp) (by simp)

@[simp] theorem namedOnce_recentExit (exit : RecentExitContext) :
    NamedOnce (recentExitValue number exit) :=
  namedOnce_object (by simp) (by simp)

@[simp] theorem namedOnce_settings (settings : PositionGuardStrategySettings) :
    NamedOnce (settingsValue number settings) :=
  namedOnce_object (by simp) (by simp)

@[simp] theorem namedOnce_portfolio (portfolio : PortfolioValues) :
    NamedOnce (portfolioValue number portfolio) :=
  namedOnce_object (by simp) (by simp)

@[simp] theorem namedOnce_context (context : PositionGuardStrategyContext) :
    NamedOnce (contextValue number context) :=
  namedOnce_object (by simp) (by simp)

/-- **The basis of a decision has each name once.** -/
theorem namedOnce_decisionBasis (strategyDecision : StrategyDecision)
    (engineDecision : PositionGuardEngineDecision) (context : PositionGuardStrategyContext)
    (policyRoute : Option (ParsedValue Num)) :
    NamedOnce (decisionBasis number strategyDecision engineDecision context policyRoute) := by
  unfold decisionBasis
  cases policyRoute with
  | none => exact namedOnce_object (by simp) (by simp)
  | some audit => exact namedOnce_object (by simp) (by simp [audit.property])

end Named

/-! ### What is written is read back -/

section ReadBack

variable {Num : Type} {N : NumberSyntax Num} {number : ℚ → Num}

theorem asExecutionDisposition_text (disposition : StrategyExecutionDisposition) :
    asExecutionDisposition (some (.text (executionDispositionText disposition) : JsonValue Num)) =
      some disposition := by
  cases disposition <;> rfl

theorem asQualityBucket_text (bucket : StrategySignalQualityBucket) :
    asQualityBucket (some (.text (qualityBucketText bucket) : JsonValue Num)) = some bucket := by
  cases bucket <;> rfl

theorem coalesce_text (text : String) (legacy : Option (JsonValue Num)) :
    coalesce (some (.text text)) legacy = some (.text text) := rfl

theorem lookup_metadata (number : ℚ → Num) (metadata : DecisionMetadata) :
    (readObject (some (metadataValue number metadata))).lookup "executionDisposition" =
        some (.text (executionDispositionText metadata.executionDisposition)) ∧
      (readObject (some (metadataValue number metadata))).lookup "signalQualityBucket" =
        some (.text (qualityBucketText metadata.signalQualityBucket)) ∧
      (readObject (some (metadataValue number metadata))).lookup "diagnosticsJson" =
        some (.text metadata.diagnosticsJson) := ⟨rfl, rfl, rfl⟩

theorem lookup_diagnostics (diagnostics : StructureDiagnostics) :
    (readObject (some (diagnosticsValue number diagnostics))).lookup "entryPath" =
      some (.text (entryPathText diagnostics.entryPath)) := rfl

variable {engineDecision : PositionGuardEngineDecision} {id exchangeAccountId generatedAt : String}
  {context : PositionGuardStrategyContext} {policyRoute : Option (ParsedValue Num)}
  {record : StrategyDecisionRecord}

theorem record_fields {strategyDecision : StrategyDecision}
    (h : createStrategyDecisionRecord N number id exchangeAccountId generatedAt strategyDecision
      engineDecision context policyRoute = .ok record) :
    record.id = id ∧ record.exchangeAccountId = exchangeAccountId ∧
      record.strategyKey = strategyDecision.strategyKey ∧
      record.market = strategyDecision.market ∧ record.action = strategyDecision.action ∧
      record.decisionBasisJson = stringify N
        (decisionBasis number strategyDecision engineDecision context policyRoute) ∧
      record.createdAt = generatedAt := by
  unfold createStrategyDecisionRecord at h
  obtain ⟨notional, -, h⟩ := bind_eq_ok.mp h
  obtain rfl := Except.ok.inj h
  exact ⟨rfl, rfl, rfl, rfl, rfl, rfl, rfl⟩

/-- **A record is read back as the decision it was written for.** -/
theorem toPrevious_createStrategyDecisionRecord
    (h : createStrategyDecisionRecord N number id exchangeAccountId generatedAt
      (toStrategyDecision N number context engineDecision) engineDecision context policyRoute =
        .ok record) :
    toPreviousPositionGuardDecision N record =
      some
        { action := engineDecision.action
          executionDisposition := engineDecision.executionDisposition
          entryPath := engineDecision.diagnostics.entryPath
          qualityBucket := engineDecision.signalQuality.bucket
          createdAt := generatedAt } := by
  obtain ⟨-, -, -, -, haction, hbasis, hcreated⟩ := record_fields h
  have hparsed : parse N record.decisionBasisJson = some (decisionBasis number
      (toStrategyDecision N number context engineDecision) engineDecision context policyRoute) := by
    rw [hbasis]
    exact parse_stringify N (namedOnce_decisionBasis _ _ _ _)
  have hpath : asEntryPath (some (.text (entryPathText engineDecision.diagnostics.entryPath) :
      JsonValue Num)) = some engineDecision.diagnostics.entryPath := entryPathOf_eq_some.mpr rfl
  have hmetadata : readObject ((parseJsonObject N record.decisionBasisJson).lookup "metadata") =
      readObject (some (metadataValue number
        (toStrategyDecision N number context engineDecision).metadata)) := by
    unfold parseJsonObject
    rw [hparsed]
    rfl
  obtain ⟨hdisposition, hbucket, hjson⟩ := lookup_metadata number
    (toStrategyDecision N number context engineDecision).metadata
  have hread : parseMaybeJsonObject N (some (.text (toStrategyDecision N number context
      engineDecision).metadata.diagnosticsJson)) =
      some (readObject (some (diagnosticsValue number engineDecision.diagnostics))) := by
    have hdiagnostics : parse N (stringify N (diagnosticsValue number engineDecision.diagnostics)) =
        some (diagnosticsValue number engineDecision.diagnostics) :=
      parse_stringify N (namedOnce_diagnostics _)
    exact congrArg (Option.map fun parsed => readObject (some parsed)) hdiagnostics
  unfold toPreviousPositionGuardDecision
  dsimp only
  rw [hmetadata, haction, hcreated, hdisposition, hbucket, hjson, hread, Option.getD_some,
    lookup_diagnostics, coalesce_text, coalesce_text, coalesce_text, asExecutionDisposition_text,
    asQualityBucket_text, hpath]
  rfl

end ReadBack

end AutoTrade.Strategy.DecisionBasis
