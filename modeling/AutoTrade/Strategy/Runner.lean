import AutoTrade.Execution.CandidateOrders
import AutoTrade.Strategy.DecisionBasis

/-! # The runs of the strategy

`PositionGuardStrategyRunner.runOnce` of `position-guard-runner.ts` with the context it loads
(`position-guard-context.ts`): the decision is made from the latest record of the store, routed by the
policy, stored and, unless it is deferred or held, submitted.

What a run reads beside the store is given by its `RunInput`: the numbers of the snapshots, the
analysis of the market, the answer of the candidate verifier. A run completes when nothing throws. The
store is the list of its rows in the order in which they were saved: created ids are new, so that the
upsert of SQLite inserts.

* `route_effective`: the router keeps the decision of the baseline or settles the run.
* `runOnce_spec`: what a completed run stores and submits. -/

namespace AutoTrade.Strategy.Runner

open Lib.Result Lib.JsonText Lib.Latest
open Domain.Types Domain.IsoDate
open Strategy.Core Strategy.CoreDecision Strategy.DecisionBasis
open Strategy.CandidatePolicy Strategy.PolicyRouter
open Execution.CandidateOrders (ReadyVerification canonicalReadyVerification)
open Execution.EvidenceDecimals (toPositionGuardCandidateRoutingState)

/-! ### The context -/

/-- The numbers of the latest snapshots, `none` where one is missing or is no finite number, and the
orders of the account. -/
structure AccountView where
  krwBalance : Option ℚ
  positionQuantity : Option ℚ
  averageEntryPrice : Option ℚ
  marketValue : Option ℚ
  totalEquityKrw : ℚ
  totalExposureKrw : ℚ
  orders : List OrderRecord

section Context

variable (locale : Collation) (dates : DateParser)

/-- The last sale of the market that was filled. -/
def latestExit (orders : List OrderRecord) (market : SupportedMarket) : Option OrderRecord :=
  (latestFirst locale (·.updatedAt) (orders.filter fun order =>
    order.market = market ∧ order.side = .ask ∧ order.status = .filled)).head?

def deriveRecentExitContext (orders : List OrderRecord) (market : SupportedMarket)
    (generatedAt : String) : RecentExitContext :=
  match latestExit locale orders market with
  | none => ⟨none, none, none⟩
  | some exit =>
    { createdAt := some exit.updatedAt
      hoursSinceExit := do
        let generatedAtMs ← dates.parse generatedAt
        let exitAtMs ← dates.parse exit.updatedAt
        some (max 0 (((generatedAtMs - exitAtMs : ℤ) : ℚ) / 3600000))
      realizedPnl := none }

/-- The inputs of `buildPositionGuardStrategyContext`. -/
structure ContextInput where
  market : SupportedMarket
  generatedAt : String
  account : AccountView
  latestDecision : Option PreviousPositionGuardDecision
  settings : PositionGuardStrategySettings
  analysis : PositionGuardStructureAnalysis

def buildPositionGuardStrategyContext (input : ContextInput) : PositionGuardStrategyContext :=
  let positionQuantity := input.account.positionQuantity.getD 0
  let averageEntryPrice := input.account.averageEntryPrice.getD input.analysis.averageEntryPrice
  { asset := getAssetForMarket input.market
    market := input.market
    generatedAt := input.generatedAt
    availableKrw := input.account.krwBalance.getD 0
    positionQuantity
    averageEntryPrice
    portfolio :=
      { totalEquityKrw := input.account.totalEquityKrw
        assetMarketValueKrw :=
          input.account.marketValue.getD (positionQuantity * input.analysis.currentPrice)
        totalExposureKrw := input.account.totalExposureKrw }
    latestDecision := input.latestDecision
    recentExit := deriveRecentExitContext locale dates input.account.orders input.market
      input.generatedAt
    settings := input.settings
    analysis :=
      { input.analysis with
        averageEntryPrice
        pnlPct :=
          if 0 < averageEntryPrice then
            (input.analysis.currentPrice - averageEntryPrice) / averageEntryPrice
          else 0 } }

end Context

/-! ### The store -/

/-- The two stores. -/
inductive Repository
  | inMemory
  | sqlite
  deriving DecidableEq

/-- The row is a decision of the strategy for the account and the market. -/
def IsDecisionOf (exchangeAccountId : String) (market : SupportedMarket)
    (row : StrategyDecisionRecord) : Bool :=
  row.exchangeAccountId = exchangeAccountId ∧ row.market = market ∧
    row.strategyKey = positionGuardStrategyKey

/-- `getLatestStrategyDecision(exchangeAccountId, market, POSITION_GUARD_STRATEGY_KEY)`: in memory the
first row of the greatest text by `localeCompare`, in SQLite `ORDER BY created_at DESC, rowid DESC`. -/
def getLatestStrategyDecision (locale : Collation) (repository : Repository)
    (rows : List StrategyDecisionRecord) (exchangeAccountId : String) (market : SupportedMarket) :
    Option StrategyDecisionRecord :=
  let decisions := rows.filter (IsDecisionOf exchangeAccountId market)
  match repository with
  | .inMemory => (latestFirst locale (·.createdAt) decisions).head?
  | .sqlite => (latestFirst Collation.bytes (·.createdAt) decisions.reverse).head?

/-! ### A run -/

/-- What a runner is made of. -/
structure StrategyRunner (Num : Type) where
  numbers : NumberSyntax Num
  number : ℚ → Num
  dates : DateParser
  locale : Collation
  repository : Repository
  exchangeAccountId : String
  settings : PositionGuardStrategySettings

/-- One call, at a time in milliseconds. -/
structure RunInput (Num : Type) where
  market : SupportedMarket
  generatedAtMs : ℤ
  selection : PositionGuardPolicySelection
  account : AccountView
  analysis : PositionGuardStructureAnalysis
  referencePriceCapturedAt : String
  /-- The answer of the candidate verifier, asked for the market KRW-BTC. -/
  verification : Except String ReadyVerification
  /-- `createPolicyRouteAudit`. -/
  policyRoute : ParsedValue Num
  strategyDecisionId : String

def RunInput.generatedAt {Num : Type} (input : RunInput Num) : String :=
  isoDateText input.generatedAtMs

/-- The result of a run; the submission is the input that the execution service is given. -/
structure RunResult where
  strategyDecisionRecord : StrategyDecisionRecord
  strategyDecision : StrategyDecision
  engineDecision : PositionGuardEngineDecision
  context : PositionGuardStrategyContext
  submission : Option OrderSubmissionInput

/-- The decision that is stored, whether its execution is blocked, and what is noted of its route. -/
structure RoutedDecision (Num : Type) where
  effectiveDecision : PositionGuardEngineDecision
  executionBlocked : Bool
  policyRoute : Option (ParsedValue Num)

section Run

variable {Num : Type} (runner : StrategyRunner Num)

/-- The context of `buildDecision`. -/
def loadContext (rows : List StrategyDecisionRecord) (input : RunInput Num) :
    PositionGuardStrategyContext :=
  buildPositionGuardStrategyContext runner.locale runner.dates
    { market := input.market
      generatedAt := input.generatedAt
      account := input.account
      latestDecision := (getLatestStrategyDecision runner.locale runner.repository rows
        runner.exchangeAccountId input.market).bind (toPreviousPositionGuardDecision runner.numbers)
      settings := runner.settings
      analysis := input.analysis }

/-- The verified authority of a candidate run; the other market has none. -/
def verifyCandidateRun (input : RunInput Num) : Except String (Option ReadyVerification) :=
  if input.market = .krwBtc then do
    let verification ← input.verification
    canonicalReadyVerification verification runner.exchangeAccountId
    .ok (some verification)
  else .ok none

/-- The part of `runOnce` from the selection up to the record. -/
def routeDecision (input : RunInput Num) (context : PositionGuardStrategyContext)
    (baselineDecision : PositionGuardEngineDecision) : Except String (RoutedDecision Num) :=
  match input.selection with
  | .baseline => .ok ⟨baselineDecision, false, none⟩
  | .btcCandidatePilot => do
    let verification ← verifyCandidateRun runner input
    let candidateState ← verification.mapM fun ready =>
      toPositionGuardCandidateRoutingState ready.state
    let route ← routePositionGuardPolicy
      { market := input.market
        generatedAt := input.generatedAt
        baselineDecision
        selection := .btcCandidatePilot
        pilotPhase := (verification.map (·.phase)).getD .disabled
        candidateState
        positionQuantity := context.positionQuantity
        averageEntryPrice := context.averageEntryPrice
        analysis := context.analysis }
    .ok ⟨route.effectiveDecision, route.executionBlocked, some input.policyRoute⟩

/-- The order of a decision, if its execution is not blocked. -/
def submissionOf (input : RunInput Num) (routed : RoutedDecision Num) (strategyDecisionId : String)
    (strategyDecision : StrategyDecision) : Except String (Option OrderSubmissionInput) :=
  if routed.executionBlocked then .ok none
  else toOrderSubmissionInput runner.numbers runner.number runner.exchangeAccountId
    strategyDecisionId strategyDecision input.referencePriceCapturedAt

/-- `persistAndExecuteBaseline`, and the end of `runOnce`, which does the same with the routed
decision. -/
def persistAndExecute (input : RunInput Num) (context : PositionGuardStrategyContext)
    (routed : RoutedDecision Num) : Except String RunResult := do
  let strategyDecision :=
    toStrategyDecision runner.numbers runner.number context routed.effectiveDecision
  let strategyDecisionRecord ← createStrategyDecisionRecord runner.numbers runner.number
    input.strategyDecisionId runner.exchangeAccountId input.generatedAt strategyDecision
    routed.effectiveDecision context routed.policyRoute
  let submission ← submissionOf runner input routed strategyDecisionRecord.id strategyDecision
  .ok
    { strategyDecisionRecord
      strategyDecision
      engineDecision := routed.effectiveDecision
      context
      submission }

def runOnce (rows : List StrategyDecisionRecord) (input : RunInput Num) : Except String RunResult := do
  let context := loadContext runner rows input
  let baselineDecision := decidePositionGuardCore context runner.dates
  let routed ← routeDecision runner input context baselineDecision
  persistAndExecute runner input context routed

/-- Completed calls in sequence. Before each call other writers may have saved rows. -/
def runAll : List StrategyDecisionRecord → List (List StrategyDecisionRecord × RunInput Num) →
    Except String (List RunResult)
  | _, [] => .ok []
  | rows, (saved, input) :: calls => do
    let result ← runOnce runner (rows ++ saved) input
    let results ← runAll (rows ++ saved ++ [result.strategyDecisionRecord]) calls
    .ok (result :: results)

end Run

/-! ### Routing -/

/-- A decision that takes no new risk by confirmation. -/
def Settled (decision : PositionGuardEngineDecision) : Prop :=
  decision.executionDisposition = .skipped ∨ decision.executionDisposition = .immediate

theorem evaluate_effective {input : CandidateInput} {evaluated : PositionGuardCandidateEvaluation}
    (h : evaluatePositionGuardCandidate input = .ok evaluated) :
    evaluated.effectiveDecision = input.decision ∨ Settled evaluated.effectiveDecision := by
  have hgates : (evaluateGates input).effectiveDecision = input.decision ∨
      Settled (evaluateGates input).effectiveDecision := by
    unfold evaluateGates
    split
    · exact Or.inr (Or.inl rfl)
    · split
      · exact Or.inr (Or.inl rfl)
      · split <;> exact Or.inl rfl
  unfold evaluatePositionGuardCandidate at h
  obtain ⟨-, h⟩ := then_eq_ok.mp h
  split at h
  · rw [← Except.ok.inj h]
    exact Or.inl rfl
  · split at h
    · rw [← Except.ok.inj h]
      exact Or.inr (Or.inr rfl)
    · unfold evaluateEntries at h
      split at h
      · rw [bind_eq_ok] at h
        obtain ⟨cooldown, -, h⟩ := h
        split at h
        · rw [← Except.ok.inj h]
          exact Or.inr (Or.inl rfl)
        · rw [← Except.ok.inj h]
          exact hgates
      · rw [← Except.ok.inj h]
        exact hgates

/-- **The router keeps the baseline's decision, or replaces it by one that asks for no confirmation.** -/
theorem route_effective {input : PositionGuardPolicyRouteInput}
    {route : PositionGuardPolicyRouteResult} (h : routePositionGuardPolicy input = .ok route) :
    route.effectiveDecision = input.baselineDecision ∨ Settled route.effectiveDecision := by
  have hgate : ∀ reasons, (phaseGateRoute input reasons).effectiveDecision = input.baselineDecision ∨
      Settled (phaseGateRoute input reasons).effectiveDecision := by
    intro reasons
    unfold phaseGateRoute
    dsimp only
    split_ifs
    · exact Or.inl rfl
    · exact Or.inl rfl
    · exact Or.inr (Or.inl rfl)
  unfold routePositionGuardPolicy at h
  split_ifs at h
  · rw [← Except.ok.inj h]
    exact Or.inl rfl
  · rw [← Except.ok.inj h]
    exact Or.inl rfl
  · split at h
    · rw [← Except.ok.inj h]
      exact Or.inl rfl
    · rw [← Except.ok.inj h]
      exact hgate _
    · rw [← Except.ok.inj h]
      exact hgate _
    · rw [← Except.ok.inj h]
      exact Or.inr (Or.inl rfl)
    · unfold activeCandidateRoute at h
      split at h
      · cases h
      · rw [bind_eq_ok] at h
        obtain ⟨evaluated, hevaluated, h⟩ := h
        rw [← Except.ok.inj h]
        exact evaluate_effective hevaluated

variable {Num : Type}

theorem routeDecision_effective {runner : StrategyRunner Num} {input : RunInput Num}
    {context : PositionGuardStrategyContext} {baselineDecision : PositionGuardEngineDecision}
    {routed : RoutedDecision Num}
    (h : routeDecision runner input context baselineDecision = .ok routed) :
    routed.effectiveDecision = baselineDecision ∨ Settled routed.effectiveDecision := by
  unfold routeDecision at h
  split at h
  · rw [← Except.ok.inj h]
    exact Or.inl rfl
  · rw [bind_eq_ok] at h
    obtain ⟨verification, -, h⟩ := h
    obtain ⟨candidateState, -, h⟩ := bind_eq_ok.mp h
    obtain ⟨route, hroute, h⟩ := bind_eq_ok.mp h
    rw [← Except.ok.inj h]
    exact route_effective hroute

/-! ### What a run stores and submits -/

variable {submission : Option OrderSubmissionInput}

theorem mem_submissionFor {amount : Option ℚ} {build : ℚ → Except String OrderSubmissionInput}
    (h : submissionFor amount build = .ok submission) {order : OrderSubmissionInput}
    (horder : order ∈ submission) : ∃ value, build value = .ok order := by
  unfold submissionFor at h
  split at h
  · obtain rfl := Except.ok.inj h
    cases horder
  · rename_i value
    split at h
    · obtain rfl := Except.ok.inj h
      cases horder
    · obtain ⟨built, hbuilt, rfl⟩ := map_eq_ok h
      obtain rfl := Option.some.inj horder
      exact ⟨value, hbuilt⟩

theorem submission_spec {N : NumberSyntax Num} {number : ℚ → Num}
    {exchangeAccountId strategyDecisionId referencePriceCapturedAt : String}
    {decision : StrategyDecision}
    (h : toOrderSubmissionInput N number exchangeAccountId strategyDecisionId decision
      referencePriceCapturedAt = .ok submission) :
    (decision.metadata.executionDisposition = .deferredConfirmation → submission = none) ∧
      ∀ order ∈ submission, order.decision = decision := by
  unfold toOrderSubmissionInput at h
  dsimp only at h
  split at h
  · obtain rfl := Except.ok.inj h
    exact ⟨fun _ => rfl, by simp⟩
  · rename_i hdisposition
    refine ⟨fun hdeferred => absurd hdeferred hdisposition, ?_⟩
    intro order horder
    have hfrom : ∀ {amount build}, submissionFor amount build = .ok submission →
        (∀ value order, build value = .ok order → order.decision = decision) →
          order.decision = decision := by
      intro amount build hamount hbuild
      obtain ⟨value, hvalue⟩ := mem_submissionFor hamount horder
      exact hbuild value order hvalue
    split at h
    · refine hfrom h fun value order hvalue => ?_
      obtain ⟨price, -, rfl⟩ := map_eq_ok hvalue
      rfl
    · refine hfrom h fun value order hvalue => ?_
      obtain ⟨price, -, rfl⟩ := map_eq_ok hvalue
      rfl
    · refine hfrom h fun value order hvalue => ?_
      obtain rfl := Except.ok.inj hvalue
      rfl
    · refine hfrom h fun value order hvalue => ?_
      obtain rfl := Except.ok.inj hvalue
      rfl
    · obtain rfl := Except.ok.inj h
      cases horder

/-- What is known of the result of a completed run. -/
structure RunSpec {Num : Type} (runner : StrategyRunner Num) (rows : List StrategyDecisionRecord)
    (input : RunInput Num) (result : RunResult) : Prop where
  strategyDecision : result.strategyDecision = toStrategyDecision runner.numbers runner.number
    (loadContext runner rows input) result.engineDecision
  isDecision :
    IsDecisionOf runner.exchangeAccountId input.market result.strategyDecisionRecord = true
  createdAt : result.strategyDecisionRecord.createdAt = input.generatedAt
  readBack : toPreviousPositionGuardDecision runner.numbers result.strategyDecisionRecord = some
    { action := result.engineDecision.action
      executionDisposition := result.engineDecision.executionDisposition
      entryPath := result.engineDecision.diagnostics.entryPath
      qualityBucket := result.engineDecision.signalQuality.bucket
      createdAt := input.generatedAt }
  confirms : result.engineDecision.executionDisposition = .executedAfterConfirmation →
    Confirms (loadContext runner rows input) runner.dates result.engineDecision
  deferred : result.engineDecision.executionDisposition = .deferredConfirmation →
    result.submission = none
  submitted : ∀ order ∈ result.submission, order.decision = result.strategyDecision

/-- **What a completed run stores and submits.** -/
theorem runOnce_spec {runner : StrategyRunner Num} {rows : List StrategyDecisionRecord}
    {input : RunInput Num} {result : RunResult} (h : runOnce runner rows input = .ok result) :
    RunSpec runner rows input result := by
  unfold runOnce at h
  dsimp only at h
  obtain ⟨routed, hrouted, h⟩ := bind_eq_ok.mp h
  unfold persistAndExecute at h
  dsimp only at h
  obtain ⟨record, hrecord, h⟩ := bind_eq_ok.mp h
  obtain ⟨submission, hsubmission, h⟩ := bind_eq_ok.mp h
  obtain rfl := Except.ok.inj h
  have hfields := record_fields hrecord
  have hsubmitted : (routed.effectiveDecision.executionDisposition = .deferredConfirmation →
      submission = none) ∧ ∀ order ∈ submission, order.decision = toStrategyDecision runner.numbers
        runner.number (loadContext runner rows input) routed.effectiveDecision := by
    unfold submissionOf at hsubmission
    split at hsubmission
    · obtain rfl := Except.ok.inj hsubmission
      exact ⟨fun _ => rfl, by simp⟩
    · exact submission_spec hsubmission
  constructor
  · rfl
  · obtain ⟨-, haccount, hkey, hmarket, -⟩ := hfields
    dsimp only
    unfold IsDecisionOf
    rw [haccount, hkey, hmarket]
    exact decide_eq_true ⟨rfl, rfl, rfl⟩
  · exact hfields.2.2.2.2.2.2
  · exact toPrevious_createStrategyDecisionRecord hrecord
  · intro hexecuted
    rcases routeDecision_effective hrouted with heffective | hskipped | himmediate
    · dsimp only at hexecuted ⊢
      rw [heffective] at hexecuted ⊢
      exact decide_executed hexecuted
    · exact absurd (hskipped.symm.trans hexecuted) (by decide)
    · exact absurd (himmediate.symm.trans hexecuted) (by decide)
  · exact hsubmitted.1
  · exact hsubmitted.2

end AutoTrade.Strategy.Runner
