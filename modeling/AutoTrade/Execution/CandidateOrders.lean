import AutoTrade.Execution.CandidateBinding
import AutoTrade.Execution.Service
import AutoTrade.Pilot.Identity
import AutoTrade.Strategy.PolicyParity
import AutoTrade.Strategy.PolicyRouter

/-! # The candidate orders of the runner

How `PositionGuardStrategyRunner.runOnce` turns a READY verification and a route into the record of a
decision, an authority and an order, and when the order can be bound. The amounts of a decision are
positive numbers as ECMAScript writes them; the refresh receipt of a verification, which orders do
not use, is left out.

`candidate_order_bindable_iff`: an order is accepted exactly when its reference price, and for a sale
its quantity, are written without an exponent, a sold quantity has at most twelve decimals, and the
request still lies in the years of four digits. -/

namespace AutoTrade.Execution.CandidateOrders

open Lib.Text Lib.Result Lib.NumberText
open Lib.NumberText.PositiveNumber
open Domain.Types Domain.PilotTypes Domain.Timestamp
open Db.LeaseStore Strategy.Core Strategy.CandidateState
open Strategy.PolicyParity Strategy.PolicyRouter Execution.Records Execution.Service
open Execution.EvidenceDecimals Execution.OrderDecimals
open Execution.CandidateBinding Pilot.Identity

/-! ### The verification -/

structure PilotActivation where
  activationAt : String
  activationEpochNs : ℤ

/-- A READY result of the verifier. -/
structure ReadyVerification where
  deployment : PositionGuardPilotDeploymentRecord
  phase : PositionGuardPilotPhase
  activation : Option PilotActivation
  state : ExactCandidateState
  stateVersion : ℕ

def canonicalActivation (value : Option PilotActivation) : Except String Unit :=
  match value with
  | none => .ok ()
  | some activation => do
    throwIf (isBlank activation.activationAt = true)
      "candidate activationAt must be a non-empty string."
    let parsed ← parsePositionGuardCandidateTimestamp activation.activationAt "candidate activationAt"
    throwIf (parsed ≠ activation.activationEpochNs)
      "Candidate activation epoch does not match its timestamp."

def requireNonNegativeSafeInteger (value : ℕ) (label : String) : Except String Unit :=
  throwIf (isSafeInteger value = false) (label ++ " must be a non-negative safe integer.")

def requireNullableString (value : Option String) (label : String) : Except String Unit :=
  throwIf (value.any isBlank = true) (label ++ " must be a non-empty string.")

def canonicalExactCandidateState (state : ExactCandidateState) : Except String Unit := do
  requireNonNegativeSafeInteger state.currentEpisodeAddCount "candidate currentEpisodeAddCount"
  let _ ← canonicalNonNegativeDecimal (.text state.currentEpisodeCostBasisKrw)
    "candidate currentEpisodeCostBasisKrw"
  let _ ← canonicalNonNegativeDecimal (.text state.currentEpisodeInventoryQuantity)
    "candidate currentEpisodeInventoryQuantity"
  let _ ← canonicalSignedDecimal state.currentEpisodeRealizedPnlKrw
    "candidate currentEpisodeRealizedPnlKrw"
  requireNullableString state.lastFullExitAt "candidate lastFullExitAt"
  let _ ← state.lastFullExitRealizedPnlKrw.mapM fun value =>
    canonicalSignedDecimal value "candidate lastFullExitRealizedPnlKrw"
  requireNullableString state.lastEvidenceAt "candidate lastEvidenceAt"
  requireNullableString state.lastEvidenceId "candidate lastEvidenceId"
  requireNonNegativeSafeInteger state.stateVersion "candidate stateVersion"
  let _ ← toPositionGuardCandidateRoutingState state
  .ok ()

/-- The activation that a phase asks for. -/
def activationProvenance (verification : ReadyVerification) : Except String Unit :=
  let matching := verification.deployment.activationAt =
      verification.activation.map (·.activationAt) ∧
    verification.deployment.activationEpochNs = verification.activation.map (·.activationEpochNs)
  match verification.phase with
  | .active | .draining =>
    throwIf (verification.activation = none ∨ ¬ matching) ("Verified " ++ verification.phase.text ++
      " BTC candidate authority requires exact activation provenance.")
  | .pendingFlat =>
    throwIf (verification.activation ≠ none)
      "PENDING_FLAT BTC candidate authority cannot carry activation provenance."
  | _ =>
    throwIf (¬ matching)
      "Verified DISABLED BTC candidate authority activation provenance is invalid."

def canonicalReadyVerification (verification : ReadyVerification) (exchangeAccountId : String) :
    Except String Unit := do
  validateCandidatePilotDeployment verification.deployment
  throwIf (verification.phase = .pausedFault)
    "Verified BTC candidate phase must be PENDING_FLAT, ACTIVE, DRAINING, or DISABLED."
  canonicalActivation verification.activation
  canonicalExactCandidateState verification.state
  requireNonNegativeSafeInteger verification.stateVersion "verified BTC candidate stateVersion"
  throwIf (verification.deployment.exchangeAccountId ≠ exchangeAccountId ∨
      verification.deployment.phase ≠ verification.phase ∨
      verification.stateVersion ≠ verification.state.stateVersion)
    "Verified BTC candidate authority does not match the configured run identity."
  activationProvenance verification

/-- What the verifier and the runner have checked of a READY result. -/
structure IsReady (verification : ReadyVerification) (exchangeAccountId : String) : Prop where
  identity : ∃ now, verifyDeploymentIdentity verification.deployment verification.deployment.id
    exchangeAccountId now = .ok ()
  canonical : canonicalReadyVerification verification exchangeAccountId = .ok ()

/-! ### Decisions and orders -/

/-- `StrategyDecision` with the part of its metadata that the runner reads. -/
structure ExecutionDecision where
  decision : StrategyDecision PositiveNumber
  executionDisposition : StrategyExecutionDisposition

/-- The numbers of a decision: `roundMoney(targetNotionalKrw)`, `getRequestedQuantity(…)` and the
reference price. -/
structure DecisionNumbers where
  notionalKrw : PositiveNumber
  quantity : Option PositiveNumber
  referencePrice : PositiveNumber

def toStrategyDecision (market : SupportedMarket) (decision : PositionGuardEngineDecision)
    (numbers : DecisionNumbers) : ExecutionDecision where
  decision :=
    { strategyKey := "position_guard.paper_core.v1"
      market
      action := decision.action
      referencePrice := numbers.referencePrice
      requestedNotionalKrw :=
        if decision.action = .enter ∨ decision.action = .add then some numbers.notionalKrw else none
      requestedQuantity :=
        if decision.action = .reduce ∨ decision.action = .exit then numbers.quantity else none }
  executionDisposition := decision.executionDisposition

/-- The text of an optional amount. -/
def optionalText (value : Option PositiveNumber) (text : PositiveNumber → Except String String) :
    Except String (Option String) :=
  match value with
  | none => .ok none
  | some x => (text x).map some

def createStrategyDecisionRecord (id exchangeAccountId generatedAt decisionBasisJson : String)
    (execution : ExecutionDecision) : Except String StrategyDecisionRecord := do
  let intendedNotionalKrw ←
    optionalText execution.decision.requestedNotionalKrw formatUpbitMarketBuyQuote
  .ok
    { id
      exchangeAccountId
      strategyKey := execution.decision.strategyKey
      market := execution.decision.market
      action := execution.decision.action
      status :=
        if execution.executionDisposition = .deferredConfirmation then .pendingConfirmation
        else if execution.decision.action = .hold then .noAction
        else .ready
      decisionBasisJson
      intendedNotionalKrw
      intendedQuantity := execution.decision.requestedQuantity.map jsText
      referencePrice := some (jsText execution.decision.referencePrice)
      createdAt := generatedAt }

/-- The input of a submission, for a side with its amount. -/
def submissionInput (exchangeAccountId strategyDecisionId referencePriceCapturedAt : String)
    (execution : ExecutionDecision) (candidateAuthority : Option CandidateExecutionAuthority)
    (side : OrderSide) (ordType : Domain.Types.OrderType) (price volume : Option String) :
    SubmitOrderFromDecisionInput PositiveNumber where
  exchangeAccountId
  strategyDecisionId := some strategyDecisionId
  referencePriceCapturedAt
  decision := execution.decision
  side
  ordType
  price
  volume
  origin := none
  market := none
  candidateAuthority

def toOrderSubmissionInput (exchangeAccountId strategyDecisionId : String)
    (execution : ExecutionDecision) (referencePriceCapturedAt : String)
    (candidateAuthority : Option CandidateExecutionAuthority) :
    Except String (Option (SubmitOrderFromDecisionInput PositiveNumber)) :=
  let input := submissionInput exchangeAccountId strategyDecisionId referencePriceCapturedAt
    execution candidateAuthority
  if execution.executionDisposition = .deferredConfirmation then .ok none
  else
    match execution.decision.action with
    | .enter | .add =>
      match execution.decision.requestedNotionalKrw with
      | none => .ok none
      | some notional =>
        (formatUpbitMarketBuyQuote notional).map fun price =>
          some (input .bid .price (some price) none)
    | .reduce | .exit =>
      match execution.decision.requestedQuantity with
      | none => .ok none
      | some quantity => .ok (some (input .ask .market none (some (formatDecimal quantity))))
    | .hold => .ok none

/-- The authority of an active pilot. -/
def activeAuthority (verification : ReadyVerification) (route : PositionGuardPolicyRouteResult)
    (action : StrategyDecisionAction) : Bool :=
  verification.phase = .active ∧ route.pilotPhase = .active ∧
    (route.reasonCode = .candidateAllowed ∨ route.reasonCode = .candidateEarlyThesisFailure) ∧
    (route.reasonCode ≠ .candidateEarlyThesisFailure ∨ action = .exit)

/-- The authority of a pilot that drains. -/
def drainingAuthority (verification : ReadyVerification) (route : PositionGuardPolicyRouteResult)
    (action : StrategyDecisionAction) : Bool :=
  verification.phase = .draining ∧ route.pilotPhase = .draining ∧
    route.reasonCode = .drainingRiskReductionPreserved ∧ (action = .reduce ∨ action = .exit)

/-- `baseAuthority`, with the phase and the reason that complete it. -/
def baseAuthority (verification : ReadyVerification) (activation : PilotActivation)
    (expectedPhase : PositionGuardPilotPhase) (routeReason : String) :
    CandidateExecutionAuthority where
  deploymentId := verification.deployment.id
  exchangeAccountId := verification.deployment.exchangeAccountId
  activationAt := activation.activationAt
  activationEpochNs := activation.activationEpochNs
  expectedPhase
  expectedDeploymentUpdatedAt := verification.deployment.updatedAt
  expectedStateVersion := verification.stateVersion
  routeReason

def candidateExecutionAuthority (verification : ReadyVerification)
    (route : PositionGuardPolicyRouteResult) (execution : ExecutionDecision) :
    Option CandidateExecutionAuthority :=
  let active := activeAuthority verification route execution.decision.action
  let draining := drainingAuthority verification route execution.decision.action
  match verification.activation with
  | none => none
  | some activation =>
    if route.executionBlocked = true ∨ execution.decision.action = .hold ∨
        execution.executionDisposition = .deferredConfirmation ∨
        (active = false ∧ draining = false) then none
    else if draining then
      some (baseAuthority verification activation .draining "DRAINING_RISK_REDUCTION_PRESERVED")
    else some (baseAuthority verification activation .active route.reasonCode.text)

/-! ### The run -/

/-- A candidate run of the market KRW-BTC, once it is verified. -/
structure CandidateRun where
  exchangeAccountId : String
  generatedAt : String
  referencePriceCapturedAt : String
  decisionId : String
  decisionBasisJson : String
  verification : ReadyVerification
  baselineDecision : PositionGuardEngineDecision
  positionQuantity : ℚ
  averageEntryPrice : ℚ
  analysis : PositionGuardStructureAnalysis
  numbers : DecisionNumbers

namespace CandidateRun

variable (run : CandidateRun)

def route : Except String PositionGuardPolicyRouteResult := do
  let candidateState ← toPositionGuardCandidateRoutingState run.verification.state
  routePositionGuardPolicy
    { market := .krwBtc
      generatedAt := run.generatedAt
      baselineDecision := run.baselineDecision
      selection := .btcCandidatePilot
      pilotPhase := run.verification.phase
      candidateState := some candidateState
      positionQuantity := run.positionQuantity
      averageEntryPrice := run.averageEntryPrice
      analysis := run.analysis }

/-- The strategy decision of the effective decision, which is the one that is executed. -/
def execution (route : PositionGuardPolicyRouteResult) : ExecutionDecision :=
  toStrategyDecision .krwBtc route.effectiveDecision run.numbers

def authority (route : PositionGuardPolicyRouteResult) : Option CandidateExecutionAuthority :=
  candidateExecutionAuthority run.verification route (run.execution route)

def record (route : PositionGuardPolicyRouteResult) : Except String StrategyDecisionRecord :=
  createStrategyDecisionRecord run.decisionId run.exchangeAccountId run.generatedAt
    run.decisionBasisJson (run.execution route)

def orderInput (route : PositionGuardPolicyRouteResult) :
    Except String (Option (SubmitOrderFromDecisionInput PositiveNumber)) :=
  if route.executionBlocked then .ok none
  else toOrderSubmissionInput run.exchangeAccountId run.decisionId (run.execution route)
    run.referencePriceCapturedAt (run.authority route)

/-- The order of an attempt at the input is bound at `createdAt`: there is an authority, the record of
the decision is written, the binding is derived, and a sale has the quantity that was intended. -/
def Bound (sha256Hex : String → String) (route : PositionGuardPolicyRouteResult)
    (a : Attempt PositiveNumber) (orderId bindingId createdAt : String) : Prop :=
  ∃ authority record timestamps binding,
    run.authority route = some authority ∧ run.record route = .ok record ∧
      createCandidateExecutionAttemptTimestamps authority.activationEpochNs createdAt =
        .ok timestamps ∧
      deriveCandidateExecutionBinding sha256Hex authority
        (a.intentOrder orderId timestamps.orderRequestedAt) record bindingId
        timestamps.bindingCreatedAt = .ok binding ∧
      (a.input.side = .ask → a.input.volume = record.intendedQuantity)

/-- The texts of the numbers are canonical, and both texts of a sold quantity are one. -/
def ExactNumbers (action : StrategyDecisionAction) : Prop :=
  run.numbers.referencePrice.Plain ∧
    (action = .reduce ∨ action = .exit →
      ∀ quantity ∈ run.numbers.quantity, quantity.Plain ∧ -12 ≤ quantity.exponent)

end CandidateRun

/-! ### What is known of a READY run -/

variable {verification : ReadyVerification}

theorem IsReady.activation {account : String} (hready : IsReady verification account)
    (hphase : verification.phase = .active ∨ verification.phase = .draining) :
    ∃ activation, verification.activation = some activation ∧
      verification.deployment.activationAt = some activation.activationAt ∧
      verification.deployment.activationEpochNs = some activation.activationEpochNs := by
  have h := hready.canonical
  simp only [canonicalReadyVerification, then_eq_ok] at h
  obtain ⟨-, -, -, -, -, -, hprovenance⟩ := h
  unfold activationProvenance at hprovenance
  rcases ha : verification.activation with _ | activation
  · rcases hphase with hp | hp <;> simp [hp, ha] at hprovenance
  · refine ⟨activation, rfl, ?_⟩
    rcases hphase with hp | hp <;> simpa [hp, ha] using hprovenance

theorem IsReady.baseAuthority {account reason : String} {activation : PilotActivation}
    {phase : PositionGuardPilotPhase} (hready : IsReady verification account)
    (hat : verification.deployment.activationAt = some activation.activationAt)
    (hepoch : verification.deployment.activationEpochNs = some activation.activationEpochNs)
    (hreason : validateRouteReason phase reason = .ok ()) :
    verification.deployment.exchangeAccountId = account ∧ validateCandidateExecutionAuthority
      (baseAuthority verification activation phase reason) = .ok () := by
  obtain ⟨now, hidentity⟩ := hready.identity
  have hchronology := (activation_le_updatedAt hidentity hat hepoch).2
  have h := hready.canonical
  simp only [canonicalReadyVerification, then_eq_ok, throwIf_eq_ok, not_or, not_not,
    validateCandidatePilotDeployment_eq_ok hat hepoch, requireNonNegativeSafeInteger,
    Bool.not_eq_false, ne_eq] at h
  obtain ⟨⟨hid, haccount, -, hupdated, -, hactivation, hnonneg, hinstant⟩, -, -, -, hsafe,
    ⟨hsame, -, -⟩, -⟩ := h
  refine ⟨hsame, ?_⟩
  rw [validateCandidateExecutionAuthority_eq_ok]
  exact ⟨hid, haccount, hactivation, ⟨hnonneg, hinstant⟩, hupdated, hchronology, hsafe, hreason⟩

namespace CandidateRun

variable {route : PositionGuardPolicyRouteResult}
  {input : SubmitOrderFromDecisionInput PositiveNumber} {run : CandidateRun}

/-- What an order of the run looks like: it buys for the quote, or sells the quantity. -/
theorem orderInput_cases (h : run.orderInput route = .ok (some input)) :
    route.executionBlocked = false ∧
      route.effectiveDecision.executionDisposition ≠ .deferredConfirmation ∧
      ((isEntry route.effectiveDecision.action = true ∧
        ∃ price, formatUpbitMarketBuyQuote run.numbers.notionalKrw = .ok price ∧
          input = submissionInput run.exchangeAccountId run.decisionId run.referencePriceCapturedAt
            (run.execution route) (run.authority route) .bid .price (some price) none) ∨
      ((route.effectiveDecision.action = .reduce ∨ route.effectiveDecision.action = .exit) ∧
        ∃ quantity, run.numbers.quantity = some quantity ∧
          input = submissionInput run.exchangeAccountId run.decisionId run.referencePriceCapturedAt
            (run.execution route) (run.authority route) .ask .market none
            (some (formatDecimal quantity)))) := by
  unfold orderInput at h
  have hblocked : route.executionBlocked = false := by
    by_contra hblocked
    rw [if_pos (by simpa using hblocked)] at h
    cases h
  rw [if_neg (by simp [hblocked]), toOrderSubmissionInput] at h
  have hdisposition : (run.execution route).executionDisposition =
      route.effectiveDecision.executionDisposition := rfl
  have haction : (run.execution route).decision.action = route.effectiveDecision.action := rfl
  rw [hdisposition, haction] at h
  have hdeferred : route.effectiveDecision.executionDisposition ≠ .deferredConfirmation := by
    intro hdeferred
    rw [if_pos hdeferred] at h
    cases h
  rw [if_neg hdeferred] at h
  refine ⟨hblocked, hdeferred, ?_⟩
  have hnotional : (run.execution route).decision.requestedNotionalKrw =
      if route.effectiveDecision.action = .enter ∨ route.effectiveDecision.action = .add
      then some run.numbers.notionalKrw else none := rfl
  have hquantity : (run.execution route).decision.requestedQuantity =
      if route.effectiveDecision.action = .reduce ∨ route.effectiveDecision.action = .exit
      then run.numbers.quantity else none := rfl
  rcases ha : route.effectiveDecision.action with _ | _ | _ | _ | _
  · rw [ha] at h hnotional
    rw [hnotional] at h
    obtain ⟨price, hprice, hsome⟩ := map_eq_ok h
    exact Or.inl ⟨rfl, price, hprice, (Option.some.inj hsome).symm⟩
  · rw [ha] at h hnotional
    rw [hnotional] at h
    obtain ⟨price, hprice, hsome⟩ := map_eq_ok h
    exact Or.inl ⟨rfl, price, hprice, (Option.some.inj hsome).symm⟩
  · rw [ha] at h hquantity
    rw [hquantity] at h
    rcases hq : run.numbers.quantity with _ | quantity
    · simp [hq] at h
    · simp only [hq, true_or, if_true, Except.ok.injEq, Option.some.injEq] at h
      exact Or.inr ⟨Or.inl rfl, quantity, rfl, h.symm⟩
  · rw [ha] at h hquantity
    rw [hquantity] at h
    rcases hq : run.numbers.quantity with _ | quantity
    · simp [hq] at h
    · simp only [hq, or_true, if_true, Except.ok.injEq, Option.some.injEq] at h
      exact Or.inr ⟨Or.inr rfl, quantity, rfl, h.symm⟩
  · rw [ha] at h
    cases h

theorem action_of_orderInput (h : run.orderInput route = .ok (some input)) :
    route.effectiveDecision.action ≠ .hold := by
  obtain ⟨-, -, ⟨hentry, -⟩ | ⟨hexit, -⟩⟩ := orderInput_cases h
  · intro hhold
    rw [hhold] at hentry
    cases hentry
  · intro hhold
    rw [hhold] at hexit
    simp at hexit

/-- The authority that a run gives an order. -/
structure Authorizes (run : CandidateRun) (route : PositionGuardPolicyRouteResult)
    (authority : CandidateExecutionAuthority) : Prop where
  given : run.authority route = some authority
  valid : validateCandidateExecutionAuthority authority = .ok ()
  account : authority.exchangeAccountId = run.exchangeAccountId
  activation : ∃ activation, run.verification.activation = some activation ∧
    authority.activationEpochNs = activation.activationEpochNs
  earlyThesis : authority.routeReason = "CANDIDATE_EARLY_THESIS_FAILURE" →
    route.effectiveDecision.action = .exit
  draining : authority.expectedPhase = .draining → isEntry route.effectiveDecision.action = false

section Ready

variable (hready : IsReady run.verification run.exchangeAccountId)
  (hroute : run.route = .ok route) (hinput : run.orderInput route = .ok (some input))
include hready hroute hinput

/-- **Every order of an active pilot has an authority.** -/
theorem authorizes_of_active (hphase : run.verification.phase = .active) :
    ∃ authority, Authorizes run route authority := by
  obtain ⟨activation, ha, hat, hepoch⟩ := hready.activation (Or.inl hphase)
  rw [CandidateRun.route, bind_eq_ok] at hroute
  obtain ⟨candidateState, -, hrouted⟩ := hroute
  obtain ⟨hpilot, hblocked, hreason⟩ := route_active rfl rfl hphase hrouted
  obtain ⟨-, hdeferred, -⟩ := orderInput_cases hinput
  have hhold := action_of_orderInput hinput
  have hcases : route.reasonCode = .candidateAllowed ∨
      (route.reasonCode = .candidateEarlyThesisFailure ∧ route.effectiveDecision.action = .exit) := by
    rcases hreason with hallowed | ⟨-, hsuppressed⟩ | hexit
    · exact Or.inl hallowed
    · exact absurd hsuppressed hhold
    · exact Or.inr hexit
  have hactive : activeAuthority run.verification route route.effectiveDecision.action = true := by
    simp only [activeAuthority, decide_eq_true_eq]
    refine ⟨hphase, hpilot, ?_, ?_⟩
    · exact hcases.imp_right And.left
    · rcases hcases with h | ⟨-, h⟩
      · exact Or.inl (by simp [h])
      · exact Or.inr h
  have hdraining :
      drainingAuthority run.verification route route.effectiveDecision.action = false := by
    simp [drainingAuthority, hphase]
  have htext : validateRouteReason .active route.reasonCode.text = .ok () := by
    rcases hcases with h | ⟨h, -⟩ <;>
      simp [validateRouteReason, h, PositionGuardPolicyRouteReason.text]
  obtain ⟨haccount, hvalid⟩ := hready.baseAuthority hat hepoch htext
  refine ⟨baseAuthority run.verification activation .active route.reasonCode.text, ?given, hvalid,
    haccount, ⟨activation, ha, rfl⟩, ?early, fun h => by cases h⟩
  case given =>
    have haction : (run.execution route).decision.action = route.effectiveDecision.action := rfl
    have hdisposition : (run.execution route).executionDisposition =
      route.effectiveDecision.executionDisposition := rfl
    rw [authority, candidateExecutionAuthority, ha]
    simp only [haction, hdisposition, hblocked, hhold, hdeferred, hactive, hdraining,
      Bool.false_eq_true, Bool.true_eq_false, false_and, or_self, if_false]
  case early =>
    change route.reasonCode.text = _ → _
    rcases hcases with h | ⟨-, h⟩
    · simp [h, PositionGuardPolicyRouteReason.text]
    · exact fun _ => h

/-- **Every order of a pilot that drains has an authority.** -/
theorem authorizes_of_draining (hphase : run.verification.phase = .draining) :
    ∃ authority, Authorizes run route authority := by
  obtain ⟨activation, ha, hat, hepoch⟩ := hready.activation (Or.inr hphase)
  rw [CandidateRun.route, bind_eq_ok] at hroute
  obtain ⟨candidateState, -, hrouted⟩ := hroute
  obtain ⟨hpilot, hblocked, hreason⟩ := route_draining rfl rfl hphase hrouted
  obtain ⟨-, hdeferred, -⟩ := orderInput_cases hinput
  have hhold := action_of_orderInput hinput
  obtain ⟨hcode, hreduces⟩ := hreason.resolve_left hhold
  have hdraining :
      drainingAuthority run.verification route route.effectiveDecision.action = true := by
    simp only [drainingAuthority, decide_eq_true_eq]
    exact ⟨hphase, hpilot, hcode, hreduces⟩
  obtain ⟨haccount, hvalid⟩ := hready.baseAuthority hat hepoch
    (show validateRouteReason .draining "DRAINING_RISK_REDUCTION_PRESERVED" = .ok () by decide)
  refine ⟨baseAuthority run.verification activation .draining "DRAINING_RISK_REDUCTION_PRESERVED",
    ?given, hvalid, haccount, ⟨activation, ha, rfl⟩, ?early, ?draining⟩
  case given =>
    have haction : (run.execution route).decision.action = route.effectiveDecision.action := rfl
    have hdisposition : (run.execution route).executionDisposition =
      route.effectiveDecision.executionDisposition := rfl
    rw [authority, candidateExecutionAuthority, ha]
    simp only [haction, hdisposition, hblocked, hhold, hdeferred, hdraining, Bool.false_eq_true,
      Bool.true_eq_false, and_false, or_self, if_false, if_true]
  case early =>
    intro h
    change "DRAINING_RISK_REDUCTION_PRESERVED" = "CANDIDATE_EARLY_THESIS_FAILURE" at h
    exact absurd h (by decide)
  case draining =>
    intro _
    rcases hreduces with h | h <;> simp [isEntry, h]

end Ready

/-! ### When an order is bound -/

theorem isEntry_of_reduces {action : StrategyDecisionAction} (h : action = .reduce ∨ action = .exit) :
    isEntry action = false := by
  rcases h with h | h <;> simp [isEntry, h]

/-- The record of a buy: both texts of its amount are the quote. -/
theorem record_of_entry {price : String}
    (hdeferred : route.effectiveDecision.executionDisposition ≠ .deferredConfirmation)
    (hentry : isEntry route.effectiveDecision.action = true)
    (hquote : formatUpbitMarketBuyQuote run.numbers.notionalKrw = .ok price) :
    run.record route = .ok
      { id := run.decisionId
        exchangeAccountId := run.exchangeAccountId
        strategyKey := "position_guard.paper_core.v1"
        market := .krwBtc
        action := route.effectiveDecision.action
        status := .ready
        decisionBasisJson := run.decisionBasisJson
        intendedNotionalKrw := some price
        intendedQuantity := none
        referencePrice := some (jsText run.numbers.referencePrice)
        createdAt := run.generatedAt } := by
  have hbuys : route.effectiveDecision.action = .enter ∨ route.effectiveDecision.action = .add := by
    simpa [isEntry] using hentry
  have hsells : ¬ (route.effectiveDecision.action = .reduce ∨
      route.effectiveDecision.action = .exit) := by
    intro h
    rw [isEntry_of_reduces h] at hentry
    cases hentry
  have hhold : route.effectiveDecision.action ≠ .hold := by
    intro h
    rw [h] at hentry
    cases hentry
  simp only [record, createStrategyDecisionRecord, execution, toStrategyDecision, if_pos hbuys,
    if_neg hsells, optionalText, hquote, Except.map, ok_bind, if_neg hdeferred, if_neg hhold,
    Option.map_none]

/-- The record of a sale: its quantity is written by `String`. -/
theorem record_of_exit {quantity : PositiveNumber}
    (hdeferred : route.effectiveDecision.executionDisposition ≠ .deferredConfirmation)
    (hexit : route.effectiveDecision.action = .reduce ∨ route.effectiveDecision.action = .exit)
    (hquantity : run.numbers.quantity = some quantity) :
    run.record route = .ok
      { id := run.decisionId
        exchangeAccountId := run.exchangeAccountId
        strategyKey := "position_guard.paper_core.v1"
        market := .krwBtc
        action := route.effectiveDecision.action
        status := .ready
        decisionBasisJson := run.decisionBasisJson
        intendedNotionalKrw := none
        intendedQuantity := some (jsText quantity)
        referencePrice := some (jsText run.numbers.referencePrice)
        createdAt := run.generatedAt } := by
  have hbuys : ¬ (route.effectiveDecision.action = .enter ∨
      route.effectiveDecision.action = .add) := by
    rcases hexit with h | h <;> simp [h]
  have hhold : route.effectiveDecision.action ≠ .hold := by
    rcases hexit with h | h <;> simp [h]
  simp only [record, createStrategyDecisionRecord, execution, toStrategyDecision, if_neg hbuys,
    if_pos hexit, optionalText, ok_bind, if_neg hdeferred, if_neg hhold, hquantity, Option.map_some]

/-- The record of a decision and the input of its order, as a run makes them. -/
structure Made (run : CandidateRun) (route : PositionGuardPolicyRouteResult)
    (input : SubmitOrderFromDecisionInput PositiveNumber) (record : StrategyDecisionRecord) :
    Prop where
  written : run.record route = .ok record
  id : record.id = run.decisionId
  account : record.exchangeAccountId = run.exchangeAccountId
  status : record.status = .ready
  strategyKey : record.strategyKey = "position_guard.paper_core.v1"
  market : record.market = .krwBtc
  action : record.action = route.effectiveDecision.action
  createdAt : record.createdAt = run.generatedAt
  referencePrice : record.referencePrice = some (jsText run.numbers.referencePrice)
  inputAccount : input.exchangeAccountId = run.exchangeAccountId
  inputDecision : input.strategyDecisionId = some run.decisionId
  inputOrigin : input.origin = none
  inputMarket : input.market.getD input.decision.market = .krwBtc
  amounts :
    (isEntry record.action = true ∧ input.side = .bid ∧ input.ordType = .price ∧
      input.volume = none ∧ record.intendedQuantity = none ∧
      ∃ price, input.price = some price ∧ record.intendedNotionalKrw = some price ∧
        IsCanonicalPositive price) ∨
    ((record.action = .reduce ∨ record.action = .exit) ∧ input.side = .ask ∧
      input.ordType = .market ∧ input.price = none ∧ record.intendedNotionalKrw = none ∧
      ∃ quantity, run.numbers.quantity = some quantity ∧
        input.volume = some (formatDecimal quantity) ∧
        record.intendedQuantity = some (jsText quantity))

theorem quote_canonical {x : PositiveNumber} {price : String}
    (h : formatUpbitMarketBuyQuote x = .ok price) : IsCanonicalPositive price := by
  by_cases hplain : x.Plain
  · obtain ⟨t, ht, hpositive⟩ := serialize_of_plain hplain "Upbit market-buy quote"
    rw [formatUpbitMarketBuyQuote, ht, Except.ok.injEq] at h
    rw [← h]
    exact hpositive
  · rw [formatUpbitMarketBuyQuote, serialize_of_not_plain hplain] at h
    cases h

theorem exists_made (hinput : run.orderInput route = .ok (some input)) :
    ∃ record, Made run route input record := by
  obtain ⟨-, hdeferred, ⟨hentry, price, hquote, rfl⟩ | ⟨hexit, quantity, hquantity, rfl⟩⟩ :=
    orderInput_cases hinput
  · exact ⟨_, record_of_entry hdeferred hentry hquote, rfl, rfl, rfl, rfl, rfl, rfl, rfl, rfl, rfl,
      rfl, rfl, rfl, Or.inl ⟨hentry, rfl, rfl, rfl, rfl, price, rfl, rfl, quote_canonical hquote⟩⟩
  · exact ⟨_, record_of_exit hdeferred hexit hquantity, rfl, rfl, rfl, rfl, rfl, rfl, rfl, rfl, rfl,
      rfl, rfl, rfl, Or.inr ⟨hexit, rfl, rfl, rfl, rfl, quantity, hquantity, rfl, rfl⟩⟩

theorem sale_texts_iff (quantity : PositiveNumber) :
    (formatDecimal quantity = jsText quantity ∧ IsCanonicalPositive (jsText quantity)) ↔
      quantity.Plain ∧ -12 ≤ quantity.exponent := by
  unfold IsCanonicalPositive
  rw [canonical_jsText]
  constructor
  · rintro ⟨heq, hplain, -⟩
    exact ⟨hplain, (formatDecimal_eq_jsText hplain).mp heq⟩
  · rintro ⟨hplain, hexponent⟩
    exact ⟨(formatDecimal_eq_jsText hplain).mpr hexponent, hplain, jsText_ne_zero hplain⟩

section Made

variable {a : Attempt PositiveNumber} {record : StrategyDecisionRecord} {orderId requestedAt : String}

/-- **The texts of an order are canonical exactly when its numbers are exact.** -/
theorem Made.canonicalTexts_iff (hmade : Made run route a.input record) :
    CanonicalTexts record (a.intentOrder orderId requestedAt) ↔
      run.ExactNumbers route.effectiveDecision.action := by
  have hreference : (∀ t ∈ record.referencePrice, isCanonicalNonNegative t.toList = true) ↔
      run.numbers.referencePrice.Plain := by
    rw [hmade.referencePrice]
    simp [canonical_jsText]
  unfold ExactNumbers
  rw [← hmade.action, ← hreference]
  rcases hmade.amounts with ⟨hentry, -, -, -, -, price, hprice, hnotional, hpositive⟩ |
    ⟨hexit, -, -, -, -, quantity, hquantity, hvolume, hintended⟩
  · constructor
    · intro htexts
      refine ⟨htexts.referencePrice, fun hexit => ?_⟩
      rw [isEntry_of_reduces hexit] at hentry
      cases hentry
    · rintro ⟨hcanonical, -⟩
      refine ⟨hcanonical, fun _ => ⟨price, hprice, hnotional, hpositive⟩, fun hnot => ?_⟩
      rw [hentry] at hnot
      cases hnot
  · simp only [hquantity, hexit, forall_const, Option.mem_some_iff, forall_eq']
    rw [← sale_texts_iff]
    constructor
    · intro htexts
      obtain ⟨volume, hv, hq, hpositive⟩ := htexts.exit (isEntry_of_reduces hexit)
      change a.input.volume = some volume at hv
      rw [hvolume, Option.some.injEq] at hv
      rw [hintended, Option.some.injEq] at hq
      refine ⟨htexts.referencePrice, by rw [hv, hq], ?_⟩
      rw [hq]
      exact hpositive
    · rintro ⟨hcanonical, htext, hpositive⟩
      refine ⟨hcanonical, fun hentry => ?_, fun _ => ⟨jsText quantity, ?_, hintended, hpositive⟩⟩
      · rw [isEntry_of_reduces hexit] at hentry
        cases hentry
      · change a.input.volume = some (jsText quantity)
        rw [hvolume, htext]

theorem Made.fits {authority : CandidateExecutionAuthority} (hmade : Made run route a.input record)
    (hauthorizes : Authorizes run route authority)
    (hmarket : a.market = a.input.market.getD a.input.decision.market)
    (hhold : route.effectiveDecision.action ≠ .hold)
    (hdecisionId : isBlank run.decisionId = false) (horderId : isBlank orderId = false) :
    Fits authority (a.intentOrder orderId requestedAt) record where
  decisionId := by rw [hmade.id]; exact hdecisionId
  orderId := horderId
  ready := hmade.status
  strategyKey := hmade.strategyKey
  market := hmade.market
  action := by rw [hmade.action]; exact hhold
  earlyThesis := by rw [hmade.action]; exact hauthorizes.earlyThesis
  draining := by rw [hmade.action]; exact hauthorizes.draining
  strategyDecisionId := by rw [hmade.id]; exact hmade.inputDecision
  decisionAccount := hmade.account.trans hauthorizes.account.symm
  orderAccount := hmade.inputAccount.trans hauthorizes.account.symm
  orderMarket := hmarket.trans hmade.inputMarket
  entry := by
    intro hentry
    rcases hmade.amounts with ⟨-, hside, htype, hvolume, hquantity, -⟩ | ⟨hexit, -⟩
    · exact ⟨hside, htype, hvolume, hquantity⟩
    · rw [isEntry_of_reduces hexit] at hentry
      cases hentry
  exit := by
    intro hnot
    rcases hmade.amounts with ⟨hentry, -⟩ | ⟨-, hside, htype, hprice, hnotional, -⟩
    · rw [hentry] at hnot
      cases hnot
    · exact ⟨hside, htype, hprice, hnotional⟩
  timeInForce := rfl
  smpType := rfl
  status := rfl
  pristine := by
    refine ⟨?_, rfl, rfl, rfl, rfl⟩
    change a.input.origin.getD .strategy = .strategy
    rw [hmade.inputOrigin]
    rfl
  instants := ⟨rfl, rfl⟩

theorem Made.volume_eq (hmade : Made run route a.input record)
    (htexts : CanonicalTexts record (a.intentOrder orderId requestedAt))
    (hask : a.input.side = .ask) : a.input.volume = record.intendedQuantity := by
  rcases hmade.amounts with ⟨-, hside, -⟩ | ⟨hexit, -⟩
  · rw [hside] at hask
    cases hask
  · obtain ⟨volume, hv, hq, -⟩ := htexts.exit (isEntry_of_reduces hexit)
    exact Eq.trans hv hq.symm

end Made

theorem exactNumbers_of_bound {sha256Hex : String → String} {a : Attempt PositiveNumber}
    {orderId bindingId createdAt : String} (hinput : run.orderInput route = .ok (some a.input))
    (hbound : run.Bound sha256Hex route a orderId bindingId createdAt) :
    run.ExactNumbers route.effectiveDecision.action ∧
      instant createdAt + 1 < endOfFourDigitYears := by
  obtain ⟨record, hmade⟩ := exists_made hinput
  obtain ⟨authority, record', timestamps, binding, -, hrecord, htimestamps, hderive, -⟩ := hbound
  rw [hmade.written, Except.ok.injEq] at hrecord
  subst hrecord
  exact ⟨hmade.canonicalTexts_iff.mp (canonicalTexts_of_derive hderive),
    (attemptTimestamps_spec htimestamps).1⟩

/-- **An order of the runner is bound exactly when its numbers are written alike by all three
serializers**, and the request still has a year of four digits. -/
theorem candidate_order_bindable_iff {sha256Hex : String → String} {run : CandidateRun}
    {route : PositionGuardPolicyRouteResult} {input : SubmitOrderFromDecisionInput PositiveNumber}
    {a : Attempt PositiveNumber} {orderId bindingId createdAt : String}
    (hsha : ∀ text, isHexDigest (sha256Hex text) = true)
    (hready : IsReady run.verification run.exchangeAccountId)
    (hphase : run.verification.phase = .active ∨ run.verification.phase = .draining)
    (hroute : run.route = .ok route) (hinput : run.orderInput route = .ok (some input))
    (ha : a.input = input) (hmarket : a.market = input.market.getD input.decision.market)
    (hdecisionId : isBlank run.decisionId = false) (horderId : isBlank orderId = false)
    (hbindingId : isBlank bindingId = false) (hgenerated : IsCandidateTimestamp run.generatedAt)
    (hcreated : IsCandidateTimestamp createdAt)
    (hdecision : instant run.generatedAt ≤ instant createdAt)
    (hactivation : ∀ activation ∈ run.verification.activation,
      activation.activationEpochNs < instant createdAt) :
    run.Bound sha256Hex route a orderId bindingId createdAt ↔
      run.ExactNumbers route.effectiveDecision.action ∧
        instant createdAt + 1 < endOfFourDigitYears := by
  subst ha
  obtain ⟨authority, hauthorizes⟩ : ∃ authority, Authorizes run route authority := by
    rcases hphase with hp | hp
    · exact authorizes_of_active hready hroute hinput hp
    · exact authorizes_of_draining hready hroute hinput hp
  obtain ⟨activation, hact, hepoch⟩ := hauthorizes.activation
  obtain ⟨-, -, -, ⟨hnonneg, hinstant⟩, -⟩ :=
    validateCandidateExecutionAuthority_eq_ok.mp hauthorizes.valid
  obtain ⟨record, hmade⟩ := exists_made hinput
  constructor
  · exact exactNumbers_of_bound hinput
  · rintro ⟨hexact, hlt⟩
    obtain ⟨timestamps, htimestamps⟩ := exists_attemptTimestamps
      (by omega : 0 ≤ authority.activationEpochNs) hcreated
      (by rw [hepoch]; exact hactivation activation hact) hlt
    have htexts : CanonicalTexts record (a.intentOrder orderId timestamps.orderRequestedAt) :=
      hmade.canonicalTexts_iff.mpr hexact
    have hfits : Fits authority (a.intentOrder orderId timestamps.orderRequestedAt) record :=
      hmade.fits hauthorizes hmarket (action_of_orderInput hinput) hdecisionId horderId
    obtain ⟨binding, hbinding⟩ := hfits.derive htexts hsha hauthorizes.valid hbindingId htimestamps
      rfl (by rw [hmade.createdAt]; exact hgenerated) (by rw [hmade.createdAt]; exact hdecision)
    exact ⟨authority, record, timestamps, binding, hauthorizes.given, hmade.written, htimestamps,
      hbinding, hmade.volume_eq htexts⟩

/-! ### A sale of a remainder -/

/-- The dependencies of an attempt whose numbers are never computed with. -/
def exampleDependencies (digest : String) : Dependencies PositiveNumber where
  library :=
    { number := fun _ => ⟨1, 0, by decide⟩
      numberText := jsText
      isFinite := fun _ => true
      lt := fun x y => decide (x.value < y.value)
      le := fun x y => decide (x.value ≤ y.value)
      mul := fun x _ => x
      zero := ⟨1, 0, by decide⟩
      dateParse := fun _ => none
      sha256Hex := fun _ => digest
      assertCanonicalUpbitMarketBuyQuote := fun _ => .ok ()
      serializeUpbitOrderDecimal := OrderDecimals.serializeUpbitOrderDecimal
      dryRunVolume := fun x _ => jsText x
      evaluateRiskGuards := fun _ => ⟨true, []⟩
      parseCandidateEvidenceTimestamp := fun text =>
        parsePositionGuardCandidateTimestamp text "timestamp"
      formatCanonicalUtcIsoNanoseconds := Domain.Timestamp.formatCanonicalUtcIsoNanoseconds
      validateCandidateExecutionAuthority := fun authority =>
        (CandidateBinding.validateCandidateExecutionAuthority authority).map fun _ => authority
      createCandidateExecutionAttemptTimestamps :=
        CandidateBinding.createCandidateExecutionAttemptTimestamps
      deriveCandidateExecutionBinding :=
        CandidateBinding.deriveCandidateExecutionBinding fun _ => digest
      validateCandidateExecutionBinding :=
        CandidateBinding.validateCandidateExecutionBinding fun _ => digest
      persistedPayloadMatches := fun _ _ _ => true
      validateFinalCandidateIntent := fun _ _ _ _ _ _ _ => .ok () }
  riskLimits := ⟨⟨⟨1, 0, by decide⟩, ⟨1, 0, by decide⟩⟩, ⟨1, 0, by decide⟩, ⟨1, 0, by decide⟩,
    ⟨1, 0, by decide⟩⟩
  sendPath := .dryRunAdapter
  accountExecutionLeaseMs := 60000
  hasCandidatePilots := true
  hasStrategyDecisionReads := true
  hasReporter := false
  hasExecutionAuthority := true

def exampleDeployment : PositionGuardPilotDeploymentRecord :=
  ⟨"deployment", "acct", .active, some "2026-01-01T00:00:00Z", some 1767225600000000000,
    "2025-12-31T00:00:00Z", "2026-01-01T00:00:00Z"⟩

/-- An active pilot that holds some bitcoin since one o'clock. -/
def exampleVerification (inventory : String) : ReadyVerification where
  deployment := exampleDeployment
  phase := .active
  activation := some ⟨"2026-01-01T00:00:00Z", 1767225600000000000⟩
  state := { createExactEmptyCandidateState with
    currentEpisodeCostBasisKrw := "50"
    currentEpisodeInventoryQuantity := inventory
    lastEntryPath := some .pullback
    lastEvidenceAt := some "2026-01-01T01:00:00Z"
    lastEvidenceId := some "entry"
    stateVersion := 1 }
  stateVersion := 1

/-- The exit from all of it, an hour later. -/
def exampleRun (inventory : String) (quantity : PositiveNumber) : CandidateRun where
  exchangeAccountId := "acct"
  generatedAt := "2026-01-01T02:00:00.000Z"
  referencePriceCapturedAt := "2026-01-01T02:00:00.000Z"
  decisionId := "strategy_decision_1"
  decisionBasisJson := "\x7b\x7d"
  verification := exampleVerification inventory
  baselineDecision := uptrendDecision .exit
  positionQuantity := quantity.value
  averageEntryPrice := 100000000
  analysis := uptrend
  numbers := ⟨⟨1, 4, by decide⟩, some quantity, ⟨1, 8, by decide⟩⟩

/-- The ledger that the route of the example sees. -/
def exampleState (quantity : ℚ) : PositionGuardCandidateState :=
  { createEmptyPositionGuardCandidateState with
    currentEpisodeCostBasisKrw := 50
    currentEpisodeInventoryQuantity := quantity
    lastEntryPath := some .pullback
    lastEvidenceAt := some "2026-01-01T01:00:00Z"
    lastEvidenceId := some "entry"
    stateVersion := 1 }

/-- The exit is allowed. -/
def exampleRoute (quantity : ℚ) : PositionGuardPolicyRouteResult where
  baselineDecision := uptrendDecision .exit
  effectiveDecision := uptrendDecision .exit
  selection := .btcCandidatePilot
  pilotPhase := .active
  candidateEvaluation := some (Strategy.CandidatePolicy.evaluation
    { policyId := .combinedConservative
      generatedAt := "2026-01-01T02:00:00.000Z"
      decision := uptrendDecision .exit
      positionQuantity := quantity
      averageEntryPrice := 100000000
      candidateState := exampleState quantity
      analysis := uptrend }
    .allow .riskReducingDecisionPreserved .preserveRiskReduction (uptrendDecision .exit))
  reasonCode := .candidateAllowed
  stateVersion := some 1
  executionBlocked := false

/-- The order of the example, once its lease is held. -/
def exampleAttempt (inventory digest : String) (quantity : PositiveNumber) :
    Attempt PositiveNumber where
  deps := exampleDependencies digest
  input := submissionInput "acct" "strategy_decision_1" "2026-01-01T02:00:00.000Z"
    (toStrategyDecision .krwBtc (uptrendDecision .exit) (exampleRun inventory quantity).numbers)
    ((exampleRun inventory quantity).authority (exampleRoute quantity.value)) .ask .market none
    (some (formatDecimal quantity))
  market := .krwBtc
  attemptStartedAt := "2026-01-01T02:00:00.500Z"
  idempotencyKey := "key"
  candidate := none
  leaseOwnerToken := "token"
  acquisitionWindow := ⟨1767232800500, 1767232860500⟩

theorem isReady_exampleVerification {inventory : String}
    (h : canonicalReadyVerification (exampleVerification inventory) "acct" = .ok ()) :
    IsReady (exampleVerification inventory) "acct" := by
  have hidentity : verifyDeploymentIdentity exampleDeployment "deployment" "acct"
      (instant "2026-01-01T02:00:00.000Z") = .ok () := by decide
  exact ⟨⟨_, hidentity⟩, h⟩

/-- The digest of the binding of the sale below. -/
def exampleDigest : String :=
  "ab65be079f1ea561f145610a730ea7230302e4d00045c604ad629c7bb9f8cdfe"

/-- A sale of 0.0005 is bound. -/
theorem sale_bound :
    (exampleRun "0.0005" ⟨5, -4, by decide⟩).Bound (fun _ => exampleDigest)
      (exampleRoute (PositiveNumber.value ⟨5, -4, by decide⟩))
      (exampleAttempt "0.0005" exampleDigest ⟨5, -4, by decide⟩) "order_1"
      "candidate_execution_binding_1" "2026-01-01T02:00:01.000Z" := by
  have hexact : (exampleRun "0.0005" ⟨5, -4, by decide⟩).ExactNumbers .exit := by
    refine ⟨by decide +kernel, fun _ quantity hquantity => ?_⟩
    cases hquantity
    exact ⟨by decide +kernel, by decide⟩
  refine (candidate_order_bindable_iff (fun _ => by decide)
    (isReady_exampleVerification (by decide +kernel)) (Or.inl rfl) (by decide +kernel) rfl rfl rfl
    (by decide) (by decide) (by decide) (by decide) (by decide) (by decide) ?_).mpr
    ⟨hexact, by decide⟩
  intro activation hactivation
  cases hactivation
  decide

/-- A remainder of 0.0000005 cannot be sold: the decision names the quantity `5e-7`, the order
`0.0000005`, and no binding is derived. -/
theorem dust_sale_not_bound :
    IsReady (exampleVerification "0.0000005") "acct" ∧
      (exampleRun "0.0000005" ⟨5, -7, by decide⟩).route =
        .ok (exampleRoute (PositiveNumber.value ⟨5, -7, by decide⟩)) ∧
      (exampleRun "0.0000005" ⟨5, -7, by decide⟩).orderInput
        (exampleRoute (PositiveNumber.value ⟨5, -7, by decide⟩)) =
        .ok (some (exampleAttempt "0.0000005" exampleDigest ⟨5, -7, by decide⟩).input) ∧
      (exampleAttempt "0.0000005" exampleDigest ⟨5, -7, by decide⟩).input.volume =
        some "0.0000005" ∧
      jsText ⟨5, -7, by decide⟩ = "5e-7" ∧
      ∀ sha256Hex : String → String, ¬ (exampleRun "0.0000005" ⟨5, -7, by decide⟩).Bound sha256Hex
        (exampleRoute (PositiveNumber.value ⟨5, -7, by decide⟩))
        (exampleAttempt "0.0000005" exampleDigest ⟨5, -7, by decide⟩) "order_1"
        "candidate_execution_binding_1" "2026-01-01T02:00:01.000Z" := by
  refine ⟨isReady_exampleVerification (by decide +kernel), by decide +kernel, rfl, by decide +kernel,
    by decide +kernel, fun sha256Hex hbound => ?_⟩
  have hexact := (exactNumbers_of_bound rfl hbound).1
  exact absurd (hexact.2 (Or.inr rfl) _ rfl).1 (by decide +kernel)

end CandidateRun

end AutoTrade.Execution.CandidateOrders
