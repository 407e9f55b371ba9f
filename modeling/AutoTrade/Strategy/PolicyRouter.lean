import AutoTrade.Domain.PilotTypes
import AutoTrade.Strategy.CandidatePolicy

/-! # The policy router

`routePositionGuardPolicy` of `position-guard-policy-router.ts`: which decision of a run is executed,
from the selection, the market and the phase of the pilot. The freezing of decisions leaves their
content as it is, and the shape of a selection holds by type.

* `route_active`, `route_draining`: what a route of the candidate market looks like in the phases in
  which the pilot trades. -/

namespace AutoTrade.Strategy.PolicyRouter

open Lib.Result Domain.Types Domain.PilotTypes
open Strategy.Core Strategy.CandidateState Strategy.CandidatePolicy

/-! ### Records -/

inductive PositionGuardPolicySelection
  | baseline
  | btcCandidatePilot
  deriving DecidableEq

inductive PositionGuardPolicyRouteReason
  | baselineSelection
  | ethBaseline
  | pilotDisabled
  | pendingFlatNewRiskSuppressed
  | pendingFlatRiskReductionPreserved
  | pendingFlatBaselineHoldPreserved
  | drainingNewRiskSuppressed
  | drainingRiskReductionPreserved
  | drainingBaselineHoldPreserved
  | pausedFaultBlocked
  | candidateAllowed
  | candidateSuppressed
  | candidateEarlyThesisFailure
  deriving DecidableEq

def PositionGuardPolicyRouteReason.text : PositionGuardPolicyRouteReason → String
  | baselineSelection => "BASELINE_SELECTION"
  | ethBaseline => "ETH_BASELINE"
  | pilotDisabled => "PILOT_DISABLED"
  | pendingFlatNewRiskSuppressed => "PENDING_FLAT_NEW_RISK_SUPPRESSED"
  | pendingFlatRiskReductionPreserved => "PENDING_FLAT_RISK_REDUCTION_PRESERVED"
  | pendingFlatBaselineHoldPreserved => "PENDING_FLAT_BASELINE_HOLD_PRESERVED"
  | drainingNewRiskSuppressed => "DRAINING_NEW_RISK_SUPPRESSED"
  | drainingRiskReductionPreserved => "DRAINING_RISK_REDUCTION_PRESERVED"
  | drainingBaselineHoldPreserved => "DRAINING_BASELINE_HOLD_PRESERVED"
  | pausedFaultBlocked => "PAUSED_FAULT_BLOCKED"
  | candidateAllowed => "CANDIDATE_ALLOWED"
  | candidateSuppressed => "CANDIDATE_SUPPRESSED"
  | candidateEarlyThesisFailure => "CANDIDATE_EARLY_THESIS_FAILURE"

structure PositionGuardPolicyRouteInput where
  market : SupportedMarket
  generatedAt : String
  baselineDecision : PositionGuardEngineDecision
  selection : PositionGuardPolicySelection
  pilotPhase : PositionGuardPilotPhase
  candidateState : Option PositionGuardCandidateState
  positionQuantity : ℚ
  averageEntryPrice : ℚ
  analysis : PositionGuardStructureAnalysis

/-- Without `executionDecision`, the effective decision unless the execution is blocked. -/
structure PositionGuardPolicyRouteResult where
  baselineDecision : PositionGuardEngineDecision
  effectiveDecision : PositionGuardEngineDecision
  selection : PositionGuardPolicySelection
  pilotPhase : PositionGuardPilotPhase
  candidateEvaluation : Option PositionGuardCandidateEvaluation
  reasonCode : PositionGuardPolicyRouteReason
  stateVersion : Option ℕ
  executionBlocked : Bool
  deriving DecidableEq

/-! ### The routes -/

def routeResult (input : PositionGuardPolicyRouteInput)
    (effectiveDecision : PositionGuardEngineDecision) (selection : PositionGuardPolicySelection)
    (candidateEvaluation : Option PositionGuardCandidateEvaluation)
    (reasonCode : PositionGuardPolicyRouteReason) (stateVersion : Option ℕ)
    (executionBlocked : Bool) : PositionGuardPolicyRouteResult where
  baselineDecision := input.baselineDecision
  effectiveDecision
  selection
  pilotPhase := input.pilotPhase
  candidateEvaluation
  reasonCode
  stateVersion
  executionBlocked

def suppressedDecision (decision : PositionGuardEngineDecision) (reasonCode : String) :
    PositionGuardEngineDecision :=
  { decision with
    action := .hold
    summary := "PositionGuard route suppressed " ++ decision.action.text ++ " because " ++
      reasonCode ++ "."
    reasons := [reasonCode]
    targetNotionalKrw := 0
    targetQuantityFraction := none
    executionDisposition := .skipped }

def isRiskReducing (decision : PositionGuardEngineDecision) : Bool :=
  decision.action = .reduce ∨ decision.action = .exit

def baselineRoute (input : PositionGuardPolicyRouteInput)
    (reasonCode : PositionGuardPolicyRouteReason) : PositionGuardPolicyRouteResult :=
  routeResult input input.baselineDecision .baseline none reasonCode none false

/-- The three reasons of a phase that lets no new risk through. -/
structure PhaseGateReasons where
  hold : PositionGuardPolicyRouteReason
  riskReduction : PositionGuardPolicyRouteReason
  newRisk : PositionGuardPolicyRouteReason

def phaseGateRoute (input : PositionGuardPolicyRouteInput) (reasons : PhaseGateReasons) :
    PositionGuardPolicyRouteResult :=
  let stateVersion := input.candidateState.map (·.stateVersion)
  if input.baselineDecision.action = .hold then
    routeResult input input.baselineDecision .btcCandidatePilot none reasons.hold stateVersion false
  else if isRiskReducing input.baselineDecision then
    routeResult input input.baselineDecision .btcCandidatePilot none reasons.riskReduction
      stateVersion false
  else
    routeResult input (suppressedDecision input.baselineDecision reasons.newRisk.text)
      .btcCandidatePilot none reasons.newRisk stateVersion false

def blockedRoute (input : PositionGuardPolicyRouteInput) : PositionGuardPolicyRouteResult :=
  routeResult input (suppressedDecision input.baselineDecision "PAUSED_FAULT_BLOCKED")
    .btcCandidatePilot none .pausedFaultBlocked (input.candidateState.map (·.stateVersion)) true

def candidateReasonCode (evaluation : PositionGuardCandidateEvaluation) :
    PositionGuardPolicyRouteReason :=
  match evaluation.outcome with
  | .overrideExit => .candidateEarlyThesisFailure
  | .suppress => .candidateSuppressed
  | .allow => .candidateAllowed

def activeCandidateRoute (input : PositionGuardPolicyRouteInput) :
    Except String PositionGuardPolicyRouteResult :=
  match input.candidateState with
  | none => .error "An ACTIVE PositionGuard pilot requires persisted candidate state."
  | some candidateState => do
    let candidateEvaluation ← evaluatePositionGuardCandidate
      { policyId := .combinedConservative
        generatedAt := input.generatedAt
        decision := input.baselineDecision
        positionQuantity := input.positionQuantity
        averageEntryPrice := input.averageEntryPrice
        candidateState
        analysis := input.analysis }
    .ok (routeResult input candidateEvaluation.effectiveDecision .btcCandidatePilot
      (some candidateEvaluation) (candidateReasonCode candidateEvaluation)
      (some candidateState.stateVersion) false)

def routePositionGuardPolicy (input : PositionGuardPolicyRouteInput) :
    Except String PositionGuardPolicyRouteResult :=
  if input.selection = .baseline then .ok (baselineRoute input .baselineSelection)
  else if input.market = .krwEth then .ok (baselineRoute input .ethBaseline)
  else
    match input.pilotPhase with
    | .disabled => .ok (baselineRoute input .pilotDisabled)
    | .pendingFlat => .ok (phaseGateRoute input ⟨.pendingFlatBaselineHoldPreserved,
        .pendingFlatRiskReductionPreserved, .pendingFlatNewRiskSuppressed⟩)
    | .draining => .ok (phaseGateRoute input ⟨.drainingBaselineHoldPreserved,
        .drainingRiskReductionPreserved, .drainingNewRiskSuppressed⟩)
    | .pausedFault => .ok (blockedRoute input)
    | .active => activeCandidateRoute input

/-! ### What a route looks like -/

/-- The decision of an evaluation that does not allow the baseline's. -/
theorem evaluate_action {input : CandidateInput} {evaluated : PositionGuardCandidateEvaluation}
    (h : evaluatePositionGuardCandidate input = .ok evaluated) :
    (evaluated.outcome = .suppress → evaluated.effectiveDecision.action = .hold) ∧
      (evaluated.outcome = .overrideExit → evaluated.effectiveDecision.action = .exit) := by
  have hgates : ∀ e, e = evaluateGates input → (e.outcome = .suppress →
      e.effectiveDecision.action = .hold) ∧ e.outcome ≠ .overrideExit := by
    rintro e rfl
    unfold evaluateGates
    split
    · exact ⟨fun _ => rfl, by simp [evaluation]⟩
    · split
      · exact ⟨fun _ => rfl, by simp [evaluation]⟩
      · split <;> simp [evaluation]
  have hallow : ∀ e, e = evaluateGates input → (e.outcome = .suppress →
      e.effectiveDecision.action = .hold) ∧
      (e.outcome = .overrideExit → e.effectiveDecision.action = .exit) := by
    intro e he
    obtain ⟨hsuppress, hnever⟩ := hgates e he
    exact ⟨hsuppress, fun hexit => absurd hexit hnever⟩
  unfold evaluatePositionGuardCandidate at h
  obtain ⟨-, h⟩ := then_eq_ok.mp h
  split at h
  · rw [← Except.ok.inj h]
    simp [evaluation]
  · split at h
    · rw [← Except.ok.inj h]
      exact ⟨by simp [evaluation], fun _ => rfl⟩
    · unfold evaluateEntries at h
      split at h
      · rw [bind_eq_ok] at h
        obtain ⟨cooldown, -, h⟩ := h
        split at h
        · rw [← Except.ok.inj h]
          exact ⟨fun _ => rfl, by simp [evaluation]⟩
        · exact hallow evaluated (Except.ok.inj h).symm
      · exact hallow evaluated (Except.ok.inj h).symm

variable {route : PositionGuardPolicyRouteResult} {input : PositionGuardPolicyRouteInput}

/-- A route of the candidate market while the pilot is active: its reason is one of three, and the
reasons other than `CANDIDATE_ALLOWED` fix the action. -/
theorem route_active (hselection : input.selection = .btcCandidatePilot)
    (hmarket : input.market = .krwBtc) (hphase : input.pilotPhase = .active)
    (h : routePositionGuardPolicy input = .ok route) :
    route.pilotPhase = .active ∧ route.executionBlocked = false ∧
      (route.reasonCode = .candidateAllowed ∨
        (route.reasonCode = .candidateSuppressed ∧ route.effectiveDecision.action = .hold) ∨
        (route.reasonCode = .candidateEarlyThesisFailure ∧
          route.effectiveDecision.action = .exit)) := by
  unfold routePositionGuardPolicy at h
  rw [if_neg (by simp [hselection]), if_neg (by simp [hmarket]), hphase] at h
  simp only [activeCandidateRoute] at h
  split at h
  · cases h
  · rw [bind_eq_ok] at h
    obtain ⟨evaluated, hevaluated, h⟩ := h
    obtain ⟨hsuppress, hexit⟩ := evaluate_action hevaluated
    rw [← Except.ok.inj h]
    refine ⟨hphase, rfl, ?_⟩
    change candidateReasonCode evaluated = .candidateAllowed ∨
      (candidateReasonCode evaluated = .candidateSuppressed ∧
        evaluated.effectiveDecision.action = .hold) ∨
      (candidateReasonCode evaluated = .candidateEarlyThesisFailure ∧
        evaluated.effectiveDecision.action = .exit)
    unfold candidateReasonCode
    rcases hout : evaluated.outcome with _ | _ | _
    · exact Or.inl rfl
    · exact Or.inr (Or.inl ⟨rfl, hsuppress hout⟩)
    · exact Or.inr (Or.inr ⟨rfl, hexit hout⟩)

theorem route_draining (hselection : input.selection = .btcCandidatePilot)
    (hmarket : input.market = .krwBtc) (hphase : input.pilotPhase = .draining)
    (h : routePositionGuardPolicy input = .ok route) :
    route.pilotPhase = .draining ∧ route.executionBlocked = false ∧
      (route.effectiveDecision.action = .hold ∨
        (route.reasonCode = .drainingRiskReductionPreserved ∧
          (route.effectiveDecision.action = .reduce ∨ route.effectiveDecision.action = .exit))) := by
  unfold routePositionGuardPolicy at h
  rw [if_neg (by simp [hselection]), if_neg (by simp [hmarket]), hphase] at h
  rw [← Except.ok.inj h]
  unfold phaseGateRoute
  dsimp only
  split_ifs with hhold hreducing
  · exact ⟨hphase, rfl, Or.inl hhold⟩
  · simp only [isRiskReducing, decide_eq_true_eq] at hreducing
    exact ⟨hphase, rfl, Or.inr ⟨rfl, hreducing⟩⟩
  · exact ⟨hphase, rfl, Or.inl rfl⟩

end AutoTrade.Strategy.PolicyRouter
