import AutoTrade.Strategy.CandidatePolicy
import AutoTrade.Strategy.ResearchPolicy

/-! # The live policy and the researched policy

The candidate policy and the research policy of the same id, asked about the same situation, give
the same answer (`evaluatePositionGuardCandidate_agrees`). They part on what the live policy refuses
to look at: it validates its whole input first, the research policy only reads a timestamp when an
entry meets a cooldown. -/

namespace AutoTrade.Strategy.PolicyParity

open Lib.Result Domain.Types Domain.Timestamp Performance.Timestamp
open Strategy.Core Strategy.CandidateState Strategy.CandidatePolicy
open Strategy.ResearchPolicy

/-! ### The same situation -/

/-- The research policy of the same id. -/
def researchPolicyId :
    PositionGuardRegisteredCandidatePolicyId → PositionGuardBacktestInterventionPolicyId
  | .combinedConservative => .combinedConservative
  | .combinedMinusEarlyThesisFailure => .combinedMinusEarlyThesisFailure
  | .combinedMinusCooldownControl => .combinedMinusCooldownControl

/-- The component of the same id. -/
def researchComponent : PositionGuardCandidateComponent → CombinedConservativeComponent
  | .htfTrendGate => .htfTrendGate
  | .earlyThesisFailure => .earlyThesisFailure
  | .addLimited => .addLimited
  | .cooldownControl => .cooldownControl

/-- The two inputs describe one situation: the same decision on the same position, and ledgers that
agree on what the policy reads of them. -/
structure SameSituation (live : CandidateInput) (research : InterventionInput) : Prop where
  policyId : research.policyId = researchPolicyId live.policyId
  generatedAt : research.generatedAt = live.generatedAt
  decision : research.decision = live.decision
  quantity : research.state.quantity = live.positionQuantity
  averageEntryPrice : research.state.averageEntryPrice = live.averageEntryPrice
  analysis : research.analysis = live.analysis
  addCount : research.researchState.currentEpisodeAddCount =
    live.candidateState.currentEpisodeAddCount
  lastFullExitAt : research.researchState.lastFullExitAt = live.candidateState.lastFullExitAt
  lastFullExitPnl : research.researchState.lastFullExitRealizedPnlKrw =
    live.candidateState.lastFullExitRealizedPnlKrw
  lastEntryPath : research.researchState.lastEntryPath = live.candidateState.lastEntryPath

/-- What of a decision is executed. -/
def executed (decision : PositionGuardEngineDecision) :
    StrategyDecisionAction × ℚ × Option ℚ × StrategyExecutionDisposition :=
  (decision.action, decision.targetNotionalKrw, decision.targetQuantityFraction,
    decision.executionDisposition)

/-- An evaluation and an intervention say the same of a decision. -/
def SameAnswer (decision : PositionGuardEngineDecision) (live : PositionGuardCandidateEvaluation)
    (research : Option PositionGuardBacktestResearchIntervention) : Prop :=
  live.outcome.text = (research.elim "ALLOW" fun i => i.outcome.text) ∧
    live.reason.text = (research.elim "NO_INTERVENTION" fun i => i.reason.text) ∧
    live.effectiveAction = (research.elim decision.action fun i => i.effectiveAction) ∧
    executed live.effectiveDecision = executed (toEffectiveDecision decision research)

instance (decision : PositionGuardEngineDecision) (live : PositionGuardCandidateEvaluation)
    (research : Option PositionGuardBacktestResearchIntervention) :
    Decidable (SameAnswer decision live research) := by
  unfold SameAnswer; infer_instance

/-- Both evaluations throw, or both return and say the same. -/
def SameEvaluation (decision : PositionGuardEngineDecision) :
    Except String PositionGuardCandidateEvaluation →
      Except String (Option PositionGuardBacktestResearchIntervention) → Prop
  | .error _, .error _ => True
  | .ok live, .ok research => SameAnswer decision live research
  | _, _ => False

instance (decision : PositionGuardEngineDecision) :
    ∀ live research, Decidable (SameEvaluation decision live research)
  | .error _, .error _ => isTrue trivial
  | .ok live, .ok research => inferInstanceAs (Decidable (SameAnswer decision live research))
  | .error _, .ok _ => isFalse id
  | .ok _, .error _ => isFalse id

/-! ### The components -/

variable {live : CandidateInput} {research : InterventionInput}

section

variable (h : SameSituation live research)
include h

theorem isComponentActive_iff (component : PositionGuardCandidateComponent) :
    isComponentActive research.policyId (researchComponent component) = true ↔
      component ∈ policyComponents live.policyId := by
  rw [h.policyId]
  cases live.policyId <;> cases component <;> decide

theorem earlyFailure_text :
    (getEarlyThesisFailureReason research).map (·.text) =
      (getEarlyFailureReason live).map (·.text) := by
  simp only [getEarlyThesisFailureReason, getEarlyFailureReason, h.decision, h.quantity, h.analysis]
  grind [manifest, CandidatePolicy.authority, PositionGuardCandidateReason.text,
    PositionGuardBacktestResearchInterventionReason.text]

theorem htf_text :
    (ResearchPolicy.getHtfTrendGateReason research).map (·.text) =
      (CandidatePolicy.getHtfTrendGateReason live).map (·.text) := by
  simp only [ResearchPolicy.getHtfTrendGateReason, CandidatePolicy.getHtfTrendGateReason, h.decision,
    h.analysis]
  grind [manifest, CandidatePolicy.authority, PositionGuardCandidateReason.text,
    PositionGuardBacktestResearchInterventionReason.text]

theorem add_text :
    (getAddLimitedReason research).map (·.text) = (getAddLimitReason live).map (·.text) := by
  simp only [getAddLimitedReason, getAddLimitReason, h.decision, h.analysis, h.averageEntryPrice,
    h.addCount]
  grind [manifest, CandidatePolicy.authority, PositionGuardCandidateReason.text,
    PositionGuardBacktestResearchInterventionReason.text]

theorem cooldownAfter_text (elapsed : ℤ) :
    (ResearchPolicy.cooldownAfter research elapsed).map (·.text) =
      (CandidatePolicy.cooldownAfter live elapsed).map (·.text) := by
  simp only [ResearchPolicy.cooldownAfter, CandidatePolicy.cooldownAfter, h.analysis,
    h.lastFullExitPnl, h.lastEntryPath]
  grind [manifest, CandidatePolicy.authority, hoursToNanoseconds, nanosecondsPerHour,
    PositionGuardCandidateReason.text, PositionGuardBacktestResearchInterventionReason.text]

end

theorem parseExact_of_is {value : String}
    (h : IsCandidateTimestamp value) : parseExactTimestamp value = .ok (instant value) := by
  unfold parseExactTimestamp
  rw [performanceTimestampEpochNanoseconds_eq_ok.mpr ⟨h, rfl⟩]

theorem parseExact_of_not {value : String} (h : ¬ IsCandidateTimestamp value) :
    parseExactTimestamp value = .error ("Invalid research timestamp " ++ value ++ ".") := by
  unfold parseExactTimestamp
  cases hparsed : performanceTimestampEpochNanoseconds value with
  | error e => rfl
  | ok t => exact absurd (performanceTimestampEpochNanoseconds_eq_ok.mp hparsed).1 h

/-- The cooldowns throw together, and otherwise give the same reason. -/
theorem cooldown_text (h : SameSituation live research) :
    (ResearchPolicy.getCooldownReason research).toOption.map (·.map (·.text)) =
      (CandidatePolicy.getCooldownReason live).toOption.map (·.map (·.text)) := by
  unfold ResearchPolicy.getCooldownReason CandidatePolicy.getCooldownReason
  rw [h.decision, h.generatedAt, h.lastFullExitAt]
  by_cases ha : live.decision.action ≠ .enter
  · rw [if_pos ha, if_pos ha]
    rfl
  rw [if_neg ha, if_neg ha]
  cases live.candidateState.lastFullExitAt with
  | none => rfl
  | some exitAt =>
    by_cases hg : IsCandidateTimestamp live.generatedAt
    · by_cases he : IsCandidateTimestamp exitAt
      · simp only [parseExact_of_is hg,
          parseExact_of_is he, parseCandidate_of_is hg,
          parseCandidate_of_is he, bind, Except.bind]
        by_cases hlt : instant live.generatedAt - instant exitAt < 0
        · simp only [throwIf, if_pos hlt]
          rfl
        · simp only [throwIf, if_neg hlt]
          exact congrArg some (cooldownAfter_text h _)
      · simp only [parseExact_of_is hg, parseExact_of_not he,
          parseCandidate_of_is hg, parseCandidate_of_not he, bind, Except.bind]
        rfl
    · simp only [parseExact_of_not hg, parseCandidate_of_not hg, bind, Except.bind]
      rfl

/-! ### The evaluations -/

theorem reason_cases {a : Option PositionGuardBacktestResearchInterventionReason}
    {b : Option PositionGuardCandidateReason} (h : a.map (·.text) = b.map (·.text)) :
    (a = none ∧ b = none) ∨ ∃ r s, a = some r ∧ b = some s ∧ s.text = r.text := by
  rcases a with _ | r <;> rcases b with _ | s
  · exact Or.inl ⟨rfl, rfl⟩
  · cases h
  · cases h
  · exact Or.inr ⟨r, s, rfl, rfl, (Option.some.inj h).symm⟩

variable {r : PositionGuardBacktestResearchInterventionReason} {s : PositionGuardCandidateReason}

theorem sameAnswer_suppress (ht : s.text = r.text)
    (precedence : PositionGuardCandidatePrecedence) :
    SameAnswer live.decision
      (evaluation live .suppress s precedence (holdDecision live.decision s))
      (some (createResearchIntervention research .suppress .hold r)) :=
  ⟨rfl, ht, rfl, rfl⟩

theorem sameAnswer_allow (ht : s.text = r.text) (precedence : PositionGuardCandidatePrecedence)
    {action : StrategyDecisionAction} (ha : live.decision.action = action) :
    SameAnswer live.decision (evaluation live .allow s precedence live.decision)
      (some (createResearchIntervention research .allow action r)) :=
  ⟨rfl, ht, ha, rfl⟩

theorem researchPolicyId_combined (id : PositionGuardRegisteredCandidatePolicyId) :
    isCombinedPolicy (researchPolicyId id) = true ∧ researchPolicyId id ≠ .strictPullback ∧
      ∀ component : CombinedConservativeComponent, researchPolicyId id ≠ component.policyId := by
  cases id <;> refine ⟨by decide, by decide, fun component => ?_⟩ <;> cases component <;> decide

theorem adds_agree (h : SameSituation live research) :
    SameAnswer live.decision
      (match ifComponent live .addLimited (getAddLimitReason live) with
        | some add => evaluation live .suppress add .addLimited (holdDecision live.decision add)
        | none =>
          if .addLimited ∈ policyComponents live.policyId ∧ live.decision.action = .add then
            evaluation live .allow .conditionsMet .addLimited live.decision
          else evaluation live .allow .noIntervention .noIntervention live.decision)
      (evaluateAdds research) := by
  have hactive : isComponentActive research.policyId .addLimited = true ↔ _ :=
    isComponentActive_iff h .addLimited
  unfold evaluateAdds ifComponent
  by_cases hc : PositionGuardCandidateComponent.addLimited ∈ policyComponents live.policyId
  · rw [if_pos hc, if_pos (hactive.mpr hc)]
    rcases reason_cases (add_text h) with ⟨hr, hl⟩ | ⟨r, s, hr, hl, ht⟩
    · rw [hr, hl, h.decision]
      by_cases ha : live.decision.action = .add
      · simp only [ha, hc, and_self, if_true]
        exact sameAnswer_allow rfl _ ha
      · simp only [ha, and_false, if_false]
        exact ⟨rfl, rfl, rfl, rfl⟩
    · rw [hr, hl]
      exact sameAnswer_suppress ht _
  · rw [if_neg hc, if_neg fun hr => hc (hactive.mp hr)]
    simp only [hc, false_and, if_false]
    exact ⟨rfl, rfl, rfl, rfl⟩

theorem gates_agree (h : SameSituation live research) :
    SameAnswer live.decision (evaluateGates live) (evaluateTrendGate research) := by
  have hactive : isComponentActive research.policyId .htfTrendGate = true ↔ _ :=
    isComponentActive_iff h .htfTrendGate
  obtain ⟨-, hstrict, hsingle⟩ := researchPolicyId_combined live.policyId
  have hpullback : evaluatePullback research = evaluateAdds research := by
    unfold evaluatePullback
    rw [h.policyId, if_neg hstrict]
  have hid : research.policyId ≠ .htfTrendGate := h.policyId ▸ hsingle .htfTrendGate
  unfold evaluateTrendGate evaluateGates
  rw [hpullback]
  by_cases hc : PositionGuardCandidateComponent.htfTrendGate ∈ policyComponents live.policyId
  · rw [if_pos (hactive.mpr hc), ifComponent, if_pos hc]
    rcases reason_cases (htf_text h) with ⟨hr, hl⟩ | ⟨r, s, hr, hl, ht⟩
    · rw [hr, hl]
      simp only [if_neg hid]
      exact adds_agree h
    · rw [hr, hl]
      exact sameAnswer_suppress ht _
  · rw [if_neg fun hr => hc (hactive.mp hr), ifComponent, if_neg hc]
    exact adds_agree h

theorem entries_agree (h : SameSituation live research) :
    SameEvaluation live.decision (evaluateEntries live) (evaluateCooldown research) := by
  have hactive : isComponentActive research.policyId .cooldownControl = true ↔ _ :=
    isComponentActive_iff h .cooldownControl
  obtain ⟨-, -, hsingle⟩ := researchPolicyId_combined live.policyId
  have hid : research.policyId ≠ .cooldownControl := h.policyId ▸ hsingle .cooldownControl
  unfold evaluateCooldown evaluateEntries
  by_cases hc : PositionGuardCandidateComponent.cooldownControl ∈ policyComponents live.policyId
  · rw [if_pos (hactive.mpr hc), if_pos hc]
    have ht := cooldown_text h
    cases hr : ResearchPolicy.getCooldownReason research with
    | error e =>
      cases hl : CandidatePolicy.getCooldownReason live with
      | error e' => trivial
      | ok s => rw [hr, hl] at ht; cases ht
    | ok r =>
      cases hl : CandidatePolicy.getCooldownReason live with
      | error e' => rw [hr, hl] at ht; cases ht
      | ok s =>
        rw [hr, hl] at ht
        rcases reason_cases (Option.some.inj ht) with ⟨rfl, rfl⟩ | ⟨r, s, rfl, rfl, hrs⟩
        · simp only [bind, Except.bind, if_neg hid]
          exact gates_agree h
        · exact sameAnswer_suppress hrs _
  · rw [if_neg fun hr => hc (hactive.mp hr), if_neg hc]
    exact gates_agree h

/-- What the live policy asks of an input before it looks at the decision. -/
def Admissible (live : CandidateInput) : Prop :=
  IsCandidateTimestamp live.generatedAt ∧ 0 ≤ live.positionQuantity ∧ 0 ≤ live.averageEntryPrice

instance (live : CandidateInput) : Decidable (Admissible live) := by
  unfold Admissible; infer_instance

theorem validateInput_eq_ok (hv : validatePositionGuardCandidateState live.candidateState = .ok ()) :
    validateInput live = .ok () ↔ Admissible live := by
  unfold validateInput Admissible
  simp only [bind_eq_ok, throwIf_eq_ok, parseCandidate_eq_ok, not_lt, hv]
  simp

/-- The live candidate policy is the researched policy: on every input it does not refuse outright it
throws when the research policy throws, and otherwise has the same outcome, reason and effective
action, and a decision that is executed alike. What it refuses outright is an input with a malformed
`generatedAt` or a negative quantity or average price. -/
theorem evaluatePositionGuardCandidate_agrees (live : CandidateInput) (research : InterventionInput)
    (h : SameSituation live research)
    (hv : validatePositionGuardCandidateState live.candidateState = .ok ()) :
    (Admissible live → SameEvaluation live.decision (evaluatePositionGuardCandidate live)
        (evaluatePositionGuardResearchIntervention research)) ∧
      (¬ Admissible live → ∃ e, evaluatePositionGuardCandidate live = .error e) := by
  constructor
  · intro hadm
    have hactive : isComponentActive research.policyId .earlyThesisFailure = true ↔ _ :=
      isComponentActive_iff h .earlyThesisFailure
    obtain ⟨hcombined, -, hsingle⟩ := researchPolicyId_combined live.policyId
    have hid : research.policyId ≠ .earlyThesisFailure := h.policyId ▸ hsingle .earlyThesisFailure
    have hcomb : isCombinedPolicy research.policyId = true := h.policyId ▸ hcombined
    unfold evaluatePositionGuardCandidate evaluatePositionGuardResearchIntervention
    rw [(validateInput_eq_ok hv).mpr hadm, h.decision]
    by_cases ha : live.decision.action = .exit ∨ live.decision.action = .reduce
    · simp only [ha, hcomb, or_true, and_true, if_true, bind, Except.bind]
      exact sameAnswer_allow rfl _ rfl
    simp only [ha, and_false, if_false, bind, Except.bind]
    by_cases hc : PositionGuardCandidateComponent.earlyThesisFailure ∈ policyComponents live.policyId
    · rw [if_pos (hactive.mpr hc), ifComponent, if_pos hc]
      rcases reason_cases (earlyFailure_text h) with ⟨hr, hl⟩ | ⟨r, s, hr, hl, ht⟩
      · rw [hr, hl]
        simp only [if_neg hid]
        exact entries_agree h
      · rw [hr, hl]
        exact ⟨rfl, ht, rfl, rfl⟩
    · rw [if_neg fun hr => hc (hactive.mp hr), ifComponent, if_neg hc]
      exact entries_agree h
  · intro hadm
    unfold evaluatePositionGuardCandidate
    cases hvi : validateInput live with
    | error e => exact ⟨e, rfl⟩
    | ok u => exact absurd ((validateInput_eq_ok hv).mp hvi) hadm

/-! ### An entry after a loss, and a hold at no instant -/

/-- The analysis of an orderly uptrend. -/
def uptrend : PositionGuardStructureAnalysis where
  regime := .bullTrend
  riskLevel := .low
  invalidationState := .clear
  invalidationLevel := none
  pullbackZone := true
  reclaimStructure := false
  breakoutHoldStructure := false
  upperRangeChase := false
  currentPrice := 100
  entryPath := .pullback
  trendAlignmentScore := 4
  recoveryQualityScore := 4
  breakdownPressureScore := 0
  weakeningStage := .none
  breakdown1d := false
  breakdown4h := false
  failedReclaim := false
  bearishMomentumExpansion := false
  volumeRecovery := true
  macdImproving := true
  rsiRecovery := true
  atrShock := false
  averageEntryPrice := 0
  pnlPct := 0
  oneHourLocation := some .lower
  fourHourLocation := some .lower

/-- A decision of the strategy on that analysis. -/
def uptrendDecision (action : StrategyDecisionAction) : PositionGuardEngineDecision where
  action
  summary := ""
  reasons := []
  targetNotionalKrw := 10000
  targetQuantityFraction := none
  referencePrice := 100
  executionDisposition := .immediate
  signalQuality :=
    { score := 9, bucket := .high, confirmationRequired := false, confirmationSatisfied := false,
      reentryPenaltyApplied := false }
  exposureGuardrails :=
    { perAssetMaxAllocation := 0.6, totalPortfolioMaxExposure := 0.75,
      remainingAssetCapacity := 60000, remainingPortfolioCapacity := 75000 }
  diagnostics :=
    { regime := .bullTrend, riskLevel := .low, invalidationState := .clear,
      invalidationLevel := none, entryPath := .pullback, trendAlignmentScore := 4,
      recoveryQualityScore := 4, breakdownPressureScore := 0, weakeningStage := .none,
      upperRangeChase := false, pullbackZone := true, reclaimStructure := false,
      breakoutHoldStructure := false }

/-- A ledger that is flat after a loss at noon. -/
def afterLoss : PositionGuardCandidateState :=
  { createEmptyPositionGuardCandidateState with
    lastFullExitAt := some "2026-01-01T12:00:00Z"
    lastFullExitRealizedPnlKrw := some (-5)
    lastEntryPath := some .reclaim
    lastEvidenceAt := some "2026-01-01T12:00:00Z"
    lastEvidenceId := some "exit"
    stateVersion := 2 }

/-- The combined policy asked about a decision on a flat position at some time. -/
def flatInput (generatedAt : String) (action : StrategyDecisionAction)
    (state : PositionGuardCandidateState) : CandidateInput where
  policyId := .combinedConservative
  generatedAt
  decision := uptrendDecision action
  positionQuantity := 0
  averageEntryPrice := 0
  candidateState := state
  analysis := uptrend

/-- The research policy asked about the situation of a candidate input. -/
def researchInput (live : CandidateInput) : InterventionInput where
  policyId := researchPolicyId live.policyId
  generatedAt := live.generatedAt
  decision := live.decision
  state :=
    { cashKrw := 100000, quantity := live.positionQuantity,
      averageEntryPrice := live.averageEntryPrice }
  researchState :=
    { currentEpisodeAddCount := live.candidateState.currentEpisodeAddCount
      currentEpisodeRealizedPnlKrw := 0
      lastFullExitAt := live.candidateState.lastFullExitAt
      lastFullExitRealizedPnlKrw := live.candidateState.lastFullExitRealizedPnlKrw
      lastEntryPath := live.candidateState.lastEntryPath }
  analysis := live.analysis

theorem sameSituation_researchInput (live : CandidateInput) :
    SameSituation live (researchInput live) :=
  ⟨rfl, rfl, rfl, rfl, rfl, rfl, rfl, rfl, rfl, rfl⟩

/-- An entry six hours after the loss. -/
def entryAfterLoss : CandidateInput := flatInput "2026-01-01T18:00:00Z" .enter afterLoss

/-- Both policies suppress it. -/
theorem evaluatePositionGuardCandidate_agrees_entryAfterLoss :
    SameEvaluation entryAfterLoss.decision (evaluatePositionGuardCandidate entryAfterLoss)
      (evaluatePositionGuardResearchIntervention (researchInput entryAfterLoss)) :=
  (evaluatePositionGuardCandidate_agrees entryAfterLoss (researchInput entryAfterLoss)
    (sameSituation_researchInput entryAfterLoss) (by decide +kernel)).1 (by decide +kernel)

/-- A hold whose `generatedAt` is no timestamp: the live policy throws, the research policy does not
intervene. -/
theorem malformed_generatedAt_parts_policies :
    ¬ ∀ (live : CandidateInput) (research : InterventionInput), SameSituation live research →
      validatePositionGuardCandidateState live.candidateState = .ok () →
      SameEvaluation live.decision (evaluatePositionGuardCandidate live)
        (evaluatePositionGuardResearchIntervention research) := by
  intro h
  have hparts := h (flatInput "now" .hold createEmptyPositionGuardCandidateState) _
    (sameSituation_researchInput _) (by decide +kernel)
  revert hparts
  decide +kernel

end AutoTrade.Strategy.PolicyParity
