import AutoTrade.Execution.CandidateEvidence

/-! # The decision of a terminal order

What `validateCandidateBoundOrderIntent` checked before an order was sent, `getVerifiedDecision`
checks again when the order is projected. Every check of the second but the last is implied by the
first: the basis of the decision is read after the send only (`verifies_iff`). -/

namespace AutoTrade.Execution.DecisionVerification

open Lib.Json Lib.Text Lib.Result Domain.Types
open Domain.PilotTypes Domain.Timestamp Db.LifecycleValidation
open Strategy.Core
open Execution.EvidenceDecimals Execution.OrderDecimals
open Execution.CandidateBinding Execution.CandidateEvidence

/-! ### The basis -/

section Basis

variable {Num : Type}

/-- `engineDecision.diagnostics.entryPath`. -/
def canonicalEntryPath (record : List (String × JsonValue Num)) : Option (JsonValue Num) :=
  (asRecord ((asRecord (record.lookup "engineDecision")).bind fun fields =>
    fields.lookup "diagnostics")).bind fun fields => fields.lookup "entryPath"

/-- `engineDecision.entryPath`. -/
def legacyEntryPath (record : List (String × JsonValue Num)) : Option (JsonValue Num) :=
  (asRecord (record.lookup "engineDecision")).bind fun fields => fields.lookup "entryPath"

/-- The path is named, in one place or in both. -/
def NamesPath (record : List (String × JsonValue Num)) (path : String) : Prop :=
  (canonicalEntryPath record = some (.text path) ∧
      (legacyEntryPath record = none ∨ legacyEntryPath record = some (.text path))) ∨
    (canonicalEntryPath record = none ∧ legacyEntryPath record = some (.text path))

/-- The basis is an object that names the market and the action of the decision, and one entry path. -/
def BasisMatches (basis : Option (JsonValue Num)) (decision : StrategyDecisionRecord) : Prop :=
  ∃ record strategy, basis = some (.object record) ∧
    record.lookup "strategyDecision" = some (.object strategy) ∧
    strategy.lookup "market" = some (.text decision.market.text) ∧
    strategy.lookup "action" = some (.text decision.action.text) ∧
    ∃ entryPath, NamesPath record (entryPathText entryPath)

variable {value : Option (JsonValue Num)} {entryPath : StrategyEntryPath}

theorem entryPathOf_eq_some :
    entryPathOf value = some entryPath ↔ value = some (.text (entryPathText entryPath)) := by
  constructor
  · intro h
    unfold entryPathOf at h
    split at h
    all_goals first
      | (obtain rfl := Option.some.inj h; rfl)
      | cases h
  · rintro rfl
    cases entryPath <;> rfl

theorem isText_eq_true {expected : String} :
    isText value expected = true ↔ value = some (.text expected) := by
  unfold isText
  split
  · simp
  · rename_i hne
    simp only [Bool.false_eq_true, false_iff]
    rintro rfl
    exact hne expected rfl

variable {path : String}

theorem strictlyEqual_text [DecidableEq Num] {value : JsonValue Num} :
    (JsonValue.text path).strictlyEqual value = true ↔ value = .text path := by
  cases value <;> simp [JsonValue.strictlyEqual, eq_comm]

theorem coalesce_eq_text {canonical legacy : Option (JsonValue Num)} :
    coalesce canonical legacy = some (.text path) ↔
      canonical = some (.text path) ∨
        ((canonical = none ∨ canonical = some .null) ∧ legacy = some (.text path)) := by
  unfold coalesce
  split
  · simp
  · simp
  · rename_i value hnull
    constructor
    · exact Or.inl
    · rintro (h | ⟨h | h, -⟩)
      · exact h
      · cases h
      · exact absurd (Option.some.inj h) hnull

variable {record : List (String × JsonValue Num)}

/-- The two paths do not conflict and the first that is there is this one. -/
theorem namesPath_iff [DecidableEq Num] :
    (¬ conflicting (canonicalEntryPath record) (legacyEntryPath record) = true ∧
        coalesce (canonicalEntryPath record) (legacyEntryPath record) = some (.text path)) ↔
      NamesPath record path := by
  unfold NamesPath
  generalize canonicalEntryPath record = canonical
  generalize legacyEntryPath record = legacy
  rw [coalesce_eq_text]
  constructor
  · rintro ⟨hagree, rfl | ⟨rfl | rfl, rfl⟩⟩
    · cases legacy with
      | none => exact Or.inl ⟨rfl, Or.inl rfl⟩
      | some legacy =>
        have hequal : (JsonValue.text path).strictlyEqual legacy = true := by
          simpa [conflicting] using hagree
        exact Or.inl ⟨rfl, Or.inr (congrArg some (strictlyEqual_text.mp hequal))⟩
    · exact Or.inr ⟨rfl, rfl⟩
    · -- `null` and a path conflict
      exact absurd rfl hagree
  · rintro (⟨rfl, rfl | rfl⟩ | ⟨rfl, rfl⟩)
    · exact ⟨by simp [conflicting], Or.inl rfl⟩
    · exact ⟨by simp [conflicting, strictlyEqual_text.mpr], Or.inl rfl⟩
    · exact ⟨by simp [conflicting], Or.inr ⟨Or.inl rfl, rfl⟩⟩

theorem exists_lookup_iff {fields : Option (JsonValue Num)} {name : String} {value : JsonValue Num} :
    ((asRecord fields).bind fun entries => entries.lookup name) = some value ↔
      ∃ entries, fields = some (.object entries) ∧ entries.lookup name = some value := by
  unfold asRecord
  split
  · simp
  · rename_i hne
    simp only [Option.bind_none, reduceCtorEq, false_iff]
    rintro ⟨entries, rfl, -⟩
    exact hne entries rfl

variable {decision : StrategyDecisionRecord}

theorem entryPathOfBasis_eq_ok [DecidableEq Num] :
    entryPathOfBasis record decision = .ok entryPath ↔
      ((∃ strategy, record.lookup "strategyDecision" = some (.object strategy) ∧
        strategy.lookup "market" = some (.text decision.market.text) ∧
        strategy.lookup "action" = some (.text decision.action.text)) ∧
        NamesPath record (entryPathText entryPath)) := by
  have hpath : entryPathOfBasis record decision = .ok entryPath ↔
      ¬ conflicting (canonicalEntryPath record) (legacyEntryPath record) = true ∧
      ¬ (isText ((asRecord (record.lookup "strategyDecision")).bind fun fields =>
            fields.lookup "market") decision.market.text = false ∨
          isText ((asRecord (record.lookup "strategyDecision")).bind fun fields =>
            fields.lookup "action") decision.action.text = false) ∧
      entryPathOf (coalesce (canonicalEntryPath record) (legacyEntryPath record)) =
        some entryPath := by
    unfold entryPathOfBasis throwFault
    rw [then_eq_ok, then_eq_ok, throwIf_eq_ok, throwIf_eq_ok]
    refine and_congr_right fun _ => and_congr_right fun _ => ?_
    unfold canonicalEntryPath legacyEntryPath
    split
    · rename_i path hpath
      simp [hpath]
    · rename_i hpath
      simp [hpath]
  rw [hpath, entryPathOf_eq_some, not_or, Bool.not_eq_false, Bool.not_eq_false, isText_eq_true,
    isText_eq_true, exists_lookup_iff, exists_lookup_iff, ← namesPath_iff]
  constructor
  · rintro ⟨hagree, ⟨⟨strategy, hstrategy, hmarket⟩, other, hother, haction⟩, hnames⟩
    rw [hstrategy] at hother
    obtain rfl := JsonValue.object.inj (Option.some.inj hother)
    exact ⟨⟨strategy, hstrategy, hmarket, haction⟩, hagree, hnames⟩
  · rintro ⟨⟨strategy, hstrategy, hmarket, haction⟩, hagree, hnames⟩
    exact ⟨hagree, ⟨⟨strategy, hstrategy, hmarket⟩, strategy, hstrategy, haction⟩, hnames⟩

theorem basisMatches_object :
    BasisMatches (some (.object record)) decision ↔
      ∃ entryPath, (∃ strategy, record.lookup "strategyDecision" = some (.object strategy) ∧
        strategy.lookup "market" = some (.text decision.market.text) ∧
        strategy.lookup "action" = some (.text decision.action.text)) ∧
        NamesPath record (entryPathText entryPath) := by
  constructor
  · rintro ⟨record', strategy, hrecord, hstrategy, hmarket, haction, entryPath, hnames⟩
    obtain rfl := JsonValue.object.inj (Option.some.inj hrecord)
    exact ⟨entryPath, ⟨strategy, hstrategy, hmarket, haction⟩, hnames⟩
  · rintro ⟨entryPath, ⟨strategy, hstrategy, hmarket, haction⟩, hnames⟩
    exact ⟨record, strategy, rfl, hstrategy, hmarket, haction, entryPath, hnames⟩

theorem parseDecisionBasis_isOk_iff [DecidableEq Num]
    {parseJson : String → Option (JsonValue Num)} :
    (∃ entryPath, parseDecisionBasis parseJson decision = .ok entryPath) ↔
      BasisMatches (parseJson decision.decisionBasisJson) decision := by
  unfold parseDecisionBasis
  split
  · rename_i hnone
    rw [hnone]
    constructor
    · rintro ⟨_, h⟩
      cases h
    · rintro ⟨_, _, h, -⟩
      cases h
  · rename_i record hparsed
    rw [hparsed]
    rw [basisMatches_object]
    exact exists_congr fun entryPath => entryPathOfBasis_eq_ok
  · rename_i hne hparsed
    constructor
    · rintro ⟨_, h⟩
      cases h
    · rintro ⟨record, _, h, -⟩
      rw [hparsed] at h
      exact absurd (Option.some.inj h) (hne record)

end Basis

/-! ### What was checked before the send -/

variable {value : Option String}

theorem sameOptionalCanonicalDecimal_self
    (h : ∀ t ∈ value, isCanonicalNonNegative t.toList = true) :
    sameOptionalCanonicalDecimal value value = .ok true := by
  cases value with
  | none => rfl
  | some text =>
    have hself := h text rfl
    simp [sameOptionalCanonicalDecimal, call, canonicalNonNegative_self.mpr hself, Except.mapError,
      bind, Except.bind]

theorem assertSameOptionalExactDecimal_self (label : String)
    (h : ∀ t ∈ value, isCanonicalNonNegative t.toList = true) :
    assertSameOptionalExactDecimal value value label = .ok () := by
  cases value with
  | none => simp [assertSameOptionalExactDecimal, throwFault]
  | some text =>
    have hself := h text rfl
    simp [assertSameOptionalExactDecimal, call, canonicalNonNegative_self.mpr hself, Except.mapError,
      bind, Except.bind, throwFault]

/-- The matches of the deployment, the binding, the decision and the order that were found before the
send. -/
structure Checked (input : PersistCandidateBoundOrderIntentInput) (order : OrderRecord) : Prop where
  deploymentId : input.deployment.id = input.binding.deploymentId
  phase : input.deployment.phase = .active ∨ input.deployment.phase = .draining
  activationAt : input.deployment.activationAt = some input.binding.activationAt
  activationEpochNs : input.deployment.activationEpochNs = some input.binding.activationEpochNs
  activation : IsCandidateTimestamp input.binding.activationAt ∧
    instant input.binding.activationAt = input.binding.activationEpochNs
  decisionId : isBlank input.decision.id = false ∧ order.strategyDecisionId = some input.decision.id ∧
    input.binding.strategyDecisionId = input.decision.id
  orderId : input.binding.orderId = order.id
  account : input.binding.exchangeAccountId = order.exchangeAccountId ∧
    input.decision.exchangeAccountId = order.exchangeAccountId
  market : order.market = .krwBtc ∧ input.decision.market = .krwBtc
  executionMode : input.binding.executionMode = order.executionMode
  ordType : input.binding.ordType = order.ordType
  price : input.binding.boundPrice = order.price ∧
    ∀ t ∈ order.price, isCanonicalNonNegative t.toList = true
  volume : input.binding.boundVolume = order.volume ∧
    ∀ t ∈ order.volume, isCanonicalNonNegative t.toList = true
  timeInForce : input.binding.boundTimeInForce = order.timeInForce
  smpType : input.binding.boundSmpType = order.smpType
  decision : input.decision.strategyKey = "position_guard.paper_core.v1" ∧
    input.decision.status = .ready ∧ input.decision.action ≠ .hold ∧
    input.binding.action = input.decision.action
  side : order.side = expectedSide input.decision.action ∧
    input.binding.side = expectedSide input.decision.action
  quantity : input.binding.intendedQuantity = input.decision.intendedQuantity ∧
    ∀ t ∈ input.decision.intendedQuantity, isCanonicalNonNegative t.toList = true
  notional : input.binding.intendedNotionalKrw = input.decision.intendedNotionalKrw ∧
    ∀ t ∈ input.decision.intendedNotionalKrw, isCanonicalNonNegative t.toList = true
  amounts : (input.decision.intendedQuantity ≠ none → order.volume = input.decision.intendedQuantity) ∧
    (input.decision.intendedNotionalKrw ≠ none → order.price = input.decision.intendedNotionalKrw)
  times : IsCandidateTimestamp input.decision.createdAt ∧ IsCandidateTimestamp order.requestedAt ∧
    IsCandidateTimestamp input.binding.createdAt
  chronology : input.binding.activationEpochNs < instant input.binding.createdAt ∧
    instant input.decision.createdAt ≤ instant input.binding.createdAt ∧
    instant input.binding.createdAt < instant order.requestedAt

variable {order : OrderRecord}

theorem amounts_of_shape {phase : PositionGuardPilotPhase} {decision : StrategyDecisionRecord}
    (h : validateCandidateOrderShape phase decision order = .ok ()) :
    (decision.intendedQuantity ≠ none → order.volume = decision.intendedQuantity) ∧
      (decision.intendedNotionalKrw ≠ none → order.price = decision.intendedNotionalKrw) := by
  rw [validateCandidateOrderShape, then_eq_ok] at h
  obtain ⟨-, h⟩ := h
  split_ifs at h with hentry
  · obtain ⟨price, hprice, ⟨-, -, hnotional, hquantity, -⟩, -⟩ := validateEntryShape_eq_ok.mp h
    exact ⟨fun hne => absurd hquantity hne, fun _ => hprice.trans hnotional⟩
  · obtain ⟨volume, hvolume, ⟨-, -, hnotional, -, hquantity, -⟩, -⟩ := validateExitShape_eq_ok.mp h
    exact ⟨fun _ => hvolume.trans hquantity, fun hne => absurd hnotional hne⟩

theorem checked_of_intent {sha256Hex : String → String}
    {input : PersistCandidateBoundOrderIntentInput}
    (h : validateCandidateBoundOrderIntent sha256Hex input = .ok ())
    (hsame : SameIdentity input.order order) : Checked input order := by
  simp only [validateCandidateBoundOrderIntent, then_eq_ok, parse_bind] at h
  obtain ⟨-, hbinding, -, -, -, -, hphase, -, hdecision, hdeployment, horder, hshape, -⟩ := h
  simp only [validateCandidateExecutionBinding, then_eq_ok, parse_bind, throwIf_eq_ok,
    not_or, not_lt, not_not, ne_eq] at hbinding
  obtain ⟨-, -, -, -, -, -, hactivation, ⟨-, hepoch⟩, -, -, -, -, -, -, hafter, -⟩ := hbinding
  simp only [validateDecision, then_eq_ok, parse_bind, throwIf_eq_ok, not_or, not_lt,
    not_le, not_not, ne_eq, validateOptionalDecimal_eq_ok, Bool.not_eq_true] at hdecision
  obtain ⟨⟨hblank, hstatus, hkey, hmarket, haction, hid, hbound, haccount, haccount', -, hsameAction,
    hquantity, hnotional⟩, hquantityText, hnotionalText, -, hdecided, hcreated, hrequested,
    ⟨hbefore, hlater⟩, ⟨hside, hside'⟩, -⟩ := hdecision
  simp only [validateDeployment, throwIf_eq_ok, not_or, not_not, ne_eq] at hdeployment
  obtain ⟨hdeploymentId, -, hexpected, -, hactivationAt, hactivationEpoch⟩ := hdeployment
  simp only [validateOrderBinding, then_eq_ok, throwIf_eq_ok, not_or, not_not, ne_eq,
    validateOptionalDecimal_eq_ok] at horder
  obtain ⟨⟨horderId, horderAccount, horderMarket, hmode, htype, -, hprice, hvolume, htime, hsmp⟩,
    hpriceText, hvolumeText⟩ := horder
  rw [throwIf_eq_ok, not_and_or, not_not, not_not] at hphase
  obtain ⟨hquantityAmount, hnotionalAmount⟩ := amounts_of_shape hshape
  rw [hsame.volume] at hquantityAmount hvolume hvolumeText
  rw [hsame.price] at hnotionalAmount hprice hpriceText
  rw [hsame.requestedAt] at hrequested hlater
  exact
    { deploymentId := hdeploymentId
      phase := by rwa [hexpected]
      activationAt := hactivationAt
      activationEpochNs := hactivationEpoch
      activation := ⟨hactivation, hepoch⟩
      decisionId := ⟨hblank, hsame.strategyDecisionId.symm.trans hid.symm, hbound.symm⟩
      orderId := horderId.symm.trans hsame.id
      account := ⟨horderAccount.symm.trans hsame.exchangeAccountId,
        haccount.trans hsame.exchangeAccountId⟩
      market := ⟨hsame.market.symm.trans horderMarket, hmarket⟩
      executionMode := hmode.symm.trans hsame.executionMode
      ordType := htype.symm.trans hsame.ordType
      price := ⟨hprice.symm, hpriceText⟩
      volume := ⟨hvolume.symm, hvolumeText⟩
      timeInForce := htime.symm.trans hsame.timeInForce
      smpType := hsmp.symm.trans hsame.smpType
      decision := ⟨hkey, hstatus, haction, hsameAction.symm⟩
      side := ⟨hsame.side.symm.trans hside, hside'⟩
      quantity := ⟨hquantity.symm, hquantityText⟩
      notional := ⟨hnotional.symm, hnotionalText⟩
      amounts := ⟨hquantityAmount, hnotionalAmount⟩
      times := ⟨hdecided, hrequested, hcreated⟩
      chronology := ⟨by omega, hbefore, hlater⟩ }

section Implied

variable {input : PersistCandidateBoundOrderIntentInput} {order : OrderRecord}

theorem Checked.verifyBinding (h : Checked input order) :
    verifyBinding order input.deployment input.binding input.decision = .ok () := by
  have hprice : sameOptionalCanonicalDecimal input.binding.boundPrice order.price = .ok true := by
    rw [h.price.1]
    exact sameOptionalCanonicalDecimal_self h.price.2
  have hvolume : sameOptionalCanonicalDecimal input.binding.boundVolume order.volume = .ok true := by
    rw [h.volume.1]
    exact sameOptionalCanonicalDecimal_self h.volume.2
  unfold CandidateEvidence.verifyBinding
  simp only [then_eq_ok, throwIf_eq_ok, hprice, hvolume, ok_bind]
  simp [h.deploymentId, h.decisionId.2.2, h.orderId, h.account.1, h.market.1, h.activationAt,
    h.activationEpochNs, h.executionMode, h.ordType, h.timeInForce, h.smpType]

theorem candidateAction_isSome {action : StrategyDecisionAction} (h : action ≠ .hold) :
    (candidateAction action).isSome = true := by
  cases action with
  | hold => exact absurd rfl h
  | _ => rfl

theorem Checked.verifyDecision (h : Checked input order) :
    verifyDecision order input.binding input.decision = .ok () := by
  obtain ⟨hkey, hstatus, haction, hsame⟩ := h.decision
  have hside : (if input.decision.action = .enter ∨ input.decision.action = .add then OrderSide.bid
      else .ask) = expectedSide input.decision.action := by
    unfold expectedSide isEntry
    simp
  have hquantity := assertSameOptionalExactDecimal_self "intended quantity" h.quantity.2
  have hnotional := assertSameOptionalExactDecimal_self "intended notional" h.notional.2
  have hsome := Option.isSome_iff_ne_none.mp (candidateAction_isSome haction)
  unfold CandidateEvidence.verifyDecision throwFault
  simp only [then_eq_ok, throwIf_eq_ok, hside, h.quantity.1, h.notional.1, hquantity, hnotional]
  refine ⟨?_, ?_, trivial, trivial, ?_, ?_⟩
  · simp [h.account.2, hkey, h.market, hstatus, hsame, hsome]
  · simp [h.side]
  · rintro ⟨hne, hvolume⟩
    exact hvolume (h.amounts.1 hne)
  · rintro ⟨-, hne, hprice⟩
    exact hprice (h.amounts.2 hne)

theorem Checked.verifyInstants (h : Checked input order) :
    verifyInstants order input.deployment input.binding input.decision =
      .ok (instant order.requestedAt, instant input.binding.createdAt) := by
  obtain ⟨hdecided, hrequested, hcreated⟩ := h.times
  obtain ⟨hactivation, hbefore, hlater⟩ := h.chronology
  have hparse : ∀ {value label : String}, IsCandidateTimestamp value →
      parseTimestamp value label = .ok (instant value) := by
    intro value label hvalue
    rw [parseTimestamp, parseCandidate_of_is hvalue]
    rfl
  unfold CandidateEvidence.verifyInstants throwFault
  rw [hparse hdecided, ok_bind, hparse hrequested, ok_bind, h.activationEpochNs]
  dsimp only
  rw [hparse hcreated, ok_bind, then_eq_ok, throwIf_eq_ok]
  exact ⟨by omega, rfl⟩

theorem Checked.activationVerified (h : Checked input order) :
    hasVerifiedDeploymentActivation input.deployment = true := by
  unfold hasVerifiedDeploymentActivation
  rw [h.activationAt, h.activationEpochNs]
  dsimp only
  rw [parseTimestamp, parseCandidate_of_is h.activation.1]
  simp [Except.mapError, h.activation.2]

end Implied

/-- The decision-level checks of the projection of an order: the deployment is active or draining,
its activation is verified, and so is the decision. -/
def DecisionVerifies {Num : Type} [DecidableEq Num] (parseJson : String → Option (JsonValue Num))
    (getStrategyDecisionById : String → Option StrategyDecisionRecord) (order : OrderRecord)
    (deployment : PositionGuardPilotDeploymentRecord) (binding : CandidateExecutionBindingRecord) :
    Prop :=
  (deployment.phase = .active ∨ deployment.phase = .draining) ∧
    hasVerifiedDeploymentActivation deployment = true ∧
    ∃ decision, getVerifiedDecision parseJson getStrategyDecisionById order deployment binding =
      .ok decision

/-- **What is sent can be projected exactly when the basis of its decision matches.** The decision,
the deployment and the binding are those of the accepted intent, and the order is the one of the
intent in any later status. -/
theorem verifies_iff {Num : Type} [DecidableEq Num] {parseJson : String → Option (JsonValue Num)}
    {sha256Hex : String → String} {input : PersistCandidateBoundOrderIntentInput}
    (hintent : validateCandidateBoundOrderIntent sha256Hex input = .ok ()) {order : OrderRecord}
    (hsame : validateOrderIdentity input.order order = .ok ())
    {getStrategyDecisionById : String → Option StrategyDecisionRecord}
    (hdecision : getStrategyDecisionById input.decision.id = some input.decision) :
    DecisionVerifies parseJson getStrategyDecisionById order input.deployment input.binding ↔
      BasisMatches (parseJson input.decision.decisionBasisJson) input.decision := by
  have h : Checked input order := checked_of_intent hintent (sameIdentity_of_validate hsame)
  have htruthy : truthy order.strategyDecisionId = true := by
    rw [h.decisionId.2.1]
    simp only [truthy, decide_eq_true_eq]
    intro hempty
    have hblank := h.decisionId.1
    rw [hempty] at hblank
    exact absurd hblank (by decide)
  have hverified : (∃ decision, getVerifiedDecision parseJson getStrategyDecisionById order
      input.deployment input.binding = .ok decision) ↔
      ∃ entryPath, parseDecisionBasis parseJson input.decision = .ok entryPath := by
    unfold getVerifiedDecision throwFault
    rw [htruthy, h.decisionId.2.1, Option.bind_some, hdecision]
    simp only [exists_const, throwIf_eq_ok, h.verifyBinding, h.verifyDecision, h.verifyInstants,
      ok_bind, bind_eq_ok, Except.ok.injEq, Bool.true_eq_false, not_false_eq_true, true_and]
    constructor
    · rintro ⟨_, entryPath, hbasis, -⟩
      exact ⟨entryPath, hbasis⟩
    · rintro ⟨entryPath, hbasis⟩
      exact ⟨_, entryPath, hbasis, rfl⟩
  unfold DecisionVerifies
  rw [hverified, parseDecisionBasis_isOk_iff]
  exact ⟨fun hall => hall.2.2, fun hbasis => ⟨h.phase, h.activationVerified, hbasis⟩⟩

/-! ### A sale -/

/-- The order of a sale of one bitcoin, requested a nanosecond after it was bound. -/
def saleOrder (status : OrderLifecycleStatus) : OrderRecord where
  id := "order"
  strategyDecisionId := some "decision"
  exchangeAccountId := "acct"
  market := .krwBtc
  side := .ask
  ordType := .market
  volume := some "1"
  price := none
  timeInForce := none
  smpType := none
  identifier := "identifier"
  idempotencyKey := "key"
  origin := .strategy
  requestedAt := "2026-01-01T00:00:00.000000001Z"
  upbitUuid := if status = .filled then some "uuid" else none
  status
  executionMode := .live
  exchangeResponseJson := if status = .filled then some "null" else none
  failureCode := none
  failureMessage := none
  createdAt := "2026-01-01T00:00:00.000000001Z"
  updatedAt := "2026-01-01T00:00:00.000000001Z"

def saleDecision (decisionBasisJson : String) : StrategyDecisionRecord where
  id := "decision"
  exchangeAccountId := "acct"
  strategyKey := "position_guard.paper_core.v1"
  market := .krwBtc
  action := .exit
  status := .ready
  decisionBasisJson
  intendedNotionalKrw := none
  intendedQuantity := some "1"
  referencePrice := none
  createdAt := "2026-01-01T00:00:00.000Z"

def saleDeployment : PositionGuardPilotDeploymentRecord where
  id := "deployment"
  exchangeAccountId := "acct"
  phase := .active
  activationAt := some "2025-01-01T00:00:00.000Z"
  activationEpochNs := some 1735689600000000000
  createdAt := "2025-01-01T00:00:00.000Z"
  updatedAt := "2025-01-01T00:00:00.000Z"

/-- Every digest is the same. -/
def plainDigest (_ : String) : String := String.ofList (List.replicate 64 'a')

def saleBinding : CandidateExecutionBindingRecord where
  id := "binding"
  deploymentId := "deployment"
  strategyDecisionId := "decision"
  orderId := "order"
  exchangeAccountId := "acct"
  activationAt := "2025-01-01T00:00:00.000Z"
  activationEpochNs := 1735689600000000000
  executionMode := .live
  ordType := .market
  action := .exit
  side := .ask
  intendedQuantity := some "1"
  intendedNotionalKrw := none
  boundPrice := none
  boundVolume := some "1"
  boundTimeInForce := none
  boundSmpType := none
  orderMaterialHash := plainDigest ""
  createdAt := "2026-01-01T00:00:00.000Z"

/-- The intent to sell, for a decision with this basis. -/
def saleIntent (decisionBasisJson : String) : PersistCandidateBoundOrderIntentInput where
  order := saleOrder .persisted
  event := ⟨"persisted", "order", "ORDER_PERSISTED", .local, "null",
    "2026-01-01T00:00:00.000000001Z"⟩
  binding := saleBinding
  decision := saleDecision decisionBasisJson
  deployment := saleDeployment
  exactStateVersion := 1
  expectedPhase := .active
  expectedDeploymentUpdatedAt := "2025-01-01T00:00:00.000Z"
  expectedStateVersion := 1

theorem saleIntent_accepted (decisionBasisJson : String) :
    validateCandidateBoundOrderIntent plainDigest (saleIntent decisionBasisJson) = .ok () := by
  have haccepted : validateCandidateBoundOrderIntent plainDigest (saleIntent "") = .ok () := by
    decide +kernel
  exact haccepted

def saleBasis : String :=
  "\x7b\"strategyDecision\":\x7b\"market\":\"KRW-BTC\",\"action\":\"EXIT\"\x7d," ++
    "\"engineDecision\":\x7b\"entryPath\":\"NONE\"\x7d\x7d"

/-- `JSON.parse` on the empty object and on the basis of the sale. -/
def parseSaleJson (text : String) : Option (JsonValue ℚ) :=
  if text = "\x7b\x7d" then some (.object [])
  else if text = saleBasis then
    some (.object [
      ("strategyDecision", .object [("market", .text "KRW-BTC"), ("action", .text "EXIT")]),
      ("engineDecision", .object [("entryPath", .text "NONE")])])
  else none

/-- An order whose decision has an empty basis is accepted before the send and faults after it. -/
theorem empty_basis_faults :
    validateCandidateBoundOrderIntent plainDigest (saleIntent "\x7b\x7d") = .ok () ∧
      validateOrderIdentity (saleOrder .persisted) (saleOrder .filled) = .ok () ∧
      getVerifiedDecision parseSaleJson (fun _ => some (saleDecision "\x7b\x7d"))
        (saleOrder .filled) saleDeployment saleBinding =
        .error (.fault "STRATEGY_DECISION_INVALID"
          "Strategy decision basis does not match persisted decision provenance.") :=
  ⟨saleIntent_accepted _, by decide +kernel, by decide +kernel⟩

/-- The basis of the sale matches its decision. -/
theorem verifies_iff_sale :
    DecisionVerifies parseSaleJson (fun _ => some (saleDecision saleBasis)) (saleOrder .filled)
      saleDeployment saleBinding := by
  have hsame : validateOrderIdentity (saleIntent saleBasis).order (saleOrder .filled) = .ok () := by
    decide +kernel
  have hbasis : parseDecisionBasis parseSaleJson (saleIntent saleBasis).decision = .ok .none := by
    decide +kernel
  exact (verifies_iff (saleIntent_accepted saleBasis) hsame rfl).mpr
    (parseDecisionBasis_isOk_iff.mp ⟨_, hbasis⟩)

end AutoTrade.Execution.DecisionVerification
