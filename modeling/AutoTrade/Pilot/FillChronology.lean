import AutoTrade.Execution.ArrivalOrder
import AutoTrade.Pilot.DisabledFlat
import AutoTrade.Pilot.TerminalProjection
import AutoTrade.Reconciliation.FillProjection

/-! # The instants of fills

The exchange reports the time of a fill in whole seconds, the pilot stamps its orders to the
nanosecond, and the projection compares the two. `GenuineFill` is a fill that happened after its order
was requested, and is reported at the second in which it happened.

`fills_taken_iff`: the fills of an order pass, and their record goes into the ledger, exactly when none
of them happened in the second in which the order was requested, the first instant of a second apart. -/

namespace AutoTrade.Pilot.FillChronology

open Lib.Result Domain.Types
open Domain.PilotTypes Domain.Timestamp Strategy.Core
open Strategy.CandidateState Execution.EvidenceDecimals
open Execution.CandidateBinding Execution.CandidateEvidence
open Execution.LedgerAgreement Execution.TerminalFills
open Execution.ArrivalOrder (times_of_projection projection_of_times)
open Execution.DecisionVerification (saleOrder saleDecision saleDeployment saleBinding plainDigest)
open Execution.Records (CandidateExecutionAttemptTimestamps)
open Pilot.InMemoryRepository Pilot.EvidenceReplay Pilot.DisabledFlat
open Pilot.TerminalProjection
open Reconciliation.FillProjection (isNumeral_toString)
open Reconciliation.Snapshots (tryParseEpochNanoseconds)

/-! ### A record after all others -/

theorem orderedInsert_concat {α : Type} {r : α → α → Prop} [DecidableRel r] {a last : α}
    (h : r a last) (l : List α) :
    (l ++ [last]).orderedInsert r a = l.orderedInsert r a ++ [last] := by
  induction l with
  | nil => simp [h]
  | cons b l ih =>
    rw [List.cons_append, List.orderedInsert_cons, List.orderedInsert_cons]
    split_ifs with hab
    · rfl
    · rw [ih, List.cons_append]

theorem insertionSort_concat {α : Type} {r : α → α → Prop} [DecidableRel r] {last : α} {l : List α}
    (h : ∀ a ∈ l, r a last) : (l ++ [last]).insertionSort r = l.insertionSort r ++ [last] := by
  induction l with
  | nil => rfl
  | cons a l ih =>
    have hrest : ∀ b ∈ l, r b last := fun b hb => h b (List.mem_cons_of_mem _ hb)
    rw [List.cons_append, List.insertionSort_cons, List.insertionSort_cons, ih hrest,
      orderedInsert_concat (h a List.mem_cons_self)]

variable {items : List PositionGuardCandidateExecutionEvidence}

theorem chronological_concat {last : PositionGuardCandidateExecutionEvidence}
    (h : ∀ item ∈ items, instant item.executedAt < instant last.executedAt) :
    chronological (items ++ [last]) = chronological items ++ [last] := by
  unfold chronological
  rw [List.map_append, List.map_singleton, insertionSort_concat, List.map_append,
    List.map_singleton]
  intro a ha
  obtain ⟨item, hitem, rfl⟩ := List.mem_map.mp ha
  exact decide_eq_true (Or.inl (h item hitem))

variable {state : ExactCandidateState}

section

variable (hreplay : projectExactCandidateState items = .ok state)
  (hversion : state.stateVersion = items.length)
include hreplay hversion

theorem cursor_of_replay :
    (items = [] ∧ state.lastEvidenceAt = none) ∨
      ∃ last ∈ items, state.lastEvidenceAt = some last.executedAt := by
  have hrun := projectExact_eq_ok hreplay
  rcases List.eq_nil_or_concat' (chronological items) with hnil | ⟨front, last, hsplit⟩
  · have hempty : items = [] := by
      have hlength := length_chronological items
      rw [hnil] at hlength
      exact List.length_eq_zero_iff.mp hlength.symm
    rw [hnil] at hrun
    exact Or.inl ⟨hempty, by rw [← Except.ok.inj hrun]; rfl⟩
  · have hfills : ∀ item ∈ chronological items, IsFill item := by
      refine isFill_of_version hrun ?_
      rw [length_chronological, hversion]
      exact (Nat.zero_add _).symm
    obtain ⟨-, -, hlast⟩ := run_fills hfills hrun
    have hmem : last ∈ chronological items := by rw [hsplit]; simp
    exact Or.inr ⟨last, mem_chronological.mp hmem, (hlast last (by rw [hsplit]; simp)).at'⟩

theorem chronology_of_earlier {item : PositionGuardCandidateExecutionEvidence}
    (hreadable : IsCandidateTimestamp item.executedAt)
    (hearlier : ∀ other ∈ items, instant other.executedAt < instant item.executedAt) :
    assertExactChronology state item = .ok () := by
  unfold assertExactChronology
  rcases cursor_of_replay hreplay hversion with ⟨-, hcursor⟩ | ⟨last, hlast, hcursor⟩
  · rw [hcursor]
  · rw [hcursor]
    dsimp only
    rw [parse_bind, parse_bind, throwIf_eq_ok]
    refine ⟨times_of_projection hreplay last hlast, hreadable, ?_⟩
    have hlt := hearlier last hlast
    rw [not_or]
    exact ⟨by omega, fun h => by omega⟩

end

/-! ### A ledger of earlier orders -/

variable {sha256Hex : String → String}

/-- The stored ledger of a deployment was executed before an instant, and a record goes on from it in
everything but its chronology. -/
structure Continues (sha256Hex : String → String) (repo : PilotRepository) (deploymentId : String)
    (instantBefore : ℤ) (state : ExactCandidateState) (evidence : EvidenceSnapshot) : Prop where
  deployed : (repo.deployment deploymentId).isSome = true
  stored : repo.exactStates deploymentId = some state
  replay : projectExactCandidateState
    ((repo.records deploymentId).map fun item => asEvidence item.evidence) = .ok state
  version : state.stateVersion = (repo.records deploymentId).length
  safe : state.stateVersion ≤ maxSafeInteger
  earlier : ∀ item ∈ repo.records deploymentId, instant item.evidence.executedAt < instantBefore
  fresh : ∀ item ∈ repo.records deploymentId, item.evidence.evidenceId ≠ evidence.evidenceId
  material : ∃ material,
    candidateEvidenceMaterial sha256Hex deploymentId (asEvidence evidence) = .ok material
  fits : assertExactChronology state (asEvidence evidence) = .ok () →
    ∃ next, advanceExactCandidateState state (asEvidence evidence) = .ok next

/-- The ledger takes the record: it is what the state was last advanced with. -/
def Takes (sha256Hex : String → String) (repo : PilotRepository) (deploymentId : String)
    (state : ExactCandidateState) (evidence : EvidenceSnapshot) : Prop :=
  ∃ next, (advanceStateWithEvidence sha256Hex repo
      ⟨deploymentId, state.stateVersion, asEvidence evidence⟩).2.exactStates deploymentId =
    some next ∧ next.lastEvidenceAt = some evidence.executedAt ∧
      next.lastEvidenceId = some evidence.evidenceId

/-- **A record that was executed later is taken.** -/
theorem takes_of_continues {repo : PilotRepository} {deploymentId : String} {instantBefore : ℤ}
    {evidence : EvidenceSnapshot}
    (h : Continues sha256Hex repo deploymentId instantBefore state evidence)
    (hreadable : IsCandidateTimestamp evidence.executedAt)
    (hlater : instantBefore ≤ instant evidence.executedAt) (hfill : IsFill (asEvidence evidence)) :
    Takes sha256Hex repo deploymentId state evidence := by
  set items := (repo.records deploymentId).map fun item => asEvidence item.evidence with hitems
  have hversion : state.stateVersion = items.length := by rw [hitems, List.length_map, h.version]
  have hearlier : ∀ other ∈ items,
      instant other.executedAt < instant (asEvidence evidence).executedAt := by
    intro other hother
    obtain ⟨item, hitem, rfl⟩ := List.mem_map.mp hother
    exact lt_of_lt_of_le (h.earlier item hitem) hlater
  have hchronology : assertExactChronology state (asEvidence evidence) = .ok () :=
    chronology_of_earlier h.replay hversion hreadable hearlier
  obtain ⟨next, hnext⟩ := h.fits hchronology
  obtain ⟨hends, hstep, -⟩ := advance_fill hfill hnext
  -- the whole history with the record at its end
  have hreadableAll : ∀ item ∈ items ++ [asEvidence evidence], IsCandidateTimestamp item.executedAt := by
    intro item hitem
    rcases List.mem_append.mp hitem with hitem | hitem
    · exact times_of_projection h.replay item hitem
    · rw [List.mem_singleton.mp hitem]
      exact hreadable
  have hproject : projectExactCandidateState (items ++ [asEvidence evidence]) = .ok next := by
    rw [projection_of_times hreadableAll, chronological_concat hearlier, List.foldlM_append,
      projectExact_eq_ok h.replay, ok_bind, List.foldlM_cons, hnext]
    rfl
  obtain ⟨material, hmaterial⟩ := h.material
  have hsame := material_evidence hmaterial
  obtain ⟨deployment, hdeployment⟩ := Option.isSome_iff_exists.mp h.deployed
  have hfresh : (repo.records deploymentId).find?
      (fun item => item.evidence.evidenceId = material.evidence.evidenceId) = none := by
    rw [List.find?_eq_none]
    intro item hitem
    rw [hsame]
    simpa using h.fresh item hitem
  have houtcome : resolveEvidence sha256Hex repo
      ⟨deploymentId, state.stateVersion, asEvidence evidence⟩ =
        .ok (.advanced deployment.phase (repo.records deploymentId ++ [storedRecord material]) state
          next material) := by
    have hsafe : throwIf ((state.stateVersion : ℤ) < 0 ∨ (maxSafeInteger : ℤ) < state.stateVersion)
        "Candidate pilot expected state version must be a non-negative safe integer." =
        Except.ok () := by
      rw [throwIf_eq_ok]
      have := h.safe
      omega
    have hrecords : (repo.records deploymentId ++ [storedRecord material]).map
        (fun item => asEvidence item.evidence) = items ++ [asEvidence evidence] := by
      rw [List.map_append, List.map_singleton, hitems, ← hsame]
      rfl
    unfold resolveEvidence
    simp only [hsafe, ok_bind, hdeployment, h.stored, hmaterial, resolveMaterial, hfresh,
      resolveNewEvidence, hrecords, hproject, hstep]
    simp only [throwIf, ne_eq, not_true_eq_false, if_false]
    rfl
  refine ⟨next, ?_, hends.at', hends.id⟩
  unfold advanceStateWithEvidence
  rw [houtcome]
  exact Function.update_self ..

/-! ### Fills that the exchange reports in whole seconds -/

/-- A candidate order as it was sent: binding and order carry the two timestamps of one attempt. -/
structure SentOrder where
  order : OrderRecord
  deployment : PositionGuardPilotDeploymentRecord
  binding : CandidateExecutionBindingRecord
  decision : StrategyDecisionRecord
  action : ExecutedAction
  entryPath : StrategyEntryPath
  activationEpochNs : ℤ
  /-- What the clock showed when the attempt was made. -/
  attemptedAt : String
  timestamps : CandidateExecutionAttemptTimestamps
  activated : deployment.activationEpochNs = some activationEpochNs
  attempted :
    createCandidateExecutionAttemptTimestamps activationEpochNs attemptedAt = .ok timestamps
  requested : order.requestedAt = timestamps.orderRequestedAt
  bound : binding.createdAt = timestamps.bindingCreatedAt
  decided : IsCandidateTimestamp decision.createdAt
  decidedBefore : instant decision.createdAt ≤ instant order.requestedAt

namespace SentOrder

variable (sent : SentOrder)

def requestedAt : ℤ := instant sent.order.requestedAt

/-- The verified decision of the order, as the fills are compared with it. -/
def verified : VerifiedDecision :=
  ⟨sent.action, sent.entryPath, sent.decision, sent.requestedAt, instant sent.binding.createdAt⟩

theorem requestedAt_eq : sent.requestedAt = instant sent.binding.createdAt + 1 ∧
    sent.activationEpochNs < instant sent.binding.createdAt ∧ 0 ≤ sent.activationEpochNs := by
  obtain ⟨h0, -, -, hafter, -, -⟩ := attemptTimestamps_eq_ok.mp sent.attempted
  obtain ⟨-, -, hbound, -, hrequested⟩ := attemptTimestamps_spec sent.attempted
  unfold requestedAt
  rw [sent.requested, sent.bound, hrequested, hbound]
  exact ⟨rfl, hafter, h0⟩

theorem verifyInstants_eq : verifyInstants sent.order sent.deployment sent.binding sent.decision =
    .ok (sent.verified.requestedAt, sent.verified.bindingCreatedAt) := by
  obtain ⟨-, hboundReads, -, hrequestedReads, -⟩ := attemptTimestamps_spec sent.attempted
  obtain ⟨hsucc, hafter, -⟩ := sent.requestedAt_eq
  have hdecided : instant sent.decision.createdAt ≤ sent.requestedAt := sent.decidedBefore
  have hreads : IsCandidateTimestamp sent.order.requestedAt := by
    rw [sent.requested]
    exact hrequestedReads
  have hbound : IsCandidateTimestamp sent.binding.createdAt := by
    rw [sent.bound]
    exact hboundReads
  unfold verifyInstants
  simp only [sent.activated, bind_eq_ok, parseTimestamp_eq_ok, throwFault, throwIf_eq_ok,
    Except.ok.injEq]
  refine ⟨_, ⟨sent.decided, rfl⟩, _, ⟨hreads, rfl⟩, _, ⟨hbound, rfl⟩, (), ?_, rfl⟩
  change ¬ (sent.requestedAt < _ ∨ sent.requestedAt < _ ∨ sent.requestedAt ≤ _)
  omega

end SentOrder

/-- The second in which an instant falls, in nanoseconds. -/
def wholeSecond (t : ℤ) : ℤ := t / 1000000000 * 1000000000

/-- A fill of the order that happened at an instant after the order was requested, as it is stored:
the exchange reports it at the second in which it happened. -/
structure GenuineFill (sent : SentOrder) (fill : FillRecord) (happenedAt : ℤ) : Prop where
  afterRequest : sent.requestedAt < happenedAt
  readable : IsCandidateTimestamp fill.filledAt
  reported : instant fill.filledAt = wholeSecond happenedAt
  provenance : fill.executionTimestampProvenance = some .exchangeFillConfirmed
  epoch : fill.executionEpochNs = tryParseEpochNanoseconds fill.filledAt
  orderId : fill.orderId = sent.order.id
  market : fill.market = sent.order.market
  side : fill.side = sent.order.side
  currency : fill.feeCurrency = some "KRW"
  feeProvenance : fill.feeProvenance = some .exchangeFillConfirmed
  fee : ∃ fee, fill.feeAmount = some fee ∧
    isCanonicalNonNegative fee.toList = true
  volume : PositiveText fill.volume
  price : PositiveText fill.price

variable {sent : SentOrder} {fill : FillRecord} {fills : List FillRecord} {happenedAt : ℤ}

theorem GenuineFill.confirmed (h : GenuineFill sent fill happenedAt) : ConfirmedInstant fill := by
  obtain ⟨hsucc, hafter, h0⟩ := sent.requestedAt_eq
  have hnonneg : 0 ≤ instant fill.filledAt := by
    have := h.afterRequest
    rw [h.reported, wholeSecond]
    omega
  refine ⟨h.provenance, h.readable, ?_, isNumeral_toString hnonneg⟩
  obtain ⟨t, ht⟩ : ∃ t, parsePositionGuardCandidateTimestamp fill.filledAt
      "exchange fill createdAt" = .ok t :=
    ⟨_, parseCandidate_eq_ok.mpr ⟨h.readable, rfl⟩⟩
  obtain ⟨-, rfl⟩ := parseCandidate_eq_ok.mp ht
  rw [h.epoch, tryParseEpochNanoseconds, ht]

theorem GenuineFill.accepted_iff (h : GenuineFill sent fill happenedAt) :
    Accepted sent.order sent.verified ⟨fill, instant fill.filledAt⟩ ↔
      sent.requestedAt ≤ wholeSecond happenedAt := by
  constructor
  · intro haccepted
    rw [← h.reported]
    exact haccepted.requested
  · intro hle
    rw [← h.reported] at hle
    obtain ⟨hsucc, -, -⟩ := sent.requestedAt_eq
    have hbound : sent.verified.bindingCreatedAt < instant fill.filledAt := by
      change instant sent.binding.createdAt < _
      omega
    exact ⟨h.orderId, h.market, h.side, hle, hbound, h.currency, h.feeProvenance, h.fee, h.volume,
      h.price⟩

theorem executedAt_mem (hne : fills ≠ []) :
    ∃ fill ∈ fills, (aggregateOf fills).executedAt = fill.filledAt := by
  have hrows : orderedRows fills ≠ [] := by
    rw [← List.length_pos_iff, orderedRows, List.length_insertionSort, List.length_map,
      List.length_pos_iff]
    exact hne
  obtain ⟨fill, hfill, hlast⟩ := mem_orderedRows.mp (List.getLast_mem hrows)
  refine ⟨fill, hfill, ?_⟩
  rw [aggregateOf, List.getLast?_eq_getLast_of_ne_nil hrows, ← hlast]
  rfl

theorem isFill_evidenceOf {aggregate : TerminalFillAggregate} {order : OrderRecord}
    {decision : VerifiedDecision} (remaining : String)
    (h : aggregateTerminalFills order decision fills = .ok aggregate) :
    IsFill (asEvidence (evidenceOf order decision aggregate remaining)) := by
  obtain ⟨-, -, hne, -, rfl⟩ := aggregateTerminalFills_eq_ok.mp h
  obtain ⟨-, hamounts⟩ := aggregate_eq_ok order decision fills
  have hnonneg : 0 ≤ (totalsOf fills).executedQuantity.value := by
    have hexecuted := congrArg Amounts.executedQuantity (hamounts _ h)
    change routingNumber (formatExactDecimal (totalsOf fills).executedQuantity) =
      (fills.map fun fill => amount fill.volume).sum at hexecuted
    rw [routingNumber_format] at hexecuted
    rw [hexecuted]
    refine List.sum_nonneg fun a ha => ?_
    obtain ⟨fill, -, rfl⟩ := List.mem_map.mp ha
    exact amount_nonneg _
  have hamount : amountOf (.text (formatExactDecimal (totalsOf fills).executedQuantity)) =
      (totalsOf fills).executedQuantity.value := amountOf_text ⟨_, rfl, rfl⟩ hnonneg
  change amountOf (.text (formatExactDecimal (totalsOf fills).executedQuantity)) ≠ 0
  rw [hamount]
  exact hne

/-- The instants of the order and of its fills pass, the record is later than the activation, and
every ledger of earlier orders takes it. -/
def FillsTaken (sha256Hex : String → String) (sent : SentOrder) (fills : List FillRecord) : Prop :=
  verifyInstants sent.order sent.deployment sent.binding sent.decision =
      .ok (sent.verified.requestedAt, sent.verified.bindingCreatedAt) ∧
    ∃ aggregate, aggregateTerminalFills sent.order sent.verified fills = .ok aggregate ∧
      sent.activationEpochNs < instant aggregate.executedAt ∧
      ∀ repo state remaining,
        Continues sha256Hex repo sent.deployment.id sent.requestedAt state
            (evidenceOf sent.order sent.verified aggregate remaining) →
          Takes sha256Hex repo sent.deployment.id state
            (evidenceOf sent.order sent.verified aggregate remaining)

/-- **Genuine fills.** They pass, and their record goes into the ledger, exactly if none of them
happened in the second of the request, after which its reported time would lie. -/
theorem fills_taken_iff (sent : SentOrder) {fills : List FillRecord} {happenedAt : FillRecord → ℤ}
    (hne : fills ≠ []) (hgenuine : ∀ fill ∈ fills, GenuineFill sent fill (happenedAt fill))
    (hlimits : WithinLimits sent.order (sumsOfRows fills)) :
    FillsTaken sha256Hex sent fills ↔
      ∀ fill ∈ fills, sent.requestedAt ≤ wholeSecond (happenedAt fill) := by
  obtain ⟨hexists, -⟩ := aggregate_eq_ok sent.order sent.verified fills
  constructor
  · rintro ⟨-, aggregate, haggregate, -, -⟩ fill hfill
    obtain ⟨hrows, -, -⟩ := hexists.mp ⟨aggregate, haggregate⟩
    exact (hgenuine fill hfill).accepted_iff.mp (hrows fill hfill).2
  · intro hseconds
    obtain ⟨aggregate, haggregate⟩ := hexists.mpr ⟨fun fill hfill =>
      ⟨(hgenuine fill hfill).confirmed, (hgenuine fill hfill).accepted_iff.mpr (hseconds fill hfill)⟩,
      hne, hlimits⟩
    obtain ⟨-, -, -, -, hshape⟩ := aggregateTerminalFills_eq_ok.mp haggregate
    -- the record is executed at the latest of the fills, which is no earlier than the request
    obtain ⟨latest, hlatest, hat⟩ := executedAt_mem hne
    rw [← hshape] at hat
    have hlater : sent.requestedAt ≤ instant aggregate.executedAt := by
      rw [hat, (hgenuine latest hlatest).reported]
      exact hseconds latest hlatest
    have hreadable : IsCandidateTimestamp aggregate.executedAt := by
      rw [hat]
      exact (hgenuine latest hlatest).readable
    obtain ⟨hsucc, hafter, -⟩ := sent.requestedAt_eq
    refine ⟨sent.verifyInstants_eq, aggregate, haggregate, by omega, ?_⟩
    intro repo state remaining hcontinues
    exact takes_of_continues hcontinues hreadable hlater (isFill_evidenceOf remaining haggregate)

/-! ### A purchase in the first nanosecond of a second -/

/-- The purchase of one bitcoin, requested one nanosecond after midnight. -/
def purchase : SentOrder where
  order := { saleOrder .filled with
    side := .bid, ordType := .price, volume := none, price := some "100000000" }
  deployment := saleDeployment
  binding := { saleBinding with createdAt := "2026-01-01T00:00:00.000000000Z" }
  decision := saleDecision "null"
  action := .enter
  entryPath := .pullback
  activationEpochNs := 1735689600000000000
  attemptedAt := "2026-01-01T00:00:00.000Z"
  timestamps := ⟨"2026-01-01T00:00:00.000000000Z", "2026-01-01T00:00:00.000000001Z"⟩
  activated := rfl
  attempted := by decide +kernel
  requested := rfl
  bound := rfl
  decided := by decide +kernel
  decidedBefore := by decide +kernel

/-- Its fill, as the exchange reports it at this time. -/
def purchaseFill (filledAt : String) : FillRecord where
  id := "fill"
  orderId := "order"
  exchangeFillId := "trade"
  market := .krwBtc
  side := .bid
  price := "100000000"
  volume := "1"
  feeCurrency := some "KRW"
  feeAmount := some "50000"
  feeProvenance := some .exchangeFillConfirmed
  executionTimestampProvenance := some .exchangeFillConfirmed
  executionEpochNs := tryParseEpochNanoseconds filledAt
  filledAt
  rawPayloadJson := "null"

theorem purchaseFill_genuine {filledAt : String} (hafter : purchase.requestedAt < happenedAt)
    (hreadable : IsCandidateTimestamp filledAt)
    (hreported : instant filledAt = wholeSecond happenedAt) :
    GenuineFill purchase (purchaseFill filledAt) happenedAt where
  afterRequest := hafter
  readable := hreadable
  reported := hreported
  provenance := rfl
  epoch := rfl
  orderId := rfl
  market := rfl
  side := rfl
  currency := rfl
  feeProvenance := rfl
  fee := ⟨"50000", rfl, by decide⟩
  volume := (by decide +kernel : PositiveText "1")
  price := (by decide +kernel : PositiveText "100000000")

theorem purchase_within (filledAt : String) :
    WithinLimits purchase.order (sumsOfRows [purchaseFill filledAt]) where
  quantity := by
    intro volume hvolume
    cases hvolume
  budget := by
    intro _ _
    refine ⟨by decide, le_of_eq ?_⟩
    simp only [sumsOfRows, sums, purchaseFill, List.map_cons, List.map_nil, List.sum_cons,
      List.sum_nil]
    decide +kernel

def purchaseAggregate : TerminalFillAggregate :=
  ⟨"2026-01-01T09:00:01+09:00", "1", "100000000", "50000"⟩

/-- The record of the purchase, in a ledger that holds nothing. -/
def purchaseEvidence : EvidenceSnapshot :=
  evidenceOf purchase.order purchase.verified purchaseAggregate "1"

theorem purchase_continues : Continues plainDigest
    (PilotRepository.empty.insertDeploymentWithInitialState saleDeployment) "deployment"
    purchase.requestedAt createExactEmptyCandidateState purchaseEvidence where
  deployed := by decide +kernel
  stored := rfl
  replay := rfl
  version := rfl
  safe := by decide
  earlier := fun item hitem => nomatch hitem
  fresh := fun item hitem => nomatch hitem
  material := exists_ok (by decide +kernel)
  fits := fun _ => exists_ok (by decide +kernel)

/-- A fill that happened 900 milliseconds after midnight is reported at midnight, before the order was
requested: it is refused. -/
theorem fill_in_request_second_refused :
    GenuineFill purchase (purchaseFill "2026-01-01T09:00:00+09:00") 1767225600900000000 ∧
      WithinLimits purchase.order (sumsOfRows [purchaseFill "2026-01-01T09:00:00+09:00"]) ∧
      aggregateTerminalFills purchase.order purchase.verified
          [purchaseFill "2026-01-01T09:00:00+09:00"] =
        .error (.fault "FILL_TIMESTAMP_INVALID"
          "Persisted fill precedes the terminal order request.") ∧
      ¬ FillsTaken plainDigest purchase [purchaseFill "2026-01-01T09:00:00+09:00"] := by
  have hrefused : aggregateTerminalFills purchase.order purchase.verified
      [purchaseFill "2026-01-01T09:00:00+09:00"] = .error (.fault "FILL_TIMESTAMP_INVALID"
        "Persisted fill precedes the terminal order request.") := by
    decide +kernel
  refine ⟨purchaseFill_genuine (by decide +kernel) (by decide +kernel) (by decide +kernel),
    purchase_within _, hrefused, ?_⟩
  rintro ⟨-, aggregate, haggregate, -, -⟩
  rw [hrefused] at haggregate
  cases haggregate

/-- One second later it is taken, also by the ledger that has no records yet. -/
theorem fill_in_next_second_taken :
    FillsTaken plainDigest purchase [purchaseFill "2026-01-01T09:00:01+09:00"] ∧
      Takes plainDigest (PilotRepository.empty.insertDeploymentWithInitialState saleDeployment)
        "deployment" createExactEmptyCandidateState purchaseEvidence := by
  have hgenuine : GenuineFill purchase (purchaseFill "2026-01-01T09:00:01+09:00")
      1767225601900000000 :=
    purchaseFill_genuine (by decide +kernel) (by decide +kernel) (by decide +kernel)
  have htaken : FillsTaken plainDigest purchase [purchaseFill "2026-01-01T09:00:01+09:00"] := by
    refine (@fills_taken_iff _ purchase _ (fun _ => 1767225601900000000) (List.cons_ne_nil _ _) ?_
      (purchase_within _)).mpr ?_
    · intro fill hfill
      obtain rfl := List.mem_singleton.mp hfill
      exact hgenuine
    · intro fill hfill
      decide +kernel
  refine ⟨htaken, ?_⟩
  obtain ⟨-, aggregate, haggregate, -, htakes⟩ := htaken
  obtain rfl : purchaseAggregate = aggregate := by
    have hvalue : aggregateTerminalFills purchase.order purchase.verified
        [purchaseFill "2026-01-01T09:00:01+09:00"] = .ok purchaseAggregate := by decide +kernel
    exact Except.ok.inj (hvalue.symm.trans haggregate)
  exact htakes _ _ "1" purchase_continues

end AutoTrade.Pilot.FillChronology
