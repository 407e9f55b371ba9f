import AutoTrade.Execution.CandidateEvidence
import AutoTrade.Lib.TextOrder

/-! # The fills of a terminal order

`aggregateTerminalFills` accepts the rows of an order one by one, canonical decimals only, and adds
them up exactly (`aggregate_eq_ok`). -/

namespace AutoTrade.Execution.TerminalFills

open Lib.Decimal Lib.Result Lib.Text
open Domain.Types Domain.Timestamp
open Strategy.CandidateState Execution.EvidenceDecimals
open Execution.CandidateEvidence

/-! ### What a fill has to be -/

/-- The number that a text of digits denotes. -/
def amount (text : String) : ℚ := decimalValue text.toList

/-- The instant of the row is the one that the exchange confirmed. -/
structure ConfirmedInstant (fill : FillRecord) : Prop where
  provenance : fill.executionTimestampProvenance = some .exchangeFillConfirmed
  readable : IsCandidateTimestamp fill.filledAt
  recorded : fill.executionEpochNs = some (toString (instant fill.filledAt))
  numeral : isNumeral (toString (instant fill.filledAt)).toList = true

/-- A canonical text of a number that is not zero. -/
def PositiveText (text : String) : Prop :=
  isCanonicalNonNegative text.toList = true ∧ amount text ≠ 0

instance (text : String) : Decidable (PositiveText text) := by
  unfold PositiveText; infer_instance

/-- A row that the loop adds. -/
structure Accepted (order : OrderRecord) (decision : VerifiedDecision) (timed : TimedFill) : Prop where
  orderId : timed.fill.orderId = order.id
  market : timed.fill.market = order.market
  side : timed.fill.side = order.side
  requested : decision.requestedAt ≤ timed.epochNanoseconds
  bound : decision.bindingCreatedAt < timed.epochNanoseconds
  currency : timed.fill.feeCurrency = some "KRW"
  feeProvenance : timed.fill.feeProvenance = some .exchangeFillConfirmed
  fee : ∃ fee, timed.fill.feeAmount = some fee ∧ isCanonicalNonNegative fee.toList = true
  volume : PositiveText timed.fill.volume
  price : PositiveText timed.fill.price

theorem parseTimestamp_eq_ok {value label : String} {t : ℤ} :
    parseTimestamp value label = .ok t ↔ IsCandidateTimestamp value ∧ t = instant value := by
  rw [parseTimestamp, mapError_eq_ok, parseCandidate_eq_ok]

theorem verifiedExchangeFillEpoch_eq_ok {fill : FillRecord} {t : ℤ} :
    verifiedExchangeFillEpoch fill = .ok t ↔ ConfirmedInstant fill ∧ t = instant fill.filledAt := by
  unfold verifiedExchangeFillEpoch
  cases hepoch : fill.executionEpochNs with
  | none =>
    constructor
    · intro h
      cases h
    · rintro ⟨h, -⟩
      have hrecorded := h.recorded
      rw [hepoch] at hrecorded
      cases hrecorded
  | some executionEpochNs =>
    simp only [throwIf_eq_ok, bind_eq_ok, exists_const, parseTimestamp_eq_ok, not_not,
      Bool.not_eq_false, Except.ok.injEq]
    constructor
    · rintro ⟨hprovenance, hnumeral, parsed, ⟨hread, rfl⟩, rfl, rfl⟩
      exact ⟨⟨hprovenance, hread, hepoch, hnumeral⟩, rfl⟩
    · rintro ⟨h, rfl⟩
      have hrecorded := h.recorded
      rw [hepoch, Option.some.injEq] at hrecorded
      subst hrecorded
      exact ⟨h.provenance, h.numeral, _, ⟨h.readable, rfl⟩, rfl, rfl⟩

theorem timedFill_eq_ok (fill : FillRecord) (timed : TimedFill) :
    timedFill fill = .ok timed ↔
      ConfirmedInstant fill ∧ timed = ⟨fill, instant fill.filledAt⟩ := by
  simp only [timedFill, bind_eq_ok, verifiedExchangeFillEpoch_eq_ok, Except.ok.injEq]
  constructor
  · rintro ⟨t, ⟨h, rfl⟩, rfl⟩
    exact ⟨h, rfl⟩
  · rintro ⟨h, rfl⟩
    exact ⟨_, ⟨h, rfl⟩, rfl⟩

theorem call_parse_eq_ok {text label : String} {d : ExactDecimal} :
    call (parseCanonicalNonNegativeDecimal (.text text) label) = .ok d ↔
      isCanonicalNonNegative text.toList = true ∧ d = parseCanonicalDecimal text := by
  rw [call, mapError_eq_ok, parseNonNegative_eq_ok]
  constructor
  · rintro ⟨t, ht, h⟩
    obtain rfl := PositionGuardCandidateDecimal.text.inj ht
    exact h
  · intro h
    exact ⟨text, rfl, h⟩

theorem coefficient_eq_zero_iff (d : ExactDecimal) : d.coefficient = 0 ↔ d.value = 0 := by
  unfold ExactDecimal.value
  rw [div_eq_zero_iff, Int.cast_eq_zero, or_iff_left (by positivity)]

theorem value_parse_of_canonical {text : String} (h : isCanonicalNonNegative text.toList = true) :
    (parseCanonicalDecimal text).value = amount text := by
  rw [value_parse, routingNumber_of_canonical h, amount]

/-- The totals with the numbers of a row added. -/
def addAmounts (totals : FillTotals) (timed : TimedFill) : FillTotals :=
  totals.add (parseCanonicalDecimal timed.fill.price) (parseCanonicalDecimal timed.fill.volume)
    (parseCanonicalDecimal (timed.fill.feeAmount.getD ""))

theorem addFill_eq_ok (order : OrderRecord) (decision : VerifiedDecision) (totals : FillTotals)
    (timed : TimedFill) (totals' : FillTotals) :
    addFill order decision totals timed = .ok totals' ↔
      Accepted order decision timed ∧ totals' = addAmounts totals timed := by
  simp only [addFill, throwFault, throwIf_eq_ok, bind_eq_ok, exists_const, call_parse_eq_ok, not_or,
    not_not, not_lt, not_le, Except.ok.injEq, coefficient_eq_zero_iff]
  constructor
  · rintro ⟨⟨horder, hmarket, hside⟩, hrequested, hbound, ⟨hcurrency, hfee, hprovenance⟩, volume,
      ⟨hv, rfl⟩, price, ⟨hp, rfl⟩, fee, ⟨hf, rfl⟩, ⟨hv0, hp0⟩, rfl⟩
    obtain ⟨text, htext⟩ := Option.ne_none_iff_exists'.mp hfee
    rw [value_parse_of_canonical hv] at hv0
    rw [value_parse_of_canonical hp] at hp0
    rw [htext, Option.getD_some] at hf
    exact ⟨⟨horder, hmarket, hside, hrequested, hbound, hcurrency, hprovenance, ⟨text, htext, hf⟩,
      ⟨hv, hv0⟩, ⟨hp, hp0⟩⟩, rfl⟩
  · rintro ⟨h, rfl⟩
    obtain ⟨text, htext, hf⟩ := h.fee
    refine ⟨⟨h.orderId, h.market, h.side⟩, h.requested, h.bound,
      ⟨h.currency, by simp [htext], h.feeProvenance⟩, _, ⟨h.volume.1, rfl⟩, _, ⟨h.price.1, rfl⟩, _,
      ⟨by rw [htext]; exact hf, rfl⟩, ⟨?_, ?_⟩, rfl⟩
    · rw [value_parse_of_canonical h.volume.1]
      exact h.volume.2
    · rw [value_parse_of_canonical h.price.1]
      exact h.price.2

/-! ### The sums -/

/-- What the rows add up to. -/
structure Amounts where
  executedQuantity : ℚ
  grossQuoteValueKrw : ℚ
  confirmedFeeKrw : ℚ

/-- The exact sums of volumes, of prices times volumes and of fees, where they are written. -/
def sums {Fill : Type} (price volume : Fill → String) (fee : Fill → Option String)
    (fills : List Fill) : Amounts where
  executedQuantity := (fills.map fun fill => amount (volume fill)).sum
  grossQuoteValueKrw := (fills.map fun fill => amount (price fill) * amount (volume fill)).sum
  confirmedFeeKrw := (fills.map fun fill => amount ((fee fill).getD "")).sum

def sumsOfRows : List FillRecord → Amounts :=
  sums FillRecord.price FillRecord.volume FillRecord.feeAmount

theorem sums_perm {Fill : Type} {price volume : Fill → String} {fee : Fill → Option String}
    {l m : List Fill} (h : l.Perm m) : sums price volume fee l = sums price volume fee m := by
  unfold sums
  rw [(h.map _).sum_eq, (h.map _).sum_eq, (h.map _).sum_eq]

def amountsOfTotals (totals : FillTotals) : Amounts :=
  ⟨totals.executedQuantity.value, totals.grossQuoteValueKrw.value, totals.confirmedFeeKrw.value⟩

variable {decision : VerifiedDecision} {order : OrderRecord}

theorem amounts_foldl {l : List TimedFill} (h : ∀ timed ∈ l, Accepted order decision timed)
    (totals : FillTotals) :
    amountsOfTotals (l.foldl addAmounts totals) =
      ⟨totals.executedQuantity.value + (sumsOfRows (l.map TimedFill.fill)).executedQuantity,
        totals.grossQuoteValueKrw.value + (sumsOfRows (l.map TimedFill.fill)).grossQuoteValueKrw,
        totals.confirmedFeeKrw.value + (sumsOfRows (l.map TimedFill.fill)).confirmedFeeKrw⟩ := by
  induction l generalizing totals with
  | nil => simp [amountsOfTotals, sumsOfRows, sums]
  | cons timed rest ih =>
    obtain ⟨haccepted, hrest⟩ := List.forall_mem_cons.mp h
    obtain ⟨fee, hfee, hcanonical⟩ := haccepted.fee
    rw [List.foldl_cons, ih hrest]
    simp only [addAmounts, FillTotals.add, value_add, value_multiply, sumsOfRows, sums, List.map_cons,
      List.sum_cons, value_parse_of_canonical haccepted.volume.1,
      value_parse_of_canonical haccepted.price.1, hfee, Option.getD_some,
      value_parse_of_canonical hcanonical, add_assoc]

/-- The volumes do not exceed a canonical limit. -/
def WithinLimit (limit : String) (total : ℚ) : Prop :=
  isCanonicalNonNegative limit.toList = true ∧ total ≤ amount limit

/-- The limits of the order on its fills. -/
structure WithinLimits (order : OrderRecord) (total : Amounts) : Prop where
  quantity : ∀ volume ∈ order.volume, WithinLimit volume total.executedQuantity
  budget : order.side = .bid → order.ordType = .price →
    WithinLimit (order.price.getD "") total.grossQuoteValueKrw

variable {u : Unit}

theorem limit_eq_ok {limit label code message : String} {total : ExactDecimal} :
    (call (parseCanonicalNonNegativeDecimal (.text limit) label) >>= fun parsed =>
      throwFault (0 < compareExactDecimals total parsed) code message) = .ok u ↔
      WithinLimit limit total.value := by
  simp only [throwFault, bind_eq_ok, call_parse_eq_ok, throwIf_eq_ok, compare_pos_iff, not_lt]
  constructor
  · rintro ⟨_, ⟨hc, rfl⟩, hle⟩
    rw [value_parse_of_canonical hc] at hle
    exact ⟨hc, hle⟩
  · rintro ⟨hc, hle⟩
    refine ⟨_, ⟨hc, rfl⟩, ?_⟩
    rw [value_parse_of_canonical hc]
    exact hle

theorem checkQuantity_eq_ok {executed : ExactDecimal} :
    checkQuantity order executed = .ok u ↔
      ∀ volume ∈ order.volume, WithinLimit volume executed.value := by
  unfold checkQuantity
  cases order.volume with
  | none => simp
  | some volume => simp [limit_eq_ok]

theorem checkBudget_eq_ok {gross : ExactDecimal} :
    checkBudget order gross = .ok u ↔
      (order.side = .bid → order.ordType = .price →
        WithinLimit (order.price.getD "") gross.value) := by
  unfold checkBudget
  by_cases hbid : order.side = .bid ∧ order.ordType = .price
  · rw [if_pos hbid, limit_eq_ok]
    simp [hbid]
  · rw [if_neg hbid]
    refine iff_of_true rfl fun hside htype => absurd ⟨hside, htype⟩ hbid

theorem amount_nonneg (text : String) : 0 ≤ amount text := decimalValue_nonneg _

variable {fills : List FillRecord}

theorem executed_ne_zero_iff
    (h : ∀ fill ∈ fills, Accepted order decision ⟨fill, instant fill.filledAt⟩) :
    (sumsOfRows fills).executedQuantity ≠ 0 ↔ fills ≠ [] := by
  constructor
  · rintro hne rfl
    exact hne rfl
  · intro hne
    obtain ⟨fill, rest, rfl⟩ := List.exists_cons_of_ne_nil hne
    have hpos : 0 < amount fill.volume :=
      lt_of_le_of_ne (amount_nonneg _) (h fill List.mem_cons_self).volume.2.symm
    have hrest : 0 ≤ (rest.map fun fill => amount fill.volume).sum :=
      List.sum_nonneg fun a ha => by
        obtain ⟨fill, -, rfl⟩ := List.mem_map.mp ha
        exact amount_nonneg _
    have hsum : (sumsOfRows (fill :: rest)).executedQuantity =
        amount fill.volume + (rest.map fun fill => amount fill.volume).sum := rfl
    rw [hsum]
    exact (add_pos_of_pos_of_nonneg hpos hrest).ne'

/-- The numbers of the result. -/
def amountsOfAggregate (aggregate : TerminalFillAggregate) : Amounts :=
  ⟨routingNumber aggregate.executedQuantity, routingNumber aggregate.grossQuoteValueKrw,
    routingNumber aggregate.confirmedFeeKrw⟩

/-- The rows in the order of the loop. -/
def orderedRows (fills : List FillRecord) : List TimedFill :=
  (fills.map fun fill => (⟨fill, instant fill.filledAt⟩ : TimedFill)).insertionSort
    fun left right => left.le right

theorem orderedRows_perm {fills' : List FillRecord} (hperm : fills.Perm fills')
    (hids : (fills.map (·.id)).Nodup) : orderedRows fills = orderedRows fills' := by
  refine Lib.TextOrder.sorted_eq_of_perm TimedFill.epochNanoseconds (·.fill.id) (hperm.map _) ?_
  rw [List.map_map]
  exact hids

/-- The totals of the loop, where every row is accepted. -/
def totalsOf (fills : List FillRecord) : FillTotals := (orderedRows fills).foldl addAmounts .zero

theorem mem_orderedRows {timed : TimedFill} :
    timed ∈ orderedRows fills ↔ ∃ fill ∈ fills, ⟨fill, instant fill.filledAt⟩ = timed := by
  unfold orderedRows
  rw [List.mem_insertionSort, List.mem_map]

theorem amounts_totalsOf
    (h : ∀ fill ∈ fills, Accepted order decision ⟨fill, instant fill.filledAt⟩) :
    amountsOfTotals (totalsOf fills) = sumsOfRows fills := by
  have hperm : ((orderedRows fills).map TimedFill.fill).Perm fills := by
    have hsort : (orderedRows fills).Perm (fills.map fun fill => ⟨fill, instant fill.filledAt⟩) :=
      List.perm_insertionSort _ _
    have hmap := hsort.map TimedFill.fill
    rw [List.map_map] at hmap
    simpa [Function.comp_def] using hmap
  have hall : ∀ timed ∈ orderedRows fills, Accepted order decision timed := by
    intro timed htimed
    obtain ⟨fill, hfill, rfl⟩ := mem_orderedRows.mp htimed
    exact h fill hfill
  have hsums : sumsOfRows ((orderedRows fills).map TimedFill.fill) = sumsOfRows fills :=
    sums_perm hperm
  have hfold := amounts_foldl hall .zero
  rw [hsums] at hfold
  unfold totalsOf
  rw [hfold]
  simp [FillTotals.zero, ExactDecimal.value]

/-- The result for these totals. -/
def aggregateOf (fills : List FillRecord) : TerminalFillAggregate where
  executedAt := ((orderedRows fills).getLast?.map fun latest => latest.fill.filledAt).getD ""
  executedQuantity := formatExactDecimal (totalsOf fills).executedQuantity
  grossQuoteValueKrw := formatExactDecimal (totalsOf fills).grossQuoteValueKrw
  confirmedFeeKrw := formatExactDecimal (totalsOf fills).confirmedFeeKrw

theorem aggregateTerminalFills_eq_ok {aggregate : TerminalFillAggregate} :
    aggregateTerminalFills order decision fills = .ok aggregate ↔
      (∀ fill ∈ fills, ConfirmedInstant fill) ∧
        (∀ timed ∈ orderedRows fills, Accepted order decision timed) ∧
        (amountsOfTotals (totalsOf fills)).executedQuantity ≠ 0 ∧
        WithinLimits order (amountsOfTotals (totalsOf fills)) ∧ aggregate = aggregateOf fills := by
  have hrows := @mapM_eq_ok_iff _ _ _ _ _ _ timedFill_eq_ok fills
  have hloop := @foldlM_eq_ok_iff _ _ _ _ _ _ (addFill_eq_ok order decision)
  unfold aggregateTerminalFills
  simp only [bind_eq_ok, exists_const, hrows, hloop, throwFault, throwIf_eq_ok,
    coefficient_eq_zero_iff, checkQuantity_eq_ok, checkBudget_eq_ok, Except.ok.injEq]
  constructor
  · rintro ⟨_, ⟨hconfirmed, rfl⟩, _, ⟨haccepted, rfl⟩, hpositive, hquantity, hbudget, rfl⟩
    exact ⟨hconfirmed, haccepted, hpositive, ⟨hquantity, hbudget⟩, rfl⟩
  · rintro ⟨hconfirmed, haccepted, hpositive, ⟨hquantity, hbudget⟩, rfl⟩
    exact ⟨_, ⟨hconfirmed, rfl⟩, _, ⟨haccepted, rfl⟩, hpositive, hquantity, hbudget, rfl⟩

/-- **The aggregate.** It exists exactly for rows that are confirmed and accepted one by one and stay
within the limits of the order, and it is their exact sum. -/
theorem aggregate_eq_ok (order : OrderRecord) (decision : VerifiedDecision)
    (fills : List FillRecord) :
    ((∃ aggregate, aggregateTerminalFills order decision fills = .ok aggregate) ↔
      (∀ fill ∈ fills, ConfirmedInstant fill ∧
        Accepted order decision ⟨fill, instant fill.filledAt⟩) ∧ fills ≠ [] ∧
        WithinLimits order (sumsOfRows fills)) ∧
    ∀ aggregate, aggregateTerminalFills order decision fills = .ok aggregate →
      amountsOfAggregate aggregate = sumsOfRows fills := by
  have hrows : (∀ timed ∈ orderedRows fills, Accepted order decision timed) ↔
      ∀ fill ∈ fills, Accepted order decision ⟨fill, instant fill.filledAt⟩ := by
    simp only [mem_orderedRows]
    exact ⟨fun h fill hfill => h _ ⟨fill, hfill, rfl⟩, fun h timed ⟨fill, hfill, heq⟩ =>
      heq ▸ h fill hfill⟩
  constructor
  · simp only [aggregateTerminalFills_eq_ok, hrows]
    constructor
    · rintro ⟨_, hconfirmed, haccepted, hpositive, hlimits, -⟩
      rw [amounts_totalsOf haccepted] at hpositive hlimits
      exact ⟨fun fill hfill => ⟨hconfirmed fill hfill, haccepted fill hfill⟩,
        (executed_ne_zero_iff haccepted).mp hpositive, hlimits⟩
    · rintro ⟨hall, hne, hlimits⟩
      have haccepted := fun fill hfill => (hall fill hfill).2
      refine ⟨_, fun fill hfill => (hall fill hfill).1, haccepted, ?_, ?_, rfl⟩
      · rw [amounts_totalsOf haccepted]
        exact (executed_ne_zero_iff haccepted).mpr hne
      · rw [amounts_totalsOf haccepted]
        exact hlimits
  · intro aggregate h
    obtain ⟨-, haccepted, -, -, rfl⟩ := aggregateTerminalFills_eq_ok.mp h
    rw [← amounts_totalsOf (hrows.mp haccepted)]
    simp [amountsOfAggregate, amountsOfTotals, aggregateOf]

end AutoTrade.Execution.TerminalFills
