import AutoTrade.Execution.DecisionVerification
import AutoTrade.Execution.TerminalFills
import AutoTrade.Reconciliation.StoredFills

/-! # Projecting stored fills

The writers store every spelling of a decimal and `aggregateTerminalFills` reads the canonical one
only: a confirmed order is projected exactly when the exchange wrote every number in the canonical
way (`projects_iff`). -/

namespace AutoTrade.Reconciliation.FillProjection

open Lib.Decimal Lib.Result
open Domain.Types Domain.Timestamp
open Db.Tables Db.LifecycleValidation Db.OrderStore
open Db.ReconciliationStore Reconciliation.Snapshots
open Reconciliation.FillReplay Reconciliation.StoredFills
open Execution.EvidenceDecimals
open Execution.OrderDecimals Execution.CandidateBinding
open Execution.CandidateEvidence Execution.DecisionVerification
open Execution.TerminalFills

/-! ### What can be projected -/

/-- A fill of the order as the exchange confirms it: decimals in any spelling, a fee, and a time with
an offset, after the request. -/
structure ConfirmedFill (order : OrderRecord) (fill : ExchangeFillSnapshot) : Prop where
  side : fill.side = order.side
  price : isPositiveDecimalText fill.price = true
  volume : isPositiveDecimalText fill.volume = true
  fee : ∃ fee, fill.fee = some fee ∧ isDecimalText fee.toList = true
  time : ∃ createdAt, fill.createdAt = some createdAt ∧ IsStrictIso createdAt ∧
    instant order.requestedAt < instant createdAt

def sumsOfFills : List ExchangeFillSnapshot → Amounts :=
  sums (fun fill => fill.price) (fun fill => fill.volume) fun fill => fill.fee

/-- The fills stay within the volume of the order and within its quote budget. -/
structure WithinOrder (order : OrderRecord) (total : Amounts) : Prop where
  quantity : ∀ volume ∈ order.volume, total.executedQuantity ≤ amount volume
  budget : order.side = .bid → order.ordType = .price →
    total.grossQuoteValueKrw ≤ amount (order.price.getD "")

/-- The exchange wrote the fill the way the candidate does: no zero before or after the digits that
count, and an offset that the candidate reads. -/
structure Canonical (fill : ExchangeFillSnapshot) : Prop where
  price : isCanonicalNonNegative fill.price.toList = true
  volume : isCanonicalNonNegative fill.volume.toList = true
  fee : ∀ fee ∈ fill.fee, isCanonicalNonNegative fee.toList = true
  time : ∀ createdAt ∈ fill.createdAt, IsCandidateTimestamp createdAt

/-- The rows are added up to the exact sums of the fills. -/
def Projects (order : OrderRecord) (decision : VerifiedDecision) (rows : List FillRecord)
    (fills : List ExchangeFillSnapshot) : Prop :=
  ∃ aggregate, aggregateTerminalFills order decision rows = .ok aggregate ∧
    amountsOfAggregate aggregate = sumsOfFills fills

/-- The instants of the verified decision are those at which the order was requested and bound. -/
structure VerifiedFor (intent : PersistCandidateBoundOrderIntentInput) (decision : VerifiedDecision) :
    Prop where
  requestedAt : decision.requestedAt = instant intent.order.requestedAt
  bindingCreatedAt : decision.bindingCreatedAt = instant intent.binding.createdAt

theorem isNumeral_toString {t : ℤ} (h : 0 ≤ t) : isNumeral (toString t).toList = true := by
  obtain ⟨n, rfl⟩ := Int.eq_ofNat_of_zero_le h
  have htext : (toString (n : ℤ)).toList = Nat.toDigits 10 n := by
    change (Nat.repr n).toList = _
    rw [Nat.repr, String.toList_ofList]
  rw [htext]
  unfold isNumeral
  rcases Nat.eq_zero_or_pos n with rfl | hpos
  · decide
  · simp [isPositiveNumeral_toDigits hpos]

theorem amount_ne_zero {text : String} (hc : isCanonicalNonNegative text.toList = true)
    (hp : isPositiveDecimalText text = true) : amount text ≠ 0 := by
  intro hzero
  rw [← value_parse_of_canonical hc, ← format_eq_zero_iff, format_parse hc] at hzero
  rw [hzero] at hp
  exact absurd hp (by decide)

theorem tryParse_eq {timestamp : String} :
    tryParseEpochNanoseconds timestamp =
      if IsCandidateTimestamp timestamp then some (toString (instant timestamp)) else none := by
  unfold tryParseEpochNanoseconds
  split_ifs with h
  · rw [parseCandidate_of_is h]
  · rw [parseCandidate_of_not h]

section Accepts

variable {order : OrderRecord} {decision : VerifiedDecision} {row : FillRecord}
  {fill : ExchangeFillSnapshot}

/-- A confirmed fill is added exactly when it is written canonically. -/
theorem accepted_iff (htakes : Takes order row fill) (hconfirmed : ConfirmedFill order fill)
    (hrequested : decision.requestedAt = instant order.requestedAt)
    (hbound : decision.bindingCreatedAt < decision.requestedAt)
    (hnonneg : 0 ≤ instant order.requestedAt) :
    ConfirmedInstant row ∧ Accepted order decision ⟨row, instant row.filledAt⟩ ↔
      Canonical fill := by
  obtain ⟨fee, hfee, -⟩ := hconfirmed.fee
  obtain ⟨createdAt, hcreated, -, hlater⟩ := hconfirmed.time
  have hfilled : row.filledAt = createdAt := by rw [htakes.filledAt, hcreated, Option.getD_some]
  have hepoch : row.executionEpochNs = tryParseEpochNanoseconds createdAt := by
    rw [htakes.epoch, hcreated, Option.bind_some]
  constructor
  · rintro ⟨hinstant, haccepted⟩
    obtain ⟨text, htext, hcanonical⟩ := haccepted.fee
    refine ⟨?_, ?_, ?_, ?_⟩
    · rw [← htakes.price]
      exact haccepted.price.1
    · rw [← htakes.volume]
      exact haccepted.volume.1
    · intro fee hmem
      rw [htakes.fee, hmem] at htext
      obtain rfl := Option.some.inj htext
      exact hcanonical
    · intro other hmem
      rw [hcreated] at hmem
      obtain rfl := Option.some.inj hmem
      rw [← hfilled]
      exact hinstant.readable
  · intro h
    have hreadable : IsCandidateTimestamp createdAt := h.time createdAt hcreated
    have hrecorded : tryParseEpochNanoseconds createdAt = some (toString (instant createdAt)) := by
      rw [tryParse_eq, if_pos hreadable]
    refine ⟨⟨?_, by rwa [hfilled], ?_, ?_⟩, ?_⟩
    · exact htakes.timeProvenance (by rw [hcreated, Option.bind_some, hrecorded]; rfl)
    · rw [hepoch, hrecorded, hfilled]
    · rw [hfilled]
      exact isNumeral_toString (by omega)
    · refine ⟨htakes.orderId, htakes.market, htakes.side.trans hconfirmed.side, ?_, ?_,
        htakes.currency, htakes.feeProvenance (by simp [hfee]), ⟨fee, htakes.fee.trans hfee,
        h.fee fee hfee⟩, ?_, ?_⟩
      · change decision.requestedAt ≤ instant row.filledAt
        rw [hfilled]
        omega
      · change decision.bindingCreatedAt < instant row.filledAt
        rw [hfilled]
        omega
      · change PositiveText row.volume
        rw [htakes.volume]
        exact ⟨h.volume, amount_ne_zero h.volume hconfirmed.volume⟩
      · change PositiveText row.price
        rw [htakes.price]
        exact ⟨h.price, amount_ne_zero h.price hconfirmed.price⟩

end Accepts

theorem forall_iff_of_forall₂ {α β : Type} {r : α → β → Prop} {p : α → Prop} {q : β → Prop}
    {l : List α} {m : List β} (h : List.Forall₂ r l m)
    (hpq : ∀ a, ∀ b ∈ m, r a b → (p a ↔ q b)) : (∀ a ∈ l, p a) ↔ ∀ b ∈ m, q b := by
  induction h with
  | nil => simp
  | cons hab _ ih =>
    rw [List.forall_mem_cons, List.forall_mem_cons, hpq _ _ List.mem_cons_self hab,
      ih fun a b hb => hpq a b (List.mem_cons_of_mem _ hb)]

variable {records : List FillRecord}

theorem sums_of_takes {order : OrderRecord} {fills : List ExchangeFillSnapshot}
    (h : List.Forall₂ (Takes order) records fills) : sumsOfRows records = sumsOfFills fills := by
  induction h with
  | nil => rfl
  | cons hab _ ih =>
    simp only [sumsOfRows, sumsOfFills, sums, Amounts.mk.injEq] at ih
    simp only [sumsOfRows, sumsOfFills, sums, List.map_cons, List.sum_cons, hab.price, hab.volume,
      hab.fee, ih.1, ih.2.1, ih.2.2]

theorem sums_rows {db : Database} {orderId : String} (h : Holds db orderId records) :
    sumsOfRows (rowsOf db orderId) = sumsOfRows records := by
  have hmap : ∀ l : List FillRecord, sumsOfRows (l.map material) = sumsOfRows l := by
    intro l
    simp only [sumsOfRows, sums, List.map_map]
    rfl
  rw [← hmap, ← hmap records]
  exact sums_perm h

theorem accepted_material (order : OrderRecord) (decision : VerifiedDecision) (row : FillRecord) :
    ConfirmedInstant (material row) ∧
        Accepted order decision ⟨material row, instant (material row).filledAt⟩ ↔
      ConfirmedInstant row ∧ Accepted order decision ⟨row, instant row.filledAt⟩ := by
  constructor
  · rintro ⟨h, h'⟩
    exact ⟨⟨h.provenance, h.readable, h.recorded, h.numeral⟩, ⟨h'.orderId, h'.market, h'.side,
      h'.requested, h'.bound, h'.currency, h'.feeProvenance, h'.fee, h'.volume, h'.price⟩⟩
  · rintro ⟨h, h'⟩
    exact ⟨⟨h.provenance, h.readable, h.recorded, h.numeral⟩, ⟨h'.orderId, h'.market, h'.side,
      h'.requested, h'.bound, h'.currency, h'.feeProvenance, h'.fee, h'.volume, h'.price⟩⟩

theorem confirmed_of_sameIdentity {a b : OrderRecord} (h : SameIdentity a b) {fill : ExchangeFillSnapshot}
    (hc : ConfirmedFill a fill) : ConfirmedFill b fill := by
  refine { hc with side := hc.side.trans h.side, time := ?_ }
  rw [← h.requestedAt]
  exact hc.time

/-- What the accepted intent says of the instants and of the texts of its order. -/
structure Bound (intent : PersistCandidateBoundOrderIntentInput) : Prop where
  nonneg : 0 ≤ instant intent.order.requestedAt
  later : instant intent.binding.createdAt < instant intent.order.requestedAt
  volume : ∀ volume ∈ intent.order.volume, isCanonicalNonNegative volume.toList = true
  price : intent.order.side = .bid → ∃ price, intent.order.price = some price ∧
    isCanonicalNonNegative price.toList = true

theorem bound_of_intent {sha256Hex : String → String}
    {intent : PersistCandidateBoundOrderIntentInput}
    (h : validateCandidateBoundOrderIntent sha256Hex intent = .ok ()) : Bound intent := by
  have htexts := canonicalTexts_of_intent h
  simp only [validateCandidateBoundOrderIntent, then_eq_ok, parse_bind] at h
  obtain ⟨-, hbinding, -, -, -, -, -, -, hdecision, -, horder, -, -⟩ := h
  simp only [validateCandidateExecutionBinding, then_eq_ok, parse_bind, throwIf_eq_ok]
    at hbinding
  obtain ⟨-, -, -, -, -, -, -, hactivation, -, -, -, -, -, -, hafter, -⟩ := hbinding
  simp only [validateDecision, then_eq_ok, parse_bind, throwIf_eq_ok] at hdecision
  obtain ⟨-, -, -, -, -, -, -, hchronology, hside, -⟩ := hdecision
  simp only [validateOrderBinding, then_eq_ok, validateOptionalDecimal_eq_ok] at horder
  obtain ⟨-, -, hvolume⟩ := horder
  refine ⟨?_, ?_, hvolume, fun hbid => ?_⟩
  · omega
  · omega
  · have hentry : isEntry intent.decision.action = true := by
      by_contra hne
      have hask : expectedSide intent.decision.action = .ask := if_neg hne
      rw [not_or, not_not, hask, hbid] at hside
      cases hside.1
    obtain ⟨price, hprice, -, hpositive⟩ := htexts.entry hentry
    exact ⟨price, hprice, hpositive.1⟩

/-- **A stored confirmed order can be projected exactly when the exchange wrote it canonically.** The
order was accepted as a candidate order and stored as filled, with at least one fill. -/
theorem projects_iff {sha256Hex : String → String} {intent : PersistCandidateBoundOrderIntentInput}
    (hintent : validateCandidateBoundOrderIntent sha256Hex intent = .ok ())
    {decision : VerifiedDecision} (hdecision : VerifiedFor intent decision)
    {db db' : Database} {current order : OrderRecord} {fills : List ExchangeFillSnapshot}
    (hkeys : FillIdentities db) (hid : order.id = intent.order.id)
    (hcurrent : getOrderById db intent.order.id = some current)
    (hsame : validateOrderIdentity intent.order current = .ok ())
    (hstores : Stores db order fills db')
    (hfills : ∀ fill ∈ fills, ConfirmedFill intent.order fill)
    (hwithin : WithinOrder intent.order (sumsOfFills fills)) :
    Projects order decision (listFills db' order.id) fills ↔
      fills ≠ [] ∧ ∀ fill ∈ fills, Canonical fill := by
  have hbound := bound_of_intent hintent
  rw [← hid] at hcurrent
  obtain ⟨hcurrentOrder, records, htakes, hheld⟩ := records_of_stores hkeys hcurrent hstores
  have horder : SameIdentity intent.order order := (sameIdentity_of_validate hsame).trans hcurrentOrder
  have hperm := listFills_perm db' order.id
  have hsums : sumsOfRows (listFills db' order.id) = sumsOfFills fills := by
    rw [← sums_of_takes htakes, ← sums_rows hheld]
    exact sums_perm hperm
  have hrows : (∀ row ∈ listFills db' order.id, ConfirmedInstant row ∧
      Accepted order decision ⟨row, instant row.filledAt⟩) ↔ ∀ fill ∈ fills, Canonical fill := by
    have hlisted : (∀ row ∈ listFills db' order.id, ConfirmedInstant row ∧
        Accepted order decision ⟨row, instant row.filledAt⟩) ↔
        ∀ row ∈ rowsOf db' order.id, ConfirmedInstant row ∧
          Accepted order decision ⟨row, instant row.filledAt⟩ :=
      forall_congr' fun row => by rw [hperm.mem_iff]
    rw [hlisted, forall_rows_iff hheld (accepted_material order decision)]
    refine forall_iff_of_forall₂ htakes fun row fill hfill htake => ?_
    refine accepted_iff htake (confirmed_of_sameIdentity horder (hfills fill hfill)) ?_ ?_ ?_
    · rw [hdecision.requestedAt, horder.requestedAt]
    · rw [hdecision.requestedAt, hdecision.bindingCreatedAt]
      exact hbound.later
    · rw [← horder.requestedAt]
      exact hbound.nonneg
  have hlimits : WithinLimits order (sumsOfFills fills) := by
    refine ⟨fun volume hvolume => ?_, fun hbid htype => ?_⟩
    · rw [← horder.volume] at hvolume
      exact ⟨hbound.volume volume hvolume, hwithin.quantity volume hvolume⟩
    · rw [← horder.side] at hbid
      rw [← horder.ordType] at htype
      obtain ⟨price, hprice, hcanonical⟩ := hbound.price hbid
      have hbudget := hwithin.budget hbid htype
      rw [← horder.price]
      rw [hprice, Option.getD_some] at hbudget ⊢
      exact ⟨hcanonical, hbudget⟩
  have hempty : listFills db' order.id ≠ [] ↔ fills ≠ [] := by
    rw [← List.length_pos_iff, ← List.length_pos_iff, hperm.length_eq, ← htakes.length_eq,
      List.length_pos_iff, List.length_pos_iff]
    exact rows_ne_nil_iff hheld
  obtain ⟨hexists, hvalue⟩ := aggregate_eq_ok order decision (listFills db' order.id)
  rw [hrows, hsums, hempty] at hexists
  unfold Projects
  constructor
  · rintro ⟨aggregate, hok, -⟩
    obtain ⟨hcanonical, hne, -⟩ := hexists.mp ⟨aggregate, hok⟩
    exact ⟨hne, hcanonical⟩
  · rintro ⟨hne, hcanonical⟩
    obtain ⟨aggregate, hok⟩ := hexists.mpr ⟨hcanonical, hne, hlimits⟩
    exact ⟨aggregate, hok, by rw [hvalue aggregate hok, hsums]⟩

/-! ### A sale -/

/-- The sale is filled a second later, at a price of this spelling. -/
def saleFill (price : String) : ExchangeFillSnapshot :=
  { soldFill (some "50000") with price, createdAt := some "2026-01-01T09:00:01+09:00" }

def saleVerified : VerifiedDecision where
  action := .exit
  entryPath := .none
  decision := saleDecision saleBasis
  requestedAt := instant "2026-01-01T00:00:00.000000001Z"
  bindingCreatedAt := instant "2026-01-01T00:00:00.000Z"

def saleSubmission (price : String) : PersistExchangeSubmissionInput where
  order := saleOrder .filled
  event := ⟨"submitted", "order", "ORDER_SUBMITTED", .exchange, "null", "2026-01-01T00:00:01.000Z"⟩
  fills := submittedRows (saleOrder .filled) [("fill", "trade")] [saleFill price]
  terminalEvent := some
    ⟨"filled", "order", "ORDER_FILLED", .exchange, "null", "2026-01-01T00:00:01.000Z"⟩

def saleDatabase : Database := { orders := [saleOrder .submitting] }

/-- The rows of the order after its submission, if it is stored. -/
def saleRows (price : String) : Except String (List FillRecord) :=
  (persistExchangeSubmission saleDatabase (saleSubmission price)).map fun db => listFills db "order"

theorem saleFill_confirmed {price : String} (h : isPositiveDecimalText price = true) :
    ConfirmedFill (saleIntent saleBasis).order (saleFill price) :=
  ⟨rfl, h, (by decide : isPositiveDecimalText "1" = true), ⟨"50000", rfl, by decide⟩,
    "2026-01-01T09:00:01+09:00", rfl, by decide +kernel, by decide +kernel⟩

theorem sale_within (price : String) :
    WithinOrder (saleIntent saleBasis).order (sumsOfFills [saleFill price]) := by
  refine ⟨?_, fun hbid => ?_⟩
  · intro volume hvolume
    obtain rfl := Option.some.inj hvolume
    simp [sumsOfFills, sums, saleFill, soldFill]
  · cases hbid

/-- The exchange writes the price with a fraction of zeros: the fill is stored and every projection
of the order faults. -/
theorem spelled_sale_faults :
    validateCandidateBoundOrderIntent plainDigest (saleIntent saleBasis) = .ok () ∧
      ConfirmedFill (saleIntent saleBasis).order (saleFill "100000000.0") ∧
      WithinOrder (saleIntent saleBasis).order (sumsOfFills [saleFill "100000000.0"]) ∧
      (saleRows "100000000.0").map (fun rows =>
        aggregateTerminalFills (saleOrder .filled) saleVerified rows) =
        .ok (.error (.error "fill price must be a canonical non-negative decimal string.")) :=
  ⟨(saleIntent_accepted saleBasis), saleFill_confirmed (by decide), sale_within _, by decide +kernel⟩

/-- The price is written canonically. -/
theorem projects_iff_sale : ∃ db,
    persistExchangeSubmission saleDatabase (saleSubmission "100000000") = .ok db ∧
      (Projects (saleOrder .filled) saleVerified (listFills db "order") [saleFill "100000000"] ↔
        [saleFill "100000000"] ≠ [] ∧ ∀ fill ∈ [saleFill "100000000"], Canonical fill) := by
  obtain ⟨db, hdb⟩ : ∃ db, persistExchangeSubmission saleDatabase (saleSubmission "100000000") =
      .ok db := exists_ok (by decide +kernel)
  have hcurrent : getOrderById saleDatabase (saleIntent saleBasis).order.id = some (saleOrder .submitting) := by
    decide +kernel
  have hstores : Stores saleDatabase (saleOrder .filled) [saleFill "100000000"] db :=
    .submission (saleSubmission "100000000") [("fill", "trade")] rfl rfl rfl rfl hdb
  have hkeys : FillIdentities saleDatabase := List.nodup_nil
  have hverified : VerifiedFor (saleIntent saleBasis) saleVerified := ⟨by decide +kernel, by decide +kernel⟩
  refine ⟨db, hdb, projects_iff (saleIntent_accepted saleBasis) hverified hkeys rfl hcurrent (by decide +kernel)
    hstores ?_ (sale_within _)⟩
  intro fill hfill
  obtain rfl := List.mem_singleton.mp hfill
  exact saleFill_confirmed (by decide)

/-! ### The arrangement of the rows -/

/-- **The arrangement of the rows does not matter.** Rows of distinct ids have one aggregate, its
execution time included, in whatever order they are read. -/
theorem aggregate_ignores_row_order (order : OrderRecord) (decision : VerifiedDecision)
    {fills fills' : List FillRecord} (hperm : fills.Perm fills') (hids : (fills.map (·.id)).Nodup)
    (aggregate : TerminalFillAggregate) :
    aggregateTerminalFills order decision fills = .ok aggregate ↔
      aggregateTerminalFills order decision fills' = .ok aggregate := by
  have hrows := orderedRows_perm hperm hids
  have hconfirmed : (∀ fill ∈ fills, ConfirmedInstant fill) ↔ ∀ fill ∈ fills', ConfirmedInstant fill := by
    simp only [hperm.mem_iff]
  rw [aggregateTerminalFills_eq_ok, aggregateTerminalFills_eq_ok, hconfirmed]
  unfold aggregateOf totalsOf
  rw [hrows]

theorem aggregate_ignores_row_order_halves :
    let half := fun price => { saleFill price with volume := "0.5" }
    let rows := submittedRows (saleOrder .filled) [("a", "b"), ("c", "d")] [half "1", half "2"]
    (aggregateTerminalFills (saleOrder .filled) saleVerified rows).isOk = true ∧
      ∀ aggregate, aggregateTerminalFills (saleOrder .filled) saleVerified rows = .ok aggregate ↔
        aggregateTerminalFills (saleOrder .filled) saleVerified rows.reverse = .ok aggregate := by
  intro half rows
  refine ⟨by decide +kernel, ?_⟩
  exact aggregate_ignores_row_order _ _ (List.reverse_perm rows).symm (by decide)

end AutoTrade.Reconciliation.FillProjection
