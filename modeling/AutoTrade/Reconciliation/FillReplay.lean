import AutoTrade.Execution.Service
import AutoTrade.Reconciliation.Snapshots

/-! # A fill recorded twice

A fill is recorded from the response to its submission or from a snapshot that a reconciliation looks
up, and every later snapshot of the order contains it again. The repository keeps what it has when
the new row is the stored one in everything but its id, and refuses the whole snapshot otherwise.

The two builders agree on a fill whose fee and time the exchange states (`Agrees`): a fill without a
fee is marked by the fee of the order it came with, and a time that is no timestamp is marked in two
ways. `replays_iff`: apart from that only a malformed or a repeated fill can make a snapshot fail. -/

namespace AutoTrade.Reconciliation.FillReplay

open Lib Lib.Result Lib.Text
open Domain.Types Domain.Timestamp
open Db.Tables Db.LifecycleValidation Db.OrderStore
open Db.ReconciliationStore Reconciliation.Snapshots

/-! ### The two builders -/

/-- Who recorded a fill first: the submission, or a reconciliation of a snapshot with this fee. -/
inductive FirstWriter
  | submission
  | reconciliation (orderPaidFee : Option String)

/-- The row `submitOrderFromDecision` builds for a fill of the response that has a trade id. -/
def submittedFillRecord (market : SupportedMarket) (orderId id exchangeFillId : String)
    (fill : AutoTrade.Execution.Records.ExchangeFillSnapshot) : FillRecord where
  id
  orderId
  exchangeFillId
  market
  side := fill.side
  price := fill.price
  volume := fill.volume
  feeCurrency := some "KRW"
  feeAmount := fill.fee
  feeProvenance := some (if fill.fee = none then .missing else .exchangeFillConfirmed)
  executionTimestampProvenance := some
    (if (fill.createdAt.bind tryParseEpochNanoseconds).isSome then .exchangeFillConfirmed
    else .legacyUnverified)
  executionEpochNs := fill.createdAt.bind tryParseEpochNanoseconds
  filledAt := fill.createdAt.getD ""
  rawPayloadJson := fill.raw

def firstRecord (writer : FirstWriter) (order : OrderRecord) (id : String)
    (fill : ExchangeFillSnapshot) : FillRecord :=
  match writer with
  | .submission => submittedFillRecord order.market order.id id (resolveExchangeFillId order fill)
      fill.toExchangeFillSnapshot
  | .reconciliation orderPaidFee => buildFillRecord order id fill orderPaidFee

/-- The first row says of the fill what a snapshot with this fee of the order says. -/
def Agrees (writer : FirstWriter) (fill : ExchangeFillSnapshot) (paidFee : Option String) : Prop :=
  match writer with
  | .submission => (fill.fee = none → paidFee = none) ∧
      ∀ createdAt, fill.createdAt = some createdAt → IsCandidateTimestamp createdAt
  | .reconciliation orderPaidFee => fill.fee = none → (orderPaidFee = none ↔ paidFee = none)

theorem isSome_tryParse (timestamp : String) :
    (tryParseEpochNanoseconds timestamp).isSome = true ↔ IsCandidateTimestamp timestamp := by
  unfold tryParseEpochNanoseconds
  by_cases h : IsCandidateTimestamp timestamp
  · simp [parseCandidate_of_is h, h]
  · simp [parseCandidate_of_not h, h]

theorem firstRecord_eq_iff (writer : FirstWriter) (order : OrderRecord) (id : String)
    (fill : ExchangeFillSnapshot) (paidFee : Option String) :
    firstRecord writer order id fill = buildFillRecord order id fill paidFee ↔
      Agrees writer fill paidFee := by
  cases writer with
  | submission =>
    have htime : (∀ createdAt, fill.createdAt = some createdAt → IsCandidateTimestamp createdAt) ↔
        ((fill.createdAt.bind tryParseEpochNanoseconds).isSome = true ↔ fill.createdAt ≠ none) := by
      cases hc : fill.createdAt with
      | none => simp
      | some createdAt => simp [isSome_tryParse]
    simp only [firstRecord, submittedFillRecord, buildFillRecord, FillRecord.mk.injEq, Agrees, htime,
      true_and, and_true, Option.some.injEq]
    cases fill.fee <;> cases paidFee <;> cases fill.createdAt <;> simp
    all_goals exact Option.isSome_iff_ne_none.symm
  | reconciliation orderPaidFee =>
    simp only [firstRecord, buildFillRecord, FillRecord.mk.injEq, Agrees, true_and, and_true,
      Option.some.injEq]
    cases fill.fee <;> cases orderPaidFee <;> cases paidFee <;> simp

/-! ### The stored row -/

/-- The unique key of the fills. -/
def FillIdentities (db : Database) : Prop :=
  (db.fills.map fun row => (row.orderId, row.exchangeFillId)).Nodup

theorem FillIdentities.insertFill {db db' : Database} {fill : FillRecord} (h : FillIdentities db)
    (hi : insertFill db fill = .ok db') : FillIdentities db' := by
  unfold AutoTrade.Db.OrderStore.insertFill at hi
  rw [guard_eq_ok, guard_eq_ok] at hi
  obtain ⟨-, hfree, hdb⟩ := hi
  obtain rfl := Except.ok.inj hdb
  have hnew : (fill.orderId, fill.exchangeFillId) ∉
      db.fills.map fun row => (row.orderId, row.exchangeFillId) := by
    intro hmem
    obtain ⟨row, hrow, heq⟩ := List.mem_map.mp hmem
    refine hfree (List.any_eq_true.mpr ⟨row, hrow, ?_⟩)
    obtain ⟨horder, hexchange⟩ := Prod.mk.inj heq
    simp [horder, hexchange]
  unfold FillIdentities
  rw [List.map_append, List.map_cons, List.map_nil]
  exact List.nodup_append'.mpr ⟨h, List.nodup_singleton _, by simpa using hnew⟩

section Lookup

variable {db : Database} {fill row : FillRecord}

theorem getFillByIdentity_some (hkeys : FillIdentities db) (hrow : row ∈ db.fills)
    (hfresh : ∀ r ∈ db.fills, r.id ≠ fill.id) (horder : row.orderId = fill.orderId)
    (hexchange : row.exchangeFillId = fill.exchangeFillId) :
    getFillByIdentity db fill = .ok (some row) := by
  have hid : db.fills.filter (fun r => r.id = fill.id) = [] :=
    List.filter_eq_nil_iff.mpr fun r hr => by simpa using hfresh r hr
  have hsame : db.fills.filter (fun r => r.id ≠ fill.id ∧ r.orderId = fill.orderId ∧
      r.exchangeFillId = fill.exchangeFillId) = [row] := by
    rw [← Table.filter_key_eq_singleton hkeys hrow]
    refine List.filter_congr fun r hr => ?_
    simp [hfresh r hr, horder, hexchange]
  unfold getFillByIdentity
  dsimp only
  rw [hid, hsame]
  rfl

theorem getFillByIdentity_none (hfresh : ∀ r ∈ db.fills, r.id ≠ fill.id)
    (habsent : ∀ r ∈ db.fills, r.orderId = fill.orderId → r.exchangeFillId ≠ fill.exchangeFillId) :
    getFillByIdentity db fill = .ok none := by
  have hid : db.fills.filter (fun r => r.id = fill.id) = [] :=
    List.filter_eq_nil_iff.mpr fun r hr => by simpa using hfresh r hr
  have hsame : db.fills.filter (fun r => r.id ≠ fill.id ∧ r.orderId = fill.orderId ∧
      r.exchangeFillId = fill.exchangeFillId) = [] :=
    List.filter_eq_nil_iff.mpr fun r hr => by simpa [hfresh r hr] using habsent r hr
  unfold getFillByIdentity
  dsimp only
  rw [hid, hsame]
  rfl

end Lookup

/-! ### What is recorded already -/

/-- A stored fill of the snapshot has the row of its first writer; no row has the identity of another
one. Only a fill with a trade id has a row of its submission under that id. -/
def FirstRecorded (db : Database) (order : OrderRecord) (first : Option FirstWriter)
    (fill : ExchangeFillSnapshot) : Prop :=
  match first with
  | some writer => (writer = .submission → truthy fill.tradeUuid = true) ∧
      ∃ row ∈ db.fills, row = firstRecord writer order row.id fill
  | none => ∀ row ∈ db.fills, row.orderId = order.id →
      row.exchangeFillId ≠ resolveExchangeFillId order fill

theorem fillExchangeIdentity_inj {a b : FillRecord} (horder : a.orderId = b.orderId) :
    fillExchangeIdentity a = fillExchangeIdentity b ↔ a.exchangeFillId = b.exchangeFillId := by
  unfold fillExchangeIdentity
  rw [horder]
  exact ⟨fun h => String.append_right_inj _ |>.mp h, fun h => by rw [h]⟩

section Resolution

variable {db : Database} {order : OrderRecord} {fill : ExchangeFillSnapshot} {id : String}
  {paidFee : Option String}

theorem resolveFill_of_stored {row next : FillRecord} (hkeys : FillIdentities db)
    (hrow : row ∈ db.fills) (hfresh : ∀ r ∈ db.fills, r.id ≠ next.id)
    (horder : row.orderId = next.orderId) (hexchange : row.exchangeFillId = next.exchangeFillId) :
    resolveFill db next = if { row with id := next.id } ≠ next then
      .error ("Conflicting duplicate fill " ++ next.exchangeFillId ++ ".") else .ok .preserve := by
  have hidentity := (fillExchangeIdentity_inj horder).mpr hexchange
  unfold resolveFill
  rw [getFillByIdentity_some hkeys hrow hfresh horder hexchange, ok_bind]
  simp [resolveImmutableFillReplay, hidentity, hfresh row hrow]

/-- A stored fill is kept when its first writer agrees, and refused otherwise. -/
theorem resolveFill_first {writer : FirstWriter} (hkeys : FillIdentities db)
    (hfresh : ∀ r ∈ db.fills, r.id ≠ id) (hfirst : FirstRecorded db order (some writer) fill) :
    (Agrees writer fill paidFee →
      resolveFill db (buildFillRecord order id fill paidFee) = .ok .preserve) ∧
    (¬ Agrees writer fill paidFee →
      (resolveFill db (buildFillRecord order id fill paidFee)).isOk = false) := by
  obtain ⟨-, row, hrow, heq⟩ := hfirst
  have horder : row.orderId = order.id := by rw [heq]; cases writer <;> rfl
  have hexchange : row.exchangeFillId = resolveExchangeFillId order fill := by
    rw [heq]; cases writer <;> rfl
  have hrenamed : { row with id := id } = firstRecord writer order id fill := by
    rw [heq]; cases writer <;> rfl
  have hresolve : resolveFill db (buildFillRecord order id fill paidFee) =
      if { row with id := id } ≠ buildFillRecord order id fill paidFee then
        .error ("Conflicting duplicate fill " ++ resolveExchangeFillId order fill ++ ".")
      else .ok .preserve :=
    resolveFill_of_stored hkeys hrow hfresh horder hexchange
  rw [hresolve, hrenamed]
  constructor
  · intro hagrees
    rw [if_neg (not_not.mpr ((firstRecord_eq_iff writer order id fill paidFee).mpr hagrees))]
  · intro hagrees
    rw [if_pos (mt (firstRecord_eq_iff writer order id fill paidFee).mp hagrees)]
    rfl

theorem resolveFill_new (hfresh : ∀ r ∈ db.fills, r.id ≠ id)
    (hfirst : FirstRecorded db order none fill) :
    resolveFill db (buildFillRecord order id fill paidFee) = .ok .insert := by
  have habsent : getFillByIdentity db (buildFillRecord order id fill paidFee) = .ok none :=
    getFillByIdentity_none hfresh hfirst
  unfold resolveFill
  rw [habsent, ok_bind]
  rfl

theorem isOk_resolveFill {first : Option FirstWriter} (hkeys : FillIdentities db)
    (hfresh : ∀ r ∈ db.fills, r.id ≠ id) (hfirst : FirstRecorded db order first fill) :
    (resolveFill db (buildFillRecord order id fill paidFee)).isOk = true ↔
      ∀ writer, first = some writer → Agrees writer fill paidFee := by
  cases first with
  | none => simp [resolveFill_new hfresh hfirst, Except.isOk, Except.toBool]
  | some writer =>
    obtain ⟨hkeep, hrefuse⟩ : (Agrees writer fill paidFee → _) ∧ (¬ Agrees writer fill paidFee → _) :=
      resolveFill_first hkeys hfresh hfirst
    by_cases hagrees : Agrees writer fill paidFee
    · simp [hkeep hagrees, hagrees, Except.isOk, Except.toBool]
    · simp [hrefuse hagrees, hagrees]

end Resolution

/-! ### Well-formed fills -/

/-- A positive decimal. -/
def isPositiveDecimalText (text : String) : Bool :=
  AutoTrade.Execution.OrderDecimals.isDecimalText text.toList ∧
    text.toList.any fun c => '1' ≤ c ∧ c ≤ '9'

/-- What the repository asks of a fill of the order. -/
def isWellFormedFill (order : OrderRecord) (fill : ExchangeFillSnapshot) : Bool :=
  fill.side = order.side ∧ isPositiveDecimalText fill.price ∧ isPositiveDecimalText fill.volume ∧
    fill.fee.all (fun fee => AutoTrade.Execution.OrderDecimals.isDecimalText fee.toList) ∧
    (fill.createdAt.bind tryParseEpochNanoseconds).all fun epochNs =>
      AutoTrade.Lib.Decimal.isDigits epochNs.toList

theorem validateExactDecimal_eq_ok {value label : String} {allowZero : Bool} {u : Unit} :
    validateExactDecimal value label allowZero = .ok u ↔
      AutoTrade.Execution.OrderDecimals.isDecimalText value.toList = true ∧
        (allowZero = false → value.toList.any (fun c => '1' ≤ c ∧ c ≤ '9') = true) := by
  unfold validateExactDecimal
  rw [guard_eq_ok, guard_eq_ok]
  simp

theorem validateFillForOrder_build (order : OrderRecord) (id : String) (fill : ExchangeFillSnapshot)
    (paidFee : Option String) :
    validateFillForOrder order (buildFillRecord order id fill paidFee) = .ok () ↔
      isWellFormedFill order fill = true := by
  have hfee : validateFillFee (buildFillRecord order id fill paidFee) = .ok () ↔
      fill.fee.all (fun fee => AutoTrade.Execution.OrderDecimals.isDecimalText fee.toList) = true := by
    unfold validateFillFee buildFillRecord
    dsimp only
    cases fill.fee with
    | none => simp
    | some fee => simp [validateExactDecimal_eq_ok]
  unfold validateFillForOrder
  rw [guard_eq_ok, then_eq_ok, then_eq_ok, then_eq_ok, guard_eq_ok, hfee,
    validateExactDecimal_eq_ok, validateExactDecimal_eq_ok]
  simp only [isWellFormedFill, isPositiveDecimalText, buildFillRecord, decide_eq_true_eq,
    ne_eq, not_true_eq_false, false_or, not_not, true_implies, and_true]
  constructor
  · rintro ⟨hside, hprice, hvolume, hfees, hepoch⟩
    refine ⟨hside, hprice, hvolume, hfees, ?_⟩
    cases hc : fill.createdAt.bind tryParseEpochNanoseconds with
    | none => rfl
    | some epochNs => simpa [hc] using hepoch
  · rintro ⟨hside, hprice, hvolume, hfees, hepoch⟩
    refine ⟨hside, hprice, hvolume, hfees, ?_⟩
    cases hc : fill.createdAt.bind tryParseEpochNanoseconds with
    | none => simp
    | some epochNs => simpa [hc] using hepoch

variable {order : OrderRecord} {fills : List FillRecord}

theorem validateReconciledFills_eq_ok {ids identities : List String} :
    validateReconciledFills order ids identities fills = .ok () ↔
      (∀ fill ∈ fills, validateFillForOrder order fill = .ok ()) ∧
      (fills.map FillRecord.id).Nodup ∧ (∀ fill ∈ fills, fill.id ∉ ids) ∧
      (fills.map fillExchangeIdentity).Nodup ∧
      ∀ fill ∈ fills, fillExchangeIdentity fill ∉ identities := by
  induction fills generalizing ids identities with
  | nil => simp [validateReconciledFills]
  | cons fill fills ih =>
    rw [validateReconciledFills, then_eq_ok, guard_eq_ok, ih]
    simp only [List.mem_cons, List.map_cons, List.nodup_cons, List.mem_map, forall_eq_or_imp, not_or,
      not_exists, not_and]
    constructor
    · rintro ⟨hvalid, ⟨hid, hidentity⟩, hvalids, hnodup, hids, hnodup', hidentities⟩
      exact ⟨⟨hvalid, hvalids⟩, ⟨fun f hf heq => (hids f hf).1 heq, hnodup⟩,
        ⟨hid, fun f hf => (hids f hf).2⟩, ⟨fun f hf heq => (hidentities f hf).1 heq, hnodup'⟩,
        hidentity, fun f hf => (hidentities f hf).2⟩
    · rintro ⟨⟨hvalid, hvalids⟩, ⟨hne, hnodup⟩, ⟨hid, hids⟩, ⟨hne', hnodup'⟩, hidentity,
        hidentities⟩
      exact ⟨hvalid, ⟨hid, hidentity⟩, hvalids, hnodup, fun f hf => ⟨hne f hf, hids f hf⟩, hnodup',
        fun f hf => ⟨hne' f hf, hidentities f hf⟩⟩

/-! ### The reconciled snapshot -/

variable {ids : List String} {snapshot : ExchangeOrderSnapshot}

section

variable (hlength : ids.length = snapshot.fills.length)
include hlength

theorem forall_mem_buildFillRecords {p : FillRecord → Prop} {q : ExchangeFillSnapshot → Prop}
    (hpq : ∀ id ∈ ids, ∀ fill ∈ snapshot.fills,
      p (buildFillRecord order id fill snapshot.paidFee) ↔ q fill) :
    (∀ record ∈ buildFillRecords order snapshot ids, p record) ↔ ∀ fill ∈ snapshot.fills, q fill := by
  have hsnd : (ids.zip snapshot.fills).map Prod.snd = snapshot.fills :=
    List.map_snd_zip (le_of_eq hlength.symm)
  constructor
  · intro h fill hfill
    rw [← hsnd] at hfill
    obtain ⟨⟨id, g⟩, hmem, rfl⟩ := List.mem_map.mp hfill
    obtain ⟨hid, hg⟩ := List.of_mem_zip hmem
    exact (hpq id hid g hg).mp (h _ (List.mem_map.mpr ⟨(id, g), hmem, rfl⟩))
  · intro h record hrecord
    obtain ⟨⟨id, g⟩, hmem, rfl⟩ := List.mem_map.mp hrecord
    obtain ⟨hid, hg⟩ := List.of_mem_zip hmem
    exact (hpq id hid g hg).mpr (h g hg)

theorem map_id_buildFillRecords :
    (buildFillRecords order snapshot ids).map FillRecord.id = ids := by
  unfold buildFillRecords
  rw [List.map_map]
  exact List.map_fst_zip (le_of_eq hlength)

theorem map_exchangeFillId_buildFillRecords :
    (buildFillRecords order snapshot ids).map FillRecord.exchangeFillId =
      snapshot.fills.map (resolveExchangeFillId order) := by
  have hsnd : (ids.zip snapshot.fills).map Prod.snd = snapshot.fills :=
    List.map_snd_zip (le_of_eq hlength.symm)
  conv_rhs => rw [← hsnd]
  unfold buildFillRecords
  rw [List.map_map, List.map_map]
  rfl

end

theorem orderId_of_mem_buildFillRecords {record : FillRecord}
    (h : record ∈ buildFillRecords order snapshot ids) : record.orderId = order.id := by
  obtain ⟨p, -, rfl⟩ := List.mem_map.mp h
  rfl

theorem nodup_fillExchangeIdentity {orderId : String}
    (horder : ∀ fill ∈ fills, fill.orderId = orderId) :
    (fills.map fillExchangeIdentity).Nodup ↔ (fills.map FillRecord.exchangeFillId).Nodup := by
  have hmap : fills.map fillExchangeIdentity =
      (fills.map FillRecord.exchangeFillId).map fun text => orderId ++ "\x00" ++ text := by
    rw [List.map_map]
    refine List.map_congr_left fun fill hfill => ?_
    simp [fillExchangeIdentity, horder fill hfill]
  rw [hmap]
  exact List.nodup_map_iff fun a b h => (String.append_right_inj _).mp h

theorem map_normalize_buildFillRecords (order : OrderRecord) (snapshot : ExchangeOrderSnapshot)
    (ids : List String) :
    (buildFillRecords order snapshot ids).map normalizeFillFeeProvenance =
      buildFillRecords order snapshot ids := by
  unfold buildFillRecords
  rw [List.map_map]
  rfl

section Input

variable (lib : Library) (order : OrderRecord) (snapshot : ExchangeOrderSnapshot)
  (reconciledAt eventId : String) (fillIds : List String)

theorem order_reconciledInput_ne :
    order ≠ (reconciledInput lib order snapshot reconciledAt eventId fillIds).order ↔
      (reconciledInput lib order snapshot reconciledAt eventId fillIds).event.isSome = true := by
  unfold reconciledInput
  dsimp only
  by_cases hchanged : isOrderChanged order (reconciledOrder lib order snapshot reconciledAt) = true
  · rw [if_pos hchanged, if_pos hchanged]
    refine ⟨fun _ => rfl, fun _ heq => ?_⟩
    rw [← heq] at hchanged
    simp [isOrderChanged] at hchanged
  · rw [if_neg hchanged, if_neg hchanged]
    simp

theorem validateOrderIdentity_reconciledInput :
    validateOrderIdentity order
      (reconciledInput lib order snapshot reconciledAt eventId fillIds).order = .ok () := by
  unfold reconciledInput
  dsimp only
  split <;> simp [validateOrderIdentity, immutableOrderIdentityFields, reconciledOrder]

theorem validateReconciliationEvent_reconciledInput {event : OrderEventRecord}
    (h : (reconciledInput lib order snapshot reconciledAt eventId fillIds).event = some event) :
    validateReconciliationEvent
      (reconciledInput lib order snapshot reconciledAt eventId fillIds).order event = .ok () ∧
      event.id = eventId := by
  unfold reconciledInput at h ⊢
  dsimp only at h ⊢
  by_cases hchanged : isOrderChanged order (reconciledOrder lib order snapshot reconciledAt) = true
  · rw [if_pos hchanged] at h ⊢
    obtain rfl := Option.some.inj h
    exact ⟨by simp [validateReconciliationEvent, reconciledOrder], rfl⟩
  · rw [if_neg hchanged] at h
    cases h

theorem id_reconciledInput :
    (reconciledInput lib order snapshot reconciledAt eventId fillIds).order.id = order.id := by
  unfold reconciledInput
  dsimp only
  split <;> rfl

end Input

theorem validateFillForOrder_congr {a b : OrderRecord} (hid : a.id = b.id)
    (hmarket : a.market = b.market) (hside : a.side = b.side) (fill : FillRecord) :
    validateFillForOrder a fill = validateFillForOrder b fill := by
  unfold validateFillForOrder
  rw [hid, hmarket, hside]

/-- The input of a snapshot is refused only for its fills. -/
theorem validateReconciledExchangeSnapshotInput_reconciledInput {lib : Library}
    {reconciledAt eventId : String} {fillIds : List String}
    (hlength : fillIds.length = snapshot.fills.length) (hids : fillIds.Nodup) :
    validateReconciledExchangeSnapshotInput
        (reconciledInput lib order snapshot reconciledAt eventId fillIds) = .ok () ↔
      (∀ fill ∈ snapshot.fills, isWellFormedFill order fill = true) ∧
        (snapshot.fills.map (resolveExchangeFillId order)).Nodup := by
  set input := reconciledInput lib order snapshot reconciledAt eventId fillIds with hinput
  have hsame : ∀ fill, validateFillForOrder input.order fill = validateFillForOrder order fill := by
    intro fill
    rw [hinput]
    unfold reconciledInput
    dsimp only
    split
    · exact validateFillForOrder_congr rfl rfl rfl fill
    · rfl
  have hfills : validateReconciledFills input.order [] [] input.fills = .ok () ↔
      (∀ fill ∈ snapshot.fills, isWellFormedFill order fill = true) ∧
        (snapshot.fills.map (resolveExchangeFillId order)).Nodup := by
    change validateReconciledFills input.order [] [] (buildFillRecords order snapshot fillIds) =
      .ok () ↔ _
    rw [validateReconciledFills_eq_ok, map_id_buildFillRecords hlength,
      nodup_fillExchangeIdentity fun _ => orderId_of_mem_buildFillRecords,
      map_exchangeFillId_buildFillRecords hlength,
      forall_mem_buildFillRecords hlength fun id _ fill _ => by
        rw [hsame, validateFillForOrder_build]]
    simp [hids]
  have hchanged : ¬ (decide (input.expectedOrder ≠ input.order) ≠ input.event.isSome) := by
    have hne := order_reconciledInput_ne lib order snapshot reconciledAt eventId fillIds
    change (order ≠ input.order ↔ _) at hne
    change ¬ (decide (order ≠ input.order) ≠ input.event.isSome)
    rw [not_not]
    by_cases h : order ≠ input.order
    · rw [decide_eq_true h, hne.mp h]
    · rw [decide_eq_false h, Bool.eq_false_iff.mpr (mt hne.mpr h)]
  have hidentity : validateOrderIdentity input.expectedOrder input.order = .ok () :=
    validateOrderIdentity_reconciledInput lib order snapshot reconciledAt eventId fillIds
  unfold validateReconciledExchangeSnapshotInput
  rw [then_eq_ok, then_eq_ok, throwIf_eq_ok]
  simp only [hidentity, hchanged, not_false_eq_true, true_and]
  cases hevent : input.event with
  | none => rw [then_eq_ok, hfills, eq_self, true_and]
  | some event =>
    have hvalid := (validateReconciliationEvent_reconciledInput _ _ _ _ _ _ hevent).1
    rw [then_eq_ok, hfills, hvalid, eq_self, true_and]

/-! ### The rows that are written -/

variable {db : Database}

/-- A fill that is to be inserted has neither the id nor the exchange fill of a row. -/
theorem fresh_of_resolveFill_insert {fill : FillRecord} (h : resolveFill db fill = .ok .insert) :
    ∀ row ∈ db.fills, row.id ≠ fill.id ∧
      ¬ (row.orderId = fill.orderId ∧ row.exchangeFillId = fill.exchangeFillId) := by
  unfold resolveFill at h
  obtain ⟨existing, hget, hresolve⟩ := bind_eq_ok.mp h
  have hnone : existing = none := by
    cases existing with
    | none => rfl
    | some row =>
      unfold resolveImmutableFillReplay at hresolve
      rw [guard_eq_ok, guard_eq_ok] at hresolve
      exact absurd (Except.ok.inj hresolve.2.2) (by decide)
  rw [hnone] at hget
  unfold getFillByIdentity at hget
  dsimp only at hget
  intro row hrow
  split at hget
  · rename_i hempty
    obtain ⟨hid, hsame⟩ := List.append_eq_nil_iff.mp hempty
    have hne : row.id ≠ fill.id := by simpa using List.filter_eq_nil_iff.mp hid row hrow
    refine ⟨hne, fun hkey => ?_⟩
    exact List.filter_eq_nil_iff.mp hsame row hrow (by simp [hne, hkey])
  · cases hget
  · rw [guard_eq_ok] at hget
    cases hget.2

theorem foldlM_insertFill (hids : (fills.map FillRecord.id).Nodup)
    (hkeys : (fills.map fun fill => (fill.orderId, fill.exchangeFillId)).Nodup)
    (hfresh : ∀ fill ∈ fills, ∀ row ∈ db.fills, row.id ≠ fill.id ∧
      ¬ (row.orderId = fill.orderId ∧ row.exchangeFillId = fill.exchangeFillId)) :
    ∃ db', fills.foldlM insertFill db = .ok db' := by
  induction fills generalizing db with
  | nil => exact ⟨db, rfl⟩
  | cons fill fills ih =>
    rw [List.map_cons, List.nodup_cons] at hids hkeys
    have hinsert : insertFill db fill = .ok { db with fills := db.fills ++ [fill] } := by
      have hfree := hfresh fill List.mem_cons_self
      unfold insertFill
      rw [if_neg, if_neg]
      · rw [Bool.not_eq_true, List.any_eq_false]
        exact fun row hrow => by simpa using (hfree row hrow).2
      · rw [Bool.not_eq_true, List.any_eq_false]
        exact fun row hrow => by simpa using (hfree row hrow).1
    rw [List.foldlM_cons, hinsert, ok_bind]
    refine ih hids.2 hkeys.2 fun next hnext row hrow => ?_
    rcases List.mem_append.mp hrow with hold | hnew
    · exact hfresh next (List.mem_cons_of_mem _ hnext) row hold
    · obtain rfl := List.mem_singleton.mp hnew
      refine ⟨fun heq => hids.1 (heq ▸ List.mem_map_of_mem hnext), fun hkey => hkeys.1 ?_⟩
      exact List.mem_map.mpr ⟨next, hnext, by rw [hkey.1, hkey.2]⟩

/-- The unique keys of the orders. -/
def OrderKeys (db : Database) : Prop :=
  ∀ a ∈ db.orders, ∀ b ∈ db.orders, a.id ≠ b.id → a.identifier ≠ b.identifier ∧
    ¬ (a.exchangeAccountId = b.exchangeAccountId ∧ a.idempotencyKey = b.idempotencyKey)

theorem upsertOrder_of_stored {order next : OrderRecord} (hkeys : OrderKeys db)
    (hstored : order ∈ db.orders) (hid : next.id = order.id)
    (hidentifier : next.identifier = order.identifier)
    (haccount : next.exchangeAccountId = order.exchangeAccountId)
    (hkey : next.idempotencyKey = order.idempotencyKey) :
    upsertOrder db next = .ok { db with orders := Table.upsert OrderRecord.id next db.orders } := by
  have hconflict : orderConflict db next = none := by
    unfold orderConflict
    rw [hid, hidentifier, haccount, hkey, if_neg, if_neg]
    · rw [Bool.not_eq_true, List.any_eq_false]
      intro row hrow
      simpa using fun hne => not_and.mp (hkeys row hrow order hstored hne).2
    · rw [Bool.not_eq_true, List.any_eq_false]
      intro row hrow
      simpa using fun hne => (hkeys row hrow order hstored hne).1
  unfold upsertOrder
  rw [hconflict]

section Persist

variable {lib : Library} {db : Database} {order : OrderRecord} {snapshot : ExchangeOrderSnapshot}
  {reconciledAt eventId : String} {fillIds : List String}

/-- The events and fills of a snapshot of a stored order can be written when no fill conflicts. -/
theorem persist_of_resolved (hstored : getOrderById db order.id = some order)
    (hkeys : OrderKeys db) (hevent : getOrderEventById db eventId = none)
    (hlength : fillIds.length = snapshot.fills.length) (hids : fillIds.Nodup)
    (hvalid : validateReconciledExchangeSnapshotInput
      (reconciledInput lib order snapshot reconciledAt eventId fillIds) = .ok ())
    (hexchange : (snapshot.fills.map (resolveExchangeFillId order)).Nodup)
    (hresolved : ∀ record ∈ buildFillRecords order snapshot fillIds,
      (resolveFill db record).isOk = true) :
    ∃ result, persistReconciledExchangeSnapshot db
      (reconciledInput lib order snapshot reconciledAt eventId fillIds) = .ok result := by
  set input := reconciledInput lib order snapshot reconciledAt eventId fillIds with hinput
  have hid : input.order.id = order.id := id_reconciledInput lib order snapshot _ _ _
  have hfills : input.fills = buildFillRecords order snapshot fillIds := rfl
  have hexisting : existingReconciliationEvent db input.event = .ok none := by
    cases he : input.event with
    | none => rfl
    | some event =>
      have hfresh := (validateReconciliationEvent_reconciledInput _ _ _ _ _ _ he).2
      simp [existingReconciliationEvent, assertNoConflictingRecord, hfresh, hevent, bind,
        Except.bind]
  obtain ⟨resolutions, hresolve⟩ : ∃ resolutions, input.fills.mapM (resolveFill db) =
      .ok resolutions := isOk_iff_exists.mp (isOk_mapM.mpr hresolved)
  have hwritten : upsertOrder db input.order =
      .ok { db with orders := Table.upsert OrderRecord.id input.order db.orders } := by
    refine upsertOrder_of_stored hkeys (Table.mem_of_select hstored) hid ?_ ?_ ?_ <;>
    · rw [hinput]
      unfold reconciledInput
      dsimp only
      split <;> rfl
  have hrecorded : ∃ recorded, insertNewEvent
      { db with orders := Table.upsert OrderRecord.id input.order db.orders } input.event none =
        .ok recorded ∧ recorded.fills = db.fills := by
    cases he : input.event with
    | none => exact ⟨_, rfl, rfl⟩
    | some event =>
      have hfresh := (validateReconciliationEvent_reconciledInput _ _ _ _ _ _ he).2
      have hinsert : Table.insert OrderEventRecord.id event db.orderEvents =
          some (db.orderEvents ++ [event]) := Table.insert_eq_some.mpr ⟨by rw [hfresh]; exact hevent, rfl⟩
      refine ⟨{ db with
        orders := Table.upsert OrderRecord.id input.order db.orders
        orderEvents := db.orderEvents ++ [event] }, ?_, rfl⟩
      simp [insertNewEvent, insertOrderEvent, hinsert]
  obtain ⟨recorded, hinsertEvent, hsameFills⟩ := hrecorded
  set inserted := ((input.fills.zip resolutions).filter fun p => p.2 = .insert).map Prod.fst
    with hinserted
  have hsub : List.Sublist inserted input.fills := by
    rw [← map_fst_zip_mapM hresolve]
    exact List.filter_sublist.map Prod.fst
  have hfresh : ∀ fill ∈ inserted, ∀ row ∈ recorded.fills, row.id ≠ fill.id ∧
      ¬ (row.orderId = fill.orderId ∧ row.exchangeFillId = fill.exchangeFillId) := by
    intro fill hfill
    obtain ⟨⟨f, resolution⟩, hmem, rfl⟩ := List.mem_map.mp hfill
    obtain ⟨hzip, hinsert⟩ := List.mem_filter.mp hmem
    have hresolve := eq_ok_of_mem_zip_mapM hresolve hzip
    have hinsert : resolution = .insert := of_decide_eq_true hinsert
    rw [hinsert] at hresolve
    rw [hsameFills]
    exact fresh_of_resolveFill_insert hresolve
  have hnodup : (input.fills.map fun fill => (fill.orderId, fill.exchangeFillId)).Nodup := by
    refine List.Nodup.of_map Prod.snd ?_
    rw [List.map_map]
    change (input.fills.map FillRecord.exchangeFillId).Nodup
    rw [hfills, map_exchangeFillId_buildFillRecords hlength]
    exact hexchange
  obtain ⟨filled, hfilled⟩ := foldlM_insertFill
    ((hsub.map FillRecord.id).nodup (by rw [hfills, map_id_buildFillRecords hlength]; exact hids))
    ((hsub.map _).nodup hnodup) hfresh
  have hnormal : input.fills.map normalizeFillFeeProvenance = input.fills :=
    map_normalize_buildFillRecords order snapshot fillIds
  have hcurrent : ¬ order ≠ input.expectedOrder := not_not.mpr rfl
  unfold persistReconciledExchangeSnapshot
  simp only [hnormal, hid, hstored, hcurrent, hexisting, hresolve, hwritten, hinsertEvent, if_false,
    ok_bind]
  rw [hvalid, ok_bind, ← hinserted, hfilled, ok_bind]
  exact ⟨_, rfl⟩

theorem resolved_of_persist (hstored : getOrderById db order.id = some order)
    {result : PersistReconciledExchangeSnapshotResult × Database}
    (h : persistReconciledExchangeSnapshot db
      (reconciledInput lib order snapshot reconciledAt eventId fillIds) = .ok result) :
    validateReconciledExchangeSnapshotInput
        (reconciledInput lib order snapshot reconciledAt eventId fillIds) = .ok () ∧
      ∀ record ∈ buildFillRecords order snapshot fillIds, (resolveFill db record).isOk = true := by
  set input := reconciledInput lib order snapshot reconciledAt eventId fillIds with hinput
  have hid : input.order.id = order.id := id_reconciledInput lib order snapshot _ _ _
  have hnormal : input.fills.map normalizeFillFeeProvenance = input.fills :=
    map_normalize_buildFillRecords order snapshot fillIds
  have hcurrent : ¬ order ≠ input.expectedOrder := not_not.mpr rfl
  unfold persistReconciledExchangeSnapshot at h
  simp only [hnormal, hid, hstored, hcurrent, if_false] at h
  rw [then_eq_ok, bind_eq_ok] at h
  obtain ⟨hvalid, existing, -, h⟩ := h
  obtain ⟨resolutions, hresolve, -⟩ := bind_eq_ok.mp h
  exact ⟨hvalid, isOk_mapM.mp (isOk_iff_exists.mpr ⟨resolutions, hresolve⟩)⟩

/-- The order `order` is stored as `order`, and the ids of the event and of the rows of the fills are
new. -/
structure Reconciles (db : Database) (order : OrderRecord) (snapshot : ExchangeOrderSnapshot)
    (eventId : String) (fillIds : List String) : Prop where
  stored : getOrderById db order.id = some order
  orders : OrderKeys db
  fills : FillIdentities db
  event : getOrderEventById db eventId = none
  length : fillIds.length = snapshot.fills.length
  nodup : fillIds.Nodup
  fresh : ∀ id ∈ fillIds, ∀ row ∈ db.fills, row.id ≠ id

/-- What the fills of a snapshot must be like to be persisted, over what recorded them first. -/
structure Replayable (order : OrderRecord) (snapshot : ExchangeOrderSnapshot)
    (first : ExchangeFillSnapshot → Option FirstWriter) : Prop where
  wellFormed : ∀ fill ∈ snapshot.fills, isWellFormedFill order fill = true
  distinct : (snapshot.fills.map (resolveExchangeFillId order)).Nodup
  agrees : ∀ fill ∈ snapshot.fills, ∀ writer, first fill = some writer →
    Agrees writer fill snapshot.paidFee

theorem isOk_persist_iff {first : ExchangeFillSnapshot → Option FirstWriter}
    (h : Reconciles db order snapshot eventId fillIds)
    (hfirst : ∀ fill ∈ snapshot.fills, FirstRecorded db order (first fill) fill) :
    (persistReconciledExchangeSnapshot db
        (reconciledInput lib order snapshot reconciledAt eventId fillIds)).isOk = true ↔
      Replayable order snapshot first := by
  have hresolved : (∀ record ∈ buildFillRecords order snapshot fillIds,
      (resolveFill db record).isOk = true) ↔
      ∀ fill ∈ snapshot.fills, ∀ writer, first fill = some writer →
        Agrees writer fill snapshot.paidFee :=
    forall_mem_buildFillRecords h.length fun id hid fill hfill =>
      isOk_resolveFill h.fills (h.fresh id hid) (hfirst fill hfill)
  have hvalid : validateReconciledExchangeSnapshotInput
      (reconciledInput lib order snapshot reconciledAt eventId fillIds) = .ok () ↔ _ :=
    validateReconciledExchangeSnapshotInput_reconciledInput h.length h.nodup
  rw [isOk_iff_exists]
  constructor
  · rintro ⟨result, hresult⟩
    obtain ⟨hok, hall⟩ := resolved_of_persist h.stored hresult
    obtain ⟨hwellFormed, hdistinct⟩ := hvalid.mp hok
    exact ⟨hwellFormed, hdistinct, hresolved.mp hall⟩
  · rintro ⟨hwellFormed, hdistinct, hagrees⟩
    exact persist_of_resolved h.stored h.orders h.event h.length h.nodup
      (hvalid.mpr ⟨hwellFormed, hdistinct⟩) hdistinct (hresolved.mpr hagrees)

/-- A fill that was recorded before is kept, and its snapshot persisted, exactly when the fills of
the snapshot are well formed and distinct and agree with their first rows. -/
theorem replays_iff {first : ExchangeFillSnapshot → Option FirstWriter}
    (h : Reconciles db order snapshot eventId fillIds)
    (hfirst : ∀ fill ∈ snapshot.fills, FirstRecorded db order (first fill) fill)
    {fill : ExchangeFillSnapshot} (hfill : fill ∈ snapshot.fills) {writer : FirstWriter}
    (hwriter : first fill = some writer) :
    ((∀ id, (∀ row ∈ db.fills, row.id ≠ id) →
        resolveFill db (buildFillRecord order id fill snapshot.paidFee) = .ok .preserve) ∧
      (persistReconciledExchangeSnapshot db
        (reconciledInput lib order snapshot reconciledAt eventId fillIds)).isOk = true) ↔
      Replayable order snapshot first := by
  rw [isOk_persist_iff h hfirst]
  refine and_iff_right_of_imp fun hreplayable id hfresh => ?_
  have hrecorded := hfirst fill hfill
  rw [hwriter] at hrecorded
  exact (resolveFill_first h.fills hfresh hrecorded).1
    (hreplayable.agrees fill hfill writer hwriter)

end Persist

/-! ### A sale -/

/-- The fill of a sale of one bitcoin, with this fee. -/
def soldFill (fee : Option String) : ExchangeFillSnapshot where
  tradeUuid := some "trade"
  side := .ask
  price := "100000000"
  volume := "1"
  fee := fee
  createdAt := some "2026-01-01T00:00:00Z"
  raw := "null"
  funds := none

/-- The response to the sale, and every later look at its order. -/
def soldSnapshot (fee : Option String) : ExchangeOrderSnapshot where
  uuid := "uuid"
  identifier := some "identifier"
  market := .krwBtc
  side := .ask
  ordType := .market
  state := "done"
  price := none
  volume := some "1"
  timeInForce := none
  smpType := none
  remainingVolume := some "0"
  executedVolume := some "1"
  paidFee := some "50000"
  createdAt := "2026-01-01T00:00:00Z"
  fills := [soldFill fee]
  raw := "null"

def sellOrder (status : OrderLifecycleStatus) : OrderRecord where
  id := "order"
  strategyDecisionId := some "decision"
  exchangeAccountId := "acct"
  market := .krwBtc
  side := .ask
  ordType := .market
  volume := some "1"
  price := none
  timeInForce := none
  smpType := none
  identifier := "identifier"
  idempotencyKey := "key"
  origin := .strategy
  requestedAt := "2026-01-01T00:00:00.000Z"
  upbitUuid := if status = .filled then some "uuid" else none
  status
  executionMode := .live
  exchangeResponseJson := if status = .filled then some "null" else none
  failureCode := none
  failureMessage := none
  createdAt := "2026-01-01T00:00:00.000Z"
  updatedAt := "2026-01-01T00:00:00.000Z"

/-- The rows that the submission writes for the response. -/
def soldSubmission (fee : Option String) : PersistExchangeSubmissionInput where
  order := sellOrder .filled
  event := ⟨"submitted", "order", "ORDER_SUBMITTED", .exchange, "null", "2026-01-01T00:00:00.000Z"⟩
  fills := [firstRecord .submission (sellOrder .filled) "first" (soldFill fee)]
  terminalEvent := some
    ⟨"filled", "order", "ORDER_FILLED", .exchange, "null", "2026-01-01T00:00:00.000Z"⟩

/-- The database after the submission. -/
def sold (fee : Option String) : Except String Database :=
  persistExchangeSubmission { orders := [sellOrder .submitting] } (soldSubmission fee)

def plainLibrary : Library where
  positive text := text ≠ "0"
  jsonStringField _ _ := none
  createFingerprint text := text
  localeLe a b := a ≤ b
  dateParse _ := none

/-- The order is stored as it is reconciled, the fill is kept, and its snapshot is persisted. -/
def soldAgain (fee : Option String) (db : Database) : Bool × Bool × Bool :=
  (getOrderById db "order" = some (sellOrder .filled),
    (resolveFill db (buildFillRecord (sellOrder .filled) "second" (soldFill fee)
      (soldSnapshot fee).paidFee)).isOk,
    (persistReconciledExchangeSnapshot db (reconciledInput plainLibrary (sellOrder .filled)
      (soldSnapshot fee) "2026-01-02T00:00:00.000Z" "event" ["second"])).isOk)

/-- The exchange states the fee of the order but not of the fill. -/
theorem soldAgain_conflict : (sold none).map (soldAgain none) = .ok (true, false, false) := by
  decide +kernel

/-- The fee of the fill is stated: the row of the submission is kept. -/
theorem soldAgain_kept : ∃ db, sold (some "50000") = .ok db ∧
    (((∀ id, (∀ row ∈ db.fills, row.id ≠ id) →
        resolveFill db (buildFillRecord (sellOrder .filled) id (soldFill (some "50000"))
          (soldSnapshot (some "50000")).paidFee) = .ok .preserve) ∧
      (persistReconciledExchangeSnapshot db (reconciledInput plainLibrary (sellOrder .filled)
        (soldSnapshot (some "50000")) "2026-01-02T00:00:00.000Z" "event" ["second"])).isOk = true) ↔
      Replayable (sellOrder .filled) (soldSnapshot (some "50000")) fun _ => some .submission) := by
  have hsold : sold (some "50000") = .ok
      { orders := [sellOrder .filled]
        orderEvents := [(soldSubmission (some "50000")).event,
          ⟨"filled", "order", "ORDER_FILLED", .exchange, "null", "2026-01-01T00:00:00.000Z"⟩]
        fills := (soldSubmission (some "50000")).fills } := by decide +kernel
  refine ⟨_, hsold, replays_iff ⟨by decide +kernel, ?_, ?_, by decide +kernel, by decide, by decide,
    by decide +kernel⟩ ?_ (List.mem_singleton.mpr rfl) rfl⟩
  · unfold OrderKeys
    decide +kernel
  · unfold FillIdentities
    decide +kernel
  · intro fill hfill
    obtain rfl := List.mem_singleton.mp hfill
    exact ⟨fun _ => by decide +kernel, _, List.mem_singleton.mpr rfl, rfl⟩

end AutoTrade.Reconciliation.FillReplay
