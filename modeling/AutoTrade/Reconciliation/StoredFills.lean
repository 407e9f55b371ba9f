import AutoTrade.Reconciliation.FillReplay

/-! # The fills that are stored

The two writers of fills take over what the exchange said (`Takes`). After a submission or a
reconciled snapshot was persisted the rows of the order are those of its fills, whatever their ids
(`records_of_stores`). -/

namespace AutoTrade.Reconciliation.StoredFills

open Lib Lib.Result Domain.Types
open Db.Tables Db.LifecycleValidation Db.OrderStore
open Db.ReconciliationStore Reconciliation.Snapshots
open Reconciliation.FillReplay

/-! ### What the writers store -/

/-- The row without its id, which the exchange does not give. -/
def material (row : FillRecord) : FillRecord := { row with id := "" }

/-- The rows of the order. -/
def rowsOf (db : Database) (orderId : String) : List FillRecord :=
  db.fills.filter fun row => row.orderId = orderId

variable {db : Database}

theorem mem_rowsOf {orderId : String} {row : FillRecord} :
    row ∈ rowsOf db orderId ↔ row ∈ db.fills ∧ row.orderId = orderId := by
  simp [rowsOf]

theorem exchangeFillIds_rowsOf (h : FillIdentities db) (orderId : String) :
    ((rowsOf db orderId).map FillRecord.exchangeFillId).Nodup := by
  have hsub : ((rowsOf db orderId).map fun row => (row.orderId, row.exchangeFillId)).Nodup :=
    (List.filter_sublist.map _).nodup h
  have hpair : (rowsOf db orderId).map (fun row => (row.orderId, row.exchangeFillId)) =
      ((rowsOf db orderId).map FillRecord.exchangeFillId).map fun id => (orderId, id) := by
    rw [List.map_map]
    refine List.map_congr_left fun row hrow => ?_
    simp [(mem_rowsOf.mp hrow).2]
  rw [hpair] at hsub
  exact hsub.of_map _

theorem eq_of_exchangeFillId {orderId : String} (h : FillIdentities db) {a b : FillRecord}
    (ha : a ∈ rowsOf db orderId) (hb : b ∈ rowsOf db orderId)
    (hid : a.exchangeFillId = b.exchangeFillId) : a = b :=
  List.inj_on_of_nodup_map (exchangeFillIds_rowsOf h orderId) ha hb hid

variable {db db' : Database} {fills : List FillRecord}

theorem insertFills_eq_ok (h : fills.foldlM insertFill db = .ok db') :
    db'.fills = db.fills ++ fills ∧ (FillIdentities db → FillIdentities db') := by
  induction fills generalizing db with
  | nil =>
    obtain rfl := Except.ok.inj h
    exact ⟨by simp, id⟩
  | cons fill rest ih =>
    rw [List.foldlM_cons, bind_eq_ok] at h
    obtain ⟨next, hinsert, hrest⟩ := h
    obtain ⟨hfills, hkeys⟩ := ih hrest
    have hnext : next.fills = db.fills ++ [fill] := by
      unfold insertFill at hinsert
      rw [guard_eq_ok, guard_eq_ok] at hinsert
      rw [← Except.ok.inj hinsert.2.2]
    refine ⟨by rw [hfills, hnext, List.append_assoc, List.singleton_append], fun hdb => ?_⟩
    exact hkeys (FillIdentities.insertFill hdb hinsert)

/-- A fill that is kept is stored in everything but its id. -/
theorem stored_of_preserve {db : Database} {fill : FillRecord}
    (h : resolveFill db fill = .ok .preserve) : ∃ row ∈ db.fills, material row = material fill := by
  unfold resolveFill at h
  obtain ⟨existing, hget, hresolve⟩ := bind_eq_ok.mp h
  cases existing with
  | none => cases hresolve
  | some row =>
    unfold resolveImmutableFillReplay at hresolve
    rw [guard_eq_ok, guard_eq_ok] at hresolve
    obtain ⟨-, hsame, -⟩ := hresolve
    refine ⟨row, ?_, ?_⟩
    · have hmem : row ∈ db.fills.filter (fun r => r.id = fill.id) ++ db.fills.filter (fun r =>
          r.id ≠ fill.id ∧ r.orderId = fill.orderId ∧ r.exchangeFillId = fill.exchangeFillId) := by
        unfold getFillByIdentity at hget
        dsimp only at hget
        split at hget
        · cases hget
        · rename_i r hrows
          obtain rfl := Option.some.inj (Except.ok.inj hget)
          rw [hrows]
          exact List.mem_singleton_self _
        · rename_i r other rest hrows
          rw [guard_eq_ok] at hget
          obtain rfl := Option.some.inj (Except.ok.inj hget.2)
          rw [hrows]
          exact List.mem_cons_self
      rcases List.mem_append.mp hmem with hid | hidentity
      · exact List.mem_of_mem_filter hid
      · exact List.mem_of_mem_filter hidentity
    · rw [← not_not.mp hsame]
      rfl

/-- The rows of the order are these records under whatever ids. -/
def Holds (db : Database) (orderId : String) (records : List FillRecord) : Prop :=
  ((rowsOf db orderId).map material).Perm (records.map material)

variable {order : OrderRecord}

theorem fills_upsertOrder (h : upsertOrder db order = .ok db') : db'.fills = db.fills := by
  rw [(upsertOrder_eq_ok.mp h).2]

theorem fills_insertOrderEvent {event : OrderEventRecord}
    (h : insertOrderEvent db event = .ok db') : db'.fills = db.fills := by
  rw [(insertOrderEvent_eq_ok.mp h).2]

theorem fills_insertTerminalEvent {event : Option OrderEventRecord}
    (h : insertTerminalEvent db event = .ok db') : db'.fills = db.fills := by
  cases event with
  | none => rw [← Except.ok.inj h]
  | some event => exact fills_insertOrderEvent h

theorem fills_insertNewEvent {event existing : Option OrderEventRecord}
    (h : insertNewEvent db event existing = .ok db') : db'.fills = db.fills := by
  cases event with
  | none => rw [← Except.ok.inj h]
  | some event =>
    cases existing with
    | none => exact fills_insertOrderEvent h
    | some existing => rw [← Except.ok.inj h]

theorem orderId_of_validateFills {ids identities : List String}
    (h : validateFills order ids identities fills = .ok ()) :
    ∀ fill ∈ fills, fill.orderId = order.id := by
  induction fills generalizing ids identities with
  | nil => simp
  | cons fill rest ih =>
    rw [validateFills, guard_eq_ok] at h
    rw [List.forall_mem_cons]
    refine ⟨?_, ih h.2⟩
    by_contra hne
    exact h.1 (Or.inl hne)

theorem getFillsForOrder_perm (db : Database) (orderId : String) :
    (getFillsForOrder db orderId).Perm (rowsOf db orderId) := List.perm_insertionSort _ _

/-- A submission that is stored leaves exactly its fills. -/
theorem holds_of_submission {input : PersistExchangeSubmissionInput} (hkeys : FillIdentities db)
    (h : persistExchangeSubmission db input = .ok db') :
    Holds db' input.order.id (input.fills.map normalizeFillFeeProvenance) ∧ FillIdentities db' := by
  set fills := input.fills.map normalizeFillFeeProvenance with hfills
  unfold persistExchangeSubmission at h
  dsimp only at h
  obtain ⟨hvalid, h⟩ := then_eq_ok.mp h
  have hids : ∀ fill ∈ fills, fill.orderId = input.order.id := by
    unfold validateExchangeSubmissionInput at hvalid
    rw [guard_eq_ok, then_eq_ok, then_eq_ok, then_eq_ok] at hvalid
    exact orderId_of_validateFills hvalid.2.2.2.2
  cases hexisting : getOrderById db input.order.id with
  | none =>
    simp only [hexisting] at h
    cases h
  | some existing =>
    simp only [hexisting] at h
    rw [then_eq_ok, then_eq_ok, bind_eq_ok] at h
    obtain ⟨-, -, completion, hcompletion, h⟩ := h
    unfold validateExchangeSubmissionCompletion at hcompletion
    obtain ⟨-, hcompletion⟩ := then_eq_ok.mp hcompletion
    dsimp only at hcompletion
    cases completion with
    | retry =>
      obtain rfl := Except.ok.inj h
      refine ⟨?_, hkeys⟩
      have hset : fillsEqualSet (getFillsForOrder db input.order.id) fills = true := by
        split at hcompletion
        · split at hcompletion <;> cases hcompletion
        · split at hcompletion
          · rename_i hsame
            exact hsame.2.2.2
          · cases hcompletion
      simp only [fillsEqualSet, decide_eq_true_eq, List.all_eq_true] at hset
      obtain ⟨hlength, -, hall⟩ := hset
      have hperm := getFillsForOrder_perm db input.order.id
      have hnodup : (getFillsForOrder db input.order.id).Nodup :=
        hperm.nodup_iff.mpr ((exchangeFillIds_rowsOf hkeys _).of_map _)
      have hsub : getFillsForOrder db input.order.id ⊆ fills := fun fill hfill =>
        List.mem_of_find?_eq_some (hall fill hfill)
      have hsame := (List.subperm_of_subset hnodup hsub).perm_of_length_le hlength.ge
      exact ((hperm.symm.trans hsame)).map material
    | apply =>
      have hempty : getFillsForOrder db input.order.id = [] := by
        split at hcompletion
        · split at hcompletion
          · rename_i hnone
            exact hnone.2.2
          · cases hcompletion
        · split at hcompletion <;> cases hcompletion
      dsimp only at h
      obtain ⟨written, hwrite, h⟩ := bind_eq_ok.mp h
      obtain ⟨recorded, hrecord, h⟩ := bind_eq_ok.mp h
      obtain ⟨terminal, hterminal, hinsert⟩ := bind_eq_ok.mp h
      have hsame : terminal.fills = db.fills := by
        rw [fills_insertTerminalEvent hterminal, fills_insertOrderEvent hrecord,
          fills_upsertOrder hwrite]
      obtain ⟨hrows, hkept⟩ := insertFills_eq_ok hinsert
      refine ⟨?_, hkept (by unfold FillIdentities; rw [hsame]; exact hkeys)⟩
      have hold : rowsOf db input.order.id = [] := by
        have hperm := getFillsForOrder_perm db input.order.id
        rw [hempty] at hperm
        exact hperm.nil_eq.symm
      have hnew : rowsOf db' input.order.id = fills := by
        have hsplit : rowsOf db' input.order.id = rowsOf db input.order.id ++
            fills.filter fun fill => fill.orderId = input.order.id := by
          unfold rowsOf
          rw [hrows, hsame, List.filter_append]
        rw [hsplit, hold, List.nil_append, List.filter_eq_self]
        exact fun fill hfill => by simpa using hids fill hfill
      unfold Holds
      rw [hnew]

/-- A reconciled snapshot that is stored leaves exactly its fills, where the order has no others. -/
theorem holds_of_reconciliation {input : PersistReconciledExchangeSnapshotInput}
    {result : PersistReconciledExchangeSnapshotResult} (hkeys : FillIdentities db)
    (hnormal : input.fills.map normalizeFillFeeProvenance = input.fills)
    (h : persistReconciledExchangeSnapshot db input = .ok (result, db'))
    (hstored : result.outcome ≠ .conflict)
    (honly : ∀ row ∈ rowsOf db' input.order.id, ∃ record ∈ input.fills,
      row.exchangeFillId = record.exchangeFillId) :
    Holds db' input.order.id input.fills ∧ FillIdentities db' := by
  unfold persistReconciledExchangeSnapshot at h
  simp only [hnormal] at h
  obtain ⟨hvalid, h⟩ := then_eq_ok.mp h
  have hfills : validateReconciledFills input.order [] [] input.fills = .ok () := by
    unfold validateReconciledExchangeSnapshotInput at hvalid
    rw [then_eq_ok, then_eq_ok] at hvalid
    cases hevent : input.event
    all_goals
      simp only [hevent, then_eq_ok] at hvalid
      exact hvalid.2.2.2
  obtain ⟨hrecords, -, -, hidentities, -⟩ := validateReconciledFills_eq_ok.mp hfills
  have horder : ∀ record ∈ input.fills, record.orderId = input.order.id := by
    intro record hrecord
    have hrecord := hrecords record hrecord
    unfold validateFillForOrder at hrecord
    rw [guard_eq_ok] at hrecord
    by_contra hne
    exact hrecord.1 (Or.inl hne)
  have hdistinct : (input.fills.map FillRecord.exchangeFillId).Nodup :=
    (nodup_fillExchangeIdentity horder).mp hidentities
  cases hexisting : getOrderById db input.order.id with
  | none =>
    simp only [hexisting] at h
    cases h
  | some current =>
    simp only [hexisting] at h
    split at h
    · -- another order is stored: nothing was written
      exact absurd (congrArg PersistReconciledExchangeSnapshotResult.outcome
        (Prod.mk.inj (Except.ok.inj h)).1).symm hstored
    obtain ⟨existingEvent, -, h⟩ := bind_eq_ok.mp h
    obtain ⟨resolutions, hresolve, h⟩ := bind_eq_ok.mp h
    obtain ⟨written, hwrite, h⟩ := bind_eq_ok.mp h
    obtain ⟨recorded, hrecord, h⟩ := bind_eq_ok.mp h
    obtain ⟨filled, hinsert, h⟩ := bind_eq_ok.mp h
    obtain ⟨-, rfl⟩ := Prod.mk.inj (Except.ok.inj h)
    have hsame : recorded.fills = db.fills := by
      rw [fills_insertNewEvent hrecord, fills_upsertOrder hwrite]
    obtain ⟨hrows, hkept⟩ := insertFills_eq_ok hinsert
    have hkeys' : FillIdentities filled := hkept (by unfold FillIdentities; rw [hsame]; exact hkeys)
    refine ⟨?_, hkeys'⟩
    -- a record is inserted, or it is a row that was stored before
    have hthere : ∀ record ∈ input.fills, ∃ row ∈ rowsOf filled input.order.id,
        material row = material record := by
      intro record hrecord
      rw [← map_fst_zip_mapM hresolve] at hrecord
      obtain ⟨⟨_, resolution⟩, hzip, rfl⟩ := List.mem_map.mp hrecord
      have hresolved := eq_ok_of_mem_zip_mapM hresolve hzip
      have hid := horder _ (List.of_mem_zip hzip).1
      cases resolution with
      | insert =>
        refine ⟨_, mem_rowsOf.mpr ⟨?_, hid⟩, rfl⟩
        rw [hrows]
        exact List.mem_append_right _ (List.mem_map.mpr
          ⟨_, List.mem_filter.mpr ⟨hzip, by simp⟩, rfl⟩)
      | preserve =>
        obtain ⟨row, hrow, hmaterial⟩ := stored_of_preserve hresolved
        refine ⟨row, mem_rowsOf.mpr ⟨?_, ?_⟩, hmaterial⟩
        · rw [hrows, hsame]
          exact List.mem_append_left _ hrow
        · exact (congrArg FillRecord.orderId hmaterial).trans hid
    have hleft : ((rowsOf filled input.order.id).map material).Nodup := by
      have hids := exchangeFillIds_rowsOf hkeys' input.order.id
      refine List.Nodup.of_map FillRecord.exchangeFillId ?_
      rw [List.map_map]
      exact hids
    have hright : (input.fills.map material).Nodup := by
      refine List.Nodup.of_map FillRecord.exchangeFillId ?_
      rw [List.map_map]
      exact hdistinct
    refine (List.perm_ext_iff_of_nodup hleft hright).mpr fun m => ?_
    simp only [List.mem_map]
    constructor
    · rintro ⟨row, hrow, rfl⟩
      obtain ⟨record, hrecord, hid⟩ := honly row hrow
      obtain ⟨row', hrow', hmaterial⟩ := hthere record hrecord
      have hid' : row'.exchangeFillId = row.exchangeFillId := by
        have hsameId := congrArg FillRecord.exchangeFillId hmaterial
        rw [hid]
        exact hsameId
      rw [← eq_of_exchangeFillId hkeys' hrow' hrow hid']
      exact ⟨record, hrecord, hmaterial.symm⟩
    · rintro ⟨record, hrecord, rfl⟩
      exact hthere record hrecord

/-! ### Rows and fills -/

/-- The row says of the fill what the exchange said. -/
structure Takes (order : OrderRecord) (row : FillRecord) (fill : ExchangeFillSnapshot) : Prop where
  orderId : row.orderId = order.id
  market : row.market = order.market
  side : row.side = fill.side
  price : row.price = fill.price
  volume : row.volume = fill.volume
  currency : row.feeCurrency = some "KRW"
  fee : row.feeAmount = fill.fee
  feeProvenance : fill.fee ≠ none → row.feeProvenance = some .exchangeFillConfirmed
  epoch : row.executionEpochNs = fill.createdAt.bind tryParseEpochNanoseconds
  timeProvenance : (fill.createdAt.bind tryParseEpochNanoseconds).isSome = true →
    row.executionTimestampProvenance = some .exchangeFillConfirmed
  filledAt : row.filledAt = fill.createdAt.getD ""

/-- The rows of a submission: each has an id and an exchange fill id, which is the trade id or one that
is created. -/
def submittedRows (order : OrderRecord) (ids : List (String × String))
    (fills : List ExchangeFillSnapshot) : List FillRecord :=
  (ids.zip fills).map fun (id, fill) =>
    submittedFillRecord order.market order.id id.1 id.2 fill.toExchangeFillSnapshot

theorem takes_submitted (order : OrderRecord) (ids : String × String) (fill : ExchangeFillSnapshot) :
    Takes order (normalizeFillFeeProvenance (submittedFillRecord order.market order.id ids.1 ids.2
      fill.toExchangeFillSnapshot)) fill where
  orderId := rfl
  market := rfl
  side := rfl
  price := rfl
  volume := rfl
  currency := rfl
  fee := rfl
  feeProvenance hfee := by simp [normalizeFillFeeProvenance, submittedFillRecord, hfee]
  epoch := rfl
  timeProvenance htime := by simp [normalizeFillFeeProvenance, submittedFillRecord, htime]
  filledAt := rfl

theorem takes_build (order : OrderRecord) (id : String) (fill : ExchangeFillSnapshot)
    (paidFee : Option String) : Takes order (buildFillRecord order id fill paidFee) fill where
  orderId := rfl
  market := rfl
  side := rfl
  price := rfl
  volume := rfl
  currency := rfl
  fee := rfl
  feeProvenance hfee := by simp [buildFillRecord, hfee]
  epoch := rfl
  timeProvenance htime := by
    cases hc : fill.createdAt with
    | none => simp [hc] at htime
    | some createdAt => simp [buildFillRecord, hc]
  filledAt := rfl

theorem forall₂_zip_map {α β γ : Type} {r : γ → β → Prop} {f : α × β → γ}
    (h : ∀ a b, r (f (a, b)) b) {ids : List α} {l : List β} (hlength : ids.length = l.length) :
    List.Forall₂ r ((ids.zip l).map f) l := by
  induction ids generalizing l with
  | nil =>
    cases l with
    | nil => exact List.Forall₂.nil
    | cons b l => cases hlength
  | cons a ids ih =>
    cases l with
    | nil => cases hlength
    | cons b l => exact List.Forall₂.cons (h a b) (ih (Nat.succ.inj hlength))

/-- One of the two writers stored the order as filled, and of its rows only those of the fills. -/
inductive Stores (db : Database) (order : OrderRecord) (fills : List ExchangeFillSnapshot)
    (db' : Database) : Prop
  | submission (input : PersistExchangeSubmissionInput) (ids : List (String × String))
      (filled : order.status = .filled) (stored : input.order = order)
      (length : ids.length = fills.length) (rows : input.fills = submittedRows order ids fills)
      (persisted : persistExchangeSubmission db input = .ok db')
  | reconciliation (input : PersistReconciledExchangeSnapshotInput)
      (snapshot : ExchangeOrderSnapshot) (ids : List String)
      (result : PersistReconciledExchangeSnapshotResult) (filled : order.status = .filled)
      (stored : input.order = order) (snapshotFills : snapshot.fills = fills)
      (length : ids.length = fills.length)
      (rows : input.fills = buildFillRecords input.expectedOrder snapshot ids)
      (persisted : persistReconciledExchangeSnapshot db input = .ok (result, db'))
      (outcome : result.outcome ≠ .conflict)
      (only : ∀ row ∈ rowsOf db' order.id, ∃ record ∈ input.fills,
        row.exchangeFillId = record.exchangeFillId)

theorem takes_of_sameIdentity {a b : OrderRecord} (h : SameIdentity a b) {row : FillRecord}
    {fill : ExchangeFillSnapshot} (ht : Takes a row fill) : Takes b row fill :=
  { ht with orderId := ht.orderId.trans h.id, market := ht.market.trans h.market }

/-- The rows of the stored order take over its fills, and the order is the one that was there. -/
theorem records_of_stores {current order : OrderRecord} {fills : List ExchangeFillSnapshot}
    (hkeys : FillIdentities db) (hcurrent : getOrderById db order.id = some current)
    (h : Stores db order fills db') :
    SameIdentity current order ∧ ∃ records, List.Forall₂ (Takes order) records fills ∧
      Holds db' order.id records := by
  cases h with
  | submission input ids filled stored length rows persisted =>
    subst stored
    refine ⟨?_, _, ?_, (holds_of_submission hkeys persisted).1⟩
    · unfold persistExchangeSubmission at persisted
      simp only [hcurrent] at persisted
      rw [then_eq_ok, then_eq_ok, then_eq_ok, bind_eq_ok] at persisted
      obtain ⟨-, -, -, completion, hcompletion, -⟩ := persisted
      unfold validateExchangeSubmissionCompletion at hcompletion
      rw [then_eq_ok] at hcompletion
      exact sameIdentity_of_validate hcompletion.1
    · rw [rows]
      unfold submittedRows
      rw [List.map_map]
      exact forall₂_zip_map (fun id fill => takes_submitted input.order id fill) length
  | reconciliation input snapshot ids result filled stored snapshotFills length rows persisted outcome
      only =>
    subst stored snapshotFills
    have hnormal : input.fills.map normalizeFillFeeProvenance = input.fills := by
      rw [rows]
      exact map_normalize_buildFillRecords _ _ _
    have hheld := (holds_of_reconciliation hkeys hnormal persisted outcome only).1
    have hidentity : SameIdentity input.expectedOrder input.order ∧ input.expectedOrder = current := by
      unfold persistReconciledExchangeSnapshot at persisted
      simp only [hnormal, hcurrent] at persisted
      obtain ⟨hvalid, hpersist⟩ := then_eq_ok.mp persisted
      unfold validateReconciledExchangeSnapshotInput at hvalid
      rw [then_eq_ok] at hvalid
      refine ⟨sameIdentity_of_validate hvalid.1, ?_⟩
      by_contra hne
      rw [if_pos (Ne.symm hne)] at hpersist
      exact outcome (congrArg PersistReconciledExchangeSnapshotResult.outcome
        (Prod.mk.inj (Except.ok.inj hpersist)).1).symm
    obtain ⟨hsame, rfl⟩ := hidentity
    refine ⟨hsame, _, ?_, hheld⟩
    rw [rows]
    unfold buildFillRecords
    exact forall₂_zip_map (fun id fill => takes_of_sameIdentity hsame (takes_build input.expectedOrder id fill _)) length

section Held

variable {db : Database} {orderId : String} {records : List FillRecord}

theorem forall_rows_iff (h : Holds db orderId records) {p : FillRecord → Prop}
    (hp : ∀ row, p (material row) ↔ p row) :
    (∀ row ∈ rowsOf db orderId, p row) ↔ ∀ record ∈ records, p record := by
  have hmap : ∀ l : List FillRecord, (∀ row ∈ l, p row) ↔ ∀ m ∈ l.map material, p m := by
    intro l
    rw [List.forall_mem_map]
    exact forall₂_congr fun row _ => (hp row).symm
  rw [hmap (rowsOf db orderId), hmap records]
  exact forall_congr' fun m => by rw [h.mem_iff]

theorem rows_ne_nil_iff (h : Holds db orderId records) : rowsOf db orderId ≠ [] ↔ records ≠ [] := by
  have hlength := h.length_eq
  rw [List.length_map, List.length_map] at hlength
  rw [← List.length_pos_iff, ← List.length_pos_iff, hlength]

end Held

theorem listFills_perm (db : Database) (orderId : String) :
    (listFills db orderId).Perm (rowsOf db orderId) := List.perm_insertionSort _ _

end AutoTrade.Reconciliation.StoredFills
