import AutoTrade.Reconciliation.FillReplay
import AutoTrade.Operator.FaultWriters

/-! # Runs of writes to the order tables

Every write the execution repository offers on orders, their events, fills, risk events and recovery
observations, as one step of a run, in any order and with any arguments; a write that throws is
rolled back. Along every run the unique keys of the orders hold and the row of an id stays; order
events, fills and observations are only added. -/

namespace AutoTrade.Reconciliation.OrderWrites

open Lib Lib.Result Lib.Run Domain.Types
open Db.Tables Db.LifecycleValidation Db.OrderStore
open Db.ReconciliationStore Operator.FaultWriters
open Reconciliation.FillReplay (OrderKeys FillIdentities)

/-! ### The writes -/

inductive OrderWrite
  | saveOrder (record : OrderRecord)
  | persistOrderIntent (input : PersistOrderIntentInput)
  | persistCandidateBoundOrderIntent (authority : Except String Unit)
    (input : PersistCandidateBoundOrderIntentRequest)
  | persistExchangeSubmission (input : PersistExchangeSubmissionInput)
  | persistUncertainSubmission (input : PersistUncertainSubmissionInput)
  | persistReconciledExchangeSnapshot (input : PersistReconciledExchangeSnapshotInput)
  | persistReconciliationRecovery (input : PersistReconciliationRecoveryInput)
  | finalizeBoundedSubmissionAbsence (input : FinalizeBoundedSubmissionAbsenceInput)
  | persistCandidateProjectionFault (input : PersistCandidateProjectionFaultInput)
  | appendOrderEvent (record : OrderEventRecord)
  | saveFill (record : FillRecord)
  | saveRiskEvent (record : RiskEventRecord)
  | saveOrderSubmissionRecoveryObservation (record : OrderSubmissionRecoveryObservationRecord)
  /-- The other tables change. -/
  | elsewhere (db : Database)

def OrderWrite.Result : OrderWrite → Type
  | .persistReconciledExchangeSnapshot _ => PersistReconciledExchangeSnapshotResult
  | .persistReconciliationRecovery _ => PersistenceOutcome
  | .finalizeBoundedSubmissionAbsence _ => Bool
  | .persistCandidateProjectionFault _ => ProjectionFaultOutcome
  | _ => Unit

/-- A write without a result. -/
def unit (result : Except String Database) : Except String (Unit × Database) :=
  result.map fun db => ((), db)

/-- `saveOrder` and `updateOrder` are one statement. -/
def perform (db : Database) : (w : OrderWrite) → Except String (w.Result × Database)
  | .saveOrder record => unit (upsertOrder db record)
  | .persistOrderIntent input => unit (persistOrderIntent db input)
  | .persistCandidateBoundOrderIntent authority input =>
    unit (persistCandidateBoundOrderIntent db authority input)
  | .persistExchangeSubmission input => unit (persistExchangeSubmission db input)
  | .persistUncertainSubmission input => unit (persistUncertainSubmission db input)
  | .persistReconciledExchangeSnapshot input => persistReconciledExchangeSnapshot db input
  | .persistReconciliationRecovery input => persistReconciliationRecovery db input
  | .finalizeBoundedSubmissionAbsence input => finalizeBoundedSubmissionAbsence db input
  | .persistCandidateProjectionFault input => persistCandidateProjectionFault db input
  | .appendOrderEvent record => unit (insertOrderEvent db record)
  | .saveFill record => unit (saveFill db record)
  | .saveRiskEvent record => .ok ((), upsertRiskEvent db record)
  | .saveOrderSubmissionRecoveryObservation record =>
    .ok ((), saveOrderSubmissionRecoveryObservation db record)
  | .elsewhere other =>
    .ok ((), { other with
      orders := db.orders
      orderEvents := db.orderEvents
      fills := db.fills
      riskEvents := db.riskEvents
      recoveryObservations := db.recoveryObservations })

def write (db : Database) (w : OrderWrite) : Database :=
  match perform db w with
  | .ok (_, db') => db'
  | .error _ => db

/-! ### What a write does to the orders -/

/-- A write leaves the orders, puts one in that respects the unique keys, or changes other columns. -/
inductive WritesOrders (db db' : Database) : Prop
  | same (h : db'.orders = db.orders)
  | put (record : OrderRecord) (hfree : orderConflict db record = none)
    (h : db'.orders = Table.upsert OrderRecord.id record db.orders)
  | changed (p : OrderRecord → Bool) (f : OrderRecord → OrderRecord)
    (hf : ∀ row, (f row).id = row.id ∧ (f row).identifier = row.identifier ∧
      (f row).exchangeAccountId = row.exchangeAccountId ∧
      (f row).idempotencyKey = row.idempotencyKey)
    (h : db'.orders = Table.update p f db.orders)

theorem WritesOrders.child {db db' db'' : Database} (h : WritesOrders db db')
    (horders : db''.orders = db'.orders) : WritesOrders db db'' := by
  rcases h with h | ⟨record, hfree, h⟩ | ⟨p, f, hf, h⟩
  · exact .same (horders.trans h)
  · exact .put record hfree (horders.trans h)
  · exact .changed p f hf (horders.trans h)

variable {record : OrderRecord}

theorem orderConflict_eq_none {db : Database} :
    orderConflict db record = none ↔ ∀ row ∈ db.orders, row.id ≠ record.id →
      row.identifier ≠ record.identifier ∧
        ¬ (row.exchangeAccountId = record.exchangeAccountId ∧
          row.idempotencyKey = record.idempotencyKey) := by
  unfold orderConflict
  constructor
  · intro h row hrow hid
    split_ifs at h with hident hkey
    refine ⟨fun heq => hident ?_, fun heq => hkey ?_⟩
    · exact List.any_eq_true.mpr ⟨row, hrow, by simp [hid, heq]⟩
    · exact List.any_eq_true.mpr ⟨row, hrow, by simp [hid, heq]⟩
  · intro h
    rw [if_neg, if_neg]
    · rw [Bool.not_eq_true, List.any_eq_false]
      intro row hrow
      simpa using fun hid => not_and.mp (h row hrow hid).2
    · rw [Bool.not_eq_true, List.any_eq_false]
      intro row hrow
      simpa using fun hid => (h row hrow hid).1

variable {db db' db'' : Database}

/-- **The unique keys stay unique.** -/
theorem WritesOrders.orderKeys (h : WritesOrders db db') (hkeys : OrderKeys db) :
    OrderKeys db' := by
  rcases h with h | ⟨record, hfree, h⟩ | ⟨p, f, hf, h⟩
  · unfold OrderKeys
    rw [h]
    exact hkeys
  · have hnew := orderConflict_eq_none.mp hfree
    intro a ha b hb hne
    rw [h] at ha hb
    rcases Table.mem_upsert ha with rfl | ⟨hmema, -⟩
    · rcases Table.mem_upsert hb with rfl | ⟨hmemb, hid⟩
      · exact absurd rfl hne
      · obtain ⟨hident, hkey⟩ := hnew b hmemb hid
        exact ⟨hident.symm, fun heq => hkey ⟨heq.1.symm, heq.2.symm⟩⟩
    · rcases Table.mem_upsert hb with rfl | ⟨hmemb, -⟩
      · exact hnew a hmema hne
      · exact hkeys a hmema b hmemb hne
  · have hold : ∀ row ∈ db'.orders, ∃ old ∈ db.orders, row.id = old.id ∧
        row.identifier = old.identifier ∧ row.exchangeAccountId = old.exchangeAccountId ∧
        row.idempotencyKey = old.idempotencyKey := by
      intro row hrow
      rw [h] at hrow
      obtain ⟨old, hmem, rfl⟩ := List.mem_map.mp hrow
      refine ⟨old, hmem, ?_⟩
      split
      · exact hf old
      · exact ⟨rfl, rfl, rfl, rfl⟩
    intro a ha b hb hne
    obtain ⟨olda, hmema, hida, hidenta, haccounta, hkeya⟩ := hold a ha
    obtain ⟨oldb, hmemb, hidb, hidentb, haccountb, hkeyb⟩ := hold b hb
    rw [hida, hidb] at hne
    rw [hidenta, hidentb, haccounta, haccountb, hkeya, hkeyb]
    exact hkeys olda hmema oldb hmemb hne

/-- **A stored order stays stored**, with whatever values. -/
theorem WritesOrders.stored (h : WritesOrders db db') {id : String}
    (hstored : (getOrderById db id).isSome) : (getOrderById db' id).isSome := by
  unfold getOrderById at hstored ⊢
  rcases h with h | ⟨record, -, h⟩ | ⟨p, f, hf, h⟩
  · rw [h]
    exact hstored
  · rw [h, Table.select_upsert]
    split
    · rfl
    · exact hstored
  · rw [h, Table.select_update fun row => (hf row).1]
    simpa using hstored

/-! ### The ledger -/

/-- Events, fills and observations are added at the end, and stay distinct. -/
structure Grows (db db' : Database) : Prop where
  events : db.orderEvents <+: db'.orderEvents
  fills : db.fills <+: db'.fills
  observations : db.recoveryObservations <+: db'.recoveryObservations
  eventIds : (db.orderEvents.map OrderEventRecord.id).Nodup →
    (db'.orderEvents.map OrderEventRecord.id).Nodup
  identities : FillIdentities db → FillIdentities db'

theorem Grows.of_eq (hevents : db'.orderEvents = db.orderEvents) (hfills : db'.fills = db.fills)
    (hobservations : db'.recoveryObservations = db.recoveryObservations) : Grows db db' where
  events := hevents ▸ List.prefix_rfl
  fills := hfills ▸ List.prefix_rfl
  observations := hobservations ▸ List.prefix_rfl
  eventIds h := by rwa [hevents]
  identities h := by rwa [FillIdentities, hfills]

theorem Grows.trans (h : Grows db db') (h' : Grows db' db'') : Grows db db'' where
  events := h.events.trans h'.events
  fills := h.fills.trans h'.fills
  observations := h.observations.trans h'.observations
  eventIds hids := h'.eventIds (h.eventIds hids)
  identities hkeys := h'.identities (h.identities hkeys)

/-- What a write does to the orders and to the ledger. -/
structure Written (db db' : Database) : Prop where
  orders : WritesOrders db db'
  grows : Grows db db'

/-- A write that leaves the orders alone. -/
structure LeavesOrders (db db' : Database) : Prop where
  orders : db'.orders = db.orders
  grows : Grows db db'

theorem LeavesOrders.refl (db : Database) : LeavesOrders db db := ⟨rfl, .of_eq rfl rfl rfl⟩

theorem LeavesOrders.trans (h : LeavesOrders db db') (h' : LeavesOrders db' db'') :
    LeavesOrders db db'' := ⟨h'.orders.trans h.orders, h.grows.trans h'.grows⟩

theorem LeavesOrders.written (h : LeavesOrders db db') : Written db db' := ⟨.same h.orders, h.grows⟩

theorem Written.refl (db : Database) : Written db db := (LeavesOrders.refl db).written

theorem Written.andThen (h : Written db db') (h' : LeavesOrders db' db'') : Written db db'' :=
  ⟨h.orders.child h'.orders, h.grows.trans h'.grows⟩

theorem leaves_insertOrderEvent {event : OrderEventRecord}
    (h : insertOrderEvent db event = .ok db') : LeavesOrders db db' := by
  obtain ⟨hfresh, rfl⟩ := insertOrderEvent_eq_ok.mp h
  exact ⟨rfl, List.prefix_append _ _, List.prefix_rfl, List.prefix_rfl,
    fun hids => Table.nodup_append_of_fresh hids hfresh, id⟩

theorem leaves_insertFill {fill : FillRecord} (h : insertFill db fill = .ok db') :
    LeavesOrders db db' := by
  have hkeys : FillIdentities db → FillIdentities db' := fun hkeys => hkeys.insertFill h
  unfold insertFill at h
  rw [guard_eq_ok, guard_eq_ok] at h
  obtain rfl := Except.ok.inj h.2.2
  exact ⟨rfl, List.prefix_rfl, List.prefix_append _ _, List.prefix_rfl, id, hkeys⟩

theorem leaves_insertFills {fills : List FillRecord} (h : fills.foldlM insertFill db = .ok db') :
    LeavesOrders db db' := by
  induction fills generalizing db with
  | nil =>
    obtain rfl := Except.ok.inj h
    exact .refl db
  | cons fill fills ih =>
    rw [List.foldlM_cons, bind_eq_ok] at h
    obtain ⟨next, hfill, hrest⟩ := h
    exact (leaves_insertFill hfill).trans (ih hrest)

/-! ### Every write -/

theorem written_upsertOrder (h : upsertOrder db record = .ok db') : Written db db' := by
  obtain ⟨hfree, rfl⟩ := upsertOrder_eq_ok.mp h
  exact ⟨.put record hfree rfl, .of_eq rfl rfl rfl⟩

theorem written_insertOrder (hfree : candidateOrderConflict db record = none)
    (h : insertOrder db record = .ok db') : Written db db' := by
  obtain ⟨hnew, rfl⟩ := insertOrder_eq_ok.mp h
  refine ⟨.put record ?_ ?_, .of_eq rfl rfl rfl⟩
  · rw [orderConflict_eq_none]
    intro row hrow _
    unfold candidateOrderConflict at hfree
    split_ifs at hfree with hident hkey
    refine ⟨fun heq => hident ?_, fun heq => hkey ?_⟩
    · exact List.any_eq_true.mpr ⟨row, hrow, by simp [heq]⟩
    · exact List.any_eq_true.mpr ⟨row, hrow, by simp [heq]⟩
  · simp [Table.upsert, hnew]

theorem written_persistOrderIntent {input : PersistOrderIntentInput}
    (h : persistOrderIntent db input = .ok db') : Written db db' := by
  unfold persistOrderIntent at h
  split at h
  · rw [then_eq_ok, guard_eq_ok] at h
    obtain rfl := Except.ok.inj h.2.2
    exact .refl db
  · rw [guard_eq_ok, bind_eq_ok] at h
    obtain ⟨-, written, hwritten, h⟩ := h
    rw [then_eq_ok] at h
    exact (written_upsertOrder hwritten).andThen (leaves_insertOrderEvent h.2)

theorem written_persistCandidateBoundOrderIntent {authority : Except String Unit}
    {input : PersistCandidateBoundOrderIntentRequest}
    (h : persistCandidateBoundOrderIntent db authority input = .ok db') : Written db db' := by
  unfold persistCandidateBoundOrderIntent at h
  rw [then_eq_ok, guard_eq_ok, guard_eq_ok, guard_eq_ok] at h
  obtain ⟨-, -, -, -, h⟩ := h
  split at h
  · split at h
    · obtain rfl := Except.ok.inj h
      exact .refl db
    · cases h
  · split at h
    · cases h
    · rename_i hfree
      obtain ⟨written, hwritten, h⟩ := bind_eq_ok.mp h
      obtain ⟨recorded, hrecorded, h⟩ := bind_eq_ok.mp h
      have hevent := (written_insertOrder hfree hwritten).andThen (leaves_insertOrderEvent hrecorded)
      unfold insertCandidateBinding at h
      rw [guard_eq_ok] at h
      obtain rfl := Except.ok.inj h.2
      exact hevent.andThen ⟨rfl, .of_eq rfl rfl rfl⟩

theorem leaves_insertTerminalEvent {event : Option OrderEventRecord}
    (h : insertTerminalEvent db event = .ok db') : LeavesOrders db db' := by
  cases event with
  | none =>
    obtain rfl := Except.ok.inj h
    exact .refl db
  | some event => exact leaves_insertOrderEvent h

theorem leaves_insertNewEvent {event existing : Option OrderEventRecord}
    (h : insertNewEvent db event existing = .ok db') : LeavesOrders db db' := by
  unfold insertNewEvent at h
  split at h
  · exact leaves_insertOrderEvent h
  · obtain rfl := Except.ok.inj h
    exact .refl db

theorem leaves_insertMissingOrderEvent {existing : Option OrderEventRecord}
    {event : OrderEventRecord} (h : insertMissingOrderEvent db existing event = .ok db') :
    LeavesOrders db db' := by
  unfold insertMissingOrderEvent at h
  split at h
  · obtain rfl := Except.ok.inj h
    exact .refl db
  · exact leaves_insertOrderEvent h

variable {current next : ExecutionStateRecord} {input : FaultPauseInput}

theorem leaves_writeFaultPause {account : String}
    (h : writeFaultPause db account input current next = .ok db') : LeavesOrders db db' := by
  obtain ⟨-, rfl⟩ := Operator.SqliteStore.recordExecutionStateTransition_ok h
  exact ⟨rfl, .of_eq rfl rfl rfl⟩

theorem leaves_writeProjectionPause {account : String}
    {existing : Option ExecutionStateTransitionRecord}
    (h : writeProjectionPause db existing account input current next = .ok db') :
    LeavesOrders db db' := by
  unfold writeProjectionPause at h
  split at h
  · obtain rfl := Except.ok.inj h
    exact ⟨rfl, .of_eq rfl rfl rfl⟩
  · exact leaves_writeFaultPause h

theorem written_persistExchangeSubmission {input : PersistExchangeSubmissionInput}
    (h : persistExchangeSubmission db input = .ok db') : Written db db' := by
  unfold persistExchangeSubmission at h
  dsimp only at h
  obtain ⟨-, h⟩ := then_eq_ok.mp h
  split at h
  · cases h
  · obtain ⟨-, h⟩ := then_eq_ok.mp h
    obtain ⟨-, h⟩ := then_eq_ok.mp h
    obtain ⟨completion, -, h⟩ := bind_eq_ok.mp h
    cases completion with
    | retry =>
      obtain rfl := Except.ok.inj h
      exact .refl db
    | apply =>
      obtain ⟨written, hwritten, h⟩ := bind_eq_ok.mp h
      obtain ⟨recorded, hrecorded, h⟩ := bind_eq_ok.mp h
      obtain ⟨terminal, hterminal, h⟩ := bind_eq_ok.mp h
      have hevent := (written_upsertOrder hwritten).andThen (leaves_insertOrderEvent hrecorded)
      have hlast := hevent.andThen (leaves_insertTerminalEvent hterminal)
      exact hlast.andThen (leaves_insertFills h)

theorem written_persistUncertainSubmission {input : PersistUncertainSubmissionInput}
    (h : persistUncertainSubmission db input = .ok db') : Written db db' := by
  unfold persistUncertainSubmission at h
  obtain ⟨-, h⟩ := then_eq_ok.mp h
  split at h
  · cases h
  · obtain ⟨-, h⟩ := then_eq_ok.mp h
    obtain ⟨-, h⟩ := then_eq_ok.mp h
    obtain ⟨-, h⟩ := then_eq_ok.mp h
    obtain ⟨completion, -, h⟩ := bind_eq_ok.mp h
    cases completion with
    | retry =>
      obtain rfl := Except.ok.inj h
      exact .refl db
    | apply =>
      obtain ⟨written, hwritten, h⟩ := bind_eq_ok.mp h
      obtain ⟨recorded, hrecorded, h⟩ := bind_eq_ok.mp h
      obtain rfl := Except.ok.inj h
      have hevent := (written_upsertOrder hwritten).andThen (leaves_insertOrderEvent hrecorded)
      exact hevent.andThen ⟨rfl, .of_eq rfl rfl rfl⟩

theorem written_persistReconciledExchangeSnapshot {input : PersistReconciledExchangeSnapshotInput}
    {result : PersistReconciledExchangeSnapshotResult}
    (h : persistReconciledExchangeSnapshot db input = .ok (result, db')) : Written db db' := by
  unfold persistReconciledExchangeSnapshot at h
  dsimp only at h
  obtain ⟨-, h⟩ := then_eq_ok.mp h
  split at h
  · cases h
  · split at h
    · obtain ⟨-, rfl⟩ := Prod.mk.inj (Except.ok.inj h)
      exact .refl db
    · obtain ⟨existing, -, h⟩ := bind_eq_ok.mp h
      obtain ⟨resolutions, -, h⟩ := bind_eq_ok.mp h
      obtain ⟨written, hwritten, h⟩ := bind_eq_ok.mp h
      obtain ⟨recorded, hrecorded, h⟩ := bind_eq_ok.mp h
      obtain ⟨filled, hfilled, h⟩ := bind_eq_ok.mp h
      obtain ⟨-, rfl⟩ := Prod.mk.inj (Except.ok.inj h)
      have hevent := (written_upsertOrder hwritten).andThen (leaves_insertNewEvent hrecorded)
      exact hevent.andThen (leaves_insertFills hfilled)

theorem written_persistReconciliationRecovery {input : PersistReconciliationRecoveryInput}
    {outcome : PersistenceOutcome}
    (h : persistReconciliationRecovery db input = .ok (outcome, db')) : Written db db' := by
  unfold persistReconciliationRecovery at h
  obtain ⟨-, h⟩ := then_eq_ok.mp h
  split at h
  · cases h
  · split at h
    · obtain ⟨-, rfl⟩ := Prod.mk.inj (Except.ok.inj h)
      exact .refl db
    · obtain ⟨-, h⟩ := then_eq_ok.mp h
      obtain ⟨-, h⟩ := then_eq_ok.mp h
      obtain ⟨-, h⟩ := then_eq_ok.mp h
      obtain ⟨completion, -, h⟩ := bind_eq_ok.mp h
      cases completion with
      | retry =>
        obtain ⟨-, rfl⟩ := Prod.mk.inj (Except.ok.inj h)
        exact .refl db
      | apply =>
        obtain ⟨written, hwritten, h⟩ := bind_eq_ok.mp h
        obtain ⟨recorded, hrecorded, h⟩ := bind_eq_ok.mp h
        obtain ⟨-, rfl⟩ := Prod.mk.inj (Except.ok.inj h)
        have hevent := (written_upsertOrder hwritten).andThen (leaves_insertOrderEvent hrecorded)
        exact hevent.andThen ⟨rfl, .of_eq rfl rfl rfl⟩

theorem written_finalizeBoundedSubmissionAbsence {input : FinalizeBoundedSubmissionAbsenceInput}
    {result : Bool} (h : finalizeBoundedSubmissionAbsence db input = .ok (result, db')) :
    Written db db' := by
  unfold finalizeBoundedSubmissionAbsence at h
  split at h
  · obtain ⟨-, rfl⟩ := Prod.mk.inj (Except.ok.inj h)
    exact .refl db
  · split at h
    · obtain ⟨-, rfl⟩ := Prod.mk.inj (Except.ok.inj h)
      exact .refl db
    · obtain ⟨-, h⟩ := guard_eq_ok.mp h
      obtain ⟨-, h⟩ := guard_eq_ok.mp h
      obtain ⟨-, h⟩ := guard_eq_ok.mp h
      obtain ⟨-, h⟩ := then_eq_ok.mp h
      obtain ⟨current, -, h⟩ := bind_eq_ok.mp h
      obtain ⟨transitionAt, -, h⟩ := bind_eq_ok.mp h
      split at h
      · obtain ⟨-, rfl⟩ := Prod.mk.inj (Except.ok.inj h)
        exact .refl db
      · obtain ⟨recorded, hrecorded, h⟩ := bind_eq_ok.mp h
        obtain ⟨paused, hpaused, h⟩ := bind_eq_ok.mp h
        obtain ⟨-, rfl⟩ := Prod.mk.inj (Except.ok.inj h)
        have hfailed := (leaves_insertOrderEvent hrecorded).trans (leaves_writeFaultPause hpaused)
        refine ⟨.changed _ _ (fun row => ?_) hfailed.orders, Grows.trans ?_ hfailed.grows⟩
        · exact ⟨rfl, rfl, rfl, rfl⟩
        · exact .of_eq rfl rfl rfl

theorem written_persistCandidateProjectionFault {input : PersistCandidateProjectionFaultInput}
    {outcome : ProjectionFaultOutcome}
    (h : persistCandidateProjectionFault db input = .ok (outcome, db')) : Written db db' := by
  unfold persistCandidateProjectionFault at h
  split at h
  · cases h
  · obtain ⟨-, h⟩ := guard_eq_ok.mp h
    obtain ⟨-, h⟩ := guard_eq_ok.mp h
    obtain ⟨-, h⟩ := then_eq_ok.mp h
    obtain ⟨-, h⟩ := guard_eq_ok.mp h
    obtain ⟨current, -, h⟩ := bind_eq_ok.mp h
    obtain ⟨updatedAt, -, h⟩ := bind_eq_ok.mp h
    obtain ⟨recorded, hrecorded, h⟩ := bind_eq_ok.mp h
    obtain ⟨paused, hpaused, h⟩ := bind_eq_ok.mp h
    obtain ⟨-, rfl⟩ := Prod.mk.inj (Except.ok.inj h)
    exact ((leaves_insertMissingOrderEvent hrecorded).trans
      (leaves_writeProjectionPause hpaused)).written

theorem leaves_saveFill {record : FillRecord} (h : saveFill db record = .ok db') :
    LeavesOrders db db' := by
  unfold saveFill at h
  dsimp only at h
  split at h
  · cases h
  · obtain ⟨-, h⟩ := then_eq_ok.mp h
    obtain ⟨replay, -, h⟩ := bind_eq_ok.mp h
    cases replay with
    | insert => exact leaves_insertFill h
    | preserve =>
      obtain rfl := Except.ok.inj h
      exact .refl db

theorem unit_eq_ok {result : Except String Database} {u : Unit} {db : Database} :
    unit result = .ok (u, db) ↔ result = .ok db := by
  cases result with
  | ok db' => simp [unit, Except.map]
  | error message => simp [unit, Except.map]

theorem written_perform (w : OrderWrite) {result : w.Result} (h : perform db w = .ok (result, db')) :
    Written db db' := by
  cases w with
  | saveOrder record => exact written_upsertOrder (unit_eq_ok.mp h)
  | persistOrderIntent input => exact written_persistOrderIntent (unit_eq_ok.mp h)
  | persistCandidateBoundOrderIntent authority input =>
    exact written_persistCandidateBoundOrderIntent (unit_eq_ok.mp h)
  | persistExchangeSubmission input => exact written_persistExchangeSubmission (unit_eq_ok.mp h)
  | persistUncertainSubmission input => exact written_persistUncertainSubmission (unit_eq_ok.mp h)
  | persistReconciledExchangeSnapshot input => exact written_persistReconciledExchangeSnapshot h
  | persistReconciliationRecovery input => exact written_persistReconciliationRecovery h
  | finalizeBoundedSubmissionAbsence input => exact written_finalizeBoundedSubmissionAbsence h
  | persistCandidateProjectionFault input => exact written_persistCandidateProjectionFault h
  | appendOrderEvent record => exact (leaves_insertOrderEvent (unit_eq_ok.mp h)).written
  | saveFill record => exact (leaves_saveFill (unit_eq_ok.mp h)).written
  | saveRiskEvent record =>
    obtain ⟨-, rfl⟩ := Prod.mk.inj (Except.ok.inj h)
    exact ⟨.same rfl, .of_eq rfl rfl rfl⟩
  | saveOrderSubmissionRecoveryObservation record =>
    obtain ⟨-, rfl⟩ := Prod.mk.inj (Except.ok.inj h)
    unfold saveOrderSubmissionRecoveryObservation
    split
    · exact .refl db
    · exact ⟨.same rfl, List.prefix_rfl, List.prefix_rfl, List.prefix_append _ _, id, id⟩
  | elsewhere other =>
    obtain ⟨-, rfl⟩ := Prod.mk.inj (Except.ok.inj h)
    exact ⟨.same rfl, .of_eq rfl rfl rfl⟩

theorem written_write (db : Database) (w : OrderWrite) : Written db (write db w) := by
  unfold write
  split
  · rename_i result db' h
    exact written_perform w h
  · exact .refl db

/-! ### Runs of writes -/

theorem orderKeys_run {db : Database} (h : OrderKeys db) (ws : List OrderWrite) :
    OrderKeys (run write db ws) :=
  run_invariant OrderKeys (fun db w hkeys => (written_write db w).orders.orderKeys hkeys) h ws

theorem stored_run {db : Database} {id : String} (h : (getOrderById db id).isSome)
    (ws : List OrderWrite) : (getOrderById (run write db ws) id).isSome :=
  run_invariant (fun db => (getOrderById db id).isSome)
    (fun db w hstored => (written_write db w).orders.stored hstored) h ws

theorem grows_run (db : Database) (ws : List OrderWrite) : Grows db (run write db ws) :=
  run_invariant (Grows db) (fun db' w h => h.trans (written_write db' w).grows)
    (.of_eq rfl rfl rfl) ws

end AutoTrade.Reconciliation.OrderWrites
