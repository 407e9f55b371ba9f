import AutoTrade.Reconciliation.ActiveOrders

/-! # Which active orders can be marked for recovery

An order whose lookup finds nothing, or fails for good, is marked: its row, an event and a risk event
are written together. The writer takes an earlier event or risk event of this kind for the remains of
a write that broke off, and throws. Such rows stay when the order is recovered by its identifier, so
an order that was in doubt once and is open again is not marked a second time: the run ends
(`second_mark_throws`). `marks_iff`: along every run this, and a failure code that is not the one of
the mark, is all that can go wrong. -/

namespace AutoTrade.Reconciliation.RecoveryMarks

open Lib Lib.Result Lib.Stateful Lib.Run
open Domain.Types Db.Tables Db.LifecycleValidation
open Db.OrderStore Db.ReconciliationStore
open Reconciliation.Snapshots Reconciliation.OrderWrites
open Reconciliation.ActiveOrders
open Reconciliation.FillReplay (OrderKeys FillIdentities upsertOrder_of_stored)

/-! ### A program writes through the repository -/

/-- Whatever the program does, it does by writes of the repository. -/
def Writes {α : Type} (m : Program α) : Prop :=
  ∀ db, ∃ ws, (exec m db).2 = run write db ws

variable {α : Type}

theorem writes_pure (a : α) : Writes (pure a : Program α) := fun _ => ⟨[], rfl⟩

theorem writes_throw (e : Thrown) : Writes (throw e : Program α) := fun _ => ⟨[], rfl⟩

theorem writes_get : Writes (get : Program Database) := fun _ => ⟨[], rfl⟩

theorem writes_bind {α β : Type} {m : Program α} {f : α → Program β} (hm : Writes m)
    (hf : ∀ a, Writes (f a)) : Writes (m >>= f) := by
  intro db
  obtain ⟨ws, hws⟩ := hm db
  rw [exec_bind]
  rcases hexec : exec m db with ⟨result, db'⟩
  rw [hexec] at hws
  cases result with
  | error e => exact ⟨ws, hws⟩
  | ok a =>
    obtain ⟨ws', hws'⟩ := hf a db'
    refine ⟨ws ++ ws', ?_⟩
    rw [run_append, ← hws]
    exact hws'

theorem writes_catching {m : Program α} {handler : String → Program α} (hm : Writes m)
    (hhandler : ∀ message, Writes (handler message)) : Writes (catching m handler) := by
  intro db
  obtain ⟨ws, hws⟩ := hm db
  unfold catching
  rw [exec_tryCatch]
  rcases hexec : exec m db with ⟨result, db'⟩
  rw [hexec] at hws
  cases result with
  | ok a => exact ⟨ws, hws⟩
  | error e =>
    cases e with
    | runtimeOwnership message => exact ⟨ws, hws⟩
    | error message =>
      obtain ⟨ws', hws'⟩ := hhandler message db'
      refine ⟨ws ++ ws', ?_⟩
      rw [run_append, ← hws]
      exact hws'

theorem exec_call (w : OrderWrite) (db : Database) :
    exec (call w) db = match perform db w with
      | .ok (result, db') => (.ok result, db')
      | .error message => (.error (.error message), db) := by
  unfold call
  rw [exec_bind_ok (exec_get db)]
  cases perform db w with
  | ok p => rfl
  | error message => rfl

theorem writes_call (w : OrderWrite) : Writes (call w) := by
  intro db
  refine ⟨[w], ?_⟩
  rw [exec_call, run_cons, run_nil]
  unfold write
  cases perform db w with
  | ok p => rfl
  | error message => rfl

theorem writes_project (projection : Projection) : Writes (project projection) := by
  intro db
  refine ⟨projection.writes, ?_⟩
  unfold project
  rw [exec_bind_ok (exec_modify _ db)]
  cases projection.fault with
  | ok fault => rfl
  | error e => rfl

/-! ### The programs of a reconciliation -/

variable (order : OrderRecord)

theorem writes_classify : Writes (classifyConcurrentOrderChange order) := by
  refine writes_bind writes_get fun db => ?_
  split <;> exact writes_pure _

variable (deps : Dependencies)

theorem writes_mark (order : OrderRecord) (reconciledAt message issueCode : String) :
    Writes (markOrderForRecovery deps order reconciledAt message issueCode) := by
  refine writes_bind (writes_call _) fun outcome => ?_
  split
  · exact writes_classify order
  · exact writes_pure _

theorem writes_projectTerminalOrder (orderId : String) (status : OrderLifecycleStatus) :
    Writes (projectTerminalOrder deps orderId status) := by
  unfold projectTerminalOrder
  split
  · exact writes_pure _
  · split
    · refine writes_bind (writes_project _) fun fault => ?_
      split <;> exact writes_pure _
    · exact writes_pure _

theorem writes_applyExchangeSnapshot (order : OrderRecord) (snapshot : ExchangeOrderSnapshot)
    (reconciledAt : String) : Writes (applyExchangeSnapshot deps order snapshot reconciledAt) := by
  refine writes_bind (writes_call _) fun persistence => ?_
  split
  · exact writes_bind (writes_classify order) fun _ => writes_pure _
  · exact writes_bind (writes_projectTerminalOrder _ _ _) fun _ => writes_pure _

theorem writes_recordRecoveryObservation (order : OrderRecord)
    (outcome : RecoveryObservationOutcome) (now : RecoveryObservationTime)
    (detail : List (String × String)) :
    Writes (recordRecoveryObservation deps order outcome now detail) :=
  writes_bind (writes_call _) fun _ => writes_call _

theorem writes_persistRecoveredProjectionFailure (occurredAt message : String) :
    Writes (persistRecoveredProjectionFailure order occurredAt message) :=
  writes_bind writes_get fun _ => writes_bind (writes_call _) fun _ => writes_pure _

theorem writes_recoverFoundOrder (order : OrderRecord) (now : RecoveryObservationTime)
    (snapshot : ExchangeOrderSnapshot) : Writes (recoverFoundOrder deps order now snapshot) := by
  refine writes_catching ?_ fun message => ?_
  · refine writes_bind (writes_applyExchangeSnapshot _ _ _ _) fun issues => ?_
    split
    · exact writes_bind (writes_persistRecoveredProjectionFailure _ _ _) fun _ => writes_pure _
    · exact writes_pure _
  · exact writes_bind (writes_persistRecoveredProjectionFailure _ _ _) fun _ => writes_pure _

theorem writes_confirmAbsence (order : OrderRecord) (now : RecoveryObservationTime) :
    Writes (confirmAbsence deps order now) := by
  unfold confirmAbsence
  dsimp only
  split
  · exact writes_throw _
  · refine writes_bind (writes_bind writes_get fun _ => writes_pure _) fun observations => ?_
    split
    · exact writes_pure _
    · refine writes_bind (writes_call _) fun finalized => ?_
      split <;> exact writes_pure _

theorem writes_recoverOrderByIdentifier (order : OrderRecord) :
    Writes (recoverOrderByIdentifier deps order) := by
  unfold recoverOrderByIdentifier
  split
  · exact writes_pure _
  split
  · exact writes_throw _
  dsimp only
  split
  · exact writes_pure _
  split
  · exact writes_pure _
  split
  · exact writes_throw _
  split
  · exact writes_throw _
  -- The cases of the lookup.
  split
  · exact writes_throw _
  · exact writes_throw _
  · exact writes_bind (writes_recordRecoveryObservation _ _ _ _ _) fun _ => writes_pure _
  · exact writes_bind (writes_recordRecoveryObservation _ _ _ _ _) fun _ => writes_pure _
  · exact writes_bind (writes_recordRecoveryObservation _ _ _ _ _) fun _ =>
      writes_recoverFoundOrder _ _ _ _
  · exact writes_bind (writes_recordRecoveryObservation _ _ _ _ _) fun _ =>
      writes_confirmAbsence _ _ _

theorem writes_reconcileReferencedOrder (getOrder : ExchangeOrderLookupIdentity → Lookup)
    (order : OrderRecord) (reconciledAt : String) :
    Writes (reconcileReferencedOrder deps getOrder order reconciledAt) := by
  unfold reconcileReferencedOrder
  split
  · exact writes_throw _
  · refine writes_bind (writes_bind (writes_call _) fun _ => writes_pure _) fun _ => writes_pure _
  · exact writes_bind (writes_mark _ _ _ _ _) fun _ => writes_pure _
  · exact writes_bind (writes_mark _ _ _ _ _) fun _ => writes_pure _
  · split
    · exact writes_catching (writes_applyExchangeSnapshot _ _ _ _) fun _ => writes_pure _
    · exact writes_bind (writes_mark _ _ _ _ _) fun _ => writes_pure _

theorem writes_reconcileActiveOrder (order : OrderRecord) (reconciledAt : String) :
    Writes (reconcileActiveOrder deps order reconciledAt) := by
  unfold reconcileActiveOrder
  split
  · split
    · exact writes_pure _
    · exact writes_pure _
  · split
    · exact writes_bind (writes_recoverOrderByIdentifier _ _) fun _ => writes_pure _
    · split
      · exact writes_bind (writes_mark _ _ _ _ _) fun _ => writes_pure _
      · exact writes_reconcileReferencedOrder _ _ _ _

/-! ### The write of a mark -/

/-- The failure code of the order gives way to the one of the mark. -/
def MarkableCode (order : OrderRecord) : Prop :=
  order.failureCode = none ∨ order.failureCode = some "RECONCILIATION_REQUIRED"

/-- No event and no risk event of a mark is stored for the order. -/
structure Unmarked (db : Database) (order : OrderRecord) : Prop where
  event : ∀ event ∈ db.orderEvents, event.orderId = order.id →
    event.eventType ≠ "RECONCILIATION_RECOVERY_REQUIRED"
  riskEvent : ∀ event ∈ db.riskEvents, event.orderId = some order.id →
    event.ruleCode ≠ "ORDER_RECOVERY_REQUIRED"

/-- The order as it is marked. -/
def markedOrder (order : OrderRecord) (reconciledAt message : String) : OrderRecord :=
  { order with
    status := .reconciliationRequired
    failureCode := some "RECONCILIATION_REQUIRED"
    failureMessage := some message
    updatedAt := reconciledAt }

section Mark

variable {createId : CreatedIds} {order : OrderRecord} {reconciledAt message : String} {db : Database}

theorem getD_eq_iff : order.failureCode.getD "RECONCILIATION_REQUIRED" = "RECONCILIATION_REQUIRED" ↔
    MarkableCode order := by
  unfold MarkableCode
  cases order.failureCode with
  | none => simp
  | some code => simp

theorem order_recoveryMark (h : MarkableCode order) :
    (recoveryMark createId order reconciledAt message).order =
      markedOrder order reconciledAt message := by
  have hcode := getD_eq_iff.mpr h
  unfold recoveryMark markedOrder
  dsimp only
  rw [hcode]

theorem validateOrderIdentity_recoveryMark :
    validateOrderIdentity order (recoveryMark createId order reconciledAt message).order = .ok () := by
  simp [validateOrderIdentity, immutableOrderIdentityFields, recoveryMark]

theorem validateInput_recoveryMark :
    validateReconciliationRecoveryInput (recoveryMark createId order reconciledAt message) = .ok () ↔
      MarkableCode order := by
  have hcode : (recoveryMark createId order reconciledAt message).order.failureCode =
      some "RECONCILIATION_REQUIRED" ↔ MarkableCode order := by
    rw [← getD_eq_iff]
    simp [recoveryMark]
  unfold validateReconciliationRecoveryInput
  rw [then_eq_ok, then_eq_ok, then_eq_ok, throwIf_eq_ok, throwIf_eq_ok, ← hcode]
  constructor
  · rintro ⟨-, hstatus, -⟩
    exact not_not.mp (not_or.mp hstatus).2
  · intro h
    refine ⟨validateOrderIdentity_recoveryMark, ?_, ?_, ?_⟩
    · exact not_or.mpr ⟨not_not.mpr rfl, not_not.mpr h⟩
    · simp [validateOrderEvent, recoveryMark]
    · simp [recoveryMark, createRecoveryRiskEvent]

theorem filter_events_eq_nil (db : Database) (orderId type : String) :
    (getOrderEventsForOrder db orderId).filter (fun event => event.eventType = type) = [] ↔
      ∀ event ∈ db.orderEvents, event.orderId = orderId → event.eventType ≠ type := by
  unfold getOrderEventsForOrder
  rw [List.filter_eq_nil_iff]
  simp only [List.mem_insertionSort, List.mem_filter, decide_eq_true_eq]
  exact ⟨fun h event hmem hid => h event ⟨hmem, hid⟩, fun h event hmem => h event hmem.1 hmem.2⟩

theorem filter_riskEvents_eq_nil (db : Database) (orderId code : String) :
    (getRiskEventsForOrder db orderId).filter (fun event => event.ruleCode = code) = [] ↔
      ∀ event ∈ db.riskEvents, event.orderId = some orderId → event.ruleCode ≠ code := by
  unfold getRiskEventsForOrder
  rw [List.filter_eq_nil_iff]
  simp only [List.mem_insertionSort, List.mem_filter, decide_eq_true_eq]
  exact ⟨fun h event hmem hid => h event ⟨hmem, hid⟩, fun h event hmem => h event hmem.1 hmem.2⟩

theorem completion_recoveryMark (hstatus : order.status ≠ .reconciliationRequired)
    (hunmarked : Unmarked db order) :
    validateReconciliationRecoveryCompletion order
      (recoveryMark createId order reconciledAt message)
      (getOrderEventsForOrder db order.id) (getRiskEventsForOrder db order.id) = .ok .apply := by
  have hne : order ≠ (recoveryMark createId order reconciledAt message).order := by
    intro heq
    exact hstatus (congrArg OrderRecord.status heq)
  unfold validateReconciliationRecoveryCompletion
  rw [validateOrderIdentity_recoveryMark, ok_bind, if_pos hne, if_pos]
  exact ⟨(filter_events_eq_nil _ _ _).mpr hunmarked.event,
    (filter_riskEvents_eq_nil _ _ _).mpr hunmarked.riskEvent⟩

theorem unmarked_of_completion (hstatus : order.status ≠ .reconciliationRequired)
    {completion : Completion}
    (h : validateReconciliationRecoveryCompletion order
      (recoveryMark createId order reconciledAt message)
      (getOrderEventsForOrder db order.id) (getRiskEventsForOrder db order.id) = .ok completion) :
    Unmarked db order := by
  have hne : order ≠ (recoveryMark createId order reconciledAt message).order := by
    intro heq
    exact hstatus (congrArg OrderRecord.status heq)
  unfold validateReconciliationRecoveryCompletion at h
  rw [validateOrderIdentity_recoveryMark, ok_bind, if_pos hne] at h
  split at h
  · rename_i hnone
    exact ⟨(filter_events_eq_nil _ _ _).mp hnone.1, (filter_riskEvents_eq_nil _ _ _).mp hnone.2⟩
  · cases h

/-- The created ids are new. -/
structure NewIds (createId : CreatedIds) (db : Database) : Prop where
  event : getOrderEventById db createId.event = none
  riskEvent : getRiskEventById db createId.riskEvent = none

theorem persistReconciliationRecovery_apply {input : PersistReconciliationRecoveryInput}
    {written recorded : Database} (hvalid : validateReconciliationRecoveryInput input = .ok ())
    (hstored : getOrderById db input.order.id = some input.expectedOrder)
    (haccount : assertSameAccount input.expectedOrder input.order = .ok ())
    (hevent : getOrderEventById db input.event.id = none)
    (hriskEvent : getRiskEventById db input.riskEvent.id = none)
    (hcompletion : validateReconciliationRecoveryCompletion input.expectedOrder input
      (getOrderEventsForOrder db input.order.id) (getRiskEventsForOrder db input.order.id) =
        .ok .apply)
    (hwritten : upsertOrder db input.order = .ok written)
    (hrecorded : insertOrderEvent written input.event = .ok recorded) :
    persistReconciliationRecovery db input =
      .ok (.applied, upsertRiskEvent recorded input.riskEvent) := by
  unfold persistReconciliationRecovery
  rw [hvalid, ok_bind, hstored]
  dsimp only
  rw [if_neg (not_not.mpr rfl), haccount, ok_bind, hevent, hriskEvent, hcompletion, hwritten]
  rw [ok_bind, ok_bind, hrecorded]
  rfl

variable (createId reconciledAt message) in
/-- **The order is as it was read and unmarked: the mark is written.** -/
theorem persist_mark (hcode : MarkableCode order) (hstored : getOrderById db order.id = some order)
    (hstatus : order.status ≠ .reconciliationRequired) (hunmarked : Unmarked db order)
    (hkeys : OrderKeys db) (hnew : NewIds createId db) :
    ∃ db', persistReconciliationRecovery db (recoveryMark createId order reconciledAt message) =
        .ok (.applied, db') ∧
      getOrderById db' order.id = some (markedOrder order reconciledAt message) := by
  have hwritten := @upsertOrder_of_stored db order (recoveryMark createId order reconciledAt
    message).order hkeys (Table.mem_of_select hstored) rfl rfl rfl rfl
  have hrecorded : insertOrderEvent
      { db with orders := Table.upsert OrderRecord.id (recoveryMark createId order reconciledAt
        message).order db.orders }
      (recoveryMark createId order reconciledAt message).event = .ok
      { db with
        orders := Table.upsert OrderRecord.id (recoveryMark createId order reconciledAt
          message).order db.orders
        orderEvents := db.orderEvents ++
          [(recoveryMark createId order reconciledAt message).event] } := by
    exact insertOrderEvent_eq_ok.mpr ⟨hnew.event, rfl⟩
  have hrun := persistReconciliationRecovery_apply (validateInput_recoveryMark.mpr hcode) hstored
    (by simp [assertSameAccount, recoveryMark]) hnew.event hnew.riskEvent
    (completion_recoveryMark hstatus hunmarked) hwritten hrecorded
  refine ⟨_, hrun, ?_⟩
  show Table.select OrderRecord.id order.id (Table.upsert OrderRecord.id _ db.orders) = _
  rw [Table.select_upsert, order_recoveryMark hcode]
  exact if_pos rfl

variable (createId reconciledAt message) in
theorem persist_conflict (hcode : MarkableCode order) (hrow : (getOrderById db order.id).isSome)
    (hchanged : getOrderById db order.id ≠ some order) :
    persistReconciliationRecovery db (recoveryMark createId order reconciledAt message) =
      .ok (.conflict, db) := by
  obtain ⟨row, hrow⟩ := Option.isSome_iff_exists.mp hrow
  have hne : row ≠ order := fun heq => hchanged (heq ▸ hrow)
  have hrow' : getOrderById db (recoveryMark createId order reconciledAt message).order.id =
    some row := hrow
  unfold persistReconciliationRecovery
  rw [validateInput_recoveryMark.mpr hcode, ok_bind, hrow']
  exact if_pos hne

theorem markable_of_persist (hstatus : order.status ≠ .reconciliationRequired)
    {outcome : PersistenceOutcome} {db' : Database}
    (h : persistReconciliationRecovery db (recoveryMark createId order reconciledAt message) =
      .ok (outcome, db')) :
    MarkableCode order ∧ (getOrderById db order.id = some order → Unmarked db order) := by
  unfold persistReconciliationRecovery at h
  obtain ⟨hvalid, h⟩ := then_eq_ok.mp h
  refine ⟨validateInput_recoveryMark.mp hvalid, fun hstored => ?_⟩
  have hstored' : getOrderById db (recoveryMark createId order reconciledAt message).order.id =
    some order := hstored
  have hexpected : order = (recoveryMark createId order reconciledAt message).expectedOrder := rfl
  rw [hstored'] at h
  dsimp only at h
  rw [if_neg (not_not.mpr hexpected)] at h
  obtain ⟨-, h⟩ := then_eq_ok.mp h
  obtain ⟨-, h⟩ := then_eq_ok.mp h
  obtain ⟨-, h⟩ := then_eq_ok.mp h
  obtain ⟨completion, hcompletion, -⟩ := bind_eq_ok.mp h
  exact unmarked_of_completion hstatus hcompletion

end Mark

/-! ### One reconciliation -/

/-- The reader has no order, an order of another intent, or fails for good. -/
def LookupFails (deps : Dependencies) (order : OrderRecord) : Prop :=
  ∃ getOrder, deps.orderReader = some getOrder ∧
    (getOrder (orderQuery order) = .missing ∨ (∃ message, getOrder (orderQuery order) = .failed message) ∨
      ∃ candidate, getOrder (orderQuery order) = .answered candidate ∧
        bindExchangeOrderSnapshot candidate (orderQuery order) order = none)

/-- The order can be marked: its failure code gives way, and if it is still as it was read, nothing of
an earlier mark is stored for it. -/
def Markable (db : Database) (order : OrderRecord) : Prop :=
  MarkableCode order ∧ (getOrderById db order.id = some order → Unmarked db order)

/-- The order is marked, or its concurrent change is reported; nothing is thrown. -/
inductive MarksOrReports (deps : Dependencies) (order : OrderRecord) (reconciledAt : String)
    (db : Database) : Prop
  | marks (db' : Database) (code message : String)
    (hrun : exec (reconcileActiveOrder deps order reconciledAt) db =
      (.ok [⟨code, "Order " ++ order.id ++ " marked RECONCILIATION_REQUIRED. " ++ message⟩], db'))
    (hcurrent : getOrderById db order.id = some order)
    (hmarked : getOrderById db' order.id = some (markedOrder order reconciledAt message))
  | reports (message : String)
    (hrun : exec (reconcileActiveOrder deps order reconciledAt) db =
      (.ok [⟨"OPEN_ORDER_NEEDS_REVIEW", message⟩], db))
    (hchanged : getOrderById db order.id ≠ some order)

section Reconcile

variable {deps : Dependencies} {order : OrderRecord} {reconciledAt : String} {db : Database}

variable (reconciledAt) in
/-- Such an order comes to `markOrderForRecovery`. -/
theorem reconcile_eq_mark (hlookup : LookupFails deps order)
    (hstatus : order.status ≠ .submitting ∧ order.status ≠ .reconciliationRequired) :
    ∃ message code, reconcileActiveOrder deps order reconciledAt = (do
      return [← markOrderForRecovery deps order reconciledAt message code]) := by
  obtain ⟨getOrder, hreader, hanswer⟩ := hlookup
  unfold reconcileActiveOrder
  rw [hreader]
  dsimp only
  rw [if_neg (not_or.mpr ⟨hstatus.2, hstatus.1⟩)]
  split
  · exact ⟨_, _, rfl⟩
  · unfold reconcileReferencedOrder
    rcases hanswer with hmissing | ⟨message, hfailed⟩ | ⟨candidate, hanswered, hunbound⟩
    · rw [hmissing]
      exact ⟨_, _, rfl⟩
    · rw [hfailed]
      exact ⟨_, _, rfl⟩
    · rw [hanswered]
      dsimp only
      rw [hunbound]
      exact ⟨_, _, rfl⟩

theorem exec_mark {message code : String} :
    exec (markOrderForRecovery deps order reconciledAt message code) db =
      match persistReconciliationRecovery db
          (recoveryMark deps.createId order reconciledAt message) with
      | .ok (.conflict, db') => exec (classifyConcurrentOrderChange order) db'
      | .ok (_, db') => (.ok ⟨code, "Order " ++ order.id ++ " marked RECONCILIATION_REQUIRED. " ++
          message⟩, db')
      | .error e => (.error (.error e), db) := by
  unfold markOrderForRecovery
  cases hpersist : persistReconciliationRecovery db
      (recoveryMark deps.createId order reconciledAt message) with
  | error e =>
    have hperform : perform db (.persistReconciliationRecovery
      (recoveryMark deps.createId order reconciledAt message)) = .error e := hpersist
    rw [exec_bind, exec_call, hperform]
  | ok p =>
    obtain ⟨outcome, db'⟩ := p
    have hperform : perform db (.persistReconciliationRecovery
      (recoveryMark deps.createId order reconciledAt message)) = .ok (outcome, db') := hpersist
    rw [exec_bind, exec_call, hperform]
    cases outcome <;> rfl

theorem exec_classify (order : OrderRecord) (db : Database) : ∃ message,
    exec (classifyConcurrentOrderChange order) db = (.ok ⟨"OPEN_ORDER_NEEDS_REVIEW", message⟩, db) := by
  unfold classifyConcurrentOrderChange
  rw [exec_bind_ok (exec_get db)]
  split <;> exact ⟨_, rfl⟩

/-- **A stored order is marked, or its change reported, exactly when it can be marked.** -/
theorem marksOrReports_iff (hlookup : LookupFails deps order)
    (hstatus : order.status ≠ .submitting ∧ order.status ≠ .reconciliationRequired)
    (hrow : (getOrderById db order.id).isSome) (hkeys : OrderKeys db)
    (hnew : NewIds deps.createId db) :
    MarksOrReports deps order reconciledAt db ↔ Markable db order := by
  obtain ⟨message, code, heq⟩ := reconcile_eq_mark reconciledAt hlookup hstatus
  constructor
  · intro h
    -- A run that returns came through the repository.
    obtain ⟨result, db', hrun⟩ : ∃ result db',
        exec (reconcileActiveOrder deps order reconciledAt) db = (.ok result, db') := by
      rcases h with ⟨db', _, _, hrun, -, -⟩ | ⟨_, hrun, -⟩ <;> exact ⟨_, _, hrun⟩
    rw [heq, exec_bind, exec_mark] at hrun
    cases hpersist : persistReconciliationRecovery db
        (recoveryMark deps.createId order reconciledAt message) with
    | error e =>
      rw [hpersist] at hrun
      cases (Prod.mk.inj hrun).1
    | ok p => exact markable_of_persist hstatus.2 hpersist
  · rintro ⟨hcode, hunmarked⟩
    by_cases hcurrent : getOrderById db order.id = some order
    · obtain ⟨db', hpersist, hmarked⟩ := persist_mark deps.createId reconciledAt message hcode hcurrent hstatus.2 (hunmarked hcurrent) hkeys hnew
      refine .marks db' code message ?_ hcurrent hmarked
      rw [heq, exec_bind, exec_mark, hpersist]
      rfl
    · have hpersist := persist_conflict deps.createId reconciledAt message hcode hrow hcurrent
      obtain ⟨text, hclassify⟩ := exec_classify order db
      refine .reports text ?_ hcurrent
      rw [heq, exec_bind, exec_mark, hpersist]
      dsimp only
      rw [hclassify]
      rfl

end Reconcile

/-! ### Runs -/

/-- A write of a submission or of any other component, or the reconciliation of one active order. -/
inductive Event
  | write (w : OrderWrite)
  | reconcile (deps : Dependencies) (order : OrderRecord) (reconciledAt : String)

def step (db : Database) : Event → Database
  | .write w => write db w
  | .reconcile deps order reconciledAt => (exec (reconcileActiveOrder deps order reconciledAt) db).2

theorem step_eq_run (db : Database) (e : Event) : ∃ ws, step db e = run write db ws := by
  cases e with
  | write w => exact ⟨[w], rfl⟩
  | reconcile deps order reconciledAt => exact writes_reconcileActiveOrder deps order reconciledAt db

theorem orderKeys_events (es : List Event) : OrderKeys (run step {} es) := by
  refine run_invariant OrderKeys (fun db e hkeys => ?_) ?_ es
  · obtain ⟨ws, hws⟩ := step_eq_run db e
    rw [hws]
    exact orderKeys_run hkeys ws
  · intro a ha
    cases ha

theorem stored_events {db : Database} {id : String} (h : (getOrderById db id).isSome)
    (es : List Event) : (getOrderById (run step db es) id).isSome := by
  refine run_invariant (fun db => (getOrderById db id).isSome) (fun db e hstored => ?_) h es
  obtain ⟨ws, hws⟩ := step_eq_run db e
  rw [hws]
  exact stored_run hstored ws

theorem grows_events (db : Database) (es : List Event) : Grows db (run step db es) := by
  refine run_invariant (Grows db) (fun db' e h => ?_) (.of_eq rfl rfl rfl) es
  obtain ⟨ws, hws⟩ := step_eq_run db' e
  rw [hws]
  exact h.trans (grows_run db' ws)

/-- **Order rows are not lost or confused.** After every run the unique keys of the orders hold, and
every order stored at an earlier point of the run is still stored. -/
theorem orders_kept (before after : List Event) :
    OrderKeys (run step {} (before ++ after)) ∧
      (run step {} before).orders.map OrderRecord.id ⊆
        (run step {} (before ++ after)).orders.map OrderRecord.id := by
  refine ⟨orderKeys_events _, fun id hid => ?_⟩
  have hstored : (getOrderById (run step {} before) id).isSome := by
    obtain ⟨row, hrow, rfl⟩ := List.mem_map.mp hid
    exact List.find?_isSome.mpr ⟨row, hrow, by simp⟩
  obtain ⟨row, hrow⟩ := Option.isSome_iff_exists.mp (stored_events hstored after)
  rw [← run_append] at hrow
  exact List.mem_map.mpr ⟨row, Table.mem_of_select hrow, Table.key_of_select hrow⟩

/-- **The ledger is append-only.** Along every run the events of the orders, the fills and the recovery
observations that are stored stay as they are, in their order; no id of an event, and no fill of an
order, occurs twice. -/
theorem ledger_append_only (before after : List Event) :
    (run step {} before).orderEvents <+: (run step {} (before ++ after)).orderEvents ∧
      (run step {} before).fills <+: (run step {} (before ++ after)).fills ∧
      (run step {} before).recoveryObservations <+:
        (run step {} (before ++ after)).recoveryObservations ∧
      ((run step {} (before ++ after)).orderEvents.map OrderEventRecord.id).Nodup ∧
      FillIdentities (run step {} (before ++ after)) := by
  have hall := grows_events {} (before ++ after)
  have hlater := grows_events (run step {} before) after
  rw [← run_append] at hlater
  exact ⟨hlater.events, hlater.fills, hlater.observations, hall.eventIds List.nodup_nil,
    hall.identities List.nodup_nil⟩

theorem stored_of_listed {db : Database} {order : OrderRecord} {account : String}
    (h : order ∈ listActiveOrders db account) : (getOrderById db order.id).isSome := by
  unfold listActiveOrders at h
  rw [List.mem_insertionSort, List.mem_filter] at h
  unfold getOrderById Table.select
  exact List.find?_isSome.mpr ⟨order, h.1, by simp⟩

/-- **In every run, an active order that was listed, and that no submission is in doubt of, is marked
or its change reported exactly when it can be marked.** Between its listing and its reconciliation
anything may have happened. -/
theorem marks_iff {deps : Dependencies} {order : OrderRecord} (account : String)
    {reconciledAt : String} {before after : List Event} (hlisted : order ∈ listActiveOrders (run step {} before) account)
    (hstatus : order.status ≠ .submitting ∧ order.status ≠ .reconciliationRequired)
    (hlookup : LookupFails deps order)
    (hnew : NewIds deps.createId (run step {} (before ++ after))) :
    MarksOrReports deps order reconciledAt (run step {} (before ++ after)) ↔
      Markable (run step {} (before ++ after)) order := by
  have hrow : (getOrderById (run step {} (before ++ after)) order.id).isSome := by
    rw [run_append]
    exact stored_events (stored_of_listed hlisted) after
  exact marksOrReports_iff hlookup hstatus hrow (orderKeys_events _) hnew

/-! ### A submission that was in doubt -/

open Reconciliation.FillReplay (sellOrder soldSnapshot plainLibrary)

/-- The library of the run, which reads one instant. -/
def runLibrary : Library := { plainLibrary with dateParse := fun _ => some 1767229200000 }

/-- A reconciliation whose reader answers so. -/
def reading (answer : Lookup) (name : String) : Dependencies where
  lib := runLibrary
  orderReader := some fun _ => answer
  recoveryClock := some ⟨"2026-01-01T01:00:00.000Z", 1767229200000⟩
  identifierRecovery := none
  processTerminalOrder := none
  createId := ⟨name ++ "-event", name ++ "-risk", name ++ "-observation", name ++ "-observed",
    fun i => name ++ "-fill-" ++ toString i⟩

/-- The order is open at the exchange. -/
def waitingSnapshot : ExchangeOrderSnapshot :=
  { soldSnapshot none with
    state := "wait", remainingVolume := some "1", executedVolume := some "0", paidFee := none
    fills := [] }

def doubtfulOrder : OrderRecord :=
  { sellOrder .reconciliationRequired with
    failureCode := some "RECONCILIATION_REQUIRED", failureMessage := some "timeout" }

/-- The order as the identifier recovery leaves it. -/
def recoveredOrder : OrderRecord :=
  reconciledOrder runLibrary doubtfulOrder waitingSnapshot "2026-01-01T01:00:00.000Z"

/-- An order is submitted, the submission is uncertain, and a reconciliation finds it open. -/
def doubtfulRun : List Event :=
  [.write (.persistOrderIntent ⟨sellOrder .persisted,
      ⟨"intent", "order", "ORDER_PERSISTED", .local, "{}", "2026-01-01T00:00:00.000Z"⟩⟩),
    .write (.saveOrder (sellOrder .submitting)),
    .write (.persistUncertainSubmission ⟨doubtfulOrder,
      ⟨"uncertain", "order", "RECONCILIATION_RECOVERY_REQUIRED", .exchange, "{}",
        "2026-01-01T00:00:00.000Z"⟩,
      ⟨"risk", "acct", some "decision", some "order", .block, "POSITION_GUARD_PILOT_UNCERTAIN_ORDER",
        "timeout", "{}", "2026-01-01T00:00:00.000Z"⟩⟩),
    .reconcile (reading (.answered waitingSnapshot) "first") doubtfulOrder
      "2026-01-01T01:00:00.000Z"]

/-- **The order is open again, the next lookup finds nothing, and the reconciliation throws.** -/
theorem second_mark_throws :
    recoveredOrder ∈ listActiveOrders (run step {} doubtfulRun) "acct" ∧
      (recoveredOrder.status ≠ .submitting ∧ recoveredOrder.status ≠ .reconciliationRequired) ∧
      LookupFails (reading .missing "second") recoveredOrder ∧
      NewIds (reading .missing "second").createId (run step {} doubtfulRun) ∧
      (exec (reconcileActiveOrder (reading .missing "second") recoveredOrder
        "2026-01-01T02:00:00.000Z") (run step {} doubtfulRun)).1 =
          .error (.error "Corrupt partial reconciliation recovery children for order order.") := by
  refine ⟨by decide +kernel, by decide +kernel, ⟨_, rfl, Or.inl rfl⟩, ⟨?_, ?_⟩, ?_⟩
  · decide +kernel
  · decide +kernel
  · decide +kernel

/-- The order is submitted and open at the exchange. -/
def submittedRun : List Event := doubtfulRun.take 2 ++ [.write (.saveOrder (sellOrder .open))]

/-- What the exchange said is noted after the order has been listed. -/
def acceptedEvent : OrderEventRecord :=
  ⟨"accepted", "order", "ORDER_ACCEPTED", .exchange, "{}", "2026-01-01T00:00:01.000Z"⟩

/-- An order whose submission was certain is marked, beside the events that it has. -/
theorem open_order_is_marked :
    (run step {} (submittedRun ++ [.write (.appendOrderEvent acceptedEvent)])).orderEvents.map
        OrderEventRecord.id = ["intent", "accepted"] ∧
      MarksOrReports (reading .missing "first") (sellOrder .open) "2026-01-01T02:00:00.000Z"
        (run step {} (submittedRun ++ [.write (.appendOrderEvent acceptedEvent)])) :=
  ⟨by decide +kernel,
    (marks_iff "acct" (by decide +kernel) (by decide) ⟨_, rfl, Or.inl rfl⟩
      ⟨by decide +kernel, by decide +kernel⟩).mpr
      ⟨Or.inl rfl, fun _ => ⟨by decide +kernel, by decide +kernel⟩⟩⟩

end AutoTrade.Reconciliation.RecoveryMarks
