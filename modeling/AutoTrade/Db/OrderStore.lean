import AutoTrade.Db.LifecycleValidation
import AutoTrade.Db.Tables
import AutoTrade.Domain.SubmissionBlocking

/-! # The order repository

The order methods of `SqliteExecutionRepository` that a submission uses, as functions of the
database. A method that writes runs in one immediate transaction, so its result is the database it
commits, or an error and nothing. Constraints on tables that are not modelled (foreign keys) can
only make a statement throw and are left to the caller. -/

namespace AutoTrade.Db.OrderStore

open Lib Lib.Result Domain.Types Domain.PilotTypes
open Domain.SubmissionBlocking
open Db.Tables Db.LifecycleValidation

/-! ### Statements -/

def getOrderById (db : Database) (id : String) : Option OrderRecord :=
  Table.select OrderRecord.id id db.orders

def getOrderEventById (db : Database) (id : String) : Option OrderEventRecord :=
  Table.select OrderEventRecord.id id db.orderEvents

def getRiskEventById (db : Database) (id : String) : Option RiskEventRecord :=
  Table.select RiskEventRecord.id id db.riskEvents

/-- `ORDER BY created_at ASC, rowid ASC`: the sort keeps the order of insertion. -/
def getOrderEventsForOrder (db : Database) (orderId : String) : List OrderEventRecord :=
  (db.orderEvents.filter fun event => event.orderId = orderId).insertionSort fun a b =>
    a.createdAt ≤ b.createdAt

def getFillsForOrder (db : Database) (orderId : String) : List FillRecord :=
  (db.fills.filter fun fill => fill.orderId = orderId).insertionSort fun a b =>
    a.filledAt ≤ b.filledAt

def getRiskEventsForOrder (db : Database) (orderId : String) : List RiskEventRecord :=
  (db.riskEvents.filter fun event => event.orderId = some orderId).insertionSort fun a b =>
    a.createdAt ≤ b.createdAt

/-- The recovery observations of an order, as the blocking queries read them. -/
def getRecoveryObservationsForOrder (db : Database) (orderId : String) :
    List OrderSubmissionRecoveryObservationRecord :=
  (db.recoveryObservations.filter fun row => row.orderId = orderId).insertionSort fun a b =>
    a.observedAtEpochMs < b.observedAtEpochMs ∨
      (a.observedAtEpochMs = b.observedAtEpochMs ∧ a.id ≤ b.id)

/-- The row of the same id, or else of the same order and exchange fill, unless both exist and
differ. -/
def getFillByIdentity (db : Database) (fill : FillRecord) : Except String (Option FillRecord) :=
  let sameId := db.fills.filter fun row => row.id = fill.id
  let sameFill := db.fills.filter fun row =>
    row.id ≠ fill.id ∧ row.orderId = fill.orderId ∧ row.exchangeFillId = fill.exchangeFillId
  match sameId ++ sameFill with
  | [] => .ok none
  | [row] => .ok (some row)
  | row :: other :: _ =>
    if row ≠ other then .error ("Conflicting fill identity " ++ fill.id ++ ".") else .ok (some row)

/-- `INSERT INTO order_events`; the id is the primary key. -/
def insertOrderEvent (db : Database) (event : OrderEventRecord) : Except String Database :=
  match Table.insert OrderEventRecord.id event db.orderEvents with
  | some rows => .ok { db with orderEvents := rows }
  | none => .error "UNIQUE constraint failed: order_events.id"

def insertFill (db : Database) (fill : FillRecord) : Except String Database :=
  if db.fills.any fun row => row.id = fill.id then .error "UNIQUE constraint failed: fills.id"
  else if db.fills.any fun row =>
      row.orderId = fill.orderId ∧ row.exchangeFillId = fill.exchangeFillId then
    .error "UNIQUE constraint failed: fills.order_id, fills.exchange_fill_id"
  else .ok { db with fills := db.fills ++ [fill] }

def upsertRiskEvent (db : Database) (record : RiskEventRecord) : Database :=
  { db with riskEvents := Table.upsert RiskEventRecord.id record db.riskEvents }

/-- The other unique keys of `orders`, which a write under a taken or a new id must respect. -/
def orderConflict (db : Database) (record : OrderRecord) : Option String :=
  if db.orders.any fun row => row.id ≠ record.id ∧ row.identifier = record.identifier then
    some "UNIQUE constraint failed: orders.identifier"
  else if db.orders.any fun row => row.id ≠ record.id ∧
      row.exchangeAccountId = record.exchangeAccountId ∧
      row.idempotencyKey = record.idempotencyKey then
    some "UNIQUE constraint failed: orders.exchange_account_id, orders.idempotency_key"
  else none

def upsertOrder (db : Database) (record : OrderRecord) : Except String Database :=
  match orderConflict db record with
  | some message => .error message
  | none => .ok { db with orders := Table.upsert OrderRecord.id record db.orders }

/-! ### Reads -/

/-- The classification of a stored order with its stored events and observations; it only asks
whether some event or observation is there, so their order does not matter. -/
def classify (db : Database) (order : OrderRecord) : SubmissionBlockingClassification :=
  classifySubmissionBlockingOrder order (getOrderEventsForOrder db order.id)
    (getRecoveryObservationsForOrder db order.id)

def findOrderByIdempotencyKey (db : Database) (account idempotencyKey : String) :
    Option OrderRecord :=
  db.orders.find? fun order =>
    order.exchangeAccountId = account ∧ order.idempotencyKey = idempotencyKey

def findOrderById (db : Database) (account orderId : String) : Option OrderRecord :=
  (getOrderById db orderId).filter fun order => order.exchangeAccountId = account

/-- `ACTIVE_ORDER_STATUSES`. -/
def activeOrderStatuses : List OrderLifecycleStatus :=
  [.intentCreated, .persisted, .submitting, .open, .partiallyFilled, .cancelRequested,
    .reconciliationRequired]

def listActiveOrders (db : Database) (account : String) : List OrderRecord :=
  (db.orders.filter fun order =>
    order.exchangeAccountId = account ∧ order.status ∈ activeOrderStatuses).insertionSort
      fun a b => b.updatedAt ≤ a.updatedAt

/-- The orders of the account that block its next submission. -/
def blockingOrders (db : Database) (account : String) : List OrderRecord :=
  ((db.orders.filter fun order =>
    order.exchangeAccountId = account ∧
      order.status ∈ submissionBlockingCandidateStatuses).insertionSort fun a b =>
        b.updatedAt < a.updatedAt ∨ (b.updatedAt = a.updatedAt ∧ b.id ≤ a.id)).filter
    fun order => (classify db order).blocking

def listSubmissionBlockingOrders (db : Database) (account : String) (limit : ℕ) :
    Except String (List OrderRecord) :=
  if limit = 0 then
    .error "Candidate submission-blocking order read limit must be a positive safe integer."
  else .ok ((blockingOrders db account).take limit)

/-! ### Writes -/

def updateOrder (db : Database) (record : OrderRecord) : Except String Database :=
  upsertOrder db record

def persistOrderIntent (db : Database) (input : PersistOrderIntentInput) :
    Except String Database :=
  match getOrderById db input.order.id with
  | some existing => do
    validateOrderIntentInput input
    if existing ≠ input.order ∨ getOrderEventById db input.event.id ≠ some input.event then
      .error ("Conflicting duplicate order intent " ++ input.order.id ++ ".")
    else .ok db
  | none =>
    if (getOrderEventById db input.event.id).isSome then
      .error ("Conflicting duplicate order event " ++ input.event.id ++ ".")
    else do
      let written ← upsertOrder db input.order
      validateOrderIntentInput input
      insertOrderEvent written input.event

structure PersistCandidateBoundOrderIntentRequest where
  order : OrderRecord
  event : OrderEventRecord
  binding : CandidateExecutionBindingRecord
  expectedPhase : PositionGuardPilotPhase
  expectedDeploymentUpdatedAt : String
  expectedStateVersion : ℕ

/-- `assertCandidateOrderUniqueness`. -/
def candidateOrderConflict (db : Database) (order : OrderRecord) : Option String :=
  if db.orders.any fun row => row.identifier = order.identifier then
    some ("Conflicting duplicate order identifier " ++ order.identifier ++ ".")
  else if db.orders.any fun row =>
      row.exchangeAccountId = order.exchangeAccountId ∧
        row.idempotencyKey = order.idempotencyKey then
    some ("Conflicting duplicate order idempotency key " ++ order.idempotencyKey ++ ".")
  else none

/-- `INSERT INTO orders`; the id is the primary key. -/
def insertOrder (db : Database) (order : OrderRecord) : Except String Database :=
  match Table.insert OrderRecord.id order db.orders with
  | some rows => .ok { db with orders := rows }
  | none => .error "UNIQUE constraint failed: orders.id"

def insertCandidateBinding (db : Database) (binding : CandidateExecutionBindingRecord) :
    Except String Database :=
  if db.executionBindings.any fun row => row.id = binding.id ∨ row.orderId = binding.orderId then
    .error "UNIQUE constraint failed: strategy_candidate_execution_bindings"
  else .ok { db with executionBindings := db.executionBindings ++ [binding] }

/-- The transaction of `persistCandidateBoundOrderIntent` after the authority of the request was
validated (`authority`, read from tables that are not modelled here). -/
def persistCandidateBoundOrderIntent (db : Database) (authority : Except String Unit)
    (input : PersistCandidateBoundOrderIntentRequest) : Except String Database := do
  authority
  let existingOrder := getOrderById db input.order.id
  let existingEventById := getOrderEventById db input.event.id
  let existingOrderEvents := getOrderEventsForOrder db input.order.id
  let bindingByOrder := Table.select CandidateExecutionBindingRecord.orderId input.order.id
    db.executionBindings
  let bindingById := Table.select CandidateExecutionBindingRecord.id input.binding.id
    db.executionBindings
  if existingEventById.any fun row => row ≠ input.event then
    .error ("Conflicting candidate-bound order event " ++ input.event.id ++ ".")
  else if bindingByOrder.any fun row => row ≠ input.binding then
    .error ("Conflicting candidate-bound binding for order " ++ input.order.id ++ ".")
  else if bindingById.any fun row => row ≠ input.binding then
    .error ("Conflicting candidate-bound binding id " ++ input.binding.id ++ ".")
  else if existingOrder.isSome ∨ existingOrderEvents ≠ [] ∨ existingEventById.isSome ∨
      bindingByOrder.isSome ∨ bindingById.isSome then
    if existingOrder = some input.order ∧ existingOrderEvents = [input.event] ∧
        existingEventById.isSome ∧ bindingByOrder = some input.binding ∧
        bindingById = some input.binding then .ok db
    else .error ("Dangling partial candidate-bound order intent " ++ input.order.id ++ ".")
  else
    match candidateOrderConflict db input.order with
    | some message => .error message
    | none => do
      let written ← insertOrder db input.order
      let recorded ← insertOrderEvent written input.event
      insertCandidateBinding recorded input.binding

/-- `assertNoConflictingRecord`. -/
def assertNoConflictingRecord {α : Type} [DecidableEq α] (existing : Option α) (next : α)
    (label id : String) : Except String Unit :=
  if existing.any fun row => row ≠ next then
    .error ("Conflicting duplicate " ++ label ++ " " ++ id ++ ".")
  else .ok ()

/-- `assertSameAccount`. -/
def assertSameAccount (existing next : OrderRecord) : Except String Unit :=
  if existing.exchangeAccountId ≠ next.exchangeAccountId then
    .error ("Order " ++ next.id ++ " cannot change exchange account.")
  else .ok ()

def insertTerminalEvent (db : Database) (event : Option OrderEventRecord) :
    Except String Database :=
  match event with
  | some event => insertOrderEvent db event
  | none => .ok db

/-- No stored row conflicts with the rows of the submission. -/
def assertNoConflictingChildren (db : Database) (input : PersistExchangeSubmissionInput) :
    Except String Unit := do
  assertNoConflictingRecord (getOrderEventById db input.event.id) input.event "order event"
    input.event.id
  match input.terminalEvent with
  | some event =>
    assertNoConflictingRecord (getOrderEventById db event.id) event "terminal order event" event.id
  | none => .ok ()
  let existingFills ← input.fills.mapM (getFillByIdentity db)
  (existingFills.zip input.fills).forM fun (existing, fill) =>
    assertNoConflictingRecord existing fill "fill" fill.id

def persistExchangeSubmission (db : Database) (request : PersistExchangeSubmissionInput) :
    Except String Database := do
  let input := { request with fills := request.fills.map normalizeFillFeeProvenance }
  validateExchangeSubmissionInput input
  match getOrderById db input.order.id with
  | none =>
    .error ("Cannot persist exchange submission for missing order " ++ input.order.id ++ ".")
  | some existing => do
    assertSameAccount existing input.order
    assertNoConflictingChildren db input
    match ← validateExchangeSubmissionCompletion existing input
        (getOrderEventsForOrder db input.order.id) (getFillsForOrder db input.order.id) with
    | .retry => .ok db
    | .apply => do
      let written ← upsertOrder db input.order
      let recorded ← insertOrderEvent written input.event
      let terminal ← insertTerminalEvent recorded input.terminalEvent
      input.fills.foldlM insertFill terminal

def persistUncertainSubmission (db : Database) (input : PersistUncertainSubmissionInput) :
    Except String Database := do
  validateUncertainSubmissionInput input
  match getOrderById db input.order.id with
  | none =>
    .error ("Cannot persist uncertain submission for missing order " ++ input.order.id ++ ".")
  | some existing => do
    assertSameAccount existing input.order
    assertNoConflictingRecord (getOrderEventById db input.event.id) input.event "order event"
      input.event.id
    assertNoConflictingRecord (getRiskEventById db input.riskEvent.id) input.riskEvent "risk event"
      input.riskEvent.id
    match ← validateUncertainSubmissionCompletion existing input
        (getOrderEventsForOrder db input.order.id) (getRiskEventsForOrder db input.order.id) with
    | .retry => .ok db
    | .apply => do
      let written ← upsertOrder db input.order
      let recorded ← insertOrderEvent written input.event
      .ok (upsertRiskEvent recorded input.riskEvent)

/-! ### What the classification reads -/

/-- The order `id` is stored and blocks the next submission of its account. -/
def Blocking (db : Database) (id : String) : Prop :=
  ∃ order, getOrderById db id = some order ∧ (classify db order).blocking = true

instance Blocking.decidable (db : Database) (id : String) : Decidable (Blocking db id) :=
  decidable_of_iff ((getOrderById db id).any (fun order => (classify db order).blocking) = true) (by
    rw [Option.any_eq_true_iff_get]
    unfold Blocking
    constructor
    · rintro ⟨h, hblock⟩
      exact ⟨_, (Option.some_get h).symm, hblock⟩
    · rintro ⟨order, horder, hblock⟩
      simp [horder, hblock])

/-- What the classification of the order `id` reads is the same in both. -/
structure SameEvidence (id : String) (db db' : Database) : Prop where
  order : getOrderById db' id = getOrderById db id
  events : db'.orderEvents.filter (fun event => event.orderId = id) =
    db.orderEvents.filter fun event => event.orderId = id
  observations : db'.recoveryObservations = db.recoveryObservations

variable {id : String}

theorem SameEvidence.trans {db db' db'' : Database} (h : SameEvidence id db db')
    (h' : SameEvidence id db' db'') : SameEvidence id db db'' :=
  ⟨h'.order.trans h.order, h'.events.trans h.events, h'.observations.trans h.observations⟩

variable {db db' : Database}

theorem SameEvidence.blocking_iff (h : SameEvidence id db db') :
    Blocking db' id ↔ Blocking db id := by
  have hclassify : ∀ order, getOrderById db id = some order →
      classify db' order = classify db order := by
    intro order horder
    have hid : order.id = id := Table.key_of_select horder
    unfold classify getOrderEventsForOrder getRecoveryObservationsForOrder
    rw [hid, h.events, h.observations]
  unfold Blocking
  rw [h.order]
  constructor
  · rintro ⟨order, horder, hblock⟩
    exact ⟨order, horder, by rw [← hclassify order horder]; exact hblock⟩
  · rintro ⟨order, horder, hblock⟩
    exact ⟨order, horder, by rw [hclassify order horder]; exact hblock⟩

variable {order : OrderRecord}

theorem blocking_of_activeStatus {db : Database} (h : getOrderById db order.id = some order)
    (hs : order.status ∈ activeSubmissionStatuses) : Blocking db order.id :=
  ⟨order, h, blocking_of_active hs _ _⟩

theorem mem_blockingOrders {db : Database} (h : getOrderById db id = some order)
    (hblock : Blocking db id) : order ∈ blockingOrders db order.exchangeAccountId := by
  obtain ⟨order', horder', hclass⟩ := hblock
  have heq : order' = order := Option.some.inj (horder'.symm.trans h)
  subst heq
  unfold blockingOrders
  refine List.mem_filter.mpr ⟨?_, hclass⟩
  rw [List.mem_insertionSort, List.mem_filter]
  exact ⟨Table.mem_of_select h, by simpa using candidate_of_blocking hclass⟩

/-! ### What the writes do -/

/-- Rows that belong to the order `id` were added; its row, the leases and what the classification
reads of every other order are as before. -/
structure ChildWrite (id : String) (db db' : Database) : Prop where
  orders : db'.orders = db.orders
  leases : db'.accountExecutionLeases = db.accountExecutionLeases
  others : ∀ other, other ≠ id → SameEvidence other db db'

/-- The order is stored as given; the leases and what the classification reads of every other order
are as before. -/
structure Writes (order : OrderRecord) (db db' : Database) : Prop where
  stored : getOrderById db' order.id = some order
  leases : db'.accountExecutionLeases = db.accountExecutionLeases
  others : ∀ other, other ≠ order.id → SameEvidence other db db'

theorem ChildWrite.refl (id : String) (db : Database) : ChildWrite id db db :=
  ⟨rfl, rfl, fun _ _ => ⟨rfl, rfl, rfl⟩⟩

theorem ChildWrite.trans {db db' db'' : Database} (h : ChildWrite id db db')
    (h' : ChildWrite id db' db'') : ChildWrite id db db'' :=
  ⟨h'.orders.trans h.orders, h'.leases.trans h.leases,
    fun other hne => (h.others other hne).trans (h'.others other hne)⟩

theorem Writes.child {db db' db'' : Database} (h : Writes order db db')
    (h' : ChildWrite order.id db' db'') : Writes order db db'' := by
  refine ⟨?_, h'.leases.trans h.leases,
    fun other hne => (h.others other hne).trans (h'.others other hne)⟩
  unfold getOrderById
  rw [h'.orders]
  exact h.stored

theorem writes_of_stored {db : Database} (h : getOrderById db order.id = some order) :
    Writes order db db :=
  ⟨h, rfl, fun _ _ => ⟨rfl, rfl, rfl⟩⟩

theorem upsertOrder_eq_ok : upsertOrder db order = .ok db' ↔ orderConflict db order = none ∧
    db' = { db with orders := Table.upsert OrderRecord.id order db.orders } := by
  unfold upsertOrder
  cases orderConflict db order <;> simp [eq_comm]

theorem insertOrder_eq_ok : insertOrder db order = .ok db' ↔
    Table.select OrderRecord.id order.id db.orders = none ∧
      db' = { db with orders := db.orders ++ [order] } := by
  unfold insertOrder Table.insert
  cases Table.select OrderRecord.id order.id db.orders <;> simp [eq_comm]

theorem insertOrderEvent_eq_ok {event : OrderEventRecord} : insertOrderEvent db event = .ok db' ↔
    Table.select OrderEventRecord.id event.id db.orderEvents = none ∧
      db' = { db with orderEvents := db.orderEvents ++ [event] } := by
  unfold insertOrderEvent Table.insert
  cases Table.select OrderEventRecord.id event.id db.orderEvents <;> simp [eq_comm]

theorem upsertOrder_ok (h : upsertOrder db order = .ok db') : Writes order db db' := by
  obtain ⟨-, rfl⟩ := upsertOrder_eq_ok.mp h
  refine ⟨?_, rfl, fun other hne => ⟨?_, rfl, rfl⟩⟩
  · unfold getOrderById
    rw [Table.select_upsert, if_pos rfl]
  · unfold getOrderById
    rw [Table.select_upsert, if_neg (Ne.symm hne)]

theorem insertOrderEvent_ok {event : OrderEventRecord} (h : insertOrderEvent db event = .ok db') :
    ChildWrite event.orderId db db' := by
  obtain ⟨-, rfl⟩ := insertOrderEvent_eq_ok.mp h
  refine ⟨rfl, rfl, fun other hne => ⟨rfl, ?_, rfl⟩⟩
  simp [List.filter_append, Ne.symm hne]

theorem insertFill_ok {fill : FillRecord} (id : String) (h : insertFill db fill = .ok db') :
    ChildWrite id db db' := by
  unfold insertFill at h
  rw [guard_eq_ok, guard_eq_ok] at h
  obtain rfl := Except.ok.inj h.2.2
  exact ⟨rfl, rfl, fun _ _ => ⟨rfl, rfl, rfl⟩⟩

theorem insertFills_ok (id : String) (fills : List FillRecord)
    (h : fills.foldlM insertFill db = .ok db') : ChildWrite id db db' := by
  induction fills generalizing db with
  | nil =>
    obtain rfl := Except.ok.inj h
    exact ChildWrite.refl id db
  | cons fill fills ih =>
    rw [List.foldlM_cons, bind_eq_ok] at h
    obtain ⟨next, hfill, hrest⟩ := h
    exact (insertFill_ok id hfill).trans (ih hrest)

theorem insertTerminalEvent_ok {event : Option OrderEventRecord}
    (hid : ∀ e, event = some e → e.orderId = id) (h : insertTerminalEvent db event = .ok db') :
    ChildWrite id db db' := by
  cases event with
  | none =>
    obtain rfl := Except.ok.inj h
    exact ChildWrite.refl id db
  | some e =>
    rw [← hid e rfl]
    exact insertOrderEvent_ok h

theorem upsertRiskEvent_child (id : String) (db : Database) (event : RiskEventRecord) :
    ChildWrite id db (upsertRiskEvent db event) :=
  ⟨rfl, rfl, fun _ _ => ⟨rfl, rfl, rfl⟩⟩

theorem insertCandidateBinding_ok {binding : CandidateExecutionBindingRecord} (id : String)
    (h : insertCandidateBinding db binding = .ok db') : ChildWrite id db db' := by
  unfold insertCandidateBinding at h
  rw [guard_eq_ok] at h
  obtain rfl := Except.ok.inj h.2
  exact ⟨rfl, rfl, fun _ _ => ⟨rfl, rfl, rfl⟩⟩

theorem insertOrder_ok (h : insertOrder db order = .ok db') : Writes order db db' := by
  obtain ⟨hfree, rfl⟩ := insertOrder_eq_ok.mp h
  refine ⟨?_, rfl, fun other hne => ⟨?_, rfl, rfl⟩⟩
  · simp [getOrderById, Table.select_append, hfree, Table.select_cons]
  · simp [getOrderById, Ne.symm hne, Table.select]

theorem persistOrderIntent_ok {input : PersistOrderIntentInput}
    (h : persistOrderIntent db input = .ok db') : Writes input.order db db' := by
  unfold persistOrderIntent at h
  cases hexisting : getOrderById db input.order.id with
  | some existing =>
    simp only [hexisting] at h
    obtain ⟨_, -, h⟩ := bind_eq_ok.mp h
    obtain ⟨hsame, h⟩ := guard_eq_ok.mp h
    obtain rfl := Except.ok.inj h
    have heq : existing = input.order := by
      by_contra hne
      exact hsame (Or.inl hne)
    exact writes_of_stored (heq ▸ hexisting)
  | none =>
    simp only [hexisting] at h
    rw [guard_eq_ok, bind_eq_ok] at h
    obtain ⟨-, written, hwrite, h⟩ := h
    obtain ⟨_, hvalid, hevent⟩ := bind_eq_ok.mp h
    have hid : input.event.orderId = input.order.id := by
      unfold validateOrderIntentInput at hvalid
      exact orderId_of_validateOrderEvent (guard_eq_ok.mp hvalid).2
    exact (upsertOrder_ok hwrite).child (hid ▸ insertOrderEvent_ok hevent)

theorem persistCandidateBoundOrderIntent_ok {authority : Except String Unit}
    {input : PersistCandidateBoundOrderIntentRequest} (hid : input.event.orderId = input.order.id)
    (h : persistCandidateBoundOrderIntent db authority input = .ok db') :
    Writes input.order db db' := by
  unfold persistCandidateBoundOrderIntent at h
  obtain ⟨_, -, h⟩ := bind_eq_ok.mp h
  dsimp only at h
  rw [guard_eq_ok, guard_eq_ok, guard_eq_ok] at h
  obtain ⟨-, -, -, h⟩ := h
  split at h
  · split at h
    · rename_i hsame
      obtain rfl := Except.ok.inj h
      exact writes_of_stored hsame.1
    · simp at h
  · split at h
    · simp at h
    · rw [bind_eq_ok] at h
      obtain ⟨written, hwrite, h⟩ := h
      obtain ⟨recorded, hrecord, h⟩ := bind_eq_ok.mp h
      have hchild := insertOrderEvent_ok hrecord
      rw [hid] at hchild
      exact ((insertOrder_ok hwrite).child hchild).child (insertCandidateBinding_ok _ h)

/-- The order is stored as given, in the place of one that waited for its submission or of itself. -/
structure Submits (order : OrderRecord) (db db' : Database) : Prop where
  pending : db' = db ∨ ∃ existing, getOrderById db order.id = some existing ∧
    (existing.status = .persisted ∨ existing.status = .submitting)
  writes : Writes order db db'

theorem Submits.blocking (h : Submits order db db') (hblock : Blocking db' order.id) :
    Blocking db order.id := by
  rcases h.pending with rfl | ⟨existing, hexisting, hstatus⟩
  · exact hblock
  · have hid : existing.id = order.id := Table.key_of_select hexisting
    rw [← hid] at hexisting ⊢
    refine blocking_of_activeStatus hexisting ?_
    rcases hstatus with hs | hs
    · rw [hs]
      decide
    · rw [hs]
      decide

theorem persistExchangeSubmission_ok {input : PersistExchangeSubmissionInput}
    (h : persistExchangeSubmission db input = .ok db') :
    (input.order.status = .open ∨ input.order.status = .partiallyFilled ∨
      input.order.status = .filled ∨ input.order.status = .rejected) ∧
    Submits input.order db db' := by
  unfold persistExchangeSubmission at h
  dsimp only at h
  obtain ⟨_, hvalid, h⟩ := bind_eq_ok.mp h
  have haccepted := accepted_of_validateExchangeSubmissionInput hvalid
  refine ⟨haccepted.status, ?_⟩
  cases hexisting : getOrderById db input.order.id with
  | none =>
    simp only [hexisting] at h
    simp at h
  | some existing =>
    simp only [hexisting] at h
    obtain ⟨_, -, h⟩ := bind_eq_ok.mp h
    obtain ⟨_, -, h⟩ := bind_eq_ok.mp h
    obtain ⟨completion, hcompletion, h⟩ := bind_eq_ok.mp h
    cases completion with
    | retry =>
      obtain rfl := Except.ok.inj h
      have hsame := order_of_submissionRetry hcompletion
      exact ⟨Or.inl rfl, writes_of_stored (hexisting.trans (congrArg some hsame))⟩
    | apply =>
      dsimp only at h
      obtain ⟨written, hwrite, h⟩ := bind_eq_ok.mp h
      obtain ⟨recorded, hrecord, h⟩ := bind_eq_ok.mp h
      obtain ⟨terminal, hterminal, hfills⟩ := bind_eq_ok.mp h
      have hevent := insertOrderEvent_ok hrecord
      rw [haccepted.event] at hevent
      refine ⟨Or.inr ⟨existing, hexisting, status_of_submissionCompletion hcompletion⟩, ?_⟩
      exact (((upsertOrder_ok hwrite).child hevent).child
        (insertTerminalEvent_ok haccepted.terminalEvent hterminal)).child
          (insertFills_ok _ _ hfills)

theorem persistUncertainSubmission_ok {input : PersistUncertainSubmissionInput}
    (h : persistUncertainSubmission db input = .ok db') :
    input.order.status = .reconciliationRequired ∧ Submits input.order db db' := by
  unfold persistUncertainSubmission at h
  obtain ⟨_, hvalid, h⟩ := bind_eq_ok.mp h
  have haccepted := accepted_of_validateUncertainSubmissionInput hvalid
  refine ⟨haccepted.1, ?_⟩
  cases hexisting : getOrderById db input.order.id with
  | none =>
    simp only [hexisting] at h
    simp at h
  | some existing =>
    simp only [hexisting] at h
    obtain ⟨_, -, h⟩ := bind_eq_ok.mp h
    obtain ⟨_, -, h⟩ := bind_eq_ok.mp h
    obtain ⟨_, -, h⟩ := bind_eq_ok.mp h
    obtain ⟨completion, hcompletion, h⟩ := bind_eq_ok.mp h
    cases completion with
    | retry =>
      obtain rfl := Except.ok.inj h
      have hsame := order_of_uncertainRetry hcompletion
      exact ⟨Or.inl rfl, writes_of_stored (hexisting.trans (congrArg some hsame))⟩
    | apply =>
      dsimp only at h
      obtain ⟨written, hwrite, h⟩ := bind_eq_ok.mp h
      obtain ⟨recorded, hrecord, h⟩ := bind_eq_ok.mp h
      have hevent := insertOrderEvent_ok hrecord
      rw [haccepted.2] at hevent
      obtain rfl := Except.ok.inj h
      refine ⟨Or.inr ⟨existing, hexisting, status_of_uncertainCompletion hcompletion⟩, ?_⟩
      exact ((upsertOrder_ok hwrite).child hevent).child (upsertRiskEvent_child _ _ _)

end AutoTrade.Db.OrderStore
