import AutoTrade.Execution.Conformance
import AutoTrade.Lib.Threads

/-! # Concurrent submissions

Any number of calls of `submitOrderFromDecision` over one database, interleaved at their awaits. The
order repository and the lease store act on the database, each method in one step; the exchange, the
clock, the operator state and the other repositories answer as they like, and every method may throw,
before it had an effect or after it. New ids are fresh.

`Consistent` is what holds of one call and the database in every reachable state, whatever the other
calls do: where its order stands, who can hold the lease of its account, and that it released the
lease only when it might. -/

namespace AutoTrade.Execution.System

open Lib Lib.Threads Lib.Run
open Domain.Types Domain.SubmissionBlocking
open Db.Tables Db.LifecycleValidation Db.OrderStore
open Db.LeaseStore
open Execution.Records Execution.Service
open Execution.CallLog Execution.CallLog.Log Execution.Quiet
open Execution.Conformance

variable {Num : Type}

/-! ### The machine -/

structure Shared where
  database : Database := {}
  /-- The ids that were given out. -/
  issued : List String := []

/-- A method of the database throws before it had an effect, or after it. -/
inductive Fault
  | none
  | before (e : Thrown)
  | after (e : Thrown)

/-- What happens at one await: the fault of a database method, the validation of a candidate route's
authority, and the answer of everything else. -/
structure Reaction (Num : Type) where
  fault : Fault := .none
  authority : Except String Unit := .ok ()
  answer : (op : Op) → Reply Num op

/-- A method of the database, which commits or throws. -/
def stored {α : Type} (w : Shared) (fault : Fault) (result : Except String (α × Database)) :
    Except Thrown α × Shared :=
  match fault, result with
  | .before e, _ => (.error e, w)
  | _, .error message => (.error (.error message), w)
  | .none, .ok (a, db) => (.ok a, { w with database := db })
  | .after e, .ok (_, db) => (.error e, { w with database := db })

/-- A method that only writes. -/
def committed (result : Except String Database) : Except String (Unit × Database) :=
  result.map fun db => ((), db)

def perform (w : Shared) (reaction : Reaction Num) : (op : Op) → Option (Reply Num op × Shared)
  | .createId kind =>
    match reaction.answer (.createId kind) with
    | .ok id => if id ∈ w.issued then none else some (.ok id, { w with issued := id :: w.issued })
    | .error _ => none
  | .systemClock =>
    match reaction.answer .systemClock with
    | .ok text => some (.ok text, w)
    | .error _ => none
  | .findOrderByIdempotencyKey account key =>
    some (stored w reaction.fault
      (.ok (findOrderByIdempotencyKey w.database account key, w.database)))
  | .findOrderById account id =>
    some (stored w reaction.fault (.ok (findOrderById w.database account id, w.database)))
  | .listOrderEvents id =>
    some (stored w reaction.fault (.ok (getOrderEventsForOrder w.database id, w.database)))
  | .listActiveOrders account =>
    some (stored w reaction.fault (.ok (listActiveOrders w.database account, w.database)))
  | .listSubmissionBlockingOrders account limit =>
    some (stored w reaction.fault ((listSubmissionBlockingOrders w.database account limit).map
      fun orders => (orders, w.database)))
  | .saveRiskEvent event =>
    some (stored w reaction.fault (committed (.ok (upsertRiskEvent w.database event))))
  | .persistOrderIntent input =>
    some (stored w reaction.fault (committed (persistOrderIntent w.database input)))
  | .persistCandidateBoundOrderIntent input =>
    some (stored w reaction.fault
      (committed (persistCandidateBoundOrderIntent w.database reaction.authority input)))
  | .updateOrder order => some (stored w reaction.fault (committed (updateOrder w.database order)))
  | .persistExchangeSubmission input =>
    some (stored w reaction.fault (committed (persistExchangeSubmission w.database input)))
  | .persistUncertainSubmission input =>
    some (stored w reaction.fault (committed (persistUncertainSubmission w.database input)))
  | .acquireLease input => some (stored w reaction.fault (acquireLease w.database input))
  | .renewLease input => some (stored w reaction.fault (renewLease w.database input))
  | .releaseLease account token =>
    some (stored w reaction.fault (.ok (releaseLease w.database account token)))
  | .getExecutionBindingForOrder orderId =>
    some (stored w reaction.fault (.ok (Table.select
      (fun row => row.orderId) orderId w.database.executionBindings, w.database)))
  | op => some (reaction.answer op, w)

/-- A call: the dependencies of the service it is made on, and its input. -/
structure Call (Num : Type) where
  deps : Dependencies Num
  input : SubmitOrderFromDecisionInput Num

def machine : Machine Op (Reply Num) (Except Thrown SubmitOrderFromDecisionResult × Locals)
    (Log Num) Shared (Reaction Num) (Call Num) where
  protocol := protocol
  start call := submitOrderFromDecision call.deps call.input {}
  ghost call := initialLog call.deps call.input
  perform := perform

/-! ### What the methods do -/

variable {α : Type} {result : Except String (α × Database)} {w w' : Shared} {r : Except Thrown α}
  {fault : Fault}

theorem stored_cases (h : stored w fault result = (r, w')) :
    (w' = w ∧ ∃ e, r = .error e) ∨
    ∃ a db, result = .ok (a, db) ∧ w' = { w with database := db } ∧
      (r = .ok a ∨ ∃ e, fault = .after e ∧ r = .error e) := by
  unfold stored at h
  split at h
  · obtain ⟨rfl, rfl⟩ := Prod.mk.inj h
    exact Or.inl ⟨rfl, _, rfl⟩
  · obtain ⟨rfl, rfl⟩ := Prod.mk.inj h
    exact Or.inl ⟨rfl, _, rfl⟩
  · obtain ⟨rfl, rfl⟩ := Prod.mk.inj h
    exact Or.inr ⟨_, _, rfl, rfl, Or.inl rfl⟩
  · obtain ⟨rfl, rfl⟩ := Prod.mk.inj h
    exact Or.inr ⟨_, _, rfl, rfl, Or.inr ⟨_, rfl, rfl⟩⟩

theorem committed_eq_ok {result : Except String Database} {u : Unit} {db : Database} :
    committed result = .ok (u, db) ↔ result = .ok db := by
  cases result <;> simp [committed, Except.map]

/-- The operations that write orders or leases. -/
def writesRows : Op → Bool
  | .persistOrderIntent _ => true
  | .persistCandidateBoundOrderIntent _ => true
  | .updateOrder _ => true
  | .persistExchangeSubmission _ => true
  | .persistUncertainSubmission _ => true
  | .acquireLease _ => true
  | .renewLease _ => true
  | .releaseLease _ _ => true
  | _ => false

/-- Orders, what is known of them and leases are as before. -/
structure SameRows (db db' : Database) : Prop where
  evidence : ∀ id, SameEvidence id db db'
  leases : db'.accountExecutionLeases = db.accountExecutionLeases

theorem SameRows.refl (db : Database) : SameRows db db := ⟨fun _ => ⟨rfl, rfl, rfl⟩, rfl⟩

theorem sameRows_of_read (result : Except String α)
    (h : stored w fault (result.map fun a => (a, w.database)) = (r, w')) :
    SameRows w.database w'.database := by
  obtain ⟨rfl, -⟩ | ⟨a, db, hok, rfl, -⟩ := stored_cases h
  · exact SameRows.refl _
  · cases result with
    | error message => simp [Except.map] at hok
    | ok b =>
      obtain ⟨-, rfl⟩ := Prod.mk.inj (Except.ok.inj hok)
      exact SameRows.refl _

variable {op : Op} {r : Reply Num op} {reaction : Reaction Num}

theorem sameRows_of_perform (hop : writesRows op = false)
    (h : perform w reaction op = some (r, w')) : SameRows w.database w'.database := by
  cases op <;> simp only [writesRows, Bool.true_eq_false] at hop <;> simp only [perform] at h
  case createId kind =>
    split at h
    · split at h
      · simp at h
      · obtain ⟨-, rfl⟩ := Prod.mk.inj (Option.some.inj h)
        exact SameRows.refl _
    · simp at h
  case systemClock =>
    split at h
    · obtain ⟨-, rfl⟩ := Prod.mk.inj (Option.some.inj h)
      exact SameRows.refl _
    · simp at h
  case findOrderByIdempotencyKey account key =>
    exact sameRows_of_read (.ok _) (Option.some.inj h)
  case findOrderById account id => exact sameRows_of_read (.ok _) (Option.some.inj h)
  case listOrderEvents id => exact sameRows_of_read (.ok _) (Option.some.inj h)
  case listActiveOrders account => exact sameRows_of_read (.ok _) (Option.some.inj h)
  case listSubmissionBlockingOrders account limit => exact sameRows_of_read _ (Option.some.inj h)
  case getExecutionBindingForOrder id =>
    exact sameRows_of_read (.ok _) (Option.some.inj h)
  case saveRiskEvent event =>
    obtain ⟨rfl, -⟩ | ⟨a, db, hok, rfl, -⟩ := stored_cases (Option.some.inj h)
    · exact SameRows.refl _
    · obtain ⟨-, rfl⟩ := Prod.mk.inj (Except.ok.inj hok)
      exact ⟨fun _ => ⟨rfl, rfl, rfl⟩, rfl⟩
  all_goals
    obtain ⟨-, rfl⟩ := Prod.mk.inj (Option.some.inj h)
    exact SameRows.refl _

theorem issued_stored (w : Shared) (fault : Fault) (result : Except String (α × Database)) :
    (stored w fault result).2.issued = w.issued := by
  unfold stored
  split <;> rfl

theorem ids_record (log : Log Num) (op : Op) (r : Reply Num op) :
    (log.record op r).ids = (log.advance op r).ids := by
  unfold record
  split <;> rfl

/-- Ids are given out by `createId` alone, and are fresh. -/
theorem ids_of_perform (h : perform w reaction op = some (r, w')) (log : Log Num) :
    (w'.issued = w.issued ∧ (log.record op r).ids = log.ids) ∨
    ∃ id, id ∉ w.issued ∧ w'.issued = id :: w.issued ∧ (log.record op r).ids = id :: log.ids := by
  rw [ids_record]
  cases op <;> simp only [perform] at h
  case createId kind =>
    split at h
    · split at h
      · simp at h
      · rename_i id _ hfresh
        obtain ⟨rfl, rfl⟩ := Prod.mk.inj (Option.some.inj h)
        exact Or.inr ⟨id, hfresh, rfl, rfl⟩
    · simp at h
  case systemClock =>
    split at h
    · obtain ⟨-, rfl⟩ := Prod.mk.inj (Option.some.inj h)
      exact Or.inl ⟨rfl, rfl⟩
    · simp at h
  all_goals
    left
    have hissued := congrArg (fun p => p.2.issued) (Option.some.inj h)
    simp only [issued_stored] at hissued
    refine ⟨hissued.symm, ?_⟩
    cases r <;> first | rfl | (rename_i answer; cases answer <;> rfl)

theorem possible_of_perform (h : perform w reaction op = some (r, w')) : Possible op r := by
  cases op <;> first | trivial | simp only [perform] at h
  case createId kind =>
    split at h
    · split at h
      · simp at h
      · obtain ⟨rfl, -⟩ := Prod.mk.inj (Option.some.inj h)
        rfl
    · simp at h
  case systemClock =>
    split at h
    · obtain ⟨rfl, -⟩ := Prod.mk.inj (Option.some.inj h)
      rfl
    · simp at h
  case persistExchangeSubmission input =>
    intro hok
    obtain ⟨-, e, rfl⟩ | ⟨_, db, hresult, -, -⟩ := stored_cases (Option.some.inj h)
    · simp [Except.isOk, Except.toBool] at hok
    · exact (persistExchangeSubmission_ok (committed_eq_ok.mp hresult)).1

/-! ### One call and the database -/

/-- The status of an order after `createOrder` was invoked for it. -/
def Answered (log : Log Num) (status : OrderLifecycleStatus) : Prop :=
  status ∈ activeSubmissionStatuses ∨ (status = .filled ∧ log.Filled) ∨
    (status = .rejected ∧ (log.Refused ∨ log.clockRefusal = true))

/-- The stages before the send. -/
def isBeforeSend (stage : Stage) : Bool :=
  stage = .starting ∨ stage = .persisted ∨ stage = .submitting ∨ stage = .renewed

structure Consistent (db : Database) (log : Log Num) : Prop where
  token : ∀ token, log.leaseToken = some token → token ∈ log.ids
  intent : ∀ order, log.intent = some order → order.id ∈ log.ids
  unsent : isBeforeSend log.stage = true → log.sent = none
  submitting : log.stage = .submitting ∨ log.stage = .renewed → ∃ order row,
    log.intent = some order ∧ getOrderById db order.id = some row ∧ row.status = .submitting ∧
      row.exchangeAccountId = log.account
  renewed : log.stage = .renewed → ∃ token, log.leaseToken = some token ∧
    HeldBy db log.account token
  sent : ∀ id, log.sent = some id → (∃ order, log.intent = some order ∧ order.id = id) ∧
    ∃ row, getOrderById db id = some row ∧ row.exchangeAccountId = log.account ∧
      Answered log row.status
  /-- As long as the order blocks, no other call gets the lease of the account. -/
  held : ∀ id, log.sent = some id → ∃ token, log.leaseToken = some token ∧
    (Blocking db id → HeldByNoOther db log.account token)
  settled : log.stage = .settled → ∃ order row, log.intent = some order ∧
    getOrderById db order.id = some row ∧ (row.status = .filled ∨ row.status = .rejected)
  released : log.released = true → log.MayRelease

variable {order : OrderRecord}

variable {db db' : Database} {log log' : Log Num}

section Frames

theorem Consistent.frame (h : Consistent db log)
    (hevidence : ∀ order, log.intent = some order → SameEvidence order.id db db')
    (hheld : ∀ token, log.leaseToken = some token → log.stage = .renewed →
      HeldBy db log.account token → HeldBy db' log.account token)
    (hother : ∀ id token, log.sent = some id → log.leaseToken = some token → Blocking db id →
      HeldByNoOther db log.account token → HeldByNoOther db' log.account token) :
    Consistent db' log where
  token := h.token
  intent := h.intent
  unsent := h.unsent
  submitting hstage := by
    obtain ⟨order, row, hintent, hrow, hrest⟩ := h.submitting hstage
    exact ⟨order, row, hintent, (hevidence order hintent).order.trans hrow, hrest⟩
  renewed hstage := by
    obtain ⟨token, htoken, hrow⟩ := h.renewed hstage
    exact ⟨token, htoken, hheld token htoken hstage hrow⟩
  sent id hsent := by
    obtain ⟨⟨order, hintent, rfl⟩, row, hrow, hrest⟩ := h.sent id hsent
    exact ⟨⟨order, hintent, rfl⟩, row, (hevidence order hintent).order.trans hrow, hrest⟩
  held id hsent := by
    obtain ⟨⟨order, hintent, rfl⟩, -⟩ := h.sent id hsent
    obtain ⟨token, htoken, hno⟩ := h.held order.id hsent
    refine ⟨token, htoken, fun hblock => ?_⟩
    have hbefore := (hevidence order hintent).blocking_iff.mp hblock
    exact hother order.id token hsent htoken hbefore (hno hbefore)
  settled hstage := by
    obtain ⟨order, row, hintent, hrow, hrest⟩ := h.settled hstage
    exact ⟨order, row, hintent, (hevidence order hintent).order.trans hrow, hrest⟩
  released := h.released

theorem Consistent.sameRows (h : Consistent db log) (hs : SameRows db db') :
    Consistent db' log := by
  refine h.frame (fun order _ => hs.evidence order.id) ?_ ?_
  · intro token _ _ hheld
    unfold HeldBy
    rw [hs.leases]
    exact hheld
  · intro id token _ _ _ hno
    unfold HeldByNoOther
    rw [hs.leases]
    exact hno

theorem Consistent.writes (h : Consistent db log) (hw : Writes order db db')
    (hid : order.id ∉ log.ids) : Consistent db' log := by
  refine h.frame (fun own hown => hw.others own.id ?_) ?_ ?_
  · intro heq
    exact hid (heq ▸ h.intent own hown)
  · intro token _ _ hheld
    unfold HeldBy
    rw [hw.leases]
    exact hheld
  · intro id token _ _ _ hno
    unfold HeldByNoOther
    rw [hw.leases]
    exact hno

theorem blockingOrders_ne_nil {id account : String} {row : OrderRecord}
    (hrow : getOrderById db id = some row) (haccount : row.exchangeAccountId = account)
    (hblock : Blocking db id) : blockingOrders db account ≠ [] := by
  have hmem := mem_blockingOrders hrow hblock
  rw [haccount] at hmem
  exact List.ne_nil_of_mem hmem

theorem Consistent.blocking_of_renewed (h : Consistent db log) (hstage : log.stage = .renewed) :
    blockingOrders db log.account ≠ [] := by
  obtain ⟨order, row, -, hrow, hstatus, haccount⟩ := h.submitting (Or.inr hstage)
  have hid : row.id = order.id := Table.key_of_select hrow
  refine blockingOrders_ne_nil hrow haccount ?_
  rw [← hid] at hrow ⊢
  exact blocking_of_activeStatus hrow (by rw [hstatus]; decide)

variable {lease : Option AccountExecutionLeaseRecord}

theorem Consistent.acquireLease (h : Consistent db log) (hkey : OneLeasePerAccount db)
    {input : AcquireAccountExecutionLeaseInput} (ha : acquireLease db input = .ok (lease, db')) :
    Consistent db' log := by
  obtain ⟨honly, -, hrows, hkept⟩ := acquireLease_ok hkey ha
  rcases hrows with rfl | ⟨hfree, hrows⟩
  · exact h
  · refine h.frame (fun order _ => honly.evidence order.id) ?_ ?_
    · rintro token - hstage ⟨row, hrow, haccount, htoken⟩
      refine ⟨row, hkept row hrow fun heq => ?_, haccount, htoken⟩
      exact h.blocking_of_renewed hstage (by rw [← haccount, heq]; exact hfree)
    · intro id token hsent _ hblock hno row hrow haccount
      rcases hrows row hrow with hold | hnew
      · exact hno row hold haccount
      · obtain ⟨-, own, hown, hownAccount, -⟩ := h.sent id hsent
        exact absurd (by rw [← haccount, hnew]; exact hfree)
          (blockingOrders_ne_nil hown hownAccount hblock)

theorem Consistent.renewLease (h : Consistent db log) {input : RenewAccountExecutionLeaseInput}
    (hr : renewLease db input = .ok (lease, db')) : Consistent db' log := by
  obtain ⟨honly, hholders, -⟩ := renewLease_ok hr
  refine h.frame (fun order _ => honly.evidence order.id) ?_ ?_
  · intro token _ _ hheld
    exact hholders.heldBy.mpr hheld
  · intro id token _ _ _ hno
    exact hholders.noOther hno

theorem Consistent.releaseLease (h : Consistent db log) (account token : String)
    (hother : log.stage = .renewed → log.leaseToken ≠ some token) :
    Consistent (releaseLease db account token).2 log := by
  obtain ⟨honly, hsub, hkept⟩ := releaseLease_effect db account token
  refine h.frame (fun order _ => honly.evidence order.id) ?_ ?_
  · rintro own hown hstage ⟨row, hrow, haccount, htoken⟩
    refine ⟨row, hkept row hrow (Or.inr fun heq => ?_), haccount, htoken⟩
    exact hother hstage (by rw [hown, ← htoken, heq])
  · intro id own _ _ _ hno row hrow haccount
    exact hno row (hsub.subset hrow) haccount

end Frames

/-! ### A step of the call itself -/

section Own

theorem Answered.later {status : OrderLifecycleStatus} (h : Answered log status)
    (hl : Later log log') : Answered log' status := by
  rcases h with ha | ⟨hs, hf⟩ | ⟨hs, hr⟩
  · exact Or.inl ha
  · exact Or.inr (Or.inl ⟨hs, filled_of_later hl hf⟩)
  · exact Or.inr (Or.inr ⟨hs, refused_of_later hl hr⟩)

theorem Consistent.later (h : Consistent db log) (hl : Later log log') : Consistent db log' := by
  have hsent : ∀ id, log.sent = some id → (∃ order, log.intent = some order ∧ order.id = id) ∧
      ∃ row, getOrderById db id = some row ∧ row.exchangeAccountId = log.account ∧
        Answered log' row.status := by
    intro id hid
    obtain ⟨hintent, row, hrow, haccount, hstatus⟩ := h.sent id hid
    exact ⟨hintent, row, hrow, haccount, hstatus.later hl⟩
  obtain ⟨ids, refusal, rfl⟩ := hl
  exact ⟨fun token ht => List.mem_append_right _ (h.token token ht),
    fun order ho => List.mem_append_right _ (h.intent order ho), h.unsent, h.submitting, h.renewed,
    hsent, h.held, h.settled, h.released⟩

theorem Consistent.abandon (h : Consistent db log) :
    Consistent db { log with stage := .abandoned } where
  token := h.token
  intent := h.intent
  unsent hs := by simp [isBeforeSend] at hs
  submitting hs := by simp at hs
  renewed hs := by simp at hs
  sent := h.sent
  held := h.held
  settled hs := by simp at hs
  released _ := Or.inr (Or.inr rfl)

theorem Consistent.record (h : Consistent db (log.advance op r)) :
    Consistent db (log.record op r) := by
  unfold Log.record
  split
  · exact h.abandon
  · exact h

section

variable (h : Consistent db log)
include h

/-- The callback of the guard ran: the call has the lease, and no other call gets it as long as the
order blocks. -/
theorem Consistent.invoke (hkey : OneLeasePerAccount db)
    {input : AssertCurrentExecutionAuthorityInput} {orderId : String} {request : UpbitOrderRequest}
    (hall : log.Allowed (.runWithCurrentExecutionAuthority input orderId request))
    (thrown : Option Thrown) :
    Consistent db (log.advance (.runWithCurrentExecutionAuthority input orderId request)
      (.ok thrown)) := by
  obtain ⟨hstage, order, hintent, rfl⟩ := hall
  obtain ⟨own, row, hown, hrow, hstatus, haccount⟩ := h.submitting (Or.inr hstage)
  obtain ⟨token, htoken, hheld⟩ := h.renewed hstage
  obtain rfl : own = order := Option.some.inj (hown.symm.trans hintent)
  refine ⟨h.token, h.intent, ?_, ?_, ?_, ?_, ?_, ?_, ?_⟩
  · simp [advance, isBeforeSend]
  · simp [advance]
  · simp [advance]
  · intro id hid
    obtain rfl : own.id = id := Option.some.inj hid
    refine ⟨⟨own, hown, rfl⟩, row, hrow, haccount, Or.inl ?_⟩
    rw [hstatus]
    decide
  · intro id _
    exact ⟨token, htoken, fun _ => hheld.noOther hkey⟩
  · simp [advance]
  · intro hreleased
    have := h.released hreleased
    simp [MayRelease, hstage] at this

theorem Consistent.answered (hpending : log.outcome = some .pending) (outcome : AdapterOutcome) :
    Consistent db { log with outcome := some outcome } := by
  refine ⟨h.token, h.intent, h.unsent, h.submitting, h.renewed, ?_, h.held, h.settled, h.released⟩
  intro id hid
  obtain ⟨hintent, row, hrow, haccount, hstatus⟩ := h.sent id hid
  refine ⟨hintent, row, hrow, haccount, ?_⟩
  rcases hstatus with ha | ⟨-, hf⟩ | ⟨hs, hr⟩
  · exact Or.inl ha
  · obtain ⟨snapshot, houtcome, -⟩ := hf
    simp [hpending] at houtcome
  · refine Or.inr (Or.inr ⟨hs, ?_⟩)
    rcases hr with ⟨e, houtcome, -⟩ | hclock
    · simp [hpending] at houtcome
    · exact Or.inr hclock

/-- An operation that writes neither orders nor leases. -/
theorem Consistent.answer (hkey : OneLeasePerAccount db) (hop : writesRows op = false)
    (hall : log.Allowed op) (r : Reply Num op) : Consistent db (log.advance op r) := by
  cases op <;> first | exact h | simp [writesRows] at hop
  case createId kind =>
    cases r with
    | ok id => exact h.later ⟨[id], false, by simp [advance]⟩
    | error e => exact h
  case now site =>
    cases r with
    | ok text => exact h
    | error e => exact h.later (Later.of_clock log _)
  case pauseForFault input =>
    exact ⟨h.token, h.intent, h.unsent, h.submitting, h.renewed, h.sent, h.held, h.settled,
      h.released⟩
  case runWithCurrentExecutionAuthority input orderId request =>
    cases r with
    | ok thrown => exact h.invoke hkey hall thrown
    | error e => exact h
  case exchangeOrder =>
    cases r with
    | ok snapshot => exact h.answered hall _
    | error e => exact h.answered hall _

theorem Consistent.persistIntent (hmay : log.MayPersist order) (ok : Bool) :
    Consistent db' (log.intentPersisted order ok) := by
  obtain ⟨hstage, -, hreleased, hid, haccount⟩ := hmay
  have hsent : log.sent = none := h.unsent (by simp [isBeforeSend, hstage])
  have hstages : (log.intentPersisted order ok).stage = .starting ∨
      (log.intentPersisted order ok).stage = .persisted := by
    cases ok <;> simp [intentPersisted, hstage]
  refine ⟨h.token, ?_, fun _ => hsent, ?_, ?_, ?_, ?_, ?_, ?_⟩
  · intro own hown
    obtain rfl : order = own := Option.some.inj hown
    exact hid
  · rcases hstages with hs | hs <;> simp [hs]
  · rcases hstages with hs | hs <;> simp [hs]
  · intro id hid
    simp [intentPersisted, hsent] at hid
  · intro id hid
    simp [intentPersisted, hsent] at hid
  · rcases hstages with hs | hs <;> simp [hs]
  · intro hr
    simp [intentPersisted, hreleased] at hr

theorem Consistent.submit (hall : log.Allowed (.updateOrder order)) (hw : Writes order db db') :
    Consistent db' { log with stage := .submitting } := by
  obtain ⟨hstage, ⟨intent, hintent, hid, haccount⟩, hstatus⟩ := hall
  have hsent : log.sent = none := h.unsent (by simp [isBeforeSend, hstage])
  refine ⟨h.token, h.intent, fun _ => hsent, fun _ => ?_, ?_, ?_, ?_, ?_, ?_⟩
  · exact ⟨intent, order, hintent, by rw [← hid]; exact hw.stored, hstatus, haccount⟩
  · simp
  · intro id hid
    simp [hsent] at hid
  · intro id hid
    simp [hsent] at hid
  · simp
  · intro hr
    have := h.released hr
    simp [MayRelease, hstage] at this

theorem Consistent.persisted (hstage : log.stage = .persisted) : Consistent db' log := by
  have hsent : log.sent = none := h.unsent (by simp [isBeforeSend, hstage])
  refine ⟨h.token, h.intent, h.unsent, ?_, ?_, ?_, ?_, ?_, h.released⟩
  · simp [hstage]
  · simp [hstage]
  · intro id hid
    simp [hsent] at hid
  · intro id hid
    simp [hsent] at hid
  · simp [hstage]

/-- A submission was persisted, with a status that its outcome accounts for. -/
theorem Consistent.settle (hstage : log.stage = .sent) (hown : log.Own order)
    (hstatus : Answered log order.status) (hs : Submits order db db') : Consistent db' log := by
  obtain ⟨intent, hintent, hid, haccount⟩ := hown
  have hsame : ∀ id, log.sent = some id → id = order.id := by
    intro id hsent
    obtain ⟨⟨own, hown, rfl⟩, -⟩ := h.sent id hsent
    rw [hid]
    exact congrArg OrderRecord.id (Option.some.inj (hown.symm.trans hintent))
  refine ⟨h.token, h.intent, h.unsent, ?_, ?_, ?_, ?_, ?_, h.released⟩
  · simp [hstage]
  · simp [hstage]
  · intro id hsent
    obtain rfl := hsame id hsent
    exact ⟨(h.sent _ hsent).1, order, hs.writes.stored, haccount, hstatus⟩
  · intro id hsent
    obtain rfl := hsame id hsent
    obtain ⟨token, htoken, hno⟩ := h.held order.id hsent
    refine ⟨token, htoken, fun hblock => ?_⟩
    unfold HeldByNoOther
    rw [hs.writes.leases]
    exact hno (hs.blocking hblock)
  · simp [hstage]

end

end Own

/-! ### What a step does to the others -/

/-- What a call can do to orders and leases. -/
inductive Effect (log : Log Num) (db : Database) : Database → Prop
  | none {db' : Database} (h : SameRows db db') : Effect log db db'
  | order {db' : Database} {order : OrderRecord} (h : Writes order db db')
    (hid : order.id ∈ log.ids) : Effect log db db'
  | acquired {db' : Database} {input : AcquireAccountExecutionLeaseInput}
    {lease : Option AccountExecutionLeaseRecord} (h : acquireLease db input = .ok (lease, db')) :
    Effect log db db'
  | renewed {db' : Database} {input : RenewAccountExecutionLeaseInput}
    {lease : Option AccountExecutionLeaseRecord} (h : renewLease db input = .ok (lease, db')) :
    Effect log db db'
  | released {account token : String} (h : log.leaseToken = some token) :
    Effect log db (releaseLease db account token).2

section Effects

theorem effect_of_stored {r : Except Thrown α} (h : stored w fault result = (r, w'))
    (heffect : ∀ a db, result = .ok (a, db) → Effect log w.database db) :
    Effect log w.database w'.database := by
  obtain ⟨rfl, -⟩ | ⟨a, db, hok, rfl, -⟩ := stored_cases h
  · exact .none (SameRows.refl _)
  · exact heffect a db hok

theorem effect_of_perform (hc : Consistent w.database log) (hall : log.Allowed op)
    (h : perform w reaction op = some (r, w')) : Effect log w.database w'.database := by
  have hown : ∀ order, log.Own order → order.id ∈ log.ids := by
    rintro order ⟨intent, hintent, hid, -⟩
    rw [hid]
    exact hc.intent intent hintent
  by_cases hop : writesRows op = false
  · exact .none (sameRows_of_perform hop h)
  · cases op <;> first | exact absurd rfl hop | simp only [perform] at h
    case persistOrderIntent input =>
      refine effect_of_stored (Option.some.inj h) fun _ db hok => ?_
      exact .order (persistOrderIntent_ok (committed_eq_ok.mp hok)) hall.2.2.2.1
    case persistCandidateBoundOrderIntent input =>
      refine effect_of_stored (Option.some.inj h) fun _ db hok => ?_
      exact .order (persistCandidateBoundOrderIntent_ok hall.2 (committed_eq_ok.mp hok))
        hall.1.2.2.2.1
    case updateOrder order =>
      refine effect_of_stored (Option.some.inj h) fun _ db hok => ?_
      exact .order (upsertOrder_ok (committed_eq_ok.mp hok)) (hown order hall.2.1)
    case persistExchangeSubmission input =>
      refine effect_of_stored (Option.some.inj h) fun _ db hok => ?_
      exact .order (persistExchangeSubmission_ok (committed_eq_ok.mp hok)).2.writes
        (hown input.order hall.2.1)
    case persistUncertainSubmission input =>
      refine effect_of_stored (Option.some.inj h) fun _ db hok => ?_
      exact .order (persistUncertainSubmission_ok (committed_eq_ok.mp hok)).2.writes
        (hown input.order hall.2)
    case acquireLease input =>
      exact effect_of_stored (Option.some.inj h) fun _ db hok => .acquired hok
    case renewLease input =>
      exact effect_of_stored (Option.some.inj h) fun _ db hok => .renewed hok
    case releaseLease account token =>
      refine effect_of_stored (Option.some.inj h) fun _ db hok => ?_
      obtain rfl : (releaseLease w.database account token).2 = db :=
        congrArg Prod.snd (Except.ok.inj hok)
      exact .released hall.2.1

theorem Effect.oneLeasePerAccount {db db' : Database} (h : Effect log db db')
    (hkey : OneLeasePerAccount db) : OneLeasePerAccount db' := by
  cases h with
  | none h =>
    unfold OneLeasePerAccount
    rw [h.leases]
    exact hkey
  | order h _ =>
    unfold OneLeasePerAccount
    rw [h.leases]
    exact hkey
  | acquired h => exact (acquireLease_ok hkey h).2.1
  | renewed h => exact (renewLease_ok h).2.1.oneLeasePerAccount hkey
  | released _ => exact hkey.sublist ((releaseLease_effect _ _ _).2.1.map _)

theorem Effect.other {db db' : Database} {other : Log Num} (h : Effect log db db')
    (hkey : OneLeasePerAccount db) (hc : Consistent db log) (hother : Consistent db other)
    (hdistinct : ∀ id ∈ log.ids, id ∉ other.ids) : Consistent db' other := by
  cases h with
  | none h => exact hother.sameRows h
  | order h hid => exact hother.writes h (hdistinct _ hid)
  | acquired h => exact hother.acquireLease hkey h
  | renewed h => exact hother.renewLease h
  | released h =>
    refine hother.releaseLease _ _ fun _ htoken => ?_
    exact hdistinct _ (hc.token _ h) (hother.token _ htoken)

end Effects

/-! ### Every reachable state -/

section Steps

theorem answered_of_submission {input : PersistExchangeSubmissionInput}
    (hall : log.Allowed (.persistExchangeSubmission input))
    (hstatus : input.order.status = .open ∨ input.order.status = .partiallyFilled ∨
      input.order.status = .filled ∨ input.order.status = .rejected) :
    Answered log input.order.status := by
  obtain ⟨-, -, hfilled, hrejected⟩ := hall
  rcases hstatus with hs | hs | hs | hs
  · left
    rw [hs]
    decide
  · left
    rw [hs]
    decide
  · exact Or.inr (Or.inl ⟨hs, hfilled hs⟩)
  · exact Or.inr (Or.inr ⟨hs, hrejected hs⟩)

/-- The log of a call that submitted: its response is being persisted, and the order is settled when
the status is final. -/
theorem Consistent.submissionPersisted {db : Database} (h : Consistent db log)
    (hstage : log.stage = .sent) (hown : log.Own order) {ok : Bool}
    (hstored : ok = true → getOrderById db order.id = some order) :
    Consistent db (log.submissionPersisted order ok) := by
  obtain ⟨intent, hintent, hid, -⟩ := hown
  have hreleased : log.released = true → False := by
    intro hr
    have := h.released hr
    simp [MayRelease, hstage] at this
  by_cases hfinal : (ok && isFinalStatus order.status) = true
  · have hlog : log.submissionPersisted order ok =
        { log with settling := true, stage := .settled } := by
      simp [Log.submissionPersisted, hfinal]
    rw [hlog]
    obtain ⟨hok, hstatus⟩ := Bool.and_eq_true_iff.mp hfinal
    refine ⟨h.token, h.intent, ?_, ?_, ?_, h.sent, h.held, fun _ => ?_, ?_⟩
    · simp [isBeforeSend]
    · simp
    · simp
    · refine ⟨intent, order, hintent, hid ▸ hstored hok, ?_⟩
      simpa [isFinalStatus] using hstatus
    · intro hr
      exact (hreleased hr).elim
  · have hlog : log.submissionPersisted order ok = { log with settling := true } := by
      simp [Log.submissionPersisted, hfinal]
    rw [hlog]
    exact ⟨h.token, h.intent, h.unsent, h.submitting, h.renewed, h.sent, h.held, h.settled,
      h.released⟩

theorem Consistent.advance (h : Consistent w.database log) (hkey : OneLeasePerAccount w.database)
    (hall : log.Allowed op) (hp : perform w reaction op = some (r, w')) :
    Consistent w'.database (log.advance op r) := by
  by_cases hop : writesRows op = false
  · have hsame := sameRows_of_perform hop hp
    refine (h.sameRows hsame).answer ?_ hop hall r
    unfold OneLeasePerAccount
    rw [hsame.leases]
    exact hkey
  · cases op <;> first | exact absurd rfl hop | simp only [perform] at hp
    case persistOrderIntent input => exact h.persistIntent hall _
    case persistCandidateBoundOrderIntent input => exact h.persistIntent hall.1 _
    case updateOrder order =>
      obtain ⟨rfl, e, rfl⟩ | ⟨_, db, hok, rfl, rfl | ⟨e, -, rfl⟩⟩ := stored_cases (Option.some.inj hp)
      · exact h
      · exact h.submit hall (upsertOrder_ok (committed_eq_ok.mp hok))
      · exact h.persisted hall.1
    case persistExchangeSubmission input =>
      obtain ⟨rfl, e, rfl⟩ | ⟨_, db, hok, rfl, hr⟩ := stored_cases (Option.some.inj hp)
      · exact h.submissionPersisted hall.1 hall.2.1 (by simp [Except.isOk, Except.toBool])
      · obtain ⟨hstatus, hsubmits⟩ := persistExchangeSubmission_ok (committed_eq_ok.mp hok)
        have hsettled := h.settle hall.1 hall.2.1 (answered_of_submission hall hstatus) hsubmits
        exact hsettled.submissionPersisted hall.1 hall.2.1 fun _ => hsubmits.writes.stored
    case persistUncertainSubmission input =>
      have hkeep : Consistent w'.database log := by
        obtain ⟨rfl, -⟩ | ⟨_, db, hok, rfl, -⟩ := stored_cases (Option.some.inj hp)
        · exact h
        · obtain ⟨hstatus, hsubmits⟩ := persistUncertainSubmission_ok (committed_eq_ok.mp hok)
          refine h.settle hall.1 hall.2 (Or.inl ?_) hsubmits
          rw [hstatus]
          decide
      exact ⟨hkeep.token, hkeep.intent, hkeep.unsent, hkeep.submitting, hkeep.renewed, hkeep.sent,
        hkeep.held, hkeep.settled, hkeep.released⟩
    case acquireLease input =>
      have hkeep : Consistent w'.database log := by
        obtain ⟨rfl, -⟩ | ⟨_, db, hok, rfl, -⟩ := stored_cases (Option.some.inj hp)
        · exact h
        · exact h.acquireLease hkey hok
      obtain ⟨hnone, hmem, -⟩ := hall
      refine ⟨?_, hkeep.intent, hkeep.unsent, hkeep.submitting, ?_, hkeep.sent, ?_, hkeep.settled,
        hkeep.released⟩
      · intro token htoken
        obtain rfl : input.ownerToken = token := Option.some.inj htoken
        exact hmem
      · intro hstage
        obtain ⟨token, htoken, -⟩ := hkeep.renewed hstage
        simp [hnone] at htoken
      · intro id hid
        obtain ⟨token, htoken, -⟩ := hkeep.held id hid
        simp [hnone] at htoken
    case renewLease input =>
      obtain ⟨rfl, e, rfl⟩ | ⟨lease, db, hok, rfl, rfl | ⟨e, -, rfl⟩⟩ :=
        stored_cases (Option.some.inj hp)
      · exact h
      · have hkeep := h.renewLease hok
        cases lease with
        | none => exact hkeep
        | some row =>
          obtain ⟨hstage, htoken, haccount⟩ := hall
          obtain ⟨-, hholders, hheld⟩ := renewLease_ok hok
          have hsent : log.sent = none := h.unsent (by simp [isBeforeSend, hstage])
          refine ⟨hkeep.token, hkeep.intent, fun _ => hsent, ?_, fun _ => ?_, hkeep.sent,
            hkeep.held, ?_, ?_⟩
          · exact fun _ => hkeep.submitting (Or.inl hstage)
          · exact ⟨input.ownerToken, htoken, haccount ▸ hholders.heldBy.mpr (hheld rfl)⟩
          · simp [Log.advance]
          · intro hr
            have := h.released hr
            simp [MayRelease, hstage] at this
      · exact h.renewLease hok
    case releaseLease account token =>
      have hkeep : Consistent w'.database log := by
        obtain ⟨rfl, -⟩ | ⟨_, db, hok, rfl, -⟩ := stored_cases (Option.some.inj hp)
        · exact h
        · obtain rfl : (Db.LeaseStore.releaseLease w.database account token).2 = db :=
            congrArg Prod.snd (Except.ok.inj hok)
          refine h.releaseLease _ _ fun hstage => ?_
          have := hall.1
          simp [MayRelease, hstage] at this
      exact ⟨hkeep.token, hkeep.intent, hkeep.unsent, hkeep.submitting, hkeep.renewed, hkeep.sent,
        hkeep.held, hkeep.settled, fun _ => hall.1⟩

end Steps

/-- The invariant of the system. -/
structure Invariant (w : Shared) (logs : List (Log Num)) : Prop where
  leases : OneLeasePerAccount w.database
  issued : ∀ (i : ℕ) (log : Log Num), logs[i]? = some log → ∀ id ∈ log.ids, id ∈ w.issued
  distinct : ∀ (i j : ℕ) (log log' : Log Num), logs[i]? = some log → logs[j]? = some log' →
    i ≠ j → ∀ id ∈ log.ids, id ∉ log'.ids
  calls : ∀ (i : ℕ) (log : Log Num), logs[i]? = some log → Consistent w.database log

section Invariants

variable {logs : List (Log Num)}

theorem invariant_start (h : OneLeasePerAccount w.database) : Invariant w ([] : List (Log Num)) :=
  ⟨h, fun i log hi => by simp at hi, fun i j log log' hi => by simp at hi,
    fun i log hi => by simp at hi⟩

theorem Invariant.spawn (h : Invariant w logs) (call : Call Num) :
    Invariant w (logs ++ [machine.ghost call]) := by
  have hnew : ∀ (i : ℕ) (log : Log Num), (logs ++ [machine.ghost call])[i]? = some log →
      logs[i]? = some log ∨ log = initialLog call.deps call.input := by
    intro i log hi
    rw [List.getElem?_append] at hi
    split at hi
    · exact Or.inl hi
    · right
      exact (List.mem_singleton.mp (List.mem_of_getElem? hi))
  refine ⟨h.leases, ?_, ?_, ?_⟩
  · intro i log hi
    rcases hnew i log hi with hold | rfl
    · exact h.issued i log hold
    · intro id hid
      simp [initialLog] at hid
  · intro i j log log' hi hj hne
    rcases hnew i log hi with hold | rfl
    · rcases hnew j log' hj with hold' | rfl
      · exact h.distinct i j log log' hold hold' hne
      · intro id _
        simp [initialLog]
    · intro id hid
      simp [initialLog] at hid
  · intro i log hi
    rcases hnew i log hi with hold | rfl
    · exact h.calls i log hold
    · constructor <;> simp [initialLog]

theorem Invariant.perform {w' : Shared} (h : Invariant w logs) {i : ℕ} {log : Log Num}
    (hi : logs[i]? = some log) (hall : log.Allowed op) (hp : perform w reaction op = some (r, w')) :
    Invariant w' (logs.set i (log.record op r)) := by
  have hc := h.calls i log hi
  have heffect := effect_of_perform hc hall hp
  have hids := ids_of_perform hp log
  have hlt : i < logs.length := (List.getElem?_eq_some_iff.mp hi).1
  have hget : ∀ (j : ℕ) (other : Log Num), (logs.set i (log.record op r))[j]? = some other →
      (j = i ∧ other = log.record op r) ∨ (j ≠ i ∧ logs[j]? = some other) := by
    intro j other hj
    by_cases hji : j = i
    · subst hji
      left
      rw [List.getElem?_set_self hlt] at hj
      exact ⟨rfl, (Option.some.inj hj).symm⟩
    · right
      rw [List.getElem?_set_ne (Ne.symm hji)] at hj
      exact ⟨hji, hj⟩
  have hsub : ∀ id ∈ w.issued, id ∈ w'.issued := by
    intro id hid
    rcases hids with ⟨heq, -⟩ | ⟨new, -, heq, -⟩
    · rw [heq]
      exact hid
    · rw [heq]
      exact List.mem_cons_of_mem _ hid
  -- an id of the resumed call is one it had, or one that no call had
  have hown : ∀ id ∈ (log.record op r).ids, id ∈ log.ids ∨ id ∉ w.issued := by
    intro id hid
    rcases hids with ⟨-, heq⟩ | ⟨new, hfresh, -, heq⟩
    · rw [heq] at hid
      exact Or.inl hid
    · rw [heq] at hid
      rcases List.mem_cons.mp hid with rfl | hold
      · exact Or.inr hfresh
      · exact Or.inl hold
  refine ⟨heffect.oneLeasePerAccount h.leases, ?_, ?_, ?_⟩
  · intro j other hj id hid
    rcases hget j other hj with ⟨rfl, rfl⟩ | ⟨-, hold⟩
    · rcases hids with ⟨hw, heq⟩ | ⟨new, -, hw, heq⟩
      · rw [heq] at hid
        exact hsub id (h.issued j log hi id hid)
      · rw [heq] at hid
        rw [hw]
        rcases List.mem_cons.mp hid with rfl | hold
        · exact List.mem_cons_self
        · exact List.mem_cons_of_mem _ (h.issued j log hi id hold)
    · exact hsub id (h.issued j other hold id hid)
  · intro j k one two hj hk hne id hid hid'
    rcases hget j one hj with ⟨rfl, rfl⟩ | ⟨hji, hold⟩
    · rcases hget k two hk with ⟨rfl, -⟩ | ⟨-, hold'⟩
      · exact hne rfl
      · rcases hown id hid with hmem | hfresh
        · exact h.distinct j k log two hi hold' hne id hmem hid'
        · exact hfresh (h.issued k two hold' id hid')
    · rcases hget k two hk with ⟨rfl, rfl⟩ | ⟨-, hold'⟩
      · rcases hown id hid' with hmem | hfresh
        · exact h.distinct j k one log hold hi hne id hid hmem
        · exact hfresh (h.issued j one hold id hid)
      · exact h.distinct j k one two hold hold' hne id hid hid'
  · intro j other hj
    rcases hget j other hj with ⟨rfl, rfl⟩ | ⟨hji, hold⟩
    · exact (hc.advance h.leases hall hp).record
    · exact heffect.other h.leases hc (h.calls j other hold)
        (h.distinct i j log other hi hold (Ne.symm hji))

end Invariants

/-- Events of the system: a call starts, or an awaited operation of a call is performed. -/
abbrev Step (Num : Type) := Event (Reaction Num) (Call Num)

/-- The state after the events, from no calls over the given rows. -/
def after (w : Shared) (events : List (Step Num)) :
    State Op (Reply Num) (Except Thrown SubmitOrderFromDecisionResult × Locals) (Log Num) Shared :=
  run machine.step ⟨w, []⟩ events

/-- **The invariant holds in every reachable state**, and every call keeps to its protocol. -/
theorem invariant_after {w : Shared} (hw : OneLeasePerAccount w.database)
    (events : List (Step Num)) :
    machine.Disciplined (after w events) ∧
      Invariant (after w events).shared (after w events).ghosts := by
  refine Machine.reach (M := machine)
    (fun call => follows_submitOrderFromDecision call.deps call.input)
    (fun w e op r w' h => possible_of_perform h) (fun _ _ _ _ => True) Invariant
    (fun w gs call h => h.spawn call) ?_ (invariant_start hw) ?_
  · intro w gs i g e op r w' hI hg hall _ hp
    exact hI.perform hg hall hp
  · refine safeRun_of_forall (fun s event => ?_) _ _
    cases event with
    | start call => trivial
    | resume i e => exact fun _ _ _ _ => trivial

end AutoTrade.Execution.System
