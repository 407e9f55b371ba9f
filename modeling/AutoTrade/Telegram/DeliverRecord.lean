import AutoTrade.Lib.Stateful
import AutoTrade.Lib.Text
import AutoTrade.Telegram.NotificationLeases

/-! # The record of a sent notification

`deliverRecord` sends a claimed notification, moves it to SENT by a compare-and-set on its lease and
logs the attempt, all in one `try`. Its `catch` takes every error that is no loss of ownership for a
failed delivery and moves the notification on by a second compare-and-set with the same lease.

Between the calls other workers may change the notifications, and every call of the repository may
throw, before it had an effect or after it. The second compare-and-set finds the lease only when the
first one threw before it wrote (`undelivered_iff`). -/

namespace AutoTrade.Telegram.DeliverRecord

open Lib.Stateful Lib.Text Telegram.Delivery
open Telegram.NotificationLeases

/-! ### Errors -/

/-- A thrown value: the guard's error, a delivery error, any other `Error`, or no `Error`. -/
inductive Thrown
  | runtimeOwnership (message : String)
  | delivery (error : TelegramDeliveryError)
  | error (name message : String)
  | value (text : String)

/-- `/^RUNTIME_OWNERSHIP_(?:LOST|NOT_HELD):/u`. -/
def isOwnershipMessage (message : String) : Bool :=
  "RUNTIME_OWNERSHIP_LOST:".toList.isPrefixOf message.toList ∨
    "RUNTIME_OWNERSHIP_NOT_HELD:".toList.isPrefixOf message.toList

def isRuntimeOwnershipFailure : Thrown → Bool
  | .runtimeOwnership _ => true
  | .delivery error => isOwnershipMessage error.message
  | .error _ message => isOwnershipMessage message
  | .value _ => false

/-- `replace(/\s+/gu, " ")`; the flag says that a blank was just written. -/
def collapseSpace (blank : Bool) : List Char → List Char
  | [] => []
  | c :: rest =>
    if isJsSpace c then if blank then collapseSpace true rest else ' ' :: collapseSpace true rest
    else c :: collapseSpace false rest

/-- `slice(0, count)`, in code units. -/
def sliceUnits (count : ℕ) : List Char → List Char
  | [] => []
  | c :: rest =>
    if (charUnits c).length ≤ count then c :: sliceUnits (count - (charUnits c).length) rest else []

def truncateText (input : String) (maxLength : ℕ) : String :=
  if (input.toList.flatMap charUnits).length ≤ maxLength then input
  else String.ofList (sliceUnits (maxLength - 3) input.toList) ++ "..."

/-- `MAX_DELIVERY_ERROR_LENGTH`. -/
def maxDeliveryErrorLength : ℕ := 240

def sanitizeOperatorNotificationError (message : String) : String :=
  truncateText (trim (String.ofList (collapseSpace false message.toList))) maxDeliveryErrorLength

def retryableMarks : List String :=
  ["timeout", "timed out", "network", "fetch", "socket", "temporarily unavailable",
    "too many requests", "telegram_http_429", "telegram_http_500", "telegram_http_502",
    "telegram_http_503", "telegram_http_504"]

/-- The error of an `Error` that is no `TelegramDeliveryError`. -/
def classifyError (name message : String) : TelegramDeliveryError :=
  let normalizedMessage := sanitizeOperatorNotificationError message
  if name = "AbortError" ∨ retryableMarks.any fun mark => includes normalizedMessage.toLower mark then
    ⟨normalizedMessage, .retryable, none⟩
  else ⟨normalizedMessage, .permanent, none⟩

def classifyTelegramDeliveryError : Thrown → TelegramDeliveryError
  | .delivery error => error
  | .runtimeOwnership message => classifyError "RuntimeOwnershipGuardError" message
  | .error name message => classifyError name message
  | .value text => ⟨truncateText text maxDeliveryErrorLength, .permanent, none⟩

/-! ### The calls -/

inductive DeliveryOutcome
  | sent
  | retryScheduled
  | failed
  | staleLease
  deriving DecidableEq

structure OperatorNotificationDeliveryAttemptRecord where
  notificationId : String
  exchangeAccountId : String
  attemptCount : ℕ
  leaseToken : String
  outcome : DeliveryOutcome
  failureClass : Option OperatorNotificationFailureClass
  attemptedAt : String
  nextAttemptAt : Option String
  deliveredAt : Option String
  errorMessage : Option String

/-- The `try` block and the `catch` block. -/
inductive Block
  | sent
  | caught
  deriving DecidableEq

/-- The places where ownership is asserted. -/
inductive Assertion
  | atStart
  | afterSend
  | inCatch
  | beforeSet (block : Block)
  | afterSet (block : Block)
  | beforeAttempt (block : Block)
  | afterAttempt (block : Block)

/-- A call of the repository throws before it had an effect, or after it. -/
inductive Fault
  | none
  | before (e : Thrown)
  | after (e : Thrown)

/-- What happens around one call of `deliverRecord`: what the guard answers, what the client
answers, the faults of the compare-and-set and of the attempt log in either block, and what other
workers do to the notifications before the compare-and-set. -/
structure Surroundings where
  held : Assertion → Except String Unit
  send : Except Thrown Unit
  setFault : Block → Fault
  attemptFault : Block → Fault
  others : Block → List OperatorNotificationRecord → List OperatorNotificationRecord

/-- The stores; `stored` are the transitions of this call that were written. -/
structure Stores where
  notifications : List OperatorNotificationRecord
  attempts : List OperatorNotificationDeliveryAttemptRecord
  stored : List OperatorNotificationDeliveryTransition

abbrev Program (α : Type) : Type := ExceptT Thrown (StateM Stores) α

variable (around : Surroundings)

def assertLocallyHeld (place : Assertion) : Program Unit :=
  match around.held place with
  | .ok () => pure ()
  | .error message => throw (.runtimeOwnership message)

/-- The stores after `compareAndSetOperatorNotificationDeliveryStatus`, with its answer. -/
def setStatus (transition : OperatorNotificationDeliveryTransition) (s : Stores) : Bool × Stores :=
  match compareAndSetOperatorNotificationDeliveryStatus s.notifications transition with
  | some notifications => (true, { s with notifications, stored := s.stored ++ [transition] })
  | none => (false, s)

def compareAndSet (block : Block) (transition : OperatorNotificationDeliveryTransition) :
    Program Bool := do
  modify fun s => { s with notifications := around.others block s.notifications }
  match around.setFault block with
  | .before e => throw e
  | .none => do
    let s ← get
    modify fun s => (setStatus transition s).2
    return (setStatus transition s).1
  | .after e => do
    modify fun s => (setStatus transition s).2
    throw e

def finalizeTransition (block : Block) (transition : OperatorNotificationDeliveryTransition) :
    Program Bool := do
  assertLocallyHeld around (.beforeSet block)
  let finalized ← compareAndSet around block transition
  assertLocallyHeld around (.afterSet block)
  return finalized

def saveAttemptRecord (block : Block) (record : OperatorNotificationDeliveryAttemptRecord) :
    Program Unit := do
  assertLocallyHeld around (.beforeAttempt block)
  match around.attemptFault block with
  | .before e => throw e
  | .none => modify fun s => { s with attempts := s.attempts ++ [record] }
  | .after e => do
    modify fun s => { s with attempts := s.attempts ++ [record] }
    throw e
  assertLocallyHeld around (.afterAttempt block)

/-! ### The method -/

def sendMessage : Program Unit :=
  match around.send with
  | .ok () => pure ()
  | .error e => throw e

/-- The record that a transition of this call leaves, as the caller sees it. -/
def deliveredRecord (record : ClaimedOperatorNotificationRecord)
    (transition : OperatorNotificationDeliveryTransition) : OperatorNotificationRecord :=
  { record.toOperatorNotificationRecord with
    deliveryStatus := transition.deliveryStatus
    attemptCount := transition.attemptCount
    lastAttemptAt := some transition.lastAttemptAt
    nextAttemptAt := transition.nextAttemptAt
    failureClass := transition.failureClass
    deliveredAt := transition.deliveredAt
    lastError := transition.lastError }

/-- Move the notification by the transition and log the attempt with its outcome. -/
def recordOutcome (block : Block) (record : ClaimedOperatorNotificationRecord)
    (transition : OperatorNotificationDeliveryTransition) (outcome : DeliveryOutcome)
    (errorMessage : Bool → Option String) : Program OperatorNotificationRecord := do
  let finalized ← finalizeTransition around block transition
  saveAttemptRecord around block
    { notificationId := record.id
      exchangeAccountId := record.exchangeAccountId
      attemptCount := record.attemptCount
      leaseToken := record.claimToken
      outcome := if finalized then outcome else .staleLease
      failureClass := transition.failureClass
      attemptedAt := transition.lastAttemptAt
      nextAttemptAt := if finalized then transition.nextAttemptAt else none
      deliveredAt := if finalized then transition.deliveredAt else none
      errorMessage := errorMessage finalized }
  return if finalized then deliveredRecord record transition else record.toOperatorNotificationRecord

/-- The `try` block. -/
def sendAndRecord (record : ClaimedOperatorNotificationRecord) (attemptAt : String) :
    Program OperatorNotificationRecord := do
  sendMessage around
  assertLocallyHeld around .afterSend
  recordOutcome around .sent record (sentTransition record attemptAt) .sent fun finalized =>
    if finalized then none else some "stale_lease_finalize"

/-- The `catch` block. -/
def recordFailure (lib : Library) (settings : DeliverySettings)
    (record : ClaimedOperatorNotificationRecord) (attemptAt : String) (error : Thrown) :
    Program OperatorNotificationRecord :=
  if isRuntimeOwnershipFailure error then throw error
  else do
    assertLocallyHeld around .inCatch
    let classifiedError := classifyTelegramDeliveryError error
    if classifiedError.failureClass = .retryable ∧ record.attemptCount < settings.maxAttempts then
      recordOutcome around .caught record (retryTransition lib settings record attemptAt classifiedError)
        .retryScheduled fun _ => some classifiedError.message
    else
      recordOutcome around .caught record (failedTransition record attemptAt classifiedError) .failed
        fun _ => some classifiedError.message

def deliverRecord (lib : Library) (settings : DeliverySettings) (configured : Bool)
    (record : ClaimedOperatorNotificationRecord) (attemptAt : String) :
    Program OperatorNotificationRecord := do
  assertLocallyHeld around .atStart
  if record.deliveryStatus ≠ .pending ∨ configured = false then
    return record.toOperatorNotificationRecord
  else
    tryCatch (sendAndRecord around record attemptAt)
      (recordFailure around lib settings record attemptAt)

/-! ### The lease -/

variable {around} {record : ClaimedOperatorNotificationRecord} {s : Stores}
  {transition : OperatorNotificationDeliveryTransition} {rows : List OperatorNotificationRecord}

/-- The notification still has the lease of the claimed copy. -/
def hasLease (record : ClaimedOperatorNotificationRecord) (rows : List OperatorNotificationRecord) :
    Bool :=
  (rows.find? (·.id = record.id)).any fun current => current.leaseToken = some record.claimToken

/-- A transition of the claimed copy. -/
structure TransitionOf (record : ClaimedOperatorNotificationRecord)
    (transition : OperatorNotificationDeliveryTransition) : Prop where
  id : transition.id = record.id
  leaseToken : transition.leaseToken = record.claimToken

theorem replaceFirst_of_find (next : OperatorNotificationRecord) {current : OperatorNotificationRecord}
    (h : rows.find? (·.id = next.id) = some current) :
    ∃ rows', replaceFirst next rows = some rows' ∧ rows'.find? (·.id = next.id) = some next := by
  induction rows with
  | nil => simp at h
  | cons first rest ih =>
    unfold replaceFirst
    by_cases hfirst : first.id = next.id
    · exact ⟨next :: rest, if_pos hfirst, by simp⟩
    · rw [List.find?_cons_of_neg (by simpa using hfirst)] at h
      obtain ⟨rest', hrest, hfind⟩ := ih h
      refine ⟨first :: rest', by rw [if_neg hfirst, hrest]; rfl, ?_⟩
      rw [List.find?_cons_of_neg (by simpa using hfirst)]
      exact hfind

/-- The compare-and-set writes exactly when the lease is there, and takes it off. -/
theorem setStatus_spec (h : TransitionOf record transition) :
    (setStatus transition s).2.stored =
        s.stored ++ (if hasLease record s.notifications then [transition] else []) ∧
      hasLease record (setStatus transition s).2.notifications = false := by
  unfold setStatus compareAndSetOperatorNotificationDeliveryStatus
  rw [h.id, h.leaseToken]
  cases hfind : s.notifications.find? (·.id = record.id) with
  | none => simp [hasLease, hfind]
  | some current =>
    dsimp only
    by_cases htoken : current.leaseToken = some record.claimToken
    · have hcurrent : current.id = record.id := by simpa using List.find?_some hfind
      have hid : (transitioned current transition).id = record.id := hcurrent
      obtain ⟨rows', hreplace, hfind'⟩ :=
        replaceFirst_of_find (transitioned current transition) (hid ▸ hfind)
      rw [if_neg (not_not.mpr htoken), hreplace]
      rw [hid] at hfind'
      simp [hasLease, hfind, hfind', htoken, transitioned]
    · rw [if_pos htoken]
      simp [hasLease, hfind, htoken]

/-! ### One block -/

theorem exec_assertLocallyHeld (place : Assertion) (s : Stores) :
    exec (assertLocallyHeld around place) s = match around.held place with
      | .ok () => (.ok (), s)
      | .error message => (.error (.runtimeOwnership message), s) := by
  unfold assertLocallyHeld
  cases around.held place <;> rfl

variable (around) in
theorem exec_saveAttemptRecord (block : Block) (attempt : OperatorNotificationDeliveryAttemptRecord)
    (s : Stores) :
    (exec (saveAttemptRecord around block attempt) s).2.notifications = s.notifications ∧
      (exec (saveAttemptRecord around block attempt) s).2.stored = s.stored := by
  unfold saveAttemptRecord
  rw [exec_bind, exec_assertLocallyHeld]
  cases around.held (.beforeAttempt block) with
  | error message => exact ⟨rfl, rfl⟩
  | ok _ =>
    dsimp only
    cases around.attemptFault block with
    | before e => exact ⟨rfl, rfl⟩
    | none =>
      rw [exec_bind, exec_modify]
      dsimp only
      rw [exec_assertLocallyHeld]
      cases around.held (.afterAttempt block) <;> exact ⟨rfl, rfl⟩
    | after e => exact ⟨rfl, rfl⟩

variable (around) in
theorem exec_compareAndSet (block : Block) (h : TransitionOf record transition) (s : Stores) :
    (∃ e, around.setFault block = .before e ∧ exec (compareAndSet around block transition) s =
        (.error e, { s with notifications := around.others block s.notifications })) ∨
      ((∀ e, around.setFault block ≠ .before e) ∧
        (exec (compareAndSet around block transition) s).2.stored = s.stored ++
          (if hasLease record (around.others block s.notifications) then [transition] else []) ∧
        hasLease record (exec (compareAndSet around block transition) s).2.notifications =
          false) := by
  have hset := setStatus_spec (s := { s with notifications := around.others block s.notifications }) h
  unfold compareAndSet
  rw [exec_bind, exec_modify]
  cases around.setFault block with
  | before e => exact Or.inl ⟨e, rfl, rfl⟩
  | none => exact Or.inr ⟨fun e => by simp, hset⟩
  | after e => exact Or.inr ⟨fun e => by simp, hset⟩

variable (around) in
/-- What a block does to the stores: it stops before the compare-and-set, its compare-and-set throws
before it writes, or the transition is written where the lease is there. -/
theorem exec_recordOutcome (block : Block) (h : TransitionOf record transition)
    (outcome : DeliveryOutcome) (errorMessage : Bool → Option String) (s : Stores) :
    (∃ message, around.held (.beforeSet block) = .error message ∧
        exec (recordOutcome around block record transition outcome errorMessage) s =
          (.error (.runtimeOwnership message), s)) ∨
      (around.held (.beforeSet block) = .ok () ∧ ∃ e, around.setFault block = .before e ∧
        exec (recordOutcome around block record transition outcome errorMessage) s =
          (.error e, { s with notifications := around.others block s.notifications })) ∨
      (around.held (.beforeSet block) = .ok () ∧ (∀ e, around.setFault block ≠ .before e) ∧
        (exec (recordOutcome around block record transition outcome errorMessage) s).2.stored =
          s.stored ++
            (if hasLease record (around.others block s.notifications) then [transition] else []) ∧
        hasLease record (exec (recordOutcome around block record transition outcome
          errorMessage) s).2.notifications = false) := by
  unfold recordOutcome finalizeTransition
  rw [exec_bind, exec_bind, exec_assertLocallyHeld]
  cases hheld : around.held (.beforeSet block) with
  | error message => exact Or.inl ⟨message, rfl, rfl⟩
  | ok _ =>
    refine Or.inr ?_
    dsimp only
    rw [exec_bind]
    rcases exec_compareAndSet around block h s with ⟨e, hfault, hexec⟩ | ⟨hfault, hset⟩
    · refine Or.inl ⟨rfl, e, hfault, ?_⟩
      rw [hexec]
    · refine Or.inr ⟨rfl, hfault, ?_⟩
      rcases hexec : exec (compareAndSet around block transition) s with ⟨result, s'⟩
      rw [hexec] at hset
      cases result with
      | error e => exact hset
      | ok finalized =>
        dsimp only
        rw [exec_bind, exec_assertLocallyHeld]
        cases around.held (.afterSet block) with
        | error message => exact hset
        | ok _ =>
          dsimp only
          rw [exec_pure]
          dsimp only
          rw [exec_bind]
          generalize OperatorNotificationDeliveryAttemptRecord.mk _ _ _ _ _ _ _ _ _ _ = attempt
          obtain ⟨hnotifications, hstored⟩ :=
            exec_saveAttemptRecord around block attempt s'
          rw [← hnotifications, ← hstored] at hset
          rcases hsave : exec (saveAttemptRecord around block attempt) s' with ⟨result, s''⟩
          rw [hsave] at hset
          cases result with
          | error e => exact hset
          | ok _ => exact hset

/-! ### A sent notification -/

theorem transitionOf_sent (record : ClaimedOperatorNotificationRecord) (attemptAt : String) :
    TransitionOf record (sentTransition record attemptAt) := ⟨rfl, rfl⟩

/-- No worker puts the token of this claim on the notification: tokens are created for one claim. -/
def OthersKeepTokens (around : Surroundings) (record : ClaimedOperatorNotificationRecord) : Prop :=
  ∀ block rows, hasLease record (around.others block rows) = true → hasLease record rows = true

/-- The `catch` block gets to its compare-and-set, finds the lease and writes. -/
structure Caught (around : Surroundings) (record : ClaimedOperatorNotificationRecord) (error : Thrown)
    (rows : List OperatorNotificationRecord) : Prop where
  handled : isRuntimeOwnershipFailure error = false
  held : around.held .inCatch = .ok () ∧ around.held (.beforeSet .caught) = .ok ()
  writes : ∀ e, around.setFault .caught ≠ .before e
  leased : hasLease record (around.others .caught rows) = true

/-- The compare-and-set to SENT throws before it writes, and the `catch` block writes. -/
structure MovedOnAfterSend (around : Surroundings) (configured : Bool)
    (record : ClaimedOperatorNotificationRecord) (rows : List OperatorNotificationRecord) : Prop where
  sends : around.held .atStart = .ok () ∧ record.deliveryStatus = .pending ∧ configured = true
  reaches : around.held .afterSend = .ok () ∧ around.held (.beforeSet .sent) = .ok ()
  throws : ∃ e, around.setFault .sent = .before e ∧ Caught around record e (around.others .sent rows)

variable {lib : Library} {settings : DeliverySettings} {configured : Bool} {attemptAt : String}

theorem recordOutcome_caught {outcome : DeliveryOutcome} {errorMessage : Bool → Option String}
    {error : Thrown} (h : TransitionOf record transition)
    (hhandled : isRuntimeOwnershipFailure error = false) (hcatch : around.held .inCatch = .ok ())
    (hstatus : transition.deliveryStatus ≠ .sent) :
    (Caught around record error s.notifications ∧ ∃ t : OperatorNotificationDeliveryTransition,
        t.deliveryStatus ≠ .sent ∧ (exec (recordOutcome around .caught record transition outcome
          errorMessage) s).2.stored = s.stored ++ [t]) ∨
      (¬ Caught around record error s.notifications ∧ (exec (recordOutcome around .caught record
        transition outcome errorMessage) s).2.stored = s.stored) := by
  rcases exec_recordOutcome around .caught h outcome errorMessage s with
    ⟨message, hheld, hexec⟩ | ⟨hheld, e, hfault, hexec⟩ | ⟨hheld, hfault, hstored, -⟩
  · refine Or.inr ⟨fun hcaught => ?_, by rw [hexec]⟩
    rw [hcaught.held.2] at hheld
    cases hheld
  · exact Or.inr ⟨fun hcaught => hcaught.writes e hfault, by rw [hexec]⟩
  · by_cases hlease : hasLease record (around.others .caught s.notifications) = true
    · rw [if_pos hlease] at hstored
      exact Or.inl ⟨⟨hhandled, ⟨hcatch, hheld⟩, hfault, hlease⟩, transition, hstatus, hstored⟩
    · rw [if_neg hlease, List.append_nil] at hstored
      exact Or.inr ⟨fun hcaught => hlease hcaught.leased, hstored⟩

variable (around record lib settings attemptAt) in
/-- The `catch` block stores a transition to FAILED or to a later attempt exactly when it is
`Caught`. -/
theorem exec_recordFailure (error : Thrown) (s : Stores) :
    (Caught around record error s.notifications ∧ ∃ t : OperatorNotificationDeliveryTransition,
        t.deliveryStatus ≠ .sent ∧
        (exec (recordFailure around lib settings record attemptAt error) s).2.stored =
          s.stored ++ [t]) ∨
      (¬ Caught around record error s.notifications ∧
        (exec (recordFailure around lib settings record attemptAt error) s).2.stored = s.stored) := by
  unfold recordFailure
  by_cases howner : isRuntimeOwnershipFailure error = true
  · rw [if_pos howner]
    refine Or.inr ⟨fun hcaught => ?_, rfl⟩
    rw [hcaught.handled] at howner
    cases howner
  · rw [if_neg howner]
    rw [exec_bind, exec_assertLocallyHeld]
    cases hcatch : around.held .inCatch with
    | error message =>
      refine Or.inr ⟨fun hcaught => ?_, rfl⟩
      have hheld := hcaught.held.1
      rw [hcatch] at hheld
      cases hheld
    | ok _ =>
      dsimp only
      have hhandled : isRuntimeOwnershipFailure error = false := by simpa using howner
      split_ifs with hretry
      · exact recordOutcome_caught ⟨rfl, rfl⟩ hhandled hcatch (by simp [retryTransition])
      · exact recordOutcome_caught ⟨rfl, rfl⟩ hhandled hcatch (by simp [failedTransition])

variable (attemptAt) in
/-- What the `try` block leaves for the `catch` block. -/
theorem exec_sendAndRecord (hsend : around.send = .ok ()) (s : Stores) :
    (∃ e, around.held .afterSend = .ok () ∧ around.held (.beforeSet .sent) = .ok () ∧
        around.setFault .sent = .before e ∧ exec (sendAndRecord around record attemptAt) s =
          (.error e, { s with notifications := around.others .sent s.notifications })) ∨
      ((around.held .afterSend = .ok () → around.held (.beforeSet .sent) = .ok () →
          ∀ e, around.setFault .sent ≠ .before e) ∧
        (∀ e, (exec (sendAndRecord around record attemptAt) s).1 = .error e →
          isRuntimeOwnershipFailure e = true ∨
            hasLease record (exec (sendAndRecord around record attemptAt) s).2.notifications = false) ∧
        ∀ t ∈ (exec (sendAndRecord around record attemptAt) s).2.stored,
          t ∈ s.stored ∨ t.deliveryStatus = .sent) := by
  have hsent : exec (sendMessage around) s = (.ok (), s) := by
    unfold sendMessage
    rw [hsend]
    rfl
  unfold sendAndRecord
  rw [exec_bind_ok hsent, exec_bind, exec_assertLocallyHeld]
  cases hafter : around.held .afterSend with
  | error message =>
    refine Or.inr ⟨fun h => (by cases h), fun e he => Or.inl ?_, fun t ht => Or.inl ht⟩
    rw [← Except.error.inj he]
    rfl
  | ok _ =>
    dsimp only
    rcases exec_recordOutcome around .sent (transitionOf_sent record attemptAt) .sent
      (fun finalized => if finalized then none else some "stale_lease_finalize") s with
      ⟨message, hheld, hexec⟩ | ⟨hheld, e, hfault, hexec⟩ | ⟨hheld, hfault, hstored, hlease⟩
    · rw [hexec]
      refine Or.inr ⟨fun _ h => ?_, fun e he => Or.inl ?_, fun t ht => Or.inl ht⟩
      · rw [hheld] at h
        cases h
      · rw [← Except.error.inj he]
        rfl
    · exact Or.inl ⟨e, rfl, hheld, hfault, hexec⟩
    · refine Or.inr ⟨fun _ _ => hfault, fun e _ => Or.inr hlease, fun t ht => ?_⟩
      rw [hstored] at ht
      rcases List.mem_append.mp ht with ht | ht
      · exact Or.inl ht
      · split_ifs at ht with hhad
        · rw [List.mem_singleton.mp ht]
          exact Or.inr rfl
        · cases ht

/-- **A sent notification is stored as unsent exactly when the compare-and-set to SENT throws before
it writes and the `catch` block then finds the lease.** -/
theorem undelivered_iff (hkeep : OthersKeepTokens around record) (hsend : around.send = .ok ())
    (rows : List OperatorNotificationRecord)
    (attempts : List OperatorNotificationDeliveryAttemptRecord) :
    (∀ t ∈ (exec (deliverRecord around lib settings configured record attemptAt)
        ⟨rows, attempts, []⟩).2.stored, t.deliveryStatus = .sent) ↔
      ¬ MovedOnAfterSend around configured record rows := by
  unfold deliverRecord
  rw [exec_bind, exec_assertLocallyHeld]
  cases hstart : around.held .atStart with
  | error message =>
    refine iff_of_true (fun t ht => absurd ht List.not_mem_nil) fun hmoved => ?_
    have hheld := hmoved.sends.1
    rw [hstart] at hheld
    cases hheld
  | ok _ =>
    dsimp only
    by_cases hskip : record.deliveryStatus ≠ .pending ∨ configured = false
    · rw [if_pos hskip]
      refine iff_of_true (fun t ht => absurd ht List.not_mem_nil) fun hmoved => ?_
      rcases hskip with hstatus | hconfigured
      · exact hstatus hmoved.sends.2.1
      · rw [hmoved.sends.2.2] at hconfigured
        cases hconfigured
    · rw [if_neg hskip, exec_tryCatch]
      rw [not_or, not_not, Bool.not_eq_false] at hskip
      rcases exec_sendAndRecord attemptAt hsend ⟨rows, attempts, []⟩ with
        ⟨e, hafter, hheld, hfault, hexec⟩ | ⟨hfault, herror, hstored⟩
      · rw [hexec]
        dsimp only
        rcases exec_recordFailure around record lib settings attemptAt e
          ⟨around.others .sent rows, attempts, []⟩ with ⟨hcaught, t, hstatus, hadded⟩ | ⟨hnot, hsame⟩
        · rw [hadded]
          refine iff_of_false (fun hall => hstatus (hall t (by simp))) (not_not.mpr ?_)
          exact ⟨⟨hstart, hskip⟩, ⟨hafter, hheld⟩, e, hfault, hcaught⟩
        · rw [hsame]
          refine iff_of_true (fun t ht => absurd ht List.not_mem_nil) fun hmoved => hnot ?_
          obtain ⟨e', hfault', hcaught⟩ := hmoved.throws
          rw [hfault] at hfault'
          rw [Fault.before.inj hfault']
          exact hcaught
      · have hunmoved : ¬ MovedOnAfterSend around configured record rows := by
          intro hmoved
          obtain ⟨e, hbefore, -⟩ := hmoved.throws
          exact hfault hmoved.reaches.1 hmoved.reaches.2 e hbefore
        refine iff_of_true ?_ hunmoved
        rcases hexec : exec (sendAndRecord around record attemptAt) ⟨rows, attempts, []⟩ with
          ⟨result, s'⟩
        rw [hexec] at herror hstored
        cases result with
        | ok delivered => exact fun t ht => (hstored t ht).resolve_left List.not_mem_nil
        | error e =>
          dsimp only
          rcases exec_recordFailure around record lib settings attemptAt e s' with
            ⟨hcaught, t, hstatus, hadded⟩ | ⟨hnot, hsame⟩
          · rcases herror e rfl with howner | hlease
            · rw [hcaught.handled] at howner
              cases howner
            · rw [hkeep _ _ hcaught.leased] at hlease
              cases hlease
          · rw [hsame]
            exact fun t ht => (hstored t ht).resolve_left List.not_mem_nil

/-! ### A locked database -/

/-- A notification with the lease of its first claim. -/
def claimedAlert : ClaimedOperatorNotificationRecord :=
  claimedRecord ⟨some 20, some "2026-01-02T00:00:01.000Z", "2026-01-02T00:00:01.000Z", "lease",
    "2026-01-02T00:00:31.000Z"⟩ (reportedRecord "alert" "account" "2026-01-02T00:00:00.000Z")

/-- The message is sent, and the next write of the repository fails once. -/
def lockedOnce : Surroundings where
  held _ := .ok ()
  send := .ok ()
  setFault block := if block = .sent then .before (.error "Error" "database is locked") else .none
  attemptFault _ := .none
  others _ rows := rows

def fiveAttempts : DeliverySettings := ⟨5, 15000, 300000⟩

/-- **The sent alert is stored as FAILED.** -/
theorem lockedOnce_stores_failed :
    (exec (deliverRecord lockedOnce codeUnits fiveAttempts true claimedAlert "2026-01-02T00:00:02.000Z")
        ⟨[claimedAlert.toOperatorNotificationRecord], [], []⟩).2.notifications.map
          (fun row => (row.deliveryStatus, row.lastError)) =
      [(.failed, some "database is locked")] := by
  decide +kernel

/-- The message is sent and stored as such, and the attempt cannot be noted. -/
def lockedAttempt : Surroundings :=
  { lockedOnce with
    setFault := fun _ => .none
    attemptFault := fun block =>
      if block = .sent then .before (.error "Error" "database is locked") else .none }

/-- The sent alert is stored once, as SENT. -/
theorem undelivered_iff_lockedAttempt :
    (exec (deliverRecord lockedAttempt codeUnits fiveAttempts true claimedAlert
        "2026-01-02T00:00:02.000Z") ⟨[claimedAlert.toOperatorNotificationRecord], [], []⟩).2.stored.length
          = 1 ∧
      ∀ t ∈ (exec (deliverRecord lockedAttempt codeUnits fiveAttempts true claimedAlert
        "2026-01-02T00:00:02.000Z") ⟨[claimedAlert.toOperatorNotificationRecord], [], []⟩).2.stored,
          t.deliveryStatus = .sent := by
  refine ⟨by decide +kernel, (undelivered_iff (fun _ _ h => h) rfl _ _).mpr fun hmoved => ?_⟩
  obtain ⟨e, hbefore, -⟩ := hmoved.throws
  cases hbefore

end AutoTrade.Telegram.DeliverRecord
