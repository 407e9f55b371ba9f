import AutoTrade.Execution.Service

/-! # What a call has done so far

The log of a call of `submitOrderFromDecision`, kept from the operations it awaited and the replies
it got: the ids it was given, its lease token and its order, how far it came, for which order
`createOrder` was invoked and what the adapter did.

`protocol` says what a call may await at each stage. That the service keeps to it is proved in
`Execution.Conformance`; what the lease and order rows of several calls look like when all of them
keep to it, in `Execution.System`. -/

namespace AutoTrade.Execution.CallLog

open Lib.Awaits Domain.Types
open Execution.Records Execution.Helpers

variable {Num : Type}

/-- How far a call came. `abandoned`: it is leaving the method with its order active and the lease
to be released. -/
inductive Stage
  | starting
  | persisted
  | submitting
  | renewed
  | sent
  | settled
  | abandoned
  deriving DecidableEq

/-- What the adapter did once `createOrder` was invoked. -/
inductive AdapterOutcome
  | pending
  | threw (e : Thrown)
  | fulfilled (snapshot : ExchangeOrderSnapshot)
  | rejected (e : Thrown)
  deriving DecidableEq

structure Log (Num : Type) where
  deps : Dependencies Num
  input : SubmitOrderFromDecisionInput Num
  ids : List String := []
  leaseToken : Option String := none
  /-- The order handed to the repository as an intent. -/
  intent : Option OrderRecord := none
  stage : Stage := .starting
  /-- The order for which `createOrder` was invoked. -/
  sent : Option String := none
  outcome : Option AdapterOutcome := none
  /-- After the send, a response or its failure is being persisted. -/
  settling : Bool := false
  /-- A read of the clock threw what looks like a definitive rejection. -/
  clockRefusal : Bool := false
  /-- `releaseLease` was called. -/
  released : Bool := false

namespace Log

variable (log : Log Num)

def account : String := log.input.exchangeAccountId

/-- The adapter fulfilled with a response that results in `FILLED`. -/
def Filled : Prop :=
  ∃ snapshot, log.outcome = some (.fulfilled snapshot) ∧
    resultingStatus log.deps log.input snapshot = .filled

/-- The adapter rejected, or threw at once, with a definitive rejection that is not about a
duplicate identifier. -/
def Refused : Prop :=
  ∃ e, (log.outcome = some (.rejected e) ∨ log.outcome = some (.threw e)) ∧
    isDefinitiveRejection e = true

/-- The call may hand this order to the repository as its intent. -/
def MayPersist (order : OrderRecord) : Prop :=
  log.stage = .starting ∧ log.intent = none ∧ log.released = false ∧ order.id ∈ log.ids ∧
    order.exchangeAccountId = log.account

/-- A version of the call's own order. -/
def Own (order : OrderRecord) : Prop :=
  ∃ intent, log.intent = some intent ∧ order.id = intent.id ∧
    order.exchangeAccountId = log.account

def MayRelease : Prop :=
  log.stage = .starting ∨ log.stage = .settled ∨ log.stage = .abandoned

def Allowed : Op → Prop
  | .acquireLease input =>
    log.leaseToken = none ∧ input.ownerToken ∈ log.ids ∧ input.exchangeAccountId = log.account
  | .persistOrderIntent input => log.MayPersist input.order
  | .persistCandidateBoundOrderIntent input =>
    log.MayPersist input.order ∧ input.event.orderId = input.order.id
  | .updateOrder order => log.stage = .persisted ∧ log.Own order ∧ order.status = .submitting
  | .renewLease input =>
    log.stage = .submitting ∧ log.leaseToken = some input.ownerToken ∧
      input.exchangeAccountId = log.account
  | .runWithCurrentExecutionAuthority _ orderId _ =>
    log.stage = .renewed ∧ ∃ intent, log.intent = some intent ∧ intent.id = orderId
  | .exchangeOrder => log.outcome = some .pending
  | .persistExchangeSubmission input =>
    log.stage = .sent ∧ log.Own input.order ∧ (input.order.status = .filled → log.Filled) ∧
      (input.order.status = .rejected → log.Refused ∨ log.clockRefusal = true)
  | .persistUncertainSubmission input => log.stage = .sent ∧ log.Own input.order
  | .releaseLease account ownerToken =>
    log.MayRelease ∧ log.leaseToken = some ownerToken ∧ account = log.account
  | _ => True

/-! ### Replies -/

/-- The fault pause of a submission that could not be persisted. -/
def isPostSendFault (faultId : String) : Bool :=
  "post-send-persistence:".toList.isPrefixOf faultId.toList

def isPostSendPersistence : Thrown → Bool
  | .postSendPersistence _ => true
  | _ => false

/-- A status an exchange submission can end with. -/
def isFinalStatus (status : OrderLifecycleStatus) : Bool :=
  status = .filled ∨ status = .rejected

def intentPersisted (order : OrderRecord) (ok : Bool) : Log Num :=
  { log with intent := some order, stage := if ok then .persisted else log.stage }

def submissionPersisted (order : OrderRecord) (ok : Bool) : Log Num :=
  { log with
    settling := true
    stage := if ok && isFinalStatus order.status then .settled else log.stage }

/-- The log with a reply, apart from a slip. -/
def advance : (op : Op) → Reply Num op → Log Num
  | .createId _, .ok id => { log with ids := id :: log.ids }
  | .acquireLease input, _ => { log with leaseToken := some input.ownerToken }
  | .persistOrderIntent input, reply => log.intentPersisted input.order reply.isOk
  | .persistCandidateBoundOrderIntent input, reply => log.intentPersisted input.order reply.isOk
  | .updateOrder _, .ok _ => { log with stage := .submitting }
  | .renewLease _, .ok (some _) => { log with stage := .renewed }
  | .runWithCurrentExecutionAuthority _ orderId _, .ok thrown =>
    { log with
      stage := .sent
      sent := some orderId
      outcome := some (thrown.elim .pending .threw) }
  | .exchangeOrder, .ok snapshot => { log with outcome := some (.fulfilled snapshot) }
  | .exchangeOrder, .error e => { log with outcome := some (.rejected e) }
  | .persistExchangeSubmission input, reply => log.submissionPersisted input.order reply.isOk
  | .persistUncertainSubmission _, _ => { log with settling := true }
  | .pauseForFault input, _ =>
    { log with settling := log.settling || isPostSendFault input.faultId }
  | .now _, .error e => { log with clockRefusal := log.clockRefusal || isDefinitiveRejection e }
  | .releaseLease _ _, _ => { log with released := true }
  | _, _ => log

/-- The replies after which the call leaves the method with its order active and releases the
lease: the order could not be made `SUBMITTING`, the clock threw where no handler keeps the lease,
or the adapter or the clock threw a `PostSendPersistenceSafetyError`. -/
def slips : (op : Op) → Reply Num op → Bool
  | .updateOrder _, .error _ => log.stage = .persisted
  | .now .renewalAt, .error _ => log.stage = .submitting
  | .now .rejectedAt, .error _ => log.stage = .sent ∧ log.settling = false
  | .now .uncertainAt, .error _ => log.stage = .sent ∧ log.settling = false
  | .now .submittedAt, .error e => log.stage = .sent ∧ isPostSendPersistence e
  | .now .settledAt, .error e => log.stage = .sent ∧ isPostSendPersistence e
  | .runWithCurrentExecutionAuthority _ _ _, .ok (some e) => isPostSendPersistence e
  | .assertCurrent, .ok _ =>
    match log.outcome with
    | some (.rejected e) => log.stage = .sent ∧ isPostSendPersistence e
    | _ => false
  | _, _ => false

def record (op : Op) (reply : Reply Num op) : Log Num :=
  if log.slips op reply then { log.advance op reply with stage := .abandoned }
  else log.advance op reply

variable {log}

theorem record_of_slips {op : Op} {reply : Reply Num op} (h : log.slips op reply = true) :
    log.record op reply = { log.advance op reply with stage := .abandoned } := if_pos h

theorem record_of_not_slips {op : Op} {reply : Reply Num op} (h : log.slips op reply = false) :
    log.record op reply = log.advance op reply := by
  unfold record
  rw [h]
  rfl

end Log

/-- The replies that can come: ids and the system clock do not fail, and the repository refuses a
submission with a status that it does not support. -/
def Possible : (op : Op) → Reply Num op → Prop
  | .createId _, reply => reply.isOk = true
  | .systemClock, reply => reply.isOk = true
  | .persistExchangeSubmission input, reply =>
    reply.isOk = true → input.order.status = .open ∨ input.order.status = .partiallyFilled ∨
      input.order.status = .filled ∨ input.order.status = .rejected
  | _, _ => True

def protocol : Protocol Op (Reply Num) (Log Num) where
  allowed := Log.Allowed
  possible := Possible
  next := Log.record

end AutoTrade.Execution.CallLog
