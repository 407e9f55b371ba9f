import AutoTrade.Lib.Run
import AutoTrade.Lib.Table
import Mathlib.Data.List.Sort
import Mathlib.Algebra.Group.Int.Defs

/-! # The delivery of operator notifications

Notifications of the in-memory repository: `saveOperatorNotification`,
`claimPendingOperatorNotifications` and `compareAndSetOperatorNotificationDeliveryStatus`, with the
records the reporter saves and the transitions `deliverRecord` builds from a claimed copy.

`localeCompare` and the arithmetic on timestamps are the fields of a `Library`. -/

namespace AutoTrade.Telegram.Delivery

/-! ### Records -/

inductive OperatorNotificationStatus
  | pending
  | sent
  | failed
  deriving DecidableEq

inductive OperatorNotificationFailureClass
  | retryable
  | permanent
  deriving DecidableEq

structure OperatorNotificationRecord where
  id : String
  exchangeAccountId : String
  deliveryStatus : OperatorNotificationStatus
  attemptCount : ℕ
  lastAttemptAt : Option String
  nextAttemptAt : Option String
  failureClass : Option OperatorNotificationFailureClass
  leaseToken : Option String
  leaseExpiresAt : Option String
  createdAt : String
  deliveredAt : Option String
  lastError : Option String

/-- A record with a lease on it. -/
structure ClaimedOperatorNotificationRecord extends OperatorNotificationRecord where
  claimToken : String
  leased : leaseToken = some claimToken

structure OperatorNotificationDeliveryTransition where
  id : String
  leaseToken : String
  deliveryStatus : OperatorNotificationStatus
  attemptCount : ℕ
  lastAttemptAt : String
  nextAttemptAt : Option String
  failureClass : Option OperatorNotificationFailureClass
  deliveredAt : Option String
  lastError : Option String

structure Library where
  localeCompare : String → String → ℤ
  addMillisecondsToIso : String → ℤ → String

/-! ### The repository -/

/-- The first record of the id is replaced; `none` if there is none. -/
def replaceFirst (record : OperatorNotificationRecord) :
    List OperatorNotificationRecord → Option (List OperatorNotificationRecord)
  | [] => none
  | first :: rest =>
    if first.id = record.id then some (record :: rest)
    else (replaceFirst record rest).map (first :: ·)

def saveOperatorNotification (notifications : List OperatorNotificationRecord)
    (record : OperatorNotificationRecord) : Except String (List OperatorNotificationRecord) :=
  if notifications.any (·.id = record.id) then
    .error ("Operator notification " ++ record.id ++ " already exists.")
  else .ok (notifications ++ [record])

structure ClaimInput where
  limit : Option ℤ
  dueBefore : Option String
  claimedAt : String
  leaseToken : String
  leaseExpiresAt : String

/-- An absent time or an absent bound is met. -/
def isDue (lib : Library) (time dueBefore : Option String) : Bool :=
  match time, dueBefore with
  | some time, some dueBefore => lib.localeCompare time dueBefore ≤ 0
  | _, _ => true

def isClaimable (lib : Library) (exchangeAccountId : String) (dueBefore : Option String)
    (candidate : OperatorNotificationRecord) : Bool :=
  candidate.exchangeAccountId = exchangeAccountId ∧ candidate.deliveryStatus = .pending ∧
    isDue lib candidate.nextAttemptAt dueBefore ∧ isDue lib candidate.leaseExpiresAt dueBefore

/-- The comparison of the claim: by due time, then by creation. -/
def isDueFirst (lib : Library) (left right : OperatorNotificationRecord) : Prop :=
  let byDue := lib.localeCompare (left.nextAttemptAt.getD left.createdAt)
    (right.nextAttemptAt.getD right.createdAt)
  if byDue ≠ 0 then byDue ≤ 0 else lib.localeCompare left.createdAt right.createdAt ≤ 0

instance (lib : Library) : DecidableRel (isDueFirst lib) := fun left right => by
  unfold isDueFirst
  infer_instance

/-- `slice(0, limit)`: a negative limit counts from the end. -/
def sliceTo {α : Type} (limit : ℤ) (items : List α) : List α :=
  if 0 ≤ limit then items.take limit.toNat else items.take (items.length - limit.natAbs)

def selectClaimable (lib : Library) (notifications : List OperatorNotificationRecord)
    (exchangeAccountId : String) (input : ClaimInput) : List OperatorNotificationRecord :=
  let candidates := (notifications.filter
    (isClaimable lib exchangeAccountId input.dueBefore)).insertionSort (isDueFirst lib)
  match input.limit with
  | some limit => sliceTo limit candidates
  | none => candidates

def claimedRecord (input : ClaimInput) (candidate : OperatorNotificationRecord) :
    ClaimedOperatorNotificationRecord :=
  { candidate with
    attemptCount := candidate.attemptCount + 1
    lastAttemptAt := some input.claimedAt
    leaseToken := some input.leaseToken
    leaseExpiresAt := some input.leaseExpiresAt
    claimToken := input.leaseToken
    leased := rfl }

/-- The `map` over the selected records. -/
def claimSelected (input : ClaimInput) : List OperatorNotificationRecord →
    List OperatorNotificationRecord →
    Except String (List OperatorNotificationRecord × List ClaimedOperatorNotificationRecord)
  | notifications, [] => .ok (notifications, [])
  | notifications, candidate :: rest => do
    let claimed := claimedRecord input candidate
    match replaceFirst claimed.toOperatorNotificationRecord notifications with
    | none => .error ("Operator notification " ++ candidate.id ++ " is missing.")
    | some notifications =>
      let (notifications, copies) ← claimSelected input notifications rest
      .ok (notifications, claimed :: copies)

def claimPendingOperatorNotifications (lib : Library)
    (notifications : List OperatorNotificationRecord) (exchangeAccountId : String)
    (input : ClaimInput) :
    Except String (List OperatorNotificationRecord × List ClaimedOperatorNotificationRecord) :=
  claimSelected input notifications (selectClaimable lib notifications exchangeAccountId input)

/-- The record after a transition; its lease is over. -/
def transitioned (current : OperatorNotificationRecord)
    (transition : OperatorNotificationDeliveryTransition) : OperatorNotificationRecord :=
  { current with
    deliveryStatus := transition.deliveryStatus
    attemptCount := transition.attemptCount
    lastAttemptAt := some transition.lastAttemptAt
    nextAttemptAt := transition.nextAttemptAt
    failureClass := transition.failureClass
    leaseToken := none
    leaseExpiresAt := none
    deliveredAt := transition.deliveredAt
    lastError := transition.lastError }

/-- The records after the call, if it answers `true`. -/
def compareAndSetOperatorNotificationDeliveryStatus
    (notifications : List OperatorNotificationRecord)
    (transition : OperatorNotificationDeliveryTransition) :
    Option (List OperatorNotificationRecord) :=
  match notifications.find? (·.id = transition.id) with
  | none => none
  | some current =>
    if current.leaseToken ≠ some transition.leaseToken then none
    else replaceFirst (transitioned current transition) notifications

/-! ### The reporter and the delivery -/

/-- The record that `OperatorNotificationReporter` saves. -/
def reportedRecord (id exchangeAccountId createdAt : String) : OperatorNotificationRecord where
  id
  exchangeAccountId
  deliveryStatus := .pending
  attemptCount := 0
  lastAttemptAt := none
  nextAttemptAt := none
  failureClass := none
  leaseToken := none
  leaseExpiresAt := none
  createdAt
  deliveredAt := none
  lastError := none

/-- `maxAttempts()`, `baseBackoffMs()` and `maxBackoffMs()`. -/
structure DeliverySettings where
  maxAttempts : ℕ
  baseBackoffMs : ℕ
  maxBackoffMs : ℕ

structure TelegramDeliveryError where
  message : String
  failureClass : OperatorNotificationFailureClass
  retryAfterMs : Option ℤ

def clampBackoff (delayMs minimumMs maximumMs : ℤ) : ℤ := min (max delayMs minimumMs) maximumMs

def resolveRetryDelayMs (settings : DeliverySettings) (attemptCount : ℕ)
    (retryAfterMs : Option ℤ) : ℤ :=
  match retryAfterMs with
  | some retryAfterMs => clampBackoff retryAfterMs settings.baseBackoffMs settings.maxBackoffMs
  | none => clampBackoff (settings.baseBackoffMs * 2 ^ (attemptCount - 1)) settings.baseBackoffMs
      settings.maxBackoffMs

def sentTransition (record : ClaimedOperatorNotificationRecord) (attemptAt : String) :
    OperatorNotificationDeliveryTransition where
  id := record.id
  leaseToken := record.claimToken
  deliveryStatus := .sent
  attemptCount := record.attemptCount
  lastAttemptAt := attemptAt
  nextAttemptAt := none
  failureClass := none
  deliveredAt := some attemptAt
  lastError := none

def retryTransition (lib : Library) (settings : DeliverySettings)
    (record : ClaimedOperatorNotificationRecord) (attemptAt : String)
    (error : TelegramDeliveryError) : OperatorNotificationDeliveryTransition where
  id := record.id
  leaseToken := record.claimToken
  deliveryStatus := .pending
  attemptCount := record.attemptCount
  lastAttemptAt := attemptAt
  nextAttemptAt := some (lib.addMillisecondsToIso attemptAt
    (resolveRetryDelayMs settings record.attemptCount error.retryAfterMs))
  failureClass := some .retryable
  deliveredAt := none
  lastError := some error.message

def failedTransition (record : ClaimedOperatorNotificationRecord) (attemptAt : String)
    (error : TelegramDeliveryError) : OperatorNotificationDeliveryTransition where
  id := record.id
  leaseToken := record.claimToken
  deliveryStatus := .failed
  attemptCount := record.attemptCount
  lastAttemptAt := attemptAt
  nextAttemptAt := none
  failureClass := some error.failureClass
  deliveredAt := none
  lastError := some error.message

/-- The transition with which `deliverRecord` finalizes: after the message was sent, or after an
error of the call or of what follows it. A record that is not pending is not delivered. -/
def deliveryTransition (lib : Library) (settings : DeliverySettings)
    (record : ClaimedOperatorNotificationRecord) (attemptAt : String)
    (error : Option TelegramDeliveryError) : Option OperatorNotificationDeliveryTransition :=
  if record.deliveryStatus ≠ .pending then none
  else match error with
    | none => some (sentTransition record attemptAt)
    | some error =>
      if error.failureClass = .retryable ∧ record.attemptCount < settings.maxAttempts then
        some (retryTransition lib settings record attemptAt error)
      else some (failedTransition record attemptAt error)

/-! ### Workers on one repository -/

/-- The records, the copies that claims have handed out, the oldest first, and the transitions to SENT
or FAILED that were stored, with their ids. -/
structure World where
  notifications : List OperatorNotificationRecord
  claims : List ClaimedOperatorNotificationRecord
  finalized : List (String × OperatorNotificationStatus)

def World.empty : World := ⟨[], [], []⟩

inductive Event
  /-- A notification is reported. -/
  | report (id exchangeAccountId createdAt : String)
  /-- Some worker claims what is due by its clock. -/
  | claim (exchangeAccountId : String) (input : ClaimInput)
  /-- The worker that holds the copy at this position finalizes it, by its settings and its clock. -/
  | finalize (position : ℕ) (settings : DeliverySettings) (attemptAt : String)
      (error : Option TelegramDeliveryError)

/-- The records after a worker has finalized the copy, if the call answered `true`. -/
def finalizeClaim (lib : Library) (w : World) (position : ℕ) (settings : DeliverySettings)
    (attemptAt : String) (error : Option TelegramDeliveryError) : Option World := do
  let copy ← w.claims[position]?
  let transition ← deliveryTransition lib settings copy attemptAt error
  let notifications ←
    compareAndSetOperatorNotificationDeliveryStatus w.notifications transition
  return { w with
    notifications
    finalized := if transition.deliveryStatus = .pending then w.finalized
      else w.finalized ++ [(copy.id, transition.deliveryStatus)] }

def step (lib : Library) (w : World) : Event → World
  | .report id exchangeAccountId createdAt =>
    match saveOperatorNotification w.notifications
      (reportedRecord id exchangeAccountId createdAt) with
    | .error _ => w
    | .ok notifications => { w with notifications }
  | .claim exchangeAccountId input =>
    match claimPendingOperatorNotifications lib w.notifications exchangeAccountId input with
    | .error _ => w
    | .ok (notifications, copies) => { w with notifications, claims := w.claims ++ copies }
  | .finalize position settings attemptAt error =>
    (finalizeClaim lib w position settings attemptAt error).getD w

/-- No copy that was handed out has the token of this claim. -/
def FreshToken (w : World) : Event → Prop
  | .claim _ input => ∀ copy ∈ w.claims, copy.claimToken ≠ input.leaseToken
  | _ => True

instance (w : World) (e : Event) : Decidable (FreshToken w e) := by
  unfold FreshToken
  cases e <;> infer_instance

end AutoTrade.Telegram.Delivery
