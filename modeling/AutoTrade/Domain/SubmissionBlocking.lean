import AutoTrade.Domain.Types
import AutoTrade.Lib.Text
import Mathlib.Data.List.Sort

/-! # Submission-blocking orders

`classifySubmissionBlockingOrder` of `src/domain/submission-blocking-order.ts`: whether a persisted
order, with its events and recovery observations, keeps the account from submitting another one. An
order in an active lifecycle status blocks; a `FAILED` or `REJECTED` one blocks as long as it may
have reached the exchange and nothing proves that it is gone. -/

namespace AutoTrade.Domain.SubmissionBlocking

open Domain.Types Lib.Text

/-- `SUBMISSION_BLOCKING_CANDIDATE_STATUSES`. -/
def submissionBlockingCandidateStatuses : List OrderLifecycleStatus :=
  [.intentCreated, .persisted, .submitting, .open, .partiallyFilled, .cancelRequested,
    .reconciliationRequired, .failed, .rejected]

/-- `ACTIVE_SUBMISSION_STATUSES`. -/
def activeSubmissionStatuses : List OrderLifecycleStatus :=
  [.intentCreated, .persisted, .submitting, .open, .partiallyFilled, .cancelRequested,
    .reconciliationRequired]

/-- `DISPATCH_EVIDENCE_EVENTS`. -/
def dispatchEvidenceEvents : List String :=
  ["ORDER_SUBMITTED", "ORDER_FILLED", "ORDER_CANCELED", "ORDER_REJECTED",
    "RECONCILIATION_RECOVERY_REQUIRED", "RECONCILIATION_STATUS_UPDATED",
    "RECONCILIATION_IDENTIFIER_RECOVERY_OBSERVED"]

/-- `UNCERTAIN_FAILURE_CODES`. -/
def uncertainFailureCodes : List String :=
  ["EXCHANGE_SUBMISSION_FAILED", "RECONCILIATION_REQUIRED", "SUBMISSION_RESPONSE_UNCERTAIN"]

inductive SubmissionBlockingReasonCode
  | activeSubmissionLifecycle
  | unresolvedPotentiallyDispatched
  | definitivePreSendTerminal
  | exchangeRejectionConfirmed
  | boundedAbsenceConfirmed
  | resolvedTerminal
  deriving DecidableEq

structure SubmissionBlockingClassification where
  blocking : Bool
  reasonCode : SubmissionBlockingReasonCode
  reason : String

/-- At least two `NOT_FOUND` observations that are not all of one instant. -/
def boundedAbsenceObserved (observations : List OrderSubmissionRecoveryObservationRecord) : Bool :=
  let epochs := ((observations.filter fun o => o.outcome = .notFound).map
    OrderSubmissionRecoveryObservationRecord.observedAtEpochMs).insertionSort (· ≤ ·)
  match epochs.head?, epochs.getLast? with
  | some first, some last => epochs.length ≥ 2 ∧ last > first
  | _, _ => false

/-- The failure code alone says that the order may have been dispatched. -/
def isUncertainFailureCode (code : String) : Bool :=
  code ∈ uncertainFailureCodes ∨ includes code "UNCERTAIN" ∨ includes code "RECONCILIATION"

def hasDispatchEvidence (order : OrderRecord) (events : List OrderEventRecord)
    (foundObserved : Bool) : Bool :=
  order.upbitUuid.isSome || order.exchangeResponseJson.isSome || foundObserved ||
    events.any (fun event => event.eventType ∈ dispatchEvidenceEvents) ||
    order.failureCode.any isUncertainFailureCode

def classifySubmissionBlockingOrder (order : OrderRecord) (events : List OrderEventRecord)
    (recoveryObservations : List OrderSubmissionRecoveryObservationRecord) :
    SubmissionBlockingClassification :=
  let foundObserved := recoveryObservations.any fun o => o.outcome = .found
  let submitted := events.any fun e => e.eventType = "ORDER_SUBMITTED"
  let recoveryRequired := events.any fun e => e.eventType = "RECONCILIATION_RECOVERY_REQUIRED"
  let absenceConfirmed := events.any fun e =>
    e.eventType = "RECONCILIATION_IDENTIFIER_ABSENCE_CONFIRMED" ∧ e.eventSource = .reconciliation
  let exchangeRejected := events.any fun e =>
    e.eventType = "ORDER_REJECTED" ∧ e.eventSource = .exchange
  if order.status ∈ activeSubmissionStatuses then
    ⟨true, .activeSubmissionLifecycle,
      "Order " ++ order.id ++ " remains in submission-blocking lifecycle " ++ order.status.text ++
        "."⟩
  else if order.status ≠ .failed ∧ order.status ≠ .rejected then
    ⟨false, .resolvedTerminal, "Order " ++ order.id ++ " is terminal and resolved."⟩
  else if order.status = .failed ∧ order.failureCode = some "ORDER_SUBMISSION_ABSENCE_CONFIRMED" ∧
      absenceConfirmed ∧ boundedAbsenceObserved recoveryObservations ∧ foundObserved = false ∧
      submitted = false ∧ order.upbitUuid = none then
    ⟨false, .boundedAbsenceConfirmed,
      "Order " ++ order.id ++ " has durable bounded exchange-absence authority."⟩
  else if order.status = .rejected ∧ order.failureCode = some "EXCHANGE_ORDER_REJECTED" ∧
      exchangeRejected ∧ foundObserved = false ∧ submitted = false ∧ recoveryRequired = false ∧
      order.upbitUuid = none then
    ⟨false, .exchangeRejectionConfirmed,
      "Order " ++ order.id ++ " has a definitive persisted exchange rejection."⟩
  else if hasDispatchEvidence order events foundObserved = false then
    ⟨false, .definitivePreSendTerminal,
      "Order " ++ order.id ++ " terminated before any persisted exchange-dispatch evidence."⟩
  else
    ⟨true, .unresolvedPotentiallyDispatched,
      "Order " ++ order.id ++ " is " ++ order.status.text ++
        " with unresolved persisted exchange-dispatch evidence."⟩

variable {order : OrderRecord}

theorem blocking_of_active (h : order.status ∈ activeSubmissionStatuses)
    (events : List OrderEventRecord)
    (observations : List OrderSubmissionRecoveryObservationRecord) :
    (classifySubmissionBlockingOrder order events observations).blocking = true := by
  unfold classifySubmissionBlockingOrder
  simp [h]

theorem candidate_of_blocking {events : List OrderEventRecord}
    {observations : List OrderSubmissionRecoveryObservationRecord}
    (h : (classifySubmissionBlockingOrder order events observations).blocking = true) :
    order.status ∈ submissionBlockingCandidateStatuses := by
  unfold classifySubmissionBlockingOrder at h
  by_cases hactive : order.status ∈ activeSubmissionStatuses
  · revert hactive
    cases order.status <;> decide
  · rw [if_neg hactive] at h
    by_cases hterminal : order.status ≠ .failed ∧ order.status ≠ .rejected
    · rw [if_pos hterminal] at h
      simp at h
    · revert hterminal
      cases order.status <;> decide

end AutoTrade.Domain.SubmissionBlocking
