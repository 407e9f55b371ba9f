import Mathlib.Data.List.Basic

/-! # The ownership guard and its loss reasons

The part of `RuntimeOwnershipGuard` that a shutdown goes through: the status of the guard, the loss
reasons and `markLost`. A guard that is lost keeps its reason, except that a real loss replaces a
cleanup fence. The reason of a lost guard is part of its status, so a lost guard without a reason
cannot be built. -/

namespace AutoTrade.Runtime.OwnershipGuard

inductive OwnershipStatus
  | unowned
  | owned
  | lost (reason : String)
  deriving DecidableEq

/-- `snapshot().lossReason`. -/
def OwnershipStatus.lossReason : OwnershipStatus → Option String
  | .lost reason => some reason
  | _ => none

/-- `/^[A-Z][A-Z0-9_]{0,63}$/u`. -/
def isReasonCode (reason : String) : Bool :=
  match reason.toList with
  | [] => false
  | c :: rest =>
    c.isUpper && decide (rest.length ≤ 63) && rest.all fun d => d.isUpper || d.isDigit || d = '_'

def isCleanupFenceReason (reason : String) : Bool :=
  reason = "RUNTIME_SHUTDOWN" ∨ reason = "SCOPED_WORK_COMPLETE" ∨ reason = "STARTUP_FAILED"

def shouldRecordRuntimeOwnershipLoss (reason : String) : Bool :=
  reason ∈ ["PROCESS_LOCK_LOST", "PERSISTED_OWNERSHIP_MISMATCH", "OWNERSHIP_EXPIRED",
    "HEARTBEAT_EXPIRED", "HEARTBEAT_RENEWAL_MISMATCH", "HEARTBEAT_RENEWAL_FAILED",
    "RUNTIME_WORK_QUIESCENCE_FAILED", "SCOPED_WORK_QUIESCENCE_FAILED"]

/-- The status `markLost` leaves; a text that is no reason code throws before anything changes. -/
def markLost (status : OwnershipStatus) (reason : String) : OwnershipStatus :=
  if isReasonCode reason = false then status
  else
    match status with
    | .lost current =>
      if isCleanupFenceReason current = false ∨ isCleanupFenceReason reason then status
      else .lost reason
    | _ => .lost reason

/-- `context.fence(reason)`: the status it leaves, and whether it throws. The loss listeners run
after the status is set, so a listener that throws does not undo it. -/
def fence (status : OwnershipStatus) (reason : String) (listenersThrow : Bool) :
    OwnershipStatus × Bool :=
  (markLost status reason,
    isReasonCode reason = false || (listenersThrow && decide (markLost status reason ≠ status)))

variable {current : String}

theorem markLost_of_hard (h : isCleanupFenceReason current = false) (reason : String) :
    markLost (.lost current) reason = .lost current := by
  unfold markLost
  split
  · rfl
  · simp [h]

theorem foldl_markLost_of_hard (h : isCleanupFenceReason current = false) (marks : List String) :
    marks.foldl markLost (.lost current) = .lost current := by
  induction marks with
  | nil => rfl
  | cons reason marks ih => rw [List.foldl_cons, markLost_of_hard h, ih]

theorem markLost_of_cleanup {current reason : String} (hc : isCleanupFenceReason current = true)
    (hr : isReasonCode reason = true) (hh : isCleanupFenceReason reason = false) :
    markLost (.lost current) reason = .lost reason := by
  unfold markLost
  simp [hc, hr, hh]

/-! ### The first real loss -/

/-- A loss that a cleanup fence does not hide. -/
def isHardLoss (reason : String) : Bool := isReasonCode reason && !isCleanupFenceReason reason

/-- The first real loss of a guard that is marked with the given reasons in turn. -/
def firstHardLoss (status : OwnershipStatus) (marks : List String) : Option String :=
  match status with
  | .lost reason =>
    if isCleanupFenceReason reason then marks.find? isHardLoss else some reason
  | _ => marks.find? isHardLoss

/-- A fenced guard, marked while its workers stop, holds its first real loss, or a cleanup reason
when there was none. -/
theorem foldl_markLost_cleanup (hc : isCleanupFenceReason current = true) (marks : List String) :
    (∃ reason, marks.find? isHardLoss = some reason ∧
        marks.foldl markLost (.lost current) = .lost reason) ∨
      (marks.find? isHardLoss = none ∧ ∃ reason, isCleanupFenceReason reason = true ∧
        marks.foldl markLost (.lost current) = .lost reason) := by
  induction marks with
  | nil => exact Or.inr ⟨rfl, current, hc, rfl⟩
  | cons mark marks ih =>
    by_cases hh : isHardLoss mark = true
    · have hparts : isReasonCode mark = true ∧ isCleanupFenceReason mark = false := by
        simpa [isHardLoss] using hh
      refine Or.inl ⟨mark, by simp [hh], ?_⟩
      rw [List.foldl_cons, markLost_of_cleanup hc hparts.1 hparts.2,
        foldl_markLost_of_hard hparts.2]
    · have hkeep : markLost (.lost current) mark = .lost current := by
        unfold isHardLoss at hh
        unfold markLost
        by_cases hr : isReasonCode mark = true
        · have hm : isCleanupFenceReason mark = true := by simpa [hr] using hh
          simp [hr, hm]
        · simp [hr]
      rw [List.foldl_cons, hkeep, List.find?_cons_of_neg (by simpa using hh)]
      exact ih

end AutoTrade.Runtime.OwnershipGuard
