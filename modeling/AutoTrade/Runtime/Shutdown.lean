import AutoTrade.Runtime.OwnershipGuard

/-! # Shutting the runtime down

The two shutdown procedures: `stopOwnedAppRuntime` of the long-running process and, for scoped work,
`stopScopedApplicationRuntime` followed by `releaseScopedRuntimeOwnership`. They stop three workers
(notification delivery, inbound polling, the scheduler), wait for them, and then give up what the
process holds: the application database, the ownership database, the persisted ownership and the
process lock. The model returns what was given up, in order.

Everything the procedures do not control is in `Workers` and `Environment`: how each stop call ends,
which losses are marked on the guard during an await, whether a listener throws, how the ownership
store answers. A worker without a `stopAndWait` of its own is one whose wait is fulfilled at once.

The long-running procedure decides by what its own steps returned. The scoped one sends the failure
as a loss reason through the guard, which ignores it once a real loss is recorded: then the lock is
released beside live workers (`expired_owner_releases_lock`). -/

namespace AutoTrade.Runtime.Shutdown

open Runtime.OwnershipGuard

/-! ### Workers -/

/-- How a call of `stopAndWait` ends within the timeout. -/
inductive Settlement (α : Type)
  | fulfilled (value : α)
  | rejected
  | threw
  | pending

structure DeliveryStopStatus where
  quiesced : Bool

structure InboundPollingStatus where
  running : Bool

/-- The running flags of the markets, and the optional `quiesced`. -/
structure SchedulerStopStatus where
  marketsRunning : List Bool
  quiesced : Option Bool

/-- The outcomes of the worker stop calls: whether each `stop()` returned, and how each
`stopAndWait` ended. -/
structure Workers where
  deliveryStopped : Bool
  inboundStopped : Bool
  schedulerStopped : Bool
  delivery : Settlement DeliveryStopStatus
  inbound : Settlement InboundPollingStatus
  scheduler : Settlement SchedulerStopStatus

/-- **Every worker reported quiescence.** -/
def Workers.Quiesced (w : Workers) : Prop :=
  (w.deliveryStopped = true ∧ ∃ d, w.delivery = .fulfilled d ∧ d.quiesced = true) ∧
    (w.inboundStopped = true ∧ ∃ i, w.inbound = .fulfilled i ∧ i.running = false) ∧
    (w.schedulerStopped = true ∧ ∃ s, w.scheduler = .fulfilled s ∧ s.quiesced ≠ some false ∧
      true ∉ s.marketsRunning)

/-- All three `stop()` calls returned. -/
def Workers.stopsReturned (w : Workers) : Bool :=
  w.deliveryStopped && w.inboundStopped && w.schedulerStopped

/-- The race of the three waits against the timeout, and the check of what they reported. A wait
that throws, rejects or is still pending at the timeout fails it. -/
def Workers.settledQuiescent (w : Workers) : Bool :=
  match w.delivery, w.inbound, w.scheduler with
  | .fulfilled d, .fulfilled i, .fulfilled s =>
    !(!d.quiesced || i.running || s.quiesced == some false || s.marketsRunning.any id)
  | _, _, _ => false

theorem quiesced_iff (w : Workers) :
    w.Quiesced ↔ w.stopsReturned = true ∧ w.settledQuiescent = true := by
  obtain ⟨ds, is, ss, delivery, inbound, scheduler⟩ := w
  unfold Workers.Quiesced Workers.stopsReturned Workers.settledQuiescent
  cases delivery <;> cases inbound <;> cases scheduler <;> simp
  tauto

/-! ### The environment -/

/-- What a process gives up when it shuts down. -/
inductive Effect
  | closeApplicationDatabase
  | closeOwnershipDatabase
  | recordRelease
  | releaseProcessLock
  deriving DecidableEq

/-- How the calls outside the procedures behave. `marks…` are the losses others mark on the guard
during the awaits. -/
structure Environment where
  fenceListenersThrow : Bool
  marksWhileStopping : List String
  marksAfterStop : List String
  marksWhileReleasing : List String
  marksWhileRecording : List String
  heartbeatStops : Bool
  lossRecordingSettles : Bool
  processLockHeld : Bool
  generation : Option ℕ
  storeReleaseAccepted : Bool

/-- `releaseCurrentOwnership`: the guard after it, and whether `store.release` was called. -/
def releaseCurrentOwnership (env : Environment) (status : OwnershipStatus) :
    OwnershipStatus × List Effect :=
  if env.heartbeatStops = false then (status, [])
  else
    let checked := if env.processLockHeld then status else markLost status "PROCESS_LOCK_LOST"
    if env.generation = none ∨ checked.lossReason.any shouldRecordRuntimeOwnershipLoss then
      (checked, [])
    else
      let marked := env.marksWhileReleasing.foldl markLost checked
      if env.storeReleaseAccepted then (marked, [.recordRelease])
      else (markLost marked "PERSISTED_OWNERSHIP_MISMATCH", [.recordRelease])

/-! ### The long-running process -/

def stopOwnedAppRuntime (w : Workers) (env : Environment) (status : OwnershipStatus) :
    List Effect :=
  let fenced := fence status "RUNTIME_SHUTDOWN" env.fenceListenersThrow
  let marked := env.marksWhileStopping.foldl markLost fenced.1
  let quiescenceStopped := w.settledQuiescent && env.heartbeatStops
  let unsafeWorkerState := !w.stopsReturned || !quiescenceStopped
  let refenced :=
    if unsafeWorkerState then
      (fence marked "RUNTIME_WORK_QUIESCENCE_FAILED" env.fenceListenersThrow).1
    else marked
  let canRelease := decide (status = .owned) && !fenced.2 && w.stopsReturned &&
    quiescenceStopped && env.lossRecordingSettles
  let released := if canRelease then (releaseCurrentOwnership env refenced).2 else []
  if unsafeWorkerState then released
  else released ++ [.closeApplicationDatabase, .closeOwnershipDatabase, .releaseProcessLock]

/-! ### Scoped work -/

/-- The guard after the call, and what was given up. -/
def stopScopedApplicationRuntime (w : Workers) (env : Environment) (status : OwnershipStatus) :
    OwnershipStatus × List Effect :=
  let fenced := fence status "SCOPED_WORK_COMPLETE" env.fenceListenersThrow
  let workersQuiesced := !fenced.2 && w.stopsReturned && w.settledQuiescent
  let marked := env.marksWhileStopping.foldl markLost fenced.1
  if workersQuiesced then (marked, [.closeApplicationDatabase])
  else ((fence marked "SCOPED_WORK_QUIESCENCE_FAILED" env.fenceListenersThrow).1, [])

def releaseScopedRuntimeOwnership (env : Environment) (status : OwnershipStatus) : List Effect :=
  let fenced := fence status "SCOPED_WORK_COMPLETE" env.fenceListenersThrow
  let released := releaseCurrentOwnership env (env.marksAfterStop.foldl markLost fenced.1)
  let recorded := env.marksWhileRecording.foldl markLost released.1
  let retainUnsafeScope := recorded.lossReason = some "SCOPED_WORK_QUIESCENCE_FAILED"
  if retainUnsafeScope then released.2
  else released.2 ++ [.closeOwnershipDatabase, .releaseProcessLock]

/-- The scoped path: the work ends by stopping its application, then the ownership is released. -/
def runWithScopedRuntimeOwnership (w : Workers) (env : Environment) (status : OwnershipStatus) :
    List Effect :=
  let stopped := stopScopedApplicationRuntime w env status
  stopped.2 ++ releaseScopedRuntimeOwnership env stopped.1

/-! ### Workers that did not quiesce -/

variable {w : Workers}

theorem stopOwnedAppRuntime_of_not_quiesced (hw : ¬ w.Quiesced) (env : Environment)
    (status : OwnershipStatus) : stopOwnedAppRuntime w env status = [] := by
  rw [quiesced_iff, not_and_or] at hw
  have hstop : (w.stopsReturned && (w.settledQuiescent && env.heartbeatStops)) = false := by
    rcases hw with h | h
    · rw [eq_false_of_ne_true h, Bool.false_and]
    · rw [eq_false_of_ne_true h, Bool.false_and, Bool.and_false]
  have hlive : (!w.stopsReturned || !(w.settledQuiescent && env.heartbeatStops)) = true := by
    rw [← Bool.not_and, hstop, Bool.not_false]
  unfold stopOwnedAppRuntime
  simp only [hlive, if_true]
  rw [if_neg]
  intro hrelease
  simp only [Bool.and_eq_true] at hrelease
  simp [hrelease.1.1.2, hrelease.1.2] at hstop

theorem stopScopedApplicationRuntime_of_not_quiesced (hw : ¬ w.Quiesced) (env : Environment)
    (status : OwnershipStatus) :
    stopScopedApplicationRuntime w env status =
      (markLost (env.marksWhileStopping.foldl markLost (markLost status "SCOPED_WORK_COMPLETE"))
        "SCOPED_WORK_QUIESCENCE_FAILED", []) := by
  rw [quiesced_iff, not_and_or] at hw
  have hstop : (w.stopsReturned && w.settledQuiescent) = false := by
    rcases hw with h | h
    · rw [eq_false_of_ne_true h, Bool.false_and]
    · rw [eq_false_of_ne_true h, Bool.and_false]
  unfold stopScopedApplicationRuntime
  simp only [fence, Bool.and_assoc, hstop, Bool.and_false]
  rfl

/-! ### The reason the guard ends with -/

/-- The fence and the losses marked while the workers stop leave the first real loss; without one, a
cleanup reason. -/
theorem lossReason_after_stop (status : OwnershipStatus) (marks : List String) :
    (∃ reason, firstHardLoss status marks = some reason ∧ isCleanupFenceReason reason = false ∧
        marks.foldl markLost (markLost status "SCOPED_WORK_COMPLETE") = .lost reason) ∨
      (firstHardLoss status marks = none ∧ ∃ reason, isCleanupFenceReason reason = true ∧
        marks.foldl markLost (markLost status "SCOPED_WORK_COMPLETE") = .lost reason) := by
  have hfenced : ∀ {current : String}, isCleanupFenceReason current = true →
      (∃ reason, marks.find? isHardLoss = some reason ∧ isCleanupFenceReason reason = false ∧
          marks.foldl markLost (.lost current) = .lost reason) ∨
        (marks.find? isHardLoss = none ∧ ∃ reason, isCleanupFenceReason reason = true ∧
          marks.foldl markLost (.lost current) = .lost reason) := by
    intro current hc
    rcases foldl_markLost_cleanup hc marks with ⟨reason, hfind, hlost⟩ | hnone
    · have hhard : isHardLoss reason = true := List.find?_some hfind
      have hparts : isReasonCode reason = true ∧ isCleanupFenceReason reason = false := by
        simpa [isHardLoss] using hhard
      exact Or.inl ⟨reason, hfind, hparts.2, hlost⟩
    · exact Or.inr hnone
  cases status with
  | unowned => exact hfenced (by decide)
  | owned => exact hfenced (by decide)
  | lost current =>
    by_cases hc : isCleanupFenceReason current = true
    · have hkeep : markLost (.lost current) "SCOPED_WORK_COMPLETE" = .lost current := by
        unfold markLost
        simp [isCleanupFenceReason]
      rw [hkeep]
      simpa only [firstHardLoss, if_pos hc] using hfenced hc
    · have hhard : isCleanupFenceReason current = false := eq_false_of_ne_true hc
      refine Or.inl ⟨current, ?_, hhard, ?_⟩
      · simp only [firstHardLoss, if_neg hc]
      · rw [markLost_of_hard hhard, foldl_markLost_of_hard hhard]

theorem releaseCurrentOwnership_of_hard {reason : String}
    (hh : isCleanupFenceReason reason = false) (env : Environment) :
    (releaseCurrentOwnership env (.lost reason)).1 = .lost reason ∧
      (shouldRecordRuntimeOwnershipLoss reason = true →
        (releaseCurrentOwnership env (.lost reason)).2 = []) := by
  unfold releaseCurrentOwnership
  simp only [markLost_of_hard hh, ite_self, foldl_markLost_of_hard hh]
  refine ⟨by split_ifs <;> rfl, fun hrecord => ?_⟩
  simp [OwnershipStatus.lossReason, hrecord]

theorem releaseScopedRuntimeOwnership_of_hard {reason : String}
    (hh : isCleanupFenceReason reason = false) (env : Environment) :
    releaseScopedRuntimeOwnership env (.lost reason) =
      (releaseCurrentOwnership env (.lost reason)).2 ++
        if reason = "SCOPED_WORK_QUIESCENCE_FAILED" then []
        else [.closeOwnershipDatabase, .releaseProcessLock] := by
  unfold releaseScopedRuntimeOwnership
  simp only [fence, markLost_of_hard hh, foldl_markLost_of_hard hh,
    (releaseCurrentOwnership_of_hard hh env).1, OwnershipStatus.lossReason, Option.some.injEq]
  split_ifs
  · rw [List.append_nil]
  · rfl

/-- Beside workers that did not quiesce, the scoped path keeps everything exactly when its own
failure is the reason on the guard. -/
theorem runWithScopedRuntimeOwnership_eq_nil_iff (hw : ¬ w.Quiesced) (env : Environment)
    (status : OwnershipStatus) :
    runWithScopedRuntimeOwnership w env status = [] ↔
      firstHardLoss status env.marksWhileStopping = none ∨
        firstHardLoss status env.marksWhileStopping = some "SCOPED_WORK_QUIESCENCE_FAILED" := by
  have hfailed : isCleanupFenceReason "SCOPED_WORK_QUIESCENCE_FAILED" = false := by decide
  have hretained :
      releaseScopedRuntimeOwnership env (.lost "SCOPED_WORK_QUIESCENCE_FAILED") = [] := by
    rw [releaseScopedRuntimeOwnership_of_hard hfailed, if_pos rfl, List.append_nil]
    exact (releaseCurrentOwnership_of_hard hfailed env).2 (by decide)
  unfold runWithScopedRuntimeOwnership
  rw [stopScopedApplicationRuntime_of_not_quiesced hw]
  rcases lossReason_after_stop status env.marksWhileStopping with
    ⟨reason, hfirst, hh, hlost⟩ | ⟨hfirst, reason, hc, hlost⟩
  · -- a real loss came first: the failure of the workers is not recorded
    rw [hlost, markLost_of_hard hh, hfirst]
    simp only [List.nil_append, reduceCtorEq, false_or, Option.some.injEq]
    constructor
    · intro hnil
      rw [releaseScopedRuntimeOwnership_of_hard hh] at hnil
      by_contra hne
      rw [if_neg hne] at hnil
      exact absurd (List.append_eq_nil_iff.mp hnil).2 (List.cons_ne_nil _ _)
    · rintro rfl
      exact hretained
  · rw [hlost, markLost_of_cleanup hc (by decide) hfailed, hfirst]
    simpa only [List.nil_append, true_or, iff_true] using hretained

/-- **What outlives the workers.** When some worker did not report quiescence, the long-running
shutdown and the scoped one give nothing up, unless the guard met another real loss before the
scoped stop could mark its own failure. -/
theorem unquiesced_workers_keep_everything_iff (w : Workers) (env : Environment)
    (status : OwnershipStatus) :
    (¬ w.Quiesced →
        stopOwnedAppRuntime w env status = [] ∧ runWithScopedRuntimeOwnership w env status = []) ↔
      (w.Quiesced ∨ firstHardLoss status env.marksWhileStopping = none ∨
        firstHardLoss status env.marksWhileStopping = some "SCOPED_WORK_QUIESCENCE_FAILED") := by
  by_cases hw : w.Quiesced
  · simp only [hw, not_true_eq_false, false_implies, true_or]
  · have howned := stopOwnedAppRuntime_of_not_quiesced hw env status
    have hscoped := runWithScopedRuntimeOwnership_eq_nil_iff hw env status
    simp only [hw, not_false_eq_true, true_implies, false_or, howned, true_and, hscoped]

/-- The heartbeat of the owner has expired, and the scheduler does not settle in time: the scoped
path closes the ownership database and releases the process lock beside it. -/
theorem expired_owner_releases_lock :
    let w : Workers :=
      { deliveryStopped := true
        inboundStopped := true
        schedulerStopped := true
        delivery := .fulfilled ⟨true⟩
        inbound := .fulfilled ⟨false⟩
        scheduler := .pending }
    let env : Environment :=
      { fenceListenersThrow := false
        marksWhileStopping := []
        marksAfterStop := []
        marksWhileReleasing := []
        marksWhileRecording := []
        heartbeatStops := true
        lossRecordingSettles := true
        processLockHeld := true
        generation := some 1
        storeReleaseAccepted := true }
    ¬ w.Quiesced ∧ runWithScopedRuntimeOwnership w env (.lost "HEARTBEAT_EXPIRED") =
      [.closeOwnershipDatabase, .releaseProcessLock] := by
  refine ⟨?_, by decide⟩
  rw [quiesced_iff]
  decide

end AutoTrade.Runtime.Shutdown
