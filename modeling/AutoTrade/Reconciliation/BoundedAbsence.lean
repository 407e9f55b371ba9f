import AutoTrade.Reconciliation.RecoveryMarks

/-! # When the absence of an order is confirmed

An identifier recovery finalizes an order in doubt as absent from the exchange. `absence_is_backed`:
it does so on persisted evidence alone, and never once a lookup has found the order. -/

namespace AutoTrade.Reconciliation.BoundedAbsence

open Lib.Result Lib.Stateful Lib.Run
open Domain.Types Db.Tables Db.OrderStore Reconciliation.Snapshots
open Reconciliation.OrderWrites Reconciliation.ActiveOrders Reconciliation.RecoveryMarks

variable {deps : Dependencies} {order : OrderRecord} {db db' : Database}
  {summary : IdentifierRecoverySummary}

theorem missing_of_notFound {getOrder : ExchangeOrderLookupIdentity → Lookup}
    {queries : List ExchangeOrderLookupIdentity}
    (h : lookUpQueries getOrder order queries = .notFound) :
    ∀ query ∈ queries, getOrder query = .missing := by
  induction queries with
  | nil => simp
  | cons query queries ih =>
    rw [lookUpQueries] at h
    cases hanswer : getOrder query with
    | missing =>
      rw [hanswer] at h
      exact List.forall_mem_cons.mpr ⟨hanswer, ih h⟩
    | answered candidate =>
      simp only [hanswer] at h
      split at h <;> cases h
    | _ => simp [hanswer] at h

theorem grows_of_writes {α : Type} {m : Program α} (hm : Writes m) {r : Except Thrown α}
    (h : exec m db = (r, db')) : Grows db db' := by
  obtain ⟨ws, hws⟩ := hm db
  rw [h] at hws
  obtain rfl : db' = run write db ws := hws
  exact grows_run db ws

/-- An order that was found is recovered, with or without its projection. -/
theorem outcome_of_found {now : RecoveryObservationTime} {snapshot : ExchangeOrderSnapshot}
    (h : exec (recoverFoundOrder deps order now snapshot) db = (.ok summary, db')) :
    summary.outcome ≠ .absenceConfirmed := by
  unfold recoverFoundOrder catching at h
  rw [exec_tryCatch] at h
  split at h
  · rename_i hbody
    rw [exec_bind] at hbody
    split at hbody
    · split at hbody
      · rw [exec_bind] at hbody
        split at hbody <;> cases hbody
        cases h
        simp
      · cases hbody
        cases h
        simp
    · cases hbody
  · split at h
    · cases h
    · rw [exec_bind] at h
      split at h <;> cases h
      simp

def recoveryPolicy (deps : Dependencies) : IdentifierRecoveryPolicy :=
  deps.identifierRecovery.getD defaultIdentifierRecoveryPolicy

/-- No lookup found the order, and two that found nothing are the bound apart. -/
structure Evidence (policy : IdentifierRecoveryPolicy)
    (observations : List OrderSubmissionRecoveryObservationRecord) : Prop where
  unfound : ∀ o ∈ observations, o.outcome ≠ .found
  apart : ∃ first ∈ observations, ∃ last ∈ observations,
    first.outcome = .notFound ∧ last.outcome = .notFound ∧ 0 < policy.minimumElapsedMs ∧
      policy.minimumElapsedMs ≤ last.observedAtEpochMs - first.observedAtEpochMs

theorem evidence_of_confirmed {observations : List OrderSubmissionRecoveryObservationRecord}
    {policy : IdentifierRecoveryPolicy} (hbound : 0 < policy.minimumElapsedMs)
    (h : (evaluateBoundedAbsence observations policy).confirmed = true) :
    Evidence policy observations := by
  unfold evaluateBoundedAbsence at h
  simp only [decide_eq_true_eq] at h
  obtain ⟨hfound, -, helapsed⟩ := h
  refine ⟨fun o hmem => by simpa using List.any_eq_false.mp hfound o hmem, ?_⟩
  split at helapsed
  · rename_i first last hfirst hlast
    obtain ⟨hmem, hout⟩ := List.mem_filter.mp
      ((List.mem_insertionSort _).mp (List.mem_of_mem_head? hfirst))
    obtain ⟨hmem', hout'⟩ := List.mem_filter.mp
      ((List.mem_insertionSort _).mp (List.mem_of_getLast? hlast))
    exact ⟨first, hmem, last, hmem', by simpa using hout, by simpa using hout', hbound, helapsed⟩
  · omega

theorem evidence_of_confirmAbsence {now : RecoveryObservationTime}
    (h : exec (confirmAbsence deps order now) db = (.ok summary, db'))
    (hout : summary.outcome = .absenceConfirmed) :
    Evidence (recoveryPolicy deps) (getRecoveryObservationsForOrder db order.id) := by
  unfold confirmAbsence at h
  dsimp only at h
  split at h
  · cases h
  rename_i hpolicy
  rw [validateIdentifierRecoveryPolicy, guard_eq_ok, guard_eq_ok] at hpolicy
  rw [exec_bind_ok (show exec (listOrderSubmissionRecoveryObservations order.id) db = _ from rfl)] at h
  split at h
  · cases h
    cases hout
  · rename_i hconfirmed
    exact evidence_of_confirmed (not_le.mp hpolicy.2.1) (Bool.not_eq_false _ ▸ hconfirmed)

/-- What the recovery saw before it finalized the order. -/
theorem evidence_of_recover (hnew : isSubmissionAbsenceConfirmed order = false)
    (h : exec (recoverOrderByIdentifier deps order) db = (.ok summary, db'))
    (hout : summary.outcome = .absenceConfirmed) :
    (∃ getOrder, deps.orderReader = some getOrder ∧
      ∀ query ∈ identifierQueries order, getOrder query = .missing) ∧
    ∃ observed, Grows db observed ∧ Grows observed db' ∧
      Evidence (recoveryPolicy deps) (getRecoveryObservationsForOrder observed order.id) := by
  unfold recoverOrderByIdentifier at h
  rw [if_neg (by simp [hnew])] at h
  split at h
  · cases h
  dsimp only at h
  split at h
  · cases h
    cases hout
  rename_i getOrder hreader
  split at h
  · cases h
    cases hout
  split at h
  · cases h
  split at h
  · cases h
  split at h
  · cases h
  · cases h
  · rw [exec_bind] at h
    split at h <;> cases h
    cases hout
  · rw [exec_bind] at h
    split at h <;> cases h
    cases hout
  · rw [exec_bind] at h
    split at h
    · exact absurd hout (outcome_of_found h)
    · cases h
  · rename_i hlookup
    rw [exec_bind] at h
    split at h
    · rename_i hrecorded
      exact ⟨⟨getOrder, hreader, missing_of_notFound hlookup⟩, _,
        grows_of_writes (writes_recordRecoveryObservation _ _ _ _ _) hrecorded,
        grows_of_writes (writes_confirmAbsence _ _ _) h, evidence_of_confirmAbsence h hout⟩
    · cases h

theorem mem_observations {o : OrderSubmissionRecoveryObservationRecord} :
    o ∈ getRecoveryObservationsForOrder db order.id ↔
      o ∈ db.recoveryObservations ∧ o.orderId = order.id := by
  unfold getRecoveryObservationsForOrder
  rw [List.mem_insertionSort, List.mem_filter, decide_eq_true_eq]

/-- **An absence is confirmed on evidence.** In every run, an identifier recovery that newly confirms
the absence of an order had every query answered with no order; no lookup stored at any earlier point
of the run had found the order, and two stored lookups that found nothing are the bound apart. -/
theorem absence_is_backed (before after : List Event)
    (hnew : isSubmissionAbsenceConfirmed order = false)
    (h : exec (recoverOrderByIdentifier deps order) (run step {} (before ++ after)) =
      (.ok summary, db')) (hout : summary.outcome = .absenceConfirmed) :
    (∃ getOrder, deps.orderReader = some getOrder ∧
      ∀ query ∈ identifierQueries order, getOrder query = .missing) ∧
    (∀ o ∈ (run step {} before).recoveryObservations, o.orderId = order.id →
      o.outcome ≠ .found) ∧
    ∃ first ∈ db'.recoveryObservations, ∃ last ∈ db'.recoveryObservations,
      first.orderId = order.id ∧ last.orderId = order.id ∧
      first.outcome = .notFound ∧ last.outcome = .notFound ∧
      0 < (recoveryPolicy deps).minimumElapsedMs ∧
      (recoveryPolicy deps).minimumElapsedMs ≤
        last.observedAtEpochMs - first.observedAtEpochMs := by
  obtain ⟨hmissing, observed, hbefore, hafter, hevidence⟩ := evidence_of_recover hnew h hout
  refine ⟨hmissing, fun o hmem hid => hevidence.unfound o (mem_observations.mpr ⟨?_, hid⟩), ?_⟩
  · have hgrows := grows_events (run step {} before) after
    rw [← run_append] at hgrows
    exact hbefore.observations.subset (hgrows.observations.subset hmem)
  · obtain ⟨first, hfirst, last, hlast, helapsed⟩ := hevidence.apart
    obtain ⟨hmem, hid⟩ := mem_observations.mp hfirst
    obtain ⟨hmem', hid'⟩ := mem_observations.mp hlast
    exact ⟨first, hafter.observations.subset hmem, last, hafter.observations.subset hmem', hid, hid',
      helapsed⟩

/-- The order is in doubt, and a lookup an hour ago found nothing. -/
def doubtedRun : List Event :=
  [.write (.elsewhere { executionState := [⟨"state", "acct", .live, .enabled, .running, false, none,
      none, none, "2026-01-01T00:00:00.000Z"⟩] }),
    .write (.saveOrder doubtfulOrder),
    .write (.saveOrderSubmissionRecoveryObservation ⟨"observed", "order", .notFound,
      "2026-01-01T00:00:00.000Z", 1767225600000, "{}", "2026-01-01T00:00:00.000Z"⟩)]

/-- The next lookup finds nothing either, and the absence is confirmed. -/
theorem absence_is_backed_doubted : ∃ (summary : IdentifierRecoverySummary) (db' : Database),
    summary.outcome = .absenceConfirmed ∧
      exec (recoverOrderByIdentifier (reading .missing "second") doubtfulOrder)
        (run step {} (doubtedRun ++ [])) = (.ok summary, db') ∧
      ∃ first ∈ db'.recoveryObservations, ∃ last ∈ db'.recoveryObservations,
        60000 ≤ last.observedAtEpochMs - first.observedAtEpochMs := by
  have hrun : (exec (recoverOrderByIdentifier (reading .missing "second") doubtfulOrder)
      (run step {} (doubtedRun ++ []))).1.toOption.map (·.outcome) = some .absenceConfirmed := by
    decide +kernel
  obtain ⟨summary, hsummary, hout⟩ := Option.map_eq_some_iff.mp hrun
  rcases hexec : exec (recoverOrderByIdentifier (reading .missing "second") doubtfulOrder)
    (run step {} (doubtedRun ++ [])) with ⟨_ | summary', db'⟩
  · rw [hexec] at hsummary
    cases hsummary
  · rw [hexec] at hsummary
    obtain rfl := Option.some.inj hsummary
    obtain ⟨-, -, first, hfirst, last, hlast, -, -, -, -, -, helapsed⟩ :=
      absence_is_backed doubtedRun [] (by decide) hexec hout
    exact ⟨summary', db', hout, rfl, first, hfirst, last, hlast, helapsed⟩

end AutoTrade.Reconciliation.BoundedAbsence
