import AutoTrade.Execution.LedgerAgreement
import AutoTrade.Lib.TextOrder

/-! # Arrival order does not matter

`projectExactCandidateState` sorts its records by instant, then by id, before it applies them. With
distinct ids this order is strict, so the arrangement in which the records arrive is lost
(`projection_eq_of_perm`), and a record whose instant cannot be read is refused wherever it stands. -/

namespace AutoTrade.Execution.ArrivalOrder

open Lib.TextOrder Lib.Result Domain.Timestamp
open Strategy.Core Strategy.CandidateState
open Execution.EvidenceDecimals Execution.LedgerAgreement

/-! ### Reading the instants -/

variable {evidence evidence' : List PositionGuardCandidateExecutionEvidence}

theorem orderExactEvidence_isOk_iff :
    (orderExactEvidence evidence).isOk = true ↔
      ∀ item ∈ evidence, IsCandidateTimestamp item.executedAt := by
  induction evidence with
  | nil => simp [orderExactEvidence, Except.isOk, Except.toBool]
  | cons item rest ih =>
    have hcons : orderExactEvidence (item :: rest) =
        (parsePositionGuardCandidateTimestamp item.executedAt "candidate evidence executedAt" >>=
          fun epoch => orderExactEvidence rest >>= fun ordered =>
            .ok (⟨item, epoch⟩ :: ordered)) := rfl
    rw [List.forall_mem_cons, ← ih, hcons]
    by_cases h : IsCandidateTimestamp item.executedAt
    · rw [parseCandidate_of_is h, ok_bind]
      cases orderExactEvidence rest <;> simp [h, Except.isOk, Except.toBool, bind, Except.bind]
    · rw [parseCandidate_of_not h]
      simp [h, Except.isOk, Except.toBool, bind, Except.bind]

theorem orderExactEvidence_of_times (h : ∀ item ∈ evidence, IsCandidateTimestamp item.executedAt) :
    orderExactEvidence evidence =
      .ok (evidence.map fun item => OrderedEvidence.mk item (instant item.executedAt)) := by
  obtain ⟨ordered, hordered⟩ := exists_ok (orderExactEvidence_isOk_iff.mpr h)
  rw [hordered, orderExactEvidence_eq hordered]

theorem times_of_projection {state : ExactCandidateState}
    (h : projectExactCandidateState evidence = .ok state) :
    ∀ item ∈ evidence, IsCandidateTimestamp item.executedAt := by
  obtain ⟨ordered, hordered, -⟩ := bind_eq_ok.mp h
  exact orderExactEvidence_isOk_iff.mp (by rw [hordered]; rfl)

theorem projection_of_times (h : ∀ item ∈ evidence, IsCandidateTimestamp item.executedAt) :
    projectExactCandidateState evidence =
      (chronological evidence).foldlM advanceExactCandidateState createExactEmptyCandidateState := by
  unfold projectExactCandidateState chronological
  rw [orderExactEvidence_of_times h, ok_bind, List.foldlM_map]

theorem projection_throws (h : ¬ ∀ item ∈ evidence, IsCandidateTimestamp item.executedAt) :
    ∃ message, projectExactCandidateState evidence = .error message := by
  unfold projectExactCandidateState
  rcases hordered : orderExactEvidence evidence with message | ordered
  · exact ⟨message, rfl⟩
  · exact absurd (orderExactEvidence_isOk_iff.mp (by rw [hordered]; rfl)) h

/-! ### The projection -/

theorem projection_eq_of_perm (hperm : evidence.Perm evidence')
    (hids : (evidence.map (·.evidenceId)).Nodup)
    (h : ∀ item ∈ evidence, IsCandidateTimestamp item.executedAt) :
    projectExactCandidateState evidence = projectExactCandidateState evidence' := by
  have h' : ∀ item ∈ evidence', IsCandidateTimestamp item.executedAt :=
    fun item hmem => h item (hperm.mem_iff.mpr hmem)
  have hids' : ((evidence.map fun item => OrderedEvidence.mk item (instant item.executedAt)).map
      (·.evidence.evidenceId)).Nodup := by
    rw [List.map_map]
    exact hids
  have hsorted := sorted_eq_of_perm OrderedEvidence.epochNanoseconds _ (hperm.map _) hids'
  unfold projectExactCandidateState
  rw [orderExactEvidence_of_times h, orderExactEvidence_of_times h', ok_bind, ok_bind]
  exact congrArg _ hsorted

/-- Two sales that arrive before the purchase. -/
def salesFirst : List PositionGuardCandidateExecutionEvidence :=
  [pullback "c" "2026-01-02T10:00:00.5+09:00" .exit "1" "20" "0" "0",
    pullback "b" "2026-01-02T01:00:00.500Z" .reduce "1" "15" "0" "1",
    pullback "a" "2026-01-02T01:00:00Z" .enter "2" "20" "0" "2"]

example : (projectExactCandidateState salesFirst).map (·.lastFullExitRealizedPnlKrw) =
    .ok (some "15") := by decide +kernel

/-- **The projection does not depend on the order of arrival**: records of distinct ids are refused
in every arrangement, or give one state in all of them. -/
theorem projection_ignores_arrival_order (hperm : evidence.Perm evidence')
    (hids : (evidence.map (·.evidenceId)).Nodup) :
    (∃ state, projectExactCandidateState evidence = .ok state ∧
        projectExactCandidateState evidence' = .ok state) ∨
      ∃ message message', projectExactCandidateState evidence = .error message ∧
        projectExactCandidateState evidence' = .error message' := by
  by_cases h : ∀ item ∈ evidence, IsCandidateTimestamp item.executedAt
  · rw [← projection_eq_of_perm hperm hids h]
    rcases projectExactCandidateState evidence with message | state
    · exact Or.inr ⟨message, message, rfl, rfl⟩
    · exact Or.inl ⟨state, rfl, rfl⟩
  · have h' : ¬ ∀ item ∈ evidence', IsCandidateTimestamp item.executedAt :=
      fun hall => h fun item hmem => hall item (hperm.mem_iff.mp hmem)
    obtain ⟨message, hthrows⟩ := projection_throws h
    obtain ⟨message', hthrows'⟩ := projection_throws h'
    exact Or.inr ⟨message, message', hthrows, hthrows'⟩

theorem projection_of_salesFirst :
    (∃ state, projectExactCandidateState salesFirst = .ok state ∧
        projectExactCandidateState salesFirst.reverse = .ok state) ∨
      ∃ message message', projectExactCandidateState salesFirst = .error message ∧
        projectExactCandidateState salesFirst.reverse = .error message' :=
  projection_ignores_arrival_order (List.reverse_perm salesFirst).symm (by decide)

end AutoTrade.Execution.ArrivalOrder
