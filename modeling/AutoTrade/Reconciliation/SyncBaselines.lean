import AutoTrade.Lib.Run
import AutoTrade.Reconciliation.PortfolioSync
import Mathlib.Data.List.Induction

/-! # The baselines of the portfolio syncs

A run takes the latest stored snapshots as its baseline. They are stored before the orders are
reconciled and before they are compared, and the `catch` leaves them there: when a run fails after its
balance snapshot is stored, the next run takes a snapshot as its baseline that no returned run has
compared with its predecessor, or a balance and a position snapshot of two different runs. As long as
no run after the first stored snapshot fails in this way, every baseline was compared. -/

namespace AutoTrade.Reconciliation.SyncBaselines

open Lib.Run Lib.Stateful Domain.Timestamp
open Reconciliation.PortfolioDrift Reconciliation.PortfolioSync

/-! ### Runs -/

/-- The calls made, the store they left and the results of those that returned. -/
structure SyncHistory where
  calls : List SyncCall
  store : SyncStore
  returned : List PortfolioSyncRunResult

def SyncHistory.empty : SyncHistory := ⟨[], .empty, []⟩

/-- The records of the calls are of one account, and each is later than the ones before it. -/
def OneAccount (earlier : String → String → Bool) (calls : List SyncCall) : Prop :=
  calls.Pairwise fun a b =>
    a.exchangeAccountId = b.exchangeAccountId ∧ earlier a.requestedAt b.requestedAt = true

instance (earlier : String → String → Bool) (calls : List SyncCall) :
    Decidable (OneAccount earlier calls) :=
  inferInstanceAs (Decidable (calls.Pairwise _))

section Runs

variable (earlier : String → String → Bool) (dateParse : String → Option ℤ)

def syncStep (history : SyncHistory) (call : SyncCall) : SyncHistory :=
  let (result, store) := exec (syncRun earlier dateParse call) history.store
  { calls := history.calls ++ [call], store
    returned := history.returned ++ result.toOption.toList }

/-! ### Baselines -/

/-- A stored snapshot is the first of its kind, or a run that returned has compared it with the one
stored before it. -/
def Compared {α : Type} (stored : List α) (comparisons : List (Option α × α)) (snapshot : α) : Prop :=
  ∃ before later, stored = before ++ snapshot :: later ∧
    (before = [] ∨ (before.getLast?, snapshot) ∈ comparisons)

def comparedBalances (result : PortfolioSyncRunResult) :
    Option BalanceSnapshot × BalanceSnapshot :=
  (result.snapshots.previousBalanceSnapshot, result.snapshots.currentBalanceSnapshot)

def comparedPositions (result : PortfolioSyncRunResult) :
    Option PositionSnapshot × PositionSnapshot :=
  (result.snapshots.previousPositionSnapshot, result.snapshots.currentPositionSnapshot)

/-- The snapshots that a run took as its baseline were compared, and one earlier run took them. -/
structure BaselineCompared (history : SyncHistory) (snapshots : PortfolioSnapshots) : Prop where
  balance : ∀ b, snapshots.previousBalanceSnapshot = some b →
    Compared history.store.balanceSnapshots (history.returned.map comparedBalances) b
  position : ∀ p, snapshots.previousPositionSnapshot = some p →
    Compared history.store.positionSnapshots (history.returned.map comparedPositions) p
  sameRun : ∀ b p, snapshots.previousBalanceSnapshot = some b →
    snapshots.previousPositionSnapshot = some p →
    ∃ call ∈ history.calls, b = call.balanceSnapshot ∧ p = call.positionSnapshot

/-- The run does not fail between its stored balance snapshot and its return, unless that snapshot is
the first one. -/
def Settles (history : SyncHistory) (call : SyncCall) : Prop :=
  call.Stores → history.store.balanceSnapshots = [] ∨
    call.Completes (detectPortfolioDrift dateParse (call.comparison earlier history.store) call.fills)

end Runs

/-! ### The latest snapshot -/

section Latest

variable {α : Type} {earlier : String → String → Bool} {account capturedAt : α → String}
  {exchangeAccountId : String}

theorem head_insertionSort_append {r : α → α → Prop} [DecidableRel r] {records : List α} {new : α}
    (h : ∀ a ∈ records, ¬ r a new) : ((records ++ [new]).insertionSort r).head? = some new := by
  induction records with
  | nil => rfl
  | cons a records ih =>
    have hhead := ih fun a' ha' => h a' (List.mem_cons_of_mem _ ha')
    rw [List.cons_append, List.insertionSort_cons]
    cases hsorted : (records ++ [new]).insertionSort r with
    | nil => rw [hsorted] at hhead; cases hhead
    | cons b sorted =>
      rw [hsorted, List.head?_cons] at hhead
      obtain rfl : b = new := Option.some.inj hhead
      rw [List.orderedInsert_of_not_le r sorted (h a (List.mem_cons_self ..))]
      rfl

theorem latestBy_eq_getLast? {records : List α}
    (haccount : ∀ r ∈ records, account r = exchangeAccountId)
    (hordered : records.Pairwise fun a b => earlier (capturedAt a) (capturedAt b) = true) :
    latestBy earlier account capturedAt exchangeAccountId records = records.getLast? := by
  unfold latestBy
  rw [List.filter_eq_self.mpr fun r hr => decide_eq_true (haccount r hr)]
  rcases List.eq_nil_or_concat records with rfl | ⟨before, new, rfl⟩
  · rfl
  · rw [List.concat_eq_append, List.getLast?_concat]
    refine head_insertionSort_append fun a ha => ?_
    rw [List.concat_eq_append] at hordered
    have hearlier := (List.pairwise_append.mp hordered).2.2 a ha new (List.mem_singleton_self new)
    simpa using hearlier

end Latest

/-! ### The invariant -/

section Invariant

variable {earlier : String → String → Bool} {dateParse : String → Option ℤ}

/-- What the stored snapshots of a history end in. -/
inductive LatestSnapshots (history : SyncHistory) : Prop
  | none (hbalances : history.store.balanceSnapshots = [])
      (hpositions : history.store.positionSnapshots = [])
  | first (call : SyncCall) (hcall : call ∈ history.calls)
      (hbalances : history.store.balanceSnapshots = [call.balanceSnapshot])
      (hpositions : history.store.positionSnapshots = [] ∨
        history.store.positionSnapshots = [call.positionSnapshot])
  | compared (call : SyncCall) (hcall : call ∈ history.calls)
      (balances : List BalanceSnapshot) (positions : List PositionSnapshot)
      (hbalances : history.store.balanceSnapshots = balances ++ [call.balanceSnapshot])
      (hpositions : history.store.positionSnapshots = positions ++ [call.positionSnapshot])
      (hbalance : (balances.getLast?, call.balanceSnapshot) ∈
        history.returned.map comparedBalances)
      (hposition : (positions.getLast?, call.positionSnapshot) ∈
        history.returned.map comparedPositions)

/-- The snapshots are those of the calls, in order, and the last ones were compared. -/
structure Baselines (history : SyncHistory) : Prop where
  balances : history.store.balanceSnapshots.Sublist (history.calls.map SyncCall.balanceSnapshot)
  positions : history.store.positionSnapshots.Sublist (history.calls.map SyncCall.positionSnapshot)
  latest : LatestSnapshots history

variable {call : SyncCall} {history : SyncHistory}

/-- In a history of one account, the lookups of the next run give the last stored snapshots. -/
theorem comparison_eq (hbalances : history.store.balanceSnapshots.Sublist
      (history.calls.map SyncCall.balanceSnapshot))
    (hpositions : history.store.positionSnapshots.Sublist
      (history.calls.map SyncCall.positionSnapshot))
    (hordered : OneAccount earlier (history.calls ++ [call])) :
    call.comparison earlier history.store =
      ⟨history.store.balanceSnapshots.getLast?, call.balanceSnapshot,
        history.store.positionSnapshots.getLast?, call.positionSnapshot⟩ := by
  obtain ⟨hcalls, -, hnext⟩ := List.pairwise_append.mp hordered
  have haccount : ∀ c ∈ history.calls, c.exchangeAccountId = call.exchangeAccountId :=
    fun c hc => (hnext c hc call (List.mem_singleton_self call)).1
  have hbalance : latestBy earlier BalanceSnapshot.exchangeAccountId BalanceSnapshot.capturedAt
      call.exchangeAccountId history.store.balanceSnapshots =
        history.store.balanceSnapshots.getLast? := by
    refine latestBy_eq_getLast? (fun b hb => ?_) (List.Pairwise.sublist hbalances ?_)
    · obtain ⟨c, hc, rfl⟩ := List.mem_map.mp (hbalances.subset hb)
      exact haccount c hc
    · exact List.pairwise_map.mpr (hcalls.imp fun hab => hab.2)
  have hposition : latestBy earlier PositionSnapshot.exchangeAccountId PositionSnapshot.capturedAt
      call.exchangeAccountId history.store.positionSnapshots =
        history.store.positionSnapshots.getLast? := by
    refine latestBy_eq_getLast? (fun p hp => ?_) (List.Pairwise.sublist hpositions ?_)
    · obtain ⟨c, hc, rfl⟩ := List.mem_map.mp (hpositions.subset hp)
      exact haccount c hc
    · exact List.pairwise_map.mpr (hcalls.imp fun hab => hab.2)
  unfold SyncCall.comparison SyncStore.getLatestBalanceSnapshot SyncStore.getLatestPositionSnapshot
  rw [hbalance, hposition]

/-- **The baseline of the next run.** -/
theorem baselineCompared_of_baselines (h : Baselines history)
    (hordered : OneAccount earlier (history.calls ++ [call])) :
    BaselineCompared history (call.comparison earlier history.store) := by
  rw [comparison_eq h.balances h.positions hordered]
  obtain ⟨hbalances, hpositions⟩ | ⟨first, hfirst, hbalances, hpositions⟩ |
    ⟨last, hlast, balances, positions, hbalances, hpositions, hbalance, hposition⟩ := h.latest
  · refine ⟨?_, ?_, ?_⟩ <;> simp [hbalances, hpositions]
  · refine ⟨?_, ?_, ?_⟩
    · intro b hb
      rw [hbalances] at hb ⊢
      obtain rfl : first.balanceSnapshot = b := Option.some.inj hb
      exact ⟨[], [], rfl, Or.inl rfl⟩
    · intro p hp
      rcases hpositions with hpositions | hpositions
      · simp [hpositions] at hp
      · rw [hpositions] at hp ⊢
        obtain rfl : first.positionSnapshot = p := Option.some.inj hp
        exact ⟨[], [], rfl, Or.inl rfl⟩
    · intro b p hb hp
      refine ⟨first, hfirst, ?_, ?_⟩
      · simpa [hbalances, eq_comm] using hb
      · rcases hpositions with hpositions | hpositions
        · simp [hpositions] at hp
        · simpa [hpositions, eq_comm] using hp
  · have hlastBalance : ∀ b, history.store.balanceSnapshots.getLast? = some b →
        last.balanceSnapshot = b := by
      intro b hb
      rw [hbalances, List.getLast?_concat] at hb
      exact Option.some.inj hb
    have hlastPosition : ∀ p, history.store.positionSnapshots.getLast? = some p →
        last.positionSnapshot = p := by
      intro p hp
      rw [hpositions, List.getLast?_concat] at hp
      exact Option.some.inj hp
    refine ⟨?_, ?_, ?_⟩
    · intro b hb
      obtain rfl := hlastBalance b hb
      exact ⟨balances, [], hbalances, Or.inr hbalance⟩
    · intro p hp
      obtain rfl := hlastPosition p hp
      exact ⟨positions, [], hpositions, Or.inr hposition⟩
    · intro b p hb hp
      exact ⟨last, hlast, (hlastBalance b hb).symm, (hlastPosition p hp).symm⟩

/-- A run that stored nothing, or stored the first snapshot, or returned, keeps the invariant. -/
theorem baselines_syncStep (h : Baselines history)
    (hordered : OneAccount earlier (history.calls ++ [call]))
    (hsettles : Settles earlier dateParse history call) :
    Baselines (syncStep earlier dateParse history call) := by
  obtain ⟨result, after, hrun, heffect⟩ := exec_syncRun earlier dateParse call history.store
  have hcall : call ∈ history.calls ++ [call] := List.mem_append_right _ (List.mem_singleton_self call)
  unfold syncStep
  rw [hrun]
  dsimp only
  cases heffect with
  | nothing hstores hbalances hpositions =>
    have hkeep : ∀ c ∈ history.calls, c ∈ history.calls ++ [call] :=
      fun c hc => List.mem_append_left _ hc
    refine ⟨?_, ?_, ?_⟩
    · rw [hbalances, List.map_append]
      exact h.balances.trans (List.sublist_append_left _ _)
    · rw [hpositions, List.map_append]
      exact h.positions.trans (List.sublist_append_left _ _)
    · obtain ⟨hb, hp⟩ | ⟨first, hfirst, hb, hp⟩ | ⟨last, hlast, bs, ps, hb, hp, hcb, hcp⟩ := h.latest
      · exact .none (hbalances.trans hb) (hpositions.trans hp)
      · refine .first first (hkeep first hfirst) (hbalances.trans hb) ?_
        rw [hpositions]
        exact hp
      · refine .compared last (hkeep last hlast) bs ps (hbalances.trans hb) (hpositions.trans hp) ?_ ?_
        · exact List.map_subset _ (List.subset_append_left _ _) hcb
        · exact List.map_subset _ (List.subset_append_left _ _) hcp
  | failed hstores hfails hbalances hpositions =>
    have hnone : history.store.balanceSnapshots = [] := (hsettles hstores).resolve_right hfails
    have hnone' : history.store.positionSnapshots = [] := by
      obtain ⟨-, hp⟩ | ⟨first, -, hb, -⟩ | ⟨last, -, bs, ps, hb, -, -, -⟩ := h.latest
      · exact hp
      · rw [hb] at hnone; cases hnone
      · rw [hb] at hnone; exact absurd hnone (List.append_ne_nil_of_right_ne_nil _ (List.cons_ne_nil _ _))
    rw [hnone, List.nil_append] at hbalances
    rw [hnone', List.nil_append] at hpositions
    refine ⟨?_, ?_, .first call hcall hbalances hpositions⟩
    · rw [hbalances, List.map_append]
      exact List.sublist_append_right _ _
    · rw [List.map_append]
      rcases hpositions with hpositions | hpositions
      · rw [hpositions]
        exact List.nil_sublist _
      · rw [hpositions]
        exact List.sublist_append_right _ _
  | @returned result after hsnapshots hdrift hbalances hpositions =>
    refine ⟨?_, ?_, ?_⟩
    · rw [hbalances, List.map_append]
      exact h.balances.append (List.Sublist.refl _)
    · rw [hpositions, List.map_append]
      exact h.positions.append (List.Sublist.refl _)
    · rw [comparison_eq h.balances h.positions hordered] at hsnapshots
      have hlast : result ∈ history.returned ++ [result] :=
        List.mem_append_right _ (List.mem_singleton_self result)
      refine .compared call hcall _ _ hbalances hpositions ?_ ?_
      · refine List.mem_map.mpr ⟨result, hlast, ?_⟩
        unfold comparedBalances
        rw [hsnapshots]
      · refine List.mem_map.mpr ⟨result, hlast, ?_⟩
        unfold comparedPositions
        rw [hsnapshots]

theorem calls_run (calls : List SyncCall) :
    (run (syncStep earlier dateParse) .empty calls).calls = calls := by
  induction calls using List.reverseRecOn with
  | nil => rfl
  | append_singleton calls call ih =>
    rw [run_append, run_cons, run_nil]
    exact congrArg (· ++ [call]) ih

theorem baselines_run {calls : List SyncCall} (hordered : OneAccount earlier calls)
    (hsettles : SafeRun (syncStep earlier dateParse) (Settles earlier dateParse) .empty calls) :
    Baselines (run (syncStep earlier dateParse) .empty calls) := by
  induction calls using List.reverseRecOn with
  | nil => exact ⟨List.nil_sublist _, List.nil_sublist _, .none rfl rfl⟩
  | append_singleton calls call ih =>
    obtain ⟨hsafe, hlast, -⟩ := safeRun_append.mp hsettles
    have hbaselines := ih (List.pairwise_append.mp hordered).1 hsafe
    rw [run_append, run_cons, run_nil]
    refine baselines_syncStep hbaselines ?_ hlast
    rw [calls_run]
    exact hordered

theorem oneAccount_take {pre post : List SyncCall}
    (hordered : OneAccount earlier (pre ++ call :: post)) : OneAccount earlier (pre ++ [call]) := by
  have happend : pre ++ call :: post = (pre ++ [call]) ++ post := by simp
  unfold OneAccount at hordered ⊢
  rw [happend] at hordered
  exact (List.pairwise_append.mp hordered).1

/-- **Every baseline was compared.** In a sequence of runs on one account in which no run fails
between its stored balance snapshot and its return, unless that is the first one stored, each run that
returns took a baseline that is the first of its kind or was compared with its predecessor by a
returned run, and whose two snapshots are those of one earlier run. -/
theorem baseline_was_compared {calls : List SyncCall} (hordered : OneAccount earlier calls)
    (hsettles : SafeRun (syncStep earlier dateParse) (Settles earlier dateParse) .empty calls)
    {pre post : List SyncCall} {call : SyncCall} (hcalls : calls = pre ++ call :: post)
    {result : PortfolioSyncRunResult} (hreturns : (exec (syncRun earlier dateParse call)
      (run (syncStep earlier dateParse) .empty pre).store).1 = .ok result) :
    BaselineCompared (run (syncStep earlier dateParse) .empty pre) result.snapshots := by
  subst hcalls
  obtain ⟨hsafe, -⟩ := safeRun_append.mp hsettles
  have hbaselines := baselines_run (List.pairwise_append.mp hordered).1 hsafe
  obtain ⟨answer, after, hrun, heffect⟩ := exec_syncRun earlier dateParse call
    (run (syncStep earlier dateParse) .empty pre).store
  rw [hrun] at hreturns
  obtain rfl : answer = .ok result := hreturns
  cases heffect with
  | returned hsnapshots hdrift hbalances hpositions =>
    rw [hsnapshots]
    refine baselineCompared_of_baselines hbaselines ?_
    rw [calls_run]
    exact oneAccount_take hordered

end Invariant

/-! ### A failed run -/

/-- `Date.parse` on the texts that a run accepts, which are in nanoseconds. -/
def isoDateParse (text : String) : Option ℤ :=
  if IsCandidateTimestamp text then some (instant text / 1000000) else none

/-- The order of two texts of one ISO form. -/
def isoEarlier (a b : String) : Bool := a < b

/-- A run in which the given dependency throws. -/
def sampleCall (id requestedAt : String) (krw : ℚ) (fails : Option SyncStep) : SyncCall where
  exchangeAccountId := "upbit"
  requestedAt
  runId := "recon_run_" ++ id
  balanceSnapshotId := "balance_snapshot_" ++ id
  positionSnapshotId := "position_snapshot_" ++ id
  balances := [⟨"KRW", krw, 0⟩]
  fills := []
  orderIssues := []
  throws step := if some step = fails then some (.failure "timeout") else none
  heldAtStart := true
  held _ := true
  heldInCatch := true

def firstSync : SyncCall := sampleCall "1" "2026-01-01T00:00:00.000Z" 100000 none

/-- The run that meets the withdrawal and fails while it reconciles the orders. -/
def failedSync : SyncCall := sampleCall "2" "2026-01-01T00:01:00.000Z" 50000 (some .reconcileOrders)

def nextSync : SyncCall := sampleCall "3" "2026-01-01T00:02:00.000Z" 50000 none

def settledSync : SyncCall := sampleCall "2" "2026-01-01T00:01:00.000Z" 50000 none

theorem sampleCall_completes (id requestedAt : String) (krw : ℚ) (findings : List DriftCode) :
    (sampleCall id requestedAt krw none).Completes findings :=
  ⟨rfl, ⟨rfl, rfl⟩, rfl, rfl, Or.inr rfl, rfl, rfl⟩

theorem snd_mem_of_compared {α : Type} {stored : List α} {comparisons : List (Option α × α)}
    {snapshot : α} (h : Compared stored comparisons snapshot) :
    stored.head? = some snapshot ∨ snapshot ∈ comparisons.map Prod.snd := by
  obtain ⟨before, later, rfl, rfl | hcompared⟩ := h
  · exact Or.inl rfl
  · exact Or.inr (List.mem_map_of_mem hcompared)

/-- **A failed run hides a change.** The withdrawal of 50000 KRW is in the snapshot that the second
run stores before it fails; the third run takes it as its baseline and reports no drift. -/
theorem failed_sync_hides_change :
    ∃ calls pre call result, OneAccount isoEarlier calls ∧ calls = pre ++ [call] ∧
      (exec (syncRun isoEarlier isoDateParse call)
        (run (syncStep isoEarlier isoDateParse) .empty pre).store).1 = .ok result ∧
      result.drift = [] ∧
      ¬ BaselineCompared (run (syncStep isoEarlier isoDateParse) .empty pre) result.snapshots := by
  let before := run (syncStep isoEarlier isoDateParse) .empty [firstSync, failedSync]
  let record : ReconciliationRun := ⟨"recon_run_3", "upbit", .success, "2026-01-01T00:02:00.000Z"⟩
  refine ⟨[firstSync, failedSync, nextSync], [firstSync, failedSync], nextSync,
    ⟨nextSync.requestedAt, nextSync.comparison isoEarlier before.store, [], record⟩,
    by decide +kernel, rfl, by decide +kernel, rfl, ?_⟩
  intro h
  have hcompared := snd_mem_of_compared (h.balance failedSync.balanceSnapshot (by decide +kernel))
  revert hcompared
  decide +kernel

/-- Three runs that return: the third takes the snapshots of the second as its baseline. -/
theorem baseline_was_compared_three :
    OneAccount isoEarlier [firstSync, settledSync, nextSync] ∧
      SafeRun (syncStep isoEarlier isoDateParse) (Settles isoEarlier isoDateParse) .empty
        [firstSync, settledSync, nextSync] ∧
      ∃ result, (exec (syncRun isoEarlier isoDateParse nextSync)
        (run (syncStep isoEarlier isoDateParse) .empty [firstSync, settledSync]).store).1 = .ok result ∧
        result.snapshots.previousBalanceSnapshot = some settledSync.balanceSnapshot ∧
        BaselineCompared (run (syncStep isoEarlier isoDateParse) .empty [firstSync, settledSync])
          result.snapshots := by
  have hordered : OneAccount isoEarlier [firstSync, settledSync, nextSync] := by decide +kernel
  have hsettles : SafeRun (syncStep isoEarlier isoDateParse) (Settles isoEarlier isoDateParse) .empty
      [firstSync, settledSync, nextSync] :=
    ⟨fun _ => Or.inr (sampleCall_completes ..), fun _ => Or.inr (sampleCall_completes ..),
      fun _ => Or.inr (sampleCall_completes ..), trivial⟩
  let before := run (syncStep isoEarlier isoDateParse) .empty [firstSync, settledSync]
  let record : ReconciliationRun := ⟨"recon_run_3", "upbit", .success, "2026-01-01T00:02:00.000Z"⟩
  have hreturns : (exec (syncRun isoEarlier isoDateParse nextSync) before.store).1 =
      .ok ⟨nextSync.requestedAt, nextSync.comparison isoEarlier before.store, [], record⟩ := by
    decide +kernel
  exact ⟨hordered, hsettles, _, hreturns, by decide +kernel,
    @baseline_was_compared _ _ _ hordered hsettles [firstSync, settledSync] [] _ rfl _ hreturns⟩

end AutoTrade.Reconciliation.SyncBaselines
