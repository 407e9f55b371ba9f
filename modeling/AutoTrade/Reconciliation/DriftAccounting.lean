import AutoTrade.Reconciliation.SyncBaselines
import Mathlib.Data.List.Chain
import Mathlib.Tactic.Linarith
import Mathlib.Tactic.Ring

/-! # What unflagged syncs account for

Each run judges the change since the one before it by the fills of the window between them, and falls
back to a window that starts one second earlier. Windows without the extra second are disjoint, so the
changes that they explain add up to the deltas of fills that are counted once each. A fill of the extra
second may already have been in the window of an earlier run, and then it explains a second change; and
the KRW total and the quantities may be judged by different windows. -/

namespace AutoTrade.Reconciliation.DriftAccounting

open Lib.Run Lib.Stateful
open Strategy.Core (SupportedAsset)
open Reconciliation.PortfolioDrift Reconciliation.PortfolioSync
open Reconciliation.SyncBaselines

/-! ### Sums of fill deltas -/

/-- What a fill adds to the KRW total. -/
def fillKrwDelta (fill : Fill) : ℚ := (Amounts.zero.addFill fill).krw

/-- What a fill adds to the quantity of an asset. -/
def fillQuantityDelta (asset : SupportedAsset) (fill : Fill) : ℚ :=
  (Amounts.zero.addFill fill).of asset

theorem krw_addFill (amounts : Amounts) (fill : Fill) :
    (amounts.addFill fill).krw = amounts.krw + fillKrwDelta fill := by
  unfold fillKrwDelta Amounts.addFill Amounts.addKrw Amounts.addAsset Amounts.zero
  cases fill.side <;> cases fill.asset <;> simp

theorem of_addFill (amounts : Amounts) (fill : Fill) (asset : SupportedAsset) :
    (amounts.addFill fill).of asset = amounts.of asset + fillQuantityDelta asset fill := by
  unfold fillQuantityDelta Amounts.addFill Amounts.addKrw Amounts.addAsset Amounts.zero Amounts.of
  cases fill.side <;> cases fill.asset <;> cases asset <;> simp

theorem krw_foldl_addFill (fills : List Fill) (amounts : Amounts) :
    (fills.foldl Amounts.addFill amounts).krw = amounts.krw + (fills.map fillKrwDelta).sum := by
  induction fills generalizing amounts with
  | nil => simp
  | cons fill fills ih =>
    rw [List.foldl_cons, ih, krw_addFill, List.map_cons, List.sum_cons, add_assoc]

theorem of_foldl_addFill (fills : List Fill) (amounts : Amounts) (asset : SupportedAsset) :
    (fills.foldl Amounts.addFill amounts).of asset =
      amounts.of asset + (fills.map (fillQuantityDelta asset)).sum := by
  induction fills generalizing amounts with
  | nil => simp
  | cons fill fills ih =>
    rw [List.foldl_cons, ih, of_addFill, List.map_cons, List.sum_cons, add_assoc]

variable (fills fills' : List Fill)

theorem krw_aggregate_append :
    (aggregateFillDeltas (fills ++ fills')).krw =
      (aggregateFillDeltas fills).krw + (aggregateFillDeltas fills').krw := by
  unfold aggregateFillDeltas
  rw [List.foldl_append, krw_foldl_addFill fills', krw_foldl_addFill fills' .zero]
  simp [Amounts.zero]

theorem of_aggregate_append (asset : SupportedAsset) :
    (aggregateFillDeltas (fills ++ fills')).of asset =
      (aggregateFillDeltas fills).of asset + (aggregateFillDeltas fills').of asset := by
  unfold aggregateFillDeltas
  rw [List.foldl_append, of_foldl_addFill fills', of_foldl_addFill fills' .zero]
  cases asset <;> simp [Amounts.zero, Amounts.of]

/-! ### Windows and what they explain -/

/-- The tolerance of the check of the KRW total. -/
def krwTolerance : ℚ := krwDustTolerance + floatingPointEpsilon

/-- The tolerance of the check of a quantity. -/
def quantityTolerance : ℚ := floatingPointEpsilon + floatingPointEpsilon

def krwTotal (call : SyncCall) : ℚ := (parseManagedBalances call.balanceSnapshot).krw

def quantity (call : SyncCall) (asset : SupportedAsset) : ℚ :=
  (parseManagedPositionQuantities call.positionSnapshot).of asset

variable {calls : List SyncCall}

section Accounting

variable (dateParse : String → Option ℤ)

/-- The fills of the window between two runs, with the given grace at its start. -/
def window (previous call : SyncCall) (graceMs : ℤ) : List Fill :=
  selectFillsWithinSnapshotWindow dateParse call.fills previous.requestedAt call.requestedAt graceMs

def balanceExplained (previous call : SyncCall) (graceMs : ℤ) : Bool :=
  explainsBalance previous.balanceSnapshot call.balanceSnapshot
    (window dateParse previous call graceMs)

def positionsExplained (previous call : SyncCall) (graceMs : ℤ) : Bool :=
  explainsPositions previous.positionSnapshot call.positionSnapshot
    (window dateParse previous call graceMs)

/-- The grace of the window that explains the KRW total and the quantities. -/
def usedGraceMs (previous call : SyncCall) : ℤ :=
  if balanceExplained dateParse previous call 0 && positionsExplained dateParse previous call 0 then 0
  else fillSnapshotStartGraceMs

/-- The last run, and the fills of the windows that explained the changes up to it. -/
structure Accounting where
  previous : SyncCall
  counted : List Fill
  runs : ℕ

def Accounting.step (accounting : Accounting) (call : SyncCall) : Accounting where
  previous := call
  counted := accounting.counted ++
    window dateParse accounting.previous call (usedGraceMs dateParse accounting.previous call)
  runs := accounting.runs + 1

/-- When the run falls back to the earlier window for the KRW total or for the quantities, that window
explains the other ones too, and no fill of it was in the window of an earlier run. -/
structure CountsOnce (accounting : Accounting) (call : SyncCall) : Prop where
  positions : balanceExplained dateParse accounting.previous call 0 = false →
    positionsExplained dateParse accounting.previous call fillSnapshotStartGraceMs = true
  balance : positionsExplained dateParse accounting.previous call 0 = false →
    balanceExplained dateParse accounting.previous call fillSnapshotStartGraceMs = true
  fresh : usedGraceMs dateParse accounting.previous call ≠ 0 →
    ∀ fill ∈ window dateParse accounting.previous call fillSnapshotStartGraceMs,
      fill ∉ accounting.counted

/-- The comparison of two consecutive runs finds no drift. -/
def Unflagged (previous call : SyncCall) : Prop :=
  detectPortfolioDrift dateParse ⟨some previous.balanceSnapshot, call.balanceSnapshot,
    some previous.positionSnapshot, call.positionSnapshot⟩ call.fills = []

/-- The later run has a later instant, and the fills that were stored are still there. -/
def Later (previous call : SyncCall) : Prop :=
  (∃ s t, dateParse previous.requestedAt = some s ∧ dateParse call.requestedAt = some t ∧ s < t) ∧
    previous.fills.Subperm call.fills

/-! ### The invariant -/

/-- The fills counted so far are exchange-backed, stored, at most once each and not after the last
run, and they account for the changes since the first run. -/
structure Accounts (first : SyncCall) (accounting : Accounting) : Prop where
  stored : accounting.counted.Subperm accounting.previous.fills
  backed : ∀ fill ∈ accounting.counted, isExchangeBackedFill fill = true
  past : ∀ fill ∈ accounting.counted, ∃ i t, dateParse fill.filledAt = some i ∧
    dateParse accounting.previous.requestedAt = some t ∧ i ≤ t
  krw : |krwTotal accounting.previous - krwTotal first -
    (aggregateFillDeltas accounting.counted).krw| ≤ accounting.runs * krwTolerance
  quantities : ∀ asset, |quantity accounting.previous asset - quantity first asset -
    (aggregateFillDeltas accounting.counted).of asset| ≤ accounting.runs * quantityTolerance

variable {dateParse}

theorem accounts_first (first : SyncCall) : Accounts dateParse first ⟨first, [], 0⟩ := by
  refine ⟨List.nil_subperm, ?_, ?_, ?_, ?_⟩
  · simp
  · simp
  · simp [aggregateFillDeltas, Amounts.zero]
  · intro asset
    cases asset <;> simp [aggregateFillDeltas, Amounts.zero, Amounts.of]

variable {graceMs : ℤ} {previous call : SyncCall}

theorem mem_window {fill : Fill} :
    fill ∈ window dateParse previous call graceMs ↔ fill ∈ call.fills ∧
      isExchangeBackedFill fill = true ∧ ∃ i s t, dateParse fill.filledAt = some i ∧
        dateParse previous.requestedAt = some s ∧ dateParse call.requestedAt = some t ∧
        s - graceMs < i ∧ i ≤ t := by
  unfold window selectFillsWithinSnapshotWindow isTimestampWithinSnapshotWindow
  rw [List.mem_filter, Bool.and_eq_true]
  refine and_congr_right fun _ => and_congr_right fun _ => ?_
  cases dateParse fill.filledAt with
  | none => simp
  | some i =>
    cases dateParse previous.requestedAt with
    | none => simp
    | some s =>
      cases dateParse call.requestedAt with
      | none => simp
      | some t => simp

theorem append_window_subperm {counted : List Fill} (hstored : counted.Subperm call.fills)
    (hfresh : ∀ fill ∈ window dateParse previous call graceMs, fill ∉ counted) :
    (counted ++ window dateParse previous call graceMs).Subperm call.fills := by
  unfold window selectFillsWithinSnapshotWindow at hfresh ⊢
  generalize hp : (fun fill => isExchangeBackedFill fill && isTimestampWithinSnapshotWindow dateParse
    fill.filledAt previous.requestedAt call.requestedAt graceMs) = p at hfresh ⊢
  have hrest : counted.Subperm (call.fills.filter fun fill => ! p fill) := by
    have hself : counted.filter (fun fill => ! p fill) = counted := by
      refine List.filter_eq_self.mpr fun fill hfill => ?_
      have hnot : ¬ p fill = true := fun hpf =>
        hfresh fill (List.mem_filter.mpr ⟨hstored.subset hfill, hpf⟩) hfill
      simpa using hnot
    rw [← hself]
    exact hstored.filter _
  have hperm : (call.fills.filter p ++ call.fills.filter fun fill => ! p fill).Perm call.fills :=
    List.filter_append_perm p call.fills
  have happend := (List.subperm_append_left (call.fills.filter p)).mpr hrest
  exact (List.perm_append_comm.subperm.trans happend).trans hperm.subperm

theorem abs_krw_le (h : balanceExplained dateParse previous call graceMs = true) :
    |krwTotal call - krwTotal previous -
      (aggregateFillDeltas (window dateParse previous call graceMs)).krw| ≤ krwTolerance := by
  unfold balanceExplained explainsBalance isEffectivelyZero at h
  exact of_decide_eq_true h

theorem abs_quantity_le (h : positionsExplained dateParse previous call graceMs = true)
    (asset : SupportedAsset) :
    |quantity call asset - quantity previous asset -
      (aggregateFillDeltas (window dateParse previous call graceMs)).of asset| ≤
        quantityTolerance := by
  unfold positionsExplained explainsPositions isEffectivelyZero at h
  rw [List.all_eq_true] at h
  exact of_decide_eq_true (h asset (by cases asset <;> simp))

theorem explained_of_none {plain grace : Bool} {code : DriftCode}
    (h : (if plain then none else if grace then none else some code) = none) :
    plain = true ∨ grace = true := by
  split_ifs at h with hplain hgrace
  · exact Or.inl hplain
  · exact Or.inr hgrace

theorem explained_of_unflagged (h : Unflagged dateParse previous call) :
    (balanceExplained dateParse previous call 0 = true ∨
      balanceExplained dateParse previous call fillSnapshotStartGraceMs = true) ∧
      (positionsExplained dateParse previous call 0 = true ∨
        positionsExplained dateParse previous call fillSnapshotStartGraceMs = true) := by
  unfold Unflagged detectPortfolioDrift at h
  obtain ⟨hbalance, hposition⟩ := List.append_eq_nil_iff.mp h
  exact ⟨explained_of_none (Option.toList_eq_nil_iff.mp hbalance),
    explained_of_none (Option.toList_eq_nil_iff.mp hposition)⟩

variable {accounting : Accounting} {call : SyncCall}

theorem explained_usedGraceMs (hunflagged : Unflagged dateParse accounting.previous call)
    (hcounts : CountsOnce dateParse accounting call) :
    balanceExplained dateParse accounting.previous call
        (usedGraceMs dateParse accounting.previous call) = true ∧
      positionsExplained dateParse accounting.previous call
        (usedGraceMs dateParse accounting.previous call) = true := by
  obtain ⟨hbalance, hposition⟩ := explained_of_unflagged hunflagged
  unfold usedGraceMs
  split_ifs with hplain
  · exact Bool.and_eq_true_iff.mp hplain
  · constructor
    · rcases hbalance with hbalance | hbalance
      · refine hcounts.balance ?_
        simpa [hbalance] using hplain
      · exact hbalance
    · rcases hposition with hposition | hposition
      · refine hcounts.positions ?_
        simpa [hposition] using hplain
      · exact hposition

variable {first : SyncCall}

theorem fresh_usedGraceMs (h : Accounts dateParse first accounting)
    (hcounts : CountsOnce dateParse accounting call) :
    ∀ fill ∈ window dateParse accounting.previous call
      (usedGraceMs dateParse accounting.previous call), fill ∉ accounting.counted := by
  intro fill hfill hcounted
  by_cases hzero : usedGraceMs dateParse accounting.previous call = 0
  · rw [hzero] at hfill
    obtain ⟨-, -, i, s, t, hi, hs, -, hlt, -⟩ := mem_window.mp hfill
    obtain ⟨i', s', hi', hs', hle⟩ := h.past fill hcounted
    rw [hi] at hi'
    rw [hs] at hs'
    obtain rfl := Option.some.inj hi'
    obtain rfl := Option.some.inj hs'
    omega
  · have hgrace : usedGraceMs dateParse accounting.previous call = fillSnapshotStartGraceMs := by
      unfold usedGraceMs at hzero ⊢
      exact if_neg fun hplain => hzero (if_pos hplain)
    rw [hgrace] at hfill
    exact hcounts.fresh hzero fill hfill hcounted

theorem abs_add_le_of_abs_le {a b c x y p q : ℚ} (hx : |b - a - x| ≤ p) (hy : |c - b - y| ≤ q) :
    |c - a - (x + y)| ≤ p + q := by
  have hsplit : c - a - (x + y) = (b - a - x) + (c - b - y) := by ring
  rw [hsplit]
  exact (abs_add_le _ _).trans (add_le_add hx hy)

theorem accounts_step (h : Accounts dateParse first accounting)
    (hlater : Later dateParse accounting.previous call)
    (hunflagged : Unflagged dateParse accounting.previous call)
    (hcounts : CountsOnce dateParse accounting call) :
    Accounts dateParse first (accounting.step dateParse call) := by
  obtain ⟨hbalance, hposition⟩ := explained_usedGraceMs hunflagged hcounts
  obtain ⟨⟨s, t, hs, ht, hlt⟩, hgrows⟩ := hlater
  have hruns : ((accounting.runs + 1 : ℕ) : ℚ) = accounting.runs + 1 := by push_cast; rfl
  refine ⟨?_, ?_, ?_, ?_, ?_⟩
  · exact append_window_subperm (h.stored.trans hgrows) (fresh_usedGraceMs h hcounts)
  · intro fill hfill
    rcases List.mem_append.mp hfill with hfill | hfill
    · exact h.backed fill hfill
    · exact (mem_window.mp hfill).2.1
  · intro fill hfill
    rcases List.mem_append.mp hfill with hfill | hfill
    · obtain ⟨i, s', hi, hs', hle⟩ := h.past fill hfill
      rw [hs] at hs'
      obtain rfl := Option.some.inj hs'
      exact ⟨i, t, hi, ht, by omega⟩
    · obtain ⟨-, -, i, -, t', hi, -, ht', -, hle⟩ := mem_window.mp hfill
      exact ⟨i, t', hi, ht', hle⟩
  · show |krwTotal call - krwTotal first - (aggregateFillDeltas (accounting.counted ++ _)).krw| ≤
      ((accounting.runs + 1 : ℕ) : ℚ) * krwTolerance
    rw [krw_aggregate_append, hruns, add_mul, one_mul]
    exact abs_add_le_of_abs_le h.krw (abs_krw_le hbalance)
  · intro asset
    show |quantity call asset - quantity first asset -
      (aggregateFillDeltas (accounting.counted ++ _)).of asset| ≤
        ((accounting.runs + 1 : ℕ) : ℚ) * quantityTolerance
    rw [of_aggregate_append, hruns, add_mul, one_mul]
    exact abs_add_le_of_abs_le (h.quantities asset) (abs_quantity_le hposition asset)

theorem accounts_run (h : Accounts dateParse first accounting)
    (hlater : (accounting.previous :: calls).IsChain (Later dateParse))
    (hunflagged : (accounting.previous :: calls).IsChain (Unflagged dateParse))
    (hcounts : SafeRun (Accounting.step dateParse) (CountsOnce dateParse) accounting calls) :
    Accounts dateParse first (run (Accounting.step dateParse) accounting calls) := by
  induction calls generalizing accounting with
  | nil => exact h
  | cons call calls ih =>
    obtain ⟨hlater, hrest⟩ := List.isChain_cons_cons.mp hlater
    obtain ⟨hunflagged, hrest'⟩ := List.isChain_cons_cons.mp hunflagged
    exact ih (accounts_step h hlater hunflagged hcounts.1) hrest hrest' hcounts.2

theorem previous_run (accounting : Accounting) (calls : List SyncCall) :
    (run (Accounting.step dateParse) accounting calls).previous =
      calls.getLastD accounting.previous := by
  induction calls generalizing accounting with
  | nil => rfl
  | cons call calls ih =>
    rw [run_cons, ih, List.getLastD_cons]
    rfl

theorem runs_run (accounting : Accounting) (calls : List SyncCall) :
    (run (Accounting.step dateParse) accounting calls).runs = accounting.runs + calls.length := by
  induction calls generalizing accounting with
  | nil => rfl
  | cons call calls ih =>
    rw [run_cons, ih, List.length_cons]
    show accounting.runs + 1 + calls.length = _
    omega

end Accounting

/-! ### Runs of the service -/

section Syncs

variable {earlier : String → String → Bool} {dateParse : String → Option ℤ}

/-- The run of `call` after those of `pre` returns `result`. -/
def Returns (earlier : String → String → Bool) (dateParse : String → Option ℤ) (pre : List SyncCall)
    (call : SyncCall) (result : PortfolioSyncRunResult) : Prop :=
  (exec (syncRun earlier dateParse call) (run (syncStep earlier dateParse) .empty pre).store).1 =
    .ok result

/-- Every run returns, and none after the first has a finding. -/
def UnflaggedRuns (earlier : String → String → Bool) (dateParse : String → Option ℤ)
    (calls : List SyncCall) : Prop :=
  ∀ pre call post, calls = pre ++ call :: post →
    ∃ result, Returns earlier dateParse pre call result ∧ (pre ≠ [] → result.drift = [])

/-- The run at index `i` returns, without a finding unless it is the first one. -/
def returnsUnflagged (earlier : String → String → Bool) (dateParse : String → Option ℤ)
    (calls : List SyncCall) (i : Fin calls.length) : Bool :=
  match (exec (syncRun earlier dateParse (calls.get i))
    (run (syncStep earlier dateParse) .empty (calls.take i)).store).1 with
  | .ok result => i.val = 0 ∨ result.drift = []
  | .error _ => false

theorem unflaggedRuns_of_forall (h : ∀ i, returnsUnflagged earlier dateParse calls i = true) :
    UnflaggedRuns earlier dateParse calls := by
  rintro pre call post rfl
  have hreturns := h ⟨pre.length, by simp⟩
  unfold returnsUnflagged at hreturns
  simp only [List.get_eq_getElem, List.getElem_append_right (Nat.le_refl _), Nat.sub_self,
    List.getElem_cons_zero, List.take_left'] at hreturns
  unfold Returns
  cases hrun : (exec (syncRun earlier dateParse call)
    (run (syncStep earlier dateParse) .empty pre).store).1 with
  | error e => rw [hrun] at hreturns; cases hreturns
  | ok result =>
    rw [hrun] at hreturns
    refine ⟨result, rfl, fun hpre => ?_⟩
    have hzero := of_decide_eq_true hreturns
    exact hzero.resolve_left fun hlength => hpre (List.length_eq_zero_iff.mp hlength)

theorem store_of_unflaggedRuns (h : UnflaggedRuns earlier dateParse calls) :
    (run (syncStep earlier dateParse) .empty calls).store.balanceSnapshots =
        calls.map SyncCall.balanceSnapshot ∧
      (run (syncStep earlier dateParse) .empty calls).store.positionSnapshots =
        calls.map SyncCall.positionSnapshot := by
  induction calls using List.reverseRecOn with
  | nil => exact ⟨rfl, rfl⟩
  | append_singleton calls call ih =>
    obtain ⟨hbalances, hpositions⟩ := ih fun pre c post hcalls =>
      h pre c (post ++ [call]) (by rw [hcalls]; simp)
    obtain ⟨result, hreturns, -⟩ := h calls call [] rfl
    obtain ⟨answer, after, hrun, heffect⟩ := exec_syncRun earlier dateParse call
      (run (syncStep earlier dateParse) .empty calls).store
    unfold Returns at hreturns
    rw [hrun] at hreturns
    obtain rfl : answer = .ok result := hreturns
    rw [run_append, run_cons, run_nil]
    unfold syncStep at hrun ⊢
    rw [hrun]
    cases heffect with
    | returned hsnapshots hdrift hbalances' hpositions' =>
      exact ⟨by rw [hbalances', List.map_append]; exact congrArg (· ++ _) hbalances,
        by rw [hpositions', List.map_append]; exact congrArg (· ++ _) hpositions⟩

/-- Each run after the first compared its snapshots with those of the run before it. -/
theorem isChain_unflagged (hordered : OneAccount earlier calls)
    (h : UnflaggedRuns earlier dateParse calls) : calls.IsChain (Unflagged dateParse) := by
  refine List.isChain_iff_forall_rel_of_append_cons_cons.mpr ?_
  intro previous call pre post hcalls
  have hsplit : calls = (pre ++ [previous]) ++ call :: post := by rw [hcalls]; simp
  have hprefix : UnflaggedRuns earlier dateParse (pre ++ [previous]) := fun pre' c post' hpre =>
    h pre' c (post' ++ call :: post) (by rw [hsplit, hpre]; simp)
  have hstore := store_of_unflaggedRuns hprefix
  obtain ⟨result, hreturns, hdrift⟩ := h (pre ++ [previous]) call post hsplit
  have hnil := hdrift (by simp)
  obtain ⟨answer, after, hrun, heffect⟩ := exec_syncRun earlier dateParse call
    (run (syncStep earlier dateParse) .empty (pre ++ [previous])).store
  unfold Returns at hreturns
  rw [hrun] at hreturns
  obtain rfl : answer = .ok result := hreturns
  cases heffect with
  | returned hsnapshots hfindings hbalances hpositions =>
    rw [hsplit] at hordered
    have hnext : OneAccount earlier
        ((run (syncStep earlier dateParse) .empty (pre ++ [previous])).calls ++ [call]) := by
      rw [calls_run]
      exact oneAccount_take hordered
    have hcomparison := comparison_eq (by rw [hstore.1, calls_run]) (by rw [hstore.2, calls_run]) hnext
    rw [hsnapshots, hcomparison, hstore.1, hstore.2, hnil] at hfindings
    unfold Unflagged
    simpa using hfindings.symm

/-- **What unflagged syncs account for.** In a sequence of successful runs on one account of which
none after the first has a finding, and in which no run falls back to a window with a fill that was
counted before, the changes from the first to the last snapshot are those of a set of stored
exchange-backed fills, up to one tolerance for each run. -/
theorem unflagged_syncs_account {first : SyncCall} {calls : List SyncCall}
    (hordered : OneAccount earlier (first :: calls))
    (hlater : (first :: calls).IsChain (Later dateParse))
    (hunflagged : UnflaggedRuns earlier dateParse (first :: calls))
    (hcounts : SafeRun (Accounting.step dateParse) (CountsOnce dateParse) ⟨first, [], 0⟩ calls) :
    ∃ counted : List Fill, counted.Subperm (calls.getLastD first).fills ∧
      (∀ fill ∈ counted, isExchangeBackedFill fill = true) ∧
      |krwTotal (calls.getLastD first) - krwTotal first - (aggregateFillDeltas counted).krw| ≤
        (first :: calls).length * krwTolerance ∧
      ∀ asset, |quantity (calls.getLastD first) asset - quantity first asset -
        (aggregateFillDeltas counted).of asset| ≤ (first :: calls).length * quantityTolerance := by
  have haccounts := accounts_run (accounts_first first) hlater
    (isChain_unflagged hordered hunflagged) hcounts
  obtain ⟨hstored, hbacked, -, hkrw, hquantities⟩ := haccounts
  rw [previous_run] at hstored hkrw hquantities
  rw [runs_run, Nat.zero_add] at hkrw hquantities
  have hruns : (calls.length : ℚ) ≤ ((first :: calls).length : ℕ) := by
    exact_mod_cast Nat.le_succ calls.length
  refine ⟨_, hstored, hbacked, hkrw.trans ?_, fun asset => (hquantities asset).trans ?_⟩
  · exact mul_le_mul_of_nonneg_right hruns (by norm_num [krwTolerance, krwDustTolerance,
      floatingPointEpsilon])
  · exact mul_le_mul_of_nonneg_right hruns (by norm_num [quantityTolerance, floatingPointEpsilon])

end Syncs

/-! ### A fill that explains two changes -/

/-- A buy of 0.001 BTC for 50000 KRW, half a second before the second run. -/
def sampleFill : Fill where
  id := "fill_1"
  exchangeFillId := "upbit_1"
  market := .krwBtc
  side := .bid
  price := 50000000
  volume := 1 / 1000
  feeCurrency := some "KRW"
  feeAmount := some 0
  filledAt := "2026-01-01T00:00:59.500Z"
  payloadMode := none

def sampleSync (id requestedAt : String) (krw btc : ℚ) (fills : List Fill) : SyncCall :=
  { sampleCall id requestedAt krw none with balances := [⟨"KRW", krw, 0⟩, ⟨"BTC", btc, 0⟩], fills }

def startSync : SyncCall := sampleSync "1" "2026-01-01T00:00:00.000Z" 100000 0 []

def boughtSync : SyncCall := sampleSync "2" "2026-01-01T00:01:00.000Z" 50000 (1 / 1000) [sampleFill]

/-- The run after a withdrawal of 50000 KRW. -/
def withdrawnSync : SyncCall := sampleSync "3" "2026-01-01T00:02:00.000Z" 0 (1 / 1000) [sampleFill]

def quietSync : SyncCall := sampleSync "3" "2026-01-01T00:02:00.000Z" 50000 (1 / 1000) [sampleFill]

theorem isChain_later_sample {second third : SyncCall} (hsecond : second.requestedAt =
      "2026-01-01T00:01:00.000Z") (hthird : third.requestedAt = "2026-01-01T00:02:00.000Z")
    (hfills : second.fills = [sampleFill]) (hfills' : third.fills = [sampleFill]) :
    [startSync, second, third].IsChain (Later isoDateParse) := by
  have hfirst : startSync.fills = [] := rfl
  refine List.isChain_cons_cons.mpr ⟨⟨?_, by rw [hfirst]; exact List.nil_subperm⟩,
    List.isChain_cons_cons.mpr ⟨⟨?_, by rw [hfills, hfills']⟩, List.isChain_singleton _⟩⟩
  · rw [hsecond]
    exact ⟨1767225600000, 1767225660000, by decide +kernel, by decide +kernel, by decide⟩
  · rw [hsecond, hthird]
    exact ⟨1767225660000, 1767225720000, by decide +kernel, by decide +kernel, by decide⟩

/-- **A fill explains two changes.** The buy explains the change of the second run, and by the extra
second the withdrawal that the third run sees; no run has a finding, and no set of the stored fills
explains the change of the KRW total from the first to the last snapshot. -/
theorem fill_explains_two_changes :
    OneAccount isoEarlier [startSync, boughtSync, withdrawnSync] ∧
      [startSync, boughtSync, withdrawnSync].IsChain (Later isoDateParse) ∧
      UnflaggedRuns isoEarlier isoDateParse [startSync, boughtSync, withdrawnSync] ∧
      ¬ ∃ counted : List Fill, counted.Subperm withdrawnSync.fills ∧
        |krwTotal withdrawnSync - krwTotal startSync - (aggregateFillDeltas counted).krw| ≤
          3 * krwTolerance := by
  refine ⟨by decide +kernel, isChain_later_sample rfl rfl rfl rfl,
    unflaggedRuns_of_forall (by decide +kernel), ?_⟩
  rintro ⟨counted, ⟨fills, hperm, hsublist⟩, hkrw⟩
  have hcases : fills = [] ∨ fills = [sampleFill] := List.sublist_singleton.mp hsublist
  rcases hcases with rfl | rfl
  · obtain rfl := List.nil_perm.mp hperm
    revert hkrw
    decide +kernel
  · obtain rfl := List.singleton_perm.mp hperm
    revert hkrw
    decide +kernel

/-- The same runs without the withdrawal. -/
theorem unflagged_syncs_account_three :
    OneAccount isoEarlier [startSync, boughtSync, quietSync] ∧
      [startSync, boughtSync, quietSync].IsChain (Later isoDateParse) ∧
      UnflaggedRuns isoEarlier isoDateParse [startSync, boughtSync, quietSync] ∧
      SafeRun (Accounting.step isoDateParse) (CountsOnce isoDateParse) ⟨startSync, [], 0⟩
        [boughtSync, quietSync] ∧
      ∃ counted : List Fill, counted.Subperm quietSync.fills ∧
        (∀ fill ∈ counted, isExchangeBackedFill fill = true) ∧
        |krwTotal quietSync - krwTotal startSync - (aggregateFillDeltas counted).krw| ≤
          (3 : ℕ) * krwTolerance ∧
        ∀ asset, |quantity quietSync asset - quantity startSync asset -
          (aggregateFillDeltas counted).of asset| ≤ (3 : ℕ) * quantityTolerance := by
  have hordered : OneAccount isoEarlier [startSync, boughtSync, quietSync] := by decide +kernel
  have hlater : [startSync, boughtSync, quietSync].IsChain (Later isoDateParse) :=
    isChain_later_sample rfl rfl rfl rfl
  have hunflagged : UnflaggedRuns isoEarlier isoDateParse [startSync, boughtSync, quietSync] :=
    unflaggedRuns_of_forall (by decide +kernel)
  have hcounts : SafeRun (Accounting.step isoDateParse) (CountsOnce isoDateParse) ⟨startSync, [], 0⟩
      [boughtSync, quietSync] := by
    refine ⟨⟨?_, ?_, ?_⟩, ⟨?_, ?_, ?_⟩, trivial⟩
    all_goals decide +kernel
  exact ⟨hordered, hlater, hunflagged, hcounts,
    unflagged_syncs_account hordered hlater hunflagged hcounts⟩

end AutoTrade.Reconciliation.DriftAccounting
