import AutoTrade.Domain.Timestamp
import AutoTrade.Lib.Stateful
import AutoTrade.Lib.Table
import AutoTrade.Reconciliation.PortfolioDrift
import Mathlib.Data.List.Sort

/-! # The portfolio sync

`PortfolioSyncService.run` with the part of `ReconciliationService.runWithRecord` that compares
snapshots. The latest snapshots of the account are read as the baseline, new ones are stored, and then
the orders are reconciled and the drift is detected. Any dependency may throw, and ownership may be
lost after any of them; a write either applies or throws without effect.

`earlier` is the comparison that the lookups of the latest snapshot sort by: `localeCompare` of the
texts being negative. -/

namespace AutoTrade.Reconciliation.PortfolioSync

open Lib Lib.Stateful Domain.Timestamp
open Reconciliation.PortfolioDrift

/-! ### Calls -/

/-- The dependencies of a run, in the order in which they are called. The ones from `reconcileOrders`
on are inside `runWithRecord`. -/
inductive SyncStep
  | getLatestBalanceSnapshot
  | getLatestPositionSnapshot
  | getBalances
  | resolveValuationPrices
  | saveBalanceSnapshot
  | savePositionSnapshot
  | reconcileOrders
  | listFills
  | saveRiskEvent
  | saveReconciliationRun
  | updateReconciliationRun
  deriving DecidableEq

/-- A `RuntimeOwnershipGuardError`, or any other error with its message. -/
inductive SyncError
  | ownership
  | failure (message : String)
  deriving DecidableEq

/-- A run with what its environment answers: which dependency throws, whether ownership is held at
the check after a dependency, the balances of the exchange and the fills that are stored when the
drift is detected. -/
structure SyncCall where
  exchangeAccountId : String
  requestedAt : String
  runId : String
  balanceSnapshotId : String
  positionSnapshotId : String
  balances : List ExchangeBalance
  fills : List Fill
  orderIssues : List String
  throws : SyncStep → Option SyncError
  heldAtStart : Bool
  held : SyncStep → Bool
  heldInCatch : Bool

inductive ReconciliationStatus
  | success
  | driftDetected
  | error
  deriving DecidableEq

structure ReconciliationRun where
  id : String
  exchangeAccountId : String
  status : ReconciliationStatus
  startedAt : String
  deriving DecidableEq

structure SyncStore where
  balanceSnapshots : List BalanceSnapshot
  positionSnapshots : List PositionSnapshot
  reconciliationRuns : List ReconciliationRun

def SyncStore.empty : SyncStore := ⟨[], [], []⟩

structure PortfolioSyncRunResult where
  requestedAt : String
  snapshots : PortfolioSnapshots
  drift : List DriftCode
  reconciliationRun : ReconciliationRun
  deriving DecidableEq

/-! ### The latest snapshot -/

section Sync

variable (earlier : String → String → Bool) (dateParse : String → Option ℤ)

/-- The first record of the account after a stable sort by `capturedAt`, newest first. -/
def latestBy {α : Type} (account capturedAt : α → String) (exchangeAccountId : String)
    (records : List α) : Option α :=
  ((records.filter fun r => account r = exchangeAccountId).insertionSort
    fun a b => ¬ earlier (capturedAt a) (capturedAt b) = true).head?

def SyncStore.getLatestBalanceSnapshot (store : SyncStore) (exchangeAccountId : String) :
    Option BalanceSnapshot :=
  latestBy earlier BalanceSnapshot.exchangeAccountId BalanceSnapshot.capturedAt exchangeAccountId
    store.balanceSnapshots

def SyncStore.getLatestPositionSnapshot (store : SyncStore) (exchangeAccountId : String) :
    Option PositionSnapshot :=
  latestBy earlier PositionSnapshot.exchangeAccountId PositionSnapshot.capturedAt exchangeAccountId
    store.positionSnapshots

/-! ### The run -/

abbrev SyncM := ExceptT SyncError (StateM SyncStore)

/-- A dependency that throws, or not. -/
def depend (call : SyncCall) (step : SyncStep) : SyncM Unit :=
  match call.throws step with
  | some e => throw e
  | none => pure ()

def assertLocallyHeld (held : Bool) : SyncM Unit :=
  if held then pure () else throw .ownership

/-- An awaited dependency and the check of the ownership after it. -/
def awaitHeld (call : SyncCall) (step : SyncStep) : SyncM Unit := do
  depend call step
  assertLocallyHeld (call.held step)

def SyncCall.balanceSnapshot (call : SyncCall) : BalanceSnapshot :=
  buildBalanceSnapshotRecord call.balanceSnapshotId call.exchangeAccountId call.balances
    call.requestedAt

def SyncCall.positionSnapshot (call : SyncCall) : PositionSnapshot :=
  buildPositionSnapshotRecord call.positionSnapshotId call.exchangeAccountId call.balances
    call.requestedAt

/-- `detectPortfolioDrift` of the reconciliation service: the findings are stored as risk events. -/
def detectAndRecordDrift (call : SyncCall) (snapshots : PortfolioSnapshots) :
    SyncM (List DriftCode) := do
  depend call .listFills
  let findings := detectPortfolioDrift dateParse snapshots call.fills
  if findings = [] then pure []
  else do
    depend call .saveRiskEvent
    pure findings

/-- `runWithRecord`: the record of the run is stored after the drift was detected. -/
def runWithRecord (call : SyncCall) (snapshots : PortfolioSnapshots) :
    SyncM (List DriftCode × ReconciliationRun) := do
  depend call .reconcileOrders
  let drift ← detectAndRecordDrift dateParse call snapshots
  depend call .saveReconciliationRun
  let record : ReconciliationRun :=
    { id := call.runId, exchangeAccountId := call.exchangeAccountId
      status := if drift = [] ∧ call.orderIssues = [] then .success else .driftDetected
      startedAt := call.requestedAt }
  modify fun store => { store with reconciliationRuns := store.reconciliationRuns ++ [record] }
  pure (drift, record)

/-- The body of the `try` from the stored balance snapshot on. -/
def finishSync (call : SyncCall) (snapshots : PortfolioSnapshots) : SyncM PortfolioSyncRunResult := do
  assertLocallyHeld (call.held .saveBalanceSnapshot)
  depend call .savePositionSnapshot
  modify fun store =>
    { store with positionSnapshots := store.positionSnapshots ++ [call.positionSnapshot] }
  assertLocallyHeld (call.held .savePositionSnapshot)
  let (drift, reconciliationRun) ← runWithRecord dateParse call snapshots
  assertLocallyHeld (call.held .saveReconciliationRun)
  pure ⟨call.requestedAt, snapshots, drift, reconciliationRun⟩

/-- The snapshots that a run compares. -/
def SyncCall.comparison (call : SyncCall) (store : SyncStore) : PortfolioSnapshots where
  previousBalanceSnapshot := store.getLatestBalanceSnapshot earlier call.exchangeAccountId
  currentBalanceSnapshot := call.balanceSnapshot
  previousPositionSnapshot := store.getLatestPositionSnapshot earlier call.exchangeAccountId
  currentPositionSnapshot := call.positionSnapshot

/-- The body of the `try`. -/
def syncBody (call : SyncCall) : SyncM PortfolioSyncRunResult := do
  let store ← get
  awaitHeld call .getLatestBalanceSnapshot
  awaitHeld call .getLatestPositionSnapshot
  awaitHeld call .getBalances
  awaitHeld call .resolveValuationPrices
  depend call .saveBalanceSnapshot
  modify fun store =>
    { store with balanceSnapshots := store.balanceSnapshots ++ [call.balanceSnapshot] }
  finishSync dateParse call (call.comparison earlier store)

/-- The `catch`: an error row is stored for the run, and the error is thrown again. -/
def recoverSync (call : SyncCall) (error : SyncError) : SyncM PortfolioSyncRunResult :=
  match error with
  | .ownership => throw .ownership
  | .failure message => do
    assertLocallyHeld call.heldInCatch
    depend call .updateReconciliationRun
    let record : ReconciliationRun :=
      { id := call.runId, exchangeAccountId := call.exchangeAccountId, status := .error
        startedAt := call.requestedAt }
    modify fun store =>
      let runs := Table.upsert ReconciliationRun.id record store.reconciliationRuns
      { store with reconciliationRuns := runs }
    throw (.failure message)

/-- `PortfolioSyncService.run`. -/
def syncRun (call : SyncCall) : SyncM PortfolioSyncRunResult := do
  assertLocallyHeld call.heldAtStart
  match parsePositionGuardCandidateTimestamp call.requestedAt "portfolio sync requestedAt" with
  | .error message => throw (.failure message)
  | .ok _ => tryCatch (syncBody earlier dateParse call) (recoverSync call)

end Sync

/-! ### What a run can do -/

section Outcome

variable (earlier : String → String → Bool) (dateParse : String → Option ℤ)

/-- The dependency does not throw and ownership is held after it. -/
def SyncCall.passes (call : SyncCall) (step : SyncStep) : Prop :=
  call.throws step = none ∧ call.held step = true

/-- The run stores its balance snapshot. -/
def SyncCall.Stores (call : SyncCall) : Prop :=
  call.heldAtStart = true ∧ IsCandidateTimestamp call.requestedAt ∧
    call.passes .getLatestBalanceSnapshot ∧ call.passes .getLatestPositionSnapshot ∧
    call.passes .getBalances ∧ call.passes .resolveValuationPrices ∧
    call.throws .saveBalanceSnapshot = none

/-- Nothing fails after the balance snapshot is stored; `findings` are those of the comparison. -/
def SyncCall.Completes (call : SyncCall) (findings : List DriftCode) : Prop :=
  call.held .saveBalanceSnapshot = true ∧ call.passes .savePositionSnapshot ∧
    call.throws .reconcileOrders = none ∧ call.throws .listFills = none ∧
    (findings = [] ∨ call.throws .saveRiskEvent = none) ∧
    call.throws .saveReconciliationRun = none ∧ call.held .saveReconciliationRun = true

/-- What is left of a run: the error it throws with the snapshots stored by then, or its result. -/
inductive SyncEffect (call : SyncCall) (store : SyncStore) :
    Except SyncError PortfolioSyncRunResult → SyncStore → Prop
  | nothing {e : SyncError} {after : SyncStore} (hstores : ¬ call.Stores)
      (hbalances : after.balanceSnapshots = store.balanceSnapshots)
      (hpositions : after.positionSnapshots = store.positionSnapshots) :
      SyncEffect call store (.error e) after
  | failed {e : SyncError} {after : SyncStore} (hstores : call.Stores)
      (hfails : ¬ call.Completes (detectPortfolioDrift dateParse (call.comparison earlier store)
        call.fills))
      (hbalances : after.balanceSnapshots = store.balanceSnapshots ++ [call.balanceSnapshot])
      (hpositions : after.positionSnapshots = store.positionSnapshots ∨
        after.positionSnapshots = store.positionSnapshots ++ [call.positionSnapshot]) :
      SyncEffect call store (.error e) after
  | returned {result : PortfolioSyncRunResult} {after : SyncStore}
      (hsnapshots : result.snapshots = call.comparison earlier store)
      (hdrift : result.drift = detectPortfolioDrift dateParse result.snapshots call.fills)
      (hbalances : after.balanceSnapshots = store.balanceSnapshots ++ [call.balanceSnapshot])
      (hpositions : after.positionSnapshots = store.positionSnapshots ++ [call.positionSnapshot]) :
      SyncEffect call store (.ok result) after

variable {call : SyncCall} {store : SyncStore} {α : Type}

variable {step : SyncStep}

theorem exec_depend_none (h : call.throws step = none) (s : SyncStore) :
    exec (depend call step) s = (.ok (), s) := by
  unfold depend
  rw [h]
  rfl

theorem exec_depend_some (h : call.throws step ≠ none) (s : SyncStore) :
    ∃ e, exec (depend call step) s = (.error e, s) := by
  unfold depend
  cases hthrows : call.throws step with
  | none => exact absurd hthrows h
  | some e => exact ⟨e, rfl⟩

theorem exec_assertHeld {held : Bool} (h : held = true) (s : SyncStore) :
    exec (assertLocallyHeld held) s = (.ok (), s) := by
  rw [h]
  rfl

theorem exec_assertLost {held : Bool} (h : ¬ held = true) (s : SyncStore) :
    exec (assertLocallyHeld held) s = (.error .ownership, s) := by
  unfold assertLocallyHeld
  rw [if_neg h]
  rfl

theorem exec_awaitHeld (h : call.passes step) (s : SyncStore) :
    exec (awaitHeld call step) s = (.ok (), s) := by
  unfold awaitHeld
  rw [exec_bind_ok (exec_depend_none h.1 s)]
  exact exec_assertHeld h.2 s

theorem exec_awaitLost (h : ¬ call.passes step) (s : SyncStore) :
    ∃ e, exec (awaitHeld call step) s = (.error e, s) := by
  unfold awaitHeld
  by_cases hthrows : call.throws step = none
  · refine ⟨.ownership, ?_⟩
    rw [exec_bind_ok (exec_depend_none hthrows s)]
    exact exec_assertLost (fun hheld => h ⟨hthrows, hheld⟩) s
  · obtain ⟨e, he⟩ := exec_depend_some hthrows s
    exact ⟨e, exec_bind_error he⟩

variable (snapshots : PortfolioSnapshots) (s : SyncStore)

theorem exec_detectAndRecordDrift :
    (call.throws .listFills = none ∧
        (detectPortfolioDrift dateParse snapshots call.fills = [] ∨
          call.throws .saveRiskEvent = none) ∧
        exec (detectAndRecordDrift dateParse call snapshots) s =
          (.ok (detectPortfolioDrift dateParse snapshots call.fills), s)) ∨
      (¬ (call.throws .listFills = none ∧
          (detectPortfolioDrift dateParse snapshots call.fills = [] ∨
            call.throws .saveRiskEvent = none)) ∧
        ∃ e, exec (detectAndRecordDrift dateParse call snapshots) s = (.error e, s)) := by
  unfold detectAndRecordDrift
  by_cases hfills : call.throws .listFills = none
  · rw [exec_bind_ok (exec_depend_none hfills s)]
    dsimp only
    by_cases hfindings : detectPortfolioDrift dateParse snapshots call.fills = []
    · rw [if_pos hfindings, hfindings]
      exact Or.inl ⟨hfills, Or.inl rfl, rfl⟩
    · rw [if_neg hfindings]
      by_cases hrisk : call.throws .saveRiskEvent = none
      · rw [exec_bind_ok (exec_depend_none hrisk s)]
        exact Or.inl ⟨hfills, Or.inr hrisk, rfl⟩
      · obtain ⟨e, he⟩ := exec_depend_some hrisk s
        refine Or.inr ⟨?_, e, exec_bind_error he⟩
        rintro ⟨-, hnone | hrisk'⟩
        · exact hfindings hnone
        · exact hrisk hrisk'
  · obtain ⟨e, he⟩ := exec_depend_some hfills s
    exact Or.inr ⟨fun h => hfills h.1, e, exec_bind_error he⟩

/-- The part of a run from its reconciliation on: its result, or an error with the snapshots kept. -/
theorem exec_runWithRecord :
    (∃ after record, exec (runWithRecord dateParse call snapshots) s =
        (.ok (detectPortfolioDrift dateParse snapshots call.fills, record), after) ∧
      after.balanceSnapshots = s.balanceSnapshots ∧ after.positionSnapshots = s.positionSnapshots) ∨
      (¬ (call.throws .reconcileOrders = none ∧ call.throws .listFills = none ∧
          (detectPortfolioDrift dateParse snapshots call.fills = [] ∨
            call.throws .saveRiskEvent = none) ∧
          call.throws .saveReconciliationRun = none) ∧
        ∃ e, exec (runWithRecord dateParse call snapshots) s = (.error e, s)) := by
  unfold runWithRecord
  by_cases horders : call.throws .reconcileOrders = none
  · rw [exec_bind_ok (exec_depend_none horders s)]
    rcases exec_detectAndRecordDrift dateParse snapshots s with ⟨-, -, hdrift⟩ | ⟨hfails, e, he⟩
    · rw [exec_bind_ok hdrift]
      by_cases hsave : call.throws .saveReconciliationRun = none
      · rw [exec_bind_ok (exec_depend_none hsave s)]
        exact Or.inl ⟨_, _, rfl, rfl, rfl⟩
      · obtain ⟨e, he⟩ := exec_depend_some hsave s
        exact Or.inr ⟨fun h => hsave h.2.2.2, e, exec_bind_error he⟩
    · exact Or.inr ⟨fun h => hfails ⟨h.2.1, h.2.2.1⟩, e, exec_bind_error he⟩
  · obtain ⟨e, he⟩ := exec_depend_some horders s
    exact Or.inr ⟨fun h => horders h.1, e, exec_bind_error he⟩

theorem exec_finishSync :
    (∃ after result, exec (finishSync dateParse call snapshots) s = (.ok result, after) ∧
        result.snapshots = snapshots ∧
        result.drift = detectPortfolioDrift dateParse snapshots call.fills ∧
        after.balanceSnapshots = s.balanceSnapshots ∧
        after.positionSnapshots = s.positionSnapshots ++ [call.positionSnapshot]) ∨
      (¬ call.Completes (detectPortfolioDrift dateParse snapshots call.fills) ∧
        ∃ after e, exec (finishSync dateParse call snapshots) s = (.error e, after) ∧
        after.balanceSnapshots = s.balanceSnapshots ∧
        (after.positionSnapshots = s.positionSnapshots ∨
          after.positionSnapshots = s.positionSnapshots ++ [call.positionSnapshot])) := by
  unfold finishSync SyncCall.Completes
  by_cases hheld : call.held .saveBalanceSnapshot = true
  swap
  · exact Or.inr ⟨fun h => hheld h.1, s, _, exec_bind_error (exec_assertLost hheld s), rfl, Or.inl rfl⟩
  rw [exec_bind_ok (exec_assertHeld hheld s)]
  by_cases hthrows : call.throws .savePositionSnapshot = none
  swap
  · obtain ⟨e, he⟩ := exec_depend_some hthrows s
    exact Or.inr ⟨fun h => hthrows h.2.1.1, s, e, exec_bind_error he, rfl, Or.inl rfl⟩
  rw [exec_bind_ok (exec_depend_none hthrows s), exec_bind_ok (exec_modify _ s)]
  let stored : SyncStore :=
    { s with positionSnapshots := s.positionSnapshots ++ [call.positionSnapshot] }
  by_cases hheld' : call.held .savePositionSnapshot = true
  swap
  · exact Or.inr ⟨fun h => hheld' h.2.1.2, stored, _, exec_bind_error (exec_assertLost hheld' stored),
      rfl, Or.inr rfl⟩
  rw [exec_bind_ok (exec_assertHeld hheld' stored)]
  rcases exec_runWithRecord dateParse snapshots stored with
    ⟨after, record, hrun, hbalances, hpositions⟩ | ⟨hfails, e, he⟩
  · rw [exec_bind_ok hrun]
    by_cases hheld'' : call.held .saveReconciliationRun = true
    · exact Or.inl ⟨after, _, exec_bind_ok (exec_assertHeld hheld'' after), rfl, rfl, hbalances,
        hpositions⟩
    · exact Or.inr ⟨fun h => hheld'' h.2.2.2.2.2.2, after, _,
        exec_bind_error (exec_assertLost hheld'' after), hbalances, Or.inr hpositions⟩
  · exact Or.inr ⟨fun h => hfails ⟨h.2.2.1, h.2.2.2.1, h.2.2.2.2.1, h.2.2.2.2.2.1⟩, stored, e,
      exec_bind_error he, rfl, Or.inr rfl⟩

/-- What the body leaves, given that the run got to it. -/
theorem exec_syncBody (hstart : call.heldAtStart = true ∧ IsCandidateTimestamp call.requestedAt) :
    ∃ result after, exec (syncBody earlier dateParse call) s = (result, after) ∧
      SyncEffect earlier dateParse call s result after := by
  unfold syncBody
  rw [exec_bind_ok (exec_get s)]
  by_cases hbalance : call.passes .getLatestBalanceSnapshot
  swap
  · obtain ⟨e, he⟩ := exec_awaitLost hbalance s
    exact ⟨_, _, exec_bind_error he, .nothing (fun h => hbalance h.2.2.1) rfl rfl⟩
  rw [exec_bind_ok (exec_awaitHeld hbalance s)]
  by_cases hposition : call.passes .getLatestPositionSnapshot
  swap
  · obtain ⟨e, he⟩ := exec_awaitLost hposition s
    exact ⟨_, _, exec_bind_error he, .nothing (fun h => hposition h.2.2.2.1) rfl rfl⟩
  rw [exec_bind_ok (exec_awaitHeld hposition s)]
  by_cases hexchange : call.passes .getBalances
  swap
  · obtain ⟨e, he⟩ := exec_awaitLost hexchange s
    exact ⟨_, _, exec_bind_error he, .nothing (fun h => hexchange h.2.2.2.2.1) rfl rfl⟩
  rw [exec_bind_ok (exec_awaitHeld hexchange s)]
  by_cases hprices : call.passes .resolveValuationPrices
  swap
  · obtain ⟨e, he⟩ := exec_awaitLost hprices s
    exact ⟨_, _, exec_bind_error he, .nothing (fun h => hprices h.2.2.2.2.2.1) rfl rfl⟩
  rw [exec_bind_ok (exec_awaitHeld hprices s)]
  by_cases hsave : call.throws .saveBalanceSnapshot = none
  swap
  · obtain ⟨e, he⟩ := exec_depend_some hsave s
    exact ⟨_, _, exec_bind_error he, .nothing (fun h => hsave h.2.2.2.2.2.2) rfl rfl⟩
  rw [exec_bind_ok (exec_depend_none hsave s), exec_bind_ok (exec_modify _ s)]
  have hstores : call.Stores :=
    ⟨hstart.1, hstart.2, hbalance, hposition, hexchange, hprices, hsave⟩
  rcases exec_finishSync dateParse (call.comparison earlier s)
      { s with balanceSnapshots := s.balanceSnapshots ++ [call.balanceSnapshot] } with
    ⟨after, result, hrun, hsnapshots, hdrift, hbalances, hpositions⟩ |
    ⟨hfails, after, e, hrun, hbalances, hpositions⟩
  · exact ⟨_, _, hrun, .returned hsnapshots (by rw [hsnapshots, hdrift]) hbalances hpositions⟩
  · exact ⟨_, _, hrun, .failed hstores hfails hbalances hpositions⟩

theorem exec_recoverSync (call : SyncCall) (e : SyncError) (s : SyncStore) :
    ∃ e' after, exec (recoverSync call e) s = (.error e', after) ∧
      after.balanceSnapshots = s.balanceSnapshots ∧
      after.positionSnapshots = s.positionSnapshots := by
  unfold recoverSync
  cases e with
  | ownership => exact ⟨_, s, rfl, rfl, rfl⟩
  | failure message =>
    dsimp only
    by_cases hheld : call.heldInCatch = true
    · rw [exec_bind_ok (exec_assertHeld hheld s)]
      by_cases hthrows : call.throws .updateReconciliationRun = none
      · rw [exec_bind_ok (exec_depend_none hthrows s)]
        exact ⟨_, _, rfl, rfl, rfl⟩
      · obtain ⟨e, he⟩ := exec_depend_some hthrows s
        exact ⟨e, s, exec_bind_error he, rfl, rfl⟩
    · exact ⟨_, s, exec_bind_error (exec_assertLost hheld s), rfl, rfl⟩

/-- **What a run can do.** -/
theorem exec_syncRun (call : SyncCall) (s : SyncStore) :
    ∃ result after, exec (syncRun earlier dateParse call) s = (result, after) ∧
      SyncEffect earlier dateParse call s result after := by
  unfold syncRun
  by_cases hheld : call.heldAtStart = true
  swap
  · exact ⟨_, s, exec_bind_error (exec_assertLost hheld s), .nothing (fun h => hheld h.1) rfl rfl⟩
  rw [exec_bind_ok (exec_assertHeld hheld s)]
  by_cases hparses : IsCandidateTimestamp call.requestedAt
  swap
  · rw [parseCandidate_of_not hparses]
    exact ⟨_, s, rfl, .nothing (fun h => hparses h.2.1) rfl rfl⟩
  rw [parseCandidate_of_is hparses]
  dsimp only
  obtain ⟨result, after, hbody, heffect⟩ := exec_syncBody earlier dateParse s ⟨hheld, hparses⟩
  rw [exec_tryCatch, hbody]
  cases heffect with
  | nothing hstores hbalances hpositions =>
    obtain ⟨e', after', hcatch, hbalances', hpositions'⟩ := exec_recoverSync call _ after
    exact ⟨_, after', hcatch,
      .nothing hstores (hbalances'.trans hbalances) (hpositions'.trans hpositions)⟩
  | failed hstores hfails hbalances hpositions =>
    obtain ⟨e', after', hcatch, hbalances', hpositions'⟩ := exec_recoverSync call _ after
    refine ⟨_, after', hcatch, .failed hstores hfails (hbalances'.trans hbalances) ?_⟩
    rw [hpositions']
    exact hpositions
  | returned hsnapshots hdrift hbalances hpositions =>
    exact ⟨_, after, rfl, .returned hsnapshots hdrift hbalances hpositions⟩

end Outcome

end AutoTrade.Reconciliation.PortfolioSync
