import AutoTrade.Operator.InMemoryStore
import AutoTrade.Operator.SqliteStore

/-! # Fault pauses fail closed, or are refused

On every state that either store reaches from a seeded account, a valid fault pause of that account
stops the system or is *refused*: it throws and leaves the store as it was. It is refused when its
id is recorded already and the call is not the exact replay of a pause still in force, or when it
brings no transition time of its own and the fault predates the state.

Both need that the state is always stamped with an accepted timestamp: a fault pause reads the stamp
back before it writes. -/

namespace AutoTrade.Operator.FaultPauses

open Lib.Run Domain.Types Domain.Timestamp
open Db.Tables Operator.State

/-! ### The in-memory store -/

variable {input : FaultPauseInput}

namespace InMemory

open Operator.InMemoryStore

/-- The store belongs to the account and is stamped with an accepted timestamp. -/
def Stamped (account : String) (store : InMemoryOperatorStateStore) : Prop :=
  store.state.exchangeAccountId = account ∧ IsStrictIso store.state.updatedAt

variable {store : InMemoryOperatorStateStore}

theorem stamped_step {account : String} (h : Stamped account store) (op : Operation) :
    Stamped account (step store op) := by
  obtain ⟨ha, hu⟩ := h
  cases op with
  | command command clock =>
    refine ⟨?_, clock.updatedAt.strict⟩
    change (updateState killReason command clock store.state).next.exchangeAccountId = account
    rw [updateState_exchangeAccountId, ha]
  | faultPause input =>
    cases hp : applyFaultPauseAtomically store input with
    | error e => rw [step_of_error hp]; exact ⟨ha, hu⟩
    | ok store' =>
      rw [step_of_ok hp]
      rcases applyFaultPauseAtomically_ok hp with ⟨rfl, -⟩ | ⟨t, ht, rfl⟩
      · exact ⟨ha, hu⟩
      · exact ⟨ha, strict_of_validateFaultPauseTimestamp hu ht⟩

section

variable (hv : validateFaultPauseInput input = .ok ()) (hs : Stamped input.exchangeAccountId store)
include hv hs

theorem applyFaultPauseAtomically_error_iff :
    (∃ e, applyFaultPauseAtomically store input = .error e) ↔
      Refused (getTransitionById store input.faultId) store.state input := by
  rw [← decideFaultPause_error_iff (validFault_of_validate hv) hs.2]
  unfold applyFaultPauseAtomically
  simp only [hv, hs.1, bind, Except.bind, ne_eq, not_true_eq_false, if_false]
  cases decideFaultPause (getTransitionById store input.faultId) store.state input with
  | error e => simp
  | ok decision => cases decision <;> simp

/-- The outcome of a fault pause on a stamped store. -/
theorem faultPause_outcome :
    (¬ Refused (getTransitionById store input.faultId) store.state input →
        ∃ store', applyFaultPauseAtomically store input = .ok store' ∧
          Stopped store'.state.systemStatus) ∧
      (Refused (getTransitionById store input.faultId) store.state input →
        (∃ e, applyFaultPauseAtomically store input = .error e) ∧
          step store (.faultPause input) = store) := by
  have hiff := applyFaultPauseAtomically_error_iff hv hs
  constructor
  · intro hr
    cases hp : applyFaultPauseAtomically store input with
    | error e => exact absurd (hiff.mp ⟨e, hp⟩) hr
    | ok store' =>
      refine ⟨store', rfl, ?_⟩
      rcases applyFaultPauseAtomically_ok hp with ⟨rfl, hst⟩ | ⟨t, -, rfl⟩
      · exact hst
      · exact stopped_faultPausedState _ _ _
  · intro hr
    obtain ⟨e, he⟩ := hiff.mpr hr
    exact ⟨⟨e, he⟩, step_of_error he⟩

end

end InMemory

/-! ### The SQLite store -/

namespace Sqlite

open Operator.SqliteStore

/-- Every state row is stamped with an accepted timestamp. -/
def Stamped (db : Database) : Prop := ∀ row ∈ db.executionState, IsStrictIso row.updatedAt

variable {db : Database}

theorem stamped_writeState (h : Stamped db) (account : String) {next : ExecutionStateRecord}
    (hn : IsStrictIso next.updatedAt) : Stamped (writeState db account next) := by
  intro row hrow
  obtain ⟨old, hold, rfl⟩ := List.mem_map.mp hrow
  split
  · exact hn
  · exact h old hold

theorem stamped_step (h : Stamped db) (op : Operation) : Stamped (step db op) := by
  cases op with
  | bootstrap account seed now transitionId =>
    intro row hrow
    rcases createPersistence_executionState db account seed now transitionId with he | he
    · exact h row (by rw [← he]; exact hrow)
    · have hmem : row ∈ db.executionState ++ [seedState account seed now] := by
        rw [← he]; exact hrow
      rcases List.mem_append.mp hmem with hm | hm
      · exact h row hm
      · rw [List.mem_singleton.mp hm]; exact now.strict
  | command account command clock transitionId =>
    unfold step
    dsimp only
    split
    next current hc =>
      intro row hrow
      rw [writeCommand_executionState] at hrow
      exact stamped_writeState h account clock.updatedAt.strict row hrow
    next => exact h
  | faultPause account input =>
    unfold step
    dsimp only
    split
    next result db' hp =>
      obtain ⟨-, current, hc, hcases⟩ := pauseForFault_ok hp
      rcases hcases with ⟨-, rfl, -, -⟩ | ⟨-, t, ht, rfl, rfl⟩
      · exact h
      · have hu := h current (getState_mem hc)
        exact stamped_writeState h account (strict_of_validateFaultPauseTimestamp hu ht)
    next => exact h

theorem stamped_run (ops : List Operation) : Stamped (run step {} ops) := by
  refine run_invariant Stamped (fun _ op hs => stamped_step hs op) ?_ ops
  intro row hrow
  exact absurd hrow List.not_mem_nil

/-- The outcome of a fault pause on a stamped database. -/
theorem faultPause_outcome {current : ExecutionStateRecord}
    (hv : validateFaultPauseInput input = .ok ()) (hs : Stamped db)
    (hc : getState db input.exchangeAccountId = .ok current) :
    (¬ Refused (selectTransition db input.faultId) current input →
        ∃ result db' row, pauseForFault db input.exchangeAccountId input = .ok (result, db') ∧
          getState db' input.exchangeAccountId = .ok row ∧ Stopped row.systemStatus) ∧
      (Refused (selectTransition db input.faultId) current input →
        (∃ e, pauseForFault db input.exchangeAccountId input = .error e) ∧
          step db (.faultPause input.exchangeAccountId input) = db) := by
  have hiff := pauseForFault_error_iff hv rfl hc (hs current (getState_mem hc))
  constructor
  · intro hr
    cases hp : pauseForFault db input.exchangeAccountId input with
    | error e => exact absurd (hiff.mp ⟨e, hp⟩) hr
    | ok out =>
      obtain ⟨result, db'⟩ := out
      obtain ⟨-, current', hc', hcases⟩ := pauseForFault_ok hp
      rw [hc] at hc'
      cases hc'
      rcases hcases with ⟨-, rfl, rfl, hst⟩ | ⟨-, t, -, rfl, rfl⟩
      · exact ⟨_, _, _, rfl, hc, hst⟩
      · have hw := getState_writeState_self
          (faultPausedState current (formatFaultPauseReason input) t) hc
        exact ⟨_, _, _, rfl, hw, stopped_faultPausedState current _ t⟩
  · intro hr
    obtain ⟨e, he⟩ := hiff.mpr hr
    refine ⟨⟨e, he⟩, ?_⟩
    simp [step, he]

end Sqlite

/-! ### Both stores -/

/-- **A fault pause stops the system or is refused**, on every state that either store reaches. -/
theorem fault_pause_stops_or_is_refused (input : FaultPauseInput)
    (hv : validateFaultPauseInput input = .ok ()) :
    (∀ seed now ops,
      let store := run InMemoryStore.step
        (InMemoryStore.create (seedState input.exchangeAccountId seed now)) ops
      let refused := Refused (InMemoryStore.getTransitionById store input.faultId) store.state input
      (¬ refused → ∃ store', InMemoryStore.applyFaultPauseAtomically store input = .ok store' ∧
        Stopped store'.state.systemStatus) ∧
      (refused → (∃ e, InMemoryStore.applyFaultPauseAtomically store input = .error e) ∧
        InMemoryStore.step store (.faultPause input) = store)) ∧
    (∀ ops current,
      let db := run SqliteStore.step {} ops
      let account := input.exchangeAccountId
      let refused := Refused (SqliteStore.selectTransition db input.faultId) current input
      SqliteStore.getState db account = .ok current →
      (¬ refused → ∃ result db' row, SqliteStore.pauseForFault db account input = .ok (result, db') ∧
        SqliteStore.getState db' account = .ok row ∧ Stopped row.systemStatus) ∧
      (refused → (∃ e, SqliteStore.pauseForFault db account input = .error e) ∧
        SqliteStore.step db (.faultPause account input) = db)) := by
  constructor
  · intro seed now ops
    have hs : InMemory.Stamped input.exchangeAccountId
        (InMemoryStore.create (seedState input.exchangeAccountId seed now)) := ⟨rfl, now.strict⟩
    exact InMemory.faultPause_outcome hv
      (run_invariant (InMemory.Stamped _) (fun _ op h => InMemory.stamped_step h op) hs ops)
  · intro ops current db account refused hc
    exact Sqlite.faultPause_outcome hv (Sqlite.stamped_run ops) hc

/-- The fault of a blocked submission: its id is made from the idempotency key, so a second blocked
attempt of the same key repeats it. -/
def leaseFault : FaultPauseInput where
  exchangeAccountId := "primary"
  faultId := "account-execution-lease:decision_1"
  reason := "account_execution_lease_unavailable"
  occurredAt := "1970-01-01T00:00:00.000Z"
  transitionAt := none

theorem fault_pause_stops_or_is_refused_lease :
    ∃ store', InMemoryStore.applyFaultPauseAtomically
        (InMemoryStore.create (seedState "primary" ⟨.live, .enabled, false⟩ .epoch)) leaseFault =
          .ok store' ∧ Stopped store'.state.systemStatus :=
  ((fault_pause_stops_or_is_refused leaseFault (by decide)).1
    ⟨.live, .enabled, false⟩ .epoch []).1 (by decide)

/-- After the pause was resumed, the same fault is refused and the system keeps running, in both
stores. -/
theorem repeated_fault_leaves_running :
    let store := run InMemoryStore.step
      (InMemoryStore.create (seedState "primary" ⟨.live, .enabled, false⟩ .epoch))
      [.faultPause leaseFault, .command .resume ⟨.epoch, .epoch⟩, .faultPause leaseFault]
    let db := run SqliteStore.step {}
      [.bootstrap "primary" ⟨.live, .enabled, false⟩ .epoch "transition_1",
        .faultPause "primary" leaseFault, .command "primary" .resume ⟨.epoch, .epoch⟩ "transition_2",
        .faultPause "primary" leaseFault]
    validateFaultPauseInput leaseFault = .ok () ∧ store.state.systemStatus = .running ∧
      db.executionState.map (·.systemStatus) = [.running] := by
  decide

end AutoTrade.Operator.FaultPauses
