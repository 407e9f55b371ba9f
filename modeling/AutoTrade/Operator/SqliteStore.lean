import AutoTrade.Db.Tables
import AutoTrade.Lib.Run
import AutoTrade.Operator.State

/-! # The SQLite operator-state store

`SqliteOperatorStateStore` of `sqlite-repositories.ts`. A command reads the row of its account,
computes the next state and writes it back as a whole, then inserts the transition; `pauseForFault`
does all of this in one immediate transaction. The statements are those of the source: the update
leaves the id and the account of the row alone, the insertion is refused when the id of the
transition is taken.

`createPersistence` is the bootstrap of an account at the start of the process: it inserts the row
and its first transition unless the row exists. -/

namespace AutoTrade.Operator.SqliteStore

open Lib Domain.Types Domain.Timestamp
open Db.Tables Operator.State

/-! ### Statements -/

/-- `getState`, and `getStateSync`. -/
def getState (db : Database) (account : String) : Except String ExecutionStateRecord :=
  match Table.select ExecutionStateRecord.exchangeAccountId account db.executionState with
  | some row => .ok row
  | none => .error ("Execution state is missing for exchange account " ++ account ++ ".")

/-- The columns the update sets: all but the id and the account. -/
def overwrite (next row : ExecutionStateRecord) : ExecutionStateRecord :=
  { next with id := row.id, exchangeAccountId := row.exchangeAccountId }

/-- `UPDATE execution_state SET … WHERE exchange_account_id = ?`. -/
def writeState (db : Database) (account : String) (next : ExecutionStateRecord) : Database :=
  { db with
    executionState := Table.update (fun row => row.exchangeAccountId = account) (overwrite next)
      db.executionState }

def selectTransition (db : Database) (id : String) : Option ExecutionStateTransitionRecord :=
  Table.select ExecutionStateTransitionRecord.id id db.executionStateTransitions

/-- `INSERT INTO execution_state_transitions`; the id is the primary key. -/
def recordExecutionStateTransition (db : Database) (row : ExecutionStateTransitionRecord) :
    Except String Database :=
  match Table.insert ExecutionStateTransitionRecord.id row db.executionStateTransitions with
  | some rows => .ok { db with executionStateTransitions := rows }
  | none => .error "UNIQUE constraint failed: execution_state_transitions.id"

/-- `ensureBootstrapRecords` and the bootstrap transition of `createSqlitePersistence`: the row is
inserted unless its account or its id is taken, and stays when the transition cannot be inserted. -/
def createPersistence (db : Database) (account : String) (seed : ExecutionStateSeed)
    (now : ClockText) (transitionId : String) : Database × Except String Unit :=
  let state := seedState account seed now
  if (Table.select ExecutionStateRecord.exchangeAccountId account db.executionState).isSome ∨
      (Table.select ExecutionStateRecord.id state.id db.executionState).isSome then (db, .ok ())
  else
    let inserted := { db with executionState := db.executionState ++ [state] }
    match recordExecutionStateTransition inserted (bootstrapTransition transitionId state) with
    | .ok db' => (db', .ok ())
    | .error e => (inserted, .error e)

/-! ### Commands and fault pauses -/

/-- The pause reason `activateKillSwitch` leaves behind in this store. -/
def killReason (reason : Option String) (_ : ExecutionStateRecord) : Option String :=
  some (reason.getD "killswitch_activated")

/-- The write half of a command, after the awaited read returned `current`: the row is written
first, so it stays written when the insertion of the transition throws. -/
def writeCommand (db : Database) (account : String) (command : OperatorCommand)
    (clock : ClockReadings) (transitionId : String) (current : ExecutionStateRecord) :
    Database × Except String ExecutionStateRecord :=
  let update := updateState killReason command clock current
  let written := writeState db account update.next
  match recordExecutionStateTransition written
      (transitionBetween transitionId account update.command update.reason current update.next) with
  | .ok db' => (db', .ok update.next)
  | .error e => (written, .error e)

/-- The transaction of `pauseForFault`; on an error the database is rolled back. -/
def pauseForFault (db : Database) (account : String) (input : FaultPauseInput) :
    Except String (ExecutionStateRecord × Database) := do
  validateFaultPauseInput input
  if input.exchangeAccountId ≠ account then
    .error ("Fault " ++ input.faultId ++ " is for a different exchange account.")
  else
    let current ← getState db account
    match ← decideFaultPause (selectTransition db input.faultId) current input with
    | none => .ok (current, db)
    | some next =>
      let db' ← recordExecutionStateTransition (writeState db account next)
        (transitionBetween input.faultId input.exchangeAccountId .automaticPause
          (some (formatFaultPauseReason input)) current next)
      .ok (next, db')

/-- The operations on the persisted operator state, over all accounts of the database. -/
inductive Operation
  | bootstrap (account : String) (seed : ExecutionStateSeed) (now : ClockText)
    (transitionId : String)
  | command (account : String) (command : OperatorCommand) (clock : ClockReadings)
    (transitionId : String)
  | faultPause (account : String) (input : FaultPauseInput)

/-- One operation run to its end; a command of an account without a row throws at its read. -/
def step (db : Database) : Operation → Database
  | .bootstrap account seed now transitionId =>
    (createPersistence db account seed now transitionId).1
  | .command account command clock transitionId =>
    match getState db account with
    | .ok current => (writeCommand db account command clock transitionId current).1
    | .error _ => db
  | .faultPause account input =>
    match pauseForFault db account input with
    | .ok (_, db') => db'
    | .error _ => db

/-! ### What the statements do -/

variable {account : String} {db : Database} {row : ExecutionStateRecord}

theorem getState_ok_iff :
    getState db account = .ok row ↔
      Table.select ExecutionStateRecord.exchangeAccountId account db.executionState = some row := by
  unfold getState
  cases Table.select ExecutionStateRecord.exchangeAccountId account db.executionState with
  | none => simp
  | some r => simp

theorem overwrite_account (next row : ExecutionStateRecord) :
    (overwrite next row).exchangeAccountId = row.exchangeAccountId := rfl

theorem getState_account (h : getState db account = .ok row) : row.exchangeAccountId = account := by
  exact Table.key_of_select (getState_ok_iff.mp h)

theorem getState_mem (h : getState db account = .ok row) : row ∈ db.executionState := by
  exact Table.mem_of_select (getState_ok_iff.mp h)

theorem getState_writeState_self (next : ExecutionStateRecord) (h : getState db account = .ok row) :
    getState (writeState db account next) account = .ok (overwrite next row) := by
  have ha := getState_account h
  rw [getState_ok_iff] at h ⊢
  unfold writeState
  rw [Table.select_update (overwrite_account next), h]
  simp [ha]

theorem getState_writeState_ne {account other : String} {next : ExecutionStateRecord}
    (h : other ≠ account) : getState (writeState db account next) other = getState db other := by
  unfold getState writeState
  dsimp only
  rw [Table.select_update (overwrite_account next)]
  cases hs : Table.select ExecutionStateRecord.exchangeAccountId other db.executionState with
  | none => rfl
  | some row =>
    have hrow : row.exchangeAccountId = other := Table.key_of_select hs
    have hne : ¬ row.exchangeAccountId = account := by rw [hrow]; exact h
    simp [hne]

theorem recordExecutionStateTransition_ok {db db' : Database}
    {row : ExecutionStateTransitionRecord} (h : recordExecutionStateTransition db row = .ok db') :
    selectTransition db row.id = none ∧
      db' = { db with
        executionStateTransitions := db.executionStateTransitions ++ [row] } := by
  unfold recordExecutionStateTransition at h
  split at h
  next rows hi =>
    cases h
    obtain ⟨hn, rfl⟩ := Table.insert_eq_some.mp hi
    exact ⟨hn, rfl⟩
  next => cases h

theorem recordExecutionStateTransition_of_fresh {row : ExecutionStateTransitionRecord}
    (h : selectTransition db row.id = none) :
    recordExecutionStateTransition db row = .ok { db with
      executionStateTransitions := db.executionStateTransitions ++ [row] } := by
  unfold recordExecutionStateTransition
  rw [Table.insert_eq_some.mpr ⟨h, rfl⟩]

theorem getState_congr {db db' : Database} (h : db'.executionState = db.executionState)
    (account : String) : getState db' account = getState db account := by
  unfold getState
  rw [h]

theorem writeCommand_executionState (db : Database) (account : String)
    (command : OperatorCommand) (clock : ClockReadings) (transitionId : String)
    (current : ExecutionStateRecord) :
    (writeCommand db account command clock transitionId current).1.executionState =
      (writeState db account
        (updateState killReason command clock current).next).executionState := by
  unfold writeCommand
  dsimp only
  split
  next db' h => rw [(recordExecutionStateTransition_ok h).2]
  next => rfl

theorem createPersistence_executionState (db : Database) (account : String)
    (seed : ExecutionStateSeed) (now : ClockText) (transitionId : String) :
    (createPersistence db account seed now transitionId).1.executionState = db.executionState ∨
      (createPersistence db account seed now transitionId).1.executionState =
        db.executionState ++ [seedState account seed now] := by
  unfold createPersistence
  dsimp only
  split
  · exact Or.inl rfl
  · split
    next db' h => rw [(recordExecutionStateTransition_ok h).2]; exact Or.inr rfl
    next => exact Or.inr rfl

variable {input : FaultPauseInput}

/-- **What a fault pause can do**: nothing on a stopped state, or write the paused state and insert
the transition of a fault that was not recorded. -/
theorem pauseForFault_ok {db db' : Database} {result : ExecutionStateRecord}
    (h : pauseForFault db account input = .ok (result, db')) :
    input.exchangeAccountId = account ∧ ∃ current, getState db account = .ok current ∧
      ((selectTransition db input.faultId ≠ none ∧ db' = db ∧ result = current ∧
          Stopped current.systemStatus) ∨
        (selectTransition db input.faultId = none ∧ ∃ transitionAt,
          validateFaultPauseTimestamp input current = .ok transitionAt ∧
          result = faultPausedState current (formatFaultPauseReason input) transitionAt ∧
          db' = { writeState db account result with
            executionStateTransitions := db.executionStateTransitions ++
              [transitionBetween input.faultId input.exchangeAccountId .automaticPause
                (some (formatFaultPauseReason input)) current result] })) := by
  unfold pauseForFault at h
  cases hv : validateFaultPauseInput input with
  | error e => simp [hv, bind, Except.bind] at h
  | ok u =>
    simp only [hv, bind, Except.bind] at h
    split at h
    · cases h
    next ha =>
    have ha' : input.exchangeAccountId = account := not_not.mp ha
    refine ⟨ha', ?_⟩
    cases hc : getState db account with
    | error e => simp [hc] at h
    | ok current =>
      refine ⟨current, rfl, ?_⟩
      simp only [hc] at h
      cases hd : decideFaultPause (selectTransition db input.faultId) current input with
      | error e => simp [hd] at h
      | ok decision =>
        simp only [hd] at h
        rcases decideFaultPause_ok hd with ⟨hr, rfl, hs⟩ | ⟨hn, transitionAt, ht, rfl⟩
        · cases h; exact Or.inl ⟨hr, rfl, rfl, hs⟩
        · dsimp only at h
          rw [recordExecutionStateTransition_of_fresh (by exact hn)] at h
          cases h
          exact Or.inr ⟨hn, transitionAt, ht, rfl, rfl⟩

/-- **A valid fault pause of a bootstrapped account throws exactly when it is refused.** -/
theorem pauseForFault_error_iff {current : ExecutionStateRecord}
    (hv : validateFaultPauseInput input = .ok ()) (ha : input.exchangeAccountId = account)
    (hc : getState db account = .ok current) (hu : IsStrictIso current.updatedAt) :
    (∃ e, pauseForFault db account input = .error e) ↔
      Refused (selectTransition db input.faultId) current input := by
  rw [← decideFaultPause_error_iff (validFault_of_validate hv) hu]
  unfold pauseForFault
  simp only [hv, hc, ha, bind, Except.bind, ne_eq, not_true_eq_false, if_false]
  cases hd : decideFaultPause (selectTransition db input.faultId) current input with
  | error e => simp
  | ok decision =>
    rcases decideFaultPause_ok hd with ⟨-, rfl, -⟩ | ⟨hn, transitionAt, -, rfl⟩
    · simp
    · simp only [reduceCtorEq, exists_false, iff_false, not_exists]
      intro e
      rw [recordExecutionStateTransition_of_fresh (by exact hn)]
      simp

end AutoTrade.Operator.SqliteStore
