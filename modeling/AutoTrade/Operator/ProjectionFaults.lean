import AutoTrade.Operator.InMemoryStore
import AutoTrade.Operator.Journal

/-! # Projection faults in both stores

The in-memory repositories pause on a projection fault by delegating to the operator-state store,
the SQLite repositories do it inline. Both are run side by side on one sequence of operator commands
and projection faults, with one clock, and compared by their replies, the system status, the order
events and the operator transitions. The ids of command transitions are generated by each store in
its own way and are left out of the comparison.

They differ in one check and in one text. A recorded fault that is replayed is refused by the
in-memory store unless the pause still holds; the SQLite repository does not ask and pauses again
(`replayed_fault_pauses_again`). And `/killswitch` without a reason is recorded under the pause reason
of the state in memory, under a fixed text in SQLite. The stores agree along every run without these
steps and their consequences (`projection_faults_agree`). -/

namespace AutoTrade.Operator.ProjectionFaults

open Lib Lib.Result Lib.Run Domain.Types
open Domain.Timestamp Db.Tables Db.OrderStore
open Operator.State Operator.SqliteStore Operator.FaultWriters
open Operator.Journal (sampleOrder sampleProjectionFault)
open Operator.InMemoryStore (InMemoryOperatorStateStore applyFaultPauseAtomically
  applyCommand getTransitionById recordTransition nextTransitionId)

/-! ### The in-memory repositories -/

/-- `InMemoryExecutionRepository` and its `atomicFaultPauseStore`. -/
structure InMemoryRepositories where
  orders : List OrderRecord
  orderEvents : List OrderEventRecord
  operator : InMemoryOperatorStateStore

def InMemoryRepositories.persistCandidateProjectionFault (memory : InMemoryRepositories)
    (input : PersistCandidateProjectionFaultInput) :
    Except String (ProjectionFaultOutcome × InMemoryRepositories) :=
  match Table.select OrderRecord.id input.orderId memory.orders with
  | none => .error "Candidate projection fault provenance does not match a persisted order."
  | some order =>
    if input.event.orderId ≠ order.id ∨
        input.faultPause.exchangeAccountId ≠ order.exchangeAccountId then
      .error "Candidate projection fault provenance does not match a persisted order."
    else if input.event.createdAt ≠ input.faultPause.occurredAt then
      .error "Candidate projection fault occurrence does not match its immutable event timestamp."
    else do
      validateFaultPauseInput input.faultPause
      let existing := Table.select OrderEventRecord.id input.event.id memory.orderEvents
      if existing.any (· ≠ input.event) then
        .error ("Conflicting candidate projection fault event " ++ input.event.id ++ ".")
      else do
        let operator ← applyFaultPauseAtomically memory.operator input.faultPause
        if existing.isNone then
          .ok (.applied, { memory with
            orderEvents := memory.orderEvents ++ [input.event], operator })
        else .ok (.duplicate, { memory with operator })

/-! ### Both stores side by side -/

inductive Call
  | command (command : OperatorCommand) (clock : ClockReadings) (transitionId : String)
  | projectionFault (input : PersistCandidateProjectionFaultInput)

inductive Reply
  | state (record : ExecutionStateRecord)
  | outcome (outcome : ProjectionFaultOutcome)
  deriving DecidableEq

/-- What a call returns, `none` where it throws, and the store after it. -/
def callSqlite (account : String) (db : Database) : Call → Option Reply × Database
  | .command command clock transitionId =>
    match getState db account with
    | .ok current =>
      match writeCommand db account command clock transitionId current with
      | (db', .ok next) => (some (.state next), db')
      | (db', .error _) => (none, db')
    | .error _ => (none, db)
  | .projectionFault input =>
    match persistCandidateProjectionFault db input with
    | .ok (outcome, db') => (some (.outcome outcome), db')
    | .error _ => (none, db)

def callMemory (memory : InMemoryRepositories) : Call → Option Reply × InMemoryRepositories
  | .command command clock _ =>
    let operator := applyCommand memory.operator command clock
    (some (.state operator.state), { memory with operator })
  | .projectionFault input =>
    match memory.persistCandidateProjectionFault input with
    | .ok (outcome, memory') => (some (.outcome outcome), memory')
    | .error _ => (none, memory)

structure Stores where
  account : String
  database : Database
  memory : InMemoryRepositories

/-- Both stores of a fresh account over the same orders and order events. -/
def start (orders : List OrderRecord) (orderEvents : List OrderEventRecord) (account : String)
    (seed : ExecutionStateSeed) (now : ClockText) (transitionId : String) : Stores where
  account
  database := (createPersistence { orders, orderEvents } account seed now transitionId).1
  memory := ⟨orders, orderEvents, InMemoryStore.create (seedState account seed now)⟩

def step (stores : Stores) (call : Call) : Stores where
  account := stores.account
  database := (callSqlite stores.account stores.database call).2
  memory := (callMemory stores.memory call).2

/-- The call returns the same from both stores, or throws in both. -/
def SameReply (stores : Stores) (call : Call) : Prop :=
  (callSqlite stores.account stores.database call).1 = (callMemory stores.memory call).1

instance (stores : Stores) (call : Call) : Decidable (SameReply stores call) := by
  unfold SameReply; infer_instance

/-- A transition without the id its store generated; an automatic pause has the id of its fault. -/
def unnamed (transition : ExecutionStateTransitionRecord) : ExecutionStateTransitionRecord :=
  if transition.command = .automaticPause then transition else { transition with id := "" }

/-- **Both stores show the same system status, order events and operator transitions.** -/
structure SameView (stores : Stores) : Prop where
  systemStatus : (getState stores.database stores.account).toOption.map (·.systemStatus) =
    some stores.memory.operator.state.systemStatus
  orderEvents : stores.database.orderEvents = stores.memory.orderEvents
  transitions : stores.database.executionStateTransitions.map unnamed =
    stores.memory.operator.transitions.reverse.map unnamed

/-! ### Where they agree -/

/-- The pause reasons that `/pause` and the commands that keep the reason find in both stores. -/
def SamePauseReason (stores : Stores) : Prop :=
  (getState stores.database stores.account).toOption.map (·.pauseReason) =
    some stores.memory.operator.state.pauseReason

instance (stores : Stores) : Decidable (SamePauseReason stores) := by
  unfold SamePauseReason; infer_instance

/-- A command that uses the pause reason finds the same one in both stores, and `/killswitch`
without a reason the one it writes in SQLite. -/
def ReasonAgrees (stores : Stores) : OperatorCommand → Prop
  | .pause (some _) | .resume | .activateKillSwitch (some _) => True
  | .activateKillSwitch none =>
    stores.memory.operator.state.pauseReason = some "killswitch_activated"
  | .pause none | .setExecutionMode _ | .setLiveExecutionGate _ | .markDegraded _
  | .clearDegraded _ => SamePauseReason stores

instance (stores : Stores) (command : OperatorCommand) :
    Decidable (ReasonAgrees stores command) := by
  unfold ReasonAgrees; split <;> infer_instance

/-- The recorded transition is one of a command, whose id the store generated. -/
def isGenerated (recorded : Option ExecutionStateTransitionRecord) : Bool :=
  recorded.any (·.command ≠ .automaticPause)

/-- The checks both stores make before they look at the operator state. -/
def admits (orders : List OrderRecord) (orderEvents : List OrderEventRecord)
    (input : PersistCandidateProjectionFaultInput) : Except String OrderRecord :=
  match Table.select OrderRecord.id input.orderId orders with
  | none => .error "Candidate projection fault provenance does not match a persisted order."
  | some order =>
    if input.event.orderId ≠ order.id ∨
        input.faultPause.exchangeAccountId ≠ order.exchangeAccountId then
      .error "Candidate projection fault provenance does not match a persisted order."
    else if input.event.createdAt ≠ input.faultPause.occurredAt then
      .error "Candidate projection fault occurrence does not match its immutable event timestamp."
    else do
      validateFaultPauseInput input.faultPause
      if (Table.select OrderEventRecord.id input.event.id orderEvents).any (· ≠ input.event) then
        .error ("Conflicting candidate projection fault event " ++ input.event.id ++ ".")
      else .ok order

/-- The fault passes the checks and is one of the account. -/
def IsAdmitted (stores : Stores) (input : PersistCandidateProjectionFaultInput) : Prop :=
  (admits stores.memory.orders stores.memory.orderEvents input).isOk = true ∧
    input.faultPause.exchangeAccountId = stores.account

instance (stores : Stores) (input : PersistCandidateProjectionFaultInput) :
    Decidable (IsAdmitted stores input) := by
  unfold IsAdmitted; infer_instance

/-- A recorded fault that is replayed finds new orders stopped. -/
def ReplayFindsPause (stores : Stores) (input : FaultPauseInput) : Prop :=
  (selectTransition stores.database input.faultId).any
      (matchesRecordedFault · stores.account input) = true →
    Stopped stores.memory.operator.state.systemStatus

instance (stores : Stores) (input : FaultPauseInput) :
    Decidable (ReplayFindsPause stores input) := by
  unfold ReplayFindsPause; infer_instance

/-- **A step the stores agree on.** The id of a command's transition is free in SQLite and its
reason is the same in both; the id of an admitted fault is a generated one in both stores or in
neither, and a replay finds the pause. -/
def Agreed (stores : Stores) : Call → Prop
  | .command command _ transitionId =>
    selectTransition stores.database transitionId = none ∧ ReasonAgrees stores command
  | .projectionFault input =>
    IsAdmitted stores input →
      isGenerated (selectTransition stores.database input.faultPause.faultId) =
          isGenerated (getTransitionById stores.memory.operator input.faultPause.faultId) ∧
        ReplayFindsPause stores input.faultPause

instance (stores : Stores) : (call : Call) → Decidable (Agreed stores call)
  | .command command _ transitionId =>
    inferInstanceAs (Decidable
      (selectTransition stores.database transitionId = none ∧ ReasonAgrees stores command))
  | .projectionFault input =>
    inferInstanceAs (Decidable (IsAdmitted stores input →
      isGenerated (selectTransition stores.database input.faultPause.faultId) =
          isGenerated (getTransitionById stores.memory.operator input.faultPause.faultId) ∧
        ReplayFindsPause stores input.faultPause))

/-! ### The two rows and the two logs -/

/-- **Both stores hold the same state up to the pause reason, the same events, and logs that differ
in generated ids only.** -/
structure Alike (stores : Stores) : Prop where
  row : ∃ pauseReason, getState stores.database stores.account =
    .ok { stores.memory.operator.state with pauseReason }
  onlyRow : ∀ other row, getState stores.database other = .ok row → other = stores.account
  killStatus : KillStatus stores.memory.operator.state
  orders : stores.memory.orders = stores.database.orders
  orderEvents : stores.memory.orderEvents = stores.database.orderEvents
  transitions : stores.database.executionStateTransitions.map unnamed =
    stores.memory.operator.transitions.reverse.map unnamed
  oneId : (stores.database.executionStateTransitions.map
    ExecutionStateTransitionRecord.id).Nodup

variable {stores : Stores}

theorem Alike.account (h : Alike stores) :
    stores.memory.operator.state.exchangeAccountId = stores.account := by
  obtain ⟨pauseReason, hrow⟩ := h.row
  have haccount := getState_account hrow
  exact haccount

theorem sameView_of_alike (h : Alike stores) : SameView stores := by
  obtain ⟨pauseReason, hrow⟩ := h.row
  refine ⟨?_, h.orderEvents.symm, h.transitions⟩
  rw [hrow]
  rfl

theorem unnamed_command (transition : ExecutionStateTransitionRecord) :
    (unnamed transition).command = transition.command := by
  unfold unnamed
  split_ifs <;> rfl

variable {transition : ExecutionStateTransitionRecord}

theorem unnamed_of_pause (h : transition.command = .automaticPause) :
    unnamed transition = transition := if_pos h

theorem pause_mem_of_map_unnamed {log log' : List ExecutionStateTransitionRecord}
    (h : log.map unnamed = log'.map unnamed) (hpause : transition.command = .automaticPause)
    (hmem : transition ∈ log) : transition ∈ log' := by
  have himage : unnamed transition ∈ log'.map unnamed := h ▸ List.mem_map_of_mem hmem
  obtain ⟨other, hother, heq⟩ := List.mem_map.mp himage
  have hcommand : other.command = .automaticPause := by
    rw [← unnamed_command other, heq, unnamed_command]
    exact hpause
  rw [unnamed_of_pause hcommand, unnamed_of_pause hpause] at heq
  rw [← heq]
  exact hother

theorem Alike.pause_mem_iff (h : Alike stores) (hpause : transition.command = .automaticPause) :
    transition ∈ stores.database.executionStateTransitions ↔
      transition ∈ stores.memory.operator.transitions := by
  constructor
  · intro hmem
    have hlog := pause_mem_of_map_unnamed h.transitions hpause hmem
    exact List.mem_reverse.mp hlog
  · intro hmem
    exact pause_mem_of_map_unnamed h.transitions.symm hpause (List.mem_reverse.mpr hmem)

variable {recorded : Option ExecutionStateTransitionRecord}

theorem command_of_not_generated (h : isGenerated recorded = false)
    (ht : recorded = some transition) : transition.command = .automaticPause := by
  rw [ht] at h
  simpa [isGenerated] using h

/-- **A fault id that is not a generated one is looked up alike in both stores.** -/
theorem Alike.lookup (h : Alike stores) {faultId : String}
    (hsql : isGenerated (selectTransition stores.database faultId) = false)
    (hmem : isGenerated (getTransitionById stores.memory.operator faultId) = false) :
    selectTransition stores.database faultId =
      getTransitionById stores.memory.operator faultId := by
  cases hs : selectTransition stores.database faultId with
  | none =>
    cases hm : getTransitionById stores.memory.operator faultId with
    | none => rfl
    | some transition =>
      have hpause := command_of_not_generated hmem hm
      have hid : transition.id = faultId := by simpa using List.find?_some hm
      have hlog := (h.pause_mem_iff hpause).mpr (List.mem_of_find?_eq_some hm)
      have hfree := List.find?_eq_none.mp hs transition hlog
      simp [hid] at hfree
  | some transition =>
    have hpause := command_of_not_generated hsql hs
    have hid : transition.id = faultId := Table.key_of_select hs
    have hlog := (h.pause_mem_iff hpause).mp (Table.mem_of_select hs)
    cases hm : getTransitionById stores.memory.operator faultId with
    | none =>
      have hfree := List.find?_eq_none.mp hm transition hlog
      simp [hid] at hfree
    | some other =>
      have hotherPause := command_of_not_generated hmem hm
      have hother : other.id = faultId := by simpa using List.find?_some hm
      have hotherLog := (h.pause_mem_iff hotherPause).mpr (List.mem_of_find?_eq_some hm)
      have hselected := Table.select_of_mem h.oneId hotherLog
      have hs' : Table.select ExecutionStateTransitionRecord.id faultId
          stores.database.executionStateTransitions = some transition := hs
      rw [hother, hs'] at hselected
      exact hselected

/-! ### Commands -/

variable {killReason : Option String → ExecutionStateRecord → Option String}

variable {row : ExecutionStateRecord} {pauseReason : Option String} {command : OperatorCommand}

/-- **A command whose reason agrees makes the same update in both stores.** -/
theorem updateState_agrees (clock : ClockReadings)
    (hrow : getState stores.database stores.account = .ok row)
    (heq : row = { stores.memory.operator.state with pauseReason })
    (h : ReasonAgrees stores command) :
    updateState SqliteStore.killReason command clock row =
      updateState InMemoryStore.killReason command clock stores.memory.operator.state := by
  have hsame (hreason : SamePauseReason stores) : row = stores.memory.operator.state := by
    unfold SamePauseReason at hreason
    rw [hrow] at hreason
    have hpause : row.pauseReason = stores.memory.operator.state.pauseReason :=
      Option.some.inj hreason
    rw [heq] at hpause ⊢
    have hvalue : pauseReason = stores.memory.operator.state.pauseReason := hpause
    rw [hvalue]
  match command, h with
  | .pause (some reason), _ => rw [heq]; rfl
  | .resume, _ => rw [heq]; rfl
  | .activateKillSwitch (some reason), _ => rw [heq]; rfl
  | .activateKillSwitch none, h =>
    have hreason : stores.memory.operator.state.pauseReason = some "killswitch_activated" := h
    rw [heq]
    simp [updateState, activateKillSwitch, SqliteStore.killReason, InMemoryStore.killReason,
      hreason]
  | .pause none, h => rw [hsame h]; rfl
  | .setExecutionMode mode, h => rw [hsame h]; rfl
  | .setLiveExecutionGate gate, h => rw [hsame h]; rfl
  | .markDegraded reason, h => rw [hsame h]; rfl
  | .clearDegraded reason, h => rw [hsame h]; rfl

theorem unnamed_transitionBetween {id id' account : String}
    {command : ExecutionStateTransitionCommand} (hcommand : command ≠ .automaticPause)
    (reason : Option String) (current next : ExecutionStateRecord) (pauseReason : Option String) :
    unnamed (transitionBetween id account command reason { current with pauseReason } next) =
      unnamed (transitionBetween id' account command reason current next) := by
  unfold unnamed
  rw [if_neg (by exact hcommand), if_neg (by exact hcommand)]
  rfl

variable {db : Database} {account : String} {transitionId : String}

theorem callSqlite_command (hrow : getState db account = .ok row) (command : OperatorCommand)
    (clock : ClockReadings) (hfree : selectTransition db transitionId = none) :
    callSqlite account db (.command command clock transitionId) =
      (some (.state (updateState SqliteStore.killReason command clock row).next),
        { writeState db account (updateState SqliteStore.killReason command clock row).next with
          executionStateTransitions := db.executionStateTransitions ++
            [transitionBetween transitionId account
              (updateState SqliteStore.killReason command clock row).command
              (updateState SqliteStore.killReason command clock row).reason row
              (updateState SqliteStore.killReason command clock row).next] }) := by
  unfold callSqlite writeCommand
  simp only [hrow]
  rw [recordExecutionStateTransition_of_fresh (by exact hfree)]
  rfl

theorem onlyRow_writeState (next : ExecutionStateRecord)
    (h : ∀ other row, getState db other = .ok row → other = account) (other : String)
    (row : ExecutionStateRecord) (hrow : getState (writeState db account next) other = .ok row) :
    other = account := by
  by_contra hne
  rw [getState_writeState_ne hne] at hrow
  exact hne (h other row hrow)

/-- **Writes that keep the stores alike**: the row of the account becomes the state in memory up to
its pause reason, and the logs and the events grow alike. -/
theorem alike_of_writes {stores stores' : Stores} (h : Alike stores)
    {row next : ExecutionStateRecord} (hrow : getState stores.database stores.account = .ok row)
    (haccount : stores'.account = stores.account)
    (hwritten : stores'.database.executionState =
      (writeState stores.database stores.account next).executionState)
    (hnext : overwrite next row = { stores'.memory.operator.state with pauseReason })
    (hkill : KillStatus stores'.memory.operator.state)
    (horders : stores'.memory.orders = stores'.database.orders)
    (hevents : stores'.memory.orderEvents = stores'.database.orderEvents)
    (htransitions : stores'.database.executionStateTransitions.map unnamed =
      stores'.memory.operator.transitions.reverse.map unnamed)
    (hid : (stores'.database.executionStateTransitions.map
      ExecutionStateTransitionRecord.id).Nodup) : Alike stores' := by
  refine ⟨⟨pauseReason, ?_⟩, ?_, hkill, horders, hevents, htransitions, hid⟩
  · rw [haccount, getState_congr hwritten, getState_writeState_self next hrow, hnext]
  · intro other row' hother
    rw [getState_congr hwritten] at hother
    rw [haccount]
    exact onlyRow_writeState next h.onlyRow other row' hother

theorem alike_command (h : Alike stores) {clock : ClockReadings}
    (hagreed : Agreed stores (.command command clock transitionId)) :
    SameReply stores (.command command clock transitionId) ∧
      Alike (step stores (.command command clock transitionId)) := by
  obtain ⟨hfree, hreason⟩ := hagreed
  obtain ⟨pauseReason, hrow⟩ := h.row
  have hsqlite := callSqlite_command hrow command clock hfree
  have hupdate := updateState_agrees clock hrow rfl hreason
  rw [hupdate] at hsqlite
  generalize hnext : updateState InMemoryStore.killReason command clock
    stores.memory.operator.state = update at hsqlite
  have hid : update.next.id = stores.memory.operator.state.id := by
    rw [← hnext]
    cases command <;> rfl
  have haccount : update.next.exchangeAccountId = stores.account := by
    rw [← hnext, updateState_exchangeAccountId]
    exact h.account
  have hcommand : update.command ≠ .automaticPause := by
    rw [← hnext]
    cases command <;> intro h <;> cases h
  have hkill : KillStatus update.next := by
    rw [← hnext]
    exact killStatus_updateState h.killStatus command clock
  have hmemory : callMemory stores.memory (.command command clock transitionId) =
      (some (.state update.next), { stores.memory with
        operator := recordTransition stores.memory.operator update.next update.command
          update.reason (nextTransitionId stores.memory.operator) }) := by
    rw [← hnext]
    rfl
  unfold SameReply step
  rw [hsqlite, hmemory]
  refine ⟨rfl, ?_⟩
  have hnext' : overwrite update.next { stores.memory.operator.state with pauseReason } =
      { update.next with pauseReason := update.next.pauseReason } := by
    unfold overwrite
    dsimp only
    rw [← hid, h.account, ← haccount]
  refine alike_of_writes h hrow rfl rfl hnext' hkill h.orders h.orderEvents ?_
    (Table.nodup_append_of_fresh h.oneId hfree)
  unfold recordTransition
  dsimp only
  rw [List.reverse_cons, List.map_append, List.map_append, h.transitions, haccount,
    List.map_singleton, List.map_singleton, unnamed_transitionBetween hcommand]

/-! ### Projection faults -/

/-- What the in-memory repositories do with an admitted fault. -/
def pauseMemory (memory : InMemoryRepositories) (input : PersistCandidateProjectionFaultInput) :
    Except String (ProjectionFaultOutcome × InMemoryRepositories) := do
  let operator ← applyFaultPauseAtomically memory.operator input.faultPause
  if (Table.select OrderEventRecord.id input.event.id memory.orderEvents).isNone then
    .ok (.applied, { memory with orderEvents := memory.orderEvents ++ [input.event], operator })
  else .ok (.duplicate, { memory with operator })

/-- What the SQLite repository does with an admitted fault of an account. -/
def pauseDatabase (db : Database) (account : String) (input : PersistCandidateProjectionFaultInput) :
    Except String (ProjectionFaultOutcome × Database) := do
  let existingEvent := getOrderEventById db input.event.id
  let current ← getState db account
  let existing := selectTransition db input.faultPause.faultId
  let updatedAt ← projectionPauseUpdatedAt existing account current input.faultPause
  let next := faultPausedState current (formatFaultPauseReason input.faultPause) updatedAt
  let recorded ← insertMissingOrderEvent db existingEvent input.event
  let paused ← writeProjectionPause recorded existing account input.faultPause current next
  .ok (if existingEvent.isSome then .duplicate else .applied, paused)

theorem guard_bind {α β : Type} {c : Prop} [Decidable c] (e : String) (x : Except String α)
    (f : α → Except String β) :
    (if c then .error e else x) >>= f = if c then .error e else x >>= f := by
  split <;> rfl

theorem persistCandidateProjectionFault_memory (memory : InMemoryRepositories)
    (input : PersistCandidateProjectionFaultInput) :
    memory.persistCandidateProjectionFault input =
      (admits memory.orders memory.orderEvents input >>= fun _ => pauseMemory memory input) := by
  unfold InMemoryRepositories.persistCandidateProjectionFault admits
  split
  · rfl
  · simp only [guard_bind, bind_assoc]
    rfl

theorem persistCandidateProjectionFault_sqlite (db : Database)
    (input : PersistCandidateProjectionFaultInput) :
    persistCandidateProjectionFault db input =
      (admits db.orders db.orderEvents input >>= fun order =>
        pauseDatabase db order.exchangeAccountId input) := by
  unfold persistCandidateProjectionFault admits getOrderById
  cases Table.select OrderRecord.id input.orderId db.orders with
  | none => rfl
  | some order =>
    simp only [guard_bind, bind_assoc]
    rfl

variable {input : PersistCandidateProjectionFaultInput}

/-- An admitted fault is one of the account of its order, is valid and has an event that is new or
the recorded one. -/
theorem admits_ok {orders : List OrderRecord} {orderEvents : List OrderEventRecord}
    {order : OrderRecord} (h : admits orders orderEvents input = .ok order) :
    input.faultPause.exchangeAccountId = order.exchangeAccountId ∧
      validateFaultPauseInput input.faultPause = .ok () := by
  unfold admits at h
  cases hs : Table.select OrderRecord.id input.orderId orders with
  | none => rw [hs] at h; cases h
  | some stored =>
    rw [hs] at h
    dsimp only at h
    rw [guard_eq_ok, guard_eq_ok, then_eq_ok, guard_eq_ok] at h
    obtain ⟨hprovenance, -, hvalid, -, horder⟩ := h
    rw [← Except.ok.inj horder]
    push Not at hprovenance
    exact ⟨hprovenance.2, hvalid⟩

/-- The in-memory store after the fault pause, with the event of a new fault. -/
def withFault (memory : InMemoryRepositories) (operator : InMemoryOperatorStateStore)
    (event : OrderEventRecord) : InMemoryRepositories where
  orders := memory.orders
  orderEvents :=
    if (Table.select OrderEventRecord.id event.id memory.orderEvents).isNone then
      memory.orderEvents ++ [event]
    else memory.orderEvents
  operator

/-- The reply of a fault that was not refused. -/
def faultOutcome (orderEvents : List OrderEventRecord) (event : OrderEventRecord) :
    ProjectionFaultOutcome :=
  if (Table.select OrderEventRecord.id event.id orderEvents).isSome then .duplicate else .applied

theorem pauseMemory_eq (input : PersistCandidateProjectionFaultInput) :
    pauseMemory memory input =
      (applyFaultPauseAtomically memory.operator input.faultPause).map fun operator =>
        (faultOutcome memory.orderEvents input.event, withFault memory operator input.event) := by
  unfold pauseMemory faultOutcome withFault
  cases applyFaultPauseAtomically memory.operator input.faultPause with
  | error e => rfl
  | ok operator =>
    cases Table.select OrderEventRecord.id input.event.id memory.orderEvents <;> rfl

theorem insertMissingOrderEvent_eq (db : Database) (event : OrderEventRecord) :
    insertMissingOrderEvent db (getOrderEventById db event.id) event =
      .ok { db with
        orderEvents :=
          if (Table.select OrderEventRecord.id event.id db.orderEvents).isNone then
            db.orderEvents ++ [event]
          else db.orderEvents } := by
  unfold insertMissingOrderEvent getOrderEventById
  cases hs : Table.select OrderEventRecord.id event.id db.orderEvents with
  | some stored => rfl
  | none =>
    exact Db.OrderStore.insertOrderEvent_eq_ok.mpr ⟨hs, rfl⟩

theorem alike_of_refused (h : Alike stores) {e e' : String}
    (hsqlite : persistCandidateProjectionFault stores.database input = .error e)
    (hmemory : stores.memory.persistCandidateProjectionFault input = .error e') :
    SameReply stores (.projectionFault input) ∧ Alike (step stores (.projectionFault input)) := by
  unfold SameReply step callSqlite callMemory
  simp only [hsqlite, hmemory]
  exact ⟨trivial, h⟩

theorem pauseDatabase_error {e : String} (hrow : getState db account = .ok row)
    (h : projectionPauseUpdatedAt (selectTransition db input.faultPause.faultId) account row
      input.faultPause = .error e) : pauseDatabase db account input = .error e := by
  unfold pauseDatabase
  dsimp only
  rw [hrow, ok_bind, h]
  rfl

/-- A fault that passes writes the event if it is new, the paused row, and its transition unless it
is recorded. -/
theorem pauseDatabase_ok {row next : ExecutionStateRecord} {updatedAt : String}
    (hrow : getState db account = .ok row)
    (h : projectionPauseUpdatedAt (selectTransition db input.faultPause.faultId) account row
      input.faultPause = .ok updatedAt)
    (hnext : next = faultPausedState row (formatFaultPauseReason input.faultPause) updatedAt) :
    pauseDatabase db account input = .ok (faultOutcome db.orderEvents input.event,
      { writeState db account next with
        orderEvents :=
          if (Table.select OrderEventRecord.id input.event.id db.orderEvents).isNone then
            db.orderEvents ++ [input.event]
          else db.orderEvents
        executionStateTransitions :=
          if (selectTransition db input.faultPause.faultId).isNone then
            db.executionStateTransitions ++
              [transitionBetween input.faultPause.faultId account .automaticPause
                (some (formatFaultPauseReason input.faultPause)) row next]
          else db.executionStateTransitions }) := by
  unfold pauseDatabase
  dsimp only
  rw [hrow, ok_bind, h, ok_bind, insertMissingOrderEvent_eq, ok_bind, ← hnext]
  cases hs : selectTransition db input.faultPause.faultId with
  | some transition => rfl
  | none =>
    unfold writeProjectionPause writeFaultPause
    dsimp only
    rw [recordExecutionStateTransition_of_fresh (by exact hs)]
    rfl

theorem applyFaultPauseAtomically_eq {store : InMemoryOperatorStateStore} {input : FaultPauseInput}
    (hvalid : validateFaultPauseInput input = .ok ())
    (haccount : input.exchangeAccountId = store.state.exchangeAccountId) :
    applyFaultPauseAtomically store input =
      (decideFaultPause (getTransitionById store input.faultId) store.state input).map
        fun decision => match decision with
          | none => store
          | some next => recordTransition store next .automaticPause
              (some (formatFaultPauseReason input)) input.faultId := by
  unfold applyFaultPauseAtomically
  rw [hvalid, ok_bind, if_neg (not_not.mpr haccount)]
  cases decideFaultPause (getTransitionById store input.faultId) store.state input with
  | error e => rfl
  | ok decision => cases decision <;> rfl

theorem faultPausedState_of_stopped {state : ExecutionStateRecord} (hkill : KillStatus state)
    (hstopped : Stopped state.systemStatus) (pauseReason : Option String) (reason : String) :
    ∃ pauseReason', faultPausedState { state with pauseReason } reason state.updatedAt =
      { state with pauseReason := pauseReason' } := by
  unfold faultPausedState
  dsimp only
  by_cases hk : state.killSwitchActive = true ∨ state.systemStatus = .killSwitched
  · have hstatus : state.systemStatus = .killSwitched := by
      rcases hk with hk | hk
      · exact hkill hk
      · exact hk
    refine ⟨pauseReason, ?_⟩
    rw [if_pos hk, if_pos hk, ← hstatus]
  · have hstatus : state.systemStatus = .paused := by
      rcases hstopped with hp | hp
      · exact hp
      · exact absurd (Or.inr hp) hk
    refine ⟨some reason, ?_⟩
    rw [if_neg hk, if_neg hk, ← hstatus]

theorem alike_of_applied {outcome : ProjectionFaultOutcome} {memory : InMemoryRepositories}
    (hsqlite : persistCandidateProjectionFault stores.database input = .ok (outcome, db))
    (hmemory : stores.memory.persistCandidateProjectionFault input = .ok (outcome, memory))
    (h : Alike ⟨stores.account, db, memory⟩) :
    SameReply stores (.projectionFault input) ∧ Alike (step stores (.projectionFault input)) := by
  unfold SameReply step callSqlite callMemory
  simp only [hsqlite, hmemory]
  exact ⟨trivial, h⟩

theorem matchesRecordedFault_generated (h : isGenerated recorded = true) :
    ∃ transition, recorded = some transition ∧
      (∀ account input, matchesRecordedFault transition account input = false) ∧
      ∀ state input, acceptsReplay transition state input = false := by
  cases recorded with
  | none => cases h
  | some transition =>
    have hcommand : transition.command ≠ .automaticPause := by simpa [isGenerated] using h
    refine ⟨transition, rfl, fun account input => ?_, fun state input => ?_⟩
    · simp [matchesRecordedFault, hcommand]
    · simp [acceptsReplay, hcommand]

section OwnFault
variable {stores : Stores} {input : PersistCandidateProjectionFaultInput}
  {pauseReason : Option String} (h : Alike stores)
  (hrow : getState stores.database stores.account =
    .ok { stores.memory.operator.state with pauseReason })
  (hsqlite : persistCandidateProjectionFault stores.database input =
    pauseDatabase stores.database stores.account input)
  (hmemory : stores.memory.persistCandidateProjectionFault input =
    (applyFaultPauseAtomically stores.memory.operator input.faultPause).map fun operator =>
      (faultOutcome stores.memory.orderEvents input.event,
        withFault stores.memory operator input.event))
  (hvalid : validateFaultPauseInput input.faultPause = .ok ())
  (haccount : input.faultPause.exchangeAccountId = stores.account)

include h hrow hsqlite hmemory hvalid haccount

/-- A fault under a generated id conflicts in both stores. -/
theorem alike_generatedFault
    (hsql : isGenerated (selectTransition stores.database input.faultPause.faultId) = true)
    (hmem : isGenerated
      (getTransitionById stores.memory.operator input.faultPause.faultId) = true) :
    SameReply stores (.projectionFault input) ∧ Alike (step stores (.projectionFault input)) := by
  obtain ⟨transition, hs, hmatch, -⟩ := matchesRecordedFault_generated hsql
  obtain ⟨other, hm, -, haccept⟩ := matchesRecordedFault_generated hmem
  have hdatabase : pauseDatabase stores.database stores.account input =
      .error ("Conflicting duplicate automatic pause " ++ input.faultPause.faultId ++ ".") := by
    refine pauseDatabase_error hrow ?_
    rw [hs]
    unfold projectionPauseUpdatedAt
    dsimp only
    rw [if_neg (by rw [hmatch]; simp)]
  have hstate := applyFaultPauseAtomically_eq hvalid (haccount.trans h.account.symm)
  unfold decideFaultPause at hstate
  rw [hm] at hstate
  dsimp only at hstate
  rw [if_neg (by rw [haccept]; simp)] at hstate
  rw [hdatabase] at hsqlite
  rw [hstate] at hmemory
  exact alike_of_refused h hsqlite hmemory

/-- A fault that is recorded nowhere is validated against one clock and pauses both. -/
theorem alike_newFault
    (hs : selectTransition stores.database input.faultPause.faultId = none)
    (hm : getTransitionById stores.memory.operator input.faultPause.faultId = none) :
    SameReply stores (.projectionFault input) ∧ Alike (step stores (.projectionFault input)) := by
  have hclock : validateFaultPauseTimestamp input.faultPause
      { stores.memory.operator.state with pauseReason } =
      validateFaultPauseTimestamp input.faultPause stores.memory.operator.state := rfl
  have hstate := applyFaultPauseAtomically_eq hvalid (haccount.trans h.account.symm)
  unfold decideFaultPause at hstate
  rw [hm] at hstate
  cases ht : validateFaultPauseTimestamp input.faultPause stores.memory.operator.state with
  | error e =>
    have hupdated : projectionPauseUpdatedAt
        (selectTransition stores.database input.faultPause.faultId) stores.account
        { stores.memory.operator.state with pauseReason } input.faultPause = .error e := by
      rw [hs]
      exact hclock.trans ht
    rw [pauseDatabase_error hrow hupdated] at hsqlite
    rw [hstate, ht] at hmemory
    exact alike_of_refused h hsqlite hmemory
  | ok transitionAt =>
    have hupdated : projectionPauseUpdatedAt
        (selectTransition stores.database input.faultPause.faultId) stores.account
        { stores.memory.operator.state with pauseReason } input.faultPause = .ok transitionAt := by
      rw [hs]
      exact hclock.trans ht
    rw [pauseDatabase_ok hrow hupdated rfl, ← h.orderEvents, hs] at hsqlite
    rw [hstate, ht] at hmemory
    refine alike_of_applied hsqlite hmemory ?_
    have htransition : transitionBetween input.faultPause.faultId stores.account .automaticPause
        (some (formatFaultPauseReason input.faultPause))
        { stores.memory.operator.state with pauseReason }
        (faultPausedState { stores.memory.operator.state with pauseReason }
          (formatFaultPauseReason input.faultPause) transitionAt) =
        transitionBetween input.faultPause.faultId stores.memory.operator.state.exchangeAccountId
          .automaticPause (some (formatFaultPauseReason input.faultPause))
          stores.memory.operator.state (faultPausedState stores.memory.operator.state
            (formatFaultPauseReason input.faultPause) transitionAt) := by
      rw [h.account]
      rfl
    refine alike_of_writes h hrow rfl rfl rfl (killStatus_faultPausedState _ _) h.orders rfl ?_
      (Table.nodup_append_of_fresh h.oneId hs)
    simp only [Option.isNone_none, if_true, withFault, recordTransition, List.reverse_cons,
      List.map_append, h.transitions, htransition, faultPausedState_exchangeAccountId]

/-- A recorded fault conflicts in both stores or finds the pause in both. -/
theorem alike_replayedFault
    (hs : selectTransition stores.database input.faultPause.faultId = some transition)
    (hm : getTransitionById stores.memory.operator input.faultPause.faultId = some transition)
    (hreplay : ReplayFindsPause stores input.faultPause) :
    SameReply stores (.projectionFault input) ∧ Alike (step stores (.projectionFault input)) := by
  have hstate := applyFaultPauseAtomically_eq hvalid (haccount.trans h.account.symm)
  unfold decideFaultPause at hstate
  rw [hm] at hstate
  dsimp only at hstate
  have haccept : acceptsReplay transition stores.memory.operator.state input.faultPause = true ↔
      matchesRecordedFault transition stores.account input.faultPause = true ∧
        Stopped stores.memory.operator.state.systemStatus := by
    unfold acceptsReplay matchesRecordedFault
    rw [haccount]
    simp only [decide_eq_true_eq, and_assoc]
  by_cases hmatch : matchesRecordedFault transition stores.account input.faultPause = true
  · have hstopped : Stopped stores.memory.operator.state.systemStatus := by
      refine hreplay ?_
      rw [hs]
      exact hmatch
    rw [if_pos (haccept.mpr ⟨hmatch, hstopped⟩)] at hstate
    have hupdated : projectionPauseUpdatedAt
        (selectTransition stores.database input.faultPause.faultId) stores.account
        { stores.memory.operator.state with pauseReason } input.faultPause =
          .ok stores.memory.operator.state.updatedAt := by
      rw [hs]
      unfold projectionPauseUpdatedAt
      dsimp only
      rw [if_pos hmatch]
    obtain ⟨pauseReason', hpaused⟩ := faultPausedState_of_stopped h.killStatus hstopped pauseReason
      (formatFaultPauseReason input.faultPause)
    rw [pauseDatabase_ok hrow hupdated hpaused.symm, ← h.orderEvents, hs] at hsqlite
    rw [hstate] at hmemory
    refine alike_of_applied hsqlite hmemory ?_
    exact alike_of_writes h hrow rfl rfl rfl h.killStatus h.orders rfl h.transitions h.oneId
  · have hdatabase : pauseDatabase stores.database stores.account input =
        .error ("Conflicting duplicate automatic pause " ++ input.faultPause.faultId ++ ".") := by
      refine pauseDatabase_error hrow ?_
      rw [hs]
      unfold projectionPauseUpdatedAt
      dsimp only
      rw [if_neg hmatch]
    rw [if_neg fun ha => hmatch (haccept.mp ha).1] at hstate
    rw [hdatabase] at hsqlite
    rw [hstate] at hmemory
    exact alike_of_refused h hsqlite hmemory

end OwnFault

theorem alike_fault (h : Alike stores) (hagreed : Agreed stores (.projectionFault input)) :
    SameReply stores (.projectionFault input) ∧ Alike (step stores (.projectionFault input)) := by
  obtain ⟨pauseReason, hrow⟩ := h.row
  have hsqlite := persistCandidateProjectionFault_sqlite stores.database input
  have hmemory := persistCandidateProjectionFault_memory stores.memory input
  rw [← h.orders, ← h.orderEvents] at hsqlite
  cases hadmits : admits stores.memory.orders stores.memory.orderEvents input with
  | error e =>
    rw [hadmits] at hsqlite hmemory
    exact alike_of_refused h hsqlite hmemory
  | ok order =>
    obtain ⟨hprovenance, hvalid⟩ := admits_ok hadmits
    rw [hadmits, ok_bind] at hsqlite hmemory
    rw [pauseMemory_eq] at hmemory
    by_cases haccount : order.exchangeAccountId = stores.account
    · -- a fault of the account: both look its id up
      have hown : input.faultPause.exchangeAccountId = stores.account := hprovenance.trans haccount
      have hadmitted : IsAdmitted stores input := by
        refine ⟨?_, hown⟩
        rw [hadmits]
        rfl
      obtain ⟨hgenerated, hreplay⟩ := hagreed hadmitted
      rw [haccount] at hsqlite
      cases hsql : isGenerated (selectTransition stores.database input.faultPause.faultId) with
      | true =>
        exact alike_generatedFault h hrow hsqlite hmemory hvalid hown hsql
          (hgenerated.symm.trans hsql)
      | false =>
        have hlookup := h.lookup hsql (hgenerated.symm.trans hsql)
        cases hs : selectTransition stores.database input.faultPause.faultId with
        | none =>
          exact alike_newFault h hrow hsqlite hmemory hvalid hown hs (hlookup.symm.trans hs)
        | some transition =>
          exact alike_replayedFault h hrow hsqlite hmemory hvalid hown hs
            (hlookup.symm.trans hs) hreplay
    · -- SQLite has no row for the account of the order, the in-memory store another account
      have hne : input.faultPause.exchangeAccountId ≠
          stores.memory.operator.state.exchangeAccountId := by
        rw [hprovenance, h.account]
        exact haccount
      have hrefused : applyFaultPauseAtomically stores.memory.operator input.faultPause =
          .error ("Fault " ++ input.faultPause.faultId ++ " is for a different exchange account.") := by
        unfold applyFaultPauseAtomically
        rw [hvalid, ok_bind, if_pos hne]
      rw [hrefused] at hmemory
      cases hother : getState stores.database order.exchangeAccountId with
      | ok row => exact absurd (h.onlyRow _ _ hother) haccount
      | error e =>
        unfold pauseDatabase at hsqlite
        dsimp only at hsqlite
        rw [hother] at hsqlite
        exact alike_of_refused h hsqlite hmemory

/-! ### Whole runs -/

theorem alike_step (h : Alike stores) {call : Call} (hagreed : Agreed stores call) :
    SameReply stores call ∧ Alike (step stores call) := by
  cases call with
  | command command clock transitionId => exact alike_command h hagreed
  | projectionFault input => exact alike_fault h hagreed

theorem alike_start (orders : List OrderRecord) (orderEvents : List OrderEventRecord)
    (account : String) (seed : ExecutionStateSeed) (now : ClockText) (transitionId : String) :
    Alike (start orders orderEvents account seed now transitionId) := by
  have hrow (other : String) : getState
      (start orders orderEvents account seed now transitionId).database other =
      if account = other then .ok (seedState account seed now)
      else .error ("Execution state is missing for exchange account " ++ other ++ ".") := by
    have hrows : (start orders orderEvents account seed now transitionId).database.executionState =
        [seedState account seed now] := rfl
    unfold getState
    rw [hrows, Table.select_cons]
    by_cases hother : account = other
    · rw [if_pos hother, if_pos (by exact hother)]
    · rw [if_neg hother, if_neg (by exact hother)]
      rfl
  refine ⟨⟨none, ?_⟩, ?_, killStatus_seedState account seed now, rfl, rfl, rfl, ?_⟩
  · rw [hrow, if_pos (by rfl)]
    rfl
  · intro other row hother
    rw [hrow] at hother
    by_contra hne
    rw [if_neg (by exact fun he => hne he.symm)] at hother
    cases hother
  · exact List.nodup_singleton _

/-- **Both stores treat projection faults alike** along every run all of whose steps they agree on:
every call returns the same from both or throws in both, and both show the same system status, order
events and operator transitions. -/
theorem projection_faults_agree (orders : List OrderRecord) (orderEvents : List OrderEventRecord)
    (account : String) (seed : ExecutionStateSeed) (now : ClockText) (transitionId : String)
    (calls : List Call)
    (h : SafeRun step Agreed (start orders orderEvents account seed now transitionId) calls) :
    SafeRun step SameReply (start orders orderEvents account seed now transitionId) calls ∧
      SameView (run step (start orders orderEvents account seed now transitionId) calls) := by
  have hstart := alike_start orders orderEvents account seed now transitionId
  constructor
  · exact SafeRun.imp Alike (fun stores call ha hc => alike_step ha hc) hstart h
  · refine sameView_of_alike ?_
    exact SafeRun.invariant Alike (fun stores call ha hc => (alike_step ha hc).2) hstart h

/-- A fault, its replay, a resume, a second fault of the same order under another event. -/
theorem projection_faults_agree_paused :
    let stores := start [sampleOrder] [] "primary" ⟨.live, .enabled, false⟩ .epoch "transition_1"
    let second : PersistCandidateProjectionFaultInput :=
      { sampleProjectionFault with
        event := { sampleProjectionFault.event with id := "event_2" }
        faultPause := { sampleProjectionFault.faultPause with faultId := "event_2" } }
    let calls : List Call := [.projectionFault sampleProjectionFault,
      .projectionFault sampleProjectionFault,
      .command .resume ⟨.epoch, .epoch⟩ "transition_2", .projectionFault second]
    SafeRun step SameReply stores calls ∧ SameView (run step stores calls) := by
  intro stores second calls
  exact projection_faults_agree _ _ _ _ _ _ calls (by decide +kernel)

/-- **A fault that is replayed after a resume pauses only in SQLite**: the in-memory store refuses
it and stays running, SQLite answers that it is a duplicate and pauses again. -/
theorem replayed_fault_pauses_again :
    let stores := run step
      (start [sampleOrder] [] "primary" ⟨.live, .enabled, false⟩ .epoch "transition_1")
      [.projectionFault sampleProjectionFault, .command .resume ⟨.epoch, .epoch⟩ "transition_2"]
    let call := Call.projectionFault sampleProjectionFault
    (callSqlite stores.account stores.database call).1 = some (.outcome .duplicate) ∧
      (callMemory stores.memory call).1 = none ∧
      ¬ SameReply stores call ∧ ¬ SameView (step stores call) := by
  intro stores call
  refine ⟨by decide +kernel, by decide +kernel, by decide +kernel, fun h => ?_⟩
  have hstatus := h.systemStatus
  revert hstatus
  decide +kernel

end AutoTrade.Operator.ProjectionFaults
