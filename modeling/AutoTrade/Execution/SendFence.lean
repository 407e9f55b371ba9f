import AutoTrade.Execution.Guarantees
import AutoTrade.Execution.SendAuthority
import AutoTrade.Operator.SqliteStore
import AutoTrade.Runtime.GuardFence

/-! # No send while stopped

Concurrent submissions over one database whose operator state is written by commands and fault pauses,
each cut at its awaited read, and whose runtime ownership is taken over by other guards. The runtime
authority of a call is a guard: it reads the execution state and the ownership row and invokes
`createOrder` in one step. Which guard, and the account of the operator state, is left open at every
step, so the calls of any number of services are covered. `assertCurrent` awaits in the guard itself;
its steps there are those of `GuardProtocol`, and its answer here is arbitrary. -/

namespace AutoTrade.Execution.SendFence

open Lib Lib.Threads Lib.Run
open Domain.Types Domain.Timestamp Db.Tables
open Operator.State
open Operator.SqliteStore (getState writeCommand createPersistence)
open Execution.Records Execution.Helpers Execution.Service
open Execution.CallLog Execution.SendAuthority
open Execution.System (Shared Call stored)
open Runtime.GuardProtocol (Guard Store PersistedExecutionState Action)
open Runtime.GuardFence (Sound sound_initial sound_step)

variable {Num ι : Type} [DecidableEq ι]

/-! ### The world -/

/-- An operator command that has read the row of its account. -/
structure PendingCommand where
  account : String
  command : OperatorCommand
  snapshot : ExecutionStateRecord

structure World (ι : Type) where
  shared : Shared
  ownership : Runtime.GuardProtocol.System ι
  commands : List PendingCommand

/-- What happens at one await: the reaction of the other dependencies, the guard and the account of
the operator state that the call was given, and the readings of the clocks. -/
structure Reaction (Num ι : Type) where
  base : System.Reaction Num
  guard : ι
  operatorAccount : String
  atEpochMs : ℤ
  nowEpochMs : ℤ
  laterEpochMs : ℤ

/-- The columns that the combined read joins. -/
def joinedState (db : Database) (account : String) : Option PersistedExecutionState :=
  (Table.select ExecutionStateRecord.exchangeAccountId account db.executionState).map fun row =>
    ⟨row.exchangeAccountId, row.executionMode, row.liveExecutionGate, row.systemStatus,
      row.killSwitchActive⟩

/-- The errors of the guard with a code are those of `RuntimeOwnershipGuardError`. -/
def thrownByGuard (message : String) : Thrown :=
  if "RUNTIME_OWNERSHIP_".toList.isPrefixOf message.toList then .runtimeOwnership message
  else .error message

/-- The guard runs, and `createOrder` with it if it does not throw. -/
def runGuard (w : World ι) (reaction : Reaction Num ι)
    (input : AssertCurrentExecutionAuthorityInput) :
    Except String (Runtime.OwnershipStore.RuntimeOwnershipRecord × PersistedExecutionState) × World ι :=
  let expected : Guard.AssertCurrentExecutionAuthorityInput :=
    ⟨reaction.atEpochMs, input.exchangeAccountId, input.expectedExecutionMode,
      input.expectedLiveExecutionGate⟩
  let joined := .ok (joinedState w.shared.database input.exchangeAccountId)
  (((w.ownership.parties reaction.guard).guard.runWithCurrentExecutionAuthority expected
      (w.ownership.store.getCurrentExecutionAuthority joined) reaction.nowEpochMs
      reaction.laterEpochMs).1,
    { w with ownership := w.ownership.step (.guard reaction.guard
        (.runWithCurrentExecutionAuthority expected joined reaction.nowEpochMs
          reaction.laterEpochMs)) })

def onShared {α : Type} (w : World ι) (result : α × Shared) : α × World ι :=
  (result.1, { w with shared := result.2 })

def perform (w : World ι) (reaction : Reaction Num ι) : (op : Op) → Option (Reply Num op × World ι)
  | .assertLocallyHeld =>
    some ((((w.ownership.parties reaction.guard).guard.assertLocallyHeld
        reaction.nowEpochMs).1.map fun _ => ()).mapError thrownByGuard,
      { w with ownership := w.ownership.step (.guard reaction.guard
          (.assertLocallyHeld reaction.nowEpochMs)) })
  | .runWithCurrentExecutionAuthority input orderId request =>
    let (result, next) := runGuard w reaction input
    match result with
    | .error message => some (.error (thrownByGuard message), next)
    | .ok _ =>
      match reaction.base.answer (.runWithCurrentExecutionAuthority input orderId request) with
      | .ok thrown => some (.ok thrown, next)
      | .error e => some (.ok (some e), next)
  | .getState =>
    some (onShared w (stored w.shared reaction.base.fault
      ((getState w.shared.database reaction.operatorAccount).map fun row =>
        (row, w.shared.database))))
  | .pauseForFault input =>
    some (onShared w (stored w.shared reaction.base.fault
      ((Operator.SqliteStore.pauseForFault w.shared.database reaction.operatorAccount input).map
        fun (_, db) => ((), db))))
  | op => (System.perform w.shared reaction.base op).map (onShared w)

def machine : Machine Op (Reply Num) (Except Thrown SubmitOrderFromDecisionResult × Locals)
    (Reading Num) (World ι) (Reaction Num ι) (Call Num) where
  protocol := authorityProtocol
  start call := submitOrderFromDecision call.deps call.input {}
  ghost call := ⟨call.deps, call.input, false, none⟩
  perform := perform

abbrev WorldState (Num ι : Type) :=
  State Op (Reply Num) (Except Thrown SubmitOrderFromDecisionResult × Locals) (Reading Num) (World ι)

inductive Event (Num ι : Type)
  /-- A call starts, or goes on after an await. -/
  | call (event : Threads.Event (Reaction Num ι) (Call Num))
  /-- A step of a guard, or a call of someone else on the ownership store. -/
  | guard (event : Runtime.GuardProtocol.Event ι)
  | readCommand (account : String) (command : OperatorCommand)
  | writeCommand (index : ℕ) (clock : ClockReadings) (transitionId : String)
  | pauseForFault (account : String) (input : FaultPauseInput)
  | bootstrap (account : String) (seed : ExecutionStateSeed) (now : ClockText)
    (transitionId : String)

/-- A write of the operator state outside the calls. -/
def operate (w : World ι) : Event Num ι → World ι
  | .readCommand account command =>
    match getState w.shared.database account with
    | .ok snapshot => { w with commands := w.commands ++ [⟨account, command, snapshot⟩] }
    | .error _ => w
  | .writeCommand index clock transitionId =>
    match w.commands[index]? with
    | some pending =>
      { w with
        shared := { w.shared with
          database := (writeCommand w.shared.database pending.account pending.command clock
            transitionId pending.snapshot).1 }
        commands := w.commands.eraseIdx index }
    | none => w
  | .pauseForFault account input =>
    match Operator.SqliteStore.pauseForFault w.shared.database account input with
    | .ok (_, db) => { w with shared := { w.shared with database := db } }
    | .error _ => w
  | .bootstrap account seed now transitionId =>
    { w with shared := { w.shared with
        database := (createPersistence w.shared.database account seed now transitionId).1 } }
  | .guard event => { w with ownership := w.ownership.step event }
  | .call _ => w

def step (s : WorldState Num ι) : Event Num ι → WorldState Num ι
  | .call event => machine.step s event
  | event => { s with shared := operate s.shared event }

/-- No calls yet, and new guards over the ownership store. -/
def initial (shared : Shared) (store : Store) (ownerToken : ι → String) (lockHeld : ι → Bool) :
    WorldState Num ι :=
  ⟨⟨shared, .initial store ownerToken lockHeld, []⟩, []⟩

/-- The operation that a call awaits. -/
def awaited (s : WorldState Num ι) (i : ℕ) : Option Op :=
  match s.threads[i]? with
  | some ⟨.call op _, _⟩ => some op
  | _ => none

/-- A reply to the guard in which `createOrder` was invoked. -/
def invokesCreateOrder (w : World ι) (reaction : Reaction Num ι) (op : Op) : Bool :=
  match op with
  | .runWithCurrentExecutionAuthority input orderId request =>
    match perform w reaction (.runWithCurrentExecutionAuthority input orderId request) with
    | some (.ok _, _) => true
    | _ => false
  | _ => false

/-! ### What holds at a send -/

/-- The persisted state and the persisted ownership when `createOrder` is invoked for a call. -/
structure Authorized (w : World ι) (guard : ι) (reading : Reading Num)
    (row initial : ExecutionStateRecord) (record : Runtime.OwnershipStore.RuntimeOwnershipRecord) :
    Prop where
  persisted : getState w.shared.database reading.input.exchangeAccountId = .ok row
  running : row.systemStatus = .running
  killSwitch : row.killSwitchActive = false
  /-- The state the call read first under its lease. -/
  firstRead : reading.initial = some initial
  authority : selectExecutionAuthority row = selectExecutionAuthority initial
  accepted : executionAdapterAcceptsAuthority reading.deps.sendPath (selectExecutionAuthority row) =
    true
  /-- The ownership row carries the token of the guard and the generation that it acquired. -/
  ownership : w.ownership.store.getCurrent = .ok (some record)
  ownerToken : record.ownerToken = (w.ownership.parties guard).guard.ownerToken
  generation : (w.ownership.parties guard).acquired = some record.generation

variable {state : PersistedExecutionState}

theorem getState_of_joinedState {db : Database} {account : String}
    (h : joinedState db account = some state) : ∃ row, getState db account = .ok row ∧
      state = ⟨row.exchangeAccountId, row.executionMode, row.liveExecutionGate, row.systemStatus,
        row.killSwitchActive⟩ := by
  obtain ⟨row, hrow, rfl⟩ := Option.map_eq_some_iff.mp h
  exact ⟨row, Operator.SqliteStore.getState_ok_iff.mpr hrow, rfl⟩

theorem getCurrent_of_authority {store : Store} {joined : Option PersistedExecutionState}
    {record : Runtime.OwnershipStore.RuntimeOwnershipRecord}
    (h : store.getCurrentExecutionAuthority (.ok joined) = .ok (some ⟨record, some state⟩)) :
    store.getCurrent = .ok (some record) ∧ joined = some state := by
  cases store with
  | inMemory stored =>
    simp only [Store.getCurrentExecutionAuthority, Result.then_eq_ok, Except.ok.injEq,
      Option.map_eq_some_iff] at h
    obtain ⟨-, other, -, hother⟩ := h
    cases hother
  | sqlite scopeKey db =>
    simp only [Store.getCurrentExecutionAuthority, Result.bind_eq_ok] at h
    obtain ⟨selected, hselected, h⟩ := h
    cases selected with
    | none => cases h
    | some other =>
      obtain ⟨rfl, hjoined⟩ := Runtime.GuardProtocol.PersistedRuntimeExecutionAuthority.mk.inj
        (Option.some.inj (Except.ok.inj h))
      exact ⟨hselected, hjoined⟩

variable {reaction : Reaction Num ι}

/-- **The step of the fence.** When the guard does not throw, the persisted state and ownership are
those that the call may send under. -/
theorem authorized_of_runGuard {w : World ι} (hsound : Sound w.ownership) {reading : Reading Num}
    {input : AssertCurrentExecutionAuthorityInput} {orderId : String}
    {request : UpbitOrderRequest}
    (hall : reading.Allowed (.runWithCurrentExecutionAuthority input orderId request))
    (hinvoked : invokesCreateOrder w reaction
      (.runWithCurrentExecutionAuthority input orderId request) = true) :
    ∃ row initial record, Authorized w reaction.guard reading row initial record := by
  obtain ⟨haccount, state, hinitial, hauthority, haccepts⟩ := hall
  obtain ⟨e, next, heq, -⟩ |
    ⟨held, confirmed, persisted, next, -, hheld, hread, hallowed, -, hgeneration, htoken⟩ :=
    Runtime.GuardFence.runWith_cases (w.ownership.parties reaction.guard).guard
      ⟨reaction.atEpochMs, input.exchangeAccountId, input.expectedExecutionMode,
        input.expectedLiveExecutionGate⟩
      (w.ownership.store.getCurrentExecutionAuthority
        (.ok (joinedState w.shared.database input.exchangeAccountId)))
      reaction.nowEpochMs reaction.laterEpochMs
  · simp only [invokesCreateOrder, perform, runGuard, heq] at hinvoked
    cases hinvoked
  · obtain ⟨hcurrent, hjoined⟩ := getCurrent_of_authority hread
    obtain ⟨row, hrow, rfl⟩ := getState_of_joinedState hjoined
    have hown := (hsound.accounted reaction.guard).record held hheld
    unfold Guard.isExecutionAllowed at hallowed
    obtain ⟨-, hrunning, hkill, hmode, hgate⟩ := of_decide_eq_true hallowed
    have hsame : selectExecutionAuthority row = selectExecutionAuthority state := by
      rw [← hauthority]
      exact congrArg₂ ExecutionAuthority.mk hmode hgate
    refine ⟨row, state, confirmed, ?_, hrunning, hkill, hinitial, hsame, ?_, hcurrent,
      htoken.trans hown.2, hgeneration ▸ hown.1⟩
    · rw [← haccount]
      exact hrow
    · rw [hsame, ← hauthority]
      exact haccepts

/-! ### Runs -/

/-- What holds in every reachable state: the calls keep to their protocol, and every guard to its
generation. -/
structure Secure (s : WorldState Num ι) : Prop where
  disciplined : machine.Disciplined s
  sound : Sound s.shared.ownership

/-- The operations of the other dependencies. -/
def isBase : Op → Bool
  | .assertLocallyHeld => false
  | .runWithCurrentExecutionAuthority _ _ _ => false
  | .getState => false
  | .pauseForFault _ => false
  | _ => true

variable {op : Op}

theorem perform_base (h : isBase op = true) (w : World ι) (reaction : Reaction Num ι) :
    perform w reaction op = (System.perform w.shared reaction.base op).map (onShared w) := by
  cases op <;> first | rfl | cases h

variable {w w' : World ι} {r : Reply Num op}

/-- An operation of a call leaves the guards alone, or is a step of one of them. -/
theorem perform_cases (h : perform w reaction op = some (r, w')) :
    (∃ shared, System.perform w.shared reaction.base op = some (r, shared) ∧
        w' = { w with shared := shared }) ∨
      (isBase op = false ∧ (w'.ownership = w.ownership ∨
        ∃ action, w'.ownership = w.ownership.step (.guard reaction.guard action))) := by
  cases hbase : isBase op with
  | true =>
    rw [perform_base hbase] at h
    obtain ⟨⟨r', shared⟩, hperform, heq⟩ := Option.map_eq_some_iff.mp h
    obtain ⟨rfl, rfl⟩ := Prod.mk.inj heq
    exact Or.inl ⟨shared, hperform, rfl⟩
  | false =>
    refine Or.inr ⟨rfl, ?_⟩
    cases op with
    | assertLocallyHeld =>
      obtain ⟨-, rfl⟩ := Prod.mk.inj (Option.some.inj h)
      exact Or.inr ⟨.assertLocallyHeld reaction.nowEpochMs, rfl⟩
    | runWithCurrentExecutionAuthority input orderId request =>
      have hnext : w' = (runGuard w reaction input).2 := by
        simp only [perform] at h
        split at h
        · exact (Prod.mk.inj (Option.some.inj h)).2.symm
        · split at h
          · exact (Prod.mk.inj (Option.some.inj h)).2.symm
          · exact (Prod.mk.inj (Option.some.inj h)).2.symm
      rw [hnext]
      exact Or.inr ⟨.runWithCurrentExecutionAuthority
        ⟨reaction.atEpochMs, input.exchangeAccountId, input.expectedExecutionMode,
          input.expectedLiveExecutionGate⟩
        (.ok (joinedState w.shared.database input.exchangeAccountId)) reaction.nowEpochMs
        reaction.laterEpochMs, rfl⟩
    | getState =>
      obtain ⟨-, rfl⟩ := Prod.mk.inj (Option.some.inj h)
      exact Or.inl rfl
    | pauseForFault input =>
      obtain ⟨-, rfl⟩ := Prod.mk.inj (Option.some.inj h)
      exact Or.inl rfl
    | _ => cases hbase

theorem possible_of_perform (h : perform w reaction op = some (r, w')) : Possible op r := by
  obtain ⟨shared, hperform, -⟩ | ⟨hbase, -⟩ := perform_cases h
  · exact System.possible_of_perform hperform
  · cases op <;> trivial

theorem sound_perform (hsound : Sound w.ownership) (h : perform w reaction op = some (r, w')) :
    Sound w'.ownership := by
  obtain ⟨shared, -, rfl⟩ | ⟨-, hsame | ⟨action, hstep⟩⟩ := perform_cases h
  · exact hsound
  · rw [hsame]
    exact hsound
  · rw [hstep]
    exact sound_step hsound _

theorem sound_operate {w : World ι} (hsound : Sound w.ownership) (event : Event Num ι) :
    Sound (operate w event).ownership := by
  cases event with
  | guard event => exact sound_step hsound event
  | call event => exact hsound
  | readCommand account command =>
    unfold operate
    dsimp only
    split <;> exact hsound
  | writeCommand index clock transitionId =>
    unfold operate
    dsimp only
    split <;> exact hsound
  | pauseForFault account input =>
    unfold operate
    dsimp only
    split <;> exact hsound
  | bootstrap account seed now transitionId => exact hsound

theorem secure_step {s : WorldState Num ι} (h : Secure s) (event : Event Num ι) :
    Secure (step s event) := by
  cases event with
  | call event =>
    refine ⟨Machine.step_disciplined (fun call => ?_) (fun _ _ _ _ _ hperform =>
      possible_of_perform hperform) h.disciplined event, ?_⟩
    · exact (follows_submitOrderFromDecision call.deps call.input {}).mono fun _ _ _ _ => trivial
    · obtain heq | ⟨a, -, heq⟩ | ⟨i, e, op, k, g, r, w, -, -, hperform, heq⟩ :=
        Machine.step_cases (M := machine) s event
      · show Sound (machine.step s event).shared.ownership
        rw [heq]
        exact h.sound
      · show Sound (machine.step s event).shared.ownership
        rw [heq]
        exact h.sound
      · show Sound (machine.step s event).shared.ownership
        rw [heq]
        exact sound_perform h.sound hperform
  | guard event => exact ⟨h.disciplined, sound_step h.sound event⟩
  | readCommand account command =>
    have hsound := sound_operate h.sound (.readCommand account command : Event Num ι)
    exact ⟨h.disciplined, hsound⟩
  | writeCommand index clock transitionId =>
    have hsound := sound_operate h.sound (.writeCommand index clock transitionId : Event Num ι)
    exact ⟨h.disciplined, hsound⟩
  | pauseForFault account input =>
    have hsound := sound_operate h.sound (.pauseForFault account input : Event Num ι)
    exact ⟨h.disciplined, hsound⟩
  | bootstrap account seed now transitionId =>
    have hsound := sound_operate h.sound (.bootstrap account seed now transitionId : Event Num ι)
    exact ⟨h.disciplined, hsound⟩

/-- **No send while stopped.** In every run, whenever `createOrder` is invoked for a call, the persisted
state of its account runs with the kill switch off, its mode and gate are those the call read first
under its lease and its adapter accepts them, and the ownership row has the token and the generation
of the guard. -/
theorem no_send_while_stopped (shared : Shared) (store : Store) (ownerToken : ι → String)
    (lockHeld : ι → Bool) (events : List (Event Num ι)) (i : ℕ) (reaction : Reaction Num ι)
    {op : Op} {reading : Reading Num} :
    let s := run step (initial shared store ownerToken lockHeld) events
    awaited s i = some op → s.ghosts[i]? = some reading →
    invokesCreateOrder s.shared reaction op = true →
    ∃ row initial record, Authorized s.shared reaction.guard reading row initial record := by
  intro s hawaited hreading hinvoked
  have hsecure : Secure s := run_invariant Secure (fun _ event h => secure_step h event)
    { disciplined := fun i t h => by simp [initial] at h
      sound := sound_initial store ownerToken lockHeld } events
  cases op with
  | runWithCurrentExecutionAuthority input orderId request =>
    unfold awaited at hawaited
    split at hawaited
    · next awaitedOp k g hthread =>
      obtain rfl := Option.some.inj hawaited
      have hghost : s.ghosts[i]? = some g := by simp [State.ghosts, hthread]
      obtain rfl := Option.some.inj (hghost.symm.trans hreading)
      exact authorized_of_runGuard hsecure.sound (hsecure.disciplined i _ hthread).1 hinvoked
    · cases hawaited
  | _ => cases hinvoked

/-! ### A sale in dry run -/

open Execution.Guarantees (plainDependencies plainAnswer runningState sellOne)

/-- The account of a plain call, with a guard that owns the runtime. -/
def saleReaction (id : String) : Reaction ℤ Unit where
  base := { answer := plainAnswer .dryRunAdapter none id }
  guard := ()
  operatorAccount := "acct"
  atEpochMs := 2
  nowEpochMs := 2
  laterEpochMs := 2

/-- The guard acquires, and a call runs up to its send. -/
def saleEvents : List (Event ℤ Unit) :=
  [.guard (.guard () (.acquire .dryRun 1)), .guard (.guard () (.resume 0 1 1 false)),
    .call (.start ⟨plainDependencies .dryRunAdapter, sellOne "d1"⟩)] ++
  (List.range 19).map fun n => .call (.resume 0 (saleReaction ("a" ++ toString n)))

/-- The account is set up and running. -/
def saleDatabase : Database :=
  { exchangeAccounts := ["acct"], executionState := [runningState .dryRunAdapter] }

def saleState : WorldState ℤ Unit :=
  run step (initial { database := saleDatabase }
    (.sqlite Runtime.GuardFence.exampleScope Runtime.OwnershipAgreement.emptyTables)
    (fun _ => Runtime.OwnershipGenerations.exampleToken) fun _ => true) saleEvents

/-- A stop in between: the kill switch is activated before the send. -/
def stopEvents : List (Event ℤ Unit) :=
  [.readCommand "acct" (.activateKillSwitch none),
    .writeCommand 0 ⟨.epoch, .epoch⟩ "kill"]

theorem saleState_awaits :
    ((awaited saleState 0).any fun op => invokesCreateOrder saleState.shared (saleReaction "b") op) =
        true ∧ saleState.ghosts.map (fun reading => reading.leased) = [true] ∧
      ((awaited (run step saleState stopEvents) 0).any fun op => invokesCreateOrder
        (run step saleState stopEvents).shared (saleReaction "b") op) = false := by
  decide +kernel

/-- The call sends under a state that runs; after a stop it does not send. -/
theorem no_send_while_stopped_sale : ∃ reading row initial record,
    saleState.ghosts[0]? = some reading ∧
      Authorized saleState.shared () reading row initial record := by
  obtain ⟨hinvokes, hghosts, -⟩ := saleState_awaits
  obtain ⟨reading, hreading, -⟩ := Guarantees.getElem?_of_map_eq hghosts 0 rfl
  obtain ⟨op, hop, hcreates⟩ := (Option.any_eq_true _ _).mp hinvokes
  obtain ⟨row, state, record, hauthorized⟩ := no_send_while_stopped
    { database := saleDatabase }
    (.sqlite Runtime.GuardFence.exampleScope Runtime.OwnershipAgreement.emptyTables)
    (fun _ => Runtime.OwnershipGenerations.exampleToken) (fun _ => true) saleEvents 0
    (saleReaction "b") hop hreading hcreates
  exact ⟨reading, row, state, record, hreading, hauthorized⟩

end AutoTrade.Execution.SendFence
