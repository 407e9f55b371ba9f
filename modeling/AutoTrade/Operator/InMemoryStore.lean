import AutoTrade.Lib.Run
import AutoTrade.Operator.State
import Mathlib.Data.List.Chain

/-! # The in-memory operator-state store

`InMemoryOperatorStateStore` of `in-memory-repositories.ts`: the current state and the transition
log, newest entry first. Every method runs to its end without an await, so a run of the store is a
sequence of operations.

* `Consistent` relates the three status fields and the degraded metadata; every operation keeps it
  where the metadata has no empty text (`consistent_step`).
* `Chained` says that the log links up and ends in the current state; every operation keeps it,
  also one that throws (`chained_step`). -/

namespace AutoTrade.Operator.InMemoryStore

open Lib.Text Lib.Result Lib.Run Domain.Types
open Domain.Timestamp Operator.State

/-! ### The store -/

structure InMemoryOperatorStateStore where
  state : ExecutionStateRecord
  transitions : List ExecutionStateTransitionRecord

/-- `new InMemoryOperatorStateStore(state)`. -/
def create (state : ExecutionStateRecord) : InMemoryOperatorStateStore where
  state
  transitions := [bootstrapTransition "execution_state_transition_bootstrap" state]

/-- The pause reason `activateKillSwitch` leaves behind in this store. -/
def killReason (reason : Option String) (current : ExecutionStateRecord) : Option String :=
  reason <|> current.pauseReason

/-- Install the next state and put its transition in front of the log. -/
def recordTransition (store : InMemoryOperatorStateStore) (next : ExecutionStateRecord)
    (command : ExecutionStateTransitionCommand) (reason : Option String) (id : String) :
    InMemoryOperatorStateStore where
  state := next
  transitions :=
    transitionBetween id next.exchangeAccountId command reason store.state next ::
      store.transitions

/-- The default id of a transition: its number in the log. -/
def nextTransitionId (store : InMemoryOperatorStateStore) : String :=
  "execution_state_transition_" ++ toString (store.transitions.length + 1)

def applyCommand (store : InMemoryOperatorStateStore) (command : OperatorCommand)
    (clock : ClockReadings) : InMemoryOperatorStateStore :=
  let update := updateState killReason command clock store.state
  recordTransition store update.next update.command update.reason (nextTransitionId store)

/-- The recorded transition of an id, if any. -/
def getTransitionById (store : InMemoryOperatorStateStore) (id : String) :
    Option ExecutionStateTransitionRecord :=
  store.transitions.find? fun transition => transition.id = id

def applyFaultPauseAtomically (store : InMemoryOperatorStateStore) (input : FaultPauseInput) :
    Except String InMemoryOperatorStateStore := do
  validateFaultPauseInput input
  if input.exchangeAccountId ≠ store.state.exchangeAccountId then
    .error ("Fault " ++ input.faultId ++ " is for a different exchange account.")
  else
    match ← decideFaultPause (getTransitionById store input.faultId) store.state input with
    | none => .ok store
    | some next =>
      .ok (recordTransition store next .automaticPause (some (formatFaultPauseReason input))
        input.faultId)

inductive Operation
  | command (command : OperatorCommand) (clock : ClockReadings)
  | faultPause (input : FaultPauseInput)

/-- One operation; a fault pause that throws leaves the store as it was. -/
def step (store : InMemoryOperatorStateStore) : Operation → InMemoryOperatorStateStore
  | .command command clock => applyCommand store command clock
  | .faultPause input =>
    match applyFaultPauseAtomically store input with
    | .ok store' => store'
    | .error _ => store

variable {input : FaultPauseInput} {store store' : InMemoryOperatorStateStore}

section

variable (h : applyFaultPauseAtomically store input = .ok store')
include h

/-- What a fault pause that does not throw does: it finds its transition, or records one. -/
theorem applyFaultPause_cases :
    store.state.exchangeAccountId = input.exchangeAccountId ∧
      ((∃ transition, getTransitionById store input.faultId = some transition ∧
          acceptsReplay transition store.state input = true ∧ store' = store) ∨
        (getTransitionById store input.faultId = none ∧ ∃ transitionAt,
          validateFaultPauseTimestamp input store.state = .ok transitionAt ∧
            store' = recordTransition store
              (faultPausedState store.state (formatFaultPauseReason input) transitionAt)
              .automaticPause (some (formatFaultPauseReason input)) input.faultId)) := by
  unfold applyFaultPauseAtomically at h
  obtain ⟨-, h⟩ := then_eq_ok.mp h
  split_ifs at h with haccount
  refine ⟨(not_not.mp haccount).symm, ?_⟩
  obtain ⟨decided, hdecide, h⟩ := bind_eq_ok.mp h
  unfold decideFaultPause at hdecide
  cases hfound : getTransitionById store input.faultId with
  | some transition =>
    rw [hfound] at hdecide
    dsimp only at hdecide
    split_ifs at hdecide with haccepts
    rw [← Except.ok.inj hdecide] at h
    exact Or.inl ⟨transition, rfl, haccepts, (Except.ok.inj h).symm⟩
  | none =>
    rw [hfound] at hdecide
    dsimp only at hdecide
    obtain ⟨transitionAt, htransition, hnext⟩ := bind_eq_ok.mp hdecide
    rw [← Except.ok.inj hnext] at h
    exact Or.inr ⟨rfl, transitionAt, htransition, (Except.ok.inj h).symm⟩

theorem applyFaultPauseAtomically_ok :
    (store' = store ∧ Stopped store.state.systemStatus) ∨
      ∃ transitionAt, validateFaultPauseTimestamp input store.state = .ok transitionAt ∧
        store' = recordTransition store
          (faultPausedState store.state (formatFaultPauseReason input) transitionAt)
          .automaticPause (some (formatFaultPauseReason input)) input.faultId := by
  obtain ⟨-, ⟨transition, -, haccepts, rfl⟩ | ⟨-, transitionAt, htime, rfl⟩⟩ :=
    applyFaultPause_cases h
  · exact Or.inl ⟨rfl, stopped_of_acceptsReplay haccepts⟩
  · exact Or.inr ⟨transitionAt, htime, rfl⟩

theorem step_of_ok : step store (.faultPause input) = store' := by
  simp only [step, h]

end

variable {store : InMemoryOperatorStateStore}

theorem step_of_error {e : String} (h : applyFaultPauseAtomically store input = .error e) :
    step store (.faultPause input) = store := by
  simp only [step, h]

/-- **What one operation can do**: nothing, or one recorded transition to the state a command or a
fault pause computes from the current one. -/
theorem step_cases (store : InMemoryOperatorStateStore) (op : Operation) :
    step store op = store ∨
      (∃ command clock, op = .command command clock ∧
        step store op = applyCommand store command clock) ∨
      ∃ reason transitionAt recorded id,
        step store op =
          recordTransition store (faultPausedState store.state reason transitionAt)
            .automaticPause recorded id := by
  cases op with
  | command command clock => exact Or.inr (Or.inl ⟨command, clock, rfl, rfl⟩)
  | faultPause input =>
    cases h : applyFaultPauseAtomically store input with
    | error e => exact Or.inl (step_of_error h)
    | ok store' =>
      rw [step_of_ok h]
      rcases applyFaultPauseAtomically_ok h with ⟨he, -⟩ | ⟨transitionAt, -, he⟩
      · exact Or.inl he
      · exact Or.inr (Or.inr ⟨_, _, _, _, he⟩)

/-! ### The status fields -/

/-- Degraded metadata is set: one of its two fields is not null. -/
def MetadataSet (state : ExecutionStateRecord) : Prop :=
  state.degradedReason ≠ none ∨ state.degradedAt ≠ none

/-- **The status fields and the degraded metadata fit together**, for a reading of the metadata as
set. -/
structure Consistent (isSet : ExecutionStateRecord → Prop) (state : ExecutionStateRecord) : Prop where
  kill : state.killSwitchActive = true ↔ state.systemStatus = .killSwitched
  degraded : state.systemStatus = .degraded → isSet state
  running : state.systemStatus = .running → ¬ isSet state

variable {state : ExecutionStateRecord}

theorem metadataSet_of_truthy (h : hasDegradedMetadata state = true) : MetadataSet state := by
  unfold hasDegradedMetadata truthy at h
  cases hr : state.degradedReason with
  | some reason => exact Or.inl (by simp [hr])
  | none =>
    cases ha : state.degradedAt with
    | some text => exact Or.inr (by simp [ha])
    | none => simp [hr, ha] at h

/-- No timestamp of the metadata is empty, and an empty reason comes with one. -/
structure Legible (state : ExecutionStateRecord) : Prop where
  degradedAt : state.degradedAt ≠ some ""
  degradedReason : state.degradedReason = some "" → state.degradedAt ≠ none

theorem Legible.hasDegradedMetadata_iff (h : Legible state) :
    hasDegradedMetadata state = true ↔ MetadataSet state := by
  refine ⟨metadataSet_of_truthy, fun hm => ?_⟩
  obtain ⟨ha, hr⟩ := h
  unfold hasDegradedMetadata truthy
  cases hat : state.degradedAt with
  | some text =>
    rw [hat] at ha
    have : text ≠ "" := fun e => ha (congrArg some e)
    simp [this]
  | none =>
    cases hre : state.degradedReason with
    | none => simp [MetadataSet, hat, hre] at hm
    | some reason =>
      have : reason ≠ "" := fun e => hr (by rw [hre, e]) hat
      simp [this]

theorem legible_updateState (h : Legible state) (command : OperatorCommand)
    (clock : ClockReadings) : Legible (updateState killReason command clock state).next := by
  obtain ⟨ha, hr⟩ := h
  cases command with
  | markDegraded reason =>
    refine ⟨?_, fun _ => by simp [updateState, markDegraded]⟩
    cases hat : state.degradedAt with
    | none => simpa [updateState, markDegraded, hat] using clock.degradedAt.strict.ne_empty
    | some text => simpa [updateState, markDegraded, hat] using ha
  | clearDegraded reason => constructor <;> simp [updateState, clearDegraded]
  | _ => exact ⟨ha, hr⟩

theorem legible_step (h : Legible store.state) (op : Operation) :
    Legible (step store op).state := by
  rcases step_cases store op with he | ⟨command, clock, -, he⟩ | ⟨reason, at', recorded, id, he⟩
  · rw [he]; exact h
  · rw [he]; exact legible_updateState h command clock
  · rw [he]; exact ⟨h.degradedAt, h.degradedReason⟩

theorem consistent_resume (hl : Legible state) (clock : ClockReadings) :
    Consistent MetadataSet (updateState killReason .resume clock state).next := by
  have hset : hasDegradedMetadata state = true ↔ MetadataSet state := hl.hasDegradedMetadata_iff
  unfold updateState resume resolveResumedSystemStatus
  by_cases hk : state.killSwitchActive
  · constructor <;> simp [hk]
  · by_cases hm : hasDegradedMetadata state
    · have hmetadata : MetadataSet state := hset.mp hm
      constructor <;> simp [hk, hm]
      exact hmetadata
    · have hmetadata : ¬ MetadataSet state := fun hmetadata => hm (hset.mpr hmetadata)
      constructor <;> simp [hk, hm]
      exact hmetadata

theorem consistent_updateState (h : Consistent MetadataSet state) (hl : Legible state)
    (command : OperatorCommand) (clock : ClockReadings) :
    Consistent MetadataSet (updateState killReason command clock state).next := by
  obtain ⟨hk, hd, hr⟩ := h
  cases command with
  | resume => exact consistent_resume hl clock
  | pause reason =>
    by_cases hks : state.killSwitchActive
    · constructor <;> simp [updateState, pause, hks]
    · constructor <;> simp [updateState, pause, hks]
  | activateKillSwitch reason => constructor <;> simp [updateState, activateKillSwitch]
  | setExecutionMode mode => exact ⟨hk, hd, hr⟩
  | setLiveExecutionGate gate => exact ⟨hk, hd, hr⟩
  | markDegraded reason =>
    unfold updateState markDegraded resolveSystemStatusForDegradation
    by_cases hks : state.systemStatus = .killSwitched
    · constructor <;> simp [hk.mpr hks]
    · have hka : state.killSwitchActive = false := by simpa [hks] using hk
      by_cases hp : state.systemStatus = .paused
      · constructor <;> simp [hp, hka]
      · constructor <;> simp [hp, hka, hks, MetadataSet]
  | clearDegraded reason =>
    unfold updateState clearDegraded
    by_cases hds : state.systemStatus = .degraded
    · have hka : state.killSwitchActive = false := by simpa [hds] using hk
      constructor <;> simp [hds, hka, MetadataSet]
    · constructor <;> simp [hds, hk, MetadataSet]

theorem consistent_faultPausedState (h : Consistent MetadataSet state)
    (reason transitionAt : String) :
    Consistent MetadataSet (faultPausedState state reason transitionAt) := by
  unfold faultPausedState
  by_cases hks : state.systemStatus = .killSwitched
  · constructor <;> simp [hks, h.kill.mpr hks]
  · have hka : state.killSwitchActive = false := by simpa [hks] using h.kill
    constructor <;> simp [hks, hka]

theorem consistent_step (h : Consistent MetadataSet store.state) (hl : Legible store.state)
    (op : Operation) : Consistent MetadataSet (step store op).state := by
  rcases step_cases store op with he | ⟨command, clock, -, he⟩ | ⟨reason, at', recorded, id, he⟩
  · rw [he]; exact h
  · rw [he]; exact consistent_updateState h hl command clock
  · rw [he]; exact consistent_faultPausedState h reason at'

/-! ### The kill switch -/

theorem killSwitchActive_step (h : store.state.killSwitchActive = true) (op : Operation) :
    (step store op).state.killSwitchActive = true := by
  rcases step_cases store op with he | ⟨command, clock, -, he⟩ | ⟨reason, at', recorded, id, he⟩
  · rw [he]; exact h
  · rw [he]
    change (updateState killReason command clock store.state).next.killSwitchActive = true
    rw [updateState_killSwitchActive, h, Bool.true_or]
  · rw [he]; exact h

/-! ### The log -/

/-- The from-fields of an entry are the to-fields of the next older one. -/
def LinksTo (newer older : ExecutionStateTransitionRecord) : Prop :=
  newer.fromExecutionMode = some older.toExecutionMode ∧
    newer.fromLiveExecutionGate = some older.toLiveExecutionGate ∧
    newer.fromSystemStatus = some older.toSystemStatus ∧
    newer.fromKillSwitchActive = some older.toKillSwitchActive

/-- **The log is a chain that ends in the current state.** -/
def Chained (store : InMemoryOperatorStateStore) : Prop :=
  store.transitions.IsChain LinksTo ∧
    ∃ newest ∈ store.transitions.head?, Leads newest store.state

theorem chained_create (state : ExecutionStateRecord) : Chained (create state) :=
  ⟨List.isChain_singleton _, _, rfl, rfl, rfl, rfl, rfl⟩

theorem chained_recordTransition (h : Chained store) (next : ExecutionStateRecord)
    (command : ExecutionStateTransitionCommand) (reason : Option String) (id : String) :
    Chained (recordTransition store next command reason id) := by
  obtain ⟨hc, newest, hn, hl⟩ := h
  refine ⟨?_, _, rfl, leads_transitionBetween _ _ _ _ _ _⟩
  refine List.isChain_cons.mpr ⟨fun older ho => ?_, hc⟩
  have : older = newest := Option.some.inj (ho.symm.trans hn)
  subst this
  obtain ⟨h1, h2, h3, h4⟩ := hl
  exact ⟨congrArg some h1.symm, congrArg some h2.symm, congrArg some h3.symm, congrArg some h4.symm⟩

theorem chained_step (h : Chained store) (op : Operation) : Chained (step store op) := by
  rcases step_cases store op with he | ⟨command, clock, -, he⟩ | ⟨reason, at', recorded, id, he⟩
  · rw [he]; exact h
  · rw [he]; exact chained_recordTransition h _ _ _ _
  · rw [he]; exact chained_recordTransition h _ _ _ _

/-! ### Whole runs -/

/-- **The operator state machine.** From a consistent state whose metadata is null or not empty, after
every sequence of operations: the state is consistent, the kill switch stays on once it is on, resuming
gives no running state with degraded metadata, and the log is a chain that ends in the current state.
The truthiness test of the code sees all the metadata of these states. -/
theorem run_operator_state_machine (start : ExecutionStateRecord) (h : Consistent MetadataSet start)
    (hreason : start.degradedReason ≠ some "") (hat : start.degradedAt ≠ some "")
    (ops : List Operation) :
    let store := run step (create start) ops
    Consistent MetadataSet store.state ∧
      (∀ more, store.state.killSwitchActive = true →
        (run step store more).state.killSwitchActive = true) ∧
      (∀ clock, (step store (.command .resume clock)).state.systemStatus = .running →
        ¬ MetadataSet (step store (.command .resume clock)).state) ∧
      Chained store ∧ (hasDegradedMetadata store.state = true ↔ MetadataSet store.state) := by
  intro store
  obtain ⟨hc, hl⟩ : Consistent MetadataSet store.state ∧ Legible store.state :=
    run_invariant
      (fun s : InMemoryOperatorStateStore => Consistent MetadataSet s.state ∧ Legible s.state)
      (fun _ op hs => ⟨consistent_step hs.1 hs.2 op, legible_step hs.2 op⟩)
      ⟨h, hat, fun he => absurd he hreason⟩ ops
  refine ⟨hc, fun more hk => ?_, fun clock hr => ?_, ?_, hl.hasDegradedMetadata_iff⟩
  · exact run_invariant
      (fun s : InMemoryOperatorStateStore => s.state.killSwitchActive = true)
      (fun _ op hs => killSwitchActive_step hs op) hk more
  · exact (consistent_step hc hl (.command .resume clock)).running hr
  · exact run_invariant Chained (fun _ op hs => chained_step hs op)
      (chained_create start) ops

theorem consistent_seedState (account : String) (seed : ExecutionStateSeed) (now : ClockText) :
    Consistent MetadataSet (seedState account seed now) := by
  cases h : seed.killSwitchActive <;> constructor <;> simp [seedState, h, MetadataSet]

theorem run_operator_state_machine_fresh :
    let ops := [Operation.command (.markDegraded none) ⟨.epoch, .epoch⟩,
      .command (.pause none) ⟨.epoch, .epoch⟩, .command .resume ⟨.epoch, .epoch⟩]
    let store := run step (create (seedState "primary" ⟨.live, .enabled, false⟩ .epoch)) ops
    store.state.systemStatus = .degraded ∧ Consistent MetadataSet store.state ∧ Chained store := by
  intro ops store
  have h := run_operator_state_machine (seedState "primary" ⟨.live, .enabled, false⟩ .epoch)
    (consistent_seedState _ _ _) (by decide) (by decide) ops
  exact ⟨by decide, h.1, h.2.2.2.1⟩

/-- A seed state with other metadata. -/
def seedWith (status : SystemStatus) (degradedReason degradedAt : Option String) :
    ExecutionStateRecord :=
  { seedState "primary" ⟨.live, .enabled, false⟩ .epoch with
    systemStatus := status, degradedReason, degradedAt }

/-- Empty texts in the first state break both readings of the metadata: a resume leaves an empty
reason in a running state, and an empty time is kept when a running state is marked as degraded. -/
theorem empty_metadata_inconsistent :
    (¬ ∀ start, Consistent MetadataSet start → ∀ ops,
      Consistent MetadataSet (run step (create start) ops).state) ∧
    ¬ ∀ start, Consistent (fun state => hasDegradedMetadata state = true) start → ∀ ops,
      Consistent (fun state => hasDegradedMetadata state = true) (run step (create start) ops).state := by
  constructor
  · intro hall
    have hafter := hall (seedWith .paused (some "") none)
      ⟨by decide, fun hd => absurd hd (by decide), fun hr => absurd hr (by decide)⟩
      [.command .resume ⟨.epoch, .epoch⟩]
    exact hafter.running (by decide) (Or.inl (by decide))
  · intro hall
    have hafter := hall (seedWith .running none (some "")) ⟨by decide, by decide, by decide⟩
      [.command (.markDegraded (some "")) ⟨.epoch, .epoch⟩]
    exact absurd (hafter.degraded (by decide)) (by decide)

end AutoTrade.Operator.InMemoryStore
