import AutoTrade.Domain.Timestamp
import AutoTrade.Domain.Types

/-! # The operator state and its commands

What an operator command or an automatic fault pause makes of the execution state, before any
store. The seven commands are written as the two stores write them: the fields they change, the
command column and the reason of their transition. The stores differ in one place, the pause reason
of `activateKillSwitch`, which is a parameter here.

A fault pause is validated against its own input (`validateFaultPauseInput`) and against the clock
of the state (`validateFaultPauseTimestamp`). -/

namespace AutoTrade.Operator.State

open Lib.Text Domain.Types Domain.Timestamp

/-! ### Statuses -/

/-- New orders are stopped. -/
def Stopped (status : SystemStatus) : Prop := status = .paused ∨ status = .killSwitched

instance (status : SystemStatus) : Decidable (Stopped status) := by
  unfold Stopped; infer_instance

/-- The kill switch comes with its status. -/
def KillStatus (row : ExecutionStateRecord) : Prop :=
  row.killSwitchActive = true → row.systemStatus = .killSwitched

/-- `state.degradedReason || state.degradedAt`. -/
def hasDegradedMetadata (state : ExecutionStateRecord) : Bool :=
  truthy state.degradedReason || truthy state.degradedAt

def resolveResumedSystemStatus (state : ExecutionStateRecord) : SystemStatus :=
  if state.killSwitchActive then .killSwitched
  else if hasDegradedMetadata state then .degraded
  else .running

def resolveSystemStatusForDegradation (state : ExecutionStateRecord) : SystemStatus :=
  if state.killSwitchActive ∨ state.systemStatus = .killSwitched then .killSwitched
  else if state.systemStatus = .paused then .paused
  else .degraded

/-- The state a fresh account starts in (`createSqlitePersistence`). -/
def seedState (exchangeAccountId : String) (seed : ExecutionStateSeed) (now : ClockText) :
    ExecutionStateRecord where
  id := "execution_state_" ++ exchangeAccountId
  exchangeAccountId
  executionMode := seed.executionMode
  liveExecutionGate := seed.liveExecutionGate
  systemStatus := if seed.killSwitchActive then .killSwitched else .running
  killSwitchActive := seed.killSwitchActive
  pauseReason := none
  degradedReason := none
  degradedAt := none
  updatedAt := now.text

/-! ### Commands -/

inductive OperatorCommand
  | pause (reason : Option String)
  | resume
  | activateKillSwitch (reason : Option String)
  | setExecutionMode (mode : ExecutionMode)
  | setLiveExecutionGate (gate : LiveExecutionGate)
  | markDegraded (reason : Option String)
  | clearDegraded (reason : Option String)
  deriving DecidableEq

def OperatorCommand.isPause : OperatorCommand → Bool
  | .pause _ => true
  | _ => false

def OperatorCommand.isActivateKillSwitch : OperatorCommand → Bool
  | .activateKillSwitch _ => true
  | _ => false

/-- The texts `new Date().toISOString()` returns within one command: `markDegraded` reads the clock
before the state is stamped. -/
structure ClockReadings where
  degradedAt : ClockText
  updatedAt : ClockText

/-- The arguments of `updateState`: the changed state, the command column and the reason. -/
structure StateUpdate where
  next : ExecutionStateRecord
  command : ExecutionStateTransitionCommand
  reason : Option String

def pause (current : ExecutionStateRecord) (reason : Option String) : StateUpdate where
  next := { current with
    systemStatus := if current.killSwitchActive then .killSwitched else .paused
    pauseReason := reason <|> current.pauseReason }
  command := .pause
  reason := reason <|> current.pauseReason

def resume (current : ExecutionStateRecord) : StateUpdate where
  next := { current with
    systemStatus := resolveResumedSystemStatus current
    pauseReason := none }
  command := .resume
  reason := none

/-- The pause reason is the store's own. -/
def activateKillSwitch (current : ExecutionStateRecord) (pauseReason : Option String) :
    StateUpdate where
  next := { current with killSwitchActive := true, systemStatus := .killSwitched, pauseReason }
  command := .killswitch
  reason := pauseReason

def setExecutionMode (current : ExecutionStateRecord) (mode : ExecutionMode) : StateUpdate where
  next := { current with executionMode := mode }
  command := .setExecutionMode
  reason := some mode.text

def setLiveExecutionGate (current : ExecutionStateRecord) (gate : LiveExecutionGate) :
    StateUpdate where
  next := { current with liveExecutionGate := gate }
  command := .setLiveExecutionGate
  reason := some gate.text

def markDegraded (current : ExecutionStateRecord) (reason : Option String) (now : String) :
    StateUpdate :=
  let degradedReason :=
    (reason <|> current.degradedReason).getD "startup_portfolio_drift_detected"
  { next := { current with
      systemStatus := resolveSystemStatusForDegradation current
      degradedReason := some degradedReason
      degradedAt := some (current.degradedAt.getD now) }
    command := .markDegraded
    reason := some degradedReason }

def clearDegraded (current : ExecutionStateRecord) (reason : Option String) : StateUpdate where
  next := { current with
    systemStatus := if current.systemStatus = .degraded then .running else current.systemStatus
    degradedReason := none
    degradedAt := none }
  command := .clearDegraded
  reason := some (reason.getD "startup_recovery_clean")

section Update
variable (killReason : Option String → ExecutionStateRecord → Option String)

/-- A command on the state it has read, stamped with the clock. -/
def updateState (command : OperatorCommand) (clock : ClockReadings)
    (current : ExecutionStateRecord) : StateUpdate :=
  let update := match command with
    | .pause reason => pause current reason
    | .resume => resume current
    | .activateKillSwitch reason => activateKillSwitch current (killReason reason current)
    | .setExecutionMode mode => setExecutionMode current mode
    | .setLiveExecutionGate gate => setLiveExecutionGate current gate
    | .markDegraded reason => markDegraded current reason clock.degradedAt.text
    | .clearDegraded reason => clearDegraded current reason
  { update with next := { update.next with updatedAt := clock.updatedAt.text } }

variable {killReason} {command : OperatorCommand} {clock : ClockReadings}
  {current : ExecutionStateRecord}

@[simp] theorem updateState_exchangeAccountId :
    (updateState killReason command clock current).next.exchangeAccountId =
      current.exchangeAccountId := by
  cases command <;> rfl

theorem updateState_killSwitchActive :
    (updateState killReason command clock current).next.killSwitchActive =
      (current.killSwitchActive || command.isActivateKillSwitch) := by
  cases command <;> simp [updateState, pause, resume, activateKillSwitch, setExecutionMode,
    setLiveExecutionGate, markDegraded, clearDegraded, OperatorCommand.isActivateKillSwitch]

theorem killStatus_updateState (h : KillStatus current) (command : OperatorCommand)
    (clock : ClockReadings) : KillStatus (updateState killReason command clock current).next := by
  intro hk
  rw [updateState_killSwitchActive] at hk
  have hkill {b : Bool} (hb : (b || false) = true) : b = true := by simpa using hb
  cases command with
  | activateKillSwitch reason => rfl
  | pause reason => simp [updateState, pause, hkill hk]
  | resume => simp [updateState, resume, resolveResumedSystemStatus, hkill hk]
  | setExecutionMode mode => exact h (hkill hk)
  | setLiveExecutionGate gate => exact h (hkill hk)
  | markDegraded reason =>
    simp [updateState, markDegraded, resolveSystemStatusForDegradation, hkill hk]
  | clearDegraded reason => simp [updateState, clearDegraded, h (hkill hk)]

end Update

/-! ### Fault pauses -/

def formatFaultPauseReason (input : FaultPauseInput) : String :=
  "faultId=" ++ input.faultId ++ "; reason=" ++ input.reason

def validateFaultPauseInput (input : FaultPauseInput) : Except String Unit :=
  if input.exchangeAccountId = "" ∨ isBlank input.faultId ∨ isBlank input.reason then
    .error "Automatic fault pauses require non-empty account, faultId, and reason."
  else do
    let occurredAt ← parseStrictIsoTimestamp input.occurredAt "occurredAt"
    match input.transitionAt with
    | none => .ok ()
    | some transitionText =>
      let transitionAt ← parseStrictIsoTimestamp transitionText "transitionAt"
      if transitionAt < occurredAt then
        .error "Automatic fault pause transitionAt cannot predate fault occurrence."
      else .ok ()

def validateFaultPauseTimestamp (input : FaultPauseInput) (current : ExecutionStateRecord) :
    Except String String := do
  let requestedTransitionAt := input.transitionAt.getD input.occurredAt
  let requestedEpoch ← parseStrictIsoTimestamp requestedTransitionAt "transitionAt"
  let currentEpoch ← parseStrictIsoTimestamp current.updatedAt "current updatedAt"
  if input.transitionAt = none ∧ requestedEpoch < currentEpoch then
    .error "Automatic fault pause occurredAt cannot predate current execution state."
  else .ok (if requestedEpoch < currentEpoch then current.updatedAt else requestedTransitionAt)

def deriveFaultPauseTransitionAt (occurredAt currentUpdatedAt : String) : Except String String := do
  let occurredAtEpoch ← parseStrictIsoTimestamp occurredAt "occurredAt"
  let currentEpoch ← parseStrictIsoTimestamp currentUpdatedAt "current updatedAt"
  .ok (if occurredAtEpoch < currentEpoch then currentUpdatedAt else occurredAt)

def faultPauseTransitionMatchesOccurrence (input : FaultPauseInput) (transitionAt : String) :
    Bool :=
  match input.transitionAt with
  | none => transitionAt = input.occurredAt
  | some _ =>
    match parseStrictIsoTimestamp transitionAt "persisted transition createdAt",
      parseStrictIsoTimestamp input.occurredAt "occurredAt" with
    | .ok persisted, .ok occurred => persisted ≥ occurred
    | _, _ => false

/-- The state a fault pause writes: the kill switch is never weakened to a pause. -/
def faultPausedState (current : ExecutionStateRecord) (reason transitionAt : String) :
    ExecutionStateRecord :=
  let preservesKillSwitch := current.killSwitchActive ∨ current.systemStatus = .killSwitched
  { current with
    systemStatus := if preservesKillSwitch then .killSwitched else .paused
    pauseReason := if preservesKillSwitch then current.pauseReason else some reason
    updatedAt := transitionAt }

theorem stopped_faultPausedState (current : ExecutionStateRecord) (reason transitionAt : String) :
    Stopped (faultPausedState current reason transitionAt).systemStatus := by
  unfold faultPausedState Stopped
  dsimp only
  split
  · exact Or.inr rfl
  · exact Or.inl rfl

variable {current : ExecutionStateRecord}

theorem killStatus_faultPausedState (reason transitionAt : String) :
    KillStatus (faultPausedState current reason transitionAt) := by
  intro hk
  have hk' : current.killSwitchActive = true := hk
  simp [faultPausedState, hk']

theorem killStatus_seedState (account : String) (seed : ExecutionStateSeed) (now : ClockText) :
    KillStatus (seedState account seed now) := by
  intro hk
  have hk' : seed.killSwitchActive = true := hk
  simp [seedState, hk']

@[simp] theorem faultPausedState_exchangeAccountId (current : ExecutionStateRecord)
    (reason transitionAt : String) :
    (faultPausedState current reason transitionAt).exchangeAccountId =
      current.exchangeAccountId := rfl

@[simp] theorem faultPausedState_killSwitchActive (current : ExecutionStateRecord)
    (reason transitionAt : String) :
    (faultPausedState current reason transitionAt).killSwitchActive =
      current.killSwitchActive := rfl

/-! ### What the validations say -/

/-- An input that `validateFaultPauseInput` lets through. -/
structure ValidFault (input : FaultPauseInput) : Prop where
  occurredAt : IsStrictIso input.occurredAt
  transitionAt : ∀ t, input.transitionAt = some t →
    IsStrictIso t ∧ instant input.occurredAt ≤ instant t

variable {input : FaultPauseInput}

theorem validFault_of_validate (h : validateFaultPauseInput input = .ok ()) : ValidFault input := by
  unfold validateFaultPauseInput at h
  split at h
  · cases h
  cases ho : parseStrictIsoTimestamp input.occurredAt "occurredAt" with
  | error e => rw [ho] at h; cases h
  | ok occurred =>
    obtain ⟨hs, rfl⟩ := isStrictIso_of_parse ho
    refine ⟨hs, fun t ht => ?_⟩
    simp only [ho, ht, bind, Except.bind] at h
    cases hp : parseStrictIsoTimestamp t "transitionAt" with
    | error e => simp [hp] at h
    | ok transition =>
      obtain ⟨hts, rfl⟩ := isStrictIso_of_parse hp
      refine ⟨hts, ?_⟩
      simp only [hp] at h
      split at h
      · cases h
      · omega

theorem ValidFault.requested (h : ValidFault input) :
    IsStrictIso (input.transitionAt.getD input.occurredAt) := by
  cases ht : input.transitionAt with
  | none => exact h.occurredAt
  | some t => exact (h.transitionAt t ht).1

/-- A fault without its own transition time that predates the state is refused. -/
def Backdated (input : FaultPauseInput) (current : ExecutionStateRecord) : Prop :=
  input.transitionAt = none ∧ instant input.occurredAt < instant current.updatedAt

instance (input : FaultPauseInput) (current : ExecutionStateRecord) :
    Decidable (Backdated input current) := by
  unfold Backdated; infer_instance

theorem validateFaultPauseTimestamp_of_valid (hv : ValidFault input)
    (hu : IsStrictIso current.updatedAt) :
    if Backdated input current then
      validateFaultPauseTimestamp input current =
        .error "Automatic fault pause occurredAt cannot predate current execution state."
    else ∃ t, validateFaultPauseTimestamp input current = .ok t ∧ IsStrictIso t := by
  have hr := parse_of_isStrictIso hv.requested "transitionAt"
  have hc := parse_of_isStrictIso hu "current updatedAt"
  unfold validateFaultPauseTimestamp
  simp only [hr, hc, bind, Except.bind]
  split
  next hb =>
    have hb' : input.transitionAt = none ∧
        instant (input.transitionAt.getD input.occurredAt) < instant current.updatedAt := by
      refine ⟨hb.1, ?_⟩
      rw [hb.1]; exact hb.2
    rw [if_pos hb']
  next hb =>
    have hb' : ¬ (input.transitionAt = none ∧
        instant (input.transitionAt.getD input.occurredAt) < instant current.updatedAt) := by
      rintro ⟨hn, hlt⟩
      rw [hn] at hlt
      exact hb ⟨hn, hlt⟩
    rw [if_neg hb']
    refine ⟨_, rfl, ?_⟩
    split
    · exact hu
    · exact hv.requested

/-! ### Transitions -/

/-- The transition row between two states. -/
def transitionBetween (id exchangeAccountId : String) (command : ExecutionStateTransitionCommand)
    (reason : Option String) (current next : ExecutionStateRecord) :
    ExecutionStateTransitionRecord where
  id
  exchangeAccountId
  command
  fromExecutionMode := some current.executionMode
  toExecutionMode := next.executionMode
  fromLiveExecutionGate := some current.liveExecutionGate
  toLiveExecutionGate := next.liveExecutionGate
  fromSystemStatus := some current.systemStatus
  toSystemStatus := next.systemStatus
  fromKillSwitchActive := some current.killSwitchActive
  toKillSwitchActive := next.killSwitchActive
  reason
  createdAt := next.updatedAt

/-- The transition row of a fresh state. -/
def bootstrapTransition (id : String) (state : ExecutionStateRecord) :
    ExecutionStateTransitionRecord where
  id
  exchangeAccountId := state.exchangeAccountId
  command := .bootstrap
  fromExecutionMode := none
  toExecutionMode := state.executionMode
  fromLiveExecutionGate := none
  toLiveExecutionGate := state.liveExecutionGate
  fromSystemStatus := none
  toSystemStatus := state.systemStatus
  fromKillSwitchActive := none
  toKillSwitchActive := state.killSwitchActive
  reason := some "bootstrap_seed"
  createdAt := state.updatedAt

/-- **The to-fields of the transition are the fields of the state.** -/
def Leads (transition : ExecutionStateTransitionRecord) (state : ExecutionStateRecord) : Prop :=
  transition.toExecutionMode = state.executionMode ∧
    transition.toLiveExecutionGate = state.liveExecutionGate ∧
    transition.toSystemStatus = state.systemStatus ∧
    transition.toKillSwitchActive = state.killSwitchActive

theorem leads_transitionBetween (id account : String) (command : ExecutionStateTransitionCommand)
    (reason : Option String) (current next : ExecutionStateRecord) :
    Leads (transitionBetween id account command reason current next) next :=
  ⟨rfl, rfl, rfl, rfl⟩

/-! ### A fault pause against the log -/

/-- The recorded transition of the same fault is an exact replay, and the pause still holds. -/
def acceptsReplay (existing : ExecutionStateTransitionRecord) (current : ExecutionStateRecord)
    (input : FaultPauseInput) : Bool :=
  existing.command = .automaticPause ∧ existing.exchangeAccountId = input.exchangeAccountId ∧
    existing.reason = some (formatFaultPauseReason input) ∧
    faultPauseTransitionMatchesOccurrence input existing.createdAt ∧ Stopped current.systemStatus

/-- The body of a fault pause, given the recorded transition of its id, if any: the state to write,
or `none` when the pause is already in force. -/
def decideFaultPause (existing : Option ExecutionStateTransitionRecord)
    (current : ExecutionStateRecord) (input : FaultPauseInput) :
    Except String (Option ExecutionStateRecord) :=
  match existing with
  | some transition =>
    if acceptsReplay transition current input then .ok none
    else .error ("Conflicting duplicate automatic pause " ++ input.faultId ++ ".")
  | none => do
    let transitionAt ← validateFaultPauseTimestamp input current
    .ok (some (faultPausedState current (formatFaultPauseReason input) transitionAt))

/-- The two reasons for which a valid fault pause is refused: its id is recorded and the call is no
replay of a pause in force, or the fault predates the state. -/
def Refused (existing : Option ExecutionStateTransitionRecord) (current : ExecutionStateRecord)
    (input : FaultPauseInput) : Prop :=
  match existing with
  | some transition => acceptsReplay transition current input = false
  | none => Backdated input current

instance (existing : Option ExecutionStateTransitionRecord) (current : ExecutionStateRecord)
    (input : FaultPauseInput) : Decidable (Refused existing current input) := by
  unfold Refused; split <;> infer_instance

theorem stopped_of_acceptsReplay {existing : ExecutionStateTransitionRecord}
    (h : acceptsReplay existing current input = true) : Stopped current.systemStatus := by
  unfold acceptsReplay at h
  exact (of_decide_eq_true h).2.2.2.2

variable {existing : Option ExecutionStateTransitionRecord}

/-- What a fault pause can do: keep a stopped state, or write the paused one. -/
theorem decideFaultPause_ok {result : Option ExecutionStateRecord}
    (h : decideFaultPause existing current input = .ok result) :
    (existing ≠ none ∧ result = none ∧ Stopped current.systemStatus) ∨
      (existing = none ∧ ∃ transitionAt,
        validateFaultPauseTimestamp input current = .ok transitionAt ∧
        result = some (faultPausedState current (formatFaultPauseReason input) transitionAt)) := by
  unfold decideFaultPause at h
  cases existing with
  | some transition =>
    dsimp only at h
    split at h
    next ha => cases h; exact Or.inl ⟨by simp, rfl, stopped_of_acceptsReplay ha⟩
    next => cases h
  | none =>
    cases ht : validateFaultPauseTimestamp input current with
    | error e => simp [ht, bind, Except.bind] at h
    | ok transitionAt =>
      simp only [ht, bind, Except.bind] at h
      cases h
      exact Or.inr ⟨rfl, transitionAt, rfl, rfl⟩

/-- **A valid fault pause is refused for those two reasons and for no other.** -/
theorem decideFaultPause_error_iff (hv : ValidFault input) (hu : IsStrictIso current.updatedAt) :
    (∃ e, decideFaultPause existing current input = .error e) ↔ Refused existing current input := by
  unfold decideFaultPause Refused
  cases existing with
  | some transition => by_cases h : acceptsReplay transition current input <;> simp [h]
  | none =>
    have ht := validateFaultPauseTimestamp_of_valid hv hu
    by_cases hb : Backdated input current
    · rw [if_pos hb] at ht
      simp [ht, hb, bind, Except.bind]
    · rw [if_neg hb] at ht
      obtain ⟨t, ht, -⟩ := ht
      simp [ht, hb, bind, Except.bind]

theorem strict_of_validateFaultPauseTimestamp {t : String} (hu : IsStrictIso current.updatedAt)
    (h : validateFaultPauseTimestamp input current = .ok t) : IsStrictIso t := by
  unfold validateFaultPauseTimestamp at h
  have hc := parse_of_isStrictIso hu "current updatedAt"
  cases hr : parseStrictIsoTimestamp (input.transitionAt.getD input.occurredAt) "transitionAt" with
  | error e => simp [hr, bind, Except.bind] at h
  | ok requested =>
    simp only [hr, hc, bind, Except.bind] at h
    split at h
    · cases h
    · cases h
      split
      · exact hu
      · exact (isStrictIso_of_parse hr).1

end AutoTrade.Operator.State
