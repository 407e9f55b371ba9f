import AutoTrade.Lib.Sequential
import AutoTrade.Pilot.PhaseCalls
import Mathlib.Data.List.Perm.Basic

/-! # Interleaved calls of the pilot repository

Calls that were issued together run in any order and are cut at their awaits. Everything but a fault
pause is one step; a fault pause reads the deployment and the records of its fault, awaits, reads the
execution state, awaits, and writes. Only one fault pause is under way at a time, but any other call
may run between its steps, and its write neither reads the deployment again nor compares it.

When the records that a fault pause has read are still the stored ones at its write, it could as well
have run as a whole at that point, and the run is that of the calls in the order in which they
returned. -/

namespace AutoTrade.Pilot.Linearizability

open Lib.Run Lib.Sequential Domain.Types Domain.PilotTypes
open Operator.State Operator.FaultWriters
open Operator.InMemoryStore (InMemoryOperatorStateStore applyCommand
  applyFaultPauseAtomically)
open Strategy.CandidateState Pilot.InMemoryRepository Pilot.PhaseCalls

/-! ### Calls -/

inductive PilotCall
  | activateDeployment (input : ActivateCandidatePilotDeploymentInput)
  | startRollback (input : CandidatePilotRollbackInput)
  | completeRollback (input : CandidatePilotRollbackInput)
  | advanceStateWithEvidence (input : AdvanceCandidatePilotStateInput)
  | pauseForRecoveryFault (input : PauseCandidatePilotForRecoveryFaultInput)
  | pauseForCandidateIntentFault (input : PauseCandidateIntentFaultInput)
  | operatorCommand (command : OperatorCommand) (clock : ClockReadings)
  | operatorFaultPause (input : FaultPauseInput)

inductive PilotAnswer
  | deployment (answer : Except String (Option PositionGuardPilotDeploymentRecord))
  | advanced (answer : Except String AdvanceCandidatePilotStateResult)
  | paused (answer : Except String PauseCandidatePilotForRecoveryFaultResult)
  | operator (answer : Except String ExecutionStateRecord)
  deriving DecidableEq

section System

variable (sha256Hex : String → String) (parseKind : String → Option JsonKind)
  (parseProvenance : String → Except String CandidateIntentFaultProvenance)

/-- The fault pause that a call makes, or the error of its validation. -/
def faultRequest : PilotCall → Option (Except String FaultRequest)
  | .pauseForRecoveryFault input =>
    some ((validateCandidatePilotRecoveryFaultInput parseKind input).map fun _ => ⟨input, none⟩)
  | .pauseForCandidateIntentFault input =>
    some ((validateCandidateIntentFaultInput sha256Hex parseProvenance input).map fun _ =>
      ⟨input.toPauseCandidatePilotForRecoveryFaultInput, some input⟩)
  | _ => none

/-- A call without an await; a fault pause is none. -/
def runAtOnce (stores : PilotStores) : PilotCall → PilotAnswer × PilotStores
  | .activateDeployment input =>
    let (answer, repo) := activateDeployment stores.repo input
    (.deployment answer, { stores with repo })
  | .startRollback input =>
    let (answer, stores) := startRollback stores input
    (.deployment answer, stores)
  | .completeRollback input =>
    let (answer, stores) := completeRollback stores input
    (.deployment answer, stores)
  | .advanceStateWithEvidence input =>
    let (answer, repo) := advanceStateWithEvidence sha256Hex stores.repo input
    (.advanced answer, { stores with repo })
  | .operatorCommand command clock =>
    let operator := applyCommand stores.operator command clock
    (.operator (.ok operator.state), { stores with operator })
  | .operatorFaultPause input =>
    match applyFaultPauseAtomically stores.operator input with
    | .ok operator => (.operator (.ok operator.state), { stores with operator })
    | .error e => (.operator (.error e), stores)
  | .pauseForRecoveryFault _ | .pauseForCandidateIntentFault _ => (.paused (.error ""), stores)

/-- The last step of a fault pause. -/
def finishFault (stores : PilotStores) (request : FaultRequest) (reads : FaultReads)
    (executionState : ExecutionStateRecord) : PilotAnswer × PilotStores :=
  match writeFault sha256Hex parseProvenance stores request reads executionState with
  | .ok (result, stores') => (.paused (.ok result), stores')
  | .error e => (.paused (.error e), stores)

/-- The call on its own. -/
def runCall (stores : PilotStores) (call : PilotCall) : PilotAnswer × PilotStores :=
  match faultRequest sha256Hex parseKind parseProvenance call with
  | none => runAtOnce sha256Hex stores call
  | some (.error e) => (.paused (.error e), stores)
  | some (.ok request) =>
    match readFault stores request with
    | .error e => (.paused (.error e), stores)
    | .ok reads => finishFault sha256Hex parseProvenance stores request reads stores.operator.state

/-! ### Interleavings -/

/-- The fault pause under way: it awaits the transition of its id, or the execution state. -/
inductive Waiting
  | transition (call : PilotCall) (request : FaultRequest) (reads : FaultReads)
  | state (call : PilotCall) (request : FaultRequest) (reads : FaultReads)
      (executionState : ExecutionStateRecord)

def Waiting.call : Waiting → PilotCall
  | transition call _ _ => call
  | state call _ _ _ => call

/-- The stores, the calls that have not run yet, the fault pause under way and the calls that
returned, with their answers. -/
structure Config where
  stores : PilotStores
  issued : List PilotCall
  waiting : Option Waiting
  returned : List (PilotCall × PilotAnswer)

/-- The issued call at an index runs up to its first await in the repository, or the fault pause under
way continues. -/
inductive Event
  | start (index : ℕ)
  | resume

def Config.answer (cfg : Config) (call : PilotCall) (outcome : PilotAnswer × PilotStores) : Config :=
  { cfg with stores := outcome.2, returned := cfg.returned ++ [(call, outcome.1)] }

/-- A fault pause takes its turn in the chain of fault pauses and reads. -/
def startFault (cfg : Config) (index : ℕ) (call : PilotCall) (request : FaultRequest) : Config :=
  match cfg.waiting with
  | some _ => cfg
  | none =>
    let started := { cfg with issued := cfg.issued.eraseIdx index }
    match readFault cfg.stores request with
    | .error e => started.answer call (.paused (.error e), cfg.stores)
    | .ok reads => { started with waiting := some (.transition call request reads) }

def startCall (cfg : Config) (index : ℕ) (call : PilotCall) : Config :=
  let started := { cfg with issued := cfg.issued.eraseIdx index }
  match faultRequest sha256Hex parseKind parseProvenance call with
  | none => started.answer call (runAtOnce sha256Hex cfg.stores call)
  | some (.error e) => started.answer call (.paused (.error e), cfg.stores)
  | some (.ok request) => startFault cfg index call request

def resumeFault (cfg : Config) : Waiting → Config
  | .transition call request reads =>
    { cfg with waiting := some (.state call request reads cfg.stores.operator.state) }
  | .state call request reads executionState =>
    let done := { cfg with waiting := none }
    done.answer call
      (finishFault sha256Hex parseProvenance cfg.stores request reads executionState)

def step (cfg : Config) : Event → Config
  | .start index =>
    match cfg.issued[index]? with
    | none => cfg
    | some call => startCall sha256Hex parseKind parseProvenance cfg index call
  | .resume =>
    match cfg.waiting with
    | none => cfg
    | some waiting => resumeFault sha256Hex parseProvenance cfg waiting

def start (stores : PilotStores) (calls : List PilotCall) : Config := ⟨stores, calls, none, []⟩

/-- **The records that the fault pause has read are the stored ones** when it writes. -/
def Current (cfg : Config) : Event → Prop
  | .resume =>
    match cfg.waiting with
    | some (.state _ request reads executionState) =>
      readFault cfg.stores request = .ok reads ∧ cfg.stores.operator.state = executionState
    | _ => True
  | .start _ => True

instance (cfg : Config) (e : Event) : Decidable (Current cfg e) := by
  unfold Current
  split
  · split <;> infer_instance
  · infer_instance

/-- The stores and the answers are those of the same calls run one after the other in some order. -/
def Linearizable (stores : PilotStores) (cfg : Config) : Prop :=
  ∃ history : List (PilotCall × PilotAnswer), history.Perm cfg.returned ∧
    sequential (runCall sha256Hex parseKind parseProvenance) stores (history.map Prod.fst) =
      (history.map Prod.snd, cfg.stores)

end System

/-! ### The invariant -/

section Invariant

variable {sha256Hex : String → String} {parseKind : String → Option JsonKind}
  {parseProvenance : String → Except String CandidateIntentFaultProvenance}

def Waiting.request : Waiting → FaultRequest
  | transition _ request _ => request
  | state _ request _ _ => request

/-- The calls that returned, in their order, are a sequential history; the others are still issued or
under way. -/
structure Sequenced (sha256Hex : String → String) (parseKind : String → Option JsonKind)
    (parseProvenance : String → Except String CandidateIntentFaultProvenance) (stores : PilotStores)
    (calls : List PilotCall) (cfg : Config) : Prop where
  history : sequential (runCall sha256Hex parseKind parseProvenance) stores
    (cfg.returned.map Prod.fst) = (cfg.returned.map Prod.snd, cfg.stores)
  calls : (cfg.returned.map Prod.fst ++ (cfg.waiting.map Waiting.call).toList ++ cfg.issued).Perm calls
  request : ∀ w ∈ cfg.waiting,
    faultRequest sha256Hex parseKind parseProvenance w.call = some (.ok w.request)

variable {stores : PilotStores} {calls : List PilotCall} {cfg : Config}

variable {call : PilotCall} {outcome : PilotAnswer × PilotStores}

theorem history_answer (h : sequential (runCall sha256Hex parseKind parseProvenance) stores
      (cfg.returned.map Prod.fst) = (cfg.returned.map Prod.snd, cfg.stores))
    (houtcome : outcome = runCall sha256Hex parseKind parseProvenance cfg.stores call) :
    sequential (runCall sha256Hex parseKind parseProvenance) stores
      ((cfg.answer call outcome).returned.map Prod.fst) =
        ((cfg.answer call outcome).returned.map Prod.snd, (cfg.answer call outcome).stores) := by
  unfold Config.answer
  dsimp only
  rw [List.map_append, List.map_append, List.map_singleton, List.map_singleton, sequential_concat, h,
    houtcome]

variable {index : ℕ}

theorem perm_eraseIdx {issued : List PilotCall} (hcall : issued[index]? = some call) :
    (call :: issued.eraseIdx index).Perm issued := by
  obtain ⟨hlt, rfl⟩ := List.getElem?_eq_some_iff.mp hcall
  exact List.getElem_cons_eraseIdx_perm hlt

section

variable (h : Sequenced sha256Hex parseKind parseProvenance stores calls cfg)
  (hcall : cfg.issued[index]? = some call)
include h hcall

theorem sequenced_answer
    (houtcome : outcome = runCall sha256Hex parseKind parseProvenance cfg.stores call) :
    Sequenced sha256Hex parseKind parseProvenance stores calls
      (Config.answer { cfg with issued := cfg.issued.eraseIdx index } call outcome) where
  history := history_answer h.history houtcome
  calls := by
    refine List.Perm.trans ?_ h.calls
    unfold Config.answer
    dsimp only
    rw [List.map_append, List.map_singleton]
    have hswap : (cfg.returned.map Prod.fst ++ [call] ++ (cfg.waiting.map Waiting.call).toList ++
        cfg.issued.eraseIdx index).Perm (cfg.returned.map Prod.fst ++
          (cfg.waiting.map Waiting.call).toList ++ (call :: cfg.issued.eraseIdx index)) := by
      rw [List.append_assoc, List.append_assoc, List.append_assoc, List.singleton_append]
      exact List.Perm.append_left _ List.perm_middle.symm
    exact hswap.trans (List.Perm.append_left _ (perm_eraseIdx hcall))
  request := h.request

theorem sequenced_startCall :
    Sequenced sha256Hex parseKind parseProvenance stores calls
      (startCall sha256Hex parseKind parseProvenance cfg index call) := by
  unfold startCall
  cases hrequest : faultRequest sha256Hex parseKind parseProvenance call with
  | none =>
    refine sequenced_answer h hcall ?_
    unfold runCall
    rw [hrequest]
  | some validated =>
    cases validated with
    | error e =>
      refine sequenced_answer h hcall ?_
      unfold runCall
      rw [hrequest]
    | ok request =>
      dsimp only
      unfold startFault
      cases hwaiting : cfg.waiting with
      | some w => exact h
      | none =>
        dsimp only
        cases hreads : readFault cfg.stores request with
        | error e =>
          have houtcome : (PilotAnswer.paused (.error e), cfg.stores) =
              runCall sha256Hex parseKind parseProvenance cfg.stores call := by
            unfold runCall
            rw [hrequest]
            dsimp only
            rw [hreads]
          have hanswer := sequenced_answer h hcall houtcome
          rw [hwaiting] at hanswer
          exact hanswer
        | ok reads =>
          refine ⟨h.history, List.Perm.trans ?_ h.calls, ?_⟩
          · dsimp only
            rw [hwaiting, List.append_assoc, List.append_assoc]
            exact List.Perm.append_left _ (perm_eraseIdx hcall)
          · intro w hw
            obtain rfl := Option.mem_some_iff.mp hw
            exact hrequest

end

theorem finishFault_eq_runCall {request : FaultRequest} {reads : FaultReads}
    {executionState : ExecutionStateRecord}
    (hrequest : faultRequest sha256Hex parseKind parseProvenance call = some (.ok request))
    (hreads : readFault stores request = .ok reads)
    (hstate : stores.operator.state = executionState) :
    finishFault sha256Hex parseProvenance stores request reads executionState =
      runCall sha256Hex parseKind parseProvenance stores call := by
  unfold runCall
  rw [hrequest]
  dsimp only
  rw [hreads, hstate]

theorem sequenced_step {e : Event}
    (h : Sequenced sha256Hex parseKind parseProvenance stores calls cfg) (hcurrent : Current cfg e) :
    Sequenced sha256Hex parseKind parseProvenance stores calls
      (step sha256Hex parseKind parseProvenance cfg e) := by
  cases e with
  | start index =>
    unfold step
    dsimp only
    cases hcall : cfg.issued[index]? with
    | none => exact h
    | some call => exact sequenced_startCall h hcall
  | resume =>
    unfold step
    dsimp only
    cases hwaiting : cfg.waiting with
    | none => exact h
    | some w =>
      have hrequest := h.request w hwaiting
      have hcalls := h.calls
      rw [hwaiting] at hcalls
      cases w with
      | transition call request reads =>
        refine ⟨h.history, hcalls, ?_⟩
        intro w hw
        obtain rfl := Option.mem_some_iff.mp hw
        exact hrequest
      | state call request reads executionState =>
        unfold Current at hcurrent
        rw [hwaiting] at hcurrent
        obtain ⟨hreads, hstate⟩ := hcurrent
        refine ⟨history_answer h.history (finishFault_eq_runCall hrequest hreads hstate), ?_, ?_⟩
        · refine List.Perm.trans ?_ hcalls
          unfold resumeFault Config.answer
          simp [Waiting.call]
        · simp [resumeFault, Config.answer]

/-- **Runs on current reads are linearizable.** Of calls that were issued together and interleaved at
their awaits, those that returned gave the answers and left the stores of a sequential order of these
calls, if each fault pause that wrote did so on records that were still the stored ones. -/
theorem current_runs_linearizable (stores : PilotStores) (calls : List PilotCall)
    {events : List Event}
    (hcurrent : SafeRun (step sha256Hex parseKind parseProvenance) Current (start stores calls)
      events) :
    let cfg := run (step sha256Hex parseKind parseProvenance) (start stores calls) events
    Linearizable sha256Hex parseKind parseProvenance stores cfg ∧
      (cfg.issued = [] → cfg.waiting = none → (cfg.returned.map Prod.fst).Perm calls) := by
  have hsequenced := hcurrent.invariant
    (Sequenced sha256Hex parseKind parseProvenance stores calls)
    (fun _ _ hcfg hsafe => sequenced_step hcfg hsafe) ⟨rfl, by simp [start], by simp [start]⟩
  refine ⟨⟨_, List.Perm.refl _, hsequenced.history⟩, fun hissued hwaiting => ?_⟩
  simpa [hissued, hwaiting] using hsequenced.calls

end Invariant

/-! ### A fault pause that overwrites a rollback -/

def sampleDeployment : PositionGuardPilotDeploymentRecord where
  id := "deployment"
  exchangeAccountId := "account"
  phase := .pendingFlat
  activationAt := none
  activationEpochNs := none
  createdAt := "2026-01-01T00:00:00.000Z"
  updatedAt := "2026-01-01T00:00:00.000Z"

def sampleActivation : ActivateCandidatePilotDeploymentInput where
  deploymentId := "deployment"
  expectedPhase := .pendingFlat
  expectedUpdatedAt := "2026-01-01T00:00:00.000Z"
  activationAt := "2026-01-01T00:01:00.000Z"
  activationEpochNs := 1767225660000000000

def sampleOperatorState : ExecutionStateRecord where
  id := "state"
  exchangeAccountId := "account"
  executionMode := .live
  liveExecutionGate := .enabled
  systemStatus := .paused
  killSwitchActive := false
  pauseReason := some "operator"
  degradedReason := none
  degradedAt := none
  updatedAt := "2026-01-01T00:02:00.000Z"

/-- A created and activated deployment of a paused account. -/
def sampleStores : PilotStores where
  repo := (activateDeployment (createDeploymentWithInitialState .empty sampleDeployment
    createEmptyPositionGuardCandidateState).2 sampleActivation).2
  operator := AutoTrade.Operator.InMemoryStore.create sampleOperatorState

def sampleFault : PilotCall := .pauseForRecoveryFault
  ⟨"deployment", "account", "fault", "STALE_SNAPSHOT", "\x7b\x7d", "2026-01-01T00:04:00.000Z"⟩

def sampleRollback : PilotCall := .completeRollback
  ⟨"deployment", .active, "2026-01-01T00:01:00.000Z", 0,
    ⟨"state", "account", .paused, "2026-01-01T00:02:00.000Z"⟩, "2026-01-01T00:03:00.000Z",
    1767225780000000000⟩

/-- `JSON.parse` of the empty object; other texts do not occur. -/
def parseEmptyObject (text : String) : Option JsonKind :=
  if text = "\x7b\x7d" then some .object else none

/-- The system on inputs whose digests and provenances are not read. -/
def sampleStep : Config → Event → Config :=
  step (fun _ => "") parseEmptyObject fun _ => .error "no provenance"

theorem eq_or_reverse_of_perm {α : Type} {l l' : List α} (h : l.Perm l') (hlength : l'.length = 2) :
    l = l' ∨ l = l'.reverse := by
  obtain ⟨a, b, rfl⟩ := List.length_eq_two.mp hlength
  obtain ⟨x, y, rfl⟩ := List.length_eq_two.mp h.length_eq
  have hx : x = a ∨ x = b := by simpa using h.subset (List.mem_cons_self ..)
  rcases hx with rfl | rfl
  · obtain rfl : y = b := List.singleton_perm_singleton.mp ((List.perm_cons x).mp h)
    exact Or.inl rfl
  · have hswap := h.trans (List.Perm.swap x a [])
    obtain rfl : y = a := List.singleton_perm_singleton.mp ((List.perm_cons x).mp hswap)
    exact Or.inr rfl

/-- **A fault pause overwrites a rollback.** Both calls are issued together; the fault pause reads the
active deployment, the rollback disables it, and then the fault pause stores it as paused. No order of
the two calls gives these answers: after the rollback the fault pause throws, and after the fault
pause the rollback has lost its authority. -/
theorem fault_pause_overwrites_rollback :
    ∃ events,
      let cfg := run sampleStep (start sampleStores [sampleFault, sampleRollback]) events
      cfg.issued.length = 0 ∧ cfg.waiting.isNone ∧
        ((cfg.stores.repo.deployment "deployment").map (·.phase)) = some .pausedFault ∧
        ¬ Linearizable (fun _ => "") parseEmptyObject (fun _ => .error "no provenance") sampleStores
          cfg := by
  refine ⟨[.start 0, .start 0, .resume, .resume], by decide +kernel, by decide +kernel,
    by decide +kernel, ?_⟩
  rintro ⟨history, hperm, hsequential⟩
  have hanswers := congrArg Prod.fst hsequential
  rcases eq_or_reverse_of_perm hperm (by decide +kernel) with rfl | rfl
  · revert hanswers
    decide +kernel
  · revert hanswers
    decide +kernel

/-- The same calls, the rollback after the fault pause. -/
theorem current_runs_linearizable_two :
    SafeRun sampleStep Current (start sampleStores [sampleFault, sampleRollback])
        [.start 0, .resume, .resume, .start 0] ∧
      Linearizable (fun _ => "") parseEmptyObject (fun _ => .error "no provenance") sampleStores
        (run sampleStep (start sampleStores [sampleFault, sampleRollback])
          [.start 0, .resume, .resume, .start 0]) := by
  have hcurrent : SafeRun sampleStep Current (start sampleStores [sampleFault, sampleRollback])
      [.start 0, .resume, .resume, .start 0] := by decide +kernel
  exact ⟨hcurrent, (current_runs_linearizable sampleStores [sampleFault, sampleRollback] hcurrent).1⟩

end AutoTrade.Pilot.Linearizability
