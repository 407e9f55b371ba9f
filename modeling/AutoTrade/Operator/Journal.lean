import AutoTrade.Operator.FaultWriters

/-! # The transition log as a journal of the execution state

Every method that writes the execution state also inserts a transition, so the row of an account
should be what the to-fields of its newest transition say (`Journaled`). The methods run as atomic
transactions, in any order and over any accounts; whatever else happens in the other tables between
two of them is one more kind of step. A candidate intent fault is validated before its transaction;
the step here takes any input and any way to move its occurrence.

One branch breaks the journal: `persistCandidateProjectionFault` pauses the row again when its fault
is already recorded, without a new transition. If the account was resumed in between, the row and
the log disagree (`replayed_projection_fault_is_not_journaled`). Where a replayed fault finds its
account still stopped, the journal is kept along every run (`journaled_safe_runs`). -/

namespace AutoTrade.Operator.Journal

open Lib Lib.Result Lib.Run Domain.Types
open Domain.PilotTypes Domain.Timestamp Db.Tables
open Operator.State Operator.SqliteStore Operator.FaultWriters

/-! ### The system -/

inductive Event
  | bootstrap (account : String) (seed : ExecutionStateSeed) (now : ClockText)
    (transitionId : String)
  | command (account : String) (command : OperatorCommand) (clock : ClockReadings)
    (transitionId : String)
  | pauseForFault (account : String) (input : FaultPauseInput)
  | finalizeBoundedSubmissionAbsence (input : FinalizeBoundedSubmissionAbsenceInput)
  | persistCandidateProjectionFault (input : PersistCandidateProjectionFaultInput)
  | pauseForRecoveryFault (parseKind : String → Option JsonKind)
    (input : PauseCandidatePilotForRecoveryFaultInput)
  | pauseForCandidateIntentFault (input : PauseCandidatePilotForRecoveryFaultInput)
    (resolve : List String → Except String String)
  | elsewhere (db : Database)

/-- The database after a transaction that returned, or the one before it. -/
def committed {α : Type} (db : Database) : Except String (α × Database) → Database
  | .ok (_, db') => db'
  | .error _ => db

/-- A command as one transaction. -/
def runCommand (db : Database) (account : String) (command : OperatorCommand)
    (clock : ClockReadings) (transitionId : String) :
    Except String (ExecutionStateRecord × Database) := do
  let current ← getState db account
  match writeCommand db account command clock transitionId current with
  | (db', .ok next) => .ok (next, db')
  | (_, .error e) => .error e

/-- The bootstrap of an account as one transaction. -/
def runBootstrap (db : Database) (account : String) (seed : ExecutionStateSeed) (now : ClockText)
    (transitionId : String) : Except String (Unit × Database) :=
  match createPersistence db account seed now transitionId with
  | (db', .ok ()) => .ok ((), db')
  | (_, .error e) => .error e

def step (db : Database) : Event → Database
  | .bootstrap account seed now transitionId =>
    committed db (runBootstrap db account seed now transitionId)
  | .command account command clock transitionId =>
    committed db (runCommand db account command clock transitionId)
  | .pauseForFault account input => committed db (pauseForFault db account input)
  | .finalizeBoundedSubmissionAbsence input =>
    committed db (finalizeBoundedSubmissionAbsence db input)
  | .persistCandidateProjectionFault input =>
    committed db (persistCandidateProjectionFault db input)
  | .pauseForRecoveryFault parseKind input =>
    committed db (pauseForRecoveryFault parseKind db input)
  | .pauseForCandidateIntentFault input resolve =>
    committed db (pauseForRecoveryFaultAtomically db input (some resolve))
  | .elsewhere other =>
    { other with
      executionState := db.executionState
      executionStateTransitions := db.executionStateTransitions }

/-! ### The journal -/

/-- The transition of the account that was inserted last. -/
def lastTransition (db : Database) (account : String) : Option ExecutionStateTransitionRecord :=
  Table.newest (fun row => row.exchangeAccountId = account) db.executionStateTransitions

/-- **The row of every account is what its newest transition says.** -/
def Journaled (db : Database) : Prop :=
  ∀ account row, getState db account = .ok row →
    ∃ transition, lastTransition db account = some transition ∧ Leads transition row

/-- The journal together with the status of the kill switch. -/
def Inv (db : Database) : Prop :=
  Journaled db ∧ ∀ account row, getState db account = .ok row → KillStatus row

/-- **A safe step**: a projection fault that is already recorded finds its account stopped. -/
def Safe (db : Database) : Event → Prop
  | .persistCandidateProjectionFault input =>
    (selectTransition db input.faultPause.faultId).isSome →
      ∀ row, getState db input.faultPause.exchangeAccountId = .ok row → Stopped row.systemStatus
  | _ => True

variable {db db' : Database}

theorem inv_congr (hs : db'.executionState = db.executionState)
    (ht : db'.executionStateTransitions = db.executionStateTransitions) (h : Inv db) : Inv db' := by
  obtain ⟨hj, hk⟩ := h
  constructor
  · intro account row hrow
    rw [getState_congr hs] at hrow
    obtain ⟨transition, hl, hleads⟩ := hj account row hrow
    refine ⟨transition, ?_, hleads⟩
    unfold lastTransition at hl ⊢
    rw [ht]; exact hl
  · intro account row hrow
    rw [getState_congr hs] at hrow
    exact hk account row hrow

variable {transition : ExecutionStateTransitionRecord} {rows : List ExecutionStateTransitionRecord}

theorem lastTransition_append_self :
    Table.newest (fun row => row.exchangeAccountId = transition.exchangeAccountId)
      (rows ++ [transition]) = some transition :=
  Table.newest_append_of_pos (by simp) rows

variable {account : String}

theorem lastTransition_append_ne (h : account ≠ transition.exchangeAccountId) :
    Table.newest (fun row : ExecutionStateTransitionRecord => row.exchangeAccountId = account)
      (rows ++ [transition]) = Table.newest (fun row => row.exchangeAccountId = account) rows :=
  Table.newest_append_of_neg (by simpa using fun e => h e.symm) rows

/-- **A write with its transition keeps the journal.** The state rows may be written by any update
that reads back like `writeState`. -/
theorem inv_write (account : String) {current next : ExecutionStateRecord} (h : Inv db)
    (hself : getState db' account = .ok (overwrite next current))
    (hother : ∀ other, other ≠ account → getState db' other = getState db other)
    (ht : db'.executionStateTransitions = db.executionStateTransitions ++ [transition])
    (ha : transition.exchangeAccountId = account) (hl : Leads transition next)
    (hk : KillStatus next) : Inv db' := by
  obtain ⟨hj, hks⟩ := h
  subst ha
  constructor
  · intro other row hrow
    unfold lastTransition
    rw [ht]
    by_cases hne : other = transition.exchangeAccountId
    · subst hne
      rw [hself] at hrow
      cases hrow
      exact ⟨transition, lastTransition_append_self, hl⟩
    · rw [lastTransition_append_ne hne]
      rw [hother other hne] at hrow
      exact hj other row hrow
  · intro other row hrow
    by_cases hne : other = transition.exchangeAccountId
    · subst hne
      rw [hself] at hrow
      cases hrow
      exact hk
    · rw [hother other hne] at hrow
      exact hks other row hrow

/-! ### Every step keeps the journal -/

theorem inv_of_untouched (h : Inv db) (hu : Untouched db db') : Inv db' :=
  inv_congr hu.1 hu.2 h

theorem inv_of_pausesAccount (h : Inv db) (hp : PausesAccount db db' account) : Inv db' := by
  obtain ⟨current, reason, transitionAt, transition, -, hself, hother, ht, ha, hl⟩ := hp
  exact inv_write account h hself hother ht ha hl (killStatus_faultPausedState reason transitionAt)

variable {transitionId : String}

theorem inv_bootstrap {seed : ExecutionStateSeed} {now : ClockText} (h : Inv db)
    (hb : runBootstrap db account seed now transitionId = .ok ((), db')) : Inv db' := by
  unfold runBootstrap createPersistence at hb
  dsimp only at hb
  by_cases htaken :
      (Table.select ExecutionStateRecord.exchangeAccountId account db.executionState).isSome ∨
      (Table.select ExecutionStateRecord.id (seedState account seed now).id
        db.executionState).isSome
  · rw [if_pos htaken] at hb
    cases hb
    exact h
  · rw [if_neg htaken] at hb
    have hfree : Table.select ExecutionStateRecord.exchangeAccountId account db.executionState =
        none := by
      have := fun hs => htaken (Or.inl hs)
      simpa using this
    cases hr : recordExecutionStateTransition
        { db with executionState := db.executionState ++ [seedState account seed now] }
        (bootstrapTransition transitionId (seedState account seed now)) with
    | error e => rw [hr] at hb; cases hb
    | ok recorded =>
      rw [hr] at hb
      cases hb
      obtain ⟨-, rfl⟩ := recordExecutionStateTransition_ok hr
      have hself : getState { db with
          executionState := db.executionState ++ [seedState account seed now] } account =
            .ok (overwrite (seedState account seed now) (seedState account seed now)) := by
        rw [getState_ok_iff]
        dsimp only
        rw [Table.select_append, hfree]
        simp [Table.select, seedState, overwrite]
      refine inv_write account h hself (fun other hne => ?_) rfl rfl
        ⟨rfl, rfl, rfl, rfl⟩ (killStatus_seedState account seed now)
      have hcase : Table.select ExecutionStateRecord.exchangeAccountId other
          (db.executionState ++ [seedState account seed now]) =
            Table.select ExecutionStateRecord.exchangeAccountId other db.executionState := by
        rw [Table.select_append]
        have hneq : ¬ (seedState account seed now).exchangeAccountId = other := fun e => hne e.symm
        cases Table.select ExecutionStateRecord.exchangeAccountId other db.executionState with
        | none => simp [Table.select, hneq]
        | some row => rfl
      unfold getState
      rw [hcase]

theorem inv_command {command : OperatorCommand} {clock : ClockReadings}
    {next : ExecutionStateRecord} (h : Inv db)
    (hc : runCommand db account command clock transitionId = .ok (next, db')) : Inv db' := by
  obtain ⟨current, hcur, hc⟩ := bind_eq_ok.mp hc
  unfold writeCommand at hc
  dsimp only at hc
  cases hr : recordExecutionStateTransition
      (writeState db account (updateState killReason command clock current).next)
      (transitionBetween transitionId account (updateState killReason command clock current).command
        (updateState killReason command clock current).reason current
        (updateState killReason command clock current).next) with
  | error e => rw [hr] at hc; cases hc
  | ok recorded =>
    rw [hr] at hc
    cases hc
    obtain ⟨-, rfl⟩ := recordExecutionStateTransition_ok hr
    have hself := getState_writeState_self (updateState killReason command clock current).next hcur
    refine inv_write account h hself (fun other hne => ?_) rfl rfl
      (leads_transitionBetween _ _ _ _ _ _)
      (killStatus_updateState (h.2 account current hcur) command clock)
    exact getState_writeState_ne hne

theorem inv_pauseForFault {input : FaultPauseInput} {result : ExecutionStateRecord} (h : Inv db)
    (hp : pauseForFault db account input = .ok (result, db')) : Inv db' := by
  obtain ⟨ha, current, hc, hcases⟩ := pauseForFault_ok hp
  rcases hcases with ⟨-, rfl, -, -⟩ | ⟨-, transitionAt, -, rfl, rfl⟩
  · exact h
  · have hself := getState_writeState_self
      (faultPausedState current (formatFaultPauseReason input) transitionAt) hc
    refine inv_write account h hself (fun other hne => ?_) rfl ha
      (leads_transitionBetween _ _ _ _ _ _) (killStatus_faultPausedState _ transitionAt)
    exact getState_writeState_ne hne

theorem leads_faultPausedState {row : ExecutionStateRecord} {reason transitionAt : String}
    (hk : KillStatus row) (hs : Stopped row.systemStatus) (hl : Leads transition row) :
    Leads transition (faultPausedState row reason transitionAt) := by
  obtain ⟨h1, h2, h3, h4⟩ := hl
  refine ⟨h1, h2, ?_, h4⟩
  rw [h3]
  unfold faultPausedState
  dsimp only
  rcases hs with hs | hs
  · have hoff : row.killSwitchActive = false := by
      by_contra hon
      have := hk (by simpa using hon)
      rw [hs] at this
      cases this
    simp [hs, hoff]
  · simp [hs]

theorem inv_projectionFault {input : PersistCandidateProjectionFaultInput}
    {outcome : ProjectionFaultOutcome} (h : Inv db)
    (hs : Safe db (.persistCandidateProjectionFault input))
    (hp : persistCandidateProjectionFault db input = .ok (outcome, db')) : Inv db' := by
  rcases persistCandidateProjectionFault_ok hp with ⟨account, hpa⟩ |
    ⟨hrec, current, reason, hc, hst, htr⟩
  · exact inv_of_pausesAccount h hpa
  · -- the replay: the log keeps its newest entry, so the row must keep its status
    have hstop := hs hrec current hc
    have hk := h.2 _ current hc
    have hself := (getState_congr hst input.faultPause.exchangeAccountId).trans
      (getState_writeState_self _ hc)
    have hother : ∀ other, other ≠ input.faultPause.exchangeAccountId →
        getState db' other = getState db other := fun other hne =>
      (getState_congr hst other).trans (getState_writeState_ne hne)
    constructor
    · intro other row hrow
      unfold lastTransition
      rw [htr]
      by_cases hne : other = input.faultPause.exchangeAccountId
      · subst hne
        rw [hself] at hrow
        cases hrow
        obtain ⟨transition, hl, hleads⟩ := h.1 _ current hc
        exact ⟨transition, hl, leads_faultPausedState hk hstop hleads⟩
      · rw [hother other hne] at hrow
        exact h.1 other row hrow
    · intro other row hrow
      by_cases hne : other = input.faultPause.exchangeAccountId
      · subst hne
        rw [hself] at hrow
        cases hrow
        exact killStatus_faultPausedState reason current.updatedAt
      · rw [hother other hne] at hrow
        exact h.2 other row hrow

theorem inv_recoveryFault {input : PauseCandidatePilotForRecoveryFaultInput}
    {resolve : Option (List String → Except String String)} {result : RecoveryFaultResult}
    (h : Inv db) (hr : pauseForRecoveryFaultAtomically db input resolve = .ok (result, db')) :
    Inv db' := by
  rcases pauseForRecoveryFaultAtomically_ok hr with hu | hp
  · exact inv_of_untouched h hu
  · exact inv_of_pausesAccount h hp

theorem inv_committed {α : Type} {db : Database} {x : Except String (α × Database)} (h : Inv db)
    (hx : ∀ a db', x = .ok (a, db') → Inv db') : Inv (committed db x) := by
  cases x with
  | error e => exact h
  | ok out => exact hx out.1 out.2 rfl

/-- **A safe step keeps the journal.** -/
theorem inv_step {db : Database} {e : Event} (h : Inv db) (hs : Safe db e) : Inv (step db e) := by
  cases e with
  | bootstrap account seed now transitionId =>
    exact inv_committed h fun _ _ hb => inv_bootstrap h hb
  | command account command clock transitionId =>
    exact inv_committed h fun _ _ hc => inv_command h hc
  | pauseForFault account input =>
    exact inv_committed h fun _ _ hp => inv_pauseForFault h hp
  | finalizeBoundedSubmissionAbsence input =>
    refine inv_committed h fun _ _ hf => ?_
    rcases finalizeBoundedSubmissionAbsence_ok hf with hu | ⟨account, hp⟩
    · exact inv_of_untouched h hu
    · exact inv_of_pausesAccount h hp
  | persistCandidateProjectionFault input =>
    exact inv_committed h fun _ _ hp => inv_projectionFault h hs hp
  | pauseForRecoveryFault parseKind input =>
    refine inv_committed h fun _ _ hr => ?_
    obtain ⟨-, -, hr⟩ := bind_eq_ok.mp hr
    exact inv_recoveryFault h hr
  | pauseForCandidateIntentFault input resolve =>
    exact inv_committed h fun _ _ hr => inv_recoveryFault h hr
  | elsewhere other => exact inv_congr rfl rfl h

/-! ### Whole runs -/

/-- **The journal is kept along every run whose replayed projection faults find their account
stopped.** -/
theorem journaled_safe_runs (es : List Event) (hs : SafeRun step Safe {} es) :
    Journaled (run step {} es) := by
  have hempty : Inv {} := by
    constructor <;> intro account row hrow <;> cases hrow
  exact (SafeRun.invariant Inv (fun _ _ h he => inv_step h he) hempty hs).1

/-! ### A replayed fault -/

/-- A filled order of the account, and its projection fault. -/
def sampleOrder : OrderRecord where
  id := "order_1"
  strategyDecisionId := some "decision_1"
  exchangeAccountId := "primary"
  market := .krwBtc
  side := .bid
  ordType := .price
  volume := none
  price := some "10000"
  timeInForce := none
  smpType := none
  identifier := "identifier_1"
  idempotencyKey := "key_1"
  origin := .strategy
  requestedAt := "1970-01-01T00:00:00.000Z"
  upbitUuid := some "uuid_1"
  status := .filled
  executionMode := .live
  exchangeResponseJson := none
  failureCode := none
  failureMessage := none
  createdAt := "1970-01-01T00:00:00.000Z"
  updatedAt := "1970-01-01T00:00:00.000Z"

def sampleProjectionFault : PersistCandidateProjectionFaultInput where
  orderId := "order_1"
  event :=
    { id := "candidate-evidence-fault:order_1:UNVERIFIED_FEE_PROVENANCE"
      orderId := "order_1"
      eventType := "CANDIDATE_EVIDENCE_PROJECTION_FAILED"
      eventSource := .reconciliation
      payloadJson := "\x7b\x7d"
      createdAt := "1970-01-01T00:00:00.000Z" }
  faultPause :=
    { exchangeAccountId := "primary"
      faultId := "candidate-evidence-fault:order_1:UNVERIFIED_FEE_PROVENANCE"
      reason := "UNVERIFIED_FEE_PROVENANCE"
      occurredAt := "1970-01-01T00:00:00.000Z"
      transitionAt := some "1970-01-01T00:00:00.000Z" }

/-- An account whose filled order cannot be projected, after the fault paused it. -/
def projectionFaultRun : List Event :=
  [.bootstrap "primary" ⟨.live, .enabled, false⟩ .epoch "transition_1",
    .elsewhere { orders := [sampleOrder] },
    .persistCandidateProjectionFault sampleProjectionFault]

/-- The fault may be replayed while the account is paused. -/
theorem journaled_safe_runs_replay :
    Journaled (run step {}
      (projectionFaultRun ++ [.persistCandidateProjectionFault sampleProjectionFault])) := by
  refine journaled_safe_runs _ ⟨trivial, trivial, fun h => absurd h (by decide), ?_, trivial⟩
  intro _ row hrow
  cases hrow
  decide

/-- **After a resume the replayed fault pauses the row behind the log**: the row says `PAUSED`, the
newest transition `RUNNING`. -/
theorem replayed_projection_fault_is_not_journaled :
    ¬ Journaled (run step {} (projectionFaultRun ++
      [.command "primary" .resume ⟨.epoch, .epoch⟩ "transition_2",
        .persistCandidateProjectionFault sampleProjectionFault])) := by
  intro h
  obtain ⟨transition, hl, -, -, hstatus, -⟩ := h "primary" _ rfl
  cases hl
  cases hstatus

end AutoTrade.Operator.Journal
