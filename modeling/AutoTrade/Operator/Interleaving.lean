import AutoTrade.Operator.SqliteStore
import Mathlib.Data.List.Induction
import Mathlib.Logic.Function.Basic
import Mathlib.Order.Lattice

/-! # Interleaved operator commands

The commands of `SqliteOperatorStateStore` on one account, each cut at its awaited read: a call
reads the row, other calls run, and then it writes the row it computed from its snapshot.
`pauseForFault` is one transaction.

Nothing compares the snapshot with the row at the write, so a stop that falls between the two halves
of another command can be lost: `stale_resume_clears_stops` has the shortest runs. `Safe` is the
condition on a write under which it loses no stop, and a run of safe writes keeps both the kill
switch and the fault pauses (`stops_survive_safe_runs`).

To say which fault pauses a call has seen, the configuration counts them: `faults` is the number of
fault pauses applied, `lifted` the number of them that some resume had read when it wrote, and a call
carries the number applied before its read. -/

namespace AutoTrade.Operator.Interleaving

open Lib Lib.Run Domain.Types Domain.Timestamp
open Db.Tables Operator.State Operator.SqliteStore

/-! ### The system -/

/-- Where a call stands. -/
inductive Call
  | idle
  | read (command : OperatorCommand) (snapshot : ExecutionStateRecord) (seen : ℕ)
  | written

structure Config where
  db : Database
  calls : ℕ → Call
  faults : ℕ
  lifted : ℕ

inductive Event
  | read (call : ℕ) (command : OperatorCommand)
  | write (call : ℕ) (clock : ClockReadings) (transitionId : String)
  | fault (input : FaultPauseInput)

/-- The fault pause writes: its id is not recorded and it is not refused. -/
def Applies (db : Database) (account : String) (input : FaultPauseInput) : Prop :=
  selectTransition db input.faultId = none ∧ ∃ out, pauseForFault db account input = .ok out

section System
variable (account : String)

def step (cfg : Config) : Event → Config
  | .read call command =>
    match cfg.calls call, getState cfg.db account with
    | .idle, .ok row =>
      { cfg with calls := Function.update cfg.calls call (.read command row cfg.faults) }
    | _, _ => cfg
  | .write call clock transitionId =>
    match cfg.calls call with
    | .read command snapshot seen =>
      { cfg with
        db := (writeCommand cfg.db account command clock transitionId snapshot).1
        calls := Function.update cfg.calls call .written
        lifted := if command = .resume then max cfg.lifted seen else cfg.lifted }
    | _ => cfg
  | .fault input =>
    match selectTransition cfg.db input.faultId, pauseForFault cfg.db account input with
    | none, .ok (_, db) => { cfg with db, faults := cfg.faults + 1 }
    | _, _ => cfg

/-- A bootstrapped account, before any call. -/
def start (seed : ExecutionStateSeed) (now : ClockText) (transitionId : String) : Config where
  db := (createPersistence {} account seed now transitionId).1
  calls := fun _ => .idle
  faults := 0
  lifted := 0

/-- The write of `command` over a snapshot keeps the system stopped. -/
def KeepsStop (command : OperatorCommand) (snapshot : ExecutionStateRecord) : Prop :=
  command.isPause = true ∨ command.isActivateKillSwitch = true ∨
    snapshot.killSwitchActive = true ∨ (Stopped snapshot.systemStatus ∧ command ≠ .resume)

instance (command : OperatorCommand) (snapshot : ExecutionStateRecord) :
    Decidable (KeepsStop command snapshot) := by
  unfold KeepsStop; infer_instance

/-- **A safe write**: it does not overwrite a kill switch that its read had not seen, and where a
fault pause newer than its read is still in force, it keeps the system stopped. -/
def Safe (cfg : Config) : Event → Prop
  | .write call _ _ =>
    match cfg.calls call, getState cfg.db account with
    | .read command snapshot seen, .ok row =>
      (row.killSwitchActive = true →
        snapshot.killSwitchActive = true ∨ command.isActivateKillSwitch = true) ∧
      (max seen cfg.lifted < cfg.faults → KeepsStop command snapshot)
    | _, _ => True
  | _ => True

instance (cfg : Config) (e : Event) : Decidable (Safe account cfg e) := by
  unfold Safe; split <;> (try split) <;> infer_instance

end System

/-- Some resume is both read and written within the events. -/
def LiftedIn (es : List Event) : Prop :=
  ∃ es₁ call clock transitionId es₂,
    es = es₁ ++ .write call clock transitionId :: es₂ ∧ .read call .resume ∈ es₁

theorem LiftedIn.append {es : List Event} (h : LiftedIn es) (fs : List Event) :
    LiftedIn (es ++ fs) := by
  obtain ⟨es₁, call, clock, id, es₂, rfl, hr⟩ := h
  exact ⟨es₁, call, clock, id, es₂ ++ fs, by simp, hr⟩

/-! ### What a write leaves in the row -/

variable {command : OperatorCommand}

/-- A write that keeps the stop leaves a stopped row. -/
theorem stopped_updateState {snapshot : ExecutionStateRecord} (hk : KillStatus snapshot)
    (h : KeepsStop command snapshot) (clock : ClockReadings) :
    Stopped (updateState killReason command clock snapshot).next.systemStatus := by
  by_cases hks : snapshot.killSwitchActive = true
  · refine Or.inr (killStatus_updateState hk command clock ?_)
    rw [updateState_killSwitchActive, hks, Bool.true_or]
  · rcases h with h | h | h | ⟨hs, hne⟩
    · cases command with
      | pause reason => exact Or.inl (by simp [updateState, pause, hks])
      | _ => simp [OperatorCommand.isPause] at h
    · cases command with
      | activateKillSwitch reason => exact Or.inr rfl
      | _ => simp [OperatorCommand.isActivateKillSwitch] at h
    · exact absurd h hks
    · cases command with
      | pause reason => exact Or.inl (by simp [updateState, pause, hks])
      | resume => exact absurd rfl hne
      | activateKillSwitch reason => exact Or.inr rfl
      | setExecutionMode mode => exact hs
      | setLiveExecutionGate gate => exact hs
      | markDegraded reason =>
        rcases hs with hs | hs
        · exact Or.inl (by simp [updateState, markDegraded, resolveSystemStatusForDegradation, hs,
            hks])
        · exact Or.inr (by simp [updateState, markDegraded, resolveSystemStatusForDegradation, hs])
      | clearDegraded reason =>
        rcases hs with hs | hs
        · exact Or.inl (by simp [updateState, clearDegraded, hs])
        · exact Or.inr (by simp [updateState, clearDegraded, hs])

/-! ### What a step can do -/

/-- **What a step can do**, with the row before it: nothing, a read, a write, or a fault pause. -/
inductive Moves (account : String) (cfg : Config) (row : ExecutionStateRecord) :
    Event → Config → Prop
  | still (e : Event) : Moves account cfg row e cfg
  | read (call : ℕ) (command : OperatorCommand) : cfg.calls call = .idle →
    Moves account cfg row (.read call command)
      { cfg with calls := Function.update cfg.calls call (.read command row cfg.faults) }
  | write (call : ℕ) (clock : ClockReadings) (transitionId : String) (command : OperatorCommand)
    (snapshot : ExecutionStateRecord) (seen : ℕ) (db : Database) :
    cfg.calls call = .read command snapshot seen →
    getState db account = .ok (overwrite (updateState killReason command clock snapshot).next row) →
    Moves account cfg row (.write call clock transitionId)
      { cfg with
        db
        calls := Function.update cfg.calls call .written
        lifted := if command = .resume then max cfg.lifted seen else cfg.lifted }
  | fault (input : FaultPauseInput) (reason transitionAt : String) (db : Database) :
    Applies cfg.db account input →
    getState db account = .ok (overwrite (faultPausedState row reason transitionAt) row) →
    Moves account cfg row (.fault input) { cfg with db, faults := cfg.faults + 1 }

variable {account : String} {cfg : Config}

theorem step_fault_of_applies {input : FaultPauseInput} (h : Applies cfg.db account input) :
    (step account cfg (.fault input)).lifted = cfg.lifted ∧
      (step account cfg (.fault input)).faults = cfg.faults + 1 ∧
      (step account cfg (.fault input)).calls = cfg.calls := by
  obtain ⟨hfresh, ⟨result, db⟩, hp⟩ := h
  simp only [step, hfresh, hp, and_self]

variable {row : ExecutionStateRecord}

theorem moves_step (hrow : getState cfg.db account = .ok row) (e : Event) :
    Moves account cfg row e (step account cfg e) := by
  cases e with
  | read call command =>
    cases hc : cfg.calls call with
    | idle => simpa only [step, hc, hrow] using Moves.read call command hc
    | read c snapshot seen => simpa only [step, hc, hrow] using Moves.still _
    | written => simpa only [step, hc, hrow] using Moves.still _
  | write call clock transitionId =>
    unfold step
    dsimp only
    split
    next command snapshot seen hc =>
      refine .write call clock transitionId command snapshot seen _ hc ?_
      exact (getState_congr (writeCommand_executionState ..) account).trans
        (getState_writeState_self _ hrow)
    next => exact .still _
  | fault input =>
    unfold step
    dsimp only
    split
    next result db hn hp =>
      obtain ⟨ha, current, hc, hcases⟩ := pauseForFault_ok hp
      rw [hrow] at hc
      cases hc
      rcases hcases with ⟨hr, -, -, -⟩ | ⟨-, t, -, rfl, rfl⟩
      · exact absurd hn hr
      · exact .fault input _ t _ ⟨hn, _, hp⟩ (getState_writeState_self _ hrow)
    next => exact .still _

/-! ### The invariant -/

/-- **The invariant.** While a fault pause is in force the row is stopped, and so is every snapshot
that was read since. -/
structure Held (account : String) (cfg : Config) (row : ExecutionStateRecord) : Prop where
  row_eq : getState cfg.db account = .ok row
  kill : KillStatus row
  lifted_le : cfg.lifted ≤ cfg.faults
  stopped : cfg.lifted < cfg.faults → Stopped row.systemStatus
  snapshot : ∀ call command snap seen, cfg.calls call = .read command snap seen →
    KillStatus snap ∧ seen ≤ cfg.faults ∧ (cfg.lifted < seen → Stopped snap.systemStatus)

theorem held_start (account : String) (seed : ExecutionStateSeed) (now : ClockText)
    (transitionId : String) :
    Held account (start account seed now transitionId) (seedState account seed now) where
  row_eq := by
    unfold start createPersistence recordExecutionStateTransition Table.insert getState
    simp [Table.select, seedState]
  kill := killStatus_seedState account seed now
  lifted_le := le_refl 0
  stopped := fun h => absurd h (lt_irrefl 0)
  snapshot := by
    intro call command snap seen hc
    cases hc

/-- A write of a call whose read is known keeps the invariant, if it is safe. -/
theorem held_write {row snapshot : ExecutionStateRecord} {call : ℕ} {clock : ClockReadings}
    {transitionId : String} {seen : ℕ} {db : Database} (h : Held account cfg row)
    (hc : cfg.calls call = .read command snapshot seen)
    (hdb : getState db account =
      .ok (overwrite (updateState killReason command clock snapshot).next row))
    (hs : Safe account cfg (.write call clock transitionId)) :
    Held account
      { cfg with
        db
        calls := Function.update cfg.calls call .written
        lifted := if command = .resume then max cfg.lifted seen else cfg.lifted }
      (overwrite (updateState killReason command clock snapshot).next row) := by
  obtain ⟨hk, hseen, hsnap⟩ := h.snapshot call command snapshot seen hc
  have hl := h.lifted_le
  have hkeeps : max seen cfg.lifted < cfg.faults → KeepsStop command snapshot := by
    unfold Safe at hs
    simp only [hc, h.row_eq] at hs
    exact hs.2
  have hmono : cfg.lifted ≤ (if command = .resume then max cfg.lifted seen else cfg.lifted) := by
    split
    · exact le_max_left _ _
    · exact le_refl _
  refine ⟨hdb, killStatus_updateState hk command clock, ?_, fun hlt => ?_, ?_⟩
  · dsimp only
    split
    · exact max_le hl hseen
    · exact hl
  · refine stopped_updateState hk ?_ clock
    by_cases hold : max seen cfg.lifted < cfg.faults
    · exact hkeeps hold
    · -- the call has read every fault pause, so it is no resume and its snapshot is stopped
      have hne : command ≠ .resume := by
        rintro rfl
        simp only [if_true] at hlt
        omega
      simp only [hne, if_false] at hlt
      have hread : cfg.lifted < seen := by omega
      exact Or.inr (Or.inr (Or.inr ⟨hsnap hread, hne⟩))
  · intro other c snap n ho
    have hne : other ≠ call := by
      rintro rfl
      simp at ho
    simp only [ne_eq, hne, not_false_eq_true, Function.update_of_ne] at ho
    obtain ⟨h1, h2, h3⟩ := h.snapshot other c snap n ho
    exact ⟨h1, h2, fun hlt => h3 (lt_of_le_of_lt hmono hlt)⟩

theorem held_read (h : Held account cfg row) (call : ℕ) (command : OperatorCommand) :
    Held account
      { cfg with calls := Function.update cfg.calls call (.read command row cfg.faults) } row := by
  refine ⟨h.row_eq, h.kill, h.lifted_le, h.stopped, ?_⟩
  intro other c snap n ho
  by_cases hne : other = call
  · subst hne
    simp only [Function.update_self, Call.read.injEq] at ho
    obtain ⟨-, rfl, rfl⟩ := ho
    exact ⟨h.kill, le_refl _, h.stopped⟩
  · simp only [ne_eq, hne, not_false_eq_true, Function.update_of_ne] at ho
    exact h.snapshot other c snap n ho

theorem held_fault (h : Held account cfg row) {reason transitionAt : String} {db : Database}
    (hdb : getState db account = .ok (overwrite (faultPausedState row reason transitionAt) row)) :
    Held account { cfg with db, faults := cfg.faults + 1 }
      (overwrite (faultPausedState row reason transitionAt) row) := by
  have hl := h.lifted_le
  refine ⟨hdb, killStatus_faultPausedState reason transitionAt, by dsimp only; omega,
    fun _ => stopped_faultPausedState row reason transitionAt, ?_⟩
  intro call c snap n hc
  obtain ⟨h1, h2, h3⟩ := h.snapshot call c snap n hc
  exact ⟨h1, by dsimp only; omega, h3⟩

/-- **A safe step keeps the invariant**, and the kill switch. -/
theorem held_step (h : Held account cfg row) {e : Event} (hs : Safe account cfg e) :
    ∃ row', Held account (step account cfg e) row' ∧
      (row.killSwitchActive = true → row'.killSwitchActive = true) := by
  have hm := moves_step h.row_eq e
  generalize step account cfg e = cfg' at hm
  cases hm with
  | still => exact ⟨row, h, id⟩
  | read call command hc => exact ⟨row, held_read h call command, id⟩
  | write call clock transitionId command snapshot seen db hc hdb =>
    refine ⟨_, held_write h hc hdb hs, fun hk => ?_⟩
    unfold Safe at hs
    simp only [hc, h.row_eq] at hs
    have hsw : snapshot.killSwitchActive = true ∨ command.isActivateKillSwitch = true :=
      hs.1 hk
    change (updateState killReason command clock snapshot).next.killSwitchActive = true
    rw [updateState_killSwitchActive, Bool.or_eq_true]
    exact hsw
  | fault input reason transitionAt db ha hdb => exact ⟨_, held_fault h hdb, id⟩

/-- The kill switch is on in the row. -/
def Killed (account : String) (cfg : Config) : Prop :=
  ∃ row, Held account cfg row ∧ row.killSwitchActive = true

theorem killed_step {e : Event} (h : Killed account cfg) (hs : Safe account cfg e) :
    Killed account (step account cfg e) := by
  obtain ⟨row, hrow, hk⟩ := h
  obtain ⟨row', hrow', hkeep⟩ := held_step hrow hs
  exact ⟨row', hrow', hkeep hk⟩

theorem killed_write {row snapshot : ExecutionStateRecord} {call seen : ℕ} {reason : Option String}
    (clock : ClockReadings) (transitionId : String) (h : Held account cfg row)
    (hc : cfg.calls call = .read (.activateKillSwitch reason) snapshot seen)
    (hs : Safe account cfg (.write call clock transitionId)) :
    Killed account (step account cfg (.write call clock transitionId)) := by
  have hdb := (getState_congr (writeCommand_executionState cfg.db account
    (.activateKillSwitch reason) clock transitionId snapshot) account).trans
    (getState_writeState_self _ h.row_eq)
  unfold step
  simp only [hc]
  exact ⟨_, held_write h hc hdb hs, rfl⟩

/-! ### Fault pauses that no resume has read -/

/-- As long as no resume is both read and written in the events, the fault pauses after the first
`n` stay in force. -/
theorem lifted_le_of_not_liftedIn {n : ℕ} (hrow : ∃ row, Held account cfg row) (hl : cfg.lifted ≤ n)
    (hf : n < cfg.faults)
    (hcalls : ∀ call command snap seen, cfg.calls call = .read command snap seen → seen ≤ n)
    {es : List Event} (hs : SafeRun (step account) (Safe account) cfg es) :
    n < (run (step account) cfg es).faults ∧
      (∀ call snap seen, (run (step account) cfg es).calls call = .read .resume snap seen →
        seen ≤ n ∨ .read call .resume ∈ es) ∧
      (¬ LiftedIn es → (run (step account) cfg es).lifted ≤ n) := by
  induction es using List.reverseRecOn with
  | nil => exact ⟨hf, fun call snap seen hc => Or.inl (hcalls call _ snap seen hc), fun _ => hl⟩
  | append_singleton es e ih =>
    obtain ⟨hs1, hs2⟩ := safeRun_append.mp hs
    obtain ⟨hfaults, hresumes, hlifted⟩ := ih hs1
    have hstill : ¬ LiftedIn (es ++ [e]) → ¬ LiftedIn es := fun hn h => hn (h.append [e])
    obtain ⟨row, hheld⟩ := SafeRun.invariant (fun c => ∃ row, Held account c row)
      (fun c e' hc he => by
        obtain ⟨r, hr⟩ := hc
        obtain ⟨r', hr', -⟩ := held_step hr he
        exact ⟨r', hr'⟩) hrow hs1
    rw [run_append]
    change n < (step account (run (step account) cfg es) e).faults ∧ _
    have hm := moves_step hheld.row_eq e
    generalize run (step account) cfg es = mid at *
    change n < (step account mid e).faults ∧
      (∀ call snap seen, (step account mid e).calls call = .read .resume snap seen →
        seen ≤ n ∨ .read call .resume ∈ es ++ [e]) ∧
      (¬ LiftedIn (es ++ [e]) → (step account mid e).lifted ≤ n)
    generalize step account mid e = last at hm
    have hold : ∀ call snap seen, mid.calls call = .read .resume snap seen →
        seen ≤ n ∨ .read call .resume ∈ es ++ [e] := by
      intro call snap seen hc
      rcases hresumes call snap seen hc with h | h
      · exact Or.inl h
      · exact Or.inr (List.mem_append_left _ h)
    cases hm with
    | still => exact ⟨hfaults, hold, fun hn => hlifted (hstill hn)⟩
    | fault input reason transitionAt db ha hdb =>
      exact ⟨by dsimp only; omega, hold, fun hn => hlifted (hstill hn)⟩
    | read call command hc =>
      refine ⟨hfaults, fun other snap seen ho => ?_, fun hn => hlifted (hstill hn)⟩
      by_cases hne : other = call
      · subst hne
        simp only [Function.update_self, Call.read.injEq] at ho
        obtain ⟨rfl, -, -⟩ := ho
        exact Or.inr (by simp)
      · simp only [ne_eq, hne, not_false_eq_true, Function.update_of_ne] at ho
        exact hold other snap seen ho
    | write call clock transitionId command snapshot seen db hc hdb =>
      refine ⟨hfaults, fun other snap m ho => ?_, fun hn => ?_⟩
      · have hne : other ≠ call := by
          rintro rfl
          simp at ho
        simp only [ne_eq, hne, not_false_eq_true, Function.update_of_ne] at ho
        exact hold other snap m ho
      · have hle := hlifted (hstill hn)
        dsimp only
        split
        next hr =>
          subst hr
          rcases hresumes call snapshot seen hc with h | h
          · omega
          · exact absurd ⟨es, call, clock, transitionId, [], rfl, h⟩ hn
        next => exact hle

/-! ### Whole runs -/

section Property
variable (account : String) (cfg : Config) (es : List Event)

/-- **The kill switch survives**: once an `activateKillSwitch` has written, the row has the kill
switch and its status. -/
def KillSwitchSurvives : Prop :=
  ∀ es₁ call clock id es₂ reason snapshot seen,
    es = es₁ ++ .write call clock id :: es₂ →
    (run (step account) cfg es₁).calls call = .read (.activateKillSwitch reason) snapshot seen →
    ∃ row, getState (run (step account) cfg es).db account = .ok row ∧
      row.killSwitchActive = true ∧ row.systemStatus = .killSwitched

/-- **Fault pauses survive**: once a fault pause has been applied, the row is stopped until a resume
that was read after it has written. -/
def FaultPausesSurvive : Prop :=
  ∀ es₁ input es₂, es = es₁ ++ .fault input :: es₂ →
    Applies (run (step account) cfg es₁).db account input → ¬ LiftedIn es₂ →
    ∃ row, getState (run (step account) cfg es).db account = .ok row ∧ Stopped row.systemStatus

end Property

/-- **Stops survive the runs whose writes are all safe.** -/
theorem stops_survive_safe_runs (account : String) (seed : ExecutionStateSeed) (now : ClockText)
    (transitionId : String) (es : List Event)
    (hs : SafeRun (step account) (Safe account) (start account seed now transitionId) es) :
    KillSwitchSurvives account (start account seed now transitionId) es ∧
      FaultPausesSurvive account (start account seed now transitionId) es := by
  let at' := fun es => run (step account) (start account seed now transitionId) es
  have hheld : ∀ es₁, SafeRun (step account) (Safe account)
      (start account seed now transitionId) es₁ → ∃ row, Held account (at' es₁) row := by
    intro es₁ h₁
    refine SafeRun.invariant (fun c => ∃ row, Held account c row) ?_
      ⟨_, held_start account seed now transitionId⟩ h₁
    rintro c e ⟨r, hr⟩ he
    obtain ⟨r', hr', -⟩ := held_step hr he
    exact ⟨r', hr'⟩
  constructor
  · rintro es₁ call clock id es₂ reason snapshot seen rfl hc
    obtain ⟨hs₁, hsw, hs₂⟩ := safeRun_append.mp hs
    obtain ⟨row, hrow⟩ := hheld es₁ hs₁
    have hk := killed_write clock id hrow hc hsw
    obtain ⟨row', hrow', hk'⟩ :=
      SafeRun.invariant (Killed account) (fun _ _ h he => killed_step h he) hk hs₂
    refine ⟨row', ?_, hk', hrow'.kill hk'⟩
    rw [run_append]
    exact hrow'.row_eq
  · rintro es₁ input es₂ rfl ha hn
    obtain ⟨hs₁, hsf, hs₂⟩ := safeRun_append.mp hs
    obtain ⟨row, hrow⟩ := hheld es₁ hs₁
    obtain ⟨row₂, hrow₂⟩ := hheld _ hs
    refine ⟨row₂, hrow₂.row_eq, hrow₂.stopped ?_⟩
    have hnext : ∃ row', Held account (step account (at' es₁) (.fault input)) row' := by
      obtain ⟨r', hr', -⟩ := held_step hrow hsf
      exact ⟨r', hr'⟩
    have ha' : Applies (at' es₁).db account input := ha
    obtain ⟨hl, hf, hcalls⟩ := step_fault_of_applies ha'
    have hle := hrow.lifted_le
    obtain ⟨hfaults, -, hlifted⟩ := lifted_le_of_not_liftedIn hnext
      (n := (at' es₁).faults) (by omega) (by omega)
      (fun call command snap seen hc => (hrow.snapshot call command snap seen (hcalls ▸ hc)).2.1)
      hs₂
    have hlast := hlifted hn
    have he : at' (es₁ ++ .fault input :: es₂) =
        run (step account) (step account (at' es₁) (.fault input)) es₂ := run_append ..
    rw [he]
    omega

/-- A kill switch between two commands, and a resume that reads it. -/
theorem stops_survive_safe_runs_overlap :
    let es := [Event.read 0 (.setExecutionMode .dryRun), .read 1 (.activateKillSwitch none),
      .write 0 ⟨.epoch, .epoch⟩ "t1", .write 1 ⟨.epoch, .epoch⟩ "t2", .read 2 .resume,
      .write 2 ⟨.epoch, .epoch⟩ "t3"]
    KillSwitchSurvives "primary" (start "primary" ⟨.live, .enabled, false⟩ .epoch "t0") es :=
  (stops_survive_safe_runs "primary" ⟨.live, .enabled, false⟩ .epoch "t0" _ (by decide)).1

/-! ### Lost stops -/

/-- A fault of the account, at the epoch. -/
def sampleFault : FaultPauseInput where
  exchangeAccountId := "primary"
  faultId := "fault_1"
  reason := "uncertain_submission"
  occurredAt := "1970-01-01T00:00:00.000Z"
  transitionAt := none

/-- **A resume that was read before a stop and written after it clears the stop.** -/
theorem stale_resume_clears_stops :
    let cfg := start "primary" ⟨.live, .enabled, false⟩ .epoch "t0"
    ¬ KillSwitchSurvives "primary" cfg [.read 0 .resume, .read 1 (.activateKillSwitch none),
        .write 1 ⟨.epoch, .epoch⟩ "t1", .write 0 ⟨.epoch, .epoch⟩ "t2"] ∧
      ¬ FaultPausesSurvive "primary" cfg [.read 0 .resume, .fault sampleFault,
        .write 0 ⟨.epoch, .epoch⟩ "t1"] := by
  constructor
  · intro h
    obtain ⟨row, hrow, hk, -⟩ := h [.read 0 .resume, .read 1 (.activateKillSwitch none)] 1 _ _ _
      none (seedState "primary" ⟨.live, .enabled, false⟩ .epoch) 0 rfl rfl
    cases hrow
    cases hk
  · intro h
    obtain ⟨row, hrow, hstop⟩ := h [.read 0 .resume] sampleFault _ rfl ⟨by decide, _, rfl⟩ (by
      rintro ⟨es₁, call, clock, id, es₂, he, hr⟩
      rcases es₁ with - | ⟨e, es₁⟩
      · cases hr
      · simp at he)
    cases hrow
    exact absurd hstop (by decide)

end AutoTrade.Operator.Interleaving
