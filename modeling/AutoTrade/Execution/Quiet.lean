import AutoTrade.Execution.CallLog

/-! # The quiet parts of the service

The methods of the service that write neither leases nor orders: recording a block, pausing,
notifying, the reads and checks of a candidate route, the validation by the exchange. They are
always allowed, leave the locals alone and add at most ids to the log (`Later`). -/

namespace AutoTrade.Execution.Quiet

open Lib.Awaits.Async Domain.Types Domain.PilotTypes
open Execution.Records Execution.Helpers Execution.Service
open Execution.CallLog Execution.CallLog.Log

variable {Num : Type}

/-- The log with more ids, and possibly a clock that threw. -/
def Later (log log' : Log Num) : Prop :=
  ∃ ids refusal, log' = { log with
    ids := ids ++ log.ids, clockRefusal := log.clockRefusal || refusal }

instance : Std.Refl (@Later Num) := ⟨fun log => ⟨[], false, by simp⟩⟩

instance : IsTrans (Log Num) Later where
  trans := by
    rintro log _ _ ⟨ids, refusal, rfl⟩ ⟨ids', refusal', rfl⟩
    exact ⟨ids' ++ ids, refusal || refusal', by simp [Bool.or_assoc]⟩

theorem Later.of_clock (log : Log Num) (refusal : Bool) :
    Later log { log with clockRefusal := log.clockRefusal || refusal } :=
  ⟨[], refusal, rfl⟩

variable {log log' : Log Num}

theorem Later.stage (h : Later log log') : log'.stage = log.stage := by
  obtain ⟨ids, refusal, rfl⟩ := h
  rfl

theorem Later.intent (h : Later log log') : log'.intent = log.intent := by
  obtain ⟨ids, refusal, rfl⟩ := h
  rfl

theorem Later.settling (h : Later log log') : log'.settling = log.settling := by
  obtain ⟨ids, refusal, rfl⟩ := h
  rfl

theorem Later.outcome (h : Later log log') : log'.outcome = log.outcome := by
  obtain ⟨ids, refusal, rfl⟩ := h
  rfl

theorem Later.account (h : Later log log') : log'.account = log.account := by
  obtain ⟨ids, refusal, rfl⟩ := h
  rfl

theorem Later.mem_ids (h : Later log log') {id : String} (hid : id ∈ log.ids) : id ∈ log'.ids := by
  obtain ⟨ids, refusal, rfl⟩ := h
  exact List.mem_append_right _ hid

/-- The operations that are allowed at every stage and leave it alone. -/
def isQuiet : Op → Bool
  | .acquireLease _ => false
  | .persistOrderIntent _ => false
  | .persistCandidateBoundOrderIntent _ => false
  | .updateOrder _ => false
  | .renewLease _ => false
  | .runWithCurrentExecutionAuthority _ _ _ => false
  | .exchangeOrder => false
  | .assertCurrent => false
  | .persistExchangeSubmission _ => false
  | .persistUncertainSubmission _ => false
  | .releaseLease _ _ => false
  | .pauseForFault input => !isPostSendFault input.faultId
  | .now .renewalAt => false
  | .now .submittedAt => false
  | .now .settledAt => false
  | .now .rejectedAt => false
  | .now .uncertainAt => false
  | _ => true

theorem later_record {op : Op} (h : isQuiet op = true) (log : Log Num) (reply : Reply Num op) :
    Later log (log.record op reply) := by
  have hslip : log.slips op reply = false := by
    cases op
    case now site => cases site <;> first | rfl | cases h
    all_goals first | rfl | cases h
  unfold record
  rw [hslip]
  cases op
  case createId kind =>
    cases reply with
    | ok id => exact ⟨[id], false, by simp [advance]⟩
    | error e => exact refl log
  case pauseForFault input =>
    have hfault : isPostSendFault input.faultId = false := by simpa [isQuiet] using h
    exact ⟨[], false, by simp [advance, hfault]⟩
  case now site =>
    cases reply with
    | ok text => exact refl log
    | error e => exact Later.of_clock log _
  all_goals first | exact refl log | cases h

theorem quiet_ask {op : Op} (h : isQuiet op = true) :
    Quiet protocol Later (ask op : Service Num (Ans Num op)) := by
  refine Quiet.await ?_ fun log reply _ => later_record h log reply
  intro log
  cases op <;> trivial

theorem quiet_computed {α : Type} (r : Except String α) :
    Quiet protocol Later (computed r : Service Num α) := Quiet.lift _

theorem quiet_caught {x : Service Num Unit} (hx : Quiet protocol Later x) :
    Quiet protocol Later (caught x) :=
  Quiet.catching (Quiet.bind hx fun _ => Quiet.pure _) fun _ => Quiet.pure _

/-! ### Faults and notifications -/

theorem quiet_createRiskEvent (account : String) (decision : Option String)
    (ruleCode message payloadJson : String) (orderId : Option String) :
    Quiet protocol Later
      (createRiskEvent account decision ruleCode message payloadJson orderId : Service Num _) :=
  Quiet.bind (quiet_ask rfl) fun _ => Quiet.bind (quiet_ask rfl) fun _ => Quiet.pure _

theorem quiet_pauseForFault {faultId : String} (h : isPostSendFault faultId = false)
    (account reason occurredAt : String) :
    Quiet protocol Later (pauseForFault account faultId reason occurredAt : Service Num Unit) :=
  Quiet.catching (quiet_ask (by simp [isQuiet, h])) fun _ => Quiet.raise _

theorem isPostSendFault_leaseFault (key : String) :
    isPostSendFault ("account-execution-lease:" ++ key) = false := by
  unfold isPostSendFault
  rw [String.toList_append]
  rfl

theorem isPostSendFault_uncertainFault (orderId : String) :
    isPostSendFault ("uncertain-order:" ++ orderId) = false := by
  unfold isPostSendFault
  rw [String.toList_append]
  rfl

variable (input : SubmitOrderFromDecisionInput Num)

theorem quiet_recordLeaseBlockedAndPause (key : String) (market : SupportedMarket)
    (occurredAt reason : String) (orderId : Option String) :
    Quiet protocol Later
      (recordLeaseBlockedAndPause input key market occurredAt reason orderId) := by
  unfold recordLeaseBlockedAndPause
  refine Quiet.bind (quiet_caught (Quiet.bind (quiet_createRiskEvent _ _ _ _ _ _) fun _ =>
    quiet_ask rfl)) fun riskEvidenceFailure => ?_
  refine Quiet.bind (quiet_caught (quiet_pauseForFault (isPostSendFault_leaseFault key) _ _ _))
    fun pauseFailure => ?_
  split
  · exact Quiet.raise _
  · split
    · exact Quiet.raise _
    · split
      · exact Quiet.raise _
      · exact Quiet.pure _

variable (deps : Dependencies Num)

theorem quiet_safeReport (notification : OperatorNotification) :
    Quiet protocol Later (safeReport deps notification) := by
  unfold safeReport
  split
  · exact Quiet.catching (quiet_ask rfl) fun _ => Quiet.pure _
  · exact Quiet.pure _

theorem quiet_saveRiskEvents (rules : List TriggeredRule) (failure : Option Thrown) :
    Quiet protocol Later (saveRiskEvents input rules failure) := by
  induction rules generalizing failure with
  | nil =>
    cases failure with
    | none => exact Quiet.pure _
    | some e => exact Quiet.raise _
  | cons rule rules ih =>
    exact Quiet.bind (quiet_caught (Quiet.bind (quiet_createRiskEvent _ _ _ _ _ _) fun _ =>
      quiet_ask rfl)) fun _ => ih _

/-! ### Candidate routes -/

theorem quiet_prepareCandidateContext (input : SubmitOrderFromDecisionInput Num)
    (market : SupportedMarket) :
    Quiet protocol Later (prepareCandidateContext deps input market) := by
  unfold prepareCandidateContext
  split
  · exact Quiet.pure _
  · split
    · exact Quiet.raise _
    · split
      · exact Quiet.raise _
      · split
        · exact Quiet.raise _
        · split
          · exact Quiet.raise _
          · refine Quiet.bind (quiet_ask rfl) fun persisted => ?_
            split
            · exact Quiet.raise _
            · split
              · exact Quiet.raise _
              · refine Quiet.bind (quiet_computed _) fun intendedNotional => ?_
                split
                · exact Quiet.raise _
                · exact Quiet.pure _

theorem quiet_assertExactCandidateDuplicate (context : CandidateContext) (duplicate : OrderRecord)
    (key : String) :
    Quiet protocol Later (assertExactCandidateDuplicate deps context duplicate key) := by
  unfold assertExactCandidateDuplicate
  refine Quiet.bind (quiet_ask rfl) fun binding => ?_
  split
  · exact Quiet.raise _
  · refine Quiet.bind (quiet_computed _) fun _ => ?_
    refine Quiet.bind (quiet_ask rfl) fun deployment => ?_
    refine Quiet.bind (quiet_ask rfl) fun exactStateVersion => ?_
    refine Quiet.bind (quiet_ask rfl) fun events => ?_
    split
    · split
      · exact Quiet.pure _
      · exact Quiet.raise _
    · exact Quiet.raise _

theorem quiet_pauseCandidateIntentFault (context : CandidateContext)
    (input : SubmitOrderFromDecisionInput Num) (orderId bindingId : String)
    (stage : CandidateIntentFaultStage) (occurredAt : String) :
    Quiet protocol Later
      (pauseCandidateIntentFault deps context input orderId bindingId stage occurredAt) := by
  unfold pauseCandidateIntentFault
  split
  · exact Quiet.raise _
  · exact Quiet.catching (quiet_ask rfl) fun _ => Quiet.raise _

theorem fails_failCandidateIntent {α : Type} (context : CandidateContext)
    (input : SubmitOrderFromDecisionInput Num) (orderId bindingId : String)
    (stage : CandidateIntentFaultStage) (attemptedAt : Option String) (message : String) :
    Fails protocol Later
      (failCandidateIntent deps context input orderId bindingId stage attemptedAt message :
        Service Num α) :=
  Fails.after (quiet_computed _) fun _ =>
    Fails.after (quiet_pauseCandidateIntentFault _ _ _ _ _ _ _) fun _ => Fails.raise _

theorem quiet_assertFinalCandidatePreSendAuthority (candidate : Option FinalCandidate) :
    Quiet protocol Later (assertFinalCandidatePreSendAuthority deps candidate) := by
  unfold assertFinalCandidatePreSendAuthority
  split
  · exact Quiet.pure _
  · split
    · exact Quiet.raise _
    · refine Quiet.bind (quiet_ask rfl) fun events => ?_
      refine Quiet.bind (quiet_ask rfl) fun decision => ?_
      refine Quiet.bind (quiet_ask rfl) fun deployment => ?_
      refine Quiet.bind (quiet_ask rfl) fun exactStateVersion => ?_
      refine Quiet.bind (quiet_ask rfl) fun binding => ?_
      split
      · exact quiet_computed _
      · exact Quiet.raise _

theorem quiet_submitDuplicate (input : SubmitOrderFromDecisionInput Num)
    (candidate : Option CandidateContext) (attemptStartedAt key : String)
    (duplicate : OrderRecord) :
    Quiet protocol Later
      (submitDuplicate deps input candidate attemptStartedAt key duplicate) := by
  unfold submitDuplicate checkDuplicate
  refine Quiet.bind ?_ fun _ => Quiet.pure _
  split
  · exact Quiet.pure _
  · exact Quiet.bind (Quiet.catching (quiet_assertExactCandidateDuplicate _ _ _ _) fun _ =>
      (fails_failCandidateIntent _ _ _ _ _ _ _ _).quiet) fun _ => Quiet.pure _

/-! ### Before the intent -/

theorem quiet_runExchangePreTradeValidation (input : SubmitOrderFromDecisionInput Num)
    (market : SupportedMarket) (identifier key requestedAt : String) :
    Quiet protocol Later
      (runExchangePreTradeValidation deps input market identifier key requestedAt) := by
  unfold runExchangePreTradeValidation
  refine Quiet.bind (Quiet.catching (Quiet.bind (quiet_ask rfl) fun _ => Quiet.pure _) fun _ =>
    Quiet.pure _) fun checked => ?_
  split
  · exact Quiet.pure _
  · refine Quiet.catching (Quiet.bind (quiet_ask rfl) fun validation => ?_) fun _ => Quiet.pure _
    split <;> exact Quiet.pure _

variable (a : Attempt Num)

theorem quiet_rejectByRisk (rules : List TriggeredRule) :
    Quiet protocol Later (a.rejectByRisk rules) :=
  Quiet.bind (quiet_saveRiskEvents _ _ _) fun _ =>
    Quiet.bind (quiet_safeReport _ _) fun _ => Quiet.pure _

theorem quiet_rejectByExchange (rejection : PreTradeRejection) :
    Quiet protocol Later (a.rejectByExchange rejection) :=
  Quiet.bind (quiet_createRiskEvent _ _ _ _ _ _) fun _ =>
    Quiet.bind (quiet_ask rfl) fun _ =>
      Quiet.bind (quiet_safeReport _ _) fun _ => Quiet.pure _

theorem quiet_assessRisk (state : ExecutionStateRecord) (accountActiveOrders : List OrderRecord) :
    Quiet protocol Later (a.assessRisk state accountActiveOrders) := by
  unfold Attempt.assessRisk
  refine Quiet.bind (quiet_ask rfl) fun portfolio => ?_
  dsimp only
  split
  · exact Quiet.bind (quiet_rejectByRisk _ _) fun _ => Quiet.pure _
  · refine Quiet.bind (quiet_runExchangePreTradeValidation _ _ _ _ _ _) fun checked => ?_
    split
    · exact Quiet.bind (quiet_rejectByExchange _ _) fun _ => Quiet.pure _
    · exact Quiet.pure _

/-! ### After the send -/

theorem quiet_exchangeFills (orderId : String) (fills : List ExchangeFillSnapshot) :
    Quiet protocol Later (a.exchangeFills orderId fills) := by
  induction fills with
  | nil => exact Quiet.pure _
  | cons fill fills ih =>
    refine Quiet.bind (quiet_ask rfl) fun id => ?_
    refine Quiet.bind ?_ fun exchangeFillId => Quiet.bind ih fun _ => Quiet.pure _
    unfold Attempt.exchangeFillIdOf
    split
    · exact Quiet.pure _
    · exact quiet_ask rfl

theorem quiet_createDryRunSyntheticFill (orderId filledAt raw : String) :
    Quiet protocol Later (a.createDryRunSyntheticFill orderId filledAt raw) := by
  unfold Attempt.createDryRunSyntheticFill
  split
  · exact Quiet.pure _
  · exact Quiet.bind (quiet_ask rfl) fun _ => Quiet.bind (quiet_ask rfl) fun _ =>
      Quiet.bind (quiet_computed _) fun _ => Quiet.pure _

theorem quiet_terminalEvent (snapshot : ExchangeOrderSnapshot) (order : OrderRecord)
    (fillCount : ℕ) : Quiet protocol Later (a.terminalEvent snapshot order fillCount) := by
  unfold Attempt.terminalEvent
  split
  · exact Quiet.bind (quiet_ask rfl) fun _ => Quiet.pure _
  · exact Quiet.pure _

end AutoTrade.Execution.Quiet
