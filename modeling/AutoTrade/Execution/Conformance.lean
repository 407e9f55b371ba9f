import AutoTrade.Execution.Quiet

/-! # The service keeps to its protocol

`submitOrderFromDecision` awaits only what `CallLog.protocol` allows, whatever its dependencies
answer or throw. There is one lemma for each part of the method; what they carry along is that the
lease is given back only when the call may release it (`Leaves`). -/

namespace AutoTrade.Execution.Conformance

open Lib.Awaits.Async Domain.Types
open Execution.Records Execution.Helpers Execution.Service
open Lib.Text (jsonRecord)
open Execution.CallLog Execution.CallLog.Log Execution.Quiet

variable {Num : Type}

/-- What every part of a call under its lease keeps. -/
structure Running (a : Attempt Num) (log : Log Num) : Prop where
  deps : log.deps = a.deps
  input : log.input = a.input
  leaseToken : log.leaseToken = some a.leaseOwnerToken
  released : log.released = false

/-- On leaving the `try` block: `finally` may do what the flag tells it to. -/
structure Leaves (a : Attempt Num) (s : Locals) (log : Log Num) : Prop where
  running : Running a log
  mayRelease : s.releaseLease = true → log.MayRelease

variable {a : Attempt Num} {log log' : Log Num}

theorem Running.later (h : Running a log) (hl : Later log log') : Running a log' := by
  obtain ⟨ids, refusal, rfl⟩ := hl
  exact ⟨h.deps, h.input, h.leaseToken, h.released⟩

theorem Running.account {log : Log Num} (h : Running a log) :
    log.account = a.input.exchangeAccountId := by
  unfold Log.account
  rw [h.input]

variable {s : Locals}

theorem Leaves.of_retained {log : Log Num} (h : Running a log) (hs : s.releaseLease = false) :
    Leaves a s log :=
  ⟨h, fun ht => absurd (hs.symm.trans ht) (by decide)⟩

theorem Leaves.of_starting {log : Log Num} (h : Running a log) (hs : log.stage = .starting) :
    Leaves a s log :=
  ⟨h, fun _ => Or.inl hs⟩

/-! ### Before the intent -/

section BeforeIntent

variable (a)

theorem follows_leaseBlocked (message : String) :
    Follows protocol (a.leaseBlocked message) s log fun _ _ log' => Later log log' := by
  unfold Attempt.leaseBlocked
  refine follows_bind.mpr (follows_catching.mpr ?_)
  refine (quiet_recordLeaseBlockedAndPause _ _ _ _ _ _).follows fun r log₁ h₁ => ?_
  cases r with
  | ok _ => exact h₁
  | error e => exact h₁

theorem follows_checkBeforeIntent :
    Follows protocol a.checkBeforeIntent s log fun r s' log' =>
      Later log log' ∧ ∀ authority, r = .ok (.inr authority) → s' = s := by
  unfold Attempt.checkBeforeIntent
  refine (Quiet.bind (quiet_ask rfl) fun _ => Quiet.bind (quiet_ask rfl) fun _ =>
    Quiet.pure _).catching_andThen (fun e log₁ h₁ => ?_) fun read log₁ h₁ => ?_
  · refine follows_bind.mpr (follows_assign.mpr ?_)
    refine (Fails.after (quiet_ask rfl) fun _ => Fails.after
      (quiet_recordLeaseBlockedAndPause _ _ _ _ _ _) fun _ => Fails.raise _).follows
      fun e log₂ h₂ => ?_
    exact ⟨IsTrans.trans _ _ _ h₁ h₂, fun _ h => by simp at h⟩
  · obtain ⟨accountActiveOrders, state⟩ := read
    dsimp only
    -- an active order and an incompatible adapter end the call in the same way
    have hblocked : ∀ message, Follows protocol (do
        let result ← a.leaseBlocked message
        return (Sum.inl result : SubmitOrderFromDecisionResult ⊕ ExecutionAuthority)) s log₁
        fun r s' log' => Later log log' ∧ ∀ authority, r = .ok (.inr authority) → s' = s := fun message =>
      (follows_leaseBlocked a message).andThen
        (fun _ _ _ h₂ => ⟨IsTrans.trans _ _ _ h₁ h₂, fun _ h => by simp at h⟩)
        fun _ _ _ h₂ => ⟨IsTrans.trans _ _ _ h₁ h₂, fun _ h => by simp at h⟩
    split
    · exact hblocked _
    · split
      · exact hblocked _
      · exact (quiet_assessRisk a state accountActiveOrders).follows fun r log₂ h₂ =>
          ⟨IsTrans.trans _ _ _ h₁ h₂, fun _ _ => rfl⟩

end BeforeIntent

/-! ### The intent -/

/-- The call came to `stage` with the order of `intent`. -/
structure At (a : Attempt Num) (intent : Attempt.Intent) (stage : Stage) (log : Log Num) :
    Prop where
  running : Running a log
  order : log.intent = some intent.order
  account : intent.order.exchangeAccountId = a.input.exchangeAccountId
  stage : log.stage = stage
  settling : log.settling = false

variable {stage : Stage} {intent : Attempt.Intent}

theorem At.later (h : At a intent stage log) (hl : Later log log') : At a intent stage log' :=
  ⟨h.running.later hl, hl.intent.trans h.order, h.account, hl.stage.trans h.stage,
    hl.settling.trans h.settling⟩

variable {order : OrderRecord}

theorem At.own {log : Log Num} (h : At a intent stage log) (hid : order.id = intent.order.id)
    (haccount : order.exchangeAccountId = intent.order.exchangeAccountId) : log.Own order :=
  ⟨intent.order, h.order, hid, by rw [haccount, h.account, h.running.account]⟩

section Intents

section

variable (h : Running a log) (hstage : log.stage = .starting) (hintent : log.intent = none)
include h hstage hintent

theorem mayPersist_intentOrder {orderId : String} (hid : orderId ∈ log.ids) (requestedAt : String) :
    log.MayPersist (a.intentOrder orderId requestedAt) :=
  ⟨hstage, hintent, h.released, hid, h.account.symm⟩

theorem follows_persistCandidateIntent (hsettling : log.settling = false)
    (context : CandidateContext) {orderId : String} (hid : orderId ∈ log.ids)
    (eventId bindingId : String) :
    Follows protocol (a.persistCandidateIntent context orderId eventId bindingId) s log
      fun r s' log' =>
        match r with
        | .ok intent => s' = s ∧ At a intent .persisted log'
        | .error _ => Leaves a s' log' := by
  -- every failure takes the flag down and pauses
  have hfail : ∀ {α : Type} {x : Service Num α} {log₁ : Log Num}
      {Q : Except Thrown α → Locals → Log Num → Prop}, Running a log₁ → Fails protocol Later x →
      (∀ e s' log', Leaves a s' log' → Q (.error e) s' log') →
      Follows protocol (do assign fun s => { s with releaseLease := false }; x) s log₁ Q := by
    intro α x log₁ Q h₁ hx hleaves
    exact follows_bind.mpr (follows_assign.mpr (hx.follows fun e log₂ h₂ =>
      hleaves _ _ _ (Leaves.of_retained (h₁.later h₂) rfl)))
  unfold Attempt.persistCandidateIntent
  refine (Quiet.bind (quiet_ask rfl) fun _ => quiet_computed _).catching_andThen
    (fun e log₁ h₁ => hfail (h.later h₁) (fails_failCandidateIntent _ _ _ _ _ _ _ _)
      fun _ _ _ hl => hl)
    fun timestamps log₁ h₁ => ?_
  have hrun₁ := h.later h₁
  refine (quiet_computed _).catching_andThen
    (fun e log₂ h₂ => hfail (hrun₁.later h₂) (fails_failCandidateIntent _ _ _ _ _ _ _ _)
      fun _ _ _ hl => hl)
    fun binding log₂ h₂ => ?_
  have hrun₂ := hrun₁.later h₂
  have hstage₂ : log₂.stage = .starting := by rw [h₂.stage, h₁.stage, hstage]
  have hintent₂ : log₂.intent = none := by rw [h₂.intent, h₁.intent, hintent]
  have hid₂ : orderId ∈ log₂.ids := h₂.mem_ids (h₁.mem_ids hid)
  refine follows_bind.mpr (follows_catching.mpr (follows_await.mpr
    ⟨⟨mayPersist_intentOrder hrun₂ hstage₂ hintent₂ hid₂ _, rfl⟩, fun r _ => ?_⟩))
  have hrun₃ : Running a (log₂.intentPersisted
      (a.intentOrder orderId timestamps.orderRequestedAt) r.isOk) :=
    ⟨hrun₂.deps, hrun₂.input, hrun₂.leaseToken, hrun₂.released⟩
  cases r with
  | error e => exact hfail hrun₃ (fails_failCandidateIntent _ _ _ _ _ _ _ _) fun _ _ _ hl => hl
  | ok _ => exact ⟨rfl, hrun₃, rfl, rfl, rfl, h₂.settling.trans (h₁.settling.trans hsettling)⟩

/-- The intent: persisted as it is, or thrown without anything to keep the lease for. -/
theorem follows_persistIntent (hsettling : log.settling = false) :
    Follows protocol a.persistIntent s log fun r s' log' =>
      match r with
      | .ok intent => s' = s ∧ At a intent .persisted log'
      | .error _ => Leaves a s' log' := by
  unfold Attempt.persistIntent
  refine Follows.await_andThen trivial (fun e he => nomatch he) fun orderId _ => ?_
  have h₁ : Later log (log.record (.createId "order") (.ok orderId)) := later_record rfl _ _
  have hid : orderId ∈ (log.record (.createId "order") (.ok orderId)).ids := List.mem_cons_self
  have hstage₁ := h₁.stage.trans hstage
  refine (quiet_ask rfl).andThen
    (fun e log₂ h₂ => Leaves.of_starting ((h.later h₁).later h₂) (h₂.stage.trans hstage₁))
    fun eventId log₂ h₂ => ?_
  have hrun₂ : Running a log₂ := (h.later h₁).later h₂
  have hstage₂ : log₂.stage = .starting := h₂.stage.trans hstage₁
  have hintent₂ : log₂.intent = none := h₂.intent.trans (h₁.intent.trans hintent)
  have hsettling₂ : log₂.settling = false := h₂.settling.trans (h₁.settling.trans hsettling)
  cases hcandidate : a.candidate with
  | some context =>
    refine (quiet_ask rfl).andThen
      (fun e log₃ h₃ => Leaves.of_starting (hrun₂.later h₃) (h₃.stage.trans hstage₂))
      fun bindingId log₃ h₃ => ?_
    exact follows_persistCandidateIntent (hrun₂.later h₃) (h₃.stage.trans hstage₂)
      (h₃.intent.trans hintent₂) (h₃.settling.trans hsettling₂) context
      (h₃.mem_ids (h₂.mem_ids hid)) eventId bindingId
  | none =>
    have hrun₃ : ∀ ok, Running a (log₂.intentPersisted
        (a.intentOrder orderId a.attemptStartedAt) ok) :=
      fun _ => ⟨hrun₂.deps, hrun₂.input, hrun₂.leaseToken, hrun₂.released⟩
    exact Follows.await_andThen (mayPersist_intentOrder hrun₂ hstage₂ hintent₂ (h₂.mem_ids hid) _)
      (fun e _ => Leaves.of_starting (hrun₃ false) hstage₂)
      fun _ _ => ⟨rfl, hrun₃ true, rfl, rfl, rfl, hsettling₂⟩

end

end Intents

/-! ### Renewal -/

section Renewal

theorem At.advance_stage (h : At a intent stage log) (stage' : Stage) :
    At a intent stage' { log with stage := stage' } :=
  ⟨⟨h.running.deps, h.running.input, h.running.leaseToken, h.running.released⟩, h.order, h.account,
    rfl, h.settling⟩

theorem Leaves.of_slip {op : Op} {reply : Reply Num op} (h : Running a (log.advance op reply))
    (hslip : log.slips op reply = true) : Leaves a s (log.record op reply) := by
  rw [record_of_slips hslip]
  exact ⟨⟨h.deps, h.input, h.leaseToken, h.released⟩, fun _ => Or.inr (Or.inr rfl)⟩

theorem follows_renewBeforeSend (h : At a intent .persisted log) :
    Follows protocol (a.renewBeforeSend intent) s log fun r s' log' =>
      match r with
      | .ok _ => s' = s ∧ At a intent .renewed log'
      | .error _ => Leaves a s' log' := by
  unfold Attempt.renewBeforeSend
  have h₁ : At a intent .submitting (log.record (.updateOrder intent.submittingOrder) (.ok ())) :=
    h.advance_stage .submitting
  refine Follows.await_andThen ⟨h.stage, h.own rfl rfl, rfl⟩
    (fun e _ => Leaves.of_slip h.running (by simp [slips, h.stage])) fun _ _ => ?_
  have hslip : ∀ e, (log.record (.updateOrder intent.submittingOrder) (.ok ())).slips
      (.now .renewalAt) (.error e) = true := by simp [slips, h₁.stage]
  refine Follows.await_andThen trivial
    (fun e _ => Leaves.of_slip (h₁.running.later (Later.of_clock _ _)) (hslip e))
    fun renewalAt _ => ?_
  -- the clock leaves the log alone; whatever fails from here on takes the flag down
  have hhandler : ∀ log₂ : Log Num, Running a log₂ →
      Follows protocol (do
        assign fun s => { s with releaseLease := false }
        a.recordBlocked renewalAt
          "Account execution lease renewal is ambiguous after SUBMITTING; reconciliation is required before any resend."
          (some intent.order.id)
        raise (.accountExecutionLease "Account execution lease renewal is ambiguous.") :
        Service Num Unit) s log₂ fun r s' log' =>
          match r with
          | .ok _ => s' = s ∧ At a intent .renewed log'
          | .error _ => Leaves a s' log' := by
    intro log₂ h₂
    refine follows_bind.mpr (follows_assign.mpr ?_)
    refine (Fails.after (quiet_recordLeaseBlockedAndPause _ _ _ _ _ _) fun _ =>
      Fails.raise _).follows fun e log₃ h₃ => ?_
    exact Leaves.of_retained (h₂.later h₃) rfl
  refine follows_catching.mpr (follows_bind.mpr (follows_lift.mpr ?_))
  cases hwindow : leaseWindow a.deps renewalAt .renewal with
  | error e => exact hhandler _ h₁.running
  | ok window =>
    dsimp only
    split
    · exact hhandler _ h₁.running
    · refine Follows.await_andThen
        ⟨h₁.stage, h₁.running.leaseToken, h₁.running.account.symm⟩
        (fun e _ => hhandler _ h₁.running) fun renewed _ => ?_
      cases renewed with
      | none => exact hhandler _ h₁.running
      | some lease =>
        have h₂ := h₁.advance_stage .renewed
        split
        · exact ⟨rfl, h₂⟩
        · exact hhandler _ h₂.running

end Renewal

/-! ### The send -/

/-- `createOrder` was invoked: it returned a promise, or what it threw is kept. -/
structure Sent (a : Attempt Num) (intent : Attempt.Intent) (s : Locals) (log : Log Num) :
    Prop where
  asserted : s.postAdapterOwnershipAssertionFailed = false
  outcome : (At a intent .sent log ∧ log.outcome = some .pending ∧
      s.synchronousSubmissionError = none ∧ s.exchangeOrderStarted = true) ∨
    ∃ e, At a intent (if isPostSendPersistence e then .abandoned else .sent) log ∧
      log.outcome = some (.threw e) ∧ s.exchangeOrderStarted = false ∧
      s.synchronousSubmissionError = if e = .null then none else some e

section Send

theorem follows_handleSendError (h : Running a log) (hs : s.createOrderInvoked = false)
    (e : Thrown) :
    Follows protocol (a.handleSendError intent e) s log fun r s' log' =>
      (∃ e, r = .error e) ∧ Leaves a s' log' := by
  unfold Attempt.handleSendError
  refine follows_bind.mpr (follows_locals.mpr ?_)
  dsimp only
  rw [if_neg (by simp [hs])]
  refine follows_bind.mpr (follows_assign.mpr ?_)
  refine Fails.follows (R := Later) ?_ fun e log₁ h₁ =>
    ⟨⟨e, rfl⟩, Leaves.of_retained (h.later h₁) rfl⟩
  split
  · exact Fails.raise e
  · split
    · exact Fails.after (quiet_pauseCandidateIntentFault _ _ _ _ _ _ _) fun _ => Fails.raise _
    · exact Fails.after (quiet_ask rfl) fun _ =>
        Fails.after (quiet_recordLeaseBlockedAndPause _ _ _ _ _ _) fun _ => Fails.raise _

theorem At.invoked (h : At a intent .renewed log) (input : AssertCurrentExecutionAuthorityInput)
    (request : UpbitOrderRequest) (thrown : Option Thrown) :
    At a intent (if thrown.any isPostSendPersistence then .abandoned else .sent)
      (log.record (.runWithCurrentExecutionAuthority input intent.order.id request)
        (.ok thrown)) := by
  have hadvance : At a intent .sent
      (log.advance (.runWithCurrentExecutionAuthority input intent.order.id request)
        (.ok thrown)) :=
    ⟨⟨h.running.deps, h.running.input, h.running.leaseToken, h.running.released⟩, h.order,
      h.account, rfl, h.settling⟩
  cases thrown with
  | none => exact hadvance
  | some e =>
    unfold record
    by_cases he : isPostSendPersistence e = true
    · simp only [slips, he, if_true, Option.any_some]
      exact hadvance.advance_stage .abandoned
    · simp only [slips, he, Option.any_some]
      exact hadvance

theorem outcome_record_threw (input : AssertCurrentExecutionAuthorityInput) (orderId : String)
    (request : UpbitOrderRequest) (e : Thrown) :
    (log.record (.runWithCurrentExecutionAuthority input orderId request)
      (.ok (some e))).outcome = some (.threw e) := by
  unfold record
  split <;> rfl

/-- What the checks before the send leave behind when they throw, or the send when it throws. -/
def SendThrew (a : Attempt Num) (intent : Attempt.Intent) (e : Thrown) (s : Locals)
    (log : Log Num) : Prop :=
  if s.createOrderInvoked then
    At a intent (if isPostSendPersistence e then .abandoned else .sent) log ∧
      log.outcome = some (.threw e) ∧ s.exchangeOrderStarted = false ∧
      s.postAdapterOwnershipAssertionFailed = false
  else Running a log

theorem follows_checkAndSend (h : At a intent .renewed log) (authority : ExecutionAuthority) :
    Follows protocol (a.checkAndSend authority intent) {} log fun r s' log' =>
      match r with
      | .ok _ => Sent a intent s' log'
      | .error e => SendThrew a intent e s' log' := by
  unfold Attempt.checkAndSend
  refine (quiet_assertFinalCandidatePreSendAuthority _ _).andThen
    (fun e log₁ h₁ => h.running.later h₁) fun _ log₁ h₁ => ?_
  have hat₁ := h.later h₁
  refine (quiet_ask rfl).andThen (fun e log₂ h₂ => hat₁.running.later h₂)
    fun finalState log₂ h₂ => ?_
  have hat₂ := hat₁.later h₂
  dsimp only
  split
  · exact hat₂.running
  refine (quiet_ask rfl).andThen (fun e log₃ h₃ => hat₂.running.later h₃)
    fun finalActiveOrders log₃ h₃ => ?_
  have hat₃ := hat₂.later h₃
  refine (quiet_ask rfl).andThen (fun e log₄ h₄ => hat₃.running.later h₄)
    fun finalPersistedOrder log₄ h₄ => ?_
  have hat₄ := hat₃.later h₄
  refine follows_bind.mpr (follows_lift.mpr ?_)
  cases (assertFinalPersistedSubmissionAuthority intent.submittingOrder finalActiveOrders
    finalPersistedOrder).mapError Thrown.error with
  | error e => exact hat₄.running
  | ok _ =>
    refine follows_bind.mpr (follows_assign.mpr ?_)
    dsimp only
    split
    · exact hat₄.running
    · refine Follows.await_andThen ⟨hat₄.stage, intent.order, hat₄.order, rfl⟩
        (fun e _ => hat₄.running) fun thrown _ => ?_
      have hat₅ := hat₄.invoked ⟨a.input.exchangeAccountId, authority.executionMode,
        authority.liveExecutionGate⟩ (orderRequest a.input a.market intent.order.identifier) thrown
      refine follows_bind.mpr (follows_assign.mpr ?_)
      cases thrown with
      | none => exact ⟨rfl, Or.inl ⟨hat₅, rfl, rfl, rfl⟩⟩
      | some e => exact ⟨hat₅, outcome_record_threw .., rfl, rfl⟩

theorem follows_sendOrder (h : At a intent .renewed log) (authority : ExecutionAuthority) :
    Follows protocol (a.sendOrder authority intent) {} log fun r s' log' =>
      match r with
      | .ok _ => Sent a intent s' log'
      | .error _ => Leaves a s' log' := by
  refine follows_catching.mpr ((follows_checkAndSend h authority).mono fun r s' log' hr => ?_)
  cases r with
  | ok _ => exact hr
  | error e =>
    dsimp only at hr ⊢
    by_cases hinvoked : s'.createOrderInvoked = true
    · -- the error is the adapter's own: it is kept for the `try` that follows
      rw [SendThrew, if_pos hinvoked] at hr
      obtain ⟨hat, houtcome, hstarted, hasserted⟩ := hr
      unfold Attempt.handleSendError
      refine follows_bind.mpr (follows_locals.mpr ?_)
      dsimp only
      rw [if_pos hinvoked]
      exact ⟨hasserted, Or.inr ⟨e, hat, houtcome, hstarted, rfl⟩⟩
    · rw [SendThrew, if_neg hinvoked] at hr
      refine (follows_handleSendError hr (by simpa using hinvoked) e).mono ?_
      rintro _ s'' log'' ⟨⟨e', rfl⟩, hl⟩
      exact hl

end Send

/-! ### After the send -/

theorem mapExchangeOrderStatus_ne_rejected (lib : Library Num) (snapshot : ExchangeOrderSnapshot) :
    mapExchangeOrderStatus lib snapshot ≠ .rejected := by
  unfold mapExchangeOrderStatus
  split_ifs <;> simp

theorem filled_of_later (hl : Later log log') (h : log.Filled) : log'.Filled := by
  obtain ⟨ids, refusal, rfl⟩ := hl
  exact h

theorem refused_of_later (hl : Later log log') (h : log.Refused ∨ log.clockRefusal = true) :
    log'.Refused ∨ log'.clockRefusal = true := by
  obtain ⟨ids, refusal, rfl⟩ := hl
  rcases h with h | h
  · exact Or.inl h
  · exact Or.inr (by simp [h])

/-- What the handler after the send needs to know about an error it handles. -/
structure Handled (intent : Attempt.Intent) (e : Thrown) (s : Locals) (log : Log Num) : Prop where
  order : log.intent = some intent.order
  account : intent.order.exchangeAccountId = log.account
  released : isPostSendPersistence e = true → s.releaseLease = true → log.MayRelease
  sent : isPostSendPersistence e = false → log.stage = .sent
  refused : isDefinitiveRejection e = true → log.Refused ∨ log.clockRefusal = true
  settling : s.releaseLease = true → log.settling = false

/-- The `try` after the send threw `e`. -/
structure Failed (a : Attempt Num) (intent : Attempt.Intent) (e : Thrown) (s : Locals)
    (log : Log Num) : Prop where
  running : Running a log
  handled : s.postAdapterOwnershipAssertionFailed = false → Handled intent e s log

variable {e : Thrown}

section Settlement

theorem Failed.of_plain (h : At a intent .sent log)
    (hpersistence : isPostSendPersistence e = false)
    (hrejection : isDefinitiveRejection e = false) :
    Failed a intent e s log where
  running := h.running
  handled _ :=
    { order := h.order
      account := h.account.trans h.running.account.symm
      released := fun ht => absurd (hpersistence.symm.trans ht) (by decide)
      sent := fun _ => h.stage
      refused := fun ht => absurd (hrejection.symm.trans ht) (by decide)
      settling := fun _ => h.settling }

theorem Failed.of_adapter
    (h : At a intent (if isPostSendPersistence e then .abandoned else .sent) log)
    (houtcome : log.outcome = some (.rejected e) ∨ log.outcome = some (.threw e)) :
    Failed a intent e s log where
  running := h.running
  handled _ :=
    { order := h.order
      account := h.account.trans h.running.account.symm
      released := fun ht _ => by
        rw [if_pos ht] at h
        exact Or.inr (Or.inr h.stage)
      sent := fun hf => by
        rw [hf] at h
        exact h.stage
      refused := fun ht => Or.inl ⟨e, houtcome, ht⟩
      settling := fun _ => h.settling }

/-- The log with an error of the clock at a site where a persistence failure slips. -/
theorem Failed.of_clock (h : At a intent .sent log) {site : ClockSite}
    (hsite : site = .submittedAt ∨ site = .settledAt) (e : Thrown) :
    Failed a intent e s (log.record (.now site) (.error e)) := by
  have hclock : (log.advance (.now site) (.error e)).clockRefusal =
      (log.clockRefusal || isDefinitiveRejection e) := rfl
  have hat : At a intent .sent (log.advance (.now site) (.error e)) :=
    h.later (Later.of_clock log _)
  have hslips : log.slips (.now site) (.error e) = isPostSendPersistence e := by
    rcases hsite with rfl | rfl <;> simp [slips, h.stage]
  by_cases he : isPostSendPersistence e = true
  · rw [record_of_slips (hslips.trans he)]
    exact ⟨(hat.advance_stage .abandoned).running, fun _ =>
      ⟨hat.order, hat.account.trans hat.running.account.symm, fun _ _ => Or.inr (Or.inr rfl),
        fun hf => absurd (hf.symm.trans he) (by decide), fun hd => by simp [hclock, hd],
        fun _ => hat.settling⟩⟩
  · rw [record_of_not_slips (hslips.trans (by simpa using he))]
    exact ⟨hat.running, fun _ =>
      ⟨hat.order, hat.account.trans hat.running.account.symm, fun ht => absurd ht he,
        fun _ => hat.stage, fun hd => by simp [hclock, hd], fun _ => hat.settling⟩⟩

theorem follows_assertCurrentAfterAdapter (intent : Attempt.Intent) (h : Running a log) :
    Follows protocol (Attempt.assertCurrentAfterAdapter : Service Num Unit) s log
      fun r s' log' =>
        match r with
        | .ok _ => s' = s ∧ log' = log.record .assertCurrent (.ok ())
        | .error e => Failed a intent e s' log' := by
  unfold Attempt.assertCurrentAfterAdapter
  refine follows_catching.mpr (follows_await.mpr ⟨trivial, fun r _ => ?_⟩)
  cases r with
  | ok _ => exact ⟨rfl, rfl⟩
  | error e => exact ⟨h, fun ht => by simp at ht⟩

theorem At.answered (h : At a intent stage log) (outcome : AdapterOutcome) :
    At a intent stage { log with outcome := some outcome } :=
  ⟨⟨h.running.deps, h.running.input, h.running.leaseToken, h.running.released⟩, h.order, h.account,
    h.stage, h.settling⟩

theorem follows_awaitExchangeOrder (h : Sent a intent s log) :
    Follows protocol (Attempt.awaitExchangeOrder : Service Num ExchangeOrderSnapshot) s log
      fun r s' log' =>
        match r with
        | .ok snapshot =>
          s' = s ∧ At a intent .sent log' ∧ log'.outcome = some (.fulfilled snapshot)
        | .error e => Failed a intent e s' log' := by
  unfold Attempt.awaitExchangeOrder
  refine follows_bind.mpr (follows_locals.mpr ?_)
  dsimp only
  rcases h.outcome with ⟨hat, hpending, hsync, hstarted⟩ | ⟨e, hat, houtcome, hstarted, hsync⟩
  · rw [hsync]
    dsimp only
    rw [if_neg (by simp [hstarted])]
    refine follows_bind.mpr (follows_catching.mpr (follows_await.mpr ⟨hpending, fun r _ => ?_⟩))
    cases r with
    | ok snapshot =>
      have hat₁ : At a intent .sent (log.record .exchangeOrder (.ok snapshot)) :=
        hat.answered _
      refine (follows_assertCurrentAfterAdapter intent hat₁.running).andThen
        (fun _ _ _ hr => hr) ?_
      rintro - s' log' ⟨rfl, rfl⟩
      exact ⟨rfl, hat₁, rfl⟩
    | error e =>
      have hat₁ : At a intent .sent (log.record .exchangeOrder (.error e)) :=
        hat.answered _
      refine (follows_assertCurrentAfterAdapter intent hat₁.running).andThen
        (fun _ _ _ hr => hr) ?_
      rintro - s' log' ⟨rfl, rfl⟩
      have hslips : (log.record .exchangeOrder (.error e)).slips .assertCurrent (.ok ()) =
          isPostSendPersistence e := by
        simp [slips, record, advance, hat.stage]
      by_cases he : isPostSendPersistence e = true
      · rw [record_of_slips (hslips.trans he)]
        refine Failed.of_adapter (e := e) ?_ (Or.inl rfl)
        rw [if_pos he]
        exact hat₁.advance_stage .abandoned
      · rw [record_of_not_slips (hslips.trans (by simpa using he))]
        refine Failed.of_adapter (e := e) ?_ (Or.inl rfl)
        rw [if_neg he]
        exact hat₁
  · rw [hsync]
    by_cases he : e = .null
    · -- a thrown `null` reads as no error, and the send as not started
      subst he
      rw [if_pos rfl]
      dsimp only
      rw [if_pos hstarted]
      exact Failed.of_plain hat rfl rfl
    · rw [if_neg he]
      exact Failed.of_adapter hat (Or.inr houtcome)

/-- The fills of the response are rows of the order: as many, and without a failure. -/
theorem follows_exchangeFills (orderId : String) (fills : List ExchangeFillSnapshot) :
    Follows protocol (a.exchangeFills orderId fills) s log fun r s' log' =>
      s' = s ∧ Later log log' ∧ ∃ rows, r = .ok rows ∧ rows.length = fills.length := by
  induction fills generalizing log with
  | nil => exact ⟨rfl, refl log, [], rfl, rfl⟩
  | cons fill fills ih =>
    refine Follows.await_andThen trivial (fun e he => nomatch he) fun id _ => ?_
    have h₁ : Later log (log.record (.createId "fill") (.ok id)) := later_record rfl _ _
    have hrest : ∀ (log₂ : Log Num) (exchangeFillId : String), Later log log₂ →
        Follows protocol (do
          let rest ← a.exchangeFills orderId fills
          return (⟨id, orderId, exchangeFillId, a.market, fill.side, fill.price, fill.volume,
            some "KRW", fill.fee, some (if fill.fee = none then .missing
              else .exchangeFillConfirmed),
            some (directExchangeFillTimestamp a.deps.library fill.createdAt).provenance,
            (directExchangeFillTimestamp a.deps.library fill.createdAt).epochNanoseconds,
            (directExchangeFillTimestamp a.deps.library fill.createdAt).filledAt,
            fill.raw⟩ : FillRecord) :: rest) s log₂ fun r s' log' =>
          s' = s ∧ Later log log' ∧ ∃ rows, r = .ok rows ∧
            rows.length = (fill :: fills).length := by
      intro log₂ exchangeFillId h₂
      refine follows_bind.mpr (ih.mono fun r s' log' hr => ?_)
      obtain ⟨rfl, h₃, rows, rfl, hlength⟩ := hr
      exact ⟨rfl, IsTrans.trans _ _ _ h₂ h₃, _, rfl, by simp [hlength]⟩
    refine follows_bind.mpr ?_
    unfold Attempt.exchangeFillIdOf
    split
    · exact hrest _ _ h₁
    · refine follows_await.mpr ⟨trivial, fun r hr => ?_⟩
      cases r with
      | error e => exact nomatch hr
      | ok exchangeFillId =>
        have h₂ := @later_record Num (.createId "exchange_fill") rfl
          (log.record (.createId "fill") (.ok id)) (.ok exchangeFillId)
        exact hrest _ _ (IsTrans.trans _ _ _ h₁ h₂)

/-- The simulated fill: there is one when the terms give one, and its only failure is a plain
error. -/
theorem follows_createDryRunSyntheticFill (orderId filledAt raw : String) :
    Follows protocol (a.createDryRunSyntheticFill orderId filledAt raw) s log fun r s' log' =>
      s' = s ∧ Later log log' ∧
        match r with
        | .ok fill => fill.isSome = (dryRunFillTerms a.deps.library a.input).isSome
        | .error e => ∃ message, e = .error message := by
  unfold Attempt.createDryRunSyntheticFill
  cases hterms : dryRunFillTerms a.deps.library a.input with
  | none => exact ⟨rfl, refl log, rfl⟩
  | some terms =>
    obtain ⟨price, volume⟩ := terms
    refine Follows.await_andThen trivial (fun e he => nomatch he) fun id _ => ?_
    refine Follows.await_andThen trivial (fun e he => nomatch he) fun exchangeFillId _ => ?_
    have hlater : Later log ((log.record (.createId "fill") (.ok id)).record
        (.createId "dryrun_fill") (.ok exchangeFillId)) :=
      IsTrans.trans _ _ _ (later_record rfl log _) (later_record rfl _ _)
    refine follows_bind.mpr (follows_lift.mpr ?_)
    cases a.deps.library.parseCandidateEvidenceTimestamp filledAt with
    | error message => exact ⟨rfl, hlater, message, rfl⟩
    | ok epochNs => exact ⟨rfl, hlater, rfl⟩

/-- A persistence failure after the send: the account is paused, and the error is thrown or that the
pause could not be persisted. -/
theorem follows_throwPostSendPersistenceFailure {α : Type} (order : OrderRecord)
    (account occurredAt reason : String) :
    Follows protocol (throwPostSendPersistenceFailure order account occurredAt reason :
        Service Num α) s log fun r s' log' =>
      s' = s ∧ log' = { log with settling := true } ∧
        ∃ e, r = .error e ∧ isDefinitiveRejection e = false := by
  have hfault : isPostSendFault ("post-send-persistence:" ++ order.id) = true := by
    unfold isPostSendFault
    rw [String.toList_append]
    exact List.isPrefixOf_iff_prefix.mpr (List.prefix_append _ _)
  have hnext : ∀ (reason : String) r, log.record (.pauseForFault
      ⟨account, "post-send-persistence:" ++ order.id, reason, occurredAt, none⟩) r =
      { log with settling := true } := by
    intro reason r
    simp [record, slips, advance, hfault]
  unfold throwPostSendPersistenceFailure pauseForFault
  refine follows_bind.mpr (follows_catching.mpr (follows_await.mpr ⟨trivial, fun r _ => ?_⟩))
  cases r with
  | ok _ => exact ⟨rfl, hnext reason (.ok ()), _, rfl, rfl⟩
  | error e => exact ⟨rfl, hnext reason (.error e), _, rfl, rfl⟩

theorem follows_persistenceFault {α : Type} (h : Running a log) (order : OrderRecord)
    (account reason : String) :
    Follows protocol (do
        let occurredAt ← ask (.now .faultOccurredAt)
        throwPostSendPersistenceFailure order account occurredAt reason : Service Num α) s log
      fun r s' log' => s' = s ∧ Running a log' ∧ log'.intent = log.intent ∧
        log'.stage = log.stage ∧ ∃ e, r = .error e ∧
          (isDefinitiveRejection e = true → log'.clockRefusal = true) := by
  refine Follows.await_andThen trivial (fun e _ => ⟨rfl,
    h.later (Later.of_clock log (isDefinitiveRejection e)), rfl, rfl, e, rfl,
    fun hd => by simp [protocol, record, slips, advance, hd]⟩) fun occurredAt _ => ?_
  refine (follows_throwPostSendPersistenceFailure order account occurredAt reason).mono ?_
  rintro r s' log' ⟨rfl, rfl, e, rfl, hd⟩
  exact ⟨rfl, ⟨h.deps, h.input, h.leaseToken, h.released⟩, rfl, rfl, e, rfl,
    fun ht => absurd (hd.symm.trans ht) (by decide)⟩

theorem Failed.of_retained (h : Running a log) (horder : log.intent = some intent.order)
    (haccount : intent.order.exchangeAccountId = log.account) (hstage : log.stage = .sent)
    (hs : s.releaseLease = false)
    (hrefused : isDefinitiveRejection e = true → log.Refused ∨ log.clockRefusal = true) :
    Failed a intent e s log where
  running := h
  handled _ :=
    { order := horder
      account := haccount
      released := fun _ ht => absurd (hs.symm.trans ht) (by decide)
      sent := fun _ => hstage
      refused := hrefused
      settling := fun ht => absurd (hs.symm.trans ht) (by decide) }

/-- The order that is settled is the call's own, with a status the response accounts for. -/
structure Settles (a : Attempt Num) (intent : Attempt.Intent) (order : OrderRecord)
    (log : Log Num) : Prop where
  id : order.id = intent.order.id
  account : order.exchangeAccountId = intent.order.exchangeAccountId
  filled : order.status = .filled → log.Filled
  notRejected : order.status ≠ .rejected

variable {snapshot : ExchangeOrderSnapshot} {fills : List FillRecord}

theorem filled_of_settledFills (hfills : fills.length = snapshot.fills.length)
    {fill : Option FillRecord} {terms : Option (String × String)}
    (hfill : fill.isSome = terms.isSome) (h : (if fills = [] then fill.toList else fills) ≠ []) :
    snapshot.fills ≠ [] ∨ terms.isSome = true := by
  by_cases hnil : fills = []
  · rw [if_pos hnil] at h
    cases fill with
    | none => simp at h
    | some row => exact Or.inr hfill.symm
  · refine Or.inl fun hnone => hnil ?_
    rw [hnone] at hfills
    exact List.length_eq_zero_iff.mp hfills

theorem follows_settleDryRun (h : At a intent .sent log)
    (houtcome : log.outcome = some (.fulfilled snapshot)) {responded : OrderRecord}
    (hid : responded.id = intent.order.id)
    (haccount : responded.exchangeAccountId = intent.order.exchangeAccountId)
    (hstatus : responded.status = mapExchangeOrderStatus a.deps.library snapshot)
    (hfills : fills.length = snapshot.fills.length) :
    Follows protocol (a.settleDryRun intent snapshot responded fills) s log fun r s' log' =>
      match r with
      | .ok (order, _) => s' = s ∧ At a intent .sent log' ∧ Settles a intent order log'
      | .error e => Failed a intent e s' log' := by
  unfold Attempt.settleDryRun
  cases hpath : a.deps.sendPath with
  | liveAdapter =>
    refine ⟨rfl, h, hid, haccount, fun hf => ⟨snapshot, houtcome, ?_⟩, ?_⟩
    · rw [resultingStatus, h.running.deps, hpath]
      exact hstatus.symm.trans hf
    · rw [hstatus]
      exact mapExchangeOrderStatus_ne_rejected _ _
  | dryRunAdapter =>
    refine Follows.await_andThen trivial (fun e _ => Failed.of_clock h (Or.inr rfl) e)
      fun settledAt _ => ?_
    refine (follows_createDryRunSyntheticFill _ _ _).andThen ?_ ?_
    · rintro e s' log₁ ⟨rfl, h₁, message, rfl⟩
      exact Failed.of_plain (At.later h h₁) rfl rfl
    · rintro syntheticFill s' log₁ ⟨rfl, h₁, hfill⟩
      have hat₁ : At a intent .sent log₁ := h.later h₁
      by_cases hsettled : (if fills = [] then syntheticFill.toList else fills) = []
      · rw [if_pos hsettled]
        refine follows_bind.mpr (follows_assign.mpr ?_)
        refine (follows_throwPostSendPersistenceFailure _ _ _ _).mono ?_
        rintro r s'' log₂ ⟨rfl, rfl, e, rfl, hd⟩
        have hrun₂ : Running a { log₁ with settling := true } :=
          ⟨hat₁.running.deps, hat₁.running.input, hat₁.running.leaseToken, hat₁.running.released⟩
        exact Failed.of_retained hrun₂ hat₁.order
          (hat₁.account.trans hat₁.running.account.symm) hat₁.stage rfl
          fun ht => absurd (hd.symm.trans ht) (by decide)
      · rw [if_neg hsettled]
        refine ⟨rfl, hat₁, hid, haccount, fun _ => ⟨snapshot, h₁.outcome.trans houtcome, ?_⟩,
          by simp⟩
        rw [resultingStatus, hat₁.running.deps, hat₁.running.input, hpath]
        exact if_pos (filled_of_settledFills hfills hfill hsettled)

/-- The submission is persisted; when that leaves the order settled, the lease may be released. -/
theorem follows_persistSubmission (h : At a intent .sent log) (snapshot : ExchangeOrderSnapshot)
    (horder : Settles a intent order log) (fills : List FillRecord) :
    Follows protocol (a.persistSubmission intent snapshot order fills) s log fun r s' log' =>
      match r with
      | .ok _ => Running a log' ∧ (isTerminalOrderStatus order.status = true → log'.MayRelease)
      | .error e => Failed a intent e s' log' := by
  -- whatever fails while persisting is handled in the same way
  have hfault : ∀ (log₁ : Log Num), Running a log₁ → log₁.intent = some intent.order →
      log₁.stage = .sent → Follows protocol (do
        let occurredAt ← ask (.now .faultOccurredAt)
        throwPostSendPersistenceFailure intent.submittingOrder a.input.exchangeAccountId occurredAt
          "Exchange submission response could not be persisted atomically." : Service Num Unit)
        { s with releaseLease := false } log₁ fun r s' log' =>
          match r with
          | .ok _ => Running a log' ∧ (isTerminalOrderStatus order.status = true → log'.MayRelease)
          | .error e => Failed a intent e s' log' := by
    intro log₁ hrun₁ hintent₁ hstage₁
    refine (follows_persistenceFault hrun₁ _ _ _).mono ?_
    rintro r s' log' ⟨rfl, hrun₂, hintent₂, hstage₂, e, rfl, hd⟩
    exact Failed.of_retained hrun₂ (hintent₂.trans hintent₁)
      (h.account.trans hrun₂.account.symm) (hstage₂.trans hstage₁) rfl fun ht => Or.inr (hd ht)
  unfold Attempt.persistSubmission
  refine follows_bind.mpr (follows_assign.mpr (follows_catching.mpr ?_))
  refine (quiet_ask rfl).andThen (fun e log₁ h₁ =>
    hfault log₁ (h.later h₁).running (h.later h₁).order (h.later h₁).stage) fun eventId log₁ h₁ => ?_
  have hat₁ := h.later h₁
  refine (quiet_terminalEvent _ _ _ _).andThen (fun e log₂ h₂ =>
    hfault log₂ (hat₁.later h₂).running (hat₁.later h₂).order (hat₁.later h₂).stage)
    fun terminal log₂ h₂ => ?_
  have hat₂ := hat₁.later h₂
  have hfilled : order.status = .filled → log₂.Filled :=
    fun hf => filled_of_later h₂ (filled_of_later h₁ (horder.filled hf))
  refine follows_await.mpr ⟨⟨hat₂.stage, hat₂.own horder.id horder.account, hfilled,
    fun hr => absurd hr horder.notRejected⟩, fun r hr => ?_⟩
  have hrun₃ : Running a (log₂.submissionPersisted order r.isOk) :=
    ⟨hat₂.running.deps, hat₂.running.input, hat₂.running.leaseToken, hat₂.running.released⟩
  cases r with
  | error e => exact hfault _ hrun₃ hat₂.order hat₂.stage
  | ok _ =>
    refine ⟨hrun₃, fun hterminal => Or.inr (Or.inl ?_)⟩
    have hstatus : order.status = .filled := by
      have hsupported : order.status = .open ∨ order.status = .partiallyFilled ∨
          order.status = .filled ∨ order.status = .rejected := hr rfl
      rcases hsupported with hs | hs | hs | hs
      · simp [isTerminalOrderStatus, hs] at hterminal
      · simp [isTerminalOrderStatus, hs] at hterminal
      · exact hs
      · exact absurd hs horder.notRejected
    simp [protocol, record, slips, advance, submissionPersisted, isFinalStatus, hstatus,
      Except.isOk, Except.toBool]

theorem follows_settleSubmission (h : Sent a intent s log) :
    Follows protocol (a.settleSubmission intent) s log fun r s' log' =>
      match r with
      | .ok _ => Leaves a s' log'
      | .error e => Failed a intent e s' log' := by
  unfold Attempt.settleSubmission
  refine (follows_awaitExchangeOrder h).andThen (fun _ _ _ hr => hr) ?_
  rintro snapshot s₁ log₁ ⟨rfl, hat₁, houtcome₁⟩
  refine Follows.await_andThen trivial (fun e _ => Failed.of_clock hat₁ (Or.inl rfl) e)
    fun submittedAt _ => ?_
  refine follows_bind.mpr ((follows_exchangeFills _ _).mono fun r s₂ log₂ hr => ?_)
  obtain ⟨rfl, h₂, fills, rfl, hfills⟩ := hr
  have hat₂ : At a intent .sent log₂ := hat₁.later h₂
  have houtcome₂ := h₂.outcome.trans houtcome₁
  refine Follows.andThen (follows_settleDryRun hat₂ houtcome₂ ?hid ?haccount ?hstatus hfills)
    (fun _ _ _ hr => hr) ?_
  case hid => rfl
  case haccount => rfl
  case hstatus => rfl
  rintro ⟨order, fills⟩ s₃ log₃ ⟨rfl, hat₃, hsettles⟩
  exact (follows_persistSubmission hat₃ snapshot hsettles fills).andThen (fun _ _ _ hr => hr)
    fun _ _ _ hr => ⟨hr.1, hr.2⟩

end Settlement

/-! ### The handler after the send -/

section Handler

/-- A clock that throws before the outcome is recorded: a slip, unless a response was already being
persisted, and then the flag is down. -/
theorem Leaves.of_clock (h : Running a log) (hstage : log.stage = .sent)
    (hsettling : s.releaseLease = true → log.settling = false) {site : ClockSite}
    (hsite : site = .rejectedAt ∨ site = .uncertainAt) (e : Thrown) :
    Leaves a s (log.record (.now site) (.error e)) := by
  have hrun : Running a (log.advance (.now site) (.error e)) := h.later (Later.of_clock log _)
  have hslips : log.slips (.now site) (.error e) = !log.settling := by
    rcases hsite with rfl | rfl <;> simp [slips, hstage]
  cases hs : log.settling with
  | false => exact Leaves.of_slip hrun (by simp [hslips, hs])
  | true =>
    rw [record_of_not_slips (by simp [hslips, hs])]
    refine Leaves.of_retained hrun ?_
    by_contra hrelease
    have := hsettling (by simpa using hrelease)
    simp [hs] at this

theorem follows_settlingFault {Q : Except Thrown Unit → Locals → Log Num → Prop} (h : Running a log)
    (hs : s.releaseLease = false) (order : OrderRecord) (account reason : String)
    (hleaves : ∀ e s' log', Leaves a s' log' → Q (.error e) s' log') :
    Follows protocol (do
        let occurredAt ← ask (.now .faultOccurredAt)
        throwPostSendPersistenceFailure order account occurredAt reason : Service Num Unit)
      s log Q := by
  refine (follows_persistenceFault h _ _ _).mono ?_
  rintro r s' log' ⟨rfl, hrun, -, -, e, rfl, -⟩
  exact hleaves _ _ _ (Leaves.of_retained hrun hs)

theorem follows_recordRejection (h : Running a log) (hh : Handled intent e s log)
    (hstage : log.stage = .sent) (hd : isDefinitiveRejection e = true)
    (failure : SubmissionErrorDescription) :
    Follows protocol (a.recordRejection intent failure) s log fun _ s' log' => Leaves a s' log' := by
  have hrefused := hh.refused hd
  unfold Attempt.recordRejection
  refine Follows.await_andThen trivial (fun e _ => Leaves.of_clock h hstage hh.settling (Or.inl rfl) e)
    fun updatedAt _ => ?_
  refine follows_bind.mpr (follows_assign.mpr ?_)
  refine follows_bind.mpr (follows_catching.mpr ?_)
  refine (quiet_ask rfl).andThen (fun e log₁ h₁ =>
    follows_settlingFault (h.later h₁) rfl _ _ _ fun _ _ _ hl => hl) fun eventId log₁ h₁ => ?_
  have hrun₁ : Running a log₁ := h.later h₁
  have hown : log₁.Own { intent.submittingOrder with
      status := .rejected
      failureCode := some "EXCHANGE_ORDER_REJECTED"
      failureMessage := some failure.message
      exchangeResponseJson := some (jsonRecord (metadataFields failure.metadata))
      updatedAt := updatedAt } :=
    ⟨intent.order, h₁.intent.trans hh.order, rfl, hh.account.trans h₁.account.symm⟩
  refine follows_await.mpr ⟨⟨h₁.stage.trans hstage, hown, fun hf => by simp at hf,
    fun _ => refused_of_later h₁ hrefused⟩, fun r _ => ?_⟩
  have hrun₂ : ∀ ok, Running a (log₁.submissionPersisted { intent.submittingOrder with
      status := .rejected
      failureCode := some "EXCHANGE_ORDER_REJECTED"
      failureMessage := some failure.message
      exchangeResponseJson := some (jsonRecord (metadataFields failure.metadata))
      updatedAt := updatedAt } ok) :=
    fun _ => ⟨hrun₁.deps, hrun₁.input, hrun₁.leaseToken, hrun₁.released⟩
  cases r with
  | error e => exact follows_settlingFault (hrun₂ false) rfl _ _ _ fun _ _ _ hl => hl
  | ok _ =>
    refine follows_bind.mpr (follows_assign.mpr ?_)
    have hl : ∀ log₃, Later _ log₃ → Leaves a { s with releaseLease := true } log₃ := fun log₃ h₃ =>
      ⟨(hrun₂ true).later h₃, fun _ => Or.inr (Or.inl (h₃.stage.trans rfl))⟩
    exact (quiet_safeReport _ _).andThen (fun _ log₃ h₃ => hl log₃ h₃) fun _ log₃ h₃ => hl log₃ h₃

theorem follows_recordUncertain (h : Running a log) (hh : Handled intent e s log)
    (hstage : log.stage = .sent) (failure : SubmissionErrorDescription) :
    Follows protocol (a.recordUncertain intent failure) s log fun _ s' log' => Leaves a s' log' := by
  unfold Attempt.recordUncertain
  refine Follows.await_andThen trivial (fun e _ => Leaves.of_clock h hstage hh.settling (Or.inr rfl) e)
    fun updatedAt _ => ?_
  refine follows_bind.mpr (follows_assign.mpr ?_)
  refine follows_bind.mpr (follows_catching.mpr ?_)
  refine (quiet_ask rfl).andThen (fun e log₁ h₁ =>
    follows_settlingFault (h.later h₁) rfl _ _ _ fun _ _ _ hl => hl) fun eventId log₁ h₁ => ?_
  have hrun₁ : Running a log₁ := h.later h₁
  refine (quiet_createRiskEvent _ _ _ _ _ _).andThen (fun e log₂ h₂ =>
    follows_settlingFault (hrun₁.later h₂) rfl _ _ _ fun _ _ _ hl => hl) fun riskEvent log₂ h₂ => ?_
  have hrun₂ : Running a log₂ := hrun₁.later h₂
  refine follows_await.mpr ⟨⟨h₂.stage.trans (h₁.stage.trans hstage), intent.order,
    h₂.intent.trans (h₁.intent.trans hh.order), rfl,
    hh.account.trans (h₂.account.trans h₁.account).symm⟩, fun r _ => ?_⟩
  have hrun₃ : Running a { log₂ with settling := true } :=
    ⟨hrun₂.deps, hrun₂.input, hrun₂.leaseToken, hrun₂.released⟩
  cases r with
  | error e => exact follows_settlingFault hrun₃ rfl _ _ _ fun _ _ _ hl => hl
  | ok _ =>
    have hl : ∀ log₄, Later _ log₄ → Leaves a { s with releaseLease := false } log₄ :=
      fun log₄ h₄ => Leaves.of_retained (hrun₃.later h₄) rfl
    exact (quiet_pauseForFault (isPostSendFault_uncertainFault _) _ _ _).andThen
      (fun _ log₄ h₄ => hl log₄ h₄) fun _ log₄ h₄ => hl log₄ h₄

theorem follows_handleSubmissionError (h : Failed a intent e s log) :
    Follows protocol (a.handleSubmissionError intent e) s log
      fun _ s' log' => Leaves a s' log' := by
  unfold Attempt.handleSubmissionError
  refine follows_bind.mpr (follows_locals.mpr ?_)
  dsimp only
  cases hasserted : s.postAdapterOwnershipAssertionFailed with
  | true => exact Leaves.of_retained h.running rfl
  | false =>
    have hh := h.handled hasserted
    -- an error that is neither about ownership nor about persistence is recorded
    have hrecord : isPostSendPersistence e = false →
        Follows protocol
          (if isDefinitiveRejection e then a.recordRejection intent (describeSubmissionError e)
          else a.recordUncertain intent (describeSubmissionError e)) s log
          fun _ s' log' => Leaves a s' log' := by
      intro he
      by_cases hd : isDefinitiveRejection e = true
      · rw [if_pos hd]
        exact follows_recordRejection h.running hh (hh.sent he) hd _
      · rw [if_neg hd]
        exact follows_recordUncertain h.running hh (hh.sent he) _
    cases e with
    | runtimeOwnership message => exact Leaves.of_retained h.running rfl
    | postSendPersistence message => exact ⟨h.running, hh.released rfl⟩
    | _ => exact hrecord rfl

end Handler

/-! ### The method -/

section Method

theorem follows_submitUnderLease (h : Running a log) (hstage : log.stage = .starting)
    (hintent : log.intent = none) (hsettling : log.settling = false) :
    Follows protocol a.submitUnderLease {} log fun _ s' log' => Leaves a s' log' := by
  unfold Attempt.submitUnderLease
  refine (follows_checkBeforeIntent a).andThen
    (fun _ _ _ hr => Leaves.of_starting (h.later hr.1) (hr.1.stage.trans hstage)) ?_
  rintro (result | authority) s₁ log₁ ⟨h₁, hs₁⟩
  · exact Leaves.of_starting (h.later h₁) (h₁.stage.trans hstage)
  · obtain rfl := hs₁ authority rfl
    refine (follows_persistIntent (h.later h₁) (h₁.stage.trans hstage) (h₁.intent.trans hintent)
      (h₁.settling.trans hsettling)).andThen (fun _ _ _ hr => hr) ?_
    rintro intent s₂ log₂ ⟨rfl, hat₂⟩
    refine (follows_renewBeforeSend hat₂).andThen (fun _ _ _ hr => hr) ?_
    rintro - s₃ log₃ ⟨rfl, hat₃⟩
    refine (follows_sendOrder hat₃ authority).andThen (fun _ _ _ hr => hr) fun _ s₄ log₄ hr => ?_
    refine follows_catching.mpr ((follows_settleSubmission hr).mono fun r s₅ log₅ hr => ?_)
    cases r with
    | ok _ => exact hr
    | error e => exact follows_handleSubmissionError hr

theorem follows_releaseAtEnd (h : Leaves a s log) :
    Follows protocol a.releaseAtEnd s log fun _ _ _ => True := by
  unfold Attempt.releaseAtEnd
  refine follows_bind.mpr (follows_locals.mpr ?_)
  dsimp only
  by_cases hs : s.releaseLease = true
  · rw [if_pos hs]
    refine (quiet_ask rfl).andThen (fun _ _ _ => trivial) fun occurredAt log₁ h₁ => ?_
    have hrun₁ : Running a log₁ := h.running.later h₁
    have hmay : log₁.MayRelease := by
      unfold MayRelease
      rw [h₁.stage]
      exact h.mayRelease hs
    unfold releaseLeaseOrFail
    refine follows_bind.mpr (follows_catching.mpr (follows_await.mpr
      ⟨⟨hmay, hrun₁.leaseToken, hrun₁.account.symm⟩, fun r _ => ?_⟩))
    -- whether the lease was released or not, the rest is quiet
    have hrest : ∀ released log₂, Follows protocol (if released = true then pure () else do
        recordLeaseBlockedAndPause a.input a.idempotencyKey a.market occurredAt
          "Account execution lease release is ambiguous; execution remains paused pending recovery."
          none
        raise (.accountExecutionLease "Account execution lease release is ambiguous.") :
        Service Num Unit) s log₂ fun _ _ _ => True := by
      intro released log₂
      split
      · trivial
      · exact (Fails.after (quiet_recordLeaseBlockedAndPause _ _ _ _ _ _) fun _ =>
          Fails.raise _).follows fun _ _ _ => trivial
    cases r with
    | error e => exact hrest false _
    | ok released => exact hrest released _
  · rw [if_neg hs]
    trivial

end Method

/-- What a call has done when it starts. -/
def initialLog (deps : Dependencies Num) (input : SubmitOrderFromDecisionInput Num) : Log Num where
  deps := deps
  input := input

section Calls

/-- A call that has not asked for its lease yet. -/
structure Unleased (log : Log Num) : Prop where
  leaseToken : log.leaseToken = none
  released : log.released = false
  stage : log.stage = .starting
  intent : log.intent = none
  settling : log.settling = false

theorem Unleased.later {log' : Log Num} (h : Unleased log) (hl : Later log log') :
    Unleased log' := by
  obtain ⟨ids, refusal, rfl⟩ := hl
  exact ⟨h.leaseToken, h.released, h.stage, h.intent, h.settling⟩

theorem follows_submitNew (h : Unleased log) (market : SupportedMarket)
    (candidate : Option CandidateContext) (attemptStartedAt idempotencyKey : String) :
    Follows protocol (submitNew log.deps log.input market candidate attemptStartedAt
      idempotencyKey) {} log fun _ _ _ => True := by
  unfold submitNew
  refine Follows.await_andThen trivial (fun e he => nomatch he) fun token _ => ?_
  have hun₁ : Unleased (log.record (.createId "account_execution_lease") (.ok token)) :=
    h.later (later_record rfl _ _)
  have hfail : ∀ {α : Type} (message reason : String) (log₂ : Log Num)
      {Q : Except Thrown α → Locals → Log Num → Prop}, (∀ e s' log', Q (.error e) s' log') →
      Follows protocol (do
        recordLeaseBlockedAndPause log.input idempotencyKey market attemptStartedAt message none
        raise (.accountExecutionLease reason) : Service Num α) {} log₂ Q := by
    intro α message reason log₂ Q hQ
    exact (Fails.after (quiet_recordLeaseBlockedAndPause _ _ _ _ _ _) fun _ =>
      Fails.raise _).follows fun e _ _ => hQ e _ _
  refine follows_bind.mpr (follows_catching.mpr (follows_bind.mpr (follows_lift.mpr ?_)))
  cases leaseWindow log.deps attemptStartedAt .acquisition with
  | error e => exact hfail _ _ _ fun _ _ _ => trivial
  | ok window =>
    refine Follows.await_andThen ⟨hun₁.leaseToken, List.mem_cons_self, rfl⟩
      (fun e _ => hfail _ _ _ fun _ _ _ => trivial) fun lease _ => ?_
    refine follows_pure.mpr ?_
    cases lease with
    | none =>
      exact (quiet_recordLeaseBlockedAndPause _ _ _ _ _ _).andThen (fun _ _ _ => trivial)
        fun _ _ _ => trivial
    | some lease =>
      dsimp only
      split
      · exact hfail _ _ _ fun _ _ _ => trivial
      · refine follows_finishing.mpr (Follows.mono ?_ (follows_submitUnderLease
          ⟨rfl, rfl, rfl, hun₁.released⟩ hun₁.stage hun₁.intent hun₁.settling))
        intro r s₂ log₂ hr
        refine (follows_releaseAtEnd hr).mono ?_
        intro r' _ _ _
        cases r' <;> trivial

/-- The service keeps to the protocol, whatever its dependencies answer. -/
theorem follows_submitOrderFromDecision (deps : Dependencies Num)
    (input : SubmitOrderFromDecisionInput Num) :
    Follows protocol (submitOrderFromDecision deps input) {} (initialLog deps input)
      fun _ _ _ => True := by
  unfold submitOrderFromDecision
  refine (quiet_ask rfl).andThen (fun _ _ _ => trivial) fun _ log₁ h₁ => ?_
  refine (quiet_computed _).andThen (fun _ _ _ => trivial) fun _ log₂ h₂ => ?_
  refine (quiet_ask rfl).andThen (fun _ _ _ => trivial) fun attemptStartedAt log₃ h₃ => ?_
  refine (quiet_ask rfl).andThen (fun _ _ _ => trivial) fun duplicate log₄ h₄ => ?_
  refine (quiet_prepareCandidateContext _ _ _).andThen (fun _ _ _ => trivial)
    fun candidate log₅ h₅ => ?_
  cases duplicate with
  | some duplicate => exact (quiet_submitDuplicate _ _ _ _ _ _).follows fun _ _ _ => trivial
  | none =>
    have hlater : Later (initialLog deps input) log₅ :=
      IsTrans.trans _ _ _ (IsTrans.trans _ _ _ (IsTrans.trans _ _ _
        (IsTrans.trans _ _ _ h₁ h₂) h₃) h₄) h₅
    have hun : Unleased log₅ :=
      (⟨rfl, rfl, rfl, rfl, rfl⟩ : Unleased (initialLog deps input)).later hlater
    obtain ⟨ids, refusal, rfl⟩ := hlater
    exact follows_submitNew hun _ _ _ _

end Calls

end AutoTrade.Execution.Conformance
