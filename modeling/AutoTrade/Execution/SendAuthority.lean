import AutoTrade.Execution.Quiet

/-! # The authority of a send

What a call of `submitOrderFromDecision` hands to the runtime authority: the account of its input and
the execution mode and gate it read right after it acquired its lease, which its adapter accepts.
`authorityProtocol` carries that first read along; there is one lemma for each part of the method. -/

namespace AutoTrade.Execution.SendAuthority

open Lib.Awaits Lib.Awaits.Async Domain.Types Domain.PilotTypes
open Db.LeaseStore (isSafeInteger)
open Execution.Records Execution.Helpers Execution.Service
open Execution.CallLog Execution.CallLog.Log Execution.Quiet

variable {Num : Type}

/-! ### The protocol -/

/-- What a call has read of the operator state. -/
structure Reading (Num : Type) where
  deps : Dependencies Num
  input : SubmitOrderFromDecisionInput Num
  /-- The lease was acquired. -/
  leased : Bool := false
  /-- The first state that was read under the lease. -/
  initial : Option ExecutionStateRecord := none

namespace Reading

variable (reading : Reading Num)

def next : (op : Op) → Reply Num op → Reading Num
  | .acquireLease _, .ok (some _) => { reading with leased := true }
  | .getState, .ok state =>
    if reading.leased ∧ reading.initial = none then { reading with initial := some state } else reading
  | _, _ => reading

/-- The authority that was read first, and that the adapter accepts. -/
def Holds (authority : ExecutionAuthority) : Prop :=
  ∃ state, reading.initial = some state ∧ authority = selectExecutionAuthority state ∧
    executionAdapterAcceptsAuthority reading.deps.sendPath authority = true

def Allowed : Op → Prop
  | .runWithCurrentExecutionAuthority input _ _ =>
    input.exchangeAccountId = reading.input.exchangeAccountId ∧
      reading.Holds ⟨input.expectedExecutionMode, input.expectedLiveExecutionGate⟩
  | _ => True

end Reading

def authorityProtocol : Protocol Op (Reply Num) (Reading Num) where
  allowed := Reading.Allowed
  possible := Possible
  next := Reading.next

/-- The lease is neither acquired nor forgotten, and a first read stays the first one. -/
structure Kept (reading reading' : Reading Num) : Prop where
  deps : reading'.deps = reading.deps
  input : reading'.input = reading.input
  leased : reading'.leased = reading.leased
  unleased : reading.leased = false → reading'.initial = reading.initial
  initial : ∀ state, reading.initial = some state → reading'.initial = some state

instance : Std.Refl (@Kept Num) := ⟨fun _ => ⟨rfl, rfl, rfl, fun _ => rfl, fun _ h => h⟩⟩

instance : IsTrans (Reading Num) Kept where
  trans _ _ _ h h' := ⟨h'.deps.trans h.deps, h'.input.trans h.input, h'.leased.trans h.leased,
    fun hleased => (h'.unleased (h.leased.trans hleased)).trans (h.unleased hleased),
    fun state hstate => h'.initial state (h.initial state hstate)⟩

variable {authority : ExecutionAuthority}

theorem Kept.holds {reading reading' : Reading Num} (h : Kept reading reading')
    (hholds : reading.Holds authority) : reading'.Holds authority := by
  obtain ⟨state, hstate, hauthority, haccepts⟩ := hholds
  refine ⟨state, h.initial state hstate, hauthority, ?_⟩
  rw [h.deps]
  exact haccepts

/-- The operations that neither acquire the lease nor send. -/
def isOrdinary : Op → Bool
  | .acquireLease _ => false
  | .runWithCurrentExecutionAuthority _ _ _ => false
  | _ => true

variable {op : Op}

theorem allowed_of_isOrdinary (h : isOrdinary op = true) (reading : Reading Num) :
    reading.Allowed op := by
  cases op <;> trivial

theorem kept_next (h : isOrdinary op = true) (reading : Reading Num) (reply : Reply Num op) :
    Kept reading (reading.next op reply) := by
  cases op <;> first | exact refl reading | cases h
  case getState =>
    cases reply with
    | error e => exact refl reading
    | ok state =>
      unfold Reading.next
      split_ifs with hfirst
      · refine ⟨rfl, rfl, rfl, fun hleased => ?_, fun earlier hearlier => ?_⟩
        · rw [hfirst.1] at hleased
          cases hleased
        · rw [hfirst.2] at hearlier
          cases hearlier
      · exact refl reading

theorem moves_ask (h : isOrdinary op = true) :
    Moves authorityProtocol Kept (ask op : Service Num (Ans Num op)) :=
  Moves.await (allowed_of_isOrdinary h) fun reading reply _ => kept_next h reading reply

/-! ### The quiet parts -/

/-- A call that is over: it holds a lease token and awaits no order method any more. -/
def IsOver (log : Log Num) : Prop :=
  log.leaseToken.isSome = true ∧ (log.stage = .settled ∨ log.stage = .abandoned)

variable {log : Log Num}

theorem isOrdinary_of_isOver (h : IsOver log) (hall : log.Allowed op) : isOrdinary op = true := by
  obtain ⟨htoken, hstage⟩ := h
  cases op <;> first | rfl | skip
  case acquireLease input =>
    rw [hall.1] at htoken
    cases htoken
  case runWithCurrentExecutionAuthority input orderId request =>
    rw [hall.1] at hstage
    rcases hstage with hstage | hstage <;> cases hstage

theorem isOver_record (h : IsOver log) (hall : log.Allowed op) (reply : Reply Num op) :
    IsOver (log.record op reply) := by
  have hadvance : IsOver (log.advance op reply) := by
    obtain ⟨htoken, hstage⟩ := h
    cases op <;> first | exact ⟨htoken, hstage⟩ | skip
    case createId kind => cases reply <;> exact ⟨htoken, hstage⟩
    case acquireLease input => exact ⟨rfl, hstage⟩
    case persistOrderIntent input =>
      rw [hall.1] at hstage
      rcases hstage with hstage | hstage <;> cases hstage
    case persistCandidateBoundOrderIntent input =>
      rw [hall.1.1] at hstage
      rcases hstage with hstage | hstage <;> cases hstage
    case updateOrder order =>
      rw [hall.1] at hstage
      rcases hstage with hstage | hstage <;> cases hstage
    case renewLease input =>
      rw [hall.1] at hstage
      rcases hstage with hstage | hstage <;> cases hstage
    case runWithCurrentExecutionAuthority input orderId request =>
      rw [hall.1] at hstage
      rcases hstage with hstage | hstage <;> cases hstage
    case exchangeOrder => cases reply <;> exact ⟨htoken, hstage⟩
    case persistExchangeSubmission input =>
      rw [hall.1] at hstage
      rcases hstage with hstage | hstage <;> cases hstage
    case now site => cases reply <;> exact ⟨htoken, hstage⟩
  unfold record
  split
  · exact ⟨hadvance.1, Or.inr rfl⟩
  · exact hadvance

variable {α : Type}

theorem kept_of_follows {x : Prog Op (Reply Num) α} {Q : α → Log Num → Prop}
    (h : x.Follows protocol log Q) (hover : IsOver log) (reading : Reading Num) :
    x.Follows authorityProtocol reading fun _ reading' => Kept reading reading' := by
  induction x generalizing log reading with
  | done a => exact refl reading
  | call op k ih =>
    obtain ⟨hall, hrest⟩ := h
    have hordinary := isOrdinary_of_isOver hover hall
    refine ⟨allowed_of_isOrdinary hordinary reading, fun reply hreply => ?_⟩
    refine (ih reply (hrest reply hreply) (isOver_record hover hall reply) _).mono ?_
    intro a reading' hkept
    exact IsTrans.trans _ _ _ (kept_next hordinary reading reply) hkept

/-- A quiet part of the service neither acquires nor sends: from the log of a call that is over it
could do neither. -/
theorem moves_of_quiet {x : Service Num α} (h : Quiet protocol Later x) :
    Moves authorityProtocol Kept x := by
  intro s reading
  exact kept_of_follows (h s ⟨reading.deps, reading.input, [], some "", none, .settled, none, none,
    false, false, false⟩) ⟨rfl, Or.inl rfl⟩ reading

theorem moves_computed (r : Except String α) :
    Moves authorityProtocol Kept (computed r : Service Num α) := Moves.lift _

theorem moves_recordBlocked (a : Attempt Num) (occurredAt reason : String) (orderId : Option String) :
    Moves authorityProtocol Kept (a.recordBlocked occurredAt reason orderId) :=
  moves_of_quiet (quiet_recordLeaseBlockedAndPause _ _ _ _ _ _)

variable (deps : Dependencies Num)

theorem moves_failCandidateIntent (context : CandidateContext)
    (input : SubmitOrderFromDecisionInput Num) (orderId bindingId : String)
    (stage : CandidateIntentFaultStage) (attemptedAt : Option String) (message : String) :
    Moves authorityProtocol Kept
      (failCandidateIntent deps context input orderId bindingId stage attemptedAt message :
        Service Num α) :=
  moves_of_quiet (fails_failCandidateIntent _ _ _ _ _ _ _ _).quiet

/-! ### Parts that neither acquire nor send -/

section Parts

variable (a : Attempt Num)

theorem moves_pauseForFault (account faultId reason occurredAt : String) :
    Moves authorityProtocol Kept
      (pauseForFault account faultId reason occurredAt : Service Num Unit) :=
  Moves.catching (moves_ask rfl) fun _ => Moves.raise _

theorem moves_throwPostSendPersistenceFailure (order : OrderRecord)
    (account occurredAt reason : String) :
    Moves authorityProtocol Kept
      (throwPostSendPersistenceFailure order account occurredAt reason : Service Num α) :=
  Moves.bind (moves_pauseForFault _ _ _ _) fun _ => Moves.raise _

theorem moves_leaseBlocked (message : String) :
    Moves authorityProtocol Kept (a.leaseBlocked message) :=
  Moves.bind (Moves.catching (moves_recordBlocked _ _ _ _) fun _ =>
    Moves.bind (Moves.assign _) fun _ => Moves.raise _) fun _ => Moves.pure _

theorem moves_persistCandidateIntent (context : CandidateContext)
    (orderId eventId bindingId : String) :
    Moves authorityProtocol Kept (a.persistCandidateIntent context orderId eventId bindingId) := by
  unfold Attempt.persistCandidateIntent
  refine Moves.bind (Moves.catching (Moves.bind (moves_ask rfl) fun _ => moves_computed _) fun _ =>
    Moves.bind (Moves.assign _) fun _ => moves_failCandidateIntent _ _ _ _ _ _ _ _) fun _ => ?_
  refine Moves.bind (Moves.catching (moves_computed _) fun _ =>
    Moves.bind (Moves.assign _) fun _ => moves_failCandidateIntent _ _ _ _ _ _ _ _) fun _ => ?_
  exact Moves.bind (Moves.catching (moves_ask rfl) fun _ =>
    Moves.bind (Moves.assign _) fun _ => moves_failCandidateIntent _ _ _ _ _ _ _ _) fun _ =>
      Moves.pure _

theorem moves_persistIntent : Moves authorityProtocol Kept a.persistIntent := by
  unfold Attempt.persistIntent
  refine Moves.bind (moves_ask rfl) fun orderId => Moves.bind (moves_ask rfl) fun eventId => ?_
  split
  · exact Moves.bind (moves_ask rfl) fun bindingId => moves_persistCandidateIntent a _ _ _ _
  · exact Moves.bind (moves_ask rfl) fun _ => Moves.pure _

variable (intent : Attempt.Intent)

theorem moves_renewBeforeSend : Moves authorityProtocol Kept (a.renewBeforeSend intent) := by
  unfold Attempt.renewBeforeSend
  refine Moves.bind (moves_ask rfl) fun _ => Moves.bind (moves_ask rfl) fun renewalAt => ?_
  refine Moves.catching (Moves.bind (Moves.lift _) fun window => ?_) fun _ =>
    Moves.bind (Moves.assign _) fun _ => Moves.bind (moves_recordBlocked _ _ _ _) fun _ =>
      Moves.raise _
  dsimp only
  split
  · exact Moves.raise _
  · refine Moves.bind (moves_ask rfl) fun renewed => ?_
    split
    · exact Moves.pure _
    · exact Moves.raise _

theorem moves_handleSendError (e : Thrown) :
    Moves authorityProtocol Kept (a.handleSendError intent e) := by
  unfold Attempt.handleSendError
  refine Moves.bind Moves.locals fun s => ?_
  split
  · exact Moves.assign _
  · refine Moves.bind (Moves.assign _) fun _ => ?_
    split
    · exact Moves.raise _
    · split
      · exact Moves.bind (moves_of_quiet (quiet_pauseCandidateIntentFault _ _ _ _ _ _ _)) fun _ =>
          Moves.raise _
      · exact Moves.bind (moves_ask rfl) fun _ => Moves.bind (moves_recordBlocked _ _ _ _) fun _ =>
          Moves.raise _

theorem moves_assertCurrentAfterAdapter :
    Moves authorityProtocol Kept (Attempt.assertCurrentAfterAdapter : Service Num Unit) :=
  Moves.catching (moves_ask rfl) fun _ => Moves.bind (Moves.assign _) fun _ => Moves.raise _

theorem moves_awaitExchangeOrder :
    Moves authorityProtocol Kept (Attempt.awaitExchangeOrder : Service Num ExchangeOrderSnapshot) := by
  unfold Attempt.awaitExchangeOrder
  refine Moves.bind Moves.locals fun s => ?_
  split
  · exact Moves.raise _
  · split
    · exact Moves.raise _
    · refine Moves.bind (Moves.catching (moves_ask rfl) fun _ =>
        Moves.bind moves_assertCurrentAfterAdapter fun _ => Moves.raise _) fun snapshot => ?_
      exact Moves.bind moves_assertCurrentAfterAdapter fun _ => Moves.pure _

theorem moves_settleDryRun (snapshot : ExchangeOrderSnapshot) (updatedOrder : OrderRecord)
    (fills : List FillRecord) :
    Moves authorityProtocol Kept (a.settleDryRun intent snapshot updatedOrder fills) := by
  unfold Attempt.settleDryRun
  split
  · exact Moves.pure _
  · refine Moves.bind (moves_ask rfl) fun settledAt => ?_
    refine Moves.bind (moves_of_quiet (quiet_createDryRunSyntheticFill a _ _ _)) fun fill => ?_
    generalize (if fills = [] then fill.toList else fills) = settledFills
    dsimp only
    split
    · exact Moves.bind (Moves.assign _) fun _ => moves_throwPostSendPersistenceFailure _ _ _ _
    · exact Moves.pure _

theorem moves_persistSubmission (snapshot : ExchangeOrderSnapshot) (updatedOrder : OrderRecord)
    (fills : List FillRecord) :
    Moves authorityProtocol Kept (a.persistSubmission intent snapshot updatedOrder fills) :=
  Moves.bind (Moves.assign _) fun _ => Moves.catching
    (Moves.bind (moves_ask rfl) fun _ => Moves.bind (moves_of_quiet (quiet_terminalEvent a _ _ _))
      fun _ => moves_ask rfl)
    fun _ => Moves.bind (moves_ask rfl) fun _ => moves_throwPostSendPersistenceFailure _ _ _ _

theorem moves_settleSubmission : Moves authorityProtocol Kept (a.settleSubmission intent) := by
  unfold Attempt.settleSubmission
  refine Moves.bind moves_awaitExchangeOrder fun snapshot => Moves.bind (moves_ask rfl) fun _ => ?_
  dsimp only
  refine Moves.bind (moves_of_quiet (quiet_exchangeFills a _ _)) fun fills => ?_
  refine Moves.bind (moves_settleDryRun a _ _ _ _) fun settled => ?_
  refine Moves.bind (moves_persistSubmission a _ _ _ _) fun _ => ?_
  exact Moves.bind (Moves.assign _) fun _ => Moves.pure _

theorem moves_recordRejection (failure : SubmissionErrorDescription) :
    Moves authorityProtocol Kept (a.recordRejection intent failure) := by
  unfold Attempt.recordRejection
  refine Moves.bind (moves_ask rfl) fun updatedAt => Moves.bind (Moves.assign _) fun _ => ?_
  refine Moves.bind (Moves.catching (Moves.bind (moves_ask rfl) fun _ => moves_ask rfl) fun _ =>
    Moves.bind (moves_ask rfl) fun _ => moves_throwPostSendPersistenceFailure _ _ _ _) fun _ => ?_
  refine Moves.bind (Moves.assign _) fun _ => ?_
  exact Moves.bind (moves_of_quiet (quiet_safeReport _ _)) fun _ => Moves.pure _

theorem moves_recordUncertain (failure : SubmissionErrorDescription) :
    Moves authorityProtocol Kept (a.recordUncertain intent failure) := by
  unfold Attempt.recordUncertain
  refine Moves.bind (moves_ask rfl) fun updatedAt => Moves.bind (Moves.assign _) fun _ => ?_
  refine Moves.bind (Moves.catching (Moves.bind (moves_ask rfl) fun _ =>
    Moves.bind (moves_of_quiet (quiet_createRiskEvent _ _ _ _ _ _)) fun _ => moves_ask rfl) fun _ =>
    Moves.bind (moves_ask rfl) fun _ => moves_throwPostSendPersistenceFailure _ _ _ _) fun _ => ?_
  exact Moves.bind (moves_pauseForFault _ _ _ _) fun _ => Moves.pure _

theorem moves_handleSubmissionError (e : Thrown) :
    Moves authorityProtocol Kept (a.handleSubmissionError intent e) := by
  unfold Attempt.handleSubmissionError
  refine Moves.bind Moves.locals fun s => ?_
  split
  · exact Moves.bind (Moves.assign _) fun _ => Moves.raise _
  · exact Moves.bind (Moves.assign _) fun _ => Moves.raise _
  · exact Moves.raise _
  · split
    · exact moves_recordRejection a _ _
    · exact moves_recordUncertain a _ _

theorem moves_releaseAtEnd : Moves authorityProtocol Kept a.releaseAtEnd := by
  unfold Attempt.releaseAtEnd releaseLeaseOrFail
  refine Moves.bind Moves.locals fun s => ?_
  split
  · refine Moves.bind (moves_ask rfl) fun occurredAt => ?_
    refine Moves.bind (Moves.catching (moves_ask rfl) fun _ => Moves.pure _) fun released => ?_
    split
    · exact Moves.pure _
    · exact Moves.bind (moves_of_quiet (quiet_recordLeaseBlockedAndPause _ _ _ _ _ _)) fun _ =>
        Moves.raise _
  · exact Moves.pure _

end Parts

/-! ### A call under any protocol -/

section Call

variable {σ : Type} {P : Protocol Op (Reply Num) σ} {R : σ → σ → Prop} [IsTrans σ R]
variable {ready : ExecutionAuthority → σ → Prop} {s : Locals} {g : σ}

/-- The parts of a call move a protocol along `R`, and what is ready stays so. -/
structure Routine (P : Protocol Op (Reply Num) σ) (R : σ → σ → Prop)
    (ready : ExecutionAuthority → σ → Prop) : Prop where
  moves : ∀ {α : Type} {x : Service Num α}, Moves authorityProtocol Kept x → Moves P R x
  stays : ∀ {authority : ExecutionAuthority} {g g' : σ}, R g g' → ready authority g → ready authority g'

/-- A call that is ready may send. -/
def MaySend (P : Protocol Op (Reply Num) σ) (R : σ → σ → Prop) (ready : ExecutionAuthority → σ → Prop)
    (a : Attempt Num) : Prop :=
  ∀ authority (intent : Attempt.Intent) g, ready authority g →
    P.allowed g (.runWithCurrentExecutionAuthority ⟨a.input.exchangeAccountId,
      authority.executionMode, authority.liveExecutionGate⟩ intent.order.id
      (orderRequest a.input a.market intent.order.identifier)) ∧
    ∀ reply, R g (P.next g (.runWithCurrentExecutionAuthority ⟨a.input.exchangeAccountId,
      authority.executionMode, authority.liveExecutionGate⟩ intent.order.id
      (orderRequest a.input a.market intent.order.identifier)) reply)

variable {a : Attempt Num}

section

variable (h : Routine P R ready) (hsend : MaySend P R ready a)
include h hsend

theorem Routine.follows_checkAndSend (intent : Attempt.Intent) (hready : ready authority g) :
    Follows P (a.checkAndSend authority intent) s g fun _ _ g' => R g g' := by
  unfold Attempt.checkAndSend
  refine (h.moves (moves_of_quiet (quiet_assertFinalCandidatePreSendAuthority _ _))).andThen
    (fun _ _ _ h₁ => h₁) fun _ s₁ g₁ h₁ => ?_
  refine (h.moves (moves_ask rfl)).andThen (fun _ _ _ h₂ => IsTrans.trans _ _ _ h₁ h₂)
    fun finalState s₂ g₂ h₂ => ?_
  have hr₂ := IsTrans.trans _ _ _ h₁ h₂
  dsimp only
  split
  · exact hr₂
  refine (h.moves (moves_ask rfl)).andThen (fun _ _ _ h₃ => IsTrans.trans _ _ _ hr₂ h₃)
    fun finalActiveOrders s₃ g₃ h₃ => ?_
  have hr₃ := IsTrans.trans _ _ _ hr₂ h₃
  refine (h.moves (moves_ask rfl)).andThen (fun _ _ _ h₄ => IsTrans.trans _ _ _ hr₃ h₄)
    fun finalPersistedOrder s₄ g₄ h₄ => ?_
  have hr₄ := IsTrans.trans _ _ _ hr₃ h₄
  refine (h.moves (moves_computed _)).andThen (fun _ _ _ h₅ => IsTrans.trans _ _ _ hr₄ h₅)
    fun _ s₅ g₅ h₅ => ?_
  have hr₅ := IsTrans.trans _ _ _ hr₄ h₅
  refine follows_bind.mpr (follows_assign.mpr ?_)
  dsimp only
  split
  · exact hr₅
  · obtain ⟨hallowed, hnext⟩ := hsend authority intent g₅ (h.stays hr₅ hready)
    refine Follows.await_andThen hallowed (fun e _ => IsTrans.trans _ _ _ hr₅ (hnext _))
      fun thrown _ => ?_
    refine follows_bind.mpr (follows_assign.mpr ?_)
    have hr₆ := IsTrans.trans _ _ _ hr₅ (hnext (.ok thrown))
    cases thrown with
    | none => exact hr₆
    | some e => exact hr₆

theorem Routine.follows_sendOrder (intent : Attempt.Intent) (hready : ready authority g) :
    Follows P (a.sendOrder authority intent) s g fun _ _ g' => R g g' := by
  refine follows_catching.mpr ((h.follows_checkAndSend hsend intent hready).mono
    fun r s' g' hr => ?_)
  cases r with
  | ok u => exact hr
  | error e =>
    exact (h.moves (moves_handleSendError a intent e)).follows
      fun _ _ _ h' => IsTrans.trans _ _ _ hr h'

/-- A call that its first checks leave ready is ready until it sends. -/
theorem Routine.follows_submitUnderLease (hcheck : Follows P a.checkBeforeIntent s g fun r _ g' =>
      ∀ authority, r = .ok (.inr authority) → ready authority g') :
    Follows P a.submitUnderLease s g fun _ _ _ => True := by
  unfold Attempt.submitUnderLease
  refine hcheck.andThen (fun _ _ _ _ => trivial) ?_
  rintro (result | authority) s₁ g₁ hready
  · trivial
  · refine (h.moves (moves_persistIntent a)).andThen (fun _ _ _ _ => trivial)
      fun intent s₂ g₂ h₂ => ?_
    refine (h.moves (moves_renewBeforeSend a intent)).andThen (fun _ _ _ _ => trivial)
      fun _ s₃ g₃ h₃ => ?_
    have hready₃ := h.stays (IsTrans.trans _ _ _ h₂ h₃) (hready authority rfl)
    refine (h.follows_sendOrder hsend intent hready₃).andThen (fun _ _ _ _ => trivial)
      fun _ s₄ g₄ _ => ?_
    exact (h.moves (Moves.catching (moves_settleSubmission a intent) fun e =>
      moves_handleSubmissionError a intent e)).follows fun _ _ _ _ => trivial

end

variable {deps : Dependencies Num} {input : SubmitOrderFromDecisionInput Num} {market : SupportedMarket}
variable {candidate : Option CandidateContext} {attemptStartedAt idempotencyKey : String}

/-- Everything before the lease is routine, and a call that holds it goes on as `hlease` says. -/
theorem Routine.follows_submitNew [Std.Refl R] (h : Routine P R ready)
    (hlease : ∀ g' request, R g g' → P.allowed g' (.acquireLease request) ∧ ∀ lease token window s',
      Follows P (Attempt.submitUnderLease ⟨deps, input, market, attemptStartedAt, idempotencyKey,
        candidate, token, window⟩) s' (P.next g' (.acquireLease request) (.ok (some lease)))
        fun _ _ _ => True) :
    Follows P (submitNew deps input market candidate attemptStartedAt idempotencyKey) s g
      fun _ _ _ => True := by
  have hblocked : ∀ occurredAt reason, Moves P R
      (recordLeaseBlockedAndPause input idempotencyKey market occurredAt reason none) :=
    fun _ _ => h.moves (moves_of_quiet (quiet_recordLeaseBlockedAndPause _ _ _ _ _ _))
  have hthrows : Throws P R (do
      recordLeaseBlockedAndPause input idempotencyKey market attemptStartedAt
        "Account execution lease acquisition is ambiguous; order submission is blocked pending recovery."
        none
      raise (.accountExecutionLease "Account execution lease acquisition is ambiguous.") :
        Service Num (LeaseWindow × Option AccountExecutionLeaseRecord)) :=
    Throws.after (hblocked _ _) fun _ => Throws.raise _
  unfold submitNew
  refine (h.moves (moves_ask rfl)).andThen (fun _ _ _ _ => trivial) fun leaseOwnerToken s₁ g₁ h₁ => ?_
  have hfailed : ∀ g' {Q : Except Thrown _ → Locals → σ → Prop}, (∀ e s' g'', Q (.error e) s' g'') →
      Follows P _ s₁ g' Q := fun g' Q hQ => (hthrows s₁ g').mono fun r _ _ hr => by
    obtain ⟨-, e, rfl⟩ := hr
    exact hQ e _ _
  refine follows_bind.mpr (follows_catching.mpr (follows_bind.mpr (follows_lift.mpr ?_)))
  cases leaseWindow deps attemptStartedAt .acquisition with
  | error e => exact hfailed _ fun _ _ _ => trivial
  | ok window =>
    refine Follows.await_andThen (hlease _ _ h₁).1 (fun e _ => hfailed _ fun _ _ _ => trivial)
      fun lease _ => ?_
    cases lease with
    | none => exact (Moves.bind (hblocked _ _) fun _ => Moves.pure _).follows fun _ _ _ _ => trivial
    | some lease =>
      refine follows_pure.mpr ?_
      show Follows P (if isOwnedLease (some lease) input.exchangeAccountId
        leaseOwnerToken window.atEpochMs = false then _ else _) s₁ _ _
      split
      · exact (Moves.bind (hblocked _ _) fun _ => Moves.raise _).follows fun _ _ _ _ => trivial
      · refine follows_finishing.mpr (((hlease _ _ h₁).2 lease _ _ _).mono fun r s' g' _ => ?_)
        refine (h.moves (moves_releaseAtEnd _)).follows fun r' _ _ _ => ?_
        cases r' with
        | ok u => trivial
        | error e => trivial

theorem Routine.follows_submitOrderFromDecision (h : Routine P R ready)
    (hnew : ∀ g' candidate attemptStartedAt s', R g g' → Follows P (submitNew deps input
      (input.market.getD input.decision.market) candidate attemptStartedAt
      (buildOrderIdempotencyKey deps.library input (input.market.getD input.decision.market))) s' g'
      fun _ _ _ => True) :
    Follows P (submitOrderFromDecision deps input) s g fun _ _ _ => True := by
  unfold submitOrderFromDecision
  refine (h.moves (moves_ask rfl)).andThen (fun _ _ _ _ => trivial) fun _ s₁ g₁ h₁ => ?_
  refine follows_bind.mpr (follows_lift.mpr ?_)
  cases (deps.library.assertCanonicalUpbitMarketBuyQuote input).mapError Thrown.error with
  | error e => trivial
  | ok u =>
    refine (h.moves (moves_ask rfl)).andThen (fun _ _ _ _ => trivial)
      fun attemptStartedAt s₂ g₂ h₂ => ?_
    refine (h.moves (moves_ask rfl)).andThen (fun _ _ _ _ => trivial) fun duplicate s₃ g₃ h₃ => ?_
    refine (h.moves (moves_of_quiet (quiet_prepareCandidateContext deps input _))).andThen
      (fun _ _ _ _ => trivial) fun candidate s₄ g₄ h₄ => ?_
    cases duplicate with
    | some duplicate =>
      exact (h.moves (moves_of_quiet (quiet_submitDuplicate _ _ _ _ _ _))).follows
        fun _ _ _ _ => trivial
    | none =>
      have hr₃ := IsTrans.trans _ _ _ (IsTrans.trans _ _ _ h₁ h₂) h₃
      exact hnew g₄ candidate attemptStartedAt s₄ (IsTrans.trans _ _ _ hr₃ h₄)

end Call

/-! ### The first read and the send -/

section Send

variable (a : Attempt Num) {s : Locals} {reading : Reading Num}

/-- The risk checks pass the authority of the state on. -/
theorem follows_assessRisk (state : ExecutionStateRecord) (accountActiveOrders : List OrderRecord) :
    Follows authorityProtocol (a.assessRisk state accountActiveOrders) s reading fun r _ reading' =>
      Kept reading reading' ∧
        ∀ authority, r = .ok (.inr authority) → authority = selectExecutionAuthority state := by
  unfold Attempt.assessRisk
  refine (moves_ask rfl).andThen (fun _ _ _ h₁ => ⟨h₁, fun _ h => by cases h⟩)
    fun portfolio s₁ reading₁ h₁ => ?_
  dsimp only
  split
  · exact (moves_of_quiet (quiet_rejectByRisk a _)).andThen
      (fun _ _ _ h₂ => ⟨IsTrans.trans _ _ _ h₁ h₂, fun _ h => by cases h⟩)
      fun _ _ _ h₂ => ⟨IsTrans.trans _ _ _ h₁ h₂, fun _ h => by cases h⟩
  · refine (moves_of_quiet (quiet_runExchangePreTradeValidation _ _ _ _ _ _)).andThen
      (fun _ _ _ h₂ => ⟨IsTrans.trans _ _ _ h₁ h₂, fun _ h => by cases h⟩)
      fun checked s₂ reading₂ h₂ => ?_
    have hkept := IsTrans.trans _ _ _ h₁ h₂
    cases checked with
    | none => exact ⟨hkept, fun _ h => (Sum.inr.inj (Except.ok.inj h)).symm⟩
    | some rejection =>
      exact (moves_of_quiet (quiet_rejectByExchange a rejection)).andThen
        (fun _ _ _ h₃ => ⟨IsTrans.trans _ _ _ hkept h₃, fun _ h => by cases h⟩)
        fun _ _ _ h₃ => ⟨IsTrans.trans _ _ _ hkept h₃, fun _ h => by cases h⟩

/-- What a failed first read ends with. -/
def firstReadFailure : Service Num (List OrderRecord × ExecutionStateRecord) := do
  assign fun s => { s with releaseLease := false }
  let occurredAt ← ask (.now .faultOccurredAt)
  a.recordBlocked occurredAt
    "Initial post-acquisition authority check is ambiguous; order submission is blocked pending recovery."
    none
  raise (.accountExecutionLease "Initial post-acquisition authority check failed.")

theorem throws_firstReadFailure : Throws authorityProtocol Kept (firstReadFailure a) :=
  Throws.after (Moves.assign _) fun _ => Throws.after (moves_ask rfl) fun _ =>
    Throws.after (moves_recordBlocked a _ _ _) fun _ => Throws.raise _

/-- The call goes on with the authority of its first read, which the adapter accepts. -/
theorem follows_checkBeforeIntent (hdeps : reading.deps = a.deps) (hleased : reading.leased = true)
    (hinitial : reading.initial = none) :
    Follows authorityProtocol a.checkBeforeIntent s reading fun r _ reading' =>
      Kept reading reading' ∧ ∀ authority, r = .ok (.inr authority) → reading'.Holds authority := by
  -- after the second read the first one is recorded; a failed read ends the call
  have hread : Follows authorityProtocol (catching
      (do
        let accountActiveOrders ← ask (.listActiveOrders a.input.exchangeAccountId)
        let state ← ask .getState
        pure (accountActiveOrders, state))
      fun _ => firstReadFailure a) s reading
      fun r _ reading' => Kept reading reading' ∧ ∀ accountActiveOrders state,
        r = .ok (accountActiveOrders, state) → reading'.initial = some state := by
    have hthrown : ∀ (r : Except Thrown (List OrderRecord × ExecutionStateRecord)) (_ : Locals)
        (reading' : Reading Num), (Kept reading reading' ∧ ∃ e, r = .error e) →
        Kept reading reading' ∧ ∀ accountActiveOrders state,
          r = .ok (accountActiveOrders, state) → reading'.initial = some state := by
      rintro r - reading' ⟨hkept, e, rfl⟩
      exact ⟨hkept, fun _ _ h => by cases h⟩
    refine follows_catching.mpr (Follows.await_andThen trivial
      (fun e _ => (throws_firstReadFailure a s reading).mono hthrown) fun orders _ => ?_)
    refine Follows.await_andThen trivial
      (fun e _ => (throws_firstReadFailure a s reading).mono hthrown) fun state _ => ?_
    refine ⟨kept_next rfl reading (Except.ok state), fun orders' state' h => ?_⟩
    obtain ⟨-, rfl⟩ := Prod.mk.inj (Except.ok.inj h)
    show (if reading.leased = true ∧ reading.initial = none then
      { reading with initial := some state } else reading).initial = some state
    rw [if_pos ⟨hleased, hinitial⟩]
  unfold Attempt.checkBeforeIntent
  refine hread.andThen (fun _ _ _ hr => ⟨hr.1, fun _ h => by cases h⟩) ?_
  rintro ⟨accountActiveOrders, state⟩ s' reading' ⟨hkept, hfirst⟩
  have hstate := hfirst accountActiveOrders state rfl
  have hblocked : ∀ message, Follows authorityProtocol (do
      let result ← a.leaseBlocked message
      return (Sum.inl result : SubmitOrderFromDecisionResult ⊕ ExecutionAuthority)) s' reading'
      fun r _ reading'' => Kept reading reading'' ∧
        ∀ authority, r = .ok (.inr authority) → reading''.Holds authority := fun message =>
    (moves_leaseBlocked a message).andThen
      (fun _ _ _ hkept' => ⟨IsTrans.trans _ _ _ hkept hkept', fun _ h => by cases h⟩)
      fun _ _ _ hkept' => ⟨IsTrans.trans _ _ _ hkept hkept', fun _ h => by cases h⟩
  dsimp only
  split
  · exact hblocked _
  · split
    · exact hblocked _
    · next haccepts =>
      refine (follows_assessRisk a state accountActiveOrders).mono fun r _ reading'' hr => ?_
      refine ⟨IsTrans.trans _ _ _ hkept hr.1, fun authority hok => ?_⟩
      refine ⟨state, hr.1.initial state hstate, hr.2 authority hok, ?_⟩
      rw [hr.2 authority hok, hr.1.deps, hkept.deps, hdeps]
      exact Bool.eq_true_of_not_eq_false haccepts

/-- What lets a call send: its own account, and the authority of the first read. -/
def ReadyToSend (input : SubmitOrderFromDecisionInput Num) (authority : ExecutionAuthority)
    (reading : Reading Num) : Prop :=
  reading.input = input ∧ reading.Holds authority

theorem routine (input : SubmitOrderFromDecisionInput Num) :
    Routine authorityProtocol Kept (ReadyToSend input) where
  moves h := h
  stays hkept hready := ⟨hkept.input.trans hready.1, hkept.holds hready.2⟩

theorem maySend {input : SubmitOrderFromDecisionInput Num} (h : a.input = input) :
    MaySend authorityProtocol Kept (ReadyToSend input) a := by
  subst h
  rintro authority intent reading ⟨hinput, hholds⟩
  refine ⟨⟨?_, hholds⟩, fun reply => refl reading⟩
  show a.input.exchangeAccountId = reading.input.exchangeAccountId
  rw [hinput]

/-- **The service hands its first authority to the runtime authority.** -/
theorem follows_submitOrderFromDecision (input : SubmitOrderFromDecisionInput Num) (s : Locals) :
    Follows authorityProtocol (submitOrderFromDecision deps input) s ⟨deps, input, false, none⟩
      fun _ _ _ => True := by
  refine (routine input).follows_submitOrderFromDecision fun reading candidate startedAt s' h => ?_
  refine (routine input).follows_submitNew fun reading₁ request h₁ => ⟨trivial, ?_⟩
  intro lease token window s''
  -- nothing was read before the lease was acquired
  have hkept : Kept ⟨deps, input, false, none⟩ reading₁ := IsTrans.trans _ _ _ h h₁
  have hinitial : ({ reading₁ with leased := true } : Reading Num).initial = none := hkept.unleased rfl
  refine (routine input).follows_submitUnderLease (maySend _ rfl)
    ((follows_checkBeforeIntent _ hkept.deps rfl hinitial).mono fun r _ reading₂ hr => ?_)
  exact fun authority hok => ⟨hr.1.input.trans hkept.input, hr.2 authority hok⟩

end Send

end AutoTrade.Execution.SendAuthority
