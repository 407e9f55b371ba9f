import AutoTrade.Domain.Types
import AutoTrade.Lib.Result

/-! # Validation of order-lifecycle writes

The checks of `atomic-lifecycle-validation.ts` that the order repository makes before it writes an
intent, an exchange submission or an uncertain submission: the shape of the input, the identity of
the order, and whether the write is to be applied, is a repetition of one that was applied, or
conflicts with what is stored. -/

namespace AutoTrade.Db.LifecycleValidation

open Domain.Types Lib.Result

structure PersistOrderIntentInput where
  order : OrderRecord
  event : OrderEventRecord

structure PersistExchangeSubmissionInput where
  order : OrderRecord
  event : OrderEventRecord
  fills : List FillRecord
  terminalEvent : Option OrderEventRecord

structure PersistUncertainSubmissionInput where
  order : OrderRecord
  event : OrderEventRecord
  riskEvent : RiskEventRecord

/-- What the comparison with the stored rows asks for. -/
inductive Completion
  | apply
  | retry
  deriving DecidableEq

/-! ### The shape of an input -/

def eventSourceForExecutionMode : ExecutionMode → OrderEventSource
  | .dryRun => .local
  | .live => .exchange

def validateOrderEvent (order : OrderRecord) (event : OrderEventRecord) (type : String)
    (source : OrderEventSource) : Except String Unit :=
  if event.orderId ≠ order.id ∨ event.eventType ≠ type ∨ event.eventSource ≠ source then
    .error ("Order event " ++ event.id ++ " is not canonical for order " ++ order.id ++ ".")
  else .ok ()

def validateOrderIntentInput (input : PersistOrderIntentInput) : Except String Unit :=
  if input.order.status ≠ .persisted then .error "Order intent must have PERSISTED status."
  else validateOrderEvent input.order input.event "ORDER_PERSISTED" .local

/-- The statuses an exchange submission may have, each with the number of fills it asks for. -/
def validateSubmissionStatus (order : OrderRecord) (fills : List FillRecord) :
    Except String Unit :=
  if order.status = .open then
    if fills.length ≠ 0 then .error "OPEN exchange submissions must not contain fills." else .ok ()
  else if order.status = .partiallyFilled ∨ order.status = .filled then
    if fills.length = 0 then
      .error (order.status.text ++ " exchange submissions require at least one fill.")
    else .ok ()
  else if order.status = .rejected then
    if fills.length ≠ 0 then .error "REJECTED exchange submissions must not contain fills."
    else .ok ()
  else .error ("Exchange submission has unsupported status " ++ order.status.text ++ ".")

/-- `fillExchangeIdentity`. -/
def fillExchangeIdentity (fill : FillRecord) : String :=
  fill.orderId ++ "\x00" ++ fill.exchangeFillId

/-- The loop of `validateFills`, with the ids and the exchange identities seen so far. -/
def validateFills (order : OrderRecord) (ids identities : List String) :
    List FillRecord → Except String Unit
  | [] => .ok ()
  | fill :: fills =>
    if fill.orderId ≠ order.id ∨ fill.market ≠ order.market ∨ fill.side ≠ order.side ∨
        fill.id ∈ ids ∨ fillExchangeIdentity fill ∈ identities then
      .error ("Fill " ++ fill.id ++ " is invalid for order " ++ order.id ++ ".")
    else validateFills order (fill.id :: ids) (fillExchangeIdentity fill :: identities) fills

def validateTerminalEvent (input : PersistExchangeSubmissionInput) : Except String Unit :=
  match input.terminalEvent with
  | some event =>
    if input.order.status ≠ .filled then
      .error "Terminal submission events require a FILLED order."
    else validateOrderEvent input.order event "ORDER_FILLED"
      (eventSourceForExecutionMode input.order.executionMode)
  | none =>
    if input.order.status = .filled then
      .error "FILLED exchange submissions require terminal order evidence."
    else .ok ()

def validateExchangeSubmissionInput (input : PersistExchangeSubmissionInput) :
    Except String Unit :=
  if input.terminalEvent.any fun event => event.id = input.event.id then
    .error "Submission and terminal order events must use distinct ids."
  else do
    validateSubmissionStatus input.order input.fills
    validateOrderEvent input.order input.event
      (if input.order.status = .rejected then "ORDER_REJECTED" else "ORDER_SUBMITTED")
      (eventSourceForExecutionMode input.order.executionMode)
    validateTerminalEvent input
    validateFills input.order [] [] input.fills

def validateUncertainSubmissionInput (input : PersistUncertainSubmissionInput) :
    Except String Unit :=
  if input.order.status ≠ .reconciliationRequired then
    .error "Uncertain submission must have RECONCILIATION_REQUIRED status."
  else if input.order.failureCode ≠ some "RECONCILIATION_REQUIRED" then
    .error "Uncertain submission must use RECONCILIATION_REQUIRED failureCode."
  else do
    validateOrderEvent input.order input.event "RECONCILIATION_RECOVERY_REQUIRED"
      (eventSourceForExecutionMode input.order.executionMode)
    if input.riskEvent.level ≠ .block ∨
        input.riskEvent.ruleCode ≠ "POSITION_GUARD_PILOT_UNCERTAIN_ORDER" ∨
        input.riskEvent.orderId ≠ some input.order.id ∨
        input.riskEvent.exchangeAccountId ≠ input.order.exchangeAccountId ∨
        input.riskEvent.strategyDecisionId ≠ input.order.strategyDecisionId then
      .error "Uncertain submission risk event must exactly link the blocked order."
    else .ok ()

def normalizeFillFeeProvenance (record : FillRecord) : FillRecord :=
  { record with
    feeProvenance := some (record.feeProvenance.getD .legacyUnverified)
    executionTimestampProvenance :=
      some (record.executionTimestampProvenance.getD .legacyUnverified) }

/-! ### The identity of an order -/

/-- `IMMUTABLE_ORDER_IDENTITY_FIELDS`, each with whether the two records differ in it. -/
def immutableOrderIdentityFields (existing next : OrderRecord) : List (String × Bool) :=
  [("strategyDecisionId", existing.strategyDecisionId ≠ next.strategyDecisionId),
    ("exchangeAccountId", existing.exchangeAccountId ≠ next.exchangeAccountId),
    ("market", existing.market ≠ next.market), ("side", existing.side ≠ next.side),
    ("ordType", existing.ordType ≠ next.ordType), ("volume", existing.volume ≠ next.volume),
    ("price", existing.price ≠ next.price), ("timeInForce", existing.timeInForce ≠ next.timeInForce),
    ("smpType", existing.smpType ≠ next.smpType), ("identifier", existing.identifier ≠ next.identifier),
    ("idempotencyKey", existing.idempotencyKey ≠ next.idempotencyKey),
    ("origin", existing.origin ≠ next.origin), ("requestedAt", existing.requestedAt ≠ next.requestedAt),
    ("executionMode", existing.executionMode ≠ next.executionMode),
    ("createdAt", existing.createdAt ≠ next.createdAt)]

def validateOrderIdentity (existing next : OrderRecord) : Except String Unit :=
  if existing.id ≠ next.id then .error "Order identity cannot change id."
  else
    match (immutableOrderIdentityFields existing next).find? Prod.snd with
    | some (field, _) =>
      .error ("Order " ++ next.id ++ " cannot change immutable " ++ field ++ ".")
    | none => .ok ()

/-! ### Applied, repeated or conflicting -/

/-- `fillIdentity`. -/
def fillIdentity (fill : FillRecord) : String :=
  fill.id ++ "\x00" ++ fill.orderId ++ "\x00" ++ fill.exchangeFillId

/-- `recordsEqualSet` of two lists of fills. -/
def fillsEqualSet (left right : List FillRecord) : Bool :=
  left.length = right.length ∧ (right.map fillIdentity).Nodup ∧
    left.all fun fill =>
      right.find? (fun candidate => fillIdentity candidate = fillIdentity fill) = some fill

def validateExchangeSubmissionCompletion (currentOrder : OrderRecord)
    (input : PersistExchangeSubmissionInput) (existingEvents : List OrderEventRecord)
    (existingFills : List FillRecord) : Except String Completion := do
  validateOrderIdentity currentOrder input.order
  let submissionEvents := existingEvents.filter fun event =>
    event.eventType = "ORDER_SUBMITTED" ∨ event.eventType = "ORDER_REJECTED"
  let terminalEvents := existingEvents.filter fun event => event.eventType = "ORDER_FILLED"
  if currentOrder.status = .persisted ∨ currentOrder.status = .submitting then
    if submissionEvents = [] ∧ terminalEvents = [] ∧ existingFills = [] then .ok .apply
    else
      .error ("Corrupt partial exchange submission children for order " ++ input.order.id ++ ".")
  else if currentOrder = input.order ∧ submissionEvents = [input.event] ∧
      terminalEvents = input.terminalEvent.toList ∧ fillsEqualSet existingFills input.fills then
    .ok .retry
  else .error ("Conflicting exchange submission for order " ++ input.order.id ++ ".")

def validateUncertainSubmissionCompletion (currentOrder : OrderRecord)
    (input : PersistUncertainSubmissionInput) (existingEvents : List OrderEventRecord)
    (existingRiskEvents : List RiskEventRecord) : Except String Completion := do
  validateOrderIdentity currentOrder input.order
  let recoveryEvents := existingEvents.filter fun event =>
    event.eventType = "RECONCILIATION_RECOVERY_REQUIRED"
  let uncertainRiskEvents := existingRiskEvents.filter fun event =>
    event.ruleCode = "POSITION_GUARD_PILOT_UNCERTAIN_ORDER"
  if currentOrder.status = .persisted ∨ currentOrder.status = .submitting then
    if recoveryEvents = [] ∧ uncertainRiskEvents = [] then .ok .apply
    else
      .error ("Corrupt partial uncertain submission children for order " ++ input.order.id ++ ".")
  else if currentOrder = input.order ∧ recoveryEvents = [input.event] ∧
      uncertainRiskEvents = [input.riskEvent] then
    .ok .retry
  else .error ("Conflicting uncertain submission for order " ++ input.order.id ++ ".")

/-! ### What passes -/

variable {order : OrderRecord}

theorem orderId_of_validateOrderEvent {event : OrderEventRecord} {type : String}
    {source : OrderEventSource} (h : validateOrderEvent order event type source = .ok ()) :
    event.orderId = order.id := by
  unfold validateOrderEvent at h
  rw [guard_eq_ok] at h
  by_contra hne
  exact h.1 (Or.inl hne)

variable {fills : List FillRecord}

theorem status_of_validateSubmissionStatus (h : validateSubmissionStatus order fills = .ok ()) :
    order.status = .open ∨ order.status = .partiallyFilled ∨ order.status = .filled ∨
      order.status = .rejected := by
  unfold validateSubmissionStatus at h
  by_cases hopen : order.status = .open
  · exact Or.inl hopen
  · rw [if_neg hopen] at h
    by_cases hfilled : order.status = .partiallyFilled ∨ order.status = .filled
    · rcases hfilled with hp | hf
      · exact Or.inr (Or.inl hp)
      · exact Or.inr (Or.inr (Or.inl hf))
    · rw [if_neg hfilled] at h
      by_cases hrejected : order.status = .rejected
      · exact Or.inr (Or.inr (Or.inr hrejected))
      · rw [if_neg hrejected] at h
        simp at h

structure AcceptedSubmission (input : PersistExchangeSubmissionInput) : Prop where
  status : input.order.status = .open ∨ input.order.status = .partiallyFilled ∨
    input.order.status = .filled ∨ input.order.status = .rejected
  event : input.event.orderId = input.order.id
  terminalEvent : ∀ event, input.terminalEvent = some event → event.orderId = input.order.id

theorem accepted_of_validateExchangeSubmissionInput {input : PersistExchangeSubmissionInput}
    (h : validateExchangeSubmissionInput input = .ok ()) : AcceptedSubmission input := by
  unfold validateExchangeSubmissionInput at h
  rw [guard_eq_ok, bind_eq_ok] at h
  obtain ⟨-, _, hstatus, h⟩ := h
  obtain ⟨_, hevent, h⟩ := bind_eq_ok.mp h
  obtain ⟨_, hterminal, -⟩ := bind_eq_ok.mp h
  refine ⟨status_of_validateSubmissionStatus hstatus, orderId_of_validateOrderEvent hevent, ?_⟩
  intro event hsome
  unfold validateTerminalEvent at hterminal
  rw [hsome] at hterminal
  exact orderId_of_validateOrderEvent (guard_eq_ok.mp hterminal).2

variable {input : PersistUncertainSubmissionInput}

theorem accepted_of_validateUncertainSubmissionInput
    (h : validateUncertainSubmissionInput input = .ok ()) :
    input.order.status = .reconciliationRequired ∧ input.event.orderId = input.order.id := by
  unfold validateUncertainSubmissionInput at h
  rw [guard_eq_ok, guard_eq_ok, bind_eq_ok] at h
  obtain ⟨hstatus, -, _, hevent, -⟩ := h
  exact ⟨not_not.mp hstatus, orderId_of_validateOrderEvent hevent⟩

/-- Two records of one order: no update changes these fields. -/
structure SameIdentity (existing next : OrderRecord) : Prop where
  id : existing.id = next.id
  strategyDecisionId : existing.strategyDecisionId = next.strategyDecisionId
  exchangeAccountId : existing.exchangeAccountId = next.exchangeAccountId
  market : existing.market = next.market
  side : existing.side = next.side
  ordType : existing.ordType = next.ordType
  volume : existing.volume = next.volume
  price : existing.price = next.price
  timeInForce : existing.timeInForce = next.timeInForce
  smpType : existing.smpType = next.smpType
  identifier : existing.identifier = next.identifier
  idempotencyKey : existing.idempotencyKey = next.idempotencyKey
  origin : existing.origin = next.origin
  requestedAt : existing.requestedAt = next.requestedAt
  executionMode : existing.executionMode = next.executionMode
  createdAt : existing.createdAt = next.createdAt

theorem sameIdentity_of_validate {existing next : OrderRecord}
    (h : validateOrderIdentity existing next = .ok ()) : SameIdentity existing next := by
  unfold validateOrderIdentity at h
  obtain ⟨hid, h⟩ := guard_eq_ok.mp h
  cases hfind : (immutableOrderIdentityFields existing next).find? Prod.snd with
  | some field =>
    rw [hfind] at h
    cases h
  | none =>
    have hall := List.find?_eq_none.mp hfind
    simp only [immutableOrderIdentityFields, List.forall_mem_cons, decide_eq_true_eq, not_not]
      at hall
    obtain ⟨h1, h2, h3, h4, h5, h6, h7, h8, h9, h10, h11, h12, h13, h14, h15, -⟩ := hall
    exact ⟨not_not.mp hid, h1, h2, h3, h4, h5, h6, h7, h8, h9, h10, h11, h12, h13, h14, h15⟩

theorem SameIdentity.trans {a b c : OrderRecord} (h : SameIdentity a b) (h' : SameIdentity b c) :
    SameIdentity a c where
  id := h.id.trans h'.id
  strategyDecisionId := h.strategyDecisionId.trans h'.strategyDecisionId
  exchangeAccountId := h.exchangeAccountId.trans h'.exchangeAccountId
  market := h.market.trans h'.market
  side := h.side.trans h'.side
  ordType := h.ordType.trans h'.ordType
  volume := h.volume.trans h'.volume
  price := h.price.trans h'.price
  timeInForce := h.timeInForce.trans h'.timeInForce
  smpType := h.smpType.trans h'.smpType
  identifier := h.identifier.trans h'.identifier
  idempotencyKey := h.idempotencyKey.trans h'.idempotencyKey
  origin := h.origin.trans h'.origin
  requestedAt := h.requestedAt.trans h'.requestedAt
  executionMode := h.executionMode.trans h'.executionMode
  createdAt := h.createdAt.trans h'.createdAt

variable {events : List OrderEventRecord}

theorem status_of_submissionCompletion {input : PersistExchangeSubmissionInput}
    (h : validateExchangeSubmissionCompletion order input events fills = .ok .apply) :
    order.status = .persisted ∨ order.status = .submitting := by
  unfold validateExchangeSubmissionCompletion at h
  obtain ⟨_, -, h⟩ := bind_eq_ok.mp h
  by_contra hstatus
  simp only [if_neg hstatus] at h
  split at h <;> simp at h

theorem order_of_submissionRetry {input : PersistExchangeSubmissionInput}
    (h : validateExchangeSubmissionCompletion order input events fills = .ok .retry) :
    order = input.order := by
  unfold validateExchangeSubmissionCompletion at h
  obtain ⟨_, -, h⟩ := bind_eq_ok.mp h
  dsimp only at h
  split at h
  · split at h <;> simp at h
  · split at h
    · rename_i hsame
      exact hsame.1
    · simp at h

variable {riskEvents : List RiskEventRecord}

theorem order_of_uncertainRetry
    (h : validateUncertainSubmissionCompletion order input events riskEvents = .ok .retry) :
    order = input.order := by
  unfold validateUncertainSubmissionCompletion at h
  obtain ⟨_, -, h⟩ := bind_eq_ok.mp h
  dsimp only at h
  split at h
  · split at h <;> simp at h
  · split at h
    · rename_i hsame
      exact hsame.1
    · simp at h

theorem status_of_uncertainCompletion
    (h : validateUncertainSubmissionCompletion order input events riskEvents = .ok .apply) :
    order.status = .persisted ∨ order.status = .submitting := by
  unfold validateUncertainSubmissionCompletion at h
  obtain ⟨_, -, h⟩ := bind_eq_ok.mp h
  by_contra hstatus
  simp only [if_neg hstatus] at h
  split at h <;> simp at h

end AutoTrade.Db.LifecycleValidation
