import AutoTrade.Execution.Helpers

/-! # The execution service

`ExecutionService.submitOrderFromDecision` with the methods it calls, as a program that awaits its
dependencies. The method is cut where its local variables change hands: the checks under the lease,
the intent, the renewal, the send and what follows the send. -/

namespace AutoTrade.Execution.Service

open Lib.Awaits.Async Lib.Text
open Domain.Types Domain.PilotTypes
open Db.LeaseStore (isSafeInteger)
open Execution.Records Execution.Helpers

variable {Num : Type}

/-- A computation of another module; what it throws is a plain `Error`. -/
def computed {α : Type} (r : Except String α) : Service Num α := lift (r.mapError Thrown.error)

/-- What `x` throws, kept as a value. -/
def caught (x : Service Num Unit) : Service Num (Option Thrown) :=
  catching (do x; pure none) fun e => pure (some e)

/-! ### Faults and notifications -/

def createRiskEvent (account : String) (strategyDecisionId : Option String)
    (ruleCode message payloadJson : String) (orderId : Option String) :
    Service Num RiskEventRecord := do
  let id ← ask (.createId "risk_event")
  let createdAt ← ask .systemClock
  return ⟨id, account, strategyDecisionId, orderId, .block, ruleCode, message, payloadJson,
    createdAt⟩

def pauseForFault (account faultId reason occurredAt : String) : Service Num Unit :=
  catching (ask (.pauseForFault ⟨account, faultId, reason, occurredAt, none⟩)) fun _ =>
    raise (.automaticFaultPause "Automatic fault pause could not be persisted.")

def recordLeaseBlockedAndPause (input : SubmitOrderFromDecisionInput Num)
    (idempotencyKey : String) (market : SupportedMarket) (occurredAt reason : String)
    (orderId : Option String) : Service Num Unit := do
  let riskEvidenceFailure ← caught do
    let event ← createRiskEvent input.exchangeAccountId input.strategyDecisionId
      "ACCOUNT_EXECUTION_LEASE_BLOCKED" reason
      (jsonObject [("idempotencyKey", idempotencyKey), ("market", market.text),
        ("occurredAt", occurredAt)]) orderId
    ask (.saveRiskEvent event)
  let pauseFailure ← caught (pauseForFault input.exchangeAccountId
    ("account-execution-lease:" ++ idempotencyKey) reason occurredAt)
  if riskEvidenceFailure.any Thrown.truthy ∧ pauseFailure.any Thrown.truthy then
    raise (.leaseBlockPersistence
      "Account execution lease risk evidence and automatic fault pause could not be persisted.")
  else if pauseFailure.any Thrown.truthy then raise (pauseFailure.getD .null)
  else if riskEvidenceFailure.any Thrown.truthy then
    raise (.leaseBlockPersistence
      "Account execution lease risk evidence could not be persisted after automatic pause.")
  else pure ()

def throwPostSendPersistenceFailure {α : Type} (order : OrderRecord) (account occurredAt : String)
    (reason : String) : Service Num α := do
  pauseForFault account ("post-send-persistence:" ++ order.id) reason occurredAt
  raise (.postSendPersistence reason)

def releaseLeaseOrFail (input : SubmitOrderFromDecisionInput Num) (idempotencyKey : String)
    (market : SupportedMarket) (occurredAt leaseOwnerToken : String) : Service Num Unit := do
  let released ← catching (ask (.releaseLease input.exchangeAccountId leaseOwnerToken)) fun _ =>
    pure false
  if released then pure ()
  else do
    recordLeaseBlockedAndPause input idempotencyKey market occurredAt
      "Account execution lease release is ambiguous; execution remains paused pending recovery."
      none
    raise (.accountExecutionLease "Account execution lease release is ambiguous.")

def safeReport (deps : Dependencies Num) (notification : OperatorNotification) :
    Service Num Unit :=
  if deps.hasReporter then catching (ask (.report notification)) fun _ => pure () else pure ()

/-- `Promise.all` over the triggered rules: every event is saved, then the first failure throws. -/
def saveRiskEvents (input : SubmitOrderFromDecisionInput Num) :
    List TriggeredRule → Option Thrown → Service Num Unit
  | [], none => pure ()
  | [], some failure => raise failure
  | rule :: rules, failure => do
    let outcome ← caught do
      let event ← createRiskEvent input.exchangeAccountId input.strategyDecisionId rule.code
        rule.message (jsonRecord []) none
      ask (.saveRiskEvent event)
    saveRiskEvents input rules (failure.or outcome)

/-! ### Candidate routes -/

def prepareCandidateContext (deps : Dependencies Num) (input : SubmitOrderFromDecisionInput Num)
    (market : SupportedMarket) : Service Num (Option CandidateContext) :=
  match input.candidateAuthority with
  | none => pure none
  | some submitted =>
    match deps.library.validateCandidateExecutionAuthority submitted with
    | .error _ => raise (.candidateExecution "Candidate execution authority is malformed.")
    | .ok authority =>
      if deps.hasCandidatePilots = false ∨ deps.hasStrategyDecisionReads = false then
        raise (.candidateExecution
          "Candidate execution dependencies are not configured; order submission is blocked.")
      else
        match input.strategyDecisionId with
        | none =>
          raise (.candidateExecution
            "Candidate execution authority does not match the submitted route.")
        | some strategyDecisionId =>
          if authority.exchangeAccountId ≠ input.exchangeAccountId ∨ authority.market ≠ market ∨
              input.decision.strategyKey ≠ authority.strategyKey ∨
              input.origin.getD .strategy ≠ .strategy then
            raise (.candidateExecution
              "Candidate execution authority does not match the submitted route.")
          else do
            match ← ask (.getStrategyDecisionById strategyDecisionId) with
            | none => raise (.candidateExecution
                "Persisted candidate strategy decision does not match the submitted authority and decision.")
            | some decision =>
              if decision.id ≠ strategyDecisionId ∨
                  decision.exchangeAccountId ≠ input.exchangeAccountId ∨
                  decision.market ≠ authority.market ∨
                  decision.strategyKey ≠ authority.strategyKey ∨
                  decision.action ≠ input.decision.action ∨ decision.status ≠ .ready ∨
                  decision.referencePrice ≠
                    some (deps.library.numberText input.decision.referencePrice) then
                raise (.candidateExecution
                  "Persisted candidate strategy decision does not match the submitted authority and decision.")
              else do
                let intendedNotional ←
                  computed (nullableDecisionNotionalString deps.library input.decision)
                if decision.intendedNotionalKrw ≠ intendedNotional ∨
                    decision.intendedQuantity ≠
                      input.decision.requestedQuantity.map deps.library.numberText then
                  raise (.candidateExecution
                    "Persisted candidate strategy decision does not match the submitted authority and decision.")
                else return some ⟨authority, decision⟩

def assertExactCandidateDuplicate (deps : Dependencies Num) (context : CandidateContext)
    (duplicate : OrderRecord) (idempotencyKey : String) : Service Num String := do
  match ← ask (.getExecutionBindingForOrder duplicate.id) with
  | none => raise (.error "Candidate duplicate order has no persisted execution binding.")
  | some binding => do
    computed (deps.library.validateCandidateExecutionBinding binding)
    let deployment ← ask (.getDeployment context.authority.deploymentId)
    let exactStateVersion ← ask (.getExactStateVersion context.authority.deploymentId)
    let events ← ask (.listOrderEvents duplicate.id)
    match deployment, exactStateVersion,
        events.filter fun event => event.eventType = "ORDER_PERSISTED" with
    | some deployment, some exactStateVersion, [persistedEvent] =>
      if matchesCandidateDuplicateOrder duplicate context.decision idempotencyKey ∧
          matchesCandidateDuplicateBinding deps.library binding duplicate context ∧
          matchesCandidateDuplicateDeployment deployment exactStateVersion context.authority ∧
          matchesCandidateDuplicatePersistedEvent deps.library persistedEvent duplicate
            context.decision then
        return binding.id
      else raise (.error
        "Candidate duplicate order, binding, decision, deployment, or event does not match authority.")
    | _, _, _ => raise (.error
        "Candidate duplicate order, binding, decision, deployment, or event does not match authority.")

def pauseCandidateIntentFault (deps : Dependencies Num) (context : CandidateContext)
    (input : SubmitOrderFromDecisionInput Num) (orderId bindingId : String)
    (stage : CandidateIntentFaultStage) (occurredAt : String) : Service Num Unit :=
  if deps.hasCandidatePilots = false then
    raise (.candidateExecution
      "Candidate recovery dependency is unavailable; lease remains retained.")
  else
    let provenanceJson := candidateIntentFaultProvenance context input orderId bindingId stage
    catching (ask (.pauseForCandidateIntentFault
      { deploymentId := context.authority.deploymentId
        exchangeAccountId := context.authority.exchangeAccountId
        stage := stage
        strategyDecisionId := context.decision.id
        orderId := orderId
        bindingId := bindingId
        faultId := "candidate-intent:" ++ deps.library.sha256Hex provenanceJson
        reasonCode := if stage = .persistence then "ACTIVATION_CAS_CONFLICT"
          else "IDENTITY_MISMATCH"
        provenanceJson := provenanceJson
        occurredAt := occurredAt })) fun _ =>
      raise (.candidateExecution
        "Candidate intent failure could not be atomically paused; lease remains retained.")

/-- Pause for a fault of the candidate route, then throw. -/
def failCandidateIntent {α : Type} (deps : Dependencies Num) (context : CandidateContext)
    (input : SubmitOrderFromDecisionInput Num) (orderId bindingId : String)
    (stage : CandidateIntentFaultStage) (attemptedAt : Option String) (message : String) :
    Service Num α := do
  let occurredAt ← computed
    (candidateFaultOccurredAt deps.library context.authority attemptedAt)
  pauseCandidateIntentFault deps context input orderId bindingId stage occurredAt
  raise (.candidateExecution message)

structure FinalCandidate where
  context : CandidateContext
  expectedOrder : OrderRecord
  expectedEvent : OrderEventRecord
  expectedBinding : CandidateExecutionBindingRecord

def assertFinalCandidatePreSendAuthority (deps : Dependencies Num)
    (candidate : Option FinalCandidate) : Service Num Unit :=
  match candidate with
  | none => pure ()
  | some candidate =>
    if deps.hasCandidatePilots = false ∨ deps.hasStrategyDecisionReads = false then
      raise (.error "candidate final pre-send dependencies are unavailable")
    else do
      let authority := candidate.context.authority
      let events ← ask (.listOrderEvents candidate.expectedOrder.id)
      let decision ← ask (.getStrategyDecisionById candidate.context.decision.id)
      let deployment ← ask (.getDeployment authority.deploymentId)
      let exactStateVersion ← ask (.getExactStateVersion authority.deploymentId)
      let binding ← ask (.getExecutionBindingForOrder candidate.expectedOrder.id)
      match events, decision, deployment, exactStateVersion, binding with
      | [event], some decision, some deployment, some exactStateVersion, some binding =>
        computed (deps.library.validateFinalCandidateIntent authority candidate.expectedOrder
          (event, candidate.expectedEvent) (decision, candidate.context.decision)
          (binding, candidate.expectedBinding) deployment exactStateVersion)
      | _, _, _, _, _ =>
        raise (.error "candidate final persisted authority or intent material changed")

/-! ### Validation by the exchange -/

structure PreTradeRejection where
  ruleCode : String
  message : String
  payload : List (String × String)

/-- The payload fields that every pre-trade rejection carries. -/
def preTradePayload (lib : Library Num) (input : SubmitOrderFromDecisionInput Num)
    (market : SupportedMarket) (identifier idempotencyKey requestedAt : String) :
    List (String × String) :=
  [("exchangeAccountId", jsonString input.exchangeAccountId),
    ("strategyDecisionId", jsonNullable input.strategyDecisionId),
    ("market", jsonString market.text), ("side", jsonString input.side.text),
    ("ordType", jsonString input.ordType.text), ("identifier", jsonString identifier),
    ("idempotencyKey", jsonString idempotencyKey), ("requestedAt", jsonString requestedAt),
    ("requestedNotionalKrw", ((requestedNotionalKrw lib input).map lib.numberText).getD "null"),
    ("price", jsonNullable input.price), ("volume", jsonNullable input.volume)]

/-- The checks of the order chance, in their order. -/
def checkOrderChance (lib : Library Num) (input : SubmitOrderFromDecisionInput Num)
    (market : SupportedMarket) (base : List (String × String)) (chance : UpbitOrderChance Num) :
    Option PreTradeRejection :=
  let supportedTypes := if input.side = .bid then chance.bidTypes else chance.askTypes
  let exchangeMinTotal := if input.side = .bid then chance.bidMinTotal else chance.askMinTotal
  let exchangeMaxTotal := chance.maxTotal.map lib.number
  let notional := requestedNotionalKrw lib input
  let stage := ("stage", jsonString "getOrderChance")
  if chance.marketId ≠ market.text then
    some ⟨"UNSUPPORTED_MARKET", "Exchange order chance returned mismatched market " ++
      chance.marketId ++ " for " ++ market.text ++ ".",
      base ++ [stage, ("requestedMarket", jsonString market.text),
        ("responseMarket", jsonString chance.marketId)]⟩
  else if input.ordType.text ∉ supportedTypes then
    some ⟨"UNSUPPORTED_ORDER_TYPE", "Exchange order chance does not allow " ++
      input.ordType.text ++ " orders for " ++ input.side.text ++ " on " ++ market.text ++ ".",
      base ++ [stage, ("supportedTypes", jsonArray supportedTypes),
        ("requiredType", jsonString input.ordType.text)]⟩
  else
    match notional, exchangeMinTotal, exchangeMaxTotal with
    | some notional, minTotal, maxTotal =>
      match minTotal.filter fun total => lib.isFinite total && lib.lt notional total with
      | some total =>
        some ⟨"EXCHANGE_MIN_TOTAL_GUARD", "Requested order value is below exchange min total " ++
          lib.numberText total ++ " KRW for " ++ market.text ++ ".",
          base ++ [stage, ("requestedNotionalKrw", lib.numberText notional),
            ("exchangeMinTotal", lib.numberText total)]⟩
      | none =>
        match maxTotal.filter fun total => lib.isFinite total && lib.lt total notional with
        | some total =>
          some ⟨"EXCHANGE_MAX_TOTAL_GUARD", "Requested order value exceeds exchange max total " ++
            lib.numberText total ++ " KRW for " ++ market.text ++ ".",
            base ++ [stage, ("requestedNotionalKrw", lib.numberText notional),
              ("exchangeMaxTotal", lib.numberText total)]⟩
        | none => none
    | none, _, _ => none

/-- `/market_offline/iu.test(message)`; the Kelvin sign folds to `k`. -/
def mentionsMarketOffline (message : String) : Bool :=
  includes (message.map fun c => if c = '\u212a' then 'k' else c.toLower) "market_offline"

/-- The request that is tested and, in the end, sent. -/
def orderRequest (input : SubmitOrderFromDecisionInput Num) (market : SupportedMarket)
    (identifier : String) : UpbitOrderRequest :=
  ⟨market, input.side, input.ordType, input.volume, input.price, identifier, none, none⟩

def runExchangePreTradeValidation (deps : Dependencies Num)
    (input : SubmitOrderFromDecisionInput Num) (market : SupportedMarket)
    (identifier idempotencyKey requestedAt : String) : Service Num (Option PreTradeRejection) := do
  let base := preTradePayload deps.library input market identifier idempotencyKey requestedAt
  let testStage := ("stage", jsonString "testOrder")
  let checked ← catching
    (do
      let chance ← ask (.getOrderChance market)
      pure (checkOrderChance deps.library input market base chance))
    fun e =>
      let message := e.messageOr "Unknown order chance failure."
      pure (some ⟨"EXCHANGE_ORDER_CHANCE_FAILED",
        "Exchange order chance precheck failed: " ++ message,
        base ++ [("stage", jsonString "getOrderChance"), ("reason", jsonString message)]⟩)
  match checked with
  | some rejection => return some rejection
  | none =>
    catching
      (do
        let validation ← ask (.testOrder (orderRequest input market identifier))
        if validation.accepted then pure none
        else
          pure (some ⟨if validation.marketOnline then "EXCHANGE_ORDER_TEST_FAILED"
              else "MARKET_OFFLINE",
            validation.reason.getD "Exchange order test rejected the request.",
            base ++ [testStage, ("marketOnline", if validation.marketOnline then "true" else "false"),
              ("reason", jsonNullable validation.reason)]⟩))
      fun e =>
        let message := e.messageOr "Unknown order test failure."
        pure (some ⟨if mentionsMarketOffline message then "MARKET_OFFLINE"
            else "EXCHANGE_ORDER_TEST_FAILED",
          "Exchange order test failed: " ++ message,
          base ++ [testStage, ("reason", jsonString message)]⟩)

/-! ### Under the lease -/

/-- What the rest of the method knows once the lease is held. -/
structure Attempt (Num : Type) where
  deps : Dependencies Num
  input : SubmitOrderFromDecisionInput Num
  market : SupportedMarket
  attemptStartedAt : String
  idempotencyKey : String
  candidate : Option CandidateContext
  leaseOwnerToken : String
  acquisitionWindow : LeaseWindow

namespace Attempt

variable (a : Attempt Num)

def recordBlocked (occurredAt reason : String) (orderId : Option String) : Service Num Unit :=
  recordLeaseBlockedAndPause a.input a.idempotencyKey a.market occurredAt reason orderId

def identifier : String :=
  buildOrderIdentifier a.deps.library a.market a.input.side a.input.strategyDecisionId
    a.attemptStartedAt

/-- A refusal before the intent, recorded; a failure to record it keeps the lease. -/
def leaseBlocked (message : String) : Service Num SubmitOrderFromDecisionResult := do
  catching (a.recordBlocked a.attemptStartedAt message none) fun e => do
    assign fun s => { s with releaseLease := false }
    raise e
  return ⟨false, .leaseBlocked, none, some message⟩

def riskContext (state : ExecutionStateRecord) (accountActiveOrders : List OrderRecord)
    (portfolio : PortfolioExposureSnapshot Num) : RiskEvaluationContext Num where
  policy := composeExecutionPolicy state a.deps.riskLimits a.deps.sendPath
  systemStatus := state.systemStatus
  market := a.market
  tradePrice := a.input.decision.referencePrice
  capturedAt := a.input.referencePriceCapturedAt
  portfolio := portfolio
  openOrders := accountActiveOrders
  requestedSide := a.input.side
  requestedIdempotencyKey := a.idempotencyKey
  requestedPrice := a.input.price
  requestedVolume := a.input.volume
  requestedNotionalKrw := requestedNotionalKrw a.deps.library a.input
  requestedQuantity := requestedQuantity a.deps.library a.input
  now := a.attemptStartedAt

/-- The payload of the notification of a rejection before the intent. -/
def rejectionPayload (fields : List (String × String)) : String :=
  jsonRecord ([("strategyDecisionId", jsonNullable a.input.strategyDecisionId),
    ("market", jsonString a.market.text), ("side", jsonString a.input.side.text),
    ("ordType", jsonString a.input.ordType.text)] ++ fields)

def rejectByRisk (rules : List TriggeredRule) : Service Num SubmitOrderFromDecisionResult := do
  let message := String.intercalate "; " (rules.map TriggeredRule.message)
  saveRiskEvents a.input rules none
  safeReport a.deps ⟨a.input.exchangeAccountId, "ORDER_REJECTED", "WARN",
    "Order blocked by local risk policy", message,
    a.rejectionPayload [("reasonCodes", jsonArray (rules.map TriggeredRule.code))]⟩
  return ⟨false, .rejected, none, some message⟩

def rejectByExchange (rejection : PreTradeRejection) :
    Service Num SubmitOrderFromDecisionResult := do
  let event ← createRiskEvent a.input.exchangeAccountId a.input.strategyDecisionId
    rejection.ruleCode rejection.message (jsonRecord rejection.payload) none
  ask (.saveRiskEvent event)
  safeReport a.deps ⟨a.input.exchangeAccountId, "ORDER_REJECTED", "WARN",
    "Order rejected before submission", rejection.message,
    a.rejectionPayload [("identifier", jsonString a.identifier),
      ("idempotencyKey", jsonString a.idempotencyKey),
      ("ruleCode", jsonString rejection.ruleCode)]⟩
  return ⟨false, .rejected, none, some rejection.message⟩

/-- The risk guards and the validation by the exchange. -/
def assessRisk (state : ExecutionStateRecord) (accountActiveOrders : List OrderRecord) :
    Service Num (SubmitOrderFromDecisionResult ⊕ ExecutionAuthority) := do
  let portfolio ← ask (.getPortfolioExposure a.input.exchangeAccountId)
  let risk := a.deps.library.evaluateRiskGuards
    (a.riskContext state accountActiveOrders portfolio)
  if risk.accepted = false then do
    let result ← a.rejectByRisk risk.triggeredRules
    return .inl result
  else do
    match ← runExchangePreTradeValidation a.deps a.input a.market a.identifier a.idempotencyKey
        a.attemptStartedAt with
    | some rejection => do
      let result ← a.rejectByExchange rejection
      return .inl result
    | none => return .inr (selectExecutionAuthority state)

/-- The checks between the acquisition of the lease and the intent: the result that ends the call,
or the execution authority it goes on with. -/
def checkBeforeIntent :
    Service Num (SubmitOrderFromDecisionResult ⊕ ExecutionAuthority) := do
  let (accountActiveOrders, state) ← catching
    (do
      let accountActiveOrders ← ask (.listActiveOrders a.input.exchangeAccountId)
      let state ← ask .getState
      pure (accountActiveOrders, state))
    fun _ => do
      assign fun s => { s with releaseLease := false }
      let occurredAt ← ask (.now .faultOccurredAt)
      a.recordBlocked occurredAt
        "Initial post-acquisition authority check is ambiguous; order submission is blocked pending recovery."
        none
      raise (.accountExecutionLease "Initial post-acquisition authority check failed.")
  if accountActiveOrders ≠ [] then do
    let result ← a.leaseBlocked
      "Account execution lease is blocked by active or uncertain local orders pending recovery."
    return .inl result
  else if executionAdapterAcceptsAuthority a.deps.sendPath (selectExecutionAuthority state) = false
  then do
    let result ← a.leaseBlocked
      "The configured execution adapter is incompatible with initial persisted execution authority."
    return .inl result
  else a.assessRisk state accountActiveOrders

/-! ### The intent -/

/-- The order with its first event, and the binding of a candidate route. -/
structure Intent where
  order : OrderRecord
  event : OrderEventRecord
  binding : Option (CandidateContext × CandidateExecutionBindingRecord)

def intentOrder (orderId orderRequestedAt : String) : OrderRecord where
  id := orderId
  strategyDecisionId := a.input.strategyDecisionId
  exchangeAccountId := a.input.exchangeAccountId
  market := a.market
  side := a.input.side
  ordType := a.input.ordType
  volume := a.input.volume
  price := a.input.price
  timeInForce := none
  smpType := none
  identifier := a.identifier
  idempotencyKey := a.idempotencyKey
  origin := a.input.origin.getD .strategy
  requestedAt := orderRequestedAt
  upbitUuid := none
  status := .persisted
  executionMode := executionModeForAdapter a.deps.sendPath
  exchangeResponseJson := none
  failureCode := none
  failureMessage := none
  createdAt := orderRequestedAt
  updatedAt := orderRequestedAt

def intentEvent (eventId orderId orderRequestedAt : String) : OrderEventRecord :=
  ⟨eventId, orderId, "ORDER_PERSISTED", .local,
    jsonObject [("idempotencyKey", a.idempotencyKey),
      ("decisionAction", a.input.decision.action.text)], orderRequestedAt⟩

/-- The intent of a candidate route, persisted together with its binding. Every failure keeps the
lease. -/
def persistCandidateIntent (context : CandidateContext) (orderId eventId bindingId : String) :
    Service Num Intent := do
  let timestamps ← catching
    (do
      let bindingCreatedAt ← ask (.now .bindingCreatedAt)
      computed (a.deps.library.createCandidateExecutionAttemptTimestamps
        context.authority.activationEpochNs bindingCreatedAt))
    fun _ => do
      assign fun s => { s with releaseLease := false }
      failCandidateIntent a.deps context a.input orderId bindingId .derivation none
        "Candidate execution timestamps could not be derived safely; execution is paused."
  let order := a.intentOrder orderId timestamps.orderRequestedAt
  let event := a.intentEvent eventId orderId timestamps.orderRequestedAt
  let binding ← catching
    (computed (a.deps.library.deriveCandidateExecutionBinding context.authority order
      context.decision bindingId timestamps.bindingCreatedAt))
    fun _ => do
      assign fun s => { s with releaseLease := false }
      failCandidateIntent a.deps context a.input orderId bindingId .derivation
        (some timestamps.bindingCreatedAt)
        "Candidate order binding could not be derived safely; execution is paused."
  catching
    (ask (.persistCandidateBoundOrderIntent ⟨order, event, binding,
      context.authority.expectedPhase, context.authority.expectedDeploymentUpdatedAt,
      context.authority.expectedStateVersion⟩))
    fun _ => do
      assign fun s => { s with releaseLease := false }
      failCandidateIntent a.deps context a.input orderId bindingId .persistence
        (some timestamps.bindingCreatedAt)
        "Candidate order intent could not be persisted atomically; execution is paused."
  return ⟨order, event, some (context, binding)⟩

def persistIntent : Service Num Intent := do
  let orderId ← ask (.createId "order")
  let eventId ← ask (.createId "order_event")
  match a.candidate with
  | some context => do
    let bindingId ← ask (.createId "candidate_execution_binding")
    a.persistCandidateIntent context orderId eventId bindingId
  | none => do
    let order := a.intentOrder orderId a.attemptStartedAt
    let event := a.intentEvent eventId orderId a.attemptStartedAt
    ask (.persistOrderIntent ⟨order, event⟩)
    return ⟨order, event, none⟩

/-- `submittingOrder`. -/
def Intent.submittingOrder (intent : Intent) : OrderRecord :=
  { intent.order with status := .submitting }

/-! ### Renewal and send -/

def renewBeforeSend (intent : Intent) : Service Num Unit := do
  ask (.updateOrder intent.submittingOrder)
  let renewalAt ← ask (.now .renewalAt)
  catching
    (do
      let window ← lift (leaseWindow a.deps renewalAt .renewal)
      let renewedExpiry := max window.expiresAtEpochMs (a.acquisitionWindow.expiresAtEpochMs + 1)
      if isSafeInteger renewedExpiry = false ∨ renewedExpiry ≤ window.atEpochMs then
        raise (.error "lease renewal expiry is unsafe")
      else do
        let renewed ← ask (.renewLease ⟨a.input.exchangeAccountId, a.leaseOwnerToken,
          window.atEpochMs, renewedExpiry⟩)
        if isOwnedLease renewed a.input.exchangeAccountId a.leaseOwnerToken window.atEpochMs then
          pure ()
        else raise (.error "lease ownership was not renewed"))
    fun _ => do
      assign fun s => { s with releaseLease := false }
      a.recordBlocked renewalAt
        "Account execution lease renewal is ambiguous after SUBMITTING; reconciliation is required before any resend."
        (some intent.order.id)
      raise (.accountExecutionLease "Account execution lease renewal is ambiguous.")

/-- The last checks and the send, under the authority of the runtime. -/
def checkAndSend (initialAuthority : ExecutionAuthority) (intent : Intent) : Service Num Unit := do
  assertFinalCandidatePreSendAuthority a.deps (intent.binding.map fun (context, binding) =>
    ⟨context, intent.submittingOrder, intent.event, binding⟩)
  let finalState ← ask .getState
  let finalAuthority := selectExecutionAuthority finalState
  if finalState.systemStatus ≠ .running ∨ finalState.killSwitchActive ∨
      finalAuthority ≠ initialAuthority ∨
      executionAdapterAcceptsAuthority a.deps.sendPath finalAuthority = false then
    raise (.error "final pre-send authority is blocked")
  else do
    let finalActiveOrders ← ask (.listSubmissionBlockingOrders a.input.exchangeAccountId
      (candidateFinalOrderScanLimit + 1))
    let finalPersistedOrder ← ask (.findOrderById a.input.exchangeAccountId intent.order.id)
    computed (assertFinalPersistedSubmissionAuthority intent.submittingOrder finalActiveOrders
      finalPersistedOrder)
    assign fun s => { s with finalRuntimeExecutionAuthorityCheckStarted := true }
    if a.deps.hasExecutionAuthority = false then
      raise (.runtimeOwnership
        "RUNTIME_OWNERSHIP_NOT_HELD: Persisted combined execution authority is unavailable.")
    else do
      let thrown ← ask (.runWithCurrentExecutionAuthority ⟨a.input.exchangeAccountId,
        initialAuthority.executionMode, initialAuthority.liveExecutionGate⟩ intent.order.id
        (orderRequest a.input a.market intent.order.identifier))
      assign fun s => { s with createOrderInvoked := true }
      match thrown with
      | some e => raise e
      | none => assign fun s => { s with exchangeOrderStarted := true }

/-- The `catch` of the send: an error after `createOrder` was invoked is kept, any other keeps the
lease and is reported. -/
def handleSendError (intent : Intent) (e : Thrown) : Service Num Unit := do
  let s ← locals
  if s.createOrderInvoked then
    assign fun s => { s with synchronousSubmissionError := if e = .null then none else some e }
  else do
    assign fun s => { s with releaseLease := false }
    if s.finalRuntimeExecutionAuthorityCheckStarted then raise e
    else
      match intent.binding with
      | some (context, binding) => do
        pauseCandidateIntentFault a.deps context a.input intent.order.id binding.id
          .finalRevalidation intent.order.requestedAt
        raise (.candidateExecution
          "Candidate final pre-send authority or intent material changed; execution is paused.")
      | none => do
        let occurredAt ← ask (.now .faultOccurredAt)
        a.recordBlocked occurredAt
          "Final pre-send authority check is ambiguous or blocked; reconciliation is required before any send."
          (some intent.order.id)
        raise (.accountExecutionLease "Final pre-send authority check failed.")

def sendOrder (initialAuthority : ExecutionAuthority) (intent : Intent) : Service Num Unit :=
  catching (a.checkAndSend initialAuthority intent) (a.handleSendError intent)

/-! ### After the send -/

/-- `assertCurrent` after the adapter answered: its failure is remembered. -/
def assertCurrentAfterAdapter : Service Num Unit :=
  catching (ask .assertCurrent) fun e => do
    assign fun s => { s with postAdapterOwnershipAssertionFailed := true }
    raise e

def awaitExchangeOrder : Service Num ExchangeOrderSnapshot := do
  let s ← locals
  match s.synchronousSubmissionError with
  | some e => raise e
  | none =>
    if s.exchangeOrderStarted = false then
      raise (.error "Exchange order submission did not start.")
    else do
      let snapshot ← catching (ask .exchangeOrder) fun e => do
        assertCurrentAfterAdapter
        raise e
      assertCurrentAfterAdapter
      return snapshot

/-- `fill.tradeUuid ?? createId("exchange_fill")`. -/
def exchangeFillIdOf (fill : ExchangeFillSnapshot) : Service Num String :=
  match fill.tradeUuid with
  | some tradeUuid => pure tradeUuid
  | none => ask (.createId "exchange_fill")

/-- The fills of the response, as rows of the order. -/
def exchangeFills (orderId : String) : List ExchangeFillSnapshot → Service Num (List FillRecord)
  | [] => pure []
  | fill :: fills => do
    let executionTimestamp := directExchangeFillTimestamp a.deps.library fill.createdAt
    let id ← ask (.createId "fill")
    let exchangeFillId ← exchangeFillIdOf fill
    let rest ← exchangeFills orderId fills
    return ⟨id, orderId, exchangeFillId, a.market, fill.side, fill.price, fill.volume,
      some "KRW", fill.fee, some (if fill.fee = none then .missing else .exchangeFillConfirmed),
      some executionTimestamp.provenance, executionTimestamp.epochNanoseconds,
      executionTimestamp.filledAt, fill.raw⟩ :: rest

def createDryRunSyntheticFill (orderId filledAt exchangeOrderRaw : String) :
    Service Num (Option FillRecord) :=
  match dryRunFillTerms a.deps.library a.input with
  | none => pure none
  | some (price, volume) => do
    let id ← ask (.createId "fill")
    let exchangeFillId ← ask (.createId "dryrun_fill")
    let epochNs ← computed (a.deps.library.parseCandidateEvidenceTimestamp filledAt)
    return some ⟨id, orderId, exchangeFillId, a.market, a.input.side, price, volume, some "KRW",
      some "0", some .simulated, some .localSynthetic, some (toString epochNs), filledAt,
      jsonRecord [("mode", jsonString "DRY_RUN"),
        ("settlement", jsonString "SIMULATED_IMMEDIATE_FILL"),
        ("exchangeOrderRaw", exchangeOrderRaw)]⟩

/-- The settlement of the dry-run adapter: the fills, with the simulated one if there is none, and
the order as `FILLED`. -/
def settleDryRun (intent : Intent) (snapshot : ExchangeOrderSnapshot) (updatedOrder : OrderRecord)
    (fills : List FillRecord) : Service Num (OrderRecord × List FillRecord) :=
  match a.deps.sendPath with
  | .liveAdapter => pure (updatedOrder, fills)
  | .dryRunAdapter => do
    let settledAt ← ask (.now .settledAt)
    let syntheticFill ← a.createDryRunSyntheticFill intent.order.id settledAt snapshot.raw
    let settledFills := if fills = [] then syntheticFill.toList else fills
    if settledFills = [] then do
      assign fun s => { s with releaseLease := false }
      throwPostSendPersistenceFailure intent.submittingOrder a.input.exchangeAccountId settledAt
        "Dry-run submission could not produce terminal fill evidence."
    else return ({ updatedOrder with status := .filled, updatedAt := settledAt }, settledFills)

/-- The event of a `FILLED` submission. -/
def terminalEvent (snapshot : ExchangeOrderSnapshot) (order : OrderRecord) (fillCount : ℕ) :
    Service Num (Option OrderEventRecord) :=
  if order.status = .filled then do
    let id ← ask (.createId "order_event")
    return some ⟨id, order.id, "ORDER_FILLED", eventSourceForAdapter a.deps.sendPath,
      match a.deps.sendPath with
      | .dryRunAdapter => jsonRecord [("mode", jsonString "DRY_RUN"),
          ("settlement", jsonString "SIMULATED_IMMEDIATE_FILL"), ("fillCount", toString fillCount)]
      | .liveAdapter => snapshot.raw, order.updatedAt⟩
  else pure none

/-- Persist what the exchange answered; a failure pauses and keeps the lease. -/
def persistSubmission (intent : Intent) (snapshot : ExchangeOrderSnapshot)
    (updatedOrder : OrderRecord) (fills : List FillRecord) : Service Num Unit := do
  assign fun s => { s with releaseLease := false }
  catching
    (do
      let eventId ← ask (.createId "order_event")
      let terminal ← a.terminalEvent snapshot updatedOrder fills.length
      ask (.persistExchangeSubmission ⟨updatedOrder, ⟨eventId, intent.order.id,
        "ORDER_SUBMITTED", eventSourceForAdapter a.deps.sendPath, snapshot.raw,
        updatedOrder.updatedAt⟩, fills, terminal⟩))
    fun _ => do
      let occurredAt ← ask (.now .faultOccurredAt)
      throwPostSendPersistenceFailure intent.submittingOrder a.input.exchangeAccountId occurredAt
        "Exchange submission response could not be persisted atomically."

/-- The `try` after the send. -/
def settleSubmission (intent : Intent) : Service Num SubmitOrderFromDecisionResult := do
  let snapshot ← awaitExchangeOrder
  let submittedAt ← ask (.now .submittedAt)
  let responded : OrderRecord := { intent.submittingOrder with
    upbitUuid := some snapshot.uuid
    status := mapExchangeOrderStatus a.deps.library snapshot
    exchangeResponseJson := some snapshot.raw
    updatedAt := submittedAt }
  let exchangeFills ← a.exchangeFills intent.order.id snapshot.fills
  let (updatedOrder, fills) ← a.settleDryRun intent snapshot responded exchangeFills
  a.persistSubmission intent snapshot updatedOrder fills
  assign fun s => { s with releaseLease := isTerminalOrderStatus updatedOrder.status }
  return ⟨true, match a.deps.sendPath with
    | .dryRunAdapter => .simulatedFilled
    | .liveAdapter => .submitted, some updatedOrder, none⟩

/-- A definitive rejection: the order becomes `REJECTED`. -/
def recordRejection (intent : Intent) (failure : SubmissionErrorDescription) :
    Service Num SubmitOrderFromDecisionResult := do
  let metadata := metadataFields failure.metadata
  let updatedAt ← ask (.now .rejectedAt)
  let rejectedOrder : OrderRecord := { intent.submittingOrder with
    status := .rejected
    failureCode := some "EXCHANGE_ORDER_REJECTED"
    failureMessage := some failure.message
    exchangeResponseJson := some (jsonRecord metadata)
    updatedAt := updatedAt }
  assign fun s => { s with releaseLease := false }
  catching
    (do
      let eventId ← ask (.createId "order_event")
      ask (.persistExchangeSubmission ⟨rejectedOrder, ⟨eventId, intent.order.id,
        "ORDER_REJECTED", eventSourceForAdapter a.deps.sendPath, jsonRecord metadata, updatedAt⟩,
        [], none⟩))
    fun _ => do
      let occurredAt ← ask (.now .faultOccurredAt)
      throwPostSendPersistenceFailure intent.submittingOrder a.input.exchangeAccountId occurredAt
        "Definitive exchange rejection could not be persisted atomically."
  assign fun s => { s with releaseLease := true }
  safeReport a.deps ⟨a.input.exchangeAccountId, "ORDER_REJECTED", "WARN",
    "Order rejected by exchange", failure.message,
    jsonRecord ([("orderId", jsonString rejectedOrder.id),
      ("identifier", jsonString rejectedOrder.identifier)] ++ metadata)⟩
  return ⟨false, .rejected, some rejectedOrder, some failure.message⟩

/-- Any other outcome: the order needs reconciliation, and the account is paused. -/
def recordUncertain (intent : Intent) (failure : SubmissionErrorDescription) :
    Service Num SubmitOrderFromDecisionResult := do
  let metadata := jsonRecord (metadataFields failure.metadata)
  let updatedAt ← ask (.now .uncertainAt)
  let uncertainOrder : OrderRecord := { intent.submittingOrder with
    status := .reconciliationRequired
    failureCode := some "RECONCILIATION_REQUIRED"
    failureMessage := some failure.message
    exchangeResponseJson := some metadata
    updatedAt := updatedAt }
  assign fun s => { s with releaseLease := false }
  catching
    (do
      let eventId ← ask (.createId "order_event")
      let riskEvent ← createRiskEvent a.input.exchangeAccountId a.input.strategyDecisionId
        "POSITION_GUARD_PILOT_UNCERTAIN_ORDER" failure.message metadata (some intent.order.id)
      ask (.persistUncertainSubmission ⟨uncertainOrder, ⟨eventId, intent.order.id,
        "RECONCILIATION_RECOVERY_REQUIRED", eventSourceForAdapter a.deps.sendPath, metadata,
        updatedAt⟩, riskEvent⟩))
    fun _ => do
      let occurredAt ← ask (.now .faultOccurredAt)
      throwPostSendPersistenceFailure intent.submittingOrder a.input.exchangeAccountId occurredAt
        "Uncertain exchange submission could not be persisted atomically."
  pauseForFault a.input.exchangeAccountId ("uncertain-order:" ++ intent.order.id) failure.message
    updatedAt
  return ⟨false, .reconciliationRequired, some uncertainOrder, some failure.message⟩

/-- The `catch` after the send. -/
def handleSubmissionError (intent : Intent) (e : Thrown) :
    Service Num SubmitOrderFromDecisionResult := do
  let s ← locals
  match s.postAdapterOwnershipAssertionFailed, e with
  | true, e => do
    assign fun s => { s with releaseLease := false }
    raise e
  | false, .runtimeOwnership message => do
    assign fun s => { s with releaseLease := false }
    raise (.runtimeOwnership message)
  | false, .postSendPersistence message => raise (.postSendPersistence message)
  | false, e =>
    if isDefinitiveRejection e then a.recordRejection intent (describeSubmissionError e)
    else a.recordUncertain intent (describeSubmissionError e)

def submitUnderLease : Service Num SubmitOrderFromDecisionResult := do
  match ← a.checkBeforeIntent with
  | .inl result => return result
  | .inr initialAuthority => do
    let intent ← a.persistIntent
    a.renewBeforeSend intent
    a.sendOrder initialAuthority intent
    catching (a.settleSubmission intent) (a.handleSubmissionError intent)

/-- The `finally` block. -/
def releaseAtEnd : Service Num Unit := do
  let s ← locals
  if s.releaseLease then do
    let occurredAt ← ask (.now .releasedAt)
    releaseLeaseOrFail a.input a.idempotencyKey a.market occurredAt a.leaseOwnerToken
  else pure ()

end Attempt

/-! ### The method -/

/-- A duplicate of a candidate route must match its authority and binding. -/
def checkDuplicate (deps : Dependencies Num) (input : SubmitOrderFromDecisionInput Num)
    (candidate : Option CandidateContext) (attemptStartedAt idempotencyKey : String)
    (duplicate : OrderRecord) : Service Num Unit :=
  match candidate with
  | none => pure ()
  | some context => do
    let _ ← catching (assertExactCandidateDuplicate deps context duplicate idempotencyKey) fun _ =>
      failCandidateIntent deps context input duplicate.id
        ("candidate-duplicate-binding:" ++ duplicate.id) .duplicate (some attemptStartedAt)
        "Candidate duplicate authority or binding is missing or mismatched; execution is paused."
    pure ()

/-- The order intent exists already. -/
def submitDuplicate (deps : Dependencies Num) (input : SubmitOrderFromDecisionInput Num)
    (candidate : Option CandidateContext) (attemptStartedAt idempotencyKey : String)
    (duplicate : OrderRecord) : Service Num SubmitOrderFromDecisionResult := do
  checkDuplicate deps input candidate attemptStartedAt idempotencyKey duplicate
  return ⟨false, .duplicate, some duplicate,
    some "Duplicate order intent already exists for the same idempotency key."⟩

/-- Acquire the lease and submit under it. -/
def submitNew (deps : Dependencies Num) (input : SubmitOrderFromDecisionInput Num)
    (market : SupportedMarket) (candidate : Option CandidateContext)
    (attemptStartedAt idempotencyKey : String) : Service Num SubmitOrderFromDecisionResult := do
  let leaseOwnerToken ← ask (.createId "account_execution_lease")
  let (window, lease) ← catching
    (do
      let window ← lift (leaseWindow deps attemptStartedAt .acquisition)
      let lease ← ask (.acquireLease ⟨input.exchangeAccountId, leaseOwnerToken,
        window.atEpochMs, window.expiresAtEpochMs⟩)
      pure (window, lease))
    fun _ => do
      recordLeaseBlockedAndPause input idempotencyKey market attemptStartedAt
        "Account execution lease acquisition is ambiguous; order submission is blocked pending recovery."
        none
      raise (.accountExecutionLease "Account execution lease acquisition is ambiguous.")
  match lease with
  | none => do
    let message :=
      "Account execution lease is unavailable; order submission is blocked pending recovery."
    recordLeaseBlockedAndPause input idempotencyKey market attemptStartedAt message none
    return ⟨false, .leaseBlocked, none, some message⟩
  | some lease =>
    if isOwnedLease (some lease) input.exchangeAccountId leaseOwnerToken window.atEpochMs = false
    then do
      recordLeaseBlockedAndPause input idempotencyKey market attemptStartedAt
        "Account execution lease acquisition returned ambiguous ownership; order submission is blocked pending recovery."
        none
      raise (.accountExecutionLease "Account execution lease acquisition is ambiguous.")
    else
      let a : Attempt Num := ⟨deps, input, market, attemptStartedAt, idempotencyKey, candidate,
        leaseOwnerToken, window⟩
      finishing a.submitUnderLease a.releaseAtEnd

def submitOrderFromDecision (deps : Dependencies Num) (input : SubmitOrderFromDecisionInput Num) :
    Service Num SubmitOrderFromDecisionResult := do
  ask .assertLocallyHeld
  computed (deps.library.assertCanonicalUpbitMarketBuyQuote input)
  let attemptStartedAt ← ask (.now .attemptStartedAt)
  let market := input.market.getD input.decision.market
  let idempotencyKey := buildOrderIdempotencyKey deps.library input market
  let duplicate ← ask (.findOrderByIdempotencyKey input.exchangeAccountId idempotencyKey)
  let candidate ← prepareCandidateContext deps input market
  match duplicate with
  | some duplicate =>
    submitDuplicate deps input candidate attemptStartedAt idempotencyKey duplicate
  | none => submitNew deps input market candidate attemptStartedAt idempotencyKey

end AutoTrade.Execution.Service
