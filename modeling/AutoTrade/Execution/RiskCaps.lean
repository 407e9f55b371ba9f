import AutoTrade.Execution.RiskGuards
import AutoTrade.Execution.SendAuthority
import AutoTrade.Execution.Guarantees

/-! # Risk caps and the order that is sent

What a call of `submitOrderFromDecision` hands to `createOrder`, compared with the portfolio its
guards were given. `capsProtocol` carries along the portfolio that was read under the lease; an order
may be sent when its own cost keeps to the caps on that portfolio. `caps_bound_bids`: it does, in every
run, when the guards judge the cost (`Judged`) and are given numbers. A limit bid whose decision names
a smaller notional is sent past the caps (`bid_exceeds_caps`). -/

namespace AutoTrade.Execution.RiskCaps

open Lib.Awaits Lib.Awaits.Async Domain.Types
open Execution.Records Execution.Helpers Execution.Service
open Execution.CallLog Execution.Quiet Execution.SendAuthority
open Execution.RiskGuards

/-! ### The protocol -/

/-- What a call has read of its portfolio. -/
structure Exposure where
  deps : Dependencies Number
  input : SubmitOrderFromDecisionInput Number
  /-- The lease was acquired. -/
  leased : Bool := false
  /-- The first portfolio that was read under the lease. -/
  portfolio : Option (PortfolioExposureSnapshot Number) := none

namespace Exposure

variable (exposure : Exposure)

def next : (op : Op) → Reply Number op → Exposure
  | .acquireLease _, .ok (some _) => { exposure with leased := true }
  | .getPortfolioExposure _, .ok portfolio =>
    if exposure.leased ∧ exposure.portfolio = none then
      { exposure with portfolio := some portfolio } else exposure
  | _, _ => exposure

/-- The cost of an order with the terms of the input keeps to the caps on the portfolio that was
read. -/
def Keeps (request : UpbitOrderRequest) : Prop :=
  ∃ portfolio, exposure.portfolio = some portfolio ∧
    WithinCaps exposure.deps.riskLimits request.market portfolio
      (worstCaseCostKrw exposure.deps.library exposure.input.decision.referencePrice request)

def Allowed : Op → Prop
  | .runWithCurrentExecutionAuthority _ _ request => request.side = .bid → exposure.Keeps request
  | _ => True

end Exposure

/-- The portfolios that are read consist of numbers. -/
def NumericReply : (op : Op) → Reply Number op → Prop
  | .getPortfolioExposure _, .ok portfolio => ∀ market, NumericPortfolio portfolio market
  | _, _ => True

/-- `NumericReply` or anything else may be asked of the replies. -/
def capsProtocol (possible : (op : Op) → Reply Number op → Prop) :
    Protocol Op (Reply Number) Exposure where
  allowed := Exposure.Allowed
  possible op reply := Possible op reply ∧ possible op reply
  next := Exposure.next

/-- The lease is neither acquired nor forgotten, and a first portfolio stays the first one. -/
structure KeptPortfolio (exposure exposure' : Exposure) : Prop where
  deps : exposure'.deps = exposure.deps
  input : exposure'.input = exposure.input
  leased : exposure'.leased = exposure.leased
  unleased : exposure.leased = false → exposure'.portfolio = exposure.portfolio
  portfolio : ∀ portfolio, exposure.portfolio = some portfolio → exposure'.portfolio = some portfolio

instance : Std.Refl KeptPortfolio := ⟨fun _ => ⟨rfl, rfl, rfl, fun _ => rfl, fun _ h => h⟩⟩

instance : IsTrans Exposure KeptPortfolio where
  trans _ _ _ h h' := ⟨h'.deps.trans h.deps, h'.input.trans h.input, h'.leased.trans h.leased,
    fun hleased => (h'.unleased (h.leased.trans hleased)).trans (h.unleased hleased),
    fun portfolio hportfolio => h'.portfolio portfolio (h.portfolio portfolio hportfolio)⟩

theorem KeptPortfolio.keeps {exposure exposure' : Exposure} (h : KeptPortfolio exposure exposure')
    {request : UpbitOrderRequest} (hkeeps : exposure.Keeps request) : exposure'.Keeps request := by
  obtain ⟨portfolio, hportfolio, hcaps⟩ := hkeeps
  refine ⟨portfolio, h.portfolio portfolio hportfolio, ?_⟩
  rw [h.deps, h.input]
  exact hcaps

theorem keptPortfolio_next {op : Op} (h : isOrdinary op = true) (exposure : Exposure)
    (reply : Reply Number op) : KeptPortfolio exposure (exposure.next op reply) := by
  cases op <;> first | exact refl exposure | cases h
  case getPortfolioExposure account =>
    cases reply with
    | error e => exact refl exposure
    | ok portfolio =>
      unfold Exposure.next
      split_ifs with hfirst
      · refine ⟨rfl, rfl, rfl, fun hleased => ?_, fun earlier hearlier => ?_⟩
        · rw [hfirst.1] at hleased
          cases hleased
        · rw [hfirst.2] at hearlier
          cases hearlier
      · exact refl exposure

/-! ### The parts that neither acquire nor send -/

theorem exists_reply (reading : Reading Number) (op : Op) : ∃ reply : Reply Number op,
    Possible op reply ∧ (reading.leased = true → (reading.next op reply).leased = true) := by
  cases op
  case createId kind => exact ⟨.ok "", rfl, id⟩
  case systemClock => exact ⟨.ok "", rfl, id⟩
  case persistExchangeSubmission input => exact ⟨.error .null, (fun h => by cases h), id⟩
  all_goals exact ⟨.error .null, trivial, id⟩

variable {α : Type} {x : Prog Op (Reply Number) α} {reading : Reading Number}

theorem not_unleased (hleased : reading.leased = true)
    (h : x.Follows authorityProtocol reading fun _ reading' => reading'.leased = false) :
    False := by
  induction x generalizing reading with
  | done a =>
    change reading.leased = false at h
    rw [hleased] at h
    cases h
  | call op k ih =>
    obtain ⟨reply, hpossible, hnext⟩ := exists_reply reading op
    exact ih reply (hnext hleased) (h.2 reply hpossible)

variable {possible : (op : Op) → Reply Number op → Prop}

/-- A part that an unleased call without a read could do, and that leaves it unleased, neither
acquires nor sends. -/
theorem keptPortfolio_of_follows {p : α → Prop} (hleased : reading.leased = false)
    (hinitial : reading.initial = none)
    (h : x.Follows authorityProtocol reading fun a reading' => reading'.leased = false ∧ p a)
    (exposure : Exposure) :
    x.Follows (capsProtocol possible) exposure fun a exposure' =>
      KeptPortfolio exposure exposure' ∧ p a := by
  induction x generalizing exposure with
  | done a => exact ⟨refl exposure, h.2⟩
  | call op k ih =>
    obtain ⟨hallowed, hrest⟩ := h
    have hlater : ∀ reply, reading.next op reply = reading → isOrdinary op = true →
        Possible op reply → (k reply).Follows (capsProtocol possible) (exposure.next op reply)
          fun a exposure' => KeptPortfolio exposure exposure' ∧ p a := by
      intro reply hnext hordinary hpossible
      have hfollows := hrest reply hpossible
      change (k reply).Follows authorityProtocol (reading.next op reply) _ at hfollows
      rw [hnext] at hfollows
      refine (ih reply hfollows (exposure.next op reply)).mono fun _ exposure' hkept => ?_
      exact ⟨IsTrans.trans _ _ _ (keptPortfolio_next hordinary exposure reply) hkept.1, hkept.2⟩
    cases op
    case runWithCurrentExecutionAuthority input orderId request =>
      obtain ⟨-, state, hstate, -⟩ := hallowed
      rw [hinitial] at hstate
      cases hstate
    case acquireLease input =>
      refine ⟨trivial, fun reply hpossible => ?_⟩
      have hfollows := hrest reply hpossible.1
      rcases reply with e | _ | lease
      · exact ih _ hfollows exposure
      · exact ih _ hfollows exposure
      · exact (not_unleased rfl (hfollows.mono fun _ _ hq => hq.1)).elim
    case getState =>
      refine ⟨trivial, fun reply hpossible => hlater reply ?_ rfl hpossible.1⟩
      cases reply with
      | error e => rfl
      | ok state => exact if_neg fun hread => by simp [hleased] at hread
    all_goals exact ⟨trivial, fun reply hpossible => hlater reply rfl rfl hpossible.1⟩

theorem moves_caps {x : Service Number α} (h : Moves authorityProtocol Kept x) :
    Moves (capsProtocol possible) KeptPortfolio x := by
  intro s exposure
  have hunleased : (x s).Follows authorityProtocol ⟨exposure.deps, exposure.input, false, none⟩
      fun _ reading' => reading'.leased = false ∧ True :=
    Prog.Follows.mono (fun _ _ hkept => ⟨Kept.leased hkept, trivial⟩) (h s _)
  exact (keptPortfolio_of_follows rfl rfl hunleased exposure).mono fun _ _ hq => hq.1

theorem throws_caps {x : Service Number α} (h : Throws authorityProtocol Kept x) :
    Throws (capsProtocol possible) KeptPortfolio x := by
  intro s exposure
  have hunleased : (x s).Follows authorityProtocol ⟨exposure.deps, exposure.input, false, none⟩
      fun r reading' => reading'.leased = false ∧ ∃ e, r.1 = .error e :=
    Prog.Follows.mono (fun _ _ hkept => ⟨Kept.leased hkept.1, hkept.2⟩) (h s _)
  exact keptPortfolio_of_follows rfl rfl hunleased exposure

/-! ### The guards and the send -/

/-- The market of an order. -/
def marketOf (input : SubmitOrderFromDecisionInput Number) : SupportedMarket :=
  input.market.getD input.decision.market

/-- The guards of a bid are given numbers as limits, and judge the cost of the order. -/
structure Covered (deps : Dependencies Number) (input : SubmitOrderFromDecisionInput Number) : Prop where
  limits : NumericLimits deps.riskLimits (marketOf input)
  judged : Judged deps.riskLimits (requestedNotionalKrw deps.library input)
    (worstCaseCostKrw deps.library input.decision.referencePrice
      (orderRequest input (marketOf input) ""))

section Send

variable {lib : Library Number} (a : Attempt Number) {s : Locals} {exposure : Exposure}

section

variable (hlibrary : a.deps.library = guarded lib) (hmarket : a.market = marketOf a.input)
  (hcovered : a.input.side = .bid → Covered a.deps a.input) (hdeps : exposure.deps = a.deps)
  (hinput : exposure.input = a.input) (hleased : exposure.leased = true)
  (hportfolio : exposure.portfolio = none)
include hlibrary hmarket hcovered hdeps hinput hleased hportfolio

/-- The guards let an order pass whose cost keeps to the caps on the portfolio they were given. -/
theorem follows_assessRisk (state : ExecutionStateRecord) (accountActiveOrders : List OrderRecord) :
    Follows (capsProtocol NumericReply) (a.assessRisk state accountActiveOrders) s exposure
      fun r _ exposure' => ∀ authority, r = .ok (.inr authority) → ∀ identifier,
        a.input.side = .bid → exposure'.Keeps (orderRequest a.input a.market identifier) := by
  unfold Attempt.assessRisk
  refine Follows.await_andThen trivial (fun e _ _ h => by cases h) fun portfolio hpossible => ?_
  have hread : exposure.next (.getPortfolioExposure a.input.exchangeAccountId) (.ok portfolio) =
      { exposure with portfolio := some portfolio } := if_pos ⟨hleased, hportfolio⟩
  change Follows _ _ _ (exposure.next (.getPortfolioExposure a.input.exchangeAccountId)
    (.ok portfolio)) _
  rw [hread]
  dsimp only
  split
  · exact (moves_caps (moves_of_quiet (quiet_rejectByRisk a _))).andThen
      (fun _ _ _ _ _ h => by cases h) fun _ _ _ _ _ h => by cases h
  · next haccepted =>
    rw [hlibrary] at haccepted
    have hrules := rules_of_accepted (Bool.eq_true_of_not_eq_false haccepted)
    have hkeeps : ∀ identifier, a.input.side = .bid →
        Exposure.Keeps { exposure with portfolio := some portfolio }
          (orderRequest a.input a.market identifier) := by
      intro identifier hside
      refine ⟨portfolio, rfl, ?_⟩
      obtain ⟨hlimits, hjudged⟩ := hcovered hside
      have hminimum : minimumRules a.deps.riskLimits
        (requestedNotionalKrw a.deps.library a.input) = [] := hrules.1
      have hexposure : exposureRules a.deps.riskLimits a.market a.input.side portfolio
        (requestedNotionalKrw a.deps.library a.input) = [] := hrules.2
      rw [hmarket, hside] at hexposure
      rw [hdeps, hinput, hmarket]
      exact withinCaps_of_silent hlimits (hpossible.2 _) hjudged hminimum hexposure
    refine (moves_caps (moves_of_quiet (quiet_runExchangePreTradeValidation _ _ _ _ _ _))).andThen
      (fun _ _ _ _ _ h => by cases h) fun checked s₂ exposure₂ h₂ => ?_
    cases checked with
    | none => exact fun _ _ identifier hside => h₂.keeps (hkeeps identifier hside)
    | some rejection =>
      exact (moves_caps (moves_of_quiet (quiet_rejectByExchange a rejection))).andThen
        (fun _ _ _ _ _ h => by cases h) fun _ _ _ _ _ h => by cases h

/-- The reads of the orders and of the state leave the portfolio unread. -/
theorem follows_checkBeforeIntent :
    Follows (capsProtocol NumericReply) a.checkBeforeIntent s exposure
      fun r _ exposure' => ∀ authority, r = .ok (.inr authority) → ∀ identifier,
        a.input.side = .bid → exposure'.Keeps (orderRequest a.input a.market identifier) := by
  unfold Attempt.checkBeforeIntent
  have hfailed : ∀ exposure₁ {Q : Except Thrown _ → Locals → Exposure → Prop},
      (∀ e s' exposure', Q (.error e) s' exposure') →
      Follows (capsProtocol NumericReply) _ s exposure₁ Q := fun exposure₁ Q hQ =>
    (throws_caps (throws_firstReadFailure a) s exposure₁).mono fun r s' exposure' hr => by
      obtain ⟨-, e, rfl⟩ := hr
      exact hQ e _ _
  have hblocked : ∀ message, Follows (capsProtocol NumericReply) (do
      let result ← a.leaseBlocked message
      return (Sum.inl result : SubmitOrderFromDecisionResult ⊕ ExecutionAuthority)) s exposure
      fun r _ exposure' => ∀ authority, r = .ok (.inr authority) → ∀ identifier,
        a.input.side = .bid → exposure'.Keeps (orderRequest a.input a.market identifier) :=
    fun message => (moves_caps (moves_leaseBlocked a message)).andThen
      (fun _ _ _ _ _ h => by cases h) fun _ _ _ _ _ h => by cases h
  refine follows_bind.mpr (follows_catching.mpr ?_)
  refine Follows.await_andThen trivial (fun e _ => hfailed _ fun _ _ _ _ h => by cases h)
    fun accountActiveOrders _ => ?_
  refine Follows.await_andThen trivial (fun e _ => hfailed _ fun _ _ _ _ h => by cases h)
    fun state _ => ?_
  refine follows_pure.mpr ?_
  dsimp only
  split
  · exact hblocked _
  · split
    · exact hblocked _
    · exact follows_assessRisk a hlibrary hmarket hcovered hdeps hinput hleased hportfolio state
        accountActiveOrders

end

/-- A bid with the terms of the input keeps to the caps. -/
def ReadyToSend (input : SubmitOrderFromDecisionInput Number) (_ : ExecutionAuthority)
    (exposure : Exposure) : Prop :=
  ∀ identifier, input.side = .bid → exposure.Keeps (orderRequest input (marketOf input) identifier)

theorem routine (input : SubmitOrderFromDecisionInput Number) :
    Routine (capsProtocol NumericReply) KeptPortfolio (ReadyToSend input) where
  moves := moves_caps
  stays hkept hready := fun identifier hside => hkept.keeps (hready identifier hside)

theorem maySend {input : SubmitOrderFromDecisionInput Number} (hinput : a.input = input)
    (hmarket : a.market = marketOf input) :
    MaySend (capsProtocol NumericReply) KeptPortfolio (ReadyToSend input) a := by
  subst hinput
  intro authority intent exposure hready
  rw [hmarket]
  exact ⟨fun hside => hready _ hside, fun reply => refl exposure⟩

end Send

/-- **The caps bound what is ordered.** In every run of a call whose guards judge the cost of its bid
and are given numbers, the order that is handed to `createOrder` keeps to the caps. -/
theorem caps_bound_bids {lib : Library Number} (deps : Dependencies Number)
    (input : SubmitOrderFromDecisionInput Number) (hlibrary : deps.library = guarded lib)
    (hcovered : input.side = .bid → Covered deps input) :
    Follows (capsProtocol NumericReply) (submitOrderFromDecision deps input) {}
      { deps, input } fun _ _ _ => True := by
  refine (routine input).follows_submitOrderFromDecision fun exposure candidate startedAt s' h => ?_
  refine (routine input).follows_submitNew fun exposure₁ request h₁ => ⟨trivial, ?_⟩
  intro lease token window s''
  -- no portfolio was read before the lease was acquired
  have hkept : KeptPortfolio { deps, input } exposure₁ := IsTrans.trans _ _ _ h h₁
  have hportfolio : ({ exposure₁ with leased := true } : Exposure).portfolio = none :=
    hkept.unleased rfl
  refine (routine input).follows_submitUnderLease (maySend _ rfl rfl)
    ((follows_checkBeforeIntent _ hlibrary rfl hcovered hkept.deps hkept.input rfl hportfolio).mono
      fun r _ exposure₂ hkeeps => ?_)
  exact fun authority hok identifier hside => hkeeps authority hok identifier hside

/-! ### Two limit bids -/

instance WithinCaps.decidable (limits : ExecutionRiskLimits Number) (market : SupportedMarket)
    (portfolio : PortfolioExposureSnapshot Number) (cost : Number) :
    Decidable (WithinCaps limits market portfolio cost) :=
  decidable_of_iff
    (Number.le limits.minimumOrderValueKrw cost = true ∧
      Number.le (Number.add (ofMarket portfolio.assetExposureKrw market) cost)
        (Number.mul portfolio.totalEquityKrw (ofMarket limits.maxAllocationByAsset market)) = true ∧
      Number.le (Number.add portfolio.totalExposureKrw cost)
        (Number.mul portfolio.totalEquityKrw limits.totalExposureCap) = true)
    ⟨fun h => ⟨h.1, h.2.1, h.2.2⟩, fun h => ⟨h.minimum, h.asset, h.total⟩⟩

instance Exposure.Keeps.decidable (exposure : Exposure) (request : UpbitOrderRequest) :
    Decidable (exposure.Keeps request) :=
  match h : exposure.portfolio with
  | none => isFalse fun hkeeps => by
    obtain ⟨portfolio, hportfolio, -⟩ := hkeeps
    rw [h] at hportfolio
    cases hportfolio
  | some portfolio => decidable_of_iff
    (WithinCaps exposure.deps.riskLimits request.market portfolio
      (worstCaseCostKrw exposure.deps.library exposure.input.decision.referencePrice request)) (by
      unfold Exposure.Keeps
      rw [h]
      simp)

instance Exposure.Allowed.decidable (exposure : Exposure) :
    (op : Op) → Decidable (exposure.Allowed op)
  | .runWithCurrentExecutionAuthority _ _ request =>
    inferInstanceAs (Decidable (request.side = .bid → exposure.Keeps request))
  | .assertLocallyHeld | .assertCurrent | .exchangeOrder | .now _ | .systemClock | .createId _
  | .findOrderByIdempotencyKey _ _ | .findOrderById _ _ | .listOrderEvents _ | .listActiveOrders _
  | .listSubmissionBlockingOrders _ _ | .saveRiskEvent _ | .persistOrderIntent _
  | .persistCandidateBoundOrderIntent _ | .updateOrder _ | .persistExchangeSubmission _
  | .persistUncertainSubmission _ | .acquireLease _ | .renewLease _ | .releaseLease _ _
  | .getStrategyDecisionById _ | .getPortfolioExposure _ | .getState | .pauseForFault _
  | .getDeployment _ | .getExactStateVersion _ | .getExecutionBindingForOrder _
  | .pauseForCandidateIntentFault _ | .getOrderChance _ | .testOrder _ | .report _ => isTrue trivial

open Execution.Guarantees (instant runningState)

/-- The functions of other modules at the values of the run. -/
def bidLibrary : Library Number := guarded
  { number := fun text => if text = "1000000" then some 1000000 else if text = "1" then some 1 else none
    numberText := fun _ => ""
    isFinite := Option.isSome
    lt := Number.lt
    le := Number.le
    mul := Number.mul
    zero := some 0
    dateParse := fun text => if text = instant then some 1767225600000 else none
    sha256Hex := fun _ => "0123456789abcdef"
    assertCanonicalUpbitMarketBuyQuote := fun _ => .ok ()
    serializeUpbitOrderDecimal := fun _ _ => .error "decimal"
    dryRunVolume := fun _ _ => ""
    evaluateRiskGuards := fun _ => ⟨true, []⟩
    parseCandidateEvidenceTimestamp := fun _ => .error "timestamp"
    formatCanonicalUtcIsoNanoseconds := fun _ => .error "timestamp"
    validateCandidateExecutionAuthority := fun _ => .error "authority"
    createCandidateExecutionAttemptTimestamps := fun _ _ => .error "authority"
    deriveCandidateExecutionBinding := fun _ _ _ _ _ => .error "authority"
    validateCandidateExecutionBinding := fun _ => .error "authority"
    persistedPayloadMatches := fun _ _ _ => false
    validateFinalCandidateIntent := fun _ _ _ _ _ _ _ => .error "authority" }

def bidDependencies : Dependencies Number where
  library := bidLibrary
  riskLimits := ⟨⟨some 1, some 1⟩, some 1, some 60000, some 5000⟩
  sendPath := .liveAdapter
  accountExecutionLeaseMs := 60000
  hasCandidatePilots := false
  hasStrategyDecisionReads := false
  hasReporter := false
  hasExecutionAuthority := true

/-- A limit bid for one bitcoin at a million KRW, by a decision that names this notional. -/
def limitBid (notional : ℚ) : SubmitOrderFromDecisionInput Number where
  exchangeAccountId := "acct"
  strategyDecisionId := some "decision"
  referencePriceCapturedAt := instant
  decision := ⟨"strategy", .krwBtc, .enter, some 1000000, some (some notional), none⟩
  side := .bid
  ordType := .limit
  price := some "1000000"
  volume := some "1"
  origin := none
  market := none
  candidateAuthority := none

/-- The order of the bid while it is sent. -/
def submittingBid (notional : ℚ) : OrderRecord :=
  { Attempt.intentOrder ⟨bidDependencies, limitBid notional, .krwBtc, instant,
      buildOrderIdempotencyKey bidLibrary (limitBid notional) .krwBtc, none, "id", ⟨0, 0⟩⟩
      "id" instant with status := .submitting }

/-- Dependencies that do not fail, an account with 200000 KRW of which half is spent. -/
def bidAnswer (notional : ℚ) : (op : Op) → Reply Number op
  | .assertLocallyHeld => .ok ()
  | .assertCurrent => .ok ()
  | .runWithCurrentExecutionAuthority _ _ _ => .ok none
  | .now _ => .ok instant
  | .systemClock => .ok instant
  | .createId _ => .ok "id"
  | .findOrderByIdempotencyKey _ _ => .ok none
  | .findOrderById _ _ => .ok (some (submittingBid notional))
  | .listActiveOrders _ => .ok []
  | .listSubmissionBlockingOrders _ _ => .ok [submittingBid notional]
  | .persistOrderIntent _ => .ok ()
  | .updateOrder _ => .ok ()
  | .acquireLease input => .ok (some ⟨input.exchangeAccountId, input.ownerToken,
      input.acquiredAtEpochMs, input.expiresAtEpochMs⟩)
  | .renewLease input => .ok (some ⟨input.exchangeAccountId, input.ownerToken,
      input.renewedAtEpochMs, input.expiresAtEpochMs⟩)
  | .getPortfolioExposure _ => .ok ⟨some 200000, some 100000, ⟨some 100000, some 0⟩⟩
  | .getState => .ok (runningState .liveAdapter)
  | .getOrderChance _ => .ok ⟨"KRW-BTC", ["market"], ["limit"], none, none, none⟩
  | .testOrder _ => .ok ⟨true, true, none⟩
  | _ => .error (.error "unavailable")

/-- **A decision for ten thousand KRW sends a bid of a million past the caps.** -/
theorem bid_exceeds_caps :
    ¬ Follows (capsProtocol NumericReply) (submitOrderFromDecision bidDependencies (limitBid 10000))
      {} { deps := bidDependencies, input := limitBid 10000 } fun _ _ _ => True := by
  intro h
  have hpossible : ∀ op, (capsProtocol NumericReply).possible op (bidAnswer 10000 op) := by
    intro op
    cases op
    case persistExchangeSubmission input => exact ⟨(fun h => by cases h), trivial⟩
    case getPortfolioExposure account =>
      refine ⟨trivial, fun market => ?_⟩
      cases market with
      | krwBtc => exact ⟨rfl, rfl, rfl⟩
      | krwEth => exact ⟨rfl, rfl, rfl⟩
    case createId kind => exact ⟨rfl, trivial⟩
    case systemClock => exact ⟨rfl, trivial⟩
    all_goals exact ⟨trivial, trivial⟩
  have hallowed := Prog.Follows.path h hpossible
  revert hallowed
  change ¬ ∀ p ∈ (_ : List (Exposure × Op)), Exposure.Allowed p.1 p.2
  decide +kernel

/-- A decision for the whole cost is bounded. -/
theorem caps_bound_bid_of_million :
    Follows (capsProtocol NumericReply) (submitOrderFromDecision bidDependencies (limitBid 1000000))
      {} { deps := bidDependencies, input := limitBid 1000000 } fun _ _ _ => True :=
  caps_bound_bids bidDependencies (limitBid 1000000) rfl fun _ =>
    ⟨⟨rfl, rfl, rfl⟩, 1000000, 1000000, rfl, by decide +kernel, by norm_num, le_refl _,
      by decide +kernel⟩

end AutoTrade.Execution.RiskCaps
