import AutoTrade.Execution.Service
import AutoTrade.Execution.OrderDecimals
import Mathlib.Data.Rat.Cast.Order

/-! # The risk guards

`evaluateRiskGuards` of `guards.ts` over numbers that may be `NaN`, and what it says about the order
that is sent. A comparison with `NaN` is false, so a guard that would have blocked stays silent.

The guards judge a notional, the order has a cost of its own. `silent_iff`: the guards bound the cost
on every portfolio exactly when the notional they judge is a positive number that covers the cost and
lies with it on one side of the minimum, or is refused in any case. -/

namespace AutoTrade.Execution.RiskGuards

open Lib.Text Lib.Result Domain.Types
open Execution.Records Execution.Helpers
open Execution.OrderDecimals (canonicalizeUpbitOrderDecimal)

/-! ### Numbers -/

/-- A number; `none` is `NaN`. -/
abbrev Number : Type := Option ℚ

namespace Number

def lt (a b : Number) : Bool :=
  match a, b with
  | some a, some b => a < b
  | _, _ => false

def le (a b : Number) : Bool :=
  match a, b with
  | some a, some b => a ≤ b
  | _, _ => false

def add (a b : Number) : Number :=
  match a, b with
  | some a, some b => some (a + b)
  | _, _ => none

def mul (a b : Number) : Number :=
  match a, b with
  | some a, some b => some (a * b)
  | _, _ => none

def neg (a : Number) : Number := a.map fun a => -a

/-- `Math.max(0, x)`. -/
def maxZero (a : Number) : Number := a.map fun a => max 0 a

end Number

/-! ### The guards -/

/-- `ACTIVE_DUPLICATE_STATUSES`. -/
def activeDuplicateStatuses : List OrderLifecycleStatus :=
  [.intentCreated, .persisted, .submitting, .open, .partiallyFilled, .cancelRequested,
    .reconciliationRequired]

section Guards

variable (lib : Library Number) (context : RiskEvaluationContext Number)

def normalizeOptionalNumberString (value : Option String) : Option String :=
  if truthy value then some (lib.numberText (lib.number (value.getD ""))) else none

def matchesRequestShape (order : OrderRecord) : Bool :=
  order.market = context.market ∧ order.side = context.requestedSide ∧
    normalizeOptionalNumberString lib order.price =
      normalizeOptionalNumberString lib context.requestedPrice ∧
    normalizeOptionalNumberString lib order.volume =
      normalizeOptionalNumberString lib context.requestedVolume

def hasDuplicateOpenOrder : Bool :=
  context.openOrders.any fun order => order.status ∈ activeDuplicateStatuses ∧
    (order.idempotencyKey = context.requestedIdempotencyKey ∨
      matchesRequestShape lib context order)

/-- The kill switch and the state of the operator. -/
def operatorRules : List TriggeredRule :=
  (if context.policy.globalKillSwitch ∨ context.systemStatus = .killSwitched then
    [⟨"GLOBAL_KILL_SWITCH", "Global kill switch is active."⟩] else []) ++
  (if context.systemStatus = .paused then
    [⟨"EXECUTION_PAUSED", "Execution is paused by operator state."⟩] else []) ++
  (if context.systemStatus = .degraded then
    [⟨"SYSTEM_DEGRADED",
      "Execution is blocked while the system is DEGRADED pending operator review."⟩] else []) ++
  (if context.policy.executionMode = .live ∧ context.policy.liveExecutionGate = .disabled then
    [⟨"LIVE_EXECUTION_DISABLED",
      "LIVE mode is requested but live execution gate is disabled."⟩] else [])

/-- `ageMs`. -/
def priceAgeMs : Number :=
  match lib.dateParse context.now, lib.dateParse context.capturedAt with
  | some now, some capturedAt => some ((now - capturedAt : ℤ) : ℚ)
  | _, _ => none

/-- The price snapshot is always there; one whose age is no number is stale. -/
def stalePriceRules : List TriggeredRule :=
  match priceAgeMs lib context with
  | none => [⟨"STALE_PRICE_GUARD", "Price snapshot is stale or outside the allowed clock skew."⟩]
  | some ageMs =>
    if Number.lt context.policy.limits.stalePriceThresholdMs (some |ageMs|) then
      [⟨"STALE_PRICE_GUARD", "Price snapshot is stale or outside the allowed clock skew."⟩]
    else []

/-- The minimum is not asked of a notional that is `null`. -/
def minimumRules (limits : ExecutionRiskLimits Number) (notional : Option Number) :
    List TriggeredRule :=
  match notional with
  | none => []
  | some notional =>
    if Number.lt notional limits.minimumOrderValueKrw then
      [⟨"MINIMUM_ORDER_VALUE_GUARD", "Requested order value is below the configured minimum."⟩]
    else []

def duplicateRules : List TriggeredRule :=
  if hasDuplicateOpenOrder lib context then
    [⟨"DUPLICATE_ORDER_GUARD", "A matching active order already exists."⟩]
  else []

end Guards

/-- The amount of the asset of a market. -/
def ofMarket (amounts : AllocationByAsset Number) : SupportedMarket → Number
  | .krwBtc => amounts.btc
  | .krwEth => amounts.eth

def assetText : SupportedMarket → String
  | .krwBtc => "BTC"
  | .krwEth => "ETH"

/-- The caps are asked of a positive change of the exposure alone. -/
def exposureRules (limits : ExecutionRiskLimits Number) (market : SupportedMarket) (side : OrderSide)
    (portfolio : PortfolioExposureSnapshot Number) (notional : Option Number) :
    List TriggeredRule :=
  match notional with
  | none => []
  | some notional =>
    let exposureDeltaKrw := if side = .ask then Number.neg notional else notional
    let projectedAssetExposure :=
      Number.maxZero (Number.add (ofMarket portfolio.assetExposureKrw market) exposureDeltaKrw)
    let projectedTotalExposure :=
      Number.maxZero (Number.add portfolio.totalExposureKrw exposureDeltaKrw)
    if Number.lt (some 0) exposureDeltaKrw then
      (if Number.lt (Number.mul portfolio.totalEquityKrw (ofMarket limits.maxAllocationByAsset market))
          projectedAssetExposure then
        [⟨"PER_ASSET_MAX_ALLOCATION",
          "Projected " ++ assetText market ++ " exposure exceeds configured max allocation."⟩]
      else []) ++
      (if Number.lt (Number.mul portfolio.totalEquityKrw limits.totalExposureCap)
          projectedTotalExposure then
        [⟨"TOTAL_EXPOSURE_CAP", "Projected total exposure exceeds configured cap."⟩]
      else [])
    else []

def evaluateRiskGuards (lib : Library Number) (context : RiskEvaluationContext Number) :
    RiskEvaluationResult :=
  let triggeredRules := operatorRules context ++ stalePriceRules lib context ++
    minimumRules context.policy.limits context.requestedNotionalKrw ++
    duplicateRules lib context ++
    exposureRules context.policy.limits context.market context.requestedSide context.portfolio
      context.requestedNotionalKrw
  ⟨triggeredRules.isEmpty, triggeredRules⟩

/-- `assertCanonicalUpbitMarketBuyQuote`. -/
def assertCanonicalUpbitMarketBuyQuote (lib : Library Number)
    (input : SubmitOrderFromDecisionInput Number) : Except String Unit :=
  if input.side ≠ .bid ∨ input.ordType ≠ .price then .ok ()
  else
    match input.price, input.volume, input.decision.requestedNotionalKrw with
    | some price, none, some (some notional) =>
      if notional ≤ 0 then
        .error "Market-buy quote must have a positive decision notional, price, and no volume."
      else do
        let canonical ← canonicalizeUpbitOrderDecimal price "market-buy quote"
        let expected ← lib.serializeUpbitOrderDecimal (some notional) "market-buy decision notional"
        throwIf (price ≠ canonical ∨ price ≠ expected)
          "Market-buy quote must exactly match the canonical decision notional."
    | _, _, _ =>
      .error "Market-buy quote must have a positive decision notional, price, and no volume."

/-- The functions of other modules, with these numbers and guards. -/
def guarded (lib : Library Number) : Library Number :=
  { lib with
    isFinite := Option.isSome
    lt := Number.lt
    le := Number.le
    mul := Number.mul
    zero := some 0
    evaluateRiskGuards := evaluateRiskGuards lib
    assertCanonicalUpbitMarketBuyQuote := assertCanonicalUpbitMarketBuyQuote lib }

/-! ### The cost of the order -/

/-- What a bid costs at most: its price for a market buy, price times volume for a limit bid, the
reference price times the volume otherwise. -/
def worstCaseCostKrw (lib : Library Number) (referencePrice : Number) (request : UpbitOrderRequest) :
    Number :=
  match request.ordType with
  | .price => request.price.bind lib.number
  | .limit => Number.mul (request.price.bind lib.number) (request.volume.bind lib.number)
  | _ => Number.mul referencePrice (request.volume.bind lib.number)

/-- The order keeps to the caps: its cost is a number, not below the minimum, and fits into what the
portfolio has left. -/
structure WithinCaps (limits : ExecutionRiskLimits Number) (market : SupportedMarket)
    (portfolio : PortfolioExposureSnapshot Number) (cost : Number) : Prop where
  minimum : Number.le limits.minimumOrderValueKrw cost = true
  asset : Number.le (Number.add (ofMarket portfolio.assetExposureKrw market) cost)
    (Number.mul portfolio.totalEquityKrw (ofMarket limits.maxAllocationByAsset market)) = true
  total : Number.le (Number.add portfolio.totalExposureKrw cost)
    (Number.mul portfolio.totalEquityKrw limits.totalExposureCap) = true

/-- The limits are numbers. -/
structure NumericLimits (limits : ExecutionRiskLimits Number) (market : SupportedMarket) : Prop where
  minimum : limits.minimumOrderValueKrw.isSome = true
  asset : (ofMarket limits.maxAllocationByAsset market).isSome = true
  total : limits.totalExposureCap.isSome = true

/-- The equity and the exposures are numbers. -/
structure NumericPortfolio (portfolio : PortfolioExposureSnapshot Number) (market : SupportedMarket) :
    Prop where
  equity : portfolio.totalEquityKrw.isSome = true
  asset : (ofMarket portfolio.assetExposureKrw market).isSome = true
  total : portfolio.totalExposureKrw.isSome = true

/-- The notional that is judged is a positive number, covers the cost, and is not parted from it by
the minimum. -/
def Judged (limits : ExecutionRiskLimits Number) (notional : Option Number) (cost : Number) : Prop :=
  ∃ n c, notional = some (some n) ∧ cost = some c ∧ 0 < n ∧ c ≤ n ∧
    ¬ (Number.lt (some c) limits.minimumOrderValueKrw = true ∧
      Number.le limits.minimumOrderValueKrw (some n) = true)

/-! ### What silent guards say -/

theorem rules_of_accepted {lib : Library Number} {context : RiskEvaluationContext Number}
    (h : (evaluateRiskGuards lib context).accepted = true) :
    minimumRules context.policy.limits context.requestedNotionalKrw = [] ∧
      exposureRules context.policy.limits context.market context.requestedSide context.portfolio
        context.requestedNotionalKrw = [] := by
  have hnil := List.isEmpty_iff.mp h
  simp only [List.append_eq_nil_iff] at hnil
  exact ⟨hnil.1.1.2, hnil.2⟩

section Silent

variable {limits : ExecutionRiskLimits Number} {market : SupportedMarket}
  {portfolio : PortfolioExposureSnapshot Number} {notional : Option Number} {cost : Number}

variable {n : ℚ}

theorem minimumRules_eq_nil : minimumRules limits (some (some n)) = [] ↔
    Number.lt (some n) limits.minimumOrderValueKrw = false := by
  unfold minimumRules
  dsimp only
  split <;> simp_all

theorem exposureRules_eq_nil (hn : 0 < n) :
    exposureRules limits market .bid portfolio (some (some n)) = [] ↔
      Number.lt (Number.mul portfolio.totalEquityKrw (ofMarket limits.maxAllocationByAsset market))
          (Number.maxZero (Number.add (ofMarket portfolio.assetExposureKrw market) (some n))) =
        false ∧
      Number.lt (Number.mul portfolio.totalEquityKrw limits.totalExposureCap)
          (Number.maxZero (Number.add portfolio.totalExposureKrw (some n))) = false := by
  have hpositive : Number.lt (some 0) (some n) = true := by simpa [Number.lt] using hn
  have hside : (if OrderSide.bid = OrderSide.ask then Number.neg (some n) else some n) = some n :=
    rfl
  unfold exposureRules
  dsimp only
  rw [hside, if_pos hpositive, List.append_eq_nil_iff]
  simp

theorem exposureRules_of_nonpos (hn : n ≤ 0) :
    exposureRules limits market .bid portfolio (some (some n)) = [] := by
  have hpositive : Number.lt (some 0) (some n) = false := by simpa [Number.lt] using hn
  have hside : (if OrderSide.bid = OrderSide.ask then Number.neg (some n) else some n) = some n :=
    rfl
  unfold exposureRules
  dsimp only
  rw [hside, hpositive]
  rfl

theorem le_of_silent {equity allocation exposure n c : ℚ} (hcovered : c ≤ n)
    (h : Number.lt (Number.mul (some equity) (some allocation))
      (Number.maxZero (Number.add (some exposure) (some n))) = false) :
    Number.le (Number.add (some exposure) (some c)) (Number.mul (some equity) (some allocation)) =
      true := by
  have hcap : max 0 (exposure + n) ≤ equity * allocation := by
    simpa [Number.lt, Number.mul, Number.add, Number.maxZero] using h
  have hnotional : exposure + n ≤ equity * allocation := (le_max_right _ _).trans hcap
  have hcost : exposure + c ≤ equity * allocation := by linarith
  simpa [Number.le, Number.mul, Number.add] using hcost

/-- **Silent guards bound the cost of a bid whose notional they judge.** -/
theorem withinCaps_of_silent (hlimits : NumericLimits limits market)
    (hportfolio : NumericPortfolio portfolio market) (hjudged : Judged limits notional cost)
    (hminimum : minimumRules limits notional = [])
    (hexposure : exposureRules limits market .bid portfolio notional = []) :
    WithinCaps limits market portfolio cost := by
  obtain ⟨n, c, rfl, rfl, hn, hcovered, hparted⟩ := hjudged
  obtain ⟨minimum, hmin⟩ := Option.isSome_iff_exists.mp hlimits.minimum
  obtain ⟨allocation, hallocation⟩ := Option.isSome_iff_exists.mp hlimits.asset
  obtain ⟨cap, hcap⟩ := Option.isSome_iff_exists.mp hlimits.total
  obtain ⟨equity, hequity⟩ := Option.isSome_iff_exists.mp hportfolio.equity
  obtain ⟨asset, hasset⟩ := Option.isSome_iff_exists.mp hportfolio.asset
  obtain ⟨total, htotal⟩ := Option.isSome_iff_exists.mp hportfolio.total
  rw [exposureRules_eq_nil hn, hequity, hallocation, hasset, hcap, htotal] at hexposure
  rw [minimumRules_eq_nil, hmin] at hminimum
  have hnotional : minimum ≤ n := by simpa [Number.lt] using hminimum
  refine ⟨?_, ?_, ?_⟩
  · rw [hmin] at hparted ⊢
    have hle : minimum ≤ c := by
      by_contra hlt
      exact hparted ⟨by simpa [Number.lt] using hlt, by simpa [Number.le] using hnotional⟩
    simpa [Number.le] using hle
  · rw [hequity, hallocation, hasset]
    exact le_of_silent hcovered hexposure.1
  · rw [hequity, hcap, htotal]
    exact le_of_silent hcovered hexposure.2

/-! ### The condition is exact -/

/-- A portfolio without equity, with the same exposure everywhere. -/
def emptyPortfolio (exposure : ℚ) : PortfolioExposureSnapshot Number :=
  ⟨some 0, some exposure, ⟨some exposure, some exposure⟩⟩

theorem ofMarket_emptyPortfolio (exposure : ℚ) :
    ofMarket (emptyPortfolio exposure).assetExposureKrw market = some exposure := by
  cases market <;> rfl

theorem numeric_emptyPortfolio (exposure : ℚ) : NumericPortfolio (emptyPortfolio exposure) market :=
  ⟨rfl, by rw [ofMarket_emptyPortfolio]; rfl, rfl⟩

theorem le_of_withinCaps_empty (hlimits : NumericLimits limits market) {exposure : ℚ}
    (h : WithinCaps limits market (emptyPortfolio exposure) cost) :
    ∃ c, cost = some c ∧ c ≤ -exposure ∧ Number.lt (some c) limits.minimumOrderValueKrw = false := by
  obtain ⟨minimum, hmin⟩ := Option.isSome_iff_exists.mp hlimits.minimum
  obtain ⟨allocation, hallocation⟩ := Option.isSome_iff_exists.mp hlimits.asset
  have hminimum := h.minimum
  have hasset := h.asset
  rw [ofMarket_emptyPortfolio, hallocation] at hasset
  rw [hmin] at hminimum ⊢
  cases cost with
  | none => simp [Number.le] at hminimum
  | some c =>
    refine ⟨c, rfl, ?_, ?_⟩
    · have hle : exposure + c ≤ 0 * allocation := by
        simpa [Number.le, Number.add, Number.mul, emptyPortfolio] using hasset
      linarith
    · simpa [Number.le, Number.lt] using hminimum

/-- **On every portfolio silent guards bound the cost, exactly when they judge the cost or refuse the
notional for its size.** -/
theorem silent_iff (hlimits : NumericLimits limits market) :
    (∀ portfolio, NumericPortfolio portfolio market → minimumRules limits notional = [] →
      exposureRules limits market .bid portfolio notional = [] →
        WithinCaps limits market portfolio cost) ↔
      Judged limits notional cost ∨ minimumRules limits notional ≠ [] := by
  constructor
  · intro h
    by_cases hminimum : minimumRules limits notional = []
    · left
      -- Where the caps are not asked for, a portfolio that is over them refutes the bound.
      have hasked : ¬ ∀ portfolio, exposureRules limits market .bid portfolio notional = [] := by
        intro hsilent
        obtain ⟨c, hc, -, -⟩ := le_of_withinCaps_empty hlimits
          (h (emptyPortfolio 0) (numeric_emptyPortfolio 0) hminimum (hsilent _))
        obtain ⟨c', hc', hle, -⟩ := le_of_withinCaps_empty hlimits
          (h (emptyPortfolio (1 - c)) (numeric_emptyPortfolio _) hminimum (hsilent _))
        rw [hc] at hc'
        obtain rfl := Option.some.inj hc'
        linarith
      rcases notional with _ | _ | n
      · exact absurd (fun _ => rfl) hasked
      · refine absurd (fun portfolio => ?_) hasked
        simp [exposureRules, Number.lt]
      · have hn : 0 < n := by
          by_contra hn
          exact hasked fun portfolio => exposureRules_of_nonpos (not_lt.mp hn)
        -- The portfolio that the notional exhausts.
        have hsilent : exposureRules limits market .bid (emptyPortfolio (-n)) (some (some n)) = [] := by
          obtain ⟨allocation, hallocation⟩ := Option.isSome_iff_exists.mp hlimits.asset
          obtain ⟨cap, hcap⟩ := Option.isSome_iff_exists.mp hlimits.total
          rw [exposureRules_eq_nil hn, ofMarket_emptyPortfolio, hallocation, hcap]
          simp [Number.lt, Number.mul, Number.add, Number.maxZero, emptyPortfolio]
        obtain ⟨c, hc, hle, hmin⟩ := le_of_withinCaps_empty hlimits
          (h (emptyPortfolio (-n)) (numeric_emptyPortfolio _) hminimum hsilent)
        refine ⟨n, c, rfl, hc, hn, by linarith, fun hparted => ?_⟩
        rw [hmin] at hparted
        cases hparted.1
    · exact Or.inr hminimum
  · rintro (hjudged | hrefused) portfolio hportfolio hminimum hexposure
    · exact withinCaps_of_silent hlimits hportfolio hjudged hminimum hexposure
    · exact absurd hminimum hrefused

end Silent

def plainLimits : ExecutionRiskLimits Number := ⟨⟨some 1, some 1⟩, some 1, some 60000, some 5000⟩

/-- A notional of the minimum, at its own cost. -/
theorem silent_iff_minimum :
    Judged plainLimits (some (some 5000)) (some 5000) ∧
      ∀ portfolio, NumericPortfolio portfolio .krwBtc →
        minimumRules plainLimits (some (some 5000)) = [] →
        exposureRules plainLimits .krwBtc .bid portfolio (some (some 5000)) = [] →
          WithinCaps plainLimits .krwBtc portfolio (some 5000) := by
  have hjudged : Judged plainLimits (some (some 5000)) (some 5000) :=
    ⟨5000, 5000, rfl, rfl, by norm_num, le_rfl, by decide +kernel⟩
  exact ⟨hjudged, (silent_iff ⟨rfl, rfl, rfl⟩).mpr (Or.inl hjudged)⟩

end AutoTrade.Execution.RiskGuards
