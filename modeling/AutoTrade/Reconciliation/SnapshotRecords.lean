import AutoTrade.Execution.OrderDecimals
import AutoTrade.Lib.JsonText
import AutoTrade.Reconciliation.PortfolioDrift

/-! # The rows of balance and position snapshots

`snapshot-service.ts` with the texts it writes: the balances of the exchange as they are, and the
position of each of them with its quantity as `String` of a sum of two numbers.

Numbers are decimals with `NaN`. `Number` reads a decimal text as what it denotes (`value_decimalOf`);
of another text it is a field of the `Library`. A number is written by its value alone
(`decimalText_eq_format`): plainly as long as it needs no exponent. -/

namespace AutoTrade.Reconciliation.SnapshotRecords

open Lib.Decimal Lib.Json Lib.JsonText Lib.NumberText
open Domain.Types Strategy.Core
open Execution.EvidenceDecimals Execution.OrderDecimals
open Reconciliation.PortfolioDrift (assetOf)

/-! ### Numbers and their texts -/

/-- `none` is `NaN`. -/
abbrev Number : Type := Option ExactDecimal

/-- `n * 10 ^ exponent` without the zeros at the end of `n`, of which there are at most `fuel`. -/
def dropTens : (fuel n : ℕ) → ℤ → ℕ × ℤ
  | 0, n, exponent => (n, exponent)
  | fuel + 1, n, exponent =>
    if n % 10 = 0 then dropTens fuel (n / 10) (exponent + 1) else (n, exponent)

theorem dropTens_trimmed (fuel : ℕ) {n : ℕ} (exponent : ℤ) (hpos : 0 < n) (hfuel : n ≤ fuel) :
    (dropTens fuel n exponent).1 % 10 ≠ 0 := by
  induction fuel generalizing n exponent with
  | zero => omega
  | succ fuel ih =>
    unfold dropTens
    split_ifs with h
    · exact ih _ (by omega) (by omega)
    · exact h

theorem dropTens_value (fuel n : ℕ) (exponent : ℤ) :
    ((dropTens fuel n exponent).1 : ℚ) * 10 ^ (dropTens fuel n exponent).2 = n * 10 ^ exponent := by
  induction fuel generalizing n exponent with
  | zero => rfl
  | succ fuel ih =>
    unfold dropTens
    split_ifs with h
    · have hn : n / 10 * 10 = n := by omega
      have hcast : ((n / 10 : ℕ) : ℚ) * 10 = n := by exact_mod_cast hn
      rw [ih, zpow_add_one₀ (by norm_num), mul_comm ((10 : ℚ) ^ exponent), ← mul_assoc, hcast]
    · rfl

/-- `n / 10 ^ scale` as a number. -/
def positiveNumber (n scale : ℕ) (h : 0 < n) : PositiveNumber where
  significand := (dropTens n n (-scale)).1
  exponent := (dropTens n n (-scale)).2
  trimmed := dropTens_trimmed n _ h le_rfl

theorem value_positiveNumber {n scale : ℕ} (h : 0 < n) :
    (positiveNumber n scale h).value = n / 10 ^ scale := by
  unfold positiveNumber PositiveNumber.value
  rw [dropTens_value, zpow_neg, zpow_natCast, div_eq_mul_inv]

/-- `String(x)` of a number with its sign. -/
def decimalText (d : ExactDecimal) : String :=
  if h : 0 < d.coefficient.natAbs then
    (if d.coefficient < 0 then "-" else "") ++ jsText (positiveNumber d.coefficient.natAbs d.scale h)
  else "0"

/-- `String(x)`. -/
def numberText : Number → String
  | some d => decimalText d
  | none => "NaN"

structure Library where
  /-- `Number(text)` of a text that is no plain decimal. -/
  number : String → Number

/-- The decimal that a text denotes. -/
def decimalOf (text : String) : ExactDecimal where
  coefficient := Nat.ofDigitChars 10 (wholePart text.toList ++ (fractionPart text.toList).getD []) 0
  scale := ((fractionPart text.toList).getD []).length

/-- `Number(text)`. -/
def number (lib : Library) (text : String) : Number :=
  if isDecimalText text.toList then some (decimalOf text) else lib.number text

def addNumbers : Number → Number → Number
  | some left, some right => some (addExactDecimals left right)
  | _, _ => none

def multiplyNumbers : Number → Number → Number
  | some left, some right => some (multiplyExactDecimals left right)
  | _, _ => none

/-- `x > 0`. -/
def isPositive : Number → Bool
  | some d => 0 < d.coefficient
  | none => false

/-! ### Records -/

structure ExchangeBalance where
  currency : String
  balance : String
  locked : String
  avgBuyPrice : String
  unitCurrency : String
  deriving DecidableEq

inductive SnapshotSource
  | exchangePoll | reconciliation
  deriving DecidableEq

structure BalanceSnapshotRecord where
  id : String
  exchangeAccountId : String
  capturedAt : String
  source : SnapshotSource
  totalKrwValue : Option String
  balancesJson : String

structure PositionSnapshot where
  asset : SupportedAsset
  market : SupportedMarket
  quantity : String
  averageEntryPrice : Option String
  markPrice : Option String
  marketValue : Option String
  exposureRatio : Option String
  capturedAt : String

structure PositionSnapshotRecord where
  id : String
  exchangeAccountId : String
  capturedAt : String
  source : SnapshotSource
  positionsJson : String

/-- The input of both builders. -/
structure SnapshotInput where
  exchangeAccountId : String
  balances : List ExchangeBalance
  priceByAsset : SupportedAsset → Option Number
  source : SnapshotSource
  capturedAt : Option String

/-! ### The builders -/

section Builders

variable (lib : Library) {Num : Type} (N : NumberSyntax Num)

def balanceQuantity (balance : ExchangeBalance) : Number :=
  addNumbers (number lib balance.balance) (number lib balance.locked)

def calculateTotalKrwValue (balances : List ExchangeBalance)
    (priceByAsset : SupportedAsset → Option Number) : Number :=
  balances.foldl (fun sum balance =>
    if balance.currency = "KRW" then
      addNumbers (addNumbers sum (number lib balance.balance)) (number lib balance.locked)
    else
      match assetOf balance.currency with
      | some asset => addNumbers sum (multiplyNumbers (balanceQuantity lib balance)
          ((priceByAsset asset).getD (some ⟨0, 0⟩)))
      | none => sum) (some ⟨0, 0⟩)

def balanceValue (balance : ExchangeBalance) : JsonValue Num :=
  .object
    [("currency", .text balance.currency), ("balance", .text balance.balance),
      ("locked", .text balance.locked), ("avgBuyPrice", .text balance.avgBuyPrice),
      ("unitCurrency", .text balance.unitCurrency)]

/-- `createId` and the clock give `id` and `now`. -/
def buildBalanceSnapshotRecord (id now : String) (input : SnapshotInput) : BalanceSnapshotRecord where
  id
  exchangeAccountId := input.exchangeAccountId
  capturedAt := input.capturedAt.getD now
  source := input.source
  totalKrwValue := some (numberText (calculateTotalKrwValue lib input.balances input.priceByAsset))
  balancesJson := stringify N (.array (input.balances.map balanceValue))

def positionOf (priceByAsset : SupportedAsset → Option Number) (capturedAt : String)
    (balance : ExchangeBalance) (asset : SupportedAsset) : PositionSnapshot where
  asset
  market := if asset = .btc then .krwBtc else .krwEth
  quantity := numberText (balanceQuantity lib balance)
  averageEntryPrice :=
    if isPositive (number lib balance.avgBuyPrice) then some balance.avgBuyPrice else none
  markPrice := (priceByAsset asset).map numberText
  marketValue := (priceByAsset asset).map fun markPrice =>
    numberText (multiplyNumbers (balanceQuantity lib balance) markPrice)
  exposureRatio := none
  capturedAt

def nullableText (value : Option String) : JsonValue Num :=
  match value with
  | none => .null
  | some text => .text text

def positionValue (position : PositionSnapshot) : JsonValue Num :=
  .object
    [("asset", .text (assetText position.asset)), ("market", .text position.market.text),
      ("quantity", .text position.quantity),
      ("averageEntryPrice", nullableText position.averageEntryPrice),
      ("markPrice", nullableText position.markPrice),
      ("marketValue", nullableText position.marketValue),
      ("exposureRatio", nullableText position.exposureRatio),
      ("capturedAt", .text position.capturedAt)]

def positionsOf (priceByAsset : SupportedAsset → Option Number) (capturedAt : String)
    (balances : List ExchangeBalance) : List PositionSnapshot :=
  balances.filterMap fun balance =>
    (assetOf balance.currency).map (positionOf lib priceByAsset capturedAt balance)

def buildPositionSnapshotRecord (id now : String) (input : SnapshotInput) :
    PositionSnapshotRecord where
  id
  exchangeAccountId := input.exchangeAccountId
  capturedAt := input.capturedAt.getD now
  source := input.source
  positionsJson := stringify N (.array
    ((positionsOf lib input.priceByAsset (input.capturedAt.getD now) input.balances).map
      positionValue))

end Builders

/-! ### What the texts denote -/

theorem value_decimalOf (text : String) : (decimalOf text).value = decimalValue text.toList := by
  unfold decimalOf decimalValue ExactDecimal.value
  push_cast
  rfl

theorem isDecimalText_of_plain {chars : List Char} (h : isPlainDecimal chars = true) :
    isDecimalText chars = true := by
  simp only [isPlainDecimal, decide_eq_true_eq] at h
  simp only [isDecimalText, isDigits, decide_eq_true_eq]
  refine ⟨⟨?_, all_of_isNumeral h.1⟩, h.2⟩
  intro hnil
  have hwhole := h.1
  rw [hnil] at hwhole
  exact absurd hwhole (by decide)

theorem balanceQuantity_eq (lib : Library) {balance : ExchangeBalance}
    (hfree : isDecimalText balance.balance.toList = true)
    (hlocked : isDecimalText balance.locked.toList = true) :
    balanceQuantity lib balance =
      some (addExactDecimals (decimalOf balance.balance) (decimalOf balance.locked)) := by
  unfold balanceQuantity number
  rw [if_pos hfree, if_pos hlocked]
  rfl

/-- A balance as the drift is computed from it. -/
def driftBalance (balance : ExchangeBalance) : PortfolioDrift.ExchangeBalance :=
  ⟨balance.currency, decimalValue balance.balance.toList, decimalValue balance.locked.toList⟩

/-- **The drift compares what the rows denote**: of balances in plain decimals, each position that is
written has the quantity of the one that is compared. -/
theorem positions_denote (lib : Library) (priceByAsset : SupportedAsset → Option Number)
    (id account capturedAt : String) {balances : List ExchangeBalance}
    (hplain : ∀ balance ∈ balances, isDecimalText balance.balance.toList = true ∧
      isDecimalText balance.locked.toList = true) :
    List.Forall₂ (fun written compared => written.asset = compared.asset ∧
        ∃ d : ExactDecimal, written.quantity = decimalText d ∧ d.value = compared.quantity)
      (positionsOf lib priceByAsset capturedAt balances)
      (PortfolioDrift.buildPositionSnapshotRecord id account (balances.map driftBalance)
        capturedAt).positions := by
  unfold positionsOf PortfolioDrift.buildPositionSnapshotRecord
  rw [List.filterMap_map]
  induction balances with
  | nil => exact .nil
  | cons balance rest ih =>
    obtain ⟨⟨hfree, hlocked⟩, hrest⟩ := List.forall_mem_cons.mp hplain
    have hcurrency : (driftBalance balance).currency = balance.currency := rfl
    rw [List.filterMap_cons, List.filterMap_cons, Function.comp_apply, hcurrency]
    cases assetOf balance.currency with
    | none => exact ih hrest
    | some asset =>
      refine .cons ⟨rfl, addExactDecimals (decimalOf balance.balance) (decimalOf balance.locked),
        ?_, ?_⟩ (ih hrest)
      · exact congrArg numberText (balanceQuantity_eq lib hfree hlocked)
      · rw [value_add, value_decimalOf, value_decimalOf]
        rfl

/-- A number that is not negative is written as its canonical decimal when that has no exponent. -/
theorem decimalText_eq_format {d : ExactDecimal} (h : 0 ≤ d.coefficient)
    (hplain : d.value = 0 ∨ 10 ^ (-6 : ℤ) ≤ d.value ∧ d.value < 10 ^ 21) :
    decimalText d = formatExactDecimal d := by
  obtain ⟨n, scale⟩ := d
  obtain ⟨n, rfl⟩ := Int.eq_ofNat_of_zero_le h
  unfold decimalText
  change (if h : 0 < n then _ else _) = _
  split_ifs with hpos hneg
  · exact absurd hneg (by simp)
  · have hvalue : (positiveNumber n scale hpos).value = (⟨n, scale⟩ : ExactDecimal).value := by
      rw [value_positiveNumber, natCast_value]
    have hne : (⟨n, scale⟩ : ExactDecimal).value ≠ 0 := by
      rw [← hvalue]
      exact (positiveNumber n scale hpos).value_pos.ne'
    have hrange := hplain.resolve_left hne
    have hx : (positiveNumber n scale hpos).Plain := by
      unfold PositiveNumber.Plain
      rw [hvalue]
      exact hrange
    change "" ++ jsText (positiveNumber n scale hpos) = _
    rw [String.empty_append, jsText_of_plain hx, format_eq_iff, value_plain, hvalue]
  · have hzero : n = 0 := by omega
    subst hzero
    symm
    rw [Int.ofNat_zero] at *
    exact (format_eq_zero_iff _).mpr (by simp [ExactDecimal.value])

theorem e_mem_decimalText {d : ExactDecimal} (h : 0 ≤ d.coefficient)
    (hexponent : ¬ (d.value = 0 ∨ 10 ^ (-6 : ℤ) ≤ d.value ∧ d.value < 10 ^ 21)) :
    'e' ∈ (decimalText d).toList := by
  obtain ⟨n, scale⟩ := d
  obtain ⟨n, rfl⟩ := Int.eq_ofNat_of_zero_le h
  have hpos : 0 < n := by
    rcases Nat.eq_zero_or_pos n with rfl | hpos
    · exact absurd (Or.inl (by simp [ExactDecimal.value])) hexponent
    · exact hpos
  have hvalue : (positiveNumber n scale hpos).value = (⟨n, scale⟩ : ExactDecimal).value := by
    rw [value_positiveNumber, natCast_value]
  have hx : ¬ (positiveNumber n scale hpos).Plain := by
    unfold PositiveNumber.Plain
    rw [hvalue]
    exact fun hplain => hexponent (Or.inr hplain)
  have htext : decimalText ⟨(n : ℤ), scale⟩ = jsText (positiveNumber n scale hpos) := by
    unfold decimalText
    rw [dif_pos (show 0 < ((n : ℤ)).natAbs from hpos), if_neg (by simp)]
    exact String.empty_append
  rw [htext, jsText, String.toList_ofList]
  exact PositiveNumber.e_mem_numberText hx

end AutoTrade.Reconciliation.SnapshotRecords
