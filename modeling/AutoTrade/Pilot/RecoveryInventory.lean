import AutoTrade.Reconciliation.SnapshotRecords
import AutoTrade.Execution.LedgerAgreement

/-! # The inventory of the recovery

`readInventory` and `verifyExchangeInventoryAgreement` of `position-guard-pilot-recovery.ts`: the
quantity of BTC is read back, as exact decimals, from the two snapshots that
`buildBalanceSnapshotRecord` and `buildPositionSnapshotRecord` wrote.

`readable_iff`: snapshots of an account are read exactly when it has a row for BTC whose quantity is
zero or is written without an exponent. -/

namespace AutoTrade.Pilot.RecoveryInventory

open Lib.Decimal Lib.Json Lib.JsonText Lib.NumberText
open Lib.Result Lib.Table Strategy.Core
open Strategy.CandidateState Execution.EvidenceDecimals
open Execution.LedgerAgreement (value_exactQuantityTolerance)
open Execution.OrderDecimals Reconciliation.SnapshotRecords
open Reconciliation.PortfolioDrift (assetOf)

/-! ### The reader -/

/-- A `RecoveryFault`. -/
structure RecoveryFault where
  reasonCode : String
  message : String

section Reader

variable {Num : Type} (N : NumberSyntax Num)

/-- A property of a plain record; nothing of any other value. -/
def property (item : JsonValue Num) (name : String) : Option (JsonValue Num) :=
  match item with
  | .object fields => (select Prod.fst name fields).map Prod.snd
  | _ => none

def parseExchangeDecimal (value : Option (JsonValue Num)) (label : String) :
    Except String ExactDecimal :=
  match value with
  | some (.text value) =>
    if isPlainDecimal value.toList then
      parseCanonicalNonNegativeDecimal (.text (String.ofList (joinPoint (wholePart value.toList)
        (stripZeros ((fractionPart value.toList).getD []))))) label
    else .error (label ++ " must be a finite non-negative decimal string.")
  | _ => .error (label ++ " must be a finite non-negative decimal string.")

/-- `JSON.parse`; `syntaxMessage` is the message of its error. -/
def parseJson (syntaxMessage : String → String) (text : String) :
    Except String (JsonValue Num) :=
  match parse N text with
  | some value => .ok value
  | none => .error (syntaxMessage text)

def isBtcBalance (item : JsonValue Num) : Bool := isText (property item "currency") "BTC"

def isBtcPosition (item : JsonValue Num) : Bool :=
  isText (property item "asset") "BTC" ∧ isText (property item "market") "KRW-BTC"

/-- The body of `readInventory`: the quantity of the balance, then the one of the position. -/
def readQuantities (syntaxMessage : String → String) (balanceSnapshot : Option BalanceSnapshotRecord)
    (positionSnapshot : Option PositionSnapshotRecord) :
    Except String (ExactDecimal × ExactDecimal) :=
  match balanceSnapshot, positionSnapshot with
  | some balanceSnapshot, some positionSnapshot => do
    let balances ← parseJson N syntaxMessage balanceSnapshot.balancesJson
    let positions ← parseJson N syntaxMessage positionSnapshot.positionsJson
    match balances, positions with
    | .array balances, .array positions =>
      match balances.filter isBtcBalance, positions.filter isBtcPosition with
      | [balance], [position] => do
        throwIf (isText (property position "capturedAt") positionSnapshot.capturedAt = false)
          "Persisted BTC position timestamp contradicts its snapshot."
        let free ← parseExchangeDecimal (property balance "balance") "BTC free balance"
        let locked ← parseExchangeDecimal (property balance "locked") "BTC locked balance"
        let positionQuantity ←
          parseExchangeDecimal (property position "quantity") "BTC position quantity"
        .ok (addExactDecimals free locked, positionQuantity)
      | _, _ => .error "Persisted snapshots require exactly one BTC balance and position."
    | _, _ => .error "Persisted inventory snapshot JSON must contain arrays."
  | _, _ => .error "Persisted inventory snapshots are missing."

def readInventory (syntaxMessage : String → String) (balanceSnapshot : Option BalanceSnapshotRecord)
    (positionSnapshot : Option PositionSnapshotRecord) :
    Except RecoveryFault (ExactDecimal × ExactDecimal) :=
  (readQuantities N syntaxMessage balanceSnapshot positionSnapshot).mapError
    (⟨"INVENTORY_MISMATCH", ·⟩)

end Reader

def withinTolerance (left right : ExactDecimal) : Bool :=
  compareExactDecimals left (addExactDecimals right exactQuantityTolerance) ≤ 0 ∧
    compareExactDecimals right (addExactDecimals left exactQuantityTolerance) ≤ 0

def verifyExchangeInventoryAgreement (balance position : ExactDecimal) :
    Except RecoveryFault Unit :=
  if withinTolerance balance position then .ok ()
  else .error ⟨"INVENTORY_MISMATCH", "BTC balance and position quantities disagree."⟩

/-! ### Decimals of the exchange -/

section Decimals

variable (Num : Type)

/-- A plain decimal is read as the number it denotes. -/
theorem parseExchangeDecimal_text {text : String} (h : isPlainDecimal text.toList = true)
    (label : String) : ∃ d, parseExchangeDecimal (some (.text text : JsonValue Num)) label = .ok d ∧
      d.value = decimalValue text.toList := by
  have hparts := h
  simp only [isPlainDecimal, decide_eq_true_eq] at hparts
  have hwhole : (wholePart text.toList).all Char.isDigit = true := all_of_isNumeral hparts.1
  have hfraction : ((fractionPart text.toList).getD []).all Char.isDigit = true := by
    rcases hf : fractionPart text.toList with _ | fraction
    · rfl
    · have hdigits := hparts.2
      rw [hf] at hdigits
      simp only [Option.all_some, isDigits, decide_eq_true_eq] at hdigits
      exact hdigits.2
  set canonical := joinPoint (wholePart text.toList)
    (stripZeros ((fractionPart text.toList).getD [])) with hcanonical
  have hform : isCanonicalNonNegative (String.ofList canonical).toList = true := by
    rw [String.toList_ofList]
    simp only [isCanonicalNonNegative, decide_eq_true_eq]
    rw [hcanonical, wholePart_joinPoint hwhole]
    exact ⟨hparts.1, trimmed_joinPoint_stripZeros hwhole hfraction⟩
  refine ⟨parseCanonicalDecimal (String.ofList canonical), ?_, ?_⟩
  · unfold parseExchangeDecimal
    dsimp only
    rw [if_pos h]
    exact parseNonNegative_eq_ok.mpr ⟨_, rfl, hform, rfl⟩
  · rw [value_parse, routingNumber_of_canonical hform, String.toList_ofList, hcanonical,
      decimalValue_joinPoint_stripZeros hwhole]
    rfl

theorem parseExchangeDecimal_exponent {text : String} (h : 'e' ∈ text.toList) (label : String) :
    parseExchangeDecimal (some (.text text : JsonValue Num)) label =
      .error (label ++ " must be a finite non-negative decimal string.") := by
  unfold parseExchangeDecimal
  exact if_neg fun hplain => not_isDecimalText_of_e h (isDecimalText_of_plain hplain)

theorem withinTolerance_of_eq {left right : ExactDecimal} (h : left.value = right.value) :
    withinTolerance left right = true := by
  have htolerance : 0 ≤ exactQuantityTolerance.value := by
    rw [value_exactQuantityTolerance]
    norm_num [quantityTolerance]
  simp only [withinTolerance, decide_eq_true_eq, compare_nonpos_iff, value_add]
  constructor <;> linarith

end Decimals

/-! ### What the builders wrote -/

/-- A balances list of the exchange: no currency has two rows, and every amount is a plain decimal. -/
structure Reported (balances : List ExchangeBalance) : Prop where
  once : (balances.map (·.currency)).Nodup
  plain : ∀ b ∈ balances,
    isPlainDecimal b.balance.toList = true ∧ isPlainDecimal b.locked.toList = true

/-- Free and locked. -/
def amount (balance : ExchangeBalance) : ℚ :=
  decimalValue balance.balance.toList + decimalValue balance.locked.toList

/-- The BTC of an account; without a row it holds none. -/
def btcQuantity (balances : List ExchangeBalance) : ℚ :=
  ((select (·.currency) "BTC" balances).map amount).getD 0

section Written

variable (lib : Library) {Num : Type} (N : NumberSyntax Num)

theorem namedOnce_array {α : Type} {value : α → JsonValue Num} (h : ∀ a, NamedOnce (value a))
    (items : List α) : NamedOnce (.array (items.map value)) := by
  change NamedOnceItems (items.map value)
  induction items with
  | nil => trivial
  | cons item items ih => exact ⟨h item, ih⟩

theorem namedOnce_balanceValue (balance : ExchangeBalance) :
    NamedOnce (balanceValue balance : JsonValue Num) := by
  refine ⟨?_, trivial, trivial, trivial, trivial, trivial, trivial⟩
  change ["currency", "balance", "locked", "avgBuyPrice", "unitCurrency"].Nodup
  decide

theorem namedOnce_nullableText (value : Option String) :
    NamedOnce (nullableText value : JsonValue Num) := by
  cases value with
  | none => trivial
  | some text => trivial

theorem namedOnce_positionValue (position : PositionSnapshot) :
    NamedOnce (positionValue position : JsonValue Num) := by
  refine ⟨?_, trivial, trivial, trivial, namedOnce_nullableText _, namedOnce_nullableText _,
    namedOnce_nullableText _, namedOnce_nullableText _, trivial, trivial⟩
  change ["asset", "market", "quantity", "averageEntryPrice", "markPrice", "marketValue",
    "exposureRatio", "capturedAt"].Nodup
  decide

theorem parseJson_stringify {value : JsonValue Num} (h : NamedOnce value)
    (syntaxMessage : String → String) :
    parseJson N syntaxMessage (stringify N value) = .ok value := by
  unfold parseJson
  rw [parse_stringify N h]

theorem filter_balances (balances : List ExchangeBalance) :
    (balances.map balanceValue : List (JsonValue Num)).filter isBtcBalance =
      (balances.filter (·.currency = "BTC")).map balanceValue := by
  rw [List.filter_map]
  rfl

variable (priceByAsset : SupportedAsset → Option Number) (capturedAt : String)

theorem isBtcPosition_positionValue (balance : ExchangeBalance) (asset : SupportedAsset) :
    isBtcPosition (positionValue (positionOf lib priceByAsset capturedAt balance asset) :
      JsonValue Num) = (asset = .btc) := by
  cases asset <;>
    simp [isBtcPosition, property, positionValue, positionOf, assetText, select, isText,
      AutoTrade.Domain.Types.SupportedMarket.text]

theorem filter_positions (balances : List ExchangeBalance) :
    ((positionsOf lib priceByAsset capturedAt balances).map positionValue :
        List (JsonValue Num)).filter isBtcPosition =
      (balances.filter (·.currency = "BTC")).map fun balance =>
        positionValue (positionOf lib priceByAsset capturedAt balance .btc) := by
  induction balances with
  | nil => rfl
  | cons balance balances ih =>
    unfold positionsOf at ih ⊢
    by_cases hbtc : balance.currency = "BTC"
    · have hasset : assetOf balance.currency = some .btc := if_pos hbtc
      rw [List.filterMap_cons_some (by rw [hasset]; rfl), List.map_cons,
        List.filter_cons_of_pos (by rw [isBtcPosition_positionValue]), ih,
        List.filter_cons_of_pos (by simpa using hbtc), List.map_cons]
    · rw [List.filter_cons_of_neg (by simpa using hbtc)]
      by_cases heth : balance.currency = "ETH"
      · have hasset : assetOf balance.currency = some .eth := by
          unfold assetOf
          rw [if_neg hbtc, if_pos heth]
        rw [List.filterMap_cons_some (by rw [hasset]; rfl), List.map_cons,
          List.filter_cons_of_neg (by rw [isBtcPosition_positionValue]; decide), ih]
      · have hasset : assetOf balance.currency = none := by
          unfold assetOf
          rw [if_neg hbtc, if_neg heth]
        rw [List.filterMap_cons_none (by rw [hasset]; rfl), ih]

/-- The snapshots of a reported account are read back as far as its row for BTC can be. -/
theorem readQuantities_built (syntaxMessage : String → String) (balanceId positionId now now' : String)
    (balanceInput positionInput : SnapshotInput)
    (hbalances : positionInput.balances = balanceInput.balances) :
    readQuantities N syntaxMessage (some (buildBalanceSnapshotRecord lib N balanceId now balanceInput))
        (some (buildPositionSnapshotRecord lib N positionId now' positionInput)) =
      match balanceInput.balances.filter (·.currency = "BTC") with
      | [balance] => do
        let free ← parseExchangeDecimal (some (.text balance.balance : JsonValue Num))
          "BTC free balance"
        let locked ← parseExchangeDecimal (some (.text balance.locked : JsonValue Num))
          "BTC locked balance"
        let positionQuantity ← parseExchangeDecimal
          (some (.text (numberText (balanceQuantity lib balance)) : JsonValue Num))
          "BTC position quantity"
        .ok (addExactDecimals free locked, positionQuantity)
      | _ => .error "Persisted snapshots require exactly one BTC balance and position." := by
  have hbalance : ∀ balance, NamedOnce (balanceValue balance : JsonValue Num) :=
    namedOnce_balanceValue
  have hposition : ∀ position, NamedOnce (positionValue position : JsonValue Num) :=
    namedOnce_positionValue
  have hparsed := parseJson_stringify N (namedOnce_array hbalance balanceInput.balances) syntaxMessage
  have hparsed' := parseJson_stringify N (namedOnce_array hposition
    (positionsOf lib positionInput.priceByAsset (positionInput.capturedAt.getD now')
      balanceInput.balances)) syntaxMessage
  unfold readQuantities buildBalanceSnapshotRecord buildPositionSnapshotRecord
  dsimp only
  rw [hbalances, hparsed, ok_bind, hparsed', ok_bind]
  dsimp only
  rw [filter_balances, filter_positions]
  generalize balanceInput.balances.filter (fun balance => decide (balance.currency = "BTC")) = rows
  rcases rows with _ | ⟨balance, _ | ⟨other, rest⟩⟩
  · rfl
  · have htimestamp : isText (property (positionValue (positionOf lib positionInput.priceByAsset
        (positionInput.capturedAt.getD now') balance .btc) : JsonValue Num) "capturedAt")
          (positionInput.capturedAt.getD now') = true := by
      simp [property, positionValue, positionOf, select, isText]
    simp only [List.map_cons, List.map_nil]
    rw [htimestamp]
    rfl
  · rfl

end Written

/-! ### Readable accounts -/

/-- The two snapshots of an account are read back: the balance exactly, and a position that agrees
with it. -/
def Readable (lib : Library) {Num : Type} (N : NumberSyntax Num) (syntaxMessage : String → String)
    (balanceId positionId now now' : String) (balanceInput positionInput : SnapshotInput) : Prop :=
  ∃ balance position,
    readInventory N syntaxMessage (some (buildBalanceSnapshotRecord lib N balanceId now balanceInput))
        (some (buildPositionSnapshotRecord lib N positionId now' positionInput)) =
      .ok (balance, position) ∧
    balance.value = btcQuantity balanceInput.balances ∧
    verifyExchangeInventoryAgreement balance position = .ok ()

/-- The account has a row for BTC, and its quantity is written without an exponent. -/
def PlainRow (balances : List ExchangeBalance) : Prop :=
  ∃ balance ∈ balances, balance.currency = "BTC" ∧
    (amount balance = 0 ∨ 10 ^ (-6 : ℤ) ≤ amount balance ∧ amount balance < 10 ^ 21)

section Exact

variable (lib : Library) {Num : Type} (N : NumberSyntax Num) {balances : List ExchangeBalance}

theorem balanceQuantity_plain {balance : ExchangeBalance}
    (h : isPlainDecimal balance.balance.toList = true ∧ isPlainDecimal balance.locked.toList = true) :
    ∃ d, balanceQuantity lib balance = some d ∧ d.value = amount balance ∧ 0 ≤ d.coefficient := by
  have hvalue : (addExactDecimals (decimalOf balance.balance) (decimalOf balance.locked)).value =
      amount balance := by
    rw [value_add, value_decimalOf, value_decimalOf]
    rfl
  refine ⟨addExactDecimals (decimalOf balance.balance) (decimalOf balance.locked), ?_, hvalue, ?_⟩
  · exact balanceQuantity_eq lib (isDecimalText_of_plain h.1) (isDecimalText_of_plain h.2)
  · by_contra hneg
    have hamount : 0 ≤ amount balance := add_nonneg (decimalValue_nonneg _) (decimalValue_nonneg _)
    rw [← hvalue] at hamount
    refine absurd hamount (not_le.mpr (div_neg_of_neg_of_pos ?_ (by positivity)))
    exact_mod_cast not_le.mp hneg

variable {balanceInput positionInput : SnapshotInput} {balanceId positionId now now' : String}
  {syntaxMessage : String → String}

theorem not_readable_of_absent (hbalances : positionInput.balances = balanceInput.balances)
    (habsent : balanceInput.balances.filter (·.currency = "BTC") = []) :
    ¬ Readable lib N syntaxMessage balanceId positionId now now' balanceInput positionInput := by
  rintro ⟨balance, position, hread, -⟩
  unfold readInventory at hread
  rw [readQuantities_built lib N syntaxMessage balanceId positionId now now' balanceInput
    positionInput hbalances, habsent] at hread
  cases hread

/-- A row for BTC is read exactly when its quantity is written without an exponent. -/
theorem readable_row (hbalances : positionInput.balances = balanceInput.balances)
    {row : ExchangeBalance}
    (hplain : isPlainDecimal row.balance.toList = true ∧ isPlainDecimal row.locked.toList = true)
    (hrow : balanceInput.balances.filter (·.currency = "BTC") = [row])
    (hquantity : btcQuantity balanceInput.balances = amount row) :
    Readable lib N syntaxMessage balanceId positionId now now' balanceInput positionInput ↔
      (amount row = 0 ∨ 10 ^ (-6 : ℤ) ≤ amount row ∧ amount row < 10 ^ 21) := by
  obtain ⟨free, hfree, hfreeValue⟩ := parseExchangeDecimal_text Num hplain.1
    "BTC free balance"
  obtain ⟨locked, hlocked, hlockedValue⟩ := parseExchangeDecimal_text Num hplain.2
    "BTC locked balance"
  obtain ⟨d, hd, hvalue, hcoefficient⟩ := balanceQuantity_plain lib hplain
  have hread := readQuantities_built lib N syntaxMessage balanceId positionId now now' balanceInput
    positionInput hbalances
  rw [hrow] at hread
  simp only [hfree, hlocked, hd, ok_bind, numberText] at hread
  unfold Readable readInventory
  rw [hread]
  by_cases hexponent : amount row = 0 ∨ 10 ^ (-6 : ℤ) ≤ amount row ∧ amount row < 10 ^ 21
  · have htext := decimalText_eq_format hcoefficient (by rw [hvalue]; exact hexponent)
    have hnonneg : 0 ≤ d.value := div_nonneg (by exact_mod_cast hcoefficient) (by positivity)
    have hcanonical := isCanonicalNonNegative_format hnonneg
    obtain ⟨position, hposition, hpositionValue⟩ := parseExchangeDecimal_text Num
      (isPlainDecimal_of_canonical hcanonical) "BTC position quantity"
    have hbalance : (addExactDecimals free locked).value = amount row := by
      rw [value_add, hfreeValue, hlockedValue]
      rfl
    have hagree : position.value = amount row := by
      rw [hpositionValue, ← routingNumber_of_canonical hcanonical, routingNumber_format, hvalue]
    rw [htext, hposition]
    refine iff_of_true ⟨_, position, rfl, hbalance.trans hquantity.symm, ?_⟩ hexponent
    exact if_pos (withinTolerance_of_eq (hbalance.trans hagree.symm))
  · have hletter := e_mem_decimalText hcoefficient (by rw [hvalue]; exact hexponent)
    rw [parseExchangeDecimal_exponent Num hletter]
    refine iff_of_false ?_ hexponent
    rintro ⟨balance, position, herror, -⟩
    cases herror

end Exact

/-- **The inventory is readable exactly when BTC has a row and its quantity needs no exponent.** An
account without BTC, which the exchange reports without a row, is not, and dust is not. -/
theorem readable_iff (lib : Library) {Num : Type} (N : NumberSyntax Num)
    (syntaxMessage : String → String) (balanceId positionId now now' : String)
    (balanceInput positionInput : SnapshotInput)
    (hbalances : positionInput.balances = balanceInput.balances)
    (hreported : Reported balanceInput.balances) :
    Readable lib N syntaxMessage balanceId positionId now now' balanceInput positionInput ↔
      PlainRow balanceInput.balances := by
  have hfilter : ∀ row ∈ balanceInput.balances,
      balanceInput.balances.filter (fun b => b.currency = row.currency) = [row] :=
    fun row hrow => filter_key_eq_singleton hreported.once hrow
  by_cases hheld : ∃ row ∈ balanceInput.balances, row.currency = "BTC"
  · obtain ⟨row, hmem, hbtc⟩ := hheld
    have hrow : balanceInput.balances.filter (·.currency = "BTC") = [row] := by
      rw [← hfilter row hmem, hbtc]
    have hselect : select (·.currency) "BTC" balanceInput.balances = some row := by
      rw [← hbtc]
      exact select_of_mem hreported.once hmem
    have hquantity : btcQuantity balanceInput.balances = amount row := by
      unfold btcQuantity
      rw [hselect]
      rfl
    rw [readable_row lib N hbalances (hreported.plain row hmem) hrow hquantity]
    constructor
    · intro h
      exact ⟨row, hmem, hbtc, h⟩
    · rintro ⟨other, hother, hotherBtc, h⟩
      have hin : other ∈ balanceInput.balances.filter (·.currency = "BTC") :=
        List.mem_filter.mpr ⟨hother, by simpa using hotherBtc⟩
      rw [hrow, List.mem_singleton] at hin
      rw [← hin]
      exact h
  · refine iff_of_false (not_readable_of_absent lib N hbalances ?_) ?_
    · rw [List.filter_eq_nil_iff]
      intro row hrow hbtc
      exact hheld ⟨row, hrow, by simpa using hbtc⟩
    · rintro ⟨row, hrow, hbtc, -⟩
      exact hheld ⟨row, hrow, hbtc⟩

/-! ### Three accounts -/

def plainNumbers : Library := ⟨fun _ => none⟩

/-- A snapshot of an account with KRW and these balances. -/
def accountInput (held : List ExchangeBalance) : SnapshotInput where
  exchangeAccountId := "acct"
  balances := ⟨"KRW", "1000000", "0", "0", "KRW"⟩ :: held
  priceByAsset := fun _ => none
  source := .reconciliation
  capturedAt := some "2026-08-21T00:00:00.000Z"

def bitcoin (balance : String) : ExchangeBalance := ⟨"BTC", balance, "0", "0", "KRW"⟩

instance Reported.decidable (balances : List ExchangeBalance) : Decidable (Reported balances) :=
  decidable_of_iff ((balances.map (·.currency)).Nodup ∧ ∀ b ∈ balances,
      isPlainDecimal b.balance.toList = true ∧ isPlainDecimal b.locked.toList = true)
    ⟨fun h => ⟨h.1, h.2⟩, fun h => ⟨h.once, h.plain⟩⟩

/-- Without a row for BTC, and with 0.0000001 BTC, the inventory of a reported account is not
readable. -/
theorem flat_and_dust_unreadable :
    (Reported (accountInput []).balances ∧
      ¬ Readable plainNumbers integers id "balance" "position" "" "" (accountInput [])
        (accountInput [])) ∧
    (Reported (accountInput [bitcoin "0.0000001"]).balances ∧
      ¬ Readable plainNumbers integers id "balance" "position" "" ""
        (accountInput [bitcoin "0.0000001"]) (accountInput [bitcoin "0.0000001"])) := by
  refine ⟨⟨by decide +kernel, not_readable_of_absent plainNumbers integers rfl rfl⟩,
    by decide +kernel, ?_⟩
  have hrow : (accountInput [bitcoin "0.0000001"]).balances.filter (·.currency = "BTC") =
      [bitcoin "0.0000001"] := rfl
  rw [readable_row plainNumbers integers rfl (by decide +kernel) hrow rfl]
  have hamount : amount (bitcoin "0.0000001") = 1 / 10 ^ 7 := by decide +kernel
  rw [hamount]
  norm_num

theorem readable_of_one_bitcoin :
    Readable plainNumbers integers id "balance" "position" "" "" (accountInput [bitcoin "1.50"])
      (accountInput [bitcoin "1.50"]) := by
  refine (readable_iff plainNumbers integers id "balance" "position" "" ""
    (accountInput [bitcoin "1.50"]) (accountInput [bitcoin "1.50"]) rfl (by decide +kernel)).mpr
    ⟨bitcoin "1.50", by decide, rfl, Or.inr ?_⟩
  have hamount : amount (bitcoin "1.50") = 3 / 2 := by decide +kernel
  rw [hamount]
  norm_num

end AutoTrade.Pilot.RecoveryInventory
