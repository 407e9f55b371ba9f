import AutoTrade.Strategy.Core
import Mathlib.Data.Rat.Floor
import Mathlib.Algebra.Order.AbsoluteValue.Basic

/-! # Portfolio drift

`portfolio-drift.ts` and the snapshots of `snapshot-service.ts`: two snapshots are compared with the
fills of the window between them, once as it is and, if that leaves drift, once with a start one
second earlier.

Amounts are rationals, so the texts that the source writes and reads back are the numbers themselves,
and the texts of a finding are left out. `dateParse` is `Date.parse`: the instant of a text in
milliseconds, or none if it has no date. -/

namespace AutoTrade.Reconciliation.PortfolioDrift

open Domain.Types Strategy.Core

/-! ### Snapshots and fills -/

structure ExchangeBalance where
  currency : String
  balance : ℚ
  locked : ℚ
  deriving DecidableEq

structure BalanceSnapshot where
  id : String
  exchangeAccountId : String
  capturedAt : String
  balances : List ExchangeBalance
  deriving DecidableEq

structure PositionQuantity where
  asset : SupportedAsset
  quantity : ℚ
  deriving DecidableEq

structure PositionSnapshot where
  id : String
  exchangeAccountId : String
  capturedAt : String
  positions : List PositionQuantity
  deriving DecidableEq

/-- A fill with its amounts as numbers; `payloadMode` is the `mode` of its raw payload, if that is an
object with one. -/
structure Fill where
  id : String
  exchangeFillId : String
  market : SupportedMarket
  side : OrderSide
  price : ℚ
  volume : ℚ
  feeCurrency : Option String
  feeAmount : Option ℚ
  filledAt : String
  payloadMode : Option String
  deriving DecidableEq

def assetOf (currency : String) : Option SupportedAsset :=
  if currency = "BTC" then some .btc else if currency = "ETH" then some .eth else none

def buildBalanceSnapshotRecord (id exchangeAccountId : String) (balances : List ExchangeBalance)
    (capturedAt : String) : BalanceSnapshot :=
  { id, exchangeAccountId, capturedAt, balances }

def buildPositionSnapshotRecord (id exchangeAccountId : String) (balances : List ExchangeBalance)
    (capturedAt : String) : PositionSnapshot where
  id
  exchangeAccountId
  capturedAt
  positions := balances.filterMap fun b =>
    (assetOf b.currency).map fun asset => ⟨asset, b.balance + b.locked⟩

/-! ### Amounts -/

/-- `{ KRW, BTC, ETH }`. -/
structure Amounts where
  krw : ℚ
  btc : ℚ
  eth : ℚ

def Amounts.zero : Amounts := ⟨0, 0, 0⟩

/-- The quantity of an asset. -/
def Amounts.of (amounts : Amounts) : SupportedAsset → ℚ
  | .btc => amounts.btc
  | .eth => amounts.eth

def Amounts.addAsset (amounts : Amounts) (asset : SupportedAsset) (quantity : ℚ) : Amounts :=
  match asset with
  | .btc => { amounts with btc := amounts.btc + quantity }
  | .eth => { amounts with eth := amounts.eth + quantity }

def Amounts.addKrw (amounts : Amounts) (value : ℚ) : Amounts :=
  { amounts with krw := amounts.krw + value }

def parseManagedBalances (snapshot : BalanceSnapshot) : Amounts :=
  snapshot.balances.foldl (fun amounts b =>
    if b.currency = "KRW" then amounts.addKrw (b.balance + b.locked)
    else
      match assetOf b.currency with
      | some asset => amounts.addAsset asset (b.balance + b.locked)
      | none => amounts) .zero

def parseManagedPositionQuantities (snapshot : PositionSnapshot) : Amounts :=
  snapshot.positions.foldl (fun amounts p => amounts.addAsset p.asset p.quantity) .zero

def Fill.asset (fill : Fill) : SupportedAsset := if fill.market = .krwBtc then .btc else .eth

def Fill.feeKrw (fill : Fill) : ℚ :=
  if fill.feeCurrency = some "KRW" ∨ fill.feeCurrency = none then fill.feeAmount.getD 0 else 0

/-- The step of `aggregateFillDeltas`. -/
def Amounts.addFill (amounts : Amounts) (fill : Fill) : Amounts :=
  let notionalKrw := fill.price * fill.volume
  match fill.side with
  | .bid => (amounts.addAsset fill.asset fill.volume).addKrw (-(notionalKrw + fill.feeKrw))
  | .ask => (amounts.addAsset fill.asset (-fill.volume)).addKrw (notionalKrw - fill.feeKrw)

def aggregateFillDeltas (fills : List Fill) : Amounts := fills.foldl Amounts.addFill .zero

/-! ### Windows -/

/-- `FLOATING_POINT_EPSILON`. -/
def floatingPointEpsilon : ℚ := 1 / 10 ^ 9

/-- `KRW_DUST_TOLERANCE`. -/
def krwDustTolerance : ℚ := 1

/-- `FILL_SNAPSHOT_START_GRACE_MS`. -/
def fillSnapshotStartGraceMs : ℤ := 1000

def isEffectivelyZero (value tolerance : ℚ) : Bool := |value| ≤ tolerance + floatingPointEpsilon

def isExchangeBackedFill (fill : Fill) : Bool :=
  ¬ "dryrun_".toList <+: fill.exchangeFillId.toList ∧ fill.payloadMode ≠ some "DRY_RUN"

section Windows

variable (dateParse : String → Option ℤ)

def isTimestampWithinSnapshotWindow (timestamp previousCapturedAt currentCapturedAt : String)
    (previousStartGraceMs : ℤ) : Bool :=
  match dateParse timestamp, dateParse previousCapturedAt, dateParse currentCapturedAt with
  | some instant, some previous, some current =>
    previous - previousStartGraceMs < instant ∧ instant ≤ current
  | _, _, _ => false

def selectFillsWithinSnapshotWindow (fills : List Fill) (previousCapturedAt currentCapturedAt : String)
    (previousStartGraceMs : ℤ) : List Fill :=
  fills.filter fun fill => isExchangeBackedFill fill &&
    isTimestampWithinSnapshotWindow dateParse fill.filledAt previousCapturedAt currentCapturedAt
      previousStartGraceMs

/-! ### Findings -/

inductive DriftCode
  | balanceDriftDetected
  | positionDriftDetected
  deriving DecidableEq

/-- `buildBalanceDriftFinding` finds nothing: the fills explain the change of the KRW total. -/
def explainsBalance (previous current : BalanceSnapshot) (fills : List Fill) : Bool :=
  isEffectivelyZero ((parseManagedBalances current).krw - (parseManagedBalances previous).krw -
    (aggregateFillDeltas fills).krw) krwDustTolerance

/-- `buildPositionDriftFinding` finds nothing: the fills explain the change of each quantity. -/
def explainsPositions (previous current : PositionSnapshot) (fills : List Fill) : Bool :=
  [SupportedAsset.btc, .eth].all fun asset =>
    isEffectivelyZero ((parseManagedPositionQuantities current).of asset -
      (parseManagedPositionQuantities previous).of asset - (aggregateFillDeltas fills).of asset)
      floatingPointEpsilon

def detectBalanceDrift (previous current : BalanceSnapshot) (fills : List Fill) :
    Option DriftCode :=
  let window := selectFillsWithinSnapshotWindow dateParse fills previous.capturedAt
    current.capturedAt
  if explainsBalance previous current (window 0) then none
  else if explainsBalance previous current (window fillSnapshotStartGraceMs) then none
  else some .balanceDriftDetected

def detectPositionDrift (previous current : PositionSnapshot) (fills : List Fill) :
    Option DriftCode :=
  let window := selectFillsWithinSnapshotWindow dateParse fills previous.capturedAt
    current.capturedAt
  if explainsPositions previous current (window 0) then none
  else if explainsPositions previous current (window fillSnapshotStartGraceMs) then none
  else some .positionDriftDetected

/-- The snapshots of one comparison. -/
structure PortfolioSnapshots where
  previousBalanceSnapshot : Option BalanceSnapshot
  currentBalanceSnapshot : BalanceSnapshot
  previousPositionSnapshot : Option PositionSnapshot
  currentPositionSnapshot : PositionSnapshot
  deriving DecidableEq

/-- The codes of the findings; a snapshot without a predecessor is not compared. -/
def detectPortfolioDrift (snapshots : PortfolioSnapshots) (fills : List Fill) : List DriftCode :=
  (snapshots.previousBalanceSnapshot.bind fun previous =>
    detectBalanceDrift dateParse previous snapshots.currentBalanceSnapshot fills).toList ++
  (snapshots.previousPositionSnapshot.bind fun previous =>
    detectPositionDrift dateParse previous snapshots.currentPositionSnapshot fills).toList

end Windows

end AutoTrade.Reconciliation.PortfolioDrift
