import AutoTrade.Db.ReconciliationStore
import AutoTrade.Execution.Records

/-! # Exchange snapshots and the rows built from them

What `reconciliation-service.ts` computes from an order snapshot of the exchange without asking
anything: whether the snapshot is the one of the order it was looked up for, the status and the fills
it stands for, the order it is recovered as, and which stored orders a run looks up.

`JSON.parse` of a stored response, `Number` of a decimal text, the hash of an idempotency key and
`localeCompare` are the fields of a `Library`. -/

namespace AutoTrade.Reconciliation.Snapshots

open Lib.Text Lib.Decimal Lib.NumberText Domain.Types
open Domain.Timestamp Db.ReconciliationStore
open Execution.OrderDecimals

/-! ### Records -/

structure ExchangeFillSnapshot extends AutoTrade.Execution.Records.ExchangeFillSnapshot where
  funds : Option String

structure ExchangeOrderSnapshot where
  uuid : String
  identifier : Option String
  market : SupportedMarket
  side : OrderSide
  ordType : Domain.Types.OrderType
  state : String
  price : Option String
  volume : Option String
  timeInForce : Option TimeInForce
  smpType : Option UpbitSelfMatchPrevention
  remainingVolume : Option String
  executedVolume : Option String
  paidFee : Option String
  createdAt : String
  fills : List ExchangeFillSnapshot
  raw : String

structure ExchangeOrderLookupIdentity where
  uuid : Option String
  identifier : Option String

structure Library where
  /-- `Number(text) > 0`. -/
  positive : String → Bool
  /-- The string under a key of a text that `JSON.parse` reads as an object. -/
  jsonStringField : String → String → Option String
  createFingerprint : String → String
  /-- `left.localeCompare(right) <= 0`. -/
  localeLe : String → String → Bool
  /-- `Date.parse`; `none` is `NaN`. -/
  dateParse : String → Option ℤ

/-! ### The snapshot of an order -/

/-- `normalizeNonNegativeDecimal`; `none` is an error. -/
def normalizeNonNegativeDecimal (value : String) : Option String :=
  if isDecimalText value.toList then
    some (String.ofList (joinPoint (stripLeadingZeros (wholePart value.toList))
      (stripZeros ((fractionPart value.toList).getD []))))
  else none

/-- `sameOrderIntentDecimal`: prices of market buys and volumes of market sells are compared with the
eight decimals that the exchange keeps. A text that is no decimal is an error. -/
def sameOrderIntentDecimal (left right : Option String) (eightDecimals : Bool) : Bool :=
  match left, right with
  | some left, some right =>
    if eightDecimals then
      match canonicalizeUpbitOrderDecimal left "", canonicalizeUpbitOrderDecimal right "" with
      | .ok left, .ok right => left = right
      | _, _ => false
    else
      match normalizeNonNegativeDecimal left, normalizeNonNegativeDecimal right with
      | some left, some right => left = right
      | _, _ => false
  | left, right => left = right

/-- `nullableDecimal`. -/
def isNullableDecimal (value : Option String) : Bool :=
  value.all fun text => isDecimalText text.toList

/-- `projectFills`: the decimals of a fill. -/
def isFillSnapshot (fill : ExchangeFillSnapshot) : Bool :=
  isDecimalText fill.price.toList ∧ isDecimalText fill.volume.toList ∧
    isNullableDecimal fill.funds ∧ isNullableDecimal fill.fee

/-- The fields of a snapshot are of the form `projectAndValidateSnapshot` asks for. -/
def isOrderSnapshot (candidate : ExchangeOrderSnapshot) : Bool :=
  candidate.uuid ≠ "" ∧ candidate.state ≠ "" ∧ candidate.createdAt ≠ "" ∧
    isNullableDecimal candidate.price ∧ isNullableDecimal candidate.volume ∧
    isNullableDecimal candidate.remainingVolume ∧ isNullableDecimal candidate.executedVolume ∧
    isNullableDecimal candidate.paidFee ∧ candidate.fills.all isFillSnapshot

/-- The snapshot answers the lookup and is bound to the order. -/
def isBoundTo (candidate : ExchangeOrderSnapshot) (query : ExchangeOrderLookupIdentity)
    (order : OrderRecord) : Bool :=
  query.uuid.all (fun uuid => candidate.uuid = uuid) ∧
    query.identifier.all (fun identifier => candidate.identifier = some identifier) ∧
    candidate.identifier = some order.identifier ∧
    order.upbitUuid.all (fun uuid => candidate.uuid = uuid) ∧
    candidate.market = order.market ∧ candidate.side = order.side ∧
    candidate.ordType = order.ordType ∧
    sameOrderIntentDecimal candidate.price order.price
      (candidate.side = .bid ∧ candidate.ordType = .price) ∧
    sameOrderIntentDecimal candidate.volume order.volume
      (candidate.side = .ask ∧ candidate.ordType = .market) ∧
    candidate.timeInForce = order.timeInForce ∧ candidate.smpType = order.smpType

/-- `bindExchangeOrderSnapshot`; `none` is an `ExchangeOrderSnapshotBindingError`. -/
def bindExchangeOrderSnapshot (candidate : ExchangeOrderSnapshot)
    (query : ExchangeOrderLookupIdentity) (order : OrderRecord) : Option ExchangeOrderSnapshot :=
  if isOrderSnapshot candidate ∧ isBoundTo candidate query order then some candidate else none

/-! ### Status, fills and recovered orders -/

def hasExecutedVolume (lib : Library) (executedVolume : Option String) : Bool :=
  truthy executedVolume && executedVolume.any lib.positive

def mapExchangeOrderToLifecycleStatus (lib : Library) (snapshot : ExchangeOrderSnapshot) :
    OrderLifecycleStatus :=
  if snapshot.state = "done" then .filled
  else if snapshot.state = "cancel" then
    if snapshot.side = .bid ∧ snapshot.ordType = .price ∧
        hasExecutedVolume lib snapshot.executedVolume then .filled
    else .canceled
  else if hasExecutedVolume lib snapshot.executedVolume then .partiallyFilled
  else .open

def tryParseEpochNanoseconds (timestamp : String) : Option String :=
  match parsePositionGuardCandidateTimestamp timestamp "exchange fill createdAt" with
  | .ok epochNs => some (toString epochNs)
  | .error _ => none

/-- A trade id, or, for a fill without one, a text made of its terms. -/
def resolveExchangeFillId (order : OrderRecord) (fill : ExchangeFillSnapshot) : String :=
  if truthy fill.tradeUuid then fill.tradeUuid.getD ""
  else String.intercalate ":" ["reconciliation_fill", order.id, fill.side.text, fill.price,
    fill.volume, fill.createdAt.getD "unknown_created_at"]

def buildFillRecord (order : OrderRecord) (id : String) (fill : ExchangeFillSnapshot)
    (orderPaidFee : Option String) : FillRecord where
  id
  orderId := order.id
  exchangeFillId := resolveExchangeFillId order fill
  market := order.market
  side := fill.side
  price := fill.price
  volume := fill.volume
  feeCurrency := some "KRW"
  feeAmount := fill.fee
  feeProvenance := some (if fill.fee ≠ none then .exchangeFillConfirmed
    else if orderPaidFee ≠ none then .orderLevelUnallocated else .missing)
  executionTimestampProvenance := some (if fill.createdAt = none then .legacyUnverified
    else .exchangeFillConfirmed)
  executionEpochNs := fill.createdAt.bind tryParseEpochNanoseconds
  filledAt := fill.createdAt.getD ""
  rawPayloadJson := fill.raw

/-- `buildFillRecords`, with the ids that are created for the fills. -/
def buildFillRecords (order : OrderRecord) (snapshot : ExchangeOrderSnapshot) (ids : List String) :
    List FillRecord :=
  (ids.zip snapshot.fills).map fun (id, fill) => buildFillRecord order id fill snapshot.paidFee

/-- The order as the snapshot shows it. -/
def reconciledOrder (lib : Library) (order : OrderRecord) (snapshot : ExchangeOrderSnapshot)
    (reconciledAt : String) : OrderRecord :=
  { order with
    upbitUuid := some snapshot.uuid
    status := mapExchangeOrderToLifecycleStatus lib snapshot
    exchangeResponseJson := some snapshot.raw
    failureCode := none
    failureMessage := none
    updatedAt := reconciledAt }

/-- `orderChanged`: the time of the update does not count. -/
def isOrderChanged (order next : OrderRecord) : Bool :=
  next.status ≠ order.status ∨ next.upbitUuid ≠ order.upbitUuid ∨
    next.exchangeResponseJson ≠ order.exchangeResponseJson ∨
    next.failureCode ≠ order.failureCode ∨ next.failureMessage ≠ order.failureMessage

/-- What `applyExchangeSnapshot` hands to the repository, with the ids that were created. -/
def reconciledInput (lib : Library) (order : OrderRecord) (snapshot : ExchangeOrderSnapshot)
    (reconciledAt eventId : String) (fillIds : List String) :
    PersistReconciledExchangeSnapshotInput :=
  let nextOrder := reconciledOrder lib order snapshot reconciledAt
  let changed := isOrderChanged order nextOrder
  { expectedOrder := order
    order := if changed then nextOrder else order
    event := if changed then some
        { id := eventId
          orderId := order.id
          eventType := "RECONCILIATION_STATUS_UPDATED"
          eventSource := .reconciliation
          payloadJson := jsonRecord [("previousStatus", jsonString order.status.text),
            ("nextStatus", jsonString nextOrder.status.text),
            ("exchangeState", jsonString snapshot.state),
            ("executedVolume", jsonNullable snapshot.executedVolume),
            ("remainingVolume", jsonNullable snapshot.remainingVolume)]
          createdAt := reconciledAt }
      else none
    fills := buildFillRecords order snapshot fillIds }

/-! ### Candidates -/

def isSubmissionAbsenceConfirmed (order : OrderRecord) : Bool :=
  order.status = .failed ∧ order.failureCode = some "ORDER_SUBMISSION_ABSENCE_CONFIRMED"

end AutoTrade.Reconciliation.Snapshots
