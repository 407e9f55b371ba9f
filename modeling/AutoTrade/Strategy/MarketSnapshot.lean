import AutoTrade.Strategy.MarketStructure

/-! # The live market snapshot

`position-guard-snapshot.ts`: the newest candles of each timeframe that have closed, as the exchange
returns them, put in order and dated. `PositionGuardPublicMarketDataReader` is given by what it
answers. -/

namespace AutoTrade.Strategy.MarketSnapshot

open Lib.SortBy Domain.Types Domain.Timestamp
open Strategy.Core Strategy.Backtest Strategy.BacktestFrames
open Strategy.MarketStructure

/-! ### Exchange records -/

structure UpbitCandleSnapshot where
  candleDateTimeUtc : String
  openingPrice : ℚ
  highPrice : ℚ
  lowPrice : ℚ
  tradePrice : ℚ
  candleAccTradeVolume : ℚ
  candleAccTradePrice : ℚ
  deriving DecidableEq

structure UpbitTickerSnapshot where
  market : SupportedMarket
  tradePrice : ℚ
  tradeTimestamp : ℤ
  deriving DecidableEq

/-- What the exchange answers: the tickers, and the candles of a timeframe up to a count and before a
time. -/
structure PositionGuardPublicMarketDataReader where
  getTickers : SupportedMarket → List UpbitTickerSnapshot
  getCandles : SupportedMarket → SupportedStrategyTimeframe → ℕ → String → List UpbitCandleSnapshot

def timeframeDurationMs : SupportedStrategyTimeframe → ℕ
  | .oneHour => 3600000
  | .fourHours => 14400000
  | .oneDay => 86400000

/-- `new Date(ms).toISOString()` from 1970 to 9999. -/
def toISOString (ms : ℤ) : String :=
  String.ofList (isoText (ms / 1000).toNat ('.' :: (padStart 3 (ms % 1000).toNat ++ ['Z'])))

def toBoundaryIso (timestampMs : ℤ) (durationMs : ℕ) : String :=
  toISOString (timestampMs / durationMs * durationMs)

/-- `toUtcMs`, which throws here. -/
def requireUtcMs (value : String) : Except String ℤ :=
  match toUtcMs value with
  | some ms => .ok ms
  | none => .error ("Invalid Upbit candle timestamp: " ++ value)

/-- An exchange candle with its opening time. -/
structure DatedCandle where
  snapshot : UpbitCandleSnapshot
  openMs : ℤ
  deriving DecidableEq

def dateCandle (snapshot : UpbitCandleSnapshot) : Except String DatedCandle := do
  let openMs ← requireUtcMs snapshot.candleDateTimeUtc
  .ok ⟨snapshot, openMs⟩

def DatedCandle.toCandle (market : SupportedMarket) (timeframe : SupportedStrategyTimeframe)
    (candle : DatedCandle) : StrategyMarketCandle where
  market
  timeframe
  openTime := toISOString candle.openMs
  closeTime := toISOString (candle.openMs + timeframeDurationMs timeframe)
  openPrice := candle.snapshot.openingPrice
  highPrice := candle.snapshot.highPrice
  lowPrice := candle.snapshot.lowPrice
  closePrice := candle.snapshot.tradePrice
  volume := candle.snapshot.candleAccTradeVolume
  quoteVolume := candle.snapshot.candleAccTradePrice

def normalizeUpbitCandles (candles : List UpbitCandleSnapshot) (market : SupportedMarket)
    (timeframe : SupportedStrategyTimeframe) : Except String (List StrategyMarketCandle) := do
  let dated ← candles.mapM dateCandle
  .ok ((sortBy DatedCandle.openMs dated).map (DatedCandle.toCandle market timeframe))

/-! ### The snapshot -/

def buildPositionGuardMarketSnapshot (market : SupportedMarket) (fetchedAt : String)
    (ticker : UpbitTickerSnapshot) (candles : PerTimeframe (List UpbitCandleSnapshot)) :
    Except String PositionGuardMarketSnapshot := do
  let oneHour ← normalizeUpbitCandles candles.oneHour market .oneHour
  let fourHours ← normalizeUpbitCandles candles.fourHours market .fourHours
  let oneDay ← normalizeUpbitCandles candles.oneDay market .oneDay
  .ok
    { asset := getAssetForMarket market
      market
      fetchedAt
      ticker :=
        { tradePrice := ticker.tradePrice
          exchangeTimestampMs := some ticker.tradeTimestamp
          tradeTimeUtc := some (toISOString ticker.tradeTimestamp)
          fetchedAt := some fetchedAt }
      timeframes :=
        { oneHour := { timeframe := .oneHour, candles := oneHour }
          fourHours := { timeframe := .fourHours, candles := fourHours }
          oneDay := { timeframe := .oneDay, candles := oneDay } } }

/-- The time before which the candles of a timeframe are asked for: the given one, or the last boundary
of the timeframe. -/
def candleTo (fetchedAtMs : ℤ) (given : Option String) (timeframe : SupportedStrategyTimeframe) :
    String :=
  given.getD (toBoundaryIso fetchedAtMs (timeframeDurationMs timeframe))

/-- `getCompletedCandleBoundaries` reads the time of the snapshot, unless a time is given. -/
def fetchedAtMsOf (fetchedAt : String) (given : Option String) : Except String ℤ :=
  match given, dateParse fetchedAt with
  | some _, _ => .ok 0
  | none, some ms => .ok ms
  | none, none => .error ("Invalid PositionGuard snapshot time: " ++ fetchedAt)

def fetchPositionGuardMarketSnapshot (reader : PositionGuardPublicMarketDataReader)
    (market : SupportedMarket) (fetchedAt : String) (candleCount : ℕ) (given : Option String) :
    Except String PositionGuardMarketSnapshot := do
  let fetchedAtMs ← fetchedAtMsOf fetchedAt given
  let candles (timeframe : SupportedStrategyTimeframe) :=
    reader.getCandles market timeframe candleCount (candleTo fetchedAtMs given timeframe)
  match (reader.getTickers market).find? fun ticker => ticker.market = market with
  | none => .error ("Upbit ticker response did not include " ++ market.text ++ ".")
  | some ticker =>
    buildPositionGuardMarketSnapshot market fetchedAt ticker
      ⟨candles .oneHour, candles .fourHours, candles .oneDay⟩

end AutoTrade.Strategy.MarketSnapshot
