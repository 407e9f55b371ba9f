import AutoTrade.Strategy.BacktestFrames
import Mathlib.Algebra.Order.AbsoluteValue.Basic

/-! # The market structure

The part of `analyzePositionGuardMarketStructure` of `market-structure.ts` that reads candles: which of
them a decision is made on, and indicators, swings and trend of each timeframe from its candles.

Numbers are rationals. A price is a number wherever the source asks for a finite one. `Date.parse` is
read on the timestamps of `Domain.Timestamp`; other texts have no date here. -/

namespace AutoTrade.Strategy.MarketStructure

open Domain.Timestamp Strategy.Core
open Strategy.Backtest Strategy.BacktestFrames

/-! ### Records -/

inductive StrategyTrendDirection
  | up
  | down
  | flat
  deriving DecidableEq

structure TimeframeIndicatorState where
  ema20 : Option ℚ
  ema50 : Option ℚ
  ema200 : Option ℚ
  atr14 : Option ℚ
  rsi14 : Option ℚ
  macdLine : Option ℚ
  macdSignal : Option ℚ
  macdHistogram : Option ℚ
  previousMacdHistogram : Option ℚ
  volumeRatio : Option ℚ

structure TimeframeStructure where
  timeframe : SupportedStrategyTimeframe
  trend : StrategyTrendDirection
  rangeHigh : ℚ
  rangeLow : ℚ
  previousRangeLow : ℚ
  previousRangeHigh : ℚ
  location : StructureLocation
  changePct : ℚ
  latestClose : ℚ
  previousClose : ℚ
  swingHigh : ℚ
  swingLow : ℚ
  support : ℚ
  resistance : ℚ
  indicators : TimeframeIndicatorState
  aboveEma20 : Bool
  aboveEma50 : Bool
  aboveEma200 : Bool
  emaStackBullish : Bool
  emaStackBearish : Bool
  macdHistogramImproving : Bool
  rsiOverbought : Bool
  rsiOversold : Bool

/-- `LOOKBACK`. -/
def lookback : SupportedStrategyTimeframe → ℕ
  | .oneHour => 24
  | .fourHours => 24
  | .oneDay => 30

/-- `TREND_THRESHOLD`. -/
def trendThreshold : SupportedStrategyTimeframe → ℚ
  | .oneHour => 0.015
  | .fourHours => 0.025
  | .oneDay => 0.03

/-- `SWING_LOOKBACK`. -/
def swingLookback : SupportedStrategyTimeframe → ℕ
  | .oneHour => 18
  | .fourHours => 18
  | .oneDay => 20

/-- `values.slice(-count)` for a positive count. -/
def newest {α : Type} (count : ℕ) (values : List α) : List α := values.drop (values.length - count)

/-! ### Indicators -/

def average (values : List ℚ) : ℚ := if values = [] then 0 else values.sum / values.length

/-- One step of an exponential average. -/
def emaStep (multiplier ema value : ℚ) : ℚ := (value - ema) * multiplier + ema

def calculateEma (values : List ℚ) (period : ℕ) : Option ℚ :=
  if values.length < period then none
  else some ((values.drop period).foldl (emaStep (2 / (period + 1))) (average (values.take period)))

/-- The values from the end of the first period on, with `null` before. -/
def calculateEmaSeries (values : List ℚ) (period : ℕ) : List (Option ℚ) :=
  if values.length < period then values.map fun _ => none
  else
    List.replicate (period - 1) none ++
      ((values.drop period).scanl (emaStep (2 / (period + 1))) (average (values.take period))).map some

def trueRange (previous candle : StrategyMarketCandle) : ℚ :=
  max (max (candle.highPrice - candle.lowPrice) |candle.highPrice - previous.closePrice|)
    |candle.lowPrice - previous.closePrice|

/-- One step of a smoothed average. -/
def smooth (period : ℕ) (average value : ℚ) : ℚ := (average * (period - 1) + value) / period

def calculateAtr (candles : List StrategyMarketCandle) (period : ℕ) : Option ℚ :=
  if candles.length ≤ period then none
  else
    let trueRanges := List.zipWith trueRange candles (candles.drop 1)
    some ((trueRanges.drop period).foldl (smooth period)
      (average (trueRanges.take period)))

/-- The change of each value against the one before it. -/
def changes (values : List ℚ) : List ℚ := List.zipWith (fun previous value => value - previous) values
  (values.drop 1)

def calculateRsi (values : List ℚ) (period : ℕ) : Option ℚ :=
  if values.length ≤ period then none
  else
    let first := (changes values).take period
    let rest := (changes values).drop period
    let averageGain := rest.foldl (fun gain change => smooth period gain (max change 0))
      ((first.map fun change => max change 0).sum / period)
    let averageLoss := rest.foldl (fun loss change => smooth period loss (max (-change) 0))
      ((first.map fun change => max (-change) 0).sum / period)
    if averageLoss = 0 then some 100 else some (100 - 100 / (1 + averageGain / averageLoss))

structure Macd where
  line : Option ℚ
  signal : Option ℚ
  histogram : Option ℚ
  previousHistogram : Option ℚ

/-- The value before the last one. -/
def secondLast? {α : Type} (values : List α) : Option α := values.dropLast.getLast?

def calculateMacd (values : List ℚ) : Macd :=
  if values.length < 35 then ⟨none, none, none, none⟩
  else
    let macdSeries := (List.zipWith (fun fast slow => do
      let f ← fast
      let s ← slow
      some (f - s)) (calculateEmaSeries values 12) (calculateEmaSeries values 26)).filterMap id
    let signalSeries := (calculateEmaSeries macdSeries 9).filterMap id
    if macdSeries = [] ∨ signalSeries = [] then ⟨none, none, none, none⟩
    else
      let difference (line signal : Option ℚ) : Option ℚ := do
        let l ← line
        let s ← signal
        some (l - s)
      ⟨macdSeries.getLast?, signalSeries.getLast?,
        difference macdSeries.getLast? signalSeries.getLast?,
        difference (secondLast? macdSeries) (secondLast? signalSeries)⟩

def calculateVolumeRatio (candles : List StrategyMarketCandle) (period : ℕ) : Option ℚ :=
  match candles.getLast? with
  | none => none
  | some latest =>
    let baseline := (newest period candles.dropLast).map StrategyMarketCandle.volume
    if baseline = [] then none
    else if average baseline ≤ 0 then none
    else some (latest.volume / average baseline)

/-! ### Ranges and swings -/

def getHigh (candles : List StrategyMarketCandle) (fallback : ℚ) : ℚ :=
  match candles with
  | [] => fallback
  | first :: _ => candles.foldl (fun highest candle => max highest candle.highPrice) first.highPrice

def getLow (candles : List StrategyMarketCandle) (fallback : ℚ) : ℚ :=
  match candles with
  | [] => fallback
  | first :: _ => candles.foldl (fun lowest candle => min lowest candle.lowPrice) first.lowPrice

structure Swings where
  swingHigh : ℚ
  swingLow : ℚ

/-- The last pivots of the candles: a candle whose price is the extreme of the five around it. -/
structure Pivots where
  high : Option ℚ
  low : Option ℚ
  deriving DecidableEq

/-- The turn of the loop whose five candles start here. -/
def pivotStep (pivots : Pivots) : List StrategyMarketCandle → Pivots
  | [a, b, current, c, d] =>
    { high :=
        if current.highPrice = max (max (max (max a.highPrice b.highPrice) current.highPrice)
          c.highPrice) d.highPrice then some current.highPrice else pivots.high
      low :=
        if current.lowPrice = min (min (min (min a.lowPrice b.lowPrice) current.lowPrice) c.lowPrice)
          d.lowPrice then some current.lowPrice else pivots.low }
  | _ => pivots

def findSwings (candles : List StrategyMarketCandle) (fallback : ℚ) : Swings :=
  if candles.length < 5 then ⟨getHigh candles fallback, getLow candles fallback⟩
  else
    let pivots := (List.range (candles.length - 4)).foldl
      (fun pivots index => pivotStep pivots ((candles.drop index).take 5)) ⟨none, none⟩
    ⟨pivots.high.getD (getHigh candles fallback), pivots.low.getD (getLow candles fallback)⟩

def classifyLocation (currentPrice rangeLow rangeHigh : ℚ) : StructureLocation :=
  let width := rangeHigh - rangeLow
  if width ≤ 0 then .middle
  else
    let placement := (currentPrice - rangeLow) / width
    if placement ≤ 0.33 then .lower else if 0.67 ≤ placement then .upper else .middle

/-- `average !== null ? latestClose >= average : false`. -/
def above (latestClose : ℚ) (ema : Option ℚ) : Bool := ema.any fun value => value ≤ latestClose

def classifyTrend (timeframe : SupportedStrategyTimeframe) (changePct latestClose : ℚ)
    (ema20 ema50 : Option ℚ) : StrategyTrendDirection :=
  if trendThreshold timeframe ≤ changePct ∧ above latestClose ema20 ∧
      (ema50 = none ∨ above latestClose ema50) then .up
  else if changePct ≤ -trendThreshold timeframe ∧ ¬ above latestClose ema20 ∧
      (ema50 = none ∨ ¬ above latestClose ema50) then .down
  else .flat

/-! ### A timeframe -/

/-- The indicators that are computed from the first candle on. -/
structure RecursiveIndicators where
  ema20 : Option ℚ
  ema50 : Option ℚ
  ema200 : Option ℚ
  atr14 : Option ℚ
  rsi14 : Option ℚ
  macd : Macd

def recursiveIndicators (candles : List StrategyMarketCandle) : RecursiveIndicators :=
  let closes := candles.map StrategyMarketCandle.closePrice
  { ema20 := calculateEma closes 20
    ema50 := calculateEma closes 50
    ema200 := calculateEma closes 200
    atr14 := calculateAtr candles 14
    rsi14 := calculateRsi closes 14
    macd := calculateMacd closes }

/-- Three averages are in order. -/
def stacked (le : ℚ → ℚ → Bool) (first second third : Option ℚ) : Bool :=
  match first, second, third with
  | some a, some b, some c => le a b && le b c
  | _, _, _ => false

def analyzeTimeframe (timeframe : SupportedStrategyTimeframe) (candles : List StrategyMarketCandle)
    (currentPrice : ℚ) : TimeframeStructure :=
  let recent := newest (min candles.length (lookback timeframe)) candles
  let prior := if 1 < recent.length then recent.dropLast else recent
  let latestClose := (recent.getLast?.map StrategyMarketCandle.closePrice).getD currentPrice
  let previousClose := ((secondLast? recent).map StrategyMarketCandle.closePrice).getD latestClose
  let firstClose := (recent.head?.map StrategyMarketCandle.closePrice).getD currentPrice
  let changePct := if 0 < firstClose then (latestClose - firstClose) / firstClose else 0
  let i := recursiveIndicators candles
  let swings := findSwings (newest (swingLookback timeframe) candles) currentPrice
  { timeframe
    trend := classifyTrend timeframe changePct latestClose i.ema20 i.ema50
    rangeHigh := getHigh recent currentPrice
    rangeLow := getLow recent currentPrice
    previousRangeHigh := getHigh prior currentPrice
    previousRangeLow := getLow prior currentPrice
    location := classifyLocation latestClose swings.swingLow swings.swingHigh
    changePct
    latestClose
    previousClose
    swingHigh := swings.swingHigh
    swingLow := swings.swingLow
    support := swings.swingLow
    resistance := swings.swingHigh
    indicators :=
      { ema20 := i.ema20, ema50 := i.ema50, ema200 := i.ema200, atr14 := i.atr14, rsi14 := i.rsi14
        macdLine := i.macd.line, macdSignal := i.macd.signal, macdHistogram := i.macd.histogram
        previousMacdHistogram := i.macd.previousHistogram
        volumeRatio := calculateVolumeRatio candles 20 }
    aboveEma20 := above latestClose i.ema20
    aboveEma50 := above latestClose i.ema50
    aboveEma200 := above latestClose i.ema200
    emaStackBullish := stacked (fun a b => b ≤ a) i.ema20 i.ema50 i.ema200
    emaStackBearish := stacked (fun a b => a ≤ b) i.ema20 i.ema50 i.ema200
    macdHistogramImproving :=
      match i.macd.histogram, i.macd.previousHistogram with
      | some histogram, some previous => previous < histogram
      | _, _ => false
    rsiOverbought := i.rsi14.any fun rsi => 70 ≤ rsi
    rsiOversold := i.rsi14.any fun rsi => rsi ≤ 35 }

/-! ### The decision candles -/

/-- `Date.parse`, in milliseconds. -/
def dateParse (value : String) : Option ℤ :=
  match scan value with
  | none => none
  | some f =>
    if f.inCandidateRange then some (f.epochSeconds * 1000 + f.fractionNanoseconds / 1000000)
    else none

/-- A text without a timezone is one of UTC. -/
def toUtcMs (value : String) : Option ℤ := dateParse (exactTimestampOf value)

def getSnapshotDecisionCutoffMs (snapshot : PositionGuardMarketSnapshot) : Option ℤ :=
  snapshot.ticker.exchangeTimestampMs <|>
    (snapshot.ticker.tradeTimeUtc.filter (· ≠ "")).bind toUtcMs <|>
    toUtcMs (snapshot.ticker.fetchedAt.getD snapshot.fetchedAt)

/-- The candles that have closed by the cutoff, or all of them if these are too few. -/
def getDecisionCandles (snapshot : PositionGuardMarketSnapshot)
    (timeframe : SupportedStrategyTimeframe) (candles : List StrategyMarketCandle) :
    List StrategyMarketCandle :=
  match getSnapshotDecisionCutoffMs snapshot with
  | none => candles
  | some cutoffMs =>
    let completed := candles.filter fun candle =>
      (toUtcMs candle.closeTime).any fun closeMs => closeMs ≤ cutoffMs
    if min (lookback timeframe) 5 ≤ completed.length then completed else candles

end AutoTrade.Strategy.MarketStructure
