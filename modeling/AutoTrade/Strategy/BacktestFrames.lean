import AutoTrade.Lib.SortBy
import AutoTrade.Strategy.Backtest

/-! # The frames of a backtest

`buildPositionGuardBacktestFrames` of `position-guard-backtest-frames.ts`: one frame for each hourly
candle within the bounds, analysed from the candles of the three timeframes that have closed by then.
The counters of closed candles only move forward; `buildFrames_eq` says that they count what a plain
filter over the candles would. -/

namespace AutoTrade.Strategy.BacktestFrames

open Lib.Result Lib.SortBy Domain.Types Domain.Timestamp
open Strategy.Core Strategy.Backtest

/-! ### Records -/

structure StrategyMarketCandle where
  market : SupportedMarket
  timeframe : SupportedStrategyTimeframe
  openTime : String
  closeTime : String
  openPrice : ℚ
  highPrice : ℚ
  lowPrice : ℚ
  closePrice : ℚ
  volume : ℚ
  quoteVolume : ℚ
  deriving DecidableEq

structure StrategyTimeframeMarketSnapshot where
  timeframe : SupportedStrategyTimeframe
  candles : List StrategyMarketCandle

structure StrategyMarketTicker where
  tradePrice : ℚ
  tradeTimeUtc : Option String
  exchangeTimestampMs : Option ℤ
  fetchedAt : Option String

structure PositionGuardMarketSnapshot where
  asset : SupportedAsset
  market : SupportedMarket
  ticker : StrategyMarketTicker
  timeframes : PerTimeframe StrategyTimeframeMarketSnapshot
  fetchedAt : String

structure BuildPositionGuardBacktestFramesInput where
  asset : SupportedAsset
  market : SupportedMarket
  oneHourCandles : List StrategyMarketCandle
  fourHourCandles : List StrategyMarketCandle
  oneDayCandles : List StrategyMarketCandle
  startAt : Option String
  endAt : Option String
  minimumCompletedCandles : PerTimeframe (Option ℚ)

structure BacktestTimestamp where
  epochMilliseconds : ℤ
  epochNanoseconds : ℤ
  exactTimestamp : String

structure IndexedCandle where
  candle : StrategyMarketCandle
  timestamp : BacktestTimestamp

def IndexedCandle.epochNanoseconds (indexed : IndexedCandle) : ℤ := indexed.timestamp.epochNanoseconds

/-! ### Timestamps -/

/-- The text with its timezone. The expression of this module makes the timezone optional; a text
without one matches it exactly when the text followed by `Z` matches the expression with one. -/
def exactTimestampOf (value : String) : String :=
  if (scan value).isSome then value else value ++ "Z"

def parseTimestamp (value label : String) : Except String BacktestTimestamp :=
  let invalid := "Invalid PositionGuard backtest " ++ label ++ ": " ++ value
  match scan (exactTimestampOf value) with
  | none => .error invalid
  | some f =>
    if f.inCandidateRange then
      .ok
        { epochMilliseconds := f.epochSeconds * 1000 + f.fractionNanoseconds / 1000000
          epochNanoseconds := f.epochSeconds * 1000000000 + f.fractionNanoseconds
          exactTimestamp := exactTimestampOf value }
    else .error invalid

/-- A bound of the period, if it is given. -/
def parseBound (value : Option String) (label : String) :
    Except String (Option BacktestTimestamp) :=
  match value with
  | none => .ok none
  | some text => do
    let timestamp ← parseTimestamp text label
    .ok (some timestamp)

/-! ### The frames -/

def indexCandle (candle : StrategyMarketCandle) : Except String IndexedCandle := do
  let timestamp ← parseTimestamp candle.closeTime "closeTime"
  .ok { candle, timestamp }

/-- The sort of `indexCandles` is stable. -/
def indexCandles (candles : List StrategyMarketCandle) : Except String (List IndexedCandle) := do
  let indexed ← candles.mapM indexCandle
  .ok (sortBy IndexedCandle.epochNanoseconds indexed)

/-- The loop of `advanceCompletedCounts` over one timeframe. -/
def advanceCount (candles : List IndexedCandle) (cutoff : ℤ) (count : ℕ) : ℕ :=
  count + countUpTo IndexedCandle.epochNanoseconds cutoff (candles.drop count)

def advanceCompletedCounts (indexedCandles : PerTimeframe (List IndexedCandle))
    (completedCounts : PerTimeframe ℕ) (cutoffEpochNanoseconds : ℤ) : PerTimeframe ℕ where
  oneHour := advanceCount indexedCandles.oneHour cutoffEpochNanoseconds completedCounts.oneHour
  fourHours :=
    advanceCount indexedCandles.fourHours cutoffEpochNanoseconds completedCounts.fourHours
  oneDay := advanceCount indexedCandles.oneDay cutoffEpochNanoseconds completedCounts.oneDay

def materializeCompletedCandles (indexedCandles : PerTimeframe (List IndexedCandle))
    (completedCounts : PerTimeframe ℕ) : PerTimeframe (List StrategyMarketCandle) where
  oneHour := (indexedCandles.oneHour.take completedCounts.oneHour).map IndexedCandle.candle
  fourHours := (indexedCandles.fourHours.take completedCounts.fourHours).map IndexedCandle.candle
  oneDay := (indexedCandles.oneDay.take completedCounts.oneDay).map IndexedCandle.candle

/-- `DEFAULT_MINIMUM_COMPLETED_CANDLES`, for each timeframe. -/
def defaultMinimumCompletedCandles : ℚ := 200

def hasMinimumCompletedCandles (completedCounts : PerTimeframe ℕ)
    (minimumCompletedCandles : PerTimeframe (Option ℚ)) : Bool :=
  minimumCompletedCandles.oneHour.getD defaultMinimumCompletedCandles ≤ completedCounts.oneHour ∧
    minimumCompletedCandles.fourHours.getD defaultMinimumCompletedCandles ≤
      completedCounts.fourHours ∧
    minimumCompletedCandles.oneDay.getD defaultMinimumCompletedCandles ≤ completedCounts.oneDay

def getLatestCloseTime (candles : List StrategyMarketCandle) : Option String :=
  candles.getLast?.map StrategyMarketCandle.closeTime

section Build

variable (analyzePositionGuardMarketStructure :
    PositionGuardMarketSnapshot → PositionGuardStructureAnalysis)
  (input : BuildPositionGuardBacktestFramesInput)

def snapshotOf (decision : IndexedCandle) (completed : PerTimeframe (List StrategyMarketCandle)) :
    PositionGuardMarketSnapshot where
  asset := input.asset
  market := input.market
  fetchedAt := decision.timestamp.exactTimestamp
  ticker :=
    { tradePrice := decision.candle.closePrice
      tradeTimeUtc := some decision.timestamp.exactTimestamp
      exchangeTimestampMs := some decision.timestamp.epochMilliseconds
      fetchedAt := some decision.timestamp.exactTimestamp }
  timeframes :=
    { oneHour := { timeframe := .oneHour, candles := completed.oneHour }
      fourHours := { timeframe := .fourHours, candles := completed.fourHours }
      oneDay := { timeframe := .oneDay, candles := completed.oneDay } }

def frameOf (decision : IndexedCandle) (completed : PerTimeframe (List StrategyMarketCandle)) :
    PositionGuardBacktestFrame where
  generatedAt := decision.timestamp.exactTimestamp
  analysis := analyzePositionGuardMarketStructure (snapshotOf input decision completed)
  source := some
    { candleCounts :=
        { oneHour := completed.oneHour.length
          fourHours := completed.fourHours.length
          oneDay := completed.oneDay.length }
      latestCloseTime :=
        { oneHour := getLatestCloseTime completed.oneHour
          fourHours := getLatestCloseTime completed.fourHours
          oneDay := getLatestCloseTime completed.oneDay } }

/-- The variables of the loop over the hourly candles. -/
structure FrameLoop where
  completedCounts : PerTimeframe ℕ
  frames : List PositionGuardBacktestFrame

/-- The candles and the bounds that the loop reads. -/
structure FrameSource where
  indexedCandles : PerTimeframe (List IndexedCandle)
  start : Option BacktestTimestamp
  finish : Option BacktestTimestamp

/-- The hourly candle closes before the start or after the end. -/
def FrameSource.excludes (source : FrameSource) (decision : IndexedCandle) : Bool :=
  source.start.any (fun start => decision.epochNanoseconds < start.epochNanoseconds) ∨
    source.finish.any (fun finish => finish.epochNanoseconds < decision.epochNanoseconds)

/-- One turn of the loop over the hourly candles. -/
def buildFrame (source : FrameSource) (loop : FrameLoop) (decision : IndexedCandle) : FrameLoop :=
  if source.excludes decision then loop
  else
    let completedCounts := advanceCompletedCounts source.indexedCandles loop.completedCounts
      decision.epochNanoseconds
    if ¬ hasMinimumCompletedCandles completedCounts input.minimumCompletedCandles then
      { loop with completedCounts }
    else
      { completedCounts
        frames := loop.frames ++ [frameOf analyzePositionGuardMarketStructure input decision
          (materializeCompletedCandles source.indexedCandles completedCounts)] }

/-- The candles in order and the bounds. -/
def frameSource : Except String FrameSource := do
  let oneHour ← indexCandles input.oneHourCandles
  let fourHours ← indexCandles input.fourHourCandles
  let oneDay ← indexCandles input.oneDayCandles
  let start ← parseBound input.startAt "startAt"
  let finish ← parseBound input.endAt "endAt"
  .ok { indexedCandles := { oneHour, fourHours, oneDay }, start, finish }

def buildPositionGuardBacktestFrames : Except String (List PositionGuardBacktestFrame) := do
  let source ← frameSource input
  .ok (source.indexedCandles.oneHour.foldl
    (buildFrame analyzePositionGuardMarketStructure input source) ⟨⟨0, 0, 0⟩, []⟩).frames

end Build

/-! ### Timestamps of frames -/

theorem parseTimestamp_eq_ok {value label : String} {timestamp : BacktestTimestamp}
    (h : parseTimestamp value label = .ok timestamp) :
    IsCandidateTimestamp timestamp.exactTimestamp ∧
      timestamp.epochNanoseconds = instant timestamp.exactTimestamp := by
  unfold parseTimestamp at h
  cases hscan : scan (exactTimestampOf value) with
  | none => simp [hscan] at h
  | some f =>
    simp only [hscan] at h
    split_ifs at h with hrange
    rw [← Except.ok.inj h]
    refine ⟨⟨f, hscan, hrange⟩, ?_⟩
    simp [instant, hscan]

/-- An indexed candle carries the instant of its close time. -/
def IndexedCandle.Dated (indexed : IndexedCandle) : Prop :=
  indexed.epochNanoseconds = instant indexed.timestamp.exactTimestamp

variable {candle : StrategyMarketCandle}

theorem indexCandle_eq_ok {indexed : IndexedCandle} :
    indexCandle candle = .ok indexed ↔
      ∃ timestamp, parseTimestamp candle.closeTime "closeTime" = .ok timestamp ∧
        indexed = ⟨candle, timestamp⟩ := by
  unfold indexCandle
  rw [bind_eq_ok]
  constructor
  · rintro ⟨timestamp, hparse, hindexed⟩
    exact ⟨timestamp, hparse, (Except.ok.inj hindexed).symm⟩
  · rintro ⟨timestamp, hparse, rfl⟩
    exact ⟨timestamp, hparse, rfl⟩

/-! ### The counters -/

/-- The indexed candles that have closed by the cutoff. -/
def closedBy (candles : List IndexedCandle) (cutoff : ℤ) : List IndexedCandle :=
  candles.filter fun indexed => indexed.epochNanoseconds ≤ cutoff

/-- The candles of each timeframe that have closed by the cutoff. -/
def completedBy (indexedCandles : PerTimeframe (List IndexedCandle)) (cutoff : ℤ) :
    PerTimeframe (List StrategyMarketCandle) where
  oneHour := (closedBy indexedCandles.oneHour cutoff).map IndexedCandle.candle
  fourHours := (closedBy indexedCandles.fourHours cutoff).map IndexedCandle.candle
  oneDay := (closedBy indexedCandles.oneDay cutoff).map IndexedCandle.candle

/-- How many candles of each timeframe have closed by the cutoff. -/
def countsBy (indexedCandles : PerTimeframe (List IndexedCandle)) (cutoff : ℤ) :
    PerTimeframe ℕ where
  oneHour := (closedBy indexedCandles.oneHour cutoff).length
  fourHours := (closedBy indexedCandles.fourHours cutoff).length
  oneDay := (closedBy indexedCandles.oneDay cutoff).length

/-- The candles of each timeframe are in the order of their close times. -/
structure InOrder (indexedCandles : PerTimeframe (List IndexedCandle)) : Prop where
  oneHour : SortedBy IndexedCandle.epochNanoseconds indexedCandles.oneHour
  fourHours : SortedBy IndexedCandle.epochNanoseconds indexedCandles.fourHours
  oneDay : SortedBy IndexedCandle.epochNanoseconds indexedCandles.oneDay

/-- The counters have not passed the cutoff. -/
structure Behind (indexedCandles : PerTimeframe (List IndexedCandle)) (counts : PerTimeframe ℕ)
    (cutoff : ℤ) : Prop where
  oneHour : counts.oneHour ≤ (countsBy indexedCandles cutoff).oneHour
  fourHours : counts.fourHours ≤ (countsBy indexedCandles cutoff).fourHours
  oneDay : counts.oneDay ≤ (countsBy indexedCandles cutoff).oneDay

variable {cutoff later : ℤ}

theorem length_closedBy_mono (candles : List IndexedCandle) (h : cutoff ≤ later) :
    (closedBy candles cutoff).length ≤ (closedBy candles later).length := by
  refine (List.monotone_filter_right candles fun indexed hle => ?_).length_le
  simp only [decide_eq_true_eq] at hle ⊢
  exact hle.trans h

theorem behind_countsBy (indexedCandles : PerTimeframe (List IndexedCandle)) (h : cutoff ≤ later) :
    Behind indexedCandles (countsBy indexedCandles cutoff) later :=
  ⟨length_closedBy_mono _ h, length_closedBy_mono _ h, length_closedBy_mono _ h⟩

variable {indexedCandles : PerTimeframe (List IndexedCandle)}

theorem advanceCompletedCounts_eq (horder : InOrder indexedCandles) {counts : PerTimeframe ℕ}
    {cutoff : ℤ} (h : Behind indexedCandles counts cutoff) :
    advanceCompletedCounts indexedCandles counts cutoff = countsBy indexedCandles cutoff := by
  unfold advanceCompletedCounts advanceCount
  rw [resume_countUpTo horder.oneHour h.oneHour, resume_countUpTo horder.fourHours h.fourHours,
    resume_countUpTo horder.oneDay h.oneDay]
  rfl

theorem materialize_countsBy (horder : InOrder indexedCandles) (cutoff : ℤ) :
    materializeCompletedCandles indexedCandles (countsBy indexedCandles cutoff) =
      completedBy indexedCandles cutoff := by
  unfold materializeCompletedCandles completedBy countsBy closedBy
  rw [take_filter_length horder.oneHour, take_filter_length horder.fourHours,
    take_filter_length horder.oneDay]

/-! ### Removing the candles that close later -/

/-- The candle has closed by the instant; one whose close time is no timestamp is not removed. -/
def closesBy (t : ℤ) (candle : StrategyMarketCandle) : Bool :=
  match parseTimestamp candle.closeTime "closeTime" with
  | .ok timestamp => timestamp.epochNanoseconds ≤ t
  | .error _ => true

/-- The input without the candles that close after the instant. -/
def BuildPositionGuardBacktestFramesInput.upTo (input : BuildPositionGuardBacktestFramesInput)
    (t : ℤ) : BuildPositionGuardBacktestFramesInput :=
  { input with
    oneHourCandles := input.oneHourCandles.filter (closesBy t)
    fourHourCandles := input.fourHourCandles.filter (closesBy t)
    oneDayCandles := input.oneDayCandles.filter (closesBy t) }

/-- The indexed candles that have closed by the instant. -/
def FrameSource.upTo (source : FrameSource) (t : ℤ) : FrameSource :=
  { source with
    indexedCandles :=
      { oneHour := closedBy source.indexedCandles.oneHour t
        fourHours := closedBy source.indexedCandles.fourHours t
        oneDay := closedBy source.indexedCandles.oneDay t } }

theorem indexCandles_filter (candles : List StrategyMarketCandle) (t : ℤ) :
    indexCandles (candles.filter (closesBy t)) =
      (indexCandles candles).map fun indexed => closedBy indexed t := by
  have hmap : (candles.filter (closesBy t)).mapM indexCandle =
      (candles.mapM indexCandle).map
        (List.filter fun indexed => indexed.epochNanoseconds ≤ t) := by
    refine mapM_filter (fun candle indexed h => ?_) (fun candle e h => ?_) candles
    · obtain ⟨timestamp, hparse, rfl⟩ := indexCandle_eq_ok.mp h
      simp only [closesBy, hparse]
      rfl
    · unfold closesBy
      cases hparse : parseTimestamp candle.closeTime "closeTime" with
      | error e' => rfl
      | ok timestamp =>
        rw [indexCandle_eq_ok.mpr ⟨timestamp, hparse, rfl⟩] at h
        cases h
  unfold indexCandles
  rw [hmap]
  cases candles.mapM indexCandle with
  | error e => rfl
  | ok indexed =>
    show Except.ok (sortBy _ (List.filter _ indexed)) = Except.ok (List.filter _ (sortBy _ indexed))
    rw [filter_sortBy]

theorem frameSource_upTo (input : BuildPositionGuardBacktestFramesInput) (t : ℤ) :
    frameSource (input.upTo t) = (frameSource input).map fun source => source.upTo t := by
  unfold frameSource
  simp only [BuildPositionGuardBacktestFramesInput.upTo, indexCandles_filter]
  cases indexCandles input.oneHourCandles with
  | error e => rfl
  | ok oneHour =>
    cases indexCandles input.fourHourCandles with
    | error e => rfl
    | ok fourHours =>
      cases indexCandles input.oneDayCandles with
      | error e => rfl
      | ok oneDay =>
        cases parseBound input.startAt "startAt" with
        | error e => rfl
        | ok start =>
          cases parseBound input.endAt "endAt" with
          | error e => rfl
          | ok finish => rfl

variable {candles : List StrategyMarketCandle} {indexed : List IndexedCandle}

theorem indexCandles_eq_ok (h : indexCandles candles = .ok indexed) :
    SortedBy IndexedCandle.epochNanoseconds indexed ∧
      ∀ entry ∈ indexed, entry.candle ∈ candles ∧ indexCandle entry.candle = .ok entry := by
  unfold indexCandles at h
  obtain ⟨parsed, hparsed, hsorted⟩ := bind_eq_ok.mp h
  rw [← Except.ok.inj hsorted]
  refine ⟨sortedBy_sortBy _ _, fun entry hmem => ?_⟩
  obtain ⟨candle, hcandle, hindex⟩ := mem_of_mapM_eq_ok hparsed ((mem_sortBy _).mp hmem)
  obtain ⟨timestamp, -, rfl⟩ := indexCandle_eq_ok.mp hindex
  exact ⟨hcandle, hindex⟩

/-- The instant at which a candle closes. -/
def closeInstant (candle : StrategyMarketCandle) : ℤ := instant (exactTimestampOf candle.closeTime)

/-- The candles that have closed by the instant, in the order of their close times. -/
def candlesClosedBy (candles : List StrategyMarketCandle) (t : ℤ) : List StrategyMarketCandle :=
  sortBy closeInstant (candles.filter fun candle => closeInstant candle ≤ t)

theorem closeInstant_of_indexCandle {indexed : IndexedCandle}
    (h : indexCandle candle = .ok indexed) :
    indexed.candle = candle ∧ closeInstant candle = indexed.epochNanoseconds := by
  obtain ⟨timestamp, hparse, rfl⟩ := indexCandle_eq_ok.mp h
  refine ⟨rfl, ?_⟩
  have hexact : timestamp.exactTimestamp = exactTimestampOf candle.closeTime := by
    unfold parseTimestamp at hparse
    dsimp only at hparse
    split at hparse
    · cases hparse
    · split_ifs at hparse
      rw [← Except.ok.inj hparse]
  show instant (exactTimestampOf candle.closeTime) = timestamp.epochNanoseconds
  rw [(parseTimestamp_eq_ok hparse).2, hexact]

/-- The closed ones among the indexed candles are those among the candles of the input. -/
theorem map_closedBy (h : indexCandles candles = .ok indexed) (t : ℤ) :
    (closedBy indexed t).map IndexedCandle.candle = candlesClosedBy candles t := by
  unfold indexCandles at h
  obtain ⟨parsed, hparsed, hsorted⟩ := bind_eq_ok.mp h
  have hkey : ∀ entry ∈ parsed, closeInstant entry.candle = entry.epochNanoseconds := by
    intro entry hmem
    obtain ⟨candle, -, hindex⟩ := mem_of_mapM_eq_ok hparsed hmem
    obtain ⟨hcandle, hclose⟩ := closeInstant_of_indexCandle hindex
    rw [hcandle, hclose]
  have hcandles : parsed.map IndexedCandle.candle = candles :=
    map_of_mapM_eq_ok (fun candle entry hindex => (closeInstant_of_indexCandle hindex).1) hparsed
  have hfilter : (parsed.filter fun entry => entry.epochNanoseconds ≤ t).map IndexedCandle.candle =
      candles.filter fun candle => closeInstant candle ≤ t := by
    rw [← hcandles, List.filter_map]
    congr 1
    refine List.filter_congr fun entry hmem => ?_
    simp only [Function.comp, hkey entry hmem]
  unfold closedBy candlesClosedBy
  rw [← Except.ok.inj hsorted, filter_sortBy, ← hfilter]
  refine List.map_insertionSort _ _ _ _ fun a ha b hb => ?_
  rw [hkey a (List.mem_of_mem_filter ha), hkey b (List.mem_of_mem_filter hb)]

variable {input : BuildPositionGuardBacktestFramesInput} {source : FrameSource}

theorem frameSource_eq_ok (h : frameSource input = .ok source) :
    indexCandles input.oneHourCandles = .ok source.indexedCandles.oneHour ∧
      indexCandles input.fourHourCandles = .ok source.indexedCandles.fourHours ∧
      indexCandles input.oneDayCandles = .ok source.indexedCandles.oneDay := by
  unfold frameSource at h
  simp only [bind_eq_ok, Except.ok.injEq] at h
  obtain ⟨oneHour, h1, fourHours, h4, oneDay, hd, start, -, finish, -, rfl⟩ := h
  exact ⟨h1, h4, hd⟩

theorem inOrder_of_frameSource (h : frameSource input = .ok source) :
    InOrder source.indexedCandles := by
  obtain ⟨h1, h4, hd⟩ := frameSource_eq_ok h
  exact ⟨(indexCandles_eq_ok h1).1, (indexCandles_eq_ok h4).1, (indexCandles_eq_ok hd).1⟩

variable {decision : IndexedCandle}

theorem dated_of_frameSource (h : frameSource input = .ok source)
    (hmem : decision ∈ source.indexedCandles.oneHour) : decision.Dated := by
  obtain ⟨h1, -, -⟩ := frameSource_eq_ok h
  obtain ⟨timestamp, hparse, heq⟩ :=
    indexCandle_eq_ok.mp ((indexCandles_eq_ok h1).2 decision hmem).2
  rw [heq]
  exact (parseTimestamp_eq_ok hparse).2

/-! ### The frames by a plain filter -/

section Frames

variable (analyze : PositionGuardMarketSnapshot → PositionGuardStructureAnalysis)
  (input : BuildPositionGuardBacktestFramesInput)

/-- The frame of an hourly candle, from the candles that have closed by then. -/
def plainFrame (source : FrameSource) (decision : IndexedCandle) :
    Option PositionGuardBacktestFrame :=
  if source.excludes decision then none
  else if hasMinimumCompletedCandles (countsBy source.indexedCandles decision.epochNanoseconds)
      input.minimumCompletedCandles then
    some (frameOf analyze input decision
      (completedBy source.indexedCandles decision.epochNanoseconds))
  else none

variable {decisions : List IndexedCandle}

theorem foldl_buildFrame (horder : InOrder source.indexedCandles)
    (hdecisions : SortedBy IndexedCandle.epochNanoseconds decisions) {loop : FrameLoop}
    (hbehind : ∀ decision ∈ decisions, Behind source.indexedCandles
      loop.completedCounts decision.epochNanoseconds) :
    (decisions.foldl (buildFrame analyze input source) loop).frames =
      loop.frames ++ decisions.filterMap (plainFrame analyze input source) := by
  induction decisions generalizing loop with
  | nil => simp
  | cons decision rest ih =>
    obtain ⟨hfirst, hrest⟩ := List.pairwise_cons.mp hdecisions
    rw [List.foldl_cons]
    by_cases hexcluded : source.excludes decision = true
    · have hplain : plainFrame analyze input source decision = none := by
        simp [plainFrame, hexcluded]
      have hstep : buildFrame analyze input source loop decision = loop := by
        simp [buildFrame, hexcluded]
      rw [hstep, ih hrest fun later hmem => hbehind later (List.mem_cons_of_mem _ hmem),
        List.filterMap_cons_none hplain]
    · -- the counters catch up with the candle and stay behind the later ones
      have hcounts := advanceCompletedCounts_eq horder (hbehind decision List.mem_cons_self)
      have hlater : ∀ later ∈ rest, Behind source.indexedCandles
          (countsBy source.indexedCandles decision.epochNanoseconds) later.epochNanoseconds :=
        fun later hmem => behind_countsBy _ (hfirst later hmem)
      by_cases henough : hasMinimumCompletedCandles
          (countsBy source.indexedCandles decision.epochNanoseconds)
          input.minimumCompletedCandles = true
      · have hplain : plainFrame analyze input source decision = some (frameOf analyze input decision
            (completedBy source.indexedCandles decision.epochNanoseconds)) := by
          simp [plainFrame, hexcluded, henough]
        have hstep : buildFrame analyze input source loop decision =
            ⟨countsBy source.indexedCandles decision.epochNanoseconds,
              loop.frames ++ [frameOf analyze input decision
                (completedBy source.indexedCandles decision.epochNanoseconds)]⟩ := by
          simp [buildFrame, hexcluded, hcounts, henough, materialize_countsBy horder]
        rw [hstep, ih hrest hlater, List.filterMap_cons_some hplain]
        simp
      · have hplain : plainFrame analyze input source decision = none := by
          simp [plainFrame, hexcluded, henough]
        have hstep : buildFrame analyze input source loop decision =
            ⟨countsBy source.indexedCandles decision.epochNanoseconds, loop.frames⟩ := by
          simp [buildFrame, hexcluded, hcounts, henough]
        rw [hstep, ih hrest hlater, List.filterMap_cons_none hplain]

theorem foldl_buildFrame_eq (horder : InOrder source.indexedCandles) :
    (source.indexedCandles.oneHour.foldl (buildFrame analyze input source) ⟨⟨0, 0, 0⟩, []⟩).frames =
      source.indexedCandles.oneHour.filterMap (plainFrame analyze input source) := by
  rw [foldl_buildFrame analyze input horder horder.oneHour fun _ _ =>
    ⟨Nat.zero_le _, Nat.zero_le _, Nat.zero_le _⟩, List.nil_append]

theorem buildFrames_eq :
    buildPositionGuardBacktestFrames analyze input = (frameSource input).map fun source =>
      source.indexedCandles.oneHour.filterMap (plainFrame analyze input source) := by
  unfold buildPositionGuardBacktestFrames
  cases h : frameSource input with
  | error e => rfl
  | ok source =>
    rw [ok_bind, foldl_buildFrame_eq analyze input (inOrder_of_frameSource h)]
    rfl

/-- The frame is generated at or before the instant. -/
def generatedBy (t : ℤ) (frame : PositionGuardBacktestFrame) : Bool := instant frame.generatedAt ≤ t

theorem closedBy_closedBy (candles : List IndexedCandle) {cutoff t : ℤ} (h : cutoff ≤ t) :
    closedBy (closedBy candles t) cutoff = closedBy candles cutoff := by
  unfold closedBy
  rw [List.filter_filter]
  refine List.filter_congr fun indexed _ => ?_
  by_cases hc : indexed.epochNanoseconds ≤ cutoff
  · simp [hc, hc.trans h]
  · simp [hc]

theorem plainFrame_upTo (source : FrameSource) {t : ℤ} (h : decision.epochNanoseconds ≤ t) :
    plainFrame analyze (input.upTo t) (source.upTo t) decision =
      plainFrame analyze input source decision := by
  have hcounts : countsBy (source.upTo t).indexedCandles decision.epochNanoseconds =
      countsBy source.indexedCandles decision.epochNanoseconds := by
    simp only [countsBy, FrameSource.upTo, closedBy_closedBy _ h]
  have hcompleted : completedBy (source.upTo t).indexedCandles decision.epochNanoseconds =
      completedBy source.indexedCandles decision.epochNanoseconds := by
    simp only [completedBy, FrameSource.upTo, closedBy_closedBy _ h]
  unfold plainFrame
  rw [hcounts, hcompleted]
  rfl

variable {frame : PositionGuardBacktestFrame}

theorem generatedAt_of_plainFrame (h : plainFrame analyze input source decision = some frame) :
    frame = frameOf analyze input decision
        (completedBy source.indexedCandles decision.epochNanoseconds) ∧
      frame.generatedAt = decision.timestamp.exactTimestamp := by
  unfold plainFrame at h
  split_ifs at h
  rw [← Option.some.inj h]
  exact ⟨rfl, rfl⟩

theorem filterMap_plainFrame_upTo (source : FrameSource)
    (hdated : ∀ decision ∈ decisions, decision.Dated) (t : ℤ) :
    (closedBy decisions t).filterMap (plainFrame analyze (input.upTo t) (source.upTo t)) =
      (decisions.filterMap (plainFrame analyze input source)).filter (generatedBy t) := by
  induction decisions with
  | nil => rfl
  | cons decision rest ih =>
    have hrest := ih fun later hmem => hdated later (List.mem_cons_of_mem _ hmem)
    have hinstant : decision.epochNanoseconds = instant decision.timestamp.exactTimestamp :=
      hdated decision List.mem_cons_self
    have hcons : closedBy (decision :: rest) t = if decision.epochNanoseconds ≤ t then
        decision :: closedBy rest t else closedBy rest t := by
      simp [closedBy, List.filter_cons]
    rw [hcons]
    cases hplain : plainFrame analyze input source decision with
    | none =>
      rw [List.filterMap_cons_none hplain]
      split_ifs with hle
      · rw [List.filterMap_cons_none ((plainFrame_upTo analyze input source hle).trans hplain), hrest]
      · exact hrest
    | some frame =>
      have hgenerated : generatedBy t frame = decide (decision.epochNanoseconds ≤ t) := by
        rw [generatedBy, (generatedAt_of_plainFrame analyze input hplain).2, hinstant]
      rw [List.filterMap_cons_some hplain, List.filter_cons, hgenerated]
      split_ifs with hle hle' hle'
      · rw [List.filterMap_cons_some ((plainFrame_upTo analyze input source hle).trans hplain), hrest]
      · simp [hle] at hle'
      · simp [hle] at hle'
      · exact hrest

theorem buildFrames_upTo (t : ℤ) :
    buildPositionGuardBacktestFrames analyze (input.upTo t) =
      (buildPositionGuardBacktestFrames analyze input).map (List.filter (generatedBy t)) := by
  rw [buildFrames_eq, buildFrames_eq, frameSource_upTo]
  cases h : frameSource input with
  | error e => rfl
  | ok source =>
    have hframes := filterMap_plainFrame_upTo analyze input source
      (fun decision hmem => dated_of_frameSource h hmem) t
    exact congrArg Except.ok hframes

/-- The candles of the input that have closed by the instant. -/
def BuildPositionGuardBacktestFramesInput.completedBy (input : BuildPositionGuardBacktestFramesInput)
    (t : ℤ) : PerTimeframe (List StrategyMarketCandle) where
  oneHour := candlesClosedBy input.oneHourCandles t
  fourHours := candlesClosedBy input.fourHourCandles t
  oneDay := candlesClosedBy input.oneDayCandles t

variable {analyze input} {frames : List PositionGuardBacktestFrame}

/-- Every frame belongs to an hourly candle and is built from the candles that have closed by the
instant at which it is generated. -/
theorem frame_of_mem (h : buildPositionGuardBacktestFrames analyze input = .ok frames)
    (hmem : frame ∈ frames) :
    ∃ candle ∈ input.oneHourCandles, ∃ decision, indexCandle candle = .ok decision ∧
      frame = frameOf analyze input decision (input.completedBy (instant frame.generatedAt)) := by
  rw [buildFrames_eq] at h
  cases hsource : frameSource input with
  | error e => rw [hsource] at h; cases h
  | ok source =>
    rw [hsource] at h
    rw [← Except.ok.inj h] at hmem
    obtain ⟨decision, hdecision, hplain⟩ := List.mem_filterMap.mp hmem
    obtain ⟨h1, h4, hd⟩ := frameSource_eq_ok hsource
    obtain ⟨hcandle, hindex⟩ := (indexCandles_eq_ok h1).2 decision hdecision
    obtain ⟨hframe, hgenerated⟩ := generatedAt_of_plainFrame analyze input hplain
    refine ⟨decision.candle, hcandle, decision, hindex, ?_⟩
    have hinstant : instant frame.generatedAt = decision.epochNanoseconds := by
      rw [hgenerated, dated_of_frameSource hsource hdecision]
    rw [hinstant, hframe]
    unfold BuildPositionGuardBacktestFramesInput.completedBy completedBy
    rw [map_closedBy h1, map_closedBy h4, map_closedBy hd]

theorem sortedBy_frames (h : buildPositionGuardBacktestFrames analyze input = .ok frames) :
    SortedBy (fun frame : PositionGuardBacktestFrame => instant frame.generatedAt) frames := by
  rw [buildFrames_eq] at h
  cases hsource : frameSource input with
  | error e => rw [hsource] at h; cases h
  | ok source =>
    rw [hsource] at h
    rw [← Except.ok.inj h]
    have hsorted := (inOrder_of_frameSource hsource).oneHour
    unfold SortedBy at hsorted ⊢
    rw [List.pairwise_filterMap]
    refine hsorted.imp_of_mem fun {a b} ha hb hle frame hframe frame' hframe' => ?_
    dsimp only
    rw [(generatedAt_of_plainFrame analyze input hframe).2,
      (generatedAt_of_plainFrame analyze input hframe').2,
      ← dated_of_frameSource hsource ha, ← dated_of_frameSource hsource hb]
    exact hle

end Frames

end AutoTrade.Strategy.BacktestFrames
