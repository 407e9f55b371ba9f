import AutoTrade.Lib.Table
import AutoTrade.Performance.CandleDataset
import AutoTrade.Strategy.CompletedCandles

/-! # The candles of a public backtest

`fetchPositionGuardBacktestCandles` pages backwards through the candles of each timeframe: a page is
asked for before the time at which the oldest candle of the last page opened, until a page reaches the
start of the history, is short, or is one too many.

* `fetchPage_spec`: what a page adds, by the way in which it ends.
* `fetchPages_spec`: the pages reach the start of the history exactly when the candles to be paged
  through are fewer than the pages hold.
* `candles_complete`: what is returned, and when it throws. -/

namespace AutoTrade.Strategy.PublicBacktest

open Lib.Result Lib.SortBy Domain.Types
open Domain.IsoDate (DateParser isoDateText inDateRange toISOString)
open Strategy.Core Strategy.Backtest Strategy.BacktestFrames
open Strategy.MarketStructure (newest)
open Strategy.MarketSnapshot (UpbitCandleSnapshot DatedCandle timeframeDurationMs)
open Strategy.CompletedCandles (closeMs ofTimeframe candleAt)
open Performance.CandleDataset (getMarketForAsset timeframeText)

/-! ### The reader and the request -/

structure UpbitGetMinuteCandlesRequest where
  market : SupportedMarket
  unit : ℕ
  count : ℕ
  to' : String

structure UpbitGetDayCandlesRequest where
  market : SupportedMarket
  count : ℕ
  to' : String

structure PositionGuardBacktestCandleReader where
  getMinuteCandles : UpbitGetMinuteCandlesRequest → List UpbitCandleSnapshot
  getDayCandles : UpbitGetDayCandlesRequest → List UpbitCandleSnapshot

structure FetchPositionGuardBacktestCandlesInput where
  asset : SupportedAsset
  historyStartAt : String
  endAt : String
  pageSize : Option ℚ := none
  pageLimit : Option ℚ := none

structure PositionGuardBacktestCandleDataset where
  asset : SupportedAsset
  market : SupportedMarket
  historyStartAt : String
  endAt : String
  pageSize : ℕ
  pageLimit : ℕ
  candleCounts : PerTimeframe ℕ
  candles : PerTimeframe (List StrategyMarketCandle)

/-- `getCandleCounts`. -/
def getCandleCounts (candles : PerTimeframe (List StrategyMarketCandle)) : PerTimeframe ℕ :=
  ⟨candles.oneHour.length, candles.fourHours.length, candles.oneDay.length⟩

def normalizePageSize (pageSize : Option ℚ) : Except String ℕ :=
  let value := pageSize.getD 200
  if value.den ≠ 1 ∨ value < 1 ∨ 200 < value then
    .error "PositionGuard backtest pageSize must be an integer between 1 and 200."
  else .ok value.num.toNat

def normalizePageLimit (pageLimit : Option ℚ) : Except String ℕ :=
  let value := pageLimit.getD 100
  if value.den ≠ 1 ∨ value < 1 then
    .error "PositionGuard backtest pageLimit must be a positive integer."
  else .ok value.num.toNat

/-! ### Times -/

/-- `/(?:Z|[+-]\d\x7b2\x7d:\d\x7b2\x7d)$/`. -/
def endsInTimezone (value : String) : Bool :=
  match value.toList.reverse with
  | 'Z' :: _ => true
  | m :: m' :: ':' :: h :: h' :: sign :: _ =>
    [m, m', h, h'].all Char.isDigit && (sign == '+' || sign == '-')
  | _ => false

/-- The regular expression and `Date.parse` of `toUtcMs`. -/
def utcMs (dates : DateParser) (value : String) : Option ℤ :=
  dates.parse (if endsInTimezone value then value else value ++ "Z")

def toUtcMs (dates : DateParser) (value label : String) : Except String ℤ :=
  match utcMs dates value with
  | some ms => .ok ms
  | none => .error ("Invalid PositionGuard public backtest " ++ label ++ ": " ++ value)

/-- `new Date(ms).toISOString()`, which throws outside the range of dates. -/
def isoString (ms : ℤ) : Except String String :=
  match toISOString ms with
  | some text => .ok text
  | none => .error "Invalid time value"

/-- `toUtcMs` of `position-guard-snapshot.ts`. -/
def dateCandle (dates : DateParser) (snapshot : UpbitCandleSnapshot) : Except String DatedCandle :=
  match utcMs dates snapshot.candleDateTimeUtc with
  | some openMs => .ok ⟨snapshot, openMs⟩
  | none => .error ("Invalid Upbit candle timestamp: " ++ snapshot.candleDateTimeUtc)

def candleWith (market : SupportedMarket) (timeframe : SupportedStrategyTimeframe)
    (snapshot : UpbitCandleSnapshot) (openTime closeTime : String) : StrategyMarketCandle where
  market
  timeframe
  openTime
  closeTime
  openPrice := snapshot.openingPrice
  highPrice := snapshot.highPrice
  lowPrice := snapshot.lowPrice
  closePrice := snapshot.tradePrice
  volume := snapshot.candleAccTradeVolume
  quoteVolume := snapshot.candleAccTradePrice

def toCandle (market : SupportedMarket) (timeframe : SupportedStrategyTimeframe)
    (candle : DatedCandle) : Except String StrategyMarketCandle := do
  let openTime ← isoString candle.openMs
  let closeTime ← isoString (candle.openMs + timeframeDurationMs timeframe)
  .ok (candleWith market timeframe candle.snapshot openTime closeTime)

/-- `normalizeUpbitCandles` over the whole range of dates. -/
def normalizeUpbitCandles (dates : DateParser) (candles : List UpbitCandleSnapshot)
    (market : SupportedMarket) (timeframe : SupportedStrategyTimeframe) :
    Except String (List StrategyMarketCandle) := do
  let dated ← candles.mapM (dateCandle dates)
  (sortBy DatedCandle.openMs dated).mapM (toCandle market timeframe)

/-! ### The pages of a timeframe -/

/-- The input of `fetchTimeframeCandles`. -/
structure TimeframeInput where
  market : SupportedMarket
  timeframe : SupportedStrategyTimeframe
  historyStartAt : String
  historyStartMs : ℤ
  endMs : ℤ
  pageSize : ℕ
  pageLimit : ℕ

/-- The variables of the loop. -/
structure Pages where
  candlesByOpenTime : List StrategyMarketCandle
  to' : String
  reachedHistoryStart : Bool := false
  sourceExhausted : Bool := false
  pagesFetched : ℕ := 0

def fetchRawCandlePage (reader : PositionGuardBacktestCandleReader) (market : SupportedMarket)
    (timeframe : SupportedStrategyTimeframe) (count : ℕ) (to' : String) : List UpbitCandleSnapshot :=
  match timeframe with
  | .oneHour => reader.getMinuteCandles { market, unit := 60, count, to' }
  | .fourHours => reader.getMinuteCandles { market, unit := 240, count, to' }
  | .oneDay => reader.getDayCandles { market, count, to' }

def older (dates : DateParser) (oldest candle : StrategyMarketCandle) :
    Except String StrategyMarketCandle := do
  let ms ← toUtcMs dates candle.openTime "openTime"
  let oldestMs ← toUtcMs dates oldest.openTime "openTime"
  .ok (if ms < oldestMs then candle else oldest)

def getOldestCandle (dates : DateParser) :
    List StrategyMarketCandle → Except String (Option StrategyMarketCandle)
  | [] => .ok none
  | first :: rest => do
    let oldest ← (first :: rest).foldlM (older dates) first
    .ok (some oldest)

/-- A candle of a page, which is kept if it closes in the history. -/
def keepCandle (dates : DateParser) (input : TimeframeInput) (kept : List StrategyMarketCandle)
    (candle : StrategyMarketCandle) : Except String (List StrategyMarketCandle) := do
  let closeMs ← toUtcMs dates candle.closeTime (timeframeText input.timeframe ++ " closeTime")
  .ok (if input.historyStartMs ≤ closeMs ∧ closeMs ≤ input.endMs then
      Lib.Table.upsert StrategyMarketCandle.openTime candle kept
    else kept)

/-- A page, and whether the loop goes on. -/
def fetchPage (dates : DateParser) (reader : PositionGuardBacktestCandleReader)
    (input : TimeframeInput) (pages : Pages) : Except String (Pages × Bool) := do
  let rawCandles :=
    fetchRawCandlePage reader input.market input.timeframe input.pageSize pages.to'
  let pages := { pages with pagesFetched := pages.pagesFetched + 1 }
  if rawCandles.length = 0 then .ok ({ pages with sourceExhausted := true }, false)
  else do
    let normalized ← normalizeUpbitCandles dates rawCandles input.market input.timeframe
    let candlesByOpenTime ← normalized.foldlM (keepCandle dates input) pages.candlesByOpenTime
    let pages := { pages with candlesByOpenTime }
    match ← getOldestCandle dates normalized with
    | none => .ok (pages, false)
    | some oldest => do
      let oldestCloseMs ←
        toUtcMs dates oldest.closeTime (timeframeText input.timeframe ++ " oldest closeTime")
      if oldestCloseMs ≤ input.historyStartMs then
        .ok ({ pages with reachedHistoryStart := true }, false)
      else if rawCandles.length < input.pageSize then
        .ok ({ pages with sourceExhausted := true }, false)
      else if oldest.openTime = pages.to' then
        .error ("PositionGuard backtest " ++ timeframeText input.timeframe ++
          " candle pagination made no progress before historyStartAt " ++ input.historyStartAt ++ ".")
      else .ok ({ pages with to' := oldest.openTime }, true)

/-- The loop, with the number of pages that it may still fetch. -/
def fetchPages (dates : DateParser) (reader : PositionGuardBacktestCandleReader)
    (input : TimeframeInput) : ℕ → Pages → Except String Pages
  | 0, pages => .ok pages
  | left + 1, pages => do
    let (pages, again) ← fetchPage dates reader input pages
    if again then fetchPages dates reader input left pages else .ok pages

def closeOf (dates : DateParser) (candle : StrategyMarketCandle) :
    Except String (StrategyMarketCandle × ℤ) := do
  let closeMs ← toUtcMs dates candle.closeTime "closeTime"
  .ok (candle, closeMs)

def fetchTimeframeCandles (dates : DateParser) (reader : PositionGuardBacktestCandleReader)
    (input : TimeframeInput) : Except String (List StrategyMarketCandle) := do
  let to' ← isoString input.endMs
  let pages ← fetchPages dates reader input input.pageLimit { candlesByOpenTime := [], to' }
  if ¬ pages.reachedHistoryStart ∧ ¬ pages.sourceExhausted ∧
      input.pageLimit ≤ pages.pagesFetched then
    .error ("PositionGuard backtest " ++ timeframeText input.timeframe ++
      " candle coverage did not reach historyStartAt " ++ input.historyStartAt ++
      " before pageLimit=" ++ toString input.pageLimit ++ ".")
  else do
    let closed ← pages.candlesByOpenTime.mapM (closeOf dates)
    .ok ((sortBy Prod.snd closed).map Prod.fst)

/-- The input for a timeframe. -/
abbrev timeframeInput (input : FetchPositionGuardBacktestCandlesInput) (pageSize pageLimit : ℕ)
    (historyStartMs endMs : ℤ) (timeframe : SupportedStrategyTimeframe) : TimeframeInput where
  market := getMarketForAsset input.asset
  timeframe
  historyStartAt := input.historyStartAt
  historyStartMs
  endMs
  pageSize
  pageLimit

def fetchPositionGuardBacktestCandles (dates : DateParser)
    (reader : PositionGuardBacktestCandleReader) (input : FetchPositionGuardBacktestCandlesInput) :
    Except String PositionGuardBacktestCandleDataset := do
  let pageSize ← normalizePageSize input.pageSize
  let pageLimit ← normalizePageLimit input.pageLimit
  let historyStartMs ← toUtcMs dates input.historyStartAt "historyStartAt"
  let endMs ← toUtcMs dates input.endAt "endAt"
  throwIf (endMs < historyStartMs)
    "PositionGuard backtest historyStartAt must be before or equal to endAt."
  let fetch (timeframe : SupportedStrategyTimeframe) := fetchTimeframeCandles dates reader
    (timeframeInput input pageSize pageLimit historyStartMs endMs timeframe)
  let oneHour ← fetch .oneHour
  let fourHours ← fetch .fourHours
  let oneDay ← fetch .oneDay
  let candles : PerTimeframe (List StrategyMarketCandle) := ⟨oneHour, fourHours, oneDay⟩
  let historyStartAt ← isoString historyStartMs
  let endAt ← isoString endMs
  .ok
    { asset := input.asset, market := getMarketForAsset input.asset, historyStartAt, endAt, pageSize
      pageLimit, candleCounts := getCandleCounts candles, candles }

/-! ### What is stored -/

/-- A time of a `Date` whose text is read back. -/
def ReadBack (dates : DateParser) (ms : ℤ) : Prop :=
  inDateRange ms = true ∧ dates.parse (isoDateText ms) = some ms

/-- The stored candles of a timeframe, in time order. They open on its grid, at most one at a point. -/
structure StoredCandles (dates : DateParser) (timeframe : SupportedStrategyTimeframe) where
  candles : List DatedCandle
  dated : ∀ candle ∈ candles, utcMs dates candle.snapshot.candleDateTimeUtc = some candle.openMs
  aligned : ∀ candle ∈ candles, candle.openMs % timeframeDurationMs timeframe = 0
  ordered : candles.Pairwise fun earlier later => earlier.openMs < later.openMs

/-- The returned form of a candle. -/
def candleOf (market : SupportedMarket) (timeframe : SupportedStrategyTimeframe)
    (candle : DatedCandle) : StrategyMarketCandle :=
  candleWith market timeframe candle.snapshot (isoDateText candle.openMs)
    (isoDateText (closeMs timeframe candle))

variable {dates : DateParser} {reader : PositionGuardBacktestCandleReader} {input : TimeframeInput}
  {timeframe : SupportedStrategyTimeframe}

namespace StoredCandles

variable (stored : StoredCandles dates timeframe)

def openedBefore (before : ℤ) : List DatedCandle :=
  stored.candles.filter fun candle => candle.openMs < before

def openedSince (ms : ℤ) : List DatedCandle :=
  stored.candles.filter fun candle => ¬ candle.openMs < ms

/-- The candles that close in the history. -/
def closedIn (historyStartMs endMs : ℤ) : List DatedCandle :=
  stored.candles.filter fun candle =>
    historyStartMs ≤ closeMs timeframe candle ∧ closeMs timeframe candle ≤ endMs

/-- The candles that are paged through before one that closes at the start of the history or earlier. -/
def pagedThrough (historyStartMs before : ℤ) : List DatedCandle :=
  (stored.openedBefore before).filter fun candle => historyStartMs < closeMs timeframe candle

end StoredCandles

/-- The reader answers with the newest candles that opened strictly before the time that it is given,
in whatever order. -/
def Answers (dates : DateParser) (reader : PositionGuardBacktestCandleReader)
    (market : SupportedMarket)
    (stored : (timeframe : SupportedStrategyTimeframe) → StoredCandles dates timeframe) : Prop :=
  ∀ timeframe count to' before, dates.parse to' = some before →
    ∃ answer : List DatedCandle,
      answer.Perm (newest count ((stored timeframe).openedBefore before)) ∧
        fetchRawCandlePage reader market timeframe count to' = answer.map DatedCandle.snapshot

/-! ### Times and their texts -/

section Times

variable {ms : ℤ}

theorem endsInTimezone_isoDateText (ms : ℤ) : endsInTimezone (isoDateText ms) = true := by
  unfold endsInTimezone isoDateText Domain.IsoDate.afterYear
  dsimp only
  rw [String.toList_ofList]
  simp

theorem isoString_of_readBack (h : ReadBack dates ms) : isoString ms = .ok (isoDateText ms) := by
  unfold isoString toISOString
  rw [if_pos h.1]

theorem toUtcMs_of_readBack (h : ReadBack dates ms) (label : String) :
    toUtcMs dates (isoDateText ms) label = .ok ms := by
  unfold toUtcMs utcMs
  rw [if_pos (endsInTimezone_isoDateText ms), h.2]

theorem isoDateText_ne {ms' : ℤ} (h : ReadBack dates ms) (h' : ReadBack dates ms') (hne : ms ≠ ms') :
    isoDateText ms ≠ isoDateText ms' := fun heq =>
  hne (Option.some.inj (h.2.symm.trans ((congrArg dates.parse heq).trans h'.2)))

end Times

/-! ### A page -/

variable {candle : DatedCandle}

section Page

variable {page kept : List DatedCandle}

/-- The times of a candle are read back. -/
def Dated (dates : DateParser) (timeframe : SupportedStrategyTimeframe) (candle : DatedCandle) : Prop :=
  ReadBack dates candle.openMs ∧ ReadBack dates (closeMs timeframe candle)

/-- A page in time order. -/
structure IsPage (dates : DateParser) (timeframe : SupportedStrategyTimeframe)
    (page : List DatedCandle) : Prop where
  ordered : page.Pairwise fun earlier later => earlier.openMs < later.openMs
  dated : ∀ candle ∈ page, Dated dates timeframe candle
  read : ∀ candle ∈ page, utcMs dates candle.snapshot.candleDateTimeUtc = some candle.openMs

theorem toCandle_of_dated (h : Dated dates timeframe candle) (market : SupportedMarket) :
    toCandle market timeframe candle = .ok (candleOf market timeframe candle) := by
  have hclose : isoString (candle.openMs + timeframeDurationMs timeframe) =
      .ok (isoDateText (closeMs timeframe candle)) := isoString_of_readBack h.2
  unfold toCandle
  rw [isoString_of_readBack h.1, ok_bind, hclose]
  rfl

theorem normalize_of_perm {answer : List DatedCandle} (h : IsPage dates timeframe page)
    (hperm : answer.Perm page) (market : SupportedMarket) :
    normalizeUpbitCandles dates (answer.map DatedCandle.snapshot) market timeframe =
      .ok (page.map (candleOf market timeframe)) := by
  have hread : (answer.map DatedCandle.snapshot).mapM (dateCandle dates) = .ok answer := by
    rw [List.mapM_map, @mapM_eq_ok_map _ _ _ _ id answer fun candle hmem => ?_, List.map_id]
    unfold dateCandle
    rw [Function.comp_apply, h.read candle (hperm.subset hmem)]
    rfl
  unfold normalizeUpbitCandles
  rw [hread, ok_bind, sortBy_of_perm _ hperm h.ordered]
  exact mapM_eq_ok_map fun candle hmem => toCandle_of_dated (h.dated candle hmem) market

/-- A candle closes in the history. -/
def inHistory (input : TimeframeInput) (candle : DatedCandle) : Bool :=
  input.historyStartMs ≤ closeMs input.timeframe candle ∧
    closeMs input.timeframe candle ≤ input.endMs

abbrev TimeframeInput.form (input : TimeframeInput) : DatedCandle → StrategyMarketCandle :=
  candleOf input.market input.timeframe

theorem keepCandle_eq (h : Dated dates input.timeframe candle)
    (hkept : ∀ other ∈ kept, ReadBack dates other.openMs ∧ other.openMs ≠ candle.openMs) :
    keepCandle dates input (kept.map input.form) (input.form candle) =
      .ok ((kept ++ [candle].filter (inHistory input)).map input.form) := by
  have hclose : toUtcMs dates (input.form candle).closeTime
      (timeframeText input.timeframe ++ " closeTime") = .ok (closeMs input.timeframe candle) :=
    toUtcMs_of_readBack h.2 _
  have hnone : Lib.Table.select StrategyMarketCandle.openTime (input.form candle).openTime
      (kept.map input.form) = none := by
    unfold Lib.Table.select
    rw [List.find?_eq_none]
    intro other hother
    obtain ⟨dated, hdated, rfl⟩ := List.mem_map.mp hother
    have hne : (input.form dated).openTime ≠ (input.form candle).openTime :=
      isoDateText_ne (hkept dated hdated).1 h.1 (hkept dated hdated).2
    simpa using hne
  unfold keepCandle Lib.Table.upsert
  rw [hclose, ok_bind, hnone]
  by_cases hin : inHistory input candle = true
  · rw [List.filter_cons_of_pos hin, if_pos (of_decide_eq_true hin), List.map_append]
    rfl
  · rw [List.filter_cons_of_neg hin, if_neg fun hp => hin (decide_eq_true hp), List.filter_nil,
      List.append_nil]

theorem foldlM_keepCandle (hpage : IsPage dates input.timeframe page)
    (hkept : ∀ other ∈ kept, ReadBack dates other.openMs ∧
      ∀ candle ∈ page, other.openMs ≠ candle.openMs) :
    (page.map input.form).foldlM (keepCandle dates input) (kept.map input.form) =
      .ok ((kept ++ page.filter (inHistory input)).map input.form) := by
  induction page generalizing kept with
  | nil =>
    rw [List.filter_nil, List.append_nil]
    rfl
  | cons candle rest ih =>
    obtain ⟨hlt, hordered⟩ := List.pairwise_cons.mp hpage.ordered
    have hdated := hpage.dated candle List.mem_cons_self
    have hrest : IsPage dates input.timeframe rest :=
      ⟨hordered, fun c hc => hpage.dated c (List.mem_cons_of_mem _ hc),
        fun c hc => hpage.read c (List.mem_cons_of_mem _ hc)⟩
    have hkept' : ∀ other ∈ kept ++ [candle].filter (inHistory input),
        ReadBack dates other.openMs ∧ ∀ later ∈ rest, other.openMs ≠ later.openMs := by
      intro other hother
      rcases List.mem_append.mp hother with hother | hother
      · exact ⟨(hkept other hother).1, fun later hlater =>
          (hkept other hother).2 later (List.mem_cons_of_mem _ hlater)⟩
      · rw [List.mem_singleton.mp (List.mem_of_mem_filter hother)]
        exact ⟨hdated.1, fun later hlater => (hlt later hlater).ne⟩
    rw [List.map_cons, List.foldlM_cons, keepCandle_eq hdated fun other hother =>
      ⟨(hkept other hother).1, (hkept other hother).2 candle List.mem_cons_self⟩, ok_bind,
      ih hrest hkept', List.append_assoc, ← List.filter_append]
    rfl

theorem getOldestCandle_eq {rest : List DatedCandle}
    (hpage : IsPage dates input.timeframe (candle :: rest)) :
    getOldestCandle dates ((candle :: rest).map input.form) = .ok (some (input.form candle)) := by
  have hfirst := hpage.dated candle List.mem_cons_self
  have hstep : ∀ other : DatedCandle, ReadBack dates other.openMs → candle.openMs ≤ other.openMs →
      older dates (input.form candle) (input.form other) = .ok (input.form candle) := by
    intro other hother hle
    have hopen : toUtcMs dates (input.form other).openTime "openTime" = .ok other.openMs :=
      toUtcMs_of_readBack hother _
    have holdest : toUtcMs dates (input.form candle).openTime "openTime" = .ok candle.openMs :=
      toUtcMs_of_readBack hfirst.1 _
    unfold older
    rw [hopen, ok_bind, holdest, ok_bind, if_neg (not_lt.mpr hle)]
  have hall : ∀ others : List DatedCandle,
      (∀ other ∈ others, ReadBack dates other.openMs ∧ candle.openMs ≤ other.openMs) →
      (others.map input.form).foldlM (older dates) (input.form candle) =
        .ok (input.form candle) := by
    intro others
    induction others with
    | nil => exact fun _ => rfl
    | cons other others ih =>
      intro h
      obtain ⟨hother, hothers⟩ := List.forall_mem_cons.mp h
      rw [List.map_cons, List.foldlM_cons, hstep other hother.1 hother.2, ok_bind, ih hothers]
  have hfold := hall (candle :: rest) fun other hother => by
    refine ⟨(hpage.dated other hother).1, ?_⟩
    rcases List.mem_cons.mp hother with rfl | hother
    · exact le_rfl
    · exact ((List.pairwise_cons.mp hpage.ordered).1 other hother).le
  rw [List.map_cons] at hfold
  rw [List.map_cons, getOldestCandle, hfold]
  rfl

end Page

/-! ### The pages -/

section Loop

variable {stored : StoredCandles dates input.timeframe} {before : ℤ} {kept : List DatedCandle}
  {pages : Pages}

/-- Around one of the stored candles, the candles opened before it and since it. -/
theorem split_at {front rest : List DatedCandle} (h : stored.candles = front ++ candle :: rest) :
    stored.openedBefore candle.openMs = front ∧
      stored.openedSince candle.openMs = candle :: rest := by
  have hordered := stored.ordered
  rw [h] at hordered
  obtain ⟨-, hrest, hfront⟩ := List.pairwise_append.mp hordered
  have hlt : ∀ other ∈ front, other.openMs < candle.openMs := fun other hmem =>
    hfront other hmem candle List.mem_cons_self
  have hle : ∀ other ∈ candle :: rest, ¬ other.openMs < candle.openMs := by
    intro other hmem
    rcases List.mem_cons.mp hmem with rfl | hmem
    · exact lt_irrefl _
    · exact ((List.pairwise_cons.mp hrest).1 other hmem).not_gt
  unfold StoredCandles.openedBefore StoredCandles.openedSince
  rw [h, List.filter_append, List.filter_append,
    List.filter_eq_self.mpr fun other hmem => decide_eq_true (hlt other hmem),
    List.filter_eq_nil_iff.mpr fun other hmem => by simpa using hle other hmem,
    List.filter_eq_nil_iff.mpr fun other hmem => by simpa using hlt other hmem,
    List.filter_eq_self.mpr fun other hmem => decide_eq_true (hle other hmem)]
  exact ⟨List.append_nil _, rfl⟩

theorem before_append_since (stored : StoredCandles dates input.timeframe) (before : ℤ) :
    stored.openedBefore before ++ stored.openedSince before = stored.candles := by
  have hordered := stored.ordered
  unfold StoredCandles.openedBefore StoredCandles.openedSince
  generalize stored.candles = candles at hordered
  induction candles with
  | nil => rfl
  | cons candle rest ih =>
    obtain ⟨hlt, hrest⟩ := List.pairwise_cons.mp hordered
    by_cases h : candle.openMs < before
    · rw [List.filter_cons_of_pos (by simpa using h), List.filter_cons_of_neg (by simpa using h),
        List.cons_append, ih hrest]
    · have hnone : ∀ other ∈ candle :: rest, ¬ other.openMs < before := by
        intro other hmem
        rcases List.mem_cons.mp hmem with rfl | hmem
        · exact h
        · have := hlt other hmem
          omega
      rw [List.filter_eq_nil_iff.mpr fun other hmem => by simpa using hnone other hmem,
        List.filter_eq_self.mpr fun other hmem => decide_eq_true (hnone other hmem), List.nil_append]

/-- The loop has kept the candles of the history that opened since a time, and asks for those before. -/
structure Paged (stored : StoredCandles dates input.timeframe) (before : ℤ)
    (kept : List DatedCandle) (pages : Pages) : Prop where
  to' : pages.to' = isoDateText before
  readBack : ReadBack dates before
  candles : pages.candlesByOpenTime = kept.map input.form
  perm : kept.Perm ((stored.openedSince before).filter (inHistory input))
  dated : ∀ candle ∈ stored.candles, candle.openMs < before → Dated dates input.timeframe candle
  since : ∀ candle ∈ kept, ReadBack dates candle.openMs

/-- The loop with the candles of a page. -/
def withPage (input : TimeframeInput) (kept page : List DatedCandle) (pages : Pages) : Pages :=
  { pages with
    pagesFetched := pages.pagesFetched + 1
    candlesByOpenTime := (kept ++ page.filter (inHistory input)).map input.form }

/-- What a page comes to, given by the candles on it. -/
def pageResult (input : TimeframeInput) (kept page : List DatedCandle) (pages : Pages) :
    Pages × Bool :=
  match page with
  | [] => ({ pages with pagesFetched := pages.pagesFetched + 1, sourceExhausted := true }, false)
  | oldest :: rest =>
    let pages := withPage input kept (oldest :: rest) pages
    if closeMs input.timeframe oldest ≤ input.historyStartMs then
      ({ pages with reachedHistoryStart := true }, false)
    else if (oldest :: rest).length < input.pageSize then
      ({ pages with sourceExhausted := true }, false)
    else ({ pages with to' := isoDateText oldest.openMs }, true)

theorem mem_openedBefore (h : candle ∈ stored.openedBefore before) :
    candle ∈ stored.candles ∧ candle.openMs < before := by
  have := List.mem_filter.mp h
  exact ⟨this.1, of_decide_eq_true this.2⟩

theorem openedBefore_ordered (stored : StoredCandles dates input.timeframe) (before : ℤ) :
    (stored.openedBefore before).Pairwise fun earlier later => earlier.openMs < later.openMs :=
  stored.ordered.sublist List.filter_sublist

variable {answer page front : List DatedCandle}

section

variable (h : Paged stored before kept pages) (hsplit : stored.openedBefore before = front ++ page)
include h hsplit

theorem isPage_of_split : IsPage dates input.timeframe page := by
  have hsub : ∀ candle ∈ page, candle ∈ stored.openedBefore before := fun candle hmem => by
    rw [hsplit]
    exact List.mem_append_right _ hmem
  have hordered := openedBefore_ordered stored before
  rw [hsplit] at hordered
  refine ⟨(List.pairwise_append.mp hordered).2.1, fun candle hmem => ?_, fun candle hmem => ?_⟩
  · obtain ⟨hstored, hlt⟩ := mem_openedBefore (hsub candle hmem)
    exact h.dated candle hstored hlt
  · exact stored.dated candle (mem_openedBefore (hsub candle hmem)).1

/-- **What a page comes to.** -/
theorem fetchPage_spec (hperm : answer.Perm page)
    (hanswer : fetchRawCandlePage reader input.market input.timeframe input.pageSize pages.to' =
      answer.map DatedCandle.snapshot) :
    fetchPage dates reader input pages = .ok (pageResult input kept page pages) := by
  have hlength : (answer.map DatedCandle.snapshot).length = page.length := by
    rw [List.length_map, hperm.length_eq]
  unfold fetchPage
  dsimp only
  rw [hanswer, hlength]
  have hpage := isPage_of_split h hsplit
  cases page with
  | nil => rfl
  | cons oldest rest =>
    have hkept : ∀ other ∈ kept, ReadBack dates other.openMs ∧
        ∀ candle ∈ oldest :: rest, other.openMs ≠ candle.openMs := by
      refine fun other hother => ⟨h.since other hother, fun candle hmem heq => ?_⟩
      have hsince := (List.mem_filter.mp (h.perm.subset hother)).1
      have hnot : ¬ other.openMs < before := of_decide_eq_true (List.mem_filter.mp hsince).2
      have hbefore : candle ∈ stored.openedBefore before :=
        hsplit ▸ List.mem_append_right _ hmem
      have hlt := (mem_openedBefore hbefore).2
      omega
    have holdest := hpage.dated oldest List.mem_cons_self
    have hclose : toUtcMs dates (input.form oldest).closeTime
        (timeframeText input.timeframe ++ " oldest closeTime") =
          .ok (closeMs input.timeframe oldest) := toUtcMs_of_readBack holdest.2 _
    have hbefore : oldest ∈ stored.openedBefore before :=
      hsplit ▸ List.mem_append_right _ List.mem_cons_self
    have hlt := (mem_openedBefore hbefore).2
    have hprogress : (input.form oldest).openTime ≠ pages.to' := by
      rw [h.to']
      exact isoDateText_ne holdest.1 h.readBack hlt.ne
    rw [if_neg (by rw [List.length_cons]; omega), normalize_of_perm hpage hperm, ok_bind, h.candles,
      foldlM_keepCandle hpage hkept, ok_bind, getOldestCandle_eq hpage, ok_bind]
    dsimp only
    rw [hclose, ok_bind, if_neg hprogress]
    unfold pageResult withPage
    dsimp only
    split_ifs <;> rfl

end

/-- **A page before the history has been reached**: the next one is asked for before its oldest
candle. -/
theorem paged_next {oldest : DatedCandle} {rest : List DatedCandle}
    (h : Paged stored before kept pages)
    (hsplit : stored.openedBefore before = front ++ oldest :: rest) :
    stored.openedBefore oldest.openMs = front ∧
      Paged stored oldest.openMs (kept ++ (oldest :: rest).filter (inHistory input))
        { withPage input kept (oldest :: rest) pages with to' := isoDateText oldest.openMs } := by
  have hpage := isPage_of_split h hsplit
  have hall : stored.candles = front ++ oldest :: (rest ++ stored.openedSince before) := by
    rw [← before_append_since stored before, hsplit, List.append_assoc]
    rfl
  obtain ⟨hbefore, hsince⟩ := split_at hall
  have holdest : oldest ∈ stored.openedBefore before :=
    hsplit ▸ List.mem_append_right _ List.mem_cons_self
  have hlt := (mem_openedBefore holdest).2
  refine ⟨hbefore, rfl, (hpage.dated oldest List.mem_cons_self).1, rfl, ?_,
    fun candle hmem hbefore => h.dated candle hmem (hbefore.trans hlt), fun candle hmem => ?_⟩
  · rw [hsince, ← List.cons_append, List.filter_append]
    exact List.perm_append_comm.trans (h.perm.append_left _)
  · rcases List.mem_append.mp hmem with hmem | hmem
    · exact h.since candle hmem
    · exact (hpage.dated candle (List.mem_of_mem_filter hmem)).1

/-- The pages answer with the newest candles before the time they are asked for. -/
def Paging (reader : PositionGuardBacktestCandleReader) (input : TimeframeInput)
    (stored : StoredCandles dates input.timeframe) : Prop :=
  ∀ before, ReadBack dates before → ∃ answer : List DatedCandle,
    answer.Perm (newest input.pageSize (stored.openedBefore before)) ∧
      fetchRawCandlePage reader input.market input.timeframe input.pageSize (isoDateText before) =
        answer.map DatedCandle.snapshot

/-- The loop has kept the candles of the history, and noted that there are no more. -/
def Complete (stored : StoredCandles dates input.timeframe) (done : Pages) : Prop :=
  (done.reachedHistoryStart = true ∨ done.sourceExhausted = true) ∧
    ∃ kept : List DatedCandle, done.candlesByOpenTime = kept.map input.form ∧
      kept.Perm (stored.candles.filter (inHistory input))

theorem perm_of_none_before {done : Pages} (h : Paged stored before kept done)
    (hnone : (stored.openedBefore before).filter (inHistory input) = []) :
    kept.Perm (stored.candles.filter (inHistory input)) := by
  rw [← before_append_since stored before, List.filter_append, hnone, List.nil_append]
  exact h.perm

theorem length_pagedThrough_append (hsplit : stored.openedBefore before = front ++ page) :
    (stored.pagedThrough input.historyStartMs before).length =
      (front.filter fun candle =>
          input.historyStartMs < closeMs input.timeframe candle).length +
        (page.filter fun candle =>
          input.historyStartMs < closeMs input.timeframe candle).length := by
  unfold StoredCandles.pagedThrough
  rw [hsplit, List.filter_append, List.length_append]

/-- The newest candles are a page, and the others stand before it. -/
theorem exists_page (stored : StoredCandles dates input.timeframe) (before : ℤ) :
    ∃ front page, newest input.pageSize (stored.openedBefore before) = page ∧
      stored.openedBefore before = front ++ page ∧
      page.length = min input.pageSize (stored.openedBefore before).length ∧
      front.length = (stored.openedBefore before).length - input.pageSize := by
  refine ⟨(stored.openedBefore before).take ((stored.openedBefore before).length - input.pageSize),
    _, rfl, (List.take_append_drop _ _).symm, ?_, ?_⟩
  · unfold newest
    rw [List.length_drop]
    omega
  · rw [List.length_take]
    omega

section Page

variable {oldest : DatedCandle} {rest : List DatedCandle} (h : Paged stored before kept pages)
  (hsplit : stored.openedBefore before = front ++ oldest :: rest)
include h hsplit

/-- A page that reaches the start of the history holds all that was left of it. -/
theorem complete_of_reached (hreached : closeMs input.timeframe oldest ≤ input.historyStartMs) :
    (stored.pagedThrough input.historyStartMs before).length < (oldest :: rest).length ∧
      (kept ++ (oldest :: rest).filter (inHistory input)).Perm
        (stored.candles.filter (inHistory input)) := by
  have holder := openedBefore_ordered stored before
  rw [hsplit] at holder
  replace holder := (List.pairwise_append.mp holder).2.2
  have hbefore : ∀ candle ∈ front, ¬ input.historyStartMs ≤ closeMs input.timeframe candle := by
    intro candle hmem
    have := holder candle hmem oldest List.mem_cons_self
    unfold closeMs at hreached ⊢
    omega
  obtain ⟨hfront, hnext⟩ := paged_next h hsplit
  constructor
  · have hfrontNone : front.filter (fun candle =>
        decide (input.historyStartMs < closeMs input.timeframe candle)) = [] := by
      rw [List.filter_eq_nil_iff]
      intro candle hmem hlt
      exact hbefore candle hmem (of_decide_eq_true hlt).le
    rw [length_pagedThrough_append hsplit, hfrontNone, List.length_nil, Nat.zero_add,
      List.filter_cons_of_neg (by simpa using hreached), List.length_cons]
    exact Nat.lt_succ_of_le (List.length_filter_le _ _)
  · refine perm_of_none_before hnext ?_
    rw [hfront, List.filter_eq_nil_iff]
    exact fun candle hmem hin => hbefore candle hmem (of_decide_eq_true hin).1

/-- The candles of another page all close after the start of the history. -/
theorem pagedThrough_of_page (hopen : ¬ closeMs input.timeframe oldest ≤ input.historyStartMs) :
    (stored.pagedThrough input.historyStartMs before).length =
      (stored.pagedThrough input.historyStartMs oldest.openMs).length + (oldest :: rest).length := by
  have hordered := (isPage_of_split h hsplit).ordered
  have hpageAll : (oldest :: rest).filter (fun candle =>
      decide (input.historyStartMs < closeMs input.timeframe candle)) = oldest :: rest := by
    rw [List.filter_eq_self]
    intro candle hmem
    rw [decide_eq_true_iff]
    rcases List.mem_cons.mp hmem with rfl | hmem
    · exact not_le.mp hopen
    · have := (List.pairwise_cons.mp hordered).1 candle hmem
      unfold closeMs at hopen ⊢
      omega
  rw [length_pagedThrough_append hsplit, hpageAll]
  unfold StoredCandles.pagedThrough
  rw [(paged_next h hsplit).1]

end Page

/-- **Where the loop ends.** The pages left suffice exactly when they hold more candles than the loop
has yet to page through. -/
theorem fetchPages_spec (hpaging : Paging reader input stored) (hsize : 0 < input.pageSize)
    (left : ℕ) (h : Paged stored before kept pages)
    (hopen : pages.reachedHistoryStart = false ∧ pages.sourceExhausted = false) :
    ∃ done, fetchPages dates reader input left pages = .ok done ∧
      if (stored.pagedThrough input.historyStartMs before).length < left * input.pageSize then
        Complete stored done
      else done.reachedHistoryStart = false ∧ done.sourceExhausted = false ∧
        done.pagesFetched = pages.pagesFetched + left := by
  induction left generalizing before kept pages with
  | zero =>
    refine ⟨pages, rfl, ?_⟩
    rw [if_neg (by omega)]
    exact ⟨hopen.1, hopen.2, rfl⟩
  | succ left ih =>
    obtain ⟨answer, hperm, hanswer⟩ := hpaging before h.readBack
    obtain ⟨front, page, hnewest, hsplit, hlength, htake⟩ := exists_page stored before
    rw [hnewest] at hperm
    have hfetch := fetchPage_spec h hsplit hperm (by rw [h.to']; exact hanswer)
    have hleft : input.pageSize ≤ (left + 1) * input.pageSize :=
      Nat.le_mul_of_pos_left _ (Nat.succ_pos left)
    unfold fetchPages
    rw [hfetch, ok_bind]
    cases page with
    | nil =>
      have hnone : stored.openedBefore before = [] := by
        rw [List.length_nil] at hlength
        exact List.length_eq_zero_iff.mp (by omega)
      have hthrough : stored.pagedThrough input.historyStartMs before = [] := by
        unfold StoredCandles.pagedThrough
        rw [hnone]
        rfl
      refine ⟨_, rfl, ?_⟩
      rw [if_pos (by rw [hthrough, List.length_nil]; omega)]
      exact ⟨Or.inr rfl, kept, h.candles, perm_of_none_before h (by rw [hnone]; rfl)⟩
    | cons oldest rest =>
      by_cases hreached : closeMs input.timeframe oldest ≤ input.historyStartMs
      · obtain ⟨hthrough, hcomplete⟩ := complete_of_reached h hsplit hreached
        refine ⟨_, by unfold pageResult; simp only [if_pos hreached]; rfl, ?_⟩
        rw [if_pos (by omega)]
        exact ⟨Or.inl rfl, _, rfl, hcomplete⟩
      · have hthrough := pagedThrough_of_page h hsplit hreached
        obtain ⟨hfront, hnext⟩ := paged_next h hsplit
        by_cases hshort : (oldest :: rest).length < input.pageSize
        · have hnone : stored.openedBefore oldest.openMs = [] :=
            hfront.trans (List.length_eq_zero_iff.mp (by omega))
          have hnothing : stored.pagedThrough input.historyStartMs oldest.openMs = [] := by
            unfold StoredCandles.pagedThrough
            rw [hnone]
            rfl
          refine ⟨_, by unfold pageResult; simp only [if_neg hreached, if_pos hshort]; rfl, ?_⟩
          rw [if_pos (by rw [hthrough, hnothing, List.length_nil]; omega)]
          exact ⟨Or.inr rfl, _, rfl, perm_of_none_before hnext (by rw [hnone]; rfl)⟩
        · obtain ⟨done, hdone, hspec⟩ := ih hnext hopen
          refine ⟨done, by
            unfold pageResult
            simp only [if_neg hreached, if_neg hshort, hdone, if_true], ?_⟩
          rw [hthrough]
          by_cases hlt : (stored.pagedThrough input.historyStartMs oldest.openMs).length <
              left * input.pageSize
          · rw [if_pos hlt] at hspec
            rw [if_pos (by rw [Nat.succ_mul]; omega)]
            exact hspec
          · rw [if_neg hlt] at hspec
            rw [if_neg (by rw [Nat.succ_mul]; omega)]
            exact ⟨hspec.1, hspec.2.1, by rw [hspec.2.2]; unfold withPage; dsimp only; omega⟩

end Loop

/-! ### The candles of a timeframe -/

section Timeframe

variable {stored : StoredCandles dates input.timeframe}

/-- `Date.parse` reads the times of the stored candles back, as far as they are times of a `Date`. -/
structure TimesReadBack {timeframe : SupportedStrategyTimeframe}
    (stored : StoredCandles dates timeframe) : Prop where
  opens : ∀ candle ∈ stored.candles, ReadBack dates candle.openMs
  closes : ∀ candle ∈ stored.candles, inDateRange (closeMs timeframe candle) = true →
    ReadBack dates (closeMs timeframe candle)

/-- A candle on the grid that opens before a time of a `Date` also closes at one. -/
theorem dated_of_before {timeframe : SupportedStrategyTimeframe}
    {stored : StoredCandles dates timeframe} (h : TimesReadBack stored) {endMs : ℤ}
    (hend : inDateRange endMs = true) (hmem : candle ∈ stored.candles)
    (hlt : candle.openMs < endMs) : Dated dates timeframe candle := by
  have hopen := h.opens candle hmem
  have haligned := stored.aligned candle hmem
  refine ⟨hopen, h.closes candle hmem ?_⟩
  have hfirst := of_decide_eq_true hopen.1
  have hlast := of_decide_eq_true hend
  refine decide_eq_true ?_
  unfold Domain.IsoDate.maxTimeMs at *
  unfold closeMs
  cases timeframe
  all_goals
    simp only [timeframeDurationMs] at haligned ⊢
    omega

theorem openMs_lt_closeMs (timeframe : SupportedStrategyTimeframe) (candle : DatedCandle) :
    candle.openMs < closeMs timeframe candle := by
  unfold closeMs
  cases timeframe <;> simp [timeframeDurationMs]

theorem paged_start (h : TimesReadBack stored) (hend : ReadBack dates input.endMs) :
    Paged stored input.endMs []
      { candlesByOpenTime := [], to' := isoDateText input.endMs } := by
  refine ⟨rfl, hend, rfl, ?_, fun candle hmem hlt => dated_of_before h hend.1 hmem hlt,
    fun candle hmem => by cases hmem⟩
  have hnone : (stored.openedSince input.endMs).filter (inHistory input) = [] := by
    rw [List.filter_eq_nil_iff]
    intro candle hmem hin
    have hsince : ¬ candle.openMs < input.endMs := of_decide_eq_true (List.mem_filter.mp hmem).2
    have hclosed := (of_decide_eq_true hin).2
    have := openMs_lt_closeMs input.timeframe candle
    omega
  rw [hnone]

/-- **The candles of a timeframe.** All that close in the history are returned, in time order, unless
the pages do not suffice. -/
theorem fetchTimeframeCandles_spec (h : TimesReadBack stored) (hend : ReadBack dates input.endMs)
    (hpaging : Paging reader input stored) (hsize : 0 < input.pageSize) :
    if (stored.pagedThrough input.historyStartMs input.endMs).length <
        input.pageLimit * input.pageSize then
      fetchTimeframeCandles dates reader input =
        .ok ((stored.closedIn input.historyStartMs input.endMs).map input.form)
    else ∃ message, fetchTimeframeCandles dates reader input = .error message := by
  obtain ⟨done, hdone, hspec⟩ :=
    fetchPages_spec hpaging hsize input.pageLimit (paged_start h hend) ⟨rfl, rfl⟩
  unfold fetchTimeframeCandles
  rw [isoString_of_readBack hend, ok_bind, hdone, ok_bind]
  by_cases hlt : (stored.pagedThrough input.historyStartMs input.endMs).length <
      input.pageLimit * input.pageSize
  · rw [if_pos hlt] at hspec ⊢
    obtain ⟨hflags, kept, hkept, hperm⟩ := hspec
    have hclosed : done.candlesByOpenTime.mapM (closeOf dates) =
        .ok (kept.map fun candle => (input.form candle, closeMs input.timeframe candle)) := by
      rw [hkept, List.mapM_map]
      refine mapM_eq_ok_map fun candle hmem => ?_
      obtain ⟨hstored, hin⟩ := List.mem_filter.mp (hperm.subset hmem)
      have hopen := (openMs_lt_closeMs input.timeframe candle).trans_le (of_decide_eq_true hin).2
      have hread : toUtcMs dates (input.form candle).closeTime "closeTime" =
          .ok (closeMs input.timeframe candle) :=
        toUtcMs_of_readBack (dated_of_before h hend.1 hstored hopen).2 _
      unfold closeOf
      rw [Function.comp_apply, hread]
      rfl
    have hsorted : ((stored.candles.filter (inHistory input)).map fun candle =>
        (input.form candle, closeMs input.timeframe candle)).Pairwise
          fun earlier later => earlier.2 < later.2 := by
      rw [List.pairwise_map]
      refine (stored.ordered.sublist List.filter_sublist).imp fun hearlier => ?_
      unfold closeMs
      omega
    rw [if_neg (by rcases hflags with hflag | hflag <;> simp [hflag]), hclosed, ok_bind,
      sortBy_of_perm _ (hperm.map _) hsorted, List.map_map]
    rfl
  · rw [if_neg hlt] at hspec ⊢
    rw [if_pos ⟨by simp [hspec.1], by simp [hspec.2.1], by rw [hspec.2.2]; simp⟩]
    exact ⟨_, rfl⟩

end Timeframe

/-! ### The data set -/

/-- The arguments that are accepted, and how they are read. -/
structure Accepted (dates : DateParser) (input : FetchPositionGuardBacktestCandlesInput)
    (pageSize pageLimit : ℕ) (historyStartMs endMs : ℤ) : Prop where
  pageSize : normalizePageSize input.pageSize = .ok pageSize
  pageLimit : normalizePageLimit input.pageLimit = .ok pageLimit
  historyStartAt : toUtcMs dates input.historyStartAt "historyStartAt" = .ok historyStartMs
  endAt : toUtcMs dates input.endAt "endAt" = .ok endMs
  ordered : historyStartMs ≤ endMs

theorem normalizePageSize_pos {given : Option ℚ} {pageSize : ℕ}
    (h : normalizePageSize given = .ok pageSize) : 0 < pageSize := by
  unfold normalizePageSize at h
  dsimp only at h
  obtain ⟨hvalue, hsize⟩ := guard_eq_ok.mp h
  push Not at hvalue
  have hnum : 0 < (given.getD 200).num := Rat.num_pos.mpr (one_pos.trans_le hvalue.2.1)
  rw [← Except.ok.inj hsize]
  omega

/-- `Date.parse` reads the times at hand back: those of the stored candles, and the bounds. -/
structure Reads (dates : DateParser) (input : FetchPositionGuardBacktestCandlesInput)
    (stored : (timeframe : SupportedStrategyTimeframe) → StoredCandles dates timeframe) : Prop where
  bounds : ∀ text ms, text = input.historyStartAt ∨ text = input.endAt →
    utcMs dates text = some ms → ReadBack dates ms
  candles : ∀ timeframe, TimesReadBack (stored timeframe)

theorem utcMs_of_toUtcMs {dates : DateParser} {value label : String} {ms : ℤ}
    (h : toUtcMs dates value label = .ok ms) : utcMs dates value = some ms := by
  unfold toUtcMs at h
  cases hread : utcMs dates value with
  | none => simp [hread] at h
  | some read =>
    rw [hread] at h
    rw [Except.ok.inj h]

section Dataset

variable {input : FetchPositionGuardBacktestCandlesInput}
  {stored : (timeframe : SupportedStrategyTimeframe) → StoredCandles dates timeframe}
  {pageSize pageLimit : ℕ} {historyStartMs endMs : ℤ}

variable (stored) in
/-- For each timeframe, the pages hold more candles than there are to page through. -/
def PagesSuffice (pageSize pageLimit : ℕ) (historyStartMs endMs : ℤ) : Prop :=
  ∀ timeframe, ((stored timeframe).pagedThrough historyStartMs endMs).length < pageLimit * pageSize

/-- With arguments that are accepted, the fetch returns unless the pages of some timeframe do not
suffice. -/
theorem fetch_of_accepted (hreads : Reads dates input stored)
    (hanswers : Answers dates reader (getMarketForAsset input.asset) stored)
    (h : Accepted dates input pageSize pageLimit historyStartMs endMs) :
    (PagesSuffice stored pageSize pageLimit historyStartMs endMs →
      ∃ dataset, fetchPositionGuardBacktestCandles dates reader input = .ok dataset ∧
        ∀ timeframe, ofTimeframe timeframe dataset.candles =
          ((stored timeframe).closedIn historyStartMs endMs).map
            (candleOf (getMarketForAsset input.asset) timeframe)) ∧
    (¬ PagesSuffice stored pageSize pageLimit historyStartMs endMs →
      ∃ message, fetchPositionGuardBacktestCandles dates reader input = .error message) := by
  have hstart := hreads.bounds _ _ (Or.inl rfl) (utcMs_of_toUtcMs h.historyStartAt)
  have hend := hreads.bounds _ _ (Or.inr rfl) (utcMs_of_toUtcMs h.endAt)
  have hspec : ∀ timeframe, _ := fun timeframe =>
    @fetchTimeframeCandles_spec dates reader
      (timeframeInput input pageSize pageLimit historyStartMs endMs timeframe)
      (stored timeframe) (hreads.candles timeframe) hend
      (fun before hbefore => hanswers timeframe pageSize _ before hbefore.2)
      (normalizePageSize_pos h.pageSize)
  have hthrow : throwIf (endMs < historyStartMs)
      "PositionGuard backtest historyStartAt must be before or equal to endAt." = .ok () := by
    rw [throwIf_eq_ok]
    exact not_lt.mpr h.ordered
  unfold fetchPositionGuardBacktestCandles
  dsimp only
  rw [h.pageSize, ok_bind, h.pageLimit, ok_bind, h.historyStartAt, ok_bind, h.endAt, ok_bind,
    hthrow, ok_bind]
  have hfailed := fun timeframe hnot => (if_neg hnot).mp (hspec timeframe)
  have hdone := fun timeframe hlt => (if_pos hlt).mp (hspec timeframe)
  refine ⟨fun hall => ?_, fun hnot => ?_⟩
  · rw [hdone _ (hall .oneHour), ok_bind, hdone _ (hall .fourHours), ok_bind,
      hdone _ (hall .oneDay), ok_bind, isoString_of_readBack hstart, ok_bind,
      isoString_of_readBack hend]
    refine ⟨_, rfl, fun timeframe => ?_⟩
    cases timeframe with
    | oneHour => rfl
    | fourHours => rfl
    | oneDay => rfl
  · -- The first timeframe whose pages do not suffice is the one that throws.
    by_cases hhour : ((stored .oneHour).pagedThrough historyStartMs endMs).length <
        pageLimit * pageSize
    · rw [hdone _ hhour, ok_bind]
      by_cases hfour : ((stored .fourHours).pagedThrough historyStartMs endMs).length <
          pageLimit * pageSize
      · rw [hdone _ hfour, ok_bind]
        obtain ⟨message, hmessage⟩ := hfailed .oneDay fun hday => hnot fun timeframe => by
          cases timeframe with
          | oneHour => exact hhour
          | fourHours => exact hfour
          | oneDay => exact hday
        exact ⟨message, by rw [hmessage]; rfl⟩
      · obtain ⟨message, hmessage⟩ := hfailed .fourHours hfour
        exact ⟨message, by rw [hmessage]; rfl⟩
    · obtain ⟨message, hmessage⟩ := hfailed .oneHour hhour
      exact ⟨message, by rw [hmessage]; rfl⟩

theorem accepted_of_ok {dataset : PositionGuardBacktestCandleDataset}
    (h : fetchPositionGuardBacktestCandles dates reader input = .ok dataset) :
    ∃ pageSize pageLimit historyStartMs endMs,
      Accepted dates input pageSize pageLimit historyStartMs endMs := by
  obtain ⟨pageSize, hsize, h⟩ := bind_eq_ok.mp h
  obtain ⟨pageLimit, hlimit, h⟩ := bind_eq_ok.mp h
  obtain ⟨historyStartMs, hstart, h⟩ := bind_eq_ok.mp h
  obtain ⟨endMs, hend, h⟩ := bind_eq_ok.mp h
  obtain ⟨hthrow, -⟩ := then_eq_ok.mp h
  exact ⟨_, _, _, _, hsize, hlimit, hstart, hend, not_lt.mp (throwIf_eq_ok.mp hthrow)⟩

end Dataset

/-- **Paging is complete.** What is returned are, for each timeframe, exactly the stored candles that
close in the history, in time order; and the fetch returns unless it refuses its arguments or the pages
of a timeframe hold only candles that close after the start of the history. -/
theorem candles_complete (dates : DateParser) (reader : PositionGuardBacktestCandleReader)
    (input : FetchPositionGuardBacktestCandlesInput)
    (stored : (timeframe : SupportedStrategyTimeframe) → StoredCandles dates timeframe)
    (hreads : Reads dates input stored)
    (hanswers : Answers dates reader (getMarketForAsset input.asset) stored) :
    (∀ dataset pageSize pageLimit historyStartMs endMs,
      fetchPositionGuardBacktestCandles dates reader input = .ok dataset →
      Accepted dates input pageSize pageLimit historyStartMs endMs →
      ∀ timeframe, ofTimeframe timeframe dataset.candles =
        ((stored timeframe).closedIn historyStartMs endMs).map
          (candleOf (getMarketForAsset input.asset) timeframe)) ∧
    ((∃ dataset, fetchPositionGuardBacktestCandles dates reader input = .ok dataset) ↔
      ∃ pageSize pageLimit historyStartMs endMs,
        Accepted dates input pageSize pageLimit historyStartMs endMs ∧
        PagesSuffice stored pageSize pageLimit historyStartMs endMs) := by
  refine ⟨fun dataset pageSize pageLimit historyStartMs endMs hok haccepted => ?_, ?_, ?_⟩
  · obtain ⟨hdone, hfailed⟩ := fetch_of_accepted hreads hanswers haccepted
    by_cases hall : PagesSuffice stored pageSize pageLimit historyStartMs endMs
    · obtain ⟨dataset', hok', hcandles⟩ := hdone hall
      rw [hok] at hok'
      rw [Except.ok.inj hok']
      exact hcandles
    · obtain ⟨message, hmessage⟩ := hfailed hall
      rw [hok] at hmessage
      cases hmessage
  · rintro ⟨dataset, hok⟩
    obtain ⟨pageSize, pageLimit, historyStartMs, endMs, haccepted⟩ := accepted_of_ok hok
    refine ⟨pageSize, pageLimit, historyStartMs, endMs, haccepted, ?_⟩
    by_contra hnot
    obtain ⟨message, hmessage⟩ := (fetch_of_accepted hreads hanswers haccepted).2 hnot
    rw [hok] at hmessage
    cases hmessage
  · rintro ⟨pageSize, pageLimit, historyStartMs, endMs, haccepted, hall⟩
    obtain ⟨dataset, hok, -⟩ := (fetch_of_accepted hreads hanswers haccepted).1 hall
    exact ⟨dataset, hok⟩

/-! ### Two hours -/

open Domain.IsoDate (FourDigitYear)

theorem readBack_timestamps {ms : ℤ} (h : FourDigitYear ms) : ReadBack DateParser.timestamps ms := by
  refine ⟨decide_eq_true ?_, DateParser.timestamps.parse_isoDateText h⟩
  unfold FourDigitYear Domain.IsoDate.firstYearMs Domain.IsoDate.lateYearMs at h
  unfold Domain.IsoDate.maxTimeMs
  omega

/-- The hours of 2026-01-01 that open at 00:00 and at 01:00. -/
def twoHours (timeframe : SupportedStrategyTimeframe) :
    StoredCandles DateParser.timestamps timeframe where
  candles := match timeframe with
    | .oneHour => [candleAt 1767225600000, candleAt 1767229200000]
    | .fourHours | .oneDay => []
  dated := by cases timeframe <;> decide +kernel
  aligned := by cases timeframe <;> decide +kernel
  ordered := by cases timeframe <;> decide +kernel

def twoHoursReader : PositionGuardBacktestCandleReader where
  getMinuteCandles request :=
    match request.unit, DateParser.timestamps.parse request.to' with
    | 60, some before =>
      (newest request.count ((twoHours .oneHour).openedBefore before)).map DatedCandle.snapshot
    | _, _ => []
  getDayCandles _ := []

/-- The two hours, a candle a page. The second page ends on the start of the history. -/
def twoHoursInput (pageSize : ℚ) : FetchPositionGuardBacktestCandlesInput where
  asset := .btc
  historyStartAt := "2026-01-01T01:00:00Z"
  endAt := "2026-01-01T02:00:00Z"
  pageSize := some pageSize
  pageLimit := some 2

theorem twoHours_reads (pageSize : ℚ) :
    Reads DateParser.timestamps (twoHoursInput pageSize) twoHours := by
  have hyears : ∀ timeframe, ∀ candle ∈ (twoHours timeframe).candles,
      FourDigitYear candle.openMs ∧ FourDigitYear (closeMs timeframe candle) := by
    intro timeframe
    cases timeframe <;> decide +kernel
  refine ⟨fun text ms htext hread => readBack_timestamps ?_, fun timeframe =>
    ⟨fun candle hmem => readBack_timestamps (hyears timeframe candle hmem).1,
      fun candle hmem _ => readBack_timestamps (hyears timeframe candle hmem).2⟩⟩
  have hstart : utcMs DateParser.timestamps "2026-01-01T01:00:00Z" = some 1767229200000 := by
    decide +kernel
  have hend : utcMs DateParser.timestamps "2026-01-01T02:00:00Z" = some 1767232800000 := by
    decide +kernel
  rcases htext with rfl | rfl
  · rw [← Option.some.inj (hstart.symm.trans hread)]
    decide
  · rw [← Option.some.inj (hend.symm.trans hread)]
    decide

theorem twoHoursReader_answers : Answers DateParser.timestamps twoHoursReader .krwBtc twoHours := by
  intro timeframe count to' before hbefore
  refine ⟨_, List.Perm.refl _, ?_⟩
  cases timeframe with
  | oneHour => simp only [fetchRawCandlePage, twoHoursReader, hbefore]
  | fourHours =>
    simp [fetchRawCandlePage, twoHoursReader, twoHours, StoredCandles.openedBefore, newest]
  | oneDay =>
    simp [fetchRawCandlePage, twoHoursReader, twoHours, StoredCandles.openedBefore, newest]

theorem candles_complete_two_hours :
    ∃ dataset, fetchPositionGuardBacktestCandles DateParser.timestamps twoHoursReader
        (twoHoursInput 1) = .ok dataset ∧
      dataset.candles.oneHour =
        [candleAt 1767225600000, candleAt 1767229200000].map (candleOf .krwBtc .oneHour) := by
  have haccepted : Accepted DateParser.timestamps (twoHoursInput 1) 1 2 1767229200000
      1767232800000 :=
    ⟨by decide +kernel, by decide +kernel, by decide +kernel, by decide +kernel, by decide⟩
  obtain ⟨hexact, hreturns⟩ := candles_complete DateParser.timestamps twoHoursReader
    (twoHoursInput 1) twoHours (twoHours_reads 1) twoHoursReader_answers
  obtain ⟨dataset, hok⟩ := hreturns.mpr ⟨_, _, _, _, haccepted, by
    intro timeframe
    cases timeframe <;> decide +kernel⟩
  refine ⟨dataset, hok, (hexact dataset _ _ _ _ hok haccepted .oneHour).trans ?_⟩
  exact congrArg _ (by decide +kernel)

/-- A page size of zero is refused, however few the candles. -/
theorem page_size_refused :
    ¬ ∀ (dates : DateParser) (reader : PositionGuardBacktestCandleReader)
      (input : FetchPositionGuardBacktestCandlesInput)
      (stored : (timeframe : SupportedStrategyTimeframe) → StoredCandles dates timeframe),
      Reads dates input stored → Answers dates reader (getMarketForAsset input.asset) stored →
      ∀ message, fetchPositionGuardBacktestCandles dates reader input = .error message →
        ∃ pageSize pageLimit historyStartMs endMs,
          Accepted dates input pageSize pageLimit historyStartMs endMs ∧
          ¬ PagesSuffice stored pageSize pageLimit historyStartMs endMs := by
  intro h
  obtain ⟨pageSize, _, _, _, haccepted, -⟩ := h DateParser.timestamps twoHoursReader
    (twoHoursInput 0) twoHours (twoHours_reads 0) twoHoursReader_answers _ rfl
  have hzero := haccepted.pageSize
  unfold normalizePageSize at hzero
  dsimp only at hzero
  exact (guard_eq_ok.mp hzero).1 (Or.inr (Or.inl (by decide)))

end AutoTrade.Strategy.PublicBacktest
