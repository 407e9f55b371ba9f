import AutoTrade.Strategy.MarketSnapshot

/-! # The candles of a decision

The snapshot asks for the newest candles before the last boundary of the timeframe, so what it gets are
the newest candles that have closed by the time it is fetched (`candles_of_fetch`). The analysis then
filters them once more, by the time of the last trade, and drops the newest one if no trade has
happened since it closed (`decision_candles_iff`).

* `dateParse_toISOString`: a time is read back from its text.
* `completed_eq`: on the grid of a timeframe, opening before the boundary is having closed. -/

namespace AutoTrade.Strategy.CompletedCandles

open Lib.Result Lib.SortBy Lib.Text Domain.Types
open Domain.Timestamp Strategy.Backtest
open Strategy.BacktestFrames Strategy.MarketStructure
open Strategy.MarketSnapshot

/-! ### Times and their texts -/

/-- The first millisecond of the year 10000. -/
def endOfFourDigitYearsMs : ℤ := 253402300800000

theorem dateParse_of_scan {text : String} {fields : Fields} (h : scan text = some fields)
    (hrange : fields.inCandidateRange = true) :
    dateParse text = some (fields.epochSeconds * 1000 + fields.fractionNanoseconds / 1000000) := by
  unfold dateParse
  rw [h]
  dsimp only
  rw [if_pos hrange]

theorem exactTimestampOf_of_scan {text : String} {fields : Fields} (h : scan text = some fields) :
    exactTimestampOf text = text := by
  unfold exactTimestampOf
  rw [h]
  rfl

theorem scan_toISOString {ms : ℤ} (hyear : yearOfDay (dayOfSeconds (ms / 1000).toNat) ≤ 9999) :
    scan (toISOString ms) =
      some (fieldsOf (ms / 1000).toNat ((ms % 1000).toNat * 1000000)) := by
  have hlt : (ms % 1000).toNat < 1000 := by omega
  rw [toISOString, scan_isoText_rest hyear (scanFraction_milliseconds hlt)]

/-- **A time is read back from its text.** -/
theorem toUtcMs_toISOString {ms : ℤ} (h0 : 0 ≤ ms) (h : ms < endOfFourDigitYearsMs) :
    dateParse (toISOString ms) = some ms ∧ toUtcMs (toISOString ms) = some ms := by
  unfold endOfFourDigitYearsMs at h
  have hyear : ¬ 9999 < yearOfDay (dayOfSeconds (ms / 1000).toNat) := by
    rw [yearOfDay_seconds_iff]
    omega
  have hscan := scan_toISOString (not_lt.mp hyear)
  have hparse : dateParse (toISOString ms) = some ms := by
    have hfraction : (fieldsOf (ms / 1000).toNat ((ms % 1000).toNat * 1000000)).fractionNanoseconds =
        (ms % 1000).toNat * 1000000 := rfl
    rw [dateParse_of_scan hscan (inCandidateRange_fieldsOf _ _), epochSeconds_fieldsOf, hfraction,
      Option.some.injEq]
    push_cast
    omega
  refine ⟨hparse, ?_⟩
  rw [toUtcMs, exactTimestampOf_of_scan hscan, hparse]

/-! ### Histories and readers -/

/-- The candles of a timeframe, in time order. They open on the grid of the timeframe, at most one at
each point of it. -/
structure CandleHistory (timeframe : SupportedStrategyTimeframe) where
  candles : List DatedCandle
  dated : ∀ candle ∈ candles, requireUtcMs candle.snapshot.candleDateTimeUtc = .ok candle.openMs
  since1970 : ∀ candle ∈ candles, 0 ≤ candle.openMs
  aligned : ∀ candle ∈ candles, candle.openMs % timeframeDurationMs timeframe = 0
  ordered : candles.Pairwise fun earlier later => earlier.openMs < later.openMs

def closeMs (timeframe : SupportedStrategyTimeframe) (candle : DatedCandle) : ℤ :=
  candle.openMs + timeframeDurationMs timeframe

/-- The newest `count` candles that opened strictly before a time. -/
def CandleHistory.openedBefore {timeframe : SupportedStrategyTimeframe}
    (history : CandleHistory timeframe) (count : ℕ) (before : ℤ) : List DatedCandle :=
  newest count (history.candles.filter fun candle => candle.openMs < before)

/-- The newest `count` candles that have closed by a time. -/
def CandleHistory.closedBy {timeframe : SupportedStrategyTimeframe}
    (history : CandleHistory timeframe) (count : ℕ) (ms : ℤ) : List DatedCandle :=
  newest count (history.candles.filter fun candle => closeMs timeframe candle ≤ ms)

/-- The reader answers with the newest candles before the time it is given, in whatever order. -/
def Answers (reader : PositionGuardPublicMarketDataReader) (market : SupportedMarket)
    (history : (timeframe : SupportedStrategyTimeframe) → CandleHistory timeframe) : Prop :=
  ∀ timeframe count time before, dateParse time = some before →
    ∃ answer : List DatedCandle, answer.Perm ((history timeframe).openedBefore count before) ∧
      reader.getCandles market timeframe count time = answer.map DatedCandle.snapshot

variable {timeframe : SupportedStrategyTimeframe} {history : CandleHistory timeframe} {count : ℕ}
  {market : SupportedMarket} {candle : DatedCandle} {fetchedAtMs : ℤ}

theorem newest_sublist {α : Type} (count : ℕ) (values : List α) :
    List.Sublist (newest count values) values := List.drop_sublist _ _

theorem openMs_lt_boundary_iff (h : candle ∈ history.candles) :
    candle.openMs < fetchedAtMs / timeframeDurationMs timeframe * timeframeDurationMs timeframe ↔
      closeMs timeframe candle ≤ fetchedAtMs := by
  have haligned := history.aligned candle h
  unfold closeMs
  cases timeframe
  all_goals
    simp only [timeframeDurationMs] at haligned ⊢
    omega

theorem completed_eq (history : CandleHistory timeframe) (count : ℕ) (fetchedAtMs : ℤ) :
    history.openedBefore count
        (fetchedAtMs / timeframeDurationMs timeframe * timeframeDurationMs timeframe) =
      history.closedBy count fetchedAtMs := by
  unfold CandleHistory.openedBefore CandleHistory.closedBy
  congr 1
  refine List.filter_congr fun candle hmem => ?_
  rw [decide_eq_decide]
  exact openMs_lt_boundary_iff hmem

theorem mem_of_newest {α : Type} {values : List α} {value : α} (h : value ∈ newest count values) :
    value ∈ values := (newest_sublist _ _).subset h

theorem mem_closedBy (h : candle ∈ history.closedBy count fetchedAtMs) :
    candle ∈ history.candles ∧ closeMs timeframe candle ≤ fetchedAtMs := by
  have hmem := List.mem_filter.mp (mem_of_newest h)
  simpa using hmem

theorem closedBy_ordered (history : CandleHistory timeframe) (count : ℕ) (fetchedAtMs : ℤ) :
    (history.closedBy count fetchedAtMs).Pairwise
      fun earlier later => earlier.openMs < later.openMs :=
  history.ordered.sublist ((newest_sublist _ _).trans List.filter_sublist)

/-! ### What is fetched -/

/-- Candles that are dated and of different times come back dated and in time order. -/
theorem normalize_of_perm {answer dated : List DatedCandle} (hperm : answer.Perm dated)
    (hdated : ∀ candle ∈ dated,
      requireUtcMs candle.snapshot.candleDateTimeUtc = .ok candle.openMs)
    (hordered : dated.Pairwise fun earlier later => earlier.openMs < later.openMs) :
    normalizeUpbitCandles (answer.map DatedCandle.snapshot) market timeframe =
      .ok (dated.map (DatedCandle.toCandle market timeframe)) := by
  have hread : ∀ candles : List DatedCandle, (∀ candle ∈ candles,
      requireUtcMs candle.snapshot.candleDateTimeUtc = .ok candle.openMs) →
      (candles.map DatedCandle.snapshot).mapM dateCandle = .ok candles := by
    intro candles
    induction candles with
    | nil => exact fun _ => rfl
    | cons candle rest ih =>
      intro h
      rw [List.map_cons, List.mapM_cons, dateCandle, h candle List.mem_cons_self, ok_bind, ok_bind,
        ih fun other hmem => h other (List.mem_cons_of_mem _ hmem)]
      rfl
  unfold normalizeUpbitCandles
  rw [hread answer fun candle hmem => hdated candle (hperm.subset hmem), ok_bind,
    sortBy_of_perm _ hperm hordered]

def ofTimeframe {α : Type} (timeframe : SupportedStrategyTimeframe) (values : PerTimeframe α) : α :=
  match timeframe with
  | .oneHour => values.oneHour
  | .fourHours => values.fourHours
  | .oneDay => values.oneDay

/-- The candles of a timeframe that have closed by a time. -/
def completedCandles (market : SupportedMarket) (history : CandleHistory timeframe) (count : ℕ)
    (ms : ℤ) : List StrategyMarketCandle :=
  (history.closedBy count ms).map (DatedCandle.toCandle market timeframe)

section Fetched

variable {reader : PositionGuardPublicMarketDataReader} {fetchedAt : String}
  {ticker : UpbitTickerSnapshot}
  {histories : (timeframe : SupportedStrategyTimeframe) → CandleHistory timeframe}

theorem normalize_answer (hanswers : Answers reader market histories) (h0 : 0 ≤ fetchedAtMs)
    (hend : fetchedAtMs < endOfFourDigitYearsMs) (timeframe : SupportedStrategyTimeframe) :
    normalizeUpbitCandles (reader.getCandles market timeframe count
        (candleTo fetchedAtMs none timeframe)) market timeframe =
      .ok (completedCandles market (histories timeframe) count fetchedAtMs) := by
  have hboundary : 0 ≤ fetchedAtMs / timeframeDurationMs timeframe * timeframeDurationMs timeframe ∧
      fetchedAtMs / timeframeDurationMs timeframe * timeframeDurationMs timeframe ≤ fetchedAtMs := by
    cases timeframe
    all_goals
      simp only [timeframeDurationMs]
      omega
  have hto := (toUtcMs_toISOString hboundary.1 (hboundary.2.trans_lt hend)).1
  obtain ⟨answer, hperm, hget⟩ := hanswers timeframe count _ _ hto
  rw [completed_eq] at hperm
  have hsub : ∀ candle ∈ (histories timeframe).closedBy count fetchedAtMs,
      candle ∈ (histories timeframe).candles := fun candle hmem => (mem_closedBy hmem).1
  show normalizeUpbitCandles (reader.getCandles market timeframe count
    (toISOString _)) market timeframe = _
  rw [hget]
  exact normalize_of_perm hperm
    (fun candle hmem => (histories timeframe).dated candle (hsub candle hmem))
    (closedBy_ordered _ _ _)

/-- **The fetched candles are the newest ones that have closed by the time of the fetch.** -/
theorem candles_of_fetch (hanswers : Answers reader market histories)
    (hfetched : dateParse fetchedAt = some fetchedAtMs) (h0 : 0 ≤ fetchedAtMs)
    (hend : fetchedAtMs < endOfFourDigitYearsMs)
    (hticker : (reader.getTickers market).find? (fun ticker => ticker.market = market) =
      some ticker) :
    ∃ snapshot, fetchPositionGuardMarketSnapshot reader market fetchedAt count none = .ok snapshot ∧
      snapshot.ticker.exchangeTimestampMs = some ticker.tradeTimestamp ∧
      ∀ timeframe, (ofTimeframe timeframe snapshot.timeframes).candles =
        completedCandles market (histories timeframe) count fetchedAtMs := by
  have hms : fetchedAtMsOf fetchedAt none = .ok fetchedAtMs := by
    unfold fetchedAtMsOf
    rw [hfetched]
  unfold fetchPositionGuardMarketSnapshot buildPositionGuardMarketSnapshot
  rw [hms, ok_bind, hticker]
  dsimp only
  rw [normalize_answer hanswers h0 hend .oneHour, ok_bind,
    normalize_answer hanswers h0 hend .fourHours, ok_bind,
    normalize_answer hanswers h0 hend .oneDay, ok_bind]
  refine ⟨_, rfl, rfl, fun timeframe => ?_⟩
  cases timeframe with
  | oneHour => rfl
  | fourHours => rfl
  | oneDay => rfl

end Fetched

/-! ### What is decided on -/

/-- The candles on which the analysis computes for a timeframe. -/
def decisionCandles (snapshot : PositionGuardMarketSnapshot)
    (timeframe : SupportedStrategyTimeframe) : List StrategyMarketCandle :=
  getDecisionCandles snapshot timeframe (ofTimeframe timeframe snapshot.timeframes).candles

/-- The candles that have closed by the time of the last trade, unless they are fewer than five. -/
theorem getDecisionCandles_eq {snapshot : PositionGuardMarketSnapshot} {tradeMs : ℤ}
    (htrade : snapshot.ticker.exchangeTimestampMs = some tradeMs) {candles : List DatedCandle}
    (hclose : ∀ candle ∈ candles, 0 ≤ closeMs timeframe candle ∧
      closeMs timeframe candle < endOfFourDigitYearsMs) :
    getDecisionCandles snapshot timeframe (candles.map (DatedCandle.toCandle market timeframe)) =
      if 5 ≤ (candles.filter fun candle => closeMs timeframe candle ≤ tradeMs).length then
        (candles.filter fun candle => closeMs timeframe candle ≤ tradeMs).map
          (DatedCandle.toCandle market timeframe)
      else candles.map (DatedCandle.toCandle market timeframe) := by
  have hcutoff : getSnapshotDecisionCutoffMs snapshot = some tradeMs := by
    unfold getSnapshotDecisionCutoffMs
    rw [htrade]
    rfl
  have hfilter : (candles.map (DatedCandle.toCandle market timeframe)).filter (fun candle =>
      (toUtcMs candle.closeTime).any fun closeMs => closeMs ≤ tradeMs) =
        (candles.filter fun candle => closeMs timeframe candle ≤ tradeMs).map
          (DatedCandle.toCandle market timeframe) := by
    rw [List.filter_map]
    refine congrArg (List.map _) (List.filter_congr fun candle hmem => ?_)
    obtain ⟨hnonneg, hend⟩ := hclose candle hmem
    have hread : toUtcMs (DatedCandle.toCandle market timeframe candle).closeTime =
        some (closeMs timeframe candle) := (toUtcMs_toISOString hnonneg hend).2
    rw [Function.comp_apply, hread, Option.any_some]
  have hfew : min (lookback timeframe) 5 = 5 := by cases timeframe <;> rfl
  unfold getDecisionCandles
  rw [hcutoff]
  dsimp only
  rw [hfilter, hfew, List.length_map]

/-- The newest candle has closed by the time of the last trade, or so few of the candles have that the
filter is not applied. -/
def TradedSince (timeframe : SupportedStrategyTimeframe) (candles : List DatedCandle) (tradeMs : ℤ) :
    Prop :=
  (∀ last ∈ candles.getLast?, closeMs timeframe last ≤ tradeMs) ∨
    (candles.filter fun candle => closeMs timeframe candle ≤ tradeMs).length < 5

instance (timeframe : SupportedStrategyTimeframe) (candles : List DatedCandle) (tradeMs : ℤ) :
    Decidable (TradedSince timeframe candles tradeMs) := by
  unfold TradedSince
  infer_instance

section

variable {candles : List DatedCandle}
  (hordered : candles.Pairwise fun earlier later => earlier.openMs < later.openMs)
include hordered

theorem all_closed_iff {tradeMs : ℤ} :
    (∀ last ∈ candles.getLast?, closeMs timeframe last ≤ tradeMs) ↔
      ∀ candle ∈ candles, closeMs timeframe candle ≤ tradeMs := by
  constructor
  · intro hlast candle hmem
    rcases List.eq_nil_or_concat' candles with rfl | ⟨init, last, rfl⟩
    · cases hmem
    · have hle := hlast last (by rw [List.getLast?_concat]; rfl)
      rcases List.mem_append.mp hmem with hmem | hmem
      · have hlt := (List.pairwise_append.mp hordered).2.2 candle hmem last
          (List.mem_singleton_self last)
        unfold closeMs at hle ⊢
        omega
      · rw [List.mem_singleton.mp hmem]
        exact hle
  · exact fun hall last hlast => hall last (List.mem_of_getLast? hlast)

theorem decision_eq_iff {tradeMs : ℤ} :
    (if 5 ≤ (candles.filter fun candle => closeMs timeframe candle ≤ tradeMs).length then
        (candles.filter fun candle => closeMs timeframe candle ≤ tradeMs).map
          (DatedCandle.toCandle market timeframe)
      else candles.map (DatedCandle.toCandle market timeframe)) =
        candles.map (DatedCandle.toCandle market timeframe) ↔
      TradedSince timeframe candles tradeMs := by
  unfold TradedSince
  rw [all_closed_iff hordered]
  split_ifs with hmany
  · constructor
    · intro heq
      have hlength := congrArg List.length heq
      rw [List.length_map, List.length_map, List.length_filter_eq_length_iff] at hlength
      exact Or.inl fun candle hmem => of_decide_eq_true (hlength candle hmem)
    · rintro (hall | hfew)
      · rw [List.filter_eq_self.mpr fun candle hmem => decide_eq_true (hall candle hmem)]
      · omega
  · exact iff_of_true rfl (Or.inr (not_le.mp hmany))

end

/-- **The decision is made on exactly the completed candles when a trade has happened since the newest of
them closed**, and otherwise only when fewer than five of them have closed by the last trade. A candle
in progress is never used. -/
theorem decision_candles_iff (reader : PositionGuardPublicMarketDataReader)
    (market : SupportedMarket) (fetchedAt : String) (candleCount : ℕ)
    (histories : (timeframe : SupportedStrategyTimeframe) → CandleHistory timeframe)
    (hanswers : Answers reader market histories) (fetchedAtMs : ℤ)
    (hfetched : dateParse fetchedAt = some fetchedAtMs) (h0 : 0 ≤ fetchedAtMs)
    (hend : fetchedAtMs < endOfFourDigitYearsMs) (ticker : UpbitTickerSnapshot)
    (hticker : (reader.getTickers market).find? (fun ticker => ticker.market = market) =
      some ticker) :
    ∃ snapshot,
      fetchPositionGuardMarketSnapshot reader market fetchedAt candleCount none = .ok snapshot ∧
      ∀ timeframe,
        (∀ candle ∈ decisionCandles snapshot timeframe,
          candle ∈ completedCandles market (histories timeframe) candleCount fetchedAtMs) ∧
        (decisionCandles snapshot timeframe =
            completedCandles market (histories timeframe) candleCount fetchedAtMs ↔
          TradedSince timeframe ((histories timeframe).closedBy candleCount fetchedAtMs)
            ticker.tradeTimestamp) := by
  obtain ⟨snapshot, hok, htrade, hcandles⟩ :=
    candles_of_fetch hanswers hfetched h0 hend hticker
  refine ⟨snapshot, hok, fun timeframe => ?_⟩
  have hclose : ∀ candle ∈ (histories timeframe).closedBy candleCount fetchedAtMs,
      0 ≤ closeMs timeframe candle ∧ closeMs timeframe candle < endOfFourDigitYearsMs := by
    intro candle hmem
    obtain ⟨hmem, hle⟩ := mem_closedBy hmem
    have hopen := (histories timeframe).since1970 candle hmem
    refine ⟨?_, hle.trans_lt hend⟩
    unfold closeMs
    omega
  have hdecision := @getDecisionCandles_eq timeframe market snapshot _ htrade _ hclose
  unfold decisionCandles
  rw [hcandles timeframe]
  unfold completedCandles
  rw [hdecision]
  refine ⟨fun candle hmem => ?_, decision_eq_iff (closedBy_ordered _ _ _)⟩
  split_ifs at hmem
  · obtain ⟨dated, hdated, rfl⟩ := List.mem_map.mp hmem
    exact List.mem_map_of_mem (List.mem_of_mem_filter hdated)
  · exact hmem

/-! ### A quiet hour -/

/-- A candle that opens at the time. -/
def candleAt (openMs : ℤ) : DatedCandle where
  snapshot :=
    { candleDateTimeUtc := toISOString openMs, openingPrice := 100, highPrice := 110, lowPrice := 90
      tradePrice := 100, candleAccTradeVolume := 1, candleAccTradePrice := 100 }
  openMs

/-- Six hours up to 2026-01-02T01:00. -/
def sixHours : CandleHistory .oneHour where
  candles := [candleAt 1767294000000, candleAt 1767297600000, candleAt 1767301200000,
    candleAt 1767304800000, candleAt 1767308400000, candleAt 1767312000000]
  dated := by decide +kernel
  since1970 := by decide +kernel
  aligned := by decide +kernel
  ordered := by decide +kernel

def noCandles (timeframe : SupportedStrategyTimeframe) : CandleHistory timeframe where
  candles := []
  dated := fun _ h => by cases h
  since1970 := fun _ h => by cases h
  aligned := fun _ h => by cases h
  ordered := List.Pairwise.nil

def hourlyOnly : (timeframe : SupportedStrategyTimeframe) → CandleHistory timeframe
  | .oneHour => sixHours
  | .fourHours => noCandles .fourHours
  | .oneDay => noCandles .oneDay

def tradedAt (tradeTimestamp : ℤ) : UpbitTickerSnapshot := ⟨.krwBtc, 100, tradeTimestamp⟩

/-- A reader of the six hours, with the last trade at the time. -/
def hourlyReader (tradeTimestamp : ℤ) : PositionGuardPublicMarketDataReader where
  getTickers _ := [tradedAt tradeTimestamp]
  getCandles _ timeframe count time :=
    match dateParse time with
    | some before => ((hourlyOnly timeframe).openedBefore count before).map DatedCandle.snapshot
    | none => []

theorem hourlyReader_answers (tradeTimestamp : ℤ) (market : SupportedMarket) :
    Answers (hourlyReader tradeTimestamp) market hourlyOnly := by
  intro timeframe count time before hbefore
  refine ⟨_, List.Perm.refl _, ?_⟩
  simp only [hourlyReader, hbefore]

/-- Fetched at 01:00:05, with the last trade at 01:00:02. -/
theorem decision_candles_after_trade :
    ∃ snapshot, fetchPositionGuardMarketSnapshot (hourlyReader 1767315602000) .krwBtc
        "2026-01-02T01:00:05.000Z" 200 none = .ok snapshot ∧
      decisionCandles snapshot .oneHour =
        completedCandles .krwBtc sixHours 200 1767315605000 := by
  obtain ⟨snapshot, hok, hall⟩ := decision_candles_iff (hourlyReader 1767315602000) .krwBtc
    "2026-01-02T01:00:05.000Z" 200 hourlyOnly (hourlyReader_answers _ _) 1767315605000
    (by decide +kernel) (by decide) (by decide) (tradedAt 1767315602000) (by decide +kernel)
  exact ⟨snapshot, hok, (hall .oneHour).2.mpr (by decide +kernel)⟩

/-- Fetched at 01:00:05, with the last trade at 00:59:30: the hour that has just closed is dropped. -/
theorem last_hour_dropped :
    ¬ ∀ (reader : PositionGuardPublicMarketDataReader) (market : SupportedMarket)
      (fetchedAt : String) (candleCount : ℕ)
      (histories : (timeframe : SupportedStrategyTimeframe) → CandleHistory timeframe)
      (fetchedAtMs : ℤ) (ticker : UpbitTickerSnapshot), Answers reader market histories →
      dateParse fetchedAt = some fetchedAtMs → 0 ≤ fetchedAtMs →
      fetchedAtMs < endOfFourDigitYearsMs →
      (reader.getTickers market).find? (fun ticker => ticker.market = market) = some ticker →
      ticker.tradeTimestamp ≤ fetchedAtMs →
      ∃ snapshot,
        fetchPositionGuardMarketSnapshot reader market fetchedAt candleCount none = .ok snapshot ∧
        ∀ timeframe, decisionCandles snapshot timeframe =
          completedCandles market (histories timeframe) candleCount fetchedAtMs := by
  intro h
  obtain ⟨snapshot, hok, hall⟩ := h (hourlyReader 1767315570000) .krwBtc "2026-01-02T01:00:05.000Z"
    200 hourlyOnly 1767315605000 (tradedAt 1767315570000) (hourlyReader_answers _ _)
    (by decide +kernel) (by decide) (by decide) (by decide +kernel) (by decide)
  have hdropped : (match fetchPositionGuardMarketSnapshot (hourlyReader 1767315570000) .krwBtc
      "2026-01-02T01:00:05.000Z" 200 none with
    | .ok snapshot => decide (decisionCandles snapshot .oneHour =
        completedCandles .krwBtc sixHours 200 1767315605000)
    | .error _ => true) = false := by decide +kernel
  rw [hok] at hdropped
  exact absurd (hall .oneHour) (of_decide_eq_false hdropped)

end AutoTrade.Strategy.CompletedCandles
