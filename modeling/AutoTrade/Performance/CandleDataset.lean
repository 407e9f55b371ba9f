import AutoTrade.Strategy.BacktestFrames

/-! # Research candle datasets

`parseResearchCandleDataset` of `research-candle-dataset.ts` on what `JSON.stringify` writes of a
dataset: the key sets and the types of the fields hold, what is checked are the values. The digest of
the canonical JSON is a parameter.

`accepted_of_parse`: the candles of each timeframe of an accepted dataset have the length of the
timeframe, lie in the range of the dataset and follow one another. -/

namespace AutoTrade.Performance.CandleDataset

open Lib.Text Lib.Result Domain.Types Domain.Timestamp
open Strategy.Core Strategy.Backtest Strategy.BacktestFrames
open Performance.Timestamp

/-! ### Records -/

/-- `ResearchDatasetProvenance` without its checksum; the schema version is single-valued. -/
structure ProvenanceBody where
  asset : SupportedAsset
  market : SupportedMarket
  historyStartAt : String
  endAt : String
  collectedAt : String
  source : String

structure ResearchDatasetProvenance extends ProvenanceBody where
  sha256 : String

/-- `ResearchCandle` has the fields of a strategy candle. -/
abbrev ResearchCandle := StrategyMarketCandle

structure ResearchCandleDataset where
  provenance : ResearchDatasetProvenance
  candles : PerTimeframe (List ResearchCandle)

/-- `ResearchCandleDatasetWithoutChecksum`. -/
structure ResearchCandleDatasetWithoutChecksum where
  provenance : ProvenanceBody
  candles : PerTimeframe (List ResearchCandle)

def ResearchCandleDataset.body (dataset : ResearchCandleDataset) :
    ResearchCandleDatasetWithoutChecksum :=
  ⟨dataset.provenance.toProvenanceBody, dataset.candles⟩

/-! ### Texts -/

def getMarketForAsset : SupportedAsset → SupportedMarket
  | .btc => .krwBtc
  | .eth => .krwEth

def timeframeText : SupportedStrategyTimeframe → String
  | .oneHour => "1h"
  | .fourHours => "4h"
  | .oneDay => "1d"

/-- `TIMEFRAME_DURATION_NANOSECONDS`. -/
def timeframeDurationNanoseconds : SupportedStrategyTimeframe → ℤ
  | .oneHour => 3600000000000
  | .fourHours => 14400000000000
  | .oneDay => 86400000000000

/-- `TIMEFRAME_DURATION_LABEL`. -/
def timeframeDurationLabel : SupportedStrategyTimeframe → String
  | .oneHour => "1 hour"
  | .fourHours => "4 hours"
  | .oneDay => "24 hours"

/-- `^[a-f0-9]{64}$`. -/
def isSha256Hex (text : String) : Bool :=
  text.toList.length = 64 ∧
    text.toList.all fun c => c.isDigit ∨ (97 ≤ c.toNat ∧ c.toNat ≤ 102)

/-! ### The parser -/

def datasetError (text : String) : String := "Research candle dataset " ++ text

def requireDatasetTimestamp (value label : String) : Except String ℤ :=
  requireTimestamp value (datasetError (label ++ " must be an explicit-timezone ISO timestamp."))

/-- `parseProvenance`, up to the checksum: the instants of the range. -/
def parseProvenance (provenance : ProvenanceBody) : Except String (ℤ × ℤ) := do
  throwIf (provenance.market ≠ getMarketForAsset provenance.asset)
    (datasetError ("market must be " ++ (getMarketForAsset provenance.asset).text ++ " for " ++
      assetText provenance.asset ++ "."))
  let historyStartAt ← requireDatasetTimestamp provenance.historyStartAt "historyStartAt"
  let endAt ← requireDatasetTimestamp provenance.endAt "endAt"
  let collectedAt ← requireDatasetTimestamp provenance.collectedAt "collectedAt"
  throwIf (endAt ≤ historyStartAt)
    (datasetError "provenance historyStartAt must be before endAt.")
  throwIf (collectedAt < endAt) (datasetError "provenance collectedAt must be at or after endAt.")
  throwIf (isBlank provenance.source = true)
    (datasetError "provenance source must be a non-empty string.")
  .ok (historyStartAt, endAt)

/-- The instants between which a candle is open. -/
structure CandleInstants where
  openTime : ℤ
  closeTime : ℤ

section Group

variable (timeframe : SupportedStrategyTimeframe) (asset : SupportedAsset) (market : SupportedMarket)
  (historyStart end_ : ℤ)

/-- The prices and the volumes of a candle. -/
def checkCandleNumbers (label : String) (candle : ResearchCandle) : Except String Unit := do
  let positive (value : ℚ) (field : String) : Except String Unit :=
    throwIf (value ≤ 0) (label ++ "." ++ field ++ " must be a finite positive number.")
  let nonNegative (value : ℚ) (field : String) : Except String Unit :=
    throwIf (value < 0) (label ++ "." ++ field ++ " must be a finite non-negative number.")
  positive candle.openPrice "openPrice"
  positive candle.highPrice "highPrice"
  positive candle.lowPrice "lowPrice"
  positive candle.closePrice "closePrice"
  throwIf (candle.openPrice < candle.lowPrice ∨ candle.closePrice < candle.lowPrice)
    (label ++ " lowPrice must be less than or equal to openPrice and closePrice.")
  throwIf (candle.highPrice < candle.openPrice ∨ candle.highPrice < candle.closePrice)
    (label ++ " openPrice and closePrice must be less than or equal to highPrice.")
  nonNegative candle.volume "volume"
  nonNegative candle.quoteVolume "quoteVolume"

/-- The turn of `parseCandleGroup` for a candle after the one of the instants `previous`. -/
def parseCandle (index : ℕ) (previous : Option CandleInstants) (candle : ResearchCandle) :
    Except String CandleInstants := do
  let label := timeframeText timeframe ++ "[" ++ toString index ++ "]"
  throwIf (candle.market ≠ market)
    (datasetError (label ++ " market must be " ++ market.text ++ " for " ++ assetText asset ++ "."))
  throwIf (candle.timeframe ≠ timeframe)
    (datasetError (label ++ " timeframe must be " ++ timeframeText timeframe ++ "."))
  let openTime ← requireDatasetTimestamp candle.openTime (label ++ ".openTime")
  let closeTime ← requireDatasetTimestamp candle.closeTime (label ++ ".closeTime")
  throwIf (closeTime ≤ openTime) (datasetError (label ++ " openTime must be before closeTime."))
  throwIf (closeTime - openTime ≠ timeframeDurationNanoseconds timeframe)
    (datasetError (label ++ " duration must be exactly " ++ timeframeDurationLabel timeframe ++ "."))
  throwIf (openTime < historyStart ∨ end_ < closeTime)
    (datasetError (label ++ " must be within the provenance history range."))
  throwIf (previous.any fun p => openTime ≤ p.openTime ∨ closeTime ≤ p.closeTime)
    (datasetError (timeframeText timeframe ++ " candles must be strictly ordered by instant."))
  checkCandleNumbers (datasetError label) candle
  .ok ⟨openTime, closeTime⟩

def parseCandlesFrom : ℕ → Option CandleInstants → List ResearchCandle →
    Except String (List CandleInstants)
  | _, _, [] => .ok []
  | index, previous, candle :: rest => do
    let instants ← parseCandle timeframe asset market historyStart end_ index previous candle
    let later ← parseCandlesFrom (index + 1) (some instants) rest
    .ok (instants :: later)

/-- `parseCandleGroup`, which returns the candles as they are: here their instants. -/
def parseCandleGroup (candles : List ResearchCandle) : Except String (List CandleInstants) :=
  parseCandlesFrom timeframe asset market historyStart end_ 0 none candles

end Group

def parseCandles (candles : PerTimeframe (List ResearchCandle)) (provenance : ProvenanceBody)
    (historyStart end_ : ℤ) : Except String (PerTimeframe (List CandleInstants)) := do
  let group := fun timeframe =>
    parseCandleGroup timeframe provenance.asset provenance.market historyStart end_
  let oneHour ← group .oneHour candles.oneHour
  let fourHours ← group .fourHours candles.fourHours
  let oneDay ← group .oneDay candles.oneDay
  .ok ⟨oneHour, fourHours, oneDay⟩

section Checksum

variable (sha256 : ResearchCandleDatasetWithoutChecksum → String)

/-- The dataset has to pass again before its digest is taken. -/
def calculateResearchCandleDatasetChecksum (dataset : ResearchCandleDatasetWithoutChecksum) :
    Except String String := do
  let range ← parseProvenance dataset.provenance
  let _ ← parseCandles dataset.candles dataset.provenance range.1 range.2
  .ok (sha256 dataset)

def parseResearchCandleDataset (dataset : ResearchCandleDataset) :
    Except String ResearchCandleDataset := do
  let range ← parseProvenance dataset.provenance.toProvenanceBody
  throwIf (isSha256Hex dataset.provenance.sha256 = false)
    (datasetError "provenance sha256 must be a lowercase SHA-256 hex digest.")
  let _ ← parseCandles dataset.candles dataset.provenance.toProvenanceBody range.1 range.2
  let expectedChecksum ← calculateResearchCandleDatasetChecksum sha256 dataset.body
  throwIf (dataset.provenance.sha256 ≠ expectedChecksum)
    (datasetError "checksum does not match declared sha256.")
  .ok dataset

end Checksum

/-! ### What an accepted dataset is -/

/-- The candles of a timeframe with their instants. -/
structure GroupOk (timeframe : SupportedStrategyTimeframe) (historyStart end_ : ℤ)
    (candles : List ResearchCandle) (instants : List CandleInstants) : Prop where
  denotes : List.Forall₂ (fun candle i => Denotes candle.openTime i.openTime ∧
    Denotes candle.closeTime i.closeTime) candles instants
  duration : ∀ i ∈ instants, i.closeTime = i.openTime + timeframeDurationNanoseconds timeframe
  inside : ∀ i ∈ instants, historyStart ≤ i.openTime ∧ i.closeTime ≤ end_
  sorted : (instants.map (·.openTime)).Pairwise (· < ·)

/-- What is known of an accepted dataset. -/
structure Accepted (dataset : ResearchCandleDataset) (historyStart end_ : ℤ)
    (instants : PerTimeframe (List CandleInstants)) : Prop where
  market : dataset.provenance.market = getMarketForAsset dataset.provenance.asset
  historyStartAt : Denotes dataset.provenance.historyStartAt historyStart
  endAt : Denotes dataset.provenance.endAt end_
  nonempty : historyStart < end_
  sha256 : isSha256Hex dataset.provenance.sha256 = true
  oneHour : GroupOk .oneHour historyStart end_ dataset.candles.oneHour instants.oneHour
  fourHours : GroupOk .fourHours historyStart end_ dataset.candles.fourHours instants.fourHours
  oneDay : GroupOk .oneDay historyStart end_ dataset.candles.oneDay instants.oneDay

variable {timeframe : SupportedStrategyTimeframe} {previous : Option CandleInstants}
  {market : SupportedMarket} {asset : SupportedAsset} {historyStart end_ : ℤ}

theorem parseCandle_eq_ok {index : ℕ} {candle : ResearchCandle} {i : CandleInstants}
    (h : parseCandle timeframe asset market historyStart end_ index previous candle = .ok i) :
    (Denotes candle.openTime i.openTime ∧ Denotes candle.closeTime i.closeTime) ∧
      i.closeTime = i.openTime + timeframeDurationNanoseconds timeframe ∧
      (historyStart ≤ i.openTime ∧ i.closeTime ≤ end_) ∧
      ∀ p ∈ previous, p.openTime < i.openTime := by
  unfold parseCandle requireDatasetTimestamp at h
  dsimp only at h
  obtain ⟨-, h⟩ := then_eq_ok.mp h
  obtain ⟨-, h⟩ := then_eq_ok.mp h
  obtain ⟨openTime, hopen, h⟩ := requireTimestamp_bind.mp h
  obtain ⟨closeTime, hclose, h⟩ := requireTimestamp_bind.mp h
  simp only [then_eq_ok, throwIf_eq_ok] at h
  obtain ⟨-, hduration, hrange, horder, -, hi⟩ := h
  rw [← Except.ok.inj hi]
  dsimp only
  refine ⟨⟨hopen, hclose⟩, by omega, by omega, fun p hp => ?_⟩
  rw [Option.mem_def.mp hp] at horder
  simp only [Option.any_some, decide_eq_true_eq] at horder
  omega

theorem groupOk_of_parseFrom {candles : List ResearchCandle} {index : ℕ}
    {instants : List CandleInstants}
    (h : parseCandlesFrom timeframe asset market historyStart end_ index previous candles =
      .ok instants) :
    GroupOk timeframe historyStart end_ candles instants ∧
      ∀ p ∈ previous, ∀ i ∈ instants, p.openTime < i.openTime := by
  induction candles generalizing index previous instants with
  | nil =>
    rw [parseCandlesFrom] at h
    rw [← Except.ok.inj h]
    exact ⟨⟨List.Forall₂.nil, by simp, by simp, List.Pairwise.nil⟩, by simp⟩
  | cons candle rest ih =>
    rw [parseCandlesFrom, bind_eq_ok] at h
    obtain ⟨i, hi, h⟩ := h
    obtain ⟨later, hlater, h⟩ := bind_eq_ok.mp h
    obtain ⟨hdenotes, hduration, hinside, hafter⟩ := parseCandle_eq_ok hi
    obtain ⟨hgroup, hnext⟩ := ih hlater
    have hnext := hnext i rfl
    rw [← Except.ok.inj h]
    refine ⟨⟨List.Forall₂.cons hdenotes hgroup.denotes, ?_, ?_, ?_⟩, fun p hp j hj => ?_⟩
    · exact List.forall_mem_cons.mpr ⟨hduration, hgroup.duration⟩
    · exact List.forall_mem_cons.mpr ⟨hinside, hgroup.inside⟩
    · refine List.pairwise_cons.mpr ⟨fun t ht => ?_, hgroup.sorted⟩
      obtain ⟨j, hj, rfl⟩ := List.mem_map.mp ht
      exact hnext j hj
    · have hp := hafter p hp
      rcases List.mem_cons.mp hj with rfl | hj
      · exact hp
      · exact hp.trans (hnext j hj)

theorem parseProvenance_eq_ok {provenance : ProvenanceBody} {range : ℤ × ℤ}
    (h : parseProvenance provenance = .ok range) :
    provenance.market = getMarketForAsset provenance.asset ∧
      Denotes provenance.historyStartAt range.1 ∧ Denotes provenance.endAt range.2 ∧
      range.1 < range.2 := by
  unfold parseProvenance requireDatasetTimestamp at h
  obtain ⟨hmarket, h⟩ := then_eq_ok.mp h
  obtain ⟨historyStart, hstart, h⟩ := requireTimestamp_bind.mp h
  obtain ⟨end_, hend, h⟩ := requireTimestamp_bind.mp h
  obtain ⟨collected, -, h⟩ := requireTimestamp_bind.mp h
  simp only [then_eq_ok, throwIf_eq_ok, not_not, not_le] at h hmarket
  obtain ⟨hlt, -, -, hrange⟩ := h
  rw [← Except.ok.inj hrange]
  exact ⟨hmarket, hstart, hend, hlt⟩

/-- **An accepted dataset is returned as it is, and its candles fill hours of its range in order.** -/
theorem accepted_of_parse {sha256 : ResearchCandleDatasetWithoutChecksum → String}
    {dataset parsed : ResearchCandleDataset}
    (h : parseResearchCandleDataset sha256 dataset = .ok parsed) :
    parsed = dataset ∧ ∃ historyStart end_ instants, Accepted dataset historyStart end_ instants := by
  unfold parseResearchCandleDataset at h
  obtain ⟨range, hrange, h⟩ := bind_eq_ok.mp h
  obtain ⟨hmarket, hstart, hend, hlt⟩ := parseProvenance_eq_ok hrange
  rw [then_eq_ok, throwIf_eq_ok] at h
  obtain ⟨hsha, h⟩ := h
  obtain ⟨instants, hcandles, h⟩ := bind_eq_ok.mp h
  obtain ⟨checksum, -, h⟩ := bind_eq_ok.mp h
  rw [then_eq_ok] at h
  refine ⟨(Except.ok.inj h.2).symm, range.1, range.2, instants, ?_⟩
  unfold parseCandles parseCandleGroup at hcandles
  dsimp only at hcandles
  obtain ⟨oneHour, honeHour, hcandles⟩ := bind_eq_ok.mp hcandles
  obtain ⟨fourHours, hfourHours, hcandles⟩ := bind_eq_ok.mp hcandles
  obtain ⟨oneDay, honeDay, hcandles⟩ := bind_eq_ok.mp hcandles
  rw [← Except.ok.inj hcandles]
  exact
    { market := hmarket
      historyStartAt := hstart
      endAt := hend
      nonempty := hlt
      sha256 := by simpa using hsha
      oneHour := (groupOk_of_parseFrom honeHour).1
      fourHours := (groupOk_of_parseFrom hfourHours).1
      oneDay := (groupOk_of_parseFrom honeDay).1 }

end AutoTrade.Performance.CandleDataset
