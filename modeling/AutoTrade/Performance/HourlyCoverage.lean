import AutoTrade.Lib.Intervals
import AutoTrade.Performance.StampTexts

/-! # Verified no-trade coverage of hours

`performance-hourly-coverage.ts`: the hours of a source boundary in which nothing was observed, as
ranges with the neighbours they were found between, and the partition of a window of the boundary
into observed hours and hours without a trade. Hours are counted from the start of the boundary and
named by texts. -/

namespace AutoTrade.Performance.HourlyCoverage

open Lib.Result Lib.Intervals Domain.Timestamp
open Performance.Timestamp Performance.StampTexts

/-! ### Records -/

structure HourlyObservedInterval where
  openTime : String
  closeTime : String

/-- `CandleCoverageGap` of `performance-candle-coverage.ts`. -/
structure CandleCoverageGap where
  firstMissingCloseTime : String
  lastMissingCloseTime : String
  missingCandleCount : ℤ
  previousObservedCloseTime : Option String
  nextObservedCloseTime : Option String
  deriving DecidableEq

structure SourceBoundary where
  historyStartAt : String
  endAt : String
  deriving DecidableEq

/-- `VerifiedNoTradeCoverage` without its single-valued fields. -/
structure VerifiedNoTradeCoverage where
  sourceBoundary : SourceBoundary
  ranges : List CandleCoverageGap
  deriving DecidableEq

structure HourlyCoveragePartition where
  fromAt : String
  toAt : String
  expectedIntervalCount : ℤ
  observedIntervalCount : ℕ
  verifiedNoTradeIntervalCount : ℕ
  unexplainedMissingIntervalCount : ℕ
  observedIntervals : List String
  verifiedNoTradeIntervals : List String
  verifiedNoTradeRanges : List CandleCoverageGap
  unexplainedMissingIntervals : List String

structure ParsedRange where
  source : CandleCoverageGap
  firstClose : ℤ
  lastClose : ℤ

theorem hourNanoseconds_pos : 0 < hourNanoseconds := by decide

/-! ### Checks -/

def requireCoverageTimestamp (value label : String) : Except String ℤ :=
  requireTimestamp value (label ++ " must be an exact ISO-8601 timestamp with an explicit timezone.")

def requireHourAlignment (value anchor : ℤ) (label : String) : Except String Unit :=
  throwIf ((value - anchor).tmod hourNanoseconds ≠ 0)
    (label ++ " must be aligned to an exact hour from sourceBoundary historyStartAt.")

/-- `Number.isSafeInteger`. -/
def isSafeInteger (n : ℤ) : Bool := -9007199254740991 ≤ n ∧ n ≤ 9007199254740991

def intervalKey (opening close : ℤ) : Except String String := do
  let fromAt ← formatNanoseconds opening
  let toAt ← formatNanoseconds close
  .ok (fromAt ++ "/" ++ toAt)

/-- The instants of the window and of the boundary. -/
structure CoverageWindow where
  start : ℤ
  stop : ℤ
  historyStart : ℤ
  sourceEnd : ℤ

def CoverageWindow.intervalCount (w : CoverageWindow) : ℤ := (w.stop - w.start).tdiv hourNanoseconds

/-- The window of `partitionHourlyCoverage` in its boundary. -/
def parseWindow (fromAt toAt : String) (boundary : SourceBoundary) : Except String CoverageWindow := do
  let start ← requireCoverageTimestamp fromAt "Hourly coverage from"
  let stop ← requireCoverageTimestamp toAt "Hourly coverage to"
  let historyStart ← requireCoverageTimestamp boundary.historyStartAt
    "Hourly coverage sourceBoundary historyStartAt"
  let sourceEnd ← requireCoverageTimestamp boundary.endAt "Hourly coverage sourceBoundary endAt"
  throwIf (sourceEnd ≤ historyStart)
    "Hourly coverage sourceBoundary historyStartAt must be before endAt."
  requireHourAlignment sourceEnd historyStart "Hourly coverage sourceBoundary endAt"
  throwIf (stop ≤ start) "Hourly coverage from must be before to."
  requireHourAlignment start historyStart "Hourly coverage from"
  requireHourAlignment stop historyStart "Hourly coverage to"
  throwIf (start < historyStart ∨ sourceEnd < stop)
    "Hourly coverage analysis window falls outside sourceBoundary."
  let intervalCount := (stop - start).tdiv hourNanoseconds
  throwIf (isSafeInteger intervalCount = false ∨ intervalCount < 0)
    "Hourly coverage expected interval count must be a non-negative safe integer."
  throwIf (start + intervalCount * hourNanoseconds ≠ stop)
    "Hourly coverage from and to must span exact aligned hours."
  .ok ⟨start, stop, historyStart, sourceEnd⟩

section Boundary

variable (historyStart sourceEnd : ℤ)

/-- The turn of the loop over the observed intervals: the key of an interval that is not among the
keys. -/
def observedKey (index : ℕ) (observedByKey : List String) (interval : HourlyObservedInterval) :
    Except String String := do
  let label := "Observed interval " ++ toString index
  let opening ← requireCoverageTimestamp interval.openTime (label ++ " openTime")
  let close ← requireCoverageTimestamp interval.closeTime (label ++ " closeTime")
  requireHourAlignment opening historyStart (label ++ " openTime")
  throwIf (close - opening ≠ hourNanoseconds)
    (label ++ " must represent exactly one aligned hour.")
  throwIf (opening < historyStart ∨ sourceEnd < close) (label ++ " falls outside sourceBoundary.")
  let key ← intervalKey opening close
  throwIf (key ∈ observedByKey) ("Duplicate observed hourly interval " ++ key ++ ".")
  .ok key

def observedKeysFrom : ℕ → List String → List HourlyObservedInterval → Except String (List String)
  | _, observedByKey, [] => .ok observedByKey
  | index, observedByKey, interval :: rest => do
    let key ← observedKey historyStart sourceEnd index observedByKey interval
    observedKeysFrom (index + 1) (observedByKey ++ [key]) rest

/-- The keys of `observedByKey`. -/
def observedKeys (observedIntervals : List HourlyObservedInterval) : Except String (List String) :=
  observedKeysFrom historyStart sourceEnd 0 [] observedIntervals

def validateNeighbor (value : Option String) (expected : Option ℤ) (label : String) :
    Except String Unit :=
  match value with
  | none => throwIf (expected ≠ none) (label ++ " contradicts the no-trade range position.")
  | some value => do
    let instant ← requireCoverageTimestamp value label
    requireHourAlignment instant historyStart label
    throwIf (instant < historyStart ∨ sourceEnd < instant)
      (label ++ " falls outside sourceBoundary.")
    throwIf (expected ≠ some instant) (label ++ " contradicts the no-trade range position.")

/-- The hour before the range, where it closes after the start of the boundary. -/
def previousClose (start firstClose : ℤ) : Option ℤ :=
  if start < firstClose - hourNanoseconds then some (firstClose - hourNanoseconds) else none

/-- The hour after the range, where it closes by the end of the boundary. -/
def nextClose (stop lastClose : ℤ) : Option ℤ :=
  if lastClose + hourNanoseconds ≤ stop then some (lastClose + hourNanoseconds) else none

/-- The turn of `parseRanges` for a range after one that ends at `previousLastClose`. -/
def parseRange (index : ℕ) (previousLastClose : Option ℤ) (range : CandleCoverageGap) :
    Except String ParsedRange := do
  let label := "Verified no-trade range " ++ toString index
  let firstClose ← requireCoverageTimestamp range.firstMissingCloseTime
    (label ++ " firstMissingCloseTime")
  let lastClose ← requireCoverageTimestamp range.lastMissingCloseTime
    (label ++ " lastMissingCloseTime")
  requireHourAlignment firstClose historyStart (label ++ " firstMissingCloseTime")
  requireHourAlignment lastClose historyStart (label ++ " lastMissingCloseTime")
  throwIf (lastClose < firstClose) (label ++ " is reversed.")
  throwIf (firstClose - hourNanoseconds < historyStart ∨ sourceEnd < lastClose)
    (label ++ " falls outside sourceBoundary.")
  let expectedCount := (lastClose - firstClose).tdiv hourNanoseconds + 1
  throwIf (isSafeInteger expectedCount = false ∨ expectedCount ≤ 0)
    (label ++ " count must be a positive safe integer.")
  throwIf (isSafeInteger range.missingCandleCount = false ∨ range.missingCandleCount ≠ expectedCount)
    (label ++ " missingCandleCount does not match its boundaries.")
  throwIf (previousLastClose.any fun previous => firstClose ≤ previous)
    "Verified no-trade ranges overlap or are not strictly ordered."
  throwIf (previousLastClose.any fun previous => firstClose = previous + hourNanoseconds)
    "Adjacent verified no-trade ranges must be represented as one canonical range."
  validateNeighbor historyStart sourceEnd range.previousObservedCloseTime
    (previousClose historyStart firstClose) (label ++ " previousObservedCloseTime")
  validateNeighbor historyStart sourceEnd range.nextObservedCloseTime
    (nextClose sourceEnd lastClose) (label ++ " nextObservedCloseTime")
  .ok ⟨range, firstClose, lastClose⟩

def parseRangesFrom : ℕ → Option ℤ → List CandleCoverageGap → Except String (List ParsedRange)
  | _, _, [] => .ok []
  | index, previousLastClose, range :: rest => do
    let parsed ← parseRange historyStart sourceEnd index previousLastClose range
    let later ← parseRangesFrom (index + 1) (some parsed.lastClose) rest
    .ok (parsed :: later)

def parseRanges (ranges : List CandleCoverageGap) : Except String (List ParsedRange) :=
  parseRangesFrom historyStart sourceEnd 0 none ranges

end Boundary

/-! ### The partition -/

/-- `first`, `first` and an hour, … up to `last`: the values of the loop over them. -/
def hoursUpTo (first last : ℤ) : List ℤ :=
  (List.range ((last - first) / hourNanoseconds + 1).toNat).map fun (index : ℕ) =>
    first + index * hourNanoseconds

/-- The key of an hour of a range, which must not have been observed. -/
def noTradeKey (observedByKey : List String) (close : ℤ) : Except String String := do
  let key ← intervalKey (close - hourNanoseconds) close
  throwIf (key ∈ observedByKey) ("Observed and verified no-trade evidence collision at " ++ key ++ ".")
  .ok key

/-- The keys of `noTradeByKey`. -/
def noTradeKeys (observedByKey : List String) (ranges : List ParsedRange) :
    Except String (List String) := do
  let keys ← ranges.mapM fun range =>
    (hoursUpTo range.firstClose range.lastClose).mapM (noTradeKey observedByKey)
  .ok keys.flatten

/-- A neighbour that lies in the window has been observed. -/
def validateObservedNeighbor (observedByKey : List String) (start stop : ℤ) (label : String)
    (value : Option String) : Except String Unit :=
  match value with
  | none => .ok ()
  | some value => do
    let close ← performanceTimestampEpochNanoseconds value
    let opening := close - hourNanoseconds
    if start ≤ opening ∧ close ≤ stop then do
      let key ← intervalKey opening close
      throwIf (key ∉ observedByKey) ("Verified no-trade " ++ label ++
        " has no matching observed interval in the analysis window.")
    else .ok ()

def validateRangeNeighborsAgainstObservations (ranges : List ParsedRange)
    (observedByKey : List String) (start stop : ℤ) : Except String Unit :=
  ranges.forM fun range => do
    validateObservedNeighbor observedByKey start stop "previousObservedCloseTime"
      range.source.previousObservedCloseTime
    validateObservedNeighbor observedByKey start stop "nextObservedCloseTime"
      range.source.nextObservedCloseTime

/-- A range from the hour that closes at `firstClose` on, between the instants `start` and `stop`.
-/
def formatGap (start stop firstClose lastClose count : ℤ) : Except String CandleCoverageGap := do
  let firstMissingCloseTime ← formatNanoseconds firstClose
  let lastMissingCloseTime ← formatNanoseconds lastClose
  let previousObservedCloseTime ← (previousClose start firstClose).mapM formatNanoseconds
  let nextObservedCloseTime ← (nextClose stop lastClose).mapM formatNanoseconds
  .ok
    { firstMissingCloseTime
      lastMissingCloseTime
      missingCandleCount := count
      previousObservedCloseTime
      nextObservedCloseTime }

def clipRange (range : ParsedRange) (start stop : ℤ) : Except String (Option CandleCoverageGap) := do
  let firstClose := if range.firstClose < start + hourNanoseconds then start + hourNanoseconds
    else range.firstClose
  let lastClose := if stop < range.lastClose then stop else range.lastClose
  if lastClose < firstClose then .ok none
  else do
    let missingCandleCount := (lastClose - firstClose).tdiv hourNanoseconds + 1
    throwIf (isSafeInteger missingCandleCount = false ∨ missingCandleCount ≤ 0)
      "Clipped verified no-trade range count must be a positive safe integer."
    let gap ← formatGap start stop firstClose lastClose missingCandleCount
    .ok (some gap)

/-- The keys of the hours of the window. -/
def windowKeys (w : CoverageWindow) : Except String (List String) :=
  ((List.range w.intervalCount.toNat).map fun (index : ℕ) => w.start + index * hourNanoseconds).mapM
    fun opening => intervalKey opening (opening + hourNanoseconds)

def partitionHourlyCoverage (fromAt toAt : String) (sourceBoundary : SourceBoundary)
    (observedIntervals : List HourlyObservedInterval) (verifiedNoTradeRanges : List CandleCoverageGap) :
    Except String HourlyCoveragePartition := do
  let w ← parseWindow fromAt toAt sourceBoundary
  let observedByKey ← observedKeys w.historyStart w.sourceEnd observedIntervals
  let parsedRanges ← parseRanges w.historyStart w.sourceEnd verifiedNoTradeRanges
  let noTradeByKey ← noTradeKeys observedByKey parsedRanges
  validateRangeNeighborsAgainstObservations parsedRanges observedByKey w.start w.stop
  let keys ← windowKeys w
  let observed := keys.filter (· ∈ observedByKey)
  let verified := keys.filter fun key => key ∉ observedByKey ∧ key ∈ noTradeByKey
  let unexplained := keys.filter fun key => key ∉ observedByKey ∧ key ∉ noTradeByKey
  let fromText ← formatNanoseconds w.start
  let toText ← formatNanoseconds w.stop
  let clipped ← parsedRanges.mapM fun range => clipRange range w.start w.stop
  .ok
    { fromAt := fromText
      toAt := toText
      expectedIntervalCount := w.intervalCount
      observedIntervalCount := observed.length
      verifiedNoTradeIntervalCount := verified.length
      unexplainedMissingIntervalCount := unexplained.length
      observedIntervals := observed
      verifiedNoTradeIntervals := verified
      verifiedNoTradeRanges := clipped.reduceOption
      unexplainedMissingIntervals := unexplained }

/-! ### The coverage of a boundary -/

/-- The instant after the slash of a key. -/
def closeOfKey (index : ℕ) (key : String) : Except String ℤ :=
  match key.toList.dropWhile (· ≠ '/') with
  | [] => .error ("Derived missing interval " ++ toString index ++ " is malformed.")
  | _ :: rest => performanceTimestampEpochNanoseconds (String.ofList rest)

def closesOfKeysFrom : ℕ → List String → Except String (List ℤ)
  | _, [] => .ok []
  | index, key :: rest => do
    let close ← closeOfKey index key
    let later ← closesOfKeysFrom (index + 1) rest
    .ok (close :: later)

/-- The loop of `groupMissingIntervals`, in a range of `count` hours from `firstClose` to
`lastClose`. -/
def groupClosesFrom (historyStart sourceEnd firstClose lastClose count : ℤ) :
    List ℤ → Except String (List CandleCoverageGap)
  | [] => do
    let gap ← formatGap historyStart sourceEnd firstClose lastClose count
    .ok [gap]
  | close :: rest =>
    if close = lastClose + hourNanoseconds then
      groupClosesFrom historyStart sourceEnd firstClose close (count + 1) rest
    else do
      let gap ← formatGap historyStart sourceEnd firstClose lastClose count
      let later ← groupClosesFrom historyStart sourceEnd close close 1 rest
      .ok (gap :: later)

def groupMissingIntervals (intervalKeys : List String) (sourceBoundary : SourceBoundary) :
    Except String (List CandleCoverageGap) := do
  let historyStart ← performanceTimestampEpochNanoseconds sourceBoundary.historyStartAt
  let sourceEnd ← performanceTimestampEpochNanoseconds sourceBoundary.endAt
  let closes ← closesOfKeysFrom 0 intervalKeys
  match closes with
  | [] => .ok []
  | close :: rest => groupClosesFrom historyStart sourceEnd close close 1 rest

def createVerifiedNoTradeCoverage (sourceBoundary : SourceBoundary)
    (observedIntervals : List HourlyObservedInterval) : Except String VerifiedNoTradeCoverage := do
  throwIf (observedIntervals.length = 0)
    "Verified no-trade coverage requires at least one observed source interval."
  let partition ← partitionHourlyCoverage sourceBoundary.historyStartAt sourceBoundary.endAt
    sourceBoundary observedIntervals []
  let ranges ← groupMissingIntervals partition.unexplainedMissingIntervals sourceBoundary
  .ok ⟨sourceBoundary, ranges⟩

def createVerifiedNoTradeCoverageFromRanges (sourceBoundary : SourceBoundary)
    (observedIntervals : List HourlyObservedInterval) (verifiedNoTradeRanges : List CandleCoverageGap) :
    Except String VerifiedNoTradeCoverage := do
  throwIf (observedIntervals.length = 0)
    "Verified no-trade coverage requires at least one observed source interval."
  let partition ← partitionHourlyCoverage sourceBoundary.historyStartAt sourceBoundary.endAt
    sourceBoundary observedIntervals verifiedNoTradeRanges
  throwIf (0 < partition.unexplainedMissingIntervalCount)
    ("Verified no-trade coverage leaves " ++ toString partition.unexplainedMissingIntervalCount ++
      " unexplained missing hourly interval(s).")
  .ok ⟨sourceBoundary, partition.verifiedNoTradeRanges⟩

/-! ### Keys -/

/-- The key of the hour that opens at the instant. -/
def keyOf (opening : ℤ) : String := stampOf opening ++ "/" ++ stampOf (opening + hourNanoseconds)

variable {opening : ℤ}

theorem intervalKey_eq (h0 : 0 ≤ opening) (hlt : opening + hourNanoseconds < endOfTexts) :
    intervalKey opening (opening + hourNanoseconds) = .ok (keyOf opening) := by
  have hstep := hourNanoseconds_pos
  unfold intervalKey keyOf
  rw [formatNanoseconds_of_lt h0 (by omega), formatNanoseconds_of_lt (by omega) hlt]
  rfl

theorem dropWhile_keyOf (opening : ℤ) : (keyOf opening).toList.dropWhile (· ≠ '/') =
    '/' :: (stampOf (opening + hourNanoseconds)).toList := by
  unfold keyOf
  rw [String.toList_append, String.toList_append, List.append_assoc,
    List.dropWhile_append_of_pos fun c hc => ?_]
  · rfl
  · rw [decide_eq_true_eq]
    rintro rfl
    exact slash_notMem_stampOf opening hc

theorem takeWhile_keyOf (opening : ℤ) : (keyOf opening).toList.takeWhile (· ≠ '/') =
    (stampOf opening).toList := by
  unfold keyOf
  rw [String.toList_append, String.toList_append, List.append_assoc,
    List.takeWhile_append_of_pos fun c hc => ?_]
  · have hslash : ("/".toList ++ (stampOf (opening + hourNanoseconds)).toList).takeWhile
        (· ≠ '/') = [] := rfl
    rw [hslash, List.append_nil]
  · rw [decide_eq_true_eq]
    rintro rfl
    exact slash_notMem_stampOf opening hc

theorem keyOf_injective {anchor a b : ℤ} (ha : 0 ≤ a) (hb : 0 ≤ b) (haLt : a < endOfTexts)
    (hbLt : b < endOfTexts) (haGrid : OnGrid hourNanoseconds anchor a)
    (hbGrid : OnGrid hourNanoseconds anchor b) (h : keyOf a = keyOf b) : a = b := by
  have htext := congrArg (fun key : String => key.toList.takeWhile (· ≠ '/')) h
  rw [takeWhile_keyOf, takeWhile_keyOf] at htext
  exact stampOf_injective ha hb haLt hbLt (haGrid.sub hbGrid) (String.toList_inj.mp htext)

theorem closeOfKey_keyOf (h0 : 0 ≤ opening) (index : ℕ) (t : ℤ) :
    closeOfKey index (keyOf opening) = .ok t ↔
      opening + hourNanoseconds < endOfFourDigitYears ∧ t = opening + hourNanoseconds := by
  have hstep := hourNanoseconds_pos
  unfold closeOfKey
  rw [dropWhile_keyOf]
  dsimp only
  rw [String.ofList_toList, performanceTimestampEpochNanoseconds_eq_ok, denotes_stampOf_iff (by omega)]

/-! ### The window -/

theorem requireCoverage_bind_eq_ok {α : Type} {value label : String} {f : ℤ → Except String α} {a : α} :
    (requireCoverageTimestamp value label >>= f) = .ok a ↔ ∃ t, Denotes value t ∧ f t = .ok a :=
  requireTimestamp_bind

theorem requireCoverage_eq {value : String} {t : ℤ} (h : Denotes value t) (label : String) :
    requireCoverageTimestamp value label = .ok t := requireTimestamp_eq_ok.mpr h

variable {label : String}

theorem requireHourAlignment_eq_ok {value anchor : ℤ} {u : Unit} :
    requireHourAlignment value anchor label = .ok u ↔ OnGrid hourNanoseconds anchor value := by
  unfold requireHourAlignment OnGrid
  rw [throwIf_eq_ok, not_not, Int.dvd_iff_tmod_eq_zero]

/-- A window of whole hours in its boundary. -/
structure CoverageWindow.Ok (w : CoverageWindow) : Prop where
  boundary : w.historyStart < w.sourceEnd
  grid_sourceEnd : OnGrid hourNanoseconds w.historyStart w.sourceEnd
  window : w.start < w.stop
  grid_start : OnGrid hourNanoseconds w.historyStart w.start
  grid_stop : OnGrid hourNanoseconds w.historyStart w.stop
  le_start : w.historyStart ≤ w.start
  stop_le : w.stop ≤ w.sourceEnd
  count_le : (w.stop - w.start) / hourNanoseconds ≤ 9007199254740991

variable {w : CoverageWindow} {boundary : SourceBoundary} {observed : List HourlyObservedInterval}
  {lo up : ℤ} {fromAt toAt : String}

theorem parseWindow_eq_ok :
    parseWindow fromAt toAt boundary = .ok w ↔ Denotes fromAt w.start ∧ Denotes toAt w.stop ∧
      Denotes boundary.historyStartAt w.historyStart ∧ Denotes boundary.endAt w.sourceEnd ∧ w.Ok := by
  unfold parseWindow
  simp only [requireCoverage_bind_eq_ok, then_eq_ok, throwIf_eq_ok, requireHourAlignment_eq_ok,
    Except.ok.injEq]
  constructor
  · rintro ⟨start, hstart, stop, hstop, lo, hhistory, up, hend, hboundary, hgridEnd,
      hwindow, hgridStart, hgridStop, hinside, hcount, -, rfl⟩
    refine ⟨hstart, hstop, hhistory, hend, ?_⟩
    rw [Int.tdiv_eq_ediv_of_nonneg (by omega)] at hcount
    have hsafe : (stop - start) / hourNanoseconds ≤ 9007199254740991 := by
      unfold isSafeInteger at hcount
      rw [decide_eq_false_iff_not] at hcount
      omega
    obtain ⟨hle, hle'⟩ := not_or.mp hinside
    exact ⟨not_le.mp hboundary, hgridEnd, not_le.mp hwindow, hgridStart, hgridStop, not_lt.mp hle,
      not_lt.mp hle', hsafe⟩
  · rintro ⟨hstart, hstop, hhistory, hend, hok⟩
    have hwindow := hok.window
    have hboundary := hok.boundary
    have hle := hok.le_start
    have hle' := hok.stop_le
    have hcount := hok.count_le
    have hdvd := hok.grid_start.sub hok.grid_stop
    refine ⟨w.start, hstart, w.stop, hstop, w.historyStart, hhistory, w.sourceEnd, hend, by omega,
      hok.grid_sourceEnd, by omega, hok.grid_start, hok.grid_stop, by omega, ?_, ?_, rfl⟩
    · have hnonneg : 0 ≤ (w.stop - w.start) / hourNanoseconds :=
        Int.ediv_nonneg (by omega) (by decide)
      rw [Int.tdiv_eq_ediv_of_nonneg (by omega)]
      unfold isSafeInteger
      rw [decide_eq_false_iff_not]
      omega
    · rw [not_not, Int.tdiv_mul_cancel hdvd]
      omega

/-! ### The observed intervals -/

/-- The interval is an hour of the boundary. -/
structure HourObserved (lo up : ℤ) (interval : HourlyObservedInterval) : Prop where
  opening : IsCandidateTimestamp interval.openTime
  close : Denotes interval.closeTime (instant interval.openTime + hourNanoseconds)
  grid : OnGrid hourNanoseconds lo (instant interval.openTime)
  inside : lo ≤ instant interval.openTime ∧
    instant interval.openTime + hourNanoseconds ≤ up

/-- The instants at which the observed intervals open. -/
def opensOf (observed : List HourlyObservedInterval) : List ℤ := observed.map (instant ·.openTime)

variable {index : ℕ}

section Observed

variable (h0 : 0 ≤ lo) (hlt : up < endOfTexts)
include h0 hlt

theorem observedKey_eq_ok {keys : List String} {interval : HourlyObservedInterval} {key : String} :
    observedKey lo up index keys interval = .ok key ↔
      HourObserved lo up interval ∧ key = keyOf (instant interval.openTime) ∧
        key ∉ keys := by
  unfold observedKey
  dsimp only
  simp only [requireCoverage_bind_eq_ok, then_eq_ok, throwIf_eq_ok, requireHourAlignment_eq_ok,
    not_not]
  constructor
  · rintro ⟨opening, ⟨hopening, rfl⟩, close, hclose, hgrid, hduration, hinside, hkey⟩
    have hclose' : close = instant interval.openTime + hourNanoseconds := by omega
    rw [hclose'] at hclose hinside hkey
    rw [intervalKey_eq (by omega) (by omega), ok_bind, then_eq_ok, throwIf_eq_ok] at hkey
    obtain ⟨hnew, heq⟩ := hkey
    rw [← Except.ok.inj heq]
    exact ⟨⟨hopening, hclose, hgrid, by omega⟩, rfl, hnew⟩
  · rintro ⟨hok, rfl, hnew⟩
    have hinside := hok.inside
    refine ⟨_, ⟨hok.opening, rfl⟩, _, hok.close, hok.grid, by omega, by omega, ?_⟩
    rw [intervalKey_eq (by omega) (by omega), ok_bind, then_eq_ok, throwIf_eq_ok]
    exact ⟨hnew, rfl⟩

theorem observedKeysFrom_eq_ok {keys out : List String} (hkeys : keys.Nodup) :
    observedKeysFrom lo up index keys observed = .ok out ↔
      (∀ i ∈ observed, HourObserved lo up i) ∧
        out = keys ++ (opensOf observed).map keyOf ∧ out.Nodup := by
  induction observed generalizing index keys with
  | nil =>
    rw [observedKeysFrom, Except.ok.injEq]
    constructor
    · rintro rfl
      exact ⟨fun _ h => absurd h List.not_mem_nil, by simp [opensOf], hkeys⟩
    · rintro ⟨-, rfl, -⟩
      simp [opensOf]
  | cons interval rest ih =>
    have hcons : ∀ key, keys ++ [key] ++ (opensOf rest).map keyOf =
        keys ++ key :: (opensOf rest).map keyOf := fun key => by simp
    rw [observedKeysFrom, bind_eq_ok, List.forall_mem_cons]
    constructor
    · rintro ⟨key, hkey, hrest⟩
      obtain ⟨hok, rfl, hnew⟩ := (observedKey_eq_ok h0 hlt).mp hkey
      have hnodup : (keys ++ [keyOf (instant interval.openTime)]).Nodup :=
        List.nodup_append_comm.mp (List.nodup_cons.mpr ⟨hnew, hkeys⟩)
      obtain ⟨hall, hout, houtNodup⟩ := (ih hnodup).mp hrest
      exact ⟨⟨hok, hall⟩, by rw [hout, hcons]; rfl, houtNodup⟩
    · rintro ⟨⟨hok, hall⟩, hout, houtNodup⟩
      have hout' : out = keys ++ [keyOf (instant interval.openTime)] ++ (opensOf rest).map keyOf := by
        rw [hout, hcons]
        rfl
      have hprefix : (keys ++ [keyOf (instant interval.openTime)]).Nodup := by
        rw [hout'] at houtNodup
        exact (List.nodup_append.mp houtNodup).1
      refine ⟨_, (observedKey_eq_ok h0 hlt).mpr ⟨hok, rfl, ?_⟩, (ih hprefix).mpr
        ⟨hall, hout', houtNodup⟩⟩
      exact (List.nodup_cons.mp (List.nodup_append_comm.mp hprefix)).1

theorem observedKeys_eq_ok {out : List String} :
    observedKeys lo up observed = .ok out ↔
      (∀ i ∈ observed, HourObserved lo up i) ∧
        out = (opensOf observed).map keyOf ∧ out.Nodup :=
  observedKeysFrom_eq_ok h0 hlt List.nodup_nil

end Observed

/-! ### The ranges of the runs -/

/-- The range of a run of closes, with its neighbours between the instants `start` and `stop`. -/
def gapOf (start stop : ℤ) (r : Run) : CandleCoverageGap where
  firstMissingCloseTime := stampOf r.first
  lastMissingCloseTime := stampOf r.last
  missingCandleCount := (r.last - r.first) / hourNanoseconds + 1
  previousObservedCloseTime := (previousClose start r.first).map stampOf
  nextObservedCloseTime := (nextClose stop r.last).map stampOf

/-- A run of hours that close between the start of the boundary and its end. -/
structure RunIn (lo up : ℤ) (r : Run) : Prop where
  le : r.first ≤ r.last
  grid_first : OnGrid hourNanoseconds lo r.first
  grid_last : OnGrid hourNanoseconds lo r.last
  first_le : lo + hourNanoseconds ≤ r.first
  last_le : r.last ≤ up

theorem previousClose_eq_some {start firstClose t : ℤ} :
    previousClose start firstClose = some t ↔ t = firstClose - hourNanoseconds ∧ start < t := by
  unfold previousClose
  rw [Option.ite_none_right_eq_some, Option.some.injEq]
  constructor
  · rintro ⟨h, rfl⟩
    exact ⟨rfl, h⟩
  · rintro ⟨rfl, h⟩
    exact ⟨h, rfl⟩

theorem nextClose_eq_some {stop lastClose t : ℤ} :
    nextClose stop lastClose = some t ↔ t = lastClose + hourNanoseconds ∧ t ≤ stop := by
  unfold nextClose
  rw [Option.ite_none_right_eq_some, Option.some.injEq]
  constructor
  · rintro ⟨h, rfl⟩
    exact ⟨rfl, h⟩
  · rintro ⟨rfl, h⟩
    exact ⟨h, rfl⟩

variable {close : Option ℤ}

theorem mapM_formatNanoseconds (h : ∀ t ∈ close, 0 ≤ t ∧ t < endOfTexts) :
    close.mapM formatNanoseconds = .ok (close.map stampOf) := by
  cases close with
  | none => rfl
  | some t =>
    obtain ⟨h0, hlt⟩ := h t rfl
    rw [Option.mapM_some, formatNanoseconds_of_lt h0 hlt]
    rfl

variable {r : Run} {start stop : ℤ}

theorem formatGap_eq (h0 : 0 ≤ start) (hlt : stop < endOfTexts) (hr : RunIn start stop r) :
    formatGap start stop r.first r.last
      ((r.last - r.first) / hourNanoseconds + 1) = .ok (gapOf start stop r) := by
  have hle := hr.le
  have hfirst := hr.first_le
  have hlast := hr.last_le
  have hstep := hourNanoseconds_pos
  unfold formatGap
  rw [formatNanoseconds_of_lt (by omega) (by omega), ok_bind,
    formatNanoseconds_of_lt (by omega) (by omega), ok_bind, mapM_formatNanoseconds fun t ht => ?_,
    ok_bind, mapM_formatNanoseconds fun t ht => ?_, ok_bind]
  · rfl
  · obtain ⟨rfl, hstop⟩ := nextClose_eq_some.mp ht
    omega
  · obtain ⟨rfl, hstart⟩ := previousClose_eq_some.mp ht
    omega

section Ranges

variable (h0 : 0 ≤ lo) (hlt : up < endOfTexts)
include h0

theorem validateNeighbor_stampOf {expected : Option ℤ}
    (hexpected : ∀ t ∈ expected, OnGrid hourNanoseconds lo t ∧ lo ≤ t ∧
      t ≤ up) :
    validateNeighbor lo up (expected.map stampOf) expected label = .ok () ↔
      ∀ t ∈ expected, t < endOfFourDigitYears := by
  cases expected with
  | none => simp [validateNeighbor]
  | some t =>
    obtain ⟨hgrid, hstart, hstop⟩ := hexpected t rfl
    rw [Option.map_some, validateNeighbor]
    simp only [requireCoverage_bind_eq_ok, then_eq_ok, throwIf_eq_ok,
      requireHourAlignment_eq_ok, denotes_stampOf_iff (h0.trans hstart), Option.mem_some_iff,
      forall_eq']
    constructor
    · rintro ⟨u, ⟨hfour, -⟩, -⟩
      exact hfour
    · intro hfour
      exact ⟨t, ⟨hfour, rfl⟩, hgrid, by omega, by simp⟩

/-- **The range of a run is accepted where its next neighbour is read.** -/
theorem parseRange_gapOf {previous : Option ℤ} {parsed : ParsedRange} (hr : RunIn lo up r)
    (hfour : r.last < endOfFourDigitYears)
    (hcount : (r.last - r.first) / hourNanoseconds + 1 ≤ 9007199254740991)
    (hprevious : ∀ t ∈ previous, t + hourNanoseconds < r.first) :
    parseRange lo up index previous (gapOf lo up r) = .ok parsed ↔
      parsed = ⟨gapOf lo up r, r.first, r.last⟩ ∧
        ∀ t ∈ nextClose up r.last, t < endOfFourDigitYears := by
  have hle := hr.le
  have hfirst := hr.first_le
  have hlast := hr.last_le
  have hstep := hourNanoseconds_pos
  have hquotient : 0 ≤ (r.last - r.first) / hourNanoseconds := Int.ediv_nonneg (by omega) hstep.le
  have hstamps : Denotes (gapOf lo up r).firstMissingCloseTime r.first ∧
      Denotes (gapOf lo up r).lastMissingCloseTime r.last :=
    ⟨(denotes_stampOf_iff (by omega) _).mpr ⟨by omega, rfl⟩,
      (denotes_stampOf_iff (by omega) _).mpr ⟨hfour, rfl⟩⟩
  have hbefore : ∀ label, validateNeighbor lo up
      (gapOf lo up r).previousObservedCloseTime
      (previousClose lo r.first) label = .ok () := fun label => by
    refine (validateNeighbor_stampOf h0 fun t ht => ?_).mpr fun t ht => ?_
    · obtain ⟨rfl, hstart⟩ := previousClose_eq_some.mp ht
      refine ⟨?_, hstart.le, by omega⟩
      have := Int.dvd_sub hr.grid_first (Int.dvd_refl hourNanoseconds)
      rwa [sub_right_comm] at this
    · obtain ⟨rfl, -⟩ := previousClose_eq_some.mp ht
      omega
  have hafter : ∀ label, validateNeighbor lo up
      (gapOf lo up r).nextObservedCloseTime
      (nextClose up r.last) label = .ok () ↔
        ∀ t ∈ nextClose up r.last, t < endOfFourDigitYears := fun label => by
    refine validateNeighbor_stampOf h0 fun t ht => ?_
    obtain ⟨rfl, hstop⟩ := nextClose_eq_some.mp ht
    refine ⟨?_, by omega, hstop⟩
    have := Int.dvd_add hr.grid_last (Int.dvd_refl hourNanoseconds)
    rwa [sub_add_eq_add_sub] at this
  unfold parseRange
  dsimp only
  rw [requireCoverage_eq hstamps.1, ok_bind, requireCoverage_eq hstamps.2, ok_bind]
  simp only [then_eq_ok, throwIf_eq_ok, requireHourAlignment_eq_ok, hbefore, hafter, true_and,
    Except.ok.injEq]
  rw [Int.tdiv_eq_ediv_of_nonneg (by omega)]
  constructor
  · rintro ⟨-, -, -, -, -, -, -, -, hnext, rfl⟩
    exact ⟨rfl, hnext⟩
  · rintro ⟨rfl, hnext⟩
    refine ⟨hr.grid_first, hr.grid_last, by omega, by omega, ?_, ?_, ?_, ?_, hnext, rfl⟩
    · unfold isSafeInteger
      rw [decide_eq_false_iff_not]
      omega
    · unfold gapOf isSafeInteger
      dsimp only
      rw [decide_eq_false_iff_not]
      omega
    · cases previous with
      | none => simp
      | some t =>
        have := hprevious t rfl
        simp
        omega
    · cases previous with
      | none => simp
      | some t =>
        have := hprevious t rfl
        simp
        omega

end Ranges

/-! ### The missing hours -/

/-- The hours of a window, by their opens. -/
def windowOpens (start stop : ℤ) : List ℤ :=
  gridPoints hourNanoseconds start ((stop - start) / hourNanoseconds).toNat

theorem mem_windowOpens_iff {start stop opening : ℤ} : opening ∈ windowOpens start stop ↔
    OnGrid hourNanoseconds start opening ∧ start ≤ opening ∧ opening + hourNanoseconds ≤ stop :=
  mem_gridPoints_iff (by decide)

/-- The hours of the boundary that were not observed, by their closes. -/
def missingCloses (lo up : ℤ) (opens : List ℤ) : List ℤ :=
  ((windowOpens lo up).filter (· ∉ opens)).map (· + hourNanoseconds)

variable {step anchor x : ℤ}

theorem onGrid_add_iff : OnGrid step anchor (x + step) ↔ OnGrid step anchor x := by
  unfold OnGrid
  rw [add_sub_right_comm]
  exact (Int.dvd_add_left (Int.dvd_refl step))

theorem onGrid_sub_iff : OnGrid step anchor (x - step) ↔ OnGrid step anchor x := by
  rw [← onGrid_add_iff, sub_add_cancel]

/-- The missing hours, in runs. -/
abbrev missingRuns (lo up : ℤ) (opens : List ℤ) : List Run :=
  runs hourNanoseconds (missingCloses lo up opens)

theorem mem_missingCloses_iff {lo up close : ℤ} {opens : List ℤ} :
    close ∈ missingCloses lo up opens ↔ OnGrid hourNanoseconds lo close ∧
      lo + hourNanoseconds ≤ close ∧ close ≤ up ∧ close - hourNanoseconds ∉ opens := by
  unfold missingCloses
  rw [List.mem_map]
  simp only [List.mem_filter, mem_windowOpens_iff, decide_eq_true_eq]
  constructor
  · rintro ⟨opening, ⟨⟨hgrid, hle, hend⟩, hnot⟩, rfl⟩
    exact ⟨onGrid_add_iff.mpr hgrid, by omega, hend, by rwa [add_sub_cancel_right]⟩
  · rintro ⟨hgrid, hle, hend, hnot⟩
    exact ⟨close - hourNanoseconds, ⟨⟨onGrid_sub_iff.mpr hgrid, by omega, by omega⟩, hnot⟩, by omega⟩

theorem sorted_missingCloses (lo up : ℤ) (opens : List ℤ) :
    (missingCloses lo up opens).Pairwise (· < ·) := by
  unfold missingCloses
  rw [List.pairwise_map]
  exact ((sorted_gridPoints (by decide) _ _).filter _).imp fun h => by omega

/-- An accepted boundary with its observed intervals. -/
structure Setting (boundary : SourceBoundary) (observed : List HourlyObservedInterval)
    (lo up : ℤ) : Prop where
  historyStartAt : Denotes boundary.historyStartAt lo
  endAt : Denotes boundary.endAt up
  nonneg : 0 ≤ lo
  ok : (CoverageWindow.mk lo up lo up).Ok
  hours : ∀ i ∈ observed, HourObserved lo up i
  nodup : ((opensOf observed).map keyOf).Nodup

namespace Setting

variable (h : Setting boundary observed lo up)
include h

theorem lt_endOfTexts : up < endOfTexts := by
  rw [← h.endAt.2]
  exact instant_lt h.endAt.1

theorem opens (hmem : opening ∈ opensOf observed) :
    OnGrid hourNanoseconds lo opening ∧ lo ≤ opening ∧
      opening + hourNanoseconds ≤ up := by
  obtain ⟨i, hi, rfl⟩ := List.mem_map.mp hmem
  exact ⟨(h.hours i hi).grid, (h.hours i hi).inside⟩

variable {opens : List ℤ}

theorem mem_map_keyOf_iff
    (hopens : ∀ x ∈ opens, OnGrid hourNanoseconds lo x ∧ lo ≤ x ∧ x + hourNanoseconds ≤ up)
    (hgrid : OnGrid hourNanoseconds lo opening) (hle : lo ≤ opening)
    (hend : opening + hourNanoseconds ≤ up) :
    keyOf opening ∈ opens.map keyOf ↔ opening ∈ opens := by
  have hstep := hourNanoseconds_pos
  have hlt := h.lt_endOfTexts
  have h0 := h.nonneg
  rw [List.mem_map]
  constructor
  · rintro ⟨x, hx, hkey⟩
    obtain ⟨hxGrid, hxLe, hxEnd⟩ := hopens x hx
    rwa [keyOf_injective (by omega) (by omega) (by omega) (by omega) hgrid hxGrid hkey.symm]
  · intro hmem
    exact ⟨opening, hmem, rfl⟩

theorem windowKeys_eq (hw : w.Ok) (hstart : w.historyStart = lo) (hend : w.sourceEnd = up) :
    windowKeys w = .ok ((windowOpens w.start w.stop).map keyOf) := by
  have hlt := h.lt_endOfTexts
  have h0 := h.nonneg
  have hwindow := hw.window
  have hle := hw.le_start
  have hle' := hw.stop_le
  have hcount : w.intervalCount = (w.stop - w.start) / hourNanoseconds :=
    Int.tdiv_eq_ediv_of_nonneg (by omega)
  unfold windowKeys
  rw [hcount]
  refine mapM_eq_ok_map fun opening hmem => ?_
  obtain ⟨-, hfrom, hto⟩ := mem_windowOpens_iff.mp hmem
  exact intervalKey_eq (by omega) (by omega)

/-! ### What the missing hours give -/

omit h in
theorem missing_grid {close : ℤ} (hmem : close ∈ missingCloses lo up opens) :
    OnGrid hourNanoseconds lo close := (mem_missingCloses_iff.mp hmem).1

omit h in
theorem runIn (hr : r ∈ missingRuns lo up opens) : RunIn lo up r := by
  obtain ⟨hfirst, hlast, hle⟩ := ends_runs (sorted_missingCloses _ _ _) hr
  obtain ⟨hgridF, hleF, -, -⟩ := mem_missingCloses_iff.mp hfirst
  obtain ⟨hgridL, -, hleL, -⟩ := mem_missingCloses_iff.mp hlast
  exact ⟨hle, hgridF, hgridL, hleF, hleL⟩

omit h in
theorem mem_missing_of_run (hr : r ∈ missingRuns lo up opens) {close : ℤ}
    (hgrid : OnGrid hourNanoseconds lo close) (hfirst : r.first ≤ close) (hlast : close ≤ r.last) :
    close ∈ missingCloses lo up opens :=
  (mem_runs_iff (sorted_missingCloses _ _ _) (by decide)
    (fun y hy => missing_grid hy) hgrid).mp ⟨r, hr, hfirst, hlast⟩

omit h in
/-- The hours next to a run were observed, where they lie in the boundary. -/
theorem neighbors_of_run (hr : r ∈ missingRuns lo up (opensOf observed)) :
    (∀ t ∈ previousClose lo r.first, t - hourNanoseconds ∈ opensOf observed) ∧
      ∀ t ∈ nextClose up r.last, t - hourNanoseconds ∈ opensOf observed := by
  obtain ⟨hprevious, hnext⟩ := notMem_next_runs (sorted_missingCloses _ _ _) (by decide)
    (fun y hy => missing_grid hy) hr
  have hin : RunIn lo up r := runIn hr
  have hle := hin.le
  have hfirst := hin.first_le
  have hlast := hin.last_le
  have hstep := hourNanoseconds_pos
  constructor
  · intro t ht
    obtain ⟨rfl, hstart⟩ := previousClose_eq_some.mp ht
    by_contra hnot
    have hgrid := onGrid_sub_iff.mpr hin.grid_first
    have hself : OnGrid hourNanoseconds lo lo := by simp [OnGrid]
    have hnextPoint := hself.next hgrid hstart
    exact hprevious (mem_missingCloses_iff.mpr ⟨hgrid, hnextPoint, by omega, hnot⟩)
  · intro t ht
    obtain ⟨rfl, hstop⟩ := nextClose_eq_some.mp ht
    by_contra hnot
    exact hnext (mem_missingCloses_iff.mpr
      ⟨onGrid_add_iff.mpr hin.grid_last, by omega, hstop, hnot⟩)

end Setting

/-! ### The partition of a window -/

def parsedOf (lo up : ℤ) (r : Run) : ParsedRange :=
  ⟨gapOf lo up r, r.first, r.last⟩

theorem parseRangesFrom_gapOf {lo up : ℤ} (h0 : 0 ≤ lo) {previous : Option ℤ} {rs : List Run}
    {parsed : List ParsedRange} (hrs : ∀ r ∈ rs, RunIn lo up r ∧ r.last < endOfFourDigitYears ∧
      (r.last - r.first) / hourNanoseconds + 1 ≤ 9007199254740991)
    (hapart : rs.Pairwise fun r r' => r.last + hourNanoseconds < r'.first)
    (hprevious : ∀ t ∈ previous, ∀ r ∈ rs, t + hourNanoseconds < r.first) :
    parseRangesFrom lo up index previous (rs.map (gapOf lo up)) =
        .ok parsed ↔
      parsed = rs.map (parsedOf lo up) ∧
        ∀ r ∈ rs, ∀ t ∈ nextClose up r.last, t < endOfFourDigitYears := by
  induction rs generalizing index previous parsed with
  | nil => simp [parseRangesFrom, eq_comm]
  | cons r rs ih =>
    rw [List.forall_mem_cons] at hrs
    obtain ⟨⟨hr, hfour, hcount⟩, hrest⟩ := hrs
    obtain ⟨hafter, hapart⟩ := List.pairwise_cons.mp hapart
    have hprevious' : ∀ t ∈ previous, t + hourNanoseconds < r.first :=
      fun t ht => hprevious t ht r List.mem_cons_self
    have hnext : ∀ t ∈ some r.last, ∀ r' ∈ rs, t + hourNanoseconds < r'.first := fun t ht r' hr' => by
      rw [← Option.some.inj (Option.mem_def.mp ht)]
      exact hafter r' hr'
    rw [List.map_cons, parseRangesFrom, bind_eq_ok, List.forall_mem_cons]
    constructor
    · rintro ⟨p, hp, hlater⟩
      obtain ⟨rfl, hfirst⟩ := (parseRange_gapOf h0 hr hfour hcount hprevious').mp hp
      obtain ⟨later, hlater, hparsed⟩ := bind_eq_ok.mp hlater
      obtain ⟨rfl, htail⟩ := (ih hrest hapart hnext).mp hlater
      exact ⟨(Except.ok.inj hparsed).symm, hfirst, htail⟩
    · rintro ⟨rfl, hfirst, htail⟩
      refine ⟨_, (parseRange_gapOf h0 hr hfour hcount hprevious').mpr ⟨rfl, hfirst⟩, ?_⟩
      rw [(ih hrest hapart hnext).mpr ⟨rfl, htail⟩]
      rfl

/-- The part of a run in a window. -/
def clipRun (start stop : ℤ) (r : Run) : Option Run :=
  let first := if r.first < start + hourNanoseconds then start + hourNanoseconds else r.first
  let last := if stop < r.last then stop else r.last
  if last < first then none else some ⟨first, last⟩

theorem clipRun_eq_some {r c : Run} : clipRun start stop r = some c ↔
    c = ⟨max r.first (start + hourNanoseconds), min r.last stop⟩ ∧ c.first ≤ c.last := by
  have hfirst : (if r.first < start + hourNanoseconds then start + hourNanoseconds else r.first) =
      max r.first (start + hourNanoseconds) := by
    split_ifs <;> omega
  have hlast : (if stop < r.last then stop else r.last) = min r.last stop := by
    split_ifs <;> omega
  unfold clipRun
  dsimp only
  rw [hfirst, hlast]
  constructor
  · intro h
    split_ifs at h with hempty
    rw [← Option.some.inj h]
    exact ⟨rfl, not_lt.mp hempty⟩
  · rintro ⟨rfl, hle⟩
    rw [if_neg (not_lt.mpr hle)]

variable {step anchor x y : ℤ}

theorem onGrid_max (hx : OnGrid step anchor x) (hy : OnGrid step anchor y) :
    OnGrid step anchor (max x y) := by
  rcases max_choice x y with h | h <;> rwa [h]

theorem onGrid_min (hx : OnGrid step anchor x) (hy : OnGrid step anchor y) :
    OnGrid step anchor (min x y) := by
  rcases min_choice x y with h | h <;> rwa [h]

theorem runIn_clipRun {lo up start stop : ℤ} {r c : Run}
    (hr : RunIn lo up r) (hstart : OnGrid hourNanoseconds lo start)
    (hstop : OnGrid hourNanoseconds lo stop) (hc : clipRun start stop r = some c) :
    RunIn start stop c := by
  obtain ⟨rfl, hle⟩ := clipRun_eq_some.mp hc
  have hgrid : ∀ x, OnGrid hourNanoseconds lo x → OnGrid hourNanoseconds start x :=
    fun x hx => hstart.sub hx
  have hfirst := onGrid_max hr.grid_first (onGrid_add_iff.mpr hstart)
  have hlast := onGrid_min hr.grid_last hstop
  exact ⟨hle, hgrid _ hfirst, hgrid _ hlast, le_max_right _ _, min_le_right _ _⟩

theorem RunIn.count_le (hr : RunIn start stop r) :
    (r.last - r.first) / hourNanoseconds + 1 ≤ (stop - start) / hourNanoseconds := by
  have hfirst := hr.first_le
  have hlast := hr.last_le
  have hstep := hourNanoseconds_pos
  rw [Int.le_ediv_iff_mul_le hstep, add_mul, one_mul]
  have := Int.ediv_mul_le (r.last - r.first) hstep.ne'
  omega

theorem clipRange_eq {g : CandleCoverageGap} (hw : w.Ok) (h0 : 0 ≤ w.start)
    (hlt : w.stop < endOfTexts) (hr : RunIn w.historyStart w.sourceEnd r) :
    clipRange ⟨g, r.first, r.last⟩ w.start w.stop =
      .ok ((clipRun w.start w.stop r).map (gapOf w.start w.stop)) := by
  have hclip : ∀ c, clipRun w.start w.stop r = some c → RunIn w.start w.stop c :=
    fun c hc => runIn_clipRun hr hw.grid_start hw.grid_stop hc
  unfold clipRun at hclip ⊢
  unfold clipRange
  dsimp only at hclip ⊢
  generalize (if r.first < w.start + hourNanoseconds then w.start + hourNanoseconds else r.first) =
    first at hclip ⊢
  generalize (if w.stop < r.last then w.stop else r.last) = last at hclip ⊢
  split_ifs at hclip ⊢ with hempty
  · rfl
  · have hin := hclip _ rfl
    have hle : first ≤ last := hin.le
    have hcount := hw.count_le
    have hbound := hin.count_le
    dsimp only at hbound
    have hquotient : 0 ≤ (last - first) / hourNanoseconds := Int.ediv_nonneg (by omega) (by decide)
    have hsafe : isSafeInteger ((last - first) / hourNanoseconds + 1) = true := by
      unfold isSafeInteger
      rw [decide_eq_true_eq]
      omega
    rw [Int.tdiv_eq_ediv_of_nonneg (by omega), throwIf, if_neg, ok_bind, formatGap_eq h0 hlt hin]
    · rfl
    · rw [hsafe, not_or, not_le]
      exact ⟨by decide, by omega⟩

theorem mem_hoursUpTo_iff {first last close : ℤ} : close ∈ hoursUpTo first last ↔
      OnGrid hourNanoseconds first close ∧ first ≤ close ∧ close ≤ last := by
  have hstep := hourNanoseconds_pos
  have hcount : (last - first) / hourNanoseconds + 1 =
      (last + hourNanoseconds - first) / hourNanoseconds := by
    rw [add_sub_right_comm, Int.add_ediv_of_dvd_right (Int.dvd_refl _), Int.ediv_self hstep.ne']
  have hpoints : hoursUpTo first last =
      gridPoints hourNanoseconds first ((last + hourNanoseconds - first) / hourNanoseconds).toNat := by
    rw [← hcount]
    rfl
  rw [hpoints, mem_gridPoints_iff hstep]
  constructor
  · rintro ⟨hclose, hfirst, hlast⟩
    exact ⟨hclose, hfirst, by omega⟩
  · rintro ⟨hclose, hfirst, hlast⟩
    exact ⟨hclose, hfirst, by omega⟩

/-- The observed intervals that lie in the window. -/
def observedIn (start stop : ℤ) (observed : List HourlyObservedInterval) :
    List HourlyObservedInterval :=
  observed.filter fun i => start ≤ instant i.openTime ∧ instant i.closeTime ≤ stop

namespace Setting

variable (h : Setting boundary observed lo up)
include h

theorem mem_opensOf_observedIn {start stop opening : ℤ} :
    opening ∈ opensOf (observedIn start stop observed) ↔
      opening ∈ opensOf observed ∧ start ≤ opening ∧ opening + hourNanoseconds ≤ stop := by
  unfold opensOf observedIn
  simp only [List.mem_map, List.mem_filter, decide_eq_true_eq]
  constructor
  · rintro ⟨i, ⟨hi, hstart, hstop⟩, rfl⟩
    rw [(h.hours i hi).close.2] at hstop
    exact ⟨⟨i, hi, rfl⟩, hstart, hstop⟩
  · rintro ⟨⟨i, hi, rfl⟩, hstart, hstop⟩
    refine ⟨i, ⟨hi, hstart, ?_⟩, rfl⟩
    rw [(h.hours i hi).close.2]
    exact hstop

theorem observedKeys_observedIn (start stop : ℤ) :
    observedKeys lo up (observedIn start stop observed) =
      .ok ((opensOf (observedIn start stop observed)).map keyOf) := by
  rw [observedKeys_eq_ok h.nonneg h.lt_endOfTexts]
  refine ⟨fun i hi => h.hours i (List.mem_of_mem_filter hi), rfl, ?_⟩
  have hsublist : (observedIn start stop observed).Sublist observed := List.filter_sublist
  exact h.nodup.sublist ((hsublist.map _).map _)

theorem mem_observedKeys_iff {start stop opening : ℤ}
    (hgrid : OnGrid hourNanoseconds lo opening) (hle : lo ≤ opening)
    (hend : opening + hourNanoseconds ≤ up) :
    keyOf opening ∈ (opensOf (observedIn start stop observed)).map keyOf ↔
      opening ∈ opensOf observed ∧ start ≤ opening ∧ opening + hourNanoseconds ≤ stop := by
  rw [h.mem_map_keyOf_iff (fun x hx => h.opens (h.mem_opensOf_observedIn.mp hx).1) hgrid hle hend,
    h.mem_opensOf_observedIn]

/-- The keys of the hours without a trade: they are not observed, and they are the missing hours. -/
theorem noTradeKeys_eq (start stop : ℤ) :
    ∃ keys, noTradeKeys ((opensOf (observedIn start stop observed)).map keyOf)
        ((missingRuns lo up (opensOf observed)).map (parsedOf lo up)) = .ok keys ∧
      ∀ opening, OnGrid hourNanoseconds lo opening → lo ≤ opening →
        opening + hourNanoseconds ≤ up → (keyOf opening ∈ keys ↔ opening ∉ opensOf observed) := by
  set missing := missingCloses lo up (opensOf observed) with hmissing
  have hstep := hourNanoseconds_pos
  have hlt := h.lt_endOfTexts
  have h0 := h.nonneg
  -- the hours of a run
  have hhours : ∀ r ∈ runs hourNanoseconds missing, ∀ close, close ∈ hoursUpTo r.first r.last ↔
      OnGrid hourNanoseconds lo close ∧ r.first ≤ close ∧ close ≤ r.last := by
    intro r hr close
    have hin : RunIn lo up r := runIn hr
    rw [mem_hoursUpTo_iff]
    refine and_congr_left fun _ => ⟨fun hgrid => ?_, fun hgrid => hin.grid_first.sub hgrid⟩
    have := Int.dvd_add hgrid hin.grid_first
    rwa [sub_add_sub_cancel] at this
  have hrange : ∀ range ∈ (runs hourNanoseconds missing).map (parsedOf lo up),
      (hoursUpTo range.firstClose range.lastClose).mapM
          (noTradeKey ((opensOf (observedIn start stop observed)).map keyOf)) =
        .ok ((hoursUpTo range.firstClose range.lastClose).map fun close =>
          keyOf (close - hourNanoseconds)) := by
    intro range hmem
    obtain ⟨r, hr, rfl⟩ := List.mem_map.mp hmem
    refine mapM_eq_ok_map fun close hclose => ?_
    obtain ⟨hgrid, hfirst, hlast⟩ := (hhours r hr close).mp hclose
    obtain ⟨-, hfrom, hto, hnot⟩ := mem_missingCloses_iff.mp (mem_missing_of_run hr hgrid hfirst hlast)
    have hkey := @intervalKey_eq (close - hourNanoseconds) (by omega) (by omega)
    rw [sub_add_cancel] at hkey
    unfold noTradeKey
    rw [hkey, ok_bind, throwIf, if_neg]
    · rfl
    · rw [h.mem_observedKeys_iff (onGrid_sub_iff.mpr hgrid) (by omega) (by omega)]
      exact fun hmem => hnot hmem.1
  refine ⟨_, by rw [noTradeKeys, mapM_eq_ok_map hrange]; rfl, fun opening hgrid hle hend => ?_⟩
  have hmem : opening + hourNanoseconds ∈ missing ↔ opening ∉ opensOf observed := by
    rw [hmissing, mem_missingCloses_iff, add_sub_cancel_right, onGrid_add_iff]
    exact ⟨fun hm => hm.2.2.2, fun hnot => ⟨hgrid, by omega, hend, hnot⟩⟩
  rw [← hmem, List.mem_flatten]
  simp only [List.mem_map]
  constructor
  · rintro ⟨_, ⟨_, ⟨r, hr, rfl⟩, rfl⟩, hkey⟩
    obtain ⟨close, hclose, hkey⟩ := List.mem_map.mp hkey
    obtain ⟨hgridC, hfirst, hlast⟩ := (hhours r hr close).mp hclose
    have hmissingC := mem_missing_of_run hr hgridC hfirst hlast
    obtain ⟨-, hfrom, hto, -⟩ := mem_missingCloses_iff.mp hmissingC
    have heq := keyOf_injective (by omega) (by omega) (by omega) (by omega)
      (onGrid_sub_iff.mpr hgridC) hgrid hkey
    rwa [← heq, sub_add_cancel]
  · intro hin
    obtain ⟨r, hr, hfirst, hlast⟩ := (mem_runs_iff (sorted_missingCloses _ _ _) hstep
      (fun y hy => missing_grid hy) (onGrid_add_iff.mpr hgrid)).mpr hin
    refine ⟨_, ⟨_, ⟨r, hr, rfl⟩, rfl⟩, List.mem_map.mpr ⟨opening + hourNanoseconds,
      (hhours r hr _).mpr ⟨onGrid_add_iff.mpr hgrid, hfirst, hlast⟩, ?_⟩⟩
    rw [add_sub_cancel_right]

omit h in
/-- A formatted neighbour was observed where it lies in the window. -/
theorem validateObservedNeighbor_stampOf {keys : List String}
    (hclose : ∀ t ∈ close, hourNanoseconds ≤ t ∧ t < endOfFourDigitYears)
    (hobserved : ∀ t ∈ close, start ≤ t - hourNanoseconds → t ≤ stop →
      keyOf (t - hourNanoseconds) ∈ keys) :
    validateObservedNeighbor keys start stop label (close.map stampOf) = .ok () := by
  cases close with
  | none => rfl
  | some t =>
    obtain ⟨h0, hlt⟩ := hclose t rfl
    have hstep := hourNanoseconds_pos
    have hdenotes : Denotes (stampOf t) t := (denotes_stampOf_iff (by omega) t).mpr ⟨hlt, rfl⟩
    rw [Option.map_some, validateObservedNeighbor,
      performanceTimestampEpochNanoseconds_eq_ok.mpr hdenotes, ok_bind]
    dsimp only
    split_ifs with hwindow
    · have hkey := @intervalKey_eq (t - hourNanoseconds) (by omega)
        (by rw [endOfTexts_eq, sub_add_cancel]; omega)
      rw [sub_add_cancel] at hkey
      rw [hkey, ok_bind, throwIf, if_neg]
      rw [not_not]
      exact hobserved t rfl hwindow.1 hwindow.2
    · rfl

/-- **The ranges of the missing hours are accepted in every window of the boundary.** -/
theorem partition_eq (hw : w.Ok) (hstart : w.historyStart = lo) (hend : w.sourceEnd = up)
    (hfrom : Denotes fromAt w.start) (hto : Denotes toAt w.stop)
    (hfour : ∀ c ∈ missingCloses lo up (opensOf observed), c < endOfFourDigitYears)
    (hnext : ∀ r ∈ missingRuns lo up (opensOf observed),
      ∀ t ∈ nextClose up r.last, t < endOfFourDigitYears) :
    ∃ p, partitionHourlyCoverage fromAt toAt boundary (observedIn w.start w.stop observed)
        ((missingRuns lo up (opensOf observed)).map (gapOf lo up)) = .ok p ∧
      p.observedIntervals =
        ((windowOpens w.start w.stop).filter (· ∈ opensOf observed)).map keyOf ∧
      p.verifiedNoTradeIntervals =
        ((windowOpens w.start w.stop).filter (· ∉ opensOf observed)).map keyOf ∧
      (p.unexplainedMissingIntervals = [] ∧ p.unexplainedMissingIntervalCount = 0) ∧
      p.verifiedNoTradeRanges =
        ((missingRuns lo up (opensOf observed)).filterMap
          (clipRun w.start w.stop)).map (gapOf w.start w.stop) := by
  set missing := missingCloses lo up (opensOf observed) with hmissing
  have hstep := hourNanoseconds_pos
  have hlt := h.lt_endOfTexts
  have h0 := h.nonneg
  have hle := hw.le_start
  have hle' := hw.stop_le
  have hlast : ∀ r ∈ runs hourNanoseconds missing, r.last < endOfFourDigitYears := fun r hr =>
    hfour _ (ends_runs (sorted_missingCloses _ _ _) hr).2.1
  have hwindow : parseWindow fromAt toAt boundary = .ok w := by
    rw [parseWindow_eq_ok, hstart, hend]
    exact ⟨hfrom, hto, h.historyStartAt, h.endAt, hw⟩
  have hranges : parseRanges lo up
      ((runs hourNanoseconds missing).map (gapOf lo up)) =
        .ok ((runs hourNanoseconds missing).map (parsedOf lo up)) :=
    (parseRangesFrom_gapOf h0
      (fun r hr => ⟨runIn hr, hlast r hr, (runIn hr).count_le.trans h.ok.count_le⟩)
      (apart_runs (sorted_missingCloses _ _ _) fun y hy => missing_grid hy) (by simp)).mpr ⟨rfl, hnext⟩
  obtain ⟨noTrade, hnoTrade, hmem⟩ := h.noTradeKeys_eq w.start w.stop
  have hneighbors : validateRangeNeighborsAgainstObservations
      ((runs hourNanoseconds missing).map (parsedOf lo up))
      ((opensOf (observedIn w.start w.stop observed)).map keyOf) w.start w.stop = .ok () := by
    refine forM_eq_ok.mpr fun range hrange => ?_
    obtain ⟨r, hr, rfl⟩ := List.mem_map.mp hrange
    have hin : RunIn lo up r := runIn hr
    have hfirst := hin.first_le
    have hrle := hin.le
    have hrlast := hlast r hr
    obtain ⟨hprevious, hafter⟩ := neighbors_of_run hr
    rw [then_eq_ok]
    constructor
    · refine validateObservedNeighbor_stampOf (fun t ht => ?_) fun t ht hts hte => ?_
      · have hlow := (h.opens (hprevious t ht)).2.1
        obtain ⟨rfl, -⟩ := previousClose_eq_some.mp ht
        omega
      · have hobserved := hprevious t ht
        obtain ⟨hgrid, hlow, hhigh⟩ := h.opens hobserved
        exact (h.mem_observedKeys_iff hgrid hlow hhigh).mpr ⟨hobserved, hts, by omega⟩
    · refine validateObservedNeighbor_stampOf (fun t ht => ⟨?_, hnext r hr t ht⟩)
        fun t ht hts hte => ?_
      · obtain ⟨rfl, -⟩ := nextClose_eq_some.mp ht
        omega
      · have hobserved := hafter t ht
        obtain ⟨hgrid, hlow, hhigh⟩ := h.opens hobserved
        exact (h.mem_observedKeys_iff hgrid hlow hhigh).mpr ⟨hobserved, hts, by omega⟩
  have hclipped : ((runs hourNanoseconds missing).map (parsedOf lo up)).mapM
      (fun range => clipRange range w.start w.stop) = .ok ((runs hourNanoseconds missing).map fun r =>
        (clipRun w.start w.stop r).map (gapOf w.start w.stop)) := by
    have hrange : ∀ r ∈ runs hourNanoseconds missing,
        clipRange (parsedOf lo up r) w.start w.stop =
          .ok ((clipRun w.start w.stop r).map (gapOf w.start w.stop)) := fun r hr =>
      clipRange_eq hw (by omega) (by omega) (by rw [hstart, hend]; exact runIn hr)
    rw [List.mapM_map]
    exact mapM_eq_ok_map hrange
  -- an hour of the window is an hour of the boundary
  have hopens : ∀ opening ∈ windowOpens w.start w.stop, OnGrid hourNanoseconds lo opening ∧
      w.start ≤ opening ∧ opening + hourNanoseconds ≤ w.stop := by
    intro opening hopening
    obtain ⟨hgrid, hlow, hhigh⟩ := mem_windowOpens_iff.mp hopening
    have hgridStart := hw.grid_start
    rw [hstart] at hgridStart
    refine ⟨?_, hlow, hhigh⟩
    have := Int.dvd_add hgrid hgridStart
    rwa [sub_add_sub_cancel] at this
  have hkeys : ∀ opening ∈ windowOpens w.start w.stop,
      (keyOf opening ∈ (opensOf (observedIn w.start w.stop observed)).map keyOf ↔
        opening ∈ opensOf observed) ∧ (keyOf opening ∈ noTrade ↔ opening ∉ opensOf observed) := by
    intro opening hopening
    obtain ⟨hgrid, hlow, hhigh⟩ := hopens opening hopening
    refine ⟨?_, hmem opening hgrid (by omega) (by omega)⟩
    rw [h.mem_observedKeys_iff hgrid (by omega) (by omega)]
    exact ⟨fun hm => hm.1, fun hm => ⟨hm, hlow, hhigh⟩⟩
  unfold partitionHourlyCoverage
  rw [hwindow, ok_bind, hstart, hend, h.observedKeys_observedIn, ok_bind, hranges, ok_bind, hnoTrade,
    ok_bind, hneighbors, ok_bind, h.windowKeys_eq hw hstart hend, ok_bind]
  dsimp only
  rw [formatNanoseconds_of_lt (by omega) (by have := hw.window; omega), ok_bind,
    formatNanoseconds_of_lt (by have := hw.window; omega) (by omega), ok_bind, hclipped, ok_bind]
  have hfilter : ∀ (p : String → Bool) (q : ℤ → Bool),
      (∀ opening ∈ windowOpens w.start w.stop, p (keyOf opening) = q opening) →
        ((windowOpens w.start w.stop).map keyOf).filter p =
          ((windowOpens w.start w.stop).filter q).map keyOf := fun p q hpq => by
    rw [List.filter_map]
    exact congrArg (List.map keyOf) (List.filter_congr hpq)
  have hunexplained : ((windowOpens w.start w.stop).map keyOf).filter (fun key =>
      key ∉ (opensOf (observedIn w.start w.stop observed)).map keyOf ∧ key ∉ noTrade) = [] := by
    rw [hfilter _ (fun _ => false) fun opening hopening => ?_]
    · simp
    · obtain ⟨hobserved, hnoTrade⟩ := hkeys opening hopening
      rw [decide_eq_false_iff_not, hobserved, hnoTrade]
      simp
  refine ⟨_, rfl, ?_, ?_, ⟨hunexplained, by rw [hunexplained]; rfl⟩, ?_⟩
  · exact hfilter _ _ fun opening hopening => decide_eq_decide.mpr (hkeys opening hopening).1
  · refine hfilter _ _ fun opening hopening => decide_eq_decide.mpr ?_
    obtain ⟨hobserved, hnoTrade⟩ := hkeys opening hopening
    rw [hobserved, hnoTrade, and_self]
  · delta List.reduceOption
    rw [List.filterMap_map, List.map_filterMap]
    rfl

end Setting

/-! ### The coverage that is created -/

theorem closesOfKeysFrom_keyOf {opens : List ℤ} (h0 : ∀ x ∈ opens, 0 ≤ x) {closes : List ℤ} :
    closesOfKeysFrom index (opens.map keyOf) = .ok closes ↔
      closes = opens.map (· + hourNanoseconds) ∧
        ∀ x ∈ opens, x + hourNanoseconds < endOfFourDigitYears := by
  induction opens generalizing index closes with
  | nil => simp [closesOfKeysFrom, eq_comm]
  | cons x opens ih =>
    rw [List.forall_mem_cons] at h0
    rw [List.map_cons, closesOfKeysFrom, bind_eq_ok, List.forall_mem_cons, List.map_cons]
    constructor
    · rintro ⟨close, hclose, hrest⟩
      obtain ⟨hlt, rfl⟩ := (closeOfKey_keyOf h0.1 index close).mp hclose
      obtain ⟨later, hlater, hcloses⟩ := bind_eq_ok.mp hrest
      obtain ⟨rfl, hall⟩ := (ih h0.2).mp hlater
      exact ⟨(Except.ok.inj hcloses).symm, hlt, hall⟩
    · rintro ⟨rfl, hlt, hall⟩
      refine ⟨_, (closeOfKey_keyOf h0.1 index _).mpr ⟨hlt, rfl⟩, ?_⟩
      rw [(ih h0.2).mpr ⟨rfl, hall⟩]
      rfl

theorem groupClosesFrom_eq {lo up first last count : ℤ} {closes : List ℤ}
    (h0 : 0 ≤ lo) (hlt : up < endOfTexts)
    (hrun : RunIn lo up ⟨first, last⟩)
    (hcount : count = (last - first) / hourNanoseconds + 1)
    (hcloses : ∀ c ∈ closes, OnGrid hourNanoseconds lo c ∧
      lo + hourNanoseconds ≤ c ∧ c ≤ up)
    (hsorted : (last :: closes).Pairwise (· < ·)) :
    groupClosesFrom lo up first last count closes =
      .ok ((runsFrom hourNanoseconds first last closes).map (gapOf lo up)) := by
  have hstep := hourNanoseconds_pos
  induction closes generalizing first last count with
  | nil =>
    rw [groupClosesFrom, hcount, formatGap_eq h0 hlt hrun]
    rfl
  | cons close closes ih =>
    rw [List.forall_mem_cons] at hcloses
    obtain ⟨⟨hgrid, hlow, hhigh⟩, hrest⟩ := hcloses
    obtain ⟨hafter, hsorted'⟩ := List.pairwise_cons.mp hsorted
    have hclose := hafter close List.mem_cons_self
    have hle := hrun.le
    rw [groupClosesFrom, runsFrom]
    split_ifs with hnext
    · refine ih ⟨?_, hrun.grid_first, hgrid, hrun.first_le, hhigh⟩ ?_ hrest hsorted'
      · change first ≤ close
        change first ≤ last at hle
        omega
      · rw [hcount, hnext, add_sub_right_comm, Int.add_ediv_of_dvd_right (Int.dvd_refl _),
          Int.ediv_self hstep.ne']
    · have htail := @ih close close 1 ⟨le_refl _, hgrid, hgrid, hlow, hhigh⟩
        (by rw [sub_self]; rfl) hrest hsorted'
      rw [hcount, formatGap_eq h0 hlt hrun, ok_bind, htail]
      rfl

theorem groupMissing_eq_ok {lo up : ℤ} (h : Setting boundary observed lo up) {opens : List ℤ}
    {ranges : List CandleCoverageGap} :
    groupMissingIntervals
        (((windowOpens lo up).filter (· ∉ opens)).map keyOf) boundary = .ok ranges ↔
      ranges = (missingRuns lo up opens).map (gapOf lo up) ∧
        ∀ c ∈ missingCloses lo up opens, c < endOfFourDigitYears := by
  have h0 := h.nonneg
  have hopens : ∀ x ∈ (windowOpens lo up).filter (· ∉ opens), 0 ≤ x := fun x hx =>
    h0.trans (mem_windowOpens_iff.mp (List.mem_of_mem_filter hx)).2.1
  have hcloses : ∀ c ∈ missingCloses lo up opens,
      OnGrid hourNanoseconds lo c ∧ lo + hourNanoseconds ≤ c ∧ c ≤ up :=
    fun c hc => by
      obtain ⟨hgrid, hlow, hhigh, -⟩ := mem_missingCloses_iff.mp hc
      exact ⟨hgrid, hlow, hhigh⟩
  have hfour : (∀ x ∈ (windowOpens lo up).filter (· ∉ opens),
      x + hourNanoseconds < endOfFourDigitYears) ↔
        ∀ c ∈ missingCloses lo up opens, c < endOfFourDigitYears := by
    unfold missingCloses
    rw [List.forall_mem_map]
  unfold groupMissingIntervals
  rw [performanceTimestampEpochNanoseconds_eq_ok.mpr h.historyStartAt, ok_bind,
    performanceTimestampEpochNanoseconds_eq_ok.mpr h.endAt, ok_bind, bind_eq_ok, ← hfour]
  simp only [closesOfKeysFrom_keyOf hopens]
  have hgroup : (match missingCloses lo up opens with
      | [] => Except.ok []
      | close :: rest => groupClosesFrom lo up close close 1 rest) =
        .ok ((missingRuns lo up opens).map (gapOf lo up)) := by
    have hsorted := sorted_missingCloses lo up opens
    unfold missingRuns
    cases hmissing : missingCloses lo up opens with
    | nil => rfl
    | cons close rest =>
      rw [hmissing] at hcloses hsorted
      rw [List.forall_mem_cons] at hcloses
      obtain ⟨⟨hgrid, hlow, hhigh⟩, hrest⟩ := hcloses
      exact groupClosesFrom_eq h0 h.lt_endOfTexts ⟨le_refl _, hgrid, hgrid, hlow, hhigh⟩
        (by rw [sub_self]; rfl) hrest hsorted
  constructor
  · rintro ⟨closes, ⟨rfl, hlt⟩, hranges⟩
    exact ⟨Except.ok.inj (hranges.symm.trans hgroup), hlt⟩
  · rintro ⟨rfl, hlt⟩
    exact ⟨_, ⟨rfl, hlt⟩, hgroup⟩

variable {p : HourlyCoveragePartition}

/-- Without ranges, the hours that were not observed are unexplained. -/
theorem unexplained_of_partition_nil (h1970 : 0 ≤ instant boundary.historyStartAt)
    (h : partitionHourlyCoverage boundary.historyStartAt boundary.endAt boundary observed [] = .ok p) :
    Setting boundary observed (instant boundary.historyStartAt) (instant boundary.endAt) ∧
      p.unexplainedMissingIntervals = ((windowOpens (instant boundary.historyStartAt)
        (instant boundary.endAt)).filter (· ∉ opensOf observed)).map keyOf := by
  unfold partitionHourlyCoverage at h
  obtain ⟨w, hw, h⟩ := bind_eq_ok.mp h
  obtain ⟨hstart, hstop, hhistory, hend, hok⟩ := parseWindow_eq_ok.mp hw
  obtain ⟨start, stop, lo, up⟩ := w
  dsimp only at hstart hstop hhistory hend h
  obtain ⟨hcandidate, rfl⟩ := hstart
  obtain ⟨hcandidate', rfl⟩ := hstop
  obtain ⟨-, rfl⟩ := hhistory
  obtain ⟨-, rfl⟩ := hend
  obtain ⟨keys, hkeys, h⟩ := bind_eq_ok.mp h
  obtain ⟨hhours, rfl, hnodup⟩ := (observedKeys_eq_ok h1970 (instant_lt hcandidate')).mp hkeys
  have hsetting : Setting boundary observed (instant boundary.historyStartAt)
      (instant boundary.endAt) :=
    ⟨⟨hcandidate, rfl⟩, ⟨hcandidate', rfl⟩, h1970, hok, hhours, hnodup⟩
  have hranges : parseRanges (instant boundary.historyStartAt) (instant boundary.endAt) [] = .ok [] :=
    rfl
  have hnoTrade : noTradeKeys ((opensOf observed).map keyOf) [] = .ok [] := rfl
  have hneighbors : validateRangeNeighborsAgainstObservations [] ((opensOf observed).map keyOf)
      (instant boundary.historyStartAt) (instant boundary.endAt) = .ok () := rfl
  rw [hranges, ok_bind, hnoTrade, ok_bind, hneighbors, ok_bind,
    hsetting.windowKeys_eq hok rfl rfl, ok_bind] at h
  dsimp only at h
  obtain ⟨fromText, -, h⟩ := bind_eq_ok.mp h
  obtain ⟨toText, -, h⟩ := bind_eq_ok.mp h
  obtain ⟨clipped, -, h⟩ := bind_eq_ok.mp h
  refine ⟨hsetting, ?_⟩
  rw [← Except.ok.inj h]
  dsimp only
  rw [List.filter_map]
  refine congrArg (List.map keyOf) (List.filter_congr fun opening hopening => decide_eq_decide.mpr ?_)
  obtain ⟨hgrid, hlow, hhigh⟩ := mem_windowOpens_iff.mp hopening
  rw [hsetting.mem_map_keyOf_iff (fun x hx => hsetting.opens hx) hgrid hlow hhigh]
  simp

/-- **The coverage of a boundary**: the ranges are the runs of its missing hours. -/
theorem create_eq_ok {coverage : VerifiedNoTradeCoverage}
    (h1970 : 0 ≤ instant boundary.historyStartAt)
    (h : createVerifiedNoTradeCoverage boundary observed = .ok coverage) :
    observed.length ≠ 0 ∧
      Setting boundary observed (instant boundary.historyStartAt) (instant boundary.endAt) ∧
      coverage = ⟨boundary, (missingRuns (instant boundary.historyStartAt)
        (instant boundary.endAt) (opensOf observed)).map
          (gapOf (instant boundary.historyStartAt) (instant boundary.endAt))⟩ ∧
      ∀ c ∈ missingCloses (instant boundary.historyStartAt) (instant boundary.endAt) (opensOf observed),
        c < endOfFourDigitYears := by
  unfold createVerifiedNoTradeCoverage at h
  rw [then_eq_ok, throwIf_eq_ok] at h
  obtain ⟨hne, h⟩ := h
  obtain ⟨p, hp, h⟩ := bind_eq_ok.mp h
  obtain ⟨ranges, hranges, h⟩ := bind_eq_ok.mp h
  obtain ⟨hsetting, hunexplained⟩ := unexplained_of_partition_nil h1970 hp
  rw [hunexplained] at hranges
  obtain ⟨rfl, hfour⟩ := (groupMissing_eq_ok hsetting).mp hranges
  exact ⟨hne, hsetting, (Except.ok.inj h).symm, hfour⟩

/-! ### The round trip -/

/-- The hour that closes at the instant lies in the boundary and was not observed. -/
def MissingClose (boundary : SourceBoundary) (observed : List HourlyObservedInterval) (close : ℤ) :
    Prop :=
  OnGrid hourNanoseconds (instant boundary.historyStartAt) close ∧
    instant boundary.historyStartAt + hourNanoseconds ≤ close ∧ close ≤ instant boundary.endAt ∧
    ∀ i ∈ observed, instant i.openTime + hourNanoseconds ≠ close

theorem missingClose_iff {close : ℤ} : MissingClose boundary observed close ↔ close ∈ missingCloses
      (instant boundary.historyStartAt) (instant boundary.endAt) (opensOf observed) := by
  have hopens : (∀ i ∈ observed, instant i.openTime + hourNanoseconds ≠ close) ↔
      close - hourNanoseconds ∉ opensOf observed := by
    unfold opensOf
    rw [List.mem_map]
    constructor
    · rintro hall ⟨i, hi, heq⟩
      exact hall i hi (by omega)
    · intro hnot i hi heq
      exact hnot ⟨i, hi, by omega⟩
  unfold MissingClose
  rw [mem_missingCloses_iff, hopens]

/-- The hours of a range. -/
def gapSpan (gap : CandleCoverageGap) : Lib.Intervals.Interval ℤ :=
  ⟨instant gap.firstMissingCloseTime - hourNanoseconds, instant gap.lastMissingCloseTime⟩

/-- Every hour of the window is observed or without a trade, and the ranges are the hours without a
trade. -/
structure WindowPartition (observed : List HourlyObservedInterval) (start stop : ℤ)
    (p : HourlyCoveragePartition) : Prop where
  exactly_one : ∀ opening ∈ windowOpens start stop,
    Xor (keyOf opening ∈ p.observedIntervals) (keyOf opening ∈ p.verifiedNoTradeIntervals)
  observed_iff : ∀ opening ∈ windowOpens start stop,
    (keyOf opening ∈ p.observedIntervals ↔ ∃ i ∈ observed, instant i.openTime = opening)
  only_hours : ∀ key ∈ p.observedIntervals ++ p.verifiedNoTradeIntervals,
    ∃ opening ∈ windowOpens start stop, keyOf opening = key
  nodup : (p.observedIntervals ++ p.verifiedNoTradeIntervals).Nodup
  none_unexplained : p.unexplainedMissingIntervals = [] ∧ p.unexplainedMissingIntervalCount = 0
  readable : ∀ gap ∈ p.verifiedNoTradeRanges, IsCandidateTimestamp gap.firstMissingCloseTime ∧
    IsCandidateTimestamp gap.lastMissingCloseTime
  covered_iff : ∀ t, Covered (p.verifiedNoTradeRanges.map gapSpan) t ↔
    ∃ opening ∈ windowOpens start stop, keyOf opening ∈ p.verifiedNoTradeIntervals ∧
      opening ≤ t ∧ t < opening + hourNanoseconds

/-- The coverage comes back from its ranges, and its ranges are accepted in every window. -/
structure RoundTrips (boundary : SourceBoundary) (observed : List HourlyObservedInterval)
    (coverage : VerifiedNoTradeCoverage) : Prop where
  same : createVerifiedNoTradeCoverageFromRanges boundary observed coverage.ranges = .ok coverage
  windows : ∀ fromAt toAt start stop, Denotes fromAt start → Denotes toAt stop → start < stop →
    OnGrid hourNanoseconds (instant boundary.historyStartAt) start →
    OnGrid hourNanoseconds (instant boundary.historyStartAt) stop →
    instant boundary.historyStartAt ≤ start → stop ≤ instant boundary.endAt →
    ∃ p, partitionHourlyCoverage fromAt toAt boundary (observedIn start stop observed)
      coverage.ranges = .ok p ∧ WindowPartition observed start stop p

namespace Setting

variable (h : Setting boundary observed lo up) {start stop : ℤ}
  (hw : (CoverageWindow.mk start stop lo up).Ok)
include h hw

omit h in
theorem boundary_of_window (hopening : opening ∈ windowOpens start stop) :
    OnGrid hourNanoseconds lo opening ∧ lo ≤ opening ∧
      opening + hourNanoseconds ≤ up := by
  obtain ⟨hgrid, hlow, hhigh⟩ := mem_windowOpens_iff.mp hopening
  refine ⟨?_, hw.le_start.trans hlow, hhigh.trans hw.stop_le⟩
  have := Int.dvd_add hgrid hw.grid_start
  rwa [sub_add_sub_cancel] at this

theorem mem_filter_map_keyOf_iff {p : ℤ → Bool} (hopening : opening ∈ windowOpens start stop) :
    keyOf opening ∈ ((windowOpens start stop).filter p).map keyOf ↔ p opening = true := by
  obtain ⟨hgrid, hlow, hhigh⟩ := boundary_of_window hw hopening
  rw [h.mem_map_keyOf_iff (fun x hx => boundary_of_window hw (List.mem_of_mem_filter hx)) hgrid hlow
    hhigh, List.mem_filter]
  exact ⟨fun hm => hm.2, fun hp => ⟨hopening, hp⟩⟩

theorem nodup_keys : ((windowOpens start stop).map keyOf).Nodup := by
  have hstep := hourNanoseconds_pos
  have hlt := h.lt_endOfTexts
  have h0 := h.nonneg
  refine List.Nodup.map_on (fun x hx y hy hkey => ?_)
    ((sorted_gridPoints hstep _ _).imp fun hlt => hlt.ne)
  obtain ⟨hgridX, hlowX, hhighX⟩ := boundary_of_window hw hx
  obtain ⟨hgridY, hlowY, hhighY⟩ := boundary_of_window hw hy
  exact keyOf_injective (by omega) (by omega) (by omega) (by omega) hgridX hgridY hkey

omit h in
/-- The clipped runs have the missing hours of the window. -/
theorem covered_clipped_iff (t : ℤ) :
    (∃ c ∈ (missingRuns lo up (opensOf observed)).filterMap
        (clipRun start stop), c.first - hourNanoseconds ≤ t ∧ t < c.last) ↔
      ∃ opening ∈ windowOpens start stop, opening ∉ opensOf observed ∧ opening ≤ t ∧
        t < opening + hourNanoseconds := by
  have hstep := hourNanoseconds_pos
  have hcovered := covered_runs_iff (sorted_missingCloses lo up (opensOf observed))
    hstep (fun y hy => missing_grid hy) (t + hourNanoseconds)
  have hgridStart : OnGrid hourNanoseconds lo start := hw.grid_start
  have hgridStop : OnGrid hourNanoseconds lo stop := hw.grid_stop
  constructor
  · rintro ⟨c, hc, hlow, hhigh⟩
    obtain ⟨r, hr, hclip⟩ := List.mem_filterMap.mp hc
    obtain ⟨rfl, -⟩ := clipRun_eq_some.mp hclip
    dsimp only at hlow hhigh
    obtain ⟨close, hclose, hle, hlt⟩ := hcovered.mp
      ⟨_, List.mem_map_of_mem hr, show r.first ≤ t + hourNanoseconds by omega,
        show t + hourNanoseconds < r.last + hourNanoseconds by omega⟩
    obtain ⟨hgrid, -, -, hnot⟩ := mem_missingCloses_iff.mp hclose
    have hgridOpen := onGrid_sub_iff.mpr hgrid
    have hfrom : start ≤ close - hourNanoseconds := by
      by_contra hlt'
      have := hgridOpen.next hgridStart (not_le.mp hlt')
      omega
    have hto : close ≤ stop := by
      have := hgridOpen.next hgridStop (by omega)
      omega
    exact ⟨close - hourNanoseconds, mem_windowOpens_iff.mpr ⟨hgridStart.sub hgridOpen, hfrom, by omega⟩,
      hnot, by omega, by omega⟩
  · rintro ⟨opening, hopening, hnot, hle, hlt⟩
    obtain ⟨hgrid, hlow, hhigh⟩ := boundary_of_window hw hopening
    obtain ⟨-, hlowW, hhighW⟩ := mem_windowOpens_iff.mp hopening
    have hmissing : opening + hourNanoseconds ∈
        missingCloses lo up (opensOf observed) := by
      rw [mem_missingCloses_iff, add_sub_cancel_right, onGrid_add_iff]
      exact ⟨hgrid, by omega, hhigh, hnot⟩
    obtain ⟨_, hi, hfirst, hlast⟩ := hcovered.mpr ⟨_, hmissing, by omega, by omega⟩
    obtain ⟨r, hr, rfl⟩ := List.mem_map.mp hi
    change r.first ≤ t + hourNanoseconds at hfirst
    change t + hourNanoseconds < r.last + hourNanoseconds at hlast
    have hin : RunIn lo up r := runIn hr
    have hclip : max r.first (start + hourNanoseconds) ≤ min r.last stop := by
      by_contra hgt
      have := (onGrid_min hin.grid_last hgridStop).next
        (onGrid_max hin.grid_first (onGrid_add_iff.mpr hgridStart)) (not_le.mp hgt)
      omega
    exact ⟨_, List.mem_filterMap.mpr ⟨r, hr, clipRun_eq_some.mpr ⟨rfl, hclip⟩⟩, by dsimp only; omega,
      by dsimp only; omega⟩

theorem windowPartition
    (hfour : ∀ c ∈ missingCloses lo up (opensOf observed), c < endOfFourDigitYears)
    (hobserved : p.observedIntervals =
      ((windowOpens start stop).filter (· ∈ opensOf observed)).map keyOf)
    (hverified : p.verifiedNoTradeIntervals =
      ((windowOpens start stop).filter (· ∉ opensOf observed)).map keyOf)
    (hunexplained : p.unexplainedMissingIntervals = [] ∧ p.unexplainedMissingIntervalCount = 0)
    (hranges : p.verifiedNoTradeRanges =
      ((missingRuns lo up (opensOf observed)).filterMap
        (clipRun start stop)).map (gapOf start stop)) : WindowPartition observed start stop p := by
  have hstep := hourNanoseconds_pos
  have h0 := h.nonneg
  have hmem : ∀ opening ∈ windowOpens start stop,
      (keyOf opening ∈ p.observedIntervals ↔ opening ∈ opensOf observed) ∧
        (keyOf opening ∈ p.verifiedNoTradeIntervals ↔ opening ∉ opensOf observed) := by
    intro opening hopening
    rw [hobserved, hverified, h.mem_filter_map_keyOf_iff hw hopening,
      h.mem_filter_map_keyOf_iff hw hopening, decide_eq_true_eq, decide_eq_true_eq]
    exact ⟨Iff.rfl, Iff.rfl⟩
  -- the ends of a clipped run are read back
  have hends : ∀ c ∈ (missingRuns lo up (opensOf observed)).filterMap (clipRun start stop),
      Denotes (stampOf c.first) c.first ∧ Denotes (stampOf c.last) c.last := by
    intro c hc
    obtain ⟨r, hr, hclip⟩ := List.mem_filterMap.mp hc
    have hin := runIn_clipRun (runIn hr) hw.grid_start hw.grid_stop hclip
    have hle := hin.le
    have hfirst : start + hourNanoseconds ≤ c.first := hin.first_le
    have hstart : lo ≤ start := hw.le_start
    have hlast : c.last < endOfFourDigitYears := by
      have hr' := hfour _ (ends_runs (sorted_missingCloses _ _ _) hr).2.1
      obtain ⟨rfl, -⟩ := clipRun_eq_some.mp hclip
      exact (min_le_left _ _).trans_lt hr'
    exact ⟨(denotes_stampOf_iff (by omega) _).mpr ⟨by omega, rfl⟩,
      (denotes_stampOf_iff (by omega) _).mpr ⟨hlast, rfl⟩⟩
  refine
    { exactly_one := fun opening hopening => ?_
      observed_iff := fun opening hopening => ?_
      only_hours := fun key hkey => ?_
      nodup := ?_
      none_unexplained := hunexplained
      readable := fun gap hgap => ?_
      covered_iff := fun t => ?_ }
  · obtain ⟨hobs, hver⟩ := hmem opening hopening
    rw [Xor, hobs, hver]
    by_cases hin : opening ∈ opensOf observed
    · exact Or.inl ⟨hin, fun hnot => hnot hin⟩
    · exact Or.inr ⟨hin, hin⟩
  · rw [(hmem opening hopening).1, opensOf, List.mem_map]
  · rw [hobserved, hverified, ← List.map_append] at hkey
    obtain ⟨opening, hopening, hkey⟩ := List.mem_map.mp hkey
    refine ⟨opening, ?_, hkey⟩
    rcases List.mem_append.mp hopening with hopening | hopening
    · exact List.mem_of_mem_filter hopening
    · exact List.mem_of_mem_filter hopening
  · have hperm := List.filter_append_perm (· ∈ opensOf observed) (windowOpens start stop)
    simp only [← decide_not] at hperm
    rw [hobserved, hverified, ← List.map_append]
    exact ((hperm.map keyOf).nodup_iff).mpr (h.nodup_keys hw)
  · rw [hranges] at hgap
    obtain ⟨c, hc, rfl⟩ := List.mem_map.mp hgap
    exact ⟨(hends c hc).1.1, (hends c hc).2.1⟩
  · have hspans : Covered (p.verifiedNoTradeRanges.map gapSpan) t ↔
        ∃ c ∈ (missingRuns lo up (opensOf observed)).filterMap (clipRun start stop),
          c.first - hourNanoseconds ≤ t ∧ t < c.last := by
      have hspan : ∀ c ∈ (missingRuns lo up (opensOf observed)).filterMap (clipRun start stop),
          gapSpan (gapOf start stop c) = ⟨c.first - hourNanoseconds, c.last⟩ := fun c hc => by
        change (⟨instant (stampOf c.first) - hourNanoseconds, instant (stampOf c.last)⟩ :
          Lib.Intervals.Interval ℤ) = _
        rw [(hends c hc).1.2, (hends c hc).2.2]
      rw [hranges, List.map_map]
      constructor
      · rintro ⟨i, hi, hhas⟩
        obtain ⟨c, hc, rfl⟩ := List.mem_map.mp hi
        rw [Function.comp_apply, hspan c hc] at hhas
        exact ⟨c, hc, hhas⟩
      · rintro ⟨c, hc, hhas⟩
        refine ⟨_, List.mem_map_of_mem hc, ?_⟩
        rw [Function.comp_apply, hspan c hc]
        exact hhas
    rw [hspans, covered_clipped_iff hw]
    refine exists_congr fun opening => and_congr_right fun hopening => ?_
    rw [(hmem opening hopening).2]

end Setting

section RoundTrip

open Setting

variable {coverage : VerifiedNoTradeCoverage} (h1970 : 0 ≤ instant boundary.historyStartAt)
  (h : createVerifiedNoTradeCoverage boundary observed = .ok coverage)
include h1970 h

/-- Ranges that are accepted again have readable neighbours. -/
theorem next_of_same
    (hsame : createVerifiedNoTradeCoverageFromRanges boundary observed coverage.ranges =
      .ok coverage) {close : ℤ} (hclose : MissingClose boundary observed close)
    (hend : close + hourNanoseconds ≤ instant boundary.endAt) :
    close + hourNanoseconds < endOfFourDigitYears := by
  have hstep := hourNanoseconds_pos
  obtain ⟨-, hsetting, hcoverage, hfour⟩ := create_eq_ok h1970 h
  unfold createVerifiedNoTradeCoverageFromRanges at hsame
  rw [then_eq_ok] at hsame
  obtain ⟨p, hp, -⟩ := bind_eq_ok.mp hsame.2
  unfold partitionHourlyCoverage at hp
  obtain ⟨w, hw, hp⟩ := bind_eq_ok.mp hp
  obtain ⟨-, -, hhistory, hsourceEnd, -⟩ := parseWindow_eq_ok.mp hw
  obtain ⟨keys, -, hp⟩ := bind_eq_ok.mp hp
  obtain ⟨parsed, hparsed, -⟩ := bind_eq_ok.mp hp
  rw [← hhistory.2, ← hsourceEnd.2, hcoverage] at hparsed
  have hnext := ((parseRangesFrom_gapOf h1970
    (fun r hr => ⟨runIn hr, hfour _ (ends_runs (sorted_missingCloses _ _ _) hr).2.1,
      (runIn hr).count_le.trans hsetting.ok.count_le⟩)
    (apart_runs (sorted_missingCloses _ _ _) fun y hy => missing_grid hy) (by simp)).mp hparsed).2
  -- the hour is the last of its run, or the next one is missing too
  have hmem := missingClose_iff.mp hclose
  obtain ⟨r, hr, hfirst, hlast⟩ := (mem_runs_iff (sorted_missingCloses _ _ _) hstep
    (fun y hy => missing_grid hy) (missing_grid hmem)).mpr hmem
  have hin : RunIn _ _ r := runIn hr
  rcases hlast.lt_or_eq with hlt | heq
  · have hle := (missing_grid hmem).next hin.grid_last hlt
    exact hle.trans_lt (hfour _ (ends_runs (sorted_missingCloses _ _ _) hr).2.1)
  · exact hnext r hr _ (nextClose_eq_some.mpr ⟨by rw [← heq], hend⟩)

/-- **The coverage makes its round trip** exactly when no hour that closes after the year `9999`
follows a missing one. -/
theorem roundTrips_iff : RoundTrips boundary observed coverage ↔
    ∀ close, MissingClose boundary observed close → close + hourNanoseconds ≤ instant boundary.endAt →
      close + hourNanoseconds < endOfFourDigitYears := by
  constructor
  · intro htrips close hclose hend
    exact next_of_same h1970 h htrips.same hclose hend
  · intro hnextHour
    obtain ⟨hne, hsetting, rfl, hfour⟩ := create_eq_ok h1970 h
    have hnext : ∀ r ∈ missingRuns (instant boundary.historyStartAt)
        (instant boundary.endAt) (opensOf observed),
        ∀ t ∈ nextClose (instant boundary.endAt) r.last, t < endOfFourDigitYears := by
      intro r hr t ht
      obtain ⟨rfl, hend⟩ := nextClose_eq_some.mp ht
      exact hnextHour _ (missingClose_iff.mpr (ends_runs (sorted_missingCloses _ _ _) hr).2.1) hend
    refine ⟨?_, fun fromAt toAt start stop hfrom hto hlt hgridStart hgridStop hle hle' => ?_⟩
    · obtain ⟨p, hp, -, -, hunexplained, hranges⟩ := hsetting.partition_eq hsetting.ok rfl rfl
        hsetting.historyStartAt hsetting.endAt hfour hnext
      have hall : observedIn (instant boundary.historyStartAt) (instant boundary.endAt) observed =
          observed := by
        refine List.filter_eq_self.mpr fun i hi => ?_
        rw [decide_eq_true_eq, (hsetting.hours i hi).close.2]
        exact (hsetting.hours i hi).inside
      have hclip : (missingRuns (instant boundary.historyStartAt)
          (instant boundary.endAt) (opensOf observed)).filterMap
            (clipRun (instant boundary.historyStartAt) (instant boundary.endAt)) =
          missingRuns (instant boundary.historyStartAt)
            (instant boundary.endAt) (opensOf observed) := by
        refine (List.filterMap_congr fun r hr => ?_).trans List.filterMap_some
        have hin := runIn hr
        rw [clipRun_eq_some, max_eq_left hin.first_le, min_eq_left hin.last_le]
        exact ⟨rfl, hin.le⟩
      rw [hall] at hp
      unfold createVerifiedNoTradeCoverageFromRanges
      rw [throwIf, if_neg hne, ok_bind, hp, ok_bind, throwIf, if_neg (by rw [hunexplained.2]; decide),
        ok_bind, hranges, hclip]
    · have hok := hsetting.ok
      have hcount : (stop - start) / hourNanoseconds ≤ 9007199254740991 :=
        (Int.ediv_le_ediv (by decide) (show stop - start ≤
          instant boundary.endAt - instant boundary.historyStartAt by omega)).trans hok.count_le
      have hw : (CoverageWindow.mk start stop (instant boundary.historyStartAt)
          (instant boundary.endAt)).Ok :=
        ⟨hok.boundary, hok.grid_sourceEnd, hlt, hgridStart, hgridStop, hle, hle', hcount⟩
      obtain ⟨p, hp, hobserved, hverified, hunexplained, hranges⟩ :=
        hsetting.partition_eq hw rfl rfl hfrom hto hfour hnext
      exact ⟨p, hp, hsetting.windowPartition hw hfour hobserved hverified hunexplained hranges⟩

end RoundTrip

/-- Four hours from half past midnight on, of which the second and the third were not observed. -/
def gapBoundary : SourceBoundary := ⟨"2024-01-01T00:30:00.000Z", "2024-01-01T13:30:00.000+09:00"⟩

def gapObserved : List HourlyObservedInterval :=
  [⟨"2024-01-01T00:30:00.000Z", "2024-01-01T01:30:00.000Z"⟩,
    ⟨"2024-01-01T03:30:00.000Z", "2024-01-01T04:30:00.000Z"⟩]

def gapCoverage : VerifiedNoTradeCoverage :=
  ⟨gapBoundary, [⟨"2024-01-01T02:30:00.000000000Z", "2024-01-01T03:30:00.000000000Z", 2,
    some "2024-01-01T01:30:00.000000000Z", some "2024-01-01T04:30:00.000000000Z"⟩]⟩

theorem roundTrips_iff_gap : RoundTrips gapBoundary gapObserved gapCoverage :=
  (roundTrips_iff (by decide +kernel) (by decide +kernel)).mpr fun _ _ hend =>
    hend.trans_lt (by decide +kernel)

/-- The last three hours of a boundary that ends half an hour after the year `9999`. -/
def lateBoundary : SourceBoundary := ⟨"9999-12-31T21:30:00.000Z", "9999-12-31T23:30:00.000-01:00"⟩

def lateObserved : List HourlyObservedInterval :=
  [⟨"9999-12-31T21:30:00.000Z", "9999-12-31T22:30:00.000Z"⟩,
    ⟨"9999-12-31T23:30:00.000Z", "9999-12-31T23:30:00.000-01:00"⟩]

def lateCoverage : VerifiedNoTradeCoverage :=
  ⟨lateBoundary, [⟨"9999-12-31T23:30:00.000000000Z", "9999-12-31T23:30:00.000000000Z", 1,
    some "9999-12-31T22:30:00.000000000Z", some "+010000-01-01T00:30.000000000Z"⟩]⟩

/-- **The neighbour of a range is written in a form that is not read again** where it closes after
the year `9999`. -/
theorem late_not_same :
    createVerifiedNoTradeCoverage lateBoundary lateObserved = .ok lateCoverage ∧
      createVerifiedNoTradeCoverageFromRanges lateBoundary lateObserved lateCoverage.ranges =
        .error ("Verified no-trade range 0 nextObservedCloseTime must be an exact ISO-8601 timestamp " ++
          "with an explicit timezone.") := by
  decide +kernel

end AutoTrade.Performance.HourlyCoverage
