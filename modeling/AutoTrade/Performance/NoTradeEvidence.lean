import AutoTrade.Lib.Intervals
import AutoTrade.Performance.CandleDataset

/-! # Independent evidence of hours without a trade

`research-no-trade-evidence.ts`: the evidence that nothing was traded in the hours that a dataset lacks,
its validation, and how much of the missing hours it covers. Ranges are half-open, between texts;
`span` is the interval of instants that a range denotes.

`coverage_exact`: the classification is exact arithmetic on these intervals. -/

namespace AutoTrade.Performance.NoTradeEvidence

open Lib.Text Lib.Result Lib.Intervals Domain.Types
open Domain.Timestamp Strategy.Core
open Performance.Timestamp Performance.CandleDataset

/-! ### Records -/

structure ResearchNoTradeRange where
  fromAt : String
  toAt : String
  deriving DecidableEq

structure ResearchNoTradeQuerySegment extends ResearchNoTradeRange where
  paginationComplete : Bool
  responseFingerprint : String

/-- `ResearchNoTradeEvidenceProvenance` without its checksum and its single-valued fields. -/
structure EvidenceProvenanceBody extends ResearchNoTradeRange where
  asset : SupportedAsset
  market : SupportedMarket
  parentDatasetSha256 : String
  source : String
  collectorVersion : String
  collectedAt : String

structure ResearchNoTradeEvidenceProvenance extends EvidenceProvenanceBody where
  sha256 : String

structure ResearchNoTradeEvidence where
  provenance : ResearchNoTradeEvidenceProvenance
  querySegments : List ResearchNoTradeQuerySegment
  verifiedNoTradeRanges : List ResearchNoTradeRange

structure ResearchNoTradeEvidenceWithoutChecksum where
  provenance : EvidenceProvenanceBody
  querySegments : List ResearchNoTradeQuerySegment
  verifiedNoTradeRanges : List ResearchNoTradeRange

def ResearchNoTradeEvidence.body (evidence : ResearchNoTradeEvidence) :
    ResearchNoTradeEvidenceWithoutChecksum :=
  ⟨evidence.provenance.toEvidenceProvenanceBody, evidence.querySegments,
    evidence.verifiedNoTradeRanges⟩

inductive IndependentNoTradeCoverageStatus
  | dense
  | verifiedSparse
  | unverifiedSparse
  deriving DecidableEq

structure IndependentNoTradeCoverage where
  status : IndependentNoTradeCoverageStatus
  missingRanges : List ResearchNoTradeRange
  uncoveredRanges : List ResearchNoTradeRange
  deriving DecidableEq

/-- The digests of the canonical JSON of a dataset and of evidence. -/
structure Digests where
  dataset : ResearchCandleDatasetWithoutChecksum → String
  evidence : ResearchNoTradeEvidenceWithoutChecksum → String

/-! ### The parser -/

def evidenceError (text : String) : String := "Research no-trade evidence " ++ text

def requireEvidenceTimestamp (value label : String) : Except String ℤ :=
  requireTimestamp value
    (evidenceError (label ++ " must be an exact timestamp with an explicit timezone."))

def requireNonEmptyString (value label : String) : Except String Unit :=
  throwIf (isBlank value = true) (evidenceError (label ++ " must be a non-empty string."))

/-- `parseProvenance`, up to the checksum: the instants of the range. -/
def parseProvenance (provenance : EvidenceProvenanceBody) :
    Except String (Lib.Intervals.Interval ℤ) := do
  throwIf (provenance.market ≠ getMarketForAsset provenance.asset)
    (evidenceError ("market must be " ++ (getMarketForAsset provenance.asset).text ++ " for " ++
      assetText provenance.asset ++ "."))
  let fromAt ← requireEvidenceTimestamp provenance.fromAt "evidence from"
  let toAt ← requireEvidenceTimestamp provenance.toAt "evidence to"
  let collectedAt ← requireEvidenceTimestamp provenance.collectedAt "evidence collectedAt"
  throwIf (toAt ≤ fromAt) (evidenceError "range must have from before to.")
  throwIf (collectedAt < toAt) (evidenceError "collectedAt must be at or after to.")
  requireNonEmptyString provenance.parentDatasetSha256 "parentDatasetSha256"
  throwIf (isSha256Hex provenance.parentDatasetSha256 = false)
    (evidenceError "parentDatasetSha256 must be a lowercase SHA-256 hex digest.")
  requireNonEmptyString provenance.source "source"
  requireNonEmptyString provenance.collectorVersion "collectorVersion"
  .ok ⟨fromAt, toAt⟩

/-- `assertContainedRange`. -/
def assertContainedRange (range container : Lib.Intervals.Interval ℤ) (label : String) :
    Except String Unit := do
  throwIf (range.stop ≤ range.start) (evidenceError (label ++ " must have from before to."))
  throwIf (range.start < container.start ∨ container.stop < range.stop)
    (evidenceError (label ++ " must be within the evidence range."))

/-- A range of the evidence, after one that ends at `previousEnd`. -/
def parseRange (container : Lib.Intervals.Interval ℤ) (label : String) (index : ℕ)
    (previousEnd : Option ℤ) (range : ResearchNoTradeRange) :
    Except String (Lib.Intervals.Interval ℤ) := do
  let place := label ++ "[" ++ toString index ++ "]"
  let fromAt ← requireEvidenceTimestamp range.fromAt (place ++ ".from")
  let toAt ← requireEvidenceTimestamp range.toAt (place ++ ".to")
  assertContainedRange ⟨fromAt, toAt⟩ container place
  throwIf (previousEnd.any fun t => fromAt < t)
    (evidenceError (label ++ " must be ordered and non-overlapping."))
  .ok ⟨fromAt, toAt⟩

def parseRangesFrom (container : Lib.Intervals.Interval ℤ) (label : String) :
    ℕ → Option ℤ → List ResearchNoTradeRange → Except String (List (Lib.Intervals.Interval ℤ))
  | _, _, [] => .ok []
  | index, previousEnd, range :: rest => do
    let i ← parseRange container label index previousEnd range
    let later ← parseRangesFrom container label (index + 1) (some i.stop) rest
    .ok (i :: later)

/-- `parseRanges`, which returns the ranges as they are: here their intervals. -/
def parseRanges (container : Lib.Intervals.Interval ℤ) (label : String)
    (ranges : List ResearchNoTradeRange) : Except String (List (Lib.Intervals.Interval ℤ)) :=
  parseRangesFrom container label 0 none ranges

/-- `parseQuerySegments`: the fingerprint of a segment is looked at before its range. -/
def parseQuerySegmentsFrom (container : Lib.Intervals.Interval ℤ) :
    ℕ → Option ℤ → List ResearchNoTradeQuerySegment → Except String (List (Lib.Intervals.Interval ℤ))
  | _, _, [] => .ok []
  | index, previousEnd, segment :: rest => do
    throwIf (isSha256Hex segment.responseFingerprint = false)
      (evidenceError ("querySegments[" ++ toString index ++
        "] responseFingerprint must be a lowercase SHA-256 hex digest."))
    let i ← parseRange container "querySegments" index previousEnd segment.toResearchNoTradeRange
    let later ← parseQuerySegmentsFrom container (index + 1) (some i.stop) rest
    .ok (i :: later)

def parseSegmentsAndRanges (container : Lib.Intervals.Interval ℤ)
    (querySegments : List ResearchNoTradeQuerySegment)
    (verifiedNoTradeRanges : List ResearchNoTradeRange) : Except String Unit := do
  let _ ← parseQuerySegmentsFrom container 0 none querySegments
  let _ ← parseRanges container "verifiedNoTradeRanges" verifiedNoTradeRanges
  .ok ()

section Digest

variable (digests : Digests)

/-- The evidence has to pass again before its digest is taken. -/
def computeResearchNoTradeEvidenceSha256 (evidence : ResearchNoTradeEvidenceWithoutChecksum) :
    Except String String := do
  let container ← parseProvenance evidence.provenance
  parseSegmentsAndRanges container evidence.querySegments evidence.verifiedNoTradeRanges
  .ok (digests.evidence evidence)

/-- `parseResearchNoTradeEvidence` on what `JSON.stringify` writes of evidence. -/
def parseResearchNoTradeEvidence (evidence : ResearchNoTradeEvidence) :
    Except String ResearchNoTradeEvidence := do
  let container ← parseProvenance evidence.provenance.toEvidenceProvenanceBody
  throwIf (isSha256Hex evidence.provenance.sha256 = false)
    (evidenceError "sha256 must be a lowercase SHA-256 hex digest.")
  parseSegmentsAndRanges container evidence.querySegments evidence.verifiedNoTradeRanges
  let expectedChecksum ← computeResearchNoTradeEvidenceSha256 digests evidence.body
  throwIf (evidence.provenance.sha256 ≠ expectedChecksum)
    (evidenceError "checksum does not match declared sha256.")
  .ok evidence

/-! ### Evidence for a dataset -/

/-- The loop of `isFullyCoveredByCompleteSegments` over the segments. -/
def coveredByCompleteFrom (rangeEnd : ℤ) :
    (coveredUntil : ℤ) → List ResearchNoTradeQuerySegment → Except String Bool
  | _, [] => .ok false
  | coveredUntil, segment :: rest =>
    if segment.paginationComplete = false then coveredByCompleteFrom rangeEnd coveredUntil rest
    else do
      let segmentStart ← requireEvidenceTimestamp segment.fromAt "query segment from"
      let segmentEnd ← requireEvidenceTimestamp segment.toAt "query segment to"
      if segmentEnd ≤ coveredUntil then coveredByCompleteFrom rangeEnd coveredUntil rest
      else if coveredUntil < segmentStart then .ok false
      else if rangeEnd ≤ segmentEnd then .ok true
      else coveredByCompleteFrom rangeEnd segmentEnd rest

def isFullyCoveredByCompleteSegments (segments : List ResearchNoTradeQuerySegment)
    (range : ResearchNoTradeRange) : Except String Bool := do
  let rangeStart ← requireEvidenceTimestamp range.fromAt "verified range from"
  let rangeEnd ← requireEvidenceTimestamp range.toAt "verified range to"
  coveredByCompleteFrom rangeEnd rangeStart segments

def overlaps (candleOpen candleClose : ℤ) (range : ResearchNoTradeRange) : Except String Bool := do
  let fromAt ← requireEvidenceTimestamp range.fromAt "verified range from"
  let toAt ← requireEvidenceTimestamp range.toAt "verified range to"
  .ok (candleOpen < toAt ∧ fromAt < candleClose)

/-- Every range is covered by complete segments. -/
def requireCovered (segments : List ResearchNoTradeQuerySegment) (range : ResearchNoTradeRange) :
    Except String Unit := do
  let covered ← isFullyCoveredByCompleteSegments segments range
  throwIf (covered = false)
    (evidenceError "verified ranges must be covered by complete query segments.")

/-- No range overlaps an hourly candle. `some` stops at the first range that does. -/
def requireNoOverlap (ranges : List ResearchNoTradeRange) (candle : ResearchCandle) :
    Except String Unit := do
  let candleOpen ← requireEvidenceTimestamp candle.openTime "parent observed hourly candle open"
  let candleClose ← requireEvidenceTimestamp candle.closeTime "parent observed hourly candle close"
  ranges.forM fun range => do
    let overlapping ← overlaps candleOpen candleClose range
    throwIf (overlapping = true) (evidenceError "verified range overlaps an observed hourly candle.")

def validateResearchNoTradeEvidenceForDataset (evidence : ResearchNoTradeEvidence)
    (dataset : ResearchCandleDataset) : Except String Unit := do
  let validated ← parseResearchNoTradeEvidence digests evidence
  let parent ← parseResearchCandleDataset digests.dataset dataset
  let parentStart ←
    requireEvidenceTimestamp parent.provenance.historyStartAt "parent dataset historyStartAt"
  let parentEnd ← requireEvidenceTimestamp parent.provenance.endAt "parent dataset endAt"
  let evidenceStart ← requireEvidenceTimestamp validated.provenance.fromAt "evidence from"
  let evidenceEnd ← requireEvidenceTimestamp validated.provenance.toAt "evidence to"
  throwIf (validated.provenance.asset ≠ parent.provenance.asset)
    (evidenceError "parent asset does not match the dataset.")
  throwIf (validated.provenance.market ≠ parent.provenance.market)
    (evidenceError "parent market does not match the dataset.")
  throwIf (validated.provenance.parentDatasetSha256 ≠ parent.provenance.sha256)
    (evidenceError "parent sha256 does not match the dataset.")
  throwIf (evidenceStart ≠ parentStart ∨ evidenceEnd ≠ parentEnd)
    (evidenceError "parent range does not match the dataset.")
  validated.verifiedNoTradeRanges.forM (requireCovered validated.querySegments)
  parent.candles.oneHour.forM (requireNoOverlap validated.verifiedNoTradeRanges)

end Digest

/-! ### The coverage -/

def ceilToHour (epochNanoseconds : ℤ) : ℤ :=
  let remainder := epochNanoseconds.tmod hourNanoseconds
  if remainder = 0 then epochNanoseconds else epochNanoseconds + hourNanoseconds - remainder

def formatExactTimestamp (epochNanoseconds : ℤ) : Except String String :=
  formatExact "Research no-trade coverage timestamp is outside the safe range." epochNanoseconds

/-- The hours from `intervalOpen` on that end by `end_`: the values of the loop over them. -/
def expectedHours (intervalOpen end_ : ℤ) : List ℤ :=
  (List.range ((end_ - intervalOpen) / hourNanoseconds).toNat).map fun (index : ℕ) =>
    intervalOpen + index * hourNanoseconds

/-- An observed candle is one of the expected hours. -/
def requireExpected (expected : List ℤ) (candle : ResearchCandle) : Except String ℤ := do
  let candleOpen ← requireEvidenceTimestamp candle.openTime "parent observed hourly candle open"
  let candleClose ← requireEvidenceTimestamp candle.closeTime "parent observed hourly candle close"
  throwIf (¬ (candleOpen ∈ expected ∧ candleOpen + hourNanoseconds = candleClose))
    ("Research no-trade coverage observed hourly candle must match an expected nominal hourly " ++
      "interval.")
  .ok candleOpen

/-- A range of the hour that starts at `intervalStart`, put after the ranges. -/
def pushHour (ranges : List ResearchNoTradeRange) (intervalStart : ℤ) :
    Except String (List ResearchNoTradeRange) := do
  let fromAt ← formatExactTimestamp intervalStart
  let toAt ← formatExactTimestamp (intervalStart + hourNanoseconds)
  .ok (ranges ++ [⟨fromAt, toAt⟩])

/-- The turn of `groupNominalHourlyRanges`. -/
def addNominalHour (ranges : List ResearchNoTradeRange) (intervalStart : ℤ) :
    Except String (List ResearchNoTradeRange) :=
  match ranges.getLast? with
  | none => pushHour ranges intervalStart
  | some previous => do
    let previousEnd ← requireEvidenceTimestamp previous.toAt "previous missing range to"
    if previousEnd = intervalStart then do
      let toAt ← formatExactTimestamp (intervalStart + hourNanoseconds)
      .ok (ranges.dropLast ++ [{ previous with toAt }])
    else pushHour ranges intervalStart

def groupNominalHourlyRanges (intervalStarts : List ℤ) : Except String (List ResearchNoTradeRange) :=
  intervalStarts.foldlM addNominalHour []

/-- `[{ from: start, to: stop }]`, formatted. -/
def formatRange (start stop : ℤ) : Except String (List ResearchNoTradeRange) := do
  let fromAt ← formatExactTimestamp start
  let toAt ← formatExactTimestamp stop
  .ok [⟨fromAt, toAt⟩]

/-- What is left from the cursor on after the loop over the verified ranges. -/
def uncoveredRest (cursor missingEnd : ℤ) : Except String (List ResearchNoTradeRange) :=
  if cursor < missingEnd then formatRange cursor missingEnd else .ok []

/-- The piece from the cursor to a verified range. -/
def uncoveredBefore (cursor verifiedStart missingEnd : ℤ) :
    Except String (List ResearchNoTradeRange) :=
  if cursor < verifiedStart then
    formatRange cursor (if verifiedStart < missingEnd then verifiedStart else missingEnd)
  else .ok []

/-- The cursor after a verified range. -/
def nextCursor (cursor verifiedEnd missingEnd : ℤ) : ℤ :=
  if cursor < verifiedEnd then (if verifiedEnd < missingEnd then verifiedEnd else missingEnd)
  else cursor

/-- What is left after a verified range: the loop is left at the end of the missing range. -/
def uncoveredAfter (next missingEnd : ℤ) (continued : Except String (List ResearchNoTradeRange)) :
    Except String (List ResearchNoTradeRange) :=
  if next = missingEnd then uncoveredRest next missingEnd else continued

/-- The loop of `subtractVerifiedRanges` over the verified ranges. -/
def subtractFromMissing (missingEnd : ℤ) :
    (cursor : ℤ) → List ResearchNoTradeRange → Except String (List ResearchNoTradeRange)
  | cursor, [] => uncoveredRest cursor missingEnd
  | cursor, verified :: rest => do
    let verifiedStart ← requireEvidenceTimestamp verified.fromAt "verified range from"
    let verifiedEnd ← requireEvidenceTimestamp verified.toAt "verified range to"
    if verifiedEnd ≤ cursor then subtractFromMissing missingEnd cursor rest
    else if missingEnd ≤ verifiedStart then uncoveredRest cursor missingEnd
    else do
      let before ← uncoveredBefore cursor verifiedStart missingEnd
      let next := nextCursor cursor verifiedEnd missingEnd
      let after ← uncoveredAfter next missingEnd (subtractFromMissing missingEnd next rest)
      .ok (before ++ after)

def subtractVerifiedRanges (missingRanges verifiedRanges : List ResearchNoTradeRange) :
    Except String (List ResearchNoTradeRange) := do
  let uncovered ← missingRanges.mapM fun missing => do
    let missingStart ← requireEvidenceTimestamp missing.fromAt "missing range from"
    let missingEnd ← requireEvidenceTimestamp missing.toAt "missing range to"
    subtractFromMissing missingEnd missingStart verifiedRanges
  .ok uncovered.flatten

/-- The evidence, validated for the dataset. -/
def validateEvidence (digests : Digests) (parent : ResearchCandleDataset) :
    Option ResearchNoTradeEvidence → Except String (List ResearchNoTradeRange)
  | none => .ok []
  | some evidence => do
    let validated ← parseResearchNoTradeEvidence digests evidence
    validateResearchNoTradeEvidenceForDataset digests validated parent
    .ok validated.verifiedNoTradeRanges

def classifyIndependentNoTradeCoverage (digests : Digests) (dataset : ResearchCandleDataset)
    (evidence : Option ResearchNoTradeEvidence) : Except String IndependentNoTradeCoverage := do
  let parent ← parseResearchCandleDataset digests.dataset dataset
  let verifiedRanges ← validateEvidence digests parent evidence
  let historyStart ←
    requireEvidenceTimestamp parent.provenance.historyStartAt "parent dataset historyStartAt"
  let end_ ← requireEvidenceTimestamp parent.provenance.endAt "parent dataset endAt"
  let expected := expectedHours (ceilToHour historyStart) end_
  let observedHourlyOpens ← parent.candles.oneHour.mapM (requireExpected expected)
  let missingRanges ← groupNominalHourlyRanges (expected.filter (· ∉ observedHourlyOpens))
  if missingRanges = [] then .ok ⟨.dense, missingRanges, []⟩
  else do
    let uncoveredRanges ← subtractVerifiedRanges missingRanges verifiedRanges
    .ok
      { status := if uncoveredRanges = [] then .verifiedSparse else .unverifiedSparse
        missingRanges
        uncoveredRanges }

/-! ### Ranges as intervals -/

/-- The interval that a range denotes. -/
def span (range : ResearchNoTradeRange) : Lib.Intervals.Interval ℤ :=
  ⟨instant range.fromAt, instant range.toAt⟩

/-- Both ends of the range are timestamps. -/
def Readable (range : ResearchNoTradeRange) : Prop :=
  IsCandidateTimestamp range.fromAt ∧ IsCandidateTimestamp range.toAt

theorem span_eq_of_denotes {range : ResearchNoTradeRange} {start stop : ℤ}
    (hfrom : Denotes range.fromAt start) (hto : Denotes range.toAt stop) :
    span range = ⟨start, stop⟩ ∧ Readable range := by
  refine ⟨?_, hfrom.1, hto.1⟩
  unfold span
  rw [hfrom.2, hto.2]

theorem requireEvidence_bind {α : Type} {value label : String} {f : ℤ → Except String α}
    {a : α} : (requireEvidenceTimestamp value label >>= f) = .ok a ↔
      IsCandidateTimestamp value ∧ f (instant value) = .ok a := by
  unfold requireEvidenceTimestamp
  rw [requireTimestamp_bind]
  constructor
  · rintro ⟨t, ⟨hcandidate, rfl⟩, hf⟩
    exact ⟨hcandidate, hf⟩
  · rintro ⟨hcandidate, hf⟩
    exact ⟨_, ⟨hcandidate, rfl⟩, hf⟩

variable {range : ResearchNoTradeRange} {previousEnd : Option ℤ}

theorem parseRange_eq_ok {container i : Lib.Intervals.Interval ℤ} {label : String} {index : ℕ}
    (h : parseRange container label index previousEnd range = .ok i) :
    i = span range ∧ Readable range ∧ i.start < i.stop ∧
      (container.start ≤ i.start ∧ i.stop ≤ container.stop) ∧ ∀ t ∈ previousEnd, t ≤ i.start := by
  unfold parseRange assertContainedRange at h
  dsimp only at h
  rw [requireEvidence_bind, requireEvidence_bind] at h
  obtain ⟨hfrom, hto, h⟩ := h
  simp only [then_eq_ok, throwIf_eq_ok] at h
  obtain ⟨⟨hlt, hinside⟩, horder, hi⟩ := h
  rw [← Except.ok.inj hi]
  dsimp only
  refine ⟨rfl, ⟨hfrom, hto⟩, not_le.mp hlt, by omega, fun t ht => ?_⟩
  rw [Option.mem_def.mp ht] at horder
  simpa using horder

/-- The ranges of evidence: in order, inside the range of the evidence. -/
structure RangesOk (container : Lib.Intervals.Interval ℤ) (ranges : List ResearchNoTradeRange) : Prop where
  readable : ∀ range ∈ ranges, Readable range
  ordered : Ordered (ranges.map span)
  inside : ∀ i ∈ ranges.map span, container.start ≤ i.start ∧ i.stop ≤ container.stop

variable {ranges : List ResearchNoTradeRange} {container : Lib.Intervals.Interval ℤ}

theorem RangesOk.cons (hranges : RangesOk container ranges) (hreadable : Readable range)
    (hlt : (span range).start < (span range).stop)
    (hinside : container.start ≤ (span range).start ∧ (span range).stop ≤ container.stop)
    (hafter : ∀ i ∈ ranges.map span, (span range).stop ≤ i.start) :
    RangesOk container (range :: ranges) :=
  { readable := List.forall_mem_cons.mpr ⟨hreadable, hranges.readable⟩
    ordered := by
      rw [List.map_cons]
      exact ordered_cons.mpr ⟨hlt, hafter, hranges.ordered⟩
    inside := by
      rw [List.map_cons]
      exact List.forall_mem_cons.mpr ⟨hinside, hranges.inside⟩ }

theorem RangesOk.nil (container : Lib.Intervals.Interval ℤ) : RangesOk container [] :=
  ⟨fun _ h => absurd h List.not_mem_nil, Ordered.nil, fun _ h => absurd h List.not_mem_nil⟩

theorem rangesOk_of_parseFrom {label : String} {index : ℕ} {is : List (Lib.Intervals.Interval ℤ)}
    (h : parseRangesFrom container label index previousEnd ranges = .ok is) :
    RangesOk container ranges ∧ ∀ t ∈ previousEnd, ∀ i ∈ ranges.map span, t ≤ i.start := by
  induction ranges generalizing index previousEnd is with
  | nil => exact ⟨RangesOk.nil container, by simp⟩
  | cons range rest ih =>
    rw [parseRangesFrom, bind_eq_ok] at h
    obtain ⟨i, hi, h⟩ := h
    rw [bind_eq_ok] at h
    obtain ⟨later, hlater, -⟩ := h
    obtain ⟨rfl, hreadable, hlt, hinside, hprevious⟩ := parseRange_eq_ok hi
    obtain ⟨hrest, hafter⟩ := ih hlater
    refine ⟨hrest.cons hreadable hlt hinside (hafter _ rfl), fun t ht j hj => ?_⟩
    rw [List.map_cons] at hj
    rcases List.mem_cons.mp hj with rfl | hj
    · exact hprevious t ht
    · exact ((hprevious t ht).trans hlt.le).trans (hafter _ rfl j hj)

theorem parseProvenance_eq_ok {provenance : EvidenceProvenanceBody}
    (h : parseProvenance provenance = .ok container) :
    container = span provenance.toResearchNoTradeRange := by
  unfold parseProvenance at h
  rw [then_eq_ok, requireEvidence_bind, requireEvidence_bind,
    requireEvidence_bind] at h
  simp only [then_eq_ok] at h
  exact (Except.ok.inj h.2.2.2.2.2.2.2.2.2.2).symm

theorem rangesOk_of_parse {digests : Digests} {evidence validated : ResearchNoTradeEvidence}
    (h : parseResearchNoTradeEvidence digests evidence = .ok validated) :
    validated = evidence ∧ RangesOk (span evidence.provenance.toResearchNoTradeRange)
      evidence.verifiedNoTradeRanges := by
  unfold parseResearchNoTradeEvidence parseSegmentsAndRanges at h
  rw [bind_eq_ok] at h
  obtain ⟨container, hcontainer, h⟩ := h
  rw [then_eq_ok, then_eq_ok] at h
  obtain ⟨-, hranges, h⟩ := h
  rw [bind_eq_ok] at h
  obtain ⟨checksum, -, h⟩ := h
  rw [then_eq_ok] at h
  rw [bind_eq_ok] at hranges
  obtain ⟨segments, -, hranges⟩ := hranges
  rw [bind_eq_ok] at hranges
  obtain ⟨is, hranges, -⟩ := hranges
  rw [← parseProvenance_eq_ok hcontainer]
  exact ⟨(Except.ok.inj h.2).symm, (rangesOk_of_parseFrom hranges).1⟩

/-! ### Verified ranges are covered by complete segments -/

/-- The complete query segments, as intervals. -/
def completeSpans (segments : List ResearchNoTradeQuerySegment) : List (Lib.Intervals.Interval ℤ) :=
  (segments.filter (·.paginationComplete)).map fun segment => span segment.toResearchNoTradeRange

variable {segments : List ResearchNoTradeQuerySegment}

theorem coversFrom_of_loop {rangeEnd cursor : ℤ}
    (h : coveredByCompleteFrom rangeEnd cursor segments = .ok true) :
    coversFrom rangeEnd cursor (completeSpans segments) = true := by
  induction segments generalizing cursor with
  | nil =>
    rw [coveredByCompleteFrom] at h
    cases h
  | cons segment rest ih =>
    rw [coveredByCompleteFrom] at h
    by_cases hcomplete : segment.paginationComplete = true
    · have hspans : completeSpans (segment :: rest) =
          span segment.toResearchNoTradeRange :: completeSpans rest := by
        unfold completeSpans
        rw [List.filter_cons_of_pos hcomplete, List.map_cons]
      rw [if_neg (by simp [hcomplete]), requireEvidence_bind,
        requireEvidence_bind] at h
      obtain ⟨-, -, h⟩ := h
      rw [hspans, coversFrom]
      change (if instant segment.toAt ≤ cursor then _ else if cursor < instant segment.fromAt then _
        else if rangeEnd ≤ instant segment.toAt then _ else _) = true
      split_ifs at h ⊢ with hpast hgap hlast
      · exact ih h
      · cases h
      · rfl
      · exact ih h
    · have hspans : completeSpans (segment :: rest) = completeSpans rest := by
        unfold completeSpans
        rw [List.filter_cons_of_neg hcomplete]
      rw [if_pos (by simpa using hcomplete)] at h
      rw [hspans]
      exact ih h

variable {t : ℤ}

theorem covered_of_requireCovered (h : requireCovered segments range = .ok ())
    (ht : (span range).Has t) : Covered (completeSpans segments) t := by
  unfold requireCovered isFullyCoveredByCompleteSegments at h
  rw [bind_eq_ok] at h
  obtain ⟨covered, hcovered, h⟩ := h
  rw [throwIf_eq_ok, Bool.not_eq_false] at h
  rw [h, requireEvidence_bind, requireEvidence_bind] at hcovered
  exact covered_of_coversFrom (coversFrom_of_loop hcovered.2.2) ht.1 ht.2

/-! ### The missing ranges -/

variable {text : String}

theorem formatExactTimestamp_eq_ok (h0 : 0 ≤ t) (h : formatExactTimestamp t = .ok text) :
    text = stampText (t / 1000000000) (exactDigits (t % 1000000000)) := by
  unfold formatExactTimestamp formatExact formatStamp at h
  dsimp only at h
  rw [Int.tdiv_eq_ediv_of_nonneg h0, Int.tmod_eq_emod_of_nonneg h0] at h
  split_ifs at h
  exact (Except.ok.inj h).symm

theorem denotes_of_formatExact (h0 : 0 ≤ t) (h : formatExactTimestamp t = .ok text)
    (hcandidate : IsCandidateTimestamp text) : instant text = t := by
  rw [formatExactTimestamp_eq_ok h0 h] at hcandidate ⊢
  have hdigits := fractionDigits_exact (n := t % 1000000000) (by omega) (by omega)
  exact ((denotes_iff_of_stamp h0 hdigits _).mp ⟨hcandidate, rfl⟩).2

/-- The range is the text of the run. -/
def Written (range : ResearchNoTradeRange) (r : Run) : Prop :=
  formatExactTimestamp r.first = .ok range.fromAt ∧
    formatExactTimestamp (r.last + hourNanoseconds) = .ok range.toAt

variable {ranges result : List ResearchNoTradeRange} {rs : List Run}

theorem written_pushHour {x : ℤ} (hranges : List.Forall₂ Written ranges rs)
    (h : pushHour ranges x = .ok result) : List.Forall₂ Written result (rs ++ [⟨x, x⟩]) := by
  unfold pushHour at h
  rw [bind_eq_ok] at h
  obtain ⟨fromAt, hfrom, h⟩ := h
  rw [bind_eq_ok] at h
  obtain ⟨toAt, hto, h⟩ := h
  rw [← Except.ok.inj h]
  exact List.rel_append hranges (List.Forall₂.cons ⟨hfrom, hto⟩ List.Forall₂.nil)

theorem forall₂_concat_right {α β : Type} {R : α → β → Prop} {l : List α} {rs : List β} {b : β}
    (h : List.Forall₂ R l (rs ++ [b])) : ∃ l' a, l = l' ++ [a] ∧ List.Forall₂ R l' rs ∧ R a b := by
  induction rs generalizing l with
  | nil =>
    rcases h with - | ⟨hab, htail⟩
    rcases htail with - | -
    exact ⟨[], _, rfl, List.Forall₂.nil, hab⟩
  | cons r rs ih =>
    rcases h with - | ⟨hr, htail⟩
    obtain ⟨l', a, rfl, hl', hab⟩ := ih htail
    exact ⟨_ :: l', a, rfl, List.Forall₂.cons hr hl', hab⟩

theorem written_addNominalHour {x : ℤ} (hranges : List.Forall₂ Written ranges rs)
    (hrs : ∀ r ∈ rs, 0 ≤ r.last) (h : addNominalHour ranges x = .ok result) :
    List.Forall₂ Written result (addToRuns hourNanoseconds rs x) := by
  rcases List.eq_nil_or_concat rs with rfl | ⟨rs, r, rfl⟩
  · rw [List.forall₂_nil_right_iff] at hranges
    rw [hranges] at h
    exact written_pushHour List.Forall₂.nil h
  · rw [List.concat_eq_append] at hranges hrs ⊢
    obtain ⟨ranges', previous, rfl, hranges', hprevious⟩ := forall₂_concat_right hranges
    have hr := hrs r (List.mem_append_right rs (List.mem_singleton.mpr rfl))
    unfold addNominalHour at h
    rw [List.getLast?_concat] at h
    dsimp only at h
    rw [requireEvidence_bind] at h
    obtain ⟨hcandidate, h⟩ := h
    rw [denotes_of_formatExact (by unfold hourNanoseconds; omega) hprevious.2 hcandidate] at h
    rw [addToRuns, List.getLast?_concat]
    dsimp only
    by_cases hx : x = r.last + hourNanoseconds
    · rw [if_pos hx]
      rw [if_pos hx.symm, bind_eq_ok] at h
      obtain ⟨toAt, hto, h⟩ := h
      rw [← Except.ok.inj h, List.dropLast_concat, List.dropLast_concat]
      exact List.rel_append hranges' (List.Forall₂.cons ⟨hprevious.1, hto⟩ List.Forall₂.nil)
    · rw [if_neg hx]
      rw [if_neg (Ne.symm hx)] at h
      exact written_pushHour hranges h

theorem last_addToRuns {step x : ℤ} (hrs : ∀ r ∈ rs, 0 ≤ r.last) (hx : 0 ≤ x) :
    ∀ r ∈ addToRuns step rs x, 0 ≤ r.last := by
  intro r hr
  unfold addToRuns at hr
  split at hr
  · rcases List.mem_append.mp hr with hr | hr
    · exact hrs r hr
    · rw [List.mem_singleton.mp hr]
      exact hx
  · split_ifs at hr with hstep
    · rcases List.mem_append.mp hr with hr | hr
      · exact hrs r (List.dropLast_subset rs hr)
      · rw [List.mem_singleton.mp hr]
        exact hx
    · rcases List.mem_append.mp hr with hr | hr
      · exact hrs r hr
      · rw [List.mem_singleton.mp hr]
        exact hx

theorem written_foldlM {xs : List ℤ} (hranges : List.Forall₂ Written ranges rs)
    (hrs : ∀ r ∈ rs, 0 ≤ r.last) (hxs : ∀ x ∈ xs, 0 ≤ x)
    (h : xs.foldlM addNominalHour ranges = .ok result) :
    List.Forall₂ Written result (xs.foldl (addToRuns hourNanoseconds) rs) := by
  induction xs generalizing ranges rs with
  | nil =>
    cases h
    exact hranges
  | cons x xs ih =>
    rw [List.foldlM_cons, bind_eq_ok] at h
    obtain ⟨next, hnext, h⟩ := h
    have hx := hxs x List.mem_cons_self
    exact ih (written_addNominalHour hranges hrs hnext) (last_addToRuns hrs hx)
      (fun y hy => hxs y (List.mem_cons_of_mem x hy)) h

/-- **The missing ranges are the texts of the runs of the missing hours.** -/
theorem written_group {xs : List ℤ} {ranges : List ResearchNoTradeRange} (hxs : ∀ x ∈ xs, 0 ≤ x)
    (h : groupNominalHourlyRanges xs = .ok ranges) :
    List.Forall₂ Written ranges (runs hourNanoseconds xs) := by
  rw [← foldl_addToRuns_nil]
  exact written_foldlM List.Forall₂.nil (fun _ hr => absurd hr List.not_mem_nil) hxs h

/-! ### The uncovered ranges -/

theorem denotes_formatExact (h0 : 0 ≤ t) (hlt : t < endOfFourDigitYears)
    (h : formatExactTimestamp t = .ok text) : Denotes text t := by
  rw [formatExactTimestamp_eq_ok h0 h]
  have hdigits := fractionDigits_exact (n := t % 1000000000) (by omega) (by omega)
  exact (denotes_iff_of_stamp h0 hdigits t).mpr ⟨hlt, rfl⟩

/-- Ranges that are read as the intervals. -/
def ReadAs (ranges : List ResearchNoTradeRange) (is : List (Lib.Intervals.Interval ℤ)) : Prop :=
  ranges.map span = is ∧ ∀ range ∈ ranges, Readable range

variable {out : List ResearchNoTradeRange}

theorem readAs_formatRange {start stop : ℤ} (h0 : 0 ≤ start) (hle : start ≤ stop)
    (hlt : stop < endOfFourDigitYears) (h : formatRange start stop = .ok out) :
    ReadAs out [⟨start, stop⟩] := by
  unfold formatRange at h
  rw [bind_eq_ok] at h
  obtain ⟨fromAt, hfrom, h⟩ := h
  rw [bind_eq_ok] at h
  obtain ⟨toAt, hto, h⟩ := h
  have hstart := denotes_formatExact h0 (hle.trans_lt hlt) hfrom
  have hstop := denotes_formatExact (h0.trans hle) hlt hto
  obtain ⟨hspan, hreadable⟩ := @span_eq_of_denotes ⟨fromAt, toAt⟩ start stop hstart hstop
  rw [← Except.ok.inj h]
  refine ⟨by rw [List.map_singleton, hspan], fun range hrange => ?_⟩
  rw [List.mem_singleton.mp hrange]
  exact hreadable

variable {cursor missingEnd : ℤ}

theorem readAs_uncoveredRest (h0 : 0 ≤ cursor) (hlt : missingEnd < endOfFourDigitYears)
    (h : uncoveredRest cursor missingEnd = .ok out) : ReadAs out (restFrom cursor missingEnd) := by
  unfold uncoveredRest at h
  unfold restFrom
  split_ifs at h ⊢ with hrest
  · exact readAs_formatRange h0 hrest.le hlt h
  · rw [← Except.ok.inj h]
    exact ⟨rfl, fun _ hr => absurd hr List.not_mem_nil⟩

theorem ReadAs.append {ranges ranges' : List ResearchNoTradeRange}
    {is js : List (Lib.Intervals.Interval ℤ)}
    (h : ReadAs ranges is) (h' : ReadAs ranges' js) : ReadAs (ranges ++ ranges') (is ++ js) := by
  refine ⟨by rw [List.map_append, h.1, h'.1], fun range hrange => ?_⟩
  rcases List.mem_append.mp hrange with hrange | hrange
  · exact h.2 range hrange
  · exact h'.2 range hrange

/-- **The loop over the verified ranges takes their intervals away.** -/
theorem readAs_subtractFromMissing {verified : List ResearchNoTradeRange} (h0 : 0 ≤ cursor)
    (hlt : missingEnd < endOfFourDigitYears)
    (h : subtractFromMissing missingEnd cursor verified = .ok out) :
    ReadAs out (subtractFrom missingEnd cursor (verified.map span)) := by
  induction verified generalizing cursor out with
  | nil => exact readAs_uncoveredRest h0 hlt h
  | cons range rest ih =>
    rw [subtractFromMissing, requireEvidence_bind, requireEvidence_bind] at h
    obtain ⟨-, -, h⟩ := h
    have hstart : (span range).start = instant range.fromAt := rfl
    have hstop : (span range).stop = instant range.toAt := rfl
    rw [List.map_cons, subtractFrom, hstart, hstop]
    by_cases hpast : instant range.toAt ≤ cursor
    · rw [if_pos hpast] at h ⊢
      exact ih h0 h
    rw [if_neg hpast] at h ⊢
    by_cases hbreak : missingEnd ≤ instant range.fromAt
    · rw [if_pos hbreak] at h ⊢
      exact readAs_uncoveredRest h0 hlt h
    rw [if_neg hbreak] at h ⊢
    rw [bind_eq_ok] at h
    obtain ⟨before, hbefore, h⟩ := h
    rw [bind_eq_ok] at h
    obtain ⟨after, hafter, h⟩ := h
    rw [← Except.ok.inj h]
    rw [uncoveredBefore, if_pos (not_le.mp hbreak)] at hbefore
    rw [nextCursor, if_pos (not_le.mp hpast), uncoveredAfter] at hafter
    have hpiece : ReadAs before (restFrom cursor (instant range.fromAt)) :=
      readAs_uncoveredRest h0 (by omega) hbefore
    refine hpiece.append ?_
    by_cases hlast : missingEnd ≤ instant range.toAt
    · rw [if_neg (not_lt.mpr hlast), if_pos rfl, uncoveredRest, if_neg (lt_irrefl _)] at hafter
      rw [if_pos hlast, ← Except.ok.inj hafter]
      exact ⟨rfl, fun _ hr => absurd hr List.not_mem_nil⟩
    · rw [if_pos (not_le.mp hlast), if_neg (by omega)] at hafter
      rw [if_neg hlast]
      exact ih (by omega) hafter

theorem span_of_written {r : Run} (hwritten : Written range r) (h0 : 0 ≤ r.first)
    (hle : r.first ≤ r.last) (hreadable : Readable range) :
    span range = r.interval hourNanoseconds ∧ r.last + hourNanoseconds < endOfFourDigitYears := by
  have hlast : 0 ≤ r.last + hourNanoseconds := by
    unfold hourNanoseconds
    omega
  have hto := hreadable.2
  rw [formatExactTimestamp_eq_ok hlast hwritten.2] at hto
  have hdigits := fractionDigits_exact (n := (r.last + hourNanoseconds) % 1000000000)
    (by omega) (by omega)
  refine ⟨?_, ((denotes_iff_of_stamp hlast hdigits _).mp ⟨hto, rfl⟩).1⟩
  unfold span Run.interval
  rw [denotes_of_formatExact h0 hwritten.1 hreadable.1,
    denotes_of_formatExact hlast hwritten.2 hreadable.2]

/-- **The verified ranges are taken away from the missing ones.** -/
theorem readAs_subtractVerifiedRanges {missing verified out : List ResearchNoTradeRange}
    (hwritten : List.Forall₂ Written missing rs) (hrs : ∀ r ∈ rs, 0 ≤ r.first ∧ r.first ≤ r.last)
    (h : subtractVerifiedRanges missing verified = .ok out) :
    ReadAs missing (rs.map (Run.interval hourNanoseconds)) ∧
      ReadAs out (subtractAll (rs.map (Run.interval hourNanoseconds)) (verified.map span)) := by
  unfold subtractVerifiedRanges at h
  rw [bind_eq_ok] at h
  obtain ⟨pieces, hpieces, h⟩ := h
  rw [← Except.ok.inj h]
  have hall := forall₂_of_mapM hpieces
  clear h hpieces
  induction hwritten generalizing pieces with
  | nil =>
    rw [List.forall₂_nil_left_iff.mp hall]
    exact ⟨⟨rfl, fun _ hr => absurd hr List.not_mem_nil⟩, ⟨rfl, fun _ hr => absurd hr List.not_mem_nil⟩⟩
  | @cons range r missing rs hrange hmissing ih =>
    obtain ⟨piece, pieces', hpiece, hpieces', rfl⟩ := List.forall₂_cons_left_iff.mp hall
    rw [requireEvidence_bind, requireEvidence_bind] at hpiece
    obtain ⟨hfrom, hto, hpiece⟩ := hpiece
    obtain ⟨h0, hle⟩ := hrs r List.mem_cons_self
    obtain ⟨hspan, hlate⟩ := span_of_written hrange h0 hle ⟨hfrom, hto⟩
    have hstart : instant range.fromAt = r.first := congrArg Interval.start hspan
    have hstop : instant range.toAt = r.last + hourNanoseconds := congrArg Interval.stop hspan
    rw [hstart, hstop] at hpiece
    obtain ⟨⟨hmap, hreadable⟩, hout⟩ :=
      ih (fun r' hr' => hrs r' (List.mem_cons_of_mem r hr')) pieces' hpieces'
    refine ⟨⟨?_, List.forall_mem_cons.mpr ⟨⟨hfrom, hto⟩, hreadable⟩⟩, ?_⟩
    · rw [List.map_cons, List.map_cons, hmap, hspan]
    · rw [List.flatten_cons, List.map_cons]
      exact (readAs_subtractFromMissing h0 hlate hpiece).append hout

/-! ### The expected hours -/

/-- The hours of the dataset's range that no hourly candle opens in. -/
def MissingHour (dataset : ResearchCandleDataset) (h : ℤ) : Prop :=
  hourNanoseconds ∣ h ∧ instant dataset.provenance.historyStartAt ≤ h ∧
    h + hourNanoseconds ≤ instant dataset.provenance.endAt ∧
    ∀ candle ∈ dataset.candles.oneHour, instant candle.openTime ≠ h

/-- The instants of the missing hours. -/
def MissingInstant (dataset : ResearchCandleDataset) (t : ℤ) : Prop :=
  ∃ h, MissingHour dataset h ∧ h ≤ t ∧ t < h + hourNanoseconds

theorem ceilToHour_spec (h0 : 0 ≤ t) : hourNanoseconds ∣ ceilToHour t ∧ t ≤ ceilToHour t ∧
    ceilToHour t < t + hourNanoseconds := by
  unfold ceilToHour hourNanoseconds
  dsimp only
  rw [Int.tmod_eq_emod_of_nonneg h0]
  split_ifs with hzero
  · omega
  · omega

theorem mem_expectedHours_iff {start end_ x : ℤ} (hstart : hourNanoseconds ∣ start) :
    x ∈ expectedHours start end_ ↔
      hourNanoseconds ∣ x ∧ start ≤ x ∧ x + hourNanoseconds ≤ end_ := by
  have hgrid : OnGrid hourNanoseconds start x ↔ hourNanoseconds ∣ x :=
    ⟨fun h => (Int.dvd_iff_dvd_of_dvd_sub h).mpr hstart, fun h => Int.dvd_sub h hstart⟩
  rw [← hgrid]
  exact mem_gridPoints_iff (by decide)

theorem sorted_expectedHours (start end_ : ℤ) : (expectedHours start end_).Pairwise (· < ·) :=
  sorted_gridPoints (by decide) start _

theorem mem_observed_iff {expected observed : List ℤ} {candles : List ResearchCandle}
    (h : candles.mapM (requireExpected expected) = .ok observed) (x : ℤ) :
    x ∈ observed ↔ ∃ candle ∈ candles, instant candle.openTime = x := by
  have hobserved := forall₂_of_mapM h
  clear h
  induction hobserved with
  | nil => simp
  | @cons candle opening candles observed hcandle hrest ih =>
    unfold requireExpected at hcandle
    rw [requireEvidence_bind, requireEvidence_bind, then_eq_ok] at hcandle
    obtain ⟨-, -, -, hopening⟩ := hcandle
    have htail : x ∈ observed ↔ ∃ candle ∈ candles, instant candle.openTime = x := ih
    rw [List.mem_cons, htail, ← Except.ok.inj hopening, List.exists_mem_cons_iff, eq_comm]

/-! ### The classification -/

/-- The intervals of the verified ranges, if there is evidence. -/
def verifiedSpans (evidence : Option ResearchNoTradeEvidence) : List (Lib.Intervals.Interval ℤ) :=
  ((evidence.map (·.verifiedNoTradeRanges)).getD []).map span

/-- **The coverage is exact arithmetic on intervals of instants.** -/
structure ExactCoverage (dataset : ResearchCandleDataset) (evidence : Option ResearchNoTradeEvidence)
    (coverage : IndependentNoTradeCoverage) : Prop where
  readable : ∀ range ∈ coverage.missingRanges ++ coverage.uncoveredRanges, Readable range
  missing_instants : ∀ t, Covered (coverage.missingRanges.map span) t ↔ MissingInstant dataset t
  missing_hours : ∀ i ∈ coverage.missingRanges.map span,
    hourNanoseconds ∣ i.start ∧ hourNanoseconds ∣ i.stop ∧ i.start < i.stop
  missing_maximal : (coverage.missingRanges.map span).Pairwise fun i j => i.stop < j.start
  uncovered_ordered : Ordered (coverage.uncoveredRanges.map span)
  uncovered_instants : ∀ t, Covered (coverage.uncoveredRanges.map span) t ↔
    Covered (coverage.missingRanges.map span) t ∧ ¬ Covered (verifiedSpans evidence) t
  dense_iff : coverage.status = .dense ↔ ∀ h, ¬ MissingHour dataset h
  verifiedSparse_iff : coverage.status = .verifiedSparse ↔ (∃ h, MissingHour dataset h) ∧
    ∀ t, MissingInstant dataset t → Covered (verifiedSpans evidence) t
  verified_complete : ∀ e ∈ evidence, ∀ t, Covered (e.verifiedNoTradeRanges.map span) t →
    Covered (completeSpans e.querySegments) t

/-- What validated evidence gives: its ranges are in order and covered by complete segments. -/
theorem verified_of_validateEvidence {digests : Digests} {parent : ResearchCandleDataset}
    {evidence : Option ResearchNoTradeEvidence} {ranges : List ResearchNoTradeRange}
    (h : validateEvidence digests parent evidence = .ok ranges) :
    ranges.map span = verifiedSpans evidence ∧ Ordered (verifiedSpans evidence) ∧
      ∀ e ∈ evidence, ∀ t, Covered (e.verifiedNoTradeRanges.map span) t →
        Covered (completeSpans e.querySegments) t := by
  cases evidence with
  | none =>
    rw [← Except.ok.inj h]
    exact ⟨rfl, Ordered.nil, by simp⟩
  | some evidence =>
    unfold validateEvidence at h
    rw [bind_eq_ok] at h
    obtain ⟨validated, hvalidated, h⟩ := h
    obtain ⟨rfl, hranges⟩ := rangesOk_of_parse hvalidated
    rw [then_eq_ok] at h
    obtain ⟨hvalid, h⟩ := h
    rw [← Except.ok.inj h]
    refine ⟨rfl, hranges.ordered, fun e he t ht => ?_⟩
    rw [← Option.some.inj (Option.mem_def.mp he)] at ht ⊢
    obtain ⟨i, hi, hhas⟩ := ht
    obtain ⟨range, hrange, rfl⟩ := List.mem_map.mp hi
    unfold validateResearchNoTradeEvidenceForDataset at hvalid
    rw [hvalidated, ok_bind, bind_eq_ok] at hvalid
    obtain ⟨parent', -, hvalid⟩ := hvalid
    rw [requireEvidence_bind, requireEvidence_bind, requireEvidence_bind,
      requireEvidence_bind] at hvalid
    simp only [then_eq_ok, forM_eq_ok] at hvalid
    obtain ⟨-, -, -, -, -, -, -, -, hcovered, -⟩ := hvalid
    exact covered_of_requireCovered (hcovered range hrange) hhas

section Classify

variable {digests : Digests} {dataset : ResearchCandleDataset}
  {evidence : Option ResearchNoTradeEvidence} {coverage : IndependentNoTradeCoverage}

theorem missing_of_classify (h1970 : 0 ≤ instant dataset.provenance.historyStartAt)
    (h : classifyIndependentNoTradeCoverage digests dataset evidence = .ok coverage) :
    ∃ missing : List ℤ, missing.Pairwise (· < ·) ∧ (∀ x, x ∈ missing ↔ MissingHour dataset x) ∧
      ∃ verified, validateEvidence digests dataset evidence = .ok verified ∧
        groupNominalHourlyRanges missing = .ok coverage.missingRanges ∧
        ((coverage.missingRanges = [] ∧ coverage = ⟨.dense, [], []⟩) ∨
          (coverage.missingRanges ≠ [] ∧
            subtractVerifiedRanges coverage.missingRanges verified = .ok coverage.uncoveredRanges ∧
            coverage.status = if coverage.uncoveredRanges = [] then .verifiedSparse
              else .unverifiedSparse)) := by
  unfold classifyIndependentNoTradeCoverage at h
  rw [bind_eq_ok] at h
  obtain ⟨parent, hparent, h⟩ := h
  obtain ⟨rfl, -⟩ := accepted_of_parse hparent
  rw [bind_eq_ok] at h
  obtain ⟨verified, hverified, h⟩ := h
  rw [requireEvidence_bind, requireEvidence_bind] at h
  obtain ⟨-, -, h⟩ := h
  dsimp only at h
  rw [bind_eq_ok] at h
  obtain ⟨observed, hobserved, h⟩ := h
  rw [bind_eq_ok] at h
  obtain ⟨missingRanges, hgroup, h⟩ := h
  obtain ⟨hdvd, hceil, hceil'⟩ := ceilToHour_spec h1970
  refine ⟨(expectedHours (ceilToHour (instant parent.provenance.historyStartAt))
      (instant parent.provenance.endAt)).filter (· ∉ observed),
    (sorted_expectedHours _ _).filter _, fun x => ?_, verified, hverified, ?_⟩
  · rw [List.mem_filter, decide_eq_true_eq, mem_expectedHours_iff hdvd,
      mem_observed_iff hobserved]
    unfold MissingHour
    constructor
    · rintro ⟨⟨hx, hle, hend⟩, hnone⟩
      exact ⟨hx, hceil.trans hle, hend, fun candle hcandle heq => hnone ⟨candle, hcandle, heq⟩⟩
    · rintro ⟨hx, hle, hend, hnone⟩
      refine ⟨⟨hx, ?_, hend⟩, ?_⟩
      · unfold hourNanoseconds at hx hdvd hceil'
        omega
      · rintro ⟨candle, hcandle, heq⟩
        exact hnone candle hcandle heq
  · by_cases hempty : missingRanges = []
    · rw [if_pos hempty] at h
      rw [← Except.ok.inj h]
      refine ⟨hgroup, Or.inl ⟨hempty, ?_⟩⟩
      rw [hempty]
    · rw [if_neg hempty, bind_eq_ok] at h
      obtain ⟨uncovered, huncovered, h⟩ := h
      rw [← Except.ok.inj h]
      exact ⟨hgroup, Or.inr ⟨hempty, huncovered, rfl⟩⟩

/-- **The classification of the hours without a trade is exact.** -/
theorem coverage_exact (h1970 : 0 ≤ instant dataset.provenance.historyStartAt)
    (h : classifyIndependentNoTradeCoverage digests dataset evidence = .ok coverage) :
    ExactCoverage dataset evidence coverage := by
  obtain ⟨missing, hsorted, hmissing, verified, hverified, hgroup, hresult⟩ :=
    missing_of_classify h1970 h
  obtain ⟨hspans, hordered, hcomplete⟩ := verified_of_validateEvidence hverified
  have hstep : (0 : ℤ) < hourNanoseconds := by decide
  have hgrid : ∀ x ∈ missing, OnGrid hourNanoseconds 0 x := fun x hx => by
    rw [OnGrid, sub_zero]
    exact ((hmissing x).mp hx).1
  have hnonneg : ∀ x ∈ missing, 0 ≤ x := fun x hx => h1970.trans ((hmissing x).mp hx).2.1
  have hwritten := written_group hnonneg hgroup
  have hruns : ∀ r ∈ runs hourNanoseconds missing, 0 ≤ r.first ∧ r.first ≤ r.last := fun r hr => by
    obtain ⟨hfirst, -, hle⟩ := ends_runs hsorted hr
    exact ⟨hnonneg _ hfirst, hle⟩
  have hinstants : ∀ t, Covered ((runs hourNanoseconds missing).map (Run.interval hourNanoseconds)) t
      ↔ MissingInstant dataset t := fun t => by
    rw [covered_runs_iff hsorted hstep hgrid]
    unfold MissingInstant
    simp only [hmissing]
  have hall : ReadAs coverage.missingRanges
        ((runs hourNanoseconds missing).map (Run.interval hourNanoseconds)) ∧
      ReadAs coverage.uncoveredRanges
        (subtractAll ((runs hourNanoseconds missing).map (Run.interval hourNanoseconds))
          (verifiedSpans evidence)) := by
    rcases hresult with ⟨hempty, hcoverage⟩ | ⟨-, hsubtract, -⟩
    · rw [hempty] at hwritten
      rw [List.forall₂_nil_left_iff.mp hwritten, hempty, hcoverage]
      exact ⟨⟨rfl, by simp⟩, ⟨rfl, by simp⟩⟩
    · rw [← hspans]
      exact readAs_subtractVerifiedRanges hwritten hruns hsubtract
  obtain ⟨⟨hmissingSpans, hmissingReadable⟩, huncoveredSpans, huncoveredReadable⟩ := hall
  have hintervals := ordered_intervals hsorted hstep hgrid
  have huncoveredOrdered := ordered_subtractAll hintervals hordered
  have hnoMissing : coverage.missingRanges = [] ↔ ∀ h, ¬ MissingHour dataset h := by
    rw [← List.map_eq_nil_iff (f := span), hmissingSpans, hintervals.eq_nil_iff]
    simp only [hinstants]
    constructor
    · intro hnone hour hhour
      exact hnone hour ⟨hour, hhour, le_refl _, by omega⟩
    · rintro hnone t ⟨hour, hhour, -⟩
      exact hnone hour hhour
  have hnoUncovered : coverage.uncoveredRanges = [] ↔
      ∀ t, MissingInstant dataset t → Covered (verifiedSpans evidence) t := by
    rw [← List.map_eq_nil_iff (f := span), huncoveredSpans, huncoveredOrdered.eq_nil_iff]
    simp only [covered_subtractAll hordered, hinstants, not_and, not_not]
  refine
    { readable := fun range hrange => ?_
      missing_instants := fun t => by rw [hmissingSpans, hinstants]
      missing_hours := fun i hi => ?_
      missing_maximal := ?_
      uncovered_ordered := by
        rw [huncoveredSpans]
        exact huncoveredOrdered
      uncovered_instants := fun t => by
        rw [huncoveredSpans, hmissingSpans, covered_subtractAll hordered]
      dense_iff := ?_
      verifiedSparse_iff := ?_
      verified_complete := hcomplete }
  · rcases List.mem_append.mp hrange with hrange | hrange
    · exact hmissingReadable range hrange
    · exact huncoveredReadable range hrange
  · rw [hmissingSpans] at hi
    obtain ⟨r, hr, rfl⟩ := List.mem_map.mp hi
    obtain ⟨hfirst, hlast, hle⟩ := ends_runs hsorted hr
    refine ⟨((hmissing _).mp hfirst).1, ?_, hintervals.nonempty _ hi⟩
    exact Int.dvd_add ((hmissing _).mp hlast).1 (Int.dvd_refl _)
  · rw [hmissingSpans]
    exact apart_intervals hsorted hgrid
  · rw [← hnoMissing]
    rcases hresult with ⟨hempty, hcoverage⟩ | ⟨hne, -, hstatus⟩
    · simp [hcoverage]
    · rw [hstatus]
      split_ifs <;> simp [hne]
  · have hsome : (∃ h, MissingHour dataset h) ↔ coverage.missingRanges ≠ [] := by
      rw [Ne, hnoMissing, not_forall_not]
    rw [hsome, ← hnoUncovered]
    rcases hresult with ⟨hempty, hcoverage⟩ | ⟨hne, -, hstatus⟩
    · simp [hcoverage]
    · rw [hstatus]
      split_ifs with hcovered
      · simp [hne, hcovered]
      · simp [hcovered]

end Classify

/-- The SHA-256 of the canonical JSON of the dataset. -/
def datasetSha256 : String := "491ab04338deffe92eda61d4a40e4300cc73f6117f0e5c87b50e569a3269d8cd"

/-- The SHA-256 of the canonical JSON of the evidence. -/
def evidenceSha256 : String := "9f4c4612fd15cc132a0a1076bb2de1893d2d16ed9a8c88c241d20c4c1271ba8f"

/-- The SHA-256 of a response without trades. -/
def emptyResponseSha256 : String :=
  "4f53cda18c2baa0c0354bb5f9a3ecbe5ed12ab4d8e11ba873c2f11161202b945"

/-- A dataset from half past midnight to five, with a candle at two. -/
def sparseDataset : ResearchCandleDataset where
  provenance :=
    { asset := .btc
      market := .krwBtc
      historyStartAt := "2024-01-01T00:30:00.000Z"
      endAt := "2024-01-01T05:00:00.000Z"
      collectedAt := "2024-01-01T05:00:00.000Z"
      source := "upbit-public"
      sha256 := datasetSha256 }
  candles :=
    { oneHour := [⟨.krwBtc, .oneHour, "2024-01-01T02:00:00.000Z", "2024-01-01T03:00:00.000Z",
        100, 110, 90, 105, 1, 100⟩]
      fourHours := []
      oneDay := [] }

/-- Its evidence, which leaves half an hour open. -/
def sparseEvidence : ResearchNoTradeEvidence where
  provenance :=
    { fromAt := "2024-01-01T00:30:00.000Z"
      toAt := "2024-01-01T05:00:00.000Z"
      asset := .btc
      market := .krwBtc
      parentDatasetSha256 := datasetSha256
      source := "upbit-public"
      collectorVersion := "1"
      collectedAt := "2024-01-01T05:00:00.000Z"
      sha256 := evidenceSha256 }
  querySegments :=
    [⟨⟨"2024-01-01T01:00:00.000Z", "2024-01-01T02:00:00.000Z"⟩, true, emptyResponseSha256⟩,
      ⟨⟨"2024-01-01T03:00:00.000Z", "2024-01-01T05:00:00.000Z"⟩, true, emptyResponseSha256⟩]
  verifiedNoTradeRanges :=
    [⟨"2024-01-01T01:00:00.000Z", "2024-01-01T02:00:00.000Z"⟩,
      ⟨"2024-01-01T03:00:00.000Z", "2024-01-01T04:30:00.000Z"⟩]

def sparseCoverage : IndependentNoTradeCoverage where
  status := .unverifiedSparse
  missingRanges := [⟨"2024-01-01T01:00:00.000Z", "2024-01-01T02:00:00.000Z"⟩,
    ⟨"2024-01-01T03:00:00.000Z", "2024-01-01T05:00:00.000Z"⟩]
  uncoveredRanges := [⟨"2024-01-01T04:30:00.000Z", "2024-01-01T05:00:00.000Z"⟩]

/-- Half an hour stays uncovered. -/
theorem coverage_exact_sparse : ExactCoverage sparseDataset (some sparseEvidence) sparseCoverage :=
  @coverage_exact ⟨fun _ => datasetSha256, fun _ => evidenceSha256⟩ sparseDataset
    (some sparseEvidence) sparseCoverage (by decide +kernel) (by decide +kernel)

end AutoTrade.Performance.NoTradeEvidence
