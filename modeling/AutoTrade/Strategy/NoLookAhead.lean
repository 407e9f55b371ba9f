import AutoTrade.Strategy.BacktestFrames
import AutoTrade.Strategy.PolicyParity

/-! # No look-ahead

A run over more frames repeats the run over the first of them: a turn of the loop appends its result
and touches no earlier one but the last, of which it sets the mark of the modeled execution
(`runFrame_extends`). With `BacktestFrames`, where the frames up to an instant only depend on the
candles closed by it, nothing that a backtest says about a moment depends on what came after it. -/

namespace AutoTrade.Strategy.NoLookAhead

open Lib.Result Lib.SortBy Domain.Timestamp Strategy.Core
open Strategy.ResearchPolicy Strategy.Backtest Strategy.BacktestFrames

/-! ### Results apart from the mark of the last -/

/-- A result without the mark of its modeled execution. -/
def unmarked (result : PositionGuardBacktestFrameResult) : PositionGuardBacktestFrameResult :=
  { result with modeledExecution := none }

/-- The results begin with the given ones, except perhaps for the mark of the last of these. -/
structure Extends (results longer : List PositionGuardBacktestFrameResult) : Prop where
  length_le : results.length ≤ longer.length
  same : longer.take (results.length - 1) = results.dropLast
  unmarked : (longer.take results.length).map unmarked = results.map unmarked

variable (results : List PositionGuardBacktestFrameResult)

theorem Extends.refl : Extends results results :=
  ⟨le_rfl, by rw [List.dropLast_eq_take], by rw [List.take_length]⟩

theorem unmarked_markResult (index : ℕ) (evidence : PositionGuardBacktestModeledExecutionEvidence) :
    (markResult results index evidence).map unmarked = results.map unmarked := by
  refine List.ext_getElem (by simp [markResult]) fun i _ _ => ?_
  simp only [markResult, List.getElem_map, List.getElem_modify]
  split_ifs <;> rfl

variable {results longer : List PositionGuardBacktestFrameResult}

theorem Extends.mark (h : Extends results longer) {index : ℕ} (hindex : results.length - 1 ≤ index)
    (evidence : PositionGuardBacktestModeledExecutionEvidence) :
    Extends results (markResult longer index evidence) := by
  refine ⟨by simpa [markResult] using h.length_le, ?_, ?_⟩
  · rw [← h.same]
    refine List.ext_getElem (by simp [markResult]) fun i hi _ => ?_
    have hlt : i < results.length - 1 := by
      rw [List.length_take] at hi
      omega
    simp only [markResult, List.getElem_take, List.getElem_modify]
    rw [if_neg (by omega)]
  · rw [← h.unmarked, List.map_take, List.map_take, unmarked_markResult]

theorem Extends.append (h : Extends results longer) (result : PositionGuardBacktestFrameResult) :
    Extends results (longer ++ [result]) := by
  have hle := h.length_le
  refine ⟨by rw [List.length_append]; omega, ?_, ?_⟩
  · rw [List.take_append_of_le_length (by omega), h.same]
  · rw [List.take_append_of_le_length hle, h.unmarked]

/-! ### A turn of the loop -/

section Run

variable {R : Rounding}
  {decideCore : PositionGuardStrategyContext → PositionGuardEngineDecision} {config : RunConfig}
  {loop loop' : LoopState}

/-- A decision that waits for the next frame is that of the last frame. -/
def PendingIsLast (config : RunConfig) (loop : LoopState) : Prop :=
  ∀ pending ∈ loop.pendingDecision, config.executionTimingModel = .nextFrameModeled ∧
    pending.sourceResultIndex + 1 = loop.results.length

/-- The results, perhaps with a mark on the last of them. -/
def LastMarked (results results' : List PositionGuardBacktestFrameResult) : Prop :=
  results' = results ∨ ∃ evidence, results' = markResult results (results.length - 1) evidence

theorem LastMarked.length_eq {results results' : List PositionGuardBacktestFrameResult}
    (h : LastMarked results results') : results'.length = results.length := by
  rcases h with rfl | ⟨evidence, rfl⟩
  · rfl
  · simp [markResult]

theorem Extends.lastMarked {base results results' : List PositionGuardBacktestFrameResult}
    (h : Extends base results) (hm : LastMarked results results') : Extends base results' := by
  have hle := h.length_le
  rcases hm with rfl | ⟨evidence, rfl⟩
  · exact h
  · exact h.mark (by omega) evidence

theorem executePending_spec (h : PendingIsLast config loop) (frame : PositionGuardBacktestFrame)
    (index : ℕ) : (executePending R config loop frame index).loop.pendingDecision = none ∧
      LastMarked loop.results (executePending R config loop frame index).loop.results := by
  unfold executePending
  cases hpending : loop.pendingDecision with
  | none =>
    cases config.executionTimingModel <;> exact ⟨hpending, Or.inl rfl⟩
  | some pending =>
    obtain ⟨htiming, hlast⟩ := h pending (by simp [hpending])
    have hindex : loop.results.length - 1 = pending.sourceResultIndex := by omega
    rw [htiming, LastMarked, hindex]
    exact ⟨rfl, Or.inr ⟨_, rfl⟩⟩

theorem executeFrame_spec (loop : LoopState) (frame : PositionGuardBacktestFrame)
    (judgement : Judgement) (carried : Option DecisionExecutionResult)
    (hnone : loop.pendingDecision = none) :
    (executeFrame R config loop frame judgement carried).loop.results = loop.results ∧
      ∀ pending ∈ (executeFrame R config loop frame judgement carried).loop.pendingDecision,
        config.executionTimingModel = .nextFrameModeled ∧
          pending.sourceResultIndex = loop.results.length := by
  unfold executeFrame
  cases htiming : config.executionTimingModel with
  | sameCloseModeled => exact ⟨rfl, by simp [hnone]⟩
  | nextFrameModeled =>
    dsimp only
    split_ifs
    · refine ⟨rfl, fun pending hpending => ⟨rfl, ?_⟩⟩
      rw [← Option.mem_some.mp hpending]
      rfl
    · exact ⟨rfl, by simp [hnone]⟩

variable {entry : PositionGuardBacktestFrame × ℕ}

/-- A turn of the loop appends a result; of the others it changes at most the mark of the last. -/
theorem runFrame_spec (h : PendingIsLast config loop)
    (hrun : runFrame R decideCore config loop entry = .ok loop') :
    PendingIsLast config loop' ∧ ∃ results result, LastMarked loop.results results ∧
      loop'.results = results ++ [result] := by
  unfold runFrame at hrun
  obtain ⟨judgement, -, hloop⟩ := bind_eq_ok.mp hrun
  obtain ⟨hnone, hmarked⟩ := @executePending_spec R config loop h entry.1 entry.2
  set carried := executePending R config loop entry.1 entry.2 with hcarried
  obtain ⟨hresults, hpending⟩ := @executeFrame_spec R config carried.loop entry.1 judgement
    carried.execution hnone
  obtain ⟨result, hresult⟩ : ∃ result, (recordFrame R config
      (executeFrame R config carried.loop entry.1 judgement carried.execution) entry.1
      (cloneState R carried.loop.state) judgement carried.origin).results = _ ++ [result] := ⟨_, rfl⟩
  rw [hresults] at hresult
  rw [← Except.ok.inj hloop]
  refine ⟨fun pending hmem => ?_, carried.loop.results, result, hmarked, hresult⟩
  obtain ⟨htiming, hindex⟩ := hpending pending hmem
  refine ⟨htiming, ?_⟩
  rw [hindex, hresult, List.length_append]
  rfl

variable {base : List PositionGuardBacktestFrameResult}

theorem runFrame_extends (h : PendingIsLast config loop) (hbase : Extends base loop.results)
    (hrun : runFrame R decideCore config loop entry = .ok loop') :
    PendingIsLast config loop' ∧ Extends base loop'.results ∧
      loop'.results.length = loop.results.length + 1 := by
  obtain ⟨hpending, results, result, hmarked, hresults⟩ := runFrame_spec h hrun
  refine ⟨hpending, ?_, ?_⟩
  · rw [hresults]
    exact (hbase.lastMarked hmarked).append result
  · rw [hresults, List.length_append, hmarked.length_eq]
    rfl

theorem run_extends {entries : List (PositionGuardBacktestFrame × ℕ)}
    (h : PendingIsLast config loop) (hbase : Extends base loop.results)
    (hrun : entries.foldlM (runFrame R decideCore config) loop = .ok loop') :
    PendingIsLast config loop' ∧ Extends base loop'.results ∧
      loop'.results.length = loop.results.length + entries.length := by
  induction entries generalizing loop with
  | nil =>
    cases hrun
    exact ⟨h, hbase, rfl⟩
  | cons entry rest ih =>
    rw [List.foldlM_cons, bind_eq_ok] at hrun
    obtain ⟨middle, hstep, hrest⟩ := hrun
    obtain ⟨hpending, hextends, hlength⟩ := runFrame_extends h hbase hstep
    obtain ⟨hpending', hextends', hlength'⟩ := ih hpending hextends hrest
    refine ⟨hpending', hextends', ?_⟩
    rw [hlength', hlength, List.length_cons]
    omega

/-! ### Whole runs -/

theorem lastMarked_finalResults (h : PendingIsLast config loop) :
    LastMarked loop.results (finalResults loop) := by
  unfold finalResults
  cases hpending : loop.pendingDecision with
  | none => exact Or.inl rfl
  | some pending =>
    obtain ⟨-, hlast⟩ := h pending (by simp [hpending])
    have hindex : loop.results.length - 1 = pending.sourceResultIndex := by omega
    rw [LastMarked, hindex]
    exact Or.inr ⟨_, rfl⟩

theorem Extends.of_lastMarked {base base' longer : List PositionGuardBacktestFrameResult}
    (h : Extends base longer) (hm : LastMarked base base') : Extends base' longer := by
  rcases hm with rfl | ⟨evidence, rfl⟩
  · exact h
  · have hrefl : Extends base (markResult base (base.length - 1) evidence) :=
      (Extends.refl base).mark le_rfl evidence
    have hlength : (markResult base (base.length - 1) evidence).length = base.length := by
      simp [markResult]
    refine ⟨by rw [hlength]; exact h.length_le, ?_, ?_⟩
    · rw [hlength, h.same, ← hrefl.same, List.dropLast_eq_take, hlength]
    · rw [hlength, h.unmarked, unmarked_markResult]

/-- The input with other frames. -/
def withFrames (input : PositionGuardBacktestInput) (frames : List PositionGuardBacktestFrame) :
    PositionGuardBacktestInput :=
  { input with frames }

theorem pendingIsLast_initialLoop (config : RunConfig) (state : PositionGuardBacktestState)
    (researchState : PositionGuardBacktestResearchState) (initialEquity : ℚ) :
    PendingIsLast config (initialLoop state researchState initialEquity) := by
  simp [PendingIsLast, initialLoop]

/-- The loop over the frames of an input, after the checks before it. -/
def runLoop (R : Rounding)
    (decideCore : PositionGuardStrategyContext → PositionGuardEngineDecision)
    (input : PositionGuardBacktestInput)
    (policy : Option PositionGuardBacktestResearchExecutionPolicy)
    (researchState : PositionGuardBacktestResearchState) (initialEquity : ℚ)
    (entries : List (PositionGuardBacktestFrame × ℕ)) : Except String LoopState :=
  entries.foldlM (runFrame R decideCore (input.config policy))
    (initialLoop ⟨input.initialCashKrw, input.initialQuantity, input.initialAverageEntryPrice⟩
      researchState initialEquity)

variable (input : PositionGuardBacktestInput)

theorem runBacktest_withFrames (frames : List PositionGuardBacktestFrame) :
    runPositionGuardBacktest R decideCore (withFrames input frames) = (do
      let policy ← validateResearchExecutionPolicy input.researchExecutionPolicy
      let researchState ← initializeResearchState input policy
      let initialEquity := getInitialEquity frames
        ⟨input.initialCashKrw, input.initialQuantity, input.initialAverageEntryPrice⟩
      let loop ← runLoop R decideCore input policy researchState initialEquity frames.zipIdx
      .ok (finishRun R (input.config policy) initialEquity loop)) :=
  rfl

theorem runLoop_append (policy : Option PositionGuardBacktestResearchExecutionPolicy)
    (researchState : PositionGuardBacktestResearchState) (initialEquity : ℚ)
    (first later : List PositionGuardBacktestFrame) :
    runLoop R decideCore input policy researchState initialEquity (first ++ later).zipIdx = (do
      let middle ← runLoop R decideCore input policy researchState initialEquity first.zipIdx
      (later.zipIdx first.length).foldlM (runFrame R decideCore (input.config policy)) middle) := by
  unfold runLoop
  rw [List.zipIdx_append, List.foldlM_append, Nat.zero_add]

theorem getInitialEquity_append {first : List PositionGuardBacktestFrame} (h : first ≠ [])
    (later : List PositionGuardBacktestFrame) (state : PositionGuardBacktestState) :
    getInitialEquity (first ++ later) state = getInitialEquity first state := by
  unfold getInitialEquity
  rw [List.head?_append_of_ne_nil _ h]

theorem finalResults_extends {input : PositionGuardBacktestInput}
    {policy : Option PositionGuardBacktestResearchExecutionPolicy}
    {researchState : PositionGuardBacktestResearchState} {initialEquity : ℚ}
    {first later : List PositionGuardBacktestFrame}
    (hfirst : runLoop R decideCore input policy researchState initialEquity first.zipIdx = .ok loop)
    (hlater : (later.zipIdx first.length).foldlM (runFrame R decideCore (input.config policy)) loop =
      .ok loop') :
    (finalResults loop).length = first.length ∧
      Extends (finalResults loop) (finalResults loop') := by
  obtain ⟨hpending, -, hlength⟩ := run_extends
    (pendingIsLast_initialLoop (input.config policy) _ researchState initialEquity)
    (Extends.refl _) hfirst
  obtain ⟨hpending', hextends, -⟩ := run_extends hpending (Extends.refl loop.results) hlater
  have hmarked := lastMarked_finalResults hpending
  have hmarked' := lastMarked_finalResults hpending'
  refine ⟨?_, (hextends.lastMarked hmarked').of_lastMarked hmarked⟩
  rw [hmarked.length_eq, hlength, List.length_zipIdx]
  simp [initialLoop]

/-- A run over `first ++ later` and the run over `first`: an error of the shorter run is one of the
longer run, and the results of the longer run extend those of the shorter. -/
theorem run_append (first later : List PositionGuardBacktestFrame) :
    (∀ e, runPositionGuardBacktest R decideCore (withFrames input first) = .error e →
      runPositionGuardBacktest R decideCore (withFrames input (first ++ later)) = .error e) ∧
    (∀ full, runPositionGuardBacktest R decideCore (withFrames input (first ++ later)) = .ok full →
      ∃ part, runPositionGuardBacktest R decideCore (withFrames input first) = .ok part ∧
        part.frames.length = first.length ∧ Extends part.frames full.frames) := by
  rw [runBacktest_withFrames, runBacktest_withFrames]
  cases validateResearchExecutionPolicy input.researchExecutionPolicy with
  | error e => exact ⟨fun e' h => h, fun full h => by cases h⟩
  | ok policy =>
    simp only [ok_bind]
    cases initializeResearchState input policy with
    | error e => exact ⟨fun e' h => h, fun full h => by cases h⟩
    | ok researchState =>
      simp only [ok_bind]
      by_cases hempty : first = []
      · -- no frame, no result; the two runs start from different equities
        subst hempty
        refine ⟨fun e h => (by cases h), fun full _ => ⟨_, rfl, rfl, ?_⟩⟩
        exact ⟨Nat.zero_le _, rfl, rfl⟩
      · rw [getInitialEquity_append hempty, runLoop_append]
        set initialEquity := getInitialEquity first
          ⟨input.initialCashKrw, input.initialQuantity, input.initialAverageEntryPrice⟩
        cases hfirst : runLoop R decideCore input policy researchState initialEquity
            first.zipIdx with
        | error e => exact ⟨fun e' h => h, fun full h => by cases h⟩
        | ok loop =>
          refine ⟨fun e h => (by cases h), fun full hfull => ?_⟩
          rw [ok_bind, bind_eq_ok] at hfull
          obtain ⟨loop', hlater, hresult⟩ := hfull
          obtain ⟨hlength, hextends⟩ := finalResults_extends hfirst hlater
          rw [← Except.ok.inj hresult]
          exact ⟨_, rfl, hlength, hextends⟩

end Run

/-! ### Frames and runs -/

/-- Nothing that a backtest says about the frames up to an instant depends on a candle that closes
after it: the frames are the same without these candles, each frame is built from exactly the
candles that have closed when it is generated, and the run over all frames extends the run over
those up to the instant. -/
theorem backtest_no_look_ahead (R : Rounding)
    (decideCore : PositionGuardStrategyContext → PositionGuardEngineDecision)
    (analyze : PositionGuardMarketSnapshot → PositionGuardStructureAnalysis)
    (input : BuildPositionGuardBacktestFramesInput) (run : PositionGuardBacktestInput) (t : ℤ) :
    buildPositionGuardBacktestFrames analyze (input.upTo t) =
        (buildPositionGuardBacktestFrames analyze input).map (List.filter (generatedBy t)) ∧
      ∀ frames, buildPositionGuardBacktestFrames analyze input = .ok frames →
        (∀ frame ∈ frames, ∃ candle ∈ input.oneHourCandles, ∃ decision,
          indexCandle candle = .ok decision ∧
            frame = frameOf analyze input decision
              (input.completedBy (instant frame.generatedAt))) ∧
        (∀ e, runPositionGuardBacktest R decideCore
            (withFrames run (frames.filter (generatedBy t))) = .error e →
          runPositionGuardBacktest R decideCore (withFrames run frames) = .error e) ∧
        (∀ full, runPositionGuardBacktest R decideCore (withFrames run frames) = .ok full →
          ∃ part, runPositionGuardBacktest R decideCore
              (withFrames run (frames.filter (generatedBy t))) = .ok part ∧
            part.frames.length = (frames.filter (generatedBy t)).length ∧
            Extends part.frames full.frames) := by
  refine ⟨buildFrames_upTo analyze input t, fun frames hframes =>
    ⟨fun frame hmem => frame_of_mem hframes hmem, ?_⟩⟩
  -- the frames are in order, so those up to the instant come first
  have hfirst : frames.take (frames.filter (generatedBy t)).length =
      frames.filter (generatedBy t) := take_filter_length (sortedBy_frames hframes)
  have hsplit : frames = frames.filter (generatedBy t) ++
      frames.drop (frames.filter (generatedBy t)).length := by
    conv_lhs => rw [← List.take_append_drop (frames.filter (generatedBy t)).length frames, hfirst]
  have happend := @run_append R decideCore run (frames.filter (generatedBy t))
    (frames.drop (frames.filter (generatedBy t)).length)
  rw [← hsplit] at happend
  exact happend

/-- An hourly candle. -/
def hourlyCandle (openTime closeTime : String) (closePrice : ℚ) : StrategyMarketCandle where
  market := .krwBtc
  timeframe := .oneHour
  openTime
  closeTime
  openPrice := 100
  highPrice := 110
  lowPrice := 90
  closePrice
  volume := 1
  quoteVolume := 100

/-- Two hours, the later one first and without a timezone. -/
def twoHours : BuildPositionGuardBacktestFramesInput where
  asset := .btc
  market := .krwBtc
  oneHourCandles :=
    [hourlyCandle "2026-01-01T01:00:00" "2026-01-01T02:00:00" 110,
      hourlyCandle "2026-01-01T00:00:00Z" "2026-01-01T01:00:00Z" 100]
  fourHourCandles := []
  oneDayCandles := []
  startAt := none
  endAt := none
  minimumCompletedCandles := ⟨some 1, some 0, some 0⟩

/-- A run that starts with a million KRW and executes at the next frame. -/
def nextFrameRun : PositionGuardBacktestInput where
  asset := .btc
  market := .krwBtc
  initialCashKrw := 1000000
  initialQuantity := 0
  initialAverageEntryPrice := 0
  frames := []
  settings := none
  execution := none
  researchExecutionPolicy := none
  researchCarryInState := none
  executionTimingModel := some .nextFrameModeled

/-- An analysis that only reads the price. -/
def priceOnly (snapshot : PositionGuardMarketSnapshot) : PositionGuardStructureAnalysis :=
  { PolicyParity.uptrend with currentPrice := snapshot.ticker.tradePrice }

/-- The frame of an hour: so many hourly candles have closed, the last at `closeTime`. -/
def hourFrame (generatedAt closeTime : String) (price : ℚ) (count : ℕ) :
    PositionGuardBacktestFrame where
  generatedAt
  analysis := { PolicyParity.uptrend with currentPrice := price }
  source := some ⟨⟨count, 0, 0⟩, ⟨some closeTime, none, none⟩⟩

def twoHourFrames : List PositionGuardBacktestFrame :=
  [hourFrame "2026-01-01T01:00:00Z" "2026-01-01T01:00:00Z" 100 1,
    hourFrame "2026-01-01T02:00:00Z" "2026-01-01T02:00:00" 110 2]

/-- The two hours, up to the end of the first. -/
theorem no_look_ahead_two_hours :
    buildPositionGuardBacktestFrames priceOnly twoHours = .ok twoHourFrames ∧
      ∃ full part,
        runPositionGuardBacktest Rounding.exact (fun _ => PolicyParity.uptrendDecision .enter)
          (withFrames nextFrameRun twoHourFrames) = .ok full ∧
        runPositionGuardBacktest Rounding.exact (fun _ => PolicyParity.uptrendDecision .enter)
          (withFrames nextFrameRun
            (twoHourFrames.filter (generatedBy (instant "2026-01-01T01:00:00Z")))) = .ok part ∧
        part.frames.length = 1 ∧ Extends part.frames full.frames := by
  have hframes : buildPositionGuardBacktestFrames priceOnly twoHours = .ok twoHourFrames := by
    decide +kernel
  obtain ⟨full, hfull⟩ : ∃ full, runPositionGuardBacktest Rounding.exact
      (fun _ => PolicyParity.uptrendDecision .enter) (withFrames nextFrameRun twoHourFrames) =
        .ok full := exists_ok (by decide +kernel)
  obtain ⟨-, hruns⟩ := backtest_no_look_ahead Rounding.exact
    (fun _ => PolicyParity.uptrendDecision .enter) priceOnly twoHours nextFrameRun
    (instant "2026-01-01T01:00:00Z")
  obtain ⟨part, hpart, hlength, hextends⟩ := (hruns twoHourFrames hframes).2.2 full hfull
  have hone : (twoHourFrames.filter (generatedBy (instant "2026-01-01T01:00:00Z"))).length = 1 := by
    decide +kernel
  exact ⟨hframes, full, part, hfull, hpart, hlength.trans hone, hextends⟩

end AutoTrade.Strategy.NoLookAhead
