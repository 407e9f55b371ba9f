import AutoTrade.Strategy.MarketStructure
import Mathlib.Tactic.Linarith
import Mathlib.Tactic.Positivity

/-! # Levels and indicators of a timeframe

Support and resistance are the last pivots of a window, found one without the other, so they need not
be in order; everything else about the levels of `analyzeTimeframe` is: both lie in the range of the
candles, and they are out of order exactly when the last pivot low lies above the last pivot high
(`levels_in_range`). The indicators stay in their ranges, and both series of the MACD end at the same
candle (`calculateMacd_eq`). -/

namespace AutoTrade.Strategy.StructureLevels

open Strategy.Backtest Strategy.BacktestFrames
open Strategy.MarketStructure

/-! ### Candles -/

/-- The low is positive, and the candle opens and closes between its low and its high. -/
structure ValidCandle (candle : StrategyMarketCandle) : Prop where
  low_pos : 0 < candle.lowPrice
  low_open : candle.lowPrice ≤ candle.openPrice
  low_close : candle.lowPrice ≤ candle.closePrice
  open_high : candle.openPrice ≤ candle.highPrice
  close_high : candle.closePrice ≤ candle.highPrice

instance (candle : StrategyMarketCandle) : Decidable (ValidCandle candle) :=
  decidable_of_iff (0 < candle.lowPrice ∧ candle.lowPrice ≤ candle.openPrice ∧
      candle.lowPrice ≤ candle.closePrice ∧ candle.openPrice ≤ candle.highPrice ∧
      candle.closePrice ≤ candle.highPrice)
    ⟨fun ⟨h₁, h₂, h₃, h₄, h₅⟩ => ⟨h₁, h₂, h₃, h₄, h₅⟩,
      fun ⟨h₁, h₂, h₃, h₄, h₅⟩ => ⟨h₁, h₂, h₃, h₄, h₅⟩⟩

variable {candles : List StrategyMarketCandle} {candle : StrategyMarketCandle} {fallback : ℚ}

theorem ValidCandle.low_le_high (h : ValidCandle candle) : candle.lowPrice ≤ candle.highPrice :=
  h.low_close.trans h.close_high

/-! ### Highs and lows -/

theorem foldl_max_spec {α κ : Type} [LinearOrder κ] (key : α → κ) (start : κ) (l : List α) :
    start ≤ l.foldl (fun best a => max best (key a)) start ∧
    (∀ a ∈ l, key a ≤ l.foldl (fun best a => max best (key a)) start) ∧
    (l.foldl (fun best a => max best (key a)) start = start ∨
      ∃ a ∈ l, l.foldl (fun best a => max best (key a)) start = key a) := by
  induction l generalizing start with
  | nil => simp
  | cons first rest ih =>
    obtain ⟨hle, hall, hatt⟩ := ih (max start (key first))
    rw [List.foldl_cons]
    refine ⟨(le_max_left _ _).trans hle, ?_, ?_⟩
    · intro a hmem
      rcases List.mem_cons.mp hmem with rfl | hmem
      · exact (le_max_right _ _).trans hle
      · exact hall a hmem
    · rcases hatt with heq | ⟨a, hmem, heq⟩
      · rw [heq]
        rcases max_choice start (key first) with h | h
        · exact Or.inl h
        · exact Or.inr ⟨first, List.mem_cons_self, h⟩
      · exact Or.inr ⟨a, List.mem_cons_of_mem _ hmem, heq⟩

theorem foldl_min_spec (lowest : ℚ) (candles : List StrategyMarketCandle) :
    candles.foldl (fun lowest candle => min lowest candle.lowPrice) lowest ≤ lowest ∧
    (∀ candle ∈ candles,
      candles.foldl (fun lowest candle => min lowest candle.lowPrice) lowest ≤ candle.lowPrice) ∧
    (candles.foldl (fun lowest candle => min lowest candle.lowPrice) lowest = lowest ∨
      ∃ candle ∈ candles, candles.foldl (fun lowest candle => min lowest candle.lowPrice) lowest =
        candle.lowPrice) :=
  @foldl_max_spec _ ℚᵒᵈ _ (fun candle : StrategyMarketCandle => candle.lowPrice) lowest candles

theorem le_getHigh (hmem : candle ∈ candles) : candle.highPrice ≤ getHigh candles fallback := by
  rcases candles with _ | ⟨first, rest⟩
  · cases hmem
  · exact (foldl_max_spec StrategyMarketCandle.highPrice first.highPrice (first :: rest)).2.1 candle hmem

theorem getLow_le (hmem : candle ∈ candles) : getLow candles fallback ≤ candle.lowPrice := by
  rcases candles with _ | ⟨first, rest⟩
  · cases hmem
  · exact (foldl_min_spec first.lowPrice (first :: rest)).2.1 candle hmem

theorem getHigh_mem (hne : candles ≠ []) :
    ∃ candle ∈ candles, getHigh candles fallback = candle.highPrice := by
  rcases candles with _ | ⟨first, rest⟩
  · exact absurd rfl hne
  · rcases (foldl_max_spec StrategyMarketCandle.highPrice first.highPrice (first :: rest)).2.2 with h | h
    · exact ⟨first, List.mem_cons_self, h⟩
    · exact h

theorem getLow_mem (hne : candles ≠ []) :
    ∃ candle ∈ candles, getLow candles fallback = candle.lowPrice := by
  rcases candles with _ | ⟨first, rest⟩
  · exact absurd rfl hne
  · rcases (foldl_min_spec first.lowPrice (first :: rest)).2.2 with h | h
    · exact ⟨first, List.mem_cons_self, h⟩
    · exact h

/-! ### Pivots -/

/-- The pivots that `findSwings` ends with. -/
def lastPivots (candles : List StrategyMarketCandle) : Pivots :=
  (List.range (candles.length - 4)).foldl
    (fun pivots index => pivotStep pivots ((candles.drop index).take 5)) ⟨none, none⟩

/-- The pivots are prices of the candles. -/
structure PivotsOf (candles : List StrategyMarketCandle) (pivots : Pivots) : Prop where
  high : ∀ price ∈ pivots.high, ∃ candle ∈ candles, price = candle.highPrice
  low : ∀ price ∈ pivots.low, ∃ candle ∈ candles, price = candle.lowPrice

theorem pivotsOf_step {pivots : Pivots} (h : PivotsOf candles pivots)
    {window : List StrategyMarketCandle} (hsub : ∀ candle ∈ window, candle ∈ candles) :
    PivotsOf candles (pivotStep pivots window) := by
  unfold pivotStep
  split
  · next a b current c d =>
    have hcurrent : current ∈ candles := hsub current (by simp)
    constructor
    · intro price hprice
      dsimp only at hprice
      split_ifs at hprice
      · exact ⟨current, hcurrent, (Option.mem_some_iff.mp hprice).symm⟩
      · exact h.high price hprice
    · intro price hprice
      dsimp only at hprice
      split_ifs at hprice
      · exact ⟨current, hcurrent, (Option.mem_some_iff.mp hprice).symm⟩
      · exact h.low price hprice
  · exact h

theorem pivotsOf_last (candles : List StrategyMarketCandle) :
    PivotsOf candles (lastPivots candles) := by
  unfold lastPivots
  have hempty : PivotsOf candles ⟨none, none⟩ := by
    constructor
    · intro price hprice
      cases hprice
    · intro price hprice
      cases hprice
  have hfold : ∀ (indices : List ℕ) (pivots : Pivots), PivotsOf candles pivots →
      PivotsOf candles (indices.foldl
        (fun pivots index => pivotStep pivots ((candles.drop index).take 5)) pivots) := by
    intro indices
    induction indices with
    | nil => exact fun _ h => h
    | cons index indices ih =>
      intro pivots h
      exact ih _ (pivotsOf_step h fun candle hmem =>
        List.mem_of_mem_drop (List.mem_of_mem_take hmem))
  exact hfold _ _ hempty

/-- Both swings are prices of the candles, and they are in order unless the last pivot low lies above
the last pivot high. -/
theorem findSwings_spec (fallback : ℚ) (hne : candles ≠ []) (hvalid : ∀ candle ∈ candles, ValidCandle candle) :
    (∃ candle ∈ candles, (findSwings candles fallback).swingHigh = candle.highPrice) ∧
    (∃ candle ∈ candles, (findSwings candles fallback).swingLow = candle.lowPrice) ∧
    ((findSwings candles fallback).swingHigh < (findSwings candles fallback).swingLow ↔
      5 ≤ candles.length ∧ ∃ high low, lastPivots candles = ⟨some high, some low⟩ ∧ high < low) := by
  have hhigh : ∃ candle ∈ candles, getHigh candles fallback = candle.highPrice := getHigh_mem hne
  have hlow : ∃ candle ∈ candles, getLow candles fallback = candle.lowPrice := getLow_mem hne
  unfold findSwings
  split_ifs with hshort
  · refine ⟨hhigh, hlow, ?_⟩
    obtain ⟨candle, hmem, heq⟩ := hhigh
    have hle : getLow candles fallback ≤ getHigh candles fallback := by
      rw [heq]
      exact (getLow_le hmem).trans (hvalid candle hmem).low_le_high
    refine iff_of_false (not_lt.mpr hle) fun h => ?_
    omega
  · obtain ⟨hpivotHigh, hpivotLow⟩ := pivotsOf_last candles
    rw [show (List.range (candles.length - 4)).foldl
      (fun pivots index => pivotStep pivots ((candles.drop index).take 5)) ⟨none, none⟩ =
        lastPivots candles from rfl]
    rcases hpivots : lastPivots candles with ⟨high, low⟩
    rw [hpivots] at hpivotHigh hpivotLow
    dsimp only at hpivotHigh hpivotLow ⊢
    have hlong : 5 ≤ candles.length := not_lt.mp hshort
    rcases high with _ | high
    · refine ⟨hhigh, ?_, ?_⟩
      · rcases low with _ | low
        · exact hlow
        · exact hpivotLow low rfl
      · refine iff_of_false (not_lt.mpr ?_) (by simp)
        -- no pivot high: the resistance is above every candle
        rcases low with _ | low
        · obtain ⟨candle, hmem, heq⟩ := hhigh
          rw [Option.getD_none, Option.getD_none, heq]
          exact (getLow_le hmem).trans (hvalid candle hmem).low_le_high
        · obtain ⟨candle, hmem, heq⟩ := hpivotLow low rfl
          rw [Option.getD_none, Option.getD_some, heq]
          exact (hvalid candle hmem).low_le_high.trans (le_getHigh hmem)
    · refine ⟨hpivotHigh high rfl, ?_, ?_⟩
      · rcases low with _ | low
        · exact hlow
        · exact hpivotLow low rfl
      · rcases low with _ | low
        · refine iff_of_false (not_lt.mpr ?_) (by simp)
          -- no pivot low: the support is below every candle
          obtain ⟨candle, hmem, heq⟩ := hpivotHigh high rfl
          rw [Option.getD_none, Option.getD_some, heq]
          exact (getLow_le hmem).trans (hvalid candle hmem).low_le_high
        · rw [Option.getD_some, Option.getD_some]
          constructor
          · exact fun hlt => ⟨hlong, high, low, rfl, hlt⟩
          · rintro ⟨-, high', low', heq, hlt⟩
            simp only [Pivots.mk.injEq, Option.some.injEq] at heq
            rw [heq.1, heq.2]
            exact hlt

/-! ### The levels of a timeframe -/

variable {α : Type}

theorem mem_newest {count : ℕ} {values : List α} {value : α} (h : value ∈ newest count values) :
    value ∈ values := List.mem_of_mem_drop h

theorem newest_ne_nil {count : ℕ} {values : List α} (hne : values ≠ []) (hcount : 0 < count) :
    newest count values ≠ [] := by
  have hpos := List.length_pos_iff.mpr hne
  rw [newest, ne_eq, List.drop_eq_nil_iff]
  omega

theorem mem_recent {timeframe : SupportedStrategyTimeframe}
    (h : candle ∈ newest (swingLookback timeframe) candles) :
    candle ∈ newest (min candles.length (lookback timeframe)) candles := by
  have hle : swingLookback timeframe ≤ lookback timeframe := by cases timeframe <;> decide
  have hdrop : candles.length - min candles.length (lookback timeframe) ≤
      candles.length - swingLookback timeframe := by omega
  unfold newest at h ⊢
  exact (List.drop_subset_drop_left _ hdrop) h

/-- The window has a last pivot high and a last pivot low, and the low lies above the high. -/
def PivotsCross (timeframe : SupportedStrategyTimeframe) (candles : List StrategyMarketCandle) :
    Prop :=
  5 ≤ (newest (swingLookback timeframe) candles).length ∧ ∃ high low,
    lastPivots (newest (swingLookback timeframe) candles) = ⟨some high, some low⟩ ∧ high < low

/-- The levels of a structure are prices of its range. -/
structure LevelsInRange (s : TimeframeStructure) : Prop where
  low_support : s.rangeLow ≤ s.support
  support_high : s.support ≤ s.rangeHigh
  low_resistance : s.rangeLow ≤ s.resistance
  resistance_high : s.resistance ≤ s.rangeHigh

/-- **Support and resistance lie in the range, and in order unless the pivots cross.** -/
theorem levels_in_range (hne : candles ≠ []) (hvalid : ∀ candle ∈ candles, ValidCandle candle)
    (timeframe : SupportedStrategyTimeframe) (currentPrice : ℚ) :
    LevelsInRange (analyzeTimeframe timeframe candles currentPrice) ∧
      ((analyzeTimeframe timeframe candles currentPrice).resistance <
        (analyzeTimeframe timeframe candles currentPrice).support ↔ PivotsCross timeframe candles) := by
  have hwindow : newest (swingLookback timeframe) candles ≠ [] :=
    newest_ne_nil hne (by cases timeframe <;> decide)
  obtain ⟨⟨top, htop, hhigh⟩, ⟨bottom, hbottom, hlow⟩, horder⟩ :=
    findSwings_spec currentPrice hwindow fun candle hmem => hvalid candle (mem_newest hmem)
  have htopRecent := mem_recent htop
  have hbottomRecent := mem_recent hbottom
  refine ⟨⟨?_, ?_, ?_, ?_⟩, horder⟩
  · show getLow _ _ ≤ (findSwings _ _).swingLow
    rw [hlow]
    exact getLow_le hbottomRecent
  · show (findSwings _ _).swingLow ≤ getHigh _ _
    rw [hlow]
    exact (hvalid bottom (mem_newest hbottom)).low_le_high.trans (le_getHigh hbottomRecent)
  · show getLow _ _ ≤ (findSwings _ _).swingHigh
    rw [hhigh]
    exact (getLow_le htopRecent).trans (hvalid top (mem_newest htop)).low_le_high
  · show (findSwings _ _).swingHigh ≤ getHigh _ _
    rw [hhigh]
    exact le_getHigh htopRecent

/-! ### The average true range -/

variable {values : List ℚ}

theorem average_nonneg (h : ∀ value ∈ values, 0 ≤ value) : 0 ≤ average values := by
  unfold average
  split_ifs
  · exact le_rfl
  · have hsum : 0 ≤ values.sum := List.sum_nonneg h
    positivity

variable {period : ℕ}

theorem smooth_nonneg (hperiod : 0 < period) {mean value : ℚ} (hmean : 0 ≤ mean)
    (hvalue : 0 ≤ value) : 0 ≤ smooth period mean value := by
  unfold smooth
  have hpred : (0 : ℚ) ≤ period - 1 := by
    rw [sub_nonneg, Nat.one_le_cast]
    exact hperiod
  positivity

theorem foldl_smooth_nonneg (hperiod : 0 < period) (part : α → ℚ) {values : List α}
    (hpart : ∀ value ∈ values, 0 ≤ part value) {mean : ℚ} (hmean : 0 ≤ mean) :
    0 ≤ values.foldl (fun mean value => smooth period mean (part value)) mean := by
  induction values generalizing mean with
  | nil => exact hmean
  | cons value rest ih =>
    exact ih (fun other hmem => hpart other (List.mem_cons_of_mem _ hmem))
      (smooth_nonneg hperiod hmean (hpart value List.mem_cons_self))

theorem trueRange_nonneg (previous candle : StrategyMarketCandle) : 0 ≤ trueRange previous candle :=
  le_max_of_le_right (abs_nonneg _)

theorem atr_nonneg (hperiod : 0 < period) {atr : ℚ} (h : calculateAtr candles period = some atr) :
    0 ≤ atr := by
  unfold calculateAtr at h
  split_ifs at h
  rw [← Option.some.inj h]
  have hranges : ∀ value ∈ List.zipWith trueRange candles (candles.drop 1), 0 ≤ value := by
    intro value hmem
    obtain ⟨index, hindex, rfl⟩ := List.mem_iff_getElem.mp hmem
    rw [List.getElem_zipWith]
    exact trueRange_nonneg _ _
  refine foldl_smooth_nonneg hperiod id ?_ ?_
  · exact fun value hmem => hranges value (List.mem_of_mem_drop hmem)
  · exact average_nonneg fun value hmem => hranges value (List.mem_of_mem_take hmem)

/-! ### The relative strength index -/

/-- `averageGain` at the end of its loop. -/
def averageGain (values : List ℚ) (period : ℕ) : ℚ :=
  ((changes values).drop period).foldl (fun gain change => smooth period gain (max change 0))
    ((((changes values).take period).map fun change => max change 0).sum / period)

/-- `averageLoss` at the end of its loop. -/
def averageLoss (values : List ℚ) (period : ℕ) : ℚ :=
  ((changes values).drop period).foldl (fun loss change => smooth period loss (max (-change) 0))
    ((((changes values).take period).map fun change => max (-change) 0).sum / period)

theorem smoothed_nonneg (hperiod : 0 < period) (part : ℚ → ℚ) (first later : List ℚ) :
    0 ≤ later.foldl (fun mean change => smooth period mean (max (part change) 0))
      ((first.map fun change => max (part change) 0).sum / period) := by
  refine foldl_smooth_nonneg hperiod _ (fun _ _ => le_max_right _ _) ?_
  refine div_nonneg (List.sum_nonneg fun value hmem => ?_) (Nat.cast_nonneg _)
  obtain ⟨change, -, rfl⟩ := List.mem_map.mp hmem
  exact le_max_right _ _

theorem averageGain_nonneg (values : List ℚ) (hperiod : 0 < period) :
    0 ≤ averageGain values period :=
  smoothed_nonneg hperiod id _ _

theorem averageLoss_nonneg (values : List ℚ) (hperiod : 0 < period) :
    0 ≤ averageLoss values period :=
  smoothed_nonneg hperiod Neg.neg _ _

/-- The index lies between 0 and 100. Neither of its divisors is zero: it divides by the loss only
when there is one, and by one more than a ratio that is not negative. -/
theorem rsi_spec (hperiod : 0 < period) {rsi : ℚ} (h : calculateRsi values period = some rsi) :
    0 ≤ rsi ∧ rsi ≤ 100 ∧
      rsi = (if averageLoss values period = 0 then 100
        else 100 - 100 / (1 + averageGain values period / averageLoss values period)) ∧
      0 < 1 + averageGain values period / averageLoss values period := by
  have hgain := averageGain_nonneg values hperiod
  have hloss := averageLoss_nonneg values hperiod
  have hratio : 0 ≤ averageGain values period / averageLoss values period := div_nonneg hgain hloss
  have hrsi : rsi = if averageLoss values period = 0 then 100
      else 100 - 100 / (1 + averageGain values period / averageLoss values period) := by
    unfold calculateRsi at h
    split_ifs at h with hshort
    dsimp only at h
    unfold averageLoss averageGain
    split_ifs at h ⊢
    · exact (Option.some.inj h).symm
    · exact (Option.some.inj h).symm
  have hpos : 0 < 1 + averageGain values period / averageLoss values period := by linarith
  refine ⟨?_, ?_, hrsi, hpos⟩
  · rw [hrsi]
    split_ifs
    · norm_num
    · rw [sub_nonneg, div_le_iff₀ hpos]
      linarith
  · rw [hrsi]
    split_ifs
    · exact le_rfl
    · have hquotient : 0 ≤ 100 / (1 + averageGain values period / averageLoss values period) := by
        positivity
      linarith

/-! ### Series over the candles -/

/-- The values of an indicator at the candles at which it has one, each from the candles up to it. -/
def series (indicator : List ℚ → Option ℚ) (values : List ℚ) : List ℚ :=
  (List.range values.length).filterMap fun index => indicator (values.take (index + 1))

theorem series_append (indicator : List ℚ → Option ℚ) (values : List ℚ) (last : ℚ) :
    series indicator (values ++ [last]) =
      series indicator values ++ (indicator (values ++ [last])).toList := by
  unfold series
  rw [List.length_append, List.length_singleton, List.range_succ, List.filterMap_append]
  congr 1
  · refine List.filterMap_congr fun index hindex => ?_
    rw [List.mem_range] at hindex
    rw [List.take_append_of_le_length (by omega)]
  · have hall : (values ++ [last]).take (values.length + 1) = values ++ [last] := by
      refine List.take_of_length_le ?_
      rw [List.length_append, List.length_singleton]
    rw [List.filterMap_cons, hall]
    cases indicator (values ++ [last]) <;> rfl

theorem series_eq_concat {indicator : List ℚ → Option ℚ} (hne : values ≠ []) {value : ℚ}
    (h : indicator values = some value) :
    series indicator values = series indicator values.dropLast ++ [value] := by
  have hsplit := List.dropLast_append_getLast hne
  conv_lhs => rw [← hsplit, series_append, hsplit, h]
  rfl

/-- `calculateEmaSeries` has at every candle the average of the candles up to it. -/
theorem calculateEmaSeries_eq (values : List ℚ) (hperiod : 0 < period) :
    calculateEmaSeries values period =
      (List.range values.length).map fun index => calculateEma (values.take (index + 1)) period := by
  refine List.ext_getElem? fun index => ?_
  rw [List.getElem?_map]
  unfold calculateEmaSeries
  by_cases hindex : index < values.length
  · have htake : (values.take (index + 1)).length = index + 1 := List.length_take_of_le (by omega)
    rw [List.getElem?_range hindex, Option.map_some, calculateEma, htake]
    split_ifs with hshort hearly hearly
    · simp [hindex]
    · omega
    · rw [List.getElem?_append_left (by rw [List.length_replicate]; omega), List.getElem?_replicate,
        if_pos (by omega)]
    · rw [List.getElem?_append_right (by rw [List.length_replicate]; omega), List.length_replicate,
        List.getElem?_map, List.getElem?_scanl, if_pos (by rw [List.length_drop]; omega),
        Option.map_some, List.drop_take, List.take_take,
        show index + 1 - period = index - (period - 1) by omega,
        show min period (index + 1) = period by omega]
  · have hnone : (List.range values.length)[index]? = none := by
      rw [List.getElem?_eq_none_iff, List.length_range]
      exact not_lt.mp hindex
    rw [hnone, Option.map_none, List.getElem?_eq_none_iff]
    split_ifs with hshort
    · rw [List.length_map]
      omega
    · rw [List.length_append, List.length_replicate, List.length_map, List.length_scanl,
        List.length_drop]
      omega

theorem filterMap_emaSeries (values : List ℚ) (hperiod : 0 < period) :
    (calculateEmaSeries values period).filterMap id =
      series (fun values => calculateEma values period) values := by
  rw [calculateEmaSeries_eq values hperiod, List.filterMap_map]
  rfl

theorem calculateEma_isSome (h : period ≤ values.length) :
    ∃ ema, calculateEma values period = some ema := ⟨_, if_neg (not_lt.mpr h)⟩

/-! ### The MACD -/

/-- The MACD line at the last of the candles. -/
def macdLine (closes : List ℚ) : Option ℚ := do
  let fast ← calculateEma closes 12
  let slow ← calculateEma closes 26
  some (fast - slow)

/-- The signal at the last of the candles: the average over the lines of the candles up to it. -/
def macdSignal (closes : List ℚ) : Option ℚ := calculateEma (series macdLine closes) 9

variable {closes : List ℚ}

theorem macdLine_isSome (h : 26 ≤ closes.length) : ∃ line, macdLine closes = some line := by
  obtain ⟨fast, hfast⟩ := calculateEma_isSome (show 12 ≤ closes.length by omega)
  obtain ⟨slow, hslow⟩ := calculateEma_isSome h
  refine ⟨fast - slow, ?_⟩
  unfold macdLine
  rw [hfast, hslow]
  rfl

theorem macdLine_eq_none (h : closes.length < 26) : macdLine closes = none := by
  unfold macdLine
  have hslow : calculateEma closes 26 = none := if_pos h
  rw [hslow]
  cases calculateEma closes 12 <;> rfl

theorem length_lines (closes : List ℚ) : (series macdLine closes).length = closes.length - 25 := by
  induction closes using List.reverseRecOn with
  | nil => rfl
  | append_singleton closes last ih =>
    rw [series_append, List.length_append, ih, List.length_append, List.length_singleton]
    rcases Nat.lt_or_ge closes.length 25 with hshort | hlong
    · rw [macdLine_eq_none (by rw [List.length_append, List.length_singleton]; omega)]
      simp only [Option.toList_none, List.length_nil]
      omega
    · have hlength : 26 ≤ (closes ++ [last]).length := by
        rw [List.length_append, List.length_singleton]
        omega
      obtain ⟨line, hline⟩ := macdLine_isSome hlength
      rw [hline]
      simp only [Option.toList_some, List.length_singleton]
      omega

theorem macdSignal_isSome (h : 34 ≤ closes.length) : ∃ signal, macdSignal closes = some signal :=
  calculateEma_isSome (by rw [length_lines]; omega)

theorem secondLast_concat (values : List α) (last : α) :
    secondLast? (values ++ [last]) = values.getLast? := by
  rw [secondLast?, List.dropLast_concat]

/-- **Line and signal are read at the same candle**, the last one and the one before it. -/
theorem calculateMacd_eq (h : 35 ≤ closes.length) :
    ∃ line signal previousLine previousSignal, macdLine closes = some line ∧
      macdSignal closes = some signal ∧ macdLine closes.dropLast = some previousLine ∧
      macdSignal closes.dropLast = some previousSignal ∧
      calculateMacd closes =
        ⟨some line, some signal, some (line - signal), some (previousLine - previousSignal)⟩ := by
  have hprevious : closes.dropLast.length = closes.length - 1 := List.length_dropLast
  obtain ⟨line, hline⟩ := macdLine_isSome (show 26 ≤ closes.length by omega)
  obtain ⟨signal, hsignal⟩ := macdSignal_isSome (show 34 ≤ closes.length by omega)
  obtain ⟨previousLine, hpreviousLine⟩ := macdLine_isSome (show 26 ≤ closes.dropLast.length by omega)
  obtain ⟨previousSignal, hpreviousSignal⟩ :=
    macdSignal_isSome (show 34 ≤ closes.dropLast.length by omega)
  refine ⟨line, signal, previousLine, previousSignal, hline, hsignal, hpreviousLine,
    hpreviousSignal, ?_⟩
  have hlines : (List.zipWith (fun fast slow => do
      let f ← fast
      let s ← slow
      some (f - s)) (calculateEmaSeries closes 12) (calculateEmaSeries closes 26)).filterMap id =
        series macdLine closes := by
    rw [calculateEmaSeries_eq closes (by decide), calculateEmaSeries_eq closes (by decide),
      List.zipWith_map, List.zipWith_self, List.filterMap_map]
    rfl
  have hne : closes ≠ [] := List.ne_nil_of_length_pos (by omega)
  have hne' : closes.dropLast ≠ [] := List.ne_nil_of_length_pos (by omega)
  have hlast := series_eq_concat hne hline
  have hlast' := series_eq_concat hne' hpreviousLine
  have hlinesNe : series macdLine closes ≠ [] := by rw [hlast]; simp
  have hlinesNe' : series macdLine closes.dropLast ≠ [] := by rw [hlast']; simp
  -- the signals are a series over the lines, which lose their last one with the last candle
  have hsignals : series (fun lines => calculateEma lines 9) (series macdLine closes) = _ :=
    series_eq_concat hlinesNe hsignal
  have hdrop : (series macdLine closes).dropLast = series macdLine closes.dropLast := by
    rw [hlast, List.dropLast_concat]
  rw [hdrop] at hsignals
  have hsignals' : series (fun lines => calculateEma lines 9) (series macdLine closes.dropLast) = _ :=
    series_eq_concat hlinesNe' hpreviousSignal
  unfold calculateMacd
  rw [if_neg (by omega)]
  dsimp only
  rw [hlines, filterMap_emaSeries _ (by decide), hsignals, hlast, if_neg (by simp),
    List.getLast?_concat, List.getLast?_concat, secondLast_concat, secondLast_concat, hsignals',
    hlast', List.getLast?_concat, List.getLast?_concat]
  rfl

/-! ### A timeframe -/

/-- What the indicators of a structure are. -/
structure IndicatorsInRange (candles : List StrategyMarketCandle) (i : TimeframeIndicatorState) :
    Prop where
  atr : ∀ atr ∈ i.atr14, 0 ≤ atr
  rsi : ∀ rsi ∈ i.rsi14, 0 ≤ rsi ∧ rsi ≤ 100 ∧
    rsi = (if averageLoss (candles.map (·.closePrice)) 14 = 0 then 100
      else 100 - 100 / (1 + averageGain (candles.map (·.closePrice)) 14 /
        averageLoss (candles.map (·.closePrice)) 14)) ∧
    0 < 1 + averageGain (candles.map (·.closePrice)) 14 / averageLoss (candles.map (·.closePrice)) 14
  noMacd : candles.length < 35 → i.macdHistogram = none ∧ i.previousMacdHistogram = none
  macd : 35 ≤ candles.length → ∃ line signal previousLine previousSignal,
    macdLine (candles.map (·.closePrice)) = some line ∧
    macdSignal (candles.map (·.closePrice)) = some signal ∧
    macdLine (candles.dropLast.map (·.closePrice)) = some previousLine ∧
    macdSignal (candles.dropLast.map (·.closePrice)) = some previousSignal ∧
    i.macdHistogram = some (line - signal) ∧
    i.previousMacdHistogram = some (previousLine - previousSignal)

theorem indicators_in_range (candles : List StrategyMarketCandle)
    (timeframe : SupportedStrategyTimeframe) (currentPrice : ℚ) :
    IndicatorsInRange candles (analyzeTimeframe timeframe candles currentPrice).indicators := by
  refine ⟨?_, ?_, ?_, ?_⟩
  · exact fun atr hatr => atr_nonneg (by decide) hatr
  · exact fun rsi hrsi => rsi_spec (by decide) hrsi
  · intro hshort
    have hlength : (candles.map (·.closePrice)).length < 35 := by rwa [List.length_map]
    have hmacd : calculateMacd (candles.map (·.closePrice)) = ⟨none, none, none, none⟩ :=
      if_pos hlength
    exact ⟨congrArg Macd.histogram hmacd, congrArg Macd.previousHistogram hmacd⟩
  · intro hlong
    have hlength : 35 ≤ (candles.map (·.closePrice)).length := by rwa [List.length_map]
    obtain ⟨line, signal, previousLine, previousSignal, hline, hsignal, hpl, hps, hmacd⟩ :=
      calculateMacd_eq hlength
    rw [← List.map_dropLast] at hpl hps
    exact ⟨line, signal, previousLine, previousSignal, hline, hsignal, hpl, hps,
      congrArg Macd.histogram hmacd, congrArg Macd.previousHistogram hmacd⟩

/-- **The structure of a timeframe.** The levels lie in the range and are in order unless the last pivot
low lies above the last pivot high; the indicators stay in their ranges, and the two parts of either
histogram belong to one candle. -/
theorem structure_in_range (hne : candles ≠ []) (hvalid : ∀ candle ∈ candles, ValidCandle candle)
    (timeframe : SupportedStrategyTimeframe) (currentPrice : ℚ) :
    LevelsInRange (analyzeTimeframe timeframe candles currentPrice) ∧
      (¬ PivotsCross timeframe candles →
        (analyzeTimeframe timeframe candles currentPrice).support ≤
          (analyzeTimeframe timeframe candles currentPrice).resistance) ∧
      IndicatorsInRange candles (analyzeTimeframe timeframe candles currentPrice).indicators := by
  obtain ⟨hlevels, horder⟩ := levels_in_range hne hvalid timeframe currentPrice
  refine ⟨hlevels, fun hcross => ?_, indicators_in_range candles timeframe currentPrice⟩
  rw [← horder, not_lt] at hcross
  exact hcross

/-- A candle that opens at its low and closes at its high. -/
def risingCandle (high low : ℚ) : StrategyMarketCandle where
  market := .krwBtc
  timeframe := .oneHour
  openTime := ""
  closeTime := ""
  openPrice := low
  highPrice := high
  lowPrice := low
  closePrice := high
  volume := 1
  quoteVolume := 1

/-- Hourly candles that rise for eight hours and start again below. -/
def wave : List StrategyMarketCandle :=
  (List.range 36).map fun hour => risingCandle (12 + (hour % 8 : ℕ)) (10 + (hour % 8 : ℕ))

/-- The wave has pivots, and is long enough for the indicators. -/
theorem structure_in_range_wave :
    lastPivots (newest (swingLookback .oneHour) wave) = ⟨some 19, some 10⟩ ∧
      (analyzeTimeframe .oneHour wave 15).indicators.atr14.isSome ∧
      (analyzeTimeframe .oneHour wave 15).indicators.rsi14.isSome ∧
      (analyzeTimeframe .oneHour wave 15).indicators.macdHistogram.isSome ∧
      LevelsInRange (analyzeTimeframe .oneHour wave 15) ∧
      (analyzeTimeframe .oneHour wave 15).support ≤ (analyzeTimeframe .oneHour wave 15).resistance ∧
      IndicatorsInRange wave (analyzeTimeframe .oneHour wave 15).indicators := by
  have hpivots : lastPivots (newest (swingLookback .oneHour) wave) = ⟨some 19, some 10⟩ := by
    decide +kernel
  obtain ⟨hlevels, horder, hindicators⟩ :=
    @structure_in_range wave (by decide) (by decide +kernel) .oneHour 15
  refine ⟨hpivots, by decide +kernel, by decide +kernel, by decide +kernel, hlevels, horder ?_,
    hindicators⟩
  rintro ⟨-, high, low, heq, hlt⟩
  rw [hpivots] at heq
  cases heq
  exact absurd hlt (by decide)

/-- A pivot high at 5, then a rise without another one; its pivot low at 6 is the last. -/
def steadyRise : List StrategyMarketCandle :=
  [risingCandle 2 1, risingCandle 3 1, risingCandle 5 1, risingCandle 3 1, risingCandle 4 1,
   risingCandle 6 5, risingCandle 7 7, risingCandle 8 8, risingCandle 9 6, risingCandle 10 8,
   risingCandle 11 9]

theorem support_above_resistance :
    ¬ ∀ (candles : List StrategyMarketCandle) (timeframe : SupportedStrategyTimeframe)
      (currentPrice : ℚ), candles ≠ [] → (∀ candle ∈ candles, ValidCandle candle) →
      (analyzeTimeframe timeframe candles currentPrice).support ≤
        (analyzeTimeframe timeframe candles currentPrice).resistance := by
  intro h
  have hle := h steadyRise .oneHour 11 (List.cons_ne_nil _ _) (by decide +kernel)
  exact absurd hle (by decide +kernel)

end AutoTrade.Strategy.StructureLevels
