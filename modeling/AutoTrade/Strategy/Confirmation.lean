import AutoTrade.Strategy.Runner

/-! # Confirmation by the next hour

Over any sequence of completed runs of one market, in increasing time: a buy that is executed after
confirmation was deferred by the run directly before it, in the hour directly before.

* `getLatest_of_increasing`: while the times increase, both stores return the decision saved last.
* `confirmed_by_previous_hour`: the law of the confirmation, and that no hour has two of them. -/

namespace AutoTrade.Strategy.Confirmation

open Lib.Result Lib.JsonText Lib.Latest
open Domain.Types Domain.IsoDate Domain.IsoOrder
open Strategy.Core Strategy.CoreDecision Strategy.DecisionBasis
open Strategy.Runner

/-! ### The latest decision -/

/-- The rows were created at these times, in increasing order. -/
structure CreatedAt (rows : List StrategyDecisionRecord) (times : List ℤ) : Prop where
  texts : rows.map (·.createdAt) = times.map isoDateText
  years : ∀ time ∈ times, FourDigitYear time
  increasing : times.Pairwise (· < ·)

variable {rows : List StrategyDecisionRecord} {times : List ℤ}

theorem CreatedAt.lt_last {row : StrategyDecisionRecord} (h : CreatedAt (rows ++ [row]) times)
    (order : Collation) : ∀ other ∈ rows, order.compare other.createdAt row.createdAt < 0 := by
  intro other hother
  obtain ⟨htexts, hyears, hincreasing⟩ := h
  rw [List.map_append, List.map_singleton] at htexts
  obtain ⟨earlier, last, rfl, hearlier, hlast⟩ := List.map_eq_append_iff.mp htexts.symm
  obtain ⟨time, rest, rfl, htime, hrest⟩ := List.map_eq_cons_iff.mp hlast
  obtain rfl := List.map_eq_nil_iff.mp hrest
  have hmem : other.createdAt ∈ earlier.map isoDateText := by
    rw [hearlier]
    exact List.mem_map_of_mem hother
  obtain ⟨before, hbefore, htext⟩ := List.mem_map.mp hmem
  rw [← htext, ← htime, compare_isoDateText order (hyears before (by simp [hbefore]))
    (hyears time (by simp))]
  exact (List.pairwise_append.mp hincreasing).2.2 before hbefore time (by simp)

variable {market : SupportedMarket}

/-- **Both stores return the row created last.** -/
theorem getLatest_of_increasing {locale : Collation} {repository : Repository}
    {exchangeAccountId : String}
    (h : CreatedAt (rows.filter (IsDecisionOf exchangeAccountId market)) times) :
    getLatestStrategyDecision locale repository rows exchangeAccountId market =
      (rows.filter (IsDecisionOf exchangeAccountId market)).getLast? := by
  unfold getLatestStrategyDecision
  dsimp only
  generalize rows.filter (IsDecisionOf exchangeAccountId market) = decisions at h ⊢
  rcases List.eq_nil_or_concat decisions with rfl | ⟨earlier, last, rfl⟩
  · cases repository <;> rfl
  · rw [List.concat_eq_append] at h ⊢
    rw [List.getLast?_concat]
    cases repository with
    | inMemory =>
      have hsplit : earlier ++ [last] = earlier ++ last :: [] := rfl
      refine head_latestFirst_of_lt hsplit ?_
      rw [List.append_nil]
      exact h.lt_last locale
    | sqlite =>
      have hsplit : (earlier ++ [last]).reverse = [] ++ last :: earlier.reverse := by simp
      refine head_latestFirst_of_lt hsplit ?_
      intro other hother
      rw [List.nil_append, List.mem_reverse] at hother
      exact h.lt_last Collation.bytes other hother

/-! ### Buys -/

/-- A buy that is executed after confirmation. -/
def IsConfirmedBuy (decision : StrategyDecision) : Prop :=
  (decision.action = .enter ∨ decision.action = .add) ∧
    decision.metadata.executionDisposition = .executedAfterConfirmation

/-- The run stores or submits such a buy. -/
def ConfirmsBuy (result : RunResult) : Prop :=
  IsConfirmedBuy result.strategyDecision ∨ ∃ order ∈ result.submission, IsConfirmedBuy order.decision

/-- The hour in which the decision of a run was generated. -/
def hourOf (dates : DateParser) (result : RunResult) : Option ℤ :=
  toHourlyBucketMs dates result.strategyDecisionRecord.createdAt

/-- The previous run deferred the buy of a run, in the hour before, and submitted nothing. -/
structure DeferredBy (dates : DateParser) (previous result : RunResult) : Prop where
  deferred : previous.strategyDecision.metadata.executionDisposition = .deferredConfirmation
  action : previous.strategyDecision.action = result.strategyDecision.action
  entryPath : previous.engineDecision.diagnostics.entryPath =
    result.engineDecision.diagnostics.entryPath
  qualityBucket : previous.strategyDecision.metadata.signalQualityBucket =
    result.strategyDecision.metadata.signalQualityBucket
  hour : ∃ hour, hourOf dates previous = some hour ∧
    hourOf dates result = some (hour + hourlyConfirmationWindowMs)
  notSubmitted : previous.submission = none

variable {result : RunResult}

section Spec

variable {Num : Type} {runner : StrategyRunner Num} {input : RunInput Num}

theorem confirmsBuy_iff (h : RunSpec runner rows input result) :
    ConfirmsBuy result ↔ IsConfirmedBuy result.strategyDecision := by
  constructor
  · rintro (hstored | ⟨order, horder, hsubmitted⟩)
    · exact hstored
    · rw [h.submitted order horder] at hsubmitted
      exact hsubmitted
  · exact Or.inl

theorem hourOf_eq (h : RunSpec runner rows input result)
    (hyear : FourDigitYear input.generatedAtMs) :
    hourOf runner.dates result = some (hourlyBucketMs input.generatedAtMs) := by
  unfold hourOf toHourlyBucketMs
  rw [h.createdAt, RunInput.generatedAt, runner.dates.parse_isoDateText hyear]
  rfl

/-- A run executes a confirmed buy: the latest decision of the store deferred it. -/
theorem deferredBy_of_confirms {rows earlier : List StrategyDecisionRecord}
    {input previousInput : RunInput Num} {result previous : RunResult}
    (h : RunSpec runner rows input result)
    (hprevious : RunSpec runner earlier previousInput previous)
    (hlatest : getLatestStrategyDecision runner.locale runner.repository rows
      runner.exchangeAccountId input.market = some previous.strategyDecisionRecord)
    (hconfirms : ConfirmsBuy result) : DeferredBy runner.dates previous result := by
  have hstored := ((confirmsBuy_iff h).mp hconfirms).2
  rw [h.strategyDecision] at hstored
  obtain ⟨action, haction, hpending⟩ := h.confirms hstored
  have hcontext : (loadContext runner rows input).latestDecision =
      toPreviousPositionGuardDecision runner.numbers previous.strategyDecisionRecord := by
    change (getLatestStrategyDecision runner.locale runner.repository rows runner.exchangeAccountId
      input.market).bind _ = _
    rw [hlatest]
    rfl
  unfold hasPendingBullishConfirmation at hpending
  rw [hcontext, hprevious.readBack] at hpending
  dsimp only at hpending
  split_ifs at hpending with hmatch
  rw [not_or, not_not, not_not] at hmatch
  obtain ⟨hsameAction, hdeferred⟩ := hmatch
  rw [decide_eq_true_eq] at hpending
  obtain ⟨hpath, hbucket, hhour⟩ := hpending
  refine ⟨?_, ?_, hpath, ?_, ?_, hprevious.deferred hdeferred⟩
  · rw [hprevious.strategyDecision]
    exact hdeferred
  · rw [hprevious.strategyDecision, h.strategyDecision]
    exact hsameAction.trans haction.symm
  · rw [hprevious.strategyDecision, h.strategyDecision]
    exact hbucket
  · unfold isImmediatePreviousHourlyDecision at hhour
    unfold hourOf
    rw [hprevious.createdAt, h.createdAt]
    rw [show (loadContext runner rows input).generatedAt = input.generatedAt from rfl] at hhour
    split at hhour
    · rename_i previousBucket currentBucket hprev hcurrent
      rw [decide_eq_true_eq] at hhour
      refine ⟨previousBucket, hprev, ?_⟩
      rw [hcurrent]
      congr 1
      omega
    · cases hhour

end Spec

/-! ### Sequences of runs -/

section Sequence

variable {Num : Type} {runner : StrategyRunner Num}

/-- The decisions in the store were created at increasing times before all of the calls, the last of
them by the last run. -/
structure Follows (runner : StrategyRunner Num) (market : SupportedMarket)
    (rows : List StrategyDecisionRecord) (times : List ℤ) (last : Option RunResult)
    (calls : List (List StrategyDecisionRecord × RunInput Num)) : Prop where
  createdAt : CreatedAt (rows.filter (IsDecisionOf runner.exchangeAccountId market)) times
  latest : (rows.filter (IsDecisionOf runner.exchangeAccountId market)).getLast? =
    last.map (·.strategyDecisionRecord)
  earlier : ∀ time ∈ times, ∀ call ∈ calls, time < call.2.generatedAtMs
  spec : ∀ result ∈ last, ∃ earlier input, RunSpec runner earlier input result

/-- The calls are for one market, at increasing times whose texts have 24 characters, and the rows
saved in between are no decisions for this market. -/
structure IsSequence (runner : StrategyRunner Num) (market : SupportedMarket)
    (calls : List (List StrategyDecisionRecord × RunInput Num)) : Prop where
  sameMarket : ∀ call ∈ calls, call.2.market = market
  years : ∀ call ∈ calls, FourDigitYear call.2.generatedAtMs
  increasing : calls.Pairwise fun a b => a.2.generatedAtMs < b.2.generatedAtMs
  elsewhere : ∀ call ∈ calls, ∀ row ∈ call.1,
    IsDecisionOf runner.exchangeAccountId market row = false

variable {calls : List (List StrategyDecisionRecord × RunInput Num)}

theorem IsSequence.tail {call : List StrategyDecisionRecord × RunInput Num}
    (h : IsSequence runner market (call :: calls)) : IsSequence runner market calls where
  sameMarket other hother := h.sameMarket other (List.mem_cons_of_mem _ hother)
  years other hother := h.years other (List.mem_cons_of_mem _ hother)
  increasing := (List.pairwise_cons.mp h.increasing).2
  elsewhere other hother := h.elsewhere other (List.mem_cons_of_mem _ hother)

variable {last : Option RunResult}

theorem Follows.saved {rows saved : List StrategyDecisionRecord}
    (h : Follows runner market rows times last calls)
    (hsaved : ∀ row ∈ saved, IsDecisionOf runner.exchangeAccountId market row = false) :
    Follows runner market (rows ++ saved) times last calls := by
  have hnone : saved.filter (IsDecisionOf runner.exchangeAccountId market) = [] := by
    rw [List.filter_eq_nil_iff]
    intro row hrow
    rw [hsaved row hrow]
    exact Bool.false_ne_true
  have hfilter : (rows ++ saved).filter (IsDecisionOf runner.exchangeAccountId market) =
      rows.filter (IsDecisionOf runner.exchangeAccountId market) := by
    rw [List.filter_append, hnone, List.append_nil]
  exact ⟨hfilter ▸ h.createdAt, hfilter ▸ h.latest, h.earlier, h.spec⟩

variable {input : RunInput Num}

theorem Follows.record {rows earlier : List StrategyDecisionRecord}
    {saved : List StrategyDecisionRecord}
    (h : Follows runner market rows times last ((saved, input) :: calls))
    (hsequence : IsSequence runner market ((saved, input) :: calls))
    (hspec : RunSpec runner earlier input result) :
    Follows runner market (rows ++ [result.strategyDecisionRecord])
      (times ++ [input.generatedAtMs]) (some result) calls := by
  have hmarket := hsequence.sameMarket _ List.mem_cons_self
  have hyear := hsequence.years _ List.mem_cons_self
  obtain ⟨hbefore, -⟩ := List.pairwise_cons.mp hsequence.increasing
  have hdecision := hspec.isDecision
  rw [hmarket] at hdecision
  have hfilter : (rows ++ [result.strategyDecisionRecord]).filter
      (IsDecisionOf runner.exchangeAccountId market) =
      rows.filter (IsDecisionOf runner.exchangeAccountId market) ++
        [result.strategyDecisionRecord] := by
    rw [List.filter_append, List.filter_singleton, hdecision]
    rfl
  refine ⟨⟨?_, ?_, ?_⟩, ?_, ?_, ?_⟩
  · rw [hfilter, List.map_append, List.map_append, h.createdAt.texts, List.map_singleton,
      List.map_singleton, hspec.createdAt]
    rfl
  · intro time htime
    rcases List.mem_append.mp htime with htime | htime
    · exact h.createdAt.years time htime
    · rw [List.mem_singleton.mp htime]
      exact hyear
  · refine List.pairwise_append.mpr ⟨h.createdAt.increasing, List.pairwise_singleton _ _, ?_⟩
    intro time htime other hother
    rw [List.mem_singleton.mp hother]
    exact h.earlier time htime _ List.mem_cons_self
  · rw [hfilter, List.getLast?_concat]
    rfl
  · intro time htime call hcall
    rcases List.mem_append.mp htime with htime | htime
    · exact h.earlier time htime call (List.mem_cons_of_mem _ hcall)
    · rw [List.mem_singleton.mp htime]
      exact hbefore call hcall
  · intro other hother
    obtain rfl := Option.some.inj hother
    exact ⟨earlier, input, hspec⟩

/-- A run of the sequence executes a confirmed buy: the run before deferred it. -/
theorem Follows.deferredBy (h : Follows runner market rows times last calls)
    (hmarket : input.market = market) (hspec : RunSpec runner rows input result)
    (hconfirms : ConfirmsBuy result) :
    ∃ previous, last = some previous ∧ DeferredBy runner.dates previous result := by
  have hlatest : getLatestStrategyDecision runner.locale runner.repository rows
      runner.exchangeAccountId market = last.map (·.strategyDecisionRecord) := by
    rw [getLatest_of_increasing h.createdAt, h.latest]
  cases hlast : last with
  | none =>
    -- without a latest decision no confirmation is pending
    have hstored := ((confirmsBuy_iff hspec).mp hconfirms).2
    rw [hspec.strategyDecision] at hstored
    obtain ⟨action, -, hpending⟩ := hspec.confirms hstored
    have hcontext : (loadContext runner rows input).latestDecision = none := by
      change (getLatestStrategyDecision runner.locale runner.repository rows
        runner.exchangeAccountId input.market).bind _ = _
      rw [hmarket, hlatest, hlast]
      rfl
    unfold hasPendingBullishConfirmation at hpending
    rw [hcontext] at hpending
    cases hpending
  | some previous =>
    obtain ⟨earlier, previousInput, hprevious⟩ := h.spec previous hlast
    rw [hlast, ← hmarket] at hlatest
    exact ⟨previous, rfl, deferredBy_of_confirms hspec hprevious hlatest hconfirms⟩

theorem runAll_spec : ∀ {calls : List (List StrategyDecisionRecord × RunInput Num)}
    {rows : List StrategyDecisionRecord} {results : List RunResult},
    runAll runner rows calls = .ok results →
      List.Forall₂ (fun call result => ∃ earlier, RunSpec runner earlier call.2 result) calls results
  | [], _, _, h => by
    obtain rfl := Except.ok.inj h
    exact List.Forall₂.nil
  | (saved, input) :: calls, rows, results, h => by
    rw [runAll, bind_eq_ok] at h
    obtain ⟨result, hresult, h⟩ := h
    obtain ⟨rest, hrest, h⟩ := bind_eq_ok.mp h
    obtain rfl := Except.ok.inj h
    exact List.Forall₂.cons ⟨_, runOnce_spec hresult⟩ (runAll_spec hrest)

/-- **In every sequence**: the run before a confirmed buy deferred it. The induction carries the last
run before the sequence. -/
theorem runAll_deferredBy :
    ∀ {calls : List (List StrategyDecisionRecord × RunInput Num)}
      {rows : List StrategyDecisionRecord} {times : List ℤ} {last : Option RunResult}
      {results : List RunResult}, Follows runner market rows times last calls →
        IsSequence runner market calls → runAll runner rows calls = .ok results →
          ∀ before result after, results = before ++ result :: after → ConfirmsBuy result →
            ∃ previous, before.getLast?.or last = some previous ∧
              DeferredBy runner.dates previous result
  | [], _, _, _, _, _, _, h => by
    intro before result after hresults
    obtain rfl := Except.ok.inj h
    simp at hresults
  | (saved, input) :: calls, rows, times, last, results, hfollows, hsequence, h => by
    intro before result after hresults hconfirms
    rw [runAll, bind_eq_ok] at h
    obtain ⟨first, hfirst, h⟩ := h
    obtain ⟨rest, hrest, h⟩ := bind_eq_ok.mp h
    obtain rfl := Except.ok.inj h
    have hspec := runOnce_spec hfirst
    have hsaved := hfollows.saved (hsequence.elsewhere _ List.mem_cons_self)
    cases before with
    | nil =>
      obtain ⟨rfl, rfl⟩ := List.cons.inj hresults
      exact hsaved.deferredBy (hsequence.sameMarket _ List.mem_cons_self) hspec hconfirms
    | cons other before =>
      obtain ⟨rfl, hsplit⟩ := List.cons.inj hresults
      obtain ⟨previous, hprevious, hdeferred⟩ := runAll_deferredBy
        (hsaved.record hsequence hspec) hsequence.tail hrest before result after hsplit hconfirms
      refine ⟨previous, ?_, hdeferred⟩
      rw [List.getLast?_cons]
      cases hlast : before.getLast?
      all_goals
        rw [hlast] at hprevious
        exact hprevious

theorem hourlyBucketMs_mono {a b : ℤ} (h : a ≤ b) : hourlyBucketMs a ≤ hourlyBucketMs b := by
  unfold hourlyBucketMs
  omega

/-- **A buy is confirmed by the adjacent hour, once.** -/
theorem confirmed_by_previous_hour {market : SupportedMarket} {rows : List StrategyDecisionRecord}
    {calls : List (List StrategyDecisionRecord × RunInput Num)} {results : List RunResult}
    (hfresh : ∀ row ∈ rows, IsDecisionOf runner.exchangeAccountId market row = false)
    (hsequence : IsSequence runner market calls) (h : runAll runner rows calls = .ok results) :
    (∀ before result after, results = before ++ result :: after → ConfirmsBuy result →
      ∃ earlier previous, before = earlier ++ [previous] ∧
        DeferredBy runner.dates previous result) ∧
      results.Pairwise fun a b => ConfirmsBuy a → ConfirmsBuy b →
        hourOf runner.dates a ≠ hourOf runner.dates b := by
  have hnone : rows.filter (IsDecisionOf runner.exchangeAccountId market) = [] := by
    rw [List.filter_eq_nil_iff]
    intro row hrow
    rw [hfresh row hrow]
    exact Bool.false_ne_true
  have hfollows : Follows runner market rows [] none calls := by
    refine ⟨⟨?_, by simp, List.Pairwise.nil⟩, ?_, by simp, by simp⟩
    · rw [hnone]
      rfl
    · rw [hnone]
      rfl
  have hlaw : ∀ before result after, results = before ++ result :: after → ConfirmsBuy result →
      ∃ earlier previous, before = earlier ++ [previous] ∧
        DeferredBy runner.dates previous result := by
    intro before result after hresults hconfirms
    obtain ⟨previous, hprevious, hdeferred⟩ :=
      runAll_deferredBy hfollows hsequence h before result after hresults hconfirms
    rw [Option.or_none] at hprevious
    obtain ⟨earlier, rfl⟩ := List.getLast?_eq_some_iff.mp hprevious
    exact ⟨earlier, previous, rfl, hdeferred⟩
  refine ⟨hlaw, ?_⟩
  have hspecs := runAll_spec h
  have hlength := hspecs.length_eq
  rw [List.pairwise_iff_getElem]
  intro i j hi hj hij hfirst hsecond hsame
  have hsplit : results = results.take j ++ results[j] :: results.drop (j + 1) := by
    rw [List.getElem_cons_drop, List.take_append_drop]
  obtain ⟨earlier, previous, htake, hdeferred⟩ := hlaw _ _ _ hsplit hsecond
  have hprevious : previous = results[j - 1] := by
    have hlast : (results.take j).getLast? = some previous := by
      rw [htake, List.getLast?_concat]
    rw [List.getLast?_take, if_neg (by omega), List.getElem?_eq_getElem (by omega)] at hlast
    simpa using hlast.symm
  obtain ⟨hour, hbefore, hafter⟩ := hdeferred.hour
  rcases Nat.lt_or_ge i (j - 1) with hlt | hge
  · -- the hour of the deferral is no earlier than that of the first buy
    obtain ⟨rows₁, hspec₁⟩ := hspecs.get (by omega : i < calls.length) hi
    obtain ⟨rows₂, hspec₂⟩ := hspecs.get (by omega : j - 1 < calls.length) (by omega)
    have htimes := List.pairwise_iff_getElem.mp hsequence.increasing i (j - 1) (by omega) (by omega)
      hlt
    have hhour₁ := hourOf_eq hspec₁ (hsequence.years _ (List.get_mem _ _))
    have hhour₂ := hourOf_eq hspec₂ (hsequence.years _ (List.get_mem _ _))
    have hmono := hourlyBucketMs_mono htimes.le
    rw [List.get_eq_getElem] at hhour₁ hhour₂
    rw [hprevious] at hbefore
    have hfound : hour = hourlyBucketMs calls[j - 1].2.generatedAtMs :=
      Option.some.inj (hbefore.symm.trans hhour₂)
    have hclash : hourlyBucketMs calls[i].2.generatedAtMs = hour + hourlyConfirmationWindowMs :=
      Option.some.inj (hhour₁.symm.trans (hsame.trans hafter))
    have hwindow : (0 : ℤ) < hourlyConfirmationWindowMs := by decide
    omega
  · -- the run before was the first buy itself, which was not deferred
    have hindex : i = j - 1 := by omega
    subst hindex
    obtain ⟨rows₁, hspec₁⟩ := hspecs.get (by omega : j - 1 < calls.length) hi
    have hexecuted := ((confirmsBuy_iff hspec₁).mp hfirst).2
    have hwaiting := hdeferred.deferred
    rw [hprevious] at hwaiting
    rw [List.get_eq_getElem] at hexecuted
    rw [hwaiting] at hexecuted
    cases hexecuted

end Sequence

/-! ### A deferred and a confirmed entry -/

/-- A structure whose score lies between the thresholds of an entry. -/
def borderlineAnalysis : PositionGuardStructureAnalysis where
  regime := .bullTrend
  riskLevel := .low
  invalidationState := .clear
  invalidationLevel := none
  pullbackZone := false
  reclaimStructure := false
  breakoutHoldStructure := true
  upperRangeChase := false
  currentPrice := 100
  entryPath := .breakoutHold
  trendAlignmentScore := 3
  recoveryQualityScore := 2
  breakdownPressureScore := 0
  weakeningStage := .none
  breakdown1d := false
  breakdown4h := false
  failedReclaim := false
  bearishMomentumExpansion := false
  volumeRecovery := false
  macdImproving := false
  rsiRecovery := false
  atrShock := false
  averageEntryPrice := 0
  pnlPct := 0
  oneHourLocation := some .middle
  fourHourLocation := some .middle

def exampleRunner : StrategyRunner ℤ where
  numbers := integers
  number := Rat.num
  dates := DateParser.timestamps
  locale := Collation.bytes
  repository := .inMemory
  exchangeAccountId := "account"
  settings :=
    { minimumTradeValueKrw := 5000, entryAllocation := 1, addAllocation := 1, reduceFraction := 1,
      perAssetMaxAllocation := 1, strongTrendPerAssetMaxAllocation := 1,
      totalPortfolioMaxExposure := 1 }

def exampleInput (generatedAtMs : ℤ) (strategyDecisionId : String) : RunInput ℤ where
  market := .krwBtc
  generatedAtMs
  selection := .baseline
  account := ⟨some 1000000, none, none, none, 1000000, 0, []⟩
  analysis := borderlineAnalysis
  referencePriceCapturedAt := isoDateText generatedAtMs
  verification := .error "A verified BTC candidate run requires an exact refresh receipt."
  policyRoute := ⟨.null, trivial⟩
  strategyDecisionId

/-- Two runs, at the first minute of two hours. -/
def exampleCalls : List (List StrategyDecisionRecord × RunInput ℤ) :=
  [([], exampleInput 1700002860000 "first"), ([], exampleInput 1700006460000 "second")]

/-- The context of the second run, from the decision it reads back. -/
def exampleContext (latestDecision : Option PreviousPositionGuardDecision) :
    PositionGuardStrategyContext :=
  buildPositionGuardStrategyContext exampleRunner.locale exampleRunner.dates
    { market := .krwBtc
      generatedAt := isoDateText 1700006460000
      account := (exampleInput 1700006460000 "second").account
      latestDecision
      settings := exampleRunner.settings
      analysis := borderlineAnalysis }

theorem example_runs : ∃ first second, runAll exampleRunner [] exampleCalls = .ok [first, second] ∧
    ConfirmsBuy second := by
  have hread : (runOnce exampleRunner ([] ++ []) (exampleInput 1700002860000 "first")).toOption.map
      (fun r => (r.engineDecision.action, r.engineDecision.executionDisposition,
        r.engineDecision.diagnostics.entryPath, r.engineDecision.signalQuality.bucket)) =
        some (.enter, .deferredConfirmation, .breakoutHold, .medium) := by
    decide +kernel
  obtain ⟨first, hfirst⟩ : ∃ first, runOnce exampleRunner ([] ++ [])
      (exampleInput 1700002860000 "first") = .ok first := exists_ok (by decide +kernel)
  rw [hfirst] at hread
  simp only [Except.toOption, Option.map_some, Option.some.injEq, Prod.mk.injEq] at hread
  obtain ⟨haction, hdisposition, hpath, hbucket⟩ := hread
  have hspec := runOnce_spec hfirst
  have hread := hspec.readBack
  rw [haction, hdisposition, hpath, hbucket] at hread
  have hlatest : getLatestStrategyDecision exampleRunner.locale exampleRunner.repository
      ([] ++ [] ++ [first.strategyDecisionRecord] ++ []) exampleRunner.exchangeAccountId .krwBtc =
        some first.strategyDecisionRecord := by
    have hdecision : IsDecisionOf exampleRunner.exchangeAccountId .krwBtc
        first.strategyDecisionRecord = true := hspec.isDecision
    change (latestFirst _ _ ([first.strategyDecisionRecord].filter _)).head? = _
    rw [List.filter_singleton, hdecision]
    rfl
  have hcontext : loadContext exampleRunner ([] ++ [] ++ [first.strategyDecisionRecord] ++ [])
      (exampleInput 1700006460000 "second") = exampleContext (some
        { action := .enter
          executionDisposition := .deferredConfirmation
          entryPath := .breakoutHold
          qualityBucket := .medium
          createdAt := isoDateText 1700002860000 }) := by
    change buildPositionGuardStrategyContext _ _ _ = _
    unfold exampleContext
    congr 2
    change (getLatestStrategyDecision _ _ _ _ .krwBtc).bind _ = _
    rw [hlatest]
    exact hread
  have hsecond : (runOnce exampleRunner ([] ++ [] ++ [first.strategyDecisionRecord] ++ [])
      (exampleInput 1700006460000 "second")).toOption.map (·.strategyDecision.action) =
        some .enter ∧
      (runOnce exampleRunner ([] ++ [] ++ [first.strategyDecisionRecord] ++ [])
        (exampleInput 1700006460000 "second")).toOption.map
          (·.strategyDecision.metadata.executionDisposition) = some .executedAfterConfirmation := by
    unfold runOnce
    rw [hcontext]
    decide +kernel
  obtain ⟨second, hok⟩ : ∃ second, runOnce exampleRunner
      ([] ++ [] ++ [first.strategyDecisionRecord] ++ []) (exampleInput 1700006460000 "second") =
        .ok second := by
    refine exists_ok ?_
    unfold runOnce
    rw [hcontext]
    decide +kernel
  rw [hok] at hsecond
  refine ⟨first, second, ?_, Or.inl ⟨Or.inl (Option.some.inj hsecond.1), Option.some.inj hsecond.2⟩⟩
  unfold exampleCalls
  rw [runAll, hfirst, ok_bind, runAll, hok, ok_bind, runAll, ok_bind, ok_bind]

theorem confirmed_by_previous_hour_entry : ∃ first second,
    runAll exampleRunner [] exampleCalls = .ok [first, second] ∧ ConfirmsBuy second ∧
      DeferredBy exampleRunner.dates first second := by
  obtain ⟨first, second, hrun, hconfirms⟩ := example_runs
  have hsequence : IsSequence exampleRunner .krwBtc exampleCalls := by
    refine ⟨?_, ?_, ?_, ?_⟩ <;> simp [exampleCalls, exampleInput, FourDigitYear, firstYearMs,
      lateYearMs]
  have hfresh : ∀ row ∈ ([] : List StrategyDecisionRecord),
      IsDecisionOf exampleRunner.exchangeAccountId .krwBtc row = false := by simp
  have hlaw := (confirmed_by_previous_hour hfresh hsequence hrun).1
  obtain ⟨earlier, previous, hbefore, hdeferred⟩ := hlaw ([] ++ [first]) second [] rfl hconfirms
  obtain ⟨-, hprevious⟩ := List.append_inj' hbefore rfl
  obtain rfl := (List.cons.inj hprevious).1
  exact ⟨first, second, hrun, hconfirms, hdeferred⟩

end AutoTrade.Strategy.Confirmation
