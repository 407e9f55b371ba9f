import AutoTrade.Strategy.Backtest
import AutoTrade.Strategy.CandidateLedger
import AutoTrade.Strategy.PolicyParity

/-! # The episodes of the backtest and the live ledger

The trades a backtest executes, handed to the routing ledger as execution evidence. The ledger
follows the research state on the number of adds, the time of the last full exit and the path of the
last entry; its profit and loss of a closed episode is that of the backtest less the fees of the
episode's buys, which the ledger counts as cost and the backtest does not.

This holds of runs whose trades are regular: an entry starts from a flat position, an add from an
open one, a reduction leaves a position, and no trade leaves a position within the tolerance. -/

namespace AutoTrade.Strategy.EpisodeParity

open Lib.Text Domain.Timestamp Domain.Types
open Strategy.Core Strategy.ResearchPolicy Strategy.Backtest
open Strategy.CandidateState Strategy.CandidateLedger

/-! ### The run of a backtest and its evidence -/

/-- A decision with what its execution is recorded under. -/
structure Decided where
  decision : PositionGuardEngineDecision
  entryPath : StrategyEntryPath
  executedAt : String
  evidenceId : String

/-- The position and the research state of a backtest, with the fees of the buys of the open episode
and of the last closed one. -/
structure Books where
  state : PositionGuardBacktestState
  research : PositionGuardBacktestResearchState
  buyFees : ℚ
  closedBuyFees : ℚ

/-- A flat start. -/
def Books.start (cashKrw averageEntryPrice : ℚ) : Books where
  state := { cashKrw, quantity := 0, averageEntryPrice }
  research := emptyResearchState
  buyFees := 0
  closedBuyFees := 0

section Run

variable (execution : PositionGuardBacktestExecutionModel) (minimumTradeValueKrw : ℚ)

/-- What the decision comes to on a position, without rounding. -/
def execute (state : PositionGuardBacktestState) (decided : Decided) : DecisionExecutionResult :=
  applyDecision .exact ⟨decided.decision, state, execution, minimumTradeValueKrw⟩

/-- The fees of the buys after a trade: of the open episode, and of the last closed one. -/
def feesAfter (books : Books) : Option PositionGuardBacktestTrade → ℚ × ℚ
  | none => (books.buyFees, books.closedBuyFees)
  | some trade =>
    match trade.action with
    | .enter | .add => (books.buyFees + trade.feeKrw, books.closedBuyFees)
    | .reduce => (books.buyFees, books.closedBuyFees)
    | .exit => (0, books.buyFees)

def Books.step (books : Books) (decided : Decided) : Books :=
  let result := execute execution minimumTradeValueKrw books.state decided
  { state := result.state
    research :=
      advanceResearchState .exact books.research result decided.entryPath decided.executedAt
    buyFees := (feesAfter books result.trade).1
    closedBuyFees := (feesAfter books result.trade).2 }

def Books.run (books : Books) (decisions : List Decided) : Books :=
  decisions.foldl (Books.step execution minimumTradeValueKrw) books

/-- The evidence of a trade: its own amounts, and the quantity that remains. -/
def tradeEvidence (decided : Decided) (trade : PositionGuardBacktestTrade) (remaining : ℚ) :
    NormalizedEvidence where
  evidenceId := decided.evidenceId
  executedAt := decided.executedAt
  action := trade.action
  entryPath := decided.entryPath
  terminalStatus := .filled
  executedQuantity := trade.quantity
  grossQuoteValueKrw := trade.grossNotionalKrw
  confirmedFeeKrw := trade.feeKrw
  remainingQuantity := remaining

/-- The evidence a decision leaves: of its trade, if it was executed. -/
def evidenceOf (state : PositionGuardBacktestState) (decided : Decided) : List NormalizedEvidence :=
  let result := execute execution minimumTradeValueKrw state decided
  result.trade.toList.map fun trade => tradeEvidence decided trade result.state.quantity

def runEvidence (books : Books) : List Decided → List NormalizedEvidence
  | [] => []
  | decided :: rest => evidenceOf execution minimumTradeValueKrw books.state decided ++
    runEvidence (books.step execution minimumTradeValueKrw decided) rest

/-- A trade of positive value that moves the position as its action says. -/
def RegularTrade (before after : PositionGuardBacktestState) (trade : PositionGuardBacktestTrade) :
    Prop :=
  0 < trade.grossNotionalKrw ∧
    match trade.action with
    | .enter => before.quantity = 0 ∧ quantityTolerance < after.quantity
    | .add => before.quantity ≠ 0
    | .reduce => quantityTolerance < after.quantity
    | .exit => True

instance (before after : PositionGuardBacktestState) (trade : PositionGuardBacktestTrade) :
    Decidable (RegularTrade before after trade) := by
  unfold RegularTrade
  cases trade.action <;> infer_instance

/-- Every trade of the run is regular. -/
def Regular (books : Books) : List Decided → Prop
  | [] => True
  | decided :: rest =>
    (∀ trade ∈ (execute execution minimumTradeValueKrw books.state decided).trade,
      RegularTrade books.state
        (execute execution minimumTradeValueKrw books.state decided).state trade) ∧
    Regular (books.step execution minimumTradeValueKrw decided) rest

end Run

/-- The decisions are made at valid times, in the order of the chronology, under non-blank ids. -/
def Chronological (decisions : List Decided) : Prop :=
  (∀ decided ∈ decisions, IsCandidateTimestamp decided.executedAt ∧
    isBlank decided.evidenceId = false) ∧
  decisions.Pairwise fun a b => instant a.executedAt < instant b.executedAt ∨
    (instant a.executedAt = instant b.executedAt ∧ before a.evidenceId b.evidenceId = true)

/-- The ledger follows the backtest. -/
structure Agrees (books : Books) (ledger : PositionGuardCandidateState) : Prop where
  addCount : ledger.currentEpisodeAddCount = books.research.currentEpisodeAddCount
  lastFullExitAt : ledger.lastFullExitAt = books.research.lastFullExitAt
  lastEntryPath : ledger.lastEntryPath = books.research.lastEntryPath
  pnl : ledger.lastFullExitRealizedPnlKrw =
    books.research.lastFullExitRealizedPnlKrw.map (· - books.closedBuyFees)
  fees : 0 ≤ books.closedBuyFees

/-! ### What a decision comes to -/

section Steps

variable {execution : PositionGuardBacktestExecutionModel} {minimumTradeValueKrw : ℚ}
  {state : PositionGuardBacktestState} {decided : Decided} {books : Books}
  {ledger : PositionGuardCandidateState}

theorem skipped_exact (input : ApplyDecisionInput) (reason : Option PositionGuardBacktestSkipReason) :
    skipped .exact input reason = ⟨input.state, none, reason⟩ := rfl

/-- The decision is skipped, or it buys, or it sells from a position. -/
theorem execute_cases (state : PositionGuardBacktestState) (decided : Decided) :
    (∃ reason, execute execution minimumTradeValueKrw state decided = ⟨state, none, reason⟩) ∨
    (∃ gross, execute execution minimumTradeValueKrw state decided =
      executeBuy .exact ⟨decided.decision, state, execution, minimumTradeValueKrw⟩ gross) ∨
    (0 < state.quantity ∧ ∃ quantity,
      (decided.decision.action = .exit → quantity = state.quantity) ∧ quantity ≤ state.quantity ∧
      execute execution minimumTradeValueKrw state decided =
        executeSell .exact ⟨decided.decision, state, execution, minimumTradeValueKrw⟩ quantity) := by
  set input : ApplyDecisionInput := ⟨decided.decision, state, execution, minimumTradeValueKrw⟩
  have hbuy : (∃ reason, applyBuy .exact input = ⟨state, none, reason⟩) ∨
      ∃ gross, applyBuy .exact input = executeBuy .exact input gross := by
    unfold applyBuy
    dsimp only
    split_ifs with h1 h2
    · exact Or.inl ⟨_, skipped_exact input _⟩
    · exact Or.inl ⟨_, skipped_exact input _⟩
    · exact Or.inr ⟨_, rfl⟩
  have hsell : (∃ reason, applySell .exact input = ⟨state, none, reason⟩) ∨
      (0 < state.quantity ∧ applySell .exact input =
        executeSell .exact input (sellQuantity input)) := by
    unfold applySell
    dsimp only
    split_ifs with h1 h2
    · exact Or.inl ⟨_, skipped_exact input _⟩
    · exact Or.inl ⟨_, skipped_exact input _⟩
    · exact Or.inr ⟨not_le.mp h1, rfl⟩
  have hquantity : 0 < state.quantity → decided.decision.action = .exit →
      sellQuantity input = state.quantity := by
    intro hpos hexit
    have haction : input.decision.action = .exit := hexit
    simp only [sellQuantity, if_pos haction]
    rw [max_eq_right (show 0 ≤ input.state.quantity from hpos.le)]
    exact min_self _
  unfold execute applyDecision
  by_cases hdeferred : decided.decision.executionDisposition = .deferredConfirmation
  · rw [if_pos hdeferred]
    exact Or.inl ⟨none, rfl⟩
  rw [if_neg hdeferred]
  rcases hsell with hskip | ⟨hpos, hsell⟩
  · cases haction : decided.decision.action
    · exact hbuy.imp id Or.inl
    · exact hbuy.imp id Or.inl
    · exact Or.inl hskip
    · exact Or.inl hskip
    · exact Or.inl ⟨none, rfl⟩
  · have hright : ∃ quantity, (decided.decision.action = .exit → quantity = state.quantity) ∧
        quantity ≤ state.quantity ∧ applySell .exact input = executeSell .exact input quantity :=
      ⟨sellQuantity input, hquantity hpos, min_le_left _ _, hsell⟩
    cases haction : decided.decision.action
    · exact hbuy.imp id Or.inl
    · exact hbuy.imp id Or.inl
    · exact Or.inr (Or.inr ⟨hpos, by rwa [haction] at hright⟩)
    · exact Or.inr (Or.inr ⟨hpos, by rwa [haction] at hright⟩)
    · exact Or.inl ⟨none, rfl⟩

theorem executeBuy_exact (input : ApplyDecisionInput) (gross : ℚ) :
    ∃ trade, (executeBuy .exact input gross).trade = some trade ∧
      trade.quantity =
        gross / (input.decision.referencePrice * (1 + input.execution.slippageRate)) ∧
      trade.grossNotionalKrw = gross ∧ trade.feeKrw = gross * input.execution.feeRate ∧
      (trade.action = .add ∨ trade.action = .enter) ∧
      (executeBuy .exact input gross).state.quantity = input.state.quantity + trade.quantity ∧
      (0 < input.state.quantity + trade.quantity →
        (executeBuy .exact input gross).state.averageEntryPrice *
            (executeBuy .exact input gross).state.quantity =
          input.state.averageEntryPrice * input.state.quantity + gross) := by
  refine ⟨_, rfl, rfl, rfl, rfl, ?_, rfl, fun hpos => ?_⟩
  · by_cases ha : input.decision.action = .add
    · exact Or.inl (if_pos ha)
    · exact Or.inr (if_neg ha)
  · have haverage : (executeBuy .exact input gross).state.averageEntryPrice = _ := if_pos hpos
    rw [haverage]
    exact div_mul_cancel₀ _ hpos.ne'

theorem executeSell_exact (input : ApplyDecisionInput) {quantity : ℚ}
    (hle : quantity ≤ input.state.quantity) :
    ∃ trade, (executeSell .exact input quantity).trade = some trade ∧ trade.quantity = quantity ∧
      trade.grossNotionalKrw =
        quantity * (input.decision.referencePrice * (1 - input.execution.slippageRate)) ∧
      trade.feeKrw = trade.grossNotionalKrw * input.execution.feeRate ∧
      trade.realizedPnlKrw = trade.grossNotionalKrw - trade.feeKrw -
        quantity * input.state.averageEntryPrice ∧
      trade.action = (if input.decision.action = .exit then .exit else .reduce) ∧
      (executeSell .exact input quantity).state.quantity = input.state.quantity - quantity ∧
      (executeSell .exact input quantity).state.averageEntryPrice =
        if 0 < input.state.quantity - quantity then input.state.averageEntryPrice else 0 := by
  have hmax : max 0 (input.state.quantity - quantity) = input.state.quantity - quantity :=
    max_eq_right (by linarith)
  refine ⟨_, rfl, rfl, rfl, rfl, rfl, rfl, hmax, ?_⟩
  simp only [executeSell, hmax]

/-! ### One trade -/

/-- The ledger agrees with the backtest, and its episode differs from that of the backtest by the
fees of the buys: what is not yet realized of them is in the cost basis. -/
structure Matches (books : Books) (ledger : PositionGuardCandidateState) : Prop
    extends Agrees books ledger where
  inventory : ledger.currentEpisodeInventoryQuantity = books.state.quantity
  realized : ledger.currentEpisodeRealizedPnlKrw = books.research.currentEpisodeRealizedPnlKrw -
    (books.buyFees - (ledger.currentEpisodeCostBasisKrw -
      books.state.averageEntryPrice * books.state.quantity))
  buyFees : 0 ≤ books.buyFees

variable {result : DecisionExecutionResult} {trade : PositionGuardBacktestTrade}

/-- The books after a trade with the given result. -/
def booksAfter (books : Books) (decided : Decided) (result : DecisionExecutionResult)
    (trade : PositionGuardBacktestTrade) : Books where
  state := result.state
  research := advanceResearchState .exact books.research result decided.entryPath decided.executedAt
  buyFees := (feesAfter books (some trade)).1
  closedBuyFees := (feesAfter books (some trade)).2

theorem step_of_execute (h : execute execution minimumTradeValueKrw books.state decided = result)
    (ht : result.trade = some trade) :
    books.step execution minimumTradeValueKrw decided = booksAfter books decided result trade ∧
      evidenceOf execution minimumTradeValueKrw books.state decided =
        [tradeEvidence decided trade result.state.quantity] := by
  subst h
  constructor
  · unfold Books.step booksAfter
    dsimp only
    rw [ht]
  · unfold evidenceOf
    dsimp only
    rw [ht]
    rfl

/-- What the ledger makes of the evidence of a trade. -/
structure Follows (books : Books) (ledger : PositionGuardCandidateState) (decided : Decided)
    (evidence : List NormalizedEvidence) (next : PositionGuardCandidateState) : Prop where
  advance : evidence.foldlM advanceValidatedPositionGuardCandidateState ledger = .ok next
  agrees : Matches books next
  valid : Valid next
  version : next.stateVersion ≤ ledger.stateVersion + 1
  cursor : (next.lastEvidenceAt = ledger.lastEvidenceAt ∧
      next.lastEvidenceId = ledger.lastEvidenceId) ∨
    (next.lastEvidenceAt = some decided.executedAt ∧ next.lastEvidenceId = some decided.evidenceId)

/-- The ledger accepts a fill with an exact residual that passes the lifecycle checks. -/
theorem follows_fill {evidence : NormalizedEvidence} {next : Books} (hv : Valid ledger)
    (hversion : ledger.stateVersion < maxSafeInteger) (he : EvidenceValid evidence)
    (h0 : evidence.executedQuantity ≠ 0) (hafter : AfterCursor ledger evidence)
    (hlife : LifecycleOk ledger evidence)
    (hresidual : (applyEvidence ledger evidence).2 = evidence.remainingQuantity)
    (hbuy : isBuyAction evidence.action = true → quantityTolerance <
      ledger.currentEpisodeInventoryQuantity + evidence.executedQuantity)
    (hat : evidence.executedAt = decided.executedAt) (hid : evidence.evidenceId = decided.evidenceId)
    (hmatches : Matches next (afterFill ledger evidence)) :
    Follows next ledger decided [evidence] (afterFill ledger evidence) := by
  have hvalid := valid_afterFill hv he h0 hversion hafter hlife hbuy
  have hres : |(applyEvidence ledger evidence).2 - evidence.remainingQuantity| ≤
      quantityTolerance := by
    rw [hresidual, sub_self, abs_zero]
    exact quantityTolerance_pos.le
  have hver : (applyEvidence ledger evidence).1.stateVersion = ledger.stateVersion := by
    unfold applyEvidence applySellEvidence
    split_ifs <;> rfl
  refine ⟨?_, hmatches, hvalid, ?_, Or.inr ⟨by rw [← hat]; rfl, by rw [← hid]; rfl⟩⟩
  · simp only [List.foldlM_cons, List.foldlM_nil]
    rw [(advance_fill_eq_ok hv he h0).mpr ⟨hafter, hlife, hres, hvalid, rfl⟩]
    rfl
  · simp [afterFill, moveCursor, hver]

variable (hm : Matches books ledger) (hv : Valid ledger)
  (hversion : ledger.stateVersion < maxSafeInteger)
  (hprice : 0 < decided.decision.referencePrice)
  (hslippage : 0 ≤ execution.slippageRate) (hslippage' : execution.slippageRate < 1)
  (hfee : 0 ≤ execution.feeRate)
  (htime : IsCandidateTimestamp decided.executedAt) (hid : isBlank decided.evidenceId = false)
  (hafter : ∀ cursorAt ∈ ledger.lastEvidenceAt,
    instant cursorAt < instant decided.executedAt ∨
      (instant cursorAt = instant decided.executedAt ∧
        before (ledger.lastEvidenceId.getD "") decided.evidenceId = true))
  (hregular : ∀ trade ∈ (execute execution minimumTradeValueKrw books.state decided).trade,
    RegularTrade books.state (execute execution minimumTradeValueKrw books.state decided).state trade)

include hm in
theorem matches_buy (haction : trade.action = .add ∨ trade.action = .enter)
    (htrade : result.trade = some trade)
    (hquantity : result.state.quantity = books.state.quantity + trade.quantity)
    (hcost : result.state.averageEntryPrice * result.state.quantity =
      books.state.averageEntryPrice * books.state.quantity + trade.grossNotionalKrw)
    (hfeePos : 0 ≤ trade.feeKrw) :
    Matches (booksAfter books decided result trade)
      (moveCursor (applyBuyEvidence ledger
        (tradeEvidence decided trade result.state.quantity))
        (tradeEvidence decided trade result.state.quantity)) := by
  rw [hquantity] at hcost
  have hrealized := hm.realized
  have hfees := hm.buyFees
  have hresearch : advanceResearchState .exact books.research result decided.entryPath
      decided.executedAt = recordTrade .exact books.research trade decided.entryPath := by
    unfold advanceResearchState
    rw [htrade]
    rcases haction with ha | ha <;> simp [ha]
  unfold booksAfter
  rw [hresearch]
  rcases haction with ha | ha
  · refine ⟨⟨?_, ?_, ?_, ?_, ?_⟩, ?_, ?_, ?_⟩ <;>
      simp [moveCursor, applyBuyEvidence, tradeEvidence, recordTrade, feesAfter, ha, hm.addCount,
        hm.lastFullExitAt, hm.lastEntryPath, hm.pnl, hm.fees, hm.inventory, hquantity]
    · linarith
    · linarith
  · refine ⟨⟨?_, ?_, ?_, ?_, ?_⟩, ?_, ?_, ?_⟩ <;>
      simp [moveCursor, applyBuyEvidence, tradeEvidence, recordTrade, feesAfter, ha, hm.addCount,
        hm.lastFullExitAt, hm.pnl, hm.fees, hm.inventory, hquantity]
    · linarith
    · linarith

include hfee htime hid in
theorem valid_tradeEvidence {remaining : ℚ} (hquantity : 0 < trade.quantity)
    (hgross : 0 < trade.grossNotionalKrw)
    (hfeeKrw : trade.feeKrw = trade.grossNotionalKrw * execution.feeRate)
    (hremaining : 0 ≤ remaining) : EvidenceValid (tradeEvidence decided trade remaining) := by
  refine ⟨hid, htime, hquantity.le, hgross.le, ?_, hremaining,
    fun h0 => absurd h0 hquantity.ne', fun _ => hgross⟩
  show 0 ≤ trade.feeKrw
  rw [hfeeKrw]
  exact mul_nonneg hgross.le hfee

include hm hv hversion hprice hslippage hfee htime hid hafter hregular in
theorem follows_buy {gross : ℚ}
    (h : execute execution minimumTradeValueKrw books.state decided = executeBuy .exact
      ⟨decided.decision, books.state, execution, minimumTradeValueKrw⟩ gross) :
    ∃ next, Follows (books.step execution minimumTradeValueKrw decided) ledger decided
      (evidenceOf execution minimumTradeValueKrw books.state decided) next := by
  set result := executeBuy .exact
    ⟨decided.decision, books.state, execution, minimumTradeValueKrw⟩ gross with hresult
  obtain ⟨trade, htrade, hquantity, hgross, hfeeKrw, haction, hafterQuantity, hcost⟩ :=
    executeBuy_exact ⟨decided.decision, books.state, execution, minimumTradeValueKrw⟩ gross
  rw [← hresult] at htrade hafterQuantity hcost
  obtain ⟨hstep, hevidence⟩ := step_of_execute h htrade
  obtain ⟨hgrossPos, hkind⟩ := hregular trade (by rw [h, htrade]; rfl)
  rw [h] at hkind
  rw [hstep, hevidence]
  -- the amounts of the trade
  have hpricePos : 0 < decided.decision.referencePrice * (1 + execution.slippageRate) :=
    mul_pos hprice (by linarith)
  have hquantityPos : 0 < trade.quantity := by
    rw [hquantity]
    exact div_pos (hgross ▸ hgrossPos) hpricePos
  have hbefore : 0 ≤ books.state.quantity := hm.inventory ▸ hv.episode.nonneg.1
  have hcostAfter := hcost (show 0 < books.state.quantity + trade.quantity by linarith)
  set evidence := tradeEvidence decided trade result.state.quantity with hevidenceDef
  have hvalid : EvidenceValid evidence :=
    valid_tradeEvidence hfee htime hid hquantityPos hgrossPos (hgross ▸ hfeeKrw) (by
      rw [hafterQuantity]
      exact add_nonneg hbefore hquantityPos.le)
  have hbuyAction : isBuyAction evidence.action = true := by
    rcases haction with ha | ha <;> simp [hevidenceDef, tradeEvidence, ha, isBuyAction]
  have hresidual : (applyEvidence ledger evidence).2 = evidence.remainingQuantity := by
    simp only [applyEvidence, hbuyAction, if_true, applyBuyEvidence, hm.inventory]
    exact hafterQuantity.symm
  refine ⟨_, follows_fill hv hversion hvalid hquantityPos.ne' hafter ?_ hresidual ?_ rfl rfl ?_⟩
  · rcases haction with ha | ha
    · rw [ha] at hkind
      have hopen := hv.quantity_cases.resolve_left (hm.inventory ▸ hkind)
      simpa [LifecycleOk, hevidenceDef, tradeEvidence, ha] using hopen
    · rw [ha] at hkind
      simpa [LifecycleOk, hevidenceDef, tradeEvidence, ha, hm.inventory] using hkind.1
  · intro _
    show quantityTolerance < ledger.currentEpisodeInventoryQuantity + trade.quantity
    rcases haction with ha | ha
    · rw [ha] at hkind
      have hopen := hv.quantity_cases.resolve_left (hm.inventory ▸ hkind)
      linarith
    · rw [ha] at hkind
      rw [hm.inventory]
      exact hafterQuantity ▸ hkind.2
  · rw [afterFill_buy hbuyAction]
    exact matches_buy hm haction htrade hafterQuantity (hgross ▸ hcostAfter) hvalid.fee

include hm in
theorem matches_exit (haction : trade.action = .exit) (htrade : result.trade = some trade)
    (hquantity : result.state.quantity = books.state.quantity - books.state.quantity)
    (hpnl : trade.realizedPnlKrw = trade.grossNotionalKrw - trade.feeKrw -
      books.state.quantity * books.state.averageEntryPrice)
    (hcloses : closesEpisode ledger (tradeEvidence decided trade result.state.quantity) = true) :
    Matches (booksAfter books decided result trade)
      (moveCursor (applySellEvidence ledger
        (tradeEvidence decided trade result.state.quantity))
        (tradeEvidence decided trade result.state.quantity)) := by
  have hrealized := hm.realized
  have hflat : result.state.quantity = 0 := by rw [hquantity, sub_self]
  have hresearch : advanceResearchState .exact books.research result decided.entryPath
      decided.executedAt =
        { books.research with
          currentEpisodeAddCount := 0
          currentEpisodeRealizedPnlKrw := 0
          lastFullExitAt := some decided.executedAt
          lastFullExitRealizedPnlKrw :=
            some (books.research.currentEpisodeRealizedPnlKrw + trade.realizedPnlKrw) } := by
    have htol : (0 : ℚ) ≤ manifest.quantityTolerance := by simp [manifest]
    unfold advanceResearchState
    rw [htrade]
    simp [haction, hflat, htol, recordTrade, Rounding.exact]
  unfold booksAfter
  rw [hresearch]
  unfold applySellEvidence
  rw [if_pos hcloses]
  refine ⟨⟨rfl, rfl, hm.lastEntryPath, ?_, ?_⟩, ?_, ?_, ?_⟩
  · have hreal : realizedPnl ledger (tradeEvidence decided trade result.state.quantity) =
        ledger.currentEpisodeRealizedPnlKrw + trade.grossNotionalKrw - trade.feeKrw -
          ledger.currentEpisodeCostBasisKrw := by
      unfold realizedPnl removedCost
      rw [if_pos hcloses]
      rfl
    simp only [moveCursor, feesAfter, haction, Option.map_some, hreal, hpnl]
    congr 1
    linarith
  · simpa [feesAfter, haction] using hm.buyFees
  · simp [moveCursor, hflat]
  · simp [moveCursor, hflat, feesAfter, haction]
  · simp [feesAfter, haction]

include hm in
theorem matches_reduce (haction : trade.action = .reduce) (htrade : result.trade = some trade)
    (hquantity : result.state.quantity = books.state.quantity - trade.quantity)
    (haverage : result.state.averageEntryPrice = books.state.averageEntryPrice)
    (hpnl : trade.realizedPnlKrw = trade.grossNotionalKrw - trade.feeKrw -
      trade.quantity * books.state.averageEntryPrice)
    (hcloses : closesEpisode ledger (tradeEvidence decided trade result.state.quantity) = false) :
    Matches (booksAfter books decided result trade)
      (moveCursor (applySellEvidence ledger
        (tradeEvidence decided trade result.state.quantity))
        (tradeEvidence decided trade result.state.quantity)) := by
  have hrealized := hm.realized
  have hresearch : advanceResearchState .exact books.research result decided.entryPath
      decided.executedAt =
        { books.research with
          currentEpisodeRealizedPnlKrw :=
            books.research.currentEpisodeRealizedPnlKrw + trade.realizedPnlKrw } := by
    unfold advanceResearchState
    rw [htrade]
    simp [haction, recordTrade, Rounding.exact]
  unfold booksAfter
  rw [hresearch]
  unfold applySellEvidence
  rw [if_neg (by simp [hcloses])]
  refine ⟨⟨hm.addCount, hm.lastFullExitAt, hm.lastEntryPath, ?_, ?_⟩, ?_, ?_, ?_⟩
  · simpa [moveCursor, feesAfter, haction] using hm.pnl
  · simpa [feesAfter, haction] using hm.fees
  · simp [moveCursor, tradeEvidence, hm.inventory, hquantity]
  · simp only [moveCursor, feesAfter, haction, realizedPnl, removedCost, tradeEvidence,
      hpnl, hquantity, haverage]
    linarith
  · simpa [feesAfter, haction] using hm.buyFees

include hm hv hversion hprice hslippage' hfee htime hid hafter hregular in
theorem follows_sell {quantity : ℚ} (hexit : decided.decision.action = .exit →
      quantity = books.state.quantity) (hle : quantity ≤ books.state.quantity)
    (hopen : 0 < books.state.quantity)
    (h : execute execution minimumTradeValueKrw books.state decided = executeSell .exact
      ⟨decided.decision, books.state, execution, minimumTradeValueKrw⟩ quantity) :
    ∃ next, Follows (books.step execution minimumTradeValueKrw decided) ledger decided
      (evidenceOf execution minimumTradeValueKrw books.state decided) next := by
  set result := executeSell .exact
    ⟨decided.decision, books.state, execution, minimumTradeValueKrw⟩ quantity with hresult
  obtain ⟨trade, htrade, hquantity, hgross, hfeeKrw, hrealized, haction, hafterQuantity, haverage⟩ :=
    executeSell_exact ⟨decided.decision, books.state, execution, minimumTradeValueKrw⟩ hle
  rw [← hresult] at htrade hafterQuantity haverage
  obtain ⟨hstep, hevidence⟩ := step_of_execute h htrade
  obtain ⟨hgrossPos, hkind⟩ := hregular trade (by rw [h, htrade]; rfl)
  rw [h] at hkind
  rw [hstep, hevidence]
  -- the amounts of the trade
  have hpricePos : 0 < decided.decision.referencePrice * (1 - execution.slippageRate) :=
    mul_pos hprice (by linarith)
  have hquantityPos : 0 < trade.quantity := by
    rw [hgross] at hgrossPos
    rw [hquantity]
    exact (pos_iff_pos_of_mul_pos hgrossPos).mpr hpricePos
  set evidence := tradeEvidence decided trade result.state.quantity with hevidenceDef
  have hvalid : EvidenceValid evidence :=
    valid_tradeEvidence hfee htime hid hquantityPos hgrossPos hfeeKrw (by
      rw [hafterQuantity]
      exact sub_nonneg.mpr hle)
  have hopenLedger : quantityTolerance < ledger.currentEpisodeInventoryQuantity :=
    hv.quantity_cases.resolve_left (hm.inventory ▸ hopen.ne')
  have hx : evidence.executedQuantity = quantity := hquantity
  have hremaining : evidence.remainingQuantity = books.state.quantity - quantity := hafterQuantity
  by_cases ha : decided.decision.action = .exit
  · have hexitAction : evidence.action = .exit := haction.trans (if_pos ha)
    have hcloses : closesEpisode ledger evidence = true := by
      simp [closesEpisode, hx, hm.inventory, hexit ha, quantityTolerance_pos.le]
    refine ⟨_, follows_fill hv hversion hvalid hquantityPos.ne' hafter ?_ ?_ ?_ rfl rfl ?_⟩
    · simp only [LifecycleOk, hexitAction]
      exact ⟨hopenLedger, by rw [hx, hexit ha, hm.inventory]; linarith [quantityTolerance_pos]⟩
    · simp [applyEvidence, hexitAction, isBuyAction, hcloses, hremaining, hexit ha]
    · simp [hexitAction, isBuyAction]
    · rw [afterFill_sell (by rw [hexitAction]; rfl)]
      exact matches_exit hm (haction.trans (if_pos ha)) htrade (hexit ha ▸ hafterQuantity)
        (hexit ha ▸ hrealized) hcloses
  · have hreduceAction : evidence.action = .reduce := haction.trans (if_neg ha)
    have htradeAction : trade.action = .reduce := hreduceAction
    rw [htradeAction] at hkind
    have hleft : quantityTolerance < books.state.quantity - quantity := hafterQuantity ▸ hkind
    have hcloses : closesEpisode ledger evidence = false := by
      simp only [closesEpisode, hx, hm.inventory, decide_eq_false_iff_not, not_le]
      exact hleft
    refine ⟨_, follows_fill hv hversion hvalid hquantityPos.ne' hafter ?_ ?_ ?_ rfl rfl ?_⟩
    · simp only [LifecycleOk, hreduceAction]
      exact ⟨hopenLedger, by rw [hx, hm.inventory]; linarith [quantityTolerance_pos]⟩
    · simp [applyEvidence, hreduceAction, isBuyAction, hcloses, hm.inventory, hremaining, hx]
    · simp [hreduceAction, isBuyAction]
    · rw [afterFill_sell (by rw [hreduceAction]; rfl)]
      have hkeep : result.state.averageEntryPrice = books.state.averageEntryPrice :=
        haverage.trans (if_pos (quantityTolerance_pos.trans hleft))
      exact matches_reduce hm htradeAction htrade (hquantity ▸ hafterQuantity) hkeep
        (hquantity ▸ hrealized) hcloses

include hm hv hversion hprice hslippage hslippage' hfee htime hid hafter hregular in
theorem follows_step :
    ∃ next, Follows (books.step execution minimumTradeValueKrw decided) ledger decided
      (evidenceOf execution minimumTradeValueKrw books.state decided) next := by
  rcases @execute_cases execution minimumTradeValueKrw books.state decided with ⟨reason, h⟩ | ⟨gross, h⟩ | ⟨hopen, quantity, hexit, hle, h⟩
  · have hstep : books.step execution minimumTradeValueKrw decided = books := by
      unfold Books.step
      dsimp only
      rw [h]
      rfl
    have hevidence : evidenceOf execution minimumTradeValueKrw books.state decided = [] := by
      unfold evidenceOf
      dsimp only
      rw [h]
      rfl
    rw [hstep, hevidence]
    exact ⟨ledger, rfl, hm, hv, Nat.le_succ _, Or.inl ⟨rfl, rfl⟩⟩
  · exact follows_buy hm hv hversion hprice hslippage hfee htime hid hafter hregular h
  · exact follows_sell hm hv hversion hprice hslippage' hfee htime hid hafter hregular hexit hle
      hopen h

end Steps

/-! ### Whole runs -/

section Runs

variable {execution : PositionGuardBacktestExecutionModel} {minimumTradeValueKrw : ℚ}
  (hslippage : 0 ≤ execution.slippageRate) (hslippage' : execution.slippageRate < 1)
  (hfee : 0 ≤ execution.feeRate)

include hslippage hslippage' hfee in
/-- The ledger follows a run of a backtest, decision by decision. -/
theorem follows_run (decisions : List Decided) :
    ∀ (books : Books) (ledger : PositionGuardCandidateState), Matches books ledger → Valid ledger →
      (∀ decided ∈ decisions, 0 < decided.decision.referencePrice) → Chronological decisions →
      (∀ decided ∈ decisions, ∀ cursorAt ∈ ledger.lastEvidenceAt,
        instant cursorAt < instant decided.executedAt ∨
          (instant cursorAt = instant decided.executedAt ∧
            before (ledger.lastEvidenceId.getD "") decided.evidenceId = true)) →
      Regular execution minimumTradeValueKrw books decisions →
      ledger.stateVersion + decisions.length ≤ maxSafeInteger →
      ∃ next, (runEvidence execution minimumTradeValueKrw books decisions).foldlM
          advanceValidatedPositionGuardCandidateState ledger = .ok next ∧
        Matches (books.run execution minimumTradeValueKrw decisions) next := by
  induction decisions with
  | nil => exact fun books ledger hm _ _ _ _ _ _ => ⟨ledger, rfl, hm⟩
  | cons decided rest ih =>
    intro books ledger hm hv hprice hchron hcursor hregular hlength
    obtain ⟨htimes, hpairs⟩ := hchron
    obtain ⟨hbefore, hrest⟩ := List.pairwise_cons.mp hpairs
    obtain ⟨htime, hid⟩ := htimes decided (List.mem_cons_self ..)
    simp only [List.length_cons] at hlength
    obtain ⟨next, hnext⟩ := follows_step hm hv (by omega) (hprice decided (List.mem_cons_self ..))
      hslippage hslippage' hfee htime hid (hcursor decided (List.mem_cons_self ..)) hregular.1
    have hversion := hnext.version
    -- the cursor stands at this decision, or where it stood before
    have hcursor' : ∀ later ∈ rest, ∀ cursorAt ∈ next.lastEvidenceAt,
        instant cursorAt < instant later.executedAt ∨
          (instant cursorAt = instant later.executedAt ∧
            before (next.lastEvidenceId.getD "") later.evidenceId = true) := by
      intro later hlater
      rcases hnext.cursor with ⟨hat, hidNext⟩ | ⟨hat, hidNext⟩
      · rw [hat, hidNext]
        exact hcursor later (List.mem_cons_of_mem _ hlater)
      · rw [hat, hidNext]
        intro cursorAt hcursorAt
        rw [← Option.mem_some_iff.mp hcursorAt]
        exact hbefore later hlater
    obtain ⟨final, hfold, hfinal⟩ := ih _ next hnext.agrees hnext.valid
      (fun later hlater => hprice later (List.mem_cons_of_mem _ hlater))
      ⟨fun later hlater => htimes later (List.mem_cons_of_mem _ hlater), hrest⟩ hcursor' hregular.2
      (by omega)
    refine ⟨final, ?_, hfinal⟩
    rw [runEvidence, List.foldlM_append, hnext.advance]
    exact hfold

theorem regular_take (decisions : List Decided) : ∀ (books : Books) (n : ℕ),
    Regular execution minimumTradeValueKrw books decisions →
      Regular execution minimumTradeValueKrw books (decisions.take n) := by
  induction decisions with
  | nil => intro books n h; simpa using h
  | cons decided rest ih =>
    rintro books (_ | n) h
    · trivial
    · exact ⟨h.1, ih _ n h.2⟩

theorem chronological_take {decisions : List Decided} (h : Chronological decisions) (n : ℕ) :
    Chronological (decisions.take n) :=
  ⟨fun decided hd => h.1 decided (List.mem_of_mem_take hd), h.2.sublist (List.take_sublist n _)⟩

theorem matches_start (cashKrw averageEntryPrice : ℚ) :
    Matches (Books.start cashKrw averageEntryPrice) createEmptyPositionGuardCandidateState := by
  refine ⟨⟨rfl, rfl, rfl, rfl, le_rfl⟩, rfl, ?_, le_rfl⟩
  simp [Books.start, createEmptyPositionGuardCandidateState, emptyResearchState]

include hslippage hslippage' hfee in
/-- After every decision of a backtest whose trades are regular, the ledger that was handed the
evidence of the trades has the research state's number of adds, time of the last full exit and path
of the last entry. Its profit and loss of the last full exit is that of the research state less the
fees of the closed episode's buys, so it is non-positive whenever that of the research state is. -/
theorem ledger_follows_backtest (cashKrw averageEntryPrice : ℚ) (decisions : List Decided)
    (hprice : ∀ decided ∈ decisions, 0 < decided.decision.referencePrice)
    (hchron : Chronological decisions) (hlength : decisions.length ≤ maxSafeInteger)
    (hregular : Regular execution minimumTradeValueKrw (.start cashKrw averageEntryPrice) decisions)
    (n : ℕ) :
    ∃ ledger, (runEvidence execution minimumTradeValueKrw (.start cashKrw averageEntryPrice)
          (decisions.take n)).foldlM advanceValidatedPositionGuardCandidateState
          createEmptyPositionGuardCandidateState = .ok ledger ∧
      Agrees (Books.run execution minimumTradeValueKrw (.start cashKrw averageEntryPrice)
        (decisions.take n)) ledger ∧
      ∀ p ∈ (Books.run execution minimumTradeValueKrw (.start cashKrw averageEntryPrice)
        (decisions.take n)).research.lastFullExitRealizedPnlKrw,
        ∀ l ∈ ledger.lastFullExitRealizedPnlKrw, p ≤ 0 → l ≤ 0 := by
  have hshort : (decisions.take n).length ≤ maxSafeInteger :=
    (List.length_take_le' n decisions).trans hlength
  obtain ⟨ledger, hfold, hmatches⟩ := follows_run hslippage hslippage' hfee (decisions.take n)
    (.start cashKrw averageEntryPrice) createEmptyPositionGuardCandidateState (matches_start _ _)
    valid_empty (fun decided hd => hprice decided (List.mem_of_mem_take hd))
    (chronological_take hchron n) (by simp [createEmptyPositionGuardCandidateState])
    (regular_take decisions _ n hregular)
    (by simpa [createEmptyPositionGuardCandidateState] using hshort)
  refine ⟨ledger, hfold, hmatches.toAgrees, fun p hp l hl hle => ?_⟩
  have hfees := hmatches.fees
  have hpnl := hmatches.pnl
  rw [Option.mem_def.mp hp, Option.mem_def.mp hl] at hpnl
  have hl' : l = p - (Books.run execution minimumTradeValueKrw
    (.start cashKrw averageEntryPrice) (decisions.take n)).closedBuyFees := Option.some.inj hpnl
  linarith

end Runs

/-! ### A small profit that the fees turn into a loss -/

/-- A decision that names an action, a price and, for a buy, a value of 100. -/
def plainDecision (action : StrategyDecisionAction) (referencePrice : ℚ) :
    PositionGuardEngineDecision :=
  { PolicyParity.uptrendDecision action with
    targetNotionalKrw := 100
    targetQuantityFraction := some 1
    referencePrice
    exposureGuardrails :=
      { perAssetMaxAllocation := 0.6, totalPortfolioMaxExposure := 0.75,
        remainingAssetCapacity := 600, remainingPortfolioCapacity := 750 } }

/-- Bought at 100 and sold an hour later. -/
def roundTrip (exitPrice : ℚ) : List Decided :=
  [⟨plainDecision .enter 100, .pullback, "2026-01-01T00:00:00Z", "a"⟩,
    ⟨plainDecision .exit exitPrice, .pullback, "2026-01-01T01:00:00Z", "b"⟩]

/-- One percent of every trade. -/
def onePercent : PositionGuardBacktestExecutionModel := ⟨1 / 100, 0, 1⟩

theorem chronological_roundTrip (exitPrice : ℚ) : Chronological (roundTrip exitPrice) := by
  have hfirst : IsCandidateTimestamp "2026-01-01T00:00:00Z" := by decide +kernel
  have hsecond : IsCandidateTimestamp "2026-01-01T01:00:00Z" := by decide +kernel
  have hlt : instant "2026-01-01T00:00:00Z" < instant "2026-01-01T01:00:00Z" := by decide +kernel
  have hids : isBlank "a" = false ∧ isBlank "b" = false := by decide +kernel
  constructor
  · intro decided hd
    simp only [roundTrip, List.mem_cons, List.not_mem_nil, or_false] at hd
    rcases hd with rfl | rfl
    · exact ⟨hfirst, hids.1⟩
    · exact ⟨hsecond, hids.2⟩
  · simpa [roundTrip] using Or.inl hlt

theorem roundTrip_price {exitPrice : ℚ} (h : 0 < exitPrice) :
    ∀ decided ∈ roundTrip exitPrice, 0 < decided.decision.referencePrice := by
  intro decided hd
  simp only [roundTrip, List.mem_cons, List.not_mem_nil, or_false] at hd
  rcases hd with rfl | rfl
  · exact (by norm_num : (0 : ℚ) < 100)
  · exact h

/-- A sale at 90, which is a loss in both. -/
theorem ledger_follows_backtest_roundTrip :
    ∃ ledger, (runEvidence onePercent 1 (.start 1000 0) (roundTrip 90)).foldlM
          advanceValidatedPositionGuardCandidateState createEmptyPositionGuardCandidateState =
        .ok ledger ∧
      Agrees (Books.run onePercent 1 (.start 1000 0) (roundTrip 90)) ledger := by
  obtain ⟨ledger, hfold, hagrees, -⟩ :=
    @ledger_follows_backtest onePercent 1 (by decide +kernel) (by decide +kernel)
      (by decide +kernel) 1000 0 (roundTrip 90) (roundTrip_price (by norm_num)) (chronological_roundTrip 90) (by decide +kernel)
      (by
        refine ⟨?_, ?_, trivial⟩
        · decide +kernel
        · decide +kernel) 2
  exact ⟨ledger, hfold, hagrees⟩

/-- A sale at 101.5: a profit of 0.485 to the backtest, a loss of 0.515 to the ledger, which has paid
one for the buy. -/
theorem buy_fee_turns_profit_into_loss :
    ¬ ∀ (execution : PositionGuardBacktestExecutionModel) (minimumTradeValueKrw cashKrw
        averageEntryPrice : ℚ) (decisions : List Decided),
      0 ≤ execution.slippageRate → execution.slippageRate < 1 → 0 ≤ execution.feeRate →
      (∀ decided ∈ decisions, 0 < decided.decision.referencePrice) →
      (∀ decided ∈ decisions, decided.decision.action = .reduce →
        ∀ fraction ∈ decided.decision.targetQuantityFraction, 0 ≤ fraction ∧ fraction ≤ 1) →
      Chronological decisions → ∀ n, ∃ ledger,
        (runEvidence execution minimumTradeValueKrw (.start cashKrw averageEntryPrice)
          (decisions.take n)).foldlM advanceValidatedPositionGuardCandidateState
          createEmptyPositionGuardCandidateState = .ok ledger ∧
        ∀ p ∈ (Books.run execution minimumTradeValueKrw (.start cashKrw averageEntryPrice)
          (decisions.take n)).research.lastFullExitRealizedPnlKrw,
          ∀ l ∈ ledger.lastFullExitRealizedPnlKrw, p ≤ 0 ↔ l ≤ 0 := by
  intro h
  obtain ⟨ledger, hfold, hsign⟩ := h onePercent 1 1000 0 (roundTrip (203 / 2)) (by decide +kernel)
    (by decide +kernel) (by decide +kernel) (roundTrip_price (by norm_num)) (by
      intro decided hd haction
      simp only [roundTrip, List.mem_cons, List.not_mem_nil, or_false] at hd
      rcases hd with rfl | rfl <;> cases haction) (chronological_roundTrip _) 2
  have hresearch : (Books.run onePercent 1 (.start 1000 0)
      (roundTrip (203 / 2))).research.lastFullExitRealizedPnlKrw = some (97 / 200) := by
    decide +kernel
  have hledger : ((runEvidence onePercent 1 (.start 1000 0) (roundTrip (203 / 2))).foldlM
      advanceValidatedPositionGuardCandidateState createEmptyPositionGuardCandidateState).toOption.map
        PositionGuardCandidateState.lastFullExitRealizedPnlKrw = some (some (-103 / 200)) := by
    decide +kernel
  rw [show (runEvidence onePercent 1 (.start 1000 0) (roundTrip (203 / 2))).foldlM
      advanceValidatedPositionGuardCandidateState createEmptyPositionGuardCandidateState = .ok ledger
      from hfold] at hledger
  have hl : ledger.lastFullExitRealizedPnlKrw = some (-103 / 200) := Option.some.inj hledger
  have hiff := hsign (97 / 200) hresearch (-103 / 200) hl
  norm_num at hiff

/-- Bought at 100 and reduced by everything an hour later. -/
def reducedToFlat : List Decided :=
  [⟨plainDecision .enter 100, .pullback, "2026-01-01T00:00:00Z", "a"⟩,
    ⟨plainDecision .reduce 90, .pullback, "2026-01-01T01:00:00Z", "b"⟩]

theorem reduce_to_flat_exits_ledger :
    (Books.run onePercent 1 (.start 1000 0) reducedToFlat).research.lastFullExitAt = none ∧
      ((runEvidence onePercent 1 (.start 1000 0) reducedToFlat).foldlM
          advanceValidatedPositionGuardCandidateState
          createEmptyPositionGuardCandidateState).toOption.map (·.lastFullExitAt) =
        some (some "2026-01-01T01:00:00Z") := by
  decide +kernel

end AutoTrade.Strategy.EpisodeParity
