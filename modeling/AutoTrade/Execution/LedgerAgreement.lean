import AutoTrade.Execution.DecimalValues
import AutoTrade.Strategy.CandidateLedger

/-! # The exact ledger and the routing ledger

`projectExactCandidateState` folds the evidence over texts, `projectPositionGuardCandidateState` over
numbers. As long as no record leaves a positive inventory within the tolerance, the two states of
every step write the same numbers (`Tracks`); a record that does is refused by the routing ledger and
by it alone. The last word has `toPositionGuardCandidateRoutingState`, which reads the two profits
back by a grammar without the numbers strictly between 0 and 1 in absolute value. -/

namespace AutoTrade.Execution.LedgerAgreement

open Lib.Decimal Lib.Result Domain.Timestamp
open Strategy.CandidateState Strategy.CandidateLedger
open Execution.EvidenceDecimals

/-! ### Texts of numbers -/

/-- `text` is what `formatExactDecimal` writes for the number `q`. -/
def Writes (text : String) (q : ℚ) : Prop :=
  ∃ d : ExactDecimal, text = formatExactDecimal d ∧ d.value = q

variable {label : String}

namespace Writes

variable {text text' : String} {q q' : ℚ}

theorem routingNumber_eq (h : Writes text q) : routingNumber text = q := by
  obtain ⟨d, rfl, rfl⟩ := h
  exact routingNumber_format d

theorem eq_iff (h : Writes text q) (h' : Writes text' q') : text = text' ↔ q = q' := by
  obtain ⟨d, rfl, rfl⟩ := h
  obtain ⟨d', rfl, rfl⟩ := h'
  exact format_eq_iff d d'

theorem zero : Writes "0" 0 := ⟨⟨0, 0⟩, by decide, by simp [ExactDecimal.value]⟩

section

variable (h : Writes text q)
include h

theorem eq_zero_iff : text = "0" ↔ q = 0 := h.eq_iff zero

theorem value_parse : (parseCanonicalDecimal text).value = q := by
  rw [EvidenceDecimals.value_parse, h.routingNumber_eq]

theorem parseNonNegative {d : ExactDecimal}
    (hparse : parseCanonicalNonNegativeDecimal (.text text) label = .ok d) : d.value = q := by
  obtain ⟨t, ht, -, rfl⟩ := parseNonNegative_eq_ok.mp hparse
  rw [← PositionGuardCandidateDecimal.text.inj ht, h.value_parse]

theorem canonicalNonNegative (hq : 0 ≤ q) (label : String) :
    canonicalNonNegativeDecimal (.text text) label = .ok text := by
  obtain ⟨d, rfl, rfl⟩ := h
  rw [canonicalNonNegative_eq_ok]
  refine ⟨_, rfl, isCanonicalNonNegative_format hq, ?_⟩
  rw [format_eq_iff, parse_format_value]

theorem parseSigned {d : ExactDecimal} (hparse : parseCanonicalSignedDecimal text label = .ok d) :
    d.value = q := by
  unfold parseCanonicalSignedDecimal at hparse
  split_ifs at hparse
  rw [← Except.ok.inj hparse, h.value_parse]

theorem canonicalSigned_eq_ok {label out : String} :
    canonicalSignedDecimal text label = .ok out ↔ (q = 0 ∨ 1 ≤ |q|) ∧ out = text := by
  obtain ⟨d, rfl, rfl⟩ := h
  have hback : formatExactDecimal (parseCanonicalDecimal (formatExactDecimal d)) =
      formatExactDecimal d := by
    rw [format_eq_iff, parse_format_value]
  rw [← isCanonicalSigned_format]
  unfold canonicalSignedDecimal parseCanonicalSignedDecimal
  by_cases hc : isCanonicalSigned (formatExactDecimal d).toList = true
  · simp only [hc, if_true, true_and]
    show Except.ok (formatExactDecimal (parseCanonicalDecimal (formatExactDecimal d))) = .ok out ↔ _
    rw [hback, Except.ok.injEq, eq_comm]
  · simp [hc, bind, Except.bind]

end

end Writes

/-! ### Evidence as numbers -/

/-- The number an amount of a record stands for. -/
def amountOf : PositionGuardCandidateDecimal → ℚ
  | .number q => q
  | .text t => decimalValue t.toList

/-- A record with its amounts as numbers. -/
def numbersOf (item : PositionGuardCandidateExecutionEvidence) : NormalizedEvidence where
  evidenceId := item.evidenceId
  executedAt := item.executedAt
  action := item.action
  entryPath := item.entryPath
  terminalStatus := item.terminalStatus
  executedQuantity := amountOf item.executedQuantity
  grossQuoteValueKrw := amountOf item.grossQuoteValueKrw
  confirmedFeeKrw := amountOf item.confirmedFeeKrw
  remainingQuantity := amountOf item.remainingQuantity

variable {value : PositionGuardCandidateDecimal}

theorem parseCandidateDecimal_eq {q : ℚ} (h : parseCandidateDecimal value label = .ok q) :
    q = amountOf value := by
  unfold parseCandidateDecimal at h
  rcases value with _ | _
  all_goals
    dsimp only at h
    split_ifs at h
    exact (Except.ok.inj h).symm

variable {n : NormalizedEvidence}

theorem normalize_eq_numbersOf {item : PositionGuardCandidateExecutionEvidence}
    (h : normalizeExecutionEvidence item = .ok n) : n = numbersOf item := by
  unfold normalizeExecutionEvidence at h
  simp only [bind_eq_ok, Except.ok.injEq] at h
  obtain ⟨x, hx, g, hg, f, hf, r, hr, rfl⟩ := h
  rw [parseCandidateDecimal_eq hx, parseCandidateDecimal_eq hg, parseCandidateDecimal_eq hf,
    parseCandidateDecimal_eq hr]
  rfl

theorem writes_of_canonical {label text : String}
    (h : canonicalNonNegativeDecimal value label = .ok text) : Writes text (amountOf value) := by
  obtain ⟨t, rfl, hc, rfl⟩ := canonicalNonNegative_eq_ok.mp h
  refine ⟨_, rfl, ?_⟩
  rw [EvidenceDecimals.value_parse, routingNumber_of_canonical hc]
  rfl

/-! ### The relation between the two states -/

/-- The exact state writes the numbers of the routing state. -/
structure Tracks (exact : ExactCandidateState) (state : PositionGuardCandidateState) : Prop where
  cost : Writes exact.currentEpisodeCostBasisKrw state.currentEpisodeCostBasisKrw
  quantity : Writes exact.currentEpisodeInventoryQuantity state.currentEpisodeInventoryQuantity
  realized : Writes exact.currentEpisodeRealizedPnlKrw state.currentEpisodeRealizedPnlKrw
  exitPnl : Option.Rel Writes exact.lastFullExitRealizedPnlKrw state.lastFullExitRealizedPnlKrw
  addCount : exact.currentEpisodeAddCount = state.currentEpisodeAddCount
  exitAt : exact.lastFullExitAt = state.lastFullExitAt
  entryPath : exact.lastEntryPath = state.lastEntryPath
  evidenceAt : exact.lastEvidenceAt = state.lastEvidenceAt
  evidenceId : exact.lastEvidenceId = state.lastEvidenceId
  version : exact.stateVersion = state.stateVersion

theorem tracks_empty :
    Tracks createExactEmptyCandidateState createEmptyPositionGuardCandidateState :=
  ⟨.zero, .zero, .zero, .none, rfl, rfl, rfl, rfl, rfl, rfl⟩

variable {exact exact' : ExactCandidateState} {state : PositionGuardCandidateState}
  {item : PositionGuardCandidateExecutionEvidence}

/-! ### One record in the exact ledger -/

theorem value_exactQuantityTolerance : exactQuantityTolerance.value = quantityTolerance := by
  unfold exactQuantityTolerance
  rw [value_parse]
  decide +kernel

theorem advanceExact_eq_ok (h : advanceExactCandidateState exact item = .ok exact') :
    ∃ executed gross fee remaining, Writes executed (numbersOf item).executedQuantity ∧
      Writes gross (numbersOf item).grossQuoteValueKrw ∧
      Writes fee (numbersOf item).confirmedFeeKrw ∧
      Writes remaining (numbersOf item).remainingQuantity ∧
      assertExactChronology exact item = .ok () ∧
      (if executed = "0" then advanceNoFill exact remaining
        else advanceFill exact item executed gross fee remaining) = .ok exact' := by
  unfold advanceExactCandidateState at h
  simp only [bind_eq_ok] at h
  obtain ⟨executed, hx, gross, hg, fee, hf, remaining, hr, ⟨⟩, hchronology, hrest⟩ := h
  exact ⟨executed, gross, fee, remaining, writes_of_canonical hx, writes_of_canonical hg,
    writes_of_canonical hf, writes_of_canonical hr, hchronology, hrest⟩

theorem after_of_chronology (h : assertExactChronology exact item = .ok ()) :
    ∀ cursorAt ∈ exact.lastEvidenceAt, instant cursorAt < instant item.executedAt ∨
      (instant cursorAt = instant item.executedAt ∧
        Lib.Text.before (exact.lastEvidenceId.getD "") item.evidenceId = true) := by
  intro cursorAt hcursor
  unfold assertExactChronology at h
  rw [Option.mem_def.mp hcursor] at h
  simp only [parse_bind, throwIf_eq_ok] at h
  obtain ⟨-, -, horder⟩ := h
  push Not at horder
  obtain ⟨hle, hid⟩ := horder
  rcases hle.lt_or_eq with hlt | heq
  · exact Or.inl hlt
  · exact Or.inr ⟨heq, hid heq.symm⟩

theorem Tracks.afterCursor (ht : Tracks exact state)
    (h : assertExactChronology exact item = .ok ()) : AfterCursor state (numbersOf item) := by
  have hafter := after_of_chronology h
  rw [ht.evidenceAt, ht.evidenceId] at hafter
  exact hafter

variable {executed expected : String}

theorem derive_buy (ht : Tracks exact state) (hbuy : isBuyAction item.action = true)
    (hx : Writes executed (numbersOf item).executedQuantity)
    (h : deriveExactRemainingQuantity exact.currentEpisodeInventoryQuantity item.action executed =
      .ok expected) :
    Writes expected (state.currentEpisodeInventoryQuantity + (numbersOf item).executedQuantity) := by
  unfold deriveExactRemainingQuantity at h
  simp only [bind_eq_ok, if_pos hbuy, Except.ok.injEq] at h
  obtain ⟨current, hcurrent, traded, htraded, rfl⟩ := h
  refine ⟨_, rfl, ?_⟩
  rw [value_add, ht.quantity.parseNonNegative hcurrent, hx.parseNonNegative htraded]

/-- The remaining quantity after a sell: nothing if it is within the tolerance. -/
theorem derive_sell (ht : Tracks exact state) (hsell : isBuyAction item.action = false)
    (hx : Writes executed (numbersOf item).executedQuantity)
    (h : deriveExactRemainingQuantity exact.currentEpisodeInventoryQuantity item.action executed =
      .ok expected) :
    (numbersOf item).executedQuantity ≤ state.currentEpisodeInventoryQuantity + quantityTolerance ∧
      ((closesEpisode state (numbersOf item) = true ∧ expected = "0") ∨
        (closesEpisode state (numbersOf item) = false ∧ expected ≠ "0" ∧ Writes expected
          (state.currentEpisodeInventoryQuantity - (numbersOf item).executedQuantity))) := by
  have hnot : ¬ isBuyAction item.action = true := by rw [hsell]; decide
  unfold deriveExactRemainingQuantity at h
  simp only [bind_eq_ok, if_neg hnot, guard_eq_ok, compare_pos_iff, compare_nonpos_iff, value_add,
    value_abs, value_subtract, value_exactQuantityTolerance, not_lt] at h
  obtain ⟨current, hcurrent, traded, htraded, hle, hrest⟩ := h
  have hc : current.value = state.currentEpisodeInventoryQuantity :=
    ht.quantity.parseNonNegative hcurrent
  have ht' : traded.value = (numbersOf item).executedQuantity := hx.parseNonNegative htraded
  have hpos := quantityTolerance_pos
  rw [hc, ht'] at hle hrest
  refine ⟨hle, ?_⟩
  simp only [closesEpisode, decide_eq_true_eq, decide_eq_false_iff_not, not_le]
  split_ifs at hrest with hclose
  · exact Or.inl ⟨(le_abs_self _).trans hclose, (Except.ok.inj hrest).symm⟩
  · -- no more than the tolerance is oversold, so what is left is positive
    have hleft : quantityTolerance <
        state.currentEpisodeInventoryQuantity - (numbersOf item).executedQuantity := by
      rcases lt_abs.mp (not_le.mp hclose) with hlt | hlt
      · exact hlt
      · linarith
    have hwrites : Writes expected
        (state.currentEpisodeInventoryQuantity - (numbersOf item).executedQuantity) := by
      refine ⟨_, (Except.ok.inj hrest).symm, ?_⟩
      rw [value_subtract, hc, ht']
    refine Or.inr ⟨hleft, ?_, hwrites⟩
    rw [ne_eq, hwrites.eq_zero_iff]
    linarith

variable {remaining : String}

theorem closes_of_derived (h : (closesEpisode state (numbersOf item) = true ∧ remaining = "0") ∨
      (closesEpisode state (numbersOf item) = false ∧ remaining ≠ "0" ∧ Writes remaining
      (state.currentEpisodeInventoryQuantity - (numbersOf item).executedQuantity))) :
    (remaining = "0" ↔ closesEpisode state (numbersOf item) = true) ∧
      (remaining ≠ "0" → Writes remaining
        (state.currentEpisodeInventoryQuantity - (numbersOf item).executedQuantity)) := by
  rcases h with ⟨hc, hzero⟩ | ⟨hc, hzero, hwrites⟩
  · exact ⟨⟨fun _ => hc, fun _ => hzero⟩, fun hne => absurd hzero hne⟩
  · rw [hc]
    exact ⟨⟨fun h => absurd h hzero, fun h => absurd h (by decide)⟩, fun _ => hwrites⟩

/-- The numbers a fill is computed with. -/
structure FillReads (fill : ExactFill) (state : PositionGuardCandidateState)
    (n : NormalizedEvidence) : Prop where
  cost : fill.currentCost.value = state.currentEpisodeCostBasisKrw
  quantity : fill.currentQuantity.value = state.currentEpisodeInventoryQuantity
  realized : fill.currentPnl.value = state.currentEpisodeRealizedPnlKrw
  executed : fill.executed.value = n.executedQuantity
  gross : fill.gross.value = n.grossQuoteValueKrw
  fee : fill.fee.value = n.confirmedFeeKrw

variable {fill : ExactFill}

theorem parseFill_reads (ht : Tracks exact state) {executed gross fee : String}
    (hx : Writes executed (numbersOf item).executedQuantity)
    (hg : Writes gross (numbersOf item).grossQuoteValueKrw)
    (hf : Writes fee (numbersOf item).confirmedFeeKrw)
    (h : parseFill exact executed gross fee = .ok fill) :
    FillReads fill state (numbersOf item) := by
  unfold parseFill at h
  simp only [bind_eq_ok, Except.ok.injEq] at h
  obtain ⟨cost, hcost, quantity, hquantity, pnl, hpnl, x, hx', g, hg', f, hf', rfl⟩ := h
  exact ⟨ht.cost.parseNonNegative hcost, ht.quantity.parseNonNegative hquantity,
    ht.realized.parseSigned hpnl, hx.parseNonNegative hx', hg.parseNonNegative hg',
    hf.parseNonNegative hf'⟩

/-- The state after a fill has the cursor at the record. -/
def movedTo (next : ExactCandidateState) (item : PositionGuardCandidateExecutionEvidence) :
    ExactCandidateState :=
  { next with
    lastEvidenceAt := some item.executedAt
    lastEvidenceId := some item.evidenceId
    stateVersion := next.stateVersion + 1 }

theorem advanceFill_eq_ok {executed gross fee remaining : String}
    (h : advanceFill exact item executed gross fee remaining = .ok exact') :
    ∃ fill next, deriveExactRemainingQuantity exact.currentEpisodeInventoryQuantity item.action
        executed = .ok remaining ∧
      parseFill exact executed gross fee = .ok fill ∧
      (if isBuyAction item.action then exactBuy else exactSell) exact item fill remaining = .ok next ∧
      exact' = movedTo next item := by
  unfold advanceFill at h
  simp only [bind_eq_ok, throwIf_eq_ok, ne_eq, not_not, Except.ok.injEq] at h
  obtain ⟨expected, hderive, ⟨⟩, rfl, fill, hfill, next, hnext, rfl⟩ := h
  exact ⟨fill, next, hderive, hfill, hnext, rfl⟩

/-! ### The book -/

/-- What the records of an account add up to. -/
structure Book where
  quantity : ℚ
  cost : ℚ
  realized : ℚ
  adds : ℕ
  closed : Option ℚ

/-- A buy adds what it cost, and an `ADD` is counted. A sell after which nothing remains closes the
episode with its profit, any other one takes its share of the cost with it. -/
def Book.record (book : Book) (n : NormalizedEvidence) : Book :=
  if n.executedQuantity = 0 then book
  else if isBuyAction n.action then
    { book with
      quantity := n.remainingQuantity
      cost := book.cost + (n.grossQuoteValueKrw + n.confirmedFeeKrw)
      adds := if n.action = .add then book.adds + 1 else book.adds }
  else if n.remainingQuantity = 0 then
    { quantity := 0, cost := 0, realized := 0, adds := 0
      closed := some (book.realized + n.grossQuoteValueKrw - n.confirmedFeeKrw - book.cost) }
  else
    let removed := book.cost * (n.executedQuantity / book.quantity)
    { book with
      quantity := n.remainingQuantity
      cost := book.cost - removed
      realized := book.realized + n.grossQuoteValueKrw - n.confirmedFeeKrw - removed }

/-- The book of a routing state. -/
def bookOf (state : PositionGuardCandidateState) : Book where
  quantity := state.currentEpisodeInventoryQuantity
  cost := state.currentEpisodeCostBasisKrw
  realized := state.currentEpisodeRealizedPnlKrw
  adds := state.currentEpisodeAddCount
  closed := state.lastFullExitRealizedPnlKrw

/-- The record leaves something, but no more than the tolerance. -/
def LeavesDust (n : NormalizedEvidence) : Prop :=
  0 < n.remainingQuantity ∧ n.remainingQuantity ≤ quantityTolerance

instance (n : NormalizedEvidence) : Decidable (LeavesDust n) := by
  unfold LeavesDust
  infer_instance

/-! ### One record in both ledgers -/

/-- What a record does to two states that track each other: without dust, the routing ledger takes
it and the new states track each other; with dust, it refuses the record. -/
structure StepAgrees (exact' : ExactCandidateState) (state : PositionGuardCandidateState)
    (n : NormalizedEvidence) : Prop where
  clean : ¬ LeavesDust n → ∃ state', advanceValidatedPositionGuardCandidateState state n = .ok state' ∧
    Tracks exact' state' ∧ Valid state' ∧ bookOf state' = (bookOf state).record n ∧
    state'.stateVersion ≤ state.stateVersion + 1
  dust : LeavesDust n → ∀ state', advanceValidatedPositionGuardCandidateState state n ≠ .ok state'

theorem stepAgrees_noFill (ht : Tracks exact state) (hs : Valid state)
    (he : EvidenceValid (numbersOf item)) (hafter : AfterCursor state (numbersOf item))
    (h0 : (numbersOf item).executedQuantity = 0)
    (hr : Writes remaining (numbersOf item).remainingQuantity)
    (h : advanceNoFill exact remaining = .ok exact') :
    StepAgrees exact' state (numbersOf item) := by
  unfold advanceNoFill at h
  simp only [then_eq_ok, throwIf_eq_ok, ne_eq, not_not, Except.ok.injEq] at h
  obtain ⟨hsame, rfl⟩ := h
  have hrest : (numbersOf item).remainingQuantity = state.currentEpisodeInventoryQuantity :=
    (hr.eq_iff ht.quantity).mp hsame
  have hclean : ¬ LeavesDust (numbersOf item) := by
    rintro ⟨hpos, hle⟩
    rw [hrest] at hpos hle
    rcases hs.quantity_cases with hq | hq
    · exact hpos.ne' hq
    · exact absurd hle (not_le.mpr hq)
  refine ⟨fun _ => ⟨state, ?_, ht, hs, ?_, Nat.le_succ _⟩, fun hdust => absurd hdust hclean⟩
  · rw [advance_noFill_eq_ok hs he h0]
    refine ⟨hafter, ?_, rfl⟩
    rw [hrest, sub_self, abs_zero]
    exact quantityTolerance_pos.le
  · simp [Book.record, h0]

variable {next : ExactCandidateState}

theorem exactBuy_eq_ok (ht : Tracks exact state)
    (h : exactBuy exact item fill remaining = .ok next) :
    (item.action = .enter → state.currentEpisodeInventoryQuantity = 0) ∧
      (item.action = .add → state.currentEpisodeInventoryQuantity ≠ 0) ∧
      next = { exact with
        currentEpisodeInventoryQuantity := remaining
        currentEpisodeCostBasisKrw := formatExactDecimal
          (addExactDecimals fill.currentCost (addExactDecimals fill.gross fill.fee))
        lastEntryPath := if item.action = .enter then some item.entryPath else exact.lastEntryPath
        currentEpisodeAddCount := if item.action = .add then exact.currentEpisodeAddCount + 1
          else exact.currentEpisodeAddCount } := by
  unfold exactBuy at h
  simp only [guard_eq_ok, not_and, not_not, ht.quantity.eq_zero_iff, ne_eq, Except.ok.injEq] at h
  exact ⟨h.1, h.2.1, h.2.2.symm⟩

theorem tracks_buy (ht : Tracks exact state) (hbuy : isBuyAction item.action = true)
    (hfill : FillReads fill state (numbersOf item)) (hrest : Writes remaining
      (state.currentEpisodeInventoryQuantity + (numbersOf item).executedQuantity))
    (h : exactBuy exact item fill remaining = .ok next) :
    Tracks (movedTo next item) (afterFill state (numbersOf item)) := by
  obtain ⟨-, -, rfl⟩ := exactBuy_eq_ok ht h
  rw [afterFill_buy hbuy]
  refine ⟨⟨_, rfl, ?_⟩, hrest, ht.realized, ht.exitPnl, ?_, ht.exitAt, ?_, rfl, rfl, ?_⟩
  · simp [moveCursor, applyBuyEvidence, hfill.cost, hfill.gross, hfill.fee]
  · simp only [ht.addCount]
    rfl
  · simp only [ht.entryPath]
    rfl
  · simp [movedTo, moveCursor, applyBuyEvidence, ht.version]

theorem book_afterFill_buy (h0 : n.executedQuantity ≠ 0) (hbuy : isBuyAction n.action = true)
    (hremaining : n.remainingQuantity = state.currentEpisodeInventoryQuantity + n.executedQuantity) :
    bookOf (afterFill state n) = (bookOf state).record n := by
  rw [afterFill_buy hbuy]
  simp [bookOf, Book.record, h0, hbuy, moveCursor, applyBuyEvidence, hremaining]

theorem stepAgrees_buy (ht : Tracks exact state) (hs : Valid state)
    (hversion : state.stateVersion < maxSafeInteger) (he : EvidenceValid (numbersOf item))
    (hafter : AfterCursor state (numbersOf item)) (h0 : (numbersOf item).executedQuantity ≠ 0)
    (hbuy : isBuyAction item.action = true) (hfill : FillReads fill state (numbersOf item))
    (hr : Writes remaining (numbersOf item).remainingQuantity) (hrest : Writes remaining
      (state.currentEpisodeInventoryQuantity + (numbersOf item).executedQuantity))
    (h : exactBuy exact item fill remaining = .ok next) :
    StepAgrees (movedTo next item) state (numbersOf item) := by
  obtain ⟨henter, hadd, -⟩ := exactBuy_eq_ok ht h
  have hbuy' : isBuyAction (numbersOf item).action = true := hbuy
  have hremaining : (numbersOf item).remainingQuantity =
      state.currentEpisodeInventoryQuantity + (numbersOf item).executedQuantity :=
    (hr.eq_iff hrest).mp rfl
  have hpositive : 0 < (numbersOf item).executedQuantity := lt_of_le_of_ne he.executed (Ne.symm h0)
  have hquantity := hs.episode.nonneg.1
  constructor
  · intro hclean
    have hopen : quantityTolerance <
        state.currentEpisodeInventoryQuantity + (numbersOf item).executedQuantity := by
      by_contra hle
      refine hclean ⟨?_, ?_⟩
      · linarith
      · linarith
    have hlife : LifecycleOk state (numbersOf item) := by
      unfold LifecycleOk
      rw [show (numbersOf item).action = item.action from rfl]
      cases haction : item.action with
      | enter => exact henter haction
      | add => exact hs.quantity_cases.resolve_left (hadd haction)
      | reduce => rw [haction] at hbuy; cases hbuy
      | exit => rw [haction] at hbuy; cases hbuy
    have hvalid := valid_afterFill hs he h0 hversion hafter hlife fun _ => hopen
    refine ⟨afterFill state (numbersOf item), ?_, ?_, hvalid, ?_, ?_⟩
    · rw [advance_fill_eq_ok hs he h0]
      refine ⟨hafter, hlife, ?_, hvalid, rfl⟩
      simp only [applyEvidence, hbuy', if_true, applyBuyEvidence, ← hremaining, sub_self, abs_zero]
      exact quantityTolerance_pos.le
    · exact tracks_buy ht hbuy hfill hrest h
    · exact book_afterFill_buy h0 hbuy' hremaining
    · rw [afterFill_buy hbuy']
      simp [moveCursor, applyBuyEvidence]
  · rintro ⟨hpos, hle⟩ state' hok
    rw [advance_fill_eq_ok hs he h0] at hok
    obtain ⟨-, -, -, hvalid, -⟩ := hok
    rw [afterFill_buy hbuy'] at hvalid
    have hafterQuantity : (moveCursor (applyBuyEvidence state (numbersOf item))
        (numbersOf item)).currentEpisodeInventoryQuantity = (numbersOf item).remainingQuantity :=
      hremaining.symm
    rcases hvalid.quantity_cases with hq | hq
    · rw [hafterQuantity] at hq
      exact hpos.ne' hq
    · rw [hafterQuantity] at hq
      exact absurd hle (not_le.mpr hq)

theorem exactSell_eq_ok (h : exactSell exact item fill remaining = .ok next) :
    exact.currentEpisodeInventoryQuantity ≠ "0" ∧
      ∃ removed, exactRemovedCost fill remaining = .ok removed ∧
        next = if remaining = "0" then
          { exact with
            currentEpisodeAddCount := 0
            currentEpisodeCostBasisKrw := "0"
            currentEpisodeInventoryQuantity := "0"
            currentEpisodeRealizedPnlKrw := "0"
            lastFullExitAt := some item.executedAt
            lastFullExitRealizedPnlKrw := some (formatExactDecimal (exactRealized fill removed)) }
        else
          { exact with
            currentEpisodeCostBasisKrw :=
              formatExactDecimal (subtractExactDecimals fill.currentCost removed)
            currentEpisodeInventoryQuantity := remaining
            currentEpisodeRealizedPnlKrw := formatExactDecimal (exactRealized fill removed) } := by
  unfold exactSell at h
  simp only [bind_eq_ok, throwIf_eq_ok] at h
  obtain ⟨⟨⟩, hopen, removed, hremoved, hnext⟩ := h
  refine ⟨hopen, removed, hremoved, ?_⟩
  split_ifs at hnext ⊢
  · exact (Except.ok.inj hnext).symm
  · exact (Except.ok.inj hnext).symm

variable {removed : ExactDecimal}

theorem value_exactRealized (hfill : FillReads fill state n)
    (hremoved : removed.value = removedCost state n) :
    (exactRealized fill removed).value = realizedPnl state n := by
  unfold exactRealized realizedPnl
  rw [value_subtract, value_add, value_subtract, hfill.realized, hfill.gross, hfill.fee, hremoved]
  ring

theorem value_exactRemovedCost (hfill : FillReads fill state n)
    (hopen : 0 < state.currentEpisodeInventoryQuantity)
    (hclose : remaining = "0" ↔ closesEpisode state n = true)
    (h : exactRemovedCost fill remaining = .ok removed) : removed.value = removedCost state n := by
  unfold exactRemovedCost at h
  unfold removedCost
  by_cases hc : closesEpisode state n = true
  · rw [if_pos (hclose.mpr hc)] at h
    rw [if_pos hc, ← Except.ok.inj h, hfill.cost]
  · rw [if_neg (fun hzero => hc (hclose.mp hzero))] at h
    rw [if_neg hc, value_divide h, value_multiply, hfill.cost, hfill.executed, hfill.quantity,
      abs_of_pos hopen]
    ring

theorem tracks_sell (ht : Tracks exact state) (hsell : isBuyAction item.action = false)
    (hfill : FillReads fill state (numbersOf item))
    (hopen : 0 < state.currentEpisodeInventoryQuantity)
    (hclose : remaining = "0" ↔ closesEpisode state (numbersOf item) = true)
    (hrest : remaining ≠ "0" → Writes remaining
      (state.currentEpisodeInventoryQuantity - (numbersOf item).executedQuantity))
    (h : exactSell exact item fill remaining = .ok next) :
    Tracks (movedTo next item) (afterFill state (numbersOf item)) := by
  obtain ⟨-, removed, hremoved, rfl⟩ := exactSell_eq_ok h
  have hcost := value_exactRemovedCost hfill hopen hclose hremoved
  have hpnl := value_exactRealized hfill hcost
  have hversion : exact.stateVersion + 1 = state.stateVersion + 1 := by rw [ht.version]
  rw [afterFill_sell hsell]
  unfold applySellEvidence
  by_cases hc : closesEpisode state (numbersOf item) = true
  · simp only [if_pos hc, if_pos (hclose.mpr hc)]
    exact ⟨.zero, .zero, .zero, .some ⟨_, rfl, hpnl⟩, rfl, rfl, ht.entryPath, rfl, rfl, hversion⟩
  · have hzero : remaining ≠ "0" := fun hzero => hc (hclose.mp hzero)
    simp only [if_neg hc, if_neg hzero]
    refine ⟨⟨_, rfl, ?_⟩, hrest hzero, ⟨_, rfl, hpnl⟩, ht.exitPnl, ht.addCount, ht.exitAt,
      ht.entryPath, rfl, rfl, hversion⟩
    rw [value_subtract, hfill.cost, hcost]
    rfl

theorem book_afterFill_sell (h0 : n.executedQuantity ≠ 0) (hsell : isBuyAction n.action = false)
    (hremaining : (applyEvidence state n).2 = n.remainingQuantity)
    (hzero : n.remainingQuantity = 0 ↔ closesEpisode state n = true) :
    bookOf (afterFill state n) = (bookOf state).record n := by
  have hnot : ¬ isBuyAction n.action = true := by rw [hsell]; decide
  rw [afterFill_sell hsell]
  unfold Book.record applySellEvidence
  rw [if_neg h0, if_neg hnot]
  by_cases hc : closesEpisode state n = true
  · rw [if_pos hc, if_pos (hzero.mpr hc)]
    simp [bookOf, moveCursor, realizedPnl, removedCost, hc]
  · rw [if_neg hc, if_neg (fun h => hc (hzero.mp h)), ← hremaining]
    simp [bookOf, moveCursor, realizedPnl, removedCost, hc, applyEvidence, hsell]

theorem remaining_of_derived (hsell : isBuyAction (numbersOf item).action = false)
    (hr : Writes remaining (numbersOf item).remainingQuantity)
    (hclose : remaining = "0" ↔ closesEpisode state (numbersOf item) = true)
    (hrest : remaining ≠ "0" → Writes remaining
      (state.currentEpisodeInventoryQuantity - (numbersOf item).executedQuantity)) :
    (applyEvidence state (numbersOf item)).2 = (numbersOf item).remainingQuantity := by
  simp only [applyEvidence, hsell, Bool.false_eq_true, if_false]
  by_cases hc : closesEpisode state (numbersOf item) = true
  · rw [if_pos hc]
    exact (hr.eq_zero_iff.mp (hclose.mpr hc)).symm
  · rw [if_neg hc]
    exact ((hrest fun hzero => hc (hclose.mp hzero)).eq_iff hr).mp rfl

section

variable (ht : Tracks exact state) (hs : Valid state)
  (hversion : state.stateVersion < maxSafeInteger) (he : EvidenceValid (numbersOf item))
include ht hs hversion he

theorem stepAgrees_sell (hafter : AfterCursor state (numbersOf item))
    (h0 : (numbersOf item).executedQuantity ≠ 0) (hsell : isBuyAction item.action = false)
    {executed remaining : String} (hfill : FillReads fill state (numbersOf item))
    (hx : Writes executed (numbersOf item).executedQuantity)
    (hr : Writes remaining (numbersOf item).remainingQuantity)
    (hderive : deriveExactRemainingQuantity exact.currentEpisodeInventoryQuantity item.action
      executed = .ok remaining) (h : exactSell exact item fill remaining = .ok next) :
    StepAgrees (movedTo next item) state (numbersOf item) := by
  have hsell' : isBuyAction (numbersOf item).action = false := hsell
  have hopen : quantityTolerance < state.currentEpisodeInventoryQuantity := by
    refine hs.quantity_cases.resolve_left fun hflat => (exactSell_eq_ok h).1 ?_
    rw [ht.quantity.eq_zero_iff]
    exact hflat
  obtain ⟨hle, hderived⟩ := derive_sell ht hsell hx hderive
  obtain ⟨hclose, hrest⟩ := closes_of_derived hderived
  have hremaining := remaining_of_derived hsell' hr hclose hrest
  have hlife : LifecycleOk state (numbersOf item) := by
    unfold LifecycleOk
    rw [show (numbersOf item).action = item.action from rfl]
    cases haction : item.action with
    | enter => rw [haction] at hsell; cases hsell
    | add => rw [haction] at hsell; cases hsell
    | reduce => exact ⟨hopen, hle⟩
    | exit => exact ⟨hopen, hle⟩
  have hvalid := valid_afterFill_sell hs he hversion hafter hsell' hopen
  have hzero : (numbersOf item).remainingQuantity = 0 ↔
      closesEpisode state (numbersOf item) = true := by rw [← hclose, hr.eq_zero_iff]
  have hclean : ¬ LeavesDust (numbersOf item) := by
    rintro ⟨hpos, hdust⟩
    have hc : ¬ closesEpisode state (numbersOf item) = true := fun hc => hpos.ne' (hzero.mpr hc)
    rw [← hremaining] at hdust
    simp only [applyEvidence, hsell', Bool.false_eq_true, if_false, if_neg hc] at hdust
    exact hc (by simpa [closesEpisode] using hdust)
  refine ⟨fun _ => ⟨afterFill state (numbersOf item), ?_, ?_, hvalid, ?_, ?_⟩,
    fun hdust => absurd hdust hclean⟩
  · rw [advance_fill_eq_ok hs he h0, hremaining, sub_self, abs_zero]
    exact ⟨hafter, hlife, quantityTolerance_pos.le, hvalid, rfl⟩
  · exact tracks_sell ht hsell hfill (quantityTolerance_pos.trans hopen) hclose hrest h
  · exact book_afterFill_sell h0 hsell' hremaining hzero
  · rw [afterFill_sell hsell']
    unfold applySellEvidence
    split_ifs <;> exact le_rfl

theorem stepAgrees (h : advanceExactCandidateState exact item = .ok exact') :
    StepAgrees exact' state (numbersOf item) := by
  obtain ⟨executed, gross, fee, remaining, hx, hg, hf, hr, hchronology, hrest⟩ :=
    advanceExact_eq_ok h
  have hafter := ht.afterCursor hchronology
  by_cases hzero : executed = "0"
  · rw [if_pos hzero] at hrest
    exact stepAgrees_noFill ht hs he hafter (hx.eq_zero_iff.mp hzero) hr hrest
  · rw [if_neg hzero] at hrest
    have h0 : (numbersOf item).executedQuantity ≠ 0 := fun h => hzero (hx.eq_zero_iff.mpr h)
    obtain ⟨fill, next, hderive, hparse, hnext, rfl⟩ := advanceFill_eq_ok hrest
    have hfill := parseFill_reads ht hx hg hf hparse
    cases haction : isBuyAction item.action with
    | true =>
      rw [haction, if_pos rfl] at hnext
      exact stepAgrees_buy ht hs hversion he hafter h0 haction hfill hr
        (derive_buy ht haction hx hderive) hnext
    | false =>
      rw [haction, if_neg (by decide)] at hnext
      exact stepAgrees_sell ht hs hversion he hafter h0 haction hfill hx hr hderive hnext

end

/-! ### All records -/

variable {items : List PositionGuardCandidateExecutionEvidence}

theorem run_agrees (ht : Tracks exact state) (hs : Valid state)
    (hversion : state.stateVersion + items.length ≤ maxSafeInteger)
    (he : ∀ item ∈ items, EvidenceValid (numbersOf item))
    (h : items.foldlM advanceExactCandidateState exact = .ok exact') :
    ((∀ item ∈ items, ¬ LeavesDust (numbersOf item)) → ∃ state',
      (items.map numbersOf).foldlM advanceValidatedPositionGuardCandidateState state = .ok state' ∧
        Tracks exact' state' ∧ Valid state' ∧
        bookOf state' = (items.map numbersOf).foldl Book.record (bookOf state)) ∧
    ((∃ item ∈ items, LeavesDust (numbersOf item)) → ∀ state',
      (items.map numbersOf).foldlM advanceValidatedPositionGuardCandidateState state ≠ .ok state') := by
  induction items generalizing exact state with
  | nil =>
    rw [List.foldlM_nil] at h
    cases h
    exact ⟨fun _ => ⟨state, rfl, ht, hs, rfl⟩, by simp⟩
  | cons item rest ih =>
    rw [List.foldlM_cons, bind_eq_ok] at h
    obtain ⟨middle, hstep, hrest⟩ := h
    rw [List.length_cons] at hversion
    have hagree := stepAgrees ht hs (by omega) (he item List.mem_cons_self) hstep
    simp only [List.map_cons, List.foldlM_cons, List.foldl_cons]
    by_cases hdust : LeavesDust (numbersOf item)
    · refine ⟨fun hall => absurd hdust (hall item List.mem_cons_self), fun _ state' hok => ?_⟩
      obtain ⟨next, hnext, -⟩ := bind_eq_ok.mp hok
      exact hagree.dust hdust next hnext
    · obtain ⟨next, hnext, htracks, hvalid, hbook, hle⟩ := hagree.clean hdust
      obtain ⟨hclean, hdirty⟩ := ih htracks hvalid (by omega)
        (fun other hmem => he other (List.mem_cons_of_mem _ hmem)) hrest
      rw [hnext, ← hbook]
      constructor
      · intro hall
        exact hclean fun other hmem => hall other (List.mem_cons_of_mem _ hmem)
      · rintro ⟨other, hmem, hother⟩
        rcases List.mem_cons.mp hmem with rfl | hmem
        · exact absurd hother hdust
        · exact hdirty ⟨other, hmem, hother⟩

/-- The records in the order in which both ledgers take them. -/
def chronological (evidence : List PositionGuardCandidateExecutionEvidence) :
    List PositionGuardCandidateExecutionEvidence :=
  ((evidence.map fun item => OrderedEvidence.mk item (instant item.executedAt)).insertionSort
    fun a b => a.le b).map OrderedEvidence.evidence

variable {evidence : List PositionGuardCandidateExecutionEvidence}

theorem mem_chronological : item ∈ chronological evidence ↔ item ∈ evidence := by
  simp [chronological, List.mem_insertionSort]

theorem length_chronological (evidence : List PositionGuardCandidateExecutionEvidence) :
    (chronological evidence).length = evidence.length := by
  simp [chronological, List.length_insertionSort]

theorem orderExactEvidence_eq {ordered : List (OrderedEvidence PositionGuardCandidateDecimal)}
    (h : orderExactEvidence evidence = .ok ordered) :
    ordered = evidence.map fun item => OrderedEvidence.mk item (instant item.executedAt) := by
  induction evidence generalizing ordered with
  | nil => exact (Except.ok.inj h).symm
  | cons item rest ih =>
    unfold orderExactEvidence at h
    rw [parse_bind, bind_eq_ok] at h
    obtain ⟨-, tail, htail, hordered⟩ := h
    rw [← Except.ok.inj hordered, ih htail]
    rfl

theorem projectExact_eq_ok (h : projectExactCandidateState evidence = .ok exact) :
    (chronological evidence).foldlM advanceExactCandidateState createExactEmptyCandidateState =
      .ok exact := by
  unfold projectExactCandidateState at h
  obtain ⟨ordered, hordered, hrun⟩ := bind_eq_ok.mp h
  rw [orderExactEvidence_eq hordered] at hrun
  unfold chronological
  rw [List.foldlM_map]
  exact hrun

/-! ### Every state of the exact ledger -/

/-- The exact ledger keeps to sound states, also where the routing ledger rejects the record, and adds
the record to its book. -/
theorem booked_advance (ht : Tracks exact state) (hs : Sound state)
    (he : EvidenceValid (numbersOf item)) (h : advanceExactCandidateState exact item = .ok exact') :
    ∃ state', Tracks exact' state' ∧ Sound state' ∧
      bookOf state' = (bookOf state).record (numbersOf item) := by
  obtain ⟨executed, gross, fee, remaining, hx, hg, hf, hr, hchronology, hrest⟩ :=
    advanceExact_eq_ok h
  have hafter := ht.afterCursor hchronology
  by_cases hzero : executed = "0"
  · have h0 : (numbersOf item).executedQuantity = 0 := hx.eq_zero_iff.mp hzero
    rw [if_pos hzero] at hrest
    unfold advanceNoFill at hrest
    obtain ⟨-, -, hsame⟩ := bind_eq_ok.mp hrest
    rw [← Except.ok.inj hsame]
    exact ⟨state, ht, hs, by simp [Book.record, h0]⟩
  · have h0 : (numbersOf item).executedQuantity ≠ 0 := fun hq => hzero (hx.eq_zero_iff.mpr hq)
    rw [if_neg hzero] at hrest
    obtain ⟨fill, next, hderive, hparse, hnext, rfl⟩ := advanceFill_eq_ok hrest
    have hfill := parseFill_reads ht hx hg hf hparse
    have hopen : state.currentEpisodeInventoryQuantity ≠ 0 →
        0 < state.currentEpisodeInventoryQuantity :=
      fun hne => lt_of_le_of_ne hs.quantity_nonneg (Ne.symm hne)
    refine ⟨afterFill state (numbersOf item), ?_⟩
    cases haction : isBuyAction item.action with
    | true =>
      rw [if_pos haction] at hnext
      obtain ⟨henter, hadd, -⟩ := exactBuy_eq_ok ht hnext
      have hbought := derive_buy ht haction hx hderive
      refine ⟨tracks_buy ht haction hfill hbought hnext, ?_,
        book_afterFill_buy h0 haction ((hr.eq_iff hbought).mp rfl)⟩
      refine sound_afterFill hs he h0 hafter ?_
      show if item.action = .enter then _ else _
      split_ifs with hentry
      · exact henter hentry
      · have hadds : item.action = .add := by
          revert haction hentry
          cases item.action <;> simp [isBuyAction]
        exact hopen (hadd hadds)
    | false =>
      rw [if_neg (by rw [haction]; decide)] at hnext
      have hpos : 0 < state.currentEpisodeInventoryQuantity :=
        hopen fun hflat => (exactSell_eq_ok hnext).1 (ht.quantity.eq_zero_iff.mpr hflat)
      obtain ⟨hclose, hleft⟩ := closes_of_derived (derive_sell ht haction hx hderive).2
      have hclosed : (numbersOf item).remainingQuantity = 0 ↔
          closesEpisode state (numbersOf item) = true := by rw [← hclose, hr.eq_zero_iff]
      exact ⟨tracks_sell ht haction hfill hpos hclose hleft hnext,
        sound_afterFill_sell hs he hafter haction hpos,
        book_afterFill_sell h0 haction (remaining_of_derived haction hr hclose hleft) hclosed⟩

theorem booked_run (ht : Tracks exact state) (hs : Sound state)
    (he : ∀ item ∈ items, EvidenceValid (numbersOf item))
    (h : items.foldlM advanceExactCandidateState exact = .ok exact') :
    ∃ state', Tracks exact' state' ∧ Sound state' ∧
      bookOf state' = (items.map numbersOf).foldl Book.record (bookOf state) := by
  induction items generalizing exact state with
  | nil =>
    rw [← Except.ok.inj h]
    exact ⟨state, ht, hs, rfl⟩
  | cons item rest ih =>
    rw [List.foldlM_cons, bind_eq_ok] at h
    obtain ⟨middle, hstep, hrest⟩ := h
    obtain ⟨next, htracks, hsound, hbook⟩ := booked_advance ht hs (he item List.mem_cons_self) hstep
    rw [List.map_cons, List.foldl_cons, ← hbook]
    exact ih htracks hsound (fun other hmem => he other (List.mem_cons_of_mem _ hmem)) hrest

theorem sound_project (he : ∀ item ∈ evidence, EvidenceValid (numbersOf item))
    (h : projectExactCandidateState evidence = .ok exact) :
    ∃ state, Tracks exact state ∧ Sound state := by
  obtain ⟨state, htracks, hsound, -⟩ := booked_run tracks_empty sound_empty
    (fun item hmem => he item (mem_chronological.mp hmem)) (projectExact_eq_ok h)
  exact ⟨state, htracks, hsound⟩

/-- The record normalizes and is valid, as the routing ledger demands of each record. -/
def PassesValidation (item : PositionGuardCandidateExecutionEvidence) : Prop :=
  ∃ n, normalizeExecutionEvidence item = .ok n ∧ validateExecutionEvidence n = .ok ()

theorem PassesValidation.normalize (h : PassesValidation item) :
    normalizeExecutionEvidence item = .ok (numbersOf item) ∧
      validateExecutionEvidence (numbersOf item) = .ok () := by
  obtain ⟨n, hn, hvalid⟩ := h
  obtain rfl := normalize_eq_numbersOf hn
  exact ⟨hn, hvalid⟩

theorem PassesValidation.valid (h : PassesValidation item) : EvidenceValid (numbersOf item) :=
  validateExecutionEvidence_eq_ok.mp h.normalize.2

theorem orderEvidence_eq (hvalid : ∀ item ∈ evidence, PassesValidation item)
    (hids : (evidence.map (·.evidenceId)).Nodup) {seen : List String}
    (hseen : ∀ item ∈ evidence, item.evidenceId ∉ seen) :
    orderEvidence seen evidence = .ok (evidence.map fun item =>
      OrderedEvidence.mk (numbersOf item) (instant item.executedAt)) := by
  induction evidence generalizing seen with
  | nil => rfl
  | cons item rest ih =>
    obtain ⟨hn, hv⟩ := (hvalid item List.mem_cons_self).normalize
    have hparses := (hvalid item List.mem_cons_self).valid.parses
    rw [List.map_cons, List.nodup_cons] at hids
    unfold orderEvidence
    rw [bind_eq_ok]
    refine ⟨_, hn, ?_⟩
    rw [then_eq_ok, then_eq_ok, throwIf_eq_ok, parse_bind, bind_eq_ok]
    refine ⟨hv, hseen item List.mem_cons_self, hparses, _, ?_, rfl⟩
    refine ih (fun other hmem => hvalid other (List.mem_cons_of_mem _ hmem)) hids.2 ?_
    intro other hmem hin
    rcases List.mem_cons.mp hin with heq | hin
    · exact hids.1 (List.mem_map.mpr ⟨other, hmem, heq⟩)
    · exact hseen other (List.mem_cons_of_mem _ hmem) hin

theorem insertionSort_numbersOf (evidence : List PositionGuardCandidateExecutionEvidence) :
    (evidence.map fun item => OrderedEvidence.mk (numbersOf item) (instant item.executedAt)).insertionSort
        (fun a b => a.le b) =
      ((evidence.map fun item => OrderedEvidence.mk item (instant item.executedAt)).insertionSort
        fun a b => a.le b).map fun o => OrderedEvidence.mk (numbersOf o.evidence) o.epochNanoseconds := by
  have hsort := List.map_insertionSort
    (fun a b : OrderedEvidence PositionGuardCandidateDecimal => a.le b = true)
    (fun a b : OrderedEvidence ℚ => a.le b = true)
    (fun o => OrderedEvidence.mk (numbersOf o.evidence) o.epochNanoseconds)
    (evidence.map fun item => OrderedEvidence.mk item (instant item.executedAt))
    (fun a _ b _ => Iff.rfl)
  rw [hsort, List.map_map]
  rfl

theorem projectRouting_eq (hvalid : ∀ item ∈ evidence, PassesValidation item)
    (hids : (evidence.map (·.evidenceId)).Nodup) :
    projectPositionGuardCandidateState createEmptyPositionGuardCandidateState evidence =
      ((chronological evidence).map numbersOf).foldlM advanceValidatedPositionGuardCandidateState
        createEmptyPositionGuardCandidateState := by
  have hordered : orderEvidence
      createEmptyPositionGuardCandidateState.lastEvidenceId.toList evidence = _ :=
    orderEvidence_eq hvalid hids (by simp [createEmptyPositionGuardCandidateState])
  unfold projectPositionGuardCandidateState chronological
  rw [validateStateSnapshot_eq_ok.mpr valid_empty, hordered, ok_bind, ok_bind,
    insertionSort_numbersOf, List.map_map, List.foldlM_map, List.foldlM_map]
  rfl

/-! ### Back to the routing ledger -/

/-- The signed grammar reads the number back. -/
def ReadsBack (q : ℚ) : Prop := q = 0 ∨ 1 ≤ |q|

variable {text : Option String}

variable {number : ℚ → Option ℚ}

theorem finiteRoutingNumber_eq_ok {value : String} {q : ℚ} :
    finiteRoutingNumber number value label = .ok q ↔ number (routingNumber value) = some q := by
  unfold finiteRoutingNumber
  cases number (routingNumber value) <;> simp

theorem readExit_eq_ok {pnl : Option ℚ} (h : Option.Rel Writes text pnl) {out : Option ℚ} :
    (text.mapM fun value => do
        let fullExit ← canonicalSignedDecimal value "candidate exact full-exit pnl"
        finiteRoutingNumber number fullExit "candidate exact full-exit pnl") = .ok out ↔
      (∀ q ∈ pnl, ReadsBack q) ∧ pnl.mapM number = some out := by
  cases h with
  | none =>
    rw [Option.mapM_none, Option.mapM_none]
    simp [pure, Except.pure]
  | @some t q hw =>
    show ((canonicalSignedDecimal t _ >>= fun fullExit => finiteRoutingNumber number fullExit _) >>=
      fun value => Except.ok (some value)) = .ok out ↔ _ ∧ some <$> number q = some out
    simp only [bind_eq_ok, hw.canonicalSigned_eq_ok, finiteRoutingNumber_eq_ok, Option.mem_some_iff,
      forall_eq', Option.map_eq_map, Option.map_eq_some_iff, Except.ok.injEq]
    constructor
    · rintro ⟨result, ⟨value, ⟨hback, rfl⟩, hresult⟩, hout⟩
      rw [hw.routingNumber_eq] at hresult
      exact ⟨hback, result, hresult, hout⟩
    · rintro ⟨hback, result, hresult, hout⟩
      exact ⟨result, ⟨t, ⟨hback, rfl⟩, by rw [hw.routingNumber_eq, hresult]⟩, hout⟩

/-- A state with its numbers read. -/
def readNumbers (number : ℚ → Option ℚ) (state : PositionGuardCandidateState) :
    Option PositionGuardCandidateState := do
  let currentEpisodeCostBasisKrw ← number state.currentEpisodeCostBasisKrw
  let currentEpisodeInventoryQuantity ← number state.currentEpisodeInventoryQuantity
  let currentEpisodeRealizedPnlKrw ← number state.currentEpisodeRealizedPnlKrw
  let lastFullExitRealizedPnlKrw ← state.lastFullExitRealizedPnlKrw.mapM number
  some { state with currentEpisodeCostBasisKrw, currentEpisodeInventoryQuantity,
                    currentEpisodeRealizedPnlKrw, lastFullExitRealizedPnlKrw }

variable {result : PositionGuardCandidateState}

/-- The routing state of an exact state: the one it tracks with its numbers read, if that is valid and
the profits can be read back. -/
theorem routingStateOf_iff (ht : Tracks exact state)
    (hquantity : 0 ≤ state.currentEpisodeInventoryQuantity)
    (hcost : 0 ≤ state.currentEpisodeCostBasisKrw) :
    routingStateOf number exact = .ok result ↔
      (ReadsBack state.currentEpisodeRealizedPnlKrw ∧
        ∀ pnl ∈ state.lastFullExitRealizedPnlKrw, ReadsBack pnl) ∧
      readNumbers number state = some result ∧ Valid result := by
  unfold routingStateOf readNumbers
  rw [ht.cost.canonicalNonNegative hcost, ok_bind]
  simp only [bind_eq_ok, ht.quantity.canonicalNonNegative hquantity, Except.ok.injEq,
    finiteRoutingNumber_eq_ok, ht.realized.canonicalSigned_eq_ok, readExit_eq_ok ht.exitPnl,
    Option.bind_eq_bind, Option.bind_eq_some_iff, Option.some.injEq, ht.cost.routingNumber_eq]
  constructor
  · rintro ⟨cost, hcost, _, rfl, quantity, hquantity, _, ⟨hrealized, rfl⟩, realized, hpnl, exitPnl,
      ⟨hexit, hread⟩, ⟨⟩, hchecks, rfl⟩
    rw [ht.quantity.routingNumber_eq] at hquantity
    rw [ht.realized.routingNumber_eq] at hpnl
    refine ⟨⟨hrealized, hexit⟩, ⟨cost, hcost, quantity, hquantity, realized, hpnl, exitPnl, hread, ?_⟩,
      validateStateSnapshot_eq_ok.mp hchecks⟩
    rw [ht.addCount, ht.exitAt, ht.entryPath, ht.evidenceAt, ht.evidenceId, ht.version]
  · rintro ⟨⟨hrealized, hexit⟩, ⟨cost, hcost, quantity, hquantity, realized, hpnl, exitPnl, hread,
      rfl⟩, hvalid⟩
    refine ⟨cost, hcost, _, rfl, quantity, by rw [ht.quantity.routingNumber_eq, hquantity], _,
      ⟨hrealized, rfl⟩, realized, by rw [ht.realized.routingNumber_eq, hpnl], exitPnl, ⟨hexit, hread⟩,
      (), ?_, ?_⟩
    · rw [ht.addCount, ht.exitAt, ht.entryPath, ht.evidenceAt, ht.evidenceId, ht.version]
      exact validateStateSnapshot_eq_ok.mpr hvalid
    · rw [ht.addCount, ht.exitAt, ht.entryPath, ht.evidenceAt, ht.evidenceId, ht.version]

theorem readNumbers_some (state : PositionGuardCandidateState) :
    readNumbers some state = some state := by
  unfold readNumbers
  have hexit : state.lastFullExitRealizedPnlKrw.mapM some = some state.lastFullExitRealizedPnlKrw := by
    cases state.lastFullExitRealizedPnlKrw <;> rfl
  rw [hexit]
  rfl

theorem toRationalRouting_eq_ok (ht : Tracks exact state) (hs : Valid state) :
    toRationalRoutingState exact = .ok result ↔
      (ReadsBack state.currentEpisodeRealizedPnlKrw ∧
        ∀ pnl ∈ state.lastFullExitRealizedPnlKrw, ReadsBack pnl) ∧ result = state := by
  unfold toRationalRoutingState
  rw [routingStateOf_iff ht hs.episode.nonneg.1 hs.episode.nonneg.2, readNumbers_some,
    Option.some.injEq, eq_comm (a := state)]
  refine and_congr_right fun _ => ⟨And.left, ?_⟩
  rintro rfl
  exact ⟨rfl, hs⟩

/-- What the records of the evidence add up to, in their order. -/
def bookOfEvidence (evidence : List PositionGuardCandidateExecutionEvidence) : Book :=
  ((chronological evidence).map numbersOf).foldl Book.record ⟨0, 0, 0, 0, none⟩

theorem booked_project (he : ∀ item ∈ evidence, EvidenceValid (numbersOf item))
    (h : projectExactCandidateState evidence = .ok exact) :
    ∃ state, Tracks exact state ∧ Sound state ∧ bookOf state = bookOfEvidence evidence :=
  booked_run tracks_empty sound_empty (fun item hmem => he item (mem_chronological.mp hmem))
    (projectExact_eq_ok h)

/-- The exact ledger and the routing ledger agree on the evidence exactly when no record leaves a
positive quantity within the tolerance and neither the profit of the open episode nor that of the last
full exit is strictly between 0 and 1 in absolute value. An array has fewer than 2^32 elements, so
the version stays a safe integer. -/
theorem ledgers_agree_iff {evidence : List PositionGuardCandidateExecutionEvidence}
    (hids : (evidence.map (·.evidenceId)).Nodup)
    (hvalid : ∀ item ∈ evidence, PassesValidation item) (hlength : evidence.length < 2 ^ 32)
    (hexact : projectExactCandidateState evidence = .ok exact) :
    (∃ state, toRationalRoutingState exact = .ok state ∧
      projectPositionGuardCandidateState createEmptyPositionGuardCandidateState evidence = .ok state) ↔
    (∀ item ∈ evidence, ¬ LeavesDust (numbersOf item)) ∧
      ReadsBack (bookOfEvidence evidence).realized ∧
      ∀ pnl ∈ (bookOfEvidence evidence).closed, ReadsBack pnl := by
  have hversion : createEmptyPositionGuardCandidateState.stateVersion +
      (chronological evidence).length ≤ maxSafeInteger := by
    rw [length_chronological]
    simp only [createEmptyPositionGuardCandidateState, maxSafeInteger]
    omega
  obtain ⟨hclean, hdirty⟩ := run_agrees tracks_empty valid_empty hversion
    (fun item hmem => (hvalid item (mem_chronological.mp hmem)).valid) (projectExact_eq_ok hexact)
  rw [projectRouting_eq hvalid hids]
  by_cases hdust : ∃ item ∈ evidence, LeavesDust (numbersOf item)
  · obtain ⟨item, hmem, hitem⟩ := hdust
    have hnone := hdirty ⟨item, mem_chronological.mpr hmem, hitem⟩
    constructor
    · rintro ⟨state, -, hstate⟩
      exact absurd hstate (hnone state)
    · rintro ⟨hall, -⟩
      exact absurd hitem (hall item hmem)
  · push Not at hdust
    obtain ⟨state, hrun, htracks, hstate, hbook⟩ :=
      hclean fun item hmem => hdust item (mem_chronological.mp hmem)
    have hbook' : bookOfEvidence evidence = bookOf state := hbook.symm
    rw [hrun, hbook']
    simp only [toRationalRouting_eq_ok htracks hstate]
    constructor
    · rintro ⟨result, ⟨hback, -⟩, -⟩
      exact ⟨hdust, hback⟩
    · rintro ⟨-, hback⟩
      exact ⟨state, ⟨hback, rfl⟩, rfl⟩

/-- A filled record of a pullback episode. -/
def pullback (id executedAt : String) (action : Strategy.Core.ExecutedAction)
    (executed gross fee remaining : String) : PositionGuardCandidateExecutionEvidence :=
  { evidenceId := id, executedAt, action, entryPath := .pullback, terminalStatus := .filled
    executedQuantity := .text executed, grossQuoteValueKrw := .text gross
    confirmedFeeKrw := .text fee, remainingQuantity := .text remaining }

/-- An entry of one coin for 100 KRW and its exit for `gross` KRW, both without a fee. -/
def roundTrip (gross : String) : List PositionGuardCandidateExecutionEvidence :=
  [pullback "a" "2026-01-02T00:00:00.000Z" .enter "1" "100" "0" "1",
    pullback "b" "2026-01-03T00:00:00.000Z" .exit "1" gross "0" "0"]

instance : DecidablePred PassesValidation := fun item =>
  match h : normalizeExecutionEvidence item with
  | .error _ => isFalse (by rintro ⟨n, hn, -⟩; rw [h] at hn; cases hn)
  | .ok n =>
    if hv : validateExecutionEvidence n = .ok () then isTrue ⟨n, h, hv⟩
    else isFalse (by rintro ⟨m, hm, hmv⟩; rw [h] at hm; cases hm; exact hv hmv)

instance : DecidablePred ReadsBack := fun q => inferInstanceAs (Decidable (q = 0 ∨ 1 ≤ |q|))

/-- The exact state after an entry and an exit that realized `pnl`. -/
def exitedWith (pnl : String) : ExactCandidateState :=
  { createExactEmptyCandidateState with
    lastFullExitAt := some "2026-01-03T00:00:00.000Z"
    lastFullExitRealizedPnlKrw := some pnl
    lastEntryPath := some .pullback
    lastEvidenceAt := some "2026-01-03T00:00:00.000Z"
    lastEvidenceId := some "b"
    stateVersion := 2 }

/-- An exit with a profit of 5 KRW. -/
theorem ledgers_agree_profit_five :
    projectExactCandidateState (roundTrip "105") = .ok (exitedWith "5") ∧
      ∃ state, toRationalRoutingState (exitedWith "5") = .ok state ∧
        projectPositionGuardCandidateState createEmptyPositionGuardCandidateState
          (roundTrip "105") = .ok state := by
  have hexact : projectExactCandidateState (roundTrip "105") = .ok (exitedWith "5") := by
    decide +kernel
  exact ⟨hexact, (ledgers_agree_iff (by decide) (by decide +kernel) (by decide) hexact).mpr
    ⟨by decide +kernel, by decide +kernel, by decide +kernel⟩⟩

/-- An exit with a profit of half a KRW: the exact ledger accepts it, and its state does not get
back. -/
theorem ledgers_disagree_profit_half :
    ¬ ∀ (evidence : List PositionGuardCandidateExecutionEvidence) (exact : ExactCandidateState),
      (evidence.map (·.evidenceId)).Nodup → (∀ item ∈ evidence, PassesValidation item) →
      evidence.length < 2 ^ 32 → projectExactCandidateState evidence = .ok exact →
      ∃ state, toRationalRoutingState exact = .ok state ∧
        projectPositionGuardCandidateState createEmptyPositionGuardCandidateState evidence =
          .ok state := by
  intro h
  obtain ⟨state, hrouting, -⟩ := h (roundTrip "100.5") (exitedWith "0.5") (by decide)
    (by decide +kernel) (by decide) (by decide +kernel)
  have herror : toRationalRoutingState (exitedWith "0.5") =
      .error "candidate exact full-exit pnl must be a canonical signed decimal string." := by
    decide +kernel
  rw [herror] at hrouting
  cases hrouting

end AutoTrade.Execution.LedgerAgreement
