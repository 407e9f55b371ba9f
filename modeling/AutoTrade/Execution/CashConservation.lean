import AutoTrade.Execution.LedgerAgreement

/-! # Cash in the exact ledger

Cost moves between the basis and the realized profit at every sale; together they keep account of the
cash of the episode. The replay of the evidence is repeated here with a list of the episodes beside
the state: the records since the last full exit, and each closed episode with the state after its
exit.

`cash_conservation`: profit minus cost is the cash of the fills of the episode, the inventory is what
they bought minus what they sold, and a full exit realizes the cash of all fills of its episode.
Records that fill nothing leave the state as it is, whatever value and fee they name. -/

namespace AutoTrade.Execution.CashConservation

open Lib.Result
open Strategy.CandidateState Strategy.CandidateLedger
open Execution.EvidenceDecimals Execution.LedgerAgreement

/-! ### Sums over records -/

def buys (records : List NormalizedEvidence) : List NormalizedEvidence :=
  records.filter fun n => isBuyAction n.action

def sells (records : List NormalizedEvidence) : List NormalizedEvidence :=
  records.filter fun n => !isBuyAction n.action

/-- What the sales brought in, minus what the buys cost. -/
def cash (records : List NormalizedEvidence) : ℚ :=
  ((sells records).map fun n => n.grossQuoteValueKrw - n.confirmedFeeKrw).sum -
    ((buys records).map fun n => n.grossQuoteValueKrw + n.confirmedFeeKrw).sum

/-- What was bought, minus what was sold. -/
def netQuantity (records : List NormalizedEvidence) : ℚ :=
  ((buys records).map fun n => n.executedQuantity).sum -
    ((sells records).map fun n => n.executedQuantity).sum

/-- The records that fill something, as numbers. -/
def fills (records : List PositionGuardCandidateExecutionEvidence) : List NormalizedEvidence :=
  (records.map numbersOf).filter fun n => n.executedQuantity ≠ 0

variable {n : NormalizedEvidence} (records : List NormalizedEvidence)

theorem cash_buy (h : isBuyAction n.action = true) :
    cash (records ++ [n]) = cash records - (n.grossQuoteValueKrw + n.confirmedFeeKrw) := by
  simp [cash, buys, sells, h]
  ring

theorem cash_sell (h : isBuyAction n.action = false) :
    cash (records ++ [n]) = cash records + (n.grossQuoteValueKrw - n.confirmedFeeKrw) := by
  simp [cash, buys, sells, h]
  ring

theorem netQuantity_buy (h : isBuyAction n.action = true) :
    netQuantity (records ++ [n]) = netQuantity records + n.executedQuantity := by
  simp [netQuantity, buys, sells, h]
  ring

theorem netQuantity_sell (h : isBuyAction n.action = false) :
    netQuantity (records ++ [n]) = netQuantity records - n.executedQuantity := by
  simp [netQuantity, buys, sells, h]
  ring

variable {item : PositionGuardCandidateExecutionEvidence}

theorem fills_append_noFill (records : List PositionGuardCandidateExecutionEvidence)
    (h : (numbersOf item).executedQuantity = 0) : fills (records ++ [item]) = fills records := by
  simp [fills, h]

theorem fills_append_fill (records : List PositionGuardCandidateExecutionEvidence)
    (h : (numbersOf item).executedQuantity ≠ 0) :
    fills (records ++ [item]) = fills records ++ [numbersOf item] := by
  simp [fills, h]

/-! ### The replay with its episodes -/

/-- A closed episode with the state after its full exit. -/
structure ClosedEpisode where
  records : List PositionGuardCandidateExecutionEvidence
  after : ExactCandidateState
  deriving DecidableEq

structure Replay where
  state : ExactCandidateState
  episode : List PositionGuardCandidateExecutionEvidence
  closed : List ClosedEpisode
  deriving DecidableEq

/-- A sale after which nothing is held. -/
def isFullExit (item : PositionGuardCandidateExecutionEvidence) (after : ExactCandidateState) : Bool :=
  isBuyAction item.action = false ∧ (numbersOf item).executedQuantity ≠ 0 ∧
    after.currentEpisodeInventoryQuantity = "0"

def Replay.advance (replay : Replay) (item : PositionGuardCandidateExecutionEvidence) :
    Except String Replay := do
  let after ← advanceExactCandidateState replay.state item
  if isFullExit item after then
    .ok ⟨after, [], replay.closed ++ [⟨replay.episode ++ [item], after⟩]⟩
  else .ok ⟨after, replay.episode ++ [item], replay.closed⟩

/-- The records in the order in which `projectExactCandidateState` applies them. -/
def replayOf (evidence : List PositionGuardCandidateExecutionEvidence) : Except String Replay := do
  let ordered ← orderExactEvidence evidence
  (ordered.insertionSort fun a b => a.le b).foldlM
    (fun (replay : Replay) item => replay.advance item.evidence)
    ⟨createExactEmptyCandidateState, [], []⟩

theorem state_advance {replay : Replay} :
    (replay.advance item).map (·.state) = advanceExactCandidateState replay.state item := by
  unfold Replay.advance
  rcases advanceExactCandidateState replay.state item with e | after
  · rfl
  · rw [ok_bind]
    split_ifs <;> rfl

/-- **The episodes are kept beside the state**: the replay succeeds where the projection does, with
the same state. -/
theorem state_replayOf (evidence : List PositionGuardCandidateExecutionEvidence) :
    (replayOf evidence).map (·.state) = projectExactCandidateState evidence := by
  have hfold : ∀ (items : List (OrderedEvidence PositionGuardCandidateDecimal)) (replay : Replay),
      (items.foldlM (fun (replay : Replay) item => replay.advance item.evidence) replay).map
          (·.state) =
        items.foldlM (fun state item => advanceExactCandidateState state item.evidence)
          replay.state := by
    intro items
    induction items with
    | nil => intro replay; rfl
    | cons item items ih =>
      intro replay
      rw [List.foldlM_cons, List.foldlM_cons, ← state_advance]
      rcases replay.advance item.evidence with e | next
      · rfl
      · exact ih next
  unfold replayOf projectExactCandidateState
  rcases orderExactEvidence evidence with e | ordered
  · rfl
  · exact hfold _ _

theorem replayOf_eq_ok {evidence : List PositionGuardCandidateExecutionEvidence} {replay : Replay}
    (h : replayOf evidence = .ok replay) :
    (chronological evidence).foldlM Replay.advance ⟨createExactEmptyCandidateState, [], []⟩ =
      .ok replay := by
  unfold replayOf at h
  obtain ⟨ordered, hordered, hrun⟩ := bind_eq_ok.mp h
  rw [orderExactEvidence_eq hordered] at hrun
  unfold chronological
  rw [List.foldlM_map]
  exact hrun

/-! ### One record -/

/-- What the state says of an episode whose fills are `records`. -/
structure Balances (state : PositionGuardCandidateState) (records : List NormalizedEvidence) :
    Prop where
  cash : state.currentEpisodeRealizedPnlKrw - state.currentEpisodeCostBasisKrw = cash records
  quantity : state.currentEpisodeInventoryQuantity = netQuantity records

variable {exact exact' : ExactCandidateState} {state : PositionGuardCandidateState}
  {item : PositionGuardCandidateExecutionEvidence} {records : List NormalizedEvidence}

/-- The state after a record: still in the episode, or after its full exit. -/
def Settles (exact' : ExactCandidateState) (item : PositionGuardCandidateExecutionEvidence)
    (records : List NormalizedEvidence) : Prop :=
  ∃ state', Tracks exact' state' ∧
    if isFullExit item exact' then
      Balances state' [] ∧ exact'.lastFullExitRealizedPnlKrw.map routingNumber = some (cash records)
    else Balances state' records

theorem settles_noFill (ht : Tracks exact state) (hb : Balances state records)
    (h0 : (numbersOf item).executedQuantity = 0) : Settles exact item records := by
  have hexit : isFullExit item exact = false := by simp [isFullExit, h0]
  refine ⟨state, ht, ?_⟩
  rw [hexit]
  exact hb

variable {next : ExactCandidateState} {remaining : String}

theorem settles_buy (ht : Tracks exact state) (hb : Balances state records)
    (hbuy : isBuyAction item.action = true) {fill : ExactFill}
    (hfill : FillReads fill state (numbersOf item)) (hrest : Writes remaining
      (state.currentEpisodeInventoryQuantity + (numbersOf item).executedQuantity))
    (h : exactBuy exact item fill remaining = .ok next) :
    Settles (movedTo next item) item (records ++ [numbersOf item]) := by
  have haction : isBuyAction (numbersOf item).action = true := hbuy
  refine ⟨afterFill state (numbersOf item), tracks_buy ht hbuy hfill hrest h, ?_⟩
  have hexit : ∀ after, isFullExit item after = false := fun after => by simp [isFullExit, hbuy]
  rw [hexit, afterFill_buy haction]
  simp only [Bool.false_eq_true, if_false]
  constructor
  · rw [cash_buy records haction, ← hb.cash]
    simp only [moveCursor, applyBuyEvidence]
    ring
  · rw [netQuantity_buy records haction, ← hb.quantity]
    simp only [moveCursor, applyBuyEvidence]

/-- A sale moves the cost it takes with it from the basis to the realized profit, so their
difference gains what the sale brought in. -/
theorem settles_sell (ht : Tracks exact state) (hb : Balances state records)
    (hsell : isBuyAction item.action = false) (h0 : (numbersOf item).executedQuantity ≠ 0)
    {fill : ExactFill} (hfill : FillReads fill state (numbersOf item))
    (hrest : remaining ≠ "0" → Writes remaining
      (state.currentEpisodeInventoryQuantity - (numbersOf item).executedQuantity))
    (h : exactSell exact item fill remaining = .ok next) :
    Settles (movedTo next item) item (records ++ [numbersOf item]) := by
  obtain ⟨-, removed, hremoved, rfl⟩ := exactSell_eq_ok h
  let n := numbersOf item
  have haction : isBuyAction n.action = false := hsell
  have hcash := cash_sell records haction
  have hpnl : (exactRealized fill removed).value = state.currentEpisodeRealizedPnlKrw +
      (n.grossQuoteValueKrw - n.confirmedFeeKrw) - removed.value := by
    unfold exactRealized
    rw [value_subtract, value_add, value_subtract, hfill.realized, hfill.gross, hfill.fee]
  by_cases hzero : remaining = "0"
  · -- the whole cost leaves the basis
    have hall : removed.value = state.currentEpisodeCostBasisKrw := by
      unfold exactRemovedCost at hremoved
      rw [if_pos hzero] at hremoved
      rw [← Except.ok.inj hremoved, hfill.cost]
    have hwrites : Writes (formatExactDecimal (exactRealized fill removed))
        (cash (records ++ [n])) := by
      refine ⟨_, rfl, ?_⟩
      rw [hpnl, hall, hcash, ← hb.cash]
      ring
    simp only [if_pos hzero, movedTo]
    refine ⟨{ state with
      currentEpisodeAddCount := 0
      currentEpisodeCostBasisKrw := 0
      currentEpisodeInventoryQuantity := 0
      currentEpisodeRealizedPnlKrw := 0
      lastFullExitAt := some item.executedAt
      lastFullExitRealizedPnlKrw := some (cash (records ++ [n]))
      lastEvidenceAt := some item.executedAt
      lastEvidenceId := some item.evidenceId
      stateVersion := state.stateVersion + 1 }, ?_, ?_⟩
    · refine ⟨.zero, .zero, .zero, .some hwrites, rfl, rfl, ht.entryPath, rfl, rfl, ?_⟩
      rw [ht.version]
    · rw [if_pos (by simp [isFullExit, hsell, h0])]
      refine ⟨⟨by simp [cash, buys, sells], by simp [netQuantity, buys, sells]⟩, ?_⟩
      rw [Option.map_some, hwrites.routingNumber_eq]
  · simp only [if_neg hzero, movedTo]
    refine ⟨{ state with
      currentEpisodeCostBasisKrw := state.currentEpisodeCostBasisKrw - removed.value
      currentEpisodeInventoryQuantity := state.currentEpisodeInventoryQuantity - n.executedQuantity
      currentEpisodeRealizedPnlKrw := (exactRealized fill removed).value
      lastEvidenceAt := some item.executedAt
      lastEvidenceId := some item.evidenceId
      stateVersion := state.stateVersion + 1 }, ?_, ?_⟩
    · refine ⟨⟨_, rfl, ?_⟩, hrest hzero, ⟨_, rfl, rfl⟩, ht.exitPnl, ht.addCount, ht.exitAt,
        ht.entryPath, rfl, rfl, ?_⟩
      · rw [value_subtract, hfill.cost]
      · rw [ht.version]
    · rw [if_neg (by simp [isFullExit, hzero])]
      constructor
      · rw [hcash, ← hb.cash, hpnl]
        ring
      · rw [netQuantity_sell records haction, ← hb.quantity]

theorem settles {episode : List PositionGuardCandidateExecutionEvidence} (ht : Tracks exact state)
    (hb : Balances state (fills episode)) (h : advanceExactCandidateState exact item = .ok exact') :
    Settles exact' item (fills (episode ++ [item])) := by
  obtain ⟨executed, gross, fee, remaining, hx, hg, hf, -, -, hrest⟩ := advanceExact_eq_ok h
  by_cases hzero : executed = "0"
  · have h0 : (numbersOf item).executedQuantity = 0 := hx.eq_zero_iff.mp hzero
    rw [if_pos hzero] at hrest
    unfold advanceNoFill at hrest
    obtain ⟨-, -, hsame⟩ := bind_eq_ok.mp hrest
    rw [← Except.ok.inj hsame, fills_append_noFill episode h0]
    exact settles_noFill ht hb h0
  · have h0 : (numbersOf item).executedQuantity ≠ 0 := fun hq => hzero (hx.eq_zero_iff.mpr hq)
    rw [if_neg hzero] at hrest
    obtain ⟨fill, next, hderive, hparse, hnext, rfl⟩ := advanceFill_eq_ok hrest
    have hfill := parseFill_reads ht hx hg hf hparse
    rw [fills_append_fill episode h0]
    cases haction : isBuyAction item.action with
    | true =>
      rw [if_pos haction] at hnext
      exact settles_buy ht hb haction hfill (derive_buy ht haction hx hderive) hnext
    | false =>
      rw [if_neg (by rw [haction]; decide)] at hnext
      refine settles_sell ht hb haction h0 hfill ?_ hnext
      intro hopen
      obtain ⟨-, ⟨-, hclosed⟩ | ⟨-, -, hwrites⟩⟩ := derive_sell ht haction hx hderive
      · exact absurd hclosed hopen
      · exact hwrites

/-! ### Every replay -/

/-- The books of the open episode balance, and each closed episode realized its cash. -/
structure Conserves (replay : Replay) : Prop where
  current : ∃ state, Tracks replay.state state ∧ Balances state (fills replay.episode)
  closed : ∀ c ∈ replay.closed,
    c.after.lastFullExitRealizedPnlKrw.map routingNumber = some (cash (fills c.records))

theorem conserves_empty : Conserves ⟨createExactEmptyCandidateState, [], []⟩ := by
  refine ⟨⟨createEmptyPositionGuardCandidateState, tracks_empty, ?_, ?_⟩, ?_⟩
  · simp [createEmptyPositionGuardCandidateState, cash, buys, sells, fills]
  · simp [createEmptyPositionGuardCandidateState, netQuantity, buys, sells, fills]
  · intro c hc
    cases hc

variable {replay replay' : Replay}

theorem conserves_advance (hc : Conserves replay) (h : replay.advance item = .ok replay') :
    Conserves replay' := by
  unfold Replay.advance at h
  obtain ⟨after, hafter, hnext⟩ := bind_eq_ok.mp h
  obtain ⟨⟨state, ht, hb⟩, hclosed⟩ := hc
  obtain ⟨state', ht', hsettled⟩ := settles ht hb hafter
  by_cases hexit : isFullExit item after = true
  · rw [if_pos hexit] at hnext hsettled
    rw [← Except.ok.inj hnext]
    refine ⟨⟨state', ht', hsettled.1⟩, ?_⟩
    intro c hmem
    rcases List.mem_append.mp hmem with hold | hnew
    · exact hclosed c hold
    · rw [List.mem_singleton.mp hnew]
      exact hsettled.2
  · rw [if_neg hexit] at hnext hsettled
    rw [← Except.ok.inj hnext]
    exact ⟨⟨state', ht', hsettled⟩, hclosed⟩

theorem conserves_run {items : List PositionGuardCandidateExecutionEvidence} (hc : Conserves replay)
    (h : items.foldlM Replay.advance replay = .ok replay') : Conserves replay' := by
  induction items generalizing replay with
  | nil => rwa [← Except.ok.inj h]
  | cons item items ih =>
    rw [List.foldlM_cons, bind_eq_ok] at h
    obtain ⟨next, hnext, hrun⟩ := h
    exact ih (conserves_advance hc hnext) hrun

/-- **Cash conservation.** Whenever the projection succeeds, the profit minus the cost of its state
is the cash of the fills of the open episode, its inventory is what they bought minus what they sold,
and every full exit on the way realized the cash of all fills of the episode it closed. -/
theorem cash_conservation {evidence : List PositionGuardCandidateExecutionEvidence}
    (h : projectExactCandidateState evidence = .ok exact) :
    ∃ replay, replayOf evidence = .ok replay ∧ replay.state = exact ∧
      routingNumber exact.currentEpisodeRealizedPnlKrw -
        routingNumber exact.currentEpisodeCostBasisKrw = cash (fills replay.episode) ∧
      routingNumber exact.currentEpisodeInventoryQuantity = netQuantity (fills replay.episode) ∧
      ∀ c ∈ replay.closed,
        c.after.lastFullExitRealizedPnlKrw.map routingNumber = some (cash (fills c.records)) := by
  rw [← state_replayOf] at h
  obtain ⟨replay, hreplay, hstate⟩ := map_eq_ok h
  obtain ⟨⟨state, ht, hb⟩, hclosed⟩ := conserves_run conserves_empty (replayOf_eq_ok hreplay)
  rw [hstate] at ht
  refine ⟨replay, hreplay, hstate, ?_, ?_, hclosed⟩
  · rw [ht.realized.routingNumber_eq, ht.cost.routingNumber_eq, hb.cash]
  · rw [ht.quantity.routingNumber_eq, hb.quantity]

/-- Ten coins bought for 1000 KRW, four of them sold for 500 and the rest for 600, with fees. -/
def soldInParts : List PositionGuardCandidateExecutionEvidence :=
  [pullback "c" "2026-01-04T00:00:00.000Z" .exit "6" "600" "1.5" "0",
    pullback "a" "2026-01-02T00:00:00.000Z" .enter "10" "1000" "2.5" "10",
    pullback "b" "2026-01-03T00:00:00.000Z" .reduce "4" "500" "1" "6"]

/-- The state after `soldInParts`: 1097.5 KRW came in and 1002.5 KRW went out. -/
def soldInPartsState : ExactCandidateState :=
  { createExactEmptyCandidateState with
    lastFullExitAt := some "2026-01-04T00:00:00.000Z"
    lastFullExitRealizedPnlKrw := some "95"
    lastEntryPath := some .pullback
    lastEvidenceAt := some "2026-01-04T00:00:00.000Z"
    lastEvidenceId := some "c"
    stateVersion := 3 }

theorem cash_conservation_soldInParts :
    projectExactCandidateState soldInParts = .ok soldInPartsState ∧
      ∃ replay, replayOf soldInParts = .ok replay ∧ replay.closed.length = 1 ∧
        ∀ c ∈ replay.closed,
          c.after.lastFullExitRealizedPnlKrw.map routingNumber = some (cash (fills c.records)) := by
  have hproject : projectExactCandidateState soldInParts = .ok soldInPartsState := by
    decide +kernel
  have hclosed : (replayOf soldInParts).map (·.closed.length) = .ok 1 := by decide +kernel
  obtain ⟨replay, hreplay, -, -, -, hexits⟩ := cash_conservation hproject
  rw [hreplay] at hclosed
  exact ⟨hproject, replay, hreplay, Except.ok.inj hclosed, hexits⟩

/-- A canceled entry that filled nothing and still names a value of 5 KRW. -/
def unfilledWithValue : PositionGuardCandidateExecutionEvidence :=
  { pullback "a" "2026-01-02T00:00:00.000Z" .enter "0" "5" "0" "0" with terminalStatus := .canceled }

/-- A record that fills nothing may name a value: it is no part of the ledger's cash. -/
theorem unfilled_value_not_conserved :
    ¬ ∀ (evidence : List PositionGuardCandidateExecutionEvidence) (exact : ExactCandidateState),
      projectExactCandidateState evidence = .ok exact →
      ∃ replay, replayOf evidence = .ok replay ∧ replay.state = exact ∧
        routingNumber exact.currentEpisodeRealizedPnlKrw -
          routingNumber exact.currentEpisodeCostBasisKrw = cash (replay.episode.map numbersOf) := by
  intro h
  obtain ⟨replay, hreplay, -, hcash⟩ := h [unfilledWithValue] createExactEmptyCandidateState
    (by decide +kernel)
  have hrun : replayOf [unfilledWithValue] =
      .ok ⟨createExactEmptyCandidateState, [unfilledWithValue], []⟩ := by
    decide +kernel
  rw [hrun] at hreplay
  rw [← Except.ok.inj hreplay] at hcash
  revert hcash
  decide +kernel

end AutoTrade.Execution.CashConservation
