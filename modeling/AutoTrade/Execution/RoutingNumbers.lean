import AutoTrade.Execution.LedgerAgreement

/-! # The routing state in double precision

`toPositionGuardCandidateRoutingState` reads the amounts of an exact state as doubles and validates the
state they make. `routing_isOk_iff` says of the exact amounts when that succeeds: each one is small
enough to be read as a finite number, and the validation meets an episode. An inventory near the
tolerance may be rounded to either side of it, and amounts next to zero are read as zero, so that a
tiny entry after a full exit is taken for none. -/

namespace AutoTrade.Execution.RoutingNumbers

open Lib.Double
open Strategy.CandidateState Strategy.CandidateLedger
open Execution.EvidenceDecimals Execution.LedgerAgreement

/-! ### Amounts -/

/-- The amount is read as a finite number. -/
def IsFinite (q : ℚ) : Prop := |q| < 2 ^ 1024 - 2 ^ 970

/-- The amount is read as zero. -/
def IsTiny (q : ℚ) : Prop := |q| ≤ 1 / 2 ^ 1075

/-- The amount is read as one above the tolerance: it has reached the midpoint of the two doubles next
to the tolerance. -/
def AboveTolerance (q : ℚ) : Prop := 9903520314283043 / 2 ^ 93 ≤ q

instance : DecidablePred IsFinite := fun q =>
  inferInstanceAs (Decidable (|q| < 2 ^ 1024 - 2 ^ 970))

/-- The book is read back: the profits are zero or at least 1 KRW in absolute value, every amount is
finite, and the episode is none, or open, or so small that all of it is read as zero. -/
structure BookReadsBack (book : Book) : Prop where
  realized : ReadsBack book.realized
  closed : ∀ pnl ∈ book.closed, ReadsBack pnl
  finite : IsFinite book.cost ∧ IsFinite book.quantity ∧ IsFinite book.realized ∧
    ∀ pnl ∈ book.closed, IsFinite pnl
  episode : book.quantity = 0 ∨ (AboveTolerance book.quantity ∧ ¬ IsTiny book.cost) ∨
    (IsTiny book.quantity ∧ IsTiny book.cost ∧ book.adds = 0 ∧ book.realized = 0 ∧
      book.closed ≠ none)

variable {q : ℚ} {state : PositionGuardCandidateState} {exact : ExactCandidateState}

theorem tolerance_lt_nearest_iff (hq : 0 ≤ q) : quantityTolerance < nearest q ↔ AboveTolerance q := by
  -- the doubles next to the tolerance, in units of `2 ^ (-92)`
  have hbelow : (((4951760157141522 : ℤ) : ℚ) - 1) * 2 ^ (-92 : ℤ) ≤ quantityTolerance := by
    norm_num [quantityTolerance]
  have habove : quantityTolerance < ((4951760157141522 : ℤ) : ℚ) * 2 ^ (-92 : ℤ) := by
    norm_num [quantityTolerance]
  have hmid : (9903520314283043 / 2 ^ 93 : ℚ) =
      (((4951760157141522 : ℤ) : ℚ) - 1 / 2) * 2 ^ (-92 : ℤ) := by
    norm_num
  rw [nearest_of_nonneg hq, lt_magnitude_iff hq (by decide) (by norm_num)
    (Or.inr ⟨by decide, by norm_num⟩) hbelow habove, if_pos (by decide), AboveTolerance, hmid]

theorem ReadsBack.not_isTiny (h : ReadsBack q) (hq : q ≠ 0) : ¬ IsTiny q := by
  have hone := h.resolve_left hq
  have hhalf : (1 / 2 ^ 1075 : ℚ) < 1 := by
    rw [one_div]
    exact inv_lt_one_of_one_lt₀ (one_lt_pow₀ one_lt_two (by decide))
  exact fun htiny => absurd (hone.trans htiny) (not_le.mpr hhalf)

/-- The book that the texts of an exact state write. -/
def exactBook (exact : ExactCandidateState) : Book where
  quantity := routingNumber exact.currentEpisodeInventoryQuantity
  cost := routingNumber exact.currentEpisodeCostBasisKrw
  realized := routingNumber exact.currentEpisodeRealizedPnlKrw
  adds := exact.currentEpisodeAddCount
  closed := exact.lastFullExitRealizedPnlKrw.map routingNumber

theorem map_routingNumber {text : Option String} {pnl : Option ℚ} (h : Option.Rel Writes text pnl) :
    text.map routingNumber = pnl := by
  cases h with
  | none => rfl
  | some hw => rw [Option.map_some, hw.routingNumber_eq]

theorem exactBook_eq (ht : Tracks exact state) : exactBook exact = bookOf state := by
  unfold exactBook bookOf
  rw [ht.quantity.routingNumber_eq, ht.cost.routingNumber_eq, ht.realized.routingNumber_eq,
    ht.addCount, map_routingNumber ht.exitPnl]

/-! ### The state that is read -/

/-- The state with its amounts rounded. -/
def nearestState (state : PositionGuardCandidateState) : PositionGuardCandidateState :=
  { state with
    currentEpisodeCostBasisKrw := nearest state.currentEpisodeCostBasisKrw
    currentEpisodeInventoryQuantity := nearest state.currentEpisodeInventoryQuantity
    currentEpisodeRealizedPnlKrw := nearest state.currentEpisodeRealizedPnlKrw
    lastFullExitRealizedPnlKrw := state.lastFullExitRealizedPnlKrw.map nearest }

theorem mapM_ofRat (pnl : Option ℚ) (out : Option ℚ) :
    pnl.mapM ofRat = some out ↔ (∀ q ∈ pnl, IsFinite q) ∧ pnl.map nearest = out := by
  cases pnl with
  | none => simp
  | some q =>
    show some <$> ofRat q = some out ↔ _
    simp only [Option.map_eq_map, Option.map_eq_some_iff, ofRat_eq_some_iff, Option.mem_some_iff,
      forall_eq', Option.map_some, IsFinite]
    constructor
    · rintro ⟨r, ⟨hfinite, rfl⟩, rfl⟩
      exact ⟨hfinite, rfl⟩
    · rintro ⟨hfinite, rfl⟩
      exact ⟨_, ⟨hfinite, rfl⟩, rfl⟩

theorem readNumbers_ofRat {result : PositionGuardCandidateState} :
    readNumbers ofRat state = some result ↔
      (IsFinite state.currentEpisodeCostBasisKrw ∧ IsFinite state.currentEpisodeInventoryQuantity ∧
        IsFinite state.currentEpisodeRealizedPnlKrw ∧
        ∀ pnl ∈ state.lastFullExitRealizedPnlKrw, IsFinite pnl) ∧ nearestState state = result := by
  unfold readNumbers
  simp only [Option.bind_eq_bind, Option.bind_eq_some_iff, mapM_ofRat, ofRat_eq_some_iff,
    Option.some.injEq]
  constructor
  · rintro ⟨_, ⟨hcost, rfl⟩, _, ⟨hquantity, rfl⟩, _, ⟨hrealized, rfl⟩, _, ⟨hexit, rfl⟩, rfl⟩
    exact ⟨⟨hcost, hquantity, hrealized, hexit⟩, rfl⟩
  · rintro ⟨⟨hcost, hquantity, hrealized, hexit⟩, rfl⟩
    exact ⟨_, ⟨hcost, rfl⟩, _, ⟨hquantity, rfl⟩, _, ⟨hrealized, rfl⟩, _, ⟨hexit, rfl⟩, rfl⟩

theorem nearest_zero : nearest 0 = 0 := by decide +kernel

section

variable (hs : Sound state)
include hs

theorem minimumReachable_nearestState_le :
    minimumReachableStateVersion (nearestState state) ≤ state.stateVersion := by
  refine le_trans ?_ hs.version_min
  unfold minimumReachableStateVersion leastVersion nearestState
  dsimp only
  refine Nat.add_le_add_left ?_ _
  by_cases hopen : 0 < state.currentEpisodeInventoryQuantity
  · rw [if_pos hopen]
    have hprofit : (if nearest state.currentEpisodeRealizedPnlKrw ≠ 0 then 1 else 0) ≤
        if state.currentEpisodeRealizedPnlKrw ≠ 0 then 1 else 0 := by
      by_cases hzero : state.currentEpisodeRealizedPnlKrw = 0
      · simp [hzero, nearest_zero]
      · rw [if_pos hzero]
        split_ifs <;> omega
    split_ifs at hprofit ⊢ <;> omega
  · have hflat : state.currentEpisodeInventoryQuantity = 0 :=
      le_antisymm (not_lt.mp hopen) hs.quantity_nonneg
    rw [if_neg hopen, hflat, nearest_zero, if_neg quantityTolerance_pos.asymm]

theorem cursorValid_nearestState : CursorValid (nearestState state) := by
  refine ⟨hs.cursor.both, hs.cursor.id, fun hnone => ?_, hs.cursor.parses, hs.cursor.exit⟩
  have hpristine := hs.cursor.pristine hnone
  simp only [isPristineCandidateState, decide_eq_true_eq] at hpristine ⊢
  obtain ⟨hadds, hcost, hquantity, hrealized, hexit, hpnl, hpath, hversion⟩ := hpristine
  simp [nearestState, hadds, hcost, hquantity, hrealized, hexit, hpnl, hpath, hversion, nearest_zero]

theorem episodeValid_nearestState_iff (hback : ReadsBack state.currentEpisodeRealizedPnlKrw) :
    EpisodeValid (nearestState state) ↔
      state.currentEpisodeInventoryQuantity = 0 ∨
        (AboveTolerance state.currentEpisodeInventoryQuantity ∧
          ¬ IsTiny state.currentEpisodeCostBasisKrw) ∨
        (IsTiny state.currentEpisodeInventoryQuantity ∧ IsTiny state.currentEpisodeCostBasisKrw ∧
          state.currentEpisodeAddCount = 0 ∧ state.currentEpisodeRealizedPnlKrw = 0 ∧
          state.lastFullExitRealizedPnlKrw ≠ none) := by
  unfold EpisodeValid nearestState
  dsimp only
  rw [tolerance_lt_nearest_iff hs.quantity_nonneg, nearest_eq_zero_iff, nearest_eq_zero_iff]
  rcases hs.episode with ⟨hquantity, hcost, hadds, hrealized, hexit⟩ | ⟨hopen, -, hpath⟩
  · have hnone : |(0 : ℚ)| ≤ 1 / 2 ^ 1075 := by
      rw [abs_zero]
      positivity
    refine iff_of_true (Or.inl ?_) (Or.inl hquantity)
    rw [hquantity, hcost, hrealized, nearest_zero]
    exact ⟨hnone, hnone, hadds, rfl, hexit⟩
  · -- an open state has a cursor, and a profit that is read as zero is zero
    have hcursor : state.lastEvidenceAt ≠ none := by
      intro hnone
      have hpristine := hs.cursor.pristine hnone
      simp only [isPristineCandidateState, decide_eq_true_eq] at hpristine
      exact hopen.ne' hpristine.2.2.1
    have hprofit : nearest state.currentEpisodeRealizedPnlKrw = 0 ↔
        state.currentEpisodeRealizedPnlKrw = 0 := by
      rw [nearest_eq_zero_iff]
      constructor
      · intro htiny
        by_contra hne
        exact ReadsBack.not_isTiny hback hne htiny
      · intro hzero
        rw [hzero, abs_zero]
        positivity
    have hcost : 0 < nearest state.currentEpisodeCostBasisKrw ↔
        ¬ IsTiny state.currentEpisodeCostBasisKrw := by
      rw [IsTiny, ← nearest_eq_zero_iff, nearest_of_nonneg hs.cost_nonneg]
      exact (magnitude_nonneg hs.cost_nonneg).lt_iff_ne'
    have hexit : state.lastFullExitAt ≠ none ↔ state.lastFullExitRealizedPnlKrw ≠ none := by
      have hboth := hs.exit_both
      cases hat : state.lastFullExitAt <;> cases hpnl : state.lastFullExitRealizedPnlKrw <;>
        simp [hat, hpnl] at hboth ⊢
    rw [hprofit, hcost, hexit, or_iff_right hopen.ne', or_comm]
    simp only [IsTiny, hcursor, hpath, ne_eq, not_false_eq_true, true_imp_iff, and_true]

theorem valid_nearestState_iff :
    Valid (nearestState state) ↔
      EpisodeValid (nearestState state) ∧ state.stateVersion ≤ maxSafeInteger := by
  constructor
  · intro h
    exact ⟨h.episode, h.version_safe⟩
  · rintro ⟨hepisode, hversion⟩
    refine ⟨hversion, hs.exit_parses, ?_, hs.exit_path, cursorValid_nearestState hs, hepisode,
      minimumReachable_nearestState_le hs⟩
    rw [show (nearestState state).lastFullExitAt = state.lastFullExitAt from rfl, hs.exit_both]
    exact (Option.isNone_map ..).symm

/-- **When an exact state is read back.** -/
theorem routing_isOk_iff (ht : Tracks exact state) :
    (∃ routing, toPositionGuardCandidateRoutingState exact = .ok routing) ↔
      BookReadsBack (bookOf state) ∧ exact.stateVersion ≤ maxSafeInteger := by
  unfold toPositionGuardCandidateRoutingState
  simp only [routingStateOf_iff ht hs.quantity_nonneg hs.cost_nonneg, readNumbers_ofRat, ht.version]
  constructor
  · rintro ⟨_, ⟨hrealized, hexit⟩, ⟨hfinite, rfl⟩, hvalid⟩
    obtain ⟨hepisode, hversion⟩ := (valid_nearestState_iff hs).mp hvalid
    exact ⟨⟨hrealized, hexit, hfinite, (episodeValid_nearestState_iff hs hrealized).mp hepisode⟩,
      hversion⟩
  · rintro ⟨⟨hrealized, hexit, hfinite, hepisode⟩, hversion⟩
    refine ⟨_, ⟨hrealized, hexit⟩, ⟨hfinite, rfl⟩, (valid_nearestState_iff hs).mpr ⟨?_, hversion⟩⟩
    exact (episodeValid_nearestState_iff hs hrealized).mpr hepisode

end

end AutoTrade.Execution.RoutingNumbers
