import AutoTrade.Execution.LedgerAgreement
import AutoTrade.Execution.OrderDecimals
import Mathlib.RingTheory.Int.Basic
import Mathlib.RingTheory.PrincipalIdealDomain

/-! # Partial sells in the exact ledger

A sell that leaves more than the tolerance takes its share of the cost with it, and that share is an
exact decimal or the record is refused. For every state the ledger reaches, the record goes through
exactly when the share has a decimal representation that ends (`partial_sell_projects_iff`), provided
that the profit of the open episode can be read back at all.

* `divide_isOk_iff`: the division succeeds exactly on such quotients. The reduced denominator divides
  a power of ten, so nothing is left of it after its factors two and five.
* `reached_project`: what a reached state writes. -/

namespace AutoTrade.Execution.PartialSells

open Lib.Text Lib.Result Domain.Timestamp
open Strategy.CandidateState Strategy.CandidateLedger
open Execution.EvidenceDecimals Execution.OrderDecimals
open Execution.LedgerAgreement

/-! ### Division -/

/-- A power of ten makes the number an integer: it has a decimal representation that ends. -/
def IsTerminating (q : ℚ) : Prop := ∃ (places : ℕ) (n : ℤ), q * 10 ^ places = n

theorem isTerminating_value (d : ExactDecimal) : IsTerminating d.value := by
  refine ⟨d.scale, d.coefficient, ?_⟩
  unfold ExactDecimal.value
  rw [div_mul_cancel₀ _ (by positivity)]

theorem IsTerminating.neg {q : ℚ} (h : IsTerminating q) : IsTerminating (-q) := by
  obtain ⟨places, n, hn⟩ := h
  exact ⟨places, -n, by rw [neg_mul, hn, Int.cast_neg]⟩

theorem factorOut_not_dvd {p : ℤ} (hp : 1 < p) {fuel : ℕ} {d : ℤ} (hd : d ≠ 0)
    (hfuel : d.natAbs ≤ fuel) : ¬ p ∣ (factorOut p fuel d).1 := by
  induction fuel generalizing d with
  | zero => omega
  | succ fuel ih =>
    unfold factorOut
    split_ifs with h
    · obtain ⟨c, rfl⟩ := Int.dvd_of_emod_eq_zero h
      have hc : c ≠ 0 := right_ne_zero_of_mul hd
      rw [Int.mul_ediv_cancel_left _ (by omega)]
      refine ih hc ?_
      rw [Int.natAbs_mul] at hfuel
      have hpos : 0 < c.natAbs := Int.natAbs_pos.mpr hc
      have htwo : 2 * c.natAbs ≤ p.natAbs * c.natAbs := Nat.mul_le_mul_right _ (by omega)
      omega
    · exact fun hdvd => h (Int.emod_eq_zero_of_dvd hdvd)

/-- A reduced denominator that divides a power of ten has no other factors than two and five. -/
theorem divideReduced_isOk {numerator denominator : ℤ} {label : String} (hne0 : denominator ≠ 0)
    (hcoprime : IsCoprime denominator numerator) {places : ℕ} {n : ℤ}
    (h : numerator * 10 ^ places = n * denominator) :
    ∃ q, divideReduced numerator denominator label = .ok q := by
  have hten : denominator ∣ 10 ^ places :=
    hcoprime.dvd_of_dvd_mul_left (h ▸ Dvd.intro_left n rfl)
  unfold divideReduced
  dsimp only
  set twos := factorOut 2 denominator.natAbs denominator with htwos
  set fives := factorOut 5 twos.1.natAbs twos.1 with hfives
  have h2 : twos.1 * 2 ^ twos.2 = denominator := factorOut_mul 2 _ denominator
  have h5 : fives.1 * 5 ^ fives.2 = twos.1 := factorOut_mul 5 _ twos.1
  have hne : twos.1 ≠ 0 := left_ne_zero_of_mul (by rw [h2]; exact hne0)
  have hnot2 : ¬ 2 ∣ fives.1 := fun hdvd =>
    factorOut_not_dvd (by decide) hne0 le_rfl (h5 ▸ Dvd.dvd.mul_right hdvd _)
  have hnot5 : ¬ 5 ∣ fives.1 := factorOut_not_dvd (by decide) hne le_rfl
  have hdvd : fives.1 ∣ 10 ^ places := by
    refine Dvd.dvd.trans ?_ hten
    rw [← h2, ← h5]
    exact Dvd.dvd.mul_right (Dvd.intro _ rfl) _
  have hprime5 : Prime (5 : ℤ) := Int.prime_iff_natAbs_prime.mpr (by decide)
  have hcop : IsCoprime fives.1 10 := by
    have hmul : (10 : ℤ) = 2 * 5 := by norm_num
    rw [hmul]
    exact IsCoprime.mul_right ((Int.prime_two.coprime_iff_not_dvd.mpr hnot2).symm)
      ((hprime5.coprime_iff_not_dvd.mpr hnot5).symm)
  have hunit : fives.1 = 1 ∨ fives.1 = -1 :=
    Int.isUnit_iff.mp ((hcop.pow_right).isUnit_of_dvd hdvd)
  rw [if_neg (by tauto)]
  exact ⟨_, rfl⟩

/-- The division succeeds exactly when the quotient has a decimal representation that ends. -/
theorem divide_isOk_iff {a b : ExactDecimal} {label : String} (hb : b.coefficient ≠ 0) :
    (∃ q, divideExactDecimals a b label = .ok q) ↔ IsTerminating (a.value / b.value) := by
  constructor
  · rintro ⟨q, h⟩
    have hquotient := value_divide h
    rcases abs_choice b.value with habs | habs
    · rw [← habs, ← hquotient]
      exact isTerminating_value q
    · rw [← neg_neg (a.value / b.value), ← div_neg, ← habs, ← hquotient]
      exact (isTerminating_value q).neg
  · rintro ⟨places, n, hn⟩
    rw [← ratio_eq hb] at hn
    unfold divideExactDecimals
    rw [if_neg hb]
    dsimp only
    set numerator := a.coefficient * 10 ^ (b.scale - a.scale) with hnum
    set denominator := b.coefficient * 10 ^ (a.scale - b.scale) with hden
    have hne : denominator ≠ 0 := mul_ne_zero hb (by positivity)
    rw [greatestCommonDivisor_natAbs _ hne]
    have hg : 0 < Int.gcd numerator denominator := Int.gcd_pos_of_ne_zero_right _ hne
    have hgd : (Int.gcd numerator denominator : ℤ) ∣ denominator := Int.gcd_dvd_right ..
    have hgn : (Int.gcd numerator denominator : ℤ) ∣ numerator := Int.gcd_dvd_left ..
    have hred : denominator / Int.gcd numerator denominator ≠ 0 :=
      fun hzero => hne (Int.eq_zero_of_ediv_eq_zero hgd hzero)
    have hcoprime : IsCoprime (denominator / Int.gcd numerator denominator)
        (numerator / Int.gcd numerator denominator) := by
      rw [Int.isCoprime_iff_gcd_eq_one, Int.gcd_comm]
      exact Int.gcd_div_gcd_div_gcd hg
    refine divideReduced_isOk hred hcoprime (?_ : _ * 10 ^ places = n * _)
    have hgq : ((Int.gcd numerator denominator : ℤ) : ℚ) ≠ 0 := by exact_mod_cast hg.ne'
    have hdq : (denominator : ℚ) ≠ 0 := by exact_mod_cast hne
    have hcast : ((numerator / Int.gcd numerator denominator * 10 ^ places : ℤ) : ℚ) =
        ((n * (denominator / Int.gcd numerator denominator) : ℤ) : ℚ) := by
      push_cast
      rw [Int.cast_div hgn hgq, Int.cast_div hgd hgq, ← hn]
      field_simp
    exact_mod_cast hcast

/-! ### Reached states -/

variable {exact exact' : ExactCandidateState} {state : PositionGuardCandidateState}
  {item : PositionGuardCandidateExecutionEvidence}

/-- What an exact state writes that the ledger can reach. -/
structure Reached (exact : ExactCandidateState) (state : PositionGuardCandidateState) : Prop where
  tracks : Tracks exact state
  quantity : 0 ≤ state.currentEpisodeInventoryQuantity
  cost : 0 ≤ state.currentEpisodeCostBasisKrw
  cursor : ∀ evidenceAt ∈ exact.lastEvidenceAt, IsCandidateTimestamp evidenceAt

theorem reached_empty :
    Reached createExactEmptyCandidateState createEmptyPositionGuardCandidateState :=
  ⟨tracks_empty, le_rfl, le_rfl, fun _ h => by cases h⟩

theorem amount_nonneg {value : PositionGuardCandidateDecimal} {label text : String}
    (h : canonicalNonNegativeDecimal value label = .ok text) : 0 ≤ amountOf value := by
  obtain ⟨t, rfl, -, -⟩ := canonicalNonNegative_eq_ok.mp h
  exact decimalValue_nonneg t.toList

theorem amounts_nonneg (h : advanceExactCandidateState exact item = .ok exact') :
    0 ≤ (numbersOf item).executedQuantity ∧ 0 ≤ (numbersOf item).grossQuoteValueKrw ∧
      0 ≤ (numbersOf item).confirmedFeeKrw := by
  unfold advanceExactCandidateState at h
  simp only [bind_eq_ok] at h
  obtain ⟨executed, hx, gross, hg, fee, hf, -⟩ := h
  exact ⟨amount_nonneg hx, amount_nonneg hg, amount_nonneg hf⟩

variable {n : NormalizedEvidence}

theorem afterFill_nonneg (hquantity : 0 ≤ state.currentEpisodeInventoryQuantity)
    (hcost : 0 ≤ state.currentEpisodeCostBasisKrw) (hx : 0 ≤ n.executedQuantity)
    (hg : 0 ≤ n.grossQuoteValueKrw) (hf : 0 ≤ n.confirmedFeeKrw) :
    0 ≤ (afterFill state n).currentEpisodeInventoryQuantity ∧
      0 ≤ (afterFill state n).currentEpisodeCostBasisKrw := by
  cases haction : isBuyAction n.action with
  | true =>
    rw [afterFill_buy haction]
    simp only [moveCursor, applyBuyEvidence]
    constructor
    · linarith
    · linarith
  | false =>
    rw [afterFill_sell haction]
    by_cases hc : closesEpisode state n = true
    · simp [moveCursor, applySellEvidence, hc]
    · have hleft : quantityTolerance < state.currentEpisodeInventoryQuantity - n.executedQuantity := by
        simp only [closesEpisode, decide_eq_true_eq, not_le] at hc
        exact hc
      have hpos := quantityTolerance_pos
      simp only [moveCursor, applySellEvidence, removedCost, if_neg hc]
      refine ⟨by linarith, ?_⟩
      -- less than the whole inventory takes no more than the whole cost
      have hshare : n.executedQuantity / state.currentEpisodeInventoryQuantity ≤ 1 :=
        div_le_one_of_le₀ (by linarith) hquantity
      have := mul_le_of_le_one_right hcost hshare
      linarith

theorem reached_advance (hr : Reached exact state) (htime : IsCandidateTimestamp item.executedAt)
    (h : advanceExactCandidateState exact item = .ok exact') : ∃ state', Reached exact' state' := by
  obtain ⟨hx0, hg0, hf0⟩ := amounts_nonneg h
  obtain ⟨executed, gross, fee, remaining, hx, hg, hf, -, -, hrest⟩ := advanceExact_eq_ok h
  by_cases hzero : executed = "0"
  · rw [if_pos hzero] at hrest
    unfold advanceNoFill at hrest
    obtain ⟨-, -, hsame⟩ := bind_eq_ok.mp hrest
    rw [← Except.ok.inj hsame]
    exact ⟨state, hr⟩
  · rw [if_neg hzero] at hrest
    obtain ⟨fill, next, hderive, hparse, hnext, rfl⟩ := advanceFill_eq_ok hrest
    have hfill := parseFill_reads hr.tracks hx hg hf hparse
    obtain ⟨hquantity, hcost⟩ := afterFill_nonneg hr.quantity hr.cost hx0 hg0 hf0
    have hcursor : ∀ evidenceAt ∈ some item.executedAt, IsCandidateTimestamp evidenceAt := by
      intro evidenceAt hmem
      rwa [← Option.mem_some_iff.mp hmem]
    refine ⟨afterFill state (numbersOf item), ?_, hquantity, hcost, hcursor⟩
    cases haction : isBuyAction item.action with
    | true =>
      rw [if_pos haction] at hnext
      exact tracks_buy hr.tracks haction hfill (derive_buy hr.tracks haction hx hderive) hnext
    | false =>
      rw [if_neg (by rw [haction]; decide)] at hnext
      have hopen : 0 < state.currentEpisodeInventoryQuantity :=
        lt_of_le_of_ne hr.quantity fun hflat =>
          (exactSell_eq_ok hnext).1 (hr.tracks.quantity.eq_zero_iff.mpr hflat.symm)
      obtain ⟨hclose, hleft⟩ := closes_of_derived (derive_sell hr.tracks haction hx hderive).2
      exact tracks_sell hr.tracks haction hfill hopen hclose hleft hnext

theorem reached_run {items : List PositionGuardCandidateExecutionEvidence}
    (hr : Reached exact state) (htimes : ∀ item ∈ items, IsCandidateTimestamp item.executedAt)
    (h : items.foldlM advanceExactCandidateState exact = .ok exact') :
    ∃ state', Reached exact' state' := by
  induction items generalizing exact state with
  | nil =>
    rw [← Except.ok.inj h]
    exact ⟨state, hr⟩
  | cons item rest ih =>
    rw [List.foldlM_cons, bind_eq_ok] at h
    obtain ⟨middle, hstep, hrest⟩ := h
    obtain ⟨next, hnext⟩ := reached_advance hr (htimes item List.mem_cons_self) hstep
    exact ih hnext (fun other hmem => htimes other (List.mem_cons_of_mem _ hmem)) hrest

variable {evidence : List PositionGuardCandidateExecutionEvidence}

theorem timestamps_of_order {ordered : List (OrderedEvidence PositionGuardCandidateDecimal)}
    (h : orderExactEvidence evidence = .ok ordered) :
    ∀ item ∈ evidence, IsCandidateTimestamp item.executedAt := by
  induction evidence generalizing ordered with
  | nil => simp
  | cons first rest ih =>
    unfold orderExactEvidence at h
    rw [parse_bind, bind_eq_ok] at h
    obtain ⟨hfirst, tail, htail, -⟩ := h
    intro item hmem
    rcases List.mem_cons.mp hmem with rfl | hmem
    · exact hfirst
    · exact ih htail item hmem

theorem reached_project (h : projectExactCandidateState evidence = .ok exact) :
    ∃ state, Reached exact state := by
  have hrun := projectExact_eq_ok h
  unfold projectExactCandidateState at h
  obtain ⟨ordered, hordered, -⟩ := bind_eq_ok.mp h
  have htimes := timestamps_of_order hordered
  exact reached_run reached_empty (fun item hmem => htimes item (mem_chronological.mp hmem)) hrun

/-! ### A partial sell -/

/-- The record comes after the ones the state has seen. -/
def Later (exact : ExactCandidateState) (item : PositionGuardCandidateExecutionEvidence) : Prop :=
  IsCandidateTimestamp item.executedAt ∧
    ∀ cursorAt ∈ exact.lastEvidenceAt, instant cursorAt < instant item.executedAt ∨
      (instant cursorAt = instant item.executedAt ∧
        before (exact.lastEvidenceId.getD "") item.evidenceId = true)

instance (exact : ExactCandidateState) (item : PositionGuardCandidateExecutionEvidence) :
    Decidable (Later exact item) := by
  unfold Later
  infer_instance

theorem chronology_of_later (hcursor : ∀ evidenceAt ∈ exact.lastEvidenceAt,
    IsCandidateTimestamp evidenceAt) (h : Later exact item) :
    assertExactChronology exact item = .ok () := by
  unfold assertExactChronology
  obtain ⟨htime, hafter⟩ := h
  rcases hat : exact.lastEvidenceAt with _ | cursorAt
  · rfl
  · dsimp only
    rw [parse_bind, parse_bind, throwIf_eq_ok]
    refine ⟨hcursor cursorAt hat, htime, ?_⟩
    push Not
    rcases hafter cursorAt hat with hlt | ⟨heq, hid⟩
    · exact ⟨hlt.le, fun h => absurd h hlt.ne'⟩
    · exact ⟨heq.le, fun _ => hid⟩

/-- A REDUCE record that sells less than the inventory and leaves more than the tolerance. -/
structure PartialSell (exact : ExactCandidateState) (item : PositionGuardCandidateExecutionEvidence)
    (executed gross fee remaining : String) : Prop where
  action : item.action = .reduce
  later : Later exact item
  executedQuantity : item.executedQuantity = .text executed
  grossQuoteValueKrw : item.grossQuoteValueKrw = .text gross
  confirmedFeeKrw : item.confirmedFeeKrw = .text fee
  remainingQuantity : item.remainingQuantity = .text remaining
  canonicalExecuted : isCanonicalNonNegative executed.toList = true
  canonicalGross : isCanonicalNonNegative gross.toList = true
  canonicalFee : isCanonicalNonNegative fee.toList = true
  executed_pos : 0 < routingNumber executed
  executed_lt : routingNumber executed < routingNumber exact.currentEpisodeInventoryQuantity
  leaves : quantityTolerance <
    routingNumber exact.currentEpisodeInventoryQuantity - routingNumber executed
  gross_pos : 0 < routingNumber gross
  derived : deriveExactRemainingQuantity exact.currentEpisodeInventoryQuantity item.action executed =
    .ok remaining

variable {executed gross fee remaining : String}

variable {text : String}

theorem writes_amount (h : isCanonicalNonNegative text.toList = true) :
    Writes text (amountOf (.text text)) := by
  have hself : canonicalNonNegativeDecimal (.text text) "" = .ok text :=
    canonicalNonNegative_self.mpr h
  exact writes_of_canonical hself

namespace PartialSell

variable (hsell : PartialSell exact item executed gross fee remaining)

include hsell

theorem isBuy : isBuyAction item.action = false := by rw [hsell.action]; rfl

theorem amount_executed : (numbersOf item).executedQuantity = routingNumber executed := by
  rw [routingNumber_of_canonical hsell.canonicalExecuted]
  simp [numbersOf, hsell.executedQuantity, amountOf]

theorem writes_executed : Writes executed (numbersOf item).executedQuantity := by
  rw [numbersOf, hsell.executedQuantity]
  exact writes_amount hsell.canonicalExecuted

theorem executed_ne_zero : executed ≠ "0" := by
  rw [ne_eq, hsell.writes_executed.eq_zero_iff, hsell.amount_executed]
  exact hsell.executed_pos.ne'

theorem remaining_writes (ht : Tracks exact state) : remaining ≠ "0" ∧
    Writes remaining (state.currentEpisodeInventoryQuantity - routingNumber executed) ∧
    quantityTolerance < state.currentEpisodeInventoryQuantity - routingNumber executed := by
  have hleaves := hsell.leaves
  rw [ht.quantity.routingNumber_eq] at hleaves
  obtain ⟨-, hderived⟩ := derive_sell ht hsell.isBuy hsell.writes_executed hsell.derived
  rw [hsell.amount_executed] at hderived
  rcases hderived with ⟨hc, -⟩ | ⟨-, hne, hw⟩
  · simp only [closesEpisode, decide_eq_true_eq, hsell.amount_executed] at hc
    linarith
  · exact ⟨hne, hw, hleaves⟩

theorem canonicalRemaining (ht : Tracks exact state) (label : String) :
    canonicalNonNegativeDecimal item.remainingQuantity label = .ok remaining := by
  obtain ⟨-, hw, hleaves⟩ := hsell.remaining_writes ht
  have hpos := quantityTolerance_pos
  rw [hsell.remainingQuantity]
  exact hw.canonicalNonNegative (by linarith) label

theorem advance_eq (hr : Reached exact state) : advanceExactCandidateState exact item =
    advanceFill exact item executed gross fee remaining := by
  unfold advanceExactCandidateState
  rw [hsell.executedQuantity, canonicalNonNegative_self.mpr hsell.canonicalExecuted, ok_bind,
    hsell.grossQuoteValueKrw, canonicalNonNegative_self.mpr hsell.canonicalGross, ok_bind,
    hsell.confirmedFeeKrw, canonicalNonNegative_self.mpr hsell.canonicalFee, ok_bind,
    hsell.canonicalRemaining hr.tracks, ok_bind, chronology_of_later hr.cursor hsell.later, ok_bind,
    if_neg hsell.executed_ne_zero]

end PartialSell

theorem parseNonNegative_of_canonical (label : String)
    (h : isCanonicalNonNegative text.toList = true) :
    parseCanonicalNonNegativeDecimal (.text text) label = .ok (parseCanonicalDecimal text) :=
  parseNonNegative_eq_ok.mpr ⟨text, rfl, h, rfl⟩

theorem canonical_of_writes {q : ℚ} (h : Writes text q) (hq : 0 ≤ q) :
    isCanonicalNonNegative text.toList = true :=
  canonicalNonNegative_self.mp (h.canonicalNonNegative hq "")

/-- The amounts of a reached state and of a record are read back, up to the open profit. -/
theorem parseFill_isOk_iff (hr : Reached exact state)
    (hx : isCanonicalNonNegative executed.toList = true)
    (hg : isCanonicalNonNegative gross.toList = true)
    (hf : isCanonicalNonNegative fee.toList = true) :
    (∃ fill, parseFill exact executed gross fee = .ok fill) ↔
      ReadsBack state.currentEpisodeRealizedPnlKrw := by
  unfold parseFill
  rw [parseNonNegative_of_canonical _ (canonical_of_writes hr.tracks.cost hr.cost), ok_bind,
    parseNonNegative_of_canonical _ (canonical_of_writes hr.tracks.quantity hr.quantity), ok_bind,
    parseNonNegative_of_canonical _ hx, parseNonNegative_of_canonical _ hg,
    parseNonNegative_of_canonical _ hf]
  simp only [ok_bind]
  have hsigned : canonicalSignedDecimal exact.currentEpisodeRealizedPnlKrw
      "candidate exact realized pnl" = .ok exact.currentEpisodeRealizedPnlKrw ↔ _ :=
    hr.tracks.realized.canonicalSigned_eq_ok
  rw [and_iff_left rfl] at hsigned
  rw [ReadsBack, ← hsigned]
  unfold canonicalSignedDecimal
  simp only [bind_eq_ok, Except.ok.injEq]
  constructor
  · rintro ⟨-, pnl, hpnl, -⟩
    refine ⟨pnl, hpnl, ?_⟩
    obtain ⟨d, hd, hv⟩ := hr.tracks.realized
    rw [hd, format_eq_iff, hr.tracks.realized.parseSigned hpnl, hv]
  · rintro ⟨pnl, hpnl, -⟩
    exact ⟨_, pnl, hpnl, rfl⟩

theorem exactSell_isOk_iff {fill : ExactFill} (hfill : FillReads fill state n)
    (hopen : 0 < state.currentEpisodeInventoryQuantity)
    (hquantity : exact.currentEpisodeInventoryQuantity ≠ "0") (hremaining : remaining ≠ "0") :
    (∃ next, exactSell exact item fill remaining = .ok next) ↔
      IsTerminating (state.currentEpisodeCostBasisKrw * n.executedQuantity /
        state.currentEpisodeInventoryQuantity) := by
  have hpos : 0 < fill.currentQuantity.value := by rw [hfill.quantity]; exact hopen
  have hdivide : (∃ q, divideExactDecimals (multiplyExactDecimals fill.currentCost fill.executed)
      fill.currentQuantity "candidate proportional cost allocation" = .ok q) ↔ _ :=
    divide_isOk_iff (coefficient_pos hpos).ne'
  rw [value_multiply, hfill.cost, hfill.executed, hfill.quantity] at hdivide
  rw [← hdivide]
  unfold exactSell exactRemovedCost
  simp only [bind_eq_ok, throwIf_eq_ok, if_neg hremaining, Except.ok.injEq]
  constructor
  · rintro ⟨-, -, -, removed, hremoved, -⟩
    exact ⟨removed, hremoved⟩
  · rintro ⟨removed, hremoved⟩
    exact ⟨_, (), hquantity, removed, hremoved, rfl⟩

theorem partialSell_isOk_iff (hr : Reached exact state)
    (hsell : PartialSell exact item executed gross fee remaining) :
    (∃ next, advanceExactCandidateState exact item = .ok next) ↔
      ReadsBack state.currentEpisodeRealizedPnlKrw ∧
        IsTerminating (state.currentEpisodeCostBasisKrw * routingNumber executed /
          state.currentEpisodeInventoryQuantity) := by
  have hless := hsell.executed_lt
  rw [hr.tracks.quantity.routingNumber_eq] at hless
  have hopen : 0 < state.currentEpisodeInventoryQuantity := hsell.executed_pos.trans hless
  have hquantity : exact.currentEpisodeInventoryQuantity ≠ "0" := fun hzero =>
    hopen.ne' (hr.tracks.quantity.eq_zero_iff.mp hzero)
  obtain ⟨hremaining, -⟩ := hsell.remaining_writes hr.tracks
  have hreads : ∀ fill, parseFill exact executed gross fee = .ok fill →
      ((∃ next, exactSell exact item fill remaining = .ok next) ↔
        IsTerminating (state.currentEpisodeCostBasisKrw * routingNumber executed /
          state.currentEpisodeInventoryQuantity)) := by
    intro fill hparse
    rw [← hsell.amount_executed]
    refine exactSell_isOk_iff ?_ hopen hquantity hremaining
    refine parseFill_reads hr.tracks hsell.writes_executed ?_ ?_ hparse
    · rw [numbersOf, hsell.grossQuoteValueKrw]
      exact writes_amount hsell.canonicalGross
    · rw [numbersOf, hsell.confirmedFeeKrw]
      exact writes_amount hsell.canonicalFee
  rw [hsell.advance_eq hr, ← parseFill_isOk_iff hr hsell.canonicalExecuted hsell.canonicalGross
    hsell.canonicalFee]
  constructor
  · rintro ⟨next, h⟩
    obtain ⟨fill, sold, -, hparse, hsold, -⟩ := advanceFill_eq_ok h
    rw [if_neg (by rw [hsell.isBuy]; decide)] at hsold
    exact ⟨⟨fill, hparse⟩, (hreads fill hparse).mp ⟨sold, hsold⟩⟩
  · rintro ⟨⟨fill, hparse⟩, hterminating⟩
    obtain ⟨sold, hsold⟩ := (hreads fill hparse).mpr hterminating
    refine ⟨movedTo sold item, ?_⟩
    unfold advanceFill
    rw [hsell.derived, ok_bind, (throwIf_eq_ok (u := ())).mpr (not_not.mpr rfl), ok_bind, hparse, ok_bind,
      if_neg (by rw [hsell.isBuy]; decide), hsold, ok_bind]
    rfl

/-- **A partial sell of a state that the ledger has reached goes through exactly when the share of the
cost it takes with it has a decimal representation that ends**, as long as the open profit can be read
back. -/
theorem partial_sell_projects_iff {evidence : List PositionGuardCandidateExecutionEvidence}
    (hproject : projectExactCandidateState evidence = .ok exact)
    (hsell : PartialSell exact item executed gross fee remaining)
    (hback : ReadsBack (routingNumber exact.currentEpisodeRealizedPnlKrw)) :
    (∃ next, advanceExactCandidateState exact item = .ok next) ↔
      IsTerminating (routingNumber exact.currentEpisodeCostBasisKrw * routingNumber executed /
        routingNumber exact.currentEpisodeInventoryQuantity) := by
  obtain ⟨state, hr⟩ := reached_project hproject
  rw [partialSell_isOk_iff hr hsell, hr.tracks.cost.routingNumber_eq,
    hr.tracks.quantity.routingNumber_eq]
  rw [hr.tracks.realized.routingNumber_eq] at hback
  exact and_iff_right hback

/-- An entry of three coins for `gross` KRW. -/
def threeCoins (gross : String) : List PositionGuardCandidateExecutionEvidence :=
  [pullback "a" "2026-01-02T00:00:00.000Z" .enter "3" gross "0" "3"]

/-- The exact state after it. -/
def holdingThree (gross : String) : ExactCandidateState :=
  { createExactEmptyCandidateState with
    currentEpisodeCostBasisKrw := gross
    currentEpisodeInventoryQuantity := "3"
    lastEntryPath := some .pullback
    lastEvidenceAt := some "2026-01-02T00:00:00.000Z"
    lastEvidenceId := some "a"
    stateVersion := 1 }

/-- One of the three coins is sold for 5 KRW. -/
def sellOne : PositionGuardCandidateExecutionEvidence :=
  pullback "b" "2026-01-03T00:00:00.000Z" .reduce "1" "5" "0" "2"

theorem partialSell_sellOne {exact : ExactCandidateState} (hlater : Later exact sellOne)
    (hquantity : exact.currentEpisodeInventoryQuantity = "3") :
    PartialSell exact sellOne "1" "5" "0" "2" where
  action := rfl
  later := hlater
  executedQuantity := rfl
  grossQuoteValueKrw := rfl
  confirmedFeeKrw := rfl
  remainingQuantity := rfl
  canonicalExecuted := by decide
  canonicalGross := by decide
  canonicalFee := by decide
  executed_pos := by decide +kernel
  executed_lt := by rw [hquantity]; decide +kernel
  leaves := by rw [hquantity]; decide +kernel
  gross_pos := by decide +kernel
  derived := by rw [hquantity]; decide +kernel

/-- One of three coins that cost 9 KRW takes 3 KRW with it. -/
theorem partial_sell_projects_nine :
    (∃ next, advanceExactCandidateState (holdingThree "9") sellOne = .ok next) ∧
      IsTerminating (routingNumber "9" * routingNumber "1" / routingNumber "3") := by
  have hterminating : IsTerminating (routingNumber "9" * routingNumber "1" / routingNumber "3") :=
    ⟨0, 3, by decide +kernel⟩
  exact ⟨(partial_sell_projects_iff (by decide +kernel : projectExactCandidateState (threeCoins "9") =
    .ok (holdingThree "9")) (partialSell_sellOne (by decide +kernel) rfl)
      (Or.inl (by decide +kernel))).mpr hterminating, hterminating⟩

/-- One of three coins that cost 10 KRW would take a third of 10 KRW with it. -/
theorem partial_sell_of_third_throws :
    ¬ ∀ (evidence : List PositionGuardCandidateExecutionEvidence) (exact : ExactCandidateState)
      (item : PositionGuardCandidateExecutionEvidence) (executed gross fee remaining : String),
      projectExactCandidateState evidence = .ok exact →
      PartialSell exact item executed gross fee remaining →
      ∃ next, advanceExactCandidateState exact item = .ok next := by
  intro h
  obtain ⟨next, hnext⟩ := h (threeCoins "10") (holdingThree "10") sellOne "1" "5" "0" "2"
    (by decide +kernel) (partialSell_sellOne (by decide +kernel) rfl)
  have herror : advanceExactCandidateState (holdingThree "10") sellOne =
      .error ("candidate proportional cost allocation" ++
        " does not have a terminating exact decimal representation.") := by
    decide +kernel
  rw [herror] at hnext
  cases hnext

end AutoTrade.Execution.PartialSells
