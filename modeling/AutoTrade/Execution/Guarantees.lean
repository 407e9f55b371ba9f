import AutoTrade.Execution.System

/-! # What submissions guarantee

Properties of concurrent submissions, in every reachable state of the system.

* While the order of a call blocks, no other order of its account is sent.
* A send is made once, for an order stored as `SUBMITTING`, by the holder of the lease.
* The order of a finished call that was sent blocks, unless its outcome is known to be final.
* A call that released the lease left no active order, provided no dependency failed at one of the
  few places where the service does not keep the lease. -/

namespace AutoTrade.Execution.Guarantees

open Lib Lib.Threads Lib.Run
open Domain.Types
open Db.OrderStore Db.LeaseStore
open Execution.Records Execution.Helpers Execution.Service
open Execution.CallLog Execution.CallLog.Log
open Execution.Conformance Execution.System

variable {Num : Type}

/-! ### One send at a time -/

variable {log : Log Num}

section

variable {id : String} {op : Op} {r : Reply Num op} (hall : log.Allowed op)
  (hbefore : log.sent ≠ some id) (hafter : (log.record op r).sent = some id)
include hall hbefore hafter

theorem allowed_of_sent :
    log.stage = .renewed ∧ ∃ intent, log.intent = some intent ∧ intent.id = id := by
  have hsent : (log.record op r).sent = (log.advance op r).sent := by
    unfold record
    split <;> rfl
  rw [hsent] at hafter
  cases op <;> try exact absurd hafter hbefore
  all_goals cases r <;> try exact absurd hafter hbefore
  case renewLease.ok input lease => cases lease <;> exact absurd hafter hbefore
  case runWithCurrentExecutionAuthority.ok input orderId request thrown =>
    obtain rfl := Option.some.inj hafter
    exact hall

theorem renewed_of_sent :
    log.stage = .renewed := (allowed_of_sent hall hbefore hafter).1

end

variable {w : Shared}

/-- Two calls of an account do not both send while the order of the first one blocks. -/
theorem not_blocking_of_renewed {logs : List (Log Num)} (h : Invariant w logs) {i j : ℕ}
    {a b : Log Num} (ha : logs[i]? = some a) (hb : logs[j]? = some b) {id : String}
    (hsent : a.sent = some id) (hstage : b.stage = .renewed) (haccount : a.account = b.account) :
    ¬ Blocking w.database id := by
  intro hblock
  have hca := h.calls i a ha
  have hcb := h.calls j b hb
  obtain ⟨token, htoken, hno⟩ := hca.held id hsent
  obtain ⟨other, hother, row, hrow, hrowAccount, hrowToken⟩ := hcb.renewed hstage
  have hsame : other = token := by
    rw [← hrowToken]
    exact hno hblock row hrow (hrowAccount.trans haccount.symm)
  have hmem : token ∈ b.ids := hcb.token token (hsame ▸ hother)
  by_cases hij : i = j
  · subst hij
    obtain rfl : a = b := Option.some.inj (ha.symm.trans hb)
    have hnone := hca.unsent (by simp [isBeforeSend, hstage])
    rw [hsent] at hnone
    simp at hnone
  · exact h.distinct i j a b ha hb hij token (hca.token token htoken) hmem

theorem after_concat (w : Shared) (events : List (Step Num)) (event : Step Num) :
    after w (events ++ [event]) = machine.step (after w events) event := by
  unfold after
  rw [run_append]
  rfl

variable {events : List (Step Num)}

theorem log_of_step {event : Step Num} {j : ℕ} {log log' : Log Num}
    (hd : machine.Disciplined (after w events)) (h : (after w events).ghosts[j]? = some log)
    (h' : (after w (events ++ [event])).ghosts[j]? = some log') :
    log' = log ∨ ∃ op r, log.Allowed op ∧ log' = log.record op r := by
  rw [after_concat] at h'
  obtain heq | ⟨call, -, heq⟩ | ⟨i, e, op, k, g, r, w', -, ht, -, heq⟩ :=
    Machine.step_cases (M := machine) (after w events) event
  · rw [heq] at h'
    exact Or.inl (Option.some.inj (h'.symm.trans h))
  · left
    rw [heq] at h'
    have hlt := (List.getElem?_eq_some_iff.mp h).1
    simp only [State.ghosts, List.map_append] at h' h
    rw [List.getElem?_append_left (by simpa [State.ghosts] using hlt)] at h'
    exact Option.some.inj (h'.symm.trans h)
  · rw [heq] at h'
    simp only [State.ghosts, List.map_set] at h' h
    by_cases hij : i = j
    · subst hij
      have hg : log = g := by
        rw [List.getElem?_map, ht] at h
        exact (Option.some.inj h).symm
      subst hg
      have hlt := (List.getElem?_eq_some_iff.mp h).1
      rw [List.getElem?_set_self hlt] at h'
      exact Or.inr ⟨op, r, (hd i _ ht).1, (Option.some.inj h').symm⟩
    · rw [List.getElem?_set_ne hij] at h'
      exact Or.inl (Option.some.inj (h'.symm.trans h))

/-- **One send at a time.** Once `createOrder` was invoked for the order `A`, an event that invokes it
for an order `B` of the account finds `A` no longer blocking. -/
theorem no_send_while_blocking {w : Shared} (hw : OneLeasePerAccount w.database)
    (events : List (Step Num)) (event : Step Num) {i j : ℕ} {a b b' : Log Num} {A B : String}
    (ha : (after w events).ghosts[i]? = some a) (hA : a.sent = some A)
    (hb : (after w events).ghosts[j]? = some b) (hbefore : b.sent ≠ some B)
    (hb' : (after w (events ++ [event])).ghosts[j]? = some b') (hafter : b'.sent = some B)
    (haccount : a.account = b.account) : ¬ Blocking (after w events).shared.database A := by
  obtain ⟨hd, hI⟩ := invariant_after hw events
  rcases log_of_step hd hb hb' with rfl | ⟨op, r, hall, rfl⟩
  · exact absurd hafter hbefore
  · exact not_blocking_of_renewed hI ha hb hA (renewed_of_sent hall hbefore hafter) haccount

/-- **A send is made once, for a stored order, by the holder of the lease.** When an event invokes
`createOrder` for an order, its call has sent nothing before, no call ever sent that order, the order
is stored as `SUBMITTING`, and the lease of the account is held by an id of the call. -/
theorem send_is_fenced {w : Shared} (hw : OneLeasePerAccount w.database)
    (events : List (Step Num)) (event : Step Num) {j : ℕ} {b b' : Log Num} {B : String}
    (hb : (after w events).ghosts[j]? = some b) (hbefore : b.sent ≠ some B)
    (hb' : (after w (events ++ [event])).ghosts[j]? = some b') (hafter : b'.sent = some B) :
    b.sent = none ∧ (∀ a ∈ (after w events).ghosts, a.sent ≠ some B) ∧
      (∃ row, getOrderById (after w events).shared.database B = some row ∧
        row.status = .submitting ∧ row.exchangeAccountId = b.account) ∧
      ∃ token ∈ b.ids, HeldBy (after w events).shared.database b.account token := by
  obtain ⟨hd, hI⟩ := invariant_after hw events
  have hc := hI.calls j b hb
  rcases log_of_step hd hb hb' with rfl | ⟨op, r, hall, rfl⟩
  · exact absurd hafter hbefore
  · obtain ⟨hstage, intent, hintent, rfl⟩ := allowed_of_sent hall hbefore hafter
    have hunsent : b.sent = none := hc.unsent (by simp [isBeforeSend, hstage])
    refine ⟨hunsent, fun a hmem hsent => ?_, ?_, ?_⟩
    · obtain ⟨i, hi⟩ := List.mem_iff_getElem?.mp hmem
      by_cases hij : i = j
      · subst hij
        obtain rfl : a = b := Option.some.inj (hi.symm.trans hb)
        rw [hunsent] at hsent
        cases hsent
      · obtain ⟨⟨order, horder, hid⟩, -⟩ := (hI.calls i a hi).sent _ hsent
        have hown := (hI.calls i a hi).intent order horder
        exact hI.distinct i j a b hi hb hij _ (hid ▸ hown) (hc.intent intent hintent)
    · obtain ⟨order, row, horder, hrow, hstatus, haccount⟩ := hc.submitting (Or.inr hstage)
      obtain rfl : intent = order := Option.some.inj (hintent.symm.trans horder)
      exact ⟨row, hrow, hstatus, haccount⟩
    · obtain ⟨token, htoken, hheld⟩ := hc.renewed hstage
      exact ⟨token, hc.token token htoken, hheld⟩

/-! ### Runs

Two calls that sell one bitcoin each, with the dependencies of a plain account. -/

def instant : String := "2026-01-01T00:00:00.000Z"

/-- The SHA-256 fingerprints of the keys of the two orders. -/
def fingerprints : List (String × String) :=
  [("acct|d1|KRW-BTC|ask|market|null|1",
      "8acbaa8e5b96996ce96c37c3229ba4fd287eb95c49044dcaf60980318d9df900"),
    ("KRW-BTC|ask|d1|20260101000000000",
      "8ece079e5721d08e22905af023f86ee60987964dfec7341babd1922f395e69c5"),
    ("acct|d2|KRW-BTC|ask|market|null|1",
      "4976cd2bc65fa1e03f5ac2ea99015c1a896071a777713b14de3807978c824942"),
    ("KRW-BTC|ask|d2|20260101000000000",
      "b26ee51b596e6d9f8ea88d4001e1666926ed8178a23d825c5a81144b5cbb02f8")]

/-- The functions of other modules at the values of the runs; there is no candidate route. -/
def plainLibrary : Library ℤ where
  number text := if text = "1" then 1 else if text = "100000000" then 100000000 else 0
  numberText n := toString n
  isFinite _ := true
  lt a b := a < b
  le a b := a ≤ b
  mul a b := a * b
  zero := 0
  dateParse text := if text = instant then some 1767225600000 else none
  sha256Hex text := (fingerprints.lookup text).getD ""
  assertCanonicalUpbitMarketBuyQuote _ := .ok ()
  serializeUpbitOrderDecimal n _ := .ok (toString n)
  dryRunVolume a b := toString (a / b)
  evaluateRiskGuards _ := ⟨true, []⟩
  parseCandidateEvidenceTimestamp text :=
    if text = instant then .ok 1767225600000000000 else .error "timestamp"
  formatCanonicalUtcIsoNanoseconds _ := .error "timestamp"
  validateCandidateExecutionAuthority _ := .error "authority"
  createCandidateExecutionAttemptTimestamps _ _ := .error "authority"
  deriveCandidateExecutionBinding _ _ _ _ _ := .error "authority"
  validateCandidateExecutionBinding _ := .error "authority"
  persistedPayloadMatches _ _ _ := false
  validateFinalCandidateIntent _ _ _ _ _ _ _ := .error "authority"

def plainDependencies (sendPath : SendPath) : Dependencies ℤ where
  library := plainLibrary
  riskLimits := ⟨⟨1, 1⟩, 1, 60000, 5000⟩
  sendPath := sendPath
  accountExecutionLeaseMs := 60000
  hasCandidatePilots := false
  hasStrategyDecisionReads := false
  hasReporter := false
  hasExecutionAuthority := true

def sellOne (decisionId : String) : SubmitOrderFromDecisionInput ℤ where
  exchangeAccountId := "acct"
  strategyDecisionId := some decisionId
  referencePriceCapturedAt := instant
  decision := ⟨"position_guard.paper_core.v1", .krwBtc, .exit, 100000000, none, some 1⟩
  side := .ask
  ordType := .market
  price := none
  volume := some "1"
  origin := none
  market := none
  candidateAuthority := none

def runningState (sendPath : SendPath) : ExecutionStateRecord where
  id := "state"
  exchangeAccountId := "acct"
  executionMode := executionModeForAdapter sendPath
  liveExecutionGate := if sendPath = .liveAdapter then .enabled else .disabled
  systemStatus := .running
  killSwitchActive := false
  pauseReason := none
  degradedReason := none
  degradedAt := none
  updatedAt := instant

/-- Dependencies that do not fail; the adapter throws `thrown` at once, or answers that the order
waits. -/
def plainAnswer (sendPath : SendPath) (thrown : Option Thrown) (id : String) :
    (op : Op) → Reply ℤ op
  | .assertLocallyHeld => .ok ()
  | .assertCurrent => .ok ()
  | .runWithCurrentExecutionAuthority _ _ _ => .ok thrown
  | .exchangeOrder => .ok ⟨"uuid", .ask, .market, "wait", none, [], "null"⟩
  | .now _ => .ok instant
  | .systemClock => .ok instant
  | .createId _ => .ok id
  | .getPortfolioExposure _ => .ok ⟨200000000, 100000000, ⟨100000000, 0⟩⟩
  | .getState => .ok (runningState sendPath)
  | .pauseForFault _ => .ok ()
  | .getOrderChance _ => .ok ⟨"KRW-BTC", ["market"], ["price"], none, none, none⟩
  | .testOrder _ => .ok ⟨true, true, none⟩
  | _ => .error (.error "unavailable")

/-- The next `n` awaits of the call `i`; the ids it is given start with `tag`. -/
def resumes (i : ℕ) (sendPath : SendPath) (thrown : Option Thrown) (tag : String) (n : ℕ) :
    List (Step ℤ) :=
  (List.range n).map fun k =>
    .resume i { answer := plainAnswer sendPath thrown (tag ++ toString k) }

def begin (sendPath : SendPath) (decisionId : String) : Step ℤ :=
  .start ⟨plainDependencies sendPath, sellOne decisionId⟩

/-- The first call runs to its end; the second one is about to send. -/
def twoSales : List (Step ℤ) :=
  [begin .dryRunAdapter "d1", begin .dryRunAdapter "d2"] ++
    resumes 0 .dryRunAdapter none "a" 31 ++ resumes 1 .dryRunAdapter none "b" 19

def secondSend : Step ℤ := .resume 1 { answer := plainAnswer .dryRunAdapter none "b" }

theorem getElem?_of_map_eq {α β : Type} {f : α → β} {xs : List α} {ys : List β}
    (h : xs.map f = ys) (i : ℕ) {y : β} (hy : ys[i]? = some y) : ∃ x, xs[i]? = some x ∧ f x = y := by
  rw [← h, List.getElem?_map] at hy
  exact Option.map_eq_some_iff.mp hy

/-- The account has its row, and nothing else is stored. -/
def oneAccount : Shared := { database := { exchangeAccounts := ["acct"] } }

theorem oneLeasePerAccount_oneAccount : OneLeasePerAccount oneAccount.database := List.nodup_nil

theorem twoSales_logs :
    (after oneAccount twoSales).ghosts.map (fun log => (log.sent, log.account)) =
        [(some "a10", "acct"), (none, "acct")] ∧
      (after oneAccount (twoSales ++ [secondSend])).ghosts.map (fun log => log.sent) =
        [some "a10", some "b10"] := by
  decide +kernel

theorem no_send_while_blocking_twoSales :
    ¬ Blocking (after oneAccount twoSales).shared.database "a10" := by
  obtain ⟨hbefore, hafter⟩ := twoSales_logs
  obtain ⟨a, ha, hpa⟩ := getElem?_of_map_eq hbefore 0 rfl
  obtain ⟨b, hb, hpb⟩ := getElem?_of_map_eq hbefore 1 rfl
  obtain ⟨b', hb', hpb'⟩ := getElem?_of_map_eq hafter 1 rfl
  obtain ⟨hA, haccount⟩ := Prod.mk.inj hpa
  obtain ⟨hnone, haccount'⟩ := Prod.mk.inj hpb
  exact no_send_while_blocking oneLeasePerAccount_oneAccount twoSales secondSend ha hA hb
    (by simp [hnone]) hb' hpb' (haccount.trans haccount'.symm)

/-- The second call sends, after the first one has finished. -/
theorem send_is_fenced_twoSales :
    ∃ b : Log ℤ, (after oneAccount twoSales).ghosts[1]? = some b ∧ b.sent = none ∧
      ∃ token ∈ b.ids, HeldBy (after oneAccount twoSales).shared.database b.account token := by
  obtain ⟨b, hb, hpb⟩ := getElem?_of_map_eq twoSales_logs.1 1 rfl
  obtain ⟨b', hb', hpb'⟩ := getElem?_of_map_eq twoSales_logs.2 1 rfl
  have hnone : b.sent = none := (Prod.mk.inj hpb).1
  have hfenced := send_is_fenced oneLeasePerAccount_oneAccount twoSales secondSend hb
    (by simp [hnone]) hb' hpb'
  exact ⟨b, hb, hfenced.1, hfenced.2.2.2⟩

/-! ### No send is lost -/

/-- **No send is lost.** From the send on, the order of a call is stored and blocks, unless the
adapter fulfilled with a response that results in `FILLED`, or rejected or threw with a definitive
rejection that is not about a duplicate identifier. -/
theorem sent_order_blocks {w : Shared} (hw : OneLeasePerAccount w.database)
    (events : List (Step Num)) {i : ℕ} {log : Log Num} {id : String}
    (hlog : (after w events).ghosts[i]? = some log) (hsent : log.sent = some id)
    (hclock : log.clockRefusal = false) :
    Blocking (after w events).shared.database id ∨ log.Filled ∨ log.Refused := by
  have hc := (invariant_after hw events).2.calls i log hlog
  obtain ⟨-, row, hrow, -, hstatus⟩ := hc.sent id hsent
  have hid : row.id = id := Table.key_of_select hrow
  rcases hstatus with ha | ⟨-, hf⟩ | ⟨-, hr⟩
  · left
    rw [← hid] at hrow ⊢
    exact blocking_of_activeStatus hrow ha
  · exact Or.inr (Or.inl hf)
  · rcases hr with hr | hr
    · exact Or.inr (Or.inr hr)
    · simp [hclock] at hr

/-- A definitive rejection by the exchange. -/
def insufficientFunds : Thrown :=
  .exchangeSubmission ⟨.definitiveRejection, some 400, some "insufficient_funds_ask", none, true⟩

/-- A call on the live adapter whose `createOrder` throws a definitive rejection at once. -/
def refusedSale : List (Step ℤ) :=
  [begin .liveAdapter "d1"] ++ resumes 0 .liveAdapter (some insufficientFunds) "a" 25

theorem refusedSale_log :
    (after oneAccount refusedSale).threads.map (fun thread => (thread.program.finished,
        thread.ghost.sent, thread.ghost.outcome, thread.ghost.clockRefusal)) =
      [(true, some "a10", some (.threw insufficientFunds), false)] ∧
      ¬ Blocking (after oneAccount refusedSale).shared.database "a10" := by
  decide +kernel

theorem sent_order_blocks_refusedSale :
    ∃ log : Log ℤ, (after oneAccount refusedSale).ghosts[0]? = some log ∧
      (Blocking (after oneAccount refusedSale).shared.database "a10" ∨ log.Filled ∨ log.Refused) := by
  obtain ⟨thread, hthread, hlog⟩ := getElem?_of_map_eq refusedSale_log.1 0 rfl
  have hghost : (after oneAccount refusedSale).ghosts[0]? = some thread.ghost := by
    simp [State.ghosts, hthread]
  simp only [Prod.mk.injEq] at hlog
  exact ⟨thread.ghost, hghost,
    sent_order_blocks oneLeasePerAccount_oneAccount refusedSale hghost hlog.2.1 hlog.2.2.2⟩

/-- The adapter may also throw the rejection, before it gives a promise: the order is `REJECTED` and
does not block, and the adapter neither fulfilled nor rejected. -/
theorem thrown_rejection_does_not_block :
    ¬ ∀ (events : List (Step ℤ)) (i : ℕ) (thread : Thread Op (Reply ℤ)
        (Except Thrown SubmitOrderFromDecisionResult × Locals) (Log ℤ)) (id : String),
      (after oneAccount events).threads[i]? = some thread → thread.program.finished = true →
      thread.ghost.sent = some id → thread.ghost.clockRefusal = false →
      Blocking (after oneAccount events).shared.database id ∨ thread.ghost.Filled ∨
        ∃ e, thread.ghost.outcome = some (.rejected e) ∧ isDefinitiveRejection e = true := by
  intro h
  obtain ⟨thread, hthread, hlog⟩ := getElem?_of_map_eq refusedSale_log.1 0 rfl
  simp only [Prod.mk.injEq] at hlog
  obtain ⟨hfinished, hsent, houtcome, hclock⟩ := hlog
  rcases h refusedSale 0 thread "a10" hthread hfinished hsent hclock with hb | hf | hr
  · exact refusedSale_log.2 hb
  · obtain ⟨snapshot, hs, -⟩ := hf
    simp [houtcome] at hs
  · obtain ⟨e, he, -⟩ := hr
    simp [houtcome] at he

/-! ### The lease is kept -/

/-- No method of the database has an effect and throws, and no dependency fails where the service
does not keep the lease. -/
def Tolerable (w : Shared) (reaction : Reaction Num) (log : Log Num) (op : Op) : Prop :=
  (∀ e, reaction.fault ≠ .after e) ∧
    ∀ r w', perform w reaction op = some (r, w') → log.slips op r = false

instance Tolerable.decidable (w : Shared) (reaction : Reaction Num) (log : Log Num) (op : Op) :
    Decidable (Tolerable w reaction log op) :=
  decidable_of_iff ((match reaction.fault with
      | .after _ => false
      | _ => true) = true ∧
      ((perform w reaction op).any fun answer => log.slips op answer.1) = false) (by
    unfold Tolerable
    refine and_congr ?_ ?_
    · cases reaction.fault <;> simp
    · cases hp : perform w reaction op with
      | none => simp
      | some answer => simp [Prod.ext_iff])

/-- The order the call persisted. -/
def persistedOrder (log : Log Num) : Option OrderRecord :=
  if log.stage = .starting then none else log.intent

/-- The statuses in which an order is still active. -/
def retainingStatuses : List OrderLifecycleStatus :=
  [.persisted, .submitting, .open, .partiallyFilled, .reconciliationRequired]

theorem stage_advance_ne_abandoned (h : log.stage ≠ .abandoned) (op : Op) (r : Reply Num op) :
    (log.advance op r).stage ≠ .abandoned := by
  have hif : ∀ (c : Bool) (stage : Stage), stage ≠ .abandoned →
      (if c = true then stage else log.stage) ≠ .abandoned := by
    intro c stage hstage
    cases c
    · exact h
    · exact hstage
  unfold Log.advance
  split <;> first | exact h | exact hif _ _ (by decide) | simp

theorem Tolerable.record_stage {w w' : Shared} {reaction : Reaction Num} {op : Op}
    {r : Reply Num op} (h : Tolerable w reaction log op)
    (hp : perform w reaction op = some (r, w')) (hstage : log.stage ≠ .abandoned) :
    (log.record op r).stage ≠ .abandoned := by
  rw [record_of_not_slips (h.2 r w' hp)]
  exact stage_advance_ne_abandoned hstage op r

theorem not_abandoned_after (hw : OneLeasePerAccount w.database)
    (hrun : SafeRun machine.step (Machine.StepMeets Tolerable) ⟨w, []⟩ events) :
    Invariant (after w events).shared (after w events).ghosts ∧
      ∀ log ∈ (after w events).ghosts, log.stage ≠ .abandoned := by
  refine (Machine.reach (M := machine)
    (fun call => follows_submitOrderFromDecision call.deps call.input)
    (fun w e op r w' h => possible_of_perform h) Tolerable
    (fun w gs => Invariant w gs ∧ ∀ log ∈ gs, log.stage ≠ .abandoned) ?_ ?_
    ⟨invariant_start hw, by simp⟩ hrun).2
  · rintro w gs call ⟨hI, hstages⟩
    refine ⟨hI.spawn call, fun log hlog => ?_⟩
    rcases List.mem_append.mp hlog with hold | hnew
    · exact hstages log hold
    · rw [List.mem_singleton.mp hnew]
      simp [machine, initialLog]
  · rintro w gs i g e op r w' ⟨hI, hstages⟩ hg hall hsafe hp
    refine ⟨hI.perform hg hall hp, fun log hlog => ?_⟩
    rcases List.mem_or_eq_of_mem_set hlog with hold | rfl
    · exact hstages log hold
    · exact hsafe.record_stage hp (hstages g (List.mem_of_getElem? hg))

/-- **The lease is kept.** In a run whose steps are all tolerable, a call that released the lease of
the account left no order of its own in an active status. -/
theorem released_lease_left_no_active_order {w : Shared} (hw : OneLeasePerAccount w.database)
    {events : List (Step Num)}
    (hrun : SafeRun machine.step (Machine.StepMeets Tolerable) ⟨w, []⟩ events) {i : ℕ}
    {log : Log Num} (hlog : (after w events).ghosts[i]? = some log) {order row : OrderRecord}
    (horder : persistedOrder log = some order)
    (hrow : getOrderById (after w events).shared.database order.id = some row)
    (hactive : row.status ∈ retainingStatuses) : log.released = false := by
  obtain ⟨hI, hstages⟩ := not_abandoned_after hw hrun
  have hc := hI.calls i log hlog
  by_contra hreleased
  rw [Bool.not_eq_false] at hreleased
  unfold persistedOrder at horder
  split at horder
  · simp at horder
  · rename_i hstarted
    rcases hc.released hreleased with hs | hs | hs
    · exact hstarted hs
    · obtain ⟨own, stored, hown, hstored, hstatus⟩ := hc.settled hs
      obtain rfl : own = order := Option.some.inj (hown.symm.trans horder)
      obtain rfl : stored = row := Option.some.inj (hstored.symm.trans hrow)
      rcases hstatus with hf | hr
      · rw [hf] at hactive
        revert hactive
        decide
      · rw [hr] at hactive
        revert hactive
        decide
    · exact hstages log (List.mem_of_getElem? hlog) hs

/-- A sale that has become `SUBMITTING`. -/
def pendingSale : List (Step ℤ) :=
  [begin .dryRunAdapter "d1"] ++ resumes 0 .dryRunAdapter none "a" 16

theorem pendingSale_log :
    SafeRun machine.step (Machine.StepMeets Tolerable) ⟨oneAccount, []⟩ pendingSale ∧
      (after oneAccount pendingSale).ghosts.map (fun log => (persistedOrder log).map OrderRecord.id) =
        [some "a10"] ∧
      (getOrderById (after oneAccount pendingSale).shared.database "a10").map OrderRecord.status =
        some .submitting := by
  decide +kernel

theorem released_lease_left_no_active_order_pendingSale :
    ∃ log : Log ℤ, (after oneAccount pendingSale).ghosts[0]? = some log ∧ log.released = false := by
  obtain ⟨hrun, hlogs, hrow⟩ := pendingSale_log
  obtain ⟨log, hlog, horder⟩ := getElem?_of_map_eq hlogs 0 rfl
  obtain ⟨order, hpersisted, hid⟩ := Option.map_eq_some_iff.mp horder
  obtain ⟨row, hstored, hstatus⟩ := Option.map_eq_some_iff.mp hrow
  refine ⟨log, hlog, released_lease_left_no_active_order oneLeasePerAccount_oneAccount hrun hlog
    hpersisted (by rw [hid]; exact hstored) ?_⟩
  rw [hstatus]
  decide

/-- The methods of the database apply or throw without an effect. -/
def Lossless : Step Num → Prop
  | .start _ => True
  | .resume _ reaction => ∀ e, reaction.fault ≠ .after e

/-- The order could not be made `SUBMITTING`: nothing takes the flag down on this way out. -/
def failedUpdate : List (Step ℤ) :=
  [begin .dryRunAdapter "d1"] ++ resumes 0 .dryRunAdapter none "a" 13 ++
    [.resume 0 { fault := .before (.error "database is locked")
                 answer := plainAnswer .dryRunAdapter none "a" }] ++
    resumes 0 .dryRunAdapter none "c" 2

theorem failedUpdate_log :
    (after oneAccount failedUpdate).threads.map (fun thread => (thread.program.finished,
        (persistedOrder thread.ghost).map OrderRecord.id, thread.ghost.released)) =
      [(true, some "a10", true)] ∧
      (getOrderById (after oneAccount failedUpdate).shared.database "a10").map OrderRecord.status =
        some .persisted := by
  decide +kernel

theorem failedUpdate_lossless : ∀ event ∈ failedUpdate, Lossless event := by
  intro event hevent
  simp only [failedUpdate, begin, resumes, List.mem_append, List.mem_singleton,
    List.mem_map] at hevent
  rcases hevent with ((rfl | ⟨k, -, rfl⟩) | rfl) | ⟨k, -, rfl⟩ <;> simp [Lossless]

/-- A call can release the lease and leave its order `PERSISTED`. -/
theorem failed_update_releases_lease :
    ¬ ∀ (events : List (Step ℤ)) (i : ℕ) (thread : Thread Op (Reply ℤ)
        (Except Thrown SubmitOrderFromDecisionResult × Locals) (Log ℤ)) (order row : OrderRecord),
      (∀ event ∈ events, Lossless event) → (after oneAccount events).threads[i]? = some thread →
      thread.program.finished = true → persistedOrder thread.ghost = some order →
      getOrderById (after oneAccount events).shared.database order.id = some row →
      row.status ∈ retainingStatuses → thread.ghost.released = false := by
  intro h
  obtain ⟨hlogs, hrow⟩ := failedUpdate_log
  obtain ⟨thread, hthread, hlog⟩ := getElem?_of_map_eq hlogs 0 rfl
  simp only [Prod.mk.injEq] at hlog
  obtain ⟨hfinished, horder, hreleased⟩ := hlog
  obtain ⟨order, hpersisted, hid⟩ := Option.map_eq_some_iff.mp horder
  obtain ⟨row, hstored, hstatus⟩ := Option.map_eq_some_iff.mp hrow
  have hkept := h failedUpdate 0 thread order row failedUpdate_lossless hthread hfinished hpersisted
    (by rw [hid]; exact hstored) (by rw [hstatus]; decide)
  simp [hreleased] at hkept

end AutoTrade.Execution.Guarantees
