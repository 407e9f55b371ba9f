import AutoTrade.Execution.Guarantees

/-! # What an acknowledged submission is stored as

When the adapter has answered, the service builds the record set of the submission from the
response: the order with the status the response maps to, the rows of its fills and one or two
events. The store checks that the status agrees with the fills. A response that does not agree is
refused there, and the acknowledged order becomes a post-send persistence fault.

* `Storable`: what the response has to say for the two to agree.
* `stored_iff`: the record set passes, and the order is returned as accepted, exactly then. -/

namespace AutoTrade.Execution.SubmissionRecords

open Lib.Awaits Lib.Awaits.Async Lib.Result Domain.Types
open Domain.PilotTypes (CandidateExecutionBindingRecord)
open Db.LifecycleValidation Execution.Records Execution.Helpers
open Execution.Service
open Execution.Conformance (mapExchangeOrderStatus_ne_rejected)

variable {Num : Type} {a : Attempt Num} {intent : Attempt.Intent} {snapshot : ExchangeOrderSnapshot}
  {s : Locals} {ids : List String}

/-! ### The checks of the store -/

variable {fills : List FillRecord} {order : OrderRecord}

theorem validateSubmissionStatus_eq_ok_iff :
    validateSubmissionStatus order fills = .ok () ↔
      (order.status = .open ∧ fills = []) ∨
        ((order.status = .partiallyFilled ∨ order.status = .filled) ∧ fills ≠ []) ∨
        (order.status = .rejected ∧ fills = []) := by
  unfold validateSubmissionStatus
  cases order.status <;> simp [List.length_eq_zero_iff]

/-- The rows of an order, each under an id and an exchange id of its own. -/
structure RowsOf (order : OrderRecord) (fills : List FillRecord) : Prop where
  linked : ∀ fill ∈ fills,
    fill.orderId = order.id ∧ fill.market = order.market ∧ fill.side = order.side
  ids : (fills.map FillRecord.id).Nodup
  exchangeIds : (fills.map FillRecord.exchangeFillId).Nodup

theorem fillExchangeIdentity_inj {left right : FillRecord} (horder : left.orderId = right.orderId)
    (h : fillExchangeIdentity left = fillExchangeIdentity right) :
    left.exchangeFillId = right.exchangeFillId := by
  have htext := congrArg String.toList h
  simp only [fillExchangeIdentity, horder, String.toList_append, List.append_cancel_left_eq] at htext
  exact String.toList_injective htext

theorem validateFills_of_rows {ids identities : List String} (h : RowsOf order fills)
    (hids : ∀ fill ∈ fills, fill.id ∉ ids)
    (hidentities : ∀ fill ∈ fills, fillExchangeIdentity fill ∉ identities) :
    validateFills order ids identities fills = .ok () := by
  induction fills generalizing ids identities with
  | nil => rfl
  | cons fill rest ih =>
    obtain ⟨hlinked, hnodup, hexchange⟩ := h
    rw [List.map_cons, List.nodup_cons] at hnodup hexchange
    rw [List.forall_mem_cons] at hlinked hids hidentities
    obtain ⟨⟨horder, hmarket, hside⟩, hrest⟩ := hlinked
    rw [validateFills, guard_eq_ok]
    refine ⟨?_, ih ⟨hrest, hnodup.2, hexchange.2⟩ ?_ ?_⟩
    · rintro (h | h | h | h | h)
      · exact h horder
      · exact h hmarket
      · exact h hside
      · exact hids.1 h
      · exact hidentities.1 h
    · intro row hrow hmem
      rcases List.mem_cons.mp hmem with heq | hmem
      · exact hnodup.1 (heq ▸ List.mem_map_of_mem hrow)
      · exact hids.2 row hrow hmem
    · intro row hrow hmem
      rcases List.mem_cons.mp hmem with heq | hmem
      · have hsame := fillExchangeIdentity_inj ((hrest row hrow).1.trans horder.symm) heq
        exact hexchange.1 (hsame ▸ List.mem_map_of_mem hrow)
      · exact hidentities.2 row hrow hmem

/-- An event of the order, of the given type and the source of its mode. -/
structure EventOf (order : OrderRecord) (type : String) (event : OrderEventRecord) : Prop where
  orderId : event.orderId = order.id
  eventType : event.eventType = type
  eventSource : event.eventSource = eventSourceForExecutionMode order.executionMode

variable {event : OrderEventRecord}

theorem validateOrderEvent_of_event {type : String} (h : EventOf order type event) :
    validateOrderEvent order event type (eventSourceForExecutionMode order.executionMode) =
      .ok () := by
  rw [validateOrderEvent, guard_eq_ok]
  refine ⟨?_, rfl⟩
  rintro (hne | hne | hne)
  · exact hne h.orderId
  · exact hne h.eventType
  · exact hne h.eventSource

/-- The events of a submission: a second one, under another id, exactly for a `FILLED` order. -/
structure EventsOf (order : OrderRecord) (event : OrderEventRecord)
    (terminal : Option OrderEventRecord) : Prop where
  submitted : EventOf order "ORDER_SUBMITTED" event
  filled : order.status = .filled → ∃ last, terminal = some last ∧ EventOf order "ORDER_FILLED" last ∧
    last.id ≠ event.id
  others : order.status ≠ .filled → terminal = none

/-- **A record set whose parts belong together passes when its status agrees with its fills.** -/
theorem validate_eq_ok_iff {terminal : Option OrderEventRecord} (hrows : RowsOf order fills)
    (hevents : EventsOf order event terminal) (hrejected : order.status ≠ .rejected) :
    validateExchangeSubmissionInput ⟨order, event, fills, terminal⟩ = .ok () ↔
      validateSubmissionStatus order fills = .ok () := by
  have hfills : validateFills order [] [] fills = .ok () :=
    validateFills_of_rows hrows (fun _ _ => List.not_mem_nil) fun _ _ => List.not_mem_nil
  have hevent := validateOrderEvent_of_event hevents.submitted
  unfold validateExchangeSubmissionInput
  rw [guard_eq_ok, then_eq_ok, then_eq_ok, then_eq_ok, if_neg hrejected]
  have hterminal : validateTerminalEvent ⟨order, event, fills, terminal⟩ = .ok () := by
    unfold validateTerminalEvent
    by_cases hfilled : order.status = .filled
    · obtain ⟨last, hlast, hof, -⟩ := hevents.filled hfilled
      rw [hlast]
      exact guard_eq_ok.mpr ⟨not_not.mpr hfilled, validateOrderEvent_of_event hof⟩
    · rw [hevents.others hfilled]
      exact guard_eq_ok.mpr ⟨hfilled, rfl⟩
  have hdistinct : ¬ (terminal.any fun last => last.id = event.id) = true := by
    by_cases hfilled : order.status = .filled
    · obtain ⟨last, hlast, -, hne⟩ := hevents.filled hfilled
      simp [hlast, hne]
    · simp [hevents.others hfilled]
  exact ⟨fun h => h.2.1, fun h => ⟨hdistinct, h, hevent, hterminal, hfills⟩⟩

/-! ### The response and its answers -/

/-- The ids created so far and the trade ids of the response are all different. -/
def Fresh (snapshot : ExchangeOrderSnapshot) (ids : List String) : Prop :=
  (ids ++ snapshot.fills.filterMap ExchangeFillSnapshot.tradeUuid).Nodup

theorem Fresh.of_append {new ids : List String} (h : Fresh snapshot (new ++ ids)) :
    Fresh snapshot ids := by
  unfold Fresh at h ⊢
  rw [List.append_assoc] at h
  exact h.of_append_right

/-- The response gives the fills that its status asks for; the dry-run adapter settles as `FILLED`
and can simulate a fill. -/
def Storable (a : Attempt Num) (snapshot : ExchangeOrderSnapshot) : Prop :=
  match a.deps.sendPath with
  | .liveAdapter =>
    if snapshot.state = "done" then snapshot.fills ≠ []
    else if snapshot.state = "cancel" then
      snapshot.side = .bid ∧ snapshot.ordType = .price ∧
        hasExecutedVolume a.deps.library snapshot.executedVolume = true ∧ snapshot.fills ≠ []
    else hasExecutedVolume a.deps.library snapshot.executedVolume = true ↔ snapshot.fills ≠ []
  | .dryRunAdapter =>
    snapshot.fills ≠ [] ∨ (dryRunFillTerms a.deps.library a.input).isSome = true

/-- The exchange acknowledges with this response, nothing else fails, and the store takes a record
set when it is valid. -/
def Answered (a : Attempt Num) (snapshot : ExchangeOrderSnapshot) :
    (op : Op) → Reply Num op → Prop
  | .exchangeOrder, reply => reply = .ok snapshot
  | .assertCurrent, reply => reply = .ok ()
  | .createId _, reply => ∃ id, reply = .ok id
  | .now _, reply =>
    ∃ time epochNs, reply = .ok time ∧
      a.deps.library.parseCandidateEvidenceTimestamp time = .ok epochNs
  | .persistExchangeSubmission input, reply =>
    reply = .ok () ↔ validateExchangeSubmissionInput input = .ok ()
  | _, _ => True

/-- The ids given so far. A record set must pass exactly when the response is storable. -/
def responses (a : Attempt Num) (snapshot : ExchangeOrderSnapshot) :
    Protocol Op (Reply Num) (List String) where
  allowed ids
    | .persistExchangeSubmission input =>
      Fresh snapshot ids →
        (validateExchangeSubmissionInput input = .ok () ↔ Storable a snapshot)
    | _ => True
  possible := Answered a snapshot
  next ids
    | .createId _, .ok id => id :: ids
    | _, _ => ids

theorem follows_exchangeFills {orderId : String} {fills : List ExchangeFillSnapshot}
    (hsides : ∀ fill ∈ fills, fill.side = a.input.side) :
    Follows (responses a snapshot) (a.exchangeFills orderId fills) s ids fun r s' ids' =>
      s' = s ∧ ∃ rows new, r = .ok rows ∧ ids' = new ++ ids ∧ (rows = [] ↔ fills = []) ∧
        (∀ row ∈ rows, row.orderId = orderId ∧ row.market = a.market ∧ row.side = a.input.side) ∧
        (rows.map FillRecord.id ++ rows.map FillRecord.exchangeFillId).Perm
          (new ++ fills.filterMap ExchangeFillSnapshot.tradeUuid) := by
  induction fills generalizing ids with
  | nil =>
    exact ⟨rfl, [], [], rfl, rfl, iff_of_true rfl rfl, fun _ h => absurd h List.not_mem_nil,
      .refl _⟩
  | cons fill fills ih =>
    rw [List.forall_mem_cons] at hsides
    refine follows_bind.mpr (follows_await.mpr ⟨trivial, fun r hr => ?_⟩)
    obtain ⟨id, rfl⟩ := hr
    refine follows_bind.mpr ?_
    unfold Attempt.exchangeFillIdOf
    cases htrade : fill.tradeUuid with
    | some tradeUuid =>
      refine follows_pure.mpr (follows_bind.mpr ((ih hsides.2).mono fun r s' ids' hr => ?_))
      obtain ⟨rfl, rows, new, rfl, rfl, -, hrows, hperm⟩ := hr
      refine ⟨rfl, _, new ++ [id], rfl, by simp [responses], by simp, ?_, ?_⟩
      · exact List.forall_mem_cons.mpr ⟨⟨rfl, rfl, hsides.1⟩, hrows⟩
      · rw [List.perm_iff_count] at hperm ⊢
        intro value
        have hcount := hperm value
        simp only [List.filterMap_cons_some htrade, List.map_cons, List.count_append, List.count_cons,
          List.count_nil] at hcount ⊢
        omega
    | none =>
      refine follows_await.mpr ⟨trivial, fun r hr => ?_⟩
      obtain ⟨exchangeFillId, rfl⟩ := hr
      refine follows_bind.mpr ((ih hsides.2).mono fun r s' ids' hr => ?_)
      obtain ⟨rfl, rows, new, rfl, rfl, -, hrows, hperm⟩ := hr
      refine ⟨rfl, _, new ++ [exchangeFillId, id], rfl, by simp [responses], by simp, ?_, ?_⟩
      · exact List.forall_mem_cons.mpr ⟨⟨rfl, rfl, hsides.1⟩, hrows⟩
      · rw [List.perm_iff_count] at hperm ⊢
        intro value
        have hcount := hperm value
        simp only [List.filterMap_cons_none htrade, List.map_cons, List.count_append, List.count_cons,
          List.count_nil] at hcount ⊢
        omega

/-! ### The record set -/

/-- The order of the response and the rows of its fills. -/
structure Responded (a : Attempt Num) (intent : Attempt.Intent) (snapshot : ExchangeOrderSnapshot)
    (order : OrderRecord) (fills : List FillRecord) (ids : List String) : Prop where
  id : order.id = intent.order.id
  market : order.market = a.market
  side : order.side = a.input.side
  mode : order.executionMode = executionModeForAdapter a.deps.sendPath
  status : order.status = mapExchangeOrderStatus a.deps.library snapshot
  rows : Fresh snapshot ids → RowsOf order fills
  none : fills = [] ↔ snapshot.fills = []

/-- The order and the rows that are handed to the store. -/
structure Settled (a : Attempt Num) (intent : Attempt.Intent) (snapshot : ExchangeOrderSnapshot)
    (order : OrderRecord) (fills : List FillRecord) (ids : List String) : Prop where
  id : order.id = intent.order.id
  mode : order.executionMode = executionModeForAdapter a.deps.sendPath
  rows : Fresh snapshot ids → RowsOf order fills
  notRejected : order.status ≠ .rejected
  agrees : validateSubmissionStatus order fills = .ok () ↔ Storable a snapshot

section

variable (h : Responded a intent snapshot order fills ids) (hpath : a.deps.sendPath = .liveAdapter)
include h hpath

theorem status_agrees_iff :
    validateSubmissionStatus order fills = .ok () ↔ Storable a snapshot := by
  rw [validateSubmissionStatus_eq_ok_iff, h.status, Storable, hpath, Ne, h.none]
  unfold mapExchangeOrderStatus
  dsimp only
  split_ifs with hdone hcancel hfilled hexecuted
  · simp
  · simp [hfilled]
  · simp only [false_and, or_false, false_iff]
    exact fun hall => hfilled ⟨hall.1, hall.2.1, hall.2.2.1⟩
  · simp [hexecuted]
  · simp [hexecuted]

theorem Responded.settled_live :
    Settled a intent snapshot order fills ids where
  id := h.id
  mode := h.mode
  rows := h.rows
  notRejected := by
    rw [h.status]
    exact mapExchangeOrderStatus_ne_rejected _ _
  agrees := status_agrees_iff h hpath

end

/-- The simulated fill, when its terms give one, is a row of the order. -/
theorem follows_createDryRunSyntheticFill {filledAt raw : String} {epochNs : ℤ}
    (hfilledAt : a.deps.library.parseCandidateEvidenceTimestamp filledAt = .ok epochNs) :
    Follows (responses a snapshot) (a.createDryRunSyntheticFill intent.order.id filledAt raw) s ids
      fun r s' ids' => s' = s ∧ ∃ fill new, r = .ok fill ∧ ids' = new ++ ids ∧
        fill.isSome = (dryRunFillTerms a.deps.library a.input).isSome ∧
        ∀ row, fill = some row →
          row.orderId = intent.order.id ∧ row.market = a.market ∧ row.side = a.input.side := by
  unfold Attempt.createDryRunSyntheticFill
  cases hterms : dryRunFillTerms a.deps.library a.input with
  | none => exact ⟨rfl, none, [], rfl, rfl, rfl, fun _ h => absurd h (by simp)⟩
  | some terms =>
    obtain ⟨price, volume⟩ := terms
    refine follows_bind.mpr (follows_await.mpr ⟨trivial, fun r hr => ?_⟩)
    obtain ⟨id, rfl⟩ := hr
    refine follows_bind.mpr (follows_await.mpr ⟨trivial, fun r hr => ?_⟩)
    obtain ⟨exchangeFillId, rfl⟩ := hr
    refine follows_bind.mpr (follows_lift.mpr ?_)
    rw [hfilledAt]
    refine ⟨rfl, _, [exchangeFillId, id], rfl, rfl, rfl, ?_⟩
    rintro row hrow
    rw [← Option.some.inj hrow]
    exact ⟨rfl, rfl, rfl⟩

theorem follows_throwPostSendPersistenceFailure {α : Type} (order : OrderRecord)
    (account occurredAt reason : String) :
    Follows (responses a snapshot)
      (throwPostSendPersistenceFailure order account occurredAt reason : Service Num α) s ids
      fun r _ ids' => ids' = ids ∧ ∃ e, r = .error e := by
  unfold throwPostSendPersistenceFailure pauseForFault
  refine follows_bind.mpr (follows_catching.mpr (follows_await.mpr ⟨trivial, fun r _ => ?_⟩))
  cases r with
  | ok _ => exact ⟨rfl, _, rfl⟩
  | error e => exact ⟨rfl, _, rfl⟩

theorem rowsOf_singleton {row : FillRecord}
    (h : row.orderId = order.id ∧ row.market = order.market ∧ row.side = order.side) :
    RowsOf order [row] where
  linked := List.forall_mem_singleton.mpr h
  ids := List.nodup_singleton _
  exchangeIds := List.nodup_singleton _

/-- What is settled, and that the dry-run adapter finds no fill when the response has none and none
can be simulated. -/
theorem follows_settleDryRun {responded : OrderRecord}
    (h : Responded a intent snapshot responded fills ids) :
    Follows (responses a snapshot) (a.settleDryRun intent snapshot responded fills) s ids
      fun r _ ids' => match r with
        | .ok (order, rows) => Settled a intent snapshot order rows ids'
        | .error _ => ¬ Storable a snapshot := by
  unfold Attempt.settleDryRun
  cases hpath : a.deps.sendPath with
  | liveAdapter => exact h.settled_live hpath
  | dryRunAdapter =>
    refine follows_bind.mpr (follows_await.mpr ⟨trivial, fun r hr => ?_⟩)
    obtain ⟨settledAt, epochNs, rfl, hepoch⟩ := hr
    refine follows_bind.mpr ((follows_createDryRunSyntheticFill hepoch).mono fun r s' ids' hr => ?_)
    obtain ⟨rfl, fill, new, rfl, rfl, hsome, hfill⟩ := hr
    have hstorable : Storable a snapshot ↔ fills ≠ [] ∨ fill.isSome = true := by
      rw [Storable, hpath, hsome, Ne, Ne, h.none]
    dsimp only
    by_cases hnil : fills = []
    · rw [if_pos hnil]
      cases fill with
      | none =>
        refine follows_bind.mpr (follows_assign.mpr ?_)
        refine (follows_throwPostSendPersistenceFailure _ _ _ _).mono fun r s'' ids'' hr => ?_
        obtain ⟨-, e, rfl⟩ := hr
        rw [hstorable]
        simp [hnil]
      | some row =>
        obtain ⟨horder, hmarket, hside⟩ := hfill row rfl
        refine ⟨h.id, h.mode, fun _ => rowsOf_singleton ?_, by simp, ?_⟩
        · exact ⟨horder.trans h.id.symm, hmarket.trans h.market.symm, hside.trans h.side.symm⟩
        · rw [hstorable, validateSubmissionStatus_eq_ok_iff]
          simp
    · rw [if_neg hnil, if_neg hnil]
      refine ⟨h.id, h.mode, fun hfresh => ?_, by simp, ?_⟩
      · obtain ⟨hlinked, hids, hexchange⟩ := h.rows hfresh.of_append
        exact ⟨hlinked, hids, hexchange⟩
      · rw [hstorable, validateSubmissionStatus_eq_ok_iff]
        simp [hnil]

/-! ### The run -/

/-- The locals after `createOrder` gave its promise. -/
def afterSend (s : Locals) : Locals :=
  { s with synchronousSubmissionError := none, exchangeOrderStarted := true }

theorem eventSource_of_mode (h : order.executionMode = executionModeForAdapter a.deps.sendPath) :
    eventSourceForAdapter a.deps.sendPath = eventSourceForExecutionMode order.executionMode := by
  rw [h]
  cases a.deps.sendPath <;> rfl

theorem follows_terminalEvent {count : ℕ}
    (hmode : order.executionMode = executionModeForAdapter a.deps.sendPath) :
    Follows (responses a snapshot) (a.terminalEvent snapshot order count) s ids fun r s' ids' =>
      s' = s ∧ ∃ terminal new, r = .ok terminal ∧ ids' = new ++ ids ∧
        (order.status = .filled → ∃ last, terminal = some last ∧
          EventOf order "ORDER_FILLED" last ∧ new = [last.id]) ∧
        (order.status ≠ .filled → terminal = none) := by
  unfold Attempt.terminalEvent
  by_cases hfilled : order.status = .filled
  · rw [if_pos hfilled]
    refine follows_bind.mpr (follows_await.mpr ⟨trivial, fun r hr => ?_⟩)
    obtain ⟨id, rfl⟩ := hr
    refine ⟨rfl, _, [id], rfl, rfl, fun _ => ⟨_, rfl, ⟨rfl, rfl, ?_⟩, rfl⟩, fun h => absurd hfilled h⟩
    exact eventSource_of_mode hmode
  · rw [if_neg hfilled]
    exact ⟨rfl, none, [], rfl, rfl, fun h => absurd h hfilled, fun _ => rfl⟩

theorem follows_persistSubmission (h : Settled a intent snapshot order fills ids) :
    Follows (responses a snapshot) (a.persistSubmission intent snapshot order fills) s ids
      fun r _ ids' => Fresh snapshot ids' → (r = .ok () ↔ Storable a snapshot) := by
  unfold Attempt.persistSubmission
  refine follows_bind.mpr (follows_assign.mpr (follows_catching.mpr ?_))
  refine follows_bind.mpr (follows_await.mpr ⟨trivial, fun r hr => ?_⟩)
  obtain ⟨eventId, rfl⟩ := hr
  refine follows_bind.mpr ((follows_terminalEvent h.mode).mono fun r s₁ ids₁ hr => ?_)
  obtain ⟨rfl, terminal, new, rfl, rfl, hfilled, hothers⟩ := hr
  have hvalid : Fresh snapshot (new ++ eventId :: ids) →
      (validateExchangeSubmissionInput ⟨order, ⟨eventId, intent.order.id, "ORDER_SUBMITTED",
        eventSourceForAdapter a.deps.sendPath, snapshot.raw, order.updatedAt⟩, fills, terminal⟩ =
          .ok () ↔ Storable a snapshot) := by
    intro hfresh
    have hrest : Fresh snapshot ([eventId] ++ ids) := hfresh.of_append
    have hids : Fresh snapshot ids := hrest.of_append
    have hevents : EventsOf order ⟨eventId, intent.order.id, "ORDER_SUBMITTED",
        eventSourceForAdapter a.deps.sendPath, snapshot.raw, order.updatedAt⟩ terminal := by
      refine ⟨⟨h.id.symm, rfl, eventSource_of_mode h.mode⟩, fun hstatus => ?_, hothers⟩
      obtain ⟨last, hlast, hof, hnew⟩ := hfilled hstatus
      refine ⟨last, hlast, hof, fun heq => ?_⟩
      rw [hnew, heq] at hfresh
      exact (List.nodup_cons.mp hfresh).1 List.mem_cons_self
    rw [validate_eq_ok_iff (h.rows hids) hevents h.notRejected, h.agrees]
  refine follows_await.mpr ⟨hvalid, fun r hr => ?_⟩
  change r = .ok () ↔ _ at hr
  cases r with
  | ok _ =>
    intro hfresh
    exact iff_of_true rfl ((hvalid hfresh).mp (hr.mp rfl))
  | error e =>
    refine follows_bind.mpr (follows_await.mpr ⟨trivial, fun r' hr' => ?_⟩)
    obtain ⟨time, epochNs, rfl, -⟩ := hr'
    refine (follows_throwPostSendPersistenceFailure _ _ _ _).mono fun r'' s'' ids'' hr'' => ?_
    obtain ⟨rfl, e', rfl⟩ := hr''
    intro hfresh
    refine iff_of_false (by simp) fun hstorable => ?_
    exact absurd (hr.mpr ((hvalid hfresh).mpr hstorable)) (by simp)

theorem rowsOf_of_perm {rows : List FillRecord} {new tradeIds : List String}
    (hlinked : ∀ row ∈ rows, row.orderId = order.id ∧ row.market = order.market ∧
      row.side = order.side)
    (hperm : (rows.map FillRecord.id ++ rows.map FillRecord.exchangeFillId).Perm (new ++ tradeIds))
    (hnodup : (new ++ tradeIds).Nodup) : RowsOf order rows := by
  have hall := hperm.nodup_iff.mpr hnodup
  exact ⟨hlinked, hall.of_append_left, hall.of_append_right⟩

theorem follows_awaitExchangeOrder (hsync : s.synchronousSubmissionError = none)
    (hstarted : s.exchangeOrderStarted = true) :
    Follows (responses a snapshot) (Attempt.awaitExchangeOrder : Service Num _) s ids
      fun r s' ids' => s' = s ∧ ids' = ids ∧ r = .ok snapshot := by
  unfold Attempt.awaitExchangeOrder Attempt.assertCurrentAfterAdapter
  refine follows_bind.mpr (follows_locals.mpr ?_)
  dsimp only
  rw [hsync]
  dsimp only
  rw [hstarted, if_neg (by decide)]
  refine follows_bind.mpr (follows_catching.mpr (follows_await.mpr ⟨trivial, fun r hr => ?_⟩))
  obtain rfl := hr
  refine follows_bind.mpr (follows_catching.mpr (follows_await.mpr ⟨trivial, fun r hr => ?_⟩))
  obtain rfl := hr
  exact ⟨rfl, rfl, rfl⟩

/-- **An acknowledged submission is stored exactly when its response is storable.** Whatever ids and
times it is given, the record set of the response passes, and the call returns the order as
accepted, if and only if the fills of the response agree with its status. -/
theorem stored_iff (orderId requestedAt : String) (event : OrderEventRecord)
    (binding : Option (CandidateContext × CandidateExecutionBindingRecord)) (s : Locals)
    (hsides : ∀ fill ∈ snapshot.fills, fill.side = a.input.side) :
    Follows (responses a snapshot)
      (a.settleSubmission ⟨a.intentOrder orderId requestedAt, event, binding⟩) (afterSend s) []
      fun r _ ids => Fresh snapshot ids → ((∃ result, r = .ok result) ↔ Storable a snapshot) := by
  unfold Attempt.settleSubmission
  refine follows_bind.mpr ((follows_awaitExchangeOrder rfl rfl).mono fun r s' ids hr => ?_)
  obtain ⟨rfl, rfl, rfl⟩ := hr
  refine follows_bind.mpr (follows_await.mpr ⟨trivial, fun r hr => ?_⟩)
  obtain ⟨submittedAt, epochNs, rfl, -⟩ := hr
  refine follows_bind.mpr ((follows_exchangeFills hsides).mono fun r s₁ ids hr => ?_)
  obtain ⟨rfl, rows, new, rfl, rfl, hnil, hrows, hperm⟩ := hr
  set intent : Attempt.Intent := ⟨a.intentOrder orderId requestedAt, event, binding⟩
  have hresponded : Responded a intent snapshot { intent.submittingOrder with
      upbitUuid := some snapshot.uuid
      status := mapExchangeOrderStatus a.deps.library snapshot
      exchangeResponseJson := some snapshot.raw
      updatedAt := submittedAt } rows (new ++ []) := by
    refine ⟨rfl, rfl, rfl, rfl, rfl, fun hfresh => ?_, hnil⟩
    exact rowsOf_of_perm hrows hperm (by simpa [Fresh] using hfresh)
  refine follows_bind.mpr ((follows_settleDryRun hresponded).mono fun r s₂ ids₂ hr => ?_)
  cases r with
  | error e => exact fun _ => iff_of_false (by simp) hr
  | ok settled =>
    refine follows_bind.mpr ((follows_persistSubmission hr).mono fun r s₃ ids₃ hr => ?_)
    cases r with
    | error e =>
      intro hfresh
      have hnot := mt (hr hfresh).mpr (by simp)
      exact iff_of_false (by simp) hnot
    | ok _ =>
      refine follows_bind.mpr (follows_assign.mpr fun hfresh => ?_)
      exact iff_of_true ⟨_, rfl⟩ ((hr hfresh).mp rfl)

/-- A sale on the live adapter. -/
def liveSale : Attempt ℤ where
  deps := Guarantees.plainDependencies .liveAdapter
  input := Guarantees.sellOne "decision"
  market := .krwBtc
  attemptStartedAt := Guarantees.instant
  idempotencyKey := "key"
  candidate := none
  leaseOwnerToken := "token"
  acquisitionWindow := ⟨0, 60000⟩

def liveIntent : Attempt.Intent where
  order := liveSale.intentOrder "order" Guarantees.instant
  event := liveSale.intentEvent "event" "order" Guarantees.instant
  binding := none

/-- The exchange has executed the order and does not list its trades yet. -/
def executedWithoutTrades : ExchangeOrderSnapshot :=
  ⟨"uuid", .ask, .market, "wait", some "1", [], "{}"⟩

/-- Nothing fails but what the store refuses. -/
def storeAnswer (snapshot : ExchangeOrderSnapshot) : (op : Op) → Reply ℤ op
  | .exchangeOrder => .ok snapshot
  | .createId kind => .ok kind
  | .persistExchangeSubmission input =>
    (validateExchangeSubmissionInput input).mapError Thrown.error
  | op => Guarantees.plainAnswer .liveAdapter none "id" op

/-- **The acknowledged order is not stored.** -/
theorem executedWithoutTrades_not_stored :
    (∀ op, Answered liveSale executedWithoutTrades op (storeAnswer executedWithoutTrades op)) ∧
      ((liveSale.settleSubmission liveIntent (afterSend {})).result
        (storeAnswer executedWithoutTrades)).1 = .error (.postSendPersistence
          "Exchange submission response could not be persisted atomically.") := by
  refine ⟨fun op => ?_, by decide +kernel⟩
  cases op with
  | exchangeOrder => rfl
  | assertCurrent => rfl
  | createId kind => exact ⟨kind, rfl⟩
  | now site => exact ⟨Guarantees.instant, 1767225600000000000, rfl, by decide +kernel⟩
  | persistExchangeSubmission input => exact mapError_eq_ok
  | _ => trivial

/-- The order as the exchange has executed it in two trades. -/
def executedInTwoTrades : ExchangeOrderSnapshot :=
  { executedWithoutTrades with
    state := "done"
    fills := [⟨some "trade-1", .ask, "100000000", "0.4", some "20000", none, "{}"⟩,
      ⟨some "trade-2", .ask, "100000000", "0.6", some "30000", none, "{}"⟩] }

/-- With its trades the order is stored, whatever ids are created for the records. -/
theorem stored_iff_executedInTwoTrades :
    executedInTwoTrades.fills.length = 2 ∧
      Follows (responses liveSale executedInTwoTrades) (liveSale.settleSubmission
        ⟨liveSale.intentOrder "order" Guarantees.instant, liveIntent.event, none⟩) (afterSend {}) []
        fun r _ ids => Fresh executedInTwoTrades ids → ∃ result, r = .ok result := by
  have hstorable : Storable liveSale executedInTwoTrades := by
    simp [Storable, executedInTwoTrades, liveSale, Guarantees.plainDependencies]
  exact ⟨rfl, (stored_iff "order" Guarantees.instant liveIntent.event none {} (by decide)).mono
    fun _ _ _ hiff hfresh => (hiff hfresh).mpr hstorable⟩

end AutoTrade.Execution.SubmissionRecords
