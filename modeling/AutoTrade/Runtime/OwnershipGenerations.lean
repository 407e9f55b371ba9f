import AutoTrade.Lib.Run
import AutoTrade.Runtime.OwnershipStore

/-! # Generations of runtime ownership

Every sequence of calls, thrown ones included: generations of successful acquisitions strictly
increase, event times never decrease, the current record is the one of the last successful
acquisition, and a call that does not name the current owner and generation changes nothing.

The exception is an acquisition whose event finds no place in the array of events: the record is
assigned first, so it stays although the call throws. `ownership_generations_iff`: the properties hold
after every prefix of a run exactly when no acquisition of the run passes its checks with a full event
log. The ids of the events count its elements, so they never run out. -/

namespace AutoTrade.Runtime.OwnershipGenerations

open Lib.Run Lib.Result
open Runtime.OwnershipGuard Runtime.OwnershipStore
open Strategy.CandidateState (maxSafeInteger)

/-! ### Runs -/

inductive Call
  | acquire (input : AcquireRuntimeOwnershipInput)
  | renew (input : RenewRuntimeOwnershipInput)
  | release (input : ReleaseRuntimeOwnershipInput)
  | recordLost (input : RecordRuntimeOwnershipLostInput)

/-- The store after a call, thrown or not. -/
def storeAfter (store : StoredOwnership) : Call → StoredOwnership
  | .acquire input => (acquireAfterProcessLock store input).2
  | .renew input => (renew store input).2
  | .release input => (release store input).2
  | .recordLost input => (recordLost store input).2

/-- The generation of a successful acquisition. -/
def acquiredBy (store : StoredOwnership) : Call → Option ℤ
  | .acquire input =>
    (acquireAfterProcessLock store input).1.toOption.map (·.record.generation)
  | _ => none

/-- The store with the generations acquired so far, oldest first. -/
structure History where
  store : StoredOwnership
  acquired : List ℤ

def History.initial : History := ⟨.initial, []⟩

def History.advance (history : History) (call : Call) : History :=
  ⟨storeAfter history.store call,
    history.acquired ++ (acquiredBy history.store call).toList⟩

/-- The call does not name the owner and the generation of the current record. -/
def Stale (store : StoredOwnership) : Call → Prop
  | .acquire _ => False
  | .renew input => ∀ current ∈ store.current,
      current.ownerToken ≠ input.ownerToken ∨ current.generation ≠ input.generation
  | .release input => ∀ current ∈ store.current,
      current.ownerToken ≠ input.ownerToken ∨ current.generation ≠ input.generation
  | .recordLost input => ∀ current ∈ store.current,
      current.ownerToken ≠ input.ownerToken ∨ current.generation ≠ input.generation

/-- The properties of a history. -/
structure Ordered (history : History) : Prop where
  generations : history.acquired.Pairwise (· < ·)
  times : history.store.events.Pairwise fun a b => a.eventAtEpochMs ≤ b.eventAtEpochMs
  current : ∀ record ∈ history.store.current,
    history.acquired.getLast? = some record.generation ∧
      record.acquiredAtEpochMs ≤ record.heartbeatAtEpochMs ∧
      record.heartbeatAtEpochMs < record.expiresAtEpochMs
  stale : ∀ call, Stale history.store call → storeAfter history.store call = history.store

/-- An acquisition that passes its checks finds room for its event. -/
def HasRoom (history : History) : Call → Prop
  | .acquire input => (acquisitionRecord history.store input).isOk = true →
      history.store.events.length < maxArrayLength
  | _ => True

/-! ### What a call can do -/

variable {store : StoredOwnership} {events : List RuntimeOwnershipEventRecord}
  {value : RuntimeOwnershipEventRecord → ℤ}

theorem maximumOver_eq_ok {start maximum : ℤ} (h : maximumOver value start events = .ok maximum) :
    start ≤ maximum ∧ ∀ event ∈ events, value event ≤ maximum := by
  unfold maximumOver at h
  induction events generalizing start with
  | nil =>
    rw [List.foldlM_nil] at h
    exact ⟨(Except.ok.inj h).le, by simp⟩
  | cons event events ih =>
    rw [List.foldlM_cons] at h
    simp only [bind_eq_ok, Except.ok.injEq] at h
    obtain ⟨_, ⟨_, -, rfl⟩, hrest⟩ := h
    obtain ⟨hmax, hevents⟩ := ih hrest
    refine ⟨(le_max_left _ _).trans hmax, ?_⟩
    intro other hmem
    rcases List.mem_cons.mp hmem with rfl | hmem
    · exact (le_max_right _ _).trans hmax
    · exact hevents other hmem

variable {record : RuntimeOwnershipRecord}

theorem validateRecord_eq_ok :
    validateRuntimeOwnershipRecord record = .ok () ↔
      isOwnerToken record.ownerToken = true ∧
      (record.generation ≤ maxSafeInteger ∧ 1 ≤ record.generation) ∧
      (record.acquiredAtEpochMs ≤ maxSafeInteger ∧ 0 ≤ record.acquiredAtEpochMs) ∧
      (record.heartbeatAtEpochMs ≤ maxSafeInteger ∧ 0 ≤ record.heartbeatAtEpochMs) ∧
      (record.expiresAtEpochMs ≤ maxSafeInteger ∧ 0 ≤ record.expiresAtEpochMs) ∧
      record.acquiredAtEpochMs ≤ record.heartbeatAtEpochMs ∧
      record.heartbeatAtEpochMs < record.expiresAtEpochMs := by
  simp only [validateRuntimeOwnershipRecord, validateOwnerToken, validateGeneration,
    validatePositiveSafeInteger, validateEpochMs, then_eq_ok, throwIf_eq_ok, not_or, not_lt,
    not_le, Bool.not_eq_false]

variable {event : RuntimeOwnershipEventRecord}

theorem validateEvent_eq_ok :
    validateRuntimeOwnershipEventRecord event = .ok () ↔
      (event.id ≤ maxSafeInteger ∧ 1 ≤ event.id) ∧
      (event.generation ≤ maxSafeInteger ∧ 1 ≤ event.generation) ∧
      isReasonCode event.reasonCode = true ∧
      (event.eventAtEpochMs ≤ maxSafeInteger ∧ 0 ≤ event.eventAtEpochMs) := by
  simp only [validateRuntimeOwnershipEventRecord, validateGeneration, validatePositiveSafeInteger,
    validateReasonCode, validateEpochMs, then_eq_ok, throwIf_eq_ok, not_or, not_lt,
    Bool.not_eq_false]

theorem appendEvent_eq_ok {next : StoredOwnership} :
    appendEvent store event = .ok next ↔ store.nextEventId ≤ maxSafeInteger ∧
      validateRuntimeOwnershipEventRecord { event with id := store.nextEventId } = .ok () ∧
      store.events.length < maxArrayLength ∧
      next = { store with
        events := store.events ++ [{ event with id := store.nextEventId }]
        nextEventId := store.nextEventId + 1 } := by
  unfold appendEvent
  simp only [then_eq_ok, throwIf_eq_ok, not_lt, not_le, Except.ok.injEq]
  rw [eq_comm (b := next)]

theorem nextEventId_safe (hid : store.nextEventId = store.events.length + 1)
    (hroom : store.events.length < maxArrayLength) :
    store.nextEventId ≤ maxSafeInteger ∧ 1 ≤ store.nextEventId := by
  unfold maxArrayLength at hroom
  unfold maxSafeInteger
  omega

theorem appendEvent_acquisition (store : StoredOwnership)
    (hrecord : validateRuntimeOwnershipRecord record = .ok ())
    (hid : store.nextEventId = store.events.length + 1) (takeover : Bool) :
    (∃ next, appendEvent store (acquisitionEvent record takeover) = .ok next) ↔
      store.events.length < maxArrayLength := by
  obtain ⟨-, hgeneration, hacquired, -⟩ := validateRecord_eq_ok.mp hrecord
  have hreason : isReasonCode "PROCESS_LOCK_ACQUIRED" = true := by decide
  constructor
  · rintro ⟨next, h⟩
    exact (appendEvent_eq_ok.mp h).2.2.1
  · intro hroom
    have hsafe := nextEventId_safe hid hroom
    have hvalid : validateRuntimeOwnershipEventRecord
        { acquisitionEvent record takeover with id := store.nextEventId } = .ok () :=
      validateEvent_eq_ok.mpr ⟨hsafe, hgeneration, hreason, hacquired⟩
    exact ⟨_, appendEvent_eq_ok.mpr ⟨hsafe.1, hvalid, hroom, rfl⟩⟩

variable {input : AcquireRuntimeOwnershipInput}

theorem acquisitionRecord_eq_ok (h : acquisitionRecord store input = .ok record) :
    validateRuntimeOwnershipRecord record = .ok () ∧
      record.heartbeatAtEpochMs = record.acquiredAtEpochMs ∧
      (∀ event ∈ store.events, event.eventAtEpochMs ≤ record.acquiredAtEpochMs) ∧
      ∀ event ∈ store.events, event.generation < record.generation := by
  unfold acquisitionRecord at h
  simp only [then_eq_ok] at h
  obtain ⟨-, -, h⟩ := h
  obtain ⟨latest, hlatest, h⟩ := bind_eq_ok.mp h
  obtain ⟨hfloor, h⟩ := then_eq_ok.mp h
  obtain ⟨maximum, hmaximum, h⟩ := bind_eq_ok.mp h
  simp only [then_eq_ok, Except.ok.injEq] at h
  obtain ⟨-, hrecord, rfl⟩ := h
  simp only [assertNoTimestampRollback, throwIf_eq_ok, not_lt, max_le_iff] at hfloor
  refine ⟨hrecord, rfl, ?_, ?_⟩
  · intro event hmem
    exact ((maximumOver_eq_ok hlatest).2 event hmem).trans hfloor.2
  · intro event hmem
    have hle := (maximumOver_eq_ok hmaximum).2 event hmem
    show event.generation < maximum + 1
    omega

variable {generation atEpochMs : ℤ} {ownerToken : String}

theorem heldRecord_eq_some {current : RuntimeOwnershipRecord}
    (h : heldRecord store ownerToken generation atEpochMs = .ok (some current)) :
    store.current = some current ∧ current.ownerToken = ownerToken ∧
      current.generation = generation ∧ current.heartbeatAtEpochMs ≤ atEpochMs ∧
      ∀ event ∈ store.events, event.eventAtEpochMs ≤ atEpochMs := by
  unfold heldRecord at h
  cases hcurrent : store.current with
  | none => simp [hcurrent] at h
  | some held =>
    simp only [hcurrent, then_eq_ok] at h
    obtain ⟨-, h⟩ := h
    by_cases hother : held.ownerToken ≠ ownerToken ∨ held.generation ≠ generation
    · simp [if_pos hother] at h
    · rw [if_neg hother, bind_eq_ok] at h
      obtain ⟨latest, hlatest, h⟩ := h
      simp only [then_eq_ok, assertNoTimestampRollback, throwIf_eq_ok, not_lt, max_le_iff,
        Except.ok.injEq, Option.some.injEq] at h
      obtain ⟨⟨hheartbeat, hevents⟩, rfl⟩ := h
      push Not at hother
      exact ⟨rfl, hother.1, hother.2, hheartbeat,
        fun event hmem => ((maximumOver_eq_ok hlatest).2 event hmem).trans hevents⟩

theorem heldRecord_of_stale (h : ∀ current ∈ store.current,
      current.ownerToken ≠ ownerToken ∨ current.generation ≠ generation)
    (record : RuntimeOwnershipRecord) :
    heldRecord store ownerToken generation atEpochMs ≠ .ok (some record) := by
  intro hheld
  obtain ⟨hcurrent, htoken, hgeneration, -⟩ := heldRecord_eq_some hheld
  rcases h record hcurrent with hne | hne
  · exact hne htoken
  · exact hne hgeneration

/-- Every effect of a call: it leaves the store, acquires, renews, releases or records a loss. The
last case of an acquisition is the one that throws with its record stored. -/
inductive Effect (store : StoredOwnership) : Call → StoredOwnership → Option ℤ → Prop
  | same (call : Call) : Effect store call store none
  | acquired {input : AcquireRuntimeOwnershipInput} {record : RuntimeOwnershipRecord}
      {event : RuntimeOwnershipEventRecord} (hrecord : acquisitionRecord store input = .ok record)
      (hgeneration : event.generation = record.generation)
      (hat : event.eventAtEpochMs = record.acquiredAtEpochMs) :
      Effect store (.acquire input)
        ⟨some record, store.events ++ [event], store.nextEventId + 1⟩ (some record.generation)
  | unnumbered {input : AcquireRuntimeOwnershipInput} {record : RuntimeOwnershipRecord}
      (hrecord : acquisitionRecord store input = .ok record)
      (hfull : ∀ next, appendEvent { store with current := some record }
        (acquisitionEvent record store.current.isSome) ≠ .ok next) :
      Effect store (.acquire input) { store with current := some record } none
  | renewed {input : RenewRuntimeOwnershipInput} {current renewed : RuntimeOwnershipRecord}
      (hheld : ¬ Stale store (.renew input)) (hcurrent : store.current = some current)
      (hgeneration : renewed.generation = current.generation)
      (hvalid : validateRuntimeOwnershipRecord renewed = .ok ()) :
      Effect store (.renew input) { store with current := some renewed } none
  | noted {call : Call} {current : RuntimeOwnershipRecord} {event : RuntimeOwnershipEventRecord}
      {next : Option RuntimeOwnershipRecord} (hheld : ¬ Stale store call)
      (hcurrent : store.current = some current)
      (hgeneration : event.generation = current.generation)
      (hevents : ∀ earlier ∈ store.events, earlier.eventAtEpochMs ≤ event.eventAtEpochMs)
      (hnext : next = none ∨ next = some current) :
      Effect store call ⟨next, store.events ++ [event], store.nextEventId + 1⟩ none

theorem effect_acquire (store : StoredOwnership) (input : AcquireRuntimeOwnershipInput) :
    Effect store (.acquire input) (storeAfter store (.acquire input))
      (acquiredBy store (.acquire input)) := by
  simp only [storeAfter, acquiredBy, acquireAfterProcessLock]
  cases hrecord : acquisitionRecord store input with
  | error e => exact .same _
  | ok record =>
    dsimp only
    cases happend : appendEvent { store with current := some record }
        (acquisitionEvent record store.current.isSome) with
    | error e => exact .unnumbered hrecord fun next hok => by rw [happend] at hok; cases hok
    | ok next =>
      obtain ⟨-, -, -, rfl⟩ := appendEvent_eq_ok.mp happend
      exact .acquired hrecord rfl rfl

theorem exists_held {α : Type} {validated : Except String Unit}
    {held : Except String (Option RuntimeOwnershipRecord)}
    {act : RuntimeOwnershipRecord → Except String (Option α)} {result : α}
    (h : (do
      validated
      let record ← held
      match record with
      | none => .ok none
      | some current => act current) = Except.ok (some result)) :
    ∃ current, held = .ok (some current) ∧ act current = .ok (some result) := by
  obtain ⟨-, h⟩ := then_eq_ok.mp h
  obtain ⟨record, hheld, h⟩ := bind_eq_ok.mp h
  cases record with
  | none => cases h
  | some current => exact ⟨current, hheld, h⟩

theorem effect_renew (store : StoredOwnership) (input : RenewRuntimeOwnershipInput) :
    Effect store (.renew input) (storeAfter store (.renew input)) none := by
  simp only [storeAfter, renew]
  cases hrenewal : renewal store input with
  | error e => exact .same _
  | ok result =>
    cases result with
    | none => exact .same _
    | some renewed =>
      obtain ⟨current, hheld, hrenewal⟩ := exists_held hrenewal
      unfold renewedRecord at hrenewal
      dsimp only at hrenewal
      split_ifs at hrenewal with hrefused
      · cases hrenewal
      · simp only [then_eq_ok, Except.ok.injEq, Option.some.injEq] at hrenewal
        obtain ⟨hvalid, rfl⟩ := hrenewal
        exact .renewed (fun hstale => heldRecord_of_stale hstale current hheld)
          (heldRecord_eq_some hheld).1 rfl hvalid

theorem effect_release (store : StoredOwnership) (input : ReleaseRuntimeOwnershipInput) :
    Effect store (.release input) (storeAfter store (.release input)) none := by
  simp only [storeAfter, release, answer]
  cases hreleased : released store input with
  | error e => exact .same _
  | ok result =>
    cases result with
    | none => exact .same _
    | some next =>
      obtain ⟨current, hheld, hreleased⟩ := exists_held hreleased
      split_ifs at hreleased with hexpired
      · cases hreleased
      · simp only [bind_eq_ok, Except.ok.injEq, Option.some.injEq] at hreleased
        obtain ⟨appended, happend, rfl⟩ := hreleased
        obtain ⟨-, -, -, rfl⟩ := appendEvent_eq_ok.mp happend
        obtain ⟨hcurrent, -, -, -, hevents⟩ := heldRecord_eq_some hheld
        exact .noted (fun hstale => heldRecord_of_stale hstale current hheld) hcurrent rfl hevents
          (Or.inl rfl)

theorem effect_recordLost (store : StoredOwnership) (input : RecordRuntimeOwnershipLostInput) :
    Effect store (.recordLost input) (storeAfter store (.recordLost input)) none := by
  simp only [storeAfter, recordLost, answer]
  cases hrecorded : recordedLost store input with
  | error e => exact .same _
  | ok result =>
    cases result with
    | none => exact .same _
    | some next =>
      obtain ⟨current, hheld, hrecorded⟩ := exists_held hrecorded
      simp only [bind_eq_ok, Except.ok.injEq, Option.some.injEq] at hrecorded
      obtain ⟨appended, happend, rfl⟩ := hrecorded
      obtain ⟨-, -, -, rfl⟩ := appendEvent_eq_ok.mp happend
      obtain ⟨hcurrent, -, -, -, hevents⟩ := heldRecord_eq_some hheld
      exact .noted (fun hstale => heldRecord_of_stale hstale current hheld) hcurrent rfl hevents
        (Or.inr hcurrent)

theorem effect (store : StoredOwnership) (call : Call) :
    Effect store call (storeAfter store call) (acquiredBy store call) := by
  cases call with
  | acquire input => exact effect_acquire store input
  | renew input => exact effect_renew store input
  | release input => exact effect_release store input
  | recordLost input => exact effect_recordLost store input

/-! ### The invariant -/

structure Invariant (history : History) : Prop where
  generations : history.acquired.Pairwise (· < ·)
  times : history.store.events.Pairwise fun a b => a.eventAtEpochMs ≤ b.eventAtEpochMs
  current : ∀ record ∈ history.store.current,
    history.acquired.getLast? = some record.generation ∧
      record.acquiredAtEpochMs ≤ record.heartbeatAtEpochMs ∧
      record.heartbeatAtEpochMs < record.expiresAtEpochMs
  /-- An acquired generation is remembered by its event, also after the release. -/
  remembered : ∀ generation ∈ history.acquired, ∃ event ∈ history.store.events,
    event.generation = generation
  numbered : history.store.nextEventId = history.store.events.length + 1

theorem invariant_initial : Invariant .initial := by
  refine ⟨List.Pairwise.nil, List.Pairwise.nil, ?_, ?_, rfl⟩
  · intro record hrecord
    cases hrecord
  · intro generation hgeneration
    cases hgeneration

theorem pairwise_concat (h : events.Pairwise fun a b => a.eventAtEpochMs ≤ b.eventAtEpochMs)
    (hlast : ∀ earlier ∈ events, earlier.eventAtEpochMs ≤ event.eventAtEpochMs) :
    (events ++ [event]).Pairwise fun a b => a.eventAtEpochMs ≤ b.eventAtEpochMs := by
  rw [List.pairwise_append]
  refine ⟨h, List.pairwise_singleton _ _, ?_⟩
  intro earlier hearlier last hmem
  rw [List.mem_singleton.mp hmem]
  exact hlast earlier hearlier

theorem remembered_concat {acquired : List ℤ}
    (h : ∀ generation ∈ acquired, ∃ event ∈ events, event.generation = generation)
    (event : RuntimeOwnershipEventRecord) :
    ∀ generation ∈ acquired, ∃ e ∈ events ++ [event], e.generation = generation := by
  intro generation hmem
  obtain ⟨e, he, hgeneration⟩ := h generation hmem
  exact ⟨e, List.mem_append_left _ he, hgeneration⟩

variable {history : History}

theorem invariant_acquired (h : Invariant history)
    (hrecord : acquisitionRecord history.store input = .ok record)
    (hgeneration : event.generation = record.generation)
    (hat : event.eventAtEpochMs = record.acquiredAtEpochMs) :
    Invariant ⟨⟨some record, history.store.events ++ [event], history.store.nextEventId + 1⟩,
      history.acquired ++ [record.generation]⟩ := by
  obtain ⟨hvalid, -, hlatest, hnew⟩ := acquisitionRecord_eq_ok hrecord
  obtain ⟨-, -, -, -, -, hheartbeat, hexpires⟩ := validateRecord_eq_ok.mp hvalid
  have hnumbered := h.numbered
  refine ⟨?_, ?_, ?_, ?_, ?_⟩
  · rw [List.pairwise_append]
    refine ⟨h.generations, List.pairwise_singleton _ _, ?_⟩
    intro generation hold last hmem
    obtain ⟨earlier, hearlier, rfl⟩ := h.remembered generation hold
    rw [List.mem_singleton.mp hmem]
    exact hnew earlier hearlier
  · refine pairwise_concat h.times ?_
    intro earlier hearlier
    rw [hat]
    exact hlatest earlier hearlier
  · intro current hcurrent
    rw [← Option.some.inj hcurrent]
    exact ⟨List.getLast?_concat, hheartbeat, hexpires⟩
  · intro generation hmem
    rcases List.mem_append.mp hmem with hold | hlast
    · exact remembered_concat h.remembered event generation hold
    · rw [List.mem_singleton.mp hlast]
      exact ⟨event, List.mem_append_right _ (List.mem_singleton_self _), hgeneration⟩
  · show history.store.nextEventId + 1 = _
    rw [hnumbered, List.length_append, List.length_singleton]
    rfl

variable {call : Call}

theorem invariant_step (h : Invariant history) (hroom : HasRoom history call) :
    Invariant (history.advance call) := by
  have heffect := effect history.store call
  unfold History.advance
  generalize storeAfter history.store call = next, acquiredBy history.store call = gained at heffect
  cases heffect with
  | same =>
    rw [Option.toList_none, List.append_nil]
    exact h
  | acquired hrecord hgeneration hat => exact invariant_acquired h hrecord hgeneration hat
  | @unnumbered input record hrecord hfull =>
    obtain ⟨hvalid, -⟩ := acquisitionRecord_eq_ok hrecord
    obtain ⟨next, hnext⟩ := (appendEvent_acquisition { history.store with current := some record }
      hvalid h.numbered history.store.current.isSome).mpr (hroom (by rw [hrecord]; rfl))
    exact absurd hnext (hfull next)
  | @renewed input current renewed hheld hcurrent hgeneration hvalid =>
    obtain ⟨-, -, -, -, -, hheartbeat, hexpires⟩ := validateRecord_eq_ok.mp hvalid
    rw [Option.toList_none, List.append_nil]
    refine ⟨h.generations, h.times, ?_, h.remembered, h.numbered⟩
    intro record hrecord
    rw [← Option.some.inj hrecord, hgeneration]
    exact ⟨(h.current current hcurrent).1, hheartbeat, hexpires⟩
  | @noted _ current event next hheld hcurrent hgeneration hevents hnext =>
    have hnumbered := h.numbered
    rw [Option.toList_none, List.append_nil]
    refine ⟨h.generations, pairwise_concat h.times hevents, ?_,
      remembered_concat h.remembered event, ?_⟩
    · intro record hrecord
      rcases hnext with rfl | rfl
      · cases hrecord
      · rw [← Option.some.inj hrecord]
        exact h.current current hcurrent
    · show history.store.nextEventId + 1 = _
      rw [hnumbered, List.length_append, List.length_singleton]
      rfl

/-! ### Whole runs -/

theorem storeAfter_of_stale (h : Stale store call) : storeAfter store call = store := by
  have heffect := effect store call
  generalize storeAfter store call = next, acquiredBy store call = gained at heffect
  cases heffect with
  | same => rfl
  | acquired hrecord hgeneration hat => exact h.elim
  | unnumbered hrecord hfull => exact h.elim
  | renewed hheld hcurrent hgeneration hvalid => exact absurd h hheld
  | noted hheld hcurrent hgeneration hevents hnext => exact absurd h hheld

theorem Invariant.ordered (h : Invariant history) : Ordered history :=
  ⟨h.generations, h.times, h.current, fun _ hstale => storeAfter_of_stale hstale⟩

/-- An acquisition that cannot append its event leaves a generation that no acquisition returned. -/
theorem not_ordered_of_full (h : Invariant history) (hfull : ¬ HasRoom history call) :
    ¬ Ordered (history.advance call) := by
  intro hordered
  cases call with
  | renew input => exact hfull trivial
  | release input => exact hfull trivial
  | recordLost input => exact hfull trivial
  | acquire input =>
    simp only [HasRoom, not_forall] at hfull
    obtain ⟨hok, hmax⟩ := hfull
    obtain ⟨record, hrecord⟩ := exists_ok hok
    obtain ⟨hvalid, -, -, hnew⟩ := acquisitionRecord_eq_ok hrecord
    have happend : ∀ next, appendEvent { history.store with current := some record }
        (acquisitionEvent record history.store.current.isSome) ≠ .ok next := by
      intro next hnext
      exact hmax (appendEvent_eq_ok.mp hnext).2.2.1
    have hafter : history.advance (.acquire input) =
        ⟨{ history.store with current := some record }, history.acquired⟩ := by
      have heffect := effect_acquire history.store input
      simp only [History.advance, storeAfter, acquiredBy, acquireAfterProcessLock, hrecord]
      cases hresult : appendEvent { history.store with current := some record }
          (acquisitionEvent record history.store.current.isSome) with
      | error e => simp [Except.toOption]
      | ok next => exact absurd hresult (happend next)
    rw [hafter] at hordered
    have hlast := (hordered.current record rfl).1
    obtain ⟨event, hevent, hgeneration⟩ :=
      h.remembered record.generation (List.mem_of_getLast? hlast)
    exact absurd hgeneration (hnew event hevent).ne

/-- **Generations of runtime ownership.** The properties hold in every state of a run exactly if no
acquisition of the run passes its checks with the event log full. -/
theorem ownership_generations_iff (calls : List Call) :
    (∀ pre, pre <+: calls → Ordered (run History.advance .initial pre)) ↔
      SafeRun History.advance HasRoom .initial calls := by
  constructor
  · intro hall
    by_contra hunsafe
    obtain ⟨pre, call, post, rfl, hpre, hfull⟩ := exists_unsafe_step hunsafe
    have hinvariant : Invariant (run History.advance .initial pre) :=
      hpre.invariant Invariant (fun _ _ h hroom => invariant_step h hroom) invariant_initial
    have hordered := hall (pre ++ [call]) ⟨post, by simp⟩
    rw [run_append] at hordered
    exact not_ordered_of_full hinvariant hfull hordered
  · rintro hsafe pre ⟨post, rfl⟩
    rw [safeRun_append] at hsafe
    exact (hsafe.1.invariant Invariant (fun _ _ h hroom => invariant_step h hroom)
      invariant_initial).ordered

/-! ### A full event log -/

def exampleToken : String := String.ofList (List.replicate 64 'a')

def exampleRecord : RuntimeOwnershipRecord where
  ownerToken := exampleToken
  generation := 1
  executionMode := .dryRun
  acquiredAtEpochMs := 0
  heartbeatAtEpochMs := 0
  expiresAtEpochMs := 10

def exampleAcquire : Call := .acquire ⟨exampleToken, .dryRun, 0, 10⟩

def exampleLost : Call := .recordLost ⟨exampleToken, 1, 0, "HEARTBEAT_EXPIRED"⟩

/-- The store after an acquisition and losses at the same time, with `count` events. -/
structure Worn (store : StoredOwnership) (count : ℕ) : Prop where
  current : store.current = some exampleRecord
  events : ∀ event ∈ store.events, validateRuntimeOwnershipEventRecord event = .ok () ∧
    event.eventAtEpochMs = 0 ∧ event.generation = 1
  length : store.events.length = count
  nextEventId : store.nextEventId = count + 1

theorem maximumOver_const {c : ℤ}
    (h : ∀ event ∈ events, validateRuntimeOwnershipEventRecord event = .ok () ∧ value event = c) :
    maximumOver value c events = .ok c := by
  unfold maximumOver
  induction events with
  | nil => rfl
  | cons event events ih =>
    obtain ⟨hvalid, hvalue⟩ := h event List.mem_cons_self
    rw [List.foldlM_cons, hvalid, ok_bind, hvalue, max_self, ok_bind]
    exact ih fun other hmem => h other (List.mem_cons_of_mem _ hmem)

variable {count : ℕ}

theorem Worn.latestEvent (h : Worn store count) : maximumEventTimestamp store = .ok 0 :=
  maximumOver_const fun event hmem => ⟨(h.events event hmem).1, (h.events event hmem).2.1⟩

theorem Worn.heldRecord_eq (h : Worn store count) :
    heldRecord store exampleToken 1 0 = .ok (some exampleRecord) := by
  have hvalid : validateRuntimeOwnershipRecord exampleRecord = .ok () := by decide +kernel
  unfold heldRecord
  simp only [h.current, hvalid, ok_bind, h.latestEvent]
  decide +kernel

theorem worn_lost (h : Worn store count) (hroom : count < maxArrayLength) :
    Worn (storeAfter store exampleLost) (count + 1) := by
  have hlength : store.events.length < maxArrayLength := by rw [h.length]; exact hroom
  have hsafe := nextEventId_safe (by rw [h.nextEventId, h.length]) hlength
  have hone : (1 : ℤ) ≤ maxSafeInteger ∧ (1 : ℤ) ≤ 1 := by decide
  have hzero : (0 : ℤ) ≤ maxSafeInteger ∧ (0 : ℤ) ≤ 0 := by decide
  have hreason : isReasonCode "HEARTBEAT_EXPIRED" = true := by decide
  let event : RuntimeOwnershipEventRecord :=
    ⟨store.nextEventId, 1, .lost, .dryRun, "HEARTBEAT_EXPIRED", 0⟩
  have hvalid : validateRuntimeOwnershipEventRecord event = .ok () :=
    validateEvent_eq_ok.mpr ⟨hsafe, hone, hreason, hzero⟩
  have happend : appendEvent store (lostEvent exampleRecord
      ⟨exampleToken, 1, 0, "HEARTBEAT_EXPIRED"⟩) =
        .ok ⟨store.current, store.events ++ [event], store.nextEventId + 1⟩ :=
    appendEvent_eq_ok.mpr ⟨hsafe.1, hvalid, hlength, rfl⟩
  have hinput : validateRecordRuntimeOwnershipLostInput
      ⟨exampleToken, 1, 0, "HEARTBEAT_EXPIRED"⟩ = .ok () := by decide +kernel
  have hafter : storeAfter store exampleLost =
      ⟨store.current, store.events ++ [event], store.nextEventId + 1⟩ := by
    simp only [storeAfter, exampleLost, recordLost, recordedLost, hinput, ok_bind, h.heldRecord_eq,
      happend, answer]
  rw [hafter]
  refine ⟨h.current, ?_, by simp [h.length], by simp [h.nextEventId]⟩
  intro other hmem
  rcases List.mem_append.mp hmem with hold | hlast
  · exact h.events other hold
  · rw [List.mem_singleton.mp hlast]
    exact ⟨hvalid, rfl, rfl⟩

theorem worn_run (h : Worn history.store count) (losses : ℕ)
    (hroom : count + losses ≤ maxArrayLength) :
    Worn (run History.advance history (List.replicate losses exampleLost)).store (count + losses) ∧
      SafeRun History.advance HasRoom history (List.replicate losses exampleLost) := by
  induction losses generalizing history count with
  | zero => exact ⟨h, trivial⟩
  | succ losses ih =>
    have hnext : Worn (history.advance exampleLost).store (count + 1) := worn_lost h (by omega)
    obtain ⟨hworn, hsafe⟩ := ih hnext (by omega)
    rw [List.replicate_succ, run_cons, show count + (losses + 1) = count + 1 + losses by omega]
    exact ⟨hworn, trivial, hsafe⟩

theorem Worn.acquisitionRecord_eq (h : Worn store count) :
    acquisitionRecord store ⟨exampleToken, .dryRun, 0, 10⟩ =
      .ok { exampleRecord with generation := 2 } := by
  have hgeneration : maximumOver RuntimeOwnershipEventRecord.generation 1 store.events = .ok 1 :=
    maximumOver_const fun event hmem => ⟨(h.events event hmem).1, (h.events event hmem).2.2⟩
  have hcurrent : validateCurrent store = .ok () := by
    unfold validateCurrent
    rw [h.current]
    decide +kernel
  have hinput : validateAcquireRuntimeOwnershipInput ⟨exampleToken, .dryRun, 0, 10⟩ = .ok () := by
    decide +kernel
  have hstart : (store.current.map (·.generation)).getD 0 = 1 := by rw [h.current]; rfl
  have hheartbeat : (store.current.map (·.heartbeatAtEpochMs)).getD 0 = 0 := by
    rw [h.current]
    rfl
  unfold acquisitionRecord
  simp only [hinput, ok_bind, hcurrent, h.latestEvent, hstart, hheartbeat, hgeneration]
  decide +kernel

theorem worn_acquire (h : Worn history.store maxArrayLength) :
    ¬ HasRoom history exampleAcquire := by
  intro hroom
  have hlt := hroom (by rw [h.acquisitionRecord_eq]; rfl)
  rw [h.length] at hlt
  exact lt_irrefl _ hlt

/-- A log that is full keeps an acquisition from being recorded, and its record stays: two
generations have been assigned, and one of them was returned. -/
theorem full_log_keeps_record :
    ¬ ∀ calls : List Call, Ordered (run History.advance .initial calls) := by
  intro hall
  have hfirst : Worn (History.initial.advance exampleAcquire).store 1 := by
    refine ⟨by decide +kernel, ?_, by decide +kernel, by decide +kernel⟩
    decide +kernel
  obtain ⟨hworn, hsafe⟩ := worn_run hfirst (maxArrayLength - 1) (by decide)
  have hstart : Invariant (History.initial.advance exampleAcquire) :=
    invariant_step invariant_initial (fun _ => by decide)
  have hinvariant := hsafe.invariant Invariant (fun _ _ h hroom => invariant_step h hroom) hstart
  have hordered := hall
    (exampleAcquire :: (List.replicate (maxArrayLength - 1) exampleLost ++ [exampleAcquire]))
  rw [run_cons, run_append] at hordered
  exact not_ordered_of_full hinvariant (worn_acquire hworn) hordered

end AutoTrade.Runtime.OwnershipGenerations
