import AutoTrade.Lib.Sequential
import AutoTrade.Runtime.OwnershipGenerations
import AutoTrade.Runtime.SqliteOwnershipStore

/-! # The two stores of runtime ownership agree

The in-memory store scans its list of events, the SQLite store asks for maxima and orders by time and
id. Times, generations and ids of the events of a scope never decrease, so both orders are the order of
insertion, and the calls of any sequence return the same or throw in both. Ids are those of the table,
which all scopes share: an id is the in-memory one moved by the ids assigned before.

The stores part when the array of the in-memory store is full: its acquisition throws with the record
assigned, where the table takes the event. -/

namespace AutoTrade.Runtime.OwnershipAgreement

open Lib Lib.Run Lib.Result Lib.SortBy
open Lib.Sequential Runtime.OwnershipGuard
open Runtime.OwnershipStore Runtime.OwnershipGenerations
open Runtime.SqliteOwnershipStore (OwnershipRow OwnershipEventRow OwnershipTables
  scopeEvents orderedDescending selectCurrent selectMaximum withImmediateTransaction)
open Strategy.CandidateState (maxSafeInteger)

/-! ### Calls and answers -/

inductive StoreCall
  | acquireAfterProcessLock (input : AcquireRuntimeOwnershipInput)
  | renew (input : RenewRuntimeOwnershipInput)
  | release (input : ReleaseRuntimeOwnershipInput)
  | recordLost (input : RecordRuntimeOwnershipLostInput)
  | getCurrent
  | listRecentEvents (limit : ℤ)

inductive StoreAnswer
  | acquisition (answer : Except String RuntimeOwnershipAcquisition)
  | record (answer : Except String (Option RuntimeOwnershipRecord))
  | done (answer : Except String Bool)
  | events (answer : Except String (List RuntimeOwnershipEventRecord))

def runInMemory (store : StoredOwnership) : StoreCall → StoreAnswer × StoredOwnership
  | .acquireAfterProcessLock input =>
    let (answer, next) := acquireAfterProcessLock store input
    (.acquisition answer, next)
  | .renew input =>
    let (answer, next) := renew store input
    (.record answer, next)
  | .release input =>
    let (answer, next) := release store input
    (.done answer, next)
  | .recordLost input =>
    let (answer, next) := recordLost store input
    (.done answer, next)
  | .getCurrent => (.record (getCurrent store), store)
  | .listRecentEvents limit => (.events (listRecentEvents store limit), store)

def runSqlite (scopeKey : String) (db : OwnershipTables) : StoreCall → StoreAnswer × OwnershipTables
  | .acquireAfterProcessLock input =>
    let (answer, next) := SqliteOwnershipStore.acquireAfterProcessLock scopeKey db input
    (.acquisition answer, next)
  | .renew input =>
    let (answer, next) := SqliteOwnershipStore.renew scopeKey db input
    (.record answer, next)
  | .release input =>
    let (answer, next) := SqliteOwnershipStore.release scopeKey db input
    (.done answer, next)
  | .recordLost input =>
    let (answer, next) := SqliteOwnershipStore.recordLost scopeKey db input
    (.done answer, next)
  | .getCurrent => (.record (selectCurrent scopeKey db), db)
  | .listRecentEvents limit =>
    (.events (SqliteOwnershipStore.listRecentEvents scopeKey db limit), db)

/-- The event with its id moved. -/
def shift (base : ℤ) (event : RuntimeOwnershipEventRecord) : RuntimeOwnershipEventRecord :=
  { event with id := event.id + base }

/-- Both return, and related values, or both throw. -/
def SameOutcome {α : Type} (related : α → α → Prop) : Except String α → Except String α → Prop
  | .ok a, .ok b => related a b
  | .error _, .error _ => True
  | _, _ => False

/-- The same answer; the ids of events are moved by `base`. -/
def SameAnswer (base : ℤ) : StoreAnswer → StoreAnswer → Prop
  | .acquisition a, .acquisition b => SameOutcome Eq a b
  | .record a, .record b => SameOutcome Eq a b
  | .done a, .done b => SameOutcome Eq a b
  | .events a, .events b => SameOutcome (fun events events' => events' = events.map (shift base)) a b
  | _, _ => False

/-- Both stores side by side. -/
structure Stores where
  store : StoredOwnership
  db : OwnershipTables

def Stores.advance (scopeKey : String) (stores : Stores) (call : StoreCall) : Stores :=
  ⟨(runInMemory stores.store call).2, (runSqlite scopeKey stores.db call).2⟩

/-- **The log has room.** An acquisition that passes its checks finds room in the array and an id in
the table, and a release or a loss that passes them finds both or neither. -/
def HasRoom (stores : Stores) : StoreCall → Prop
  | .acquireAfterProcessLock input => (acquisitionRecord stores.store input).isOk = true →
      stores.store.events.length < maxArrayLength ∧ stores.db.sequence < maxSafeInteger
  | .release input =>
      heldRecord stores.store input.ownerToken input.generation input.releasedAtEpochMs ≠ .ok none →
        (stores.store.events.length < maxArrayLength ↔ stores.db.sequence < maxSafeInteger)
  | .recordLost input =>
      heldRecord stores.store input.ownerToken input.generation input.lostAtEpochMs ≠ .ok none →
        (stores.store.events.length < maxArrayLength ↔ stores.db.sequence < maxSafeInteger)
  | _ => True

/-! ### Events in order -/

structure InOrder (events : List RuntimeOwnershipEventRecord) : Prop where
  valid : ∀ event ∈ events, validateRuntimeOwnershipEventRecord event = .ok ()
  times : events.Pairwise fun a b => a.eventAtEpochMs ≤ b.eventAtEpochMs
  generations : events.Pairwise fun a b => a.generation ≤ b.generation
  ids : events.Pairwise fun a b => a.id < b.id

variable {event : RuntimeOwnershipEventRecord} {events : List RuntimeOwnershipEventRecord}

theorem inOrder_concat (h : InOrder events)
    (hvalid : validateRuntimeOwnershipEventRecord event = .ok ())
    (hlast : ∀ earlier ∈ events, earlier.eventAtEpochMs ≤ event.eventAtEpochMs ∧
      earlier.generation ≤ event.generation ∧ earlier.id < event.id) :
    InOrder (events ++ [event]) := by
  refine ⟨?_, ?_, ?_, ?_⟩
  · intro other hother
    rcases List.mem_append.mp hother with hother | hother
    · exact h.valid other hother
    · rw [List.mem_singleton.mp hother]
      exact hvalid
  · exact pairwise_concat h.times fun earlier hearlier => (hlast earlier hearlier).1
  · rw [List.pairwise_append]
    refine ⟨h.generations, List.pairwise_singleton _ _, fun earlier hearlier last hmem => ?_⟩
    rw [List.mem_singleton.mp hmem]
    exact (hlast earlier hearlier).2.1
  · rw [List.pairwise_append]
    refine ⟨h.ids, List.pairwise_singleton _ _, fun earlier hearlier last hmem => ?_⟩
    rw [List.mem_singleton.mp hmem]
    exact (hlast earlier hearlier).2.2

variable {value : RuntimeOwnershipEventRecord → ℤ}

/-- The scan of the in-memory store finds the value of the last event. -/
theorem maximumOver_eq_last (start : ℤ)
    (hvalid : ∀ event ∈ events, validateRuntimeOwnershipEventRecord event = .ok ())
    (hsorted : events.Pairwise fun a b => value a ≤ value b) :
    maximumOver value start events = .ok (max start ((events.getLast?.map value).getD start)) := by
  induction events using List.reverseRecOn with
  | nil => simp [maximumOver, pure, Except.pure]
  | append_singleton events event ih =>
    rw [List.pairwise_append] at hsorted
    obtain ⟨hsorted, -, hlast⟩ := hsorted
    have hprevious := ih (fun other hmem => hvalid other (List.mem_append_left _ hmem)) hsorted
    unfold maximumOver at hprevious ⊢
    rw [List.foldlM_append, hprevious, ok_bind, List.foldlM_cons, hvalid event (by simp), ok_bind,
      ok_bind, List.foldlM_nil, List.getLast?_concat, Option.map_some, Option.getD_some]
    have hmax : max (max start ((events.getLast?.map value).getD start)) (value event) =
        max start (value event) := by
      cases hprior : events.getLast? with
      | none => simp
      | some prior =>
        have hle : value prior ≤ value event :=
          hlast prior (List.mem_of_getLast? hprior) event (List.mem_singleton_self _)
        simp only [Option.map_some, Option.getD_some]
        rw [max_assoc, max_eq_right hle]
    rw [hmax]
    rfl

theorem orderedDescending_eq_reverse (hsorted : events.Pairwise fun a b => value a ≤ value b)
    (hids : events.Pairwise fun a b => a.id < b.id) :
    orderedDescending value events = events.reverse := by
  unfold orderedDescending
  rw [sortBy_of_sortedBy]
  refine (hsorted.and hids).imp fun {a b} hab => ?_
  rw [Prod.Lex.toLex_le_toLex]
  rcases lt_or_eq_of_le hab.1 with hlt | heq
  · exact Or.inl hlt
  · exact Or.inr ⟨heq, hab.2.le⟩

/-! ### The relation of the stores -/

/-- The tables hold the record and the events of the in-memory store under the scope. -/
structure Related (scopeKey : String) (base : ℤ) (stores : Stores) : Prop where
  ownership : (stores.db.ownership.filter fun row => row.scopeKey = scopeKey) =
    stores.store.current.toList.map (OwnershipRow.mk scopeKey)
  events : scopeEvents scopeKey stores.db = stores.store.events.map (shift base)
  sequence : stores.db.sequence + 1 = stores.store.nextEventId + base
  inMemory : InOrder stores.store.events
  inTable : InOrder (stores.store.events.map (shift base))
  numbered : stores.store.nextEventId = stores.store.events.length + 1 ∧
    ∀ event ∈ stores.store.events, event.id < stores.store.nextEventId
  base : 0 ≤ base
  current : ∀ record ∈ stores.store.current, validateRuntimeOwnershipRecord record = .ok () ∧
    ∀ event ∈ stores.store.events, event.generation ≤ record.generation

section Relation

variable {scopeKey : String} {base : ℤ} {store : StoredOwnership} {db : OwnershipTables}

section

variable (h : Related scopeKey base ⟨store, db⟩)
include h

theorem select_eq :
    Table.select OwnershipRow.scopeKey scopeKey db.ownership =
      store.current.map (OwnershipRow.mk scopeKey) := by
  have hhead : Table.select OwnershipRow.scopeKey scopeKey db.ownership =
      (db.ownership.filter fun row => row.scopeKey = scopeKey).head? := (List.head?_filter ..).symm
  rw [hhead, h.ownership]
  cases store.current with
  | none => rfl
  | some record => rfl

theorem getCurrent_eq : getCurrent store = .ok store.current := by
  unfold getCurrent validateCurrent
  cases hcurrent : store.current with
  | none => rfl
  | some record =>
    show (do validateRuntimeOwnershipRecord record; Except.ok (some record)) = Except.ok (some record)
    rw [(h.current record hcurrent).1, ok_bind]

theorem selectCurrent_eq : selectCurrent scopeKey db = .ok store.current := by
  rw [← getCurrent_eq h]
  unfold selectCurrent getCurrent validateCurrent
  rw [select_eq h]
  cases store.current <;> rfl

theorem selectMaximum_eq (hshift : ∀ event, value (shift base event) = value event)
    (hsorted : store.events.Pairwise fun a b => value a ≤ value b) :
    selectMaximum scopeKey value db = .ok (store.events.getLast?.map value) := by
  have hshifted : (store.events.map (shift base)).Pairwise fun a b => value a ≤ value b := by
    rw [List.pairwise_map]
    refine hsorted.imp fun {a b} hab => ?_
    rw [hshift, hshift]
    exact hab
  unfold selectMaximum
  rw [h.events, orderedDescending_eq_reverse hshifted h.inTable.ids, List.head?_reverse,
    List.getLast?_map]
  cases hlast : store.events.getLast? with
  | none => rfl
  | some event =>
    have hvalid := h.inTable.valid (shift base event)
      (List.mem_map_of_mem (List.mem_of_getLast? hlast))
    show (do validateRuntimeOwnershipEventRecord (shift base event)
             Except.ok (some (value (shift base event)))) = Except.ok (some (value event))
    rw [hvalid, ok_bind, hshift]

theorem maximum_generation_eq :
    selectMaximum scopeKey RuntimeOwnershipEventRecord.generation db =
      .ok (store.events.getLast?.map RuntimeOwnershipEventRecord.generation) :=
  selectMaximum_eq h (fun _ => rfl) h.inMemory.generations

theorem maximum_time_eq :
    selectMaximum scopeKey RuntimeOwnershipEventRecord.eventAtEpochMs db =
      .ok (store.events.getLast?.map RuntimeOwnershipEventRecord.eventAtEpochMs) :=
  selectMaximum_eq h (fun _ => rfl) h.inMemory.times

theorem maximumEventTimestamp_eq :
    maximumEventTimestamp store =
      .ok ((store.events.getLast?.map RuntimeOwnershipEventRecord.eventAtEpochMs).getD 0) := by
  unfold maximumEventTimestamp
  rw [maximumOver_eq_last 0 h.inMemory.valid h.inMemory.times, max_eq_right]
  cases hlast : store.events.getLast? with
  | none => exact le_refl 0
  | some event =>
    obtain ⟨-, -, -, -, htime⟩ :=
      validateEvent_eq_ok.mp (h.inMemory.valid event (List.mem_of_getLast? hlast))
    exact htime

theorem maximumGeneration_eq :
    maximumOver RuntimeOwnershipEventRecord.generation
        ((store.current.map (·.generation)).getD 0) store.events =
      .ok (max ((store.current.map (·.generation)).getD 0)
        ((store.events.getLast?.map RuntimeOwnershipEventRecord.generation).getD 0)) := by
  rw [maximumOver_eq_last _ h.inMemory.valid h.inMemory.generations]
  cases hlast : store.events.getLast? with
  | some event => rfl
  | none =>
    have hnonneg : 0 ≤ (store.current.map (·.generation)).getD 0 := by
      cases hcurrent : store.current with
      | none => exact le_refl 0
      | some record =>
        obtain ⟨-, ⟨-, hgeneration⟩, -⟩ := validateRecord_eq_ok.mp (h.current record hcurrent).1
        exact (zero_le_one).trans hgeneration
    simp [max_eq_left hnonneg]

theorem acquisitionRecord_eq (input : AcquireRuntimeOwnershipInput) :
    SqliteOwnershipStore.acquisitionRecord scopeKey db input =
      (acquisitionRecord store input).map fun record => (record, store.current) := by
  have hvalidate : validateCurrent store = .ok () := by
    unfold validateCurrent
    cases hcurrent : store.current with
    | none => rfl
    | some record => exact (h.current record hcurrent).1
  unfold SqliteOwnershipStore.acquisitionRecord acquisitionRecord
  rw [selectCurrent_eq h, maximum_generation_eq h, maximum_time_eq h, maximumEventTimestamp_eq h,
    maximumGeneration_eq h, hvalidate]
  simp only [ok_bind]
  cases validateAcquireRuntimeOwnershipInput input with
  | error e => rfl
  | ok u =>
    simp only [ok_bind]
    cases assertNoTimestampRollback input.acquiredAtEpochMs
        (max ((store.current.map (·.heartbeatAtEpochMs)).getD 0)
          ((store.events.getLast?.map RuntimeOwnershipEventRecord.eventAtEpochMs).getD 0)) with
    | error e => rfl
    | ok u =>
      simp only [ok_bind]
      cases throwIf (maxSafeInteger ≤ max ((store.current.map (·.generation)).getD 0)
          ((store.events.getLast?.map RuntimeOwnershipEventRecord.generation).getD 0))
          "Runtime ownership generation overflow." with
      | error e => rfl
      | ok u =>
        simp only [ok_bind]
        generalize validateRuntimeOwnershipRecord _ = validated
        cases validated with
        | error e => rfl
        | ok u => rfl

theorem heldRecord_eq (ownerToken : String) (generation atEpochMs : ℤ) :
    SqliteOwnershipStore.heldRecord scopeKey db ownerToken generation atEpochMs =
      heldRecord store ownerToken generation atEpochMs := by
  unfold SqliteOwnershipStore.heldRecord heldRecord
  rw [selectCurrent_eq h, ok_bind]
  cases hcurrent : store.current with
  | none => rfl
  | some record =>
    dsimp only
    rw [(h.current record hcurrent).1, ok_bind, maximum_generation_eq h, maximum_time_eq h,
      maximumEventTimestamp_eq h]
    rfl

end

/-! ### The writes -/

theorem related_setCurrent (h : Related scopeKey base ⟨store, db⟩) {record : RuntimeOwnershipRecord}
    (hvalid : validateRuntimeOwnershipRecord record = .ok ())
    (hgeneration : ∀ event ∈ store.events, event.generation ≤ record.generation) :
    Related scopeKey base ⟨{ store with current := some record },
      { db with
        ownership := Table.upsert OwnershipRow.scopeKey ⟨scopeKey, record⟩ db.ownership }⟩ where
  ownership := by
    refine Table.filter_upsert (r := OwnershipRow.mk scopeKey record) ?_
    have hlength := congrArg List.length h.ownership
    dsimp only at hlength ⊢
    rw [hlength]
    cases store.current with
    | none => simp
    | some current => simp
  events := h.events
  sequence := h.sequence
  inMemory := h.inMemory
  inTable := h.inTable
  numbered := h.numbered
  base := h.base
  current := by
    intro current hcurrent
    obtain rfl := Option.some.inj hcurrent
    exact ⟨hvalid, hgeneration⟩

/-- The stores with one more event. -/
def withEvent (scopeKey : String) (base : ℤ) (stores : Stores) (event : RuntimeOwnershipEventRecord) :
    Stores where
  store := { stores.store with
    events := stores.store.events ++ [{ event with id := stores.store.nextEventId }]
    nextEventId := stores.store.nextEventId + 1 }
  db := { stores.db with
    events := stores.db.events ++
      [⟨scopeKey, { event with id := stores.store.nextEventId + base }⟩]
    sequence := stores.db.sequence + 1 }

/-- An event of the held record, not before any other. -/
structure IsNext (stores : Stores) (event : RuntimeOwnershipEventRecord) : Prop where
  generation : event.generation ≤ maxSafeInteger ∧ 1 ≤ event.generation
  reasonCode : isReasonCode event.reasonCode = true
  time : event.eventAtEpochMs ≤ maxSafeInteger ∧ 0 ≤ event.eventAtEpochMs
  last : ∀ earlier ∈ stores.store.events, earlier.eventAtEpochMs ≤ event.eventAtEpochMs ∧
    earlier.generation ≤ event.generation
  current : ∀ record ∈ stores.store.current, event.generation ≤ record.generation

section

variable (h : Related scopeKey base ⟨store, db⟩) (hnext : IsNext ⟨store, db⟩ event)
include h hnext

theorem related_withEvent (hid : store.nextEventId + base ≤ maxSafeInteger) :
    Related scopeKey base (withEvent scopeKey base ⟨store, db⟩ event) := by
  obtain ⟨hnumbered, hids⟩ := h.numbered
  have hbase := h.base
  have hsequence := h.sequence
  dsimp only at hnumbered hsequence
  have hvalid : validateRuntimeOwnershipEventRecord { event with id := store.nextEventId } = .ok () :=
    validateEvent_eq_ok.mpr ⟨⟨by dsimp only; omega, by dsimp only; omega⟩, hnext.generation,
      hnext.reasonCode, hnext.time⟩
  have hvalid' : validateRuntimeOwnershipEventRecord
      { event with id := store.nextEventId + base } = .ok () :=
    validateEvent_eq_ok.mpr ⟨⟨hid, by dsimp only; omega⟩, hnext.generation, hnext.reasonCode,
      hnext.time⟩
  refine ⟨h.ownership, ?_, ?_, ?_, ?_, ⟨?_, ?_⟩, hbase, ?_⟩
  · have hold := h.events
    unfold scopeEvents at hold ⊢
    simp only [withEvent, List.filter_append, List.map_append, hold, List.map_cons, List.map_nil]
    simp [shift]
  · show db.sequence + 1 + 1 = store.nextEventId + 1 + base
    omega
  · exact inOrder_concat h.inMemory hvalid fun earlier hearlier =>
      ⟨(hnext.last earlier hearlier).1, (hnext.last earlier hearlier).2, hids earlier hearlier⟩
  · show InOrder ((store.events ++ [_]).map (shift base))
    rw [List.map_append]
    refine inOrder_concat h.inTable hvalid' fun shifted hshifted => ?_
    obtain ⟨earlier, hearlier, rfl⟩ := List.mem_map.mp hshifted
    refine ⟨(hnext.last earlier hearlier).1, (hnext.last earlier hearlier).2, ?_⟩
    have hlt := hids earlier hearlier
    show earlier.id + base < store.nextEventId + base
    dsimp only at hlt
    omega
  · show store.nextEventId + 1 = _
    rw [hnumbered, withEvent, List.length_append, List.length_singleton]
    rfl
  · intro other hother
    show other.id < store.nextEventId + 1
    rcases List.mem_append.mp hother with hother | hother
    · have hlt := hids other hother
      dsimp only at hlt
      omega
    · rw [List.mem_singleton.mp hother]
      show store.nextEventId < store.nextEventId + 1
      omega
  · intro record hrecord
    refine ⟨(h.current record hrecord).1, fun other hother => ?_⟩
    rcases List.mem_append.mp hother with hother | hother
    · exact (h.current record hrecord).2 other hother
    · rw [List.mem_singleton.mp hother]
      exact hnext.current record hrecord

theorem appendEvent_inMemory (hroom : store.events.length < maxArrayLength) :
    appendEvent store event = .ok (withEvent scopeKey base ⟨store, db⟩ event).store :=
  have hsafe := nextEventId_safe h.numbered.1 hroom
  appendEvent_eq_ok.mpr ⟨hsafe.1, validateEvent_eq_ok.mpr
    ⟨hsafe, hnext.generation, hnext.reasonCode, hnext.time⟩, hroom, rfl⟩

/-- The event is appended to the table while an id is left, if it is no second acquisition of its
generation. -/
theorem appendEvent_inTable (hunique : event.eventType = .acquired ∨ event.eventType = .takenOver →
      ∀ earlier ∈ store.events, earlier.generation ≠ event.generation)
    (hid : db.sequence < maxSafeInteger) :
    SqliteOwnershipStore.appendEvent scopeKey db event =
      .ok (withEvent scopeKey base ⟨store, db⟩ event).db := by
  have hsequence := h.sequence
  have hbase := h.base
  have hnumbered := h.numbered.1
  dsimp only at hsequence hnumbered
  have hvalid : validateRuntimeOwnershipEventRecord { event with id := db.sequence + 1 } = .ok () :=
    validateEvent_eq_ok.mpr ⟨⟨by dsimp only; omega, by dsimp only; omega⟩, hnext.generation,
      hnext.reasonCode, hnext.time⟩
  have hfree : ¬ ((event.eventType = .acquired ∨ event.eventType = .takenOver) ∧
      ∃ earlier ∈ scopeEvents scopeKey db, (earlier.eventType = .acquired ∨
        earlier.eventType = .takenOver) ∧ earlier.generation = event.generation) := by
    rintro ⟨hkind, shifted, hshifted, -, hgeneration⟩
    rw [h.events] at hshifted
    obtain ⟨earlier, hearlier, rfl⟩ := List.mem_map.mp hshifted
    exact hunique hkind earlier hearlier hgeneration
  unfold SqliteOwnershipStore.appendEvent
  dsimp only
  rw [throwIf, if_neg hfree, ok_bind, hvalid, ok_bind]
  unfold withEvent
  rw [hsequence]

end

theorem appendEvent_full {next : StoredOwnership}
    (hfull : ¬ store.events.length < maxArrayLength) : appendEvent store event ≠ .ok next :=
  fun h => hfull (appendEvent_eq_ok.mp h).2.2.1

theorem appendEvent_table_full {next : OwnershipTables} (hfull : ¬ db.sequence < maxSafeInteger) :
    SqliteOwnershipStore.appendEvent scopeKey db event ≠ .ok next := by
  intro h
  simp only [SqliteOwnershipStore.appendEvent, then_eq_ok] at h
  obtain ⟨-, hvalid, -⟩ := h
  obtain ⟨⟨hid, -⟩, -⟩ := validateEvent_eq_ok.mp hvalid
  dsimp only at hid
  omega

/-! ### The calls -/

/-- What a call has to keep: the answers are the same and the stores stay related. -/
def Agrees (scopeKey : String) (base : ℤ) (stores : Stores) (call : StoreCall) : Prop :=
  SameAnswer base (runInMemory stores.store call).1 (runSqlite scopeKey stores.db call).1 ∧
    Related scopeKey base (stores.advance scopeKey call)

/-- The stores with the record of an acquisition, before its event. -/
def withRecord (scopeKey : String) (stores : Stores) (record : RuntimeOwnershipRecord) : Stores :=
  ⟨{ stores.store with current := some record },
    { stores.db with
      ownership := Table.upsert OwnershipRow.scopeKey ⟨scopeKey, record⟩ stores.db.ownership }⟩

section Acquired

variable {input : AcquireRuntimeOwnershipInput} {record : RuntimeOwnershipRecord}
  (h : Related scopeKey base ⟨store, db⟩) (hrecord : acquisitionRecord store input = .ok record)
include hrecord

theorem isNext_acquisition : IsNext (withRecord scopeKey ⟨store, db⟩ record)
    (acquisitionEvent record store.current.isSome) := by
  obtain ⟨hvalid, -, hlatest, hgeneration⟩ := acquisitionRecord_eq_ok hrecord
  obtain ⟨-, hrange, htime, -⟩ := validateRecord_eq_ok.mp hvalid
  exact {
    generation := hrange
    reasonCode := (by decide : isReasonCode "PROCESS_LOCK_ACQUIRED" = true)
    time := htime
    last := fun event hmem => ⟨hlatest event hmem, (hgeneration event hmem).le⟩
    current := fun current hcurrent => by
      obtain rfl := Option.some.inj hcurrent
      exact le_refl _ }

include h

theorem related_withRecord : Related scopeKey base (withRecord scopeKey ⟨store, db⟩ record) := by
  obtain ⟨hvalid, -, -, hgeneration⟩ := acquisitionRecord_eq_ok hrecord
  exact related_setCurrent h hvalid fun event hmem => (hgeneration event hmem).le

theorem acquire_inTable (hspace : db.sequence < maxSafeInteger) :
    SqliteOwnershipStore.acquireAfterProcessLock scopeKey db input =
      (.ok ⟨record, store.current.isSome⟩,
        (withEvent scopeKey base (withRecord scopeKey ⟨store, db⟩ record)
          (acquisitionEvent record store.current.isSome)).db) := by
  have hchecks := acquisitionRecord_eq h input
  rw [hrecord] at hchecks
  obtain ⟨-, -, -, hgeneration⟩ := acquisitionRecord_eq_ok hrecord
  have htable := appendEvent_inTable (related_withRecord h hrecord) (isNext_acquisition hrecord)
    (fun _ event hmem => (hgeneration event hmem).ne) hspace
  simp only [SqliteOwnershipStore.acquireAfterProcessLock, hchecks, Except.map, ok_bind, htable]
  rfl

end Acquired

theorem agrees_acquire (h : Related scopeKey base ⟨store, db⟩) (input : AcquireRuntimeOwnershipInput)
    (hid : HasRoom ⟨store, db⟩ (.acquireAfterProcessLock input)) :
    Agrees scopeKey base ⟨store, db⟩ (.acquireAfterProcessLock input) := by
  have hchecks := acquisitionRecord_eq h input
  cases hrecord : acquisitionRecord store input with
  | error e =>
    rw [hrecord] at hchecks
    have hmemory : acquireAfterProcessLock store input = (.error e, store) := by
      simp only [acquireAfterProcessLock, hrecord]
    have htable : SqliteOwnershipStore.acquireAfterProcessLock scopeKey db input = (.error e, db) := by
      simp only [SqliteOwnershipStore.acquireAfterProcessLock, hchecks]
      rfl
    unfold Agrees Stores.advance
    simp only [runInMemory, runSqlite, hmemory, htable]
    exact ⟨trivial, h⟩
  | ok record =>
    obtain ⟨hroom, hspace⟩ := hid (by rw [hrecord]; rfl)
    have howned := related_withRecord h hrecord
    have hnext : IsNext (withRecord scopeKey ⟨store, db⟩ record) _ := isNext_acquisition hrecord
    have hsequence := h.sequence
    dsimp only at hsequence hroom hspace
    have hmemory := appendEvent_inMemory howned hnext hroom
    have hrun : acquireAfterProcessLock store input = (.ok ⟨record, store.current.isSome⟩,
        (withEvent scopeKey base (withRecord scopeKey ⟨store, db⟩ record)
          (acquisitionEvent record store.current.isSome)).store) := by
      simp only [acquireAfterProcessLock, hrecord, hmemory]
      rfl
    unfold Agrees Stores.advance
    simp only [runInMemory, runSqlite, hrun, acquire_inTable h hrecord hspace]
    exact ⟨rfl, related_withEvent howned hnext (by dsimp only; omega)⟩

variable {current : RuntimeOwnershipRecord}

theorem isNext_of_held (h : Related scopeKey base ⟨store, db⟩) {ownerToken : String}
    {generation atEpochMs : ℤ}
    (hheld : heldRecord store ownerToken generation atEpochMs = .ok (some current))
    (hgeneration : event.generation = current.generation)
    (hreason : isReasonCode event.reasonCode = true) (htime : event.eventAtEpochMs = atEpochMs)
    (hrange : atEpochMs ≤ maxSafeInteger ∧ 0 ≤ atEpochMs) : IsNext ⟨store, db⟩ event := by
  obtain ⟨hcurrent, -, -, -, hlatest⟩ := heldRecord_eq_some hheld
  obtain ⟨hvalid, hevents⟩ := h.current current hcurrent
  obtain ⟨-, hsafe, -⟩ := validateRecord_eq_ok.mp hvalid
  refine ⟨by rw [hgeneration]; exact hsafe, hreason, by rw [htime]; exact hrange, ?_, ?_⟩
  · intro earlier hearlier
    rw [htime, hgeneration]
    exact ⟨hlatest earlier hearlier, hevents earlier hearlier⟩
  · intro record hrecord
    have hrecord' : store.current = some record := hrecord
    obtain rfl := Option.some.inj (hcurrent.symm.trans hrecord')
    exact hgeneration.le

theorem agrees_recordLost (h : Related scopeKey base ⟨store, db⟩)
    (input : RecordRuntimeOwnershipLostInput) (hid : HasRoom ⟨store, db⟩ (.recordLost input)) :
    Agrees scopeKey base ⟨store, db⟩ (.recordLost input) := by
  have hchecks := heldRecord_eq h input.ownerToken input.generation input.lostAtEpochMs
  unfold Agrees Stores.advance
  simp only [runInMemory, runSqlite, recordLost, recordedLost, SqliteOwnershipStore.recordLost, hchecks]
  cases hinput : validateRecordRuntimeOwnershipLostInput input with
  | error e => exact ⟨trivial, h⟩
  | ok u =>
    simp only [ok_bind]
    cases hheld : heldRecord store input.ownerToken input.generation input.lostAtEpochMs with
    | error e => exact ⟨trivial, h⟩
    | ok held =>
      cases held with
      | none => exact ⟨rfl, h⟩
      | some current =>
        have hiff := hid (by dsimp only; rw [hheld]; exact fun heq => by cases Except.ok.inj heq)
        simp only [validateRecordRuntimeOwnershipLostInput, validateEpochMs, validateReasonCode,
          then_eq_ok, throwIf_eq_ok, not_or, not_lt, Bool.not_eq_false] at hinput
        have hnext : IsNext ⟨store, db⟩ (lostEvent current input) :=
          isNext_of_held h hheld rfl hinput.2.2.2 rfl hinput.2.2.1
        simp only [ok_bind]
        by_cases hroom : store.events.length < maxArrayLength
        · have hspace : db.sequence < maxSafeInteger := hiff.mp hroom
          have hsequence := h.sequence
          dsimp only at hsequence
          rw [appendEvent_inMemory h hnext hroom,
            appendEvent_inTable h hnext (by rintro (hkind | hkind) <;> cases hkind) hspace]
          exact ⟨rfl, related_withEvent h hnext (by omega)⟩
        · have hfull : ¬ db.sequence < maxSafeInteger := fun hlt => hroom (hiff.mpr hlt)
          cases hmemory : appendEvent store (lostEvent current input) with
          | ok next => exact absurd hmemory (appendEvent_full hroom)
          | error e =>
            cases htable : SqliteOwnershipStore.appendEvent scopeKey db (lostEvent current input) with
            | ok next => exact absurd htable (appendEvent_table_full hfull)
            | error e' => exact ⟨trivial, h⟩

/-! Updates and deletions that are guarded by the scope hit the row of the held record only. -/

section Guarded

variable (hits : OwnershipRow → Bool) {current : RuntimeOwnershipRecord}

section

variable (h : Related scopeKey base ⟨store, db⟩) (hcurrent : store.current = some current)
include h hcurrent

theorem filter_hits (hscope : ∀ row, hits row = true → row.scopeKey = scopeKey)
    (hhits : hits ⟨scopeKey, current⟩ = true) :
    db.ownership.filter hits = [⟨scopeKey, current⟩] := by
  have hrows := h.ownership
  dsimp only at hrows
  rw [hcurrent] at hrows
  have hboth : db.ownership.filter hits =
      (db.ownership.filter fun row => row.scopeKey = scopeKey).filter hits := by
    rw [List.filter_filter]
    refine List.filter_congr fun row _ => ?_
    by_cases hrow : hits row = true
    · simp [hrow, hscope row hrow]
    · simp [hrow]
  rw [hboth, hrows]
  simp [hhits]

theorem related_delete (hhits : hits ⟨scopeKey, current⟩ = true) :
    Related scopeKey base ⟨{ store with current := none },
      { db with ownership := db.ownership.filter fun row => !hits row }⟩ where
  ownership := by
    have hrows := h.ownership
    dsimp only at hrows ⊢
    rw [hcurrent] at hrows
    rw [List.filter_filter]
    have hcomm : (db.ownership.filter fun row => decide (row.scopeKey = scopeKey) && !hits row) =
        (db.ownership.filter fun row => row.scopeKey = scopeKey).filter fun row => !hits row := by
      rw [List.filter_filter]
      exact List.filter_congr fun row _ => Bool.and_comm _ _
    rw [hcomm, hrows]
    simp [hhits]
  events := h.events
  sequence := h.sequence
  inMemory := h.inMemory
  inTable := h.inTable
  numbered := h.numbered
  base := h.base
  current := fun _ hnone => by cases hnone

theorem related_update (hhits : hits ⟨scopeKey, current⟩ = true)
    {change : RuntimeOwnershipRecord → RuntimeOwnershipRecord}
    (hvalid : validateRuntimeOwnershipRecord (change current) = .ok ())
    (hgeneration : (change current).generation = current.generation) :
    Related scopeKey base ⟨{ store with current := some (change current) },
      { db with
        ownership := Table.update hits (fun row => { row with record := change row.record })
          db.ownership }⟩ where
  ownership := by
    have hrows := h.ownership
    dsimp only at hrows ⊢
    rw [hcurrent] at hrows
    unfold Table.update
    have hkeep : ((fun row : OwnershipRow => decide (row.scopeKey = scopeKey)) ∘ fun row =>
        if hits row = true then { row with record := change row.record } else row) =
          fun row => decide (row.scopeKey = scopeKey) := by
      funext row
      by_cases hrow : hits row = true
      · simp [hrow]
      · simp [hrow]
    rw [List.filter_map, hkeep, hrows]
    simp [hhits]
  events := h.events
  sequence := h.sequence
  inMemory := h.inMemory
  inTable := h.inTable
  numbered := h.numbered
  base := h.base
  current := by
    intro record hrecord
    obtain rfl := Option.some.inj hrecord
    rw [hgeneration]
    exact ⟨hvalid, (h.current current hcurrent).2⟩

end

end Guarded

theorem deleteReleased_eq (h : Related scopeKey base ⟨store, db⟩)
    (hcurrent : store.current = some current) {input : ReleaseRuntimeOwnershipInput}
    (htoken : current.ownerToken = input.ownerToken)
    (hgeneration : current.generation = input.generation)
    (hexpires : input.releasedAtEpochMs < current.expiresAtEpochMs) :
    ∃ next, SqliteOwnershipStore.deleteReleased scopeKey db input = .ok next ∧
      Related scopeKey base ⟨{ store with current := none }, next⟩ := by
  let hits (row : OwnershipRow) : Bool :=
    row.scopeKey = scopeKey ∧ row.record.ownerToken = input.ownerToken ∧
      row.record.generation = input.generation ∧ input.releasedAtEpochMs < row.record.expiresAtEpochMs
  have hhits : hits ⟨scopeKey, current⟩ = true := by simp [hits, htoken, hgeneration, hexpires]
  have hone : db.ownership.filter hits = [⟨scopeKey, current⟩] :=
    filter_hits hits h hcurrent (fun row hrow => by simp [hits] at hrow; exact hrow.1) hhits
  refine ⟨_, ?_, related_delete hits h hcurrent hhits⟩
  unfold SqliteOwnershipStore.deleteReleased
  dsimp only
  rw [hone, throwIf, if_neg (by simp), ok_bind]

theorem agrees_release (h : Related scopeKey base ⟨store, db⟩) (input : ReleaseRuntimeOwnershipInput)
    (hid : HasRoom ⟨store, db⟩ (.release input)) : Agrees scopeKey base ⟨store, db⟩ (.release input) := by
  have hchecks := heldRecord_eq h input.ownerToken input.generation input.releasedAtEpochMs
  unfold Agrees Stores.advance
  simp only [runInMemory, runSqlite, release, released, SqliteOwnershipStore.release, hchecks]
  cases hinput : validateReleaseRuntimeOwnershipInput input with
  | error e => exact ⟨trivial, h⟩
  | ok u =>
    simp only [ok_bind]
    cases hheld : heldRecord store input.ownerToken input.generation input.releasedAtEpochMs with
    | error e => exact ⟨trivial, h⟩
    | ok held =>
      cases held with
      | none => exact ⟨rfl, h⟩
      | some current =>
        have hiff := hid (by dsimp only; rw [hheld]; exact fun heq => by cases Except.ok.inj heq)
        simp only [validateReleaseRuntimeOwnershipInput, validateEpochMs, then_eq_ok,
          throwIf_eq_ok, not_or, not_lt] at hinput
        obtain ⟨hcurrent, htoken, hgeneration, -, -⟩ := heldRecord_eq_some hheld
        have hnext : IsNext ⟨store, db⟩ (releaseEvent current input.releasedAtEpochMs) :=
          isNext_of_held h hheld rfl (by decide : isReasonCode "CLEAN_RELEASE" = true) rfl hinput.2.2
        simp only [ok_bind]
        by_cases hexpired : current.expiresAtEpochMs ≤ input.releasedAtEpochMs
        · rw [if_pos hexpired, if_pos hexpired]
          exact ⟨rfl, h⟩
        · rw [if_neg hexpired, if_neg hexpired]
          by_cases hroom : store.events.length < maxArrayLength
          · have hspace : db.sequence < maxSafeInteger := hiff.mp hroom
            have hsequence := h.sequence
            dsimp only at hsequence
            have hevent := related_withEvent h hnext (by omega)
            obtain ⟨next, hdelete, hrelated⟩ := deleteReleased_eq hevent hcurrent htoken hgeneration
              (not_le.mp hexpired)
            rw [appendEvent_inMemory h hnext hroom,
              appendEvent_inTable h hnext (by rintro (hkind | hkind) <;> cases hkind) hspace]
            have hdelete' : SqliteOwnershipStore.deleteReleased scopeKey
                (withEvent scopeKey base ⟨store, db⟩
                  (releaseEvent current input.releasedAtEpochMs)).db input = .ok next := hdelete
            simp only [ok_bind]
            rw [hdelete', ok_bind]
            exact ⟨rfl, hrelated⟩
          · have hfull : ¬ db.sequence < maxSafeInteger := fun hlt => hroom (hiff.mpr hlt)
            cases hmemory : appendEvent store (releaseEvent current input.releasedAtEpochMs) with
            | ok next => exact absurd hmemory (appendEvent_full hroom)
            | error e =>
              cases htable : SqliteOwnershipStore.appendEvent scopeKey db
                  (releaseEvent current input.releasedAtEpochMs) with
              | ok next => exact absurd htable (appendEvent_table_full hfull)
              | error e' => exact ⟨trivial, h⟩

/-- The record after a renewal. -/
def renewedWith (input : RenewRuntimeOwnershipInput) (current : RuntimeOwnershipRecord) :
    RuntimeOwnershipRecord :=
  { current with
    heartbeatAtEpochMs := input.heartbeatAtEpochMs
    expiresAtEpochMs := input.expiresAtEpochMs }

theorem updateRenewed_eq (h : Related scopeKey base ⟨store, db⟩)
    (hcurrent : store.current = some current) {input : RenewRuntimeOwnershipInput}
    (htoken : current.ownerToken = input.ownerToken)
    (hgeneration : current.generation = input.generation)
    (hvalid : validateRuntimeOwnershipRecord (renewedWith input current) = .ok ()) :
    ∃ next, SqliteOwnershipStore.updateRenewed scopeKey db current input =
        .ok (some (renewedWith input current), next) ∧
      Related scopeKey base ⟨{ store with current := some (renewedWith input current) }, next⟩ := by
  let hits (row : OwnershipRow) : Bool :=
    row.scopeKey = scopeKey ∧ row.record.ownerToken = input.ownerToken ∧
      row.record.generation = input.generation ∧
      row.record.heartbeatAtEpochMs = current.heartbeatAtEpochMs ∧
      row.record.expiresAtEpochMs = current.expiresAtEpochMs
  have hhits : hits ⟨scopeKey, current⟩ = true := by simp [hits, htoken, hgeneration]
  have hone : db.ownership.filter hits = [⟨scopeKey, current⟩] :=
    filter_hits hits h hcurrent (fun row hrow => by simp [hits] at hrow; exact hrow.1) hhits
  have hrelated := related_update hits h hcurrent hhits hvalid rfl
  have hselect := selectCurrent_eq hrelated
  refine ⟨_, ?_, hrelated⟩
  unfold SqliteOwnershipStore.updateRenewed
  dsimp only
  rw [hone, throwIf, if_neg (by simp), ok_bind]
  show (selectCurrent scopeKey { db with
    ownership := Table.update hits (fun row => { row with record := renewedWith input row.record })
      db.ownership } >>= _) = _
  rw [hselect, ok_bind]
  rfl

theorem agrees_renew (h : Related scopeKey base ⟨store, db⟩) (input : RenewRuntimeOwnershipInput) :
    Agrees scopeKey base ⟨store, db⟩ (.renew input) := by
  have hchecks := heldRecord_eq h input.ownerToken input.generation input.heartbeatAtEpochMs
  unfold Agrees Stores.advance
  simp only [runInMemory, runSqlite, renew, renewal, SqliteOwnershipStore.renew, hchecks]
  cases hinput : validateRenewRuntimeOwnershipInput input with
  | error e => exact ⟨trivial, h⟩
  | ok u =>
    simp only [ok_bind]
    cases hheld : heldRecord store input.ownerToken input.generation input.heartbeatAtEpochMs with
    | error e => exact ⟨trivial, h⟩
    | ok held =>
      cases held with
      | none => exact ⟨rfl, h⟩
      | some current =>
        obtain ⟨hcurrent, htoken, hgeneration, hheartbeat, -⟩ := heldRecord_eq_some hheld
        simp only [ok_bind, renewedRecord]
        by_cases hrefused : input.heartbeatAtEpochMs = current.heartbeatAtEpochMs ∨
            current.expiresAtEpochMs ≤ input.heartbeatAtEpochMs ∨
            input.expiresAtEpochMs ≤ current.expiresAtEpochMs
        · rw [if_pos hrefused, if_pos hrefused]
          exact ⟨rfl, h⟩
        · -- the renewed record is valid because the input is and the heartbeat did not go back
          have hvalid : validateRuntimeOwnershipRecord (renewedWith input current) = .ok () := by
            simp only [validateRenewRuntimeOwnershipInput, validateEpochMs, then_eq_ok,
              throwIf_eq_ok, not_or, not_lt, not_le] at hinput
            obtain ⟨-, -, hbeat, hexpiry, hafter⟩ := hinput
            obtain ⟨htoken', hrange, hacquired, -, -, hbefore, -⟩ :=
              validateRecord_eq_ok.mp (h.current current hcurrent).1
            exact validateRecord_eq_ok.mpr
              ⟨htoken', hrange, hacquired, hbeat, hexpiry, hbefore.trans hheartbeat, hafter⟩
          obtain ⟨next, hupdate, hrelated⟩ := updateRenewed_eq h hcurrent htoken hgeneration hvalid
          have hmemory : (do
              validateRuntimeOwnershipRecord (renewedWith input current)
              Except.ok (some (renewedWith input current))) =
                (Except.ok (some (renewedWith input current)) : Except String _) := by
            rw [hvalid, ok_bind]
          rw [if_neg hrefused, if_neg hrefused, hupdate]
          unfold renewedWith at hmemory
          rw [hmemory]
          exact ⟨rfl, hrelated⟩

theorem mapM_validatedEvent
    (h : ∀ event ∈ events, validateRuntimeOwnershipEventRecord event = .ok ()) :
    events.mapM validatedEvent = .ok events := by
  induction events with
  | nil => rfl
  | cons event events ih =>
    have hevent : validatedEvent event = .ok event := by
      unfold validatedEvent
      rw [h event List.mem_cons_self, ok_bind]
    rw [List.mapM_cons, hevent, ok_bind, ih fun other hmem => h other (List.mem_cons_of_mem _ hmem)]
    rfl

section

variable (h : Related scopeKey base ⟨store, db⟩)
include h

/-- The newest events, by their place in the list or by time and id. -/
theorem agrees_listRecentEvents (limit : ℤ) :
    Agrees scopeKey base ⟨store, db⟩ (.listRecentEvents limit) := by
  refine ⟨?_, h⟩
  simp only [runInMemory, runSqlite, listRecentEvents, SqliteOwnershipStore.listRecentEvents]
  cases validateRuntimeOwnershipEventLimit limit with
  | error e => trivial
  | ok u =>
    have horder : (orderedDescending RuntimeOwnershipEventRecord.eventAtEpochMs
        (scopeEvents scopeKey db)).take limit.toNat =
          (store.events.drop (store.events.length - limit.toNat)).reverse.map (shift base) := by
      have hevents : scopeEvents scopeKey db = store.events.map (shift base) := h.events
      have hreverse : orderedDescending RuntimeOwnershipEventRecord.eventAtEpochMs
          (store.events.map (shift base)) = (store.events.map (shift base)).reverse :=
        orderedDescending_eq_reverse h.inTable.times h.inTable.ids
      rw [hevents, hreverse, List.reverse_drop, ← List.map_reverse, ← List.map_take]
      by_cases hle : limit.toNat ≤ store.events.length
      · rw [Nat.sub_sub_self hle]
      · rw [List.take_of_length_le (by rw [List.length_reverse]; omega),
          List.take_of_length_le (by rw [List.length_reverse]; omega)]
    have hmemory : ∀ event ∈ (store.events.drop (store.events.length - limit.toNat)).reverse,
        validateRuntimeOwnershipEventRecord event = .ok () := by
      intro event hmem
      exact h.inMemory.valid event (List.mem_of_mem_drop (List.mem_reverse.mp hmem))
    have htable : ∀ event ∈ (store.events.drop
        (store.events.length - limit.toNat)).reverse.map (shift base),
        validateRuntimeOwnershipEventRecord event = .ok () := by
      intro shifted hmem
      obtain ⟨event, hevent, rfl⟩ := List.mem_map.mp hmem
      exact h.inTable.valid _ (List.mem_map_of_mem
        (List.mem_of_mem_drop (List.mem_reverse.mp hevent)))
    rw [ok_bind, ok_bind, horder, mapM_validatedEvent hmemory, mapM_validatedEvent htable]
    rfl

theorem agrees_getCurrent : Agrees scopeKey base ⟨store, db⟩ .getCurrent := by
  refine ⟨?_, h⟩
  simp only [runInMemory, runSqlite, getCurrent_eq h, selectCurrent_eq h]
  rfl

/-- **The step rule.** -/
theorem agrees_of_related {call : StoreCall} (hid : HasRoom ⟨store, db⟩ call) :
    Agrees scopeKey base ⟨store, db⟩ call := by
  cases call with
  | acquireAfterProcessLock input => exact agrees_acquire h input hid
  | renew input => exact agrees_renew h input
  | release input => exact agrees_release h input hid
  | recordLost input => exact agrees_recordLost h input hid
  | getCurrent => exact agrees_getCurrent h
  | listRecentEvents limit => exact agrees_listRecentEvents h limit

end

/-! ### Whole runs -/

/-- Nothing is stored under the scope; other scopes may have rows. -/
structure EmptyScope (scopeKey : String) (db : OwnershipTables) : Prop where
  ownership : ∀ row ∈ db.ownership, row.scopeKey ≠ scopeKey
  events : ∀ row ∈ db.events, row.scopeKey ≠ scopeKey
  sequence : 0 ≤ db.sequence

theorem related_initial (h : EmptyScope scopeKey db) :
    Related scopeKey db.sequence ⟨.initial, db⟩ where
  ownership := by
    show db.ownership.filter _ = []
    rw [List.filter_eq_nil_iff]
    intro row hrow
    simp [h.ownership row hrow]
  events := by
    have hnone : (db.events.filter fun row => row.scopeKey = scopeKey) = [] := by
      rw [List.filter_eq_nil_iff]
      intro row hrow
      simp [h.events row hrow]
    unfold scopeEvents
    dsimp only
    rw [hnone]
    rfl
  sequence := by
    show db.sequence + 1 = 1 + db.sequence
    omega
  inMemory := ⟨by simp [StoredOwnership.initial], .nil, .nil, .nil⟩
  inTable := ⟨by simp [StoredOwnership.initial], .nil, .nil, .nil⟩
  numbered := ⟨rfl, by simp [StoredOwnership.initial]⟩
  base := h.sequence
  current := by simp [StoredOwnership.initial]

theorem sameAnswers_of_related {calls : List StoreCall} (h : Related scopeKey base ⟨store, db⟩)
    (hsafe : SafeRun (Stores.advance scopeKey) HasRoom ⟨store, db⟩ calls) :
    List.Forall₂ (SameAnswer base) (sequential runInMemory store calls).1
        (sequential (runSqlite scopeKey) db calls).1 ∧
      Related scopeKey base
        ⟨(sequential runInMemory store calls).2, (sequential (runSqlite scopeKey) db calls).2⟩ := by
  induction calls generalizing store db with
  | nil => exact ⟨.nil, h⟩
  | cons call calls ih =>
    obtain ⟨hsame, hnext⟩ := agrees_of_related h hsafe.1
    obtain ⟨hanswers, hrelated⟩ := ih hnext hsafe.2
    rw [sequential_cons, sequential_cons]
    exact ⟨.cons hsame hanswers, hrelated⟩

/-- **The two stores agree.** Any sequence of calls on a fresh in-memory store and on the tables with
an empty scope returns the same values or throws in both, as long as its log has room for the events of
its calls. The ids of events differ by the ids that the tables had assigned before. -/
theorem stores_agree (hempty : EmptyScope scopeKey db) {calls : List StoreCall}
    (hids : SafeRun (Stores.advance scopeKey) HasRoom ⟨.initial, db⟩ calls) :
    List.Forall₂ (SameAnswer db.sequence) (sequential runInMemory .initial calls).1
      (sequential (runSqlite scopeKey) db calls).1 :=
  (sameAnswers_of_related (related_initial hempty) hids).1

end Relation

/-! ### A full event log -/

def emptyTables : OwnershipTables := ⟨[], [], 0⟩

def acquireCall : StoreCall := .acquireAfterProcessLock ⟨exampleToken, .dryRun, 0, 10⟩

def lostCall : StoreCall := .recordLost ⟨exampleToken, 1, 0, "HEARTBEAT_EXPIRED"⟩

variable {scopeKey : String}

theorem worn_losses {stores : Stores} {count : ℕ} (h : Related scopeKey 0 stores)
    (hworn : Worn stores.store count) (losses : ℕ) (hroom : count + losses ≤ maxArrayLength) :
    Related scopeKey 0 (run (Stores.advance scopeKey) stores (List.replicate losses lostCall)) ∧
      Worn (run (Stores.advance scopeKey) stores (List.replicate losses lostCall)).store
        (count + losses) := by
  induction losses generalizing stores count with
  | zero => exact ⟨h, hworn⟩
  | succ losses ih =>
    have hhas : HasRoom stores lostCall := by
      intro _
      have hsequence := h.sequence
      have hsafe := nextEventId_safe h.numbered.1 (by rw [hworn.length]; omega)
      exact iff_of_true (by rw [hworn.length]; omega) (by omega)
    have hnext := (agrees_of_related h hhas).2
    have hworn' : Worn (stores.advance scopeKey lostCall).store (count + 1) :=
      worn_lost hworn (by omega)
    rw [List.replicate_succ, run_cons, show count + (losses + 1) = count + 1 + losses by omega]
    exact ih hnext hworn' (by omega)

theorem sequential_eq_run (scopeKey : String) (stores : Stores) (calls : List StoreCall) :
    (sequential runInMemory stores.store calls).2 =
        (run (Stores.advance scopeKey) stores calls).store ∧
      (sequential (runSqlite scopeKey) stores.db calls).2 =
        (run (Stores.advance scopeKey) stores calls).db := by
  induction calls generalizing stores with
  | nil => exact ⟨rfl, rfl⟩
  | cons call calls ih =>
    rw [sequential_cons, sequential_cons, run_cons]
    exact ih (stores.advance scopeKey call)

theorem sameAnswer_of_concat {base : ℤ} {answers answers' : List StoreAnswer}
    {answer answer' : StoreAnswer}
    (h : List.Forall₂ (SameAnswer base) (answers ++ [answer]) (answers' ++ [answer'])) :
    SameAnswer base answer answer' := by
  have hreverse := List.forall₂_reverse_iff.mpr h
  rw [List.reverse_append, List.reverse_append] at hreverse
  exact (List.forall₂_cons.mp hreverse).1

theorem not_sameAnswer_of_worn {store : StoredOwnership} {db : OwnershipTables}
    (h : Related scopeKey 0 ⟨store, db⟩) (hworn : Worn store maxArrayLength) :
    ¬ SameAnswer 0 (runInMemory store acquireCall).1 (runSqlite scopeKey db acquireCall).1 := by
  have hspace : db.sequence < maxSafeInteger := by
    have hsequence := h.sequence
    have hnumbered := hworn.nextEventId
    dsimp only at hsequence
    unfold maxArrayLength at hnumbered
    unfold maxSafeInteger
    omega
  have hfull : ¬ store.events.length < maxArrayLength := by
    rw [hworn.length]
    exact lt_irrefl _
  simp only [runInMemory, runSqlite, acquireCall, acquireAfterProcessLock, hworn.acquisitionRecord_eq,
    acquire_inTable h hworn.acquisitionRecord_eq hspace]
  cases happend : appendEvent { store with current := some { exampleRecord with generation := 2 } }
      (acquisitionEvent { exampleRecord with generation := 2 } store.current.isSome) with
  | error e => exact id
  | ok next => exact absurd happend (appendEvent_full hfull)

theorem not_sameAnswers_of_worn {calls : List StoreCall}
    (hrelated : Related scopeKey 0 (run (Stores.advance scopeKey) ⟨.initial, emptyTables⟩ calls))
    (hworn : Worn (run (Stores.advance scopeKey) ⟨.initial, emptyTables⟩ calls).store
      maxArrayLength) :
    ¬ List.Forall₂ (SameAnswer 0) (sequential runInMemory .initial (calls ++ [acquireCall])).1
      (sequential (runSqlite scopeKey) emptyTables (calls ++ [acquireCall])).1 := by
  obtain ⟨hstore, hdb⟩ := sequential_eq_run scopeKey ⟨.initial, emptyTables⟩ calls
  dsimp only at hstore hdb
  intro hanswers
  simp only [sequential_concat, hstore, hdb] at hanswers
  exact not_sameAnswer_of_worn hrelated hworn (sameAnswer_of_concat hanswers)

/-- **The stores part on a full log.** After an acquisition and losses have filled the array, one more
acquisition throws in memory and not over the table. -/
theorem full_log_parts_stores :
    ¬ ∀ calls : List StoreCall, List.Forall₂ (SameAnswer 0)
      (sequential runInMemory .initial calls).1
      (sequential (runSqlite exampleToken) emptyTables calls).1 := by
  intro hall
  have hscope : EmptyScope exampleToken emptyTables :=
    ⟨by simp [emptyTables], by simp [emptyTables], le_refl 0⟩
  have hempty := related_initial hscope
  have hagrees : Agrees exampleToken 0 ⟨.initial, emptyTables⟩ acquireCall :=
    agrees_of_related hempty fun _ => ⟨by decide, by decide⟩
  have hone : Worn (Stores.advance exampleToken ⟨.initial, emptyTables⟩ acquireCall).store 1 := by
    refine ⟨by decide +kernel, ?_, by decide +kernel, by decide +kernel⟩
    decide +kernel
  obtain ⟨hrelated, hworn⟩ := worn_losses hagrees.2 hone (maxArrayLength - 1) (by decide)
  rw [← run_cons] at hrelated hworn
  exact not_sameAnswers_of_worn hrelated hworn (hall _)

/-- An acquisition, a renewal and a loss over tables that another scope has used. -/
theorem stores_agree_three :
    List.Forall₂ (SameAnswer 1)
      (sequential runInMemory .initial
        [acquireCall, .renew ⟨exampleToken, 1, 5, 20⟩, lostCall, .listRecentEvents 10]).1
      (sequential (runSqlite exampleToken) ⟨[], [⟨"other", ⟨1, 1, .acquired, .live,
          "PROCESS_LOCK_ACQUIRED", 0⟩⟩], 1⟩
        [acquireCall, .renew ⟨exampleToken, 1, 5, 20⟩, lostCall, .listRecentEvents 10]).1 := by
  have hempty : EmptyScope exampleToken ⟨[], [⟨"other", ⟨1, 1, .acquired, .live,
      "PROCESS_LOCK_ACQUIRED", 0⟩⟩], 1⟩ := ⟨by simp, by decide +kernel, by decide⟩
  refine stores_agree hempty ⟨fun _ => ⟨by decide, by decide⟩, trivial, fun _ => ?_, trivial, trivial⟩
  decide +kernel

end AutoTrade.Runtime.OwnershipAgreement
