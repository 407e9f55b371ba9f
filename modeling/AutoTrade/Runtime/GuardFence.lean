import AutoTrade.Runtime.GuardProtocol

/-! # A fenced owner never sends

Generations only grow: an acquisition takes a generation above all those of the events, and an event
of it stays for ever. So once another guard has acquired, every record of the store is `Beyond` the
generation of the first guard, and stays there, whoever calls the store. A guard never holds a record
of another generation than that of its one acquisition: what it takes from the store or from a
heartbeat is compared with the record it has. -/

namespace AutoTrade.Runtime.GuardFence

open Lib Lib.Run Lib.Result Lib.SortBy
open Runtime.OwnershipGuard (OwnershipStatus isReasonCode)
open Runtime.OwnershipStore Runtime.OwnershipAgreement
open Runtime.OwnershipGenerations
open Runtime.SqliteOwnershipStore (OwnershipRow OwnershipEventRow OwnershipTables
  scopeEvents orderedDescending selectCurrent selectMaximum withImmediateTransaction)
open Runtime.GuardProtocol

/-! ### The records and events of a store -/

/-- The record of the scope; a list, since the table is one. -/
def currents : Store → List RuntimeOwnershipRecord
  | .inMemory stored => stored.current.toList
  | .sqlite own db => (db.ownership.filter fun row => row.scopeKey = own).map OwnershipRow.record

def events : Store → List RuntimeOwnershipEventRecord
  | .inMemory stored => stored.events
  | .sqlite own db => scopeEvents own db

/-- Every record has a generation above `generation`, and so has some event. -/
structure Beyond (store : Store) (generation : ℤ) : Prop where
  current : ∀ record ∈ currents store, generation < record.generation
  noted : ∃ event ∈ events store, generation < event.generation

/-- What every call does: no event goes away, and the record afterwards has the generation of one
before or one above all events. -/
structure Advances (before after : Store) : Prop where
  events : ∀ event ∈ events before, event ∈ events after
  currents : (∀ record ∈ currents after, ∃ old ∈ currents before,
      old.generation = record.generation) ∨
    ∀ record ∈ currents after, ∀ event ∈ GuardFence.events before,
      event.generation < record.generation

variable (store : Store)

theorem Advances.refl : Advances store store :=
  ⟨fun _ hmem => hmem, Or.inl fun record hmem => ⟨record, hmem, rfl⟩⟩

variable {generation : ℤ} {before after : Store}

theorem Beyond.advances (h : Beyond before generation) (hadvances : Advances before after) :
    Beyond after generation := by
  obtain ⟨event, hevent, hlt⟩ := h.noted
  refine ⟨?_, event, hadvances.events event hevent, hlt⟩
  intro record hrecord
  rcases hadvances.currents with hold | hnew
  · obtain ⟨old, hmem, hgeneration⟩ := hold record hrecord
    rw [← hgeneration]
    exact h.current old hmem
  · exact hlt.trans (hnew record hrecord event hevent)

/-- What an acquisition that completes does. -/
structure Acquires (before after : Store) (record : RuntimeOwnershipRecord) : Prop where
  fresh : ∀ event ∈ events before, event.generation < record.generation
  current : ∀ other ∈ currents after, other.generation = record.generation
  noted : ∃ event ∈ events after, event.generation = record.generation

variable {record : RuntimeOwnershipRecord}

theorem Acquires.beyond (h : Acquires before after record)
    (hnoted : ∃ event ∈ events before, event.generation = generation) :
    Beyond after generation := by
  obtain ⟨event, hevent, rfl⟩ := hnoted
  have hlt := h.fresh event hevent
  refine ⟨fun other hother => ?_, ?_⟩
  · rw [h.current other hother]
    exact hlt
  · obtain ⟨new, hnew, hgeneration⟩ := h.noted
    exact ⟨new, hnew, by rw [hgeneration]; exact hlt⟩

/-! ### The in-memory store -/

theorem advances_of_effect {before after : StoredOwnership} {call : Call} {gained : Option ℤ}
    (h : Effect before call after gained) : Advances (.inMemory before) (.inMemory after) := by
  cases h with
  | same => exact Advances.refl _
  | acquired hrecord hgeneration hat =>
    refine ⟨fun event hmem => List.mem_append_left _ hmem, Or.inr fun record hmem event hevent => ?_⟩
    rw [Option.mem_toList.mp hmem |> Option.some.inj |>.symm]
    exact (acquisitionRecord_eq_ok hrecord).2.2.2 event hevent
  | unnumbered hrecord hfull =>
    refine ⟨fun event hmem => hmem, Or.inr fun record hmem event hevent => ?_⟩
    rw [Option.mem_toList.mp hmem |> Option.some.inj |>.symm]
    exact (acquisitionRecord_eq_ok hrecord).2.2.2 event hevent
  | renewed hheld hcurrent hgeneration hvalid =>
    refine ⟨fun event hmem => hmem, Or.inl fun record hmem => ?_⟩
    rw [Option.mem_toList.mp hmem |> Option.some.inj |>.symm]
    exact ⟨_, Option.mem_toList.mpr hcurrent, hgeneration.symm⟩
  | noted hheld hcurrent hgeneration hevents hnext =>
    refine ⟨fun event hmem => List.mem_append_left _ hmem, Or.inl fun record hmem => ?_⟩
    rcases hnext with rfl | rfl
    · cases hmem
    · exact ⟨record, Option.mem_toList.mpr (hcurrent ▸ Option.mem_toList.mp hmem), rfl⟩

theorem advances_inMemory (stored : StoredOwnership) (call : StoreCall) :
    Advances (.inMemory stored) (.inMemory (runInMemory stored call).2) := by
  cases call with
  | acquireAfterProcessLock input => exact advances_of_effect (effect stored (.acquire input))
  | renew input => exact advances_of_effect (effect stored (.renew input))
  | release input => exact advances_of_effect (effect stored (.release input))
  | recordLost input => exact advances_of_effect (effect stored (.recordLost input))
  | getCurrent => exact Advances.refl _
  | listRecentEvents limit => exact Advances.refl _

variable {input : AcquireRuntimeOwnershipInput} {acquisition : RuntimeOwnershipAcquisition}

theorem inMemory_acquire {stored next : StoredOwnership}
    (h : acquireAfterProcessLock stored input = (.ok acquisition, next)) :
    acquisitionRecord stored input = .ok acquisition.record ∧
      next.current = some acquisition.record ∧ ∃ event,
        next.events = stored.events ++ [event] ∧ event.generation = acquisition.record.generation := by
  unfold acquireAfterProcessLock at h
  cases hrecord : acquisitionRecord stored input with
  | error e => simp [hrecord] at h
  | ok record =>
    simp only [hrecord] at h
    cases happend : appendEvent { stored with current := some record }
        (acquisitionEvent record stored.current.isSome) with
    | error e => simp [happend] at h
    | ok appended =>
      simp only [happend, Prod.mk.injEq, Except.ok.injEq] at h
      obtain ⟨rfl, rfl⟩ := h
      obtain ⟨-, -, -, rfl⟩ := appendEvent_eq_ok.mp happend
      exact ⟨rfl, rfl, _, rfl, rfl⟩

theorem acquires_inMemory {stored next : StoredOwnership}
    (h : acquireAfterProcessLock stored input = (.ok acquisition, next)) :
    Acquires (.inMemory stored) (.inMemory next) acquisition.record ∧
      acquisition.record.ownerToken = input.ownerToken := by
  obtain ⟨hrecord, hcurrent, event, hevents, hgeneration⟩ := inMemory_acquire h
  refine ⟨⟨(acquisitionRecord_eq_ok hrecord).2.2.2, ?_, event, ?_, hgeneration⟩, ?_⟩
  · intro other hother
    rw [Option.some.inj (hcurrent.symm.trans (Option.mem_toList.mp hother))]
  · show event ∈ next.events
    rw [hevents]
    exact List.mem_append_right _ (List.mem_singleton_self _)
  · unfold acquisitionRecord at hrecord
    simp only [bind_eq_ok, Except.ok.injEq] at hrecord
    obtain ⟨_, _, _, _, _, _, _, _, _, _, _, _, _, _, heq⟩ := hrecord
    rw [← heq]

/-! ### The SQLite store -/

section Sqlite

variable {scopeKey : String} {db next : OwnershipTables}

variable {event : RuntimeOwnershipEventRecord}

/-- What a query for a maximum finds is not below the value of any event. -/
theorem le_of_selectMaximum {value : RuntimeOwnershipEventRecord → ℤ} {maximum : Option ℤ}
    (h : selectMaximum scopeKey value db = .ok maximum) (hevent : event ∈ scopeEvents scopeKey db) :
    value event ≤ maximum.getD 0 := by
  set key : RuntimeOwnershipEventRecord → ℤ ×ₗ ℤ := fun event => toLex (value event, event.id)
    with hkey
  have hsorted : SortedBy key (sortBy key (scopeEvents scopeKey db)) := sortedBy_sortBy key _
  have hmem : event ∈ sortBy key (scopeEvents scopeKey db) := (mem_sortBy key).mpr hevent
  unfold selectMaximum orderedDescending at h
  rw [List.head?_reverse, ← hkey] at h
  cases hlast : (sortBy key (scopeEvents scopeKey db)).getLast? with
  | none =>
    rw [List.getLast?_eq_none_iff.mp hlast] at hmem
    cases hmem
  | some last =>
    rw [hlast] at h
    simp only [then_eq_ok, Except.ok.injEq] at h
    obtain ⟨-, rfl⟩ := h
    have hle : key event ≤ key last := by
      obtain ⟨front, hfront⟩ := List.getLast?_eq_some_iff.mp hlast
      rw [hfront] at hsorted hmem
      rcases List.mem_append.mp hmem with hin | hin
      · exact (List.pairwise_append.mp hsorted).2.2 event hin last (List.mem_singleton_self _)
      · rw [List.mem_singleton.mp hin]
    rw [hkey, Prod.Lex.toLex_le_toLex] at hle
    rcases hle with hlt | ⟨heq, -⟩
    · exact hlt.le
    · exact heq.le

theorem transaction_eq {α : Type} {operation : Except String (α × OwnershipTables)}
    {answer : Except String α} (h : withImmediateTransaction db operation = (answer, next)) :
    next = db ∨ ∃ value, answer = .ok value ∧ operation = .ok (value, next) := by
  unfold withImmediateTransaction at h
  cases operation with
  | error e =>
    simp only [Prod.mk.injEq] at h
    exact Or.inl h.2.symm
  | ok pair =>
    simp only [Prod.mk.injEq] at h
    obtain ⟨rfl, rfl⟩ := h
    exact Or.inr ⟨pair.1, rfl, rfl⟩

/-- A call of the owner that changes the tables found the record it holds. -/
theorem transaction_of_held {α : Type} {validated : Except String Unit}
    {held : Except String (Option RuntimeOwnershipRecord)} {refused : α}
    {act : RuntimeOwnershipRecord → Except String (α × OwnershipTables)} {answer : Except String α}
    (h : withImmediateTransaction db (do
      validated
      let record ← held
      match record with
      | none => .ok (refused, db)
      | some current => act current) = (answer, next)) :
    next = db ∨ ∃ current value, act current = .ok (value, next) := by
  rcases transaction_eq h with rfl | ⟨value, -, hok⟩
  · exact Or.inl rfl
  obtain ⟨-, hok⟩ := then_eq_ok.mp hok
  obtain ⟨record, -, hok⟩ := bind_eq_ok.mp hok
  cases record with
  | none =>
    simp only [Except.ok.injEq, Prod.mk.injEq] at hok
    exact Or.inl hok.2.symm
  | some current => exact Or.inr ⟨current, value, hok⟩

theorem appendEvent_table (h : SqliteOwnershipStore.appendEvent scopeKey db event = .ok next) :
    ∃ id, next = { db with
      events := db.events ++ [⟨scopeKey, { event with id := id }⟩]
      sequence := db.sequence + 1 } := by
  unfold SqliteOwnershipStore.appendEvent at h
  simp only [then_eq_ok, Except.ok.injEq] at h
  exact ⟨_, h.2.2.symm⟩

variable {own : String}

theorem mem_scopeEvents : event ∈ scopeEvents own db ↔ ⟨own, event⟩ ∈ db.events := by
  unfold scopeEvents
  simp only [List.mem_map, List.mem_filter, decide_eq_true_eq]
  constructor
  · rintro ⟨⟨scope, event⟩, ⟨hmem, rfl⟩, rfl⟩
    exact hmem
  · intro hmem
    exact ⟨_, ⟨hmem, rfl⟩, rfl⟩

theorem mem_currents : record ∈ currents (.sqlite own db) ↔ ⟨own, record⟩ ∈ db.ownership := by
  unfold currents
  simp only [List.mem_map, List.mem_filter, decide_eq_true_eq]
  constructor
  · rintro ⟨⟨scope, record⟩, ⟨hmem, rfl⟩, rfl⟩
    exact hmem
  · intro hmem
    exact ⟨_, ⟨hmem, rfl⟩, rfl⟩

theorem advances_of_rows (hevents : ∀ row ∈ db.events, row ∈ next.events)
    (hrows : ∀ row ∈ next.ownership, ∃ old ∈ db.ownership,
      old.scopeKey = row.scopeKey ∧ old.record.generation = row.record.generation) :
    Advances (.sqlite own db) (.sqlite own next) := by
  refine ⟨fun event hmem => mem_scopeEvents.mpr (hevents _ (mem_scopeEvents.mp hmem)),
    Or.inl fun record hmem => ?_⟩
  obtain ⟨⟨scope, old⟩, hold, hscope, hgeneration⟩ := hrows _ (mem_currents.mp hmem)
  obtain rfl : scope = own := hscope
  exact ⟨old, mem_currents.mpr hold, hgeneration⟩

theorem sqlite_acquisitionRecord {current : Option RuntimeOwnershipRecord}
    (h : SqliteOwnershipStore.acquisitionRecord scopeKey db input = .ok (record, current)) :
    record.ownerToken = input.ownerToken ∧
      ∀ event ∈ scopeEvents scopeKey db, event.generation < record.generation := by
  unfold SqliteOwnershipStore.acquisitionRecord at h
  obtain ⟨-, h⟩ := then_eq_ok.mp h
  obtain ⟨selected, -, h⟩ := bind_eq_ok.mp h
  obtain ⟨generation, hgeneration, h⟩ := bind_eq_ok.mp h
  obtain ⟨latest, -, h⟩ := bind_eq_ok.mp h
  simp only [then_eq_ok, Except.ok.injEq, Prod.mk.injEq] at h
  obtain ⟨-, -, -, rfl, rfl⟩ := h
  refine ⟨rfl, fun event hevent => ?_⟩
  have hle := le_of_selectMaximum hgeneration hevent
  have hmax := le_max_right ((selected.map (·.generation)).getD 0) (generation.getD 0)
  show event.generation < max ((selected.map (·.generation)).getD 0) (generation.getD 0) + 1
  omega

section

variable
  (h : SqliteOwnershipStore.acquireAfterProcessLock scopeKey db input = (.ok acquisition, next))
include h

/-- An acquisition that completes: its record is the row of the scope, and its event is appended. -/
theorem sqlite_acquire :
    acquisition.record.ownerToken = input.ownerToken ∧
      (∀ event ∈ scopeEvents scopeKey db, event.generation < acquisition.record.generation) ∧
      next.ownership = Table.upsert OwnershipRow.scopeKey ⟨scopeKey, acquisition.record⟩
        db.ownership ∧
      ∃ event, event.generation = acquisition.record.generation ∧
        next.events = db.events ++ [⟨scopeKey, event⟩] := by
  have hoperation : ∃ record current appended,
      SqliteOwnershipStore.acquisitionRecord scopeKey db input = .ok (record, current) ∧
      SqliteOwnershipStore.appendEvent scopeKey { db with
        ownership := Table.upsert OwnershipRow.scopeKey ⟨scopeKey, record⟩ db.ownership }
        (acquisitionEvent record current.isSome) = .ok appended ∧
      (⟨record, current.isSome⟩ : RuntimeOwnershipAcquisition) = acquisition ∧ appended = next := by
    unfold SqliteOwnershipStore.acquireAfterProcessLock withImmediateTransaction at h
    split at h
    · next value tables hok =>
      simp only [Prod.mk.injEq, Except.ok.injEq] at h
      obtain ⟨rfl, rfl⟩ := h
      obtain ⟨⟨record, current⟩, hrecord, hok⟩ := bind_eq_ok.mp hok
      simp only [bind_eq_ok, Except.ok.injEq, Prod.mk.injEq] at hok
      obtain ⟨appended, happend, hvalue, hnext⟩ := hok
      exact ⟨record, current, appended, hrecord, happend, hvalue, hnext⟩
    · simp at h
  obtain ⟨record, current, appended, hrecord, happend, rfl, rfl⟩ := hoperation
  obtain ⟨htoken, hfresh⟩ := sqlite_acquisitionRecord hrecord
  obtain ⟨id, rfl⟩ := appendEvent_table happend
  exact ⟨htoken, hfresh, rfl, _, rfl, rfl⟩

theorem acquires_sqlite :
    Acquires (.sqlite scopeKey db) (.sqlite scopeKey next) acquisition.record := by
  obtain ⟨-, hfresh, hownership, event, hgeneration, hevents⟩ := sqlite_acquire h
  refine ⟨hfresh, fun other hother => ?_, event, ?_, hgeneration⟩
  · have hrow := mem_currents.mp hother
    rw [hownership] at hrow
    rcases Table.mem_upsert hrow with heq | ⟨-, hne⟩
    · rw [(OwnershipRow.mk.inj heq).2]
    · exact absurd rfl hne
  · refine mem_scopeEvents.mpr ?_
    rw [hevents]
    exact List.mem_append_right _ (List.mem_singleton_self _)

end

theorem advances_acquire (own : String)
    (h : SqliteOwnershipStore.acquireAfterProcessLock scopeKey db input = (.ok acquisition, next)) :
    Advances (.sqlite own db) (.sqlite own next) := by
  obtain ⟨-, hfresh, hownership, event, -, hevents⟩ := sqlite_acquire h
  have hkept : ∀ other ∈ events (.sqlite own db), other ∈ events (.sqlite own next) := by
    intro other hother
    refine mem_scopeEvents.mpr ?_
    rw [hevents]
    exact List.mem_append_left _ (mem_scopeEvents.mp hother)
  by_cases hown : own = scopeKey
  · subst hown
    have hacquires := acquires_sqlite h
    refine ⟨hkept, Or.inr fun record hrecord event hevent => ?_⟩
    rw [hacquires.current record hrecord]
    exact hfresh event hevent
  · refine ⟨hkept, Or.inl fun record hrecord => ?_⟩
    have hrow := mem_currents.mp hrecord
    rw [hownership] at hrow
    rcases Table.mem_upsert hrow with heq | ⟨hold, -⟩
    · exact absurd (OwnershipRow.mk.inj heq).1 hown
    · exact ⟨record, mem_currents.mpr hold, rfl⟩

theorem advances_append (own : String)
    (h : SqliteOwnershipStore.appendEvent scopeKey db event = .ok next) :
    Advances (.sqlite own db) (.sqlite own next) := by
  obtain ⟨id, rfl⟩ := appendEvent_table h
  exact advances_of_rows (fun row hrow => List.mem_append_left _ hrow)
    fun row hrow => ⟨row, hrow, rfl, rfl⟩

theorem advances_renew (own : String) {input : RenewRuntimeOwnershipInput}
    {answer : Except String (Option RuntimeOwnershipRecord)}
    (h : SqliteOwnershipStore.renew scopeKey db input = (answer, next)) :
    Advances (.sqlite own db) (.sqlite own next) := by
  unfold SqliteOwnershipStore.renew at h
  rcases transaction_of_held h with rfl | ⟨current, value, hok⟩
  · exact Advances.refl _
  split_ifs at hok with hrefused
  · simp only [Except.ok.injEq, Prod.mk.injEq] at hok
    rw [← hok.2]
    exact Advances.refl _
  · unfold SqliteOwnershipStore.updateRenewed at hok
    obtain ⟨-, hok⟩ := then_eq_ok.mp hok
    obtain ⟨renewed, -, hok⟩ := bind_eq_ok.mp hok
    simp only [Except.ok.injEq, Prod.mk.injEq] at hok
    rw [← hok.2]
    refine advances_of_rows (fun row hrow => hrow) fun row hrow => ?_
    obtain ⟨old, hold, rfl⟩ := List.mem_map.mp hrow
    refine ⟨old, hold, ?_⟩
    split <;> exact ⟨rfl, rfl⟩

variable {answer : Except String Bool}

theorem advances_release (own : String) {input : ReleaseRuntimeOwnershipInput}
    (h : SqliteOwnershipStore.release scopeKey db input = (answer, next)) :
    Advances (.sqlite own db) (.sqlite own next) := by
  unfold SqliteOwnershipStore.release at h
  rcases transaction_of_held h with rfl | ⟨current, value, hok⟩
  · exact Advances.refl _
  split_ifs at hok with hexpired
  · simp only [Except.ok.injEq, Prod.mk.injEq] at hok
    rw [← hok.2]
    exact Advances.refl _
  · rw [bind_eq_ok] at hok
    obtain ⟨appended, happend, hok⟩ := hok
    obtain ⟨deleted, hdelete, hok⟩ := bind_eq_ok.mp hok
    simp only [Except.ok.injEq, Prod.mk.injEq] at hok
    obtain ⟨-, rfl⟩ := hok
    obtain ⟨id, rfl⟩ := appendEvent_table happend
    unfold SqliteOwnershipStore.deleteReleased at hdelete
    simp only [then_eq_ok, Except.ok.injEq] at hdelete
    rw [← hdelete.2]
    exact advances_of_rows (fun row hrow => List.mem_append_left _ hrow)
      fun row hrow => ⟨row, (List.mem_filter.mp hrow).1, rfl, rfl⟩

theorem advances_recordLost (own : String) {input : RecordRuntimeOwnershipLostInput}
    (h : SqliteOwnershipStore.recordLost scopeKey db input = (answer, next)) :
    Advances (.sqlite own db) (.sqlite own next) := by
  unfold SqliteOwnershipStore.recordLost at h
  rcases transaction_of_held h with rfl | ⟨current, value, hok⟩
  · exact Advances.refl _
  simp only [bind_eq_ok, Except.ok.injEq, Prod.mk.injEq] at hok
  obtain ⟨appended, happend, -, rfl⟩ := hok
  exact advances_append own happend

theorem advances_acquisition (own : String) (input : AcquireRuntimeOwnershipInput) :
    Advances (.sqlite own db)
      (.sqlite own (SqliteOwnershipStore.acquireAfterProcessLock scopeKey db input).2) := by
  rcases h : SqliteOwnershipStore.acquireAfterProcessLock scopeKey db input with ⟨answer, next⟩
  rcases transaction_eq h with rfl | ⟨acquisition, rfl, -⟩
  · exact Advances.refl _
  · exact advances_acquire own h

theorem advances_sqlite (own : String) (call : StoreCall) :
    Advances (.sqlite own db) (.sqlite own (runSqlite scopeKey db call).2) := by
  cases call with
  | acquireAfterProcessLock input => exact advances_acquisition own input
  | renew input => exact advances_renew own (Prod.eta _).symm
  | release input => exact advances_release own (Prod.eta _).symm
  | recordLost input => exact advances_recordLost own (Prod.eta _).symm
  | getCurrent => exact Advances.refl _
  | listRecentEvents limit => exact Advances.refl _

end Sqlite

/-! ### Any store -/

theorem advances_run (scopeKey : String) (call : StoreCall) :
    Advances store (store.run scopeKey call).2 := by
  cases store with
  | inMemory stored => exact advances_inMemory stored call
  | sqlite own db => exact advances_sqlite own call

theorem advances_storeAcquire (input : AcquireRuntimeOwnershipInput) :
    Advances store (store.acquireAfterProcessLock input).2 := by
  cases store with
  | inMemory stored => exact advances_inMemory stored (.acquireAfterProcessLock input)
  | sqlite own db => exact advances_acquisition own input

theorem advances_storeRenew (input : RenewRuntimeOwnershipInput) :
    Advances store (store.renew input).2 := by
  cases store with
  | inMemory stored => exact advances_inMemory stored (.renew input)
  | sqlite own db => exact advances_renew own (Prod.eta _).symm

theorem acquires_store {store next : Store}
    (h : store.acquireAfterProcessLock input = (.ok acquisition, next)) :
    Acquires store next acquisition.record ∧ acquisition.record.ownerToken = input.ownerToken := by
  cases store with
  | inMemory stored =>
    rcases hacquire : acquireAfterProcessLock stored input with ⟨answer, last⟩
    simp only [Store.acquireAfterProcessLock, hacquire, Prod.mk.injEq] at h
    obtain ⟨rfl, rfl⟩ := h
    exact acquires_inMemory hacquire
  | sqlite own db =>
    rcases hacquire : SqliteOwnershipStore.acquireAfterProcessLock own db input with ⟨answer, last⟩
    simp only [Store.acquireAfterProcessLock, hacquire, Prod.mk.injEq] at h
    obtain ⟨rfl, rfl⟩ := h
    exact ⟨acquires_sqlite hacquire, (sqlite_acquire hacquire).1⟩

/-- The combined read returns the record that the current one is read from. -/
theorem getCurrent_of_authority {store : Store}
    {joined : Except String (Option PersistedExecutionState)}
    {authority : PersistedRuntimeExecutionAuthority}
    (h : store.getCurrentExecutionAuthority joined = .ok (some authority)) :
    store.getCurrent = .ok (some authority.runtimeOwnership) := by
  cases store with
  | inMemory stored =>
    simp only [Store.getCurrentExecutionAuthority, then_eq_ok, Except.ok.injEq,
      Option.map_eq_some_iff] at h
    obtain ⟨hvalid, record, hrecord, rfl⟩ := h
    exact then_eq_ok.mpr ⟨hvalid, congrArg Except.ok hrecord⟩
  | sqlite own db =>
    simp only [Store.getCurrentExecutionAuthority] at h
    obtain ⟨selected, hselected, h⟩ := bind_eq_ok.mp h
    cases selected with
    | none => simp at h
    | some record =>
      simp only [bind_eq_ok, Except.ok.injEq, Option.some.injEq] at h
      obtain ⟨state, -, rfl⟩ := h
      exact hselected

theorem mem_currents_of_getCurrent {store : Store} (h : store.getCurrent = .ok (some record)) :
    record ∈ currents store := by
  cases store with
  | inMemory stored => exact Option.mem_toList.mpr (Except.ok.inj (then_eq_ok.mp h).2)
  | sqlite own db =>
    have hselected : selectCurrent own db = .ok (some record) := h
    unfold selectCurrent at hselected
    cases hrow : Table.select OwnershipRow.scopeKey own db.ownership with
    | none => simp [hrow] at hselected
    | some row =>
      simp only [hrow, then_eq_ok, Except.ok.injEq, Option.some.injEq] at hselected
      obtain ⟨-, rfl⟩ := hselected
      refine mem_currents.mpr ?_
      obtain rfl := Table.key_of_select hrow
      exact Table.mem_of_select hrow

/-! ### What a guard can do -/

/-- Only the status may change, and then to a loss. -/
structure Marked (guard next : Guard) : Prop where
  frame : next = { guard with status := next.status }
  status : next.status = guard.status ∨ next.isLost = true

variable (guard : Guard)

theorem Marked.refl : Marked guard guard := ⟨rfl, Or.inl rfl⟩

theorem Marked.isLost {guard next : Guard} (h : Marked guard next) (hlost : guard.isLost = true) :
    next.isLost = true := by
  rcases h.status with hsame | hnext
  · unfold Guard.isLost at hlost ⊢
    rw [hsame]
    exact hlost
  · exact hnext

theorem Marked.trans {guard next last : Guard} (h : Marked guard next) (h' : Marked next last) :
    Marked guard last := by
  refine ⟨?_, ?_⟩
  · rw [h'.frame, h.frame]
  · rcases h'.status with hsame | hlast
    · rcases h.status with hfirst | hnext
      · exact Or.inl (hsame.trans hfirst)
      · exact Or.inr (h'.isLost hnext)
    · exact Or.inr hlast

theorem marked_markLost (reason : String) : Marked guard (guard.markLost reason) := by
  refine ⟨rfl, ?_⟩
  show OwnershipGuard.markLost guard.status reason = guard.status ∨
    (OwnershipGuard.markLost guard.status reason).lossReason.isSome = true
  unfold OwnershipGuard.markLost
  split_ifs with hcode
  · exact Or.inl rfl
  · right
    cases guard.status with
    | unowned => rfl
    | owned => rfl
    | lost current =>
      dsimp only
      split_ifs with hkeep
      · rfl
      · rfl

theorem marked_lose (reason : String) : Marked guard (guard.lose reason) := by
  unfold Guard.lose
  split_ifs with hlost
  · exact Marked.refl guard
  · exact marked_markLost guard reason

theorem marked_failRenewal (expiresAtEpochMs retryAtEpochMs : ℤ) (isTransient : Bool) :
    Marked guard (guard.failRenewal expiresAtEpochMs retryAtEpochMs isTransient) := by
  unfold Guard.failRenewal
  split_ifs with howned hexpired htransient
  · exact Marked.refl guard
  · exact marked_lose guard _
  · exact marked_lose guard _
  · exact Marked.refl guard

theorem not_owned_of_isLost {guard : Guard} (h : guard.isLost = true) : guard.status ≠ .owned := by
  intro howned
  unfold Guard.isLost at h
  rw [howned] at h
  cases h

theorem assertLocallyHeld_cases (nowEpochMs : ℤ) :
    (∃ e next, guard.assertLocallyHeld nowEpochMs = (.error e, next) ∧ Marked guard next) ∨
      ∃ record, guard.assertLocallyHeld nowEpochMs = (.ok record, guard) ∧
        guard.record = some record ∧ guard.status = .owned := by
  unfold Guard.assertLocallyHeld
  split_ifs with hlost hlock
  · exact Or.inl ⟨_, _, rfl, Marked.refl guard⟩
  · exact Or.inl ⟨_, _, rfl, marked_markLost guard _⟩
  · split
    · next record howned hrecord =>
      cases Guard.validateAssertionTime nowEpochMs with
      | error e => exact Or.inl ⟨_, _, rfl, Marked.refl guard⟩
      | ok u =>
        dsimp only
        split_ifs with hexpired
        · exact Or.inl ⟨_, _, rfl, marked_markLost guard _⟩
        · exact Or.inr ⟨record, rfl, hrecord, howned⟩
    · exact Or.inl ⟨_, _, rfl, Marked.refl guard⟩

theorem of_sameOwnership {expected persisted : RuntimeOwnershipRecord}
    (h : ¬ Guard.sameOwnership expected persisted = false) :
    persisted.ownerToken = expected.ownerToken ∧ persisted.generation = expected.generation := by
  unfold Guard.sameOwnership at h
  have hparts := of_decide_eq_true (Bool.eq_true_of_not_eq_false h)
  exact ⟨hparts.1, hparts.2.1⟩

variable (expected : RuntimeOwnershipRecord)

theorem confirm_cases (persisted : Option RuntimeOwnershipRecord) (atEpochMs : ℤ) :
    (∃ e next, guard.confirm expected persisted atEpochMs = (.error e, next) ∧ Marked guard next) ∨
      ∃ confirmed, guard.confirm expected persisted atEpochMs = (.ok confirmed, guard) ∧
        persisted = some confirmed ∧ confirmed.generation = expected.generation ∧
        confirmed.ownerToken = expected.ownerToken := by
  unfold Guard.confirm
  cases persisted with
  | none => exact Or.inl ⟨_, _, rfl, marked_markLost guard _⟩
  | some record =>
    dsimp only
    split_ifs with hsame hexpired
    · exact Or.inl ⟨_, _, rfl, marked_markLost guard _⟩
    · exact Or.inl ⟨_, _, rfl, marked_markLost guard _⟩
    · obtain ⟨htoken, hgeneration⟩ := of_sameOwnership hsame
      exact Or.inr ⟨record, rfl, rfl, hgeneration, htoken⟩

/-- The guard takes a record of the same owner and generation over. -/
structure TakesOver (guard next : Guard) (expected : RuntimeOwnershipRecord) : Prop where
  frame : ∃ record, next = { guard with record := some record } ∧
    record.generation = expected.generation ∧ record.ownerToken = expected.ownerToken
  owned : guard.status = .owned

theorem completeAssertCurrent_cases (answer : Except String (Option RuntimeOwnershipRecord))
    (atEpochMs nowEpochMs : ℤ) :
    (∃ e next, guard.completeAssertCurrent expected answer atEpochMs nowEpochMs = (.error e, next) ∧
        Marked guard next) ∨
      ∃ record next, guard.completeAssertCurrent expected answer atEpochMs nowEpochMs =
        (.ok record, next) ∧ TakesOver guard next expected := by
  unfold Guard.completeAssertCurrent
  cases answer with
  | error e => exact Or.inl ⟨_, _, rfl, Marked.refl guard⟩
  | ok persisted =>
    dsimp only
    obtain ⟨e, next, heq, hmarked⟩ | ⟨record, heq, -, howned⟩ :=
      assertLocallyHeld_cases guard nowEpochMs
    · rw [heq]
      exact Or.inl ⟨_, _, rfl, hmarked⟩
    · rw [heq]
      dsimp only
      obtain ⟨e, next, hconfirm, hmarked⟩ | ⟨confirmed, hconfirm, -, hgeneration, htoken⟩ :=
        confirm_cases guard expected persisted atEpochMs
      · rw [hconfirm]
        exact Or.inl ⟨_, _, rfl, hmarked⟩
      · rw [hconfirm]
        exact Or.inr ⟨_, _, rfl, ⟨confirmed, rfl, hgeneration, htoken⟩, howned⟩

/-- The fence throws, or the guard is owned and the persisted record has the owner and the generation
of the one the guard holds. -/
theorem runWith_cases (input : Guard.AssertCurrentExecutionAuthorityInput)
    (read : Except String (Option PersistedRuntimeExecutionAuthority))
    (nowEpochMs laterEpochMs : ℤ) :
    (∃ e next, guard.runWithCurrentExecutionAuthority input read nowEpochMs laterEpochMs =
        (.error e, next) ∧ Marked guard next) ∨
      ∃ held confirmed state next,
        guard.runWithCurrentExecutionAuthority input read nowEpochMs laterEpochMs =
          (.ok (confirmed, state), next) ∧
        guard.record = some held ∧ read = .ok (some ⟨confirmed, some state⟩) ∧
        Guard.isExecutionAllowed state input = true ∧ TakesOver guard next held ∧
        confirmed.generation = held.generation ∧ confirmed.ownerToken = held.ownerToken := by
  unfold Guard.runWithCurrentExecutionAuthority
  cases Guard.validateAssertionTime input.atEpochMs with
  | error e => exact Or.inl ⟨_, _, rfl, Marked.refl guard⟩
  | ok u =>
    dsimp only
    split_ifs with haccount
    · exact Or.inl ⟨_, _, rfl, Marked.refl guard⟩
    obtain ⟨e, next, heq, hmarked⟩ | ⟨held, heq, hheld, howned⟩ :=
      assertLocallyHeld_cases guard nowEpochMs
    · rw [heq]
      exact Or.inl ⟨_, _, rfl, hmarked⟩
    rw [heq]
    dsimp only
    cases read with
    | error e => exact Or.inl ⟨_, _, rfl, Marked.refl guard⟩
    | ok persisted =>
      dsimp only
      obtain ⟨e, next, heq, hmarked⟩ | ⟨record, heq, -, -⟩ :=
        assertLocallyHeld_cases guard laterEpochMs
      · rw [heq]
        exact Or.inl ⟨_, _, rfl, hmarked⟩
      rw [heq]
      dsimp only
      obtain ⟨e, next, hconfirm, hmarked⟩ | ⟨confirmed, hconfirm, hpersisted, hgeneration, htoken⟩ :=
        confirm_cases guard held (persisted.map (·.runtimeOwnership)) input.atEpochMs
      · rw [hconfirm]
        exact Or.inl ⟨_, _, rfl, hmarked⟩
      rw [hconfirm]
      dsimp only
      obtain ⟨⟨ownership, executionState⟩, rfl, rfl⟩ := Option.map_eq_some_iff.mp hpersisted
      cases hstate : (executionState.filter (Guard.isExecutionAllowed · input)) with
      | none =>
        simp only [Option.bind_some, hstate]
        exact Or.inl ⟨_, _, rfl, Marked.refl guard⟩
      | some state =>
        obtain ⟨rfl, hallowed⟩ := Option.filter_eq_some_iff.mp hstate
        simp only [Option.bind_some, hstate]
        exact Or.inr ⟨held, ownership, state, _, rfl, hheld, rfl, hallowed,
          ⟨⟨ownership, rfl, hgeneration, htoken⟩, howned⟩, hgeneration, htoken⟩

theorem acceptRenewal_cases (record : RuntimeOwnershipRecord) :
    Marked guard (guard.acceptRenewal record).2 ∨
      ∃ held, guard.record = some held ∧ TakesOver guard (guard.acceptRenewal record).2 held := by
  unfold Guard.acceptRenewal
  split_ifs with howned
  · exact Or.inl (Marked.refl guard)
  · cases hrecord : guard.record with
    | none => exact Or.inl (Marked.refl guard)
    | some held =>
      dsimp only
      split_ifs with hsame
      · exact Or.inl (marked_markLost guard _)
      · obtain ⟨htoken, hgeneration⟩ := of_sameOwnership hsame
        exact Or.inr ⟨held, rfl, ⟨record, rfl, hgeneration, htoken⟩, not_not.mp howned⟩

theorem completeRenewal_cases (expiresAtEpochMs : ℤ)
    (answer : Except String (Option RuntimeOwnershipRecord)) (nowEpochMs retryAtEpochMs : ℤ)
    (isTransient : Bool) :
    let next :=
      guard.completeRenewal expiresAtEpochMs answer nowEpochMs retryAtEpochMs isTransient
    Marked guard next ∨ ∃ held, guard.record = some held ∧ TakesOver guard next held := by
  unfold Guard.completeRenewal
  dsimp only
  cases answer with
  | error e => exact Or.inl (marked_failRenewal guard _ _ _)
  | ok renewed =>
    cases renewed with
    | none =>
      dsimp only
      split_ifs with howned
      · exact Or.inl (Marked.refl guard)
      · exact Or.inl (marked_lose guard _)
    | some renewed =>
      dsimp only
      split_ifs with howned hexpired
      · exact Or.inl (Marked.refl guard)
      · exact Or.inl (marked_lose guard _)
      have hcases := acceptRenewal_cases guard renewed
      rcases haccept : guard.acceptRenewal renewed with ⟨result, next⟩
      rw [haccept] at hcases
      cases result with
      | ok u => exact hcases
      | error e =>
        rcases hcases with hmarked | ⟨held, hheld, htakes⟩
        · exact Or.inl (hmarked.trans (marked_failRenewal next _ _ _))
        · unfold Guard.acceptRenewal at haccept
          simp only [howned, if_false, hheld] at haccept
          split_ifs at haccept with hsame
          · simp only [Guard.loseAndThrow, Prod.mk.injEq] at haccept
            rw [← haccept.2]
            exact Or.inl ((marked_markLost guard _).trans (marked_failRenewal _ _ _ _))
          · simp at haccept

theorem beginRenewal_cases (attemptedAtEpochMs nowEpochMs retryAtEpochMs : ℤ) (isTransient : Bool) :
    Marked guard
      (guard.beginRenewal attemptedAtEpochMs nowEpochMs retryAtEpochMs isTransient).2 := by
  unfold Guard.beginRenewal
  split
  · next lease howned hrecord =>
    split_ifs with hexpired
    · exact marked_lose guard _
    obtain ⟨e, next, heq, hmarked⟩ | ⟨record, heq, -, -⟩ := assertLocallyHeld_cases guard nowEpochMs
    · rw [heq]
      exact hmarked.trans (marked_failRenewal next _ _ _)
    · rw [heq]
      exact Marked.refl guard
  · exact Marked.refl guard

theorem beginAssertCurrent_cases (atEpochMs nowEpochMs : ℤ) :
    (∃ e next, guard.beginAssertCurrent atEpochMs nowEpochMs = (.error e, next) ∧
        Marked guard next) ∨
      ∃ record, guard.beginAssertCurrent atEpochMs nowEpochMs = (.ok record, guard) ∧
        guard.record = some record := by
  unfold Guard.beginAssertCurrent
  cases Guard.validateAssertionTime atEpochMs with
  | error e => exact Or.inl ⟨_, _, rfl, Marked.refl guard⟩
  | ok u =>
    obtain herror | ⟨record, heq, hrecord, -⟩ := assertLocallyHeld_cases guard nowEpochMs
    · exact Or.inl herror
    · exact Or.inr ⟨record, heq, hrecord⟩

theorem reserve_cases :
    (∃ e next, guard.reserve = (.error e, next) ∧
        (Marked guard next ∨ Marked { guard with acquisitionReserved := true } next)) ∨
      (guard.reserve = (.ok (), { guard with acquisitionReserved := true }) ∧
        guard.status = .unowned ∧ guard.acquisitionReserved = false) := by
  unfold Guard.reserve
  split_ifs with hforbidden hlock
  · exact Or.inl ⟨_, _, rfl, Or.inl (Marked.refl guard)⟩
  · exact Or.inl ⟨_, _, rfl, Or.inr (marked_markLost _ _)⟩
  · push Not at hforbidden
    exact Or.inr ⟨rfl, hforbidden.1, Bool.eq_false_of_not_eq_true hforbidden.2⟩

/-- The answer of the store is kept, and a guard that is not lost becomes owned. -/
theorem completeAcquisition_cases (answer : Except String RuntimeOwnershipAcquisition) :
    (guard.completeAcquisition answer).2 = guard ∨
      ∃ acquisition, answer = .ok acquisition ∧
        (Marked { guard with record := some acquisition.record, takeover := acquisition.takeover }
            (guard.completeAcquisition answer).2 ∨
          (guard.isLost = false ∧ (guard.completeAcquisition answer).2 =
            { guard with
              record := some acquisition.record
              takeover := acquisition.takeover
              status := .owned })) := by
  unfold Guard.completeAcquisition
  cases answer with
  | error e => exact Or.inl rfl
  | ok acquisition =>
    refine Or.inr ⟨acquisition, rfl, ?_⟩
    dsimp only
    split_ifs with hlost
    · exact Or.inl (marked_markLost _ _)
    · push Not at hlost
      exact Or.inr ⟨Bool.eq_false_of_not_eq_true hlost.1, rfl⟩

/-! ### One generation per guard -/

/-- A record of the acquisition of the party. -/
def Own (party : Party) (record : RuntimeOwnershipRecord) : Prop :=
  party.acquired = some record.generation ∧ record.ownerToken = party.guard.ownerToken

/-- Everything the guard holds or compares with belongs to its one acquisition. -/
structure Accounted (party : Party) : Prop where
  unreserved : party.guard.acquisitionReserved = false → party.acquired = none
  record : ∀ record ∈ party.guard.record, Own party record
  acquisition : ∀ acquisition, .acquisition (.ok acquisition) ∈ party.pending →
    Own party acquisition.record
  assertion : ∀ expected atEpochMs answer, .assertion expected atEpochMs answer ∈ party.pending →
    Own party expected

theorem accounted_create (ownerToken : String) (lockHeld : Bool) :
    Accounted ⟨.create ownerToken lockHeld, [], none⟩ where
  unreserved _ := rfl
  record _ hmem := nomatch hmem
  acquisition _ hmem := nomatch hmem
  assertion _ _ _ hmem := nomatch hmem

variable {party : Party} {next : Guard}

theorem Accounted.withGuard (h : Accounted party)
    (htoken : next.ownerToken = party.guard.ownerToken)
    (hreserved : next.acquisitionReserved = false → party.guard.acquisitionReserved = false)
    (hrecord : ∀ record ∈ next.record, Own party record) :
    Accounted { party with guard := next } := by
  have hown : ∀ record, Own party record → Own { party with guard := next } record :=
    fun record hown => ⟨hown.1, hown.2.trans htoken.symm⟩
  exact ⟨fun hnot => h.unreserved (hreserved hnot), fun record hmem => hown _ (hrecord record hmem),
    fun acquisition hmem => hown _ (h.acquisition acquisition hmem),
    fun expected atEpochMs answer hmem => hown _ (h.assertion expected atEpochMs answer hmem)⟩

theorem Accounted.marked (h : Accounted party) (hmarked : Marked party.guard next) :
    Accounted { party with guard := next } := by
  have hframe := hmarked.frame
  refine h.withGuard ?_ ?_ ?_
  · rw [hframe]
  · rw [hframe]
    exact id
  · rw [hframe]
    exact h.record

variable {expected : RuntimeOwnershipRecord}

section

variable (h : Accounted party)
include h

theorem Accounted.takesOver (hexpected : Own party expected)
    (htakes : TakesOver party.guard next expected) : Accounted { party with guard := next } := by
  obtain ⟨record, rfl, hgeneration, htoken⟩ := htakes.frame
  refine h.withGuard rfl id fun other hother => ?_
  rw [← Option.some.inj hother]
  exact ⟨by rw [hgeneration]; exact hexpected.1, htoken.trans hexpected.2⟩

theorem Accounted.push {pending : Pending} (hacquisition : ∀ answer, pending ≠ .acquisition answer)
    (hassertion : ∀ expected atEpochMs answer, pending = .assertion expected atEpochMs answer →
      Own party expected) : Accounted { party with pending := party.pending ++ [pending] } := by
  refine ⟨h.unreserved, h.record, fun acquisition hmem => ?_, fun expected atEpochMs answer hmem => ?_⟩
  · rcases List.mem_append.mp hmem with hold | hnew
    · exact h.acquisition acquisition hold
    · exact absurd (List.mem_singleton.mp hnew).symm (hacquisition _)
  · rcases List.mem_append.mp hmem with hold | hnew
    · exact h.assertion expected atEpochMs answer hold
    · exact hassertion expected atEpochMs answer (List.mem_singleton.mp hnew).symm

theorem Accounted.empty (hreserved : party.guard.acquisitionReserved = false) :
    party.guard.record = none ∧ (∀ acquisition, .acquisition (.ok acquisition) ∉ party.pending) ∧
      ∀ expected atEpochMs answer, .assertion expected atEpochMs answer ∉ party.pending := by
  have hnone := h.unreserved hreserved
  refine ⟨?_, fun acquisition hmem => ?_, fun expected atEpochMs answer hmem => ?_⟩
  · cases hrecord : party.guard.record with
    | none => rfl
    | some record =>
      have hown := (h.record record hrecord).1
      rw [hnone] at hown
      cases hown
  · have hown := (h.acquisition acquisition hmem).1
    rw [hnone] at hown
    cases hown
  · have hown := (h.assertion expected atEpochMs answer hmem).1
    rw [hnone] at hown
    cases hown

theorem Accounted.acquire (hreserved : party.guard.acquisitionReserved = false)
    {answer : Except String RuntimeOwnershipAcquisition}
    (htoken : ∀ acquisition, answer = .ok acquisition →
      acquisition.record.ownerToken = party.guard.ownerToken) :
    Accounted ⟨{ party.guard with acquisitionReserved := true },
      party.pending ++ [.acquisition answer], answer.toOption.map (·.record.generation)⟩ := by
  obtain ⟨hrecord, hacquisition, hassertion⟩ := h.empty hreserved
  refine ⟨fun hnot => absurd hnot (by simp), fun record hmem => ?_, fun acquisition hmem => ?_,
    fun expected atEpochMs result hmem => ?_⟩
  · rw [hrecord] at hmem
    cases hmem
  · rcases List.mem_append.mp hmem with hold | hnew
    · exact absurd hold (hacquisition acquisition)
    · obtain rfl := Pending.acquisition.inj (List.mem_singleton.mp hnew)
      exact ⟨rfl, htoken acquisition rfl⟩
  · rcases List.mem_append.mp hmem with hold | hnew
    · exact absurd hold (hassertion expected atEpochMs result)
    · cases List.mem_singleton.mp hnew

theorem Accounted.complete {pending : Pending} (hpending : pending ∈ party.pending)
    (nowEpochMs retryAtEpochMs : ℤ) (isTransient : Bool) :
    Accounted { party with
      guard := (party.complete pending nowEpochMs retryAtEpochMs isTransient).1 } := by
  cases pending with
  | acquisition answer =>
    have hcases := completeAcquisition_cases party.guard answer
    simp only [Party.complete]
    obtain hsame | ⟨acquisition, rfl, hmarked | ⟨-, hnext⟩⟩ := hcases
    · rw [hsame]
      exact h
    · have hstored : Accounted { party with guard := { party.guard with
          record := some acquisition.record, takeover := acquisition.takeover } } := by
        refine h.withGuard rfl id fun record hrecord => ?_
        rw [← Option.some.inj hrecord]
        exact h.acquisition acquisition hpending
      exact hstored.marked hmarked
    · rw [hnext]
      refine h.withGuard rfl id fun record hrecord => ?_
      rw [← Option.some.inj hrecord]
      exact h.acquisition acquisition hpending
  | assertion expected atEpochMs answer =>
    obtain ⟨e, next, heq, hmarked⟩ | ⟨record, next, heq, htakes⟩ :=
      completeAssertCurrent_cases party.guard expected answer atEpochMs nowEpochMs
    · simp only [Party.complete, heq]
      exact h.marked hmarked
    · simp only [Party.complete, heq]
      exact h.takesOver (h.assertion expected atEpochMs answer hpending) htakes
  | renewal expiresAtEpochMs answer =>
    simp only [Party.complete]
    obtain hmarked | ⟨held, hheld, htakes⟩ := completeRenewal_cases party.guard expiresAtEpochMs
      answer nowEpochMs retryAtEpochMs isTransient
    · exact h.marked hmarked
    · exact h.takesOver (h.record held hheld) htakes

end

/-! ### A step of a guard -/

theorem TakesOver.not_isLost {guard next : Guard} (h : TakesOver guard next expected) :
    ¬ guard.isLost = true :=
  fun hlost => not_owned_of_isLost hlost h.owned

/-- What an action does to a guard and the store, and what its caller sees. -/
inductive Acts (party : Party) (store : Store) : Party × Store × Option Outcome → Prop
  | marked {guard : Guard} : Marked party.guard guard →
    Acts party store ({ party with guard }, store, none)
  /-- The acquisition is reserved, and the lock is lost. -/
  | reserved {guard : Guard} : Marked { party.guard with acquisitionReserved := true } guard →
    Acts party store ({ party with guard }, store, none)
  | acquired {input : AcquireRuntimeOwnershipInput} :
    party.guard.status = .unowned → party.guard.acquisitionReserved = false →
    input.ownerToken = party.guard.ownerToken →
    Acts party store
      (⟨{ party.guard with acquisitionReserved := true },
        party.pending ++ [.acquisition (store.acquireAfterProcessLock input).1],
        (store.acquireAfterProcessLock input).1.toOption.map (·.record.generation)⟩,
        (store.acquireAfterProcessLock input).2, none)
  | heldLocally : party.guard.status = .owned →
    Acts party store (party, store, some .assertLocallyHeldReturned)
  | asserted {record : RuntimeOwnershipRecord} {atEpochMs : ℤ} : party.guard.record = some record →
    Acts party store
      ({ party with pending := party.pending ++ [.assertion record atEpochMs store.getCurrent] },
        store, none)
  | invoked {held confirmed : RuntimeOwnershipRecord} {guard : Guard} :
    party.guard.record = some held → store.getCurrent = .ok (some confirmed) →
    confirmed.generation = held.generation → TakesOver party.guard guard held →
    Acts party store ({ party with guard }, store, some .callbackInvoked)
  | tookOver {held : RuntimeOwnershipRecord} {guard : Guard} : party.guard.record = some held →
    TakesOver party.guard guard held → Acts party store ({ party with guard }, store, none)
  | renewed {guard : Guard} {input : RenewRuntimeOwnershipInput} {expiresAtEpochMs : ℤ} :
    Marked party.guard guard →
    Acts party store
      (⟨guard, party.pending ++ [.renewal expiresAtEpochMs (store.renew input).1],
        party.acquired⟩, (store.renew input).2, none)
  | completed {index : ℕ} {pending : Pending} {nowEpochMs retryAtEpochMs : ℤ} {isTransient : Bool} :
    pending ∈ party.pending →
    Acts party store
      (⟨(party.complete pending nowEpochMs retryAtEpochMs isTransient).1,
        party.pending.eraseIdx index, party.acquired⟩, store,
        (party.complete pending nowEpochMs retryAtEpochMs isTransient).2)
  | processLock {held : Bool} :
    Acts party store ({ party with guard := { party.guard with lockHeld := held } }, store, none)

section Act

variable {party : Party} {store : Store}

theorem acts_act (party : Party) (store : Store) (action : Action) :
    Acts party store (party.act store action) := by
  cases action with
  | acquire executionMode acquiredAtEpochMs =>
    obtain ⟨e, next, heq, hmarked | hmarked⟩ | ⟨heq, hunowned, hreserved⟩ :=
      reserve_cases party.guard
    · simp only [Party.act, heq]
      exact .marked hmarked
    · simp only [Party.act, heq]
      exact .reserved hmarked
    · simp only [Party.act, heq]
      exact .acquired hunowned hreserved rfl
  | assertLocallyHeld nowEpochMs =>
    obtain ⟨e, next, heq, hmarked⟩ | ⟨record, heq, -, howned⟩ :=
      assertLocallyHeld_cases party.guard nowEpochMs
    · simp only [Party.act, heq]
      exact .marked hmarked
    · simp only [Party.act, heq]
      exact .heldLocally howned
  | assertCurrent atEpochMs nowEpochMs =>
    obtain ⟨e, next, heq, hmarked⟩ | ⟨record, heq, hrecord⟩ :=
      beginAssertCurrent_cases party.guard atEpochMs nowEpochMs
    · simp only [Party.act, heq]
      exact .marked hmarked
    · simp only [Party.act, heq]
      exact .asserted hrecord
  | runWithCurrentExecutionAuthority input joined nowEpochMs laterEpochMs =>
    obtain ⟨e, next, heq, hmarked⟩ | ⟨held, confirmed, state, next, heq, hheld, hread, -, htakes,
        hgeneration, -⟩ :=
      runWith_cases party.guard input (store.getCurrentExecutionAuthority joined) nowEpochMs
        laterEpochMs
    · simp only [Party.act, heq]
      exact .marked hmarked
    · simp only [Party.act, heq]
      exact .invoked hheld (getCurrent_of_authority hread) hgeneration htakes
  | acceptRenewal record =>
    obtain hmarked | ⟨held, hheld, htakes⟩ := acceptRenewal_cases party.guard record
    · exact .marked hmarked
    · exact .tookOver hheld htakes
  | attemptRenewal ownerToken attemptedAtEpochMs nowEpochMs retryAtEpochMs isTransient =>
    have hmarked := beginRenewal_cases party.guard attemptedAtEpochMs nowEpochMs retryAtEpochMs
      isTransient
    rcases heq : party.guard.beginRenewal attemptedAtEpochMs nowEpochMs retryAtEpochMs isTransient
      with ⟨_ | lease, next⟩
    · simp only [Party.act, heq]
      rw [heq] at hmarked
      exact .marked hmarked
    · simp only [Party.act, heq]
      rw [heq] at hmarked
      exact .renewed hmarked
  | resume index nowEpochMs retryAtEpochMs isTransient =>
    cases hpending : party.pending[index]? with
    | none =>
      simp only [Party.act, hpending]
      exact .marked (Marked.refl party.guard)
    | some pending =>
      simp only [Party.act, hpending]
      exact .completed (List.mem_of_getElem? hpending)
  | markLost reason => exact .marked (marked_markLost party.guard reason)
  | processLock held => exact .processLock

variable {result : Party × Store × Option Outcome} (hacts : Acts party store result)
include hacts

theorem Acts.accounted (h : Accounted party) : Accounted result.1 := by
  cases hacts with
  | marked hmarked => exact h.marked hmarked
  | reserved hmarked =>
    have hreserved : Accounted { party with
        guard := { party.guard with acquisitionReserved := true } } :=
      h.withGuard rfl (fun hnot => absurd hnot (by simp)) h.record
    exact hreserved.marked hmarked
  | acquired _ hreserved htoken =>
    refine h.acquire hreserved fun acquisition hanswer => ?_
    exact (acquires_store (Prod.ext hanswer rfl)).2.trans htoken
  | heldLocally howned => exact h
  | asserted hrecord =>
    refine h.push nofun fun expected atEpochMs' answer hsame => ?_
    rw [← (Pending.assertion.inj hsame).1]
    exact h.record _ hrecord
  | invoked hheld _ _ htakes => exact h.takesOver (h.record _ hheld) htakes
  | tookOver hheld htakes => exact h.takesOver (h.record _ hheld) htakes
  | renewed hmarked => exact (h.marked hmarked).push nofun nofun
  | completed hpending =>
    obtain ⟨hunreserved, hrecord, hacquisition, hassertion⟩ := h.complete hpending _ _ _
    exact ⟨hunreserved, hrecord,
      fun acquisition hmem => hacquisition acquisition (List.mem_of_mem_eraseIdx hmem),
      fun expected atEpochMs' answer hmem =>
        hassertion expected atEpochMs' answer (List.mem_of_mem_eraseIdx hmem)⟩
  | processLock => exact h.withGuard rfl id h.record

theorem Acts.advances : Advances store result.2.1 := by
  cases hacts with
  | acquired => exact advances_storeAcquire store _
  | renewed => exact advances_storeRenew store _
  | _ => exact Advances.refl store

/-- A guard acquires once: the generation it has stays, and a new one is above all events. -/
theorem Acts.once (h : Accounted party) : result.1.acquired = party.acquired ∨
      (party.acquired = none ∧ ∃ record, result.1.acquired = some record.generation ∧
        Acquires store result.2.1 record) := by
  cases hacts with
  | @acquired input _ hreserved _ =>
    rcases hacquire : store.acquireAfterProcessLock input with ⟨e | acquisition, next⟩
    · exact Or.inl (h.unreserved hreserved).symm
    · exact Or.inr ⟨h.unreserved hreserved, acquisition.record, rfl, (acquires_store hacquire).1⟩
  | _ => exact Or.inl rfl

/-- The callback is invoked only while a record of the store has the generation of the guard. -/
theorem Acts.callback (h : Accounted party) (hcallback : result.2.2 = some .callbackInvoked) :
    ∃ record ∈ currents store, party.acquired = some record.generation := by
  cases hacts with
  | @invoked held confirmed guard hheld hcurrent hgeneration _ =>
    refine ⟨confirmed, mem_currents_of_getCurrent hcurrent, ?_⟩
    rw [hgeneration]
    exact (h.record held hheld).1
  | @completed index pending nowEpochMs retryAtEpochMs isTransient hpending =>
    cases pending with
    | acquisition answer => cases hcallback
    | renewal expiresAtEpochMs answer => cases hcallback
    | assertion expected atEpochMs answer =>
      simp only [Party.complete, returned] at hcallback
      split at hcallback <;> cases hcallback
  | _ => cases hcallback

/-- A lost guard answers every method with an error and stays lost. -/
theorem Acts.lost (hlost : party.guard.isLost = true) :
    result.1.guard.isLost = true ∧ result.2.2 = none := by
  cases hacts with
  | marked hmarked => exact ⟨hmarked.isLost hlost, rfl⟩
  | reserved hmarked => exact ⟨hmarked.isLost hlost, rfl⟩
  | acquired hunowned _ _ =>
    unfold Guard.isLost at hlost
    rw [hunowned] at hlost
    cases hlost
  | heldLocally howned => exact absurd howned (not_owned_of_isLost hlost)
  | asserted hrecord => exact ⟨hlost, rfl⟩
  | invoked _ _ _ htakes => exact absurd hlost htakes.not_isLost
  | tookOver _ htakes => exact absurd hlost htakes.not_isLost
  | renewed hmarked => exact ⟨hmarked.isLost hlost, rfl⟩
  | @completed index pending nowEpochMs retryAtEpochMs isTransient hpending =>
    cases pending with
    | acquisition answer =>
      refine ⟨?_, rfl⟩
      obtain hsame | ⟨acquisition, -, hmarked | ⟨hnot, -⟩⟩ :=
        completeAcquisition_cases party.guard answer
      · simp only [Party.complete, hsame]
        exact hlost
      · exact hmarked.isLost hlost
      · rw [hlost] at hnot
        cases hnot
    | assertion expected atEpochMs answer =>
      obtain ⟨e, next, heq, hmarked⟩ | ⟨record, next, -, htakes⟩ :=
        completeAssertCurrent_cases party.guard expected answer atEpochMs nowEpochMs
      · simp only [Party.complete, heq, returned, and_true]
        exact hmarked.isLost hlost
      · exact absurd hlost htakes.not_isLost
    | renewal expiresAtEpochMs answer =>
      refine ⟨?_, rfl⟩
      obtain hmarked | ⟨held, -, htakes⟩ := completeRenewal_cases party.guard expiresAtEpochMs
        answer nowEpochMs retryAtEpochMs isTransient
      · exact hmarked.isLost hlost
      · exact absurd hlost htakes.not_isLost
  | processLock => exact ⟨hlost, rfl⟩

end Act

/-! ### Runs -/

section Runs

variable {ι : Type} [DecidableEq ι]

/-- Every guard has one generation, which an event of the store remembers. -/
structure Sound (system : System ι) : Prop where
  accounted : ∀ i, Accounted (system.parties i)
  noted : ∀ i generation, (system.parties i).acquired = some generation →
    ∃ event ∈ events system.store, event.generation = generation

omit [DecidableEq ι] in
theorem sound_initial (ownerToken : ι → String) (lockHeld : ι → Bool) :
    Sound (System.initial store ownerToken lockHeld) where
  accounted i := accounted_create (ownerToken i) (lockHeld i)
  noted _ _ h := nomatch h

theorem advances_step (system : System ι) (event : Event ι) :
    Advances system.store (system.step event).store := by
  cases event with
  | guard i action => exact (acts_act (system.parties i) system.store action).advances
  | store scopeKey call => exact advances_run system.store scopeKey call

variable {system : System ι}

theorem sound_step (h : Sound system) (event : Event ι) : Sound (system.step event) := by
  have hkept := (advances_step system event).events
  cases event with
  | store scopeKey call =>
    refine ⟨h.accounted, fun i generation hacquired => ?_⟩
    obtain ⟨noted, hmem, hgeneration⟩ := h.noted i generation hacquired
    exact ⟨noted, hkept noted hmem, hgeneration⟩
  | guard i action =>
    refine ⟨fun j => ?_, fun j generation hacquired => ?_⟩
    · by_cases hij : j = i
      · subst hij
        simp only [System.step, Function.update_self]
        exact (acts_act _ system.store action).accounted (h.accounted j)
      · simp only [System.step, Function.update_of_ne hij]
        exact h.accounted j
    · have hold : (system.parties j).acquired = some generation →
          ∃ event ∈ events (system.step (.guard i action)).store,
            event.generation = generation := by
        intro hbefore
        obtain ⟨noted, hmem, hgeneration⟩ := h.noted j generation hbefore
        exact ⟨noted, hkept noted hmem, hgeneration⟩
      by_cases hij : j = i
      · subst hij
        simp only [System.step, Function.update_self] at hacquired
        obtain hsame | ⟨-, record, hnew, hacquires⟩ :=
          (acts_act _ system.store action).once (h.accounted j)
        · exact hold (hsame.symm.trans hacquired)
        · obtain rfl := Option.some.inj (hnew.symm.trans hacquired)
          exact hacquires.noted
      · simp only [System.step, Function.update_of_ne hij] at hacquired
        exact hold hacquired

theorem acquired_step (h : Sound system) (event : Event ι) {i : ι}
    (hacquired : (system.parties i).acquired = some generation) :
    ((system.step event).parties i).acquired = some generation := by
  cases event with
  | store scopeKey call => exact hacquired
  | guard j action =>
    by_cases hij : i = j
    · subst hij
      simp only [System.step, Function.update_self]
      obtain hsame | ⟨hnone, -⟩ := (acts_act _ system.store action).once (h.accounted i)
      · rw [hsame, hacquired]
      · rw [hacquired] at hnone
        cases hnone
    · simp only [System.step, Function.update_of_ne hij]
      exact hacquired

/-- The guard `i` acquired, and the store is beyond its generation. -/
def Fenced (system : System ι) (i : ι) : Prop :=
  ∃ generation, (system.parties i).acquired = some generation ∧ Beyond system.store generation

theorem fenced_step (h : Sound system) {i : ι} (hfenced : Fenced system i) (event : Event ι) :
    Fenced (system.step event) i := by
  obtain ⟨generation, hacquired, hbeyond⟩ := hfenced
  exact ⟨generation, acquired_step h event hacquired, hbeyond.advances (advances_step system event)⟩

/-- The acquisition of another guard fences those before it. -/
theorem fenced_of_acquisition (h : Sound system) {i j : ι} {event : Event ι}
    (hfirst : (system.parties i).acquired.isSome = true)
    (hbefore : (system.parties j).acquired = none)
    (hafter : ((system.step event).parties j).acquired.isSome = true) :
    Fenced (system.step event) i := by
  obtain ⟨generation, hacquired⟩ := Option.isSome_iff_exists.mp hfirst
  refine ⟨generation, acquired_step h event hacquired, ?_⟩
  cases event with
  | store scopeKey call =>
    simp only [System.step, hbefore] at hafter
    cases hafter
  | guard k action =>
    by_cases hjk : j = k
    · subst hjk
      simp only [System.step, Function.update_self] at hafter
      obtain hsame | ⟨-, record, -, hacquires⟩ :=
        (acts_act _ system.store action).once (h.accounted j)
      · rw [hsame, hbefore] at hafter
        cases hafter
      · exact hacquires.beyond (h.noted i generation hacquired)
    · simp only [System.step, Function.update_of_ne hjk, hbefore] at hafter
      cases hafter

theorem lost_step {i : ι} (hlost : (system.parties i).guard.isLost = true) (event : Event ι) :
    ((system.step event).parties i).guard.isLost = true := by
  cases event with
  | store scopeKey call => exact hlost
  | guard j action =>
    by_cases hij : i = j
    · subst hij
      simp only [System.step, Function.update_self]
      exact ((acts_act _ system.store action).lost hlost).1
    · simp only [System.step, Function.update_of_ne hij]
      exact hlost

/-- **A fenced owner never sends.** In every run of any guards over one store: after the acquisition of
a guard `j` completed in the store, the callback of a guard `i` that acquired before is never invoked
again; and a guard that is lost stays lost, and none of its steps invokes a callback or returns from
an assertion. -/
theorem fenced_owner_never_sends (store : Store) (ownerToken : ι → String) (lockHeld : ι → Bool)
    (history : List (Event ι)) (i : ι) :
    let before := run System.step (System.initial store ownerToken lockHeld) history
    (∀ (j : ι) (event : Event ι) (later : List (Event ι)) (action : Action),
      (before.parties i).acquired.isSome = true → (before.parties j).acquired = none →
      ((before.step event).parties j).acquired.isSome = true →
      (run System.step (before.step event) later).outcome i action ≠ some .callbackInvoked) ∧
    ((before.parties i).guard.isLost = true → ∀ (later : List (Event ι)) (action : Action),
      ((run System.step before later).parties i).guard.isLost = true ∧
        (run System.step before later).outcome i action = none) := by
  have hsound : Sound (run System.step (System.initial store ownerToken lockHeld) history) :=
    run_invariant Sound (fun _ event h => sound_step h event)
      (sound_initial store ownerToken lockHeld) history
  refine ⟨fun j event later action hfirst hbefore hafter hcallback => ?_,
    fun hlost later action => ?_⟩
  · have hfenced := fenced_of_acquisition hsound hfirst hbefore hafter
    obtain ⟨hsound', generation, hacquired, hbeyond⟩ :=
      run_invariant (fun system => Sound system ∧ Fenced system i)
        (fun _ event h => ⟨sound_step h.1 event, fenced_step h.1 h.2 event⟩)
        ⟨sound_step hsound event, hfenced⟩ later
    obtain ⟨record, hrecord, hgeneration⟩ := (acts_act _ _ _).callback (hsound'.accounted i) hcallback
    have hlt := hbeyond.current record hrecord
    rw [hacquired] at hgeneration
    rw [Option.some.inj hgeneration] at hlt
    exact lt_irrefl _ hlt
  · have hstays := run_invariant (fun system : System ι => (system.parties i).guard.isLost = true)
      (fun _ event h => lost_step h event) hlost later
    exact ⟨hstays, ((acts_act _ _ action).lost hstays).2⟩

end Runs

/-! ### A takeover -/

/-- The scope key of the guards below. -/
def exampleScope : String := "aaaaaaaaaaaaaaaaaaaaaaaaaaaaaaaaaaaaaaaaaaaaaaaaaaaaaaaaaaaaaaaa"

/-- Two guards over the tables of SQLite. -/
def twoGuards : System Bool :=
  System.initial (.sqlite exampleScope emptyTables) (fun _ => exampleToken) fun _ => true

/-- The guard acquires and hears of it. -/
def acquires (i : Bool) (atEpochMs : ℤ) : List (Event Bool) :=
  [.guard i (.acquire .dryRun atEpochMs), .guard i (.resume 0 atEpochMs atEpochMs false)]

/-- The fence of an account that runs. -/
def send (atEpochMs : ℤ) : Action :=
  .runWithCurrentExecutionAuthority ⟨atEpochMs, "account", .dryRun, .disabled⟩
    (.ok (some ⟨"account", .dryRun, .disabled, .running, false⟩)) atEpochMs atEpochMs

/-- The first guard sends until the second one has acquired; its own fence then finds it lost. -/
theorem fenced_owner_never_sends_takeover :
    (run System.step twoGuards (acquires false 1)).outcome false (send 2) = some .callbackInvoked ∧
    (run System.step ((run System.step twoGuards (acquires false 1)).step
        (.guard true (.acquire .dryRun 3))) [.guard true (.resume 0 3 3 false)]).outcome false
      (send 4) ≠ some .callbackInvoked ∧
    ((run System.step (run System.step twoGuards (acquires false 1 ++ acquires true 3 ++
        [.guard false (send 4)])) [.guard false (.assertCurrent 5 5)]).parties false).guard.isLost =
      true := by
  have hacquired : (((run System.step twoGuards (acquires false 1)).parties false).acquired.isSome =
      true ∧ ((run System.step twoGuards (acquires false 1)).parties true).acquired = none) ∧
      (((run System.step twoGuards (acquires false 1)).step
        (.guard true (.acquire .dryRun 3))).parties true).acquired.isSome = true := by
    decide +kernel
  have hlost : ((run System.step twoGuards (acquires false 1 ++ acquires true 3 ++
      [.guard false (send 4)])).parties false).guard.isLost = true := by
    decide +kernel
  refine ⟨by decide +kernel, ?_, ?_⟩
  · obtain ⟨hfence, -⟩ := fenced_owner_never_sends (.sqlite exampleScope emptyTables)
      (fun _ => exampleToken) (fun _ => true) (acquires false 1) false
    exact hfence true _ _ (send 4) hacquired.1.1 hacquired.1.2 hacquired.2
  · obtain ⟨-, hstays⟩ := fenced_owner_never_sends (.sqlite exampleScope emptyTables)
      (fun _ => exampleToken) (fun _ => true)
      (acquires false 1 ++ acquires true 3 ++ [.guard false (send 4)]) false
    exact (hstays hlost _ (send 6)).1

end AutoTrade.Runtime.GuardFence
