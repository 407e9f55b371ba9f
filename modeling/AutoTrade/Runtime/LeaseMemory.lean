import AutoTrade.Runtime.GuardFence
import AutoTrade.Runtime.Heartbeat

/-! # A renewed lease is not forgotten

The row of the store is written by the heartbeat alone, and a renewal that is stored has a later
expiry. So what a guard takes from the store at once is never older than what it holds. An
`assertCurrent` takes what it read before its await; when a renewal was accepted meanwhile, it puts
the older expiry back. In the runs where no assertion takes an older row over, the expiry that the
guard holds only grows, and the guard is found expired only when its last renewal has run out. -/

namespace AutoTrade.Runtime.LeaseMemory

open Lib Lib.Run Lib.Result
open Domain.Types
open Runtime.OwnershipGuard (OwnershipStatus isReasonCode)
open Runtime.OwnershipStore
open Runtime.OwnershipGenerations
open Runtime.SqliteOwnershipStore (OwnershipRow OwnershipTables selectCurrent)
open Runtime.GuardProtocol Runtime.GuardFence Runtime.Heartbeat

/-! ### The row of the store -/

/-- The row of the scope, valid or not. -/
def storedRow : Store → Option RuntimeOwnershipRecord
  | .inMemory stored => stored.current
  | .sqlite own db => (Table.select OwnershipRow.scopeKey own db.ownership).map OwnershipRow.record

variable {record : RuntimeOwnershipRecord} {db : OwnershipTables}

theorem storedRow_of_selectCurrent {own : String} (h : selectCurrent own db = .ok (some record)) :
    storedRow (.sqlite own db) = some record := by
  show (Table.select OwnershipRow.scopeKey own db.ownership).map OwnershipRow.record = some record
  unfold selectCurrent at h
  cases hrow : Table.select OwnershipRow.scopeKey own db.ownership with
  | none => simp [hrow] at h
  | some row =>
    simp only [hrow, then_eq_ok, Except.ok.injEq, Option.some.injEq] at h
    rw [Option.map_some, h.2]

theorem storedRow_of_getCurrent {store : Store} (h : store.getCurrent = .ok (some record)) :
    storedRow store = some record := by
  cases store with
  | inMemory stored =>
    simp only [Store.getCurrent, OwnershipStore.getCurrent, then_eq_ok, Except.ok.injEq] at h
    exact h.2
  | sqlite own db => exact storedRow_of_selectCurrent h

theorem storedRow_acquire {store next : Store} {input : AcquireRuntimeOwnershipInput}
    {acquisition : RuntimeOwnershipAcquisition}
    (h : store.acquireAfterProcessLock input = (.ok acquisition, next)) :
    storedRow next = some acquisition.record := by
  cases store with
  | inMemory stored =>
    rcases hacquire : acquireAfterProcessLock stored input with ⟨answer, last⟩
    simp only [Store.acquireAfterProcessLock, hacquire, Prod.mk.injEq] at h
    obtain ⟨rfl, rfl⟩ := h
    exact (inMemory_acquire hacquire).2.1
  | sqlite own db =>
    rcases hacquire : SqliteOwnershipStore.acquireAfterProcessLock own db input with ⟨answer, last⟩
    simp only [Store.acquireAfterProcessLock, hacquire, Prod.mk.injEq] at h
    obtain ⟨rfl, rfl⟩ := h
    obtain ⟨-, -, hownership, -⟩ := sqlite_acquire hacquire
    show (Table.select OwnershipRow.scopeKey own last.ownership).map OwnershipRow.record = _
    rw [hownership, Table.select_upsert, if_pos rfl]
    rfl

/-- What a renewal does to the row: nothing, or it stores and returns a row of a later expiry. -/
def Renews (before after : Store) (answer : Except String (Option RuntimeOwnershipRecord)) : Prop :=
  (after = before ∧ ∀ renewed, answer ≠ .ok (some renewed)) ∨
    ∃ old renewed, storedRow before = some old ∧ storedRow after = some renewed ∧
      answer = .ok (some renewed) ∧ old.expiresAtEpochMs < renewed.expiresAtEpochMs

theorem renews_inMemory (stored : StoredOwnership) (input : RenewRuntimeOwnershipInput) :
    Renews (.inMemory stored) (.inMemory (renew stored input).2) (renew stored input).1 := by
  unfold renew
  cases hrenewal : renewal stored input with
  | error e => exact Or.inl ⟨rfl, fun renewed h => by cases h⟩
  | ok result =>
    cases result with
    | none => exact Or.inl ⟨rfl, fun renewed h => by cases h⟩
    | some renewed =>
      unfold renewal at hrenewal
      obtain ⟨-, hrenewal⟩ := then_eq_ok.mp hrenewal
      obtain ⟨held, hheld, hrenewal⟩ := bind_eq_ok.mp hrenewal
      cases held with
      | none => simp at hrenewal
      | some current =>
        have hcurrent : stored.current = some current := by
          unfold heldRecord at hheld
          cases hstored : stored.current with
          | none => simp [hstored] at hheld
          | some record =>
            simp only [hstored, then_eq_ok] at hheld
            obtain ⟨-, hheld⟩ := hheld
            split_ifs at hheld
            · simp at hheld
            · rw [bind_eq_ok] at hheld
              obtain ⟨latest, -, hheld⟩ := hheld
              simp only [then_eq_ok, Except.ok.injEq, Option.some.injEq] at hheld
              rw [hheld.2]
        unfold renewedRecord at hrenewal
        dsimp only at hrenewal
        split_ifs at hrenewal with hrefused
        · simp at hrenewal
        · push Not at hrefused
          simp only [then_eq_ok, Except.ok.injEq, Option.some.injEq] at hrenewal
          obtain ⟨-, rfl⟩ := hrenewal
          exact Or.inr ⟨current, _, hcurrent, rfl, rfl, hrefused.2.2⟩

variable {current : RuntimeOwnershipRecord}

theorem selectCurrent_of_heldRecord {own ownerToken : String} {generation atEpochMs : ℤ}
    (h : SqliteOwnershipStore.heldRecord own db ownerToken generation atEpochMs =
      .ok (some current)) :
    selectCurrent own db = .ok (some current) ∧ current.ownerToken = ownerToken ∧
      current.generation = generation := by
  unfold SqliteOwnershipStore.heldRecord at h
  obtain ⟨selected, hselected, h⟩ := bind_eq_ok.mp h
  cases selected with
  | none => simp at h
  | some record =>
    dsimp only at h
    split_ifs at h with hother
    · simp at h
    · push Not at hother
      obtain ⟨maximum, -, h⟩ := bind_eq_ok.mp h
      obtain ⟨latest, -, h⟩ := bind_eq_ok.mp h
      simp only [then_eq_ok, Except.ok.injEq, Option.some.injEq] at h
      obtain ⟨-, rfl⟩ := h
      exact ⟨hselected, hother⟩

theorem updateRenewed_row {own : String} {db next : OwnershipTables}
    {input : RenewRuntimeOwnershipInput} {answer : Option RuntimeOwnershipRecord}
    (hcurrent : selectCurrent own db = .ok (some current))
    (htoken : current.ownerToken = input.ownerToken)
    (hgeneration : current.generation = input.generation)
    (h : SqliteOwnershipStore.updateRenewed own db current input = .ok (answer, next)) :
    answer = some { current with
      heartbeatAtEpochMs := input.heartbeatAtEpochMs
      expiresAtEpochMs := input.expiresAtEpochMs } ∧
      selectCurrent own next = .ok answer := by
  have hselect : ∃ row, Table.select OwnershipRow.scopeKey own db.ownership = some row ∧
      row.record = current := by
    unfold selectCurrent at hcurrent
    cases hrow : Table.select OwnershipRow.scopeKey own db.ownership with
    | none => simp [hrow] at hcurrent
    | some row =>
      simp only [hrow, then_eq_ok, Except.ok.injEq, Option.some.injEq] at hcurrent
      exact ⟨row, rfl, hcurrent.2⟩
  obtain ⟨row, hrow, rfl⟩ := hselect
  have hkey : row.scopeKey = own := Table.key_of_select hrow
  unfold SqliteOwnershipStore.updateRenewed at h
  obtain ⟨-, h⟩ := then_eq_ok.mp h
  obtain ⟨renewed, hrenewed, h⟩ := bind_eq_ok.mp h
  simp only [Except.ok.injEq, Prod.mk.injEq] at h
  obtain ⟨rfl, rfl⟩ := h
  refine ⟨?_, hrenewed⟩
  unfold selectCurrent at hrenewed
  rw [Table.select_update (by intro other; rfl), hrow, Option.map_some,
    if_pos (by simp [hkey, htoken, hgeneration])] at hrenewed
  simp only [then_eq_ok, Except.ok.injEq] at hrenewed
  exact hrenewed.2.symm

theorem renews_sqlite (own : String) (db : OwnershipTables) (input : RenewRuntimeOwnershipInput) :
    Renews (.sqlite own db) (.sqlite own (SqliteOwnershipStore.renew own db input).2)
      (SqliteOwnershipStore.renew own db input).1 := by
  rcases hrenew : SqliteOwnershipStore.renew own db input with ⟨answer, next⟩
  unfold SqliteOwnershipStore.renew SqliteOwnershipStore.withImmediateTransaction at hrenew
  split at hrenew
  · next value tables hok =>
    simp only [Prod.mk.injEq] at hrenew
    obtain ⟨rfl, rfl⟩ := hrenew
    obtain ⟨-, hok⟩ := then_eq_ok.mp hok
    obtain ⟨held, hheld, hok⟩ := bind_eq_ok.mp hok
    cases held with
    | none =>
      simp only [Except.ok.injEq, Prod.mk.injEq] at hok
      obtain ⟨rfl, rfl⟩ := hok
      exact Or.inl ⟨rfl, fun renewed h => by cases h⟩
    | some current =>
      dsimp only at hok
      split_ifs at hok with hrefused
      · simp only [Except.ok.injEq, Prod.mk.injEq] at hok
        obtain ⟨rfl, rfl⟩ := hok
        exact Or.inl ⟨rfl, fun renewed h => by cases h⟩
      · push Not at hrefused
        obtain ⟨hcurrent, htoken, hgeneration⟩ := selectCurrent_of_heldRecord hheld
        obtain ⟨rfl, hselect⟩ := updateRenewed_row hcurrent htoken hgeneration hok
        exact Or.inr ⟨current, _, storedRow_of_selectCurrent hcurrent,
          storedRow_of_selectCurrent hselect, rfl, hrefused.2.2⟩
  · simp only [Prod.mk.injEq] at hrenew
    obtain ⟨rfl, rfl⟩ := hrenew
    exact Or.inl ⟨rfl, fun renewed h => by cases h⟩

theorem renews_store (store : Store) (input : RenewRuntimeOwnershipInput) :
    Renews store (store.renew input).2 (store.renew input).1 := by
  cases store with
  | inMemory stored => exact renews_inMemory stored input
  | sqlite own db => exact renews_sqlite own db input

/-! ### What a guard can do -/

/-- The marks of a lease that ran out. -/
def isExpired (status : OwnershipStatus) : Bool :=
  status = .lost "OWNERSHIP_EXPIRED" ∨ status = .lost "HEARTBEAT_EXPIRED"

/-- Only the status may change, to a loss, and to one of the marks above only when one of the times
is not before `bound`. -/
structure Spared (guard next : Guard) (bound : ℤ) (times : List ℤ) : Prop where
  frame : next = { guard with status := next.status }
  status : next.status = guard.status ∨ next.status ≠ .owned
  expired : next.status ≠ guard.status → isExpired next.status = true → ∃ t ∈ times, bound ≤ t

variable {answer : Except String (Option RuntimeOwnershipRecord)}

section Guards

variable {guard next last : Guard} {bound : ℤ} {times : List ℤ}

theorem Spared.refl (guard : Guard) (bound : ℤ) (times : List ℤ) : Spared guard guard bound times :=
  ⟨rfl, Or.inl rfl, fun hne => absurd rfl hne⟩

theorem Spared.trans (h : Spared guard next bound times) (h' : Spared next last bound times) :
    Spared guard last bound times := by
  refine ⟨?_, ?_, fun hne hexpired => ?_⟩
  · rw [h'.frame, h.frame]
  · rcases h'.status with hsame | hlost
    · rw [hsame]
      exact h.status
    · exact Or.inr hlost
  · by_cases hlast : last.status = next.status
    · rw [hlast] at hne hexpired
      exact h.expired hne hexpired
    · exact h'.expired hlast hexpired

variable {reason : String}

theorem spared_markLost (guard : Guard)
    (h : isExpired (.lost reason) = true → ∃ t ∈ times, bound ≤ t) :
    Spared guard (guard.markLost reason) bound times := by
  have hstatus : (guard.markLost reason).status = guard.status ∨
      (guard.markLost reason).status = .lost reason := by
    show OwnershipGuard.markLost guard.status reason = guard.status ∨
      OwnershipGuard.markLost guard.status reason = .lost reason
    unfold OwnershipGuard.markLost
    split_ifs with hcode
    · exact Or.inl rfl
    · split
      · split_ifs with hkeep
        · exact Or.inl rfl
        · exact Or.inr rfl
      · exact Or.inr rfl
  refine ⟨rfl, ?_, fun hne hexpired => ?_⟩
  · rcases hstatus with hsame | hlost
    · exact Or.inl hsame
    · exact Or.inr (by rw [hlost]; simp)
  · rcases hstatus with hsame | hlost
    · exact absurd hsame hne
    · rw [hlost] at hexpired
      exact h hexpired

theorem spared_expired (guard : Guard) (reason : String) {expiresAtEpochMs atEpochMs : ℤ}
    (hbound : bound ≤ expiresAtEpochMs) (hexpired : expiresAtEpochMs ≤ atEpochMs)
    (hmem : atEpochMs ∈ times) : Spared guard (guard.markLost reason) bound times :=
  spared_markLost guard fun _ => ⟨atEpochMs, hmem, hbound.trans hexpired⟩

theorem Spared.lose (h : Spared guard (guard.markLost reason) bound times) :
    Spared guard (guard.lose reason) bound times := by
  unfold Guard.lose
  split_ifs
  · exact Spared.refl guard bound times
  · exact h

theorem spared_failRenewal (guard : Guard) {expiresAtEpochMs retryAtEpochMs : ℤ}
    (isTransient : Bool) (hbound : bound ≤ expiresAtEpochMs) (hmem : retryAtEpochMs ∈ times) :
    Spared guard (guard.failRenewal expiresAtEpochMs retryAtEpochMs isTransient) bound times := by
  unfold Guard.failRenewal
  split_ifs with howned hexpired htransient
  · exact Spared.refl guard bound times
  · exact (spared_expired guard "HEARTBEAT_EXPIRED" hbound hexpired hmem).lose
  · have hmarked : Spared guard (guard.markLost "HEARTBEAT_RENEWAL_FAILED") bound times :=
      spared_markLost guard fun h => absurd h (by decide)
    exact hmarked.lose
  · exact Spared.refl guard bound times

/-- `assertLocallyHeld` throws, or finds the guard owned and changes nothing. -/
theorem assertLocallyHeld_spares (guard : Guard) {nowEpochMs : ℤ}
    (hbound : ∀ held ∈ guard.record, bound ≤ held.expiresAtEpochMs) (hmem : nowEpochMs ∈ times) :
    (∃ e next, guard.assertLocallyHeld nowEpochMs = (.error e, next) ∧
        Spared guard next bound times) ∨
      ∃ held, guard.assertLocallyHeld nowEpochMs = (.ok held, guard) ∧
        guard.record = some held ∧ guard.status = .owned := by
  unfold Guard.assertLocallyHeld
  split_ifs with hlost hlock
  · exact Or.inl ⟨_, _, rfl, Spared.refl guard bound times⟩
  · exact Or.inl ⟨_, _, rfl, spared_markLost guard fun h => absurd h (by decide)⟩
  · split
    · next record howned hrecord =>
      cases Guard.validateAssertionTime nowEpochMs with
      | error e => exact Or.inl ⟨_, _, rfl, Spared.refl guard bound times⟩
      | ok u =>
        dsimp only
        split_ifs with hexpired
        · exact Or.inl ⟨_, _, rfl,
            spared_expired guard "OWNERSHIP_EXPIRED" (hbound record hrecord) hexpired hmem⟩
        · exact Or.inr ⟨record, rfl, hrecord, howned⟩
    · exact Or.inl ⟨_, _, rfl, Spared.refl guard bound times⟩

theorem confirm_spares (guard : Guard) (expected : RuntimeOwnershipRecord)
    {persisted : Option RuntimeOwnershipRecord} {atEpochMs : ℤ}
    (hbound : ∀ record ∈ persisted, bound ≤ record.expiresAtEpochMs) (hmem : atEpochMs ∈ times) :
    (∃ e next, guard.confirm expected persisted atEpochMs = (.error e, next) ∧
        Spared guard next bound times) ∨
      ∃ record, guard.confirm expected persisted atEpochMs = (.ok record, guard) ∧
        persisted = some record := by
  unfold Guard.confirm
  cases persisted with
  | none => exact Or.inl ⟨_, _, rfl, spared_markLost guard fun h => absurd h (by decide)⟩
  | some record =>
    dsimp only
    split_ifs with hsame hexpired
    · exact Or.inl ⟨_, _, rfl, spared_markLost guard fun h => absurd h (by decide)⟩
    · exact Or.inl ⟨_, _, rfl,
        spared_expired guard "OWNERSHIP_EXPIRED" (hbound record rfl) hexpired hmem⟩
    · exact Or.inr ⟨record, rfl, rfl⟩

/-- The guard takes a record over that is not older than the one it holds. -/
def TakesNewer (guard next : Guard) (record : RuntimeOwnershipRecord) : Prop :=
  next = { guard with record := some record } ∧
    ∃ held, guard.record = some held ∧ held.expiresAtEpochMs ≤ record.expiresAtEpochMs

/-- An assertion whose row is not older than what the guard holds when the row arrives. -/
theorem completeAssertCurrent_spares (guard : Guard) (expected : RuntimeOwnershipRecord)
    {atEpochMs nowEpochMs : ℤ} (hbound : ∀ held ∈ guard.record, bound ≤ held.expiresAtEpochMs)
    (hfresh : ∀ record held, answer = .ok (some record) →
      (guard.assertLocallyHeld nowEpochMs).1 = .ok held →
      held.expiresAtEpochMs ≤ record.expiresAtEpochMs) (hnow : nowEpochMs ∈ times)
    (hat : atEpochMs ∈ times) :
    Spared guard (guard.completeAssertCurrent expected answer atEpochMs nowEpochMs).2 bound times ∨
      ∃ record, answer = .ok (some record) ∧ TakesNewer guard
        (guard.completeAssertCurrent expected answer atEpochMs nowEpochMs).2 record := by
  unfold Guard.completeAssertCurrent
  cases answer with
  | error e => exact Or.inl (Spared.refl guard bound times)
  | ok persisted =>
    dsimp only
    obtain ⟨e, next, heq, hspared⟩ | ⟨held, heq, hheld, -⟩ :=
      assertLocallyHeld_spares guard hbound hnow
    · rw [heq]
      exact Or.inl hspared
    · rw [heq]
      dsimp only
      have hnewer : ∀ record ∈ persisted, held.expiresAtEpochMs ≤ record.expiresAtEpochMs := by
        intro record hrecord
        rw [Option.mem_def.mp hrecord] at hfresh
        exact hfresh record held rfl (by rw [heq])
      have hpersisted : ∀ record ∈ persisted, bound ≤ record.expiresAtEpochMs :=
        fun record hrecord => (hbound held hheld).trans (hnewer record hrecord)
      obtain ⟨e, next, hconfirm, hspared⟩ | ⟨record, hconfirm, rfl⟩ :=
        confirm_spares guard expected hpersisted hat
      · rw [hconfirm]
        exact Or.inl hspared
      · rw [hconfirm]
        exact Or.inr ⟨record, rfl, rfl, held, hheld, hnewer record rfl⟩

/-- The fence, which reads the row at once. -/
theorem runWith_spares (guard : Guard) {input : Guard.AssertCurrentExecutionAuthorityInput}
    {read : Except String (Option PersistedRuntimeExecutionAuthority)}
    {nowEpochMs laterEpochMs : ℤ}
    (hbound : ∀ held ∈ guard.record, bound ≤ held.expiresAtEpochMs)
    (hread : ∀ held ∈ guard.record, ∀ authority, read = .ok (some authority) →
      held.expiresAtEpochMs ≤ authority.runtimeOwnership.expiresAtEpochMs)
    (hnow : nowEpochMs ∈ times) (hlater : laterEpochMs ∈ times)
    (hat : input.atEpochMs ∈ times) :
    let next := (guard.runWithCurrentExecutionAuthority input read nowEpochMs laterEpochMs).2
    Spared guard next bound times ∨
      ∃ authority, read = .ok (some authority) ∧
        TakesNewer guard next authority.runtimeOwnership := by
  dsimp only
  unfold Guard.runWithCurrentExecutionAuthority
  cases Guard.validateAssertionTime input.atEpochMs with
  | error e => exact Or.inl (Spared.refl guard bound times)
  | ok u =>
    dsimp only
    split_ifs with haccount
    · exact Or.inl (Spared.refl guard bound times)
    obtain ⟨e, next, heq, hspared⟩ | ⟨held, heq, hheld, -⟩ :=
      assertLocallyHeld_spares guard hbound hnow
    · rw [heq]
      exact Or.inl hspared
    rw [heq]
    dsimp only
    cases read with
    | error e => exact Or.inl (Spared.refl guard bound times)
    | ok persisted =>
      dsimp only
      obtain ⟨e, next, heq, hspared⟩ | ⟨record, heq, -, -⟩ :=
        assertLocallyHeld_spares guard hbound hlater
      · rw [heq]
        exact Or.inl hspared
      rw [heq]
      dsimp only
      have hpersisted : ∀ record ∈ persisted.map (·.runtimeOwnership),
          bound ≤ record.expiresAtEpochMs := by
        intro record hrecord
        obtain ⟨authority, rfl, rfl⟩ := Option.map_eq_some_iff.mp hrecord
        exact (hbound held hheld).trans (hread held hheld authority rfl)
      obtain ⟨e, next, hconfirm, hspared⟩ | ⟨record, hconfirm, hrecord⟩ :=
        confirm_spares guard held hpersisted hat
      · rw [hconfirm]
        exact Or.inl hspared
      rw [hconfirm]
      dsimp only
      obtain ⟨authority, rfl, rfl⟩ := Option.map_eq_some_iff.mp hrecord
      split
      · exact Or.inl (Spared.refl guard bound times)
      · exact Or.inr ⟨authority, rfl, rfl, held, hheld, hread held hheld authority rfl⟩

/-- A renewal starts with the lease the guard holds. -/
theorem beginRenewal_spares (guard : Guard) {attemptedAtEpochMs nowEpochMs retryAtEpochMs : ℤ}
    (isTransient : Bool) (hbound : ∀ held ∈ guard.record, bound ≤ held.expiresAtEpochMs)
    (hattempted : attemptedAtEpochMs ∈ times) (hnow : nowEpochMs ∈ times)
    (hretry : retryAtEpochMs ∈ times) :
    (∃ next, guard.beginRenewal attemptedAtEpochMs nowEpochMs retryAtEpochMs isTransient =
        (none, next) ∧ Spared guard next bound times) ∨
      ∃ lease, guard.beginRenewal attemptedAtEpochMs nowEpochMs retryAtEpochMs isTransient =
        (some lease, guard) ∧ guard.record = some lease := by
  unfold Guard.beginRenewal
  split
  · next lease howned hrecord =>
    split_ifs with hexpired
    · exact Or.inl ⟨_, rfl,
        (spared_expired guard "HEARTBEAT_EXPIRED" (hbound lease hrecord) hexpired hattempted).lose⟩
    obtain ⟨e, next, heq, hspared⟩ | ⟨held, heq, -, -⟩ :=
      assertLocallyHeld_spares guard hbound hnow
    · rw [heq]
      exact Or.inl ⟨_, rfl,
        hspared.trans (spared_failRenewal next isTransient (hbound lease hrecord) hretry)⟩
    · rw [heq]
      exact Or.inr ⟨lease, rfl, hrecord⟩
  · exact Or.inl ⟨_, rfl, Spared.refl guard bound times⟩

theorem status_markLost (howned : guard.status = .owned) (hcode : isReasonCode reason = true) :
    (guard.markLost reason).status = .lost reason := by
  show OwnershipGuard.markLost guard.status reason = .lost reason
  rw [howned]
  unfold OwnershipGuard.markLost
  rw [if_neg (by simp [hcode])]

theorem lose_of_owned (howned : guard.status = .owned) (reason : String) :
    guard.lose reason = guard.markLost reason := by
  unfold Guard.lose Guard.isLost
  rw [howned]
  rfl

/-- A renewal that arrives: the guard holds it afterwards, or did not accept it. -/
theorem completeRenewal_spares (guard : Guard) {expiresAtEpochMs : ℤ}
    {nowEpochMs retryAtEpochMs : ℤ} (isTransient : Bool) (hbound : bound ≤ expiresAtEpochMs)
    (hnow : nowEpochMs ∈ times) (hretry : retryAtEpochMs ∈ times) :
    let next :=
      guard.completeRenewal expiresAtEpochMs answer nowEpochMs retryAtEpochMs isTransient
    (Spared guard next bound times ∧ ∀ renewed, answer = .ok (some renewed) →
        ¬ (next.status = .owned ∧ next.record = some renewed)) ∨
      ∃ renewed held, answer = .ok (some renewed) ∧ guard.record = some held ∧
        guard.status = .owned ∧ next = { guard with record := some renewed } := by
  dsimp only
  unfold Guard.completeRenewal
  cases answer with
  | error e =>
    exact Or.inl ⟨spared_failRenewal guard isTransient hbound hretry, fun renewed h => by cases h⟩
  | ok renewed =>
    cases renewed with
    | none =>
      dsimp only
      have hmarked : Spared guard (guard.markLost "HEARTBEAT_RENEWAL_MISMATCH") bound times :=
        spared_markLost guard fun h => absurd h (by decide)
      split_ifs with howned
      · exact Or.inl ⟨Spared.refl guard bound times, fun renewed h => by cases h⟩
      · exact Or.inl ⟨hmarked.lose, fun renewed h => by cases h⟩
    | some renewed =>
      dsimp only
      split_ifs with howned hexpired
      · refine Or.inl ⟨Spared.refl guard bound times, fun _ _ hnext => howned hnext.1⟩
      · have howned' : guard.status = .owned := not_not.mp howned
        refine Or.inl ⟨(spared_expired guard "HEARTBEAT_EXPIRED" hbound hexpired hnow).lose,
          fun _ _ hnext => ?_⟩
        rw [lose_of_owned howned', status_markLost howned' (by decide)] at hnext
        cases hnext.1
      · have howned' : guard.status = .owned := not_not.mp howned
        unfold Guard.acceptRenewal
        rw [if_neg howned]
        cases hrecord : guard.record with
        | none =>
          have hfail := spared_failRenewal guard isTransient hbound hretry
          refine Or.inl ⟨hfail, fun _ _ hnext => ?_⟩
          have hframe := congrArg Guard.record hfail.frame
          rw [hnext.2] at hframe
          simp [hrecord] at hframe
        | some held =>
          dsimp only
          by_cases hsame : Guard.sameOwnership held renewed = false
          · rw [if_pos hsame]
            have hlost : (guard.markLost "PERSISTED_OWNERSHIP_MISMATCH").status =
                .lost "PERSISTED_OWNERSHIP_MISMATCH" := status_markLost howned' (by decide)
            have hfail : (guard.markLost "PERSISTED_OWNERSHIP_MISMATCH").failRenewal
                expiresAtEpochMs retryAtEpochMs isTransient =
                  guard.markLost "PERSISTED_OWNERSHIP_MISMATCH" := by
              unfold Guard.failRenewal
              rw [if_pos (by rw [hlost]; simp)]
            simp only [Guard.loseAndThrow, hfail]
            refine Or.inl ⟨spared_markLost guard fun h => absurd h (by decide),
              fun _ _ hnext => ?_⟩
            rw [hlost] at hnext
            cases hnext.1
          · rw [if_neg hsame]
            exact Or.inr ⟨renewed, held, rfl, rfl, howned', rfl⟩

end Guards

/-! ### A process -/

/-- The row that an assertion read is not older than what the guard holds, if it still holds
anything: no renewal was accepted since the row was read. -/
def UpToDate (guard : Guard) (nowEpochMs : ℤ) (assertion : Assertion) : Prop :=
  match assertion.answer, (guard.assertLocallyHeld nowEpochMs).1 with
  | .ok (some record), .ok held => held.expiresAtEpochMs ≤ record.expiresAtEpochMs
  | _, _ => True

instance (guard : Guard) (nowEpochMs : ℤ) (assertion : Assertion) :
    Decidable (UpToDate guard nowEpochMs assertion) := by
  unfold UpToDate
  split <;> infer_instance

/-- The row of an assertion is up to date when it arrives. -/
def Fresh (process : Process) : Event → Prop
  | .resumeAssertion index nowEpochMs =>
    ∀ assertion ∈ process.assertions[index]?, UpToDate process.guard nowEpochMs assertion
  | _ => True

instance (process : Process) (event : Event) : Decidable (Fresh process event) := by
  unfold Fresh
  split <;> infer_instance

/-- A step does not put an older expiry back, and finds the guard expired only at a time that is not
before the expiry of the last renewal. -/
structure Remembers (process : Process) (event : Event) : Prop where
  lease : ∀ held ∈ process.guard.record, ∃ later ∈ (process.step event).guard.record,
    held.expiresAtEpochMs ≤ later.expiresAtEpochMs
  expired : (∀ reason, event ≠ .markLost reason) →
    (process.step event).guard.status ≠ process.guard.status →
    isExpired (process.step event).guard.status = true →
      ∃ t ∈ process.times event, process.accepted ≤ t

/-- The last renewal, the guard, the attempt and the assertions under way are not ahead of the row,
and at most one attempt is under way. -/
structure Ordered (process : Process) : Prop where
  lease : ∀ held ∈ process.guard.record, process.accepted ≤ held.expiresAtEpochMs
  row : ∀ held ∈ process.guard.record, ∀ row ∈ storedRow process.store,
    held.expiresAtEpochMs ≤ row.expiresAtEpochMs
  attempt : ∀ attempt ∈ process.inFlight, process.accepted ≤ attempt.expiresAtEpochMs ∧
    ∀ renewed, attempt.answer = .ok (some renewed) → storedRow process.store = some renewed
  assertions : ∀ assertion ∈ process.assertions, ∀ record, assertion.answer = .ok (some record) →
    ∀ row ∈ storedRow process.store, record.expiresAtEpochMs ≤ row.expiresAtEpochMs
  timer : process.timerSet = true → process.inFlight = none
  idle : process.started = false → process.stopped = false →
    process.inFlight = none ∧ process.timerSet = false

section Processes

variable {process : Process} {next : Guard}

theorem UpToDate.le {guard : Guard} {nowEpochMs : ℤ} {assertion : Assertion}
    (h : UpToDate guard nowEpochMs assertion) {record held : RuntimeOwnershipRecord}
    (hanswer : assertion.answer = .ok (some record))
    (hheld : (guard.assertLocallyHeld nowEpochMs).1 = .ok held) :
    held.expiresAtEpochMs ≤ record.expiresAtEpochMs := by
  unfold UpToDate at h
  rw [hanswer, hheld] at h
  exact h

theorem Ordered.withGuard (h : Ordered process)
    (hlease : ∀ held ∈ next.record, process.accepted ≤ held.expiresAtEpochMs)
    (hrow : ∀ held ∈ next.record, ∀ row ∈ storedRow process.store,
      held.expiresAtEpochMs ≤ row.expiresAtEpochMs) : Ordered { process with guard := next } :=
  ⟨hlease, hrow, h.attempt, h.assertions, h.timer, h.idle⟩

theorem Spared.record_eq {guard : Guard} {bound : ℤ} {times : List ℤ}
    (h : Spared guard next bound times) : next.record = guard.record := by
  rw [h.frame]

theorem Ordered.spared (h : Ordered process) {bound : ℤ} {times : List ℤ}
    (hspared : Spared process.guard next bound times) : Ordered { process with guard := next } := by
  have hrecord := hspared.record_eq
  refine h.withGuard ?_ ?_
  · rw [hrecord]
    exact h.lease
  · rw [hrecord]
    exact h.row

theorem Ordered.takesNewer (h : Ordered process) (htakes : TakesNewer process.guard next record)
    (hrow : ∀ row ∈ storedRow process.store, record.expiresAtEpochMs ≤ row.expiresAtEpochMs) :
    Ordered { process with guard := next } := by
  obtain ⟨rfl, held, hheld, hnewer⟩ := htakes
  refine h.withGuard (fun other hother => ?_) (fun other hother => ?_)
  · rw [← Option.some.inj hother]
    exact (h.lease held hheld).trans hnewer
  · rw [← Option.some.inj hother]
    exact hrow

variable {event : Event}

theorem remembers_of_spared
    (h : Spared process.guard (process.step event).guard process.accepted (process.times event)) :
    Remembers process event := by
  refine ⟨fun held hheld => ?_, fun _ => h.expired⟩
  rw [h.record_eq]
  exact ⟨held, hheld, le_refl _⟩

theorem remembers_of_takesNewer (h : TakesNewer process.guard (process.step event).guard record) :
    Remembers process event := by
  obtain ⟨hnext, held, hheld, hnewer⟩ := h
  refine ⟨fun other hother => ?_, fun _ hne => ?_⟩
  · rw [hnext]
    rw [Option.mem_def.mp hheld] at hother
    rw [← Option.some.inj hother]
    exact ⟨record, rfl, hnewer⟩
  · rw [hnext] at hne
    exact absurd rfl hne

theorem remembers_of_same (h : (process.step event).guard = process.guard) :
    Remembers process event := by
  refine remembers_of_spared ?_
  rw [h]
  exact Spared.refl _ _ _

@[simp] theorem schedule_guard (process : Process) : process.schedule.guard = process.guard := by
  unfold Process.schedule
  split_ifs <;> rfl

theorem Ordered.schedule (h : Ordered process) (hnone : process.inFlight = none)
    (hstarted : process.started = true ∨ process.stopped = true) : Ordered process.schedule := by
  unfold Process.schedule
  split_ifs with hnot
  · exact h
  · refine ⟨h.lease, h.row, h.attempt, h.assertions, fun _ => hnone, fun hfirst hsecond => ?_⟩
    rcases hstarted with htrue | htrue
    · exact absurd (htrue.symm.trans hfirst) (by simp)
    · exact absurd (htrue.symm.trans hsecond) (by simp)

theorem Ordered.active (h : Ordered process)
    (hbusy : process.inFlight ≠ none ∨ process.timerSet = true) :
    process.started = true ∨ process.stopped = true := by
  by_contra hidle
  push Not at hidle
  obtain ⟨hnone, htimer⟩ := h.idle (Bool.eq_false_of_not_eq_true hidle.1)
    (Bool.eq_false_of_not_eq_true hidle.2)
  rcases hbusy with hbusy | hbusy
  · exact hbusy hnone
  · rw [htimer] at hbusy
    cases hbusy

/-! ### The steps -/

section

variable (h : Ordered process)
include h

theorem step_resumeAssertion (index : ℕ) (nowEpochMs : ℤ)
    (hfresh : Fresh process (.resumeAssertion index nowEpochMs)) :
    Remembers process (.resumeAssertion index nowEpochMs) ∧
      Ordered (process.step (.resumeAssertion index nowEpochMs)) := by
  cases hassertion : process.assertions[index]? with
  | none =>
    refine ⟨remembers_of_same ?_, ?_⟩
    · simp only [Process.step, hassertion]
    · simp only [Process.step, hassertion]
      exact h
  | some assertion =>
    have hstep : process.step (.resumeAssertion index nowEpochMs) =
        { process with
          guard := (process.guard.completeAssertCurrent assertion.expected assertion.answer
            assertion.atEpochMs nowEpochMs).2
          assertions := process.assertions.eraseIdx index } := by
      simp only [Process.step, hassertion]
    have herase : ∀ {guard : Guard}, Ordered { process with guard := guard } →
        Ordered { process with guard := guard, assertions := process.assertions.eraseIdx index } :=
      fun hordered => ⟨hordered.lease, hordered.row, hordered.attempt,
        fun other hother => hordered.assertions other (List.mem_of_mem_eraseIdx hother),
        hordered.timer, hordered.idle⟩
    have hcurrent : UpToDate process.guard nowEpochMs assertion := hfresh assertion hassertion
    have hnow : nowEpochMs ∈ process.times (.resumeAssertion index nowEpochMs) :=
      List.mem_cons_self ..
    have hat : assertion.atEpochMs ∈ process.times (.resumeAssertion index nowEpochMs) := by
      simp [Process.times, hassertion]
    obtain hspared | ⟨record, hanswer, htakes⟩ := completeAssertCurrent_spares process.guard
      assertion.expected h.lease (fun record held => hcurrent.le) hnow hat
    · refine ⟨remembers_of_spared ?_, ?_⟩
      · rw [hstep]
        exact hspared
      · rw [hstep]
        exact herase (h.spared hspared)
    · have hstepped : TakesNewer process.guard
          (process.step (.resumeAssertion index nowEpochMs)).guard record := by
        rw [hstep]
        exact htakes
      refine ⟨remembers_of_takesNewer hstepped, ?_⟩
      rw [hstep]
      exact herase (h.takesNewer htakes
        (h.assertions assertion (List.mem_of_getElem? hassertion) record hanswer))

theorem step_runWith (input : Guard.AssertCurrentExecutionAuthorityInput)
    (joined : Except String (Option PersistedExecutionState)) (nowEpochMs laterEpochMs : ℤ) :
    let event := Event.runWithCurrentExecutionAuthority input joined nowEpochMs laterEpochMs
    Remembers process event ∧ Ordered (process.step event) := by
  intro event
  have hread : ∀ held ∈ process.guard.record, ∀ authority,
      process.store.getCurrentExecutionAuthority joined = .ok (some authority) →
        held.expiresAtEpochMs ≤ authority.runtimeOwnership.expiresAtEpochMs :=
    fun held hheld authority hauthority =>
      h.row held hheld _ (storedRow_of_getCurrent <| getCurrent_of_authority hauthority)
  have hnow : nowEpochMs ∈ process.times event := List.mem_cons_self ..
  have hlater : laterEpochMs ∈ process.times event := by simp [event, Process.times]
  have hat : input.atEpochMs ∈ process.times event := by simp [event, Process.times]
  obtain hspared | ⟨authority, hauthority, htakes⟩ :=
    runWith_spares process.guard h.lease hread hnow hlater hat
  · exact ⟨remembers_of_spared hspared, h.spared hspared⟩
  · refine ⟨remembers_of_takesNewer htakes, h.takesNewer htakes fun row hrow => ?_⟩
    rw [Option.mem_def, storedRow_of_getCurrent <| getCurrent_of_authority hauthority] at hrow
    rw [Option.some.inj hrow]

theorem step_assertCurrent (atEpochMs nowEpochMs : ℤ) (fault : Option String) :
    Remembers process (.assertCurrent atEpochMs nowEpochMs fault) ∧
      Ordered (process.step (.assertCurrent atEpochMs nowEpochMs fault)) := by
  have hnow : nowEpochMs ∈ process.times (.assertCurrent atEpochMs nowEpochMs fault) :=
    List.mem_cons_self ..
  have hcases : (∃ e next, process.guard.beginAssertCurrent atEpochMs nowEpochMs =
        (.error e, next) ∧ Spared process.guard next process.accepted
          (process.times (.assertCurrent atEpochMs nowEpochMs fault))) ∨
      ∃ held, process.guard.beginAssertCurrent atEpochMs nowEpochMs =
        (.ok held, process.guard) := by
    unfold Guard.beginAssertCurrent
    cases Guard.validateAssertionTime atEpochMs with
    | error e => exact Or.inl ⟨_, _, rfl, Spared.refl _ _ _⟩
    | ok u =>
      obtain herror | ⟨held, heq, -⟩ := assertLocallyHeld_spares process.guard h.lease hnow
      · exact Or.inl herror
      · exact Or.inr ⟨held, heq⟩
  obtain ⟨e, next, heq, hspared⟩ | ⟨held, heq⟩ := hcases
  · have hstep : process.step (.assertCurrent atEpochMs nowEpochMs fault) =
        { process with guard := next } := by
      simp only [Process.step, heq]
    refine ⟨remembers_of_spared ?_, ?_⟩
    · rw [hstep]
      exact hspared
    · rw [hstep]
      exact h.spared hspared
  · refine ⟨remembers_of_same ?_, ?_⟩
    · simp only [Process.step, heq]
    · simp only [Process.step, heq]
      refine ⟨h.lease, h.row, h.attempt, fun assertion hmem record hanswer row hrow => ?_, h.timer,
        h.idle⟩
      rcases List.mem_append.mp hmem with hold | hnew
      · exact h.assertions assertion hold record hanswer row hrow
      · -- what is read now is the row
        rw [List.mem_singleton.mp hnew] at hanswer
        cases fault with
        | some e => cases hanswer
        | none =>
          have hread := storedRow_of_getCurrent hanswer
          rw [Option.mem_def, hread] at hrow
          rw [Option.some.inj hrow]

theorem ordered_attempt (hactive : process.started = true ∨ process.stopped = true)
    {lease : RuntimeOwnershipRecord} (hlease : process.guard.record = some lease) {after : Store}
    (hrenews : Renews process.store after answer) :
    Ordered { process with
      store := after, timerSet := false
      inFlight := some ⟨lease.expiresAtEpochMs, answer⟩ } := by
  have hgrows : ∀ value, (∀ row ∈ storedRow process.store, value ≤ row.expiresAtEpochMs) →
      ∀ row ∈ storedRow after, value ≤ row.expiresAtEpochMs := by
    intro value hvalue row hrow
    rcases hrenews with ⟨rfl, -⟩ | ⟨old, renewed, hold, hnew, -, hlt⟩
    · exact hvalue row hrow
    · rw [Option.mem_def, hnew] at hrow
      rw [← Option.some.inj hrow]
      exact (hvalue old hold).trans hlt.le
  refine ⟨h.lease, fun held hheld => hgrows _ (h.row held hheld), fun attempt hattempt => ?_,
    fun assertion hmem record hanswer => hgrows _ (h.assertions assertion hmem record hanswer),
    fun htimer => ?_, fun hstarted hstopped => ?_⟩
  · rw [← Option.some.inj hattempt]
    refine ⟨h.lease lease hlease, fun renewed hanswer => ?_⟩
    rcases hrenews with ⟨-, hnot⟩ | ⟨old, stored, -, hnew, rfl, -⟩
    · exact absurd hanswer (hnot renewed)
    · rw [hnew]
      exact Except.ok.inj hanswer
  · cases htimer
  · dsimp only at hstarted hstopped
    rw [hstarted, hstopped] at hactive
    simp at hactive

theorem step_timerFires (attemptedAtEpochMs nowEpochMs retryAtEpochMs : ℤ) (isTransient : Bool)
    (fault : Option String) :
    let event := Event.timerFires attemptedAtEpochMs nowEpochMs retryAtEpochMs isTransient fault
    Remembers process event ∧ Ordered (process.step event) := by
  intro event
  by_cases htimer : process.timerSet = false
  · have hstep : process.step event = process := by
      show (if process.timerSet = false then process else _) = process
      rw [if_pos htimer]
    exact ⟨remembers_of_same (by rw [hstep]), by rw [hstep]; exact h⟩
  have hset : process.timerSet = true := Bool.eq_true_of_not_eq_false htimer
  have hnone : process.inFlight = none := h.timer hset
  have hactive : process.started = true ∨ process.stopped = true := h.active (Or.inr hset)
  have hstep : process.step event = process.runScheduledAttempt attemptedAtEpochMs nowEpochMs
      retryAtEpochMs isTransient fault := by
    show (if process.timerSet = false then process else _) = _
    rw [if_neg htimer]
  have hfired : Ordered { process with timerSet := false } := by
    refine ⟨h.lease, h.row, h.attempt, h.assertions, fun hfalse => ?_, fun hstarted hstopped => ?_⟩
    · cases hfalse
    · exact ⟨hnone, rfl⟩
  by_cases hend : process.stopped = true ∨ process.guard.status ≠ .owned ∨
      process.guard.record = none
  · have hrun : process.step event = { process with timerSet := false } := by
      rw [hstep]
      unfold Process.runScheduledAttempt
      dsimp only
      rw [if_pos hend]
    exact ⟨remembers_of_same (by rw [hrun]), by rw [hrun]; exact hfired⟩
  have hattempted : attemptedAtEpochMs ∈ process.times event := List.mem_cons_self ..
  have hnow : nowEpochMs ∈ process.times event := by simp [event, Process.times]
  have hretry : retryAtEpochMs ∈ process.times event := by simp [event, Process.times]
  obtain ⟨next, heq, hspared⟩ | ⟨lease, heq, hlease⟩ :=
    beginRenewal_spares process.guard isTransient h.lease hattempted hnow hretry
  · -- the attempt ended before its call of the store
    have hrun : process.step event =
        Process.schedule { process with timerSet := false, guard := next } := by
      rw [hstep]
      unfold Process.runScheduledAttempt
      dsimp only
      rw [if_neg hend, heq]
    refine ⟨remembers_of_spared ?_, ?_⟩
    · rw [hrun, schedule_guard]
      exact hspared
    · rw [hrun]
      exact (hfired.spared hspared).schedule hnone hactive
  · have hrun : ∃ after answer, Renews process.store after answer ∧
        process.step event = { process with
          store := after
          timerSet := false
          inFlight := some ⟨lease.expiresAtEpochMs, answer⟩ } := by
      rw [hstep]
      unfold Process.runScheduledAttempt
      dsimp only
      rw [if_neg hend, heq]
      cases fault with
      | some e => exact ⟨_, _, Or.inl ⟨rfl, fun renewed h => by cases h⟩, rfl⟩
      | none => exact ⟨_, _, renews_store process.store _, rfl⟩
    obtain ⟨after, answer, hrenews, hrun⟩ := hrun
    refine ⟨remembers_of_same (by rw [hrun]), ?_⟩
    rw [hrun]
    exact ordered_attempt h hactive hlease hrenews

theorem step_resumeAttempt (nowEpochMs retryAtEpochMs : ℤ) (isTransient : Bool) :
    let event := Event.resumeAttempt nowEpochMs retryAtEpochMs isTransient
    Remembers process event ∧ Ordered (process.step event) := by
  intro event
  cases hattempt : process.inFlight with
  | none =>
    have hstep : process.step event = process := by
      simp only [event, Process.step, hattempt]
    exact ⟨remembers_of_same (by rw [hstep]), by rw [hstep]; exact h⟩
  | some attempt =>
    have hstep : process.step event =
        process.completeAttempt attempt nowEpochMs retryAtEpochMs isTransient := by
      simp only [event, Process.step, hattempt]
    have hactive : process.started = true ∨ process.stopped = true :=
      h.active (Or.inl (by rw [hattempt]; simp))
    obtain ⟨hlease, hrenewal⟩ := h.attempt attempt hattempt
    have hended : ∀ {guard : Guard} {accepted : ℤ},
        (∀ held ∈ guard.record, accepted ≤ held.expiresAtEpochMs) →
        (∀ held ∈ guard.record, ∀ row ∈ storedRow process.store,
          held.expiresAtEpochMs ≤ row.expiresAtEpochMs) →
        Ordered (Process.schedule
          { process with guard := guard, inFlight := none, accepted := accepted }) := by
      intro guard accepted hlease hrow
      have hordered : Ordered
          { process with guard := guard, inFlight := none, accepted := accepted } :=
        ⟨hlease, hrow, fun _ hmem => (nomatch hmem), h.assertions, fun _ => rfl,
          fun hstarted hstopped => ⟨rfl, (h.idle hstarted hstopped).2⟩⟩
      exact hordered.schedule rfl hactive
    have hnow : nowEpochMs ∈ process.times event := List.mem_cons_self ..
    have hretry : retryAtEpochMs ∈ process.times event := by simp [event, Process.times]
    obtain ⟨hspared, hnot⟩ | ⟨renewed, held, hanswer, hheld, howned, hnext⟩ :=
      completeRenewal_spares process.guard isTransient hlease hnow hretry
    · -- the renewal was not accepted
      have hrun : process.step event = Process.schedule { process with
          guard := process.guard.completeRenewal attempt.expiresAtEpochMs attempt.answer nowEpochMs
            retryAtEpochMs isTransient
          inFlight := none } := by
        rw [hstep]
        unfold Process.completeAttempt
        dsimp only
        split
        · next renewed hanswer => rw [if_neg (hnot renewed hanswer)]
        · rfl
      have hrecord := hspared.record_eq
      refine ⟨remembers_of_spared ?_, ?_⟩
      · rw [hrun, schedule_guard]
        exact hspared
      · rw [hrun]
        refine hended ?_ ?_
        · rw [hrecord]
          exact h.lease
        · rw [hrecord]
          exact h.row
    · -- the renewal is the row, since this attempt was the last to write it
      have hrow := hrenewal renewed hanswer
      have hrun : process.step event = Process.schedule { process with
          guard := { process.guard with record := some renewed }
          inFlight := none
          accepted := renewed.expiresAtEpochMs } := by
        rw [hstep]
        unfold Process.completeAttempt
        dsimp only
        rw [hnext, hanswer]
        dsimp only
        rw [if_pos ⟨howned, rfl⟩]
      have htakes : TakesNewer process.guard (process.step event).guard renewed := by
        rw [hrun, schedule_guard]
        exact ⟨rfl, held, hheld, h.row held hheld renewed hrow⟩
      refine ⟨remembers_of_takesNewer htakes, ?_⟩
      rw [hrun]
      refine hended (fun other hother => ?_) (fun other hother row hstored => ?_)
      · rw [← Option.some.inj hother]
      · rw [Option.mem_def, hrow] at hstored
        rw [← Option.some.inj hother, ← Option.some.inj hstored]

/-- **One step.** -/
theorem step_remembers (hfresh : Fresh process event) :
    Remembers process event ∧ Ordered (process.step event) := by
  cases event with
  | assertLocallyHeld nowEpochMs =>
    have hnow : nowEpochMs ∈ process.times (.assertLocallyHeld nowEpochMs) :=
      List.mem_cons_self ..
    obtain ⟨e, next, heq, hspared⟩ | ⟨held, heq, -, -⟩ :=
      assertLocallyHeld_spares process.guard h.lease hnow
    · have hstep : process.step (.assertLocallyHeld nowEpochMs) =
          { process with guard := next } := by
        simp only [Process.step, heq]
      refine ⟨remembers_of_spared ?_, ?_⟩
      · rw [hstep]
        exact hspared
      · rw [hstep]
        exact h.spared hspared
    · have hstep : process.step (.assertLocallyHeld nowEpochMs) = process := by
        simp only [Process.step, heq]
      exact ⟨remembers_of_same (by rw [hstep]), by rw [hstep]; exact h⟩
  | assertCurrent atEpochMs nowEpochMs fault =>
    exact step_assertCurrent h atEpochMs nowEpochMs fault
  | resumeAssertion index nowEpochMs => exact step_resumeAssertion h index nowEpochMs hfresh
  | runWithCurrentExecutionAuthority input joined nowEpochMs laterEpochMs =>
    exact step_runWith h input joined nowEpochMs laterEpochMs
  | start =>
    have hguard : process.start.guard = process.guard := by
      unfold Process.start
      split_ifs
      · rfl
      · rw [schedule_guard]
    refine ⟨remembers_of_same hguard, ?_⟩
    show Ordered process.start
    unfold Process.start
    split_ifs with hnot
    · exact h
    · push Not at hnot
      have hidle := h.idle (Bool.eq_false_of_not_eq_true hnot.2.1)
        (Bool.eq_false_of_not_eq_true hnot.1)
      have hstarted : Ordered { process with started := true } :=
        ⟨h.lease, h.row, h.attempt, h.assertions, h.timer, fun hfalse => by cases hfalse⟩
      exact hstarted.schedule hidle.1 (Or.inl rfl)
  | stop =>
    refine ⟨remembers_of_same rfl, h.lease, h.row, h.attempt, h.assertions, fun htimer => ?_,
      fun _ hstopped => ?_⟩
    · cases htimer
    · cases hstopped
  | timerFires attemptedAtEpochMs nowEpochMs retryAtEpochMs isTransient fault =>
    exact step_timerFires h attemptedAtEpochMs nowEpochMs retryAtEpochMs isTransient fault
  | resumeAttempt nowEpochMs retryAtEpochMs isTransient =>
    exact step_resumeAttempt h nowEpochMs retryAtEpochMs isTransient
  | markLost reason =>
    exact ⟨⟨fun held hheld => ⟨held, hheld, le_refl _⟩, fun hnot => absurd rfl (hnot reason)⟩,
      h.withGuard h.lease h.row⟩
  | processLock held =>
    exact ⟨⟨fun held hheld => ⟨held, hheld, le_refl _⟩, fun _ hne => absurd rfl hne⟩,
      h.withGuard h.lease h.row⟩

end

/-- After its acquisition the guard holds the row, or nothing. -/
theorem ordered_acquire (before : Store) (guardToken ownerToken : String)
    (executionMode : ExecutionMode) (acquiredAtEpochMs : ℤ) (lockHeld : Bool) :
    Ordered (Process.acquire before guardToken ownerToken executionMode acquiredAtEpochMs
      lockHeld) := by
  rcases hacquire : before.acquireAfterProcessLock
      ((Guard.create guardToken true).reserve.2.acquisitionInput executionMode acquiredAtEpochMs)
    with ⟨answer, store⟩
  have hrecord : ∀ held ∈ (({ (Guard.create guardToken true).reserve.2 with
      lockHeld := lockHeld }).completeAcquisition answer).2.record,
        storedRow store = some held := by
    intro held hheld
    obtain hsame | ⟨acquisition, rfl, hmarked | ⟨-, hnext⟩⟩ := completeAcquisition_cases
      { (Guard.create guardToken true).reserve.2 with lockHeld := lockHeld } answer
    · rw [hsame] at hheld
      cases hheld
    · rw [hmarked.frame] at hheld
      rw [storedRow_acquire hacquire, ← Option.some.inj hheld]
    · rw [hnext] at hheld
      rw [storedRow_acquire hacquire, ← Option.some.inj hheld]
  simp only [Process.acquire, hacquire]
  refine ⟨fun held hheld => ?_, fun held hheld row hrow => ?_, fun _ hmem => (nomatch hmem),
    fun _ hmem => (nomatch hmem), fun htimer => (nomatch htimer), fun _ _ => ⟨rfl, rfl⟩⟩
  · dsimp only
    rw [Option.mem_def.mp hheld]
    exact le_refl _
  · rw [Option.mem_def, hrecord held hheld] at hrow
    rw [Option.some.inj hrow]

end Processes

/-! ### Runs -/

/-- **A renewed lease is not forgotten** in the runs where the row that an assertion read is up to
date when it arrives. From the acquisition of a guard on, whatever is interleaved with its
heartbeat: the expiry that the guard holds never decreases, and a step finds the guard expired only
at a time that is not before the expiry of the last renewal it accepted. -/
theorem renewed_lease_remembered (before : Store) (guardToken ownerToken : String)
    (executionMode : ExecutionMode) (acquiredAtEpochMs : ℤ) (lockHeld : Bool)
    (history : List Event)
    (hfresh : SafeRun Process.step Fresh (Process.acquire before guardToken ownerToken executionMode
      acquiredAtEpochMs lockHeld) history) :
    let after := run Process.step
      (Process.acquire before guardToken ownerToken executionMode acquiredAtEpochMs lockHeld)
    (∀ earlier between later, history = earlier ++ between ++ later →
      ∀ held ∈ (after earlier).guard.record, ∃ current ∈ (after (earlier ++ between)).guard.record,
        held.expiresAtEpochMs ≤ current.expiresAtEpochMs) ∧
    ∀ earlier event later, history = earlier ++ event :: later →
      (∀ reason, event ≠ .markLost reason) →
      ((after earlier).step event).guard.status ≠ (after earlier).guard.status →
      isExpired ((after earlier).step event).guard.status = true →
        ∃ t ∈ (after earlier).times event, (after earlier).accepted ≤ t := by
  intro after
  have hstart := ordered_acquire before guardToken ownerToken executionMode acquiredAtEpochMs
    lockHeld
  have hreached : ∀ earlier later, history = earlier ++ later → Ordered (after earlier) := by
    rintro earlier later rfl
    exact (safeRun_append.mp hfresh).1.invariant Ordered
      (fun _ _ h hsafe => (step_remembers h hsafe).2) hstart
  refine ⟨fun earlier between later hsplit held hheld => ?_, fun earlier event later hsplit => ?_⟩
  · -- the expiry grows along the events in between
    rw [List.append_assoc] at hsplit
    have hordered := hreached earlier (between ++ later) hsplit
    rw [hsplit] at hfresh
    have hbetween := (safeRun_append.mp (safeRun_append.mp hfresh).2).1
    have hgrown := hbetween.invariant
      (fun process => Ordered process ∧ ∃ current ∈ process.guard.record,
        held.expiresAtEpochMs ≤ current.expiresAtEpochMs)
      (fun process event h hsafe => ?_) ⟨hordered, held, hheld, le_refl _⟩
    · show ∃ current ∈ (run Process.step _ (earlier ++ between)).guard.record, _
      rw [run_append]
      exact hgrown.2
    · obtain ⟨hordered, current, hcurrent, hle⟩ := h
      obtain ⟨hremembers, hnext⟩ := step_remembers hordered hsafe
      obtain ⟨later, hlater, hgrows⟩ := hremembers.lease current hcurrent
      exact ⟨hnext, later, hlater, hle.trans hgrows⟩
  · have hordered := hreached earlier (event :: later) hsplit
    rw [hsplit] at hfresh
    have hsafe := (safeRun_append.mp hfresh).2.1
    exact (step_remembers hordered hsafe).1.expired

/-- A guard that acquired at `1000`, its heartbeat, and an assertion of `10000`. -/
def asserting : Process :=
  Process.acquire (.inMemory .initial) exampleToken exampleToken .dryRun 1000 true

/-- The row arrives at the assertion before the renewal does. -/
def inOrder : List Event :=
  [.start, .assertCurrent 10000 10000 none, .resumeAssertion 0 10001,
    .timerFires 11000 11000 11000 false none, .resumeAttempt 11000 11000 false]

/-- The renewal is stored and accepted before the row arrives at the assertion. -/
def overtaken : List Event :=
  [.start, .assertCurrent 10000 10000 none, .timerFires 11000 11000 11000 false none,
    .resumeAttempt 11000 11000 false]

/-- In order, the guard holds the renewal, and is found expired when it runs out. -/
theorem renewed_lease_remembered_in_order :
    (∃ current ∈ (run Process.step asserting inOrder).guard.record,
      46000 ≤ current.expiresAtEpochMs) ∧
    ∃ t ∈ (run Process.step asserting inOrder).times (.assertLocallyHeld 56000),
      (run Process.step asserting inOrder).accepted ≤ t := by
  obtain ⟨hgrows, hexpired⟩ := renewed_lease_remembered (.inMemory .initial) exampleToken
    exampleToken .dryRun 1000 true (inOrder ++ [.assertLocallyHeld 56000]) (by decide +kernel)
  refine ⟨?_, hexpired inOrder _ [] rfl (fun _ h => by cases h) (by decide +kernel)
    (by decide +kernel)⟩
  have hacquired : ∃ held ∈ asserting.guard.record, held.expiresAtEpochMs = 46000 := by
    decide +kernel
  obtain ⟨held, hheld, hexpiry⟩ := hacquired
  rw [← hexpiry]
  exact hgrows [] inOrder [.assertLocallyHeld 56000] rfl held hheld

/-- Overtaken by the renewal, the assertion puts the older expiry back: the guard, which holds a
lease until `56000`, is found expired at `46000`. -/
theorem overtaken_assertion_forgets :
    (run Process.step asserting overtaken).guard.record.map (·.expiresAtEpochMs) = some 56000 ∧
    (run Process.step asserting overtaken).accepted = 56000 ∧
    (run Process.step asserting (overtaken ++ [.resumeAssertion 0 11001])).guard.status = .owned ∧
    (run Process.step asserting (overtaken ++ [.resumeAssertion 0 11001])).guard.record.map
      (·.expiresAtEpochMs) = some 46000 ∧
    (run Process.step asserting
      (overtaken ++ [.resumeAssertion 0 11001, .assertLocallyHeld 46000])).guard.status =
        .lost "OWNERSHIP_EXPIRED" ∧
    (run Process.step asserting
      (overtaken ++ [.resumeAssertion 0 11001, .assertLocallyHeld 46000])).accepted = 56000 := by
  decide +kernel

end AutoTrade.Runtime.LeaseMemory
