import AutoTrade.Db.OrderStore

/-! # The account execution lease store

`SqliteAccountExecutionLeaseStore`. An account has at most one lease row. A lease is given when no
order of the account blocks and the account has no row, or one that has expired; it is renewed and
released by its owner token alone. A written row meets the constraints of its table, or the statement
throws; those on the two times follow from `validateLeaseWindow`. -/

namespace AutoTrade.Db.LeaseStore

open Lib Lib.Text Lib.Result
open Domain.Types
open Db.Tables Db.OrderStore

structure AcquireAccountExecutionLeaseInput where
  exchangeAccountId : String
  ownerToken : String
  acquiredAtEpochMs : ℤ
  expiresAtEpochMs : ℤ

structure RenewAccountExecutionLeaseInput where
  exchangeAccountId : String
  ownerToken : String
  renewedAtEpochMs : ℤ
  expiresAtEpochMs : ℤ

/-- `Number.isSafeInteger` of an integer. -/
def isSafeInteger (n : ℤ) : Bool := -9007199254740991 ≤ n ∧ n ≤ 9007199254740991

def validateLeaseWindow (ownerToken : String) (atEpochMs expiresAtEpochMs : ℤ) :
    Except String Unit :=
  if isBlank ownerToken then .error "ownerToken must be a non-empty string."
  else if isSafeInteger atEpochMs = false ∨ atEpochMs < 0 then
    .error "Account execution lease time must be a non-negative safe integer."
  else if isSafeInteger expiresAtEpochMs = false ∨ expiresAtEpochMs ≤ atEpochMs then
    .error "Account execution lease expiry must be a safe integer after its operation time."
  else .ok ()

def selectLease (db : Database) (account : String) : Option AccountExecutionLeaseRecord :=
  Table.select AccountExecutionLeaseRecord.exchangeAccountId account db.accountExecutionLeases

def hasBlockingOrder (db : Database) (account : String) : Bool :=
  (blockingOrders db account) ≠ []

def leaseFromInput (input : AcquireAccountExecutionLeaseInput) : AccountExecutionLeaseRecord :=
  ⟨input.exchangeAccountId, input.ownerToken, input.acquiredAtEpochMs, input.expiresAtEpochMs⟩

/-- `UPDATE account_execution_leases SET … WHERE …`, with the number of rows it changed. -/
def updateLeases (db : Database) (p : AccountExecutionLeaseRecord → Bool)
    (f : AccountExecutionLeaseRecord → AccountExecutionLeaseRecord) : Database × ℕ :=
  ({ db with accountExecutionLeases := Table.update p f db.accountExecutionLeases },
    (db.accountExecutionLeases.filter p).length)

/-- SQLite's `length(text)`: it counts to the first NUL character. -/
def sqliteLength (text : String) : ℕ := (text.toList.takeWhile (· ≠ '\x00')).length

/-- `CHECK (length(owner_token) > 0)`. -/
def checkOwnerToken (ownerToken : String) : Except String Unit :=
  if sqliteLength ownerToken > 0 then .ok ()
  else .error "CHECK constraint failed: length(owner_token) > 0"

/-- `FOREIGN KEY (exchange_account_id) REFERENCES exchange_accounts(id)`. -/
def checkExchangeAccount (db : Database) (account : String) : Except String Unit :=
  if account ∈ db.exchangeAccounts then .ok () else .error "FOREIGN KEY constraint failed"

def acquireLease (db : Database) (input : AcquireAccountExecutionLeaseInput) :
    Except String (Option AccountExecutionLeaseRecord × Database) := do
  validateLeaseWindow input.ownerToken input.acquiredAtEpochMs input.expiresAtEpochMs
  if hasBlockingOrder db input.exchangeAccountId then .ok (none, db)
  else
    match selectLease db input.exchangeAccountId with
    | none => do
      checkOwnerToken input.ownerToken
      checkExchangeAccount db input.exchangeAccountId
      .ok (some (leaseFromInput input),
        { db with
          accountExecutionLeases := db.accountExecutionLeases ++ [leaseFromInput input] })
    | some current =>
      if current.expiresAtEpochMs > input.acquiredAtEpochMs then .ok (none, db)
      else
        let update := updateLeases db
          (fun row => row.exchangeAccountId = input.exchangeAccountId ∧
            row.ownerToken = current.ownerToken ∧ row.expiresAtEpochMs ≤ input.acquiredAtEpochMs)
          (fun row => { leaseFromInput input with exchangeAccountId := row.exchangeAccountId })
        (if update.2 = 0 then .ok () else checkOwnerToken input.ownerToken)
        .ok (if update.2 = 1 then some (leaseFromInput input) else none, update.1)

def renewLease (db : Database) (input : RenewAccountExecutionLeaseInput) :
    Except String (Option AccountExecutionLeaseRecord × Database) := do
  validateLeaseWindow input.ownerToken input.renewedAtEpochMs input.expiresAtEpochMs
  let update := updateLeases db
    (fun row => row.exchangeAccountId = input.exchangeAccountId ∧
      row.ownerToken = input.ownerToken ∧ row.expiresAtEpochMs > input.renewedAtEpochMs ∧
      row.expiresAtEpochMs < input.expiresAtEpochMs)
    (fun row => { row with expiresAtEpochMs := input.expiresAtEpochMs })
  if update.2 ≠ 1 then .ok (none, update.1)
  else .ok (selectLease update.1 input.exchangeAccountId, update.1)

def releaseLease (db : Database) (account ownerToken : String) : Bool × Database :=
  if isBlank ownerToken then (false, db)
  else
    let held := fun row : AccountExecutionLeaseRecord =>
      row.exchangeAccountId = account ∧ row.ownerToken = ownerToken
    ((db.accountExecutionLeases.filter held).length = 1,
      { db with accountExecutionLeases := db.accountExecutionLeases.filter fun row => !held row })

/-! ### What the lease operations do -/

/-- `exchange_account_id` is the primary key of the lease table. -/
def OneLeasePerAccount (db : Database) : Prop :=
  (db.accountExecutionLeases.map AccountExecutionLeaseRecord.exchangeAccountId).Nodup

/-- The account has a lease, and it is the one of `token`. -/
def HeldBy (db : Database) (account token : String) : Prop :=
  ∃ row ∈ db.accountExecutionLeases, row.exchangeAccountId = account ∧ row.ownerToken = token

/-- No one but `token` has a lease of the account. -/
def HeldByNoOther (db : Database) (account token : String) : Prop :=
  ∀ row ∈ db.accountExecutionLeases, row.exchangeAccountId = account → row.ownerToken = token

variable {account token : String}

theorem HeldBy.noOther {db : Database} (hkey : OneLeasePerAccount db)
    (h : HeldBy db account token) : HeldByNoOther db account token := by
  intro row hrow haccount
  obtain ⟨held, hheld, hheldAccount, htoken⟩ := h
  have heq : row = held :=
    List.inj_on_of_nodup_map hkey hrow hheld (haccount.trans hheldAccount.symm)
  rw [heq]
  exact htoken

/-- The same tokens hold the same accounts. -/
def SameHolders (db db' : Database) : Prop :=
  db'.accountExecutionLeases.map (fun row => (row.exchangeAccountId, row.ownerToken)) =
    db.accountExecutionLeases.map fun row => (row.exchangeAccountId, row.ownerToken)

theorem heldBy_iff {db : Database} :
    HeldBy db account token ↔ (account, token) ∈
      db.accountExecutionLeases.map fun row => (row.exchangeAccountId, row.ownerToken) := by
  simp [HeldBy]

variable {db db' : Database}

theorem SameHolders.heldBy (h : SameHolders db db') :
    HeldBy db' account token ↔ HeldBy db account token := by
  rw [heldBy_iff, heldBy_iff, h]

theorem SameHolders.noOther (h : SameHolders db db') (hno : HeldByNoOther db account token) :
    HeldByNoOther db' account token := by
  intro row hrow haccount
  have hheld : HeldBy db account row.ownerToken := h.heldBy.mp ⟨row, hrow, haccount, rfl⟩
  obtain ⟨old, hold, holdAccount, htoken⟩ := hheld
  rw [← htoken]
  exact hno old hold holdAccount

theorem SameHolders.oneLeasePerAccount (h : SameHolders db db') (hkey : OneLeasePerAccount db) :
    OneLeasePerAccount db' := by
  have hfst := congrArg (List.map Prod.fst) h
  rw [List.map_map, List.map_map] at hfst
  exact (congrArg List.Nodup hfst).mpr hkey

/-- Only lease rows differ. -/
def OnlyLeases (db db' : Database) : Prop :=
  ∃ rows, db' = { db with accountExecutionLeases := rows }

theorem OnlyLeases.evidence (h : OnlyLeases db db') (id : String) : SameEvidence id db db' := by
  obtain ⟨rows, rfl⟩ := h
  exact ⟨rfl, rfl, rfl⟩

theorem updateLeases_keys {db : Database} {p : AccountExecutionLeaseRecord → Bool}
    (f : AccountExecutionLeaseRecord → AccountExecutionLeaseRecord)
    (hf : ∀ row, (f row).exchangeAccountId = row.exchangeAccountId) :
    (updateLeases db p f).1.accountExecutionLeases.map
        AccountExecutionLeaseRecord.exchangeAccountId =
      db.accountExecutionLeases.map AccountExecutionLeaseRecord.exchangeAccountId := by
  unfold updateLeases Table.update
  rw [List.map_map]
  refine List.map_congr_left fun row _ => ?_
  by_cases hp : p row = true <;> simp [hp, hf]

variable {lease : Option AccountExecutionLeaseRecord}

/-- What acquiring a lease can do: nothing, or, when no order of the account blocks, give it to the
caller. -/
theorem acquireLease_ok {input : AcquireAccountExecutionLeaseInput} (hkey : OneLeasePerAccount db)
    (h : acquireLease db input = .ok (lease, db')) :
    OnlyLeases db db' ∧ OneLeasePerAccount db' ∧
      (db' = db ∨ (blockingOrders db input.exchangeAccountId = [] ∧
        ∀ row ∈ db'.accountExecutionLeases, row ∈ db.accountExecutionLeases ∨
          row.exchangeAccountId = input.exchangeAccountId)) ∧
      (∀ row ∈ db.accountExecutionLeases, row.exchangeAccountId ≠ input.exchangeAccountId →
        row ∈ db'.accountExecutionLeases) := by
  unfold acquireLease at h
  obtain ⟨_, -, h⟩ := bind_eq_ok.mp h
  by_cases hblock : hasBlockingOrder db input.exchangeAccountId = true
  · rw [if_pos hblock] at h
    obtain ⟨-, rfl⟩ := Prod.mk.inj (Except.ok.inj h)
    exact ⟨⟨_, rfl⟩, hkey, Or.inl rfl, fun row hrow _ => hrow⟩
  · rw [if_neg hblock] at h
    have hfree : blockingOrders db input.exchangeAccountId = [] := by
      simpa [hasBlockingOrder] using hblock
    cases hselect : selectLease db input.exchangeAccountId with
    | none =>
      rw [hselect] at h
      dsimp only at h
      rw [then_eq_ok, then_eq_ok] at h
      obtain ⟨-, -, h⟩ := h
      obtain ⟨-, rfl⟩ := Prod.mk.inj (Except.ok.inj h)
      refine ⟨⟨_, rfl⟩, ?_, Or.inr ⟨hfree, ?_⟩, fun row hrow _ => List.mem_append_left _ hrow⟩
      · unfold OneLeasePerAccount
        rw [List.map_append, List.nodup_append]
        refine ⟨hkey, List.nodup_singleton _, ?_⟩
        intro account haccount account' haccount' heq
        obtain ⟨row, hrow, rfl⟩ := List.mem_map.mp haccount
        have hnone := List.find?_eq_none.mp hselect row hrow
        simp [leaseFromInput] at haccount' hnone
        exact hnone (heq.trans haccount')
      · intro row hrow
        rcases List.mem_append.mp hrow with hold | hnew
        · exact Or.inl hold
        · right
          rw [List.mem_singleton.mp hnew]
          rfl
    | some current =>
      rw [hselect] at h
      dsimp only at h
      by_cases hlive : current.expiresAtEpochMs > input.acquiredAtEpochMs
      · rw [if_pos hlive] at h
        obtain ⟨-, rfl⟩ := Prod.mk.inj (Except.ok.inj h)
        exact ⟨⟨_, rfl⟩, hkey, Or.inl rfl, fun row hrow _ => hrow⟩
      · rw [if_neg hlive, then_eq_ok] at h
        obtain ⟨-, h⟩ := h
        obtain ⟨-, rfl⟩ := Prod.mk.inj (Except.ok.inj h)
        refine ⟨⟨_, rfl⟩, ?_, Or.inr ⟨hfree, ?_⟩, ?_⟩
        · refine (congrArg List.Nodup (updateLeases_keys _ ?_)).mpr hkey
          intro row
          rfl
        · intro row hrow
          obtain ⟨old, hold, heq⟩ := List.mem_map.mp hrow
          dsimp only at heq
          split at heq
          · rename_i hp
            right
            rw [← heq]
            exact (of_decide_eq_true hp).1
          · left
            rw [← heq]
            exact hold
        · intro row hrow hne
          refine List.mem_map.mpr ⟨row, hrow, ?_⟩
          dsimp only
          rw [if_neg]
          simp [hne]

/-- What renewing a lease can do: push the expiry of the caller's own lease. -/
theorem renewLease_ok {input : RenewAccountExecutionLeaseInput}
    (h : renewLease db input = .ok (lease, db')) :
    OnlyLeases db db' ∧ SameHolders db db' ∧
      (lease.isSome → HeldBy db input.exchangeAccountId input.ownerToken) := by
  unfold renewLease at h
  obtain ⟨_, -, h⟩ := bind_eq_ok.mp h
  dsimp only at h
  generalize hp : (fun row : AccountExecutionLeaseRecord =>
    decide (row.exchangeAccountId = input.exchangeAccountId ∧
      row.ownerToken = input.ownerToken ∧ row.expiresAtEpochMs > input.renewedAtEpochMs ∧
      row.expiresAtEpochMs < input.expiresAtEpochMs)) = p at h
  have hkeys : ∀ f : AccountExecutionLeaseRecord → AccountExecutionLeaseRecord,
      (∀ row, ((f row).exchangeAccountId, (f row).ownerToken) =
        (row.exchangeAccountId, row.ownerToken)) →
      (updateLeases db p f).1.accountExecutionLeases.map
        (fun row => (row.exchangeAccountId, row.ownerToken)) =
      db.accountExecutionLeases.map (fun row => (row.exchangeAccountId, row.ownerToken)) := by
    intro f hf
    unfold updateLeases Table.update
    rw [List.map_map]
    refine List.map_congr_left fun row _ => ?_
    by_cases hrow : p row = true
    · simpa [hrow] using hf row
    · simp [hrow]
  split at h
  · obtain ⟨hlease, rfl⟩ := Prod.mk.inj (Except.ok.inj h)
    refine ⟨⟨_, rfl⟩, hkeys _ fun _ => rfl, ?_⟩
    rw [← hlease]
    simp
  · rename_i hone
    obtain ⟨-, rfl⟩ := Prod.mk.inj (Except.ok.inj h)
    refine ⟨⟨_, rfl⟩, hkeys _ fun _ => rfl, fun _ => ?_⟩
    have hlength : (db.accountExecutionLeases.filter p).length = 1 := not_not.mp hone
    obtain ⟨row, hrow⟩ := List.length_eq_one_iff.mp hlength
    have hmem : row ∈ db.accountExecutionLeases.filter p := by simp [hrow]
    obtain ⟨hin, hpred⟩ := List.mem_filter.mp hmem
    rw [← hp] at hpred
    have hparts := of_decide_eq_true hpred
    exact ⟨row, hin, hparts.1, hparts.2.1⟩

theorem releaseLease_effect (db : Database) (account token : String) :
    OnlyLeases db (releaseLease db account token).2 ∧
      List.Sublist (releaseLease db account token).2.accountExecutionLeases
        db.accountExecutionLeases ∧
      ∀ row ∈ db.accountExecutionLeases, row.exchangeAccountId ≠ account ∨
        row.ownerToken ≠ token → row ∈ (releaseLease db account token).2.accountExecutionLeases := by
  unfold releaseLease
  split
  · exact ⟨⟨_, rfl⟩, List.Sublist.refl _, fun row hrow _ => hrow⟩
  · refine ⟨⟨_, rfl⟩, List.filter_sublist, ?_⟩
    intro row hrow hother
    refine List.mem_filter.mpr ⟨hrow, ?_⟩
    rcases hother with ha | ht
    · simp [ha]
    · simp [ht]

end AutoTrade.Db.LeaseStore
