import AutoTrade.Db.LeaseStore
import AutoTrade.Lib.Run
import Mathlib.Data.List.TakeWhile

/-! # The two lease stores

`InMemoryAccountExecutionLeaseStore` keeps its leases in a map and asks a function for the order
evidence of an account; `SqliteAccountExecutionLeaseStore` keeps them in a table and reads the order
rows. `Agrees` is what the two have in common between calls, `agrees_call` that a call answers
alike on both and keeps it where the table can take the lease asked for (`Storable`), and the leases of
either exclude each other: none is given while one is unexpired or an order blocks, and no call
shortens one. -/

namespace AutoTrade.Db.LeaseAgreement

open Lib Lib.Text Lib.Result Lib.Run
open Domain.Types Domain.SubmissionBlocking
open Db.Tables Db.OrderStore Db.LeaseStore

/-! ### The order evidence -/

structure SubmissionBlockingOrderEvidence where
  order : OrderRecord
  events : List OrderEventRecord
  recoveryObservations : List OrderSubmissionRecoveryObservationRecord

/-- `classifySubmissionBlockingOrder(evidence).blocking`. -/
def SubmissionBlockingOrderEvidence.blocking (evidence : SubmissionBlockingOrderEvidence) : Bool :=
  (classifySubmissionBlockingOrder evidence.order evidence.events
    evidence.recoveryObservations).blocking

/-- What the tables hold about an order. -/
def evidenceOf (db : Database) (order : OrderRecord) : SubmissionBlockingOrderEvidence :=
  ⟨order, getOrderEventsForOrder db order.id, getRecoveryObservationsForOrder db order.id⟩

/-- The `listOrderEvidence` given to the in-memory store: the evidence of the orders of the account,
in whatever order. -/
structure OrderEvidenceReader where
  list : Database → String → List SubmissionBlockingOrderEvidence
  mem_list : ∀ db account evidence, evidence ∈ list db account ↔
    ∃ order ∈ db.orders, order.exchangeAccountId = account ∧ evidenceOf db order = evidence

/-- The orders of the account in the order of their rows. -/
instance : Inhabited OrderEvidenceReader where
  default :=
    { list := fun db account =>
        (db.orders.filter fun order => order.exchangeAccountId = account).map (evidenceOf db)
      mem_list := by simp [and_assoc] }

variable {account : String} {db : Database}

theorem hasBlockingOrder_iff :
    hasBlockingOrder db account = true ↔ ∃ order ∈ db.orders,
      order.exchangeAccountId = account ∧ (classify db order).blocking = true := by
  unfold hasBlockingOrder
  rw [decide_eq_true_iff, ne_eq, List.eq_nil_iff_forall_not_mem, not_forall_not]
  constructor
  · rintro ⟨order, horder⟩
    obtain ⟨hsorted, hblocking⟩ := List.mem_filter.mp horder
    have hrow := List.mem_filter.mp ((List.mem_insertionSort _).mp hsorted)
    have haccount := of_decide_eq_true hrow.2
    exact ⟨order, hrow.1, haccount.1, hblocking⟩
  · rintro ⟨order, hrow, haccount, hblocking⟩
    have hcandidate := candidate_of_blocking hblocking
    refine ⟨order, List.mem_filter.mpr ⟨(List.mem_insertionSort _).mpr ?_, hblocking⟩⟩
    exact List.mem_filter.mpr ⟨hrow, decide_eq_true ⟨haccount, hcandidate⟩⟩

variable (reader : OrderEvidenceReader)

theorem any_blocking_eq (db : Database) (account : String) :
    (reader.list db account).any SubmissionBlockingOrderEvidence.blocking =
      hasBlockingOrder db account := by
  rw [Bool.eq_iff_iff, List.any_eq_true, hasBlockingOrder_iff]
  constructor
  · rintro ⟨evidence, hmem, hblocking⟩
    obtain ⟨order, hrow, haccount, rfl⟩ := (reader.mem_list ..).mp hmem
    exact ⟨order, hrow, haccount, hblocking⟩
  · rintro ⟨order, hrow, haccount, hblocking⟩
    exact ⟨evidenceOf db order, (reader.mem_list ..).mpr ⟨order, hrow, haccount, rfl⟩, hblocking⟩

/-! ### The in-memory store -/

/-- The leases of `InMemoryAccountExecutionLeaseStore`, by account. -/
abbrev Leases := String → Option AccountExecutionLeaseRecord

namespace InMemory

def acquireLease (listOrderEvidence : String → List SubmissionBlockingOrderEvidence)
    (leases : Leases) (input : AcquireAccountExecutionLeaseInput) :
    Except String (Option AccountExecutionLeaseRecord × Leases) := do
  validateLeaseWindow input.ownerToken input.acquiredAtEpochMs input.expiresAtEpochMs
  let current := leases input.exchangeAccountId
  if (listOrderEvidence input.exchangeAccountId).any SubmissionBlockingOrderEvidence.blocking then
    .ok (none, leases)
  else if current.any fun current => current.expiresAtEpochMs > input.acquiredAtEpochMs then
    .ok (none, leases)
  else
    let lease := leaseFromInput input
    .ok (some lease, Function.update leases input.exchangeAccountId (some lease))

def renewLease (leases : Leases) (input : RenewAccountExecutionLeaseInput) :
    Except String (Option AccountExecutionLeaseRecord × Leases) := do
  validateLeaseWindow input.ownerToken input.renewedAtEpochMs input.expiresAtEpochMs
  match leases input.exchangeAccountId with
  | none => .ok (none, leases)
  | some current =>
    if current.ownerToken ≠ input.ownerToken ∨ current.expiresAtEpochMs ≤ input.renewedAtEpochMs ∨
        current.expiresAtEpochMs ≥ input.expiresAtEpochMs then .ok (none, leases)
    else
      let renewed := { current with expiresAtEpochMs := input.expiresAtEpochMs }
      .ok (some renewed, Function.update leases input.exchangeAccountId (some renewed))

def releaseLease (leases : Leases) (account ownerToken : String) : Bool × Leases :=
  match leases account with
  | none => (false, leases)
  | some current =>
    if current.ownerToken ≠ ownerToken then (false, leases)
    else (true, Function.update leases account none)

end InMemory

/-! ### What the stores have in common -/

/-- The table has the leases of the map, and no lease has a blank token. -/
structure Agrees (db : Database) (leases : Leases) : Prop where
  oneLease : OneLeasePerAccount db
  lease : ∀ account, leases account = selectLease db account
  token : ∀ account lease, leases account = some lease → isBlank lease.ownerToken = false

/-- Both calls threw the same error, or both returned the same lease and the stores still agree. -/
def AgreeOn (sqlite : Except String (Option AccountExecutionLeaseRecord × Database))
    (memory : Except String (Option AccountExecutionLeaseRecord × Leases)) : Prop :=
  match sqlite, memory with
  | .ok (lease, db), .ok (lease', leases) => lease = lease' ∧ Agrees db leases
  | .error e, .error e' => e = e'
  | _, _ => False

theorem validateLeaseWindow_eq_ok {ownerToken : String} {at' expires : ℤ} {u : Unit}
    (h : validateLeaseWindow ownerToken at' expires = .ok u) :
    isBlank ownerToken = false ∧ at' < expires := by
  unfold validateLeaseWindow at h
  split_ifs at h with hblank hat hexpires
  refine ⟨by simpa using hblank, ?_⟩
  rw [not_or] at hexpires
  omega

section

variable {db : Database} {leases : Leases} {q : AccountExecutionLeaseRecord → Bool}

/-- The row of the account is replaced under a condition that the selected row meets. -/
theorem Agrees.replace (h : Agrees db leases) {current : AccountExecutionLeaseRecord}
    (hcurrent : leases account = some current) (replaced : AccountExecutionLeaseRecord)
    (hblank : isBlank replaced.ownerToken = false) (hq : q current = true)
    {f : AccountExecutionLeaseRecord → AccountExecutionLeaseRecord}
    (hf : ∀ row, (f row).exchangeAccountId = row.exchangeAccountId) (hrow : f current = replaced) :
    (updateLeases db (fun row => row.exchangeAccountId = account ∧ q row) f).2 = 1 ∧
      Agrees (updateLeases db (fun row => row.exchangeAccountId = account ∧ q row) f).1
        (Function.update leases account (some replaced)) := by
  have hselect : selectLease db account = some current := (h.lease account).symm.trans hcurrent
  have hkey : current.exchangeAccountId = account := Table.key_of_select hselect
  have hcount := Table.length_filter_key h.oneLease account q
  refine ⟨?_, (congrArg List.Nodup (updateLeases_keys _ hf)).mpr h.oneLease, fun other => ?_,
    fun other lease hlease => ?_⟩
  · have hany : (Table.select AccountExecutionLeaseRecord.exchangeAccountId account
        db.accountExecutionLeases).any q = true := by
      change (selectLease db account).any q = true
      rw [hselect]
      exact hq
    rw [hany, if_pos rfl] at hcount
    exact hcount
  · have hupdated := Table.select_update
      (p := fun row => decide (row.exchangeAccountId = account ∧ q row = true)) hf other
      db.accountExecutionLeases
    change _ = Table.select _ other (Table.update _ f db.accountExecutionLeases)
    rw [hupdated]
    change _ = (selectLease db other).map _
    by_cases hother : other = account
    · rw [hother, Function.update_self, hselect]
      simp [hkey, hq, hrow]
    · rw [Function.update_of_ne hother, h.lease other]
      cases hold : selectLease db other with
      | none => rfl
      | some row =>
        have hne : row.exchangeAccountId ≠ account :=
          fun heq => hother ((Table.key_of_select hold).symm.trans heq)
        simp [hne]
  · by_cases hother : other = account
    · rw [hother, Function.update_self] at hlease
      rw [← Option.some.inj hlease]
      exact hblank
    · rw [Function.update_of_ne hother] at hlease
      exact h.token other lease hlease

/-- An update whose condition the row of the account does not meet changes no row. -/
theorem Agrees.keep (h : Agrees db leases) (account : String) (hq : (leases account).any q = false)
    (f : AccountExecutionLeaseRecord → AccountExecutionLeaseRecord) :
    updateLeases db (fun row => row.exchangeAccountId = account ∧ q row) f = (db, 0) := by
  have hcount := Table.length_filter_key h.oneLease account q
  have hany : (Table.select AccountExecutionLeaseRecord.exchangeAccountId account
      db.accountExecutionLeases).any q = false := by
    change (selectLease db account).any q = false
    rw [← h.lease account]
    exact hq
  rw [hany, if_neg (by decide)] at hcount
  have hnone := List.filter_eq_nil_iff.mp (List.eq_nil_of_length_eq_zero hcount)
  have hrows : Table.update (fun row => decide (row.exchangeAccountId = account ∧ q row = true)) f
      db.accountExecutionLeases = db.accountExecutionLeases := by
    unfold Table.update
    calc db.accountExecutionLeases.map _
        = db.accountExecutionLeases.map id :=
          List.map_congr_left fun row hrow => if_neg (hnone row hrow)
      _ = db.accountExecutionLeases := List.map_id _
  unfold updateLeases
  rw [hrows, hcount]

end

variable {leases : Leases}

/-- The lease table can hold the lease asked for: the account has its row among `accounts`, and no text
has a NUL, where the texts of SQLite end. -/
structure Storable (accounts : List String) (input : AcquireAccountExecutionLeaseInput) : Prop where
  account : input.exchangeAccountId ∈ accounts
  accountText : '\x00' ∉ input.exchangeAccountId.toList
  tokenText : '\x00' ∉ input.ownerToken.toList

theorem sqliteLength_pos {text : String} (hblank : isBlank text = false)
    (h : '\x00' ∉ text.toList) : 0 < sqliteLength text := by
  have hall : text.toList.takeWhile (· ≠ '\x00') = text.toList :=
    List.takeWhile_eq_self_iff.mpr fun c hc => decide_eq_true fun heq => h (heq ▸ hc)
  unfold sqliteLength
  rw [hall, List.length_pos_iff]
  intro hnil
  rw [isBlank, hnil] at hblank
  exact absurd hblank (by decide)

/-- Taking a lease: both stores ask for no blocking order and no unexpired lease. -/
theorem agreeOn_acquire (h : Agrees db leases) {input : AcquireAccountExecutionLeaseInput}
    (hstorable : Storable db.exchangeAccounts input) :
    AgreeOn (acquireLease db input)
      (InMemory.acquireLease (reader.list db) leases input) := by
  unfold acquireLease InMemory.acquireLease
  rcases hwindow : validateLeaseWindow input.ownerToken input.acquiredAtEpochMs
    input.expiresAtEpochMs with e | u
  · rfl
  obtain ⟨hblank, hlater⟩ := validateLeaseWindow_eq_ok hwindow
  have hchecked : checkOwnerToken input.ownerToken = .ok () :=
    if_pos (sqliteLength_pos hblank hstorable.tokenText)
  have hreferenced : checkExchangeAccount db input.exchangeAccountId = .ok () :=
    if_pos hstorable.account
  rw [ok_bind, ok_bind, any_blocking_eq reader]
  dsimp only
  by_cases hblock : hasBlockingOrder db input.exchangeAccountId = true
  · rw [if_pos hblock, if_pos hblock]
    exact ⟨rfl, h⟩
  rw [if_neg hblock, if_neg hblock]
  rcases hcurrent : leases input.exchangeAccountId with _ | current
  · have hselect : selectLease db input.exchangeAccountId = none :=
      (h.lease _).symm.trans hcurrent
    rw [hselect]
    dsimp only
    rw [hchecked, hreferenced, ok_bind, ok_bind]
    refine ⟨rfl, ?_, fun other => ?_, fun other lease hlease => ?_⟩
    · have hnew : ∀ row ∈ db.accountExecutionLeases,
          row.exchangeAccountId ≠ input.exchangeAccountId := fun row hrow => by
        simpa using List.find?_eq_none.mp hselect row hrow
      unfold OneLeasePerAccount
      rw [List.map_append, List.nodup_append]
      refine ⟨h.oneLease, List.nodup_singleton _, ?_⟩
      intro account haccount account' haccount' heq
      obtain ⟨row, hrow, rfl⟩ := List.mem_map.mp haccount
      exact hnew row hrow (heq.trans (List.mem_singleton.mp haccount'))
    · change _ = Table.select _ other (db.accountExecutionLeases ++ [leaseFromInput input])
      rw [Table.select_append]
      change _ = (selectLease db other).or _
      by_cases hother : other = input.exchangeAccountId
      · rw [hother, Function.update_self, hselect]
        simp [Table.select_cons, leaseFromInput]
      · have hne : ¬ input.exchangeAccountId = other := fun heq => hother heq.symm
        rw [Function.update_of_ne hother, h.lease other]
        simp [leaseFromInput, hne, Table.select]
    · by_cases hother : other = input.exchangeAccountId
      · rw [hother, Function.update_self] at hlease
        rw [← Option.some.inj hlease]
        exact hblank
      · rw [Function.update_of_ne hother] at hlease
        exact h.token other lease hlease
  · have hselect : selectLease db input.exchangeAccountId = some current :=
      (h.lease _).symm.trans hcurrent
    have hkey : current.exchangeAccountId = input.exchangeAccountId := Table.key_of_select hselect
    rw [hselect]
    dsimp only
    by_cases hlive : current.expiresAtEpochMs > input.acquiredAtEpochMs
    · rw [if_pos hlive, if_pos (by simp [hlive])]
      exact ⟨rfl, h⟩
    · have hmemory : ¬ (some current).any (fun row : AccountExecutionLeaseRecord =>
          row.expiresAtEpochMs > input.acquiredAtEpochMs) = true := by simpa using hlive
      rw [if_neg hlive, if_neg hmemory]
      -- the guards of the statement are those the selected row has already passed
      have hexpired : current.expiresAtEpochMs ≤ input.acquiredAtEpochMs := by omega
      obtain ⟨hone, hagrees⟩ := h.replace hcurrent (leaseFromInput input) hblank
        (q := fun row => row.ownerToken = current.ownerToken ∧
          row.expiresAtEpochMs ≤ input.acquiredAtEpochMs)
        (f := fun row => { leaseFromInput input with exchangeAccountId := row.exchangeAccountId })
        (by simp [hexpired]) (fun _ => rfl) (by simp [hkey, leaseFromInput])
      simp only [decide_eq_true_eq] at hone hagrees
      rw [hone, if_pos rfl, if_neg (by decide), hchecked, ok_bind]
      exact ⟨rfl, hagrees⟩

theorem agreeOn_renew (h : Agrees db leases) (input : RenewAccountExecutionLeaseInput) :
    AgreeOn (renewLease db input) (InMemory.renewLease leases input) := by
  unfold renewLease InMemory.renewLease
  rcases hwindow : validateLeaseWindow input.ownerToken input.renewedAtEpochMs
    input.expiresAtEpochMs with e | u
  · rfl
  rw [ok_bind, ok_bind]
  dsimp only
  have hkeep := fun hq => h.keep input.exchangeAccountId
    (q := fun row => row.ownerToken = input.ownerToken ∧
      row.expiresAtEpochMs > input.renewedAtEpochMs ∧
      row.expiresAtEpochMs < input.expiresAtEpochMs) hq
    (fun row => { row with expiresAtEpochMs := input.expiresAtEpochMs })
  simp only [decide_eq_true_eq] at hkeep
  rcases hcurrent : leases input.exchangeAccountId with _ | current
  · rw [hkeep (by rw [hcurrent]; rfl)]
    exact ⟨rfl, h⟩
  dsimp only
  by_cases hrefused : current.ownerToken ≠ input.ownerToken ∨
      current.expiresAtEpochMs ≤ input.renewedAtEpochMs ∨
      current.expiresAtEpochMs ≥ input.expiresAtEpochMs
  · rw [if_pos hrefused, hkeep]
    · exact ⟨rfl, h⟩
    · rw [hcurrent]
      refine decide_eq_false fun hall => ?_
      obtain ⟨howner, hlive, hless⟩ := hall
      rcases hrefused with hother | hpast | hshorter
      · exact hother howner
      · omega
      · omega
  · rw [if_neg hrefused]
    have hall : current.ownerToken = input.ownerToken ∧
        current.expiresAtEpochMs > input.renewedAtEpochMs ∧
        current.expiresAtEpochMs < input.expiresAtEpochMs := by
      rw [not_or, not_or, not_not, not_le, not_le] at hrefused
      exact hrefused
    have htoken : isBlank current.ownerToken = false := h.token _ _ hcurrent
    obtain ⟨hone, hagrees⟩ := h.replace hcurrent
      { current with expiresAtEpochMs := input.expiresAtEpochMs } htoken
      (q := fun row => row.ownerToken = input.ownerToken ∧
        row.expiresAtEpochMs > input.renewedAtEpochMs ∧
        row.expiresAtEpochMs < input.expiresAtEpochMs)
      (f := fun row => { row with expiresAtEpochMs := input.expiresAtEpochMs })
      (decide_eq_true hall) (fun _ => rfl) rfl
    simp only [decide_eq_true_eq] at hone hagrees
    rw [hone, if_neg (by decide)]
    refine ⟨?_, hagrees⟩
    rw [← hagrees.lease, Function.update_self]

theorem memory_release_eq (leases : Leases) (account ownerToken : String) :
    InMemory.releaseLease leases account ownerToken =
      ((leases account).any fun row => row.ownerToken = ownerToken, fun other =>
        if other = account then
          (leases account).filter fun row => !decide (row.ownerToken = ownerToken)
        else leases other) := by
  unfold InMemory.releaseLease
  rcases hcurrent : leases account with _ | current
  · refine Prod.ext rfl (funext fun other => ?_)
    by_cases hother : other = account <;> simp [hother, hcurrent]
  · by_cases howner : current.ownerToken = ownerToken
    · refine Prod.ext (by simp [howner]) (funext fun other => ?_)
      by_cases hother : other = account <;> simp [hother, howner, Option.filter_some]
    · refine Prod.ext (by simp [howner]) (funext fun other => ?_)
      by_cases hother : other = account <;> simp [hother, hcurrent, howner, Option.filter_some]

/-- A blank token is refused by the SQLite store, and is the token of no lease. -/
theorem agrees_release (h : Agrees db leases) (account ownerToken : String) :
    (releaseLease db account ownerToken).1 = (InMemory.releaseLease leases account ownerToken).1 ∧
      Agrees (releaseLease db account ownerToken).2
        (InMemory.releaseLease leases account ownerToken).2 := by
  rw [memory_release_eq]
  unfold releaseLease
  by_cases hblank : isBlank ownerToken = true
  · have hother : ∀ row, leases account = some row → row.ownerToken ≠ ownerToken := by
      rintro row hrow rfl
      rw [h.token account row hrow] at hblank
      exact absurd hblank (by decide)
    have hsame : (fun other => if other = account then
        (leases account).filter fun row => !decide (row.ownerToken = ownerToken)
        else leases other) = leases := by
      funext other
      by_cases heq : other = account
      · rw [if_pos heq, heq]
        rcases hrow : leases account with _ | row
        · rfl
        · rw [Option.filter_some, decide_eq_false (hother row hrow)]
          rfl
      · rw [if_neg heq]
    rw [if_pos hblank, hsame]
    refine ⟨?_, h⟩
    rcases hrow : leases account with _ | row
    · rfl
    · exact (decide_eq_false (hother row hrow)).symm
  · have hdelete := Table.select_delete h.oneLease account
      (fun row : AccountExecutionLeaseRecord => row.ownerToken = ownerToken)
    have hcount := Table.length_filter_key h.oneLease account
      (fun row : AccountExecutionLeaseRecord => row.ownerToken = ownerToken)
    simp only [decide_eq_true_eq] at hdelete hcount
    rw [if_neg hblank]
    refine ⟨?_, h.oneLease.sublist (List.filter_sublist.map _), fun other => ?_,
      fun other lease hlease => ?_⟩
    · dsimp only
      rw [hcount, h.lease account]
      change decide ((if (selectLease db account).any _ = true then 1 else 0) = 1) = _
      by_cases hany : (selectLease db account).any (fun row => row.ownerToken = ownerToken) = true
      · simp [hany]
      · simp [hany]
    · change _ = Table.select _ other _
      rw [hdelete other]
      change (if other = account then _ else leases other) = if other = account then
        (selectLease db account).filter _ else selectLease db other
      rw [h.lease account, h.lease other]
    · dsimp only at hlease
      by_cases heq : other = account
      · rw [if_pos heq] at hlease
        exact h.token account lease (Option.eq_some_of_filter_eq_some hlease)
      · rw [if_neg heq] at hlease
        exact h.token other lease hlease

/-! ### Calls -/

inductive Call
  | acquireLease (input : AcquireAccountExecutionLeaseInput)
  | renewLease (input : RenewAccountExecutionLeaseInput)
  | releaseLease (exchangeAccountId ownerToken : String)

inductive Reply
  | threw (message : String)
  | lease (lease : Option AccountExecutionLeaseRecord)
  | released (released : Bool)
  deriving DecidableEq

/-- The reply to a call and the store after it; a call that threw left the store alone. -/
def answer {σ : Type} (store : σ) :
    Except String (Option AccountExecutionLeaseRecord × σ) → Reply × σ
  | .ok (lease, store') => (.lease lease, store')
  | .error message => (.threw message, store)

/-- The call on `SqliteAccountExecutionLeaseStore`. -/
def sqliteCall (db : Database) : Call → Reply × Database
  | .acquireLease input => answer db (acquireLease db input)
  | .renewLease input => answer db (renewLease db input)
  | .releaseLease account token =>
    let (released, db') := releaseLease db account token
    (.released released, db')

/-- The call on `InMemoryAccountExecutionLeaseStore`. -/
def memoryCall (listOrderEvidence : String → List SubmissionBlockingOrderEvidence)
    (leases : Leases) : Call → Reply × Leases
  | .acquireLease input =>
    answer leases (InMemory.acquireLease listOrderEvidence leases input)
  | .renewLease input => answer leases (InMemory.renewLease leases input)
  | .releaseLease account token =>
    let (released, leases') := InMemory.releaseLease leases account token
    (.released released, leases')

theorem agrees_answer (h : Agrees db leases)
    {sqlite : Except String (Option AccountExecutionLeaseRecord × Database)}
    {memory : Except String (Option AccountExecutionLeaseRecord × Leases)}
    (hon : AgreeOn sqlite memory) :
    (answer db sqlite).1 = (answer leases memory).1 ∧
      Agrees (answer db sqlite).2 (answer leases memory).2 := by
  rcases sqlite with e | ⟨lease, db'⟩
  · rcases memory with e' | ⟨lease', leases'⟩
    · exact ⟨congrArg Reply.threw hon, h⟩
    · exact hon.elim
  · rcases memory with e' | ⟨lease', leases'⟩
    · exact hon.elim
    · exact ⟨congrArg Reply.lease hon.1, hon.2⟩

/-- The lease that a call asks for, if any, can be held. -/
def Call.Storable (accounts : List String) (call : Call) : Prop :=
  ∀ input, call = .acquireLease input → LeaseAgreement.Storable accounts input

/-- **A call.** Both stores reply the same and agree afterwards. -/
theorem agrees_call (h : Agrees db leases) {call : Call}
    (hstorable : call.Storable db.exchangeAccounts) :
    (sqliteCall db call).1 = (memoryCall (reader.list db) leases call).1 ∧
      Agrees (sqliteCall db call).2 (memoryCall (reader.list db) leases call).2 := by
  cases call with
  | acquireLease input => exact agrees_answer h (agreeOn_acquire reader h (hstorable input rfl))
  | renewLease input => exact agrees_answer h (agreeOn_renew h input)
  | releaseLease account token =>
    obtain ⟨hreply, hagrees⟩ := agrees_release h account token
    exact ⟨congrArg Reply.released hreply, hagrees⟩

/-! ### Runs -/

/-- Both stores, over the same order rows. -/
structure Stores where
  database : Database
  leases : Leases

/-- A lease call, or order rows written between two calls: any rows at all. -/
inductive Event
  | call (call : Call)
  | orders (written : Database)

def step (reader : OrderEvidenceReader) (s : Stores) : Event → Stores
  | .call call =>
    ⟨(sqliteCall s.database call).2, (memoryCall (reader.list s.database) s.leases call).2⟩
  | .orders written =>
    { s with database :=
        { written with
          exchangeAccounts := s.database.exchangeAccounts
          accountExecutionLeases := s.database.accountExecutionLeases } }

/-- No lease is given yet. -/
def start (db : Database) : Stores :=
  ⟨{ db with accountExecutionLeases := [] }, fun _ => none⟩

theorem agrees_start (db : Database) : Agrees (start db).database (start db).leases :=
  ⟨List.nodup_nil, fun _ => rfl, fun _ _ h => by cases h⟩

/-- The call of an event, if any, asks for a lease that can be held. -/
def Event.Storable (accounts : List String) (event : Event) : Prop :=
  ∀ call, event = .call call → call.Storable accounts

theorem exchangeAccounts_step (s : Stores) (event : Event) (h : Agrees s.database s.leases) :
    (step reader s event).database.exchangeAccounts = s.database.exchangeAccounts := by
  have honly : ∀ {db : Database}, OnlyLeases s.database db →
      db.exchangeAccounts = s.database.exchangeAccounts := by
    rintro _ ⟨rows, rfl⟩
    rfl
  cases event with
  | orders written => rfl
  | call call =>
    cases call with
    | acquireLease input =>
      change (answer s.database (acquireLease s.database input)).2.exchangeAccounts = _
      rcases hacquired : acquireLease s.database input with e | ⟨lease, db'⟩
      · rfl
      · exact honly (acquireLease_ok h.oneLease hacquired).1
    | renewLease input =>
      change (answer s.database (renewLease s.database input)).2.exchangeAccounts = _
      rcases hrenewed : renewLease s.database input with e | ⟨lease, db'⟩
      · rfl
      · exact honly (renewLease_ok hrenewed).1
    | releaseLease account token => exact honly (releaseLease_effect s.database account token).1

variable {accounts : List String}

/-- Both stores agree, over the given accounts. -/
def AgreesOver (accounts : List String) (s : Stores) : Prop :=
  Agrees s.database s.leases ∧ s.database.exchangeAccounts = accounts

theorem agreesOver_step (s : Stores) (event : Event) (h : AgreesOver accounts s)
    (hstorable : event.Storable accounts) : AgreesOver accounts (step reader s event) := by
  obtain ⟨hagrees, haccounts⟩ := h
  refine ⟨?_, (exchangeAccounts_step reader s event hagrees).trans haccounts⟩
  cases event with
  | call call => exact (agrees_call reader hagrees (haccounts ▸ hstorable call rfl)).2
  | orders written => exact ⟨hagrees.oneLease, hagrees.lease, hagrees.token⟩

theorem agreesOver_run (db : Database) {events : List Event}
    (h : ∀ event ∈ events, event.Storable db.exchangeAccounts) :
    AgreesOver db.exchangeAccounts (run (step reader) (start db) events) :=
  SafeRun.invariant (AgreesOver db.exchangeAccounts) (agreesOver_step reader)
    ⟨agrees_start db, rfl⟩ (safeRun_of_mem (fun _ _ hevent => hevent) h)

/-! ### Exclusion -/

/-- The call gave, renewed and released nothing. -/
def Reply.Refused : Reply → Prop
  | .threw _ => True
  | .lease given => given = none
  | .released done => done = false

/-- The account and the token with which a call claims to hold a lease. -/
def Call.claims : Call → Option (String × String)
  | .acquireLease _ => none
  | .renewLease input => some (input.exchangeAccountId, input.ownerToken)
  | .releaseLease account token => some (account, token)

/-- What the leases of a store exclude, at a call. -/
structure Excludes (reader : OrderEvidenceReader) (s : Stores) (call : Call) : Prop where
  /-- A lease that is unexpired at the timestamp of the acquirer stays. -/
  unexpired : ∀ input lease, call = .acquireLease input →
    s.leases input.exchangeAccountId = some lease →
    input.acquiredAtEpochMs < lease.expiresAtEpochMs →
    (sqliteCall s.database call).1.Refused ∧ (step reader s (.call call)).leases = s.leases
  /-- A renewal or release with a token that does not hold the lease changes nothing. -/
  otherToken : ∀ account token, call.claims = some (account, token) →
    (∀ lease, s.leases account = some lease → lease.ownerToken ≠ token) →
    (sqliteCall s.database call).1.Refused ∧ (step reader s (.call call)).leases = s.leases
  /-- No lease is given while an order of the account blocks. -/
  blocked : ∀ input order, call = .acquireLease input → order ∈ s.database.orders →
    order.exchangeAccountId = input.exchangeAccountId →
    (classify s.database order).blocking = true →
    (sqliteCall s.database call).1.Refused ∧ (step reader s (.call call)).leases = s.leases

variable (listOrderEvidence : String → List SubmissionBlockingOrderEvidence)

/-- What acquiring did to the map: nothing, or the account had no lease left and no order blocks. -/
theorem memory_acquire_cases (leases : Leases) (input : AcquireAccountExecutionLeaseInput) :
    let called := memoryCall listOrderEvidence leases (.acquireLease input)
    (called.1.Refused ∧ called.2 = leases) ∨
      ((listOrderEvidence input.exchangeAccountId).any
          SubmissionBlockingOrderEvidence.blocking = false ∧
        (∀ lease, leases input.exchangeAccountId = some lease →
          lease.expiresAtEpochMs ≤ input.acquiredAtEpochMs) ∧
        input.acquiredAtEpochMs < input.expiresAtEpochMs ∧
        called.2 =
          Function.update leases input.exchangeAccountId (some (leaseFromInput input))) := by
  dsimp only [memoryCall]
  unfold InMemory.acquireLease
  rcases hwindow : validateLeaseWindow input.ownerToken input.acquiredAtEpochMs
    input.expiresAtEpochMs with e | u
  · exact Or.inl ⟨trivial, rfl⟩
  have hlater := (validateLeaseWindow_eq_ok hwindow).2
  rw [ok_bind]
  dsimp only
  by_cases hblock : (listOrderEvidence input.exchangeAccountId).any
      SubmissionBlockingOrderEvidence.blocking = true
  · rw [if_pos hblock]
    exact Or.inl ⟨rfl, rfl⟩
  rw [if_neg hblock]
  by_cases hlive : (leases input.exchangeAccountId).any
      (fun current => current.expiresAtEpochMs > input.acquiredAtEpochMs) = true
  · rw [if_pos hlive]
    exact Or.inl ⟨rfl, rfl⟩
  rw [if_neg hlive]
  refine Or.inr ⟨by simpa using hblock, fun lease hlease => ?_, hlater, rfl⟩
  rw [hlease] at hlive
  simpa using hlive

/-- What renewing did to the map: nothing, or the caller's own lease expires later. -/
theorem memory_renew_cases (leases : Leases) (input : RenewAccountExecutionLeaseInput) :
    let called := memoryCall listOrderEvidence leases (.renewLease input)
    (called.1.Refused ∧ called.2 = leases) ∨
      ∃ current, leases input.exchangeAccountId = some current ∧
        current.ownerToken = input.ownerToken ∧
        current.expiresAtEpochMs < input.expiresAtEpochMs ∧
        called.2 = Function.update leases input.exchangeAccountId
          (some { current with expiresAtEpochMs := input.expiresAtEpochMs }) := by
  dsimp only [memoryCall]
  unfold InMemory.renewLease
  rcases validateLeaseWindow input.ownerToken input.renewedAtEpochMs input.expiresAtEpochMs
    with e | u
  · exact Or.inl ⟨trivial, rfl⟩
  rw [ok_bind]
  rcases hcurrent : leases input.exchangeAccountId with _ | current
  · exact Or.inl ⟨rfl, rfl⟩
  dsimp only
  by_cases hrefused : current.ownerToken ≠ input.ownerToken ∨
      current.expiresAtEpochMs ≤ input.renewedAtEpochMs ∨
      current.expiresAtEpochMs ≥ input.expiresAtEpochMs
  · rw [if_pos hrefused]
    exact Or.inl ⟨rfl, rfl⟩
  · rw [if_neg hrefused]
    rw [not_or, not_or, not_not, not_le, not_le] at hrefused
    obtain ⟨howner, -, hless⟩ := hrefused
    exact Or.inr ⟨current, rfl, howner, hless, rfl⟩

theorem memory_release_cases (leases : Leases) (account token : String) :
    let called := memoryCall listOrderEvidence leases (.releaseLease account token)
    (called.1.Refused ∧ called.2 = leases) ∨
      ∃ current, leases account = some current ∧ current.ownerToken = token ∧
        called.2 = Function.update leases account none := by
  dsimp only [memoryCall]
  unfold InMemory.releaseLease
  rcases hcurrent : leases account with _ | current
  · exact Or.inl ⟨rfl, rfl⟩
  dsimp only
  by_cases hother : current.ownerToken ≠ token
  · rw [if_pos hother]
    exact Or.inl ⟨rfl, rfl⟩
  · rw [if_neg hother]
    exact Or.inr ⟨current, rfl, not_not.mp hother, rfl⟩

theorem excludes_call {s : Stores} (h : Agrees s.database s.leases) {call : Call}
    (hstorable : call.Storable s.database.exchangeAccounts) : Excludes reader s call := by
  have hreply := (agrees_call reader h hstorable).1
  refine ⟨fun input lease hcall hlease hunexpired => ?_, fun account token hclaims hother => ?_,
    fun input order hcall horder haccount hblocking => ?_⟩
  · rw [hreply, hcall]
    rcases memory_acquire_cases (reader.list s.database) s.leases input
      with hnothing | ⟨-, hexpired, -⟩
    · exact hnothing
    · have := hexpired lease hlease
      omega
  · rw [hreply]
    cases call with
    | acquireLease input => cases hclaims
    | renewLease input =>
      obtain ⟨rfl, rfl⟩ := Prod.mk.inj (Option.some.inj hclaims)
      rcases memory_renew_cases (reader.list s.database) s.leases input
        with hnothing | ⟨current, hcurrent, howner, -⟩
      · exact hnothing
      · exact absurd howner (hother current hcurrent)
    | releaseLease account' token' =>
      obtain ⟨rfl, rfl⟩ := Prod.mk.inj (Option.some.inj hclaims)
      rcases memory_release_cases (reader.list s.database) s.leases account' token'
        with hnothing | ⟨current, hcurrent, howner, -⟩
      · exact hnothing
      · exact absurd howner (hother current hcurrent)
  · rw [hreply, hcall]
    rcases memory_acquire_cases (reader.list s.database) s.leases input with hnothing | ⟨hfree, -⟩
    · exact hnothing
    · rw [any_blocking_eq reader] at hfree
      have hblock : hasBlockingOrder s.database input.exchangeAccountId = true :=
        hasBlockingOrder_iff.mpr ⟨order, horder, haccount, hblocking⟩
      rw [hfree] at hblock
      exact absurd hblock (by decide)

variable {lease lease' : AccountExecutionLeaseRecord}

/-- A step shortens no lease: what replaces one expires later. -/
theorem expiry_step (s : Stores) (event : Event) (hlease : s.leases account = some lease)
    (hlease' : (step reader s event).leases account = some lease') :
    lease.expiresAtEpochMs ≤ lease'.expiresAtEpochMs := by
  have hsame : ∀ leases : Leases, leases = s.leases → leases account = some lease' →
      lease.expiresAtEpochMs ≤ lease'.expiresAtEpochMs := by
    rintro leases rfl heq
    rw [hlease] at heq
    rw [Option.some.inj heq]
  have hupdated : ∀ (leases : Leases) key replaced,
      leases = Function.update s.leases key (some replaced) → leases account = some lease' →
      (account = key → lease.expiresAtEpochMs ≤ replaced.expiresAtEpochMs) →
      lease.expiresAtEpochMs ≤ lease'.expiresAtEpochMs := by
    rintro leases key replaced rfl heq hle
    by_cases hkey : account = key
    · rw [hkey, Function.update_self] at heq
      rw [← Option.some.inj heq]
      exact hle hkey
    · rw [Function.update_of_ne hkey] at heq
      exact hsame s.leases rfl heq
  cases event with
  | orders written => exact hsame _ rfl hlease'
  | call call =>
    cases call with
    | acquireLease input =>
      rcases memory_acquire_cases (reader.list s.database) s.leases input
        with ⟨-, hnothing⟩ | ⟨-, hexpired, hlater, hgiven⟩
      · exact hsame _ hnothing hlease'
      · refine hupdated _ _ _ hgiven hlease' fun heq => ?_
        have hpast := hexpired lease (heq ▸ hlease)
        exact hpast.trans hlater.le
    | renewLease input =>
      rcases memory_renew_cases (reader.list s.database) s.leases input
        with ⟨-, hnothing⟩ | ⟨current, hcurrent, -, hless, hrenewed⟩
      · exact hsame _ hnothing hlease'
      · refine hupdated _ _ _ hrenewed hlease' fun heq => ?_
        rw [← heq, hlease] at hcurrent
        rw [Option.some.inj hcurrent]
        exact hless.le
    | releaseLease account' token =>
      rcases memory_release_cases (reader.list s.database) s.leases account' token
        with ⟨-, hnothing⟩ | ⟨current, -, -, hreleased⟩
      · exact hsame _ hnothing hlease'
      · have hgone : (step reader s (.call (.releaseLease account' token))).leases =
            Function.update s.leases account' none := hreleased
        rw [hgone] at hlease'
        by_cases hkey : account = account'
        · rw [hkey, Function.update_self] at hlease'
          cases hlease'
        · rw [Function.update_of_ne hkey] at hlease'
          exact hsame s.leases rfl hlease'

/-- The token holds the lease of the account after every part of the run. -/
def HeldThroughout (reader : OrderEvidenceReader) (s : Stores) (account token : String)
    (events : List Event) : Prop :=
  ∀ part, part <+: events → ∃ lease,
    (run (step reader) s part).leases account = some lease ∧ lease.ownerToken = token

theorem expiry_run {account token : String} {s : Stores} {events : List Event}
    (hheld : HeldThroughout reader s account token events) (hlease : s.leases account = some lease)
    (hlease' : (run (step reader) s events).leases account = some lease') :
    lease.expiresAtEpochMs ≤ lease'.expiresAtEpochMs := by
  induction events generalizing s lease with
  | nil =>
    rw [run_nil, hlease] at hlease'
    rw [Option.some.inj hlease']
  | cons event events ih =>
    obtain ⟨next, hnext, -⟩ := hheld [event] ⟨events, rfl⟩
    have hfirst := expiry_step reader s event hlease hnext
    have htail : HeldThroughout reader (step reader s event) account token events :=
      fun part hpart => hheld (event :: part) ((List.prefix_cons_inj event).mpr hpart)
    have hrest := ih htail hnext hlease'
    exact hfirst.trans hrest

/-- **The two lease stores agree and exclude.** After any calls for leases that can be held, with any
orders written between them, both stores hold the same lease of every account, the next such call has
the same reply on both and excludes what `Excludes` says, and a lease that one token goes on holding
never expires sooner. -/
theorem leaseStores_agree_and_exclude (reader : OrderEvidenceReader) (db : Database)
    (events : List Event) (hstorable : ∀ event ∈ events, event.Storable db.exchangeAccounts) :
    let s := run (step reader) (start db) events
    (∀ account, s.leases account = selectLease s.database account) ∧
      (∀ call : Call, call.Storable db.exchangeAccounts →
        (sqliteCall s.database call).1 =
          (memoryCall (reader.list s.database) s.leases call).1 ∧ Excludes reader s call) ∧
      ∀ account token more, HeldThroughout reader s account token more →
        ∀ lease lease', s.leases account = some lease →
          (run (step reader) s more).leases account = some lease' →
          lease.expiresAtEpochMs ≤ lease'.expiresAtEpochMs := by
  intro s
  obtain ⟨h, haccounts⟩ : AgreesOver db.exchangeAccounts s := agreesOver_run reader db hstorable
  refine ⟨h.lease, fun call hcall => ?_, ?_⟩
  · rw [← haccounts] at hcall
    exact ⟨(agrees_call reader h hcall).1, excludes_call reader h hcall⟩
  · intro account token more hheld lease lease' hlease hlease'
    exact expiry_run reader hheld hlease hlease'

/-- Two owners ask for the lease of an account in turn; the second has it after the first lets go. -/
def twoOwners : List Event :=
  [.call (.acquireLease ⟨"primary", "a", 100, 200⟩), .call (.renewLease ⟨"primary", "a", 150, 300⟩),
    .call (.acquireLease ⟨"primary", "b", 299, 400⟩), .call (.releaseLease "primary" "a")]

theorem leaseStores_agree_and_exclude_twoOwners :
    let s := run (step default) (start { exchangeAccounts := ["primary"] }) twoOwners
    s.leases "primary" = selectLease s.database "primary" ∧
      ∀ now, (sqliteCall s.database (.acquireLease ⟨"primary", "b", now, 400⟩)).1 =
        (memoryCall (OrderEvidenceReader.list default s.database) s.leases
          (.acquireLease ⟨"primary", "b", now, 400⟩)).1 := by
  have hstorable : ∀ token at' until', (Call.acquireLease ⟨"primary", token, at', until'⟩).Storable
      ["primary"] ↔ '\x00' ∉ token.toList := by
    intro token at' until'
    constructor
    · intro h
      exact (h _ rfl).tokenText
    · rintro h input ⟨⟩
      exact ⟨List.mem_singleton_self "primary", (by decide : '\x00' ∉ "primary".toList), h⟩
  have h := leaseStores_agree_and_exclude default { exchangeAccounts := ["primary"] } twoOwners
    (by
      intro event hevent call hcall
      subst hcall
      simp only [twoOwners, List.mem_cons, Event.call.injEq, List.not_mem_nil, or_false] at hevent
      rcases hevent with rfl | rfl | rfl | rfl
      · exact (hstorable _ _ _).mpr (by decide)
      · rintro _ ⟨⟩
      · exact (hstorable _ _ _).mpr (by decide)
      · rintro _ ⟨⟩)
  exact ⟨h.1 "primary", fun now => (h.2.1 _ ((hstorable _ _ _).mpr (by decide))).1⟩

/-- What the table does not take, the map does: an account without its row, and a token that SQLite
counts as empty. -/
theorem unstorable_lease_parts_stores :
    (¬ ∀ (reader : OrderEvidenceReader) (db : Database) (events : List Event) (call : Call),
      let s := run (step reader) (start db) events
      (sqliteCall s.database call).1 = (memoryCall (reader.list s.database) s.leases call).1) ∧
    (sqliteCall (start {}).database (.acquireLease ⟨"primary", "a", 100, 200⟩)).1 =
      .threw "FOREIGN KEY constraint failed" ∧
    (sqliteCall (start { exchangeAccounts := ["primary"] }).database
      (.acquireLease ⟨"primary", "\x00", 100, 200⟩)).1 =
      .threw "CHECK constraint failed: length(owner_token) > 0" ∧
    ∀ token ∈ ["a", "\x00"],
      (memoryCall (fun _ => []) (fun _ => none) (.acquireLease ⟨"primary", token, 100, 200⟩)).1 =
        .lease (some ⟨"primary", token, 100, 200⟩) := by
  refine ⟨fun hall => ?_, by decide, by decide, by decide⟩
  have heq := hall default {} [] (.acquireLease ⟨"primary", "a", 100, 200⟩)
  exact absurd heq (by decide)

end AutoTrade.Db.LeaseAgreement
