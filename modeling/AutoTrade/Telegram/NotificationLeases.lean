import AutoTrade.Telegram.Delivery

/-! # Leases of notifications

Any number of workers claim notifications and finalize what they have claimed, each at its own time and
by its own clock; a claim may overtake a claim whose lease has run out by the clock of the second
worker. The invariant (`Inv`) ties every record to the copies that were handed out of it: the record
counts them, and a token on it is the token of the last one.

* `inv_run`, `later_run`: the invariant and what no step takes back, over every run.
* `leases_linear`: what follows for the workers. -/

namespace AutoTrade.Telegram.NotificationLeases

open Lib.Run Telegram.Delivery

/-! ### The replaced record -/

variable {record row : OperatorNotificationRecord} {rows rows' : List OperatorNotificationRecord}

/-- The rows with the record in the place of the one with its id. -/
structure Replaced (record : OperatorNotificationRecord)
    (rows rows' : List OperatorNotificationRecord) : Prop where
  ids : rows'.map (·.id) = rows.map (·.id)
  mem : record ∈ rows'
  eq_or_old : ∀ row ∈ rows', row = record ∨ (row ∈ rows ∧ row.id ≠ record.id)
  kept : ∀ row ∈ rows, row.id ≠ record.id → row ∈ rows'

theorem replaceFirst_spec (hids : (rows.map (·.id)).Nodup) (hmem : record.id ∈ rows.map (·.id)) :
    ∃ rows', replaceFirst record rows = some rows' ∧ Replaced record rows rows' := by
  induction rows with
  | nil => simp at hmem
  | cons first rest ih =>
    rw [List.map_cons, List.nodup_cons] at hids
    obtain ⟨hnew, hrest⟩ := hids
    unfold replaceFirst
    by_cases h : first.id = record.id
    · refine ⟨record :: rest, if_pos h, ?_, List.mem_cons_self, ?_, ?_⟩
      · rw [List.map_cons, List.map_cons, h]
      · intro row hrow
        rcases List.mem_cons.mp hrow with hrow | hrow
        · exact Or.inl hrow
        · refine Or.inr ⟨List.mem_cons_of_mem _ hrow, fun heq => hnew ?_⟩
          rw [h, ← heq]
          exact List.mem_map_of_mem hrow
      · intro row hrow hne
        rcases List.mem_cons.mp hrow with rfl | hrow
        · exact absurd h hne
        · exact List.mem_cons_of_mem _ hrow
    · have htail : record.id ∈ rest.map (·.id) := by
        rcases List.mem_cons.mp hmem with heq | hmem
        · exact absurd heq.symm h
        · exact hmem
      obtain ⟨rest', hok, hr⟩ := ih hrest htail
      refine ⟨first :: rest', by rw [if_neg h, hok]; rfl, ?_, List.mem_cons_of_mem _ hr.mem, ?_, ?_⟩
      · rw [List.map_cons, List.map_cons, hr.ids]
      · intro row hrow
        rcases List.mem_cons.mp hrow with rfl | hrow
        · exact Or.inr ⟨List.mem_cons_self, h⟩
        · exact (hr.eq_or_old row hrow).imp_right fun ⟨hold, hne⟩ =>
            ⟨List.mem_cons_of_mem _ hold, hne⟩
      · intro row hrow hne
        rcases List.mem_cons.mp hrow with rfl | hrow
        · exact List.mem_cons_self
        · exact List.mem_cons_of_mem _ (hr.kept row hrow hne)

/-! ### The invariant -/

/-- The copies that were handed out of a notification, the oldest first. -/
def claimsOf (w : World) (id : String) : List ClaimedOperatorNotificationRecord :=
  w.claims.filter (·.id = id)

def finalizationsOf (w : World) (id : String) : List (String × OperatorNotificationStatus) :=
  w.finalized.filter (·.1 = id)

/-- A record counts the claims of it, has the token of the last one or none, and was finalized at most
once, to the status it has. -/
structure RowInv (w : World) (row : OperatorNotificationRecord) : Prop where
  count : row.attemptCount = (claimsOf w row.id).length
  leased : ∀ token, row.leaseToken = some token → row.deliveryStatus = .pending ∧
    ∃ copy, (claimsOf w row.id).getLast? = some copy ∧ copy.claimToken = token ∧
      copy.attemptCount = row.attemptCount
  finalized : (finalizationsOf w row.id).map (·.2) =
    if row.deliveryStatus = .pending then [] else [row.deliveryStatus]

structure Inv (w : World) : Prop where
  ids : (w.notifications.map (·.id)).Nodup
  rows : ∀ row ∈ w.notifications, RowInv w row
  claimed : ∀ copy ∈ w.claims, copy.id ∈ w.notifications.map (·.id)
  finalized : ∀ entry ∈ w.finalized, entry.1 ∈ w.notifications.map (·.id)
  tokens : (w.claims.map fun copy => (copy.id, copy.claimToken)).Nodup

/-- What no step takes back: no notification is lost, none counts fewer attempts, and one that was
finalized stays as it is. -/
def Later (w w' : World) : Prop :=
  ∀ row ∈ w.notifications, ∃ row' ∈ w'.notifications, row'.id = row.id ∧
    row.attemptCount ≤ row'.attemptCount ∧ (row.deliveryStatus ≠ .pending → row' = row)

variable {w w' w'' : World}

theorem Later.refl (w : World) : Later w w := fun row hrow => ⟨row, hrow, rfl, le_rfl, fun _ => rfl⟩

theorem Later.trans (h : Later w w') (h' : Later w' w'') : Later w w'' := by
  intro row hrow
  obtain ⟨row', hrow', hid, hcount, hstay⟩ := h row hrow
  obtain ⟨row'', hrow'', hid', hcount', hstay'⟩ := h' row' hrow'
  refine ⟨row'', hrow'', hid'.trans hid, hcount.trans hcount', fun hfinal => ?_⟩
  have heq := hstay hfinal
  subst heq
  exact hstay' hfinal

theorem inv_empty : Inv .empty := by
  constructor <;> simp [World.empty]

theorem RowInv.congr (h : RowInv w row) (hclaims : claimsOf w' row.id = claimsOf w row.id)
    (hfinals : finalizationsOf w' row.id = finalizationsOf w row.id) : RowInv w' row := by
  refine ⟨?_, ?_, ?_⟩
  · rw [hclaims]
    exact h.count
  · rw [hclaims]
    exact h.leased
  · rw [hfinals]
    exact h.finalized

theorem Inv.eq_of_id (h : Inv w) {row row' : OperatorNotificationRecord}
    (hrow : row ∈ w.notifications) (hrow' : row' ∈ w.notifications) (hid : row.id = row'.id) :
    row = row' := List.inj_on_of_nodup_map h.ids hrow hrow' hid

variable {copy : ClaimedOperatorNotificationRecord}

/-- The token of a copy is only on the record if the copy is the last one: the tokens of one
notification are different. -/
theorem Inv.last_of_lease (h : Inv w) (hrow : row ∈ w.notifications) (hid : row.id = copy.id)
    (htoken : row.leaseToken = some copy.claimToken) (hcopy : copy ∈ w.claims) :
    row.deliveryStatus = .pending ∧ (claimsOf w row.id).getLast? = some copy ∧
      copy.attemptCount = row.attemptCount := by
  obtain ⟨hpending, last, hlast, hlastToken, hlastCount⟩ := (h.rows row hrow).leased _ htoken
  have hlastMem := List.mem_filter.mp (List.mem_of_getLast? hlast)
  have hlastId : last.id = row.id := by simpa using hlastMem.2
  have hsame : copy = last := by
    refine List.inj_on_of_nodup_map h.tokens hcopy hlastMem.1 ?_
    rw [hlastToken, hlastId, hid]
  rw [hsame]
  exact ⟨hpending, hlast, hlastCount⟩

/-! ### One record changes -/

theorem inv_replaced (h : Inv w) (hr : Replaced record w.notifications w'.notifications)
    (hold : record.id ∈ w.notifications.map (·.id))
    (hother : ∀ id ≠ record.id, claimsOf w' id = claimsOf w id ∧
      finalizationsOf w' id = finalizationsOf w id)
    (hrecord : RowInv w' record)
    (hclaims : ∀ copy ∈ w'.claims, copy ∈ w.claims ∨ copy.id = record.id)
    (hfinals : ∀ entry ∈ w'.finalized, entry ∈ w.finalized ∨ entry.1 = record.id)
    (htokens : (w'.claims.map fun copy => (copy.id, copy.claimToken)).Nodup) : Inv w' := by
  refine ⟨?_, ?_, ?_, ?_, htokens⟩
  · rw [hr.ids]
    exact h.ids
  · intro row hrow
    rcases hr.eq_or_old row hrow with rfl | ⟨hrow, hne⟩
    · exact hrecord
    · obtain ⟨hc, hf⟩ := hother row.id hne
      exact (h.rows row hrow).congr hc hf
  · intro copy hcopy
    rw [hr.ids]
    rcases hclaims copy hcopy with hcopy | hid
    · exact h.claimed copy hcopy
    · rw [hid]
      exact hold
  · intro entry hentry
    rw [hr.ids]
    rcases hfinals entry hentry with hentry | hid
    · exact h.finalized entry hentry
    · rw [hid]
      exact hold

theorem later_replaced (h : Inv w) (hr : Replaced record w.notifications w'.notifications)
    (hrow : row ∈ w.notifications) (hid : row.id = record.id) (hpending : row.deliveryStatus = .pending)
    (hcount : row.attemptCount ≤ record.attemptCount) : Later w w' := by
  intro other hother
  by_cases hne : other.id = record.id
  · have heq : other = row := h.eq_of_id hother hrow (hne.trans hid.symm)
    subst heq
    exact ⟨record, hr.mem, hid.symm, hcount, fun hfinal => absurd hpending hfinal⟩
  · exact ⟨other, hr.kept other hother hne, rfl, le_rfl, fun _ => rfl⟩

/-! ### The steps -/

theorem report_step (h : Inv w) (id exchangeAccountId createdAt : String)
    {notifications : List OperatorNotificationRecord}
    (hok : saveOperatorNotification w.notifications
      (reportedRecord id exchangeAccountId createdAt) = .ok notifications) :
    Inv { w with notifications } ∧ Later w { w with notifications } := by
  unfold saveOperatorNotification at hok
  split_ifs at hok with hany
  rw [← Except.ok.inj hok]
  have hnew : id ∉ w.notifications.map (·.id) := by
    intro hmem
    obtain ⟨row, hrow, hid⟩ := List.mem_map.mp hmem
    exact hany (List.any_eq_true.mpr ⟨row, hrow, decide_eq_true hid⟩)
  have hmem : ∀ {x : String}, x ∈ w.notifications.map (·.id) →
      x ∈ (w.notifications ++ [reportedRecord id exchangeAccountId createdAt]).map (·.id) := by
    intro x hx
    rw [List.map_append]
    exact List.mem_append_left _ hx
  -- no copy and no finalization has the new id
  have hnone : claimsOf w id = [] := by
    refine List.filter_eq_nil_iff.mpr fun copy hcopy => ?_
    rw [decide_eq_true_eq]
    exact fun hid => hnew (hid ▸ h.claimed copy hcopy)
  have hnone' : finalizationsOf w id = [] := by
    refine List.filter_eq_nil_iff.mpr fun entry hentry => ?_
    rw [decide_eq_true_eq]
    exact fun hid => hnew (hid ▸ h.finalized entry hentry)
  constructor
  · refine ⟨?_, ?_, fun copy hcopy => hmem (h.claimed copy hcopy),
      fun entry hentry => hmem (h.finalized entry hentry), h.tokens⟩
    · rw [List.map_append, List.map_singleton, List.nodup_append]
      refine ⟨h.ids, List.nodup_singleton _, ?_⟩
      intro x hx y hy hxy
      rw [List.mem_singleton] at hy
      exact hnew (by rw [hxy, hy] at hx; exact hx)
    · intro row hrow
      rcases List.mem_append.mp hrow with hrow | hrow
      · exact (h.rows row hrow).congr rfl rfl
      · rw [List.mem_singleton.mp hrow]
        refine ⟨?_, fun token htoken => ?_, ?_⟩
        · show 0 = (claimsOf w id).length
          rw [hnone]
          rfl
        · cases htoken
        · show (finalizationsOf w id).map (·.2) = []
          rw [hnone']
          rfl
  · intro row hrow
    exact ⟨row, List.mem_append_left _ hrow, rfl, le_rfl, fun _ => rfl⟩

variable {input : ClaimInput}

theorem claim_one (h : Inv w) {candidate : OperatorNotificationRecord}
    (hmem : candidate ∈ w.notifications) (hpending : candidate.deliveryStatus = .pending)
    (hfresh : ∀ copy ∈ w.claims, copy.id = candidate.id → copy.claimToken ≠ input.leaseToken) :
    ∃ notifications, replaceFirst (claimedRecord input candidate).toOperatorNotificationRecord
        w.notifications = some notifications ∧
      Replaced (claimedRecord input candidate).toOperatorNotificationRecord w.notifications
        notifications ∧
      Inv ⟨notifications, w.claims ++ [claimedRecord input candidate], w.finalized⟩ ∧
      Later w ⟨notifications, w.claims ++ [claimedRecord input candidate], w.finalized⟩ := by
  have hid : candidate.id ∈ w.notifications.map (·.id) := List.mem_map_of_mem hmem
  obtain ⟨notifications, hok, hr⟩ := replaceFirst_spec h.ids
    (show (claimedRecord input candidate).id ∈ _ from hid)
  refine ⟨notifications, hok, hr, ?_, later_replaced h hr hmem rfl hpending (Nat.le_succ _)⟩
  have hrow := h.rows candidate hmem
  have hcandidate : ∀ {w' : World}, w'.claims = w.claims ++ [claimedRecord input candidate] →
      claimsOf w' candidate.id = claimsOf w candidate.id ++ [claimedRecord input candidate] := by
    intro w' hw'
    unfold claimsOf
    rw [hw', List.filter_append, List.filter_singleton]
    simp [claimedRecord]
  refine inv_replaced h hr hid ?_ ?_ ?_ (fun entry hentry => Or.inl hentry) ?_
  · intro id hne
    refine ⟨?_, rfl⟩
    unfold claimsOf
    rw [List.filter_append, List.filter_singleton]
    have hfalse : decide ((claimedRecord input candidate).id = id) = false := by
      simpa using hne.symm
    rw [hfalse]
    exact List.append_nil _
  · refine ⟨?_, ?_, ?_⟩
    · show candidate.attemptCount + 1 = _
      rw [show (claimedRecord input candidate).id = candidate.id from rfl, hcandidate rfl,
        List.length_append, List.length_singleton, hrow.count]
    · intro token htoken
      rw [show (claimedRecord input candidate).id = candidate.id from rfl, hcandidate rfl]
      refine ⟨hpending, claimedRecord input candidate, List.getLast?_concat, ?_, rfl⟩
      exact Option.some.inj htoken
    · exact hrow.finalized
  · intro copy hcopy
    rcases List.mem_append.mp hcopy with hcopy | hcopy
    · exact Or.inl hcopy
    · rw [List.mem_singleton.mp hcopy]
      exact Or.inr rfl
  · rw [List.map_append, List.map_singleton, List.nodup_append]
    refine ⟨h.tokens, List.nodup_singleton _, ?_⟩
    intro x hx y hy hxy
    rw [List.mem_singleton] at hy
    obtain ⟨copy, hcopy, rfl⟩ := List.mem_map.mp hx
    rw [hy] at hxy
    exact hfresh copy hcopy (congrArg Prod.fst hxy) (congrArg Prod.snd hxy)

theorem claimSelected_spec {candidates : List OperatorNotificationRecord} (h : Inv w)
    (hmem : ∀ candidate ∈ candidates, candidate ∈ w.notifications)
    (hpending : ∀ candidate ∈ candidates, candidate.deliveryStatus = .pending)
    (hids : (candidates.map (·.id)).Nodup)
    (hfresh : ∀ candidate ∈ candidates, ∀ copy ∈ w.claims, copy.id = candidate.id →
      copy.claimToken ≠ input.leaseToken) :
    ∃ notifications copies, claimSelected input w.notifications candidates =
        .ok (notifications, copies) ∧
      Inv ⟨notifications, w.claims ++ copies, w.finalized⟩ ∧
      Later w ⟨notifications, w.claims ++ copies, w.finalized⟩ := by
  induction candidates generalizing w with
  | nil =>
    refine ⟨w.notifications, [], rfl, ?_, ?_⟩
    · rw [List.append_nil]
      exact h
    · rw [List.append_nil]
      exact Later.refl w
  | cons candidate rest ih =>
    rw [List.map_cons, List.nodup_cons] at hids
    obtain ⟨hnew, hrest⟩ := hids
    have hne : ∀ other ∈ rest, other.id ≠ candidate.id := fun other hother heq =>
      hnew (heq ▸ List.mem_map_of_mem hother)
    obtain ⟨middle, hreplace, hr, hinv, hlater⟩ := claim_one h (hmem candidate List.mem_cons_self)
      (hpending candidate List.mem_cons_self) (hfresh candidate List.mem_cons_self)
    obtain ⟨notifications, copies, hok, hinv', hlater'⟩ := ih hinv
      (fun other hother => hr.kept other (hmem other (List.mem_cons_of_mem _ hother))
        (hne other hother))
      (fun other hother => hpending other (List.mem_cons_of_mem _ hother)) hrest
      (by
        intro other hother copy hcopy hid
        rcases List.mem_append.mp hcopy with hcopy | hcopy
        · exact hfresh other (List.mem_cons_of_mem _ hother) copy hcopy hid
        · rw [List.mem_singleton.mp hcopy] at hid
          exact absurd hid.symm (hne other hother))
    refine ⟨notifications, claimedRecord input candidate :: copies, ?_, ?_, ?_⟩
    · unfold claimSelected
      dsimp only
      rw [hreplace]
      dsimp only at hok ⊢
      rw [hok]
      rfl
    · rw [List.append_cons]
      exact hinv'
    · rw [List.append_cons]
      exact hlater.trans hlater'

/-- What is selected are pending records, each of them once. -/
theorem selectClaimable_spec (lib : Library) (h : Inv w) (exchangeAccountId : String)
    (input : ClaimInput) :
    (∀ candidate ∈ selectClaimable lib w.notifications exchangeAccountId input,
      candidate ∈ w.notifications ∧ candidate.deliveryStatus = .pending) ∧
    ((selectClaimable lib w.notifications exchangeAccountId input).map (·.id)).Nodup := by
  set due := w.notifications.filter (isClaimable lib exchangeAccountId input.dueBefore) with hdue
  have hperm : (due.insertionSort (isDueFirst lib)).Perm due := List.perm_insertionSort _ _
  have hsub : List.Sublist (selectClaimable lib w.notifications exchangeAccountId input)
      (due.insertionSort (isDueFirst lib)) := by
    unfold selectClaimable sliceTo
    dsimp only
    split
    · split_ifs
      · exact List.take_sublist _ _
      · exact List.take_sublist _ _
    · exact List.Sublist.refl _
  constructor
  · intro candidate hcandidate
    have hmem := hperm.mem_iff.mp (hsub.subset hcandidate)
    rw [hdue, List.mem_filter] at hmem
    obtain ⟨hmem, hclaimable⟩ := hmem
    simp only [isClaimable, decide_eq_true_eq] at hclaimable
    exact ⟨hmem, hclaimable.2.1⟩
  · refine (hsub.map _).nodup ((hperm.map _).nodup_iff.mpr ?_)
    exact (List.filter_sublist.map _).nodup h.ids

theorem claim_step (lib : Library) (h : Inv w) (exchangeAccountId : String)
    (hfresh : ∀ copy ∈ w.claims, copy.claimToken ≠ input.leaseToken) :
    ∃ notifications copies, claimPendingOperatorNotifications lib w.notifications exchangeAccountId
        input = .ok (notifications, copies) ∧
      Inv ⟨notifications, w.claims ++ copies, w.finalized⟩ ∧
      Later w ⟨notifications, w.claims ++ copies, w.finalized⟩ := by
  obtain ⟨hmem, hids⟩ := selectClaimable_spec lib h exchangeAccountId input
  exact claimSelected_spec h (fun candidate hc => (hmem candidate hc).1)
    (fun candidate hc => (hmem candidate hc).2) hids fun _ _ copy hcopy _ => hfresh copy hcopy

variable {attemptAt : String} {error : Option TelegramDeliveryError} {lib : Library}
  {settings : DeliverySettings}

theorem deliveryTransition_spec {transition : OperatorNotificationDeliveryTransition}
    (h : deliveryTransition lib settings copy attemptAt error = some transition) :
    transition.id = copy.id ∧ transition.leaseToken = copy.claimToken ∧
      transition.attemptCount = copy.attemptCount := by
  unfold deliveryTransition at h
  split_ifs at h with hstatus
  rcases error with _ | error
  · rw [← Option.some.inj h]
    exact ⟨rfl, rfl, rfl⟩
  · dsimp only at h
    split_ifs at h
    · rw [← Option.some.inj h]
      exact ⟨rfl, rfl, rfl⟩
    · rw [← Option.some.inj h]
      exact ⟨rfl, rfl, rfl⟩

/-- The lease of the copy is on its notification. -/
def Live (w : World) (copy : ClaimedOperatorNotificationRecord) : Prop :=
  ∃ row ∈ w.notifications, row.id = copy.id ∧ row.leaseToken = some copy.claimToken

variable {position : ℕ}

theorem finalizeClaim_eq_some
    (h : finalizeClaim lib w position settings attemptAt error = some w') :
    ∃ copy transition row, w.claims[position]? = some copy ∧
      deliveryTransition lib settings copy attemptAt error = some transition ∧
      row ∈ w.notifications ∧ row.id = copy.id ∧ row.leaseToken = some copy.claimToken ∧
      replaceFirst (transitioned row transition) w.notifications = some w'.notifications ∧
      w'.claims = w.claims ∧
      w'.finalized = if transition.deliveryStatus = .pending then w.finalized
        else w.finalized ++ [(copy.id, transition.deliveryStatus)] := by
  unfold finalizeClaim at h
  simp only [bind, Option.bind_eq_some_iff, pure, Option.some.injEq] at h
  obtain ⟨copy, hcopy, transition, htransition, notifications, hcas, rfl⟩ := h
  obtain ⟨hid, htoken, -⟩ := deliveryTransition_spec htransition
  unfold compareAndSetOperatorNotificationDeliveryStatus at hcas
  split at hcas
  · cases hcas
  · next current hfind =>
    split_ifs at hcas with hlease
    have hcurrent := List.find?_some hfind
    rw [decide_eq_true_eq] at hcurrent
    rw [not_not, htoken] at hlease
    exact ⟨copy, transition, current, hcopy, htransition, List.mem_of_find?_eq_some hfind,
      hcurrent.trans hid, hlease, hcas, rfl, rfl⟩

theorem finalize_step (h : Inv w)
    (hok : finalizeClaim lib w position settings attemptAt error = some w') :
    Inv w' ∧ Later w w' := by
  obtain ⟨copy, transition, row, hcopy, htransition, hrow, hid, htoken, hreplace, hclaims, hfinals⟩ :=
    finalizeClaim_eq_some hok
  obtain ⟨-, -, hcount⟩ := deliveryTransition_spec htransition
  have hrowInv := h.rows row hrow
  obtain ⟨hpending, -, hcopyCount⟩ := h.last_of_lease hrow hid htoken (List.mem_of_getElem? hcopy)
  have hattempt : transition.attemptCount = row.attemptCount := hcount.trans hcopyCount
  have hmem : row.id ∈ w.notifications.map (·.id) := List.mem_map_of_mem hrow
  obtain ⟨notifications, hreplaced, hr⟩ := replaceFirst_spec h.ids
    (show (transitioned row transition).id ∈ _ from hmem)
  rw [hreplace, Option.some.injEq] at hreplaced
  rw [← hreplaced] at hr
  have hclaimsOf : ∀ id, claimsOf w' id = claimsOf w id := fun id => by
    rw [claimsOf, claimsOf, hclaims]
  constructor
  · refine inv_replaced h hr hmem (fun id hne => ⟨hclaimsOf id, ?_⟩) ⟨?_, ?_, ?_⟩ ?_ ?_ ?_
    · unfold finalizationsOf
      rw [hfinals]
      split_ifs
      · rfl
      · have hne' : ¬ copy.id = id := fun heq => hne (heq.symm.trans hid.symm)
        simp [List.filter_append, hne']
    · rw [hclaimsOf]
      exact hattempt.trans hrowInv.count
    · intro token hnone
      cases hnone
    · have hbefore := hrowInv.finalized
      rw [if_pos hpending, List.map_eq_nil_iff] at hbefore
      show (finalizationsOf w' row.id).map (·.2) = _
      have hstatus : (transitioned row transition).deliveryStatus = transition.deliveryStatus := rfl
      rw [hstatus]
      unfold finalizationsOf at hbefore ⊢
      rw [hfinals]
      split_ifs
      · rw [hbefore]
        rfl
      · rw [List.filter_append, hbefore]
        simp [hid]
    · intro other hother
      rw [hclaims] at hother
      exact Or.inl hother
    · intro entry hentry
      rw [hfinals] at hentry
      split_ifs at hentry
      · exact Or.inl hentry
      · rcases List.mem_append.mp hentry with hentry | hentry
        · exact Or.inl hentry
        · rw [List.mem_singleton.mp hentry]
          exact Or.inr hid.symm
    · rw [hclaims]
      exact h.tokens
  · exact later_replaced h hr hrow rfl hpending hattempt.ge

theorem step_spec (lib : Library) {e : Event} (h : Inv w) (hfresh : FreshToken w e) :
    Inv (step lib w e) ∧ Later w (step lib w e) := by
  cases e with
  | report id exchangeAccountId createdAt =>
    unfold step
    dsimp only
    split
    · exact ⟨h, Later.refl w⟩
    · next notifications hok => exact report_step h id exchangeAccountId createdAt hok
  | claim exchangeAccountId input =>
    obtain ⟨notifications, copies, hok, hinv, hlater⟩ :=
      claim_step lib h exchangeAccountId hfresh
    simp only [step, hok]
    exact ⟨hinv, hlater⟩
  | finalize position settings attemptAt error =>
    unfold step
    dsimp only
    rcases hok : finalizeClaim lib w position settings attemptAt error with _ | w'
    · exact ⟨h, Later.refl w⟩
    · exact finalize_step h hok

/-! ### Runs -/

variable {events : List Event}

theorem inv_run (lib : Library) (h : Inv w) (hsafe : SafeRun (step lib) FreshToken w events) :
    Inv (run (step lib) w events) :=
  hsafe.invariant Inv (fun _ _ hinv hfresh => (step_spec lib hinv hfresh).1) h

theorem later_run (lib : Library) (h : Inv w) (hsafe : SafeRun (step lib) FreshToken w events) :
    Later w (run (step lib) w events) := by
  induction events generalizing w with
  | nil => exact Later.refl w
  | cons e events ih =>
    obtain ⟨hinv, hlater⟩ := step_spec lib h hsafe.1
    exact hlater.trans (ih hinv hsafe.2)

/-- A copy whose lease is on its notification is the last one that was handed out. -/
theorem last_of_live (h : Inv w) (hcopy : w.claims[position]? = some copy) (hlive : Live w copy)
    {later : ℕ} {copy' : ClaimedOperatorNotificationRecord} (hlt : position < later)
    (hcopy' : w.claims[later]? = some copy') : copy'.id ≠ copy.id := by
  intro heq
  obtain ⟨row, hrow, hid, htoken⟩ := hlive
  obtain ⟨-, hlast, -⟩ := h.last_of_lease hrow hid htoken (List.mem_of_getElem? hcopy)
  -- the last copy is one of those behind the position
  have hbehind : copy' ∈ (w.claims.drop (position + 1)).filter (·.id = row.id) := by
    refine List.mem_filter.mpr ⟨?_, ?_⟩
    · refine List.mem_of_getElem? (i := later - (position + 1)) ?_
      rw [List.getElem?_drop, show position + 1 + (later - (position + 1)) = later by omega]
      exact hcopy'
    · rw [decide_eq_true_eq, heq, hid]
  have hmem : copy ∈ w.claims.drop (position + 1) := by
    unfold claimsOf at hlast
    rw [← List.take_append_drop (position + 1) w.claims, List.filter_append,
      List.getLast?_append_of_ne_nil _ (List.ne_nil_of_mem hbehind)] at hlast
    exact (List.mem_filter.mp (List.mem_of_getLast? hlast)).1
  have hnodup := h.tokens.of_map
  rw [← List.take_append_drop (position + 1) w.claims, List.nodup_append] at hnodup
  refine hnodup.2.2 copy ?_ copy hmem rfl
  refine List.mem_of_getElem? (i := position) ?_
  rw [List.getElem?_take_of_lt (by omega)]
  exact hcopy

theorem finalizations_le_one (h : Inv w) (id : String) : (finalizationsOf w id).length ≤ 1 := by
  by_cases hid : id ∈ w.notifications.map (·.id)
  · obtain ⟨row, hrow, rfl⟩ := List.mem_map.mp hid
    rw [← List.length_map (·.2), (h.rows row hrow).finalized]
    split_ifs
    · exact Nat.zero_le 1
    · exact le_rfl
  · have hnone : finalizationsOf w id = [] := by
      refine List.filter_eq_nil_iff.mpr fun entry hentry => ?_
      rw [decide_eq_true_eq]
      exact fun heq => hid (heq ▸ h.finalized entry hentry)
    rw [hnone]
    exact Nat.zero_le 1

/-- The repository after the events. -/
def after (lib : Library) (events : List Event) : World := run (step lib) .empty events

/-- **Leases are linear.** However claims and finalizations interleave: at most one copy of a
notification has its lease, only the copy that was claimed last can be finalized, what is finalized
stays as it is and no count goes down, the count of a notification is the number of its claims, and it
is finalized at most once. -/
theorem leases_linear (lib : Library) {events : List Event}
    (h : SafeRun (step lib) FreshToken .empty events) :
    (∀ (i j : ℕ) copy copy', (after lib events).claims[i]? = some copy →
      (after lib events).claims[j]? = some copy' →
      Live (after lib events) copy → Live (after lib events) copy' →
      copy.id = copy'.id → i = j) ∧
    (∀ (position : ℕ) settings attemptAt error w',
      finalizeClaim lib (after lib events) position settings attemptAt error = some w' →
      ∃ copy, (after lib events).claims[position]? = some copy ∧
        Live (after lib events) copy ∧
        ∀ (later : ℕ) copy', position < later →
          (after lib events).claims[later]? = some copy' → copy'.id ≠ copy.id) ∧
    (∀ more, SafeRun (step lib) FreshToken (after lib events) more →
      Later (after lib events) (after lib (events ++ more))) ∧
    (∀ row ∈ (after lib events).notifications,
      row.attemptCount = (claimsOf (after lib events) row.id).length) ∧
    ∀ id, (finalizationsOf (after lib events) id).length ≤ 1 := by
  have hinv : Inv (after lib events) := inv_run lib inv_empty h
  refine ⟨?_, ?_, ?_, fun row hrow => (hinv.rows row hrow).count, finalizations_le_one hinv⟩
  · intro i j copy copy' hi hj hlive hlive' hid
    rcases Nat.lt_trichotomy i j with hlt | heq | hlt
    · exact absurd hid.symm (last_of_live hinv hi hlive hlt hj)
    · exact heq
    · exact absurd hid (last_of_live hinv hj hlive' hlt hi)
  · intro position settings attemptAt error w' hok
    obtain ⟨copy, -, row, hcopy, -, hrow, hid, htoken, -⟩ := finalizeClaim_eq_some hok
    have hlive : Live (after lib events) copy := ⟨row, hrow, hid, htoken⟩
    exact ⟨copy, hcopy, hlive, fun later copy' hlt hcopy' =>
      last_of_live hinv hcopy hlive hlt hcopy'⟩
  · intro more hmore
    have happend : after lib (events ++ more) = run (step lib) (after lib events) more :=
      run_append _ _ _ _
    rw [happend]
    exact later_run lib hinv hmore

/-- Two workers: the second claims after the first lease has run out, and the first one is late. -/
def overtaken : List Event :=
  [.report "n" "account" "2026-01-02T00:00:00.000Z",
   .claim "account" ⟨some 10, some "2026-01-02T00:00:01.000Z", "2026-01-02T00:00:01.000Z", "lease-1",
     "2026-01-02T00:00:31.000Z"⟩,
   .claim "account" ⟨some 10, some "2026-01-02T00:01:00.000Z", "2026-01-02T00:01:00.000Z", "lease-2",
     "2026-01-02T00:01:30.000Z"⟩,
   .finalize 0 ⟨5, 15000, 300000⟩ "2026-01-02T00:01:01.000Z" none,
   .finalize 1 ⟨5, 15000, 300000⟩ "2026-01-02T00:01:02.000Z" none]

def codeUnits : Library where
  localeCompare left right := if left < right then -1 else if left = right then 0 else 1
  addMillisecondsToIso isoTimestamp _ := isoTimestamp

theorem leases_linear_overtaken :
    (finalizationsOf (after codeUnits overtaken) "n").length = 1 ∧
      ∀ id, (finalizationsOf (after codeUnits overtaken) id).length ≤ 1 :=
  ⟨by decide +kernel, (leases_linear codeUnits (by decide +kernel)).2.2.2.2⟩

end AutoTrade.Telegram.NotificationLeases
