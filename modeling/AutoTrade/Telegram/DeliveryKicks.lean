import AutoTrade.Lib.Run
import Mathlib.Data.List.Induction
import Mathlib.Data.Int.Notation

/-! # Kicks of the delivery

A kick starts a delivery of its account, or, while one is in flight, leaves a note that another run
is wanted. The note is taken where the loop of the delivery goes on after a run, and by the handler
that ends the delivery. Calls, and the continuations of deliveries, run one after the other in any
order; the log records the kicks, the runs and the stop.

* `inv_run`: every delivery that is not over is the one in flight for its account, and an account
  whose last kick had no run since has the note.
* `kicks_served`: an account has one run in progress at most, none begins behind a stop, and a
  kick has a run behind it once the delivery in flight, if there is one, has come to its end. -/

namespace AutoTrade.Telegram.DeliveryKicks

open Lib.Run

/-! ### The service -/

inductive Mark
  | kicked (account : String)
  | began (account : String)
  | stopped
  deriving DecidableEq

/-- Where a call of `runDeliveryUntilIdle` is: its `runDelivery` is in progress; it has settled, and
the loop has not gone on; the call itself has settled, and its `finally` handler has not run; that
has. -/
inductive Phase
  | running
  | settled (ok : Bool)
  | returned
  | done

structure Delivery where
  account : String
  limit : ℤ
  phase : Phase

/-- The service, with every delivery it started. A delivery in flight is named by its position. -/
structure OperatorNotificationDeliveryService where
  deliveries : List Delivery := []
  inFlight : String → Option ℕ := fun _ => none
  rerunRequested : String → Bool := fun _ => false
  stopped : Bool := false
  /-- Ownership is held. -/
  held : Bool := true
  log : List Mark := []

namespace OperatorNotificationDeliveryService

variable (s : OperatorNotificationDeliveryService)

/-- A call that is refused, or that finds a delivery in flight, starts none. -/
def deliverPending (account : String) (limit : ℤ) : OperatorNotificationDeliveryService :=
  if s.held = false ∨ s.stopped = true ∨ (s.inFlight account).isSome = true then s
  else
    { s with
      deliveries := s.deliveries ++ [⟨account, limit, .running⟩]
      inFlight := Function.update s.inFlight account (some s.deliveries.length)
      log := s.log ++ [.began account] }

def kick (account : String) (limit : ℤ) : OperatorNotificationDeliveryService :=
  let s := { s with log := s.log ++ [.kicked account] }
  if s.stopped then s
  else if (s.inFlight account).isSome then
    { s with rerunRequested := Function.update s.rerunRequested account true }
  else s.deliverPending account limit

def stop : OperatorNotificationDeliveryService :=
  { s with stopped := true, rerunRequested := fun _ => false, log := s.log ++ [.stopped] }

def setPhase (index : ℕ) (phase : Phase) : OperatorNotificationDeliveryService :=
  { s with deliveries := s.deliveries.modify index fun delivery => { delivery with phase } }

/-- The note of an account is taken. -/
def takeRerun (account : String) : OperatorNotificationDeliveryService :=
  { s with rerunRequested := Function.update s.rerunRequested account false }

/-- `runDelivery` settles. -/
def settle (index : ℕ) (ok : Bool) : OperatorNotificationDeliveryService :=
  match s.deliveries[index]? with
  | some ⟨_, _, .running⟩ => s.setPhase index (.settled ok)
  | _ => s

/-- The loop goes on after a run. A run that finds ownership gone ends at once. -/
def resume (index : ℕ) : OperatorNotificationDeliveryService :=
  match s.deliveries[index]? with
  | some ⟨account, _, .settled true⟩ =>
    if s.stopped = false ∧ s.rerunRequested account = true then
      let s := (s.takeRerun account).setPhase index (if s.held then .running else .settled false)
      { s with log := s.log ++ [.began account] }
    else s.setPhase index .returned
  | some ⟨_, _, .settled false⟩ => s.setPhase index .returned
  | _ => s

/-- The `finally` handler. -/
def finish (index : ℕ) : OperatorNotificationDeliveryService :=
  match s.deliveries[index]? with
  | some ⟨account, limit, .returned⟩ =>
    let ended := s.setPhase index .done
    if ended.inFlight account = some index then
      let ended := { ended with inFlight := Function.update ended.inFlight account none }
      if s.stopped = false ∧ s.rerunRequested account = true then
        (ended.takeRerun account).kick account limit
      else ended
    else ended
  | _ => s

end OperatorNotificationDeliveryService

open OperatorNotificationDeliveryService

inductive Event
  | kick (account : String) (limit : ℤ)
  | deliverPending (account : String) (limit : ℤ)
  | stop
  | loseOwnership
  | settle (index : ℕ) (ok : Bool)
  | resume (index : ℕ)
  | finish (index : ℕ)

def step (s : OperatorNotificationDeliveryService) : Event → OperatorNotificationDeliveryService
  | .kick account limit => s.kick account limit
  | .deliverPending account limit => s.deliverPending account limit
  | .stop => s.stop
  | .loseOwnership => { s with held := false }
  | .settle index ok => s.settle index ok
  | .resume index => s.resume index
  | .finish index => s.finish index

/-- The service after the events. -/
def after (events : List Event) : OperatorNotificationDeliveryService := run step {} events

/-! ### The invariant -/

/-- The last kick of the account had no run since. -/
def unserved (account : String) (log : List Mark) : Bool :=
  log.foldl (fun waiting mark => match mark with
    | .kicked other => waiting || other = account
    | .began other => waiting && other ≠ account
    | .stopped => waiting) false

variable {s : OperatorNotificationDeliveryService} {account : String} {log : List Mark}
  (other : String)

@[simp] theorem unserved_kicked :
    unserved account (log ++ [.kicked other]) = (unserved account log || other = account) := by
  simp [unserved]

@[simp] theorem unserved_began :
    unserved account (log ++ [.began other]) = (unserved account log && other ≠ account) := by
  simp [unserved]

@[simp] theorem unserved_stopped : unserved account (log ++ [.stopped]) = unserved account log := by
  simp [unserved]

theorem unserved_of_kick {pre post : List Mark} (h : .began account ∉ post) :
    unserved account (pre ++ .kicked account :: post) = true := by
  induction post using List.reverseRecOn with
  | nil => simp
  | append_singleton post mark ih =>
    rw [List.mem_append, not_or] at h
    have hsplit : pre ++ .kicked account :: (post ++ [mark]) =
        (pre ++ .kicked account :: post) ++ [mark] := by simp
    rw [hsplit]
    cases mark with
    | kicked other => rw [unserved_kicked, ih h.1, Bool.true_or]
    | began other =>
      have hne : other ≠ account := by
        rintro rfl
        exact h.2 List.mem_cons_self
      rw [unserved_began, ih h.1, Bool.true_and]
      exact decide_eq_true hne
    | stopped => rw [unserved_stopped, ih h.1]

/-- No run begins behind a stop. -/
def QuietAfterStop (log : List Mark) : Prop :=
  ∀ pre post, log = pre ++ .stopped :: post → ∀ account, .began account ∉ post

/-- A delivery that is not over is the one in flight for its account, a note is only there while one
is in flight, and the log agrees with the stop. -/
structure Sound (s : OperatorNotificationDeliveryService) : Prop where
  flights : ∀ account index, s.inFlight account = some index ↔
    ∃ delivery, s.deliveries[index]? = some delivery ∧ delivery.account = account ∧
      delivery.phase ≠ .done
  noted : ∀ account, s.rerunRequested account = true →
    (s.inFlight account).isSome = true ∧ s.stopped = false
  stopped : s.stopped = false → .stopped ∉ s.log
  quiet : QuietAfterStop s.log

/-- An account whose last kick had no run since has the note, unless it is `except`. -/
def Noted (s : OperatorNotificationDeliveryService) (except : Option String) : Prop :=
  s.stopped = false → s.held = true → ∀ account, except ≠ some account →
    unserved account s.log = true → s.rerunRequested account = true

structure Inv (s : OperatorNotificationDeliveryService) : Prop extends Sound s where
  waits : Noted s none

theorem quiet_append {mark : Mark} (h : QuietAfterStop log)
    (hmark : ∀ account, mark = .began account → .stopped ∉ log) : QuietAfterStop (log ++ [mark]) := by
  intro pre post heq account hmem
  rcases List.eq_nil_or_concat post with rfl | ⟨post', last, rfl⟩
  · cases hmem
  · rw [List.concat_eq_append] at heq hmem
    have hsplit : log ++ [mark] = (pre ++ .stopped :: post') ++ [last] := by rw [heq]; simp
    obtain ⟨hlog, hlast⟩ := List.append_inj' hsplit rfl
    rw [List.mem_append] at hmem
    rcases hmem with hmem | hmem
    · exact h pre post' hlog account hmem
    · rw [← List.mem_singleton.mp hmem] at hlast
      have hno := hmark account (List.singleton_inj.mp hlast)
      exact hno (by rw [hlog]; simp)

/-! ### The parts of a step -/

variable {index : ℕ} {delivery : Delivery} {phase : Phase} {limit : ℤ}

theorem getElem?_setPhase (index j : ℕ) (phase : Phase) :
    (s.setPhase index phase).deliveries[j]? = (s.deliveries[j]?).map fun delivery =>
      if index = j then { delivery with phase } else delivery := by
  unfold setPhase
  rw [List.getElem?_modify]
  cases s.deliveries[j]? with
  | none => rfl
  | some delivery =>
    by_cases hj : index = j
    · simp [hj]
    · simp [hj]

theorem Sound.kicked (h : Sound s) (account : String) :
    Sound { s with log := s.log ++ [.kicked account] } where
  flights := h.flights
  noted := h.noted
  stopped hs := by simpa using h.stopped hs
  quiet := quiet_append h.quiet fun account heq => by cases heq

theorem Sound.setPhase (h : Sound s) (hd : s.deliveries[index]? = some delivery)
    (hlive : delivery.phase ≠ .done) (hphase : phase ≠ .done) : Sound (s.setPhase index phase) where
  flights account i := by
    refine (h.flights account i).trans ?_
    rw [getElem?_setPhase]
    by_cases hi : index = i
    · subst hi
      simp [hd, hlive, hphase]
    · simp [hi]
  noted := h.noted
  stopped := h.stopped
  quiet := h.quiet

theorem Sound.takeRerun (h : Sound s) (account : String) : Sound (s.takeRerun account) where
  flights := h.flights
  noted other hother := by
    have hold : s.rerunRequested other = true := by
      unfold OperatorNotificationDeliveryService.takeRerun at hother
      by_cases heq : other = account
      · simp [heq] at hother
      · simpa [heq] using hother
    exact h.noted other hold
  stopped := h.stopped
  quiet := h.quiet

theorem Sound.began (h : Sound s) (account : String) (hs : s.stopped = false) :
    Sound { s with log := s.log ++ [.began account] } where
  flights := h.flights
  noted := h.noted
  stopped _ := by simpa using h.stopped hs
  quiet := quiet_append h.quiet fun _ _ => h.stopped hs

/-- The delivery of an account is over, and no note is left for it. -/
theorem Sound.over (h : Sound s) (hflight : s.inFlight account = some index)
    (hrerun : s.rerunRequested account = false) :
    Sound { s.setPhase index .done with inFlight := Function.update s.inFlight account none } where
  flights other i := by
    obtain ⟨delivery, hd, haccount, hlive⟩ := (h.flights account index).mp hflight
    have hnew := getElem?_setPhase (s := s) index i .done
    change Function.update s.inFlight account none other = some i ↔
      ∃ delivery, (s.setPhase index .done).deliveries[i]? = some delivery ∧ _
    rw [hnew]
    by_cases hother : other = account
    · subst hother
      rw [Function.update_self]
      refine iff_of_false (by simp) ?_
      rintro ⟨last, hlast, hlastAccount, hlastPhase⟩
      by_cases hi : index = i
      · subst hi
        rw [hd] at hlast
        simp only [Option.map_some, if_pos, Option.some.injEq] at hlast
        rw [← hlast] at hlastPhase
        exact hlastPhase rfl
      · simp only [if_neg hi, Option.map_id'] at hlast
        have hsame := (h.flights other i).mpr ⟨last, hlast, hlastAccount, hlastPhase⟩
        rw [hflight] at hsame
        exact hi (Option.some.inj hsame)
    · rw [Function.update_of_ne hother]
      refine (h.flights other i).trans ?_
      by_cases hi : index = i
      · subst hi
        refine iff_of_false ?_ ?_
        · rintro ⟨last, hlast, hlastAccount, -⟩
          rw [hd] at hlast
          rw [← Option.some.inj hlast, haccount] at hlastAccount
          exact hother hlastAccount.symm
        · rintro ⟨last, hlast, -, hlastPhase⟩
          rw [hd] at hlast
          simp only [Option.map_some, if_pos, Option.some.injEq] at hlast
          rw [← hlast] at hlastPhase
          exact hlastPhase rfl
      · simp only [if_neg hi, Option.map_id']
  noted other hother := by
    have hne : other ≠ account := by
      rintro rfl
      have hfalse : s.rerunRequested other = true := hother
      rw [hrerun] at hfalse
      cases hfalse
    obtain ⟨hsome, hs⟩ := h.noted other hother
    refine ⟨?_, hs⟩
    change (Function.update s.inFlight account none other).isSome = true
    rwa [Function.update_of_ne hne]
  stopped := h.stopped
  quiet := h.quiet

theorem Sound.start (h : Sound s) (account : String) (limit : ℤ) (hs : s.stopped = false)
    (hflight : s.inFlight account = none) :
    Sound { s with
      deliveries := s.deliveries ++ [⟨account, limit, .running⟩]
      inFlight := Function.update s.inFlight account (some s.deliveries.length)
      log := s.log ++ [.began account] } where
  flights other i := by
    change Function.update s.inFlight account (some s.deliveries.length) other = some i ↔
      ∃ delivery, (s.deliveries ++ [⟨account, limit, .running⟩])[i]? = some delivery ∧ _
    by_cases hi : i < s.deliveries.length
    · rw [List.getElem?_append_left hi]
      by_cases hother : other = account
      · subst hother
        rw [Function.update_self, ← h.flights other i, hflight]
        refine iff_of_false (fun heq => ?_) (by simp)
        have := Option.some.inj heq
        omega
      · rw [Function.update_of_ne hother]
        exact h.flights other i
    · rw [List.getElem?_append_right (Nat.le_of_not_lt hi)]
      by_cases hother : other = account
      · subst hother
        rw [Function.update_self]
        by_cases hlast : i = s.deliveries.length
        · subst hlast
          simp
        · have hpos : ∃ k, i - s.deliveries.length = k + 1 := ⟨i - s.deliveries.length - 1, by omega⟩
          obtain ⟨k, hk⟩ := hpos
          simp [hk, Ne.symm hlast]
      · rw [Function.update_of_ne hother]
        refine iff_of_false (fun heq => ?_) ?_
        · obtain ⟨delivery, hd, -⟩ := (h.flights other i).mp heq
          exact hi (List.getElem?_eq_some_iff.mp hd).1
        · rintro ⟨delivery, hd, haccount, -⟩
          have hmem := List.mem_singleton.mp (List.mem_of_getElem? hd)
          rw [hmem] at haccount
          exact hother haccount.symm
  noted other hother := by
    obtain ⟨hsome, hs⟩ := h.noted other hother
    refine ⟨?_, hs⟩
    have hne : other ≠ account := by
      rintro rfl
      rw [hflight] at hsome
      cases hsome
    change (Function.update s.inFlight account _ other).isSome = true
    rwa [Function.update_of_ne hne]
  stopped _ := by simpa using h.stopped hs
  quiet := quiet_append h.quiet fun _ _ => h.stopped hs

/-! ### Every step keeps the invariant -/

theorem Noted.weaken (h : Noted s none) : Noted s (some account) :=
  fun hs hheld other _ => h hs hheld other (by simp)

theorem Sound.inv_deliverPending (h : Sound s) (hnoted : Noted s (some account))
    (hs : s.stopped = false) (hflight : s.inFlight account = none) (limit : ℤ) :
    Inv (s.deliverPending account limit) := by
  unfold deliverPending
  by_cases hheld : s.held = true
  · rw [if_neg (by simp [hheld, hs, hflight])]
    refine ⟨h.start account limit hs hflight, fun _ _ other _ hunserved => ?_⟩
    rw [unserved_began, Bool.and_eq_true] at hunserved
    have hne : account ≠ other := by simpa using hunserved.2
    exact hnoted hs hheld other (by simpa using hne) hunserved.1
  · rw [if_pos (.inl (by simpa using hheld))]
    exact ⟨h, fun _ hheld' => absurd hheld' hheld⟩

theorem inv_deliverPending (h : Inv s) (account : String) (limit : ℤ) :
    Inv (s.deliverPending account limit) := by
  by_cases hfree : s.stopped = false ∧ s.inFlight account = none
  · exact h.toSound.inv_deliverPending h.waits.weaken hfree.1 hfree.2 limit
  · unfold deliverPending
    rw [if_pos]
    · exact h
    · by_cases hs : s.stopped = false
      · right; right
        rw [Option.isSome_iff_ne_none]
        exact fun hnone => hfree ⟨hs, hnone⟩
      · exact .inr (.inl (by simpa using hs))

/-- A kick serves its account, or leaves the note for it. -/
theorem Sound.inv_kick (h : Sound s) (hnoted : Noted s (some account)) (limit : ℤ) :
    Inv (s.kick account limit) := by
  have hkicked := h.kicked account
  have hothers : Noted { s with log := s.log ++ [.kicked account] } (some account) := by
    intro hs hheld other hother hunserved
    have hne : account ≠ other := by simpa using hother
    rw [unserved_kicked, decide_eq_false hne, Bool.or_false] at hunserved
    exact hnoted hs hheld other hother hunserved
  unfold kick
  dsimp only
  by_cases hs : s.stopped = true
  · rw [if_pos hs]
    refine ⟨hkicked, fun hgoing => ?_⟩
    have hboth : s.stopped = false := hgoing
    rw [hs] at hboth
    cases hboth
  · rw [if_neg hs]
    have hgoing : s.stopped = false := by simpa using hs
    by_cases hflight : (s.inFlight account).isSome = true
    · rw [if_pos hflight]
      refine ⟨⟨hkicked.flights, fun other hother => ?_, hkicked.stopped, hkicked.quiet⟩,
        fun _ hheld other _ hunserved => ?_⟩
      · by_cases heq : other = account
        · subst heq
          exact ⟨hflight, hgoing⟩
        · have hold : Function.update s.rerunRequested account true other = true := hother
          rw [Function.update_of_ne heq] at hold
          exact h.noted other hold
      · change Function.update s.rerunRequested account true other = true
        by_cases heq : other = account
        · subst heq
          exact Function.update_self ..
        · rw [Function.update_of_ne heq]
          exact hothers hgoing hheld other (by simpa using Ne.symm heq) hunserved
    · rw [if_neg hflight]
      exact hkicked.inv_deliverPending hothers hgoing (by simpa using hflight) limit

section

variable (h : Inv s)
include h

theorem inv_stop : Inv s.stop where
  flights := h.flights
  noted other hother := by cases hother
  stopped hs := by cases hs
  quiet := quiet_append h.quiet fun account heq => by cases heq
  waits hs := by cases hs

theorem inv_loseOwnership : Inv { s with held := false } where
  flights := h.flights
  noted := h.noted
  stopped := h.stopped
  quiet := h.quiet
  waits _ hheld := by cases hheld

theorem inv_setPhase (hd : s.deliveries[index]? = some delivery) (hlive : delivery.phase ≠ .done)
    (hphase : phase ≠ .done) : Inv (s.setPhase index phase) :=
  ⟨h.toSound.setPhase hd hlive hphase, h.waits⟩

theorem inv_settle (index : ℕ) (ok : Bool) : Inv (s.settle index ok) := by
  unfold settle
  split
  · next hd => exact inv_setPhase h hd (by simp) (by simp)
  · exact h

theorem inv_rerun (hd : s.deliveries[index]? = some delivery) (hlive : delivery.phase ≠ .done)
    (hphase : phase ≠ .done) (hs : s.stopped = false) (account : String) :
    Inv { (s.takeRerun account).setPhase index phase with log := s.log ++ [.began account] } := by
  refine ⟨((h.toSound.takeRerun account).setPhase hd hlive hphase).began account hs,
    fun _ hheld other _ hunserved => ?_⟩
  rw [unserved_began, Bool.and_eq_true] at hunserved
  have hne : account ≠ other := by simpa using hunserved.2
  change Function.update s.rerunRequested account false other = true
  rw [Function.update_of_ne (Ne.symm hne)]
  exact h.waits hs hheld other (by simp) hunserved.1

theorem inv_resume (index : ℕ) : Inv (s.resume index) := by
  unfold resume
  split
  · next account _ hd =>
    split
    · next hnote => exact inv_rerun h hd (by simp) (by split <;> simp) hnote.1 account
    · exact inv_setPhase h hd (by simp) (by simp)
  · next hd => exact inv_setPhase h hd (by simp) (by simp)
  · exact h

theorem inv_finish (index : ℕ) : Inv (s.finish index) := by
  unfold finish
  split
  · next account limit hd =>
    have hflight : s.inFlight account = some index :=
      (h.flights account index).mpr ⟨_, hd, rfl, by simp⟩
    have hsame : (s.setPhase index .done).inFlight account = some index := hflight
    dsimp only
    rw [if_pos hsame]
    split
    · -- the handler kicks: its account may lack a run only until then
      have htaken : (s.takeRerun account).rerunRequested account = false := Function.update_self ..
      refine Sound.inv_kick ((h.toSound.takeRerun account).over hflight htaken)
        (fun hs hheld other hother hunserved => ?_) limit
      have hne : other ≠ account := by simpa [eq_comm] using hother
      change Function.update s.rerunRequested account false other = true
      rw [Function.update_of_ne hne]
      exact h.waits hs hheld other (by simp) hunserved
    · next hnote =>
      have hnone : s.rerunRequested account = false := by
        by_contra htrue
        have hthere : s.rerunRequested account = true := by simpa using htrue
        exact hnote ⟨(h.noted account hthere).2, hthere⟩
      exact ⟨h.toSound.over hflight hnone, h.waits⟩
  · exact h

theorem inv_step (event : Event) : Inv (step s event) := by
  cases event with
  | kick account limit => exact h.toSound.inv_kick h.waits.weaken limit
  | deliverPending account limit => exact inv_deliverPending h account limit
  | stop => exact inv_stop h
  | loseOwnership => exact inv_loseOwnership h
  | settle index ok => exact inv_settle h index ok
  | resume index => exact inv_resume h index
  | finish index => exact inv_finish h index

end

theorem inv_init : Inv {} where
  flights account index := by simp
  noted account h := by cases h
  stopped _ := List.not_mem_nil
  quiet pre post h := by simp at h
  waits _ _ account _ h := by cases h

variable (events : List Event)

theorem inv_run : Inv (after events) :=
  run_invariant Inv (fun _ event h => inv_step h event) inv_init events

/-! ### A note is served -/

/-- The log is only added to, and the service stays stopped. -/
structure Grows (s s' : OperatorNotificationDeliveryService) : Prop where
  log : s.log <+: s'.log
  stopped : s.stopped = true → s'.stopped = true
  held : s'.held = true → s.held = true

theorem Grows.refl (s : OperatorNotificationDeliveryService) : Grows s s :=
  ⟨List.prefix_rfl, id, id⟩

theorem Grows.trans {s s' s'' : OperatorNotificationDeliveryService} (h : Grows s s')
    (h' : Grows s' s'') : Grows s s'' :=
  ⟨h.log.trans h'.log, fun hs => h'.stopped (h.stopped hs), fun hheld => h.held (h'.held hheld)⟩

theorem grows_deliverPending (account : String) (limit : ℤ) :
    Grows s (s.deliverPending account limit) := by
  unfold deliverPending
  split
  · exact .refl s
  · exact ⟨List.prefix_append .., id, id⟩

theorem grows_kick (account : String) (limit : ℤ) : Grows s (s.kick account limit) := by
  have hkicked : Grows s { s with log := s.log ++ [.kicked account] } :=
    ⟨List.prefix_append .., id, id⟩
  unfold kick
  dsimp only
  split
  · exact hkicked
  · split
    · exact ⟨List.prefix_append .., id, id⟩
    · exact hkicked.trans (grows_deliverPending account limit)

theorem grows_step (event : Event) : Grows s (step s event) := by
  cases event with
  | kick account limit => exact grows_kick account limit
  | deliverPending account limit => exact grows_deliverPending account limit
  | stop => exact ⟨List.prefix_append .., fun _ => rfl, id⟩
  | loseOwnership => exact ⟨List.prefix_rfl, id, fun hheld => by cases hheld⟩
  | settle index ok =>
    unfold step settle
    dsimp only
    split
    · exact ⟨List.prefix_rfl, id, id⟩
    · exact .refl s
  | resume index =>
    unfold step resume
    dsimp only
    split
    · split
      · exact ⟨List.prefix_append .., id, id⟩
      · exact ⟨List.prefix_rfl, id, id⟩
    · exact ⟨List.prefix_rfl, id, id⟩
    · exact .refl s
  | finish index =>
    unfold step finish
    dsimp only
    split
    · split
      · split
        · refine Grows.trans ?_ (grows_kick _ _)
          exact ⟨List.prefix_rfl, id, id⟩
        · exact ⟨List.prefix_rfl, id, id⟩
      · exact ⟨List.prefix_rfl, id, id⟩
    · exact .refl s

theorem grows_run : Grows s (run step s events) :=
  run_invariant (Grows s) (fun _ event h => h.trans (grows_step event)) (.refl s) events

/-- The account has the note, and the delivery in flight for it is at the index. -/
structure Pending (s : OperatorNotificationDeliveryService) (account : String) (index : ℕ)
    (phase : Phase) : Prop where
  note : s.rerunRequested account = true
  flight : s.inFlight account = some index
  there : (s.deliveries[index]?).map Delivery.phase = some phase

/-- The log grew by a part in which a run of the account begins. -/
def Served (s s' : OperatorNotificationDeliveryService) (account : String) : Prop :=
  ∃ later, s'.log = s.log ++ later ∧ .began account ∈ later

theorem Served.trans {s s' s'' : OperatorNotificationDeliveryService} (h : Served s s' account)
    (hgrows : Grows s' s'') : Served s s'' account := by
  obtain ⟨later, hlog, hmem⟩ := h
  obtain ⟨more, hmore⟩ := hgrows.log
  exact ⟨later ++ more, by rw [← hmore, hlog, List.append_assoc], List.mem_append_left _ hmem⟩

theorem Served.of_grows {s s' s'' : OperatorNotificationDeliveryService} (hgrows : Grows s s')
    (h : Served s' s'' account) : Served s s'' account := by
  obtain ⟨later, hlog, hmem⟩ := h
  obtain ⟨more, hmore⟩ := hgrows.log
  exact ⟨more ++ later, by rw [hlog, ← hmore, List.append_assoc], List.mem_append_right _ hmem⟩

section

variable (h : Pending s account index phase)
include h

theorem Pending.deliverPending (limit : ℤ) :
    Pending (s.deliverPending other limit) account index phase := by
  unfold OperatorNotificationDeliveryService.deliverPending
  split
  · exact h
  · next hstart =>
    have hne : account ≠ other := by
      rintro rfl
      exact hstart (.inr (.inr (by rw [h.flight]; rfl)))
    obtain ⟨delivery, hd, -⟩ := Option.map_eq_some_iff.mp h.there
    have hi : index < s.deliveries.length := (List.getElem?_eq_some_iff.mp hd).1
    refine ⟨h.note, ?_, ?_⟩
    · change Function.update s.inFlight other _ account = some index
      rw [Function.update_of_ne hne]
      exact h.flight
    · change ((s.deliveries ++ [_])[index]?).map Delivery.phase = some phase
      rw [List.getElem?_append_left hi]
      exact h.there

theorem Pending.kick (limit : ℤ) : Pending (s.kick other limit) account index phase := by
  have hkicked : Pending { s with log := s.log ++ [.kicked other] } account index phase :=
    ⟨h.note, h.flight, h.there⟩
  unfold OperatorNotificationDeliveryService.kick
  dsimp only
  split
  · exact hkicked
  · split
    · refine ⟨?_, h.flight, h.there⟩
      change Function.update s.rerunRequested other true account = true
      by_cases hother : account = other
      · rw [hother]
        exact Function.update_self ..
      · rw [Function.update_of_ne hother]
        exact h.note
    · exact hkicked.deliverPending other limit

theorem Pending.setPhase (i : ℕ) (next : Phase) :
    Pending (s.setPhase i next) account index (if i = index then next else phase) := by
  refine ⟨h.note, h.flight, ?_⟩
  obtain ⟨delivery, hd, hphase⟩ := Option.map_eq_some_iff.mp h.there
  rw [getElem?_setPhase, hd]
  by_cases hi : i = index
  · simp [hi]
  · simp [hi, hphase]

theorem Pending.takeRerun {other : String} (hne : account ≠ other) :
    Pending (s.takeRerun other) account index phase := by
  refine ⟨?_, h.flight, h.there⟩
  change Function.update s.rerunRequested other false account = true
  rw [Function.update_of_ne hne]
  exact h.note

end

theorem served_kick (hs : s.stopped = false) (hheld : s.held = true)
    (hflight : s.inFlight account = none) (limit : ℤ) : Served s (s.kick account limit) account := by
  refine ⟨[.kicked account, .began account], ?_, by simp⟩
  simp [kick, OperatorNotificationDeliveryService.deliverPending, hs, hheld, hflight]

/-- What has still to happen to the delivery in flight until it is over. -/
def Awaits (index : ℕ) (phase : Phase) (events : List Event) : Prop :=
  match phase with
  | .running => ∃ ok, [.settle index ok, .resume index, .finish index].Sublist events
  | .settled _ => [.resume index, .finish index].Sublist events
  | .returned => [.finish index].Sublist events
  | .done => False

/-- The event the delivery waits for next. -/
def IsNext (index : ℕ) : Phase → Event → Prop
  | .running, event => ∃ ok, event = .settle index ok
  | .settled _, event => event = .resume index
  | .returned, event => event = .finish index
  | .done, _ => False

variable {event : Event} {events : List Event}

theorem awaits_skip (h : Awaits index phase (event :: events)) (hne : ¬ IsNext index phase event) :
    Awaits index phase events := by
  cases phase with
  | running =>
    obtain ⟨ok, hsub⟩ := h
    rcases List.cons_sublist_cons'.mp hsub with hsub | ⟨heq, -⟩
    · exact ⟨ok, hsub⟩
    · exact absurd ⟨ok, heq.symm⟩ hne
  | settled ok =>
    rcases List.cons_sublist_cons'.mp h with hsub | ⟨heq, -⟩
    · exact hsub
    · exact absurd heq.symm hne
  | returned =>
    rcases List.cons_sublist_cons'.mp h with hsub | ⟨heq, -⟩
    · exact hsub
    · exact absurd heq.symm hne
  | done => exact h

theorem awaits_settled (ok : Bool) (h : Awaits index .running (event :: events)) :
    Awaits index (.settled ok) events := by
  obtain ⟨ok', hsub⟩ := h
  rcases List.cons_sublist_cons'.mp hsub with hsub | ⟨-, hsub⟩
  · exact (List.sublist_cons_self _ _).trans hsub
  · exact hsub

theorem awaits_returned {ok : Bool} (h : Awaits index (.settled ok) (event :: events)) :
    Awaits index .returned events := by
  rcases List.cons_sublist_cons'.mp h with hsub | ⟨-, hsub⟩
  · exact (List.sublist_cons_self _ _).trans hsub
  · exact hsub

theorem awaits_of_sublist {ok : Bool} (hphase : phase ≠ .done)
    (h : [.settle index ok, .resume index, .finish index].Sublist events) :
    Awaits index phase events := by
  have hrest := (List.sublist_cons_self (Event.settle index ok) _).trans h
  cases phase with
  | running => exact ⟨ok, h⟩
  | settled _ => exact hrest
  | returned => exact (List.sublist_cons_self _ _).trans hrest
  | done => exact absurd rfl hphase

/-- After the step the account is served, or the delivery in flight is as far as the event brought
it. -/
def Advances (s s' : OperatorNotificationDeliveryService) (account : String) (index : ℕ)
    (phase : Phase) (event : Event) : Prop :=
  Served s s' account ∨ ∃ next, Pending s' account index next ∧
    ∀ events, Awaits index phase (event :: events) → Awaits index next events

theorem advances_same {s' : OperatorNotificationDeliveryService}
    (h : Pending s' account index phase) (hne : ¬ IsNext index phase event) :
    Advances s s' account index phase event :=
  .inr ⟨phase, h, fun _ hawaits => awaits_skip hawaits hne⟩

section

variable (h : Pending s account index phase)
include h

theorem Pending.ne_account (hinv : Inv s) {i : ℕ} (hd : s.deliveries[i]? = some delivery)
    (hlive : delivery.phase ≠ .done) (hi : i ≠ index) : account ≠ delivery.account := by
  intro heq
  have hflight := (hinv.flights account i).mpr ⟨delivery, hd, heq.symm, hlive⟩
  rw [h.flight] at hflight
  exact hi (Option.some.inj hflight).symm

theorem Pending.account_eq (hinv : Inv s) (hd : s.deliveries[index]? = some delivery) :
    delivery.account = account := by
  obtain ⟨other, hother, haccount, -⟩ := (hinv.flights account index).mp h.flight
  rw [hd] at hother
  rw [Option.some.inj hother, haccount]

theorem Pending.phase_eq (hd : s.deliveries[index]? = some delivery) : delivery.phase = phase := by
  have hthere := h.there
  rw [hd] at hthere
  exact Option.some.inj hthere

theorem Pending.not_stopped (hinv : Inv s) :
    s.stopped = false := (hinv.noted account h.note).2

theorem advances_settle (i : ℕ) (ok : Bool) :
    Advances s (s.settle i ok) account index phase (.settle i ok) := by
  unfold OperatorNotificationDeliveryService.settle
  split
  · next hd =>
    by_cases hi : i = index
    · subst hi
      have hphase := h.phase_eq hd
      subst hphase
      refine .inr ⟨.settled ok, ?_, fun _ => awaits_settled ok⟩
      simpa using h.setPhase i (.settled ok)
    · refine advances_same (by simpa [hi] using h.setPhase i (.settled ok)) ?_
      cases phase <;> simp [IsNext, hi]
  · next hd =>
    refine advances_same h fun hnext => ?_
    obtain ⟨delivery, hdelivery, hphase⟩ := Option.map_eq_some_iff.mp h.there
    cases phase with
    | running =>
      obtain ⟨_, heq⟩ := hnext
      injection heq with hi _
      obtain ⟨account', limit', phase'⟩ := delivery
      cases hphase
      exact hd account' limit' (by rw [hi]; exact hdelivery)
    | settled ok => cases hnext
    | returned => cases hnext
    | done => cases hnext

end

section

variable (hinv : Inv s) (h : Pending s account index phase)
include hinv h

theorem advances_resume (i : ℕ) : Advances s (s.resume i) account index phase (.resume i) := by
  unfold OperatorNotificationDeliveryService.resume
  split
  · next account' limit hd =>
    by_cases hi : i = index
    · subst hi
      have haccount := h.account_eq hinv hd
      dsimp only at haccount
      subst haccount
      rw [if_pos ⟨h.not_stopped hinv, h.note⟩]
      exact .inl ⟨[.began account'], rfl, List.mem_singleton_self _⟩
    · have hne : account ≠ account' := h.ne_account hinv hd (by simp) hi
      have hnot : ¬ IsNext index phase (.resume i) := by cases phase <;> simp [IsNext, hi]
      split
      · refine advances_same ?_ hnot
        have hnext := (h.takeRerun hne).setPhase i (if s.held then .running else .settled false)
        rw [if_neg hi] at hnext
        exact ⟨hnext.note, hnext.flight, hnext.there⟩
      · exact advances_same (by simpa [hi] using h.setPhase i .returned) hnot
  · next hd =>
    by_cases hi : i = index
    · subst hi
      have hphase := h.phase_eq hd
      subst hphase
      refine .inr ⟨.returned, ?_, fun _ => awaits_returned⟩
      simpa using h.setPhase i .returned
    · refine advances_same (by simpa [hi] using h.setPhase i .returned) ?_
      cases phase <;> simp [IsNext, hi]
  · next htrue hfalse =>
    refine advances_same h fun hnext => ?_
    obtain ⟨delivery, hdelivery, hphase⟩ := Option.map_eq_some_iff.mp h.there
    cases phase with
    | settled ok =>
      injection hnext with hi
      obtain ⟨account', limit', phase'⟩ := delivery
      cases hphase
      cases ok with
      | true => exact htrue account' limit' (by rw [hi]; exact hdelivery)
      | false => exact hfalse account' limit' (by rw [hi]; exact hdelivery)
    | running =>
      obtain ⟨_, heq⟩ := hnext
      cases heq
    | returned => cases hnext
    | done => cases hnext

theorem advances_finish (hheld : s.held = true) (i : ℕ) :
    Advances s (s.finish i) account index phase (.finish i) := by
  unfold OperatorNotificationDeliveryService.finish
  split
  · next account' limit hd =>
    have hflight : s.inFlight account' = some i :=
      (hinv.flights account' i).mpr ⟨_, hd, rfl, by simp⟩
    have hsame : (s.setPhase i .done).inFlight account' = some i := hflight
    dsimp only
    rw [if_pos hsame]
    by_cases hi : i = index
    · subst hi
      have haccount := h.account_eq hinv hd
      dsimp only at haccount
      subst haccount
      have hs := h.not_stopped hinv
      have hnote : s.stopped = false ∧ s.rerunRequested account' = true := ⟨hs, h.note⟩
      rw [if_pos hnote]
      have hfree : Function.update s.inFlight account' none account' = none :=
        Function.update_self ..
      have htaken : Grows s (takeRerun { s.setPhase i .done with
          inFlight := Function.update s.inFlight account' none } account') :=
        ⟨List.prefix_rfl, id, id⟩
      refine .inl (Served.of_grows htaken ?_)
      refine served_kick ?_ ?_ ?_ limit
      · exact hs
      · exact hheld
      · exact hfree
    · have hne : account ≠ account' := h.ne_account hinv hd (by simp) hi
      have hnot : ¬ IsNext index phase (.finish i) := by cases phase <;> simp [IsNext, hi]
      have hover : Pending { s.setPhase i .done with
          inFlight := Function.update s.inFlight account' none } account index phase := by
        have hnext := h.setPhase i .done
        rw [if_neg hi] at hnext
        refine ⟨hnext.note, ?_, hnext.there⟩
        change Function.update s.inFlight account' none account = some index
        rw [Function.update_of_ne hne]
        exact h.flight
      split
      · exact advances_same ((hover.takeRerun hne).kick account' limit) hnot
      · exact advances_same hover hnot
  · next hd =>
    refine advances_same h fun hnext => ?_
    obtain ⟨delivery, hdelivery, hphase⟩ := Option.map_eq_some_iff.mp h.there
    cases phase with
    | returned =>
      injection hnext with hi
      obtain ⟨account', limit', phase'⟩ := delivery
      cases hphase
      exact hd account' limit' (by rw [hi]; exact hdelivery)
    | running =>
      obtain ⟨_, heq⟩ := hnext
      cases heq
    | settled ok => cases hnext
    | done => cases hnext

theorem advances_step (event : Event) (hs : (step s event).stopped = false)
    (hheld : (step s event).held = true) : Advances s (step s event) account index phase event := by
  have hheld' : s.held = true := (grows_step event).held hheld
  cases event with
  | kick other limit =>
    exact advances_same (h.kick other limit) (by cases phase <;> simp [IsNext])
  | deliverPending other limit =>
    exact advances_same (h.deliverPending other limit) (by cases phase <;> simp [IsNext])
  | stop => cases hs
  | loseOwnership => cases hheld
  | settle i ok => exact advances_settle h i ok
  | resume i => exact advances_resume hinv h i
  | finish i => exact advances_finish hinv h hheld' i

/-- An account with the note is served once the delivery in flight has come to its end. -/
theorem served_run (hawaits : Awaits index phase events) (hs : (run step s events).stopped = false)
    (hheld : (run step s events).held = true) : Served s (run step s events) account := by
  induction events generalizing s phase with
  | nil =>
    cases phase with
    | running =>
      obtain ⟨_, hsub⟩ := hawaits
      cases hsub
    | settled ok => cases hawaits
    | returned => cases hawaits
    | done => cases hawaits
  | cons event events ih =>
    rw [run_cons] at hs hheld ⊢
    have hgrows : Grows (step s event) (run step (step s event) events) := grows_run events
    have hs' : (step s event).stopped = false := by
      by_contra hstop
      have hstopped := hgrows.stopped (by simpa using hstop)
      rw [hs] at hstopped
      cases hstopped
    rcases advances_step hinv h event hs' (hgrows.held hheld) with hserved | ⟨next, hnext, hrest⟩
    · exact hserved.trans hgrows
    · exact (ih (inv_step hinv event) hnext (hrest events hawaits) hs hheld).of_grows
        (grows_step event)

end

/-! ### Kicks -/

/-- Whatever the calls and the order in which deliveries go on: at most one run of an account is in
progress, no run begins behind a stop, and, while the service is not stopped and holds ownership, a
kick has a run of its account behind it, or a delivery of the account is in flight whose end, once
its run has settled and its continuations have been called, has brought that run. -/
theorem kicks_served (events : List Event) :
    (∀ (i j : ℕ) (delivery other : Delivery), (after events).deliveries[i]? = some delivery →
      (after events).deliveries[j]? = some other → delivery.phase = .running →
      other.phase = .running → delivery.account = other.account → i = j) ∧
    ((after events).stopped = false → (after events).held = true → ∀ account pre post,
      (after events).log = pre ++ .kicked account :: post → .began account ∈ post ∨
      ∃ (i : ℕ) (delivery : Delivery), (after events).deliveries[i]? = some delivery ∧
        delivery.account = account ∧ delivery.phase ≠ .done ∧ ∀ more ok,
          [.settle i ok, .resume i, .finish i].Sublist more →
          (after (events ++ more)).stopped = false → (after (events ++ more)).held = true →
          ∃ later, (after (events ++ more)).log = pre ++ .kicked account :: (post ++ later) ∧
            .began account ∈ later) ∧
    QuietAfterStop (after events).log := by
  have hinv := inv_run events
  refine ⟨fun i j delivery other hi hj hphase hother haccount => ?_,
    fun hs hheld account pre post hlog => ?_, hinv.quiet⟩
  · have hflight := (hinv.flights delivery.account i).mpr ⟨delivery, hi, rfl, by simp [hphase]⟩
    have hflight' := (hinv.flights delivery.account j).mpr
      ⟨other, hj, haccount.symm, by simp [hother]⟩
    rw [hflight] at hflight'
    exact Option.some.inj hflight'
  · by_cases hbegan : .began account ∈ post
    · exact .inl hbegan
    · right
      have hunserved : unserved account (after events).log = true := by
        rw [hlog]
        exact unserved_of_kick hbegan
      have hnote := hinv.waits hs hheld account (by simp) hunserved
      obtain ⟨i, hflight⟩ := Option.isSome_iff_exists.mp (hinv.noted account hnote).1
      obtain ⟨delivery, hd, haccount, hlive⟩ := (hinv.flights account i).mp hflight
      refine ⟨i, delivery, hd, haccount, hlive, fun more ok hsub hs' hheld' => ?_⟩
      have hpending : Pending (after events) account i delivery.phase :=
        ⟨hnote, hflight, by rw [hd]; rfl⟩
      have hrun : after (events ++ more) = run step (after events) more := run_append ..
      rw [hrun] at hs' hheld' ⊢
      obtain ⟨later, hlater, hmem⟩ :=
        served_run hinv hpending (awaits_of_sublist hlive hsub) hs' hheld'
      refine ⟨later, ?_, hmem⟩
      rw [hlater, hlog, List.append_assoc, List.cons_append]

end AutoTrade.Telegram.DeliveryKicks
