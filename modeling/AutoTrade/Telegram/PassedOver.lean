import AutoTrade.Telegram.UpdateHistory

/-! # Updates that are passed over

One process polls again and again; Telegram, the offset store and every other dependency answer as
they like. An update that was received should be handled before an offset beyond it is requested: its
text passed to the router, its callback answered, or nothing done where there is nothing to do. That
holds as long as the store saves every offset and the callbacks of the operator can be answered: the
offset in memory is moved before it is saved, so an update whose offset cannot be saved is left to no
one. -/

namespace AutoTrade.Telegram.PassedOver

open Lib.Run Lib.Sessions
open Telegram.Inbound Telegram.UpdateHistory

/-! ### The process -/

def perform (trace : Trace) (answers : Answers) (op : Op) : Option (Reply op × Trace) :=
  if possible trace.lost op (answers op) then some (answers op, trace.record ⟨op, answers op⟩)
  else none

/-- One process: it is not restarted. -/
def process (d : Dependencies) : System Op Reply Service Trace Answers Empty where
  session := session (pollOnce d)
  boot := d.constructed
  perform := perform
  reboot := fun b => nomatch b

/-! ### The property -/

variable {d : Dependencies}

/-- The update is a callback of the operator. -/
def OperatorCallback (d : Dependencies) (update : TelegramInboundUpdate) : Prop :=
  ∃ callbackQuery ∈ update.callbackQuery,
    isAuthorizedTelegramCallbackQuery callbackQuery d.operatorChatId = true

instance (update : TelegramInboundUpdate) : Decidable (OperatorCallback d update) :=
  inferInstanceAs (Decidable (∃ callbackQuery ∈ update.callbackQuery, _))

/-- A callback of the operator was answered, a text of the operator was passed to the router; any other
update is ignored. -/
structure Handled (d : Dependencies) (history : List Entry) (update : TelegramInboundUpdate) :
    Prop where
  answered : OperatorCallback d update → ∀ callbackQuery ∈ update.callbackQuery,
    (update, callbackQuery.callbackId) ∈ UpdateHistory.answered history
  routed : update.callbackQuery = none → ∀ text ∈ operatorText d update,
    (update, text) ∈ UpdateHistory.routed history

instance (history : List Entry) (update : TelegramInboundUpdate) :
    Decidable (Handled d history update) :=
  decidable_of_iff ((OperatorCallback d update → ∀ callbackQuery ∈ update.callbackQuery,
      (update, callbackQuery.callbackId) ∈ UpdateHistory.answered history) ∧
      (update.callbackQuery = none → ∀ text ∈ operatorText d update,
        (update, text) ∈ UpdateHistory.routed history))
    ⟨fun h => ⟨h.1, h.2⟩, fun h => ⟨h.1, h.2⟩⟩

/-- Every update below the requested offset that was received before has been handled before. -/
def PassesOverNone (d : Dependencies) (entry : Entry) (earlier : List Entry) : Prop :=
  ∀ offset ∈ requestedOffset entry, ∀ update ∈ received earlier,
    update.updateId < offset → Handled d earlier update

/-- At every request of the history. -/
def NoneSkipped (d : Dependencies) : List Entry → Prop
  | [] => True
  | entry :: earlier => PassesOverNone d entry earlier ∧ NoneSkipped d earlier

instance (entry : Entry) (earlier : List Entry) : Decidable (PassesOverNone d entry earlier) := by
  unfold PassesOverNone
  infer_instance

instance NoneSkipped.decidable : (history : List Entry) → Decidable (NoneSkipped d history)
  | [] => isTrue trivial
  | entry :: earlier =>
    have := NoneSkipped.decidable earlier
    inferInstanceAs (Decidable (PassesOverNone d entry earlier ∧ NoneSkipped d earlier))

/-- The call is answered, or ownership is lost at it. -/
def Accepted {α : Type} (reply : Except Thrown α) : Prop :=
  reply.isOk = true ∨ ownershipFailed reply = true

theorem Accepted.lost_record {op : Op} {reply : Reply op} {e : Thrown} (h : Accepted reply)
    (he : reply = .error e) (trace : Trace) : (trace.record ⟨op, reply⟩).lost = true := by
  rcases h with hok | hfailed
  · rw [he] at hok
    cases hok
  · exact Bool.or_eq_true_iff.mpr (Or.inr hfailed)

/-- The store saves the offset it is given; the callbacks of the operator can be answered, and are. -/
def Accepts (d : Dependencies) (_ : Trace) (answers : Answers) : Op → Prop
  | .saveTelegramInboundOffset record => Accepted (answers (.saveTelegramInboundOffset record))
  | .answerCallbackQuery update id text =>
    OperatorCallback d update → Accepted (answers (.answerCallbackQuery update id text))
  | .getUpdates offset timeoutSeconds limit =>
    ∀ update ∈ receivedIn ⟨_, answers (.getUpdates offset timeoutSeconds limit)⟩,
      OperatorCallback d update → d.callbackClient = true
  | _ => True

/-! ### A poll -/

/-- As long as ownership is held, the updates received were handled or are still to come. -/
structure Covers (d : Dependencies) (rest : List TelegramInboundUpdate) (_ : Service)
    (trace : Trace) : Prop where
  noneSkipped : NoneSkipped d trace.history
  handled : trace.lost = false → ∀ update ∈ received trace.history,
    Handled d trace.history update ∨ update ∈ rest
  answerable : ∀ update ∈ rest, OperatorCallback d update → d.callbackClient = true

def setting (d : Dependencies) : Setting Op Reply Trace Answers :=
  ⟨perform, Accepts d, fun trace => NoneSkipped d trace.history⟩

theorem perform_eq_some {trace trace' : Trace} {answers : Answers} {op : Op} {reply : Reply op}
    (h : perform trace answers op = some (reply, trace')) :
    possible trace.lost op reply = true ∧ reply = answers op ∧
      trace' = trace.record ⟨op, reply⟩ := by
  unfold perform at h
  by_cases hpossible : possible trace.lost op (answers op) = true
  · rw [if_pos hpossible] at h
    obtain ⟨rfl, rfl⟩ := Prod.mk.inj (Option.some.inj h)
    exact ⟨hpossible, rfl, rfl⟩
  · rw [if_neg hpossible] at h
    cases h

variable {update : TelegramInboundUpdate}

section

variable {rest : List TelegramInboundUpdate} {s s' : Service} {trace : Trace}

theorem Handled.cons {history : List Entry} (h : Handled d history update) (entry : Entry) :
    Handled d (entry :: history) update where
  answered hoperator callbackQuery hcallback :=
    List.mem_append_right _ (h.answered hoperator callbackQuery hcallback)
  routed hnone text htext := List.mem_append_right _ (h.routed hnone text htext)

theorem Covers.of_lost (h : Covers d rest s trace) (hlost : trace.lost = true)
    {rest' : List TelegramInboundUpdate} (hsub : rest' ⊆ rest) : Covers d rest' s trace := by
  refine ⟨h.noneSkipped, fun hheld => ?_, fun update hmem => h.answerable update (hsub hmem)⟩
  rw [hlost] at hheld
  cases hheld

theorem Covers.record (h : Covers d rest s trace) {entry : Entry}
    (hrequested : requestedOffset entry = none) (hreceived : receivedIn entry = []) :
    Covers d rest s' (trace.record entry) := by
  have hpasses : PassesOverNone d entry trace.history := by
    intro offset hoffset
    rw [hrequested] at hoffset
    cases hoffset
  refine ⟨⟨hpasses, h.noneSkipped⟩, fun hheld update hupdate => ?_, h.answerable⟩
  have hbefore : trace.lost = false := (Bool.or_eq_false_iff.mp hheld).1
  rw [history_record, received_cons, hreceived] at hupdate
  exact (h.handled hbefore update hupdate).imp_left fun hhandled => hhandled.cons entry

theorem Covers.neutral (h : Covers d rest s trace) {op : Op}
    (hop : UpdateHistory.neutral op = true) (reply : Reply op) :
    Covers d rest s' (trace.record ⟨op, reply⟩) :=
  h.record (requestedOffset_of_neutral hop reply) (receivedIn_of_neutral hop reply)

theorem Covers.front (h : Covers d (update :: rest) s trace)
    (hhandled : trace.lost = false → Handled d trace.history update) : Covers d rest s trace := by
  refine ⟨h.noneSkipped, fun hheld other hother => ?_,
    fun other hother => h.answerable other (List.mem_cons_of_mem _ hother)⟩
  rcases h.handled hheld other hother with hbefore | hrest
  · exact Or.inl hbefore
  · rcases List.mem_cons.mp hrest with rfl | hrest
    · exact Or.inl (hhandled hheld)
    · exact Or.inr hrest

theorem Covers.getUpdates (h : Covers d [] s trace) (hheld : trace.lost = false)
    (offset : Option ℤ) (timeoutSeconds limit : ℤ)
    (reply : Reply (.getUpdates offset timeoutSeconds limit))
    (hanswerable : ∀ update ∈ receivedIn ⟨_, reply⟩,
      OperatorCallback d update → d.callbackClient = true) :
    Covers d (receivedIn ⟨_, reply⟩) s
      (trace.record ⟨.getUpdates offset timeoutSeconds limit, reply⟩) := by
  have hall : ∀ update ∈ received trace.history, Handled d trace.history update := by
    intro update hupdate
    rcases h.handled hheld update hupdate with hhandled | hnone
    · exact hhandled
    · cases hnone
  refine ⟨⟨fun _ _ update hupdate _ => hall update hupdate, h.noneSkipped⟩,
    fun _ update hupdate => ?_, hanswerable⟩
  rcases List.mem_append.mp hupdate with hnew | hold
  · exact Or.inr hnew
  · exact Or.inl ((hall update hold).cons _)

end

variable (d : Dependencies)

theorem tolerates (rest : List TelegramInboundUpdate) :
    Tolerates (setting d) Trace.lost (Covers d rest) where
  inv _ _ h := h.noneSkipped
  neutral op hop s w e r w' h _ hr := by
    obtain ⟨-, -, rfl⟩ := perform_eq_some hr
    refine ⟨h.neutral hop r, ?_⟩
    rintro e rfl message rfl
    exact Bool.or_true w.lost
  assertion s w e r w' h _ hr := by
    obtain ⟨hpossible, -, rfl⟩ := perform_eq_some hr
    refine ⟨h.neutral rfl r, fun e he => ?_⟩
    have hfailed := (assertion_possible hpossible).2 e he
    exact Bool.or_eq_true_iff.mpr (Or.inr hfailed)
  lastError _ _ _ h := ⟨h.noneSkipped, h.handled, h.answerable⟩

/-- The offset is moved and saved; nothing is thrown, since the store saves it. -/
theorem keeps_advanceOffset (rest : List TelegramInboundUpdate) (updateId : ℤ) :
    (setting d).Keeps (Covers d rest) (Lost Trace.lost) (advanceOffset d updateId) := by
  have hanswered : ∀ op, neutral op = true →
      (∀ lost reply, possible lost op reply = true → reply.isOk = true) →
      (setting d).Keeps (Covers d rest) (Lost Trace.lost) (call op) := by
    intro op hop hok
    refine .await (tolerates d rest).inv fun s w e r w' h _ hr => ?_
    obtain ⟨hpossible, -, rfl⟩ := perform_eq_some hr
    refine ⟨h.neutral hop r, ?_⟩
    rintro e rfl
    exact absurd (hok _ _ hpossible) (by simp [Except.isOk, Except.toBool])
  have hsave : ∀ record, (setting d).Keeps (Covers d rest) (Lost Trace.lost)
      (call (.saveTelegramInboundOffset record)) := by
    intro record
    refine .await (tolerates d rest).inv fun s w e r w' h hsaves hr => ?_
    have hr' : perform w e (.saveTelegramInboundOffset record) = some (r, w') := hr
    obtain ⟨-, hreply, rfl⟩ := perform_eq_some hr'
    refine ⟨h.record rfl rfl, fun e' he' => ?_⟩
    have hsaved : Accepted r := hreply ▸ hsaves
    exact hsaved.lost_record he' w
  unfold advanceOffset
  refine .bind (.assign fun s w h => ⟨h.noneSkipped, h.handled, h.answerable⟩) fun _ => .bind .locals fun s => ?_
  split
  · exact .pure ()
  split
  · refine .bind (hanswered _ rfl fun _ _ h => h) fun updatedAt => ?_
    exact .bind (hanswered _ rfl fun _ _ h => h) fun id => hsave _
  · exact .pure ()

variable {w : Trace} {rest : List TelegramInboundUpdate} {s : Service}

theorem during_route (h : Covers d (update :: rest) s w) (hcallback : update.callbackQuery = none)
    {text : String} (htext : operatorText d update = some text) :
    (setting d).During (call (.route update text d.account)) s w
      (Setting.Post (Covers d rest) (Blamed Trace.lost)) := by
  refine ⟨h.noneSkipped, fun e r w' _ hr => ?_⟩
  have hr' : perform w e (.route update text d.account) = some (r, w') := hr
  obtain ⟨-, -, rfl⟩ := perform_eq_some hr'
  refine ⟨(h.record rfl rfl).front fun _ => ⟨?_, fun _ routed hrouted => ?_⟩, ?_⟩
  · rintro ⟨callbackQuery, hsome, -⟩
    rw [hcallback] at hsome
    cases hsome
  · rw [← Option.some.inj (htext.symm.trans hrouted)]
    exact List.mem_cons_self
  · rintro e rfl message rfl
    exact Bool.or_true w.lost

/-- The callback of the update at the front is answered. -/
theorem during_answer (h : Covers d (update :: rest) s w)
    {callbackQuery : TelegramCallbackQueryInput} (hcallback : update.callbackQuery = some callbackQuery)
    (text : Option String) :
    (setting d).During (call (.answerCallbackQuery update callbackQuery.callbackId text)) s w
      (Setting.Post (Covers d rest) (Blamed Trace.lost)) := by
  refine ⟨h.noneSkipped, fun e r w' haccepts hr => ?_⟩
  have hr' : perform w e (.answerCallbackQuery update callbackQuery.callbackId text) =
    some (r, w') := hr
  obtain ⟨-, hreply, rfl⟩ := perform_eq_some hr'
  refine ⟨(h.record rfl rfl).front fun hheld => ⟨fun hoperator answered hanswered => ?_, ?_⟩, ?_⟩
  · have haccepted : Accepted r := hreply ▸ haccepts hoperator
    rw [Option.some.inj (hanswered.symm.trans hcallback)]
    rcases r with thrown | u
    · rw [haccepted.lost_record rfl w] at hheld
      cases hheld
    · exact List.mem_cons_self
  · intro hnone
    rw [hcallback] at hnone
    cases hnone
  · rintro e rfl message rfl
    exact Bool.or_true w.lost

/-- Handling the update at the front of what is to come. -/
theorem during_dispatch (h : Covers d (update :: rest) s w) :
    (setting d).During (dispatch d update) s w
      (Setting.Post (Covers d rest) (Lost Trace.lost)) := by
  have htolerates := tolerates d rest
  unfold dispatch
  split
  · rename_i callbackQuery hcallback
    refine during_attempt htolerates d (.bind (during_handleCallbackQuery htolerates d ?_ ?_)
      fun accepted => .pure _)
    · exact fun text => during_answer d h hcallback text
    · intro hclient
      refine h.front fun _ => ⟨fun hoperator => ?_, fun hnone => ?_⟩
      · rw [h.answerable update List.mem_cons_self hoperator] at hclient
        cases hclient
      · rw [hcallback] at hnone
        cases hnone
  rename_i hcallback
  split
  · rename_i hignored
    refine ⟨h.front fun _ => ⟨?_, fun _ text htext => ?_⟩, fun _ he => (by cases he)⟩
    · rintro ⟨callbackQuery, hsome, -⟩
      rw [hcallback] at hsome
      cases hsome
    · rw [hignored] at htext
      cases htext
  · rename_i text htext
    exact during_attempt htolerates d (.bind (during_routeText htolerates d
      (during_route d h hcallback htext)) fun _ => .pure _)

theorem during_after {α β : Type} {before rest : List TelegramInboundUpdate} {x : Poll α}
    {f : α → Poll β} (hsub : rest ⊆ before)
    (hx : (setting d).Keeps (Covers d before) (Lost Trace.lost) x) (h : Covers d before s w)
    (hf : ∀ a s' w', Covers d before s' w' →
      (setting d).During (f a) s' w' (Setting.Post (Covers d rest) (Lost Trace.lost))) :
    (setting d).During (x >>= f) s w (Setting.Post (Covers d rest) (Lost Trace.lost)) := by
  refine Setting.during_bind.mpr ((hx s w h).mono fun r s' w' hpost => ?_)
  rcases r with e | a
  · have hlost : w'.lost = true := hpost.2 e rfl
    exact ⟨hpost.1.of_lost hlost hsub, fun _ _ => hlost⟩
  · exact hf a s' w' hpost.1

theorem during_handleUpdate (h : Covers d (update :: rest) s w) :
    (setting d).During (handleUpdate d update) s w
      (Setting.Post (Covers d rest) (Lost Trace.lost)) := by
  have hassert := keeps_assertLocallyHeld (tolerates d (update :: rest))
  refine during_after d (List.subset_cons_self _ _) hassert h fun _ s' w' h' => ?_
  refine during_after d (List.subset_cons_self _ _) (keeps_advanceOffset d _ _) h' fun _ s'' w'' h'' => ?_
  exact during_after d (List.subset_cons_self _ _) hassert h'' fun _ _ _ h''' => during_dispatch d h'''

theorem during_handleUpdates (updates : List TelegramInboundUpdate) (counts : PollCounts)
    (h : Covers d updates s w) :
    (setting d).During (handleUpdates d updates counts) s w
      (Setting.Post (Covers d []) (Lost Trace.lost)) := by
  induction updates generalizing counts s w with
  | nil => exact ⟨h, fun _ he => by cases he⟩
  | cons update rest ih =>
    refine Setting.during_bind.mpr ((during_handleUpdate d h).mono fun r s' w' hpost => ?_)
    rcases r with e | outcome
    · have hlost : w'.lost = true := hpost.2 e rfl
      exact ⟨hpost.1.of_lost hlost (List.nil_subset rest), fun _ _ => hlost⟩
    · exact ih (counts.count outcome) hpost.1

theorem keeps_loadDurableOffset :
    (setting d).Keeps (Covers d []) (Blamed Trace.lost) (loadDurableOffsetIfNeeded d) := by
  have hget : ∀ account botTokenRef, (setting d).Keeps (Covers d []) (Blamed Trace.lost)
      (call (.getTelegramInboundOffset account botTokenRef)) := by
    intro account botTokenRef
    refine .await (tolerates d []).inv fun s w e r w' h _ hr => ?_
    have hr' : perform w e (.getTelegramInboundOffset account botTokenRef) = some (r, w') := hr
    obtain ⟨-, -, rfl⟩ := perform_eq_some hr'
    refine ⟨h.record rfl rfl, ?_⟩
    rintro e rfl message rfl
    exact Bool.or_true w.lost
  unfold loadDurableOffsetIfNeeded
  refine .bind .locals fun s => ?_
  split
  · exact .pure ()
  refine .bind (.assign fun s w h => ⟨h.noneSkipped, h.handled, h.answerable⟩) fun _ => ?_
  split
  · refine .bind (hget _ _) fun record => ?_
    split
    · exact .pure ()
    · exact .assign fun s w h => ⟨h.noneSkipped, h.handled, h.answerable⟩
  · exact .pure ()

theorem during_takeUpdates {updates : List TelegramInboundUpdate} (h : Covers d updates s w) :
    (setting d).During (takeUpdates d updates) s w (Setting.Post (Covers d []) (Lost Trace.lost)) := by
  refine during_after d (List.nil_subset _) (keeps_assertLocallyHeld (tolerates d updates)) h fun _ s' w' h' => ?_
  refine Setting.during_bind.mpr ((during_handleUpdates d updates {} h').mono
    fun r s'' w'' hpost => ?_)
  rcases r with e | counts
  · exact ⟨hpost.1, fun _ _ => hpost.2 e rfl⟩
  · have hcompleted : (setting d).Keeps (Covers d []) (Lost Trace.lost)
        (completed updates.length counts) :=
      .bind (.assign fun s w h => ⟨h.noneSkipped, h.handled, h.answerable⟩) fun _ => .bind .locals fun _ => .pure _
    exact hcompleted s'' w'' hpost.1

/-- A poll that begins with nothing to come ends so. -/
theorem keeps_pollUpdates :
    (setting d).Keeps (Covers d []) (Blamed Trace.lost) (pollUpdates d) := by
  unfold pollUpdates
  refine .bind (keeps_loadDurableOffset d) fun _ => ?_
  intro s w h
  refine Setting.during_bind.mpr ⟨h.noneSkipped, fun e r w' _ hr => ?_⟩
  obtain ⟨hpossible, -, rfl⟩ := perform_eq_some hr
  obtain ⟨hheld, hfailed⟩ := assertion_possible hpossible
  have h' : Covers d [] s (w.record ⟨.assertLocallyHeld, r⟩) := h.neutral rfl r
  rcases r with e' | u
  · exact ⟨h', fun _ _ _ _ => Bool.or_eq_true_iff.mpr (Or.inr (hfailed e' rfl))⟩
  have hstill : (w.record ⟨.assertLocallyHeld, .ok u⟩).lost = false := by
    rw [lost_record, hheld u rfl]
    rfl
  -- the request follows the assertion, so ownership is held when it is made
  refine Setting.during_bind.mpr ⟨h'.noneSkipped, fun e r w'' haccepts hr => ?_⟩
  have hr' : perform _ e (.getUpdates s.nextOffset d.pollTimeoutSeconds d.pollLimit) =
    some (r, w'') := hr
  obtain ⟨-, hreply, rfl⟩ := perform_eq_some hr'
  have hcovers := h'.getUpdates hstill s.nextOffset d.pollTimeoutSeconds d.pollLimit r
    (hreply ▸ haccepts)
  rcases r with e' | updates
  · refine ⟨hcovers, ?_⟩
    rintro e'' he'' message rfl
    rw [Except.error.inj he'']
    exact Bool.or_true _
  · exact (during_takeUpdates d hcovers).mono fun r s' w' hpost =>
      ⟨hpost.1, fun e he _ _ => hpost.2 e he⟩

theorem keeps_pollOnce : (setting d).Keeps (Covers d []) (Lost Trace.lost) (pollOnce d) := by
  have hassert := keeps_assertLocallyHeld (tolerates d [])
  have hnow : (setting d).Keeps (Covers d []) (Lost Trace.lost) (call .now) := by
    refine .await (tolerates d []).inv fun s w e r w' h _ hr => ?_
    obtain ⟨hpossible, -, rfl⟩ := perform_eq_some hr
    refine ⟨h.neutral rfl r, ?_⟩
    rintro e rfl
    cases hpossible
  refine .bind hassert fun _ => .bind hassert fun _ => .bind hnow fun polledAt => ?_
  refine .bind (.assign fun s w h => ⟨h.noneSkipped, h.handled, h.answerable⟩) fun _ => ?_
  split
  · exact .bind .locals fun _ => .pure _
  · refine .catching (keeps_pollUpdates d) fun e s w h hblamed => ?_
    rcases e with message | message
    · exact ⟨h, fun _ _ => hblamed message rfl⟩
    · have hfailed : (setting d).Keeps (Covers d []) (Lost Trace.lost) (failed d message) :=
        .bind hassert fun _ =>
          .bind (.assign fun s w h => ⟨h.noneSkipped, h.handled, h.answerable⟩) fun _ =>
            .bind .locals fun _ => .pure _
      exact hfailed s w h

/-! ### Runs -/

/-- **No update is passed over while every offset is saved.** In a run of one process in which the
store saves each offset it is given and the callbacks of the operator can be answered and are, every
update below a requested offset that was received before had been passed to the router, answered, or
ignored as one that is not from the operator or has no text. -/
theorem noneSkipped_of_saves (d : Dependencies) (events : List (Event Answers Empty))
    (haccepts : SafeRun (process d).step (System.Meets (Accepts d)) ((process d).start {}) events) :
    NoneSkipped d (run (process d).step ((process d).start {}) events).world.history := by
  refine (process d).reach (Covers d []) (fun _ _ h => h.noneSkipped) (fun b => nomatch b) ?_ ?_
    haccepts
  · intro s w h
    exact within_session.mpr ((keeps_pollOnce d s w h).mono fun _ _ _ hpost => hpost.1)
  · exact ⟨trivial, fun _ _ h => (by cases h), fun _ h => (by cases h)⟩

/-! ### A save that fails -/

/-- The operator's kill switch, as update 7. -/
def killSwitch : TelegramInboundUpdate :=
  ⟨7, some ⟨1, "1", some "1", some .privateChat, some "/killswitch"⟩, none⟩

/-- Telegram serves `updates`, the store answers a save with `saved`, and nothing else fails. -/
def answering (updates : List TelegramInboundUpdate) (saved : Except Thrown Unit) : Answers
  | .saveTelegramInboundOffset _ => saved
  | .getUpdates _ _ _ => .ok updates
  | op => settled op

/-- Two polls: the first receives the kill switch, the second nothing. -/
def twoPolls (saved : Except Thrown Unit) : List (Event Answers Empty) :=
  .begin :: List.replicate 20 (.reply (answering [killSwitch] saved)) ++
    .begin :: List.replicate 6 (.reply (answering [] saved))

instance {α : Type} (reply : Except Thrown α) : Decidable (Accepted reply) :=
  inferInstanceAs (Decidable (_ ∨ _))

instance (w : Trace) (answers : Answers) (op : Op) : Decidable (Accepts d w answers op) := by
  unfold Accepts
  split <;> infer_instance

/-- With the save answered, the kill switch is routed before update 8 is asked for. -/
theorem noneSkipped_twoPolls :
    NoneSkipped operatorDependencies (run (process operatorDependencies).step
      ((process operatorDependencies).start {}) (twoPolls (.ok ()))).world.history :=
  noneSkipped_of_saves operatorDependencies (twoPolls (.ok ())) (by decide +kernel)

/-- With the save rejected, update 8 is asked for and the kill switch was never taken. -/
theorem killSwitch_skipped :
    ¬ ∀ (d : Dependencies) (events : List (Event Answers Empty)),
      NoneSkipped d (run (process d).step ((process d).start {}) events).world.history := by
  intro h
  have hfalse : ¬ NoneSkipped operatorDependencies (run (process operatorDependencies).step
      ((process operatorDependencies).start {})
      (twoPolls (.error (.error "disk full")))).world.history := by
    decide +kernel
  exact hfalse (h _ _)

end AutoTrade.Telegram.PassedOver
