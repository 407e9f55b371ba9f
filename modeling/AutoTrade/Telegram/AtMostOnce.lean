import AutoTrade.Telegram.UpdateHistory
import Mathlib.Data.List.Pairwise

/-! # Commands that run twice

Processes follow each other over one offset row and one Telegram queue. Telegram serves the updates
that no call has confirmed, a call with an offset confirms those below it; the store may fail to read
or to save, a save that fails may still have been applied, and a process may end at any await.

No update should be routed twice, and the stored offset should never go back. That holds as long as
each process can read the stored offset: the service reads it once, and one that failed to goes on
without it. -/

namespace AutoTrade.Telegram.AtMostOnce

open Lib.Awaits Lib.Run Lib.Sessions
open Telegram.Inbound Telegram.UpdateHistory

/-! ### The world -/

/-- The offset row of the account and bot token, the updates that have arrived at Telegram and the
offset below which they are confirmed; and, for the record, the offsets the row has held and the
updates whose text was passed to the router, newest first. -/
structure World where
  lost : Bool := false
  stored : Option TelegramInboundOffsetRecord := none
  updates : List TelegramInboundUpdate := []
  confirmed : Option ℤ := none
  written : List ℤ := []
  routed : List ℤ := []

/-- What the dependencies answer; the updates that arrive before Telegram does; and whether a call
that is answered with an error took effect all the same. -/
structure Answering where
  answers : Answers
  arrivals : List TelegramInboundUpdate := []
  applied : Bool := false

/-- Updates arrive with ever greater ids. -/
def Ascending (updates : List TelegramInboundUpdate) : Prop :=
  updates.Pairwise fun earlier later => earlier.updateId < later.updateId

instance (updates : List TelegramInboundUpdate) : Decidable (Ascending updates) :=
  inferInstanceAs (Decidable (updates.Pairwise _))

def World.save (w : World) (record : TelegramInboundOffsetRecord) : World :=
  { w with stored := some record, written := record.nextOffset :: w.written }

/-- An offset confirms the updates below it, and none again that was confirmed. -/
def confirm (confirmed offset : Option ℤ) : Option ℤ :=
  match confirmed, offset with
  | none, offset => offset
  | confirmed, none => confirmed
  | some confirmed, some offset => some (max confirmed offset)

def unconfirmed (updates : List TelegramInboundUpdate) (confirmed : Option ℤ) :
    List TelegramInboundUpdate :=
  updates.filter fun update => confirmed.all fun confirmed => confirmed ≤ update.updateId

/-- The reply to an operation and the world after it; `none` when no such reply can come. -/
def respond (w : World) (e : Answering) : (op : Op) → Option (Reply op × World)
  | .getTelegramInboundOffset account botTokenRef =>
    match e.answers (.getTelegramInboundOffset account botTokenRef) with
    | .ok _ => some (.ok w.stored, w)
    | .error thrown => some (.error thrown, w)
  | .saveTelegramInboundOffset record =>
    match e.answers (.saveTelegramInboundOffset record) with
    | .ok u => some (.ok u, w.save record)
    | .error thrown => some (.error thrown, if e.applied then w.save record else w)
  | .getUpdates offset timeoutSeconds limit =>
    let updates := w.updates ++ e.arrivals
    let confirmed := confirm w.confirmed offset
    if Ascending updates then
      match e.answers (.getUpdates offset timeoutSeconds limit) with
      | .ok _ => some (.ok ((unconfirmed updates confirmed).take limit.toNat),
          { w with updates, confirmed })
      | .error thrown => some (.error thrown,
          { w with updates, confirmed := if e.applied then confirmed else w.confirmed })
    else none
  | .route update text account =>
    some (e.answers (.route update text account),
      { w with routed := update.updateId :: w.routed })
  | op => some (e.answers op, w)

def perform (w : World) (e : Answering) (op : Op) : Option (Reply op × World) :=
  match respond w e op with
  | none => none
  | some (reply, w') =>
    if possible w.lost op reply then
      some (reply, { w' with lost := w.lost || ownershipFailed reply })
    else none

/-- One process after the other; the next one has ownership again. -/
def processes (d : Dependencies) : System Op Reply Service World Answering Unit where
  session := session (pollOnce d)
  boot := d.constructed
  perform := perform
  reboot := fun _ w => { w with lost := false }

/-! ### The property -/

/-- No update was routed twice, and the offset row never went back. -/
structure RunsOnce (w : World) : Prop where
  routedOnce : w.routed.Nodup
  neverDecreases : w.written.Pairwise fun later earlier => earlier ≤ later

instance (w : World) : Decidable (RunsOnce w) :=
  decidable_of_iff (w.routed.Nodup ∧ w.written.Pairwise fun later earlier => earlier ≤ later)
    ⟨fun h => ⟨h.1, h.2⟩, fun h => ⟨h.1, h.2⟩⟩

/-- The stored offset is read, unless the configured one makes up for it. -/
def Loads (d : Dependencies) (w : World) (e : Answering) : Op → Prop
  | .getTelegramInboundOffset account botTokenRef =>
    (e.answers (.getTelegramInboundOffset account botTokenRef)).isOk = true ∨
      w.stored.all fun record => d.initialOffset.any fun offset => record.nextOffset ≤ offset
  | _ => True

instance (d : Dependencies) (w : World) (e : Answering) (op : Op) : Decidable (Loads d w e op) := by
  unfold Loads
  split <;> infer_instance

/-! ### What holds at every await -/

/-- The updates that were routed lie below the stored offset. -/
structure Sound (w : World) : Prop where
  runsOnce : RunsOnce w
  ascending : Ascending w.updates
  head : w.written.head? = w.stored.map TelegramInboundOffsetRecord.nextOffset
  below : ∀ id ∈ w.routed, ∃ record, w.stored = some record ∧ id < record.nextOffset

/-- The offset in memory has caught up with the stored one. -/
structure Ahead (s : Service) (w : World) : Prop where
  sound : Sound w
  loaded : s.offsetLoaded = true
  ahead : ∀ record, w.stored = some record →
    ∃ offset, s.nextOffset = some offset ∧ record.nextOffset ≤ offset

/-- The updates of the batch that are still to come were not routed yet. -/
structure Batch (rest : List TelegramInboundUpdate) (s : Service) (w : World) : Prop where
  ahead : Ahead s w
  distinct : (rest.map TelegramInboundUpdate.updateId).Nodup
  fresh : ∀ update ∈ rest, update.updateId ∉ w.routed

/-- The offset in memory lies beyond the update at the front. -/
structure Advanced (update : TelegramInboundUpdate) (rest : List TelegramInboundUpdate)
    (s : Service) (w : World) : Prop where
  batch : Batch (update :: rest) s w
  beyond : ∃ offset, s.nextOffset = some offset ∧ update.updateId < offset

/-- The stored offset lies beyond the update at the front. -/
structure Saved (update : TelegramInboundUpdate) (rest : List TelegramInboundUpdate) (s : Service)
    (w : World) : Prop where
  batch : Batch (update :: rest) s w
  beyond : ∃ record, w.stored = some record ∧ update.updateId < record.nextOffset

/-- Between two polls. -/
structure Between (d : Dependencies) (s : Service) (w : World) : Prop where
  sound : Sound w
  ahead : s.offsetLoaded = true → Ahead s w
  initial : s.offsetLoaded = false → s.nextOffset = d.initialOffset

variable {s : Service} {d : Dependencies} {w : World}

theorem Ahead.between (h : Ahead s w) : Between d s w := by
  refine ⟨h.sound, fun _ => h, fun hloaded => ?_⟩
  rw [h.loaded] at hloaded
  cases hloaded

def setting (d : Dependencies) : Setting Op Reply World Answering :=
  ⟨perform, Loads d, Sound⟩

variable {e : Answering}

theorem perform_eq_some {w w' : World} (op : Op) {reply : Reply op}
    (h : perform w e op = some (reply, w')) :
    possible w.lost op reply = true ∧ ∃ w'', respond w e op = some (reply, w'') ∧
      w' = { w'' with lost := w.lost || ownershipFailed reply } := by
  unfold perform at h
  rcases hrespond : respond w e op with _ | ⟨reply', w''⟩
  · rw [hrespond] at h
    cases h
  · rw [hrespond] at h
    dsimp only at h
    by_cases hpossible : possible w.lost op reply' = true
    · rw [if_pos hpossible] at h
      obtain ⟨rfl, rfl⟩ := Prod.mk.inj (Option.some.inj h)
      exact ⟨hpossible, w'', rfl, rfl⟩
    · rw [if_neg hpossible] at h
      cases h

theorem perform_same {w w' : World} (op : Op) {reply : Reply op}
    (hsame : respond w e op = some (e.answers op, w)) (h : perform w e op = some (reply, w')) :
    possible w.lost op reply = true ∧ w' = { w with lost := w.lost || ownershipFailed reply } := by
  obtain ⟨hpossible, w'', hrespond, rfl⟩ := perform_eq_some op h
  rw [hsame] at hrespond
  obtain ⟨-, rfl⟩ := Prod.mk.inj (Option.some.inj hrespond)
  exact ⟨hpossible, rfl⟩

theorem respond_neutral {op : Op} (hop : neutral op = true) :
    respond w e op = some (e.answers op, w) := by
  cases op <;> first | rfl | cases hop

variable {rest : List TelegramInboundUpdate}

section

variable {s : Service} {w : World}

theorem Sound.lost (h : Sound w) (b : Bool) : Sound { w with lost := b } :=
  ⟨⟨h.runsOnce.routedOnce, h.runsOnce.neverDecreases⟩, h.ascending, h.head, h.below⟩

theorem Ahead.lost (h : Ahead s w) (b : Bool) : Ahead s { w with lost := b } :=
  ⟨h.sound.lost b, h.loaded, h.ahead⟩

theorem Batch.lost (h : Batch rest s w) (b : Bool) : Batch rest s { w with lost := b } :=
  ⟨h.ahead.lost b, h.distinct, h.fresh⟩

end

/-- A relation that asks nothing about ownership, and of the locals only what bears on the offset, is
kept by what the handling of an update awaits. -/
theorem tolerates (d : Dependencies) {K : Service → World → Prop} (hsound : ∀ s w, K s w → Sound w)
    (hlost : ∀ s w b, K s w → K s { w with lost := b })
    (herror : ∀ s w message, K s w → K { s with lastError := message } w) :
    Tolerates (setting d) World.lost K where
  inv := hsound
  neutral op hop s w e r w' h _ hr := by
    obtain ⟨-, rfl⟩ := perform_same op (respond_neutral hop) hr
    refine ⟨hlost s w _ h, ?_⟩
    rintro thrown rfl message rfl
    exact Bool.or_true w.lost
  assertion s w e r w' h _ hr := by
    obtain ⟨hpossible, rfl⟩ := perform_same .assertLocallyHeld rfl hr
    refine ⟨hlost s w _ h, fun thrown hthrown => ?_⟩
    exact Bool.or_eq_true_iff.mpr (Or.inr ((assertion_possible hpossible).2 thrown hthrown))
  lastError := herror

theorem tolerates_ahead (d : Dependencies) : Tolerates (setting d) World.lost Ahead :=
  tolerates d (fun _ _ h => h.sound) (fun _ _ b h => h.lost b)
    fun _ _ _ h => ⟨h.sound, h.loaded, h.ahead⟩

theorem tolerates_batch (d : Dependencies) (rest : List TelegramInboundUpdate) :
    Tolerates (setting d) World.lost (Batch rest) :=
  tolerates d (fun _ _ h => h.ahead.sound) (fun _ _ b h => h.lost b)
    fun _ _ _ h => ⟨⟨h.ahead.sound, h.ahead.loaded, h.ahead.ahead⟩, h.distinct, h.fresh⟩

theorem tolerates_advanced (d : Dependencies) (update : TelegramInboundUpdate)
    (rest : List TelegramInboundUpdate) : Tolerates (setting d) World.lost (Advanced update rest) :=
  tolerates d (fun _ _ h => h.batch.ahead.sound) (fun _ _ b h => ⟨h.batch.lost b, h.beyond⟩)
    fun _ _ message h => ⟨(tolerates_batch d _).lastError _ _ message h.batch, h.beyond⟩

theorem tolerates_saved (d : Dependencies) (update : TelegramInboundUpdate)
    (rest : List TelegramInboundUpdate) : Tolerates (setting d) World.lost (Saved update rest) :=
  tolerates d (fun _ _ h => h.batch.ahead.sound) (fun _ _ b h => ⟨h.batch.lost b, h.beyond⟩)
    fun _ _ message h => ⟨(tolerates_batch d _).lastError _ _ message h.batch, h.beyond⟩

theorem tolerates_between (d : Dependencies) : Tolerates (setting d) World.lost (Between d) :=
  tolerates d (fun _ _ h => h.sound)
    (fun _ _ b h => ⟨h.sound.lost b, fun hloaded => (h.ahead hloaded).lost b, h.initial⟩)
    fun _ _ message h => ⟨h.sound,
      fun hloaded => (tolerates_ahead d).lastError _ _ message (h.ahead hloaded), h.initial⟩

/-! ### Taking an update -/

theorem le_advanced (nextOffset : Option ℤ) (updateId : ℤ) :
    updateId < advanced nextOffset updateId ∧
      ∀ offset, nextOffset = some offset → offset ≤ advanced nextOffset updateId := by
  unfold advanced
  rcases nextOffset with _ | offset
  · dsimp only
    exact ⟨by omega, fun _ h => (by cases h)⟩
  · dsimp only
    refine ⟨by omega, fun other h => ?_⟩
    rw [← Option.some.inj h]
    omega

variable {record : TelegramInboundOffsetRecord}

theorem Sound.save (h : Sound w)
    (hle : ∀ old, w.stored = some old → old.nextOffset ≤ record.nextOffset) :
    Sound (w.save record) := by
  refine ⟨⟨h.runsOnce.routedOnce, ?_⟩, h.ascending, rfl, fun id hid => ?_⟩
  · refine List.pairwise_cons.mpr ⟨fun offset hoffset => ?_, h.runsOnce.neverDecreases⟩
    -- the row holds the last offset written, and every other one is below it
    rcases hstored : w.stored with _ | old
    · have hhead := h.head
      rw [hstored] at hhead
      have hnil : w.written = [] := List.head?_eq_none_iff.mp hhead
      rw [hnil] at hoffset
      cases hoffset
    · have hhead := h.head
      rw [hstored] at hhead
      obtain ⟨earlier, hwritten⟩ := List.head?_eq_some_iff.mp hhead
      have hsorted := h.runsOnce.neverDecreases
      have hold := hle old hstored
      rw [hwritten] at hoffset hsorted
      rcases List.mem_cons.mp hoffset with rfl | hearlier
      · exact hold
      · have hbelow := (List.pairwise_cons.mp hsorted).1 offset hearlier
        omega
  · obtain ⟨old, hstored, hbelow⟩ := h.below id hid
    have hold := hle old hstored
    exact ⟨record, rfl, by omega⟩

variable {update : TelegramInboundUpdate}

theorem Batch.assigned (h : Batch (update :: rest) s w) :
    Advanced update rest { s with
      lastUpdateId := some update.updateId
      nextOffset := some (advanced s.nextOffset update.updateId) } w := by
  obtain ⟨hbeyond, hle⟩ := le_advanced s.nextOffset update.updateId
  refine ⟨⟨⟨h.ahead.sound, h.ahead.loaded, fun record hrecord => ?_⟩, h.distinct, h.fresh⟩,
    ⟨_, rfl, hbeyond⟩⟩
  obtain ⟨offset, hoffset, hstored⟩ := h.ahead.ahead record hrecord
  have hadvanced := hle offset hoffset
  exact ⟨_, rfl, by omega⟩

theorem Advanced.save (h : Advanced update rest s w)
    (hrecord : s.nextOffset = some record.nextOffset) : Saved update rest s (w.save record) := by
  obtain ⟨offset, hoffset, hbeyond⟩ := h.beyond
  have heq : offset = record.nextOffset := Option.some.inj (hoffset.symm.trans hrecord)
  have hle : ∀ old, w.stored = some old → old.nextOffset ≤ record.nextOffset := by
    intro old hold
    obtain ⟨offset', hoffset', hstored⟩ := h.batch.ahead.ahead old hold
    have heq' : offset' = record.nextOffset := Option.some.inj (hoffset'.symm.trans hrecord)
    omega
  refine ⟨⟨⟨h.batch.ahead.sound.save hle, h.batch.ahead.loaded, fun old hold => ?_⟩,
    h.batch.distinct, h.batch.fresh⟩, ⟨record, rfl, by omega⟩⟩
  rw [← Option.some.inj hold]
  exact ⟨_, hrecord, by omega⟩

/-- What a batch goes on with: the relation, or at least an offset that has caught up. -/
def Goes {α : Type} (K : Service → World → Prop) (r : Except Thrown α) (s : Service) (w : World) :
    Prop :=
  Ahead s w ∧ ∀ a, r = .ok a → K s w

section

variable {α β : Type} {d : Dependencies} {K K' : Service → World → Prop} {s : Service} {w : World}
  {f : α → Poll β}

theorem during_then {X : Thrown → World → Prop} {x : Poll α} (hx : (setting d).Keeps K X x)
    (hK : ∀ s w, K s w → Ahead s w) (h : K s w)
    (hf : ∀ a s' w', K s' w' → (setting d).During (f a) s' w' (Goes K')) :
    (setting d).During (x >>= f) s w (Goes K') := by
  refine Setting.during_bind.mpr ((hx s w h).mono fun r s' w' hpost => ?_)
  rcases r with e | a
  · exact ⟨hK s' w' hpost.1, fun _ he => (by cases he)⟩
  · exact hf a s' w' hpost.1

theorem during_goes {x : Poll α} (hx : (setting d).During x s w (Goes K))
    (hf : ∀ a s' w', K s' w' → (setting d).During (f a) s' w' (Goes K')) :
    (setting d).During (x >>= f) s w (Goes K') := by
  refine Setting.during_bind.mpr (hx.mono fun r s' w' hgoes => ?_)
  rcases r with e | a
  · exact ⟨hgoes.1, fun _ he => (by cases he)⟩
  · exact hf a s' w' (hgoes.2 a rfl)

theorem during_call (htolerates : Tolerates (setting d) World.lost K)
    (hK : ∀ s w, K s w → Ahead s w) {op : Op} (hop : neutral op = true) (h : K s w)
    {f : Ans op → Poll β} (hf : ∀ a w', K s w' → (setting d).During (f a) s w' (Goes K')) :
    (setting d).During (call op >>= f) s w (Goes K') := by
  refine Setting.during_bind.mpr ⟨htolerates.inv s w h, fun e r w' hcond hr => ?_⟩
  have hpost := htolerates.neutral op hop s w e r w' h hcond hr
  rcases r with thrown | a
  · exact ⟨hK s w' hpost.1, fun _ he => (by cases he)⟩
  · exact hf a w' hpost.1

end

theorem respond_save {w world : World} {r : Reply (.saveTelegramInboundOffset record)}
    (h : respond w e (.saveTelegramInboundOffset record) = some (r, world)) :
    world = w.save record ∨ (world = w ∧ ∃ thrown, r = .error thrown) := by
  unfold respond at h
  rcases hanswer : e.answers (.saveTelegramInboundOffset record) with thrown | u
  · simp only [hanswer] at h
    obtain ⟨hr, hworld⟩ := Prod.mk.inj (Option.some.inj h)
    by_cases happlied : e.applied = true
    · rw [if_pos happlied] at hworld
      exact Or.inl hworld.symm
    · rw [if_neg happlied] at hworld
      exact Or.inr ⟨hworld.symm, thrown, hr.symm⟩
  · simp only [hanswer] at h
    exact Or.inl (Prod.mk.inj (Option.some.inj h)).2.symm

theorem during_save (h : Advanced update rest s w)
    (hrecord : s.nextOffset = some record.nextOffset) :
    (setting d).During (call (.saveTelegramInboundOffset record)) s w
      (Goes (Saved update rest)) := by
  refine ⟨h.batch.ahead.sound, fun e r w' _ hr => ?_⟩
  obtain ⟨-, world, hrespond, rfl⟩ := perform_eq_some (.saveTelegramInboundOffset record) hr
  rcases respond_save hrespond with rfl | ⟨rfl, thrown, rfl⟩
  · have hsaved := h.save hrecord
    exact ⟨hsaved.batch.ahead.lost _, fun _ _ => ⟨hsaved.batch.lost _, hsaved.beyond⟩⟩
  · exact ⟨h.batch.ahead.lost _, fun _ he => (by cases he)⟩

theorem during_advanceOffset (hdurable : d.durable = true) (h : Batch (update :: rest) s w) :
    (setting d).During (advanceOffset d update.updateId) s w (Goes (Saved update rest)) := by
  have htolerates := tolerates_advanced d update rest
  have hahead : ∀ s w, Advanced update rest s w → Ahead s w := fun _ _ h => h.batch.ahead
  have hassigned := h.assigned
  unfold advanceOffset
  refine Setting.during_bind.mpr (Setting.during_assign.mpr ?_)
  refine Setting.during_bind.mpr (Setting.during_locals.mpr ?_)
  dsimp only
  rw [if_pos hdurable]
  refine during_call htolerates hahead rfl hassigned fun updatedAt w₁ h₁ => ?_
  refine during_call htolerates hahead rfl h₁ fun id w₂ h₂ => ?_
  exact during_save h₂ rfl

theorem Saved.routed (h : Saved update rest s w) :
    Batch rest s { w with routed := update.updateId :: w.routed } := by
  obtain ⟨record, hrecord, hbeyond⟩ := h.beyond
  have hsound := h.batch.ahead.sound
  have hdistinct := List.nodup_cons.mp h.batch.distinct
  have hfresh := h.batch.fresh update List.mem_cons_self
  refine ⟨⟨⟨⟨List.nodup_cons.mpr ⟨hfresh, hsound.runsOnce.routedOnce⟩,
    hsound.runsOnce.neverDecreases⟩, hsound.ascending, hsound.head, fun id hid => ?_⟩,
    h.batch.ahead.loaded, h.batch.ahead.ahead⟩, hdistinct.2, fun other hother hrouted => ?_⟩
  · rcases List.mem_cons.mp hid with rfl | hold
    · exact ⟨record, hrecord, hbeyond⟩
    · exact hsound.below id hold
  · rcases List.mem_cons.mp hrouted with heq | hold
    · exact hdistinct.1 (heq ▸ List.mem_map_of_mem hother)
    · exact h.batch.fresh other (List.mem_cons_of_mem _ hother) hold

theorem Saved.passed (h : Saved update rest s w) : Batch rest s w :=
  ⟨h.batch.ahead, (List.nodup_cons.mp h.batch.distinct).2,
    fun other hother => h.batch.fresh other (List.mem_cons_of_mem _ hother)⟩

theorem during_route (h : Saved update rest s w) (text account : String) :
    (setting d).During (call (.route update text account)) s w
      (Setting.Post (Batch rest) (Blamed World.lost)) := by
  refine ⟨h.batch.ahead.sound, fun e r w' _ hr => ?_⟩
  obtain ⟨-, world, hrespond, rfl⟩ := perform_eq_some (.route update text account) hr
  obtain ⟨-, rfl⟩ := Prod.mk.inj (Option.some.inj hrespond)
  refine ⟨h.routed.lost _, ?_⟩
  rintro thrown rfl message rfl
  exact Bool.or_true w.lost

theorem during_answer (h : Batch rest s w) (callbackQueryId : String) (text : Option String) :
    (setting d).During (call (.answerCallbackQuery update callbackQueryId text)) s w
      (Setting.Post (Batch rest) (Blamed World.lost)) := by
  refine ⟨h.ahead.sound, fun e r w' _ hr => ?_⟩
  obtain ⟨-, rfl⟩ := perform_same (.answerCallbackQuery update callbackQueryId text) rfl hr
  refine ⟨h.lost _, ?_⟩
  rintro thrown rfl message rfl
  exact Bool.or_true w.lost

theorem during_dispatch (h : Saved update rest s w) :
    (setting d).During (dispatch d update) s w (Goes (Batch rest)) := by
  have htolerates := tolerates_batch d rest
  have hgoes : ∀ {handling : Poll Outcome},
      (setting d).During handling s w (Setting.Post (Batch rest) (Blamed World.lost)) →
      (setting d).During (attempt d handling) s w (Goes (Batch rest)) := fun hhandling =>
    (during_attempt htolerates d hhandling).mono fun r s' w' hpost =>
      ⟨hpost.1.ahead, fun _ _ => hpost.1⟩
  unfold dispatch
  split
  · refine hgoes (.bind (during_handleCallbackQuery htolerates d ?_ ?_) fun accepted => .pure _)
    · exact fun text => during_answer h.passed _ text
    · exact fun _ => h.passed
  split
  · exact ⟨h.passed.ahead, fun _ _ => h.passed⟩
  · refine hgoes (.bind (during_routeText htolerates d ?_) fun _ => .pure _)
    exact during_route h _ _

theorem during_handleUpdate (hdurable : d.durable = true) (h : Batch (update :: rest) s w) :
    (setting d).During (handleUpdate d update) s w (Goes (Batch rest)) := by
  have hbefore := keeps_assertLocallyHeld (tolerates_batch d (update :: rest))
  have hafter := keeps_assertLocallyHeld (tolerates_saved d update rest)
  refine during_then hbefore (fun _ _ h => h.ahead) h fun _ s₁ w₁ h₁ => ?_
  refine during_goes (during_advanceOffset hdurable h₁) fun _ s₂ w₂ h₂ => ?_
  exact during_then hafter (fun _ _ h => h.batch.ahead) h₂ fun _ _ _ h₃ => during_dispatch h₃

theorem during_handleUpdates (hdurable : d.durable = true) (updates : List TelegramInboundUpdate)
    (counts : PollCounts) (h : Batch updates s w) :
    (setting d).During (handleUpdates d updates counts) s w (Goes Ahead) := by
  induction updates generalizing counts s w with
  | nil => exact ⟨h.ahead, fun _ _ => h.ahead⟩
  | cons update rest ih =>
    exact during_goes (during_handleUpdate hdurable h) fun outcome s₁ w₁ h₁ =>
      ih (counts.count outcome) h₁

/-! ### A poll -/

/-- What Telegram serves from an offset that has caught up was not routed yet. -/
theorem Ahead.served (h : Ahead s w) {arrivals : List TelegramInboundUpdate}
    (harrivals : Ascending (w.updates ++ arrivals)) (limit : ℕ) :
    Batch ((unconfirmed (w.updates ++ arrivals) (confirm w.confirmed s.nextOffset)).take limit) s
      { w with updates := w.updates ++ arrivals
               confirmed := confirm w.confirmed s.nextOffset } := by
  have hsound := h.sound
  have hsub : ((unconfirmed (w.updates ++ arrivals) (confirm w.confirmed s.nextOffset)).take
      limit).Sublist (w.updates ++ arrivals) := (List.take_sublist _ _).trans List.filter_sublist
  refine ⟨⟨⟨⟨hsound.runsOnce.routedOnce, hsound.runsOnce.neverDecreases⟩, harrivals, hsound.head,
    hsound.below⟩, h.loaded, h.ahead⟩, ?_, fun update hupdate hrouted => ?_⟩
  · refine List.pairwise_map.mpr ((harrivals.sublist hsub).imp fun hlt heq => ?_)
    omega
  · obtain ⟨record, hrecord, hbelow⟩ := hsound.below _ hrouted
    obtain ⟨offset, hoffset, hstored⟩ := h.ahead record hrecord
    have hserved := (List.mem_filter.mp ((List.take_sublist _ _).subset hupdate)).2
    -- the offset asked for is confirmed, so what is served lies beyond it
    rw [hoffset] at hserved
    rcases hconfirmed : w.confirmed with _ | confirmed
    · rw [hconfirmed] at hserved
      have hbeyond := of_decide_eq_true hserved
      omega
    · rw [hconfirmed] at hserved
      have hbeyond := of_decide_eq_true hserved
      omega

/-- Telegram answers with what it serves, or with an error. -/
theorem respond_getUpdates {w world : World} {offset : Option ℤ} {timeoutSeconds limit : ℤ}
    {r : Reply (.getUpdates offset timeoutSeconds limit)}
    (h : respond w e (.getUpdates offset timeoutSeconds limit) = some (r, world)) :
    Ascending (w.updates ++ e.arrivals) ∧
      ∃ confirmed, world = { w with updates := w.updates ++ e.arrivals, confirmed } ∧
        ∀ updates, r = .ok updates → confirmed = confirm w.confirmed offset ∧
          updates = (unconfirmed (w.updates ++ e.arrivals) (confirm w.confirmed offset)).take
            limit.toNat := by
  unfold respond at h
  by_cases hascending : Ascending (w.updates ++ e.arrivals)
  · refine ⟨hascending, ?_⟩
    rcases hanswer : e.answers (.getUpdates offset timeoutSeconds limit) with thrown | updates
    · simp only [hanswer, if_pos hascending] at h
      obtain ⟨rfl, hworld⟩ := Prod.mk.inj (Option.some.inj h)
      exact ⟨_, hworld.symm, fun _ h => (by cases h)⟩
    · simp only [hanswer, if_pos hascending] at h
      obtain ⟨rfl, hworld⟩ := Prod.mk.inj (Option.some.inj h)
      refine ⟨_, hworld.symm, fun served hserved => ⟨rfl, ?_⟩⟩
      exact (Except.ok.inj hserved).symm
  · simp only [if_neg hascending] at h
    cases h

/-- The first load catches up with the stored offset, or the configured one is as good. -/
theorem during_load (hdurable : d.durable = true) (h : Between d s w) :
    (setting d).During (loadDurableOffsetIfNeeded d) s w (Goes Ahead) := by
  unfold loadDurableOffsetIfNeeded
  refine Setting.during_bind.mpr (Setting.during_locals.mpr ?_)
  dsimp only
  by_cases hloaded : s.offsetLoaded = true
  · rw [if_pos hloaded]
    have hahead := h.ahead hloaded
    exact ⟨hahead, fun _ _ => hahead⟩
  rw [if_neg hloaded]
  have hinitial := h.initial (Bool.eq_false_iff.mpr hloaded)
  refine Setting.during_bind.mpr (Setting.during_assign.mpr ?_)
  dsimp only
  rw [if_pos hdurable]
  refine Setting.during_bind.mpr ⟨h.sound, fun e r w' hloads hr => ?_⟩
  obtain ⟨-, world, hrespond, rfl⟩ :=
    perform_eq_some (.getTelegramInboundOffset d.account (d.botTokenRef.getD "")) hr
  unfold respond at hrespond
  rcases hanswer : e.answers (.getTelegramInboundOffset d.account (d.botTokenRef.getD ""))
    with thrown | answer
  · -- the read failed: the configured offset is at or beyond the stored one
    simp only [hanswer] at hrespond
    obtain ⟨rfl, rfl⟩ := Prod.mk.inj (Option.some.inj hrespond)
    have hcond : w.stored.all (fun record => d.initialOffset.any fun offset =>
        record.nextOffset ≤ offset) = true := by
      rcases hloads with hok | hcovered
      · rw [hanswer] at hok
        cases hok
      · exact hcovered
    have hahead : Ahead { s with offsetLoaded := true } w := by
      refine ⟨h.sound, rfl, fun record hrecord => ?_⟩
      rw [hrecord] at hcond
      have hany : d.initialOffset.any (fun offset => record.nextOffset ≤ offset) = true := hcond
      rcases hoffset : d.initialOffset with _ | offset
      · rw [hoffset] at hany
        cases hany
      · rw [hoffset] at hany
        exact ⟨offset, hinitial.trans hoffset, of_decide_eq_true hany⟩
    exact ⟨hahead.lost _, fun _ he => (by cases he)⟩
  · simp only [hanswer] at hrespond
    obtain ⟨rfl, rfl⟩ := Prod.mk.inj (Option.some.inj hrespond)
    have hsound := h.sound.lost (w.lost || ownershipFailed (.ok w.stored : Except Thrown _))
    have hsame : ({ w with lost := w.lost || ownershipFailed (.ok w.stored : Except Thrown _) } :
      World).stored = w.stored := rfl
    generalize ({ w with lost := w.lost || ownershipFailed (.ok w.stored : Except Thrown _) } :
      World) = w' at hsound hsame ⊢
    rcases hstored : w.stored with _ | record
    · have hahead : Ahead { s with offsetLoaded := true } w' := by
        refine ⟨hsound, rfl, fun record hrecord => ?_⟩
        rw [hsame, hstored] at hrecord
        cases hrecord
      exact ⟨hahead, fun _ _ => hahead⟩
    · have hahead : Ahead { s with
          offsetLoaded := true
          nextOffset := some record.nextOffset
          lastUpdateId := record.lastUpdateId } w' := by
        refine ⟨hsound, rfl, fun other hother => ?_⟩
        rw [hsame, hstored] at hother
        rw [← Option.some.inj hother]
        exact ⟨_, rfl, by omega⟩
      exact ⟨hahead, fun _ _ => hahead⟩

theorem during_takeUpdates (hdurable : d.durable = true) {updates : List TelegramInboundUpdate}
    (h : Batch updates s w) : (setting d).During (takeUpdates d updates) s w (Goes Ahead) := by
  have hassert := keeps_assertLocallyHeld (tolerates_batch d updates)
  refine during_then hassert (fun _ _ h => h.ahead) h fun _ s₁ w₁ h₁ => ?_
  refine during_goes (during_handleUpdates hdurable updates {} h₁) fun counts s₂ w₂ h₂ => ?_
  exact ⟨⟨h₂.sound, h₂.loaded, h₂.ahead⟩, fun _ _ => ⟨h₂.sound, h₂.loaded, h₂.ahead⟩⟩

theorem during_pollUpdates (hdurable : d.durable = true) (h : Between d s w) :
    (setting d).During (pollUpdates d) s w (Goes Ahead) := by
  have hassert := keeps_assertLocallyHeld (tolerates_ahead d)
  unfold pollUpdates
  refine during_goes (during_load hdurable h) fun _ s₁ w₁ h₁ => ?_
  refine during_then hassert (fun _ _ h => h) h₁ fun _ s₂ w₂ h₂ => ?_
  refine Setting.during_bind.mpr (Setting.during_locals.mpr ?_)
  refine Setting.during_bind.mpr ⟨h₂.sound, fun e r w₃ _ hr => ?_⟩
  obtain ⟨-, world, hrespond, rfl⟩ :=
    perform_eq_some (.getUpdates s₂.nextOffset d.pollTimeoutSeconds d.pollLimit) hr
  obtain ⟨hascending, confirmed, rfl, hserved⟩ := respond_getUpdates hrespond
  rcases r with thrown | updates
  · have hsound := h₂.sound
    have hahead : Ahead s₂
        { w₂ with updates := w₂.updates ++ e.arrivals, confirmed := confirmed } :=
      ⟨⟨⟨hsound.runsOnce.routedOnce, hsound.runsOnce.neverDecreases⟩, hascending, hsound.head,
        hsound.below⟩, h₂.loaded, h₂.ahead⟩
    exact ⟨hahead.lost _, fun _ he => (by cases he)⟩
  · obtain ⟨rfl, rfl⟩ := hserved updates rfl
    have hbatch := h₂.served hascending d.pollLimit.toNat
    exact during_takeUpdates hdurable (hbatch.lost _)

/-- A poll takes the service from between two polls to between two polls. -/
theorem during_pollOnce (hdurable : d.durable = true) (h : Between d s w) :
    (setting d).During (pollOnce d) s w fun _ s' w' => Between d s' w' := by
  have htolerates := tolerates_between d
  have hcall : ∀ op, neutral op = true → (setting d).Keeps (Between d) (fun _ _ => True) (call op) :=
    fun op hop => (keeps_call htolerates hop).weaken fun _ _ _ => trivial
  have hassign : ∀ f : Service → Service,
      (∀ s, (f s).nextOffset = s.nextOffset ∧ (f s).offsetLoaded = s.offsetLoaded) →
      (setting d).Keeps (Between d) (fun _ _ => True) (Async.assign f) := by
    refine fun f hf => .assign fun s w h => ?_
    obtain ⟨hnext, hloaded⟩ := hf s
    refine ⟨h.sound, fun hl => ?_, fun hl => hnext.trans (h.initial (hloaded.symm.trans hl))⟩
    have hahead := h.ahead (hloaded.symm.trans hl)
    refine ⟨h.sound, hl, fun record hrecord => ?_⟩
    rw [hnext]
    exact hahead.ahead record hrecord
  have hupdates : (setting d).Keeps (Between d) (fun _ _ => True) (pollUpdates d) :=
    fun s w h => (during_pollUpdates hdurable h).mono fun _ _ _ hgoes =>
      ⟨hgoes.1.between, fun _ _ => trivial⟩
  have hfailed : ∀ message, (setting d).Keeps (Between d) (fun _ _ => True) (failed d message) :=
    fun message => .bind (hcall _ rfl) fun _ => .bind (hassign _ fun _ => ⟨rfl, rfl⟩) fun _ =>
      .bind .locals fun _ => .pure _
  have hpoll : (setting d).Keeps (Between d) (fun _ _ => True) (pollOnce d) := by
    refine .bind (hcall _ rfl) fun _ => .bind (hcall _ rfl) fun _ => .bind (hcall _ rfl)
      fun polledAt => .bind (hassign _ fun _ => ⟨rfl, rfl⟩) fun _ => ?_
    split
    · exact .bind .locals fun _ => .pure _
    · refine .catching hupdates fun e s w h _ => ?_
      rcases e with message | message
      · exact ⟨h, fun _ _ => trivial⟩
      · exact hfailed message s w h
  exact (hpoll s w h).mono fun _ _ _ hpost => hpost.1

/-! ### Runs -/

/-- **Commands run at most once while the stored offset can be read.** Over processes that follow
each other, end anywhere and fail to save as they may: as long as every read of the stored offset is
answered, or the configured offset makes up for it, no update is routed twice and the stored offset
never decreases. -/
theorem runsOnce_of_loads (d : Dependencies) (hdurable : d.durable = true)
    (events : List (Event Answering Unit))
    (hloads : SafeRun (processes d).step (System.Meets (Loads d)) ((processes d).start {}) events) :
    RunsOnce (run (processes d).step ((processes d).start {}) events).world := by
  have hsound : Sound (run (processes d).step ((processes d).start {}) events).world := by
    refine (processes d).reach (Between d) (fun _ _ h => h.sound) ?_ ?_ ?_ hloads
    · intro _ w h
      exact ⟨h.lost false, fun hloaded => (by cases hloaded), fun _ => rfl⟩
    · intro s w h
      exact within_session.mpr (during_pollOnce hdurable h)
    · exact ⟨⟨⟨List.nodup_nil, .nil⟩, .nil, rfl, fun id hid => (by cases hid)⟩,
        fun hloaded => (by cases hloaded), fun _ => rfl⟩
  exact hsound.runsOnce

/-! ### A read that fails -/

/-- The operator's `/resume`, as update 7. -/
def resume : TelegramInboundUpdate :=
  ⟨7, some ⟨1, "1", some "1", some .privateChat, some "/resume"⟩, none⟩

/-- The stored offset is read with `loaded`, and nothing else fails. -/
def answering (loaded : Except Thrown (Option TelegramInboundOffsetRecord)) : Answers
  | .getTelegramInboundOffset _ _ => loaded
  | op => settled op

/-- A process routes `/resume` and ends; the next one reads the stored offset with `loaded` and polls
twice. -/
def restarted (loaded : Except Thrown (Option TelegramInboundOffsetRecord)) :
    List (Event Answering Unit) :=
  .begin :: List.replicate 20 (.reply ⟨settled, [resume], false⟩) ++
    .restart () :: .begin :: List.replicate 20 (.reply ⟨answering loaded, [], false⟩) ++
    .begin :: List.replicate 20 (.reply ⟨settled, [], false⟩)

/-- When the stored offset is read, `/resume` stays routed once. -/
theorem runsOnce_restarted :
    RunsOnce (run (processes operatorDependencies).step ((processes operatorDependencies).start {})
      (restarted (.ok none))).world :=
  runsOnce_of_loads operatorDependencies (by decide +kernel) (restarted (.ok none))
    (by decide +kernel)

/-- When the first read fails, the next poll asks without an offset and `/resume` is routed again. -/
theorem resume_routedTwice :
    ¬ ∀ (d : Dependencies) (events : List (Event Answering Unit)), d.durable = true →
      RunsOnce (run (processes d).step ((processes d).start {}) events).world := by
  intro h
  have hfalse : ¬ RunsOnce (run (processes operatorDependencies).step
      ((processes operatorDependencies).start {})
      (restarted (.error (.error "database is locked")))).world := by
    decide +kernel
  exact hfalse (h _ _ (by decide +kernel))

end AutoTrade.Telegram.AtMostOnce
