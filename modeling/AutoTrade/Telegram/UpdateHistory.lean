import AutoTrade.Telegram.Inbound

/-! # What a poll has done

The history of the operations a poll awaited, newest first, and whether runtime ownership is lost.
Ownership that is lost stays lost: every later assertion fails, and an ownership failure that another
dependency throws comes from the same guard.

Once an update was routed or answered, its handling awaits only operations that neither read nor move
an offset (`neutral`); `Tolerates` says what a relation needs to be kept there, and `during_attempt`
that what still escapes is the loss of ownership. -/

namespace AutoTrade.Telegram.UpdateHistory

open Lib.Awaits Lib.Sessions Telegram.Inbound

abbrev Reply (op : Op) : Type := Except Thrown (Ans op)

/-- What every dependency answers, whatever it is asked. -/
abbrev Answers : Type := (op : Op) → Reply op

/-- An operation with its reply. -/
abbrev Entry : Type := (op : Op) × Reply op

def ownershipFailed {α : Type} : Except Thrown α → Bool
  | .error (.runtimeOwnership _) => true
  | _ => false

/-- The replies that can come. The guard throws its own errors only, and goes on throwing once
ownership is lost; the clock and the id generator throw nothing. -/
def possible (lost : Bool) : (op : Op) → Reply op → Bool
  | .assertLocallyHeld, .ok _ => !lost
  | .assertLocallyHeld, .error (.runtimeOwnership _) => true
  | .assertLocallyHeld, .error (.error _) => false
  | .now, reply => reply.isOk
  | .createId _, reply => reply.isOk
  | _, _ => true

structure Trace where
  history : List Entry := []
  lost : Bool := false

def Trace.record (trace : Trace) (entry : Entry) : Trace :=
  ⟨entry :: trace.history, trace.lost || ownershipFailed entry.2⟩

@[simp] theorem history_record (trace : Trace) (entry : Entry) :
    (trace.record entry).history = entry :: trace.history := rfl

@[simp] theorem lost_record (trace : Trace) (entry : Entry) :
    (trace.record entry).lost = (trace.lost || ownershipFailed entry.2) := rfl

/-- The offset of a request for updates that has one. -/
def requestedOffset : Entry → Option ℤ
  | ⟨.getUpdates offset _ _, _⟩ => offset
  | _ => none

def receivedIn : Entry → List TelegramInboundUpdate
  | ⟨.getUpdates _ _ _, .ok updates⟩ => updates
  | _ => []

/-- What was passed to the router. -/
def routedIn : Entry → List (TelegramInboundUpdate × String)
  | ⟨.route update text _, _⟩ => [(update, text)]
  | _ => []

/-- The callback that was answered; a call that was rejected answered none. -/
def answeredIn : Entry → List (TelegramInboundUpdate × String)
  | ⟨.answerCallbackQuery update callbackQueryId _, .ok _⟩ => [(update, callbackQueryId)]
  | _ => []

def received (history : List Entry) : List TelegramInboundUpdate := history.flatMap receivedIn

def routed (history : List Entry) : List (TelegramInboundUpdate × String) :=
  history.flatMap routedIn

def answered (history : List Entry) : List (TelegramInboundUpdate × String) :=
  history.flatMap answeredIn

@[simp] theorem received_cons (entry : Entry) (history : List Entry) :
    received (entry :: history) = receivedIn entry ++ received history := rfl

@[simp] theorem routed_cons (entry : Entry) (history : List Entry) :
    routed (entry :: history) = routedIn entry ++ routed history := rfl

@[simp] theorem answered_cons (entry : Entry) (history : List Entry) :
    answered (entry :: history) = answeredIn entry ++ answered history := rfl

/-- Operations that neither read nor move an offset, and neither route nor answer an update. -/
def neutral : Op → Bool
  | .assertLocallyHeld => true
  | .now => true
  | .createId _ => true
  | .sendMessage _ _ _ _ => true
  | .routeReadOnlyCallback _ _ => true
  | .editMessageText _ _ _ _ _ => true
  | _ => false

variable {op : Op}

section

variable (h : neutral op = true) (reply : Reply op)
include h reply

theorem receivedIn_of_neutral : receivedIn ⟨op, reply⟩ = [] := by
  cases op <;> first | rfl | cases h

theorem requestedOffset_of_neutral : requestedOffset ⟨op, reply⟩ = none := by
  cases op <;> first | rfl | cases h

end

theorem assertion_possible {lost : Bool} {reply : Reply .assertLocallyHeld}
    (h : possible lost .assertLocallyHeld reply = true) :
    (∀ u, reply = .ok u → lost = false) ∧ ∀ e, reply = .error e → ownershipFailed reply = true := by
  rcases reply with (message | message) | u
  · exact ⟨fun _ hu => (by cases hu), fun _ _ => rfl⟩
  · cases h
  · refine ⟨fun _ _ => ?_, fun _ he => (by cases he)⟩
    simpa [possible] using h

/-! ### The handling of an update -/

section

variable {W E : Type}

/-- An ownership failure means that ownership is lost. -/
def Blamed (lost : W → Bool) (e : Thrown) (w : W) : Prop :=
  ∀ message, e = .runtimeOwnership message → lost w = true

/-- Ownership is lost, whatever was thrown. -/
def Lost (lost : W → Bool) (_ : Thrown) (w : W) : Prop := lost w = true

/-- The relation is kept by neutral operations and does not look at the recorded error. -/
structure Tolerates (S : Setting Op Reply W E) (lost : W → Bool) (K : Service → W → Prop) :
    Prop where
  inv : ∀ s w, K s w → S.inv w
  neutral : ∀ op, neutral op = true → ∀ s w e r w', K s w → S.cond w e op →
    S.perform w e op = some (r, w') → Setting.Post K (Blamed lost) r s w'
  assertion : ∀ s w e r w', K s w → S.cond w e .assertLocallyHeld →
    S.perform w e .assertLocallyHeld = some (r, w') → Setting.Post K (Lost lost) r s w'
  lastError : ∀ s w message, K s w → K { s with lastError := message } w

variable {S : Setting Op Reply W E} {lost : W → Bool} {K : Service → W → Prop}

theorem keeps_call (h : Tolerates S lost K) (hop : neutral op = true) :
    S.Keeps K (Blamed lost) (call op) :=
  Setting.Keeps.await h.inv (h.neutral op hop)

theorem keeps_assertLocallyHeld (h : Tolerates S lost K) :
    S.Keeps K (Lost lost) assertLocallyHeld :=
  Setting.Keeps.await h.inv h.assertion

section

variable (h : Tolerates S lost K) (d : Dependencies)
include h d

theorem keeps_sendReplies (response : TelegramResponse) (parts : List String) (first : Bool) :
    S.Keeps K (Blamed lost) (sendReplies d response parts first) := by
  induction parts generalizing first with
  | nil => exact Setting.Keeps.pure ()
  | cons part rest ih =>
    refine .bind (keeps_call h rfl) fun _ => .bind (keeps_call h rfl) fun _ => ?_
    exact .bind (keeps_call h rfl) fun _ => ih false

variable {update : TelegramInboundUpdate} {s : Service} {w : W}

theorem during_routeText {text : String}
    (hroute : S.During (call (.route update text d.account)) s w (Setting.Post K (Blamed lost))) :
    S.During (routeText d update text) s w (Setting.Post K (Blamed lost)) := by
  refine hroute.bind fun response => .bind (keeps_call h rfl) fun _ => ?_
  exact keeps_sendReplies h d response _ true

/-- The callback is answered first, unless nothing can answer it. -/
theorem during_handleCallbackQuery {callbackQuery : TelegramCallbackQueryInput}
    (hanswer : ∀ text, S.During (call (.answerCallbackQuery update callbackQuery.callbackId text))
      s w (Setting.Post K (Blamed lost)))
    (hunanswered : d.callbackClient = false → K s w) :
    S.During (handleCallbackQuery d update callbackQuery) s w
      (Setting.Post K (Blamed lost)) := by
  have hraise : ∀ message : String, ∀ w, Blamed lost (.error message) w :=
    fun message w text heq => by cases heq
  unfold handleCallbackQuery
  dsimp only
  split
  · split
    · exact (hanswer _).bind fun _ => .bind (keeps_call h rfl) fun _ => .pure false
    · rename_i hclient
      exact Setting.Keeps.pure false s w (hunanswered (Bool.eq_false_iff.mpr hclient))
  · split
    · rename_i hclient
      exact Setting.Keeps.raise (hraise _) s w (hunanswered hclient)
    · refine (hanswer _).bind fun _ => .bind (keeps_call h rfl) fun _ => ?_
      split
      · exact .raise (hraise _)
      split
      · exact .raise (hraise _)
      refine .bind (keeps_call h rfl) fun response => .bind (keeps_call h rfl) fun _ => ?_
      refine .bind (keeps_call h rfl) fun _ => .bind (keeps_call h rfl) fun _ => ?_
      exact .pure true

theorem during_attempt {handling : Poll Outcome}
    (hhandling : S.During handling s w (Setting.Post K (Blamed lost))) :
    S.During (attempt d handling) s w (Setting.Post K (Lost lost)) := by
  refine hhandling.catching fun e s w hK hblamed => ?_
  rcases e with message | message
  · refine ⟨hK, fun e he => ?_⟩
    exact hblamed message rfl
  · have hrecord : S.Keeps K (Lost lost) (do
        assertLocallyHeld
        Async.assign fun s : Service => { s with
          lastError := some (d.sanitizeTelegramInboundError (.error message)) }
        pure Outcome.failed : Poll Outcome) :=
      .bind (keeps_assertLocallyHeld h) fun _ =>
        .bind (.assign fun s w hK => h.lastError s w _ hK) fun _ => .pure _
    exact hrecord s w hK

end

end

/-! ### A configured service -/

/-- A service of the operator `1` with a durable offset. -/
def operatorDependencies : Dependencies where
  enabled := true
  updateClient := true
  messageClient := true
  callbackClient := true
  editClient := true
  routeReadOnlyCallback := true
  operatorChatId := some "1"
  exchangeAccountId := none
  initialOffset := none
  offsetStore := true
  botTokenRef := some "bot"
  longPollTimeoutSeconds := none
  limit := none
  sanitizeTelegramInboundError := fun
    | .runtimeOwnership message => message
    | .error message => message
  splitTelegramReplyText := fun text => [text]

/-- Nothing fails: no offset is stored, no update has come, and every other call is answered. -/
def settled : Answers
  | .assertLocallyHeld => .ok ()
  | .now => .ok "2026-01-01T00:00:00.000Z"
  | .createId label => .ok label
  | .getTelegramInboundOffset _ _ => .ok none
  | .saveTelegramInboundOffset _ => .ok ()
  | .getUpdates _ _ _ => .ok []
  | .route _ _ _ => .ok { text := "done" }
  | .sendMessage _ _ _ _ => .ok ()
  | .answerCallbackQuery _ _ _ => .ok ()
  | .routeReadOnlyCallback _ _ => .ok { text := "done" }
  | .editMessageText _ _ _ _ _ => .ok ()

end AutoTrade.Telegram.UpdateHistory
