import AutoTrade.Lib.Sessions
import AutoTrade.Lib.Text
import Mathlib.Data.Int.Notation

/-! # Inbound polling

`TelegramInboundPollingService` of `src/modules/telegram/inbound.ts`: one poll loads the durable offset
the first time, asks Telegram for updates from the offset on, and takes the updates one by one: it
moves the offset beyond the update, saves it, and then routes the update, answers it as a callback or
ignores it. -/

namespace AutoTrade.Telegram.Inbound

open Lib.Awaits Lib.Awaits.Async Lib.Text

/-! ### Data -/

inductive TelegramChatType
  | privateChat
  | group
  | supergroup
  | channel
  deriving DecidableEq

structure TelegramInboundMessage where
  messageId : ℤ
  chatId : String
  senderId : Option String
  chatType : Option TelegramChatType
  text : Option String
  deriving DecidableEq

structure TelegramCallbackQueryInput where
  callbackId : String
  senderId : String
  chatId : String
  messageId : ℤ
  data : Option String
  deriving DecidableEq

structure TelegramInboundUpdate where
  updateId : ℤ
  message : Option TelegramInboundMessage
  callbackQuery : Option TelegramCallbackQueryInput
  deriving DecidableEq

structure TelegramInlineKeyboardButton where
  text : String
  callbackData : String

/-- `inlineKeyboard` of a `TelegramInlineKeyboardMarkup`. -/
abbrev TelegramInlineKeyboardMarkup := List (List TelegramInlineKeyboardButton)

structure TelegramResponse where
  text : String
  parseMode : Option String := none
  replyMarkup : Option TelegramInlineKeyboardMarkup := none

structure TelegramInboundOffsetRecord where
  id : String
  exchangeAccountId : String
  botTokenRef : String
  nextOffset : ℤ
  lastUpdateId : Option ℤ
  updatedAt : String

inductive TelegramReadOnlyCallbackAction
  | home
  | status
  | statusDetail
  | statusRefresh
  | readiness
  | readinessDetail
  | readinessRefresh
  | balances
  | positions
  | ordersPage (page : ℕ)
  | ordersDetail (orderId : ℕ)
  | alertsPage (page : ℕ)
  | alertsDetail (alertId : ℕ)
  | risks
  | scheduler

/-- `/^(?:0|[1-9]\d*)$/u` and `Number.isSafeInteger`. -/
def parseSafeNonNegativeInteger (value : List Char) : Option ℕ :=
  let parsed := value.foldl (fun n c => 10 * n + (c.toNat - '0'.toNat)) 0
  if value ≠ [] ∧ value.all Char.isDigit ∧ (value = ['0'] ∨ value.head? ≠ some '0') ∧
      parsed ≤ 9007199254740991 then some parsed
  else none

/-- The resources and views of `/^(orders|alerts):(page|detail):(.+)$/u`. -/
def pagedCallbackActions : List (String × (ℕ → TelegramReadOnlyCallbackAction)) :=
  [("orders:page:", .ordersPage), ("orders:detail:", .ordersDetail), ("alerts:page:", .alertsPage),
    ("alerts:detail:", .alertsDetail)]

def parsePagedTelegramCallbackAction (data : String) : Option TelegramReadOnlyCallbackAction :=
  pagedCallbackActions.findSome? fun (lead, action) =>
    if lead.toList.isPrefixOf data.toList then
      (parseSafeNonNegativeInteger (data.toList.drop lead.length)).map action
    else none

def parseTelegramReadOnlyCallbackAction (data : String) : Option TelegramReadOnlyCallbackAction :=
  if data.utf8ByteSize > 64 then none
  else
    match data with
    | "home" => some .home
    | "status" => some .status
    | "status:detail" => some .statusDetail
    | "status:refresh" => some .statusRefresh
    | "readiness" => some .readiness
    | "readiness:detail" => some .readinessDetail
    | "readiness:refresh" => some .readinessRefresh
    | "balances" => some .balances
    | "positions" => some .positions
    | "risks" => some .risks
    | "scheduler" => some .scheduler
    | _ => parsePagedTelegramCallbackAction data

def isAuthorizedTelegramCallbackQuery (callbackQuery : TelegramCallbackQueryInput)
    (operatorChatId : Option String) : Bool :=
  truthy operatorChatId ∧ some callbackQuery.chatId = operatorChatId ∧
    some callbackQuery.senderId = operatorChatId

/-! ### What a poll awaits -/

/-- An error that `isRuntimeOwnershipFailure` recognises, or another one. -/
inductive Thrown
  | runtimeOwnership (message : String)
  | error (message : String)

/-- What a poll awaits. The update of `route` and `answerCallbackQuery` is no argument of the call: it
says whose handling makes it. -/
inductive Op
  | assertLocallyHeld
  | now
  | createId (label : String)
  | getTelegramInboundOffset (exchangeAccountId botTokenRef : String)
  | saveTelegramInboundOffset (record : TelegramInboundOffsetRecord)
  | getUpdates (offset : Option ℤ) (timeoutSeconds limit : ℤ)
  | route (update : TelegramInboundUpdate) (text exchangeAccountId : String)
  | sendMessage (chatId text : String) (parseMode : Option String)
      (replyMarkup : Option TelegramInlineKeyboardMarkup)
  | answerCallbackQuery (update : TelegramInboundUpdate) (callbackQueryId : String)
      (text : Option String)
  | routeReadOnlyCallback (action : TelegramReadOnlyCallbackAction) (exchangeAccountId : String)
  | editMessageText (chatId : String) (messageId : ℤ) (text : String) (parseMode : Option String)
      (replyMarkup : Option TelegramInlineKeyboardMarkup)

abbrev Ans : Op → Type
  | .now => String
  | .createId _ => String
  | .getTelegramInboundOffset .. => Option TelegramInboundOffsetRecord
  | .getUpdates .. => List TelegramInboundUpdate
  | .route .. => TelegramResponse
  | .routeReadOnlyCallback .. => TelegramResponse
  | _ => Unit

/-! ### The service -/

/-- What the service is constructed with. Of a client or a store it matters here whether it is there;
`callbackClient` and `editClient` say whether `callbackClient()` and `messageEditClient()` find one. The
last two are functions of the same module that only work on texts. -/
structure Dependencies where
  enabled : Bool
  updateClient : Bool
  messageClient : Bool
  callbackClient : Bool
  editClient : Bool
  routeReadOnlyCallback : Bool
  operatorChatId : Option String
  exchangeAccountId : Option String
  initialOffset : Option ℤ
  offsetStore : Bool
  botTokenRef : Option String
  longPollTimeoutSeconds : Option ℤ
  limit : Option ℤ
  sanitizeTelegramInboundError : Thrown → String
  splitTelegramReplyText : String → List String

/-- The fields of the service that a poll reads or writes. -/
structure Service where
  nextOffset : Option ℤ
  offsetLoaded : Bool := false
  lastPollAt : Option String := none
  lastUpdateId : Option ℤ := none
  processedCount : ℕ := 0
  ignoredCount : ℕ := 0
  failedCount : ℕ := 0
  lastError : Option String := none

inductive PollStatus
  | completed
  | skipped
  | failed
  deriving DecidableEq

structure TelegramInboundPollSummary where
  status : PollStatus
  receivedCount : ℕ
  processedCount : ℕ
  ignoredCount : ℕ
  failedCount : ℕ
  nextOffset : Option ℤ
  skippedReason : Option String
  errorMessage : Option String

abbrev Poll := Async Op Ans Thrown Service

/-- `await` of a dependency. -/
abbrev call (op : Op) : Poll (Ans op) := await op

variable (d : Dependencies)

/-- The service as its constructor leaves it. -/
def Dependencies.constructed : Service := { nextOffset := d.initialOffset }

def Dependencies.isConfigured : Bool :=
  d.enabled && d.updateClient && d.messageClient && truthy d.operatorChatId

/-- There is an offset store and a bot token reference to keep the offset under. -/
def Dependencies.durable : Bool := d.offsetStore && truthy d.botTokenRef

def Dependencies.account : String := d.exchangeAccountId.getD "primary"

def Dependencies.pollTimeoutSeconds : ℤ := max 0 (d.longPollTimeoutSeconds.getD 25)

def Dependencies.pollLimit : ℤ := max 1 (d.limit.getD 20)

def assertLocallyHeld : Poll Unit := call .assertLocallyHeld

/-- The flag is set before the offset is read. -/
def loadDurableOffsetIfNeeded : Poll Unit := do
  let s ← locals
  if s.offsetLoaded then pure ()
  else
    assign fun s => { s with offsetLoaded := true }
    if d.durable then
      let record : Option TelegramInboundOffsetRecord ←
        call (.getTelegramInboundOffset d.account (d.botTokenRef.getD ""))
      match record with
      | none => pure ()
      | some record => assign fun s =>
          { s with nextOffset := some record.nextOffset, lastUpdateId := record.lastUpdateId }
    else pure ()

/-- `this.nextOffset` once the update has been taken. -/
def advanced (nextOffset : Option ℤ) (updateId : ℤ) : ℤ :=
  match nextOffset with
  | none => updateId + 1
  | some nextOffset => max nextOffset (updateId + 1)

/-- The offset in memory moves before it is saved. -/
def advanceOffset (updateId : ℤ) : Poll Unit := do
  assign fun s => { s with
    lastUpdateId := some updateId
    nextOffset := some (advanced s.nextOffset updateId) }
  let s ← locals
  match s.nextOffset with
  | none => pure ()
  | some nextOffset =>
    if d.durable then
      let updatedAt ← call .now
      let id ← call (.createId "telegram_inbound_offset")
      call (.saveTelegramInboundOffset
        { id, exchangeAccountId := d.account, botTokenRef := d.botTokenRef.getD "", nextOffset,
          lastUpdateId := some updateId, updatedAt })
    else pure ()

def isOperatorMessage (update : TelegramInboundUpdate) : Bool :=
  update.message.any fun message =>
    message.chatType = some .privateChat ∧ some message.chatId = d.operatorChatId ∧
      message.senderId = d.operatorChatId

/-- The text of the update that is routed; without one the update is ignored. -/
def operatorText (update : TelegramInboundUpdate) : Option String :=
  if isOperatorMessage d update then
    ((update.message.bind TelegramInboundMessage.text).map trim).filter fun text => text ≠ ""
  else none

def handleCallbackQuery (update : TelegramInboundUpdate)
    (callbackQuery : TelegramCallbackQueryInput) : Poll Bool := do
  let action :=
    if isAuthorizedTelegramCallbackQuery callbackQuery d.operatorChatId then
      callbackQuery.data.bind parseTelegramReadOnlyCallbackAction
    else none
  match action with
  | none =>
    if d.callbackClient then
      call (.answerCallbackQuery update callbackQuery.callbackId (some "요청을 처리할 수 없습니다."))
      assertLocallyHeld
      pure false
    else pure false
  | some action =>
    if d.callbackClient = false then raise (.error "telegram_callback_ack_client_unavailable")
    else
      call (.answerCallbackQuery update callbackQuery.callbackId none)
      assertLocallyHeld
      if d.routeReadOnlyCallback = false then raise (.error "telegram_callback_router_unavailable")
      else if d.editClient = false then raise (.error "telegram_callback_edit_client_unavailable")
      else
        let response : TelegramResponse ← call (.routeReadOnlyCallback action d.account)
        assertLocallyHeld
        call (.editMessageText callbackQuery.chatId callbackQuery.messageId response.text
          response.parseMode response.replyMarkup)
        assertLocallyHeld
        pure true

/-- The parts of a reply; the first one carries the parse mode and the keyboard. -/
def sendReplies (response : TelegramResponse) : List String → Bool → Poll Unit
  | [], _ => pure ()
  | replyText :: rest, first => do
    assertLocallyHeld
    call (.sendMessage (d.operatorChatId.getD "") replyText
      (if first then response.parseMode else none) (if first then response.replyMarkup else none))
    assertLocallyHeld
    sendReplies response rest false

def routeText (update : TelegramInboundUpdate) (text : String) : Poll Unit := do
  let response : TelegramResponse ← call (.route update text d.account)
  assertLocallyHeld
  sendReplies d response (d.splitTelegramReplyText response.text) true

/-- Which counter of the poll an update goes to. -/
inductive Outcome
  | processed
  | ignored
  | failed
  deriving DecidableEq

/-- The `catch` around the handling of one update. -/
def attempt (handling : Poll Outcome) : Poll Outcome :=
  catching handling fun
    | .runtimeOwnership message => raise (.runtimeOwnership message)
    | .error message => do
      assertLocallyHeld
      assign fun s => { s with lastError := some (d.sanitizeTelegramInboundError (.error message)) }
      pure .failed

/-- The loop body after the offset has been saved. -/
def dispatch (update : TelegramInboundUpdate) : Poll Outcome :=
  match update.callbackQuery with
  | some callbackQuery => attempt d do
      let accepted ← handleCallbackQuery d update callbackQuery
      pure (if accepted then .processed else .ignored)
  | none =>
    match operatorText d update with
    | none => pure .ignored
    | some text => attempt d do
        routeText d update text
        pure .processed

/-- The loop body. -/
def handleUpdate (update : TelegramInboundUpdate) : Poll Outcome := do
  assertLocallyHeld
  advanceOffset d update.updateId
  assertLocallyHeld
  dispatch d update

structure PollCounts where
  processed : ℕ := 0
  ignored : ℕ := 0
  failed : ℕ := 0

def PollCounts.count (counts : PollCounts) : Outcome → PollCounts
  | .processed => { counts with processed := counts.processed + 1 }
  | .ignored => { counts with ignored := counts.ignored + 1 }
  | .failed => { counts with failed := counts.failed + 1 }

/-- `for (const update of updates)`. -/
def handleUpdates : List TelegramInboundUpdate → PollCounts → Poll PollCounts
  | [], counts => pure counts
  | update :: rest, counts => do
    let outcome ← handleUpdate d update
    handleUpdates rest (counts.count outcome)

/-- After the loop the counts of the poll go to the service and into the summary. -/
def completed (receivedCount : ℕ) (counts : PollCounts) : Poll TelegramInboundPollSummary := do
  assign fun s => { s with
    processedCount := s.processedCount + counts.processed
    ignoredCount := s.ignoredCount + counts.ignored
    failedCount := s.failedCount + counts.failed }
  let s ← locals
  pure
    { status := if counts.failed > 0 then .failed else .completed
      receivedCount
      processedCount := counts.processed
      ignoredCount := counts.ignored
      failedCount := counts.failed
      nextOffset := s.nextOffset
      skippedReason := none
      errorMessage := if counts.failed > 0 then s.lastError else none }

/-- What the `try` block of `executePollOnce` does with the updates it received. -/
def takeUpdates (updates : List TelegramInboundUpdate) : Poll TelegramInboundPollSummary := do
  assertLocallyHeld
  let counts ← handleUpdates d updates {}
  completed updates.length counts

/-- The `try` block of `executePollOnce`. -/
def pollUpdates : Poll TelegramInboundPollSummary := do
  loadDurableOffsetIfNeeded d
  assertLocallyHeld
  let s ← locals
  let updates : List TelegramInboundUpdate ←
    call (.getUpdates s.nextOffset d.pollTimeoutSeconds d.pollLimit)
  takeUpdates d updates

/-- What the `catch` block of `executePollOnce` does with an error that is none of ownership. -/
def failed (message : String) : Poll TelegramInboundPollSummary := do
  assertLocallyHeld
  let errorMessage := d.sanitizeTelegramInboundError (.error message)
  assign fun s => { s with
    failedCount := s.failedCount + 1
    lastError := some errorMessage }
  let s ← locals
  pure ⟨.failed, 0, 0, 0, 1, s.nextOffset, none, some errorMessage⟩

def executePollOnce : Poll TelegramInboundPollSummary := do
  assertLocallyHeld
  let polledAt ← call .now
  assign fun s => { s with lastPollAt := some polledAt }
  if d.isConfigured = false then
    let s ← locals
    pure ⟨.skipped, 0, 0, 0, 0, s.nextOffset, some "telegram_inbound_not_configured", none⟩
  else
    catching (pollUpdates d) fun
      | .runtimeOwnership message => raise (.runtimeOwnership message)
      | .error message => failed d message

def pollOnce : Poll TelegramInboundPollSummary := do
  assertLocallyHeld
  executePollOnce d

end AutoTrade.Telegram.Inbound
