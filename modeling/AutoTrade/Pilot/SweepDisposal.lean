import AutoTrade.Pilot.ProjectionRetry

/-! # Leaving the sweep

An order is disposed of when its record is stored, when it is marked as one without fills, or when every
fault event of it has its pause. The pause of an event is recognised by its reason, which `fault`
writes from the code and the message of the error as they are, and `persistedFaultReason` reads back
trimmed. `reason_read_back_iff` says for which errors the two agree.

`leaves_sweep_iff`: a call disposes of an eligible order exactly if the error of its projection reads
back, or if its one unpaused fault event has no transition yet and is not later than the clock. -/

namespace AutoTrade.Pilot.SweepDisposal

open Lib Lib.Text Lib.Result Lib.Json Lib.JsonText
open Lib.Latest (Collation)
open Execution.DecisionVerification (saleOrder)
open Pilot.Linearizability (sampleOperatorState)
open Domain.Types Domain.PilotTypes Domain.Timestamp
open Execution.EvidenceDecimals Execution.CandidateEvidence
open Operator.State Operator.InMemoryStore
open Operator.ProjectionFaults (InMemoryRepositories)
open Operator.FaultWriters (PersistCandidateProjectionFaultInput ProjectionFaultOutcome)
open Pilot.InMemoryRepository Pilot.EvidenceReplay Pilot.DisabledFlat
open Pilot.TerminalProjection Pilot.ProjectionRetry

/-! ### Trimmed texts -/

/-- The text has white space at neither end, and is not empty. -/
def Clean (text : String) : Prop := text ≠ "" ∧ trim text = text

instance (text : String) : Decidable (Clean text) := by unfold Clean; infer_instance

theorem trim_sublist (text : String) : (trim text).toList.Sublist text.toList := by
  unfold trim
  rw [String.toList_ofList]
  have hright := ((text.toList.dropWhile isJsSpace).reverse.dropWhile_sublist isJsSpace).reverse
  rw [List.reverse_reverse] at hright
  exact hright.trans (List.dropWhile_sublist _)

theorem length_trim_le (text : String) : (trim text).toList.length ≤ text.toList.length :=
  (trim_sublist text).length_le

variable {text : String}

theorem trim_eq_of_length (h : text.toList.length ≤ (trim text).toList.length) : trim text = text :=
  String.toList_injective ((trim_sublist text).eq_of_length_le h)

theorem isJsSpace_of_trim (h : trim text = "") {c : Char} {rest : List Char}
    (htext : text.toList = c :: rest) : isJsSpace c = true := by
  by_contra hspace
  have hkept : text.toList.dropWhile isJsSpace = c :: rest := by
    rw [htext, List.dropWhile_cons_of_neg (by simpa using hspace)]
  have hempty := congrArg String.toList h
  unfold trim at hempty
  rw [String.toList_ofList, hkept, List.reverse_cons, String.toList_empty,
    List.reverse_eq_nil_iff, List.dropWhile_eq_nil_iff] at hempty
  exact hspace (hempty c (by simp))

/-! ### The reason of a fault -/

variable {Num : Type} {service : Service Num} {stores stores' : Stores} {order : OrderRecord}

section Reason

variable {now : Clock} {code message : String}

/-- What is read back of the payload that `fault` writes. -/
def readBack (eventId code message : String) : String :=
  if trim code = "" then
    if trim message = "" then "Persisted candidate projection fault " ++ eventId ++ "."
    else trim message
  else if trim message = "" then trim code
  else trim code ++ ": " ++ trim message

theorem persistedFaultReason_faultEvent :
    persistedFaultReason service (faultEvent service order code message now) =
      readBack (faultEventId order code) code message := by
  have hparse : parse service.numbers (faultEvent service order code message now).payloadJson =
      some (.object [("code", .text code), ("message", .text message)]) := by
    refine parse_stringify service.numbers ⟨?_, trivial, trivial, trivial⟩
    simp
  unfold persistedFaultReason
  rw [hparse]
  have hcode : trimmedField [("code", (JsonValue.text code : JsonValue Num)), ("message", .text message)]
      "code" = if trim code = "" then none else some (trim code) := rfl
  have hmessage : trimmedField [("code", (JsonValue.text code : JsonValue Num)),
      ("message", .text message)] "message" =
        if trim message = "" then none else some (trim message) := rfl
  dsimp only
  rw [hcode, hmessage]
  unfold readBack
  by_cases hc : trim code = ""
  · by_cases hm : trim message = ""
    · simp [hc, hm]
      rfl
    · simp [hc, hm]
  · by_cases hm : trim message = ""
    · simp [hc, hm]
    · simp [hc, hm]

/-- **The reason reads back exactly if code and message are clean.** -/
theorem reason_read_back_iff (eventId : String) :
    readBack eventId code message = code ++ ": " ++ message ↔ Clean code ∧ Clean message := by
  have hcodeLength := length_trim_le code
  have hmessageLength := length_trim_le message
  have hlength : (code ++ ": " ++ message).toList.length =
      code.toList.length + 2 + message.toList.length := by
    simp [String.toList_append]
    omega
  constructor
  · intro h
    have hsame : (readBack eventId code message).toList.length =
        (code ++ ": " ++ message).toList.length := congrArg (fun text => text.toList.length) h
    rw [hlength] at hsame
    unfold readBack at h hsame
    split_ifs at h hsame with hc hm hm
    · -- the text for unreadable payloads does not start as the reason does
      exfalso
      have hchars := congrArg (fun text => text.toList.head?) h
      rcases hcode : code.toList with _ | ⟨c, rest⟩
      · simp [String.toList_append, hcode] at hchars
      · have hspace := isJsSpace_of_trim hc hcode
        simp [String.toList_append, hcode] at hchars
        rw [← hchars] at hspace
        exact absurd hspace (by decide)
    · omega
    · omega
    · have hparts : (trim code ++ ": " ++ trim message).toList.length =
          (trim code).toList.length + 2 + (trim message).toList.length := by
        simp [String.toList_append]
        omega
      rw [hparts] at hsame
      have hcode : trim code = code := trim_eq_of_length (by omega)
      have hmessage : trim message = message := trim_eq_of_length (by omega)
      exact ⟨⟨hcode ▸ hc, hcode⟩, hmessage ▸ hm, hmessage⟩
  · rintro ⟨⟨hc, hcode⟩, hm, hmessage⟩
    unfold readBack
    rw [hcode, hmessage, if_neg hc, if_neg hm]

end Reason

/-! ### The pause of a fault -/

/-- A text that both parsers of timestamps read. -/
def Readable (text : String) : Prop := IsStrictIso text ∧ IsCandidateTimestamp text

instance (text : String) : Decidable (Readable text) := by unfold Readable; infer_instance

variable {input : PersistCandidateProjectionFaultInput} {outcome : ProjectionFaultOutcome}

/-- What the repositories do with a fault that they take. -/
theorem persist_cases {memory memory' : InMemoryRepositories}
    (h : memory.persistCandidateProjectionFault input = .ok (outcome, memory')) :
    validateFaultPauseInput input.faultPause = .ok () ∧
      applyFaultPauseAtomically memory.operator input.faultPause = .ok memory'.operator ∧
      memory'.orders = memory.orders ∧
      ((input.event ∈ memory.orderEvents ∧ memory'.orderEvents = memory.orderEvents) ∨
        ((∀ event ∈ memory.orderEvents, event.id ≠ input.event.id) ∧
          memory'.orderEvents = memory.orderEvents ++ [input.event])) := by
  unfold InMemoryRepositories.persistCandidateProjectionFault at h
  split at h
  · cases h
  · rename_i order horder
    split_ifs at h with hprovenance htime
    obtain ⟨hvalid, h⟩ := then_eq_ok.mp h
    dsimp only at h
    split_ifs at h with hconflict hfresh
    · obtain ⟨operator, hoperator, h⟩ := bind_eq_ok.mp h
      obtain ⟨-, rfl⟩ := Prod.mk.inj (Except.ok.inj h)
      refine ⟨hvalid, hoperator, rfl, Or.inr ⟨fun event hevent => ?_, rfl⟩⟩
      simpa using List.find?_eq_none.mp (Option.isNone_iff_eq_none.mp hfresh) event hevent
    · obtain ⟨operator, hoperator, h⟩ := bind_eq_ok.mp h
      obtain ⟨-, rfl⟩ := Prod.mk.inj (Except.ok.inj h)
      cases hexisting : Table.select OrderEventRecord.id input.event.id memory.orderEvents with
      | none => exact absurd (by rw [hexisting]; rfl) hfresh
      | some existing =>
        rw [hexisting] at hconflict
        have hsame : existing = input.event := by simpa using hconflict
        exact ⟨hvalid, hoperator, rfl, Or.inl ⟨hsame ▸ Table.mem_of_select hexisting, rfl⟩⟩

variable {result : CandidateEvidenceProjectionResult}

section Pause

variable {event : OrderEventRecord} {now : Clock}

/-- The event has its pause. -/
def IsPaused (service : Service Num) (operator : InMemoryOperatorStateStore) (order : OrderRecord)
    (event : OrderEventRecord) : Prop :=
  isMatchingFaultPauseTransition service (getTransitionById operator event.id) order event = true

instance (operator : InMemoryOperatorStateStore) :
    Decidable (IsPaused service operator order event) := by
  unfold IsPaused; infer_instance

/-- The automatic pauses of the log stop the account, at a time that can be read. -/
def PausesStop (operator : InMemoryOperatorStateStore) : Prop :=
  ∀ transition ∈ operator.transitions, transition.command = .automaticPause →
    Stopped transition.toSystemStatus ∧ IsCandidateTimestamp transition.createdAt

instance (operator : InMemoryOperatorStateStore) : Decidable (PausesStop operator) := by
  unfold PausesStop; infer_instance

theorem isPaused_iff {operator : InMemoryOperatorStateStore}
    {transition : ExecutionStateTransitionRecord}
    (hfound : getTransitionById operator event.id = some transition)
    (htransition : IsCandidateTimestamp transition.createdAt)
    (hevent : IsCandidateTimestamp event.createdAt) :
    IsPaused service operator order event ↔
      transition.exchangeAccountId = order.exchangeAccountId ∧
        transition.command = .automaticPause ∧ Stopped transition.toSystemStatus ∧
        instant event.createdAt ≤ instant transition.createdAt ∧
        transition.reason = some
          ("faultId=" ++ event.id ++ "; reason=" ++ persistedFaultReason service event) := by
  have hid : transition.id = event.id := by
    simpa using List.find?_some hfound
  have hfollows : followsFaultOccurrence transition event =
      decide (instant event.createdAt ≤ instant transition.createdAt) := by
    unfold followsFaultOccurrence
    rw [parseCandidate_of_is htransition,
      parseCandidate_of_is hevent]
  unfold IsPaused isMatchingFaultPauseTransition
  rw [hfound, Option.any_some, hfollows]
  simp [hid, Stopped]

theorem transitionAt_later {state : ExecutionStateRecord} {reason transitionAt : String}
    (hclock : Readable now.occurredAt) (hupdated : Readable state.updatedAt)
    (h : validateFaultPauseTimestamp (faultPauseOf order event reason now).faultPause state =
      .ok transitionAt) :
    instant now.occurredAt ≤ instant transitionAt ∧ IsCandidateTimestamp transitionAt := by
  unfold validateFaultPauseTimestamp at h
  change (parseStrictIsoTimestamp now.occurredAt "transitionAt" >>= _) = _ at h
  rw [parse_of_isStrictIso hclock.1, ok_bind, parse_of_isStrictIso hupdated.1, ok_bind] at h
  split at h
  · cases h
  · obtain rfl := Except.ok.inj h
    split_ifs with hlt
    · exact ⟨hlt.le, hupdated.2⟩
    · exact ⟨le_refl _, hclock.2⟩

variable {reason : String} {operator operator' : InMemoryOperatorStateStore}

/-- A pause that is taken makes its event a paused one exactly if its reason is the one that is read
back. -/
theorem isPaused_after (hevent : Readable event.createdAt) (hclock : Readable now.occurredAt)
    (hupdated : Readable operator.state.updatedAt) (hpauses : PausesStop operator)
    (hvalid : validateFaultPauseInput (faultPauseOf order event reason now).faultPause = .ok ())
    (h : applyFaultPauseAtomically operator (faultPauseOf order event reason now).faultPause =
      .ok operator') :
    IsPaused service operator' order event ↔ reason = persistedFaultReason service event := by
  have hreason : ∀ text : String, some (formatFaultPauseReason
      (faultPauseOf order event reason now).faultPause) =
        some ("faultId=" ++ event.id ++ "; reason=" ++ text) ↔ reason = text := by
    intro text
    rw [Option.some.injEq]
    exact String.append_right_inj _
  obtain ⟨haccount, ⟨transition, hfound, haccepts, rfl⟩ | ⟨hnone, transitionAt, htime, rfl⟩⟩ :=
    applyFaultPause_cases h
  · unfold acceptsReplay at haccepts
    obtain ⟨hcommand, hsame, hrecorded, hfollows, -⟩ := of_decide_eq_true haccepts
    obtain ⟨hstops, hreadable⟩ := hpauses transition (List.mem_of_find?_eq_some hfound) hcommand
    have hlater : instant event.createdAt ≤ instant transition.createdAt := by
      unfold faultPauseTransitionMatchesOccurrence at hfollows
      dsimp only [faultPauseOf] at hfollows
      split at hfollows
      · rename_i persisted occurred hpersisted hoccurred
        rw [← (isStrictIso_of_parse hpersisted).2, ← (isStrictIso_of_parse hoccurred).2]
        exact of_decide_eq_true hfollows
      · cases hfollows
    rw [isPaused_iff hfound hreadable hevent.2, hrecorded, hreason]
    exact ⟨fun hall => hall.2.2.2.2, fun heq => ⟨hsame, hcommand, hstops, hlater, heq⟩⟩
  · have hvalidFault := validFault_of_validate hvalid
    obtain ⟨-, hle⟩ := hvalidFault.transitionAt now.occurredAt rfl
    obtain ⟨hlater, hreadable⟩ := transitionAt_later hclock hupdated htime
    have hfound : getTransitionById (recordTransition operator
        (faultPausedState operator.state (formatFaultPauseReason
          (faultPauseOf order event reason now).faultPause) transitionAt) .automaticPause
        (some (formatFaultPauseReason (faultPauseOf order event reason now).faultPause))
        event.id) event.id = _ := List.find?_cons_of_pos (decide_eq_true rfl)
    have hid : (faultPauseOf order event reason now).faultPause.faultId = event.id := rfl
    rw [hid, isPaused_iff hfound hreadable hevent.2]
    change _ ∧ _ ∧ _ ∧ _ ∧ some (formatFaultPauseReason
      (faultPauseOf order event reason now).faultPause) = _ ↔ _
    rw [hreason]
    refine ⟨fun hall => hall.2.2.2.2, fun heq => ⟨haccount, rfl, ?_, ?_, heq⟩⟩
    · exact stopped_faultPausedState operator.state (formatFaultPauseReason
        (faultPauseOf order event reason now).faultPause) transitionAt
    · exact le_trans hle hlater

variable {other : OrderEventRecord}

theorem isPaused_other (hne : other.id ≠ event.id)
    (h : applyFaultPauseAtomically operator (faultPauseOf order event reason now).faultPause =
      .ok operator') :
    IsPaused service operator' order other ↔ IsPaused service operator order other := by
  have hsame : getTransitionById operator' other.id = getTransitionById operator other.id := by
    obtain ⟨-, ⟨transition, -, -, rfl⟩ | ⟨-, transitionAt, -, rfl⟩⟩ := applyFaultPause_cases h
    · rfl
    · exact List.find?_cons_of_neg fun heq => hne (of_decide_eq_true heq).symm
  unfold IsPaused
  rw [hsame]

/-! ### The fault events of an order -/

/-- The fault events of the order. -/
def faultEvents (service : Service Num) (stores : Stores) (order : OrderRecord) :
    List OrderEventRecord :=
  candidateProjectionFaultEvents (listOrderEvents service stores order.id) order.id

/-- The events that are not paused, in the order in which they are repaired. -/
def unpausedEvents (service : Service Num) (stores : Stores) (order : OrderRecord) :
    List OrderEventRecord :=
  (orderedFaultEvents service stores order).filter fun event =>
    ¬ IsPaused service stores.repositories.operator order event

/-- The id is one under which faults of the order are recorded. -/
def IsFaultId (order : OrderRecord) (id : String) : Prop :=
  startsWith id ("candidate-evidence-fault:" ++ order.id ++ ":") = true ∨
    startsWith id ("candidate-evidence-recovery-fault:" ++ order.id) = true

theorem mem_faultEvents : event ∈ faultEvents service stores order ↔
    event ∈ stores.repositories.orderEvents ∧ event.orderId = order.id ∧
      event.eventType = "CANDIDATE_EVIDENCE_PROJECTION_FAILED" ∧ IsFaultId order event.id := by
  unfold faultEvents candidateProjectionFaultEvents listOrderEvents IsFaultId
  rw [List.mem_filter, List.mem_insertionSort, List.mem_filter]
  simp [and_assoc]

theorem mem_unpausedEvents : event ∈ unpausedEvents service stores order ↔
    event ∈ faultEvents service stores order ∧
      ¬ IsPaused service stores.repositories.operator order event := by
  unfold unpausedEvents orderedFaultEvents
  rw [List.mem_filter, List.mem_insertionSort]
  simp [faultEvents]

theorem isFaultId_faultEventId (code : String) : IsFaultId order (faultEventId order code) := by
  refine Or.inl (List.isPrefixOf_iff_prefix.mpr ?_)
  unfold faultEventId
  simp only [String.toList_append]
  exact List.prefix_append _ _

/-- No two order events have one id, and faults of the order are recorded as such under their ids, at
times that can be read. The automatic pauses of the log stop the account. -/
structure Persisted (service : Service Num) (stores : Stores) (order : OrderRecord) (now : Clock) :
    Prop where
  eventIds : (stores.repositories.orderEvents.map OrderEventRecord.id).Nodup
  faultIds : ∀ event ∈ stores.repositories.orderEvents, ∀ code, event.id = faultEventId order code →
    event.orderId = order.id ∧ event.eventType = "CANDIDATE_EVIDENCE_PROJECTION_FAILED"
  faultTimes : ∀ event ∈ faultEvents service stores order, Readable event.createdAt
  pauses : PausesStop stores.repositories.operator
  updatedAt : Readable stores.repositories.operator.state.updatedAt
  clock : Readable now.occurredAt

theorem Persisted.congr (h : Persisted service stores order now)
    (hsame : stores'.repositories = stores.repositories) : Persisted service stores' order now := by
  have hevents : faultEvents service stores' order = faultEvents service stores order := by
    unfold faultEvents listOrderEvents
    rw [hsame]
  exact ⟨hsame ▸ h.eventIds, hsame ▸ h.faultIds, hevents ▸ h.faultTimes, hsame ▸ h.pauses,
    hsame ▸ h.updatedAt, h.clock⟩

theorem eq_of_id (h : Persisted service stores order now)
    (hevent : event ∈ stores.repositories.orderEvents)
    (hother : other ∈ stores.repositories.orderEvents) (hid : event.id = other.id) :
    event = other :=
  List.inj_on_of_nodup_map h.eventIds hevent hother hid

/-! ### The classification -/

/-- The sweep takes the order. -/
def IsEligible (service : Service Num) (stores : Stores) (order : OrderRecord) : Prop :=
  classifyOrder service stores order = .ok .eligible

/-- An order with fault events is eligible exactly if one of them is not paused. -/
theorem isEligible_of_faulted (h : faultEvents service stores order ≠ []) :
    IsEligible (answering service) stores order ↔
      ∃ event ∈ faultEvents service stores order,
        ¬ IsPaused service stores.repositories.operator order event := by
  have hclassify : classifyOrder (answering service) stores order =
      .ok (if (faultEvents service stores order).any (fun event =>
        hasMatchingFaultPauseTransition service stores order event = false) then .eligible
        else .disposed) := by
    unfold classifyOrder
    rw [read_answering, ok_bind]
    change (if (faultEvents service stores order).isEmpty = true then _ else _) = _
    rw [if_neg (by simpa using h)]
    rfl
  have hany : (faultEvents service stores order).any (fun event =>
      hasMatchingFaultPauseTransition service stores order event = false) = true ↔
        ∃ event ∈ faultEvents service stores order,
          ¬ IsPaused service stores.repositories.operator order event := by
    rw [List.any_eq_true]
    unfold IsPaused hasMatchingFaultPauseTransition
    simp only [decide_eq_true_eq, Bool.not_eq_true]
  unfold IsEligible
  rw [hclassify, Except.ok.injEq, ← hany]
  split_ifs with hcase
  · exact iff_of_true rfl hcase
  · exact iff_of_false (by simp) hcase

/-- An order is eligible because a fault event is not paused, or without fault events. -/
theorem eligible_cases (h : IsEligible service stores order) :
    service.failure .listOrderEvents = none ∧
      ((service.failure .getTransitionById = none ∧ unpausedEvents service stores order ≠ []) ∨
        (faultEvents service stores order = [] ∧
          classifyUnfaulted service stores order = .ok .eligible)) := by
  unfold IsEligible classifyOrder at h
  obtain ⟨events, hevents, h⟩ := bind_eq_ok.mp h
  obtain ⟨hanswers, rfl⟩ := read_eq_ok.mp hevents
  refine ⟨hanswers, ?_⟩
  change (if (faultEvents service stores order).isEmpty = true then _ else _) = _ at h
  split_ifs at h with hempty
  · exact Or.inr ⟨List.isEmpty_iff.mp hempty, h⟩
  · obtain ⟨incomplete, hincomplete, h⟩ := bind_eq_ok.mp h
    obtain ⟨htransitions, rfl⟩ := read_eq_ok.mp hincomplete
    refine Or.inl ⟨htransitions, fun hnone => ?_⟩
    rw [Except.ok.injEq] at h
    split_ifs at h with hany
    obtain ⟨event, hevent, hunpaused⟩ := List.any_eq_true.mp hany
    have hmem : event ∈ unpausedEvents service stores order := by
      refine mem_unpausedEvents.mpr ⟨hevent, ?_⟩
      unfold hasMatchingFaultPauseTransition at hunpaused
      rw [decide_eq_true_eq] at hunpaused
      unfold IsPaused
      rw [hunpaused]
      decide
    rw [hnone] at hmem
    cases hmem

/-! ### A call that repairs a pause -/

theorem findIncompleteFaultPause_eq (hanswers : service.failure .listOrderEvents = none)
    (htransitions : service.failure .getTransitionById = none ∨
      faultEvents service stores order = []) :
    findIncompleteFaultPause service stores order =
      .ok (unpausedEvents service stores order).head? := by
  unfold findIncompleteFaultPause
  have hevents : service.read .listOrderEvents (orderedFaultEvents service stores order) =
      .ok (orderedFaultEvents service stores order) := read_eq_ok.mpr ⟨hanswers, rfl⟩
  have hfind : (orderedFaultEvents service stores order).find? (fun event =>
      hasMatchingFaultPauseTransition service stores order event = false) =
        (unpausedEvents service stores order).head? := by
    unfold unpausedEvents
    rw [List.head?_filter]
    congr 1
    funext event
    unfold IsPaused hasMatchingFaultPauseTransition
    simp only [Bool.not_eq_true]
  rw [hevents, ok_bind]
  cases hordered : orderedFaultEvents service stores order with
  | nil =>
    unfold unpausedEvents
    rw [hordered]
    rfl
  | cons event rest =>
    dsimp only
    rw [← hordered, hfind]
    refine read_eq_ok.mpr ⟨htransitions.resolve_right fun hnone => ?_, rfl⟩
    have hmem : event ∈ orderedFaultEvents service stores order := by
      rw [hordered]
      exact List.mem_cons_self
    unfold orderedFaultEvents at hmem
    rw [List.mem_insertionSort] at hmem
    have hmem' : event ∈ faultEvents service stores order := hmem
    rw [hnone] at hmem'
    cases hmem'

theorem isBlank_trim (h : trim text ≠ "") : isBlank (trim text) = false := by
  unfold trim at h ⊢
  set chars := (text.toList.dropWhile isJsSpace).reverse.dropWhile isJsSpace with hchars
  have hne : chars ≠ [] := by
    intro hnil
    rw [hnil] at h
    exact h rfl
  have hhead : isJsSpace (chars.head hne) = false := List.head_dropWhile_not isJsSpace hne
  unfold isBlank
  rw [String.toList_ofList, List.all_eq_false]
  exact ⟨chars.head hne, by simp, by rw [hhead]; decide⟩

theorem isBlank_trimmedField {record : List (String × JsonValue Num)} {name text : String}
    (h : trimmedField record name = some text) : isBlank text = false := by
  unfold trimmedField at h
  split at h
  · split_ifs at h with hempty
    rw [← Option.some.inj h]
    exact isBlank_trim hempty
  · cases h

theorem isBlank_persistedFaultReason : isBlank (persistedFaultReason service event) = false := by
  have hunreadable : isBlank ("Persisted candidate projection fault " ++ event.id ++ ".") = false :=
    isBlank_append (isBlank_append (by decide))
  unfold persistedFaultReason
  dsimp only
  split
  · split
    · rename_i hcode hmessage
      exact isBlank_append (isBlank_append (isBlank_trimmedField hcode))
    · rename_i hcode hmessage
      exact isBlank_trimmedField hcode
    · rename_i hcode hmessage
      exact isBlank_trimmedField hmessage
    · exact hunreadable
  · exact hunreadable

/-! ### The repair of a pause -/

theorem isBlank_of_isFaultId {id : String} (h : IsFaultId order id) : isBlank id = false := by
  have hstart : ∀ start : String, isBlank start = false → startsWith id start = true →
      isBlank id = false := by
    intro start hblank hid
    obtain ⟨rest, hrest⟩ := List.isPrefixOf_iff_prefix.mp hid
    have happend : id = start ++ String.ofList rest := by
      refine String.toList_injective ?_
      rw [String.toList_append, String.toList_ofList, hrest]
    rw [happend]
    exact isBlank_append hblank
  rcases h with h | h
  · exact hstart _ (isBlank_append (isBlank_append (by decide))) h
  · exact hstart _ (isBlank_append (by decide)) h

theorem account_of_validate {input : FaultPauseInput} (h : validateFaultPauseInput input = .ok ()) :
    input.exchangeAccountId ≠ "" := by
  unfold validateFaultPauseInput at h
  split_ifs at h with hempty
  exact fun haccount => hempty (Or.inl haccount)

theorem validate_faultPauseOf (haccount : order.exchangeAccountId ≠ "")
    (hid : isBlank event.id = false) (hreason : isBlank reason = false)
    (hevent : Readable event.createdAt) (hclock : Readable now.occurredAt)
    (hle : instant event.createdAt ≤ instant now.occurredAt) :
    validateFaultPauseInput (faultPauseOf order event reason now).faultPause = .ok () := by
  unfold validateFaultPauseInput
  rw [if_neg]
  · change (parseStrictIsoTimestamp event.createdAt "occurredAt" >>= fun _ =>
      parseStrictIsoTimestamp now.occurredAt "transitionAt" >>= _) = _
    rw [parse_of_isStrictIso hevent.1, ok_bind, parse_of_isStrictIso hclock.1, ok_bind,
      if_neg (not_lt.mpr hle)]
  · rintro (h | h | h)
    · exact haccount h
    · exact absurd (hid.symm.trans h) (by decide)
    · exact absurd (hreason.symm.trans h) (by decide)

theorem apply_faultPauseOf {operator : InMemoryOperatorStateStore}
    (hvalid : validateFaultPauseInput (faultPauseOf order event reason now).faultPause = .ok ())
    (haccount : operator.state.exchangeAccountId = order.exchangeAccountId)
    (hnone : getTransitionById operator event.id = none) (hclock : Readable now.occurredAt)
    (hupdated : Readable operator.state.updatedAt) :
    ∃ operator', applyFaultPauseAtomically operator (faultPauseOf order event reason now).faultPause =
      .ok operator' := by
  obtain ⟨transitionAt, htime⟩ : ∃ transitionAt, validateFaultPauseTimestamp
      (faultPauseOf order event reason now).faultPause operator.state = .ok transitionAt := by
    unfold validateFaultPauseTimestamp
    change ∃ transitionAt, (parseStrictIsoTimestamp now.occurredAt "transitionAt" >>= _) = _
    rw [parse_of_isStrictIso hclock.1, ok_bind, parse_of_isStrictIso hupdated.1, ok_bind,
      if_neg (by rintro ⟨hnone, -⟩; cases hnone)]
    exact ⟨_, rfl⟩
  have hid : (faultPauseOf order event reason now).faultPause.faultId = event.id := rfl
  unfold applyFaultPauseAtomically decideFaultPause
  rw [hvalid, ok_bind, if_neg (fun hne => hne haccount.symm), hid, hnone]
  dsimp only
  rw [htime]
  exact ⟨_, rfl⟩

/-- **A repair is refused only for its event.** Where the fault of the call is taken, the repair before
it would have been, had its event no transition yet and a time no later than the clock. -/
theorem repair_taken {memory' : InMemoryRepositories} (h : Persisted service stores order now)
    (hevent : event ∈ faultEvents service stores order)
    (hnone : getTransitionById stores.repositories.operator event.id = none)
    (hle : instant event.createdAt ≤ instant now.occurredAt)
    (hclock : validateClock service now = .ok ()) (hinput : input.orderId = order.id)
    (haccount : input.faultPause.exchangeAccountId = order.exchangeAccountId)
    (hfault : stores.repositories.persistCandidateProjectionFault input = .ok (outcome, memory')) :
    ∃ answer, repairPersistedFaultPause service stores order event now = .ok answer := by
  obtain ⟨hmem, horderId, -, hid⟩ := mem_faultEvents.mp hevent
  obtain ⟨hvalidFault, hoperator, -, -⟩ := persist_cases hfault
  obtain ⟨hoperatorAccount, -⟩ := applyFaultPause_cases hoperator
  rw [haccount] at hoperatorAccount
  have hvalid := validate_faultPauseOf (haccount ▸ account_of_validate hvalidFault)
    (isBlank_of_isFaultId hid) (@isBlank_persistedFaultReason Num service event)
    (h.faultTimes event hevent) h.clock hle
  obtain ⟨operator', hpause⟩ := apply_faultPauseOf hvalid hoperatorAccount hnone h.clock h.updatedAt
  -- the order is stored, the account is its own, and the event is the stored one
  obtain ⟨stored, hstored, hstoredAccount⟩ : ∃ stored,
      Table.select OrderRecord.id order.id stores.repositories.orders = some stored ∧
        order.exchangeAccountId = stored.exchangeAccountId := by
    unfold InMemoryRepositories.persistCandidateProjectionFault at hfault
    rw [hinput] at hfault
    cases hselect : Table.select OrderRecord.id order.id stores.repositories.orders with
    | none =>
      rw [hselect] at hfault
      cases hfault
    | some stored =>
      rw [hselect] at hfault
      refine ⟨stored, rfl, by_contra fun hne => ?_⟩
      dsimp only at hfault
      rw [haccount, if_pos (Or.inr hne)] at hfault
      cases hfault
  have hselected : Table.select OrderEventRecord.id event.id stores.repositories.orderEvents =
      some event := Table.select_of_mem h.eventIds hmem
  have hpersist : ∃ persisted, stores.repositories.persistCandidateProjectionFault
      (faultPauseOf order event (persistedFaultReason service event) now) = .ok persisted := by
    have horder : (faultPauseOf order event (persistedFaultReason service event) now).orderId =
        order.id := rfl
    have hkept : (faultPauseOf order event (persistedFaultReason service event) now).event =
        event := rfl
    have hstoredId : stored.id = order.id := Table.key_of_select hstored
    have haccounts : (faultPauseOf order event (persistedFaultReason service event)
        now).faultPause.exchangeAccountId = stored.exchangeAccountId := hstoredAccount
    have hprovenance : ¬ (event.orderId ≠ stored.id ∨ (faultPauseOf order event
        (persistedFaultReason service event) now).faultPause.exchangeAccountId ≠
          stored.exchangeAccountId) := by
      rw [horderId, hstoredId, haccounts]
      simp
    unfold InMemoryRepositories.persistCandidateProjectionFault
    rw [horder, hstored]
    dsimp only
    rw [hkept, if_neg hprovenance, if_neg (fun hne => hne rfl), hvalid, ok_bind, hselected,
      Option.any_some, if_neg (by simp), hpause, ok_bind]
    exact ⟨_, rfl⟩
  obtain ⟨persisted, hpersist⟩ := hpersist
  unfold repairPersistedFaultPause
  dsimp only
  rw [hclock, hpersist]
  exact ⟨_, rfl⟩

theorem nodup_unpausedEvents (h : Persisted service stores order now) :
    (unpausedEvents service stores order).Nodup := by
  have hevents : (listOrderEvents service stores order.id).Nodup := by
    unfold listOrderEvents
    rw [(List.perm_insertionSort _ _).nodup_iff]
    exact h.eventIds.of_map.filter _
  unfold unpausedEvents orderedFaultEvents candidateProjectionFaultEvents
  refine List.Nodup.filter _ ?_
  rw [(List.perm_insertionSort _ _).nodup_iff]
  exact hevents.filter _

theorem call_eq_ok {α : Type} {x : Except String α} {answer : α} :
    call x = .ok answer ↔ x = .ok answer := mapError_eq_ok

theorem repair_eq_ok
    (h : repairPersistedFaultPause service stores order event now = .ok (result, stores')) :
    ∃ outcome repositories, stores.repositories.persistCandidateProjectionFault
        (faultPauseOf order event (persistedFaultReason service event) now) =
          .ok (outcome, repositories) ∧ stores' = stores.withRepositories repositories := by
  unfold repairPersistedFaultPause at h
  dsimp only at h
  obtain ⟨-, h⟩ := then_eq_ok.mp h
  obtain ⟨⟨outcome, repositories⟩, hpersist, h⟩ := bind_eq_ok.mp h
  refine ⟨outcome, repositories, ?_, (Prod.mk.inj (Except.ok.inj h)).2.symm⟩
  exact call_eq_ok.mp hpersist

/-- **A repair disposes of the order if it was the last one.** -/
theorem isEligible_repaired {rest : List OrderEventRecord}
    (h : Persisted service stores order now)
    (hunpaused : unpausedEvents service stores order = event :: rest)
    (hrepair : repairPersistedFaultPause service stores order event now = .ok (result, stores')) :
    IsEligible (answering service) stores' order ↔ rest ≠ [] := by
  obtain ⟨outcome, repositories, hpersist, rfl⟩ := repair_eq_ok hrepair
  obtain ⟨hvalid, hoperator, -, hevents⟩ := persist_cases hpersist
  have hfirst : event ∈ unpausedEvents service stores order := by
    rw [hunpaused]
    exact List.mem_cons_self
  obtain ⟨hfault, -⟩ := mem_unpausedEvents.mp hfirst
  have hmem := (mem_faultEvents.mp hfault).1
  have hsame : faultEvents service (stores.withRepositories repositories) order =
      faultEvents service stores order := by
    have hkept : repositories.orderEvents = stores.repositories.orderEvents := by
      obtain ⟨-, hkept⟩ | ⟨hnew, -⟩ := hevents
      · exact hkept
      · exact absurd rfl (hnew event hmem)
    unfold faultEvents listOrderEvents Stores.withRepositories
    rw [hkept]
  have hpaused : IsPaused service repositories.operator order event :=
    (isPaused_after (h.faultTimes event hfault) h.clock h.updatedAt h.pauses hvalid hoperator).mpr rfl
  have hothers : ∀ other ∈ faultEvents service stores order, other ≠ event →
      (IsPaused service repositories.operator order other ↔
        IsPaused service stores.repositories.operator order other) := by
    intro other hother hne
    refine isPaused_other (fun hid => hne ?_) hoperator
    exact eq_of_id h (mem_faultEvents.mp hother).1 hmem hid
  have hnodup := nodup_unpausedEvents h
  rw [hunpaused, List.nodup_cons] at hnodup
  rw [isEligible_of_faulted (by rw [hsame]; exact List.ne_nil_of_mem hfault), hsame]
  constructor
  · rintro ⟨other, hother, hopen⟩
    have hne : other ≠ event := fun heq => hopen (heq ▸ hpaused)
    have hstill : other ∈ unpausedEvents service stores order :=
      mem_unpausedEvents.mpr ⟨hother, fun hbefore => hopen ((hothers other hother hne).mpr hbefore)⟩
    rw [hunpaused, List.mem_cons] at hstill
    exact List.ne_nil_of_mem (hstill.resolve_left hne)
  · intro hrest
    obtain ⟨other, hother⟩ := List.exists_mem_of_ne_nil rest hrest
    have hstill : other ∈ unpausedEvents service stores order := by
      rw [hunpaused]
      exact List.mem_cons_of_mem _ hother
    obtain ⟨hotherFault, hopen⟩ := mem_unpausedEvents.mp hstill
    have hne : other ≠ event := fun heq => hnodup.1 (heq ▸ hother)
    exact ⟨other, hotherFault, fun hafter => hopen ((hothers other hotherFault hne).mp hafter)⟩

/-! ### A fault that is recorded -/

variable {code message : String}

theorem fault_eq_ok (h : fault service stores order code message now = .ok (result, stores')) :
    validateClock service now = .ok () ∧ ∃ outcome repositories,
      stores.repositories.persistCandidateProjectionFault (faultPauseOf order
        (storedFaultEvent service stores order code message now) (code ++ ": " ++ message) now) =
          .ok (outcome, repositories) ∧ stores' = stores.withRepositories repositories := by
  unfold fault at h
  obtain ⟨hclock, h⟩ := then_eq_ok.mp h
  obtain ⟨event, hevent, h⟩ := bind_eq_ok.mp h
  obtain ⟨-, rfl⟩ := read_eq_ok.mp hevent
  obtain ⟨⟨outcome, repositories⟩, hpersist, h⟩ := bind_eq_ok.mp h
  refine ⟨call_eq_ok.mp hclock, outcome, repositories, call_eq_ok.mp hpersist, ?_⟩
  exact (Prod.mk.inj (Except.ok.inj h)).2.symm

section

variable (h : Persisted service stores order now)
include h

/-- The event that a fault is stored under is the one of its id. -/
theorem storedFaultEvent_eq (hmem : event ∈ stores.repositories.orderEvents)
    (horder : event.orderId = order.id)
    (hid : (storedFaultEvent service stores order code message now).id = event.id) :
    storedFaultEvent service stores order code message now = event := by
  have hlisted : event ∈ listOrderEvents service stores order.id := by
    unfold listOrderEvents
    rw [List.mem_insertionSort, List.mem_filter]
    exact ⟨hmem, decide_eq_true horder⟩
  unfold storedFaultEvent at hid ⊢
  cases hfind : (listOrderEvents service stores order.id).find?
      (·.id = faultEventId order code) with
  | some found =>
    rw [hfind] at hid
    have hfound := List.mem_of_find?_eq_some hfind
    unfold listOrderEvents at hfound
    rw [List.mem_insertionSort, List.mem_filter] at hfound
    exact eq_of_id h hfound.1 hmem hid
  | none =>
    rw [hfind] at hid
    exact absurd (decide_eq_true hid.symm) (List.find?_eq_none.mp hfind event hlisted)

/-- **A fault does not dispose of an order whose repair was refused.** -/
theorem isEligible_of_refused {thrown : Thrown}
    (hunpaused : event ∈ unpausedEvents service stores order)
    (hrepair : repairPersistedFaultPause service stores order event now = .error thrown)
    (hfault : fault service stores order code message now = .ok (result, stores')) :
    IsEligible (answering service) stores' order := by
  obtain ⟨hclock, outcome, repositories, hpersist, rfl⟩ := fault_eq_ok hfault
  obtain ⟨hvalid, hoperator, -, hevents⟩ := persist_cases hpersist
  obtain ⟨hmem, hopen⟩ := mem_unpausedEvents.mp hunpaused
  obtain ⟨hstored, hrest⟩ := mem_faultEvents.mp hmem
  have hkept : event ∈ faultEvents service (stores.withRepositories repositories) order := by
    refine mem_faultEvents.mpr ⟨?_, hrest⟩
    obtain ⟨-, hsame⟩ | ⟨-, hsame⟩ := hevents
    · exact hsame ▸ hstored
    · exact hsame ▸ List.mem_append_left _ hstored
  refine (isEligible_of_faulted (List.ne_nil_of_mem hkept)).mpr ⟨event, hkept, ?_⟩
  change ¬ IsPaused service repositories.operator order event
  by_cases hid : event.id = (storedFaultEvent service stores order code message now).id
  · -- the fault is recorded under the same event, and with another reason
    have hsame := storedFaultEvent_eq h hstored hrest.1 hid.symm
    rw [hsame] at hpersist hvalid hoperator
    rw [isPaused_after (h.faultTimes event hmem) h.clock h.updatedAt h.pauses hvalid hoperator]
    intro hreason
    rw [hreason] at hpersist
    unfold repairPersistedFaultPause at hrepair
    dsimp only at hrepair
    rw [hclock, hpersist] at hrepair
    cases hrepair
  · rw [isPaused_other hid hoperator]
    exact hopen

theorem storedFaultEvent_new (hnone : faultEvents service stores order = []) :
    storedFaultEvent service stores order code message now =
      faultEvent service order code message now := by
  unfold storedFaultEvent
  cases hfind : (listOrderEvents service stores order.id).find?
      (·.id = faultEventId order code) with
  | none => rfl
  | some found =>
    have hfound := List.mem_of_find?_eq_some hfind
    have hid : found.id = faultEventId order code := by simpa using List.find?_some hfind
    unfold listOrderEvents at hfound
    rw [List.mem_insertionSort, List.mem_filter] at hfound
    obtain ⟨horder, htype⟩ := h.faultIds found hfound.1 code hid
    have hmem : found ∈ faultEvents service stores order :=
      mem_faultEvents.mpr ⟨hfound.1, horder, htype, hid ▸ isFaultId_faultEventId code⟩
    rw [hnone] at hmem
    cases hmem

/-- **The first fault of an order disposes of it if its reason reads back.** -/
theorem isEligible_faulted (hnone : faultEvents service stores order = [])
    (hfault : fault service stores order code message now = .ok (result, stores')) :
    IsEligible (answering service) stores' order ↔ ¬ (Clean code ∧ Clean message) := by
  obtain ⟨-, outcome, repositories, hpersist, rfl⟩ := fault_eq_ok hfault
  rw [storedFaultEvent_new h hnone] at hpersist
  obtain ⟨hvalid, hoperator, -, hevents⟩ := persist_cases hpersist
  have hnew : ∀ stored, stored ∈ faultEvents service (stores.withRepositories repositories) order ↔
      stored = faultEvent service order code message now := by
    intro stored
    have hfaulted : (faultEvent service order code message now).orderId = order.id ∧
        (faultEvent service order code message now).eventType =
          "CANDIDATE_EVIDENCE_PROJECTION_FAILED" ∧
        IsFaultId order (faultEvent service order code message now).id :=
      ⟨rfl, rfl, isFaultId_faultEventId code⟩
    have habsent : ∀ other ∈ stores.repositories.orderEvents, ¬ (other.orderId = order.id ∧
        other.eventType = "CANDIDATE_EVIDENCE_PROJECTION_FAILED" ∧ IsFaultId order other.id) := by
      intro other hother hprovenance
      have hmem := (@mem_faultEvents Num service stores order other).mpr ⟨hother, hprovenance⟩
      rw [hnone] at hmem
      cases hmem
    obtain ⟨hstored, -⟩ | ⟨-, hadded⟩ := hevents
    · exact absurd hfaulted (habsent _ hstored)
    · rw [mem_faultEvents]
      change stored ∈ repositories.orderEvents ∧ _ ↔ _
      rw [hadded, List.mem_append, List.mem_singleton]
      constructor
      · rintro ⟨hold | heq, hprovenance⟩
        · exact absurd hprovenance (habsent stored hold)
        · exact heq
      · rintro rfl
        exact ⟨Or.inr rfl, hfaulted⟩
  have hlisted := (hnew _).mpr rfl
  have hpaused : IsPaused service repositories.operator order
      (faultEvent service order code message now) ↔ _ :=
    isPaused_after h.clock h.clock h.updatedAt h.pauses hvalid hoperator
  rw [persistedFaultReason_faultEvent, eq_comm, reason_read_back_iff] at hpaused
  rw [isEligible_of_faulted (List.ne_nil_of_mem hlisted), ← hpaused]
  constructor
  · rintro ⟨stored, hstored, hopen⟩
    rw [(hnew stored).mp hstored] at hopen
    exact hopen
  · exact fun hopen => ⟨_, hlisted, hopen⟩

end

end Pause

/-! ### A projection that does not throw -/

section Projection

variable {deployment : PositionGuardPilotDeploymentRecord} {binding : CandidateExecutionBindingRecord}
  {decision : VerifiedDecision} {aggregate : TerminalFillAggregate} {now : Clock}

/-- An order that the classification does not take, when it has no fault events. -/
def Settled (service : Service Num) (stores : Stores) (order : OrderRecord) : Prop :=
  classifyUnfaulted (answering service) stores order ≠ .ok .eligible

theorem settled_of_marker (hmarked : hasTerminalNoFillMarker service stores order = true)
    (hempty : (listFills stores order.id).isEmpty = true) : Settled service stores order := by
  have hunfilled : isRecordedNoFill (answering service) stores order = .ok true := by
    unfold isRecordedNoFill
    have hmarked' : hasTerminalNoFillMarker (answering service) stores order = true := hmarked
    rw [hmarked', if_pos rfl, read_answering, hempty]
  unfold Settled classifyUnfaulted
  rw [hunfilled, ok_bind, if_pos rfl]
  simp

/-- The classification goes by the open deployment of the account, if there is one. -/
theorem settled_of_deployment (h : ∀ deployment,
    getDeploymentForExchangeAccount service stores order.exchangeAccountId = some deployment →
      isOpen deployment = true →
        classifyOpen (answering service) stores order deployment ≠ .ok .eligible) :
    Settled service stores order := by
  unfold Settled classifyUnfaulted
  intro heligible
  obtain ⟨unfilled, -, heligible⟩ := bind_eq_ok.mp heligible
  cases unfilled with
  | true => cases heligible
  | false =>
    rw [if_neg (by decide), if_neg (fun hne => hne rfl)] at heligible
    have hsame : getDeploymentForExchangeAccount (answering service) stores
        order.exchangeAccountId =
          getDeploymentForExchangeAccount service stores order.exchangeAccountId := rfl
    rw [hsame] at heligible
    cases hfilter : (getDeploymentForExchangeAccount service stores order.exchangeAccountId).filter
        fun deployment => isOpen deployment with
    | none =>
      rw [hfilter] at heligible
      cases heligible
    | some deployment =>
      rw [hfilter] at heligible
      obtain ⟨hdeployed, hopen⟩ := Option.filter_eq_some_iff.mp hfilter
      exact h deployment hdeployed hopen heligible

theorem settled_of_record (h : Served service stores order deployment binding)
    (hrecord : (getEvidenceRecord stores deployment.id (evidenceIdOf order)).isSome = true) :
    Settled service stores order := by
  refine settled_of_deployment fun found hfound _ => ?_
  obtain rfl := Option.some.inj (h.deployed.symm.trans hfound)
  unfold classifyOpen
  rw [if_neg (fun hne => hne rfl), h.activated, if_neg (by decide), h.bound]
  dsimp only
  rw [if_neg (fun hne => hne h.deploymentId), read_answering, ok_bind, hrecord]
  simp

/-! ### What a projection has written -/

theorem isEligible_of_unfaulted (h : faultEvents service stores order = []) :
    IsEligible (answering service) stores order ↔ ¬ Settled service stores order := by
  have hclassify : classifyOrder (answering service) stores order =
      classifyUnfaulted (answering service) stores order := by
    unfold classifyOrder
    rw [read_answering, ok_bind]
    change (if (faultEvents service stores order).isEmpty = true then _ else _) = _
    rw [if_pos (by rw [h]; rfl)]
  unfold IsEligible Settled
  rw [hclassify, ne_eq, not_not]

variable {version : ℤ} {deploymentId : String} {sha256Hex : String → String}
  {repo : PilotRepository}

/-- A duplicate is reported of a record that is stored. -/
theorem isSome_of_duplicate {snapshot evidence : EvidenceSnapshot} {state : ExactCandidateState}
    (h : resolveEvidence sha256Hex repo ⟨deploymentId, version, asEvidence snapshot⟩ =
      .ok (.duplicate state evidence)) :
    ((repo.records deploymentId).find? fun item =>
      item.evidence.evidenceId = snapshot.evidenceId).isSome = true := by
  unfold resolveEvidence at h
  obtain ⟨-, h⟩ := then_eq_ok.mp h
  dsimp only at h
  split at h
  · obtain ⟨material, hmaterial, houtcome⟩ := bind_eq_ok.mp h
    unfold resolveMaterial at houtcome
    rw [material_evidence hmaterial] at houtcome
    cases hfind : (repo.records deploymentId).find? fun item =>
        item.evidence.evidenceId = snapshot.evidenceId with
    | some stored => rfl
    | none =>
      -- a new record is not reported as a duplicate
      rw [hfind] at houtcome
      unfold resolveNewEvidence at houtcome
      simp [bind_eq_ok] at houtcome
  · cases h

variable {snapshot : EvidenceSnapshot}

/-- An advance that is answered leaves the record in the ledger, and the deployments as they were. -/
theorem advanceState_answered {answer : AdvanceCandidatePilotStateResult} {repo' : PilotRepository}
    (h : advanceStateWithEvidence sha256Hex repo ⟨deploymentId, version, asEvidence snapshot⟩ =
      (.ok answer, repo')) :
    ((repo'.records deploymentId).find? fun item =>
        item.evidence.evidenceId = snapshot.evidenceId).isSome = true ∧
      repo'.deployments = repo.deployments := by
  unfold advanceStateWithEvidence at h
  cases hresolve : resolveEvidence sha256Hex repo
      ⟨deploymentId, version, asEvidence snapshot⟩ with
  | error e =>
    rw [hresolve] at h
    cases (Prod.mk.inj h).1
  | ok outcome =>
    rw [hresolve] at h
    cases outcome with
    | duplicate state evidence =>
      obtain ⟨-, rfl⟩ := Prod.mk.inj h
      exact ⟨isSome_of_duplicate hresolve, rfl⟩
    | advanced phase records state next material =>
      obtain ⟨-, hmaterial, rfl, -, -, -⟩ := resolve_advanced hresolve
      obtain ⟨-, rfl⟩ := Prod.mk.inj h
      have hrecords : (repo.storeAdvance deploymentId phase
          (repo.records deploymentId ++ [storedRecord material]) state next material).records
            deploymentId = repo.records deploymentId ++ [storedRecord material] :=
        (records_update deploymentId deploymentId _).trans (if_pos rfl)
      refine ⟨?_, rfl⟩
      dsimp only
      rw [hrecords, List.find?_isSome]
      refine ⟨storedRecord material, by simp, decide_eq_true ?_⟩
      rw [← material_evidence hmaterial]
      rfl

theorem advance_eq_ok
    (h : advance service stores order ⟨deploymentId, version, asEvidence snapshot⟩ =
      (.ok result, stores')) :
    (getEvidenceRecord stores' deploymentId snapshot.evidenceId).isSome = true ∧
      ∃ pilot, stores' = { stores with pilot } ∧
        pilot.deployments = stores.pilot.deployments := by
  unfold advance at h
  cases hfailure : service.failure .advanceStateWithEvidence with
  | some message =>
    rw [hfailure] at h
    cases (Prod.mk.inj h).1
  | none =>
    rw [hfailure] at h
    cases hadvance : advanceStateWithEvidence service.sha256Hex stores.pilot
        ⟨deploymentId, version, asEvidence snapshot⟩ with
    | mk answer pilot =>
      rw [hadvance] at h
      obtain ⟨hresult, rfl⟩ := Prod.mk.inj h
      cases answer with
      | error e => cases hresult
      | ok answer =>
        obtain ⟨hrecord, hdeployments⟩ := advanceState_answered hadvance
        exact ⟨hrecord, pilot, rfl, hdeployments⟩

theorem recordNoFill_marks (hnone : faultEvents service stores order = [])
    (h : recordTerminalNoFill service stores order decision now = .ok (result, stores')) :
    hasTerminalNoFillMarker service stores' order = true ∧
      faultEvents service stores' order = [] ∧ stores'.fills = stores.fills := by
  unfold recordTerminalNoFill at h
  obtain ⟨marked, hmarked, h⟩ := bind_eq_ok.mp h
  obtain ⟨-, rfl⟩ := read_eq_ok.mp hmarked
  split_ifs at h with hmarker
  · obtain ⟨-, rfl⟩ := Prod.mk.inj (Except.ok.inj h)
    exact ⟨hmarker, hnone, rfl⟩
  · rw [then_eq_ok, then_eq_ok] at h
    obtain ⟨-, rfl⟩ := Prod.mk.inj (Except.ok.inj h.2.2)
    refine ⟨?_, ?_, rfl⟩
    · unfold hasTerminalNoFillMarker
      refine List.any_eq_true.mpr ⟨noFillEvent service order decision now, ?_, decide_eq_true rfl⟩
      unfold listOrderEvents Stores.withRepositories
      rw [List.mem_insertionSort, List.mem_filter]
      exact ⟨List.mem_append_right _ List.mem_cons_self, decide_eq_true rfl⟩
    · -- the marker is no fault event
      refine List.eq_nil_iff_forall_not_mem.mpr fun event hevent => ?_
      obtain ⟨hmem, hprovenance⟩ := mem_faultEvents.mp hevent
      rcases List.mem_append.mp hmem with hold | hnew
      · have hbefore := (@mem_faultEvents Num service stores order event).mpr ⟨hold, hprovenance⟩
        rw [hnone] at hbefore
        cases hbefore
      · have htype : event.eventType = "CANDIDATE_EVIDENCE_TERMINAL_NO_FILL" := by
          rw [List.mem_singleton.mp hnew]
          rfl
        rw [htype] at hprovenance
        exact absurd hprovenance.2.1 (by decide)

/-! ### The plans -/

variable {event : OrderEventRecord}

theorem faultEvents_ne_nil (h : findIncompleteFaultPause service stores order = .ok (some event)) :
    faultEvents service stores order ≠ [] := by
  intro hnone
  have hordered : orderedFaultEvents service stores order = [] := by
    have hevents : candidateProjectionFaultEvents (listOrderEvents service stores order.id)
        order.id = [] := hnone
    unfold orderedFaultEvents
    rw [hevents]
    rfl
  unfold findIncompleteFaultPause at h
  rw [hordered] at h
  obtain ⟨events, hevents, h⟩ := bind_eq_ok.mp h
  obtain ⟨-, rfl⟩ := read_eq_ok.mp hevents
  cases h

variable [DecidableEq Num]

/-- **A projection that does not throw disposes of an order without fault events.** -/
theorem not_isEligible_projected (hnone : faultEvents service stores order = [])
    (h : project service stores order now = (.ok result, stores')) :
    ¬ IsEligible (answering service) stores' order := by
  unfold project at h
  cases hplan : planProjection service stores order with
  | error thrown =>
    rw [hplan] at h
    cases (Prod.mk.inj h).1
  | ok plan =>
    rw [hplan] at h
    have hreported : Settled service stores order → stores' = stores →
        ¬ IsEligible (answering service) stores' order := by
      rintro hsettled rfl
      rwa [isEligible_of_unfaulted hnone, not_not]
    cases planned hplan with
    | repair hincomplete => exact absurd hnone (faultEvents_ne_nil hincomplete)
    | notOpen hfilter =>
      refine hreported (settled_of_deployment fun deployment hdeployed hopen => ?_)
        (Prod.mk.inj h).2.symm
      rw [hdeployed, Option.filter_some, if_pos hopen] at hfilter
      cases hfilter
    | preActivation hdeployed hactivated hbinding hpre =>
      refine hreported (settled_of_deployment fun found hfound _ => ?_) (Prod.mk.inj h).2.symm
      obtain rfl := Option.some.inj (hdeployed.symm.trans hfound)
      unfold classifyOpen
      rw [if_neg (fun hne => hne rfl), hactivated, if_neg (by decide), hbinding]
      dsimp only
      rw [if_pos hpre]
      simp
    | marked hmarker hempty =>
      exact hreported (settled_of_marker hmarker hempty) (Prod.mk.inj h).2.symm
    | recorded hserved hrecord =>
      exact hreported (settled_of_record hserved hrecord) (Prod.mk.inj h).2.symm
    | noFill hempty =>
      obtain ⟨hmarked, hstill⟩ := recordNoFill_marks hnone (orUnchanged_eq_ok.mp h)
      rw [isEligible_of_unfaulted hstill.1, not_not]
      refine settled_of_marker hmarked ?_
      unfold listFills
      rw [hstill.2]
      exact hempty
    | advance hserved _ =>
      obtain ⟨hrecord, pilot, rfl, hdeployments⟩ := advance_eq_ok h
      have hstill : faultEvents service { stores with pilot } order = [] := hnone
      rw [isEligible_of_unfaulted hstill, not_not]
      refine settled_of_record ⟨?_, hserved.isOpen, hserved.activated, hserved.bound,
        hserved.deploymentId⟩ hrecord
      have hdeployed := hserved.deployed
      unfold getDeploymentForExchangeAccount at hdeployed ⊢
      dsimp only
      rw [hdeployments]
      exact hdeployed

/-! ### The call -/

theorem orders_withRepositories {repositories : InMemoryRepositories}
    (h : stores.repositories.persistCandidateProjectionFault input = .ok (outcome, repositories)) :
    (stores.withRepositories repositories).repositories.orders = stores.repositories.orders :=
  (persist_cases h).2.2.1

/-- A projection that throws has written at most to the ledger of the pilot. -/
theorem repositories_of_throw {thrown : Thrown}
    (h : project service stores order now = (.error thrown, stores')) :
    stores'.repositories = stores.repositories := by
  have hunchanged : ∀ {x : Except Thrown (CandidateEvidenceProjectionResult × Stores)},
      orUnchanged stores x = (.error thrown, stores') → stores' = stores := by
    intro x hx
    cases x with
    | error e => exact (Prod.mk.inj hx).2.symm
    | ok value => cases (Prod.mk.inj hx).1
  unfold project at h
  cases hplan : planProjection service stores order with
  | error e =>
    rw [hplan] at h
    rw [(Prod.mk.inj h).2]
  | ok plan =>
    rw [hplan] at h
    cases plan with
    | report outcome detail => cases (Prod.mk.inj h).1
    | repair event => rw [hunchanged h]
    | recordNoFill decision => rw [hunchanged h]
    | advance input =>
      dsimp only at h
      unfold advance at h
      split at h
      · rw [(Prod.mk.inj h).2]
      · rw [← (Prod.mk.inj h).2]

theorem orders_of_project (h : project service stores order now = (.ok result, stores')) :
    stores'.repositories.orders = stores.repositories.orders := by
  unfold project at h
  cases hplan : planProjection service stores order with
  | error e =>
    rw [hplan] at h
    cases (Prod.mk.inj h).1
  | ok plan =>
    rw [hplan] at h
    cases plan with
    | report outcome detail => rw [(Prod.mk.inj h).2]
    | repair event =>
      obtain ⟨outcome, repositories, hpersist, rfl⟩ := repair_eq_ok (orUnchanged_eq_ok.mp h)
      exact orders_withRepositories hpersist
    | recordNoFill decision =>
      have hwritten := orUnchanged_eq_ok.mp h
      unfold recordTerminalNoFill at hwritten
      obtain ⟨marked, -, hwritten⟩ := bind_eq_ok.mp hwritten
      split_ifs at hwritten
      · rw [(Prod.mk.inj (Except.ok.inj hwritten)).2]
      · rw [then_eq_ok, then_eq_ok] at hwritten
        rw [← (Prod.mk.inj (Except.ok.inj hwritten.2.2)).2]
        rfl
    | advance input =>
      dsimp only at h
      unfold advance at h
      split at h
      · rw [(Prod.mk.inj h).2]
      · rw [← (Prod.mk.inj h).2]

theorem projectOrFault_cases (h : projectOrFault service stores order now = (.ok result, stores')) :
    project service stores order now = (.ok result, stores') ∨
      ∃ thrown stores'', project service stores order now = (.error thrown, stores'') ∧
        fault service stores'' order thrown.recorded.1 thrown.recorded.2 now =
          .ok (result, stores') := by
  unfold projectOrFault at h
  split at h
  · rename_i projected projectedStores hproject
    exact Or.inl (hproject.trans h)
  · rename_i thrown thrownStores hproject
    exact Or.inr ⟨thrown, thrownStores, hproject, orUnchanged_eq_ok.mp h⟩

theorem orders_of_projectOrFault
    (h : projectOrFault service stores order now = (.ok result, stores')) :
    stores'.repositories.orders = stores.repositories.orders := by
  rcases projectOrFault_cases h with hproject | ⟨thrown, stores'', hproject, hfault⟩
  · exact orders_of_project hproject
  · obtain ⟨-, outcome, repositories, hpersist, rfl⟩ := fault_eq_ok hfault
    rw [orders_withRepositories hpersist, repositories_of_throw hproject]

/-- The state before a call that disposes of the order. -/
def Disposable (service : Service Num) (stores : Stores) (order : OrderRecord) (now : Clock) : Prop :=
  match unpausedEvents service stores order with
  | [] => ∀ thrown, (project service stores order now).1 = .error thrown →
      Clean thrown.recorded.1 ∧ Clean thrown.recorded.2
  | event :: rest => rest = [] ∧
      getTransitionById stores.repositories.operator event.id = none ∧
        instant event.createdAt ≤ instant now.occurredAt

theorem project_repairs {rest : List OrderEventRecord}
    (heligible : IsEligible service stores order)
    (hunpaused : unpausedEvents service stores order = event :: rest) :
    project service stores order now =
      orUnchanged stores (repairPersistedFaultPause service stores order event now) := by
  obtain ⟨hanswers, hcases⟩ := eligible_cases heligible
  have htransitions : service.failure .getTransitionById = none ∨
      faultEvents service stores order = [] := hcases.imp (fun h => h.1) fun h => h.1
  unfold project planProjection
  rw [findIncompleteFaultPause_eq hanswers htransitions, hunpaused, ok_bind]
  rfl

omit [DecidableEq Num] in
theorem repair_pauses (h : Persisted service stores order now)
    (hunpaused : event ∈ unpausedEvents service stores order)
    (hrepair : repairPersistedFaultPause service stores order event now = .ok (result, stores')) :
    getTransitionById stores.repositories.operator event.id = none ∧
      instant event.createdAt ≤ instant now.occurredAt := by
  obtain ⟨outcome, repositories, hpersist, rfl⟩ := repair_eq_ok hrepair
  obtain ⟨hvalid, hoperator, -, -⟩ := persist_cases hpersist
  obtain ⟨hfault, hopen⟩ := mem_unpausedEvents.mp hunpaused
  have hpaused : IsPaused service repositories.operator order event :=
    (isPaused_after (h.faultTimes event hfault) h.clock h.updatedAt h.pauses hvalid hoperator).mpr rfl
  refine ⟨?_, ((validFault_of_validate hvalid).transitionAt now.occurredAt rfl).2⟩
  obtain ⟨-, ⟨transition, -, -, hsame⟩ | ⟨hnone, -⟩⟩ := applyFaultPause_cases hoperator
  · -- a pause that was there already would have been found
    rw [hsame] at hpaused
    exact absurd hpaused hopen
  · exact hnone

/-- **What disposes of an eligible order.** -/
theorem disposed_iff (h : Persisted service stores order now)
    (heligible : IsEligible service stores order)
    (hcall : projectOrFault service stores order now = (.ok result, stores')) :
    ¬ IsEligible (answering service) stores' order ↔ Disposable service stores order now := by
  unfold Disposable
  cases hunpaused : unpausedEvents service stores order with
  | nil =>
    have hnone : faultEvents service stores order = [] := by
      obtain ⟨-, ⟨-, hne⟩ | ⟨hnone, -⟩⟩ := eligible_cases heligible
      · exact absurd hunpaused hne
      · exact hnone
    dsimp only
    rcases projectOrFault_cases hcall with hproject | ⟨thrown, stores'', hproject, hfault⟩
    · rw [hproject]
      exact iff_of_true (not_isEligible_projected hnone hproject) fun thrown hthrown => by
        cases hthrown
    · have hsame := repositories_of_throw hproject
      have hnone'' : faultEvents service stores'' order = [] := by
        unfold faultEvents listOrderEvents at hnone ⊢
        rw [hsame]
        exact hnone
      rw [isEligible_faulted (h.congr hsame) hnone'' hfault, not_not, hproject]
      constructor
      · intro hclean other hother
        rw [← Except.error.inj hother]
        exact hclean
      · exact fun hclean => hclean thrown rfl
  | cons event rest =>
    have hfirst : event ∈ unpausedEvents service stores order := by
      rw [hunpaused]
      exact List.mem_cons_self
    have hproject : project service stores order now = _ := project_repairs heligible hunpaused
    dsimp only
    cases hrepair : repairPersistedFaultPause service stores order event now with
    | ok answer =>
      obtain ⟨repaired, repairedStores⟩ := answer
      obtain rfl : repairedStores = stores' := by
        unfold projectOrFault at hcall
        rw [hproject, hrepair] at hcall
        exact (Prod.mk.inj hcall).2
      obtain ⟨hnew, hle⟩ := repair_pauses h hfirst hrepair
      rw [isEligible_repaired h hunpaused hrepair, not_not]
      exact ⟨fun hrest => ⟨hrest, hnew, hle⟩, fun hall => hall.1⟩
    | error thrown =>
      have hfault : fault service stores order thrown.recorded.1 thrown.recorded.2 now =
          .ok (result, stores') := by
        unfold projectOrFault at hcall
        rw [hproject, hrepair] at hcall
        exact orUnchanged_eq_ok.mp hcall
      obtain ⟨hclock, outcome, repositories, hpersist, -⟩ := fault_eq_ok hfault
      refine iff_of_false (not_not.mpr (isEligible_of_refused h hfirst hrepair hfault)) ?_
      rintro ⟨-, hnew, hle⟩
      obtain ⟨answer, htaken⟩ :=
        repair_taken h (mem_unpausedEvents.mp hfirst).1 hnew hle hclock rfl rfl hpersist
      rw [hrepair] at htaken
      cases htaken

/-- **Leaving the sweep.** A call that returns for an eligible order takes it out of the sweep exactly if
what it throws on the way reads back, or, when it finds fault events without their pauses, if there is
one, with no transition yet, that did not occur after the clock. -/
theorem leaves_sweep_iff {reference : String} {result : CandidateEvidenceProjectionResult}
    (hfound : findOrderByReference service stores reference = some order)
    (hpersisted : Persisted service stores order now)
    (heligible : classifyTerminalOrderForSweep service stores reference = .ok .eligible)
    (hcall : processTerminalOrder service stores reference now = (.ok result, stores')) :
    classifyTerminalOrderForSweep (answering service) stores' reference ≠ .ok .eligible ↔
      Disposable service stores order now := by
  unfold classifyTerminalOrderForSweep at heligible
  rw [hfound] at heligible
  dsimp only at heligible
  have hscope : ¬ (isCandidateOrder order = false ∨ isTerminal order = false) := by
    intro houtside
    rw [if_pos houtside] at heligible
    cases heligible
  rw [if_neg hscope] at heligible
  have hcandidate : isCandidateOrder order ≠ false := fun hfalse => hscope (Or.inl hfalse)
  have hterminal : isTerminal order ≠ false := fun hfalse => hscope (Or.inr hfalse)
  unfold processTerminalOrder at hcall
  rw [hfound] at hcall
  dsimp only at hcall
  rw [if_neg hcandidate, if_neg hterminal] at hcall
  have hfoundAfter : findOrderByReference (answering service) stores' reference = some order := by
    unfold findOrderByReference at hfound ⊢
    rw [orders_of_projectOrFault hcall]
    exact hfound
  unfold classifyTerminalOrderForSweep
  rw [hfoundAfter]
  dsimp only
  rw [if_neg hscope]
  exact disposed_iff hpersisted heligible hcall

end Projection

/-! ### A purchase whose fills cannot be read -/

/-- The service of the purchase, while reading the fills throws an error with this message. -/
def failingService (message : String) : Service ℤ :=
  { purchaseService with
    dateParse := fun _ => some 1767225602000
    failure := fun dependency => if dependency = .listFills then some message else none }

/-- The stores of the purchase, with the operator state of its account. -/
def accountStores : Stores :=
  { purchaseStores with
    repositories := { purchaseStores.repositories with
      operator := create { sampleOperatorState with exchangeAccountId := "acct" } } }

def purchaseClock : Clock := ⟨"2026-01-01T00:00:02.000Z", 1767225602000⟩

def purchaseOrder : OrderRecord := { saleOrder .filled with
  side := .bid, ordType := .price, volume := none, price := some "100000000" }

theorem persisted_purchase (message : String) :
    Persisted (failingService message) accountStores purchaseOrder purchaseClock where
  eventIds := List.nodup_nil
  faultIds := fun event hevent => by cases hevent
  faultTimes := fun event hevent => by cases hevent
  pauses := by decide +kernel
  updatedAt := by decide +kernel
  clock := by decide +kernel

/-- The message ends in a line feed: the pause is not recognised, and the order stays in the sweep. -/
theorem fault_stays_eligible :
    classifyTerminalOrderForSweep (failingService "connection reset\n") accountStores "order" =
        .ok .eligible ∧
      (processTerminalOrder (failingService "connection reset\n") accountStores "order"
        purchaseClock).1 = .ok ⟨.fault, "order",
          "CANDIDATE_EVIDENCE_PROJECTION_FAILED: connection reset\n"⟩ ∧
      classifyTerminalOrderForSweep (answering (failingService "connection reset\n"))
        (processTerminalOrder (failingService "connection reset\n") accountStores "order"
          purchaseClock).2 "order" = .ok .eligible := by
  decide +kernel

theorem leaves_sweep_iff_purchase :
    classifyTerminalOrderForSweep (answering (failingService "connection reset"))
      (processTerminalOrder (failingService "connection reset") accountStores "order"
        purchaseClock).2 "order" ≠ .ok .eligible ↔
      Disposable (failingService "connection reset") accountStores purchaseOrder purchaseClock := by
  have hcall : (processTerminalOrder (failingService "connection reset") accountStores "order"
      purchaseClock).1 = .ok ⟨.fault, "order",
        "CANDIDATE_EVIDENCE_PROJECTION_FAILED: connection reset"⟩ := by
    decide +kernel
  exact leaves_sweep_iff (by decide +kernel) (persisted_purchase _) (by decide +kernel)
    (Prod.ext hcall rfl)

end AutoTrade.Pilot.SweepDisposal
