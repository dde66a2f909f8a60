import Mathlib.Data.List.Forall2
import Paddler.Compatibility.ResponsesAgreement
import Paddler.Compatibility.ResponsesRequest

/-!
# The output of a response as input of the next

A client sends the output of a response back as items of the next request, with other items before
and after it.  Every item is read, and a function call becomes a message from which it can be
recovered; but the content of a message is of the type `output_text`, which the input does not know,
and so its text is dropped.

* `Conveys`, `NextTurn` — what the next request may be expected to make of the output.
* `read_item`, `nextTurn_iff` — what it makes of an item, and of a whole output.
* `messageTexts_streamed`, `messageTexts_collected` — the messages of an output have all content of
  a request.
* `responses_next_turn` — **nothing is lost if and only if** there was no text.
-/

set_option autoImplicit false

namespace Paddler

/-! ## What may be expected -/

/-- The call in the text of a message. -/
def readCall : ConversationMessageContent → Option (List String)
  | .text text => Json.readObject ["call_id", "name", "arguments"] text
  | .parts _ => none

/-- A message of the assistant says what an item says: it has the text of a message, or a call can
be recovered from it. -/
def Conveys (item : Json) (message : ConversationMessage) : Prop :=
  message.role = "assistant" ∧
    (itemKind item = some "message" ∧ itemText item = some message.content.textContent ∨
      itemKind item = some "function_call" ∧ ∃ callId name arguments,
        stringField "call_id" item = some callId ∧ stringField "name" item = some name ∧
        stringField "arguments" item = some arguments ∧
        readCall message.content = some [callId, name, arguments])

/-- More messages for the agent. -/
def ResponsesPreparedRequest.withMessages (self : ResponsesPreparedRequest)
    (messages : List ConversationMessage) : ResponsesPreparedRequest :=
  { self with
    paddlerParams := { self.paddlerParams with
      conversationHistory := ⟨self.paddlerParams.conversationHistory.messages ++ messages⟩ } }

/-- A request with these items. -/
def OpenAIResponsesRequestParams.withItems (self : OpenAIResponsesRequestParams)
    (items : List OpenAIResponsesInputItem) : OpenAIResponsesRequestParams :=
  { self with input := .items items }

/-- The output is read as items; a request with them, and others before and after, is prepared as
one without, and its history has one message for every item, in their order, that says what the item
says.  Reasoning is left out. -/
def NextTurn (params : OpenAIResponsesRequestParams) (output : List Json) : Prop :=
  ∃ items messages, OpenAIResponsesInput.deserialize (.array output) = some (.items items) ∧
    (∀ earlier later : List OpenAIResponsesInputItem,
      (params.withItems (earlier ++ items ++ later)).intoPrepared =
        (params.withItems []).intoPrepared.map fun prepared => prepared.withMessages
          (earlier.filterMap (·.intoConversationMessage) ++ messages ++
            later.filterMap (·.intoConversationMessage))) ∧
    messages = items.filterMap (·.intoConversationMessage) ∧
    List.Forall₂ Conveys (output.filter fun item => itemKind item ≠ some "reasoning") messages

/-! ## Preparing -/

/-- **A request with items is prepared as one without**, with their messages at the end of the
history. -/
theorem intoPrepared_withItems (params : OpenAIResponsesRequestParams)
    (items : List OpenAIResponsesInputItem) :
    (params.withItems items).intoPrepared = (params.withItems []).intoPrepared.map fun prepared =>
      prepared.withMessages (items.filterMap (·.intoConversationMessage)) := by
  unfold OpenAIResponsesRequestParams.intoPrepared OpenAIResponsesRequestParams.withItems
  simp only
  cases (params.tools.filterMap (·.intoTool)).mapM id with
  | error message => rfl
  | ok tools =>
    show Except.ok _ = Except.ok (ResponsesPreparedRequest.withMessages _ _)
    unfold ResponsesPreparedRequest.withMessages
    simp only [OpenAIResponsesRequestParams.inputMessages, List.filterMap_nil, List.append_nil]
    rfl

/-! ## One item -/

/-- An item of an output, apart from its id. -/
inductive IsOutputItem (item : Json) : Prop where
  | reasoning (text : String) (h : item.without "id" = reasoningItem text)
  | message (text : String) (h : item.without "id" = messageItem text)
  | call (call : ParsedToolCall) (h : item.without "id" = callItem call)

theorem field_of_without {item other : Json} (h : item.without "id" = other) {key : String}
    (hne : key ≠ "id") : item.field key = other.field key := by
  rw [← h, Json.field_without hne]

theorem deserialize_of_without {item other : Json} (h : item.without "id" = other) :
    OpenAIResponsesInputItem.deserialize item = OpenAIResponsesInputItem.deserialize other := by
  have hfield : ∀ key, key ≠ "id" → item.field key = other.field key := fun _ => field_of_without h
  unfold OpenAIResponsesInputItem.deserialize OpenAIResponsesTaggedItem.deserialize
    OpenAIResponsesMessageItem.deserialize OpenAIResponsesFunctionCallItem.deserialize stringField
  rw [hfield "type" (by decide), hfield "role" (by decide), hfield "content" (by decide),
    hfield "call_id" (by decide), hfield "name" (by decide), hfield "arguments" (by decide),
    hfield "output" (by decide)]

theorem itemKind_of_without {item other : Json} (h : item.without "id" = other) :
    itemKind item = itemKind other := by
  unfold itemKind
  rw [field_of_without h (by decide)]

theorem itemText_of_without {item other : Json} (h : item.without "id" = other) :
    itemText item = itemText other := by
  unfold itemText
  rw [field_of_without h (by decide), field_of_without h (by decide)]

/-- The content of a message is of a type that the input does not know. -/
theorem deserialize_messageItem (text : String) :
    OpenAIResponsesInputItem.deserialize (messageItem text) =
      some (.tagged (.message ⟨"assistant", .parts [.unsupported]⟩)) :=
  rfl

theorem deserialize_reasoningItem (text : String) :
    OpenAIResponsesInputItem.deserialize (reasoningItem text) = some (.tagged .unsupported) :=
  rfl

theorem deserialize_callItem (call : ParsedToolCall) :
    OpenAIResponsesInputItem.deserialize (callItem call) =
      some (.tagged (.functionCall ⟨call.id, call.name,
        argumentsToToolCallString call.arguments⟩)) :=
  rfl

theorem readCall_callText (item : OpenAIResponsesFunctionCallItem) :
    readCall (.text (OpenAIResponsesInputItem.callText item)) =
      some [item.callId, item.name, item.arguments] :=
  Json.readObject_render ("call_id", item.callId) [("name", item.name),
    ("arguments", item.arguments)]

theorem conveys_call {item : Json} {call : ParsedToolCall} (h : item.without "id" = callItem call) :
    Conveys item ⟨.text (OpenAIResponsesInputItem.callText
      ⟨call.id, call.name, argumentsToToolCallString call.arguments⟩), "assistant"⟩ := by
  have hkind : itemKind item = some "function_call" := itemKind_of_without h
  refine ⟨rfl, Or.inr ⟨hkind, call.id, call.name, _, ?_, ?_, ?_, readCall_callText _⟩⟩
  · unfold stringField
    rw [field_of_without h (by decide)]
    rfl
  · unfold stringField
    rw [field_of_without h (by decide)]
    rfl
  · unfold stringField
    rw [field_of_without h (by decide)]
    rfl

/-- **What an item is read as**, and when the message that it becomes says what it says. -/
theorem read_item {item : Json} (h : IsOutputItem item) :
    ∃ read, OpenAIResponsesInputItem.deserialize item = some read ∧
      ((itemKind item = some "reasoning" ∧ read.intoConversationMessage = none) ∨
        ∃ message, itemKind item ≠ some "reasoning" ∧ read.intoConversationMessage = some message ∧
          (Conveys item message ↔ (itemKind item = some "message" → itemText item = some ""))) := by
  cases h with
  | reasoning text hitem =>
    exact ⟨_, (deserialize_of_without hitem).trans (deserialize_reasoningItem text),
      Or.inl ⟨itemKind_of_without hitem, rfl⟩⟩
  | message text hitem =>
    have hkind : itemKind item = some "message" := itemKind_of_without hitem
    refine ⟨_, (deserialize_of_without hitem).trans (deserialize_messageItem text),
      Or.inr ⟨⟨.parts [], "assistant"⟩, by simp [hkind], rfl, ?_⟩⟩
    constructor
    · rintro ⟨-, ⟨-, hlost⟩ | ⟨hcall, -⟩⟩
      · exact fun _ => hlost
      · rw [hkind] at hcall
        simp at hcall
    · exact fun hempty => ⟨rfl, Or.inl ⟨hkind, hempty hkind⟩⟩
  | call call hitem =>
    have hkind : itemKind item = some "function_call" := itemKind_of_without hitem
    refine ⟨_, (deserialize_of_without hitem).trans (deserialize_callItem call),
      Or.inr ⟨_, by simp [hkind], rfl, iff_of_true (conveys_call hitem) fun hmessage => ?_⟩⟩
    rw [hkind] at hmessage
    simp at hmessage

/-! ## A whole output -/

/-- What an output is read as, and when its messages say what the items say. -/
theorem read_output {output : List Json} (h : ∀ item ∈ output, IsOutputItem item) :
    ∃ items, output.mapM OpenAIResponsesInputItem.deserialize = some items ∧
      (List.Forall₂ Conveys (output.filter fun item => itemKind item ≠ some "reasoning")
          (items.filterMap (·.intoConversationMessage)) ↔
        ∀ item ∈ output, itemKind item = some "message" → itemText item = some "") := by
  induction output with
  | nil => exact ⟨[], rfl, iff_of_true .nil (fun _ hmem => by cases hmem)⟩
  | cons item output ih =>
    obtain ⟨items, hitems, hiff⟩ := ih fun other hother => h other (List.mem_cons_of_mem _ hother)
    obtain ⟨read, hread, hmessage⟩ := read_item (h item (List.mem_cons_self ..))
    refine ⟨read :: items, ?_, ?_⟩
    · rw [List.mapM_cons, hread, hitems]
      rfl
    · rw [List.forall_mem_cons]
      rcases hmessage with ⟨hkind, hnone⟩ | ⟨message, hkind, hsome, hconveys⟩
      · rw [List.filter_cons_of_neg (by simp [hkind]), List.filterMap_cons_none hnone, hiff]
        exact ⟨fun hall => ⟨fun hmessage => by rw [hkind] at hmessage; simp at hmessage, hall⟩,
          And.right⟩
      · rw [List.filter_cons_of_pos (by simp [hkind]), List.filterMap_cons_some hsome,
          List.forall₂_cons, hconveys, hiff]

/-- **Nothing of an output is lost if and only if** its messages have no text. -/
theorem nextTurn_iff (params : OpenAIResponsesRequestParams) {output : List Json}
    (h : ∀ item ∈ output, IsOutputItem item) :
    NextTurn params output ↔ ∀ item ∈ output, itemKind item = some "message" →
    itemText item = some "" := by
  obtain ⟨items, hitems, hiff⟩ := read_output h
  have hdeserialize : OpenAIResponsesInput.deserialize (.array output) = some (.items items) :=
    congrArg (Option.map OpenAIResponsesInput.items) hitems
  constructor
  · rintro ⟨found, messages, hfound, -, rfl, hconveys⟩
    rw [hdeserialize, Option.some.injEq, OpenAIResponsesInput.items.injEq] at hfound
    rw [← hfound] at hconveys
    exact hiff.mp hconveys
  · intro hempty
    refine ⟨items, _, hdeserialize, fun earlier later => ?_, rfl, hiff.mpr hempty⟩
    rw [intoPrepared_withItems, List.filterMap_append, List.filterMap_append]

/-! ## The texts of an output -/

/-- The texts of the messages of an output. -/
def messageTexts (output : List Json) : List String :=
  output.filterMap fun item => if itemKind item = some "message" then itemText item else none

theorem messageTexts_append (output more : List Json) :
    messageTexts (output ++ more) = messageTexts output ++ messageTexts more :=
  List.filterMap_append

@[simp] theorem messageTexts_reasoning (text : String) (output : List Json) :
    messageTexts (reasoningItem text :: output) = messageTexts output :=
  List.filterMap_cons_none rfl

@[simp] theorem messageTexts_message (text : String) (output : List Json) :
    messageTexts (messageItem text :: output) = text :: messageTexts output :=
  List.filterMap_cons_some rfl

theorem messageTexts_calls (calls : List ParsedToolCall) :
    messageTexts (calls.map callItem) = [] := by
  refine List.filterMap_eq_nil_iff.mpr fun item hitem => ?_
  obtain ⟨call, -, rfl⟩ := List.mem_map.mp hitem
  rfl

/-- The content of the item that is open. -/
def OpenPiece.contentText : OpenPiece → String
  | .content text => text
  | .none | .reasoning _ => ""

theorem join_messageTexts_close (opened : OpenPiece) :
    String.join (messageTexts opened.close) = opened.contentText := by
  cases opened with
  | none => rfl
  | reasoning text => rfl
  | content text =>
    show String.join [text] = text
    rw [String.join_cons, String.join_nil, String.append_empty]

/-- **The messages of a stream have all content.** -/
theorem messageTexts_streamed (pieces : List OutputPiece) (opened : OpenPiece) :
    String.join (messageTexts (streamed opened pieces)) =
      opened.contentText ++ String.join (pieces.filterMap (·.contentText)) := by
  induction pieces generalizing opened with
  | nil =>
    rw [List.filterMap_nil, String.join_nil, String.append_empty, ← join_messageTexts_close]
    cases opened with
    | none => rfl
    | reasoning text => rfl
    | content text => rfl
  | cons piece pieces ih =>
    cases piece with
    | reasoning more =>
      cases opened with
      | none => exact ih (.reasoning more)
      | reasoning text => exact ih (.reasoning (text ++ more))
      | content text =>
        show String.join (text :: messageTexts (streamed (.reasoning more) pieces)) = _
        rw [String.join_cons, ih]
        exact congrArg _ String.empty_append
    | content more =>
      show _ = opened.contentText ++ String.join (more :: pieces.filterMap (·.contentText))
      rw [String.join_cons]
      cases opened with
      | none => exact ih (.content more) |>.trans String.empty_append.symm
      | reasoning text => exact ih (.content more) |>.trans String.empty_append.symm
      | content text => exact (ih (.content (text ++ more))).trans (String.append_assoc ..)
    | toolCalls calls =>
      have hclose : streamed opened (.toolCalls calls :: pieces) =
          opened.close ++ calls.map callItem ++ streamed .none pieces := by
        cases opened with
        | none => rfl
        | reasoning text => rfl
        | content text => rfl
      rw [hclose, messageTexts_append, messageTexts_append, messageTexts_calls, List.append_nil,
        String.join_append, join_messageTexts_close, ih]
      exact congrArg _ String.empty_append

/-- **The message that is collected has all content.** -/
theorem messageTexts_collected (pieces : List OutputPiece) :
    String.join (messageTexts (collected pieces)) =
      String.join (pieces.filterMap (·.contentText)) := by
  have hmessage : ∀ (content : String) (calls : List ParsedToolCall),
      String.join (messageTexts (collectedMessage content calls)) = content := by
    intro content calls
    unfold collectedMessage
    rw [messageTexts_append, messageTexts_calls, List.append_nil]
    split
    · show String.join [content] = content
      rw [String.join_cons, String.join_nil, String.append_empty]
    · rename_i hnone
      rw [not_or, Decidable.not_not] at hnone
      exact hnone.1.symm
  unfold collected
  simp only
  split
  · exact hmessage _ _
  · exact hmessage _ _

theorem join_eq_empty_iff {texts : List String} :
    String.join texts = "" ↔ ∀ text ∈ texts, text = "" := by
  induction texts with
  | nil => exact iff_of_true rfl (fun _ h => by cases h)
  | cons text texts ih =>
    rw [String.join_cons, String.append_eq_empty_iff, ih, List.forall_mem_cons]

theorem messageTexts_without (output : List Json) :
    messageTexts (output.map (·.without "id")) = messageTexts output := by
  unfold messageTexts
  rw [List.filterMap_map]
  refine congrArg (fun f => output.filterMap f) (funext fun item => ?_)
  have hkind : itemKind item = itemKind (item.without "id") := itemKind_of_without rfl
  have htext : itemText item = itemText (item.without "id") := itemText_of_without rfl
  rw [hkind, htext]
  rfl

/-- No message has a text if and only if they have none together. -/
theorem no_text_iff {output : List Json} (h : ∀ item ∈ output, IsOutputItem item) :
    (∀ item ∈ output, itemKind item = some "message" → itemText item = some "") ↔
      String.join (messageTexts output) = "" := by
  rw [join_eq_empty_iff]
  constructor
  · intro hempty text htext
    obtain ⟨item, hitem, heq⟩ := List.mem_filterMap.mp htext
    split at heq
    · rename_i hkind
      rw [hempty item hitem hkind] at heq
      exact (Option.some.inj heq).symm
    · cases heq
  · intro hempty item hitem hkind
    have hmessage : ∃ text, itemText item = some text := by
      cases h item hitem with
      | reasoning text hother => exact ⟨text, itemText_of_without hother⟩
      | message text hother => exact ⟨text, itemText_of_without hother⟩
      | call call hother => exact ⟨_, itemText_of_without hother⟩
    obtain ⟨text, htext⟩ := hmessage
    rw [htext, hempty text]
    exact List.mem_filterMap.mpr ⟨item, hitem, by rw [if_pos hkind, htext]⟩

/-! ## The items of an output -/

theorem isOutputItem_calls (calls : List ParsedToolCall) :
    ∀ item ∈ calls.map callItem, IsOutputItem item := by
  intro item hitem
  obtain ⟨call, -, rfl⟩ := List.mem_map.mp hitem
  exact .call call rfl

theorem isOutputItem_close (opened : OpenPiece) : ∀ item ∈ opened.close, IsOutputItem item := by
  intro item hitem
  cases opened with
  | none => cases hitem
  | reasoning text =>
    rw [List.mem_singleton.mp hitem]
    exact .reasoning text rfl
  | content text =>
    rw [List.mem_singleton.mp hitem]
    exact .message text rfl

theorem isOutputItem_streamed (pieces : List OutputPiece) (opened : OpenPiece) :
    ∀ item ∈ streamed opened pieces, IsOutputItem item := by
  induction pieces generalizing opened with
  | nil =>
    have hclose : streamed opened [] = opened.close := by
      cases opened with
      | none => rfl
      | reasoning text => rfl
      | content text => rfl
    rw [hclose]
    exact isOutputItem_close opened
  | cons piece pieces ih =>
    have hsplit : ∃ before next, streamed opened (piece :: pieces) = before ++
        streamed next pieces ∧
        ∀ item ∈ before, IsOutputItem item := by
      cases piece with
      | reasoning more =>
        cases opened with
        | none => exact ⟨[], .reasoning more, rfl, (fun _ h => by cases h)⟩
        | reasoning text => exact ⟨[], .reasoning (text ++ more), rfl, (fun _ h => by cases h)⟩
        | content text => exact ⟨_, .reasoning more, rfl, isOutputItem_close (.content text)⟩
      | content more =>
        cases opened with
        | none => exact ⟨[], .content more, rfl, (fun _ h => by cases h)⟩
        | reasoning text => exact ⟨_, .content more, rfl, isOutputItem_close (.reasoning text)⟩
        | content text => exact ⟨[], .content (text ++ more), rfl, (fun _ h => by cases h)⟩
      | toolCalls calls =>
        refine ⟨opened.close ++ calls.map callItem, .none, ?_, ?_⟩
        · cases opened with
          | none => rfl
          | reasoning text => rfl
          | content text => rfl
        · rw [List.forall_mem_append]
          exact ⟨isOutputItem_close opened, isOutputItem_calls calls⟩
    obtain ⟨before, next, heq, hbefore⟩ := hsplit
    rw [heq, List.forall_mem_append]
    exact ⟨hbefore, ih next⟩

theorem isOutputItem_collected (pieces : List OutputPiece) :
    ∀ item ∈ collected pieces, IsOutputItem item := by
  unfold collected collectedMessage
  simp only
  rw [List.forall_mem_append, List.forall_mem_append]
  refine ⟨?_, ?_, isOutputItem_calls _⟩
  · split
    · exact isOutputItem_close (.reasoning _)
    · exact fun _ h => by cases h
  · split
    · exact isOutputItem_close (.content _)
    · exact fun _ h => by cases h

/-- An output has the items that it has without their ids. -/
theorem isOutputItem_of_without {output : List Json}
    (h : ∀ item ∈ output.map (·.without "id"), IsOutputItem item) :
    ∀ item ∈ output, IsOutputItem item := by
  intro item hitem
  have hsame : (item.without "id").without "id" = item.without "id" := by
    cases item with
    | object fields => simp [Json.without, List.filter_filter]
    | _ => rfl
  cases h _ (List.mem_map_of_mem hitem) with
  | reasoning text heq => exact .reasoning text (hsame.symm.trans heq)
  | message text heq => exact .message text (hsame.symm.trans heq)
  | call call heq => exact .call call (hsame.symm.trans heq)

/-! ## The next turn -/

section

variable [TokenTotals]

/-- The output of a request: the one that the stream completes with, or the one that is
collected. -/
def IsOutputOf (streaming collecting : ResponsesResponseBuilder) (messages : List InferenceMessage)
    (output : List Json) : Prop :=
  (∃ response ∈ (ResponsesStreaming.run streaming messages).events.filterMap (·.completedResponse),
      response.field "output" = some (.array output)) ∨
    ∃ body ∈ (ResponsesNonStreaming.run collecting messages).2.filterMap (·.chunkBody),
      body.field "output" = some (.array output)

/-- **Nothing of the output of a request is lost in the next one if and only if** there was no
text. -/
theorem responses_next_turn (streaming collecting : ResponsesResponseBuilder)
    (messages : List InferenceMessage) (results : List GeneratedTokenResult)
    (summary : GenerationSummary) (h : Answers messages results summary)
    (params : OpenAIResponsesRequestParams) (output : List Json)
    (houtput : IsOutputOf streaming collecting messages output) :
    NextTurn params output ↔ ∀ text ∈ results.filterMap (·.contentText), text = "" := by
  have hcontents : (results.filterMap (·.piece)).filterMap (·.contentText) =
      results.filterMap (·.contentText) := by
    rw [List.filterMap_filterMap]
    rfl
  have hitems : (∀ item ∈ output.map (·.without "id"), IsOutputItem item) ∧
      String.join (messageTexts (output.map (·.without "id"))) =
        String.join (results.filterMap (·.contentText)) := by
    rcases houtput with ⟨response, hresponse, hfield⟩ | ⟨body, hbody, hfield⟩
    · obtain ⟨streamedOutput, hstreamed, hwithout⟩ := streamed_completed streaming h
      rw [hstreamed] at hresponse
      rw [List.mem_singleton.mp hresponse] at hfield
      cases hfield
      rw [hwithout, messageTexts_streamed, hcontents]
      exact ⟨isOutputItem_streamed _ _, String.empty_append⟩
    · rw [collected_completed collecting h] at hbody
      rw [List.mem_singleton.mp hbody] at hfield
      cases hfield
      rw [completedOutput_without, messageTexts_collected, hcontents]
      exact ⟨isOutputItem_collected _, rfl⟩
  have houtputItems := isOutputItem_of_without hitems.1
  rw [nextTurn_iff params houtputItems, no_text_iff houtputItems, ← messageTexts_without, hitems.2,
    join_eq_empty_iff]

end

section

attribute [local instance] TokenTotals.counted

/-- A request with nothing but a model. -/
def plainRequest : OpenAIResponsesRequestParams :=
  ⟨"model", .items [], none, none, none, [], none, none⟩

theorem responses_next_turn_callOnly :
    NextTurn plainRequest [functionCallItem "fc_0" "call_1" "look" "1" "completed"] :=
  (responses_next_turn plainResponse plainResponse
    [tokenMessage (.toolCallParsed [⟨"call_1", "look", .validJson "1"⟩]),
      tokenMessage (.done ⟨.new⟩)]
    [.toolCallParsed [⟨"call_1", "look", .validJson "1"⟩]] ⟨.new⟩ ⟨rfl, by decide⟩ plainRequest _
    (Or.inr ⟨_, List.mem_singleton_self _, rfl⟩)).mpr (by decide)

/-- **The text of an answer is lost in the next turn.** -/
theorem not_responses_next_turn : ¬ ∀ (streaming collecting : ResponsesResponseBuilder)
    (messages : List InferenceMessage) (results : List GeneratedTokenResult)
    (summary : GenerationSummary), Answers messages results summary →
    ∀ (params : OpenAIResponsesRequestParams) (output : List Json),
    IsOutputOf streaming collecting messages output → NextTurn params output := by
  intro h
  have hnext := h plainResponse plainResponse
    [tokenMessage (.contentToken "It is raining."), tokenMessage (.done ⟨.new⟩)]
    [.contentToken "It is raining."] ⟨.new⟩ ⟨rfl, by decide⟩ plainRequest
    [messageItemDone "msg_0" "It is raining."] (Or.inr ⟨_, List.mem_singleton_self _, rfl⟩)
  have hmessage : ∀ item ∈ [messageItemDone "msg_0" "It is raining."], IsOutputItem item := by
    intro item hitem
    rw [List.mem_singleton.mp hitem]
    exact .message "It is raining." rfl
  have hlost := (nextTurn_iff plainRequest hmessage).mp hnext _ (List.mem_singleton_self _) rfl
  revert hlost
  decide

end

end Paddler
