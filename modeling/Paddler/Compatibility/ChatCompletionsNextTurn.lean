import Paddler.Compatibility.ChatCompletionsAgreement
import Paddler.Messaging.RequestParams

/-!
# The message of a chat completion as a message of the next request

A client appends the message of a completion to the messages of its next request.  A message of a
request has a role and a content, and everything else in it is ignored; so its tool calls are, and a
message with nothing but tool calls, which has no content, is not accepted.

* `OpenAIMessage.deserialize` — what `serde` makes of a message of a request.
* `ChatNextTurn` — what the next request may be expected to make of the message of a completion.
* `deserialize_message` — what it makes of it.
* `chat_completions_next_turn` — **it is as expected if and only if** there is no tool call.
-/

set_option autoImplicit false

namespace Paddler

/-! ## Messages of a request -/

/-- All fields of an object are among these. -/
def hasOnlyFields (keys : List String) : Json → Bool
  | .object fields => fields.all fun (key, _) => keys.contains key
  | _ => false

/-- An image of a message; no other fields are allowed. -/
def ImageUrl.deserialize (value : Json) : Option ImageUrl :=
  if hasOnlyFields ["url"] value then ((value.field "url").bind (·.asString)).map .mk else none

/-- A part of a message, by its tag; no other fields are allowed. -/
def ConversationMessageContentPart.deserialize (value : Json) :
    Option ConversationMessageContentPart :=
  match (value.field "type").bind (·.asString) with
  | some "text" =>
    if hasOnlyFields ["type", "text"] value then ((value.field "text").bind (·.asString)).map .text
    else none
  | some "image_url" =>
    if hasOnlyFields ["type", "image_url"] value then
      ((value.field "image_url").bind ImageUrl.deserialize).map .imageUrl
    else none
  | _ => none

/-- A string, and else an array of parts. -/
def ConversationMessageContent.deserialize : Json → Option ConversationMessageContent
  | .string s => some (.text s)
  | .array values => (values.mapM ConversationMessageContentPart.deserialize).map .parts
  | _ => none

/-- `openai_message.rs`. -/
structure OpenAIMessage where
  content : ConversationMessageContent
  role : String
  deriving DecidableEq, Repr

namespace OpenAIMessage

/-- A message; fields that it does not know are ignored. -/
def deserialize (value : Json) : Option OpenAIMessage := do
  let content ← (value.field "content").bind ConversationMessageContent.deserialize
  let role ← (value.field "role").bind (·.asString)
  return ⟨content, role⟩

def toConversationMessage (self : OpenAIMessage) : ConversationMessage :=
  ⟨self.content, self.role⟩

/-- The messages of a request. -/
def deserializeAll (values : List Json) : Option (List OpenAIMessage) :=
  values.mapM deserialize

theorem deserialize_of_deserializeAll {value : Json} {message : OpenAIMessage}
    (h : deserializeAll [value] = some [message]) : deserialize value = some message := by
  unfold deserializeAll at h
  rw [List.mapM_cons] at h
  cases hread : deserialize value with
  | none =>
    rw [hread] at h
    cases h
  | some found =>
    rw [hread] at h
    cases h
    rfl

theorem deserializeAll_between {earlier later : List Json}
    {earlierRead laterRead : List OpenAIMessage} {value : Json} {message : OpenAIMessage}
    (hearlier : deserializeAll earlier = some earlierRead)
    (hvalue : deserialize value = some message) (hlater : deserializeAll later = some laterRead) :
    deserializeAll (earlier ++ value :: later) = some (earlierRead ++ message :: laterRead) := by
  unfold deserializeAll at hearlier hlater ⊢
  rw [List.mapM_append, hearlier, List.mapM_cons, hvalue, hlater]
  rfl

/-- The conversation history of `respond`. -/
def conversationHistory (messages : List OpenAIMessage) : ConversationHistory :=
  ⟨messages.map toConversationMessage⟩

end OpenAIMessage

/-! ## What may be expected -/

/-- The text of a message of a completion. -/
def messageText (message : Json) : String :=
  ((message.field "content").bind (·.asString)).getD ""

/-- The names and the arguments of the tool calls of a message. -/
def messageCalls (message : Json) : List (Option Json × Option Json) :=
  (((message.field "tool_calls").bind (·.asArray)).getD []).map fun call =>
    ((call.field "function").bind (·.field "name"),
      (call.field "function").bind (·.field "arguments"))

section

variable [TokenTotals]

/-- The message of the completion for a request. -/
def completionMessage (collecting : OpenAINonStreamingResponseTransformer)
    (messages : List InferenceMessage) : Option Json :=
  (choiceOf (collectedResponse (collectedResults collecting messages)).body).bind
    (·.field "message")

/-- What there is in the conversation tells the tool calls: no other completion with other tool
calls becomes the same message. -/
def Recoverable (collecting : OpenAINonStreamingResponseTransformer)
    (calls : List (Option Json × Option Json)) (message : ConversationMessage) : Prop :=
  ∀ (messages : List InferenceMessage) (results : List GeneratedTokenResult) (summary : GenerationSummary)
    (other : Json) (read : OpenAIMessage), Answers messages results summary →
    completionMessage collecting messages = some other →
    OpenAIMessage.deserialize other = some read →
    read.toConversationMessage = message → messageCalls other = calls

/-- The next request is accepted, whatever other messages it has; its history has a message of the
assistant with the same text, from which the tool calls can be recovered if there are some. -/
def ChatNextTurn (collecting : OpenAINonStreamingResponseTransformer)
    (messages : List InferenceMessage) :
    Prop :=
  ∃ message read, completionMessage collecting messages = some message ∧
    (∀ earlier later earlierRead laterRead, OpenAIMessage.deserializeAll earlier =
      some earlierRead →
      OpenAIMessage.deserializeAll later = some laterRead →
      OpenAIMessage.deserializeAll (earlier ++ message :: later) =
        some (earlierRead ++ read :: laterRead)) ∧
    read.toConversationMessage.role = "assistant" ∧
    read.toConversationMessage.content.textContent = messageText message ∧
    (messageCalls message ≠ [] →
      Recoverable collecting (messageCalls message) read.toConversationMessage)

end

/-! ## What becomes of it -/

/-- **A message of a completion** is read with its content alone, if it has one. -/
theorem deserialize_message (snapshot : OpenAINonStreamingState) :
    OpenAIMessage.deserialize snapshot.message =
      if snapshot.content = "" ∧ snapshot.toolCalls ≠ [] then none
      else some ⟨.text snapshot.content, "assistant"⟩ := by
  unfold OpenAIMessage.deserialize
  rw [snapshot.message_content, Option.bind_some]
  split
  · rfl
  · rfl

theorem messageText_message (snapshot : OpenAINonStreamingState) :
    messageText snapshot.message = snapshot.content :=
  snapshot.message_text

theorem messageCalls_message (snapshot : OpenAINonStreamingState) :
    messageCalls snapshot.message = snapshot.toolCalls.map fun call =>
      (some (.string call.name), some (.string (argumentsToToolCallString call.arguments))) := by
  unfold messageCalls
  rw [snapshot.message_calls, List.map_map]
  rfl

section

variable [TokenTotals] (collecting : OpenAINonStreamingResponseTransformer)

theorem completionMessage_eq {messages : List InferenceMessage}
    {results : List GeneratedTokenResult} {summary : GenerationSummary}
    (h : Answers messages results summary) :
    completionMessage collecting messages =
      some (OpenAINonStreamingState.mk (String.join (results.filterMap (·.contentText)))
        (results.flatMap (·.calls))).message := by
  obtain ⟨before, last, rfl, hbefore, hlast⟩ := h.split
  obtain ⟨requestId, hcollected⟩ :=
    collected_body collecting before last (handled_of_tokens h.handled hbefore) hlast
  unfold completionMessage
  rw [hcollected, ← contents_of_tokens hbefore, List.flatMap_def, ← calls_of_tokens hbefore,
    ← List.flatMap_def]
  rfl

/-- There is a completion with this text and no tool call. -/
theorem completion_of_text (content : String) : ∃ messages results summary,
    Answers messages results summary ∧
      completionMessage collecting messages =
      some (OpenAINonStreamingState.mk content []).message := by
  have hanswers : Answers [.response none "" (.generatedToken (.contentToken content)),
      .response none "" (.generatedToken (.done ⟨.new⟩))] [.contentToken content] ⟨.new⟩ :=
    ⟨rfl, fun token htoken => by rw [List.mem_singleton.mp htoken]; exact ⟨rfl, rfl⟩⟩
  have hjoin : String.join [content] = content := by
    rw [String.join_cons, String.join_nil, String.append_empty]
  refine ⟨_, _, _, hanswers, ?_⟩
  rw [completionMessage_eq collecting hanswers]
  show some (OpenAINonStreamingState.mk (String.join [content]) []).message = _
  rw [hjoin]

/-- **A message with tool calls** is not accepted, or does not tell which they are. -/
theorem not_recoverable {content : String} {calls : List ParsedToolCall} (hcalls : calls ≠ [])
    {read : OpenAIMessage}
    (hread : OpenAIMessage.deserialize (OpenAINonStreamingState.mk content calls).message =
      some read) :
    ¬ Recoverable collecting (messageCalls (OpenAINonStreamingState.mk content calls).message)
      read.toConversationMessage := by
  intro hrecoverable
  rw [deserialize_message] at hread
  split at hread
  · cases hread
  obtain ⟨messages, results, summary, hanswers, hother⟩ := completion_of_text collecting content
  have hsame := hrecoverable messages results summary _ ⟨.text content,
    "assistant"⟩ hanswers hother ?_ ?_
  · rw [messageCalls_message, messageCalls_message] at hsame
    exact hcalls (List.map_eq_nil_iff.mp hsame.symm)
  · rw [deserialize_message, if_neg (fun hnone => hnone.2 rfl)]
  · rw [← Option.some.inj hread]

/-- **The message of a completion is a message of the next request, with all that it has, if and
only if** there is no tool call. -/
theorem chat_completions_next_turn (messages : List InferenceMessage)
    (results : List GeneratedTokenResult) (summary : GenerationSummary)
    (h : Answers messages results summary) :
    ChatNextTurn collecting messages ↔ ∀ token ∈ results, token.calls = [] := by
  rw [← List.flatMap_eq_nil_iff]
  have hmessage := completionMessage_eq collecting h
  generalize String.join (results.filterMap (·.contentText)) = content at hmessage
  generalize results.flatMap (·.calls) = calls at hmessage
  constructor
  · rintro ⟨message, read, hfound, haccepted, -, -, hcalls⟩
    rw [hmessage, Option.some.injEq] at hfound
    refine Classical.byContradiction fun hsome => ?_
    have hread := OpenAIMessage.deserialize_of_deserializeAll (haccepted [] [] [] [] rfl rfl)
    rw [← hfound] at hread hcalls
    refine not_recoverable collecting hsome hread (hcalls ?_)
    rw [messageCalls_message]
    exact fun hnone => hsome (List.map_eq_nil_iff.mp hnone)
  · rintro rfl
    refine ⟨_, ⟨.text content, "assistant"⟩, hmessage, ?_, rfl, ?_, ?_⟩
    · intro earlier later earlierRead laterRead hearlier hlater
      refine OpenAIMessage.deserializeAll_between hearlier ?_ hlater
      rw [deserialize_message, if_neg (fun hnone => hnone.2 rfl)]
    · rw [messageText_message]
      rfl
    · intro hcalls
      rw [messageCalls_message] at hcalls
      exact absurd rfl hcalls

end

section

attribute [local instance] TokenTotals.counted

theorem chat_completions_next_turn_answered :
    ChatNextTurn ⟨0, "model"⟩ [tokenMessage (.contentToken "It is raining."),
      tokenMessage (.done ⟨.new⟩)] :=
  (chat_completions_next_turn ⟨0, "model"⟩ _ [.contentToken "It is raining."] ⟨.new⟩ ⟨rfl, by
    decide⟩).mpr
    (by decide)

/-- **A message with nothing but a tool call is not accepted.** -/
theorem not_chat_completions_next_turn : ¬ ∀ (collecting : OpenAINonStreamingResponseTransformer)
    (messages : List InferenceMessage) (results : List GeneratedTokenResult)
    (summary : GenerationSummary), Answers messages results summary →
    ChatNextTurn collecting messages := by
  intro h
  obtain ⟨message, read, hmessage, haccepted, -⟩ := h ⟨0, "model"⟩
    [tokenMessage (.toolCallParsed [⟨"call_1", "look", .validJson "1"⟩]),
      tokenMessage (.done ⟨.new⟩)]
    [.toolCallParsed [⟨"call_1", "look", .validJson "1"⟩]] ⟨.new⟩ ⟨rfl, by decide⟩
  have hone := haccepted [] [] [] [] rfl rfl
  cases hmessage
  cases hone

end

end Paddler
