import Paddler.Compatibility.Responses

/-!
# The chat completions endpoint

Model of `openai_streaming_response_transformer.rs` and
`openai_non_streaming_response_transformer.rs` with their states, of
`chat_completions_sse_response.rs`, and of what `post_chat_completions.rs` answers.

A text that is serialized JSON is kept as its value.

* `OpenAIStreamingResponseTransformer.transform` — the chunks for one message.
* `OpenAINonStreamingResponseTransformer.transform` — the completion, for the last message.
* `forwarded` — the results for all messages of a request; nothing is sent after a message that
  fails.
* `chatCompletionsSseResponse`, `collectedResponse` — the body that is streamed, and the answer
  otherwise.
-/

set_option autoImplicit false

namespace Paddler

/-! ## JSON -/

def openaiUsageJson [TokenTotals] (usage : TokenUsage) : Json :=
  .object [("prompt_tokens", .number usage.promptTokens),
    ("completion_tokens", .number (TokenTotals.completionTokens usage)),
    ("total_tokens", .number (TokenTotals.totalTokens usage)),
    ("prompt_tokens_details", .object [("cached_tokens", .number usage.cachedPromptTokens),
      ("audio_tokens", .number usage.inputAudioTokens)]),
    ("completion_tokens_details", .object [("reasoning_tokens", .number usage.reasoningTokens)])]

/-- The fields of a tool call. -/
def toolCallFields (call : ParsedToolCall) : List (String × Json) :=
  [("id", .string call.id), ("type", .string "function"),
    ("function", .object [("name", .string call.name),
      ("arguments", .string (argumentsToToolCallString call.arguments))])]

/-! ## Streaming -/

/-- `openai_streaming_state.rs`. -/
structure OpenAIStreamingState where
  sawToolCall : Bool
  deriving DecidableEq, Repr

/-- `OpenAIStreamingResponseTransformer`, apart from its state. -/
structure OpenAIStreamingResponseTransformer where
  created : Nat
  includeUsage : Bool
  model : String
  systemFingerprint : String
  deriving DecidableEq, Repr

namespace OpenAIStreamingResponseTransformer

variable (self : OpenAIStreamingResponseTransformer) (requestId : String)

/-- The fields of a chunk. -/
def chunkFields (choices : List Json) : List (String × Json) :=
  [("id", .string requestId), ("object", .string "chat.completion.chunk"),
    ("created", .number self.created), ("model", .string self.model),
    ("system_fingerprint", .string self.systemFingerprint), ("choices", .array choices)]

/-- The only choice of a chunk. -/
def choice (delta finishReason : Json) : Json :=
  .object [("index", .number 0), ("delta", delta), ("logprobs", .null),
    ("finish_reason", finishReason)]

def contentChunk (text : String) : Json :=
  .object (self.chunkFields requestId
    [choice (.object [("role", .string "assistant"), ("content", .string text)]) .null])

def toolCallsChunk (parsedCalls : List ParsedToolCall) : Json :=
  .object (self.chunkFields requestId
    [choice (.object [("role", .string "assistant"),
      ("tool_calls", .array (parsedCalls.mapIdx fun index call =>
        .object (("index", .number index) :: toolCallFields call)))]) .null])

def finishChunk (finishReason : String) : Json :=
  .object (self.chunkFields requestId [choice (.object []) (.string finishReason)])

def usageChunk [TokenTotals] (usage : TokenUsage) : Json :=
  .object (self.chunkFields requestId [] ++ [("usage", openaiUsageJson usage)])

def handleToolCallParsed (state : OpenAIStreamingState) (parsedCalls : List ParsedToolCall) :
    OpenAIStreamingState × List TransformResult :=
  if parsedCalls = [] then (state, [])
  else (⟨true⟩, [.chunk (self.toolCallsChunk requestId parsedCalls)])

def handleDone [TokenTotals] (state : OpenAIStreamingState) (summary : GenerationSummary) :
    List TransformResult :=
  let finishReason := if state.sawToolCall then "tool_calls" else "stop"
  let finish := .chunk (self.finishChunk requestId finishReason)
  if self.includeUsage then [finish, .chunk (self.usageChunk requestId summary.usage)] else [finish]

/-- What the transformer fails with. -/
def unknownMessage : String :=
  "OpenAIStreamingResponseTransformer received an outgoing message it does not know how to handle"

def transform [TokenTotals] (state : OpenAIStreamingState) (message : InferenceMessage) :
    Except String (OpenAIStreamingState × List TransformResult) :=
  match universalError message with
  | some error => .ok (state, [.error error.toEnvelope])
  | none =>
    match message with
    | .response _ requestId (.generatedToken token) =>
      match token with
      | .contentToken text | .undeterminableToken text =>
        .ok (state, [.chunk (self.contentChunk requestId text)])
      | .reasoningToken _ | .toolCallToken _ => .ok (state, [])
      | .toolCallParsed parsedCalls => .ok (self.handleToolCallParsed requestId state parsedCalls)
      | .done summary => .ok (state, self.handleDone requestId state summary)
      | _ => .error unknownMessage
    | _ => .error unknownMessage

end OpenAIStreamingResponseTransformer

/-! ## Not streaming -/

/-- `openai_non_streaming_state.rs`. -/
structure OpenAINonStreamingState where
  content : String
  toolCalls : List ParsedToolCall
  deriving DecidableEq, Repr

/-- `OpenAINonStreamingResponseTransformer`, apart from its state. -/
structure OpenAINonStreamingResponseTransformer where
  created : Nat
  model : String
  deriving DecidableEq, Repr

/-- What was collected from the messages. -/
def OpenAINonStreamingState.ofMessages (messages : List InferenceMessage) :
    OpenAINonStreamingState :=
  ⟨String.join (messages.filterMap (·.contentText)), messages.flatMap (·.calls)⟩

/-- The finish reason of `build_done_chunk`. -/
def OpenAINonStreamingState.finishReason (snapshot : OpenAINonStreamingState) : String :=
  if snapshot.toolCalls ≠ [] then "tool_calls" else "stop"

/-- The message of `build_done_chunk`. -/
def OpenAINonStreamingState.message (snapshot : OpenAINonStreamingState) : Json :=
  .object ([("role", .string "assistant"),
    ("content",
      if snapshot.content = "" ∧ snapshot.toolCalls ≠ [] then .null else .string snapshot.content),
    ("refusal", .null), ("annotations", .array [])] ++
    if snapshot.toolCalls ≠ [] then
      [("tool_calls", .array (snapshot.toolCalls.map fun call => .object (toolCallFields call)))]
    else [])

namespace OpenAINonStreamingState

variable (snapshot : OpenAINonStreamingState)

@[simp] theorem message_content : snapshot.message.field "content" =
    some (if snapshot.content = "" ∧ snapshot.toolCalls ≠ [] then .null
      else .string snapshot.content) :=
  rfl

@[simp] theorem message_toolCalls : snapshot.message.field "tool_calls" =
    if snapshot.toolCalls ≠ [] then
      some (.array (snapshot.toolCalls.map fun call => .object (toolCallFields call)))
    else none := by
  unfold message
  by_cases hcalls : snapshot.toolCalls ≠ []
  · rw [if_pos hcalls, if_pos hcalls]
    rfl
  · rw [if_neg hcalls, if_neg hcalls]
    rfl

theorem message_text :
    ((snapshot.message.field "content").bind (·.asString)).getD "" = snapshot.content := by
  rw [snapshot.message_content, Option.bind_some]
  split
  · rename_i hnull
    rw [hnull.1]
    rfl
  · rfl

theorem message_calls : ((snapshot.message.field "tool_calls").bind (·.asArray)).getD [] =
    snapshot.toolCalls.map fun call => .object (toolCallFields call) := by
  rw [snapshot.message_toolCalls]
  split
  · rfl
  · rename_i hnone
    rw [Decidable.of_not_not hnone]
    rfl

end OpenAINonStreamingState

namespace OpenAINonStreamingResponseTransformer

variable [TokenTotals] (self : OpenAINonStreamingResponseTransformer)

def buildDoneChunk (requestId : String) (snapshot : OpenAINonStreamingState)
    (summary : GenerationSummary) :
    Json :=
  .object [("id", .string requestId), ("object", .string "chat.completion"),
    ("created", .number self.created), ("model", .string self.model),
    ("choices", .array [.object [("index", .number 0), ("message", snapshot.message),
      ("logprobs", .null), ("finish_reason", .string snapshot.finishReason)]]),
    ("usage", openaiUsageJson summary.usage), ("service_tier", .string "default")]

/-- What the transformer fails with. -/
def unknownMessage : String :=
  "OpenAINonStreamingResponseTransformer received an outgoing message it does not know how to handle"

def transform (state : OpenAINonStreamingState) (message : InferenceMessage) :
    Except String (OpenAINonStreamingState × List TransformResult) :=
  match universalError message with
  | some error => .ok (state, [.error error.toEnvelope])
  | none =>
    match message with
    | .response _ requestId (.generatedToken token) =>
      match token with
      | .contentToken text | .undeterminableToken text =>
        .ok ({ state with content := state.content ++ text }, [])
      | .reasoningToken _ | .toolCallToken _ => .ok (state, [])
      | .toolCallParsed parsedCalls =>
        .ok ({ state with toolCalls := state.toolCalls ++ parsedCalls }, [])
      | .done summary => .ok (state, [.chunk (self.buildDoneChunk requestId state summary)])
      | _ => .error unknownMessage
    | _ => .error unknownMessage

end OpenAINonStreamingResponseTransformer

/-! ## A request -/

/-- The results for the messages of a request.  A message that fails counts as one that could not be
sent, and nothing is forwarded after it. -/
def forwarded {σ : Type}
    (transform : σ → InferenceMessage → Except String (σ × List TransformResult)) :
    σ → List InferenceMessage → List TransformResult
  | _, [] => []
  | state, message :: messages =>
    match transform state message with
    | .ok (state, results) => results ++ forwarded transform state messages
    | .error _ => []

section

variable [TokenTotals]

/-- The results of a request that is streamed. -/
def streamedResults (transformer : OpenAIStreamingResponseTransformer)
    (messages : List InferenceMessage) :
    List TransformResult :=
  forwarded transformer.transform ⟨false⟩ messages

/-- The results of a request that is not. -/
def collectedResults (transformer : OpenAINonStreamingResponseTransformer)
    (messages : List InferenceMessage) : List TransformResult :=
  forwarded transformer.transform ⟨"", []⟩ messages

end

/-! ## Messages before the last -/

section

variable {σ : Type} {transform : σ → InferenceMessage → Except String (σ × List TransformResult)}
  {state state' : σ} {message : InferenceMessage} {results : List TransformResult}

theorem forwarded_cons (h : transform state message = .ok (state', results))
    (messages : List InferenceMessage) :
    forwarded transform state (message :: messages) =
      results ++ forwarded transform state' messages := by
  rw [forwarded, h]

theorem forwarded_last (h : transform state message = .ok (state', results)) :
    forwarded transform state [message] = results :=
  (forwarded_cons h []).trans (List.append_nil results)

end

namespace OpenAIStreamingResponseTransformer

variable [TokenTotals] (self : OpenAIStreamingResponseTransformer)

/-- The results for a message that is not the last. -/
def unfinishedResults (message : InferenceMessage) : List TransformResult :=
  ((self.transform ⟨false⟩ message).toOption.map (·.2)).getD []

/-- **A message that is not the last** never fails, and the state only remembers that there was a
call. -/
theorem transform_unfinished {message : InferenceMessage} (h : message.IsUnfinished)
    (state : OpenAIStreamingState) :
    self.transform state message =
      .ok (⟨state.sawToolCall || !message.calls.isEmpty⟩, self.unfinishedResults message) := by
  obtain ⟨token, htoken, hdone⟩ := h
  obtain ⟨generatedBy, requestId, rfl⟩ := token_cases htoken
  have hnone : state = ⟨state.sawToolCall || !true⟩ := by rw [Bool.not_true, Bool.or_false]
  cases token with
  | toolCallParsed calls =>
    cases calls with
    | nil => exact congrArg (fun s => Except.ok (s, [])) hnone
    | cons call calls =>
      show Except.ok (OpenAIStreamingState.mk true, _) =
        Except.ok (OpenAIStreamingState.mk (_ || true), _)
      rw [Bool.or_true]
      rfl
  | done summary => cases hdone
  | _ => exact congrArg (fun s => Except.ok (s, _)) hnone

theorem forwarded_unfinished (messages rest : List InferenceMessage)
    (h : ∀ m ∈ messages, m.IsUnfinished) (state : OpenAIStreamingState) :
    forwarded self.transform state (messages ++ rest) = messages.flatMap self.unfinishedResults ++
      forwarded self.transform ⟨state.sawToolCall || messages.any fun m =>
        !m.calls.isEmpty⟩ rest := by
  induction messages generalizing state with
  | nil =>
    rw [List.any_nil, Bool.or_false]
    rfl
  | cons message messages ih =>
    rw [List.cons_append,
      forwarded_cons (self.transform_unfinished (h message (List.mem_cons_self ..)) state),
      ih (fun m hm => h m (List.mem_cons_of_mem _ hm)), List.flatMap_cons, List.append_assoc,
      List.any_cons, Bool.or_assoc]

end OpenAIStreamingResponseTransformer

namespace OpenAINonStreamingResponseTransformer

variable [TokenTotals] (self : OpenAINonStreamingResponseTransformer)

/-- The error of a message, if it is one. -/
def errorResults (message : InferenceMessage) : List TransformResult :=
  (universalError message).toList.map fun error => .error error.toEnvelope

omit [TokenTotals] in
theorem errorResults_eq_nil {messages : List InferenceMessage}
    (h : ∀ m ∈ messages, universalError m = none) :
    messages.flatMap errorResults = [] := by
  refine List.flatMap_eq_nil_iff.mpr fun m hm => ?_
  unfold errorResults
  rw [h m hm]
  rfl

/-- **A message that is not the last** never fails, and adds its content and its calls. -/
theorem transform_unfinished {message : InferenceMessage} (h : message.IsUnfinished)
    (state : OpenAINonStreamingState) :
    self.transform state message =
      .ok (⟨state.content ++ message.contentText.getD "", state.toolCalls ++ message.calls⟩,
        errorResults message) := by
  obtain ⟨token, htoken, hdone⟩ := h
  obtain ⟨generatedBy, requestId, rfl⟩ := token_cases htoken
  cases token with
  | contentToken text =>
    show Except.ok (_, []) = Except.ok (OpenAINonStreamingState.mk _ (state.toolCalls ++ []), _)
    rw [List.append_nil]
    rfl
  | undeterminableToken text =>
    show Except.ok (_, []) = Except.ok (OpenAINonStreamingState.mk _ (state.toolCalls ++ []), _)
    rw [List.append_nil]
    rfl
  | toolCallParsed calls =>
    show Except.ok (_, []) = Except.ok (OpenAINonStreamingState.mk (state.content ++ "") _, _)
    rw [String.append_empty]
    rfl
  | done summary => cases hdone
  | _ =>
    show _ = Except.ok (OpenAINonStreamingState.mk (state.content ++ "") (state.toolCalls ++ []), _)
    rw [String.append_empty, List.append_nil]
    rfl

theorem forwarded_unfinished (messages rest : List InferenceMessage)
    (h : ∀ m ∈ messages, m.IsUnfinished) (state : OpenAINonStreamingState) :
    forwarded self.transform state (messages ++ rest) = messages.flatMap errorResults ++
      forwarded self.transform ⟨state.content ++ String.join (messages.filterMap (·.contentText)),
        state.toolCalls ++ messages.flatMap (·.calls)⟩ rest := by
  induction messages generalizing state with
  | nil =>
    rw [List.filterMap_nil, String.join_nil, String.append_empty, List.flatMap_nil,
      List.flatMap_nil, List.append_nil]
    rfl
  | cons message messages ih =>
    rw [List.cons_append,
      forwarded_cons (self.transform_unfinished (h message (List.mem_cons_self ..)) state),
      ih (fun m hm => h m (List.mem_cons_of_mem _ hm)), List.flatMap_cons, List.append_assoc,
      List.flatMap_cons, List.append_assoc, String.append_assoc, List.filterMap_cons]
    cases message.contentText with
    | none =>
      rw [Option.getD_none, String.empty_append]
    | some text =>
      rw [String.join_cons]
      rfl

end OpenAINonStreamingResponseTransformer

/-! ## Responses -/

/-- The data of an event of the body. -/
inductive SseData where
  | json (value : Json)
  | done
  deriving Repr

def chatCompletionsSseResponse (results : List TransformResult) : List SseData :=
  results.filterMap (fun
    | .chunk chunk | .error chunk => some (.json chunk)
    | .discard => none) ++ [.done]

/-- Status and body of a response. -/
structure HttpResponse where
  status : Nat
  body : Json
  deriving Repr

/-- What `respond` answers with, from all results. -/
def collectedResponse (results : List TransformResult) : HttpResponse :=
  match results.findSome? (·.errorBody) with
  | some error => ⟨500, error⟩
  | none =>
    match results.findSome? (·.chunkBody) with
    | some body => ⟨200, body⟩
    | none => ⟨500, (OpenAIError.mk "server_error" "no completion produced").toEnvelope⟩

end Paddler
