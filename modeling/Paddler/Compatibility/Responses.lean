import Paddler.Compatibility.OutgoingMessages

/-!
# The Responses endpoint

Model of the two transformers of the Responses API, `responses_streaming_response_transformer.rs`
with `responses_streaming_state.rs`, and `responses_non_streaming_response_transformer.rs`, and of
the JSON that they build.

A transformer is a function of its state and a message; one that fails sends nothing.  Sequence
numbers and indexes are numbers without a bound.  A text that is serialized JSON is kept as its
value.

* `ResponsesStreaming.transform` — the events for one message; `ResponsesStreaming.run` — for all
  messages.
* `ResponsesNonStreaming.transform` — the result for one message; `ResponsesNonStreaming.run` — for
  all.
-/

set_option autoImplicit false

namespace Paddler

/-- The sums that `llama_cpp_bindings_types::TokenUsage` gives, of which the endpoints know no
more. -/
class TokenTotals where
  completionTokens : TokenUsage → Nat
  totalTokens : TokenUsage → Nat

/-- Totals that count every token of a request once. -/
@[reducible] def TokenTotals.counted : TokenTotals where
  completionTokens usage := usage.contentTokens + usage.reasoningTokens + usage.toolCallTokens +
    usage.undeterminableTokens
  totalTokens usage := usage.promptTokens + usage.contentTokens + usage.reasoningTokens +
    usage.toolCallTokens + usage.undeterminableTokens

/-! ## Items -/

def outputTextPart (text : String) : Json :=
  .object [("type", .string "output_text"), ("text", .string text), ("annotations", .array []),
    ("logprobs", .array [])]

def messageItemOpen (itemId : String) : Json :=
  .object [("id", .string itemId), ("type", .string "message"), ("role", .string "assistant"),
    ("status", .string "in_progress"), ("content", .array [])]

def messageItemDone (itemId text : String) : Json :=
  .object [("id", .string itemId), ("type", .string "message"), ("role", .string "assistant"),
    ("status", .string "completed"), ("content", .array [outputTextPart text])]

def reasoningItemOpen (itemId : String) : Json :=
  .object [("type", .string "reasoning"), ("id", .string itemId), ("summary", .array []),
    ("status", .string "in_progress")]

def reasoningItemDone (itemId text : String) : Json :=
  .object [("type", .string "reasoning"), ("id", .string itemId), ("summary", .array []),
    ("content", .array [.object [("type", .string "reasoning_text"), ("text", .string text)]]),
    ("status", .string "completed")]

def functionCallItem (itemId callId name arguments status : String) : Json :=
  .object [("type", .string "function_call"), ("id", .string itemId), ("call_id", .string callId),
    ("name", .string name), ("arguments", .string arguments), ("status", .string status)]

/-- `arguments_to_tool_call_string`; the arguments are a JSON value, which can always be
serialized. -/
def argumentsToToolCallString : ToolCallArguments → String
  | .validJson value => value
  | .invalidJson raw => raw

/-! ## Responses -/

def responsesUsageJson [TokenTotals] (usage : TokenUsage) : Json :=
  .object [("input_tokens", .number usage.promptTokens),
    ("input_tokens_details", .object [("cached_tokens", .number usage.cachedPromptTokens)]),
    ("output_tokens", .number (TokenTotals.completionTokens usage)),
    ("output_tokens_details", .object [("reasoning_tokens", .number usage.reasoningTokens)]),
    ("total_tokens", .number (TokenTotals.totalTokens usage))]

/-- `responses_response_builder.rs`. -/
structure ResponsesResponseBuilder where
  id : String
  createdAt : Nat
  model : String
  instructions : Option String
  deriving DecidableEq, Repr

namespace ResponsesResponseBuilder

/-- The fields of `base`. -/
def baseFields (self : ResponsesResponseBuilder) (status : String) (output error : Json) :
    List (String × Json) :=
  [("id", .string self.id), ("object", .string "response"), ("created_at", .number self.createdAt),
    ("status", .string status), ("error", error), ("incomplete_details", .null),
    ("instructions", match self.instructions with
      | some instructions => .string instructions
      | none => .null),
    ("model", .string self.model), ("tools", .array []), ("output", output),
    ("parallel_tool_calls", .bool true), ("metadata", .object []), ("tool_choice", .string "auto"),
    ("temperature", .number 1), ("top_p", .number 1),
    ("text", .object [("format", .object [("type", .string "text")])])]

def inProgress (self : ResponsesResponseBuilder) : Json :=
  .object (self.baseFields "in_progress" (.array []) .null)

def completed [TokenTotals] (self : ResponsesResponseBuilder) (output : List Json)
    (usage : TokenUsage) :
    Json :=
  .object (self.baseFields "completed" (.array output) .null ++
    [("usage", responsesUsageJson usage)])

def failed (self : ResponsesResponseBuilder) (error : OpenAIError) : Json :=
  .object (self.baseFields "failed" (.array [])
    (.object [("code", .string "server_error"), ("message", .string error.message)]))

end ResponsesResponseBuilder

/-! ## Events -/

/-- `response_snapshot_event.rs`. -/
structure ResponseSnapshotEvent where
  sequenceNumber : Nat
  response : Json
  deriving Repr

/-- `output_item_event.rs`. -/
structure OutputItemEvent where
  sequenceNumber : Nat
  outputIndex : Nat
  item : Json
  deriving Repr

/-- `content_part_event.rs`. -/
structure ContentPartEvent where
  sequenceNumber : Nat
  itemId : String
  outputIndex : Nat
  contentIndex : Nat
  part : Json
  deriving Repr

/-- `text_delta_event.rs`. -/
structure TextDeltaEvent where
  sequenceNumber : Nat
  itemId : String
  outputIndex : Nat
  contentIndex : Nat
  delta : String
  deriving DecidableEq, Repr

/-- `text_done_event.rs`. -/
structure TextDoneEvent where
  sequenceNumber : Nat
  itemId : String
  outputIndex : Nat
  contentIndex : Nat
  text : String
  deriving DecidableEq, Repr

/-- `function_call_arguments_delta_event.rs`. -/
structure FunctionCallArgumentsDeltaEvent where
  sequenceNumber : Nat
  itemId : String
  outputIndex : Nat
  delta : String
  deriving DecidableEq, Repr

/-- `function_call_arguments_done_event.rs`. -/
structure FunctionCallArgumentsDoneEvent where
  sequenceNumber : Nat
  itemId : String
  outputIndex : Nat
  name : String
  arguments : String
  deriving DecidableEq, Repr

/-- `responses_stream_event.rs`. -/
inductive ResponsesStreamEvent where
  | created (event : ResponseSnapshotEvent)
  | inProgress (event : ResponseSnapshotEvent)
  | outputItemAdded (event : OutputItemEvent)
  | outputItemDone (event : OutputItemEvent)
  | contentPartAdded (event : ContentPartEvent)
  | contentPartDone (event : ContentPartEvent)
  | outputTextDelta (event : TextDeltaEvent)
  | outputTextDone (event : TextDoneEvent)
  | reasoningTextDelta (event : TextDeltaEvent)
  | reasoningTextDone (event : TextDoneEvent)
  | functionCallArgumentsDelta (event : FunctionCallArgumentsDeltaEvent)
  | functionCallArgumentsDone (event : FunctionCallArgumentsDoneEvent)
  | completed (event : ResponseSnapshotEvent)
  | failed (event : ResponseSnapshotEvent)
  deriving Repr

/-- The sequence number of an event. -/
def ResponsesStreamEvent.sequenceNumber : ResponsesStreamEvent → Nat
  | .created event | .inProgress event | .completed event | .failed event => event.sequenceNumber
  | .outputItemAdded event | .outputItemDone event => event.sequenceNumber
  | .contentPartAdded event | .contentPartDone event => event.sequenceNumber
  | .outputTextDelta event | .reasoningTextDelta event => event.sequenceNumber
  | .outputTextDone event | .reasoningTextDone event => event.sequenceNumber
  | .functionCallArgumentsDelta event => event.sequenceNumber
  | .functionCallArgumentsDone event => event.sequenceNumber

/-! ## The streaming state -/

/-- `open_item.rs`. -/
inductive OpenItem where
  | none
  | reasoning
  | message
  deriving DecidableEq, Repr

/-- `responses_streaming_state.rs`, with the vector of events that its methods push to. -/
structure ResponsesStreamingState where
  started : Bool
  sequenceNumber : Nat
  outputIndex : Nat
  openItem : OpenItem
  reasoningId : String
  reasoningText : String
  messageId : String
  messageText : String
  finalizedOutput : List Json
  events : List ResponsesStreamEvent
  deriving Repr

namespace ResponsesStreamingState

/-- `ResponsesStreamingState::default`. -/
def ofDefault : ResponsesStreamingState :=
  ⟨false, 0, 0, .none, "", "", "", "", [], []⟩

/-- `next_sequence_number`, and the push of an event with it. -/
def push (self : ResponsesStreamingState) (event : Nat → ResponsesStreamEvent) :
    ResponsesStreamingState :=
  { self with
    sequenceNumber := self.sequenceNumber + 1
    events := self.events ++ [event self.sequenceNumber] }

/-- The end of an item: its `OutputItemDone`, and the item in the finalized output. -/
def finalize (self : ResponsesStreamingState) (item : Json) : ResponsesStreamingState :=
  let self := self.push fun n => .outputItemDone ⟨n, self.outputIndex, item⟩
  { self with
    finalizedOutput := self.finalizedOutput ++ [item]
    outputIndex := self.outputIndex + 1 }

def closeOpenItem (self : ResponsesStreamingState) : ResponsesStreamingState :=
  match self.openItem with
  | .none => self
  | .reasoning =>
    { ((self.push fun n =>
        .reasoningTextDone ⟨n, self.reasoningId, self.outputIndex, 0, self.reasoningText⟩).finalize
          (reasoningItemDone self.reasoningId self.reasoningText)) with
      reasoningText := ""
      openItem := .none }
  | .message =>
    { (((self.push fun n =>
        .outputTextDone ⟨n, self.messageId, self.outputIndex, 0, self.messageText⟩).push fun n =>
          .contentPartDone
            ⟨n, self.messageId, self.outputIndex, 0, outputTextPart self.messageText⟩).finalize
              (messageItemDone self.messageId self.messageText)) with
      messageText := ""
      openItem := .none }

theorem closeOpenItem_none {self : ResponsesStreamingState} (h : self.openItem = .none) :
    self.closeOpenItem = self := by
  unfold closeOpenItem
  rw [h]

theorem closeOpenItem_reasoning {self : ResponsesStreamingState} (h : self.openItem = .reasoning) :
    self.closeOpenItem =
      { self with
        sequenceNumber := self.sequenceNumber + 2
        outputIndex := self.outputIndex + 1
        openItem := .none
        reasoningText := ""
        finalizedOutput := self.finalizedOutput ++
          [reasoningItemDone self.reasoningId self.reasoningText]
        events := self.events ++
          [.reasoningTextDone
              ⟨self.sequenceNumber, self.reasoningId, self.outputIndex, 0, self.reasoningText⟩,
            .outputItemDone ⟨self.sequenceNumber + 1, self.outputIndex,
              reasoningItemDone self.reasoningId self.reasoningText⟩] } := by
  unfold closeOpenItem
  rw [h]
  simp [push, finalize]

theorem closeOpenItem_message {self : ResponsesStreamingState} (h : self.openItem = .message) :
    self.closeOpenItem =
      { self with
        sequenceNumber := self.sequenceNumber + 3
        outputIndex := self.outputIndex + 1
        openItem := .none
        messageText := ""
        finalizedOutput := self.finalizedOutput ++ [messageItemDone self.messageId self.messageText]
        events := self.events ++
          [.outputTextDone ⟨self.sequenceNumber, self.messageId, self.outputIndex, 0,
            self.messageText⟩, .contentPartDone ⟨self.sequenceNumber + 1, self.messageId,
            self.outputIndex, 0,
              outputTextPart self.messageText⟩,
            .outputItemDone ⟨self.sequenceNumber + 2, self.outputIndex,
              messageItemDone self.messageId self.messageText⟩] } := by
  unfold closeOpenItem
  rw [h]
  simp [push, finalize]

/-- The item that `handle_reasoning` opens. -/
def openReasoning (self : ResponsesStreamingState) : ResponsesStreamingState :=
  let itemId := "rs_" ++ toString self.outputIndex
  { (({ self with reasoningId := itemId }).push fun n =>
      .outputItemAdded ⟨n, self.outputIndex, reasoningItemOpen itemId⟩) with
    openItem := .reasoning }

theorem openReasoning_eq (self : ResponsesStreamingState) :
    self.openReasoning =
      { self with
        sequenceNumber := self.sequenceNumber + 1
        openItem := .reasoning
        reasoningId := "rs_" ++ toString self.outputIndex
        events := self.events ++ [.outputItemAdded ⟨self.sequenceNumber, self.outputIndex,
          reasoningItemOpen ("rs_" ++ toString self.outputIndex)⟩] } :=
  rfl

def handleReasoning (self : ResponsesStreamingState) (text : String) : ResponsesStreamingState :=
  let self := if self.openItem ≠ .reasoning then self.closeOpenItem.openReasoning else self
  { self with reasoningText := self.reasoningText ++ text }.push fun n =>
    .reasoningTextDelta ⟨n, self.reasoningId, self.outputIndex, 0, text⟩

theorem handleReasoning_openItem (self : ResponsesStreamingState) (text : String) :
    (self.handleReasoning text).openItem = .reasoning := by
  unfold handleReasoning
  split
  · rfl
  · rename_i hopen
    exact Decidable.of_not_not hopen

/-- The item that `handle_content` opens. -/
def openMessage (self : ResponsesStreamingState) : ResponsesStreamingState :=
  let itemId := "msg_" ++ toString self.outputIndex
  { ((({ self with messageId := itemId }).push fun n =>
      .outputItemAdded ⟨n, self.outputIndex, messageItemOpen itemId⟩).push fun n =>
        .contentPartAdded ⟨n, itemId, self.outputIndex, 0, outputTextPart ""⟩) with
    openItem := .message }

theorem openMessage_eq (self : ResponsesStreamingState) :
    self.openMessage =
      { self with
        sequenceNumber := self.sequenceNumber + 2
        openItem := .message
        messageId := "msg_" ++ toString self.outputIndex
        events := self.events ++
          [.outputItemAdded ⟨self.sequenceNumber, self.outputIndex,
              messageItemOpen ("msg_" ++ toString self.outputIndex)⟩,
            .contentPartAdded ⟨self.sequenceNumber + 1, "msg_" ++ toString self.outputIndex,
              self.outputIndex, 0, outputTextPart ""⟩] } := by
  simp [openMessage, push]

def handleContent (self : ResponsesStreamingState) (text : String) : ResponsesStreamingState :=
  let self := if self.openItem ≠ .message then self.closeOpenItem.openMessage else self
  { self with messageText := self.messageText ++ text }.push fun n =>
    .outputTextDelta ⟨n, self.messageId, self.outputIndex, 0, text⟩

theorem handleContent_openItem (self : ResponsesStreamingState) (text : String) :
    (self.handleContent text).openItem = .message := by
  unfold handleContent
  split
  · rfl
  · rename_i hopen
    exact Decidable.of_not_not hopen

/-- The loop body of `handle_tool_calls`. -/
def handleToolCall (self : ResponsesStreamingState) (call : ParsedToolCall) :
    ResponsesStreamingState :=
  let itemId := "fc_" ++ toString self.outputIndex
  let arguments := argumentsToToolCallString call.arguments
  (((self.push fun n => .outputItemAdded
    ⟨n, self.outputIndex, functionCallItem itemId call.id call.name "" "in_progress"⟩).push fun n =>
      .functionCallArgumentsDelta ⟨n, itemId, self.outputIndex, arguments⟩).push fun n =>
        .functionCallArgumentsDone ⟨n, itemId, self.outputIndex, call.name, arguments⟩).finalize
          (functionCallItem itemId call.id call.name arguments "completed")

theorem handleToolCall_eq (self : ResponsesStreamingState) (call : ParsedToolCall) :
    self.handleToolCall call =
      { self with
        sequenceNumber := self.sequenceNumber + 4
        outputIndex := self.outputIndex + 1
        finalizedOutput := self.finalizedOutput ++
          [functionCallItem ("fc_" ++ toString self.outputIndex) call.id call.name
            (argumentsToToolCallString call.arguments) "completed"]
        events := self.events ++
          [.outputItemAdded ⟨self.sequenceNumber, self.outputIndex,
              functionCallItem ("fc_" ++ toString self.outputIndex) call.id call.name "" "in_progress"⟩,
            .functionCallArgumentsDelta ⟨self.sequenceNumber + 1,
              "fc_" ++ toString self.outputIndex, self.outputIndex,
              argumentsToToolCallString call.arguments⟩,
            .functionCallArgumentsDone ⟨self.sequenceNumber + 2, "fc_" ++ toString self.outputIndex,
              self.outputIndex, call.name, argumentsToToolCallString call.arguments⟩,
            .outputItemDone ⟨self.sequenceNumber + 3, self.outputIndex,
              functionCallItem ("fc_" ++ toString self.outputIndex) call.id call.name
                (argumentsToToolCallString call.arguments) "completed"⟩] } := by
  simp [handleToolCall, push, finalize]

def handleToolCalls (self : ResponsesStreamingState) (parsedCalls : List ParsedToolCall) :
    ResponsesStreamingState :=
  parsedCalls.foldl handleToolCall self.closeOpenItem

end ResponsesStreamingState

/-! ## The streaming transformer -/

namespace ResponsesStreaming

variable [TokenTotals] (builder : ResponsesResponseBuilder)

omit [TokenTotals] in
def ensurePreamble (state : ResponsesStreamingState) : ResponsesStreamingState :=
  if state.started then state
  else
    (({ state with started := true }).push fun n => .created ⟨n, builder.inProgress⟩).push fun n =>
      .inProgress ⟨n, builder.inProgress⟩

def handleDone (state : ResponsesStreamingState) (summary : GenerationSummary) :
    ResponsesStreamingState :=
  let state := state.closeOpenItem
  state.push fun n => .completed ⟨n, builder.completed state.finalizedOutput summary.usage⟩

/-- What a transformer fails with on a result that it does not know. -/
def unknownToken : String :=
  "ResponsesStreamingResponseTransformer received a token it does not know how to handle"

/-- What a transformer fails with on a message that it does not know. -/
def unknownMessage : String :=
  "ResponsesStreamingResponseTransformer received an outgoing message it does not know how to handle"

/-- The `match` of `transform` on a result. -/
def transformToken (state : ResponsesStreamingState) :
    GeneratedTokenResult → Except String ResponsesStreamingState
  | .contentToken text | .undeterminableToken text =>
    .ok ((ensurePreamble builder state).handleContent text)
  | .reasoningToken text => .ok ((ensurePreamble builder state).handleReasoning text)
  | .toolCallToken _ => .ok state
  | .toolCallParsed parsedCalls => .ok ((ensurePreamble builder state).handleToolCalls parsedCalls)
  | .done summary => .ok (handleDone builder (ensurePreamble builder state) summary)
  | _ => .error unknownToken

/-- `transform`: the state afterwards, which has the events of the message after those of the
earlier ones. -/
def transform (state : ResponsesStreamingState) (message : InferenceMessage) :
    Except String ResponsesStreamingState :=
  match responsesError message with
  | some error =>
    .ok ((ensurePreamble builder state).push fun n => .failed ⟨n, builder.failed error⟩)
  | none =>
    match message with
    | .response _ _ (.generatedToken token) => transformToken builder state token
    | _ => .error unknownMessage

/-- One message; one that fails changes nothing. -/
def step (state : ResponsesStreamingState) (message : InferenceMessage) : ResponsesStreamingState :=
  (transform builder state message).toOption.getD state

/-- All messages of a request. -/
def run (messages : List InferenceMessage) : ResponsesStreamingState :=
  messages.foldl (step builder) .ofDefault

end ResponsesStreaming

/-! ## The non-streaming transformer -/

/-- `transform_result.rs`. -/
inductive TransformResult where
  | chunk (body : Json)
  | discard
  | error (body : Json)
  deriving Repr

namespace TransformResult

/-- The body of a chunk. -/
def chunkBody : TransformResult → Option Json
  | .chunk body => some body
  | _ => none

/-- The body of an error. -/
def errorBody : TransformResult → Option Json
  | .error body => some body
  | _ => none

end TransformResult

/-- `responses_non_streaming_state.rs`. -/
structure ResponsesNonStreamingState where
  content : String
  reasoning : String
  toolCalls : List ParsedToolCall
  deriving DecidableEq, Repr

namespace ResponsesNonStreaming

variable [TokenTotals] (builder : ResponsesResponseBuilder)

omit [TokenTotals] in
/-- The output of `build_completed`. -/
def completedOutput (snapshot : ResponsesNonStreamingState) : List Json :=
  let output := if snapshot.reasoning ≠ "" then
    [reasoningItemDone ("rs_" ++ toString 0) snapshot.reasoning] else []
  let output := if snapshot.content ≠ "" ∨ snapshot.toolCalls = [] then
    output ++ [messageItemDone ("msg_" ++ toString output.length) snapshot.content] else output
  snapshot.toolCalls.foldl (fun output call =>
    output ++ [functionCallItem ("fc_" ++ toString output.length) call.id call.name
      (argumentsToToolCallString call.arguments) "completed"]) output

def buildCompleted (snapshot : ResponsesNonStreamingState) (summary : GenerationSummary) : Json :=
  builder.completed (completedOutput snapshot) summary.usage

/-- What the transformer fails with on a result that it does not know. -/
def unknownToken : String :=
  "ResponsesNonStreamingResponseTransformer received a token it does not know how to handle"

/-- What the transformer fails with on a message that it does not know. -/
def unknownMessage : String :=
  "ResponsesNonStreamingResponseTransformer received an outgoing message it does not know how to handle"

def transform (state : ResponsesNonStreamingState) (message : InferenceMessage) :
    Except String (ResponsesNonStreamingState × List TransformResult) :=
  match responsesError message with
  | some error => .ok (state, [.error error.toEnvelope])
  | none =>
    match message with
    | .response _ _ (.generatedToken token) =>
      match token with
      | .contentToken text | .undeterminableToken text =>
        .ok ({ state with content := state.content ++ text }, [])
      | .reasoningToken text => .ok ({ state with reasoning := state.reasoning ++ text }, [])
      | .toolCallToken _ => .ok (state, [])
      | .toolCallParsed parsedCalls =>
        .ok ({ state with toolCalls := state.toolCalls ++ parsedCalls }, [])
      | .done summary => .ok (state, [.chunk (buildCompleted builder state summary)])
      | _ => .error unknownToken
    | _ => .error unknownMessage

/-- The state and the results after one more message; one that fails gives no result. -/
def step (collected : ResponsesNonStreamingState × List TransformResult)
    (message : InferenceMessage) :
    ResponsesNonStreamingState × List TransformResult :=
  match transform builder collected.1 message with
  | .ok (state, results) => (state, collected.2 ++ results)
  | .error _ => collected

/-- All messages of a request. -/
def run (messages : List InferenceMessage) : ResponsesNonStreamingState × List TransformResult :=
  messages.foldl (step builder) (⟨"", "", []⟩, [])

end ResponsesNonStreaming

end Paddler
