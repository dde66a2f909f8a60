import Paddler.Client.Connection

/-!
# Messages on the wire

What `serde` makes of the messages of `paddler_messaging`: structures are objects, a variant with a
payload is an object with one field, a variant without one is a string, and a number that JSON does
not have is `null`.  A JSON value inside a message is kept as its text.

* `InferenceMessage.toWire` — the frame of a message.
* `DecodesAs` — what a decoder makes of a message.
* `ClientSocketInput`, `messagesSince` — what happens on one connection, and the messages that
  follow a call.
-/

set_option autoImplicit false

namespace Paddler

/-! ## Values -/

/-- A JSON value of a frame.  `float` is a finite `f32`, `json` any value, known by its text. -/
inductive WireValue where
  | null
  | integer (value : Int)
  | float (bits : UInt32)
  | string (value : String)
  | array (values : List WireValue)
  | object (fields : List (String × WireValue))
  | json (text : String)
  deriving Repr

namespace WireValue

/-- The value of a field. -/
def field (key : String) : WireValue → Option WireValue
  | .object fields => fields.lookup key
  | _ => none

/-- The text of a string. -/
def asString : WireValue → Option String
  | .string value => some value
  | _ => none

/-- The value of an integer. -/
def asInteger : WireValue → Option Int
  | .integer value => some value
  | _ => none

/-- The elements of an array. -/
def asArray : WireValue → Option (List WireValue)
  | .array values => some values
  | _ => none

/-- The value is a number. -/
def isNumber : WireValue → Bool
  | .integer _ | .float _ => true
  | _ => false

end WireValue

open WireValue

/-- A variant with a payload. -/
def variantWire (name : String) (payload : WireValue) : WireValue :=
  .object [(name, payload)]

/-- The exponent, the eight bits above the 23 of the mantissa, is not that of an infinity or of no
number. -/
def f32IsFinite (bits : UInt32) : Bool :=
  bits.toNat / 8388608 % 256 ≠ 255

/-- An `f32`. -/
def f32Wire (bits : UInt32) : WireValue :=
  if f32IsFinite bits then .float bits else .null

/-! ## Results -/

/-- `TokenUsage`. -/
def TokenUsage.toWire (usage : TokenUsage) : WireValue :=
  .object [
    ("prompt_tokens", .integer usage.promptTokens),
    ("cached_prompt_tokens", .integer usage.cachedPromptTokens),
    ("input_image_tokens", .integer usage.inputImageTokens),
    ("input_audio_tokens", .integer usage.inputAudioTokens),
    ("content_tokens", .integer usage.contentTokens),
    ("reasoning_tokens", .integer usage.reasoningTokens),
    ("tool_call_tokens", .integer usage.toolCallTokens),
    ("undeterminable_tokens", .integer usage.undeterminableTokens)]

/-- `GenerationSummary`. -/
def GenerationSummary.toWire (summary : GenerationSummary) : WireValue :=
  .object [("usage", summary.usage.toWire)]

/-- `OversizedImageDetails`. -/
def OversizedImageDetails.toWire (details : OversizedImageDetails) : WireValue :=
  .object [("image_tokens", .integer details.imageTokens), ("n_batch", .integer details.nBatch)]

/-- `RawToolCallTokens`. -/
def RawToolCallTokens.toWire (raw : RawToolCallTokens) : WireValue :=
  .object [("text", .string raw.text), ("ffi_error_message", .string raw.ffiErrorMessage)]

/-- `ToolCallArguments`. -/
def ToolCallArguments.toWire : ToolCallArguments → WireValue
  | .validJson value => variantWire "ValidJson" (.json value)
  | .invalidJson text => variantWire "InvalidJson" (.string text)

/-- `ParsedToolCall`. -/
def ParsedToolCall.toWire (call : ParsedToolCall) : WireValue :=
  .object [("id", .string call.id), ("name", .string call.name),
    ("arguments", call.arguments.toWire)]

/-- `GeneratedTokenResult`. -/
def GeneratedTokenResult.toWire : GeneratedTokenResult → WireValue
  | .chatTemplateError message => variantWire "ChatTemplateError" (.string message)
  | .contentToken text => variantWire "ContentToken" (.string text)
  | .detokenizationFailed message => variantWire "DetokenizationFailed" (.string message)
  | .done summary => variantWire "Done" summary.toWire
  | .grammarIncompatibleWithThinking message =>
    variantWire "GrammarIncompatibleWithThinking" (.string message)
  | .grammarInitializationFailed message =>
    variantWire "GrammarInitializationFailed" (.string message)
  | .grammarRejectedModelOutput message =>
    variantWire "GrammarRejectedModelOutput" (.string message)
  | .grammarSyntaxError message => variantWire "GrammarSyntaxError" (.string message)
  | .imageDecodingFailed message => variantWire "ImageDecodingFailed" (.string message)
  | .imageExceedsBatchSize details => variantWire "ImageExceedsBatchSize" details.toWire
  | .multimodalNotSupported message => variantWire "MultimodalNotSupported" (.string message)
  | .reasoningToken text => variantWire "ReasoningToken" (.string text)
  | .samplerError message => variantWire "SamplerError" (.string message)
  | .tokenGenerationDisabled message => variantWire "TokenGenerationDisabled" (.string message)
  | .toolCallParseFailed message => variantWire "ToolCallParseFailed" (.string message)
  | .toolCallParsed calls => variantWire "ToolCallParsed" (.array (calls.map ParsedToolCall.toWire))
  | .toolCallToken text => variantWire "ToolCallToken" (.string text)
  | .toolCallValidationFailed messages =>
    variantWire "ToolCallValidationFailed" (.array (messages.map WireValue.string))
  | .toolSchemaInvalid message => variantWire "ToolSchemaInvalid" (.string message)
  | .undeterminableToken text => variantWire "UndeterminableToken" (.string text)
  | .unrecognizedToolCallFormat raw => variantWire "UnrecognizedToolCallFormat" raw.toWire

/-- `PoolingType`. -/
def PoolingType.toWire : PoolingType → WireValue
  | .unspecified => .string "Unspecified"
  | .none => .string "None"
  | .mean => .string "Mean"
  | .cls => .string "Cls"
  | .last => .string "Last"
  | .rank => .string "Rank"

/-- `EmbeddingNormalizationMethod`. -/
def EmbeddingNormalizationMethod.toWire : EmbeddingNormalizationMethod → WireValue
  | .l2 => .string "L2"
  | .none => .string "None"
  | .rmsNorm epsilon => variantWire "RmsNorm" (.object [("epsilon", f32Wire epsilon)])

/-- `Embedding`. -/
def Embedding.toWire (embedding : Embedding) : WireValue :=
  .object [
    ("embedding", .array (embedding.embedding.map f32Wire)),
    ("normalization_method", embedding.normalizationMethod.toWire),
    ("pooling_type", embedding.poolingType.toWire),
    ("source_document_id", .string embedding.sourceDocumentId)]

/-- `OversizedEmbeddingDocumentDetails`. -/
def OversizedEmbeddingDocumentDetails.toWire (details : OversizedEmbeddingDocumentDetails) :
    WireValue :=
  .object [
    ("document_tokens", .integer details.documentTokens),
    ("n_batch", .integer details.nBatch),
    ("source_document_id", .string details.sourceDocumentId)]

/-- `EmbeddingResult`. -/
def EmbeddingResult.toWire : EmbeddingResult → WireValue
  | .documentExceedsBatchSize details => variantWire "DocumentExceedsBatchSize" details.toWire
  | .done => .string "Done"
  | .embedding vector => variantWire "Embedding" vector.toWire
  | .embeddingsDisabled => .string "EmbeddingsDisabled"
  | .error message => variantWire "Error" (.string message)
  | .embeddingRejectedDueToActiveTokenGeneration =>
    .string "EmbeddingRejectedDueToActiveTokenGeneration"
  | .noEmbeddingsProduced => .string "NoEmbeddingsProduced"

/-! ## Messages -/

/-- `Response`. -/
def OutgoingResponse.toWire : OutgoingResponse → WireValue
  | .embedding result => variantWire "Embedding" result.toWire
  | .generatedToken token => variantWire "GeneratedToken" token.toWire
  | .timeout => .string "Timeout"
  | .tooManyBufferedRequests => .string "TooManyBufferedRequests"

/-- `Notification`. -/
def InferenceNotification.toWire : InferenceNotification → WireValue
  | .tokenGenerationDisabled => .string "TokenGenerationDisabled"
  | .tokenGenerationEnabled => .string "TokenGenerationEnabled"

/-- `jsonrpc::Error`. -/
def JsonRpcError.toWire (error : JsonRpcError) : WireValue :=
  .object [("code", .integer error.code), ("description", .string error.description)]

/-- An `Option<String>`. -/
def optionWire : Option String → WireValue
  | none => .null
  | some value => .string value

/-- `Message`, with its envelopes. -/
def InferenceMessage.toWire : InferenceMessage → WireValue
  | .error requestId failure =>
    variantWire "Error" (.object [("request_id", .string requestId), ("error", failure.toWire)])
  | .notification mode => variantWire "Notification" mode.toWire
  | .response generatedBy requestId result =>
    variantWire "Response" (.object [
      ("generated_by", optionWire generatedBy),
      ("request_id", .string requestId),
      ("response", result.toWire)])

/-! ## What payloads are decoded to -/

/-- The counters of a usage. -/
structure DecodedUsage where
  promptTokens : Int
  cachedPromptTokens : Int
  inputImageTokens : Int
  inputAudioTokens : Int
  contentTokens : Int
  reasoningTokens : Int
  toolCallTokens : Int
  undeterminableTokens : Int
  deriving DecidableEq, Repr

/-- The sizes of an image that is too large. -/
structure DecodedImageDetails where
  imageTokens : Int
  nBatch : Int
  deriving DecidableEq, Repr

/-- The arguments of a tool call. -/
inductive DecodedArguments where
  | validJson (value : WireValue)
  | invalidJson (raw : String)
  deriving Repr

/-- A tool call. -/
structure DecodedToolCall where
  id : String
  name : String
  arguments : DecodedArguments
  deriving Repr

/-- What the arguments of a tool call are decoded to. -/
def decodedArguments : ToolCallArguments → DecodedArguments
  | .validJson value => .validJson (.json value)
  | .invalidJson text => .invalidJson text

/-- What a tool call is decoded to. -/
def decodedToolCall (call : ParsedToolCall) : DecodedToolCall :=
  { id := call.id, name := call.name, arguments := decodedArguments call.arguments }

/-! ## Decoders -/

section

variable {μ ε : Type} {idOf : μ → String} {isLast : μ → Bool} {requestId : String}
    {isDone misread : Bool}

/-- What is decoded belongs to the request, and it is its last message if it should be; but not if
the message is misread. -/
def DecodesAs (idOf : μ → String) (isLast : μ → Bool) (requestId : String) (isDone misread : Bool)
    (result : Except ε μ) : Prop :=
  (∀ message, result = .ok message → idOf message = requestId) ∧
    ((∃ message, result = .ok message ∧ isLast message = isDone) ↔ misread = false)

theorem decodesAs_ok {message : μ} (hid : idOf message = requestId)
    (hlast : (isLast message == isDone) = !misread) :
    DecodesAs idOf isLast requestId isDone misread (Except.ok message : Except ε μ) := by
  refine ⟨fun _ h => by cases h; exact hid, ?_⟩
  constructor
  · rintro ⟨_, hok, hsame⟩
    cases hok
    simpa [hsame] using hlast
  · rintro rfl
    exact ⟨message, rfl, by simpa using hlast⟩

theorem decodesAs_error {e : ε} : DecodesAs idOf isLast requestId isDone true (Except.error e) := by
  constructor
  · intro message h
    cases h
  · constructor
    · rintro ⟨message, h, -⟩
      cases h
    · intro h
      cases h

end

theorem mapM_map {m : Type → Type} [Monad m] [LawfulMonad m] {α β γ : Type} {encode : α → β}
    {decode : β → m γ} {value : α → γ} (h : ∀ a, decode (encode a) = pure (value a)) (l : List α) :
    (l.map encode).mapM decode = pure (l.map value) := by
  induction l with
  | nil => rfl
  | cons a l ih =>
    rw [List.map_cons, List.mapM_cons, h, ih]
    simp

/-! ## One connection -/

namespace InferenceMessage

/-- The message is for the request. -/
def isFor (requestId : String) (message : InferenceMessage) : Bool :=
  message.scope.any fun scope => scope.requestId = requestId

/-- The message is the last one for the request: what the Rust client goes by. -/
def endsFor (requestId : String) (message : InferenceMessage) : Bool :=
  message.scope.any fun scope => scope.requestId = requestId ∧ scope.isDone = true

theorem isFor_iff {requestId : String} {message : InferenceMessage} :
    message.isFor requestId = true ↔ ∃ scope, message.scope = some scope ∧
    scope.requestId = requestId := by
  simp [isFor, Option.any_eq_true]

theorem endsFor_iff {requestId : String} {message : InferenceMessage} :
    message.endsFor requestId = true ↔
      ∃ scope, message.scope = some scope ∧ scope.requestId = requestId ∧ scope.isDone = true := by
  simp [endsFor, Option.any_eq_true]

theorem isFor_of_endsFor {requestId : String} {message : InferenceMessage}
    (h : message.endsFor requestId = true) : message.isFor requestId = true := by
  obtain ⟨scope, hscope, hid, -⟩ := endsFor_iff.mp h
  exact isFor_iff.mpr ⟨scope, hscope, hid⟩

end InferenceMessage

/-- The ids that a client makes for its calls: no two are the same, and none is empty. -/
structure ClientRequestIds (Call : Type) where
  idOf : Call → String
  injective : Function.Injective idOf
  ne_empty : ∀ call, idOf call ≠ ""

/-- What happens on a connection: a call sends its request, or a message arrives. -/
inductive ClientSocketInput (Call : Type) where
  | send (call : Call)
  | receive (message : InferenceMessage)
  deriving DecidableEq, Repr

variable {Call : Type} [DecidableEq Call]

/-- The messages that arrive. -/
def receivedMessages : List (ClientSocketInput Call) → List InferenceMessage
  | [] => []
  | .send _ :: inputs => receivedMessages inputs
  | .receive message :: inputs => message :: receivedMessages inputs

/-- The messages that arrive after a call has sent its request. -/
def messagesSince (call : Call) : List (ClientSocketInput Call) → Option (List InferenceMessage)
  | [] => none
  | .send sender :: inputs =>
    if sender = call then some (receivedMessages inputs) else messagesSince call inputs
  | .receive _ :: inputs => messagesSince call inputs

end Paddler
