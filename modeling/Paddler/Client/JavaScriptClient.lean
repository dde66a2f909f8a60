import Paddler.Client.WireFormat
import Paddler.Library.StreamView

/-!
# The JavaScript client

Model of `inferenceSocketClient.ts` and `schemas/InferenceServiceGenerateTokensResponse.ts` of
`paddler_client_javascript`.  Every stream listens to the whole socket: a frame is parsed before it
is looked at whom it is for, and a frame that cannot be parsed throws.

* `responseSchema` — the schema, and what it is transformed to.
* `isUndecoded` — the messages that the schema does not know.
* `parse_toWire` — **what the schema makes of a message of the balancer.**
* `tokenStream` — the stream of one call of `continueConversation`.
-/

set_option autoImplicit false

namespace Paddler.JavaScriptClient

open StreamView

/-! ## Schemas -/

/-- A schema of `zod`. -/
abbrev Schema (β : Type) := WireValue → Option β

/-- `z.string()`. -/
def zString : Schema String := WireValue.asString

/-- `z.number()`; the numbers of these messages are integers. -/
def zNumber : Schema Int := WireValue.asInteger

/-- `z.array(item)`. -/
def zArray {β : Type} (item : Schema β) : Schema (List β) := fun value =>
  value.asArray.bind fun values => values.mapM item

/-- `z.object(...)`, as far as one of its fields is concerned. -/
def zField {β : Type} (key : String) (schema : Schema β) : Schema β := fun value =>
  (value.field key).bind schema

/-- `z.strictObject(...)` with one field. -/
def zStrictField {β : Type} (key : String) (schema : Schema β) : Schema β
  | .object [(only, value)] => if only = key then schema value else none
  | _ => none

/-- `z.string().nullable()`. -/
def zNullableString : Schema (Option String)
  | .null => some none
  | value => (zString value).map some

/-- `z.union(...)`: the first schema that fits. -/
def zUnion {β : Type} (schemas : List (Schema β)) : Schema β := fun value =>
  schemas.findSome? fun schema => schema value

/-- `TokenUsageSchema`. -/
def tokenUsageSchema : Schema DecodedUsage := fun value => do
  return {
    promptTokens := ← zField "prompt_tokens" zNumber value
    cachedPromptTokens := ← zField "cached_prompt_tokens" zNumber value
    inputImageTokens := ← zField "input_image_tokens" zNumber value
    inputAudioTokens := ← zField "input_audio_tokens" zNumber value
    contentTokens := ← zField "content_tokens" zNumber value
    reasoningTokens := ← zField "reasoning_tokens" zNumber value
    toolCallTokens := ← zField "tool_call_tokens" zNumber value
    undeterminableTokens := ← zField "undeterminable_tokens" zNumber value }

/-- `GenerationSummarySchema`. -/
def generationSummarySchema : Schema DecodedUsage :=
  zField "usage" tokenUsageSchema

/-- `RawToolCallTokensSchema`. -/
def rawToolCallTokensSchema : Schema RawToolCallTokens := fun value => do
  return {
    text := ← zField "text" zString value
    ffiErrorMessage := ← zField "ffi_error_message" zString value }

/-- `OversizedImageDetailsSchema`. -/
def oversizedImageDetailsSchema : Schema DecodedImageDetails := fun value => do
  return {
    imageTokens := ← zField "image_tokens" zNumber value
    nBatch := ← zField "n_batch" zNumber value }

/-- `ToolCallArgumentsSchema`. -/
def toolCallArgumentsSchema : Schema DecodedArguments :=
  zUnion [
    zStrictField "InvalidJson" fun value => (zString value).map .invalidJson,
    zStrictField "ValidJson" fun value => some (.validJson value)]

/-- `ParsedToolCallSchema`. -/
def parsedToolCallSchema : Schema DecodedToolCall := fun value => do
  return {
    id := ← zField "id" zString value
    name := ← zField "name" zString value
    arguments := ← zField "arguments" toolCallArgumentsSchema value }

/-- What `GeneratedTokenResultSchema` parses to. -/
inductive GeneratedTokenVariant where
  | contentToken (text : String)
  | reasoningToken (text : String)
  | toolCallToken (text : String)
  | undeterminableToken (text : String)
  | done (summary : DecodedUsage)
  | chatTemplateError (message : String)
  | grammarIncompatibleWithThinking (message : String)
  | grammarInitializationFailed (message : String)
  | grammarRejectedModelOutput (message : String)
  | grammarSyntaxError (message : String)
  | imageDecodingFailed (message : String)
  | imageExceedsBatchSize (details : DecodedImageDetails)
  | multimodalNotSupported (message : String)
  | samplerError (message : String)
  | tokenGenerationDisabled (message : String)
  | toolCallParsed (calls : List DecodedToolCall)
  | toolCallParseFailed (message : String)
  | toolCallValidationFailed (messages : List String)
  | toolCallValidatorBuildFailed (message : String)
  | unrecognizedToolCallFormat (raw : RawToolCallTokens)
  deriving Repr

/-- One option of the union. -/
def zVariant {β : Type} (key : String) (schema : Schema β) (variant : β → GeneratedTokenVariant) :
    Schema GeneratedTokenVariant := fun value =>
  (zField key schema value).map variant

/-- `GeneratedTokenResultSchema`. -/
def generatedTokenResultSchema : Schema GeneratedTokenVariant :=
  zUnion [
    zVariant "ContentToken" zString .contentToken,
    zVariant "ReasoningToken" zString .reasoningToken,
    zVariant "ToolCallToken" zString .toolCallToken,
    zVariant "UndeterminableToken" zString .undeterminableToken,
    zVariant "Done" generationSummarySchema .done,
    zVariant "ChatTemplateError" zString .chatTemplateError,
    zVariant "GrammarIncompatibleWithThinking" zString .grammarIncompatibleWithThinking,
    zVariant "GrammarInitializationFailed" zString .grammarInitializationFailed,
    zVariant "GrammarRejectedModelOutput" zString .grammarRejectedModelOutput,
    zVariant "GrammarSyntaxError" zString .grammarSyntaxError,
    zVariant "ImageDecodingFailed" zString .imageDecodingFailed,
    zVariant "ImageExceedsBatchSize" oversizedImageDetailsSchema .imageExceedsBatchSize,
    zVariant "MultimodalNotSupported" zString .multimodalNotSupported,
    zVariant "SamplerError" zString .samplerError,
    zVariant "TokenGenerationDisabled" zString .tokenGenerationDisabled,
    zVariant "ToolCallParsed" (zArray parsedToolCallSchema) .toolCallParsed,
    zVariant "ToolCallParseFailed" zString .toolCallParseFailed,
    zVariant "ToolCallValidationFailed" (zArray zString) .toolCallValidationFailed,
    zVariant "ToolCallValidatorBuildFailed" zString .toolCallValidatorBuildFailed,
    zVariant "UnrecognizedToolCallFormat" rawToolCallTokensSchema .unrecognizedToolCallFormat]

/-! ## The transformed message -/

inductive GeneratedTokenKind where
  | content
  | reasoning
  | toolCall
  | undeterminable
  deriving DecidableEq, Repr

/-- The `error` of a message. -/
structure ResponseError where
  code : Int
  description : String
  deriving DecidableEq, Repr

structure Normalised where
  done : Bool
  ok : Bool
  requestId : String
  generatedBy : Option String
  error : Option ResponseError := none
  rawToolCallTokens : Option RawToolCallTokens := none
  summary : Option DecodedUsage := none
  token : Option String := none
  tokenKind : Option GeneratedTokenKind := none
  toolCalls : Option (List DecodedToolCall) := none
  deriving Repr

section

variable (requestId : String) (generatedBy : Option String)

def terminalError (code : Int) (description : String) : Normalised :=
  { done := true, ok := false, requestId, generatedBy, error := some { code, description } }

def nonTerminalError (code : Int) (description : String) : Normalised :=
  { done := false, ok := false, requestId, generatedBy, error := some { code, description } }

def streamingToken (token : String) (tokenKind : GeneratedTokenKind) : Normalised :=
  { done := false, ok := true, requestId, generatedBy, token := some token,
    tokenKind := some tokenKind }

def unrecognizedToolCallFormat (raw : RawToolCallTokens) : Normalised :=
  { done := false, ok := true, requestId, generatedBy, rawToolCallTokens := some raw }

/-- The description of an image that is too large. -/
def oversizedImageDescription (details : DecodedImageDetails) : String :=
  "image required " ++ toString details.imageTokens ++ " tokens but n_batch is " ++
    toString details.nBatch

/-- The transformation of a generated token. -/
def normalise : GeneratedTokenVariant → Normalised
  | .contentToken text => streamingToken requestId generatedBy text .content
  | .reasoningToken text => streamingToken requestId generatedBy text .reasoning
  | .toolCallToken text => streamingToken requestId generatedBy text .toolCall
  | .undeterminableToken text => streamingToken requestId generatedBy text .undeterminable
  | .done summary => { done := true, ok := true, requestId, generatedBy, summary := some summary }
  | .toolCallParsed calls =>
    { done := false, ok := true, requestId, generatedBy, toolCalls := some calls }
  | .unrecognizedToolCallFormat raw => unrecognizedToolCallFormat requestId generatedBy raw
  | .toolCallParseFailed message => nonTerminalError requestId generatedBy 422 message
  | .toolCallValidationFailed messages =>
    nonTerminalError requestId generatedBy 422 ("; ".intercalate messages)
  | .toolCallValidatorBuildFailed message => terminalError requestId generatedBy 400 message
  | .chatTemplateError message => terminalError requestId generatedBy 500 message
  | .grammarIncompatibleWithThinking message => terminalError requestId generatedBy 400 message
  | .grammarInitializationFailed message => terminalError requestId generatedBy 500 message
  | .grammarRejectedModelOutput message => terminalError requestId generatedBy 500 message
  | .grammarSyntaxError message => terminalError requestId generatedBy 400 message
  | .imageDecodingFailed message => terminalError requestId generatedBy 400 message
  | .imageExceedsBatchSize details =>
    terminalError requestId generatedBy 400 (oversizedImageDescription details)
  | .multimodalNotSupported message => terminalError requestId generatedBy 400 message
  | .tokenGenerationDisabled message => terminalError requestId generatedBy 501 message
  | .samplerError message => terminalError requestId generatedBy 500 message

end

/-- The option of the error envelope. -/
def errorEnvelopeSchema : Schema Normalised := fun envelope => do
  let code ← zField "error" (zField "code" zNumber) envelope
  let description ← zField "error" (zField "description" zString) envelope
  return terminalError (← zField "request_id" zString envelope) none code description

/-- The option of the response envelope. -/
def responseEnvelopeSchema : Schema Normalised := fun envelope => do
  let generatedBy ← zField "generated_by" zNullableString envelope
  let requestId ← zField "request_id" zString envelope
  return normalise requestId generatedBy
    (← zField "response" (zField "GeneratedToken" generatedTokenResultSchema) envelope)

/-- `InferenceServiceGenerateTokensResponseSchema`. -/
def responseSchema : Schema Normalised :=
  zUnion [zField "Error" errorEnvelopeSchema, zField "Response" responseEnvelopeSchema]

/-- `schema.parse(parsedFrame)`, which throws on a frame that does not fit. -/
def parse (parsedFrame : WireValue) : Except WireValue Normalised :=
  match responseSchema parsedFrame with
  | some response => .ok response
  | none => .error parsedFrame

/-! ## The stream of a call -/

def isNotificationFrame (parsedFrame : WireValue) : Bool :=
  (parsedFrame.field "Notification").isSome

/-- A frame in the pipeline of a call: notifications are left out, the others are parsed, and then
those of other requests are left out. -/
def decodeFrame (requestId : String) (parsedFrame : WireValue) :
    Except WireValue (Option Normalised) :=
  if isNotificationFrame parsedFrame then .ok none
  else
    match parse parsedFrame with
    | .error frame => .error frame
    | .ok response => .ok (if response.requestId = requestId then some response else none)

/-- `continueConversation`: what its observable emits for the frames of the socket. -/
def tokenStream (requestId : String) (parsedFrames : List WireValue) : StreamView Normalised :=
  readStream (decodeFrame requestId) Normalised.done parsedFrames

/-! ## What the schema makes of a message of the balancer -/

/-- The schema has no option for the message. -/
def isUndecoded : InferenceMessage → Bool
  | .response _ _ (.generatedToken (.detokenizationFailed _))
  | .response _ _ (.generatedToken (.toolSchemaInvalid _)) => true
  | .response _ _ (.generatedToken _) => false
  | .response _ _ (.embedding _) | .response _ _ .timeout
  | .response _ _ .tooManyBufferedRequests => true
  | .error _ _ | .notification _ => false

theorem isNotificationFrame_toWire (message : InferenceMessage) :
    isNotificationFrame message.toWire = message.scope.isNone := by
  cases message <;> rfl

theorem parsedToolCallSchema_toWire (call : ParsedToolCall) :
    parsedToolCallSchema call.toWire = some (decodedToolCall call) := by
  obtain ⟨id, name, arguments⟩ := call
  cases arguments <;> rfl

theorem zUnion_cons_none {β : Type} {schema : Schema β} {schemas : List (Schema β)}
    {value : WireValue} (h : schema value = none) :
    zUnion (schema :: schemas) value = zUnion schemas value := by
  rw [zUnion, List.findSome?_cons, h]
  rfl

theorem zUnion_cons_some {β : Type} {schema : Schema β} {schemas : List (Schema β)}
    {value : WireValue} {b : β} (h : schema value = some b) :
    zUnion (schema :: schemas) value = some b := by
  rw [zUnion, List.findSome?_cons, h]

theorem zVariant_variantWire {β : Type} {key : String} {schema : Schema β}
    {variant : β → GeneratedTokenVariant} {payload : WireValue} {b : β}
    (h : schema payload = some b) :
    zVariant key schema variant (variantWire key payload) = some (variant b) := by
  simp [zVariant, zField, variantWire, WireValue.field, h]

theorem generatedTokenResultSchema_toolCallParsed (calls : List ParsedToolCall) :
    generatedTokenResultSchema (GeneratedTokenResult.toolCallParsed calls).toWire =
      some (.toolCallParsed (calls.map decodedToolCall)) := by
  have hcalls : zArray parsedToolCallSchema (.array (calls.map ParsedToolCall.toWire)) =
      some (calls.map decodedToolCall) := mapM_map parsedToolCallSchema_toWire calls
  unfold generatedTokenResultSchema
  iterate 15 rw [zUnion_cons_none (by rfl)]
  exact zUnion_cons_some (zVariant_variantWire hcalls)

theorem generatedTokenResultSchema_toolCallValidationFailed (messages : List String) :
    generatedTokenResultSchema (GeneratedTokenResult.toolCallValidationFailed messages).toWire =
      some (.toolCallValidationFailed messages) := by
  have hread : ∀ message, zString (.string message) = pure (id message) := fun _ => rfl
  have hmessages := mapM_map hread messages
  rw [List.map_id] at hmessages
  have harray : zArray zString (.array (messages.map WireValue.string)) = some messages := hmessages
  unfold generatedTokenResultSchema
  iterate 17 rw [zUnion_cons_none (by rfl)]
  exact zUnion_cons_some (zVariant_variantWire harray)

theorem parse_generatedToken {token : GeneratedTokenResult} {variant : GeneratedTokenVariant}
    (h : generatedTokenResultSchema token.toWire = some variant) (generatedBy : Option String)
    (requestId : String) :
    parse (InferenceMessage.response generatedBy requestId (.generatedToken token)).toWire =
      .ok (normalise requestId generatedBy variant) := by
  have henvelope : zField "Response" responseEnvelopeSchema
      (InferenceMessage.response generatedBy requestId (.generatedToken token)).toWire =
        (generatedTokenResultSchema token.toWire).bind fun variant =>
          some (normalise requestId generatedBy variant) := by
    cases generatedBy <;> rfl
  have hresponse : responseSchema
      (InferenceMessage.response generatedBy requestId (.generatedToken token)).toWire =
        some (normalise requestId generatedBy variant) := by
    unfold responseSchema
    rw [zUnion_cons_none (by rfl)]
    refine zUnion_cons_some ?_
    rw [henvelope, h]
    rfl
  rw [parse, hresponse]

theorem parse_undecoded {message : InferenceMessage} (h : isUndecoded message = true) :
    parse message.toWire = .error message.toWire := by
  cases message with
  | error requestId failure => cases h
  | notification mode => cases h
  | response generatedBy requestId response =>
    cases response with
    | embedding result => cases result <;> cases generatedBy <;> rfl
    | timeout | tooManyBufferedRequests => cases generatedBy <;> rfl
    | generatedToken token =>
      cases token
      case detokenizationFailed | toolSchemaInvalid => cases generatedBy <;> rfl
      all_goals cases h

/-- **What the schema makes of a message.** -/
theorem parse_toWire {message : InferenceMessage} {scope : RequestScopedMessage}
    (hscope : message.scope = some scope) :
    DecodesAs Normalised.requestId Normalised.done scope.requestId scope.isDone
      (isUndecoded message) (parse message.toWire) := by
  cases message with
  | error requestId failure =>
    cases hscope
    exact decodesAs_ok rfl rfl
  | notification mode => cases hscope
  | response generatedBy requestId response =>
    cases hscope
    cases response with
    | embedding result => cases result <;> cases generatedBy <;> exact decodesAs_error
    | timeout | tooManyBufferedRequests => cases generatedBy <;> exact decodesAs_error
    | generatedToken token =>
      cases token
      case detokenizationFailed | toolSchemaInvalid => cases generatedBy <;> exact decodesAs_error
      case toolCallParsed calls =>
        rw [parse_generatedToken (generatedTokenResultSchema_toolCallParsed calls)]
        exact decodesAs_ok rfl rfl
      case toolCallValidationFailed messages =>
        rw [parse_generatedToken (generatedTokenResultSchema_toolCallValidationFailed messages)]
        exact decodesAs_ok rfl rfl
      all_goals cases generatedBy <;> exact decodesAs_ok rfl rfl

end Paddler.JavaScriptClient
