import Paddler.Client.WireFormat

/-!
# The decoder of the Python client

Model of `inference_message.py` of `paddler_client_python`.  The fields that Python leaves unchecked
are read as what the balancer sends in them.

* `parseInferenceClientMessage`, `InferenceMessage.isTerminal` — the decoder, and when a stream
  ends.
* `isMisread` — the messages that are not decoded, or end a stream early.
* `parse_toWire` — **what the decoder makes of a message of the balancer.**
-/

set_option autoImplicit false

namespace Paddler.PythonClient

/-! ## Messages -/

/-- What parsing a message raises. -/
inductive ParseError where
  | keyError
  | typeError
  | valueError
  | validationError
  deriving DecidableEq, Repr

inductive InferenceMessageKind where
  | chatTemplateError
  | contentToken
  | done
  | embedding
  | embeddingDone
  | embeddingError
  | embeddingRejectedDueToActiveTokenGeneration
  | embeddingNoEmbeddingsProduced
  | grammarIncompatibleWithThinking
  | grammarInitializationFailed
  | grammarRejectedModelOutput
  | grammarSyntaxError
  | imageDecodingFailed
  | imageExceedsBatchSize
  | multimodalNotSupported
  | reasoningToken
  | samplerError
  | serverError
  | timeout
  | toolCallParsed
  | toolCallParseFailed
  | toolCallToken
  | toolCallValidationFailed
  | toolCallValidatorBuildFailed
  | tooManyBufferedRequests
  | undeterminableToken
  | unrecognizedToolCallFormat
  deriving DecidableEq, Repr

/-- `EmbeddingNormalizationMethod`; the epsilon is a number. -/
structure NormalizationMethod where
  variantName : String
  epsilon : Option WireValue
  deriving Repr

/-- `Embedding`; its components are numbers. -/
structure Embedding where
  components : List WireValue
  normalizationMethod : NormalizationMethod
  poolingType : PoolingType
  sourceDocumentId : String
  deriving Repr

structure InferenceMessage where
  requestId : String
  kind : InferenceMessageKind
  token : Option String := none
  embeddingData : Option Embedding := none
  errorMessage : Option String := none
  errorCode : Option Int := none
  summary : Option DecodedUsage := none
  parsedToolCalls : Option (List DecodedToolCall) := none
  rawToolCallTokens : Option RawToolCallTokens := none
  oversizedImageDetails : Option DecodedImageDetails := none
  generatedBy : Option String := none
  deriving Repr

/-- `_TOKEN_KINDS`. -/
def tokenKinds : List InferenceMessageKind :=
  [.contentToken, .reasoningToken, .toolCallToken, .undeterminableToken]

def InferenceMessage.isToken (message : InferenceMessage) : Bool :=
  tokenKinds.contains message.kind

def InferenceMessage.isTerminal (message : InferenceMessage) : Bool :=
  !message.isToken && message.kind != .embedding

/-! ## Reading fields -/

/-- `data[key]`. -/
def getItem (key : String) (data : WireValue) : Except ParseError WireValue :=
  match data.field key with
  | some value => .ok value
  | none => .error .keyError

/-- A field, as what is expected in it. -/
def getAs {β : Type} (read : WireValue → Option β) (key : String) (data : WireValue) :
    Except ParseError β := do
  match read (← getItem key data) with
  | some value => .ok value
  | none => .error .typeError

/-- `int(data.get(key, 0))`. -/
def getInt (key : String) (data : WireValue) : Except ParseError Int :=
  match data.field key with
  | none => .ok 0
  | some value =>
    match value.asInteger with
    | some n => .ok n
    | none => .error .typeError

/-- `str(payload)`. -/
def payloadString (payload : WireValue) : Except ParseError String :=
  match payload.asString with
  | some text => .ok text
  | none => .error .typeError

/-- The list that a payload has to be. -/
def payloadList (payload : WireValue) : Except ParseError (List WireValue) :=
  match payload.asArray with
  | some values => .ok values
  | none => .error .typeError

/-- `TokenUsage.from_dict`. -/
def usageFromDict (data : WireValue) : Except ParseError DecodedUsage := do
  return {
    promptTokens := ← getInt "prompt_tokens" data
    cachedPromptTokens := ← getInt "cached_prompt_tokens" data
    inputImageTokens := ← getInt "input_image_tokens" data
    inputAudioTokens := ← getInt "input_audio_tokens" data
    contentTokens := ← getInt "content_tokens" data
    reasoningTokens := ← getInt "reasoning_tokens" data
    toolCallTokens := ← getInt "tool_call_tokens" data
    undeterminableTokens := ← getInt "undeterminable_tokens" data }

/-- `GenerationSummary.from_dict`. -/
def summaryFromDict (data : WireValue) : Except ParseError DecodedUsage :=
  usageFromDict ((data.field "usage").getD (.object []))

def parseToolCallArguments (payload : WireValue) : Except ParseError DecodedArguments :=
  match payload.field "ValidJson" with
  | some value => .ok (.validJson value)
  | none =>
    match payload.field "InvalidJson" with
    | some raw => DecodedArguments.invalidJson <$> payloadString raw
    | none => .error .valueError

/-- `ParsedToolCall.from_dict`. -/
def toolCallFromDict (data : WireValue) : Except ParseError DecodedToolCall := do
  let arguments ← getItem "arguments" data
  match arguments with
  | .object _ =>
    return {
      id := ← getAs WireValue.asString "id" data
      name := ← getAs WireValue.asString "name" data
      arguments := ← parseToolCallArguments arguments }
  | _ => .error .typeError

/-- `RawToolCallTokens.from_dict`. -/
def rawToolCallTokensFromDict (data : WireValue) : Except ParseError RawToolCallTokens := do
  return {
    text := ← getAs WireValue.asString "text" data
    ffiErrorMessage := ← getAs WireValue.asString "ffi_error_message" data }

/-- `OversizedImageDetails.from_dict`. -/
def imageDetailsFromDict (data : WireValue) : Except ParseError DecodedImageDetails := do
  return {
    imageTokens := ← getAs WireValue.asInteger "image_tokens" data
    nBatch := ← getAs WireValue.asInteger "n_batch" data }

/-! ## Generated tokens -/

/-- A function that builds the message of one kind of result. -/
abbrev Handler := String → WireValue → Option String → Except ParseError InferenceMessage

/-- `_build_done_message`. -/
def buildDoneMessage : Handler := fun requestId payload generatedBy => do
  return { requestId, kind := .done, summary := some (← summaryFromDict payload), generatedBy }

/-- `_build_tool_call_parsed_message`. -/
def buildToolCallParsedMessage : Handler := fun requestId payload generatedBy => do
  let calls ← (← payloadList payload).mapM toolCallFromDict
  return { requestId, kind := .toolCallParsed, parsedToolCalls := some calls, generatedBy }

/-- `_build_tool_call_parse_failed_message`. -/
def buildToolCallParseFailedMessage : Handler := fun requestId payload generatedBy => do
  let message ← payloadString payload
  return { requestId, kind := .toolCallParseFailed, errorMessage := some message, generatedBy }

/-- `_build_tool_call_validation_failed_message`. -/
def buildToolCallValidationFailedMessage : Handler := fun requestId payload generatedBy => do
  let errors ← (← payloadList payload).mapM payloadString
  let joined := "; ".intercalate errors
  return { requestId, kind := .toolCallValidationFailed, errorMessage := some joined, generatedBy }

/-- The dictionary that a payload has to be. -/
def payloadDict (payload : WireValue) : Except ParseError WireValue :=
  match payload with
  | .object _ => .ok payload
  | _ => .error .typeError

/-- `_build_unrecognized_tool_call_format_message`. -/
def buildUnrecognizedToolCallFormatMessage : Handler := fun requestId payload generatedBy => do
  let raw ← rawToolCallTokensFromDict (← payloadDict payload)
  return { requestId, kind := .unrecognizedToolCallFormat, rawToolCallTokens := some raw, generatedBy }

/-- `_build_image_exceeds_batch_size_message`. -/
def buildImageExceedsBatchSizeMessage : Handler := fun requestId payload generatedBy => do
  let details ← imageDetailsFromDict (← payloadDict payload)
  return { requestId, kind := .imageExceedsBatchSize, oversizedImageDetails := some details, generatedBy }

/-- `_build_token_kind_message`. -/
def buildTokenKindMessage (kind : InferenceMessageKind) : Handler :=
  fun requestId payload generatedBy => do
  return { requestId, kind, token := some (← payloadString payload), generatedBy }

/-- `_build_error_kind_message`. -/
def buildErrorKindMessage (kind : InferenceMessageKind) : Handler :=
  fun requestId payload generatedBy => do
  return { requestId, kind, errorMessage := some (← payloadString payload), generatedBy }

/-- `_STRUCTURED_HANDLERS`. -/
def structuredHandlers : List (String × Handler) := [
  ("Done", buildDoneMessage),
  ("ToolCallParsed", buildToolCallParsedMessage),
  ("ToolCallParseFailed", buildToolCallParseFailedMessage),
  ("ToolCallValidationFailed", buildToolCallValidationFailedMessage),
  ("UnrecognizedToolCallFormat", buildUnrecognizedToolCallFormatMessage),
  ("ImageExceedsBatchSize", buildImageExceedsBatchSizeMessage)]

/-- `_GENERATED_TOKEN_KINDS`. -/
def generatedTokenKinds : List (String × InferenceMessageKind) := [
  ("ContentToken", .contentToken),
  ("ReasoningToken", .reasoningToken),
  ("ToolCallToken", .toolCallToken),
  ("UndeterminableToken", .undeterminableToken)]

/-- `_GENERATED_TOKEN_ERROR_KINDS`. -/
def generatedTokenErrorKinds : List (String × InferenceMessageKind) := [
  ("ChatTemplateError", .chatTemplateError),
  ("GrammarIncompatibleWithThinking", .grammarIncompatibleWithThinking),
  ("GrammarInitializationFailed", .grammarInitializationFailed),
  ("GrammarRejectedModelOutput", .grammarRejectedModelOutput),
  ("GrammarSyntaxError", .grammarSyntaxError),
  ("ImageDecodingFailed", .imageDecodingFailed),
  ("MultimodalNotSupported", .multimodalNotSupported),
  ("SamplerError", .samplerError),
  ("ToolCallValidatorBuildFailed", .toolCallValidatorBuildFailed)]

/-- The handlers in the order in which their keys are looked for. -/
def allHandlers : List (String × Handler) :=
  structuredHandlers ++ generatedTokenKinds.map (fun (key, kind) =>
    (key, buildTokenKindMessage kind)) ++ generatedTokenErrorKinds.map fun (key, kind) =>
      (key, buildErrorKindMessage kind)

/-- `_parse_generated_token_result`. -/
def parseGeneratedTokenResult : Handler := fun requestId data generatedBy =>
  match data with
  | .object _ =>
    let found := allHandlers.findSome? fun (key, handler) =>
      (data.field key).map fun payload => handler requestId payload generatedBy
    found.getD (.error .valueError)
  | _ => .error .typeError

/-! ## Embeddings -/

/-- `EmbeddingNormalizationMethod.from_serde`, and the check of its fields. -/
def normalizationMethodValidate (data : WireValue) : Except ParseError NormalizationMethod :=
  let checkEpsilon (variantName : String) (epsilon : WireValue) :
      Except ParseError NormalizationMethod :=
    match epsilon with
    | .null => .ok { variantName, epsilon := none }
    | _ => if epsilon.isNumber then .ok { variantName, epsilon := some epsilon }
        else .error .validationError
  match data with
  | .string variantName => .ok { variantName, epsilon := none }
  | .object _ =>
    match data.field "RmsNorm" with
    | some inner =>
      match inner.field "epsilon" with
      | some epsilon => checkEpsilon "RmsNorm" epsilon
      | none => .error .validationError
    | none =>
      match (data.field "variant").bind WireValue.asString with
      | some variantName => checkEpsilon variantName ((data.field "epsilon").getD .null)
      | none => .error .validationError
  | _ => .error .validationError

/-- `PoolingType(value)`. -/
def poolingTypeValidate (data : WireValue) : Except ParseError PoolingType :=
  match data.asString with
  | some "Unspecified" => .ok .unspecified
  | some "None" => .ok .none
  | some "Mean" => .ok .mean
  | some "Cls" => .ok .cls
  | some "Last" => .ok .last
  | some "Rank" => .ok .rank
  | _ => .error .validationError

/-- `Embedding.model_validate`. -/
def modelValidate (data : WireValue) : Except ParseError Embedding := do
  let components ← getAs WireValue.asArray "embedding" data
  if components.all WireValue.isNumber then
    return {
      components
      normalizationMethod := ← normalizationMethodValidate (← getItem "normalization_method" data)
      poolingType := ← poolingTypeValidate (← getItem "pooling_type" data)
      sourceDocumentId := ← getAs WireValue.asString "source_document_id" data }
  else .error .validationError

/-- `_parse_embedding_result`. -/
def parseEmbeddingResult : Handler := fun requestId data generatedBy =>
  match data with
  | .string "Done" => .ok { requestId, kind := .embeddingDone, generatedBy }
  | .string "EmbeddingRejectedDueToActiveTokenGeneration" =>
    .ok { requestId, kind := .embeddingRejectedDueToActiveTokenGeneration, generatedBy }
  | .string "NoEmbeddingsProduced" => .ok { requestId, kind := .embeddingNoEmbeddingsProduced, generatedBy }
  | _ =>
    match data.field "Embedding" with
    | some payload => do
      return { requestId, kind := .embedding, embeddingData := some (← modelValidate payload), generatedBy }
    | none =>
      match data.field "Error" with
      | some payload => do
        let message ← payloadString payload
        return { requestId, kind := .embeddingError, errorMessage := some message, generatedBy }
      | none => .error .valueError

/-! ## Envelopes -/

/-- `_parse_error_envelope`. -/
def parseErrorEnvelope (envelope : WireValue) : Except ParseError InferenceMessage := do
  let error ← getItem "error" envelope
  return {
    requestId := ← getAs WireValue.asString "request_id" envelope
    kind := .serverError
    errorCode := some (← getAs WireValue.asInteger "code" error)
    errorMessage := some (← getAs WireValue.asString "description" error) }

/-- `_parse_response`. -/
def parseResponse : Handler := fun requestId response generatedBy =>
  match response with
  | .string "Timeout" => .ok { requestId, kind := .timeout, generatedBy }
  | .string "TooManyBufferedRequests" =>
    .ok { requestId, kind := .tooManyBufferedRequests, generatedBy }
  | .string _ => .error .valueError
  | _ =>
    match response.field "GeneratedToken" with
    | some payload => parseGeneratedTokenResult requestId payload generatedBy
    | none =>
      match response.field "Embedding" with
      | some payload => parseEmbeddingResult requestId payload generatedBy
      | none => .error .valueError

def parseInferenceClientMessage (data : WireValue) : Except ParseError InferenceMessage :=
  match data with
  | .object _ =>
    match data.field "Error" with
    | some envelope => parseErrorEnvelope envelope
    | none =>
      match data.field "Response" with
      | some envelope => do
        parseResponse (← getAs WireValue.asString "request_id" envelope)
          (← getItem "response" envelope)
          ((envelope.field "generated_by").bind WireValue.asString)
      | none => .error .valueError
  | _ => .error .typeError

/-! ## What the decoder makes of a message of the balancer -/

theorem toolCallFromDict_toWire (call : ParsedToolCall) :
    toolCallFromDict call.toWire = .ok (decodedToolCall call) := by
  obtain ⟨id, name, arguments⟩ := call
  cases arguments <;> rfl

theorem buildToolCallParsedMessage_toWire (requestId : String) (calls : List ParsedToolCall)
    (generatedBy : Option String) :
    buildToolCallParsedMessage requestId (.array (calls.map ParsedToolCall.toWire)) generatedBy =
      .ok { requestId, kind := .toolCallParsed, parsedToolCalls := some (calls.map decodedToolCall),
            generatedBy } := by
  have hcalls := mapM_map toolCallFromDict_toWire calls
  simp only [buildToolCallParsedMessage, payloadList, WireValue.asArray, bind, Except.bind, hcalls]
  rfl

theorem buildToolCallValidationFailedMessage_toWire (requestId : String) (messages : List String)
    (generatedBy : Option String) :
    buildToolCallValidationFailedMessage requestId (.array (messages.map WireValue.string)) generatedBy =
      .ok { requestId, kind := .toolCallValidationFailed, errorMessage := some ("; ".intercalate messages),
            generatedBy } := by
  have hread : ∀ message, payloadString (.string message) = .ok (id message) := fun _ => rfl
  have hmessages := mapM_map hread messages
  rw [List.map_id] at hmessages
  simp only [buildToolCallValidationFailedMessage, payloadList, WireValue.asArray, bind, Except.bind,
    hmessages]
  rfl

/-- What a result of the decoder is. -/
abbrev ReadAs (requestId : String) (isDone misread : Bool)
    (result : Except ParseError InferenceMessage) :
    Prop :=
  DecodesAs InferenceMessage.requestId InferenceMessage.isTerminal requestId isDone misread result

/-- The decoder has no entry for the variant. -/
def isUndecoded : GeneratedTokenResult → Bool
  | .detokenizationFailed _ | .tokenGenerationDisabled _ | .toolSchemaInvalid _ => true
  | _ => false

/-- The variant is taken for the last one, though more follows. -/
def endsEarly : GeneratedTokenResult → Bool
  | .toolCallParsed _ | .toolCallParseFailed _ | .toolCallValidationFailed _
  | .unrecognizedToolCallFormat _ => true
  | _ => false

/-- The decoder has no entry for the variant, or a component is not a number. -/
def isUndecodedEmbedding : EmbeddingResult → Bool
  | .documentExceedsBatchSize _ | .embeddingsDisabled => true
  | .embedding vector => !vector.embedding.all f32IsFinite
  | _ => false

/-- The client does not read the message as the balancer means it. -/
def isMisread : Paddler.InferenceMessage → Bool
  | .response _ _ (.generatedToken token) => isUndecoded token || endsEarly token
  | .response _ _ (.embedding result) => isUndecodedEmbedding result
  | _ => false

theorem parseGeneratedTokenResult_toWire (requestId : String) (token : GeneratedTokenResult)
    (generatedBy : Option String) :
    ReadAs requestId token.isDone (isUndecoded token || endsEarly token)
      (parseGeneratedTokenResult requestId token.toWire generatedBy) := by
  cases token
  case toolCallParsed calls =>
    show ReadAs requestId false true (buildToolCallParsedMessage requestId _ generatedBy)
    rw [buildToolCallParsedMessage_toWire]
    exact decodesAs_ok rfl rfl
  case toolCallValidationFailed messages =>
    show ReadAs requestId false true (buildToolCallValidationFailedMessage requestId _ generatedBy)
    rw [buildToolCallValidationFailedMessage_toWire]
    exact decodesAs_ok rfl rfl
  case detokenizationFailed | tokenGenerationDisabled | toolSchemaInvalid => exact decodesAs_error
  all_goals exact decodesAs_ok rfl rfl

theorem isNumber_f32Wire (bits : UInt32) : (f32Wire bits).isNumber = f32IsFinite bits := by
  unfold f32Wire
  split
  next h => exact h.symm
  next h => exact (Bool.eq_false_iff.mpr h).symm

/-- Every normalization method is read: an epsilon that is no number is left out. -/
theorem normalizationMethodValidate_toWire (method : EmbeddingNormalizationMethod) :
    ∃ read, normalizationMethodValidate method.toWire = .ok read := by
  cases method with
  | l2 => exact ⟨_, rfl⟩
  | none => exact ⟨_, rfl⟩
  | rmsNorm epsilon =>
    cases hfinite : f32IsFinite epsilon with
    | true =>
      have hwire : f32Wire epsilon = .float epsilon := if_pos hfinite
      rw [EmbeddingNormalizationMethod.toWire, hwire]
      exact ⟨_, rfl⟩
    | false =>
      have hwire : f32Wire epsilon = .null := if_neg (by simp [hfinite])
      rw [EmbeddingNormalizationMethod.toWire, hwire]
      exact ⟨_, rfl⟩

theorem poolingTypeValidate_toWire (poolingType : PoolingType) :
    poolingTypeValidate poolingType.toWire = .ok poolingType := by
  cases poolingType <;> rfl

/-- A vector is read if and only if its components are numbers. -/
theorem modelValidate_toWire (vector : Paddler.Embedding) :
    (∃ read, modelValidate vector.toWire = .ok read) ↔ vector.embedding.all f32IsFinite = true := by
  have hcomponents :
      (vector.embedding.map f32Wire).all WireValue.isNumber = vector.embedding.all f32IsFinite := by
    rw [List.all_map]
    exact List.all_congr rfl isNumber_f32Wire
  obtain ⟨method, hmethod⟩ := normalizationMethodValidate_toWire vector.normalizationMethod
  have hread : modelValidate vector.toWire =
      if vector.embedding.all f32IsFinite = true then
        .ok {
          components := vector.embedding.map f32Wire
          normalizationMethod := method
          poolingType := vector.poolingType
          sourceDocumentId := vector.sourceDocumentId }
      else .error .validationError := by
    have hunfold : modelValidate vector.toWire =
        if (vector.embedding.map f32Wire).all WireValue.isNumber = true then do
          return {
            components := vector.embedding.map f32Wire
            normalizationMethod := ← normalizationMethodValidate vector.normalizationMethod.toWire
            poolingType := ← poolingTypeValidate vector.poolingType.toWire
            sourceDocumentId := vector.sourceDocumentId }
        else .error .validationError := rfl
    rw [hunfold, hcomponents, hmethod, poolingTypeValidate_toWire]
    rfl
  rw [hread]
  constructor
  · rintro ⟨read, h⟩
    by_contra hall
    rw [if_neg hall] at h
    cases h
  · intro hall
    exact ⟨_, if_pos hall⟩

theorem parseEmbeddingResult_toWire (requestId : String) (result : EmbeddingResult)
    (generatedBy : Option String) :
    ReadAs requestId result.isDone (isUndecodedEmbedding result)
      (parseEmbeddingResult requestId result.toWire generatedBy) := by
  cases result
  case embedding vector =>
    have hread : parseEmbeddingResult requestId (EmbeddingResult.embedding vector).toWire
        generatedBy = (modelValidate vector.toWire).bind fun read =>
          .ok { requestId, kind := .embedding, embeddingData := some read, generatedBy } := rfl
    have hvalid := modelValidate_toWire vector
    rw [hread, isUndecodedEmbedding]
    cases hvalidated : modelValidate vector.toWire with
    | ok read =>
      rw [hvalid.mp ⟨read, hvalidated⟩]
      exact decodesAs_ok rfl rfl
    | error e =>
      have hall : vector.embedding.all f32IsFinite = false := by
        by_contra hall
        obtain ⟨read, hok⟩ := hvalid.mpr (by simpa using hall)
        rw [hvalidated] at hok
        cases hok
      rw [hall]
      exact decodesAs_error
  case documentExceedsBatchSize | embeddingsDisabled => exact decodesAs_error
  all_goals exact decodesAs_ok rfl rfl

theorem parseInferenceClientMessage_response (generatedBy : Option String) (requestId : String)
    (response : OutgoingResponse) :
    parseInferenceClientMessage
      (Paddler.InferenceMessage.response generatedBy requestId response).toWire =
        parseResponse requestId response.toWire generatedBy := by
  cases generatedBy <;> rfl

/-- **What the decoder makes of a message.** -/
theorem parse_toWire {message : Paddler.InferenceMessage} {scope : RequestScopedMessage}
    (hscope : message.scope = some scope) :
    ReadAs scope.requestId scope.isDone (isMisread message)
      (parseInferenceClientMessage message.toWire) := by
  cases message with
  | error requestId failure =>
    cases hscope
    exact decodesAs_ok rfl rfl
  | notification mode => cases hscope
  | response generatedBy requestId response =>
    cases hscope
    rw [parseInferenceClientMessage_response]
    cases response with
    | embedding result => exact parseEmbeddingResult_toWire requestId result generatedBy
    | generatedToken token => exact parseGeneratedTokenResult_toWire requestId token generatedBy
    | timeout | tooManyBufferedRequests => exact decodesAs_ok rfl rfl

end Paddler.PythonClient
