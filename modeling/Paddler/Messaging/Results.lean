/-!
# Streamed results of the agent

Model of `paddler_messaging`: the results an agent streams back for one request
(`generated_token_result.rs`, `embedding_result.rs`) with the tests `is_token` and `is_done`
that every consumer of a stream relies on.

Embedding vectors are lists of `f32` bit patterns: no modelled function looks inside one.
-/

set_option autoImplicit false

namespace Paddler

/-- `llama_cpp_bindings_types::TokenUsage` (every counter is a `u64`). -/
structure TokenUsage where
  promptTokens : Nat
  cachedPromptTokens : Nat
  inputImageTokens : Nat
  inputAudioTokens : Nat
  contentTokens : Nat
  reasoningTokens : Nat
  toolCallTokens : Nat
  undeterminableTokens : Nat
  deriving DecidableEq, Repr

def TokenUsage.new : TokenUsage := ⟨0, 0, 0, 0, 0, 0, 0, 0⟩

/-- `generation_summary.rs`. -/
structure GenerationSummary where
  usage : TokenUsage
  deriving DecidableEq, Repr

/-- `oversized_image_details.rs`. -/
structure OversizedImageDetails where
  imageTokens : Nat
  nBatch : Int
  deriving DecidableEq, Repr

/-- `raw_tool_call_tokens.rs`. -/
structure RawToolCallTokens where
  text : String
  ffiErrorMessage : String
  deriving DecidableEq, Repr

/-- `llama_cpp_bindings_types::ToolCallArguments`; a JSON value is kept as its text. -/
inductive ToolCallArguments where
  | validJson (value : String)
  | invalidJson (text : String)
  deriving DecidableEq, Repr

structure ParsedToolCall where
  id : String
  name : String
  arguments : ToolCallArguments
  deriving DecidableEq, Repr

/-- `generated_token_result.rs`. -/
inductive GeneratedTokenResult where
  | chatTemplateError (message : String)
  | contentToken (text : String)
  | detokenizationFailed (message : String)
  | done (summary : GenerationSummary)
  | grammarIncompatibleWithThinking (message : String)
  | grammarInitializationFailed (message : String)
  | grammarRejectedModelOutput (message : String)
  | grammarSyntaxError (message : String)
  | imageDecodingFailed (message : String)
  | imageExceedsBatchSize (details : OversizedImageDetails)
  | multimodalNotSupported (message : String)
  | reasoningToken (text : String)
  | samplerError (message : String)
  | tokenGenerationDisabled (message : String)
  | toolCallParseFailed (message : String)
  | toolCallParsed (calls : List ParsedToolCall)
  | toolCallToken (text : String)
  | toolCallValidationFailed (messages : List String)
  | toolSchemaInvalid (message : String)
  | undeterminableToken (text : String)
  | unrecognizedToolCallFormat (raw : RawToolCallTokens)
  deriving DecidableEq, Repr

namespace GeneratedTokenResult

def isToken : GeneratedTokenResult → Bool
  | contentToken _ | reasoningToken _ | toolCallToken _ | undeterminableToken _ => true
  | _ => false

/-- `StreamableResult::is_done` for generated tokens: the terminal results. -/
def isDone : GeneratedTokenResult → Bool
  | chatTemplateError _ | detokenizationFailed _ | done _ | grammarIncompatibleWithThinking _
  | grammarInitializationFailed _ | grammarRejectedModelOutput _ | grammarSyntaxError _
  | imageDecodingFailed _ | imageExceedsBatchSize _ | multimodalNotSupported _
  | samplerError _ | tokenGenerationDisabled _ | toolSchemaInvalid _ => true
  | _ => false

/-- A terminal result other than `Done`. -/
def isFailure (result : GeneratedTokenResult) : Bool :=
  match result with
  | done _ => false
  | _ => result.isDone

theorem isDone_of_isFailure {r : GeneratedTokenResult} (h : r.isFailure = true) :
    r.isDone = true := by
  cases r <;> first | rfl | cases h

theorem isDone_of_isToken {r : GeneratedTokenResult} (h : r.isToken = true) : r.isDone = false := by
  cases r <;> first | rfl | cases h

end GeneratedTokenResult

/-- `pooling_type.rs`. -/
inductive PoolingType where
  | unspecified
  | none
  | mean
  | cls
  | last
  | rank
  deriving DecidableEq, Repr

/-- `embedding_normalization_method.rs`; `epsilon` is an `f32` bit pattern. -/
inductive EmbeddingNormalizationMethod where
  | l2
  | none
  | rmsNorm (epsilon : UInt32)
  deriving DecidableEq, Repr

/-- `embedding.rs`. -/
structure Embedding where
  embedding : List UInt32
  normalizationMethod : EmbeddingNormalizationMethod
  poolingType : PoolingType
  sourceDocumentId : String
  deriving DecidableEq, Repr

/-- `oversized_embedding_document_details.rs`. -/
structure OversizedEmbeddingDocumentDetails where
  documentTokens : Nat
  nBatch : Nat
  sourceDocumentId : String
  deriving DecidableEq, Repr

/-- `embedding_result.rs`. -/
inductive EmbeddingResult where
  | documentExceedsBatchSize (details : OversizedEmbeddingDocumentDetails)
  | done
  | embedding (embedding : Embedding)
  | embeddingsDisabled
  | error (message : String)
  | embeddingRejectedDueToActiveTokenGeneration
  | noEmbeddingsProduced
  deriving DecidableEq, Repr

/-- `StreamableResult::is_done` for embeddings. -/
def EmbeddingResult.isDone : EmbeddingResult → Bool
  | .done | .embeddingsDisabled | .error _ | .embeddingRejectedDueToActiveTokenGeneration
  | .noEmbeddingsProduced => true
  | _ => false

end Paddler
