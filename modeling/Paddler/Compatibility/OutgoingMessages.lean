import Paddler.Balancer.RequestFromAgent
import Paddler.Library.Json

/-!
# Messages of a request, and which of them are errors

Model of `inference_client/message.rs`, `inference_client/response.rs`, and of `openai_error.rs`,
`responses_error.rs` and `try_universal_error_chunk.rs`, which decide what the OpenAI endpoints
report as an error.

* `IsRequestStream` — the messages of one request: results that are not terminal, and then at most
  one message that ends the request; `delivered_isRequestStream` — what `request_from_agent.rs`
  delivers is of this form.
* `errorOf_eq_none_iff` — a result is no error if it is a token, a parsed tool call, or the end.
* `endsRequest_cases` — a message that ends a request is an error or the end.
* `Answers` — the messages of a request that is answered without an error.
-/

set_option autoImplicit false

namespace Paddler

open Run

/-! ## Messages -/

/-- `inference_client::notification::Notification`. -/
inductive InferenceNotification where
  | tokenGenerationDisabled
  | tokenGenerationEnabled
  deriving DecidableEq, Repr

/-- `inference_client::response::Response`. -/
inductive OutgoingResponse where
  | embedding (result : EmbeddingResult)
  | generatedToken (token : GeneratedTokenResult)
  | timeout
  | tooManyBufferedRequests
  deriving DecidableEq, Repr

/-- `inference_client::message::Message`, with the fields of its envelopes. -/
inductive InferenceMessage where
  | error (requestId : String) (error : JsonRpcError)
  | notification (notification : InferenceNotification)
  | response (generatedBy : Option String) (requestId : String) (response : OutgoingResponse)
  deriving DecidableEq, Repr

namespace InferenceMessage

/-- The result that a message carries. -/
def token : InferenceMessage → Option GeneratedTokenResult
  | .response _ _ (.generatedToken token) => some token
  | _ => none

/-- Nothing comes after the message. -/
def endsRequest : InferenceMessage → Bool
  | .error _ _ | .response _ _ .timeout | .response _ _ .tooManyBufferedRequests => true
  | .response _ _ (.generatedToken token) => token.isDone
  | .response _ _ (.embedding _) | .notification _ => false

end InferenceMessage

/-- The message is a result, and not the last one. -/
def InferenceMessage.IsUnfinished (message : InferenceMessage) : Prop :=
  ∃ token, message.token = some token ∧ token.isDone = false

/-- The messages of one request, complete or not. -/
def IsRequestStream (messages : List InferenceMessage) : Prop :=
  ∃ results ending, messages = results ++ ending ∧ (∀ m ∈ results, m.IsUnfinished) ∧
    (ending = [] ∨ ∃ m, ending = [m] ∧ m.endsRequest = true)

theorem IsRequestStream.split {before after : List InferenceMessage} {message : InferenceMessage}
    (h : IsRequestStream (before ++ message :: after)) :
    (∀ m ∈ before, m.IsUnfinished) ∧
      ∀ m ∈ message :: after, m.IsUnfinished ∨ m.endsRequest = true := by
  obtain ⟨results, ending, heq, hresults, hending⟩ := h
  constructor
  · intro m hm
    rcases hending with rfl | ⟨e, rfl, -⟩
    · refine hresults m ?_
      rw [← List.append_nil results, ← heq]
      exact List.mem_append_left _ hm
    · have hfirst : (before ++ message :: after).dropLast = results := by
        rw [heq]
        exact List.dropLast_concat
      refine hresults m ?_
      rw [← hfirst, List.dropLast_append_of_ne_nil (List.cons_ne_nil _ _)]
      exact List.mem_append_left _ hm
  · intro m hm
    have hmem : m ∈ results ++ ending := by
      rw [← heq]
      exact List.mem_append_right _ hm
    rcases List.mem_append.mp hmem with hold | hlast
    · exact Or.inl (hresults m hold)
    · rcases hending with rfl | ⟨e, rfl, he⟩
      · cases hlast
      · rw [List.mem_singleton.mp hlast]
        exact Or.inr he

structure OpenAIError where
  errorType : String
  message : String
  deriving DecidableEq, Repr

def validationFailureMessage (errors : List String) : String :=
  errors.head?.getD "tool call failed validation"

def unrecognizedToolCallFormatMessage (raw : RawToolCallTokens) : String :=
  "model produced output the parser did not recognise as any registered tool-call format; FFI error: " ++
    raw.ffiErrorMessage ++ "; raw text: " ++ raw.text

def imageExceedsBatchSizeMessage (details : OversizedImageDetails) : String :=
  "image required " ++ toString details.imageTokens ++ " tokens but agent n_batch is " ++
    toString details.nBatch ++ "; rerun with a larger n_batch"

def descriptionFromErrorToken : GeneratedTokenResult → Option String
  | .chatTemplateError description | .detokenizationFailed description
  | .grammarIncompatibleWithThinking description | .grammarRejectedModelOutput description
  | .grammarInitializationFailed description | .grammarSyntaxError description
  | .imageDecodingFailed description | .multimodalNotSupported description
  | .samplerError description | .tokenGenerationDisabled description
  | .toolCallParseFailed description | .toolSchemaInvalid description => some description
  | _ => none

def serverErrorFromToken : GeneratedTokenResult → Option OpenAIError
  | .imageExceedsBatchSize details => some ⟨"server_error", imageExceedsBatchSizeMessage details⟩
  | .toolCallValidationFailed errors => some ⟨"server_error", validationFailureMessage errors⟩
  | .unrecognizedToolCallFormat raw => some ⟨"server_error", unrecognizedToolCallFormatMessage raw⟩
  | other => (descriptionFromErrorToken other).map fun description => ⟨"server_error", description⟩

namespace OpenAIError

def classify : InferenceMessage → Option OpenAIError
  | .error _ error => some ⟨"server_error", error.description⟩
  | .notification _ => none
  | .response _ _ (.generatedToken token) => serverErrorFromToken token
  | .response _ _ .timeout => some ⟨"timeout", "request timed out"⟩
  | .response _ _ .tooManyBufferedRequests =>
    some ⟨"rate_limit_error", "too many buffered requests"⟩
  | .response _ _ (.embedding _) => none

def toEnvelope (self : OpenAIError) : Json :=
  .object [("error", .object [("message", .string self.message), ("type", .string self.errorType),
    ("param", .null), ("code", .null)])]

end OpenAIError

/-- The check that `responses_error` and `try_universal_error_chunk` make before `classify`: an
embedding is an error, with a message that names the endpoint. -/
def errorOf (unexpectedEmbedding : String) (message : InferenceMessage) : Option OpenAIError :=
  match message with
  | .response _ _ (.embedding _) => some ⟨"invalid_request_error", unexpectedEmbedding⟩
  | message => OpenAIError.classify message

def responsesError (message : InferenceMessage) : Option OpenAIError :=
  errorOf "unexpected embedding response in responses" message

/-- The error of `try_universal_error_chunk`, before its envelope is put around it. -/
def universalError (message : InferenceMessage) : Option OpenAIError :=
  errorOf "unexpected embedding response in chat completions" message

/-! ## Which results are errors -/

namespace GeneratedTokenResult

/-- The results that a transformer takes as they are. -/
def isHandled : GeneratedTokenResult → Bool
  | contentToken _ | undeterminableToken _ | reasoningToken _ | toolCallToken _ | toolCallParsed _
  | done _ => true
  | _ => false

end GeneratedTokenResult

/-- **A result is handled or an error.** -/
theorem classify_token (token : GeneratedTokenResult) :
    (serverErrorFromToken token).isSome = !token.isHandled := by
  cases token <;> rfl

section

variable {message : InferenceMessage} {token : GeneratedTokenResult}

theorem token_cases (htoken : message.token = some token) :
    ∃ generatedBy requestId, message = .response generatedBy requestId (.generatedToken token) := by
  unfold InferenceMessage.token at htoken
  split at htoken
  · rw [Option.some.injEq] at htoken
    exact ⟨_, _, by rw [htoken]⟩
  · cases htoken

/-- **A result that a transformer takes as it is, is no error**, and every other one is. -/
theorem errorOf_eq_none_iff (unexpectedEmbedding : String) (htoken : message.token = some token) :
    errorOf unexpectedEmbedding message = none ↔ token.isHandled = true := by
  obtain ⟨generatedBy, requestId, rfl⟩ := token_cases htoken
  show serverErrorFromToken token = none ↔ _
  rw [← Option.isNone_iff_eq_none, ← Option.not_isSome, Bool.not_eq_true', classify_token,
    Bool.not_eq_false']

/-- **A message that ends a request is an error or the end.** -/
theorem endsRequest_cases (unexpectedEmbedding : String) (h : message.endsRequest = true) :
    (∃ error, errorOf unexpectedEmbedding message = some error) ∨
      ∃ generatedBy requestId summary,
        message = .response generatedBy requestId (.generatedToken (.done summary)) := by
  unfold InferenceMessage.endsRequest at h
  split at h
  · exact Or.inl ⟨_, rfl⟩
  · exact Or.inl ⟨_, rfl⟩
  · exact Or.inl ⟨_, rfl⟩
  · rename_i generatedBy requestId token
    cases token with
    | done summary => exact Or.inr ⟨_, _, summary, rfl⟩
    | contentToken text => cases h
    | undeterminableToken text => cases h
    | reasoningToken text => cases h
    | toolCallToken text => cases h
    | toolCallParsed calls => cases h
    | _ => exact Or.inl ⟨_, rfl⟩
  · cases h
  · cases h

end

/-! ## What a result adds -/

/-- What a result adds to the output. -/
inductive OutputPiece where
  | reasoning (text : String)
  | content (text : String)
  | toolCalls (calls : List ParsedToolCall)
  deriving DecidableEq, Repr

/-- The piece of a result, if it adds one. -/
def GeneratedTokenResult.piece : GeneratedTokenResult → Option OutputPiece
  | .contentToken text | .undeterminableToken text => some (.content text)
  | .reasoningToken text => some (.reasoning text)
  | .toolCallParsed calls => some (.toolCalls calls)
  | _ => none

namespace OutputPiece

/-- The reasoning in a piece. -/
def reasoningText : OutputPiece → Option String
  | .reasoning text => some text
  | _ => none

/-- The content in a piece. -/
def contentText : OutputPiece → Option String
  | .content text => some text
  | _ => none

/-- The calls in a piece. -/
def calls : OutputPiece → List ParsedToolCall
  | .toolCalls calls => calls
  | _ => []

end OutputPiece

/-- The calls in a result. -/
def GeneratedTokenResult.calls (token : GeneratedTokenResult) : List ParsedToolCall :=
  (token.piece.map (·.calls)).getD []

/-- The content in a result. -/
def GeneratedTokenResult.contentText (token : GeneratedTokenResult) : Option String :=
  token.piece.bind (·.contentText)

/-- What the message adds to the output. -/
def InferenceMessage.piece (message : InferenceMessage) : Option OutputPiece :=
  message.token.bind (·.piece)

/-- The content in a message. -/
def InferenceMessage.contentText (message : InferenceMessage) : Option String :=
  message.piece.bind (·.contentText)

/-- The calls in a message. -/
def InferenceMessage.calls (message : InferenceMessage) : List ParsedToolCall :=
  (message.piece.map (·.calls)).getD []

/-- Messages that carry results have the calls of the results. -/
theorem calls_of_tokens {messages : List InferenceMessage} {results : List GeneratedTokenResult}
    (h : messages.map (·.token) = results.map some) :
    messages.map (·.calls) = results.map (·.calls) := by
  have hcalls := congrArg (List.map fun token => ((token.bind (·.piece)).map (·.calls)).getD []) h
  rw [List.map_map, List.map_map] at hcalls
  exact hcalls

theorem contents_of_tokens {messages : List InferenceMessage} {results : List GeneratedTokenResult}
    (h : messages.map (·.token) = results.map some) :
    messages.filterMap (·.contentText) = results.filterMap (·.contentText) := by
  have hcontents := congrArg (List.filterMap fun token =>
    (token.bind (·.piece)).bind (·.contentText)) h
  rw [List.filterMap_map, List.filterMap_map] at hcontents
  exact hcontents

/-! ## Messages without an error -/

/-- The messages carry these results, none of them an error, and then the end. -/
structure Answers (messages : List InferenceMessage) (results : List GeneratedTokenResult)
    (summary : GenerationSummary) : Prop where
  tokens : messages.map (·.token) = (results ++ [GeneratedTokenResult.done summary]).map some
  handled : ∀ token ∈ results, token.isHandled = true ∧ token.isDone = false

theorem Answers.split {messages : List InferenceMessage} {results : List GeneratedTokenResult}
    {summary : GenerationSummary} (h : Answers messages results summary) :
    ∃ before last, messages = before ++ [last] ∧ before.map (·.token) = results.map some ∧
      last.token = some (.done summary) := by
  have htokens := h.tokens
  rw [List.map_append] at htokens
  obtain ⟨before, ending, rfl, hbefore, hending⟩ := List.map_eq_append_iff.mp htokens
  obtain ⟨last, rest, rfl, hlast, hrest⟩ := List.map_eq_cons_iff.mp hending
  rw [List.map_eq_nil_iff.mp hrest]
  exact ⟨before, last, rfl, hbefore, hlast⟩

end Paddler
