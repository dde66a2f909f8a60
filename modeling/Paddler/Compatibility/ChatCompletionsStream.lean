import Paddler.Compatibility.ChatCompletionsAgreement

/-!
# The structure of a chat completions stream

What a client may rely on in the body of one request: chunks with content or tool calls, one ending,
and then `[DONE]`.  The ending is a finish chunk, with a usage chunk if it was asked for, or an
error; and it is an error exactly if the request is answered with that error when it is not
streamed.

A failure of a tool call is an error for both transformers but does not end the request, so the
ending of the request comes after it.

* `IsEnding`, `WellFormedBody`, `ErrorsAgree` — what a client may rely on.
* `values_streamed` — the body of a request: what its results add, and then what the last message
  adds.
* `chat_completions_stream` — **it holds if and only if** no message before the last is an error.
-/

set_option autoImplicit false

namespace Paddler

/-! ## What a client may rely on -/

/-- A chunk with content or tool calls, and no finish reason. -/
def isDelta (chunk : Json) : Bool :=
  ((deltaContent chunk).isSome || !(deltaToolCalls chunk).isEmpty) && (finishReasonOf chunk).isNone

/-- A chunk with a finish reason. -/
def isFinish (chunk : Json) : Bool :=
  (finishReasonOf chunk).isSome

/-- A chunk with the usage, and no choice. -/
def isUsage (chunk : Json) : Bool :=
  (choiceOf chunk).isNone && (chunk.field "usage").isSome

/-- The message of an error object. -/
def errorMessageOf (body : Json) : Option String :=
  ((body.field "error").bind (·.field "message")).bind (·.asString)

/-- A finish chunk, with a usage chunk if it was asked for, or an error. -/
def isEnding (includeUsage : Bool) : List Json → Bool
  | [last] => (errorMessageOf last).isSome || isFinish last && !includeUsage
  | [finish, usage] => isFinish finish && isUsage usage && includeUsage
  | _ => false

/-- Chunks with content or tool calls, one ending, and then `[DONE]`. -/
def WellFormedBody (includeUsage : Bool) (body : List SseData) : Prop :=
  ∃ chunks ending, body = (chunks ++ ending).map .json ++ [.done] ∧
    (∀ chunk ∈ chunks, isDelta chunk = true) ∧
    isEnding includeUsage ending = true

/-- The body ends with an error if and only if the request is answered with one otherwise, and with
the same. -/
def ErrorsAgree (body : List SseData) (response : HttpResponse) : Prop :=
  (body.filterMap (·.value)).getLast?.bind errorMessageOf = errorMessageOf response.body

/-! ## The last message -/

section

variable [TokenTotals] (streaming : OpenAIStreamingResponseTransformer)
  (collecting : OpenAINonStreamingResponseTransformer)

theorem forwarded_streaming_error {message : InferenceMessage} {error : OpenAIError}
    (h : universalError message = some error) (state : OpenAIStreamingState) :
    forwarded streaming.transform state [message] = [.error error.toEnvelope] := by
  have htransform : streaming.transform state message = .ok (state, [.error error.toEnvelope]) := by
    unfold OpenAIStreamingResponseTransformer.transform
    rw [h]
  exact forwarded_last htransform

theorem forwarded_collecting_error {message : InferenceMessage} {error : OpenAIError}
    (h : universalError message = some error) (state : OpenAINonStreamingState) :
    forwarded collecting.transform state [message] = [.error error.toEnvelope] := by
  have htransform : collecting.transform state message =
      .ok (state, [.error error.toEnvelope]) := by
    unfold OpenAINonStreamingResponseTransformer.transform
    rw [h]
  exact forwarded_last htransform

/-- **The last message** is an ending, and an error exactly if it is answered with that error. -/
theorem last_isEnding {last : InferenceMessage} (h : last.endsRequest = true)
    (state : OpenAIStreamingState) (state' : OpenAINonStreamingState) :
    let values := (forwarded streaming.transform state [last]).filterMap (·.sent)
    isEnding streaming.includeUsage values = true ∧ values.getLast?.bind errorMessageOf =
      errorMessageOf (collectedResponse (forwarded collecting.transform state' [last])).body := by
  have hlast : (∃ error, universalError last = some error) ∨ _ := endsRequest_cases _ h
  rcases hlast with ⟨error, herror⟩ | ⟨generatedBy, requestId, summary, rfl⟩
  · rw [forwarded_streaming_error streaming herror, forwarded_collecting_error collecting herror]
    exact ⟨rfl, rfl⟩
  · have hstreamed : forwarded streaming.transform state
        [.response generatedBy requestId (.generatedToken (.done summary))] =
          streaming.handleDone requestId state summary := forwarded_last rfl
    rw [hstreamed]
    unfold OpenAIStreamingResponseTransformer.handleDone
    cases streaming.includeUsage with
    | true => exact ⟨rfl, rfl⟩
    | false => exact ⟨rfl, rfl⟩

/-! ## Messages before the last -/

/-- A message before the last that is no error adds chunks with content or tool calls. -/
theorem unfinished_isDelta {message : InferenceMessage} (h : message.IsUnfinished)
    (herror : universalError message = none) :
    ∀ chunk ∈ (streaming.unfinishedResults message).filterMap (·.sent), isDelta chunk = true := by
  obtain ⟨token, htoken, hdone⟩ := h
  have hhandled := (errorOf_eq_none_iff _ htoken).mp herror
  obtain ⟨generatedBy, requestId, rfl⟩ := token_cases htoken
  cases token with
  | contentToken text =>
    intro chunk hchunk
    rw [List.mem_singleton.mp hchunk]
    rfl
  | undeterminableToken text =>
    intro chunk hchunk
    rw [List.mem_singleton.mp hchunk]
    rfl
  | reasoningToken text => exact fun chunk hchunk => by cases hchunk
  | toolCallToken text => exact fun chunk hchunk => by cases hchunk
  | toolCallParsed calls =>
    cases calls with
    | nil => exact fun chunk hchunk => by cases hchunk
    | cons call calls =>
      intro chunk hchunk
      rw [List.mem_singleton.mp hchunk]
      unfold isDelta
      rw [deltaToolCalls_toolCallsChunk, List.map_cons, MergeByIndex.indexed_cons]
      rfl
  | done summary => cases hdone
  | _ => cases hhandled

theorem unfinished_error {message : InferenceMessage} {error : OpenAIError}
    (h : universalError message = some error) :
    streaming.unfinishedResults message = [.error error.toEnvelope] := by
  unfold OpenAIStreamingResponseTransformer.unfinishedResults
    OpenAIStreamingResponseTransformer.transform
  rw [h]
  rfl

omit [TokenTotals] in
theorem body_eq_map (results : List TransformResult) :
    chatCompletionsSseResponse results = (results.filterMap (·.sent)).map .json ++ [.done] := by
  unfold chatCompletionsSseResponse
  rw [List.map_filterMap]
  refine congrArg (fun f => results.filterMap f ++ _) (funext fun result => ?_)
  cases result with
  | chunk body => rfl
  | discard => rfl
  | error body => rfl

omit [TokenTotals] in
/-- An error that is not the last thing before `[DONE]` is not an ending. -/
theorem not_wellFormed_of_error {includeUsage : Bool} (before : List Json) (error : OpenAIError)
    {after : List Json} (hafter : after ≠ []) :
    ¬ WellFormedBody includeUsage ((before ++ error.toEnvelope :: after).map .json ++ [.done]) := by
  rintro ⟨chunks, ending, heq, hchunks, hending⟩
  have hjson : before ++ error.toEnvelope :: after = chunks ++ ending := by
    have hvalues := congrArg (List.filterMap (·.value)) heq
    simpa [List.filterMap_append, List.filterMap_map, Function.comp_def,
      SseData.value] using hvalues
  obtain ⟨next, rest, rfl⟩ := List.exists_cons_of_ne_nil hafter
  rcases List.append_eq_append_iff.mp hjson with ⟨more, rfl, hrest⟩ | ⟨more, rfl, hrest⟩
  · cases more with
    | nil =>
      -- the error would begin the ending
      rw [← show error.toEnvelope :: next :: rest = ending from hrest] at hending
      cases rest with
      | nil => cases hending
      | cons other rest => cases hending
    | cons chunk more =>
      rw [List.cons_append, List.cons.injEq] at hrest
      have hdelta := hchunks chunk (List.mem_append_right _ (List.mem_cons_self ..))
      rw [← hrest.1] at hdelta
      cases hdelta
  · rw [hrest] at hending
    cases more with
    | nil =>
      cases rest with
      | nil => cases hending
      | cons other rest => cases hending
    | cons first more =>
      cases more with
      | nil => cases hending
      | cons second more =>
        cases more with
        | nil => cases hending
        | cons third more => cases hending

/-! ## The request -/

/-- **The body has its structure, and its error is the one of the request when it is not streamed,
if and only if** no message before the last is an error. -/
theorem chat_completions_stream (messages : List InferenceMessage) (last : InferenceMessage)
    (hunfinished : ∀ m ∈ messages, m.IsUnfinished) (hlast : last.endsRequest = true) :
    (WellFormedBody streaming.includeUsage
        (chatCompletionsSseResponse (streamedResults streaming (messages ++ [last]))) ∧
      ErrorsAgree (chatCompletionsSseResponse (streamedResults streaming (messages ++ [last])))
        (collectedResponse (collectedResults collecting (messages ++ [last])))) ↔
      ∀ m ∈ messages, universalError m = none := by
  have hstreamed : streamedResults streaming (messages ++ [last]) =
      messages.flatMap streaming.unfinishedResults ++ forwarded streaming.transform _ [last] :=
    streaming.forwarded_unfinished messages [last] hunfinished ⟨false⟩
  have hcollected : collectedResults collecting (messages ++ [last]) =
      messages.flatMap OpenAINonStreamingResponseTransformer.errorResults ++
        forwarded collecting.transform _ [last] :=
    collecting.forwarded_unfinished messages [last] hunfinished ⟨"", []⟩
  obtain ⟨hending, herrors⟩ := last_isEnding streaming collecting hlast
    ⟨false || messages.any fun m => !m.calls.isEmpty⟩
    ⟨"" ++ String.join (messages.filterMap (·.contentText)), [] ++ messages.flatMap (·.calls)⟩
  have hvalues : (forwarded streaming.transform ⟨false || messages.any fun m => !m.calls.isEmpty⟩
      [last]).filterMap (·.sent) ≠ [] := by
    intro hnil
    rw [hnil] at hending
    cases hending
  unfold ErrorsAgree
  rw [values_chatCompletionsSseResponse, body_eq_map, hstreamed, hcollected, List.filterMap_append]
  constructor
  · rintro ⟨hbody, -⟩ m hm
    cases herror : universalError m with
    | none => rfl
    | some error =>
      obtain ⟨before, after, rfl⟩ := List.append_of_mem hm
      rw [List.flatMap_append, List.flatMap_cons, unfinished_error streaming herror,
        List.filterMap_append, List.append_assoc] at hbody
      exact absurd hbody (not_wellFormed_of_error _ error
        (List.append_ne_nil_of_right_ne_nil _ hvalues))
  · intro hnone
    refine ⟨⟨_, _, rfl, fun chunk hchunk => ?_, hending⟩, ?_⟩
    · obtain ⟨result, hresult, hsent⟩ := List.mem_filterMap.mp hchunk
      obtain ⟨m, hm, hmem⟩ := List.mem_flatMap.mp hresult
      exact unfinished_isDelta streaming (hunfinished m hm) (hnone m hm) chunk
        (List.mem_filterMap.mpr ⟨result, hmem, hsent⟩)
    · rw [OpenAINonStreamingResponseTransformer.errorResults_eq_nil hnone,
        List.nil_append, ← herrors, List.getLast?_append, List.getLast?_eq_some_getLast hvalues]
      rfl

end

section

attribute [local instance] TokenTotals.counted

theorem chat_completions_stream_answeredWithTool :
    let messages := answeredWithTool.dropLast ++ [tokenMessage (.done ⟨.new⟩)]
    WellFormedBody true (chatCompletionsSseResponse (streamedResults streamingWithUsage messages)) ∧
      ErrorsAgree (chatCompletionsSseResponse (streamedResults streamingWithUsage messages))
        (collectedResponse (collectedResults ⟨0, "model"⟩ messages)) := by
  have hstream : IsRequestStream (answeredWithTool.dropLast ++ [tokenMessage (.done ⟨.new⟩)]) :=
    isRequestStream_answeredWithTool
  exact (chat_completions_stream streamingWithUsage ⟨0, "model"⟩ answeredWithTool.dropLast
    (tokenMessage (.done ⟨.new⟩)) hstream.split.1 rfl).mpr (by decide)

/-- **A tool call that cannot be parsed puts an error into the stream, which then finishes.** -/
theorem not_chat_completions_stream : ¬ ∀ (streaming : OpenAIStreamingResponseTransformer)
    (collecting : OpenAINonStreamingResponseTransformer) (messages : List InferenceMessage)
    (last : InferenceMessage), (∀ m ∈ messages, m.IsUnfinished) → last.endsRequest = true →
    WellFormedBody streaming.includeUsage
        (chatCompletionsSseResponse (streamedResults streaming (messages ++ [last]))) ∧
      ErrorsAgree (chatCompletionsSseResponse (streamedResults streaming (messages ++ [last])))
        (collectedResponse (collectedResults collecting (messages ++ [last]))) := by
  intro h
  obtain ⟨hbody, -⟩ :=
    h streamingWithUsage ⟨0, "model"⟩ [tokenMessage (.toolCallParseFailed "unexpected end")]
    (tokenMessage (.done ⟨.new⟩))
    (fun m hm => ⟨.toolCallParseFailed "unexpected end", by
      rw [List.mem_singleton.mp hm]; rfl, rfl⟩) rfl
  exact not_wellFormed_of_error [] ⟨"server_error", "unexpected end"⟩
    (List.cons_ne_nil (streamingWithUsage.finishChunk "request" "stop")
      [streamingWithUsage.usageChunk "request" .new]) hbody

end

end Paddler
