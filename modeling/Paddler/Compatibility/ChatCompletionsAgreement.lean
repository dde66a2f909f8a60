import Paddler.Compatibility.ChatCompletions
import Paddler.Compatibility.ResponsesStreamStructure
import Paddler.Library.MergeByIndex

/-!
# Streamed and collected chat completions

A client puts the chunks of a stream together: it concatenates the contents, merges the tool calls
by their index, and keeps the last finish reason and the usage.  How it merges two tool calls of one
index is left open.

Every chunk of tool calls numbers them from 0 on.

* `mergeChunks`, `completionOf` — what a client makes of the chunks, and of the body that is not
  streamed.
* `streamed_merges`, `collected_body` — both, for the results of a request.
* `chat_completions_agree` — **they are the same if and only if** at most one result has tool calls.
-/

set_option autoImplicit false

namespace Paddler

open MergeByIndex

/-! ## The client -/

/-- The first choice of a chunk or a body. -/
def choiceOf (body : Json) : Option Json :=
  ((body.field "choices").bind (·.asArray)).bind (·.head?)

/-- The content that a chunk adds. -/
def deltaContent (chunk : Json) : Option String :=
  (((choiceOf chunk).bind (·.field "delta")).bind (·.field "content")).bind (·.asString)

/-- A tool call of a chunk, with its index. -/
def indexedToolCall (entry : Json) : Option (Nat × Json) :=
  ((entry.field "index").bind (·.asNumber)).map fun index => (index.toNat, entry.without "index")

/-- The tool calls that a chunk adds, with their indexes. -/
def deltaToolCalls (chunk : Json) : List (Nat × Json) :=
  (((((choiceOf chunk).bind (·.field "delta")).bind (·.field "tool_calls")).bind (·.asArray)).getD
    []).filterMap
    indexedToolCall

/-- The finish reason of a chunk or a body. -/
def finishReasonOf (body : Json) : Option String :=
  ((choiceOf body).bind (·.field "finish_reason")).bind (·.asString)

/-- What a client knows of a completion. -/
structure Completion where
  content : String
  toolCalls : List Json
  finishReason : Option String
  usage : Option Json

/-- The chunks of a stream together. -/
def mergeChunks (merge : Json → Json → Json) (chunks : List Json) : Completion where
  content := String.join (chunks.filterMap deltaContent)
  toolCalls := (mergeEntries merge (chunks.flatMap deltaToolCalls) []).map (·.2)
  finishReason := (chunks.filterMap finishReasonOf).getLast?
  usage := (chunks.filterMap (·.field "usage")).getLast?

/-- The body of a completion that is not streamed; no content is the empty text. -/
def completionOf (body : Json) : Completion :=
  let message := (choiceOf body).bind (·.field "message")
  { content := ((message.bind (·.field "content")).bind (·.asString)).getD ""
    toolCalls := ((message.bind (·.field "tool_calls")).bind (·.asArray)).getD []
    finishReason := finishReasonOf body
    usage := body.field "usage" }

/-- The JSON of an event. -/
def SseData.value : SseData → Option Json
  | .json value => some value
  | .done => none

/-- The chunks come to the completion that is answered otherwise; they have a usage if it was asked
for. -/
def ChatCompletionsAgree [TokenTotals] (merge : Json → Json → Json)
    (streaming : OpenAIStreamingResponseTransformer)
    (collecting : OpenAINonStreamingResponseTransformer) (messages : List InferenceMessage) :
    Prop :=
  let response := collectedResponse (collectedResults collecting messages)
  response.status = 200 ∧
    mergeChunks merge ((chatCompletionsSseResponse (streamedResults streaming messages)).filterMap
      (·.value)) = { completionOf response.body with
        usage := if streaming.includeUsage then (completionOf response.body).usage else none }

/-- At most one result has tool calls. -/
def CallsComeOnce (results : List GeneratedTokenResult) : Prop :=
  ((results.map (·.calls)).filter (!·.isEmpty)).length ≤ 1

instance (results : List GeneratedTokenResult) : Decidable (CallsComeOnce results) :=
  inferInstanceAs (Decidable (_ ≤ 1))

/-! ## One message -/

/-- What is sent for a result. -/
def TransformResult.sent : TransformResult → Option Json
  | .chunk body | .error body => some body
  | .discard => none

theorem values_chatCompletionsSseResponse (results : List TransformResult) :
    (chatCompletionsSseResponse results).filterMap (·.value) = results.filterMap (·.sent) := by
  unfold chatCompletionsSseResponse
  rw [List.filterMap_append, List.filterMap_filterMap, List.filterMap_cons_none rfl,
    List.filterMap_nil, List.append_nil]
  refine congrArg (fun f => results.filterMap f) (funext fun result => ?_)
  cases result with
  | chunk body => rfl
  | discard => rfl
  | error body => rfl

/-- The tool call as a client knows it. -/
def toolCallJson (call : ParsedToolCall) : Json :=
  .object (toolCallFields call)

/-- The entries of a chunk are the calls, from index 0 on. -/
theorem deltaToolCalls_toolCallsChunk (self : OpenAIStreamingResponseTransformer)
    (requestId : String) (calls : List ParsedToolCall) :
    deltaToolCalls (self.toolCallsChunk requestId calls) = indexed 0 (calls.map toolCallJson) := by
  have hentries : ∀ (calls : List ParsedToolCall) (n : Nat),
      (calls.mapIdx fun i call =>
        Json.object (("index", .number (n + i : Nat)) :: toolCallFields call)).filterMap
        indexedToolCall = indexed n (calls.map toolCallJson) := by
    intro calls
    induction calls with
    | nil => exact fun _ => rfl
    | cons call calls ih =>
      intro n
      rw [List.mapIdx_cons, List.map_cons, indexed_cons, ← ih (n + 1)]
      rw [List.filterMap_cons_some (b := (n, toolCallJson call)) (by rfl)]
      simp only [Nat.add_assoc, Nat.add_comm 1]
  have hall := hentries calls 0
  simp only [Nat.zero_add] at hall
  exact hall

section

variable [TokenTotals] (self : OpenAIStreamingResponseTransformer) {message : InferenceMessage}
  {token : GeneratedTokenResult}

/-- What a client makes of the results for a message that is neither the last nor an error. -/
theorem observe_unfinished (htoken : message.token = some token) (hhandled : token.isHandled = true)
    (hdone : token.isDone = false) :
    let chunks := (self.unfinishedResults message).filterMap (·.sent)
    chunks.filterMap deltaContent = message.contentText.toList ∧
      chunks.flatMap deltaToolCalls = indexed 0 (message.calls.map toolCallJson) ∧
      chunks.filterMap finishReasonOf = [] ∧ chunks.filterMap (·.field "usage") = [] := by
  obtain ⟨generatedBy, requestId, rfl⟩ := token_cases htoken
  cases token with
  | contentToken text => exact ⟨rfl, rfl, rfl, rfl⟩
  | undeterminableToken text => exact ⟨rfl, rfl, rfl, rfl⟩
  | reasoningToken text => exact ⟨rfl, rfl, rfl, rfl⟩
  | toolCallToken text => exact ⟨rfl, rfl, rfl, rfl⟩
  | toolCallParsed calls =>
    cases calls with
    | nil => exact ⟨rfl, rfl, rfl, rfl⟩
    | cons call calls =>
      refine ⟨rfl, ?_, rfl, rfl⟩
      show deltaToolCalls (self.toolCallsChunk requestId (call :: calls)) ++ [] = _
      rw [List.append_nil]
      exact deltaToolCalls_toolCallsChunk self requestId (call :: calls)
  | done summary => cases hdone
  | _ => cases hhandled

/-- What a client makes of the results for the last message. -/
theorem observe_done (requestId : String) (state : OpenAIStreamingState)
    (summary : GenerationSummary) :
    let chunks := (self.handleDone requestId state summary).filterMap (·.sent)
    chunks.filterMap deltaContent = [] ∧ chunks.flatMap deltaToolCalls = [] ∧
      chunks.filterMap finishReasonOf = [if state.sawToolCall then "tool_calls" else "stop"] ∧
      chunks.filterMap (·.field "usage") =
        if self.includeUsage then [openaiUsageJson summary.usage] else [] := by
  unfold OpenAIStreamingResponseTransformer.handleDone
  cases self.includeUsage with
  | true => exact ⟨rfl, rfl, rfl, rfl⟩
  | false => exact ⟨rfl, rfl, rfl, rfl⟩

end

/-! ## All messages -/

section

variable [TokenTotals] (streaming : OpenAIStreamingResponseTransformer)
  (collecting : OpenAINonStreamingResponseTransformer) {messages : List InferenceMessage}
  {results : List GeneratedTokenResult} {summary : GenerationSummary}

omit [TokenTotals] in
theorem handled_of_tokens
    (hresults : ∀ token ∈ results, token.isHandled = true ∧ token.isDone = false)
    (htokens : messages.map (·.token) = results.map some) :
    ∀ m ∈ messages, ∃ token, m.token = some token ∧ token.isHandled = true ∧
    token.isDone = false := by
  intro m hm
  have hmem : m.token ∈ results.map some := by
    rw [← htokens]
    exact List.mem_map_of_mem hm
  obtain ⟨token, htoken, heq⟩ := List.mem_map.mp hmem
  exact ⟨token, heq.symm, hresults token htoken⟩

theorem observe_messages
    (h : ∀ m ∈ messages, ∃ token, m.token = some token ∧ token.isHandled = true ∧
      token.isDone = false) :
    let chunks := (messages.flatMap streaming.unfinishedResults).filterMap (·.sent)
    chunks.filterMap deltaContent = messages.filterMap (·.contentText) ∧
      chunks.flatMap deltaToolCalls =
        (messages.map fun m => m.calls.map toolCallJson).flatMap (indexed 0) ∧
      chunks.filterMap finishReasonOf = [] ∧ chunks.filterMap (·.field "usage") = [] := by
  induction messages with
  | nil => exact ⟨rfl, rfl, rfl, rfl⟩
  | cons m messages ih =>
    obtain ⟨token, htoken, hhandled, hdone⟩ := h m (List.mem_cons_self ..)
    obtain ⟨hcontent, hcalls, hfinish, husage⟩ := observe_unfinished streaming htoken hhandled hdone
    obtain ⟨hcontents, hallCalls, hfinishes, husages⟩ :=
      ih fun m' hm' => h m' (List.mem_cons_of_mem _ hm')
    intro chunks
    have hchunks : chunks = (streaming.unfinishedResults m).filterMap (·.sent) ++
        (messages.flatMap streaming.unfinishedResults).filterMap (·.sent) := by
      show ((m :: messages).flatMap _).filterMap _ = _
      rw [List.flatMap_cons, List.filterMap_append]
    rw [hchunks, List.filterMap_append, List.flatMap_append, List.filterMap_append,
      List.filterMap_append]
    refine ⟨?_, ?_, ?_, ?_⟩
    · rw [hcontent, hcontents, List.filterMap_cons]
      cases m.contentText with
      | none => rfl
      | some text => rfl
    · rw [hcalls, hallCalls]
      rfl
    · rw [hfinish, hfinishes]
      rfl
    · rw [husage, husages]
      rfl

omit [TokenTotals] in
/-- There is a call in a message exactly if there is one in all. -/
theorem any_calls (messages : List InferenceMessage) :
    (messages.any fun m => !m.calls.isEmpty) = !(messages.flatMap (·.calls)).isEmpty := by
  induction messages with
  | nil => rfl
  | cons m messages ih =>
    rw [List.any_cons, ih, List.flatMap_cons]
    cases m.calls with
    | nil => rfl
    | cons call calls => rfl

omit [TokenTotals] in
/-- No content is the empty text, and no tool calls are none. -/
theorem completionOf_buildDoneChunk [TokenTotals] (requestId : String)
    (snapshot : OpenAINonStreamingState) (summary : GenerationSummary) :
    completionOf (collecting.buildDoneChunk requestId snapshot summary) =
      { content := snapshot.content
        toolCalls := snapshot.toolCalls.map toolCallJson
        finishReason := some snapshot.finishReason
        usage := some (openaiUsageJson summary.usage) } := by
  show Completion.mk (((snapshot.message.field "content").bind _).getD "")
    (((snapshot.message.field "tool_calls").bind _).getD []) _ _ = _
  rw [snapshot.message_text, snapshot.message_calls]
  rfl

/-- **What the chunks come to.** -/
theorem streamed_merges (merge : Json → Json → Json) (before : List InferenceMessage)
    (last : InferenceMessage)
    (h : ∀ m ∈ before, ∃ token, m.token = some token ∧ token.isHandled = true ∧
      token.isDone = false)
    (hlast : last.token = some (.done summary)) :
    mergeChunks merge ((chatCompletionsSseResponse
      (streamedResults streaming (before ++ [last]))).filterMap
        (·.value)) =
      { content := (OpenAINonStreamingState.ofMessages before).content
        toolCalls := (mergeGroups merge (before.map fun m => m.calls.map toolCallJson) []).map (·.2)
        finishReason := some (OpenAINonStreamingState.ofMessages before).finishReason
        usage := if streaming.includeUsage then some (openaiUsageJson summary.usage)
          else none } := by
  obtain ⟨generatedBy, requestId, rfl⟩ := token_cases hlast
  have hresults : streamedResults streaming (before ++ [.response generatedBy requestId
      (.generatedToken (.done summary))]) = before.flatMap streaming.unfinishedResults ++
        streaming.handleDone requestId ⟨before.any fun m => !m.calls.isEmpty⟩ summary := by
    unfold streamedResults
    rw [streaming.forwarded_unfinished before _ fun m hm => ?_]
    · rw [Bool.false_or]
      exact congrArg _ (List.append_nil _)
    · obtain ⟨token, htoken, -, hdone⟩ := h m hm
      exact ⟨token, htoken, hdone⟩
  obtain ⟨hcontent, hcalls, hfinish, husage⟩ := observe_messages streaming h
  obtain ⟨hcontent', hcalls', hfinish', husage'⟩ :=
    observe_done streaming requestId ⟨before.any fun m => !m.calls.isEmpty⟩ summary
  rw [values_chatCompletionsSseResponse, hresults, List.filterMap_append]
  unfold mergeChunks
  rw [List.filterMap_append, List.flatMap_append, List.filterMap_append,
    List.filterMap_append, hcontent, hcontent', hcalls, hcalls', hfinish, hfinish', husage, husage',
    List.append_nil, List.append_nil, any_calls]
  refine congr (congrArg (Completion.mk _ _) ?_) ?_
  · unfold OpenAINonStreamingState.finishReason OpenAINonStreamingState.ofMessages
    cases before.flatMap (·.calls) with
    | nil => rfl
    | cons call calls => rfl
  · cases streaming.includeUsage with
    | true => rfl
    | false => rfl

/-- **What the body has.** -/
theorem collected_body (before : List InferenceMessage) (last : InferenceMessage)
    (h : ∀ m ∈ before, ∃ token, m.token = some token ∧ token.isHandled = true ∧
      token.isDone = false)
    (hlast : last.token = some (.done summary)) :
    ∃ requestId, collectedResults collecting (before ++ [last]) =
      [.chunk (collecting.buildDoneChunk requestId (.ofMessages before) summary)] := by
  obtain ⟨generatedBy, requestId, rfl⟩ := token_cases hlast
  have herrors : before.flatMap OpenAINonStreamingResponseTransformer.errorResults = [] := by
    refine OpenAINonStreamingResponseTransformer.errorResults_eq_nil fun m hm => ?_
    obtain ⟨token, htoken, hhandled, -⟩ := h m hm
    exact (errorOf_eq_none_iff _ htoken).mpr hhandled
  refine ⟨requestId, ?_⟩
  unfold collectedResults
  rw [collecting.forwarded_unfinished before _ fun m hm => ?_]
  · rw [herrors, String.empty_append]
    rfl
  · obtain ⟨token, htoken, -, hdone⟩ := h m hm
    exact ⟨token, htoken, hdone⟩

/-- **The chunks come to the completion that is answered otherwise if and only if** at most one
result has tool calls. -/
theorem chat_completions_agree (merge : Json → Json → Json)
    (streaming : OpenAIStreamingResponseTransformer)
    (collecting : OpenAINonStreamingResponseTransformer) (messages : List InferenceMessage)
    (results : List GeneratedTokenResult) (summary : GenerationSummary)
    (h : Answers messages results summary) :
    ChatCompletionsAgree merge streaming collecting messages ↔ CallsComeOnce results := by
  obtain ⟨before, last, rfl, hbefore, hlast⟩ := h.split
  have hhandled := handled_of_tokens h.handled hbefore
  obtain ⟨requestId, hcollected⟩ := collected_body collecting before last hhandled hlast
  have hgroups : (before.map fun m => m.calls.map toolCallJson).flatten =
      (OpenAINonStreamingState.ofMessages before).toolCalls.map toolCallJson := by
    show _ = (before.flatMap (·.calls)).map toolCallJson
    rw [List.map_flatMap, List.flatMap_def]
  have hcount : ((before.map fun m => m.calls.map toolCallJson).filter (!·.isEmpty)).length =
      ((results.map (·.calls)).filter (!·.isEmpty)).length := by
    rw [← calls_of_tokens hbefore, List.filter_map, List.filter_map, List.length_map,
      List.length_map]
    simp [Function.comp_def]
  unfold ChatCompletionsAgree CallsComeOnce
  rw [streamed_merges streaming merge before last hhandled hlast, hcollected, ← hcount,
    ← mergeGroups_eq_flatten_iff (f := merge), hgroups]
  have hresponse : collectedResponse
      [.chunk (collecting.buildDoneChunk requestId (.ofMessages before) summary)] =
        ⟨200, collecting.buildDoneChunk requestId (.ofMessages before) summary⟩ := rfl
  rw [hresponse]
  simp only
  rw [completionOf_buildDoneChunk]
  constructor
  · rintro ⟨-, heq⟩
    exact congrArg Completion.toolCalls heq
  · intro heq
    rw [heq]
    exact ⟨trivial, rfl⟩

end

section

attribute [local instance] TokenTotals.counted

/-- A transformer for a request that asks for the usage. -/
def streamingWithUsage : OpenAIStreamingResponseTransformer :=
  ⟨0, true, "model", "fingerprint"⟩

theorem chat_completions_agree_answeredWithTool :
    ChatCompletionsAgree (fun _ call => call) streamingWithUsage ⟨0, "model"⟩ answeredWithTool :=
  (chat_completions_agree (fun _ call => call) streamingWithUsage ⟨0, "model"⟩ answeredWithTool
    [.reasoningToken "I will ", .reasoningToken "look.", .contentToken "One moment.",
      .toolCallToken "{}", .toolCallParsed [⟨"call_1", "look", .validJson "{}"⟩]] ⟨.new⟩ ⟨rfl, by
        decide⟩).mpr (by decide)

/-- **Of two results with a tool call each, a client makes one tool call**, however it merges
them. -/
theorem not_chat_completions_agree : ¬ ∃ merge : Json → Json → Json,
    ∀ (streaming : OpenAIStreamingResponseTransformer) (collecting : OpenAINonStreamingResponseTransformer)
      (messages : List InferenceMessage) (results : List GeneratedTokenResult)
      (summary : GenerationSummary), Answers messages results summary →
      ChatCompletionsAgree merge streaming collecting messages := by
  rintro ⟨merge, h⟩
  obtain ⟨-, hagree⟩ := h streamingWithUsage ⟨0, "model"⟩
    [tokenMessage (.toolCallParsed [⟨"call_1", "look", .validJson "1"⟩]),
      tokenMessage (.toolCallParsed [⟨"call_2", "look", .validJson "2"⟩]),
      tokenMessage (.done ⟨.new⟩)]
    [.toolCallParsed [⟨"call_1", "look", .validJson "1"⟩],
      .toolCallParsed [⟨"call_2", "look", .validJson "2"⟩]]
    ⟨.new⟩ ⟨rfl, by decide⟩
  have hlength : 1 = 2 := congrArg (fun completion => completion.toolCalls.length) hagree
  cases hlength

end

end Paddler
