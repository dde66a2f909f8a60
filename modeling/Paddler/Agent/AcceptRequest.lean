import Paddler.Agent.SamplingSites
import Paddler.Agent.Embedding

/-!
# Accepting requests

Model of `resolve_grammar.rs`, `prepare_conversation_history_request.rs` and of the acceptance
half of `continuous_batch_scheduler/mod.rs`: `accept_conversation_history_request`,
`accept_raw_prompt_request`, `accept_text_prompt`, `accept_multimodal_request`.

What the bindings, the image decoder and the template renderer answer is an input
(`AcceptanceAnswers`).  Every early return drops the sequence guard, which releases the id, and
the sender, which closes the client's channel.

* `AcceptStep` — **everything an acceptance can do to the scheduler**: refuse, accept a text
  prompt, harvest and refuse, or harvest and accept a multimodal prompt.
* `acceptConversationHistoryRequest_step`, `acceptRawPromptRequest_step` — every
  acceptance is one of those, and with a live receiver a refusal is announced by exactly one
  terminal result when the answers are served (`AcceptanceServed`).
-/

set_option autoImplicit false

namespace Paddler

variable {C : Type}

/-! ## The scheduler -/

/-- `ContinuousBatchScheduler`.  `ended` and `endedEmbeddings` are history: the channels whose
sender was dropped, as they were then. -/
structure ContinuousBatchScheduler (C : Type) where
  activeRequests : List (ContinuousBatchActiveRequest C)
  llamaContext : LlamaContext
  pendingEmbeddingRequests : List GenerateEmbeddingBatchRequest
  running : Bool
  sequenceIdPool : SequenceIdPool
  ended : List EndedRequest
  endedEmbeddings : List (Sender EmbeddingResult)

/-- A request that never became active ends: its sender goes out of scope. -/
def ContinuousBatchScheduler.dropSender (scheduler : ContinuousBatchScheduler C)
    (tx : Sender GeneratedTokenResult) : ContinuousBatchScheduler C :=
  { scheduler with ended := scheduler.ended ++ [⟨tx, RequestHistory.new 0⟩] }

/-- `clear_kv_cache_for_sequence`: a negative id is not converted to the `u32` llama.cpp expects. -/
def LlamaContext.clearKvCacheForSequence (llama : LlamaContext) (sequenceId : Int) : LlamaContext :=
  if sequenceId < 0 then llama else llama.clearKvCacheSeq sequenceId

@[simp] theorem LlamaContext.clearKvCacheForSequence_lastDecode (llama : LlamaContext)
    (sequenceId : Int) : (llama.clearKvCacheForSequence sequenceId).lastDecode =
      llama.lastDecode := by
  unfold LlamaContext.clearKvCacheForSequence
  split <;> rfl

theorem LlamaContext.mem_clearKvCacheForSequence {llama : LlamaContext} {sequenceId : Int}
    {cell : KvCell} (h : 0 ≤ sequenceId) :
    cell ∈ (llama.clearKvCacheForSequence sequenceId).kvCells ↔
      cell ∈ llama.kvCells ∧ cell.seqId ≠ sequenceId := by
  unfold LlamaContext.clearKvCacheForSequence
  rw [if_neg (by omega), LlamaContext.mem_clearKvCacheSeq]

def sendGeneratedTokenResultOrWarn (tx : Sender GeneratedTokenResult)
    (result : GeneratedTokenResult) : Sender GeneratedTokenResult :=
  (tx.send result).2

/-! ## Requests and answers -/

/-- `grammar_sampler.rs`. -/
structure GrammarSampler where
  grammarString : String
  rootRule : String
  deriving DecidableEq, Repr

/-- `decoded_image.rs`. -/
structure DecodedImage where
  data : List UInt8
  deriving DecidableEq, Repr

/-- The errors of `eval_multimodal_chunks` that the scheduler tells apart. -/
inductive EvalMultimodalChunksError where
  | imageChunkExceedsBatchSize (mismatch : OversizedImageDetails)
  | other (message : String)
  deriving DecidableEq, Repr

/-- What is answered while one request is accepted.  `evalWritten` are the positions
`eval_multimodal_chunks` wrote on the request's sequence, also when it failed. -/
structure AcceptanceAnswers (C : Type) where
  jsonSchemaToGrammar : String → Except String String
  decodeImage : ImageUrl → Nat → Except String DecodedImage
  mtmdDefaultMarker : Except String String
  render : Bool → Bool → List ChatTemplateMessage → List Tool → Except String String
  strToToken : String → Except String (List LlamaToken)
  grammarLlamaSampler : GrammarSampler → Except String Unit
  sampledTokenClassifier : Except String C
  mtmdBitmapFromBuffer : DecodedImage → Except String Unit
  mtmdTokenize : String → List DecodedImage → Except String Unit
  evalMultimodalChunks : Except EvalMultimodalChunksError Nat
  evalClassifier : C → C
  evalWritten : List Int

/-- `continue_from_conversation_history_request.rs`. -/
structure ContinueFromConversationHistoryRequest where
  generatedTokensTx : Sender GeneratedTokenResult
  params : ContinueFromConversationHistoryParams
  deriving DecidableEq, Repr

/-- `continue_from_raw_prompt_request.rs`. -/
structure ContinueFromRawPromptRequest where
  generatedTokensTx : Sender GeneratedTokenResult
  params : ContinueFromRawPromptParams
  deriving DecidableEq, Repr

/-! ## Grammar -/

/-- `resolve_grammar_to_gbnf`, wrapped by `GrammarSampler::new`. -/
def GrammarSampler.new (answers : AcceptanceAnswers C) :
    GrammarConstraint → Except String GrammarSampler
  | .gbnf grammar root => .ok ⟨grammar, root⟩
  | .jsonSchema schema =>
    match answers.jsonSchemaToGrammar schema with
    | .error err => .error ("Failed to convert JSON schema to grammar: " ++ err)
    | .ok grammarString => .ok ⟨grammarString, "root"⟩

def resolveGrammar (answers : AcceptanceAnswers C) (grammar : Option GrammarConstraint)
    (enableThinking : Bool) (tx : Sender GeneratedTokenResult) :
    Except String (Option GrammarSampler) × Sender GeneratedTokenResult :=
  match grammar with
  | none => (.ok none, tx)
  | some grammarConstraint =>
    if enableThinking then
      let message := "Grammar constraints are incompatible with thinking mode"
      match tx.send (.grammarIncompatibleWithThinking message) with
      | (false, tx) => (.error "Failed to send grammar incompatibility error: channel closed", tx)
      | (true, tx) => (.error message, tx)
    else
      match GrammarSampler.new answers grammarConstraint with
      | .ok sampler => (.ok (some sampler), tx)
      | .error err =>
        let message := "Failed to create grammar sampler: " ++ err
        match tx.send (.grammarSyntaxError message) with
        | (false, tx) => (.error "Failed to send grammar syntax error: channel closed", tx)
        | (true, tx) => (.error message, tx)

/-- `create_grammar_llama_sampler`: whether the request has a grammar sampler. -/
def createGrammarLlamaSampler (ctx : ContinuousBatchSchedulerContext C)
    (answers : AcceptanceAnswers C) (grammarSampler : Option GrammarSampler)
    (tx : Sender GeneratedTokenResult) : Except String Bool × Sender GeneratedTokenResult :=
  match grammarSampler with
  | none => (.ok false, tx)
  | some grammarSampler =>
    match answers.grammarLlamaSampler grammarSampler with
    | .ok () => (.ok true, tx)
    | .error err =>
      let message := ctx.debugAgentName ++
        ": failed to initialize grammar sampler: Failed to initialize grammar sampler: " ++ err
      (.error message, sendGeneratedTokenResultOrWarn tx (.grammarInitializationFailed message))

/-! ## Preparation -/

/-- `prepared_conversation_history_request.rs`. -/
inductive PreparedConversationHistoryRequest where
  | textPrompt (rawPrompt : String) (maxTokens : Int) (grammarSampler : Option GrammarSampler)
      (parseToolCalls : Bool) (tools : List Tool)
  | multimodalPrompt (rawPrompt : String) (images : List DecodedImage) (maxTokens : Int)
      (grammarSampler : Option GrammarSampler) (parseToolCalls : Bool) (tools : List Tool)
  deriving DecidableEq, Repr

/-- The images of a conversation, decoded and resized, collected into one `Result`. -/
def decodeImages (answers : AcceptanceAnswers C) (imageResizeToFit : Nat) :
    List ImageUrl → Except String (List DecodedImage)
  | [] => .ok []
  | imageUrl :: imageUrls =>
    match answers.decodeImage imageUrl imageResizeToFit with
    | .error err => .error err
    | .ok image =>
      match decodeImages answers imageResizeToFit imageUrls with
      | .error err => .error err
      | .ok images => .ok (image :: images)

/-- A preparation that ends by sending `result`. -/
def failPreparation {α : Type} (tx : Sender GeneratedTokenResult) (result : GeneratedTokenResult)
    (message : String) : Except String α × Sender GeneratedTokenResult :=
  (.error message, sendGeneratedTokenResultOrWarn tx result)

def prepareConversationHistoryRequest (ctx : ContinuousBatchSchedulerContext C)
    (answers : AcceptanceAnswers C) (params : ContinueFromConversationHistoryParams)
    (tx : Sender GeneratedTokenResult) :
    Except String PreparedConversationHistoryRequest × Sender GeneratedTokenResult :=
  match resolveGrammar answers params.grammar params.enableThinking tx with
  | (.error err, tx) => (.error err, tx)
  | (.ok grammarSampler, tx) =>
    match decodeImages answers ctx.inferenceParameters.imageResizeToFit
        params.conversationHistory.extractImageUrls with
    | .error err =>
      let message := ctx.debugAgentName ++ ": failed to decode images: " ++ err
      failPreparation tx (.imageDecodingFailed message) message
    | .ok images =>
      match answers.mtmdDefaultMarker with
      | .error err => (.error err, tx)
      | .ok mediaMarker =>
        let messages := params.conversationHistory.replaceImagesWithMarker mediaMarker
        if !ctx.hasChatTemplateRenderer then
          let message := ctx.debugAgentName ++
            ": token generation is disabled because this agent is running in embeddings-only mode"
          failPreparation tx (.tokenGenerationDisabled message) message
        else
          match answers.render params.addGenerationPrompt params.enableThinking messages
              params.tools with
          | .error err =>
            let message := ctx.debugAgentName ++ ": failed to render chat template: " ++ err
            failPreparation tx (.chatTemplateError message) message
          | .ok rawPrompt =>
            if !images.isEmpty && !ctx.hasMultimodalContext then
              let message := ctx.debugAgentName ++
                ": received images but model does not support multimodal input"
              failPreparation tx (.multimodalNotSupported message) message
            else if !images.isEmpty then
              (.ok (.multimodalPrompt rawPrompt images params.maxTokens grammarSampler
                params.parseToolCalls params.tools), tx)
            else
              (.ok (.textPrompt rawPrompt params.maxTokens grammarSampler params.parseToolCalls
                params.tools), tx)

/-! ## Acceptance -/

/-- The tool-call pipeline of an accepted request. -/
def ToolCallPipelineBuildOutcome.pipeline : ToolCallPipelineBuildOutcome → Option ToolCallPipeline
  | .ready pipeline => some pipeline
  | .disabled | .schemaInvalid _ => none

/-- The request `accept_text_prompt` pushes. -/
def newTextRequest (maxTokens : Int) (promptTokens : List LlamaToken) (tokenClassifier : C)
    (hasGrammarSampler : Bool) (tx : Sender GeneratedTokenResult) (sequenceId : Int)
    (toolCallPipeline : Option ToolCallPipeline) : ContinuousBatchActiveRequest C :=
  { state :=
      { currentTokenPosition := 0
        iBatch := none
        maxTokens := maxTokens
        pendingSampledToken := none
        phase := .ingesting
        promptTokens := promptTokens
        promptTokensIngested := 0 }
    tokenClassifier := tokenClassifier
    hasGrammarSampler := hasGrammarSampler
    generatedTokensTx := tx
    sequenceId := sequenceId
    toolCallPipeline := toolCallPipeline
    history := RequestHistory.new 0 }

def acceptTextPrompt (ctx : ContinuousBatchSchedulerContext C) (answers : AcceptanceAnswers C)
    (prompt : String) (maxTokens : Int) (grammarSampler : Option GrammarSampler)
    (parseToolCalls : Bool) (tools : List Tool) (tx : Sender GeneratedTokenResult)
    (scheduler : ContinuousBatchScheduler C) : ContinuousBatchScheduler C :=
  match buildToolCallPipeline ctx.toolCallApi tools parseToolCalls with
  | .error _ => scheduler.dropSender tx
  | .ok (.schemaInvalid message) =>
    scheduler.dropSender (sendGeneratedTokenResultOrWarn tx (.toolSchemaInvalid message))
  | .ok outcome =>
    match scheduler.sequenceIdPool.acquire with
    | none =>
      scheduler.dropSender (sendGeneratedTokenResultOrWarn tx (.samplerError
        (ctx.debugAgentName ++ ": no available sequence slots, all slots are busy")))
    | some (sequenceId, pool) =>
      -- an early return from here on drops the guard
      let released := { scheduler with sequenceIdPool := pool.release sequenceId }
      match answers.strToToken prompt with
      | .error err =>
        released.dropSender (sendGeneratedTokenResultOrWarn tx (.samplerError
          (ctx.debugAgentName ++ ": failed to tokenize prompt: " ++ err)))
      | .ok promptTokens =>
        match createGrammarLlamaSampler ctx answers grammarSampler tx with
        | (.error _, tx) => released.dropSender tx
        | (.ok hasGrammarSampler, tx) =>
          match answers.sampledTokenClassifier with
          | .error _ => released.dropSender tx
          | .ok classifier =>
            let tokenClassifier := ctx.classifier.ingestPromptTokens
              (ctx.classifier.recordPromptTokens classifier promptTokens.length) promptTokens
            { scheduler with
              llamaContext := scheduler.llamaContext.clearKvCacheForSequence sequenceId
              sequenceIdPool := pool
              activeRequests := scheduler.activeRequests ++
                [newTextRequest maxTokens promptTokens tokenClassifier hasGrammarSampler tx
                  sequenceId outcome.pipeline] }

/-- The bitmaps of all images, collected into one `Result`. -/
def createBitmaps (answers : AcceptanceAnswers C) : List DecodedImage → Except String Unit
  | [] => .ok ()
  | image :: images =>
    match answers.mtmdBitmapFromBuffer image with
    | .error err => .error ("Failed to create bitmap: " ++ err)
    | .ok () => createBitmaps answers images

/-- `accept_multimodal_request` up to the point where the cache of its sequence is cleared: the
pipeline, the sequence and the pool without it, or the channel of a refused request.  A refusal
after the sequence was acquired releases it, which leaves the pool as it was. -/
def admitMultimodalRequest (ctx : ContinuousBatchSchedulerContext C) (answers : AcceptanceAnswers C)
    (prompt : String) (images : List DecodedImage) (parseToolCalls : Bool) (tools : List Tool)
    (tx : Sender GeneratedTokenResult) (pool : SequenceIdPool) :
    Except (Sender GeneratedTokenResult) (Option ToolCallPipeline × Int × SequenceIdPool) :=
  match buildToolCallPipeline ctx.toolCallApi tools parseToolCalls with
  | .error _ => .error tx
  | .ok (.schemaInvalid message) =>
    .error (sendGeneratedTokenResultOrWarn tx (.toolSchemaInvalid message))
  | .ok outcome =>
    match pool.acquire with
    | none =>
      .error (sendGeneratedTokenResultOrWarn tx (.samplerError
        (ctx.debugAgentName ++ ": no available sequence slots for multimodal request")))
    | some (sequenceId, pool) =>
      match createBitmaps answers images with
      | .error err =>
        .error (sendGeneratedTokenResultOrWarn tx (.imageDecodingFailed
          (ctx.debugAgentName ++ ": failed to create bitmaps: " ++ err)))
      | .ok () =>
        match answers.mtmdTokenize prompt images with
        | .error err =>
          .error (sendGeneratedTokenResultOrWarn tx (.samplerError (ctx.debugAgentName ++
            ": failed to tokenize multimodal input: Failed to tokenize multimodal input: " ++ err)))
        | .ok () => .ok (outcome.pipeline, sequenceId, pool)

/-- `harvest_pending_samples_before_external_decode`. -/
def harvestPendingSamples (ctx : ContinuousBatchSchedulerContext C)
    (sampling : Nat → SamplingAnswers) (llama : LlamaContext)
    (requests : List (ContinuousBatchActiveRequest C)) :
    List (ContinuousBatchActiveRequest C) :=
  requests.map fun request => harvestOne ctx llama (sampling request.id) request

/-- `eval_multimodal_chunks` on the shared context: the cells it wrote, and the logits buffer if
anything was decoded. -/
def LlamaContext.evalMultimodal (llama : LlamaContext) (answers : AcceptanceAnswers C)
    (sequenceId : Int) (requestId : Nat) : LlamaContext :=
  { kvCells := llama.kvCells ++ answers.evalWritten.map fun position =>
      ⟨sequenceId, position, requestId⟩
    lastDecode :=
      match answers.evalMultimodalChunks, answers.evalWritten with
      | .error _, [] => llama.lastDecode
      | _, _ => .multimodal requestId }

/-- The request `accept_multimodal_request` pushes. -/
def newMultimodalRequest (maxTokens : Int) (tokensIngested : Nat) (tokenClassifier : C)
    (hasGrammarSampler : Bool) (tx : Sender GeneratedTokenResult) (sequenceId : Int)
    (toolCallPipeline : Option ToolCallPipeline) : ContinuousBatchActiveRequest C :=
  { state :=
      { currentTokenPosition := tokensIngested
        iBatch := some (-1)
        maxTokens := maxTokens
        pendingSampledToken := none
        phase := .generating
        promptTokens := []
        promptTokensIngested := 0 }
    tokenClassifier := tokenClassifier
    hasGrammarSampler := hasGrammarSampler
    generatedTokensTx := tx
    sequenceId := sequenceId
    toolCallPipeline := toolCallPipeline
    history := RequestHistory.new tokensIngested }

/-- `accept_multimodal_request` once it has a sequence: clear it, harvest, evaluate the chunks.
Every early return drops the guard. -/
def evalMultimodalRequest (ctx : ContinuousBatchSchedulerContext C) (answers : AcceptanceAnswers C)
    (sampling : Nat → SamplingAnswers) (maxTokens : Int) (grammarSampler : Option GrammarSampler)
    (tx : Sender GeneratedTokenResult) (toolCallPipeline : Option ToolCallPipeline)
    (sequenceId : Int) (pool : SequenceIdPool) (scheduler : ContinuousBatchScheduler C) :
    ContinuousBatchScheduler C :=
  let cleared := scheduler.llamaContext.clearKvCacheForSequence sequenceId
  let harvested := { scheduler with
    llamaContext := cleared
    sequenceIdPool := pool.release sequenceId
    activeRequests := harvestPendingSamples ctx sampling cleared scheduler.activeRequests }
  match answers.sampledTokenClassifier with
  | .error _ => harvested.dropSender tx
  | .ok classifier =>
    if i32Max < ctx.inferenceParameters.nBatch then harvested.dropSender tx
    else
      let evaluated := { harvested with
        llamaContext := cleared.evalMultimodal answers sequenceId tx.id }
      match answers.evalMultimodalChunks with
      | .error (.imageChunkExceedsBatchSize mismatch) =>
        evaluated.dropSender (sendGeneratedTokenResultOrWarn tx (.imageExceedsBatchSize mismatch))
      | .error (.other err) =>
        evaluated.dropSender (sendGeneratedTokenResultOrWarn tx (.samplerError
          (ctx.debugAgentName ++ ": failed to ingest multimodal prompt: " ++ err)))
      | .ok tokensIngested =>
        match createGrammarLlamaSampler ctx answers grammarSampler tx with
        | (.error _, tx) => evaluated.dropSender tx
        | (.ok hasGrammarSampler, tx) =>
          { evaluated with
            sequenceIdPool := pool
            activeRequests := evaluated.activeRequests ++
              [newMultimodalRequest maxTokens tokensIngested (answers.evalClassifier classifier)
                hasGrammarSampler tx sequenceId toolCallPipeline] }

def acceptMultimodalRequest (ctx : ContinuousBatchSchedulerContext C)
    (answers : AcceptanceAnswers C) (sampling : Nat → SamplingAnswers) (prompt : String)
    (images : List DecodedImage) (maxTokens : Int) (grammarSampler : Option GrammarSampler)
    (parseToolCalls : Bool) (tools : List Tool) (tx : Sender GeneratedTokenResult)
    (scheduler : ContinuousBatchScheduler C) : ContinuousBatchScheduler C :=
  match admitMultimodalRequest ctx answers prompt images parseToolCalls tools tx
      scheduler.sequenceIdPool with
  | .error tx => scheduler.dropSender tx
  | .ok (toolCallPipeline, sequenceId, pool) =>
    evalMultimodalRequest ctx answers sampling maxTokens grammarSampler tx toolCallPipeline
      sequenceId pool scheduler

def acceptConversationHistoryRequest (ctx : ContinuousBatchSchedulerContext C)
    (answers : AcceptanceAnswers C) (sampling : Nat → SamplingAnswers)
    (request : ContinueFromConversationHistoryRequest) (scheduler : ContinuousBatchScheduler C) :
    ContinuousBatchScheduler C :=
  match prepareConversationHistoryRequest ctx answers request.params request.generatedTokensTx with
  | (.error _, tx) => scheduler.dropSender tx
  | (.ok (.textPrompt rawPrompt maxTokens grammarSampler parseToolCalls tools), tx) =>
    acceptTextPrompt ctx answers rawPrompt maxTokens grammarSampler parseToolCalls tools
      tx scheduler
  | (.ok (.multimodalPrompt rawPrompt images maxTokens grammarSampler parseToolCalls tools), tx) =>
    if ctx.hasMultimodalContext then
      acceptMultimodalRequest ctx answers sampling rawPrompt images maxTokens grammarSampler
        parseToolCalls tools tx scheduler
    else scheduler.dropSender tx

def acceptRawPromptRequest (ctx : ContinuousBatchSchedulerContext C)
    (answers : AcceptanceAnswers C) (request : ContinueFromRawPromptRequest)
    (scheduler : ContinuousBatchScheduler C) : ContinuousBatchScheduler C :=
  match resolveGrammar answers request.params.grammar false request.generatedTokensTx with
  | (.error _, tx) => scheduler.dropSender tx
  | (.ok grammarSampler, tx) =>
    acceptTextPrompt ctx answers request.params.rawPrompt request.params.maxTokens grammarSampler
      false [] tx scheduler

/-! ## Everything an acceptance can do -/

/-- The channel of a refused request: one failure was sent on it, or nothing, and nothing
only when the receiver is gone or an answer made the request end without a result. -/
def RefusedWith (served : Prop) (tx tx' : Sender GeneratedTokenResult) : Prop :=
  (tx' = tx ∧ (tx.receiverDropsAfter = none → ¬ served)) ∨
    ∃ result, result.isFailure = true ∧ tx.Extends tx' [result]

theorem refusedWith_send (served : Prop) {tx tx' : Sender GeneratedTokenResult}
    {result : GeneratedTokenResult} {delivered : Bool} (h : tx.send result = (delivered, tx'))
    (hr : result.isFailure = true) : RefusedWith served tx tx' := by
  rcases Sender.send_extends h with ⟨-, hext⟩ | ⟨-, heq, hgone⟩
  · exact Or.inr ⟨result, hr, hext⟩
  · exact Or.inl ⟨heq, fun halive => absurd (heq ▸ halive) hgone⟩

theorem refusedWith_sendOrWarn (served : Prop) (tx : Sender GeneratedTokenResult)
    {result : GeneratedTokenResult} (hr : result.isFailure = true) :
    RefusedWith served tx (sendGeneratedTokenResultOrWarn tx result) :=
  refusedWith_send served rfl hr

theorem refusedWith_silent {served : Prop} (tx : Sender GeneratedTokenResult) (h : ¬ served) :
    RefusedWith served tx tx :=
  Or.inl ⟨rfl, fun _ => h⟩

/-- **One acceptance.**  `served` says that no answer makes the request end without a result,
`harvests` that it is a multimodal prompt that got a sequence; `prompted` is its prompt when that
is text, and `requested` its `max_tokens`. -/
inductive AcceptStep (ctx : ContinuousBatchSchedulerContext C) (answers : AcceptanceAnswers C)
    (sampling : Nat → SamplingAnswers) (served harvests : Prop) (tx : Sender GeneratedTokenResult)
    (prompted : Option String) (requested : Option Int) (s : ContinuousBatchScheduler C) :
    ContinuousBatchScheduler C → Prop where
  | refused {tx' : Sender GeneratedTokenResult} :
      RefusedWith served tx tx' →
      AcceptStep ctx answers sampling served harvests tx prompted requested s (s.dropSender tx')
  | text {sequenceId : Int} {pool : SequenceIdPool} {prompt : String} {promptTokens : List LlamaToken}
      {maxTokens : Int} {classifier : C} {hasGrammarSampler : Bool}
      {toolCallPipeline : Option ToolCallPipeline} :
      s.sequenceIdPool.acquire = some (sequenceId, pool) →
      prompted = some prompt → answers.strToToken prompt = .ok promptTokens →
      requested = some maxTokens →
      answers.sampledTokenClassifier = .ok classifier →
      AcceptStep ctx answers sampling served harvests tx prompted requested s { s with
        llamaContext := s.llamaContext.clearKvCacheForSequence sequenceId
        sequenceIdPool := pool
        activeRequests := s.activeRequests ++ [newTextRequest maxTokens promptTokens
          (ctx.classifier.ingestPromptTokens
            (ctx.classifier.recordPromptTokens classifier promptTokens.length) promptTokens)
          hasGrammarSampler tx sequenceId toolCallPipeline] }
  | harvestRefused {sequenceId : Int} {pool : SequenceIdPool} {llama : LlamaContext}
      {tx' : Sender GeneratedTokenResult} :
      harvests → s.sequenceIdPool.acquire = some (sequenceId, pool) → RefusedWith served tx tx' →
      (llama = s.llamaContext.clearKvCacheForSequence sequenceId ∨
        (llama = (s.llamaContext.clearKvCacheForSequence sequenceId).evalMultimodal answers
          sequenceId tx.id ∧
          ((∃ err, answers.evalMultimodalChunks = .error err) ∨
            ∃ n grammar err, answers.evalMultimodalChunks = .ok n ∧
              answers.grammarLlamaSampler grammar = .error err))) →
      AcceptStep ctx answers sampling served harvests tx prompted requested s ({ s with
        llamaContext := llama
        activeRequests := harvestPendingSamples ctx sampling
          (s.llamaContext.clearKvCacheForSequence sequenceId) s.activeRequests }.dropSender tx')
  | multimodal {sequenceId : Int} {pool : SequenceIdPool} {maxTokens : Int} {tokensIngested : Nat}
      {classifier : C} {hasGrammarSampler : Bool} {toolCallPipeline : Option ToolCallPipeline} :
      harvests → s.sequenceIdPool.acquire = some (sequenceId, pool) →
      answers.evalMultimodalChunks = .ok tokensIngested → requested = some maxTokens →
      answers.sampledTokenClassifier = .ok classifier →
      AcceptStep ctx answers sampling served harvests tx prompted requested s { s with
        llamaContext :=
          (s.llamaContext.clearKvCacheForSequence sequenceId).evalMultimodal answers
            sequenceId tx.id
        sequenceIdPool := pool
        activeRequests := harvestPendingSamples ctx sampling
            (s.llamaContext.clearKvCacheForSequence sequenceId) s.activeRequests ++
          [newMultimodalRequest maxTokens tokensIngested (answers.evalClassifier classifier)
            hasGrammarSampler tx sequenceId toolCallPipeline] }

theorem AcceptStep.frame {ctx : ContinuousBatchSchedulerContext C} {answers : AcceptanceAnswers C}
    {sampling : Nat → SamplingAnswers} {served harvests : Prop} {tx : Sender GeneratedTokenResult}
    {prompted : Option String} {requested : Option Int} {s s' : ContinuousBatchScheduler C}
    (h : AcceptStep ctx answers sampling served harvests tx prompted requested s s') :
    s'.running = s.running ∧ s'.pendingEmbeddingRequests = s.pendingEmbeddingRequests ∧
      s'.endedEmbeddings = s.endedEmbeddings := by
  cases h <;> exact ⟨rfl, rfl, rfl⟩

theorem resolveGrammar_spec (served : Prop) {answers : AcceptanceAnswers C}
    {grammar : Option GrammarConstraint} {enableThinking : Bool}
    {tx tx' : Sender GeneratedTokenResult} {result : Except String (Option GrammarSampler)}
    (h : resolveGrammar answers grammar enableThinking tx = (result, tx')) :
    (∃ sampler, result = .ok sampler ∧ tx' = tx) ∨
      (∃ err, result = .error err ∧ RefusedWith served tx tx') := by
  unfold resolveGrammar at h
  split at h
  · cases h
    exact Or.inl ⟨none, rfl, rfl⟩
  · dsimp only at h
    split at h
    · right
      cases hsend : tx.send (.grammarIncompatibleWithThinking
          "Grammar constraints are incompatible with thinking mode") with
      | mk delivered tx₁ =>
        rw [hsend] at h
        cases delivered <;> cases h <;> exact ⟨_, rfl, refusedWith_send served hsend rfl⟩
    · split at h
      · rename_i sampler _
        cases h
        exact Or.inl ⟨some sampler, rfl, rfl⟩
      · rename_i err _
        right
        cases hsend : tx.send
          (.grammarSyntaxError ("Failed to create grammar sampler: " ++ err)) with
        | mk delivered tx₁ =>
          rw [hsend] at h
          cases delivered <;> cases h <;> exact ⟨_, rfl, refusedWith_send served hsend rfl⟩

theorem createGrammarLlamaSampler_spec (served : Prop) {ctx : ContinuousBatchSchedulerContext C}
    {answers : AcceptanceAnswers C} {grammarSampler : Option GrammarSampler}
    {tx tx' : Sender GeneratedTokenResult} {result : Except String Bool}
    (h : createGrammarLlamaSampler ctx answers grammarSampler tx = (result, tx')) :
    (∃ hasGrammar, result = .ok hasGrammar ∧ tx' = tx) ∨
      (∃ message grammar err, result = .error message ∧
        answers.grammarLlamaSampler grammar = .error err ∧ RefusedWith served tx tx') := by
  unfold createGrammarLlamaSampler at h
  split at h
  · cases h
    exact Or.inl ⟨false, rfl, rfl⟩
  · rename_i grammar
    split at h
    · cases h
      exact Or.inl ⟨true, rfl, rfl⟩
    · rename_i err hg
      cases h
      exact Or.inr ⟨_, grammar, err, rfl, hg, refusedWith_sendOrWarn served tx rfl⟩

/-- A sampler that is created says nothing to the client. -/
theorem createGrammarLlamaSampler_ok {ctx : ContinuousBatchSchedulerContext C}
    {answers : AcceptanceAnswers C} {grammarSampler : Option GrammarSampler}
    {tx tx' : Sender GeneratedTokenResult} {hasGrammar : Bool}
    (h : createGrammarLlamaSampler ctx answers grammarSampler tx = (.ok hasGrammar, tx')) :
    tx' = tx := by
  rcases createGrammarLlamaSampler_spec True h with ⟨_, -, htx⟩ | ⟨_, _, _, hresult, -⟩
  · exact htx
  · cases hresult

theorem acceptTextPrompt_step {ctx : ContinuousBatchSchedulerContext C}
    {answers : AcceptanceAnswers C} {sampling : Nat → SamplingAnswers} {served harvests : Prop}
    {prompt : String} {maxTokens : Int} {grammarSampler : Option GrammarSampler}
    {parseToolCalls : Bool} {tools : List Tool} {tx : Sender GeneratedTokenResult}
    {s : ContinuousBatchScheduler C}
    (hpipeline : served → ∃ outcome, buildToolCallPipeline ctx.toolCallApi tools parseToolCalls =
      .ok outcome)
    (hclassifier : served → ∃ c, answers.sampledTokenClassifier = .ok c) :
    AcceptStep ctx answers sampling served harvests tx (some prompt) (some maxTokens) s
      (acceptTextPrompt ctx answers prompt maxTokens grammarSampler parseToolCalls tools tx s) := by
  unfold acceptTextPrompt
  split
  · rename_i err herr
    refine .refused (refusedWith_silent tx fun hs => ?_)
    obtain ⟨outcome, ho⟩ := hpipeline hs
    rw [herr] at ho
    cases ho
  · exact .refused (refusedWith_sendOrWarn served tx rfl)
  · split
    · exact .refused (refusedWith_sendOrWarn served tx rfl)
    · rename_i sequenceId pool hacquire
      have hreleased : { s with sequenceIdPool := pool.release sequenceId } = s := by
        rw [SequenceIdPool.acquire_release hacquire]
      dsimp only
      rw [hreleased]
      split
      · exact .refused (refusedWith_sendOrWarn served tx rfl)
      · rename_i promptTokens htokens
        split
        · rename_i err tx' hgrammar
          rcases createGrammarLlamaSampler_spec served hgrammar with
            ⟨_, h, -⟩ | ⟨_, _, _, -, -, hrefused⟩
          · cases h
          · exact .refused hrefused
        · rename_i hasGrammar tx' hgrammar
          have htx := createGrammarLlamaSampler_ok hgrammar
          subst htx
          split
          · rename_i err herr
            refine .refused (refusedWith_silent tx' fun hs => ?_)
            obtain ⟨c, hc⟩ := hclassifier hs
            rw [herr] at hc
            cases hc
          · rename_i classifier hclassifier'
            exact .text hacquire rfl htokens rfl hclassifier'

theorem decodeImages_isEmpty {answers : AcceptanceAnswers C} {resize : Nat} :
    ∀ {urls : List ImageUrl} {images : List DecodedImage},
      decodeImages answers resize urls = .ok images → images.isEmpty = urls.isEmpty
  | [], images, h => by
    cases h
    rfl
  | url :: urls, images, h => by
    unfold decodeImages at h
    split at h
    · cases h
    · split at h
      · cases h
      · cases h
        rfl

/-- What `prepare_conversation_history_request` hands on, with the channel untouched, or the
refusal it sent. -/
theorem prepareConversationHistoryRequest_spec {served : Prop}
    {ctx : ContinuousBatchSchedulerContext C} {answers : AcceptanceAnswers C}
    {params : ContinueFromConversationHistoryParams} {tx tx' : Sender GeneratedTokenResult}
    {result : Except String PreparedConversationHistoryRequest}
    (hmarker : served → ∃ marker, answers.mtmdDefaultMarker = .ok marker)
    (h : prepareConversationHistoryRequest ctx answers params tx = (result, tx')) :
    (∃ err, result = .error err ∧ RefusedWith served tx tx') ∨
    (tx' = tx ∧ ∃ rawPrompt sampler, result = .ok (.textPrompt rawPrompt params.maxTokens sampler
      params.parseToolCalls params.tools)) ∨
    (tx' = tx ∧ ctx.hasMultimodalContext = true ∧
      params.conversationHistory.extractImageUrls ≠ [] ∧
      ∃ rawPrompt images sampler, result = .ok (.multimodalPrompt rawPrompt images params.maxTokens
        sampler params.parseToolCalls params.tools)) := by
  unfold prepareConversationHistoryRequest at h
  split at h
  · rename_i err tx₁ hgrammar
    cases h
    rcases resolveGrammar_spec served hgrammar with ⟨_, hr, -⟩ | ⟨_, -, hrefused⟩
    · cases hr
    · exact Or.inl ⟨err, rfl, hrefused⟩
  · rename_i sampler tx₁ hgrammar
    have htx : tx₁ = tx := by
      rcases resolveGrammar_spec served hgrammar with ⟨_, -, hr⟩ | ⟨_, hr, -⟩
      · exact hr
      · cases hr
    subst htx
    split at h
    · cases h
      exact Or.inl ⟨_, rfl, refusedWith_sendOrWarn served tx₁ rfl⟩
    · rename_i images himages
      have hempty := decodeImages_isEmpty himages
      split at h
      · rename_i err herr
        cases h
        refine Or.inl ⟨err, rfl, refusedWith_silent _ fun hs => ?_⟩
        obtain ⟨marker, hm⟩ := hmarker hs
        rw [herr] at hm
        cases hm
      · dsimp only at h
        split at h
        · cases h
          exact Or.inl ⟨_, rfl, refusedWith_sendOrWarn served tx₁ rfl⟩
        · split at h
          · cases h
            exact Or.inl ⟨_, rfl, refusedWith_sendOrWarn served tx₁ rfl⟩
          · rename_i rawPrompt _
            split at h
            · cases h
              exact Or.inl ⟨_, rfl, refusedWith_sendOrWarn served tx₁ rfl⟩
            · rename_i hsupported
              split at h
              · rename_i hnonempty
                cases h
                refine Or.inr (Or.inr ⟨rfl, ?_, ?_, rawPrompt, images, sampler, rfl⟩)
                · simpa [hnonempty] using hsupported
                · intro hnil
                  rw [hnil] at hempty
                  simp [hempty] at hnonempty
              · cases h
                exact Or.inr (Or.inl ⟨rfl, rawPrompt, sampler, rfl⟩)

theorem admitMultimodalRequest_spec {served : Prop} {ctx : ContinuousBatchSchedulerContext C}
    (answers : AcceptanceAnswers C) (prompt : String) (images : List DecodedImage)
    {parseToolCalls : Bool} {tools : List Tool} (tx : Sender GeneratedTokenResult)
    (pool : SequenceIdPool)
    (hpipeline : served → ∃ outcome, buildToolCallPipeline ctx.toolCallApi tools parseToolCalls =
      .ok outcome) :
    (∃ tx', admitMultimodalRequest ctx answers prompt images parseToolCalls tools tx pool =
      .error tx' ∧ RefusedWith served tx tx') ∨
    (∃ pipeline sequenceId pool', admitMultimodalRequest ctx answers prompt images parseToolCalls
      tools tx pool = .ok (pipeline, sequenceId, pool') ∧
      pool.acquire = some (sequenceId, pool')) := by
  unfold admitMultimodalRequest
  split
  · rename_i err herr
    refine Or.inl ⟨tx, rfl, refusedWith_silent tx fun hs => ?_⟩
    obtain ⟨outcome, ho⟩ := hpipeline hs
    rw [herr] at ho
    cases ho
  · exact Or.inl ⟨_, rfl, refusedWith_sendOrWarn served tx rfl⟩
  · split
    · exact Or.inl ⟨_, rfl, refusedWith_sendOrWarn served tx rfl⟩
    · rename_i sequenceId pool' hacquire
      split
      · exact Or.inl ⟨_, rfl, refusedWith_sendOrWarn served tx rfl⟩
      · split
        · exact Or.inl ⟨_, rfl, refusedWith_sendOrWarn served tx rfl⟩
        · exact Or.inr ⟨_, sequenceId, pool', rfl, hacquire⟩

theorem evalMultimodalRequest_step {ctx : ContinuousBatchSchedulerContext C}
    {answers : AcceptanceAnswers C} {sampling : Nat → SamplingAnswers} {served harvests : Prop}
    {maxTokens : Int} {grammarSampler : Option GrammarSampler} {tx : Sender GeneratedTokenResult}
    {pipeline : Option ToolCallPipeline} {sequenceId : Int} {pool : SequenceIdPool}
    {prompted : Option String} {s : ContinuousBatchScheduler C} (hharvests : harvests)
    (hclassifier : served → ∃ c, answers.sampledTokenClassifier = .ok c)
    (hbatch : served → ctx.inferenceParameters.nBatch ≤ i32Max)
    (hacquire : s.sequenceIdPool.acquire = some (sequenceId, pool)) :
    AcceptStep ctx answers sampling served harvests tx prompted (some maxTokens) s
      (evalMultimodalRequest ctx answers sampling maxTokens grammarSampler tx pipeline sequenceId
        pool s) := by
  unfold evalMultimodalRequest
  dsimp only
  rw [SequenceIdPool.acquire_release hacquire]
  split
  · rename_i err herr
    refine .harvestRefused hharvests hacquire (refusedWith_silent tx fun hs => ?_) (Or.inl rfl)
    obtain ⟨c, hc⟩ := hclassifier hs
    rw [herr] at hc
    cases hc
  · rename_i classifier hclassifier'
    split
    · rename_i hlarge
      refine .harvestRefused hharvests hacquire (refusedWith_silent tx fun hs => ?_) (Or.inl rfl)
      have := hbatch hs
      omega
    · split
      · rename_i mismatch heval
        exact .harvestRefused hharvests hacquire (refusedWith_sendOrWarn served tx rfl)
          (Or.inr ⟨rfl, Or.inl ⟨_, heval⟩⟩)
      · rename_i err heval
        exact .harvestRefused hharvests hacquire (refusedWith_sendOrWarn served tx rfl)
          (Or.inr ⟨rfl, Or.inl ⟨_, heval⟩⟩)
      · rename_i tokensIngested heval
        split
        · rename_i err tx' hgrammar
          rcases createGrammarLlamaSampler_spec served hgrammar with
            ⟨_, h, -⟩ | ⟨_, grammar, err', -, hg, hrefused⟩
          · cases h
          · exact .harvestRefused hharvests hacquire hrefused
              (Or.inr ⟨rfl, Or.inr ⟨tokensIngested, grammar, err', heval, hg⟩⟩)
        · rename_i hasGrammar tx' hgrammar
          have htx := createGrammarLlamaSampler_ok hgrammar
          subst htx
          exact .multimodal hharvests hacquire heval rfl hclassifier'

/-- No answer makes a conversation end without a result: its tools can be serialized, the token
classifier can be built, the media marker is there, and with images `n_batch` fits in an `i32`. -/
structure ConversationServed (ctx : ContinuousBatchSchedulerContext C)
    (answers : AcceptanceAnswers C) (params : ContinueFromConversationHistoryParams) : Prop where
  pipeline : ∃ outcome, buildToolCallPipeline ctx.toolCallApi params.tools params.parseToolCalls =
    .ok outcome
  classifier : ∃ c, answers.sampledTokenClassifier = .ok c
  marker : ∃ marker, answers.mtmdDefaultMarker = .ok marker
  nBatch : params.conversationHistory.extractImageUrls ≠ [] →
    ctx.inferenceParameters.nBatch ≤ i32Max

/-- The conversation is a multimodal prompt that gets as far as the harvest. -/
def harvestsFor (ctx : ContinuousBatchSchedulerContext C) (answers : AcceptanceAnswers C)
    (request : ContinueFromConversationHistoryRequest) (s : ContinuousBatchScheduler C) : Bool :=
  match prepareConversationHistoryRequest ctx answers request.params request.generatedTokensTx with
  | (.ok (.multimodalPrompt rawPrompt images _ _ parseToolCalls tools), tx) =>
    ctx.hasMultimodalContext && (admitMultimodalRequest ctx answers rawPrompt images parseToolCalls
      tools tx s.sequenceIdPool).isOk
  | _ => false

/-- The prompt of a conversation that is accepted as text. -/
def conversationTextPrompt (ctx : ContinuousBatchSchedulerContext C) (answers : AcceptanceAnswers C)
    (request : ContinueFromConversationHistoryRequest) : Option String :=
  match (prepareConversationHistoryRequest ctx answers request.params
      request.generatedTokensTx).1 with
  | .ok (.textPrompt rawPrompt _ _ _ _) => some rawPrompt
  | _ => none

/-- **Accepting a conversation.** -/
theorem acceptConversationHistoryRequest_step (ctx : ContinuousBatchSchedulerContext C)
    (answers : AcceptanceAnswers C) (sampling : Nat → SamplingAnswers)
    (request : ContinueFromConversationHistoryRequest) (s : ContinuousBatchScheduler C) :
    AcceptStep ctx answers sampling (ConversationServed ctx answers request.params)
      (harvestsFor ctx answers request s = true) request.generatedTokensTx
      (conversationTextPrompt ctx answers request) (some request.params.maxTokens) s
      (acceptConversationHistoryRequest ctx answers sampling request s) := by
  unfold acceptConversationHistoryRequest
  cases hprep : prepareConversationHistoryRequest ctx answers request.params
      request.generatedTokensTx with
  | mk result tx =>
  rcases prepareConversationHistoryRequest_spec
      (fun hs : ConversationServed ctx answers request.params => hs.marker) hprep with
    ⟨err, rfl, hrefused⟩ | ⟨rfl, rawPrompt, sampler, rfl⟩ |
    ⟨rfl, hmultimodal, hurls, rawPrompt, images, sampler, rfl⟩
  · exact .refused hrefused
  · have hprompt : conversationTextPrompt ctx answers request = some rawPrompt := by
      simp [conversationTextPrompt, hprep]
    rw [hprompt]
    exact acceptTextPrompt_step (fun hs => hs.pipeline) (fun hs => hs.classifier)
  · dsimp only
    rw [if_pos hmultimodal]
    unfold acceptMultimodalRequest
    rcases admitMultimodalRequest_spec answers rawPrompt images request.generatedTokensTx
        s.sequenceIdPool
        (fun hs : ConversationServed ctx answers request.params => hs.pipeline) with
      ⟨tx', hadmitted, hrefused⟩ | ⟨pipeline, sequenceId, pool, hadmitted, hacquire⟩
    · rw [hadmitted]
      exact .refused hrefused
    · have hharvests : harvestsFor ctx answers request s = true := by
        simp [harvestsFor, hprep, hmultimodal, hadmitted, Except.isOk, Except.toBool]
      rw [hadmitted]
      exact evalMultimodalRequest_step hharvests (fun hs => hs.classifier)
        (fun hs => hs.nBatch hurls) hacquire

/-- **Accepting a raw prompt.** -/
theorem acceptRawPromptRequest_step (ctx : ContinuousBatchSchedulerContext C)
    (answers : AcceptanceAnswers C) (sampling : Nat → SamplingAnswers)
    (request : ContinueFromRawPromptRequest) (s : ContinuousBatchScheduler C) :
    AcceptStep ctx answers sampling (∃ c, answers.sampledTokenClassifier = .ok c) False
      request.generatedTokensTx (some request.params.rawPrompt) (some request.params.maxTokens) s
      (acceptRawPromptRequest ctx answers request s) := by
  unfold acceptRawPromptRequest
  cases hgrammar : resolveGrammar answers request.params.grammar false
    request.generatedTokensTx with
  | mk result tx =>
  rcases resolveGrammar_spec (∃ c, answers.sampledTokenClassifier = .ok c) hgrammar with
    ⟨sampler, rfl, rfl⟩ | ⟨err, rfl, hrefused⟩
  · exact acceptTextPrompt_step (fun _ => ⟨.disabled, rfl⟩) fun hs => hs
  · exact .refused hrefused

end Paddler
