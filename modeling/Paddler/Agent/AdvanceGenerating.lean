import Paddler.Agent.ActiveRequest

/-!
# Advancing generating requests

Model of the phases that turn a logits row into streamed tokens: `sample_token_phase.rs`,
`classify_token_phase.rs`, `emit_token_phase.rs`, `tool_call_pass.rs`,
`completion_check_phase.rs`, `advance_generating_phase.rs`, and of the second sampling site,
the loop body of `harvest_pending_samples_before_external_decode`.

* `advanceOne` / `applyOutcome` — one request of `AdvanceGeneratingPhase::run`.
* `harvestOne` — one request of the harvest before a multimodal prompt is evaluated.

Principal results: `emitOutcomes_spec` (what the emission loop puts on the channel) and
`advanceSampled_spec` (everything that can follow a successful sample).
-/

set_option autoImplicit false

namespace Paddler

variable {C : Type}

/-! ## Sampling -/

/-- `sample_outcome.rs`. -/
inductive SampleOutcome where
  | sampled (token : LlamaToken)
  | allCandidatesEliminated
  | grammarRejected (message : String)
  | failed (message : String)
  deriving DecidableEq, Repr

/-- `SampleTokenPhase::run`. -/
def sampleTokenPhase (answers : SamplingAnswers) (request : ContinuousBatchActiveRequest C) :
    SampleOutcome :=
  match sampleTokenAtBatchIndex answers request.hasGrammarSampler with
  | .ok (.token token) => .sampled token
  | .ok .allCandidatesEliminated => .allCandidatesEliminated
  | .ok (.grammarRejectedModelOutput message) => .grammarRejected message
  | .error message => .failed message

/-! ## Classification -/

/-- `classified_token.rs`. -/
structure ClassifiedToken where
  sampledToken : SampledToken
  wasInToolCall : Bool
  isInToolCall : Bool
  visiblePiece : String
  rawPiece : String
  deriving DecidableEq, Repr

def sectionOf : SampledToken → SampledTokenSection
  | .reasoning _ => .reasoning
  | .content _ => .content
  | .toolCall _ => .toolCall
  | .undeterminable _ => .pending

def classifyIngestOutcomes : List IngestOutcome → SampledTokenSection → List ClassifiedToken
  | [], _ => []
  | outcome :: outcomes, previousSection =>
    { sampledToken := outcome.sampledToken
      wasInToolCall := previousSection == .toolCall
      isInToolCall := sectionOf outcome.sampledToken == .toolCall
      visiblePiece := outcome.visiblePiece
      rawPiece := outcome.rawPiece } ::
    classifyIngestOutcomes outcomes (sectionOf outcome.sampledToken)

/-- The outcomes of one `ingest` call that belong to tokens which do not end the generation.  The
call for an end-of-generation token may still release outcomes of earlier tokens. -/
def outcomesOfTokens (isEogToken : LlamaToken → Bool) (rawToken : LlamaToken)
    (outcomes : List IngestOutcome) : List IngestOutcome :=
  if isEogToken rawToken then outcomes.filter fun outcome => !isEogToken outcome.sampledToken.token
  else outcomes

/-- `token_classifier.ingest(raw_token)`, with its history. -/
def ingest (ctx : ContinuousBatchSchedulerContext C) (request : ContinuousBatchActiveRequest C)
    (rawToken : LlamaToken) : Except String (List IngestOutcome) × ContinuousBatchActiveRequest C :=
  match ctx.classifier.ingest request.tokenClassifier rawToken with
  | (.error err, classifier) => (.error err, { request with tokenClassifier := classifier })
  | (.ok outcomes, classifier) =>
    (.ok outcomes, { request with
      tokenClassifier := classifier
      history := { request.history with
        returned := request.history.returned ++
          outcomesOfTokens ctx.isEogToken rawToken outcomes } })

/-! ## Emission -/

def tokenToEvent (sampledToken : SampledToken) (piece : String) : GeneratedTokenResult :=
  match sampledToken with
  | .content _ => .contentToken piece
  | .reasoning _ => .reasoningToken piece
  | .toolCall _ => .toolCallToken piece
  | .undeterminable _ => .undeterminableToken piece

/-- `emit_classified`: `false` is `EmitTokenOutcome::ChannelDropped`. -/
def emitClassified (classified : ClassifiedToken) (tx : Sender GeneratedTokenResult) :
    Bool × Sender GeneratedTokenResult :=
  if classified.visiblePiece.isEmpty then (true, tx)
  else tx.send (tokenToEvent classified.sampledToken classified.visiblePiece)

/-- `tool_call_pass::run`. -/
def toolCallPass (api : ToolCallApi) (pipeline : Option ToolCallPipeline)
    (classified : ClassifiedToken) : Option GeneratedTokenResult × Option ToolCallPipeline :=
  match pipeline with
  | none => (none, none)
  | some pipeline =>
    let fed := match classified.sampledToken with
      | .toolCall _ => pipeline.feed classified.rawPiece
      | _ => pipeline
    if !classified.wasInToolCall || classified.isInToolCall then (none, some fed)
    else ((fed.finalizeToGeneratedEvent api).1, some (fed.finalizeToGeneratedEvent api).2)

/-- `if let Some(event) = … && tx.send(event).is_err()`: `false` when the send failed. -/
def sendEvent (event : Option GeneratedTokenResult) (tx : Sender GeneratedTokenResult) :
    Bool × Sender GeneratedTokenResult :=
  match event with
  | none => (true, tx)
  | some event => tx.send event

/-- The emission loop of `advance_one`; `false` is an early return with `ChannelDropped`. -/
def emitOutcomes (api : ToolCallApi) :
    List ClassifiedToken → ContinuousBatchActiveRequest C → Bool × ContinuousBatchActiveRequest C
  | [], request => (true, request)
  | classified :: rest, request =>
    match emitClassified classified request.generatedTokensTx with
    | (false, tx) => (false, { request with generatedTokensTx := tx })
    | (true, tx) =>
      let pass := toolCallPass api request.toolCallPipeline classified
      match sendEvent pass.1 tx with
      | (false, tx) => (false, { request with generatedTokensTx := tx, toolCallPipeline := pass.2 })
      | (true, tx) =>
        emitOutcomes api rest { request with generatedTokensTx := tx, toolCallPipeline := pass.2 }

/-- The tool-call flush when a generation ends; `false` is `ChannelDropped`. -/
def flushToolCalls (api : ToolCallApi) (request : ContinuousBatchActiveRequest C) :
    Bool × ContinuousBatchActiveRequest C :=
  match request.toolCallPipeline with
  | none => (true, request)
  | some pipeline =>
    if pipeline.buffer.isEmpty then (true, request)
    else
      let finalized := pipeline.finalizeToGeneratedEvent api
      let sent := sendEvent finalized.1 request.generatedTokensTx
      (sent.1, { request with generatedTokensTx := sent.2, toolCallPipeline := some finalized.2 })

/-! ## Completion -/

/-- `completion_check_outcome.rs`. -/
inductive CompletionCheckOutcome where
  | continue
  | reachedEog
  | reachedMaxTokens
  deriving DecidableEq, Repr

def completionTokenCount (usage : TokenUsage) : Nat :=
  usage.contentTokens + usage.reasoningTokens + usage.undeterminableTokens

def maxTokensOutcome (maxTokens : Int) (usage : TokenUsage) : CompletionCheckOutcome :=
  if maxTokens < 0 then .reachedMaxTokens
  else if maxTokens ≤ completionTokenCount usage then .reachedMaxTokens
  else .continue

/-- `CompletionCheckPhase::run`. -/
def completionCheckPhase (ctx : ContinuousBatchSchedulerContext C)
    (request : ContinuousBatchActiveRequest C) (sampledToken : SampledToken) :
    CompletionCheckOutcome :=
  if ctx.isEogToken sampledToken.token then .reachedEog
  else maxTokensOutcome request.state.maxTokens (ctx.classifier.usage request.tokenClassifier)

theorem completionCheckPhase_content (ctx : ContinuousBatchSchedulerContext C)
    (request : ContinuousBatchActiveRequest C) (t : LlamaToken) :
    completionCheckPhase ctx request (.content t) =
      if ctx.isEogToken t then .reachedEog
      else maxTokensOutcome request.state.maxTokens
        (ctx.classifier.usage request.tokenClassifier) :=
  rfl

/-- The summary sent with `Done`. -/
def generationSummary (ctx : ContinuousBatchSchedulerContext C)
    (request : ContinuousBatchActiveRequest C) : GenerationSummary :=
  ⟨ctx.classifier.usage request.tokenClassifier⟩

/-! ## Advancing one request -/

/-- `advance_outcome.rs`. -/
inductive AdvanceOutcome where
  | sampledAndStored (token : SampledToken)
  | completed (result : GeneratedTokenResult)
  | channelDropped
  deriving DecidableEq, Repr

/-- Flush the tool-call buffer and complete with `Done`. -/
def finishGeneration (ctx : ContinuousBatchSchedulerContext C)
    (request : ContinuousBatchActiveRequest C) :
    AdvanceOutcome × ContinuousBatchActiveRequest C :=
  match flushToolCalls ctx.toolCallApi request with
  | (false, request) => (.channelDropped, request)
  | (true, request) => (.completed (.done (generationSummary ctx request)), request)

/-- `advance_one` from the sampled token on. -/
def advanceSampled (ctx : ContinuousBatchSchedulerContext C) (rawToken : LlamaToken)
    (request : ContinuousBatchActiveRequest C) :
    AdvanceOutcome × ContinuousBatchActiveRequest C :=
  let sectionBeforeIngest := ctx.classifier.currentSection request.tokenClassifier
  match ingest ctx request rawToken with
  | (.error err, request) => (.completed (.detokenizationFailed err), request)
  | (.ok outcomes, request) =>
    let rawAsSampled := SampledToken.content rawToken
    match completionCheckPhase ctx request rawAsSampled with
    | .reachedEog => finishGeneration ctx request
    | _ =>
      match emitOutcomes ctx.toolCallApi (classifyIngestOutcomes outcomes sectionBeforeIngest)
          request with
      | (false, request) => (.channelDropped, request)
      | (true, request) =>
        match completionCheckPhase ctx request rawAsSampled with
        | .reachedEog | .reachedMaxTokens => finishGeneration ctx request
        | .continue => (.sampledAndStored rawAsSampled, request)

/-- The text of the terminal result when no candidate is left. -/
def allCandidatesEliminatedMessage : String :=
  "all token candidates were eliminated during sampling"

def advanceOne (ctx : ContinuousBatchSchedulerContext C) (llama : LlamaContext)
    (answers : SamplingAnswers) (request : ContinuousBatchActiveRequest C) :
    Option AdvanceOutcome × ContinuousBatchActiveRequest C :=
  match request.sampleableBatchIndex with
  | none => (none, request)
  | some batchIndex =>
    let request := request.recordRead llama batchIndex
    match sampleTokenPhase answers request with
    | .allCandidatesEliminated =>
      (some (.completed (.samplerError allCandidatesEliminatedMessage)), request)
    | .grammarRejected message => (some (.completed (.grammarRejectedModelOutput message)), request)
    | .failed message => (some (.completed (.samplerError message)), request)
    | .sampled rawToken =>
      let advanced := advanceSampled ctx rawToken (request.recordSampled rawToken)
      (some advanced.1, advanced.2)

def applyOutcome (request : ContinuousBatchActiveRequest C) :
    Option AdvanceOutcome → ContinuousBatchActiveRequest C
  | none => request
  | some (.sampledAndStored token) =>
    { request with state := request.state.storePendingToken token }
  | some (.completed event) => request.completeWithOutcome event
  | some .channelDropped => { request with state := request.state.markCompleted .emitNothing }

/-- The loop body of `AdvanceGeneratingPhase::run`. -/
def advance (ctx : ContinuousBatchSchedulerContext C) (llama : LlamaContext)
    (answers : SamplingAnswers) (request : ContinuousBatchActiveRequest C) :
    ContinuousBatchActiveRequest C :=
  applyOutcome (advanceOne ctx llama answers request).2 (advanceOne ctx llama answers request).1

/-- The loop body of `harvest_pending_samples_before_external_decode`: the classifier sees the
token, the outcomes it returns are dropped, and the token waits for the next batch. -/
def harvestOne (ctx : ContinuousBatchSchedulerContext C) (llama : LlamaContext)
    (answers : SamplingAnswers) (request : ContinuousBatchActiveRequest C) :
    ContinuousBatchActiveRequest C :=
  match request.sampleableBatchIndex with
  | none => request
  | some batchIndex =>
    let request := request.recordRead llama batchIndex
    match sampleTokenAtBatchIndex answers request.hasGrammarSampler with
    | .ok (.token rawToken) =>
      match ingest ctx (request.recordSampled rawToken) rawToken with
      | (.error err, request) => request.completeWithOutcome (.detokenizationFailed err)
      | (.ok _, request) =>
        { request with state := { request.state with
            pendingSampledToken := some (.content rawToken)
            iBatch := none } }
    | .ok .allCandidatesEliminated =>
      request.completeWithOutcome (.samplerError allCandidatesEliminatedMessage)
    | .ok (.grammarRejectedModelOutput message) =>
      request.completeWithOutcome (.grammarRejectedModelOutput message)
    | .error message => request.completeWithOutcome (.samplerError message)

/-! ## What the emission loop sends -/

/-- The event `emit_classified` sends for one outcome. -/
def visibleEvent (outcome : IngestOutcome) : Option GeneratedTokenResult :=
  if outcome.visiblePiece.isEmpty then none
  else some (tokenToEvent outcome.sampledToken outcome.visiblePiece)

/-- The token events of a list of outcomes, in order. -/
def visibleEvents (outcomes : List IngestOutcome) : List GeneratedTokenResult :=
  outcomes.filterMap visibleEvent

/-- The token events among the results of a channel. -/
def tokenEvents (results : List GeneratedTokenResult) : List GeneratedTokenResult :=
  results.filter GeneratedTokenResult.isToken

theorem visibleEvents_append (xs ys : List IngestOutcome) :
    visibleEvents (xs ++ ys) = visibleEvents xs ++ visibleEvents ys :=
  List.filterMap_append

theorem tokenEvents_append (xs ys : List GeneratedTokenResult) :
    tokenEvents (xs ++ ys) = tokenEvents xs ++ tokenEvents ys :=
  List.filter_append xs ys

theorem tokenToEvent_isToken (sampledToken : SampledToken) (piece : String) :
    (tokenToEvent sampledToken piece).isToken = true := by
  cases sampledToken <;> rfl

/-- The event of a classified token. -/
def ClassifiedToken.visibleEvent (classified : ClassifiedToken) : Option GeneratedTokenResult :=
  if classified.visiblePiece.isEmpty then none
  else some (tokenToEvent classified.sampledToken classified.visiblePiece)

/-- Classification changes neither the order nor the visible pieces. -/
theorem classifyIngestOutcomes_visibleEvents :
    ∀ (outcomes : List IngestOutcome) (previousSection : SampledTokenSection),
      (classifyIngestOutcomes outcomes previousSection).filterMap ClassifiedToken.visibleEvent =
        visibleEvents outcomes
  | [], _ => rfl
  | outcome :: outcomes, previousSection => by
    have ih := classifyIngestOutcomes_visibleEvents outcomes (sectionOf outcome.sampledToken)
    simp only [classifyIngestOutcomes, visibleEvents, List.filterMap_cons] at ih ⊢
    rw [ih]
    rfl

/-- `r'` is `r` up to its channel and its tool-call buffer. -/
def SameButChannel (r r' : ContinuousBatchActiveRequest C) : Prop :=
  r' = { r with
    generatedTokensTx := r'.generatedTokensTx
    toolCallPipeline := r'.toolCallPipeline }

theorem emitClassified_spec {classified : ClassifiedToken} {tx tx' : Sender GeneratedTokenResult}
    {delivered : Bool} (h : emitClassified classified tx = (delivered, tx')) :
    (delivered = true ∧ tx.Extends tx' classified.visibleEvent.toList) ∨
      (delivered = false ∧ tx' = tx ∧ tx'.receiverDropsAfter ≠ none) := by
  unfold emitClassified at h
  unfold ClassifiedToken.visibleEvent
  split at h
  · rename_i hempty
    cases h
    rw [if_pos hempty]
    exact Or.inl ⟨rfl, Sender.Extends.refl tx⟩
  · rename_i hempty
    rw [if_neg hempty]
    exact Sender.send_extends h

/-- The events of the tool-call pipeline are neither tokens nor terminal. -/
theorem finalizeToGeneratedEvent_quiet {api : ToolCallApi} {pipeline : ToolCallPipeline}
    {event : GeneratedTokenResult} (h : (pipeline.finalizeToGeneratedEvent api).1 = some event) :
    event.isToken = false ∧ event.isDone = false :=
  intoGeneratedTokenResult_not_token h

theorem toolCallPass_quiet {api : ToolCallApi} {pipeline : Option ToolCallPipeline}
    {classified : ClassifiedToken} {event : GeneratedTokenResult}
    (h : (toolCallPass api pipeline classified).1 = some event) :
    event.isToken = false ∧ event.isDone = false := by
  unfold toolCallPass at h
  split at h
  · cases h
  · dsimp only at h
    split at h
    · cases h
    · exact finalizeToGeneratedEvent_quiet h

theorem sendEvent_spec {event : Option GeneratedTokenResult} {tx tx' : Sender GeneratedTokenResult}
    {delivered : Bool} (h : sendEvent event tx = (delivered, tx')) :
    (delivered = true ∧ tx.Extends tx' event.toList) ∨
      (delivered = false ∧ tx' = tx ∧ tx'.receiverDropsAfter ≠ none) := by
  cases event with
  | none =>
    cases h
    exact Or.inl ⟨rfl, Sender.Extends.refl tx⟩
  | some event => exact Sender.send_extends h

theorem visibleEvent_isToken (classified : ClassifiedToken) :
    ∀ e ∈ classified.visibleEvent.toList, e.isToken = true := by
  intro e he
  unfold ClassifiedToken.visibleEvent at he
  split at he
  · simp at he
  · simp only [Option.toList_some, List.mem_singleton] at he
    rw [he]
    exact tokenToEvent_isToken _ _

/-- **The emission loop** sends exactly the visible pieces, in order, between events that are
neither tokens nor terminal; it stops early only when the receiver is gone. -/
theorem emitOutcomes_spec (api : ToolCallApi) :
    ∀ (classified : List ClassifiedToken) (r r' : ContinuousBatchActiveRequest C) (delivered : Bool),
      emitOutcomes api classified r = (delivered, r') →
      SameButChannel r r' ∧ ∃ events, r.generatedTokensTx.Extends r'.generatedTokensTx events ∧
        (∀ e ∈ events, e.isDone = false) ∧
        tokenEvents events <+: classified.filterMap ClassifiedToken.visibleEvent ∧
        (delivered = true → tokenEvents events =
          classified.filterMap ClassifiedToken.visibleEvent) ∧
        (delivered = false → r'.generatedTokensTx.receiverDropsAfter ≠ none)
  | [], r, r', delivered, h => by
    cases h
    exact ⟨rfl, [], Sender.Extends.refl _, by simp, by simp [tokenEvents], by simp [tokenEvents],
      by simp⟩
  | c :: rest, r, r', delivered, h => by
    have hcons : (c :: rest).filterMap ClassifiedToken.visibleEvent =
        c.visibleEvent.toList ++ rest.filterMap ClassifiedToken.visibleEvent := by
      cases hv : c.visibleEvent <;> simp [hv]
    have hdone := visibleEvent_isToken c
    have htokens : tokenEvents c.visibleEvent.toList = c.visibleEvent.toList :=
      List.filter_eq_self.mpr hdone
    simp only [emitOutcomes] at h
    split at h
    · rename_i tx hemit
      cases h
      rcases emitClassified_spec hemit with ⟨hb, -⟩ | ⟨-, htx, hgone⟩
      · cases hb
      · exact ⟨rfl, [], htx ▸ Sender.Extends.refl _, by simp, List.nil_prefix, by simp,
          fun _ => hgone⟩
    · rename_i tx hemit
      have hext : r.generatedTokensTx.Extends tx c.visibleEvent.toList := by
        rcases emitClassified_spec hemit with ⟨-, hext⟩ | ⟨hb, -⟩
        · exact hext
        · cases hb
      have hquiet : ∀ e ∈ (toolCallPass api r.toolCallPipeline c).1.toList,
          e.isToken = false ∧ e.isDone = false :=
        fun e he => toolCallPass_quiet (by simpa using he)
      split at h
      · rename_i tx2 hsend
        cases h
        rcases sendEvent_spec hsend with ⟨hb, -⟩ | ⟨-, htx, hgone⟩
        · cases hb
        · refine ⟨rfl, c.visibleEvent.toList, htx ▸ hext, ?_, ?_, by simp, fun _ => hgone⟩
          · exact fun e he => GeneratedTokenResult.isDone_of_isToken (hdone e he)
          · rw [htokens, hcons]
            exact List.prefix_append _ _
      · rename_i tx2 hsend
        have hext2 : tx.Extends tx2 (toolCallPass api r.toolCallPipeline c).1.toList := by
          rcases sendEvent_spec hsend with ⟨-, hext2⟩ | ⟨hb, -⟩
          · exact hext2
          · cases hb
        obtain ⟨hsame, events, hrest, hnd, hpre, htok, hgone⟩ := emitOutcomes_spec api rest _ _ _ h
        have hsent : tokenEvents (c.visibleEvent.toList ++
            (toolCallPass api r.toolCallPipeline c).1.toList ++ events) =
            c.visibleEvent.toList ++ tokenEvents events := by
          have hpass : tokenEvents (toolCallPass api r.toolCallPipeline c).1.toList = [] :=
            List.filter_eq_nil_iff.mpr fun e he => by simp [(hquiet e he).1]
          rw [tokenEvents_append, tokenEvents_append, htokens, hpass, List.append_nil]
        refine ⟨?_, _, (hext.trans hext2).trans hrest, ?_, ?_, ?_, hgone⟩
        · unfold SameButChannel at hsame ⊢
          rw [hsame]
        · intro e he
          simp only [List.mem_append] at he
          rcases he with (he | he) | he
          · exact GeneratedTokenResult.isDone_of_isToken (hdone e he)
          · exact (hquiet e he).2
          · exact hnd e he
        · rw [hsent, hcons]
          exact (List.prefix_append_right_inj _).mpr hpre
        · intro hd
          rw [hsent, hcons, htok hd]

/-- The flush at the end of a generation sends no token and no terminal result. -/
theorem flushToolCalls_spec {api : ToolCallApi} {r r' : ContinuousBatchActiveRequest C}
    {delivered : Bool} (h : flushToolCalls api r = (delivered, r')) :
    SameButChannel r r' ∧ ∃ events, r.generatedTokensTx.Extends r'.generatedTokensTx events ∧
      (∀ e ∈ events, e.isDone = false) ∧ tokenEvents events = [] ∧
      (delivered = false → r'.generatedTokensTx.receiverDropsAfter ≠ none) := by
  unfold flushToolCalls at h
  split at h
  · cases h
    exact ⟨rfl, [], Sender.Extends.refl _, by simp, rfl, by simp⟩
  · rename_i pipeline hp
    split at h
    · cases h
      exact ⟨rfl, [], Sender.Extends.refl _, by simp, rfl, by simp⟩
    · obtain ⟨d, tx, hsend⟩ : ∃ d tx, sendEvent (pipeline.finalizeToGeneratedEvent api).1
          r.generatedTokensTx = (d, tx) := ⟨_, _, rfl⟩
      simp only [hsend] at h
      cases h
      refine ⟨rfl, ?_⟩
      rcases sendEvent_spec hsend with ⟨hb, hext⟩ | ⟨-, htx, hgone⟩
      · refine ⟨_, hext, ?_, ?_, by simp [hb]⟩
        · intro e he
          exact (finalizeToGeneratedEvent_quiet (by simpa using he)).2
        · refine List.filter_eq_nil_iff.mpr fun e he => ?_
          rw [(finalizeToGeneratedEvent_quiet (by simpa using he)).1]
          simp
      · exact ⟨[], htx ▸ Sender.Extends.refl _, by simp, rfl, fun _ => hgone⟩

/-! ## What can follow a sampled token -/

/-- `r'` is `r` after the classifier moved to `classifier` with the outcomes `returned`, and after
the non-terminal results `events` were sent. -/
structure Ingested (r r' : ContinuousBatchActiveRequest C) (classifier : C)
    (returned : List IngestOutcome) (events : List GeneratedTokenResult) : Prop where
  state : r'.state = r.state
  sequenceId : r'.sequenceId = r.sequenceId
  tokenClassifier : r'.tokenClassifier = classifier
  history : r'.history = { r.history with returned := r.history.returned ++ returned }
  channel : r.generatedTokensTx.Extends r'.generatedTokensTx events
  notDone : ∀ e ∈ events, e.isDone = false

theorem Ingested.trans_channel {r r₁ r₂ : ContinuousBatchActiveRequest C} {classifier : C}
    {returned : List IngestOutcome} {events events' : List GeneratedTokenResult}
    (h : Ingested r r₁ classifier returned events) (hs : SameButChannel r₁ r₂)
    (hx : r₁.generatedTokensTx.Extends r₂.generatedTokensTx events')
    (hn : ∀ e ∈ events', e.isDone = false) :
    Ingested r r₂ classifier returned (events ++ events') := by
  unfold SameButChannel at hs
  refine ⟨?_, ?_, ?_, ?_, h.channel.trans hx, ?_⟩
  · rw [hs]; exact h.state
  · rw [hs]; exact h.sequenceId
  · rw [hs]; exact h.tokenClassifier
  · rw [hs]; exact h.history
  · intro e he
    rcases List.mem_append.mp he with he | he
    · exact h.notDone e he
    · exact hn e he

theorem finishGeneration_spec {ctx : ContinuousBatchSchedulerContext C}
    {r r' : ContinuousBatchActiveRequest C} {outcome : AdvanceOutcome}
    (h : finishGeneration ctx r = (outcome, r')) :
    SameButChannel r r' ∧ ∃ events, r.generatedTokensTx.Extends r'.generatedTokensTx events ∧
      (∀ e ∈ events, e.isDone = false) ∧ tokenEvents events = [] ∧
      (outcome = .completed (.done (generationSummary ctx r')) ∨
        (outcome = .channelDropped ∧ r'.generatedTokensTx.receiverDropsAfter ≠ none)) := by
  unfold finishGeneration at h
  split at h
  · rename_i r₁ hf
    cases h
    obtain ⟨hs, events, hx, hn, ht, hg⟩ := flushToolCalls_spec hf
    exact ⟨hs, events, hx, hn, ht, Or.inr ⟨rfl, hg rfl⟩⟩
  · rename_i r₁ hf
    cases h
    obtain ⟨hs, events, hx, hn, ht, -⟩ := flushToolCalls_spec hf
    exact ⟨hs, events, hx, hn, ht, Or.inl rfl⟩

theorem finishGeneration_ne_stored (ctx : ContinuousBatchSchedulerContext C)
    (r : ContinuousBatchActiveRequest C) (token : SampledToken) :
    (finishGeneration ctx r).1 ≠ .sampledAndStored token := by
  unfold finishGeneration
  split <;> simp

/-- The token budget does not end a generation as its last token does. -/
theorem maxTokensOutcome_ne_reachedEog (maxTokens : Int) (usage : TokenUsage) :
    maxTokensOutcome maxTokens usage ≠ .reachedEog := by
  unfold maxTokensOutcome
  split
  · simp
  · split <;> simp

/-- **Everything `advance_one` can do after a successful sample.**  The classifier fails; or an
end-of-generation token finishes the request without emitting; or the visible pieces are all
emitted and the request finishes on its token budget or keeps the token; or the receiver is
gone. -/
theorem advanceSampled_spec {ctx : ContinuousBatchSchedulerContext C} {t : LlamaToken}
    {r r' : ContinuousBatchActiveRequest C} {outcome : AdvanceOutcome}
    (h : advanceSampled ctx t r = (outcome, r')) :
    (∃ err c, ctx.classifier.ingest r.tokenClassifier t = (.error err, c) ∧
      outcome = .completed (.detokenizationFailed err) ∧ r' = { r with tokenClassifier := c }) ∨
    (∃ outcomes c events, ctx.classifier.ingest r.tokenClassifier t = (.ok outcomes, c) ∧
      Ingested r r' c (outcomesOfTokens ctx.isEogToken t outcomes) events ∧
      ((ctx.isEogToken t = true ∧ tokenEvents events = [] ∧
          outcome = .completed (.done (generationSummary ctx r'))) ∨
        (ctx.isEogToken t = false ∧ tokenEvents events = visibleEvents outcomes ∧
          ((outcome = .completed (.done (generationSummary ctx r')) ∧
              maxTokensOutcome r.state.maxTokens (ctx.classifier.usage c) = .reachedMaxTokens) ∨
            (outcome = .sampledAndStored (.content t) ∧
              maxTokensOutcome r.state.maxTokens (ctx.classifier.usage c) = .continue))) ∨
        (outcome = .channelDropped ∧ r'.generatedTokensTx.receiverDropsAfter ≠ none ∧
          tokenEvents events <+: visibleEvents (outcomesOfTokens ctx.isEogToken t outcomes)))) := by
  unfold advanceSampled ingest at h
  cases hi : ctx.classifier.ingest r.tokenClassifier t with
  | mk result c =>
  rw [hi] at h
  cases result with
  | error err =>
    cases h
    exact Or.inl ⟨err, c, rfl, rfl, rfl⟩
  | ok outcomes =>
    right
    -- the request right after the classifier answered
    obtain ⟨r₁, hr₁⟩ : ∃ r₁, r₁ = { r with
      tokenClassifier := c
      history := { r.history with
        returned := r.history.returned ++ outcomesOfTokens ctx.isEogToken t outcomes } } := ⟨_, rfl⟩
    have hbase : Ingested r r₁ c (outcomesOfTokens ctx.isEogToken t outcomes) [] := by
      subst hr₁
      exact ⟨rfl, rfl, rfl, rfl, Sender.Extends.refl _, by simp⟩
    simp only [← hr₁, completionCheckPhase_content] at h
    by_cases heog : ctx.isEogToken t = true
    · rw [if_pos heog] at h
      obtain ⟨hs, events, hx, hn, ht, ho⟩ := finishGeneration_spec h
      refine ⟨outcomes, c, events, rfl, hbase.trans_channel hs hx hn, ?_⟩
      rcases ho with ho | ho
      · exact Or.inl ⟨heog, ht, ho⟩
      · exact Or.inr (Or.inr ⟨ho.1, ho.2, ht ▸ List.nil_prefix⟩)
    · rw [if_neg heog] at h
      have heog' : ctx.isEogToken t = false := by simpa using heog
      have hall : outcomesOfTokens ctx.isEogToken t outcomes = outcomes := if_neg heog
      split at h
      · rename_i hm
        exact absurd hm (maxTokensOutcome_ne_reachedEog _ _)
      · split at h
        · rename_i r₂ he
          cases h
          obtain ⟨hs, events, hx, hn, hpre, -, hg⟩ := emitOutcomes_spec _ _ _ _ _ he
          rw [classifyIngestOutcomes_visibleEvents] at hpre
          exact ⟨outcomes, c, events, rfl, hbase.trans_channel hs hx hn,
            Or.inr (Or.inr ⟨rfl, hg rfl, hall.symm ▸ hpre⟩)⟩
        · rename_i r₂ he
          obtain ⟨hs, events, hx, hn, -, ht, -⟩ := emitOutcomes_spec _ _ _ _ _ he
          have h₂ := hbase.trans_channel hs hx hn
          have htok : tokenEvents events = visibleEvents outcomes := by
            rw [ht rfl, classifyIngestOutcomes_visibleEvents]
          rw [if_neg heog] at h
          have hmax : maxTokensOutcome r₂.state.maxTokens
              (ctx.classifier.usage r₂.tokenClassifier) = maxTokensOutcome r.state.maxTokens
                (ctx.classifier.usage c) := by
            rw [h₂.state, h₂.tokenClassifier]
          rw [hmax] at h
          split at h
          · rename_i hm
            exact absurd hm (maxTokensOutcome_ne_reachedEog _ _)
          · rename_i hm
            obtain ⟨hs', events', hx', hn', ht', ho⟩ := finishGeneration_spec h
            refine ⟨outcomes, c, events ++ events', rfl, h₂.trans_channel hs' hx' hn', ?_⟩
            have hboth : tokenEvents (events ++ events') = visibleEvents outcomes := by
              rw [tokenEvents_append, htok, ht', List.append_nil]
            rcases ho with ho | ho
            · exact Or.inr (Or.inl ⟨heog', hboth, Or.inl ⟨ho, hm⟩⟩)
            · have hemitted := hboth.trans (congrArg visibleEvents hall.symm)
              exact Or.inr (Or.inr ⟨ho.1, ho.2, hemitted ▸ List.prefix_rfl⟩)
          · rename_i hm
            cases h
            exact ⟨outcomes, c, events, rfl, h₂, Or.inr (Or.inl ⟨heog', htok, Or.inr ⟨rfl, hm⟩⟩)⟩

/-- The state is only changed by what `apply_outcome` makes of the outcome. -/
theorem advanceSampled_state {ctx : ContinuousBatchSchedulerContext C} {t : LlamaToken}
    {r r' : ContinuousBatchActiveRequest C} {outcome : AdvanceOutcome}
    (h : advanceSampled ctx t r = (outcome, r')) : r'.state = r.state := by
  rcases advanceSampled_spec h with ⟨err, c, -, -, hr⟩ | ⟨outcomes, c, events, -, hing, -⟩
  · rw [hr]
  · exact hing.state

end Paddler
