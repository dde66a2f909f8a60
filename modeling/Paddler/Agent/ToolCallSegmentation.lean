import Paddler.Library.MaximalRuns
import Paddler.Agent.SamplingSites
import Paddler.Agent.Scheduler

/-!
# Tool-call segmentation

The raw pieces of a tool call reach the buffer of the pipeline one outcome at a time; the buffer is
parsed when the section ends, and once more when the generation does.

* `toolCallTexts` — what should be parsed: the texts of the maximal runs of tool-call outcomes.
* `advanceSampledTakes` — what is parsed: the buffers that one call of `advance_one` finalizes.
* `TokenRun` — one request from token to token.
* `toolCalls_segmented_iff` — **the two agree, except that an end-of-generation token loses the
  tool-call text that it releases.**
-/

set_option autoImplicit false

namespace Paddler

open MaximalRuns

variable {C : Type}

/-! ## What should be parsed -/

/-- The outcome is in the tool-call section. -/
def IngestOutcome.isToolCall (outcome : IngestOutcome) : Bool :=
  sectionOf outcome.sampledToken == .toolCall

/-- The text of a run of outcomes. -/
def runText (run : List IngestOutcome) : String := String.join (run.map (·.rawPiece))

/-- The texts among them that are not empty. -/
def nonempty (texts : List String) : List String := texts.filter fun text => !text.isEmpty

/-- The texts of the maximal runs of tool-call outcomes that have one. -/
def toolCallTexts (outcomes : List IngestOutcome) : List String :=
  nonempty ((runs IngestOutcome.isToolCall outcomes).map runText)

/-- The events of the tool-call pipeline. -/
def GeneratedTokenResult.isToolCallEvent : GeneratedTokenResult → Bool
  | .toolCallParsed _ | .toolCallParseFailed _ | .toolCallValidationFailed _
  | .unrecognizedToolCallFormat _ => true
  | _ => false

/-- The tool-call events among the results of a channel. -/
def toolCallEvents (results : List GeneratedTokenResult) : List GeneratedTokenResult :=
  results.filter GeneratedTokenResult.isToolCallEvent

/-- The event of a finalized buffer: the parser sees the text, unless it is empty. -/
def finalizedEvent (api : ToolCallApi) (pipeline : ToolCallPipeline) (text : String) :
    Option GeneratedTokenResult :=
  ({ pipeline with buffer := text }.finalizeToGeneratedEvent api).1

/-! ## What is parsed -/

/-- The buffer that `tool_call_pass::run` finalizes, if it does. -/
def toolCallPassTakes (pipeline : Option ToolCallPipeline) (classified : ClassifiedToken) :
    List String :=
  match pipeline with
  | none => []
  | some pipeline =>
    let fed := match classified.sampledToken with
      | .toolCall _ => pipeline.feed classified.rawPiece
      | _ => pipeline
    if !classified.wasInToolCall || classified.isInToolCall then [] else [fed.buffer]

/-- The buffers that the emission loop finalizes. -/
def emitOutcomesTakes (api : ToolCallApi) :
    List ClassifiedToken → ContinuousBatchActiveRequest C → List String
  | [], _ => []
  | classified :: rest, request =>
    match emitClassified classified request.generatedTokensTx with
    | (false, _) => []
    | (true, tx) =>
      let pass := toolCallPass api request.toolCallPipeline classified
      toolCallPassTakes request.toolCallPipeline classified ++
        match sendEvent pass.1 tx with
        | (false, _) => []
        | (true, tx) =>
          emitOutcomesTakes api rest
            { request with generatedTokensTx := tx, toolCallPipeline := pass.2 }

/-- The buffer that the flush at the end of a generation finalizes. -/
def flushToolCallsTakes (request : ContinuousBatchActiveRequest C) : List String :=
  match request.toolCallPipeline with
  | none => []
  | some pipeline => if pipeline.buffer.isEmpty then [] else [pipeline.buffer]

/-- The buffers that `advance_one` finalizes for one sampled token. -/
def advanceSampledTakes (ctx : ContinuousBatchSchedulerContext C) (rawToken : LlamaToken)
    (request : ContinuousBatchActiveRequest C) : List String :=
  let sectionBeforeIngest := ctx.classifier.currentSection request.tokenClassifier
  match ingest ctx request rawToken with
  | (.error _, _) => []
  | (.ok outcomes, request) =>
    let rawAsSampled := SampledToken.content rawToken
    match completionCheckPhase ctx request rawAsSampled with
    | .reachedEog => flushToolCallsTakes request
    | _ =>
      let classified := classifyIngestOutcomes outcomes sectionBeforeIngest
      emitOutcomesTakes ctx.toolCallApi classified request ++
        match emitOutcomes ctx.toolCallApi classified request with
        | (false, _) => []
        | (true, request) =>
          match completionCheckPhase ctx request rawAsSampled with
          | .reachedEog | .reachedMaxTokens => flushToolCallsTakes request
          | .continue => []

/-- The buffers that `advance` finalizes. -/
def advanceTakes (ctx : ContinuousBatchSchedulerContext C) (llama : LlamaContext)
    (answers : SamplingAnswers) (request : ContinuousBatchActiveRequest C) : List String :=
  match request.sampleableBatchIndex with
  | none => []
  | some i =>
    match sampleTokenPhase answers request with
    | .sampled t => advanceSampledTakes ctx t (request.sampledAt llama i t)
    | _ => []

/-! ## Texts -/

theorem runText_append (xs ys : List IngestOutcome) :
    runText (xs ++ ys) = runText xs ++ runText ys := by
  simp [runText]

theorem runText_eq_empty {run : List IngestOutcome} :
    runText run = "" ↔ ∀ outcome ∈ run, outcome.rawPiece = "" := by
  induction run with
  | nil => simp [runText]
  | cons outcome run ih =>
    have hcons : runText (outcome :: run) = outcome.rawPiece ++ runText run := by simp [runText]
    rw [hcons, String.append_eq_empty_iff, ih, List.forall_mem_cons]

theorem nonempty_append (xs ys : List String) : nonempty (xs ++ ys) = nonempty xs ++ nonempty ys :=
  List.filter_append xs ys

theorem nonempty_singleton (text : String) :
    nonempty [text] = if text.isEmpty then [] else [text] := by
  cases h : text.isEmpty <;> simp [nonempty, h]

theorem join_nonempty (texts : List String) : String.join (nonempty texts) = String.join texts := by
  induction texts with
  | nil => rfl
  | cons text texts ih =>
    rw [← List.singleton_append, nonempty_append, String.join_append, ih, String.join_append,
      nonempty_singleton]
    by_cases h : text.isEmpty = true
    · rw [if_pos h, String.isEmpty_iff.mp h]
      rfl
    · rw [if_neg h]

theorem toolCallTexts_scan (outcomes : List IngestOutcome) :
    toolCallTexts outcomes =
      nonempty ((scan IngestOutcome.isToolCall outcomes).closed.map runText ++
        [runText (scan IngestOutcome.isToolCall outcomes).current]) := by
  rw [toolCallTexts, ← flush_scan, Scan.flush, List.map_append, nonempty_append, nonempty_append]
  congr 1
  unfold Scan.opened
  split
  · rename_i hempty
    rw [List.isEmpty_iff.mp hempty]
    rfl
  · rfl

/-- The texts hold all raw pieces of the tool calls, in order. -/
theorem join_toolCallTexts (outcomes : List IngestOutcome) :
    String.join (toolCallTexts outcomes) = runText (outcomes.filter IngestOutcome.isToolCall) := by
  rw [toolCallTexts, join_nonempty, ← flatten_runs]
  induction runs IngestOutcome.isToolCall outcomes with
  | nil => rfl
  | cons run rest ih => rw [List.map_cons, String.join_cons, ih, List.flatten_cons, runText_append]

theorem toolCallTexts_concat {outcome : IngestOutcome} (outcomes : List IngestOutcome)
    (h : outcome.isToolCall = true → outcome.rawPiece = "") :
    toolCallTexts (outcomes ++ [outcome]) = toolCallTexts outcomes := by
  have hnext : scan IngestOutcome.isToolCall (outcomes ++ [outcome]) =
      (scan IngestOutcome.isToolCall outcomes).next IngestOutcome.isToolCall outcome := by
    rw [scan_append]
    rfl
  rw [toolCallTexts_scan, toolCallTexts_scan, hnext, nonempty_append, nonempty_append]
  generalize scan IngestOutcome.isToolCall outcomes = before
  unfold Scan.next
  cases htool : outcome.isToolCall with
  | true =>
    have hsame : runText (before.current ++ [outcome]) = runText before.current := by
      rw [runText_append, String.append_eq_left_iff]
      exact runText_eq_empty.mpr (by simpa using h htool)
    rw [if_pos rfl, hsame]
  | false =>
    rw [if_neg (by simp)]
    by_cases hcurrent : before.current.isEmpty = true
    · rw [if_pos hcurrent]
    · have hnone : nonempty [runText []] = [] := by simp [runText, nonempty]
      rw [if_neg hcurrent, List.map_append, nonempty_append, hnone, List.append_nil]
      rfl

/-- **More outcomes leave the texts as they are** exactly when they have no tool-call text. -/
theorem toolCallTexts_append_iff (xs ys : List IngestOutcome) :
    toolCallTexts (xs ++ ys) = toolCallTexts xs ↔
      ∀ outcome ∈ ys, outcome.isToolCall = true → outcome.rawPiece = "" := by
  constructor
  · intro h outcome hmem htool
    -- the texts as a whole have not grown
    have hjoin := congrArg String.join h
    rw [join_toolCallTexts, join_toolCallTexts, List.filter_append, runText_append,
      String.append_eq_left_iff, runText_eq_empty] at hjoin
    exact hjoin outcome (List.mem_filter.mpr ⟨hmem, htool⟩)
  · intro h
    induction ys generalizing xs with
    | nil => rw [List.append_nil]
    | cons outcome ys ih =>
      obtain ⟨hhead, htail⟩ := List.forall_mem_cons.mp h
      rw [← List.singleton_append, ← List.append_assoc, ih _ htail, toolCallTexts_concat xs hhead]

/-! ## Events -/

theorem finalizedEvent_spec (api : ToolCallApi) (pipeline : ToolCallPipeline) (text : String) :
    ∃ event, finalizedEvent api pipeline text = some event ∧ event.isToolCallEvent = true := by
  unfold finalizedEvent ToolCallPipeline.finalizeToGeneratedEvent ToolCallPipeline.finalize
  dsimp only
  split
  · exact ⟨_, rfl, rfl⟩
  · split
    · unfold ToolCallPipeline.validateResolved
      split <;> exact ⟨_, rfl, rfl⟩
    · exact ⟨_, rfl, rfl⟩
    · exact ⟨_, rfl, rfl⟩

/-- Finalizing empties the buffer and keeps the rest of the pipeline. -/
theorem finalizeToGeneratedEvent_pipeline (api : ToolCallApi) (pipeline : ToolCallPipeline) :
    (pipeline.finalizeToGeneratedEvent api).2 = { pipeline with buffer := "" } := by
  unfold ToolCallPipeline.finalizeToGeneratedEvent ToolCallPipeline.finalize
  dsimp only
  split
  · rfl
  · split <;> rfl

theorem toolCallEvents_append (xs ys : List GeneratedTokenResult) :
    toolCallEvents (xs ++ ys) = toolCallEvents xs ++ toolCallEvents ys :=
  List.filter_append xs ys

theorem isToolCallEvent_of_isToken {result : GeneratedTokenResult} (h : result.isToken = true) :
    result.isToolCallEvent = false := by
  cases result <;> first | rfl | cases h

theorem emitClassified_toolCallEvents {classified : ClassifiedToken}
    {tx tx' : Sender GeneratedTokenResult} (h : emitClassified classified tx = (true, tx')) :
    toolCallEvents tx'.sent = toolCallEvents tx.sent := by
  rcases emitClassified_spec h with ⟨-, hext⟩ | ⟨hfalse, -⟩
  · have hnone : toolCallEvents classified.visibleEvent.toList = [] := by
      refine List.filter_eq_nil_iff.mpr fun e he => ?_
      rw [isToolCallEvent_of_isToken (visibleEvent_isToken classified e he)]
      simp
    rw [hext.sent, toolCallEvents_append, hnone, List.append_nil]
  · cases hfalse

/-- A finalized buffer whose event was sent has it on the channel. -/
theorem sendEvent_finalized {api : ToolCallApi} {pipeline : ToolCallPipeline} {text : String}
    {tx tx' : Sender GeneratedTokenResult}
    (h : sendEvent (finalizedEvent api pipeline text) tx = (true, tx')) :
    (toolCallEvents tx'.sent).map some =
      (toolCallEvents tx.sent).map some ++ [finalizedEvent api pipeline text] := by
  obtain ⟨event, hevent, hkind⟩ := finalizedEvent_spec api pipeline text
  rcases sendEvent_spec h with ⟨-, hext⟩ | ⟨hfalse, -⟩
  · have hone : toolCallEvents (finalizedEvent api pipeline text).toList = [event] := by
      simp [toolCallEvents, hevent, hkind]
    rw [hext.sent, toolCallEvents_append, hone, List.map_append, hevent]
    rfl
  · cases hfalse

/-! ## The emission loop -/

/-- The request in the middle of its outcomes: the buffer holds the open run, the closed runs were
finalized and each of them put its event on the channel. -/
structure PassInv (api : ToolCallApi) (pipeline : ToolCallPipeline) (outcomes : Scan IngestOutcome)
    (taken : List String) (r : ContinuousBatchActiveRequest C) : Prop where
  buffer : r.toolCallPipeline = some { pipeline with buffer := runText outcomes.current }
  closed : taken = outcomes.closed.map runText
  events : (toolCallEvents r.generatedTokensTx.sent).map some =
    taken.map (finalizedEvent api pipeline)

theorem isToolCall_iff {outcome : IngestOutcome} :
    outcome.isToolCall = true ↔ ∃ token, outcome.sampledToken = .toolCall token := by
  unfold IngestOutcome.isToolCall
  cases outcome.sampledToken <;> simp [sectionOf]

/-- One outcome moves the scan on; a run that ends is finalized. -/
theorem toolCallPass_scan (api : ToolCallApi) (pipeline : ToolCallPipeline)
    {outcomes : Scan IngestOutcome} (outcome : IngestOutcome)
    {previousSection : SampledTokenSection}
    (hsection : previousSection = .toolCall ↔ outcomes.current ≠ []) {classified : ClassifiedToken}
    (hclassified : classified = ⟨outcome.sampledToken, previousSection == .toolCall,
      outcome.isToolCall, outcome.visiblePiece, outcome.rawPiece⟩) :
    let buffered := some { pipeline with buffer := runText outcomes.current }
    let next := outcomes.next IngestOutcome.isToolCall outcome
    (outcome.isToolCall = true ↔ next.current ≠ []) ∧
    (toolCallPass api buffered classified).2 =
      some { pipeline with buffer := runText next.current } ∧
    next.closed.map runText = outcomes.closed.map runText ++ toolCallPassTakes buffered classified ∧
    (toolCallPassTakes buffered classified = [] ∧ (toolCallPass api buffered classified).1 = none ∨
      ∃ text, toolCallPassTakes buffered classified = [text] ∧
        (toolCallPass api buffered classified).1 = finalizedEvent api pipeline text) := by
  intro buffered next
  subst hclassified
  cases htool : outcome.isToolCall with
  | true =>
    obtain ⟨token, htoken⟩ := isToolCall_iff.mp htool
    have hnext : next = { outcomes with current := outcomes.current ++ [outcome] } := by
      simp [next, Scan.next, htool]
    rw [hnext]
    refine ⟨by simp, ?_, ?_, Or.inl ⟨?_, ?_⟩⟩
    · simp [toolCallPass, buffered, htoken, ToolCallPipeline.feed, runText]
    · simp [toolCallPassTakes, buffered]
    · simp [toolCallPassTakes, buffered]
    · simp [toolCallPass, buffered]
  | false =>
    have hother : ∀ token, outcome.sampledToken ≠ .toolCall token := fun token htoken => by
      rw [isToolCall_iff.mpr ⟨token, htoken⟩] at htool
      cases htool
    by_cases hcurrent : outcomes.current = []
    · -- there is no run to end
      have hnext : next = outcomes := by simp [next, Scan.next, htool, hcurrent]
      have hprevious : (previousSection == .toolCall) = false := by simp [hsection, hcurrent]
      rw [hnext, hprevious]
      refine ⟨by simp [hcurrent], ?_, ?_, Or.inl ⟨?_, ?_⟩⟩
      · simp [toolCallPass, buffered]
      · simp [toolCallPassTakes, buffered]
      · simp [toolCallPassTakes, buffered]
      · simp [toolCallPass, buffered]
    · have hnext : next = ⟨outcomes.closed ++ [outcomes.current], []⟩ := by
        simp [next, Scan.next, htool, hcurrent]
      have hprevious : (previousSection == .toolCall) = true := by simp [hsection, hcurrent]
      rw [hnext, hprevious]
      refine ⟨by simp, ?_, ?_, Or.inr ⟨runText outcomes.current, ?_, ?_⟩⟩
      · simp [toolCallPass, buffered, finalizeToGeneratedEvent_pipeline]
        rfl
      · simp [toolCallPassTakes, buffered]
      · simp [toolCallPassTakes, buffered]
      · simp [toolCallPass, buffered, finalizedEvent]

theorem toolCallPass_events {api : ToolCallApi} {pipeline : ToolCallPipeline}
    {buffered : Option ToolCallPipeline} {classified : ClassifiedToken} {taken : List String}
    {tx tx' tx'' : Sender GeneratedTokenResult}
    (hevent : toolCallPassTakes buffered classified = [] ∧
      (toolCallPass api buffered classified).1 = none ∨
      ∃ text, toolCallPassTakes buffered classified = [text] ∧
        (toolCallPass api buffered classified).1 = finalizedEvent api pipeline text)
    (htaken : (toolCallEvents tx.sent).map some = taken.map (finalizedEvent api pipeline))
    (hemit : emitClassified classified tx = (true, tx'))
    (hsend : sendEvent (toolCallPass api buffered classified).1 tx' = (true, tx'')) :
    (toolCallEvents tx''.sent).map some =
      (taken ++ toolCallPassTakes buffered classified).map (finalizedEvent api pipeline) := by
  rcases hevent with ⟨htakes, hnone⟩ | ⟨text, htakes, hsome⟩
  · rw [hnone] at hsend
    cases hsend
    rw [emitClassified_toolCallEvents hemit, htakes, List.append_nil, htaken]
  · rw [hsome] at hsend
    rw [sendEvent_finalized hsend, emitClassified_toolCallEvents hemit, htaken, htakes,
      List.map_append]
    rfl

/-- The buffers of an outcome that was delivered come before those of the others. -/
theorem emitOutcomesTakes_cons {api : ToolCallApi} {classified : ClassifiedToken}
    {rest : List ClassifiedToken} {r : ContinuousBatchActiveRequest C}
    {tx tx' : Sender GeneratedTokenResult}
    (hemit : emitClassified classified r.generatedTokensTx = (true, tx))
    (hsend : sendEvent (toolCallPass api r.toolCallPipeline classified).1 tx = (true, tx')) :
    emitOutcomesTakes api (classified :: rest) r =
      toolCallPassTakes r.toolCallPipeline classified ++ emitOutcomesTakes api rest { r with
        generatedTokensTx := tx'
        toolCallPipeline := (toolCallPass api r.toolCallPipeline classified).2 } := by
  rw [emitOutcomesTakes, hemit]
  dsimp only
  rw [hsend]

/-- **The emission loop follows the scan**: when it gets through its outcomes, every run that ended
was finalized and put on the channel. -/
theorem emitOutcomes_scan (api : ToolCallApi) (pipeline : ToolCallPipeline)
    (outcomes : List IngestOutcome) :
    ∀ {previousSection : SampledTokenSection} {before : Scan IngestOutcome} {taken : List String}
      {r r' : ContinuousBatchActiveRequest C}, (previousSection = .toolCall ↔ before.current ≠ []) →
      emitOutcomes api (classifyIngestOutcomes outcomes previousSection) r = (true, r') →
      PassInv api pipeline before taken r →
      PassInv api pipeline (outcomes.foldl (Scan.next IngestOutcome.isToolCall) before)
        (taken ++ emitOutcomesTakes api (classifyIngestOutcomes outcomes previousSection) r) r' := by
  induction outcomes with
  | nil =>
    intro previousSection before taken r r' _ hemits h
    cases hemits
    simpa [classifyIngestOutcomes, emitOutcomesTakes] using h
  | cons outcome outcomes ih =>
    intro previousSection before taken r r' hsection hemits h
    obtain ⟨classified, hclassified⟩ : ∃ classified : ClassifiedToken, classified =
        ⟨outcome.sampledToken, previousSection == .toolCall, outcome.isToolCall,
          outcome.visiblePiece, outcome.rawPiece⟩ := ⟨_, rfl⟩
    have hcons : classifyIngestOutcomes (outcome :: outcomes) previousSection =
        classified :: classifyIngestOutcomes outcomes (sectionOf outcome.sampledToken) := by
      rw [hclassified]
      rfl
    rw [hcons, emitOutcomes] at hemits
    obtain ⟨hnext, hbuffer, hclosed, hevent⟩ :=
      toolCallPass_scan api pipeline outcome hsection hclassified
    rw [← h.buffer] at hbuffer hclosed hevent
    split at hemits
    · cases hemits
    · rename_i tx hemit
      dsimp only at hemits
      split at hemits
      · cases hemits
      · rename_i tx' hsend
        have hevents := toolCallPass_events hevent h.events hemit hsend
        have hsection' : sectionOf outcome.sampledToken = .toolCall ↔
            (before.next IngestOutcome.isToolCall outcome).current ≠ [] := by
          rw [← hnext, IngestOutcome.isToolCall, beq_iff_eq]
        rw [hcons, emitOutcomesTakes_cons hemit hsend, ← List.append_assoc]
        exact ih hsection' hemits ⟨hbuffer, by rw [hclosed, h.closed], hevents⟩

/-! ## One sampled token -/

/-- Between two tokens: the scan is that of all outcomes returned so far. -/
def SegmentInv (api : ToolCallApi) (pipeline : ToolCallPipeline) (taken : List String)
    (r : ContinuousBatchActiveRequest C) : Prop :=
  PassInv api pipeline (scan IngestOutcome.isToolCall r.history.returned) taken r

/-- The section before an ingest call is that of the last outcome returned, and not a tool call's
when there was none. -/
def SectionOfLast (ctx : ContinuousBatchSchedulerContext C) (r : ContinuousBatchActiveRequest C) :
    Prop :=
  match r.history.returned.getLast? with
  | none => ctx.classifier.currentSection r.tokenClassifier ≠ .toolCall
  | some outcome => ctx.classifier.currentSection r.tokenClassifier = sectionOf outcome.sampledToken

theorem SectionOfLast.inRun {ctx : ContinuousBatchSchedulerContext C}
    {r : ContinuousBatchActiveRequest C} (h : SectionOfLast ctx r) :
    ctx.classifier.currentSection r.tokenClassifier = .toolCall ↔
      (scan IngestOutcome.isToolCall r.history.returned).current ≠ [] := by
  rw [scan_current_ne_nil]
  unfold SectionOfLast at h
  cases hlast : r.history.returned.getLast? with
  | none =>
    rw [hlast] at h
    simpa using h
  | some outcome =>
    rw [hlast] at h
    simp [h, IngestOutcome.isToolCall]

/-- **What was finalized once a generation ended**: every run, and the open one only if it has a
text. -/
structure Flushed (api : ToolCallApi) (pipeline : ToolCallPipeline) (outcomes : Scan IngestOutcome)
    (taken : List String) (r : ContinuousBatchActiveRequest C) : Prop where
  closed : taken = outcomes.closed.map runText ++
    if (runText outcomes.current).isEmpty then [] else [runText outcomes.current]
  events : (toolCallEvents r.generatedTokensTx.sent).map some =
    taken.map (finalizedEvent api pipeline)

/-- The flush at the end of a generation finalizes the open run. -/
theorem flushToolCalls_flushed {api : ToolCallApi} {pipeline : ToolCallPipeline}
    {outcomes : Scan IngestOutcome} {taken : List String} {r r' : ContinuousBatchActiveRequest C}
    (hflush : flushToolCalls api r = (true, r')) (h : PassInv api pipeline outcomes taken r) :
    Flushed api pipeline outcomes (taken ++ flushToolCallsTakes r) r' := by
  unfold flushToolCalls at hflush
  unfold flushToolCallsTakes
  rw [h.buffer] at hflush ⊢
  dsimp only at hflush ⊢
  by_cases hempty : (runText outcomes.current).isEmpty = true
  · rw [if_pos hempty] at hflush ⊢
    cases hflush
    refine ⟨?_, ?_⟩
    · rw [if_pos hempty, h.closed]
    · rw [List.append_nil, h.events]
  · rw [if_neg hempty] at hflush ⊢
    obtain ⟨hsent, rfl⟩ := Prod.mk.inj hflush
    refine ⟨?_, ?_⟩
    · rw [if_neg hempty, h.closed]
    · rw [List.map_append, ← h.events]
      exact sendEvent_finalized (Prod.ext hsent rfl)

theorem finishGeneration_flushed {ctx : ContinuousBatchSchedulerContext C}
    {pipeline : ToolCallPipeline} {outcomes : Scan IngestOutcome} {taken : List String}
    {r r' : ContinuousBatchActiveRequest C} {summary : GenerationSummary}
    (hfinish : finishGeneration ctx r = (.completed (.done summary), r'))
    (h : PassInv ctx.toolCallApi pipeline outcomes taken r) :
    Flushed ctx.toolCallApi pipeline outcomes (taken ++ flushToolCallsTakes r) r' ∧
      r'.history.returned = r.history.returned := by
  have hsame := (finishGeneration_spec hfinish).1
  unfold finishGeneration at hfinish
  split at hfinish
  · cases hfinish
  · rename_i r₁ hflush
    obtain ⟨-, rfl⟩ := Prod.mk.inj hfinish
    refine ⟨flushToolCalls_flushed hflush h, ?_⟩
    rw [hsame]

/-- The steps of `advance_one` after its sample, with the buffers they finalize. -/
theorem advanceSampled_steps (ctx : ContinuousBatchSchedulerContext C) (t : LlamaToken)
    (r : ContinuousBatchActiveRequest C) :
    (∃ err r₁, advanceSampled ctx t r = (.completed (.detokenizationFailed err), r₁)) ∨
    ∃ outcomes r₁, ingest ctx r t = (.ok outcomes, r₁) ∧
      ((ctx.isEogToken t = true ∧ advanceSampled ctx t r = finishGeneration ctx r₁ ∧
          advanceSampledTakes ctx t r = flushToolCallsTakes r₁) ∨
        ctx.isEogToken t = false ∧
          let classified := classifyIngestOutcomes outcomes
            (ctx.classifier.currentSection r.tokenClassifier)
          ∃ r₂, (emitOutcomes ctx.toolCallApi classified r₁ = (false, r₂) ∧
              advanceSampled ctx t r = (.channelDropped, r₂)) ∨
            emitOutcomes ctx.toolCallApi classified r₁ = (true, r₂) ∧
              ((advanceSampled ctx t r = finishGeneration ctx r₂ ∧
                  advanceSampledTakes ctx t r =
                    emitOutcomesTakes ctx.toolCallApi classified r₁ ++ flushToolCallsTakes r₂) ∨
                advanceSampled ctx t r = (.sampledAndStored (.content t), r₂) ∧
                  advanceSampledTakes ctx t r = emitOutcomesTakes ctx.toolCallApi
                    classified r₁)) := by
  unfold advanceSampled advanceSampledTakes
  rcases hingest : ingest ctx r t with ⟨_ | outcomes, r₁⟩
  · exact Or.inl ⟨_, r₁, rfl⟩
  · refine Or.inr ⟨outcomes, r₁, rfl, ?_⟩
    simp only [completionCheckPhase_content]
    cases heog : ctx.isEogToken t with
    | true => exact Or.inl ⟨rfl, rfl, rfl⟩
    | false =>
      refine Or.inr ⟨rfl, ?_⟩
      simp only [Bool.false_eq_true, if_false]
      rcases hemits : emitOutcomes ctx.toolCallApi (classifyIngestOutcomes outcomes
        (ctx.classifier.currentSection r.tokenClassifier)) r₁ with ⟨delivered, r₂⟩
      -- the budget is checked before the outcomes are emitted and after them, with the same answer
      have hsame := (emitOutcomes_spec _ _ _ _ _ hemits).1
      have hcheck₂ : maxTokensOutcome r₂.state.maxTokens (ctx.classifier.usage r₂.tokenClassifier) =
          maxTokensOutcome r₁.state.maxTokens (ctx.classifier.usage r₁.tokenClassifier) := by
            rw [hsame]
      refine ⟨r₂, ?_⟩
      cases delivered with
      | false =>
        cases hcheck : maxTokensOutcome r₁.state.maxTokens
          (ctx.classifier.usage r₁.tokenClassifier) with
        | reachedEog => exact absurd hcheck (maxTokensOutcome_ne_reachedEog _ _)
        | reachedMaxTokens => exact Or.inl ⟨rfl, rfl⟩
        | «continue» => exact Or.inl ⟨rfl, rfl⟩
      | true =>
        simp only [hcheck₂]
        cases hcheck : maxTokensOutcome r₁.state.maxTokens
          (ctx.classifier.usage r₁.tokenClassifier) with
        | reachedEog => exact absurd hcheck (maxTokensOutcome_ne_reachedEog _ _)
        | reachedMaxTokens => exact Or.inr ⟨trivial, Or.inl ⟨rfl, rfl⟩⟩
        | «continue» => exact Or.inr ⟨trivial, Or.inr ⟨rfl, List.append_nil _⟩⟩

/-- Ingesting a token records the outcomes it returned and touches neither the channel nor the
buffer. -/
theorem ingest_returned {ctx : ContinuousBatchSchedulerContext C} {t : LlamaToken}
    {r r₁ : ContinuousBatchActiveRequest C} {outcomes : List IngestOutcome}
    (h : ingest ctx r t = (.ok outcomes, r₁)) :
    (∃ c, ctx.classifier.ingest r.tokenClassifier t = (.ok outcomes, c)) ∧
      r₁.history.returned = r.history.returned ++ outcomesOfTokens ctx.isEogToken t outcomes ∧
      r₁.toolCallPipeline = r.toolCallPipeline ∧ r₁.generatedTokensTx = r.generatedTokensTx := by
  unfold ingest at h
  rcases hclassifier : ctx.classifier.ingest r.tokenClassifier t with ⟨_ | returned, c⟩
  · rw [hclassifier] at h
    cases h
  · rw [hclassifier] at h
    cases h
    exact ⟨⟨c, rfl⟩, rfl, rfl, rfl⟩

/-- `advance_one` on the scan: a token that is kept leaves the request between two tokens, one that
completes it has finalized all runs, the last one of an end-of-generation token being that of the
outcomes before it. -/
theorem advanceSampled_segments {ctx : ContinuousBatchSchedulerContext C} {t : LlamaToken}
    {r r' : ContinuousBatchActiveRequest C} {pipeline : ToolCallPipeline} {texts : List String}
    {outcome : AdvanceOutcome} (hsection : SectionOfLast ctx r)
    (h : SegmentInv ctx.toolCallApi pipeline texts r)
    (hadv : advanceSampled ctx t r = (outcome, r')) :
    (∀ token, outcome = .sampledAndStored token →
      SegmentInv ctx.toolCallApi pipeline (texts ++ advanceSampledTakes ctx t r) r') ∧
    (∀ summary, outcome = .completed (.done summary) →
      ∃ outcomes c, ctx.classifier.ingest r.tokenClassifier t = (.ok outcomes, c) ∧
        r'.history.returned = r.history.returned ++ outcomesOfTokens ctx.isEogToken t outcomes ∧
        Flushed ctx.toolCallApi pipeline (scan IngestOutcome.isToolCall
          (if ctx.isEogToken t then r.history.returned else r'.history.returned))
          (texts ++ advanceSampledTakes ctx t r) r') := by
  rcases advanceSampled_steps ctx t r with ⟨err, r₁, hfailed⟩ | ⟨outcomes, r₁, hingest, hsteps⟩
  · rw [hfailed] at hadv
    cases hadv
    exact ⟨fun _ hc => (by cases hc), fun _ hc => by cases hc⟩
  obtain ⟨⟨c, hcall⟩, hreturned, hpipeline, hchannel⟩ := ingest_returned hingest
  have hinv : PassInv ctx.toolCallApi pipeline
      (scan IngestOutcome.isToolCall r.history.returned) texts r₁ :=
    ⟨hpipeline.trans h.buffer, h.closed, hchannel ▸ h.events⟩
  rcases hsteps with ⟨heog, hend, htakes⟩ | ⟨heog, r₂, hdropped | ⟨hemits, hrest⟩⟩
  · rw [hend] at hadv
    rw [htakes, if_pos heog]
    refine ⟨fun token htoken => ?_, fun summary hdone => ?_⟩
    · exact absurd ((congrArg Prod.fst hadv).trans htoken) (finishGeneration_ne_stored ctx r₁ token)
    · obtain ⟨hflushed, hsame⟩ := finishGeneration_flushed (hdone ▸ hadv) hinv
      exact ⟨outcomes, c, hcall, hsame.trans hreturned, hflushed⟩
  · rw [hdropped.2] at hadv
    cases hadv
    exact ⟨fun _ hc => (by cases hc), fun _ hc => by cases hc⟩
  · have hall : outcomesOfTokens ctx.isEogToken t outcomes = outcomes := by
      rw [outcomesOfTokens, heog, if_neg (by simp)]
    have hsame := (emitOutcomes_spec _ _ _ _ _ hemits).1
    have hreturned₂ : r₂.history.returned = r.history.returned ++
        outcomesOfTokens ctx.isEogToken t outcomes := by rw [hsame, ← hreturned]
    have hinv₂ := emitOutcomes_scan ctx.toolCallApi pipeline outcomes hsection.inRun hemits hinv
    rw [← scan_append, ← hall, ← hreturned₂, hall] at hinv₂
    rcases hrest with ⟨hend, htakes⟩ | ⟨hkept, htakes⟩
    · rw [hend] at hadv
      rw [htakes, if_neg (by simp [heog]), ← List.append_assoc]
      refine ⟨fun token htoken => ?_, fun summary hdone => ?_⟩
      · exact absurd ((congrArg Prod.fst hadv).trans htoken)
          (finishGeneration_ne_stored ctx r₂ token)
      · obtain ⟨hflushed, hsame'⟩ := finishGeneration_flushed (hdone ▸ hadv) hinv₂
        rw [hsame']
        exact ⟨outcomes, c, hcall, hreturned₂, hflushed⟩
    · rw [hkept] at hadv
      cases hadv
      rw [htakes]
      exact ⟨fun token _ => hinv₂, fun _ hc => by cases hc⟩

/-! ## One request -/

/-- The texts are those of the maximal runs of the outcomes that were returned, each with its
event. -/
structure Segmented (api : ToolCallApi) (pipeline : ToolCallPipeline) (texts : List String)
    (r : ContinuousBatchActiveRequest C) : Prop where
  runs : nonempty texts = toolCallTexts r.history.returned
  events : (toolCallEvents r.generatedTokensTx.sent).map some =
    texts.map (finalizedEvent api pipeline)

/-- A request with a tool-call pipeline on its acceptance. -/
structure StartsWith (pipeline : ToolCallPipeline) (r : ContinuousBatchActiveRequest C) : Prop where
  toolCallPipeline : r.toolCallPipeline = some pipeline
  buffer : pipeline.buffer = ""
  returned : r.history.returned = []
  sent : r.generatedTokensTx.sent = []
  phase : r.state.phase.isCompleted = false

/-- One request from token to token, with the buffers that were finalized: its tokens are decoded
and sampled in turn, and `current_section()` is that of the last outcome when one is ingested. -/
inductive TokenRun (ctx : ContinuousBatchSchedulerContext C)
    (start : ContinuousBatchActiveRequest C) :
    List String → ContinuousBatchActiveRequest C → Prop where
  | start : TokenRun ctx start [] start
  | decoded {tokens : List BatchToken} {texts : List String} {r r' : ContinuousBatchActiveRequest C} :
      TokenRun ctx start texts r → DecodeStep tokens r r' → TokenRun ctx start texts r'
  | advanced {texts : List String} {r : ContinuousBatchActiveRequest C} (llama : LlamaContext)
      (answers : SamplingAnswers) :
      TokenRun ctx start texts r → SectionOfLast ctx r →
      (advance ctx llama answers r).state.phase.isCompleted = false →
      TokenRun ctx start (texts ++ advanceTakes ctx llama answers r) (advance ctx llama answers r)

/-- The call for an end-of-generation token releases no tool-call text of an earlier token. -/
def EndReleasesNoToolCall (ctx : ContinuousBatchSchedulerContext C) (answers : SamplingAnswers)
    (r : ContinuousBatchActiveRequest C) : Prop :=
  ∀ t outcomes c, sampleTokenPhase answers r = .sampled t → ctx.isEogToken t = true →
    ctx.classifier.ingest r.tokenClassifier t = (.ok outcomes, c) →
    ∀ outcome ∈ outcomesOfTokens ctx.isEogToken t outcomes,
      outcome.isToolCall = true → outcome.rawPiece = ""

/-- A request that was just accepted has finalized nothing. -/
theorem StartsWith.segmentInv {pipeline : ToolCallPipeline} {r : ContinuousBatchActiveRequest C}
    (api : ToolCallApi) (h : StartsWith pipeline r) : SegmentInv api pipeline [] r := by
  refine ⟨?_, ?_, ?_⟩
  · rw [h.toolCallPipeline, h.returned, scan, List.foldl_nil]
    have hbuffer : pipeline.buffer = runText [] := h.buffer
    rw [← hbuffer]
  · rw [h.returned]
    rfl
  · rw [h.sent]
    rfl

/-- A request is accepted with an empty buffer, and nothing was sent to it. -/
theorem accepted_startsWith {api : ToolCallApi} {tools : List Tool} {parseToolCalls : Bool}
    {pipeline : ToolCallPipeline} {tx : Sender GeneratedTokenResult}
    (hbuild : buildToolCallPipeline api tools parseToolCalls = .ok (.ready pipeline))
    (htx : tx.sent = []) (maxTokens : Int) (promptTokens : List LlamaToken) (tokensIngested : Nat)
    (tokenClassifier : C) (hasGrammarSampler : Bool) (sequenceId : Int) :
    StartsWith pipeline (newTextRequest maxTokens promptTokens tokenClassifier hasGrammarSampler
      tx sequenceId (some pipeline)) ∧
    StartsWith pipeline (newMultimodalRequest maxTokens tokensIngested tokenClassifier
      hasGrammarSampler tx sequenceId (some pipeline)) := by
  have hbuffer : pipeline.buffer = "" := by
    unfold buildToolCallPipeline at hbuild
    split at hbuild
    · cases hbuild
    · split at hbuild
      · cases hbuild
      · cases hbuild
      · split at hbuild
        · cases hbuild
        · split at hbuild
          · cases hbuild
          · cases hbuild
            rfl
  exact ⟨⟨rfl, hbuffer, rfl, htx, rfl⟩, ⟨rfl, hbuffer, rfl, htx, rfl⟩⟩

/-- Decoding touches neither the channel nor the tool-call buffer. -/
theorem SegmentInv.decoded {api : ToolCallApi} {pipeline : ToolCallPipeline} {texts : List String}
    {tokens : List BatchToken} {r r' : ContinuousBatchActiveRequest C}
    (h : SegmentInv api pipeline texts r) (hstep : DecodeStep tokens r r') :
    SegmentInv api pipeline texts r' := by
  cases hstep with
  | skipped => exact h
  | generated => exact ⟨h.buffer, h.closed, h.events⟩
  | ingested => exact ⟨h.buffer, h.closed, h.events⟩

/-- The buffers of `advance` are those of the token it samples. -/
theorem advanceTakes_of_sampled {ctx : ContinuousBatchSchedulerContext C} (llama : LlamaContext)
    {answers : SamplingAnswers} {r : ContinuousBatchActiveRequest C} {i : Int} {t : LlamaToken}
    (hi : r.sampleableBatchIndex = some i) (hs : sampleTokenPhase answers r = .sampled t) :
    advanceTakes ctx llama answers r = advanceSampledTakes ctx t (r.sampledAt llama i t) := by
  simp only [advanceTakes, hi, hs]

/-- `advance` on the scan, as long as it does not complete the request. -/
theorem SegmentInv.advanced {ctx : ContinuousBatchSchedulerContext C} {pipeline : ToolCallPipeline}
    {texts : List String} {r : ContinuousBatchActiveRequest C} {llama : LlamaContext}
    {answers : SamplingAnswers} (h : SegmentInv ctx.toolCallApi pipeline texts r)
    (hsection : SectionOfLast ctx r)
    (hphase : (advance ctx llama answers r).state.phase.isCompleted = false) :
    SegmentInv ctx.toolCallApi pipeline (texts ++ advanceTakes ctx llama answers r)
      (advance ctx llama answers r) := by
  rcases advance_cases ctx llama answers r with
    ⟨hi, heq⟩ | ⟨i, result, hi, -, -, heq⟩ | ⟨i, t, outcome, r', hi, hs, hadv, heq⟩
  · rw [heq, advanceTakes, hi]
    simpa using h
  · rw [heq, ContinuousBatchActiveRequest.completeWithOutcome_isCompleted] at hphase
    cases hphase
  · have hsection' : SectionOfLast ctx (r.sampledAt llama i t) := hsection
    have hsampled : SegmentInv ctx.toolCallApi pipeline texts (r.sampledAt llama i t) :=
      ⟨h.buffer, h.closed, h.events⟩
    obtain ⟨hkept, -⟩ := advanceSampled_segments hsection' hsampled hadv
    rw [heq] at hphase ⊢
    rw [advanceTakes_of_sampled llama hi hs]
    cases outcome with
    | sampledAndStored token =>
      have hinv := hkept token rfl
      exact ⟨hinv.buffer, hinv.closed, hinv.events⟩
    | completed result =>
      rw [applyOutcome, ContinuousBatchActiveRequest.completeWithOutcome_isCompleted] at hphase
      cases hphase
    | channelDropped =>
      rw [applyOutcome, ContinuousBatchRequestState.markCompleted_isCompleted] at hphase
      cases hphase

/-- **Every run between two tokens**: nothing is lost, and the open run is in the buffer. -/
theorem TokenRun.segmentInv {ctx : ContinuousBatchSchedulerContext C}
    {start r : ContinuousBatchActiveRequest C} {pipeline : ToolCallPipeline} {texts : List String}
    (hrun : TokenRun ctx start texts r) (hstart : StartsWith pipeline start) :
    SegmentInv ctx.toolCallApi pipeline texts r ∧ r.state.phase.isCompleted = false := by
  induction hrun with
  | start => exact ⟨hstart.segmentInv ctx.toolCallApi, hstart.phase⟩
  | decoded hrun hstep ih =>
    refine ⟨ih.1.decoded hstep, ?_⟩
    cases hstep with
    | skipped => exact ih.2
    | generated hphase => exact congrArg ContinuousBatchRequestPhase.isCompleted hphase
    | ingested hphase _ _ _ _ _ _ _ _ hsize =>
      rw [ContinuousBatchRequestState.applyIngestingContribution_of_le _ hsize]
      dsimp only
      split
      · rfl
      · exact ih.2
  | advanced llama answers hrun hsection hphase ih => exact ⟨ih.1.advanced hsection hphase, hphase⟩

/-- The texts that were finalized, with the one in the buffer. -/
theorem SegmentInv.texts {api : ToolCallApi} {pipeline : ToolCallPipeline} {texts : List String}
    {r : ContinuousBatchActiveRequest C} (h : SegmentInv api pipeline texts r) :
    ∃ buffered, r.toolCallPipeline = some buffered ∧
      nonempty (texts ++ [buffered.buffer]) = toolCallTexts r.history.returned := by
  refine ⟨_, h.buffer, ?_⟩
  rw [h.closed, toolCallTexts_scan]

/-- The texts that were finalized when a generation ended. -/
theorem Flushed.texts {api : ToolCallApi} {pipeline : ToolCallPipeline}
    {outcomes : List IngestOutcome} {texts : List String} {r : ContinuousBatchActiveRequest C}
    (h : Flushed api pipeline (scan IngestOutcome.isToolCall outcomes) texts r) :
    nonempty texts = toolCallTexts outcomes := by
  rw [h.closed, toolCallTexts_scan, nonempty_append, nonempty_append, ← nonempty_singleton]
  congr 1
  simp only [nonempty, List.filter_filter, Bool.and_self]

/-- What an end-of-generation token releases is without tool-call text when it changes no text. -/
theorem endReleasesNoToolCall_iff {ctx : ContinuousBatchSchedulerContext C}
    {answers : SamplingAnswers} {r : ContinuousBatchActiveRequest C} {t : LlamaToken}
    {outcomes : List IngestOutcome} {c : C} (hs : sampleTokenPhase answers r = .sampled t)
    (heog : ctx.isEogToken t = true)
    (hingest : ctx.classifier.ingest r.tokenClassifier t = (.ok outcomes, c)) :
    EndReleasesNoToolCall ctx answers r ↔
      toolCallTexts (r.history.returned ++ outcomesOfTokens ctx.isEogToken t outcomes) =
        toolCallTexts r.history.returned := by
  rw [toolCallTexts_append_iff]
  constructor
  · exact fun h => h t outcomes c hs heog hingest
  · intro h t' outcomes' c' hs' _ hingest'
    rw [hs] at hs'
    cases hs'
    rw [hingest] at hingest'
    cases hingest'
    exact h

/-- The call that ends a generation is that of a sampled token. -/
theorem advance_done {ctx : ContinuousBatchSchedulerContext C} {llama : LlamaContext}
    {answers : SamplingAnswers} {r : ContinuousBatchActiveRequest C} {summary : GenerationSummary}
    (hactive : r.state.phase.isCompleted = false)
    (hdone : (advance ctx llama answers r).state.phase =
      .completed (.emitToClient (.done summary))) :
    ∃ i t r', r.sampleableBatchIndex = some i ∧ sampleTokenPhase answers r = .sampled t ∧
      advanceSampled ctx t (r.sampledAt llama i t) = (.completed (.done summary), r') ∧
      advance ctx llama answers r = r'.completeWithOutcome (.done summary) := by
  rcases advance_cases ctx llama answers r with
    ⟨-, heq⟩ | ⟨i, result, -, -, hfailure, heq⟩ | ⟨i, t, outcome, r', hi, hs, hadv, heq⟩
  · rw [← heq, hdone] at hactive
    cases hactive
  · have hread : (r.recordRead llama i).state.phase.isCompleted = false := hactive
    rw [heq, ContinuousBatchActiveRequest.completeWithOutcome_of_active hread] at hdone
    cases hdone
    cases hfailure
  · have hactive' : r'.state.phase.isCompleted = false := by
      rw [advanceSampled_state hadv]
      exact hactive
    rw [heq] at hdone
    cases outcome with
    | sampledAndStored token =>
      rw [show r'.state.phase = _ from hdone] at hactive'
      cases hactive'
    | completed result =>
      have hcompleted := ContinuousBatchActiveRequest.completeWithOutcome_of_active hactive' result
      rw [applyOutcome, hcompleted] at hdone
      cases hdone
      exact ⟨i, t, r', hi, hs, hadv, heq⟩
    | channelDropped =>
      simp [applyOutcome, ContinuousBatchRequestState.markCompleted, hactive'] at hdone

/-- **Tool-call segmentation** over every run of one request.  Between two tokens the texts
finalized so far and the one in the buffer are those of the maximal runs of all outcomes, and every
finalized one has its event on the channel.  When the generation ends the last run was flushed too,
so that this holds without the buffer, if and only if an end-of-generation token released no
tool-call text; the texts of the outcomes before that token are complete in any case. -/
theorem toolCalls_segmented_iff {ctx : ContinuousBatchSchedulerContext C}
    {start r : ContinuousBatchActiveRequest C} {pipeline : ToolCallPipeline} {texts : List String}
    (hstart : StartsWith pipeline start) (hrun : TokenRun ctx start texts r) :
    (∃ buffered, r.toolCallPipeline = some buffered ∧
      nonempty (texts ++ [buffered.buffer]) = toolCallTexts r.history.returned ∧
      (toolCallEvents r.generatedTokensTx.sent).map some =
        texts.map (finalizedEvent ctx.toolCallApi pipeline)) ∧
    ∀ llama answers summary, SectionOfLast ctx r →
      (advance ctx llama answers r).state.phase = .completed (.emitToClient (.done summary)) →
      (Segmented ctx.toolCallApi pipeline (texts ++ advanceTakes ctx llama answers r)
          (advance ctx llama answers r) ↔ EndReleasesNoToolCall ctx answers r) ∧
      ∀ t, sampleTokenPhase answers r = .sampled t → ctx.isEogToken t = true →
        nonempty (texts ++ advanceTakes ctx llama answers r) =
          toolCallTexts r.history.returned := by
  obtain ⟨hinv, hactive⟩ := hrun.segmentInv hstart
  refine ⟨?_, fun llama answers summary hsection hdone => ?_⟩
  · obtain ⟨buffered, hbuffered, htexts⟩ := hinv.texts
    exact ⟨buffered, hbuffered, htexts, hinv.events⟩
  · obtain ⟨i, t, r', hi, hs, hadv, heq⟩ := advance_done hactive hdone
    have hsection' : SectionOfLast ctx (r.sampledAt llama i t) := hsection
    have hsampled : SegmentInv ctx.toolCallApi pipeline texts (r.sampledAt llama i t) :=
      ⟨hinv.buffer, hinv.closed, hinv.events⟩
    obtain ⟨-, hended⟩ := advanceSampled_segments hsection' hsampled hadv
    obtain ⟨outcomes, c, hingest, hreturned, hflushed⟩ := hended summary rfl
    rw [heq, advanceTakes_of_sampled llama hi hs]
    by_cases heog : ctx.isEogToken t = true
    · rw [if_pos heog] at hflushed
      have htexts : nonempty (texts ++ advanceSampledTakes ctx t (r.sampledAt llama i t)) =
          toolCallTexts r.history.returned := hflushed.texts
      refine ⟨?_, fun _ _ _ => htexts⟩
      rw [endReleasesNoToolCall_iff hs heog hingest]
      constructor
      · intro h
        exact (congrArg toolCallTexts hreturned).symm.trans (h.runs.symm.trans htexts)
      · intro h
        exact ⟨htexts.trans ((congrArg toolCallTexts hreturned).trans h).symm, hflushed.events⟩
    · rw [if_neg heog] at hflushed
      refine ⟨iff_of_true ⟨hflushed.texts, hflushed.events⟩ ?_, ?_⟩
      · intro t' _ _ hs' heog'
        rw [hs] at hs'
        cases hs'
        exact absurd heog' heog
      · intro t' hs' heog'
        rw [hs] at hs'
        cases hs'
        exact absurd heog' heog

/-! ## An agent that calls a tool -/

/-- Every token is one of a tool call; with `holdsBack` its outcome is returned one token later. -/
def toolCallClassifier (holdsBack : Bool) :
    SampledTokenClassifier (List IngestOutcome × SampledTokenSection) where
  ingest state token :=
    let outcome : IngestOutcome := ⟨.toolCall token, "", "call"⟩
    if holdsBack then (.ok state.1, [outcome], if state.1.isEmpty then state.2 else .toolCall)
    else (.ok [outcome], [], .toolCall)
  usage _ := TokenUsage.new
  currentSection state := state.2
  recordPromptTokens state _ := state
  ingestPromptTokens state _ := state

/-- The small agent with that classifier. -/
def toolCallContext (holdsBack : Bool) :
    ContinuousBatchSchedulerContext (List IngestOutcome × SampledTokenSection) where
  agentName := none
  hasChatTemplateRenderer := true
  desiredSlotsTotal := 2
  desiredSlotsTotal_le := smallContext.desiredSlotsTotal_le
  inferenceParameters := smallContext.inferenceParameters
  hasMultimodalContext := true
  isEogToken := smallContext.isEogToken
  classifier := toolCallClassifier holdsBack
  toolCallApi := noToolCalls

/-- A request that is about to sample its first token. -/
def toolCallRequest : ContinuousBatchActiveRequest (List IngestOutcome × SampledTokenSection) :=
  newMultimodalRequest 8 2 ([], .content) false (.new 0 none) 0 (some ⟨"", "[]", ⟨[]⟩⟩)

/-- The sampler returns `token`. -/
def samples (token : LlamaToken) : SamplingAnswers := ⟨true, true, true, some token, true, none⟩

/-- The request after its first token was sampled and decoded. -/
def toolCallDecoded (holdsBack : Bool) :
    ContinuousBatchActiveRequest (List IngestOutcome × SampledTokenSection) :=
  let sampled := advance (toolCallContext holdsBack) ⟨[], .nothing⟩ (samples 7) toolCallRequest
  { sampled with
    state := sampled.state.applyGeneratingContribution 0
    history := { sampled.history with decoded := sampled.history.decoded ++ [⟨7, 2, 0, true, 0⟩] } }

theorem toolCallRequest_startsWith : StartsWith ⟨"", "[]", ⟨[]⟩⟩ toolCallRequest :=
  ⟨rfl, rfl, rfl, rfl, rfl⟩

theorem toolCallDecoded_run (holdsBack : Bool) :
    TokenRun (toolCallContext holdsBack) toolCallRequest [] (toolCallDecoded holdsBack) := by
  have hsection : SectionOfLast (toolCallContext holdsBack) toolCallRequest :=
    show SampledTokenSection.content ≠ .toolCall by decide
  have hsampled : TokenRun (toolCallContext holdsBack) toolCallRequest
      ([] ++ advanceTakes (toolCallContext holdsBack) ⟨[], .nothing⟩ (samples 7) toolCallRequest)
      (advance (toolCallContext holdsBack) ⟨[], .nothing⟩ (samples 7) toolCallRequest) :=
    .advanced _ _ .start hsection (by cases holdsBack <;> rfl)
  have hstep : DecodeStep [⟨7, 2, 0, true, 0⟩]
      (advance (toolCallContext holdsBack) ⟨[], .nothing⟩ (samples 7) toolCallRequest)
      (toolCallDecoded holdsBack) := by
    have hstored : (advance (toolCallContext holdsBack) ⟨[], .nothing⟩ (samples 7)
        toolCallRequest).state.pendingSampledToken = some (.content 7) := by cases holdsBack <;> rfl
    cases holdsBack <;> exact .generated rfl hstored rfl rfl
  have htakes : [] ++ advanceTakes (toolCallContext holdsBack) ⟨[], .nothing⟩ (samples 7)
      toolCallRequest = [] := by cases holdsBack <;> rfl
  exact htakes ▸ .decoded hsampled hstep

theorem toolCalls_segmented_iff_oneCall :
    Segmented noToolCalls ⟨"", "[]", ⟨[]⟩⟩ ["call"]
      (advance (toolCallContext false) ⟨[], .nothing⟩ (samples 0) (toolCallDecoded false)) := by
  refine ((toolCalls_segmented_iff toolCallRequest_startsWith (toolCallDecoded_run false)).2
    ⟨[], .nothing⟩ (samples 0) ⟨TokenUsage.new⟩ rfl rfl).1.mpr ?_
  intro t outcomes c hs heog hingest outcome houtcome
  cases hs
  cases hingest
  cases houtcome

/-- The same call, held back until the end-of-generation token, is never parsed. -/
theorem toolCalls_lost :
    toolCallTexts (advance (toolCallContext true) ⟨[], .nothing⟩ (samples 0)
      (toolCallDecoded true)).history.returned = ["call"] ∧
    ¬ ∀ (ctx : ContinuousBatchSchedulerContext (List IngestOutcome × SampledTokenSection))
      (start r : ContinuousBatchActiveRequest (List IngestOutcome × SampledTokenSection))
      (pipeline : ToolCallPipeline) (texts : List String) (llama : LlamaContext)
      (answers : SamplingAnswers) (summary : GenerationSummary),
      StartsWith pipeline start → TokenRun ctx start texts r → SectionOfLast ctx r →
      (advance ctx llama answers r).state.phase = .completed (.emitToClient (.done summary)) →
      Segmented ctx.toolCallApi pipeline (texts ++ advanceTakes ctx llama answers r)
        (advance ctx llama answers r) := by
  have htexts : toolCallTexts (advance (toolCallContext true) ⟨[], .nothing⟩ (samples 0)
      (toolCallDecoded true)).history.returned = ["call"] := by decide
  refine ⟨htexts, fun h => ?_⟩
  have hsection : SectionOfLast (toolCallContext true) (toolCallDecoded true) :=
    show SampledTokenSection.content ≠ .toolCall by decide
  have hruns := (h (toolCallContext true) toolCallRequest (toolCallDecoded true) _ [] ⟨[], .nothing⟩
    (samples 0) ⟨TokenUsage.new⟩ toolCallRequest_startsWith (toolCallDecoded_run true)
      hsection rfl).runs
  rw [htexts] at hruns
  exact absurd hruns (by decide)

end Paddler
