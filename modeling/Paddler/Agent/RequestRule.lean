import Paddler.Agent.SequenceIds

/-!
# One request at a time

Most properties of the scheduler are about one request: what its history says, given which decode
filled the logits buffer.  `RequestRule` lists everything that can happen to a request between its
acceptance and the drop of its sender, and `RequestRule.preserves` lifts it to the scheduler.

* `EachRequest` — a property of every active and of every ended request.
* `RequestRule` — it survives each thing that can happen to one request.
* `RequestRule.callStep` — **then it survives a call of the scheduler thread.**
-/

set_option autoImplicit false

namespace Paddler

open VecUpdate Run

variable {C : Type}

/-- `Q` of every active request, with the decode that filled the logits buffer, and `E` of every
ended one. -/
structure EachRequest (Q : LastDecode → ContinuousBatchActiveRequest C → Prop)
    (E : EndedRequest → Prop) (s : ContinuousBatchScheduler C) : Prop where
  active : ∀ r ∈ s.activeRequests, Q s.llamaContext.lastDecode r
  ended : ∀ e ∈ s.ended, E e

/-- `Q` and `E` survive everything that the next call of `thread` can do to one request. -/
structure RequestRule (ctx : ContinuousBatchSchedulerContext C) (thread : SchedulerThread C)
    (answers : StepAnswers C) (Q : LastDecode → ContinuousBatchActiveRequest C → Prop)
    (E : EndedRequest → Prop) : Prop where
  /-- It is stopped or evicted. -/
  completed : ∀ d r result, Q d r → r.state.phase.isCompleted = false → result.isDone = true →
    (∀ summary, result = .done summary → summary = generationSummary ctx r) →
    Q d (r.completeWithOutcome result)
  /-- Another decode fills the logits buffer while the request waits for no row of it. -/
  replaced : ∀ d d' r, Q d r → r.sampleableBatchIndex = none → Q d' r
  /-- It is sampled by `advance_one`. -/
  advanced : ∀ r ∈ thread.scheduler.activeRequests, thread.call = .executeOrReceive →
    Q thread.scheduler.llamaContext.lastDecode r →
    Q thread.scheduler.llamaContext.lastDecode
      (advance ctx thread.scheduler.llamaContext (answers.sampling r.id) r)
  /-- It is sampled by the harvest. -/
  harvested : ∀ command commandRx, thread.commandRx = command :: commandRx → thread.TakesCommand →
    command.Harvests ctx answers thread.scheduler → ∀ r ∈ thread.scheduler.activeRequests,
    ∀ llama : LlamaContext, Q llama.lastDecode r →
      Q llama.lastDecode (harvestOne ctx llama (answers.sampling r.id) r)
  /-- A batch is decoded. -/
  decoded : ∀ tokens d r r', Q d r → r.sampleableBatchIndex = none → DecodeStep tokens r r' →
    Q (.batch tokens) r'
  /-- It becomes active as a text prompt. -/
  text : ∀ command commandRx tx, thread.commandRx = command :: commandRx → thread.TakesCommand →
    command.generatedTokensTx = some tx → ∀ d maxTokens prompt promptTokens classifier
      hasGrammarSampler sequenceId toolCallPipeline,
    command.textPrompt ctx answers = some prompt →
    thread.scheduler.sequenceIdPool.availableIds ≠ [] →
    answers.acceptance.strToToken prompt = .ok promptTokens → command.maxTokens = some maxTokens →
    answers.acceptance.sampledTokenClassifier = .ok classifier →
    Q d (newTextRequest maxTokens promptTokens
      (ctx.classifier.ingestPromptTokens
        (ctx.classifier.recordPromptTokens classifier promptTokens.length) promptTokens)
      hasGrammarSampler tx sequenceId toolCallPipeline)
  /-- It becomes active as a multimodal prompt. -/
  multimodal : ∀ command commandRx tx, thread.commandRx = command :: commandRx →
    thread.TakesCommand → command.generatedTokensTx = some tx → ∀ maxTokens tokensIngested
      classifier hasGrammarSampler sequenceId toolCallPipeline, command.maxTokens = some maxTokens →
    answers.acceptance.sampledTokenClassifier = .ok classifier →
    Q (.multimodal tx.id) (newMultimodalRequest maxTokens tokensIngested
      (answers.acceptance.evalClassifier classifier) hasGrammarSampler tx sequenceId
        toolCallPipeline)
  /-- Its terminal outcome is delivered and its sender dropped. -/
  delivered : ∀ d r, Q d r → (r.state.phase.isCompleted = true ∨ thread.call = .cleanup) →
    E r.deliverTerminal
  /-- It is refused. -/
  refused : ∀ command commandRx tx tx', thread.commandRx = command :: commandRx →
    thread.TakesCommand → command.generatedTokensTx = some tx →
    RefusedWith (command.Served ctx answers) tx tx' → E ⟨tx', RequestHistory.new 0⟩

namespace RequestRule

variable {ctx : ContinuousBatchSchedulerContext C} {thread : SchedulerThread C}
  {answers : StepAnswers C} {Q : LastDecode → ContinuousBatchActiveRequest C → Prop}
  {E : EndedRequest → Prop}

theorem endedWith {ended : List EndedRequest} {e : EndedRequest} (h : ∀ e ∈ ended, E e) (he : E e) :
    ∀ e' ∈ ended ++ [e], E e' := by
  intro e' he'
  rcases List.mem_append.mp he' with h' | h'
  · exact h e' h'
  · rw [List.mem_singleton.mp h']
    exact he

theorem sampleable_of_completed {r : ContinuousBatchActiveRequest C}
    (h : r.state.phase.isCompleted = true) : r.sampleableBatchIndex = none := by
  unfold ContinuousBatchActiveRequest.sampleableBatchIndex
  cases hp : r.state.phase with
  | ingesting => rfl
  | generating => simp [hp, ContinuousBatchRequestPhase.isCompleted] at h
  | completed outcome => rfl

theorem harvestOne_sampleable (ctx : ContinuousBatchSchedulerContext C) (llama : LlamaContext)
    (sampling : SamplingAnswers) (r : ContinuousBatchActiveRequest C) :
    (harvestOne ctx llama sampling r).sampleableBatchIndex = none := by
  have hstep := harvestOne_samplingStep ctx llama sampling r
  revert hstep
  generalize harvestOne ctx llama sampling r = r'
  intro hstep
  cases hstep with
  | idle h => exact h
  | completed _ _ _ hphase =>
    exact sampleable_of_completed (by rw [hphase]; rfl)
  | stored _ _ hphase hpending =>
    unfold ContinuousBatchActiveRequest.sampleableBatchIndex
    rw [hphase, hpending]

theorem accepted (rule : RequestRule ctx thread answers Q E)
    (h : EachRequest Q E thread.scheduler) {command : ContinuousBatchSchedulerCommand}
    {commandRx : List ContinuousBatchSchedulerCommand}
    (hrx : thread.commandRx = command :: commandRx) (htakes : thread.TakesCommand)
    {tx : Sender GeneratedTokenResult} (htx : command.generatedTokensTx = some tx)
    {s' : ContinuousBatchScheduler C}
    (hstep : AcceptStep ctx answers.acceptance answers.sampling (command.Served ctx answers)
      (command.Harvests ctx answers thread.scheduler) tx (command.textPrompt ctx answers)
      command.maxTokens thread.scheduler s') :
    EachRequest Q E s' := by
  have hharvested : command.Harvests ctx answers thread.scheduler →
      ∀ (sequenceId : Int) (d' : LastDecode), ∀ r ∈ harvestPendingSamples ctx answers.sampling
        (thread.scheduler.llamaContext.clearKvCacheForSequence sequenceId)
        thread.scheduler.activeRequests, Q d' r := by
    intro hharvests sequenceId d' r' hr'
    obtain ⟨r, hr, rfl⟩ := List.mem_map.mp hr'
    refine rule.replaced _ d' _ (rule.harvested command commandRx hrx htakes hharvests r hr _ ?_)
      (harvestOne_sampleable ..)
    rw [LlamaContext.clearKvCacheForSequence_lastDecode]
    exact h.active r hr
  cases hstep with
  | refused hrefused =>
    exact ⟨h.active, endedWith h.ended
      (rule.refused command commandRx tx _ hrx htakes htx hrefused)⟩
  | text hacquire hprompt htokens hmax hclassifier =>
    refine ⟨fun r hr => ?_, h.ended⟩
    simp only [LlamaContext.clearKvCacheForSequence_lastDecode]
    rcases List.mem_append.mp hr with hr | hr
    · exact h.active r hr
    · rw [List.mem_singleton.mp hr]
      refine rule.text command commandRx tx hrx htakes htx _ _ _ _ _ _ _ _ hprompt ?_ htokens hmax
        hclassifier
      rw [SequenceIdPool.acquire_some hacquire]
      exact List.append_ne_nil_of_right_ne_nil _ (List.cons_ne_nil _ _)
  | harvestRefused hharvests _ hrefused _ =>
    exact ⟨hharvested hharvests _ _,
      endedWith h.ended (rule.refused command commandRx tx _ hrx htakes htx hrefused)⟩
  | multimodal hharvests _ heval hmax hclassifier =>
    refine ⟨fun r hr => ?_, h.ended⟩
    rcases List.mem_append.mp hr with hr | hr
    · exact hharvested hharvests _ _ r hr
    · rw [List.mem_singleton.mp hr]
      simp only [LlamaContext.evalMultimodal, heval]
      exact rule.multimodal command commandRx tx hrx htakes htx _ _ _ _ _ _ hmax hclassifier

theorem embedded (rule : RequestRule ctx thread answers Q E)
    (h : EachRequest Q E thread.scheduler) :
    EachRequest Q E (tryProcessEmbeddingRequest ctx answers.embedding thread.scheduler) := by
  unfold tryProcessEmbeddingRequest
  split
  · exact h
  · split
    · exact ⟨h.active, h.ended⟩
    · rename_i hidle
      refine ⟨fun r hr => rule.replaced _ _ r (h.active r hr) ?_, h.ended⟩
      -- an embedding batch is decoded only while every request is completed
      have hcompleted : ∀ r ∈ thread.scheduler.activeRequests,
          r.state.phase.isCompleted = true := by
        simpa [ContinuousBatchScheduler.hasActiveRequests] using hidle
      exact sampleable_of_completed (hcompleted r hr)

/-- **What survives everything that happens to one request survives a step.** -/
theorem preserves (rule : RequestRule ctx thread answers Q E)
    (h : EachRequest Q E thread.scheduler) :
    StepPreserves ctx thread answers (SequenceIdsInv ctx) (EachRequest Q E) where
  stopSignals _ := by
    refine ⟨fun r' hr' => ?_, h.ended⟩
    obtain ⟨r, hr, rfl⟩ := List.mem_map.mp hr'
    unfold ContinuousBatchScheduler.checkStopSignal
    split
    · exact h.active r hr
    · rename_i hphase
      split
      · refine rule.completed _ r _ (h.active r hr) (by simpa using hphase) rfl
          fun summary hsummary => ?_
        exact (GeneratedTokenResult.done.inj hsummary).symm
      · exact h.active r hr
  cleanup s index r rest _ hs hswap hc := by
    have hmem : ∀ r' ∈ r :: rest, r' ∈ s.activeRequests := fun r' hr' =>
      (swapRemove_perm hswap).mem_iff.mpr hr'
    refine ⟨fun r' hr' => ?_, endedWith hs.ended ?_⟩
    · simp only [ContinuousBatchScheduler.cleaned, LlamaContext.clearKvCacheForSequence_lastDecode]
      exact hs.active r' (hmem r' (List.mem_cons_of_mem _ hr'))
    · exact rule.delivered _ r (hs.active r (hmem r (List.mem_cons_self ..))) hc
  evict s index r result _ hs hget hc hfailure := by
    refine ⟨fun r' hr' => ?_, hs.ended⟩
    obtain ⟨i, hi, rfl⟩ := List.getElem_of_mem hr'
    simp only [List.length_modify] at hi
    rw [List.getElem_modify]
    split
    · rename_i heq
      subst heq
      rw [List.getElem?_eq_getElem hi] at hget
      cases hget
      refine rule.completed _ _ _ (hs.active _ (List.getElem_mem hi)) hc
        (GeneratedTokenResult.isDone_of_isFailure hfailure) fun summary hsummary => ?_
      rw [hsummary] at hfailure
      cases hfailure
    · exact hs.active _ (List.getElem_mem hi)
  command command commandRx hrx htakes := by
    rcases processCommand_cases ctx answers thread.scheduler command with
      ⟨tx, htx, -, hstep⟩ | ⟨request, -, heq⟩ | ⟨-, heq⟩
    · exact rule.accepted h hrx htakes htx hstep
    · rw [heq]
      exact ⟨h.active, h.ended⟩
    · rw [heq]
      exact ⟨h.active, h.ended⟩
  running := ⟨h.active, h.ended⟩
  embedding _ := rule.embedded h
  advance hcall := by
    refine ⟨fun r' hr' => ?_, h.ended⟩
    obtain ⟨r, hr, rfl⟩ := List.mem_map.mp hr'
    exact rule.advanced r hr hcall (h.active r hr)
  decode s hb hs hno hn := by
    refine ⟨fun r' hr' => ?_, hs.ended⟩
    have hforall := decodedWith_activeRequests hn hb.nodup
    obtain ⟨i, hi, rfl⟩ := List.getElem_of_mem hr'
    have hlen : i < s.activeRequests.length := by rwa [hforall.length_eq]
    exact rule.decoded _ _ _ _ (hs.active _ (List.getElem_mem hlen))
      (hno _ (List.getElem_mem hlen)) (hforall.get hlen hi)
  -- a decode that fails leaves the logits buffer alone
  decodeFailed _ _ _ hs := ⟨hs.active, hs.ended⟩

/-- **The invariant rule for one request at a time.** -/
theorem callStep (rule : RequestRule ctx thread answers Q E)
    (hseq : SequenceIdsInv ctx thread.scheduler) (h : EachRequest Q E thread.scheduler) :
    EachRequest Q E (thread.callStep ctx answers).scheduler :=
  callStep_relying _ (hseq.preserves answers) hseq h (rule.preserves h)

/-- The rule along the runs of steps that satisfy `guard`. -/
theorem reaches {guard : SchedulerThread C → SchedulerInput C → Prop}
    (hrule : ∀ thread answers, Reaches (SchedulerThread.step ctx) guard (.new ctx) thread →
      guard thread (.call answers) → RequestRule ctx thread answers Q E)
    (h : Reaches (SchedulerThread.step ctx) guard (.new ctx) thread) :
    EachRequest Q E thread.scheduler := by
  have hnew : EachRequest Q E (SchedulerThread.new ctx).scheduler :=
    ⟨fun r hr => absurd hr List.not_mem_nil, fun e he => absurd he List.not_mem_nil⟩
  refine h.invariant (fun thread => EachRequest Q E thread.scheduler) hnew
    fun thread input hreach hinv hguard => ?_
  cases input with
  | arrive params drops => exact ⟨hinv.active, hinv.ended⟩
  | dropCommandTx => exact ⟨hinv.active, hinv.ended⟩
  | call answers =>
    exact (hrule thread answers hreach hguard).callStep (sequenceIdsInv_reaches hreach) hinv

end RequestRule

end Paddler
