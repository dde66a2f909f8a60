import Paddler.Agent.TokenStream

/-!
# Token budgets

A request asks for at most `max_tokens` completion tokens.  `advance_one` compares the classifier's
count with them after every token it ingests; the harvest before a multimodal evaluation ingests a
token too, and does not look at the count, so that the next token goes over it.

* `CountsTokens` — what is assumed of the token classifier.
* `HarvestsLeaveRoom` — no harvest of the step uses up the budget of a request.
* `tokenBudget_kept` — **in runs of such steps no summary reports more than the budget.**
* `tokenBudget_exceeded` — an image that arrives at the wrong moment costs a token too many.
-/

set_option autoImplicit false

namespace Paddler

open VecUpdate Run

variable {C : Type}

/-! ## What is counted -/

/-- A token raises the count of completion tokens by at most one, a prompt does not raise it. -/
structure CountsTokens (classifier : SampledTokenClassifier C) : Prop where
  ingest : ∀ c t, completionTokenCount (classifier.usage (classifier.ingest c t).2) ≤
    completionTokenCount (classifier.usage c) + 1
  recordPromptTokens : ∀ c n,
    completionTokenCount (classifier.usage (classifier.recordPromptTokens c n)) ≤
      completionTokenCount (classifier.usage c)
  ingestPromptTokens : ∀ c tokens,
    completionTokenCount (classifier.usage (classifier.ingestPromptTokens c tokens)) ≤
      completionTokenCount (classifier.usage c)

/-- A new classifier has counted nothing, also after the evaluation of a multimodal prompt. -/
def StartsFromZero (classifier : SampledTokenClassifier C) (answers : AcceptanceAnswers C) : Prop :=
  ∀ c, answers.sampledTokenClassifier = .ok c → completionTokenCount (classifier.usage c) = 0 ∧
    completionTokenCount (classifier.usage (answers.evalClassifier c)) = 0

/-- No more completion tokens than a request with `maxTokens` may report. -/
def WithinBudget (maxTokens : Int) (usage : TokenUsage) : Prop :=
  (completionTokenCount usage : Int) ≤ max 1 maxTokens

instance (maxTokens : Int) (usage : TokenUsage) : Decidable (WithinBudget maxTokens usage) :=
  inferInstanceAs (Decidable (_ ≤ _))

/-- One more completion token is within the budget. -/
def LeavesRoom (maxTokens : Int) (usage : TokenUsage) : Prop :=
  (completionTokenCount usage : Int) < max 1 maxTokens

/-- Requests arrive with the budgets `maxTokensOf` of their ids, and classifiers start from zero. -/
def BudgetedStep (ctx : ContinuousBatchSchedulerContext C) (maxTokensOf : Nat → Int)
    (thread : SchedulerThread C) : SchedulerInput C → Prop
  | .arrive params receiverDropsAfter =>
    ∀ m, (params.command receiverDropsAfter thread.nextRequestId).maxTokens = some m →
      maxTokensOf thread.nextRequestId = m
  | .dropCommandTx => True
  | .call answers => StartsFromZero ctx.classifier answers.acceptance

/-- A token that the step harvests leaves its request room for another one. -/
def HarvestsLeaveRoom (ctx : ContinuousBatchSchedulerContext C) (thread : SchedulerThread C) :
    SchedulerInput C → Prop
  | .arrive _ _ | .dropCommandTx => True
  | .call answers => ∀ command commandRx, thread.commandRx = command :: commandRx →
      thread.TakesCommand →
    command.Harvests ctx answers thread.scheduler → ∀ r ∈ thread.scheduler.activeRequests,
    ∀ t, Samples answers r t → LeavesRoom r.state.maxTokens
      (ctx.classifier.usage (ctx.classifier.ingest r.tokenClassifier t).2)

theorem leavesRoom_of_continue {maxTokens : Int} {usage : TokenUsage}
    (h : maxTokensOutcome maxTokens usage = .continue) : LeavesRoom maxTokens usage := by
  unfold maxTokensOutcome at h
  unfold LeavesRoom
  split at h
  · cases h
  · split at h
    · cases h
    · omega

theorem LeavesRoom.within {maxTokens : Int} {usage usage' : TokenUsage}
    (h : LeavesRoom maxTokens usage)
    (hnext : completionTokenCount usage' ≤ completionTokenCount usage + 1) :
    WithinBudget maxTokens usage' := by
  unfold LeavesRoom at h
  unfold WithinBudget
  omega

theorem leavesRoom_of_zero {maxTokens : Int} {usage : TokenUsage}
    (h : completionTokenCount usage = 0) : LeavesRoom maxTokens usage := by
  unfold LeavesRoom
  omega

/-! ## The conditions can be evaluated -/

instance (maxTokens : Int) (usage : TokenUsage) : Decidable (LeavesRoom maxTokens usage) :=
  inferInstanceAs (Decidable (_ < _))

instance (classifier : SampledTokenClassifier C) (answers : AcceptanceAnswers C) :
    Decidable (StartsFromZero classifier answers) :=
  decidable_of_iff (∀ c ∈ answers.sampledTokenClassifier.toOption,
      completionTokenCount (classifier.usage c) = 0 ∧
        completionTokenCount (classifier.usage (answers.evalClassifier c)) = 0)
    forall_ok_iff

instance (ctx : ContinuousBatchSchedulerContext C) (maxTokensOf : Nat → Int)
    (thread : SchedulerThread C) :
    ∀ input : SchedulerInput C, Decidable (BudgetedStep ctx maxTokensOf thread input)
  | .arrive params receiverDropsAfter =>
    inferInstanceAs (Decidable
      (∀ m ∈ (params.command receiverDropsAfter thread.nextRequestId).maxTokens,
        maxTokensOf thread.nextRequestId = m))
  | .dropCommandTx => isTrue trivial
  | .call answers => inferInstanceAs (Decidable (StartsFromZero ctx.classifier answers.acceptance))

instance (ctx : ContinuousBatchSchedulerContext C) (thread : SchedulerThread C) :
    ∀ input : SchedulerInput C, Decidable (HarvestsLeaveRoom ctx thread input)
  | .arrive _ _ | .dropCommandTx => isTrue trivial
  | .call answers =>
    decidable_of_iff
      (∀ command ∈ thread.commandRx.head?, thread.TakesCommand →
        command.Harvests ctx answers thread.scheduler → ∀ r ∈ thread.scheduler.activeRequests,
        ∀ t ∈ sampledToken answers r, LeavesRoom r.state.maxTokens
          (ctx.classifier.usage (ctx.classifier.ingest r.tokenClassifier t).2))
      (by simp only [mem_sampledToken, forall_taken_iff]; rfl)

/-! ## One request -/

/-- The budget of one request: it has room as long as it is not completed, and a summary is within
it. -/
structure BudgetInv (ctx : ContinuousBatchSchedulerContext C) (maxTokensOf : Nat → Int)
    (r : ContinuousBatchActiveRequest C) : Prop where
  maxTokens : r.state.maxTokens = maxTokensOf r.id
  room : r.state.phase.isCompleted = false →
    LeavesRoom r.state.maxTokens (ctx.classifier.usage r.tokenClassifier)
  summary : ∀ summary, r.state.phase = .completed (.emitToClient (.done summary)) →
    WithinBudget r.state.maxTokens summary.usage

namespace BudgetInv

variable {ctx : ContinuousBatchSchedulerContext C} {maxTokensOf : Nat → Int}
  {r r' : ContinuousBatchActiveRequest C}

theorem of_active (hphase : r.state.phase.isCompleted = false)
    (hmax : r.state.maxTokens = maxTokensOf r.id)
    (hroom : LeavesRoom r.state.maxTokens (ctx.classifier.usage r.tokenClassifier)) :
    BudgetInv ctx maxTokensOf r :=
  ⟨hmax, fun _ => hroom, fun summary hc => by
    rw [hc] at hphase
    cases hphase⟩

theorem of_completed {outcome : ContinuousBatchTerminalOutcome}
    (hphase : r.state.phase = .completed outcome) (hmax : r.state.maxTokens = maxTokensOf r.id)
    (hsummary : ∀ summary, outcome = .emitToClient (.done summary) →
      WithinBudget r.state.maxTokens summary.usage) : BudgetInv ctx maxTokensOf r := by
  refine ⟨hmax, fun hactive => ?_, fun summary hc => ?_⟩
  · rw [hphase] at hactive
    cases hactive
  · rw [hphase] at hc
    cases hc
    exact hsummary summary rfl

theorem completed (h : BudgetInv ctx maxTokensOf r) (hphase : r.state.phase.isCompleted = false)
    {result : GeneratedTokenResult}
    (hsummary : ∀ summary, result = .done summary → summary = generationSummary ctx r) :
    BudgetInv ctx maxTokensOf (r.completeWithOutcome result) := by
  rw [ContinuousBatchActiveRequest.completeWithOutcome_of_active hphase]
  refine of_completed rfl h.maxTokens fun summary hc => ?_
  cases hc
  rw [hsummary summary rfl]
  exact (h.room hphase).within (Nat.le_succ _)

theorem decoded {tokens : List BatchToken} (h : BudgetInv ctx maxTokensOf r)
    (hstep : DecodeStep tokens r r') : BudgetInv ctx maxTokensOf r' := by
  cases hstep with
  | skipped => exact h
  | generated hphase =>
    have hactive : r.state.phase.isCompleted = false := by rw [hphase]; rfl
    exact of_active hactive h.maxTokens (h.room hactive)
  | @ingested p k b hphase _ _ _ _ _ _ _ _ hsize =>
    have hactive : r.state.phase.isCompleted = false := by rw [hphase]; rfl
    simp only [r.state.applyIngestingContribution_of_le hsize]
    refine of_active ?_ h.maxTokens (h.room hactive)
    dsimp only
    split
    · rfl
    · exact hactive

theorem failed (hmax : r.state.maxTokens = maxTokensOf r.id)
    (hphase : r.state.phase.isCompleted = false) {result : GeneratedTokenResult}
    (hfailure : result.isFailure = true) :
    BudgetInv ctx maxTokensOf (r.completeWithOutcome result) := by
  rw [ContinuousBatchActiveRequest.completeWithOutcome_of_active hphase]
  refine of_completed rfl hmax fun summary hc => ?_
  cases hc
  cases hfailure

theorem advanced {llama : LlamaContext} {answers : SamplingAnswers}
    (hcounts : CountsTokens ctx.classifier) (h : BudgetInv ctx maxTokensOf r) :
    BudgetInv ctx maxTokensOf (advance ctx llama answers r) := by
  rcases advance_cases ctx llama answers r with
    ⟨-, heq⟩ | ⟨i, result, hi, -, hfailure, heq⟩ | ⟨i, t, outcome, r', hi, -, hadv, heq⟩
  · rw [heq]
    exact h
  · rw [heq]
    apply failed
    · exact h.maxTokens
    · show r.state.phase.isCompleted = false
      rw [(sampleableBatchIndex_eq_some.mp hi).1]
      rfl
    · exact hfailure
  · rw [heq]
    obtain ⟨hgenerating, -, -⟩ := sampleableBatchIndex_eq_some.mp hi
    have hphase : r.state.phase.isCompleted = false := by rw [hgenerating]; rfl
    have hroom := h.room hphase
    rcases advanceSampled_spec hadv with ⟨err, c, -, ho, hr⟩ | ⟨outcomes, c, events, hing, hch, ho⟩
    · -- the classifier failed
      subst hr
      subst ho
      apply failed
      · exact h.maxTokens
      · exact hphase
      · rfl
    · have hstate : ∀ o, r'.state.markCompleted o = r.state.markCompleted o := fun o => by
        rw [hch.state]
        rfl
      have hmax : r'.state.maxTokens = maxTokensOf r'.id := by
        rw [hch.state]
        exact h.maxTokens.trans (congrArg maxTokensOf hch.channel.id.symm)
      have hended : ∀ {o : ContinuousBatchTerminalOutcome} {r'' : ContinuousBatchActiveRequest C},
          r'' = { r' with state := r'.state.markCompleted o } →
          (∀ summary, o = .emitToClient (.done summary) → summary = generationSummary ctx r') →
          BudgetInv ctx maxTokensOf r'' := by
        rintro o r'' rfl hsummary
        have hcompleted := (hstate o).trans (markCompleted_of_generating hgenerating o)
        refine of_completed (congrArg (·.phase) hcompleted) ?_ fun summary hc => ?_
        · show (r'.state.markCompleted o).maxTokens = maxTokensOf r'.id
          rw [hcompleted, ← hmax, hch.state]
          rfl
        · show WithinBudget (r'.state.markCompleted o).maxTokens summary.usage
          rw [hcompleted, hsummary summary hc, generationSummary, hch.tokenClassifier]
          refine hroom.within ?_
          have hcount := hcounts.ingest r.tokenClassifier t
          rwa [show (ctx.classifier.ingest r.tokenClassifier t).2 = c
            from congrArg Prod.snd hing] at hcount
      rcases ho with ⟨-, -, rfl⟩ | ⟨-, -, ⟨rfl, -⟩ | ⟨rfl, hcontinue⟩⟩ | ⟨rfl, -, -⟩
      · exact hended rfl fun summary hc => by cases hc; rfl
      · exact hended rfl fun summary hc => by cases hc; rfl
      · -- the budget was not reached
        refine of_active ?_ hmax ?_
        · show r'.state.phase.isCompleted = false
          rw [hch.state]
          exact hphase
        · show LeavesRoom r'.state.maxTokens (ctx.classifier.usage r'.tokenClassifier)
          rw [hch.state, hch.tokenClassifier]
          exact leavesRoom_of_continue hcontinue
      · exact hended rfl fun summary hc => by cases hc

/-- The harvest keeps the budget when the token leaves room. -/
theorem harvested {llama : LlamaContext} {answers : SamplingAnswers}
    (h : BudgetInv ctx maxTokensOf r)
    (hguard : ∀ t, r.sampleableBatchIndex ≠ none → sampleTokenPhase answers r = .sampled t →
      LeavesRoom r.state.maxTokens
        (ctx.classifier.usage (ctx.classifier.ingest r.tokenClassifier t).2)) :
    BudgetInv ctx maxTokensOf (harvestOne ctx llama answers r) := by
  have hactive : ∀ {i : Int}, r.sampleableBatchIndex = some i →
      r.state.phase.isCompleted = false := by
    intro i hi
    rw [(sampleableBatchIndex_eq_some.mp hi).1]
    rfl
  rcases harvestOne_cases ctx llama answers r with
    ⟨-, heq⟩ | ⟨i, result, hi, -, hfailure, heq⟩ | ⟨i, t, err, c, hi, -, -, heq⟩ |
    ⟨i, t, outcomes, c, hi, hs, hing, heq⟩
  · rw [heq]
    exact h
  · rw [heq]
    apply failed
    · exact h.maxTokens
    · exact hactive hi
    · exact hfailure
  · rw [heq]
    apply failed
    · exact h.maxTokens
    · exact hactive hi
    · rfl
  · rw [heq]
    refine of_active (hactive hi) h.maxTokens ?_
    have hleaves := hguard t (by rw [hi]; simp) hs
    rwa [show (ctx.classifier.ingest r.tokenClassifier t).2 = c
      from congrArg Prod.snd hing] at hleaves

end BudgetInv

/-! ## Every run -/

/-- The summaries that were reported for a request that ended. -/
def ReportedWithin (maxTokensOf : Nat → Int) (e : EndedRequest) : Prop :=
  ∀ summary, .done summary ∈ e.generatedTokensTx.sent →
    WithinBudget (maxTokensOf e.generatedTokensTx.id) summary.usage

theorem BudgetInv.delivered {ctx : ContinuousBatchSchedulerContext C} {maxTokensOf : Nat → Int}
    {r : ContinuousBatchActiveRequest C} (hchannel : ChannelInv r)
    (h : BudgetInv ctx maxTokensOf r) :
    ReportedWithin maxTokensOf r.deliverTerminal := by
  have hnone : ∀ summary, .done summary ∉ r.generatedTokensTx.sent := fun summary hmem =>
    absurd (hchannel.notDone _ hmem) (by simp [GeneratedTokenResult.isDone])
  unfold ReportedWithin
  rcases hchannel.delivered with ⟨heq, -⟩ | ⟨result, tx', hphase, -, hext, heq⟩
  · rw [heq]
    exact fun summary hmem => absurd hmem (hnone summary)
  · rw [heq]
    intro summary hmem
    rw [hext.sent, List.mem_append, List.mem_singleton] at hmem
    rcases hmem with hmem | rfl
    · exact absurd hmem (hnone summary)
    · rw [hext.id]
      exact h.maxTokens ▸ h.summary summary hphase

/-- The commands that wait have the budgets of their ids. -/
theorem commandBudgets_reaches {ctx : ContinuousBatchSchedulerContext C} {maxTokensOf : Nat → Int}
    {guard : SchedulerThread C → SchedulerInput C → Prop}
    (hguard : ∀ thread input, guard thread input → BudgetedStep ctx maxTokensOf thread input)
    {thread : SchedulerThread C} (h : Reaches (SchedulerThread.step ctx) guard (.new ctx) thread) :
    ∀ command ∈ thread.commandRx, ∀ tx m, command.generatedTokensTx = some tx →
      command.maxTokens = some m → maxTokensOf tx.id = m := by
  refine h.invariant (fun thread => ∀ command ∈ thread.commandRx, ∀ tx m,
    command.generatedTokensTx = some tx → command.maxTokens = some m → maxTokensOf tx.id = m)
    (fun command hc => absurd hc List.not_mem_nil) fun thread input _ hinv hstep => ?_
  have hbudgeted := hguard thread input hstep
  cases input with
  | arrive params drops =>
    intro command hc tx m htx hm
    rcases List.mem_append.mp hc with hc | hc
    · exact hinv command hc tx m htx hm
    · rw [List.mem_singleton.mp hc] at htx hm
      have hid : tx.id = thread.nextRequestId := by
        cases params <;> cases htx <;> rfl
      rw [hid]
      exact hbudgeted m hm
  | dropCommandTx => exact hinv
  | call answers => exact fun command hc => hinv command (callStep_commandRx_subset answers hc)

theorem budgetInv_reaches {ctx : ContinuousBatchSchedulerContext C}
    (hcounts : CountsTokens ctx.classifier) {maxTokensOf : Nat → Int} {thread : SchedulerThread C}
    (h : Reaches (SchedulerThread.step ctx) (fun thread input =>
      BudgetedStep ctx maxTokensOf thread input ∧ HarvestsLeaveRoom ctx thread input)
        (.new ctx) thread) :
    EachRequest (fun _ r => ChannelInv r ∧ BudgetInv ctx maxTokensOf r) (ReportedWithin maxTokensOf)
      thread.scheduler := by
  refine RequestRule.reaches (fun thread answers hreach hguard => ?_) h
  have hchannel := channelRule hreach answers
  have hbudgets := commandBudgets_reaches (fun _ _ => And.left) hreach
  have hbudget : ∀ {command commandRx tx m}, thread.commandRx = command :: commandRx →
      command.generatedTokensTx = some tx → command.maxTokens = some m → m = maxTokensOf tx.id := by
    intro command commandRx tx m hrx htx hm
    exact (hbudgets command (by rw [hrx]; exact List.mem_cons_self) tx m htx hm).symm
  exact
    { completed := fun d r result hr hphase hdone hsummary =>
        ⟨hchannel.completed d r result hr.1 hphase hdone hsummary, hr.2.completed hphase hsummary⟩
      replaced := fun _ _ _ hr _ => hr
      advanced := fun r hmem hcall hr =>
        ⟨hchannel.advanced r hmem hcall hr.1, hr.2.advanced hcounts⟩
      harvested := fun command commandRx hrx htakes hharvests r hmem llama hr =>
        ⟨hchannel.harvested command commandRx hrx htakes hharvests r hmem llama hr.1,
          hr.2.harvested fun t hrow hs =>
            hguard.2 command commandRx hrx htakes hharvests r hmem t ⟨hrow, hs⟩⟩
      decoded := fun tokens d r r' hr hno hstep =>
        ⟨hchannel.decoded tokens d r r' hr.1 hno hstep, hr.2.decoded hstep⟩
      text := fun command commandRx tx hrx htakes htx d m prompt promptTokens c _ _ _ hprompt hpool
          htokens hmax hc => by
        refine ⟨hchannel.text command commandRx tx hrx htakes htx d m prompt promptTokens c
          _ _ _ hprompt hpool htokens hmax hc,
          .of_active rfl (hbudget hrx htx hmax) (leavesRoom_of_zero ?_)⟩
        have hzero := (hguard.1 c hc).1
        have hrecord := hcounts.recordPromptTokens c promptTokens.length
        have hingest := hcounts.ingestPromptTokens
          (ctx.classifier.recordPromptTokens c promptTokens.length) promptTokens
        dsimp only [newTextRequest]
        omega
      multimodal := fun command commandRx tx hrx htakes htx m _ c _ _ _ hmax hc =>
        ⟨hchannel.multimodal command commandRx tx hrx htakes htx m _ c _ _ _ hmax hc,
          .of_active rfl (hbudget hrx htx hmax) (leavesRoom_of_zero (hguard.1 c hc).2)⟩
      delivered := fun d r hr _ => hr.2.delivered hr.1
      refused := by
        intro command commandRx tx tx' hrx htakes htx hrefused summary hmem
        have hfresh := taken_fresh hreach hrx htx
        rcases hrefused with ⟨rfl, -⟩ | ⟨result, hfailure, hext⟩
        · rw [hfresh] at hmem
          cases hmem
        · rw [hext.sent, hfresh, List.nil_append, List.mem_singleton] at hmem
          rw [← hmem] at hfailure
          cases hfailure }

/-- **No summary reports more completion tokens than `max(1, max_tokens)`** in a run in which every
harvest leaves room. -/
theorem tokenBudget_kept {ctx : ContinuousBatchSchedulerContext C}
    (hcounts : CountsTokens ctx.classifier) {maxTokensOf : Nat → Int} {thread : SchedulerThread C}
    (h : Reaches (SchedulerThread.step ctx) (fun thread input =>
      BudgetedStep ctx maxTokensOf thread input ∧ HarvestsLeaveRoom ctx thread input)
        (.new ctx) thread) :
    (∀ r ∈ thread.scheduler.activeRequests, r.state.maxTokens = maxTokensOf r.id ∧
      ∀ summary, r.state.phase = .completed (.emitToClient (.done summary)) →
        WithinBudget (maxTokensOf r.id) summary.usage) ∧
    ∀ e ∈ thread.scheduler.ended, ReportedWithin maxTokensOf e := by
  have hinv := budgetInv_reaches hcounts h
  refine ⟨fun r hr => ?_, hinv.ended⟩
  obtain ⟨-, hbudget⟩ := hinv.active r hr
  exact ⟨hbudget.maxTokens, hbudget.maxTokens ▸ hbudget.summary⟩

/-! ## A counting agent -/

/-- A classifier that counts every token as content. -/
def countingClassifier : SampledTokenClassifier Nat where
  ingest count token := (.ok [⟨.content token, "a", "a"⟩], count + 1)
  usage count := { TokenUsage.new with contentTokens := count }
  currentSection _ := .content
  recordPromptTokens count _ := count
  ingestPromptTokens count _ := count

/-- The small agent with that classifier. -/
def countingContext : ContinuousBatchSchedulerContext Nat where
  agentName := none
  hasChatTemplateRenderer := true
  desiredSlotsTotal := 2
  desiredSlotsTotal_le := smallContext.desiredSlotsTotal_le
  inferenceParameters := smallContext.inferenceParameters
  hasMultimodalContext := true
  isEogToken := smallContext.isEogToken
  classifier := countingClassifier
  toolCallApi := noToolCalls

/-- The answers of the small agent; a new classifier has counted nothing. -/
def countingAnswers : StepAnswers Nat where
  stop := smallAnswers.stop
  sampling := smallAnswers.sampling
  decode := smallAnswers.decode
  acceptance := { smallAnswers.acceptance with
    sampledTokenClassifier := .ok 0
    evalClassifier := id }
  embedding := smallAnswers.embedding

/-- A text prompt for one token. -/
def oneTokenPrompt : CommandParams := .continueFromRawPrompt ⟨none, 1, "prompt"⟩

theorem countingClassifier_counts : CountsTokens countingClassifier := by
  constructor
  · exact fun count _ => Nat.le_refl (count + 1)
  · exact fun count _ => Nat.le_refl count
  · exact fun count _ => Nat.le_refl count

theorem countingAnswers_budgeted {ctx : ContinuousBatchSchedulerContext Nat}
    (hclassifier : ctx.classifier = countingClassifier) (thread : SchedulerThread Nat) :
    BudgetedStep ctx (fun _ => 1) thread (.call countingAnswers) := by
  intro c hc
  cases hc
  rw [hclassifier]
  exact ⟨rfl, rfl⟩

/-- A text prompt and an image prompt for three tokens each; the first token of the text prompt is
harvested for the image. -/
def threeTokenPrompts : List (SchedulerInput Nat) :=
  .arrive (.continueFromRawPrompt ⟨none, 3, "prompt"⟩) none ::
      List.replicate 6 (.call countingAnswers) ++
    .arrive (.continueFromConversationHistory
      ⟨true, ⟨[⟨.parts [.imageUrl ⟨"data:"⟩], "user"⟩]⟩, false, none, 3, false, []⟩) none ::
      List.replicate 20 (.call countingAnswers)

theorem tokenBudget_kept_threeTokenPrompts :
    ((SchedulerThread.new countingContext).run countingContext
      threeTokenPrompts).scheduler.ended.map
        (fun e => (e.generatedTokensTx.id, e.history.sampled, e.generatedTokensTx.sent.getLast?)) =
      [(0, [7, 7, 7], some (.done ⟨{ TokenUsage.new with contentTokens := 3 }⟩)),
        (1, [7, 7, 7], some (.done ⟨{ TokenUsage.new with contentTokens := 3 }⟩))] ∧
    ∀ e ∈ ((SchedulerThread.new countingContext).run countingContext threeTokenPrompts).scheduler.ended,
      ReportedWithin (fun _ => 3) e := by
  refine ⟨by decide, (tokenBudget_kept countingClassifier_counts (Reaches.along _ ?_ .start)).2⟩
  decide

/-! ## A budget that a harvest used up -/

/-- A conversation with one image, for one token. -/
def oneTokenImagePrompt : CommandParams :=
  .continueFromConversationHistory
    ⟨true, ⟨[⟨.parts [.imageUrl ⟨"data:"⟩], "user"⟩]⟩, false, none, 1, false, []⟩

/-- An image arrives when the text prompt was decoded and its first token not yet sampled. -/
def imageBeforeFirstToken : List (SchedulerInput Nat) :=
  .arrive oneTokenPrompt none :: List.replicate 6 (.call countingAnswers) ++
    .arrive oneTokenImagePrompt none :: List.replicate 15 (.call countingAnswers)

/-- The text prompt asked for one token and its summary reports two. -/
theorem tokenBudget_exceeded :
    CountsTokens countingContext.classifier ∧
    ((SchedulerThread.new countingContext).run countingContext
      imageBeforeFirstToken).scheduler.ended.map
        (fun e => (e.generatedTokensTx.id, e.generatedTokensTx.sent)) =
      [(1, [.contentToken "a", .done ⟨{ TokenUsage.new with contentTokens := 1 }⟩]),
        (0, [.contentToken "a", .done ⟨{ TokenUsage.new with contentTokens := 2 }⟩])] ∧
    ¬ ∀ thread : SchedulerThread Nat,
      Reaches (SchedulerThread.step countingContext) (BudgetedStep countingContext fun _ => 1)
        (.new countingContext) thread → ∀ e ∈ thread.scheduler.ended,
        ReportedWithin (fun _ => 1) e := by
  have hsent : ((SchedulerThread.new countingContext).run countingContext
      imageBeforeFirstToken).scheduler.ended.map (fun e =>
        (e.generatedTokensTx.id, e.generatedTokensTx.sent)) =
      [(1, [.contentToken "a", .done ⟨{ TokenUsage.new with contentTokens := 1 }⟩]),
        (0, [.contentToken "a", .done ⟨{ TokenUsage.new with contentTokens := 2 }⟩])] := by decide
  refine ⟨countingClassifier_counts, hsent, fun hkept => ?_⟩
  have hrun : Reaches (SchedulerThread.step countingContext)
      (BudgetedStep countingContext fun _ => 1)
      (.new countingContext)
      ((SchedulerThread.new countingContext).run countingContext imageBeforeFirstToken) := by
    refine Reaches.runs _ (fun input hinput thread => ?_) .start
    simp only [imageBeforeFirstToken, List.cons_append, List.mem_cons, List.mem_append,
      List.mem_replicate] at hinput
    rcases hinput with rfl | ⟨-, rfl⟩ | rfl | ⟨-, rfl⟩
    · exact fun m hm => Option.some.inj hm
    · exact countingAnswers_budgeted rfl thread
    · exact fun m hm => Option.some.inj hm
    · exact countingAnswers_budgeted rfl thread
  have hmem := List.mem_cons_of_mem (1, [GeneratedTokenResult.contentToken "a",
    .done ⟨{ TokenUsage.new with contentTokens := 1 }⟩]) (List.mem_singleton_self
      (0, [GeneratedTokenResult.contentToken "a",
        .done ⟨{ TokenUsage.new with contentTokens := 2 }⟩]))
  rw [← hsent] at hmem
  obtain ⟨e, he, hpair⟩ := List.mem_map.mp hmem
  have hreported : WithinBudget 1 { TokenUsage.new with contentTokens := 2 } :=
    hkept _ hrun e he ⟨_⟩
    (by rw [(Prod.mk.inj hpair).2]; exact List.mem_cons_of_mem _ (List.mem_singleton_self _))
  exact absurd hreported (by decide)

end Paddler
