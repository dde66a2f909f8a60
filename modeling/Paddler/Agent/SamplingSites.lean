import Paddler.Agent.AdvanceGenerating

/-!
# The two sampling sites

`advance_one` and `harvest_pending_samples_before_external_decode` sample a request under the same
conditions and then go different ways.

* `advance_cases`, `harvestOne_cases` — everything each site can do to a request.
* `SamplingStep` — what both have in common for the bookkeeping of positions and logits rows:
  a request that has no row to sample is left alone; otherwise one row is read, and the request
  either completes or keeps one new pending token.
-/

set_option autoImplicit false

namespace Paddler

variable {C : Type}

theorem sampleableBatchIndex_eq_some {r : ContinuousBatchActiveRequest C} {i : Int} :
    r.sampleableBatchIndex = some i ↔
      r.state.phase = .generating ∧ r.state.pendingSampledToken = none ∧
      r.state.iBatch = some i := by
  unfold ContinuousBatchActiveRequest.sampleableBatchIndex
  cases r.state.phase <;> cases r.state.pendingSampledToken <;> simp

theorem sampleTokenPhase_sampled {answers : SamplingAnswers} {r : ContinuousBatchActiveRequest C}
    {t : LlamaToken} :
    sampleTokenPhase answers r = .sampled t ↔
      sampleTokenAtBatchIndex answers r.hasGrammarSampler = .ok (.token t) := by
  unfold sampleTokenPhase
  cases sampleTokenAtBatchIndex answers r.hasGrammarSampler with
  | error message => simp
  | ok outcome => cases outcome <;> simp

/-- The request on which `advance_one` continues after it read row `i` and sampled `t`. -/
def ContinuousBatchActiveRequest.sampledAt (r : ContinuousBatchActiveRequest C)
    (llama : LlamaContext) (i : Int) (t : LlamaToken) : ContinuousBatchActiveRequest C :=
  (r.recordRead llama i).recordSampled t

/-- **Everything `AdvanceGeneratingPhase::run` can do to one request.** -/
theorem advance_cases (ctx : ContinuousBatchSchedulerContext C) (llama : LlamaContext)
    (answers : SamplingAnswers) (r : ContinuousBatchActiveRequest C) :
    (r.sampleableBatchIndex = none ∧ advance ctx llama answers r = r) ∨
    (∃ i result, r.sampleableBatchIndex = some i ∧ (∀ t, sampleTokenPhase answers r ≠ .sampled t) ∧
      result.isFailure = true ∧
      advance ctx llama answers r = (r.recordRead llama i).completeWithOutcome result) ∨
    (∃ i t outcome r', r.sampleableBatchIndex = some i ∧ sampleTokenPhase answers r = .sampled t ∧
      advanceSampled ctx t (r.sampledAt llama i t) = (outcome, r') ∧
      advance ctx llama answers r = applyOutcome r' (some outcome)) := by
  unfold advance advanceOne
  cases hi : r.sampleableBatchIndex with
  | none => exact Or.inl ⟨rfl, rfl⟩
  | some i =>
    right
    have hphase : sampleTokenPhase answers (r.recordRead llama i) = sampleTokenPhase answers r :=
      rfl
    simp only [hphase]
    cases hs : sampleTokenPhase answers r with
    | sampled t => exact Or.inr ⟨i, t, _, _, rfl, rfl, rfl, rfl⟩
    | allCandidatesEliminated => exact Or.inl ⟨i, _, rfl, by simp, rfl, rfl⟩
    | grammarRejected message => exact Or.inl ⟨i, _, rfl, by simp, rfl, rfl⟩
    | failed message => exact Or.inl ⟨i, _, rfl, by simp, rfl, rfl⟩

/-- **Everything the harvest can do to one request.** -/
theorem harvestOne_cases (ctx : ContinuousBatchSchedulerContext C) (llama : LlamaContext)
    (answers : SamplingAnswers) (r : ContinuousBatchActiveRequest C) :
    (r.sampleableBatchIndex = none ∧ harvestOne ctx llama answers r = r) ∨
    (∃ i result, r.sampleableBatchIndex = some i ∧ (∀ t, sampleTokenPhase answers r ≠ .sampled t) ∧
      result.isFailure = true ∧
      harvestOne ctx llama answers r = (r.recordRead llama i).completeWithOutcome result) ∨
    (∃ i t err c, r.sampleableBatchIndex = some i ∧ sampleTokenPhase answers r = .sampled t ∧
      ctx.classifier.ingest r.tokenClassifier t = (.error err, c) ∧
      harvestOne ctx llama answers r =
        ({ r.sampledAt llama i t with tokenClassifier := c }).completeWithOutcome
          (.detokenizationFailed err)) ∨
    (∃ i t outcomes c, r.sampleableBatchIndex = some i ∧ sampleTokenPhase answers r = .sampled t ∧
      ctx.classifier.ingest r.tokenClassifier t = (.ok outcomes, c) ∧
      harvestOne ctx llama answers r = { r.sampledAt llama i t with
        tokenClassifier := c
        history := { (r.sampledAt llama i t).history with
          returned := r.history.returned ++ outcomesOfTokens ctx.isEogToken t outcomes }
        state := { r.state with
          pendingSampledToken := some (.content t)
          iBatch := none } }) := by
  unfold harvestOne
  cases hi : r.sampleableBatchIndex with
  | none => exact Or.inl ⟨rfl, rfl⟩
  | some i =>
    right
    have hgrammar : (r.recordRead llama i).hasGrammarSampler = r.hasGrammarSampler := rfl
    simp only [hgrammar]
    cases hs : sampleTokenAtBatchIndex answers r.hasGrammarSampler with
    | error message =>
      exact Or.inl ⟨i, _, rfl, fun t => by rw [Ne, sampleTokenPhase_sampled, hs]; simp, rfl, rfl⟩
    | ok sampling =>
      cases sampling with
      | allCandidatesEliminated =>
        exact Or.inl ⟨i, _, rfl, fun t => by rw [Ne, sampleTokenPhase_sampled, hs]; simp, rfl, rfl⟩
      | grammarRejectedModelOutput message =>
        exact Or.inl ⟨i, _, rfl, fun t => by rw [Ne, sampleTokenPhase_sampled, hs]; simp, rfl, rfl⟩
      | token t =>
        right
        have hclassifier : ((r.recordRead llama i).recordSampled t).tokenClassifier =
          r.tokenClassifier := rfl
        simp only [ingest, hclassifier]
        cases hg : ctx.classifier.ingest r.tokenClassifier t with
        | mk result c =>
          cases result with
          | error err =>
            exact Or.inl ⟨i, t, err, c, rfl, sampleTokenPhase_sampled.mpr hs, hg, rfl⟩
          | ok outcomes =>
            exact Or.inr ⟨i, t, outcomes, c, rfl, sampleTokenPhase_sampled.mpr hs, hg, rfl⟩

/-! ## What both sites have in common -/

/-- `r'` is `r` after a sampling attempt at row `i`: the row was read once, and nothing that
belongs to positions or to the prompt changed. -/
structure SamplingFrame (llama : LlamaContext) (r r' : ContinuousBatchActiveRequest C) (i : Int) :
    Prop where
  id : r'.id = r.id
  sequenceId : r'.sequenceId = r.sequenceId
  promptTokens : r'.state.promptTokens = r.state.promptTokens
  promptTokensIngested : r'.state.promptTokensIngested = r.state.promptTokensIngested
  currentTokenPosition : r'.state.currentTokenPosition = r.state.currentTokenPosition
  startPosition : r'.history.startPosition = r.history.startPosition
  decoded : r'.history.decoded = r.history.decoded
  reads : r'.history.reads =
    r.history.reads ++ [⟨i, llama.lastDecode, r.state.currentTokenPosition⟩]

/-- One sampling site applied to one request, as far as positions and rows are concerned. -/
inductive SamplingStep (llama : LlamaContext) (r : ContinuousBatchActiveRequest C) :
    ContinuousBatchActiveRequest C → Prop where
  | idle : r.sampleableBatchIndex = none → SamplingStep llama r r
  | completed {r' : ContinuousBatchActiveRequest C} {i : Int}
      {outcome : ContinuousBatchTerminalOutcome} (sampled : List LlamaToken) :
      r.sampleableBatchIndex = some i → SamplingFrame llama r r' i →
      r'.state.phase = .completed outcome → r'.state.pendingSampledToken = none →
      sampled.length ≤ 1 → r'.history.sampled = r.history.sampled ++ sampled →
      SamplingStep llama r r'
  | stored {r' : ContinuousBatchActiveRequest C} {i : Int} {t : LlamaToken} :
      r.sampleableBatchIndex = some i → SamplingFrame llama r r' i →
      r'.state.phase = .generating → r'.state.pendingSampledToken = some (.content t) →
      r'.history.sampled = r.history.sampled ++ [t] →
      SamplingStep llama r r'

/-- Sampling changes neither the request's identity nor its sequence. -/
theorem SamplingStep.key {llama : LlamaContext} {r r' : ContinuousBatchActiveRequest C}
    (h : SamplingStep llama r r') : r'.id = r.id ∧ r'.sequenceId = r.sequenceId := by
  cases h with
  | idle _ => exact ⟨rfl, rfl⟩
  | completed _ _ frame => exact ⟨frame.id, frame.sequenceId⟩
  | stored _ frame => exact ⟨frame.id, frame.sequenceId⟩

theorem markCompleted_of_generating {state : ContinuousBatchRequestState}
    (h : state.phase = .generating) (outcome : ContinuousBatchTerminalOutcome) :
    state.markCompleted outcome = { state with iBatch := none, phase := .completed outcome } := by
  simp [ContinuousBatchRequestState.markCompleted, h, ContinuousBatchRequestPhase.isCompleted]

/-- Completing right after the read, without a sampled token. -/
theorem samplingStep_notSampled {llama : LlamaContext}
    {r : ContinuousBatchActiveRequest C} {i : Int} (hi : r.sampleableBatchIndex = some i)
    (result : GeneratedTokenResult) :
    SamplingStep llama r ((r.recordRead llama i).completeWithOutcome result) := by
  obtain ⟨hphase, hpending, -⟩ := sampleableBatchIndex_eq_some.mp hi
  have hstate : ((r.recordRead llama i).completeWithOutcome result).state =
      { r.state with iBatch := none, phase := .completed (.emitToClient result) } :=
    markCompleted_of_generating hphase _
  refine .completed [] hi ⟨rfl, rfl, ?_, ?_, ?_, rfl, rfl, rfl⟩
    (by rw [hstate]) ?_ (by simp) (by simp; rfl)
  all_goals rw [hstate]
  exact hpending

theorem advance_samplingStep (ctx : ContinuousBatchSchedulerContext C) (llama : LlamaContext)
    (answers : SamplingAnswers) (r : ContinuousBatchActiveRequest C) :
    SamplingStep llama r (advance ctx llama answers r) := by
  rcases advance_cases ctx llama answers r with
    ⟨hi, heq⟩ | ⟨i, result, hi, -, -, heq⟩ | ⟨i, t, outcome, r', hi, -, hadv, heq⟩
  · rw [heq]
    exact .idle hi
  · rw [heq]
    exact samplingStep_notSampled hi result
  · rw [heq]
    obtain ⟨hphase, hpending, -⟩ := sampleableBatchIndex_eq_some.mp hi
    have hkept : r'.state = r.state ∧ r'.sequenceId = r.sequenceId ∧ r'.id = r.id ∧
        r'.history.startPosition = r.history.startPosition ∧
        r'.history.decoded = r.history.decoded ∧
        r'.history.reads = r.history.reads ++
        [⟨i, llama.lastDecode, r.state.currentTokenPosition⟩] ∧
        r'.history.sampled = r.history.sampled ++ [t] := by
      rcases advanceSampled_spec hadv with ⟨err, c, -, -, hr⟩ | ⟨outcomes, c, events, -, hing, -⟩
      · rw [hr]
        exact ⟨rfl, rfl, rfl, rfl, rfl, rfl, rfl⟩
      · refine ⟨hing.state, hing.sequenceId, hing.channel.id, ?_, ?_, ?_, ?_⟩ <;>
          rw [hing.history] <;> rfl
    obtain ⟨hs, hseq, hid, hstart, hdec, hreads, hsampled⟩ := hkept
    have hcompleted : ∀ o, (r'.state.markCompleted o) =
        { r.state with iBatch := none, phase := .completed o } := by
      intro o
      rw [hs]
      exact markCompleted_of_generating hphase o
    cases outcome with
    | sampledAndStored token =>
      have htoken : token = .content t := by
        rcases advanceSampled_spec hadv with ⟨err, c, -, ho, -⟩ | ⟨outcomes, c, events, -, -, ho⟩
        · cases ho
        · rcases ho with ⟨-, -, ho⟩ | ⟨-, -, ⟨ho, -⟩ | ⟨ho, -⟩⟩ | ⟨ho, -⟩ <;> cases ho
          rfl
      have hstate : (applyOutcome r' (some (.sampledAndStored token))).state =
          { r.state with pendingSampledToken := some (.content t) } := by
        rw [htoken, ← hs]
        rfl
      refine .stored hi ⟨hid, hseq, ?_, ?_, ?_, hstart, hdec, hreads⟩ ?_ ?_ hsampled
      all_goals rw [hstate]
      exact hphase
    | completed event =>
      have hstate : (applyOutcome r' (some (.completed event))).state =
          { r.state with iBatch := none, phase := .completed (.emitToClient event) } := hcompleted _
      refine .completed [t] hi ⟨hid, hseq, ?_, ?_, ?_, hstart, hdec, hreads⟩
        (by rw [hstate]) ?_ (by simp) hsampled
      all_goals rw [hstate]
      exact hpending
    | channelDropped =>
      have hstate : (applyOutcome r' (some .channelDropped)).state =
          { r.state with iBatch := none, phase := .completed .emitNothing } := hcompleted _
      refine .completed [t] hi ⟨hid, hseq, ?_, ?_, ?_, hstart, hdec, hreads⟩
        (by rw [hstate]) ?_ (by simp) hsampled
      all_goals rw [hstate]
      exact hpending

theorem harvestOne_samplingStep (ctx : ContinuousBatchSchedulerContext C) (llama : LlamaContext)
    (answers : SamplingAnswers) (r : ContinuousBatchActiveRequest C) :
    SamplingStep llama r (harvestOne ctx llama answers r) := by
  rcases harvestOne_cases ctx llama answers r with
    ⟨hi, heq⟩ | ⟨i, result, hi, -, -, heq⟩ | ⟨i, t, err, c, hi, -, -, heq⟩ |
    ⟨i, t, outcomes, c, hi, -, -, heq⟩
  · rw [heq]
    exact .idle hi
  · rw [heq]
    exact samplingStep_notSampled hi result
  · rw [heq]
    obtain ⟨hphase, hpending, -⟩ := sampleableBatchIndex_eq_some.mp hi
    have hstate : (({ r.sampledAt llama i t with tokenClassifier := c }).completeWithOutcome
        (.detokenizationFailed err)).state =
        { r.state with
          iBatch := none
          phase := .completed (.emitToClient (.detokenizationFailed err)) } :=
      markCompleted_of_generating hphase _
    refine .completed [t] hi ⟨rfl, rfl, ?_, ?_, ?_, rfl, rfl, rfl⟩
      (by rw [hstate]) ?_ (by simp) rfl
    all_goals rw [hstate]
    exact hpending
  · rw [heq]
    obtain ⟨hphase, -, -⟩ := sampleableBatchIndex_eq_some.mp hi
    exact .stored hi ⟨rfl, rfl, rfl, rfl, rfl, rfl, rfl, rfl⟩ hphase rfl rfl

end Paddler
