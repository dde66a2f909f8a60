import Paddler.Agent.Positions

/-!
# Progress of an iteration

When does one `execute_one_iteration` decode something, complete a request, or stop because the
decoder aborted?  Exactly when sampling ends a request, or the batch can be built, some request has
tokens for it, and the first decode is not an error of another kind.

* `EndsOnSample` — sampling a request ends it.
* `decodeLoop_returns` — the loop of evictions ends: an eviction always finds a request.
* `ReadyToDecode` — what the advance phase leaves for the loop.
* `iteration_progress_iff` — **the condition, for every reachable state and all answers.**
* `iteration_stuck` — parameters that pass `validate`, a prompt without tokens, and an error of
  the decoder, each of which leaves the requests as they were.
-/

set_option autoImplicit false

namespace Paddler

open VecUpdate Run

variable {C : Type}

/-! ## Sampling that ends a request -/

/-- The request is about to be sampled, and that ends it: no token is sampled, the classifier
fails, the token ends the generation or uses up the token budget, or the receiver is gone. -/
def EndsOnSample (ctx : ContinuousBatchSchedulerContext C) (answers : SamplingAnswers)
    (r : ContinuousBatchActiveRequest C) : Prop :=
  r.sampleableBatchIndex ≠ none ∧ ∀ t, sampleTokenPhase answers r = .sampled t →
    ∀ outcomes c, ctx.classifier.ingest r.tokenClassifier t = (.ok outcomes, c) →
      ctx.isEogToken t = true ∨
      maxTokensOutcome r.state.maxTokens (ctx.classifier.usage c) = .reachedMaxTokens ∨
      (emitOutcomes ctx.toolCallApi (classifyIngestOutcomes outcomes
        (ctx.classifier.currentSection r.tokenClassifier)) r).1 = false

/-- Emission depends only on the channel and the tool-call buffer. -/
theorem emitOutcomes_congr (api : ToolCallApi) :
    ∀ (classified : List ClassifiedToken) {r r' : ContinuousBatchActiveRequest C},
      r'.generatedTokensTx = r.generatedTokensTx → r'.toolCallPipeline = r.toolCallPipeline →
      (emitOutcomes api classified r').1 = (emitOutcomes api classified r).1
  | [], _, _, _, _ => rfl
  | c :: rest, r, r', htx, hpipeline => by
    simp only [emitOutcomes, htx, hpipeline]
    split
    · rfl
    · split
      · rfl
      · exact emitOutcomes_congr api rest rfl rfl

/-- A token is kept for the next batch exactly when it does not end the request. -/
theorem advanceSampled_stored_iff {ctx : ContinuousBatchSchedulerContext C} {t : LlamaToken}
    {r : ContinuousBatchActiveRequest C} {outcomes : List IngestOutcome} {c : C}
    (hing : ctx.classifier.ingest r.tokenClassifier t = (.ok outcomes, c)) :
    (∃ token, (advanceSampled ctx t r).1 = .sampledAndStored token) ↔
      ¬ (ctx.isEogToken t = true ∨
        maxTokensOutcome r.state.maxTokens (ctx.classifier.usage c) = .reachedMaxTokens ∨
        (emitOutcomes ctx.toolCallApi (classifyIngestOutcomes outcomes
          (ctx.classifier.currentSection r.tokenClassifier)) r).1 = false) := by
  unfold advanceSampled ingest
  simp only [hing, completionCheckPhase_content]
  by_cases heog : ctx.isEogToken t = true
  · simp [heog, finishGeneration_ne_stored]
  · have hne := maxTokensOutcome_ne_reachedEog r.state.maxTokens
    rw [or_iff_right heog, not_or]
    simp only [if_neg heog]
    obtain ⟨r₁, hr₁⟩ : ∃ r₁, r₁ = { r with
      tokenClassifier := c
      history := { r.history with
        returned := r.history.returned ++ outcomesOfTokens ctx.isEogToken t outcomes } } := ⟨_, rfl⟩
    have hsame : (emitOutcomes ctx.toolCallApi (classifyIngestOutcomes outcomes
        (ctx.classifier.currentSection r.tokenClassifier)) r).1 = (emitOutcomes ctx.toolCallApi
        (classifyIngestOutcomes outcomes (ctx.classifier.currentSection r.tokenClassifier))
          r₁).1 := by
      exact (emitOutcomes_congr _ _ (by rw [hr₁]) (by rw [hr₁])).symm
    rw [hsame, ← hr₁]
    split
    · rename_i hm
      subst hr₁
      exact absurd hm (hne _)
    · cases hemit : emitOutcomes ctx.toolCallApi (classifyIngestOutcomes outcomes
          (ctx.classifier.currentSection r.tokenClassifier)) r₁ with
      | mk delivered r₂ =>
        cases delivered with
        | false => simp
        | true =>
          obtain ⟨hbut, -⟩ := emitOutcomes_spec _ _ _ _ _ hemit
          have hmax : maxTokensOutcome r₂.state.maxTokens
              (ctx.classifier.usage r₂.tokenClassifier) = maxTokensOutcome r.state.maxTokens
                (ctx.classifier.usage c) := by
            unfold SameButChannel at hbut
            rw [hbut, hr₁]
          simp only [hmax]
          split
          · rename_i hm
            exact absurd hm (hne _)
          · rename_i hm
            simp [hm, finishGeneration_ne_stored]
          · rename_i hm
            simp [hm]

/-- **Sampling ends a request** exactly when `EndsOnSample` says so. -/
theorem advance_isCompleted_iff {ctx : ContinuousBatchSchedulerContext C} (llama : LlamaContext)
    {answers : SamplingAnswers} {r : ContinuousBatchActiveRequest C}
    (hactive : r.state.phase.isCompleted = false) :
    (advance ctx llama answers r).state.phase.isCompleted = true ↔ EndsOnSample ctx answers r := by
  rcases advance_cases ctx llama answers r with
    ⟨hi, heq⟩ | ⟨i, result, hi, hno, -, heq⟩ | ⟨i, t, outcome, r', hi, hs, hadv, heq⟩
  · simp [heq, hactive, EndsOnSample, hi]
  · rw [heq]
    exact iff_of_true (ContinuousBatchActiveRequest.completeWithOutcome_isCompleted _ _)
      ⟨by rw [hi]; simp, fun t ht => absurd ht (hno t)⟩
  · rw [heq]
    have hstate : r'.state.phase = r.state.phase := by
      rw [advanceSampled_state hadv]
      rfl
    have hcompleted : (applyOutcome r' (some outcome)).state.phase.isCompleted = true ↔
        ¬ ∃ token, outcome = .sampledAndStored token := by
      cases outcome with
      | sampledAndStored token => simp [applyOutcome, ContinuousBatchRequestState.storePendingToken,
          hstate, hactive]
      | completed event => simp [applyOutcome]
      | channelDropped =>
        have hmark : (r'.state.markCompleted .emitNothing).phase = .completed .emitNothing := by
          simp [ContinuousBatchRequestState.markCompleted, hstate, hactive]
        simp [applyOutcome, hmark, ContinuousBatchRequestPhase.isCompleted]
    rw [hcompleted]
    unfold EndsOnSample
    rw [hi, hs]
    cases hing : ctx.classifier.ingest r.tokenClassifier t with
    | mk result c =>
      cases result with
      | error err =>
        rcases advanceSampled_spec hadv with ⟨_, _, _, ho, -⟩ | ⟨_, _, _, hing', -⟩
        · subst ho
          simp [hing]
        · rw [show (r.sampledAt llama i t).tokenClassifier = r.tokenClassifier from rfl,
            hing] at hing'
          cases hing'
      | ok outcomes =>
        have hing' : ctx.classifier.ingest (r.sampledAt llama i t).tokenClassifier t =
          (.ok outcomes, c) := hing
        have hiff := advanceSampled_stored_iff hing'
        rw [hadv] at hiff
        have hemit : (emitOutcomes ctx.toolCallApi (classifyIngestOutcomes outcomes
            (ctx.classifier.currentSection r.tokenClassifier)) (r.sampledAt llama i t)).1 =
            (emitOutcomes ctx.toolCallApi (classifyIngestOutcomes outcomes
              (ctx.classifier.currentSection r.tokenClassifier)) r).1 :=
          emitOutcomes_congr _ _ (by rfl) (by rfl)
        rw [show (r.sampledAt llama i t).tokenClassifier = r.tokenClassifier from rfl, hemit,
          show (r.sampledAt llama i t).state = r.state from rfl] at hiff
        rw [hiff, not_not]
        constructor
        · rintro hends
          refine ⟨by simp, ?_⟩
          rintro t' ht' outcomes' c' hing'
          cases ht'
          rw [hing] at hing'
          cases hing'
          exact hends
        · rintro ⟨-, hends⟩
          exact hends t rfl outcomes c hing

/-! ## Evictions -/

/-- Every request with this identity is completed or gone. -/
def DoneFor (id : Nat) (s : ContinuousBatchScheduler C) : Prop :=
  ∀ r ∈ s.activeRequests, r.id = id → r.state.phase.isCompleted = true

/-- The positions of the active requests are not negative. -/
def PositionsNonneg (s : ContinuousBatchScheduler C) : Prop :=
  ∀ r ∈ s.activeRequests, 0 ≤ r.state.currentTokenPosition

/-- The requests after an eviction: unchanged, or completed by it. -/
theorem evict_mem {s : ContinuousBatchScheduler C} {r' : ContinuousBatchActiveRequest C}
    (h : r' ∈ s.evictLargestSequence.activeRequests) :
    ∃ r ∈ s.activeRequests, r' = r ∨ ∃ result, r' = r.completeWithOutcome result := by
  rcases evictLargestSequence_cases s with ⟨-, heq⟩ | ⟨index, r, result, rest, -, -, -, hswap, heq⟩
  · rw [heq] at h
    exact ⟨r', h, Or.inl rfl⟩
  · rw [heq] at h
    have hmem : r' ∈ s.activeRequests.modify index (·.completeWithOutcome result) :=
      (swapRemove_perm hswap).mem_iff.mpr (List.mem_cons_of_mem _ h)
    obtain ⟨i, hi, rfl⟩ := List.getElem_of_mem hmem
    rw [List.getElem_modify]
    split
    · exact ⟨_, List.getElem_mem _, Or.inr ⟨result, rfl⟩⟩
    · exact ⟨_, List.getElem_mem _, Or.inl rfl⟩

theorem evict_keys (s : ContinuousBatchScheduler C) :
    ∃ gone, (s.activeRequests.map (·.key)).Perm
      (gone ++ s.evictLargestSequence.activeRequests.map (·.key)) := by
  rcases evictLargestSequence_cases s with ⟨-, heq⟩ | ⟨index, r, result, rest, -, -, -, hswap, heq⟩
  · rw [heq]
    exact ⟨[], List.Perm.refl _⟩
  · rw [heq, ← modify_keys s.activeRequests index result]
    exact ⟨[(r.completeWithOutcome result).key], (swapRemove_perm hswap).map _⟩

theorem evict_sequenceIds {s : ContinuousBatchScheduler C}
    (h : (s.activeRequests.map (·.sequenceId)).Nodup) :
    (s.evictLargestSequence.activeRequests.map (·.sequenceId)).Nodup := by
  obtain ⟨gone, hperm⟩ := evict_keys s
  rw [map_sequenceId_eq] at h ⊢
  have hnodup := (hperm.map Prod.snd).nodup_iff.mp h
  rw [List.map_append] at hnodup
  exact (List.nodup_append.mp hnodup).2.1

theorem evict_nonneg {s : ContinuousBatchScheduler C} (h : PositionsNonneg s) :
    PositionsNonneg s.evictLargestSequence := by
  intro r' hr'
  obtain ⟨r, hr, rfl | ⟨result, rfl⟩⟩ := evict_mem hr'
  · exact h _ hr
  · unfold ContinuousBatchActiveRequest.completeWithOutcome
      ContinuousBatchRequestState.markCompleted
    split <;> exact h r hr

theorem evict_doneFor {id : Nat} {s : ContinuousBatchScheduler C} (h : DoneFor id s) :
    DoneFor id s.evictLargestSequence := by
  intro r' hr' hid
  obtain ⟨r, hr, rfl | ⟨result, rfl⟩⟩ := evict_mem hr'
  · exact h _ hr hid
  · exact ContinuousBatchActiveRequest.completeWithOutcome_isCompleted r result

theorem decodedWith_doneFor {id nBatch : Nat} {s : ContinuousBatchScheduler C} (h : DoneFor id s)
    (hn : nBatch ≤ i32Max) (hnodup : (s.activeRequests.map (·.sequenceId)).Nodup) :
    DoneFor id (s.decodedWith nBatch) := by
  intro r' hr' hid
  have hforall := decodedWith_activeRequests hn hnodup
  obtain ⟨i, hi, rfl⟩ := List.getElem_of_mem hr'
  have hlen : i < s.activeRequests.length := by rwa [hforall.length_eq]
  have hstep := hforall.get hlen hi
  simp only [List.get_eq_getElem] at hstep
  have hdone := h _ (List.getElem_mem hlen)
  generalize (s.decodedWith nBatch).activeRequests[i] = r' at hstep hid
  cases hstep with
  | skipped => exact hdone hid
  | generated hphase => rw [hphase] at hdone; cases hdone hid
  | ingested hphase => rw [hphase] at hdone; cases hdone hid

/-- What the loop of evictions leaves of a request that is done. -/
theorem decodeLoop_doneFor {ctx : ContinuousBatchSchedulerContext C} {id : Nat}
    (decode : Nat → Except DecodeError Unit) (fuel pass : Nat) {s : ContinuousBatchScheduler C}
    (h : DoneFor id s) (hnodup : (s.activeRequests.map (·.sequenceId)).Nodup)
    (hno : NoSampleable s) : DoneFor id (decodeLoop ctx decode fuel pass s).2 := by
  refine (@decodeLoop_induct C ctx
    (fun s => DoneFor id s ∧ (s.activeRequests.map (·.sequenceId)).Nodup) (fun s hs => ?_)
    (fun s hs _ hn => ?_) (fun s error hs => ?_) decode fuel pass s ⟨h, hnodup⟩ hno).1
  · exact ⟨evict_doneFor hs.1, evict_sequenceIds hs.2⟩
  · refine ⟨decodedWith_doneFor hs.1 hn hs.2, ?_⟩
    rw [map_sequenceId_eq, decoded_keys (decodedWith_activeRequests hn hs.2), ← map_sequenceId_eq]
    exact hs.2
  · exact hs

/-- The scan finds a request unless none is left in front of it. -/
theorem largestSequence_none :
    ∀ {rs : List (ContinuousBatchActiveRequest C)} {k : Nat} {best : Option Nat} {position : Int},
      ContinuousBatchScheduler.largestSequence rs k best position = none →
      best = none ∧ ∀ r ∈ rs, r.state.phase.isCompleted = true ∨
        r.state.currentTokenPosition ≤ position
  | [], _, _, _, h => ⟨h, fun r hr => absurd hr List.not_mem_nil⟩
  | r :: rs, k, best, position, h => by
    unfold ContinuousBatchScheduler.largestSequence at h
    split at h
    · rename_i hc
      obtain ⟨hbest, hrest⟩ := largestSequence_none h
      exact ⟨hbest, List.forall_mem_cons.mpr ⟨Or.inl hc, hrest⟩⟩
    · split at h
      · cases (largestSequence_none h).1
      · rename_i hle
        obtain ⟨hbest, hrest⟩ := largestSequence_none h
        exact ⟨hbest, List.forall_mem_cons.mpr ⟨Or.inr (Int.not_lt.mp hle), hrest⟩⟩

/-- **An eviction evicts**, as long as one request is not completed. -/
theorem evict_completes {s : ContinuousBatchScheduler C} (hpositions : PositionsNonneg s)
    {r : ContinuousBatchActiveRequest C} (hr : r ∈ s.activeRequests)
    (hactive : r.state.phase.isCompleted = false) :
    s.activeRequests.length = s.evictLargestSequence.activeRequests.length + 1 ∧
      ((s.activeRequests.map (·.id)).Nodup → ∃ r₀ ∈ s.activeRequests,
        r₀.state.phase.isCompleted = false ∧ DoneFor r₀.id s.evictLargestSequence) := by
  rcases evictLargestSequence_cases s with
    ⟨hnone, -⟩ | ⟨index, r₀, result, rest, hget, hc, -, hswap, heq⟩
  · rcases (largestSequence_none hnone).2 r hr with hc | hle
    · rw [hc] at hactive
      cases hactive
    · have := hpositions r hr
      omega
  · have hlength := swapRemove_length hswap
    rw [List.length_modify] at hlength
    refine ⟨by rw [heq]; exact hlength, fun hnodup => ⟨r₀, List.mem_of_getElem? hget, hc, ?_⟩⟩
    intro r' hr' hid
    rw [heq] at hr'
    -- the identity of the evicted request is nobody else's
    have hperm := ((swapRemove_perm hswap).map (·.key)).map Prod.fst
    rw [modify_keys, ← map_id_eq] at hperm
    have hfresh := (List.nodup_cons.mp (hperm.nodup_iff.mp hnodup)).1
    refine absurd ?_ hfresh
    exact List.mem_map.mpr ⟨r'.key, List.mem_map_of_mem hr', hid⟩

/-! ## The iteration -/

theorem hasTokens_active {r : ContinuousBatchActiveRequest C} (h : r.hasTokens = true) :
    r.state.phase.isCompleted = false := by
  unfold ContinuousBatchActiveRequest.hasTokens at h
  cases hp : r.state.phase with
  | ingesting => rfl
  | generating => rfl
  | completed outcome => rw [hp] at h; cases h

/-- A batch that is not empty has tokens of some request. -/
theorem exists_hasTokens {nBatch : Nat} {rs : List (ContinuousBatchActiveRequest C)}
    (h : ¬ (assembled nBatch rs).isEmpty = true) : ∃ r ∈ rs, r.hasTokens = true := by
  rw [assemble_isEmpty_iff, not_or] at h
  obtain ⟨r, hr⟩ := not_forall.mp h.2
  obtain ⟨hmem, htokens⟩ := Classical.not_imp.mp hr
  exact ⟨r, hmem, by simpa using htokens⟩

/-- **The loop of evictions ends** before its fuel does: every turn but the last removes a
request. -/
theorem decodeLoop_returns {ctx : ContinuousBatchSchedulerContext C}
    (decode : Nat → Except DecodeError Unit) :
    ∀ (fuel pass : Nat) {s : ContinuousBatchScheduler C}, s.activeRequests.length < fuel →
      PositionsNonneg s → (decodeLoop ctx decode fuel pass s).1 ≠ .outOfFuel
  | 0, _, _, hlt, _ => absurd hlt (Nat.not_lt_zero _)
  | fuel + 1, pass, s, hlt, hpositions => by
    have hpass : DecodePass ctx _ s _ _ := decodeLoop_pass decode fuel pass s
    generalize decodeLoop ctx decode (fuel + 1) pass s = result at hpass ⊢
    cases hpass with
    | notBuilt | emptyBatch | evictedAll | aborted | errored => simp
    | decoded =>
      dsimp only [ContinuousBatchScheduler.decodedExit]
      split <;> simp
    | retries hassembles =>
      obtain ⟨r, hr, htokens⟩ := exists_hasTokens hassembles.nonempty
      have hlength := (evict_completes hpositions hr (hasTokens_active htokens)).1
      exact decodeLoop_returns decode fuel (pass + 1) (by omega) (evict_nonneg hpositions)

/-- What an iteration that started from `s` achieved: it decoded tokens, it stopped because the
decoder aborted, or some request is completed now. -/
def Progress (s : ContinuousBatchScheduler C)
    (iteration : IterationExit × ContinuousBatchScheduler C) : Prop :=
  (∃ tokens, iteration.1 = .decoded tokens ∧ tokens ≠ []) ∨ iteration.1 = .aborted ∨
    ∃ r ∈ s.activeRequests, r.state.phase.isCompleted = false ∧ DoneFor r.id iteration.2

/-- The requests and which of them are completed. -/
def ContinuousBatchScheduler.completions (s : ContinuousBatchScheduler C) : List (Nat × Bool) :=
  s.activeRequests.map fun r => (r.id, r.state.phase.isCompleted)

theorem not_progress {s : ContinuousBatchScheduler C}
    {iteration : IterationExit × ContinuousBatchScheduler C}
    (hexit : iteration.1 = .emptyBatch ∨ ∃ message, iteration.1 = .failed message)
    (hsame : iteration.2.completions = s.completions) : ¬ Progress s iteration := by
  rintro (⟨tokens, h, -⟩ | h | ⟨r, hr, hactive, hdone⟩)
  · rcases hexit with he | ⟨message, he⟩ <;> rw [he] at h <;> cases h
  · rcases hexit with he | ⟨message, he⟩ <;> rw [he] at h <;> cases h
  · have hmem : (r.id, false) ∈ iteration.2.completions := by
      rw [hsame, ← hactive]
      exact List.mem_map.mpr ⟨r, hr, rfl⟩
    obtain ⟨r', hr', heq⟩ := List.mem_map.mp hmem
    obtain ⟨hid, hfalse⟩ := Prod.mk.inj heq
    rw [hdone r' hr' hid] at hfalse
    cases hfalse

theorem decodeLoop_stuck {ctx : ContinuousBatchSchedulerContext C}
    {decode : Nat → Except DecodeError Unit} (fuel : Nat) {pass : Nat}
    {s : ContinuousBatchScheduler C}
    (h : 0 < ctx.inferenceParameters.nBatch → ctx.inferenceParameters.nBatch ≤ i32Max →
      (∃ r ∈ s.activeRequests, r.hasTokens = true) →
      ∃ message processed, decode pass = .error (.other message processed)) :
    (decodeLoop ctx decode (fuel + 1) pass s).2.completions = s.completions ∧
      ((decodeLoop ctx decode (fuel + 1) pass s).1 = .emptyBatch ∨
        ∃ message, (decodeLoop ctx decode (fuel + 1) pass s).1 = .failed message) := by
  have hpass : DecodePass ctx _ s _ _ := decodeLoop_pass decode fuel pass s
  generalize decodeLoop ctx decode (fuel + 1) pass s = result at hpass ⊢
  -- the outcomes that need an answer of another kind are excluded
  have hother : s.Assembles ctx.inferenceParameters.nBatch →
      ∃ message processed, decode pass = .error (.other message processed) := by
    intro hassembles
    have hpos : 0 < ctx.inferenceParameters.nBatch := by
      refine Nat.pos_of_ne_zero fun hzero => hassembles.nonempty ?_
      exact assemble_isEmpty_iff.mpr (Or.inl hzero)
    exact h hpos hassembles.fits (exists_hasTokens hassembles.nonempty)
  cases hpass with
  | notBuilt | errored => exact ⟨rfl, Or.inr ⟨_, rfl⟩⟩
  | emptyBatch => exact ⟨rfl, Or.inl rfl⟩
  | decoded hassembles hanswer | evictedAll hassembles hanswer | retries hassembles hanswer =>
    obtain ⟨message, processed, hmessage⟩ := hother hassembles
    rw [hanswer] at hmessage
    cases hmessage
  | aborted error hassembles hanswer haborted =>
    obtain ⟨message, processed, hmessage⟩ := hother hassembles
    rw [hmessage] at haborted
    cases haborted

theorem decodeLoop_progress {ctx : ContinuousBatchSchedulerContext C}
    {decode : Nat → Except DecodeError Unit} (fuel : Nat) {pass : Nat}
    {s : ContinuousBatchScheduler C} (hpos : 0 < ctx.inferenceParameters.nBatch)
    (hn : ctx.inferenceParameters.nBatch ≤ i32Max) (hlength : s.activeRequests.length ≤ i32Max)
    (hpositions : PositionsNonneg s) (hids : (s.activeRequests.map (·.id)).Nodup)
    (hsequences : (s.activeRequests.map (·.sequenceId)).Nodup) (hno : NoSampleable s)
    {r : ContinuousBatchActiveRequest C} (hr : r ∈ s.activeRequests) (htokens : r.hasTokens = true)
    (hdecode : ∀ message processed, decode pass ≠ .error (.other message processed)) :
    Progress s (decodeLoop ctx decode (fuel + 1) pass s) := by
  have hempty : ¬ (assembled ctx.inferenceParameters.nBatch s.activeRequests).isEmpty = true := by
    rw [assemble_isEmpty_iff]
    rintro (hzero | hnone)
    · omega
    · rw [hnone r hr] at htokens
      cases htokens
  have hpass : DecodePass ctx _ s _ _ := decodeLoop_pass decode fuel pass s
  generalize decodeLoop ctx decode (fuel + 1) pass s = result at hpass ⊢
  obtain ⟨r₀, hr₀, hactive, hdone⟩ :=
    (evict_completes hpositions hr (hasTokens_active htokens)).2 hids
  cases hpass with
  | notBuilt message hlarge =>
    simp only [i32Max] at *
    omega
  | emptyBatch hnone => exact absurd hnone hempty
  | decoded =>
    obtain ⟨rs', hcommit, -⟩ := decodeStep_commit hn hsequences
    refine Or.inl ⟨_, ?_, assembled_tokens_ne_nil (by simpa using hempty)⟩
    simp [ContinuousBatchScheduler.decodedExit, hcommit]
  | evictedAll => exact Or.inr (Or.inr ⟨r₀, hr₀, hactive, hdone⟩)
  | retries =>
    exact Or.inr (Or.inr ⟨r₀, hr₀, hactive,
      decodeLoop_doneFor decode fuel (pass + 1) hdone (evict_sequenceIds hsequences) hno.evict⟩)
  | aborted => exact Or.inr (Or.inl rfl)
  | errored message processed _ hanswer => exact absurd hanswer (hdecode message processed)

/-- Sampling ends a request; or the batch can be built, some request generates or has prompt left,
and the first decode does not fail with an error that is neither a full cache nor an abort. -/
def CanProgress (ctx : ContinuousBatchSchedulerContext C) (answers : StepAnswers C)
    (s : ContinuousBatchScheduler C) : Prop :=
  (∃ r ∈ s.activeRequests, EndsOnSample ctx (answers.sampling r.id) r) ∨
  (0 < ctx.inferenceParameters.nBatch ∧ ctx.inferenceParameters.nBatch ≤ i32Max ∧
    (∃ r ∈ s.activeRequests, r.state.phase = .generating ∨
      (r.state.phase = .ingesting ∧ r.state.remainingPromptTokens ≠ [])) ∧
    ∀ message processed, answers.decode 0 ≠ .error (.other message processed))

theorem advance_of_completed {ctx : ContinuousBatchSchedulerContext C} {llama : LlamaContext}
    {answers : SamplingAnswers} {r : ContinuousBatchActiveRequest C}
    (h : r.state.phase.isCompleted = true) : advance ctx llama answers r = r := by
  unfold advance advanceOne
  rw [RequestRule.sampleable_of_completed h]
  rfl

/-- When sampling ends no request, the advance phase leaves their completions alone. -/
theorem advance_completions {ctx : ContinuousBatchSchedulerContext C} {answers : StepAnswers C}
    {s : ContinuousBatchScheduler C}
    (h : ∀ r ∈ s.activeRequests, ¬ EndsOnSample ctx (answers.sampling r.id) r) :
    (advanceGeneratingRequests ctx answers.sampling s).completions = s.completions := by
  unfold ContinuousBatchScheduler.completions advanceGeneratingRequests
  rw [List.map_map]
  refine List.map_congr_left fun r hr => Prod.ext_iff.mpr ⟨?_, ?_⟩
  · exact (advance_samplingStep ctx s.llamaContext (answers.sampling r.id) r).key.1
  · show (advance ctx s.llamaContext (answers.sampling r.id) r).state.phase.isCompleted = _
    cases hc : r.state.phase.isCompleted with
    | true => rw [advance_of_completed hc, hc]
    | false =>
      rw [← Bool.not_eq_true, advance_isCompleted_iff _ hc]
      exact h r hr

/-- After the advance phase a request has tokens for the batch if it generates or has prompt left,
unless sampling ended it. -/
theorem advance_hasTokens {ctx : ContinuousBatchSchedulerContext C} {llama : LlamaContext}
    {answers : SamplingAnswers} {r : ContinuousBatchActiveRequest C} (hpositions : PositionsInv r)
    (h : r.state.phase = .generating ∨
      (r.state.phase = .ingesting ∧ r.state.remainingPromptTokens ≠ []))
    (hends : ¬ EndsOnSample ctx answers r) : (advance ctx llama answers r).hasTokens = true := by
  have hactive : r.state.phase.isCompleted = false := by
    rcases h with h | ⟨h, -⟩ <;> rw [h] <;> rfl
  have hafter := (advance_isCompleted_iff llama hactive).not.mpr hends
  have hstep := advance_samplingStep ctx llama answers r
  generalize advance ctx llama answers r = r' at hstep hafter
  unfold ContinuousBatchActiveRequest.hasTokens
  cases hstep with
  | idle hi =>
    rcases h with h | ⟨h, hleft⟩
    · rw [h]
      cases hpending : r.state.pendingSampledToken with
      | some t => rfl
      | none =>
        cases hrow : r.state.iBatch with
        | none => exact absurd hrow (hpositions.waiting h hpending)
        | some i =>
          rw [sampleableBatchIndex_eq_some.mpr ⟨h, hpending, hrow⟩] at hi
          cases hi
    · rw [h]
      simpa using hleft
  | completed _ _ _ hphase =>
    rw [hphase] at hafter
    exact absurd rfl hafter
  | stored _ _ hphase hpending =>
    rw [hphase, hpending]
    rfl

theorem advance_remaining {ctx : ContinuousBatchSchedulerContext C} {llama : LlamaContext}
    {answers : SamplingAnswers} {r : ContinuousBatchActiveRequest C}
    (h : (advance ctx llama answers r).hasTokens = true) :
    r.state.phase = .generating ∨
      (r.state.phase = .ingesting ∧ r.state.remainingPromptTokens ≠ []) := by
  have hstep := advance_samplingStep ctx llama answers r
  generalize advance ctx llama answers r = r' at hstep h
  cases hstep with
  | idle _ =>
    unfold ContinuousBatchActiveRequest.hasTokens at h
    cases hp : r.state.phase with
    | generating => exact Or.inl rfl
    | ingesting =>
      rw [hp] at h
      exact Or.inr ⟨rfl, by simpa using h⟩
    | completed outcome =>
      rw [hp] at h
      cases h
  | completed _ hi => exact Or.inl (sampleableBatchIndex_eq_some.mp hi).1
  | stored hi => exact Or.inl (sampleableBatchIndex_eq_some.mp hi).1

/-- What the loop of evictions starts from. -/
structure ReadyToDecode (s : ContinuousBatchScheduler C) : Prop where
  sequenceIds : (s.activeRequests.map (·.sequenceId)).Nodup
  ids : (s.activeRequests.map (·.id)).Nodup
  length_le : s.activeRequests.length ≤ i32Max
  noSampleable : NoSampleable s
  positions : PositionsNonneg s

theorem advance_length (ctx : ContinuousBatchSchedulerContext C) (answers : StepAnswers C)
    (s : ContinuousBatchScheduler C) :
    (advanceGeneratingRequests ctx answers.sampling s).activeRequests.length =
      s.activeRequests.length := by
  have hkeys := congrArg List.length (advance_keys ctx answers.sampling s)
  rwa [List.length_map, List.length_map] at hkeys

/-- The advance phase leaves that, in every reachable state. -/
theorem readyToDecode_reaches {ctx : ContinuousBatchSchedulerContext C} {thread : SchedulerThread C}
    (h : Reaches (SchedulerThread.step ctx) (fun _ _ => True) (.new ctx) thread)
    (answers : StepAnswers C) :
    ReadyToDecode (advanceGeneratingRequests ctx answers.sampling thread.scheduler) := by
  have hseq := sequenceIdsInv_reaches h
  have hkeys := advance_keys ctx answers.sampling thread.scheduler
  constructor
  · rw [map_sequenceId_eq, hkeys, ← map_sequenceId_eq]
    exact hseq.nodup
  · rw [map_id_eq, hkeys, ← map_id_eq]
    exact (List.nodup_append.mp (requestIds_reaches h).1).1
  · rw [advance_length]
    exact hseq.length_le
  · exact noSampleable_advance ctx _ _
  · intro r' hr'
    obtain ⟨r, hr, rfl⟩ := List.mem_map.mp hr'
    have hinv := (positionsInv_reaches h r hr).sampled
      (advance_samplingStep ctx thread.scheduler.llamaContext (answers.sampling r.id) r)
    have := hinv.start_nonneg
    rw [hinv.current]
    omega

section Iteration

variable {ctx : ContinuousBatchSchedulerContext C} {answers : StepAnswers C}
  {s : ContinuousBatchScheduler C} {r : ContinuousBatchActiveRequest C}

theorem advance_mem (hr : r ∈ s.activeRequests) :
    advance ctx s.llamaContext (answers.sampling r.id) r ∈
      (advanceGeneratingRequests ctx answers.sampling s).activeRequests :=
  List.mem_map.mpr ⟨r, hr, rfl⟩

/-- A request that sampling ends is completed afterwards. -/
theorem progress_of_endsOnSample
    (hready : ReadyToDecode (advanceGeneratingRequests ctx answers.sampling s))
    (hr : r ∈ s.activeRequests) (hends : EndsOnSample ctx (answers.sampling r.id) r) (fuel : Nat) :
    Progress s (decodeLoop ctx answers.decode fuel 0
      (advanceGeneratingRequests ctx answers.sampling s)) := by
  have hactive : r.state.phase.isCompleted = false := by
    cases hc : r.state.phase.isCompleted with
    | false => rfl
    | true => exact absurd (RequestRule.sampleable_of_completed hc) hends.1
  refine Or.inr (Or.inr ⟨r, hr, hactive, ?_⟩)
  refine decodeLoop_doneFor _ _ _ ?_ hready.sequenceIds hready.noSampleable
  -- the advanced request is the only one with its identity
  intro r' hr' hid
  have hkey := (advance_samplingStep ctx s.llamaContext (answers.sampling r.id) r).key.1
  rw [List.inj_on_of_nodup_map hready.ids hr' (advance_mem hr) (hid.trans hkey.symm)]
  exact (advance_isCompleted_iff _ hactive).mpr hends

/-- A request with tokens for a batch that can be built and decoded makes the loop progress. -/
theorem progress_of_hasTokens
    (hready : ReadyToDecode (advanceGeneratingRequests ctx answers.sampling s))
    (hpos : 0 < ctx.inferenceParameters.nBatch) (hn : ctx.inferenceParameters.nBatch ≤ i32Max)
    (hr : r ∈ s.activeRequests)
    (htokens : (advance ctx s.llamaContext (answers.sampling r.id) r).hasTokens = true)
    (hdecode : ∀ message processed, answers.decode 0 ≠ .error (.other message processed))
    (fuel : Nat) :
    Progress s (decodeLoop ctx answers.decode (fuel + 1) 0
      (advanceGeneratingRequests ctx answers.sampling s)) := by
  rcases decodeLoop_progress fuel hpos hn hready.length_le hready.positions hready.ids
    hready.sequenceIds hready.noSampleable (advance_mem hr) htokens hdecode
    with hdecoded | haborted | ⟨r', hr', hactive, hdone⟩
  · exact Or.inl hdecoded
  · exact Or.inr (Or.inl haborted)
  · -- a request that was not completed after the advance phase was not before
    obtain ⟨r₀, hr₀, rfl⟩ := List.mem_map.mp hr'
    have hkey := (advance_samplingStep ctx s.llamaContext (answers.sampling r₀.id) r₀).key.1
    refine Or.inr (Or.inr ⟨r₀, hr₀, ?_, hkey ▸ hdone⟩)
    cases hc : r₀.state.phase.isCompleted with
    | false => rfl
    | true =>
      rw [advance_of_completed hc, hc] at hactive
      cases hactive

/-- Otherwise the loop ends at once and the requests are as they were. -/
theorem not_progress_of_not_canProgress (hcan : ¬ CanProgress ctx answers s) (fuel : Nat) :
    ¬ Progress s (decodeLoop ctx answers.decode (fuel + 1) 0
      (advanceGeneratingRequests ctx answers.sampling s)) := by
  obtain ⟨hends, hbatch⟩ := not_or.mp hcan
  have hother : 0 < ctx.inferenceParameters.nBatch → ctx.inferenceParameters.nBatch ≤ i32Max →
      (∃ r ∈ (advanceGeneratingRequests ctx answers.sampling s).activeRequests,
        r.hasTokens = true) →
      ∃ message processed, answers.decode 0 = .error (.other message processed) := by
    rintro hpos hn ⟨r', hr', htokens⟩
    by_contra hdecode
    obtain ⟨r, hr, rfl⟩ := List.mem_map.mp hr'
    exact hbatch ⟨hpos, hn, ⟨r, hr, advance_remaining htokens⟩,
      fun message processed hanswer => hdecode ⟨message, processed, hanswer⟩⟩
  obtain ⟨hsame, hexit⟩ := decodeLoop_stuck fuel hother
  refine not_progress hexit ?_
  rw [hsame]
  exact advance_completions fun r hr he => hends ⟨r, hr, he⟩

end Iteration

/-- **Progress of one iteration**, for every reachable state and all answers: the iteration returns,
and it decodes tokens, completes a request or reports an abort if and only if `CanProgress`. -/
theorem iteration_progress_iff {ctx : ContinuousBatchSchedulerContext C}
    {thread : SchedulerThread C}
    (h : Reaches (SchedulerThread.step ctx) (fun _ _ => True) (.new ctx) thread)
    (answers : StepAnswers C) :
    (executeOneIteration ctx answers.sampling answers.decode thread.scheduler).1 ≠ .outOfFuel ∧
    (Progress thread.scheduler
        (executeOneIteration ctx answers.sampling answers.decode thread.scheduler) ↔
      CanProgress ctx answers thread.scheduler) := by
  have hready := readyToDecode_reaches h answers
  have hlength := advance_length ctx answers thread.scheduler
  unfold executeOneIteration
  refine ⟨decodeLoop_returns _ _ _ (by omega) hready.positions, fun hprogress => ?_, fun hcan => ?_⟩
  · by_contra hcan
    exact not_progress_of_not_canProgress hcan _ hprogress
  · by_cases hends : ∃ r ∈ thread.scheduler.activeRequests,
      EndsOnSample ctx (answers.sampling r.id) r
    · obtain ⟨r, hr, he⟩ := hends
      exact progress_of_endsOnSample hready hr he _
    · obtain ⟨hpos, hn, ⟨r, hr, hleft⟩, hdecode⟩ := hcan.resolve_left hends
      have htokens : (advance ctx thread.scheduler.llamaContext
          (answers.sampling r.id) r).hasTokens = true :=
        advance_hasTokens (positionsInv_reaches h r hr) hleft fun he => hends ⟨r, hr, he⟩
      exact progress_of_hasTokens hready hpos hn hr htokens hdecode _

theorem iteration_progress_iff_oneTextPrompt :
    CanProgress smallContext smallAnswers oneTextPrompt.scheduler ∧
    Progress oneTextPrompt.scheduler (executeOneIteration smallContext smallAnswers.sampling
      smallAnswers.decode oneTextPrompt.scheduler) := by
  have hcan : CanProgress smallContext smallAnswers oneTextPrompt.scheduler :=
    Or.inr ⟨by decide, by decide, by decide, fun _ _ h => nomatch h⟩
  have hreach : Reaches (SchedulerThread.step smallContext) (fun _ _ => True) (.new smallContext)
      oneTextPrompt := Reaches.runs _ (fun _ _ _ => trivial) .start
  exact ⟨hcan, (iteration_progress_iff hreach smallAnswers).2.mpr hcan⟩

/-- The small agent with batches of no token. -/
def zeroBatchContext : ContinuousBatchSchedulerContext Unit :=
  { smallContext with inferenceParameters := ⟨0, 1, true, 512, .mean⟩ }

/-- The small agent with batches larger than llama.cpp can count. -/
def hugeBatchContext : ContinuousBatchSchedulerContext Unit :=
  { smallContext with inferenceParameters := ⟨i32Max + 1, 1, true, 512, .mean⟩ }

/-- The small agent when llama.cpp fails to compute. -/
def failedDecodeAnswers : StepAnswers Unit :=
  { smallAnswers with decode := fun _ => .error (.other "compute failed" 0) }

/-- The state before the first iteration of a text prompt. -/
def beforeIteration (ctx : ContinuousBatchSchedulerContext Unit) : SchedulerThread Unit :=
  (SchedulerThread.new ctx).run ctx (.arrive textPrompt none :: calls 5 smallAnswers)

/-- Four iterations without progress, each with parameters that pass `validate` and a request that
is not completed: a batch of no token, a batch larger than an `i32`, a decoder that fails, and a
prompt without tokens; in the last one a whole turn of the run loop changes nothing at all. -/
theorem iteration_stuck :
    (∀ ctx ∈ [zeroBatchContext, hugeBatchContext, smallContext],
      ctx.inferenceParameters.validate = .ok ctx.inferenceParameters) ∧
    (∀ ctx ∈ [zeroBatchContext, hugeBatchContext, smallContext],
      (beforeIteration ctx).scheduler.hasActiveRequests = true) ∧
    (∀ ctx ∈ [zeroBatchContext, hugeBatchContext], ¬ Progress (beforeIteration ctx).scheduler
      (executeOneIteration ctx smallAnswers.sampling smallAnswers.decode
        (beforeIteration ctx).scheduler)) ∧
    ¬ Progress (beforeIteration smallContext).scheduler (executeOneIteration smallContext
      failedDecodeAnswers.sampling failedDecodeAnswers.decode
      (beforeIteration smallContext).scheduler) ∧
    emptyPrompt.scheduler.hasActiveRequests = true ∧
    ¬ Progress emptyPrompt.scheduler (executeOneIteration smallContext emptyPromptAnswers.sampling
      emptyPromptAnswers.decode emptyPrompt.scheduler) ∧
    emptyPrompt.run smallContext (calls 5 emptyPromptAnswers) = emptyPrompt := by
  refine ⟨?_, ?_, ?_, ?_, by decide, ?_, rfl⟩
  · simp only [List.forall_mem_cons]
    exact ⟨rfl, rfl, rfl, fun _ h => absurd h List.not_mem_nil⟩
  · simp only [List.forall_mem_cons]
    exact ⟨by decide, by decide, by decide, fun _ h => absurd h List.not_mem_nil⟩
  · simp only [List.forall_mem_cons]
    exact ⟨not_progress (Or.inl (by decide)) (by decide),
      not_progress (Or.inr ⟨_, rfl⟩) (by decide), fun _ h => absurd h List.not_mem_nil⟩
  · exact not_progress (Or.inr ⟨"decode failed", by decide⟩) (by decide)
  · exact not_progress (Or.inl (by decide)) (by decide)

end Paddler
