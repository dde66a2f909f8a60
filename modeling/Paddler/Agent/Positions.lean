import Paddler.Agent.RequestRule

/-!
# Positions

What was decoded on the sequence of a request, token by token: the ingested part of its prompt and
then the tokens sampled for it, at consecutive positions, with logits for the last prompt token and
for every sampled one.

* `ContinuousBatchActiveRequest.laidOut` — a list of tokens as it must be decoded for a request.
* `PositionsInv` — what was decoded is the ingested prompt and the sampled tokens, laid out so.
* `positionsInv_reaches` — it holds in every run.
* `positions_consistent` — **a request is ingesting only while some of its prompt is left**, in runs
  in which no prompt is tokenized to nothing.
* `positions_emptyPrompt` — a prompt without tokens is ingesting for ever.
-/

set_option autoImplicit false

namespace Paddler

open VecUpdate Run

variable {C : Type}

/-- `tokens` as they are to be decoded for `r`: from its first position on, on its sequence, with
logits from the last prompt token on. -/
def ContinuousBatchActiveRequest.laidOut (r : ContinuousBatchActiveRequest C)
    (tokens : List LlamaToken) : List BatchToken :=
  tokens.zipIdx.map fun t => ⟨t.1, r.history.startPosition + t.2, r.sequenceId,
    decide (r.state.promptTokens.length ≤ t.2 + 1), r.id⟩

/-- The sampled tokens of `r` that are not decoded: the pending one, or the one that ended `r`. -/
def ContinuousBatchActiveRequest.LeavesUndecoded (r : ContinuousBatchActiveRequest C)
    (undecoded : List LlamaToken) : Prop :=
  undecoded = (r.state.pendingSampledToken.map SampledToken.token).toList ∨
    (r.state.phase.isCompleted = true ∧ r.state.pendingSampledToken = none ∧ undecoded.length = 1)

/-- Positions, prompt and history of one request agree. -/
structure PositionsInv (r : ContinuousBatchActiveRequest C) : Prop where
  ingested_le : r.state.promptTokensIngested ≤ r.state.promptTokens.length
  current : r.state.currentTokenPosition = r.history.startPosition + r.history.decoded.length
  decoded : ∃ generated undecoded, r.history.sampled = generated ++ undecoded ∧
    r.history.decoded =
      r.laidOut (r.state.promptTokens.take r.state.promptTokensIngested ++ generated) ∧
    r.LeavesUndecoded undecoded
  unsampled : r.state.promptTokensIngested < r.state.promptTokens.length ∨
    r.state.phase = .ingesting → r.history.sampled = []
  generating : r.state.phase = .generating →
    r.state.promptTokensIngested = r.state.promptTokens.length
  ingesting : r.state.phase = .ingesting → r.state.promptTokens = [] ∨
    r.state.promptTokensIngested < r.state.promptTokens.length
  waiting : r.state.phase = .generating → r.state.pendingSampledToken = none →
    r.state.iBatch ≠ none
  start : r.state.promptTokens ≠ [] → r.history.startPosition = 0
  start_nonneg : 0 ≤ r.history.startPosition

/-! ## Layout -/

theorem laidOut_length (r : ContinuousBatchActiveRequest C) (tokens : List LlamaToken) :
    (r.laidOut tokens).length = tokens.length := by
  simp [ContinuousBatchActiveRequest.laidOut]

/-- The layout depends only on where the request starts, its sequence, prompt and identity. -/
theorem laidOut_congr {r r' : ContinuousBatchActiveRequest C}
    (hstart : r'.history.startPosition = r.history.startPosition)
    (hprompt : r'.state.promptTokens = r.state.promptTokens)
    (hseq : r'.sequenceId = r.sequenceId) (hid : r'.id = r.id) (tokens : List LlamaToken) :
    r'.laidOut tokens = r.laidOut tokens := by
  unfold ContinuousBatchActiveRequest.laidOut
  rw [hstart, hprompt, hseq, hid]

theorem laidOut_append (r : ContinuousBatchActiveRequest C) (tokens tokens' : List LlamaToken) :
    r.laidOut (tokens ++ tokens') = r.laidOut tokens ++ (tokens'.zipIdx tokens.length).map fun t =>
      ⟨t.1, r.history.startPosition + t.2, r.sequenceId,
        decide (r.state.promptTokens.length ≤ t.2 + 1), r.id⟩ := by
  unfold ContinuousBatchActiveRequest.laidOut
  rw [List.zipIdx_append, List.map_append, Nat.zero_add]

theorem remainingPromptTokens_length (r : ContinuousBatchActiveRequest C) :
    r.state.remainingPromptTokens.length =
      r.state.promptTokens.length - r.state.promptTokensIngested := by
  simp [ContinuousBatchRequestState.remainingPromptTokens]

/-- A prompt chunk continues the layout of the prompt before it. -/
theorem laidOut_chunk {r : ContinuousBatchActiveRequest C} {k : Nat} (hk : 0 < k)
    (hle : k ≤ r.state.remainingPromptTokens.length)
    (hingested : r.state.promptTokensIngested ≤ r.state.promptTokens.length)
    (hcurrent : r.state.currentTokenPosition =
      r.history.startPosition + r.state.promptTokensIngested) :
    r.laidOut (r.state.promptTokens.take (r.state.promptTokensIngested + k)) =
      r.laidOut (r.state.promptTokens.take r.state.promptTokensIngested) ++
        chunkTokens r k (r.isLastChunk k) (r.state.remainingPromptTokens.take k) 0 := by
  have hlength : (r.state.promptTokens.take r.state.promptTokensIngested).length =
      r.state.promptTokensIngested := by
    rw [List.length_take, Nat.min_eq_left hingested]
  have hremaining := remainingPromptTokens_length r
  rw [List.take_add, laidOut_append, hlength]
  congr 1
  apply List.ext_getElem
  · simp [chunkTokens, ContinuousBatchRequestState.remainingPromptTokens]
  · intro j h₁ h₂
    have hj : j < k := by
      have : j < (r.state.remainingPromptTokens.take k).length := by
        simpa [chunkTokens] using h₂
      rw [List.length_take] at this
      omega
    have hlogits : decide (r.state.promptTokens.length ≤ r.state.promptTokensIngested + j + 1) =
        (r.isLastChunk k && j == k - 1) := by
      rw [Bool.eq_iff_iff]
      simp only [ContinuousBatchActiveRequest.isLastChunk, decide_eq_true_eq, Bool.and_eq_true,
        beq_iff_eq]
      omega
    simp only [chunkTokens, List.getElem_map, List.getElem_zipIdx, Nat.zero_add,
      ContinuousBatchRequestState.remainingPromptTokens, hcurrent, hlogits, Int.natCast_add,
      Int.add_assoc]

/-! ## Every step -/

theorem ContinuousBatchActiveRequest.LeavesUndecoded.of_active {r : ContinuousBatchActiveRequest C}
    {undecoded : List LlamaToken} (h : r.LeavesUndecoded undecoded)
    (hphase : r.state.phase.isCompleted = false) :
    undecoded = (r.state.pendingSampledToken.map SampledToken.token).toList :=
  h.resolve_right fun hended => absurd hended.1 (by simp [hphase])

namespace PositionsInv

variable {r r' : ContinuousBatchActiveRequest C}

theorem completed (h : PositionsInv r) (hphase : r.state.phase.isCompleted = false)
    (result : GeneratedTokenResult) : PositionsInv (r.completeWithOutcome result) := by
  rw [ContinuousBatchActiveRequest.completeWithOutcome_of_active hphase]
  obtain ⟨generated, undecoded, hsampled, hdecoded, hundecoded⟩ := h.decoded
  exact
    { ingested_le := h.ingested_le
      current := h.current
      decoded := ⟨generated, undecoded, hsampled, hdecoded,
        hundecoded.imp_right fun hended => ⟨rfl, hended.2⟩⟩
      unsampled := fun hleft => h.unsampled (hleft.imp_right fun hc => nomatch hc)
      generating := fun hc => nomatch hc
      ingesting := fun hc => nomatch hc
      waiting := fun hc => nomatch hc
      start := h.start
      start_nonneg := h.start_nonneg }

theorem framed {llama : LlamaContext} {i : Int} {undecoded : List LlamaToken} (h : PositionsInv r)
    (hi : r.sampleableBatchIndex = some i) (frame : SamplingFrame llama r r' i)
    (hsampled : r'.history.sampled = r.history.sampled ++ undecoded)
    (hundecoded : r'.LeavesUndecoded undecoded) (hphase : r'.state.phase ≠ .ingesting)
    (hwaiting : r'.state.phase = .generating → r'.state.pendingSampledToken ≠ none) :
    PositionsInv r' := by
  obtain ⟨hgenerating, hnone, -⟩ := sampleableBatchIndex_eq_some.mp hi
  have hingested := h.generating hgenerating
  obtain ⟨generated, before, hbefore, hdecoded, hempty⟩ := h.decoded
  have hnil : before = [] := by
    rw [hempty.of_active (by rw [hgenerating]; rfl), hnone]
    rfl
  rw [hnil, List.append_nil] at hbefore
  have hlaid := laidOut_congr frame.startPosition frame.promptTokens frame.sequenceId frame.id
  exact
    { ingested_le := by rw [frame.promptTokensIngested, frame.promptTokens]; exact h.ingested_le
      current := by
        rw [frame.currentTokenPosition, frame.startPosition, frame.decoded]
        exact h.current
      decoded := by
        refine ⟨generated, undecoded, by rw [hsampled, hbefore], ?_, hundecoded⟩
        rw [hlaid, frame.decoded, frame.promptTokens, frame.promptTokensIngested]
        exact hdecoded
      unsampled := by
        rw [frame.promptTokensIngested, frame.promptTokens, hingested]
        rintro (hlt | hc)
        · exact absurd hlt (Nat.lt_irrefl _)
        · exact absurd hc hphase
      generating := fun _ => by rw [frame.promptTokensIngested, frame.promptTokens, hingested]
      ingesting := fun hc => absurd hc hphase
      waiting := fun hc hnone' => absurd hnone' (hwaiting hc)
      start := by rw [frame.promptTokens, frame.startPosition]; exact h.start
      start_nonneg := by rw [frame.startPosition]; exact h.start_nonneg }

theorem sampled {llama : LlamaContext} (h : PositionsInv r) (hstep : SamplingStep llama r r') :
    PositionsInv r' := by
  cases hstep with
  | idle _ => exact h
  | completed sampled hi frame hphase hpending hone hsampled =>
    refine h.framed hi frame hsampled ?_ (by rw [hphase]; simp) (by rw [hphase]; exact nofun)
    -- the request ended before a token was sampled, or because of the token
    cases sampled with
    | nil => exact Or.inl (by rw [hpending]; rfl)
    | cons t rest =>
      refine Or.inr ⟨by rw [hphase]; rfl, hpending, ?_⟩
      rw [List.length_cons] at hone ⊢
      omega
  | stored hi frame hphase hpending hsampled =>
    exact h.framed hi frame hsampled (Or.inl (by rw [hpending]; rfl)) (by rw [hphase]; simp)
      fun _ => by rw [hpending]; simp

theorem decoded_length (h : PositionsInv r) {generated : List LlamaToken}
    (hdecoded : r.history.decoded =
      r.laidOut (r.state.promptTokens.take r.state.promptTokensIngested ++ generated)) :
    r.history.decoded.length = r.state.promptTokensIngested + generated.length := by
  rw [hdecoded, laidOut_length, List.length_append, List.length_take, Nat.min_eq_left h.ingested_le]

/-- The pending token is decoded: it is laid out right after everything decoded before. -/
theorem generatedToken (h : PositionsInv r) {p : Nat} {t : SampledToken}
    (hphase : r.state.phase = .generating) (hpending : r.state.pendingSampledToken = some t) :
    PositionsInv { r with
      state := r.state.applyGeneratingContribution p
      history := { r.history with
        decoded := r.history.decoded ++
          [⟨t.token, r.state.currentTokenPosition, r.sequenceId, true, r.id⟩] } } := by
  obtain ⟨generated, undecoded, hsampled, hdecoded, hundecoded⟩ := h.decoded
  have hlength := h.decoded_length hdecoded
  have hingested := h.generating hphase
  have hone : undecoded = [t.token] := by
    rw [hundecoded.of_active (by rw [hphase]; rfl), hpending]
    rfl
  exact
    { ingested_le := h.ingested_le
      current := by
        simp only [ContinuousBatchRequestState.applyGeneratingContribution, h.current,
          List.length_append, List.length_singleton]
        omega
      decoded := by
        refine ⟨generated ++ [t.token], [], by rw [List.append_nil, hsampled, hone], ?_, Or.inl rfl⟩
        rw [← List.append_assoc, laidOut_append]
        refine congrArg₂ _ hdecoded ?_
        have hlogits : decide (r.state.promptTokens.length ≤
            r.state.promptTokens.length + generated.length + 1) = true := by
          rw [decide_eq_true_eq]
          omega
        simp only [ContinuousBatchRequestState.applyGeneratingContribution, List.length_append,
          List.length_take, Nat.min_self, List.zipIdx_singleton, List.map_cons, List.map_nil,
          h.current, hlength, hingested, hlogits]
        rfl
      unsampled := by
        rintro (hlt | hc)
        · exact absurd (hingested ▸ hlt) (Nat.lt_irrefl _)
        · rw [show (r.state.applyGeneratingContribution p).phase = r.state.phase from rfl,
            hphase] at hc
          cases hc
      generating := fun _ => hingested
      ingesting := fun hc => absurd (hphase.symm.trans hc) (by simp)
      waiting := fun _ _ => nofun
      start := h.start
      start_nonneg := h.start_nonneg }

/-- A chunk of the prompt is decoded: it continues the layout, and the last one ends the
ingestion. -/
theorem ingestedChunk (h : PositionsInv r) {p k : Nat} (hphase : r.state.phase = .ingesting)
    (hk : 0 < k) (hle : k ≤ r.state.remainingPromptTokens.length) (hsize : k ≤ i32Max) :
    PositionsInv { r with
      state := (r.state.applyIngestingContribution k (r.isLastChunk k) p).2
      history := { r.history with
        decoded := r.history.decoded ++ chunkTokens r k (r.isLastChunk k)
          (r.state.remainingPromptTokens.take k) 0 } } := by
  obtain ⟨generated, undecoded, hsampled, hdecoded, hundecoded⟩ := h.decoded
  have hlength := h.decoded_length hdecoded
  have hnone := h.unsampled (Or.inr hphase)
  obtain ⟨rfl, rfl⟩ : generated = [] ∧ undecoded = [] := by
    rw [hnone] at hsampled
    exact List.append_eq_nil_iff.mp hsampled.symm
  rw [List.append_nil] at hdecoded
  rw [List.length_nil, Nat.add_zero] at hlength
  have hremaining : r.state.promptTokensIngested + k ≤ r.state.promptTokens.length := by
    have := remainingPromptTokens_length r
    omega
  have hnopending : r.state.pendingSampledToken = none := by
    have := hundecoded.of_active (by rw [hphase]; rfl)
    cases hp : r.state.pendingSampledToken with
    | none => rfl
    | some t => rw [hp] at this; cases this
  simp only [r.state.applyIngestingContribution_of_le hsize]
  have hstays : r.isLastChunk k = false →
      (if r.isLastChunk k = true then ContinuousBatchRequestPhase.generating else r.state.phase) ≠
        .generating := by
    intro hl hc
    rw [hl, if_neg (by simp), hphase] at hc
    cases hc
  exact
    { ingested_le := hremaining
      current := by
        simp only [h.current, List.length_append, chunkTokens_length, List.length_take]
        omega
      decoded := by
        refine ⟨[], [], hnone, ?_, Or.inl (by simp [hnopending])⟩
        rw [List.append_nil]
        refine (congrArg₂ _ hdecoded rfl).trans ((laidOut_chunk hk hle h.ingested_le ?_).symm)
        rw [h.current, hlength]
      unsampled := fun _ => hnone
      generating := by
        intro hc
        cases hl : r.isLastChunk k with
        | true =>
          have : r.state.promptTokens.length ≤ r.state.promptTokensIngested + k := by
            simpa [ContinuousBatchActiveRequest.isLastChunk] using hl
          dsimp only
          omega
        | false => exact absurd hc (hstays hl)
      ingesting := by
        intro hc
        cases hl : r.isLastChunk k with
        | true =>
          rw [hl, if_pos rfl] at hc
          cases hc
        | false =>
          right
          simpa [ContinuousBatchActiveRequest.isLastChunk] using hl
      waiting := by
        intro hc _
        cases hl : r.isLastChunk k with
        | true => simp
        | false => exact absurd hc (hstays hl)
      start := h.start
      start_nonneg := h.start_nonneg }

theorem decodedToken {tokens : List BatchToken} (h : PositionsInv r)
    (hstep : DecodeStep tokens r r') : PositionsInv r' := by
  cases hstep with
  | skipped => exact h
  | generated hphase hpending hb _ =>
    subst hb
    exact h.generatedToken hphase hpending
  | ingested hphase hk hle _ _ _ _ _ _ hsize => exact h.ingestedChunk hphase hk hle hsize

end PositionsInv

theorem positionsInv_text (maxTokens : Int) (promptTokens : List LlamaToken) (tokenClassifier : C)
    (hasGrammarSampler : Bool) (tx : Sender GeneratedTokenResult) (sequenceId : Int)
    (toolCallPipeline : Option ToolCallPipeline) :
    PositionsInv (newTextRequest maxTokens promptTokens tokenClassifier hasGrammarSampler tx
      sequenceId toolCallPipeline) where
  ingested_le := Nat.zero_le _
  current := rfl
  decoded := ⟨[], [], rfl, rfl, Or.inl rfl⟩
  unsampled _ := rfl
  generating hc := nomatch hc
  ingesting _ := (Classical.em (promptTokens = [])).imp_right List.length_pos_iff.mpr
  waiting hc := nomatch hc
  start _ := rfl
  start_nonneg := Int.le_refl _

theorem positionsInv_multimodal (maxTokens : Int) (tokensIngested : Nat) (tokenClassifier : C)
    (hasGrammarSampler : Bool) (tx : Sender GeneratedTokenResult) (sequenceId : Int)
    (toolCallPipeline : Option ToolCallPipeline) :
    PositionsInv (newMultimodalRequest maxTokens tokensIngested tokenClassifier hasGrammarSampler tx
      sequenceId toolCallPipeline) where
  ingested_le := Nat.zero_le _
  current := (Int.add_zero _).symm
  decoded := ⟨[], [], rfl, rfl, Or.inl rfl⟩
  unsampled _ := rfl
  generating _ := rfl
  ingesting hc := nomatch hc
  waiting _ _ := nofun
  start hne := absurd rfl hne
  start_nonneg := Int.natCast_nonneg _

/-- **Positions, prompt and history agree**, in every state of every run. -/
theorem positionsInv_reaches {ctx : ContinuousBatchSchedulerContext C}
    {guard : SchedulerThread C → SchedulerInput C → Prop} {thread : SchedulerThread C}
    (h : Reaches (SchedulerThread.step ctx) guard (.new ctx) thread) :
    ∀ r ∈ thread.scheduler.activeRequests, PositionsInv r := by
  refine (RequestRule.reaches (Q := fun _ r => PositionsInv r) (E := fun _ => True)
    (fun thread answers _ _ => ?_) h).active
  exact
    { completed := fun d r result hr hphase _ _ => hr.completed hphase result
      replaced := fun d d' r hr _ => hr
      advanced := fun r _ _ hr => hr.sampled (advance_samplingStep ..)
      harvested := fun _ _ _ _ _ r _ llama hr => hr.sampled (harvestOne_samplingStep ..)
      decoded := fun tokens d r r' hr _ hstep => hr.decodedToken hstep
      text := fun _ _ _ _ _ _ _ _ _ promptTokens _ _ _ _ _ _ _ _ _ => positionsInv_text ..
      multimodal := fun _ _ _ _ _ _ _ _ _ _ _ _ _ _ => positionsInv_multimodal ..
      delivered := fun _ _ _ _ => trivial
      refused := fun _ _ _ _ _ _ _ _ => trivial }

/-! ## Prompts without tokens -/

/-- If the step takes a text prompt and has a sequence for it, then the prompt has tokens. -/
def PromptsNotEmpty (ctx : ContinuousBatchSchedulerContext C) (thread : SchedulerThread C) :
    SchedulerInput C → Prop
  | .arrive _ _ | .dropCommandTx => True
  | .call answers => thread.TakesCommand → thread.scheduler.sequenceIdPool.availableIds ≠ [] →
      ∀ prompt ∈ thread.commandRx.head?.bind (·.textPrompt ctx answers),
        answers.acceptance.strToToken prompt ≠ .ok []

instance (ctx : ContinuousBatchSchedulerContext C) (thread : SchedulerThread C) :
    ∀ input : SchedulerInput C, Decidable (PromptsNotEmpty ctx thread input)
  | .arrive _ _ | .dropCommandTx => isTrue trivial
  | .call answers =>
    inferInstanceAs (Decidable (thread.TakesCommand →
      thread.scheduler.sequenceIdPool.availableIds ≠ [] →
      ∀ prompt ∈ thread.commandRx.head?.bind (·.textPrompt ctx answers),
        answers.acceptance.strToToken prompt ≠ .ok []))

theorem ingesting_ne_nil {ctx : ContinuousBatchSchedulerContext C} {thread : SchedulerThread C}
    (h : Reaches (SchedulerThread.step ctx) (PromptsNotEmpty ctx) (.new ctx) thread) :
    ∀ r ∈ thread.scheduler.activeRequests, r.state.phase = .ingesting →
      r.state.promptTokens ≠ [] := by
  refine (RequestRule.reaches (Q := fun _ r => r.state.phase = .ingesting →
    r.state.promptTokens ≠ []) (E := fun _ => True) (fun thread answers _ hguard => ?_) h).active
  have hsampled : ∀ {llama : LlamaContext} {r r' : ContinuousBatchActiveRequest C},
      (r.state.phase = .ingesting → r.state.promptTokens ≠ []) → SamplingStep llama r r' →
      r'.state.phase = .ingesting → r'.state.promptTokens ≠ [] := by
    intro llama r r' hr hstep hphase
    cases hstep with
    | idle _ => exact hr hphase
    | completed _ _ _ hphase' => rw [hphase'] at hphase; cases hphase
    | stored _ _ hphase' => rw [hphase'] at hphase; cases hphase
  exact
    { completed := by
        intro d r result hr hphase _ _ hc
        rw [ContinuousBatchActiveRequest.completeWithOutcome_of_active hphase] at hc
        cases hc
      replaced := fun d d' r hr _ => hr
      advanced := fun r _ _ hr => hsampled hr (advance_samplingStep ..)
      harvested := fun _ _ _ _ _ r _ llama hr => hsampled hr (harvestOne_samplingStep ..)
      decoded := by
        intro tokens d r r' hr _ hstep hc
        cases hstep with
        | skipped => exact hr hc
        | generated hphase => exact absurd (hphase.symm.trans hc) (by simp)
        | ingested hphase _ _ _ _ _ _ _ _ hsize =>
          simp only [r.state.applyIngestingContribution_of_le hsize]
          exact hr hphase
      text := by
        intro command commandRx _ hrx htakes _ _ _ prompt promptTokens _ _ _ _ hprompt hpool htokens
          _ _ _ hnil
        have hnil' : promptTokens = [] := hnil
        refine hguard htakes hpool prompt ?_ (hnil' ▸ htokens)
        rw [hrx]
        exact hprompt
      multimodal := fun _ _ _ _ _ _ _ _ _ _ _ _ _ _ hc => nomatch hc
      delivered := fun _ _ _ _ => trivial
      refused := fun _ _ _ _ _ _ _ _ => trivial }

/-- `r` was just accepted: as a text prompt from position 0, or as a multimodal prompt from the
position its evaluation ended at. -/
def AcceptedAt (answers : AcceptanceAnswers C) (r : ContinuousBatchActiveRequest C) : Prop :=
  (r.state.phase = .ingesting ∧ r.history.startPosition = 0 ∧
    ∃ prompt, answers.strToToken prompt = .ok r.state.promptTokens) ∨
  (r.state.phase = .generating ∧ r.state.promptTokens = [] ∧
    ∃ tokensIngested : Nat, answers.evalMultimodalChunks = .ok tokensIngested ∧
      r.history.startPosition = tokensIngested)

/-- **Positions are consistent** in every state of every run in which no accepted prompt is
tokenized to nothing: what was decoded on the sequence of a request is the ingested part of its
prompt and the tokens sampled for it but the undecoded one (the pending one, or the one that ended
the request), laid out from where its acceptance left off; the current position is the number of
them; and it is ingesting only while some of the prompt is left. -/
theorem positions_consistent {ctx : ContinuousBatchSchedulerContext C} {thread : SchedulerThread C}
    (h : Reaches (SchedulerThread.step ctx) (PromptsNotEmpty ctx) (.new ctx) thread) :
    (∀ r ∈ thread.scheduler.activeRequests,
      r.state.promptTokensIngested ≤ r.state.promptTokens.length ∧
      r.state.currentTokenPosition = r.history.startPosition + r.history.decoded.length ∧
      (∃ generated undecoded, r.history.sampled = generated ++ undecoded ∧
        r.history.decoded =
          r.laidOut (r.state.promptTokens.take r.state.promptTokensIngested ++ generated) ∧
        r.LeavesUndecoded undecoded) ∧
      (r.state.promptTokens ≠ [] → r.history.startPosition = 0) ∧
      (r.state.phase = .ingesting →
        r.state.promptTokensIngested < r.state.promptTokens.length)) ∧
    ∀ (answers : StepAnswers C) (r : ContinuousBatchActiveRequest C),
      r ∈ (thread.callStep ctx answers).scheduler.activeRequests →
      r.id ∉ thread.scheduler.activeRequests.map (·.id) → AcceptedAt answers.acceptance r := by
  refine ⟨fun r hr => ?_, fun answers r hr hnew => ?_⟩
  · have hinv := positionsInv_reaches h r hr
    refine ⟨hinv.ingested_le, hinv.current, hinv.decoded, hinv.start, fun hphase => ?_⟩
    exact (hinv.ingesting hphase).resolve_left (ingesting_ne_nil h r hr hphase)
  · obtain ⟨_, _, _, _, _, hstep⟩ := callStep_newRequest answers (sequenceIdsInv_reaches h) hr hnew
    obtain ⟨_, _, -, ⟨prompt, _, _, _, _, _, htokens, -, rfl⟩ | ⟨n, _, _, _, _, heval, -, rfl⟩⟩ :=
      hstep.newRequest hr hnew
    · exact Or.inl ⟨rfl, rfl, prompt, htokens⟩
    · exact Or.inr ⟨rfl, rfl, n, heval, rfl⟩

/-- The small agent with a tokenizer that adds no token of its own: the empty prompt has none. -/
def emptyPromptAnswers : StepAnswers Unit :=
  { smallAnswers with
    acceptance := { smallAnswers.acceptance with
      strToToken := fun prompt => .ok (if prompt = "" then [] else [1]) } }

/-- The state after a text prompt was ingested and its first token decoded. -/
def oneTokenDecoded : SchedulerThread Unit :=
  (SchedulerThread.new smallContext).run smallContext
    (.arrive textPrompt none :: calls 12 emptyPromptAnswers)

theorem positions_consistent_oneTokenDecoded :
    oneTokenDecoded.scheduler.activeRequests.map (fun r => r.history.decoded) =
      [[⟨1, 0, 0, true, 0⟩, ⟨7, 1, 0, true, 0⟩]] ∧
    ∀ r ∈ oneTokenDecoded.scheduler.activeRequests,
      r.state.currentTokenPosition = r.history.startPosition + r.history.decoded.length := by
  refine ⟨by decide, fun r hr => ((positions_consistent (Reaches.along _ ?_ .start)).1 r hr).2.1⟩
  decide

/-- The state after the empty prompt went through a whole iteration. -/
def emptyPrompt : SchedulerThread Unit :=
  (SchedulerThread.new smallContext).run smallContext
    (.arrive (.continueFromRawPrompt ⟨none, 8, ""⟩) none :: calls 6 emptyPromptAnswers)

/-- A prompt without tokens is ingesting although nothing of it is left. -/
theorem positions_emptyPrompt :
    Reaches (SchedulerThread.step smallContext) (fun _ _ => True) (.new smallContext) emptyPrompt ∧
    emptyPrompt.scheduler.activeRequests.map (fun r => (r.state.phase, r.state.promptTokens.length,
      r.state.promptTokensIngested)) = [(.ingesting, 0, 0)] ∧
    ¬ ∀ r ∈ emptyPrompt.scheduler.activeRequests, r.state.phase = .ingesting →
      r.state.promptTokensIngested < r.state.promptTokens.length :=
  ⟨Reaches.runs _ (fun _ _ _ => trivial) .start, by decide, by decide⟩

end Paddler
