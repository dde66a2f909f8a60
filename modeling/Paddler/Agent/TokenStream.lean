import Paddler.Agent.Channels

/-!
# Token streams

A client must see every visible piece the classifier returned for its request, once and in order,
before the terminal result.  `advance_one` keeps to that except when an end-of-generation token
releases text held back for an earlier one; the harvest before a multimodal evaluation drops what
the classifier returns and does not look for an end-of-generation token.

* `StreamInv` — what was sent is what the classifier returned.
* `NoOutcomeDropped` — the step drops no visible piece and harvests no end-of-generation token.
* `tokenStream_complete` — **runs of such steps stream every piece.**
* `tokenStream_dropped` — each of the three ways to lose one.
-/

set_option autoImplicit false

namespace Paddler

open VecUpdate Run

variable {C : Type}

/-- How a request ends after its end-of-generation token. -/
def ContinuousBatchTerminalOutcome.EndsGeneration : ContinuousBatchTerminalOutcome → Prop
  | .emitNothing | .emitToClient (.done _) | .emitToClient (.detokenizationFailed _) => True
  | .emitToClient _ => False

/-- The token events on the channel are the visible pieces that were returned; if the receiver is
gone, those before it was dropped. -/
def TokensStreamed (tx : Sender GeneratedTokenResult) (history : RequestHistory) : Prop :=
  tokenEvents tx.sent <+: visibleEvents history.returned ∧
    (tx.receiverDropsAfter = none → tokenEvents tx.sent = visibleEvents history.returned)

/-- What was sent for an active request, and its end-of-generation token. -/
structure StreamInv (ctx : ContinuousBatchSchedulerContext C) (r : ContinuousBatchActiveRequest C) :
    Prop where
  tokens : tokenEvents r.generatedTokensTx.sent = visibleEvents r.history.returned ∨
    (r.state.phase = .completed .emitNothing ∧
      tokenEvents r.generatedTokensTx.sent <+: visibleEvents r.history.returned)
  eogBefore : ∀ t ∈ r.history.sampled.dropLast, ctx.isEogToken t = false
  eogLast : ∀ t, r.history.sampled.getLast? = some t → ctx.isEogToken t = true →
    r.state.pendingSampledToken = none ∧
      ∃ outcome, r.state.phase = .completed outcome ∧ outcome.EndsGeneration

/-- The step asks the sampler for `r` and gets `t`. -/
def Samples (answers : StepAnswers C) (r : ContinuousBatchActiveRequest C) (t : LlamaToken) :
    Prop :=
  r.sampleableBatchIndex ≠ none ∧ sampleTokenPhase (answers.sampling r.id) r = .sampled t

/-- A harvest meets no end-of-generation token and no visible piece, and the end-of-generation
tokens of an iteration release no visible piece of an earlier token. -/
def NoOutcomeDropped (ctx : ContinuousBatchSchedulerContext C) (thread : SchedulerThread C) :
    SchedulerInput C → Prop
  | .arrive _ _ | .dropCommandTx => True
  | .call answers =>
    (∀ command commandRx, thread.commandRx = command :: commandRx → thread.TakesCommand →
      command.Harvests ctx answers thread.scheduler → ∀ r ∈ thread.scheduler.activeRequests,
      ∀ t outcomes c, Samples answers r t →
      ctx.classifier.ingest r.tokenClassifier t = (.ok outcomes, c) →
      ctx.isEogToken t = false ∧ visibleEvents outcomes = []) ∧
    (thread.call = .executeOrReceive → ∀ r ∈ thread.scheduler.activeRequests,
      ∀ t outcomes c, Samples answers r t →
      ctx.classifier.ingest r.tokenClassifier t = (.ok outcomes, c) → ctx.isEogToken t = true →
      visibleEvents (outcomesOfTokens ctx.isEogToken t outcomes) = [])

/-! ## The condition can be evaluated -/

/-- The token that the step samples for `r`, if it gets one. -/
def sampledToken (answers : StepAnswers C) (r : ContinuousBatchActiveRequest C) :
    Option LlamaToken :=
  match r.sampleableBatchIndex, sampleTokenPhase (answers.sampling r.id) r with
  | some _, .sampled t => some t
  | _, _ => none

theorem mem_sampledToken {answers : StepAnswers C} {r : ContinuousBatchActiveRequest C}
    {t : LlamaToken} : t ∈ sampledToken answers r ↔ Samples answers r t := by
  unfold Samples sampledToken
  cases r.sampleableBatchIndex <;> cases sampleTokenPhase (answers.sampling r.id) r <;> simp

instance (ctx : ContinuousBatchSchedulerContext C) (answers : StepAnswers C)
    (s : ContinuousBatchScheduler C) :
    ∀ command : ContinuousBatchSchedulerCommand, Decidable (command.Harvests ctx answers s)
  | .continueFromConversationHistory request =>
    inferInstanceAs (Decidable (harvestsFor ctx answers.acceptance request s = true))
  | .continueFromRawPrompt _ | .generateEmbeddingBatch _ | .shutdown => isFalse id

/-- What is said of the command a thread would take next is said of the head of its channel. -/
theorem forall_taken_iff {thread : SchedulerThread C}
    {Q : ContinuousBatchSchedulerCommand → Prop} :
    (∀ command ∈ thread.commandRx.head?, Q command) ↔
      ∀ command commandRx, thread.commandRx = command :: commandRx → Q command := by
  cases thread.commandRx <;> simp

theorem forall_ok_iff {ε α : Type} {x : Except ε α} {Q : α → Prop} :
    (∀ a ∈ x.toOption, Q a) ↔ ∀ a, x = .ok a → Q a := by
  cases x <;> simp [Except.toOption]

/-- What is said of every token a step samples, and of what the classifier makes of it. -/
theorem forall_ingested_iff {ctx : ContinuousBatchSchedulerContext C} {answers : StepAnswers C}
    {r : ContinuousBatchActiveRequest C} {Q : LlamaToken → List IngestOutcome → Prop} :
    (∀ t ∈ sampledToken answers r,
      ∀ outcomes ∈ (ctx.classifier.ingest r.tokenClassifier t).1.toOption, Q t outcomes) ↔
      ∀ t outcomes c, Samples answers r t →
        ctx.classifier.ingest r.tokenClassifier t = (.ok outcomes, c) → Q t outcomes := by
  simp only [mem_sampledToken, forall_ok_iff]
  refine ⟨fun h t outcomes c ht hingest => h t ht outcomes (by rw [hingest]), ?_⟩
  exact fun h t ht outcomes hok => h t outcomes _ ht (Prod.ext hok rfl)

instance (ctx : ContinuousBatchSchedulerContext C) (thread : SchedulerThread C) :
    ∀ input : SchedulerInput C, Decidable (NoOutcomeDropped ctx thread input)
  | .arrive _ _ | .dropCommandTx => isTrue trivial
  | .call answers =>
    decidable_of_iff
      ((∀ command ∈ thread.commandRx.head?, thread.TakesCommand →
        command.Harvests ctx answers thread.scheduler → ∀ r ∈ thread.scheduler.activeRequests,
        ∀ t ∈ sampledToken answers r,
        ∀ outcomes ∈ (ctx.classifier.ingest r.tokenClassifier t).1.toOption,
        ctx.isEogToken t = false ∧ visibleEvents outcomes = []) ∧
      (thread.call = .executeOrReceive → ∀ r ∈ thread.scheduler.activeRequests,
        ∀ t ∈ sampledToken answers r,
        ∀ outcomes ∈ (ctx.classifier.ingest r.tokenClassifier t).1.toOption,
        ctx.isEogToken t = true →
          visibleEvents (outcomesOfTokens ctx.isEogToken t outcomes) = []))
      (by simp only [forall_ingested_iff, forall_taken_iff]; rfl)

/-! ## One request -/

namespace StreamInv

variable {ctx : ContinuousBatchSchedulerContext C} {r r' : ContinuousBatchActiveRequest C}

/-- A request that is not completed was never sampled an end-of-generation token. -/
theorem active (h : StreamInv ctx r) (hphase : r.state.phase.isCompleted = false) :
    tokenEvents r.generatedTokensTx.sent = visibleEvents r.history.returned ∧
      ∀ t ∈ r.history.sampled, ctx.isEogToken t = false := by
  refine ⟨h.tokens.resolve_right fun hc => ?_, fun t ht => ?_⟩
  · rw [hc.1] at hphase
    cases hphase
  · rcases List.eq_nil_or_concat r.history.sampled with hnil | ⟨init, last, hsampled⟩
    · rw [hnil] at ht
      cases ht
    · have hbefore := h.eogBefore
      have hlast := h.eogLast last
      rw [hsampled, List.concat_eq_append] at ht hbefore hlast
      rw [List.dropLast_concat] at hbefore
      rcases List.mem_append.mp ht with ht | ht
      · exact hbefore t ht
      · rw [List.mem_singleton.mp ht]
        by_contra heog
        obtain ⟨-, outcome, hc, -⟩ := hlast List.getLast?_concat (by simpa using heog)
        rw [hc] at hphase
        cases hphase

theorem kept (h : StreamInv ctx r) (hphase : r.state.phase.isCompleted = false)
    (hsent : r'.generatedTokensTx.sent = r.generatedTokensTx.sent)
    (hreturned : r'.history.returned = r.history.returned)
    (hsampled : r'.history.sampled = r.history.sampled) : StreamInv ctx r' := by
  obtain ⟨htokens, hnone⟩ := h.active hphase
  refine ⟨Or.inl (by rw [hsent, hreturned, htokens]), ?_, fun t ht heog => ?_⟩
  · rw [hsampled]
    exact h.eogBefore
  · rw [hsampled] at ht
    have := hnone t (List.mem_of_getLast? ht)
    rw [this] at heog
    cases heog

theorem sampled (h : StreamInv ctx r) (hphase : r.state.phase.isCompleted = false) {t : LlamaToken}
    (hsampled : r'.history.sampled = r.history.sampled ++ [t])
    (htokens : tokenEvents r'.generatedTokensTx.sent = visibleEvents r'.history.returned ∨
      (r'.state.phase = .completed .emitNothing ∧
        tokenEvents r'.generatedTokensTx.sent <+: visibleEvents r'.history.returned))
    (hlast : ctx.isEogToken t = true → r'.state.pendingSampledToken = none ∧
      ∃ outcome, r'.state.phase = .completed outcome ∧ outcome.EndsGeneration) :
    StreamInv ctx r' := by
  refine ⟨htokens, ?_, fun t' ht' heog => ?_⟩
  · rw [hsampled, List.dropLast_concat]
    exact (h.active hphase).2
  · rw [hsampled, List.getLast?_concat] at ht'
    cases ht'
    exact hlast heog

theorem completed (h : StreamInv ctx r) (hphase : r.state.phase.isCompleted = false)
    (result : GeneratedTokenResult) : StreamInv ctx (r.completeWithOutcome result) :=
  h.kept hphase rfl rfl rfl

theorem decoded {tokens : List BatchToken} (h : StreamInv ctx r) (hstep : DecodeStep tokens r r') :
    StreamInv ctx r' := by
  cases hstep with
  | skipped => exact h
  | generated hphase => exact h.kept (by rw [hphase]; rfl) rfl rfl rfl
  | ingested hphase => exact h.kept (by rw [hphase]; rfl) rfl rfl rfl

/-- `advance_one`, when an end-of-generation token releases nothing visible. -/
theorem advanced {llama : LlamaContext} {answers : SamplingAnswers} (h : StreamInv ctx r)
    (hguard : ∀ t outcomes c, r.sampleableBatchIndex ≠ none →
      sampleTokenPhase answers r = .sampled t →
      ctx.classifier.ingest r.tokenClassifier t = (.ok outcomes, c) → ctx.isEogToken t = true →
      visibleEvents (outcomesOfTokens ctx.isEogToken t outcomes) = []) :
    StreamInv ctx (advance ctx llama answers r) := by
  rcases advance_cases ctx llama answers r with
    ⟨-, heq⟩ | ⟨i, result, hi, -, -, heq⟩ | ⟨i, t, outcome, r', hi, hs, hadv, heq⟩
  · rw [heq]
    exact h
  · rw [heq]
    refine h.kept ?_ rfl rfl rfl
    rw [(sampleableBatchIndex_eq_some.mp hi).1]
    rfl
  · rw [heq]
    obtain ⟨hgenerating, hpending, -⟩ := sampleableBatchIndex_eq_some.mp hi
    have hphase : r.state.phase.isCompleted = false := by rw [hgenerating]; rfl
    obtain ⟨htokens, -⟩ := h.active hphase
    have hended : ∀ {state : ContinuousBatchRequestState} {o : ContinuousBatchTerminalOutcome},
        state = r.state.markCompleted o → o.EndsGeneration → state.pendingSampledToken = none ∧
          ∃ outcome, state.phase = .completed outcome ∧ outcome.EndsGeneration := by
      intro state o hstate hends
      rw [hstate, markCompleted_of_generating hgenerating]
      exact ⟨hpending, o, rfl, hends⟩
    rcases advanceSampled_spec hadv with ⟨err, c, -, ho, hr⟩ | ⟨outcomes, c, events, hing, hch, ho⟩
    · -- the classifier failed
      subst hr
      subst ho
      exact h.sampled hphase rfl (Or.inl htokens) fun _ => hended rfl trivial
    · have hstate : ∀ o, r'.state.markCompleted o = r.state.markCompleted o := fun o => by
        rw [hch.state]
        rfl
      have hsent : tokenEvents r'.generatedTokensTx.sent =
          visibleEvents r.history.returned ++ tokenEvents events := by
        rw [hch.channel.sent, tokenEvents_append]
        exact congrArg (· ++ tokenEvents events) htokens
      have hreturned : visibleEvents r'.history.returned = visibleEvents r.history.returned ++
          visibleEvents (outcomesOfTokens ctx.isEogToken t outcomes) := by
        rw [hch.history]
        exact visibleEvents_append _ _
      have hsampled : r'.history.sampled = r.history.sampled ++ [t] := by
        rw [hch.history]
        rfl
      rcases ho with ⟨heog, hnone, ho⟩ | ⟨heog, hall, ho⟩ | ⟨ho, -, hpre⟩
      · -- an end-of-generation token
        subst ho
        refine h.sampled hphase hsampled (Or.inl ?_) fun _ => hended (hstate _) trivial
        show tokenEvents r'.generatedTokensTx.sent = visibleEvents r'.history.returned
        rw [hsent, hreturned, hnone, hguard t outcomes c (by rw [hi]; simp) hs hing heog]
      · -- the pieces were emitted
        have heq' : tokenEvents r'.generatedTokensTx.sent = visibleEvents r'.history.returned := by
          rw [hsent, hreturned, hall, outcomesOfTokens, if_neg (by simp [heog])]
        have hno : ∀ {p : Prop}, ctx.isEogToken t = true → p := fun hc => by
          rw [heog] at hc
          cases hc
        rcases ho with ⟨ho, -⟩ | ⟨ho, -⟩
        · subst ho
          exact h.sampled hphase hsampled (Or.inl heq') hno
        · subst ho
          exact h.sampled hphase hsampled (Or.inl heq') hno
      · -- the receiver is gone
        subst ho
        refine h.sampled hphase hsampled (Or.inr ⟨?_, ?_⟩) fun _ => hended (hstate _) trivial
        · show (r'.state.markCompleted .emitNothing).phase = _
          rw [hstate, markCompleted_of_generating hgenerating]
        · show tokenEvents r'.generatedTokensTx.sent <+: visibleEvents r'.history.returned
          rw [hsent, hreturned]
          exact (List.prefix_append_right_inj _).mpr hpre

theorem harvested {llama : LlamaContext} {answers : SamplingAnswers} (h : StreamInv ctx r)
    (hguard : ∀ t outcomes c, r.sampleableBatchIndex ≠ none →
      sampleTokenPhase answers r = .sampled t →
      ctx.classifier.ingest r.tokenClassifier t = (.ok outcomes, c) →
      ctx.isEogToken t = false ∧ visibleEvents outcomes = []) :
    StreamInv ctx (harvestOne ctx llama answers r) := by
  rcases harvestOne_cases ctx llama answers r with
    ⟨-, heq⟩ | ⟨i, result, hi, -, -, heq⟩ | ⟨i, t, err, c, hi, -, -, heq⟩ |
    ⟨i, t, outcomes, c, hi, hs, hing, heq⟩
  · rw [heq]
    exact h
  · rw [heq]
    refine h.kept ?_ rfl rfl rfl
    rw [(sampleableBatchIndex_eq_some.mp hi).1]
    rfl
  · rw [heq]
    obtain ⟨hgenerating, hpending, -⟩ := sampleableBatchIndex_eq_some.mp hi
    have hphase : r.state.phase.isCompleted = false := by rw [hgenerating]; rfl
    rw [ContinuousBatchActiveRequest.completeWithOutcome_of_active (by exact hphase)]
    exact h.sampled hphase rfl (Or.inl (h.active hphase).1) fun _ => ⟨hpending, _, rfl, trivial⟩
  · rw [heq]
    obtain ⟨hgenerating, -, -⟩ := sampleableBatchIndex_eq_some.mp hi
    have hphase : r.state.phase.isCompleted = false := by rw [hgenerating]; rfl
    obtain ⟨heog, hnone⟩ := hguard t outcomes c (by rw [hi]; simp) hs hing
    refine h.sampled hphase rfl (Or.inl ?_) fun hc => ?_
    · show tokenEvents r.generatedTokensTx.sent = visibleEvents (r.history.returned ++
        outcomesOfTokens ctx.isEogToken t outcomes)
      rw [visibleEvents_append, outcomesOfTokens, if_neg (by simp [heog]), hnone, List.append_nil]
      exact (h.active hphase).1
    · rw [heog] at hc
      cases hc

end StreamInv

/-! ## Every run -/

/-- What was streamed for a request that ended: all pieces, at most one terminal result and that
one last, and after an end-of-generation token the end of the generation. -/
structure EndedStream (ctx : ContinuousBatchSchedulerContext C) (e : EndedRequest) : Prop where
  tokens : TokensStreamed e.generatedTokensTx e.history
  terminalLast : TerminalLast e
  eogBefore : ∀ t ∈ e.history.sampled.dropLast, ctx.isEogToken t = false
  eogLast : ∀ t, e.history.sampled.getLast? = some t → ctx.isEogToken t = true →
    e.generatedTokensTx.receiverDropsAfter = none → ∃ result,
      e.generatedTokensTx.sent.getLast? = some result ∧
        (ContinuousBatchTerminalOutcome.emitToClient result).EndsGeneration

theorem isToken_of_isDone {result : GeneratedTokenResult} (h : result.isDone = true) :
    result.isToken = false := by
  cases hr : result.isToken with
  | false => rfl
  | true =>
    rw [GeneratedTokenResult.isDone_of_isToken hr] at h
    cases h

theorem StreamInv.streamed {ctx : ContinuousBatchSchedulerContext C}
    {r : ContinuousBatchActiveRequest C} (hchannel : ChannelInv r) (h : StreamInv ctx r) :
    TokensStreamed r.generatedTokensTx r.history := by
  rcases h.tokens with htokens | ⟨hphase, hpre⟩
  · exact ⟨htokens ▸ List.prefix_rfl, fun _ => htokens⟩
  · exact ⟨hpre, fun halive => absurd halive (hchannel.dropped hphase)⟩

theorem StreamInv.delivered {ctx : ContinuousBatchSchedulerContext C}
    {r : ContinuousBatchActiveRequest C} (hchannel : ChannelInv r) (h : StreamInv ctx r) :
    EndedStream ctx r.deliverTerminal := by
  have hlast := hchannel.delivered_terminalLast
  rcases hchannel.delivered with ⟨heq, hgone⟩ | ⟨result, tx', hphase, hdone, hext, heq⟩
  · rw [heq] at hlast ⊢
    refine ⟨h.streamed hchannel, hlast, h.eogBefore, fun t ht heog halive => ?_⟩
    obtain ⟨-, outcome, hphase, -⟩ := h.eogLast t ht heog
    exact absurd halive (hgone (by rw [hphase]; rfl))
  · rw [heq] at hlast ⊢
    have htokens : tokenEvents tx'.sent = tokenEvents r.generatedTokensTx.sent := by
      rw [hext.sent, tokenEvents_append]
      simp [tokenEvents, isToken_of_isDone hdone]
    refine ⟨⟨?_, fun halive => ?_⟩, hlast, h.eogBefore, fun t ht heog _ => ⟨result, ?_, ?_⟩⟩
    · exact htokens ▸ (h.streamed hchannel).1
    · exact htokens ▸ (h.streamed hchannel).2 (hext.alive.mp halive)
    · simp only [hext.sent]
      exact List.getLast?_concat
    · obtain ⟨-, outcome, hphase', hends⟩ := h.eogLast t ht heog
      rw [hphase] at hphase'
      cases hphase'
      exact hends

theorem streamInv_reaches {ctx : ContinuousBatchSchedulerContext C} {thread : SchedulerThread C}
    (h : Reaches (SchedulerThread.step ctx) (NoOutcomeDropped ctx) (.new ctx) thread) :
    EachRequest (fun _ r => ChannelInv r ∧ StreamInv ctx r) (EndedStream ctx) thread.scheduler := by
  refine RequestRule.reaches (fun thread answers hreach hguard => ?_) h
  have hchannel := channelRule hreach answers
  have hnew : ∀ {r : ContinuousBatchActiveRequest C}, r.generatedTokensTx.sent = [] →
      r.history.returned = [] → r.history.sampled = [] → StreamInv ctx r := by
    intro r hsent hreturned hsampled
    refine ⟨Or.inl (by rw [hsent, hreturned]; rfl), by simp [hsampled], ?_⟩
    rw [hsampled]
    exact fun t ht => nomatch ht
  exact
    { completed := fun d r result hr hphase hdone hsummary =>
        ⟨hchannel.completed d r result hr.1 hphase hdone hsummary, hr.2.completed hphase result⟩
      replaced := fun _ _ _ hr _ => hr
      advanced := fun r hmem hcall hr => ⟨hchannel.advanced r hmem hcall hr.1,
        hr.2.advanced fun t outcomes c hrow hs =>
          hguard.2 hcall r hmem t outcomes c ⟨hrow, hs⟩⟩
      harvested := fun command commandRx hrx htakes hharvests r hmem llama hr =>
        ⟨hchannel.harvested command commandRx hrx htakes hharvests r hmem llama hr.1,
          hr.2.harvested fun t outcomes c hrow hs =>
            hguard.1 command commandRx hrx htakes hharvests r hmem t outcomes c ⟨hrow, hs⟩⟩
      decoded := fun tokens d r r' hr hno hstep =>
        ⟨hchannel.decoded tokens d r r' hr.1 hno hstep, hr.2.decoded hstep⟩
      text := fun command commandRx tx hrx htakes htx d _ prompt _ _ _ _ _ hprompt hpool htokens hmax
          hclassifier =>
        ⟨hchannel.text command commandRx tx hrx htakes htx d _ prompt _ _ _ _ _ hprompt
          hpool htokens hmax hclassifier, hnew (taken_fresh hreach hrx htx) rfl rfl⟩
      multimodal := fun command commandRx tx hrx htakes htx _ _ _ _ _ _ hmax hclassifier =>
        ⟨hchannel.multimodal command commandRx tx hrx htakes htx _ _ _ _ _ _ hmax hclassifier,
          hnew (taken_fresh hreach hrx htx) rfl rfl⟩
      delivered := fun d r hr _ => hr.2.delivered hr.1
      refused := by
        intro command commandRx tx tx' hrx htakes htx hrefused
        refine ⟨?_, hchannel.refused command commandRx tx tx' hrx htakes htx hrefused,
          fun t ht => (nomatch ht), fun t ht => nomatch ht⟩
        have hsent : tokenEvents tx'.sent = [] := by
          rcases refused_sent (taken_fresh hreach hrx htx) hrefused with
            ⟨hsent, -⟩ | ⟨result, hdone, hsent⟩
          · rw [hsent]
            rfl
          · simp [hsent, tokenEvents, isToken_of_isDone hdone]
        exact ⟨hsent ▸ List.nil_prefix, fun _ => hsent⟩ }

/-- **Token streams are complete** in every run whose steps drop no outcome: for every active
request the token events on its channel are the visible pieces the classifier returned for its
tokens, nothing terminal was sent before them, and an end-of-generation token was the last token
sampled and completed it; and so for every request that ended, with its terminal result last. -/
theorem tokenStream_complete {ctx : ContinuousBatchSchedulerContext C} {thread : SchedulerThread C}
    (h : Reaches (SchedulerThread.step ctx) (NoOutcomeDropped ctx) (.new ctx) thread) :
    (∀ r ∈ thread.scheduler.activeRequests,
      TokensStreamed r.generatedTokensTx r.history ∧
      (∀ e ∈ r.generatedTokensTx.sent, e.isDone = false) ∧
      (∀ t ∈ r.history.sampled.dropLast, ctx.isEogToken t = false) ∧
      ∀ t, r.history.sampled.getLast? = some t → ctx.isEogToken t = true →
        r.state.pendingSampledToken = none ∧
          ∃ outcome, r.state.phase = .completed outcome ∧ outcome.EndsGeneration) ∧
    ∀ e ∈ thread.scheduler.ended, EndedStream ctx e := by
  have hinv := streamInv_reaches h
  refine ⟨fun r hr => ?_, hinv.ended⟩
  obtain ⟨hchannel, hstream⟩ := hinv.active r hr
  exact ⟨hstream.streamed hchannel, hchannel.notDone, hstream.eogBefore, hstream.eogLast⟩

/-- The small agent when it samples its end-of-generation token. -/
def eogAnswers : StepAnswers Unit :=
  { smallAnswers with sampling := fun _ => ⟨true, true, true, some 0, true, none⟩ }

/-- A classifier for which token 5 has no text. -/
def quietContext : ContinuousBatchSchedulerContext Unit :=
  { smallContext with
    classifier := { echoClassifier with
      ingest := fun classifier token =>
        let piece := if token == 5 then "" else "a"
        (.ok [⟨.content token, piece, piece⟩], classifier) } }

/-- The small agent when it samples that token. -/
def quietAnswers : StepAnswers Unit :=
  { smallAnswers with sampling := fun _ => ⟨true, true, true, some 5, true, none⟩ }

/-- A text prompt whose first token, without text, is harvested for an image; then both prompts are
answered with visible tokens and the end of the generation. -/
def quietHarvest : List (SchedulerInput Unit) :=
  .arrive textPrompt none :: calls 6 smallAnswers ++
    .arrive imagePrompt none :: calls 3 quietAnswers ++ calls 11 smallAnswers ++ calls 8 eogAnswers

theorem tokenStream_complete_quietHarvest :
    ((SchedulerThread.new quietContext).run quietContext quietHarvest).scheduler.ended.map
        (fun e => (e.generatedTokensTx.id, e.history.sampled, e.generatedTokensTx.sent)) =
      [(0, [5, 7, 0], [.contentToken "a", .done ⟨TokenUsage.new⟩]),
        (1, [7, 7, 0], [.contentToken "a", .contentToken "a", .done ⟨TokenUsage.new⟩])] ∧
    ∀ e ∈ ((SchedulerThread.new quietContext).run quietContext quietHarvest).scheduler.ended,
      EndedStream quietContext e := by
  refine ⟨by decide, (tokenStream_complete (Reaches.along _ ?_ .start)).2⟩
  decide

/-- The state after a text prompt was generating when an image arrived, and both ended. -/
def harvestedByImage : SchedulerThread Unit :=
  (SchedulerThread.new smallContext).run smallContext
    (.arrive textPrompt none :: calls 6 smallAnswers ++
      .arrive imagePrompt none :: calls 7 smallAnswers ++ calls 8 eogAnswers)

/-- The state right after the harvest. -/
def harvestedOnce : SchedulerThread Unit :=
  (SchedulerThread.new smallContext).run smallContext
    (.arrive textPrompt none :: calls 6 smallAnswers ++
      .arrive imagePrompt none :: calls 3 smallAnswers)

/-- The state after the harvest for an image met an end-of-generation token. -/
def eogHarvested : SchedulerThread Unit :=
  (SchedulerThread.new smallContext).run smallContext
    (.arrive textPrompt none :: calls 6 smallAnswers ++
      .arrive imagePrompt none :: calls 7 eogAnswers)

/-- A classifier that holds the text of a token back until the end of the generation. -/
def holdingContext : ContinuousBatchSchedulerContext Unit :=
  { smallContext with
    classifier := { echoClassifier with
      ingest := fun classifier token =>
        (.ok (if token == 0 then [⟨.content 7, "a", "a"⟩, ⟨.content 0, "", ""⟩] else []),
          classifier) } }

/-- The state after a text prompt was answered with a token whose text was held back. -/
def heldBack : SchedulerThread Unit :=
  (SchedulerThread.new holdingContext).run holdingContext
    (.arrive textPrompt none :: calls 12 smallAnswers ++ calls 8 eogAnswers)

/-- The three ways to lose a piece or an end of generation: the harvest drops the piece of the token
it sampled; the harvest puts an end-of-generation token in the batch and the request goes on; the
end-of-generation token releases a piece that nobody emits. -/
theorem tokenStream_dropped :
    harvestedByImage.scheduler.ended.map (fun e => (e.generatedTokensTx.id,
      tokenEvents e.generatedTokensTx.sent, visibleEvents e.history.returned)) =
      [(0, [], [.contentToken "a"]), (1, [.contentToken "a"], [.contentToken "a"])] ∧
    eogHarvested.scheduler.activeRequests.map (fun r => (r.id, r.history.sampled,
      r.state.phase.isCompleted, r.history.decoded.map (·.token))) =
      [(0, [0], false, [1, 0]), (1, [0], true, [])] ∧
    heldBack.scheduler.ended.map (fun e => (tokenEvents e.generatedTokensTx.sent,
      visibleEvents e.history.returned)) = [([], [.contentToken "a"])] ∧
    ¬ ∀ thread : SchedulerThread Unit,
      Reaches (SchedulerThread.step smallContext) (fun _ _ => True) (.new smallContext) thread →
      ∀ r ∈ thread.scheduler.activeRequests, r.generatedTokensTx.receiverDropsAfter = none →
        tokenEvents r.generatedTokensTx.sent = visibleEvents r.history.returned := by
  refine ⟨by decide, by decide, by decide, fun hstreamed => ?_⟩
  have h := hstreamed harvestedOnce (Reaches.runs _ (fun _ _ _ => trivial) .start)
  exact absurd h (by decide)

end Paddler
