import Paddler.Agent.RequestRule

/-!
# Result channels

What holds of every result channel, whatever the answers: a waiting command has sent nothing, an
active request has sent nothing terminal, and the outcome it completed with is terminal unless its
receiver is gone.

* `freshChannels_reaches` — the channels of waiting commands.
* `ChannelInv` — the channel of an active request.
* `channelRule_of` — **it survives everything that can happen to a request.**
-/

set_option autoImplicit false

namespace Paddler

open VecUpdate Run

variable {C : Type}

/-! ## Waiting commands -/

/-- Nothing was sent on the channel of the command. -/
def ContinuousBatchSchedulerCommand.Fresh : ContinuousBatchSchedulerCommand → Prop
  | continueFromConversationHistory request => request.generatedTokensTx.sent = []
  | continueFromRawPrompt request => request.generatedTokensTx.sent = []
  | generateEmbeddingBatch request => request.generatedEmbeddingTx.sent = []
  | shutdown => True

theorem ContinuousBatchSchedulerCommand.Fresh.sent {command : ContinuousBatchSchedulerCommand}
    (h : command.Fresh) {tx : Sender GeneratedTokenResult}
    (htx : command.generatedTokensTx = some tx) : tx.sent = [] := by
  cases command with
  | continueFromConversationHistory request => cases htx; exact h
  | continueFromRawPrompt request => cases htx; exact h
  | generateEmbeddingBatch request => cases htx
  | shutdown => cases htx

theorem command_fresh (params : CommandParams) (drops : Option Nat) (id : Nat) :
    (params.command drops id).Fresh := by
  cases params <;> first | rfl | trivial

/-- A call takes at most the first command from the channel. -/
theorem callStep_commandRx_subset {ctx : ContinuousBatchSchedulerContext C}
    {thread : SchedulerThread C} (answers : StepAnswers C) :
    (thread.callStep ctx answers).commandRx ⊆ thread.commandRx := by
  by_cases hc : thread.commandRx = [] ∨ ¬ thread.TakesCommand
  · rw [callStep_noCommand hc]
    exact fun _ h => h
  · obtain ⟨hne, htakes⟩ := not_or.mp hc
    cases hrx : thread.commandRx with
    | nil => exact absurd hrx hne
    | cons command commandRx =>
      rw [(callStep_command hrx (not_not.mp htakes)).2]
      exact fun _ h => List.mem_cons_of_mem _ h

theorem freshChannels_reaches {ctx : ContinuousBatchSchedulerContext C}
    {guard : SchedulerThread C → SchedulerInput C → Prop} {thread : SchedulerThread C}
    (h : Reaches (SchedulerThread.step ctx) guard (.new ctx) thread) :
    ∀ command ∈ thread.commandRx, command.Fresh := by
  refine h.invariant (fun thread => ∀ command ∈ thread.commandRx, command.Fresh)
    (fun command hc => absurd hc List.not_mem_nil) fun thread input _ hinv _ => ?_
  cases input with
  | arrive params drops =>
    intro command hc
    rcases List.mem_append.mp hc with hc | hc
    · exact hinv command hc
    · rw [List.mem_singleton.mp hc]
      exact command_fresh params drops _
  | dropCommandTx => exact hinv
  | call answers => exact fun command hc => hinv command (callStep_commandRx_subset answers hc)

theorem taken_fresh {ctx : ContinuousBatchSchedulerContext C}
    {guard : SchedulerThread C → SchedulerInput C → Prop} {thread : SchedulerThread C}
    (h : Reaches (SchedulerThread.step ctx) guard (.new ctx) thread)
    {command : ContinuousBatchSchedulerCommand} {commandRx : List ContinuousBatchSchedulerCommand}
    (hrx : thread.commandRx = command :: commandRx) {tx : Sender GeneratedTokenResult}
    (htx : command.generatedTokensTx = some tx) : tx.sent = [] := by
  refine (freshChannels_reaches h command ?_).sent htx
  rw [hrx]
  exact List.mem_cons_self ..

/-! ## Active requests -/

/-- The channel of an active request. -/
structure ChannelInv (r : ContinuousBatchActiveRequest C) : Prop where
  notDone : ∀ e ∈ r.generatedTokensTx.sent, e.isDone = false
  terminal : ∀ result, r.state.phase = .completed (.emitToClient result) → result.isDone = true
  dropped : r.state.phase = .completed .emitNothing → r.generatedTokensTx.receiverDropsAfter ≠ none

/-- The results of a request that ended: only the last one may be terminal. -/
def TerminalLast (e : EndedRequest) : Prop :=
  ∀ result ∈ e.generatedTokensTx.sent.dropLast, result.isDone = false

namespace ChannelInv

variable {r r' : ContinuousBatchActiveRequest C}

/-- A request that is not completed, on a channel with nothing terminal on it. -/
theorem of_active (hphase : r.state.phase.isCompleted = false)
    (h : ∀ e ∈ r.generatedTokensTx.sent, e.isDone = false) : ChannelInv r :=
  ⟨h, fun _ hc => (by rw [hc] at hphase; cases hphase),
    fun hc => (by rw [hc] at hphase; cases hphase)⟩

theorem completed (h : ChannelInv r) (hphase : r.state.phase.isCompleted = false)
    {result : GeneratedTokenResult} (hdone : result.isDone = true) :
    ChannelInv (r.completeWithOutcome result) := by
  rw [ContinuousBatchActiveRequest.completeWithOutcome_of_active hphase]
  refine ⟨h.notDone, fun result' hc => ?_, fun hc => by cases hc⟩
  cases hc
  exact hdone

theorem decoded {tokens : List BatchToken} (h : ChannelInv r) (hstep : DecodeStep tokens r r') :
    ChannelInv r' := by
  cases hstep with
  | skipped => exact h
  | generated hphase =>
    refine of_active ?_ h.notDone
    simp [ContinuousBatchRequestState.applyGeneratingContribution, hphase,
      ContinuousBatchRequestPhase.isCompleted]
  | @ingested p k b hphase _ _ _ _ _ _ _ _ hsize =>
    refine of_active ?_ h.notDone
    simp only [r.state.applyIngestingContribution_of_le hsize, hphase]
    split <;> rfl

theorem advanced (h : ChannelInv r) (ctx : ContinuousBatchSchedulerContext C) (llama : LlamaContext)
    (answers : SamplingAnswers) : ChannelInv (advance ctx llama answers r) := by
  rcases advance_cases ctx llama answers r with
    ⟨-, heq⟩ | ⟨i, result, hi, -, hfailure, heq⟩ | ⟨i, t, outcome, r', hi, -, hadv, heq⟩
  · rw [heq]
    exact h
  · rw [heq]
    obtain ⟨hphase, -, -⟩ := sampleableBatchIndex_eq_some.mp hi
    have hread : ChannelInv (r.recordRead llama i) := ⟨h.notDone, h.terminal, h.dropped⟩
    refine hread.completed ?_ (GeneratedTokenResult.isDone_of_isFailure hfailure)
    show r.state.phase.isCompleted = false
    rw [hphase]
    rfl
  · rw [heq]
    obtain ⟨hphase, -, -⟩ := sampleableBatchIndex_eq_some.mp hi
    -- whatever was sent for the token is not terminal
    have hkept : r'.state = r.state ∧ ∀ e ∈ r'.generatedTokensTx.sent, e.isDone = false := by
      rcases advanceSampled_spec hadv with ⟨err, c, -, -, hr⟩ | ⟨outcomes, c, events, -, hing, -⟩
      · rw [hr]
        exact ⟨rfl, h.notDone⟩
      · refine ⟨hing.state, fun e he => ?_⟩
        rw [hing.channel.sent] at he
        rcases List.mem_append.mp he with he | he
        · exact h.notDone e he
        · exact hing.notDone e he
    have hactive : r'.state.phase.isCompleted = false := by
      rw [hkept.1, hphase]
      rfl
    have hr' := of_active hactive hkept.2
    cases outcome with
    | sampledAndStored token => exact of_active hactive hkept.2
    | completed event =>
      refine hr'.completed hactive ?_
      rcases advanceSampled_spec hadv with ⟨err, c, -, ho, -⟩ | ⟨outcomes, c, events, -, -, ho⟩
      · cases ho
        rfl
      · rcases ho with ⟨-, -, ho⟩ | ⟨-, -, ⟨ho, -⟩ | ⟨ho, -⟩⟩ | ⟨ho, -⟩ <;> cases ho <;> rfl
    | channelDropped =>
      have hgone : r'.generatedTokensTx.receiverDropsAfter ≠ none := by
        rcases advanceSampled_spec hadv with ⟨err, c, -, ho, -⟩ | ⟨outcomes, c, events, -, -, ho⟩
        · cases ho
        · rcases ho with ⟨-, -, ho⟩ | ⟨-, -, ⟨ho, -⟩ | ⟨ho, -⟩⟩ | ⟨-, hgone, -⟩
          · cases ho
          · cases ho
          · cases ho
          · exact hgone
      refine ⟨hkept.2, fun result hc => ?_, fun _ => hgone⟩
      simp [applyOutcome, ContinuousBatchRequestState.markCompleted, hactive] at hc

theorem harvested (h : ChannelInv r) (ctx : ContinuousBatchSchedulerContext C)
    (llama : LlamaContext) (answers : SamplingAnswers) :
    ChannelInv (harvestOne ctx llama answers r) := by
  have hread : ∀ i, ChannelInv (r.recordRead llama i) := fun _ => ⟨h.notDone, h.terminal, h.dropped⟩
  have hgenerating : ∀ {i : Int}, r.sampleableBatchIndex = some i →
      r.state.phase.isCompleted = false := by
    intro i hi
    rw [(sampleableBatchIndex_eq_some.mp hi).1]
    rfl
  rcases harvestOne_cases ctx llama answers r with
    ⟨-, heq⟩ | ⟨i, result, hi, -, hfailure, heq⟩ | ⟨i, t, err, c, hi, -, -, heq⟩ |
    ⟨i, t, outcomes, c, hi, -, -, heq⟩
  · rw [heq]
    exact h
  · rw [heq]
    exact (hread i).completed (hgenerating hi) (GeneratedTokenResult.isDone_of_isFailure hfailure)
  · rw [heq]
    have hclassified : ChannelInv { r.sampledAt llama i t with tokenClassifier := c } :=
      ⟨h.notDone, h.terminal, h.dropped⟩
    exact hclassified.completed (hgenerating hi) rfl
  · rw [heq]
    exact ⟨h.notDone, h.terminal, h.dropped⟩

/-- The terminal outcome is sent last, unless the receiver is gone. -/
theorem delivered (h : ChannelInv r) :
    (r.deliverTerminal = ⟨r.generatedTokensTx, r.history⟩ ∧
      (r.state.phase.isCompleted = true → r.generatedTokensTx.receiverDropsAfter ≠ none)) ∨
    ∃ result tx', r.state.phase = .completed (.emitToClient result) ∧ result.isDone = true ∧
      r.generatedTokensTx.Extends tx' [result] ∧ r.deliverTerminal = ⟨tx', r.history⟩ := by
  unfold ContinuousBatchActiveRequest.deliverTerminal
    ContinuousBatchRequestState.intoTerminalOutcome
  cases hphase : r.state.phase with
  | ingesting => exact Or.inl ⟨rfl, fun hc => by cases hc⟩
  | generating => exact Or.inl ⟨rfl, fun hc => by cases hc⟩
  | completed outcome =>
    cases outcome with
    | emitNothing => exact Or.inl ⟨rfl, fun _ => h.dropped hphase⟩
    | emitToClient result =>
      obtain ⟨delivered, tx', hsend⟩ : ∃ delivered tx',
          r.generatedTokensTx.send result = (delivered, tx') := ⟨_, _, rfl⟩
      simp only [hsend]
      rcases Sender.send_extends hsend with ⟨-, hext⟩ | ⟨-, heq, hgone⟩
      · exact Or.inr ⟨result, tx', rfl, h.terminal result hphase, hext, rfl⟩
      · exact Or.inl ⟨by rw [heq], fun _ => heq ▸ hgone⟩

theorem delivered_terminalLast (h : ChannelInv r) : TerminalLast r.deliverTerminal := by
  unfold TerminalLast
  rcases h.delivered with ⟨heq, -⟩ | ⟨result, tx', -, -, hext, heq⟩
  · rw [heq]
    exact fun e he => h.notDone e (List.dropLast_subset _ he)
  · rw [heq]
    simp only [hext.sent, List.dropLast_concat]
    exact h.notDone

end ChannelInv

/-- The channel of a refused request holds at most one result. -/
theorem refused_sent {served : Prop} {tx tx' : Sender GeneratedTokenResult}
    (hfresh : tx.sent = []) (h : RefusedWith served tx tx') :
    (tx'.sent = [] ∧ (tx'.receiverDropsAfter = none → ¬ served)) ∨
      ∃ result, result.isDone = true ∧ tx'.sent = [result] := by
  rcases h with ⟨heq, hserved⟩ | ⟨result, hfailure, hext⟩
  · rw [heq]
    exact Or.inl ⟨hfresh, hserved⟩
  · refine Or.inr ⟨result, GeneratedTokenResult.isDone_of_isFailure hfailure, ?_⟩
    rw [hext.sent, hfresh]
    rfl

/-- **The channel rule**, for every reachable thread and any answers: what is left to show is what
holds of a channel when its sender is dropped. -/
theorem channelRule_of {ctx : ContinuousBatchSchedulerContext C}
    {guard : SchedulerThread C → SchedulerInput C → Prop} {thread : SchedulerThread C}
    (h : Reaches (SchedulerThread.step ctx) guard (.new ctx) thread) {answers : StepAnswers C}
    {E : EndedRequest → Prop}
    (hdelivered : ∀ r : ContinuousBatchActiveRequest C, ChannelInv r →
      (r.state.phase.isCompleted = true ∨ thread.call = .cleanup) → E r.deliverTerminal)
    (hrefused : ∀ command commandRx (tx' : Sender GeneratedTokenResult),
      thread.commandRx = command :: commandRx → thread.TakesCommand →
      (tx'.sent = [] ∧ (tx'.receiverDropsAfter = none → ¬ command.Served ctx answers)) ∨
        (∃ result, result.isDone = true ∧ tx'.sent = [result]) → E ⟨tx', RequestHistory.new 0⟩) :
    RequestRule ctx thread answers (fun _ r => ChannelInv r) E where
  completed _ _ _ hr hphase hdone _ := hr.completed hphase hdone
  replaced _ _ _ hr _ := hr
  advanced _ _ _ hr := hr.advanced ctx _ _
  harvested _ _ _ _ _ _ _ _ hr := hr.harvested ctx _ _
  decoded _ _ _ _ hr _ hstep := hr.decoded hstep
  text command commandRx tx hrx _ htx _ _ _ _ _ _ _ _ _ _ _ _ _ :=
    .of_active rfl (by simp [newTextRequest, taken_fresh h hrx htx])
  multimodal command commandRx tx hrx _ htx _ _ _ _ _ _ _ _ :=
    .of_active rfl (by simp [newMultimodalRequest, taken_fresh h hrx htx])
  delivered _ r hr hc := hdelivered r hr hc
  refused command commandRx tx tx' hrx htakes htx hrefused' :=
    hrefused command commandRx tx' hrx htakes (refused_sent (taken_fresh h hrx htx) hrefused')

theorem channelRule {ctx : ContinuousBatchSchedulerContext C}
    {guard : SchedulerThread C → SchedulerInput C → Prop} {thread : SchedulerThread C}
    (h : Reaches (SchedulerThread.step ctx) guard (.new ctx) thread) (answers : StepAnswers C) :
    RequestRule ctx thread answers (fun _ r => ChannelInv r) TerminalLast := by
  refine channelRule_of h (fun r hr _ => hr.delivered_terminalLast)
    fun command commandRx tx' _ _ hsent => ?_
  unfold TerminalLast
  rcases hsent with ⟨hsent, -⟩ | ⟨result, -, hsent⟩ <;> simp [hsent]

end Paddler
