import Paddler.Agent.LlamaCppArbiterService

/-!
# One terminal result per request

A request handed to the agent should get exactly one terminal result, as the last one before its
channel closes.  The agent keeps this promise as long as no step takes one of the exits that close
the channel in silence: `forward_command` without a scheduler, the `?`s of an acceptance in front of
which nothing is sent, and the `?`s of `process_embedding_batch`.

* `ResultsServed` — the next call takes none of them.
* `ResultChannels` — what then holds of all channels of a scheduler thread.
* `resultChannels_reaches` — **it holds along every run** of the thread.
* `terminalResult_exactlyOnce` — **and of every request handed to the agent.**
-/

set_option autoImplicit false

namespace Paddler

open VecUpdate Run

variable {C : Type}

/-- Exactly one result is terminal, and it is the last one. -/
def EndsTerminal {α : Type} (isDone : α → Bool) (results : List α) : Prop :=
  ∃ before last, results = before ++ [last] ∧ isDone last = true ∧
    ∀ result ∈ before, isDone result = false

/-- The next input is no shutdown, and if it is a call, no answer makes a request end in silence. -/
def SchedulerThread.ResultsServed (ctx : ContinuousBatchSchedulerContext C)
    (thread : SchedulerThread C) : SchedulerInput C → Prop
  | .arrive params _ => params ≠ .shutdown
  | .dropCommandTx => False
  | .call answers =>
    (∀ command commandRx, thread.commandRx = command :: commandRx → thread.TakesCommand →
      command.Served ctx answers) ∧
    ∀ request pending, thread.call = .tryProcessEmbeddingRequest →
      thread.scheduler.pendingEmbeddingRequests = request :: pending →
      thread.scheduler.hasActiveRequests = false → EmbeddingServed ctx answers.embedding request

theorem SchedulerThread.ResultsServed.keepsRunning {ctx : ContinuousBatchSchedulerContext C}
    {thread : SchedulerThread C} {input : SchedulerInput C} (h : thread.ResultsServed ctx input) :
    input.KeepsRunning := by
  cases input with
  | arrive params drops => exact h
  | dropCommandTx => exact h
  | call answers => trivial

/-! ## The scheduler keeps running -/

/-- Nothing tells the thread to stop. -/
structure KeepsRunningInv (thread : SchedulerThread C) : Prop where
  running : thread.scheduler.running = true
  commandTx : thread.commandTxDropped = false
  commandRx : ∀ command ∈ thread.commandRx, command ≠ .shutdown
  call : thread.call ≠ .cleanup ∧ thread.call ≠ .stopped

namespace KeepsRunningInv

variable {ctx : ContinuousBatchSchedulerContext C} {thread : SchedulerThread C}

theorem processed (h : KeepsRunningInv thread) (answers : StepAnswers C)
    {command : ContinuousBatchSchedulerCommand} (hc : command ∈ thread.commandRx) :
    (processCommand ctx answers thread.scheduler command).running = true := by
  rcases processCommand_cases ctx answers thread.scheduler command with
    ⟨tx, -, -, hstep⟩ | ⟨request, -, heq⟩ | ⟨hshutdown, -⟩
  · exact hstep.frame.1.trans h.running
  · rw [heq]
    exact h.running
  · exact absurd hshutdown (h.commandRx command hc)

theorem preserves (h : KeepsRunningInv thread) (answers : StepAnswers C) :
    StepPreserves ctx thread answers (fun _ => True) (fun s => s.running = true) where
  stopSignals _ := h.running
  cleanup _ _ _ _ _ hs _ _ := hs
  evict _ _ _ _ _ hs _ _ _ := hs
  command command commandRx hrx _ :=
    h.processed answers (by rw [hrx]; exact List.mem_cons_self ..)
  running := by
    show (thread.scheduler.running && !thread.commandTxDropped) = true
    rw [h.running, h.commandTx]
    rfl
  embedding _ := by
    unfold tryProcessEmbeddingRequest
    split
    · exact h.running
    · split <;> exact h.running
  advance _ := h.running
  decode _ _ hs _ _ := hs
  decodeFailed _ _ _ hs := hs

theorem callStep_call (h : KeepsRunningInv thread) (answers : StepAnswers C) :
    (thread.callStep ctx answers).call ≠ .cleanup ∧
    (thread.callStep ctx answers).call ≠ .stopped := by
  have hrunning : (thread.callStep ctx answers).scheduler.running = true :=
    callStep_preserves (h.preserves answers) h.running
  have htop : ∀ s : ContinuousBatchScheduler C, s.running = true →
      SchedulerThread.loopTop s ≠ .cleanup ∧ SchedulerThread.loopTop s ≠ .stopped := by
    intro s hs
    unfold SchedulerThread.loopTop
    rw [if_pos hs]
    exact ⟨by decide, by decide⟩
  revert hrunning
  unfold SchedulerThread.callStep
  split
  · exact fun _ => ⟨by simp, by simp⟩
  · exact fun _ => ⟨by simp, by simp⟩
  · rename_i hcall
    split
    · exact fun _ => ⟨by simp [hcall], by simp [hcall]⟩
    · exact fun _ => ⟨by simp, by simp⟩
  · exact fun _ => ⟨by simp, by simp⟩
  · split
    · exact fun hs => htop _ hs
    · split <;> exact fun hs => htop _ hs
  · rename_i hcall
    exact absurd hcall h.call.1
  · rename_i hcall
    exact absurd hcall h.call.2

theorem step (h : KeepsRunningInv thread) {input : SchedulerInput C} (hkeeps : input.KeepsRunning) :
    KeepsRunningInv (thread.step ctx input) := by
  cases input with
  | arrive params drops =>
    refine ⟨h.running, h.commandTx, fun command hc => ?_, h.call⟩
    rcases List.mem_append.mp hc with hc | hc
    · exact h.commandRx command hc
    · rw [List.mem_singleton.mp hc]
      intro hshutdown
      cases params with
      | shutdown => exact hkeeps rfl
      | continueFromConversationHistory params => cases hshutdown
      | continueFromRawPrompt params => cases hshutdown
      | generateEmbeddingBatch inputBatch normalizationMethod => cases hshutdown
  | dropCommandTx => exact absurd hkeeps id
  | call answers =>
    refine ⟨callStep_preserves (h.preserves answers) h.running, ?_,
      fun command hc => h.commandRx command (callStep_commandRx_subset answers hc),
      h.callStep_call answers⟩
    show (thread.callStep ctx answers).commandTxDropped = false
    rw [(callStep_other ctx thread answers).2]
    exact h.commandTx

end KeepsRunningInv

theorem keepsRunning_reaches {ctx : ContinuousBatchSchedulerContext C}
    {guard : SchedulerThread C → SchedulerInput C → Prop} {thread : SchedulerThread C}
    (hguard : ∀ thread input, guard thread input → input.KeepsRunning)
    (h : Reaches (SchedulerThread.step ctx) guard (.new ctx) thread) : KeepsRunningInv thread := by
  refine h.invariant KeepsRunningInv ?_ fun thread input _ hinv hg => hinv.step (hguard _ _ hg)
  exact ⟨rfl, rfl, fun command hc => absurd hc List.not_mem_nil,
    by simp [SchedulerThread.new], by simp [SchedulerThread.new]⟩

/-! ## Generation channels -/

/-- The channel of an ended generation, if its receiver is alive. -/
def Answered (e : EndedRequest) : Prop :=
  e.generatedTokensTx.receiverDropsAfter = none →
    EndsTerminal GeneratedTokenResult.isDone e.generatedTokensTx.sent

theorem ChannelInv.delivered_answered {r : ContinuousBatchActiveRequest C} (h : ChannelInv r)
    (hcompleted : r.state.phase.isCompleted = true) : Answered r.deliverTerminal := by
  intro halive
  rcases h.delivered with ⟨heq, hgone⟩ | ⟨result, tx', -, hdone, hext, heq⟩
  · rw [heq] at halive
    exact absurd halive (hgone hcompleted)
  · rw [heq]
    exact ⟨_, result, hext.sent, hdone, h.notDone⟩

/-- **Generations are answered** by a call that serves. -/
theorem answeredRule {ctx : ContinuousBatchSchedulerContext C} {thread : SchedulerThread C}
    {answers : StepAnswers C}
    (h : Reaches (SchedulerThread.step ctx) (SchedulerThread.ResultsServed ctx) (.new ctx) thread)
    (hserved : thread.ResultsServed ctx (.call answers)) :
    RequestRule ctx thread answers (fun _ r => ChannelInv r) Answered := by
  have hrunning := keepsRunning_reaches (fun _ _ hg => hg.keepsRunning) h
  refine channelRule_of h (fun r hr hc => ?_)
    fun command commandRx tx' hrx htakes hsent halive => ?_
  · exact hr.delivered_answered (hc.resolve_right hrunning.call.1)
  · rcases hsent with ⟨-, hsilent⟩ | ⟨result, hdone, hsent⟩
    · exact absurd (hserved.1 command commandRx hrx htakes) (hsilent halive)
    · exact ⟨[], result, hsent, hdone, fun e he => absurd he List.not_mem_nil⟩

/-! ## Embedding channels -/

/-- The channels of waiting and of ended embedding requests. -/
structure EmbeddingChannels (s : ContinuousBatchScheduler C) : Prop where
  pending : ∀ request ∈ s.pendingEmbeddingRequests, request.generatedEmbeddingTx.sent = []
  ended : ∀ tx ∈ s.endedEmbeddings, tx.receiverDropsAfter = none →
    EndsTerminal EmbeddingResult.isDone tx.sent

namespace EmbeddingChannels

variable {ctx : ContinuousBatchSchedulerContext C} {s : ContinuousBatchScheduler C}

theorem moved (h : EmbeddingChannels s) {request : GenerateEmbeddingBatchRequest}
    {pending : List GenerateEmbeddingBatchRequest}
    (hpending : s.pendingEmbeddingRequests = request :: pending) {llama : LlamaContext}
    {tx : Sender EmbeddingResult} (htx : tx.receiverDropsAfter = none →
      request.generatedEmbeddingTx.Terminated EmbeddingResult.isDone tx) :
    EmbeddingChannels { s with
      pendingEmbeddingRequests := pending
      llamaContext := llama
      endedEmbeddings := s.endedEmbeddings ++ [tx] } := by
  refine ⟨fun request' hr => h.pending request' ?_, fun tx' htx' halive => ?_⟩
  · rw [hpending]
    exact List.mem_cons_of_mem _ hr
  · rcases List.mem_append.mp htx' with htx' | htx'
    · exact h.ended tx' htx' halive
    · rw [List.mem_singleton.mp htx'] at halive ⊢
      obtain ⟨events, last, hext, hquiet, hlast⟩ := htx halive
      refine ⟨events, last, ?_, hlast, hquiet⟩
      rw [hext.sent, h.pending request (by rw [hpending]; exact List.mem_cons_self ..)]
      rfl

theorem embedded (h : EmbeddingChannels s) {answers : EmbeddingAnswers}
    (hserved : ∀ request pending, s.pendingEmbeddingRequests = request :: pending →
      s.hasActiveRequests = false → EmbeddingServed ctx answers request) :
    EmbeddingChannels (tryProcessEmbeddingRequest ctx answers s) := by
  unfold tryProcessEmbeddingRequest
  split
  · exact h
  · rename_i request pending hpending
    split
    · -- rejected: the only result is terminal
      refine h.moved hpending fun halive => ?_
      cases hsend : request.generatedEmbeddingTx.send
        .embeddingRejectedDueToActiveTokenGeneration with
      | mk delivered tx =>
      have hdone : EmbeddingResult.isDone .embeddingRejectedDueToActiveTokenGeneration = true := rfl
      rw [hsend] at halive
      rcases Sender.send_terminated hsend hdone with hterm | ⟨heq, -, hgone⟩
      · exact hterm
      · exact absurd (heq ▸ halive) hgone
    · rename_i hidle
      have hrequest := hserved request pending hpending (by simpa using hidle)
      refine h.moved hpending fun halive => ?_
      cases hprocess : processEmbeddingBatch ctx answers request s.llamaContext with
      | mk result rest =>
      obtain ⟨tx, llama⟩ := rest
      obtain ⟨hcases, hterm⟩ := processEmbeddingBatch_sent hprocess
      rw [hprocess] at halive
      refine hterm ?_ hrequest
      rcases hcases with hquiet | ⟨events, last, hext, -, -⟩
      · exact hquiet.alive.mp halive
      · exact hext.alive.mp halive

/-- **A call that serves keeps them.** -/
theorem preserves {thread : SchedulerThread C} {answers : StepAnswers C}
    (h : EmbeddingChannels thread.scheduler)
    (hfresh : ∀ command ∈ thread.commandRx, command.Fresh)
    (hserved : thread.ResultsServed ctx (.call answers)) :
    StepPreserves ctx thread answers (fun _ => True) EmbeddingChannels where
  stopSignals _ := ⟨h.pending, h.ended⟩
  cleanup _ _ _ _ _ hs _ _ := ⟨hs.pending, hs.ended⟩
  evict _ _ _ _ _ hs _ _ _ := ⟨hs.pending, hs.ended⟩
  command command commandRx hrx _ := by
    rcases processCommand_cases ctx answers thread.scheduler command with
      ⟨tx, -, -, hstep⟩ | ⟨request, hcommand, heq⟩ | ⟨-, heq⟩
    · obtain ⟨-, hpending, hended⟩ := hstep.frame
      exact ⟨hpending ▸ h.pending, hended ▸ h.ended⟩
    · rw [heq]
      refine ⟨fun request' hr => ?_, h.ended⟩
      rcases List.mem_append.mp hr with hr | hr
      · exact h.pending request' hr
      · rw [List.mem_singleton.mp hr]
        have hcommand' := hfresh command (by rw [hrx]; exact List.mem_cons_self ..)
        rw [hcommand] at hcommand'
        exact hcommand'
    · rw [heq]
      exact ⟨h.pending, h.ended⟩
  running := ⟨h.pending, h.ended⟩
  embedding hcall := h.embedded fun request pending => hserved.2 request pending hcall
  advance _ := ⟨h.pending, h.ended⟩
  decode _ _ hs _ _ := ⟨hs.pending, hs.ended⟩
  decodeFailed _ _ _ hs := ⟨hs.pending, hs.ended⟩

end EmbeddingChannels

/-! ## All channels of a thread -/

/-- Every request that reached the thread is in one place; its channel is open and has nothing
terminal on it, or closed with one terminal result at its end. -/
structure ResultChannels (thread : SchedulerThread C) : Prop where
  accounted : List.Perm (accountedIds thread.scheduler thread.commandRx)
    (List.range thread.nextRequestId)
  waiting : ∀ command ∈ thread.commandRx, command.Fresh
  active : ∀ r ∈ thread.scheduler.activeRequests, ∀ result ∈ r.generatedTokensTx.sent,
    result.isDone = false
  answered : ∀ e ∈ thread.scheduler.ended, Answered e
  embeddings : EmbeddingChannels thread.scheduler

/-- **Every request of a thread that serves its requests is answered exactly once.** -/
theorem resultChannels_reaches {ctx : ContinuousBatchSchedulerContext C} {thread : SchedulerThread C}
    (h : Reaches (SchedulerThread.step ctx) (SchedulerThread.ResultsServed ctx) (.new ctx) thread) :
    ResultChannels thread := by
  have hrequests : EachRequest (fun _ r => ChannelInv r) Answered thread.scheduler :=
    RequestRule.reaches (fun thread answers hreach hserved => answeredRule hreach hserved) h
  refine ⟨accountedIds_reaches (fun _ _ hg => hg.keepsRunning) h, freshChannels_reaches h,
    fun r hr => (hrequests.active r hr).notDone, hrequests.ended, ?_⟩
  refine h.invariant (fun thread => EmbeddingChannels thread.scheduler)
    ⟨fun _ hr => absurd hr List.not_mem_nil, fun _ htx => absurd htx List.not_mem_nil⟩
    fun thread input hreach hinv hserved => ?_
  cases input with
  | arrive params drops => exact hinv
  | dropCommandTx => exact hinv
  | call answers => exact callStep_preserves (hinv.preserves (freshChannels_reaches hreach) hserved) hinv

/-! ## The agent -/

/-- The arbiter takes a request from its channels only while it has a scheduler, and no answer makes
the scheduler end a request in silence. -/
def AgentService.ResultsServed (s : AgentService C) : AgentInput C → Prop
  | .receive => s.task = .select → s.queued ≠ [] → s.continuousBatchArbiterHandle ≠ none
  | .scheduler answers => ∀ handle, s.continuousBatchArbiterHandle = some handle →
    handle.schedulerThread.ResultsServed handle.context (.call answers)
  | _ => True

theorem threadsServed_reaches {s : AgentService C}
    (h : Reaches AgentService.step AgentService.ResultsServed .new s) :
    ThreadsReached (fun ctx thread => SchedulerThread.ResultsServed ctx thread) s :=
  threads_reaches (fun _ _ _ _ hparams => hparams)
    (fun _ handle _ hserved hhandle => hserved handle hhandle) h

theorem AgentStep.droppedRequests {s s' : AgentService C} {input : AgentInput C}
    (hstep : AgentStep s s' input) (hserved : s.ResultsServed input)
    (hrunning : ∀ handle, s.continuousBatchArbiterHandle = some handle →
      handle.schedulerThread.call ≠ .stopped) :
    s'.droppedRequests = s.droppedRequests := by
  cases hstep with
  | unchanged hreq _ => exact hreq.droppedRequests
  | moved hreq _ _ _ _ _ => exact hreq.droppedRequests
  | queued _ _ _ _ hdropped => exact hdropped
  | forwarded _ _ _ _ _ _ _ hdropped => exact hdropped
  | dropped hstopped _ htask _ hlength _ _ =>
    -- there is a handle, and its thread has not stopped
    have hqueued : s.queued ≠ [] := fun hnil => by
      rw [hnil] at hlength
      cases hlength
    obtain ⟨handle, hhandle⟩ := Option.ne_none_iff_exists'.mp (hserved htask hqueued)
    exact absurd (hstopped handle hhandle) (hrunning handle hhandle)
  | taken _ _ _ _ _ _ hdropped => exact hdropped
  | reset _ _ _ _ _ hdropped => exact hdropped
  | spawned _ _ _ _ _ hdropped => exact hdropped
  | called _ _ _ _ _ hdropped => exact hdropped
  | calledJoining _ _ _ _ _ _ hdropped => exact hdropped
  | ended _ _ _ _ _ _ hdropped => exact hdropped

/-- **One terminal result per request.**  In every run of the agent whose steps all serve, no
request is dropped on its way to the scheduler, and every request that reached the scheduler has an
open channel with nothing terminal on it or a closed one that ends with its only terminal result. -/
theorem terminalResult_exactlyOnce {s : AgentService C}
    (h : Reaches AgentService.step AgentService.ResultsServed .new s) :
    s.droppedRequests = [] ∧ ∀ handle, s.continuousBatchArbiterHandle = some handle →
      ResultChannels handle.schedulerThread := by
  refine ⟨?_, fun handle hhandle =>
    resultChannels_reaches ((threadsServed_reaches h).handle handle hhandle)⟩
  refine h.invariant (fun s => s.droppedRequests = []) rfl fun s input hreach hinv hserved => ?_
  have hthreads := threadsServed_reaches hreach
  refine ((step_agentStep hthreads.taken input).droppedRequests hserved
    fun handle hhandle => ?_).trans
    hinv
  exact (keepsRunning_reaches (fun _ _ hg => hg.keepsRunning)
    (hthreads.handle handle hhandle)).call.2

/-- The scheduler has only raw prompts in front of it. -/
def AgentService.onlyRawPrompts (s : AgentService C) : Bool :=
  s.continuousBatchArbiterHandle.all fun handle =>
    (handle.schedulerThread.commandRx.all fun
      | .continueFromRawPrompt _ => true
      | _ => false) && handle.schedulerThread.scheduler.pendingEmbeddingRequests.isEmpty

/-- Raw prompts are served whenever the token classifier can be built. -/
theorem resultsServed_rawPrompts {s : AgentService C} {answers : StepAnswers C} {c : C}
    (hclassifier : answers.acceptance.sampledTokenClassifier = .ok c)
    (hprompts : s.onlyRawPrompts = true) : s.ResultsServed (.scheduler answers) := by
  intro handle hhandle
  unfold AgentService.onlyRawPrompts at hprompts
  rw [hhandle] at hprompts
  simp only [Option.all_some, Bool.and_eq_true, List.all_eq_true, List.isEmpty_iff] at hprompts
  refine ⟨fun command commandRx hrx _ => ?_, fun request pending _ hcons => ?_⟩
  · have hprompt := hprompts.1 command (by rw [hrx]; exact List.mem_cons_self ..)
    cases command with
    | continueFromRawPrompt request => exact ⟨c, hclassifier⟩
    | continueFromConversationHistory request => cases hprompt
    | generateEmbeddingBatch request => cases hprompt
    | shutdown => cases hprompt
  · rw [hprompts.2] at hcons
    cases hcons

/-- Like `smallAnswers`, but every client stops its generation at once. -/
def stoppingAnswers : StepAnswers Unit := { smallAnswers with stop := fun _ => .received }

/-- The agent after it answered a prompt that its client stopped. -/
def answeringAgent : AgentService Unit :=
  AgentService.new.run (applySmallContext ++ [.request queuedPrompt, .receive] ++
    List.replicate 8 (.scheduler stoppingAnswers))

theorem terminalResult_exactlyOnce_stoppedPrompt :
    (answeringAgent.droppedRequests = [] ∧
      ∀ handle, answeringAgent.continuousBatchArbiterHandle = some handle →
        ResultChannels handle.schedulerThread) ∧
    answeringAgent.continuousBatchArbiterHandle.map (fun handle =>
      handle.schedulerThread.scheduler.ended.map (·.generatedTokensTx.sent.map (·.isDone))) =
      some [[true]] := by
  refine ⟨terminalResult_exactlyOnce ?_, by decide⟩
  refine Reaches.along _ ⟨trivial, trivial, trivial, trivial, fun _ _ h => (by cases h), ?_⟩ .start
  exact Along.replicate _ 8 fun k hk => resultsServed_rawPrompts rfl (by revert k; decide)

/-! ## Silent exits -/

/-- The token classifier cannot be built. -/
def classifierFails : StepAnswers Unit :=
  { smallAnswers with
    acceptance := { smallAnswers.acceptance with
      sampledTokenClassifier := .error "no sampled token classifier" } }

/-- llama.cpp fails to decode an embedding batch. -/
def embeddingDecodeFails : StepAnswers Unit :=
  { smallAnswers with
    embedding := { smallAnswers.embedding with decode := fun _ => .error (.other "decode failed" 0) } }

/-- A prompt was accepted while the classifier could not be built. -/
def silentPrompt : SchedulerThread Unit :=
  (SchedulerThread.new smallContext).run smallContext
    (.arrive textPrompt none :: calls 3 classifierFails)

/-- An embedding request was processed while llama.cpp failed. -/
def silentEmbedding : SchedulerThread Unit :=
  (SchedulerThread.new smallContext).run smallContext
    (.arrive embeddingBatch none :: calls 5 embeddingDecodeFails)

/-- Three requests with live receivers whose channels close without any result: one handed to the
arbiter before the first state was applied, a prompt without a classifier, and an embedding request
whose decode failed. -/
theorem terminalResult_silent :
    (AgentService.new.run [.request queuedPrompt, .receive] : AgentService Unit).droppedRequests =
      [queuedPrompt] ∧
    silentPrompt.scheduler.ended.map (·.generatedTokensTx) = [⟨0, [], none⟩] ∧
    silentEmbedding.scheduler.endedEmbeddings = [⟨0, [], none⟩] ∧
    ¬ ∀ s : AgentService Unit, Reaches AgentService.step (fun _ _ => True) .new s →
      s.droppedRequests = [] := by
  refine ⟨by decide, by decide, by decide, fun hserved => ?_⟩
  have h := hserved (AgentService.new.run [.request queuedPrompt, .receive])
    (Reaches.runs _ (fun _ _ _ => trivial) .start)
  exact absurd h (by decide)

end Paddler
