import Paddler.Library.Run
import Paddler.Agent.AssembleBatch
import Paddler.Agent.AcceptRequest

/-!
# The continuous batch scheduler

Model of `ContinuousBatchScheduler::run` and of everything it calls.  `SchedulerThread` is the
thread at one of the calls of its loop, with the command channel in front of it; a step is the
call, with everything the outside answers during it as input (`StepAnswers`), or a command that
arrives on the channel in between.

* `executeOneIteration` — advance, assemble, decode, evict and retry; `decodeLoop` has fuel and
  reports when it runs out of it.
* `decodeLoop_pass` — everything one pass of that loop does.
* `SchedulerThread.step` — one step of the thread.
* `callStep_preserves` — **the invariant rule of the scheduler**: a property of the scheduler
  survives a step if it survives each of the few things a step is made of.
-/

set_option autoImplicit false

namespace Paddler

open VecUpdate

variable {C : Type}

/-! ## Housekeeping -/

/-- An effect of `cleanup_completed_request`. -/
inductive SweepEvent (C : Type) where
  | swapRemoved (index : Nat)
  | kvCacheCleared (sequenceId : Int)
  | delivered (removedRequest : ContinuousBatchActiveRequest C)
  | sequenceIdReleased (sequenceId : Int)

namespace SweepEvent

/-- What the effect does to the scheduler. -/
def apply (scheduler : ContinuousBatchScheduler C) : SweepEvent C → ContinuousBatchScheduler C
  | .swapRemoved index =>
    match swapRemove scheduler.activeRequests index with
    | none => scheduler
    | some (_, activeRequests) => { scheduler with activeRequests := activeRequests }
  | .kvCacheCleared sequenceId =>
    { scheduler with llamaContext := scheduler.llamaContext.clearKvCacheForSequence sequenceId }
  | .delivered removedRequest =>
    { scheduler with ended := scheduler.ended ++ [removedRequest.deliverTerminal] }
  | .sequenceIdReleased sequenceId =>
    { scheduler with sequenceIdPool := scheduler.sequenceIdPool.release sequenceId }

end SweepEvent

/-- A request that the sweep takes out, and where it found it. -/
structure Removal (C : Type) where
  index : Nat
  request : ContinuousBatchActiveRequest C

/-- The effects of `cleanup_completed_request`, in the order of the code: the delivery owns the
sequence guard, so that the id is released when the delivery is dropped. -/
def Removal.events (self : Removal C) : List (SweepEvent C) :=
  [.swapRemoved self.index, .kvCacheCleared self.request.sequenceId, .delivered self.request,
    .sequenceIdReleased self.request.sequenceId]

namespace ContinuousBatchScheduler

def hasActiveRequests (scheduler : ContinuousBatchScheduler C) : Bool :=
  scheduler.activeRequests.any fun request => !request.state.phase.isCompleted

/-- The loop body of `check_stop_signals`. -/
def checkStopSignal (ctx : ContinuousBatchSchedulerContext C) (stop : StopPoll)
    (request : ContinuousBatchActiveRequest C) : ContinuousBatchActiveRequest C :=
  if request.state.phase.isCompleted then request
  else if stop.isStopRequested then
    request.completeWithOutcome (.done (generationSummary ctx request))
  else request

def checkStopSignals (ctx : ContinuousBatchSchedulerContext C) (stop : Nat → StopPoll)
    (scheduler : ContinuousBatchScheduler C) : ContinuousBatchScheduler C :=
  { scheduler with
    activeRequests := scheduler.activeRequests.map fun request =>
      checkStopSignal ctx (stop request.id) request }

def cleanupCompletedRequest (scheduler : ContinuousBatchScheduler C) (index : Nat) :
    ContinuousBatchScheduler C :=
  match swapRemove scheduler.activeRequests index with
  | none => scheduler
  | some (removedRequest, _) =>
    (Removal.events ⟨index, removedRequest⟩).foldl SweepEvent.apply scheduler

/-- The loop of `remove_completed_requests`; one unit of fuel for each turn. -/
def removeCompletedFrom : Nat → Nat → ContinuousBatchScheduler C → ContinuousBatchScheduler C
  | 0, _, scheduler => scheduler
  | fuel + 1, removalIndex, scheduler =>
    match scheduler.activeRequests[removalIndex]? with
    | none => scheduler
    | some request =>
      if request.state.phase.isCompleted then
        removeCompletedFrom fuel removalIndex (scheduler.cleanupCompletedRequest removalIndex)
      else removeCompletedFrom fuel (removalIndex + 1) scheduler

/-- `remove_completed_requests`: every turn removes a request or moves on to the next one. -/
def removeCompletedRequests (scheduler : ContinuousBatchScheduler C) : ContinuousBatchScheduler C :=
  removeCompletedFrom scheduler.activeRequests.length 0 scheduler

/-- The scan of `evict_largest_sequence`, from request `index` on. -/
def largestSequence : List (ContinuousBatchActiveRequest C) → Nat → Option Nat → Int → Option Nat
  | [], _, largestSeqIndex, _ => largestSeqIndex
  | request :: requests, index, largestSeqIndex, largestPosition =>
    if request.state.phase.isCompleted then
      largestSequence requests (index + 1) largestSeqIndex largestPosition
    else if largestPosition < request.state.currentTokenPosition then
      largestSequence requests (index + 1) (some index) request.state.currentTokenPosition
    else largestSequence requests (index + 1) largestSeqIndex largestPosition

def evictLargestSequence (scheduler : ContinuousBatchScheduler C) : ContinuousBatchScheduler C :=
  match largestSequence scheduler.activeRequests 0 none (-1) with
  | none => scheduler
  | some evictionIndex =>
    { scheduler with
      activeRequests := scheduler.activeRequests.modify evictionIndex fun request =>
        request.completeWithOutcome
          (.samplerError "Request evicted due to KV cache pressure") }.cleanupCompletedRequest
      evictionIndex

end ContinuousBatchScheduler

/-! ## One iteration -/

/-- `decode_outcome.rs`. -/
inductive DecodeOutcome where
  | decoded
  | needsEviction
  | aborted
  | errored (error : DecodeError)
  deriving DecidableEq, Repr

def DecodeOutcome.fromDecodeResult : Except DecodeError Unit → DecodeOutcome
  | .ok () => .decoded
  | .error .noKvCacheSlot => .needsEviction
  | .error (.aborted _) | .error .batchInvalid => .aborted
  | .error (.other message processed) => .errored (.other message processed)

/-- How `execute_one_iteration` returned; `failed` is an `Err`, `decoded` carries the batch. -/
inductive IterationExit where
  | emptyBatch
  | decoded (tokens : List BatchToken)
  | evictedAll
  | aborted
  | failed (message : String)
  | outOfFuel
  deriving DecidableEq, Repr

/-- The loop of `execute_one_iteration`, at decode number `pass`. -/
def decodeLoop (ctx : ContinuousBatchSchedulerContext C) (decode : Nat → Except DecodeError Unit) :
    Nat → Nat → ContinuousBatchScheduler C → IterationExit × ContinuousBatchScheduler C
  | 0, _, scheduler => (.outOfFuel, scheduler)
  | fuel + 1, pass, scheduler =>
    let nBatch := ctx.inferenceParameters.nBatch
    if i32Max < max scheduler.activeRequests.length 1 then
      (.failed "max sequence count does not fit in i32", scheduler)
    else
      match BatchPass.new nBatch with
      | .error err => (.failed err, scheduler)
      | .ok batchPass =>
        match assembleBatchPhase nBatch batchPass scheduler.activeRequests with
        | .error err => (.failed err, scheduler)
        | .ok batchPass =>
          if batchPass.isEmpty then (.emptyBatch, scheduler)
          else
            let scheduler := { scheduler with
              llamaContext := scheduler.llamaContext.decode batchPass.batch (decode pass) }
            match DecodeOutcome.fromDecodeResult (decode pass) with
            | .decoded =>
              let committed := commitPhase batchPass
                (scheduler.activeRequests.map (·.recordDecoded batchPass.batch.tokens))
              (if committed.1 then .decoded batchPass.batch.tokens
                else .failed "chunk size does not fit in i32",
                { scheduler with activeRequests := committed.2 })
            | .needsEviction =>
              let evicted := scheduler.evictLargestSequence
              if evicted.activeRequests.isEmpty then (.evictedAll, evicted)
              else decodeLoop ctx decode fuel (pass + 1) evicted
            | .aborted => (.aborted, scheduler)
            | .errored _ => (.failed "decode failed", scheduler)

def advanceGeneratingRequests (ctx : ContinuousBatchSchedulerContext C)
    (sampling : Nat → SamplingAnswers) (scheduler : ContinuousBatchScheduler C) :
    ContinuousBatchScheduler C :=
  { scheduler with
    activeRequests := scheduler.activeRequests.map fun request =>
      advance ctx scheduler.llamaContext (sampling request.id) request }

def executeOneIteration (ctx : ContinuousBatchSchedulerContext C) (sampling : Nat → SamplingAnswers)
    (decode : Nat → Except DecodeError Unit) (scheduler : ContinuousBatchScheduler C) :
    IterationExit × ContinuousBatchScheduler C :=
  decodeLoop ctx decode (scheduler.activeRequests.length + 1) 0
    (advanceGeneratingRequests ctx sampling scheduler)

/-! ## Commands -/

/-- `continuous_batch_scheduler_command.rs`. -/
inductive ContinuousBatchSchedulerCommand where
  | continueFromConversationHistory (request : ContinueFromConversationHistoryRequest)
  | continueFromRawPrompt (request : ContinueFromRawPromptRequest)
  | generateEmbeddingBatch (request : GenerateEmbeddingBatchRequest)
  | shutdown
  deriving DecidableEq, Repr

/-- Everything the outside answers during one step.  `stop` and `sampling` are asked once for each
request, `decode` once for each pass. -/
structure StepAnswers (C : Type) where
  stop : Nat → StopPoll
  sampling : Nat → SamplingAnswers
  decode : Nat → Except DecodeError Unit
  acceptance : AcceptanceAnswers C
  embedding : EmbeddingAnswers

def processCommand (ctx : ContinuousBatchSchedulerContext C) (answers : StepAnswers C)
    (scheduler : ContinuousBatchScheduler C) :
    ContinuousBatchSchedulerCommand → ContinuousBatchScheduler C
  | .continueFromConversationHistory request =>
    acceptConversationHistoryRequest ctx answers.acceptance answers.sampling request scheduler
  | .continueFromRawPrompt request =>
    acceptRawPromptRequest ctx answers.acceptance request scheduler
  | .generateEmbeddingBatch request =>
    { scheduler with
      pendingEmbeddingRequests := scheduler.pendingEmbeddingRequests ++ [request] }
  | .shutdown => { scheduler with running := false }

def tryProcessEmbeddingRequest (ctx : ContinuousBatchSchedulerContext C)
    (answers : EmbeddingAnswers) (scheduler : ContinuousBatchScheduler C) :
    ContinuousBatchScheduler C :=
  match scheduler.pendingEmbeddingRequests with
  | [] => scheduler
  | request :: pending =>
    if scheduler.hasActiveRequests then
      { scheduler with
        pendingEmbeddingRequests := pending
        endedEmbeddings := scheduler.endedEmbeddings ++ [(request.generatedEmbeddingTx.send
          .embeddingRejectedDueToActiveTokenGeneration).2] }
    else
      let processed := processEmbeddingBatch ctx answers request scheduler.llamaContext
      { scheduler with
        pendingEmbeddingRequests := pending
        llamaContext := processed.2.2
        endedEmbeddings := scheduler.endedEmbeddings ++ [processed.2.1] }

/-! ## The thread -/

/-- The next call of `run`. -/
inductive SchedulerCall where
  | checkStopSignals
  | removeCompletedRequests
  | acceptNewCommands
  | tryProcessEmbeddingRequest
  | executeOrReceive
  | cleanup
  | stopped
  deriving DecidableEq, Repr

/-- The scheduler thread: the next call, the scheduler, the commands in its channel, whether the
sending half is gone, and the id the next request's channel gets. -/
structure SchedulerThread (C : Type) where
  call : SchedulerCall
  scheduler : ContinuousBatchScheduler C
  commandRx : List ContinuousBatchSchedulerCommand
  commandTxDropped : Bool
  nextRequestId : Nat

/-- A command before its channel exists. -/
inductive CommandParams where
  | continueFromConversationHistory (params : ContinueFromConversationHistoryParams)
  | continueFromRawPrompt (params : ContinueFromRawPromptParams)
  | generateEmbeddingBatch (inputBatch : List EmbeddingInputDocument)
      (normalizationMethod : EmbeddingNormalizationMethod)
  | shutdown
  deriving DecidableEq, Repr

/-- The command with a fresh channel. -/
def CommandParams.command (receiverDropsAfter : Option Nat) (id : Nat) :
    CommandParams → ContinuousBatchSchedulerCommand
  | .continueFromConversationHistory params =>
    .continueFromConversationHistory ⟨Sender.new id receiverDropsAfter, params⟩
  | .continueFromRawPrompt params =>
    .continueFromRawPrompt ⟨Sender.new id receiverDropsAfter, params⟩
  | .generateEmbeddingBatch inputBatch normalizationMethod =>
    .generateEmbeddingBatch ⟨Sender.new id receiverDropsAfter, inputBatch, normalizationMethod⟩
  | .shutdown => .shutdown

/-- What can happen next: a command arrives, the sending half of the channel is dropped, or the
thread makes its next call. -/
inductive SchedulerInput (C : Type) where
  | arrive (params : CommandParams) (receiverDropsAfter : Option Nat)
  | dropCommandTx
  | call (answers : StepAnswers C)

namespace SchedulerThread

/-- `ContinuousBatchScheduler::new`; the cache is empty after the warm-up. -/
def new (ctx : ContinuousBatchSchedulerContext C) : SchedulerThread C :=
  { call := .checkStopSignals
    scheduler :=
      { activeRequests := []
        llamaContext := ⟨[], .nothing⟩
        pendingEmbeddingRequests := []
        running := true
        sequenceIdPool := SequenceIdPool.new ctx.desiredSlotsTotal
        ended := []
        endedEmbeddings := [] }
    commandRx := []
    commandTxDropped := false
    nextRequestId := 0 }

/-- The top of `while self.running`. -/
def loopTop (scheduler : ContinuousBatchScheduler C) : SchedulerCall :=
  if scheduler.running then .checkStopSignals else .cleanup

/-- One call of `run`. -/
def callStep (ctx : ContinuousBatchSchedulerContext C) (thread : SchedulerThread C)
    (answers : StepAnswers C) : SchedulerThread C :=
  match thread.call with
  | .checkStopSignals =>
    { thread with
      call := .removeCompletedRequests
      scheduler := thread.scheduler.checkStopSignals ctx answers.stop }
  | .removeCompletedRequests =>
    { thread with
      call := .acceptNewCommands
      scheduler := thread.scheduler.removeCompletedRequests }
  | .acceptNewCommands =>
    -- one turn of the loop of `accept_new_commands`
    match thread.commandRx with
    | command :: commandRx =>
      { thread with
        commandRx := commandRx
        scheduler := processCommand ctx answers thread.scheduler command }
    | [] =>
      { thread with
        call := .tryProcessEmbeddingRequest
        scheduler := { thread.scheduler with
          running := thread.scheduler.running && !thread.commandTxDropped } }
  | .tryProcessEmbeddingRequest =>
    { thread with
      call := .executeOrReceive
      scheduler := tryProcessEmbeddingRequest ctx answers.embedding thread.scheduler }
  | .executeOrReceive =>
    if thread.scheduler.hasActiveRequests then
      let scheduler := (executeOneIteration ctx answers.sampling answers.decode thread.scheduler).2
      { thread with
        call := loopTop scheduler
        scheduler := scheduler }
    else
      match thread.commandRx with
      | command :: commandRx =>
        let scheduler := processCommand ctx answers thread.scheduler command
        { thread with
          call := loopTop scheduler
          commandRx := commandRx
          scheduler := scheduler }
      | [] =>
        let scheduler := { thread.scheduler with
          running := thread.scheduler.running && !thread.commandTxDropped }
        { thread with
          call := loopTop scheduler
          scheduler := scheduler }
  | .cleanup =>
    if thread.scheduler.activeRequests.isEmpty then { thread with call := .stopped }
    else { thread with scheduler := thread.scheduler.cleanupCompletedRequest 0 }
  | .stopped => thread

/-- One step of the thread and its channel. -/
def step (ctx : ContinuousBatchSchedulerContext C) (thread : SchedulerThread C) :
    SchedulerInput C → SchedulerThread C
  | .arrive params receiverDropsAfter =>
    { thread with
      commandRx := thread.commandRx ++ [params.command receiverDropsAfter thread.nextRequestId]
      nextRequestId := thread.nextRequestId + 1 }
  | .dropCommandTx => { thread with commandTxDropped := true }
  | .call answers => thread.callStep ctx answers

/-- A whole run. -/
def run (ctx : ContinuousBatchSchedulerContext C) (thread : SchedulerThread C)
    (inputs : List (SchedulerInput C)) : SchedulerThread C :=
  inputs.foldl (step ctx) thread

end SchedulerThread

/-! ## A small agent -/

/-- A classifier for which every token is a visible piece of content. -/
def echoClassifier : SampledTokenClassifier Unit where
  ingest classifier token := (.ok [⟨.content token, "a", "a"⟩], classifier)
  usage _ := TokenUsage.new
  currentSection _ := .content
  recordPromptTokens classifier _ := classifier
  ingestPromptTokens classifier _ := classifier

/-- Tool calls are not used by the small agent. -/
def noToolCalls : ToolCallApi where
  schemaToValue schema := .ok schema
  validatorFor _ := .ok ()
  iterErrors _ _ := []
  toolToValue tool := .ok tool.name
  toolsToString _ := .ok "[]"
  parseChatMessage _ _ := .ok (.recognized [])
  debugStr text := text

/-- Two slots, batches of four tokens, token 0 ends a generation. -/
def smallContext : ContinuousBatchSchedulerContext Unit where
  agentName := none
  hasChatTemplateRenderer := true
  desiredSlotsTotal := 2
  desiredSlotsTotal_le := by decide
  inferenceParameters := ⟨4, 1, true, 512, .mean⟩
  hasMultimodalContext := true
  isEogToken token := token == 0
  classifier := echoClassifier
  toolCallApi := noToolCalls

/-- Every call succeeds: prompts have one token, token 7 is sampled, two image tokens are
evaluated. -/
def smallAnswers : StepAnswers Unit where
  stop _ := .empty
  sampling _ := ⟨true, true, true, some 7, true, none⟩
  decode _ := .ok ()
  acceptance :=
    { jsonSchemaToGrammar := .ok
      decodeImage := fun _ _ => .ok ⟨[]⟩
      mtmdDefaultMarker := .ok "<image>"
      render := fun _ _ _ _ => .ok "prompt"
      strToToken := fun _ => .ok [1]
      grammarLlamaSampler := fun _ => .ok ()
      sampledTokenClassifier := .ok ()
      mtmdBitmapFromBuffer := fun _ => .ok ()
      mtmdTokenize := fun _ _ => .ok ()
      evalMultimodalChunks := .ok 2
      evalClassifier := id
      evalWritten := [0, 1] }
  embedding :=
    { strToToken := fun _ => .ok [1]
      stop := fun _ => .empty
      decode := fun _ => .ok ()
      embeddingsSeqIth := fun _ _ => .ok []
      l2 := id
      rmsNorm := fun values _ => values }

/-- A text prompt. -/
def textPrompt : CommandParams := .continueFromRawPrompt ⟨none, 8, "prompt"⟩

/-- A conversation with one image. -/
def imagePrompt : CommandParams :=
  .continueFromConversationHistory
    ⟨true, ⟨[⟨.parts [.imageUrl ⟨"data:"⟩], "user"⟩]⟩, false, none, 8, false, []⟩

/-- One document to embed. -/
def embeddingBatch : CommandParams := .generateEmbeddingBatch [⟨"text", "document"⟩] .none

/-- `n` calls of the scheduler thread with the same answers. -/
def calls (n : Nat) (answers : StepAnswers Unit) : List (SchedulerInput Unit) :=
  List.replicate n (.call answers)

/-! ## Commands, case by case -/

namespace ContinuousBatchSchedulerCommand

/-- The result channel of a generation command. -/
def generatedTokensTx : ContinuousBatchSchedulerCommand → Option (Sender GeneratedTokenResult)
  | continueFromConversationHistory request => some request.generatedTokensTx
  | continueFromRawPrompt request => some request.generatedTokensTx
  | generateEmbeddingBatch _ | shutdown => none

/-- The id of the request a command carries. -/
def requestId : ContinuousBatchSchedulerCommand → Option Nat
  | continueFromConversationHistory request => some request.generatedTokensTx.id
  | continueFromRawPrompt request => some request.generatedTokensTx.id
  | generateEmbeddingBatch request => some request.generatedEmbeddingTx.id
  | shutdown => none

/-- The `max_tokens` of a generation command. -/
def maxTokens : ContinuousBatchSchedulerCommand → Option Int
  | continueFromConversationHistory request => some request.params.maxTokens
  | continueFromRawPrompt request => some request.params.maxTokens
  | generateEmbeddingBatch _ | shutdown => none

/-- The text prompt that a command is accepted with. -/
def textPrompt (ctx : ContinuousBatchSchedulerContext C) (answers : StepAnswers C) :
    ContinuousBatchSchedulerCommand → Option String
  | continueFromConversationHistory request =>
    conversationTextPrompt ctx answers.acceptance request
  | continueFromRawPrompt request => some request.params.rawPrompt
  | generateEmbeddingBatch _ | shutdown => none

/-- No answer makes the command end without a result. -/
def Served (ctx : ContinuousBatchSchedulerContext C) (answers : StepAnswers C) :
    ContinuousBatchSchedulerCommand → Prop
  | continueFromConversationHistory request =>
    ConversationServed ctx answers.acceptance request.params
  | continueFromRawPrompt _ => ∃ c, answers.acceptance.sampledTokenClassifier = .ok c
  | generateEmbeddingBatch _ | shutdown => True

/-- The command is a multimodal prompt that gets as far as the harvest. -/
def Harvests (ctx : ContinuousBatchSchedulerContext C) (answers : StepAnswers C)
    (s : ContinuousBatchScheduler C) : ContinuousBatchSchedulerCommand → Prop
  | continueFromConversationHistory request => harvestsFor ctx answers.acceptance request s = true
  | _ => False

end ContinuousBatchSchedulerCommand

/-- **What a command does**: an acceptance, a queued embedding request, or the shutdown flag. -/
theorem processCommand_cases (ctx : ContinuousBatchSchedulerContext C) (answers : StepAnswers C)
    (s : ContinuousBatchScheduler C) (command : ContinuousBatchSchedulerCommand) :
    (∃ tx, command.generatedTokensTx = some tx ∧ command.requestId = some tx.id ∧
      AcceptStep ctx answers.acceptance answers.sampling (command.Served ctx answers)
        (command.Harvests ctx answers s) tx (command.textPrompt ctx answers) command.maxTokens s
        (processCommand ctx answers s command)) ∨
    (∃ request, command = .generateEmbeddingBatch request ∧ processCommand ctx answers s command =
      { s with pendingEmbeddingRequests := s.pendingEmbeddingRequests ++ [request] }) ∨
    (command = .shutdown ∧ processCommand ctx answers s command = { s with running := false }) := by
  cases command with
  | continueFromConversationHistory request =>
    exact Or.inl ⟨_, rfl, rfl, acceptConversationHistoryRequest_step ctx _ _ request s⟩
  | continueFromRawPrompt request =>
    exact Or.inl ⟨_, rfl, rfl, acceptRawPromptRequest_step ctx _ _ request s⟩
  | generateEmbeddingBatch request => exact Or.inr (Or.inl ⟨request, rfl, rfl⟩)
  | shutdown => exact Or.inr (Or.inr ⟨rfl, rfl⟩)

/-! ## What a step is made of -/

/-- No request has a logits row waiting to be sampled. -/
def NoSampleable (s : ContinuousBatchScheduler C) : Prop :=
  ∀ r ∈ s.activeRequests, r.sampleableBatchIndex = none

/-- The scheduler after `index` was swapped out and cleaned up. -/
def ContinuousBatchScheduler.cleaned (s : ContinuousBatchScheduler C)
    (r : ContinuousBatchActiveRequest C) (rest : List (ContinuousBatchActiveRequest C)) :
    ContinuousBatchScheduler C :=
  { s with
    activeRequests := rest
    llamaContext := s.llamaContext.clearKvCacheForSequence r.sequenceId
    sequenceIdPool := s.sequenceIdPool.release r.sequenceId
    ended := s.ended ++ [r.deliverTerminal] }

/-- The scheduler after the assembled batch was decoded and committed. -/
def ContinuousBatchScheduler.decodedWith (s : ContinuousBatchScheduler C) (nBatch : Nat) :
    ContinuousBatchScheduler C :=
  { s with
    llamaContext := s.llamaContext.decode (assembled nBatch s.activeRequests).batch (.ok ())
    activeRequests := (commitPhase (assembled nBatch s.activeRequests) (s.activeRequests.map
      (·.recordDecoded (assembled nBatch s.activeRequests).batch.tokens))).2 }

/-- The scheduler after the assembled batch was handed to a decode that failed. -/
def ContinuousBatchScheduler.failedWith (s : ContinuousBatchScheduler C) (nBatch : Nat)
    (error : DecodeError) : ContinuousBatchScheduler C :=
  { s with
    llamaContext := s.llamaContext.decode (assembled nBatch s.activeRequests).batch (.error error) }

/-- How the iteration returns after a decode that did not fail. -/
def ContinuousBatchScheduler.decodedExit (s : ContinuousBatchScheduler C) (nBatch : Nat) :
    IterationExit :=
  if (commitPhase (assembled nBatch s.activeRequests) (s.activeRequests.map
      (·.recordDecoded (assembled nBatch s.activeRequests).batch.tokens))).1 then
    .decoded (assembled nBatch s.activeRequests).batch.tokens
  else .failed "chunk size does not fit in i32"

/-- The next call takes a command from the channel. -/
def SchedulerThread.TakesCommand (thread : SchedulerThread C) : Prop :=
  thread.call = .acceptNewCommands ∨
    (thread.call = .executeOrReceive ∧ thread.scheduler.hasActiveRequests = false)

instance (thread : SchedulerThread C) : Decidable thread.TakesCommand :=
  inferInstanceAs (Decidable (_ ∨ _))

/-- `P` survives each thing the next call of the thread is made of, in states that satisfy `B`. -/
structure StepPreserves (ctx : ContinuousBatchSchedulerContext C) (thread : SchedulerThread C)
    (answers : StepAnswers C) (B P : ContinuousBatchScheduler C → Prop) : Prop where
  stopSignals : thread.call = .checkStopSignals →
    P (thread.scheduler.checkStopSignals ctx answers.stop)
  cleanup : ∀ s index r rest, B s → P s → swapRemove s.activeRequests index = some (r, rest) →
    (r.state.phase.isCompleted = true ∨ thread.call = .cleanup) → P (s.cleaned r rest)
  evict : ∀ s index r result, B s → P s → s.activeRequests[index]? = some r →
    r.state.phase.isCompleted = false → result.isFailure = true →
    P { s with activeRequests := s.activeRequests.modify index (·.completeWithOutcome result) }
  command : ∀ command commandRx, thread.commandRx = command :: commandRx → thread.TakesCommand →
    P (processCommand ctx answers thread.scheduler command)
  running : P { thread.scheduler with
    running := thread.scheduler.running && !thread.commandTxDropped }
  embedding : thread.call = .tryProcessEmbeddingRequest →
    P (tryProcessEmbeddingRequest ctx answers.embedding thread.scheduler)
  advance : thread.call = .executeOrReceive →
    P (advanceGeneratingRequests ctx answers.sampling thread.scheduler)
  decode : ∀ s, B s → P s → NoSampleable s → ctx.inferenceParameters.nBatch ≤ i32Max →
    P (s.decodedWith ctx.inferenceParameters.nBatch)
  decodeFailed : ∀ s error, B s → P s → P (s.failedWith ctx.inferenceParameters.nBatch error)

theorem Removal.events_foldl {s : ContinuousBatchScheduler C} {index : Nat}
    {r : ContinuousBatchActiveRequest C} {rest : List (ContinuousBatchActiveRequest C)}
    (h : swapRemove s.activeRequests index = some (r, rest)) :
    (Removal.events ⟨index, r⟩).foldl SweepEvent.apply s = s.cleaned r rest := by
  simp only [Removal.events, List.foldl_cons, List.foldl_nil, SweepEvent.apply, h]
  rfl

theorem cleanupCompletedRequest_of_some {s : ContinuousBatchScheduler C} {index : Nat}
    {r : ContinuousBatchActiveRequest C} {rest : List (ContinuousBatchActiveRequest C)}
    (h : swapRemove s.activeRequests index = some (r, rest)) :
    s.cleanupCompletedRequest index = s.cleaned r rest := by
  unfold ContinuousBatchScheduler.cleanupCompletedRequest
  rw [h]
  exact Removal.events_foldl h

/-- The scan returns a request that is not completed, if it returns anything new. -/
theorem largestSequence_some :
    ∀ {rs : List (ContinuousBatchActiveRequest C)} {k : Nat} {best : Option Nat} {position : Int}
      {index : Nat}, ContinuousBatchScheduler.largestSequence rs k best position = some index →
      best = some index ∨ ∃ r, k ≤ index ∧ rs[index - k]? = some r ∧
        r.state.phase.isCompleted = false
  | [], _, _, _, _, h => Or.inl h
  | r :: rs, k, best, position, index, h => by
    have tail : (∃ r', k + 1 ≤ index ∧ rs[index - (k + 1)]? = some r' ∧
        r'.state.phase.isCompleted = false) →
        ∃ r', k ≤ index ∧ (r :: rs)[index - k]? = some r' ∧ r'.state.phase.isCompleted = false := by
      rintro ⟨r', hle, hget, hc⟩
      refine ⟨r', by omega, ?_, hc⟩
      rw [show index - k = (index - (k + 1)) + 1 by omega, List.getElem?_cons_succ]
      exact hget
    unfold ContinuousBatchScheduler.largestSequence at h
    split at h
    · rcases largestSequence_some h with hb | ht
      · exact Or.inl hb
      · exact Or.inr (tail ht)
    · rename_i hc
      split at h
      · rcases largestSequence_some h with hb | ht
        · cases hb
          exact Or.inr ⟨r, Nat.le_refl _, by simp, by simpa using hc⟩
        · exact Or.inr (tail ht)
      · rcases largestSequence_some h with hb | ht
        · exact Or.inl hb
        · exact Or.inr (tail ht)

/-- `evict_largest_sequence` does nothing, or completes one request and cleans it up. -/
theorem evictLargestSequence_cases (s : ContinuousBatchScheduler C) :
    (ContinuousBatchScheduler.largestSequence s.activeRequests 0 none (-1) = none ∧
      s.evictLargestSequence = s) ∨
    ∃ index r result rest, s.activeRequests[index]? = some r ∧
      r.state.phase.isCompleted = false ∧ result.isFailure = true ∧
      swapRemove (s.activeRequests.modify index (·.completeWithOutcome result)) index =
        some (r.completeWithOutcome result, rest) ∧
      s.evictLargestSequence = { s with
        activeRequests := s.activeRequests.modify index (·.completeWithOutcome result)
        }.cleaned (r.completeWithOutcome result) rest := by
  unfold ContinuousBatchScheduler.evictLargestSequence
  split
  · rename_i hnone
    exact Or.inl ⟨hnone, rfl⟩
  · rename_i index hsome
    right
    rcases largestSequence_some hsome with hb | ⟨r, -, hget, hc⟩
    · cases hb
    · rw [Nat.sub_zero] at hget
      obtain ⟨hlt, hr⟩ := List.getElem?_eq_some_iff.mp hget
      have hlen : index < (s.activeRequests.modify index (·.completeWithOutcome
          (.samplerError "Request evicted due to KV cache pressure"))).length := by
        rwa [List.length_modify]
      obtain ⟨x, rest, hswap, hx⟩ := swapRemove_isSome hlen
      have hxr : x = r.completeWithOutcome
          (.samplerError "Request evicted due to KV cache pressure") := by
        rw [List.getElem?_eq_getElem hlen, List.getElem_modify] at hx
        simpa [hr] using hx.symm
      subst hxr
      exact ⟨index, r, _, rest, hget, hc, rfl, hswap, cleanupCompletedRequest_of_some hswap⟩

theorem completeWithOutcome_sampleable (r : ContinuousBatchActiveRequest C)
    (result : GeneratedTokenResult) (h : r.sampleableBatchIndex = none) :
    (r.completeWithOutcome result).sampleableBatchIndex = none := by
  unfold ContinuousBatchActiveRequest.completeWithOutcome ContinuousBatchRequestState.markCompleted
  split
  · exact h
  · rfl

theorem NoSampleable.evict {s : ContinuousBatchScheduler C} (h : NoSampleable s) :
    NoSampleable s.evictLargestSequence := by
  rcases evictLargestSequence_cases s with ⟨-, heq⟩ | ⟨index, r, result, rest, -, -, -, hswap, heq⟩
  · rwa [heq]
  · rw [heq]
    intro r' hr'
    have hmem : r' ∈ s.activeRequests.modify index (·.completeWithOutcome result) :=
      (swapRemove_perm hswap).mem_iff.mpr (List.mem_cons_of_mem _ hr')
    obtain ⟨i, hi, rfl⟩ := List.getElem_of_mem hmem
    rw [List.getElem_modify]
    split
    · exact completeWithOutcome_sampleable _ _ (h _ (List.getElem_mem _))
    · exact h _ (List.getElem_mem _)

theorem noSampleable_advance (ctx : ContinuousBatchSchedulerContext C)
    (sampling : Nat → SamplingAnswers) (s : ContinuousBatchScheduler C) :
    NoSampleable (advanceGeneratingRequests ctx sampling s) := by
  intro r' hr'
  obtain ⟨r, -, rfl⟩ := List.mem_map.mp hr'
  have hstep := advance_samplingStep ctx s.llamaContext (sampling r.id) r
  revert hstep
  generalize advance ctx s.llamaContext (sampling r.id) r = r'
  intro hstep
  unfold ContinuousBatchActiveRequest.sampleableBatchIndex
  cases hstep with
  | idle h => exact h
  | completed sampled _ _ hphase => rw [hphase]
  | stored _ _ hphase hpending => rw [hphase, hpending]

variable {ctx : ContinuousBatchSchedulerContext C} {thread : SchedulerThread C}
  {answers : StepAnswers C} {P : ContinuousBatchScheduler C → Prop}

theorem StepPreserves.evicted (h : StepPreserves ctx thread answers (fun _ => True) P)
    {s : ContinuousBatchScheduler C} (hs : P s) : P s.evictLargestSequence := by
  rcases evictLargestSequence_cases s with
    ⟨-, heq⟩ | ⟨index, r, result, rest, hget, hc, hdone, hswap, heq⟩
  · rwa [heq]
  · rw [heq]
    refine h.cleanup _ index _ rest trivial
      (h.evict s index r result trivial hs hget hc hdone) hswap
      (Or.inl (r.completeWithOutcome_isCompleted result))

theorem StepPreserves.removeCompleted (h : StepPreserves ctx thread answers (fun _ => True) P) :
    ∀ (fuel index : Nat) {s : ContinuousBatchScheduler C}, P s →
      P (ContinuousBatchScheduler.removeCompletedFrom fuel index s)
  | 0, _, _, hs => hs
  | fuel + 1, index, s, hs => by
    unfold ContinuousBatchScheduler.removeCompletedFrom
    split
    · exact hs
    · rename_i r hget
      split
      · rename_i hc
        obtain ⟨hlt, hr⟩ := List.getElem?_eq_some_iff.mp hget
        obtain ⟨x, rest, hswap, hx⟩ := swapRemove_isSome hlt
        rw [hget] at hx
        cases hx
        rw [cleanupCompletedRequest_of_some hswap]
        exact h.removeCompleted fuel index (h.cleanup s index r rest trivial hs hswap (Or.inl hc))
      · exact h.removeCompleted fuel (index + 1) hs

/-- The batch that a pass over `rs` assembles, or the error with which none is built. -/
def assemblePass (nBatch : Nat) (rs : List (ContinuousBatchActiveRequest C)) :
    Except String BatchPass :=
  if i32Max < max rs.length 1 then .error "max sequence count does not fit in i32"
  else
    match BatchPass.new nBatch with
    | .error err => .error err
    | .ok batchPass => assembleBatchPhase nBatch batchPass rs

/-- A batch is built of the requests of `s`, and there is something in it. -/
structure ContinuousBatchScheduler.Assembles (s : ContinuousBatchScheduler C) (nBatch : Nat) :
    Prop where
  fits : nBatch ≤ i32Max
  built : assemblePass nBatch s.activeRequests = .ok (assembled nBatch s.activeRequests)
  nonempty : ¬ (assembled nBatch s.activeRequests).isEmpty = true

/-- **Everything one pass of the loop does** with the answer of the decoder; `retry` is the loop
after an eviction. -/
inductive DecodePass (ctx : ContinuousBatchSchedulerContext C) (answer : Except DecodeError Unit)
    (s : ContinuousBatchScheduler C) (retry : IterationExit × ContinuousBatchScheduler C) :
    IterationExit × ContinuousBatchScheduler C → Prop where
  | notBuilt (message : String) :
      i32Max < max s.activeRequests.length 1 ∨ ¬ ctx.inferenceParameters.nBatch ≤ i32Max →
      assemblePass ctx.inferenceParameters.nBatch s.activeRequests = .error message →
      DecodePass ctx answer s retry (.failed message, s)
  | emptyBatch : (assembled ctx.inferenceParameters.nBatch s.activeRequests).isEmpty = true →
      assemblePass ctx.inferenceParameters.nBatch s.activeRequests =
        .ok (assembled ctx.inferenceParameters.nBatch s.activeRequests) →
      DecodePass ctx answer s retry (.emptyBatch, s)
  | decoded : s.Assembles ctx.inferenceParameters.nBatch → answer = .ok () →
      DecodePass ctx answer s retry (s.decodedExit ctx.inferenceParameters.nBatch,
        s.decodedWith ctx.inferenceParameters.nBatch)
  | evictedAll : s.Assembles ctx.inferenceParameters.nBatch → answer = .error .noKvCacheSlot →
      s.evictLargestSequence.activeRequests = [] →
      DecodePass ctx answer s retry (.evictedAll, s.evictLargestSequence)
  | retries : s.Assembles ctx.inferenceParameters.nBatch → answer = .error .noKvCacheSlot →
      DecodePass ctx answer s retry retry
  | aborted (error : DecodeError) : s.Assembles ctx.inferenceParameters.nBatch →
      answer = .error error → DecodeOutcome.fromDecodeResult answer = .aborted →
      DecodePass ctx answer s retry (.aborted, s.failedWith ctx.inferenceParameters.nBatch error)
  | errored (message : String) (processed : Nat) : s.Assembles ctx.inferenceParameters.nBatch →
      answer = .error (.other message processed) →
      DecodePass ctx answer s retry (.failed "decode failed",
        s.failedWith ctx.inferenceParameters.nBatch (.other message processed))

/-- Inversion of a pass. -/
theorem decodeLoop_pass (decode : Nat → Except DecodeError Unit) (fuel pass : Nat)
    (s : ContinuousBatchScheduler C) :
    DecodePass ctx (decode pass) s (decodeLoop ctx decode fuel (pass + 1) s.evictLargestSequence)
      (decodeLoop ctx decode (fuel + 1) pass s) := by
  rw [decodeLoop]
  dsimp only
  split
  · rename_i hlarge
    exact .notBuilt _ (Or.inl hlarge) (if_pos hlarge)
  · rename_i hlarge
    by_cases hn : ctx.inferenceParameters.nBatch ≤ i32Max
    · have hassembled := assemble_eq (batchPass_new_ok hn) s.activeRequests
      have hbuilt : assemblePass ctx.inferenceParameters.nBatch s.activeRequests =
          .ok (assembled ctx.inferenceParameters.nBatch s.activeRequests) := by
        rw [assemblePass, if_neg hlarge, batchPass_new_ok hn]
        exact hassembled
      rw [batchPass_new_ok hn]
      dsimp only
      rw [hassembled]
      dsimp only
      split
      · exact .emptyBatch ‹_› hbuilt
      · rename_i hempty
        have hassembles : s.Assembles ctx.inferenceParameters.nBatch := ⟨hn, hbuilt, hempty⟩
        cases hdecode : decode pass with
        | ok u => exact .decoded hassembles rfl
        | error err =>
          cases err with
          | noKvCacheSlot =>
            dsimp only [DecodeOutcome.fromDecodeResult]
            rw [LlamaContext.decode_noKvCacheSlot]
            split
            · rename_i hnone
              exact .evictedAll hassembles rfl (List.isEmpty_iff.mp hnone)
            · exact .retries hassembles rfl
          | aborted processed => exact .aborted _ hassembles rfl rfl
          | batchInvalid => exact .aborted _ hassembles rfl rfl
          | other message processed => exact .errored message processed hassembles rfl
    · rw [batchPass_new_error hn]
      refine .notBuilt _ (Or.inr hn) ?_
      rw [assemblePass, if_neg hlarge, batchPass_new_error hn]

/-- What survives an eviction and a decode, successful or not, survives the loop. -/
theorem decodeLoop_induct (hevict : ∀ s, P s → P s.evictLargestSequence)
    (hdecode : ∀ s, P s → NoSampleable s → ctx.inferenceParameters.nBatch ≤ i32Max →
      P (s.decodedWith ctx.inferenceParameters.nBatch))
    (hfailed : ∀ s error, P s → P (s.failedWith ctx.inferenceParameters.nBatch error))
    (decode : Nat → Except DecodeError Unit) :
    ∀ (fuel pass : Nat) {s : ContinuousBatchScheduler C}, P s → NoSampleable s →
      P (decodeLoop ctx decode fuel pass s).2
  | 0, _, _, hs, _ => hs
  | fuel + 1, pass, s, hs, hno => by
    have hretry :=
      decodeLoop_induct hevict hdecode hfailed decode fuel (pass + 1) (hevict s hs) hno.evict
    have hpass : DecodePass ctx _ s _ _ := decodeLoop_pass decode fuel pass s
    generalize decodeLoop ctx decode (fuel + 1) pass s = result at hpass ⊢
    cases hpass with
    | notBuilt | emptyBatch => exact hs
    | aborted | errored => exact hfailed s _ hs
    | decoded hassembles => exact hdecode s hs hno hassembles.fits
    | evictedAll => exact hevict s hs
    | retries => exact hretry

/-- **The invariant rule of the scheduler thread.** -/
theorem callStep_preserves (h : StepPreserves ctx thread answers (fun _ => True) P)
    (hs : P thread.scheduler) : P (thread.callStep ctx answers).scheduler := by
  unfold SchedulerThread.callStep
  split
  · exact h.stopSignals ‹_›
  · exact h.removeCompleted _ _ hs
  · rename_i hcall
    split
    · rename_i command commandRx hrx
      exact h.command command commandRx hrx (Or.inl hcall)
    · exact h.running
  · exact h.embedding ‹_›
  · rename_i hcall
    split
    · exact decodeLoop_induct (fun s hs => h.evicted hs)
        (fun s hs hno hn => h.decode s trivial hs hno hn)
        (fun s error hs => h.decodeFailed s error trivial hs) answers.decode _ _ (h.advance hcall)
        (noSampleable_advance ctx _ _)
    · rename_i hidle
      split
      · rename_i command commandRx hrx
        exact h.command command commandRx hrx (Or.inr ⟨hcall, by simpa using hidle⟩)
      · exact h.running
  · rename_i hcall
    split
    · exact hs
    · rename_i hne
      have hlt : 0 < thread.scheduler.activeRequests.length := by
        rw [List.length_pos_iff]
        simpa using hne
      obtain ⟨x, rest, hswap, -⟩ := swapRemove_isSome hlt
      dsimp only
      rw [cleanupCompletedRequest_of_some hswap]
      exact h.cleanup _ 0 x rest trivial hs hswap (Or.inr hcall)
  · exact hs

theorem callStep_command {command : ContinuousBatchSchedulerCommand}
    {commandRx : List ContinuousBatchSchedulerCommand}
    (hrx : thread.commandRx = command :: commandRx) (htakes : thread.TakesCommand) :
    (thread.callStep ctx answers).scheduler = processCommand ctx answers thread.scheduler command ∧
      (thread.callStep ctx answers).commandRx = commandRx := by
  unfold SchedulerThread.callStep
  rcases htakes with hcall | ⟨hcall, hidle⟩
  · simp [hcall, hrx]
  · simp [hcall, hidle, hrx]

/-- A call that takes no command leaves the channel alone. -/
theorem callStep_noCommand (h : thread.commandRx = [] ∨ ¬ thread.TakesCommand) :
    (thread.callStep ctx answers).commandRx = thread.commandRx := by
  unfold SchedulerThread.TakesCommand at h
  unfold SchedulerThread.callStep
  split
  · rfl
  · rfl
  · rename_i hcall
    split
    · rename_i hrx
      simp [hrx, hcall] at h
    · rfl
  · rfl
  · rename_i hcall
    split
    · rfl
    · rename_i hidle
      split
      · rename_i hrx
        simp [hrx, hcall, hidle] at h
      · rfl
  · split <;> rfl
  · rfl

/-- A call does not touch what the channel's other end owns. -/
theorem callStep_other (ctx : ContinuousBatchSchedulerContext C) (thread : SchedulerThread C)
    (answers : StepAnswers C) :
    (thread.callStep ctx answers).nextRequestId = thread.nextRequestId ∧
      (thread.callStep ctx answers).commandTxDropped = thread.commandTxDropped := by
  unfold SchedulerThread.callStep
  split
  · exact ⟨rfl, rfl⟩
  · exact ⟨rfl, rfl⟩
  · split <;> exact ⟨rfl, rfl⟩
  · exact ⟨rfl, rfl⟩
  · split
    · exact ⟨rfl, rfl⟩
    · split <;> exact ⟨rfl, rfl⟩
  · split <;> exact ⟨rfl, rfl⟩
  · exact ⟨rfl, rfl⟩

/-- Two properties together: the second one may rely on the first. -/
theorem StepPreserves.and {B : ContinuousBatchScheduler C → Prop}
    (hB : StepPreserves ctx thread answers (fun _ => True) B)
    (hP : StepPreserves ctx thread answers B P) :
    StepPreserves ctx thread answers (fun _ => True) (fun s => B s ∧ P s) where
  stopSignals hcall := ⟨hB.stopSignals hcall, hP.stopSignals hcall⟩
  cleanup s index r rest _ hs hswap hc :=
    ⟨hB.cleanup s index r rest trivial hs.1 hswap hc, hP.cleanup s index r rest hs.1 hs.2 hswap hc⟩
  evict s index r result _ hs hget hc hdone :=
    ⟨hB.evict s index r result trivial hs.1 hget hc hdone,
      hP.evict s index r result hs.1 hs.2 hget hc hdone⟩
  command command commandRx hrx hcall :=
    ⟨hB.command command commandRx hrx hcall, hP.command command commandRx hrx hcall⟩
  running := ⟨hB.running, hP.running⟩
  embedding hcall := ⟨hB.embedding hcall, hP.embedding hcall⟩
  advance hcall := ⟨hB.advance hcall, hP.advance hcall⟩
  decode s _ hs hno hn := ⟨hB.decode s trivial hs.1 hno hn, hP.decode s hs.1 hs.2 hno hn⟩
  decodeFailed s error _ hs :=
    ⟨hB.decodeFailed s error trivial hs.1, hP.decodeFailed s error hs.1 hs.2⟩

theorem callStep_relying {B : ContinuousBatchScheduler C → Prop}
    (P : ContinuousBatchScheduler C → Prop)
    (hB : StepPreserves ctx thread answers (fun _ => True) B) (hb : B thread.scheduler)
    (hp : P thread.scheduler) (hP : StepPreserves ctx thread answers B P) :
    P (thread.callStep ctx answers).scheduler :=
  (callStep_preserves (hB.and hP) ⟨hb, hp⟩).2

theorem decodedWith_activeRequests {s : ContinuousBatchScheduler C} {nBatch : Nat}
    (hn : nBatch ≤ i32Max) (hnodup : (s.activeRequests.map (·.sequenceId)).Nodup) :
    List.Forall₂ (DecodeStep (assembled nBatch s.activeRequests).batch.tokens) s.activeRequests
      (s.decodedWith nBatch).activeRequests := by
  obtain ⟨rs', hcommit, hforall⟩ := decodeStep_commit hn hnodup
  unfold ContinuousBatchScheduler.decodedWith
  rw [hcommit]
  exact hforall

/-! ## Requests keep their identity and their sequence -/

/-- The identity of a request and the sequence it holds. -/
def ContinuousBatchActiveRequest.key (r : ContinuousBatchActiveRequest C) : Nat × Int :=
  (r.id, r.sequenceId)

theorem map_key_of_keeps {f : ContinuousBatchActiveRequest C → ContinuousBatchActiveRequest C}
    (h : ∀ r, (f r).key = r.key) (rs : List (ContinuousBatchActiveRequest C)) :
    (rs.map f).map (·.key) = rs.map (·.key) := by
  rw [List.map_map]
  exact List.map_congr_left fun r _ => h r

@[simp] theorem completeWithOutcome_key (r : ContinuousBatchActiveRequest C)
    (result : GeneratedTokenResult) : (r.completeWithOutcome result).key = r.key := rfl

theorem checkStopSignals_keys (ctx : ContinuousBatchSchedulerContext C) (stop : Nat → StopPoll)
    (s : ContinuousBatchScheduler C) :
    (s.checkStopSignals ctx stop).activeRequests.map (·.key) = s.activeRequests.map (·.key) := by
  refine map_key_of_keeps (fun r => ?_) _
  unfold ContinuousBatchScheduler.checkStopSignal
  split
  · rfl
  · split <;> rfl

theorem advance_keys (ctx : ContinuousBatchSchedulerContext C) (sampling : Nat → SamplingAnswers)
    (s : ContinuousBatchScheduler C) :
    (advanceGeneratingRequests ctx sampling s).activeRequests.map (·.key) =
      s.activeRequests.map (·.key) :=
  map_key_of_keeps (fun r =>
    Prod.ext_iff.mpr (advance_samplingStep ctx s.llamaContext (sampling r.id) r).key) _

theorem harvest_keys (ctx : ContinuousBatchSchedulerContext C) (sampling : Nat → SamplingAnswers)
    (llama : LlamaContext) (rs : List (ContinuousBatchActiveRequest C)) :
    (harvestPendingSamples ctx sampling llama rs).map (·.key) = rs.map (·.key) :=
  map_key_of_keeps (fun r =>
    Prod.ext_iff.mpr (harvestOne_samplingStep ctx llama (sampling r.id) r).key) _

theorem modify_keys (rs : List (ContinuousBatchActiveRequest C)) (index : Nat)
    (result : GeneratedTokenResult) :
    (rs.modify index (·.completeWithOutcome result)).map (·.key) = rs.map (·.key) := by
  apply List.ext_getElem
  · simp
  · intro i h₁ h₂
    simp only [List.getElem_map, List.getElem_modify]
    split <;> rfl

theorem decoded_keys {tokens : List BatchToken} {rs rs' : List (ContinuousBatchActiveRequest C)}
    (h : List.Forall₂ (DecodeStep tokens) rs rs') : rs'.map (·.key) = rs.map (·.key) := by
  induction h with
  | nil => rfl
  | cons hstep _ ih =>
    rw [List.map_cons, List.map_cons, ih]
    cases hstep <;> rfl

theorem map_sequenceId_eq (rs : List (ContinuousBatchActiveRequest C)) :
    rs.map (·.sequenceId) = (rs.map (·.key)).map Prod.snd := by
  rw [List.map_map]
  rfl

theorem map_id_eq (rs : List (ContinuousBatchActiveRequest C)) :
    rs.map (·.id) = (rs.map (·.key)).map Prod.fst := by
  rw [List.map_map]
  rfl

end Paddler
