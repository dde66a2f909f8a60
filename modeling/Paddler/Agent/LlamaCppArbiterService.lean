import Paddler.Messaging.AgentStatus
import Paddler.Agent.RequestAccounting

/-!
# The agent around the scheduler

Model of `llamacpp_arbiter_service.rs`, of `generate_responses` of the management socket that feeds
it, of `drain_in_flight_requests` and of the slot counter of `slot_aggregated_status.rs`.  The
scheduler thread behind the arbiter's handle is the one of `Scheduler.lean`.

A `SlotGuard` is a field of the request it was made for.  It lives as long as the request: in one of
the three channels of the arbiter, in the command channel of the scheduler, among its waiting
embedding requests, or as an active request.  `slotGuards` counts them; dropping a request calls
`release_slot`.  The counter is an `AtomicI32` and modelled without its bounds.

* `AgentService.step` — a request arrives on the socket, the arbiter's task goes on, or the
  scheduler thread makes its next call.
* `step_agentStep` — everything a step can do to the requests of the agent.
* `threads_reaches` — the thread behind the handle is always a reachable scheduler thread.
* `SchedulerThread.slotGuards_callStep` — a call of the scheduler drops guards and takes none.
-/

set_option autoImplicit false

namespace Paddler

open VecUpdate Run

variable {C : Type}

/-! ## State -/

/-- The status the ticker sets before it tries to apply the state again. -/
def AgentStateApplicationStatus.retrying : AgentStateApplicationStatus → AgentStateApplicationStatus
  | .attemptedAndRetrying => .stuck
  | _ => .attemptedAndRetrying

/-- `agent_applicable_state.rs`, as far as `apply_state` looks into it. -/
structure AgentApplicableState where
  modelPath : Option String
  deriving DecidableEq, Repr

/-- A request of the management socket, before its channel exists. -/
inductive AgentRequest where
  | continueFromConversationHistory (params : ContinueFromConversationHistoryParams)
  | continueFromRawPrompt (params : ContinueFromRawPromptParams)
  | generateEmbeddingBatch (inputBatch : List EmbeddingInputDocument)
      (normalizationMethod : EmbeddingNormalizationMethod)
  deriving DecidableEq, Repr

/-- The command `forward_command` makes of it. -/
def AgentRequest.commandParams : AgentRequest → CommandParams
  | .continueFromConversationHistory params => .continueFromConversationHistory params
  | .continueFromRawPrompt params => .continueFromRawPrompt params
  | .generateEmbeddingBatch inputBatch normalizationMethod =>
    .generateEmbeddingBatch inputBatch normalizationMethod

/-- A request in a channel of the arbiter; its receiver may be dropped as in `Sender`. -/
structure QueuedRequest where
  request : AgentRequest
  receiverDropsAfter : Option Nat
  deriving DecidableEq, Repr

/-- `continuous_batch_arbiter_handle.rs`, with the thread at its other end. -/
structure ContinuousBatchArbiterHandle (C : Type) where
  context : ContinuousBatchSchedulerContext C
  schedulerThread : SchedulerThread C

/-- Where the task of the arbiter is: at its `select!`, in one of the waits of `apply_state`, about
to reset the status, or past its loop. -/
inductive ArbiterTask (C : Type) where
  | select
  | draining
  | joining (handle : ContinuousBatchArbiterHandle C) (exiting : Bool)
  | resetting
  | spawning
  | ended

/-- What `build_from_applicable_state` and `spawn` come back with when a model is configured. -/
inductive SpawnOutcome (C : Type) where
  | ready (context : ContinuousBatchSchedulerContext C)
  | cancelled
  | failed

/-- The agent: the arbiter service with the channels in front of it, the slot counter, and the
requests `forward_command` dropped. -/
structure AgentService (C : Type) where
  agentApplicableState : Option AgentApplicableState
  continuousBatchArbiterHandle : Option (ContinuousBatchArbiterHandle C)
  conversationHistoryRequestRx : List QueuedRequest
  rawPromptRequestRx : List QueuedRequest
  embeddingBatchRequestRx : List QueuedRequest
  task : ArbiterTask C
  shutdown : Bool
  stateApplicationStatus : AgentStateApplicationStatus
  slotsProcessing : Int
  droppedRequests : List QueuedRequest

/-- What can happen next. -/
inductive AgentInput (C : Type) where
  | request (queued : QueuedRequest)
  | receive
  | tick
  | reconciledStateChanged (agentApplicableState : Option AgentApplicableState)
  | drained
  | joined (ok : Bool)
  | reset
  | spawned (outcome : SpawnOutcome C)
  | scheduler (answers : StepAnswers C)
  | cancel
  | exit

/-! ## Slot guards -/

/-- The guards that live in a scheduler thread.  When the thread ends it drops them all. -/
def SchedulerThread.slotGuards (thread : SchedulerThread C) : Nat :=
  if thread.call = .stopped then 0
  else thread.scheduler.activeRequests.length + (thread.commandRx.filterMap (·.requestId)).length +
    thread.scheduler.pendingEmbeddingRequests.length

/-- The guards that live in the thread an arbiter waits for. -/
def ArbiterTask.slotGuards : ArbiterTask C → Nat
  | .joining handle _ => handle.schedulerThread.slotGuards
  | _ => 0

namespace AgentService

/-- The requests in the channels of the arbiter. -/
def queued (self : AgentService C) : List QueuedRequest :=
  self.conversationHistoryRequestRx ++ self.rawPromptRequestRx ++ self.embeddingBatchRequestRx

/-- The guards of requests that were forwarded to the running scheduler. -/
def forwardedSlotGuards (self : AgentService C) : Nat :=
  (self.continuousBatchArbiterHandle.map (·.schedulerThread.slotGuards)).getD 0

/-- All live guards. -/
def slotGuards (self : AgentService C) : Nat :=
  self.queued.length + self.forwardedSlotGuards + self.task.slotGuards

/-! ## Steps -/

/-- A fresh agent: `SlotAggregatedStatus::new`, nothing to apply and no scheduler. -/
def new : AgentService C :=
  { agentApplicableState := none
    continuousBatchArbiterHandle := none
    conversationHistoryRequestRx := []
    rawPromptRequestRx := []
    embeddingBatchRequestRx := []
    task := .select
    shutdown := false
    stateApplicationStatus := .fresh
    slotsProcessing := 0
    droppedRequests := [] }

def takeSlot (self : AgentService C) : AgentService C :=
  { self with slotsProcessing := self.slotsProcessing + 1 }

/-- `release_slot`, once for each guard that is dropped. -/
def releaseSlots (self : AgentService C) (guards : Nat) : AgentService C :=
  { self with slotsProcessing := self.slotsProcessing - guards }

/-- `generate_responses`: take a slot, then queue the request for the arbiter.  After the arbiter
ended the send fails, which drops the request and its guard. -/
def generateResponses (self : AgentService C) (queued : QueuedRequest) : AgentService C :=
  match self.task with
  | .ended => self.takeSlot.releaseSlots 1
  | _ =>
    match queued.request with
    | .continueFromConversationHistory _ =>
      { self.takeSlot with
        conversationHistoryRequestRx := self.conversationHistoryRequestRx ++ [queued] }
    | .continueFromRawPrompt _ =>
      { self.takeSlot with rawPromptRequestRx := self.rawPromptRequestRx ++ [queued] }
    | .generateEmbeddingBatch _ _ =>
      { self.takeSlot with embeddingBatchRequestRx := self.embeddingBatchRequestRx ++ [queued] }

/-- The request a `biased` `select!` receives next. -/
def recvRequest (self : AgentService C) : Option (QueuedRequest × AgentService C) :=
  match self.conversationHistoryRequestRx, self.rawPromptRequestRx,
    self.embeddingBatchRequestRx with
  | queued :: rest, _, _ => some (queued, { self with conversationHistoryRequestRx := rest })
  | [], queued :: rest, _ => some (queued, { self with rawPromptRequestRx := rest })
  | [], [], queued :: rest => some (queued, { self with embeddingBatchRequestRx := rest })
  | [], [], [] => none

/-- `forward_command`: without a scheduler at the other end the request is logged and dropped. -/
def forwardCommand (self : AgentService C) (queued : QueuedRequest) : AgentService C :=
  let dropped := { self.releaseSlots 1 with droppedRequests := self.droppedRequests ++ [queued] }
  match self.continuousBatchArbiterHandle with
  | none => dropped
  | some handle =>
    if handle.schedulerThread.call = .stopped then dropped
    else
      { self with continuousBatchArbiterHandle := some { handle with
          schedulerThread := handle.schedulerThread.step handle.context
            (.arrive queued.request.commandParams queued.receiverDropsAfter) } }

/-- The end of `apply_state`. -/
def applied (self : AgentService C) : AgentService C :=
  { self with
    stateApplicationStatus := .applied
    task := .select }

/-- `apply_state` after the old scheduler is gone. -/
def applyAfterShutdown (self : AgentService C) : AgentService C :=
  match self.agentApplicableState with
  | none => self.applied
  | some _ => { self with task := .resetting }

/-- The service ends: its receivers are dropped with the requests in them. -/
def endService (self : AgentService C) : AgentService C :=
  { self.releaseSlots self.queued.length with
    conversationHistoryRequestRx := []
    rawPromptRequestRx := []
    embeddingBatchRequestRx := []
    task := .ended }

/-- `shutdown_arbiter_handle`: take the handle, send `Shutdown` and wait for the thread. -/
def shutdownArbiterHandle (self : AgentService C) (exiting : Bool) : AgentService C :=
  match self.continuousBatchArbiterHandle with
  | none => if exiting then self.endService else self.applyAfterShutdown
  | some handle =>
    { self with
      continuousBatchArbiterHandle := none
      task := .joining { handle with
        schedulerThread := handle.schedulerThread.step handle.context (.arrive .shutdown none) }
        exiting }

/-- `apply_state`: `wait_for_in_flight_requests_to_finish` drains only when there is a handle. -/
def applyState (self : AgentService C) : AgentService C :=
  match self.continuousBatchArbiterHandle with
  | some _ => { self with task := .draining }
  | none => self.shutdownArbiterHandle false

/-- The scheduler thread makes its next call; the guards of requests that end are dropped. -/
def stepScheduler (handle : ContinuousBatchArbiterHandle C) (answers : StepAnswers C) :
    ContinuousBatchArbiterHandle C :=
  { handle with
    schedulerThread := handle.schedulerThread.step handle.context (.call answers) }

/-- The guards that call drops. -/
def guardsDropped (handle : ContinuousBatchArbiterHandle C) (answers : StepAnswers C) : Nat :=
  handle.schedulerThread.slotGuards - (stepScheduler handle answers).schedulerThread.slotGuards

/-- One step of the agent.  An input that is not enabled changes nothing. -/
def step (self : AgentService C) : AgentInput C → AgentService C
  | .request queued => self.generateResponses queued
  | .receive =>
    match self.task, self.recvRequest with
    | .select, some (queued, received) => received.forwardCommand queued
    | _, _ => self
  | .tick =>
    match self.task with
    | .select =>
      if self.stateApplicationStatus.shouldTryToApply then
        { self with
          stateApplicationStatus := self.stateApplicationStatus.retrying }.applyState
      else self
    | _ => self
  | .reconciledStateChanged agentApplicableState =>
    match self.task with
    | .select =>
      { self with
        agentApplicableState := agentApplicableState
        stateApplicationStatus := .fresh }.applyState
    | _ => self
  | .drained =>
    match self.task with
    | .draining =>
      -- `while slots_processing_count() > 0`, left early on a shutdown
      if 0 < self.slotsProcessing ∧ self.shutdown = false then self
      else self.shutdownArbiterHandle false
    | _ => self
  | .joined ok =>
    match self.task with
    | .joining handle exiting =>
      if handle.schedulerThread.call = .stopped then
        if exiting then self.endService
        else if ok then self.applyAfterShutdown
        else { self with task := .select }
      else self
    | _ => self
  | .reset =>
    match self.task with
    | .resetting =>
      { self with
        slotsProcessing := 0
        task := .spawning }
    | _ => self
  | .spawned outcome =>
    match self.task, self.agentApplicableState with
    | .spawning, some state =>
      match state.modelPath, outcome with
      | none, _ | some _, .cancelled => self.applied
      | some _, .failed => { self with task := .select }
      | some _, .ready context =>
        { self.applied with continuousBatchArbiterHandle := some ⟨context, .new context⟩ }
    | _, _ => self
  | .scheduler answers =>
    match self.continuousBatchArbiterHandle, self.task with
    | some handle, _ =>
      { self.releaseSlots (guardsDropped handle answers) with
        continuousBatchArbiterHandle := some (stepScheduler handle answers) }
    | none, .joining handle exiting =>
      { self.releaseSlots (guardsDropped handle answers) with
        task := .joining (stepScheduler handle answers) exiting }
    | none, _ => self
  | .cancel => { self with shutdown := true }
  | .exit =>
    match self.task with
    | .select => if self.shutdown then self.shutdownArbiterHandle true else self
    | _ => self

/-- A whole run. -/
def run (self : AgentService C) (inputs : List (AgentInput C)) : AgentService C :=
  inputs.foldl step self

end AgentService

/-- A state with a model arrives and is applied while no scheduler runs. -/
def applySmallContext : List (AgentInput Unit) :=
  [.reconciledStateChanged (some ⟨some "model.gguf"⟩), .reset, .spawned (.ready smallContext)]

/-- A raw prompt whose client waits for its results. -/
def queuedPrompt : QueuedRequest := ⟨.continueFromRawPrompt ⟨none, 8, "prompt"⟩, none⟩

/-! ## What a step can do -/

/-- The same requests in the same places. -/
structure SameRequests (s s' : AgentService C) : Prop where
  handle : s'.continuousBatchArbiterHandle = s.continuousBatchArbiterHandle
  queued : s'.queued = s.queued
  slotsProcessing : s'.slotsProcessing = s.slotsProcessing
  droppedRequests : s'.droppedRequests = s.droppedRequests

/-- The handle is gone while the arbiter waits for the old thread and while it starts a new one. -/
def HandleTaken (s : AgentService C) : Prop :=
  (∀ handle exiting, s.task = .joining handle exiting → s.continuousBatchArbiterHandle = none) ∧
    (s.task = .resetting ∨ s.task = .spawning → s.continuousBatchArbiterHandle = none)

/-- The input makes an arbiter at its `select!` apply the state. -/
def AgentInput.StartsApplying (s : AgentService C) : AgentInput C → Prop
  | .tick => s.stateApplicationStatus.shouldTryToApply = true
  | .reconciledStateChanged _ => True
  | _ => False

/-- **Everything a step of the agent can do** to its requests and to its task. -/
inductive AgentStep (s s' : AgentService C) : AgentInput C → Prop where
  | unchanged {input : AgentInput C} :
      SameRequests s s' → s'.task = s.task → AgentStep s s' input
  | moved {input : AgentInput C} :
      SameRequests s s' → s.task.slotGuards = 0 → s'.task.slotGuards = 0 →
      (∀ handle exiting, s'.task ≠ .joining handle exiting) →
      (s'.task = .draining → s.task = .select ∧ s.continuousBatchArbiterHandle ≠ none ∧
        input.StartsApplying s) →
      (s'.task = .resetting ∨ s'.task = .spawning → s.continuousBatchArbiterHandle = none) →
      AgentStep s s' input
  | queued {queued : QueuedRequest} :
      s'.continuousBatchArbiterHandle = s.continuousBatchArbiterHandle → s'.task = s.task →
      s'.queued.length = s.queued.length + 1 → s'.slotsProcessing = s.slotsProcessing + 1 →
      s'.droppedRequests = s.droppedRequests → AgentStep s s' (.request queued)
  | forwarded {queued : QueuedRequest} {handle : ContinuousBatchArbiterHandle C} :
      s.continuousBatchArbiterHandle = some handle → handle.schedulerThread.call ≠ .stopped →
      s'.continuousBatchArbiterHandle = some { handle with
        schedulerThread := handle.schedulerThread.step handle.context
          (.arrive queued.request.commandParams queued.receiverDropsAfter) } →
      s.task = .select → s'.task = .select → s.queued.length = s'.queued.length + 1 →
      s'.slotsProcessing = s.slotsProcessing → s'.droppedRequests = s.droppedRequests →
      AgentStep s s' .receive
  | dropped {queued : QueuedRequest} :
      (∀ handle, s.continuousBatchArbiterHandle = some handle →
        handle.schedulerThread.call = .stopped) →
      s'.continuousBatchArbiterHandle = s.continuousBatchArbiterHandle →
      s.task = .select → s'.task = .select → s.queued.length = s'.queued.length + 1 →
      s'.slotsProcessing = s.slotsProcessing - 1 →
      s'.droppedRequests = s.droppedRequests ++ [queued] → AgentStep s s' .receive
  | taken {input : AgentInput C} {handle : ContinuousBatchArbiterHandle C} {exiting : Bool} :
      s.continuousBatchArbiterHandle = some handle → (s.task = .select ∨ s.task = .draining) →
      s'.continuousBatchArbiterHandle = none →
      s'.task = .joining { handle with
        schedulerThread := handle.schedulerThread.step handle.context (.arrive .shutdown none) }
        exiting →
      s'.queued = s.queued → s'.slotsProcessing = s.slotsProcessing →
      s'.droppedRequests = s.droppedRequests → AgentStep s s' input
  | reset :
      s.task = .resetting → s'.task = .spawning →
      s'.continuousBatchArbiterHandle = s.continuousBatchArbiterHandle → s'.queued = s.queued →
      s'.slotsProcessing = 0 → s'.droppedRequests = s.droppedRequests → AgentStep s s' .reset
  | spawned {context : ContinuousBatchSchedulerContext C} :
      s.task = .spawning → s'.task = .select →
      s'.continuousBatchArbiterHandle = some ⟨context, .new context⟩ → s'.queued = s.queued →
      s'.slotsProcessing = s.slotsProcessing → s'.droppedRequests = s.droppedRequests →
      AgentStep s s' (.spawned (.ready context))
  | called {handle : ContinuousBatchArbiterHandle C} {answers : StepAnswers C} :
      s.continuousBatchArbiterHandle = some handle →
      s'.continuousBatchArbiterHandle = some (AgentService.stepScheduler handle answers) →
      s'.task = s.task → s'.queued = s.queued →
      s'.slotsProcessing = s.slotsProcessing - AgentService.guardsDropped handle answers →
      s'.droppedRequests = s.droppedRequests → AgentStep s s' (.scheduler answers)
  | calledJoining {handle : ContinuousBatchArbiterHandle C} {exiting : Bool}
      {answers : StepAnswers C} :
      s.continuousBatchArbiterHandle = none → s.task = .joining handle exiting →
      s'.continuousBatchArbiterHandle = none →
      s'.task = .joining (AgentService.stepScheduler handle answers) exiting →
      s'.queued = s.queued →
      s'.slotsProcessing = s.slotsProcessing - AgentService.guardsDropped handle answers →
      s'.droppedRequests = s.droppedRequests → AgentStep s s' (.scheduler answers)
  | ended {input : AgentInput C} :
      s.continuousBatchArbiterHandle = none → s.task.slotGuards = 0 →
      s'.continuousBatchArbiterHandle = none → s'.task = .ended → s'.queued = [] →
      s'.slotsProcessing = s.slotsProcessing - s.queued.length →
      s'.droppedRequests = s.droppedRequests → AgentStep s s' input

theorem AgentStep.toSelect {s s' : AgentService C} {input : AgentInput C}
    (hsame : SameRequests s s') (hguards : s.task.slotGuards = 0) (htask : s'.task = .select) :
    AgentStep s s' input := by
  refine .moved hsame hguards (by rw [htask]; rfl) (fun handle exiting => ?_) (fun h => ?_)
    fun h => ?_
  · rw [htask]
    exact fun h => by cases h
  · rw [htask] at h
    cases h
  · rw [htask] at h
    rcases h with h | h <;> cases h

theorem AgentStep.toResetting {s s' : AgentService C} {input : AgentInput C}
    (hsame : SameRequests s s') (hhandle : s.continuousBatchArbiterHandle = none)
    (hguards : s.task.slotGuards = 0) (htask : s'.task = .resetting) : AgentStep s s' input := by
  refine .moved hsame hguards (by rw [htask]; rfl) (fun handle exiting => ?_) (fun h => ?_)
    fun _ => hhandle
  · rw [htask]
    exact fun h => by cases h
  · rw [htask] at h
    cases h

theorem AgentStep.toDraining {s s' : AgentService C} {input : AgentInput C}
    (hsame : SameRequests s s') (hselect : s.task = .select)
    (hhandle : s.continuousBatchArbiterHandle ≠ none) (hstarts : input.StartsApplying s)
    (htask : s'.task = .draining) : AgentStep s s' input := by
  refine .moved hsame (by rw [hselect]; rfl) (by rw [htask]; rfl) (fun handle exiting => ?_)
    (fun _ => ⟨hselect, hhandle, hstarts⟩) fun h => ?_
  · rw [htask]
    exact fun h => by cases h
  · rw [htask] at h
    rcases h with h | h <;> cases h

/-- `apply_state` without a handle, from a state with the same requests. -/
theorem applyAfterShutdown_step {s s₀ : AgentService C} {input : AgentInput C}
    (hsame : SameRequests s₀ s) (hhandle : s₀.continuousBatchArbiterHandle = none)
    (hguards : s₀.task.slotGuards = 0) : AgentStep s₀ s.applyAfterShutdown input := by
  have hkept : ∀ s' : AgentService C, s'.continuousBatchArbiterHandle =
      s.continuousBatchArbiterHandle → s'.queued = s.queued →
      s'.slotsProcessing = s.slotsProcessing → s'.droppedRequests = s.droppedRequests →
      SameRequests s₀ s' := fun s' h₁ h₂ h₃ h₄ =>
    ⟨h₁.trans hsame.handle, h₂.trans hsame.queued, h₃.trans hsame.slotsProcessing,
      h₄.trans hsame.droppedRequests⟩
  unfold AgentService.applyAfterShutdown
  split
  · exact .toSelect (hkept _ rfl rfl rfl rfl) hguards rfl
  · exact .toResetting (hkept _ rfl rfl rfl rfl) hhandle hguards rfl

theorem endService_step {s : AgentService C} {input : AgentInput C}
    (hhandle : s.continuousBatchArbiterHandle = none) (hguards : s.task.slotGuards = 0) :
    AgentStep s s.endService input :=
  .ended hhandle hguards hhandle rfl rfl rfl rfl

theorem shutdownArbiterHandle_step {s : AgentService C} {input : AgentInput C} (exiting : Bool)
    (htask : s.task = .select ∨ s.task = .draining) :
    AgentStep s (s.shutdownArbiterHandle exiting) input := by
  have hguards : s.task.slotGuards = 0 := by rcases htask with h | h <;> rw [h] <;> rfl
  unfold AgentService.shutdownArbiterHandle
  split
  · rename_i hhandle
    split
    · exact endService_step hhandle hguards
    · exact applyAfterShutdown_step ⟨rfl, rfl, rfl, rfl⟩ hhandle hguards
  · rename_i handle hhandle
    exact .taken hhandle htask rfl rfl rfl rfl rfl

theorem recvRequest_some {s s' : AgentService C} {queued : QueuedRequest}
    (h : s.recvRequest = some (queued, s')) :
    s'.continuousBatchArbiterHandle = s.continuousBatchArbiterHandle ∧ s'.task = s.task ∧
      s.queued.length = s'.queued.length + 1 ∧ s'.slotsProcessing = s.slotsProcessing ∧
      s'.droppedRequests = s.droppedRequests := by
  unfold AgentService.recvRequest at h
  split at h
  · rename_i hc
    cases h
    refine ⟨rfl, rfl, ?_, rfl, rfl⟩
    simp only [AgentService.queued, hc, List.length_append, List.length_cons]
    omega
  · rename_i hr
    cases h
    refine ⟨rfl, rfl, ?_, rfl, rfl⟩
    simp only [AgentService.queued, hr, List.length_append, List.length_cons]
    omega
  · rename_i he
    cases h
    refine ⟨rfl, rfl, ?_, rfl, rfl⟩
    simp only [AgentService.queued, he, List.length_append, List.length_cons]
    omega
  · cases h

theorem forwardCommand_step {s received : AgentService C} {queued : QueuedRequest}
    (htask : s.task = .select) (hrecv : s.recvRequest = some (queued, received)) :
    AgentStep s (received.forwardCommand queued) .receive := by
  obtain ⟨hhandle, htask', hlength, hslots, hdropped⟩ := recvRequest_some hrecv
  unfold AgentService.forwardCommand
  dsimp only
  split
  · rename_i hnone
    rw [hhandle] at hnone
    refine .dropped (fun handle hsome => ?_) hhandle htask (htask'.trans htask) hlength
      (congrArg (· - 1) hslots) (congrArg (· ++ [queued]) hdropped)
    rw [hnone] at hsome
    cases hsome
  · rename_i handle hsome
    rw [hhandle] at hsome
    split
    · rename_i hstopped
      refine .dropped (fun handle' hsome' => ?_) hhandle htask (htask'.trans htask) hlength
        (congrArg (· - 1) hslots) (congrArg (· ++ [queued]) hdropped)
      rw [hsome] at hsome'
      cases hsome'
      exact hstopped
    · rename_i hrunning
      exact .forwarded hsome hrunning rfl htask (htask'.trans htask) hlength hslots hdropped

theorem applyState_step {s s₀ : AgentService C} {input : AgentInput C} (hsame : SameRequests s₀ s)
    (htask : s₀.task = .select) (hstarts : input.StartsApplying s₀) :
    AgentStep s₀ s.applyState input := by
  unfold AgentService.applyState
  split
  · rename_i handle hhandle
    refine .toDraining ⟨hsame.handle, hsame.queued, hsame.slotsProcessing, hsame.droppedRequests⟩
      htask (fun hnone => ?_) hstarts rfl
    rw [← hsame.handle, hhandle] at hnone
    cases hnone
  · rename_i hhandle
    unfold AgentService.shutdownArbiterHandle
    rw [hhandle]
    exact applyAfterShutdown_step hsame (hsame.handle ▸ hhandle) (by rw [htask]; rfl)

/-- **Inversion**: a step of the agent is one of the above. -/
theorem step_agentStep {s : AgentService C} (htaken : HandleTaken s) (input : AgentInput C) :
    AgentStep s (s.step input) input := by
  have hsame : ∀ {input : AgentInput C}, AgentStep s s input :=
    .unchanged ⟨rfl, rfl, rfl, rfl⟩ rfl
  cases input with
  | request queued =>
    simp only [AgentService.step, AgentService.generateResponses]
    split
    · rename_i htask
      refine .unchanged ⟨rfl, rfl, ?_, rfl⟩ rfl
      simp [AgentService.takeSlot, AgentService.releaseSlots]
    · split
      all_goals
        refine .queued rfl rfl ?_ rfl rfl
        simp only [AgentService.queued, AgentService.takeSlot, List.length_append, List.length_cons,
          List.length_nil]
        omega
  | receive =>
    simp only [AgentService.step]
    split
    · rename_i queued received htask hrecv
      exact forwardCommand_step htask hrecv
    · exact hsame
  | tick =>
    simp only [AgentService.step]
    split
    · rename_i htask
      split
      · rename_i hstatus
        exact applyState_step ⟨rfl, rfl, rfl, rfl⟩ htask hstatus
      · exact hsame
    · exact hsame
  | reconciledStateChanged state =>
    simp only [AgentService.step]
    split
    · rename_i htask
      exact applyState_step ⟨rfl, rfl, rfl, rfl⟩ htask trivial
    · exact hsame
  | drained =>
    simp only [AgentService.step]
    split
    · rename_i htask
      split
      · exact hsame
      · exact shutdownArbiterHandle_step false (Or.inr htask)
    · exact hsame
  | joined ok =>
    simp only [AgentService.step]
    split
    · rename_i handle exiting htask
      have hhandle := htaken.1 handle exiting htask
      split
      · rename_i hstopped
        have hguards : s.task.slotGuards = 0 := by
          rw [htask]
          exact if_pos hstopped
        split
        · exact endService_step hhandle hguards
        · split
          · exact applyAfterShutdown_step ⟨rfl, rfl, rfl, rfl⟩ hhandle hguards
          · exact .toSelect ⟨rfl, rfl, rfl, rfl⟩ hguards rfl
      · exact hsame
    · exact hsame
  | reset =>
    simp only [AgentService.step]
    split
    · rename_i htask
      exact .reset htask rfl rfl rfl rfl rfl
    · exact hsame
  | spawned outcome =>
    simp only [AgentService.step]
    split
    · rename_i state htask hstate
      have hguards : s.task.slotGuards = 0 := by
        rw [htask]
        rfl
      split
      · exact .toSelect ⟨rfl, rfl, rfl, rfl⟩ hguards rfl
      · exact .toSelect ⟨rfl, rfl, rfl, rfl⟩ hguards rfl
      · exact .toSelect ⟨rfl, rfl, rfl, rfl⟩ hguards rfl
      · exact .spawned htask rfl rfl rfl rfl rfl
    · exact hsame
  | scheduler answers =>
    simp only [AgentService.step]
    split
    · rename_i handle hhandle
      exact .called hhandle rfl rfl rfl rfl rfl
    · rename_i handle exiting hhandle htask
      exact .calledJoining hhandle htask hhandle rfl rfl rfl rfl
    · exact hsame
  | cancel => exact .unchanged ⟨rfl, rfl, rfl, rfl⟩ rfl
  | exit =>
    simp only [AgentService.step]
    split
    · rename_i htask
      split
      · exact shutdownArbiterHandle_step true (Or.inl htask)
      · exact hsame
    · exact hsame

/-! ## The threads of the agent -/

/-- The thread behind the handle was reached by steps that satisfy `threadGuard`; the one the
arbiter waits for was reached somehow. -/
structure ThreadsReached
    (threadGuard : ContinuousBatchSchedulerContext C → SchedulerThread C → SchedulerInput C → Prop)
    (s : AgentService C) : Prop where
  taken : HandleTaken s
  handle : ∀ handle, s.continuousBatchArbiterHandle = some handle →
    Reaches (SchedulerThread.step handle.context) (threadGuard handle.context) (.new handle.context)
      handle.schedulerThread
  joining : ∀ handle exiting, s.task = .joining handle exiting →
    Reaches (SchedulerThread.step handle.context) (fun _ _ => True) (.new handle.context)
      handle.schedulerThread

variable {threadGuard : ContinuousBatchSchedulerContext C → SchedulerThread C →
      SchedulerInput C → Prop}

theorem AgentRequest.commandParams_ne_shutdown (request : AgentRequest) :
    request.commandParams ≠ .shutdown := by
  cases request <;> exact fun h => by cases h

theorem HandleTaken.of_select {s : AgentService C} (h : s.task = .select) : HandleTaken s := by
  refine ⟨fun handle exiting htask => ?_, fun htask => ?_⟩
  · rw [h] at htask
    cases htask
  · rw [h] at htask
    rcases htask with htask | htask <;> cases htask

theorem HandleTaken.of_none {s : AgentService C} (h : s.continuousBatchArbiterHandle = none) :
    HandleTaken s :=
  ⟨fun _ _ _ => h, fun _ => h⟩

/-- The handle is there only while the arbiter is at its `select!` or drains. -/
theorem HandleTaken.congr {s s' : AgentService C} (h : HandleTaken s) (htask : s'.task = s.task)
    (hhandle : s.continuousBatchArbiterHandle = none → s'.continuousBatchArbiterHandle = none) :
    HandleTaken s' := by
  unfold HandleTaken
  rw [htask]
  exact ⟨fun handle exiting ht => hhandle (h.1 handle exiting ht), fun ht => hhandle (h.2 ht)⟩

/-- **A step of the agent keeps its threads reachable.** -/
theorem ThreadsReached.step {s s' : AgentService C} {input : AgentInput C}
    (h : ThreadsReached threadGuard s)
    (harrive : ∀ ctx thread params drops, params ≠ CommandParams.shutdown →
      threadGuard ctx thread (.arrive params drops))
    (hcall : ∀ handle answers, input = .scheduler answers →
      s.continuousBatchArbiterHandle = some handle →
      threadGuard handle.context handle.schedulerThread (.call answers))
    (hstep : AgentStep s s' input) : ThreadsReached threadGuard s' := by
  -- nothing changes for the threads
  have hsame : s'.continuousBatchArbiterHandle = s.continuousBatchArbiterHandle →
      s'.task = s.task → ThreadsReached threadGuard s' := by
    intro hhandle htask
    refine ⟨h.taken.congr htask hhandle.trans, ?_, ?_⟩
    · rw [hhandle]
      exact h.handle
    · rw [htask]
      exact h.joining
  -- the arbiter waits for no thread
  have hnotJoining : (∀ handle exiting, s'.task ≠ .joining handle exiting) → HandleTaken s' →
      (∀ handle, s'.continuousBatchArbiterHandle = some handle →
        Reaches (SchedulerThread.step handle.context) (threadGuard handle.context)
          (.new handle.context) handle.schedulerThread) → ThreadsReached threadGuard s' :=
    fun hno htaken hhandle =>
      ⟨htaken, hhandle, fun handle exiting htask => absurd htask (hno handle exiting)⟩
  have hno : ∀ {task : ArbiterTask C}, s'.task = task → (task = .select ∨ task = .spawning ∨
      task = .ended) → ∀ handle exiting, s'.task ≠ .joining handle exiting := by
    intro task htask hcases handle exiting hjoining
    rw [htask] at hjoining
    rcases hcases with hc | hc | hc <;> rw [hc] at hjoining <;> cases hjoining
  cases hstep with
  | unchanged hreq htask => exact hsame hreq.handle htask
  | moved hreq _ _ hjoining _ hstarting =>
    refine hnotJoining hjoining ⟨fun handle exiting htask => absurd htask (hjoining handle exiting),
      fun htask => hreq.handle.trans (hstarting htask)⟩ ?_
    rw [hreq.handle]
    exact h.handle
  | queued hhandle htask _ _ _ => exact hsame hhandle htask
  | forwarded hhandle _ hhandle' _ htask _ _ _ =>
    refine hnotJoining (hno htask (Or.inl rfl)) (.of_select htask) fun handle' hsome => ?_
    rw [hhandle'] at hsome
    cases hsome
    exact .next (h.handle _ hhandle) (harrive _ _ _ _ (AgentRequest.commandParams_ne_shutdown _))
  | dropped _ hhandle htask htask' _ _ _ => exact hsame hhandle (htask'.trans htask.symm)
  | taken hhandle _ hnone htask _ _ _ =>
    refine ⟨.of_none hnone, fun handle' hsome => ?_, fun handle' exiting' hjoining => ?_⟩
    · rw [hnone] at hsome
      cases hsome
    · rw [htask] at hjoining
      cases hjoining
      exact .next (i := .arrive .shutdown none)
        ((h.handle _ hhandle).weaken fun _ _ _ => trivial) trivial
  | reset htask htask' hhandle _ _ _ =>
    have hnone := hhandle.trans (h.taken.2 (Or.inl htask))
    refine hnotJoining (hno htask' (Or.inr (Or.inl rfl))) (.of_none hnone) fun handle' hsome => ?_
    rw [hnone] at hsome
    cases hsome
  | spawned _ htask hhandle _ _ _ =>
    refine hnotJoining (hno htask (Or.inl rfl)) (.of_select htask) fun handle' hsome => ?_
    rw [hhandle] at hsome
    cases hsome
    exact .start
  | @called handle answers hhandle hhandle' htask _ _ _ =>
    refine ⟨h.taken.congr htask fun hnone => ?_, fun handle' hsome => ?_, ?_⟩
    · rw [hhandle] at hnone
      cases hnone
    · rw [hhandle'] at hsome
      cases hsome
      exact .next (h.handle _ hhandle) (hcall handle answers rfl hhandle)
    · rw [htask]
      exact h.joining
  | @calledJoining _ _ answers _ htask hnone htask' _ _ _ =>
    refine ⟨.of_none hnone, fun handle' hsome => ?_, fun handle' exiting' hjoining => ?_⟩
    · rw [hnone] at hsome
      cases hsome
    · rw [htask'] at hjoining
      cases hjoining
      exact .next (i := .call answers) (h.joining _ _ htask) trivial
  | ended _ _ hnone htask _ _ _ =>
    refine hnotJoining (hno htask (Or.inr (Or.inr rfl))) (.of_none hnone) fun handle' hsome => ?_
    rw [hnone] at hsome
    cases hsome

theorem threadsReached_new : ThreadsReached threadGuard (AgentService.new : AgentService C) :=
  ⟨.of_select rfl, fun _ h => (by cases h), fun _ _ h => (by cases h)⟩

/-- **The threads of every reachable agent.** -/
theorem threads_reaches {guard : AgentService C → AgentInput C → Prop} {s : AgentService C}
    (harrive : ∀ ctx thread params drops, params ≠ CommandParams.shutdown →
      threadGuard ctx thread (.arrive params drops))
    (hcall : ∀ s handle answers, guard s (.scheduler answers) →
      s.continuousBatchArbiterHandle = some handle →
      threadGuard handle.context handle.schedulerThread (.call answers))
    (h : Reaches AgentService.step guard .new s) : ThreadsReached threadGuard s := by
  refine h.invariant (ThreadsReached threadGuard) threadsReached_new fun s input _ hinv hguard => ?_
  refine hinv.step harrive (fun handle answers heq hhandle => ?_) (step_agentStep hinv.taken input)
  subst heq
  exact hcall s handle answers hguard hhandle

/-! ## Slot guards of a thread -/

namespace SchedulerThread

variable {ctx : ContinuousBatchSchedulerContext C} {thread : SchedulerThread C}

theorem slotGuards_of_running (h : thread.call ≠ .stopped) :
    thread.slotGuards = (liveIds thread.scheduler thread.commandRx).length +
      thread.scheduler.pendingEmbeddingRequests.length := by
  unfold slotGuards liveIds
  rw [if_neg h, List.length_append, List.length_map]

theorem slotGuards_forward (h : thread.call ≠ .stopped) (request : AgentRequest)
    (drops : Option Nat) :
    (thread.step ctx (.arrive request.commandParams drops)).slotGuards = thread.slotGuards + 1 := by
  have hid : (request.commandParams.command drops thread.nextRequestId).requestId =
      some thread.nextRequestId := by
    cases request <;> rfl
  rw [slotGuards_of_running h, slotGuards_of_running (by exact h)]
  simp only [SchedulerThread.step, liveIds, List.filterMap_append, List.filterMap_cons, hid,
    List.filterMap_nil, List.length_append, List.length_cons, List.length_nil]
  omega

theorem slotGuards_shutdown (ctx : ContinuousBatchSchedulerContext C) (thread : SchedulerThread C) :
    (thread.step ctx (.arrive .shutdown none)).slotGuards = thread.slotGuards := by
  simp [slotGuards, SchedulerThread.step, CommandParams.command,
    ContinuousBatchSchedulerCommand.requestId]

/-- **A call drops guards and takes none.** -/
theorem slotGuards_callStep (answers : StepAnswers C) (hseq : SequenceIdsInv ctx thread.scheduler) :
    (thread.step ctx (.call answers)).slotGuards ≤ thread.slotGuards := by
  by_cases hstopped : thread.call = .stopped
  · have hsame : thread.step ctx (.call answers) = thread := by
      simp [SchedulerThread.step, callStep, hstopped]
    exact Nat.le_of_eq (congrArg slotGuards hsame)
  · by_cases hstops : (thread.step ctx (.call answers)).call = .stopped
    · unfold slotGuards
      rw [if_pos hstops]
      exact Nat.zero_le _
    · rw [slotGuards_of_running hstopped, slotGuards_of_running hstops]
      exact callStep_live_le answers hseq

end SchedulerThread

end Paddler
