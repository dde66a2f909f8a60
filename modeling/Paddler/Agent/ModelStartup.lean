import Paddler.Agent.DesiredStateConversion
import Paddler.Agent.LlamaCpp
import Paddler.Library.Run

/-!
# Starting the scheduler of a model

Model of `continuous_batch_arbiter.rs` up to `scheduler.run()`, and of what `apply_state` does
around it: the status is reset, a thread loads the model and reports over three `oneshot` channels,
and the task that awaits them writes the same status.  What llama.cpp and the renderer answer is
given.  The other tasks of the agent go on writing the status; `reconciledMeanwhile` is history: the
desired state was reconciled again since the start.

* `startup` — the calls of the thread in order, without the channels: the first that fails decides.
* `threadStep`, `taskStep`, `cancelStep` — what the two parties do next, and a cancellation.
* `ThreadInv` — what the thread has done, as the others can see it; every step keeps it.
-/

set_option autoImplicit false

namespace Paddler

open DesiredStateConversion

namespace ModelStartup

/-! ## Channels of one value -/

/-- What the sender of a `oneshot` channel did. -/
inductive OneshotSender (α : Type) where
  | waiting
  | sent (value : α)
  | dropped
  deriving DecidableEq, Repr

/-- A `oneshot` channel. -/
structure Oneshot (α : Type) where
  sender : OneshotSender α
  receiverDropped : Bool
  deriving DecidableEq, Repr

namespace Oneshot

variable {α : Type}

def channel : Oneshot α := ⟨.waiting, false⟩

/-- `Sender::send`: without its receiver the value comes back, and the sender is gone. -/
def send (self : Oneshot α) (value : α) : Oneshot α :=
  { self with sender := if self.receiverDropped then .dropped else .sent value }

/-- A sender that was not used is dropped. -/
def dropSender (self : Oneshot α) : Oneshot α :=
  match self.sender with
  | .waiting => { self with sender := .dropped }
  | _ => self

/-- The receiver is dropped. -/
def dropReceiver (self : Oneshot α) : Oneshot α := { self with receiverDropped := true }

end Oneshot

/-! ## The arbiter and its answers -/

/-- `chat_template_load_status.rs`. -/
inductive ChatTemplateLoadStatus where
  | loaded
  | skippedForEmbeddings
  deriving DecidableEq, Repr

/-- `inference_parameters.rs`, as far as the startup looks into it. -/
structure InferenceParameters where
  enableEmbeddings : Bool
  nBatch : Nat
  deriving DecidableEq, Repr

/-- `continuous_batch_arbiter.rs`; the path is given twice, the second time as text. -/
structure ContinuousBatchArbiter where
  chatTemplateOverride : Option ChatTemplate
  desiredSlotsTotal : Int
  desiredSlotsTotal_le : desiredSlotsTotal ≤ i32Max
  gpuDevices : List Nat
  inferenceParameters : InferenceParameters
  multimodalProjectionPath : Option PathBuf
  modelPath : PathBuf
  modelPathString : String
  modelPathString_eq : modelPathString = modelPath.display

/-- `build_from_applicable_state`; nothing is built without a model. -/
def buildFromApplicableState (applicableState : AgentApplicableState InferenceParameters)
    (desiredSlotsTotal : Int) (hdesired : desiredSlotsTotal ≤ i32Max) (gpuDevices : List Nat) :
    Option ContinuousBatchArbiter :=
  applicableState.modelPath.map fun modelPath =>
    { chatTemplateOverride := applicableState.chatTemplateOverride
      desiredSlotsTotal := desiredSlotsTotal
      desiredSlotsTotal_le := hdesired
      gpuDevices := gpuDevices
      inferenceParameters := applicableState.inferenceParameters
      multimodalProjectionPath := applicableState.multimodalProjectionPath
      modelPath := modelPath
      modelPathString := modelPath.display
      modelPathString_eq := rfl }

/-- `model_metadata.rs`. -/
structure ModelMetadata where
  metadata : List (String × String)
  deriving DecidableEq, Repr

def ModelMetadata.setMetaField (self : ModelMetadata) (key value : String) : ModelMetadata :=
  ⟨AssocList.insertKey key value self.metadata⟩

/-- What the crates around the startup answer.  A metadata entry is a key and a value, each of which
may not be readable; the three tokens are those of `token_bos`, `token_nl` and `token_eos`. -/
structure StartupAnswers where
  llamaBackendInit : Bool
  withDevices : List Nat → Bool
  loadFromFile : PathBuf → Bool
  metaEntries : List (Option String × Option String)
  chatTemplate : Option (Option String)
  rendererNew : ChatTemplate → Bool
  mtmdInitFromFile : PathBuf → Bool
  tokenBosToPiece : Option String
  tokenNlToPiece : Option String
  tokenEosToPiece : Option String
  llamaContextFromModel : Except String Unit

/-! ## The calls of the thread -/

/-- Where the thread may fail on its own. -/
inductive StartupFailure where
  | llamaBackend
  | desiredSlotsTotal
  | nBatch
  | gpuDevices
  | model
  | metadata
  | chatTemplate
  | chatTemplateRenderer (content : String)
  | multimodalProjection (path : PathBuf)
  | tokens
  | llamaContext (error : String)
  deriving DecidableEq, Repr

/-- Everything up to `LlamaModel::load_from_file`. -/
def loadModel (arbiter : ContinuousBatchArbiter) (answers : StartupAnswers) :
    Except StartupFailure Unit :=
  if !answers.llamaBackendInit then .error .llamaBackend
  else if arbiter.desiredSlotsTotal < 0 then .error .desiredSlotsTotal
  else if u32Max < arbiter.inferenceParameters.nBatch then .error .nBatch
  else if !arbiter.gpuDevices.isEmpty && !answers.withDevices arbiter.gpuDevices then .error
    .gpuDevices
  else if !answers.loadFromFile arbiter.modelPath then .error .model
  else .ok ()

/-- The loop over the metadata. -/
def readMetadata (metadata : ModelMetadata) :
    List (Option String × Option String) → Except StartupFailure ModelMetadata
  | [] => .ok metadata
  | entry :: entries =>
    match entry.1, entry.2 with
    | some key, some value => readMetadata (metadata.setMetaField key value) entries
    | _, _ => .error .metadata

/-- The template of the chat, or that none is needed. -/
def findChatTemplate (arbiter : ContinuousBatchArbiter) (answers : StartupAnswers) :
    Except StartupFailure (Option String) :=
  if arbiter.inferenceParameters.enableEmbeddings && arbiter.chatTemplateOverride.isNone then
    .ok none
  else
    match arbiter.chatTemplateOverride with
    | some chatTemplate => .ok (some chatTemplate.content)
    | none =>
      match answers.chatTemplate with
      | some (some content) => .ok (some content)
      | _ => .error .chatTemplate

/-- `ChatTemplateRenderer::new`. -/
def compileChatTemplate (answers : StartupAnswers) (content : String) :
    Except StartupFailure Unit :=
  if answers.rendererNew ⟨content⟩ then .ok () else .error (.chatTemplateRenderer content)

/-- `MtmdContext::init_from_file`, when a projection is configured. -/
def loadMultimodalProjection (arbiter : ContinuousBatchArbiter) (answers : StartupAnswers) :
    Except StartupFailure Unit :=
  match arbiter.multimodalProjectionPath with
  | none => .ok ()
  | some path => if answers.mtmdInitFromFile path then .ok ()
      else .error (.multimodalProjection path)

/-- The texts of the special tokens. -/
def readTokens (answers : StartupAnswers) : Except StartupFailure Unit :=
  match answers.tokenBosToPiece, answers.tokenNlToPiece, answers.tokenEosToPiece with
  | some _, some _, some _ => .ok ()
  | _, _, _ => .error .tokens

/-- `LlamaContext::from_model`, with the error as `{err:#}` writes it. -/
def createContext (answers : StartupAnswers) : Except StartupFailure Unit :=
  match answers.llamaContextFromModel with
  | .ok () => .ok ()
  | .error error => .error (.llamaContext ("Unable to create llama.cpp context: " ++ error))

/-- The calls from the projection on. -/
def startupFromProjection (arbiter : ContinuousBatchArbiter) (answers : StartupAnswers) :
    Except StartupFailure Unit := do
  loadMultimodalProjection arbiter answers
  readTokens answers
  createContext answers

/-- The calls once the template of the chat is found. -/
def startupFromTemplate (arbiter : ContinuousBatchArbiter) (answers : StartupAnswers) :
    Option String → Except StartupFailure Unit
  | some content => do
    compileChatTemplate answers content
    startupFromProjection arbiter answers
  | none => startupFromProjection arbiter answers

/-- **The startup without its channels**: the calls one after the other. -/
def startup (arbiter : ContinuousBatchArbiter) (answers : StartupAnswers) :
    Except StartupFailure Unit := do
  loadModel arbiter answers
  let _ ← readMetadata ⟨[]⟩ answers.metaEntries
  let chatTemplate ← findChatTemplate arbiter answers
  startupFromTemplate arbiter answers chatTemplate

/-! ## The two parties -/

/-- Why the thread returned an error. -/
inductive ThreadError where
  | startup (failure : StartupFailure)
  | signalNotSent
  deriving DecidableEq, Repr

/-- Where the thread is.  `returning` still has the senders it did not use. -/
inductive StartupThread where
  | loadingModel
  | readingMetadata
  | findingChatTemplate
  | compilingChatTemplate (content : String)
  | settingModelPath
  | loadingMultimodalProjection
  | readingTokens
  | creatingContext
  | registeringSlotIssues (error : String) (slotIndex : Nat)
  | signallingAgentWarm
  | schedulerRunning
  | returning (result : Except ThreadError Unit)
  | exited (result : Except ThreadError Unit)
  deriving DecidableEq

/-- What `spawn` came back with. -/
inductive StartupOutcome where
  | ready
  | cancelled
  | failed
  deriving DecidableEq, Repr

/-- Where the task is that awaits the signals. -/
inductive StartupTask where
  | awaitingModelLoaded
  | awaitingChatTemplateLoaded
  | checkingModelIssue
  | registeringTemplateIssue
  | awaitingAgentWarm
  | incrementingSlots (slotIndex : Nat)
  | fixingSlot (slotIndex : Nat)
  | joining
  | ended (outcome : StartupOutcome)
  deriving DecidableEq, Repr

/-- What the parties share, and where they are. -/
structure StartupState where
  status : SlotAggregatedStatus
  modelMetadataHolder : Option ModelMetadata
  modelLoaded : Oneshot Unit
  chatTemplateLoaded : Oneshot ChatTemplateLoadStatus
  agentWarm : Oneshot Unit
  shutdownSent : Bool
  thread : StartupThread
  task : StartupTask
  reconciledMeanwhile : Bool
  deriving DecidableEq

/-- `apply_state` resets the status, then `spawn` makes the channels and the thread. -/
def start (status : SlotAggregatedStatus) (modelMetadataHolder : Option ModelMetadata) :
    StartupState :=
  { status := status.reset
    modelMetadataHolder := modelMetadataHolder
    modelLoaded := .channel
    chatTemplateLoaded := .channel
    agentWarm := .channel
    shutdownSent := false
    thread := .loadingModel
    task := .awaitingModelLoaded
    reconciledMeanwhile := false }

/-- The slots as `n_seq_max`. -/
def ContinuousBatchArbiter.nSeqMax (self : ContinuousBatchArbiter) : Nat :=
  self.desiredSlotsTotal.toNat

/-- The path of the model, as issues and fixes name it. -/
def ContinuousBatchArbiter.issuePath (self : ContinuousBatchArbiter) : ModelPath :=
  ⟨self.modelPathString⟩

namespace StartupState

/-- The thread returns an error. -/
def fail (s : StartupState) (failure : StartupFailure) : StartupState :=
  { s with thread := .returning (.error (.startup failure)) }

def registerIssue (s : StartupState) (issue : AgentIssue) : StartupState :=
  { s with status := s.status.registerIssue issue }

def registerFix (s : StartupState) (fix : AgentIssueFix) : StartupState :=
  { s with status := s.status.registerFix fix }

/-- `send_startup_signal`: where the thread goes on, unless nobody waits for the signal any more. -/
def afterSignal {α : Type} (channel : Oneshot α) (next : StartupThread) : StartupThread :=
  if channel.receiverDropped then .returning (.error .signalNotSent) else next

end StartupState

/-- The issue of the slot `slotIndex`. -/
def slotIssue (error : String) (slotIndex : Nat) : AgentIssue :=
  .slotCannotStart ⟨error, UInt32.ofNat slotIndex⟩

/-- The issue of a template that does not compile: `{err}` writes only the outermost error. -/
def templateIssue (arbiter : ContinuousBatchArbiter) (content : String) : AgentIssue :=
  .chatTemplateDoesNotCompile
    ⟨"Failed to create chat template renderer", ⟨arbiter.modelPath.display⟩, content⟩

/-- The next step of the thread. -/
def threadStep (arbiter : ContinuousBatchArbiter) (answers : StartupAnswers) (s : StartupState) :
    StartupState :=
  match s.thread with
  | .loadingModel =>
    match loadModel arbiter answers with
    | .error failure => s.fail failure
    | .ok () =>
      { s with
        modelLoaded := s.modelLoaded.send ()
        thread := StartupState.afterSignal s.modelLoaded .readingMetadata }
  | .readingMetadata =>
    match readMetadata ⟨[]⟩ answers.metaEntries with
    | .error failure => s.fail failure
    | .ok metadata => { s with modelMetadataHolder := some metadata, thread := .findingChatTemplate }
  | .findingChatTemplate =>
    match findChatTemplate arbiter answers with
    | .error failure => s.fail failure
    | .ok none =>
      { s with
        chatTemplateLoaded := s.chatTemplateLoaded.send .skippedForEmbeddings
        thread := StartupState.afterSignal s.chatTemplateLoaded .settingModelPath }
    | .ok (some content) =>
      { s with
        chatTemplateLoaded := s.chatTemplateLoaded.send .loaded
        thread := StartupState.afterSignal s.chatTemplateLoaded (.compilingChatTemplate content) }
  | .compilingChatTemplate content =>
    match compileChatTemplate answers content with
    | .error failure => (s.registerIssue (templateIssue arbiter content)).fail failure
    | .ok () =>
      { s.registerFix (.chatTemplateIsCompiled ⟨arbiter.modelPath.display⟩) with
        thread := .settingModelPath }
  | .settingModelPath =>
    { s with
      status := s.status.setModelPath (some arbiter.modelPathString)
      thread := .loadingMultimodalProjection }
  | .loadingMultimodalProjection =>
    match arbiter.multimodalProjectionPath with
    | none => { s with thread := .readingTokens }
    | some path =>
      match loadMultimodalProjection arbiter answers with
      | .error failure =>
        (s.registerIssue (.multimodalProjectionCannotBeLoaded ⟨path.display⟩)).fail failure
      | .ok () =>
        { s.registerFix (.multimodalProjectionIsLoaded
          ⟨path.display⟩) with thread := .readingTokens }
  | .readingTokens =>
    match readTokens answers with
    | .error failure => s.fail failure
    | .ok () => { s with thread := .creatingContext }
  | .creatingContext =>
    match createContext answers with
    | .error (.llamaContext error) => { s with thread := .registeringSlotIssues error 0 }
    | .error failure => s.fail failure
    | .ok () => { s with thread := .signallingAgentWarm }
  | .registeringSlotIssues error slotIndex =>
    if slotIndex < arbiter.nSeqMax then
      { s.registerIssue (slotIssue error slotIndex) with
        thread := .registeringSlotIssues error (slotIndex + 1) }
    else s.fail (.llamaContext error)
  | .signallingAgentWarm =>
    { s with
      agentWarm := s.agentWarm.send ()
      thread := StartupState.afterSignal s.agentWarm .schedulerRunning }
  | .schedulerRunning =>
    -- the scheduler waits for a command, and the only one that can come is the shutdown
    if s.shutdownSent then { s with thread := .returning (.ok ()) } else s
  | .returning result =>
    { s with
      modelLoaded := s.modelLoaded.dropSender
      chatTemplateLoaded := s.chatTemplateLoaded.dropSender
      agentWarm := s.agentWarm.dropSender
      thread := .exited result }
  | .exited _ => s

/-- The next step of the task: `await_startup_signals`, then the rest of `spawn`.  A task that waits
for something that has not happened stays where it is. -/
def taskStep (arbiter : ContinuousBatchArbiter) (s : StartupState) : StartupState :=
  match s.task with
  | .awaitingModelLoaded =>
    match s.modelLoaded.sender with
    | .waiting => s
    | .sent () =>
      { s.registerFix (.modelIsLoaded arbiter.issuePath) with task := .awaitingChatTemplateLoaded }
    | .dropped =>
      { s.registerIssue (.modelCannotBeLoaded arbiter.issuePath) with
        task := .awaitingChatTemplateLoaded }
  | .awaitingChatTemplateLoaded =>
    match s.chatTemplateLoaded.sender with
    | .waiting => s
    | .sent .loaded =>
      { s.registerFix (.modelChatTemplateIsLoaded
        arbiter.issuePath) with task := .awaitingAgentWarm }
    | .sent .skippedForEmbeddings => { s with task := .awaitingAgentWarm }
    | .dropped => { s with task := .checkingModelIssue }
  | .checkingModelIssue =>
    if .modelCannotBeLoaded arbiter.issuePath ∈ s.status.issues then { s with task := .awaitingAgentWarm }
    else { s with task := .registeringTemplateIssue }
  | .registeringTemplateIssue =>
    { s.registerIssue (.unableToFindChatTemplate
      arbiter.issuePath) with task := .awaitingAgentWarm }
  | .awaitingAgentWarm =>
    match s.agentWarm.sender with
    | .waiting => s
    | .sent () =>
      if arbiter.desiredSlotsTotal < 0 then { s with task := .ended .failed }
      else { s with task := .incrementingSlots 0 }
    | .dropped => { s with task := .ended .failed }
  | .incrementingSlots slotIndex =>
    if slotIndex < arbiter.nSeqMax then
      { s with
        status := s.status.incrementTotalSlots
        task := .fixingSlot slotIndex }
    else { s with task := .ended .ready }
  | .fixingSlot slotIndex =>
    { s.registerFix (.slotStarted
      (UInt32.ofNat slotIndex)) with task := .incrementingSlots (slotIndex + 1) }
  | .joining =>
    match s.thread with
    | .exited _ => { s with task := .ended .cancelled }
    | _ => s
  | .ended _ => s

/-- The task is at an `await` of `await_startup_signals`. -/
def StartupTask.awaits : StartupTask → Bool
  | .awaitingModelLoaded | .awaitingChatTemplateLoaded | .awaitingAgentWarm => true
  | _ => false

/-- The token is cancelled: at its next `await` the task drops its receivers, sends the shutdown and
joins the thread. -/
def cancelStep (s : StartupState) : StartupState :=
  if s.task.awaits then
    { s with
      modelLoaded := s.modelLoaded.dropReceiver
      chatTemplateLoaded := s.chatTemplateLoaded.dropReceiver
      agentWarm := s.agentWarm.dropReceiver
      shutdownSent := true
      task := .joining }
  else s

/-- A write of another task of the agent. -/
def otherStep (s : StartupState) (mutation : StatusMutation) : StartupState :=
  { s with
    status := mutation.apply s.status
    reconciledMeanwhile := s.reconciledMeanwhile || mutation ==
      .registerFix .modelStateIsReconciled }

/-- Who goes next. -/
inductive StartupInput where
  | thread
  | task
  | cancel
  | other (mutation : StatusMutation)
  deriving DecidableEq

/-- One step. -/
def step (arbiter : ContinuousBatchArbiter) (answers : StartupAnswers) (s : StartupState) :
    StartupInput → StartupState
  | .thread => threadStep arbiter answers s
  | .task => taskStep arbiter s
  | .cancel => cancelStep s
  | .other mutation => otherStep s mutation

/-! ## The calls of the thread -/

/-- How many signals come before the failure. -/
def StartupFailure.signals : StartupFailure → Nat
  | .llamaBackend | .desiredSlotsTotal | .nBatch | .gpuDevices | .model => 0
  | .metadata | .chatTemplate => 1
  | .chatTemplateRenderer _ | .multimodalProjection _ | .tokens | .llamaContext _ => 2

namespace StartupThread

/-- A signal could not be sent. -/
def undelivered : StartupThread → Bool
  | .returning (.error .signalNotSent) | .exited (.error .signalNotSent) => true
  | _ => false

/-- How many signals the thread has sent, if it could send them. -/
def signals : StartupThread → Nat
  | .loadingModel | .returning (.error .signalNotSent) | .exited (.error .signalNotSent) => 0
  | .readingMetadata | .findingChatTemplate => 1
  | .compilingChatTemplate _ | .settingModelPath | .loadingMultimodalProjection | .readingTokens
  | .creatingContext | .registeringSlotIssues _ _ | .signallingAgentWarm => 2
  | .schedulerRunning | .returning (.ok ()) | .exited (.ok ()) => 3
  | .returning (.error (.startup failure)) | .exited (.error (.startup failure)) => failure.signals

/-- The senders are gone. -/
def isExited : StartupThread → Bool
  | .exited _ => true
  | _ => false

end StartupThread

/-- The calls that are still to come, or how they ended. -/
def remaining (arbiter : ContinuousBatchArbiter) (answers : StartupAnswers) :
    StartupThread → Except StartupFailure Unit
  | .loadingModel | .returning (.error .signalNotSent) | .exited (.error .signalNotSent) =>
    startup arbiter answers
  | .readingMetadata => do
    let _ ← readMetadata ⟨[]⟩ answers.metaEntries
    let chatTemplate ← findChatTemplate arbiter answers
    startupFromTemplate arbiter answers chatTemplate
  | .findingChatTemplate => do
    let chatTemplate ← findChatTemplate arbiter answers
    startupFromTemplate arbiter answers chatTemplate
  | .compilingChatTemplate content => startupFromTemplate arbiter answers (some content)
  | .settingModelPath | .loadingMultimodalProjection => startupFromProjection arbiter answers
  | .readingTokens => do
    readTokens answers
    createContext answers
  | .creatingContext => createContext answers
  | .registeringSlotIssues error _ => .error (.llamaContext error)
  | .signallingAgentWarm | .schedulerRunning | .returning (.ok ()) | .exited (.ok ()) => .ok ()
  | .returning (.error (.startup failure)) | .exited (.error (.startup failure)) => .error failure

/-- What a sender did, by whether its signal was due and whether the thread has exited. -/
def SenderAt {α : Type} (due exited : Bool) : OneshotSender α → Prop
  | .waiting => due = false ∧ exited = false
  | .sent _ => due = true
  | .dropped => due = false ∧ exited = true

/-- The task was cancelled, so its receivers are gone. -/
def StartupTask.isCancelled : StartupTask → Bool
  | .joining | .ended .cancelled => true
  | _ => false

variable {arbiter : ContinuousBatchArbiter} {answers : StartupAnswers} {s : StartupState}

theorem SenderAt.send {α : Type} {channel : Oneshot α} {value : α}
    (h : channel.receiverDropped = false) (exited : Bool) :
    SenderAt true exited (channel.send value).sender := by
  simp [Oneshot.send, h, SenderAt]

theorem SenderAt.dropSender {α : Type} {channel : Oneshot α} {due : Bool}
    (h : SenderAt due false channel.sender) : SenderAt due true channel.dropSender.sender := by
  unfold Oneshot.dropSender
  cases hsender : channel.sender with
  | waiting =>
    rw [hsender] at h
    exact ⟨h.1, rfl⟩
  | sent value =>
    rw [hsender] at h
    simpa [SenderAt, hsender] using h
  | dropped =>
    rw [hsender] at h
    exact absurd h.2 Bool.false_ne_true

@[simp] theorem Oneshot.send_receiverDropped {α : Type} (channel : Oneshot α) (value : α) :
    (channel.send value).receiverDropped = channel.receiverDropped := rfl

@[simp] theorem Oneshot.dropSender_receiverDropped {α : Type} (channel : Oneshot α) :
    channel.dropSender.receiverDropped = channel.receiverDropped := by
  unfold Oneshot.dropSender
  split <;> rfl

/-- What the thread has done, as the others can see it. -/
structure ThreadInv (arbiter : ContinuousBatchArbiter) (answers : StartupAnswers)
    (s : StartupState) :
    Prop where
  calls : startup arbiter answers = remaining arbiter answers s.thread
  modelLoaded : s.thread.undelivered = false →
    SenderAt (decide (0 < s.thread.signals)) s.thread.isExited s.modelLoaded.sender
  chatTemplateLoaded : s.thread.undelivered = false →
    SenderAt (decide (1 < s.thread.signals)) s.thread.isExited s.chatTemplateLoaded.sender
  agentWarm : s.thread.undelivered = false →
    SenderAt (decide (2 < s.thread.signals)) s.thread.isExited s.agentWarm.sender
  receivers : s.modelLoaded.receiverDropped = s.task.isCancelled ∧
    s.chatTemplateLoaded.receiverDropped = s.task.isCancelled ∧
    s.agentWarm.receiverDropped = s.task.isCancelled
  undelivered : s.thread.undelivered = true → s.task.isCancelled = true

theorem loadModel_error {failure : StartupFailure}
    (h : loadModel arbiter answers = .error failure) :
    failure.signals = 0 := by
  unfold loadModel at h
  split at h
  · cases h; rfl
  split at h
  · cases h; rfl
  split at h
  · cases h; rfl
  split at h
  · cases h; rfl
  split at h
  · cases h; rfl
  · cases h

theorem loadModel_ok (h : loadModel arbiter answers = .ok ()) : 0 ≤ arbiter.desiredSlotsTotal := by
  unfold loadModel at h
  split at h
  · cases h
  split at h
  · cases h
  · omega

theorem readMetadata_error {failure : StartupFailure} :
    ∀ {entries : List (Option String × Option String)} {metadata : ModelMetadata},
      readMetadata metadata entries = .error failure → failure = .metadata
  | [], _, h => by cases h
  | entry :: entries, metadata, h => by
    unfold readMetadata at h
    split at h
    · exact readMetadata_error h
    · cases h
      rfl

theorem findChatTemplate_error {failure : StartupFailure}
    (h : findChatTemplate arbiter answers = .error failure) : failure = .chatTemplate := by
  unfold findChatTemplate at h
  split at h
  · cases h
  split at h
  · cases h
  split at h
  · cases h
  · cases h
    rfl

theorem compileChatTemplate_error {failure : StartupFailure} {content : String}
    (h : compileChatTemplate answers content = .error failure) :
    failure = .chatTemplateRenderer content := by
  unfold compileChatTemplate at h
  split at h
  · cases h
  · cases h
    rfl

theorem loadMultimodalProjection_error {failure : StartupFailure} {path : PathBuf}
    (hpath : arbiter.multimodalProjectionPath = some path)
    (h : loadMultimodalProjection arbiter answers = .error failure) :
    failure = .multimodalProjection path := by
  unfold loadMultimodalProjection at h
  rw [hpath] at h
  dsimp only at h
  split at h
  · cases h
  · cases h
    rfl

theorem readTokens_error {failure : StartupFailure} (h : readTokens answers = .error failure) :
    failure = .tokens := by
  unfold readTokens at h
  split at h
  · cases h
  · cases h
    rfl

theorem createContext_error {failure : StartupFailure}
    (h : createContext answers = .error failure) :
    ∃ error, failure = .llamaContext error := by
  unfold createContext at h
  split at h
  · cases h
  · cases h
    exact ⟨_, rfl⟩

/-! ## Steps of the thread -/

@[simp] theorem registerIssue_modelPath (status : SlotAggregatedStatus) (issue : AgentIssue) :
    (status.registerIssue issue).modelPath = status.modelPath := by
  unfold SlotAggregatedStatus.registerIssue
  split <;> rfl

@[simp] theorem registerFix_modelPath (status : SlotAggregatedStatus) (fix : AgentIssueFix) :
    (status.registerFix fix).modelPath = status.modelPath := by
  unfold SlotAggregatedStatus.registerFix
  dsimp only
  split <;> rfl

@[simp] theorem registerIssue_slotsTotal (status : SlotAggregatedStatus) (issue : AgentIssue) :
    (status.registerIssue issue).slotsTotal = status.slotsTotal := by
  unfold SlotAggregatedStatus.registerIssue
  split <;> rfl

@[simp] theorem registerFix_slotsTotal (status : SlotAggregatedStatus) (fix : AgentIssueFix) :
    (status.registerFix fix).slotsTotal = status.slotsTotal := by
  unfold SlotAggregatedStatus.registerFix
  dsimp only
  split <;> rfl

/-- What a step of the thread that sends no signal does to what the others can see of it. -/
structure SameSignals (s s' : StartupState) : Prop where
  modelLoaded : s'.modelLoaded = s.modelLoaded
  chatTemplateLoaded : s'.chatTemplateLoaded = s.chatTemplateLoaded
  agentWarm : s'.agentWarm = s.agentWarm
  isCancelled : s'.task.isCancelled = s.task.isCancelled
  undelivered : s'.thread.undelivered = s.thread.undelivered
  signals : s'.thread.signals = s.thread.signals
  isExited : s'.thread.isExited = s.thread.isExited

namespace ThreadInv

theorem sameSignals (h : ThreadInv arbiter answers s) {s' : StartupState} (hsame : SameSignals s s')
    (hcalls : remaining arbiter answers s'.thread = remaining arbiter answers s.thread) :
    ThreadInv arbiter answers s' where
  calls := hcalls ▸ h.calls
  modelLoaded := by
    rw [hsame.undelivered, hsame.signals, hsame.isExited, hsame.modelLoaded]
    exact h.modelLoaded
  chatTemplateLoaded := by
    rw [hsame.undelivered, hsame.signals, hsame.isExited, hsame.chatTemplateLoaded]
    exact h.chatTemplateLoaded
  agentWarm := by
    rw [hsame.undelivered, hsame.signals, hsame.isExited, hsame.agentWarm]
    exact h.agentWarm
  receivers := by
    rw [hsame.modelLoaded, hsame.chatTemplateLoaded, hsame.agentWarm, hsame.isCancelled]
    exact h.receivers
  undelivered := by
    rw [hsame.undelivered, hsame.isCancelled]
    exact h.undelivered

/-- The thread returns the error of the call that failed. -/
theorem fails (h : ThreadInv arbiter answers s) {s' : StartupState} {failure : StartupFailure}
    (hmodelLoaded : s'.modelLoaded = s.modelLoaded)
    (hchatTemplateLoaded : s'.chatTemplateLoaded = s.chatTemplateLoaded)
    (hagentWarm : s'.agentWarm = s.agentWarm) (htask : s'.task = s.task)
    (hthread : s'.thread = .returning (.error (.startup failure)))
    (hundelivered : s.thread.undelivered = false) (hexited : s.thread.isExited = false)
    (hsignals : failure.signals = s.thread.signals)
    (hcalls : remaining arbiter answers s.thread = .error failure) :
    ThreadInv arbiter answers s' := by
  refine h.sameSignals ⟨hmodelLoaded, hchatTemplateLoaded, hagentWarm, by rw [htask], ?_, ?_, ?_⟩ ?_
  · rw [hthread, hundelivered]
    rfl
  · rw [hthread, ← hsignals]
    rfl
  · rw [hthread, hexited]
    rfl
  · rw [hthread, hcalls]
    rfl

/-- After a cancellation a signal cannot be sent, and the thread returns. -/
theorem unsent (h : ThreadInv arbiter answers s) {s' : StartupState}
    (hmodelLoaded : s'.modelLoaded.receiverDropped = s.modelLoaded.receiverDropped)
    (hchatTemplateLoaded : s'.chatTemplateLoaded.receiverDropped =
      s.chatTemplateLoaded.receiverDropped)
    (hagentWarm : s'.agentWarm.receiverDropped = s.agentWarm.receiverDropped)
    (htask : s'.task = s.task) (hthread : s'.thread = .returning (.error .signalNotSent))
    (hcancelled : s.task.isCancelled = true) :
    ThreadInv arbiter answers s' where
  calls := by rw [hthread]; rfl
  modelLoaded := by rw [hthread]; exact fun hfalse => absurd hfalse.symm Bool.false_ne_true
  chatTemplateLoaded := by rw [hthread]; exact fun hfalse => absurd hfalse.symm Bool.false_ne_true
  agentWarm := by rw [hthread]; exact fun hfalse => absurd hfalse.symm Bool.false_ne_true
  receivers := by
    rw [hmodelLoaded, hchatTemplateLoaded, hagentWarm, htask]
    exact h.receivers
  undelivered := fun _ => by rw [htask]; exact hcancelled

theorem loadingModel (h : ThreadInv arbiter answers s) (hthread : s.thread = .loadingModel) :
    ThreadInv arbiter answers (threadStep arbiter answers s) := by
  have hcalls := h.calls
  have hchannels := And.intro h.chatTemplateLoaded h.agentWarm
  simp only [threadStep, hthread]
  rw [hthread] at hcalls hchannels
  cases hload : loadModel arbiter answers with
  | error failure =>
    refine h.fails rfl rfl rfl rfl rfl (by rw [hthread]; rfl) (by rw [hthread]; rfl) ?_ ?_
    · rw [hthread, loadModel_error hload]
      rfl
    · rw [hthread]
      simp [remaining, startup, hload, bind, Except.bind]
  | ok =>
    cases hcancelled : s.task.isCancelled with
    | true =>
      refine h.unsent rfl rfl rfl rfl ?_ hcancelled
      simp [StartupState.afterSignal, h.receivers.1, hcancelled]
    | false =>
      have hreceiver : s.modelLoaded.receiverDropped = false := h.receivers.1.trans hcancelled
      have hnext : StartupState.afterSignal s.modelLoaded .readingMetadata = .readingMetadata := by
        simp [StartupState.afterSignal, hreceiver]
      simp only [hnext]
      exact
        { calls := by
            rw [hcalls]
            simp [remaining, startup, hload, bind, Except.bind]
          modelLoaded := fun _ => SenderAt.send hreceiver _
          chatTemplateLoaded := fun _ => hchannels.1 rfl
          agentWarm := fun _ => hchannels.2 rfl
          receivers := h.receivers
          undelivered := fun hfalse => absurd hfalse Bool.false_ne_true }

theorem readingMetadata (h : ThreadInv arbiter answers s) (hthread : s.thread = .readingMetadata) :
    ThreadInv arbiter answers (threadStep arbiter answers s) := by
  simp only [threadStep, hthread]
  cases hread : readMetadata ⟨[]⟩ answers.metaEntries with
  | error failure =>
    refine h.fails rfl rfl rfl rfl rfl (by rw [hthread]; rfl) (by rw [hthread]; rfl) ?_ ?_
    · rw [hthread, readMetadata_error hread]
      rfl
    · rw [hthread]
      simp [remaining, hread, bind, Except.bind]
  | ok metadata =>
    refine h.sameSignals ⟨rfl, rfl, rfl, rfl, by rw [hthread]; rfl, by rw [hthread]; rfl,
      by rw [hthread]; rfl⟩ ?_
    rw [hthread]
    simp [remaining, hread, bind, Except.bind]

/-- The second signal is sent, and the thread goes on with the calls that follow it. -/
theorem chatTemplateFound (h : ThreadInv arbiter answers s)
    (hthread : s.thread = .findingChatTemplate) (status : ChatTemplateLoadStatus)
    {next : StartupThread} (hundelivered : next.undelivered = false) (hsignals : next.signals = 2)
    (hexited : next.isExited = false)
    (hcalls : remaining arbiter answers .findingChatTemplate = remaining arbiter answers next) :
    ThreadInv arbiter answers { s with
      chatTemplateLoaded := s.chatTemplateLoaded.send status
      thread := StartupState.afterSignal s.chatTemplateLoaded next } := by
  have hmodelLoaded := h.modelLoaded
  have hagentWarm := h.agentWarm
  rw [hthread] at hmodelLoaded hagentWarm
  cases hcancelled : s.task.isCancelled with
  | true =>
    refine h.unsent rfl rfl rfl rfl ?_ hcancelled
    simp [StartupState.afterSignal, h.receivers.2.1, hcancelled]
  | false =>
    have hreceiver : s.chatTemplateLoaded.receiverDropped = false :=
      h.receivers.2.1.trans hcancelled
    have hnext : StartupState.afterSignal s.chatTemplateLoaded next = next := by
      simp [StartupState.afterSignal, hreceiver]
    simp only [hnext]
    refine
      { calls := by rw [h.calls, hthread, hcalls]
        modelLoaded := fun _ => ?_
        chatTemplateLoaded := fun _ => ?_
        agentWarm := fun _ => ?_
        receivers := h.receivers
        undelivered := fun htrue => absurd (hundelivered.symm.trans htrue) Bool.false_ne_true }
    · rw [hsignals, hexited]
      exact hmodelLoaded rfl
    · rw [hsignals]
      exact SenderAt.send hreceiver _
    · rw [hsignals, hexited]
      exact hagentWarm rfl

theorem findingChatTemplate (h : ThreadInv arbiter answers s)
    (hthread : s.thread = .findingChatTemplate) :
    ThreadInv arbiter answers (threadStep arbiter answers s) := by
  simp only [threadStep, hthread]
  cases hfind : findChatTemplate arbiter answers with
  | error failure =>
    refine h.fails rfl rfl rfl rfl rfl (by rw [hthread]; rfl) (by rw [hthread]; rfl) ?_ ?_
    · rw [hthread, findChatTemplate_error hfind]
      rfl
    · rw [hthread]
      simp [remaining, hfind, bind, Except.bind]
  | ok chatTemplate =>
    cases chatTemplate with
    | none =>
      refine h.chatTemplateFound hthread .skippedForEmbeddings rfl rfl rfl ?_
      simp [remaining, startupFromTemplate, hfind, bind, Except.bind]
    | some content =>
      refine h.chatTemplateFound hthread .loaded rfl rfl rfl ?_
      simp [remaining, hfind, bind, Except.bind]

theorem compilingChatTemplate (h : ThreadInv arbiter answers s) {content : String}
    (hthread : s.thread = .compilingChatTemplate content) :
    ThreadInv arbiter answers (threadStep arbiter answers s) := by
  simp only [threadStep, hthread]
  cases hcompile : compileChatTemplate answers content with
  | error failure =>
    refine h.fails rfl rfl rfl rfl rfl (by rw [hthread]; rfl) (by rw [hthread]; rfl) ?_ ?_
    · rw [hthread, compileChatTemplate_error hcompile]
      rfl
    · rw [hthread]
      simp [remaining, startupFromTemplate, hcompile, bind, Except.bind]
  | ok =>
    refine h.sameSignals ⟨rfl, rfl, rfl, rfl, by rw [hthread]; rfl, by rw [hthread]; rfl,
      by rw [hthread]; rfl⟩ ?_
    rw [hthread]
    simp [remaining, startupFromTemplate, hcompile, bind, Except.bind]

theorem settingModelPath (h : ThreadInv arbiter answers s)
    (hthread : s.thread = .settingModelPath) :
    ThreadInv arbiter answers (threadStep arbiter answers s) := by
  simp only [threadStep, hthread]
  refine h.sameSignals ⟨rfl, rfl, rfl, rfl, by rw [hthread]; rfl, by rw [hthread]; rfl,
    by rw [hthread]; rfl⟩ ?_
  rw [hthread]
  rfl

theorem loadingMultimodalProjection (h : ThreadInv arbiter answers s)
    (hthread : s.thread = .loadingMultimodalProjection) :
    ThreadInv arbiter answers (threadStep arbiter answers s) := by
  simp only [threadStep, hthread]
  split
  · rename_i hpath
    refine h.sameSignals ⟨rfl, rfl, rfl, rfl, by rw [hthread]; rfl, by rw [hthread]; rfl,
      by rw [hthread]; rfl⟩ ?_
    rw [hthread]
    simp [remaining, startupFromProjection, ModelStartup.loadMultimodalProjection, hpath, bind,
      Except.bind]
  · rename_i path hpath
    cases hload : ModelStartup.loadMultimodalProjection arbiter answers with
    | error failure =>
      refine h.fails rfl rfl rfl rfl rfl (by rw [hthread]; rfl) (by rw [hthread]; rfl) ?_ ?_
      · rw [hthread, loadMultimodalProjection_error hpath hload]
        rfl
      · rw [hthread]
        simp [remaining, startupFromProjection, hload, bind, Except.bind]
    | ok =>
      refine h.sameSignals ⟨rfl, rfl, rfl, rfl, by rw [hthread]; rfl, by rw [hthread]; rfl,
        by rw [hthread]; rfl⟩ ?_
      rw [hthread]
      simp [remaining, startupFromProjection, hload, bind, Except.bind]

theorem readingTokens (h : ThreadInv arbiter answers s) (hthread : s.thread = .readingTokens) :
    ThreadInv arbiter answers (threadStep arbiter answers s) := by
  simp only [threadStep, hthread]
  cases hread : readTokens answers with
  | error failure =>
    refine h.fails rfl rfl rfl rfl rfl (by rw [hthread]; rfl) (by rw [hthread]; rfl) ?_ ?_
    · rw [hthread, readTokens_error hread]
      rfl
    · rw [hthread]
      simp [remaining, hread, bind, Except.bind]
  | ok =>
    refine h.sameSignals ⟨rfl, rfl, rfl, rfl, by rw [hthread]; rfl, by rw [hthread]; rfl,
      by rw [hthread]; rfl⟩ ?_
    rw [hthread]
    simp [remaining, hread, bind, Except.bind]

theorem creatingContext (h : ThreadInv arbiter answers s) (hthread : s.thread = .creatingContext) :
    ThreadInv arbiter answers (threadStep arbiter answers s) := by
  simp only [threadStep, hthread]
  cases hcreate : createContext answers with
  | error failure =>
    obtain ⟨error, rfl⟩ := createContext_error hcreate
    refine h.sameSignals ⟨rfl, rfl, rfl, rfl, by rw [hthread]; rfl, by rw [hthread]; rfl,
      by rw [hthread]; rfl⟩ ?_
    rw [hthread]
    exact hcreate.symm
  | ok =>
    refine h.sameSignals ⟨rfl, rfl, rfl, rfl, by rw [hthread]; rfl, by rw [hthread]; rfl,
      by rw [hthread]; rfl⟩ ?_
    rw [hthread]
    exact hcreate.symm

theorem registeringSlotIssues (h : ThreadInv arbiter answers s) {error : String} {slotIndex : Nat}
    (hthread : s.thread = .registeringSlotIssues error slotIndex) :
    ThreadInv arbiter answers (threadStep arbiter answers s) := by
  simp only [threadStep, hthread]
  split
  · refine h.sameSignals ⟨rfl, rfl, rfl, rfl, by rw [hthread]; rfl, by rw [hthread]; rfl,
      by rw [hthread]; rfl⟩ (by rw [hthread]; rfl)
  · refine h.fails rfl rfl rfl rfl rfl (by rw [hthread]; rfl) (by rw [hthread]; rfl) ?_ ?_
    · rw [hthread]
      rfl
    · rw [hthread]
      rfl

theorem signallingAgentWarm (h : ThreadInv arbiter answers s)
    (hthread : s.thread = .signallingAgentWarm) :
    ThreadInv arbiter answers (threadStep arbiter answers s) := by
  have hcalls := h.calls
  have hmodelLoaded := h.modelLoaded
  have hchatTemplateLoaded := h.chatTemplateLoaded
  simp only [threadStep, hthread]
  rw [hthread] at hcalls hmodelLoaded hchatTemplateLoaded
  cases hcancelled : s.task.isCancelled with
  | true =>
    refine h.unsent rfl rfl rfl rfl ?_ hcancelled
    simp [StartupState.afterSignal, h.receivers.2.2, hcancelled]
  | false =>
    have hreceiver : s.agentWarm.receiverDropped = false := h.receivers.2.2.trans hcancelled
    have hnext : StartupState.afterSignal s.agentWarm .schedulerRunning = .schedulerRunning := by
      simp [StartupState.afterSignal, hreceiver]
    simp only [hnext]
    exact
      { calls := hcalls
        modelLoaded := fun _ => hmodelLoaded rfl
        chatTemplateLoaded := fun _ => hchatTemplateLoaded rfl
        agentWarm := fun _ => SenderAt.send hreceiver _
        receivers := h.receivers
        undelivered := fun hfalse => absurd hfalse Bool.false_ne_true }

theorem schedulerRunning (h : ThreadInv arbiter answers s)
    (hthread : s.thread = .schedulerRunning) :
    ThreadInv arbiter answers (threadStep arbiter answers s) := by
  simp only [threadStep, hthread]
  split
  · exact h.sameSignals ⟨rfl, rfl, rfl, rfl, by rw [hthread]; rfl, by rw [hthread]; rfl,
      by rw [hthread]; rfl⟩ (by rw [hthread]; rfl)
  · exact h

theorem returning (h : ThreadInv arbiter answers s) {result : Except ThreadError Unit}
    (hthread : s.thread = .returning result) :
    ThreadInv arbiter answers (threadStep arbiter answers s) := by
  have hundelivered : (StartupThread.exited result).undelivered = s.thread.undelivered := by
    rw [hthread]
    cases result with
    | ok => rfl
    | error err => cases err <;> rfl
  have hsignals : (StartupThread.exited result).signals = s.thread.signals := by
    rw [hthread]
    cases result with
    | ok => rfl
    | error err => cases err <;> rfl
  have hcalls : remaining arbiter answers (.exited result) =
      remaining arbiter answers s.thread := by
    rw [hthread]
    cases result with
    | ok => rfl
    | error err => cases err <;> rfl
  have hexited : s.thread.isExited = false := by
    rw [hthread]
    rfl
  have hmodelLoaded := h.modelLoaded
  have hchatTemplateLoaded := h.chatTemplateLoaded
  have hagentWarm := h.agentWarm
  rw [hexited, ← hsignals, ← hundelivered] at hmodelLoaded hchatTemplateLoaded hagentWarm
  simp only [threadStep, hthread]
  exact
    { calls := h.calls.trans hcalls.symm
      modelLoaded := fun hu => (hmodelLoaded hu).dropSender
      chatTemplateLoaded := fun hu => (hchatTemplateLoaded hu).dropSender
      agentWarm := fun hu => (hagentWarm hu).dropSender
      receivers := by
        simp only [Oneshot.dropSender_receiverDropped]
        exact h.receivers
      undelivered := fun hu => h.undelivered (hundelivered ▸ hu) }

/-- **A step of the thread keeps what the others can see of it.** -/
theorem threadStep (h : ThreadInv arbiter answers s) :
    ThreadInv arbiter answers (threadStep arbiter answers s) := by
  cases hthread : s.thread with
  | loadingModel => exact h.loadingModel hthread
  | readingMetadata => exact h.readingMetadata hthread
  | findingChatTemplate => exact h.findingChatTemplate hthread
  | compilingChatTemplate content => exact h.compilingChatTemplate hthread
  | settingModelPath => exact h.settingModelPath hthread
  | loadingMultimodalProjection => exact h.loadingMultimodalProjection hthread
  | readingTokens => exact h.readingTokens hthread
  | creatingContext => exact h.creatingContext hthread
  | registeringSlotIssues error slotIndex => exact h.registeringSlotIssues hthread
  | signallingAgentWarm => exact h.signallingAgentWarm hthread
  | schedulerRunning => exact h.schedulerRunning hthread
  | returning result => exact h.returning hthread
  | exited result =>
    simp only [ModelStartup.threadStep, hthread]
    exact h

end ThreadInv

/-- What a step of the task leaves as it is. -/
structure TaskFrame (s s' : StartupState) : Prop where
  thread : s'.thread = s.thread
  modelLoaded : s'.modelLoaded = s.modelLoaded
  chatTemplateLoaded : s'.chatTemplateLoaded = s.chatTemplateLoaded
  agentWarm : s'.agentWarm = s.agentWarm
  modelMetadataHolder : s'.modelMetadataHolder = s.modelMetadataHolder
  shutdownSent : s'.shutdownSent = s.shutdownSent
  reconciledMeanwhile : s'.reconciledMeanwhile = s.reconciledMeanwhile
  isCancelled : s'.task.isCancelled = s.task.isCancelled
  modelPath : s'.status.modelPath = s.status.modelPath

theorem TaskFrame.rfl {s : StartupState} : TaskFrame s s :=
  ⟨.refl _, .refl _, .refl _, .refl _, .refl _, .refl _, .refl _, .refl _, .refl _⟩

theorem TaskFrame.of_move {s s' : StartupState} {status : SlotAggregatedStatus} {task : StartupTask}
    (heq : s' = { s with status := status, task := task })
    (hcancelled : task.isCancelled = s.task.isCancelled)
      (hpath : status.modelPath = s.status.modelPath) :
    TaskFrame s s' := by
  subst heq
  exact ⟨.refl _, .refl _, .refl _, .refl _, .refl _, .refl _, .refl _, hcancelled, hpath⟩

theorem taskStep_frame (arbiter : ContinuousBatchArbiter) (s : StartupState) :
    TaskFrame s (taskStep arbiter s) := by
  cases htask : s.task with
  | awaitingModelLoaded =>
    simp only [taskStep, htask]
    split
    · exact .rfl
    · exact .of_move rfl (by rw [htask]; rfl) (registerFix_modelPath _ _)
    · exact .of_move rfl (by rw [htask]; rfl) (registerIssue_modelPath _ _)
  | awaitingChatTemplateLoaded =>
    simp only [taskStep, htask]
    split
    · exact .rfl
    · exact .of_move rfl (by rw [htask]; rfl) (registerFix_modelPath _ _)
    · exact .of_move rfl (by rw [htask]; rfl) rfl
    · exact .of_move rfl (by rw [htask]; rfl) rfl
  | checkingModelIssue =>
    simp only [taskStep, htask]
    split
    · exact .of_move rfl (by rw [htask]; rfl) rfl
    · exact .of_move rfl (by rw [htask]; rfl) rfl
  | registeringTemplateIssue =>
    simp only [taskStep, htask]
    exact .of_move rfl (by rw [htask]; rfl) (registerIssue_modelPath _ _)
  | awaitingAgentWarm =>
    simp only [taskStep, htask]
    split
    · exact .rfl
    · split
      · exact .of_move rfl (by rw [htask]; rfl) rfl
      · exact .of_move rfl (by rw [htask]; rfl) rfl
    · exact .of_move rfl (by rw [htask]; rfl) rfl
  | incrementingSlots slotIndex =>
    simp only [taskStep, htask]
    split
    · exact .of_move rfl (by rw [htask]; rfl) rfl
    · exact .of_move rfl (by rw [htask]; rfl) rfl
  | fixingSlot slotIndex =>
    simp only [taskStep, htask]
    exact .of_move rfl (by rw [htask]; rfl) (registerFix_modelPath _ _)
  | joining =>
    simp only [taskStep, htask]
    split
    · exact .of_move rfl (by rw [htask]; rfl) rfl
    · exact .rfl
  | ended outcome =>
    simp only [taskStep, htask]
    exact .rfl

theorem ThreadInv.taskStep (h : ThreadInv arbiter answers s) :
    ThreadInv arbiter answers (taskStep arbiter s) := by
  have hframe := taskStep_frame arbiter s
  exact h.sameSignals ⟨hframe.modelLoaded, hframe.chatTemplateLoaded, hframe.agentWarm,
    hframe.isCancelled, by rw [hframe.thread], by rw [hframe.thread], by rw [hframe.thread]⟩
    (by rw [hframe.thread])

theorem ThreadInv.cancelStep (h : ThreadInv arbiter answers s) :
    ThreadInv arbiter answers (cancelStep s) := by
  unfold ModelStartup.cancelStep
  split
  · exact
      { calls := h.calls
        modelLoaded := h.modelLoaded
        chatTemplateLoaded := h.chatTemplateLoaded
        agentWarm := h.agentWarm
        receivers := ⟨rfl, rfl, rfl⟩
        undelivered := fun _ => rfl }
  · exact h

end ModelStartup

end Paddler
