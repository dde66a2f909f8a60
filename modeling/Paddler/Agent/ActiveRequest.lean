import Paddler.Agent.LlamaCpp
import Paddler.Agent.ToolCallPipeline

/-!
# Active requests

Model of what the scheduler keeps for one running generation: the sender of its result channel,
its sequence id, `continuous_batch_request_state.rs` and `continuous_batch_active_request.rs`.

* A `Sender` carries the results sent so far.  The receiver lives in another task and may be
  dropped between any two sends: `receiverDropsAfter = some n` says that it will be dropped after
  `n` more sends, `none` that it stays alive.
* `SequenceIdPool` is the stack of free ids; a `SequenceIdGuard` is the id a request holds.
* `RequestHistory` is bookkeeping of the model: what was sampled, classified, decoded and read for
  the request.  No modelled function reads it.
-/

set_option autoImplicit false

namespace Paddler

/-! ## Channels -/

/-- The sending half of an unbounded channel. -/
structure Sender (α : Type) where
  id : Nat
  sent : List α
  receiverDropsAfter : Option Nat
  deriving DecidableEq, Repr

/-- A fresh channel. -/
def Sender.new {α : Type} (id : Nat) (receiverDropsAfter : Option Nat) : Sender α :=
  ⟨id, [], receiverDropsAfter⟩

/-- `UnboundedSender::send`: `false` when the receiver is gone. -/
def Sender.send {α : Type} (tx : Sender α) (result : α) : Bool × Sender α :=
  match tx.receiverDropsAfter with
  | none => (true, { tx with sent := tx.sent ++ [result] })
  | some 0 => (false, tx)
  | some (n + 1) => (true, { tx with sent := tx.sent ++ [result], receiverDropsAfter := some n })

/-- A send delivers the result, or leaves the channel as it was because its receiver is gone. -/
theorem Sender.send_cases {α : Type} (tx : Sender α) (result : α) :
    ((tx.send result).1 = true ∧ (tx.send result).2.sent = tx.sent ++ [result] ∧
      ((tx.send result).2.receiverDropsAfter = none ↔ tx.receiverDropsAfter = none)) ∨
    ((tx.send result).1 = false ∧ (tx.send result).2 = tx ∧ tx.receiverDropsAfter = some 0) := by
  unfold Sender.send
  split
  · rename_i h
    exact Or.inl ⟨rfl, rfl, by simp [h]⟩
  · rename_i h
    exact Or.inr ⟨rfl, rfl, h⟩
  · rename_i h
    exact Or.inl ⟨rfl, rfl, by simp [h]⟩

@[simp] theorem Sender.send_id {α : Type} (tx : Sender α) (result : α) :
    (tx.send result).2.id = tx.id := by
  unfold Sender.send
  split <;> rfl

theorem Sender.send_of_alive {α : Type} {tx : Sender α} (h : tx.receiverDropsAfter = none)
    (result : α) : tx.send result = (true, { tx with sent := tx.sent ++ [result] }) := by
  unfold Sender.send
  rw [h]

/-- `tx'` is `tx` after the results `events` were delivered on it. -/
structure Sender.Extends {α : Type} (tx tx' : Sender α) (events : List α) : Prop where
  sent : tx'.sent = tx.sent ++ events
  id : tx'.id = tx.id
  alive : tx'.receiverDropsAfter = none ↔ tx.receiverDropsAfter = none

theorem Sender.Extends.refl {α : Type} (tx : Sender α) : tx.Extends tx [] :=
  ⟨by simp, rfl, Iff.rfl⟩

theorem Sender.Extends.trans {α : Type} {tx₁ tx₂ tx₃ : Sender α} {events events' : List α}
    (h : tx₁.Extends tx₂ events) (h' : tx₂.Extends tx₃ events') :
    tx₁.Extends tx₃ (events ++ events') :=
  ⟨by rw [h'.sent, h.sent, List.append_assoc], h'.id.trans h.id, h'.alive.trans h.alive⟩

theorem Sender.send_extends {α : Type} {tx tx' : Sender α} {result : α} {delivered : Bool}
    (h : tx.send result = (delivered, tx')) :
    (delivered = true ∧ tx.Extends tx' [result]) ∨
      (delivered = false ∧ tx' = tx ∧ tx'.receiverDropsAfter ≠ none) := by
  have hid := tx.send_id result
  rcases tx.send_cases result with ⟨h1, h2, h3⟩ | ⟨h1, h2, h3⟩ <;> rw [h] at h1 h2 hid
  · rw [h] at h3
    exact Or.inl ⟨h1, h2, hid, h3⟩
  · have h2' : tx' = tx := h2
    exact Or.inr ⟨h1, h2', by rw [h2', h3]; simp⟩

/-- `tx'` is `tx` after some results, none of them terminal, were delivered on it. -/
def Sender.Quiet {α : Type} (isDone : α → Bool) (tx tx' : Sender α) : Prop :=
  ∃ events, tx.Extends tx' events ∧ ∀ e ∈ events, isDone e = false

theorem Sender.Quiet.refl {α : Type} (isDone : α → Bool) (tx : Sender α) : tx.Quiet isDone tx :=
  ⟨[], Sender.Extends.refl tx, by simp⟩

theorem Sender.Quiet.trans {α : Type} {isDone : α → Bool} {tx₁ tx₂ tx₃ : Sender α}
    (h : tx₁.Quiet isDone tx₂) (h' : tx₂.Quiet isDone tx₃) : tx₁.Quiet isDone tx₃ := by
  obtain ⟨events, hext, hquiet⟩ := h
  obtain ⟨events', hext', hquiet'⟩ := h'
  refine ⟨_, hext.trans hext', fun e he => ?_⟩
  rcases List.mem_append.mp he with he | he
  · exact hquiet e he
  · exact hquiet' e he

theorem Sender.send_quiet {α : Type} {isDone : α → Bool} {tx tx' : Sender α} {result : α}
    {delivered : Bool} (h : tx.send result = (delivered, tx')) (hr : isDone result = false) :
    tx.Quiet isDone tx' := by
  rcases Sender.send_extends h with ⟨-, hext⟩ | ⟨-, htx, -⟩
  · exact ⟨_, hext, by simpa using hr⟩
  · rw [htx]
    exact Sender.Quiet.refl isDone tx

theorem Sender.Quiet.alive {α : Type} {isDone : α → Bool} {tx tx' : Sender α}
    (h : tx.Quiet isDone tx') :
    tx'.receiverDropsAfter = none ↔ tx.receiverDropsAfter = none := by
  obtain ⟨events, hext, -⟩ := h
  exact hext.alive

/-- `tx'` is `tx` after results of which the last one, and no other, is terminal. -/
def Sender.Terminated {α : Type} (isDone : α → Bool) (tx tx' : Sender α) : Prop :=
  ∃ events last, tx.Extends tx' (events ++ [last]) ∧ (∀ e ∈ events, isDone e = false) ∧
    isDone last = true

theorem Sender.Quiet.terminated {α : Type} {isDone : α → Bool} {tx₁ tx₂ tx₃ : Sender α}
    (h : tx₁.Quiet isDone tx₂) (h' : tx₂.Terminated isDone tx₃) : tx₁.Terminated isDone tx₃ := by
  obtain ⟨events, hext, hquiet⟩ := h
  obtain ⟨events', last, hext', hquiet', hlast⟩ := h'
  refine ⟨events ++ events', last, ?_, fun e he => ?_, hlast⟩
  · rw [List.append_assoc]
    exact hext.trans hext'
  · rcases List.mem_append.mp he with he | he
    · exact hquiet e he
    · exact hquiet' e he

/-- Sending a terminal result ends the stream, unless the receiver is gone. -/
theorem Sender.send_terminated {α : Type} {isDone : α → Bool} {tx tx' : Sender α} {result : α}
    {delivered : Bool} (h : tx.send result = (delivered, tx')) (hr : isDone result = true) :
    tx.Terminated isDone tx' ∨ (tx' = tx ∧ delivered = false ∧ tx.receiverDropsAfter ≠ none) := by
  rcases Sender.send_extends h with ⟨-, hext⟩ | ⟨hd, htx, hgone⟩
  · exact Or.inl ⟨[], result, hext, by simp, hr⟩
  · exact Or.inr ⟨htx, hd, htx ▸ hgone⟩

/-! ## Sequence ids -/

/-- `SequenceIdPool`: the free ids in the order of the `Vec`, the next one last. -/
structure SequenceIdPool where
  availableIds : List Int
  deriving DecidableEq, Repr

namespace SequenceIdPool

/-- `SequenceIdPool::new`: `(0..max_sequences).rev()`. -/
def new (maxSequences : Int) : SequenceIdPool :=
  ⟨((List.range maxSequences.toNat).map Int.ofNat).reverse⟩

/-- `SequenceIdPool::acquire`: `Vec::pop`. -/
def acquire (self : SequenceIdPool) : Option (Int × SequenceIdPool) :=
  match self.availableIds.getLast? with
  | none => none
  | some sequenceId => some (sequenceId, ⟨self.availableIds.dropLast⟩)

/-- `SequenceIdPool::release`, run by `Drop for SequenceIdGuard`. -/
def release (self : SequenceIdPool) (sequenceId : Int) : SequenceIdPool :=
  ⟨self.availableIds ++ [sequenceId]⟩

theorem acquire_none {pool : SequenceIdPool} (h : pool.acquire = none) :
    pool.availableIds = [] := by
  unfold acquire at h
  split at h
  · rename_i hn
    exact List.getLast?_eq_none_iff.mp hn
  · cases h

theorem acquire_some {pool pool' : SequenceIdPool} {sequenceId : Int}
    (h : pool.acquire = some (sequenceId, pool')) :
    pool.availableIds = pool'.availableIds ++ [sequenceId] := by
  unfold acquire at h
  split at h
  · cases h
  · rename_i sid hs
    cases h
    obtain ⟨init, hi⟩ := List.getLast?_eq_some_iff.mp hs
    rw [hi, List.dropLast_concat]

/-- An id that is acquired and released again leaves the pool as it was. -/
theorem acquire_release {pool pool' : SequenceIdPool} {sequenceId : Int}
    (h : pool.acquire = some (sequenceId, pool')) : pool'.release sequenceId = pool := by
  unfold release
  rw [← acquire_some h]

end SequenceIdPool

/-! ## Request state -/

/-- `continuous_batch_terminal_outcome.rs`. -/
inductive ContinuousBatchTerminalOutcome where
  | emitNothing
  | emitToClient (result : GeneratedTokenResult)
  deriving DecidableEq, Repr

/-- `continuous_batch_request_phase.rs`. -/
inductive ContinuousBatchRequestPhase where
  | ingesting
  | generating
  | completed (outcome : ContinuousBatchTerminalOutcome)
  deriving DecidableEq, Repr

/-- `matches!(phase, Completed(_))`. -/
def ContinuousBatchRequestPhase.isCompleted : ContinuousBatchRequestPhase → Bool
  | .completed _ => true
  | _ => false

/-- `continuous_batch_request_state.rs`. -/
structure ContinuousBatchRequestState where
  currentTokenPosition : Int
  iBatch : Option Int
  maxTokens : Int
  pendingSampledToken : Option SampledToken
  phase : ContinuousBatchRequestPhase
  promptTokens : List LlamaToken
  promptTokensIngested : Nat
  deriving DecidableEq, Repr

namespace ContinuousBatchRequestState

def remainingPromptTokens (self : ContinuousBatchRequestState) : List LlamaToken :=
  self.promptTokens.drop self.promptTokensIngested

def applyGeneratingContribution (self : ContinuousBatchRequestState) (batchPosition : Int) :
    ContinuousBatchRequestState :=
  { self with
    pendingSampledToken := none
    iBatch := some batchPosition
    currentTokenPosition := self.currentTokenPosition + 1 }

/-- `apply_ingesting_contribution`.  A chunk that does not fit in an `i32` is an error, raised
after `prompt_tokens_ingested` was already advanced. -/
def applyIngestingContribution (self : ContinuousBatchRequestState) (chunkSize : Nat)
    (isLastChunk : Bool) (lastBatchPosition : Int) : Bool × ContinuousBatchRequestState :=
  let advanced := { self with promptTokensIngested := self.promptTokensIngested + chunkSize }
  if i32Max < chunkSize then (false, advanced)
  else
    let moved := { advanced with currentTokenPosition := self.currentTokenPosition + chunkSize }
    if isLastChunk then (true,
      { moved with iBatch := some lastBatchPosition, phase := .generating })
    else (true, moved)

/-- A chunk that fits moves the position, and the last one moves the request on to generating. -/
theorem applyIngestingContribution_of_le (self : ContinuousBatchRequestState) {chunkSize : Nat}
    (h : chunkSize ≤ i32Max) (isLastChunk : Bool) (lastBatchPosition : Int) :
    self.applyIngestingContribution chunkSize isLastChunk lastBatchPosition =
      (true, { self with
        promptTokensIngested := self.promptTokensIngested + chunkSize
        currentTokenPosition := self.currentTokenPosition + chunkSize
        iBatch := if isLastChunk then some lastBatchPosition else self.iBatch
        phase := if isLastChunk then .generating else self.phase }) := by
  unfold applyIngestingContribution
  dsimp only
  rw [if_neg (by omega)]
  cases isLastChunk <;> rfl

def storePendingToken (self : ContinuousBatchRequestState) (token : SampledToken) :
    ContinuousBatchRequestState :=
  { self with pendingSampledToken := some token }

/-- `mark_completed`: the first terminal outcome wins. -/
def markCompleted (self : ContinuousBatchRequestState)
    (terminalOutcome : ContinuousBatchTerminalOutcome) : ContinuousBatchRequestState :=
  if self.phase.isCompleted then self
  else { self with iBatch := none, phase := .completed terminalOutcome }

theorem markCompleted_isCompleted (self : ContinuousBatchRequestState)
    (terminalOutcome : ContinuousBatchTerminalOutcome) :
    (self.markCompleted terminalOutcome).phase.isCompleted = true := by
  unfold markCompleted
  split
  · assumption
  · rfl

def intoTerminalOutcome (self : ContinuousBatchRequestState) : ContinuousBatchTerminalOutcome :=
  match self.phase with
  | .completed terminalOutcome => terminalOutcome
  | .generating | .ingesting => .emitNothing

end ContinuousBatchRequestState

/-! ## The active request -/

/-- What happened for one request since it was accepted.

`sampled`: the tokens the sampler returned for it; `returned`: the outcomes the classifier
returned for its tokens that do not end the generation; `decoded`: the batch tokens decoded on its
sequence; `reads`: its reads of the logits buffer; `startPosition`: the first free position of its
sequence when it was accepted. -/
structure RequestHistory where
  startPosition : Int
  sampled : List LlamaToken
  returned : List IngestOutcome
  decoded : List BatchToken
  reads : List LogitsRead
  deriving DecidableEq, Repr

/-- The history of a request on its acceptance. -/
def RequestHistory.new (startPosition : Int) : RequestHistory := ⟨startPosition, [], [], [], []⟩

/-- `continuous_batch_active_request.rs`.  Of the two samplers only the presence of a grammar
sampler matters to the scheduler. -/
structure ContinuousBatchActiveRequest (C : Type) where
  state : ContinuousBatchRequestState
  tokenClassifier : C
  hasGrammarSampler : Bool
  generatedTokensTx : Sender GeneratedTokenResult
  sequenceId : Int
  toolCallPipeline : Option ToolCallPipeline
  history : RequestHistory

/-- A request that ended: its channel as it was when the sender was dropped. -/
structure EndedRequest where
  generatedTokensTx : Sender GeneratedTokenResult
  history : RequestHistory
  deriving DecidableEq, Repr

namespace ContinuousBatchActiveRequest

variable {C : Type}

/-- The request's identity: that of its result channel. -/
def id (request : ContinuousBatchActiveRequest C) : Nat := request.generatedTokensTx.id

def completeWithOutcome (request : ContinuousBatchActiveRequest C)
    (outcome : GeneratedTokenResult) :
    ContinuousBatchActiveRequest C :=
  { request with state := request.state.markCompleted (.emitToClient outcome) }

/-- The checks before sampling, shared by `advance_one` and
`harvest_pending_samples_before_external_decode`: the logits row to sample, if there is one. -/
def sampleableBatchIndex (request : ContinuousBatchActiveRequest C) : Option Int :=
  match request.state.phase with
  | .ingesting | .completed _ => none
  | .generating =>
    match request.state.pendingSampledToken with
    | some _ => none
    | none => request.state.iBatch

/-- History of a read of the logits buffer. -/
def recordRead (request : ContinuousBatchActiveRequest C) (llama : LlamaContext)
    (batchIndex : Int) : ContinuousBatchActiveRequest C :=
  { request with history := { request.history with
      reads := request.history.reads ++
        [⟨batchIndex, llama.lastDecode, request.state.currentTokenPosition⟩] } }

/-- History of a sampled token. -/
def recordSampled (request : ContinuousBatchActiveRequest C) (token : LlamaToken) :
    ContinuousBatchActiveRequest C :=
  { request with history := { request.history with
      sampled := request.history.sampled ++ [token] } }

/-- `into_terminal_delivery` followed by `deliver`: send the terminal outcome, then drop the
sender. -/
def deliverTerminal (request : ContinuousBatchActiveRequest C) : EndedRequest :=
  match request.state.intoTerminalOutcome with
  | .emitNothing => ⟨request.generatedTokensTx, request.history⟩
  | .emitToClient result => ⟨(request.generatedTokensTx.send result).2, request.history⟩

/-- A request that is not completed gets the outcome and loses its row. -/
theorem completeWithOutcome_of_active {request : ContinuousBatchActiveRequest C}
    (h : request.state.phase.isCompleted = false) (outcome : GeneratedTokenResult) :
    request.completeWithOutcome outcome =
      { request with state := { request.state with
          iBatch := none
          phase := .completed (.emitToClient outcome) } } := by
  simp [completeWithOutcome, ContinuousBatchRequestState.markCompleted, h]

@[simp] theorem completeWithOutcome_isCompleted (request : ContinuousBatchActiveRequest C)
    (outcome : GeneratedTokenResult) :
    (request.completeWithOutcome outcome).state.phase.isCompleted = true := by
  exact request.state.markCompleted_isCompleted _

end ContinuousBatchActiveRequest

/-- `tokio::sync::mpsc::UnboundedReceiver::try_recv` on a stop channel. -/
inductive StopPoll where
  | received
  | disconnected
  | empty
  deriving DecidableEq, Repr

def StopPoll.isStopRequested : StopPoll → Bool
  | .received | .disconnected => true
  | .empty => false

/-- `continuous_batch_scheduler_context.rs`, with the model's end-of-generation test, its token
classifier and the functions of the tool-call pipeline.  `desired_slots_total` is an `i32`. -/
structure ContinuousBatchSchedulerContext (C : Type) where
  agentName : Option String
  hasChatTemplateRenderer : Bool
  desiredSlotsTotal : Int
  desiredSlotsTotal_le : desiredSlotsTotal ≤ i32Max
  inferenceParameters : InferenceParameters
  hasMultimodalContext : Bool
  isEogToken : LlamaToken → Bool
  classifier : SampledTokenClassifier C
  toolCallApi : ToolCallApi

/-- `{:?}` of `agent_name`. -/
def ContinuousBatchSchedulerContext.debugAgentName {C : Type}
    (ctx : ContinuousBatchSchedulerContext C) : String :=
  match ctx.agentName with
  | none => "None"
  | some name => "Some(" ++ ctx.toolCallApi.debugStr name ++ ")"

end Paddler
