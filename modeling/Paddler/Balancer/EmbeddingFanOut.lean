import Paddler.Agent.EmbeddingDocuments
import Paddler.Agent.Scheduler
import Paddler.Balancer.RequestFromAgent
import Paddler.Library.VecUpdate
import Paddler.Messaging.GenerateEmbeddingBatchParams

/-!
# Embedding batches over several agents

Model of `post_generate_embedding_batch.rs`.  The batch is cut into chunks, every chunk is one
request to an agent in a task of its own, and all tasks write to one channel, whose receiver is the
body of the HTTP response.  When all tasks are joined a last `Done` is sent.

An input is whatever happens next: an agent sends a result for a chunk, the task of a chunk takes a
turn of its `select!`, the client goes away, or all tasks are joined.  A task receives what was sent
for its chunk, in order; it notices that the client is gone when the client is gone; and a send to
the channel succeeds as long as the client is there.  A line of the body is kept as the message it
is the JSON text of.

* `EmbeddingFanOut.step` — one input.
* `FanOutInv` — the lines are those of the tasks, in some order, and the last `Done`.
* `embedding_fanOut` — **the body ends with `Done`**, the only other terminal lines are the failures
  of the chunks, and a batch without failed chunks has a result for every document.
-/

set_option autoImplicit false

namespace Paddler

open Run VecUpdate

/-! ## The stream -/

namespace OutgoingMessage

/-- `is_done` of the result in a message. -/
def isDone : OutgoingMessage EmbeddingResult → Bool
  | .response _ _ result => result.isDone
  | .error _ _ => false

/-- The message is a `Done`. -/
def isDoneResult : OutgoingMessage EmbeddingResult → Bool
  | .response _ _ .done => true
  | _ => false

/-- The document that a message is about. -/
def sourceDocumentId : OutgoingMessage EmbeddingResult → Option String
  | .response _ _ result => result.sourceDocumentId
  | .error _ _ => none

end OutgoingMessage

/-- `EmbeddingChunkBodyTransformer::transform`, without the lines that are discarded. -/
def embeddingChunkBody (message : OutgoingMessage EmbeddingResult) :
    Option (OutgoingMessage EmbeddingResult) :=
  if message.isDoneResult then none else some message

/-- One chunk: its part of the batch, its task, and what an agent has sent for it so far. -/
structure EmbeddingChunk where
  batch : GenerateEmbeddingBatchParams
  task : RequestFromAgent EmbeddingResult
  replies : List EmbeddingResult
  deriving DecidableEq, Repr

/-- A request for embeddings whose response is streamed. -/
structure EmbeddingFanOut where
  chunks : List EmbeddingChunk
  finalRequestId : String
  clientGone : Bool
  finished : Bool
  lines : List (OutgoingMessage EmbeddingResult)
  deriving DecidableEq, Repr

/-- What can happen to it. -/
inductive FanOutInput where
  | agentSends (index : Nat) (result : EmbeddingResult)
  | turn (index : Nat) (event : RequestEvent EmbeddingResult) (stopOutcome : AgentStopOutcome)
  | clientLeaves
  | allTasksJoined
  deriving DecidableEq, Repr

/-- An error of the handler. -/
structure HttpError where
  status : Nat
  message : String
  deriving DecidableEq, Repr

namespace EmbeddingFanOut

/-- `respond`: `inferenceParameters` is what the applicable state has, `agentCount` the size of the
pool, and `requestIds` are the ids that `nanoid!` makes. -/
def respond (inferenceParameters : Option InferenceParameters)
    (agentCount inferenceItemTimeout : Nat) (requestIds : Nat → String)
    (params : GenerateEmbeddingBatchParams) : Except HttpError EmbeddingFanOut :=
  match inferenceParameters with
  | none => .error ⟨503, "Balancer applicable state is not yet set"⟩
  | some inferenceParameters =>
    if !inferenceParameters.enableEmbeddings then
      .error ⟨501, "Embedding generation is not enabled in the inference parameters"⟩
    else
      match params.chunkEvenlyWithCap agentCount inferenceParameters.embeddingBatchSize with
      | .error .zeroAgentCount => .error ⟨503, "No agents are currently connected"⟩
      | .error .zeroMaxDocumentsPerChunk =>
        .error ⟨500, "embedding_batch_size is zero despite validation"⟩
      | .ok batches =>
        .ok
          { chunks := batches.mapIdx fun index batch =>
              ⟨batch, .new (requestIds index) inferenceItemTimeout, []⟩
            finalRequestId := requestIds batches.length
            clientGone := false
            finished := false
            lines := [] }

/-- The last message. -/
def finalDone (self : EmbeddingFanOut) : OutgoingMessage EmbeddingResult :=
  .response none self.finalRequestId .done

/-- What the task of a chunk can observe now. -/
def canObserve (self : EmbeddingFanOut) (chunk : EmbeddingChunk) :
    RequestEvent EmbeddingResult → Bool
  | .recv (some response) => chunk.replies[chunk.task.received.length]? == some response
  | .connectionClose => self.clientGone
  | _ => true

/-- The task of a chunk takes a turn, and what it sends gets into the channel. -/
def takeTurn (self : EmbeddingFanOut) (index : Nat) (chunk : EmbeddingChunk)
    (event : RequestEvent EmbeddingResult) (stopOutcome : AgentStopOutcome) : EmbeddingFanOut :=
  let task := chunk.task.step ⟨event, !self.clientGone, stopOutcome⟩
  { self with
    chunks := self.chunks.set index { chunk with task := task }
    lines := self.lines ++
      (task.delivered.drop chunk.task.delivered.length).filterMap embeddingChunkBody }

/-- Every task has returned. -/
def allReturned (self : EmbeddingFanOut) : Bool :=
  self.chunks.all fun chunk => chunk.task.phase == .returned

/-- One input. -/
def step (self : EmbeddingFanOut) : FanOutInput → EmbeddingFanOut
  | .agentSends index result =>
    match self.chunks[index]? with
    | none => self
    | some chunk =>
      { self with chunks := self.chunks.set index { chunk with replies := chunk.replies ++ [result] } }
  | .turn index event stopOutcome =>
    match self.chunks[index]? with
    | none => self
    | some chunk =>
      if self.canObserve chunk event then self.takeTurn index chunk event stopOutcome else self
  | .clientLeaves => { self with clientGone := true }
  | .allTasksJoined =>
    if !self.finished && self.allReturned then
      { self with
        finished := true
        lines := self.lines ++ if self.clientGone then [] else [self.finalDone] }
    else self

/-- Several inputs. -/
def run (self : EmbeddingFanOut) (inputs : List FanOutInput) : EmbeddingFanOut :=
  inputs.foldl step self

end EmbeddingFanOut

/-! ## One chunk -/

namespace EmbeddingChunk

/-- The lines of the chunk. -/
def forwarded (chunk : EmbeddingChunk) : List (OutgoingMessage EmbeddingResult) :=
  chunk.task.delivered.filterMap embeddingChunkBody

/-- The terminal result other than `Done` with which the agent ended the stream of the chunk, if the
client got it. -/
def failure (chunk : EmbeddingChunk) : Option (OutgoingMessage EmbeddingResult) :=
  chunk.task.delivered.find? fun message => message.isDone && !message.isDoneResult

/-- The chunk did not fail: an agent processed its documents without being told to stop, and the
result that ended the processing went through. -/
structure Completed (chunk : EmbeddingChunk) : Prop where
  processed : ∃ (C : Type) (ctx : ContinuousBatchSchedulerContext C) (answers : EmbeddingAnswers)
    (tx : Sender EmbeddingResult) (llama : LlamaContext),
    tx.sent = [] ∧ (∀ n, answers.stop n ≠ .received) ∧
    chunk.replies <+: (processEmbeddingBatch ctx answers
      ⟨tx, chunk.batch.inputBatch, chunk.batch.normalizationMethod⟩ llama).2.1.sent
  ended : ∃ last : EmbeddingResult, last.IsCompletion ∧
    chunk.task.asResponse last ∈ chunk.task.delivered

/-- The task behaves, and has received what was sent, in order. -/
structure Inv (chunk : EmbeddingChunk) : Prop where
  phase : chunk.task.PhaseInv
  received : chunk.task.received <+: chunk.replies

variable {chunk : EmbeddingChunk}

theorem forwarded_eq_filter (chunk : EmbeddingChunk) :
    chunk.forwarded = chunk.task.delivered.filter fun message => !message.isDoneResult := by
  unfold forwarded
  induction chunk.task.delivered with
  | nil => rfl
  | cons message messages ih =>
    cases h : message.isDoneResult with
    | true =>
      have hbody : embeddingChunkBody message = none := by simp [embeddingChunkBody, h]
      rw [List.filterMap_cons_none hbody, List.filter_cons_of_neg (by simp [h]), ih]
    | false =>
      have hbody : embeddingChunkBody message = some message := by simp [embeddingChunkBody, h]
      rw [List.filterMap_cons_some hbody, List.filter_cons_of_pos (by simp [h]), ih]

theorem forwarded_sourceDocumentId (chunk : EmbeddingChunk) :
    chunk.forwarded.filterMap OutgoingMessage.sourceDocumentId =
      chunk.task.delivered.filterMap OutgoingMessage.sourceDocumentId := by
  rw [forwarded_eq_filter, List.filterMap_filter]
  refine List.filterMap_congr fun message _ => ?_
  split
  · rfl
  · rename_i hdone
    cases message with
    | error requestId error => rfl
    | response name requestId result =>
      cases result with
      | done => rfl
      | _ => exact absurd rfl hdone

/-- Of the lines of a chunk only its failure is terminal. -/
theorem Inv.filter_isDone (h : chunk.Inv) :
    chunk.forwarded.filter OutgoingMessage.isDone = chunk.failure.toList := by
  obtain ⟨terminal, ⟨n, -, hopen, hdelivered, hterminal⟩, -⟩ := h.phase.stream
  -- what the agent sent before its last result is not terminal
  have hnone : ((chunk.task.received.take n).map chunk.task.asResponse).filter
      (fun message => message.isDone && !message.isDoneResult) = [] := by
    rw [List.filter_eq_nil_iff]
    intro message hmessage
    obtain ⟨result, hresult, rfl⟩ := List.mem_map.mp hmessage
    have hnot : (chunk.task.asResponse result).isDone = false := hopen result hresult
    rw [hnot]
    simp
  have hsingle : (chunk.task.delivered.filter
      fun message => message.isDone && !message.isDoneResult).length ≤ 1 := by
    rw [hdelivered, List.filter_append, hnone, List.nil_append]
    refine Nat.le_trans (List.length_filter_le _ _) ?_
    rcases hterminal with rfl | ⟨error, rfl⟩ | ⟨result, -, -, rfl⟩
    · exact Nat.zero_le _
    · exact Nat.le_refl _
    · exact Nat.le_refl _
  unfold failure
  rw [forwarded_eq_filter, List.filter_filter, ← List.head?_filter]
  generalize chunk.task.delivered.filter _ = failures at hsingle ⊢
  match failures, hsingle with
  | [], _ => rfl
  | [_], _ => rfl

/-- The beginning of a list that ends with a new entry, up to that entry. -/
theorem take_eq_of_concat {α : Type} {xs events : List α} {last : α} {n : Nat}
    (h : xs <+: events ++ [last]) (hget : xs[n]? = some last) (hnew : last ∉ events) :
    xs.take n = events := by
  obtain ⟨rest, hrest⟩ := h
  have hlt := (List.getElem?_eq_some_iff.mp hget).1
  have hlastAt : (events ++ [last])[n]? = some last := by
    rw [← hrest, List.getElem?_append_left hlt]
    exact hget
  have hindex : n = events.length := by
    rcases Nat.lt_or_ge n events.length with hless | hge
    · rw [List.getElem?_append_left hless] at hlastAt
      exact absurd (List.mem_of_getElem? hlastAt) hnew
    · have hbound := (List.getElem?_eq_some_iff.mp hlastAt).1
      rw [List.length_append, List.length_singleton] at hbound
      omega
  rw [hindex] at hlt ⊢
  have htake := congrArg (List.take events.length) hrest
  rw [List.take_append_of_le_length (Nat.le_of_lt hlt), List.take_left] at htake
  exact htake

/-- **A chunk that did not fail** has a line for every document of its batch. -/
theorem Completed.documents (hcompleted : chunk.Completed) (h : chunk.Inv) :
    (chunk.forwarded.filterMap OutgoingMessage.sourceDocumentId).Perm
      (chunk.batch.inputBatch.map (·.id)) := by
  obtain ⟨C, ctx, answers, tx, llama, hfresh, hstop, hreplies⟩ := hcompleted.processed
  obtain ⟨last, hlast, hended⟩ := hcompleted.ended
  obtain ⟨terminal, ⟨n, hn, hopen, hdelivered, hterminal⟩, -⟩ := h.phase.stream
  -- the last result is the terminal message of the stream
  have hreceived : chunk.task.received[n]? = some last ∧
      terminal = [chunk.task.asResponse last] := by
    rw [hdelivered] at hended
    rcases List.mem_append.mp hended with hended | hended
    · obtain ⟨result, hresult, heq⟩ := List.mem_map.mp hended
      cases heq
      have hnot : last.isDone = false := hopen last hresult
      rw [hlast.isDone] at hnot
      cases hnot
    · rcases hterminal with rfl | ⟨error, rfl⟩ | ⟨result, hget, -, rfl⟩
      · cases hended
      · cases List.mem_singleton.mp hended
      · cases List.mem_singleton.mp hended
        exact ⟨hget, rfl⟩
  -- and what was received up to it is all that the agent sent
  obtain ⟨hget, rfl⟩ := hreceived
  have hinitial := h.received.trans hreplies
  generalize hrun : processEmbeddingBatch ctx answers _ llama = outcome at hinitial
  obtain ⟨result, tx', llama'⟩ := outcome
  obtain ⟨events, hsent, hevents, hdocuments⟩ := processEmbeddingBatch_documents hrun hfresh hstop
    (hinitial.subset (List.mem_of_getElem? hget)) hlast
  have hinitial : chunk.task.received <+: events ++ [last] := hsent ▸ hinitial
  have hnew : last ∉ events := by
    intro hmem
    have hnot := hevents last hmem
    rw [hlast.isDone] at hnot
    cases hnot
  have hall : chunk.task.received.take n = events := take_eq_of_concat hinitial hget hnew
  rw [forwarded_sourceDocumentId, hdelivered, hall, List.filterMap_append, List.filterMap_map]
  have hnothing : [chunk.task.asResponse last].filterMap OutgoingMessage.sourceDocumentId = [] := by
    rcases hlast with rfl | rfl <;> rfl
  rw [hnothing, List.append_nil]
  exact hdocuments

end EmbeddingChunk

/-! ## The whole stream -/

namespace EmbeddingFanOut

/-- Every chunk of `batches` has its task, and the lines are those of the tasks, in some order, and
then the last `Done`. -/
structure FanOutInv (batches : List GenerateEmbeddingBatchParams) (s : EmbeddingFanOut) : Prop where
  batches : s.chunks.map (·.batch) = batches
  chunks : ∀ chunk ∈ s.chunks, chunk.Inv
  returned : s.finished = true → ∀ chunk ∈ s.chunks, chunk.task.phase = .returned
  lines : ∃ before last, s.lines = before ++ last ∧ before.Perm (s.chunks.flatMap (·.forwarded)) ∧
    (s.finished = false → last = []) ∧
    (s.finished = true → s.clientGone = false → last = [s.finalDone])

variable {batches : List GenerateEmbeddingBatchParams} {s : EmbeddingFanOut}

theorem respond_ok {inferenceParameters : Option InferenceParameters}
    {agentCount inferenceItemTimeout : Nat} {requestIds : Nat → String}
    {params : GenerateEmbeddingBatchParams} {start : EmbeddingFanOut}
    (h : respond inferenceParameters agentCount inferenceItemTimeout requestIds params =
      .ok start) :
    ∃ batches, batches.flatMap (·.inputBatch) = params.inputBatch ∧ FanOutInv batches start := by
  unfold respond at h
  split at h
  · cases h
  · split at h
    · cases h
    · split at h
      · cases h
      · cases h
      · rename_i batches hchunks
        cases h
        refine ⟨batches, GenerateEmbeddingBatchParams.chunkEvenlyWithCap_inputBatch hchunks,
          ?_, ?_, ?_, ?_⟩
        · refine List.ext_getElem? fun index => ?_
          rw [List.getElem?_map, List.getElem?_mapIdx, Option.map_map]
          exact Option.map_id'
        · intro chunk hchunk
          obtain ⟨index, hindex, rfl⟩ := List.mem_mapIdx.mp hchunk
          exact ⟨RequestFromAgent.phaseInv_new _ _, List.prefix_refl _⟩
        · exact fun hfinished => by cases hfinished
        · refine ⟨[], [], rfl, ?_, fun _ => rfl, fun hfinished => by cases hfinished⟩
          -- no task has sent anything
          have hnil : ∀ chunk ∈ batches.mapIdx fun index batch => (EmbeddingChunk.mk batch
              (.new (requestIds index) inferenceItemTimeout) []), chunk.forwarded = [] := by
            intro chunk hchunk
            obtain ⟨index, hindex, rfl⟩ := List.mem_mapIdx.mp hchunk
            rfl
          rw [List.flatMap_eq_nil_iff.mpr hnil]

/-- One chunk moves on, and what its task sends are the new lines. -/
theorem FanOutInv.set (h : FanOutInv batches s) {index : Nat} {chunk : EmbeddingChunk}
    (hchunk : s.chunks[index]? = some chunk) (chunk' : EmbeddingChunk)
    (hbatch : chunk'.batch = chunk.batch) (hinv : chunk'.Inv)
    (hreturned : chunk.task.phase = .returned → chunk'.task.phase = .returned)
    {more : List (OutgoingMessage EmbeddingResult)}
    (hmore : chunk'.forwarded = chunk.forwarded ++ more)
    (hquiet : chunk.task.phase = .returned → more = []) :
    FanOutInv batches { s with chunks := s.chunks.set index chunk', lines := s.lines ++ more } := by
  have hmem := List.mem_of_getElem? hchunk
  refine ⟨?_, ?_, ?_, ?_⟩
  · show (s.chunks.set index chunk').map (·.batch) = batches
    have hold : (s.chunks.map (·.batch))[index]? = some chunk.batch := by
      rw [List.getElem?_map, hchunk]
      rfl
    obtain ⟨hlt, hget⟩ := List.getElem?_eq_some_iff.mp hold
    rw [List.map_set, hbatch, ← hget, List.set_getElem_self]
    exact h.batches
  · intro x hx
    rcases List.mem_or_eq_of_mem_set hx with hx | rfl
    · exact h.chunks x hx
    · exact hinv
  · intro hfinished x hx
    rcases List.mem_or_eq_of_mem_set hx with hx | rfl
    · exact h.returned hfinished x hx
    · exact hreturned (h.returned hfinished chunk hmem)
  · obtain ⟨before, last, hlines, hperm, hopen, hlast⟩ := h.lines
    have hmoved := (hperm.append_right more).trans (flatMap_set_perm hchunk hmore).symm
    show ∃ before last, s.lines ++ more = before ++ last ∧ _
    cases hfinished : s.finished with
    | false =>
      rw [hlines, hopen hfinished, List.append_nil]
      exact ⟨before ++ more, [], (List.append_nil _).symm, hmoved, fun _ => rfl,
        fun hf => by cases hf⟩
    | true =>
      -- the tasks have returned, and nothing more is sent
      have hnone := hquiet (h.returned hfinished chunk hmem)
      rw [hnone, List.append_nil] at hmoved ⊢
      exact ⟨before, last, hlines, hmoved, fun hf => by (cases hf), fun _ => hlast hfinished⟩

theorem FanOutInv.agentSends (h : FanOutInv batches s) (index : Nat) (result : EmbeddingResult) :
    FanOutInv batches (s.step (.agentSends index result)) := by
  unfold EmbeddingFanOut.step
  dsimp only
  split
  · exact h
  · rename_i chunk hchunk
    obtain ⟨hphase, hreceived⟩ := h.chunks chunk (List.mem_of_getElem? hchunk)
    have hset := h.set hchunk { chunk with replies := chunk.replies ++ [result] } rfl
      ⟨hphase, hreceived.trans (List.prefix_append _ _)⟩ id (List.append_nil _).symm fun _ => rfl
    rw [List.append_nil] at hset
    exact hset

theorem FanOutInv.turn (h : FanOutInv batches s) (index : Nat)
    (event : RequestEvent EmbeddingResult) (stopOutcome : AgentStopOutcome) :
    FanOutInv batches (s.step (.turn index event stopOutcome)) := by
  unfold EmbeddingFanOut.step
  dsimp only
  split
  · exact h
  · rename_i chunk hchunk
    split
    · rename_i hobserves
      obtain ⟨hphase, hreceived⟩ := h.chunks chunk (List.mem_of_getElem? hchunk)
      generalize hinput : (⟨event, !s.clientGone, stopOutcome⟩ : RequestInput EmbeddingResult) =
        input
      have hevent : input.event = event := by rw [← hinput]
      have hsame : chunk.task.phase = .returned → chunk.task.step input = chunk.task := by
        intro hreturned
        unfold RequestFromAgent.step
        rw [hreturned]
      unfold takeTurn
      rw [hinput]
      refine h.set hchunk { chunk with task := chunk.task.step input } rfl
        ⟨hphase.step input, ?_⟩ (fun hreturned => ?_) ?_ (fun hreturned => ?_)
      · rcases (chunk.task.step_extends input).received with hkept | ⟨response, hrecv, htaken⟩
        · show (chunk.task.step input).received <+: chunk.replies
          rw [hkept]
          exact hreceived
        · -- it is the next one that was sent
          rw [hevent] at hrecv
          rw [hrecv] at hobserves
          show (chunk.task.step input).received <+: chunk.replies
          obtain ⟨rest, hrest⟩ := hreceived
          have hnext : chunk.replies[chunk.task.received.length]? = some response := by
            simpa [canObserve] using hobserves
          rw [← hrest, List.getElem?_append_right (Nat.le_refl _), Nat.sub_self] at hnext
          cases rest with
          | nil => cases hnext
          | cons next rest =>
            cases hnext
            rw [htaken, ← hrest]
            exact ⟨rest, by simp⟩
      · show (chunk.task.step input).phase = .returned
        rw [hsame hreturned]
        exact hreturned
      · obtain ⟨sent, hsent⟩ := chunk.task.step_delivered input
        show (chunk.task.step input).delivered.filterMap embeddingChunkBody = _
        rw [← hsent, List.drop_left, List.filterMap_append]
        rfl
      · show ((chunk.task.step input).delivered.drop _).filterMap _ = []
        rw [hsame hreturned, List.drop_length]
        rfl
    · exact h

theorem FanOutInv.allTasksJoined (h : FanOutInv batches s) :
    FanOutInv batches (s.step .allTasksJoined) := by
  unfold EmbeddingFanOut.step
  dsimp only
  split
  · rename_i hjoined
    obtain ⟨hopen, hall⟩ := Bool.and_eq_true_iff.mp hjoined
    obtain ⟨before, last, hlines, hperm, hnone, -⟩ := h.lines
    refine ⟨h.batches, h.chunks, fun _ chunk hchunk => ?_, before,
      if s.clientGone then [] else [s.finalDone], ?_, hperm, fun hf => by (cases hf), ?_⟩
    · exact beq_iff_eq.mp (List.all_eq_true.mp hall chunk hchunk)
    · rw [hlines, hnone (by simpa using hopen), List.append_nil]
    · intro _ hclient
      show (if s.clientGone then [] else [s.finalDone]) = [s.finalDone]
      rw [show s.clientGone = false from hclient]
      rfl
  · exact h

/-- **The lines are those of the tasks**, in every state that is reached. -/
theorem fanOutInv_reaches {start : EmbeddingFanOut} (hstart : FanOutInv batches start)
    (h : Reaches step (fun _ _ => True) start s) : FanOutInv batches s := by
  refine h.invariant (FanOutInv batches) hstart fun s input _ hinv _ => ?_
  cases input with
  | agentSends index result => exact hinv.agentSends index result
  | turn index event stopOutcome => exact hinv.turn index event stopOutcome
  | clientLeaves =>
    obtain ⟨before, last, hlines, hperm, hnone, -⟩ := hinv.lines
    exact ⟨hinv.batches, hinv.chunks, hinv.returned, before, last, hlines, hperm, hnone,
      fun _ hclient => by cases hclient⟩
  | allTasksJoined => exact hinv.allTasksJoined

/-! ## The stream can be ended -/

/-- What makes a task return wherever it is: no agent in time, an agent that does not take the
request, and an agent that does not answer and cannot be reached. -/
def endingEvent : RequestPhase → RequestEvent EmbeddingResult
  | .waitingForAgent => .waitForAvailableAgent .timeout
  | .dispatching => .handleStreamingResponse false
  | .forwarding _ | .returned => .inferenceItemTimeout

theorem step_endingEvent (task : RequestFromAgent EmbeddingResult) (sendSucceeds : Bool) :
    (task.step ⟨endingEvent task.phase, sendSucceeds, .agentUnreachable⟩).phase = .returned := by
  unfold RequestFromAgent.step
  split
  · rename_i hphase
    rw [hphase]
    rfl
  · rename_i hphase
    rw [hphase]
    rfl
  · rename_i mode hphase
    rw [hphase]
    cases mode with
    | forwardingToClient => rfl
    | drainingUntilAgentConfirms => rfl
  · assumption

theorem tasks_return (s : EmbeddingFanOut) :
    ∀ k : Nat, ∃ inputs, (s.run inputs).chunks.length = s.chunks.length ∧
      (s.run inputs).clientGone = s.clientGone ∧
      ∀ i < k, ∀ chunk : EmbeddingChunk, (s.run inputs).chunks[i]? = some chunk →
      chunk.task.phase = .returned
  | 0 => ⟨[], rfl, rfl, fun i hi => absurd hi (Nat.not_lt_zero i)⟩
  | k + 1 => by
    obtain ⟨inputs, hlength, hclient, hreturned⟩ := tasks_return s k
    cases hchunk : (s.run inputs).chunks[k]? with
    | none =>
      refine ⟨inputs, hlength, hclient, fun i hi chunk hget => ?_⟩
      rcases Nat.lt_succ_iff_lt_or_eq.mp hi with hlt | rfl
      · exact hreturned i hlt chunk hget
      · rw [hchunk] at hget
        cases hget
    | some chunk =>
      have hobserves : (s.run inputs).canObserve chunk (endingEvent chunk.task.phase) = true := by
        cases chunk.task.phase <;> rfl
      have hturn : s.run (inputs ++ [.turn k (endingEvent chunk.task.phase) .agentUnreachable]) =
          (s.run inputs).takeTurn k chunk (endingEvent chunk.task.phase) .agentUnreachable := by
        have hstep : (s.run inputs).step
            (.turn k (endingEvent chunk.task.phase) .agentUnreachable) =
              (s.run inputs).takeTurn k chunk (endingEvent chunk.task.phase) .agentUnreachable := by
          simp only [step, hchunk, hobserves, if_true]
        rw [← hstep]
        exact List.foldl_append
      refine ⟨inputs ++ [.turn k (endingEvent chunk.task.phase) .agentUnreachable], ?_⟩
      rw [hturn]
      refine ⟨(List.length_set ..).trans hlength, hclient, fun i hi x hget => ?_⟩
      rcases getElem?_set_cases hget with ⟨-, rfl⟩ | ⟨hne, hget⟩
      · exact step_endingEvent chunk.task _
      · exact hreturned i (by omega) x hget

/-- **A stream can be ended**, whatever has happened. -/
theorem can_finish (s : EmbeddingFanOut) :
    ∃ inputs, (s.run inputs).finished = true ∧ (s.run inputs).clientGone = s.clientGone := by
  obtain ⟨inputs, hlength, hclient, hreturned⟩ := tasks_return s s.chunks.length
  refine ⟨inputs ++ [.allTasksJoined], ?_⟩
  have hall : (s.run inputs).allReturned = true := by
    refine List.all_eq_true.mpr fun chunk hchunk => ?_
    obtain ⟨i, hi⟩ := List.mem_iff_getElem?.mp hchunk
    have hlt := (List.getElem?_eq_some_iff.mp hi).1
    exact beq_iff_eq.mpr (hreturned i (hlength ▸ hlt) chunk hi)
  have hjoin : s.run (inputs ++ [.allTasksJoined]) = (s.run inputs).step .allTasksJoined :=
    List.foldl_append
  rw [hjoin, ← hclient]
  cases hfinished : (s.run inputs).finished with
  | false => simp [step, hall, hfinished]
  | true => simp [step, hfinished]

/-! ## What the client gets -/

/-- The body ends with the last `Done`, and the other terminal lines are the failures of the chunks,
one line for each. -/
def EndsWithDone (s : EmbeddingFanOut) : Prop :=
  ∃ before, s.lines = before ++ [s.finalDone] ∧
    (before.filter OutgoingMessage.isDone).Perm (s.chunks.filterMap (·.failure))

/-- The body has one terminal line, and it is the last one. -/
def OneTerminalLine (s : EmbeddingFanOut) : Prop :=
  ∃ before last, s.lines = before ++ [last] ∧ last.isDone = true ∧ ∀ line ∈ before,
    line.isDone = false

/-- Every document of the batch has a line of its own. -/
def EveryDocument (params : GenerateEmbeddingBatchParams) (s : EmbeddingFanOut) : Prop :=
  (s.lines.filterMap OutgoingMessage.sourceDocumentId).Perm (params.inputBatch.map (·.id))

theorem FanOutInv.endsWithDone (h : FanOutInv batches s) (hfinished : s.finished = true)
    (hclient : s.clientGone = false) : s.EndsWithDone := by
  obtain ⟨before, last, hlines, hperm, -, hlast⟩ := h.lines
  refine ⟨before, by rw [hlines, hlast hfinished hclient], ?_⟩
  have hfailures : (s.chunks.flatMap (·.forwarded)).filter OutgoingMessage.isDone =
      s.chunks.filterMap (·.failure) := by
    rw [List.filter_flatMap, List.filterMap_eq_flatMap_toList]
    exact List.flatMap_congr fun chunk hchunk => (h.chunks chunk hchunk).filter_isDone
  rw [← hfailures]
  exact hperm.filter _

theorem FanOutInv.everyDocument {params : GenerateEmbeddingBatchParams} (h : FanOutInv batches s)
    (hbatches : batches.flatMap (·.inputBatch) = params.inputBatch) (hfinished : s.finished = true)
    (hclient : s.clientGone = false) (hcompleted : ∀ chunk ∈ s.chunks, chunk.Completed) :
    s.EveryDocument params := by
  obtain ⟨before, last, hlines, hperm, -, hlast⟩ := h.lines
  have hdocuments : ∀ chunks : List EmbeddingChunk,
      (∀ chunk ∈ chunks, chunk.Inv ∧ chunk.Completed) →
      ((chunks.flatMap (·.forwarded)).filterMap OutgoingMessage.sourceDocumentId).Perm
        (((chunks.map (·.batch)).flatMap (·.inputBatch)).map (·.id)) := by
    intro chunks
    induction chunks with
    | nil => exact fun _ => List.Perm.refl _
    | cons chunk chunks ih =>
      intro hall
      obtain ⟨hinv, hdone⟩ := hall chunk (List.mem_cons_self ..)
      rw [List.flatMap_cons, List.filterMap_append, List.map_cons, List.flatMap_cons,
        List.map_append]
      exact (hdone.documents hinv).append (ih fun x hx => hall x (List.mem_cons_of_mem _ hx))
  have hids := hdocuments s.chunks fun chunk hchunk =>
    ⟨h.chunks chunk hchunk, hcompleted chunk hchunk⟩
  rw [h.batches, hbatches] at hids
  unfold EveryDocument
  rw [hlines, hlast hfinished hclient, List.filterMap_append]
  have hnothing : [s.finalDone].filterMap OutgoingMessage.sourceDocumentId = [] := rfl
  rw [hnothing, List.append_nil]
  exact (hperm.filterMap _).trans hids

/-- **What the client gets for an embedding batch.**  Whatever the agents send and in whatever order
the tasks take their turns, a body that is complete ends with a `Done`; the other terminal lines are
the results other than `Done` with which agents ended the streams of chunks, one for each of these
chunks; and if no chunk failed, every document of the batch has one line with its id. -/
theorem embedding_fanOut {inferenceParameters : Option InferenceParameters}
    {agentCount inferenceItemTimeout : Nat} {requestIds : Nat → String}
    {params : GenerateEmbeddingBatchParams} {start s : EmbeddingFanOut}
    (hstart : respond inferenceParameters agentCount inferenceItemTimeout requestIds
      params = .ok start)
    (hs : Reaches step (fun _ _ => True) start s) (hfinished : s.finished = true)
    (hclient : s.clientGone = false) :
    s.EndsWithDone ∧ ((∀ chunk ∈ s.chunks, chunk.Completed) → s.EveryDocument params) := by
  obtain ⟨batches, hbatches, hinv⟩ := respond_ok hstart
  have hreached := fanOutInv_reaches hinv hs
  exact ⟨hreached.endsWithDone hfinished hclient,
    hreached.everyDocument hbatches hfinished hclient⟩

/-! ## Short and long documents -/

/-- A short document has one token, a long one five, which is more than the agent decodes at
once. -/
def tokenized : EmbeddingAnswers :=
  { smallAnswers.embedding with
    strToToken := fun content => .ok (List.replicate (if content == "short" then 1 else 5) 1) }

/-- What an agent sends for one document. -/
def repliesFor (document : EmbeddingInputDocument) : List EmbeddingResult :=
  (processEmbeddingBatch smallContext tokenized ⟨Sender.new 0 none, [document], .none⟩
    ⟨[], .nothing⟩).2.1.sent

/-- The task of a chunk finds an agent and receives all that it sends. -/
def answered (index : Nat) (replies : List EmbeddingResult) : List FanOutInput :=
  [.turn index (.waitForAvailableAgent (.found none)) .stopRequested,
    .turn index (.handleStreamingResponse true) .stopRequested] ++
  replies.map (.agentSends index) ++
  replies.map fun result => .turn index (.recv (some result)) .stopRequested

/-- A request with a chunk for every document, before anything happens. -/
def started (documents : List EmbeddingInputDocument) : EmbeddingFanOut where
  chunks := documents.map fun document => ⟨⟨[document], .none⟩, .new "chunk" 1000, []⟩
  finalRequestId := "chunk"
  clientGone := false
  finished := false
  lines := []

def shortDocument : EmbeddingInputDocument := ⟨"short", "a"⟩

def longDocument : EmbeddingInputDocument := ⟨"long", "b"⟩

/-- The second of two chunks is answered first. -/
def secondFirst : List FanOutInput :=
  answered 1 (repliesFor longDocument) ++ answered 0 (repliesFor shortDocument) ++ [.allTasksJoined]

theorem completed_of_repliesFor {chunk : EmbeddingChunk} {document : EmbeddingInputDocument}
    (hbatch : chunk.batch = ⟨[document], .none⟩) (hreplies : chunk.replies = repliesFor document)
    (hended : ∃ last : EmbeddingResult, last.IsCompletion ∧
      chunk.task.asResponse last ∈ chunk.task.delivered) : chunk.Completed := by
  refine ⟨⟨Unit, smallContext, tokenized, Sender.new 0 none, ⟨[], .nothing⟩, rfl, fun n hn => ?_,
    ?_⟩, hended⟩
  · cases hn
  · rw [hreplies, hbatch]
    exact List.prefix_refl _

theorem embedding_fanOut_shortAndLong :
    ((started [shortDocument, longDocument]).run secondFirst).EndsWithDone ∧
      ((started [shortDocument, longDocument]).run secondFirst).EveryDocument
        ⟨[shortDocument, longDocument], .none⟩ := by
  obtain ⟨hends, hdocuments⟩ := embedding_fanOut
    (show respond (some smallContext.inferenceParameters) 2 1000 (fun _ => "chunk")
      ⟨[shortDocument, longDocument], .none⟩ = .ok (started [shortDocument, longDocument]) from rfl)
    (Reaches.runs secondFirst (fun _ _ _ => trivial) .start)
    (show ((started [shortDocument, longDocument]).run secondFirst).finished = true by decide)
    (show ((started [shortDocument, longDocument]).run secondFirst).clientGone = false by decide)
  refine ⟨hends, hdocuments fun chunk hchunk => ?_⟩
  obtain ⟨i, hi⟩ := List.mem_iff_getElem?.mp hchunk
  match i with
  | 0 =>
    cases hi
    exact completed_of_repliesFor rfl rfl ⟨.done, Or.inl rfl, by decide⟩
  | 1 =>
    cases hi
    exact completed_of_repliesFor rfl rfl ⟨.noEmbeddingsProduced, Or.inr rfl, by decide⟩
  | i + 2 => cases hi

/-- A chunk whose only document is too long ends with a terminal line of its own. -/
theorem not_oneTerminalLine :
    ¬ ∀ (inferenceParameters : Option InferenceParameters) (agentCount inferenceItemTimeout : Nat)
      (requestIds : Nat → String) (params : GenerateEmbeddingBatchParams)
        (start s : EmbeddingFanOut),
      respond inferenceParameters agentCount inferenceItemTimeout requestIds params = .ok start →
      Reaches step (fun _ _ => True) start s → s.finished = true → s.clientGone = false →
      s.OneTerminalLine := by
  intro h
  have hone := h (some smallContext.inferenceParameters) 1 1000 (fun _ => "chunk")
    ⟨[longDocument], .none⟩
    (started [longDocument]) ((started [longDocument]).run
      (answered 0 (repliesFor longDocument) ++ [.allTasksJoined])) rfl
    (Reaches.runs _ (fun _ _ _ => trivial) .start) (by decide) (by decide)
  obtain ⟨before, last, hlines, hlast, hopen⟩ := hone
  -- two lines are terminal
  have htwo : (((started [longDocument]).run
      (answered 0 (repliesFor longDocument) ++ [.allTasksJoined])).lines.filter
        OutgoingMessage.isDone).length = 2 := by decide
  rw [hlines, List.filter_append, List.filter_eq_nil_iff.mpr fun line hline => by
    simp [hopen line hline], List.nil_append] at htwo
  have hle := List.length_filter_le OutgoingMessage.isDone [last]
  rw [htwo] at hle
  exact absurd (show 2 ≤ 1 from hle) (by decide)

end EmbeddingFanOut

end Paddler
