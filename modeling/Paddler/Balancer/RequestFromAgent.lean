import Paddler.Library.Run
import Paddler.Messaging.Results

/-!
# One request from an agent

Model of `request_from_agent.rs`: the whole life of one request in the balancer, from waiting for an
agent to the end of its response stream.  An input is the branch a `select!` takes, with the answers
of the outside world: whether a send to the client succeeds and whether the agent could be told to
stop.  What an input means depends on where the request is; an input its `select!` does not listen
to changes nothing.

The slot guard lives in `dispatched_agent`, so it is dropped when the function returns.

* `RequestFromAgent.step` — one turn of a `select!`.
* `clientStream_grammar` — **what the client gets**: some of the agent's responses, in order and
  from the first one on, and at most one terminal message.
* `slot_held_stop_once` — **when the slot is given back**, and that the agent is told to stop
  exactly once.
-/

set_option autoImplicit false

namespace Paddler

open Run

/-! ## Messages -/

/-- `streamable_result.rs`. -/
class StreamableResult (ρ : Type) where
  isDone : ρ → Bool

instance : StreamableResult GeneratedTokenResult := ⟨GeneratedTokenResult.isDone⟩

instance : StreamableResult EmbeddingResult := ⟨EmbeddingResult.isDone⟩

/-- `jsonrpc::error::Error`. -/
structure JsonRpcError where
  code : Int
  description : String
  deriving DecidableEq, Repr

/-- `inference_client::message::Message`, with the fields of its envelopes. -/
inductive OutgoingMessage (ρ : Type) where
  | error (requestId : String) (error : JsonRpcError)
  | response (generatedBy : Option String) (requestId : String) (response : ρ)
  deriving DecidableEq, Repr

/-- `agent_stop_outcome.rs`. -/
inductive AgentStopOutcome where
  | agentUnreachable
  | stopRequested
  deriving DecidableEq, Repr

/-- `agent_response_forwarding_mode.rs`. -/
inductive AgentResponseForwardingMode where
  | drainingUntilAgentConfirms
  | forwardingToClient
  deriving DecidableEq, Repr

theorem draining_ne_forwarding :
    (AgentResponseForwardingMode.drainingUntilAgentConfirms == .forwardingToClient) = false := rfl

/-! ## The request -/

/-- What `wait_for_available_agent` returns; `found` has the name of the agent. -/
inductive AgentWaitOutcome where
  | found (agentName : Option String)
  | bufferOverflow
  | timeout
  | error
  deriving DecidableEq, Repr

/-- What a request can observe. -/
inductive RequestEvent (ρ : Type) where
  | shutdown
  | connectionClose
  | waitForAvailableAgent (outcome : AgentWaitOutcome)
  | handleStreamingResponse (succeeded : Bool)
  | agentConnectionClose
  | inferenceItemTimeout
  | recv (response : Option ρ)
  deriving DecidableEq, Repr

/-- An event with the answers to what the request does about it. -/
structure RequestInput (ρ : Type) where
  event : RequestEvent ρ
  sendSucceeds : Bool
  stopOutcome : AgentStopOutcome
  deriving DecidableEq, Repr

/-- Where a request is. -/
inductive RequestPhase where
  | waitingForAgent
  | dispatching
  | forwarding (mode : AgentResponseForwardingMode)
  | returned
  deriving DecidableEq, Repr

/-- A request.  `received`, `sends`, `stops` and `cancelled` are its history: the responses taken
from the channel, every message for the client with whether it got there, the outcome of every
`stop_responding_to`, and whether the request noticed that the client is gone. -/
structure RequestFromAgent (ρ : Type) where
  requestId : String
  inferenceItemTimeout : Nat
  phase : RequestPhase
  agentName : Option String
  slotGuard : Bool
  received : List ρ
  sends : List (OutgoingMessage ρ × Bool)
  stops : List AgentStopOutcome
  cancelled : Bool
  deriving DecidableEq, Repr

namespace RequestFromAgent

variable {ρ : Type}

/-- A request that starts to wait for an agent. -/
def new (requestId : String) (inferenceItemTimeout : Nat) : RequestFromAgent ρ :=
  ⟨requestId, inferenceItemTimeout, .waitingForAgent, none, false, [], [], [], false⟩

/-- A response on its way to the client. -/
def asResponse (self : RequestFromAgent ρ) (response : ρ) : OutgoingMessage ρ :=
  .response self.agentName self.requestId response

def respondWithError (self : RequestFromAgent ρ) (input : RequestInput ρ) (error : JsonRpcError) :
    RequestFromAgent ρ :=
  { self with sends := self.sends ++ [(.error self.requestId error, input.sendSucceeds)] }

def sendResponseToClient (self : RequestFromAgent ρ) (input : RequestInput ρ) (response : ρ) :
    RequestFromAgent ρ :=
  { self with sends := self.sends ++ [(self.asResponse response, input.sendSucceeds)] }

def stopRespondingTo (self : RequestFromAgent ρ) (input : RequestInput ρ) : RequestFromAgent ρ :=
  { self with stops := self.stops ++ [input.stopOutcome] }

/-- The function returns, and the slot guard is dropped. -/
def finish (self : RequestFromAgent ρ) : RequestFromAgent ρ :=
  { self with phase := .returned, slotGuard := false }

/-- Stop the agent, and drain the channel if the agent can still be reached. -/
def stopThenDrain (self : RequestFromAgent ρ) (input : RequestInput ρ) : RequestFromAgent ρ :=
  match input.stopOutcome with
  | .agentUnreachable => (self.stopRespondingTo input).finish
  | .stopRequested =>
    { self.stopRespondingTo input with phase := .forwarding .drainingUntilAgentConfirms }

/-- The error of an agent that does not answer in time. -/
def inferenceTimedOut (self : RequestFromAgent ρ) : JsonRpcError :=
  ⟨504, "Inference timed out after " ++ toString self.inferenceItemTimeout ++
    "ms waiting for next token. Increase --inference-item-timeout if the prompt requires longer " ++
    "processing."⟩

def waitForAgentController (self : RequestFromAgent ρ) (input : RequestInput ρ) :
    RequestFromAgent ρ :=
  match input.event with
  | .shutdown => (self.respondWithError input ⟨503, "balancer is shutting down"⟩).finish
  | .connectionClose => { self with cancelled := true }.finish
  | .waitForAvailableAgent (.found agentName) =>
    { self with phase := .dispatching, agentName := agentName, slotGuard := true }
  | .waitForAvailableAgent .bufferOverflow =>
    (self.respondWithError input ⟨503, "Buffered requests overflow"⟩).finish
  | .waitForAvailableAgent .timeout =>
    (self.respondWithError input ⟨504, "Waiting for available slot timed out"⟩).finish
  | .waitForAvailableAgent .error =>
    (self.respondWithError input ⟨500, "Internal server error"⟩).finish
  | _ => self

/-- `handle_streaming_response` of the agent controller came back. -/
def handleStreamingResponse (self : RequestFromAgent ρ) (input : RequestInput ρ) :
    RequestFromAgent ρ :=
  match input.event with
  | .handleStreamingResponse true => { self with phase := .forwarding .forwardingToClient }
  | .handleStreamingResponse false =>
    (self.respondWithError input ⟨500, "Failed to generate response"⟩).finish
  | _ => self

/-- What got to the client. -/
def delivered (self : RequestFromAgent ρ) : List (OutgoingMessage ρ) :=
  (self.sends.filter (·.2)).map (·.1)

theorem delivered_send (s : RequestFromAgent ρ) (message : OutgoingMessage ρ) (succeeds : Bool) :
    { s with sends := s.sends ++ [(message, succeeds)] }.delivered =
      s.delivered ++ if succeeds then [message] else [] := by
  unfold RequestFromAgent.delivered
  cases succeeds <;> simp

theorem stopThenDrain_received (s : RequestFromAgent ρ) (input : RequestInput ρ) :
    (s.stopThenDrain input).received = s.received := by
  unfold stopThenDrain
  cases input.stopOutcome with
  | agentUnreachable => rfl
  | stopRequested => rfl

theorem stopThenDrain_sends (s : RequestFromAgent ρ) (input : RequestInput ρ) :
    (s.stopThenDrain input).sends = s.sends := by
  unfold stopThenDrain
  cases input.stopOutcome with
  | agentUnreachable => rfl
  | stopRequested => rfl

variable [StreamableResult ρ]

/-- The loop body of `forward_responses_stream`. -/
def forwardResponsesStream (self : RequestFromAgent ρ) (mode : AgentResponseForwardingMode)
    (input : RequestInput ρ) : RequestFromAgent ρ :=
  let isForwardingToClient := mode == .forwardingToClient
  match input.event with
  | .shutdown =>
    if isForwardingToClient then
      ((self.respondWithError input ⟨503, "balancer is shutting down"⟩).stopRespondingTo
        input).finish
    else self.finish
  | .agentConnectionClose =>
    if isForwardingToClient then
      (self.respondWithError input ⟨502, "Agent controller connection closed"⟩).finish
    else self.finish
  | .connectionClose =>
    if isForwardingToClient then { self with cancelled := true }.stopThenDrain input else self
  | .inferenceItemTimeout =>
    if isForwardingToClient then
      (self.respondWithError input self.inferenceTimedOut).stopThenDrain input
    else self.finish
  | .recv none =>
    if isForwardingToClient then
      (self.respondWithError input ⟨502, "Response channel closed before terminator"⟩).finish
    else self.finish
  | .recv (some response) =>
    let taken := { self with received := self.received ++ [response] }
    if isForwardingToClient then
      let sent := taken.sendResponseToClient input response
      if StreamableResult.isDone response then sent.finish
      else if input.sendSucceeds then sent
      else sent.stopThenDrain input
    else if StreamableResult.isDone response then taken.finish
    else taken
  | .waitForAvailableAgent _ | .handleStreamingResponse _ => self

/-- One turn of a `select!`. -/
def step (self : RequestFromAgent ρ) (input : RequestInput ρ) : RequestFromAgent ρ :=
  match self.phase with
  | .waitingForAgent => self.waitForAgentController input
  | .dispatching => self.handleStreamingResponse input
  | .forwarding mode => self.forwardResponsesStream mode input
  | .returned => self

/-- A whole request. -/
def run (self : RequestFromAgent ρ) (inputs : List (RequestInput ρ)) : RequestFromAgent ρ :=
  inputs.foldl step self

/-! ## What the client gets -/

/-- The client got the first responses of the agent, none of them terminal, and then `terminal`:
nothing, one error, or the terminal response that the agent sent next. -/
def Stream (s : RequestFromAgent ρ) (terminal : List (OutgoingMessage ρ)) : Prop :=
  ∃ n ≤ s.received.length,
    (∀ response ∈ s.received.take n, StreamableResult.isDone response = false) ∧
    s.delivered = (s.received.take n).map s.asResponse ++ terminal ∧
    (terminal = [] ∨ (∃ error, terminal = [.error s.requestId error]) ∨
      ∃ response, s.received[n]? = some response ∧ StreamableResult.isDone response = true ∧
        terminal = [s.asResponse response])

/-- No more is sent: there was a terminal message, unless the client is gone. -/
def Closed (s : RequestFromAgent ρ) : Prop :=
  ∃ terminal, s.Stream terminal ∧
    (s.cancelled = false → (∀ send ∈ s.sends, send.2 = true) → terminal ≠ [])

/-- Everything the agent sent so far got to the client. -/
structure Forwarded (s : RequestFromAgent ρ) : Prop where
  sends : s.sends = s.received.map fun response => (s.asResponse response, true)
  unfinished : ∀ response ∈ s.received, StreamableResult.isDone response = false

variable {s : RequestFromAgent ρ}

theorem Forwarded.delivered (h : s.Forwarded) : s.delivered = s.received.map s.asResponse := by
  unfold RequestFromAgent.delivered
  rw [h.sends, List.filter_eq_self.mpr (by simp), List.map_map]
  rfl

theorem Forwarded.error (h : s.Forwarded) (input : RequestInput ρ) (error : JsonRpcError) :
    (s.respondWithError input error).Closed := by
  refine ⟨if input.sendSucceeds then [.error s.requestId error] else [], ?_, ?_⟩
  · refine ⟨s.received.length, Nat.le_refl _, ?_, ?_, ?_⟩
    · show ∀ response ∈ s.received.take s.received.length, _
      rw [List.take_length]
      exact h.unfinished
    · show _ = (s.received.take s.received.length).map s.asResponse ++ _
      rw [List.take_length, ← h.delivered]
      exact delivered_send s _ _
    · cases input.sendSucceeds with
      | false => exact Or.inl rfl
      | true => exact Or.inr (Or.inl ⟨error, rfl⟩)
  · intro _ hsent
    have hlast : input.sendSucceeds = true :=
      hsent (.error s.requestId error, input.sendSucceeds)
        (List.mem_append_right _ (List.mem_singleton_self _))
    rw [hlast]
    simp

theorem Forwarded.cancel (h : s.Forwarded) : { s with cancelled := true }.Closed := by
  refine ⟨[], ⟨s.received.length, Nat.le_refl _, ?_, ?_, Or.inl rfl⟩, fun hcancelled => by
    cases hcancelled⟩
  · show ∀ response ∈ s.received.take s.received.length, _
    rw [List.take_length]
    exact h.unfinished
  · show s.delivered = (s.received.take s.received.length).map s.asResponse ++ []
    rw [List.take_length, List.append_nil]
    exact h.delivered

theorem Forwarded.done (h : s.Forwarded) (input : RequestInput ρ) {response : ρ}
    (hdone : StreamableResult.isDone response = true) :
    ({ s with received := s.received ++ [response] }.sendResponseToClient input
      response).Closed := by
  have htake : (s.received ++ [response]).take s.received.length = s.received := by simp
  refine ⟨if input.sendSucceeds then [s.asResponse response] else [], ?_, ?_⟩
  · refine ⟨s.received.length, by simp [sendResponseToClient], ?_, ?_, ?_⟩
    · show ∀ r ∈ (s.received ++ [response]).take s.received.length, _
      rw [htake]
      exact h.unfinished
    · show _ = ((s.received ++ [response]).take s.received.length).map s.asResponse ++ _
      rw [htake, ← h.delivered]
      exact delivered_send { s with received := s.received ++ [response] } _ _
    · cases input.sendSucceeds with
      | false => exact Or.inl rfl
      | true => exact Or.inr (Or.inr ⟨response, List.getElem?_concat_length, hdone, rfl⟩)
  · intro _ hsent
    have hlast : input.sendSucceeds = true :=
      hsent (s.asResponse response, input.sendSucceeds)
        (List.mem_append_right _ (List.mem_singleton_self _))
    rw [hlast]
    simp

theorem Forwarded.lost (h : s.Forwarded) (input : RequestInput ρ) (response : ρ)
    (hsend : input.sendSucceeds = false) :
    ({ s with received := s.received ++ [response] }.sendResponseToClient input
      response).Closed := by
  have htake : (s.received ++ [response]).take s.received.length = s.received := by simp
  refine ⟨[], ⟨s.received.length, by simp [sendResponseToClient], ?_, ?_, Or.inl rfl⟩, ?_⟩
  · show ∀ r ∈ (s.received ++ [response]).take s.received.length, _
    rw [htake]
    exact h.unfinished
  · show _ = ((s.received ++ [response]).take s.received.length).map s.asResponse ++ []
    rw [htake, ← h.delivered]
    have hdelivered : ({ s with received := s.received ++ [response] }.sendResponseToClient input
        response).delivered = s.delivered ++ if input.sendSucceeds then [s.asResponse response]
        else [] :=
      delivered_send _ _ _
    rw [hdelivered, hsend]
    simp
  · intro _ hsent
    have hlast : input.sendSucceeds = true :=
      hsent (s.asResponse response, input.sendSucceeds)
        (List.mem_append_right _ (List.mem_singleton_self _))
    rw [hsend] at hlast
    cases hlast

theorem Forwarded.next (h : s.Forwarded) (input : RequestInput ρ) {response : ρ}
    (hopen : StreamableResult.isDone response = false) (hsend : input.sendSucceeds = true) :
    ({ s with received := s.received ++ [response] }.sendResponseToClient input
      response).Forwarded := by
  constructor
  · show s.sends ++ [(s.asResponse response, input.sendSucceeds)] = (s.received ++ [response]).map _
    rw [List.map_append, h.sends, hsend]
    rfl
  · intro r hr
    rcases List.mem_append.mp hr with hr | hr
    · exact h.unfinished r hr
    · rw [List.mem_singleton.mp hr]
      exact hopen

/-- While the channel is drained the client gets nothing. -/
theorem Closed.taken (h : s.Closed) (response : ρ) :
    { s with received := s.received ++ [response] }.Closed := by
  obtain ⟨terminal, ⟨n, hn, hopen, hdelivered, hterminal⟩, hanswered⟩ := h
  have htake : (s.received ++ [response]).take n = s.received.take n :=
    List.take_append_of_le_length hn
  refine ⟨terminal, ⟨n, by simp; omega, ?_, ?_, ?_⟩, hanswered⟩
  · show ∀ r ∈ (s.received ++ [response]).take n, _
    rw [htake]
    exact hopen
  · show s.delivered = ((s.received ++ [response]).take n).map s.asResponse ++ terminal
    rw [htake]
    exact hdelivered
  · rcases hterminal with hnone | herror | ⟨done, hget, hdone, hterminal⟩
    · exact Or.inl hnone
    · exact Or.inr (Or.inl herror)
    · refine Or.inr (Or.inr ⟨done, ?_, hdone, hterminal⟩)
      exact (List.getElem?_append_left (List.getElem?_eq_some_iff.mp hget).1).trans hget

/-! ## One turn -/

/-- What holds of a request wherever it is. -/
def PhaseInv (s : RequestFromAgent ρ) : Prop :=
  match s.phase with
  | .waitingForAgent => s.Forwarded ∧ s.received = [] ∧ s.stops = [] ∧ s.slotGuard = false
  | .dispatching => s.Forwarded ∧ s.stops = [] ∧ s.slotGuard = true
  | .forwarding .forwardingToClient => s.Forwarded ∧ s.stops = [] ∧ s.slotGuard = true
  | .forwarding .drainingUntilAgentConfirms =>
    s.Closed ∧ s.stops = [.stopRequested] ∧ s.slotGuard = true
  | .returned => s.Closed ∧ s.stops.length ≤ 1 ∧ s.slotGuard = false

theorem phaseInv_new (requestId : String) (inferenceItemTimeout : Nat) :
    (new requestId inferenceItemTimeout : RequestFromAgent ρ).PhaseInv :=
  ⟨⟨rfl, fun response hresponse => by cases hresponse⟩, rfl, rfl, rfl⟩

theorem Closed.finish (h : s.Closed) (hstops : s.stops.length ≤ 1) : s.finish.PhaseInv :=
  ⟨h, hstops, rfl⟩

theorem Closed.stopThenDrain (h : s.Closed) (hstops : s.stops = []) (hslot : s.slotGuard = true)
    (input : RequestInput ρ) : (s.stopThenDrain input).PhaseInv := by
  unfold RequestFromAgent.stopThenDrain
  split
  · exact Closed.finish h (by simp [stopRespondingTo, hstops])
  · rename_i hstop
    exact ⟨h, by simp [stopRespondingTo, hstops, hstop], hslot⟩

theorem waitForAgentController_phaseInv (hforwarded : s.Forwarded) (hempty : s.received = [])
    (hstops : s.stops = []) (hphase : s.phase = .waitingForAgent) (hslot : s.slotGuard = false)
    (input : RequestInput ρ) : (s.waitForAgentController input).PhaseInv := by
  have hle : s.stops.length ≤ 1 := by simp [hstops]
  unfold waitForAgentController
  split
  · exact (hforwarded.error input _).finish hle
  · exact hforwarded.cancel.finish hle
  · refine ⟨⟨?_, hforwarded.unfinished⟩, hstops, rfl⟩
    -- nothing was sent under the name the agent has now
    have hsends := hforwarded.sends
    rw [hempty] at hsends
    show s.sends = s.received.map _
    rw [hempty]
    exact hsends
  · exact (hforwarded.error input _).finish hle
  · exact (hforwarded.error input _).finish hle
  · exact (hforwarded.error input _).finish hle
  · unfold PhaseInv
    rw [hphase]
    exact ⟨hforwarded, hempty, hstops, hslot⟩

theorem handleStreamingResponse_phaseInv (hforwarded : s.Forwarded) (hstops : s.stops = [])
    (hphase : s.phase = .dispatching) (hslot : s.slotGuard = true) (input : RequestInput ρ) :
    (s.handleStreamingResponse input).PhaseInv := by
  unfold handleStreamingResponse
  split
  · exact ⟨⟨hforwarded.sends, hforwarded.unfinished⟩, hstops, hslot⟩
  · exact (hforwarded.error input _).finish (by simp [respondWithError, hstops])
  · unfold PhaseInv
    rw [hphase]
    exact ⟨hforwarded, hstops, hslot⟩

theorem forwardToClient_phaseInv (hforwarded : s.Forwarded) (hstops : s.stops = [])
    (hphase : s.phase = .forwarding .forwardingToClient) (hslot : s.slotGuard = true)
    (input : RequestInput ρ) :
    (s.forwardResponsesStream .forwardingToClient input).PhaseInv := by
  have hsame : s.PhaseInv := by
    unfold PhaseInv
    rw [hphase]
    exact ⟨hforwarded, hstops, hslot⟩
  unfold forwardResponsesStream
  simp only [beq_self_eq_true, if_true]
  split
  · exact Closed.finish (s := (s.respondWithError input _).stopRespondingTo input)
      (hforwarded.error input _) (by simp [stopRespondingTo, respondWithError, hstops])
  · exact (hforwarded.error input _).finish (by simp [respondWithError, hstops])
  · exact hforwarded.cancel.stopThenDrain hstops hslot input
  · exact (hforwarded.error input _).stopThenDrain hstops hslot input
  · exact (hforwarded.error input _).finish (by simp [respondWithError, hstops])
  · rename_i response _
    split
    · rename_i hdone
      exact (hforwarded.done input hdone).finish (by simp [sendResponseToClient, hstops])
    · rename_i hopen
      split
      · rename_i hsend
        have hnext := hforwarded.next input (show StreamableResult.isDone response = false by
          simpa using hopen) hsend
        unfold PhaseInv
        simp only [sendResponseToClient, hphase]
        exact ⟨⟨hnext.sends, hnext.unfinished⟩, hstops, hslot⟩
      · rename_i hsend
        exact (hforwarded.lost input response (by simpa using hsend)).stopThenDrain
          hstops hslot input
  · exact hsame
  · exact hsame

theorem drain_phaseInv (hclosed : s.Closed) (hstops : s.stops = [.stopRequested])
    (hphase : s.phase = .forwarding .drainingUntilAgentConfirms) (hslot : s.slotGuard = true)
    (input : RequestInput ρ) :
    (s.forwardResponsesStream .drainingUntilAgentConfirms input).PhaseInv := by
  have hsame : s.PhaseInv := by
    unfold PhaseInv
    rw [hphase]
    exact ⟨hclosed, hstops, hslot⟩
  have hfinish : s.finish.PhaseInv := hclosed.finish (by simp [hstops])
  unfold forwardResponsesStream
  simp only [draining_ne_forwarding, Bool.false_eq_true, if_false]
  split
  · exact hfinish
  · exact hfinish
  · exact hsame
  · exact hfinish
  · exact hfinish
  · rename_i response _
    split
    · exact (hclosed.taken response).finish (by simp [hstops])
    · unfold PhaseInv
      simp only [hphase]
      exact ⟨hclosed.taken response, hstops, hslot⟩
  · exact hsame
  · exact hsame

theorem PhaseInv.step (h : s.PhaseInv) (input : RequestInput ρ) : (s.step input).PhaseInv := by
  have hsame := h
  unfold PhaseInv at h
  unfold RequestFromAgent.step
  split
  · rename_i hphase
    rw [hphase] at h
    obtain ⟨hforwarded, hempty, hstops, hslot⟩ := h
    exact waitForAgentController_phaseInv hforwarded hempty hstops hphase hslot input
  · rename_i hphase
    rw [hphase] at h
    obtain ⟨hforwarded, hstops, hslot⟩ := h
    exact handleStreamingResponse_phaseInv hforwarded hstops hphase hslot input
  · rename_i mode hphase
    rw [hphase] at h
    cases mode with
    | forwardingToClient =>
      obtain ⟨hforwarded, hstops, hslot⟩ := h
      exact forwardToClient_phaseInv hforwarded hstops hphase hslot input
    | drainingUntilAgentConfirms =>
      obtain ⟨hclosed, hstops, hslot⟩ := h
      exact drain_phaseInv hclosed hstops hphase hslot input
  · exact hsame

/-- **The invariant of every sequence of events.** -/
theorem phaseInv_run (requestId : String) (inferenceItemTimeout : Nat)
    (inputs : List (RequestInput ρ)) :
    ((new requestId inferenceItemTimeout).run inputs).PhaseInv := by
  have hreached : Reaches RequestFromAgent.step (fun _ _ => True)
      (new requestId inferenceItemTimeout : RequestFromAgent ρ)
      ((new requestId inferenceItemTimeout).run inputs) :=
    Reaches.runs inputs (fun _ _ _ => trivial) .start
  exact hreached.invariant PhaseInv (phaseInv_new requestId inferenceItemTimeout)
    fun s input _ hinv _ => hinv.step input

/-- What a turn adds to the history of a request: messages for the client, and the response it took
from the channel. -/
structure Extends (s s' : RequestFromAgent ρ) (input : RequestInput ρ) : Prop where
  sends : s.sends <+: s'.sends
  received : s'.received = s.received ∨
    ∃ response, input.event = .recv (some response) ∧ s'.received = s.received ++ [response]

omit [StreamableResult ρ] in
theorem Extends.quiet {s' : RequestFromAgent ρ} {input : RequestInput ρ}
    (hsends : s.sends <+: s'.sends) (hreceived : s'.received = s.received) : s.Extends s' input :=
  ⟨hsends, Or.inl hreceived⟩

omit [StreamableResult ρ] in
theorem Extends.stopThenDrain {s' : RequestFromAgent ρ} {input : RequestInput ρ}
    (h : s.Extends s' input) :
    s.Extends (s'.stopThenDrain input) input :=
  ⟨by rw [stopThenDrain_sends]; exact h.sends, by rw [stopThenDrain_received]; exact h.received⟩

theorem forwardResponsesStream_extends (mode : AgentResponseForwardingMode)
    (input : RequestInput ρ) :
    s.Extends (s.forwardResponsesStream mode input) input := by
  have hsame : s.Extends s input := .quiet (List.prefix_refl _) rfl
  have hsent : ∀ message, s.sends <+: s.sends ++ [(message, input.sendSucceeds)] :=
    fun message => List.prefix_append _ _
  unfold forwardResponsesStream
  simp only
  split
  · split
    · exact .quiet (hsent _) rfl
    · exact .quiet (List.prefix_refl _) rfl
  · split
    · exact .quiet (hsent _) rfl
    · exact .quiet (List.prefix_refl _) rfl
  · split
    · exact Extends.stopThenDrain (.quiet (List.prefix_refl _) rfl)
    · exact hsame
  · split
    · exact Extends.stopThenDrain (.quiet (hsent _) rfl)
    · exact .quiet (List.prefix_refl _) rfl
  · split
    · exact .quiet (hsent _) rfl
    · exact .quiet (List.prefix_refl _) rfl
  · rename_i response hevent
    split
    · split
      · exact ⟨hsent _, Or.inr ⟨response, hevent, rfl⟩⟩
      · split
        · exact ⟨hsent _, Or.inr ⟨response, hevent, rfl⟩⟩
        · exact Extends.stopThenDrain ⟨hsent _, Or.inr ⟨response, hevent, rfl⟩⟩
    · split
      · exact ⟨List.prefix_refl _, Or.inr ⟨response, hevent, rfl⟩⟩
      · exact ⟨List.prefix_refl _, Or.inr ⟨response, hevent, rfl⟩⟩
  · exact hsame
  · exact hsame

theorem step_extends (s : RequestFromAgent ρ) (input : RequestInput ρ) :
    s.Extends (s.step input) input := by
  have hsame : s.Extends s input := .quiet (List.prefix_refl _) rfl
  unfold RequestFromAgent.step
  split
  · unfold waitForAgentController
    split
    · exact .quiet (List.prefix_append _ _) rfl
    · exact .quiet (List.prefix_refl _) rfl
    · exact .quiet (List.prefix_refl _) rfl
    · exact .quiet (List.prefix_append _ _) rfl
    · exact .quiet (List.prefix_append _ _) rfl
    · exact .quiet (List.prefix_append _ _) rfl
    · exact hsame
  · unfold handleStreamingResponse
    split
    · exact .quiet (List.prefix_refl _) rfl
    · exact .quiet (List.prefix_append _ _) rfl
    · exact hsame
  · exact forwardResponsesStream_extends _ input
  · exact hsame

theorem step_delivered (s : RequestFromAgent ρ) (input : RequestInput ρ) :
    s.delivered <+: (s.step input).delivered := by
  obtain ⟨sends, hsends⟩ := (s.step_extends input).sends
  refine ⟨(sends.filter (·.2)).map (·.1), ?_⟩
  unfold RequestFromAgent.delivered
  rw [← hsends, List.filter_append, List.map_append]

/-- Wherever a request is, the client has the first responses and at most one terminal message; and
it has one when the request returned, unless the client cancelled or a send to it failed. -/
theorem PhaseInv.stream (h : s.PhaseInv) : ∃ terminal, s.Stream terminal ∧
    (s.phase = .returned → s.cancelled = false → (∀ send ∈ s.sends, send.2 = true) →
      terminal ≠ []) := by
  have hopen : s.Forwarded → s.phase ≠ .returned → ∃ terminal, s.Stream terminal ∧
      (s.phase = .returned → s.cancelled = false → (∀ send ∈ s.sends, send.2 = true) →
        terminal ≠ []) := by
    intro hforwarded hphase
    obtain ⟨terminal, hstream, -⟩ := hforwarded.cancel
    exact ⟨terminal, hstream, fun hreturned => absurd hreturned hphase⟩
  have hclosed : s.Closed → ∃ terminal, s.Stream terminal ∧
      (s.phase = .returned → s.cancelled = false → (∀ send ∈ s.sends, send.2 = true) →
        terminal ≠ []) := by
    rintro ⟨terminal, hstream, hanswered⟩
    exact ⟨terminal, hstream, fun _ => hanswered⟩
  unfold PhaseInv at h
  split at h
  · rename_i hphase
    exact hopen h.1 (by rw [hphase]; exact fun heq => by cases heq)
  · rename_i hphase
    exact hopen h.1 (by rw [hphase]; exact fun heq => by cases heq)
  · rename_i hphase
    exact hopen h.1 (by rw [hphase]; exact fun heq => by cases heq)
  · exact hclosed h.1
  · exact hclosed h.1

/-- The request has nothing more to say to the client. -/
def Silent (s : RequestFromAgent ρ) : Prop :=
  s.phase = .forwarding .drainingUntilAgentConfirms ∨ s.phase = .returned

/-- A silent request sends nothing, to the client or to the agent, and stays silent. -/
theorem Silent.step (h : s.Silent) (input : RequestInput ρ) :
    (s.step input).Silent ∧ (s.step input).sends = s.sends ∧ (s.step input).stops = s.stops := by
  rcases h with hphase | hphase
  · have hsame : s.Silent := Or.inl hphase
    unfold RequestFromAgent.step
    rw [hphase]
    simp only [forwardResponsesStream, draining_ne_forwarding, Bool.false_eq_true, if_false]
    split
    · exact ⟨Or.inr rfl, rfl, rfl⟩
    · exact ⟨Or.inr rfl, rfl, rfl⟩
    · exact ⟨hsame, rfl, rfl⟩
    · exact ⟨Or.inr rfl, rfl, rfl⟩
    · exact ⟨Or.inr rfl, rfl, rfl⟩
    · split
      · exact ⟨Or.inr rfl, rfl, rfl⟩
      · exact ⟨hsame, rfl, rfl⟩
    · exact ⟨hsame, rfl, rfl⟩
    · exact ⟨hsame, rfl, rfl⟩
  · unfold RequestFromAgent.step
    rw [hphase]
    exact ⟨Or.inr hphase, rfl, rfl⟩

theorem Silent.run (h : s.Silent) (inputs : List (RequestInput ρ)) :
    (s.run inputs).sends = s.sends ∧ (s.run inputs).stops = s.stops := by
  induction inputs generalizing s with
  | nil => exact ⟨rfl, rfl⟩
  | cons input inputs ih =>
    obtain ⟨hsilent, hsends, hstops⟩ := h.step input
    obtain ⟨hsends', hstops'⟩ := ih hsilent
    exact ⟨hsends'.trans hsends, hstops'.trans hstops⟩

theorem run_append (s : RequestFromAgent ρ) (inputs inputs' : List (RequestInput ρ)) :
    s.run (inputs ++ inputs') = (s.run inputs).run inputs' :=
  List.foldl_append

/-- The events that end a dispatched request: a terminal response, the end of the channel or of the
agent's connection, shutdown, a timeout while the channel is drained, and whatever makes the request
tell an agent to stop that cannot be reached. -/
def Releases (s : RequestFromAgent ρ) (input : RequestInput ρ) : Prop :=
  match input.event with
  | .shutdown | .agentConnectionClose | .recv none => True
  | .recv (some response) =>
    StreamableResult.isDone response = true ∨
      (s.phase = .forwarding .forwardingToClient ∧ input.sendSucceeds = false ∧
        input.stopOutcome = .agentUnreachable)
  | .inferenceItemTimeout =>
    s.phase = .forwarding .drainingUntilAgentConfirms ∨ input.stopOutcome = .agentUnreachable
  | .connectionClose =>
    s.phase = .forwarding .forwardingToClient ∧ input.stopOutcome = .agentUnreachable
  | .waitForAvailableAgent _ | .handleStreamingResponse _ => False

/-- The events by which a dispatched request is given up before the agent is done: shutdown, and
while responses are forwarded, the client going away, no response in time, or a response that the
client did not get. -/
def Abandons (s : RequestFromAgent ρ) (input : RequestInput ρ) : Prop :=
  match input.event with
  | .shutdown => True
  | .connectionClose | .inferenceItemTimeout => s.phase = .forwarding .forwardingToClient
  | .recv (some response) =>
    s.phase = .forwarding .forwardingToClient ∧ StreamableResult.isDone response = false ∧
      input.sendSucceeds = false
  | _ => False

/-- The event is the agent's terminal response. -/
def TakesTerminal (input : RequestInput ρ) : Prop :=
  ∃ response, input.event = .recv (some response) ∧ StreamableResult.isDone response = true

omit [StreamableResult ρ] in
theorem stopThenDrain_slotGuard (s : RequestFromAgent ρ) (input : RequestInput ρ) :
    (s.stopThenDrain input).slotGuard = false ↔
      input.stopOutcome = .agentUnreachable ∨ s.slotGuard = false := by
  unfold stopThenDrain
  cases input.stopOutcome with
  | agentUnreachable => simp [finish]
  | stopRequested => simp [stopRespondingTo]

omit [StreamableResult ρ] in
theorem stopThenDrain_stops (s : RequestFromAgent ρ) (input : RequestInput ρ) :
    (s.stopThenDrain input).Silent ∧ (s.stopThenDrain input).stops =
      s.stops ++ [input.stopOutcome] := by
  unfold stopThenDrain
  cases hstop : input.stopOutcome with
  | agentUnreachable => exact ⟨Or.inr rfl, by simp [finish, stopRespondingTo, hstop]⟩
  | stopRequested => exact ⟨Or.inl rfl, by simp [stopRespondingTo, hstop]⟩

/-- While responses are forwarded, the slot is given back by the events that end the request. -/
theorem slotGuard_forward_iff (hphase : s.phase = .forwarding .forwardingToClient)
    (hslot : s.slotGuard = true) (input : RequestInput ρ) :
    (s.forwardResponsesStream .forwardingToClient input).slotGuard = false ↔ s.Releases input := by
  obtain ⟨event, sendSucceeds, stopOutcome⟩ := input
  simp only [Releases, forwardResponsesStream, beq_self_eq_true, if_true, hphase]
  cases event with
  | shutdown | agentConnectionClose => simp [finish]
  | connectionClose | inferenceItemTimeout =>
    simp [stopThenDrain_slotGuard, respondWithError, hslot]
  | waitForAvailableAgent outcome | handleStreamingResponse succeeded => simp [hslot]
  | recv response =>
    cases response with
    | none => simp [finish]
    | some response =>
      by_cases hdone : StreamableResult.isDone response = true
      · simp [hdone, finish]
      · cases sendSucceeds with
        | true => simp [hdone, sendResponseToClient, hslot]
        | false => simp [hdone, stopThenDrain_slotGuard, sendResponseToClient, hslot]

/-- While the channel is drained, the slot is given back by the events that end the request. -/
theorem slotGuard_drain_iff (hphase : s.phase = .forwarding .drainingUntilAgentConfirms)
    (hslot : s.slotGuard = true) (input : RequestInput ρ) :
    (s.forwardResponsesStream .drainingUntilAgentConfirms input).slotGuard = false ↔
      s.Releases input := by
  obtain ⟨event, sendSucceeds, stopOutcome⟩ := input
  simp only [Releases, forwardResponsesStream, draining_ne_forwarding, Bool.false_eq_true, if_false,
    hphase]
  cases event with
  | shutdown | agentConnectionClose | inferenceItemTimeout => simp [finish]
  | connectionClose => simp [hslot]
  | waitForAvailableAgent outcome | handleStreamingResponse succeeded => simp [hslot]
  | recv response =>
    cases response with
    | none => simp [finish]
    | some response =>
      by_cases hdone : StreamableResult.isDone response = true
      · simp [hdone, finish]
      · simp [hdone, hslot]

/-- The slot is given back by the events that end the request. -/
theorem slotGuard_step_iff {mode : AgentResponseForwardingMode}
    (hphase : s.phase = .forwarding mode) (hslot : s.slotGuard = true) (input : RequestInput ρ) :
    (s.step input).slotGuard = false ↔ s.Releases input := by
  unfold RequestFromAgent.step
  rw [hphase]
  cases mode with
  | forwardingToClient => exact slotGuard_forward_iff hphase hslot input
  | drainingUntilAgentConfirms => exact slotGuard_drain_iff hphase hslot input

/-- Giving a request up tells the agent to stop, and then nothing more is said. -/
theorem abandons_step (hphase : s.phase = .forwarding .forwardingToClient) {input : RequestInput ρ}
    (h : s.Abandons input) :
    (s.step input).Silent ∧ (s.step input).stops = s.stops ++ [input.stopOutcome] := by
  unfold Abandons at h
  unfold RequestFromAgent.step
  rw [hphase]
  simp only [forwardResponsesStream, beq_self_eq_true, if_true]
  split at h
  · rename_i hevent
    simp only [hevent]
    exact ⟨Or.inr rfl, rfl⟩
  · rename_i hevent
    simp only [hevent]
    exact stopThenDrain_stops _ input
  · rename_i hevent
    simp only [hevent]
    exact stopThenDrain_stops _ input
  · rename_i response hevent
    obtain ⟨-, hopen, hsend⟩ := h
    simp only [hevent, hopen, hsend, Bool.false_eq_true, if_false]
    exact stopThenDrain_stops _ input
  · cases h

/-- The terminal response ends the request, and the agent is not told to stop. -/
theorem takesTerminal_step {mode : AgentResponseForwardingMode}
    (hphase : s.phase = .forwarding mode) {input : RequestInput ρ} (h : TakesTerminal input) :
    (s.step input).Silent ∧ (s.step input).stops = s.stops := by
  obtain ⟨response, hevent, hdone⟩ := h
  unfold RequestFromAgent.step
  rw [hphase]
  simp only [forwardResponsesStream, hevent, hdone, if_true]
  split
  · exact ⟨Or.inr rfl, rfl⟩
  · exact ⟨Or.inr rfl, rfl⟩

/-- **The slot and the stop notification.**  Wherever a sequence of events leaves a dispatched
request, it holds its slot, and the next event gives the slot back exactly if it ends the request.
If the next event gives the request up, the agent is told to stop once in the whole life of the
request; after the agent's terminal response it is not told any more. -/
theorem slot_held_stop_once {requestId : String} {inferenceItemTimeout : Nat}
    {before : List (RequestInput ρ)} {mode : AgentResponseForwardingMode}
    (hphase : ((new requestId inferenceItemTimeout).run before).phase = .forwarding mode)
    (input : RequestInput ρ) (after : List (RequestInput ρ)) :
    ((new requestId inferenceItemTimeout).run before).slotGuard = true ∧
    ((((new requestId inferenceItemTimeout).run before).step input).slotGuard = false ↔
      ((new requestId inferenceItemTimeout).run before).Releases input) ∧
    (((new requestId inferenceItemTimeout).run before).Abandons input →
      ((new requestId inferenceItemTimeout).run (before ++ input :: after)).stops.length = 1) ∧
    (TakesTerminal input →
      ((new requestId inferenceItemTimeout).run (before ++ input :: after)).stops =
        ((new requestId inferenceItemTimeout).run before).stops) := by
  have hinv := phaseInv_run requestId inferenceItemTimeout before
  rw [run_append]
  generalize (new requestId inferenceItemTimeout).run before = s at hphase hinv ⊢
  show _ ∧ _ ∧ (_ → ((s.step input).run after).stops.length = 1) ∧
    (_ → ((s.step input).run after).stops = s.stops)
  unfold PhaseInv at hinv
  rw [hphase] at hinv
  have hslot : s.slotGuard = true := by
    cases mode with
    | forwardingToClient => exact hinv.2.2
    | drainingUntilAgentConfirms => exact hinv.2.2
  refine ⟨hslot, slotGuard_step_iff hphase hslot input, ?_, ?_⟩
  · intro habandons
    cases mode with
    | forwardingToClient =>
      obtain ⟨hsilent, hstops⟩ := abandons_step hphase habandons
      rw [(hsilent.run after).2, hstops, hinv.2.1]
      rfl
    | drainingUntilAgentConfirms =>
      -- the agent was told when the draining began
      obtain ⟨hsilent, -, hstops⟩ := Silent.step (Or.inl hphase) input
      rw [(hsilent.run after).2, hstops, hinv.2.1]
      rfl
  · intro hterminal
    obtain ⟨hsilent, hstops⟩ := takesTerminal_step hphase hterminal
    rw [(hsilent.run after).2, hstops]

/-- An agent was found and got the request. -/
def handedOver : List (RequestInput GeneratedTokenResult) :=
  [⟨.waitForAvailableAgent (.found none), true, .stopRequested⟩,
    ⟨.handleStreamingResponse true, true, .stopRequested⟩]

/-- The client goes away. -/
def clientGone : RequestInput GeneratedTokenResult := ⟨.connectionClose, true, .stopRequested⟩

/-- The agent still has a token on its way, and then ends. -/
def agentEnds : List (RequestInput GeneratedTokenResult) :=
  [⟨.recv (some (.contentToken "a")), true, .stopRequested⟩,
    ⟨.recv (some (.done ⟨TokenUsage.new⟩)), true, .stopRequested⟩]

theorem slot_held_stop_once_clientGone :
    ((new "request" 1000).run handedOver).phase = .forwarding .forwardingToClient ∧
    ((new "request" 1000).run handedOver).slotGuard = true ∧
    ¬ (((new "request" 1000).run handedOver).step clientGone).slotGuard = false ∧
    ((new "request" 1000).run (handedOver ++ clientGone :: agentEnds)).slotGuard = false ∧
    ((new "request" 1000).run (handedOver ++ clientGone :: agentEnds)).stops.length = 1 := by
  have hphase : ((new "request" 1000).run handedOver).phase = .forwarding .forwardingToClient := by
    decide
  obtain ⟨hslot, hreleased, hstops, -⟩ := slot_held_stop_once hphase clientGone agentEnds
  refine ⟨hphase, hslot, ?_, by decide, hstops hphase⟩
  rw [hreleased]
  rintro ⟨-, hunreachable⟩
  cases hunreachable

end RequestFromAgent

end Paddler
