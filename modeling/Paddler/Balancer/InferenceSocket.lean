import Paddler.Balancer.RequestFromAgent
import Paddler.Balancer.SenderCollections

/-!
# Inference sockets, response senders and the agents

Model of `ws_inference_socket/mod.rs` with `request_cancellation_tokens.rs`, of the streaming half
of `agent_controller.rs`, and of what an agent does with request ids
(`management_socket_client_service.rs`, `receive_stream_stopper_collection.rs`).  Any number of
connections send requests under ids of their own choice; an HTTP request is a connection of its own
whose id comes from `nanoid!`.

A request is a `RequestFromAgent` together with everything that belongs to it elsewhere: its entry
in three collections (the cancellation tokens of its connection, the senders of the balancer, the
stoppers of an agent), the messages to the agent, the generation there, and the responses on their
way back.  The collections are keyed by request ids only, apart from the connection or the agent
they belong to.

Every message is handled in a step of its own.  Messages for one request stay in order, those for
different requests may overtake each other.

* `InferenceCluster.step` — one step of a connection, a request, an agent or the forwarding task.
* `clusterInv_step`, `clusterInv_of_reaches` — every collection has exactly the entries of the
  guards that live.
-/

set_option autoImplicit false

namespace Paddler

open AssocList Run VecUpdate

/-! ## The state -/

/-- `cluster_token_generation_mode.rs`. -/
inductive ClusterTokenGenerationMode where
  | enabled
  | disabledForEmbeddings
  deriving DecidableEq, Repr

/-- `TOKEN_GENERATION_DISABLED_MESSAGE`. -/
def tokenGenerationDisabledMessage : String :=
  "Token generation is disabled while the cluster is configured for embeddings"

/-- What the balancer sends to an agent about a request. -/
inductive AgentJsonRpcMessage where
  | request
  | stopRespondingTo
  deriving DecidableEq, Repr

/-- A request at an agent: `generate_responses` runs from the registration of the stopper until its
task ends, and the stop channel may have a signal. -/
inductive Generation where
  | absent
  | running (stopSignalled : Bool)
  deriving DecidableEq, Repr

def Generation.isRunning : Generation → Bool
  | .absent => false
  | .running _ => true

/-- A request of a client.  `controller`: its `ManagesSendersController` exists; `responseRx`: the
channel of that controller, every response with the request it was generated for; `taken` is
history: what the request took from the channel. -/
structure InferenceRequest where
  connection : Nat
  request : RequestFromAgent GeneratedTokenResult
  cancelled : Bool
  controller : Bool
  responseRx : List (Nat × GeneratedTokenResult)
  taken : List (Nat × GeneratedTokenResult)
  agent : Nat
  toAgent : List AgentJsonRpcMessage
  generation : Generation
  fromAgent : List GeneratedTokenResult
  deriving DecidableEq, Repr

/-- The inference connections, the balancer's sender collection and the stoppers of the agents. -/
structure InferenceCluster where
  inferenceItemTimeout : Nat
  closedConnections : List Nat
  requests : List InferenceRequest
  requestCancellationTokens : List ((Nat × String) × Nat)
  senders : List (String × Nat)
  stoppers : List ((Nat × String) × Nat)
  deriving DecidableEq, Repr

/-- What can happen to a request, with the answers of the outside world.  `select` is a branch of
one of its `select!`s that needs nothing of this model but the cancellation token. -/
inductive RequestAction where
  | select (input : RequestInput GeneratedTokenResult)
  | registerSender (sendSucceeds : Bool)
  | sendRpcMessage (agent : Nat) (sent : Bool) (sendSucceeds : Bool)
  | recv (sendSucceeds : Bool) (stopOutcome : AgentStopOutcome)
  | agentReceives
  | generate (response : GeneratedTokenResult) (ifStopped : Option GeneratedTokenResult)
  | generationEnds
  | forwardResponse
  | connectionLost
  deriving DecidableEq, Repr

/-- What can happen next. -/
inductive ClusterInput where
  | request (connection : Nat) (requestId : String) (mode : ClusterTokenGenerationMode)
    (sendSucceeds : Bool)
  | stopRespondingTo (connection : Nat) (requestId : String)
  | connectionClose (connection : Nat)
  | act (k : Nat) (action : RequestAction)
  deriving DecidableEq, Repr

/-! ## Steps of a connection -/

namespace InferenceRequest

/-- A request that starts to wait for an agent. -/
def new (connection : Nat) (requestId : String) (inferenceItemTimeout : Nat) : InferenceRequest :=
  ⟨connection, RequestFromAgent.new requestId inferenceItemTimeout, false, false, [], [], 0, [],
    .absent, []⟩

/-- A request that is answered at once. -/
def answered (connection : Nat) (requestId : String) (inferenceItemTimeout : Nat)
    (message : OutgoingMessage GeneratedTokenResult) (sendSucceeds : Bool) : InferenceRequest :=
  let request := RequestFromAgent.new requestId inferenceItemTimeout
  { new connection requestId inferenceItemTimeout with
    request := { request with phase := .returned, sends := [(message, sendSucceeds)] } }

def requestId (self : InferenceRequest) : String := self.request.requestId

/-- The request after a branch of its `select!`: every `StopRespondingTo` it sent is on its way to
the agent, and the channel goes with the controller. -/
def advanced (self : InferenceRequest) (input : RequestInput GeneratedTokenResult) :
    InferenceRequest :=
  let request := self.request.step input
  let stops := (request.stops.drop self.request.stops.length).filter (· == .stopRequested)
  { self with
    request := request
    toAgent := self.toAgent ++ stops.map fun _ => .stopRespondingTo
    controller := if request.phase = .returned then false else self.controller
    responseRx := if request.phase = .returned then [] else self.responseRx }

end InferenceRequest

namespace InferenceCluster

def new (inferenceItemTimeout : Nat) : InferenceCluster :=
  ⟨inferenceItemTimeout, [], [], [], [], []⟩

/-- `handle_inference_request`.  Lean's `quote` stands for Rust's `Debug` format of a string. -/
def handleInferenceRequest (self : InferenceCluster) (connection : Nat) (requestId : String)
    (mode : ClusterTokenGenerationMode) (sendSucceeds : Bool) : InferenceCluster :=
  match mode with
  | .disabledForEmbeddings =>
    let disabled := .response none requestId
      (.tokenGenerationDisabled tokenGenerationDisabledMessage)
    { self with
      requests := self.requests ++
        [.answered connection requestId self.inferenceItemTimeout disabled sendSucceeds] }
  | .enabled =>
    match self.requestCancellationTokens.lookup (connection, requestId) with
    | some _ =>
      let duplicate := .error requestId
        ⟨400, "Request id " ++ requestId.quote ++ " is already in flight on this connection"⟩
      { self with
        requests := self.requests ++
          [.answered connection requestId self.inferenceItemTimeout duplicate sendSucceeds] }
    | none =>
      { self with
        requests := self.requests ++ [.new connection requestId self.inferenceItemTimeout]
        requestCancellationTokens := insertKey (connection, requestId) self.requests.length
          self.requestCancellationTokens }

def cancel (self : InferenceCluster) (connection : Nat) (requestId : String) : InferenceCluster :=
  match self.requestCancellationTokens.lookup (connection, requestId) with
  | none => self
  | some k =>
    match self.requests[k]? with
    | none => self
    | some r => { self with requests := self.requests.set k { r with cancelled := true } }

/-! ## Steps of a request -/

/-- The request takes a branch, and when it returns its controller and its cancellation token guard
are dropped. -/
def advance (self : InferenceCluster) (k : Nat) (r : InferenceRequest)
    (input : RequestInput GeneratedTokenResult) : InferenceCluster :=
  let advanced := r.advanced input
  if advanced.request.phase = .returned then
    { self with
      requests := self.requests.set k advanced
      requestCancellationTokens :=
        eraseKey (r.connection, r.requestId) self.requestCancellationTokens
      senders := if r.controller then ManagesSenders.dropController self.senders r.requestId
        else self.senders }
  else { self with requests := self.requests.set k advanced }

/-- A branch that the request can take by itself. -/
def select (self : InferenceCluster) (k : Nat) (r : InferenceRequest)
    (input : RequestInput GeneratedTokenResult) : InferenceCluster :=
  match input.event with
  | .handleStreamingResponse _ | .recv _ => self
  | .connectionClose =>
    if r.cancelled || self.closedConnections.contains r.connection then self.advance k r input
    else self
  | _ => self.advance k r input

/-- `receiver_from_message` up to the registration. -/
def registerSender (self : InferenceCluster) (k : Nat) (r : InferenceRequest)
    (sendSucceeds : Bool) :
    InferenceCluster :=
  match ManagesSenders.registerSender self.senders r.requestId k with
  | .error _ => self.advance k r ⟨.handleStreamingResponse false, sendSucceeds, .stopRequested⟩
  | .ok senders =>
    { self with senders := senders, requests := self.requests.set k { r with controller := true } }

/-- The rest of `receiver_from_message`. -/
def sendRpcMessage (self : InferenceCluster) (k : Nat) (r : InferenceRequest) (agent : Nat)
    (sent : Bool) (sendSucceeds : Bool) : InferenceCluster :=
  if sent then
    self.advance k { r with agent := agent, toAgent := r.toAgent ++ [.request] }
      ⟨.handleStreamingResponse true, sendSucceeds, .stopRequested⟩
  else self.advance k r ⟨.handleStreamingResponse false, sendSucceeds, .stopRequested⟩

/-- A response is taken from the channel. -/
def recv (self : InferenceCluster) (k : Nat) (r : InferenceRequest) (sendSucceeds : Bool)
    (stopOutcome : AgentStopOutcome) : InferenceCluster :=
  match r.request.phase, r.responseRx with
  | .forwarding _, (origin, response) :: responseRx =>
    self.advance k { r with responseRx := responseRx, taken := r.taken ++ [(origin, response)] }
      ⟨.recv (some response), sendSucceeds, stopOutcome⟩
  | _, _ => self

/-! ## Steps of an agent -/

/-- The agent handles the next message about the request: `generate_responses`, which fails if the
id has a stopper, or `ReceiveStreamStopperCollection::stop`, which finds a stopper by the id. -/
def agentReceives (self : InferenceCluster) (k : Nat) (r : InferenceRequest) : InferenceCluster :=
  match r.toAgent with
  | [] => self
  | .request :: toAgent =>
    match self.stoppers.lookup (r.agent, r.requestId) with
    | some _ => { self with requests := self.requests.set k { r with toAgent := toAgent } }
    | none =>
      { self with
        requests := self.requests.set k { r with toAgent := toAgent, generation := .running false }
        stoppers := insertKey (r.agent, r.requestId) k self.stoppers }
  | .stopRespondingTo :: toAgent =>
    let requests := self.requests.set k { r with toAgent := toAgent }
    match self.stoppers.lookup (r.agent, r.requestId) with
    | none => { self with requests := requests }
    | some j =>
      match requests[j]? with
      | none => { self with requests := requests }
      | some stopped =>
        { self with requests := requests.set j { stopped with generation := .running true } }

/-- The agent produces a response; if it polled the stop channel and there was a signal, another
one. -/
def generate (self : InferenceCluster) (k : Nat) (r : InferenceRequest)
    (response : GeneratedTokenResult) (ifStopped : Option GeneratedTokenResult) :
    InferenceCluster :=
  match r.generation with
  | .absent => self
  | .running stopSignalled =>
    let produced := if stopSignalled then ifStopped.getD response else response
    { self with requests := self.requests.set k { r with fromAgent := r.fromAgent ++ [produced] } }

/-- The task of `generate_responses` ends, and `ReceiveStreamStopperDropGuard` is dropped. -/
def generationEnds (self : InferenceCluster) (k : Nat) (r : InferenceRequest) : InferenceCluster :=
  match r.generation with
  | .absent => self
  | .running _ =>
    { self with
      requests := self.requests.set k { r with generation := .absent }
      stoppers := eraseKey (r.agent, r.requestId) self.stoppers }

/-- `forward_response_safe` for the next response to the request. -/
def forwardResponse (self : InferenceCluster) (k : Nat) (r : InferenceRequest) : InferenceCluster :=
  match r.fromAgent with
  | [] => self
  | response :: fromAgent =>
    let requests := self.requests.set k { r with fromAgent := fromAgent }
    match ManagesSenders.forwardResponse self.senders r.requestId with
    | .error _ => { self with requests := requests }
    | .ok j =>
      match requests[j]? with
      | none => { self with requests := requests }
      | some target =>
        { self with
          requests := requests.set j
            { target with responseRx := target.responseRx ++ [(k, response)] } }

/-- The connection to the agent is gone, with the messages it carried for the request. -/
def connectionLost (self : InferenceCluster) (k : Nat) (r : InferenceRequest) : InferenceCluster :=
  { self with requests := self.requests.set k { r with toAgent := [], fromAgent := [] } }

/-- One step that a request is about.  A request that returned only has what is left of it
elsewhere. -/
def act (self : InferenceCluster) (k : Nat) (r : InferenceRequest) (action : RequestAction) :
    InferenceCluster :=
  match action with
  | .select input => if r.request.phase = .returned then self else self.select k r input
  | .registerSender sendSucceeds =>
    if r.request.phase = .dispatching ∧ r.controller = false then self.registerSender k r
      sendSucceeds
    else self
  | .sendRpcMessage agent sent sendSucceeds =>
    if r.request.phase = .dispatching ∧ r.controller = true then
      self.sendRpcMessage k r agent sent sendSucceeds
    else self
  | .recv sendSucceeds stopOutcome => self.recv k r sendSucceeds stopOutcome
  | .agentReceives => self.agentReceives k r
  | .generate response ifStopped => self.generate k r response ifStopped
  | .generationEnds => self.generationEnds k r
  | .forwardResponse => self.forwardResponse k r
  | .connectionLost => self.connectionLost k r

/-- One step. -/
def step (self : InferenceCluster) (input : ClusterInput) : InferenceCluster :=
  match input with
  | .request connection requestId mode sendSucceeds =>
    self.handleInferenceRequest connection requestId mode sendSucceeds
  | .stopRespondingTo connection requestId => self.cancel connection requestId
  | .connectionClose connection =>
    { self with closedConnections := connection :: self.closedConnections }
  | .act k action =>
    match self.requests[k]? with
    | none => self
    | some r => self.act k r action

end InferenceCluster

/-! ## Requests between their steps -/

namespace RequestFromAgent

variable {ρ : Type} {s : RequestFromAgent ρ}

/-- The request waits for an agent, or the agent did not get it yet. -/
def Undispatched (s : RequestFromAgent ρ) : Prop := s.phase = .waitingForAgent ∨
    s.phase = .dispatching

/-- The request is with an agent. -/
def Dispatched (s : RequestFromAgent ρ) : Prop := ∃ mode, s.phase = .forwarding mode

theorem undispatched_or (s : RequestFromAgent ρ) :
    s.Undispatched ∨ s.Dispatched ∨ s.phase = .returned := by
  cases hphase : s.phase with
  | waitingForAgent => exact Or.inl (Or.inl hphase)
  | dispatching => exact Or.inl (Or.inr hphase)
  | forwarding mode => exact Or.inr (Or.inl ⟨mode, hphase⟩)
  | returned => exact Or.inr (Or.inr rfl)

theorem Dispatched.not_undispatched (h : s.Dispatched) : ¬ s.Undispatched := by
  obtain ⟨mode, hphase⟩ := h
  rintro (hwaiting | hdispatching)
  · rw [hphase] at hwaiting
    cases hwaiting
  · rw [hphase] at hdispatching
    cases hdispatching

theorem Undispatched.ne_returned (h : s.Undispatched) : s.phase ≠ .returned := by
  intro hreturned
  rcases h with hphase | hphase
  · rw [hreturned] at hphase
    cases hphase
  · rw [hreturned] at hphase
    cases hphase

/-- Before the request is with an agent, a step tells nobody to stop, and only a
`handle_streaming_response` that succeeds gets it there. -/
theorem Undispatched.step [StreamableResult ρ] (h : s.Undispatched) (input : RequestInput ρ) :
    (s.step input).requestId = s.requestId ∧ (s.step input).stops = s.stops ∧
      ((s.step input).Dispatched → s.phase = .dispatching ∧
        input.event = .handleStreamingResponse true) := by
  have hsame := h
  have hreturned : ∀ s' : RequestFromAgent ρ, s'.phase = .returned → ¬ s'.Dispatched := by
    rintro s' hphase ⟨mode, hmode⟩
    rw [hphase] at hmode
    cases hmode
  unfold RequestFromAgent.step
  rcases h with hphase | hphase
  · rw [hphase]
    simp only [waitForAgentController]
    split
    · exact ⟨rfl, rfl, fun hdispatched => absurd hdispatched (hreturned _ rfl)⟩
    · exact ⟨rfl, rfl, fun hdispatched => absurd hdispatched (hreturned _ rfl)⟩
    · exact ⟨rfl, rfl, fun ⟨mode, hmode⟩ => by cases hmode⟩
    · exact ⟨rfl, rfl, fun hdispatched => absurd hdispatched (hreturned _ rfl)⟩
    · exact ⟨rfl, rfl, fun hdispatched => absurd hdispatched (hreturned _ rfl)⟩
    · exact ⟨rfl, rfl, fun hdispatched => absurd hdispatched (hreturned _ rfl)⟩
    · exact ⟨rfl, rfl, fun hdispatched => absurd hsame hdispatched.not_undispatched⟩
  · rw [hphase]
    simp only [handleStreamingResponse]
    split
    · rename_i hevent
      exact ⟨rfl, rfl, fun _ => ⟨trivial, hevent⟩⟩
    · exact ⟨rfl, rfl, fun hdispatched => absurd hdispatched (hreturned _ rfl)⟩
    · exact ⟨rfl, rfl, fun hdispatched => absurd hsame hdispatched.not_undispatched⟩

theorem stopThenDrain_requestId (s : RequestFromAgent ρ) (input : RequestInput ρ) :
    (s.stopThenDrain input).requestId = s.requestId ∧ ¬ (s.stopThenDrain input).Undispatched := by
  unfold stopThenDrain
  cases input.stopOutcome with
  | agentUnreachable => exact ⟨rfl, fun h => h.ne_returned rfl⟩
  | stopRequested => exact ⟨rfl, Dispatched.not_undispatched ⟨_, rfl⟩⟩

variable [StreamableResult ρ]

theorem Dispatched.step (h : s.Dispatched) (input : RequestInput ρ) :
    (s.step input).requestId = s.requestId ∧ ¬ (s.step input).Undispatched := by
  have hsame : s.requestId = s.requestId ∧ ¬ s.Undispatched := ⟨rfl, h.not_undispatched⟩
  have hfinish : ∀ s' : RequestFromAgent ρ, s'.requestId = s.requestId →
      s'.finish.requestId = s.requestId ∧ ¬ s'.finish.Undispatched :=
    fun s' hid => ⟨hid, fun hundispatched => hundispatched.ne_returned rfl⟩
  obtain ⟨mode, hphase⟩ := h
  unfold RequestFromAgent.step
  rw [hphase]
  simp only [forwardResponsesStream]
  split
  · split
    · exact hfinish _ rfl
    · exact hfinish _ rfl
  · split
    · exact hfinish _ rfl
    · exact hfinish _ rfl
  · split
    · exact stopThenDrain_requestId _ input
    · exact hsame
  · split
    · exact stopThenDrain_requestId _ input
    · exact hfinish _ rfl
  · split
    · exact hfinish _ rfl
    · exact hfinish _ rfl
  · split
    · split
      · exact hfinish _ rfl
      · split
        · exact ⟨rfl, Dispatched.not_undispatched ⟨mode, hphase⟩⟩
        · exact stopThenDrain_requestId _ input
    · split
      · exact hfinish _ rfl
      · exact ⟨rfl, Dispatched.not_undispatched ⟨mode, hphase⟩⟩
  · exact hsame
  · exact hsame

/-- A request that is with an agent takes what comes from its channel. -/
theorem Dispatched.step_recv (h : s.Dispatched) {input : RequestInput ρ} {response : ρ}
    (hevent : input.event = .recv (some response)) :
    (s.step input).received = s.received ++ [response] := by
  obtain ⟨mode, hphase⟩ := h
  unfold RequestFromAgent.step
  rw [hphase]
  simp only [forwardResponsesStream, hevent]
  split
  · split
    · rfl
    · split
      · rfl
      · exact stopThenDrain_received _ input
  · split
    · rfl
    · rfl

theorem step_received (s : RequestFromAgent ρ) {input : RequestInput ρ}
    (hevent : ∀ response, input.event ≠ .recv response) : (s.step input).received = s.received := by
  unfold RequestFromAgent.step
  split
  · unfold waitForAgentController
    split <;> rfl
  · unfold handleStreamingResponse
    split <;> rfl
  · unfold forwardResponsesStream
    simp only
    split
    · split <;> rfl
    · split <;> rfl
    · split
      · exact stopThenDrain_received _ input
      · rfl
    · split
      · exact stopThenDrain_received _ input
      · rfl
    · rename_i hrecv
      exact absurd hrecv (hevent none)
    · rename_i response hrecv
      exact absurd hrecv (hevent (some response))
    · rfl
    · rfl
  · rfl

/-- A message after a step: it was sent before, it is an error, or a response taken from the
channel. -/
def SentBy (s : RequestFromAgent ρ) (input : RequestInput ρ) (send : OutgoingMessage ρ × Bool) :
    Prop :=
  send ∈ s.sends ∨ (∃ error, send.1 = .error s.requestId error) ∨
    ∃ response, input.event = .recv (some response) ∧ s.Dispatched ∧ send.1 = s.asResponse response

section SentBy

variable {input : RequestInput ρ} {send : OutgoingMessage ρ × Bool}

omit [StreamableResult ρ] in
theorem sentBy_concat {message : OutgoingMessage ρ} {succeeds : Bool}
    (hmessage : (∃ error, message = .error s.requestId error) ∨
      ∃ response, input.event = .recv (some response) ∧ s.Dispatched ∧
        message = s.asResponse response)
    (hsend : send ∈ s.sends ++ [(message, succeeds)]) : s.SentBy input send := by
  rcases List.mem_append.mp hsend with hold | hnew
  · exact Or.inl hold
  · rw [List.mem_singleton.mp hnew]
    exact Or.inr hmessage

omit [StreamableResult ρ] in
theorem respondWithError_sentBy {error : JsonRpcError}
    (hsend : send ∈ (s.respondWithError input error).sends) : s.SentBy input send :=
  sentBy_concat (Or.inl ⟨error, rfl⟩) hsend

omit [StreamableResult ρ] in
theorem waitForAgentController_sentBy (hsend : send ∈ (s.waitForAgentController input).sends) :
    s.SentBy input send := by
  unfold waitForAgentController at hsend
  split at hsend
  · exact respondWithError_sentBy hsend
  · exact Or.inl hsend
  · exact Or.inl hsend
  · exact respondWithError_sentBy hsend
  · exact respondWithError_sentBy hsend
  · exact respondWithError_sentBy hsend
  · exact Or.inl hsend

omit [StreamableResult ρ] in
theorem handleStreamingResponse_sentBy (hsend : send ∈ (s.handleStreamingResponse input).sends) :
    s.SentBy input send := by
  unfold handleStreamingResponse at hsend
  split at hsend
  · exact Or.inl hsend
  · exact respondWithError_sentBy hsend
  · exact Or.inl hsend

theorem forwardResponsesStream_sentBy {mode : AgentResponseForwardingMode}
    (hphase : s.phase = .forwarding mode)
    (hsend : send ∈ (s.forwardResponsesStream mode input).sends) : s.SentBy input send := by
  unfold forwardResponsesStream at hsend
  simp only at hsend
  split at hsend
  · split at hsend
    · exact respondWithError_sentBy hsend
    · exact Or.inl hsend
  · split at hsend
    · exact respondWithError_sentBy hsend
    · exact Or.inl hsend
  · split at hsend
    · rw [stopThenDrain_sends] at hsend
      exact Or.inl hsend
    · exact Or.inl hsend
  · split at hsend
    · rw [stopThenDrain_sends] at hsend
      exact respondWithError_sentBy hsend
    · exact Or.inl hsend
  · split at hsend
    · exact respondWithError_sentBy hsend
    · exact Or.inl hsend
  · rename_i response hevent
    have hforwarded : send ∈ s.sends ++ [(s.asResponse response, input.sendSucceeds)] →
        s.SentBy input send :=
      sentBy_concat (Or.inr ⟨response, hevent, ⟨mode, hphase⟩, rfl⟩)
    split at hsend
    · split at hsend
      · exact hforwarded hsend
      · split at hsend
        · exact hforwarded hsend
        · rw [stopThenDrain_sends] at hsend
          exact hforwarded hsend
    · split at hsend
      · exact Or.inl hsend
      · exact Or.inl hsend
  · exact Or.inl hsend
  · exact Or.inl hsend

/-- What a step sends to the client is an error, or a response that it took from the channel. -/
theorem step_sends (s : RequestFromAgent ρ) (input : RequestInput ρ) :
    ∀ send ∈ (s.step input).sends, s.SentBy input send := by
  intro send hsend
  unfold RequestFromAgent.step at hsend
  split at hsend
  · exact waitForAgentController_sentBy hsend
  · exact handleStreamingResponse_sentBy hsend
  · rename_i mode hphase
    exact forwardResponsesStream_sentBy hphase hsend
  · exact Or.inl hsend

end SentBy

theorem step_requestId (s : RequestFromAgent ρ) (input : RequestInput ρ) :
    (s.step input).requestId = s.requestId := by
  rcases s.undispatched_or with h | h | h
  · exact (h.step input).1
  · exact (h.step input).1
  · unfold RequestFromAgent.step
    rw [h]

end RequestFromAgent

/-! ## What the collections hold -/

namespace InferenceRequest

/-- The key of the request in the cancellation tokens. -/
def tokenKey (self : InferenceRequest) : Option (Nat × String) :=
  if self.request.phase = .returned then none else some (self.connection, self.requestId)

/-- The key of the request in the senders. -/
def senderKey (self : InferenceRequest) : Option String :=
  if self.controller then some self.requestId else none

/-- The key of the request in the stoppers. -/
def stopperKey (self : InferenceRequest) : Option (Nat × String) :=
  if self.generation.isRunning then some (self.agent, self.requestId) else none

/-- Nothing exists at an agent before the request is there, and while it is there the controller
lives. -/
structure WellPhased (r : InferenceRequest) : Prop where
  undispatched : r.request.Undispatched → r.toAgent = [] ∧ r.generation = .absent ∧ r.fromAgent = []
  dispatched : r.request.Dispatched → r.controller = true

variable {r r' : InferenceRequest} {input : RequestInput GeneratedTokenResult}

theorem advanced_requestId : (r.advanced input).requestId = r.requestId :=
  r.request.step_requestId input

theorem tokenKey_eq_some {key : Nat × String} (h : r.tokenKey = some key) :
    key = (r.connection, r.requestId) := by
  unfold tokenKey at h
  split at h
  · cases h
  · cases h
    rfl

theorem senderKey_eq_some {key : String} (h : r.senderKey = some key) :
    r.controller = true ∧ r.requestId = key := by
  unfold senderKey at h
  split at h
  · rename_i hcontroller
    cases h
    exact ⟨hcontroller, rfl⟩
  · cases h

theorem advanced_stopperKey : (r.advanced input).stopperKey = r.stopperKey := by
  unfold stopperKey
  rw [advanced_requestId]
  rfl

theorem advanced_tokenKey_returned (h : (r.advanced input).request.phase = .returned) :
    (r.advanced input).tokenKey = none := if_pos h

theorem advanced_tokenKey_open (h : (r.advanced input).request.phase ≠ .returned)
    (hopen : r.request.phase ≠ .returned) : (r.advanced input).tokenKey = r.tokenKey := by
  unfold tokenKey
  rw [if_neg h, if_neg hopen, advanced_requestId]
  rfl

theorem advanced_senderKey_returned (h : (r.advanced input).request.phase = .returned) :
    (r.advanced input).senderKey = none := by
  unfold senderKey
  rw [if_neg]
  show ¬ (if (r.advanced input).request.phase = .returned then false else r.controller) = true
  rw [if_pos h]
  exact Bool.false_ne_true

theorem advanced_controller_open (h : (r.advanced input).request.phase ≠ .returned) :
    (r.advanced input).controller = r.controller := if_neg h

theorem advanced_senderKey_open (h : (r.advanced input).request.phase ≠ .returned) :
    (r.advanced input).senderKey = r.senderKey := by
  unfold senderKey
  rw [advanced_controller_open h, advanced_requestId]

/-- A request that nobody told to stop sends nothing to the agent. -/
theorem advanced_toAgent (h : (r.request.step input).stops = r.request.stops) :
    (r.advanced input).toAgent = r.toAgent := by
  unfold advanced
  simp [h]

theorem advanced_returned (h : r.request.phase = .returned) :
    (r.advanced input).request = r.request := by
  show r.request.step input = r.request
  unfold RequestFromAgent.step
  rw [h]

theorem Dispatched.ne_returned (h : r.request.Dispatched) : r.request.phase ≠ .returned := by
  obtain ⟨mode, hmode⟩ := h
  rw [hmode]
  exact fun hreturned => by cases hreturned

/-- A branch keeps a request well phased; the one that hands it over needs the controller. -/
theorem WellPhased.advanced (h : r.WellPhased)
    (hinput : r.request.phase = .dispatching → input.event = .handleStreamingResponse true →
      r.controller = true) : (r.advanced input).WellPhased := by
  constructor
  · intro hundispatched
    rcases r.request.undispatched_or with hbefore | hbefore | hbefore
    · obtain ⟨htoAgent, hgeneration, hfromAgent⟩ := h.undispatched hbefore
      rw [advanced_toAgent (hbefore.step input).2.1]
      exact ⟨htoAgent, hgeneration, hfromAgent⟩
    · exact absurd hundispatched (hbefore.step input).2
    · rw [advanced_returned hbefore] at hundispatched
      exact absurd hbefore hundispatched.ne_returned
  · intro hdispatched
    rw [advanced_controller_open (Dispatched.ne_returned hdispatched)]
    rcases r.request.undispatched_or with hbefore | hbefore | hbefore
    · obtain ⟨hphase, hevent⟩ := (hbefore.step input).2.2 hdispatched
      exact hinput hphase hevent
    · exact h.dispatched hbefore
    · rw [advanced_returned hbefore] at hdispatched
      exact absurd hbefore (Dispatched.ne_returned hdispatched)

end InferenceRequest

/-- Every collection has exactly the keys of the guards that live. -/
structure ClusterInv (s : InferenceCluster) : Prop where
  tokens : Owned s.requestCancellationTokens (heldBy InferenceRequest.tokenKey s.requests)
  senders : Owned s.senders (heldBy InferenceRequest.senderKey s.requests)
  stoppers : Owned s.stoppers (heldBy InferenceRequest.stopperKey s.requests)
  wellPhased : ∀ (i : Nat) (r : InferenceRequest), s.requests[i]? = some r → r.WellPhased

theorem clusterInv_new (inferenceItemTimeout : Nat) :
    ClusterInv (InferenceCluster.new inferenceItemTimeout) := by
  have hempty : ∀ {κ : Type} [BEq κ] (f : InferenceRequest → Option κ),
      Owned ([] : List (κ × Nat)) (heldBy f []) := by
    intro κ _ f key owner
    constructor
    · intro h
      cases h
    · intro h
      cases h
  exact ⟨hempty _, hempty _, hempty _, fun i r hr => by cases hr⟩

namespace ClusterInv

variable {s : InferenceCluster} {k : Nat} {r₀ r r' : InferenceRequest}
  {input : RequestInput GeneratedTokenResult}

theorem wellPhased_set (hinv : ClusterInv s) (hwell : r'.WellPhased) (i : Nat)
    (r : InferenceRequest) (hr : (s.requests.set k r')[i]? = some r) : r.WellPhased := by
  rcases getElem?_set_cases hr with ⟨-, rfl⟩ | ⟨-, hr⟩
  · exact hwell
  · exact hinv.wellPhased i r hr

theorem keep (hinv : ClusterInv s) (hr : s.requests[k]? = some r)
    (htoken : r'.tokenKey = r.tokenKey) (hsender : r'.senderKey = r.senderKey)
    (hstopper : r'.stopperKey = r.stopperKey) (hwell : r'.WellPhased) :
    ClusterInv { s with requests := s.requests.set k r' } :=
  ⟨hinv.tokens.keep hr htoken, hinv.senders.keep hr hsender, hinv.stoppers.keep hr hstopper,
    hinv.wellPhased_set hwell⟩

theorem senders_lookup (hinv : ClusterInv s) (hr : s.requests[k]? = some r)
    (hkey : r.senderKey = some r.requestId) : s.senders.lookup r.requestId = some k := by
  rw [hinv.senders, heldBy_of_getElem? hr]
  exact hkey

theorem advance (hinv : ClusterInv s) (hr : s.requests[k]? = some r₀)
    (htoken : r.tokenKey = r₀.tokenKey) (hsender : r.senderKey = r₀.senderKey)
    (hstopper : r.stopperKey = r₀.stopperKey) (hid : r.requestId = r₀.requestId)
    (hopen : r.request.phase ≠ .returned)
    (hwell : (r.advanced input).WellPhased) : ClusterInv (s.advance k r input) := by
  have hstopper' : (r.advanced input).stopperKey = r₀.stopperKey :=
    InferenceRequest.advanced_stopperKey.trans hstopper
  unfold InferenceCluster.advance
  simp only
  split
  · rename_i hreturned
    have htokenKey : r₀.tokenKey = some (r.connection, r.requestId) :=
      htoken.symm.trans (if_neg hopen)
    have hsender' := InferenceRequest.advanced_senderKey_returned hreturned
    have htokens := hinv.tokens.release hr htokenKey
      (InferenceRequest.advanced_tokenKey_returned hreturned)
    split
    · rename_i hcontroller
      have hsenderKey : r₀.senderKey = some r₀.requestId := by
        rw [← hsender, ← hid]
        exact if_pos hcontroller
      rw [hid, ManagesSenders.dropController_eq (hinv.senders_lookup hr hsenderKey)]
      rw [hid] at htokens
      exact ⟨htokens, hinv.senders.release hr hsenderKey hsender', hinv.stoppers.keep hr hstopper',
        hinv.wellPhased_set hwell⟩
    · rename_i hcontroller
      have hsenderKey : r₀.senderKey = none := hsender.symm.trans (if_neg hcontroller)
      exact ⟨htokens, hinv.senders.keep hr (hsender'.trans hsenderKey.symm),
        hinv.stoppers.keep hr hstopper', hinv.wellPhased_set hwell⟩
  · rename_i hreturned
    exact hinv.keep hr ((InferenceRequest.advanced_tokenKey_open hreturned hopen).trans htoken)
      ((InferenceRequest.advanced_senderKey_open hreturned).trans hsender) hstopper' hwell

/-- A request that came, answered at once or with a cancellation token. -/
theorem handleInferenceRequest (hinv : ClusterInv s) (connection : Nat) (requestId : String)
    (mode : ClusterTokenGenerationMode) (sendSucceeds : Bool) :
    ClusterInv (s.handleInferenceRequest connection requestId mode sendSucceeds) := by
  have hwell : ∀ r', r'.WellPhased → ∀ (i : Nat) (r : InferenceRequest),
      (s.requests ++ [r'])[i]? = some r → r.WellPhased := by
    intro r' hr' i r hr
    rcases getElem?_push_cases hr with hr | ⟨-, rfl⟩
    · exact hinv.wellPhased i r hr
    · exact hr'
  have hanswered : ∀ message, ClusterInv
      { s with
        requests := s.requests ++
          [.answered connection requestId s.inferenceItemTimeout message sendSucceeds] } := by
    intro message
    refine ⟨hinv.tokens.push_idle rfl, hinv.senders.push_idle rfl,
      hinv.stoppers.push_idle rfl, hwell _ ?_⟩
    exact ⟨fun _ => ⟨rfl, rfl, rfl⟩, fun ⟨_, hphase⟩ => by cases hphase⟩
  unfold InferenceCluster.handleInferenceRequest
  cases mode with
  | disabledForEmbeddings => exact hanswered _
  | enabled =>
    simp only
    split
    · exact hanswered _
    · rename_i hfree
      refine ⟨hinv.tokens.push_register hfree rfl, hinv.senders.push_idle rfl,
        hinv.stoppers.push_idle rfl, hwell _ ?_⟩
      exact ⟨fun _ => ⟨rfl, rfl, rfl⟩, fun ⟨_, hphase⟩ => by cases hphase⟩

theorem cancel (hinv : ClusterInv s) (connection : Nat) (requestId : String) :
    ClusterInv (s.cancel connection requestId) := by
  unfold InferenceCluster.cancel
  split
  · exact hinv
  · split
    · exact hinv
    · rename_i r hr
      exact hinv.keep hr rfl rfl rfl ⟨(hinv.wellPhased _ r hr).undispatched,
        (hinv.wellPhased _ r hr).dispatched⟩

theorem advance_self (hinv : ClusterInv s) (hr : s.requests[k]? = some r)
    (hopen : r.request.phase ≠ .returned) (hevent : input.event ≠ .handleStreamingResponse true) :
    ClusterInv (s.advance k r input) :=
  hinv.advance hr rfl rfl rfl rfl hopen
    ((hinv.wellPhased k r hr).advanced fun _ hhanded => absurd hhanded hevent)

theorem select (hinv : ClusterInv s) (hr : s.requests[k]? = some r)
    (hopen : r.request.phase ≠ .returned) (input : RequestInput GeneratedTokenResult) :
    ClusterInv (s.select k r input) := by
  unfold InferenceCluster.select
  split
  · exact hinv
  · exact hinv
  · rename_i hevent
    split
    · exact hinv.advance_self hr hopen (by rw [hevent]; exact fun h => by cases h)
    · exact hinv
  · rename_i hevent _ _
    exact hinv.advance_self hr hopen (hevent true)

theorem ne_returned_of_dispatching (h : r.request.phase = .dispatching) :
    r.request.phase ≠ .returned := by
  rw [h]
  exact fun hreturned => by cases hreturned

theorem registerSender (hinv : ClusterInv s) (hr : s.requests[k]? = some r)
    (hphase : r.request.phase = .dispatching) (hcontroller : r.controller = false)
    (sendSucceeds : Bool) : ClusterInv (s.registerSender k r sendSucceeds) := by
  unfold InferenceCluster.registerSender
  split
  · exact hinv.advance_self hr (ne_returned_of_dispatching hphase) fun h => by cases h
  · rename_i senders hsenders
    obtain ⟨hfree, rfl⟩ := ManagesSenders.registerSender_ok hsenders
    have hidle : r.senderKey = none := if_neg (by rw [hcontroller]; exact Bool.false_ne_true)
    refine ⟨hinv.tokens.keep hr rfl, hinv.senders.register hr hfree hidle rfl,
      hinv.stoppers.keep hr rfl, hinv.wellPhased_set ⟨(hinv.wellPhased k r hr).undispatched,
        fun _ => rfl⟩⟩

theorem sendRpcMessage (hinv : ClusterInv s) (hr : s.requests[k]? = some r)
    (hphase : r.request.phase = .dispatching) (hcontroller : r.controller = true) (agent : Nat)
    (sent sendSucceeds : Bool) : ClusterInv (s.sendRpcMessage k r agent sent sendSucceeds) := by
  unfold InferenceCluster.sendRpcMessage
  split
  · obtain ⟨-, hgeneration, -⟩ := (hinv.wellPhased k r hr).undispatched (Or.inr hphase)
    have hstopper : ∀ toAgent,
        ({ r with agent := agent, toAgent := toAgent } : InferenceRequest).stopperKey =
          r.stopperKey := by
      intro toAgent
      simp [InferenceRequest.stopperKey, hgeneration, Generation.isRunning]
    refine hinv.advance hr rfl rfl (hstopper _) rfl (ne_returned_of_dispatching hphase) ?_
    have hforwarding : (r.request.step ⟨.handleStreamingResponse true, sendSucceeds,
        .stopRequested⟩).phase = .forwarding .forwardingToClient := by
      simp [RequestFromAgent.step, hphase, RequestFromAgent.handleStreamingResponse]
    constructor
    · intro hundispatched
      exact absurd hundispatched (RequestFromAgent.Dispatched.not_undispatched ⟨_, hforwarding⟩)
    · intro hdispatched
      rw [InferenceRequest.advanced_controller_open
        (InferenceRequest.Dispatched.ne_returned hdispatched)]
      exact hcontroller
  · exact hinv.advance_self hr (ne_returned_of_dispatching hphase) fun h => by cases h

theorem recv (hinv : ClusterInv s) (hr : s.requests[k]? = some r) (sendSucceeds : Bool)
    (stopOutcome : AgentStopOutcome) : ClusterInv (s.recv k r sendSucceeds stopOutcome) := by
  have hwell := hinv.wellPhased k r hr
  unfold InferenceCluster.recv
  split
  · rename_i mode origin response responseRx hphase hresponseRx
    refine hinv.advance hr rfl rfl rfl rfl ?_ ?_
    · exact InferenceRequest.Dispatched.ne_returned ⟨mode, hphase⟩
    · exact InferenceRequest.WellPhased.advanced ⟨hwell.undispatched, hwell.dispatched⟩
        fun hdispatching => by rw [hphase] at hdispatching; cases hdispatching
  · exact hinv

theorem stopperKey_running {b : Bool} (h : r.generation = .running b) :
    r.stopperKey = some (r.agent, r.requestId) := by
  unfold InferenceRequest.stopperKey
  rw [h]
  rfl

theorem stopperKey_eq_some {key : Nat × String} (h : r.stopperKey = some key) :
    r.generation.isRunning = true ∧ key = (r.agent, r.requestId) := by
  unfold InferenceRequest.stopperKey at h
  split at h
  · rename_i hrunning
    cases h
    exact ⟨hrunning, rfl⟩
  · cases h

/-- A request that the agent has something of is not undispatched. -/
theorem wellPhased_of_not_undispatched (hwell : r.WellPhased) (h : ¬ r'.request.Undispatched)
    (hrequest : r'.request = r.request) (hcontroller : r'.controller = r.controller) :
    r'.WellPhased :=
  ⟨fun hundispatched => absurd hundispatched h,
    fun hdispatched => hcontroller.trans (hwell.dispatched (hrequest ▸ hdispatched))⟩

theorem agentReceives (hinv : ClusterInv s) (hr : s.requests[k]? = some r) :
    ClusterInv (s.agentReceives k r) := by
  have hwell := hinv.wellPhased k r hr
  have hgone : ∀ toAgent message, r.toAgent = message :: toAgent → ¬ r.request.Undispatched := by
    intro toAgent message htoAgent hundispatched
    rw [(hwell.undispatched hundispatched).1] at htoAgent
    cases htoAgent
  have hpopped : ∀ toAgent message, r.toAgent = message :: toAgent →
      ClusterInv { s with requests := s.requests.set k { r with toAgent := toAgent } } := by
    intro toAgent message htoAgent
    exact hinv.keep hr rfl rfl rfl
      (wellPhased_of_not_undispatched hwell (hgone toAgent message htoAgent) rfl rfl)
  unfold InferenceCluster.agentReceives
  split
  · exact hinv
  · rename_i toAgent htoAgent
    split
    · exact hpopped toAgent _ htoAgent
    · rename_i hfree
      have hidle : r.stopperKey = none := by
        cases hkey : r.stopperKey with
        | none => rfl
        | some key =>
          obtain ⟨-, rfl⟩ := stopperKey_eq_some hkey
          rw [(hinv.stoppers _ k).mpr ((heldBy_of_getElem? hr).trans hkey)] at hfree
          cases hfree
      exact ⟨hinv.tokens.keep hr rfl, hinv.senders.keep hr rfl,
        hinv.stoppers.register hr hfree hidle rfl,
        hinv.wellPhased_set (wellPhased_of_not_undispatched hwell
          (hgone toAgent _ htoAgent) rfl rfl)⟩
  · rename_i toAgent htoAgent
    simp only
    split
    · exact hpopped toAgent _ htoAgent
    · rename_i j hstopper
      split
      · exact hpopped toAgent _ htoAgent
      · rename_i stopped hstopped
        have hinv' := hpopped toAgent _ htoAgent
        obtain ⟨stopped', hstopped', hkey⟩ := heldBy_eq_some ((hinv'.stoppers _ j).mp hstopper)
        rw [hstopped] at hstopped'
        cases hstopped'
        obtain ⟨hrunning, hsame⟩ := stopperKey_eq_some hkey
        have hwell' := hinv'.wellPhased j stopped hstopped
        refine hinv'.keep hstopped rfl rfl ?_ (wellPhased_of_not_undispatched hwell' ?_ rfl rfl)
        · rw [hkey, hsame]
          rfl
        · intro hundispatched
          rw [(hwell'.undispatched hundispatched).2.1] at hrunning
          cases hrunning

theorem generate (hinv : ClusterInv s) (hr : s.requests[k]? = some r)
    (response : GeneratedTokenResult) (ifStopped : Option GeneratedTokenResult) :
    ClusterInv (s.generate k r response ifStopped) := by
  have hwell := hinv.wellPhased k r hr
  unfold InferenceCluster.generate
  split
  · exact hinv
  · rename_i stopSignalled hrunning
    refine hinv.keep hr rfl rfl rfl (wellPhased_of_not_undispatched hwell ?_ rfl rfl)
    intro hundispatched
    rw [(hwell.undispatched hundispatched).2.1] at hrunning
    cases hrunning

theorem generationEnds (hinv : ClusterInv s) (hr : s.requests[k]? = some r) :
    ClusterInv (s.generationEnds k r) := by
  have hwell := hinv.wellPhased k r hr
  unfold InferenceCluster.generationEnds
  split
  · exact hinv
  · rename_i stopSignalled hrunning
    refine ⟨hinv.tokens.keep hr rfl, hinv.senders.keep hr rfl,
      hinv.stoppers.release hr (stopperKey_running hrunning) rfl, hinv.wellPhased_set ?_⟩
    exact ⟨fun hundispatched => ⟨(hwell.undispatched hundispatched).1, rfl,
      (hwell.undispatched hundispatched).2.2⟩, hwell.dispatched⟩

theorem forwardResponse (hinv : ClusterInv s) (hr : s.requests[k]? = some r) :
    ClusterInv (s.forwardResponse k r) := by
  have hwell := hinv.wellPhased k r hr
  unfold InferenceCluster.forwardResponse
  split
  · exact hinv
  · rename_i response fromAgent hfromAgent
    have hpopped : ClusterInv
        { s with requests := s.requests.set k { r with fromAgent := fromAgent } } := by
      refine hinv.keep hr rfl rfl rfl (wellPhased_of_not_undispatched hwell ?_ rfl rfl)
      intro hundispatched
      rw [(hwell.undispatched hundispatched).2.2] at hfromAgent
      cases hfromAgent
    simp only
    split
    · exact hpopped
    · split
      · exact hpopped
      · rename_i target htarget
        have hwell' := hpopped.wellPhased _ target htarget
        exact hpopped.keep htarget rfl rfl rfl ⟨hwell'.undispatched, hwell'.dispatched⟩

theorem connectionLost (hinv : ClusterInv s) (hr : s.requests[k]? = some r) :
    ClusterInv (s.connectionLost k r) := by
  have hwell := hinv.wellPhased k r hr
  refine hinv.keep hr rfl rfl rfl ⟨fun hundispatched => ?_, hwell.dispatched⟩
  exact ⟨rfl, (hwell.undispatched hundispatched).2.1, rfl⟩

end ClusterInv

theorem clusterInv_step {s : InferenceCluster} (hinv : ClusterInv s) (input : ClusterInput) :
    ClusterInv (s.step input) := by
  unfold InferenceCluster.step
  cases input with
  | request connection requestId mode sendSucceeds =>
    exact hinv.handleInferenceRequest connection requestId mode sendSucceeds
  | stopRespondingTo connection requestId => exact hinv.cancel connection requestId
  | connectionClose connection => exact ⟨hinv.tokens, hinv.senders, hinv.stoppers, hinv.wellPhased⟩
  | act k action =>
    simp only
    split
    · exact hinv
    · rename_i r hr
      unfold InferenceCluster.act
      cases action with
      | select input =>
        simp only
        split
        · exact hinv
        · rename_i hopen
          exact hinv.select hr hopen input
      | registerSender sendSucceeds =>
        simp only
        split
        · rename_i hready
          exact hinv.registerSender hr hready.1 hready.2 sendSucceeds
        · exact hinv
      | sendRpcMessage agent sent sendSucceeds =>
        simp only
        split
        · rename_i hready
          exact hinv.sendRpcMessage hr hready.1 hready.2 agent sent sendSucceeds
        · exact hinv
      | recv sendSucceeds stopOutcome => exact hinv.recv hr sendSucceeds stopOutcome
      | agentReceives => exact hinv.agentReceives hr
      | generate response ifStopped => exact hinv.generate hr response ifStopped
      | generationEnds => exact hinv.generationEnds hr
      | forwardResponse => exact hinv.forwardResponse hr
      | connectionLost => exact hinv.connectionLost hr

/-- **The collections in every run.** -/
theorem clusterInv_of_reaches {guard : InferenceCluster → ClusterInput → Prop}
    {s : InferenceCluster} {inferenceItemTimeout : Nat}
    (h : Reaches InferenceCluster.step guard (.new inferenceItemTimeout) s) : ClusterInv s :=
  h.invariant ClusterInv (clusterInv_new inferenceItemTimeout)
    fun _ input _ hinv _ => clusterInv_step hinv input

end Paddler
