import Paddler.Balancer.RequestFromAgent

/-!
# The response channel in front of a forwarding loop

`forward_responses_stream` of `request_from_agent.rs` with what it polls: the two cancellation
tokens of the connections, the shutdown, the timer, and the channel into which `forward_response` of
`manages_senders.rs` puts what the agent sends.  The `select!` is `biased`, so a turn takes the
first branch that is ready.  A message of the agent is handled in a task of its own, also after its
connection closed.  `put` is history: everything that went into the channel.

* `selectEvent` — the branch a turn takes.
* `AnswerDelivered` — the client gets what was put in the channel, up to the terminal response.
* `answerDelivered_iff` — **nothing is lost if and only if no turn of the loop begins interrupted.**
* `answer_lostToDisconnect` — a queued answer is lost when the agent closes its connection.
-/

set_option autoImplicit false

namespace Paddler

open Run

variable {ρ : Type}

/-- A request that is being forwarded, with what its loop polls. -/
structure QueuedResponses (ρ : Type) where
  request : RequestFromAgent ρ
  responseRx : List ρ
  agentConnectionClose : Bool
  connectionClose : Bool
  shutdown : Bool
  put : List ρ
  deriving DecidableEq

/-- What can happen next.  `elapsed` tells whether the timer of this turn ran out first. -/
inductive QueuedResponsesInput (ρ : Type) where
  | forwardResponse (response : ρ)
  | closeAgentConnection
  | closeConnection
  | startShutdown
  | turn (elapsed sendSucceeds : Bool) (stopOutcome : AgentStopOutcome)
  deriving DecidableEq

/-- The client stays and receives. -/
def QueuedResponsesInput.ClientListens : QueuedResponsesInput ρ → Prop
  | .closeConnection => False
  | .turn _ sendSucceeds _ => sendSucceeds = true
  | .forwardResponse _ | .closeAgentConnection | .startShutdown => True

namespace QueuedResponses

/-- A request that was just handed over to an agent. -/
def start (requestId : String) (inferenceItemTimeout : Nat) (agentName : Option String) :
    QueuedResponses ρ :=
  { request := { RequestFromAgent.new requestId inferenceItemTimeout with
      phase := .forwarding .forwardingToClient
      agentName := agentName
      slotGuard := true }
    responseRx := []
    agentConnectionClose := false
    connectionClose := false
    shutdown := false
    put := [] }

/-- The first branch of the `select!` that is ready, and the channel afterwards. -/
def selectEvent (self : QueuedResponses ρ) (elapsed : Bool) : Option (RequestEvent ρ × List ρ) :=
  if self.shutdown then some (.shutdown, self.responseRx)
  else if self.agentConnectionClose then some (.agentConnectionClose, self.responseRx)
  else if self.connectionClose && self.request.phase == .forwarding .forwardingToClient then
    some (.connectionClose, self.responseRx)
  else if elapsed then some (.inferenceItemTimeout, self.responseRx)
  else
    match self.responseRx with
    | response :: responseRx => some (.recv (some response), responseRx)
    | [] => none

variable [StreamableResult ρ]

/-- One step.  A request that returned has deregistered its sender. -/
def step (self : QueuedResponses ρ) : QueuedResponsesInput ρ → QueuedResponses ρ
  | .forwardResponse response =>
    if self.request.phase = .returned then self
    else { self with
      responseRx := self.responseRx ++ [response]
      put := self.put ++ [response] }
  | .closeAgentConnection => { self with agentConnectionClose := true }
  | .closeConnection => { self with connectionClose := true }
  | .startShutdown => { self with shutdown := true }
  | .turn elapsed sendSucceeds stopOutcome =>
    match self.request.phase, self.selectEvent elapsed with
    | .forwarding _, some (event, responseRx) =>
      { self with
        request := self.request.step ⟨event, sendSucceeds, stopOutcome⟩
        responseRx := responseRx }
    | _, _ => self

/-- The responses up to the first terminal one. -/
def upToTerminal : List ρ → List ρ
  | [] => []
  | response :: rest =>
    if StreamableResult.isDone response then [response] else response :: upToTerminal rest

/-- The client has the first responses that were put in the channel, and when the loop has returned
it has them up to the terminal one. -/
def AnswerDelivered (s : QueuedResponses ρ) : Prop :=
  s.request.delivered <+: (upToTerminal s.put).map s.request.asResponse ∧
    (s.request.phase = .returned →
      s.request.delivered = (upToTerminal s.put).map s.request.asResponse)

/-- No turn of the loop begins after the shutdown or the close of the agent's connection, or with
its timer run out. -/
def NotInterrupted (s : QueuedResponses ρ) : QueuedResponsesInput ρ → Prop
  | .turn elapsed _ _ => s.request.phase ≠ .returned →
      s.shutdown = false ∧ s.agentConnectionClose = false ∧ elapsed = false
  | _ => True

instance (s : QueuedResponses ρ) (input : QueuedResponsesInput ρ) :
    Decidable (s.NotInterrupted input) := by
  cases input <;> simp only [NotInterrupted] <;> infer_instance

/-- The start is a request that found its agent and was handed over. -/
theorem start_request (requestId : String) (inferenceItemTimeout : Nat)
    (agentName : Option String) :
    (start requestId inferenceItemTimeout agentName : QueuedResponses ρ).request =
      (RequestFromAgent.new requestId inferenceItemTimeout).run
        [⟨.waitForAvailableAgent (.found agentName), true, .stopRequested⟩,
          ⟨.handleStreamingResponse true, true, .stopRequested⟩] := rfl

/-! ## An uninterrupted loop -/

theorem upToTerminal_append {responses rest : List ρ}
    (h : ∀ response ∈ responses, StreamableResult.isDone response = false) :
    upToTerminal (responses ++ rest) = responses ++ upToTerminal rest := by
  induction responses with
  | nil => rfl
  | cons response responses ih =>
    have hfirst := h response List.mem_cons_self
    have hrest := ih fun response hmem => h response (List.mem_cons_of_mem _ hmem)
    simp only [List.cons_append, upToTerminal, hfirst, hrest, Bool.false_eq_true, if_false]

/-- Everything was forwarded, and the loop goes on or took the terminal response. -/
structure Open (s : QueuedResponses ρ) : Prop where
  connected : s.connectionClose = false
  sends : s.request.sends = s.request.received.map fun response =>
    (s.request.asResponse response, true)
  loop : (s.request.phase = .forwarding .forwardingToClient ∧
      (∀ response ∈ s.request.received, StreamableResult.isDone response = false) ∧
      s.request.received ++ s.responseRx = s.put) ∨
    (s.request.phase = .returned ∧ s.request.received = upToTerminal s.put)

/-- The client got an error. -/
def Failed (s : QueuedResponses ρ) : Prop :=
  ∃ requestId error, .error requestId error ∈ s.request.delivered

variable {s : QueuedResponses ρ}

theorem Open.delivered (h : s.Open) :
    s.request.delivered = s.request.received.map s.request.asResponse := by
  unfold RequestFromAgent.delivered
  rw [h.sends, List.filter_eq_self.mpr (by simp), List.map_map]
  rfl

theorem Open.answerDelivered (h : s.Open) : s.AnswerDelivered := by
  unfold AnswerDelivered
  rw [h.delivered]
  rcases h.loop with ⟨hphase, hunfinished, hput⟩ | ⟨hphase, hreceived⟩
  · refine ⟨?_, fun hreturned => ?_⟩
    · rw [← hput, upToTerminal_append hunfinished, List.map_append]
      exact List.prefix_append _ _
    · rw [hphase] at hreturned
      cases hreturned
  · rw [hreceived]
    exact ⟨List.prefix_refl _, fun _ => rfl⟩

theorem Failed.not_answerDelivered (h : s.Failed) : ¬ s.AnswerDelivered := by
  obtain ⟨requestId, error, hmem⟩ := h
  rintro ⟨hinitial, -⟩
  obtain ⟨response, -, hresponse⟩ := List.mem_map.1 (hinitial.subset hmem)
  cases hresponse

theorem step_turn {mode : AgentResponseForwardingMode} (hphase : s.request.phase = .forwarding mode)
    {elapsed : Bool} {event : RequestEvent ρ} {responseRx : List ρ}
    (hevent : s.selectEvent elapsed = some (event, responseRx)) (sendSucceeds : Bool)
    (stopOutcome : AgentStopOutcome) :
    s.step (.turn elapsed sendSucceeds stopOutcome) =
      { s with
        request := s.request.step ⟨event, sendSucceeds, stopOutcome⟩
        responseRx := responseRx } := by
  simp only [QueuedResponses.step, hphase, hevent]

theorem step_idle {elapsed : Bool} (hevent : s.selectEvent elapsed = none) (sendSucceeds : Bool)
    (stopOutcome : AgentStopOutcome) : s.step (.turn elapsed sendSucceeds stopOutcome) = s := by
  simp only [QueuedResponses.step, hevent]
  split <;> simp_all

theorem Failed.step (h : s.Failed) (input : QueuedResponsesInput ρ) : (s.step input).Failed := by
  obtain ⟨requestId, error, hmem⟩ := h
  refine ⟨requestId, error, ?_⟩
  cases input with
  | forwardResponse response =>
    simp only [QueuedResponses.step]
    split <;> exact hmem
  | turn elapsed sendSucceeds stopOutcome =>
    simp only [QueuedResponses.step]
    split
    · exact (s.request.step_delivered _).subset hmem
    · exact hmem
  | _ => exact hmem

theorem Open.recv (h : s.Open) (hphase : s.request.phase = .forwarding .forwardingToClient)
    (hunfinished : ∀ response ∈ s.request.received, StreamableResult.isDone response = false)
    (hput : s.request.received ++ s.responseRx = s.put) {response : ρ} {responseRx : List ρ}
    (hrx : s.responseRx = response :: responseRx) (stopOutcome : AgentStopOutcome) :
    ({ s with
        request := s.request.step ⟨.recv (some response), true, stopOutcome⟩
        responseRx := responseRx } : QueuedResponses ρ).Open := by
  have hput' : s.put = (s.request.received ++ [response]) ++ responseRx := by
    rw [← hput, hrx, List.append_assoc]
    rfl
  cases hdone : StreamableResult.isDone response with
  | true =>
    have hstep : s.request.step ⟨.recv (some response), true, stopOutcome⟩ =
        ({ s.request with received := s.request.received ++ [response] }.sendResponseToClient
          ⟨.recv (some response), true, stopOutcome⟩ response).finish := by
      simp [RequestFromAgent.step, RequestFromAgent.forwardResponsesStream, hphase, hdone]
    refine ⟨h.connected, ?_, Or.inr ⟨by rw [hstep]; rfl, ?_⟩⟩
    · rw [hstep]
      simp [RequestFromAgent.finish, RequestFromAgent.sendResponseToClient,
        RequestFromAgent.asResponse, h.sends]
    · rw [hstep, hput', List.append_assoc, upToTerminal_append hunfinished]
      simp [RequestFromAgent.finish, RequestFromAgent.sendResponseToClient, upToTerminal, hdone]
  | false =>
    have hstep : s.request.step ⟨.recv (some response), true, stopOutcome⟩ =
        { s.request with received := s.request.received ++ [response] }.sendResponseToClient
          ⟨.recv (some response), true, stopOutcome⟩ response := by
      simp [RequestFromAgent.step, RequestFromAgent.forwardResponsesStream, hphase, hdone]
    refine ⟨h.connected, ?_,
      Or.inl ⟨by rw [hstep]; exact hphase, ?_, by rw [hstep]; exact hput'.symm⟩⟩
    · rw [hstep]
      simp [RequestFromAgent.sendResponseToClient, RequestFromAgent.asResponse, h.sends]
    · rw [hstep]
      intro taken hmem
      rcases List.mem_append.1 hmem with hmem | hmem
      · exact hunfinished taken hmem
      · rw [List.mem_singleton.1 hmem]
        exact hdone

theorem Open.step (h : s.Open) {input : QueuedResponsesInput ρ} (hlistens : input.ClientListens)
    (hclear : s.NotInterrupted input) : (s.step input).Open := by
  cases input with
  | forwardResponse response =>
    simp only [QueuedResponses.step]
    split
    · exact h
    · rename_i hgoing
      rcases h.loop with ⟨hphase, hunfinished, hput⟩ | ⟨hphase, -⟩
      · refine ⟨h.connected, h.sends, Or.inl ⟨hphase, hunfinished, ?_⟩⟩
        show s.request.received ++ (s.responseRx ++ [response]) = s.put ++ [response]
        rw [← hput, List.append_assoc]
      · exact absurd hphase hgoing
  | closeAgentConnection => exact ⟨h.connected, h.sends, h.loop⟩
  | closeConnection => exact hlistens.elim
  | startShutdown => exact ⟨h.connected, h.sends, h.loop⟩
  | turn elapsed sendSucceeds stopOutcome =>
    subst hlistens
    rcases h.loop with ⟨hphase, hunfinished, hput⟩ | ⟨hphase, -⟩
    · obtain ⟨hshutdown, hclose, rfl⟩ := hclear (by rw [hphase]; exact fun h => by cases h)
      have hselect : s.selectEvent false = match s.responseRx with
          | response :: responseRx => some (.recv (some response), responseRx)
          | [] => none := by
        unfold selectEvent
        rw [hshutdown, hclose, h.connected]
        rfl
      cases hrx : s.responseRx with
      | nil =>
        rw [hrx] at hselect
        rw [step_idle hselect]
        exact h
      | cons response responseRx =>
        rw [hrx] at hselect
        rw [step_turn hphase hselect]
        exact h.recv hphase hunfinished hput hrx stopOutcome
    · simp only [QueuedResponses.step, hphase]
      exact h

omit [StreamableResult ρ] in
theorem mem_delivered_error (request : RequestFromAgent ρ) (error : JsonRpcError) :
    OutgoingMessage.error request.requestId error ∈
      { request with sends :=
          request.sends ++ [(OutgoingMessage.error request.requestId error, true)] }.delivered := by
  rw [RequestFromAgent.delivered_send]
  exact List.mem_append_right _ List.mem_cons_self

/-- **An interrupted turn answers with an error**, whatever is in the channel. -/
theorem Open.interrupted (h : s.Open) {input : QueuedResponsesInput ρ}
    (hlistens : input.ClientListens) (hinterrupted : ¬ s.NotInterrupted input) :
    (s.step input).Failed := by
  cases input with
  | turn elapsed sendSucceeds stopOutcome =>
    subst hlistens
    rcases h.loop with ⟨hphase, -, -⟩ | ⟨hphase, -⟩
    · have hstep : ∀ event : RequestEvent ρ, s.request.step ⟨event, true, stopOutcome⟩ =
          s.request.forwardResponsesStream .forwardingToClient ⟨event, true, stopOutcome⟩ := by
        intro event
        simp only [RequestFromAgent.step, hphase]
      cases hshutdown : s.shutdown with
      | true =>
        have hselect : s.selectEvent elapsed = some (.shutdown, s.responseRx) := by
          simp [selectEvent, hshutdown]
        rw [step_turn hphase hselect, hstep]
        exact ⟨_, _, mem_delivered_error s.request _⟩
      | false =>
        cases hclose : s.agentConnectionClose with
        | true =>
          have hselect : s.selectEvent elapsed = some (.agentConnectionClose, s.responseRx) := by
            simp [selectEvent, hshutdown, hclose]
          rw [step_turn hphase hselect, hstep]
          exact ⟨_, _, mem_delivered_error s.request _⟩
        | false =>
          cases elapsed with
          | true =>
            have hselect : s.selectEvent true = some (.inferenceItemTimeout, s.responseRx) := by
              simp [selectEvent, hshutdown, hclose, h.connected]
            rw [step_turn hphase hselect, hstep]
            refine ⟨s.request.requestId, s.request.inferenceTimedOut, ?_⟩
            show _ ∈ RequestFromAgent.delivered (RequestFromAgent.stopThenDrain _ _)
            unfold RequestFromAgent.delivered
            rw [RequestFromAgent.stopThenDrain_sends]
            exact mem_delivered_error s.request _
          | false => exact absurd (fun _ => ⟨hshutdown, hclose, rfl⟩) hinterrupted
    · exact absurd (fun hgoing => absurd hphase hgoing) hinterrupted
  | _ => exact absurd trivial hinterrupted

/-! ## Runs -/

theorem start_open (requestId : String) (inferenceItemTimeout : Nat) (agentName : Option String) :
    (start requestId inferenceItemTimeout agentName : QueuedResponses ρ).Open :=
  ⟨rfl, rfl, Or.inl ⟨rfl, fun _ hmem => (by cases hmem), rfl⟩⟩

theorem failed_run :
    ∀ (inputs : List (QueuedResponsesInput ρ)) {s : QueuedResponses ρ}, s.Failed →
      (inputs.foldl step s).Failed
  | [], _, h => h
  | input :: inputs, _, h => failed_run inputs (h.step input)

/-- A run is uninterrupted to its end, or the client has an error at its end. -/
theorem open_run :
    ∀ (inputs : List (QueuedResponsesInput ρ)) {s : QueuedResponses ρ}, s.Open →
      (∀ input ∈ inputs, input.ClientListens) →
      (Along step NotInterrupted inputs s ∧ (inputs.foldl step s).Open) ∨
        (¬ Along step NotInterrupted inputs s ∧ (inputs.foldl step s).Failed)
  | [], _, h, _ => Or.inl ⟨trivial, h⟩
  | input :: inputs, s, h, hlistens => by
    have hfirst := hlistens input List.mem_cons_self
    by_cases hclear : s.NotInterrupted input
    · rcases open_run inputs (h.step hfirst hclear) fun i hmem =>
        hlistens i (List.mem_cons_of_mem _ hmem) with ⟨halong, hopen⟩ | ⟨halong, hfailed⟩
      · exact Or.inl ⟨⟨hclear, halong⟩, hopen⟩
      · exact Or.inr ⟨fun h => halong h.2, hfailed⟩
    · exact Or.inr ⟨fun h => hclear h.1, failed_run inputs (h.interrupted hfirst hclear)⟩

theorem returned_turns (stopOutcome : AgentStopOutcome) (hphase : s.request.phase = .returned) :
    ∀ length, (List.replicate length (.turn false true stopOutcome)).foldl step s = s
  | 0 => rfl
  | length + 1 => by
    have hstep : s.step (.turn false true stopOutcome) = s := by
      simp only [QueuedResponses.step, hphase]
    rw [List.replicate_succ, List.foldl_cons, hstep, returned_turns stopOutcome hphase length]

/-- A loop that can go on needs one turn for each response in the channel, up to the terminal
one. -/
theorem turns_return (stopOutcome : AgentStopOutcome) :
    ∀ {s : QueuedResponses ρ}, s.Open → s.shutdown = false → s.agentConnectionClose = false →
      (∃ response ∈ s.put, StreamableResult.isDone response = true) →
      ((List.replicate s.responseRx.length (.turn false true stopOutcome)).foldl step
        s).request.phase =
          .returned ∧
        ((List.replicate s.responseRx.length (.turn false true stopOutcome)).foldl step
          s).Open := by
  intro s h hshutdown hclose hterminal
  generalize hlength : s.responseRx.length = length
  induction length generalizing s with
  | zero =>
    rcases h.loop with ⟨-, hunfinished, hput⟩ | ⟨hphase, -⟩
    · obtain ⟨response, hmem, hdone⟩ := hterminal
      rw [← hput, List.length_eq_zero_iff.1 hlength, List.append_nil] at hmem
      exact absurd hdone (by rw [hunfinished response hmem]; decide)
    · exact ⟨hphase, h⟩
  | succ length ih =>
    rcases h.loop with ⟨hphase, -, -⟩ | ⟨hphase, -⟩
    · obtain ⟨response, responseRx, hrx⟩ := List.exists_cons_of_length_eq_add_one hlength
      have hselect : s.selectEvent false = some (.recv (some response), responseRx) := by
        unfold selectEvent
        rw [hshutdown, hclose, h.connected, hrx]
        rfl
      have hlistens : QueuedResponsesInput.ClientListens (ρ := ρ) (.turn false true stopOutcome) :=
        rfl
      have hopen := h.step hlistens fun _ => ⟨hshutdown, hclose, rfl⟩
      rw [List.replicate_succ, List.foldl_cons]
      rw [step_turn hphase hselect] at hopen ⊢
      rw [hrx] at hlength
      exact ih hopen hshutdown hclose hterminal (Nat.succ.inj hlength)
    · rw [returned_turns stopOutcome hphase]
      exact ⟨hphase, h⟩

/-- **When an answer is not lost.**  In every interleaving with a client that listens: the client is
delivered what was put in the channel, up to the terminal response, if and only if no turn of the
loop begins after the shutdown or the close of the agent's connection, or with its timer run out.  A
loop that was not interrupted delivers an answer that was put to its end, and returns. -/
theorem answerDelivered_iff (requestId : String) (inferenceItemTimeout : Nat)
    (agentName : Option String) {inputs : List (QueuedResponsesInput ρ)}
    (hlistens : ∀ input ∈ inputs, input.ClientListens) :
    ((inputs.foldl step (start requestId inferenceItemTimeout agentName)).AnswerDelivered ↔
      Along step NotInterrupted inputs (start requestId inferenceItemTimeout agentName)) ∧
    (Along step NotInterrupted inputs (start requestId inferenceItemTimeout agentName) →
      ∀ (stopOutcome : AgentStopOutcome) (s : QueuedResponses ρ),
        s = inputs.foldl step (start requestId inferenceItemTimeout agentName) →
        s.shutdown = false → s.agentConnectionClose = false →
        (∃ response ∈ s.put, StreamableResult.isDone response = true) →
        ((List.replicate s.responseRx.length (.turn false true stopOutcome)).foldl step
          s).request.phase =
            .returned ∧
          ((List.replicate s.responseRx.length (.turn false true stopOutcome)).foldl step
            s).AnswerDelivered) := by
  rcases open_run inputs (start_open requestId inferenceItemTimeout agentName) hlistens with
    ⟨halong, hopen⟩ | ⟨halong, hfailed⟩
  · refine ⟨⟨fun _ => halong, fun _ => hopen.answerDelivered⟩, ?_⟩
    rintro - stopOutcome s rfl hshutdown hclose hterminal
    obtain ⟨hreturned, hopen'⟩ := turns_return stopOutcome hopen hshutdown hclose hterminal
    exact ⟨hreturned, hopen'.answerDelivered⟩
  · exact ⟨⟨fun h => absurd h hfailed.not_answerDelivered, fun h => absurd h halong⟩,
      fun h => absurd h halong⟩

/-- A token and the end of the answer are put in the channel, and the loop takes both. -/
def answerTaken : List (QueuedResponsesInput GeneratedTokenResult) :=
  [.forwardResponse (.contentToken "a"), .turn false true .stopRequested,
    .forwardResponse (.done ⟨TokenUsage.new⟩), .turn false true .stopRequested,
    .closeAgentConnection, .turn false true .stopRequested]

theorem answerDelivered_taken :
    ((answerTaken.foldl step (start "request" 1000 none)).AnswerDelivered ↔
        Along step NotInterrupted answerTaken (start "request" 1000 none)) ∧
      Along step NotInterrupted answerTaken (start "request" 1000 none) ∧
      (answerTaken.foldl step (start "request" 1000 none)).request.delivered =
        [.response none "request" (.contentToken "a"),
          .response none "request" (.done ⟨TokenUsage.new⟩)] := by
  refine ⟨(answerDelivered_iff "request" 1000 none ?_).1, by decide, by decide⟩
  intro input hmem
  simp only [answerTaken, List.mem_cons, List.not_mem_nil, or_false] at hmem
  rcases hmem with rfl | rfl | rfl | rfl | rfl | rfl <;> first | rfl | trivial

/-- The whole answer is in the channel when the agent closes its connection. -/
def answerQueued : List (QueuedResponsesInput GeneratedTokenResult) :=
  [.forwardResponse (.contentToken "a"), .forwardResponse (.done ⟨TokenUsage.new⟩),
    .closeAgentConnection, .turn false true .stopRequested]

/-- **A queued answer is lost.**  The client gets an error in place of the two responses that were
put in the channel before the connection closed. -/
theorem answer_lostToDisconnect :
    let s := answerQueued.foldl step (start "request" 1000 none)
    s.put = [.contentToken "a", .done ⟨TokenUsage.new⟩] ∧ s.request.phase = .returned ∧
      s.request.delivered = [.error "request" ⟨502, "Agent controller connection closed"⟩] := by
  decide

end QueuedResponses

end Paddler
