import Paddler.Balancer.RenumberedRequests
import Paddler.Messaging.RawParameters

/-!
# Requests that are rejected

Model of the messages of an inference connection (`handle_text_message` of
`controls_websocket_endpoint.rs` and `handle_deserialized_message` of `ws_inference_socket/mod.rs`),
on top of what they do to the requests of the cluster.  A text that `serde` cannot read is logged;
an error of the handler cancels the whole connection.

* `socketRun_eq` — a run over messages is a run of the cluster.
* `invalid_disturbs` — parameters that do not validate take the other requests of the connection
  down.
* `rejection_is_local` — **exactly when a rejected request is answered and leaves the others
  alone**: the text can be read and the parameters validate.
-/

set_option autoImplicit false

namespace Paddler

open AssocList Run VecUpdate

/-! ## Messages -/

/-- `inference_server::request`. -/
inductive InferenceJsonRpcRequest where
  | continueFromConversationHistory (params : RawContinueFromConversationHistoryParams)
  | continueFromRawPrompt (params : ContinueFromRawPromptParams)
  deriving Repr

/-- `inference_server::message`; the only notification is `StopRespondingTo`. -/
inductive InferenceJsonRpcMessage where
  | error (requestId : String) (error : JsonRpcError)
  | stopRespondingTo (requestId : String)
  | request (requestId : String) (request : InferenceJsonRpcRequest)
  deriving Repr

/-- A text that came in: a message, or something that is none; then `requestId` is the id under
which its sender expects an answer, if it was meant as a request. -/
inductive TextMessage where
  | unreadable (requestId : Option String)
  | readable (message : InferenceJsonRpcMessage)
  deriving Repr

/-- The request that a text was meant as. -/
def TextMessage.requestId : TextMessage → Option String
  | .unreadable requestId => requestId
  | .readable (.request requestId _) => some requestId
  | .readable _ => none

namespace InferenceCluster

/-- `handle_deserialized_message` of the inference socket. -/
def handleDeserializedMessage (self : InferenceCluster) (connection : Nat)
    (message : InferenceJsonRpcMessage) (mode : ClusterTokenGenerationMode) (sendSucceeds : Bool) :
    Except String InferenceCluster :=
  match message with
  | .error _ _ => .ok self
  | .stopRespondingTo requestId => .ok (self.cancel connection requestId)
  | .request requestId (.continueFromConversationHistory params) =>
    match params.validate with
    | .error err => .error err
    | .ok _ => .ok (self.handleInferenceRequest connection requestId mode sendSucceeds)
  | .request requestId (.continueFromRawPrompt _) =>
    .ok (self.handleInferenceRequest connection requestId mode sendSucceeds)

/-- `handle_text_message`: `connection_close` is cancelled if the handler fails. -/
def handleTextMessage (self : InferenceCluster) (connection : Nat) (text : TextMessage)
    (mode : ClusterTokenGenerationMode) (sendSucceeds : Bool) : InferenceCluster :=
  match text with
  | .unreadable _ => self
  | .readable message =>
    match self.handleDeserializedMessage connection message mode sendSucceeds with
    | .ok handled => handled
    | .error _ => { self with closedConnections := connection :: self.closedConnections }

end InferenceCluster

/-- What can happen next: a text comes, or whatever else can happen to a connection or a request. -/
inductive SocketInput where
  | text (connection : Nat) (text : TextMessage) (mode : ClusterTokenGenerationMode) (sendSucceeds : Bool)
  | connectionClose (connection : Nat)
  | act (k : Nat) (action : RequestAction)
  deriving Repr

/-- The input, for the state with one more request. -/
def SocketInput.renumbered (n : Nat) : SocketInput → SocketInput
  | .act k action => .act (afterInsert n k) action
  | input => input

namespace InferenceCluster

/-- One input. -/
def socketStep (self : InferenceCluster) : SocketInput → InferenceCluster
  | .text connection text mode sendSucceeds =>
    self.handleTextMessage connection text mode sendSucceeds
  | .connectionClose connection => self.step (.connectionClose connection)
  | .act k action => self.step (.act k action)

/-- Several inputs. -/
def socketRun (self : InferenceCluster) (inputs : List SocketInput) : InferenceCluster :=
  inputs.foldl socketStep self

end InferenceCluster

/-! ## Messages are steps of the cluster -/

/-- What a text makes of the cluster. -/
def TextMessage.clusterInputs (connection : Nat) (mode : ClusterTokenGenerationMode)
    (sendSucceeds : Bool) :
    TextMessage → List ClusterInput
  | .unreadable _ => []
  | .readable (.error _ _) => []
  | .readable (.stopRespondingTo requestId) => [.stopRespondingTo connection requestId]
  | .readable (.request requestId (.continueFromConversationHistory params)) =>
    match params.validate with
    | .error _ => [.connectionClose connection]
    | .ok _ => [.request connection requestId mode sendSucceeds]
  | .readable (.request requestId (.continueFromRawPrompt _)) =>
    [.request connection requestId mode sendSucceeds]

/-- What an input makes of the cluster. -/
def SocketInput.clusterInputs : SocketInput → List ClusterInput
  | .text connection message mode sendSucceeds => message.clusterInputs connection mode sendSucceeds
  | .connectionClose connection => [.connectionClose connection]
  | .act k action => [.act k action]

theorem SocketInput.clusterInputs_renumbered (n : Nat) (input : SocketInput) :
    (input.renumbered n).clusterInputs = input.clusterInputs.map (·.renumbered n) := by
  cases input with
  | text connection text mode sendSucceeds =>
    show text.clusterInputs connection mode sendSucceeds = _
    unfold SocketInput.clusterInputs TextMessage.clusterInputs
    dsimp only
    split
    · rfl
    · rfl
    · rfl
    · split <;> rfl
    · rfl
  | connectionClose connection => rfl
  | act k action => rfl

namespace InferenceCluster

variable {s s' : InferenceCluster}

theorem socketStep_eq (s : InferenceCluster) (input : SocketInput) :
    s.socketStep input = input.clusterInputs.foldl step s := by
  cases input with
  | text connection text mode sendSucceeds =>
    show s.handleTextMessage connection text mode sendSucceeds =
      (text.clusterInputs _ _ _).foldl step s
    unfold handleTextMessage TextMessage.clusterInputs
    cases text with
    | unreadable requestId => rfl
    | readable message =>
      unfold handleDeserializedMessage
      cases message with
      | error requestId error => rfl
      | stopRespondingTo requestId => rfl
      | request requestId request =>
        cases request with
        | continueFromRawPrompt params => rfl
        | continueFromConversationHistory params =>
          dsimp only
          cases params.validate with
          | error err => rfl
          | ok validated => rfl
  | connectionClose connection => rfl
  | act k action => rfl

/-- **A run over messages** is a run of the cluster. -/
theorem socketRun_eq (s : InferenceCluster) (inputs : List SocketInput) :
    s.socketRun inputs = (inputs.flatMap (·.clusterInputs)).foldl step s := by
  induction inputs generalizing s with
  | nil => rfl
  | cons input inputs ih =>
    rw [List.flatMap_cons, List.foldl_append, ← socketStep_eq]
    exact ih (s.socketStep input)

/-- What is reached over messages is reached by the cluster. -/
theorem reaches_of_socketStep {inferenceItemTimeout : Nat}
    {guard : InferenceCluster → SocketInput → Prop}
    (h : Reaches socketStep guard (.new inferenceItemTimeout) s) :
    Reaches step (fun _ _ => True) (.new inferenceItemTimeout) s := by
  refine h.invariant (Reaches step (fun _ _ => True) (.new inferenceItemTimeout)) .start
    fun s input _ hs _ => ?_
  rw [socketStep_eq]
  exact Reaches.runs _ (fun _ _ _ => trivial) hs

/-! ## Rejections -/

/-- The message is an error for the request. -/
def IsErrorFor (requestId : String) (message : OutgoingMessage GeneratedTokenResult) : Prop :=
  (∃ error, message = .error requestId error) ∨
    ∃ text, message = .response none requestId (.tokenGenerationDisabled text)

/-- A request was started. -/
def Started (s s' : InferenceCluster) : Prop :=
  ∃ r, s'.requests = s.requests ++ [r] ∧ r.request.phase = .waitingForAgent

/-- The connection was sent an error for the request. -/
def AnsweredWithError (s s' : InferenceCluster) (connection : Nat) (requestId : String)
    (sendSucceeds : Bool) : Prop :=
  ∃ r message, s'.requests = s.requests ++ [r] ∧ r.connection = connection ∧
    r.request.sends = [(message, sendSucceeds)] ∧ IsErrorFor requestId message

/-- The requests go on in `s'` as they do in `s`, whatever happens: they are the same in every run,
or the same next to the request that was answered. -/
def Undisturbed (s s' : InferenceCluster) : Prop :=
  (∀ after, (s'.socketRun after).requests = (s.socketRun after).requests) ∨
    ∃ answered, ∀ after, (s'.socketRun (after.map (·.renumbered s.requests.length))).requests =
      ((s.socketRun after).requests.map (·.renumbered s.requests.length)).insertIdx
        s.requests.length answered

/-- If the text is a request that is not started, it is answered with an error and nothing else
changes. -/
def RejectionIsLocal (s : InferenceCluster) (connection : Nat) (text : TextMessage)
    (mode : ClusterTokenGenerationMode) (sendSucceeds : Bool) : Prop :=
  ∀ requestId, text.requestId = some requestId →
    ¬ Started s (s.handleTextMessage connection text mode sendSucceeds) →
    AnsweredWithError s (s.handleTextMessage connection text mode sendSucceeds) connection requestId
        sendSucceeds ∧
      Undisturbed s (s.handleTextMessage connection text mode sendSucceeds)

/-- The text is not a request, or a request that can be read and whose parameters validate. -/
def Handled : TextMessage → Prop
  | .unreadable requestId => requestId = none
  | .readable (.request _ (.continueFromConversationHistory params)) =>
    ∀ tool ∈ params.tools, tool.RequiredDefined
  | .readable _ => True

theorem undisturbed_push {inferenceItemTimeout : Nat}
    (hs : Reaches socketStep (fun _ _ => True) (.new inferenceItemTimeout) s)
    (x : InferenceRequest) :
    Undisturbed s { s with requests := s.requests ++ [x] } := by
  refine Or.inr ⟨x, fun after => ?_⟩
  have hinputs : (after.map (·.renumbered s.requests.length)).flatMap (·.clusterInputs) =
      (after.flatMap (·.clusterInputs)).map (·.renumbered s.requests.length) := by
    rw [List.flatMap_map, List.map_flatMap]
    exact List.flatMap_congr fun input _ => input.clusterInputs_renumbered _
  rw [socketRun_eq, socketRun_eq, hinputs, run_answered (reaches_of_socketStep hs)]
  rfl

theorem handleInferenceRequest_local {inferenceItemTimeout : Nat}
    (hs : Reaches socketStep (fun _ _ => True) (.new inferenceItemTimeout) s) (connection : Nat)
    (requestId : String) (mode : ClusterTokenGenerationMode) (sendSucceeds : Bool)
    (hrejected : ¬ Started s (s.handleInferenceRequest connection requestId mode sendSucceeds)) :
    AnsweredWithError s (s.handleInferenceRequest connection requestId mode sendSucceeds)
      connection requestId
        sendSucceeds ∧
      Undisturbed s (s.handleInferenceRequest connection requestId mode sendSucceeds) := by
  unfold handleInferenceRequest at hrejected ⊢
  cases mode with
  | disabledForEmbeddings =>
    exact ⟨⟨_, _, rfl, rfl, rfl, Or.inr ⟨_, rfl⟩⟩, undisturbed_push hs _⟩
  | enabled =>
    dsimp only at hrejected ⊢
    split at hrejected
    · exact ⟨⟨_, _, rfl, rfl, rfl, Or.inl ⟨_, rfl⟩⟩, undisturbed_push hs _⟩
    · exact absurd ⟨_, rfl, rfl⟩ hrejected

theorem not_answered_of_requests_eq (h : s'.requests = s.requests) (connection : Nat)
    (requestId : String) (sendSucceeds : Bool) :
    ¬ Started s s' ∧ ¬ AnsweredWithError s s' connection requestId sendSucceeds := by
  have hlonger : ∀ r, s'.requests ≠ s.requests ++ [r] := by
    intro r hr
    rw [h] at hr
    have hlength := congrArg List.length hr
    simp at hlength
  constructor
  · rintro ⟨r, hr, -⟩
    exact hlonger r hr
  · rintro ⟨r, message, hr, -⟩
    exact hlonger r hr

/-- A request whose parameters do not validate closes the connection. -/
theorem handleTextMessage_invalid (s : InferenceCluster) (connection : Nat) (requestId : String)
    {params : RawContinueFromConversationHistoryParams} {err : String}
    (h : params.validate = .error err) (mode : ClusterTokenGenerationMode) (sendSucceeds : Bool) :
    s.handleTextMessage connection
        (.readable (.request requestId (.continueFromConversationHistory params))) mode
          sendSucceeds =
      { s with closedConnections := connection :: s.closedConnections } := by
  unfold handleTextMessage handleDeserializedMessage
  simp only [h]

theorem not_answered_of_invalid (s : InferenceCluster) (connection : Nat) (requestId : String)
    {params : RawContinueFromConversationHistoryParams} {err : String}
    (h : params.validate = .error err) (mode : ClusterTokenGenerationMode) (sendSucceeds : Bool) :
    ¬ Started s (s.handleTextMessage connection
        (.readable (.request requestId (.continueFromConversationHistory params))) mode
          sendSucceeds) ∧
      ¬ AnsweredWithError s (s.handleTextMessage connection
        (.readable (.request requestId (.continueFromConversationHistory params))) mode
          sendSucceeds)
        connection requestId sendSucceeds := by
  rw [handleTextMessage_invalid s connection requestId h]
  exact not_answered_of_requests_eq rfl connection requestId sendSucceeds

/-- **Parameters that do not validate disturb the neighbours.**  A request of the connection that
waits for an agent, or that an agent answers, can be cancelled afterwards, and could not be
before. -/
theorem invalid_disturbs {connection k : Nat} {requestId err : String} {r : InferenceRequest}
    {params : RawContinueFromConversationHistoryParams} (h : params.validate = .error err)
    (mode : ClusterTokenGenerationMode) (sendSucceeds : Bool)
    (hclosed : s.closedConnections.contains connection = false) (hr : s.requests[k]? = some r)
    (hconnection : r.connection = connection) (hcancelled : r.cancelled = false)
    (hphase : r.request.phase = .waitingForAgent ∨
      r.request.phase = .forwarding .forwardingToClient) :
    ¬ Undisturbed s (s.handleTextMessage connection
      (.readable (.request requestId (.continueFromConversationHistory params))) mode
        sendSucceeds) := by
  rw [handleTextMessage_invalid s connection requestId h]
  rintro (hsame | ⟨answered, hpushed⟩)
  · -- the next turn of the request sees that the connection is closed
    have hrun := hsame [.act k (.select ⟨.connectionClose, true, .agentUnreachable⟩)]
    have hopen : r.request.phase ≠ .returned := by
      rcases hphase with hphase | hphase <;> rw [hphase] <;> exact fun hreturned => by cases hreturned
    have hstays :
        s.socketRun [.act k (.select ⟨.connectionClose, true, .agentUnreachable⟩)] = s := by
      show s.step (.act k (.select ⟨.connectionClose, true, .agentUnreachable⟩)) = s
      have hnot : connection ∉ s.closedConnections := by simpa using hclosed
      simp [step, hr, act, hopen, select, hcancelled, hconnection, hnot]
    have hreturned : (r.advanced ⟨.connectionClose, true, .agentUnreachable⟩).request.phase =
        .returned := by
      show (r.request.step _).phase = .returned
      unfold RequestFromAgent.step
      rcases hphase with hphase | hphase <;> rw [hphase] <;> rfl
    have hleaves : (({ s with closedConnections := connection :: s.closedConnections } :
        InferenceCluster).socketRun
        [.act k (.select ⟨.connectionClose, true, .agentUnreachable⟩)]).requests =
          s.requests.set k (r.advanced ⟨.connectionClose, true, .agentUnreachable⟩) := by
      show (step _ (.act k (.select ⟨.connectionClose, true, .agentUnreachable⟩))).requests = _
      simp [step, hr, act, hopen, select, hconnection, advance, hreturned]
    rw [hstays, hleaves] at hrun
    have hget : (s.requests.set k (r.advanced ⟨.connectionClose, true, .agentUnreachable⟩))[k]? =
        s.requests[k]? := by rw [hrun]
    rw [List.getElem?_set_self (List.getElem?_eq_some_iff.mp hr).1, hr] at hget
    rw [Option.some.inj hget] at hreturned
    exact hopen hreturned
  · have hlength := congrArg List.length (hpushed [])
    have hinserted : ((s.requests.map (·.renumbered s.requests.length)).insertIdx s.requests.length
        answered).length = s.requests.length + 1 := by
      rw [List.length_insertIdx_of_le_length (by simp), List.length_map]
    have hnone : s.requests.length = s.requests.length + 1 := hlength.trans hinserted
    omega

/-- A conversation is rejected locally exactly if its parameters validate. -/
theorem conversation_isLocal {inferenceItemTimeout : Nat}
    (hs : Reaches socketStep (fun _ _ => True) (.new inferenceItemTimeout) s) (connection : Nat)
    (requestId : String) (params : RawContinueFromConversationHistoryParams)
    (mode : ClusterTokenGenerationMode) (sendSucceeds : Bool) :
    RejectionIsLocal s connection
      (.readable (.request requestId (.continueFromConversationHistory params))) mode
      sendSucceeds ↔ ∃ validated, params.validate = .ok validated := by
  cases hvalidate : params.validate with
  | ok validated =>
    refine ⟨fun _ => ⟨validated, rfl⟩, fun _ id hid hrejected => ?_⟩
    cases hid
    have hhandled : s.handleTextMessage connection
        (.readable (.request requestId (.continueFromConversationHistory params))) mode
          sendSucceeds =
        s.handleInferenceRequest connection requestId mode sendSucceeds := by
      unfold handleTextMessage handleDeserializedMessage
      simp only [hvalidate]
    rw [hhandled] at hrejected ⊢
    exact handleInferenceRequest_local hs connection requestId mode sendSucceeds hrejected
  | error err =>
    refine ⟨fun hlocal => ?_, fun ⟨_, hok⟩ => by (cases hok)⟩
    obtain ⟨hstarted, hanswered⟩ :=
      not_answered_of_invalid s connection requestId hvalidate mode sendSucceeds
    exact absurd (hlocal requestId rfl hstarted).1 hanswered

/-- **When a rejected request is answered and leaves the others alone.**  In every state that is
reached, a text that comes in on a connection is rejected locally exactly if it is no request, or
one that can be read and whose tools define what they require. -/
theorem rejection_is_local {inferenceItemTimeout : Nat}
    (hs : Reaches socketStep (fun _ _ => True) (.new inferenceItemTimeout) s) (connection : Nat)
    (text : TextMessage) (mode : ClusterTokenGenerationMode) (sendSucceeds : Bool) :
    RejectionIsLocal s connection text mode sendSucceeds ↔ Handled text := by
  cases text with
  | unreadable requestId =>
    constructor
    · intro hlocal
      cases requestId with
      | none => rfl
      | some requestId =>
        obtain ⟨hstarted, hanswered⟩ :=
          not_answered_of_requests_eq (s := s) rfl connection requestId
          sendSucceeds
        exact absurd (hlocal requestId rfl hstarted).1 hanswered
    · intro hnone requestId hid
      cases hnone.symm.trans hid
  | readable message =>
    cases message with
    | error requestId error => exact ⟨fun _ => trivial, fun _ _ hid => by (cases hid)⟩
    | stopRespondingTo requestId => exact ⟨fun _ => trivial, fun _ _ hid => by (cases hid)⟩
    | request requestId request =>
      cases request with
      | continueFromRawPrompt params =>
        refine ⟨fun _ => trivial, fun _ id hid hrejected => ?_⟩
        cases hid
        exact handleInferenceRequest_local hs connection requestId mode sendSucceeds hrejected
      | continueFromConversationHistory params =>
        show _ ↔ ∀ tool ∈ params.tools, tool.RequiredDefined
        rw [← params.validate_ok_iff]
        exact conversation_isLocal hs connection requestId params mode sendSucceeds

/-! ## Two requests of one connection -/

/-- A raw prompt. -/
def prompt (requestId : String) : TextMessage :=
  .readable (.request requestId (.continueFromRawPrompt ⟨none, 8, "prompt"⟩))

/-- The parameters of a conversation with a tool that requires a field that it does not define. -/
def undefinedField : RawContinueFromConversationHistoryParams :=
  ⟨true, ⟨[]⟩, false, none, 8, false, [⟨"tool", .schema ⟨"object", some [], some ["field"], none⟩⟩]⟩

theorem undefinedField_validate : ∃ err, undefinedField.validate = .error err :=
  ⟨_, rfl⟩

/-- A request waits for an agent. -/
def oneWaiting : InferenceCluster :=
  (InferenceCluster.new 1000).socketRun [.text 0 (prompt "first") .enabled true]

theorem oneWaiting_reached : Reaches socketStep (fun _ _ => True) (.new 1000) oneWaiting :=
  Reaches.runs [SocketInput.text 0 (prompt "first") .enabled true] (fun _ _ _ => trivial) .start

/-- A second request under the id of the first one. -/
theorem rejection_is_local_duplicate :
    RejectionIsLocal oneWaiting 0 (prompt "first") .enabled true :=
  (rejection_is_local oneWaiting_reached 0 (prompt "first") .enabled true).mpr trivial

/-- A second request whose parameters do not validate. -/
theorem not_rejection_is_local :
    ¬ ∀ (inferenceItemTimeout : Nat) (s : InferenceCluster) (connection : Nat) (text : TextMessage)
      (mode : ClusterTokenGenerationMode) (sendSucceeds : Bool),
      Reaches socketStep (fun _ _ => True) (.new inferenceItemTimeout) s →
      RejectionIsLocal s connection text mode sendSucceeds := by
  intro h
  obtain ⟨err, hvalidate⟩ := undefinedField_validate
  have hlocal := h 1000 oneWaiting 0 (.readable (.request "second" (.continueFromConversationHistory
    undefinedField))) .enabled true oneWaiting_reached "second" rfl
  have hrejected := not_answered_of_invalid oneWaiting 0 "second" hvalidate .enabled true
  have hdisturbed : ¬ Undisturbed oneWaiting
      (oneWaiting.handleTextMessage 0
        (.readable (.request "second" (.continueFromConversationHistory undefinedField)))
          .enabled true) :=
    invalid_disturbs (k := 0) hvalidate .enabled true rfl rfl rfl rfl (Or.inl rfl)
  exact hdisturbed (hlocal hrejected.1).2

end InferenceCluster

end Paddler
