import Paddler.Balancer.InferenceSocket

/-!
# Response isolation between clients

Which connection gets the responses of an agent, and what a client can notice of the ids that other
connections use.  The collections of the balancer and of the agents are keyed by bare request ids,
so both depend on whether two connections use one id at the same time.

A request is *live* while anything that goes by its id exists outside of its connection: its sender,
messages to or from an agent, a generation.  `IdsKeptApart` says that no request registers its
sender while a request of another connection with the same id is live.

* `Isolated` — requests of different connections that are live have different ids, and every
  response in a channel was generated for a request of the same connection.
* `Moves`, `act_moves` — a step about a request only changes requests of its connection.
* `sameView_step` — inputs that differ in the ids of other connections look the same to a
  connection.
* `responses_isolated` — **isolation**, of the responses and of everything a client observes.
-/

set_option autoImplicit false

namespace Paddler

open AssocList Run VecUpdate

/-! ## Live requests -/

namespace InferenceRequest

/-- Something that goes by the id of the request exists at the balancer or at an agent. -/
def isLive (self : InferenceRequest) : Bool :=
  self.controller || !self.toAgent.isEmpty || self.generation.isRunning || !self.fromAgent.isEmpty

/-- Every other live request with the id of this one is of the same connection. -/
def HasOwnId (requests : List InferenceRequest) (self : InferenceRequest) : Prop :=
  ∀ other ∈ requests, other.isLive = true → other.requestId = self.requestId →
    other.connection = self.connection

/-- What the request received is what it took from its channel, and apart from the message that
token generation is disabled every response it sent is one of these. -/
structure Recorded (r : InferenceRequest) : Prop where
  received : r.request.received = r.taken.map (·.2)
  sends : ∀ send ∈ r.request.sends, ∀ generatedBy requestId response,
    send.1 = .response generatedBy requestId response →
    response = .tokenGenerationDisabled tokenGenerationDisabledMessage ∨
    response ∈ r.request.received

variable {r : InferenceRequest} {input : RequestInput GeneratedTokenResult}

theorem isLive_iff : r.isLive = true ↔
    r.controller = true ∨ r.toAgent ≠ [] ∨ r.generation.isRunning = true ∨ r.fromAgent ≠ [] := by
  simp [isLive, or_assoc]

theorem isLive_of_controller (h : r.controller = true) : r.isLive = true :=
  isLive_iff.mpr (Or.inl h)

theorem isLive_of_toAgent (h : r.toAgent ≠ []) : r.isLive = true :=
  isLive_iff.mpr (Or.inr (Or.inl h))

theorem isLive_of_running (h : r.generation.isRunning = true) : r.isLive = true :=
  isLive_iff.mpr (Or.inr (Or.inr (Or.inl h)))

theorem isLive_of_fromAgent (h : r.fromAgent ≠ []) : r.isLive = true :=
  isLive_iff.mpr (Or.inr (Or.inr (Or.inr h)))

theorem WellPhased.isLive_advanced (h : r.WellPhased) (hlive : (r.advanced input).isLive = true) :
    r.isLive = true := by
  rcases isLive_iff.mp hlive with hcontroller | htoAgent | hrunning | hfromAgent
  · apply isLive_of_controller
    by_cases hphase : (r.advanced input).request.phase = .returned
    · have hdropped : (r.advanced input).controller = false := if_pos hphase
      rw [hdropped] at hcontroller
      cases hcontroller
    · rw [advanced_controller_open hphase] at hcontroller
      exact hcontroller
  · rcases r.request.undispatched_or with hundispatched | hdispatched | hreturned
    · rw [advanced_toAgent (hundispatched.step input).2.1] at htoAgent
      exact isLive_of_toAgent htoAgent
    · exact isLive_of_controller (h.dispatched hdispatched)
    · have hsame : r.request.step input = r.request := advanced_returned hreturned
      rw [advanced_toAgent (by rw [hsame])] at htoAgent
      exact isLive_of_toAgent htoAgent
  · exact isLive_of_running hrunning
  · exact isLive_of_fromAgent hfromAgent

theorem Recorded.advanced (h : r.Recorded) (hevent : ∀ response, input.event ≠ .recv response) :
    (r.advanced input).Recorded := by
  have hreceived : (r.advanced input).request.received = r.request.received :=
    r.request.step_received hevent
  constructor
  · exact hreceived.trans h.received
  · intro send hsend generatedBy requestId response hresponse
    rw [hreceived]
    rcases r.request.step_sends input send hsend with hold | ⟨error, herror⟩ | ⟨taken, hrecv, -⟩
    · exact h.sends send hold generatedBy requestId response hresponse
    · rw [herror] at hresponse
      cases hresponse
    · exact absurd hrecv (hevent (some taken))

theorem Recorded.recv (h : r.Recorded) (hdispatched : r.request.Dispatched)
    {response : GeneratedTokenResult} (hevent : input.event = .recv (some response)) (origin : Nat)
    (responseRx : List (Nat × GeneratedTokenResult)) :
    (InferenceRequest.advanced
      { r with responseRx := responseRx, taken := r.taken ++ [(origin, response)] }
        input).Recorded := by
  have hreceived : (r.request.step input).received = r.request.received ++ [response] :=
    hdispatched.step_recv hevent
  constructor
  · show (r.request.step input).received = (r.taken ++ [(origin, response)]).map (·.2)
    rw [hreceived, List.map_append, h.received]
    rfl
  · intro send hsend generatedBy requestId response' hresponse'
    show _ ∨ response' ∈ (r.request.step input).received
    rw [hreceived]
    rcases r.request.step_sends input send hsend
        with hold | ⟨error, herror⟩ | ⟨taken, hrecv, -, hsent⟩
    · rcases h.sends send hold generatedBy requestId response' hresponse' with hdisabled | hmem
      · exact Or.inl hdisabled
      · exact Or.inr (List.mem_append_left _ hmem)
    · rw [herror] at hresponse'
      cases hresponse'
    · rw [hevent] at hrecv
      cases hrecv
      rw [hsent] at hresponse'
      cases hresponse'
      exact Or.inr (List.mem_append_right _ (List.mem_singleton_self _))

theorem Recorded.congr {r' : InferenceRequest} (h : r.Recorded) (hrequest : r'.request = r.request)
    (htaken : r'.taken = r.taken) : r'.Recorded := by
  constructor
  · rw [hrequest, htaken]
    exact h.received
  · rw [hrequest]
    exact h.sends

end InferenceRequest

/-! ## Isolated requests -/

/-- The request is one of the connection. -/
def OfConnection (requests : List InferenceRequest) (c k : Nat) : Prop :=
  ∃ r, requests[k]? = some r ∧ r.connection = c

/-- Live requests of different connections have different ids, and the responses in the channel of a
request or taken from it were generated for requests of its connection. -/
structure Isolated (requests : List InferenceRequest) : Prop where
  apart : ∀ (i : Nat) (r : InferenceRequest), requests[i]? = some r → r.isLive = true →
    r.HasOwnId requests
  responseRx : ∀ (i : Nat) (r : InferenceRequest), requests[i]? = some r →
    ∀ response ∈ r.responseRx, OfConnection requests r.connection response.1
  taken : ∀ (i : Nat) (r : InferenceRequest), requests[i]? = some r →
    ∀ response ∈ r.taken, OfConnection requests r.connection response.1
  received : ∀ (i : Nat) (r : InferenceRequest), requests[i]? = some r → r.Recorded

/-- How a request may change: it keeps its connection and its id; if it gets live no other
connection has a live request with its id; and what it gets in its channel is for its connection. -/
structure Becomes (requests : List InferenceRequest) (r r' : InferenceRequest) : Prop where
  connection : r'.connection = r.connection
  requestId : r'.requestId = r.requestId
  live : r'.isLive = true → r.isLive = true ∨ r.HasOwnId requests
  responseRx : ∀ response ∈ r'.responseRx,
    response ∈ r.responseRx ∨ OfConnection requests r.connection response.1
  taken : ∀ response ∈ r'.taken, response ∈ r.taken ∨ response ∈ r.responseRx
  received : r.Recorded → r'.Recorded

/-- Changes of requests of one connection. -/
inductive Moves (c : Nat) (requests : List InferenceRequest) : List InferenceRequest → Prop where
  | stay : Moves c requests requests
  | set {requests' : List InferenceRequest} {k : Nat} {r r' : InferenceRequest} :
    Moves c requests requests' → requests'[k]? = some r → r.connection = c →
    Becomes requests' r r' →
    Moves c requests (requests'.set k r')

variable {requests requests' : List InferenceRequest} {c k : Nat} {r r' : InferenceRequest}

theorem Moves.one (hr : requests[k]? = some r) (h : Becomes requests r r') :
    Moves r.connection requests (requests.set k r') := .set .stay hr rfl h

theorem OfConnection.set (h : OfConnection requests c k) {j : Nat} (hr : requests[j]? = some r)
    (hconnection : r'.connection = r.connection) : OfConnection (requests.set j r') c k :=
  exists_getElem?_set hr hconnection.trans (fun _ hc => hc) h

theorem Isolated.set (h : Isolated requests) (hr : requests[k]? = some r)
    (hbecomes : Becomes requests r r') : Isolated (requests.set k r') := by
  have hown : r'.isLive = true → r.HasOwnId requests := by
    intro hlive
    rcases hbecomes.live hlive with hbefore | hfree
    · exact h.apart k r hr hbefore
    · exact hfree
  constructor
  · intro i x hx hlive other hother hotherLive hid
    rcases List.mem_or_eq_of_mem_set hother with hother' | rfl
    · rcases getElem?_set_cases hx with ⟨-, rfl⟩ | ⟨-, hx'⟩
      · rw [hbecomes.connection]
        exact hown hlive other hother' hotherLive (hid.trans hbecomes.requestId)
      · exact h.apart i x hx' hlive other hother' hotherLive hid
    · rcases getElem?_set_cases hx with ⟨-, rfl⟩ | ⟨-, hx'⟩
      · rfl
      · rw [hbecomes.connection]
        exact (hown hotherLive x (List.mem_of_getElem? hx') hlive
          (hid.symm.trans hbecomes.requestId)).symm
  · intro i x hx response hresponse
    rcases getElem?_set_cases hx with ⟨-, rfl⟩ | ⟨-, hx⟩
    · rw [hbecomes.connection]
      rcases hbecomes.responseRx response hresponse with hold | hnew
      · exact (h.responseRx k r hr response hold).set hr hbecomes.connection
      · exact hnew.set hr hbecomes.connection
    · exact (h.responseRx i x hx response hresponse).set hr hbecomes.connection
  · intro i x hx response hresponse
    rcases getElem?_set_cases hx with ⟨-, rfl⟩ | ⟨-, hx⟩
    · rw [hbecomes.connection]
      rcases hbecomes.taken response hresponse with hold | hnew
      · exact (h.taken k r hr response hold).set hr hbecomes.connection
      · exact (h.responseRx k r hr response hnew).set hr hbecomes.connection
    · exact (h.taken i x hx response hresponse).set hr hbecomes.connection
  · intro i x hx
    rcases getElem?_set_cases hx with ⟨-, rfl⟩ | ⟨-, hx⟩
    · exact hbecomes.received (h.received k r hr)
    · exact h.received i x hx

theorem Isolated.moves (h : Isolated requests) (hmoves : Moves c requests requests') :
    Isolated requests' := by
  induction hmoves with
  | stay => exact h
  | set _ hr _ hbecomes ih => exact ih.set hr hbecomes

theorem Isolated.push (h : Isolated requests) (hlive : r'.isLive = false)
    (hresponseRx : r'.responseRx = []) (htaken : r'.taken = []) (hrecorded : r'.Recorded) :
    Isolated (requests ++ [r']) := by
  have hkept : ∀ {c k : Nat}, OfConnection requests c k → OfConnection (requests ++ [r']) c k := by
    intro c k h
    exact exists_getElem?_push h
  constructor
  · intro i x hx hxLive other hother hotherLive hid
    rcases List.mem_append.mp hother with hother | hother
    · rcases getElem?_push_cases hx with hx | ⟨-, rfl⟩
      · exact h.apart i x hx hxLive other hother hotherLive hid
      · rw [hlive] at hxLive
        cases hxLive
    · rw [List.mem_singleton.mp hother, hlive] at hotherLive
      cases hotherLive
  · intro i x hx response hresponse
    rcases getElem?_push_cases hx with hx | ⟨-, rfl⟩
    · exact hkept (h.responseRx i x hx response hresponse)
    · rw [hresponseRx] at hresponse
      cases hresponse
  · intro i x hx response hresponse
    rcases getElem?_push_cases hx with hx | ⟨-, rfl⟩
    · exact hkept (h.taken i x hx response hresponse)
    · rw [htaken] at hresponse
      cases hresponse
  · intro i x hx
    rcases getElem?_push_cases hx with hx | ⟨-, rfl⟩
    · exact h.received i x hx
    · exact hrecorded

/-! ## What one step changes -/

/-- No request registers its sender while a request of another connection with the same id is
live. -/
def IdsKeptApart (s : InferenceCluster) : ClusterInput → Prop
  | .act k (.registerSender _) => ∀ r ∈ s.requests[k]?,
    r.request.phase = .dispatching → r.controller = false → r.HasOwnId s.requests
  | _ => True

variable {s : InferenceCluster} {input : RequestInput GeneratedTokenResult}

theorem advance_requests (s : InferenceCluster) (k : Nat) (r : InferenceRequest)
    (input : RequestInput GeneratedTokenResult) :
    (s.advance k r input).requests = s.requests.set k (r.advanced input) := by
  unfold InferenceCluster.advance
  simp only
  split
  · rfl
  · rfl

theorem mem_responseRx_advanced {response : Nat × GeneratedTokenResult}
    (h : response ∈ (r.advanced input).responseRx) : response ∈ r.responseRx := by
  have h : response ∈ if (r.request.step input).phase = .returned then [] else r.responseRx := h
  split at h
  · cases h
  · exact h

theorem becomes_advanced (hwell : r.WellPhased)
    (hevent : ∀ response, input.event ≠ .recv response) :
    Becomes requests r (r.advanced input) :=
  ⟨rfl, InferenceRequest.advanced_requestId, fun hlive => Or.inl (hwell.isLive_advanced hlive),
    fun _ hresponse => Or.inl (mem_responseRx_advanced hresponse), fun _ hresponse =>
      Or.inl hresponse,
    fun hrecorded => hrecorded.advanced hevent⟩

/-- A change of a live request that brings nothing into its channel. -/
theorem becomes_of_live (hlive : r.isLive = true) (hconnection : r'.connection = r.connection)
    (hrequest : r'.request = r.request) (hresponseRx : r'.responseRx = r.responseRx)
    (htaken : r'.taken = r.taken) : Becomes requests r r' :=
  ⟨hconnection, congrArg RequestFromAgent.requestId hrequest, fun _ => Or.inl hlive,
    fun _ hresponse => Or.inl (hresponseRx ▸ hresponse), fun _ hresponse =>
      Or.inl (htaken ▸ hresponse),
    fun hrecorded => hrecorded.congr hrequest htaken⟩

theorem select_moves (hwell : r.WellPhased) (hr : s.requests[k]? = some r)
    (input : RequestInput GeneratedTokenResult) :
    Moves r.connection s.requests (s.select k r input).requests := by
  have hadvance : (∀ response, input.event ≠ .recv response) →
      Moves r.connection s.requests (s.advance k r input).requests := by
    intro hevent
    rw [advance_requests]
    exact Moves.one hr (becomes_advanced hwell hevent)
  unfold InferenceCluster.select
  split
  · exact .stay
  · exact .stay
  · rename_i hevent
    split
    · exact hadvance (by rw [hevent]; exact fun _ hrecv => by cases hrecv)
    · exact .stay
  · rename_i hevent _
    exact hadvance hevent

theorem registerSender_moves (hwell : r.WellPhased) (hr : s.requests[k]? = some r)
    (hfree : r.HasOwnId s.requests) (sendSucceeds : Bool) :
    Moves r.connection s.requests (s.registerSender k r sendSucceeds).requests := by
  unfold InferenceCluster.registerSender
  split
  · rw [advance_requests]
    exact Moves.one hr (becomes_advanced hwell fun _ hrecv => by cases hrecv)
  · exact Moves.one hr ⟨rfl, rfl, fun _ => Or.inr hfree, fun _ hresponse => Or.inl hresponse,
      fun _ hresponse => Or.inl hresponse, fun hrecorded => hrecorded.congr rfl rfl⟩

theorem sendRpcMessage_moves (hwell : r.WellPhased) (hr : s.requests[k]? = some r)
    (hcontroller : r.controller = true) (agent : Nat) (sent sendSucceeds : Bool) :
    Moves r.connection s.requests (s.sendRpcMessage k r agent sent sendSucceeds).requests := by
  have hlive := InferenceRequest.isLive_of_controller hcontroller
  unfold InferenceCluster.sendRpcMessage
  split
  · rw [advance_requests]
    refine Moves.one hr ⟨rfl, InferenceRequest.advanced_requestId, fun _ => Or.inl hlive,
      fun _ hresponse => Or.inl (mem_responseRx_advanced hresponse), fun _ hresponse =>
        Or.inl hresponse, ?_⟩
    exact fun hrecorded => InferenceRequest.Recorded.advanced (hrecorded.congr rfl rfl)
      fun _ hrecv => by
      cases hrecv
  · rw [advance_requests]
    exact Moves.one hr (becomes_advanced hwell fun _ hrecv => by cases hrecv)

theorem recv_moves (hwell : r.WellPhased) (hr : s.requests[k]? = some r) (sendSucceeds : Bool)
    (stopOutcome : AgentStopOutcome) :
    Moves r.connection s.requests (s.recv k r sendSucceeds stopOutcome).requests := by
  unfold InferenceCluster.recv
  split
  · rename_i mode origin response responseRx hphase hresponseRx
    have hlive := InferenceRequest.isLive_of_controller (hwell.dispatched ⟨mode, hphase⟩)
    rw [advance_requests]
    refine Moves.one hr ⟨rfl, InferenceRequest.advanced_requestId,
      fun _ => Or.inl hlive, ?_, ?_, ?_⟩
    · intro x hx
      have hx : x ∈ responseRx := mem_responseRx_advanced hx
      rw [hresponseRx]
      exact Or.inl (List.mem_cons_of_mem _ hx)
    · intro x hx
      have hx : x ∈ r.taken ++ [(origin, response)] := hx
      rcases List.mem_append.mp hx with hx | hx
      · exact Or.inl hx
      · rw [List.mem_singleton.mp hx, hresponseRx]
        exact Or.inr List.mem_cons_self
    · exact fun hrecorded => hrecorded.recv ⟨mode, hphase⟩ rfl origin responseRx
  · exact .stay

/-- A request that a live one meets in a collection is of its connection. -/
theorem Isolated.meets (h : Isolated requests) (hr : requests[k]? = some r)
    (hlive : r.isLive = true) {j : Nat} {other : InferenceRequest}
    (hother : requests[j]? = some other) (hotherLive : other.isLive = true)
    (hid : other.requestId = r.requestId) :
    other.connection = r.connection :=
  h.apart k r hr hlive other (List.mem_of_getElem? hother) hotherLive hid

/-- What holds of a request still holds after another one changed, or the same one in a way that
keeps it. -/
theorem of_getElem?_set {P : InferenceRequest → Prop} {j : Nat} {y : InferenceRequest}
    (hr : requests[k]? = some r) (hy : (requests.set k r')[j]? = some y)
    (h : ∃ x, requests[j]? = some x ∧ P x) (hkept : P r → P r') : P y := by
  obtain ⟨x, hx, hP⟩ := exists_getElem?_set hr hkept (fun _ h => h) h
  cases hy.symm.trans hx
  exact hP

/-- The request whose stopper is registered under the id of a live request is of its connection. -/
theorem stopper_connection (hinv : ClusterInv s) (h : Isolated s.requests)
    (hr : s.requests[k]? = some r) (hlive : r.isLive = true) {j : Nat}
    (hstopper : s.stoppers.lookup (r.agent, r.requestId) = some j) :
    ∃ x, s.requests[j]? = some x ∧ x.generation.isRunning = true ∧ x.connection = r.connection := by
  obtain ⟨x, hx, hkey⟩ := heldBy_eq_some ((hinv.stoppers _ j).mp hstopper)
  obtain ⟨hrunning, hsame⟩ := ClusterInv.stopperKey_eq_some hkey
  rw [Prod.mk.injEq] at hsame
  exact ⟨x, hx, hrunning,
    h.meets hr hlive hx (InferenceRequest.isLive_of_running hrunning) hsame.2.symm⟩

/-- The request whose sender is registered under the id of a live request is of its connection. -/
theorem sender_connection (hinv : ClusterInv s) (h : Isolated s.requests)
    (hr : s.requests[k]? = some r) (hlive : r.isLive = true) {j : Nat}
    (hsender : s.senders.lookup r.requestId = some j) :
    ∃ x, s.requests[j]? = some x ∧ x.controller = true ∧ x.connection = r.connection := by
  obtain ⟨x, hx, hkey⟩ := heldBy_eq_some ((hinv.senders _ j).mp hsender)
  obtain ⟨hcontroller, hid⟩ := InferenceRequest.senderKey_eq_some hkey
  exact ⟨x, hx, hcontroller,
    h.meets hr hlive hx (InferenceRequest.isLive_of_controller hcontroller) hid⟩

theorem agentReceives_moves (hinv : ClusterInv s) (h : Isolated s.requests)
    (hr : s.requests[k]? = some r) :
    Moves r.connection s.requests (s.agentReceives k r).requests := by
  have hlive : ∀ message toAgent, r.toAgent = message :: toAgent → r.isLive = true := by
    intro message toAgent htoAgent
    exact InferenceRequest.isLive_of_toAgent (by rw [htoAgent]; exact List.cons_ne_nil _ _)
  have hpopped : ∀ message toAgent, r.toAgent = message :: toAgent →
      Moves r.connection s.requests (s.requests.set k { r with toAgent := toAgent }) :=
    fun message toAgent htoAgent =>
      Moves.one hr (becomes_of_live (hlive message toAgent htoAgent) rfl rfl rfl rfl)
  unfold InferenceCluster.agentReceives
  split
  · exact .stay
  · rename_i toAgent htoAgent
    split
    · exact hpopped _ toAgent htoAgent
    · exact Moves.one hr (becomes_of_live (hlive _ toAgent htoAgent) rfl rfl rfl rfl)
  · rename_i toAgent htoAgent
    simp only
    split
    · exact hpopped _ toAgent htoAgent
    · rename_i j hstopper
      split
      · exact hpopped _ toAgent htoAgent
      · rename_i stopped hstopped
        obtain ⟨x, hx, hrunning, hconnection⟩ :=
          stopper_connection hinv h hr (hlive _ toAgent htoAgent) hstopper
        -- the stopped generation may be the one that the message is about
        obtain ⟨hrunning', hconnection'⟩ := of_getElem?_set hr hstopped
          (P := fun y => y.generation.isRunning = true ∧ y.connection = r.connection)
          ⟨x, hx, hrunning, hconnection⟩ fun h => h
        exact .set (hpopped _ toAgent htoAgent) hstopped hconnection'
          (becomes_of_live (InferenceRequest.isLive_of_running hrunning') rfl rfl rfl rfl)

theorem generate_moves (hr : s.requests[k]? = some r) (response : GeneratedTokenResult)
    (ifStopped : Option GeneratedTokenResult) :
    Moves r.connection s.requests (s.generate k r response ifStopped).requests := by
  unfold InferenceCluster.generate
  split
  · exact .stay
  · rename_i stopSignalled hrunning
    have hlive := InferenceRequest.isLive_of_running (r := r) (by rw [hrunning]; rfl)
    exact Moves.one hr (becomes_of_live hlive rfl rfl rfl rfl)

theorem generationEnds_moves (hr : s.requests[k]? = some r) :
    Moves r.connection s.requests (s.generationEnds k r).requests := by
  unfold InferenceCluster.generationEnds
  split
  · exact .stay
  · rename_i stopSignalled hrunning
    have hlive := InferenceRequest.isLive_of_running (r := r) (by rw [hrunning]; rfl)
    exact Moves.one hr (becomes_of_live hlive rfl rfl rfl rfl)

theorem forwardResponse_moves (hinv : ClusterInv s) (h : Isolated s.requests)
    (hr : s.requests[k]? = some r) :
    Moves r.connection s.requests (s.forwardResponse k r).requests := by
  unfold InferenceCluster.forwardResponse
  split
  · exact .stay
  · rename_i response fromAgent hfromAgent
    have hlive : r.isLive = true :=
      InferenceRequest.isLive_of_fromAgent (by rw [hfromAgent]; exact List.cons_ne_nil _ _)
    have hpopped : Moves r.connection s.requests
        (s.requests.set k { r with fromAgent := fromAgent }) :=
      Moves.one hr (becomes_of_live hlive rfl rfl rfl rfl)
    simp only
    split
    · exact hpopped
    · rename_i j hsender
      split
      · exact hpopped
      · rename_i target htarget
        obtain ⟨x, hx, hcontroller, hconnection⟩ :=
          sender_connection hinv h hr hlive (ManagesSenders.forwardResponse_ok hsender)
        have hown := of_getElem?_set hr htarget
          (P := fun y => y.controller = true ∧ y.connection = r.connection)
          ⟨x, hx, hcontroller, hconnection⟩ fun h => h
        have hsource : OfConnection (s.requests.set k { r with fromAgent := fromAgent })
            target.connection k := by
          obtain ⟨hlt, -⟩ := List.getElem?_eq_some_iff.mp hr
          exact ⟨_, List.getElem?_set_self hlt, hown.2.symm⟩
        refine .set hpopped htarget hown.2 ⟨rfl, rfl, ?_, ?_, fun _ htaken => Or.inl htaken,
          fun hrecorded => hrecorded.congr rfl rfl⟩
        · exact fun _ => Or.inl (InferenceRequest.isLive_of_controller hown.1)
        · intro x hx
          have hx : x ∈ target.responseRx ++ [(k, response)] := hx
          rcases List.mem_append.mp hx with hx | hx
          · exact Or.inl hx
          · rw [List.mem_singleton.mp hx]
            exact Or.inr hsource

theorem connectionLost_moves (hr : s.requests[k]? = some r) :
    Moves r.connection s.requests (s.connectionLost k r).requests := by
  refine Moves.one hr ⟨rfl, rfl, fun hlive => Or.inl ?_, fun _ hresponse => Or.inl hresponse,
    fun _ hresponse => Or.inl hresponse, fun hrecorded => hrecorded.congr rfl rfl⟩
  rcases InferenceRequest.isLive_iff.mp hlive with hcontroller | htoAgent | hrunning | hfromAgent
  · exact InferenceRequest.isLive_of_controller hcontroller
  · exact absurd rfl htoAgent
  · exact InferenceRequest.isLive_of_running hrunning
  · exact absurd rfl hfromAgent

/-- **A step about a request only changes requests of its connection.** -/
theorem act_moves (hinv : ClusterInv s) (h : Isolated s.requests) (hr : s.requests[k]? = some r)
    {action : RequestAction} (hguard : IdsKeptApart s (.act k action)) :
    Moves r.connection s.requests (s.act k r action).requests := by
  have hwell := hinv.wellPhased k r hr
  unfold InferenceCluster.act
  cases action with
  | select input =>
    simp only
    split
    · exact .stay
    · exact select_moves hwell hr input
  | registerSender sendSucceeds =>
    simp only
    split
    · rename_i hready
      exact registerSender_moves hwell hr (hguard r hr hready.1 hready.2) sendSucceeds
    · exact .stay
  | sendRpcMessage agent sent sendSucceeds =>
    simp only
    split
    · rename_i hready
      exact sendRpcMessage_moves hwell hr hready.2 agent sent sendSucceeds
    · exact .stay
  | recv sendSucceeds stopOutcome => exact recv_moves hwell hr sendSucceeds stopOutcome
  | agentReceives => exact agentReceives_moves hinv h hr
  | generate response ifStopped => exact generate_moves hr response ifStopped
  | generationEnds => exact generationEnds_moves hr
  | forwardResponse => exact forwardResponse_moves hinv h hr
  | connectionLost => exact connectionLost_moves hr

/-- The request with a cancellation token is of the connection of the token. -/
theorem token_connection (hinv : ClusterInv s) {connection j : Nat} {requestId : String}
    (htoken : s.requestCancellationTokens.lookup (connection, requestId) = some j) :
    ∃ x, s.requests[j]? = some x ∧ x.connection = connection := by
  obtain ⟨x, hx, hkey⟩ := heldBy_eq_some ((hinv.tokens _ j).mp htoken)
  exact ⟨x, hx, (congrArg Prod.fst (InferenceRequest.tokenKey_eq_some hkey)).symm⟩

theorem cancel_moves (hinv : ClusterInv s) (connection : Nat) (requestId : String) :
    Moves connection s.requests (s.cancel connection requestId).requests := by
  unfold InferenceCluster.cancel
  split
  · exact .stay
  · rename_i j htoken
    split
    · exact .stay
    · rename_i x hx
      obtain ⟨x', hx', hconnection⟩ := token_connection hinv htoken
      rw [hx] at hx'
      cases hx'
      exact .set .stay hx hconnection ⟨rfl, rfl, fun hlive => Or.inl hlive,
        fun _ hresponse => Or.inl hresponse, fun _ hresponse => Or.inl hresponse,
        fun hrecorded => hrecorded.congr rfl rfl⟩

theorem handleInferenceRequest_requests (s : InferenceCluster) (connection : Nat)
    (requestId : String) (mode : ClusterTokenGenerationMode) (sendSucceeds : Bool) :
    ∃ r, (s.handleInferenceRequest connection requestId mode sendSucceeds).requests =
      s.requests ++ [r] ∧
      r.connection = connection ∧ r.isLive = false ∧ r.responseRx = [] ∧ r.taken = [] ∧
      r.Recorded := by
  unfold InferenceCluster.handleInferenceRequest
  cases mode with
  | disabledForEmbeddings =>
    refine ⟨_, rfl, rfl, rfl, rfl, rfl, rfl, ?_⟩
    intro send hsend generatedBy requestId' response hresponse
    rw [List.mem_singleton.mp hsend] at hresponse
    cases hresponse
    exact Or.inl rfl
  | enabled =>
    simp only
    split
    · refine ⟨_, rfl, rfl, rfl, rfl, rfl, rfl, ?_⟩
      intro send hsend generatedBy requestId' response hresponse
      rw [List.mem_singleton.mp hsend] at hresponse
      cases hresponse
    · refine ⟨_, rfl, rfl, rfl, rfl, rfl, rfl, ?_⟩
      intro send hsend
      cases hsend

theorem isolated_step (hinv : ClusterInv s) (h : Isolated s.requests) {input : ClusterInput}
    (hguard : IdsKeptApart s input) : Isolated (s.step input).requests := by
  unfold InferenceCluster.step
  cases input with
  | request connection requestId mode sendSucceeds =>
    obtain ⟨r, hrequests, -, hlive, hresponseRx, htaken, hrecorded⟩ :=
      handleInferenceRequest_requests s connection requestId mode sendSucceeds
    simp only [hrequests]
    exact h.push hlive hresponseRx htaken hrecorded
  | stopRespondingTo connection requestId => exact h.moves (cancel_moves hinv connection requestId)
  | connectionClose connection => exact h
  | act k action =>
    simp only
    split
    · exact h
    · rename_i r hr
      exact h.moves (act_moves hinv h hr hguard)

theorem isolated_of_reaches {inferenceItemTimeout : Nat}
    (h : Reaches InferenceCluster.step IdsKeptApart (.new inferenceItemTimeout) s) :
    Isolated s.requests := by
  refine h.invariant (fun s => Isolated s.requests) ?_ ?_
  · constructor
    · intro i r hr
      cases hr
    · intro i r hr
      cases hr
    · intro i r hr
      cases hr
    · intro i r hr
      cases hr
  · intro s input hreached hisolated hguard
    exact isolated_step (clusterInv_of_reaches hreached) hisolated hguard

/-! ## What a connection sees -/

/-- Of a request, a connection sees whose it is, and everything if it is its own. -/
def viewOf (c : Nat) (r : InferenceRequest) : Nat × Option InferenceRequest :=
  (r.connection, if r.connection = c then some r else none)

/-- Two states look the same to a connection. -/
structure SameView (c : Nat) (s s' : InferenceCluster) : Prop where
  inferenceItemTimeout : s.inferenceItemTimeout = s'.inferenceItemTimeout
  closedConnections : s.closedConnections = s'.closedConnections
  requests : s.requests.map (viewOf c) = s'.requests.map (viewOf c)

/-- The input without the request ids of other connections. -/
def maskRequestIds (c : Nat) : ClusterInput → ClusterInput
  | .request connection requestId mode sendSucceeds =>
    .request connection (if connection = c then requestId else "") mode sendSucceeds
  | .stopRespondingTo connection requestId =>
    .stopRespondingTo connection (if connection = c then requestId else "")
  | input => input

variable {s' : InferenceCluster}

theorem SameView.symm (h : SameView c s s') : SameView c s' s :=
  ⟨h.inferenceItemTimeout.symm, h.closedConnections.symm, h.requests.symm⟩

theorem SameView.trans {s'' : InferenceCluster} (h : SameView c s s') (h' : SameView c s' s'') :
    SameView c s s'' :=
  ⟨h.inferenceItemTimeout.trans h'.inferenceItemTimeout,
    h.closedConnections.trans h'.closedConnections, h.requests.trans h'.requests⟩

theorem SameView.own (h : SameView c s s') (hr : s.requests[k]? = some r) (hc : r.connection = c) :
    s'.requests[k]? = some r := by
  have hview : (s.requests.map (viewOf c))[k]? = (s'.requests.map (viewOf c))[k]? := by
    rw [h.requests]
  rw [List.getElem?_map, List.getElem?_map, hr, Option.map_some] at hview
  obtain ⟨r', hr', hsame⟩ := Option.map_eq_some_iff.mp hview.symm
  simp only [viewOf, Prod.mk.injEq, if_pos hc] at hsame
  rw [if_pos (hsame.1.trans hc), Option.some.injEq] at hsame
  rw [hr', hsame.2]

theorem SameView.other (h : SameView c s s') (hr : s.requests[k]? = some r) :
    ∃ r', s'.requests[k]? = some r' ∧ r'.connection = r.connection := by
  have hview : (s.requests.map (viewOf c))[k]? = (s'.requests.map (viewOf c))[k]? := by
    rw [h.requests]
  rw [List.getElem?_map, List.getElem?_map, hr, Option.map_some] at hview
  obtain ⟨r', hr', hsame⟩ := Option.map_eq_some_iff.mp hview.symm
  exact ⟨r', hr', congrArg Prod.fst hsame⟩

theorem SameView.none (h : SameView c s s') (hr : s.requests[k]? = none) :
    s'.requests[k]? = none := by
  cases hr' : s'.requests[k]? with
  | none => rfl
  | some r' =>
    obtain ⟨r, hsome, -⟩ := h.symm.other hr'
    rw [hr] at hsome
    cases hsome

/-- Changes of another connection's requests do not show. -/
theorem Moves.view {d : Nat} (h : Moves d requests requests') (hne : d ≠ c) :
    requests'.map (viewOf c) = requests.map (viewOf c) := by
  induction h with
  | stay => rfl
  | @set requests' k r r' _ hr hd hbecomes ih =>
    rw [← ih, List.map_set]
    obtain ⟨hlt, hget⟩ := List.getElem?_eq_some_iff.mp hr
    have hlt' : k < (requests'.map (viewOf c)).length := by rwa [List.length_map]
    have hsame : viewOf c r' = (requests'.map (viewOf c))[k] := by
      rw [List.getElem_map, hget]
      unfold viewOf
      rw [hbecomes.connection, if_neg (by rw [hd]; exact hne), if_neg (by rw [hd]; exact hne)]
    rw [hsame, List.set_getElem_self]

/-- Requests that look the same hold the same keys, as far as only the connection holds them. -/
theorem SameView.heldBy_iff {κ : Type} {f : InferenceRequest → Option κ} {key : κ}
    (h : SameView c s s')
    (hown : ∀ (j : Nat) (x : InferenceRequest), s.requests[j]? = some x → f x = some key →
      x.connection = c)
    (hown' : ∀ (j : Nat) (x : InferenceRequest), s'.requests[j]? = some x → f x = some key →
      x.connection = c) (j : Nat) :
    heldBy f s.requests j = some key ↔ heldBy f s'.requests j = some key := by
  constructor
  · intro hheld
    obtain ⟨x, hx, hkey⟩ := heldBy_eq_some hheld
    rw [heldBy_of_getElem? (h.own hx (hown j x hx hkey))]
    exact hkey
  · intro hheld
    obtain ⟨x, hx, hkey⟩ := heldBy_eq_some hheld
    rw [heldBy_of_getElem? (h.symm.own hx (hown' j x hx hkey))]
    exact hkey

/-- Requests that look the same hold the key of a request whose id no other connection uses. -/
theorem SameView.heldBy_iff_of_hasOwnId {κ : Type} {f : InferenceRequest → Option κ} {key : κ}
    (h : SameView c s s') (hc : r.connection = c) (hfree : r.HasOwnId s.requests)
    (hfree' : r.HasOwnId s'.requests)
    (hlive : ∀ x, f x = some key → x.isLive = true ∧ x.requestId = r.requestId) (j : Nat) :
    heldBy f s.requests j = some key ↔ heldBy f s'.requests j = some key := by
  refine h.heldBy_iff ?_ ?_ j
  · intro j x hx hkey
    exact (hfree x (List.mem_of_getElem? hx) (hlive x hkey).1 (hlive x hkey).2).trans hc
  · intro j x hx hkey
    exact (hfree' x (List.mem_of_getElem? hx) (hlive x hkey).1 (hlive x hkey).2).trans hc

section Lookup

variable (hinv : ClusterInv s) (hinv' : ClusterInv s') (hview : SameView c s s')

include hinv hinv' hview

theorem tokens_lookup_eq (requestId : String) :
    s.requestCancellationTokens.lookup (c, requestId) =
      s'.requestCancellationTokens.lookup (c, requestId) := by
  have hown : ∀ (x : InferenceRequest), x.tokenKey = some (c, requestId) → x.connection = c := by
    intro x hkey
    exact (congrArg Prod.fst (InferenceRequest.tokenKey_eq_some hkey)).symm
  exact hinv.tokens.lookup_eq hinv'.tokens
    (hview.heldBy_iff (fun _ x _ => hown x) fun _ x _ => hown x)

/-- A request whose id no other connection uses finds the same sender. -/
theorem senders_lookup_eq (hc : r.connection = c) (hfree : r.HasOwnId s.requests)
    (hfree' : r.HasOwnId s'.requests) :
    s.senders.lookup r.requestId = s'.senders.lookup r.requestId := by
  refine hinv.senders.lookup_eq hinv'.senders (hview.heldBy_iff_of_hasOwnId hc hfree hfree' ?_)
  intro x hkey
  obtain ⟨hcontroller, hid⟩ := InferenceRequest.senderKey_eq_some hkey
  exact ⟨InferenceRequest.isLive_of_controller hcontroller, hid⟩

/-- A request whose id no other connection uses finds the same stopper. -/
theorem stoppers_lookup_eq (hc : r.connection = c) (hfree : r.HasOwnId s.requests)
    (hfree' : r.HasOwnId s'.requests) :
    s.stoppers.lookup (r.agent, r.requestId) = s'.stoppers.lookup (r.agent, r.requestId) := by
  refine hinv.stoppers.lookup_eq hinv'.stoppers (hview.heldBy_iff_of_hasOwnId hc hfree hfree' ?_)
  intro x hkey
  obtain ⟨hrunning, hsame⟩ := ClusterInv.stopperKey_eq_some hkey
  rw [Prod.mk.injEq] at hsame
  exact ⟨InferenceRequest.isLive_of_running hrunning, hsame.2.symm⟩

end Lookup

/-! ## A step of the connection itself -/

section Own

variable (hview : SameView c s s')

include hview

theorem set_view (k : Nat) (x : InferenceRequest) :
    (s.requests.set k x).map (viewOf c) = (s'.requests.set k x).map (viewOf c) := by
  rw [List.map_set, List.map_set, hview.requests]

theorem advance_view (k : Nat) (r : InferenceRequest) (input : RequestInput GeneratedTokenResult) :
    (s.advance k r input).requests.map (viewOf c) =
      (s'.advance k r input).requests.map (viewOf c) := by
  rw [advance_requests, advance_requests]
  exact set_view hview k _

theorem select_view (k : Nat) (r : InferenceRequest) (input : RequestInput GeneratedTokenResult) :
    (s.select k r input).requests.map (viewOf c) =
      (s'.select k r input).requests.map (viewOf c) := by
  obtain ⟨event, sendSucceeds, stopOutcome⟩ := input
  cases event with
  | connectionClose =>
    simp only [InferenceCluster.select, hview.closedConnections]
    split
    · exact advance_view hview k r _
    · exact hview.requests
  | handleStreamingResponse succeeded => exact hview.requests
  | recv response => exact hview.requests
  | shutdown => exact advance_view hview k r _
  | waitForAvailableAgent outcome => exact advance_view hview k r _
  | agentConnectionClose => exact advance_view hview k r _
  | inferenceItemTimeout => exact advance_view hview k r _

theorem registerSender_view (hlookup : s.senders.lookup r.requestId = s'.senders.lookup r.requestId)
    (k : Nat) (sendSucceeds : Bool) :
    (s.registerSender k r sendSucceeds).requests.map (viewOf c) =
      (s'.registerSender k r sendSucceeds).requests.map (viewOf c) := by
  unfold InferenceCluster.registerSender ManagesSenders.registerSender
  rw [hlookup]
  cases s'.senders.lookup r.requestId with
  | some _ => exact advance_view hview k r _
  | none => exact set_view hview k _

theorem recv_view (k : Nat) (r : InferenceRequest) (sendSucceeds : Bool)
    (stopOutcome : AgentStopOutcome) :
    (s.recv k r sendSucceeds stopOutcome).requests.map (viewOf c) =
      (s'.recv k r sendSucceeds stopOutcome).requests.map (viewOf c) := by
  unfold InferenceCluster.recv
  cases r.request.phase with
  | forwarding mode =>
    cases r.responseRx with
    | nil => exact hview.requests
    | cons response responseRx => exact advance_view hview k _ _
  | waitingForAgent => exact hview.requests
  | dispatching => exact hview.requests
  | returned => exact hview.requests

theorem set_set_view (k j : Nat) (x y : InferenceRequest) :
    ((s.requests.set k x).set j y).map (viewOf c) =
      ((s'.requests.set k x).set j y).map (viewOf c) := by
  rw [List.map_set, List.map_set (l := s'.requests.set k x), set_view hview k x]

/-- Another request of the connection, after one of them changed. -/
theorem own_set {j : Nat} {x x' : InferenceRequest} (hx : (s.requests.set k x')[j]? = some x)
    (hc : x.connection = c) : (s'.requests.set k x')[j]? = some x := by
  have hset : SameView c { s with requests := s.requests.set k x' }
      { s' with requests := s'.requests.set k x' } :=
    ⟨hview.inferenceItemTimeout, hview.closedConnections, set_view hview k x'⟩
  exact hset.own hx hc

theorem agentReceives_view (hinv : ClusterInv s) (hinv' : ClusterInv s') (h : Isolated s.requests)
    (h' : Isolated s'.requests) (hr : s.requests[k]? = some r) (hc : r.connection = c) :
    (s.agentReceives k r).requests.map (viewOf c) =
      (s'.agentReceives k r).requests.map (viewOf c) := by
  have hr' := hview.own hr hc
  unfold InferenceCluster.agentReceives
  cases htoAgent : r.toAgent with
  | nil => exact hview.requests
  | cons message toAgent =>
    have hlive : r.isLive = true :=
      InferenceRequest.isLive_of_toAgent (by rw [htoAgent]; exact List.cons_ne_nil _ _)
    have hlookup := stoppers_lookup_eq hinv hinv' hview hc (h.apart k r hr hlive)
      (h'.apart k r hr' hlive)
    cases message with
    | request =>
      simp only [hlookup]
      cases s'.stoppers.lookup (r.agent, r.requestId) with
      | some _ => exact set_view hview k _
      | none => exact set_view hview k _
    | stopRespondingTo =>
      simp only [hlookup]
      cases hstopper : s'.stoppers.lookup (r.agent, r.requestId) with
      | none => exact set_view hview k _
      | some j =>
        obtain ⟨x, hx, -, hconnection⟩ :=
          stopper_connection hinv h hr hlive (hlookup.trans hstopper)
        have hsame : { r with toAgent := toAgent }.connection = r.connection := rfl
        obtain ⟨y, hy, hyc⟩ := OfConnection.set ⟨x, hx, hconnection.trans hc⟩ hr hsame
        simp only [hy, own_set hview hy hyc]
        exact set_set_view hview k j _ _

theorem generate_view (k : Nat) (r : InferenceRequest) (response : GeneratedTokenResult)
    (ifStopped : Option GeneratedTokenResult) :
    (s.generate k r response ifStopped).requests.map (viewOf c) =
      (s'.generate k r response ifStopped).requests.map (viewOf c) := by
  unfold InferenceCluster.generate
  cases r.generation with
  | absent => exact hview.requests
  | running stopSignalled => exact set_view hview k _

theorem generationEnds_view (k : Nat) (r : InferenceRequest) :
    (s.generationEnds k r).requests.map (viewOf c) =
      (s'.generationEnds k r).requests.map (viewOf c) := by
  unfold InferenceCluster.generationEnds
  cases r.generation with
  | absent => exact hview.requests
  | running stopSignalled => exact set_view hview k _

theorem forwardResponse_view (hinv : ClusterInv s) (hinv' : ClusterInv s') (h : Isolated s.requests)
    (h' : Isolated s'.requests) (hr : s.requests[k]? = some r) (hc : r.connection = c) :
    (s.forwardResponse k r).requests.map (viewOf c) =
      (s'.forwardResponse k r).requests.map (viewOf c) := by
  have hr' := hview.own hr hc
  unfold InferenceCluster.forwardResponse
  cases hfromAgent : r.fromAgent with
  | nil => exact hview.requests
  | cons response fromAgent =>
    have hlive : r.isLive = true :=
      InferenceRequest.isLive_of_fromAgent (by rw [hfromAgent]; exact List.cons_ne_nil _ _)
    have hlookup := senders_lookup_eq hinv hinv' hview hc (h.apart k r hr hlive)
      (h'.apart k r hr' hlive)
    simp only [ManagesSenders.forwardResponse, hlookup]
    cases hsender : s'.senders.lookup r.requestId with
    | none => exact set_view hview k _
    | some j =>
      obtain ⟨x, hx, -, hconnection⟩ := sender_connection hinv h hr hlive (hlookup.trans hsender)
      have hsame : { r with fromAgent := fromAgent }.connection = r.connection := rfl
      obtain ⟨y, hy, hyc⟩ := OfConnection.set ⟨x, hx, hconnection.trans hc⟩ hr hsame
      simp only [hy, own_set hview hy hyc]
      exact set_set_view hview k j _ _

theorem sendRpcMessage_view (k : Nat) (r : InferenceRequest) (agent : Nat)
    (sent sendSucceeds : Bool) :
    (s.sendRpcMessage k r agent sent sendSucceeds).requests.map (viewOf c) =
      (s'.sendRpcMessage k r agent sent sendSucceeds).requests.map (viewOf c) := by
  unfold InferenceCluster.sendRpcMessage
  split
  · exact advance_view hview k _ _
  · exact advance_view hview k _ _

/-- A step about a request of the connection looks the same to it. -/
theorem act_view (hinv : ClusterInv s) (hinv' : ClusterInv s') (h : Isolated s.requests)
    (h' : Isolated s'.requests) (hr : s.requests[k]? = some r) (hc : r.connection = c)
    {action : RequestAction} (hguard : IdsKeptApart s (.act k action))
    (hguard' : IdsKeptApart s' (.act k action)) :
    (s.act k r action).requests.map (viewOf c) = (s'.act k r action).requests.map (viewOf c) := by
  have hr' := hview.own hr hc
  unfold InferenceCluster.act
  cases action with
  | select input =>
    simp only
    split
    · exact hview.requests
    · exact select_view hview k r input
  | registerSender sendSucceeds =>
    simp only
    split
    · rename_i hready
      have hlookup := senders_lookup_eq hinv hinv' hview hc (hguard r hr hready.1 hready.2)
        (hguard' r hr' hready.1 hready.2)
      exact registerSender_view hview hlookup k sendSucceeds
    · exact hview.requests
  | sendRpcMessage agent sent sendSucceeds =>
    simp only
    split
    · exact sendRpcMessage_view hview k r agent sent sendSucceeds
    · exact hview.requests
  | recv sendSucceeds stopOutcome => exact recv_view hview k r sendSucceeds stopOutcome
  | agentReceives => exact agentReceives_view hview hinv hinv' h h' hr hc
  | generate response ifStopped => exact generate_view hview k r response ifStopped
  | generationEnds => exact generationEnds_view hview k r
  | forwardResponse => exact forwardResponse_view hview hinv hinv' h h' hr hc
  | connectionLost => exact set_view hview k _

end Own

/-! ## Two runs -/

/-- What no step about a request changes. -/
structure SameFrame (s s' : InferenceCluster) : Prop where
  inferenceItemTimeout : s'.inferenceItemTimeout = s.inferenceItemTimeout
  closedConnections : s'.closedConnections = s.closedConnections

theorem advance_frame (s : InferenceCluster) (k : Nat) (r : InferenceRequest)
    (input : RequestInput GeneratedTokenResult) : SameFrame s (s.advance k r input) := by
  unfold InferenceCluster.advance
  simp only
  split
  · exact ⟨rfl, rfl⟩
  · exact ⟨rfl, rfl⟩

theorem select_frame (s : InferenceCluster) (k : Nat) (r : InferenceRequest)
    (input : RequestInput GeneratedTokenResult) : SameFrame s (s.select k r input) := by
  unfold InferenceCluster.select
  split
  · exact ⟨rfl, rfl⟩
  · exact ⟨rfl, rfl⟩
  · split
    · exact advance_frame s k r input
    · exact ⟨rfl, rfl⟩
  · exact advance_frame s k r input

theorem agentReceives_frame (s : InferenceCluster) (k : Nat) (r : InferenceRequest) :
    SameFrame s (s.agentReceives k r) := by
  unfold InferenceCluster.agentReceives
  split
  · exact ⟨rfl, rfl⟩
  · split
    · exact ⟨rfl, rfl⟩
    · exact ⟨rfl, rfl⟩
  · simp only
    split
    · exact ⟨rfl, rfl⟩
    · split
      · exact ⟨rfl, rfl⟩
      · exact ⟨rfl, rfl⟩

theorem forwardResponse_frame (s : InferenceCluster) (k : Nat) (r : InferenceRequest) :
    SameFrame s (s.forwardResponse k r) := by
  unfold InferenceCluster.forwardResponse
  split
  · exact ⟨rfl, rfl⟩
  · simp only
    split
    · exact ⟨rfl, rfl⟩
    · split
      · exact ⟨rfl, rfl⟩
      · exact ⟨rfl, rfl⟩

theorem act_frame (s : InferenceCluster) (k : Nat) (r : InferenceRequest) (action : RequestAction) :
    SameFrame s (s.act k r action) := by
  unfold InferenceCluster.act
  cases action with
  | select input =>
    simp only
    split
    · exact ⟨rfl, rfl⟩
    · exact select_frame s k r input
  | registerSender sendSucceeds =>
    simp only
    split
    · unfold InferenceCluster.registerSender
      split
      · exact advance_frame s k r _
      · exact ⟨rfl, rfl⟩
    · exact ⟨rfl, rfl⟩
  | sendRpcMessage agent sent sendSucceeds =>
    simp only
    split
    · unfold InferenceCluster.sendRpcMessage
      split
      · exact advance_frame s k _ _
      · exact advance_frame s k _ _
    · exact ⟨rfl, rfl⟩
  | recv sendSucceeds stopOutcome =>
    simp only
    unfold InferenceCluster.recv
    split
    · exact advance_frame s k _ _
    · exact ⟨rfl, rfl⟩
  | agentReceives => exact agentReceives_frame s k r
  | generate response ifStopped =>
    simp only
    unfold InferenceCluster.generate
    split
    · exact ⟨rfl, rfl⟩
    · exact ⟨rfl, rfl⟩
  | generationEnds =>
    simp only
    unfold InferenceCluster.generationEnds
    split
    · exact ⟨rfl, rfl⟩
    · exact ⟨rfl, rfl⟩
  | forwardResponse => exact forwardResponse_frame s k r
  | connectionLost => exact ⟨rfl, rfl⟩

theorem cancel_frame (s : InferenceCluster) (connection : Nat) (requestId : String) :
    SameFrame s (s.cancel connection requestId) := by
  unfold InferenceCluster.cancel
  split
  · exact ⟨rfl, rfl⟩
  · split
    · exact ⟨rfl, rfl⟩
    · exact ⟨rfl, rfl⟩

/-- States that look the same before two steps with the same frame look the same afterwards, if the
requests do. -/
theorem SameView.framed {t t' : InferenceCluster} (h : SameView c s s') (hframe : SameFrame s t)
    (hframe' : SameFrame s' t')
    (hrequests : t.requests.map (viewOf c) = t'.requests.map (viewOf c)) :
    SameView c t t' :=
  ⟨hframe.inferenceItemTimeout.trans
    (h.inferenceItemTimeout.trans hframe'.inferenceItemTimeout.symm), hframe.closedConnections.trans
      (h.closedConnections.trans hframe'.closedConnections.symm), hrequests⟩

theorem sameView_act (hinv : ClusterInv s) (hinv' : ClusterInv s') (h : Isolated s.requests)
    (h' : Isolated s'.requests) (hview : SameView c s s') (k : Nat) (action : RequestAction)
    (hguard : IdsKeptApart s (.act k action)) (hguard' : IdsKeptApart s' (.act k action)) :
    SameView c (s.step (.act k action)) (s'.step (.act k action)) := by
  unfold InferenceCluster.step
  cases hr : s.requests[k]? with
  | none => simpa only [hr, hview.none hr] using hview
  | some r =>
    obtain ⟨r', hr', hconnection⟩ := hview.other hr
    simp only [hr, hr']
    refine hview.framed (act_frame s k r action) (act_frame s' k r' action) ?_
    by_cases hc : r.connection = c
    · rw [hview.own hr hc] at hr'
      cases hr'
      exact act_view hview hinv hinv' h h' hr hc hguard hguard'
    · rw [(act_moves hinv h hr hguard).view hc,
        (act_moves hinv' h' hr' hguard').view (by rw [hconnection]; exact hc), hview.requests]

theorem sameView_request (hinv : ClusterInv s) (hinv' : ClusterInv s') (hview : SameView c s s')
    (connection : Nat) {requestId requestId' : String}
    (hid : connection = c → requestId = requestId') (mode : ClusterTokenGenerationMode)
    (sendSucceeds : Bool) :
    SameView c (s.handleInferenceRequest connection requestId mode sendSucceeds)
      (s'.handleInferenceRequest connection requestId' mode sendSucceeds) := by
  have hpush : ∀ x x', viewOf c x = viewOf c x' →
      (s.requests ++ [x]).map (viewOf c) = (s'.requests ++ [x']).map (viewOf c) := by
    intro x x' hx
    rw [List.map_append, List.map_append, hview.requests, List.map_singleton,
      List.map_singleton, hx]
  have hlength : s.requests.length = s'.requests.length := by
    have hmapped := congrArg List.length hview.requests
    rwa [List.length_map, List.length_map] at hmapped
  have hframe : ∀ (s : InferenceCluster) requestId,
      SameFrame s (s.handleInferenceRequest connection requestId mode sendSucceeds) := by
    intro s requestId
    unfold InferenceCluster.handleInferenceRequest
    cases mode with
    | disabledForEmbeddings => exact ⟨rfl, rfl⟩
    | enabled =>
      simp only
      split
      · exact ⟨rfl, rfl⟩
      · exact ⟨rfl, rfl⟩
  refine hview.framed (hframe s requestId) (hframe s' requestId') ?_
  by_cases hc : connection = c
  · obtain rfl := hid hc
    subst hc
    unfold InferenceCluster.handleInferenceRequest
    rw [hview.inferenceItemTimeout]
    cases mode with
    | disabledForEmbeddings => exact hpush _ _ rfl
    | enabled =>
      simp only [tokens_lookup_eq hinv hinv' hview requestId]
      split
      · exact hpush _ _ rfl
      · exact hpush _ _ rfl
  · obtain ⟨x, hx, hxc, -⟩ :=
      handleInferenceRequest_requests s connection requestId mode sendSucceeds
    obtain ⟨x', hx', hxc', -⟩ :=
      handleInferenceRequest_requests s' connection requestId' mode sendSucceeds
    rw [hx, hx']
    apply hpush
    unfold viewOf
    rw [hxc, hxc', if_neg hc, if_neg hc]

theorem sameView_cancel (hinv : ClusterInv s) (hinv' : ClusterInv s') (hview : SameView c s s')
    (connection : Nat) {requestId requestId' : String}
    (hid : connection = c → requestId = requestId') :
    SameView c (s.cancel connection requestId) (s'.cancel connection requestId') := by
  refine hview.framed (cancel_frame s connection requestId)
    (cancel_frame s' connection requestId') ?_
  by_cases hc : connection = c
  · obtain rfl := hid hc
    subst hc
    unfold InferenceCluster.cancel
    rw [tokens_lookup_eq hinv hinv' hview requestId]
    cases htoken : s'.requestCancellationTokens.lookup (connection, requestId) with
    | none => exact hview.requests
    | some j =>
      obtain ⟨x, hx, hconnection⟩ := token_connection hinv' htoken
      simp only [hx, hview.symm.own hx hconnection]
      exact set_view hview j _
  · rw [(cancel_moves hinv connection requestId).view hc,
      (cancel_moves hinv' connection requestId').view hc, hview.requests]

/-- **One step of two runs.**  Inputs that differ at most in the request ids of other connections
look the same to a connection. -/
theorem sameView_step (hinv : ClusterInv s) (hinv' : ClusterInv s') (h : Isolated s.requests)
    (h' : Isolated s'.requests) (hview : SameView c s s') {input input' : ClusterInput}
    (hmask : maskRequestIds c input = maskRequestIds c input') (hguard : IdsKeptApart s input)
    (hguard' : IdsKeptApart s' input') : SameView c (s.step input) (s'.step input') := by
  cases input with
  | request connection requestId mode sendSucceeds =>
    cases input' with
    | request connection' requestId' mode' sendSucceeds' =>
      simp only [maskRequestIds, ClusterInput.request.injEq] at hmask
      obtain ⟨rfl, hid, rfl, rfl⟩ := hmask
      refine sameView_request hinv hinv' hview connection ?_ mode sendSucceeds
      intro hc
      simpa only [if_pos hc] using hid
    | stopRespondingTo connection' requestId' => cases hmask
    | connectionClose connection' => cases hmask
    | act k action => cases hmask
  | stopRespondingTo connection requestId =>
    cases input' with
    | stopRespondingTo connection' requestId' =>
      simp only [maskRequestIds, ClusterInput.stopRespondingTo.injEq] at hmask
      obtain ⟨rfl, hid⟩ := hmask
      refine sameView_cancel hinv hinv' hview connection ?_
      intro hc
      simpa only [if_pos hc] using hid
    | request connection' requestId' mode' sendSucceeds' => cases hmask
    | connectionClose connection' => cases hmask
    | act k action => cases hmask
  | connectionClose connection =>
    cases input' with
    | connectionClose connection' =>
      cases hmask
      exact ⟨hview.inferenceItemTimeout, congrArg (connection :: ·) hview.closedConnections,
        hview.requests⟩
    | request connection' requestId' mode' sendSucceeds' => cases hmask
    | stopRespondingTo connection' requestId' => cases hmask
    | act k action => cases hmask
  | act k action =>
    cases input' with
    | act k' action' =>
      cases hmask
      exact sameView_act hinv hinv' h h' hview k action hguard hguard'
    | request connection' requestId' mode' sendSucceeds' => cases hmask
    | stopRespondingTo connection' requestId' => cases hmask
    | connectionClose connection' => cases hmask

/-! ## Isolation -/

/-- A whole run. -/
def InferenceCluster.run (inferenceItemTimeout : Nat) (inputs : List ClusterInput) :
    InferenceCluster :=
  inputs.foldl InferenceCluster.step (.new inferenceItemTimeout)

/-- Two runs whose inputs differ at most in the request ids of other connections. -/
theorem sameView_run (inferenceItemTimeout : Nat) {inputs inputs' : List ClusterInput}
    (hmask : inputs.map (maskRequestIds c) = inputs'.map (maskRequestIds c))
    (hguard : Along InferenceCluster.step IdsKeptApart inputs (.new inferenceItemTimeout))
    (hguard' : Along InferenceCluster.step IdsKeptApart inputs' (.new inferenceItemTimeout)) :
    SameView c (.run inferenceItemTimeout inputs) (.run inferenceItemTimeout inputs') := by
  have hempty : Isolated (InferenceCluster.new inferenceItemTimeout).requests :=
    isolated_of_reaches .start
  have hinv := clusterInv_new inferenceItemTimeout
  refine (Along.relates (fun s s' => (ClusterInv s ∧ Isolated s.requests) ∧
    (ClusterInv s' ∧ Isolated s'.requests) ∧ SameView c s s') ?_ inputs inputs' hmask
    ⟨⟨hinv, hempty⟩, ⟨hinv, hempty⟩, ⟨rfl, rfl, rfl⟩⟩ hguard hguard').2.2
  rintro s s' input input' ⟨⟨hinv, h⟩, ⟨hinv', h'⟩, hview⟩ hmask hguard hguard'
  exact ⟨⟨clusterInv_step hinv input, isolated_step hinv h hguard⟩,
    ⟨clusterInv_step hinv' input', isolated_step hinv' h' hguard'⟩,
    sameView_step hinv hinv' h h' hview hmask hguard hguard'⟩

/-- **Isolation.**  In every run in which the connections keep their ids apart, every response that
gets to a client was generated for a request of its connection (or says that token generation is
disabled); and in two such runs that differ at most in the request ids of other connections, a
client observes the same. -/
theorem responses_isolated (inferenceItemTimeout : Nat) :
    (∀ s, Reaches InferenceCluster.step IdsKeptApart (.new inferenceItemTimeout) s →
      ∀ (k : Nat) (r : InferenceRequest), s.requests[k]? = some r →
      ∀ generatedBy requestId response, .response generatedBy requestId response ∈
        r.request.delivered →
        response = .tokenGenerationDisabled tokenGenerationDisabledMessage ∨
        ∃ origin, (origin, response) ∈ r.taken ∧ OfConnection s.requests r.connection origin) ∧
    ∀ (c : Nat) (inputs inputs' : List ClusterInput),
      inputs.map (maskRequestIds c) = inputs'.map (maskRequestIds c) →
      Along InferenceCluster.step IdsKeptApart inputs (.new inferenceItemTimeout) →
      Along InferenceCluster.step IdsKeptApart inputs' (.new inferenceItemTimeout) →
      ∀ (k : Nat) (r : InferenceRequest),
        (InferenceCluster.run inferenceItemTimeout inputs).requests[k]? = some r →
        r.connection = c →
        (InferenceCluster.run inferenceItemTimeout inputs').requests[k]? = some r := by
  constructor
  · intro s hreached k r hr generatedBy requestId response hdelivered
    have h := isolated_of_reaches hreached
    have hrecorded := h.received k r hr
    unfold RequestFromAgent.delivered at hdelivered
    obtain ⟨send, hsend, hmessage⟩ := List.mem_map.mp hdelivered
    rcases hrecorded.sends send (List.mem_filter.mp hsend).1 generatedBy requestId response hmessage
      with hdisabled | hreceived
    · exact Or.inl hdisabled
    · rw [hrecorded.received] at hreceived
      obtain ⟨⟨origin, response⟩, htaken, rfl⟩ := List.mem_map.mp hreceived
      exact Or.inr ⟨origin, htaken, h.taken k r hr _ htaken⟩
  · intro c inputs inputs' hmask hguard hguard' k r hr hc
    exact (sameView_run inferenceItemTimeout hmask hguard hguard').own hr hc

instance : Decidable (r.HasOwnId requests) :=
  inferInstanceAs (Decidable (∀ other ∈ requests, other.isLive = true →
    other.requestId = r.requestId →
    other.connection = r.connection))

instance : DecidablePred (IdsKeptApart s) := fun input =>
  match input with
  | .act k (.registerSender _) => inferInstanceAs (Decidable (∀ r ∈ s.requests[k]?,
      r.request.phase = .dispatching → r.controller = false → r.HasOwnId s.requests))
  | .request .. | .stopRespondingTo .. | .connectionClose _ | .act _ (.select _)
  | .act _ (.sendRpcMessage ..) | .act _ (.recv ..) | .act _ .agentReceives | .act _ (.generate ..)
  | .act _ .generationEnds | .act _ .forwardResponse | .act _ .connectionLost => isTrue trivial

/-- The first client's request is given up by the balancer while its agent is still busy.  The
second client sends its request, which another agent gets; then the first agent produces a token for
the first client. -/
def lateResponse (firstId : String) : List ClusterInput :=
  [.request 0 firstId .enabled true,
    .act 0 (.select ⟨.waitForAvailableAgent (.found none), true, .stopRequested⟩),
    .act 0 (.registerSender true), .act 0 (.sendRpcMessage 0 true true), .act 0 .agentReceives,
    .act 0 (.select ⟨.inferenceItemTimeout, true, .stopRequested⟩),
    .act 0 (.select ⟨.inferenceItemTimeout, true, .stopRequested⟩),
    .request 1 "request" .enabled true,
    .act 1 (.select ⟨.waitForAvailableAgent (.found none), true, .stopRequested⟩),
    .act 1 (.registerSender true), .act 1 (.sendRpcMessage 1 true true),
    .act 0 (.generate (.contentToken "secret") none), .act 0 .forwardResponse,
    .act 1 (.recv true .stopRequested)]

/-- The second client does not notice which id the first one uses, as long as it is not its own. -/
theorem responses_isolated_lateResponse :
    (InferenceCluster.run 1000 (lateResponse "first")).requests[1]? =
      (InferenceCluster.run 1000 (lateResponse "other")).requests[1]? := by
  have hr : (InferenceCluster.run 1000 (lateResponse "first")).requests[1]?.isSome = true := by
    decide +kernel
  obtain ⟨r, hr⟩ := Option.isSome_iff_exists.mp hr
  have hc : r.connection = 1 := by
    have hconnection : (InferenceCluster.run 1000 (lateResponse "first")).requests[1]?.map
        (·.connection) = some 1 := by decide +kernel
    rw [hr, Option.map_some, Option.some.injEq] at hconnection
    exact hconnection
  rw [hr]
  exact ((responses_isolated 1000).2 1 (lateResponse "first") (lateResponse "other")
    (by decide +kernel) (by decide +kernel) (by decide +kernel) 1 r hr hc).symm

/-- If both clients use one id, the second one gets the token that was generated for the first;
under another id of the first client it would not have got it. -/
theorem responses_leak :
    Reaches InferenceCluster.step (fun _ _ => True) (.new 1000)
      (InferenceCluster.run 1000 (lateResponse "request")) ∧
    (InferenceCluster.run 1000 (lateResponse "request")).requests.map (·.connection) = [0, 1] ∧
    (InferenceCluster.run 1000 (lateResponse "request")).requests[1]?.map
        (fun r => (r.request.delivered, r.taken)) =
      some ([.response none "request" (.contentToken "secret")], [(0, .contentToken "secret")]) ∧
    (lateResponse "request").map (maskRequestIds 1) =
      (lateResponse "other").map (maskRequestIds 1) ∧
    (InferenceCluster.run 1000 (lateResponse "other")).requests[1]?.map (·.request.delivered) =
      some [] := by
  refine ⟨Reaches.runs _ (fun _ _ _ => trivial) .start, ?_, ?_, ?_, ?_⟩
  · decide +kernel
  · decide +kernel
  · decide +kernel
  · decide +kernel

end Paddler
