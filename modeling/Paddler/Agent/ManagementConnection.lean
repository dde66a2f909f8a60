import Paddler.Agent.ModelStartup

/-!
# One connection of an agent to its balancer

Model of `keep_connection_alive` of the agent's `management_socket_client_service.rs`: its main task
queues messages, a spawned task forwards them to the socket, and the tasks of the requests queue the
responses.  What the socket answers is given with each step.  `queued`, `taken` and `unsent` are
history: everything the channel took, what the forwarding task took out of it and whether it was
written, and what was lost with the channel.

* `Connection.step` — one step of the main task, of the forwarding task, or a response that is
  queued.
* `ConnectionInv` — what holds between any two steps; `connectionInv_reaches`.
* `wire_grammar` — **the socket carries the registration first, then what was queued in its order,
  and after the deregistration nothing but responses.**
* `shutdown_flushes` — **an agent that shuts down leaves nothing behind**: everything queued before
  its deregistration is on the socket, and so is the deregistration.
-/

set_option autoImplicit false

namespace Paddler

open Run

namespace ManagementConnection

open ModelStartup

variable {ρ : Type}

/-! ## Messages -/

/-- `management_socket/agent/response.rs`; a token or an embedding is one of a stream. -/
inductive AgentResponse (ρ : Type) where
  | chatTemplateOverride (chatTemplate : Option ChatTemplate)
  | modelMetadata (modelMetadata : Option ModelMetadata)
  | streamed (response : ρ)

/-- `management_socket/balancer/message.rs`, as far as an agent sends it. -/
inductive ManagementMessage (ρ : Type) where
  | registerAgent (name : Option String) (snapshot : SlotAggregatedStatusSnapshot)
  | updateAgentStatus (snapshot : SlotAggregatedStatusSnapshot)
  | deregisterAgent
  | response (requestId : String) (response : AgentResponse ρ)

/-- A frame of the socket. -/
inductive Frame (ρ : Type) where
  | text (message : ManagementMessage ρ)
  | pong (payload : List UInt8)

/-- The message of a text frame. -/
def Frame.message? : Frame ρ → Option (ManagementMessage ρ)
  | .text message => some message
  | .pong _ => none

/-! ## The connection -/

/-- Where the main task is.  `readEnded`: the socket ended before the agent shut down; a task that
could not register returns without knowing. -/
inductive MainTask where
  | registering
  | looping
  | deregistering (readEnded : Bool)
  | closing (readEnded : Bool)
  | joining (readEnded : Bool)
  | returned (readEnded : Option Bool)
  deriving DecidableEq, Repr

/-- Where the forwarding task is. -/
inductive Forwarder where
  | forwarding
  | flushing
  | ended (writeFailed : Bool)
  deriving DecidableEq, Repr

/-- One connection. -/
structure Connection (ρ : Type) where
  name : Option String
  connectionClose : Bool
  messageRx : List (ManagementMessage ρ)
  pongRx : List (List UInt8)
  mainTask : MainTask
  forwarder : Forwarder
  written : List (Frame ρ)
  queued : List (ManagementMessage ρ)
  taken : List (ManagementMessage ρ × Bool)
  unsent : List (ManagementMessage ρ)

/-- What can happen next, with the answers of the outside world: whether a message could be
serialized, and whether the socket took it. -/
inductive ConnectionInput (ρ : Type) where
  | register (snapshot : Except String SlotAggregatedStatusSnapshot)
  | statusUpdate (snapshot : Except String SlotAggregatedStatusSnapshot)
  | respond (requestId : String) (response : AgentResponse ρ)
  | ping (payload : List UInt8)
  | stopLooping
  | readEnd
  | deregister
  | close
  | forward (serialized written : Bool)
  | forwardPong (written : Bool)
  | observeClose
  | channelClosed
  | join

namespace Connection

/-- `connect_async` succeeded, and the forwarding task was spawned. -/
def new (name : Option String) : Connection ρ :=
  { name := name
    connectionClose := false
    messageRx := []
    pongRx := []
    mainTask := .registering
    forwarder := .forwarding
    written := []
    queued := []
    taken := []
    unsent := [] }

/-- The receivers of the forwarding task are still there. -/
def receives (c : Connection ρ) : Bool :=
  match c.forwarder with
  | .ended _ => false
  | _ => true

/-- `message_tx.send`; without a receiver the error is logged. -/
def send (c : Connection ρ) (message : ManagementMessage ρ) : Connection ρ :=
  if c.receives then
    { c with messageRx := c.messageRx ++ [message], queued := c.queued ++ [message] }
  else c

/-- The forwarding task ends, and its receivers are dropped. -/
def endForwarder (c : Connection ρ) (writeFailed : Bool) : Connection ρ :=
  { c with
    messageRx := []
    pongRx := []
    forwarder := .ended writeFailed
    unsent := c.messageRx }

/-- The forwarding task takes the next message.  One that cannot be serialized is skipped; when the
socket does not take it the task ends. -/
def take (c : Connection ρ) (message : ManagementMessage ρ) (rest : List (ManagementMessage ρ))
    (serialized written : Bool) : Connection ρ :=
  let c := { c with messageRx := rest, taken := c.taken ++ [(message, serialized && written)] }
  if !serialized then c
  else if written then { c with written := c.written ++ [.text message] }
  else c.endForwarder true

/-- One step.  An input that is not enabled changes nothing. -/
def step (c : Connection ρ) : ConnectionInput ρ → Connection ρ
  | .register snapshot =>
    match c.mainTask, snapshot with
    | .registering, .ok snapshot =>
      { c.send (.registerAgent c.name snapshot) with mainTask := .looping }
    | .registering, .error _ => { c with mainTask := .returned none }
    | _, _ => c
  | .statusUpdate snapshot =>
    match c.mainTask, snapshot with
    | .looping, .ok snapshot => c.send (.updateAgentStatus snapshot)
    | _, _ => c
  | .respond requestId response =>
    -- a request is only there once the main task has taken it from the socket
    match c.mainTask with
    | .registering | .returned none => c
    | _ => c.send (.response requestId response)
  | .ping payload =>
    match c.mainTask with
    | .looping => if c.receives then { c with pongRx := c.pongRx ++ [payload] } else c
    | _ => c
  | .stopLooping =>
    -- the shutdown, or the status that is gone
    match c.mainTask with
    | .looping => { c with mainTask := .deregistering false }
    | _ => c
  | .readEnd =>
    match c.mainTask with
    | .looping => { c with mainTask := .deregistering true, connectionClose := true }
    | _ => c
  | .deregister =>
    match c.mainTask with
    | .deregistering readEnded => { c.send .deregisterAgent with mainTask := .closing readEnded }
    | _ => c
  | .close =>
    match c.mainTask with
    | .closing readEnded => { c with mainTask := .joining readEnded, connectionClose := true }
    | _ => c
  | .forward serialized written =>
    match c.forwarder, c.messageRx with
    | .forwarding, message :: rest => c.take message rest serialized written
    | .flushing, message :: rest => c.take message rest serialized written
    | .flushing, [] => c.endForwarder false
    | _, _ => c
  | .forwardPong written =>
    match c.forwarder, c.pongRx with
    | .forwarding, payload :: rest =>
      { c with pongRx := rest, written := if written then c.written ++ [.pong payload] else c.written }
    | _, _ => c
  | .observeClose =>
    match c.forwarder with
    | .forwarding => if c.connectionClose then { c with forwarder := .flushing } else c
    | _ => c
  | .channelClosed =>
    -- the main task returned before it registered, and took its senders with it
    match c.forwarder, c.mainTask with
    | .forwarding, .returned none => c.endForwarder false
    | _, _ => c
  | .join =>
    match c.mainTask, c.forwarder with
    | .joining readEnded, .ended _ => { c with mainTask := .returned (some readEnded) }
    | _, _ => c

/-- The messages the socket took, in their order. -/
def texts (c : Connection ρ) : List (ManagementMessage ρ) := c.written.filterMap Frame.message?

end Connection

/-! ## What is queued -/

/-- What the main task and the tasks of the requests queue between registration and
deregistration. -/
def ManagementMessage.IsOrdinary : ManagementMessage ρ → Prop
  | .updateAgentStatus _ | .response _ _ => True
  | .registerAgent _ _ | .deregisterAgent => False

def ManagementMessage.IsResponse : ManagementMessage ρ → Prop
  | .response _ _ => True
  | _ => False

/-- The registration, and then anything but a second one. -/
def Registered (name : Option String) (queued : List (ManagementMessage ρ)) : Prop :=
  ∃ snapshot body, queued = .registerAgent name snapshot :: body ∧ ∀ message ∈ body,
    message.IsOrdinary

/-- The registration, what came before the deregistration, and the responses that came after it. -/
def Deregistered (name : Option String) (queued : List (ManagementMessage ρ)) : Prop :=
  ∃ before responses, queued = before ++ .deregisterAgent :: responses ∧ Registered name before ∧
    ∀ message ∈ responses, message.IsResponse

/-- What the place of the main task says of the queue. -/
def QueuedAt (c : Connection ρ) : Prop :=
  match c.mainTask with
  | .registering | .returned none => c.queued = []
  | .looping | .deregistering _ => Registered c.name c.queued
  | .closing readEnded | .joining readEnded | .returned (some readEnded) =>
    Deregistered c.name c.queued ∨
      Registered c.name c.queued ∧ c.receives = false ∧
      (readEnded = false → c.forwarder = .ended true)

/-- The token is cancelled only on the way out. -/
def MayBeClosed : MainTask → Bool
  | .deregistering readEnded | .closing readEnded => readEnded
  | .joining _ | .returned _ => true
  | .registering | .looping => false

/-- Every message the forwarding task took was written, but one the socket did not take. -/
def TakenAt (c : Connection ρ) : Prop :=
  match c.forwarder with
  | .ended true => ∃ before message, c.taken = before ++ [(message, false)] ∧ ∀ entry ∈ before,
      entry.2 = true
  | _ => ∀ entry ∈ c.taken, entry.2 = true

/-- **What holds between any two steps.** -/
structure ConnectionInv (c : Connection ρ) : Prop where
  queued : c.queued = c.taken.map (·.1) ++ c.messageRx ++ c.unsent
  texts : c.texts = (c.taken.filter (·.2)).map (·.1)
  ended : c.receives = false → c.messageRx = []
  kept : c.forwarder ≠ .ended true → c.unsent = []
  closed : c.connectionClose = true → MayBeClosed c.mainTask = true
  flushing : c.forwarder = .flushing ∨ c.forwarder = .ended false → MayBeClosed c.mainTask = true
  queuedAt : QueuedAt c
  takenAt : TakenAt c

/-- `serde_json::to_string` succeeds on what an agent sends. -/
def Serializes (_ : Connection ρ) : ConnectionInput ρ → Prop
  | .forward serialized _ => serialized = true
  | _ => True

theorem Registered.concat {name : Option String} {queued : List (ManagementMessage ρ)}
    (h : Registered name queued) {message : ManagementMessage ρ} (hmessage : message.IsOrdinary) :
    Registered name (queued ++ [message]) := by
  obtain ⟨snapshot, body, rfl, hbody⟩ := h
  refine ⟨snapshot, body ++ [message], rfl, fun m hm => ?_⟩
  rcases List.mem_append.mp hm with hold | hnew
  · exact hbody m hold
  · rw [List.mem_singleton.mp hnew]
    exact hmessage

theorem Deregistered.concat {name : Option String} {queued : List (ManagementMessage ρ)}
    (h : Deregistered name queued) {message : ManagementMessage ρ} (hmessage : message.IsResponse) :
    Deregistered name (queued ++ [message]) := by
  obtain ⟨before, responses, rfl, hbefore, hresponses⟩ := h
  refine ⟨before, responses ++ [message], by simp, hbefore, fun m hm => ?_⟩
  rcases List.mem_append.mp hm with hold | hnew
  · exact hresponses m hold
  · rw [List.mem_singleton.mp hnew]
    exact hmessage

namespace ConnectionInv

variable {c : Connection ρ}

theorem new (name : Option String) : ConnectionInv (Connection.new name : Connection ρ) where
  queued := rfl
  texts := rfl
  ended := fun _ => rfl
  kept := fun _ => rfl
  closed := fun hfalse => absurd hfalse Bool.false_ne_true
  flushing := fun h => by rcases h with h | h <;> cases h
  queuedAt := rfl
  takenAt := fun entry hentry => absurd hentry List.not_mem_nil

theorem receives_of_ended {writeFailed : Bool} (h : c.forwarder = .ended writeFailed) :
    c.receives = false := by
  unfold Connection.receives
  rw [h]

theorem send (h : ConnectionInv c) (message : ManagementMessage ρ) (mainTask : MainTask)
    (hclosed : MayBeClosed c.mainTask = true → MayBeClosed mainTask = true)
    (hat : QueuedAt { c.send message with mainTask := mainTask }) :
    ConnectionInv { c.send message with mainTask := mainTask } := by
  unfold Connection.send at hat ⊢
  split at hat
  · rename_i hreceives
    rw [if_pos hreceives]
    have hforwarder : c.forwarder ≠ .ended true := fun hended => by
      rw [receives_of_ended hended] at hreceives
      cases hreceives
    refine
      { queued := ?_
        texts := h.texts
        ended := fun hfalse => ?_
        kept := h.kept
        closed := fun hclose => hclosed (h.closed hclose)
        flushing := fun hflush => hclosed (h.flushing hflush)
        queuedAt := hat
        takenAt := h.takenAt }
    · rw [h.queued, h.kept hforwarder]
      simp
    · exact absurd (hreceives.symm.trans hfalse) Bool.noConfusion
  · rename_i hreceives
    rw [if_neg hreceives]
    exact
      { queued := h.queued
        texts := h.texts
        ended := h.ended
        kept := h.kept
        closed := fun hclose => hclosed (h.closed hclose)
        flushing := fun hflush => hclosed (h.flushing hflush)
        queuedAt := hat
        takenAt := h.takenAt }

theorem move (h : ConnectionInv c) {mainTask : MainTask} {connectionClose : Bool}
    (hclosed : MayBeClosed c.mainTask = true → MayBeClosed mainTask = true)
    (hclose : connectionClose = true → MayBeClosed mainTask = true)
    (hat : QueuedAt { c with mainTask := mainTask, connectionClose := connectionClose }) :
    ConnectionInv { c with mainTask := mainTask, connectionClose := connectionClose } where
  queued := h.queued
  texts := h.texts
  ended := h.ended
  kept := h.kept
  closed := hclose
  flushing := fun hflush => hclosed (h.flushing hflush)
  queuedAt := hat
  takenAt := h.takenAt

/-- What is queued while the forwarding task is there does not depend on what that task does. -/
theorem queuedAt_of_receives (h : QueuedAt c) (hreceives : c.receives = true) {c' : Connection ρ}
    (hmain : c'.mainTask = c.mainTask) (hname : c'.name = c.name) (hqueued : c'.queued = c.queued) :
    QueuedAt c' := by
  have hnot : c.receives ≠ false := by
    rw [hreceives]
    exact Bool.noConfusion
  unfold QueuedAt at h ⊢
  rw [hmain, hname, hqueued]
  cases hm : c.mainTask with
  | registering =>
    rw [hm] at h
    exact h
  | looping =>
    rw [hm] at h
    exact h
  | deregistering readEnded =>
    rw [hm] at h
    exact h
  | closing readEnded =>
    rw [hm] at h
    exact .inl (h.resolve_right fun hright => hnot hright.2.1)
  | joining readEnded =>
    rw [hm] at h
    exact .inl (h.resolve_right fun hright => hnot hright.2.1)
  | returned readEnded =>
    rw [hm] at h
    cases readEnded with
    | none => exact h
    | some readEnded => exact .inl (h.resolve_right fun hright => hnot hright.2.1)

theorem take (h : ConnectionInv c) {message : ManagementMessage ρ}
    {rest : List (ManagementMessage ρ)} (hreceives : c.receives = true)
    (hrx : c.messageRx = message :: rest) (written : Bool) :
    ConnectionInv (c.take message rest true written) := by
  have hforwarder : c.forwarder ≠ .ended true := fun hended => by
    rw [receives_of_ended hended] at hreceives
    cases hreceives
  have hqueued := h.queued
  have htexts := h.texts
  have htaken : ∀ entry ∈ c.taken, entry.2 = true := by
    have htaken := h.takenAt
    unfold TakenAt at htaken
    split at htaken
    · rename_i hended
      exact absurd hended hforwarder
    · exact htaken
  rw [hrx, h.kept hforwarder] at hqueued
  cases written with
  | true =>
    refine
      { queued := ?_
        texts := ?_
        ended := fun hfalse => absurd (hreceives.symm.trans hfalse) Bool.noConfusion
        kept := h.kept
        closed := h.closed
        flushing := h.flushing
        queuedAt := queuedAt_of_receives h.queuedAt hreceives rfl rfl rfl
        takenAt := ?_ }
    · show c.queued = (c.taken ++ [(message, true)]).map (·.1) ++ rest ++ c.unsent
      rw [hqueued, h.kept hforwarder]
      simp
    · show (c.written ++ [Frame.text message]).filterMap Frame.message? =
        ((c.taken ++ [(message, true)]).filter (·.2)).map (·.1)
      unfold Connection.texts at htexts
      rw [List.filterMap_append, htexts, List.filter_append, List.map_append]
      rfl
    · show TakenAt _
      unfold TakenAt
      have hall : ∀ entry ∈ c.taken ++ [(message, true)], entry.2 = true := by
        intro entry hentry
        rcases List.mem_append.mp hentry with hold | hnew
        · exact htaken entry hold
        · rw [List.mem_singleton.mp hnew]
      split
      · rename_i hended
        exact absurd hended hforwarder
      · exact hall
  | false =>
    refine
      { queued := ?_
        texts := ?_
        ended := fun _ => rfl
        kept := fun hne => absurd rfl hne
        closed := h.closed
        flushing := fun hflush => by rcases hflush with hflush | hflush <;> cases hflush
        queuedAt := queuedAt_of_receives h.queuedAt hreceives rfl rfl rfl
        takenAt := ⟨c.taken, message, rfl, htaken⟩ }
    · show c.queued = (c.taken ++ [(message, false)]).map (·.1) ++ [] ++ rest
      rw [hqueued]
      simp
    · show c.written.filterMap Frame.message? =
        ((c.taken ++ [(message, false)]).filter (·.2)).map (·.1)
      unfold Connection.texts at htexts
      rw [htexts, List.filter_append, List.map_append]
      simp

/-- The forwarding task ends with nothing left in its channel, or with the senders. -/
theorem endForwarder (h : ConnectionInv c) (hreceives : c.receives = true) (hrx : c.messageRx = [])
    (hclosed : MayBeClosed c.mainTask = true) : ConnectionInv (c.endForwarder false) := by
  have hforwarder : c.forwarder ≠ .ended true := fun hended => by
    rw [receives_of_ended hended] at hreceives
    cases hreceives
  have hqueued := h.queued
  rw [hrx, h.kept hforwarder] at hqueued
  exact
    { queued := by
        show c.queued = c.taken.map (·.1) ++ [] ++ c.messageRx
        rw [hqueued, hrx]
      texts := h.texts
      ended := fun _ => rfl
      kept := fun _ => hrx
      closed := h.closed
      flushing := fun _ => hclosed
      queuedAt := queuedAt_of_receives h.queuedAt hreceives rfl rfl rfl
      takenAt := by
        have htaken := h.takenAt
        unfold TakenAt at htaken
        split at htaken
        · rename_i hended
          exact absurd hended hforwarder
        · exact htaken }

/-- A response in a state in which requests may be there. -/
theorem queuedAt_respond (h : ConnectionInv c) (requestId : String) (response : AgentResponse ρ)
    (hregistering : c.mainTask ≠ .registering) (hfailed : c.mainTask ≠ .returned none) :
    QueuedAt (c.send (.response requestId response)) := by
  have hat := h.queuedAt
  have hmain : (c.send (.response requestId response)).mainTask = c.mainTask := by
    unfold Connection.send
    split <;> rfl
  have hname : (c.send (.response requestId response)).name = c.name := by
    unfold Connection.send
    split <;> rfl
  cases hreceives : c.receives with
  | false =>
    have hsame : c.send (.response requestId response) = c := by
      unfold Connection.send
      rw [hreceives]
      rfl
    rw [hsame]
    exact hat
  | true =>
    have hqueued : (c.send (.response requestId response)).queued = c.queued ++ [.response requestId response] := by
      unfold Connection.send
      rw [hreceives]
      rfl
    have hnot : c.receives ≠ false := by
      rw [hreceives]
      exact Bool.noConfusion
    unfold QueuedAt at hat ⊢
    rw [hmain, hname, hqueued]
    cases hm : c.mainTask with
    | registering => exact absurd hm hregistering
    | looping =>
      rw [hm] at hat
      exact hat.concat trivial
    | deregistering readEnded =>
      rw [hm] at hat
      exact hat.concat trivial
    | closing readEnded =>
      rw [hm] at hat
      exact .inl ((hat.resolve_right fun hright => hnot hright.2.1).concat trivial)
    | joining readEnded =>
      rw [hm] at hat
      exact .inl ((hat.resolve_right fun hright => hnot hright.2.1).concat trivial)
    | returned readEnded =>
      rw [hm] at hat
      cases readEnded with
      | none => exact absurd hm hfailed
      | some readEnded => exact .inl ((hat.resolve_right fun hright => hnot hright.2.1).concat trivial)

/-- Without a receiver the forwarding task has ended, and before the way out it ended at a failed
write. -/
theorem ended_true_of_open (h : ConnectionInv c) (hreceives : c.receives = false)
    (hopen : MayBeClosed c.mainTask = false) : c.forwarder = .ended true := by
  have hflushing := h.flushing
  unfold Connection.receives at hreceives
  cases hforwarder : c.forwarder with
  | ended writeFailed =>
    cases writeFailed with
    | true => rfl
    | false =>
      rw [hflushing (.inr hforwarder)] at hopen
      cases hopen
  | forwarding =>
    rw [hforwarder] at hreceives
    cases hreceives
  | flushing =>
    rw [hforwarder] at hreceives
    cases hreceives

theorem queuedAt_deregister (h : ConnectionInv c) {readEnded : Bool}
    (hmain : c.mainTask = .deregistering readEnded) :
    QueuedAt { c.send .deregisterAgent with mainTask := .closing readEnded } := by
  have hat := h.queuedAt
  unfold QueuedAt at hat
  rw [hmain] at hat
  unfold Connection.send
  cases hreceives : c.receives with
  | true =>
    rw [if_pos rfl]
    exact .inl ⟨c.queued, [], rfl, hat, fun message hmessage => absurd hmessage List.not_mem_nil⟩
  | false =>
    rw [if_neg Bool.false_ne_true]
    refine .inr ⟨hat, hreceives, fun hshutdown => ?_⟩
    exact h.ended_true_of_open hreceives (by rw [hmain, hshutdown]; rfl)

/-- The forwarding task cannot have failed before there was anything to write. -/
theorem receives_of_registering (h : ConnectionInv c) (hmain : c.mainTask = .registering) :
    c.receives = true := by
  by_contra hreceives
  have hended := h.ended_true_of_open (Bool.eq_false_iff.mpr hreceives) (by rw [hmain]; rfl)
  have hat := h.queuedAt
  have htaken := h.takenAt
  have hqueued := h.queued
  unfold QueuedAt at hat
  unfold TakenAt at htaken
  rw [hmain] at hat
  rw [hended] at htaken
  obtain ⟨before, message, heq, -⟩ := htaken
  rw [hat, heq] at hqueued
  simp at hqueued

theorem queuedAt_register (h : ConnectionInv c) (hmain : c.mainTask = .registering)
    (snapshot : SlotAggregatedStatusSnapshot) :
    QueuedAt { c.send (.registerAgent c.name snapshot) with mainTask := .looping } := by
  have hat := h.queuedAt
  unfold QueuedAt at hat
  rw [hmain] at hat
  unfold Connection.send
  rw [h.receives_of_registering hmain, if_pos rfl]
  refine ⟨snapshot, [], ?_, fun message hmessage => absurd hmessage List.not_mem_nil⟩
  show c.queued ++ [_] = _
  rw [hat]
  rfl

theorem send_mainTask (c : Connection ρ) (message : ManagementMessage ρ) :
    { c.send message with mainTask := c.mainTask } = c.send message := by
  unfold Connection.send
  split <;> rfl

theorem sendHere (h : ConnectionInv c) (message : ManagementMessage ρ)
    (hat : QueuedAt (c.send message)) :
    ConnectionInv (c.send message) := by
  have hsent := h.send message c.mainTask id (by rw [send_mainTask]; exact hat)
  rw [send_mainTask] at hsent
  exact hsent

theorem queuedAt_statusUpdate (h : ConnectionInv c) (hmain : c.mainTask = .looping)
    (snapshot : SlotAggregatedStatusSnapshot) :
    QueuedAt (c.send (.updateAgentStatus snapshot)) := by
  have hat := h.queuedAt
  unfold QueuedAt at hat
  rw [hmain] at hat
  unfold Connection.send
  split
  · unfold QueuedAt
    rw [hmain]
    exact hat.concat trivial
  · unfold QueuedAt
    rw [hmain]
    exact hat

theorem forward (h : ConnectionInv c) (written : Bool) :
    ConnectionInv (c.step (.forward true written)) := by
  simp only [Connection.step]
  cases hforwarder : c.forwarder with
  | ended writeFailed => exact h
  | forwarding =>
    have hreceives : c.receives = true := by
      unfold Connection.receives
      rw [hforwarder]
    cases hrx : c.messageRx with
    | nil => exact h
    | cons message rest => exact h.take hreceives hrx written
  | flushing =>
    have hreceives : c.receives = true := by
      unfold Connection.receives
      rw [hforwarder]
    cases hrx : c.messageRx with
    | nil => exact h.endForwarder hreceives hrx (h.flushing (.inl hforwarder))
    | cons message rest => exact h.take hreceives hrx written

/-- **Every step keeps the invariant.** -/
theorem step (h : ConnectionInv c) {i : ConnectionInput ρ} (hi : Serializes c i) :
    ConnectionInv (c.step i) := by
  have hat := h.queuedAt
  unfold QueuedAt at hat
  cases i with
  | register snapshot =>
    simp only [Connection.step]
    split
    · rename_i snapshot hmain
      exact h.send _ .looping (fun hfalse => by rw [hmain] at hfalse; cases hfalse)
        (h.queuedAt_register hmain snapshot)
    · rename_i hmain
      rw [hmain] at hat
      exact h.move (fun _ => rfl) (fun _ => rfl) hat
    · exact h
  | statusUpdate snapshot =>
    simp only [Connection.step]
    split
    · rename_i snapshot hmain
      exact h.sendHere _ (h.queuedAt_statusUpdate hmain snapshot)
    · exact h
  | respond requestId response =>
    simp only [Connection.step]
    split
    · exact h
    · exact h
    · rename_i hregistering hfailed
      exact h.sendHere _ (h.queuedAt_respond requestId response hregistering hfailed)
  | ping payload =>
    simp only [Connection.step]
    split
    · split
      · exact
          { queued := h.queued
            texts := h.texts
            ended := h.ended
            kept := h.kept
            closed := h.closed
            flushing := h.flushing
            queuedAt := h.queuedAt
            takenAt := h.takenAt }
      · exact h
    · exact h
  | stopLooping =>
    simp only [Connection.step]
    split
    · rename_i hmain
      rw [hmain] at hat
      exact h.move (fun hfalse => by rw [hmain] at hfalse; cases hfalse)
        (fun hclose => by have := h.closed hclose; rw [hmain] at this; cases this) hat
    · exact h
  | readEnd =>
    simp only [Connection.step]
    split
    · rename_i hmain
      rw [hmain] at hat
      exact h.move (fun _ => rfl) (fun _ => rfl) hat
    · exact h
  | deregister =>
    simp only [Connection.step]
    split
    · rename_i readEnded hmain
      refine h.send _ (.closing readEnded) (fun hclosed => ?_) (h.queuedAt_deregister hmain)
      rw [hmain] at hclosed
      exact hclosed
    · exact h
  | close =>
    simp only [Connection.step]
    split
    · rename_i readEnded hmain
      rw [hmain] at hat
      exact h.move (fun _ => rfl) (fun _ => rfl) hat
    · exact h
  | forward serialized written =>
    cases show serialized = true from hi
    exact h.forward written
  | forwardPong written =>
    simp only [Connection.step]
    split
    · refine
        { queued := h.queued
          texts := ?_
          ended := h.ended
          kept := h.kept
          closed := h.closed
          flushing := h.flushing
          queuedAt := h.queuedAt
          takenAt := h.takenAt }
      rw [← h.texts]
      unfold Connection.texts
      cases written with
      | true => simp [Frame.message?]
      | false => rfl
    · exact h
  | observeClose =>
    simp only [Connection.step]
    split
    · rename_i hforwarder
      split
      · rename_i hclose
        have hreceives : c.receives = true := by
          unfold Connection.receives
          rw [hforwarder]
        have htaken := h.takenAt
        unfold TakenAt at htaken
        rw [hforwarder] at htaken
        exact
          { queued := h.queued
            texts := h.texts
            ended := fun hfalse => Bool.noConfusion hfalse
            kept := fun _ => h.kept (by rw [hforwarder]; exact Forwarder.noConfusion)
            closed := h.closed
            flushing := fun _ => h.closed hclose
            queuedAt := queuedAt_of_receives h.queuedAt hreceives rfl rfl rfl
            takenAt := htaken }
      · exact h
    · exact h
  | channelClosed =>
    simp only [Connection.step]
    split
    · rename_i hforwarder hmain
      have hqueued := h.queued
      rw [hmain] at hat
      rw [hat] at hqueued
      have hreceives : c.receives = true := by
        unfold Connection.receives
        rw [hforwarder]
      have hrx : c.messageRx = [] := by
        have hnil := hqueued.symm
        rw [List.append_eq_nil_iff, List.append_eq_nil_iff] at hnil
        exact hnil.1.2
      exact h.endForwarder hreceives hrx (by rw [hmain]; rfl)
    · exact h
  | join =>
    simp only [Connection.step]
    split
    · rename_i readEnded writeFailed hmain hforwarder
      rw [hmain] at hat
      exact h.move (fun _ => rfl) (fun _ => rfl) hat
    · exact h

end ConnectionInv

theorem Connection.send_name (c : Connection ρ) (message : ManagementMessage ρ) :
    (c.send message).name = c.name := by
  unfold Connection.send
  split <;> rfl

theorem Connection.step_name (c : Connection ρ) (i : ConnectionInput ρ) :
    (c.step i).name = c.name := by
  have htake : ∀ (message : ManagementMessage ρ) (rest : List (ManagementMessage ρ)) (serialized written : Bool),
      (c.take message rest serialized written).name = c.name := by
    intro message rest serialized written
    cases serialized <;> cases written <;> rfl
  unfold Connection.step
  split
  · split
    · exact c.send_name _
    · rfl
    · rfl
  · split
    · exact c.send_name _
    · rfl
  · split
    · rfl
    · rfl
    · exact c.send_name _
  · split
    · split <;> rfl
    · rfl
  · split <;> rfl
  · split <;> rfl
  · split
    · exact c.send_name _
    · rfl
  · split <;> rfl
  · split
    · exact htake _ _ _ _
    · exact htake _ _ _ _
    · rfl
    · rfl
  · split <;> rfl
  · split
    · split <;> rfl
    · rfl
  · split <;> rfl
  · split <;> rfl

theorem connectionInv_reaches {name : Option String} {c : Connection ρ}
    (h : Reaches Connection.step Serializes (Connection.new name) c) :
    ConnectionInv c ∧ c.name = name :=
  h.invariant (fun c => ConnectionInv c ∧ c.name = name) ⟨.new name, rfl⟩
    fun c i _ hc hi => ⟨hc.1.step hi, (c.step_name i).trans hc.2⟩

/-- Every message that was taken was written, as long as no write failed. -/
theorem ConnectionInv.queued_eq {c : Connection ρ} (h : ConnectionInv c)
    (hforwarder : c.forwarder ≠ .ended true) :
    c.queued = c.texts ++ c.messageRx := by
  have htaken := h.takenAt
  unfold TakenAt at htaken
  split at htaken
  · rename_i hended
    exact absurd hended hforwarder
  · rw [h.queued, h.texts, h.kept hforwarder, List.filter_eq_self.mpr htaken, List.append_nil]

theorem ConnectionInv.texts_prefix {c : Connection ρ} (h : ConnectionInv c) :
    c.texts <+: c.queued := by
  by_cases hforwarder : c.forwarder = .ended true
  · have htaken := h.takenAt
    unfold TakenAt at htaken
    rw [hforwarder] at htaken
    obtain ⟨before, message, heq, hbefore⟩ := htaken
    refine ⟨[message] ++ c.messageRx ++ c.unsent, ?_⟩
    rw [h.queued, h.texts, heq, List.filter_append, List.filter_eq_self.mpr hbefore]
    simp
  · exact ⟨c.messageRx, (h.queued_eq hforwarder).symm⟩

/-- **What the balancer reads from an agent.**  Whatever the tasks of the agent do, and whatever the
socket takes: the text frames are what was queued, in its order and without a gap, up to a message
the socket does not take; the queue starts with the one registration, and after the one
deregistration there are only responses. -/
theorem wire_grammar {name : Option String} {c : Connection ρ}
    (h : Reaches Connection.step Serializes (Connection.new name) c) :
    c.texts <+: c.queued ∧ (c.forwarder ≠ .ended true → c.queued = c.texts ++ c.messageRx) ∧
      (c.queued = [] ∨ Registered name c.queued ∨ Deregistered name c.queued) := by
  obtain ⟨hinv, hname⟩ := connectionInv_reaches h
  refine ⟨hinv.texts_prefix, hinv.queued_eq, ?_⟩
  have hat := hinv.queuedAt
  unfold QueuedAt at hat
  rw [hname] at hat
  split at hat
  · exact .inl hat
  · exact .inl hat
  · exact .inr (.inl hat)
  · exact .inr (.inl hat)
  all_goals
    rcases hat with hderegistered | ⟨hregistered, -, -⟩
    · exact .inr (.inr hderegistered)
    · exact .inr (.inl hregistered)

/-- **A shutdown leaves nothing behind.**  When the agent was shut down and its forwarding task
ended without a failed write, everything that was queued is on the socket, the deregistration with
it. -/
theorem shutdown_flushes {name : Option String} {c : Connection ρ}
    (h : Reaches Connection.step Serializes (Connection.new name) c)
    (hmain : c.mainTask = .joining false ∨ c.mainTask = .returned (some false))
    (hforwarder : c.forwarder = .ended false) : c.texts = c.queued ∧ Deregistered name c.texts := by
  obtain ⟨hinv, hname⟩ := connectionInv_reaches h
  have hnot : c.forwarder ≠ .ended true := by
    rw [hforwarder]
    exact fun heq => by cases heq
  have hreceives : c.receives = false := ConnectionInv.receives_of_ended hforwarder
  have htexts : c.texts = c.queued := by
    rw [hinv.queued_eq hnot, hinv.ended hreceives, List.append_nil]
  have hat := hinv.queuedAt
  unfold QueuedAt at hat
  rw [hname] at hat
  refine ⟨htexts, ?_⟩
  rw [htexts]
  rcases hmain with hmain | hmain
  · rw [hmain] at hat
    exact hat.resolve_right fun hright => hnot (hright.2.2 rfl)
  · rw [hmain] at hat
    exact hat.resolve_right fun hright => hnot (hright.2.2 rfl)

/-- A status that can be reported. -/
def freshSnapshot : SlotAggregatedStatusSnapshot :=
  { desiredSlotsTotal := 1
    downloadCurrent := 0
    downloadFilename := none
    downloadIndeterminate := true
    downloadTotal := 0
    issues := ∅
    modelPath := none
    slotsProcessing := 0
    slotsTotal := 0
    stateApplicationStatus := .fresh
    tokensPerSecond := 0
    usesChatTemplateOverride := false
    version := 0 }

/-- A response comes between the deregistration and the end of the forwarding task. -/
def shutdownRun : List (ConnectionInput Nat) :=
  [.register (.ok freshSnapshot), .forward true true, .respond "a" (.streamed 1), .ping [],
    .stopLooping, .forwardPong true, .deregister, .respond "a" (.streamed 2), .close, .observeClose,
    .forward true true, .forward true true, .forward true true, .forward true true, .join]

theorem shutdownRun_serializes (i : ConnectionInput Nat) (hi : i ∈ shutdownRun)
    (c : Connection Nat) :
    Serializes c i := by
  simp only [shutdownRun, List.mem_cons, List.not_mem_nil, or_false] at hi
  rcases hi with rfl | rfl | rfl | rfl | rfl | rfl | rfl | rfl | rfl | rfl | rfl | rfl | rfl | rfl | rfl <;>
    trivial

theorem wire_grammar_shutdown :
    let c := shutdownRun.foldl Connection.step (Connection.new (some "agent"))
    c.texts <+: c.queued ∧ (c.forwarder ≠ .ended true → c.queued = c.texts ++ c.messageRx) ∧
      (c.queued = [] ∨ Registered (some "agent") c.queued ∨ Deregistered (some "agent") c.queued) :=
  wire_grammar (Reaches.runs shutdownRun shutdownRun_serializes .start)

theorem shutdown_flushes_shutdown :
    let c := shutdownRun.foldl Connection.step (Connection.new (some "agent"))
    c.texts = c.queued ∧ Deregistered (some "agent") c.texts :=
  shutdown_flushes (Reaches.runs shutdownRun shutdownRun_serializes .start) (.inr rfl) rfl

end ManagementConnection

end Paddler
