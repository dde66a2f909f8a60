import Paddler.Agent.ManagementConnection
import Paddler.Library.AssocList
import Paddler.Library.VecUpdate

/-!
# An agent and its connections

Model of `management_socket_client_service.rs` over its whole life: `run` connects again whenever a
connection is over, and `generate_responses` registers a stopper for a request and spawns a task
that queues what the scheduler answers.  Such a task may outlive its connection; the stoppers
(`receive_stream_stopper_collection.rs`, `receive_stream_stopper_drop_guard.rs`) belong to the agent
and outlive them all.  `produced` and `forwarded` are history.

* `ManagementSocketClient.step` — one step of a connection, of the socket, of the scheduler or of
  such a task.
* `ClientInv` — what holds between any two steps; `clientInv_reaches`.
* `stoppers_exact` — **a stopper is registered exactly while its request is answered**, whatever
  becomes of the connections.
* `responses_in_order` — **what a socket carries under one id is what the scheduler answered**, one
  request after the other and each from its beginning.
-/

set_option autoImplicit false

namespace Paddler

open AssocList Run VecUpdate

namespace ManagementConnection

variable {ρ : Type}

/-! ## The service -/

/-- A request of the balancer, with the task that `generate_responses` spawned for it. -/
structure RequestTask (ρ : Type) where
  connection : Nat
  requestId : String
  responseRx : List ρ
  senderDropped : Bool
  running : Bool
  stopSignals : Nat
  produced : List ρ
  forwarded : List ρ
  deriving DecidableEq, Repr

/-- The agent, with all its connections and requests. -/
structure ManagementSocketClient (ρ : Type) where
  name : Option String
  connections : List (Connection ρ)
  tasks : List (RequestTask ρ)
  receiveStreamStoppers : List (String × Nat)

/-- What can happen next.  `requestSent`: the scheduler's channel took the request. -/
inductive ClientInput (ρ : Type) where
  | connect
  | connection (k : Nat) (input : ConnectionInput ρ)
  | request (k : Nat) (requestId : String) (requestSent : Bool)
  | stopRespondingTo (k : Nat) (requestId : String)
  | produce (j : Nat) (response : ρ)
  | dropSender (j : Nat)
  | forwardResponse (j : Nat)
  | endTask (j : Nat)

namespace RequestTask

/-- The key of the task in the stoppers. -/
def stopperKey (t : RequestTask ρ) : Option String := if t.running then some t.requestId else none

/-- A task that was just spawned. -/
def new (connection : Nat) (requestId : String) : RequestTask ρ :=
  ⟨connection, requestId, [], false, true, 0, [], []⟩

end RequestTask

namespace ManagementSocketClient

/-- A fresh agent. -/
def new (name : Option String) : ManagementSocketClient ρ := ⟨name, [], [], []⟩

/-- A step of a connection that is not about a request. -/
def ownStep : ConnectionInput ρ → Bool
  | .respond _ (.streamed _) => false
  | _ => true

/-- Every connection is over. -/
def disconnected (s : ManagementSocketClient ρ) : Bool :=
  s.connections.all fun c => match c.mainTask with
    | .returned _ => true
    | _ => false

/-- The main task of the connection takes messages from its socket. -/
def isLooping (s : ManagementSocketClient ρ) (k : Nat) : Bool :=
  match s.connections[k]? with
  | some c => c.mainTask == .looping
  | none => false

/-- `generate_responses`.  A request whose id has a stopper is refused; one the scheduler's channel
does not take drops its guard at once. -/
def generateResponses (s : ManagementSocketClient ρ) (k : Nat) (requestId : String)
    (requestSent : Bool) :
    ManagementSocketClient ρ :=
  match s.receiveStreamStoppers.lookup requestId with
  | some _ => s
  | none =>
    if requestSent then
      { s with
        tasks := s.tasks ++ [.new k requestId]
        receiveStreamStoppers := insertKey requestId s.tasks.length s.receiveStreamStoppers }
    else s

def stop (s : ManagementSocketClient ρ) (requestId : String) : ManagementSocketClient ρ :=
  match s.receiveStreamStoppers.lookup requestId with
  | none => s
  | some j =>
    match s.tasks[j]? with
    | none => s
    | some t => { s with tasks := s.tasks.set j { t with stopSignals := t.stopSignals + 1 } }

/-- The task ends: its receiver and its guard are dropped. -/
def endTask (s : ManagementSocketClient ρ) (j : Nat) (t : RequestTask ρ) :
    ManagementSocketClient ρ :=
  { s with
    tasks := s.tasks.set j { t with running := false, responseRx := [] }
    receiveStreamStoppers := eraseKey t.requestId s.receiveStreamStoppers }

/-- The task takes the next response and queues it; without a receiver it ends. -/
def forwardResponse (s : ManagementSocketClient ρ) (j : Nat) (t : RequestTask ρ) :
    ManagementSocketClient ρ :=
  match t.running, t.responseRx, s.connections[t.connection]? with
  | true, response :: rest, some c =>
    if c.receives then
      { s with
        connections := s.connections.set t.connection
          (c.step (.respond t.requestId (.streamed response)))
        tasks := s.tasks.set j
          { t with responseRx := rest, forwarded := t.forwarded ++ [response] } }
    else s.endTask j { t with responseRx := rest }
  | _, _, _ => s

/-- One step.  An input that is not enabled changes nothing. -/
def step (s : ManagementSocketClient ρ) : ClientInput ρ → ManagementSocketClient ρ
  | .connect => if s.disconnected then { s with connections := s.connections ++ [.new s.name] }
      else s
  | .connection k input =>
    match s.connections[k]? with
    | none => s
    | some c => if ownStep input then { s with connections := s.connections.set k (c.step input) }
        else s
  | .request k requestId requestSent =>
    if s.isLooping k then s.generateResponses k requestId requestSent else s
  | .stopRespondingTo k requestId => if s.isLooping k then s.stop requestId else s
  | .produce j response =>
    match s.tasks[j]? with
    | none => s
    | some t =>
      -- the scheduler sends into a channel whose receiver the task has dropped
      if t.running && !t.senderDropped then
        { s with
          tasks := s.tasks.set j { t with
            responseRx := t.responseRx ++ [response]
            produced := t.produced ++ [response] } }
      else s
  | .dropSender j =>
    match s.tasks[j]? with
    | none => s
    | some t => { s with tasks := s.tasks.set j { t with senderDropped := true } }
  | .forwardResponse j =>
    match s.tasks[j]? with
    | none => s
    | some t => s.forwardResponse j t
  | .endTask j =>
    match s.tasks[j]? with
    | none => s
    | some t =>
      match s.connections[t.connection]? with
      | none => s
      | some c =>
        if t.running && (c.connectionClose || t.senderDropped && t.responseRx.isEmpty) then s.endTask j t else s

/-- What was asked for over a connection under an id, in order. -/
def generations (s : ManagementSocketClient ρ) (k : Nat) (requestId : String) :
    List (RequestTask ρ) :=
  s.tasks.filter fun t => t.connection == k && t.requestId == requestId

end ManagementSocketClient

/-- What a message carries for a request. -/
def ManagementMessage.streamedFor (requestId : String) : ManagementMessage ρ → Option ρ
  | .response id (.streamed value) => if id = requestId then some value else none
  | _ => none

/-! ## Steps of a connection -/

/-- The main task has registered. -/
def HasRegistered (mainTask : MainTask) : Prop := mainTask ≠ .registering ∧
    mainTask ≠ .returned none

/-- What a connection does not take back. -/
structure Onward (c c' : Connection ρ) : Prop where
  registered : HasRegistered c.mainTask → HasRegistered c'.mainTask
  closed : c.connectionClose = true → c'.connectionClose = true
  ended : c.receives = false → c'.receives = false

namespace Onward

variable {c c' : Connection ρ}

theorem refl (c : Connection ρ) : Onward c c := ⟨id, id, id⟩

theorem send (c : Connection ρ) (message : ManagementMessage ρ) : Onward c (c.send message) := by
  unfold Connection.send
  split
  · exact ⟨id, id, id⟩
  · exact refl c

/-- The main task moves to a place after its registration. -/
theorem move (h : Onward c c') {mainTask : MainTask} (hmain : HasRegistered mainTask) :
    Onward c { c' with mainTask := mainTask } :=
  ⟨fun _ => hmain, h.closed, h.ended⟩

theorem close (h : Onward c c') : Onward c { c' with connectionClose := true } :=
  ⟨h.registered, fun _ => rfl, h.ended⟩

theorem endForwarder (c : Connection ρ) (writeFailed : Bool) :
    Onward c (c.endForwarder writeFailed) :=
  ⟨id, id, fun _ => rfl⟩

theorem take (c : Connection ρ) (message : ManagementMessage ρ) (rest : List (ManagementMessage ρ))
    (serialized written : Bool) : Onward c (c.take message rest serialized written) := by
  cases serialized <;> cases written
  · exact ⟨id, id, id⟩
  · exact ⟨id, id, id⟩
  · exact ⟨id, id, fun _ => rfl⟩
  · exact ⟨id, id, id⟩

theorem step (c : Connection ρ) (i : ConnectionInput ρ) : Onward c (c.step i) := by
  have hregistered : ∀ readEnded, HasRegistered (.deregistering readEnded) ∧
      HasRegistered (.closing readEnded) ∧
      HasRegistered (.joining readEnded) ∧ HasRegistered (.returned (some readEnded)) := by
    intro readEnded
    simp [HasRegistered]
  cases i with
  | register snapshot =>
    simp only [Connection.step]
    split
    · exact (send c _).move (by simp [HasRegistered])
    · rename_i hmain
      exact ⟨fun h => absurd hmain h.1, id, id⟩
    · exact refl c
  | statusUpdate snapshot =>
    simp only [Connection.step]
    split
    · exact send c _
    · exact refl c
  | respond requestId response =>
    simp only [Connection.step]
    split
    · exact refl c
    · exact refl c
    · exact send c _
  | ping payload =>
    simp only [Connection.step]
    split
    · split
      · exact ⟨id, id, id⟩
      · exact refl c
    · exact refl c
  | stopLooping =>
    simp only [Connection.step]
    split
    · exact (refl c).move (hregistered false).1
    · exact refl c
  | readEnd =>
    simp only [Connection.step]
    split
    · exact (refl c).close.move (hregistered true).1
    · exact refl c
  | deregister =>
    simp only [Connection.step]
    split
    · exact (send c _).move (hregistered _).2.1
    · exact refl c
  | close =>
    simp only [Connection.step]
    split
    · exact (refl c).close.move (hregistered _).2.2.1
    · exact refl c
  | forward serialized written =>
    simp only [Connection.step]
    split
    · exact take c _ _ serialized written
    · exact take c _ _ serialized written
    · exact endForwarder c false
    · exact refl c
  | forwardPong written =>
    simp only [Connection.step]
    split
    · exact ⟨id, id, id⟩
    · exact refl c
  | observeClose =>
    simp only [Connection.step]
    split
    · rename_i hforwarder
      split
      · refine ⟨id, id, fun hended => ?_⟩
        unfold Connection.receives at hended
        rw [hforwarder] at hended
        cases hended
      · exact refl c
    · exact refl c
  | channelClosed =>
    simp only [Connection.step]
    split
    · exact endForwarder c false
    · exact refl c
  | join =>
    simp only [Connection.step]
    split
    · exact (refl c).move (hregistered _).2.2.2
    · exact refl c

end Onward

theorem send_queued (c : Connection ρ) (message : ManagementMessage ρ) :
    (c.send message).queued = c.queued ∨ (c.send message).queued = c.queued ++ [message] := by
  unfold Connection.send
  split
  · exact .inr rfl
  · exact .inl rfl

/-- The connection's own steps queue nothing for a request. -/
theorem ownStep_streamedFor {c : Connection ρ} {i : ConnectionInput ρ}
    (h : ManagementSocketClient.ownStep i = true) (requestId : String) :
    (c.step i).queued.filterMap (ManagementMessage.streamedFor requestId) =
      c.queued.filterMap (ManagementMessage.streamedFor requestId) := by
  have hsend : ∀ message : ManagementMessage ρ, message.streamedFor requestId = none →
      (c.send message).queued.filterMap (ManagementMessage.streamedFor requestId) =
        c.queued.filterMap (ManagementMessage.streamedFor requestId) := by
    intro message hmessage
    rcases send_queued c message with hsame | hnew
    · rw [hsame]
    · rw [hnew, List.filterMap_append]
      simp [hmessage]
  have htake : ∀ (message : ManagementMessage ρ) (rest : List (ManagementMessage ρ)) (serialized written : Bool),
      (c.take message rest serialized written).queued = c.queued := by
    intro message rest serialized written
    cases serialized <;> cases written <;> rfl
  cases i with
  | register snapshot =>
    simp only [Connection.step]
    split
    · exact hsend _ rfl
    · rfl
    · rfl
  | statusUpdate snapshot =>
    simp only [Connection.step]
    split
    · exact hsend _ rfl
    · rfl
  | respond id response =>
    simp only [Connection.step]
    split
    · rfl
    · rfl
    · cases response with
      | streamed value => cases h
      | chatTemplateOverride chatTemplate => exact hsend _ rfl
      | modelMetadata modelMetadata => exact hsend _ rfl
  | ping payload =>
    simp only [Connection.step]
    split
    · split <;> rfl
    · rfl
  | deregister =>
    simp only [Connection.step]
    split
    · exact hsend _ rfl
    · rfl
  | forward serialized written =>
    simp only [Connection.step]
    split
    · rw [htake]
    · rw [htake]
    · rfl
    · rfl
  | stopLooping => simp only [Connection.step]; split <;> rfl
  | readEnd => simp only [Connection.step]; split <;> rfl
  | close => simp only [Connection.step]; split <;> rfl
  | forwardPong written => simp only [Connection.step]; split <;> rfl
  | observeClose =>
    simp only [Connection.step]
    split
    · split <;> rfl
    · rfl
  | channelClosed => simp only [Connection.step]; split <;> rfl
  | join => simp only [Connection.step]; split <;> rfl

/-- A response of a request that the channel takes is queued last. -/
theorem respond_queued {c : Connection ρ} (h : HasRegistered c.mainTask)
    (hreceives : c.receives = true) (requestId : String) (response : AgentResponse ρ) :
    (c.step (.respond requestId response)).queued = c.queued ++ [.response requestId response] := by
  simp only [Connection.step]
  split
  · rename_i hmain
    exact absurd hmain h.1
  · rename_i hmain
    exact absurd hmain h.2
  · unfold Connection.send
    rw [hreceives]
    rfl

theorem isLooping_spec {s : ManagementSocketClient ρ} {k : Nat} (h : s.isLooping k = true) :
    ∃ c, s.connections[k]? = some c ∧ c.mainTask = .looping := by
  unfold ManagementSocketClient.isLooping at h
  split at h
  · rename_i c hc
    exact ⟨c, hc, beq_iff_eq.mp h⟩
  · cases h

/-! ## The invariant -/

/-- The socket of the task still takes what it queues. -/
def Open (c : Connection ρ) : Prop := c.connectionClose = false ∧ c.receives = true

/-- **What holds between any two steps.** -/
structure ClientInv (s : ManagementSocketClient ρ) : Prop where
  connected : ∀ (j : Nat) (t : RequestTask ρ), s.tasks[j]? = some t →
    ∃ c, s.connections[t.connection]? = some c ∧ HasRegistered c.mainTask ∧
      (t.running = false → Open c → t.forwarded = t.produced)
  stoppers : Owned s.receiveStreamStoppers (heldBy RequestTask.stopperKey s.tasks)
  latest : ∀ (i j : Nat) (t t' : RequestTask ρ), i < j → s.tasks[i]? = some t →
    s.tasks[j]? = some t' →
    t.requestId = t'.requestId → t.running = false
  produced : ∀ (j : Nat) (t : RequestTask ρ), s.tasks[j]? = some t →
    t.forwarded <+: t.produced ∧ (t.running = true → t.produced = t.forwarded ++ t.responseRx)
  streamed : ∀ (k : Nat) (c : Connection ρ), s.connections[k]? = some c → ∀ requestId,
    c.queued.filterMap (ManagementMessage.streamedFor requestId) =
      (s.generations k requestId).flatMap (·.forwarded)

theorem Onward.open {c c' : Connection ρ} (h : Onward c c') (hopen : Open c') : Open c := by
  constructor
  · cases hclosed : c.connectionClose with
    | false => rfl
    | true => exact absurd (h.closed hclosed) (by rw [hopen.1]; exact Bool.false_ne_true)
  · cases hended : c.receives with
    | true => rfl
    | false => exact absurd (h.ended hended) (by rw [hopen.2]; exact Bool.noConfusion)

/-! ## What one step keeps -/

namespace ClientInv

variable {s : ManagementSocketClient ρ}

theorem new (name : Option String) :
    ClientInv (ManagementSocketClient.new name : ManagementSocketClient ρ) where
  connected := fun j t ht => by cases ht
  stoppers := fun key owner => by simp [ManagementSocketClient.new, heldBy]
  latest := fun i j t t' _ ht => by cases ht
  produced := fun j t ht => by cases ht
  streamed := fun k c hc => by cases hc

theorem connect (h : ClientInv s) :
    ClientInv { s with connections := s.connections ++ [.new s.name] } where
  connected := fun j t ht => exists_getElem?_push (h.connected j t ht)
  stoppers := h.stoppers
  latest := h.latest
  produced := h.produced
  streamed := by
    intro k c hc requestId
    rcases getElem?_push_cases hc with hold | ⟨rfl, rfl⟩
    · exact h.streamed k c hold requestId
    · -- no task has come over a connection that was not there
      have hnone : s.generations s.connections.length requestId = [] := by
        refine List.filter_eq_nil_iff.mpr fun t ht htrue => ?_
        obtain ⟨j, hj⟩ := List.getElem?_of_mem ht
        obtain ⟨c, hc, -⟩ := h.connected j t hj
        have hlt := (List.getElem?_eq_some_iff.mp hc).1
        simp only [Bool.and_eq_true, beq_iff_eq] at htrue
        omega
      show ([] : List ρ) = (s.generations s.connections.length requestId).flatMap _
      rw [hnone]
      rfl

/-- The task of a connection after a step of the connection. -/
theorem connected_step (h : ClientInv s) {k : Nat} {c : Connection ρ}
    (hc : s.connections[k]? = some c) (i : ConnectionInput ρ) (j : Nat) (t : RequestTask ρ)
    (ht : s.tasks[j]? = some t) :
    ∃ c', (s.connections.set k (c.step i))[t.connection]? = some c' ∧ HasRegistered c'.mainTask ∧
      (t.running = false → Open c' → t.forwarded = t.produced) := by
  have honward := Onward.step c i
  exact exists_getElem?_set hc
    (fun hat => ⟨honward.registered hat.1, fun hended hopen => hat.2 hended (honward.open hopen)⟩)
    (fun c' hat => hat) (h.connected j t ht)

theorem connection (h : ClientInv s) {k : Nat} {c : Connection ρ} (hc : s.connections[k]? = some c)
    {i : ConnectionInput ρ} (hown : ManagementSocketClient.ownStep i = true) :
    ClientInv { s with connections := s.connections.set k (c.step i) } where
  connected := h.connected_step hc i
  stoppers := h.stoppers
  latest := h.latest
  produced := h.produced
  streamed := by
    intro k' c' hc' requestId
    rcases getElem?_set_cases hc' with ⟨rfl, rfl⟩ | ⟨-, hold⟩
    · rw [ownStep_streamedFor hown]
      exact h.streamed _ c hc requestId
    · exact h.streamed k' c' hold requestId

/-- A task after a step of its own. -/
structure SameRequest (t t' : RequestTask ρ) : Prop where
  connection : t'.connection = t.connection
  requestId : t'.requestId = t.requestId
  running : t'.running = true → t.running = true

theorem latest_set (h : ClientInv s) {j : Nat} {t t' : RequestTask ρ} (ht : s.tasks[j]? = some t)
    (hsame : SameRequest t t') (i i' : Nat) (u u' : RequestTask ρ) (hlt : i < i')
    (hu : (s.tasks.set j t')[i]? = some u) (hu' : (s.tasks.set j t')[i']? = some u')
    (hid : u.requestId = u'.requestId) : u.running = false := by
  rcases getElem?_set_cases hu with ⟨rfl, rfl⟩ | ⟨-, hold⟩ <;>
    rcases getElem?_set_cases hu' with ⟨rfl, rfl⟩ | ⟨-, hold'⟩
  · exact absurd hlt (Nat.lt_irrefl _)
  · have hstopped := h.latest _ _ t u' hlt ht hold' (hsame.requestId.symm.trans hid)
    cases hrunning : u.running with
    | false => rfl
    | true =>
      rw [hsame.running hrunning] at hstopped
      cases hstopped
  · exact h.latest _ _ u t hlt hold ht (hid.trans hsame.requestId)
  · exact h.latest _ _ u u' hlt hold hold' hid

theorem task (h : ClientInv s) {j : Nat} {t t' : RequestTask ρ} (ht : s.tasks[j]? = some t)
    (hsame : SameRequest t t') (hforwarded : t'.forwarded = t.forwarded)
    (hproduced : t'.forwarded <+: t'.produced ∧
      (t'.running = true → t'.produced = t'.forwarded ++ t'.responseRx))
    (hended : ∀ c, s.connections[t.connection]? = some c → t'.running = false → Open c →
      t'.forwarded = t'.produced)
    {stoppers : List (String × Nat)}
    (hstoppers : Owned stoppers (heldBy RequestTask.stopperKey (s.tasks.set j t'))) :
    ClientInv { s with tasks := s.tasks.set j t', receiveStreamStoppers := stoppers } where
  connected := by
    intro i u hu
    rcases getElem?_set_cases hu with ⟨-, rfl⟩ | ⟨-, hold⟩
    · rw [hsame.connection]
      obtain ⟨c, hc, hregistered, -⟩ := h.connected j t ht
      exact ⟨c, hc, hregistered, hended c hc⟩
    · exact h.connected i u hold
  stoppers := hstoppers
  latest := h.latest_set ht hsame
  produced := by
    intro i u hu
    rcases getElem?_set_cases hu with ⟨-, rfl⟩ | ⟨-, hold⟩
    · exact hproduced
    · exact h.produced i u hold
  streamed := by
    intro k c hc requestId
    refine (h.streamed k c hc requestId).trans (flatMap_filter_set_same ht ?_ hforwarded).symm
    rw [hsame.connection, hsame.requestId]

theorem stoppers_keep (h : ClientInv s) {j : Nat} {t t' : RequestTask ρ} (ht : s.tasks[j]? = some t)
    (hrequestId : t'.requestId = t.requestId) (hrunning : t'.running = t.running) :
    Owned s.receiveStreamStoppers (heldBy RequestTask.stopperKey (s.tasks.set j t')) := by
  refine h.stoppers.keep ht ?_
  unfold RequestTask.stopperKey
  rw [hrequestId, hrunning]

theorem delivered (h : ClientInv s) {j : Nat} {t : RequestTask ρ} (ht : s.tasks[j]? = some t)
    (c : Connection ρ) (hc : s.connections[t.connection]? = some c) :
    t.running = false → Open c → t.forwarded = t.produced := by
  obtain ⟨c', hc', -, hdelivered⟩ := h.connected j t ht
  cases hc.symm.trans hc'
  exact hdelivered

theorem stop (h : ClientInv s) (requestId : String) : ClientInv (s.stop requestId) := by
  unfold ManagementSocketClient.stop
  split
  · exact h
  · rename_i j hlookup
    split
    · exact h
    · rename_i t ht
      have hsame : SameRequest t { t with stopSignals := t.stopSignals + 1 } := ⟨rfl, rfl, id⟩
      exact h.task ht hsame rfl (h.produced j t ht) (h.delivered ht) (h.stoppers_keep ht rfl rfl)

/-- A task ends with everything queued, or without its socket. -/
theorem endTask (h : ClientInv s) {j : Nat} {t : RequestTask ρ} (ht : s.tasks[j]? = some t)
    (hrunning : t.running = true)
    (hended : ∀ c, s.connections[t.connection]? = some c → Open c → t.forwarded = t.produced)
    (responseRx : List ρ) : ClientInv (s.endTask j { t with responseRx := responseRx }) := by
  have hsame : SameRequest t { t with running := false, responseRx := [] } :=
    ⟨rfl, rfl, fun hfalse => by cases hfalse⟩
  refine h.task ht hsame rfl ⟨(h.produced j t ht).1, fun hfalse => by cases hfalse⟩
    (fun c hc _ hopen => hended c hc hopen) ?_
  refine h.stoppers.release ht ?_ rfl
  unfold RequestTask.stopperKey
  rw [hrunning]
  rfl

/-- A new task is the first of its id, or those before it have ended. -/
theorem request (h : ClientInv s) {k : Nat} {c : Connection ρ} (hc : s.connections[k]? = some c)
    (hlooping : c.mainTask = .looping) (requestId : String) (requestSent : Bool) :
    ClientInv (s.generateResponses k requestId requestSent) := by
  unfold ManagementSocketClient.generateResponses
  split
  · exact h
  · rename_i hfree
    cases requestSent with
    | false => exact h
    | true =>
      rw [if_pos rfl]
      have hregistered : HasRegistered c.mainTask := by
        rw [hlooping]
        exact ⟨MainTask.noConfusion, MainTask.noConfusion⟩
      refine
        { connected := ?_
          stoppers := h.stoppers.push_register hfree rfl
          latest := ?_
          produced := ?_
          streamed := ?_ }
      · intro j t ht
        rcases getElem?_push_cases ht with hold | ⟨-, rfl⟩
        · exact h.connected j t hold
        · exact ⟨c, hc, hregistered, fun hfalse => by cases hfalse⟩
      · intro i j t t' hlt ht ht' hid
        rcases getElem?_push_cases ht' with hold' | ⟨rfl, rfl⟩
        · have hold := getElem?_push_cases ht
          rcases hold with hold | ⟨rfl, -⟩
          · exact h.latest i j t t' hlt hold hold' hid
          · have hj := (List.getElem?_eq_some_iff.mp hold').1
            omega
        · rcases getElem?_push_cases ht with hold | ⟨rfl, -⟩
          · -- a task that runs would have the stopper
            cases hrunning : t.running with
            | false => rfl
            | true =>
              have hheld := h.stoppers.free_iff.mp hfree i
              rw [heldBy_of_getElem? hold] at hheld
              refine absurd ?_ hheld
              unfold RequestTask.stopperKey
              rw [hrunning, hid]
              rfl
          · exact absurd hlt (Nat.lt_irrefl _)
      · intro j t ht
        rcases getElem?_push_cases ht with hold | ⟨-, rfl⟩
        · exact h.produced j t hold
        · exact ⟨List.prefix_refl _, fun _ => rfl⟩
      · intro k' c' hc' id
        refine (h.streamed k' c' hc' id).trans ?_
        unfold ManagementSocketClient.generations
        rw [List.filter_append, List.flatMap_append]
        have hnew : ([RequestTask.new k requestId].filter fun t : RequestTask ρ =>
            t.connection == k' && t.requestId == id).flatMap (·.forwarded) = [] := by
          rw [List.filter_singleton]
          cases (RequestTask.new k requestId : RequestTask ρ).connection == k' &&
            (RequestTask.new k requestId : RequestTask ρ).requestId == id <;> rfl
        rw [hnew, List.append_nil]

theorem forwardResponse (h : ClientInv s) {j : Nat} {t : RequestTask ρ}
    (ht : s.tasks[j]? = some t) :
    ClientInv (s.forwardResponse j t) := by
  unfold ManagementSocketClient.forwardResponse
  split
  · rename_i response rest c hrunning hrx hc
    obtain ⟨c', hc', hregistered, -⟩ := h.connected j t ht
    cases hc.symm.trans hc'
    cases hreceives : c.receives with
    | false =>
      refine h.endTask ht hrunning (fun c' hc' hopen => ?_) rest
      cases hc.symm.trans hc'
      rw [hopen.2] at hreceives
      cases hreceives
    | true =>
      rw [if_pos rfl]
      have hqueued := respond_queued hregistered hreceives t.requestId (.streamed response)
      have hsame : SameRequest t
          { t with responseRx := rest, forwarded := t.forwarded ++ [response] } :=
        ⟨rfl, rfl, id⟩
      obtain ⟨-, hleft⟩ := h.produced j t ht
      have hproduced : t.produced = t.forwarded ++ [response] ++ rest := by
        rw [hleft hrunning, hrx, List.append_assoc]
        rfl
      refine
        { connected := ?_
          stoppers := h.stoppers_keep ht rfl rfl
          latest := h.latest_set ht hsame
          produced := ?_
          streamed := ?_ }
      · intro i u hu
        rcases getElem?_set_cases hu with ⟨-, rfl⟩ | ⟨-, hold⟩
        · obtain ⟨hlt, -⟩ := List.getElem?_eq_some_iff.mp hc
          exact ⟨_, List.getElem?_set_self hlt, (Onward.step c _).registered hregistered,
            fun hfalse => by
            rw [hrunning] at hfalse
            cases hfalse⟩
        · exact h.connected_step hc _ i u hold
      · intro i u hu
        rcases getElem?_set_cases hu with ⟨-, rfl⟩ | ⟨-, hold⟩
        · exact ⟨⟨rest, hproduced.symm⟩, fun _ => hproduced⟩
        · exact h.produced i u hold
      · intro k c' hc' requestId
        rcases getElem?_set_cases hc' with ⟨rfl, rfl⟩ | ⟨hne, hold⟩
        · rw [hqueued, List.filterMap_append]
          by_cases hid : t.requestId = requestId
          · -- the task is the last of its id: those after it would have found its stopper
            have hlast : ∀ i u, j < i → s.tasks[i]? = some u →
                (u.connection == t.connection && u.requestId == requestId) = false := by
              intro i u hlt hu
              refine Bool.eq_false_iff.mpr fun htrue => ?_
              simp only [Bool.and_eq_true, beq_iff_eq] at htrue
              have hstopped := h.latest j i t u hlt ht hu (hid.trans htrue.2.symm)
              rw [hrunning] at hstopped
              cases hstopped
            have hself : (t.connection == t.connection && t.requestId == requestId) =
                true := by simp [hid]
            have hgrown : (s.tasks.set j
                { t with responseRx := rest, forwarded := t.forwarded ++ [response] } |>.filter
                  fun u => u.connection == t.connection && u.requestId == requestId).flatMap
                  (·.forwarded) = (s.generations t.connection requestId).flatMap (·.forwarded) ++
                    [response] :=
              flatMap_filter_set_last ht hself hself rfl hlast
            refine Eq.trans ?_ hgrown.symm
            rw [← h.streamed _ c hc requestId]
            simp [ManagementMessage.streamedFor, hid]
          · have hother : (t.connection == t.connection && t.requestId == requestId) =
                false := by simp [hid]
            have hsame : (s.tasks.set j
                { t with responseRx := rest, forwarded := t.forwarded ++ [response] } |>.filter
                  fun u => u.connection == t.connection && u.requestId == requestId) =
                  s.generations t.connection requestId := filter_set_neither ht hother hother
            refine Eq.trans ?_ (congrArg (List.flatMap (·.forwarded)) hsame).symm
            rw [← h.streamed _ c hc requestId]
            simp [ManagementMessage.streamedFor, hid]
        · have hother : (t.connection == k && t.requestId == requestId) = false := by
            simp [Ne.symm hne]
          have hsame : (s.tasks.set j
              { t with responseRx := rest, forwarded := t.forwarded ++ [response] } |>.filter
                fun u => u.connection == k && u.requestId == requestId) =
                s.generations k requestId := filter_set_neither ht hother hother
          exact (h.streamed k c' hold requestId).trans
            (congrArg (List.flatMap (·.forwarded)) hsame).symm
  · exact h

theorem step (h : ClientInv s) (i : ClientInput ρ) : ClientInv (s.step i) := by
  cases i with
  | connect =>
    simp only [ManagementSocketClient.step]
    split
    · exact h.connect
    · exact h
  | connection k input =>
    simp only [ManagementSocketClient.step]
    split
    · exact h
    · rename_i c hc
      split
      · rename_i hown
        exact h.connection hc hown
      · exact h
  | request k requestId requestSent =>
    simp only [ManagementSocketClient.step]
    split
    · rename_i hlooping
      obtain ⟨c, hc, hmain⟩ := isLooping_spec hlooping
      exact h.request hc hmain requestId requestSent
    · exact h
  | stopRespondingTo k requestId =>
    simp only [ManagementSocketClient.step]
    split
    · exact h.stop requestId
    · exact h
  | produce j response =>
    simp only [ManagementSocketClient.step]
    split
    · exact h
    · rename_i t ht
      split
      · rename_i hsends
        obtain ⟨hrunning, -⟩ := Bool.and_eq_true_iff.mp hsends
        obtain ⟨hstored, hleft⟩ := h.produced j t ht
        have hsame : SameRequest t
            { t with responseRx := t.responseRx ++ [response], produced := t.produced ++ [response] } :=
          ⟨rfl, rfl, id⟩
        refine h.task ht hsame rfl ⟨hstored.trans (List.prefix_append _ _), fun _ => ?_⟩
          (fun c _ hfalse => ?_)
          (h.stoppers_keep ht rfl rfl)
        · show t.produced ++ [response] = t.forwarded ++ (t.responseRx ++ [response])
          rw [hleft hrunning, List.append_assoc]
        · rw [hrunning] at hfalse
          cases hfalse
      · exact h
  | dropSender j =>
    simp only [ManagementSocketClient.step]
    split
    · exact h
    · rename_i t ht
      have hsame : SameRequest t { t with senderDropped := true } := ⟨rfl, rfl, id⟩
      exact h.task ht hsame rfl (h.produced j t ht) (h.delivered ht) (h.stoppers_keep ht rfl rfl)
  | forwardResponse j =>
    simp only [ManagementSocketClient.step]
    split
    · exact h
    · rename_i t ht
      exact h.forwardResponse ht
  | endTask j =>
    simp only [ManagementSocketClient.step]
    split
    · exact h
    · rename_i t ht
      split
      · exact h
      · rename_i c hc
        split
        · rename_i hends
          obtain ⟨hrunning, hover⟩ := Bool.and_eq_true_iff.mp hends
          refine h.endTask ht hrunning (fun c' hc' hopen => ?_) t.responseRx
          cases hc.symm.trans hc'
          -- the scheduler is done, and the task has taken everything
          rw [hopen.1, Bool.false_or, Bool.and_eq_true, List.isEmpty_iff] at hover
          rw [(h.produced j t ht).2 hrunning, hover.2, List.append_nil]
        · exact h

end ClientInv

/-! ## Every run -/

theorem clientInv_reaches {name : Option String}
    {guard : ManagementSocketClient ρ → ClientInput ρ → Prop} {s : ManagementSocketClient ρ}
    (h : Reaches ManagementSocketClient.step guard (.new name) s) : ClientInv s :=
  h.invariant ClientInv (.new name) fun _ i _ hs _ => hs.step i

/-- The messages of the agent serialize. -/
def ClientInput.serializes : ClientInput ρ → Bool
  | .connection _ (.forward serialized _) => serialized
  | _ => true

def AllSerialize (_ : ManagementSocketClient ρ) (i : ClientInput ρ) : Prop := i.serializes = true

/-- Every connection is a run of its own. -/
def ConnectionsReach (name : Option String) (s : ManagementSocketClient ρ) : Prop :=
  s.name = name ∧ ∀ (k : Nat) (c : Connection ρ), s.connections[k]? = some c →
    Reaches Connection.step Serializes (Connection.new name) c

namespace ConnectionsReach

variable {name : Option String} {s s' : ManagementSocketClient ρ}

theorem keep (h : ConnectionsReach name s) (hname : s'.name = s.name)
    (hconnections : s'.connections = s.connections) :
    ConnectionsReach name s' := by
  unfold ConnectionsReach
  rw [hname, hconnections]
  exact h

theorem set (h : ConnectionsReach name s) {k : Nat} {c : Connection ρ}
    (hc : s.connections[k]? = some c) {i : ConnectionInput ρ} (hi : Serializes c i)
    (hname : s'.name = s.name) (hconnections : s'.connections = s.connections.set k (c.step i)) :
    ConnectionsReach name s' := by
  refine ⟨hname.trans h.1, fun k' c' hc' => ?_⟩
  rw [hconnections] at hc'
  rcases getElem?_set_cases hc' with ⟨-, rfl⟩ | ⟨-, hold⟩
  · exact .next (h.2 k c hc) hi
  · exact h.2 k' c' hold

theorem step (h : ConnectionsReach name s) {i : ClientInput ρ} (hi : AllSerialize s i) :
    ConnectionsReach name (s.step i) := by
  cases i with
  | connect =>
    simp only [ManagementSocketClient.step]
    split
    · refine ⟨h.1, fun k c hc => ?_⟩
      rcases getElem?_push_cases hc with hold | ⟨-, rfl⟩
      · exact h.2 k c hold
      · rw [h.1]
        exact .start
    · exact h
  | connection k input =>
    simp only [ManagementSocketClient.step]
    split
    · exact h
    · rename_i c hc
      split
      · refine h.set hc ?_ rfl rfl
        cases input with
        | forward serialized written => exact hi
        | _ => trivial
      · exact h
  | request k requestId requestSent =>
    simp only [ManagementSocketClient.step]
    split
    · unfold ManagementSocketClient.generateResponses
      split
      · exact h
      · cases requestSent
        · exact h
        · exact h.keep rfl rfl
    · exact h
  | stopRespondingTo k requestId =>
    simp only [ManagementSocketClient.step]
    split
    · unfold ManagementSocketClient.stop
      split
      · exact h
      · split
        · exact h
        · exact h.keep rfl rfl
    · exact h
  | produce j response =>
    simp only [ManagementSocketClient.step]
    split
    · exact h
    · split
      · exact h.keep rfl rfl
      · exact h
  | dropSender j =>
    simp only [ManagementSocketClient.step]
    split
    · exact h
    · exact h.keep rfl rfl
  | forwardResponse j =>
    simp only [ManagementSocketClient.step]
    split
    · exact h
    · unfold ManagementSocketClient.forwardResponse
      split
      · rename_i hc
        split
        · refine h.set hc (i := .respond _ (.streamed _)) ?_ rfl rfl
          trivial
        · exact h.keep rfl rfl
      · exact h
  | endTask j =>
    simp only [ManagementSocketClient.step]
    split
    · exact h
    · split
      · exact h
      · split
        · exact h.keep rfl rfl
        · exact h

end ConnectionsReach

theorem connectionsReach_reaches {name : Option String} {s : ManagementSocketClient ρ}
    (h : Reaches ManagementSocketClient.step AllSerialize (.new name) s) :
    ConnectionsReach name s :=
  h.invariant (ConnectionsReach name) ⟨rfl, fun k c hc => by cases hc⟩ fun _ _ _ hs hi => hs.step hi

theorem ClientInv.stop_tasks {s : ManagementSocketClient ρ} (h : ClientInv s)
    (requestId : String) (i : Nat) :
    (s.stop requestId).tasks[i]? = s.tasks[i]?.map fun t =>
      if t.stopperKey = some requestId then { t with stopSignals := t.stopSignals + 1 } else t := by
  have hkept : (∀ t, s.tasks[i]? = some t → t.stopperKey ≠ some requestId) →
      s.tasks[i]? = s.tasks[i]?.map fun t =>
      if t.stopperKey = some requestId then { t with stopSignals := t.stopSignals + 1 } else t := by
    intro hother
    cases hi : s.tasks[i]? with
    | none => rfl
    | some t => rw [Option.map_some, if_neg (hother t hi)]
  unfold ManagementSocketClient.stop
  split
  · rename_i hnone
    refine hkept fun t ht hheld => ?_
    exact h.stoppers.free_iff.mp hnone i ((heldBy_of_getElem? ht).trans hheld)
  · rename_i j hlookup
    obtain ⟨t, ht, hheld⟩ := heldBy_eq_some ((h.stoppers requestId j).mp hlookup)
    rw [ht]
    by_cases hi : i = j
    · subst hi
      obtain ⟨hlt, -⟩ := List.getElem?_eq_some_iff.mp ht
      rw [ht, Option.map_some, if_pos hheld]
      exact List.getElem?_set_self hlt
    · refine (List.getElem?_set_ne (Ne.symm hi)).trans (hkept fun u hu hother => hi ?_)
      exact h.stoppers.unique ((heldBy_of_getElem? hu).trans hother)
        ((heldBy_of_getElem? ht).trans hheld)

theorem stopperKey_eq_some {t : RequestTask ρ} {requestId : String} :
    t.stopperKey = some requestId ↔ t.running = true ∧ t.requestId = requestId := by
  unfold RequestTask.stopperKey
  split
  · rename_i hrunning
    simp [hrunning]
  · rename_i hrunning
    simp [hrunning]

/-- **Stoppers and running requests are the same.**  However often the agent has connected anew, a
stopper is registered under an id exactly for the one task that still answers it, so that a request
is refused if and only if one with its id is being answered, and a `StopRespondingTo` over any
connection reaches that task and no other. -/
theorem stoppers_exact {name : Option String} {s : ManagementSocketClient ρ}
    (h : Reaches ManagementSocketClient.step (fun _ _ => True) (.new name) s) (requestId : String) :
    (∀ j, s.receiveStreamStoppers.lookup requestId = some j ↔
      ∃ t, s.tasks[j]? = some t ∧ t.running = true ∧ t.requestId = requestId) ∧
    (∀ k, s.isLooping k = true → (s.step (.request k requestId true) = s ↔
      ∃ t ∈ s.tasks, t.running = true ∧ t.requestId = requestId)) ∧
    (∀ k, s.isLooping k = true → ∀ j : Nat, (s.step (.stopRespondingTo k requestId)).tasks[j]? =
      s.tasks[j]?.map fun t : RequestTask ρ =>
        if t.running = true ∧ t.requestId = requestId then { t with stopSignals := t.stopSignals + 1 } else t) := by
  have hinv := clientInv_reaches h
  have hexact : ∀ j, s.receiveStreamStoppers.lookup requestId = some j ↔
      ∃ t, s.tasks[j]? = some t ∧ t.running = true ∧ t.requestId = requestId := by
    intro j
    rw [hinv.stoppers requestId j]
    constructor
    · intro hheld
      obtain ⟨t, ht, hkey⟩ := heldBy_eq_some hheld
      exact ⟨t, ht, stopperKey_eq_some.mp hkey⟩
    · rintro ⟨t, ht, hrunning⟩
      exact (heldBy_of_getElem? ht).trans (stopperKey_eq_some.mpr hrunning)
  refine ⟨hexact, fun k hlooping => ?_, fun k hlooping j => ?_⟩
  · have hstep : s.step (.request k requestId true) = s.generateResponses k requestId true := by
      simp only [ManagementSocketClient.step, hlooping, if_true]
    rw [hstep]
    cases hlookup : s.receiveStreamStoppers.lookup requestId with
    | some j =>
      obtain ⟨t, ht, hrunning⟩ := (hexact j).mp hlookup
      refine iff_of_true ?_ ⟨t, List.mem_of_getElem? ht, hrunning⟩
      simp only [ManagementSocketClient.generateResponses, hlookup]
    | none =>
      refine iff_of_false (fun hsame => ?_) ?_
      · -- a task was added
        have htasks := congrArg (fun s => s.tasks.length) hsame
        simp [ManagementSocketClient.generateResponses, hlookup] at htasks
      · rintro ⟨t, ht, hrunning⟩
        obtain ⟨j, hj⟩ := List.getElem?_of_mem ht
        rw [(hexact j).mpr ⟨t, hj, hrunning⟩] at hlookup
        cases hlookup
  · have hstep : s.step (.stopRespondingTo k requestId) = s.stop requestId := by
      simp only [ManagementSocketClient.step, hlooping, if_true]
    rw [hstep, hinv.stop_tasks requestId j]
    simp only [stopperKey_eq_some]

/-- **What a socket carries under one id.**  Over any connection, the responses that were written
under an id are what the scheduler answered to the requests of that id, one request after the other,
each from its beginning and without a gap; all but the last of these requests are over, and as long
as the connection is open a request that is over was answered in full. -/
theorem responses_in_order {name : Option String} {s : ManagementSocketClient ρ}
    (h : Reaches ManagementSocketClient.step AllSerialize (.new name) s) {k : Nat}
    {c : Connection ρ} (hc : s.connections[k]? = some c) (requestId : String) :
    c.texts.filterMap (ManagementMessage.streamedFor requestId) <+:
        (s.generations k requestId).flatMap (·.forwarded) ∧
      (c.forwarder ≠ .ended true → c.messageRx = [] →
        c.texts.filterMap (ManagementMessage.streamedFor requestId) =
          (s.generations k requestId).flatMap (·.forwarded)) ∧
      (s.generations k requestId).Pairwise (fun t _ => t.running = false) ∧
      ∀ t ∈ s.generations k requestId, t.forwarded <+: t.produced ∧
        (t.running = true → t.produced = t.forwarded ++ t.responseRx) ∧
        (t.running = false → Open c → t.forwarded = t.produced) := by
  have hinv := clientInv_reaches h
  obtain ⟨hconnection, -⟩ := connectionInv_reaches ((connectionsReach_reaches h).2 k c hc)
  have hstreamed := hinv.streamed k c hc requestId
  refine ⟨?_, fun hforwarder hrx => ?_, ?_, fun t ht => ?_⟩
  · rw [← hstreamed]
    exact hconnection.texts_prefix.filterMap _
  · rw [← hstreamed, hconnection.queued_eq hforwarder, hrx, List.append_nil]
  · -- of two requests with one id the first is over
    have hpairs : s.tasks.Pairwise fun t t' => t.requestId = t'.requestId → t.running = false := by
      rw [List.pairwise_iff_getElem]
      intro i j hi hj hlt hid
      exact hinv.latest i j _ _ hlt (List.getElem?_eq_getElem hi) (List.getElem?_eq_getElem hj) hid
    refine (List.pairwise_filter.mpr (hpairs.imp ?_))
    intro t t' hpair htrue htrue'
    simp only [Bool.and_eq_true, beq_iff_eq] at htrue htrue'
    exact hpair (htrue.2.trans htrue'.2.symm)
  · obtain ⟨hmem, htrue⟩ := List.mem_filter.mp ht
    simp only [Bool.and_eq_true, beq_iff_eq] at htrue
    obtain ⟨j, hj⟩ := List.getElem?_of_mem hmem
    obtain ⟨hstored, hleft⟩ := hinv.produced j t hj
    exact ⟨hstored, hleft, hinv.delivered hj c (by rw [htrue.1]; exact hc)⟩

/-- A request is answered, asked again after its end, and stopped over the next connection. -/
def reconnectRun : List (ClientInput Nat) :=
  [.connect, .connection 0 (.register (.ok freshSnapshot)), .connection 0 (.forward true true),
    .request 0 "a" true, .produce 0 1, .request 0 "a" true, .dropSender 0,
    .forwardResponse 0, .endTask 0, .request 0 "a" true, .produce 1 2, .forwardResponse 1,
    .produce 1 3, .connection 0 (.forward true true), .connection 0 .readEnd,
    .connection 0 .deregister, .connection 0 .close, .connection 0 .observeClose,
    .connection 0 (.forward true true), .connection 0 (.forward true true),
    .connection 0 (.forward true true), .connection 0 .join, .connect,
    .connection 1 (.register (.ok freshSnapshot)), .stopRespondingTo 1 "a"]

theorem reconnectRun_serializes : ∀ i ∈ reconnectRun, i.serializes = true := by decide

theorem stoppers_exact_reconnected :
    let s := reconnectRun.foldl ManagementSocketClient.step (.new (some "agent"))
    s.receiveStreamStoppers.lookup "a" = some 1 ↔ ∃ t, s.tasks[1]? = some t ∧ t.running = true ∧
      t.requestId = "a" :=
  (stoppers_exact (Reaches.runs reconnectRun (fun _ _ _ => trivial) .start) "a").1 1

theorem responses_in_order_reconnected :
    ∃ c, (reconnectRun.foldl ManagementSocketClient.step (.new (some "agent"))).connections[0]? =
      some c ∧
      c.texts.filterMap (ManagementMessage.streamedFor "a") <+:
        ((reconnectRun.foldl ManagementSocketClient.step (.new (some "agent"))).generations 0
          "a").flatMap (·.forwarded) := by
  have hreaches : Reaches ManagementSocketClient.step AllSerialize (.new (some "agent"))
      (reconnectRun.foldl ManagementSocketClient.step (.new (some "agent"))) :=
    Reaches.runs reconnectRun (fun i hi _ => reconnectRun_serializes i hi) .start
  obtain ⟨c, hc⟩ := Option.isSome_iff_exists.mp
    (show (reconnectRun.foldl ManagementSocketClient.step
      (.new (some "agent"))).connections[0]?.isSome = true by
      decide)
  exact ⟨c, hc, (responses_in_order hreaches hc "a").1⟩

end ManagementConnection

end Paddler
