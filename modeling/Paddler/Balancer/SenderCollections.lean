import Paddler.Library.AssocList
import Paddler.Library.Run
import Paddler.Library.VecUpdate

/-!
# Sender collections and one-shot responses

Model of `manages_senders.rs`, of `get_oneshot_response` in `agent_controller.rs` and of `respond`
in `controls_manages_senders_endpoint.rs`.  A response of an agent finds its way by the request id
alone: the collection has the sender of the response channel under that id while a
`ManagesSendersController` lives.

Sending the request to the agent, registering the sender, the reply of the agent and the forwarding
of that reply are separate steps, in any order across calls.  What `nanoid!` returns is part of the
input.

* `OneshotResponses.step` — one step of a call, of the agent, or of the task that forwards replies.
* `oneshotInv_step`, `oneshotInv_of_reaches` — who has a sender registered, and how many replies
  there are.
* `oneshotReply_delivered` — **when a reply gets to its caller**.
-/

set_option autoImplicit false

namespace Paddler

open AssocList Run VecUpdate

/-! ## Senders by request id -/

namespace ManagesSenders

def registerSender (senders : List (String × Nat)) (requestId : String) (sender : Nat) :
    Except String (List (String × Nat)) :=
  match senders.lookup requestId with
  | some _ => .error ("Sender for request_id " ++ requestId ++ " already exists")
  | none => .ok (insertKey requestId sender senders)

def deregisterSender (senders : List (String × Nat)) (requestId : String) :
    Except String (List (String × Nat)) :=
  match senders.lookup requestId with
  | none => .error ("No sender found for request_id " ++ requestId)
  | some _ => .ok (eraseKey requestId senders)

/-- The sender that `forward_response` sends to. -/
def forwardResponse (senders : List (String × Nat)) (requestId : String) : Except String Nat :=
  match senders.lookup requestId with
  | some sender => .ok sender
  | none => .error ("No sender found for request_id " ++ requestId)

/-- `Drop` of `ManagesSendersController`: an error is only logged. -/
def dropController (senders : List (String × Nat)) (requestId : String) : List (String × Nat) :=
  match deregisterSender senders requestId with
  | .ok senders => senders
  | .error _ => senders

variable {senders senders' : List (String × Nat)} {requestId : String} {sender : Nat}

theorem registerSender_ok (h : registerSender senders requestId sender = .ok senders') :
    senders.lookup requestId = none ∧ senders' = insertKey requestId sender senders := by
  unfold registerSender at h
  split at h
  · cases h
  · rename_i hfree
    cases h
    exact ⟨hfree, rfl⟩

theorem forwardResponse_ok (h : forwardResponse senders requestId = .ok sender) :
    senders.lookup requestId = some sender := by
  unfold forwardResponse at h
  split at h
  · rename_i hsender
    cases h
    exact hsender
  · cases h

/-- A controller that registered its sender takes it away again. -/
theorem dropController_eq (h : senders.lookup requestId = some sender) :
    dropController senders requestId = eraseKey requestId senders := by
  unfold dropController deregisterSender
  rw [h]

end ManagesSenders

/-! ## One-shot responses -/

/-- What `respond` answers. -/
inductive OneshotHttpResponse (ν : Type) where
  | notFound
  | badGateway
  | gatewayTimeout
  | ok (json : ν)
  | internalServerError (body : String)
  deriving DecidableEq, Repr

/-- Where a call of `respond` is. -/
inductive OneshotPhase (ν : Type) where
  | sending
  | registering
  | waiting
  | responded (response : OneshotHttpResponse ν)
  deriving DecidableEq, Repr

/-- A call of `respond`.  `atAgent`: the agent has the request and has not replied; `inFlight`: its
reply on the way back; `responseRx`: the channel of the controller.  `lost` is history: the replies
that did not get to this call although it had not responded yet. -/
structure OneshotCall (ν : Type) where
  requestId : String
  phase : OneshotPhase ν
  atAgent : Bool
  inFlight : List ν
  responseRx : List ν
  lost : List ν
  deriving DecidableEq, Repr

/-- The sender collection with all calls that use it. -/
structure OneshotResponses (ν : Type) where
  senders : List (String × Nat)
  calls : List (OneshotCall ν)
  deriving DecidableEq, Repr

/-- What can happen to a call: its own steps, the reply of the agent, and the forwarding of that
reply. -/
inductive OneshotAction (ν : Type) where
  | sendRpcMessage (sent : Bool)
  | registerSender
  | reply (value : ν)
  | forwardResponse
  | connectionClose
  | timeout
  | recv
  deriving DecidableEq, Repr

/-- What can happen next; `respond` has what `nanoid!` returns and whether the agent is in the
pool. -/
inductive OneshotInput (ν : Type) where
  | respond (requestId : String) (agentRegistered : Bool)
  | call (k : Nat) (action : OneshotAction ν)
  deriving DecidableEq, Repr

namespace OneshotCall

variable {ν : Type}

/-- The caller has its response, or gave up. -/
def hasResponded (self : OneshotCall ν) : Bool :=
  match self.phase with
  | .responded _ => true
  | _ => false

/-- The request id that the controller of the call has registered. -/
def registered (self : OneshotCall ν) : Option String :=
  match self.phase with
  | .waiting => some self.requestId
  | _ => none

end OneshotCall

namespace OneshotResponses

variable {ν : Type}

def new : OneshotResponses ν := ⟨[], []⟩

/-- The `select!` of `respond` ends, and the controller is dropped. -/
def finish (self : OneshotResponses ν) (k : Nat) (call : OneshotCall ν)
    (response : OneshotHttpResponse ν) : OneshotResponses ν :=
  { senders := ManagesSenders.dropController self.senders call.requestId
    calls := self.calls.set k { call with phase := .responded response, responseRx := [] } }

/-- The first half of `get_oneshot_response`. -/
def sendRpcMessage (self : OneshotResponses ν) (k : Nat) (call : OneshotCall ν) (sent : Bool) :
    OneshotResponses ν :=
  if sent then { self with calls := self.calls.set k { call with phase := .registering, atAgent := true } }
  else
    { self with
      calls := self.calls.set k
        { call with phase := .responded (.internalServerError "channel closed") } }

/-- The second half of `get_oneshot_response`. -/
def registerSender (self : OneshotResponses ν) (k : Nat) (call : OneshotCall ν) :
    OneshotResponses ν :=
  match ManagesSenders.registerSender self.senders call.requestId k with
  | .ok senders =>
    { senders := senders, calls := self.calls.set k { call with phase := .waiting } }
  | .error err =>
    { self with calls := self.calls.set k { call with phase := .responded (.internalServerError err) } }

/-- A reply to `call` did not get there. -/
def drop (self : OneshotResponses ν) (k : Nat) (call : OneshotCall ν) (value : ν) :
    OneshotResponses ν :=
  if call.hasResponded then { self with calls := self.calls.set k call }
  else { self with calls := self.calls.set k { call with lost := call.lost ++ [value] } }

/-- `forward_response_safe` for the reply to a call. -/
def forwardResponse (self : OneshotResponses ν) (k : Nat) (call : OneshotCall ν) (value : ν) :
    OneshotResponses ν :=
  match ManagesSenders.forwardResponse self.senders call.requestId with
  | .error _ => self.drop k call value
  | .ok sender =>
    if sender = k then
      { self with calls := self.calls.set k { call with responseRx := call.responseRx ++ [value] } }
    else
      match self.calls[sender]? with
      | none => self.drop k call value
      | some other =>
        { self with
          calls := self.calls.set sender
            { other with responseRx := other.responseRx ++ [value] } }.drop
            k call value

/-- One step that a call is about. -/
def callStep (self : OneshotResponses ν) (k : Nat) (call : OneshotCall ν)
    (action : OneshotAction ν) :
    OneshotResponses ν :=
  match action, call.phase with
  | .sendRpcMessage sent, .sending => self.sendRpcMessage k call sent
  | .registerSender, .registering => self.registerSender k call
  | .reply value, _ =>
    if call.atAgent then
      { self with calls := self.calls.set k { call with atAgent := false, inFlight := [value] } }
    else self
  | .forwardResponse, _ =>
    match call.inFlight with
    | value :: inFlight => self.forwardResponse k { call with inFlight := inFlight } value
    | [] => self
  | .connectionClose, .waiting => self.finish k call .badGateway
  | .timeout, .waiting => self.finish k call .gatewayTimeout
  | .recv, .waiting =>
    match call.responseRx with
    | value :: _ => self.finish k call (.ok value)
    | [] => self
  | _, _ => self

/-- One step. -/
def step (self : OneshotResponses ν) (input : OneshotInput ν) : OneshotResponses ν :=
  match input with
  | .respond requestId agentRegistered =>
    { self with
      calls := self.calls ++
        [⟨requestId, if agentRegistered then .sending else .responded .notFound, false,
          [], [], []⟩] }
  | .call k action =>
    match self.calls[k]? with
    | some call => self.callStep k call action
    | none => self

/-! ## Who has a sender, and how many replies there are -/

end OneshotResponses

/-- The replies to a call that exist: still to be made, on the way, or in its channel. -/
def OneshotCall.replies {ν : Type} (self : OneshotCall ν) : Nat :=
  (if self.atAgent then 1 else 0) + self.inFlight.length + self.responseRx.length

/-- At most one reply, and none before the request was sent. -/
def OneshotCall.ReplyOnce {ν : Type} (self : OneshotCall ν) : Prop :=
  self.replies ≤ 1 ∧ (self.phase = .sending → self.replies = 0)

/-- The senders are those of the waiting calls, whose request ids are different. -/
structure OneshotInv {ν : Type} (s : OneshotResponses ν) : Prop where
  owned : Owned s.senders (heldBy OneshotCall.registered s.calls)
  distinct : ∀ (i j : Nat) (c c' : OneshotCall ν), s.calls[i]? = some c → s.calls[j]? = some c' →
    c.requestId = c'.requestId → i = j
  once : ∀ (i : Nat) (c : OneshotCall ν), s.calls[i]? = some c → c.ReplyOnce

/-- `nanoid!` does not return an id twice. -/
def NanoidFresh {ν : Type} (s : OneshotResponses ν) : OneshotInput ν → Prop
  | .respond requestId _ => ∀ call ∈ s.calls, call.requestId ≠ requestId
  | .call .. => True

variable {ν : Type} {s : OneshotResponses ν} {k : Nat} {call call' : OneshotCall ν}

theorem OneshotCall.registered_of_waiting (h : call.phase = .waiting) :
    call.registered = some call.requestId := by
  unfold OneshotCall.registered
  rw [h]

theorem OneshotCall.registered_eq_none (h : call.phase ≠ .waiting) : call.registered = none := by
  unfold OneshotCall.registered
  split
  · rename_i hwaiting
    exact absurd hwaiting h
  · rfl

theorem OneshotCall.registered_eq_some {requestId : String} (h : call.registered = some requestId) :
    call.phase = .waiting ∧ call.requestId = requestId := by
  unfold OneshotCall.registered at h
  split at h
  · rename_i hwaiting
    cases h
    exact ⟨hwaiting, rfl⟩
  · cases h

theorem oneshotInv_new : OneshotInv (OneshotResponses.new : OneshotResponses ν) := by
  constructor
  · intro key owner
    constructor
    · intro h
      cases h
    · intro h
      cases h
  · intro i j c c' hc
    cases hc
  · intro i c hc
    cases hc

namespace OneshotInv

/-- The calls after one of them changed, under the same request id. -/
theorem distinct_set (hinv : OneshotInv s) (hcall : s.calls[k]? = some call)
    (hid : call'.requestId = call.requestId) (i j : Nat) (c c' : OneshotCall ν)
    (hi : (s.calls.set k call')[i]? = some c) (hj : (s.calls.set k call')[j]? = some c')
    (hsame : c.requestId = c'.requestId) : i = j := by
  rcases getElem?_set_cases hi with ⟨rfl, rfl⟩ | ⟨-, hi'⟩
  · rcases getElem?_set_cases hj with ⟨rfl, rfl⟩ | ⟨-, hj'⟩
    · rfl
    · exact hinv.distinct i j call c' hcall hj' (hid.symm.trans hsame)
  · rcases getElem?_set_cases hj with ⟨rfl, rfl⟩ | ⟨-, hj'⟩
    · exact hinv.distinct i j c call hi' hcall (hsame.trans hid)
    · exact hinv.distinct i j c c' hi' hj' hsame

theorem once_set (hinv : OneshotInv s) (honce : call'.ReplyOnce) (i : Nat) (c : OneshotCall ν)
    (hi : (s.calls.set k call')[i]? = some c) : c.ReplyOnce := by
  rcases getElem?_set_cases hi with ⟨-, rfl⟩ | ⟨-, hi⟩
  · exact honce
  · exact hinv.once i c hi

/-- A call changes, and its controller keeps what it registered. -/
theorem keep (hinv : OneshotInv s) (hcall : s.calls[k]? = some call)
    (hid : call'.requestId = call.requestId) (hregistered : call'.registered = call.registered)
    (honce : call'.ReplyOnce) : OneshotInv { s with calls := s.calls.set k call' } :=
  ⟨hinv.owned.keep hcall hregistered, hinv.distinct_set hcall hid, hinv.once_set honce⟩

theorem lookup_waiting (hinv : OneshotInv s) (hcall : s.calls[k]? = some call)
    (hphase : call.phase = .waiting) : s.senders.lookup call.requestId = some k := by
  rw [hinv.owned, heldBy_of_getElem? hcall]
  exact OneshotCall.registered_of_waiting hphase

/-- The request id of a call that is not waiting leads nowhere. -/
theorem lookup_not_waiting (hinv : OneshotInv s) (hcall : s.calls[k]? = some call)
    (hphase : call.phase ≠ .waiting) : s.senders.lookup call.requestId = none := by
  rw [hinv.owned.free_iff]
  intro i hi
  obtain ⟨c, hc, hregistered⟩ := heldBy_eq_some hi
  obtain ⟨hwaiting, hid⟩ := OneshotCall.registered_eq_some hregistered
  obtain rfl := hinv.distinct i k c call hc hcall hid
  rw [hcall] at hc
  cases hc
  exact hphase hwaiting

theorem forwardResponse_waiting (hinv : OneshotInv s) (hcall : s.calls[k]? = some call)
    (hphase : call.phase = .waiting) (inFlight : List ν) (value : ν) :
    s.forwardResponse k { call with inFlight := inFlight } value =
      { s with
        calls := s.calls.set k
          { call with inFlight := inFlight, responseRx := call.responseRx ++ [value] } } := by
  unfold OneshotResponses.forwardResponse ManagesSenders.forwardResponse
  simp only [hinv.lookup_waiting hcall hphase, if_true]

theorem forwardResponse_not_waiting (hinv : OneshotInv s) (hcall : s.calls[k]? = some call)
    (hphase : call.phase ≠ .waiting) (inFlight : List ν) (value : ν) :
    s.forwardResponse k { call with inFlight := inFlight } value =
      s.drop k { call with inFlight := inFlight } value := by
  unfold OneshotResponses.forwardResponse ManagesSenders.forwardResponse
  simp only [hinv.lookup_not_waiting hcall hphase]

theorem respond (hinv : OneshotInv s) {requestId : String} {agentRegistered : Bool}
    (hfresh : NanoidFresh s (.respond requestId agentRegistered)) :
    OneshotInv (s.step (.respond requestId agentRegistered)) := by
  have hnew : ∀ (i : Nat) (c : OneshotCall ν), s.calls[i]? = some c → c.requestId ≠ requestId :=
    fun i c hc => hfresh c (List.mem_of_getElem? hc)
  refine ⟨hinv.owned.push_idle ?_, ?_, ?_⟩
  · cases agentRegistered with
    | true => rfl
    | false => rfl
  · intro i j c c' hi hj hsame
    rcases getElem?_push_cases hi with hi | ⟨rfl, rfl⟩
    · rcases getElem?_push_cases hj with hj | ⟨rfl, rfl⟩
      · exact hinv.distinct i j c c' hi hj hsame
      · exact absurd hsame (hnew i c hi)
    · rcases getElem?_push_cases hj with hj | ⟨rfl, rfl⟩
      · exact absurd hsame.symm (hnew j c' hj)
      · rfl
  · intro i c hi
    rcases getElem?_push_cases hi with hi | ⟨-, rfl⟩
    · exact hinv.once i c hi
    · exact ⟨Nat.zero_le _, fun _ => rfl⟩

theorem finish (hinv : OneshotInv s) (hcall : s.calls[k]? = some call)
    (hphase : call.phase = .waiting) (response : OneshotHttpResponse ν) :
    OneshotInv (s.finish k call response) := by
  have hheld := OneshotCall.registered_of_waiting hphase
  have honce : ({ call with phase := .responded response, responseRx := [] } :
    OneshotCall ν).ReplyOnce := by
    refine ⟨Nat.le_trans ?_ (hinv.once k call hcall).1, fun hsending => by cases hsending⟩
    simp only [OneshotCall.replies, List.length_nil]
    omega
  unfold OneshotResponses.finish
  rw [ManagesSenders.dropController_eq (hinv.lookup_waiting hcall hphase)]
  exact ⟨hinv.owned.release hcall hheld (OneshotCall.registered_eq_none fun h => by cases h),
    hinv.distinct_set hcall rfl, hinv.once_set honce⟩

theorem sendRpcMessage (hinv : OneshotInv s) (hcall : s.calls[k]? = some call)
    (hphase : call.phase = .sending) (sent : Bool) : OneshotInv (s.sendRpcMessage k call sent) := by
  have hidle : call.registered = none :=
    OneshotCall.registered_eq_none fun h => by rw [hphase] at h; cases h
  obtain ⟨-, hnone⟩ := hinv.once k call hcall
  have hnone := hnone hphase
  simp only [OneshotCall.replies] at hnone
  unfold OneshotResponses.sendRpcMessage
  split
  · refine hinv.keep hcall rfl (Eq.trans (OneshotCall.registered_eq_none fun h => by
      cases h) hidle.symm) ?_
    refine ⟨?_, fun hsending => by cases hsending⟩
    simp only [OneshotCall.replies, if_true]
    omega
  · refine hinv.keep hcall rfl (Eq.trans (OneshotCall.registered_eq_none fun h => by
      cases h) hidle.symm) ?_
    exact ⟨(hinv.once k call hcall).1, fun hsending => by cases hsending⟩

theorem registerSender (hinv : OneshotInv s) (hcall : s.calls[k]? = some call)
    (hphase : call.phase = .registering) : OneshotInv (s.registerSender k call) := by
  have hidle : call.registered = none :=
    OneshotCall.registered_eq_none fun h => by rw [hphase] at h; cases h
  have hreplies := (hinv.once k call hcall).1
  unfold OneshotResponses.registerSender
  split
  · rename_i senders hsenders
    obtain ⟨hfree, rfl⟩ := ManagesSenders.registerSender_ok hsenders
    exact ⟨hinv.owned.register hcall hfree hidle rfl, hinv.distinct_set hcall rfl,
      hinv.once_set ⟨hreplies, fun hsending => by cases hsending⟩⟩
  · refine hinv.keep hcall rfl (Eq.trans (OneshotCall.registered_eq_none fun h => by
      cases h) hidle.symm) ?_
    exact ⟨hreplies, fun hsending => by cases hsending⟩

theorem forwardResponse (hinv : OneshotInv s) (hcall : s.calls[k]? = some call) {value : ν}
    {inFlight : List ν} (hflight : call.inFlight = value :: inFlight) :
    OneshotInv (s.forwardResponse k { call with inFlight := inFlight } value) := by
  obtain ⟨hreplies, hsending⟩ := hinv.once k call hcall
  simp only [OneshotCall.replies, hflight, List.length_cons] at hreplies hsending
  by_cases hphase : call.phase = .waiting
  · rw [hinv.forwardResponse_waiting hcall hphase]
    refine hinv.keep hcall rfl rfl ⟨?_, fun h => ?_⟩
    · simp only [OneshotCall.replies, List.length_append, List.length_singleton]
      omega
    · exact absurd (hsending h) (by omega)
  · rw [hinv.forwardResponse_not_waiting hcall hphase]
    have honce : ∀ lost,
        ({ call with inFlight := inFlight, lost := lost } : OneshotCall ν).ReplyOnce := by
      intro lost
      refine ⟨?_, fun h => absurd (hsending h) (by omega)⟩
      simp only [OneshotCall.replies]
      omega
    unfold OneshotResponses.drop
    split
    · exact hinv.keep hcall rfl rfl (honce call.lost)
    · exact hinv.keep hcall rfl rfl (honce _)

theorem reply (hinv : OneshotInv s) (hcall : s.calls[k]? = some call) (hagent : call.atAgent = true)
    (value : ν) :
    OneshotInv { s with calls := s.calls.set k { call with atAgent := false, inFlight := [value] } } := by
  obtain ⟨hreplies, hsending⟩ := hinv.once k call hcall
  simp only [OneshotCall.replies, hagent, if_true] at hreplies hsending
  refine hinv.keep hcall rfl rfl ⟨?_, fun h => absurd (hsending h) (by omega)⟩
  simp only [OneshotCall.replies, List.length_singleton, Bool.false_eq_true, if_false]
  omega

end OneshotInv

theorem oneshotInv_step (hinv : OneshotInv s) {input : OneshotInput ν}
    (hfresh : NanoidFresh s input) :
    OneshotInv (s.step input) := by
  cases input with
  | respond requestId agentRegistered => exact hinv.respond hfresh
  | call k action =>
    unfold OneshotResponses.step
    simp only
    split
    · rename_i call hcall
      unfold OneshotResponses.callStep
      split
      · rename_i hphase
        exact hinv.sendRpcMessage hcall hphase _
      · rename_i hphase
        exact hinv.registerSender hcall hphase
      · split
        · rename_i hagent
          exact hinv.reply hcall hagent _
        · exact hinv
      · split
        · rename_i hflight
          exact hinv.forwardResponse hcall hflight
        · exact hinv
      · rename_i hphase
        exact hinv.finish hcall hphase _
      · rename_i hphase
        exact hinv.finish hcall hphase _
      · rename_i hphase
        split
        · exact hinv.finish hcall hphase _
        · exact hinv
      · exact hinv
    · exact hinv

/-- **The invariant of every run.** -/
theorem oneshotInv_of_reaches
    (h : Reaches OneshotResponses.step NanoidFresh OneshotResponses.new s) :
    OneshotInv s :=
  h.invariant OneshotInv oneshotInv_new fun _ _ _ hinv hfresh => oneshotInv_step hinv hfresh

/-! ## Replies that get lost -/

/-- The request went to the agent and the sender is not registered yet. -/
def OneshotCall.isRegistering (self : OneshotCall ν) : Bool :=
  match self.phase with
  | .registering => true
  | _ => false

/-- No reply is forwarded while its call has not registered its sender. -/
def ReplyAfterRegistration (s : OneshotResponses ν) : OneshotInput ν → Prop
  | .call k .forwardResponse =>
    match s.calls[k]? with
    | some call => call.isRegistering = false
    | none => True
  | _ => True

/-- No call missed a reply. -/
def NoneLost (s : OneshotResponses ν) : Prop := ∀ call ∈ s.calls, call.lost = []

theorem noneLost_set (h : NoneLost s) (hlost : call'.lost = []) :
    ∀ c ∈ s.calls.set k call', c.lost = [] := by
  intro c hc
  rcases List.mem_or_eq_of_mem_set hc with hc | rfl
  · exact h c hc
  · exact hlost

theorem OneshotInv.not_sending (hinv : OneshotInv s) (hcall : s.calls[k]? = some call) {value : ν}
    {inFlight : List ν} (hflight : call.inFlight = value :: inFlight) : call.phase ≠ .sending := by
  intro hsending
  have hnone := (hinv.once k call hcall).2 hsending
  simp only [OneshotCall.replies, hflight, List.length_cons] at hnone
  omega

/-- A call with a reply on the way that did not respond yet is registering, or waiting. -/
theorem OneshotInv.registering_or_waiting (hinv : OneshotInv s) (hcall : s.calls[k]? = some call)
    {value : ν} {inFlight : List ν} (hflight : call.inFlight = value :: inFlight)
    (hopen : call.hasResponded = false) : call.phase = .registering ∨ call.phase = .waiting := by
  cases hphase : call.phase with
  | sending => exact absurd hphase (hinv.not_sending hcall hflight)
  | registering => exact Or.inl rfl
  | waiting => exact Or.inr rfl
  | responded response =>
    rw [OneshotCall.hasResponded, hphase] at hopen
    cases hopen

/-- A reply that comes after the registration is not lost. -/
theorem noneLost_forwardResponse (hinv : OneshotInv s) (h : NoneLost s)
    (hcall : s.calls[k]? = some call) {value : ν} {inFlight : List ν}
    (hflight : call.inFlight = value :: inFlight) (hregistered : call.isRegistering = false) :
    NoneLost (s.forwardResponse k { call with inFlight := inFlight } value) := by
  have hlost : call.lost = [] := h call (List.mem_of_getElem? hcall)
  by_cases hphase : call.phase = .waiting
  · rw [hinv.forwardResponse_waiting hcall hphase]
    exact noneLost_set h hlost
  · rw [hinv.forwardResponse_not_waiting hcall hphase]
    unfold OneshotResponses.drop
    split
    · exact noneLost_set h hlost
    · rename_i hopen
      have hopen : call.hasResponded = false := Bool.eq_false_iff.mpr hopen
      rcases hinv.registering_or_waiting hcall hflight hopen with hregistering | hwaiting
      · rw [OneshotCall.isRegistering, hregistering] at hregistered
        cases hregistered
      · exact absurd hwaiting hphase

theorem noneLost_step (hinv : OneshotInv s) (h : NoneLost s) {input : OneshotInput ν}
    (hregistered : ReplyAfterRegistration s input) : NoneLost (s.step input) := by
  cases input with
  | respond requestId agentRegistered =>
    intro c hc
    rcases List.mem_append.mp hc with hc | hc
    · exact h c hc
    · rw [List.mem_singleton.mp hc]
  | call k action =>
    unfold OneshotResponses.step
    simp only
    split
    · rename_i call hcall
      have hlost : call.lost = [] := h call (List.mem_of_getElem? hcall)
      have hfinish : ∀ response, NoneLost (s.finish k call response) :=
        fun _ => noneLost_set h hlost
      unfold OneshotResponses.callStep
      split
      · unfold OneshotResponses.sendRpcMessage
        split
        · exact noneLost_set h hlost
        · exact noneLost_set h hlost
      · unfold OneshotResponses.registerSender
        split
        · exact noneLost_set h hlost
        · exact noneLost_set h hlost
      · split
        · exact noneLost_set h hlost
        · exact h
      · split
        · rename_i hflight
          simp only [ReplyAfterRegistration, hcall] at hregistered
          exact noneLost_forwardResponse hinv h hcall hflight hregistered
        · exact h
      · exact hfinish _
      · exact hfinish _
      · split
        · exact hfinish _
        · exact h
      · exact h
    · exact h

/-- The caller, asked next, responds with the value. -/
def OneshotResponses.ReplyReceived (s : OneshotResponses ν) (k : Nat) (value : ν) : Prop :=
  ∃ call, (s.step (.call k .recv)).calls[k]? = some call ∧ call.phase = .responded (.ok value)

theorem not_received_of_registering (hinv : OneshotInv s) (hcall : s.calls[k]? = some call)
    (hphase : call.phase = .registering) (inFlight : List ν) (value : ν) :
    ¬ (s.forwardResponse k { call with inFlight := inFlight } value).ReplyReceived k value := by
  obtain ⟨hlt, -⟩ := List.getElem?_eq_some_iff.mp hcall
  rw [hinv.forwardResponse_not_waiting hcall (fun h => by rw [hphase] at h; cases h),
    OneshotResponses.drop, if_neg (by simp [OneshotCall.hasResponded, hphase])]
  rintro ⟨c, hc, hresponded⟩
  simp only [OneshotResponses.step, List.getElem?_set_self hlt, OneshotResponses.callStep,
    hphase] at hc
  cases hc
  cases hresponded

theorem received_of_waiting (hinv : OneshotInv s) (hcall : s.calls[k]? = some call)
    (hphase : call.phase = .waiting) {value : ν} {inFlight : List ν}
    (hflight : call.inFlight = value :: inFlight) :
    (s.forwardResponse k { call with inFlight := inFlight } value).ReplyReceived k value := by
  obtain ⟨hlt, -⟩ := List.getElem?_eq_some_iff.mp hcall
  have hempty : call.responseRx = [] := by
    have hreplies := (hinv.once k call hcall).1
    simp only [OneshotCall.replies, hflight, List.length_cons] at hreplies
    exact List.length_eq_zero_iff.mp (by omega)
  rw [hinv.forwardResponse_waiting hcall hphase]
  refine ⟨{ call with phase := .responded (.ok value), inFlight := inFlight, responseRx := [] }, ?_,
    rfl⟩
  simp only [OneshotResponses.step, List.getElem?_set_self hlt, OneshotResponses.callStep, hphase,
    hempty, List.nil_append, OneshotResponses.finish, List.set_set]

/-- A reply that is forwarded before the caller gives up gets to the caller exactly if the sender is
registered by then. -/
theorem forwardResponse_received_iff (hinv : OneshotInv s)
    (hcall : s.calls[k]? = some call) {value : ν} {inFlight : List ν}
    (hflight : call.inFlight = value :: inFlight) (hopen : call.hasResponded = false) :
    (s.step (.call k .forwardResponse)).ReplyReceived k value ↔ call.isRegistering = false := by
  have hstep : s.step (.call k .forwardResponse) =
      s.forwardResponse k { call with inFlight := inFlight } value := by
    simp only [OneshotResponses.step, hcall, OneshotResponses.callStep, hflight]
  rw [hstep]
  rcases hinv.registering_or_waiting hcall hflight hopen with hphase | hphase
  · constructor
    · intro hreceived
      exact absurd hreceived (not_received_of_registering hinv hcall hphase inFlight value)
    · intro hregistering
      rw [OneshotCall.isRegistering, hphase] at hregistering
      cases hregistering
  · constructor
    · intro _
      rw [OneshotCall.isRegistering, hphase]
    · intro _
      exact received_of_waiting hinv hcall hphase hflight

/-- **When a reply gets to its caller.**  In every run, a reply that is forwarded before the caller
gives up is what the caller responds with, exactly if the sender was registered before; and in a run
in which no reply is forwarded before the registration, no call ever misses a reply. -/
theorem oneshotReply_delivered
    (h : Reaches OneshotResponses.step NanoidFresh (OneshotResponses.new : OneshotResponses ν) s) :
    (∀ k call value inFlight, s.calls[k]? = some call → call.inFlight = value :: inFlight →
      call.hasResponded = false →
      ((s.step (.call k .forwardResponse)).ReplyReceived k value ↔ call.isRegistering = false)) ∧
    (Reaches OneshotResponses.step (fun s input => NanoidFresh s input ∧
      ReplyAfterRegistration s input) (OneshotResponses.new : OneshotResponses ν) s →
        NoneLost s) := by
  constructor
  · intro k call value inFlight hcall hflight hwaiting
    exact forwardResponse_received_iff (oneshotInv_of_reaches h) hcall hflight hwaiting
  · intro hordered
    refine hordered.invariant NoneLost (fun call hcall => by cases hcall) ?_
    intro s input hreached hnone hguard
    exact noneLost_step (oneshotInv_of_reaches (hreached.weaken fun _ _ => And.left)) hnone hguard.2

instance : DecidablePred (NanoidFresh s) := fun input =>
  match input with
  | .respond requestId _ =>
    inferInstanceAs (Decidable (∀ call ∈ s.calls, call.requestId ≠ requestId))
  | .call .. => isTrue trivial

/-- A run. -/
def OneshotResponses.run (inputs : List (OneshotInput ν)) : OneshotResponses ν :=
  inputs.foldl OneshotResponses.step .new

/-- The sender is registered before the agent replies. -/
def registeredInTime : List (OneshotInput String) :=
  [.respond "request" true, .call 0 (.sendRpcMessage true), .call 0 .registerSender,
    .call 0 (.reply "template")]

theorem oneshotReply_delivered_inTime :
    ((OneshotResponses.run registeredInTime).step (.call 0 .forwardResponse)).ReplyReceived 0
      "template" ∧
    NoneLost (OneshotResponses.run registeredInTime) := by
  have hreached : Reaches OneshotResponses.step NanoidFresh OneshotResponses.new
      (OneshotResponses.run registeredInTime) := Reaches.along _ (by decide +kernel) .start
  have hordered : Reaches OneshotResponses.step
      (fun s input => NanoidFresh s input ∧ ReplyAfterRegistration s input) OneshotResponses.new
      (OneshotResponses.run registeredInTime) := by
    refine Reaches.along registeredInTime ?_ .start
    exact ⟨⟨by decide, trivial⟩, ⟨trivial, trivial⟩, ⟨trivial, trivial⟩,
      ⟨trivial, trivial⟩, trivial⟩
  obtain ⟨hreceived, hnone⟩ := oneshotReply_delivered hreached
  refine ⟨?_, hnone hordered⟩
  rw [hreceived 0 ⟨"request", .waiting, false, ["template"], [], []⟩ "template" []
    (by decide) rfl rfl]
  rfl

/-- The agent replies, and the reply is forwarded, before the sender is registered. -/
def repliedTooEarly : List (OneshotInput String) :=
  [.respond "request" true, .call 0 (.sendRpcMessage true), .call 0 (.reply "template"),
    .call 0 .forwardResponse, .call 0 .registerSender]

/-- The caller waits for a reply that was dropped. -/
theorem oneshotReply_dropped :
    Reaches OneshotResponses.step NanoidFresh OneshotResponses.new
      (OneshotResponses.run repliedTooEarly) ∧
    (OneshotResponses.run repliedTooEarly).calls =
      [⟨"request", .waiting, false, [], [], ["template"]⟩] := by
  constructor
  · exact Reaches.along _ (by decide +kernel) .start
  · decide

end Paddler
