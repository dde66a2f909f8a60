import Mathlib.Logic.Function.Basic
import Paddler.Compatibility.OutgoingMessages

/-!
# A connection of the Rust client

Model of `inference_socket/connection.rs`, `spawn_read_task.rs` and `response_stream.rs`.  The
senders of the requests that wait are in a concurrent map, which the calls of `send`, the streams
and the read task use without a common lock.  The map is made of shards: what goes through all of it
locks one shard after the other.  A stream stops its request before its receiver is dropped, so the
channel of a sender in the map is open.

* `Connection.step` — one step of a call of `send`, of a stream, of the read task or of the write
  task.
* `RequestInv` — what is known of one request; `connectionInv_reaches`.
* `noOrphan_iff` — **after the read task has ended nobody is left waiting if and only if every
  request was inserted before its shard was notified.**
* `orphan_waits` — a request that was not waits for ever.
-/

set_option autoImplicit false

namespace Paddler

open Run

/-! ## Messages -/

/-- `response_is_terminal`. -/
def OutgoingResponse.isTerminal : OutgoingResponse → Bool
  | .embedding result => result.isDone
  | .generatedToken result => result.isDone
  | .timeout | .tooManyBufferedRequests => true

structure RequestScopedMessage where
  isDone : Bool
  requestId : String
  deriving DecidableEq, Repr

/-- The request a message is for; notifications are broadcast. -/
def InferenceMessage.scope : InferenceMessage → Option RequestScopedMessage
  | .error requestId _ => some { isDone := true, requestId := requestId }
  | .notification _ => none
  | .response _ requestId result => some { isDone := result.isTerminal, requestId := requestId }

/-- What is sent on the channel of a request. -/
inductive Delivery where
  | message (message : InferenceMessage)
  | connectionDropped (requestId : String)
  deriving DecidableEq, Repr

/-- Nothing is expected after it. -/
def Delivery.IsLast : Delivery → Prop
  | .message sent => ∃ scope, sent.scope = some scope ∧ scope.isDone = true
  | .connectionDropped _ => True

/-! ## The connection -/

/-- How the map of pending senders is sharded. -/
structure Sharding where
  count : Nat
  shardOf : String → Fin count

/-- Where the read task is.  A done request is removed after its message was sent; at the end the
shards are notified one by one, and then cleared one by one. -/
inductive ReadTask where
  | reading
  | removing (requestId : String)
  | notifying (shard : Nat)
  | clearing (shard : Nat)
  | ended
  deriving DecidableEq, Repr

/-- Where a call of `send` is. -/
inductive SendPhase where
  | notSent
  | inserted
  | removing
  | ok
  | failed
  deriving DecidableEq, Repr

/-- A call of `send`, its channel, and where the read task was when its sender was inserted. -/
structure PendingRequest where
  phase : SendPhase
  insertedDuring : ReadTask
  delivered : List Delivery
  stopped : Bool
  deriving DecidableEq, Repr

/-- A frame for the write task. -/
inductive ClientFrame where
  | request (requestId : String)
  | stopRespondingTo (requestId : String)
  deriving DecidableEq, Repr

/-- `connection.rs`, with the calls of `send`. -/
structure Connection (Call : Type) where
  writeOpen : Bool
  frames : List ClientFrame
  pending : String → Option Call
  readTask : ReadTask
  requests : Call → PendingRequest

/-- What happens next. -/
inductive ConnectionInput (Call : Type) where
  | insert (call : Call)
  | queue (call : Call)
  | removeFailed (call : Call)
  | stopRespondingTo (call : Call)
  | incoming (message : InferenceMessage)
  | removeDone
  | readEnds
  | notifyShard
  | clearShard
  | writeCloses
  deriving DecidableEq

/-- The shards before `shard` were done; the next place when there is none left. -/
def ReadTask.afterShard (count shard : Nat) (next : Nat → ReadTask) (last : ReadTask) : ReadTask :=
  if shard + 1 < count then next (shard + 1) else last

variable {Call : Type} [DecidableEq Call]

namespace Connection

/-- A connection that was just made. -/
def connect : Connection Call where
  writeOpen := true
  frames := []
  pending := fun _ => none
  readTask := .reading
  requests := fun _ =>
    { phase := .notSent, insertedDuring := .reading, delivered := [], stopped := false }

def isDisconnected (self : Connection Call) : Bool :=
  !self.writeOpen || self.readTask == .ended

variable (self : Connection Call)

/-- Changes the record of one request. -/
def setRequest (call : Call) (f : PendingRequest → PendingRequest) : Connection Call :=
  { self with requests := Function.update self.requests call (f (self.requests call)) }

/-- `write_tx.send(json)`, which fails when the write task has ended. -/
def write (frame : ClientFrame) : Connection Call :=
  { self with frames := if self.writeOpen then self.frames ++ [frame] else self.frames }

/-- `pending.remove`. -/
def removePending (requestId : String) : Connection Call :=
  { self with pending := Function.update self.pending requestId none }

/-- Sends on the channel of a request. -/
def deliver (call : Call) (delivery : Delivery) : Connection Call :=
  self.setRequest call fun request => { request with delivered := request.delivered ++ [delivery] }

/-- `route_message`, up to the removal of a request that is done. -/
def routeMessage (message : InferenceMessage) : Connection Call :=
  match message.scope with
  | none => self
  | some scope =>
    match self.pending scope.requestId with
    | none => self
    | some call =>
      { self.deliver call (.message message) with
        readTask := if scope.isDone then .removing scope.requestId else .reading }

/-- The senders of one shard are notified. -/
def notify (sharding : Sharding) (requestId : Call → String) (shard : Nat) : Connection Call :=
  { self with
    readTask := .afterShard sharding.count shard .notifying (.clearing 0)
    requests := fun call =>
      if self.pending (requestId call) = some call ∧ (sharding.shardOf (requestId call)).val = shard then
        { self.requests call with
          delivered := (self.requests call).delivered ++ [.connectionDropped (requestId call)] }
      else self.requests call }

/-- The senders of one shard are dropped. -/
def clear (sharding : Sharding) (shard : Nat) : Connection Call :=
  { self with
    readTask := .afterShard sharding.count shard .clearing .ended
    pending := fun id => if (sharding.shardOf id).val = shard then none else self.pending id }

/-- One step.  `requestId` is the id of each call's request. -/
def step (sharding : Sharding) (requestId : Call → String) (s : Connection Call) :
    ConnectionInput Call → Connection Call
  | .insert call =>
    match (s.requests call).phase with
    | .notSent =>
      { s.setRequest call fun request =>
          { request with phase := .inserted, insertedDuring := s.readTask } with
        pending := Function.update s.pending (requestId call) (some call) }
    | _ => s
  | .queue call =>
    match (s.requests call).phase with
    | .inserted =>
      (s.write (.request (requestId call))).setRequest call fun request =>
        { request with phase := if s.writeOpen then .ok else .removing }
    | _ => s
  | .removeFailed call =>
    match (s.requests call).phase with
    | .removing =>
      (s.removePending (requestId call)).setRequest call fun request =>
        { request with phase := .failed }
    | _ => s
  | .stopRespondingTo call =>
    match (s.requests call).phase with
    | .ok =>
      ((s.removePending (requestId call)).write (.stopRespondingTo (requestId call))).setRequest
        call
        fun request => { request with stopped := true }
    | _ => s
  | .incoming message =>
    match s.readTask with
    | .reading => s.routeMessage message
    | _ => s
  | .removeDone =>
    match s.readTask with
    | .removing id => { s.removePending id with readTask := .reading }
    | _ => s
  | .readEnds =>
    match s.readTask with
    | .reading => { s with readTask := .notifying 0 }
    | _ => s
  | .notifyShard =>
    match s.readTask with
    | .notifying shard => s.notify sharding requestId shard
    | _ => s
  | .clearShard =>
    match s.readTask with
    | .clearing shard => s.clear sharding shard
    | _ => s
  | .writeCloses => { s with writeOpen := false }

end Connection

/-! ## What is known of a request -/

/-- The senders of the shard were notified. -/
def ReadTask.Notified (shard : Nat) : ReadTask → Prop
  | .reading | .removing _ => False
  | .notifying next => shard < next
  | .clearing _ | .ended => True

/-- The senders of the shard were dropped. -/
def ReadTask.Cleared (shard : Nat) : ReadTask → Prop
  | .reading | .removing _ | .notifying _ => False
  | .clearing next => shard < next
  | .ended => True

instance (shard : Nat) : ∀ readTask : ReadTask, Decidable (readTask.Notified shard)
  | .reading | .removing _ => isFalse id
  | .notifying next => inferInstanceAs (Decidable (shard < next))
  | .clearing _ | .ended => isTrue trivial

theorem ReadTask.Cleared.notified {shard : Nat} {readTask : ReadTask} (h : readTask.Cleared shard) :
    readTask.Notified shard := by
  cases readTask
  case clearing | ended => trivial
  all_goals exact absurd h id

namespace PendingRequest

/-- The sender was inserted before its shard was notified. -/
def InTime (shard : Nat) (self : PendingRequest) : Prop :=
  ¬ self.insertedDuring.Notified shard

/-- A terminal message or the error was sent. -/
def Answered (self : PendingRequest) : Prop :=
  ∃ delivery ∈ self.delivered, delivery.IsLast

/-- The sender was inserted, the call has not failed and the request was not stopped. -/
def Awaited (self : PendingRequest) : Prop :=
  self.phase ≠ .notSent ∧ self.phase ≠ .failed ∧ self.stopped = false

end PendingRequest

/-- What is known of a request whose sender is in the map (`registered`) or not. -/
structure RequestInv (readTask : ReadTask) (shard : Nat) (registered : Prop)
    (request : PendingRequest) :
    Prop where
  notSent : request.phase = .notSent → request.delivered = [] ∧ request.stopped = false ∧
    ¬ registered
  awaited : registered → request.Awaited
  kept : request.Awaited → request.InTime shard → registered ∨ request.Answered
  notified : request.Awaited → request.InTime shard → readTask.Notified shard → request.Answered
  late : request.phase ≠ .notSent → ¬ request.InTime shard →
    readTask.Notified shard ∧ request.delivered = []
  cleared : registered → request.InTime shard → ¬ readTask.Cleared shard

namespace RequestInv

variable {readTask readTask' : ReadTask} {shard : Nat} {registered registered' : Prop}
  {request : PendingRequest}

theorem advance (h : RequestInv readTask shard registered request)
    (hnotified : readTask.Notified shard → readTask'.Notified shard)
    (hanswered : request.Awaited → request.InTime shard → readTask'.Notified shard →
      request.Answered)
    (hcleared : registered → request.InTime shard → ¬ readTask'.Cleared shard) :
    RequestInv readTask' shard registered request where
  notSent := h.notSent
  awaited := h.awaited
  kept := h.kept
  notified := hanswered
  late := fun hphase hlate => ⟨hnotified (h.late hphase hlate).1, (h.late hphase hlate).2⟩
  cleared := hcleared

/-- The sender is dropped after the request was answered, or because nobody waits for it. -/
theorem drop (h : RequestInv readTask shard registered request)
    (hanswered : registered → request.InTime shard → request.Answered) :
    RequestInv readTask shard False request where
  notSent := fun hphase => ⟨(h.notSent hphase).1, (h.notSent hphase).2.1, id⟩
  awaited := False.elim
  kept := by
    intro hawaited htime
    rcases h.kept hawaited htime with hregistered | hdone
    · exact Or.inr (hanswered hregistered htime)
    · exact Or.inr hdone
  notified := h.notified
  late := h.late
  cleared := fun habsurd => habsurd.elim

/-- The request is failed or stopped, and its sender dropped. -/
theorem giveUp (h : RequestInv readTask shard registered request) {phase : SendPhase}
    {stopped : Bool} (hphase : request.phase ≠ .notSent) (hphase' : phase ≠ .notSent)
    (hgone : phase = .failed ∨ stopped = true) :
    RequestInv readTask shard False { request with phase := phase, stopped := stopped } where
  notSent := fun hnot => absurd hnot hphase'
  awaited := False.elim
  kept := by
    rintro ⟨-, hfailed, hstopped⟩
    rcases hgone with hgone | hgone
    · exact absurd hgone hfailed
    · simp only [hgone, Bool.true_eq_false] at hstopped
  notified := by
    rintro ⟨-, hfailed, hstopped⟩
    rcases hgone with hgone | hgone
    · exact absurd hgone hfailed
    · simp only [hgone, Bool.true_eq_false] at hstopped
  late := fun _ hlate => h.late hphase hlate
  cleared := fun habsurd => habsurd.elim

/-- A message is delivered to a request whose sender is in the map. -/
theorem deliver (h : RequestInv readTask shard registered request) (hregistered : registered)
    (hearly : ¬ readTask.Notified shard) (delivery : Delivery) :
    RequestInv readTask shard registered
      { request with delivered := request.delivered ++ [delivery] } where
  notSent := fun hphase => absurd hphase (h.awaited hregistered).1
  awaited := h.awaited
  kept := fun _ _ => Or.inl hregistered
  notified := fun _ _ hnotified => absurd hnotified hearly
  late := fun hphase hlate => absurd (h.late hphase hlate).1 hearly
  cleared := h.cleared

theorem insert (h : RequestInv readTask shard registered request)
    (hphase : request.phase = .notSent) :
    RequestInv readTask shard True
      { request with phase := .inserted, insertedDuring := readTask } where
  notSent := by simp
  awaited := fun _ => ⟨by simp, by simp, (h.notSent hphase).2.1⟩
  kept := fun _ _ => Or.inl trivial
  notified := fun _ htime hnotified => absurd hnotified htime
  late := fun _ hlate => ⟨Classical.not_not.mp hlate, (h.notSent hphase).1⟩
  cleared := fun _ htime hcleared => htime hcleared.notified

theorem queue (h : RequestInv readTask shard registered request)
    (hphase : request.phase = .inserted) {phase : SendPhase}
    (hphase' : phase = .ok ∨ phase = .removing) :
    RequestInv readTask shard registered { request with phase := phase } := by
  have hnotSent : request.phase ≠ .notSent := by simp [hphase]
  have hsame : PendingRequest.Awaited { request with phase := phase } ↔ request.Awaited := by
    rcases hphase' with rfl | rfl <;> simp [PendingRequest.Awaited, hphase]
  exact {
    notSent := by rcases hphase' with rfl | rfl <;> simp
    awaited := fun hregistered => hsame.mpr (h.awaited hregistered)
    kept := fun hawaited htime => h.kept (hsame.mp hawaited) htime
    notified := fun hawaited htime => h.notified (hsame.mp hawaited) htime
    late := fun _ hlate => h.late hnotSent hlate
    cleared := h.cleared }

end RequestInv

/-! ## What is known of the connection -/

variable (sharding : Sharding) (requestId : Call → String)

namespace Connection

/-- The sender of the call is in the map. -/
def Registered (s : Connection Call) (call : Call) : Prop :=
  s.pending (requestId call) = some call

end Connection

/-- What holds in every state. -/
structure ConnectionInv (s : Connection Call) : Prop where
  registered_id : ∀ id call, s.pending id = some call → requestId call = id
  request : ∀ call, RequestInv s.readTask (sharding.shardOf (requestId call)).val
    (s.Registered requestId call) (s.requests call)
  removing : ∀ call, s.readTask = .removing (requestId call) → (s.requests call).phase ≠ .notSent ∧
    (s.Registered requestId call → (s.requests call).Answered)

variable {sharding : Sharding} {requestId : Call → String}

namespace ConnectionInv

variable {s : Connection Call}

omit [DecidableEq Call] in
theorem connect : ConnectionInv sharding requestId (Connection.connect : Connection Call) where
  registered_id := fun _ _ h => nomatch h
  request := fun _ =>
    { notSent := fun _ => ⟨rfl, rfl, nofun⟩
      awaited := nofun
      kept := fun h => absurd rfl h.1
      notified := fun _ _ h => h.elim
      late := fun h => absurd rfl h
      cleared := nofun }
  removing := fun _ h => nomatch h

/-- The record of one request changes, and so may its sender. -/
theorem updateOne (hunique : Function.Injective requestId) (h : ConnectionInv sharding requestId s)
    (call : Call) (sender : Option Call) (request' : PendingRequest) (writeOpen : Bool)
    (frames : List ClientFrame) (hsender : ∀ other, sender = some other → other = call)
    (hrequest : RequestInv s.readTask (sharding.shardOf (requestId call)).val
      (sender = some call) request')
    (hremoving : s.readTask = .removing (requestId call) →
      request'.phase ≠ .notSent ∧ (sender = some call → request'.Answered)) :
    ConnectionInv sharding requestId
      { writeOpen := writeOpen
        frames := frames
        pending := Function.update s.pending (requestId call) sender
        readTask := s.readTask
        requests := Function.update s.requests call request' } where
  registered_id := by
    intro id other hother
    by_cases hid : id = requestId call
    · subst hid
      dsimp only at hother
      rw [Function.update_self] at hother
      rw [hsender other hother]
    · dsimp only at hother
      rw [Function.update_of_ne hid] at hother
      exact h.registered_id id other hother
  request := by
    intro other
    by_cases hother : other = call
    · subst hother
      simp only [Connection.Registered, Function.update_self]
      exact hrequest
    · simp only [Connection.Registered, Function.update_of_ne hother,
        Function.update_of_ne (hunique.ne hother)]
      exact h.request other
  removing := by
    intro other hid
    by_cases hother : other = call
    · subst hother
      simp only [Connection.Registered, Function.update_self]
      exact hremoving hid
    · simp only [Connection.Registered, Function.update_of_ne hother,
        Function.update_of_ne (hunique.ne hother)]
      exact h.removing other hid

/-- The calls of `send` and of `stop_responding_to` keep the invariant. -/
theorem insert (hunique : Function.Injective requestId) (h : ConnectionInv sharding requestId s)
    (call : Call) : ConnectionInv sharding requestId
      (s.step sharding requestId (.insert call)) := by
  simp only [Connection.step]
  split
  · rename_i hphase
    refine h.updateOne hunique call (some call) _ _ _
      (fun _ heq => (Option.some.inj heq).symm) ?_ ?_
    · simpa using (h.request call).insert hphase
    · intro hid
      exact absurd hphase (h.removing call hid).1
  · exact h

theorem updateRequest (hunique : Function.Injective requestId)
    (h : ConnectionInv sharding requestId s) (call : Call) (request' : PendingRequest)
    (writeOpen : Bool) (frames : List ClientFrame)
    (hrequest : RequestInv s.readTask (sharding.shardOf (requestId call)).val
      (s.Registered requestId call) request')
    (hremoving : s.readTask = .removing (requestId call) →
      request'.phase ≠ .notSent ∧ (s.Registered requestId call → request'.Answered)) :
    ConnectionInv sharding requestId
      { s with
        writeOpen := writeOpen
        frames := frames
        requests := Function.update s.requests call request' } := by
  have hsender : ∀ other, s.pending (requestId call) = some other → other = call :=
    fun other hother => hunique (h.registered_id _ other hother)
  have hinv := h.updateOne hunique call (s.pending (requestId call)) request' writeOpen
    frames hsender
    hrequest hremoving
  rwa [Function.update_eq_self] at hinv

theorem queue (hunique : Function.Injective requestId) (h : ConnectionInv sharding requestId s)
    (call : Call) : ConnectionInv sharding requestId (s.step sharding requestId (.queue call)) := by
  simp only [Connection.step]
  split
  · rename_i hphase
    have hnext : (if s.writeOpen then SendPhase.ok else .removing) = .ok ∨
        (if s.writeOpen then SendPhase.ok else .removing) = .removing := by split <;> simp
    refine h.updateRequest hunique call _ _ _ ((h.request call).queue hphase hnext)
      fun hid => ⟨?_, ?_⟩
    · rcases hnext with hnext | hnext <;> simp only [hnext] <;> simp
    · exact (h.removing call hid).2
  · exact h

/-- A call that fails, and a stream that stops its request, drop the sender. -/
theorem giveUp (hunique : Function.Injective requestId) (h : ConnectionInv sharding requestId s)
    (call : Call) {phase : SendPhase} {stopped : Bool} (hphase : (s.requests call).phase ≠ .notSent)
    (hphase' : phase ≠ .notSent) (hgone : phase = .failed ∨ stopped = true)
    (frames : List ClientFrame) :
    ConnectionInv sharding requestId
      { s with
        frames := frames
        pending := Function.update s.pending (requestId call) none
        requests := Function.update s.requests call
          { s.requests call with phase := phase, stopped := stopped } } := by
  refine h.updateOne hunique call none _ _ _ nofun ?_ fun _ => ⟨hphase', nofun⟩
  simpa using (h.request call).giveUp hphase hphase' hgone

theorem removeFailed (hunique : Function.Injective requestId)
    (h : ConnectionInv sharding requestId s) (call : Call) :
    ConnectionInv sharding requestId (s.step sharding requestId (.removeFailed call)) := by
  simp only [Connection.step]
  split
  · rename_i hphase
    exact h.giveUp hunique call (by simp [hphase]) (by simp) (Or.inl rfl) _
  · exact h

theorem stopRespondingTo (hunique : Function.Injective requestId)
    (h : ConnectionInv sharding requestId s) (call : Call) :
    ConnectionInv sharding requestId (s.step sharding requestId (.stopRespondingTo call)) := by
  simp only [Connection.step]
  split
  · rename_i hphase
    exact h.giveUp hunique call (by simp [hphase]) (hphase ▸ nofun) (Or.inr rfl) _
  · exact h

omit [DecidableEq Call] in
/-- The read task moves on without notifying or dropping anyone. -/
theorem goOn (h : ConnectionInv sharding requestId s) {readTask : ReadTask}
    (hnotified : ∀ shard, s.readTask.Notified shard ↔ readTask.Notified shard)
    (hcleared : ∀ shard, ¬ readTask.Cleared shard)
    (hremoving : ∀ call, readTask = .removing (requestId call) →
      (s.requests call).phase ≠ .notSent ∧
      (s.Registered requestId call → (s.requests call).Answered)) :
    ConnectionInv sharding requestId { s with readTask := readTask } where
  registered_id := h.registered_id
  request := fun call => (h.request call).advance (hnotified _).mp
    (fun hawaited htime hnow => (h.request call).notified hawaited htime ((hnotified _).mpr hnow))
    (fun _ _ => hcleared _)
  removing := hremoving

theorem incoming (hunique : Function.Injective requestId) (h : ConnectionInv sharding requestId s)
    (message : InferenceMessage) :
    ConnectionInv sharding requestId (s.step sharding requestId (.incoming message)) := by
  simp only [Connection.step]
  split
  · rename_i hreading
    unfold Connection.routeMessage
    split
    · exact h
    · rename_i scope hscope
      split
      · exact h
      · rename_i call hcall
        have hid := h.registered_id _ call hcall
        have hregistered : s.Registered requestId call := by
          rw [Connection.Registered, hid]
          exact hcall
        have hearly : ¬ s.readTask.Notified (sharding.shardOf (requestId call)).val := by
          rw [hreading]
          exact id
        have hdelivered : ConnectionInv sharding requestId (s.deliver call (.message message)) := by
          refine h.updateRequest hunique call _ _ _
            ((h.request call).deliver hregistered hearly (.message message)) fun hremoving => ?_
          rw [hreading] at hremoving
          cases hremoving
        refine hdelivered.goOn (fun shard => ?_) (fun shard => ?_) fun other hremoving => ?_
        · rw [show (s.deliver call (.message message)).readTask = .reading from hreading]
          split <;> exact Iff.rfl
        · split <;> exact id
        · split at hremoving
          · rename_i hdone
            cases hunique (hid.trans (ReadTask.removing.inj hremoving))
            simp only [Connection.deliver, Connection.setRequest, Function.update_self]
            refine ⟨((h.request call).awaited hregistered).1, fun _ => ?_⟩
            exact ⟨.message message, List.mem_append_right _ (List.mem_singleton.mpr rfl),
              scope, hscope, hdone⟩
          · cases hremoving
  · exact h

theorem removeDone (h : ConnectionInv sharding requestId s) :
    ConnectionInv sharding requestId (s.step sharding requestId .removeDone) := by
  simp only [Connection.step]
  split
  · rename_i removed hremoving
    refine ⟨fun other call hcall => ?_, fun call => ?_, nofun⟩
    · simp only [Connection.removePending] at hcall
      by_cases hother : other = removed
      · rw [hother, Function.update_self] at hcall
        cases hcall
      · rw [Function.update_of_ne hother] at hcall
        exact h.registered_id other call hcall
    · have hrequest := h.request call
      have hback : RequestInv .reading (sharding.shardOf (requestId call)).val
          (s.Registered requestId call) (s.requests call) := by
        rw [hremoving] at hrequest
        exact hrequest.advance id (fun _ _ => False.elim) (fun _ _ => id)
      by_cases hid : requestId call = removed
      · have hanswered := (h.removing call (hid ▸ hremoving)).2
        simpa [Connection.removePending, Connection.Registered, hid] using
          hback.drop fun hregistered _ => hanswered hregistered
      · simpa [Connection.removePending, Connection.Registered,
          Function.update_of_ne hid] using hback
  · exact h

theorem readEnds (h : ConnectionInv sharding requestId s) :
    ConnectionInv sharding requestId (s.step sharding requestId .readEnds) := by
  simp only [Connection.step]
  split
  · rename_i hreading
    refine h.goOn (fun shard => ?_) (fun _ => id) nofun
    rw [hreading]
    exact ⟨False.elim, fun hnow => absurd hnow (Nat.not_lt_zero shard)⟩
  · exact h

end ConnectionInv

/-! ### The end of the read task -/

theorem afterShard_notified {count shard : Nat} {other : Nat} (hother : other < count) :
    (ReadTask.afterShard count shard .notifying (.clearing 0)).Notified other ↔ other ≤ shard := by
  unfold ReadTask.afterShard
  split
  · exact Nat.lt_succ_iff
  · exact ⟨fun _ => by omega, fun _ => trivial⟩

theorem afterShard_cleared {count shard : Nat} {other : Nat} (hother : other < count) :
    (ReadTask.afterShard count shard .clearing .ended).Cleared other ↔ other ≤ shard := by
  unfold ReadTask.afterShard
  split
  · exact Nat.lt_succ_iff
  · exact ⟨fun _ => by omega, fun _ => trivial⟩

theorem afterShard_notCleared {count shard other : Nat} :
    ¬ (ReadTask.afterShard count shard .notifying (.clearing 0)).Cleared other := by
  unfold ReadTask.afterShard
  split
  · exact id
  · exact Nat.not_lt_zero other

theorem afterShard_ne_removing {count shard : Nat} {next : Nat → ReadTask} {last : ReadTask}
    {removed : String} (hnext : ∀ shard, next shard ≠ .removing removed)
    (hlast : last ≠ .removing removed) :
    ReadTask.afterShard count shard next last ≠ .removing removed := by
  unfold ReadTask.afterShard
  split
  · exact hnext _
  · exact hlast

namespace RequestInv

variable {count shard other : Nat} {registered : Prop} {request : PendingRequest}

/-- A request whose sender is in the shard that is notified. -/
theorem notify_own (h : RequestInv (.notifying shard) shard registered request)
    (hregistered : registered) (hcount : shard < count) (requestId : String) :
    RequestInv (.afterShard count shard .notifying (.clearing 0)) shard registered
      { request with delivered := request.delivered ++ [.connectionDropped requestId] } := by
  refine (h.deliver hregistered (Nat.lt_irrefl shard) _).advance (fun _ => ?_) (fun _ _ _ => ?_)
    fun _ _ => afterShard_notCleared
  · exact (afterShard_notified hcount).mpr (Nat.le_refl _)
  · exact ⟨.connectionDropped requestId, List.mem_append_right _ (List.mem_singleton.mpr rfl),
      trivial⟩

theorem notify_other (h : RequestInv (.notifying shard) other registered request)
    (hnone : ¬ (registered ∧ other = shard)) (hcount : other < count) :
    RequestInv (.afterShard count shard .notifying (.clearing 0)) other registered request := by
  refine h.advance (fun hbefore => ?_) (fun hawaited htime hnow => ?_) fun _ _ =>
    afterShard_notCleared
  · exact (afterShard_notified hcount).mpr (Nat.le_of_lt hbefore)
  · rcases Nat.lt_or_eq_of_le ((afterShard_notified hcount).mp hnow) with hbefore | hsame
    · exact h.notified hawaited htime hbefore
    · rcases h.kept hawaited htime with hregistered | hdone
      · exact absurd ⟨hregistered, hsame⟩ hnone
      · exact hdone

/-- A request whose sender is in the shard that is dropped. -/
theorem clear_own (h : RequestInv (.clearing shard) shard registered request)
    (hcount : shard < count) :
    RequestInv (.afterShard count shard .clearing .ended) shard False request := by
  have hanswered : request.Awaited → request.InTime shard → request.Answered :=
    fun hawaited htime => h.notified hawaited htime trivial
  have hdropped := h.drop fun hregistered htime => hanswered (h.awaited hregistered) htime
  refine hdropped.advance (fun _ => ?_) (fun hawaited htime _ =>
    hanswered hawaited htime) False.elim
  exact ((afterShard_cleared hcount).mpr (Nat.le_refl _)).notified

theorem clear_other (h : RequestInv (.clearing shard) other registered request)
    (hne : other ≠ shard) (hcount : other < count) :
    RequestInv (.afterShard count shard .clearing .ended) other registered request := by
  refine h.advance (fun _ => ?_) (fun hawaited htime _ => h.notified hawaited htime trivial)
    fun hregistered htime hnow => ?_
  · unfold ReadTask.afterShard
    split <;> trivial
  · have hle := (afterShard_cleared hcount).mp hnow
    exact h.cleared hregistered htime (Nat.lt_of_le_of_ne hle hne)

end RequestInv

namespace ConnectionInv

variable {s : Connection Call}

theorem notifyShard (h : ConnectionInv sharding requestId s) :
    ConnectionInv sharding requestId (s.step sharding requestId .notifyShard) := by
  simp only [Connection.step]
  split
  · rename_i shard hnotifying
    refine ⟨h.registered_id, fun call => ?_, fun call hremoving => ?_⟩
    · have hrequest := h.request call
      rw [hnotifying] at hrequest
      have hcount := (sharding.shardOf (requestId call)).isLt
      simp only [Connection.notify, Connection.Registered]
      split
      · rename_i hown
        obtain ⟨hregistered, hshard⟩ := hown
        rw [hshard] at hrequest hcount ⊢
        exact hrequest.notify_own hregistered hcount (requestId call)
      · rename_i hown
        exact hrequest.notify_other hown hcount
    · exact absurd hremoving (afterShard_ne_removing (fun _ => nofun) nofun)
  · exact h

theorem clearShard (h : ConnectionInv sharding requestId s) :
    ConnectionInv sharding requestId (s.step sharding requestId .clearShard) := by
  simp only [Connection.step]
  split
  · rename_i shard hclearing
    refine ⟨fun id call hcall => ?_, fun call => ?_, fun call hremoving => ?_⟩
    · simp only [Connection.clear] at hcall
      split at hcall
      · cases hcall
      · exact h.registered_id id call hcall
    · have hrequest := h.request call
      rw [hclearing] at hrequest
      have hcount := (sharding.shardOf (requestId call)).isLt
      simp only [Connection.clear, Connection.Registered]
      split
      · rename_i hshard
        rw [hshard] at hrequest hcount ⊢
        simpa using hrequest.clear_own hcount
      · rename_i hshard
        exact hrequest.clear_other hshard hcount
    · exact absurd hremoving (afterShard_ne_removing (fun _ => nofun) nofun)
  · exact h

/-- **Every step keeps the invariant.** -/
theorem next (hunique : Function.Injective requestId) (h : ConnectionInv sharding requestId s) :
    ∀ input, ConnectionInv sharding requestId (s.step sharding requestId input)
  | .insert call => h.insert hunique call
  | .queue call => h.queue hunique call
  | .removeFailed call => h.removeFailed hunique call
  | .stopRespondingTo call => h.stopRespondingTo hunique call
  | .incoming message => h.incoming hunique message
  | .removeDone => h.removeDone
  | .readEnds => h.readEnds
  | .notifyShard => h.notifyShard
  | .clearShard => h.clearShard
  | .writeCloses => ⟨h.registered_id, h.request, h.removing⟩

end ConnectionInv

/-- **The invariant holds in every state reached.** -/
theorem connectionInv_reaches (hunique : Function.Injective requestId) {s : Connection Call}
    (h : Reaches (Connection.step sharding requestId) (fun _ _ => True) .connect s) :
    ConnectionInv sharding requestId s :=
  h.invariant (ConnectionInv sharding requestId) .connect fun _ input _ hinv _ =>
    hinv.next hunique input

/-! ## Nobody is left waiting -/

namespace Connection

/-- No call of `send` is in the middle of its steps. -/
def Settled (s : Connection Call) : Prop :=
  ∀ call, (s.requests call).phase ≠ .inserted ∧ (s.requests call).phase ≠ .removing

/-- Every request that was sent and not stopped was answered, and no sender is left. -/
structure NoOrphan (s : Connection Call) : Prop where
  answered : ∀ call, (s.requests call).phase = .ok → (s.requests call).stopped = false →
    (s.requests call).Answered
  noSender : ∀ id, s.pending id = none

end Connection

/-- **No orphaned request.**  When the read task has ended and no call is in the middle of its
steps, nobody is left waiting if and only if the sender of every request that was sent and not
stopped was inserted before its shard was notified.  Requests have ids of their own. -/
theorem noOrphan_iff (sharding : Sharding) (requestId : Call → String)
    (hunique : Function.Injective requestId) {s : Connection Call}
    (h : Reaches (Connection.step sharding requestId) (fun _ _ => True) .connect s)
    (hended : s.readTask = .ended) (hsettled : s.Settled) :
    s.NoOrphan ↔ ∀ call, (s.requests call).phase = .ok → (s.requests call).stopped = false →
      (s.requests call).InTime (sharding.shardOf (requestId call)).val := by
  have hinv := connectionInv_reaches hunique h
  constructor
  · intro hnone call hok hstopped
    by_contra hlate
    obtain ⟨-, hempty⟩ := (hinv.request call).late (by simp [hok]) hlate
    obtain ⟨delivery, hmem, -⟩ := hnone.answered call hok hstopped
    rw [hempty] at hmem
    cases hmem
  · intro htime
    refine ⟨fun call hok hstopped => ?_, fun id => ?_⟩
    · have hawaited : (s.requests call).Awaited := ⟨by simp [hok], by simp [hok], hstopped⟩
      refine (hinv.request call).notified hawaited (htime call hok hstopped) ?_
      rw [hended]
      trivial
    · cases hsender : s.pending id with
      | none => rfl
      | some call =>
        have hid := hinv.registered_id id call hsender
        have hregistered : s.Registered requestId call := by
          rw [Connection.Registered, hid]
          exact hsender
        obtain ⟨hsent, hfailed, hstopped⟩ := (hinv.request call).awaited hregistered
        have hok : (s.requests call).phase = .ok := by
          have hnot := hsettled call
          cases hphase : (s.requests call).phase <;> simp_all
        have hnotCleared := (hinv.request call).cleared hregistered (htime call hok hstopped)
        rw [hended] at hnotCleared
        exact absurd trivial hnotCleared

/-! ## The response stream -/

/-- What a poll of a response stream gives. -/
inductive StreamPoll where
  | item (delivery : Delivery)
  | ended
  | waits
  deriving DecidableEq, Repr

/-- A poll of `response_stream`, for a stream that has read some of what was delivered. -/
def Connection.pollStream (s : Connection Call) (requestId : Call → String) (call : Call)
    (read : Nat) (cancelled : Bool) : StreamPoll :=
  if cancelled then .ended
  else
    match (s.requests call).delivered.drop read with
    | delivery :: _ => .item delivery
    | [] => if s.pending (requestId call) = some call then .waits else .ended

/-- The read task has ended, nothing was sent to the request, and its sender is in the map. -/
structure Orphaned (requestId : Call → String) (call : Call) (s : Connection Call) : Prop where
  ended : s.readTask = .ended
  ok : (s.requests call).phase = .ok
  registered : s.Registered requestId call
  empty : (s.requests call).delivered = []

/-- A step about another call leaves the request as it is. -/
theorem Orphaned.updateOther (hunique : Function.Injective requestId) {s : Connection Call}
    {call other : Call} (h : Orphaned requestId call s) (hother : call ≠ other)
    (sender : Option Call) (request' : PendingRequest) (writeOpen : Bool)
    (frames : List ClientFrame) :
    Orphaned requestId call
      { writeOpen := writeOpen
        frames := frames
        pending := Function.update s.pending (requestId other) sender
        readTask := s.readTask
        requests := Function.update s.requests other request' } where
  ended := h.ended
  ok := by simpa only [Function.update_of_ne hother] using h.ok
  registered := by
    simpa only [Connection.Registered, Function.update_of_ne (hunique.ne hother)] using h.registered
  empty := by simpa only [Function.update_of_ne hother] using h.empty

omit [DecidableEq Call] in
theorem Orphaned.ne_of_phase {s : Connection Call} {call other : Call}
    (h : Orphaned requestId call s) {phase : SendPhase} (hphase : (s.requests other).phase = phase)
    (hphase' : phase ≠ .ok) :
    call ≠ other := by
  rintro rfl
  exact hphase' (hphase.symm.trans h.ok)

/-- Only its own stream ends the wait of an orphaned request. -/
theorem Orphaned.next (hunique : Function.Injective requestId) {s : Connection Call} {call : Call}
    (h : Orphaned requestId call s) {input : ConnectionInput Call}
    (hinput : input ≠ .stopRespondingTo call) :
    Orphaned requestId call (s.step sharding requestId input) := by
  have hok := h.ok
  have hended := h.ended
  cases input with
  | insert other =>
    simp only [Connection.step]
    split
    · rename_i hphase
      have hother := h.ne_of_phase hphase (by decide)
      exact h.updateOther hunique hother _ _ _ _
    · exact h
  | queue other =>
    simp only [Connection.step]
    split
    · rename_i hphase
      have hother := h.ne_of_phase hphase (by decide)
      have hnext := h.updateOther hunique hother (s.pending (requestId other))
        { s.requests other with phase := if s.writeOpen then .ok else .removing } s.writeOpen
        (s.write (.request (requestId other))).frames
      rwa [Function.update_eq_self] at hnext
    · exact h
  | removeFailed other =>
    simp only [Connection.step]
    split
    · rename_i hphase
      have hother := h.ne_of_phase hphase (by decide)
      exact h.updateOther hunique hother _ _ _ _
    · exact h
  | stopRespondingTo other =>
    simp only [Connection.step]
    have hother : call ≠ other := fun heq => hinput (by rw [heq])
    split
    · exact h.updateOther hunique hother _ _ _ _
    · exact h
  | incoming | removeDone | readEnds | notifyShard | clearShard =>
    simp only [Connection.step, hended]
    exact h
  | writeCloses => exact ⟨h.ended, h.ok, h.registered, h.empty⟩

/-- **An orphaned request waits for ever**, unless its own stream gives it up. -/
theorem orphan_waits (hunique : Function.Injective requestId) {call : Call} :
    ∀ (inputs : List (ConnectionInput Call)) {s : Connection Call}, Orphaned requestId call s →
      .stopRespondingTo call ∉ inputs →
      (inputs.foldl (Connection.step sharding requestId) s).pollStream requestId call 0 false =
        .waits
  | [], s, h, _ => by
    have hregistered : s.pending (requestId call) = some call := h.registered
    simp [Connection.pollStream, h.empty, hregistered]
  | input :: inputs, s, h, hinputs => by
    rw [List.mem_cons, not_or] at hinputs
    exact orphan_waits hunique inputs (h.next hunique (Ne.symm hinputs.1)) hinputs.2

/-! ## An insertion that comes too late -/

/-- A map with one shard. -/
def oneShard : Sharding where
  count := 1
  shardOf := fun _ => 0

/-- The server closes the connection; the senders have been notified when the connection is found
alive. -/
def closingConnection : List (ConnectionInput Unit) :=
  [.readEnds, .notifyShard]

/-- The request is inserted after the map was cleared, and its frame is queued. -/
def lateInsertion : List (ConnectionInput Unit) :=
  closingConnection ++ [.clearShard, .insert (), .queue ()]

theorem lateInsertion_settled :
    (lateInsertion.foldl (Connection.step oneShard fun _ => "request") .connect).Settled := by
  rintro ⟨⟩
  exact ⟨by decide, by decide⟩

/-- **A request is orphaned.**  The connection is not disconnected when it is checked. -/
theorem lateInsertion_orphaned :
    (closingConnection.foldl (Connection.step oneShard fun _ => "request")
      .connect).isDisconnected =
        false ∧
      (lateInsertion.foldl (Connection.step oneShard fun _ => "request") .connect).readTask =
        .ended ∧
      (lateInsertion.foldl (Connection.step oneShard fun _ => "request") .connect).Settled ∧
      ¬ (lateInsertion.foldl (Connection.step oneShard fun _ => "request") .connect).NoOrphan ∧
      ∀ inputs : List (ConnectionInput Unit), .stopRespondingTo () ∉ inputs →
        (inputs.foldl (Connection.step oneShard fun _ => "request")
          (lateInsertion.foldl (Connection.step oneShard fun _ => "request") .connect)).pollStream
            (fun _ => "request") () 0 false = .waits := by
  refine ⟨by decide, by decide, lateInsertion_settled, fun h => ?_, fun inputs hinputs => ?_⟩
  · exact absurd (h.noSender "request") (by decide)
  · exact orphan_waits (fun _ _ _ => rfl) inputs ⟨by decide, by decide, rfl, by decide⟩ hinputs

theorem noOrphan_lateInsertion :
    ¬ (lateInsertion.foldl (Connection.step oneShard fun _ => "request") .connect).NoOrphan := by
  intro h
  have hiff := noOrphan_iff oneShard (fun _ : Unit => "request") (fun _ _ _ => rfl)
    (.runs lateInsertion (fun _ _ _ => trivial) .start) (by decide) lateInsertion_settled
  exact hiff.mp h () (by decide) (by decide) (by decide)

end Paddler
