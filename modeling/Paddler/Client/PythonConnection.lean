import Paddler.Client.PythonClient
import Paddler.Library.StreamView

/-!
# A connection of the Python client

Model of `inference_socket_connection.py` of `paddler_client_python`, for a connection that stays
up.

* `Connection.step` — a call of `send`, or a frame for the read task.
* `callState_step` — **the connection treats each call on its own.**
* `responseStream_run` — the stream of a call reads the messages that arrive after its request.
-/

set_option autoImplicit false

namespace Paddler.PythonClient

open StreamView

/-- What is put into the queue of a request. -/
inductive QueueItem where
  | message (message : InferenceMessage)
  | jsonError (rawData : WireValue)
  deriving Repr

/-- `InferenceSocketConnection`: the queue that each id is registered with, and the queues of the
calls. -/
structure Connection (Call : Type) where
  pending : String → Option Call
  queues : Call → Option (List QueueItem)

variable {Call : Type} [DecidableEq Call]

namespace Connection

/-- A connection without requests. -/
def connect : Connection Call where
  pending := fun _ => none
  queues := fun _ => none

variable (self : Connection Call)

/-- `send`: a queue of its own for the call. -/
def send (call : Call) (requestId : String) : Connection Call :=
  match self.queues call with
  | some _ => self
  | none =>
    { pending := Function.update self.pending requestId (some call)
      queues := Function.update self.queues call (some []) }

/-- `queue.put_nowait`. -/
def putNowait (call : Call) (item : QueueItem) : Connection Call :=
  { self with
    queues := Function.update self.queues call ((self.queues call).map fun queue =>
      queue ++ [item]) }

/-- `del self._pending[request_id]`. -/
def deletePending (requestId : String) : Connection Call :=
  { self with pending := Function.update self.pending requestId none }

/-- The request id of a frame that could not be parsed. -/
def rawRequestId (raw : WireValue) : Option String :=
  match raw.field "Response" with
  | some (.object fields) => (WireValue.field "request_id" (.object fields)).bind WireValue.asString
  | _ => (raw.field "Error").bind fun error => (error.field "request_id").bind WireValue.asString

/-- `_push_parse_error_to_pending`. -/
def pushParseErrorToPending (raw : WireValue) : Connection Call :=
  match rawRequestId raw with
  | none => self
  | some requestId =>
    if requestId = "" then self
    else
      match self.pending requestId with
      | none => self
      | some call => (self.putNowait call (.jsonError raw)).deletePending requestId

/-- `_dispatch_message`. -/
def dispatchMessage (raw : WireValue) : Connection Call :=
  match parseInferenceClientMessage raw with
  | .error _ => self.pushParseErrorToPending raw
  | .ok message =>
    match self.pending message.requestId with
    | none => self
    | some call =>
      let put := self.putNowait call (.message message)
      if message.isTerminal then put.deletePending message.requestId else put

/-- One step. -/
def step (ids : ClientRequestIds Call) (s : Connection Call) :
    ClientSocketInput Call → Connection Call
  | .send call => s.send call (ids.idOf call)
  | .receive message => s.dispatchMessage message.toWire

end Connection

/-- `ResponseStream`: what `__anext__` gives until it ends. -/
def responseStream (queue : List QueueItem) : StreamView InferenceMessage :=
  readStream
    (fun
      | .message message => .ok (some message)
      | .jsonError rawData => .error rawData)
    InferenceMessage.isTerminal queue

/-! ## What reaches the stream of a call -/

/-- The item that a message for a request puts into its queue, and whether its entry is deleted
then. -/
def itemOf (message : Paddler.InferenceMessage) : QueueItem × Bool :=
  match parseInferenceClientMessage message.toWire with
  | .ok parsed => (.message parsed, parsed.isTerminal)
  | .error _ => (.jsonError message.toWire, true)

/-- The request id is found in a frame that could not be parsed. -/
theorem rawRequestId_toWire {message : Paddler.InferenceMessage} {scope : RequestScopedMessage}
    (hscope : message.scope = some scope) :
    Connection.rawRequestId message.toWire = some scope.requestId := by
  cases message <;> cases hscope <;> rfl

namespace Connection

/-- The entries are those of calls that were sent, under their own ids. -/
structure PendingInv (ids : ClientRequestIds Call) (s : Connection Call) : Prop where
  id_eq : ∀ requestId call, s.pending requestId = some call → ids.idOf call = requestId
  sent : ∀ requestId call, s.pending requestId = some call → s.queues call ≠ none

variable {ids : ClientRequestIds Call} {s : Connection Call}

omit [DecidableEq Call] in
theorem PendingInv.pending_empty (h : PendingInv ids s) : s.pending "" = none := by
  cases hpending : s.pending "" with
  | none => rfl
  | some call => exact absurd (h.id_eq "" call hpending) (ids.ne_empty call)

/-- A message goes to the call that is registered with its request id. -/
theorem dispatchMessage_toWire (h : PendingInv ids s) (message : Paddler.InferenceMessage) :
    s.dispatchMessage message.toWire =
      match message.scope with
      | none => s
      | some scope =>
        match s.pending scope.requestId with
        | none => s
        | some call =>
          let put := s.putNowait call (itemOf message).1
          if (itemOf message).2 then put.deletePending scope.requestId else put := by
  cases hscope : message.scope with
  | none =>
    cases message with
    | notification mode => cases mode <;> rfl
    | error requestId failure => cases hscope
    | response generatedBy requestId response => cases hscope
  | some scope =>
    unfold dispatchMessage itemOf
    cases hparse : parseInferenceClientMessage message.toWire with
    | ok parsed =>
      dsimp only
      rw [(parse_toWire hscope).1 parsed hparse]
    | error e =>
      dsimp only
      rw [pushParseErrorToPending, rawRequestId_toWire hscope]
      dsimp only
      by_cases hid : scope.requestId = ""
      · rw [if_pos hid, hid, h.pending_empty]
      · rw [if_neg hid]
        rfl

omit [DecidableEq Call] in
theorem pendingInv_connect : PendingInv ids (connect : Connection Call) where
  id_eq := fun _ _ h => by cases h
  sent := fun _ _ h => by cases h

theorem PendingInv.putNowait (h : PendingInv ids s) (call : Call) (item : QueueItem) :
    PendingInv ids (s.putNowait call item) where
  id_eq := h.id_eq
  sent := by
    intro requestId other hpending
    have hsent := h.sent requestId other hpending
    by_cases hcall : other = call
    · subst hcall
      simpa [Connection.putNowait] using hsent
    · simpa [Connection.putNowait, hcall] using hsent

omit [DecidableEq Call] in
theorem PendingInv.deletePending (h : PendingInv ids s) (requestId : String) :
    PendingInv ids (s.deletePending requestId) := by
  have hkept : ∀ id call, (s.deletePending requestId).pending id = some call →
      s.pending id = some call := by
    intro id call hpending
    by_cases hid : id = requestId
    · simp [Connection.deletePending, hid] at hpending
    · simpa [Connection.deletePending, hid] using hpending
  exact ⟨fun id call hpending => h.id_eq id call (hkept id call hpending),
    fun id call hpending => h.sent id call (hkept id call hpending)⟩

theorem PendingInv.send (h : PendingInv ids s) (call : Call) :
    PendingInv ids (s.send call (ids.idOf call)) := by
  unfold Connection.send
  cases hqueue : s.queues call with
  | some queue => exact h
  | none =>
    constructor
    · intro requestId other hpending
      by_cases hid : requestId = ids.idOf call
      · subst hid
        have hother : call = other := by simpa using hpending
        rw [hother]
      · exact h.id_eq requestId other (by simpa [hid] using hpending)
    · intro requestId other hpending
      by_cases hcall : other = call
      · simp [hcall]
      · have hid : requestId ≠ ids.idOf call := by
          rintro rfl
          exact hcall (by simpa using hpending.symm)
        simpa [hcall] using h.sent requestId other (by simpa [hid] using hpending)

theorem PendingInv.step (h : PendingInv ids s) (input : ClientSocketInput Call) :
    PendingInv ids (s.step ids input) := by
  cases input with
  | send call => exact h.send call
  | receive message =>
    show PendingInv ids (s.dispatchMessage message.toWire)
    rw [dispatchMessage_toWire h]
    cases message.scope with
    | none => exact h
    | some scope =>
      dsimp only
      cases s.pending scope.requestId with
      | none => exact h
      | some call =>
        dsimp only
        split
        · exact (h.putNowait call _).deletePending _
        · exact h.putNowait call _

end Connection

/-! ## One call -/

/-- The queue of a call, and whether the call is registered. -/
structure CallState where
  queue : List QueueItem
  registered : Bool

/-- What a step does for one call. -/
def callStep (requestId : String) (call : Call) :
    Option CallState → ClientSocketInput Call → Option CallState
  | none, .send sender => if sender = call then some { queue := [], registered := true } else none
  | some state, .receive message =>
    if state.registered && message.isFor requestId then
      some { queue := state.queue ++ [(itemOf message).1], registered := !(itemOf message).2 }
    else some state
  | state, _ => state

theorem callStep_other {requestId : String} {call : Call} {message : Paddler.InferenceMessage}
    (hfor : message.isFor requestId = false) (state : Option CallState) :
    callStep requestId call state (.receive message) = state := by
  cases state with
  | none => rfl
  | some state => simp [callStep, hfor]

/-- A call in the connection. -/
def Connection.callState (ids : ClientRequestIds Call) (call : Call) (s : Connection Call) :
    Option CallState :=
  (s.queues call).map fun queue => { queue, registered := s.pending (ids.idOf call) = some call }

namespace Connection

variable {ids : ClientRequestIds Call} {s : Connection Call}

theorem callState_congr {s' : Connection Call} {call : Call}
    (hqueue : s'.queues call = s.queues call)
    (hpending : s'.pending (ids.idOf call) = s.pending (ids.idOf call)) :
    s'.callState ids call = s.callState ids call := by
  unfold callState
  rw [hqueue, hpending]

theorem callState_send (call sender : Call) :
    (s.send sender (ids.idOf sender)).callState ids call =
      callStep (ids.idOf call) call (s.callState ids call) (.send sender) := by
  unfold send
  by_cases hcall : sender = call
  · subst hcall
    cases hqueue : s.queues sender with
    | some queue => simp [callState, hqueue, callStep]
    | none => simp [callState, hqueue, callStep]
  · have hid : ids.idOf call ≠ ids.idOf sender := fun hid => hcall (ids.injective hid.symm)
    have hne : call ≠ sender := fun heq => hcall heq.symm
    cases hqueue : s.queues sender with
    | some queue => cases hown : s.queues call <;> simp [callState, hown, callStep, hcall]
    | none => cases hown : s.queues call <;> simp [callState, hown, callStep, hcall, hne, hid]

/-- **The connection treats each call on its own.** -/
theorem callState_step (h : PendingInv ids s) (call : Call) (input : ClientSocketInput Call) :
    (s.step ids input).callState ids call =
      callStep (ids.idOf call) call (s.callState ids call) input := by
  cases input with
  | send sender => exact callState_send call sender
  | receive message =>
    show (s.dispatchMessage message.toWire).callState ids call = _
    rw [dispatchMessage_toWire h]
    cases hscope : message.scope with
    | none =>
      have hfor : message.isFor (ids.idOf call) = false := by
        simp [Paddler.InferenceMessage.isFor, hscope]
      rw [callStep_other hfor]
    | some scope =>
      have hfor : message.isFor (ids.idOf call) = decide (scope.requestId = ids.idOf call) := by
        simp [Paddler.InferenceMessage.isFor, hscope]
      dsimp only
      cases hpending : s.pending scope.requestId with
      | none =>
        have hclosed : (decide (s.pending (ids.idOf call) = some call) &&
            decide (scope.requestId = ids.idOf call)) = false := by
          by_cases hid : scope.requestId = ids.idOf call
          · rw [hid] at hpending
            simp [hpending]
          · simp [hid]
        cases hown : s.queues call <;> simp [callState, hown, callStep, hfor, hclosed]
      | some other =>
        have hother := h.id_eq _ _ hpending
        by_cases hcall : other = call
        · subst hcall
          obtain ⟨queue, hqueue⟩ := Option.ne_none_iff_exists'.mp (h.sent _ _ hpending)
          rw [← hother] at hpending hfor ⊢
          dsimp only
          split
          next hlast => simp [callState, putNowait, deletePending, hqueue, callStep, hpending,
            hfor, hlast]
          next hlast => simp [callState, putNowait, hqueue, callStep, hpending, hfor, hlast]
        · have hid : ids.idOf call ≠ scope.requestId :=
            fun hid => hcall (ids.injective (hother.trans hid.symm))
          have hne : call ≠ other := fun heq => hcall heq.symm
          have hqueue : (s.putNowait other (itemOf message).1).queues call = s.queues call := by
            simp [putNowait, hne]
          rw [callStep_other (by simpa [hfor] using hid.symm)]
          dsimp only
          split
          · exact callState_congr hqueue (by simp [deletePending, putNowait, hid])
          · exact callState_congr hqueue rfl

theorem callState_run (h : PendingInv ids s) (call : Call)
    (inputs : List (ClientSocketInput Call)) :
    (inputs.foldl (step ids) s).callState ids call =
      inputs.foldl (callStep (ids.idOf call) call) (s.callState ids call) := by
  induction inputs generalizing s with
  | nil => rfl
  | cons input inputs ih =>
    rw [List.foldl_cons, List.foldl_cons, ih (h.step input), callState_step h]

end Connection

/-- What a message is for the stream of a request. -/
def decodeFor (requestId : String) (message : Paddler.InferenceMessage) :
    Except ParseError (Option InferenceMessage) :=
  if message.isFor requestId then (parseInferenceClientMessage message.toWire).map
    some else .ok none

/-- The items that arrive in the queue of a request. -/
def receivedItems (requestId : String) : List Paddler.InferenceMessage → List QueueItem
  | [] => []
  | message :: messages =>
    if message.isFor requestId then
      if (itemOf message).2 then [(itemOf message).1]
      else (itemOf message).1 :: receivedItems requestId messages
    else receivedItems requestId messages

theorem callStep_run_closed {requestId : String} {call : Call} {queue : List QueueItem}
    (inputs : List (ClientSocketInput Call)) :
    inputs.foldl (callStep requestId call) (some { queue, registered := false }) =
      some { queue, registered := false } := by
  induction inputs with
  | nil => rfl
  | cons input inputs ih =>
    cases input with
    | send sender => exact ih
    | receive message => exact ih

/-- The queue of a registered call gets what arrives for it. -/
theorem callStep_run_open {requestId : String} {call : Call} {queue : List QueueItem}
    (inputs : List (ClientSocketInput Call)) :
    (inputs.foldl (callStep requestId call) (some { queue, registered := true })).map
      CallState.queue = some (queue ++ receivedItems requestId (receivedMessages inputs)) := by
  induction inputs generalizing queue with
  | nil =>
    rw [receivedMessages, receivedItems, List.append_nil]
    rfl
  | cons input inputs ih =>
    cases input with
    | send sender => exact ih
    | receive message =>
      rw [List.foldl_cons, receivedMessages, receivedItems]
      cases hfor : message.isFor requestId with
      | false =>
        rw [callStep_other hfor, ih]
        rfl
      | true =>
        have hstep : callStep requestId call (some { queue, registered := true })
          (.receive message) =
            some { queue := queue ++ [(itemOf message).1], registered := !(itemOf message).2 } := by
          simp [callStep, hfor]
        rw [hstep, if_pos rfl]
        cases hlast : (itemOf message).2 with
        | true =>
          rw [Bool.not_true, callStep_run_closed, if_pos rfl]
          rfl
        | false =>
          rw [Bool.not_false, ih, if_neg Bool.false_ne_true, List.append_assoc]
          rfl

/-- The queue of a call gets what arrives after its request. -/
theorem callStep_run {requestId : String} {call : Call} (inputs : List (ClientSocketInput Call)) :
    (inputs.foldl (callStep requestId call) none).map CallState.queue =
      (messagesSince call inputs).map (receivedItems requestId) := by
  induction inputs with
  | nil => rfl
  | cons input inputs ih =>
    cases input with
    | receive message => exact ih
    | send sender =>
      rw [List.foldl_cons, messagesSince, callStep]
      split
      · exact callStep_run_open inputs
      · exact ih

theorem responseStream_receivedItems (requestId : String)
    (messages : List Paddler.InferenceMessage) :
    responseStream (receivedItems requestId messages) =
      readStream (decodeFor requestId) InferenceMessage.isTerminal messages := by
  induction messages with
  | nil => rfl
  | cons message messages ih =>
    rw [receivedItems, readStream, decodeFor]
    cases hfor : message.isFor requestId with
    | false => exact ih
    | true =>
      rw [if_pos rfl, if_pos rfl]
      unfold itemOf
      cases hparse : parseInferenceClientMessage message.toWire with
      | error e => rfl
      | ok parsed =>
        cases hlast : parsed.isTerminal with
        | true => simp [responseStream, readStream, Except.map, hlast]
        | false =>
          rw [← ih]
          simp [responseStream, readStream, Except.map, hlast]

/-- **The stream of a call.** -/
theorem responseStream_run (ids : ClientRequestIds Call) (call : Call)
    (inputs : List (ClientSocketInput Call)) :
    ((inputs.foldl (Connection.step ids) .connect).queues call).map responseStream =
      (messagesSince call inputs).map
        (readStream (decodeFor (ids.idOf call)) InferenceMessage.isTerminal) := by
  have hinv : Connection.PendingInv ids (Connection.connect : Connection Call) :=
    Connection.pendingInv_connect
  have hrun := Connection.callState_run hinv call inputs
  have hqueue : (inputs.foldl (Connection.step ids) .connect).queues call =
      ((inputs.foldl (Connection.step ids) .connect).callState ids call).map CallState.queue := by
    cases hown : (inputs.foldl (Connection.step ids) .connect).queues call <;>
      simp [Connection.callState, hown]
  have hnone : (Connection.connect : Connection Call).callState ids call = none := rfl
  rw [hqueue, hrun, hnone, callStep_run, Option.map_map]
  exact congrArg (fun f => (messagesSince call inputs).map f)
    (funext fun messages => responseStream_receivedItems (ids.idOf call) messages)

end Paddler.PythonClient
