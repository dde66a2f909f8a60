import Paddler.Client.JavaScriptClient
import Paddler.Client.PythonConnection

/-!
# The clients on one connection

The balancer sends the messages of any number of requests on one connection.  The Rust client goes
by `response_is_terminal`: the stream of a request has the messages with its id, up to the first
terminal one.

* `PythonAgrees`, `JavaScriptAgrees` — the client gives a call that stream.
* `clientsAgree_iff` — **the Python client does if and only if it misreads no message for the call
  while its stream is open, and the JavaScript client if and only if it can decode every message on
  the socket until then.**
* `clients_disagree` — two runs in which they do not.
-/

set_option autoImplicit false

namespace Paddler

open StreamView

variable {Call : Type} [DecidableEq Call]

/-! ## What the clients give -/

/-- The stream that the Python client gives a call. -/
def pythonView (ids : ClientRequestIds Call) (inputs : List (ClientSocketInput Call))
    (call : Call) :
    Option (StreamView PythonClient.InferenceMessage) :=
  ((inputs.foldl (PythonClient.Connection.step ids) .connect).queues call).map
    PythonClient.responseStream

/-- The stream that the JavaScript client gives a call. -/
def javaScriptView (ids : ClientRequestIds Call) (inputs : List (ClientSocketInput Call))
    (call : Call) :
    Option (StreamView JavaScriptClient.Normalised) :=
  (messagesSince call inputs).map fun messages =>
    JavaScriptClient.tokenStream (ids.idOf call) (messages.map InferenceMessage.toWire)

/-- A client gives a request its messages, decoded, up to and including the first that is terminal,
ends its stream there and nowhere else, and does not fail it. -/
abbrev GivesStream {μ ε : Type} (decode : WireValue → Except ε μ) (requestId : String)
    (messages : List InferenceMessage) (view : StreamView μ) : Prop :=
  Follows (fun message => (decode message.toWire).map some) (InferenceMessage.isFor requestId)
    (InferenceMessage.endsFor requestId) messages view

/-- The Python client gives a call that was sent the stream of its request. -/
def PythonAgrees (ids : ClientRequestIds Call) (inputs : List (ClientSocketInput Call))
    (call : Call) : Prop :=
  ∀ messages, messagesSince call inputs = some messages → ∃ view,
    pythonView ids inputs call = some view ∧
    GivesStream PythonClient.parseInferenceClientMessage (ids.idOf call) messages view

/-- So does the JavaScript client. -/
def JavaScriptAgrees (ids : ClientRequestIds Call) (inputs : List (ClientSocketInput Call))
    (call : Call) : Prop :=
  ∀ messages, messagesSince call inputs = some messages → ∃ view,
    javaScriptView ids inputs call = some view ∧
    GivesStream JavaScriptClient.parse (ids.idOf call) messages view

/-- While the stream of a call is open, the Python client does not misread a message for the
call. -/
def ReadByPython (ids : ClientRequestIds Call) (inputs : List (ClientSocketInput Call))
    (call : Call) : Prop :=
  ∀ messages, messagesSince call inputs = some messages →
    ∀ message ∈ takeThrough (InferenceMessage.endsFor (ids.idOf call)) messages,
      message.isFor (ids.idOf call) = true → PythonClient.isMisread message = false

/-- While it is open, the schema of the JavaScript client knows every message that arrives. -/
def ReadByJavaScript (ids : ClientRequestIds Call) (inputs : List (ClientSocketInput Call))
    (call : Call) : Prop :=
  ∀ messages, messagesSince call inputs = some messages →
    ∀ message ∈ takeThrough (InferenceMessage.endsFor (ids.idOf call)) messages,
      JavaScriptClient.isUndecoded message = false

/-! ## Messages for a request -/

section

variable {requestId : String} {message : InferenceMessage}

/-- A message for a request has its id, and is terminal if it ends it. -/
theorem scope_of_isFor (h : message.isFor requestId = true) :
    ∃ scope, message.scope = some scope ∧ scope.requestId = requestId ∧
      message.endsFor requestId = scope.isDone := by
  obtain ⟨scope, hscope, hid⟩ := InferenceMessage.isFor_iff.mp h
  exact ⟨scope, hscope, hid, by simp [InferenceMessage.endsFor, hscope, hid]⟩

/-- Only what is decoded for the request matters for what is given. -/
theorem follows_congr {μ ε : Type} {decode decode' : InferenceMessage → Except ε (Option μ)}
    (h : ∀ message : InferenceMessage, message.isFor requestId = true →
      decode message = decode' message)
    {messages : List InferenceMessage} {view : StreamView μ} :
    Follows decode (InferenceMessage.isFor requestId) (InferenceMessage.endsFor requestId)
      messages view ↔
      Follows decode' (InferenceMessage.isFor requestId)
        (InferenceMessage.endsFor requestId) messages
        view := by
  have hmap : ((takeThrough (InferenceMessage.endsFor requestId) messages).filter
      (InferenceMessage.isFor requestId)).map decode =
        ((takeThrough (InferenceMessage.endsFor requestId) messages).filter
          (InferenceMessage.isFor requestId)).map decode' :=
    List.map_congr_left fun message hmem => h message (List.mem_filter.mp hmem).2
  constructor
  · intro hfollows
    exact ⟨hmap ▸ hfollows.items, hfollows.ended, hfollows.failed⟩
  · intro hfollows
    exact ⟨hmap.symm ▸ hfollows.items, hfollows.ended, hfollows.failed⟩

end

/-! ## Each client on its own -/

namespace PythonClient

variable {requestId : String}

theorem decodeFor_isSome {message : Paddler.InferenceMessage} {read : Option InferenceMessage}
    (h : decodeFor requestId message = .ok read) : read.isSome = message.isFor requestId := by
  unfold decodeFor at h
  cases hfor : message.isFor requestId with
  | false =>
    rw [hfor] at h
    cases h
    rfl
  | true =>
    rw [hfor, if_pos rfl] at h
    cases hparse : parseInferenceClientMessage message.toWire with
    | error e =>
      rw [hparse] at h
      cases h
    | ok parsed =>
      rw [hparse] at h
      cases h
      rfl

/-- A message is read if it is for another request, or not misread. -/
theorem reads_iff (message : Paddler.InferenceMessage) :
    Reads (decodeFor requestId) InferenceMessage.isTerminal
      (Paddler.InferenceMessage.endsFor requestId)
        message ↔
      (message.isFor requestId = true → isMisread message = false) := by
  cases hfor : message.isFor requestId with
  | false =>
    constructor
    · intro _ h
      cases h
    · intro _
      exact ⟨none, by simp [decodeFor, hfor], fun parsed h => by cases h⟩
  | true =>
    obtain ⟨scope, hscope, -, hends⟩ := scope_of_isFor hfor
    have hread := (parse_toWire hscope).2
    constructor
    · rintro ⟨read, hdecode, hlast⟩ _
      rw [decodeFor, hfor, if_pos rfl] at hdecode
      cases hparse : parseInferenceClientMessage message.toWire with
      | error e =>
        rw [hparse] at hdecode
        cases hdecode
      | ok parsed =>
        rw [hparse] at hdecode
        cases hdecode
        exact hread.mp ⟨parsed, hparse, (hlast parsed rfl).trans hends⟩
    · intro h
      obtain ⟨parsed, hparse, hlast⟩ := hread.mpr (h rfl)
      refine ⟨some parsed, ?_, ?_⟩
      · rw [decodeFor, hfor, if_pos rfl, hparse]
        rfl
      · intro other hother
        cases hother
        exact hlast.trans hends.symm

/-- **The Python client** gives a request its stream if and only if it misreads no message of the
stream. -/
theorem givesStream_iff (messages : List Paddler.InferenceMessage) :
    GivesStream parseInferenceClientMessage requestId messages
        (readStream (decodeFor requestId) InferenceMessage.isTerminal messages) ↔
      ∀ message ∈ takeThrough (Paddler.InferenceMessage.endsFor requestId) messages,
        message.isFor requestId = true → isMisread message = false := by
  have hdecode : ∀ message : Paddler.InferenceMessage, message.isFor requestId = true →
      (parseInferenceClientMessage message.toWire).map some = decodeFor requestId message := by
    intro message hfor
    rw [decodeFor, hfor, if_pos rfl]
  rw [GivesStream, follows_congr hdecode,
    follows_iff_of_reads (fun _ _ h => decodeFor_isSome h)
      (fun _ h => InferenceMessage.isFor_of_endsFor h) reads_iff]

end PythonClient

namespace JavaScriptClient

variable {requestId : String}

theorem tokenStream_toWire (messages : List InferenceMessage) :
    tokenStream requestId (messages.map InferenceMessage.toWire) =
      readStream (fun message => decodeFrame requestId message.toWire) Normalised.done
        messages := by
  induction messages with
  | nil => rfl
  | cons message messages ih =>
    rw [tokenStream, List.map_cons, readStream, readStream]
    rw [tokenStream] at ih
    rw [ih]

/-- What the pipeline makes of a message for the request. -/
theorem decodeFrame_of_isFor {message : InferenceMessage} (hfor : message.isFor requestId = true) :
    decodeFrame requestId message.toWire = (parse message.toWire).map some := by
  obtain ⟨scope, hscope, hid, -⟩ := scope_of_isFor hfor
  have hframe : isNotificationFrame message.toWire = false := by
    rw [isNotificationFrame_toWire, hscope]
    rfl
  rw [decodeFrame, hframe, if_neg Bool.false_ne_true]
  cases hparse : parse message.toWire with
  | error frame => rfl
  | ok response =>
    have hsame := (parse_toWire hscope).1 response hparse
    simp [hsame, hid, Except.map]

/-- What the pipeline makes of a message for somebody else. -/
theorem decodeFrame_of_not_isFor {message : InferenceMessage}
    (hfor : message.isFor requestId = false) (hdecoded : isUndecoded message = false) :
    decodeFrame requestId message.toWire = .ok none := by
  cases hscope : message.scope with
  | none =>
    rw [decodeFrame, isNotificationFrame_toWire, hscope]
    rfl
  | some scope =>
    obtain ⟨response, hparse, -⟩ := (parse_toWire hscope).2.mpr hdecoded
    have hsame := (parse_toWire hscope).1 response hparse
    have hid : scope.requestId ≠ requestId := by
      intro hid
      simp [InferenceMessage.isFor, hscope, hid] at hfor
    rw [decodeFrame, isNotificationFrame_toWire, hscope, hparse]
    simp [hsame, hid]

/-- A message that the schema does not know throws in the pipeline of every call. -/
theorem decodeFrame_of_isUndecoded {message : InferenceMessage}
    (hundecoded : isUndecoded message = true) :
    decodeFrame requestId message.toWire = .error message.toWire := by
  have hframe : isNotificationFrame message.toWire = false := by
    rw [isNotificationFrame_toWire]
    cases message <;> first | rfl | cases hundecoded
  rw [decodeFrame, hframe, if_neg Bool.false_ne_true, parse_undecoded hundecoded]

/-- A message is read if and only if the schema knows it. -/
theorem reads_iff (message : InferenceMessage) :
    Reads (fun message : InferenceMessage => decodeFrame requestId message.toWire) Normalised.done
      (InferenceMessage.endsFor requestId) message ↔ isUndecoded message = false := by
  constructor
  · rintro ⟨read, hdecode, -⟩
    cases hundecoded : isUndecoded message with
    | false => rfl
    | true =>
      dsimp only at hdecode
      rw [decodeFrame_of_isUndecoded hundecoded] at hdecode
      cases hdecode
  · intro hdecoded
    cases hfor : message.isFor requestId with
    | false => exact ⟨none, decodeFrame_of_not_isFor hfor hdecoded, fun response h => by cases h⟩
    | true =>
      obtain ⟨scope, hscope, -, hends⟩ := scope_of_isFor hfor
      obtain ⟨response, hparse, hdone⟩ := (parse_toWire hscope).2.mpr hdecoded
      refine ⟨some response, ?_, ?_⟩
      · dsimp only
        rw [decodeFrame_of_isFor hfor, hparse]
        rfl
      · intro other hother
        cases hother
        exact hdone.trans hends.symm

theorem decodeFrame_isSome {message : InferenceMessage} {read : Option Normalised}
    (h : decodeFrame requestId message.toWire = .ok read) :
    read.isSome = message.isFor requestId := by
  cases hundecoded : isUndecoded message with
  | true =>
    rw [decodeFrame_of_isUndecoded hundecoded] at h
    cases h
  | false =>
    cases hfor : message.isFor requestId with
    | false =>
      rw [decodeFrame_of_not_isFor hfor hundecoded] at h
      cases h
      rfl
    | true =>
      rw [decodeFrame_of_isFor hfor] at h
      cases hparse : parse message.toWire with
      | error frame =>
        rw [hparse] at h
        cases h
      | ok response =>
        rw [hparse] at h
        cases h
        rfl

/-- **The JavaScript client** gives a request its stream if and only if its schema knows every
message that arrives on the socket until then. -/
theorem givesStream_iff (messages : List InferenceMessage) :
    GivesStream parse requestId messages
        (tokenStream requestId (messages.map InferenceMessage.toWire)) ↔
      ∀ message ∈ takeThrough (InferenceMessage.endsFor requestId) messages,
      isUndecoded message = false := by
  rw [tokenStream_toWire, GivesStream,
    follows_congr (fun message hfor => (decodeFrame_of_isFor hfor).symm),
    follows_iff_of_reads (fun _ _ h => decodeFrame_isSome h)
      (fun _ h => InferenceMessage.isFor_of_endsFor h) reads_iff]

end JavaScriptClient

/-! ## Both clients -/

/-- **When the clients agree.**  In every run of one connection, for each call: the Python client
gives it the messages of its request, of either kind, up to the terminal one if and only if it
misreads none of them; the JavaScript client does if and only if its schema knows every message that
arrives on the socket until then. -/
theorem clientsAgree_iff (ids : ClientRequestIds Call) (inputs : List (ClientSocketInput Call))
    (call : Call) :
    (PythonAgrees ids inputs call ↔ ReadByPython ids inputs call) ∧
      (JavaScriptAgrees ids inputs call ↔ ReadByJavaScript ids inputs call) := by
  refine ⟨forall₂_congr fun messages hsince => ?_, forall₂_congr fun messages hsince => ?_⟩
  · have hview : pythonView ids inputs call =
        some (readStream (PythonClient.decodeFor (ids.idOf call))
          PythonClient.InferenceMessage.isTerminal messages) := by
      rw [pythonView, PythonClient.responseStream_run, hsince]
      rfl
    rw [hview, ← PythonClient.givesStream_iff]
    simp
  · have hview : javaScriptView ids inputs call =
        some (JavaScriptClient.tokenStream (ids.idOf call)
          (messages.map InferenceMessage.toWire)) := by
      rw [javaScriptView, hsince]
      rfl
    rw [hview, ← JavaScriptClient.givesStream_iff]
    simp

/-! ### Two runs in which they do not -/

/-- The ids of two requests. -/
def twoRequests : ClientRequestIds Bool where
  idOf := fun second => if second then "2" else "1"
  injective := by
    intro a b h
    cases a <;> cases b <;> first | rfl | exact absurd h (by decide)
  ne_empty := by decide

/-- The first request times out while the second waits. -/
def timeoutRun : List (ClientSocketInput Bool) :=
  [.send false, .send true, .receive (.response none "1" .timeout)]

/-- The agent has parsed the tool calls of the first request, and is not done. -/
def toolCallRun : List (ClientSocketInput Bool) :=
  [.send false, .receive (.response (some "agent") "1" (.generatedToken (.toolCallParsed [])))]

/-- **The clients do not always agree.**  The timeout of one request fails the other request's
stream in the JavaScript client, and the Python client ends a stream at its parsed tool calls. -/
theorem clients_disagree :
    ¬ JavaScriptAgrees twoRequests timeoutRun true ∧
      (javaScriptView twoRequests timeoutRun true).map StreamView.failed = some true ∧
    ¬ PythonAgrees twoRequests toolCallRun false ∧
      (pythonView twoRequests toolCallRun false).map StreamView.ended = some true := by
  refine ⟨?_, rfl, ?_, rfl⟩
  · intro h
    obtain ⟨view, hview, hgives⟩ := h [.response none "1" .timeout] rfl
    cases hview
    exact absurd hgives.failed (by decide)
  · intro h
    obtain ⟨view, hview, hgives⟩ :=
      h [.response (some "agent") "1" (.generatedToken (.toolCallParsed []))] rfl
    cases hview
    obtain ⟨message, hmem, hends⟩ := hgives.ended.mp rfl
    rw [List.mem_singleton.mp hmem] at hends
    exact absurd hends (by decide)

end Paddler
