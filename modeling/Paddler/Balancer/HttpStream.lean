import Paddler.Balancer.RequestFromAgent
import Paddler.Library.JsonText

/-!
# The responses of a request as the body of an HTTP response

Model of `http_stream_from_agent.rs`, `unbounded_stream_from_agent.rs`,
`cancellation_token_stream_guard.rs` and of `ChunkForwardingSessionController` with
`identity_transformer.rs`.  The task of the request sends the text of each message over an unbounded
channel, and the server polls the other end of it for the body.  When the client is gone the server
drops the body: the channel is closed, and the guard cancels `connection_close`.

How `serde` writes a message is given by `fields`: the variant of a message is the one field of an
object.

* `HttpStream.step` — one turn of the request, one poll of the body, or the loss of the client.
* `HttpStreamInv` — **what holds between any two steps**; `httpStreamInv_reaches`.
* `httpBody_exact` — **the body is the lines of the first messages**, and all of them when it ends.
-/

set_option autoImplicit false

namespace Paddler

open Run

namespace HttpStreams

variable {ρ : Type}

/-! ## What is written -/

/-- `transform_result.rs`. -/
inductive TransformResult where
  | chunk (content : List Char)
  | discard
  | error (content : List Char)
  deriving DecidableEq, Repr

/-- What the closure of `filter_map` makes of a result. -/
def TransformResult.text : TransformResult → Option (List Char)
  | .chunk content | .error content => some (content ++ ['\n'])
  | .discard => none

/-- The bytes of a text. -/
def utf8 (text : List Char) : List UInt8 := text.flatMap String.utf8EncodeChar

section Written

variable (fields : OutgoingMessage ρ → List (String × Json))

/-- `serde_json::to_string`. -/
def serialized (message : OutgoingMessage ρ) : List Char :=
  Json.renderChars (.object (fields message))

def transform (message : OutgoingMessage ρ) : List TransformResult :=
  [.chunk (serialized fields message)]

/-- The lines of these messages. -/
def linesOf (messages : List (OutgoingMessage ρ)) : List UInt8 :=
  messages.flatMap fun message => utf8 (serialized fields message ++ ['\n'])

theorem linesOf_append (messages later : List (OutgoingMessage ρ)) :
    linesOf fields (messages ++ later) = linesOf fields messages ++ linesOf fields later :=
  List.flatMap_append

end Written

/-! ## The state -/

/-- A request with its channel and its body. -/
structure HttpStream (ρ : Type) where
  request : RequestFromAgent ρ
  chunkRx : List TransformResult
  body : List UInt8
  isDropped : Bool
  isEnded : Bool

inductive HttpInput (ρ : Type) where
  | request (event : RequestEvent ρ) (stopOutcome : AgentStopOutcome)
  | pollNext
  | drop

namespace HttpStream

/-- `http_stream_from_agent`, when the task of the request was spawned. -/
def new (requestId : String) (inferenceItemTimeout : Nat) : HttpStream ρ :=
  ⟨.new requestId inferenceItemTimeout, [], [], false, false⟩

/-- `connection_close` is cancelled by the guard, and by nothing else. -/
def happens (s : HttpStream ρ) : RequestEvent ρ → Bool
  | .connectionClose => s.isDropped
  | _ => true

variable [StreamableResult ρ] (fields : OutgoingMessage ρ → List (String × Json))

/-- One turn of `request_from_agent`.  A message goes over the channel if the other end is still
there. -/
def turn (s : HttpStream ρ) (event : RequestEvent ρ) (stopOutcome : AgentStopOutcome) :
    HttpStream ρ :=
  let request := s.request.step ⟨event, !s.isDropped, stopOutcome⟩
  { s with
    request := request
    chunkRx := s.chunkRx ++
      (request.delivered.drop s.request.delivered.length).flatMap (transform fields) }

/-- `poll_next` of the body.  The channel is closed when the task of the request has returned. -/
def pollNext (s : HttpStream ρ) : HttpStream ρ :=
  match s.chunkRx with
  | result :: chunkRx => { s with chunkRx := chunkRx, body := s.body ++ (result.text.elim [] utf8) }
  | [] => if s.request.phase = .returned then { s with isEnded := true } else s

/-- One step. -/
def step (s : HttpStream ρ) : HttpInput ρ → HttpStream ρ
  | .request event stopOutcome => if s.happens event then s.turn fields event stopOutcome else s
  | .pollNext => if s.isDropped || s.isEnded then s else s.pollNext
  | .drop => if s.isEnded then s else { s with isDropped := true, chunkRx := [] }

end HttpStream

/-! ## What a turn sends -/

section Turn

variable [StreamableResult ρ] {s : RequestFromAgent ρ}

/-- A turn sends one message at most, and notices that the client is gone only by
`connection_close`. -/
structure Sends (s s' : RequestFromAgent ρ) (input : RequestInput ρ) : Prop where
  sends : s'.sends = s.sends ∨ ∃ message, s'.sends = s.sends ++ [(message, input.sendSucceeds)]
  cancelled : input.event ≠ .connectionClose → s'.cancelled = s.cancelled

omit [StreamableResult ρ] in
theorem Sends.stopThenDrain {s' : RequestFromAgent ρ} {input : RequestInput ρ}
    (h : Sends s s' input) :
    Sends s (s'.stopThenDrain input) input := by
  refine ⟨by rw [RequestFromAgent.stopThenDrain_sends]; exact h.sends, fun hevent => ?_⟩
  unfold RequestFromAgent.stopThenDrain
  split
  · exact h.cancelled hevent
  · exact h.cancelled hevent

theorem forwardResponsesStream_sends (mode : AgentResponseForwardingMode) (input : RequestInput ρ) :
    Sends s (s.forwardResponsesStream mode input) input := by
  have hsame : Sends s s input := ⟨.inl rfl, fun _ => rfl⟩
  unfold RequestFromAgent.forwardResponsesStream
  simp only
  split
  · split
    · exact ⟨.inr ⟨_, rfl⟩, fun _ => rfl⟩
    · exact ⟨.inl rfl, fun _ => rfl⟩
  · split
    · exact ⟨.inr ⟨_, rfl⟩, fun _ => rfl⟩
    · exact ⟨.inl rfl, fun _ => rfl⟩
  · rename_i hevent
    split
    · exact Sends.stopThenDrain ⟨.inl rfl, fun hne => absurd hevent hne⟩
    · exact hsame
  · split
    · exact Sends.stopThenDrain ⟨.inr ⟨_, rfl⟩, fun _ => rfl⟩
    · exact ⟨.inl rfl, fun _ => rfl⟩
  · split
    · exact ⟨.inr ⟨_, rfl⟩, fun _ => rfl⟩
    · exact ⟨.inl rfl, fun _ => rfl⟩
  · split
    · split
      · exact ⟨.inr ⟨_, rfl⟩, fun _ => rfl⟩
      · split
        · exact ⟨.inr ⟨_, rfl⟩, fun _ => rfl⟩
        · exact Sends.stopThenDrain ⟨.inr ⟨_, rfl⟩, fun _ => rfl⟩
    · split
      · exact ⟨.inl rfl, fun _ => rfl⟩
      · exact ⟨.inl rfl, fun _ => rfl⟩
  · exact hsame
  · exact hsame

theorem step_sends (s : RequestFromAgent ρ) (input : RequestInput ρ) :
    Sends s (s.step input) input := by
  have hsame : Sends s s input := ⟨.inl rfl, fun _ => rfl⟩
  unfold RequestFromAgent.step
  split
  · unfold RequestFromAgent.waitForAgentController
    split
    · exact ⟨.inr ⟨_, rfl⟩, fun _ => rfl⟩
    · rename_i hevent
      exact ⟨.inl rfl, fun hne => absurd hevent hne⟩
    · exact ⟨.inl rfl, fun _ => rfl⟩
    · exact ⟨.inr ⟨_, rfl⟩, fun _ => rfl⟩
    · exact ⟨.inr ⟨_, rfl⟩, fun _ => rfl⟩
    · exact ⟨.inr ⟨_, rfl⟩, fun _ => rfl⟩
    · exact hsame
  · unfold RequestFromAgent.handleStreamingResponse
    split
    · exact ⟨.inl rfl, fun _ => rfl⟩
    · exact ⟨.inr ⟨_, rfl⟩, fun _ => rfl⟩
    · exact hsame
  · exact forwardResponsesStream_sends _ input
  · exact hsame

omit [StreamableResult ρ] in
theorem Sends.delivered {s' : RequestFromAgent ρ} {input : RequestInput ρ} (h : Sends s s' input) :
    ∃ sent, s'.delivered = s.delivered ++ sent ∧ (input.sendSucceeds = false → sent = []) := by
  rcases h.sends with hsends | ⟨message, hsends⟩
  · refine ⟨[], ?_, fun _ => rfl⟩
    rw [List.append_nil, RequestFromAgent.delivered, hsends, RequestFromAgent.delivered]
  · refine ⟨if input.sendSucceeds then [message] else [], ?_, fun hfails => by rw [hfails]; rfl⟩
    rw [← RequestFromAgent.delivered_send, RequestFromAgent.delivered, hsends,
      RequestFromAgent.delivered]

theorem step_of_returned (h : s.phase = .returned) (input : RequestInput ρ) : s.step input = s := by
  unfold RequestFromAgent.step
  rw [h]

end Turn

/-! ## What holds between any two steps -/

section Inv

variable [StreamableResult ρ] (fields : OutgoingMessage ρ → List (String × Json))

/-- **The body is the lines of the first messages, and the channel has the others.**  A body that
was not dropped loses nothing, and its request is not cancelled. -/
structure HttpStreamInv (s : HttpStream ρ) : Prop where
  request : s.request.PhaseInv
  body : ∃ n ≤ s.request.delivered.length, s.body = linesOf fields (s.request.delivered.take n) ∧
    (s.isDropped = false → s.chunkRx = (s.request.delivered.drop n).flatMap (transform fields))
  dropped : s.isDropped = true → s.chunkRx = []
  kept : s.isDropped = false → s.request.cancelled = false ∧ ∀ send ∈ s.request.sends, send.2 = true
  ended : s.isEnded = true → s.isDropped = false ∧ s.chunkRx = [] ∧ s.request.phase = .returned

variable {fields} {s : HttpStream ρ}

theorem httpStreamInv_new (requestId : String) (inferenceItemTimeout : Nat) :
    HttpStreamInv fields (HttpStream.new requestId inferenceItemTimeout : HttpStream ρ) where
  request := RequestFromAgent.phaseInv_new requestId inferenceItemTimeout
  body := ⟨0, Nat.le_refl _, rfl, fun _ => rfl⟩
  dropped h := by cases h
  kept _ := ⟨rfl, fun _ hmem => by cases hmem⟩
  ended h := by cases h

theorem HttpStreamInv.turn (h : HttpStreamInv fields s) {event : RequestEvent ρ}
    (hhappens : s.happens event = true) (stopOutcome : AgentStopOutcome) :
    HttpStreamInv fields (s.turn fields event stopOutcome) := by
  have hsends := step_sends s.request ⟨event, !s.isDropped, stopOutcome⟩
  obtain ⟨sent, hdelivered, hlost⟩ := hsends.delivered
  have hsent : (s.turn fields event stopOutcome).chunkRx = s.chunkRx ++
      sent.flatMap (transform fields) := by
    show s.chunkRx ++ ((s.request.step _).delivered.drop _).flatMap (transform fields) = _
    rw [hdelivered, List.drop_left]
  have hrequest : (s.turn fields event stopOutcome).request.delivered = s.request.delivered ++
      sent := hdelivered
  obtain ⟨n, hn, hbody, hrx⟩ := h.body
  refine ⟨h.request.step _, ⟨n, ?_, ?_, fun hopen => ?_⟩, fun hdropped => ?_, fun hopen => ⟨?_, ?_⟩,
    fun hended => ?_⟩
  · rw [hrequest, List.length_append]
    exact Nat.le_add_right_of_le hn
  · rw [hrequest, List.take_append_of_le_length hn]
    exact hbody
  · rw [hsent, hrequest, List.drop_append_of_le_length hn, List.flatMap_append, hrx hopen]
  · have hopen : (!s.isDropped) = false := by rw [show s.isDropped = true from hdropped]; rfl
    rw [hsent, hlost hopen, h.dropped hdropped]
    rfl
  · have hevent : event ≠ .connectionClose := fun heq => by
      rw [heq] at hhappens
      exact Bool.false_ne_true (hopen.symm.trans hhappens)
    exact (hsends.cancelled hevent).trans (h.kept hopen).1
  · have hsucceeds : (!s.isDropped) = true := by rw [show s.isDropped = false from hopen]; rfl
    intro send hmem
    rcases hsends.sends with hsame | ⟨message, hmore⟩
    · exact (h.kept hopen).2 send (hsame ▸ hmem)
    · rcases List.mem_append.mp (hmore ▸ hmem) with hbefore | hnew
      · exact (h.kept hopen).2 send hbefore
      · rw [List.mem_singleton.mp hnew]
        exact hsucceeds
  · obtain ⟨hopen, hempty, hreturned⟩ := h.ended hended
    have hsame : s.request.step ⟨event, !s.isDropped, stopOutcome⟩ = s.request :=
      step_of_returned hreturned _
    refine ⟨hopen, ?_, ?_⟩
    · have hnone : sent = [] := by
        have hlength := congrArg List.length hdelivered
        rw [hsame, List.length_append] at hlength
        exact List.length_eq_zero_iff.mp (by omega)
      rw [hsent, hnone, hempty]
      rfl
    · show (s.request.step _).phase = _
      rw [hsame, hreturned]

theorem HttpStreamInv.pollNext (h : HttpStreamInv fields s) (hdropped : s.isDropped = false)
    (hended : s.isEnded = false) : HttpStreamInv fields s.pollNext := by
  obtain ⟨n, hn, hbody, hrx⟩ := h.body
  have hrx := hrx hdropped
  cases hchunkRx : s.chunkRx with
  | nil =>
    simp only [HttpStream.pollNext, hchunkRx]
    split
    · rename_i hreturned
      exact ⟨h.request, ⟨n, hn, hbody, fun _ => hchunkRx ▸ hrx⟩, fun _ => rfl, h.kept,
        fun _ => ⟨hdropped, rfl, hreturned⟩⟩
    · exact h
  | cons result chunkRx =>
    -- the next message is no longer in the channel
    cases hdrop : s.request.delivered.drop n with
    | nil =>
      rw [hdrop, hchunkRx] at hrx
      cases hrx
    | cons message later =>
      rw [hdrop, hchunkRx] at hrx
      obtain ⟨rfl, rfl⟩ := List.cons.inj hrx
      have hnext : s.request.delivered[n]? = some message := by
        rw [← List.head?_drop, hdrop]
        rfl
      have hlater : s.request.delivered.drop (n + 1) = later := by
        rw [← List.tail_drop, hdrop]
        rfl
      have hlt : n < s.request.delivered.length := (List.getElem?_eq_some_iff.mp hnext).1
      simp only [HttpStream.pollNext, hchunkRx]
      refine ⟨h.request, ⟨n + 1, hlt, ?_, fun _ => ?_⟩, fun hgone => ?_, h.kept, fun hover => ?_⟩
      · show s.body ++ utf8 (serialized fields message ++ ['\n']) = _
        rw [List.take_add_one, hnext, Option.toList_some, linesOf_append, hbody]
        simp only [linesOf, List.flatMap_cons, List.flatMap_nil, List.append_nil]
      · show later.flatMap _ = (s.request.delivered.drop (n + 1)).flatMap _
        rw [hlater]
      · rw [hdropped] at hgone
        cases hgone
      · rw [hended] at hover
        cases hover

theorem HttpStreamInv.step (h : HttpStreamInv fields s) (input : HttpInput ρ) :
    HttpStreamInv fields (s.step fields input) := by
  unfold HttpStream.step
  cases input with
  | request event stopOutcome =>
    simp only
    split
    · rename_i hhappens
      exact h.turn hhappens stopOutcome
    · exact h
  | pollNext =>
    simp only
    split
    · exact h
    · rename_i hopen
      rw [Bool.or_eq_true, not_or, Bool.not_eq_true, Bool.not_eq_true] at hopen
      exact h.pollNext hopen.1 hopen.2
  | drop =>
    simp only
    split
    · exact h
    · rename_i hended
      obtain ⟨n, hn, hbody, -⟩ := h.body
      exact ⟨h.request, ⟨n, hn, hbody, fun hopen => by cases hopen⟩, fun _ => rfl,
        fun hopen => (by cases hopen), fun hover => absurd hover hended⟩

theorem httpStreamInv_reaches {requestId : String} {inferenceItemTimeout : Nat}
    (h : Reaches (HttpStream.step fields) (fun _ _ => True)
      (.new requestId inferenceItemTimeout) s) :
    HttpStreamInv fields s :=
  h.invariant (HttpStreamInv fields) (httpStreamInv_new requestId inferenceItemTimeout)
    fun _ input _ hs _ => hs.step input

theorem HttpStreamInv.complete (h : HttpStreamInv fields s) (hended : s.isEnded = true) :
    s.body = linesOf fields s.request.delivered := by
  obtain ⟨hopen, hempty, -⟩ := h.ended hended
  obtain ⟨n, -, hbody, hrx⟩ := h.body
  have hlater : s.request.delivered.drop n = [] := by
    have hnone := (hrx hopen).symm.trans hempty
    cases hdrop : s.request.delivered.drop n with
    | nil => rfl
    | cons message later =>
      rw [hdrop] at hnone
      cases hnone
  rw [hbody, List.take_of_length_le (List.drop_eq_nil_iff.mp hlater)]

/-- **What the body is.**  However the request, the polls and the loss of the client interleave, the
body is the lines of the first messages that the request sent, which are the first responses of the
agent and at most one terminal message; and a body that ends has all of them, with the terminal
message. -/
theorem httpBody_exact {requestId : String} {inferenceItemTimeout : Nat}
    (h : Reaches (HttpStream.step fields) (fun _ _ => True)
      (.new requestId inferenceItemTimeout) s) :
    ∃ n terminal, s.body = linesOf fields (s.request.delivered.take n) ∧ s.request.Stream terminal ∧
      (s.isEnded = true → s.body = linesOf fields s.request.delivered ∧ terminal ≠ []) := by
  have hinv := httpStreamInv_reaches h
  obtain ⟨n, -, hbody, -⟩ := hinv.body
  obtain ⟨terminal, hstream, hanswered⟩ := hinv.request.stream
  refine ⟨n, terminal, hbody, hstream, fun hended => ⟨hinv.complete hended, ?_⟩⟩
  obtain ⟨hopen, -, hreturned⟩ := hinv.ended hended
  exact hanswered hreturned (hinv.kept hopen).1 (hinv.kept hopen).2

end Inv

/-! ## One body -/

/-- How `serde_json` writes a content token and an error. -/
def tokenFields : OutgoingMessage GeneratedTokenResult → List (String × Json)
  | .error requestId error =>
    [("Error", .object [("request_id", .string requestId),
      ("error", .object [("code", .number error.code),
        ("description", .string error.description)])])]
  | .response generatedBy requestId (.contentToken text) =>
    [("Response", .object [("generated_by", generatedBy.elim .null .string),
      ("request_id", .string requestId),
      ("response", .object [("GeneratedToken", .object [("ContentToken", .string text)])])])]
  | _ => []

/-- The agent sends a separator of lines, and goes away. -/
def brokenOffInputs : List (HttpInput GeneratedTokenResult) :=
  [.request (.waitForAvailableAgent (.found none)) .stopRequested,
    .request (.handleStreamingResponse true) .stopRequested,
    .request (.recv (some (.contentToken "\u2028"))) .stopRequested, .pollNext,
    .request .agentConnectionClose .stopRequested, .pollNext, .pollNext]

def brokenOff : HttpStream GeneratedTokenResult :=
  brokenOffInputs.foldl (HttpStream.step tokenFields) (.new "request" 1000)

theorem brokenOff_reaches :
    Reaches (HttpStream.step tokenFields) (fun _ _ => True) (.new "request" 1000) brokenOff :=
  .runs brokenOffInputs (fun _ _ _ => trivial) .start

theorem brokenOff_ended : brokenOff.isEnded = true := by decide

theorem httpBody_exact_brokenOff :
    ∃ terminal, brokenOff.body = linesOf tokenFields brokenOff.request.delivered ∧
      brokenOff.request.Stream terminal ∧ terminal ≠ [] := by
  obtain ⟨_, terminal, -, hstream, hend⟩ := httpBody_exact brokenOff_reaches
  exact ⟨terminal, (hend brokenOff_ended).1, hstream, (hend brokenOff_ended).2⟩

end HttpStreams

end Paddler
