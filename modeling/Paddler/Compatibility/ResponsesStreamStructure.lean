import Paddler.Compatibility.Responses

/-!
# The structure of a Responses stream

What a client may rely on in the events of one request: they are numbered, they begin with the
preamble, items are added and done one after the other, the text of an item is made of its deltas,
and a terminal event is the last one.

A failure of a tool call is an error for the transformer but does not end the request, so more
events may follow it; and an error does not close the item that is open.

* `Written`, `Written.grow`, `Written.finish` — what the events so far say about the items.
* `EventsInv`, `eventsInv_token` — what the state knows about the events, kept by every result.
* `responses_stream_structure` — **the events have that structure if and only if** nothing follows
  an error and no item is open at it.
-/

set_option autoImplicit false

namespace Paddler

/-! ## What a client sees of an event -/

/-- An item begins or ends. -/
inductive ItemMark where
  | added (outputIndex : Nat)
  | done (outputIndex : Nat)
  deriving DecidableEq, Repr

/-- The text of an item: its arguments, or the text of its only part. -/
def itemText (item : Json) : Option String :=
  match item.field "arguments" with
  | some arguments => arguments.asString
  | none =>
    match item.field "content" with
    | some (.array [part]) => (part.field "text").bind (·.asString)
    | _ => none

@[simp] theorem itemText_messageItemDone (itemId text : String) :
    itemText (messageItemDone itemId text) = some text := rfl

@[simp] theorem itemText_reasoningItemDone (itemId text : String) :
    itemText (reasoningItemDone itemId text) = some text := rfl

@[simp] theorem itemText_functionCallItem (itemId callId name arguments status : String) :
    itemText (functionCallItem itemId callId name arguments status) = some arguments := rfl

namespace ResponsesStreamEvent

/-- The beginning or the end of an item. -/
def mark : ResponsesStreamEvent → Option ItemMark
  | .outputItemAdded event => some (.added event.outputIndex)
  | .outputItemDone event => some (.done event.outputIndex)
  | _ => none

/-- A piece of the text of an item. -/
def delta (i : Nat) : ResponsesStreamEvent → Option String
  | .outputTextDelta event | .reasoningTextDelta event =>
    if event.outputIndex = i then some event.delta else none
  | .functionCallArgumentsDelta event => if event.outputIndex = i then some event.delta else none
  | _ => none

/-- The whole text of an item, in the event that ends the text. -/
def textDone (i : Nat) : ResponsesStreamEvent → Option String
  | .outputTextDone event | .reasoningTextDone event =>
    if event.outputIndex = i then some event.text else none
  | .functionCallArgumentsDone event => if event.outputIndex = i then some event.arguments else none
  | _ => none

/-- The whole text of an item, in the event that ends the item. -/
def itemDone (i : Nat) : ResponsesStreamEvent → Option String
  | .outputItemDone event => if event.outputIndex = i then itemText event.item else none
  | _ => none

/-- `response.created` and `response.in_progress`. -/
def isPreamble : ResponsesStreamEvent → Bool
  | .created _ | .inProgress _ => true
  | _ => false

/-- `response.completed` and `response.failed`. -/
def isTerminal : ResponsesStreamEvent → Bool
  | .completed _ | .failed _ => true
  | _ => false

end ResponsesStreamEvent

open ResponsesStreamEvent

/-- The marks of `n` items that are added and done one after the other. -/
def completeItems (n : Nat) : List ItemMark :=
  (List.range n).flatMap fun i => [.added i, .done i]

/-- The preamble comes first, and once. -/
def HasPreamble (events : List ResponsesStreamEvent) : Prop :=
  ∃ created inProgress rest, events = .created created :: .inProgress inProgress :: rest ∧
    ∀ e ∈ rest, e.isPreamble = false

/-- What a client may rely on.  An item is open at most at the end of a stream that is not over. -/
structure StreamStructure (events : List ResponsesStreamEvent) : Prop where
  numbered : events.map (·.sequenceNumber) = List.range events.length
  preamble : events = [] ∨ HasPreamble events
  items : ∃ n, events.filterMap mark = completeItems n ∨
    events.filterMap mark = completeItems n ++ [.added n] ∧ ∀ e ∈ events, e.isTerminal = false
  texts : ∀ i, .done i ∈ events.filterMap mark →
    events.filterMap (textDone i) = [String.join (events.filterMap (delta i))] ∧
      events.filterMap (itemDone i) = [String.join (events.filterMap (delta i))]
  terminal : ∀ e ∈ events.dropLast, e.isTerminal = false

/-! ## The condition -/

/-- The message adds no event to a stream without an open item. -/
def InferenceMessage.isSilent (message : InferenceMessage) : Bool :=
  match message.token with
  | some (.toolCallToken _) | some (.toolCallParsed []) => true
  | _ => false

/-- Whether an item is open after a message: text opens one, and parsed tool calls close it. -/
def InferenceMessage.leavesOpen (isOpen : Bool) (message : InferenceMessage) : Bool :=
  match message.token with
  | some (.contentToken _) | some (.undeterminableToken _) | some (.reasoningToken _) => true
  | some (.toolCallParsed _) => false
  | _ => isOpen

/-- Whether an item is open after the messages. -/
def leavesItemOpen (messages : List InferenceMessage) : Bool :=
  messages.foldl InferenceMessage.leavesOpen false

/-- Nothing follows an error, and no item is open at it. -/
def ErrorsEndTheStream (messages : List InferenceMessage) : Prop :=
  ∀ before message after, messages = before ++ message :: after →
    (responsesError message).isSome = true →
    leavesItemOpen before = false ∧ ∀ m ∈ after, m.isSilent = true

/-! ## Items in the events -/

/-- The mark of the item that is open. -/
def openMark (n : Nat) : Option String → List ItemMark
  | some _ => [.added n]
  | none => []

/-- `n` items are done, and of the next one, if it is open, this much text was sent. -/
structure Written (events : List ResponsesStreamEvent) (n : Nat) (text : Option String) : Prop where
  numbered : events.map (·.sequenceNumber) = List.range events.length
  marks : events.filterMap mark = completeItems n ++ openMark n text
  closed : ∀ i < n, events.filterMap (textDone i) = [String.join (events.filterMap (delta i))] ∧
    events.filterMap (itemDone i) = [String.join (events.filterMap (delta i))]
  current : String.join (events.filterMap (delta n)) = text.getD ""
  notDone : ∀ i ≥ n, events.filterMap (textDone i) = [] ∧ events.filterMap (itemDone i) = []
  notBegun : ∀ i > n, events.filterMap (delta i) = []
  running : ∀ e ∈ events, e.isTerminal = false

theorem completeItems_succ (n : Nat) :
    completeItems (n + 1) = completeItems n ++ [.added n, .done n] := by
  unfold completeItems
  rw [List.range_succ, List.flatMap_append]
  rfl

namespace Written

variable {events new : List ResponsesStreamEvent} {n : Nat} {text text' : Option String}

theorem nil : Written [] 0 none :=
  ⟨rfl, rfl, fun _ h => absurd h (Nat.not_lt_zero _), rfl, fun _ _ => ⟨rfl, rfl⟩, fun _ _ => rfl,
    (fun _ h => by cases h)⟩

theorem numbered_append (h : Written events n text)
    (hnew : new.map (·.sequenceNumber) = List.range' events.length new.length) :
    (events ++ new).map (·.sequenceNumber) = List.range (events ++ new).length := by
  have hrange := List.range'_append_1 (s := 0) (m := events.length) (n := new.length)
  rw [Nat.zero_add] at hrange
  rw [List.map_append, h.numbered, hnew, List.length_append, List.range_eq_range',
    List.range_eq_range', hrange]

/-- **Events about the item that is open**, or that open it. -/
theorem grow (h : Written events n text)
    (hnumbered : new.map (·.sequenceNumber) = List.range' events.length new.length)
    (hmarks : openMark n text ++ new.filterMap mark = openMark n text')
    (hdelta : ∀ i, i ≠ n → new.filterMap (delta i) = [])
    (htext : text.getD "" ++ String.join (new.filterMap (delta n)) = text'.getD "")
    (hdone : ∀ i, new.filterMap (textDone i) = [] ∧ new.filterMap (itemDone i) = [])
    (hrunning : ∀ e ∈ new, e.isTerminal = false) : Written (events ++ new) n text' := by
  refine ⟨h.numbered_append hnumbered, ?_, fun i hi => ?_, ?_, fun i hi => ?_, fun i hi => ?_,
    fun e he => ?_⟩
  · rw [List.filterMap_append, h.marks, List.append_assoc, hmarks]
  · rw [List.filterMap_append, List.filterMap_append, List.filterMap_append, (hdone i).1,
      (hdone i).2, hdelta i (Nat.ne_of_lt hi), List.append_nil, List.append_nil, List.append_nil]
    exact h.closed i hi
  · rw [List.filterMap_append, String.join_append, h.current]
    exact htext
  · rw [List.filterMap_append, List.filterMap_append, (hdone i).1, (hdone i).2, List.append_nil,
      List.append_nil]
    exact h.notDone i hi
  · rw [List.filterMap_append, hdelta i (Nat.ne_of_gt hi), List.append_nil]
    exact h.notBegun i hi
  · rcases List.mem_append.mp he with hold | hnew
    · exact h.running e hold
    · exact hrunning e hnew

/-- **Events that end the item**, with the whole text. -/
theorem finish (h : Written events n text) (whole : String)
    (hnumbered : new.map (·.sequenceNumber) = List.range' events.length new.length)
    (hmarks : openMark n text ++ new.filterMap mark = [.added n, .done n])
    (hdelta : ∀ i, i ≠ n → new.filterMap (delta i) = [])
    (htext : text.getD "" ++ String.join (new.filterMap (delta n)) = whole)
    (hdone : new.filterMap (textDone n) = [whole] ∧ new.filterMap (itemDone n) = [whole])
    (hother : ∀ i, i ≠ n → new.filterMap (textDone i) = [] ∧ new.filterMap (itemDone i) = [])
    (hrunning : ∀ e ∈ new, e.isTerminal = false) : Written (events ++ new) (n + 1) none := by
  have hwhole : String.join ((events ++ new).filterMap (delta n)) = whole := by
    rw [List.filterMap_append, String.join_append, h.current]
    exact htext
  refine ⟨h.numbered_append hnumbered, ?_, fun i hi => ?_, ?_, fun i hi => ?_, fun i hi => ?_,
    fun e he => ?_⟩
  · rw [List.filterMap_append, h.marks, List.append_assoc, hmarks, completeItems_succ]
    exact (List.append_nil _).symm
  · rcases Nat.lt_succ_iff_lt_or_eq.mp hi with hlt | rfl
    · rw [List.filterMap_append, List.filterMap_append, List.filterMap_append,
        (hother i (Nat.ne_of_lt hlt)).1, (hother i (Nat.ne_of_lt hlt)).2,
        hdelta i (Nat.ne_of_lt hlt), List.append_nil, List.append_nil, List.append_nil]
      exact h.closed i hlt
    · rw [hwhole, List.filterMap_append, List.filterMap_append, hdone.1, hdone.2,
        (h.notDone i (Nat.le_refl i)).1, (h.notDone i (Nat.le_refl i)).2]
      exact ⟨rfl, rfl⟩
  · rw [List.filterMap_append, h.notBegun (n + 1) (Nat.lt_succ_self n),
      hdelta (n + 1) (Nat.succ_ne_self n)]
    rfl
  · have hi' : i ≠ n := Nat.ne_of_gt hi
    rw [List.filterMap_append, List.filterMap_append, (hother i hi').1, (hother i hi').2,
      List.append_nil, List.append_nil]
    exact h.notDone i (Nat.le_of_lt hi)
  · have hi' : n < i := Nat.lt_of_succ_lt hi
    rw [List.filterMap_append, hdelta i (Nat.ne_of_gt hi'), List.append_nil]
    exact h.notBegun i hi'
  · rcases List.mem_append.mp he with hold | hnew
    · exact h.running e hold
    · exact hrunning e hnew

theorem structure_of_running (h : Written events n text)
    (hpreamble : events = [] ∨ HasPreamble events) :
    StreamStructure events := by
  have hrunning : ∀ e ∈ events.dropLast, e.isTerminal = false := fun e he =>
    h.running e (List.dropLast_subset _ he)
  refine ⟨h.numbered, hpreamble, ⟨n, ?_⟩, fun i hi => ?_, hrunning⟩
  · cases text with
    | none => exact Or.inl (h.marks.trans (List.append_nil _))
    | some text => exact Or.inr ⟨h.marks, h.running⟩
  · refine h.closed i ?_
    -- what is done is one of the `n`
    rw [h.marks] at hi
    rcases List.mem_append.mp hi with hdone | hopen
    · obtain ⟨j, hj, hmem⟩ := List.mem_flatMap.mp hdone
      have : i = j := by simpa using hmem
      rw [this]
      exact List.mem_range.mp hj
    · cases text with
      | none => cases hopen
      | some text => simp [openMark] at hopen

/-- The structure of a stream that ends while no item is open. -/
theorem structure_of_terminal (h : Written events n none) (hpreamble : HasPreamble events)
    {e : ResponsesStreamEvent} (hnumber : e.sequenceNumber = events.length)
    (he : e.isTerminal = true) :
    StreamStructure (events ++ [e]) := by
  have hrunning := h.structure_of_running (Or.inr hpreamble)
  have hblank : e.mark = none ∧ e.isPreamble = false ∧
      ∀ i, e.delta i = none ∧ e.textDone i = none ∧ e.itemDone i = none := by
    cases e with
    | completed => exact ⟨rfl, rfl, fun _ => ⟨rfl, rfl, rfl⟩⟩
    | failed => exact ⟨rfl, rfl, fun _ => ⟨rfl, rfl, rfl⟩⟩
    | _ => cases he
  obtain ⟨hmark, hnopreamble, htexts⟩ := hblank
  have hsame : ∀ {α : Type} (f : ResponsesStreamEvent → Option α), f e = none →
      (events ++ [e]).filterMap f = events.filterMap f := by
    intro α f hf
    rw [List.filterMap_append, List.filterMap_cons_none hf]
    exact List.append_nil _
  refine ⟨h.numbered_append (by rw [List.map_singleton, hnumber]; rfl), Or.inr ?_, ⟨n, Or.inl ?_⟩,
    fun i hi => ?_, ?_⟩
  · obtain ⟨a, b, rest, rfl, hrest⟩ := hpreamble
    refine ⟨a, b, rest ++ [e], rfl, fun e' he' => ?_⟩
    rcases List.mem_append.mp he' with hold | hlast
    · exact hrest e' hold
    · rw [List.mem_singleton.mp hlast]
      exact hnopreamble
  · rw [hsame _ hmark]
    exact h.marks.trans (List.append_nil _)
  · rw [hsame _ hmark] at hi
    rw [hsame _ (htexts i).1, hsame _ (htexts i).2.1, hsame _ (htexts i).2.2]
    exact hrunning.texts i hi
  · rw [List.dropLast_concat]
    exact h.running

end Written

/-! ## The state -/

namespace ResponsesStreamingState

/-- The text of the open item. -/
def openText (self : ResponsesStreamingState) : Option String :=
  match self.openItem with
  | .none => none
  | .reasoning => some self.reasoningText
  | .message => some self.messageText

end ResponsesStreamingState

/-- What the state knows about its events: how many there are, what they say about the items, and
whether they begin with the preamble.  The text of a kind of item that is not open is empty. -/
structure EventsInv (state : ResponsesStreamingState) : Prop where
  number : state.sequenceNumber = state.events.length
  written : Written state.events state.outputIndex state.openText
  notStarted : state.started = false → state.events = [] ∧ state.openItem = .none
  preamble : state.started = true → HasPreamble state.events
  reasoning : state.openItem ≠ .reasoning → state.reasoningText = ""
  message : state.openItem ≠ .message → state.messageText = ""

theorem eventsInv_ofDefault : EventsInv .ofDefault :=
  ⟨rfl, .nil, fun _ => ⟨rfl, rfl⟩, (fun h => by cases h), fun _ => rfl, fun _ => rfl⟩

theorem HasPreamble.append {events new : List ResponsesStreamEvent} (h : HasPreamble events)
    (hnew : ∀ e ∈ new, e.isPreamble = false) : HasPreamble (events ++ new) := by
  obtain ⟨a, b, rest, rfl, hrest⟩ := h
  refine ⟨a, b, rest ++ new, rfl, fun e he => ?_⟩
  rcases List.mem_append.mp he with hold | hlast
  · exact hrest e hold
  · exact hnew e hlast

section

variable (builder : ResponsesResponseBuilder) {state : ResponsesStreamingState}

open ResponsesStreaming

theorem ensurePreamble_started : (ensurePreamble builder state).started = true := by
  unfold ensurePreamble
  split
  · assumption
  · rfl

theorem ensurePreamble_openItem : (ensurePreamble builder state).openItem = state.openItem := by
  unfold ensurePreamble
  split
  · rfl
  · rfl

theorem EventsInv.ensurePreamble (h : EventsInv state) :
    EventsInv (ensurePreamble builder state) := by
  unfold ResponsesStreaming.ensurePreamble
  split
  · exact h
  rename_i hstarted
  rw [Bool.not_eq_true] at hstarted
  obtain ⟨hevents, hopen⟩ := h.notStarted hstarted
  have hnumber : state.sequenceNumber = 0 := by
    rw [h.number, hevents]
    rfl
  refine ⟨?_, ?_, (fun h => by cases h), fun _ => ?_, h.reasoning, h.message⟩
  · show state.sequenceNumber + 1 + 1 = ((state.events ++ [_]) ++ [_]).length
    rw [h.number, List.length_append, List.length_append]
    rfl
  · show Written ((state.events ++ [_]) ++ [_]) state.outputIndex state.openText
    rw [List.append_assoc]
    refine h.written.grow ?_ (List.append_nil _) (fun _ _ => rfl) String.append_empty
      (fun _ => ⟨rfl, rfl⟩) ?_
    · rw [← h.number]
      rfl
    · intro e he
      rcases List.mem_cons.mp he with rfl | hlast
      · rfl
      · rw [List.mem_singleton.mp hlast]
        rfl
  · show HasPreamble ((state.events ++ [_]) ++ [_])
    rw [hevents]
    exact ⟨_, _, [], rfl, (fun e he => by cases he)⟩

end

namespace EventsInv

variable {state : ResponsesStreamingState}

theorem append {state' : ResponsesStreamingState} {new : List ResponsesStreamEvent}
    (h : EventsInv state) (hstarted : state.started = true) (hstarted' : state'.started = true)
    (hevents : state'.events = state.events ++ new)
    (hnumber : state'.sequenceNumber = state.sequenceNumber + new.length)
    (hpreamble : ∀ e ∈ new, e.isPreamble = false)
    (hwritten : Written (state.events ++ new) state'.outputIndex state'.openText)
    (hreasoning : state'.openItem ≠ .reasoning → state'.reasoningText = "")
    (hmessage : state'.openItem ≠ .message → state'.messageText = "") : EventsInv state' := by
  refine ⟨?_, ?_, fun h => ?_, fun _ => ?_, hreasoning, hmessage⟩
  · rw [hnumber, hevents, h.number, List.length_append]
  · rw [hevents]
    exact hwritten
  · rw [hstarted'] at h
    cases h
  · rw [hevents]
    exact (h.preamble hstarted).append hpreamble

theorem closeOpenItem (h : EventsInv state) (hstarted : state.started = true) :
    EventsInv state.closeOpenItem ∧ state.closeOpenItem.started = true ∧
      state.closeOpenItem.openItem = .none := by
  have hwritten := h.written
  unfold ResponsesStreamingState.openText at hwritten
  cases hopen : state.openItem with
  | none =>
    rw [ResponsesStreamingState.closeOpenItem_none hopen]
    exact ⟨h, hstarted, hopen⟩
  | reasoning =>
    rw [hopen] at hwritten
    rw [ResponsesStreamingState.closeOpenItem_reasoning hopen]
    refine ⟨h.append hstarted hstarted rfl rfl ?_ ?_ (fun _ => rfl) (fun _ => h.message ?_),
      hstarted, rfl⟩
    · simp [isPreamble]
    · refine hwritten.finish state.reasoningText ?_ rfl (fun _ _ => rfl)
        String.append_empty ?_ ?_ ?_
      · rw [← h.number]
        rfl
      · simp [List.filterMap_cons, textDone, itemDone]
      · intro i hi
        simp [List.filterMap_cons, textDone, itemDone, Ne.symm hi]
      · simp [isTerminal]
    · rw [hopen]
      exact fun heq => by cases heq
  | message =>
    rw [hopen] at hwritten
    rw [ResponsesStreamingState.closeOpenItem_message hopen]
    refine ⟨h.append hstarted hstarted rfl rfl ?_ ?_ (fun _ => h.reasoning ?_) (fun _ => rfl),
      hstarted, rfl⟩
    · simp [isPreamble]
    · refine hwritten.finish state.messageText ?_ rfl (fun _ _ => rfl)
        String.append_empty ?_ ?_ ?_
      · rw [← h.number]
        rfl
      · simp [List.filterMap_cons, textDone, itemDone]
      · intro i hi
        simp [List.filterMap_cons, textDone, itemDone, Ne.symm hi]
      · simp [isTerminal]
    · rw [hopen]
      exact fun heq => by cases heq

theorem openReasoning (h : EventsInv state) (hstarted : state.started = true)
    (hopen : state.openItem = .none) : EventsInv state.openReasoning := by
  have hwritten := h.written
  unfold ResponsesStreamingState.openText at hwritten
  have hempty : state.reasoningText = "" :=
    h.reasoning (by rw [hopen]; exact fun heq => by cases heq)
  rw [hopen] at hwritten
  rw [ResponsesStreamingState.openReasoning_eq]
  refine h.append hstarted hstarted rfl rfl ?_ ?_ (fun hne => absurd rfl hne)
    (fun _ => h.message ?_)
  · simp [isPreamble]
  · refine hwritten.grow ?_ rfl (fun _ _ => rfl) ?_ (fun _ => ⟨rfl, rfl⟩) ?_
    · rw [← h.number]
      rfl
    · show "" = state.reasoningText
      exact hempty.symm
    · simp [isTerminal]
  · rw [hopen]
    exact fun heq => by cases heq

theorem openMessage (h : EventsInv state) (hstarted : state.started = true)
    (hopen : state.openItem = .none) : EventsInv state.openMessage := by
  have hwritten := h.written
  unfold ResponsesStreamingState.openText at hwritten
  have hempty : state.messageText = "" := h.message (by rw [hopen]; exact fun heq => by cases heq)
  rw [hopen] at hwritten
  rw [ResponsesStreamingState.openMessage_eq]
  refine h.append hstarted hstarted rfl rfl ?_ ?_ (fun _ => h.reasoning ?_)
    (fun hne => absurd rfl hne)
  · simp [isPreamble]
  · refine hwritten.grow ?_ rfl (fun _ _ => rfl) ?_ (fun _ => ⟨rfl, rfl⟩) ?_
    · rw [← h.number]
      rfl
    · show "" = state.messageText
      exact hempty.symm
    · simp [isTerminal]
  · rw [hopen]
    exact fun heq => by cases heq

theorem pushDelta {state' : ResponsesStreamingState} {e : ResponsesStreamEvent}
    (h : EventsInv state) (text whole : String) (hstarted : state.started = true)
    (hstarted' : state'.started = true)
    (hnumber : state'.sequenceNumber = state.sequenceNumber + 1)
    (hevents : state'.events = state.events ++ [e])
    (hindex : state'.outputIndex = state.outputIndex) (hopen : state.openText = some text)
    (hopen' : state'.openText = some (text ++ whole))
    (he : e.sequenceNumber = state.sequenceNumber ∧ e.mark = none ∧ e.isPreamble = false ∧
      e.isTerminal = false)
    (hdelta : ∀ i, e.delta i = if state.outputIndex = i then some whole else none)
    (hdone : ∀ i, e.textDone i = none ∧ e.itemDone i = none)
    (hreasoning : state'.openItem ≠ .reasoning → state'.reasoningText = "")
    (hmessage : state'.openItem ≠ .message → state'.messageText = "") : EventsInv state' := by
  obtain ⟨hseq, hmark, hpreamble, hterminal⟩ := he
  have hwritten := h.written
  rw [hopen] at hwritten
  refine h.append hstarted hstarted' hevents hnumber ?_ ?_ hreasoning hmessage
  · intro e' he'
    rw [List.mem_singleton.mp he']
    exact hpreamble
  · rw [hindex, hopen']
    refine hwritten.grow ?_ ?_ (fun i hi => ?_) ?_ (fun i => ⟨?_, ?_⟩) fun e' he' => ?_
    · rw [List.map_singleton, hseq, h.number]
      rfl
    · rw [List.filterMap_cons_none hmark]
      rfl
    · rw [List.filterMap_cons_none ((hdelta i).trans (if_neg (Ne.symm hi)))]
      rfl
    · rw [List.filterMap_cons_some ((hdelta _).trans (if_pos rfl))]
      rfl
    · rw [List.filterMap_cons_none (hdone i).1]
      rfl
    · rw [List.filterMap_cons_none (hdone i).2]
      rfl
    · rw [List.mem_singleton.mp he']
      exact hterminal

theorem handleReasoning (h : EventsInv state) (hstarted : state.started = true) (text : String) :
    EventsInv (state.handleReasoning text) ∧ (state.handleReasoning text).started = true := by
  have hopened : ∀ {opened : ResponsesStreamingState}, EventsInv opened → opened.started = true →
      opened.openItem = .reasoning →
      EventsInv ({ opened with reasoningText := opened.reasoningText ++ text }.push fun n =>
        .reasoningTextDelta ⟨n, opened.reasoningId, opened.outputIndex, 0, text⟩) := by
    intro opened hinv hrunning hopen
    refine hinv.pushDelta opened.reasoningText text hrunning hrunning rfl rfl rfl ?_ ?_
      ⟨rfl, rfl, rfl, rfl⟩ (fun _ => rfl) (fun _ => ⟨rfl, rfl⟩) (fun hne => absurd hopen hne)
        hinv.message
    · simp [ResponsesStreamingState.openText, hopen]
    · simp [ResponsesStreamingState.openText, ResponsesStreamingState.push, hopen]
  unfold ResponsesStreamingState.handleReasoning
  split
  · obtain ⟨hclosed, hstill, hnone⟩ := h.closeOpenItem hstarted
    exact ⟨hopened (hclosed.openReasoning hstill hnone) hstill rfl, hstill⟩
  · rename_i hopen
    exact ⟨hopened h hstarted (Decidable.of_not_not hopen), hstarted⟩

theorem handleContent (h : EventsInv state) (hstarted : state.started = true) (text : String) :
    EventsInv (state.handleContent text) ∧ (state.handleContent text).started = true := by
  have hopened : ∀ {opened : ResponsesStreamingState}, EventsInv opened → opened.started = true →
      opened.openItem = .message →
      EventsInv ({ opened with messageText := opened.messageText ++ text }.push fun n =>
        .outputTextDelta ⟨n, opened.messageId, opened.outputIndex, 0, text⟩) := by
    intro opened hinv hrunning hopen
    refine hinv.pushDelta opened.messageText text hrunning hrunning rfl rfl rfl ?_ ?_
      ⟨rfl, rfl, rfl, rfl⟩ (fun _ => rfl) (fun _ => ⟨rfl, rfl⟩) hinv.reasoning fun hne =>
        absurd hopen hne
    · simp [ResponsesStreamingState.openText, hopen]
    · simp [ResponsesStreamingState.openText, ResponsesStreamingState.push, hopen]
  unfold ResponsesStreamingState.handleContent
  split
  · obtain ⟨hclosed, hstill, hnone⟩ := h.closeOpenItem hstarted
    exact ⟨hopened (hclosed.openMessage hstill hnone) hstill rfl, hstill⟩
  · rename_i hopen
    exact ⟨hopened h hstarted (Decidable.of_not_not hopen), hstarted⟩

theorem handleToolCall (h : EventsInv state) (hstarted : state.started = true)
    (hopen : state.openItem = .none) (call : ParsedToolCall) :
    EventsInv (state.handleToolCall call) ∧ (state.handleToolCall call).started = true ∧
      (state.handleToolCall call).openItem = .none := by
  have hwritten := h.written
  unfold ResponsesStreamingState.openText at hwritten
  rw [hopen] at hwritten
  rw [ResponsesStreamingState.handleToolCall_eq]
  refine ⟨h.append hstarted hstarted rfl rfl ?_ ?_ h.reasoning h.message, hstarted, hopen⟩
  · simp [isPreamble]
  · show Written _ (state.outputIndex + 1) (ResponsesStreamingState.openText _)
    unfold ResponsesStreamingState.openText
    simp only [hopen]
    refine hwritten.finish (argumentsToToolCallString call.arguments) ?_ rfl ?_ ?_ ?_ ?_ ?_
    · rw [← h.number]
      rfl
    · intro i hi
      simp [List.filterMap_cons, delta, Ne.symm hi]
    · simp [List.filterMap_cons, delta]
    · simp [List.filterMap_cons, textDone, itemDone]
    · intro i hi
      simp [List.filterMap_cons, textDone, itemDone, Ne.symm hi]
    · simp [isTerminal]

theorem handleToolCalls (h : EventsInv state) (hstarted : state.started = true)
    (calls : List ParsedToolCall) :
    EventsInv (state.handleToolCalls calls) ∧ (state.handleToolCalls calls).started = true ∧
      (state.handleToolCalls calls).openItem = .none := by
  have hloop : ∀ (calls : List ParsedToolCall) {s : ResponsesStreamingState},
      EventsInv s ∧ s.started = true ∧ s.openItem = .none →
      let t := calls.foldl ResponsesStreamingState.handleToolCall s
      EventsInv t ∧ t.started = true ∧ t.openItem = .none := by
    intro calls
    induction calls with
    | nil => exact id
    | cons call calls ih =>
      intro s hs
      exact ih (hs.1.handleToolCall hs.2.1 hs.2.2 call)
  exact hloop calls (h.closeOpenItem hstarted)

end EventsInv

/-! ## One message -/

section

variable [TokenTotals] (builder : ResponsesResponseBuilder) {state : ResponsesStreamingState}
  {message : InferenceMessage}

open ResponsesStreaming

theorem step_token {token : GeneratedTokenResult} (htoken : message.token = some token)
    (herror : responsesError message = none) :
    step builder state message = (transformToken builder state token).toOption.getD state := by
  obtain ⟨generatedBy, requestId, rfl⟩ := token_cases htoken
  unfold step transform
  rw [herror]

theorem step_error {error : OpenAIError} (herror : responsesError message = some error) :
    step builder state message =
      (ensurePreamble builder state).push fun n => .failed ⟨n, builder.failed error⟩ := by
  unfold step transform
  rw [herror]
  rfl

/-- **A result that is no error and not the last** keeps the invariant, and opens and closes items
as `leavesOpen` says. -/
theorem eventsInv_step (h : EventsInv state) (hunfinished : message.IsUnfinished)
    (herror : responsesError message = none) :
    EventsInv (step builder state message) ∧
      decide ((step builder state message).openItem ≠ .none) =
        message.leavesOpen (decide (state.openItem ≠ .none)) := by
  obtain ⟨token, htoken, hdone⟩ := hunfinished
  have hpre := h.ensurePreamble builder
  have hstarted : (ensurePreamble builder state).started = true := ensurePreamble_started builder
  have hhandled := (errorOf_eq_none_iff _ htoken).mp herror
  rw [step_token builder htoken herror]
  unfold InferenceMessage.leavesOpen
  rw [htoken]
  cases token with
  | contentToken text =>
    refine ⟨(hpre.handleContent hstarted text).1, ?_⟩
    show decide (((ensurePreamble builder state).handleContent text).openItem ≠ .none) = true
    rw [ResponsesStreamingState.handleContent_openItem]
    rfl
  | undeterminableToken text =>
    refine ⟨(hpre.handleContent hstarted text).1, ?_⟩
    show decide (((ensurePreamble builder state).handleContent text).openItem ≠ .none) = true
    rw [ResponsesStreamingState.handleContent_openItem]
    rfl
  | reasoningToken text =>
    refine ⟨(hpre.handleReasoning hstarted text).1, ?_⟩
    show decide (((ensurePreamble builder state).handleReasoning text).openItem ≠ .none) = true
    rw [ResponsesStreamingState.handleReasoning_openItem]
    rfl
  | toolCallToken text => exact ⟨h, rfl⟩
  | toolCallParsed calls =>
    obtain ⟨hinv, -, hopen⟩ := hpre.handleToolCalls hstarted calls
    refine ⟨hinv, ?_⟩
    show decide (((ensurePreamble builder state).handleToolCalls calls).openItem ≠ .none) = false
    rw [hopen]
    rfl
  | done summary => cases hdone
  | _ => cases hhandled

theorem eventsInv_run {messages : List InferenceMessage}
    (hunfinished : ∀ m ∈ messages, m.IsUnfinished)
    (herror : ∀ m ∈ messages, responsesError m = none) :
    EventsInv (run builder messages) ∧
      decide ((run builder messages).openItem ≠ .none) = leavesItemOpen messages := by
  have hloop : ∀ (messages : List InferenceMessage) {s : ResponsesStreamingState} {isOpen : Bool},
      (∀ m ∈ messages, m.IsUnfinished) → (∀ m ∈ messages, responsesError m = none) →
      EventsInv s ∧ decide (s.openItem ≠ .none) = isOpen →
      EventsInv (messages.foldl (step builder) s) ∧
        decide ((messages.foldl (step builder) s).openItem ≠ .none) =
          messages.foldl InferenceMessage.leavesOpen isOpen := by
    intro messages
    induction messages with
    | nil => exact fun _ _ hs => hs
    | cons m messages ih =>
      intro s isOpen hunf herr hs
      have hstep := eventsInv_step builder hs.1 (hunf m (List.mem_cons_self ..))
        (herr m (List.mem_cons_self ..))
      rw [hs.2] at hstep
      exact ih (fun m' hm' => hunf m' (List.mem_cons_of_mem _ hm'))
        (fun m' hm' => herr m' (List.mem_cons_of_mem _ hm')) hstep
  exact hloop messages hunfinished herror ⟨eventsInv_ofDefault, rfl⟩

/-! ## Steps only add events -/

end

/-- More events; strictly more if told so. -/
def Adds (s t : ResponsesStreamingState) (strictly : Bool) : Prop :=
  ∃ new, t.events = s.events ++ new ∧ (strictly = true → new ≠ [])

namespace Adds

variable {s t u : ResponsesStreamingState} {a b : Bool}

theorem refl (s : ResponsesStreamingState) : Adds s s false :=
  ⟨[], (List.append_nil _).symm, (fun h => by cases h)⟩

theorem of_strict (h : Adds s t true) (b : Bool) : Adds s t b := by
  obtain ⟨new, hnew, hne⟩ := h
  exact ⟨new, hnew, fun _ => hne rfl⟩

theorem trans (hst : Adds s t a) (htu : Adds t u b) : Adds s u (a || b) := by
  obtain ⟨new, hnew, ha⟩ := hst
  obtain ⟨more, hmore, hb⟩ := htu
  refine ⟨new ++ more, by rw [hmore, hnew, List.append_assoc], fun h hempty => ?_⟩
  obtain ⟨rfl, rfl⟩ := List.append_eq_nil_iff.mp hempty
  rw [Bool.or_eq_true] at h
  rcases h with h | h
  · exact ha h rfl
  · exact hb h rfl

theorem push {e : ResponsesStreamEvent} (h : Adds s t a) (hevents : u.events = t.events ++ [e]) :
    Adds s u true := by
  obtain ⟨new, hnew, -⟩ := h
  refine ⟨new ++ [e], ?_, fun _ => List.append_ne_nil_of_right_ne_nil _ (List.cons_ne_nil _ _)⟩
  rw [hevents, hnew, List.append_assoc]

end Adds

theorem adds_closeOpenItem (s : ResponsesStreamingState) : Adds s s.closeOpenItem false := by
  cases hopen : s.openItem with
  | none =>
    rw [ResponsesStreamingState.closeOpenItem_none hopen]
    exact .refl s
  | reasoning =>
    rw [ResponsesStreamingState.closeOpenItem_reasoning hopen]
    exact ⟨_, rfl, (fun h => by cases h)⟩
  | message =>
    rw [ResponsesStreamingState.closeOpenItem_message hopen]
    exact ⟨_, rfl, (fun h => by cases h)⟩

theorem adds_openReasoning (s : ResponsesStreamingState) : Adds s s.openReasoning false :=
  ⟨_, rfl, (fun h => by cases h)⟩

theorem adds_openMessage (s : ResponsesStreamingState) : Adds s s.openMessage false := by
  rw [ResponsesStreamingState.openMessage_eq]
  exact ⟨_, rfl, (fun h => by cases h)⟩

theorem adds_handleReasoning (s : ResponsesStreamingState) (text : String) :
    Adds s (s.handleReasoning text) true := by
  unfold ResponsesStreamingState.handleReasoning
  split
  · exact ((adds_closeOpenItem s).trans (adds_openReasoning _)).push rfl
  · exact (Adds.refl s).push rfl

theorem adds_handleContent (s : ResponsesStreamingState) (text : String) :
    Adds s (s.handleContent text) true := by
  unfold ResponsesStreamingState.handleContent
  split
  · exact ((adds_closeOpenItem s).trans (adds_openMessage _)).push rfl
  · exact (Adds.refl s).push rfl

theorem adds_handleToolCall (s : ResponsesStreamingState) (call : ParsedToolCall) :
    Adds s (s.handleToolCall call) true := by
  rw [ResponsesStreamingState.handleToolCall_eq]
  exact ⟨_, rfl, fun _ => List.cons_ne_nil _ _⟩

theorem adds_handleToolCalls (s : ResponsesStreamingState) (calls : List ParsedToolCall) :
    Adds s (s.handleToolCalls calls) (!calls.isEmpty) := by
  have hloop : ∀ (calls : List ParsedToolCall) (t : ResponsesStreamingState),
      Adds t (calls.foldl ResponsesStreamingState.handleToolCall t) (!calls.isEmpty) := by
    intro calls
    induction calls with
    | nil => exact Adds.refl
    | cons call calls ih => exact fun t => (adds_handleToolCall t call).trans (ih _)
  exact (adds_closeOpenItem s).trans (hloop calls _)

section

variable (builder : ResponsesResponseBuilder) {state : ResponsesStreamingState}
  {message : InferenceMessage}

open ResponsesStreaming

theorem adds_ensurePreamble : Adds state (ensurePreamble builder state) false := by
  unfold ensurePreamble
  split
  · exact .refl state
  · exact (((Adds.refl state).push (u := { state with started := true }.push fun n =>
      .created ⟨n, builder.inProgress⟩) rfl).push rfl).of_strict false

variable [TokenTotals]

/-- **A message of a request adds events**, unless it is silent. -/
theorem adds_step (hmessage : message.IsUnfinished ∨ message.endsRequest = true) :
    Adds state (step builder state message) (!message.isSilent) := by
  have hpre : Adds state (ensurePreamble builder state) false := adds_ensurePreamble builder
  cases herror : responsesError message with
  | some error =>
    rw [step_error builder herror]
    exact (hpre.push rfl).of_strict _
  | none =>
    have htoken : ∃ token, message.token = some token := by
      rcases hmessage with ⟨token, htoken, -⟩ | hends
      · exact ⟨token, htoken⟩
      · rcases endsRequest_cases _ hends
            with ⟨error, hsome⟩ | ⟨generatedBy, requestId, summary, rfl⟩
        · cases herror.symm.trans hsome
        · exact ⟨_, rfl⟩
    obtain ⟨token, htoken⟩ := htoken
    have hhandled := (errorOf_eq_none_iff _ htoken).mp herror
    rw [step_token builder htoken herror]
    unfold InferenceMessage.isSilent
    rw [htoken]
    cases token with
    | contentToken text => exact hpre.trans (adds_handleContent _ text)
    | undeterminableToken text => exact hpre.trans (adds_handleContent _ text)
    | reasoningToken text => exact hpre.trans (adds_handleReasoning _ text)
    | toolCallToken text => exact .refl state
    | toolCallParsed calls =>
      have hcalls := hpre.trans (adds_handleToolCalls _ calls)
      cases calls with
      | nil => exact hcalls
      | cons call calls => exact hcalls
    | done summary => exact (hpre.trans (adds_closeOpenItem _)).push rfl
    | _ => cases hhandled

/-- Messages of a request add events, and one that is not silent does so for all of them. -/
theorem adds_foldl : ∀ (messages : List InferenceMessage) (s : ResponsesStreamingState),
    (∀ m ∈ messages, m.IsUnfinished ∨ m.endsRequest = true) →
    Adds s (messages.foldl (step builder) s) (!messages.all (·.isSilent))
  | [], s, _ => .refl s
  | m :: messages, s, h => by
    have hstep : Adds s (step builder s m) (!m.isSilent) :=
      adds_step builder (h m (List.mem_cons_self ..))
    have hrest := adds_foldl messages (step builder s m) fun m' hm' =>
      h m' (List.mem_cons_of_mem _ hm')
    have hall := hstep.trans hrest
    rw [← Bool.not_and] at hall
    exact hall

/-! ## The end of a stream -/

omit [TokenTotals] in
theorem structure_of_closed (h : EventsInv state) (hstarted : state.started = true)
    (hopen : state.openItem = .none) (event : Nat → ResponsesStreamEvent)
    (hevent : ∀ n, (event n).sequenceNumber = n ∧ (event n).isTerminal = true) :
    StreamStructure (state.push event).events := by
  have hwritten := h.written
  unfold ResponsesStreamingState.openText at hwritten
  rw [hopen] at hwritten
  exact hwritten.structure_of_terminal (h.preamble hstarted) ((hevent _).1.trans h.number)
    (hevent _).2

theorem structure_of_done (h : EventsInv state) (hends : message.endsRequest = true)
    (herror : responsesError message = none) :
    StreamStructure (step builder state message).events := by
  rcases endsRequest_cases _ hends with ⟨error, hsome⟩ | ⟨generatedBy, requestId, summary, rfl⟩
  · cases herror.symm.trans hsome
  · rw [step_token builder rfl herror]
    obtain ⟨hinv, hstarted, hopen⟩ :=
      (h.ensurePreamble builder).closeOpenItem (ensurePreamble_started builder)
    exact structure_of_closed hinv hstarted hopen (fun n => .completed ⟨n, _⟩) fun _ => ⟨rfl, rfl⟩

/-- A silent message changes nothing while no item is open. -/
theorem step_silent (hstarted : state.started = true) (hopen : state.openItem = .none)
    (hsilent : message.isSilent = true) : step builder state message = state := by
  unfold InferenceMessage.isSilent at hsilent
  split at hsilent
  · rename_i text htoken
    exact step_token builder htoken ((errorOf_eq_none_iff _ htoken).mpr rfl)
  · rename_i htoken
    rw [step_token builder htoken ((errorOf_eq_none_iff _ htoken).mpr rfl)]
    show (ensurePreamble builder state).closeOpenItem = state
    rw [ensurePreamble, if_pos hstarted, ResponsesStreamingState.closeOpenItem_none hopen]
  · cases hsilent

theorem foldl_silent : ∀ (messages : List InferenceMessage) {s : ResponsesStreamingState},
    s.started = true → s.openItem = .none → (∀ m ∈ messages, m.isSilent = true) →
    messages.foldl (step builder) s = s
  | [], _, _, _, _ => rfl
  | m :: messages, s, hstarted, hopen, h => by
    rw [List.foldl_cons, step_silent builder hstarted hopen (h m (List.mem_cons_self ..))]
    exact foldl_silent messages hstarted hopen fun m' hm' => h m' (List.mem_cons_of_mem _ hm')

omit [TokenTotals] in
theorem completeItems_length (n : Nat) : (completeItems n).length = 2 * n := by
  induction n with
  | zero => rfl
  | succ n ih =>
    rw [completeItems_succ, List.length_append, ih]
    show 2 * n + 2 = 2 * (n + 1)
    omega

omit [TokenTotals] in
/-- **Nothing follows a terminal event**, and no item is open at it. -/
theorem closed_of_structure {events after : List ResponsesStreamEvent}
    {e : ResponsesStreamEvent} {n : Nat} {text : Option String} (hwritten : Written events n text)
    (he : e.isTerminal = true) (hstructure : StreamStructure (events ++ [e] ++ after)) :
    after = [] ∧ text = none := by
  have hafter : after = [] := by
    refine Classical.byContradiction fun hne => ?_
    have hmem : e ∈ (events ++ [e] ++ after).dropLast := by
      rw [List.dropLast_append_of_ne_nil hne]
      exact List.mem_append_left _ (List.mem_append_right _ (List.mem_singleton_self e))
    rw [hstructure.terminal e hmem] at he
    cases he
  refine ⟨hafter, ?_⟩
  subst hafter
  rw [List.append_nil] at hstructure
  have hmark : e.mark = none := by
    cases e with
    | completed => rfl
    | failed => rfl
    | _ => cases he
  obtain ⟨m, hmarks | ⟨-, hrunning⟩⟩ := hstructure.items
  · rw [List.filterMap_append, List.filterMap_cons_none hmark, List.filterMap_nil, List.append_nil,
      hwritten.marks] at hmarks
    cases text with
    | none => rfl
    | some text =>
      -- an item that is only added makes the number of marks odd
      have hlength := congrArg List.length hmarks
      rw [List.length_append, completeItems_length, completeItems_length] at hlength
      exact absurd hlength (by simp [openMark]; omega)
  · rw [hrunning e (List.mem_append_right _ (List.mem_singleton_self e))] at he
    cases he

/-! ## All messages -/

omit [TokenTotals] in
theorem silent_no_error (hsilent : message.isSilent = true) : responsesError message = none := by
  unfold InferenceMessage.isSilent at hsilent
  split at hsilent
  · rename_i htoken
    exact (errorOf_eq_none_iff _ htoken).mpr rfl
  · rename_i htoken
    exact (errorOf_eq_none_iff _ htoken).mpr rfl
  · cases hsilent

omit [TokenTotals] in
theorem errorsEndTheStream_iff {before after : List InferenceMessage}
    (hbefore : ∀ m ∈ before, responsesError m = none) (herror : (responsesError message).isSome = true) :
    ErrorsEndTheStream (before ++ message :: after) ↔
      leavesItemOpen before = false ∧ ∀ m ∈ after, m.isSilent = true := by
  constructor
  · exact fun h => h before message after rfl herror
  · intro h before' message' after' heq herror'
    have hmem : ∀ m ∈ before, m ≠ message' := by
      intro m hm heq
      rw [← heq, hbefore m hm] at herror'
      cases herror'
    rcases List.append_eq_append_iff.mp heq with ⟨more, hinitial, hrest⟩ | ⟨more, hinitial, hrest⟩
    · cases more with
      | nil =>
        rw [List.nil_append, List.cons.injEq] at hrest
        rw [List.append_nil] at hinitial
        rw [hinitial, ← hrest.2]
        exact h
      | cons m more =>
        -- the error would come after the first one
        rw [List.cons_append, List.cons.injEq] at hrest
        have hsilent := h.2 message' (by rw [hrest.2]; exact List.mem_append_right _ (List.mem_cons_self ..))
        rw [silent_no_error hsilent] at herror'
        cases herror'
    · cases more with
      | nil =>
        rw [List.nil_append, List.cons.injEq] at hrest
        rw [List.append_nil] at hinitial
        rw [← hinitial, hrest.2]
        exact h
      | cons m more =>
        rw [List.cons_append, List.cons.injEq] at hrest
        refine absurd hrest.1.symm (hmem m ?_)
        rw [hinitial]
        exact List.mem_append_right _ (List.mem_cons_self ..)

theorem structure_iff_of_error {before after : List InferenceMessage}
    (hstream : IsRequestStream (before ++ message :: after))
    (hbefore : ∀ m ∈ before, responsesError m = none)
    (herror : (responsesError message).isSome = true) :
    StreamStructure (run builder (before ++ message :: after)).events ↔
      leavesItemOpen before = false ∧ ∀ m ∈ after, m.isSilent = true := by
  obtain ⟨error, herror⟩ := Option.isSome_iff_exists.mp herror
  obtain ⟨hunfinished, hrest⟩ := hstream.split
  obtain ⟨hinv, hopen⟩ := eventsInv_run builder hunfinished hbefore
  have hrun : run builder (before ++ message :: after) =
      after.foldl (step builder) ((ensurePreamble builder (run builder before)).push fun n =>
        .failed ⟨n, builder.failed error⟩) := by
    show (before ++ message :: after).foldl (step builder) .ofDefault = _
    rw [List.foldl_append, List.foldl_cons, step_error builder herror]
    rfl
  rw [hrun]
  generalize run builder before = s at hinv hopen
  have hpre := hinv.ensurePreamble builder
  have hstarted : (ensurePreamble builder s).started = true := ensurePreamble_started builder
  have hsame : (ensurePreamble builder s).openItem = s.openItem := ensurePreamble_openItem builder
  generalize ensurePreamble builder s = p at hpre hstarted hsame
  rw [← hopen, ← hsame]
  constructor
  · intro hstructure
    obtain ⟨new, hnew, hsilent⟩ := adds_foldl builder after
      (p.push fun n => .failed ⟨n, builder.failed error⟩) fun m hm =>
        hrest m (List.mem_cons_of_mem _ hm)
    rw [hnew] at hstructure
    obtain ⟨hempty, htext⟩ := closed_of_structure hpre.written (by rfl) hstructure
    constructor
    · unfold ResponsesStreamingState.openText at htext
      split at htext
      · rename_i hnone
        rw [hnone]
        rfl
      · cases htext
      · cases htext
    · refine Classical.byContradiction fun hloud => hsilent ?_ hempty
      rw [Bool.not_eq_true', ← Bool.not_eq_true, List.all_eq_true]
      exact hloud
  · rintro ⟨hclosed, hsilent⟩
    have hnone : p.openItem = .none := Decidable.of_not_not (of_decide_eq_false hclosed)
    rw [foldl_silent builder after (s := p.push _) hstarted hnone hsilent]
    exact structure_of_closed hpre hstarted hnone (fun n => .failed ⟨n, _⟩) fun _ => ⟨rfl, rfl⟩

/-- **The events of a request have their structure if and only if** no message that adds events
follows an error, and no item is open at it. -/
theorem responses_stream_structure (messages : List InferenceMessage)
    (hstream : IsRequestStream messages) :
    StreamStructure (run builder messages).events ↔ ErrorsEndTheStream messages := by
  cases hfirst : messages.find? fun m => (responsesError m).isSome with
  | some message =>
    obtain ⟨herror, before, after, rfl, hbefore⟩ := List.find?_eq_some_iff_append.mp hfirst
    have hbefore' : ∀ m ∈ before, responsesError m = none := by
      intro m hm
      have := hbefore m hm
      rw [Bool.not_eq_true', Option.isSome_eq_false_iff, Option.isNone_iff_eq_none] at this
      exact this
    rw [structure_iff_of_error builder hstream hbefore' herror,
      errorsEndTheStream_iff hbefore' herror]
  | none =>
    have hnone : ∀ m ∈ messages, responsesError m = none := by
      intro m hm
      have := List.find?_eq_none.mp hfirst m hm
      rw [Bool.not_eq_true, Option.isSome_eq_false_iff, Option.isNone_iff_eq_none] at this
      exact this
    refine iff_of_true ?_ fun before message after heq herror => ?_
    · obtain ⟨results, ending, rfl, hresults, rfl | ⟨m, rfl, hends⟩⟩ := hstream
      · rw [List.append_nil] at hnone ⊢
        obtain ⟨hinv, -⟩ := eventsInv_run builder hresults hnone
        refine hinv.written.structure_of_running ?_
        cases hstarted : (run builder results).started with
        | true => exact Or.inr (hinv.preamble hstarted)
        | false => exact Or.inl (hinv.notStarted hstarted).1
      · obtain ⟨hinv, -⟩ := eventsInv_run builder hresults fun m' hm' =>
          hnone m' (List.mem_append_left _ hm')
        show StreamStructure ((results ++ [m]).foldl (step builder) .ofDefault).events
        rw [List.foldl_append]
        exact structure_of_done builder hinv hends
          (hnone m (List.mem_append_right _ (List.mem_singleton_self m)))
    · rw [hnone message (heq ▸ List.mem_append_right _ (List.mem_cons_self ..))] at herror
      cases herror

end

section

attribute [local instance] TokenTotals.counted

/-- A result on its way to the endpoint. -/
def tokenMessage (token : GeneratedTokenResult) : InferenceMessage :=
  .response (some "agent") "request" (.generatedToken token)

/-- A response to a request without instructions. -/
def plainResponse : ResponsesResponseBuilder :=
  ⟨"resp_1", 0, "model", none⟩

/-- Reasoning, an answer and a tool call. -/
def answeredWithTool : List InferenceMessage :=
  [tokenMessage (.reasoningToken "I will "), tokenMessage (.reasoningToken "look."),
    tokenMessage (.contentToken "One moment."), tokenMessage (.toolCallToken "{}"),
    tokenMessage (.toolCallParsed [⟨"call_1", "look", .validJson "{}"⟩]),
    tokenMessage (.done ⟨.new⟩)]

theorem isRequestStream_answeredWithTool : IsRequestStream answeredWithTool := by
  refine ⟨answeredWithTool.dropLast, [tokenMessage (.done ⟨.new⟩)], rfl, ?_, Or.inr ⟨_, rfl, rfl⟩⟩
  intro m hm
  simp only [answeredWithTool, List.dropLast, List.mem_cons, List.not_mem_nil, or_false] at hm
  rcases hm with rfl | rfl | rfl | rfl | rfl
  · exact ⟨_, rfl, rfl⟩
  · exact ⟨_, rfl, rfl⟩
  · exact ⟨_, rfl, rfl⟩
  · exact ⟨_, rfl, rfl⟩
  · exact ⟨_, rfl, rfl⟩

theorem responses_stream_structure_answeredWithTool :
    StreamStructure (ResponsesStreaming.run plainResponse answeredWithTool).events := by
  refine (responses_stream_structure plainResponse answeredWithTool
    isRequestStream_answeredWithTool).mpr fun before message after heq herror => ?_
  have hmem : message ∈ answeredWithTool := by
    rw [heq]
    exact List.mem_append_right _ (List.mem_cons_self ..)
  have hnone : ∀ m ∈ answeredWithTool, (responsesError m).isSome = false := by decide
  rw [hnone message hmem] at herror
  cases herror

/-- **A tool call that cannot be parsed fails the response, which then completes.** -/
theorem not_responses_stream_structure : ¬ ∀ (builder : ResponsesResponseBuilder)
    (messages : List InferenceMessage), IsRequestStream messages →
    StreamStructure (ResponsesStreaming.run builder messages).events := by
  intro h
  have hstructure := h plainResponse
    [tokenMessage (.toolCallParseFailed "unexpected end"), tokenMessage (.done ⟨.new⟩)]
    ⟨[tokenMessage (.toolCallParseFailed "unexpected end")], _, rfl,
      fun m hm => ⟨.toolCallParseFailed "unexpected end", by
        rw [List.mem_singleton.mp hm]; rfl, rfl⟩,
      Or.inr ⟨_, rfl, rfl⟩⟩
  have hterminal := hstructure.terminal
  revert hterminal
  decide

end

end Paddler
