import Paddler.Compatibility.ResponsesStreamStructure

/-!
# Streamed and collected responses

The same results, streamed and collected: the streaming transformer makes an item of every stretch
of reasoning or content as it arrives, the other one makes one item of all reasoning and one of all
content, and puts the tool calls after them.

* `streamed`, `collected` — the output of both, as functions of the pieces that the results add.
* `streamed_reasoning`, `streamed_content`, `streamed_gap` — a stretch of pieces becomes one item.
* `streamed_eq_collected` — the outputs are the same if and only if the pieces are in the order in
  which they are collected.
* `responses_agree` — **the completed response of the stream is the collected one**, up to the ids
  of its items, if and only if they are.
-/

set_option autoImplicit false

namespace Paddler

/-! ## The order of the pieces -/

/-- Reasoning, content and tool calls, each in one stretch.  Results with no call in them may come
before, but do not split a stretch. -/
def orderedPieces (before : Nat) (reasoning : List String) (between : Nat) (content : List String)
    (calls : List (List ParsedToolCall)) : List OutputPiece :=
  List.replicate before (.toolCalls []) ++ reasoning.map .reasoning ++
    (List.replicate between (.toolCalls []) ++ content.map .content ++ calls.map .toolCalls)

/-- The order in which the pieces are collected.  A stretch of reasoning has a text; and unless
content is all there is, either it has a text or there is none. -/
def InCollectedOrder (pieces : List OutputPiece) : Prop :=
  ∃ (before : Nat) (reasoning : List String) (between : Nat) (content : List String)
    (calls : List (List ParsedToolCall)), pieces =
      orderedPieces before reasoning between content calls ∧
    (reasoning ≠ [] → String.join reasoning ≠ "") ∧
    (content = [] → calls.flatten ≠ []) ∧
    (content ≠ [] → String.join content = "" → calls.flatten = [])

/-! ## Items without their ids -/

/-- A reasoning item. -/
def reasoningItem (text : String) : Json :=
  (reasoningItemDone "" text).without "id"

/-- A message item. -/
def messageItem (text : String) : Json :=
  (messageItemDone "" text).without "id"

/-- The item of a call. -/
def callItem (call : ParsedToolCall) : Json :=
  (functionCallItem "" call.id call.name (argumentsToToolCallString call.arguments) "completed").without "id"

/-- The kind of an item. -/
def itemKind (item : Json) : Option String :=
  (item.field "type").bind (·.asString)

theorem reasoningItem_ne_messageItem (s t : String) : reasoningItem s ≠ messageItem t := by
  intro h
  have hkind : some "reasoning" = some "message" := congrArg itemKind h
  revert hkind
  decide

theorem reasoningItem_ne_callItem (s : String) (call : ParsedToolCall) :
    reasoningItem s ≠ callItem call := by
  intro h
  have hkind : some "reasoning" = some "function_call" := congrArg itemKind h
  revert hkind
  decide

theorem messageItem_ne_callItem (s : String) (call : ParsedToolCall) :
    messageItem s ≠ callItem call := by
  intro h
  have hkind : some "message" = some "function_call" := congrArg itemKind h
  revert hkind
  decide

theorem reasoningItem_inj {s t : String} (h : reasoningItem s = reasoningItem t) : s = t :=
  Option.some.inj (congrArg itemText h)

theorem messageItem_inj {s t : String} (h : messageItem s = messageItem t) : s = t :=
  Option.some.inj (congrArg itemText h)

/-! ## Streamed output -/

/-- The item that is open, with its text so far. -/
inductive OpenPiece where
  | none
  | reasoning (text : String)
  | content (text : String)
  deriving DecidableEq, Repr

/-- What closing the open item adds. -/
def OpenPiece.close : OpenPiece → List Json
  | .none => []
  | .reasoning text => [reasoningItem text]
  | .content text => [messageItem text]

/-- The items of a stream from its open item on. -/
def streamed : OpenPiece → List OutputPiece → List Json
  | opened, [] => opened.close
  | .reasoning text, .reasoning more :: pieces => streamed (.reasoning (text ++ more)) pieces
  | opened, .reasoning text :: pieces => opened.close ++ streamed (.reasoning text) pieces
  | .content text, .content more :: pieces => streamed (.content (text ++ more)) pieces
  | opened, .content text :: pieces => opened.close ++ streamed (.content text) pieces
  | opened, .toolCalls calls :: pieces =>
    opened.close ++ calls.map callItem ++ streamed .none pieces

theorem streamed_reasoning : ∀ (text : String) (pieces : List OutputPiece),
    ∃ (more : List String) (rest : List OutputPiece), pieces = more.map .reasoning ++ rest ∧
      streamed (.reasoning text) pieces = reasoningItem
      (text ++ String.join more) :: streamed .none rest
  | text, [] => ⟨[], [], rfl, by rw [String.join_nil, String.append_empty]; rfl⟩
  | text, .reasoning t :: pieces => by
    obtain ⟨more, rest, rfl, heq⟩ := streamed_reasoning (text ++ t) pieces
    refine ⟨t :: more, rest, rfl, ?_⟩
    rw [String.join_cons, ← String.append_assoc]
    exact heq
  | text, .content t :: pieces =>
    ⟨[], .content t :: pieces, rfl, by rw [String.join_nil, String.append_empty]; rfl⟩
  | text, .toolCalls calls :: pieces =>
    ⟨[], .toolCalls calls :: pieces, rfl, by rw [String.join_nil, String.append_empty]; rfl⟩

theorem streamed_content : ∀ (text : String) (pieces : List OutputPiece),
    ∃ (more : List String) (rest : List OutputPiece), pieces = more.map .content ++ rest ∧
      streamed (.content text) pieces = messageItem
      (text ++ String.join more) :: streamed .none rest
  | text, [] => ⟨[], [], rfl, by rw [String.join_nil, String.append_empty]; rfl⟩
  | text, .content t :: pieces => by
    obtain ⟨more, rest, rfl, heq⟩ := streamed_content (text ++ t) pieces
    refine ⟨t :: more, rest, rfl, ?_⟩
    rw [String.join_cons, ← String.append_assoc]
    exact heq
  | text, .reasoning t :: pieces =>
    ⟨[], .reasoning t :: pieces, rfl, by rw [String.join_nil, String.append_empty]; rfl⟩
  | text, .toolCalls calls :: pieces =>
    ⟨[], .toolCalls calls :: pieces, rfl, by rw [String.join_nil, String.append_empty]; rfl⟩

/-- Results with no call in them add nothing, and what comes after them does. -/
theorem streamed_gap : ∀ (pieces : List OutputPiece), ∃ (n : Nat) (rest : List OutputPiece),
    pieces = List.replicate n (.toolCalls []) ++ rest ∧
    streamed .none pieces = streamed .none rest ∧
      ∀ rest', rest ≠ .toolCalls [] :: rest'
  | [] => ⟨0, [], rfl, rfl, (fun _ h => by cases h)⟩
  | .toolCalls [] :: pieces => by
    obtain ⟨n, rest, rfl, heq, hrest⟩ := streamed_gap pieces
    exact ⟨n + 1, rest, rfl, heq, hrest⟩
  | .toolCalls (call :: calls) :: pieces => ⟨0, _, rfl, rfl, (fun _ h => by cases h)⟩
  | .reasoning text :: pieces => ⟨0, _, rfl, rfl, (fun _ h => by cases h)⟩
  | .content text :: pieces => ⟨0, _, rfl, rfl, (fun _ h => by cases h)⟩

theorem streamed_toolCalls (calls : List ParsedToolCall) (pieces : List OutputPiece) :
    streamed .none (.toolCalls calls :: pieces) = calls.map callItem ++ streamed .none pieces := rfl

theorem streamed_eq_calls : ∀ (pieces : List OutputPiece) (calls : List ParsedToolCall),
    streamed .none pieces = calls.map callItem →
    ∃ found : List (List ParsedToolCall), pieces = found.map .toolCalls ∧
      found.flatten.map callItem = calls.map callItem
  | [], calls, h => ⟨[], rfl, h⟩
  | .reasoning text :: pieces, calls, h => by
    obtain ⟨more, rest, -, heq⟩ := streamed_reasoning text pieces
    have hhead : reasoningItem (text ++ String.join more) :: streamed .none rest =
        calls.map callItem :=
      heq.symm.trans h
    cases calls with
    | nil => cases hhead
    | cons call calls => exact absurd (List.cons.inj hhead).1 (reasoningItem_ne_callItem _ _)
  | .content text :: pieces, calls, h => by
    obtain ⟨more, rest, -, heq⟩ := streamed_content text pieces
    have hhead : messageItem (text ++ String.join more) :: streamed .none rest =
        calls.map callItem :=
      heq.symm.trans h
    cases calls with
    | nil => cases hhead
    | cons call calls => exact absurd (List.cons.inj hhead).1 (messageItem_ne_callItem _ _)
  | .toolCalls found :: pieces, calls, h => by
    rw [streamed_toolCalls] at h
    obtain ⟨before, after, rfl, hbefore, hafter⟩ := List.append_eq_map_iff.mp h
    obtain ⟨others, rfl, hothers⟩ := streamed_eq_calls pieces after hafter.symm
    refine ⟨found :: others, rfl, ?_⟩
    rw [List.flatten_cons, List.map_append, List.map_append, hothers, hbefore]

/-! ## Collected output -/

/-- The items of content and calls. -/
def collectedMessage (content : String) (calls : List ParsedToolCall) : List Json :=
  (if content ≠ "" ∨ calls = [] then [messageItem content] else []) ++ calls.map callItem

/-- The items of everything that the pieces have. -/
def collected (pieces : List OutputPiece) : List Json :=
  let reasoning := String.join (pieces.filterMap (·.reasoningText))
  (if reasoning ≠ "" then [reasoningItem reasoning] else []) ++
    collectedMessage (String.join (pieces.filterMap (·.contentText))) (pieces.flatMap (·.calls))

/-! ## Where they are the same -/

/-- Content in one stretch, and then calls. -/
def MessageOrder (pieces : List OutputPiece) : Prop :=
  ∃ (n : Nat) (content : List String) (calls : List (List ParsedToolCall)),
    pieces = List.replicate n (.toolCalls []) ++ content.map .content ++ calls.map .toolCalls ∧
    (content = [] → calls.flatten ≠ []) ∧
    (content ≠ [] → String.join content = "" → calls.flatten = [])

theorem collectedMessage_ne_nil (content : String) (calls : List ParsedToolCall) :
    collectedMessage content calls ≠ [] := by
  unfold collectedMessage
  split
  · exact List.cons_ne_nil _ _
  · rename_i hcalls
    intro h
    refine hcalls (Or.inr ?_)
    exact List.map_eq_nil_iff.mp h

theorem reasoningItem_ne_head (text content : String) (calls : List ParsedToolCall)
    (rest : List Json) :
    reasoningItem text :: rest ≠ collectedMessage content calls := by
  unfold collectedMessage
  intro h
  split at h
  · exact reasoningItem_ne_messageItem _ _ (List.cons.inj h).1
  · cases calls with
    | nil => cases h
    | cons call calls => exact reasoningItem_ne_callItem _ _ (List.cons.inj h).1

/-- What is streamed as content and calls are collected came in that order. -/
theorem messageOrder_of_streamed {pieces : List OutputPiece} {content : String}
    {calls : List ParsedToolCall} (h : streamed .none pieces = collectedMessage content calls) :
    MessageOrder pieces := by
  obtain ⟨n, rest, rfl, hgap, hrest⟩ := streamed_gap pieces
  rw [hgap] at h
  cases rest with
  | nil => exact absurd h.symm (collectedMessage_ne_nil _ _)
  | cons piece rest =>
    cases piece with
    | reasoning text =>
      obtain ⟨more, later, -, heq⟩ := streamed_reasoning text rest
      exact absurd (heq.symm.trans h) (reasoningItem_ne_head _ _ _ _)
    | content text =>
      obtain ⟨more, later, rfl, heq⟩ := streamed_content text rest
      have hitems : messageItem (text ++ String.join more) :: streamed .none later =
          collectedMessage content calls := heq.symm.trans h
      unfold collectedMessage at hitems
      split at hitems
      · rename_i hcontent
        obtain ⟨hhead, htail⟩ := List.cons.inj hitems
        obtain ⟨found, rfl, hfound⟩ := streamed_eq_calls later calls htail
        refine ⟨n, text :: more, found, ?_, (fun hnil => by cases hnil), fun _ hempty => ?_⟩
        · rw [List.append_assoc]
          rfl
        · rw [String.join_cons, messageItem_inj hhead] at hempty
          rcases hcontent with hne | hcalls
          · exact absurd hempty hne
          · rw [hcalls] at hfound
            exact List.map_eq_nil_iff.mp hfound
      · cases calls with
        | nil => cases hitems
        | cons call calls => exact absurd (List.cons.inj hitems).1 (messageItem_ne_callItem _ _)
    | toolCalls found =>
      cases found with
      | nil => exact absurd rfl (hrest rest)
      | cons call found =>
        have hitems : callItem call :: (found.map callItem ++ streamed .none rest) =
            collectedMessage content calls := h
        unfold collectedMessage at hitems
        split at hitems
        · exact absurd (List.cons.inj hitems).1.symm (messageItem_ne_callItem _ _)
        · obtain ⟨all, hall, -⟩ :=
            streamed_eq_calls (.toolCalls (call :: found) :: rest) calls hitems
          refine ⟨n, [], all, ?_, fun _ hempty => ?_, fun hne => absurd rfl hne⟩
          · rw [hall, List.map_nil, List.append_nil]
          · cases all with
            | nil => cases hall
            | cons first all =>
              rw [List.map_cons, List.cons.injEq, OutputPiece.toolCalls.injEq] at hall
              rw [← hall.1] at hempty
              cases hempty

theorem streamed_replicate (n : Nat) (pieces : List OutputPiece) :
    streamed .none (List.replicate n (.toolCalls []) ++ pieces) = streamed .none pieces := by
  induction n with
  | zero => rfl
  | succ n ih => exact ih

theorem streamed_map_calls (calls : List (List ParsedToolCall)) :
    streamed .none (calls.map .toolCalls) = calls.flatten.map callItem := by
  induction calls with
  | nil => rfl
  | cons found calls ih =>
    rw [List.map_cons, streamed_toolCalls, ih, List.flatten_cons, List.map_append]

theorem streamed_map_content (text : String) (content : List String)
    (calls : List (List ParsedToolCall)) :
    streamed (.content text) (content.map .content ++ calls.map .toolCalls) =
      messageItem (text ++ String.join content) :: calls.flatten.map callItem := by
  induction content generalizing text with
  | nil =>
    rw [← streamed_map_calls, String.join_nil, String.append_empty]
    cases calls with
    | nil => rfl
    | cons found calls => rfl
  | cons more content ih =>
    rw [String.join_cons, ← String.append_assoc]
    exact ih (text ++ more)

theorem streamed_map_reasoning {rest : List OutputPiece}
    (hrest : ∀ text later, rest ≠ .reasoning text :: later) (text : String)
    (reasoning : List String) :
    streamed (.reasoning text) (reasoning.map .reasoning ++ rest) =
      reasoningItem (text ++ String.join reasoning) :: streamed .none rest := by
  induction reasoning generalizing text with
  | nil =>
    rw [String.join_nil, String.append_empty]
    cases rest with
    | nil => rfl
    | cons piece rest =>
      cases piece with
      | reasoning text => exact absurd rfl (hrest text rest)
      | content text => rfl
      | toolCalls calls => rfl
  | cons more reasoning ih =>
    rw [String.join_cons, ← String.append_assoc]
    exact ih (text ++ more)

/-- Content and calls in that order are streamed as they are collected. -/
theorem streamed_messageOrder (n : Nat) {content : List String} {calls : List (List ParsedToolCall)}
    (hcalls : content = [] → calls.flatten ≠ [])
    (hempty : content ≠ [] → String.join content = "" → calls.flatten = []) :
    streamed .none (List.replicate n (.toolCalls []) ++ content.map .content ++
      calls.map .toolCalls) = collectedMessage (String.join content) calls.flatten := by
  rw [List.append_assoc, streamed_replicate]
  unfold collectedMessage
  cases content with
  | nil =>
    rw [if_neg]
    · exact streamed_map_calls calls
    · rintro (hne | hnone)
      · exact hne rfl
      · exact hcalls rfl hnone
  | cons text content =>
    rw [if_pos]
    · rw [String.join_cons]
      exact streamed_map_content text content calls
    · by_cases hjoin : String.join (text :: content) = ""
      · exact Or.inr (hempty (List.cons_ne_nil _ _) hjoin)
      · exact Or.inl hjoin

section

variable (before : Nat) (reasoning : List String) (between : Nat) (content : List String)
  (calls : List (List ParsedToolCall))

theorem filterMap_map_none {α β γ : Type} {f : β → Option γ} {g : α → β} (h : ∀ a, f (g a) = none)
    (l : List α) : (l.map g).filterMap f = [] := by
  rw [List.filterMap_map]
  exact List.filterMap_eq_nil_iff.mpr fun a _ => h a

theorem ordered_reasoning :
    (orderedPieces before reasoning between content calls).filterMap (·.reasoningText) =
      reasoning := by
  have hreasoning : (reasoning.map OutputPiece.reasoning).filterMap (·.reasoningText) =
      reasoning := by
    rw [List.filterMap_map]
    exact List.filterMap_some
  have hcontent : (content.map OutputPiece.content).filterMap (·.reasoningText) = [] :=
    filterMap_map_none (fun _ => rfl) content
  have hcalls : (calls.map OutputPiece.toolCalls).filterMap (·.reasoningText) = [] :=
    filterMap_map_none (fun _ => rfl) calls
  unfold orderedPieces
  rw [List.filterMap_append, List.filterMap_append, List.filterMap_append, List.filterMap_append,
    List.filterMap_replicate_of_none rfl, List.filterMap_replicate_of_none rfl, hreasoning,
    hcontent, hcalls]
  simp

theorem ordered_content :
    (orderedPieces before reasoning between content calls).filterMap (·.contentText) = content := by
  have hreasoning : (reasoning.map OutputPiece.reasoning).filterMap (·.contentText) = [] :=
    filterMap_map_none (fun _ => rfl) reasoning
  have hcontent : (content.map OutputPiece.content).filterMap (·.contentText) = content := by
    rw [List.filterMap_map]
    exact List.filterMap_some
  have hcalls : (calls.map OutputPiece.toolCalls).filterMap (·.contentText) = [] :=
    filterMap_map_none (fun _ => rfl) calls
  unfold orderedPieces
  rw [List.filterMap_append, List.filterMap_append, List.filterMap_append, List.filterMap_append,
    List.filterMap_replicate_of_none rfl, List.filterMap_replicate_of_none rfl, hreasoning,
    hcontent, hcalls]
  simp

theorem ordered_calls :
    (orderedPieces before reasoning between content calls).flatMap (·.calls) = calls.flatten := by
  have hnone : ∀ l : List String, l.flatMap (fun _ => ([] : List ParsedToolCall)) = [] := fun l =>
    List.flatMap_eq_nil_iff.mpr fun _ _ => rfl
  simp [orderedPieces, List.flatMap_append, List.flatMap_map, List.flatMap_replicate,
    OutputPiece.calls, hnone]

end

/-- An output that begins with a reasoning item is streamed from a stretch of reasoning. -/
theorem reasoningOrder_of_streamed {pieces : List OutputPiece} {reasoning : String}
    {items : List Json} (h : streamed .none pieces = reasoningItem reasoning :: items) :
    ∃ (before : Nat) (text : String) (more : List String) (later : List OutputPiece),
      pieces = List.replicate before (.toolCalls []) ++ (text :: more).map .reasoning ++ later ∧
        String.join (text :: more) = reasoning ∧ streamed .none later = items := by
  obtain ⟨before, rest, hpieces, hgap, hrest⟩ := streamed_gap pieces
  rw [hgap] at h
  cases rest with
  | nil => cases h
  | cons piece rest =>
    cases piece with
    | content text =>
      obtain ⟨more, later, -, heq⟩ := streamed_content text rest
      have hitems := (List.cons.inj (heq.symm.trans h)).1
      exact absurd hitems.symm (reasoningItem_ne_messageItem _ _)
    | toolCalls found =>
      cases found with
      | nil => exact absurd rfl (hrest rest)
      | cons call found => exact absurd (List.cons.inj h).1.symm (reasoningItem_ne_callItem _ _)
    | reasoning text =>
      obtain ⟨more, later, rfl, heq⟩ := streamed_reasoning text rest
      obtain ⟨hhead, htail⟩ := List.cons.inj (heq.symm.trans h)
      refine ⟨before, text, more, later, ?_, ?_, htail⟩
      · rw [hpieces, List.map_cons, List.append_assoc]
        rfl
      · rw [String.join_cons]
        exact reasoningItem_inj hhead

theorem inCollectedOrder_of_streamed {pieces : List OutputPiece}
    (h : streamed .none pieces = collected pieces) : InCollectedOrder pieces := by
  unfold collected at h
  simp only at h
  split at h
  · rename_i hreasoning
    obtain ⟨before, text, more, later, rfl, hjoin, hlater⟩ := reasoningOrder_of_streamed h
    obtain ⟨between, content, calls, rfl, hcalls, hempty⟩ := messageOrder_of_streamed hlater
    refine ⟨before, text :: more, between, content, calls, rfl, fun _ => ?_, hcalls, hempty⟩
    rw [hjoin]
    exact hreasoning
  · obtain ⟨n, content, calls, rfl, hcalls, hempty⟩ := messageOrder_of_streamed h
    exact ⟨0, [], n, content, calls, rfl, fun hne => absurd rfl hne, hcalls, hempty⟩

theorem streamed_of_inCollectedOrder {pieces : List OutputPiece} (h : InCollectedOrder pieces) :
    streamed .none pieces = collected pieces := by
  obtain ⟨before, reasoning, between, content, calls, rfl, hreasoning, hcalls, hempty⟩ := h
  unfold collected
  rw [ordered_reasoning, ordered_content, ordered_calls,
    ← streamed_messageOrder between hcalls hempty]
  unfold orderedPieces
  rw [List.append_assoc _ (reasoning.map _), streamed_replicate]
  cases reasoning with
  | nil =>
    simp only
    rw [if_neg]
    · rfl
    · exact fun hne => hne rfl
  | cons text reasoning =>
    simp only
    rw [if_pos (hreasoning (List.cons_ne_nil _ _)), String.join_cons]
    refine streamed_map_reasoning ?_ text reasoning
    intro t later h
    cases between with
    | succ n => cases h
    | zero =>
      cases content with
      | cons c content => cases h
      | nil =>
        cases calls with
        | nil => cases h
        | cons c calls => cases h

/-- **The outputs are the same if and only if the pieces are in the order in which they are
collected.** -/
theorem streamed_eq_collected (pieces : List OutputPiece) :
    streamed .none pieces = collected pieces ↔ InCollectedOrder pieces :=
  ⟨inCollectedOrder_of_streamed, streamed_of_inCollectedOrder⟩

/-! ## The streaming state -/

namespace ResponsesStreamingState

/-- The item that is open. -/
def openPiece (self : ResponsesStreamingState) : OpenPiece :=
  match self.openItem with
  | .none => .none
  | .reasoning => .reasoning self.reasoningText
  | .message => .content self.messageText

/-- The output that the state comes to with more pieces. -/
def outputWith (self : ResponsesStreamingState) (pieces : List OutputPiece) : List Json :=
  self.finalizedOutput.map (·.without "id") ++ streamed self.openPiece pieces

theorem closeOpenItem_output (self : ResponsesStreamingState) :
    self.closeOpenItem.finalizedOutput.map (·.without "id") =
      self.finalizedOutput.map (·.without "id") ++ self.openPiece.close := by
  unfold openPiece
  cases hopen : self.openItem with
  | none =>
    rw [closeOpenItem_none hopen]
    exact (List.append_nil _).symm
  | reasoning =>
    rw [closeOpenItem_reasoning hopen]
    exact List.map_append
  | message =>
    rw [closeOpenItem_message hopen]
    exact List.map_append

theorem handleReasoning_outputWith {self : ResponsesStreamingState} (h : EventsInv self)
    (hstarted : self.started = true) (text : String) (pieces : List OutputPiece) :
    (self.handleReasoning text).outputWith pieces =
      self.outputWith (.reasoning text :: pieces) := by
  unfold handleReasoning outputWith
  by_cases hopen : self.openItem = .reasoning
  · rw [if_neg (fun hne => hne hopen)]
    have hpiece : self.openPiece = .reasoning self.reasoningText := by rw [openPiece, hopen]
    rw [hpiece]
    simp [push, openPiece, hopen, streamed]
  · rw [if_pos hopen]
    obtain ⟨hclosed, -, hnone⟩ := h.closeOpenItem hstarted
    have hempty : self.closeOpenItem.reasoningText = "" :=
      hclosed.reasoning (by rw [hnone]; exact fun heq => by cases heq)
    have hstreamed : streamed self.openPiece (.reasoning text :: pieces) =
        self.openPiece.close ++ streamed (.reasoning text) pieces := by
      unfold openPiece
      cases hitem : self.openItem with
      | none => rfl
      | reasoning => exact absurd hitem hopen
      | message => rfl
    rw [hstreamed, ← List.append_assoc, ← closeOpenItem_output]
    simp [push, openPiece, openReasoning, hempty]

theorem handleContent_outputWith {self : ResponsesStreamingState} (h : EventsInv self)
    (hstarted : self.started = true) (text : String) (pieces : List OutputPiece) :
    (self.handleContent text).outputWith pieces = self.outputWith (.content text :: pieces) := by
  unfold handleContent outputWith
  by_cases hopen : self.openItem = .message
  · rw [if_neg (fun hne => hne hopen)]
    have hpiece : self.openPiece = .content self.messageText := by rw [openPiece, hopen]
    rw [hpiece]
    simp [push, openPiece, hopen, streamed]
  · rw [if_pos hopen]
    obtain ⟨hclosed, -, hnone⟩ := h.closeOpenItem hstarted
    have hempty : self.closeOpenItem.messageText = "" :=
      hclosed.message (by rw [hnone]; exact fun heq => by cases heq)
    have hstreamed : streamed self.openPiece (.content text :: pieces) =
        self.openPiece.close ++ streamed (.content text) pieces := by
      unfold openPiece
      cases hitem : self.openItem with
      | none => rfl
      | reasoning => rfl
      | message => exact absurd hitem hopen
    rw [hstreamed, ← List.append_assoc, ← closeOpenItem_output]
    simp [push, openPiece, openMessage, hempty]

theorem handleToolCalls_outputWith {self : ResponsesStreamingState} (h : EventsInv self)
    (hstarted : self.started = true) (calls : List ParsedToolCall) (pieces : List OutputPiece) :
    (self.handleToolCalls calls).outputWith pieces =
      self.outputWith (.toolCalls calls :: pieces) := by
  have hloop : ∀ (calls : List ParsedToolCall) (s : ResponsesStreamingState), s.openItem = .none →
      (calls.foldl handleToolCall s).outputWith pieces =
        s.finalizedOutput.map (·.without "id") ++
        (calls.map callItem ++ streamed .none pieces) := by
    intro calls
    induction calls with
    | nil =>
      intro s hopen
      unfold outputWith openPiece
      rw [List.foldl_nil, hopen]
      rfl
    | cons call calls ih =>
      intro s hopen
      rw [List.foldl_cons, handleToolCall_eq, ih]
      · rw [List.map_append, List.append_assoc]
        rfl
      · exact hopen
  obtain ⟨-, -, hnone⟩ := h.closeOpenItem hstarted
  unfold handleToolCalls
  rw [hloop calls _ hnone, closeOpenItem_output, List.append_assoc,
    ← List.append_assoc self.openPiece.close]
  unfold outputWith
  cases hopen : self.openPiece with
  | none => rfl
  | reasoning text => rfl
  | content text => rfl

end ResponsesStreamingState

/-! ## The streamed output -/

section

variable [TokenTotals] (builder : ResponsesResponseBuilder)

open ResponsesStreaming

omit [TokenTotals] in
theorem ensurePreamble_outputWith (state : ResponsesStreamingState) (pieces : List OutputPiece) :
    (ensurePreamble builder state).outputWith pieces = state.outputWith pieces := by
  unfold ensurePreamble
  split
  · rfl
  · rfl

/-- **A result adds its piece.** -/
theorem step_outputWith {state : ResponsesStreamingState} {message : InferenceMessage}
    {token : GeneratedTokenResult} (h : EventsInv state) (htoken : message.token = some token)
    (hhandled : token.isHandled = true) (hdone : token.isDone = false) (pieces : List OutputPiece) :
    (step builder state message).outputWith pieces =
      state.outputWith (token.piece.toList ++ pieces) := by
  rw [step_token builder htoken ((errorOf_eq_none_iff _ htoken).mpr hhandled)]
  have hpre := h.ensurePreamble builder
  have hstarted : (ensurePreamble builder state).started = true := ensurePreamble_started builder
  cases token with
  | contentToken text =>
    rw [← ensurePreamble_outputWith builder state]
    exact ResponsesStreamingState.handleContent_outputWith hpre hstarted text pieces
  | undeterminableToken text =>
    rw [← ensurePreamble_outputWith builder state]
    exact ResponsesStreamingState.handleContent_outputWith hpre hstarted text pieces
  | reasoningToken text =>
    rw [← ensurePreamble_outputWith builder state]
    exact ResponsesStreamingState.handleReasoning_outputWith hpre hstarted text pieces
  | toolCallToken text => rfl
  | toolCallParsed calls =>
    rw [← ensurePreamble_outputWith builder state]
    exact ResponsesStreamingState.handleToolCalls_outputWith hpre hstarted calls pieces
  | done summary => cases hdone
  | _ => cases hhandled

/-- The messages are results without an error, none of them the last. -/
theorem streamed_run {results : List GeneratedTokenResult}
    (hresults : ∀ token ∈ results, token.isHandled = true ∧ token.isDone = false)
    {messages : List InferenceMessage} (htokens : messages.map (·.token) = results.map some) :
    EventsInv (run builder messages) ∧ ∀ pieces,
      (run builder messages).outputWith pieces =
        streamed .none (results.filterMap (·.piece) ++ pieces) := by
  have hloop : ∀ (results : List GeneratedTokenResult) (messages : List InferenceMessage)
      (s : ResponsesStreamingState),
      (∀ token ∈ results, token.isHandled = true ∧ token.isDone = false) →
      messages.map (·.token) = results.map some → EventsInv s →
      EventsInv (messages.foldl (step builder) s) ∧ ∀ pieces,
        (messages.foldl (step builder) s).outputWith pieces =
          s.outputWith (results.filterMap (·.piece) ++ pieces) := by
    intro results
    induction results with
    | nil =>
      intro messages s _ htokens hs
      rw [List.map_eq_nil_iff.mp htokens]
      exact ⟨hs, fun _ => rfl⟩
    | cons token results ih =>
      intro messages s hresults htokens hs
      obtain ⟨message, messages, rfl, htoken, htokens⟩ := List.map_eq_cons_iff.mp htokens
      obtain ⟨hhandled, hdone⟩ := hresults token (List.mem_cons_self ..)
      have hinv := (eventsInv_step builder hs ⟨token, htoken, hdone⟩
        ((errorOf_eq_none_iff _ htoken).mpr hhandled)).1
      obtain ⟨hfinal, houtput⟩ :=
        ih messages _ (fun t ht => hresults t (List.mem_cons_of_mem _ ht)) htokens hinv
      refine ⟨hfinal, fun pieces => ?_⟩
      rw [List.foldl_cons, houtput, step_outputWith builder hs htoken hhandled hdone]
      rw [List.filterMap_cons]
      cases token.piece with
      | none => rfl
      | some piece => rfl
  exact hloop results messages .ofDefault hresults htokens eventsInv_ofDefault

end

/-! ## The collected output -/

/-- The results collected so far. -/
def ResponsesNonStreamingState.ofPieces (pieces : List OutputPiece) : ResponsesNonStreamingState :=
  ⟨String.join (pieces.filterMap (·.contentText)), String.join (pieces.filterMap (·.reasoningText)),
    pieces.flatMap (·.calls)⟩

/-- The output of `build_completed` is what was collected. -/
theorem completedOutput_without (pieces : List OutputPiece) :
    (ResponsesNonStreaming.completedOutput (.ofPieces pieces)).map (·.without "id") =
      collected pieces := by
  have hcalls : ∀ (calls : List ParsedToolCall) (output : List Json),
      (calls.foldl (fun output call =>
        output ++ [functionCallItem ("fc_" ++ toString output.length) call.id call.name (argumentsToToolCallString call.arguments) "completed"]) output).map (·.without "id") =
        output.map (·.without "id") ++ calls.map callItem := by
    intro calls
    induction calls with
    | nil => exact fun output => (List.append_nil _).symm
    | cons call calls ih =>
      intro output
      rw [List.foldl_cons, ih, List.map_append, List.append_assoc]
      rfl
  unfold ResponsesNonStreaming.completedOutput
  rw [hcalls]
  unfold collected collectedMessage ResponsesNonStreamingState.ofPieces
  simp only
  split
  · split
    · rfl
    · rfl
  · split
    · rfl
    · rfl

section

variable [TokenTotals] (builder : ResponsesResponseBuilder)

theorem transform_collects {message : InferenceMessage} {token : GeneratedTokenResult}
    (htoken : message.token = some token) (hhandled : token.isHandled = true)
    (hdone : token.isDone = false) (pieces : List OutputPiece) :
    ResponsesNonStreaming.transform builder (.ofPieces pieces) message =
      .ok (.ofPieces (pieces ++ token.piece.toList), []) := by
  have hnone : responsesError message = none := (errorOf_eq_none_iff _ htoken).mpr hhandled
  obtain ⟨generatedBy, requestId, rfl⟩ := token_cases htoken
  unfold ResponsesNonStreaming.transform
  rw [hnone]
  unfold ResponsesNonStreamingState.ofPieces
  rw [List.filterMap_append, List.filterMap_append, List.flatMap_append, String.join_append,
    String.join_append]
  cases token with
  | contentToken text =>
    simp [GeneratedTokenResult.piece, OutputPiece.contentText, OutputPiece.reasoningText,
      OutputPiece.calls]
  | undeterminableToken text =>
    simp [GeneratedTokenResult.piece, OutputPiece.contentText, OutputPiece.reasoningText,
      OutputPiece.calls]
  | reasoningToken text =>
    simp [GeneratedTokenResult.piece, OutputPiece.contentText, OutputPiece.reasoningText,
      OutputPiece.calls]
  | toolCallToken text => simp [GeneratedTokenResult.piece]
  | toolCallParsed calls =>
    simp [GeneratedTokenResult.piece, OutputPiece.contentText, OutputPiece.reasoningText,
      OutputPiece.calls]
  | done summary => cases hdone
  | _ => cases hhandled

/-- **All results add their pieces, and give nothing before the end.** -/
theorem collected_run {results : List GeneratedTokenResult}
    (hresults : ∀ token ∈ results, token.isHandled = true ∧ token.isDone = false)
    {messages : List InferenceMessage} (htokens : messages.map (·.token) = results.map some) :
    ResponsesNonStreaming.run builder messages = (.ofPieces (results.filterMap (·.piece)), []) := by
  have hloop : ∀ (results : List GeneratedTokenResult) (messages : List InferenceMessage)
      (pieces : List OutputPiece),
      (∀ token ∈ results, token.isHandled = true ∧ token.isDone = false) →
      messages.map (·.token) = results.map some →
      messages.foldl (ResponsesNonStreaming.step builder) (.ofPieces pieces, []) =
        (.ofPieces (pieces ++ results.filterMap (·.piece)), []) := by
    intro results
    induction results with
    | nil =>
      intro messages pieces _ htokens
      rw [List.map_eq_nil_iff.mp htokens, List.filterMap_nil, List.append_nil]
      rfl
    | cons token results ih =>
      intro messages pieces hresults htokens
      obtain ⟨message, messages, rfl, htoken, htokens⟩ := List.map_eq_cons_iff.mp htokens
      obtain ⟨hhandled, hdone⟩ := hresults token (List.mem_cons_self ..)
      have hstep : ResponsesNonStreaming.step builder (.ofPieces pieces, []) message =
          (.ofPieces (pieces ++ token.piece.toList), []) := by
        unfold ResponsesNonStreaming.step
        rw [transform_collects builder htoken hhandled hdone]
        rfl
      rw [List.foldl_cons, hstep,
        ih messages _ (fun t ht => hresults t (List.mem_cons_of_mem _ ht)) htokens,
        List.append_assoc, List.filterMap_cons]
      cases token.piece with
      | none => rfl
      | some piece => rfl
  exact hloop results messages [] hresults htokens

end

/-! ## Both -/

/-- The response of a `response.completed`. -/
def ResponsesStreamEvent.completedResponse : ResponsesStreamEvent → Option Json
  | .completed event => some event.response
  | _ => none

/-- The output of a response, without the ids of its items. -/
def outputWithoutIds (response : Json) : Option (List Json) :=
  ((response.field "output").bind (·.asArray)).map (·.map (·.without "id"))

/-- The stream completes with the response that is collected, as far as output and usage go. -/
def ResponsesAgree [TokenTotals] (streaming collecting : ResponsesResponseBuilder)
    (messages : List InferenceMessage) : Prop :=
  ∃ response body,
    (ResponsesStreaming.run streaming messages).events.filterMap (·.completedResponse) =
      [response] ∧
    (ResponsesNonStreaming.run collecting messages).2.filterMap (·.chunkBody) = [body] ∧
    outputWithoutIds response = outputWithoutIds body ∧ response.field "usage" = body.field "usage"

section

variable [TokenTotals]

@[simp] theorem outputWithoutIds_completed (builder : ResponsesResponseBuilder) (output : List Json)
    (usage : TokenUsage) :
    outputWithoutIds (builder.completed output usage) = some (output.map (·.without "id")) := rfl

@[simp] theorem usage_completed (builder : ResponsesResponseBuilder) (output : List Json)
    (usage : TokenUsage) :
    (builder.completed output usage).field "usage" = some (responsesUsageJson usage) := rfl

/-- **The stream completes with what it streamed.** -/
theorem streamed_completed (builder : ResponsesResponseBuilder) {messages : List InferenceMessage}
    {results : List GeneratedTokenResult} {summary : GenerationSummary}
    (h : Answers messages results summary) :
    ∃ output, (ResponsesStreaming.run builder messages).events.filterMap (·.completedResponse) =
        [builder.completed output summary.usage] ∧
      output.map (·.without "id") = streamed .none (results.filterMap (·.piece)) := by
  obtain ⟨before, last, rfl, hbefore, hlast⟩ := h.split
  obtain ⟨hinv, houtput⟩ := streamed_run builder h.handled hbefore
  unfold ResponsesStreaming.run at hinv houtput ⊢
  rw [List.foldl_append, List.foldl_cons, List.foldl_nil]
  generalize before.foldl (ResponsesStreaming.step builder) .ofDefault = s at hinv houtput
  rw [step_token builder hlast ((errorOf_eq_none_iff _ hlast).mpr rfl)]
  have hstarted : (ResponsesStreaming.ensurePreamble builder s).started = true :=
    ensurePreamble_started builder
  obtain ⟨hclosed, -, -⟩ := (hinv.ensurePreamble builder).closeOpenItem hstarted
  refine ⟨(ResponsesStreaming.ensurePreamble builder s).closeOpenItem.finalizedOutput, ?_, ?_⟩
  · have hnone : (ResponsesStreaming.ensurePreamble builder s).closeOpenItem.events.filterMap
        (·.completedResponse) = [] := by
      refine List.filterMap_eq_nil_iff.mpr fun e he => ?_
      have hrunning := hclosed.written.running e he
      cases e with
      | completed event => cases hrunning
      | _ => rfl
    show ((ResponsesStreaming.ensurePreamble builder s).closeOpenItem.events ++ [_]).filterMap _ = _
    rw [List.filterMap_append, hnone]
    rfl
  · have hnone := houtput []
    rw [← ensurePreamble_outputWith builder, List.append_nil] at hnone
    rw [ResponsesStreamingState.closeOpenItem_output, ← hnone]
    unfold ResponsesStreamingState.outputWith
    cases (ResponsesStreaming.ensurePreamble builder s).openPiece with
    | none => rfl
    | reasoning text => rfl
    | content text => rfl

/-- **The body is what was collected.** -/
theorem collected_completed (builder : ResponsesResponseBuilder) {messages : List InferenceMessage}
    {results : List GeneratedTokenResult} {summary : GenerationSummary}
    (h : Answers messages results summary) :
    (ResponsesNonStreaming.run builder messages).2 = [.chunk (builder.completed
      (ResponsesNonStreaming.completedOutput (.ofPieces (results.filterMap (·.piece))))
        summary.usage)] := by
  obtain ⟨before, last, rfl, hbefore, hlast⟩ := h.split
  have hrun := collected_run builder h.handled hbefore
  unfold ResponsesNonStreaming.run at hrun ⊢
  obtain ⟨generatedBy, requestId, rfl⟩ := token_cases hlast
  rw [List.foldl_append, hrun]
  rfl

/-- **The stream completes with the response that is collected if and only if** the results come in
the order in which they are collected, and leave out no item that the other has. -/
theorem responses_agree (streaming collecting : ResponsesResponseBuilder)
    (messages : List InferenceMessage) (results : List GeneratedTokenResult)
    (summary : GenerationSummary) (h : Answers messages results summary) :
    ResponsesAgree streaming collecting messages ↔
      InCollectedOrder (results.filterMap (·.piece)) := by
  obtain ⟨output, hstreamed, houtput⟩ := streamed_completed streaming h
  have hcollected := collected_completed collecting h
  unfold ResponsesAgree
  rw [hstreamed, hcollected, ← streamed_eq_collected, ← houtput, ← completedOutput_without]
  constructor
  · rintro ⟨response, body, hresponse, hbody, hagree, -⟩
    obtain ⟨rfl, -⟩ := List.cons.inj hresponse
    obtain ⟨rfl, -⟩ := List.cons.inj hbody
    exact Option.some.inj hagree
  · intro hagree
    exact ⟨_, _, rfl, rfl, congrArg some hagree, rfl⟩

end

section

attribute [local instance] TokenTotals.counted

theorem responses_agree_answeredWithTool :
    ResponsesAgree plainResponse plainResponse answeredWithTool := by
  refine (responses_agree plainResponse plainResponse answeredWithTool
    [.reasoningToken "I will ", .reasoningToken "look.", .contentToken "One moment.",
      .toolCallToken "{}", .toolCallParsed [⟨"call_1", "look", .validJson "{}"⟩]] ⟨.new⟩ ⟨rfl, by
        decide⟩).mpr ?_
  refine ⟨0, ["I will ", "look."], 0, ["One moment."], [[⟨"call_1", "look", .validJson "{}"⟩]],
    rfl, ?_, ?_, ?_⟩
  · decide
  · decide
  · decide

/-- **Content before and after a tool call is two messages in the stream, and one that is
collected.** -/
theorem not_responses_agree : ¬ ∀ (streaming collecting : ResponsesResponseBuilder)
    (messages : List InferenceMessage) (results : List GeneratedTokenResult)
    (summary : GenerationSummary), Answers messages results summary →
    ResponsesAgree streaming collecting messages := by
  intro h
  obtain ⟨response, body, hresponse, hbody, hagree, -⟩ := h plainResponse plainResponse
    [tokenMessage (.contentToken "a"),
      tokenMessage (.toolCallParsed [⟨"call_1", "look", .validJson "1"⟩]),
      tokenMessage (.contentToken "b"), tokenMessage (.done ⟨.new⟩)]
    [.contentToken "a", .toolCallParsed [⟨"call_1", "look", .validJson "1"⟩],
      .contentToken "b"] ⟨.new⟩
    ⟨rfl, by decide⟩
  obtain ⟨rfl, -⟩ := List.cons.inj hresponse
  obtain ⟨rfl, -⟩ := List.cons.inj hbody
  have hlength := congrArg (Option.map List.length) hagree
  revert hlength
  decide

end

end Paddler
