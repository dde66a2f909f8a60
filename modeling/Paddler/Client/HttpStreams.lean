import Paddler.Balancer.HttpStream
import Paddler.Client.LineStreams
import Paddler.Library.Utf8Decoder

/-!
# The three clients of an HTTP stream

Model of `streamHttpNdjson.ts` and of `stream_ndjson.py`, beside the Rust client of
`stream/ndjson.rs`.  Each reads the lines of the body while it arrives in chunks, which may be cut
anywhere, also inside of a character.

The parsers of the items are given: `JSON.parse` with a schema of `zod`, and `json.loads` with
`parse_inference_client_message`.  So are the lines that `httpx` makes of a body, which are those of
`str.splitlines`.

* `takeLines_append`, `observe_values` — **JavaScript: chunks are not seen in the items.**
* `split_body` — what has arrived of a body: some lines, and a part of the next one.
* `rustReads_exact`, `javaScriptReads_exact` — **both clients have read the messages whose lines
  have arrived**, and when the body has ended, all of them.
* `pythonReads_exact` — **Python stops at the first message that has a line break of Unicode in
  it.**
-/

set_option autoImplicit false

namespace Paddler

open Run LineStream

namespace HttpStreams

/-! ## JavaScript -/

namespace JavaScript

/-- `TextDecoder.decode` with `stream: true`: a mark of the byte order at the beginning is passed
over. -/
structure TextDecoder where
  decoder : Utf8.Decoder
  bomSeen : Bool
  deriving DecidableEq, Repr

namespace TextDecoder

def new : TextDecoder := ⟨Utf8.start, false⟩

def decode (self : TextDecoder) (value : List UInt8) : List Char × TextDecoder :=
  let decoded := Utf8.feed self.decoder value
  if self.bomSeen then (decoded.1, ⟨decoded.2, true⟩)
  else
    match decoded.1 with
    | [] => ([], ⟨decoded.2, false⟩)
    | c :: text => (if c = '\uFEFF' then text else c :: text, ⟨decoded.2, true⟩)

theorem decode_append (self : TextDecoder) (before after : List UInt8) :
    self.decode (before ++ after) =
      ((self.decode before).1 ++ ((self.decode before).2.decode after).1,
        ((self.decode before).2.decode after).2) := by
  obtain ⟨decoder, bomSeen⟩ := self
  cases bomSeen with
  | true => simp only [decode, Utf8.feed_append, if_true]
  | false =>
    cases hbefore : (Utf8.feed decoder before).1 with
    | nil => simp only [decode, Utf8.feed_append, hbefore, Bool.false_eq_true, if_false,
        List.nil_append]
    | cons c text =>
      simp only [decode, Utf8.feed_append, hbefore, Bool.false_eq_true, if_false, if_true,
        List.cons_append]
      split
      · rfl
      · rfl

/-- A text that has no such mark is decoded as it was encoded. -/
theorem decode_utf8 {text : List Char} (h : text.head? ≠ some '\uFEFF') (hne : text ≠ []) :
    new.decode (utf8 text) = (text, ⟨Utf8.start, true⟩) := by
  unfold new decode utf8
  rw [Utf8.feed_encode]
  cases text with
  | nil => exact absurd rfl hne
  | cons c text =>
    have hc : c ≠ '\uFEFF' := fun heq => h (by rw [heq]; rfl)
    simp only [Bool.false_eq_true, if_false, if_neg hc]

end TextDecoder

/-- The white space and the line terminators that `String.prototype.trim` removes. -/
def isSpace (c : Char) : Bool := c = '\uFEFF' || (isWhitespace c && c != '\u0085')

/-- `String.prototype.trim`. -/
def trim (line : List Char) : List Char := (line.dropWhile isSpace).rdropWhile isSpace

/-- What a `read` of the body gives, and where the signal is aborted.  It is looked at only at the
head of the loop and in `.catch`: an abort while a value is handled is one before the value. -/
inductive ReaderEvent (T : Type) where
  | value (bytes : List UInt8)
  | done
  | failed (error : T)
  | abortedAtHead
  | abortedInRead

/-- What becomes of the observable. -/
inductive Outcome (T E : Type) where
  | pending
  | completed
  | errored (error : T ⊕ E)
  deriving DecidableEq, Repr

variable {Item T E : Type} (parse : List Char → Except E Item)

/-- The inner loop: the items of the complete lines, and what is left in the buffer unless a line is
no item. -/
def takeLines (buffer : List Char) : List Item × Except E (List Char) :=
  match _ : buffer.idxOf? '\n' with
  | none => ([], .ok buffer)
  | some newlineIndex =>
    let line := trim (buffer.take newlineIndex)
    let taken := takeLines (buffer.drop (newlineIndex + 1))
    if line.isEmpty then taken
    else
      match parse line with
      | .ok item => (item :: taken.1, taken.2)
      | .error error => ([], .error error)
termination_by buffer.length
decreasing_by
  rename_i hindex
  have hlt := (List.idxOf?_eq_some_iff.mp hindex).1
  rw [List.length_drop]
  omega

/-- What is left in the buffer after the loop. -/
def takeTrailing (buffer : List Char) : List Item × Option E :=
  let trailing := trim buffer
  if trailing.isEmpty then ([], none)
  else
    match parse trailing with
    | .ok item => ([item], none)
    | .error error => ([], some error)

/-- The decoder and the buffer of a stream, and `signal.aborted`. -/
structure NdjsonReader where
  decoder : TextDecoder
  buffer : List Char
  aborted : Bool
  deriving DecidableEq, Repr

def NdjsonReader.new : NdjsonReader := ⟨.new, [], false⟩

/-- `.catch`. -/
def caught (aborted : Bool) (error : T ⊕ E) : Outcome T E :=
  if aborted then .completed else .errored error

/-- What follows the loop. -/
def NdjsonReader.finish (self : NdjsonReader) : List Item × Outcome T E :=
  let trailing := takeTrailing parse self.buffer
  (trailing.1, trailing.2.elim .completed fun error => caught self.aborted (.inr error))

/-- What a subscriber of `streamHttpNdjson` sees of these events: the items, and what becomes of the
observable. -/
def observe : NdjsonReader → List (ReaderEvent T) → List Item × Outcome T E
  | _, [] => ([], .pending)
  | reader, .value bytes :: events =>
    let decoded := reader.decoder.decode bytes
    let taken := takeLines parse (reader.buffer ++ decoded.1)
    match taken.2 with
    | .ok buffer =>
      let reader := { reader with decoder := decoded.2, buffer := buffer }
      let later := if reader.aborted then reader.finish parse else observe reader events
      (taken.1 ++ later.1, later.2)
    | .error error => (taken.1, caught reader.aborted (.inr error))
  | reader, .done :: _ => reader.finish parse
  | reader, .failed error :: _ => ([], caught reader.aborted (.inl error))
  | reader, .abortedAtHead :: _ => { reader with aborted := true }.finish parse
  | reader, .abortedInRead :: events => observe { reader with aborted := true } events

/-! ### Chunks are not seen -/

theorem takeLines_of_not_mem {buffer : List Char} (h : '\n' ∉ buffer) :
    takeLines parse buffer = ([], .ok buffer) := by
  rw [takeLines]
  split
  · rfl
  · rename_i newlineIndex hindex
    obtain ⟨hlt, hnewline, -⟩ := List.idxOf?_eq_some_iff.mp hindex
    exact absurd (hnewline ▸ List.getElem_mem hlt) h

theorem takeLines_cons {line : List Char} (h : '\n' ∉ line) (rest : List Char) :
    takeLines parse (line ++ '\n' :: rest) =
      if (trim line).isEmpty then takeLines parse rest
      else
        match parse (trim line) with
        | .ok item => (item :: (takeLines parse rest).1, (takeLines parse rest).2)
        | .error error => ([], .error error) := by
  have hindex : (line ++ '\n' :: rest).idxOf? '\n' = some line.length := by
    refine List.idxOf?_eq_some_iff.mpr ⟨by simp, by simp, fun j hj heq => h ?_⟩
    rw [List.getElem_append_left hj] at heq
    exact heq ▸ List.getElem_mem hj
  rw [takeLines]
  split
  · rename_i hnone
    rw [hindex] at hnone
    cases hnone
  · rename_i newlineIndex hsome
    rw [hindex] at hsome
    cases hsome
    rw [List.take_left, List.drop_append, List.drop_of_length_le (Nat.le_succ _), List.nil_append,
      Nat.add_sub_cancel_left, List.drop_one, List.tail_cons]

theorem takeLines_append (buffer more : List Char) :
    takeLines parse (buffer ++ more) =
      match (takeLines parse buffer).2 with
      | .ok rest =>
        ((takeLines parse buffer).1 ++ (takeLines parse (rest ++ more)).1,
          (takeLines parse (rest ++ more)).2)
      | .error error => ((takeLines parse buffer).1, .error error) := by
  induction buffer using pieces_induction '\n' with
  | hrest buffer hmem =>
    rw [takeLines_of_not_mem parse hmem]
    rfl
  | hpiece line rest hnot ih =>
    rw [List.append_assoc, List.cons_append, takeLines_cons parse hnot,
      takeLines_cons parse hnot, ih]
    split
    · rfl
    · cases parse (trim line) with
      | error error => rfl
      | ok item =>
        simp only
        cases (takeLines parse rest).2 with
        | error error => rfl
        | ok rest => rfl

theorem takeLines_rest {buffer rest : List Char} (h : (takeLines parse buffer).2 = .ok rest) :
    '\n' ∉ rest := by
  induction buffer using pieces_induction '\n' with
  | hrest buffer hmem =>
    rw [takeLines_of_not_mem parse hmem] at h
    cases h
    exact hmem
  | hpiece line more hnot ih =>
    rw [takeLines_cons parse hnot] at h
    split at h
    · exact ih h
    · split at h
      · exact ih h
      · cases h

theorem takeTrailing_nil : takeTrailing parse [] = ([], none) := rfl

theorem decode_nil (self : TextDecoder) : self.decode [] = ([], self) := by
  obtain ⟨decoder, bomSeen⟩ := self
  cases bomSeen <;> rfl

variable {parse} {events events' : List (ReaderEvent T)} {reader : NdjsonReader}

theorem observe_congr (bytes : List UInt8)
    (h : ∀ later : NdjsonReader, '\n' ∉ later.buffer → later.aborted = reader.aborted →
      observe (T := T) parse later events = observe parse later events') :
    observe parse reader (.value bytes :: events) =
      observe parse reader (.value bytes :: events') := by
  unfold observe
  simp only
  split
  · rename_i buffer htaken
    rw [h ⟨_, buffer, _⟩ (takeLines_rest parse htaken) rfl]
  · rfl

/-- Two chunks are as good as one, while the signal is not aborted. -/
theorem observe_append (haborted : reader.aborted = false) (before after : List UInt8) :
    observe parse reader (.value before :: .value after :: events) =
      observe (T := T) parse reader (.value (before ++ after) :: events) := by
  simp only [observe, TextDecoder.decode_append, ← List.append_assoc,
    takeLines_append parse (reader.buffer ++ _), haborted, Bool.false_eq_true, if_false]
  cases (takeLines parse (reader.buffer ++ (reader.decoder.decode before).1)).2 with
  | error error => rfl
  | ok rest =>
    simp only
    cases (takeLines parse (rest ++ ((reader.decoder.decode before).2.decode after).1)).2 with
    | error error => rfl
    | ok rest => simp only [List.append_assoc]

/-- **Chunks are not seen in the items.** -/
theorem observe_values (hbuffer : '\n' ∉ reader.buffer) (haborted : reader.aborted = false)
    (chunks : List (List UInt8)) :
    observe parse reader (chunks.map .value ++ events) =
      observe (T := T) parse reader (.value chunks.flatten :: events) := by
  induction chunks generalizing reader with
  | nil =>
    obtain ⟨decoder, buffer, aborted⟩ := reader
    obtain rfl : aborted = false := haborted
    simp only [List.map_nil, List.nil_append, List.flatten_nil, observe, decode_nil,
      List.append_nil, takeLines_of_not_mem parse hbuffer, Bool.false_eq_true, if_false]
  | cons chunk chunks ih =>
    rw [List.map_cons, List.cons_append, List.flatten_cons, ← observe_append haborted]
    exact observe_congr chunk fun later hlater hsame => ih hlater (hsame.trans haborted)

end JavaScript

/-! ## What has arrived of a body -/

section Body

variable {ρ : Type} {fields : OutgoingMessage ρ → List (String × Json)}
    {message : OutgoingMessage ρ}

theorem serialized_eq (fields : OutgoingMessage ρ → List (String × Json))
    (message : OutgoingMessage ρ) :
    serialized fields message = '\x7b' :: (Json.renderFields (fields message) ++ ['\x7d']) := rfl

theorem isPrintable_of_mem_serialized {c : Char} (h : c ∈ serialized fields message) :
    Json.isPrintable c = true :=
  List.all_eq_true.mp (Json.printable_renderChars (.object (fields message))) c h

theorem newline_not_mem_serialized : '\n' ∉ serialized fields message := fun h =>
  Bool.false_ne_true (isPrintable_of_mem_serialized h)

theorem newline_not_mem_utf8 {text : List Char} (h : '\n' ∉ text) : newline ∉ utf8 text :=
  fun hmem => by
  obtain ⟨c, hc, hbyte⟩ := List.mem_flatMap.mp hmem
  exact h (Utf8.mem_encodeChar (by decide) hbyte ▸ hc)

theorem utf8_append (before after : List Char) :
    utf8 (before ++ after) = utf8 before ++ utf8 after :=
  List.flatMap_append

theorem utf8_line (text : List Char) : utf8 (text ++ ['\n']) = utf8 text ++ [newline] :=
  utf8_append text ['\n']

/-- A part of an object's text is nothing to the trimming functions: it begins with a brace. -/
theorem trimmed_serialized {p : Char → Bool} (hopen : p '\x7b' = false)
    (hclose : p '\x7d' = false) :
    ((serialized fields message).dropWhile p).rdropWhile p = serialized fields message := by
  rw [serialized_eq, List.dropWhile_cons_of_neg (by simp [hopen]), ← List.cons_append]
  exact List.rdropWhile_concat_neg _ _ '\x7d' (by simp [hclose])

/-- **What has arrived of a body**: some whole lines, and a part of the next message. -/
theorem split_body (messages : List (OutgoingMessage ρ)) {arrived : List UInt8}
    (h : arrived <+: linesOf fields messages) :
    ∃ part, arrived = linesOf fields (messages.take (arrived.count newline)) ++ part ∧
      (part = [] ∨ ∃ message, part <+: utf8 (serialized fields message)) := by
  induction messages generalizing arrived with
  | nil =>
    obtain rfl := List.prefix_nil.mp h
    exact ⟨[], rfl, .inl rfl⟩
  | cons message messages ih =>
    have hline : newline ∉ utf8 (serialized fields message) :=
      newline_not_mem_utf8 newline_not_mem_serialized
    have hlines : linesOf fields (message :: messages) =
        utf8 (serialized fields message) ++ [newline] ++ linesOf fields messages := by
      rw [← utf8_line]
      rfl
    rw [hlines] at h
    rcases Json.prefix_append_cases h with hfirst | ⟨later, rfl, hlater⟩
    · by_cases hwhole : arrived = utf8 (serialized fields message) ++ [newline]
      · have hcount : arrived.count newline = 1 := by
          rw [hwhole, List.count_append, List.count_eq_zero_of_not_mem hline]
          rfl
        refine ⟨[], ?_, .inl rfl⟩
        rw [hcount, List.append_nil, hwhole, ← utf8_line]
        simp only [linesOf, List.take_succ_cons, List.take_zero, List.flatMap_cons,
          List.flatMap_nil, List.append_nil]
      · have hpart := Json.prefix_of_cut hfirst hwhole
        have hcount : arrived.count newline = 0 :=
          List.count_eq_zero_of_not_mem fun hmem => hline (hpart.subset hmem)
        refine ⟨arrived, ?_, .inr ⟨message, hpart⟩⟩
        rw [hcount]
        rfl
    · obtain ⟨part, heq, hpart⟩ := ih hlater
      have hcount : (utf8 (serialized fields message) ++ [newline] ++ later).count newline =
          later.count newline + 1 := by
        rw [List.count_append, List.count_append, List.count_eq_zero_of_not_mem hline, Nat.zero_add,
          Nat.add_comm]
        rfl
      refine ⟨part, ?_, hpart⟩
      rw [hcount, List.take_succ_cons]
      conv_lhs => rw [heq]
      rw [← utf8_line]
      exact (List.append_assoc ..).symm

theorem newline_not_mem_part {part : List UInt8}
    (h : part = [] ∨ ∃ message, part <+: utf8 (serialized fields message)) : newline ∉ part := by
  rcases h with rfl | ⟨message, hpart⟩
  · exact List.not_mem_nil
  · exact fun hmem => newline_not_mem_utf8 newline_not_mem_serialized (hpart.subset hmem)

theorem lines_linesOf (messages : List (OutgoingMessage ρ)) {part : List UInt8}
    (h : newline ∉ part) :
    complete newline (linesOf fields messages ++ part) =
        messages.map (fun message => utf8 (serialized fields message)) ∧
      remainder newline (linesOf fields messages ++ part) = part := by
  induction messages with
  | nil => exact ⟨complete_of_not_mem h, remainder_of_not_mem h⟩
  | cons message messages ih =>
    have hline : newline ∉ utf8 (serialized fields message) :=
      newline_not_mem_utf8 newline_not_mem_serialized
    have hlines : linesOf fields (message :: messages) ++ part =
        utf8 (serialized fields message) ++ newline :: (linesOf fields messages ++ part) := by
      show utf8 (serialized fields message ++ ['\n']) ++ linesOf fields messages ++ part = _
      rw [utf8_line, List.append_assoc, List.append_assoc]
      rfl
    rw [hlines, complete_cons hline, remainder_cons hline, ih.1, ih.2]
    exact ⟨rfl, rfl⟩

theorem count_linesOf (messages : List (OutgoingMessage ρ)) :
    (linesOf fields messages).count newline = messages.length := by
  induction messages with
  | nil => rfl
  | cons message messages ih =>
    have hline : newline ∉ utf8 (serialized fields message) :=
      newline_not_mem_utf8 newline_not_mem_serialized
    show (utf8 (serialized fields message ++ ['\n']) ++ linesOf fields messages).count newline = _
    rw [utf8_line, List.count_append, List.count_append, List.count_eq_zero_of_not_mem hline, ih,
      Nat.zero_add, Nat.add_comm]
    rfl

end Body

/-! ## The Rust client -/

section Rust

variable {ρ T P Item : Type} {fields : OutgoingMessage ρ → List (String × Json)}

theorem fromUtf8_utf8 (text : List Char) : fromUtf8 (utf8 text) = some (String.ofList text) := by
  have hbytes : (⟨(utf8 text).toArray⟩ : ByteArray) = text.utf8Encode := by
    rw [List.utf8Encode]
    exact ByteArray.ext List.data_toByteArray.symm
  unfold fromUtf8 String.fromUTF8?
  rw [hbytes, dif_pos ByteArray.isValidUTF8_utf8Encode]
  exact congrArg some (String.toByteArray_inj.mp rfl)

/-- What the Rust client makes of a message. -/
def rustItem (fields : OutgoingMessage ρ → List (String × Json)) (fromStr : String → Except P Item)
    (message : OutgoingMessage ρ) : Except (LineStreamError T P) Item :=
  (fromStr (.ofList (serialized fields message))).mapError
    (.ndjsonLineParseFailed (.ofList (serialized fields message)))

theorem parseLine_serialized (fromStr : String → Except P Item) (message : OutgoingMessage ρ) :
    Ndjson.parseLine (T := T) fromStr (decodeLine (utf8 (serialized fields message))) =
      some (rustItem fields fromStr message) := by
  have htrim : Paddler.trim (String.ofList (serialized fields message)) =
      .ofList (serialized fields message) := by
    unfold Paddler.trim
    rw [String.toList_ofList, trimmed_serialized rfl rfl]
  unfold decodeLine
  rw [fromUtf8_utf8]
  simp only [Ndjson.parseLine, htrim]
  rw [if_neg]
  · rfl
  · rw [String.isEmpty_iff, String.ofList_eq_empty_iff]
    exact List.cons_ne_nil _ _

theorem filterMap_parseLine (fromStr : String → Except P Item)
    (messages : List (OutgoingMessage ρ)) :
    (messages.map fun message => utf8 (serialized fields message)).filterMap
        (fun line => Ndjson.parseLine (T := T) fromStr (decodeLine line)) =
      messages.map (rustItem fields fromStr) := by
  rw [List.filterMap_map, ← List.filterMap_eq_map]
  exact List.filterMap_congr fun message _ => parseLine_serialized fromStr message

variable [StreamableResult ρ] {s : HttpStream ρ} {requestId : String} {inferenceItemTimeout : Nat}

/-- What has arrived of the body of a request: the lines of the first messages that it sent, and a
part of the next. -/
theorem arrived_eq (h : Reaches (HttpStream.step fields) (fun _ _ => True)
      (.new requestId inferenceItemTimeout) s)
    {arrived : List UInt8} (harrived : arrived <+: s.body) :
    ∃ part, arrived = linesOf fields (s.request.delivered.take (arrived.count newline)) ++ part ∧
      (part = [] ∨ ∃ message, part <+: utf8 (serialized fields message)) ∧
      (arrived = s.body → part = []) := by
  obtain ⟨n, hn, hbody, -⟩ := (httpStreamInv_reaches h).body
  have hdelivered : s.body <+: linesOf fields s.request.delivered := by
    rw [hbody]
    conv_rhs => rw [← List.take_append_drop n s.request.delivered, linesOf_append]
    exact List.prefix_append _ _
  obtain ⟨part, heq, hpart⟩ := split_body s.request.delivered (harrived.trans hdelivered)
  refine ⟨part, heq, hpart, fun hwhole => ?_⟩
  have hlength : (s.request.delivered.take n).length = n := List.length_take_of_le hn
  rw [hwhole, hbody, count_linesOf, hlength] at heq
  exact List.self_eq_append_right.mp heq

/-- **What the Rust client reads.**  Whatever has arrived of a body, and however it was cut into
chunks: the items are those of the messages whose lines have arrived, before the error of a
connection that breaks; and those of all the messages that were sent, when the body has ended. -/
theorem rustReads_exact
    (h : Reaches (HttpStream.step fields) (fun _ _ => True) (.new requestId inferenceItemTimeout) s)
    {chunks : List (List UInt8)} (harrived : chunks.flatten <+: s.body)
    (fromStr : String → Except P Item) :
    (∀ transportError : T,
      Unfolds (Ndjson.makeStream fromStr) (.new .never (chunks.map .ok ++ [.error transportError]))
        ((s.request.delivered.take (chunks.flatten.count newline)).map (rustItem fields fromStr) ++
          [.error (.http transportError)])) ∧
    (s.isEnded = true → chunks.flatten = s.body →
      Unfolds (Ndjson.makeStream (T := T) fromStr) (.new .never (chunks.map .ok))
        (s.request.delivered.map (rustItem fields fromStr))) := by
  obtain ⟨part, heq, hpart, hwhole⟩ := arrived_eq h harrived
  obtain ⟨hcomplete, hremainder⟩ :=
    lines_linesOf (s.request.delivered.take (chunks.flatten.count newline))
    (newline_not_mem_part hpart)
  rw [← heq] at hcomplete hremainder
  have hreads : ∀ {source : List (Except T (List UInt8))} {items : List (Except (LineStreamError T P) Item)},
      Unfolds (Ndjson.makeStream fromStr) (.reading part source) items →
        Unfolds (Ndjson.makeStream fromStr) (.new .never (chunks.map .ok ++ source))
          ((s.request.delivered.take (chunks.flatten.count newline)).map
            (rustItem fields fromStr) ++ items) := by
    intro source items hsource
    rw [← filterMap_parseLine, ← hcomplete]
    exact unfolds_chunks chunks (hremainder.symm ▸ hsource)
  refine ⟨fun transportError => hreads (unfolds_failed transportError (newline_not_mem_part hpart)),
    fun hended hbody => ?_⟩
  have hall : s.request.delivered.take (chunks.flatten.count newline) = s.request.delivered := by
    rw [hbody, (httpStreamInv_reaches h).complete hended, count_linesOf, List.take_length]
  have hlast := @hreads [] [] (.ended (hwhole hbody ▸ poll_end List.not_mem_nil))
  rwa [List.append_nil, List.append_nil, hall] at hlast

/-- Where the body was cut: within the separator of lines. -/
def brokenOffChunks : List (List UInt8) := [brokenOff.body.take 103, brokenOff.body.drop 103]

theorem flatten_brokenOffChunks : brokenOffChunks.flatten = brokenOff.body := by
  simp only [brokenOffChunks, List.flatten_cons, List.flatten_nil, List.append_nil,
    List.take_append_drop]

/-- A document of JSON, or no item. -/
def readJson (text : String) : Except Unit Json := (Json.read text).elim (.error ()) .ok

theorem rustReads_exact_brokenOff :
    Unfolds (Ndjson.makeStream (T := Unit) readJson) (.new .never (brokenOffChunks.map .ok))
      (brokenOff.request.delivered.map (rustItem tokenFields readJson)) :=
  (rustReads_exact brokenOff_reaches (flatten_brokenOffChunks ▸ List.prefix_refl _) readJson).2
    brokenOff_ended
    flatten_brokenOffChunks

end Rust

/-! ## JavaScript and Python -/

/-- The items of these lines, up to one that is no item. -/
def readAll {E Item : Type} (parse : List Char → Except E Item) :
    List (List Char) → List Item × Option E
  | [] => ([], none)
  | line :: lines =>
    match parse line with
    | .ok item => (item :: (readAll parse lines).1, (readAll parse lines).2)
    | .error error => ([], some error)

namespace JavaScript

variable {ρ T E Item : Type} {fields : OutgoingMessage ρ → List (String × Json)}

theorem takeLines_serialized (parse : List Char → Except E Item)
    (messages : List (OutgoingMessage ρ)) {part : List Char} (h : '\n' ∉ part) :
    takeLines parse ((messages.flatMap fun message => serialized fields message ++ ['\n']) ++
      part) = match (readAll parse (messages.map (serialized fields))).2 with
      | none => ((readAll parse (messages.map (serialized fields))).1, .ok part)
      | some error => ((readAll parse (messages.map (serialized fields))).1, .error error) := by
  induction messages with
  | nil => exact takeLines_of_not_mem parse h
  | cons message messages ih =>
    have htrim : trim (serialized fields message) = serialized fields message :=
      trimmed_serialized rfl rfl
    have hline : ((message :: messages).flatMap fun message => serialized fields message ++
        ['\n']) ++ part = serialized fields message ++
          '\n' :: ((messages.flatMap fun message => serialized fields message ++ ['\n']) ++
            part) := by
      simp only [List.flatMap_cons, List.append_assoc, List.cons_append, List.nil_append]
    rw [hline, takeLines_cons parse newline_not_mem_serialized, htrim,
      if_neg (by rw [serialized_eq]; simp), ih, List.map_cons, readAll]
    cases parse (serialized fields message) with
    | error error => rfl
    | ok item =>
      simp only
      cases (readAll parse (messages.map (serialized fields))).2 with
      | none => rfl
      | some error => rfl

theorem newline_not_mem_decode {decoder : TextDecoder} (hstart : decoder.decoder = Utf8.start)
    {part : List UInt8} (h : part = [] ∨ ∃ message, part <+: utf8 (serialized fields message)) :
    '\n' ∉ (decoder.decode part).1 := by
  have hfeed : '\n' ∉ (Utf8.feed Utf8.start part).1 := by
    rcases h with rfl | ⟨message, rest, hrest⟩
    · exact List.not_mem_nil
    · have hwhole : Utf8.feed Utf8.start (part ++ rest) =
          (serialized fields message, Utf8.start) := by
        rw [hrest]
        exact Utf8.feed_encode _
      rw [Utf8.feed_append] at hwhole
      intro hmem
      have hin := List.mem_append_left (Utf8.feed (Utf8.feed Utf8.start part).2 rest).1 hmem
      rw [(Prod.mk.inj hwhole).1] at hin
      exact newline_not_mem_serialized hin
  obtain ⟨decoder, bomSeen⟩ := decoder
  obtain rfl : decoder = Utf8.start := hstart
  unfold TextDecoder.decode
  cases bomSeen with
  | true => exact hfeed
  | false =>
    simp only [Bool.false_eq_true, if_false]
    cases hdecoded : (Utf8.feed Utf8.start part).1 with
    | nil => exact List.not_mem_nil
    | cons c text =>
      rw [hdecoded] at hfeed
      simp only
      split
      · exact fun hmem => hfeed (List.mem_cons_of_mem _ hmem)
      · exact hfeed

theorem decode_linesOf (messages : List (OutgoingMessage ρ)) :
    (TextDecoder.new.decode (linesOf fields messages)).1 =
        messages.flatMap (fun message => serialized fields message ++ ['\n']) ∧
      (TextDecoder.new.decode (linesOf fields messages)).2.decoder = Utf8.start := by
  have hlines : linesOf fields messages =
      utf8 (messages.flatMap fun message => serialized fields message ++ ['\n']) := by
    simp only [linesOf, utf8, List.flatMap_assoc]
  rw [hlines]
  cases messages with
  | nil => exact ⟨rfl, rfl⟩
  | cons message messages =>
    rw [TextDecoder.decode_utf8]
    · exact ⟨rfl, rfl⟩
    · simp [serialized_eq]
    · simp [serialized_eq]

/-- **Where a body is cut is not seen.**  Whatever bytes arrive, also such as are no UTF-8, and
whatever comes after them. -/
theorem javaScript_chunking (parse : List Char → Except E Item) {chunks chunks' : List (List UInt8)}
    (hflatten : chunks.flatten = chunks'.flatten) (events : List (ReaderEvent T)) :
    observe parse .new (chunks.map .value ++ events) =
      observe parse .new (chunks'.map .value ++ events) := by
  rw [observe_values List.not_mem_nil rfl, observe_values List.not_mem_nil rfl, hflatten]

/-- A character, cut in two ways. -/
theorem javaScript_chunking_separator :
    observe (T := Unit) (fun text => readJson (.ofList text)) .new
        ([[0xE2], [0x80, 0xA8, 0x0A]].map .value ++ [.done]) =
      observe (fun text => readJson (.ofList text)) .new
        ([[0xE2, 0x80], [0xA8, 0x0A]].map .value ++ [.done]) :=
  javaScript_chunking _ rfl _

/-- What the client makes of the lines of these messages and of a part of the next one. -/
theorem observe_linesOf (fields : OutgoingMessage ρ → List (String × Json))
    (parse : List Char → Except E Item) (messages : List (OutgoingMessage ρ)) {part : List UInt8}
    (hpart : part = [] ∨ ∃ message, part <+: utf8 (serialized fields message))
    (events : List (ReaderEvent T)) :
    ∃ reader : NdjsonReader, reader.aborted = false ∧ (part = [] → reader.buffer = []) ∧
      observe parse .new (.value (linesOf fields messages ++ part) :: events) =
        match (readAll parse (messages.map (serialized fields))).2 with
        | none =>
          ((readAll parse (messages.map (serialized fields))).1 ++ (observe parse reader events).1,
            (observe parse reader events).2)
        | some error => ((readAll parse (messages.map (serialized fields))).1,
            .errored (.inr error)) := by
  obtain ⟨hdecoded, hstart⟩ := @decode_linesOf ρ fields messages
  have htaken := @takeLines_serialized ρ E Item fields parse messages _
    (newline_not_mem_decode hstart hpart)
  let decoded := (TextDecoder.new.decode (linesOf fields messages)).2.decode part
  refine ⟨⟨decoded.2, decoded.1, false⟩, rfl, fun hnone => ?_, ?_⟩
  · simp only [decoded, hnone, decode_nil]
  · rw [observe]
    simp only [TextDecoder.decode_append, hdecoded, NdjsonReader.new, List.nil_append, htaken]
    cases (readAll parse (messages.map (serialized fields))).2 with
    | none => rfl
    | some error => rfl

/-- What a subscriber sees of these messages, when the schema refuses none of them. -/
def seen (fields : OutgoingMessage ρ → List (String × Json)) (parse : List Char → Except E Item)
    (messages : List (OutgoingMessage ρ)) (otherwise : Outcome T E) : List Item × Outcome T E :=
  ((readAll parse (messages.map (serialized fields))).1,
    (readAll parse (messages.map (serialized fields))).2.elim otherwise fun error =>
      .errored (.inr error))

variable [StreamableResult ρ] {s : HttpStream ρ} {requestId : String} {inferenceItemTimeout : Nat}

/-- **What the JavaScript client reads.**  Whatever has arrived of a body, and however it was cut
into chunks: the items are those of the messages whose lines have arrived, up to one that the schema
refuses; and those of all the messages that were sent, when the body has ended. -/
theorem javaScriptReads_exact
    (h : Reaches (HttpStream.step fields) (fun _ _ => True) (.new requestId inferenceItemTimeout) s)
    {chunks : List (List UInt8)} (harrived : chunks.flatten <+: s.body)
    (parse : List Char → Except E Item) :
    observe (T := T) parse .new (chunks.map .value) =
      seen fields parse (s.request.delivered.take (chunks.flatten.count newline)) .pending ∧
    (s.isEnded = true → chunks.flatten = s.body →
      observe (T := T) parse .new (chunks.map .value ++ [.done]) =
        seen fields parse s.request.delivered .completed) := by
  obtain ⟨part, heq, hpart, hwhole⟩ := arrived_eq h harrived
  constructor
  · obtain ⟨reader, -, -, hobserve⟩ := @observe_linesOf ρ T E Item fields parse
      (s.request.delivered.take (chunks.flatten.count newline)) part hpart []
    have hvalues := @observe_values Item T E parse [] .new List.not_mem_nil rfl chunks
    rw [List.append_nil] at hvalues
    rw [hvalues, heq, hobserve, ← heq]
    unfold seen
    cases (readAll parse ((s.request.delivered.take (chunks.flatten.count newline)).map
      (serialized fields))).2 with
    | none => simp only [observe, List.append_nil, Option.elim_none]
    | some error => rfl
  · intro hended hbody
    obtain ⟨reader, -, hbuffer, hobserve⟩ :=
      @observe_linesOf ρ T E Item fields parse s.request.delivered [] (.inl rfl)
      [.done]
    rw [observe_values List.not_mem_nil rfl, hbody, (httpStreamInv_reaches h).complete hended,
      ← List.append_nil (linesOf _ _), hobserve]
    unfold seen
    cases (readAll parse (s.request.delivered.map (serialized fields))).2 with
    | none =>
      simp only [observe, NdjsonReader.finish, hbuffer rfl, takeTrailing_nil, List.append_nil,
        Option.elim_none]
    | some error => rfl

theorem javaScriptReads_exact_brokenOff :
    observe (T := Unit) (fun text => readJson (.ofList text)) .new
      (brokenOffChunks.map .value ++ [.done]) = seen tokenFields
        (fun text => readJson (.ofList text)) brokenOff.request.delivered .completed :=
  (javaScriptReads_exact brokenOff_reaches (flatten_brokenOffChunks ▸ List.prefix_refl _) _).2
    brokenOff_ended
    flatten_brokenOffChunks

end JavaScript

/-! ## Python -/

namespace Python

/-- The boundaries of `str.splitlines`. -/
def isLineBreak (c : Char) : Bool :=
  (0x0A ≤ c.toNat && c.toNat ≤ 0x0D) || (0x1C ≤ c.toNat && c.toNat ≤ 0x1E) || c.toNat == 0x85 ||
    c.toNat == 0x2028 || c.toNat == 0x2029

/-- `str.splitlines`, with what has been read of the line. -/
def splitLines (line : List Char) : List Char → List (List Char)
  | [] => if line.isEmpty then [] else [line]
  | '\r' :: '\n' :: text => line :: splitLines [] text
  | c :: text => if isLineBreak c then line :: splitLines [] text else splitLines (line ++ [c]) text

/-- `str.isspace`. -/
def isSpace (c : Char) : Bool := isWhitespace c || (0x1C ≤ c.toNat && c.toNat ≤ 0x1F)

/-- `str.strip`. -/
def strip (line : List Char) : List Char := (line.dropWhile isSpace).rdropWhile isSpace

variable {Item E : Type} (parse : List Char → Except E Item)

/-- `stream_ndjson_inference_messages`: the messages, and the exception if there is one. -/
def streamNdjsonInferenceMessages : List (List Char) → List Item × Option E
  | [] => ([], none)
  | rawLine :: lines =>
    let strippedLine := strip rawLine
    if strippedLine.isEmpty then streamNdjsonInferenceMessages lines
    else
      match parse strippedLine with
      | .ok message =>
        (message :: (streamNdjsonInferenceMessages lines).1,
          (streamNdjsonInferenceMessages lines).2)
      | .error error => ([], some error)

/-- A document that breaks off is refused. -/
def RefusesCut : Prop :=
  ∀ (fields : List (String × Json)) (cut : List Char), cut <+: Json.renderChars (.object fields) →
    cut ≠ Json.renderChars (.object fields) → ∃ error, parse cut = .error error

/-! ### Lines -/

theorem splitLines_cons {c : Char} (h : isLineBreak c = false) (line text : List Char) :
    splitLines line (c :: text) = splitLines (line ++ [c]) text := by
  rw [splitLines, if_neg (Bool.eq_false_iff.mp h)]
  rintro rest rfl
  cases h

theorem splitLines_break {c : Char} (h : isLineBreak c = true) (hc : c ≠ '\r')
    (line text : List Char) :
    splitLines line (c :: text) = line :: splitLines [] text := by
  rw [splitLines, if_pos h]
  rintro rest rfl
  exact absurd rfl hc

theorem splitLines_append {before : List Char} (h : before.all (!isLineBreak ·))
    (line text : List Char) :
    splitLines line (before ++ text) = splitLines (line ++ before) text := by
  induction before generalizing line with
  | nil => rw [List.append_nil, List.nil_append]
  | cons c before ih =>
    rw [List.all_cons, Bool.and_eq_true, Bool.not_eq_true'] at h
    rw [List.cons_append, splitLines_cons h.1, ih h.2, List.append_assoc, List.singleton_append]

/-! ### What is read of a message -/

section Reads

variable {parse} {ρ : Type} {fields : OutgoingMessage ρ → List (String × Json)}
    {message : OutgoingMessage ρ}

/-- No boundary is written in the text of the message.  `serde_json` escapes those of ASCII, and no
others. -/
def isOneLine (fields : OutgoingMessage ρ → List (String × Json)) (message : OutgoingMessage ρ) :
    Bool :=
  (serialized fields message).all (!isLineBreak ·)

theorem stream_oneLine (h : isOneLine fields message = true) (text : List Char) :
    streamNdjsonInferenceMessages parse
      (splitLines [] (serialized fields message ++ '\n' :: text)) =
        match parse (serialized fields message) with
      | .ok item =>
        (item :: (streamNdjsonInferenceMessages parse (splitLines [] text)).1,
          (streamNdjsonInferenceMessages parse (splitLines [] text)).2)
      | .error error => ([], some error) := by
  have hstrip : strip (serialized fields message) = serialized fields message :=
    trimmed_serialized rfl rfl
  rw [splitLines_append h, List.nil_append, splitLines_break rfl (by decide),
    streamNdjsonInferenceMessages, hstrip, if_neg (by rw [serialized_eq]; simp)]

/-- What is left of the beginning of a message when it is stripped. -/
theorem strip_cons (more : List Char) : strip ('\x7b' :: more) ≠ [] ∧
    strip ('\x7b' :: more) <+: '\x7b' :: more := by
  have hopen : strip ('\x7b' :: more) = ('\x7b' :: more).rdropWhile isSpace := by
    rw [strip, List.dropWhile_cons_of_neg (by decide)]
  rw [hopen]
  refine ⟨fun hnil => ?_, List.rdropWhile_prefix _ _⟩
  have hbrace := List.rdropWhile_eq_nil_iff.mp hnil '\x7b' (List.mem_cons_self ..)
  cases hbrace

theorem stream_broken (hparse : RefusesCut parse) (h : isOneLine fields message = false)
    (text : List Char) :
    ∃ error, streamNdjsonInferenceMessages parse
      (splitLines [] (serialized fields message ++ text)) = ([], some error) := by
  obtain ⟨c, after, hafter⟩ : ∃ c after, (serialized fields message).dropWhile (!isLineBreak ·) =
      c :: after := by
    refine List.exists_cons_of_ne_nil fun hnil => ?_
    rw [List.dropWhile_eq_nil_iff, ← List.all_eq_true] at hnil
    rw [isOneLine, hnil] at h
    cases h
  have hbefore : ((serialized fields message).takeWhile (!isLineBreak ·)).all (!isLineBreak ·) :=
    List.all_takeWhile
  have hsplit := List.takeWhile_append_dropWhile (p := (!isLineBreak ·))
    (l := serialized fields message)
  obtain ⟨more, hmore⟩ : ∃ more, (serialized fields message).takeWhile (!isLineBreak ·) =
      '\x7b' :: more :=
    ⟨_, by rw [serialized_eq]; exact List.takeWhile_cons_of_pos rfl⟩
  rw [hmore] at hbefore hsplit
  rw [hafter] at hsplit
  have hbreak : isLineBreak c = true := by
    have hhead := List.head?_dropWhile_not (!isLineBreak ·) (serialized fields message)
    rw [hafter] at hhead
    simpa using hhead
  have hprintable : Json.isPrintable c = true :=
    isPrintable_of_mem_serialized (hsplit ▸ List.mem_append_right _ (List.mem_cons_self ..))
  have hreturn : c ≠ '\r' := fun heq => by
    rw [heq] at hprintable
    cases hprintable
  obtain ⟨hne, hstripped⟩ := strip_cons more
  obtain ⟨error, herror⟩ := hparse (fields message) (strip ('\x7b' :: more))
    (hstripped.trans ⟨_, hsplit⟩) fun heq => by
      have hlength := hstripped.length_le
      have hwhole : Json.renderChars (.object (fields message)) = '\x7b' :: more ++ c ::
          after := hsplit.symm
      rw [heq, hwhole] at hlength
      simp only [List.length_append, List.length_cons] at hlength
      omega
  refine ⟨error, ?_⟩
  rw [← hsplit, List.append_assoc, splitLines_append hbefore, List.nil_append, List.cons_append,
    splitLines_break hbreak hreturn, streamNdjsonInferenceMessages,
    if_neg (by rw [List.isEmpty_iff]; exact hne), herror]

/-- The messages of these lines, up to the first that is written on more than one. -/
theorem stream_lines (hparse : RefusesCut parse) (messages : List (OutgoingMessage ρ)) :
    (streamNdjsonInferenceMessages parse
        (splitLines [] (messages.flatMap fun message => serialized fields message ++ ['\n']))).1 =
      (readAll parse ((messages.takeWhile (isOneLine fields)).map (serialized fields))).1 ∧
    ((streamNdjsonInferenceMessages parse
        (splitLines [] (messages.flatMap fun message => serialized fields message ++ ['\n']))).2 =
          none ↔
      (readAll parse (messages.map (serialized fields))).2 = none ∧
        messages.all (isOneLine fields)) := by
  induction messages with
  | nil => exact ⟨rfl, iff_of_true rfl ⟨rfl, rfl⟩⟩
  | cons message messages ih =>
    rw [List.flatMap_cons, List.append_assoc, List.singleton_append]
    cases hline : isOneLine fields message with
    | false =>
      obtain ⟨error, hstream⟩ := stream_broken hparse hline
        ('\n' :: messages.flatMap fun message => serialized fields message ++ ['\n'])
      rw [hstream, List.takeWhile_cons_of_neg (by rw [hline]; exact Bool.false_ne_true),
        List.all_cons, hline]
      exact ⟨rfl, iff_of_false nofun fun hall => by cases hall.2⟩
    | true =>
      rw [stream_oneLine hline, List.takeWhile_cons_of_pos hline, List.map_cons, List.map_cons,
        readAll, readAll, List.all_cons, hline, Bool.true_and]
      cases parse (serialized fields message) with
      | error error => exact ⟨rfl, iff_of_false nofun fun hall => by cases hall.1⟩
      | ok item => exact ⟨congrArg (item :: ·) ih.1, ih.2⟩

end Reads

section Exact

variable {parse} {ρ : Type} {fields : OutgoingMessage ρ → List (String × Json)} [StreamableResult ρ]
  {s : HttpStream ρ} {requestId : String} {inferenceItemTimeout : Nat}

/-- **What the Python client reads** of a body that has ended, however it was cut into chunks: the
messages that were sent, up to one that the parser refuses or that has a line break of Unicode in
its text.  It ends without an exception exactly when there is no such message. -/
theorem pythonReads_exact
    (h : Reaches (HttpStream.step fields) (fun _ _ => True) (.new requestId inferenceItemTimeout) s)
    (hended : s.isEnded = true) {chunks : List (List UInt8)} (hbody : chunks.flatten = s.body)
    {aiterLines : List (List UInt8) → List (List Char)}
    (hlines : ∀ (chunks : List (List UInt8)) (text : List Char),
      chunks.flatten = utf8 text → aiterLines chunks = splitLines [] text)
    (hparse : RefusesCut parse) :
    (streamNdjsonInferenceMessages parse (aiterLines chunks)).1 =
      (readAll parse ((s.request.delivered.takeWhile (isOneLine fields)).map
        (serialized fields))).1 ∧
    ((streamNdjsonInferenceMessages parse (aiterLines chunks)).2 = none ↔
      (readAll parse (s.request.delivered.map (serialized fields))).2 = none ∧
        s.request.delivered.all (isOneLine fields)) := by
  have htext : chunks.flatten =
      utf8 (s.request.delivered.flatMap fun message => serialized fields message ++ ['\n']) := by
    rw [hbody, (httpStreamInv_reaches h).complete hended, linesOf, utf8, List.flatMap_assoc]
    rfl
  rw [hlines chunks _ htext]
  exact stream_lines hparse s.request.delivered

/-- The client raises an exception, though the response was whole. -/
theorem pythonReads_exact_brokenOff :
    (streamNdjsonInferenceMessages (fun text => readJson (.ofList text))
      (splitLines [] (Utf8.feed Utf8.start brokenOffChunks.flatten).1)).1 = [] ∧
    (streamNdjsonInferenceMessages (fun text => readJson (.ofList text))
      (splitLines [] (Utf8.feed Utf8.start brokenOffChunks.flatten).1)).2 ≠ none := by
  have hlines : ∀ (chunks : List (List UInt8)) (text : List Char), chunks.flatten = utf8 text →
      splitLines [] (Utf8.feed Utf8.start chunks.flatten).1 = splitLines [] text := by
    intro chunks text hflatten
    rw [hflatten, utf8, Utf8.feed_encode]
  have hparse : RefusesCut fun text => readJson (.ofList text) := by
    intro fields cut hcut hne
    refine ⟨(), ?_⟩
    simp only [readJson, Json.read_cut hcut hne, Option.elim_none]
  obtain ⟨hitems, hwhole⟩ :=
    pythonReads_exact brokenOff_reaches brokenOff_ended flatten_brokenOffChunks hlines hparse
  have hbroken : brokenOff.request.delivered.all (isOneLine tokenFields) = false := by decide
  have hfirst : brokenOff.request.delivered.takeWhile (isOneLine tokenFields) = [] := by decide
  refine ⟨by rw [hitems, hfirst]; rfl, fun hnone => ?_⟩
  rw [hbroken] at hwhole
  exact Bool.false_ne_true (hwhole.mp hnone).2

end Exact

end Python

end HttpStreams

end Paddler
