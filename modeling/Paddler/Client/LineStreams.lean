import Mathlib.Data.List.DropRight
import Paddler.Library.LineStream

/-!
# The line streams of the Rust client

Model of `stream/line_buffer.rs`, `stream/ndjson.rs` and `stream/sse.rs`.  A response arrives in
chunks, which may be cut anywhere.  The JSON parser and the transport are third-party: `fromStr` is
`serde_json::from_str` for the type of the items, and a body is a list of chunks, with an error
where `reqwest` gives one.

* `LineBuffer.takeLine_cons`, `LineBuffer.takeLine_of_not_mem` — a line is taken when it is
  complete.
* `loop_item`, `loop_passedOver`, `loop_chunk`, `loop_end`, `loop_failed` — what one round of the
  loop does.
* `cancelled_prefix` — a stream that is cancelled gives the first items of the stream that is not.
* `readsLines` — both streams read lines out of chunks.
* `Ndjson.items`, `Sse.items` — what the lines of a body give when it arrives as a whole.
* `lineStreams_chunking` — **the items do not depend on where the body is cut.**
-/

set_option autoImplicit false

namespace Paddler

open LineStream

variable {T P Item : Type}

/-! ## The buffer -/

/-- The errors of `error.rs` that a line stream gives. -/
inductive LineStreamError (T P : Type) where
  | http (source : T)
  | ndjsonLineParseFailed (line : String) (source : P)
  | nonUtf8StreamLine (lineBytes : List UInt8)
  deriving DecidableEq

/-- The byte that ends a line. -/
def newline : UInt8 := 10

def fromUtf8 (bytes : List UInt8) : Option String := String.fromUTF8? ⟨bytes.toArray⟩

def decodeLine (lineBytes : List UInt8) : Except (LineStreamError T P) String :=
  match fromUtf8 lineBytes with
  | some line => .ok line
  | none => .error (.nonUtf8StreamLine lineBytes)

structure LineBuffer where
  bytes : List UInt8
  deriving DecidableEq

namespace LineBuffer

def pushChunk (self : LineBuffer) (chunk : List UInt8) : LineBuffer := ⟨self.bytes ++ chunk⟩

def takeLine (self : LineBuffer) : Option (Except (LineStreamError T P) String × LineBuffer) :=
  match self.bytes.findIdx? (· == newline) with
  | none => none
  | some newlinePosition =>
    let lineBytes := self.bytes.take (newlinePosition + 1)
    some (decodeLine (lineBytes.take newlinePosition), ⟨self.bytes.drop (newlinePosition + 1)⟩)

def takeRemainder (self : LineBuffer) : Option (Except (LineStreamError T P) String × LineBuffer) :=
  if self.bytes.isEmpty then none else some (decodeLine self.bytes, ⟨[]⟩)

theorem takeLine_cons {line : List UInt8} (h : newline ∉ line) (rest : List UInt8) :
    takeLine (T := T) (P := P) ⟨line ++ newline :: rest⟩ = some (decodeLine line, ⟨rest⟩) := by
  have hposition : (line ++ newline :: rest).findIdx? (· == newline) = some line.length := by
    rw [List.findIdx?_append, List.findIdx?_eq_none_iff.mpr, List.findIdx?_cons]
    · simp
    · intro byte hbyte
      exact beq_eq_false_iff_ne.mpr fun heq => h (heq ▸ hbyte)
  simp only [takeLine, hposition, List.take_take, List.drop_append]
  simp

theorem takeLine_of_not_mem {bytes : List UInt8} (h : newline ∉ bytes) :
    takeLine (T := T) (P := P) ⟨bytes⟩ = none := by
  have hposition : bytes.findIdx? (· == newline) = none := by
    refine List.findIdx?_eq_none_iff.mpr fun byte hbyte => ?_
    exact beq_eq_false_iff_ne.mpr fun heq => h (heq ▸ hbyte)
  simp only [takeLine, hposition]

theorem takeLine_shorter {self buffer : LineBuffer}
    {lineResult : Except (LineStreamError T P) String}
    (h : self.takeLine = some (lineResult, buffer)) : buffer.bytes.length < self.bytes.length := by
  obtain ⟨bytes⟩ := self
  rcases cases_split newline bytes with hmem | ⟨line, rest, hnot, rfl⟩
  · cases (takeLine_of_not_mem hmem).symm.trans h
  · cases (takeLine_cons hnot rest).symm.trans h
    simp only [List.length_append, List.length_cons]
    omega

end LineBuffer

/-! ## The streams -/

/-- A `CancellationToken`, by how often a stream still finds it not cancelled. -/
structure StreamCancellation where
  cancelledAfter : Option Nat
  deriving DecidableEq

/-- A token that is never cancelled. -/
def StreamCancellation.never : StreamCancellation := ⟨none⟩

/-- Whether the token is cancelled when the stream looks at it. -/
def StreamCancellation.look (self : StreamCancellation) : Bool × StreamCancellation :=
  match self.cancelledAfter with
  | none => (false, self)
  | some 0 => (true, self)
  | some (looks + 1) => (false, ⟨some looks⟩)

/-- `StreamState` of both modules. -/
structure StreamState (T : Type) where
  cancellationToken : StreamCancellation
  isTerminated : Bool
  lineBuffer : LineBuffer
  response : List (Except T (List UInt8))

namespace StreamState

/-- The state a stream is unfolded from. -/
def new (cancellationToken : StreamCancellation) (response : List (Except T (List UInt8))) :
    StreamState T :=
  { cancellationToken, isTerminated := false, lineBuffer := ⟨[]⟩, response }

/-- `run_until_cancelled(state.response.chunk())`. -/
def chunk (state : StreamState T) : Option (Except T (Option (List UInt8)) × StreamState T) :=
  match state.cancellationToken.look, state.response with
  | (true, _), _ => none
  | (false, cancellationToken), [] => some (.ok none, { state with cancellationToken })
  | (false, cancellationToken), .ok chunk :: response =>
    some (.ok (some chunk), { state with cancellationToken, response })
  | (false, cancellationToken), .error transportError :: response =>
    some (.error transportError, { state with cancellationToken, response })

theorem chunk_shorter {state state' : StreamState T} {bytes : List UInt8}
    (h : state.chunk = some (.ok (some bytes), state')) :
    state'.response.length < state.response.length := by
  unfold chunk at h
  split at h
  · cases h
  · cases h
  · rename_i hresponse
    cases h
    rw [hresponse, List.length_cons]
    exact Nat.lt_succ_self _
  · cases h

/-- The loop in the closures of both `make_stream`.  They differ in `itemOf`, which gives the item
of a line, and in `atEnd`, which gives the item of the buffer at the end of the body. -/
def loop
    (itemOf : Except (LineStreamError T P) String → Option (Except (LineStreamError T P) Item))
    (atEnd : LineBuffer → Option (Except (LineStreamError T P) Item × LineBuffer))
    (state : StreamState T) :
    Option (Except (LineStreamError T P) Item × StreamState T) :=
  match _hline : state.lineBuffer.takeLine (T := T) (P := P) with
  | some (lineResult, lineBuffer) =>
    match itemOf lineResult with
    | some item => some (item, { state with lineBuffer })
    | none => loop itemOf atEnd { state with lineBuffer }
  | none =>
    match _hchunk : state.chunk with
    | none => none
    | some (.ok (some chunk), state) =>
      loop itemOf atEnd { state with lineBuffer := state.lineBuffer.pushChunk chunk }
    | some (.ok none, state) =>
      match atEnd state.lineBuffer with
      | none => none
      | some (item, lineBuffer) => some (item, { state with lineBuffer })
    | some (.error transportError, state) =>
      some (.error (.http transportError), { state with isTerminated := true })
termination_by (state.response.length, state.lineBuffer.bytes.length)
decreasing_by
  · exact .right _ (LineBuffer.takeLine_shorter _hline)
  · exact .left _ _ (chunk_shorter _hchunk)

/-- The closures of both `make_stream`. -/
def poll
    (itemOf : Except (LineStreamError T P) String → Option (Except (LineStreamError T P) Item))
    (atEnd : LineBuffer → Option (Except (LineStreamError T P) Item × LineBuffer))
    (state : StreamState T) :
    Option (Except (LineStreamError T P) Item × StreamState T) :=
  if state.isTerminated then none
  else
    match state.cancellationToken.look with
    | (true, _) => none
    | (false, cancellationToken) => loop itemOf atEnd { state with cancellationToken }

end StreamState

/-- `char::is_whitespace`: the property `White_Space`. -/
def isWhitespace (c : Char) : Bool :=
  (0x09 ≤ c.toNat && c.toNat ≤ 0x0D) || c.toNat == 0x20 || c.toNat == 0x85 || c.toNat == 0xA0 ||
    c.toNat == 0x1680 || (0x2000 ≤ c.toNat && c.toNat ≤ 0x200A) || c.toNat == 0x2028 ||
    c.toNat == 0x2029 || c.toNat == 0x202F || c.toNat == 0x205F || c.toNat == 0x3000

def trim (line : String) : String :=
  .ofList ((line.toList.dropWhile isWhitespace).rdropWhile isWhitespace)

namespace Ndjson

def parseLine (fromStr : String → Except P Item) :
    Except (LineStreamError T P) String → Option (Except (LineStreamError T P) Item)
  | .ok line =>
    let trimmedLine := trim line
    if trimmedLine.isEmpty then none
    else some ((fromStr trimmedLine).mapError (.ndjsonLineParseFailed trimmedLine))
  | .error decodingError => some (.error decodingError)

/-- What `make_stream` gives at the end of the body. -/
def parseRemainder (fromStr : String → Except P Item) (lineBuffer : LineBuffer) :
    Option (Except (LineStreamError T P) Item × LineBuffer) :=
  match lineBuffer.takeRemainder with
  | none => none
  | some (remainderResult, lineBuffer) => (parseLine fromStr remainderResult).map (·, lineBuffer)

/-- The closure of `make_stream`. -/
def makeStream (fromStr : String → Except P Item) :
    StreamState T → Option (Except (LineStreamError T P) Item × StreamState T) :=
  StreamState.poll (parseLine fromStr) (parseRemainder fromStr)

end Ndjson

namespace Sse

/-- `DATA_FIELD_PREFIX`. -/
def dataFieldPrefix : String := "data: "

/-- What `make_stream` gives for a line. -/
def lineData : Except (LineStreamError T P) String → Option (Except (LineStreamError T P) String)
  | .ok line =>
    ((line.toList.rdropWhile (· == '\r')).dropPrefix? dataFieldPrefix.toList).map fun data =>
      .ok (.ofList data)
  | .error decodingError => some (.error decodingError)

/-- The closure of `make_stream`. -/
def makeStream : StreamState T → Option (Except (LineStreamError T P) String × StreamState T) :=
  StreamState.poll lineData fun _ => none

end Sse

/-! ## What one round of the loop does -/

section

variable {itemOf : Except (LineStreamError T P) String → Option (Except (LineStreamError T P) Item)}
variable {atEnd : LineBuffer → Option (Except (LineStreamError T P) Item × LineBuffer)}
variable {state state' : StreamState T} {item : Except (LineStreamError T P) Item}

namespace StreamState

section

variable {lineResult : Except (LineStreamError T P) String} {lineBuffer : LineBuffer}

theorem loop_taken (htaken : state.lineBuffer.takeLine = some (lineResult, lineBuffer)) :
    state.loop itemOf atEnd =
      (itemOf lineResult).elim (loop itemOf atEnd { state with lineBuffer }) fun item =>
        some (item, { state with lineBuffer }) := by
  rw [loop]
  split
  · rename_i htaken'
    cases htaken.symm.trans htaken'
    cases itemOf lineResult <;> rfl
  · rename_i hnone
    cases htaken.symm.trans hnone

theorem loop_item (htaken : state.lineBuffer.takeLine = some (lineResult, lineBuffer))
    (hitem : itemOf lineResult = some item) :
    state.loop itemOf atEnd = some (item, { state with lineBuffer }) := by
  rw [loop_taken htaken, hitem]
  rfl

theorem loop_passedOver (htaken : state.lineBuffer.takeLine = some (lineResult, lineBuffer))
    (hitem : itemOf lineResult = none) :
    state.loop itemOf atEnd = loop itemOf atEnd { state with lineBuffer } := by
  rw [loop_taken htaken, hitem]
  rfl

end

section

variable (hnone : state.lineBuffer.takeLine (T := T) (P := P) = none)
include hnone

theorem loop_chunk {bytes : List UInt8} (hchunk : state.chunk = some (.ok (some bytes), state')) :
    state.loop itemOf atEnd =
      loop itemOf atEnd { state' with lineBuffer := state'.lineBuffer.pushChunk bytes } := by
  rw [loop]
  split
  · rename_i htaken
    cases hnone.symm.trans htaken
  · split <;> rename_i hchunk' <;> cases hchunk.symm.trans hchunk'
    rfl

theorem loop_end (hchunk : state.chunk = some (.ok none, state')) :
    state.loop itemOf atEnd =
      (atEnd state'.lineBuffer).map fun taken =>
        (taken.1, { state' with lineBuffer := taken.2 }) := by
  rw [loop]
  split
  · rename_i htaken
    cases hnone.symm.trans htaken
  · split <;> rename_i hchunk' <;> cases hchunk.symm.trans hchunk'
    cases atEnd state'.lineBuffer <;> rfl

theorem loop_failed {transportError : T}
    (hchunk : state.chunk = some (.error transportError, state')) :
    state.loop itemOf atEnd =
      some (.error (.http transportError), { state' with isTerminated := true }) := by
  rw [loop]
  split
  · rename_i htaken
    cases hnone.symm.trans htaken
  · split <;> rename_i hchunk' <;> cases hchunk.symm.trans hchunk'
    rfl

end

/-! ## Cancellation -/

/-- The same stream with a token that is never cancelled. -/
def uncancelled (self : StreamState T) : StreamState T := { self with cancellationToken := .never }

theorem chunk_uncancelled {result : Except T (Option (List UInt8))}
    (h : state.chunk = some (result, state')) :
    state.uncancelled.chunk = some (result, state'.uncancelled) := by
  obtain ⟨cancellationToken, isTerminated, lineBuffer, response⟩ := state
  unfold chunk at h
  split at h <;> cases h <;> rename_i hresponse <;> cases hresponse <;> rfl

/-- An item that a stream gives does not depend on its token. -/
theorem loop_uncancelled (h : state.loop itemOf atEnd = some (item, state')) :
    state.uncancelled.loop itemOf atEnd = some (item, state'.uncancelled) := by
  fun_induction StreamState.loop itemOf atEnd state with
  | case1 state lineResult lineBuffer htaken item' hitem =>
    have htaken' : state.uncancelled.lineBuffer.takeLine = some (lineResult, lineBuffer) := htaken
    cases h
    exact loop_item htaken' hitem
  | case2 state lineResult lineBuffer htaken hitem ih =>
    have htaken' : state.uncancelled.lineBuffer.takeLine = some (lineResult, lineBuffer) := htaken
    exact (loop_passedOver htaken' hitem).trans (ih h)
  | case3 => cases h
  | case4 state hnone bytes next hchunk ih =>
    have hnone' : state.uncancelled.lineBuffer.takeLine (T := T) (P := P) = none := hnone
    exact (loop_chunk hnone' (chunk_uncancelled hchunk)).trans (ih h)
  | case5 => cases h
  | case6 state hnone next hchunk item' lineBuffer hend =>
    have hnone' : state.uncancelled.lineBuffer.takeLine (T := T) (P := P) = none := hnone
    have hend' : atEnd next.uncancelled.lineBuffer = some (item', lineBuffer) := hend
    cases h
    rw [loop_end hnone' (chunk_uncancelled hchunk), hend']
    rfl
  | case7 state hnone transportError next hchunk =>
    have hnone' : state.uncancelled.lineBuffer.takeLine (T := T) (P := P) = none := hnone
    cases h
    exact loop_failed hnone' (chunk_uncancelled hchunk)

theorem poll_uncancelled (h : state.poll itemOf atEnd = some (item, state')) :
    state.uncancelled.poll itemOf atEnd = some (item, state'.uncancelled) := by
  unfold poll at h ⊢
  split at h
  · cases h
  · rename_i hterminated
    have hterminated' : ¬ state.uncancelled.isTerminated = true := hterminated
    rw [if_neg hterminated']
    split at h
    · cases h
    · have huncancelled := loop_uncancelled h
      exact huncancelled

end StreamState

open StreamState

/-- **A stream that is cancelled gives the first items of the stream that is not.** -/
theorem cancelled_prefix {items items' : List (Except (LineStreamError T P) Item)}
    (h : Unfolds (poll itemOf atEnd) state items)
    (h' : Unfolds (poll itemOf atEnd) state.uncancelled items') :
    items <+: items' := by
  induction h generalizing items' with
  | ended hnone => exact List.nil_prefix
  | item hsome hrest ih =>
    cases h' with
    | ended hnone => cases (poll_uncancelled hsome).symm.trans hnone
    | item hsome' hrest' =>
      cases (poll_uncancelled hsome).symm.trans hsome'
      exact List.cons_prefix_cons.mpr ⟨rfl, ih hrest'⟩

/-! ## Lines out of chunks -/

/-- A stream that is not cancelled and has not failed. -/
def StreamState.reading (buffer : List UInt8) (response : List (Except T (List UInt8))) :
    StreamState T :=
  { cancellationToken := .never, isTerminated := false, lineBuffer := ⟨buffer⟩,
    response := response }

/-- **Both streams read lines out of chunks.** -/
theorem readsLines :
    ReadsLines newline (poll itemOf atEnd) reading (fun chunk response => .ok chunk :: response)
      (fun line => itemOf (decodeLine line)) where
  item rest _ hline hitem := loop_item (LineBuffer.takeLine_cons hline rest) hitem
  skip rest _ hline hitem := loop_passedOver (LineBuffer.takeLine_cons hline rest) hitem
  chunk {buffer} bytes source hbuffer := by
    have hchunk : (reading buffer (.ok bytes :: source)).chunk =
        some (.ok (some bytes), reading buffer source) := rfl
    exact loop_chunk (LineBuffer.takeLine_of_not_mem hbuffer) hchunk

variable {buffer : List UInt8}

theorem poll_end (hbuffer : newline ∉ buffer) :
    poll itemOf atEnd (reading buffer []) =
      (atEnd ⟨buffer⟩).map fun taken => (taken.1, reading taken.2.bytes []) := by
  have hchunk : (reading buffer []).chunk = some (.ok none, reading (T := T) buffer []) := rfl
  exact loop_end (LineBuffer.takeLine_of_not_mem hbuffer) hchunk

/-- An error of the transport is given, and ends the stream. -/
theorem unfolds_failed (transportError : T) {response : List (Except T (List UInt8))}
    (hbuffer : newline ∉ buffer) :
    Unfolds (poll itemOf atEnd) (reading buffer (.error transportError :: response))
      [.error (.http transportError)] :=
  .item (loop_failed (LineBuffer.takeLine_of_not_mem hbuffer) rfl) (.ended rfl)

end

/-! ## The items of a body -/

theorem foldr_arrives (chunks : List (List UInt8)) (response : List (Except T (List UInt8))) :
    chunks.foldr (fun chunk response => .ok chunk :: response) response =
      chunks.map .ok ++ response := by
  induction chunks with
  | nil => rfl
  | cons chunk chunks ih => rw [List.foldr_cons, ih, List.map_cons, List.cons_append]

namespace Ndjson

/-- A line of white space. -/
def isBlank (lineBytes : List UInt8) : Bool :=
  (fromUtf8 lineBytes).any fun line => line.toList.all isWhitespace

/-- What a line gives that is not blank. -/
def lineResult (fromStr : String → Except P Item) (lineBytes : List UInt8) :
    Except (LineStreamError T P) Item :=
  match fromUtf8 lineBytes with
  | some line => (fromStr (trim line)).mapError (.ndjsonLineParseFailed (trim line))
  | none => .error (.nonUtf8StreamLine lineBytes)

/-- The items of these lines: one for each that is not blank. -/
def items (fromStr : String → Except P Item) (lines : List (List UInt8)) :
    List (Except (LineStreamError T P) Item) :=
  (lines.filter fun line => !isBlank line).map (lineResult fromStr)

theorem trim_isEmpty (line : String) : (trim line).isEmpty = line.toList.all isWhitespace := by
  rw [Bool.eq_iff_iff, String.isEmpty_iff, trim, String.ofList_eq_empty_iff,
    List.rdropWhile_eq_nil_iff, List.all_eq_true]
  refine ⟨fun hrest c hc => ?_, fun hall c hc => hall c ((List.dropWhile_suffix _).subset hc)⟩
  rw [← List.takeWhile_append_dropWhile (p := isWhitespace) (l := line.toList),
    List.mem_append] at hc
  exact hc.elim List.mem_takeWhile_imp (hrest c)

theorem parseLine_decodeLine (fromStr : String → Except P Item) (lineBytes : List UInt8) :
    parseLine (T := T) fromStr (decodeLine lineBytes) =
      if isBlank lineBytes then none else some (lineResult fromStr lineBytes) := by
  unfold decodeLine isBlank lineResult
  cases fromUtf8 lineBytes with
  | none => rfl
  | some line =>
    simp only [parseLine, trim_isEmpty, Option.any_some]

/-- What is left at the end of the body is a line, if there is anything left. -/
theorem unfolds_remainder (fromStr : String → Except P Item) {buffer : List UInt8}
    (hbuffer : newline ∉ buffer) :
    Unfolds (makeStream (T := T) fromStr) (.reading buffer [])
      (parseLine fromStr (decodeLine buffer)).toList := by
  have hempty : makeStream (T := T) fromStr (.reading [] []) = none := poll_end List.not_mem_nil
  cases buffer with
  | nil => exact .ended hempty
  | cons byte bytes =>
    have hend : makeStream (T := T) fromStr (.reading (byte :: bytes) []) =
        (parseLine fromStr (decodeLine (byte :: bytes))).map fun item => (item, .reading [] []) :=
      (poll_end hbuffer).trans (Option.map_map ..)
    cases hitem : parseLine (T := T) fromStr (decodeLine (byte :: bytes)) with
    | none => exact .ended (hend.trans (by rw [hitem]; rfl))
    | some item => exact .item (hend.trans (by rw [hitem]; rfl)) (.ended hempty)

theorem items_eq (fromStr : String → Except P Item) (lines : List (List UInt8)) :
    items (T := T) fromStr lines = lines.filterMap fun line =>
      parseLine fromStr (decodeLine line) := by
  induction lines with
  | nil => rfl
  | cons line lines ih =>
    rw [List.filterMap_cons, parseLine_decodeLine, ← ih, items, List.filter_cons]
    cases isBlank line <;> rfl

end Ndjson

namespace Sse

/-- What a line gives: its payload, if it is a data line. -/
def lineResult (lineBytes : List UInt8) : Option (Except (LineStreamError T P) String) :=
  match fromUtf8 lineBytes with
  | some line =>
    (line.toList.dropPrefix? dataFieldPrefix.toList).map fun payload =>
      .ok (.ofList (payload.rdropWhile (· == '\r')))
  | none => some (.error (.nonUtf8StreamLine lineBytes))

/-- The items of these lines. -/
def items (lines : List (List UInt8)) : List (Except (LineStreamError T P) String) :=
  lines.filterMap lineResult

/-- Trailing characters are removed behind a prefix that does not end with one. -/
theorem rdropWhile_append {α : Type} {p : α → Bool} {before : List α}
    (hbefore : before.rdropWhile p = before) (payload : List α) :
    (before ++ payload).rdropWhile p = before ++ payload.rdropWhile p := by
  induction payload using List.reverseRecOn with
  | nil => rw [List.append_nil, List.rdropWhile_nil, List.append_nil, hbefore]
  | append_singleton payload x ih =>
    rw [← List.append_assoc, List.rdropWhile_concat, List.rdropWhile_concat, ih]
    split
    · rfl
    · rw [List.append_assoc]

theorem lineData_decodeLine (lineBytes : List UInt8) :
    lineData (T := T) (P := P) (decodeLine lineBytes) = lineResult lineBytes := by
  unfold decodeLine lineResult
  cases fromUtf8 lineBytes with
  | none => rfl
  | some line =>
    have hbefore : dataFieldPrefix.toList.rdropWhile (· == '\r') = dataFieldPrefix.toList := by
      decide
    dsimp only
    cases hdata : line.toList.dropPrefix? dataFieldPrefix.toList with
    | some payload =>
      obtain ⟨before, hline, hbeq⟩ := List.dropPrefix?_eq_some_iff.mp hdata
      cases eq_of_beq hbeq
      rw [lineData, hline, rdropWhile_append hbefore, List.dropPrefix?_append_of_beq _ hbeq]
      rfl
    | none =>
      have hnone : (line.toList.rdropWhile (· == '\r')).dropPrefix?
          dataFieldPrefix.toList = none := by
        refine Option.eq_none_iff_forall_ne_some.mpr fun payload hsome => ?_
        obtain ⟨before, htrimmed, hbeq⟩ := List.dropPrefix?_eq_some_iff.mp hsome
        obtain ⟨trailing, hline⟩ := List.rdropWhile_prefix (· == '\r') (l := line.toList)
        rw [htrimmed, List.append_assoc] at hline
        rw [← hline, List.dropPrefix?_append_of_beq _ hbeq] at hdata
        cases hdata
      rw [lineData, hnone]
      rfl

end Sse

/-- What a body gives that arrives in chunks: the items of the complete lines, and what `source`
gives then. -/
theorem unfolds_chunks
    {itemOf : Except (LineStreamError T P) String → Option (Except (LineStreamError T P) Item)}
    {atEnd : LineBuffer → Option (Except (LineStreamError T P) Item × LineBuffer)}
    (chunks : List (List UInt8)) {source : List (Except T (List UInt8))}
    {items : List (Except (LineStreamError T P) Item)}
    (h : Unfolds (StreamState.poll itemOf atEnd)
      (.reading (remainder newline chunks.flatten) source) items) :
    Unfolds (StreamState.poll itemOf atEnd) (.new .never (chunks.map .ok ++ source))
      ((complete newline chunks.flatten).filterMap (fun line => itemOf (decodeLine line)) ++
        items) := by
  rw [← foldr_arrives]
  exact readsLines.unfolds chunks [] h

/-- **The items of a line stream do not depend on where the body is cut.** -/
theorem lineStreams_chunking (chunks : List (List UInt8)) :
    (∀ (fromStr : String → Except P Item) (given : List (Except (LineStreamError T P) Item)),
      Unfolds (Ndjson.makeStream fromStr) (.new .never (chunks.map .ok)) given ↔
        given = Ndjson.items fromStr (chunks.flatten.splitOn newline)) ∧
    (∀ given : List (Except (LineStreamError T P) String),
      Unfolds Sse.makeStream (.new .never (chunks.map .ok)) given ↔
        given = Sse.items (complete newline chunks.flatten)) ∧
    ∀ (transportError : T) (response : List (Except T (List UInt8))),
      (∀ (fromStr : String → Except P Item) (given : List (Except (LineStreamError T P) Item)),
        Unfolds (Ndjson.makeStream fromStr)
            (.new .never (chunks.map .ok ++ .error transportError :: response)) given ↔
          given = Ndjson.items fromStr (complete newline chunks.flatten) ++
            [.error (.http transportError)]) ∧
      ∀ given : List (Except (LineStreamError T P) String),
        Unfolds Sse.makeStream (.new .never (chunks.map .ok ++ .error transportError :: response))
            given ↔
          given = Sse.items (complete newline chunks.flatten) ++
            [.error (.http transportError)] := by
  have hremainder : newline ∉ remainder newline chunks.flatten := not_mem_remainder chunks.flatten
  have hbody : chunks.map .ok ++ [] = (chunks.map .ok : List (Except T (List UInt8))) :=
    List.append_nil _
  have hsse : ∀ lines : List (List UInt8),
      Sse.items (T := T) (P := P) lines = lines.filterMap fun line =>
        Sse.lineData (decodeLine line) := by
    intro lines
    exact List.filterMap_congr fun line _ => (Sse.lineData_decodeLine line).symm
  refine ⟨fun fromStr given => ?_, fun given => ?_, fun transportError response =>
    ⟨fun fromStr given => ?_, fun given => ?_⟩⟩
  · rw [← hbody, Ndjson.items_eq, splitOn_eq, List.filterMap_append]
    exact (unfolds_chunks chunks (Ndjson.unfolds_remainder fromStr hremainder)).iff_eq
  · rw [← hbody, hsse, ← List.append_nil (List.filterMap ..)]
    exact (unfolds_chunks chunks (.ended (poll_end hremainder))).iff_eq
  · rw [Ndjson.items_eq]
    exact (unfolds_chunks chunks (unfolds_failed transportError hremainder)).iff_eq
  · rw [hsse]
    exact (unfolds_chunks chunks (unfolds_failed transportError hremainder)).iff_eq

end Paddler
