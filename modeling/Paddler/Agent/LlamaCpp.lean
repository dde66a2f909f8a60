import Paddler.Messaging.Results

/-!
# llama.cpp as the agent sees it

`llama_cpp_bindings` is a third-party crate.  Its values are modelled as far as the scheduler
depends on them:

* `SampledTokenClassifier C` is the interface of the token classifier over an arbitrary type
  `C` of classifier states;
* `LlamaBatch` holds the tokens added to one batch and refuses tokens past its capacity;
* `LlamaContext` holds the cells of the KV cache and which decode filled the logits buffer.
  What a decode answers is an input.  One that fails leaves the logits buffer alone, but an abort or
  a failure keeps the tokens that were processed until then.

History: `BatchToken.requestId`, `KvCell.requestId` and `LastDecode.multimodal` name the request
for which the work was done.  llama.cpp does not store it and no modelled function reads it.
-/

set_option autoImplicit false

namespace Paddler

/-- `i32::MAX`. -/
def i32Max : Nat := 2147483647

/-- `u32::MAX`. -/
def u32Max : Nat := 4294967295

/-- `LlamaToken` (an `i32` index into the vocabulary). -/
abbrev LlamaToken := Int

/-- `SampledToken`: a token with the section of the output it belongs to. -/
inductive SampledToken where
  | content (token : LlamaToken)
  | reasoning (token : LlamaToken)
  | toolCall (token : LlamaToken)
  | undeterminable (token : LlamaToken)
  deriving DecidableEq, Repr

/-- The token itself, whatever its section. -/
def SampledToken.token : SampledToken → LlamaToken
  | .content token | .reasoning token | .toolCall token | .undeterminable token => token

inductive SampledTokenSection where
  | pending
  | content
  | reasoning
  | toolCall
  deriving DecidableEq, Repr

/-- `IngestOutcome`: what the classifier decided about one token. -/
structure IngestOutcome where
  sampledToken : SampledToken
  visiblePiece : String
  rawPiece : String
  deriving DecidableEq, Repr

/-- The methods of `SampledTokenClassifier` that the scheduler calls. -/
structure SampledTokenClassifier (C : Type) where
  ingest : C → LlamaToken → Except String (List IngestOutcome) × C
  usage : C → TokenUsage
  currentSection : C → SampledTokenSection
  recordPromptTokens : C → Nat → C
  ingestPromptTokens : C → List LlamaToken → C

/-! ## Batches -/

/-- One token of a batch, as given to `LlamaBatch::add`. -/
structure BatchToken where
  token : LlamaToken
  position : Int
  seqId : Int
  logits : Bool
  requestId : Nat
  deriving DecidableEq, Repr

structure LlamaBatch where
  capacity : Nat
  tokens : List BatchToken
  deriving DecidableEq, Repr

namespace LlamaBatch

/-- `LlamaBatch::new`: the capacity is handed to llama.cpp as an `i32`. -/
def new (nTokens : Nat) : Except String LlamaBatch :=
  if i32Max < nTokens then .error "integer overflow" else .ok ⟨nTokens, []⟩

def nTokens (batch : LlamaBatch) : Int := batch.tokens.length

def add (batch : LlamaBatch) (token : BatchToken) : Except String LlamaBatch :=
  if batch.tokens.length < batch.capacity then .ok { batch with tokens := batch.tokens ++ [token] }
  else .error "insufficient space"

/-- `LlamaBatch::add_sequence`: all tokens of one sequence from position 0, with logits for the
last one or for all of them. -/
def addSequence (batch : LlamaBatch) (tokens : List LlamaToken) (seqId : Int) (logitsAll : Bool)
    (requestId : Nat) : Except String LlamaBatch :=
  if batch.tokens.length + tokens.length ≤ batch.capacity then
    .ok { batch with tokens := batch.tokens ++ tokens.zipIdx.map fun (token, i) =>
            ⟨token, i, seqId, logitsAll || i == tokens.length - 1, requestId⟩ }
  else .error "insufficient space"

def clear (batch : LlamaBatch) : LlamaBatch := { batch with tokens := [] }

theorem new_ok {n : Nat} {b : LlamaBatch} (h : new n = .ok b) : n ≤ i32Max ∧ b = ⟨n, []⟩ := by
  unfold new at h
  split at h
  · cases h
  · cases h
    exact ⟨by omega, rfl⟩

theorem add_of_lt {batch : LlamaBatch} (t : BatchToken) (h : batch.tokens.length < batch.capacity) :
    batch.add t = .ok { batch with tokens := batch.tokens ++ [t] } := by
  simp [add, h]

end LlamaBatch

/-! ## The context -/

/-- `DecodeError`; `other` stands for every status without a variant the scheduler names.
llama.cpp does not report `processed`, the number of tokens of the batch that stay in the cache. -/
inductive DecodeError where
  | noKvCacheSlot
  | aborted (processed : Nat)
  | batchInvalid
  | other (message : String) (processed : Nat)
  deriving DecidableEq, Repr

/-- A batch that is refused, or finds no room, is not processed at all. -/
def DecodeError.processed : DecodeError → Nat
  | noKvCacheSlot | batchInvalid => 0
  | aborted processed | other _ processed => processed

/-- One cell of the KV cache. -/
structure KvCell where
  seqId : Int
  position : Int
  requestId : Nat
  deriving DecidableEq, Repr

/-- The cell a decoded batch token occupies. -/
def BatchToken.cell (t : BatchToken) : KvCell := ⟨t.seqId, t.position, t.requestId⟩

/-- The decode that filled the logits buffer. -/
inductive LastDecode where
  | nothing
  | batch (tokens : List BatchToken)
  | multimodal (requestId : Nat)
  deriving DecidableEq, Repr

/-- The state of a `LlamaContext`. -/
structure LlamaContext where
  kvCells : List KvCell
  lastDecode : LastDecode
  deriving DecidableEq, Repr

namespace LlamaContext

/-- `LlamaContext::clear_kv_cache_seq(Some(seq), None, None)`: drop a whole sequence. -/
def clearKvCacheSeq (llama : LlamaContext) (seqId : Int) : LlamaContext :=
  { llama with kvCells := llama.kvCells.filter fun cell => cell.seqId != seqId }

def clearKvCache (llama : LlamaContext) : LlamaContext := { llama with kvCells := [] }

/-- `LlamaContext::decode`, with llama.cpp's answer given. -/
def decode (llama : LlamaContext) (batch : LlamaBatch) (answer : Except DecodeError Unit) :
    LlamaContext :=
  match answer with
  | .ok () => { kvCells := llama.kvCells ++ batch.tokens.map BatchToken.cell
                lastDecode := .batch batch.tokens }
  | .error error =>
    { llama with
      kvCells := llama.kvCells ++ (batch.tokens.take error.processed).map BatchToken.cell }

@[simp] theorem decode_error_lastDecode (llama : LlamaContext) (batch : LlamaBatch)
    (error : DecodeError) : (llama.decode batch (.error error)).lastDecode = llama.lastDecode := rfl

@[simp] theorem decode_noKvCacheSlot (llama : LlamaContext) (batch : LlamaBatch) :
    llama.decode batch (.error .noKvCacheSlot) = llama := by
  simp [decode, DecodeError.processed]

/-- Whatever is answered, a decode adds cells of tokens of the batch only. -/
theorem mem_decode {llama : LlamaContext} {batch : LlamaBatch} {answer : Except DecodeError Unit}
    {cell : KvCell} (h : cell ∈ (llama.decode batch answer).kvCells) :
    cell ∈ llama.kvCells ∨ ∃ b ∈ batch.tokens, b.cell = cell := by
  cases answer with
  | ok u => simpa [decode] using h
  | error error =>
    rcases List.mem_append.mp h with h | h
    · exact Or.inl h
    · obtain ⟨b, hb, rfl⟩ := List.mem_map.mp h
      exact Or.inr ⟨b, List.mem_of_mem_take hb, rfl⟩

@[simp] theorem clearKvCacheSeq_lastDecode (llama : LlamaContext) (seqId : Int) :
    (llama.clearKvCacheSeq seqId).lastDecode = llama.lastDecode := rfl

@[simp] theorem mem_clearKvCacheSeq {llama : LlamaContext} {seqId : Int} {cell : KvCell} :
    cell ∈ (llama.clearKvCacheSeq seqId).kvCells ↔ cell ∈ llama.kvCells ∧ cell.seqId ≠ seqId := by
  simp [clearKvCacheSeq, List.mem_filter]

@[simp] theorem clearKvCache_kvCells (llama : LlamaContext) : llama.clearKvCache.kvCells = [] := rfl

end LlamaContext

/-! ## Sampling -/

/-- What the bindings answer during one call of `sample_token_at_batch_index`: whether the two
sampler applications and the read succeed, the selected token, and whether it is accepted. -/
structure SamplingAnswers where
  tokenDataArrayIthOk : Bool
  applyGrammarOk : Bool
  applyChainOk : Bool
  selectedToken : Option LlamaToken
  chainAcceptOk : Bool
  grammarAcceptError : Option String
  deriving DecidableEq, Repr

/-- `sampling_outcome.rs`. -/
inductive SamplingOutcome where
  | allCandidatesEliminated
  | grammarRejectedModelOutput (message : String)
  | token (token : LlamaToken)
  deriving DecidableEq, Repr

/-- `sample_token_at_batch_index`; the error is the outermost `context` of the `anyhow` error. -/
def sampleTokenAtBatchIndex (answers : SamplingAnswers) (hasGrammarSampler : Bool) :
    Except String SamplingOutcome :=
  if !answers.tokenDataArrayIthOk then .error "failed to read token data array for sampling"
  else if hasGrammarSampler && !answers.applyGrammarOk then
    .error "failed to apply grammar sampler to token data array"
  else if !answers.applyChainOk then .error "failed to apply sampler chain to token data array"
  else
    match answers.selectedToken with
    | none => .ok .allCandidatesEliminated
    | some llamaToken =>
      if !answers.chainAcceptOk then .error "sampler chain failed to accept the selected token"
      else
        match hasGrammarSampler, answers.grammarAcceptError with
        | true, some message => .ok (.grammarRejectedModelOutput message)
        | _, _ => .ok (.token llamaToken)

/-- One read of the logits buffer: the row asked for, the decode that filled the buffer, and the
reader's `current_token_position` at that moment. -/
structure LogitsRead where
  batchIndex : Int
  lastDecode : LastDecode
  position : Int
  deriving DecidableEq, Repr

end Paddler
