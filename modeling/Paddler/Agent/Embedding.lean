import Mathlib.Algebra.Order.Ring.Int
import Paddler.Agent.ActiveRequest

/-!
# Embedding batches

Model of `continuous_batch_embedding_processor.rs`, `plan_embedding_batches.rs` and
`normalize_embedding.rs`.  The documents of a request are tokenized, those longer than `n_batch`
are reported one by one, and the rest is decoded in planned batches on the raw sequence ids
`0, 1, …`, without the sequence id pool.

* `planEmbeddingBatches_fits` — every planned batch fits: at most `n_batch` tokens and at most
  `max_sequences_per_batch` documents (one if that is not positive).
* `processEmbeddingBatch_sent` — the results of one request: none of them terminal except a last
  one, which is there when every answer the processor waits for is served.
* `processEmbeddingBatch_llama` — what it leaves in the KV cache.
-/

set_option autoImplicit false

namespace Paddler

variable {C : Type}

/-- `generate_embedding_batch_request.rs`. -/
structure GenerateEmbeddingBatchRequest where
  generatedEmbeddingTx : Sender EmbeddingResult
  inputBatch : List EmbeddingInputDocument
  normalizationMethod : EmbeddingNormalizationMethod
  deriving DecidableEq, Repr

/-- `embedding_input_tokenized.rs`. -/
structure EmbeddingInputTokenized where
  id : String
  tokens : List LlamaToken
  deriving DecidableEq, Repr

/-- What the bindings answer while one request is processed.  `stop`, `decode` and
`embeddingsSeqIth` are asked once for each planned batch, counted from 0; `l2` and `rmsNorm` are
the `f32` arithmetic of the two normalizations. -/
structure EmbeddingAnswers where
  strToToken : String → Except String (List LlamaToken)
  stop : Nat → StopPoll
  decode : Nat → Except DecodeError Unit
  embeddingsSeqIth : Nat → Nat → Except String (List UInt32)
  l2 : List UInt32 → List UInt32
  rmsNorm : List UInt32 → UInt32 → List UInt32

/-! ## Planning -/

/-- The loop of `plan_embedding_batches`, at document `index`. -/
def planEmbeddingBatchesFrom (nBatch : Nat) (maxSequencesPerBatch : Int) :
    List Nat → Nat → Nat → Nat → Int → List (Nat × Nat)
  | [], index, start, _, currentSequences =>
    if 0 < currentSequences then [(start, index)] else []
  | tokenCount :: tokenCounts, index, start, currentTokens, currentSequences =>
    if (nBatch < currentTokens + tokenCount ∨ maxSequencesPerBatch ≤ currentSequences) ∧
        0 < currentSequences then
      (start, index) ::
        planEmbeddingBatchesFrom nBatch maxSequencesPerBatch tokenCounts
          (index + 1) index tokenCount 1
    else
      planEmbeddingBatchesFrom nBatch maxSequencesPerBatch tokenCounts (index + 1) start
        (currentTokens + tokenCount) (currentSequences + 1)

/-- `plan_embedding_batches`: half-open ranges of document indices. -/
def planEmbeddingBatches (tokenCounts : List Nat) (nBatch : Nat) (maxSequencesPerBatch : Int) :
    List (Nat × Nat) :=
  planEmbeddingBatchesFrom nBatch maxSequencesPerBatch tokenCounts 0 0 0 0

/-- The documents of one planned range. -/
def rangeOf {α : Type} (range : Nat × Nat) (xs : List α) : List α :=
  (xs.drop range.1).take (range.2 - range.1)

/-! ## Normalization -/

def EmbeddingNormalizationMethod.canTransformTo (self _other : EmbeddingNormalizationMethod) :
    Bool :=
  self == .none

/-- `EmbeddingNormalizationMethod::needs_transformation_to`: the discriminants differ. -/
def EmbeddingNormalizationMethod.needsTransformationTo (self other : EmbeddingNormalizationMethod) :
    Bool :=
  match self, other with
  | .l2, .l2 | .none, .none | .rmsNorm _, .rmsNorm _ => false
  | _, _ => true

/-- `rms_norm`: the length has to fit in a `u16`. -/
def rmsNorm (answers : EmbeddingAnswers) (embedding : List UInt32) (epsilon : UInt32) :
    Except String (List UInt32) :=
  if embedding.isEmpty then .ok []
  else if 65535 < embedding.length then
    .error "embedding length exceeds the supported maximum for normalization"
  else .ok (answers.rmsNorm embedding epsilon)

/-- `normalize_embedding`; the error text goes on with the two methods. -/
def normalizeEmbedding (answers : EmbeddingAnswers) (embedding : Embedding)
    (normalizationMethod : EmbeddingNormalizationMethod) : Except String Embedding :=
  if !embedding.normalizationMethod.canTransformTo normalizationMethod then
    .error "Cannot transform"
  else if !embedding.normalizationMethod.needsTransformationTo normalizationMethod then .ok
    embedding
  else
    let normalized : Except String (List UInt32) := match normalizationMethod with
      | .none => .ok embedding.embedding
      | .l2 => .ok (answers.l2 embedding.embedding)
      | .rmsNorm epsilon => rmsNorm answers embedding.embedding epsilon
    match normalized with
    | .error err => .error err
    | .ok values => .ok { embedding with
        embedding := values
        normalizationMethod := normalizationMethod }

/-! ## Processing -/

/-- The tokenization of all documents, collected into one `Result`. -/
def tokenizeInputBatch (answers : EmbeddingAnswers) :
    List EmbeddingInputDocument → Except String (List EmbeddingInputTokenized)
  | [] => .ok []
  | input :: inputs =>
    match answers.strToToken input.content with
    | .error _ => .error "failed to tokenize embedding input batch"
    | .ok tokens =>
      match tokenizeInputBatch answers inputs with
      | .error err => .error err
      | .ok rest => .ok (⟨input.id, tokens⟩ :: rest)

/-- The loop that reports documents longer than `n_batch` and keeps the others. -/
def rejectOversized (nBatch : Nat) : List EmbeddingInputTokenized → Sender EmbeddingResult →
    Except String (List EmbeddingInputTokenized) × Sender EmbeddingResult
  | [], tx => (.ok [], tx)
  | input :: inputs, tx =>
    if nBatch < input.tokens.length then
      if u32Max < input.tokens.length then (.error "document token count does not fit in u32", tx)
      else if u32Max < nBatch then (.error "n_batch does not fit in u32", tx)
      else
        match tx.send (.documentExceedsBatchSize ⟨input.tokens.length, nBatch, input.id⟩) with
        | (false, tx) => (.error "channel closed", tx)
        | (true, tx) => rejectOversized nBatch inputs tx
    else
      match rejectOversized nBatch inputs tx with
      | (.error err, tx) => (.error err, tx)
      | (.ok within, tx) => (.ok (input :: within), tx)

/-- The documents of one batch, each on its own sequence. -/
def addSequences (requestId : Nat) : List EmbeddingInputTokenized → Nat → LlamaBatch →
    Except String LlamaBatch
  | [], _, batch => .ok batch
  | input :: inputs, sequenceIndex, batch =>
    if i32Max < sequenceIndex then .error "sequence index does not fit in i32"
    else
      match batch.addSequence input.tokens sequenceIndex true requestId with
      | .error err => .error err
      | .ok batch => addSequences requestId inputs (sequenceIndex + 1) batch

/-- The loop of `embedding_batch_decode` over the documents of batch `batchNumber`. -/
def sendEmbeddings (ctx : ContinuousBatchSchedulerContext C) (answers : EmbeddingAnswers)
    (normalizationMethod : EmbeddingNormalizationMethod) (batchNumber : Nat) :
    List EmbeddingInputTokenized → Nat → Sender EmbeddingResult →
      Except String Unit × Sender EmbeddingResult
  | [], _, tx => (.ok (), tx)
  | input :: inputs, index, tx =>
    if i32Max < index then (.error "embedding sequence index does not fit in i32", tx)
    else
      match answers.embeddingsSeqIth batchNumber index with
      | .error _ => (.error "Failed to get embeddings", tx)
      | .ok values =>
        match normalizeEmbedding answers
            ⟨values, .none, ctx.inferenceParameters.poolingType, input.id⟩ normalizationMethod with
        | .error err => (.error err, tx)
        | .ok embedding =>
          match tx.send (.embedding embedding) with
          | (false, tx) => (.error "channel closed", tx)
          | (true, tx) =>
            sendEmbeddings ctx answers normalizationMethod batchNumber inputs (index + 1) tx

/-- `embedding_batch_decode`: the cache is cleared before the decode, not after it. -/
def embeddingBatchDecode (ctx : ContinuousBatchSchedulerContext C) (answers : EmbeddingAnswers)
    (normalizationMethod : EmbeddingNormalizationMethod) (batchNumber : Nat) (batch : LlamaBatch)
    (inputs : List EmbeddingInputTokenized) (tx : Sender EmbeddingResult) (llama : LlamaContext) :
    Except String LlamaBatch × Sender EmbeddingResult × LlamaContext :=
  let llama := llama.clearKvCache.decode batch (answers.decode batchNumber)
  match answers.decode batchNumber with
  | .error _ => (.error "decode failed", tx, llama)
  | .ok () =>
    match sendEmbeddings ctx answers normalizationMethod batchNumber inputs 0 tx with
    | (.error err, tx) => (.error err, tx, llama)
    | (.ok (), tx) => (.ok batch.clear, tx, llama)

/-- The loop over the planned batches, at batch `batchNumber`. -/
def decodePlannedBatches (ctx : ContinuousBatchSchedulerContext C) (answers : EmbeddingAnswers)
    (normalizationMethod : EmbeddingNormalizationMethod) (within : List EmbeddingInputTokenized) :
    List (Nat × Nat) → Nat → LlamaBatch → Nat → Sender EmbeddingResult → LlamaContext →
      Except String Nat × Sender EmbeddingResult × LlamaContext
  | [], _, _, embeddingsEmitted, tx, llama => (.ok embeddingsEmitted, tx, llama)
  | range :: ranges, batchNumber, batch, embeddingsEmitted, tx, llama =>
    if answers.stop batchNumber = .received then (.ok embeddingsEmitted, tx, llama)
    else
      match addSequences tx.id (rangeOf range within) 0 batch with
      | .error err => (.error err, tx, llama)
      | .ok batch =>
        match embeddingBatchDecode ctx answers normalizationMethod batchNumber batch
            (rangeOf range within) tx llama with
        | (.error err, tx, llama) => (.error err, tx, llama)
        | (.ok batch, tx, llama) =>
          decodePlannedBatches ctx answers normalizationMethod within ranges (batchNumber + 1) batch
            (embeddingsEmitted + (rangeOf range within).length) tx llama

/-- `process_embedding_batch` from the documents that fit on. -/
def processWithin (ctx : ContinuousBatchSchedulerContext C) (answers : EmbeddingAnswers)
    (normalizationMethod : EmbeddingNormalizationMethod) (within : List EmbeddingInputTokenized)
    (tx : Sender EmbeddingResult) (llama : LlamaContext) :
    Except String Unit × Sender EmbeddingResult × LlamaContext :=
  let nBatch := ctx.inferenceParameters.nBatch
  let plannedBatches := planEmbeddingBatches (within.map (·.tokens.length)) nBatch
    ctx.desiredSlotsTotal
  match LlamaBatch.new nBatch with
  | .error err => (.error err, tx, llama)
  | .ok batch =>
    match decodePlannedBatches ctx answers normalizationMethod within plannedBatches 0 batch 0 tx
        llama with
    | (.error err, tx, llama) => (.error err, tx, llama)
    | (.ok embeddingsEmitted, tx, llama) =>
      let result := if embeddingsEmitted = 0 then .noEmbeddingsProduced else .done
      match tx.send result with
      | (false, tx) => (.error "channel closed", tx, llama)
      | (true, tx) => (.ok (), tx, llama)

def processEmbeddingBatch (ctx : ContinuousBatchSchedulerContext C) (answers : EmbeddingAnswers)
    (request : GenerateEmbeddingBatchRequest) (llama : LlamaContext) :
    Except String Unit × Sender EmbeddingResult × LlamaContext :=
  let tx := request.generatedEmbeddingTx
  if !ctx.inferenceParameters.enableEmbeddings then
    match tx.send .embeddingsDisabled with
    | (false, tx) => (.error "channel closed", tx, llama)
    | (true, tx) => (.error "Embeddings are not enabled", tx, llama)
  else
    match tokenizeInputBatch answers request.inputBatch with
    | .error err => (.error err, tx, llama)
    | .ok inputs =>
      match rejectOversized ctx.inferenceParameters.nBatch inputs tx with
      | (.error err, tx) => (.error err, tx, llama)
      | (.ok within, tx) =>
        processWithin ctx answers request.normalizationMethod within tx llama

/-! ## Planned batches fit -/

/-- A range within both limits of a batch. -/
def FitsBatch (tokenCounts : List Nat) (nBatch : Nat) (maxSequencesPerBatch : Int)
    (range : Nat × Nat) : Prop :=
  (rangeOf range tokenCounts).sum ≤ nBatch ∧
    ((rangeOf range tokenCounts).length : Int) ≤ max 1 maxSequencesPerBatch

theorem rangeOf_append {α : Type} (before current after : List α) :
    rangeOf (before.length, before.length + current.length) (before ++ current ++ after) =
      current := by
  simp [rangeOf, List.append_assoc]

/-- The loop invariant: `before` is planned, `current` waits for its batch. -/
theorem planEmbeddingBatchesFrom_fits (nBatch : Nat) (maxSequences : Int) :
    ∀ (rest before current : List Nat), (∀ n ∈ rest, n ≤ nBatch) → current.sum ≤ nBatch →
      (current.length : Int) ≤ max 1 maxSequences →
      ∀ range ∈ planEmbeddingBatchesFrom nBatch maxSequences rest
          (before.length + current.length) before.length current.sum current.length,
        FitsBatch (before ++ current ++ rest) nBatch maxSequences range
  | [], before, current, _, hsum, hlen, range, hrange => by
    unfold planEmbeddingBatchesFrom at hrange
    split at hrange
    · simp only [List.mem_singleton] at hrange
      subst hrange
      unfold FitsBatch
      rw [rangeOf_append]
      exact ⟨hsum, hlen⟩
    · cases hrange
  | n :: rest, before, current, hall, hsum, hlen, range, hrange => by
    have hn : n ≤ nBatch := hall n (List.mem_cons_self ..)
    have hrest : ∀ m ∈ rest, m ≤ nBatch := fun m hm => hall m (List.mem_cons_of_mem _ hm)
    unfold planEmbeddingBatchesFrom at hrange
    split at hrange
    · rcases List.mem_cons.mp hrange with rfl | hrange
      · unfold FitsBatch
        rw [rangeOf_append]
        exact ⟨hsum, hlen⟩
      · have ih := planEmbeddingBatchesFrom_fits nBatch maxSequences rest
          (before ++ current) [n] hrest
          (by simpa using hn) (by show ((1 : Nat) : Int) ≤ _; omega) range
        simp only [List.length_append, List.length_singleton, List.sum_singleton] at ih
        simpa [List.append_assoc] using ih hrange
    · rename_i hkeep
      have hsum' : current.sum + n ≤ nBatch ∧ (current.length : Int) + 1 ≤ max 1 maxSequences := by
        by_cases hpos : (0 : Int) < current.length
        · have hnot : ¬ (nBatch < current.sum + n ∨ maxSequences ≤ current.length) :=
            fun h => hkeep ⟨h, hpos⟩
          omega
        · have hnil : current = [] := List.length_eq_zero_iff.mp (by omega)
          subst hnil
          simp only [List.sum_nil, List.length_nil]
          omega
      have ih := planEmbeddingBatchesFrom_fits nBatch maxSequences rest before
        (current ++ [n]) hrest
        (by simpa using hsum'.1) (by simpa using hsum'.2) range
      simp only [List.length_append, List.length_singleton, List.sum_append, List.sum_singleton,
        ← Nat.add_assoc, Int.natCast_add] at ih
      simpa [List.append_assoc] using ih hrange

/-- **Every planned batch fits**, provided every document does. -/
theorem planEmbeddingBatches_fits {tokenCounts : List Nat} {nBatch : Nat} {maxSequences : Int}
    (h : ∀ n ∈ tokenCounts, n ≤ nBatch) :
    ∀ range ∈ planEmbeddingBatches tokenCounts nBatch maxSequences,
      FitsBatch tokenCounts nBatch maxSequences range := by
  have := planEmbeddingBatchesFrom_fits nBatch maxSequences tokenCounts [] [] h (Nat.zero_le _)
    (by show ((0 : Nat) : Int) ≤ _; omega)
  simpa [planEmbeddingBatches] using this

/-! ## What is sent for a request -/

theorem rejectOversized_spec (nBatch : Nat) :
    ∀ (inputs : List EmbeddingInputTokenized) (tx tx' : Sender EmbeddingResult)
      (result : Except String (List EmbeddingInputTokenized)),
      rejectOversized nBatch inputs tx = (result, tx') →
      tx.Quiet EmbeddingResult.isDone tx' ∧
      (tx.receiverDropsAfter = none → nBatch ≤ u32Max →
        (∀ input ∈ inputs, nBatch < input.tokens.length → input.tokens.length ≤ u32Max) →
        result = .ok (inputs.filter fun input => decide (input.tokens.length ≤ nBatch)))
  | [], tx, tx', result, h => by
    cases h
    exact ⟨Sender.Quiet.refl _ tx, by simp⟩
  | input :: inputs, tx, tx', result, h => by
    rw [rejectOversized] at h
    by_cases hbig : nBatch < input.tokens.length
    · rw [if_pos hbig] at h
      have hdrop : (input :: inputs).filter (fun i => decide (i.tokens.length ≤ nBatch)) =
          inputs.filter fun i => decide (i.tokens.length ≤ nBatch) :=
        List.filter_cons_of_neg (by simpa using hbig)
      split at h
      · rename_i hu
        cases h
        refine ⟨Sender.Quiet.refl _ tx, fun _ _ hall => ?_⟩
        have := hall input (List.mem_cons_self ..) hbig
        omega
      · split at h
        · cases h
          exact ⟨Sender.Quiet.refl _ tx, fun _ _ _ => by omega⟩
        · split at h
          · rename_i tx₁ hsend
            cases h
            refine ⟨Sender.send_quiet hsend rfl, fun halive => ?_⟩
            rw [Sender.send_of_alive halive] at hsend
            cases hsend
          · rename_i tx₁ hsend
            obtain ⟨hquiet, hok⟩ := rejectOversized_spec nBatch inputs tx₁ tx' result h
            have hq : tx.Quiet EmbeddingResult.isDone tx₁ := Sender.send_quiet hsend rfl
            refine ⟨hq.trans hquiet, fun halive hn hall => ?_⟩
            rw [hdrop]
            exact hok (hq.alive.mpr halive) hn fun i hi => hall i (List.mem_cons_of_mem _ hi)
    · rw [if_neg hbig] at h
      have hkeep : (input :: inputs).filter (fun i => decide (i.tokens.length ≤ nBatch)) =
          input :: inputs.filter fun i => decide (i.tokens.length ≤ nBatch) :=
        List.filter_cons_of_pos (by simpa using hbig)
      split at h
      · rename_i err tx₁ hrest
        cases h
        obtain ⟨hquiet, hok⟩ := rejectOversized_spec nBatch inputs tx _ _ hrest
        refine ⟨hquiet, fun halive hn hall => ?_⟩
        have := hok halive hn fun i hi => hall i (List.mem_cons_of_mem _ hi)
        cases this
      · rename_i within tx₁ hrest
        cases h
        obtain ⟨hquiet, hok⟩ := rejectOversized_spec nBatch inputs tx _ _ hrest
        refine ⟨hquiet, fun halive hn hall => ?_⟩
        have := hok halive hn fun i hi => hall i (List.mem_cons_of_mem _ hi)
        rw [hkeep, Except.ok.inj this]

theorem addSequences_ok (requestId : Nat) :
    ∀ (inputs : List EmbeddingInputTokenized) (sequenceIndex : Nat) (batch : LlamaBatch),
      batch.tokens.length + (inputs.map (·.tokens.length)).sum ≤ batch.capacity →
      sequenceIndex + inputs.length ≤ i32Max + 1 →
      ∃ tokens, addSequences requestId inputs sequenceIndex batch =
        .ok { batch with tokens := tokens }
  | [], _, batch, _, _ => ⟨batch.tokens, rfl⟩
  | input :: inputs, sequenceIndex, batch, hroom, hidx => by
    simp only [List.map_cons, List.sum_cons, List.length_cons] at hroom hidx
    obtain ⟨tokens, ht⟩ : ∃ tokens, batch.addSequence input.tokens sequenceIndex true requestId =
        .ok { batch with tokens := tokens } ∧
        tokens.length = batch.tokens.length + input.tokens.length := by
      refine ⟨_, by rw [LlamaBatch.addSequence, if_pos (by omega)], by simp⟩
    rw [addSequences, if_neg (by omega), ht.1]
    exact addSequences_ok requestId inputs (sequenceIndex + 1) _ (by dsimp only; omega) (by omega)

/-- The bindings return an embedding for document `index` of the batch, and it normalizes. -/
def EmbeddingReady (ctx : ContinuousBatchSchedulerContext C) (answers : EmbeddingAnswers)
    (normalizationMethod : EmbeddingNormalizationMethod) (batchNumber index : Nat)
    (input : EmbeddingInputTokenized) : Prop :=
  ∃ values embedding, answers.embeddingsSeqIth batchNumber index = .ok values ∧
    normalizeEmbedding answers ⟨values, .none, ctx.inferenceParameters.poolingType, input.id⟩
      normalizationMethod = .ok embedding

theorem sendEmbeddings_spec (ctx : ContinuousBatchSchedulerContext C) (answers : EmbeddingAnswers)
    (method : EmbeddingNormalizationMethod) (batchNumber : Nat) :
    ∀ (inputs : List EmbeddingInputTokenized) (index : Nat) (tx tx' : Sender EmbeddingResult)
      (result : Except String Unit),
      sendEmbeddings ctx answers method batchNumber inputs index tx = (result, tx') →
      tx.Quiet EmbeddingResult.isDone tx' ∧
      (tx.receiverDropsAfter = none → index + inputs.length ≤ i32Max + 1 →
        (∀ (i : Nat) (input : EmbeddingInputTokenized), inputs[i]? = some input →
          EmbeddingReady ctx answers method batchNumber (index + i) input) →
        result = .ok ())
  | [], index, tx, tx', result, h => by
    cases h
    exact ⟨Sender.Quiet.refl _ tx, fun _ _ _ => rfl⟩
  | input :: inputs, index, tx, tx', result, h => by
    have hhead : (∀ (i : Nat) (x : EmbeddingInputTokenized), (input :: inputs)[i]? = some x →
        EmbeddingReady ctx answers method batchNumber (index + i) x) →
        EmbeddingReady ctx answers method batchNumber index input :=
      fun hall => hall 0 input rfl
    rw [sendEmbeddings] at h
    split at h
    · cases h
      exact ⟨Sender.Quiet.refl _ tx, fun _ hlen _ => by simp at hlen; omega⟩
    · split at h
      · rename_i message hseq
        cases h
        refine ⟨Sender.Quiet.refl _ tx, fun _ _ hall => ?_⟩
        obtain ⟨values, e, hv, -⟩ := hhead hall
        rw [hseq] at hv
        cases hv
      · rename_i values hseq
        split at h
        · rename_i err hnorm
          cases h
          refine ⟨Sender.Quiet.refl _ tx, fun _ _ hall => ?_⟩
          obtain ⟨values', e, hv, he⟩ := hhead hall
          rw [hseq] at hv
          cases hv
          rw [hnorm] at he
          cases he
        · rename_i embedding hnorm
          split at h
          · rename_i tx₁ hsend
            cases h
            refine ⟨Sender.send_quiet hsend rfl, fun halive => ?_⟩
            rw [Sender.send_of_alive halive] at hsend
            cases hsend
          · rename_i tx₁ hsend
            have hq : tx.Quiet EmbeddingResult.isDone tx₁ := Sender.send_quiet hsend rfl
            obtain ⟨hquiet, hok⟩ :=
              sendEmbeddings_spec ctx answers method batchNumber inputs (index + 1) tx₁ tx' result h
            refine ⟨hq.trans hquiet, fun halive hlen hall => ?_⟩
            refine hok (hq.alive.mpr halive) (by simp at hlen; omega) fun i x hx => ?_
            have := hall (i + 1) x (by simpa using hx)
            rwa [show index + (i + 1) = index + 1 + i by omega] at this

/-- The planned batches from `batchNumber` on are served: up to a stop request every decode
succeeds and every embedding can be read and normalized. -/
def BatchesServed (ctx : ContinuousBatchSchedulerContext C) (answers : EmbeddingAnswers)
    (method : EmbeddingNormalizationMethod) (within : List EmbeddingInputTokenized) :
    List (Nat × Nat) → Nat → Prop
  | [], _ => True
  | range :: ranges, batchNumber =>
    answers.stop batchNumber = .received ∨
      (answers.decode batchNumber = .ok () ∧
        (∀ (i : Nat) (input : EmbeddingInputTokenized), (rangeOf range within)[i]? = some input →
          EmbeddingReady ctx answers method batchNumber i input) ∧
        BatchesServed ctx answers method within ranges (batchNumber + 1))

theorem rangeOf_map {α β : Type} (f : α → β) (range : Nat × Nat) (xs : List α) :
    rangeOf range (xs.map f) = (rangeOf range xs).map f := by
  simp [rangeOf, List.map_take, List.map_drop]

/-- The documents of a range that fits are added to an empty batch. -/
theorem addSequences_of_fits (ctx : ContinuousBatchSchedulerContext C) (requestId : Nat)
    {within : List EmbeddingInputTokenized} {batch : LlamaBatch} {range : Nat × Nat}
    (hempty : batch.tokens = [])
    (hfits : FitsBatch (within.map (·.tokens.length)) batch.capacity ctx.desiredSlotsTotal range) :
    (rangeOf range within).length ≤ i32Max ∧ ∃ tokens,
      addSequences requestId (rangeOf range within) 0 batch =
        .ok { batch with tokens := tokens } := by
  obtain ⟨hsum, hlen⟩ := hfits
  rw [rangeOf_map] at hsum hlen
  have hi32 : (rangeOf range within).length ≤ i32Max := by
    have := ctx.desiredSlotsTotal_le
    have hone : (1 : Int) ≤ i32Max := by decide
    rw [List.length_map] at hlen
    omega
  exact ⟨hi32, addSequences_ok requestId _ 0 batch (by simpa [hempty] using hsum) (by omega)⟩

theorem decodePlannedBatches_spec (ctx : ContinuousBatchSchedulerContext C)
    (answers : EmbeddingAnswers) (method : EmbeddingNormalizationMethod)
    (within : List EmbeddingInputTokenized) :
    ∀ (ranges : List (Nat × Nat)) (batchNumber : Nat) (batch : LlamaBatch) (emitted : Nat)
      (tx tx' : Sender EmbeddingResult) (llama llama' : LlamaContext) (result : Except String Nat),
      decodePlannedBatches ctx answers method within ranges batchNumber batch emitted tx llama =
        (result, tx', llama') →
      tx.Quiet EmbeddingResult.isDone tx' ∧
      (tx.receiverDropsAfter = none → batch.tokens = [] →
        (∀ range ∈ ranges, FitsBatch (within.map (·.tokens.length)) batch.capacity
          ctx.desiredSlotsTotal range) →
        BatchesServed ctx answers method within ranges batchNumber → ∃ n, result = .ok n)
  | [], batchNumber, batch, emitted, tx, tx', llama, llama', result, h => by
    cases h
    exact ⟨Sender.Quiet.refl _ tx, fun _ _ _ _ => ⟨emitted, rfl⟩⟩
  | range :: ranges, batchNumber, batch, emitted, tx, tx', llama, llama', result, h => by
    rw [decodePlannedBatches] at h
    split at h
    · cases h
      exact ⟨Sender.Quiet.refl _ tx, fun _ _ _ _ => ⟨emitted, rfl⟩⟩
    · rename_i hstop
      have hadd : batch.tokens = [] → (∀ planned ∈ range :: ranges,
          FitsBatch (within.map (·.tokens.length)) batch.capacity ctx.desiredSlotsTotal planned) →
          (rangeOf range within).length ≤ i32Max ∧ ∃ tokens,
            addSequences tx.id (rangeOf range within) 0 batch =
              .ok { batch with tokens := tokens } :=
        fun hnil hfits => addSequences_of_fits ctx tx.id hnil (hfits range (List.mem_cons_self ..))
      split at h
      · rename_i err herr
        cases h
        refine ⟨Sender.Quiet.refl _ tx, fun _ hnil hfits _ => ?_⟩
        obtain ⟨-, tokens, hok⟩ := hadd hnil hfits
        rw [herr] at hok
        cases hok
      · rename_i batch₁ hbatch
        unfold embeddingBatchDecode at h
        dsimp only at h
        cases hdec : answers.decode batchNumber with
        | error err =>
          simp only [hdec] at h
          cases h
          refine ⟨Sender.Quiet.refl _ tx, fun _ _ _ hserved => ?_⟩
          rcases hserved with hs | ⟨hd, -⟩
          · exact absurd hs hstop
          · rw [hdec] at hd
            cases hd
        | ok u =>
          simp only [hdec] at h
          cases hsend : sendEmbeddings ctx answers method batchNumber
            (rangeOf range within) 0 tx with
          | mk sent tx₁ =>
          obtain ⟨hq, hok⟩ := sendEmbeddings_spec ctx answers method batchNumber _ 0 tx
            tx₁ sent hsend
          simp only [hsend] at h
          cases sent with
          | error err =>
            cases h
            refine ⟨hq, fun halive hnil hfits hserved => ?_⟩
            rcases hserved with hs | ⟨-, hready, -⟩
            · exact absurd hs hstop
            · have := hok halive (by have := (hadd hnil hfits).1; omega)
                fun i x hx => by simpa using hready i x hx
              cases this
          | ok u =>
            obtain ⟨hquiet, hrest⟩ := decodePlannedBatches_spec ctx answers method within ranges
              (batchNumber + 1) _ _ tx₁ tx' _ llama' result h
            refine ⟨hq.trans hquiet, fun halive hnil hfits hserved => ?_⟩
            obtain ⟨-, tokens, hbatch'⟩ := hadd hnil hfits
            rw [hbatch] at hbatch'
            cases hbatch'
            rcases hserved with hs | ⟨-, -, hserved⟩
            · exact absurd hs hstop
            · exact hrest (hq.alive.mpr halive) rfl
                (fun range' hr => hfits range' (List.mem_cons_of_mem _ hr)) hserved

/-- No `?` of `process_embedding_batch` other than that of a send is taken for this request. -/
def EmbeddingServed (ctx : ContinuousBatchSchedulerContext C) (answers : EmbeddingAnswers)
    (request : GenerateEmbeddingBatchRequest) : Prop :=
  let nBatch := ctx.inferenceParameters.nBatch
  ctx.inferenceParameters.enableEmbeddings = true →
    nBatch ≤ i32Max ∧ ∃ inputs, tokenizeInputBatch answers request.inputBatch = .ok inputs ∧
      (∀ input ∈ inputs, nBatch < input.tokens.length → input.tokens.length ≤ u32Max) ∧
      BatchesServed ctx answers request.normalizationMethod
        (inputs.filter fun input => decide (input.tokens.length ≤ nBatch))
        (planEmbeddingBatches ((inputs.filter fun input =>
          decide (input.tokens.length ≤ nBatch)).map (·.tokens.length)) nBatch
          ctx.desiredSlotsTotal) 0

theorem processWithin_sent {ctx : ContinuousBatchSchedulerContext C} {answers : EmbeddingAnswers}
    {method : EmbeddingNormalizationMethod} {within : List EmbeddingInputTokenized}
    {tx tx' : Sender EmbeddingResult} {llama llama' : LlamaContext} {result : Except String Unit}
    (h : processWithin ctx answers method within tx llama = (result, tx', llama')) :
    (tx.Quiet EmbeddingResult.isDone tx' ∨ tx.Terminated EmbeddingResult.isDone tx') ∧
    (tx.receiverDropsAfter = none → ctx.inferenceParameters.nBatch ≤ i32Max →
      (∀ input ∈ within, input.tokens.length ≤ ctx.inferenceParameters.nBatch) →
      BatchesServed ctx answers method within (planEmbeddingBatches (within.map (·.tokens.length))
        ctx.inferenceParameters.nBatch ctx.desiredSlotsTotal) 0 →
      tx.Terminated EmbeddingResult.isDone tx') := by
  unfold processWithin at h
  dsimp only at h
  split at h
  · rename_i err hnew
    cases h
    refine ⟨Or.inl (Sender.Quiet.refl _ tx), fun _ hn => ?_⟩
    simp [LlamaBatch.new, Nat.not_lt.mpr hn] at hnew
  · rename_i batch hnew
    obtain ⟨hn, rfl⟩ := LlamaBatch.new_ok hnew
    cases hrun : decodePlannedBatches ctx answers method within (planEmbeddingBatches
        (within.map (·.tokens.length)) ctx.inferenceParameters.nBatch ctx.desiredSlotsTotal) 0
        ⟨ctx.inferenceParameters.nBatch, []⟩ 0 tx llama with
    | mk sent rest =>
    obtain ⟨tx₁, llama₁⟩ := rest
    obtain ⟨hq, hok⟩ := decodePlannedBatches_spec ctx answers method within _ 0 _ 0 tx tx₁ llama
      llama₁ sent hrun
    have hfits : (∀ input ∈ within, input.tokens.length ≤ ctx.inferenceParameters.nBatch) →
        ∀ range ∈ planEmbeddingBatches (within.map (·.tokens.length))
          ctx.inferenceParameters.nBatch ctx.desiredSlotsTotal,
          FitsBatch (within.map (·.tokens.length)) ctx.inferenceParameters.nBatch
            ctx.desiredSlotsTotal range := by
      intro hwithin
      refine planEmbeddingBatches_fits fun n hnm => ?_
      obtain ⟨input, hi, rfl⟩ := List.mem_map.mp hnm
      exact hwithin input hi
    simp only [hrun] at h
    cases sent with
    | error err =>
      cases h
      refine ⟨Or.inl hq, fun halive _ hwithin hserved => ?_⟩
      obtain ⟨n, hn⟩ := hok halive rfl (hfits hwithin) hserved
      cases hn
    | ok emitted =>
      have hdone : EmbeddingResult.isDone
          (if emitted = 0 then .noEmbeddingsProduced else .done) = true := by
        split <;> rfl
      cases hsend : tx₁.send (if emitted = 0 then .noEmbeddingsProduced else .done) with
      | mk delivered tx₂ =>
      have hcases := Sender.send_terminated hsend hdone
      have htx : tx' = tx₂ := by
        simp only [hsend] at h
        cases delivered <;> cases h <;> rfl
      subst htx
      rcases hcases with hterm | ⟨heq, -, hgone⟩
      · exact ⟨Or.inr (hq.terminated hterm), fun _ _ _ _ => hq.terminated hterm⟩
      · rw [heq]
        exact ⟨Or.inl hq, fun halive => absurd (hq.alive.mpr halive) hgone⟩

/-- **The stream of one embedding request**: no terminal result before the last one, and a terminal
last one when every answer is served and the receiver is alive. -/
theorem processEmbeddingBatch_sent {ctx : ContinuousBatchSchedulerContext C}
    {answers : EmbeddingAnswers} {request : GenerateEmbeddingBatchRequest}
    {tx' : Sender EmbeddingResult} {llama llama' : LlamaContext} {result : Except String Unit}
    (h : processEmbeddingBatch ctx answers request llama = (result, tx', llama')) :
    (request.generatedEmbeddingTx.Quiet EmbeddingResult.isDone tx' ∨
      request.generatedEmbeddingTx.Terminated EmbeddingResult.isDone tx') ∧
    (request.generatedEmbeddingTx.receiverDropsAfter = none → EmbeddingServed ctx answers request →
      request.generatedEmbeddingTx.Terminated EmbeddingResult.isDone tx') := by
  unfold processEmbeddingBatch at h
  dsimp only at h
  split at h
  · rename_i hdisabled
    cases hsend : request.generatedEmbeddingTx.send .embeddingsDisabled with
    | mk delivered tx₁ =>
    have htx : tx' = tx₁ := by
      simp only [hsend] at h
      cases delivered <;> cases h <;> rfl
    subst htx
    have hdone : EmbeddingResult.isDone .embeddingsDisabled = true := rfl
    rcases Sender.send_terminated hsend hdone with hterm | ⟨heq, -, hgone⟩
    · exact ⟨Or.inr hterm, fun _ _ => hterm⟩
    · rw [heq]
      exact ⟨Or.inl (Sender.Quiet.refl _ _), fun halive => absurd halive hgone⟩
  · rename_i henabled
    have henabled' : ctx.inferenceParameters.enableEmbeddings = true := by simpa using henabled
    split at h
    · rename_i err htok
      cases h
      refine ⟨Or.inl (Sender.Quiet.refl _ _), fun _ hserved => ?_⟩
      obtain ⟨-, inputs, hin, -⟩ := hserved henabled'
      rw [htok] at hin
      cases hin
    · rename_i inputs htok
      split at h
      · rename_i err tx₁ hrej
        cases h
        obtain ⟨hq, hok⟩ := rejectOversized_spec _ _ _ _ _ hrej
        refine ⟨Or.inl hq, fun halive hserved => ?_⟩
        obtain ⟨hn, inputs', hin, hbig, -⟩ := hserved henabled'
        rw [htok] at hin
        cases hin
        have hu32 : i32Max ≤ u32Max := by decide
        have := hok halive (Nat.le_trans hn hu32) hbig
        cases this
      · rename_i within tx₁ hrej
        obtain ⟨hq, hok⟩ := rejectOversized_spec _ _ _ _ _ hrej
        obtain ⟨hcases, hterm⟩ := processWithin_sent h
        constructor
        · rcases hcases with hcases | hcases
          · exact Or.inl (hq.trans hcases)
          · exact Or.inr (hq.terminated hcases)
        · intro halive hserved
          obtain ⟨hn, inputs', hin, hbig, hbatches⟩ := hserved henabled'
          rw [htok] at hin
          cases hin
          have hu32 : i32Max ≤ u32Max := by decide
          have hwithin := Except.ok.inj (hok halive (Nat.le_trans hn hu32) hbig)
          subst hwithin
          refine hq.terminated (hterm (hq.alive.mpr halive) hn (fun input hi => ?_) hbatches)
          simpa using (List.mem_filter.mp hi).2

/-! ## What is left in the KV cache -/

/-- No token of the first planned batch of the request is processed: embeddings are disabled, a
document cannot be tokenized, no document fits, the client stopped, or the decode fails at once. -/
def FirstBatchNotProcessed (ctx : ContinuousBatchSchedulerContext C) (answers : EmbeddingAnswers)
    (request : GenerateEmbeddingBatchRequest) : Prop :=
  ctx.inferenceParameters.enableEmbeddings = false ∨
  (∃ err, tokenizeInputBatch answers request.inputBatch = .error err) ∨
  (∀ inputs, tokenizeInputBatch answers request.inputBatch = .ok inputs →
    ∀ input ∈ inputs, ctx.inferenceParameters.nBatch < input.tokens.length) ∨
  answers.stop 0 = .received ∨ ∃ error, answers.decode 0 = .error error ∧ error.processed = 0

theorem decodePlannedBatches_kvCells (ctx : ContinuousBatchSchedulerContext C)
    {answers : EmbeddingAnswers} (method : EmbeddingNormalizationMethod)
    (within : List EmbeddingInputTokenized) {ranges : List (Nat × Nat)} (batch : LlamaBatch)
    (tx : Sender EmbeddingResult) (llama : LlamaContext)
    (h : ranges = [] ∨ answers.stop 0 = .received ∨
      ∃ error, answers.decode 0 = .error error ∧ error.processed = 0) :
    (decodePlannedBatches ctx answers method within ranges 0 batch 0 tx llama).2.2.kvCells ⊆
      llama.kvCells := by
  cases ranges with
  | nil => exact fun _ h => h
  | cons range ranges =>
    rw [decodePlannedBatches]
    split
    · exact fun _ h => h
    · rename_i hstop
      split
      · exact fun _ h => h
      · rename_i batch₁ _
        obtain ⟨error, hdecode, hnone⟩ : ∃ error, answers.decode 0 = .error error ∧
            error.processed = 0 := by
          rcases h with h | h | h
          · cases h
          · exact absurd h hstop
          · exact h
        simp [embeddingBatchDecode, hdecode, LlamaContext.decode, hnone]

theorem rejectOversized_ok {nBatch : Nat} :
    ∀ {inputs within : List EmbeddingInputTokenized} {tx tx' : Sender EmbeddingResult},
      rejectOversized nBatch inputs tx = (.ok within, tx') →
      within = inputs.filter fun input => decide (input.tokens.length ≤ nBatch)
  | [], _, _, _, h => by
    cases h
    rfl
  | input :: inputs, within, tx, tx', h => by
    rw [rejectOversized] at h
    split at h
    · rename_i hbig
      rw [List.filter_cons_of_neg (by simpa using hbig)]
      split at h
      · cases h
      · split at h
        · cases h
        · split at h
          · cases h
          · exact rejectOversized_ok h
    · rename_i hbig
      rw [List.filter_cons_of_pos (by simpa using hbig)]
      split at h
      · cases h
      · rename_i rest tx₁ hrest
        cases h
        rw [rejectOversized_ok hrest]

/-- **A request whose first batch is not processed** leaves no new cells behind. -/
theorem processEmbeddingBatch_kvCells {ctx : ContinuousBatchSchedulerContext C}
    {answers : EmbeddingAnswers} {request : GenerateEmbeddingBatchRequest} {llama : LlamaContext}
    (h : FirstBatchNotProcessed ctx answers request) :
    (processEmbeddingBatch ctx answers request llama).2.2.kvCells ⊆ llama.kvCells := by
  unfold processEmbeddingBatch
  dsimp only
  split
  · split <;> exact fun _ h => h
  · rename_i henabled
    split
    · exact fun _ h => h
    · rename_i inputs htok
      split
      · exact fun _ h => h
      · rename_i within tx₁ hrej
        have hwithin := rejectOversized_ok hrej
        unfold processWithin
        dsimp only
        split
        · exact fun _ h => h
        · rename_i batch _
          have hfirst : planEmbeddingBatches (within.map (·.tokens.length))
              ctx.inferenceParameters.nBatch ctx.desiredSlotsTotal = [] ∨
              answers.stop 0 = .received ∨
              ∃ error, answers.decode 0 = .error error ∧ error.processed = 0 := by
            rcases h with h | ⟨err, h⟩ | h | h
            · simp [h] at henabled
            · rw [htok] at h
              cases h
            · have hnil : within = [] := by
                rw [hwithin, List.filter_eq_nil_iff]
                intro input hi
                simpa using h inputs htok input hi
              rw [hnil]
              exact Or.inl rfl
            · exact Or.inr h
          have hcells := decodePlannedBatches_kvCells ctx request.normalizationMethod within batch
            tx₁ llama hfirst
          cases hrun : decodePlannedBatches ctx answers request.normalizationMethod within
              (planEmbeddingBatches (within.map (·.tokens.length))
                ctx.inferenceParameters.nBatch ctx.desiredSlotsTotal) 0 batch 0 tx₁ llama with
          | mk sent rest =>
          rw [hrun] at hcells
          cases sent with
          | error err => exact hcells
          | ok emitted =>
            dsimp only
            split <;> exact hcells

end Paddler
