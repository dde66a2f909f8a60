import Paddler.Agent.PlanEmbeddingBatches
import Paddler.Agent.Scheduler

/-!
# The results of an embedding request, one by one

What `process_embedding_batch` sends for a request when llama.cpp makes no error: the documents that
are too long are reported, the others get the embedding of their own tokens, in their order, and one
terminal result ends the stream.

* `addSequences_sequenceTokens` — the tokens of document `i` of a batch are on sequence `i`.
* `decodePlannedBatches_sendAll` — the batches before the first stop request are answered, document
  by document.
* `processEmbeddingBatch_answers` — **every document is answered once**, and a stop request ends the
  embeddings.
* `processEmbeddingBatch_tooLong` — the exception: RMS normalization refuses an embedding of more
  than 65535 components, and the request ends without a terminal result.
-/

set_option autoImplicit false

namespace Paddler

variable {C : Type}

/-! ## Sending a list -/

/-- The results are sent one after the other, up to the first that is lost. -/
def Sender.sendAll {α : Type} : List α → Sender α → Except String Unit × Sender α
  | [], tx => (.ok (), tx)
  | result :: results, tx =>
    match tx.send result with
    | (false, tx) => (.error "channel closed", tx)
    | (true, tx) => Sender.sendAll results tx

theorem Sender.sendAll_append {α : Type} (results' : List α) :
    ∀ (results : List α) (tx : Sender α),
      Sender.sendAll (results ++ results') tx =
        match Sender.sendAll results tx with
        | (.error err, tx) => (.error err, tx)
        | (.ok (), tx) => Sender.sendAll results' tx
  | [], _ => rfl
  | result :: results, tx => by
    rw [List.cons_append, Sender.sendAll, Sender.sendAll]
    cases hsend : tx.send result with
    | mk delivered tx₁ =>
      cases delivered with
      | false => rfl
      | true => exact Sender.sendAll_append results' results tx₁

theorem Sender.sendAll_id {α : Type} : ∀ (results : List α) (tx : Sender α),
    (Sender.sendAll results tx).2.id = tx.id
  | [], _ => rfl
  | result :: results, tx => by
    rw [Sender.sendAll]
    cases hsend : tx.send result with
    | mk delivered tx₁ =>
      have hid := tx.send_id result
      rw [hsend] at hid
      cases delivered with
      | false => exact hid
      | true => exact (Sender.sendAll_id results tx₁).trans hid

/-- Some of the results are delivered, the first ones; with a live receiver all of them. -/
theorem Sender.sendAll_spec {α : Type} : ∀ (results : List α) (tx : Sender α),
    (∃ delivered, delivered <+: results ∧ (Sender.sendAll results tx).2.sent = tx.sent ++
      delivered) ∧
      (tx.receiverDropsAfter = none →
        (Sender.sendAll results tx).1 = .ok () ∧ (Sender.sendAll results tx).2.sent =
          tx.sent ++ results)
  | [], tx => ⟨⟨[], List.nil_prefix, (List.append_nil _).symm⟩,
      fun _ => ⟨rfl, (List.append_nil _).symm⟩⟩
  | result :: results, tx => by
    rw [Sender.sendAll]
    cases hsend : tx.send result with
    | mk delivered tx₁ =>
    rcases Sender.send_extends hsend with ⟨rfl, hext⟩ | ⟨rfl, rfl, hgone⟩
    · obtain ⟨⟨rest, hsent', hsent⟩, hall⟩ := Sender.sendAll_spec results tx₁
      constructor
      · refine ⟨result :: rest, List.cons_prefix_cons.mpr ⟨rfl, hsent'⟩, ?_⟩
        rw [hsent, hext.sent, List.append_assoc]
        rfl
      · intro halive
        obtain ⟨hok, hsent⟩ := hall (hext.alive.mpr halive)
        refine ⟨hok, ?_⟩
        rw [hsent, hext.sent, List.append_assoc]
        rfl
    · exact ⟨⟨[], List.nil_prefix, (List.append_nil _).symm⟩, fun halive => absurd halive hgone⟩

/-! ## What is to be sent -/

/-- The components after the normalization. -/
def normalizedValues (answers : EmbeddingAnswers) (method : EmbeddingNormalizationMethod)
    (values : List UInt32) : List UInt32 :=
  match method with
  | .none => values
  | .l2 => answers.l2 values
  | .rmsNorm epsilon => if values.isEmpty then [] else answers.rmsNorm values epsilon

/-- The answer to one document, with `embed` the embedding of its tokens. -/
def documentResult (ctx : ContinuousBatchSchedulerContext C) (answers : EmbeddingAnswers)
    (embed : List LlamaToken → List UInt32) (method : EmbeddingNormalizationMethod)
    (input : EmbeddingInputTokenized) : EmbeddingResult :=
  if ctx.inferenceParameters.nBatch < input.tokens.length then
    .documentExceedsBatchSize ⟨input.tokens.length, ctx.inferenceParameters.nBatch, input.id⟩
  else
    .embedding ⟨normalizedValues answers method (embed input.tokens), method,
      ctx.inferenceParameters.poolingType, input.id⟩

/-- The planned batches before the first at which a stop request is received. -/
def servedRanges (answers : EmbeddingAnswers) : List (Nat × Nat) → Nat → List (Nat × Nat)
  | [], _ => []
  | range :: ranges, batchNumber =>
    if answers.stop batchNumber = .received then []
    else range :: servedRanges answers ranges (batchNumber + 1)

/-- The tokens that a batch has on a sequence. -/
def LlamaBatch.sequenceTokens (batch : LlamaBatch) (seqId : Int) : List LlamaToken :=
  (batch.tokens.filter fun t => t.seqId == seqId).map (·.token)

/-- `embeddings_seq_ith` returns the embedding of the tokens that were decoded on the sequence, for
every sequence of every batch before the first stop request. -/
def ReadsSequences (answers : EmbeddingAnswers) (embed : List LlamaToken → List UInt32)
    (requestId : Nat) (within : List EmbeddingInputTokenized) :
    List (Nat × Nat) → Nat → LlamaBatch → Prop
  | [], _, _ => True
  | range :: ranges, batchNumber, batch =>
    answers.stop batchNumber = .received ∨
      ∀ decoded, addSequences requestId (rangeOf range within) 0 batch = .ok decoded →
        (∀ i : Nat, i < (rangeOf range within).length →
          answers.embeddingsSeqIth batchNumber i = .ok (embed (decoded.sequenceTokens i))) ∧
        ReadsSequences answers embed requestId within ranges (batchNumber + 1) decoded.clear

/-! ## The answers of one batch -/

/-- RMS normalization takes embeddings of at most 65535 components. -/
def Normalizes (method : EmbeddingNormalizationMethod) (values : List UInt32) : Prop :=
  match method with
  | .rmsNorm _ => values.length ≤ 65535
  | _ => True

theorem normalizeEmbedding_ok {answers : EmbeddingAnswers} {method : EmbeddingNormalizationMethod}
    {values : List UInt32} (h : Normalizes method values) (poolingType : PoolingType)
    (id : String) :
    normalizeEmbedding answers ⟨values, .none, poolingType, id⟩ method =
      .ok ⟨normalizedValues answers method values, method, poolingType, id⟩ := by
  cases method with
  | none => rfl
  | l2 => rfl
  | rmsNorm epsilon =>
    have hlength : ¬ 65535 < values.length := Nat.not_lt.mpr h
    cases values with
    | nil => rfl
    | cons value values =>
      have hrms : rmsNorm answers (value :: values) epsilon =
          .ok (answers.rmsNorm (value :: values) epsilon) := by
        unfold rmsNorm
        rw [if_neg (by simp), if_neg hlength]
      simp [normalizeEmbedding, EmbeddingNormalizationMethod.canTransformTo,
        EmbeddingNormalizationMethod.needsTransformationTo, hrms, normalizedValues]

/-- The loop over a batch, where each document fits and its embedding can be read. -/
theorem sendEmbeddings_sendAll {ctx : ContinuousBatchSchedulerContext C}
    {answers : EmbeddingAnswers} {embed : List LlamaToken → List UInt32}
    {method : EmbeddingNormalizationMethod} {batchNumber : Nat}
    (hnormalizes : ∀ tokens, Normalizes method (embed tokens)) :
    ∀ (inputs : List EmbeddingInputTokenized) (index : Nat) (tx : Sender EmbeddingResult),
      index + inputs.length ≤ i32Max + 1 →
      (∀ input ∈ inputs, input.tokens.length ≤ ctx.inferenceParameters.nBatch) →
      (∀ i input, inputs[i]? = some input →
        answers.embeddingsSeqIth batchNumber (index + i) = .ok (embed input.tokens)) →
      sendEmbeddings ctx answers method batchNumber inputs index tx =
        Sender.sendAll (inputs.map (documentResult ctx answers embed method)) tx
  | [], _, _, _, _, _ => rfl
  | input :: inputs, index, tx, hindex, hfits, hreads => by
    rw [List.length_cons] at hindex
    have hread : answers.embeddingsSeqIth batchNumber index = .ok (embed input.tokens) :=
      hreads 0 input rfl
    have hfit : ¬ ctx.inferenceParameters.nBatch < input.tokens.length :=
      Nat.not_lt.mpr (hfits input (List.mem_cons_self ..))
    have hresult : documentResult ctx answers embed method input =
        .embedding ⟨normalizedValues answers method (embed input.tokens), method,
          ctx.inferenceParameters.poolingType, input.id⟩ := if_neg hfit
    rw [sendEmbeddings, if_neg (by omega), hread]
    dsimp only
    rw [normalizeEmbedding_ok (hnormalizes input.tokens), List.map_cons, Sender.sendAll, hresult]
    dsimp only
    cases hsend : tx.send _ with
    | mk delivered tx₁ =>
      cases delivered with
      | false => rfl
      | true =>
        refine sendEmbeddings_sendAll hnormalizes inputs (index + 1) tx₁ (by omega)
          (fun x hx => hfits x (List.mem_cons_of_mem _ hx)) fun i x hx => ?_
        rw [show index + 1 + i = index + (i + 1) by omega]
        exact hreads (i + 1) x hx

/-- A sequence that is added has its tokens, and the others keep theirs. -/
theorem LlamaBatch.addSequence_sequenceTokens {batch added : LlamaBatch} {tokens : List LlamaToken}
    {seqId : Int} {logitsAll : Bool} {requestId : Nat}
    (h : batch.addSequence tokens seqId logitsAll requestId = .ok added) (seqId' : Int) :
    added.sequenceTokens seqId' =
      batch.sequenceTokens seqId' ++ if seqId' = seqId then tokens else [] := by
  unfold LlamaBatch.addSequence at h
  split at h
  · cases h
    unfold LlamaBatch.sequenceTokens
    rw [List.filter_append, List.map_append]
    congr 1
    split
    · rename_i heq
      subst heq
      rw [List.filter_eq_self.mpr, List.map_map]
      · exact List.zipIdx_map_fst 0 tokens
      · intro t ht
        obtain ⟨p, -, rfl⟩ := List.mem_map.mp ht
        exact beq_self_eq_true _
    · rename_i hne
      rw [List.filter_eq_nil_iff.mpr]
      · rfl
      · intro t ht
        obtain ⟨p, -, rfl⟩ := List.mem_map.mp ht
        simpa using fun heq => hne heq.symm
  · cases h

theorem LlamaBatch.addSequence_seqId {batch added : LlamaBatch} {tokens : List LlamaToken}
    {seqId : Int} {logitsAll : Bool} {requestId : Nat}
    (h : batch.addSequence tokens seqId logitsAll requestId = .ok added) :
    ∀ t ∈ added.tokens, t ∈ batch.tokens ∨ t.seqId = seqId := by
  unfold LlamaBatch.addSequence at h
  split at h
  · cases h
    intro t ht
    rcases List.mem_append.mp ht with ht | ht
    · exact Or.inl ht
    · obtain ⟨p, -, rfl⟩ := List.mem_map.mp ht
      exact Or.inr rfl
  · cases h

theorem LlamaBatch.sequenceTokens_eq_nil {batch : LlamaBatch} {seqId : Int}
    (h : ∀ t ∈ batch.tokens, t.seqId < seqId) : batch.sequenceTokens seqId = [] := by
  unfold LlamaBatch.sequenceTokens
  rw [List.filter_eq_nil_iff.mpr]
  · rfl
  · intro t ht
    have hlt := h t ht
    simp only [beq_iff_eq]
    omega

/-- The tokens of document `i` are on sequence `sequenceIndex + i`, and earlier sequences stay. -/
theorem addSequences_sequenceTokens {requestId : Nat} :
    ∀ {inputs : List EmbeddingInputTokenized} {sequenceIndex : Nat} {batch decoded : LlamaBatch},
      addSequences requestId inputs sequenceIndex batch = .ok decoded →
      (∀ t ∈ batch.tokens, t.seqId < sequenceIndex) →
      (∀ i input, inputs[i]? = some input →
        decoded.sequenceTokens ((sequenceIndex + i : Nat) : Int) = input.tokens) ∧
      ∀ seqId : Int, seqId < sequenceIndex → decoded.sequenceTokens seqId =
        batch.sequenceTokens seqId
  | [], _, _, _, h, _ => by
    cases h
    exact ⟨fun i input hi => by simp at hi, fun _ _ => rfl⟩
  | input :: inputs, sequenceIndex, batch, decoded, h, hbelow => by
    rw [addSequences] at h
    split at h
    · cases h
    · split at h
      · cases h
      · rename_i added hadd
        have htokens := LlamaBatch.addSequence_sequenceTokens hadd
        have hbelow' : ∀ t ∈ added.tokens, t.seqId < ((sequenceIndex + 1 : Nat) : Int) := by
          intro t ht
          rcases LlamaBatch.addSequence_seqId hadd t ht with ht | ht
          · have := hbelow t ht
            omega
          · omega
        obtain ⟨hrest, hkept⟩ := addSequences_sequenceTokens h hbelow'
        refine ⟨fun i x hx => ?_, fun seqId hlt => ?_⟩
        · cases i with
          | zero =>
            cases hx
            rw [hkept _ (by omega), htokens, Nat.add_zero,
              LlamaBatch.sequenceTokens_eq_nil hbelow, if_pos rfl]
            rfl
          | succ i =>
            rw [show sequenceIndex + (i + 1) = sequenceIndex + 1 + i by omega]
            exact hrest i x hx
        · rw [hkept seqId (by omega), htokens, if_neg (by omega), List.append_nil]

/-! ## All batches -/

/-- **The batches before the first stop request are answered**, document by document. -/
theorem decodePlannedBatches_sendAll {ctx : ContinuousBatchSchedulerContext C}
    {answers : EmbeddingAnswers} {embed : List LlamaToken → List UInt32}
    {method : EmbeddingNormalizationMethod} {within : List EmbeddingInputTokenized}
    (hdecode : ∀ n, answers.decode n = .ok ())
    (hnormalizes : ∀ tokens, Normalizes method (embed tokens))
    (hwithin : ∀ input ∈ within, input.tokens.length ≤ ctx.inferenceParameters.nBatch) :
    ∀ (ranges : List (Nat × Nat)) (batchNumber : Nat) (batch : LlamaBatch) (emitted : Nat)
      (tx : Sender EmbeddingResult) (llama : LlamaContext),
      batch.tokens = [] →
      (∀ range ∈ ranges, FitsBatch (within.map (·.tokens.length)) batch.capacity
        ctx.desiredSlotsTotal range) →
      ReadsSequences answers embed tx.id within ranges batchNumber batch →
      ∃ llama', decodePlannedBatches ctx answers method within ranges batchNumber batch
        emitted tx llama = match Sender.sendAll (((servedRanges answers ranges batchNumber).flatMap
            fun range => rangeOf range within).map (documentResult ctx answers embed method)) tx with
        | (.error err, tx) => (.error err, tx, llama')
        | (.ok (), tx) =>
          (.ok (emitted + ((servedRanges answers ranges batchNumber).flatMap
            fun range => rangeOf range within).length), tx, llama')
  | [], _, _, _, _, llama, _, _, _ => ⟨llama, rfl⟩
  | range :: ranges, batchNumber, batch, emitted, tx, llama, hempty, hfits, hreads => by
    rw [decodePlannedBatches, servedRanges]
    by_cases hstop : answers.stop batchNumber = .received
    · rw [if_pos hstop, if_pos hstop]
      exact ⟨llama, rfl⟩
    · rw [if_neg hstop, if_neg hstop]
      obtain ⟨hlength, tokens, hadd⟩ :=
        addSequences_of_fits ctx tx.id hempty (hfits range (List.mem_cons_self ..))
      obtain ⟨hreads, hrest⟩ := (hreads.resolve_left hstop) _ hadd
      have hsequences := (addSequences_sequenceTokens hadd (by simp [hempty])).1
      have hsend : sendEmbeddings ctx answers method batchNumber (rangeOf range within) 0 tx =
          Sender.sendAll ((rangeOf range within).map (documentResult ctx answers embed method)) tx := by
        refine sendEmbeddings_sendAll hnormalizes _ 0 tx (by omega) (fun input hinput => ?_)
          fun i input hi => ?_
        · exact hwithin input (List.mem_of_mem_drop (List.mem_of_mem_take hinput))
        · rw [Nat.zero_add]
          have htokens := hsequences i input hi
          rw [Nat.zero_add] at htokens
          rw [hreads i (List.getElem?_eq_some_iff.mp hi).1, htokens]
      rw [hadd]
      dsimp only
      unfold embeddingBatchDecode
      dsimp only
      rw [hdecode batchNumber, List.flatMap_cons, List.map_append, Sender.sendAll_append, hsend]
      dsimp only
      cases hall : Sender.sendAll
        ((rangeOf range within).map (documentResult ctx answers embed method)) tx with
      | mk outcome tx₁ =>
        cases outcome with
        | error err => exact ⟨_, rfl⟩
        | ok u =>
          have hid : tx₁.id = tx.id := by
            have h := Sender.sendAll_id
              ((rangeOf range within).map (documentResult ctx answers embed method)) tx
            rwa [hall] at h
          rw [← hid] at hrest
          obtain ⟨llama', ih⟩ := decodePlannedBatches_sendAll hdecode hnormalizes hwithin ranges
            (batchNumber + 1) (LlamaBatch.clear { batch with tokens := tokens })
            (emitted + (rangeOf range within).length) tx₁ _ rfl
            (fun range' hr => hfits range' (List.mem_cons_of_mem _ hr)) hrest
          refine ⟨llama', ?_⟩
          dsimp only
          rw [ih, List.length_append, Nat.add_assoc]

/-! ## A request -/

/-- A document with its tokens. -/
def tokenized (answers : EmbeddingAnswers) (input : EmbeddingInputDocument) :
    EmbeddingInputTokenized :=
  ⟨input.id, (answers.strToToken input.content).toOption.getD []⟩

/-- The documents of the request, with their tokens. -/
def requestDocuments (answers : EmbeddingAnswers) (request : GenerateEmbeddingBatchRequest) :
    List EmbeddingInputTokenized :=
  request.inputBatch.map (tokenized answers)

/-- The documents that `n_batch` has room for. -/
def fittingDocuments (ctx : ContinuousBatchSchedulerContext C) (answers : EmbeddingAnswers)
    (request : GenerateEmbeddingBatchRequest) : List EmbeddingInputTokenized :=
  (requestDocuments answers request).filter fun input =>
    decide (input.tokens.length ≤ ctx.inferenceParameters.nBatch)

/-- The planned batches of the request. -/
def requestPlan (ctx : ContinuousBatchSchedulerContext C) (answers : EmbeddingAnswers)
    (request : GenerateEmbeddingBatchRequest) : List (Nat × Nat) :=
  planEmbeddingBatches ((fittingDocuments ctx answers request).map (·.tokens.length))
    ctx.inferenceParameters.nBatch ctx.desiredSlotsTotal

/-- llama.cpp makes no error: the batch is allocated, the documents are tokenized (their tokens are
counted by an `i32`), every batch is decoded, and every embedding is read from the sequence its
tokens are on. -/
structure LlamaServes (ctx : ContinuousBatchSchedulerContext C) (answers : EmbeddingAnswers)
    (embed : List LlamaToken → List UInt32) (request : GenerateEmbeddingBatchRequest) : Prop where
  batch : ctx.inferenceParameters.nBatch ≤ i32Max
  tokenizes : ∀ input ∈ request.inputBatch, ∃ tokens,
    answers.strToToken input.content = .ok tokens ∧ tokens.length ≤ i32Max
  decodes : ∀ n, answers.decode n = .ok ()
  reads : ReadsSequences answers embed request.generatedEmbeddingTx.id
    (fittingDocuments ctx answers request)
    (requestPlan ctx answers request) 0 ⟨ctx.inferenceParameters.nBatch, []⟩

theorem tokenizeInputBatch_tokenized {answers : EmbeddingAnswers} :
    ∀ {inputBatch : List EmbeddingInputDocument},
      (∀ input ∈ inputBatch, ∃ tokens, answers.strToToken input.content = .ok tokens ∧
        tokens.length ≤ i32Max) →
      tokenizeInputBatch answers inputBatch = .ok (inputBatch.map (tokenized answers))
  | [], _ => rfl
  | input :: inputBatch, h => by
    obtain ⟨tokens, htokens, -⟩ := h input (List.mem_cons_self ..)
    have ih := tokenizeInputBatch_tokenized fun x hx => h x (List.mem_cons_of_mem _ hx)
    have hhead : tokenized answers input = ⟨input.id, tokens⟩ := by
      unfold tokenized
      rw [htokens]
      rfl
    rw [tokenizeInputBatch, htokens, ih, List.map_cons, hhead]

/-- The documents that are too long are reported, the others are kept. -/
theorem rejectOversized_sendAll (ctx : ContinuousBatchSchedulerContext C)
    (answers : EmbeddingAnswers) (embed : List LlamaToken → List UInt32)
    (method : EmbeddingNormalizationMethod) :
    ∀ (inputs : List EmbeddingInputTokenized) (tx : Sender EmbeddingResult),
      (∀ input ∈ inputs, input.tokens.length ≤ i32Max) →
      rejectOversized ctx.inferenceParameters.nBatch inputs tx =
        match Sender.sendAll ((inputs.filter fun input =>
            decide (ctx.inferenceParameters.nBatch < input.tokens.length)).map
              (documentResult ctx answers embed method)) tx with
        | (.error err, tx) => (.error err, tx)
        | (.ok (), tx) =>
          (.ok (inputs.filter fun input =>
            decide (input.tokens.length ≤ ctx.inferenceParameters.nBatch)), tx)
  | [], _, _ => rfl
  | input :: inputs, tx, hcounts => by
    have hcount := hcounts input (List.mem_cons_self ..)
    have hcounts' : ∀ x ∈ inputs, x.tokens.length ≤ i32Max :=
      fun x hx => hcounts x (List.mem_cons_of_mem _ hx)
    have hu32 : i32Max < u32Max := by decide
    rw [rejectOversized]
    by_cases hbig : ctx.inferenceParameters.nBatch < input.tokens.length
    · have hresult : documentResult ctx answers embed method input = .documentExceedsBatchSize
          ⟨input.tokens.length, ctx.inferenceParameters.nBatch, input.id⟩ := if_pos hbig
      rw [if_pos hbig, if_neg (by omega), if_neg (by omega),
        List.filter_cons_of_pos (by simpa using hbig),
        List.filter_cons_of_neg (by simpa using hbig), List.map_cons, Sender.sendAll, hresult]
      cases hsend : tx.send _ with
      | mk delivered tx₁ =>
        cases delivered with
        | false => rfl
        | true => exact rejectOversized_sendAll ctx answers embed method inputs tx₁ hcounts'
    · rw [if_neg hbig, rejectOversized_sendAll ctx answers embed method inputs tx hcounts',
        List.filter_cons_of_neg (by simpa using hbig),
        List.filter_cons_of_pos (by simpa using hbig)]
      cases hall : Sender.sendAll ((inputs.filter fun input =>
          decide (ctx.inferenceParameters.nBatch < input.tokens.length)).map
            (documentResult ctx answers embed method)) tx with
      | mk outcome tx₁ =>
        cases outcome with
        | error err => rfl
        | ok u => rfl

/-- The documents of the request that are answered with an embedding. -/
def servedDocuments (ctx : ContinuousBatchSchedulerContext C) (answers : EmbeddingAnswers)
    (request : GenerateEmbeddingBatchRequest) : List EmbeddingInputTokenized :=
  (servedRanges answers (requestPlan ctx answers request) 0).flatMap fun range =>
    rangeOf range (fittingDocuments ctx answers request)

/-- The results of the request: the documents that are too long, the embeddings, and the terminal
result. -/
def requestResults (ctx : ContinuousBatchSchedulerContext C) (answers : EmbeddingAnswers)
    (embed : List LlamaToken → List UInt32) (request : GenerateEmbeddingBatchRequest) :
    List EmbeddingResult :=
  let result := documentResult ctx answers embed request.normalizationMethod
  ((requestDocuments answers request).filter fun input =>
      decide (ctx.inferenceParameters.nBatch < input.tokens.length)).map result ++
    ((servedDocuments ctx answers request).map result ++
      [if servedDocuments ctx answers request = [] then .noEmbeddingsProduced else .done])

theorem processWithin_sendAll {ctx : ContinuousBatchSchedulerContext C} {answers : EmbeddingAnswers}
    {embed : List LlamaToken → List UInt32} {request : GenerateEmbeddingBatchRequest}
    (hserves : LlamaServes ctx answers embed request)
    (hnormalizes : ∀ tokens, Normalizes request.normalizationMethod (embed tokens))
    {tx : Sender EmbeddingResult} (hid : tx.id = request.generatedEmbeddingTx.id)
    (llama : LlamaContext) :
    ∃ llama', processWithin ctx answers request.normalizationMethod
      (fittingDocuments ctx answers request) tx
        llama =
      ((Sender.sendAll ((servedDocuments ctx answers request).map
          (documentResult ctx answers embed request.normalizationMethod) ++
          [if servedDocuments ctx answers request = [] then .noEmbeddingsProduced else .done]) tx).1,
        (Sender.sendAll ((servedDocuments ctx answers request).map
          (documentResult ctx answers embed request.normalizationMethod) ++
          [if servedDocuments ctx answers request = [] then .noEmbeddingsProduced else .done]) tx).2,
        llama') := by
  have hwithin : ∀ input ∈ fittingDocuments ctx answers request,
      input.tokens.length ≤ ctx.inferenceParameters.nBatch :=
    fun input hinput => by simpa using (List.mem_filter.mp hinput).2
  have hfits : ∀ range ∈ requestPlan ctx answers request,
      FitsBatch ((fittingDocuments ctx answers request).map (·.tokens.length))
        ctx.inferenceParameters.nBatch ctx.desiredSlotsTotal range :=
    planEmbeddingBatches_fits (List.forall_mem_map.mpr hwithin)
  have hreads := hserves.reads
  rw [← hid] at hreads
  obtain ⟨llama', hrun⟩ := decodePlannedBatches_sendAll hserves.decodes hnormalizes hwithin
    (requestPlan ctx answers request) 0 ⟨ctx.inferenceParameters.nBatch,
      []⟩ 0 tx llama rfl hfits hreads
  refine ⟨llama', ?_⟩
  have hnew : LlamaBatch.new ctx.inferenceParameters.nBatch =
      .ok ⟨ctx.inferenceParameters.nBatch, []⟩ :=
    if_neg (Nat.not_lt.mpr hserves.batch)
  unfold processWithin
  dsimp only
  rw [hnew]
  dsimp only
  rw [Sender.sendAll_append]
  unfold requestPlan at hrun
  rw [hrun]
  unfold servedDocuments requestPlan
  cases hall : Sender.sendAll (((servedRanges answers (planEmbeddingBatches
      ((fittingDocuments ctx answers request).map (·.tokens.length)) ctx.inferenceParameters.nBatch
      ctx.desiredSlotsTotal) 0).flatMap fun range =>
        rangeOf range (fittingDocuments ctx answers request)).map
          (documentResult ctx answers embed request.normalizationMethod)) tx with
  | mk outcome tx₁ =>
    cases outcome with
    | error err => rfl
    | ok u =>
      dsimp only
      rw [Nat.zero_add, Sender.sendAll]
      simp only [List.length_eq_zero_iff]
      cases hsend : tx₁.send _ with
      | mk delivered tx₂ =>
        cases delivered with
        | false => rfl
        | true => rfl

/-! ## Stop requests -/

/-- Without a stop request every planned batch is served. -/
theorem servedRanges_of_not_stopped {answers : EmbeddingAnswers} :
    ∀ (ranges : List (Nat × Nat)) (batchNumber : Nat),
      (∀ n, n < ranges.length → answers.stop (batchNumber + n) ≠ .received) →
      servedRanges answers ranges batchNumber = ranges
  | [], _, _ => rfl
  | range :: ranges, batchNumber, hstop => by
    have hhead : answers.stop batchNumber ≠ .received := hstop 0 (Nat.zero_lt_succ _)
    rw [servedRanges, if_neg hhead, servedRanges_of_not_stopped ranges (batchNumber + 1)]
    intro n hn
    rw [show batchNumber + 1 + n = batchNumber + (n + 1) by omega]
    exact hstop (n + 1) (Nat.succ_lt_succ hn)

theorem servedRanges_of_stopped {answers : EmbeddingAnswers} :
    ∀ (ranges : List (Nat × Nat)) (batchNumber n : Nat),
      answers.stop (batchNumber + n) = .received →
      (∀ m, m < n → answers.stop (batchNumber + m) ≠ .received) →
      servedRanges answers ranges batchNumber = ranges.take n
  | [], _, _, _, _ => by simp [servedRanges]
  | range :: ranges, batchNumber, 0, hstop, _ => by
    have hhead : answers.stop batchNumber = .received := hstop
    rw [servedRanges, if_pos hhead, List.take_zero]
  | range :: ranges, batchNumber, n + 1, hstop, hfirst => by
    have hhead : answers.stop batchNumber ≠ .received := hfirst 0 (Nat.zero_lt_succ _)
    rw [show batchNumber + (n + 1) = batchNumber + 1 + n by omega] at hstop
    rw [servedRanges, if_neg hhead, List.take_succ_cons,
      servedRanges_of_stopped ranges (batchNumber + 1) n hstop]
    intro m hm
    rw [show batchNumber + 1 + m = batchNumber + (m + 1) by omega]
    exact hfirst (m + 1) (Nat.succ_lt_succ hm)

/-- Without a stop request every document that fits is answered with its embedding. -/
theorem servedDocuments_of_not_stopped {ctx : ContinuousBatchSchedulerContext C}
    {answers : EmbeddingAnswers} {request : GenerateEmbeddingBatchRequest}
    (hstop : ∀ n, n < (requestPlan ctx answers request).length → answers.stop n ≠ .received) :
    servedDocuments ctx answers request = fittingDocuments ctx answers request := by
  unfold servedDocuments
  rw [servedRanges_of_not_stopped _ 0 fun n hn => by rw [Nat.zero_add]; exact hstop n hn]
  exact planEmbeddingBatches_partition _ _ (List.length_map _).symm

theorem documentResult_isDone (ctx : ContinuousBatchSchedulerContext C) (answers : EmbeddingAnswers)
    (embed : List LlamaToken → List UInt32) (method : EmbeddingNormalizationMethod)
    (input : EmbeddingInputTokenized) :
    (documentResult ctx answers embed method input).isDone = false := by
  unfold documentResult
  split <;> rfl

/-- The documents that are too long and those that are not are all documents. -/
theorem oversized_append_fitting_perm (ctx : ContinuousBatchSchedulerContext C)
    (answers : EmbeddingAnswers) (request : GenerateEmbeddingBatchRequest) :
    (((requestDocuments answers request).filter fun input =>
        decide (ctx.inferenceParameters.nBatch < input.tokens.length)) ++
      fittingDocuments ctx answers request).Perm (requestDocuments answers request) := by
  have hfitting : fittingDocuments ctx answers request =
      (requestDocuments answers request).filter fun input =>
        !decide (ctx.inferenceParameters.nBatch < input.tokens.length) := by
    refine List.filter_congr fun input _ => ?_
    rw [← decide_not, decide_eq_decide]
    exact Nat.not_lt.symm
  rw [hfitting]
  exact List.filter_append_perm _ _

/-! ## The whole stream -/

/-- The results of the request are sent, one after the other. -/
theorem processEmbeddingBatch_sendAll {ctx : ContinuousBatchSchedulerContext C}
    {answers : EmbeddingAnswers} {embed : List LlamaToken → List UInt32}
    {request : GenerateEmbeddingBatchRequest}
    (henabled : ctx.inferenceParameters.enableEmbeddings = true)
    (hserves : LlamaServes ctx answers embed request)
    (hnormalizes : ∀ tokens, Normalizes request.normalizationMethod (embed tokens))
    (llama : LlamaContext) :
    ∃ llama', processEmbeddingBatch ctx answers request llama =
      ((Sender.sendAll (requestResults ctx answers embed request) request.generatedEmbeddingTx).1,
        (Sender.sendAll (requestResults ctx answers embed request) request.generatedEmbeddingTx).2,
        llama') := by
  have hcounts : ∀ input ∈ requestDocuments answers request, input.tokens.length ≤ i32Max := by
    refine List.forall_mem_map.mpr fun input hinput => ?_
    obtain ⟨tokens, htokens, hlength⟩ := hserves.tokenizes input hinput
    unfold tokenized
    rw [htokens]
    exact hlength
  have hreject := rejectOversized_sendAll ctx answers embed request.normalizationMethod _
    request.generatedEmbeddingTx hcounts
  have hid := Sender.sendAll_id (((requestDocuments answers request).filter fun input =>
    decide (ctx.inferenceParameters.nBatch < input.tokens.length)).map
      (documentResult ctx answers embed request.normalizationMethod)) request.generatedEmbeddingTx
  unfold processEmbeddingBatch requestResults
  dsimp only
  rw [if_neg (by simp [henabled]), tokenizeInputBatch_tokenized hserves.tokenizes,
    Sender.sendAll_append]
  dsimp only
  unfold requestDocuments at hreject
  rw [hreject]
  unfold requestDocuments at hid ⊢
  cases hoversized : Sender.sendAll
    (((request.inputBatch.map (tokenized answers)).filter fun input =>
      decide (ctx.inferenceParameters.nBatch < input.tokens.length)).map
        (documentResult ctx answers embed request.normalizationMethod))
        request.generatedEmbeddingTx with
  | mk outcome tx₁ =>
    rw [hoversized] at hid
    cases outcome with
    | error err => exact ⟨llama, rfl⟩
    | ok u => exact processWithin_sendAll hserves hnormalizes hid llama

/-- **Every document is answered once.**  What is sent are the results of the request, or the first
of them if the receiver goes away; without a stop request these are one result for each document,
and the first stop request leaves the documents of the batches before it. -/
theorem processEmbeddingBatch_answers {ctx : ContinuousBatchSchedulerContext C}
    {answers : EmbeddingAnswers} {embed : List LlamaToken → List UInt32}
    {request : GenerateEmbeddingBatchRequest}
    (henabled : ctx.inferenceParameters.enableEmbeddings = true)
    (hserves : LlamaServes ctx answers embed request)
    (hnormalizes : ∀ tokens, Normalizes request.normalizationMethod (embed tokens))
    (llama : LlamaContext) :
    let tx := request.generatedEmbeddingTx
    let tx' := (processEmbeddingBatch ctx answers request llama).2.1
    let results := requestResults ctx answers embed request
    let plan := requestPlan ctx answers request
    (∃ delivered, delivered <+: results ∧ tx'.sent = tx.sent ++ delivered) ∧
      (tx.receiverDropsAfter = none → tx'.sent = tx.sent ++ results) ∧
      (∃ answered last, results = answered ++ [last] ∧ last.isDone = true ∧
        (∀ result ∈ answered, result.isDone = false) ∧
        ((∀ n, n < plan.length → answers.stop n ≠ .received) →
          servedDocuments ctx answers request = fittingDocuments ctx answers request ∧
          answered.Perm ((requestDocuments answers request).map
            (documentResult ctx answers embed request.normalizationMethod)))) ∧
      ∀ n, answers.stop n = .received → (∀ m, m < n → answers.stop m ≠ .received) →
        servedDocuments ctx answers request =
          (plan.take n).flatMap fun range =>
            rangeOf range (fittingDocuments ctx answers request) := by
  intro tx tx' results plan
  have hsent : tx' = (Sender.sendAll results tx).2 := by
    obtain ⟨llama', hrun⟩ := processEmbeddingBatch_sendAll henabled hserves hnormalizes llama
    exact congrArg (·.2.1) hrun
  obtain ⟨hsent', hall⟩ := Sender.sendAll_spec results tx
  refine ⟨by rw [hsent]; exact hsent', fun halive => by rw [hsent]; exact (hall halive).2, ?_, ?_⟩
  · refine ⟨_, _, (List.append_assoc _ _ _).symm, by split <;> rfl, ?_, fun hstop => ?_⟩
    · intro result hresult
      rw [← List.map_append] at hresult
      obtain ⟨input, -, rfl⟩ := List.mem_map.mp hresult
      exact documentResult_isDone ctx answers embed _ input
    · have hserved := servedDocuments_of_not_stopped hstop
      refine ⟨hserved, ?_⟩
      rw [hserved, ← List.map_append]
      exact (oversized_append_fitting_perm ctx answers request).map _
  · intro n hstop hfirst
    unfold servedDocuments
    rw [servedRanges_of_stopped _ 0 n (by rw [Nat.zero_add]; exact hstop)
      fun m hm => by rw [Nat.zero_add]; exact hfirst m hm]

/-- One token for each character; the first planned batch has these sequences. -/
def characterAnswers (embed : List LlamaToken → List UInt32) (sequences : List (List LlamaToken)) :
    EmbeddingAnswers where
  strToToken content := .ok (content.toList.map fun c => (c.toNat : Int))
  stop _ := .empty
  decode _ := .ok ()
  embeddingsSeqIth _ i := .ok (embed (sequences.getD i []))
  l2 values := values
  rmsNorm values _ := values

/-- The second document has more tokens than a batch. -/
def threeDocuments : GenerateEmbeddingBatchRequest :=
  ⟨Sender.new 0 none, [⟨"ab", "first"⟩, ⟨"abcde", "second"⟩, ⟨"c", "third"⟩], .l2⟩

/-- An embedding that counts the tokens. -/
def countTokens (tokens : List LlamaToken) : List UInt32 := [UInt32.ofNat tokens.length]

theorem processEmbeddingBatch_answers_three :
    (processEmbeddingBatch smallContext (characterAnswers countTokens [[97, 98], [99]])
      threeDocuments
        ⟨[], .nothing⟩).2.1.sent =
      [.documentExceedsBatchSize ⟨5, 4, "second"⟩, .embedding ⟨[2], .l2, .mean, "first"⟩,
        .embedding ⟨[1], .l2, .mean, "third"⟩, .done] := by
  have hserves : LlamaServes smallContext
      (characterAnswers countTokens [[97, 98], [99]]) countTokens
      threeDocuments := by
    refine ⟨by decide, ?_, fun _ => rfl, Or.inr ?_⟩
    · intro input hinput
      refine ⟨_, rfl, ?_⟩
      revert input
      decide
    · intro decoded hdecoded
      cases hdecoded
      exact ⟨by decide, trivial⟩
  have h := processEmbeddingBatch_answers rfl hserves (fun _ => trivial) ⟨[], .nothing⟩
  exact (h.2.1 rfl).trans (by decide)

/-! ## Embeddings that do not normalize -/

theorem rmsNorm_tooLong (answers : EmbeddingAnswers) {values : List UInt32} (epsilon : UInt32)
    (h : 65535 < values.length) :
    rmsNorm answers values epsilon =
      .error "embedding length exceeds the supported maximum for normalization" := by
  have hne : ¬ values.isEmpty = true := by
    intro hempty
    rw [List.isEmpty_iff.mp hempty] at h
    cases h
  unfold rmsNorm
  rw [if_neg hne, if_pos h]

/-- One document of one token. -/
def oneDocument : GenerateEmbeddingBatchRequest :=
  ⟨Sender.new 0 none, [⟨"a", "first"⟩], .rmsNorm 0⟩

/-- An embedding of 65536 components. -/
def longEmbedding (_ : List LlamaToken) : List UInt32 := List.replicate 65536 0

/-- The first embedding does not normalize, and with it the request ends. -/
theorem processWithin_tooLong {embed : List LlamaToken → List UInt32}
    (hlong : ∀ tokens, 65535 < (embed tokens).length) (tx : Sender EmbeddingResult)
    (llama : LlamaContext) :
    (processWithin smallContext (characterAnswers embed [[97]]) (.rmsNorm 0)
      [⟨"first", [97]⟩] tx llama).2.1 = tx := by
  have hplan : planEmbeddingBatches [1] 4 2 = [(0, 1)] := by decide
  have hsend : sendEmbeddings smallContext (characterAnswers embed [[97]]) (.rmsNorm 0) 0
      [⟨"first", [97]⟩] 0
      tx = (.error "embedding length exceeds the supported maximum for normalization", tx) := by
    have hrms := rmsNorm_tooLong (characterAnswers embed [[97]]) 0 (hlong [97])
    have hnormalize : normalizeEmbedding (characterAnswers embed [[97]]) ⟨embed [97], .none,
        .mean, "first"⟩
        (.rmsNorm 0) = .error
          "embedding length exceeds the supported maximum for normalization" := by
      simp [normalizeEmbedding, EmbeddingNormalizationMethod.canTransformTo,
        EmbeddingNormalizationMethod.needsTransformationTo, hrms]
    have hread : (characterAnswers embed [[97]]).embeddingsSeqIth 0 0 = .ok (embed [97]) := rfl
    rw [sendEmbeddings, if_neg (by decide), hread]
    dsimp only [smallContext]
    rw [hnormalize]
  have hdecode : (characterAnswers embed [[97]]).decode 0 = .ok () := rfl
  have hrange : rangeOf (0, 1) [(⟨"first", [97]⟩ : EmbeddingInputTokenized)] =
      [⟨"first", [97]⟩] := rfl
  have hadd : addSequences tx.id [⟨"first", [97]⟩] 0 ⟨4, []⟩ = .ok ⟨4, [⟨97, 0, 0, true, tx.id⟩]⟩ :=
    rfl
  have hnew : LlamaBatch.new 4 = .ok ⟨4, []⟩ := by decide
  unfold processWithin
  simp only [smallContext, List.map_cons, List.map_nil, List.length_singleton] at hsend ⊢
  rw [hplan, hnew]
  simp only [decodePlannedBatches, embeddingBatchDecode, hrange, hadd, hdecode, hsend]
  rw [if_neg (by simp [characterAnswers])]

theorem processEmbeddingBatch_oneDocument (embed : List LlamaToken → List UInt32)
    (llama : LlamaContext) :
    processEmbeddingBatch smallContext (characterAnswers embed [[97]]) oneDocument llama =
      processWithin smallContext (characterAnswers embed [[97]]) (.rmsNorm 0) [⟨"first", [97]⟩]
        (Sender.new 0 none) llama := rfl

/-- The exception: no error of llama.cpp, no stop request, a live receiver, and nothing is sent. -/
theorem processEmbeddingBatch_tooLong :
    LlamaServes smallContext (characterAnswers longEmbedding [[97]]) longEmbedding oneDocument ∧
      (∀ n, (characterAnswers longEmbedding [[97]]).stop n ≠ .received) ∧
      smallContext.inferenceParameters.enableEmbeddings = true ∧
      oneDocument.generatedEmbeddingTx.receiverDropsAfter = none ∧
      (processEmbeddingBatch smallContext (characterAnswers longEmbedding [[97]]) oneDocument
        ⟨[], .nothing⟩).2.1.sent = [] := by
  refine ⟨⟨by decide, ?_, fun _ => rfl, Or.inr ?_⟩, fun n => by
    simp [characterAnswers], rfl, rfl, ?_⟩
  · intro input hinput
    refine ⟨_, rfl, ?_⟩
    revert input
    decide
  · intro decoded hdecoded
    cases hdecoded
    exact ⟨fun _ _ => rfl, trivial⟩
  · have hlong : ∀ tokens, 65535 < (longEmbedding tokens).length := by
      intro tokens
      rw [longEmbedding, List.length_replicate]
      decide
    rw [processEmbeddingBatch_oneDocument, processWithin_tooLong hlong]
    rfl

end Paddler
