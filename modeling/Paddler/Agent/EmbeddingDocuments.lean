import Paddler.Agent.Embedding

/-!
# Every document of an embedding batch

What an agent answers about the documents of one embedding request: a document is too long and is
reported, or it gets an embedding.

* `planEmbeddingBatches_partition` — the planned batches are the documents, in their order.
* `processEmbeddingBatch_documents` — **a request that is processed to its end answers for every
  document once**, provided it is not told to stop.
-/

set_option autoImplicit false

namespace Paddler

variable {C : Type}

/-- The document that a result is about. -/
def EmbeddingResult.sourceDocumentId : EmbeddingResult → Option String
  | documentExceedsBatchSize details => some details.sourceDocumentId
  | embedding e => some e.sourceDocumentId
  | _ => none

/-! ## Planned batches -/

/-- The loop invariant: `before` is planned, `current` waits for its batch. -/
theorem planEmbeddingBatchesFrom_partition {α : Type} (nBatch : Nat) (maxSequences : Int) :
    ∀ (tokenCounts : List Nat) (before current rest : List α) (currentTokens : Nat),
      rest.length = tokenCounts.length →
      (planEmbeddingBatchesFrom nBatch maxSequences tokenCounts (before.length + current.length)
          before.length currentTokens current.length).flatMap
        (fun range => rangeOf range (before ++ current ++ rest)) = current ++ rest
  | [], before, current, rest, currentTokens, hlen => by
    rw [List.length_eq_zero_iff.mp hlen]
    unfold planEmbeddingBatchesFrom
    split
    · have hrange := rangeOf_append before current []
      rw [List.append_nil] at hrange
      simp [hrange]
    · rename_i hempty
      have hnil : current = [] := List.length_eq_zero_iff.mp (by omega)
      simp [hnil]
  | tokenCount :: tokenCounts, before, current, rest, currentTokens, hlen => by
    obtain ⟨x, rest, rfl⟩ := List.exists_cons_of_length_eq_add_one hlen
    have hlen' : rest.length = tokenCounts.length := Nat.succ.inj hlen
    unfold planEmbeddingBatchesFrom
    split
    · have ih := planEmbeddingBatchesFrom_partition nBatch maxSequences tokenCounts
        (before ++ current)
        [x] rest tokenCount hlen'
      have hall : before ++ current ++ [x] ++ rest = before ++ current ++ x :: rest := by simp
      rw [hall] at ih
      rw [List.flatMap_cons, rangeOf_append]
      simpa using ih
    · have ih := planEmbeddingBatchesFrom_partition nBatch maxSequences tokenCounts before
        (current ++ [x]) rest (currentTokens + tokenCount) hlen'
      have hall : before ++ (current ++ [x]) ++ rest = before ++ current ++ x :: rest := by simp
      rw [hall] at ih
      simpa [Nat.add_assoc] using ih

/-- **The planned batches are the documents**, in their order. -/
theorem planEmbeddingBatches_partition {α : Type} {tokenCounts : List Nat} {xs : List α}
    (nBatch : Nat) (maxSequences : Int) (hlen : xs.length = tokenCounts.length) :
    (planEmbeddingBatches tokenCounts nBatch maxSequences).flatMap
      (fun range => rangeOf range xs) = xs :=
  planEmbeddingBatchesFrom_partition nBatch maxSequences tokenCounts [] [] xs 0 hlen

/-! ## What is reported -/

/-- After results, none of them terminal, about these documents were delivered. -/
def Sender.Reports (tx tx' : Sender EmbeddingResult) (ids : List String) : Prop :=
  ∃ events, tx.Extends tx' events ∧ (∀ e ∈ events, e.isDone = false) ∧
    events.filterMap EmbeddingResult.sourceDocumentId = ids

theorem Sender.Reports.refl (tx : Sender EmbeddingResult) : tx.Reports tx [] :=
  ⟨[], Sender.Extends.refl tx, by simp, rfl⟩

theorem Sender.Reports.trans {tx₁ tx₂ tx₃ : Sender EmbeddingResult} {ids ids' : List String}
    (h : tx₁.Reports tx₂ ids) (h' : tx₂.Reports tx₃ ids') : tx₁.Reports tx₃ (ids ++ ids') := by
  obtain ⟨events, hext, hquiet, hids⟩ := h
  obtain ⟨events', hext', hquiet', hids'⟩ := h'
  refine ⟨events ++ events', hext.trans hext', fun e he => ?_, ?_⟩
  · rcases List.mem_append.mp he with he | he
    · exact hquiet e he
    · exact hquiet' e he
  · rw [List.filterMap_append, hids, hids']

theorem Sender.send_reports {tx tx' : Sender EmbeddingResult} {result : EmbeddingResult}
    {id : String} (h : tx.send result = (true, tx')) (hopen : result.isDone = false)
    (hid : result.sourceDocumentId = some id) : tx.Reports tx' [id] := by
  rcases Sender.send_extends h with ⟨-, hext⟩ | ⟨hlost, -, -⟩
  · exact ⟨[result], hext, by simpa using hopen, by simp [hid]⟩
  · cases hlost

theorem tokenizeInputBatch_ids {answers : EmbeddingAnswers} :
    ∀ {inputBatch : List EmbeddingInputDocument} {inputs : List EmbeddingInputTokenized},
      tokenizeInputBatch answers inputBatch = .ok inputs →
      inputs.map (·.id) = inputBatch.map (·.id)
  | [], _, h => by
    cases h
    rfl
  | input :: inputBatch, inputs, h => by
    rw [tokenizeInputBatch] at h
    split at h
    · cases h
    · split at h
      · cases h
      · rename_i rest hrest
        cases h
        rw [List.map_cons, List.map_cons, tokenizeInputBatch_ids hrest]

theorem rejectOversized_reports {nBatch : Nat} :
    ∀ {inputs within : List EmbeddingInputTokenized} {tx tx' : Sender EmbeddingResult},
      rejectOversized nBatch inputs tx = (.ok within, tx') →
      tx.Reports tx' ((inputs.filter fun input => !decide (input.tokens.length ≤ nBatch)).map
        (·.id))
  | [], _, tx, _, h => by
    cases h
    exact Sender.Reports.refl tx
  | input :: inputs, within, tx, tx', h => by
    rw [rejectOversized] at h
    split at h
    · rename_i hbig
      rw [List.filter_cons_of_pos (by simpa using hbig)]
      split at h
      · cases h
      · split at h
        · cases h
        · split at h
          · cases h
          · rename_i tx₁ hsend
            exact (Sender.send_reports hsend rfl rfl).trans (rejectOversized_reports h)
    · rename_i hfits
      rw [List.filter_cons_of_neg (by simpa using hfits)]
      split at h
      · cases h
      · rename_i rest tx₁ hrest
        cases h
        exact rejectOversized_reports hrest

theorem normalizeEmbedding_sourceDocumentId {answers : EmbeddingAnswers}
    {embedding normalized : Embedding} {method : EmbeddingNormalizationMethod}
    (h : normalizeEmbedding answers embedding method = .ok normalized) :
    normalized.sourceDocumentId = embedding.sourceDocumentId := by
  unfold normalizeEmbedding at h
  split at h
  · cases h
  · split at h
    · cases h
      rfl
    · dsimp only at h
      split at h
      · cases h
      · cases h
        rfl

/-- Every document of a decoded batch gets its embedding. -/
theorem sendEmbeddings_reports {ctx : ContinuousBatchSchedulerContext C}
    {answers : EmbeddingAnswers} {method : EmbeddingNormalizationMethod} {batchNumber : Nat} :
    ∀ {inputs : List EmbeddingInputTokenized} {index : Nat} {tx tx' : Sender EmbeddingResult},
      sendEmbeddings ctx answers method batchNumber inputs index tx = (.ok (), tx') →
      tx.Reports tx' (inputs.map (·.id))
  | [], _, tx, _, h => by
    cases h
    exact Sender.Reports.refl tx
  | input :: inputs, index, tx, tx', h => by
    rw [sendEmbeddings] at h
    split at h
    · cases h
    · split at h
      · cases h
      · split at h
        · cases h
        · rename_i embedding hnormalized
          split at h
          · cases h
          · rename_i tx₁ hsend
            have hid := normalizeEmbedding_sourceDocumentId hnormalized
            have hhead : tx.Reports tx₁ [input.id] :=
              Sender.send_reports hsend rfl (congrArg some hid)
            exact hhead.trans (sendEmbeddings_reports h)

/-- Without a stop request every planned batch is decoded. -/
theorem decodePlannedBatches_reports {ctx : ContinuousBatchSchedulerContext C}
    {answers : EmbeddingAnswers} {method : EmbeddingNormalizationMethod}
    {within : List EmbeddingInputTokenized} (hstop : ∀ n, answers.stop n ≠ .received) :
    ∀ {ranges : List (Nat × Nat)} {batchNumber : Nat} {batch : LlamaBatch} {emitted total : Nat}
      {tx tx' : Sender EmbeddingResult} {llama llama' : LlamaContext},
      decodePlannedBatches ctx answers method within ranges batchNumber batch emitted tx llama =
        (.ok total, tx', llama') →
      tx.Reports tx' ((ranges.flatMap fun range => rangeOf range within).map (·.id))
  | [], _, _, _, _, tx, _, _, _, h => by
    cases h
    exact Sender.Reports.refl tx
  | range :: ranges, batchNumber, batch, emitted, total, tx, tx', llama, llama', h => by
    rw [decodePlannedBatches, if_neg (hstop batchNumber)] at h
    split at h
    · cases h
    · unfold embeddingBatchDecode at h
      dsimp only at h
      cases hdecode : answers.decode batchNumber with
      | error err =>
        simp only [hdecode] at h
        cases h
      | ok u =>
        simp only [hdecode] at h
        cases hsend : sendEmbeddings ctx answers method batchNumber (rangeOf range within) 0 tx with
        | mk sent tx₁ =>
        simp only [hsend] at h
        cases sent with
        | error err => cases h
        | ok u =>
          have hrest := decodePlannedBatches_reports hstop h
          rw [List.flatMap_cons, List.map_append]
          exact (sendEmbeddings_reports hsend).trans hrest

/-! ## A request that is processed to its end -/

/-- Nothing terminal was sent, or all documents that fit have their embeddings and then the last
result was sent. -/
theorem processWithin_reports {ctx : ContinuousBatchSchedulerContext C} {answers : EmbeddingAnswers}
    {method : EmbeddingNormalizationMethod} {within : List EmbeddingInputTokenized}
    {tx tx' : Sender EmbeddingResult} {llama llama' : LlamaContext} {result : Except String Unit}
    (hstop : ∀ n, answers.stop n ≠ .received)
    (h : processWithin ctx answers method within tx llama = (result, tx', llama')) :
    tx.Quiet EmbeddingResult.isDone tx' ∨
      ∃ tx₁ last, tx.Reports tx₁ (within.map (·.id)) ∧ tx₁.Extends tx' [last] ∧
      last.isDone = true := by
  unfold processWithin at h
  dsimp only at h
  split at h
  · cases h
    exact Or.inl (Sender.Quiet.refl _ tx)
  · rename_i batch hnew
    cases hrun : decodePlannedBatches ctx answers method within (planEmbeddingBatches
        (within.map (·.tokens.length)) ctx.inferenceParameters.nBatch ctx.desiredSlotsTotal)
        0 batch 0 tx
        llama with
    | mk sent rest =>
    obtain ⟨tx₁, llama₁⟩ := rest
    have hquiet := (decodePlannedBatches_spec ctx answers method within _ 0 _ 0 tx tx₁
      llama llama₁ sent hrun).1
    simp only [hrun] at h
    cases sent with
    | error err =>
      cases h
      exact Or.inl hquiet
    | ok emitted =>
      have hreports := decodePlannedBatches_reports hstop hrun
      rw [planEmbeddingBatches_partition _ _ (by simp)] at hreports
      cases hsend : tx₁.send (if emitted = 0 then .noEmbeddingsProduced else .done) with
      | mk delivered tx₂ =>
      have htx : tx' = tx₂ := by
        simp only [hsend] at h
        cases delivered <;> cases h <;> rfl
      subst htx
      rcases Sender.send_extends hsend with ⟨-, hext⟩ | ⟨-, heq, -⟩
      · refine Or.inr ⟨tx₁, _, hreports, hext, ?_⟩
        split <;> rfl
      · rw [heq]
        exact Or.inl hquiet

/-- The results that end a request whose documents were all looked at. -/
def EmbeddingResult.IsCompletion (result : EmbeddingResult) : Prop :=
  result = .done ∨ result = .noEmbeddingsProduced

theorem EmbeddingResult.IsCompletion.isDone {result : EmbeddingResult} (h : result.IsCompletion) :
    result.isDone = true := by
  rcases h with rfl | rfl <;> rfl

/-- What was delivered on a quiet channel does not end a request. -/
theorem Sender.Quiet.not_isDone {tx tx' : Sender EmbeddingResult}
    (h : tx.Quiet EmbeddingResult.isDone tx') (hfresh : tx.sent = []) {result : EmbeddingResult}
    (hsent : result ∈ tx'.sent) : result.isDone = false := by
  obtain ⟨events, hext, hopen⟩ := h
  rw [hext.sent, hfresh] at hsent
  exact hopen result hsent

/-- **A request that is processed to its end answers for every document once.**  The result that
ends it is the last one, and the others are about the documents of the batch. -/
theorem processEmbeddingBatch_documents {ctx : ContinuousBatchSchedulerContext C}
    {answers : EmbeddingAnswers} {request : GenerateEmbeddingBatchRequest}
    {tx' : Sender EmbeddingResult} {llama llama' : LlamaContext} {result : Except String Unit}
    (h : processEmbeddingBatch ctx answers request llama = (result, tx', llama'))
    (hfresh : request.generatedEmbeddingTx.sent = []) (hstop : ∀ n, answers.stop n ≠ .received)
    {last : EmbeddingResult} (hsent : last ∈ tx'.sent) (hlast : last.IsCompletion) :
    ∃ events, tx'.sent = events ++ [last] ∧ (∀ e ∈ events, e.isDone = false) ∧
      (events.filterMap EmbeddingResult.sourceDocumentId).Perm (request.inputBatch.map (·.id)) := by
  have hnotQuiet : ¬ request.generatedEmbeddingTx.Quiet EmbeddingResult.isDone tx' := by
    intro hquiet
    have hopen := hquiet.not_isDone hfresh hsent
    rw [hlast.isDone] at hopen
    cases hopen
  unfold processEmbeddingBatch at h
  dsimp only at h
  split at h
  · cases hsend : request.generatedEmbeddingTx.send .embeddingsDisabled with
    | mk delivered tx₁ =>
    have htx : tx' = tx₁ := by
      simp only [hsend] at h
      cases delivered <;> cases h <;> rfl
    subst htx
    rcases Sender.send_extends hsend with ⟨-, hext⟩ | ⟨-, heq, -⟩
    · rw [hext.sent, hfresh] at hsent
      rw [List.mem_singleton.mp hsent] at hlast
      rcases hlast with hlast | hlast <;> cases hlast
    · rw [heq, hfresh] at hsent
      cases hsent
  · split at h
    · cases h
      exact absurd (Sender.Quiet.refl _ _) hnotQuiet
    · rename_i inputs htokenize
      split at h
      · rename_i err tx₁ hreject
        cases h
        exact absurd (rejectOversized_spec _ _ _ _ _ hreject).1 hnotQuiet
      · rename_i within tx₁ hreject
        have hquiet := (rejectOversized_spec _ _ _ _ _ hreject).1
        rcases processWithin_reports hstop h with hrest | ⟨tx₂, last', hwithin, hext, hdone⟩
        · exact absurd (hquiet.trans hrest) hnotQuiet
        · obtain ⟨events, hevents, hopen, hids⟩ := (rejectOversized_reports hreject).trans hwithin
          have hall := (hevents.trans hext).sent
          rw [hfresh, List.nil_append] at hall
          rw [hall] at hsent
          have heq : last = last' := by
            rcases List.mem_append.mp hsent with hsent | hsent
            · have hnot := hopen last hsent
              rw [hlast.isDone] at hnot
              cases hnot
            · exact List.mem_singleton.mp hsent
          refine ⟨events, by rw [hall, heq], hopen, ?_⟩
          rw [hids, rejectOversized_ok hreject, ← tokenizeInputBatch_ids htokenize,
            ← List.map_append]
          refine List.Perm.map _ (List.perm_append_comm.trans ?_)
          exact List.filter_append_perm _ inputs

end Paddler
