import Mathlib.Algebra.Order.Floor.Div
import Paddler.Library.ContiguousPlan
import Paddler.Messaging.RequestParams

/-!
# Chunks of an embedding batch

Model of `generate_embedding_batch_params`: a batch is cut into consecutive chunks, one for every
agent or as many as the cap on the documents of a chunk asks for, whose sizes differ by at most one.

* `chunkEvenlyWithCap_inputBatch` — **every document is in one chunk**, in its place.
* `chunkEvenlyWithCap_length_le` — no chunk is over the cap.
* `chunkEvenlyWithCap_spec` — how many chunks there are, how large, and when there are none to be
  had.
-/

set_option autoImplicit false

namespace Paddler

structure GenerateEmbeddingBatchParams where
  inputBatch : List EmbeddingInputDocument
  normalizationMethod : EmbeddingNormalizationMethod
  deriving DecidableEq, Repr

/-- `chunk_evenly_with_cap_error.rs`. -/
inductive ChunkEvenlyWithCapError where
  | zeroAgentCount
  | zeroMaxDocumentsPerChunk
  deriving DecidableEq, Repr

namespace GenerateEmbeddingBatchParams

/-- The loop of `chunk_evenly_with_cap`, with so many chunks to go. -/
def chunksFrom (self : GenerateEmbeddingBatchParams) (quotient remainder : Nat) :
    Nat → Nat → Nat → List GenerateEmbeddingBatchParams
  | 0, _, _ => []
  | chunksLeft + 1, chunkIndex, startIndex =>
    let chunkSize := if chunkIndex < remainder then quotient + 1 else quotient
    let endIndex := startIndex + chunkSize
    { self with inputBatch := self.inputBatch.extract startIndex endIndex } ::
      self.chunksFrom quotient remainder chunksLeft (chunkIndex + 1) endIndex

/-- How many chunks there are. -/
def chunkCount (documentCount agentCount maxDocumentsPerChunk : Nat) : Nat :=
  let chunksToHonorCap := (documentCount + maxDocumentsPerChunk - 1) / maxDocumentsPerChunk
  min documentCount (max agentCount chunksToHonorCap)

def chunkEvenlyWithCap (self : GenerateEmbeddingBatchParams)
    (agentCount maxDocumentsPerChunk : Nat) :
    Except ChunkEvenlyWithCapError (List GenerateEmbeddingBatchParams) :=
  if agentCount = 0 then .error .zeroAgentCount
  else if maxDocumentsPerChunk = 0 then .error .zeroMaxDocumentsPerChunk
  else
    let documentCount := self.inputBatch.length
    if documentCount = 0 then .ok []
    else
      let chunkCount := chunkCount documentCount agentCount maxDocumentsPerChunk
      let quotient := documentCount / chunkCount
      let remainder := documentCount % chunkCount
      .ok (self.chunksFrom quotient remainder chunkCount 0 0)

/-! ## The chunks are the batch -/

variable (self : GenerateEmbeddingBatchParams)

/-- The first `chunkIndex` chunks take this many documents. -/
def startOf (quotient remainder chunkIndex : Nat) : Nat :=
  quotient * chunkIndex + min chunkIndex remainder

@[simp]
theorem startOf_zero (quotient remainder : Nat) : startOf quotient remainder 0 = 0 := by
  simp [startOf]

theorem startOf_succ (quotient remainder chunkIndex : Nat) :
    startOf quotient remainder (chunkIndex + 1) =
      startOf quotient remainder chunkIndex +
        if chunkIndex < remainder then quotient + 1 else quotient := by
  unfold startOf
  rw [Nat.mul_succ]
  split <;> omega

theorem startOf_le (quotient remainder chunkIndex more : Nat) :
    startOf quotient remainder chunkIndex ≤ startOf quotient remainder (chunkIndex + more) := by
  have hmul := Nat.mul_le_mul_left quotient (Nat.le_add_right chunkIndex more)
  unfold startOf
  omega

theorem startOf_div_mod (documentCount : Nat) {count : Nat} (hpos : 0 < count) :
    startOf (documentCount / count) (documentCount % count) count = documentCount := by
  have hmod := Nat.mod_lt documentCount hpos
  have hdiv := Nat.div_add_mod documentCount count
  unfold startOf
  rw [Nat.mul_comm, Nat.min_eq_right (Nat.le_of_lt hmod)]
  exact hdiv

theorem chunkCount_pos {documentCount agentCount : Nat} (maxDocumentsPerChunk : Nat)
    (hdocuments : 0 < documentCount) (hagents : 0 < agentCount) :
    0 < chunkCount documentCount agentCount maxDocumentsPerChunk :=
  Nat.lt_min.mpr ⟨hdocuments, Nat.lt_of_lt_of_le hagents (Nat.le_max_left ..)⟩

/-- The loop invariant: the chunks to go are the rest of the documents. -/
theorem chunksFrom_inputBatch (quotient remainder : Nat) :
    ∀ chunksLeft chunkIndex,
      (self.chunksFrom quotient remainder chunksLeft chunkIndex
          (startOf quotient remainder chunkIndex)).flatMap (·.inputBatch) =
        self.inputBatch.extract (startOf quotient remainder chunkIndex)
          (startOf quotient remainder (chunkIndex + chunksLeft))
  | 0, chunkIndex => by
    rw [chunksFrom, List.extract_eq_take_drop]
    simp
  | chunksLeft + 1, chunkIndex => by
    have ih := chunksFrom_inputBatch quotient remainder chunksLeft (chunkIndex + 1)
    have hindex : chunkIndex + 1 + chunksLeft = chunkIndex + (chunksLeft + 1) := by omega
    rw [hindex] at ih
    have hle := startOf_le quotient remainder chunkIndex 1
    have hle' := startOf_le quotient remainder (chunkIndex + 1) chunksLeft
    rw [hindex] at hle'
    rw [chunksFrom, List.flatMap_cons, ← startOf_succ, ih]
    exact ContiguousPlan.extract_append_extract self.inputBatch hle hle'

/-- No chunk for no document; otherwise the loop runs from the first document on. -/
theorem chunkEvenlyWithCap_ok {self : GenerateEmbeddingBatchParams}
    {agentCount maxDocumentsPerChunk : Nat} {batches : List GenerateEmbeddingBatchParams}
    (h : self.chunkEvenlyWithCap agentCount maxDocumentsPerChunk = .ok batches) :
    (self.inputBatch = [] ∧ batches = []) ∨
      ∃ count, count = chunkCount self.inputBatch.length agentCount maxDocumentsPerChunk ∧
      0 < count ∧
        0 < maxDocumentsPerChunk ∧
        batches = self.chunksFrom (self.inputBatch.length / count)
          (self.inputBatch.length % count) count 0
          0 := by
  unfold chunkEvenlyWithCap at h
  split at h
  · cases h
  · rename_i hagents
    split at h
    · cases h
    · rename_i hcap
      dsimp only at h
      split at h
      · rename_i hempty
        cases h
        exact Or.inl ⟨List.length_eq_zero_iff.mp hempty, rfl⟩
      · rename_i hne
        cases h
        have hpos := chunkCount_pos maxDocumentsPerChunk (Nat.pos_of_ne_zero hne)
          (Nat.pos_of_ne_zero hagents)
        exact Or.inr ⟨_, rfl, hpos, Nat.pos_of_ne_zero hcap, rfl⟩

/-- **Every document is in one chunk**, and they stay in their order. -/
theorem chunkEvenlyWithCap_inputBatch {self : GenerateEmbeddingBatchParams}
    {agentCount maxDocumentsPerChunk : Nat} {batches : List GenerateEmbeddingBatchParams}
    (h : self.chunkEvenlyWithCap agentCount maxDocumentsPerChunk = .ok batches) :
    batches.flatMap (·.inputBatch) = self.inputBatch := by
  rcases chunkEvenlyWithCap_ok h with ⟨hempty, rfl⟩ | ⟨count, -, hpos, -, rfl⟩
  · rw [hempty]
    rfl
  · have hcover := chunksFrom_inputBatch self (self.inputBatch.length / count)
      (self.inputBatch.length % count) count 0
    rw [Nat.zero_add, startOf_div_mod _ hpos, startOf_zero] at hcover
    rw [hcover, List.extract_eq_take_drop]
    simp

/-! ## No chunk is over the cap -/

theorem le_chunkCount_mul (documentCount agentCount : Nat) {maxDocumentsPerChunk : Nat}
    (hcap : 0 < maxDocumentsPerChunk) :
    documentCount ≤ chunkCount documentCount agentCount maxDocumentsPerChunk *
      maxDocumentsPerChunk := by
  generalize hceil : (documentCount + maxDocumentsPerChunk - 1) / maxDocumentsPerChunk = ceil
  have hall : documentCount ≤ ceil * maxDocumentsPerChunk := by
    have hlt := Nat.lt_succ_iff.mpr (Nat.le_of_eq hceil)
    rw [Nat.succ_eq_add_one, Nat.div_lt_iff_lt_mul hcap, Nat.succ_mul] at hlt
    omega
  have hceil_le : ceil ≤ max agentCount ceil := Nat.le_max_right ..
  unfold chunkCount
  dsimp only
  rw [hceil]
  rcases Nat.le_total documentCount (max agentCount ceil) with hle | hle
  · rw [Nat.min_eq_left hle]
    exact Nat.le_mul_of_pos_right _ hcap
  · rw [Nat.min_eq_right hle]
    exact Nat.le_trans hall (Nat.mul_le_mul_right _ hceil_le)

theorem chunksFrom_length_le (quotient remainder : Nat) :
    ∀ chunksLeft chunkIndex startIndex,
    ∀ batch ∈ self.chunksFrom quotient remainder chunksLeft chunkIndex
        startIndex,
      batch.inputBatch.length ≤ quotient + if 0 < remainder then 1 else 0
  | 0, _, _, _, hbatch => by cases hbatch
  | chunksLeft + 1, chunkIndex, startIndex, batch, hbatch => by
    rw [chunksFrom] at hbatch
    rcases List.mem_cons.mp hbatch with rfl | hbatch
    · dsimp only
      rw [List.extract_eq_take_drop, List.length_take]
      split <;> split <;> omega
    · exact chunksFrom_length_le quotient remainder chunksLeft _ _ batch hbatch

/-- **No chunk is over the cap.** -/
theorem chunkEvenlyWithCap_length_le {self : GenerateEmbeddingBatchParams}
    {agentCount maxDocumentsPerChunk : Nat} {batches : List GenerateEmbeddingBatchParams}
    (h : self.chunkEvenlyWithCap agentCount maxDocumentsPerChunk = .ok batches) :
    ∀ batch ∈ batches, batch.inputBatch.length ≤ maxDocumentsPerChunk := by
  intro batch hbatch
  rcases chunkEvenlyWithCap_ok h with ⟨-, rfl⟩ | ⟨count, hcount, hpos, hcap, rfl⟩
  · cases hbatch
  · have hle := chunksFrom_length_le self _ _ _ _ _ batch hbatch
    have henough := le_chunkCount_mul self.inputBatch.length agentCount hcap
    rw [← hcount] at henough
    refine Nat.le_trans hle ?_
    -- a chunk larger than the cap would make all chunks hold more documents than there are
    have hsum := Nat.div_add_mod self.inputBatch.length count
    rw [← hsum] at henough
    rw [Nat.mul_comm count maxDocumentsPerChunk, Nat.mul_comm] at henough
    by_cases hrest : 0 < self.inputBatch.length % count
    · rw [if_pos hrest]
      exact Nat.lt_of_mul_lt_mul_right (show _ * count < _ * count by omega)
    · rw [if_neg hrest, Nat.add_zero]
      exact Nat.le_of_mul_le_mul_right (show _ * count ≤ _ * count by omega) hpos

/-! ## The sizes of the chunks -/

/-- How many documents the chunk takes: the first `remainder` chunks take one more. -/
def chunkSize (quotient remainder chunkIndex : Nat) : Nat :=
  if chunkIndex < remainder then quotient + 1 else quotient

/-- Later chunks are not larger, and smaller by one document at most. -/
theorem chunkSize_balanced (quotient remainder : Nat) {i j : Nat} (hij : i < j) :
    chunkSize quotient remainder j ≤ chunkSize quotient remainder i ∧
      chunkSize quotient remainder i ≤ chunkSize quotient remainder j + 1 := by
  unfold chunkSize
  split <;> split <;> omega

/-- The loop invariant: where the documents last, every chunk gets its size. -/
theorem chunksFrom_lengths (quotient remainder : Nat) :
    ∀ chunksLeft chunkIndex,
      startOf quotient remainder (chunkIndex + chunksLeft) ≤ self.inputBatch.length →
      (self.chunksFrom quotient remainder chunksLeft chunkIndex
          (startOf quotient remainder chunkIndex)).map (·.inputBatch.length) =
        (List.range' chunkIndex chunksLeft).map (chunkSize quotient remainder)
  | 0, _, _ => rfl
  | chunksLeft + 1, chunkIndex, hlast => by
    have hindex : chunkIndex + 1 + chunksLeft = chunkIndex + (chunksLeft + 1) := by omega
    have ih := chunksFrom_lengths quotient remainder chunksLeft (chunkIndex + 1) (hindex ▸ hlast)
    have hle := startOf_le quotient remainder (chunkIndex + 1) chunksLeft
    rw [hindex] at hle
    have hsucc := startOf_succ quotient remainder chunkIndex
    rw [chunksFrom, List.range'_succ, List.map_cons, List.map_cons, ← hsucc, ih]
    congr 1
    rw [List.extract_eq_take_drop, List.length_take, List.length_drop]
    unfold chunkSize
    omega

/-- Every chunk has the normalization method of the batch. -/
theorem chunksFrom_normalizationMethod (quotient remainder : Nat) :
    ∀ chunksLeft chunkIndex startIndex,
    ∀ batch ∈ self.chunksFrom quotient remainder chunksLeft chunkIndex
        startIndex,
      batch.normalizationMethod = self.normalizationMethod
  | 0, _, _, _, hbatch => by cases hbatch
  | chunksLeft + 1, chunkIndex, startIndex, batch, hbatch => by
    rw [chunksFrom] at hbatch
    rcases List.mem_cons.mp hbatch with rfl | hbatch
    · rfl
    · exact chunksFrom_normalizationMethod quotient remainder chunksLeft _ _ batch hbatch

theorem chunkEvenlyWithCap_lengths {self : GenerateEmbeddingBatchParams}
    {agentCount maxDocumentsPerChunk : Nat} {batches : List GenerateEmbeddingBatchParams}
    (h : self.chunkEvenlyWithCap agentCount maxDocumentsPerChunk = .ok batches) :
    let count := chunkCount self.inputBatch.length agentCount maxDocumentsPerChunk
    batches.map (·.inputBatch.length) =
      (List.range' 0 count).map (chunkSize (self.inputBatch.length / count)
        (self.inputBatch.length % count)) := by
  rcases chunkEvenlyWithCap_ok h with ⟨hempty, rfl⟩ | ⟨count, rfl, hpos, -, rfl⟩
  · simp [hempty, chunkCount]
  · have hlast := startOf_div_mod self.inputBatch.length hpos
    have hlengths := chunksFrom_lengths self _ _ _ 0
      (Nat.le_of_eq (by rw [Nat.zero_add]; exact hlast))
    rw [startOf_zero] at hlengths
    exact hlengths

theorem chunkEvenlyWithCap_pos {self : GenerateEmbeddingBatchParams}
    {agentCount maxDocumentsPerChunk : Nat} {batches : List GenerateEmbeddingBatchParams}
    (h : self.chunkEvenlyWithCap agentCount maxDocumentsPerChunk = .ok batches) :
    ∀ batch ∈ batches, 0 < batch.inputBatch.length := by
  intro batch hbatch
  have hlengths := chunkEvenlyWithCap_lengths h
  rcases chunkEvenlyWithCap_ok h with ⟨-, rfl⟩ | ⟨count, hcount, hpos, -, -⟩
  · cases hbatch
  · rw [← hcount] at hlengths
    have hmem := List.mem_map_of_mem (f := fun batch => batch.inputBatch.length) hbatch
    rw [hlengths] at hmem
    obtain ⟨i, -, hi⟩ := List.mem_map.mp hmem
    -- there are not more chunks than documents
    have hle : count ≤ self.inputBatch.length := by
      rw [hcount]
      exact Nat.min_le_left ..
    have hquotient := Nat.div_pos hle hpos
    unfold chunkSize at hi
    split at hi <;> omega

theorem chunkEvenlyWithCap_balanced {self : GenerateEmbeddingBatchParams}
    {agentCount maxDocumentsPerChunk : Nat} {batches : List GenerateEmbeddingBatchParams}
    (h : self.chunkEvenlyWithCap agentCount maxDocumentsPerChunk = .ok batches) :
    batches.Pairwise fun earlier later =>
      later.inputBatch.length ≤ earlier.inputBatch.length ∧
        earlier.inputBatch.length ≤ later.inputBatch.length + 1 := by
  have hsizes : (batches.map (·.inputBatch.length)).Pairwise fun i j => j ≤ i ∧ i ≤ j + 1 := by
    rw [chunkEvenlyWithCap_lengths h]
    have hindexes := List.pairwise_lt_range' (s := 0)
      (n := chunkCount self.inputBatch.length agentCount maxDocumentsPerChunk)
    exact List.pairwise_map.mpr (hindexes.imp fun hij => chunkSize_balanced _ _ hij)
  exact List.pairwise_map.mp hsizes

theorem chunkEvenlyWithCap_length {self : GenerateEmbeddingBatchParams}
    {agentCount maxDocumentsPerChunk : Nat} {batches : List GenerateEmbeddingBatchParams}
    (h : self.chunkEvenlyWithCap agentCount maxDocumentsPerChunk = .ok batches) :
    batches.length = chunkCount self.inputBatch.length agentCount maxDocumentsPerChunk := by
  have hlengths := congrArg List.length (chunkEvenlyWithCap_lengths h)
  rwa [List.length_map, List.length_map, List.length_range'] at hlengths

theorem chunkEvenlyWithCap_normalizationMethod {self : GenerateEmbeddingBatchParams}
    {agentCount maxDocumentsPerChunk : Nat} {batches : List GenerateEmbeddingBatchParams}
    (h : self.chunkEvenlyWithCap agentCount maxDocumentsPerChunk = .ok batches) :
    ∀ batch ∈ batches, batch.normalizationMethod = self.normalizationMethod := by
  intro batch hbatch
  rcases chunkEvenlyWithCap_ok h with ⟨-, rfl⟩ | ⟨count, -, -, -, rfl⟩
  · cases hbatch
  · exact chunksFrom_normalizationMethod self _ _ _ _ _ batch hbatch

theorem chunkEvenlyWithCap_error_iff (agentCount maxDocumentsPerChunk : Nat) :
    (∃ err, self.chunkEvenlyWithCap agentCount maxDocumentsPerChunk = .error err) ↔
      agentCount = 0 ∨ maxDocumentsPerChunk = 0 := by
  unfold chunkEvenlyWithCap
  split
  · rename_i hagents
    exact ⟨fun _ => Or.inl hagents, fun _ => ⟨_, rfl⟩⟩
  · rename_i hagents
    split
    · rename_i hcap
      exact ⟨fun _ => Or.inr hcap, fun _ => ⟨_, rfl⟩⟩
    · rename_i hcap
      dsimp only
      refine ⟨fun ⟨err, herr⟩ => ?_, fun hzero => absurd hzero (not_or.mpr ⟨hagents, hcap⟩)⟩
      split at herr <;> cases herr

/-- **The chunks of a batch**: they are the batch in its order, none is empty or over the cap, their
sizes are even, they are as many as the agents or the cap ask for, and nothing but the documents
differs. -/
theorem chunkEvenlyWithCap_spec (self : GenerateEmbeddingBatchParams)
    (agentCount maxDocumentsPerChunk : Nat) :
    ((∃ err, self.chunkEvenlyWithCap agentCount maxDocumentsPerChunk = .error err) ↔
        agentCount = 0 ∨ maxDocumentsPerChunk = 0) ∧
      ∀ batches, self.chunkEvenlyWithCap agentCount maxDocumentsPerChunk = .ok batches →
        batches.flatMap (·.inputBatch) = self.inputBatch ∧
        (∀ batch ∈ batches, batch.inputBatch ≠ [] ∧
          batch.inputBatch.length ≤ maxDocumentsPerChunk ∧
          batch.normalizationMethod = self.normalizationMethod) ∧
        (batches.Pairwise fun earlier later =>
          later.inputBatch.length ≤ earlier.inputBatch.length ∧
            earlier.inputBatch.length ≤ later.inputBatch.length + 1) ∧
        batches.length =
          min self.inputBatch.length
            (max agentCount (self.inputBatch.length ⌈/⌉ maxDocumentsPerChunk)) := by
  refine ⟨chunkEvenlyWithCap_error_iff self agentCount maxDocumentsPerChunk, fun batches h => ?_⟩
  refine ⟨chunkEvenlyWithCap_inputBatch h, fun batch hbatch => ?_,
    chunkEvenlyWithCap_balanced h, ?_⟩
  · exact ⟨List.length_pos_iff.mp (chunkEvenlyWithCap_pos h batch hbatch),
      chunkEvenlyWithCap_length_le h batch hbatch,
      chunkEvenlyWithCap_normalizationMethod h batch hbatch⟩
  · rw [chunkEvenlyWithCap_length h, Nat.ceilDiv_eq_add_pred_div]
    rfl

end GenerateEmbeddingBatchParams

end Paddler
