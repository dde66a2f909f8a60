import Mathlib.Data.List.Chain
import Paddler.Library.ContiguousPlan
import Paddler.Agent.EmbeddingDocuments

/-!
# The plan of embedding batches

What `plan_embedding_batches` returns, for every list of token counts: ranges that are not empty and
lie next to each other, from the first document to the last.  Where every document fits on its own,
the plan fills each batch as far as its two limits allow, and no other plan needs fewer batches.

Counts are natural numbers: the sum that the loop makes is at most the number of tokens of all
documents, which are in memory at once.

* `planEmbeddingBatchesFrom_contiguous`, `planEmbeddingBatchesFrom_maximal` — what the loop leaves,
  from any of its iterations on.
* `planEmbeddingBatches_shortest` — **the plan is greedy and no plan within the limits is shorter**.
-/

set_option autoImplicit false

namespace Paddler

open ContiguousPlan

/-- The two limits of a batch: at most `n_batch` tokens and at most `max_sequences_per_batch`
documents. -/
def FitsLimits (nBatch : Nat) (maxSequencesPerBatch : Int) (counts : List Nat) : Prop :=
  counts.sum ≤ nBatch ∧ (counts.length : Int) ≤ maxSequencesPerBatch

/-- A range of documents within both limits. -/
def WithinLimits (tokenCounts : List Nat) (nBatch : Nat) (maxSequencesPerBatch : Int)
    (range : Nat × Nat) : Prop :=
  FitsLimits nBatch maxSequencesPerBatch (rangeOf range tokenCounts)

theorem fitsLimits_hereditary (nBatch : Nat) (maxSequences : Int) :
    Hereditary (FitsLimits nBatch maxSequences) := by
  rintro xs ys ⟨before, after, rfl⟩ ⟨hsum, hlen⟩
  rw [List.sum_append, List.sum_append] at hsum
  rw [List.length_append, List.length_append] at hlen
  constructor <;> omega

/-! ## The loop -/

/-- The ranges to come begin where the open one does and end at the last document. -/
theorem planEmbeddingBatchesFrom_contiguous (nBatch : Nat) (maxSequences : Int) :
    ∀ (rest : List Nat) (start currentTokens current : Nat),
      Contiguous start
          (planEmbeddingBatchesFrom nBatch maxSequences rest
            (start + current) start currentTokens current)
          (start + current + rest.length) ∧
        ∀ range ∈ planEmbeddingBatchesFrom nBatch maxSequences rest (start + current) start currentTokens
            current, range.1 < range.2
  | [], start, currentTokens, current => by
    unfold planEmbeddingBatchesFrom
    split
    · have hlt : start < start + current := by omega
      exact ⟨⟨rfl, Nat.le_of_lt hlt, rfl⟩, by simpa using hlt⟩
    · have hzero : current = 0 := by omega
      subst hzero
      exact ⟨rfl, by simp⟩
  | tokenCount :: rest, start, currentTokens, current => by
    have hlength : (tokenCount :: rest).length = rest.length + 1 := rfl
    unfold planEmbeddingBatchesFrom
    split
    · obtain ⟨ih, hne⟩ :=
        planEmbeddingBatchesFrom_contiguous nBatch maxSequences rest (start + current)
        tokenCount 1
      rename_i hcut
      have hlt : start < start + current := by omega
      have hstop : start + current + 1 + rest.length = start + current +
          (tokenCount :: rest).length := by
        omega
      rw [hstop] at ih
      exact ⟨⟨rfl, Nat.le_of_lt hlt, ih⟩, List.forall_mem_cons.mpr ⟨hlt, hne⟩⟩
    · have ih := planEmbeddingBatchesFrom_contiguous nBatch maxSequences rest start
        (currentTokens + tokenCount) (current + 1)
      have hstop : start + (current + 1) + rest.length = start + current +
          (tokenCount :: rest).length := by
        omega
      rw [hstop] at ih
      exact ih

/-- The loop invariant: a range is closed only when the next document does not fit into it. -/
theorem planEmbeddingBatchesFrom_maximal (nBatch : Nat) (maxSequences : Int) :
    ∀ (rest before current : List Nat),
      (planEmbeddingBatchesFrom nBatch maxSequences rest (before.length + current.length)
        before.length
          current.sum current.length).IsChain
        fun range next =>
          ¬ WithinLimits (before ++ current ++ rest) nBatch maxSequences (range.1, next.1 + 1)
  | [], before, current => by
    unfold planEmbeddingBatchesFrom
    split
    · exact List.IsChain.singleton _
    · exact List.IsChain.nil
  | n :: rest, before, current => by
    unfold planEmbeddingBatchesFrom
    split
    · rename_i hcut
      have ih := planEmbeddingBatchesFrom_maximal nBatch maxSequences rest (before ++ current) [n]
      have hcontiguous := (planEmbeddingBatchesFrom_contiguous nBatch maxSequences rest
        (before.length + current.length) n 1).1
      simp only [List.length_append, List.length_singleton, List.sum_singleton, List.append_assoc,
        List.singleton_append] at ih
      refine List.isChain_cons.mpr ⟨fun next hnext => ?_, by simpa [List.append_assoc] using ih⟩
      have hrange := rangeOf_append before (current ++ [n]) rest
      rw [List.length_append, List.length_singleton, List.append_assoc, List.append_assoc,
        List.singleton_append, ← Nat.add_assoc, ← List.append_assoc] at hrange
      unfold WithinLimits
      rw [hcontiguous.head_start hnext, hrange]
      rintro ⟨hsum, hlen⟩
      rw [List.sum_append, List.sum_singleton] at hsum
      rw [List.length_append, List.length_singleton] at hlen
      omega
    · have ih := planEmbeddingBatchesFrom_maximal nBatch maxSequences rest before (current ++ [n])
      simpa [List.append_assoc, Nat.add_assoc] using ih

/-! ## The plan -/

theorem planEmbeddingBatches_contiguous (tokenCounts : List Nat) (nBatch : Nat)
    (maxSequences : Int) :
    Contiguous 0 (planEmbeddingBatches tokenCounts nBatch maxSequences) tokenCounts.length ∧
      ∀ range ∈ planEmbeddingBatches tokenCounts nBatch maxSequences, range.1 < range.2 := by
  have h := planEmbeddingBatchesFrom_contiguous nBatch maxSequences tokenCounts 0 0 0
  rw [Nat.zero_add, Nat.zero_add] at h
  exact h

theorem planEmbeddingBatches_maximal (tokenCounts : List Nat) (nBatch : Nat) (maxSequences : Int) :
    (planEmbeddingBatches tokenCounts nBatch maxSequences).IsChain fun range next =>
      ¬ WithinLimits tokenCounts nBatch maxSequences (range.1, next.1 + 1) :=
  planEmbeddingBatchesFrom_maximal nBatch maxSequences tokenCounts [] []

/-- Where every document fits on its own, every range is within the limits. -/
theorem planEmbeddingBatches_withinLimits {tokenCounts : List Nat} {nBatch : Nat}
    {maxSequences : Int} (hcounts : ∀ n ∈ tokenCounts, n ≤ nBatch) (hmax : 1 ≤ maxSequences) :
    ∀ range ∈ planEmbeddingBatches tokenCounts nBatch maxSequences,
      WithinLimits tokenCounts nBatch maxSequences range := by
  intro range hrange
  obtain ⟨hsum, hlen⟩ := planEmbeddingBatches_fits hcounts range hrange
  rw [Int.max_eq_right hmax] at hlen
  exact ⟨hsum, hlen⟩

theorem planEmbeddingBatches_length_le {tokenCounts : List Nat} {nBatch : Nat} {maxSequences : Int}
    {others : List (Nat × Nat)} (hcover : Contiguous 0 others tokenCounts.length)
    (hothers : ∀ range ∈ others, WithinLimits tokenCounts nBatch maxSequences range) :
    (planEmbeddingBatches tokenCounts nBatch maxSequences).length ≤ others.length := by
  obtain ⟨hplan, hne⟩ := planEmbeddingBatches_contiguous tokenCounts nBatch maxSequences
  exact hplan.length_le (fitsLimits_hereditary nBatch maxSequences) (Nat.le_refl _) hne
    (planEmbeddingBatches_maximal tokenCounts nBatch maxSequences) hcover hothers

/-- **The plan is greedy and no plan within the limits is shorter.** -/
theorem planEmbeddingBatches_shortest (tokenCounts : List Nat) (nBatch : Nat) (maxSequences : Int) :
    Contiguous 0 (planEmbeddingBatches tokenCounts nBatch maxSequences) tokenCounts.length ∧
      (∀ range ∈ planEmbeddingBatches tokenCounts nBatch maxSequences, range.1 < range.2) ∧
      ((∀ n ∈ tokenCounts, n ≤ nBatch) → 1 ≤ maxSequences →
        (∀ range ∈ planEmbeddingBatches tokenCounts nBatch maxSequences,
          WithinLimits tokenCounts nBatch maxSequences range) ∧
        ((planEmbeddingBatches tokenCounts nBatch maxSequences).IsChain fun range next =>
          ¬ WithinLimits tokenCounts nBatch maxSequences (range.1, next.1 + 1)) ∧
        ∀ others, Contiguous 0 others tokenCounts.length →
          (∀ range ∈ others, WithinLimits tokenCounts nBatch maxSequences range) →
          (planEmbeddingBatches tokenCounts nBatch maxSequences).length ≤ others.length) := by
  obtain ⟨hcontiguous, hne⟩ := planEmbeddingBatches_contiguous tokenCounts nBatch maxSequences
  refine ⟨hcontiguous, hne, fun hcounts hmax => ?_⟩
  exact ⟨planEmbeddingBatches_withinLimits hcounts hmax,
    planEmbeddingBatches_maximal tokenCounts nBatch maxSequences,
    fun others hcover hothers => planEmbeddingBatches_length_le hcover hothers⟩

/-- Two documents fill the tokens of a batch, and the next two are all that it may have. -/
theorem planEmbeddingBatches_shortest_five :
    planEmbeddingBatches [6, 4, 1, 1, 1] 10 2 = [(0, 2), (2, 4), (4, 5)] ∧
      ∀ others, Contiguous 0 others 5 →
        (∀ range ∈ others, WithinLimits [6, 4, 1, 1, 1] 10 2 range) → 3 ≤ others.length :=
  ⟨by decide, ((planEmbeddingBatches_shortest [6, 4, 1, 1, 1] 10 2).2.2 (by decide)
    (by decide)).2.2⟩

end Paddler
