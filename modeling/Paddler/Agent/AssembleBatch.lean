import Paddler.Library.VecUpdate
import Paddler.Agent.ActiveRequest

/-!
# Assembling, decoding and committing a batch

Model of `batch_pass.rs`, `contributions.rs`, `assemble_batch_phase.rs` and `commit_phase.rs`:
pending tokens of generating requests first, then prompt chunks while there is room, then, after
a successful decode, the bookkeeping of every contributor by its index.

* `generatingPlan`, `ingestingPlan` — which request contributes what, and at which row.
* `assemble_eq` — assembling never fails and packs exactly the planned segments.
* `decodeStep_commit` — **what a decoded batch does to each request**: nothing, one generated
  token, or one prompt chunk; never somebody else's tokens.
* `assemble_isEmpty_iff` — when a batch comes out empty.
-/

set_option autoImplicit false

namespace Paddler

open VecUpdate

variable {C : Type}

/-! ## The pass -/

/-- `generating_contribution.rs`. -/
structure GeneratingContribution where
  requestIndex : Nat
  batchPosition : Int
  deriving DecidableEq, Repr

/-- `ingesting_contribution.rs`. -/
structure IngestingContribution where
  requestIndex : Nat
  chunkSize : Nat
  isLastChunk : Bool
  lastBatchPosition : Int
  deriving DecidableEq, Repr

/-- `contributions.rs`. -/
structure Contributions where
  generating : List GeneratingContribution
  ingesting : List IngestingContribution
  currentBatchTokenCount : Nat
  deriving DecidableEq, Repr

def Contributions.isEmpty (self : Contributions) : Bool :=
  self.generating.isEmpty && self.ingesting.isEmpty

/-- `batch_pass.rs`. -/
structure BatchPass where
  batch : LlamaBatch
  contributions : Contributions
  deriving DecidableEq, Repr

def BatchPass.new (nBatch : Nat) : Except String BatchPass :=
  match LlamaBatch.new nBatch with
  | .error err => .error err
  | .ok batch => .ok ⟨batch, ⟨[], [], 0⟩⟩

def BatchPass.isEmpty (self : BatchPass) : Bool := self.contributions.isEmpty

/-! ## Assembling -/

/-- `AssembleBatchPhase::fill_generating`, from request `requestIndex` on. -/
def fillGenerating (nBatch : Nat) : List (ContinuousBatchActiveRequest C) → Nat → Nat → BatchPass →
    Except String (Nat × BatchPass)
  | [], _, tokensAdded, pass => .ok (tokensAdded, pass)
  | request :: requests, requestIndex, tokensAdded, pass =>
    match request.state.phase, request.state.pendingSampledToken with
    | .generating, some pendingToken =>
      if nBatch ≤ tokensAdded then .ok (tokensAdded, pass)
      else
        match pass.batch.add ⟨pendingToken.token, request.state.currentTokenPosition,
            request.sequenceId, true, request.id⟩ with
        | .error err => .error err
        | .ok batch =>
          fillGenerating nBatch requests (requestIndex + 1) (tokensAdded + 1)
            { batch := batch
              contributions := { pass.contributions with
                generating := pass.contributions.generating ++
                  [⟨requestIndex, pass.batch.nTokens⟩] } }
    | _, _ => fillGenerating nBatch requests (requestIndex + 1) tokensAdded pass

def computeIngestingChunkSize (remainingPromptLen nBatch currentBatchTokenCount : Nat) : Nat :=
  min remainingPromptLen (nBatch - currentBatchTokenCount)

/-- The loop over one chunk in `fill_ingesting`, from `offset` on. -/
def addChunk (request : ContinuousBatchActiveRequest C) (chunkSize : Nat) (isLastChunk : Bool) :
    List LlamaToken → Nat → LlamaBatch → Except String LlamaBatch
  | [], _, batch => .ok batch
  | token :: tokens, offset, batch =>
    if i32Max < offset then .error "token offset does not fit in i32"
    else
      match batch.add ⟨token, request.state.currentTokenPosition + offset, request.sequenceId,
          isLastChunk && offset == chunkSize - 1, request.id⟩ with
      | .error err => .error err
      | .ok batch => addChunk request chunkSize isLastChunk tokens (offset + 1) batch

/-- `AssembleBatchPhase::fill_ingesting`, from request `requestIndex` on. -/
def fillIngesting (nBatch : Nat) : List (ContinuousBatchActiveRequest C) → Nat → BatchPass →
    Except String BatchPass
  | [], _, pass => .ok pass
  | request :: requests, requestIndex, pass =>
    match request.state.phase with
    | .ingesting =>
      let chunkSize := computeIngestingChunkSize request.state.remainingPromptTokens.length nBatch
        pass.contributions.currentBatchTokenCount
      if chunkSize = 0 then fillIngesting nBatch requests (requestIndex + 1) pass
      else
        let chunk := request.state.remainingPromptTokens.take chunkSize
        let isLastChunk := decide
          (request.state.promptTokens.length ≤ request.state.promptTokensIngested + chunkSize)
        match addChunk request chunkSize isLastChunk chunk 0 pass.batch with
        | .error err => .error err
        | .ok batch =>
          fillIngesting nBatch requests (requestIndex + 1)
            { batch := batch
              contributions := { pass.contributions with
                ingesting := pass.contributions.ingesting ++
                  [⟨requestIndex, chunkSize, isLastChunk, batch.nTokens - 1⟩]
                currentBatchTokenCount :=
                  pass.contributions.currentBatchTokenCount + chunkSize } }
    | _ => fillIngesting nBatch requests (requestIndex + 1) pass

/-- `AssembleBatchPhase::run`. -/
def assembleBatchPhase (nBatch : Nat) (pass : BatchPass)
    (requests : List (ContinuousBatchActiveRequest C)) : Except String BatchPass :=
  match fillGenerating nBatch requests 0 0 pass with
  | .error err => .error err
  | .ok filled =>
    fillIngesting nBatch requests 0 { filled.2 with
      contributions := { filled.2.contributions with
        currentBatchTokenCount := filled.2.contributions.currentBatchTokenCount + filled.1 } }

/-! ## Committing -/

/-- The generating half of `commit_phase::run`. -/
def commitGenerating (contributions : List GeneratingContribution)
    (requests : List (ContinuousBatchActiveRequest C)) : List (ContinuousBatchActiveRequest C) :=
  contributions.foldl (fun requests contribution =>
    requests.modify contribution.requestIndex fun request =>
      { request with state := request.state.applyGeneratingContribution contribution.batchPosition })
    requests

/-- The ingesting half of `commit_phase::run`: it returns at the first chunk that does not fit in
an `i32` (`false`). -/
def commitIngesting : List IngestingContribution → List (ContinuousBatchActiveRequest C) →
    Bool × List (ContinuousBatchActiveRequest C)
  | [], requests => (true, requests)
  | contribution :: contributions, requests =>
    let committed := requests.modify contribution.requestIndex fun request =>
      { request with state := (request.state.applyIngestingContribution contribution.chunkSize
          contribution.isLastChunk contribution.lastBatchPosition).2 }
    match requests[contribution.requestIndex]? with
    | none => (false, requests)
    | some request =>
      if (request.state.applyIngestingContribution contribution.chunkSize
          contribution.isLastChunk contribution.lastBatchPosition).1 then
        commitIngesting contributions committed
      else (false, committed)

/-- `commit_phase::run`. -/
def commitPhase (pass : BatchPass) (requests : List (ContinuousBatchActiveRequest C)) :
    Bool × List (ContinuousBatchActiveRequest C) :=
  commitIngesting pass.contributions.ingesting
    (commitGenerating pass.contributions.generating requests)

/-- History of a decoded batch: each request sees the tokens of its own sequence. -/
def ContinuousBatchActiveRequest.recordDecoded (tokens : List BatchToken)
    (request : ContinuousBatchActiveRequest C) : ContinuousBatchActiveRequest C :=
  { request with history := { request.history with
      decoded := request.history.decoded ++
        tokens.filter fun token => token.seqId == request.sequenceId } }

/-! ## What is planned -/

/-- The token a generating request has ready for the next batch. -/
def ContinuousBatchActiveRequest.generatingToken (r : ContinuousBatchActiveRequest C) :
    Option BatchToken :=
  match r.state.phase, r.state.pendingSampledToken with
  | .generating, some t =>
    some ⟨t.token, r.state.currentTokenPosition, r.sequenceId, true, r.id⟩
  | _, _ => none

/-- The row of each request's pending token, if it gets one. -/
def generatingPlan (nBatch : Nat) :
    List (ContinuousBatchActiveRequest C) → Nat → List (Option Nat)
  | [], _ => []
  | r :: rs, added =>
    if r.generatingToken.isSome = true ∧ added < nBatch then
      some added :: generatingPlan nBatch rs (added + 1)
    else none :: generatingPlan nBatch rs added

/-- The batch tokens of a planned generating request. -/
def generatingSegment (r : ContinuousBatchActiveRequest C) (p : Option Nat) : List BatchToken :=
  match p with
  | none => []
  | some _ => r.generatingToken.toList

/-- A prompt chunk of one request, with the row of its last token. -/
structure PlannedChunk where
  chunkSize : Nat
  isLastChunk : Bool
  lastBatchPosition : Nat

/-- The size of a request's next chunk when `count` tokens are in the batch. -/
def ContinuousBatchActiveRequest.nextChunkSize (r : ContinuousBatchActiveRequest C)
    (nBatch count : Nat) : Nat :=
  match r.state.phase with
  | .ingesting => computeIngestingChunkSize r.state.remainingPromptTokens.length nBatch count
  | _ => 0

/-- Whether a chunk of size `k` is the last one of the prompt. -/
def ContinuousBatchActiveRequest.isLastChunk (r : ContinuousBatchActiveRequest C) (k : Nat) :
    Bool :=
  decide (r.state.promptTokens.length ≤ r.state.promptTokensIngested + k)

/-- The chunk of each request, if it gets one. -/
def ingestingPlan (nBatch : Nat) :
    List (ContinuousBatchActiveRequest C) → Nat → List (Option PlannedChunk)
  | [], _ => []
  | r :: rs, count =>
    let k := r.nextChunkSize nBatch count
    if k = 0 then none :: ingestingPlan nBatch rs count
    else some ⟨k, r.isLastChunk k, count + k - 1⟩ :: ingestingPlan nBatch rs (count + k)

/-- The batch tokens of a chunk, from `offset` on. -/
def chunkTokens (r : ContinuousBatchActiveRequest C) (k : Nat) (isLast : Bool)
    (tokens : List LlamaToken) (offset : Nat) : List BatchToken :=
  (tokens.zipIdx offset).map fun t =>
    ⟨t.1, r.state.currentTokenPosition + t.2, r.sequenceId, isLast && t.2 == k - 1, r.id⟩

/-- The batch tokens of a planned ingesting request. -/
def ingestingSegment (r : ContinuousBatchActiveRequest C) (p : Option PlannedChunk) :
    List BatchToken :=
  match p with
  | none => []
  | some chunk => chunkTokens r chunk.chunkSize chunk.isLastChunk
      (r.state.remainingPromptTokens.take chunk.chunkSize) 0

/-! ## Assembling follows the plan -/

theorem generatingToken_eq_some {r : ContinuousBatchActiveRequest C} {b : BatchToken} :
    r.generatingToken = some b ↔ ∃ t, r.state.phase = .generating ∧
      r.state.pendingSampledToken = some t ∧
      b = ⟨t.token, r.state.currentTokenPosition, r.sequenceId, true, r.id⟩ := by
  unfold ContinuousBatchActiveRequest.generatingToken
  split
  · rename_i t hphase hpending
    constructor
    · rintro ⟨⟩
      exact ⟨t, hphase, hpending, rfl⟩
    · rintro ⟨t', -, hp, rfl⟩
      rw [hpending] at hp
      cases hp
      rfl
  · rename_i hno
    constructor
    · intro h
      cases h
    · rintro ⟨t, hphase, hpending, -⟩
      exact absurd hpending (hno t hphase)

theorem generatingPlan_length (nBatch : Nat) :
    ∀ (rs : List (ContinuousBatchActiveRequest C)) (added : Nat),
      (generatingPlan nBatch rs added).length = rs.length
  | [], _ => rfl
  | r :: rs, added => by
    unfold generatingPlan
    split <;> simp [generatingPlan_length]

theorem generatingPlan_full {nBatch : Nat} :
    ∀ (rs : List (ContinuousBatchActiveRequest C)) {added : Nat}, nBatch ≤ added →
      ∀ p ∈ generatingPlan nBatch rs added, p = none
  | [], _, _ => by simp [generatingPlan]
  | r :: rs, added, h => by
    unfold generatingPlan
    rw [if_neg (by omega)]
    intro p hp
    rcases List.mem_cons.mp hp with hp | hp
    · exact hp
    · exact generatingPlan_full rs h p hp

/-- The planned pending tokens, in the order of the batch. -/
def generatingTokens (nBatch : Nat) (rs : List (ContinuousBatchActiveRequest C)) (added : Nat) :
    List BatchToken :=
  (List.zipWith generatingSegment rs (generatingPlan nBatch rs added)).flatten

/-- The planned chunks, in the order of the batch. -/
def ingestingTokens (nBatch : Nat) (rs : List (ContinuousBatchActiveRequest C)) (count : Nat) :
    List BatchToken :=
  (List.zipWith ingestingSegment rs (ingestingPlan nBatch rs count)).flatten

theorem generatingTokens_full {nBatch : Nat} (rs : List (ContinuousBatchActiveRequest C))
    {added : Nat} (h : nBatch ≤ added) : generatingTokens nBatch rs added = [] := by
  unfold generatingTokens
  rw [List.flatten_eq_nil_iff]
  intro segment hs
  obtain ⟨i, hi, rfl⟩ := List.getElem_of_mem hs
  rw [List.getElem_zipWith,
    generatingPlan_full rs h _ (List.getElem_mem _)]
  rfl

theorem generatingTokens_cons_some {nBatch added : Nat} {r : ContinuousBatchActiveRequest C}
    {rs : List (ContinuousBatchActiveRequest C)} {b : BatchToken}
    (hb : r.generatingToken = some b) (hlt : added < nBatch) :
    generatingTokens nBatch (r :: rs) added = b :: generatingTokens nBatch rs (added + 1) := by
  simp [generatingTokens, generatingPlan, generatingSegment, hb, hlt]

theorem generatingTokens_cons_none {nBatch added : Nat} {r : ContinuousBatchActiveRequest C}
    {rs : List (ContinuousBatchActiveRequest C)} (hb : r.generatingToken = none) :
    generatingTokens nBatch (r :: rs) added = generatingTokens nBatch rs added := by
  simp [generatingTokens, generatingPlan, generatingSegment, hb]

/-- **`fill_generating` packs the planned pending tokens.** -/
theorem fillGenerating_eq {nBatch : Nat} :
    ∀ (rs : List (ContinuousBatchActiveRequest C)) (k added : Nat) (pass : BatchPass),
      pass.batch.capacity = nBatch → pass.batch.tokens.length = added →
      fillGenerating nBatch rs k added pass =
        .ok (added + (generatingTokens nBatch rs added).length,
          { batch := { pass.batch with
              tokens := pass.batch.tokens ++ generatingTokens nBatch rs added }
            contributions := { pass.contributions with
              generating := pass.contributions.generating ++
                (selected (generatingPlan nBatch rs added) k).map fun u => ⟨u.1, u.2⟩ } })
  | [], k, added, pass, _, _ => by
    simp [fillGenerating, generatingTokens, generatingPlan, selected]
  | r :: rs, k, added, pass, hcap, hlen => by
    cases hb : r.generatingToken with
    | none =>
      have hskip : fillGenerating nBatch (r :: rs) k added pass =
          fillGenerating nBatch rs (k + 1) added pass := by
        unfold ContinuousBatchActiveRequest.generatingToken at hb
        rw [fillGenerating]
        split at hb
        · cases hb
        · rfl
      rw [hskip, fillGenerating_eq rs (k + 1) added pass hcap hlen, generatingTokens_cons_none hb]
      simp [generatingPlan, hb, selected]
    | some b =>
      obtain ⟨t, hphase, hpending, hbt⟩ := generatingToken_eq_some.mp hb
      rw [fillGenerating]
      simp only [hphase, hpending]
      by_cases hfull : nBatch ≤ added
      · rw [if_pos hfull, generatingTokens_full _ hfull,
          selected_eq_nil.mpr (generatingPlan_full _ hfull)]
        simp
      · rw [if_neg hfull, ← hbt, LlamaBatch.add_of_lt _ (by omega)]
        dsimp only
        refine (fillGenerating_eq rs (k + 1) (added + 1) _ ?_ ?_).trans ?_
        · exact hcap
        · simp [hlen]
        rw [generatingTokens_cons_some hb (by omega)]
        have hplan : generatingPlan nBatch (r :: rs) added =
            some added :: generatingPlan nBatch rs (added + 1) := by
          simp [generatingPlan, hb, Nat.lt_of_not_le hfull]
        rw [hplan]
        simp [selected, LlamaBatch.nTokens, hlen, Nat.add_assoc, Nat.add_comm]

theorem addChunk_eq (r : ContinuousBatchActiveRequest C) (chunkSize : Nat) (isLast : Bool) :
    ∀ (tokens : List LlamaToken) (offset : Nat) (batch : LlamaBatch),
      batch.tokens.length + tokens.length ≤ batch.capacity →
      offset + tokens.length ≤ i32Max + 1 →
      addChunk r chunkSize isLast tokens offset batch =
        .ok { batch with
          tokens := batch.tokens ++ chunkTokens r chunkSize isLast tokens offset }
  | [], offset, batch, _, _ => by simp [addChunk, chunkTokens]
  | t :: ts, offset, batch, hcap, hoff => by
    simp only [List.length_cons] at hcap hoff
    rw [addChunk, if_neg (by omega), LlamaBatch.add_of_lt _ (by omega)]
    dsimp only
    rw [addChunk_eq r chunkSize isLast ts (offset + 1) _ (by simp; omega) (by omega)]
    simp [chunkTokens]

theorem nextChunkSize_le (r : ContinuousBatchActiveRequest C) (nBatch count : Nat) :
    r.nextChunkSize nBatch count ≤ r.state.remainingPromptTokens.length ∧
      r.nextChunkSize nBatch count ≤ nBatch - count := by
  unfold ContinuousBatchActiveRequest.nextChunkSize computeIngestingChunkSize
  split
  · exact ⟨Nat.min_le_left _ _, Nat.min_le_right _ _⟩
  · exact ⟨Nat.zero_le _, Nat.zero_le _⟩

theorem chunkTokens_length (r : ContinuousBatchActiveRequest C) (k : Nat) (isLast : Bool)
    (tokens : List LlamaToken) (offset : Nat) :
    (chunkTokens r k isLast tokens offset).length = tokens.length := by
  simp [chunkTokens]

theorem ingestingPlan_cons_zero {nBatch count : Nat} {r : ContinuousBatchActiveRequest C}
    {rs : List (ContinuousBatchActiveRequest C)} (h : r.nextChunkSize nBatch count = 0) :
    ingestingPlan nBatch (r :: rs) count = none :: ingestingPlan nBatch rs count := by
  simp [ingestingPlan, h]

theorem ingestingPlan_cons {nBatch count : Nat} {r : ContinuousBatchActiveRequest C}
    {rs : List (ContinuousBatchActiveRequest C)} (h : r.nextChunkSize nBatch count ≠ 0) :
    ingestingPlan nBatch (r :: rs) count =
      some ⟨r.nextChunkSize nBatch count, r.isLastChunk (r.nextChunkSize nBatch count),
        count + r.nextChunkSize nBatch count - 1⟩ ::
      ingestingPlan nBatch rs (count + r.nextChunkSize nBatch count) := by
  simp [ingestingPlan, h]

theorem ingestingTokens_cons_zero {nBatch count : Nat} {r : ContinuousBatchActiveRequest C}
    {rs : List (ContinuousBatchActiveRequest C)} (h : r.nextChunkSize nBatch count = 0) :
    ingestingTokens nBatch (r :: rs) count = ingestingTokens nBatch rs count := by
  simp [ingestingTokens, ingestingPlan_cons_zero h, ingestingSegment]

theorem ingestingTokens_cons {nBatch count : Nat} {r : ContinuousBatchActiveRequest C}
    {rs : List (ContinuousBatchActiveRequest C)} (h : r.nextChunkSize nBatch count ≠ 0) :
    ingestingTokens nBatch (r :: rs) count =
      ingestingSegment r (some ⟨r.nextChunkSize nBatch count,
        r.isLastChunk (r.nextChunkSize nBatch count), count + r.nextChunkSize nBatch count - 1⟩) ++
      ingestingTokens nBatch rs (count + r.nextChunkSize nBatch count) := by
  simp [ingestingTokens, ingestingPlan_cons h]

theorem ingestingTokens_cons_length {nBatch count : Nat} {r : ContinuousBatchActiveRequest C}
    {rs : List (ContinuousBatchActiveRequest C)} (h : r.nextChunkSize nBatch count ≠ 0) :
    (ingestingTokens nBatch (r :: rs) count).length = r.nextChunkSize nBatch count +
      (ingestingTokens nBatch rs (count + r.nextChunkSize nBatch count)).length := by
  rw [ingestingTokens_cons h, List.length_append]
  simp [ingestingSegment, chunkTokens_length, (nextChunkSize_le r nBatch count).1]

/-- **`fill_ingesting` packs the planned chunks.** -/
theorem fillIngesting_eq {nBatch : Nat} (hn : nBatch ≤ i32Max) :
    ∀ (rs : List (ContinuousBatchActiveRequest C)) (k : Nat) (pass : BatchPass) (count : Nat),
      pass.batch.capacity = nBatch → pass.batch.tokens.length = count →
      pass.contributions.currentBatchTokenCount = count →
      fillIngesting nBatch rs k pass =
        .ok { batch := { pass.batch with
                tokens := pass.batch.tokens ++ ingestingTokens nBatch rs count }
              contributions := { pass.contributions with
                ingesting := pass.contributions.ingesting ++
                  (selected (ingestingPlan nBatch rs count) k).map fun u =>
                    ⟨u.1, u.2.chunkSize, u.2.isLastChunk, u.2.lastBatchPosition⟩
                currentBatchTokenCount := count + (ingestingTokens nBatch rs count).length } }
  | [], k, pass, count, _, _, hcount => by
    simp [fillIngesting, ingestingTokens, ingestingPlan, selected, ← hcount]
  | r :: rs, k, pass, count, hcap, hlen, hcount => by
    by_cases hzero : r.nextChunkSize nBatch count = 0
    · have hskip : fillIngesting nBatch (r :: rs) k pass =
          fillIngesting nBatch rs (k + 1) pass := by
        unfold ContinuousBatchActiveRequest.nextChunkSize at hzero
        rw [fillIngesting]
        split at hzero
        · rename_i hphase
          simp only [hcount]
          rw [if_pos hzero]
        · rfl
      rw [hskip, fillIngesting_eq hn rs (k + 1) pass count hcap hlen hcount]
      simp [ingestingTokens, ingestingPlan_cons_zero hzero, ingestingSegment, selected]
    · have hphase : r.state.phase = .ingesting := by
        unfold ContinuousBatchActiveRequest.nextChunkSize at hzero
        split at hzero
        · assumption
        · exact absurd rfl hzero
      obtain ⟨hle, hroom⟩ := nextChunkSize_le r nBatch count
      have hsize : computeIngestingChunkSize r.state.remainingPromptTokens.length nBatch count =
          r.nextChunkSize nBatch count := by
        simp [ContinuousBatchActiveRequest.nextChunkSize, hphase]
      have htake : (r.state.remainingPromptTokens.take (r.nextChunkSize nBatch count)).length =
          r.nextChunkSize nBatch count := by
        rw [List.length_take]
        omega
      rw [fillIngesting]
      simp only [hphase, hcount, hsize]
      rw [if_neg hzero, addChunk_eq _ _ _ _ _ _ (by omega) (by omega)]
      dsimp only
      refine (fillIngesting_eq hn rs (k + 1) _ (count + r.nextChunkSize nBatch count) ?_ ?_
        rfl).trans ?_
      · exact hcap
      · simp [chunkTokens_length, hlen]
        omega
      simp only [ingestingTokens, ingestingPlan_cons hzero, List.zipWith_cons_cons,
        List.flatten_cons, ingestingSegment, selected, List.map_cons, List.append_assoc,
        List.length_append, chunkTokens_length, htake, LlamaBatch.nTokens, hlen,
        Except.ok.injEq, BatchPass.mk.injEq, Contributions.mk.injEq, List.singleton_append,
        Nat.add_assoc, and_true, true_and]
      refine ⟨rfl, ?_⟩
      have hrow : ((count + r.nextChunkSize nBatch count : Nat) : Int) - 1 =
          ((count + r.nextChunkSize nBatch count - 1 : Nat) : Int) := by omega
      rw [hrow]
      rfl

/-- The pass that comes out of assembling `rs`. -/
def assembled (nBatch : Nat) (rs : List (ContinuousBatchActiveRequest C)) : BatchPass :=
  let generating := generatingTokens nBatch rs 0
  let ingesting := ingestingTokens nBatch rs generating.length
  { batch := ⟨nBatch, generating ++ ingesting⟩
    contributions :=
      { generating := (selected (generatingPlan nBatch rs 0) 0).map fun u => ⟨u.1, u.2⟩
        ingesting := (selected (ingestingPlan nBatch rs generating.length) 0).map fun u =>
          ⟨u.1, u.2.chunkSize, u.2.isLastChunk, u.2.lastBatchPosition⟩
        currentBatchTokenCount := generating.length + ingesting.length } }

/-- **Assembling never fails**: a fresh pass of capacity `n_batch` takes every planned token. -/
theorem assemble_eq {nBatch : Nat} {pass : BatchPass} (h : BatchPass.new nBatch = .ok pass)
    (rs : List (ContinuousBatchActiveRequest C)) :
    assembleBatchPhase nBatch pass rs = .ok (assembled nBatch rs) := by
  have hpass : nBatch ≤ i32Max ∧ pass = ⟨⟨nBatch, []⟩, ⟨[], [], 0⟩⟩ := by
    unfold BatchPass.new at h
    split at h
    · cases h
    · rename_i batch hb
      cases h
      obtain ⟨hn, rfl⟩ := LlamaBatch.new_ok hb
      exact ⟨hn, rfl⟩
  obtain ⟨hn, rfl⟩ := hpass
  unfold assembleBatchPhase
  rw [fillGenerating_eq rs 0 0 ⟨⟨nBatch, []⟩, ⟨[], [], 0⟩⟩ rfl rfl]
  dsimp only
  refine (fillIngesting_eq hn rs 0 _ (generatingTokens nBatch rs 0).length ?_ ?_ ?_).trans ?_
  · rfl
  · simp
  · simp
  · simp [assembled]

theorem batchPass_new_ok {nBatch : Nat} (h : nBatch ≤ i32Max) :
    BatchPass.new nBatch = .ok ⟨⟨nBatch, []⟩, ⟨[], [], 0⟩⟩ := by
  simp [BatchPass.new, LlamaBatch.new, Nat.not_lt.mpr h]

theorem batchPass_new_error {nBatch : Nat} (h : ¬ nBatch ≤ i32Max) :
    BatchPass.new nBatch = .error "integer overflow" := by
  simp [BatchPass.new, LlamaBatch.new, Nat.lt_of_not_le h]

/-! ## Where each request stands in the batch -/

theorem ingestingPlan_length (nBatch : Nat) :
    ∀ (rs : List (ContinuousBatchActiveRequest C)) (count : Nat),
      (ingestingPlan nBatch rs count).length = rs.length
  | [], _ => rfl
  | r :: rs, count => by
    by_cases h : r.nextChunkSize nBatch count = 0
    · simp [ingestingPlan_cons_zero h, ingestingPlan_length]
    · simp [ingestingPlan_cons h, ingestingPlan_length]

theorem generatingPlan_row {nBatch : Nat} :
    ∀ {rs : List (ContinuousBatchActiveRequest C)} {added i p : Nat}
      {r : ContinuousBatchActiveRequest C},
      rs[i]? = some r → (generatingPlan nBatch rs added)[i]? = some (some p) →
      ∃ b pre post, r.generatingToken = some b ∧
        generatingTokens nBatch rs added = pre ++ b :: post ∧ added + pre.length = p
  | [], _, _, _, _, hr, _ => by simp at hr
  | r :: rs, added, i, p, r', hr, hp => by
    cases hb : r.generatingToken with
    | none =>
      have hplan : generatingPlan nBatch (r :: rs) added = none ::
          generatingPlan nBatch rs added := by
        simp [generatingPlan, hb]
      rw [hplan] at hp
      rw [generatingTokens_cons_none hb]
      cases i with
      | zero => simp at hp
      | succ i => exact generatingPlan_row (by simpa using hr) (by simpa using hp)
    | some b =>
      by_cases hlt : added < nBatch
      · have hplan : generatingPlan nBatch (r :: rs) added =
            some added :: generatingPlan nBatch rs (added + 1) := by
          simp [generatingPlan, hb, hlt]
        rw [hplan] at hp
        rw [generatingTokens_cons_some hb hlt]
        cases i with
        | zero =>
          simp only [List.getElem?_cons_zero, Option.some.injEq] at hr hp
          subst hr hp
          exact ⟨b, [], _, hb, rfl, rfl⟩
        | succ i =>
          obtain ⟨b', pre, post, h1, h2, h3⟩ :=
            generatingPlan_row (by simpa using hr) (by simpa using hp)
          exact ⟨b', b :: pre, post, h1, by rw [h2]; rfl, by simp; omega⟩
      · have hnone := generatingPlan_full (r :: rs) (Nat.le_of_not_lt hlt) (some p)
          (List.mem_of_getElem? hp)
        cases hnone

theorem ingestingPlan_row {nBatch : Nat} :
    ∀ {rs : List (ContinuousBatchActiveRequest C)} {count i : Nat}
      {r : ContinuousBatchActiveRequest C} {c : PlannedChunk},
      rs[i]? = some r → (ingestingPlan nBatch rs count)[i]? = some (some c) →
      r.state.phase = .ingesting ∧ 0 < c.chunkSize ∧ c.chunkSize ≤ nBatch ∧
      c.chunkSize ≤ r.state.remainingPromptTokens.length ∧
      c.isLastChunk = r.isLastChunk c.chunkSize ∧
      ∃ pre post, ingestingTokens nBatch rs count = pre ++ ingestingSegment r (some c) ++ post ∧
        count + pre.length + c.chunkSize - 1 = c.lastBatchPosition
  | [], _, _, _, _, hr, _ => by simp at hr
  | r :: rs, count, i, r', c, hr, hp => by
    by_cases hzero : r.nextChunkSize nBatch count = 0
    · rw [ingestingPlan_cons_zero hzero] at hp
      rw [ingestingTokens_cons_zero hzero]
      cases i with
      | zero => simp at hp
      | succ i => exact ingestingPlan_row (by simpa using hr) (by simpa using hp)
    · obtain ⟨hle, hroom⟩ := nextChunkSize_le r nBatch count
      rw [ingestingPlan_cons hzero] at hp
      rw [ingestingTokens_cons hzero]
      cases i with
      | zero =>
        simp only [List.getElem?_cons_zero, Option.some.injEq] at hr hp
        subst hr hp
        have hphase : r.state.phase = .ingesting := by
          unfold ContinuousBatchActiveRequest.nextChunkSize at hzero
          split at hzero
          · assumption
          · exact absurd rfl hzero
        exact ⟨hphase, by simp; omega, by simp; omega, hle, rfl, [], _, rfl, by simp⟩
      | succ i =>
        obtain ⟨h1, h2, h3, h4, h5, pre, post, h6, h7⟩ :=
          ingestingPlan_row (by simpa using hr) (by simpa using hp)
        refine ⟨h1, h2, h3, h4, h5, _ ++ pre, post, by
          rw [h6]; simp only [List.append_assoc]; rfl, ?_⟩
        have hlen : (ingestingSegment r (some ⟨r.nextChunkSize nBatch count,
            r.isLastChunk (r.nextChunkSize nBatch count),
            count + r.nextChunkSize nBatch count - 1⟩)).length = r.nextChunkSize nBatch count := by
          simp [ingestingSegment, chunkTokens_length, hle]
        rw [List.length_append, hlen]
        omega

theorem generatingSegment_seqId {r : ContinuousBatchActiveRequest C} {p : Option Nat}
    {b : BatchToken} (h : b ∈ generatingSegment r p) : b.seqId = r.sequenceId := by
  unfold generatingSegment at h
  split at h
  · simp at h
  · rw [Option.mem_toList] at h
    obtain ⟨t, -, -, rfl⟩ := generatingToken_eq_some.mp h
    rfl

theorem ingestingSegment_seqId {r : ContinuousBatchActiveRequest C} {p : Option PlannedChunk}
    {b : BatchToken} (h : b ∈ ingestingSegment r p) : b.seqId = r.sequenceId := by
  unfold ingestingSegment at h
  split at h
  · simp at h
  · simp only [chunkTokens, List.mem_map] at h
    obtain ⟨t, -, rfl⟩ := h
    rfl

/-- Every token of the batch stands on the sequence of a request. -/
theorem assembled_seqId {nBatch : Nat} {rs : List (ContinuousBatchActiveRequest C)} {b : BatchToken}
    (h : b ∈ (assembled nBatch rs).batch.tokens) : b.seqId ∈ rs.map (·.sequenceId) := by
  have hsegment : ∀ {π : Type} (segment : ContinuousBatchActiveRequest C → π → List BatchToken)
      (plan : List π), (∀ {r p b}, b ∈ segment r p → b.seqId = r.sequenceId) →
      b ∈ (List.zipWith segment rs plan).flatten → b.seqId ∈ rs.map (·.sequenceId) := by
    intro π segment plan hseq hb
    obtain ⟨tokens, htokens, hb⟩ := List.mem_flatten.mp hb
    obtain ⟨i, hi, rfl⟩ := List.getElem_of_mem htokens
    rw [List.getElem_zipWith] at hb
    rw [hseq hb]
    exact List.mem_map_of_mem (List.getElem_mem _)
  rcases List.mem_append.mp h with h | h
  · exact hsegment generatingSegment _ generatingSegment_seqId h
  · exact hsegment ingestingSegment _ ingestingSegment_seqId h

/-- Segments built from requests with different sequences can be told apart by sequence. -/
theorem filter_segments {π : Type} (segment : ContinuousBatchActiveRequest C → π → List BatchToken)
    (hsegment : ∀ {r p b}, b ∈ segment r p → b.seqId = r.sequenceId)
    {rs : List (ContinuousBatchActiveRequest C)} {plan : List π}
    (hlen : plan.length = rs.length) (hnodup : (rs.map (·.sequenceId)).Nodup) {i : Nat}
    {r : ContinuousBatchActiveRequest C} {p : π} (hr : rs[i]? = some r) (hp : plan[i]? = some p) :
    (List.zipWith segment rs plan).flatten.filter (fun b => b.seqId == r.sequenceId) =
      segment r p := by
  have hkeyed : List.Forall₂ (fun k seg => ∀ b ∈ seg, BatchToken.seqId b = k)
      (rs.map (·.sequenceId)) (List.zipWith segment rs plan) := by
    refine List.forall₂_iff_get.mpr ⟨by simp [hlen], fun j h₁ h₂ b hb => ?_⟩
    simp only [List.get_eq_getElem, List.getElem_zipWith] at hb
    simpa using hsegment hb
  have hfilter := filter_flatten_of_keyed BatchToken.seqId hnodup hkeyed
  obtain ⟨hi, hri⟩ := List.getElem?_eq_some_iff.mp hr
  obtain ⟨hj, hpj⟩ := List.getElem?_eq_some_iff.mp hp
  have := (List.forall₂_iff_get.mp hfilter).2 i (by simpa using hi) (by simp; omega)
  simpa [hri, hpj] using this

/-! ## Committing follows the plan -/

theorem commitGenerating_eq (us : List (Nat × Nat)) (rs : List (ContinuousBatchActiveRequest C)) :
    commitGenerating (us.map fun u => ⟨u.1, u.2⟩) rs =
      updateAll (fun (p : Nat) (r : ContinuousBatchActiveRequest C) =>
        { r with state := r.state.applyGeneratingContribution p }) us rs := by
  unfold commitGenerating updateAll
  rw [List.foldl_map]

theorem commitIngesting_eq :
    ∀ (us : List (Nat × PlannedChunk)) (rs : List (ContinuousBatchActiveRequest C)),
      (∀ u ∈ us, u.1 < rs.length ∧ u.2.chunkSize ≤ i32Max) →
      commitIngesting (us.map fun u =>
          ⟨u.1, u.2.chunkSize, u.2.isLastChunk, u.2.lastBatchPosition⟩) rs =
        (true, updateAll (fun (c : PlannedChunk) (r : ContinuousBatchActiveRequest C) =>
          { r with state := (r.state.applyIngestingContribution c.chunkSize c.isLastChunk
              c.lastBatchPosition).2 }) us rs)
  | [], rs, _ => rfl
  | u :: us, rs, h => by
    obtain ⟨hidx, hsize⟩ := h u (List.mem_cons_self ..)
    have hok : ∀ state : ContinuousBatchRequestState, (state.applyIngestingContribution
        u.2.chunkSize u.2.isLastChunk u.2.lastBatchPosition).1 = true := by
      intro state
      unfold ContinuousBatchRequestState.applyIngestingContribution
      dsimp only
      rw [if_neg (Nat.not_lt.mpr hsize)]
      split <;> rfl
    rw [List.map_cons, commitIngesting]
    simp only [List.getElem?_eq_getElem hidx, hok, if_true]
    refine commitIngesting_eq us _ fun v hv => ?_
    rw [List.length_modify]
    exact h v (List.mem_cons_of_mem _ hv)

/-- **Committing an assembled pass**: each request gets what the two plans have for it. -/
theorem commitPhase_assembled {nBatch : Nat} (hn : nBatch ≤ i32Max)
    {rs rs₀ : List (ContinuousBatchActiveRequest C)} (hlen : rs₀.length = rs.length) :
    commitPhase (assembled nBatch rs) rs₀ =
      (true, List.zipWith (updateOne fun (c : PlannedChunk) (r : ContinuousBatchActiveRequest C) =>
          { r with state := (r.state.applyIngestingContribution c.chunkSize c.isLastChunk
              c.lastBatchPosition).2 })
        (List.zipWith (updateOne fun (p : Nat) (r : ContinuousBatchActiveRequest C) =>
            { r with state := r.state.applyGeneratingContribution p })
          rs₀ (generatingPlan nBatch rs 0))
        (ingestingPlan nBatch rs (generatingTokens nBatch rs 0).length)) := by
  have hplan₁ := generatingPlan_length nBatch rs 0
  have hplan₂ := ingestingPlan_length nBatch rs (generatingTokens nBatch rs 0).length
  have hsizes : ∀ u ∈ selected (ingestingPlan nBatch rs (generatingTokens nBatch rs 0).length) 0,
      u.1 < rs.length ∧ u.2.chunkSize ≤ i32Max := by
    intro u hu
    have hget := mem_selected_iff.mp hu
    have hidx : u.1 < rs.length := by
      rw [← hplan₂]
      exact (List.getElem?_eq_some_iff.mp hget).1
    obtain ⟨-, -, hle, -⟩ := ingestingPlan_row (List.getElem?_eq_getElem hidx) hget
    exact ⟨hidx, Nat.le_trans hle hn⟩
  unfold commitPhase
  have hgen : (assembled nBatch rs).contributions.generating =
      (selected (generatingPlan nBatch rs 0) 0).map fun u => ⟨u.1, u.2⟩ := rfl
  have hing : (assembled nBatch rs).contributions.ingesting =
      (selected (ingestingPlan nBatch rs (generatingTokens nBatch rs 0).length) 0).map fun u =>
        ⟨u.1, u.2.chunkSize, u.2.isLastChunk, u.2.lastBatchPosition⟩ := rfl
  rw [hgen, hing, commitGenerating_eq, updateAll_selected _ (by rw [hplan₁, hlen]),
    commitIngesting_eq _ _ (by simpa [hplan₁, hlen] using hsizes),
    updateAll_selected _ (by simp [hplan₁, hplan₂, hlen])]

/-! ## What a decoded batch does to a request -/

/-- One request before and after the batch `tokens` was decoded and committed. -/
inductive DecodeStep (tokens : List BatchToken) (r : ContinuousBatchActiveRequest C) :
    ContinuousBatchActiveRequest C → Prop where
  /-- It contributed nothing. -/
  | skipped : DecodeStep tokens r r
  /-- Its pending token was decoded at row `p`. -/
  | generated {p : Nat} {t : SampledToken} {b : BatchToken} :
      r.state.phase = .generating → r.state.pendingSampledToken = some t →
      b = ⟨t.token, r.state.currentTokenPosition, r.sequenceId, true, r.id⟩ →
      tokens[p]? = some b →
      DecodeStep tokens r { r with
        state := r.state.applyGeneratingContribution p
        history := { r.history with decoded := r.history.decoded ++ [b] } }
  /-- The next `k` tokens of its prompt were decoded, the last one at row `p`. -/
  | ingested {p k : Nat} {b : BatchToken} :
      r.state.phase = .ingesting → 0 < k → k ≤ r.state.remainingPromptTokens.length →
      tokens[p]? = some b → b.position = r.state.currentTokenPosition + k - 1 →
      b.seqId = r.sequenceId → b.logits = r.isLastChunk k → b.requestId = r.id →
      (chunkTokens r k (r.isLastChunk k) (r.state.remainingPromptTokens.take k) 0).getLast? =
        some b →
      k ≤ i32Max →
      DecodeStep tokens r { r with
        state := (r.state.applyIngestingContribution k (r.isLastChunk k) p).2
        history := { r.history with
          decoded := r.history.decoded ++ chunkTokens r k (r.isLastChunk k)
            (r.state.remainingPromptTokens.take k) 0 } }

theorem chunkTokens_last (r : ContinuousBatchActiveRequest C) {k : Nat} (isLast : Bool)
    (hk : 0 < k) (hle : k ≤ r.state.remainingPromptTokens.length) :
    ∃ b, (chunkTokens r k isLast (r.state.remainingPromptTokens.take k) 0)[k - 1]? = some b ∧
      (chunkTokens r k isLast (r.state.remainingPromptTokens.take k) 0).getLast? = some b ∧
      b.position = r.state.currentTokenPosition + k - 1 ∧ b.seqId = r.sequenceId ∧
      b.logits = isLast ∧ b.requestId = r.id := by
  have hlt : k - 1 < (r.state.remainingPromptTokens.take k).length := by
    rw [List.length_take]
    omega
  have hget : (chunkTokens r k isLast (r.state.remainingPromptTokens.take k) 0)[k - 1]? =
      some ⟨(r.state.remainingPromptTokens.take k)[k - 1],
        r.state.currentTokenPosition + (k - 1 : Nat), r.sequenceId, isLast, r.id⟩ := by
    simp [chunkTokens, List.getElem?_eq_getElem hlt]
  refine ⟨_, hget, ?_, ?_, rfl, rfl, rfl⟩
  · rw [List.getLast?_eq_getElem?, chunkTokens_length, List.length_take, Nat.min_eq_left hle, hget]
  · dsimp only
    omega

/-- A request whose pending token is planned takes the step of a decoded token. -/
theorem decodeStep_generated {nBatch i p : Nat} {rs : List (ContinuousBatchActiveRequest C)}
    {r : ContinuousBatchActiveRequest C} {tokens rest : List BatchToken}
    (htokens : tokens = generatingTokens nBatch rs 0 ++ rest) (hr : rs[i]? = some r)
    (hp : (generatingPlan nBatch rs 0)[i]? = some (some p))
    (hfilter : tokens.filter (fun b => b.seqId == r.sequenceId) = generatingSegment r (some p)) :
    DecodeStep tokens r
      { r.recordDecoded tokens with state := r.state.applyGeneratingContribution p } := by
  obtain ⟨b, pre, post, hb, hsplit, hrow⟩ := generatingPlan_row hr hp
  obtain ⟨t, hphase, hpending, hbt⟩ := generatingToken_eq_some.mp hb
  have hbrow : tokens[p]? = some b := by
    have hp : p = pre.length := by omega
    rw [htokens, hsplit, hp]
    simp
  have hstep := DecodeStep.generated hphase hpending hbt hbrow
  simpa only [ContinuousBatchActiveRequest.recordDecoded, hfilter, generatingSegment, hb,
    Option.toList_some] using hstep

/-- A request with a planned chunk takes the step of decoded prompt tokens. -/
theorem decodeStep_ingested {nBatch i : Nat} (hn : nBatch ≤ i32Max)
    {rs : List (ContinuousBatchActiveRequest C)} {r : ContinuousBatchActiveRequest C}
    {tokens before : List BatchToken} {c : PlannedChunk}
    (htokens : tokens = before ++ ingestingTokens nBatch rs before.length) (hr : rs[i]? = some r)
    (hp : (ingestingPlan nBatch rs before.length)[i]? = some (some c))
    (hfilter : tokens.filter (fun b => b.seqId == r.sequenceId) = ingestingSegment r (some c)) :
    DecodeStep tokens r { r.recordDecoded tokens with
      state := (r.state.applyIngestingContribution c.chunkSize c.isLastChunk c.lastBatchPosition).2 } := by
  obtain ⟨hphase, hpos, hle, hrem, hlast, pre, post, hsplit, hrow⟩ := ingestingPlan_row hr hp
  obtain ⟨b, hb, hblast, hbpos, hbseq, hblog, hbid⟩ := chunkTokens_last r c.isLastChunk hpos hrem
  have hbrow : tokens[c.lastBatchPosition]? = some b := by
    rw [htokens, hsplit, List.getElem?_append_right (by omega), List.append_assoc,
      List.getElem?_append_right (by omega), List.getElem?_append_left]
    · rw [← hb]
      congr 1
      omega
    · simp only [ingestingSegment, chunkTokens_length, List.length_take]
      omega
  have hstep := DecodeStep.ingested hphase hpos hrem hbrow hbpos hbseq (by rw [hblog, hlast])
    hbid (by rw [← hlast, hblast]) (Nat.le_trans hle hn)
  simpa only [ContinuousBatchActiveRequest.recordDecoded, hfilter, ingestingSegment,
    ← hlast] using hstep

theorem ingestingPlan_of_generating {nBatch count i p : Nat}
    {rs : List (ContinuousBatchActiveRequest C)} {r : ContinuousBatchActiveRequest C}
    {c : Option PlannedChunk} (hr : rs[i]? = some r)
    (hp : (generatingPlan nBatch rs 0)[i]? = some (some p))
    (hc : (ingestingPlan nBatch rs count)[i]? = some c) : c = none := by
  obtain ⟨b, -, -, hb, -⟩ := generatingPlan_row hr hp
  obtain ⟨t, hphase, -⟩ := generatingToken_eq_some.mp hb
  cases c with
  | none => rfl
  | some c =>
    have hingesting := (ingestingPlan_row hr hc).1
    rw [hphase] at hingesting
    cases hingesting

/-- **A decoded and committed batch, request by request.**  With pairwise different sequences the
commit never fails, and it does to each request exactly what the batch decoded for it. -/
theorem decodeStep_commit {nBatch : Nat} (hn : nBatch ≤ i32Max)
    {rs : List (ContinuousBatchActiveRequest C)} (hnodup : (rs.map (·.sequenceId)).Nodup) :
    ∃ rs', commitPhase (assembled nBatch rs)
        (rs.map (·.recordDecoded (assembled nBatch rs).batch.tokens)) = (true, rs') ∧
      List.Forall₂ (DecodeStep (assembled nBatch rs).batch.tokens) rs rs' := by
  obtain ⟨tokens, htokens⟩ : ∃ tokens, tokens = (assembled nBatch rs).batch.tokens := ⟨_, rfl⟩
  obtain ⟨g, hg⟩ : ∃ g, g = generatingTokens nBatch rs 0 := ⟨_, rfl⟩
  have htokens' : tokens = g ++ ingestingTokens nBatch rs g.length := by rw [htokens, hg]; rfl
  have hplan₁ := generatingPlan_length nBatch rs 0
  have hplan₂ := ingestingPlan_length nBatch rs g.length
  rw [← htokens, commitPhase_assembled hn (List.length_map _), ← hg]
  refine ⟨_, rfl, List.forall₂_iff_get.mpr ⟨by simp [hplan₁, hplan₂], fun i hi _ => ?_⟩⟩
  obtain ⟨r, hr⟩ : ∃ r, rs[i] = r := ⟨_, rfl⟩
  have hr? : rs[i]? = some r := by rw [List.getElem?_eq_getElem hi, hr]
  obtain ⟨p₁, hp₁⟩ : ∃ p, (generatingPlan nBatch rs 0)[i]? = some p :=
    ⟨_, List.getElem?_eq_getElem (by omega)⟩
  obtain ⟨p₂, hp₂⟩ : ∃ p, (ingestingPlan nBatch rs g.length)[i]? = some p :=
    ⟨_, List.getElem?_eq_getElem (by omega)⟩
  -- the tokens of this request's sequence are its two segments
  have hfilter : tokens.filter (fun b => b.seqId == r.sequenceId) =
      generatingSegment r p₁ ++ ingestingSegment r p₂ := by
    have h₁ := filter_segments generatingSegment generatingSegment_seqId hplan₁ hnodup hr? hp₁
    have h₂ := filter_segments ingestingSegment ingestingSegment_seqId hplan₂ hnodup hr? hp₂
    rw [htokens', List.filter_append, ← h₁, ← h₂, hg]
    rfl
  have hget₁ := (List.getElem?_eq_some_iff.mp hp₁).2
  have hget₂ := (List.getElem?_eq_some_iff.mp hp₂).2
  simp only [List.get_eq_getElem, List.getElem_zipWith, List.getElem_map, hr, hget₁, hget₂]
  cases p₁ with
  | none =>
    cases p₂ with
    | none =>
      have hsame : r.recordDecoded tokens = r := by
        simp [ContinuousBatchActiveRequest.recordDecoded, hfilter, generatingSegment,
          ingestingSegment]
      simpa only [updateOne, Option.elim_none, hsame] using DecodeStep.skipped
    | some c => exact decodeStep_ingested hn htokens' hr? hp₂ hfilter
  | some p =>
    cases ingestingPlan_of_generating hr? hp₁ hp₂
    rw [hg] at htokens'
    exact decodeStep_generated htokens' hr? hp₁ (hfilter.trans (List.append_nil _))

/-! ## Empty batches -/

/-- The request has something to decode. -/
def ContinuousBatchActiveRequest.hasTokens (r : ContinuousBatchActiveRequest C) : Bool :=
  match r.state.phase with
  | .generating => r.state.pendingSampledToken.isSome
  | .ingesting => !r.state.remainingPromptTokens.isEmpty
  | .completed _ => false

theorem generatingPlan_none_iff {nBatch : Nat} :
    ∀ (rs : List (ContinuousBatchActiveRequest C)) {added : Nat}, added < nBatch →
      ((∀ p ∈ generatingPlan nBatch rs added, p = none) ↔ ∀ r ∈ rs, r.generatingToken = none)
  | [], _, _ => by simp [generatingPlan]
  | r :: rs, added, h => by
    cases hb : r.generatingToken with
    | none =>
      have hplan : generatingPlan nBatch (r :: rs) added = none ::
          generatingPlan nBatch rs added := by
        simp [generatingPlan, hb]
      simp only [hplan, List.mem_cons, forall_eq_or_imp, true_and, hb]
      exact generatingPlan_none_iff rs h
    | some b =>
      have hplan : generatingPlan nBatch (r :: rs) added =
          some added :: generatingPlan nBatch rs (added + 1) := by
        simp [generatingPlan, hb, h]
      simp [hplan, hb]

theorem ingestingPlan_none_iff {nBatch : Nat} :
    ∀ (rs : List (ContinuousBatchActiveRequest C)) (count : Nat),
      ((∀ p ∈ ingestingPlan nBatch rs count, p = none) ↔
        ∀ r ∈ rs, r.nextChunkSize nBatch count = 0)
  | [], _ => by simp [ingestingPlan]
  | r :: rs, count => by
    by_cases hzero : r.nextChunkSize nBatch count = 0
    · simp only [ingestingPlan_cons_zero hzero, List.mem_cons, forall_eq_or_imp, true_and, hzero]
      exact ingestingPlan_none_iff rs count
    · simp [ingestingPlan_cons hzero, hzero]

theorem hasTokens_eq_false {r : ContinuousBatchActiveRequest C} {nBatch : Nat} (h : 0 < nBatch) :
    r.hasTokens = false ↔ r.generatingToken = none ∧ r.nextChunkSize nBatch 0 = 0 := by
  unfold ContinuousBatchActiveRequest.hasTokens ContinuousBatchActiveRequest.generatingToken
    ContinuousBatchActiveRequest.nextChunkSize computeIngestingChunkSize
  cases r.state.phase with
  | ingesting =>
    simp only [Bool.not_eq_false', List.isEmpty_iff, true_and, Nat.sub_zero,
      ← List.length_eq_zero_iff]
    omega
  | generating => cases r.state.pendingSampledToken <;> simp
  | completed outcome => simp

/-- **When a batch comes out empty**: `n_batch` is zero, or no request has anything to decode. -/
theorem assemble_isEmpty_iff {nBatch : Nat} {rs : List (ContinuousBatchActiveRequest C)} :
    (assembled nBatch rs).isEmpty = true ↔ nBatch = 0 ∨ ∀ r ∈ rs, r.hasTokens = false := by
  have hiff : (assembled nBatch rs).isEmpty = true ↔
      (∀ p ∈ generatingPlan nBatch rs 0, p = none) ∧
      (∀ p ∈ ingestingPlan nBatch rs (generatingTokens nBatch rs 0).length, p = none) := by
    simp only [BatchPass.isEmpty, Contributions.isEmpty, assembled, Bool.and_eq_true,
      List.isEmpty_iff, List.map_eq_nil_iff, selected_eq_nil]
  rw [hiff]
  rcases Nat.eq_zero_or_pos nBatch with hzero | hpos
  · subst hzero
    simp only [true_or, iff_true]
    refine ⟨generatingPlan_full rs (Nat.le_refl 0), (ingestingPlan_none_iff rs _).mpr ?_⟩
    intro r _
    have := (nextChunkSize_le r 0 (generatingTokens 0 rs 0).length).2
    omega
  · have hne : nBatch ≠ 0 := by omega
    rw [generatingPlan_none_iff rs hpos, ingestingPlan_none_iff]
    constructor
    · rintro ⟨hgen, hing⟩
      have hnil : generatingTokens nBatch rs 0 = [] := by
        unfold generatingTokens
        rw [List.flatten_eq_nil_iff]
        intro segment hs
        obtain ⟨i, hi, rfl⟩ := List.getElem_of_mem hs
        rw [List.getElem_zipWith,
          (generatingPlan_none_iff rs hpos).mpr hgen _ (List.getElem_mem _)]
        rfl
      rw [hnil] at hing
      exact Or.inr fun r hr => (hasTokens_eq_false hpos).mpr ⟨hgen r hr, hing r hr⟩
    · rintro (hz | hall)
      · exact absurd hz hne
      · refine ⟨fun r hr => ((hasTokens_eq_false hpos).mp (hall r hr)).1, fun r hr => ?_⟩
        have hzero := ((hasTokens_eq_false hpos).mp (hall r hr)).2
        unfold ContinuousBatchActiveRequest.nextChunkSize computeIngestingChunkSize at hzero ⊢
        split
        · rename_i hphase
          simp only [hphase] at hzero
          omega
        · rfl

theorem assembled_tokens_ne_nil {nBatch : Nat} {rs : List (ContinuousBatchActiveRequest C)}
    (h : (assembled nBatch rs).isEmpty = false) : (assembled nBatch rs).batch.tokens ≠ [] := by
  intro hnil
  obtain ⟨hg, hi⟩ := List.append_eq_nil_iff.mp hnil
  have hempty : (assembled nBatch rs).isEmpty = true := by
    simp only [BatchPass.isEmpty, Contributions.isEmpty, assembled, Bool.and_eq_true,
      List.isEmpty_iff, List.map_eq_nil_iff, selected_eq_nil]
    constructor
    · intro p hp
      obtain ⟨i, hlt, rfl⟩ := List.getElem_of_mem hp
      cases hget : (generatingPlan nBatch rs 0)[i] with
      | none => rfl
      | some row =>
        have hr : i < rs.length := by rwa [generatingPlan_length] at hlt
        obtain ⟨b, pre, post, -, hsplit, -⟩ := generatingPlan_row (List.getElem?_eq_getElem hr)
          ((List.getElem?_eq_getElem hlt).trans (congrArg some hget))
        rw [hsplit] at hg
        simp at hg
    · intro p hp
      obtain ⟨i, hlt, rfl⟩ := List.getElem_of_mem hp
      cases hget : (ingestingPlan nBatch rs (generatingTokens nBatch rs 0).length)[i] with
      | none => rfl
      | some c =>
        have hr : i < rs.length := by rwa [ingestingPlan_length] at hlt
        obtain ⟨-, hpos, -, hrem, -, pre, post, hsplit, -⟩ :=
          ingestingPlan_row (List.getElem?_eq_getElem hr)
            ((List.getElem?_eq_getElem hlt).trans (congrArg some hget))
        have hlen := congrArg List.length (hsplit.symm.trans hi)
        simp only [List.length_append, ingestingSegment, chunkTokens_length, List.length_take,
          List.length_nil] at hlen
        omega
  rw [hempty] at h
  cases h

end Paddler
