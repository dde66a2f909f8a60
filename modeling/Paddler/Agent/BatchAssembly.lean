import Mathlib.Algebra.Order.Ring.Int
import Paddler.Agent.AssembleBatch

/-!
# What an assembled batch owes its requests

The law of `assemble_batch_phase.rs` and `commit_phase.rs` for any list of active requests and any
`n_batch`.

* `AssemblyLaw` — the batch fits, each request contributes at most once, pending tokens come first,
  chunks are the next pieces of their prompts, and room is left only when no prompt is.
* `CommitLaw` — committing changes the contributors, each by its own contribution, and nobody else.
* `assembledBatch_lawful` — **assembling succeeds and its pass keeps both laws.**
-/

set_option autoImplicit false

namespace Paddler

open VecUpdate

variable {C : Type}

/-! ## The laws -/

/-- The indices of the requests that contribute. -/
def Contributions.requestIndices (self : Contributions) : List Nat :=
  self.generating.map (·.requestIndex) ++ self.ingesting.map (·.requestIndex)

/-- The request behind a generating contribution, and its token at the recorded position. -/
def GeneratingContribution.IsPendingToken (rs : List (ContinuousBatchActiveRequest C))
    (tokens : List BatchToken) (contribution : GeneratingContribution) : Prop :=
  ∃ (r : ContinuousBatchActiveRequest C) (t : SampledToken) (row : Nat),
    rs[contribution.requestIndex]? = some r ∧ r.state.phase = .generating ∧
    r.state.pendingSampledToken = some t ∧ contribution.batchPosition = row ∧
    tokens[row]? = some ⟨t.token, r.state.currentTokenPosition, r.sequenceId, true, r.id⟩

/-- The request behind an ingesting contribution, and the next tokens of its prompt in consecutive
rows, of which the last one is recorded. -/
def IngestingContribution.IsNextChunk (rs : List (ContinuousBatchActiveRequest C))
    (tokens : List BatchToken) (contribution : IngestingContribution) : Prop :=
  ∃ (r : ContinuousBatchActiveRequest C) (start : Nat),
    rs[contribution.requestIndex]? = some r ∧ r.state.phase = .ingesting ∧
    0 < contribution.chunkSize ∧
    (contribution.isLastChunk = true ↔
      r.state.promptTokensIngested + contribution.chunkSize = r.state.promptTokens.length) ∧
    contribution.lastBatchPosition = ((start + contribution.chunkSize - 1 : Nat) : Int) ∧
    ∀ offset, offset < contribution.chunkSize → ∃ token,
      r.state.promptTokens[r.state.promptTokensIngested + offset]? = some token ∧
      tokens[start + offset]? = some ⟨token, r.state.currentTokenPosition + offset, r.sequenceId,
        contribution.isLastChunk && offset == contribution.chunkSize - 1, r.id⟩

/-- What an assembled pass owes the active requests. -/
structure AssemblyLaw (nBatch : Nat) (rs : List (ContinuousBatchActiveRequest C))
    (pass : BatchPass) :
    Prop where
  fits : pass.batch.tokens.length ≤ nBatch
  /-- The two running counts agree, and no token of the batch is without a contribution. -/
  counted : pass.contributions.currentBatchTokenCount = pass.batch.tokens.length ∧
    pass.batch.tokens.length = pass.contributions.generating.length +
      (pass.contributions.ingesting.map (·.chunkSize)).sum
  once : pass.contributions.requestIndices.Nodup
  /-- A pending token is left out only for `n_batch` earlier ones. -/
  pending : ∀ {i : Nat} {r : ContinuousBatchActiveRequest C}, rs[i]? = some r →
    r.state.phase = .generating →
    r.state.pendingSampledToken ≠ none → i ∈ pass.contributions.generating.map (·.requestIndex) ∨
      (pass.contributions.generating.length = nBatch ∧
        ∀ contribution ∈ pass.contributions.generating, contribution.requestIndex < i)
  generating : ∀ contribution ∈ pass.contributions.generating,
    contribution.IsPendingToken rs pass.batch.tokens
  ingesting : ∀ contribution ∈ pass.contributions.ingesting,
    contribution.IsNextChunk rs pass.batch.tokens
  /-- With room left every prompt is taken to its end. -/
  room : pass.batch.tokens.length < nBatch → ∀ {i : Nat} {r : ContinuousBatchActiveRequest C},
    rs[i]? = some r → r.state.phase = .ingesting → r.state.remainingPromptTokens ≠ [] →
    ∃ contribution ∈ pass.contributions.ingesting, contribution.requestIndex = i ∧
      contribution.chunkSize = r.state.remainingPromptTokens.length

/-- What committing a pass owes the active requests. -/
structure CommitLaw (rs : List (ContinuousBatchActiveRequest C)) (pass : BatchPass)
    (rs' : List (ContinuousBatchActiveRequest C)) : Prop where
  length : rs'.length = rs.length
  changes : ∀ {i : Nat} {r r' : ContinuousBatchActiveRequest C}, rs[i]? = some r →
    rs'[i]? = some r' →
    (r' ≠ r ↔ i ∈ pass.contributions.requestIndices)
  generating : ∀ contribution ∈ pass.contributions.generating,
    ∀ {r : ContinuousBatchActiveRequest C}, rs[contribution.requestIndex]? = some r →
    rs'[contribution.requestIndex]? =
      some { r with state := r.state.applyGeneratingContribution contribution.batchPosition }
  ingesting : ∀ contribution ∈ pass.contributions.ingesting, ∀ {r : ContinuousBatchActiveRequest C},
    rs[contribution.requestIndex]? = some r → rs'[contribution.requestIndex]? =
      some { r with state := (r.state.applyIngestingContribution contribution.chunkSize
        contribution.isLastChunk contribution.lastBatchPosition).2 }

/-! ## How much is planned -/

theorem generatingToken_isSome {r : ContinuousBatchActiveRequest C} :
    r.generatingToken.isSome = true ↔
      r.state.phase = .generating ∧ r.state.pendingSampledToken ≠ none := by
  rw [Option.isSome_iff_exists]
  constructor
  · rintro ⟨b, hb⟩
    obtain ⟨t, hphase, hpending, -⟩ := generatingToken_eq_some.mp hb
    exact ⟨hphase, by rw [hpending]; simp⟩
  · rintro ⟨hphase, hpending⟩
    obtain ⟨t, ht⟩ := Option.ne_none_iff_exists'.mp hpending
    exact ⟨_, generatingToken_eq_some.mpr ⟨t, hphase, ht, rfl⟩⟩

/-- The pending tokens that are planned fill no more than the batch. -/
theorem generatingTokens_length_le (nBatch : Nat) (rs : List (ContinuousBatchActiveRequest C)) :
    ∀ added, (generatingTokens nBatch rs added).length ≤ nBatch - added := by
  induction rs with
  | nil => exact fun _ => Nat.zero_le _
  | cons r rs ih =>
    intro added
    cases hb : r.generatingToken with
    | none =>
      rw [generatingTokens_cons_none hb]
      exact ih added
    | some b =>
      by_cases hlt : added < nBatch
      · rw [generatingTokens_cons_some hb hlt, List.length_cons]
        have hrest := ih (added + 1)
        omega
      · rw [generatingTokens_full _ (Nat.le_of_not_lt hlt)]
        exact Nat.zero_le _

theorem selected_generatingPlan_length {nBatch : Nat} (rs : List (ContinuousBatchActiveRequest C)) :
    ∀ added k, (selected (generatingPlan nBatch rs added) k).length =
      (generatingTokens nBatch rs added).length := by
  induction rs with
  | nil => exact fun _ _ => rfl
  | cons r rs ih =>
    intro added k
    cases hb : r.generatingToken with
    | none =>
      rw [generatingTokens_cons_none hb, ← ih added (k + 1)]
      simp [generatingPlan, hb, selected]
    | some b =>
      by_cases hlt : added < nBatch
      · rw [generatingTokens_cons_some hb hlt, List.length_cons, ← ih (added + 1) (k + 1)]
        simp [generatingPlan, hb, hlt, selected]
      · rw [generatingTokens_full _ (Nat.le_of_not_lt hlt),
          selected_eq_nil.mpr (generatingPlan_full _ (Nat.le_of_not_lt hlt))]
        rfl

/-- A pending token is planned, unless earlier ones fill the batch. -/
theorem generatingPlan_planned (nBatch : Nat) {rs : List (ContinuousBatchActiveRequest C)} :
    ∀ (added : Nat) {i : Nat} {r : ContinuousBatchActiveRequest C}, rs[i]? = some r →
      r.generatingToken.isSome = true →
      (∃ p, (generatingPlan nBatch rs added)[i]? = some (some p)) ∨
        (nBatch ≤ added + (generatingTokens nBatch rs added).length ∧
          ∀ {j p : Nat}, (generatingPlan nBatch rs added)[j]? = some (some p) → j < i) := by
  induction rs with
  | nil =>
    intro added i r hr
    simp at hr
  | cons r₀ rs ih =>
    intro added i r hr hsome
    by_cases hlt : added < nBatch
    · cases hb : r₀.generatingToken with
      | none =>
        have hplan : generatingPlan nBatch (r₀ :: rs) added = none ::
            generatingPlan nBatch rs added := by
          simp [generatingPlan, hb]
        rw [generatingTokens_cons_none hb, hplan]
        cases i with
        | zero =>
          rw [List.getElem?_cons_zero, Option.some.injEq] at hr
          rw [← hr, hb] at hsome
          cases hsome
        | succ i =>
          rcases ih added (by simpa using hr) hsome with hplanned | ⟨hfull, hbefore⟩
          · exact Or.inl hplanned
          refine Or.inr ⟨hfull, ?_⟩
          intro j p hp
          cases j with
          | zero => exact Nat.succ_pos i
          | succ j => exact Nat.succ_lt_succ (hbefore hp)
      | some b =>
        have hplan : generatingPlan nBatch (r₀ :: rs) added =
            some added :: generatingPlan nBatch rs (added + 1) := by
          simp [generatingPlan, hb, hlt]
        rw [generatingTokens_cons_some hb hlt, hplan]
        cases i with
        | zero => exact Or.inl ⟨added, rfl⟩
        | succ i =>
          rcases ih (added + 1) (by simpa using hr) hsome with hplanned | ⟨hfull, hbefore⟩
          · exact Or.inl hplanned
          refine Or.inr ⟨?_, ?_⟩
          · rw [List.length_cons]
            omega
          · intro j p hp
            cases j with
            | zero => exact Nat.succ_pos i
            | succ j => exact Nat.succ_lt_succ (hbefore hp)
    · refine Or.inr ⟨by omega, fun {j p} hp => ?_⟩
      cases generatingPlan_full _ (Nat.le_of_not_lt hlt) _ (List.mem_of_getElem? hp)

/-- The chunks that are planned fill no more than the room that is left. -/
theorem ingestingTokens_length_le (nBatch : Nat) (rs : List (ContinuousBatchActiveRequest C)) :
    ∀ count, (ingestingTokens nBatch rs count).length ≤ nBatch - count := by
  induction rs with
  | nil => exact fun _ => Nat.zero_le _
  | cons r rs ih =>
    intro count
    by_cases hzero : r.nextChunkSize nBatch count = 0
    · rw [ingestingTokens_cons_zero hzero]
      exact ih count
    · rw [ingestingTokens_cons_length hzero]
      have hroom := (nextChunkSize_le r nBatch count).2
      have hrest := ih (count + r.nextChunkSize nBatch count)
      omega

theorem selected_ingestingPlan_sum {nBatch : Nat} (rs : List (ContinuousBatchActiveRequest C)) :
    ∀ count k, ((selected (ingestingPlan nBatch rs count) k).map fun u => u.2.chunkSize).sum =
      (ingestingTokens nBatch rs count).length := by
  induction rs with
  | nil => exact fun _ _ => rfl
  | cons r rs ih =>
    intro count k
    by_cases hzero : r.nextChunkSize nBatch count = 0
    · rw [ingestingPlan_cons_zero hzero, ingestingTokens_cons_zero hzero, ← ih count (k + 1)]
      rfl
    · rw [ingestingPlan_cons hzero, ingestingTokens_cons_length hzero, ← ih _ (k + 1)]
      rfl

/-- With room left in the batch, a prompt is planned to its end. -/
theorem ingestingPlan_planned (nBatch : Nat) {rs : List (ContinuousBatchActiveRequest C)} :
    ∀ (count : Nat) {i : Nat} {r : ContinuousBatchActiveRequest C}, rs[i]? = some r →
    r.state.phase = .ingesting →
      r.state.remainingPromptTokens ≠ [] →
      count + (ingestingTokens nBatch rs count).length < nBatch →
      ∃ c, (ingestingPlan nBatch rs count)[i]? = some (some c) ∧
        c.chunkSize = r.state.remainingPromptTokens.length := by
  induction rs with
  | nil =>
    intro count i r hr
    simp at hr
  | cons r₀ rs ih =>
    intro count i r hr hphase hne hroom
    have hlen := List.length_pos_iff.mpr hne
    by_cases hzero : r₀.nextChunkSize nBatch count = 0
    · rw [ingestingTokens_cons_zero hzero] at hroom
      cases i with
      | zero =>
        rw [List.getElem?_cons_zero, Option.some.injEq] at hr
        subst hr
        simp only [ContinuousBatchActiveRequest.nextChunkSize, hphase,
          computeIngestingChunkSize] at hzero
        omega
      | succ i =>
        rw [ingestingPlan_cons_zero hzero]
        exact ih count (by simpa using hr) hphase hne hroom
    · rw [ingestingTokens_cons_length hzero] at hroom
      rw [ingestingPlan_cons hzero]
      cases i with
      | zero =>
        rw [List.getElem?_cons_zero, Option.some.injEq] at hr
        subst hr
        refine ⟨_, rfl, ?_⟩
        simp only [ContinuousBatchActiveRequest.nextChunkSize, hphase,
          computeIngestingChunkSize] at hroom ⊢
        omega
      | succ i => exact ih _ (by simpa using hr) hphase hne (by omega)

/-! ## Assembling keeps its law -/

/-- A planned pending token stands at the row that is recorded for it. -/
theorem isPendingToken_of_plan {nBatch i p : Nat} {rs : List (ContinuousBatchActiveRequest C)}
    (rest : List BatchToken) (hp : (generatingPlan nBatch rs 0)[i]? = some (some p)) :
    GeneratingContribution.IsPendingToken rs (generatingTokens nBatch rs 0 ++ rest) ⟨i, p⟩ := by
  have hi : i < rs.length := by
    rw [← generatingPlan_length nBatch rs 0]
    exact (List.getElem?_eq_some_iff.mp hp).1
  have hr := List.getElem?_eq_getElem hi
  obtain ⟨b, pre, post, hb, hsplit, hrow⟩ := generatingPlan_row hr hp
  obtain ⟨t, hphase, hpending, rfl⟩ := generatingToken_eq_some.mp hb
  refine ⟨rs[i], t, p, hr, hphase, hpending, rfl, ?_⟩
  rw [hsplit, ← hrow, Nat.zero_add]
  simp

theorem chunkTokens_getElem? {r : ContinuousBatchActiveRequest C} {k offset : Nat} (isLast : Bool)
    (hk : k ≤ r.state.remainingPromptTokens.length) (hoffset : offset < k) :
    ∃ token, r.state.promptTokens[r.state.promptTokensIngested + offset]? = some token ∧
      (chunkTokens r k isLast (r.state.remainingPromptTokens.take k) 0)[offset]? =
        some ⟨token, r.state.currentTokenPosition + offset, r.sequenceId,
          isLast && offset == k - 1, r.id⟩ := by
  have hlt : offset < r.state.remainingPromptTokens.length := by omega
  have hget : r.state.promptTokens[r.state.promptTokensIngested + offset]? =
      some r.state.remainingPromptTokens[offset] := by
    rw [← List.getElem?_eq_getElem hlt, ContinuousBatchRequestState.remainingPromptTokens,
      List.getElem?_drop]
  refine ⟨_, hget, ?_⟩
  have htake : (r.state.remainingPromptTokens.take k)[offset]? =
      some r.state.remainingPromptTokens[offset] := by
    rw [List.getElem?_take_of_lt hoffset, List.getElem?_eq_getElem hlt]
  simp [chunkTokens, List.getElem?_zipIdx, htake]

/-- A planned chunk is the next piece of its prompt, in the rows that end at the recorded one. -/
theorem isNextChunk_of_plan {nBatch i : Nat} {rs : List (ContinuousBatchActiveRequest C)}
    (before : List BatchToken) {c : PlannedChunk}
    (hc : (ingestingPlan nBatch rs before.length)[i]? = some (some c)) :
    IngestingContribution.IsNextChunk rs (before ++ ingestingTokens nBatch rs before.length)
      ⟨i, c.chunkSize, c.isLastChunk, c.lastBatchPosition⟩ := by
  have hi : i < rs.length := by
    rw [← ingestingPlan_length nBatch rs before.length]
    exact (List.getElem?_eq_some_iff.mp hc).1
  have hr := List.getElem?_eq_getElem hi
  obtain ⟨hphase, hpos, -, hrem, hlast, pre, post, hsplit, hrow⟩ := ingestingPlan_row hr hc
  have hremaining : rs[i].state.remainingPromptTokens.length =
      rs[i].state.promptTokens.length - rs[i].state.promptTokensIngested := List.length_drop
  refine ⟨rs[i], before.length + pre.length, hr, hphase, hpos, ?_, by
    rw [hrow], fun offset hoffset => ?_⟩
  · dsimp only
    rw [hlast, ContinuousBatchActiveRequest.isLastChunk, decide_eq_true_iff]
    omega
  · obtain ⟨token, htoken, hget⟩ := chunkTokens_getElem? c.isLastChunk hrem hoffset
    refine ⟨token, htoken, ?_⟩
    rw [← hget, hsplit, List.append_assoc, ← List.append_assoc before pre,
      List.getElem?_append_right (by rw [List.length_append]; omega), List.length_append,
      Nat.add_sub_cancel_left, List.getElem?_append_left]
    · rfl
    · simp only [ingestingSegment, chunkTokens_length, List.length_take]
      exact Nat.lt_min.mpr ⟨hoffset, Nat.lt_of_lt_of_le hoffset hrem⟩

theorem mem_requestIndices {nBatch i : Nat} {rs : List (ContinuousBatchActiveRequest C)} :
    i ∈ (assembled nBatch rs).contributions.requestIndices ↔
      (∃ p, (generatingPlan nBatch rs 0)[i]? = some (some p)) ∨
        ∃ c, (ingestingPlan nBatch rs (generatingTokens nBatch rs 0).length)[i]? =
          some (some c) := by
  simp only [Contributions.requestIndices, assembled, List.map_map, List.mem_append, List.mem_map,
    Function.comp_apply, Prod.exists, mem_selected_iff]
  constructor
  · rintro (⟨j, p, hp, rfl⟩ | ⟨j, c, hc, rfl⟩)
    · exact Or.inl ⟨p, hp⟩
    · exact Or.inr ⟨c, hc⟩
  · rintro (⟨p, hp⟩ | ⟨c, hc⟩)
    · exact Or.inl ⟨i, p, hp, rfl⟩
    · exact Or.inr ⟨i, c, hc, rfl⟩

theorem requestIndices_nodup (nBatch : Nat) (rs : List (ContinuousBatchActiveRequest C)) :
    (assembled nBatch rs).contributions.requestIndices.Nodup := by
  have hgenerating : (assembled nBatch rs).contributions.generating.map (·.requestIndex) =
      (selected (generatingPlan nBatch rs 0) 0).map Prod.fst := List.map_map
  have hingesting : (assembled nBatch rs).contributions.ingesting.map (·.requestIndex) =
      (selected (ingestingPlan nBatch rs (generatingTokens nBatch rs 0).length) 0).map Prod.fst :=
    List.map_map
  rw [Contributions.requestIndices, hgenerating, hingesting]
  refine List.nodup_append.mpr ⟨selected_fst_nodup _ _, selected_fst_nodup _ _, ?_⟩
  -- a request in both plans would be generating and ingesting at once
  intro i hi j hj heq
  subst heq
  obtain ⟨⟨_, p⟩, hp, rfl⟩ := List.mem_map.mp hi
  obtain ⟨⟨_, c⟩, hc, rfl⟩ := List.mem_map.mp hj
  rw [mem_selected_iff] at hp hc
  have hlt := (List.getElem?_eq_some_iff.mp hp).1
  rw [generatingPlan_length] at hlt
  cases ingestingPlan_of_generating (List.getElem?_eq_getElem hlt) hp hc

/-- **Assembling keeps its law.** -/
theorem assembled_law (nBatch : Nat) (rs : List (ContinuousBatchActiveRequest C)) :
    AssemblyLaw nBatch rs (assembled nBatch rs) := by
  have hgenerating := generatingTokens_length_le nBatch rs 0
  have hingesting := ingestingTokens_length_le nBatch rs (generatingTokens nBatch rs 0).length
  have hlength : (assembled nBatch rs).batch.tokens.length = (generatingTokens nBatch rs 0).length +
      (ingestingTokens nBatch rs (generatingTokens nBatch rs 0).length).length := List.length_append
  have hcontributions : (assembled nBatch rs).contributions.generating.length =
      (generatingTokens nBatch rs 0).length := by
    rw [← selected_generatingPlan_length rs 0 0]
    exact List.length_map _
  have hchunks : ((assembled nBatch rs).contributions.ingesting.map (·.chunkSize)).sum =
      (ingestingTokens nBatch rs (generatingTokens nBatch rs 0).length).length := by
    rw [← selected_ingestingPlan_sum rs _ 0]
    exact congrArg List.sum List.map_map
  refine
    { fits := by omega
      counted := ⟨hlength.symm, by rw [hlength, hcontributions, hchunks]⟩
      once := requestIndices_nodup nBatch rs
      pending := fun {i r} hr hphase hpending => ?_
      generating := fun contribution hmem => ?_
      ingesting := fun contribution hmem => ?_
      room := fun hroom {i r} hr hphase hne => ?_ }
  · rcases generatingPlan_planned nBatch 0 hr
      (generatingToken_isSome.mpr ⟨hphase, hpending⟩) with ⟨p, hp⟩ | ⟨hfull, hbefore⟩
    · refine Or.inl (List.mem_map.mpr ⟨⟨i, p⟩, ?_, rfl⟩)
      exact List.mem_map.mpr ⟨(i, p), mem_selected_iff.mpr hp, rfl⟩
    · refine Or.inr ⟨by omega, fun contribution hmem => ?_⟩
      obtain ⟨⟨j, p⟩, hp, rfl⟩ := List.mem_map.mp hmem
      exact hbefore (mem_selected_iff.mp hp)
  · obtain ⟨⟨i, p⟩, hp, rfl⟩ := List.mem_map.mp hmem
    exact isPendingToken_of_plan _ (mem_selected_iff.mp hp)
  · obtain ⟨⟨i, c⟩, hc, rfl⟩ := List.mem_map.mp hmem
    exact isNextChunk_of_plan _ (mem_selected_iff.mp hc)
  · obtain ⟨c, hc, hsize⟩ :=
      ingestingPlan_planned nBatch (generatingTokens nBatch rs 0).length hr hphase
      hne (by omega)
    exact ⟨_, List.mem_map.mpr ⟨(i, c), mem_selected_iff.mpr hc, rfl⟩, rfl, hsize⟩

/-! ## Committing keeps its law -/

/-- A request whose pending token was decoded has none left. -/
theorem applyGeneratingContribution_ne {state : ContinuousBatchRequestState} (batchPosition : Int)
    (h : state.pendingSampledToken ≠ none) :
    state.applyGeneratingContribution batchPosition ≠ state := by
  intro hsame
  exact h (congrArg (·.pendingSampledToken) hsame).symm

/-- A request whose chunk was decoded has ingested more of its prompt. -/
theorem applyIngestingContribution_ne {state : ContinuousBatchRequestState} {chunkSize : Nat}
    (hpos : 0 < chunkSize) (hle : chunkSize ≤ i32Max) (isLastChunk : Bool)
    (lastBatchPosition : Int) :
    (state.applyIngestingContribution chunkSize isLastChunk lastBatchPosition).2 ≠ state := by
  intro hsame
  rw [ContinuousBatchRequestState.applyIngestingContribution_of_le state hle] at hsame
  have hingested := congrArg (·.promptTokensIngested) hsame
  dsimp only at hingested
  omega

/-- Each request after the commit, by what the two plans have for it. -/
theorem commitPhase_getElem? {nBatch : Nat} (hn : nBatch ≤ i32Max)
    (rs : List (ContinuousBatchActiveRequest C)) :
    ∃ rs', commitPhase (assembled nBatch rs) rs = (true, rs') ∧ rs'.length = rs.length ∧
      ∀ {i : Nat} {r : ContinuousBatchActiveRequest C}, rs[i]? = some r →
        (∀ p, (generatingPlan nBatch rs 0)[i]? = some (some p) →
          rs'[i]? = some { r with state := r.state.applyGeneratingContribution p }) ∧
        (∀ c, (ingestingPlan nBatch rs (generatingTokens nBatch rs 0).length)[i]? = some (some c) →
          rs'[i]? = some { r with
            state := (r.state.applyIngestingContribution c.chunkSize c.isLastChunk
              c.lastBatchPosition).2 }) ∧
        (i ∉ (assembled nBatch rs).contributions.requestIndices → rs'[i]? = some r) := by
  have hplan₁ := generatingPlan_length nBatch rs 0
  have hplan₂ := ingestingPlan_length nBatch rs (generatingTokens nBatch rs 0).length
  refine ⟨_, commitPhase_assembled hn rfl, by simp [hplan₁, hplan₂], fun {i r} hr => ?_⟩
  have hi := (List.getElem?_eq_some_iff.mp hr).1
  obtain ⟨planned, hp⟩ : ∃ planned, (generatingPlan nBatch rs 0)[i]? = some planned :=
    ⟨_, List.getElem?_eq_getElem (hplan₁.symm ▸ hi)⟩
  obtain ⟨chunk, hc⟩ : ∃ chunk,
      (ingestingPlan nBatch rs (generatingTokens nBatch rs 0).length)[i]? = some chunk :=
    ⟨_, List.getElem?_eq_getElem (hplan₂.symm ▸ hi)⟩
  rw [List.getElem?_zipWith, List.getElem?_zipWith, hr, hp, hc, mem_requestIndices, hp, hc]
  refine ⟨?_, ?_, fun hnone => ?_⟩
  · rintro p hplanned
    cases hplanned
    cases ingestingPlan_of_generating hr hp hc
    rfl
  · rintro c hchunk
    cases hchunk
    cases planned with
    | none => rfl
    | some p => cases ingestingPlan_of_generating hr hp hc
  · obtain ⟨hplanned, hchunk⟩ := not_or.mp hnone
    cases planned with
    | some p => exact absurd ⟨p, rfl⟩ hplanned
    | none =>
      cases chunk with
      | some c => exact absurd ⟨c, rfl⟩ hchunk
      | none => rfl

/-- **Committing keeps its law.** -/
theorem commitPhase_law {nBatch : Nat} (hn : nBatch ≤ i32Max)
    (rs : List (ContinuousBatchActiveRequest C)) :
    ∃ rs', commitPhase (assembled nBatch rs) rs = (true, rs') ∧
    CommitLaw rs (assembled nBatch rs) rs' := by
  obtain ⟨rs', hcommit, hlength, hafter⟩ := commitPhase_getElem? hn rs
  refine ⟨rs', hcommit, ?_⟩
  refine
    { length := hlength
      changes := fun {i r r'} hr hr' => ?_
      generating := fun contribution hmem {r} hr => ?_
      ingesting := fun contribution hmem {r} hr => ?_ }
  · obtain ⟨htoken, hchunk, hkept⟩ := hafter hr
    constructor
    · intro hne
      by_contra hother
      exact hne (Option.some.inj (hr'.symm.trans (hkept hother)))
    · intro hmem hsame
      rcases mem_requestIndices.mp hmem with ⟨p, hp⟩ | ⟨c, hc⟩
      · cases hr'.symm.trans (htoken p hp)
        obtain ⟨b, -, -, hb, -⟩ := generatingPlan_row hr hp
        have hpending := (generatingToken_isSome.mp (Option.isSome_iff_exists.mpr ⟨b, hb⟩)).2
        exact applyGeneratingContribution_ne p hpending (congrArg (·.state) hsame)
      · cases hr'.symm.trans (hchunk c hc)
        obtain ⟨-, hpos, hle, -⟩ := ingestingPlan_row hr hc
        exact applyIngestingContribution_ne hpos (Nat.le_trans hle hn) _ _
          (congrArg (·.state) hsame)
  · obtain ⟨⟨i, p⟩, hp, rfl⟩ := List.mem_map.mp hmem
    exact (hafter hr).1 p (mem_selected_iff.mp hp)
  · obtain ⟨⟨i, c⟩, hc, rfl⟩ := List.mem_map.mp hmem
    exact (hafter hr).2.1 c (mem_selected_iff.mp hc)

/-! ## Every batch -/

/-- **Assembling succeeds, and the batch and its commit keep their laws.** -/
theorem assembledBatch_lawful {nBatch : Nat} {pass : BatchPass}
    (hnew : BatchPass.new nBatch = .ok pass) (rs : List (ContinuousBatchActiveRequest C)) :
    ∃ pass' rs', assembleBatchPhase nBatch pass rs = .ok pass' ∧ AssemblyLaw nBatch rs pass' ∧
      commitPhase pass' rs = (true, rs') ∧ CommitLaw rs pass' rs' := by
  have hn : nBatch ≤ i32Max := by
    by_contra h
    rw [batchPass_new_error h] at hnew
    cases hnew
  obtain ⟨rs', hcommit, hlaw⟩ := commitPhase_law hn rs
  exact ⟨assembled nBatch rs, rs', assemble_eq hnew rs, assembled_law nBatch rs, hcommit, hlaw⟩

/-- A request with a pending token, on sequence `sequenceId`. -/
def pendingRequest (sequenceId : Int) : ContinuousBatchActiveRequest Unit :=
  { state := ⟨8, none, 16, some (.content 3), .generating, [1, 2], 2⟩
    tokenClassifier := ()
    hasGrammarSampler := false
    generatedTokensTx := .new sequenceId.toNat none
    sequenceId := sequenceId
    toolCallPipeline := none
    history := .new 0 }

/-- A request with three tokens of its prompt left, on sequence `sequenceId`. -/
def promptedRequest (sequenceId : Int) : ContinuousBatchActiveRequest Unit :=
  { pendingRequest sequenceId with state := ⟨1, none, 16, none, .ingesting, [5, 6, 7, 8], 1⟩ }

/-- Four rows for two prompts and a pending token: the second prompt finds no room. -/
theorem assembledBatch_lawful_threeRequests :
    ∃ pass' rs', assembleBatchPhase 4 ⟨⟨4, []⟩, ⟨[], [], 0⟩⟩
        [promptedRequest 0, pendingRequest 1, promptedRequest 2] = .ok pass' ∧
      pass'.contributions = ⟨[⟨1, 0⟩], [⟨0, 3, true, 3⟩], 4⟩ ∧
      CommitLaw [promptedRequest 0, pendingRequest 1, promptedRequest 2] pass' rs' := by
  have hnew : BatchPass.new 4 = .ok ⟨⟨4, []⟩, ⟨[], [], 0⟩⟩ := rfl
  obtain ⟨pass', rs', hrun, -, -, hcommit⟩ := assembledBatch_lawful hnew
    [promptedRequest 0, pendingRequest 1, promptedRequest 2]
  refine ⟨pass', rs', hrun, ?_, hcommit⟩
  cases hrun.symm.trans (rfl : _ = Except.ok (assembled 4
    [promptedRequest 0, pendingRequest 1, promptedRequest 2]))
  rfl

end Paddler
