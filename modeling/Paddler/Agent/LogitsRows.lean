import Paddler.Agent.RequestRule

/-!
# Logits rows are fresh

`i_batch` is an index into a buffer that every decode replaces and that all sequences share.  It is
never stale: all rows are sampled before the next batch is assembled or an image is evaluated, and
a decode that fails leaves both the buffer and the index alone.

* `RowOfLastToken` — what `i_batch` denotes.
* `logitsRow_fresh` — **it denotes that in every state, and every read made so far was of such a
  row.**
-/

set_option autoImplicit false

namespace Paddler

open VecUpdate Run

variable {C : Type}

/-- Row `i` of the logits that `d` left is the row of the last token decoded for `r`, or the row
that its own image evaluation left when nothing was decoded for it since. -/
def RowOfLastToken (d : LastDecode) (r : ContinuousBatchActiveRequest C) (i : Int) : Prop :=
  (∃ (tokens : List BatchToken) (p : Nat) (b : BatchToken), d = .batch tokens ∧ i = p ∧
    tokens[p]? = some b ∧ r.history.decoded.getLast? = some b ∧ b.requestId = r.id ∧
    b.seqId = r.sequenceId ∧ b.position = r.state.currentTokenPosition - 1 ∧ b.logits = true) ∨
  (d = .multimodal r.id ∧ i = -1 ∧ r.history.decoded = [])

/-- The read was of the reader's own row: that of the token before its position in the decode that
had filled the buffer, or that of its own image evaluation. -/
def LogitsRead.Fresh (requestId : Nat) (read : LogitsRead) : Prop :=
  (∃ (tokens : List BatchToken) (p : Nat) (b : BatchToken), read.lastDecode = .batch tokens ∧
    read.batchIndex = p ∧ tokens[p]? = some b ∧ b.requestId = requestId ∧
    b.position = read.position - 1 ∧ b.logits = true) ∨
  (read.lastDecode = .multimodal requestId ∧ read.batchIndex = -1)

/-- The row that waits to be sampled and the rows that were sampled, for one request. -/
structure RowsFresh (d : LastDecode) (r : ContinuousBatchActiveRequest C) : Prop where
  row : ∀ i, r.sampleableBatchIndex = some i → RowOfLastToken d r i
  reads : ∀ read ∈ r.history.reads, read.Fresh r.id

theorem RowOfLastToken.fresh {d : LastDecode} {r : ContinuousBatchActiveRequest C} {i : Int}
    (h : RowOfLastToken d r i) :
    LogitsRead.Fresh r.id ⟨i, d, r.state.currentTokenPosition⟩ := by
  rcases h with ⟨tokens, p, b, hd, hi, hget, -, hid, -, hpos, hlogits⟩ | ⟨hd, hi, -⟩
  · exact Or.inl ⟨tokens, p, b, hd, hi, hget, hid, hpos, hlogits⟩
  · exact Or.inr ⟨hd, hi⟩

namespace RowsFresh

variable {d : LastDecode} {r r' : ContinuousBatchActiveRequest C}

theorem waiting (h : RowsFresh d r) (hno : r'.sampleableBatchIndex = none)
    (hreads : r'.history.reads = r.history.reads) (hid : r'.id = r.id) (d' : LastDecode) :
    RowsFresh d' r' := by
  refine ⟨fun i hi => ?_, fun read hread => ?_⟩
  · rw [hno] at hi
    cases hi
  · rw [hreads] at hread
    rw [hid]
    exact h.reads read hread

theorem sampled {llama : LlamaContext} (h : RowsFresh llama.lastDecode r)
    (hstep : SamplingStep llama r r') : RowsFresh llama.lastDecode r' := by
  have hread : ∀ {i : Int}, r.sampleableBatchIndex = some i → SamplingFrame llama r r' i →
      ∀ read ∈ r'.history.reads, read.Fresh r'.id := by
    intro i hi frame read hread
    rw [frame.reads] at hread
    rw [frame.id]
    rcases List.mem_append.mp hread with hread | hread
    · exact h.reads read hread
    · rw [List.mem_singleton.mp hread]
      exact (h.row i hi).fresh
  cases hstep with
  | idle _ => exact h
  | completed _ hi frame hphase =>
    refine ⟨fun i' hi' => ?_, hread hi frame⟩
    rw [RequestRule.sampleable_of_completed (by rw [hphase]; rfl)] at hi'
    cases hi'
  | stored hi frame _ hpending =>
    refine ⟨fun i' hi' => ?_, hread hi frame⟩
    have hnone := (sampleableBatchIndex_eq_some.mp hi').2.1
    rw [hpending] at hnone
    cases hnone

theorem decoded {tokens : List BatchToken} (h : RowsFresh d r)
    (hno : r.sampleableBatchIndex = none) (hstep : DecodeStep tokens r r') :
    RowsFresh (.batch tokens) r' := by
  cases hstep with
  | skipped => exact h.waiting hno rfl rfl _
  | @generated p t b _ _ hb hrow =>
    refine ⟨fun i hi => ?_, h.reads⟩
    have hi' : some (p : Int) = some i := (sampleableBatchIndex_eq_some.mp hi).2.2
    cases hi'
    refine Or.inl ⟨tokens, p, b, rfl, rfl, hrow, List.getLast?_concat, ?_⟩
    subst hb
    refine ⟨rfl, rfl, ?_, rfl⟩
    simp [ContinuousBatchRequestState.applyGeneratingContribution]
  | @ingested p k b hphase hk hle hrow hpos hseq hlogits hid hlast hsize =>
    refine ⟨fun i hi => ?_, h.reads⟩
    obtain ⟨hgenerating, -, hrowAt⟩ := sampleableBatchIndex_eq_some.mp hi
    simp only [r.state.applyIngestingContribution_of_le hsize] at hgenerating hrowAt
    -- only the last chunk moves the request on to sampling
    cases hl : r.isLastChunk k with
    | false =>
      rw [hl, if_neg (by simp), hphase] at hgenerating
      cases hgenerating
    | true =>
      rw [hl, if_pos rfl, Option.some.injEq] at hrowAt
      rw [hl] at hlast
      refine Or.inl ⟨tokens, p, b, rfl, hrowAt.symm, hrow, ?_, hid, hseq, ?_, by rw [hlogits, hl]⟩
      · rw [List.getLast?_append, hlast]
        rfl
      · simp only [r.state.applyIngestingContribution_of_le hsize]
        exact hpos

end RowsFresh

/-- **Logits rows are fresh** in every state of every run: the `i_batch` of a request that is about
to be sampled denotes the row of its own last token in the decode that filled the logits buffer,
and so did the row of every read made before, of running and of ended requests. -/
theorem logitsRow_fresh {ctx : ContinuousBatchSchedulerContext C} {thread : SchedulerThread C}
    (h : Reaches (SchedulerThread.step ctx) (fun _ _ => True) (.new ctx) thread) :
    (∀ r ∈ thread.scheduler.activeRequests, ∀ i, r.state.phase = .generating →
      r.state.pendingSampledToken = none → r.state.iBatch = some i →
      RowOfLastToken thread.scheduler.llamaContext.lastDecode r i) ∧
    (∀ r ∈ thread.scheduler.activeRequests, ∀ read ∈ r.history.reads, read.Fresh r.id) ∧
    ∀ e ∈ thread.scheduler.ended, ∀ read ∈ e.history.reads,
      read.Fresh e.generatedTokensTx.id := by
  have hfresh : EachRequest RowsFresh (fun e => ∀ read ∈ e.history.reads,
      read.Fresh e.generatedTokensTx.id) thread.scheduler := by
    refine RequestRule.reaches (fun thread answers _ _ => ?_) h
    exact
      { completed := fun d r result hr hphase _ _ => hr.waiting
          (RequestRule.sampleable_of_completed (r.completeWithOutcome_isCompleted result)) rfl rfl d
        replaced := fun d d' r hr hno => hr.waiting hno rfl rfl d'
        advanced := fun r _ _ hr => hr.sampled (advance_samplingStep ..)
        harvested := fun _ _ _ _ _ r _ llama hr => hr.sampled (harvestOne_samplingStep ..)
        decoded := fun tokens d r r' hr hno hstep => hr.decoded hno hstep
        text := fun _ _ _ _ _ _ _ _ _ _ _ _ _ _ _ _ _ _ _ =>
          ⟨fun _ hi => (nomatch hi), fun read hread => absurd hread List.not_mem_nil⟩
        multimodal := fun _ _ _ _ _ _ _ _ _ _ _ _ _ _ =>
          ⟨fun i hi => Or.inr ⟨rfl, by cases hi; rfl, rfl⟩,
            fun read hread => absurd hread List.not_mem_nil⟩
        delivered := by
          intro d r hr _ read hread
          unfold ContinuousBatchActiveRequest.deliverTerminal at hread ⊢
          cases hoc : r.state.intoTerminalOutcome with
          | emitNothing =>
            rw [hoc] at hread
            exact hr.reads read hread
          | emitToClient result =>
            rw [hoc] at hread
            simp only [Sender.send_id]
            exact hr.reads read hread
        refused := fun _ _ _ _ _ _ _ _ read hread => absurd hread List.not_mem_nil }
  refine ⟨fun r hr i hphase hpending hi => ?_, fun r hr => (hfresh.active r hr).reads, hfresh.ended⟩
  exact (hfresh.active r hr).row i (sampleableBatchIndex_eq_some.mpr ⟨hphase, hpending, hi⟩)

/-- The state before the second request is sampled: a text prompt was ingested, then an image was
evaluated. -/
def textThenImage : SchedulerThread Unit :=
  (SchedulerThread.new smallContext).run smallContext
    (.arrive textPrompt none :: calls 6 smallAnswers ++
      .arrive imagePrompt none :: calls 3 smallAnswers)

theorem logitsRow_fresh_textThenImage :
    textThenImage.scheduler.activeRequests.map (fun r => (r.id, r.sampleableBatchIndex)) =
      [(0, none), (1, some (-1))] ∧
    textThenImage.scheduler.activeRequests.map (fun r => r.history.reads.map (·.batchIndex)) =
      [[0], []] ∧
    ∀ r ∈ textThenImage.scheduler.activeRequests, ∀ read ∈ r.history.reads, read.Fresh r.id :=
  ⟨by decide, by decide, (logitsRow_fresh (Reaches.runs _ (fun _ _ _ => trivial) .start)).2.1⟩

end Paddler
