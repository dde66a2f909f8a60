import Paddler.Agent.SequenceIds

/-!
# Cells of ended work

Returning a sequence id is automatic, clearing its cells is not.  Two paths give an id back, or
never held one, and leave cells behind: an embedding batch after its last decode (one that failed
half way included), and a multimodal acceptance that fails after its chunks were evaluated.

* `KvOwned` — every cell stands on the sequence of an active request.
* `CellsReturned` — the step takes neither of the two paths.
* `kvCells_owned` — **runs of such steps never leave a cell behind.**
* `kvCells_left_behind` — each of the two paths does.
-/

set_option autoImplicit false

namespace Paddler

open VecUpdate Run

variable {C : Type}

/-- Every cell stands on the sequence of an active request. -/
def KvOwned (s : ContinuousBatchScheduler C) : Prop :=
  ∀ cell ∈ s.llamaContext.kvCells, cell.seqId ∈ s.activeRequests.map (·.sequenceId)

/-- The step leaves no cells of ended work: if it is a multimodal acceptance, then whatever fails
from the evaluation on fails before a cell was written; if it processes an embedding request, then
no token of the first batch of that request is processed. -/
def CellsReturned (ctx : ContinuousBatchSchedulerContext C) (thread : SchedulerThread C) :
    SchedulerInput C → Prop
  | .arrive _ _ | .dropCommandTx => True
  | .call answers =>
    (∀ command commandRx, thread.commandRx = command :: commandRx → thread.TakesCommand →
      command.Harvests ctx answers thread.scheduler → answers.acceptance.evalWritten ≠ [] →
      (∃ n, answers.acceptance.evalMultimodalChunks = .ok n) ∧
        ∀ grammar, answers.acceptance.grammarLlamaSampler grammar = .ok ()) ∧
    (∀ request pending, thread.call = .tryProcessEmbeddingRequest →
      thread.scheduler.pendingEmbeddingRequests = request :: pending →
      thread.scheduler.hasActiveRequests = false →
      FirstBatchNotProcessed ctx answers.embedding request)

namespace KvOwned

variable {ctx : ContinuousBatchSchedulerContext C} {s s' : ContinuousBatchScheduler C}

theorem congr (h : KvOwned s) (hcells : s'.llamaContext.kvCells ⊆ s.llamaContext.kvCells)
    (hkeys : s'.activeRequests.map (·.key) = s.activeRequests.map (·.key)) : KvOwned s' := by
  intro cell hcell
  rw [map_sequenceId_eq, hkeys, ← map_sequenceId_eq]
  exact h cell (hcells hcell)

theorem cleaned (hseq : SequenceIdsInv ctx s) (h : KvOwned s) {index : Nat}
    {r : ContinuousBatchActiveRequest C} {rest : List (ContinuousBatchActiveRequest C)}
    (hswap : swapRemove s.activeRequests index = some (r, rest)) : KvOwned (s.cleaned r rest) := by
  intro cell hcell
  have hperm := swapRemove_perm hswap
  have hr : r ∈ s.activeRequests := hperm.mem_iff.mpr (List.mem_cons_self ..)
  obtain ⟨hold, hne⟩ := (LlamaContext.mem_clearKvCacheForSequence (hseq.nonneg hr)).mp hcell
  have hmem := (hperm.map (·.sequenceId)).mem_iff.mp (h cell hold)
  rcases List.mem_cons.mp hmem with heq | hmem
  · exact absurd heq hne
  · exact hmem

theorem accepted (hseq : SequenceIdsInv ctx s) (h : KvOwned s) {answers : AcceptanceAnswers C}
    {sampling : Nat → SamplingAnswers} {served harvests : Prop} {tx : Sender GeneratedTokenResult}
    (hreturned : harvests → answers.evalWritten ≠ [] →
      (∃ n, answers.evalMultimodalChunks = .ok n) ∧
        ∀ grammar, answers.grammarLlamaSampler grammar = .ok ())
    {prompted : Option String} {requested : Option Int}
    (hstep : AcceptStep ctx answers sampling served harvests tx prompted requested s s') :
    KvOwned s' := by
  have hcleared : ∀ {sequenceId : Int} {pool : SequenceIdPool},
      s.sequenceIdPool.acquire = some (sequenceId, pool) →
      (s.llamaContext.clearKvCacheForSequence sequenceId).kvCells ⊆ s.llamaContext.kvCells :=
    fun hacquire _ hcell =>
      ((LlamaContext.mem_clearKvCacheForSequence (hseq.acquired_nonneg hacquire)).mp hcell).1
  cases hstep with
  | refused _ => exact h
  | text hacquire _ =>
    intro cell hcell
    rw [List.map_append]
    exact List.mem_append_left _ (h cell (hcleared hacquire hcell))
  | @harvestRefused sequenceId pool llama tx' hharvests hacquire _ hllama =>
    refine h.congr ?_ (harvest_keys ctx sampling _ _)
    rcases hllama with rfl | ⟨rfl, hfailed⟩
    · exact hcleared hacquire
    · have hnil : answers.evalWritten = [] := by
        by_contra hwritten
        obtain ⟨⟨n, hn⟩, hgrammar⟩ := hreturned hharvests hwritten
        rcases hfailed with ⟨err, he⟩ | ⟨_, grammar, err, -, he⟩
        · rw [hn] at he
          cases he
        · rw [hgrammar] at he
          cases he
      intro cell hcell
      refine hcleared hacquire ?_
      simpa [LlamaContext.evalMultimodal, ContinuousBatchScheduler.dropSender, hnil] using hcell
  | @multimodal sequenceId pool _ _ _ _ _ _ hacquire _ =>
    intro cell hcell
    simp only [List.map_append, List.map_cons, List.map_nil, List.mem_append]
    rcases List.mem_append.mp hcell with hcell | hcell
    · left
      rw [map_sequenceId_eq, harvest_keys, ← map_sequenceId_eq]
      exact h cell (hcleared hacquire hcell)
    · right
      obtain ⟨position, -, rfl⟩ := List.mem_map.mp hcell
      exact List.mem_singleton.mpr rfl

/-- **A step that takes neither path keeps every cell owned.** -/
theorem preserves {thread : SchedulerThread C} {answers : StepAnswers C}
    (hseq : SequenceIdsInv ctx thread.scheduler) (h : KvOwned thread.scheduler)
    (hreturned : CellsReturned ctx thread (.call answers)) :
    StepPreserves ctx thread answers (SequenceIdsInv ctx) KvOwned where
  stopSignals _ := h.congr (fun _ hc => hc) (checkStopSignals_keys ctx _ _)
  cleanup s index r rest hs hp hswap _ := hp.cleaned hs hswap
  evict s index r result _ hp _ _ _ := hp.congr (fun _ hc => hc) (modify_keys _ _ _)
  command command commandRx hrx htakes := by
    rcases processCommand_cases ctx answers thread.scheduler command with
      ⟨tx, -, -, hstep⟩ | ⟨request, -, heq⟩ | ⟨-, heq⟩
    · exact h.accepted hseq (hreturned.1 command commandRx hrx htakes) hstep
    · rw [heq]
      exact h
    · rw [heq]
      exact h
  running := h
  embedding hcall := by
    unfold tryProcessEmbeddingRequest
    split
    · exact h
    · rename_i request pending hpending
      split
      · exact h
      · rename_i hidle
        exact h.congr (processEmbeddingBatch_kvCells
          (hreturned.2 request pending hcall hpending (by simpa using hidle))) rfl
  advance _ := h.congr (fun _ hc => hc) (advance_keys ctx _ _)
  decode s hs hp _ hn := by
    have hkeys := decoded_keys (decodedWith_activeRequests hn hs.nodup)
    intro cell hcell
    rw [map_sequenceId_eq, hkeys, ← map_sequenceId_eq]
    rcases List.mem_append.mp hcell with hcell | hcell
    · exact hp cell hcell
    · obtain ⟨b, hb, rfl⟩ := List.mem_map.mp hcell
      exact assembled_seqId hb
  decodeFailed s error _ hp cell hcell := by
    rcases LlamaContext.mem_decode hcell with hcell | ⟨b, hb, rfl⟩
    · exact hp cell hcell
    · exact assembled_seqId hb

end KvOwned

/-- **No cells of ended work**, in every state of every run whose steps return their cells: every
cell stands on the sequence of an active request, and the sequences of the free ids are empty. -/
theorem kvCells_owned {ctx : ContinuousBatchSchedulerContext C} {thread : SchedulerThread C}
    (h : Reaches (SchedulerThread.step ctx) (CellsReturned ctx) (.new ctx) thread) :
    (∀ cell ∈ thread.scheduler.llamaContext.kvCells,
      cell.seqId ∈ thread.scheduler.activeRequests.map (·.sequenceId)) ∧
    ∀ sequenceId ∈ thread.scheduler.sequenceIdPool.availableIds,
      thread.scheduler.llamaContext.kvCells.filter (fun cell => cell.seqId == sequenceId) = [] := by
  have howned : KvOwned thread.scheduler := by
    refine h.invariant (fun thread => KvOwned thread.scheduler) (fun cell hcell => by cases hcell)
      fun thread input hreach hinv hguard => ?_
    cases input with
    | arrive params drops => exact hinv
    | dropCommandTx => exact hinv
    | call answers =>
      have hseq := sequenceIdsInv_reaches hreach
      exact callStep_relying _ (hseq.preserves answers) hseq hinv (hinv.preserves hseq hguard)
  refine ⟨howned, fun sequenceId hfree => List.filter_eq_nil_iff.mpr fun cell hcell heq => ?_⟩
  obtain ⟨r, hr, hsame⟩ := List.mem_map.mp (howned cell hcell)
  have heq' : cell.seqId = sequenceId := by simpa using heq
  exact (sequenceIdsInv_reaches h).not_held hfree hr (hsame.trans heq')

/-- The small agent with an image evaluation that fails after its first cell. -/
def failedEvalAnswers : StepAnswers Unit :=
  { smallAnswers with
    acceptance := { smallAnswers.acceptance with
      evalMultimodalChunks := .error (.other "eval failed")
      evalWritten := [0] } }

/-- The small agent with an embedding decode that fails with `error`. -/
def failedEmbeddingAnswers (error : DecodeError) : StepAnswers Unit :=
  { smallAnswers with
    embedding := { smallAnswers.embedding with decode := fun _ => .error error } }

/-- The state after an embedding batch found no room in the cache and an image prompt was
accepted. -/
def failedEmbeddingThenImage : SchedulerThread Unit :=
  (SchedulerThread.new smallContext).run smallContext
    (.arrive embeddingBatch none :: calls 5 (failedEmbeddingAnswers .noKvCacheSlot) ++
      .arrive imagePrompt none :: calls 1 (failedEmbeddingAnswers .noKvCacheSlot))

theorem kvCells_owned_failedEmbeddingThenImage :
    failedEmbeddingThenImage.scheduler.llamaContext.kvCells = [⟨0, 0, 1⟩, ⟨0, 1, 1⟩] ∧
    failedEmbeddingThenImage.scheduler.endedEmbeddings.length = 1 ∧
    ∀ cell ∈ failedEmbeddingThenImage.scheduler.llamaContext.kvCells,
      cell.seqId ∈ failedEmbeddingThenImage.scheduler.activeRequests.map (·.sequenceId) := by
  have hreturned : ∀ thread, CellsReturned smallContext thread
      (.call (failedEmbeddingAnswers .noKvCacheSlot)) :=
    fun _ => ⟨fun _ _ _ _ _ _ => ⟨⟨2, rfl⟩, fun _ => rfl⟩,
      fun _ _ _ _ _ => Or.inr (Or.inr (Or.inr (Or.inr ⟨_, rfl, rfl⟩)))⟩
  refine ⟨by decide, by decide, (kvCells_owned (Reaches.runs _ ?_ .start)).1⟩
  intro input hinput thread
  simp only [List.cons_append, List.mem_cons, List.mem_append, calls, List.mem_replicate] at hinput
  rcases hinput with rfl | ⟨-, rfl⟩ | rfl | ⟨-, rfl⟩
  · trivial
  · exact hreturned thread
  · trivial
  · exact hreturned thread

/-- The state after an embedding batch of one document. -/
def embeddingServed : SchedulerThread Unit :=
  (SchedulerThread.new smallContext).run smallContext
    (.arrive embeddingBatch none :: calls 5 smallAnswers)

/-- The state after the decode of that batch was aborted with its token processed. -/
def embeddingAborted : SchedulerThread Unit :=
  (SchedulerThread.new smallContext).run smallContext
    (.arrive embeddingBatch none :: calls 5 (failedEmbeddingAnswers (.aborted 1)))

/-- The state after an image prompt was refused because its evaluation failed. -/
def evalFailed : SchedulerThread Unit :=
  (SchedulerThread.new smallContext).run smallContext
    (.arrive imagePrompt none :: calls 3 failedEvalAnswers)

/-- Both paths leave a cell on sequence 0, which is free: an embedding batch, served or aborted, and
an image prompt that was refused. -/
theorem kvCells_left_behind :
    (embeddingServed.scheduler.activeRequests.length = 0 ∧
      0 ∈ embeddingServed.scheduler.sequenceIdPool.availableIds ∧
      embeddingServed.scheduler.llamaContext.kvCells = [⟨0, 0, 0⟩]) ∧
    (embeddingAborted.scheduler.activeRequests.length = 0 ∧
      0 ∈ embeddingAborted.scheduler.sequenceIdPool.availableIds ∧
      embeddingAborted.scheduler.llamaContext.kvCells = [⟨0, 0, 0⟩]) ∧
    (evalFailed.scheduler.activeRequests.length = 0 ∧
      0 ∈ evalFailed.scheduler.sequenceIdPool.availableIds ∧
      evalFailed.scheduler.llamaContext.kvCells = [⟨0, 0, 0⟩]) ∧
    ¬ ∀ thread : SchedulerThread Unit,
      Reaches (SchedulerThread.step smallContext) (fun _ _ => True) (.new smallContext) thread →
      ∀ sequenceId ∈ thread.scheduler.sequenceIdPool.availableIds,
        thread.scheduler.llamaContext.kvCells.filter (fun cell => cell.seqId == sequenceId) =
          [] := by
  refine ⟨by decide, by decide, by decide, fun hempty => ?_⟩
  have h := hempty evalFailed (Reaches.runs _ (fun _ _ _ => trivial) .start) 0 (by decide)
  exact absurd h (by decide)

end Paddler
