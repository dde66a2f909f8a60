import Mathlib.Data.List.Perm.Subperm
import Mathlib.Data.List.Nodup
import Paddler.Agent.Scheduler

/-!
# Sequence ids

Every run of the scheduler keeps the sequence ids apart: the ids of the active requests and the
free ids of the pool are together exactly `0, …, max_sequences - 1`.

* `SequenceIdsInv` — the invariant; `SequenceIdsInv.preserves` — every step keeps it.
* `RequestIds` — no two requests on their way through the thread have the same identity.
* `sequenceId_exclusive` — **exclusivity over every run**, and every request starts on a sequence
  that holds nothing but what its own acceptance wrote.
-/

set_option autoImplicit false

namespace Paddler

open VecUpdate Run

variable {C : Type}

/-- `0..max_sequences`. -/
def sequenceIdRange (ctx : ContinuousBatchSchedulerContext C) : List Int :=
  (List.range ctx.desiredSlotsTotal.toNat).map Int.ofNat

/-- Held and free ids are together all ids. -/
def SequenceIdsInv (ctx : ContinuousBatchSchedulerContext C) (s : ContinuousBatchScheduler C) :
    Prop :=
  List.Perm (s.activeRequests.map (·.sequenceId) ++ s.sequenceIdPool.availableIds)
    (sequenceIdRange ctx)

theorem sequenceIdRange_nodup (ctx : ContinuousBatchSchedulerContext C) :
    (sequenceIdRange ctx).Nodup :=
  List.Nodup.map (fun _ _ h => Int.ofNat.inj h) List.nodup_range

namespace SequenceIdsInv

variable {ctx : ContinuousBatchSchedulerContext C} {s : ContinuousBatchScheduler C}

theorem length_le (h : SequenceIdsInv ctx s) : s.activeRequests.length ≤ i32Max := by
  have hlength := h.length_eq
  have hslots := ctx.desiredSlotsTotal_le
  simp only [List.length_append, List.length_map, sequenceIdRange, List.length_range] at hlength
  omega

theorem nodup (h : SequenceIdsInv ctx s) : (s.activeRequests.map (·.sequenceId)).Nodup :=
  (List.nodup_append.mp (h.nodup_iff.mpr (sequenceIdRange_nodup ctx))).1

theorem mem_range (h : SequenceIdsInv ctx s) {sequenceId : Int}
    (hm : sequenceId ∈ s.activeRequests.map (·.sequenceId) ++ s.sequenceIdPool.availableIds) :
    0 ≤ sequenceId := by
  obtain ⟨n, -, rfl⟩ := List.mem_map.mp (h.mem_iff.mp hm)
  exact Int.natCast_nonneg n

theorem nonneg (h : SequenceIdsInv ctx s) {r : ContinuousBatchActiveRequest C}
    (hr : r ∈ s.activeRequests) : 0 ≤ r.sequenceId :=
  h.mem_range (List.mem_append_left _ (List.mem_map_of_mem hr))

theorem acquired_nonneg (h : SequenceIdsInv ctx s) {sequenceId : Int} {pool : SequenceIdPool}
    (hacquire : s.sequenceIdPool.acquire = some (sequenceId, pool)) : 0 ≤ sequenceId := by
  refine h.mem_range (List.mem_append_right _ ?_)
  rw [SequenceIdPool.acquire_some hacquire]
  simp

theorem not_held (h : SequenceIdsInv ctx s) {sequenceId : Int}
    (hfree : sequenceId ∈ s.sequenceIdPool.availableIds) {r : ContinuousBatchActiveRequest C}
    (hr : r ∈ s.activeRequests) : r.sequenceId ≠ sequenceId := by
  have hnodup := h.nodup_iff.mpr (sequenceIdRange_nodup ctx)
  exact fun heq => (List.nodup_append.mp hnodup).2.2 _ (List.mem_map_of_mem hr) _ hfree heq

/-- The invariant depends only on the sequences of the requests and on the pool. -/
theorem congr {s' : ContinuousBatchScheduler C} (h : SequenceIdsInv ctx s)
    (hkeys : s'.activeRequests.map (·.key) = s.activeRequests.map (·.key))
    (hpool : s'.sequenceIdPool = s.sequenceIdPool) : SequenceIdsInv ctx s' := by
  unfold SequenceIdsInv at h ⊢
  rwa [map_sequenceId_eq, hkeys, hpool, ← map_sequenceId_eq]

theorem acquired (h : SequenceIdsInv ctx s) {s' : ContinuousBatchScheduler C} {sequenceId : Int}
    {r : ContinuousBatchActiveRequest C} {rs : List (ContinuousBatchActiveRequest C)}
    (hacquire : s.sequenceIdPool.acquire = some (sequenceId, s'.sequenceIdPool))
    (hkeys : rs.map (·.key) = s.activeRequests.map (·.key))
    (hactive : s'.activeRequests = rs ++ [r]) (hr : r.sequenceId = sequenceId) :
    SequenceIdsInv ctx s' := by
  unfold SequenceIdsInv at h ⊢
  rw [SequenceIdPool.acquire_some hacquire] at h
  refine List.Perm.trans ?_ h
  have hrs : rs.map (·.sequenceId) = s.activeRequests.map (·.sequenceId) := by
    rw [map_sequenceId_eq, hkeys, ← map_sequenceId_eq]
  rw [hactive, List.map_append, hrs, List.append_assoc]
  refine List.Perm.append_left _ ?_
  rw [List.map_singleton, hr]
  exact (List.perm_append_singleton _ _).symm

theorem cleaned (h : SequenceIdsInv ctx s) {index : Nat} {r : ContinuousBatchActiveRequest C}
    {rest : List (ContinuousBatchActiveRequest C)}
    (hswap : swapRemove s.activeRequests index = some (r, rest)) :
    SequenceIdsInv ctx (s.cleaned r rest) := by
  unfold SequenceIdsInv at h ⊢
  refine List.Perm.trans ?_ h
  have hperm := (swapRemove_perm hswap).map (·.sequenceId)
  have hlast : List.Perm
      (rest.map (·.sequenceId) ++ (s.sequenceIdPool.availableIds ++ [r.sequenceId]))
      (r.sequenceId :: (rest.map (·.sequenceId) ++ s.sequenceIdPool.availableIds)) := by
    rw [← List.append_assoc]
    exact List.perm_append_singleton _ _
  exact hlast.trans (hperm.symm.append_right _)

theorem accepted (h : SequenceIdsInv ctx s) {answers : AcceptanceAnswers C}
    {sampling : Nat → SamplingAnswers} {served harvests : Prop} {tx : Sender GeneratedTokenResult}
    {s' : ContinuousBatchScheduler C}
    {prompted : Option String} {requested : Option Int}
    (hstep : AcceptStep ctx answers sampling served harvests tx prompted requested s s') :
    SequenceIdsInv ctx s' := by
  cases hstep with
  | refused _ => exact h
  | text hacquire _ => exact h.acquired hacquire rfl rfl rfl
  | harvestRefused _ _ _ _ => exact h.congr (harvest_keys ctx sampling _ _) rfl
  | multimodal _ hacquire _ => exact h.acquired hacquire (harvest_keys ctx sampling _ _) rfl rfl

/-- **Every step keeps the sequence ids apart.** -/
theorem preserves {thread : SchedulerThread C} (answers : StepAnswers C)
    (h : SequenceIdsInv ctx thread.scheduler) :
    StepPreserves ctx thread answers (fun _ => True) (SequenceIdsInv ctx) where
  stopSignals _ := h.congr (checkStopSignals_keys ctx _ _) rfl
  cleanup s index r rest _ hs hswap _ := hs.cleaned hswap
  evict s index r result _ hs _ _ _ := hs.congr (modify_keys _ _ _) rfl
  command command commandRx _ _ := by
    rcases processCommand_cases ctx answers thread.scheduler command with
      ⟨tx, -, -, hstep⟩ | ⟨request, -, heq⟩ | ⟨-, heq⟩
    · exact h.accepted hstep
    · rw [heq]
      exact h
    · rw [heq]
      exact h
  running := h
  embedding _ := by
    unfold tryProcessEmbeddingRequest
    split
    · exact h
    · split <;> exact h
  advance _ := h.congr (advance_keys ctx _ _) rfl
  decode s _ hs _ hn := hs.congr (decoded_keys (decodedWith_activeRequests hn hs.nodup)) rfl
  decodeFailed _ _ _ hs := hs

end SequenceIdsInv

theorem sequenceIdsInv_new (ctx : ContinuousBatchSchedulerContext C) :
    SequenceIdsInv ctx (SchedulerThread.new ctx).scheduler :=
  List.reverse_perm _

theorem sequenceIdsInv_reaches {ctx : ContinuousBatchSchedulerContext C}
    {guard : SchedulerThread C → SchedulerInput C → Prop} {thread : SchedulerThread C}
    (h : Reaches (SchedulerThread.step ctx) guard (.new ctx) thread) :
    SequenceIdsInv ctx thread.scheduler := by
  refine h.invariant (fun thread => SequenceIdsInv ctx thread.scheduler) (sequenceIdsInv_new ctx)
    fun thread input _ hinv _ => ?_
  cases input with
  | arrive params drops => exact hinv
  | dropCommandTx => exact hinv
  | call answers => exact callStep_preserves (hinv.preserves answers) hinv

/-! ## Identities -/

/-- The identities of the active requests and of the commands in the channel. -/
def liveIds (s : ContinuousBatchScheduler C) (commandRx : List ContinuousBatchSchedulerCommand) :
    List Nat :=
  s.activeRequests.map (·.id) ++ commandRx.filterMap (·.requestId)

/-- All of them are different, and older than the next one. -/
def RequestIds (next : Nat) (commandRx : List ContinuousBatchSchedulerCommand)
    (s : ContinuousBatchScheduler C) : Prop :=
  (liveIds s commandRx).Nodup ∧ ∀ id ∈ liveIds s commandRx, id < next

namespace RequestIds

variable {ctx : ContinuousBatchSchedulerContext C} {next : Nat}
  {commandRx commandRx' : List ContinuousBatchSchedulerCommand} {s s' : ContinuousBatchScheduler C}

theorem subperm (h : RequestIds next commandRx s)
    (hsub : List.Subperm (liveIds s' commandRx') (liveIds s commandRx)) :
    RequestIds next commandRx' s' := by
  refine ⟨?_, fun id hid => h.2 id (List.Subperm.subset hsub hid)⟩
  obtain ⟨ids, hperm, hsublist⟩ := hsub
  exact hperm.nodup_iff.mp (h.1.sublist hsublist)

theorem congr (h : RequestIds next commandRx s)
    (hkeys : s'.activeRequests.map (·.key) = s.activeRequests.map (·.key)) :
    RequestIds next commandRx s' := by
  unfold RequestIds liveIds at h ⊢
  rwa [map_id_eq, hkeys, ← map_id_eq]

theorem cleaned (h : RequestIds next commandRx s) {index : Nat} {r : ContinuousBatchActiveRequest C}
    {rest : List (ContinuousBatchActiveRequest C)}
    (hswap : swapRemove s.activeRequests index = some (r, rest)) :
    RequestIds next commandRx (s.cleaned r rest) := by
  refine h.subperm ((List.subperm_append_right _).mpr ?_)
  have hperm := (swapRemove_perm hswap).map (·.id)
  exact (List.sublist_cons_self r.id _).subperm.trans hperm.symm.subperm

/-- The accepted request takes its identity from the command. -/
theorem accepted {command : ContinuousBatchSchedulerCommand} {answers : AcceptanceAnswers C}
    {sampling : Nat → SamplingAnswers} {served harvests : Prop} {tx : Sender GeneratedTokenResult}
    (h : RequestIds next (command :: commandRx) s) (hid : command.requestId = some tx.id)
    {prompted : Option String} {requested : Option Int}
    (hstep : AcceptStep ctx answers sampling served harvests tx prompted requested s s') :
    RequestIds next commandRx s' := by
  have hids : liveIds s (command :: commandRx) =
      s.activeRequests.map (·.id) ++ tx.id :: commandRx.filterMap (·.requestId) := by
    simp [liveIds, hid]
  have hleave : List.Subperm (liveIds s commandRx) (liveIds s (command :: commandRx)) := by
    rw [hids]
    exact ((List.sublist_cons_self _ _).append_left _).subperm
  have hjoin : ∀ (rs : List (ContinuousBatchActiveRequest C)) (r : ContinuousBatchActiveRequest C),
      rs.map (·.key) = s.activeRequests.map (·.key) → r.id = tx.id →
      (rs ++ [r]).map (·.id) ++ commandRx.filterMap (·.requestId) =
        liveIds s (command :: commandRx) := by
    intro rs r hkeys hr
    rw [hids, List.map_append, map_id_eq rs, hkeys, ← map_id_eq]
    simp [hr]
  cases hstep with
  | refused _ => exact h.subperm hleave
  | text _ _ => exact h.subperm (List.Perm.of_eq (hjoin _ _ rfl rfl)).subperm
  | harvestRefused _ _ _ _ =>
    exact (h.subperm hleave).congr (harvest_keys ctx sampling _ _)
  | multimodal _ _ _ =>
    exact h.subperm (List.Perm.of_eq (hjoin _ _ (harvest_keys ctx sampling _ _) rfl)).subperm

theorem queued (h : RequestIds next commandRx s) {command : ContinuousBatchSchedulerCommand}
    (hrx : commandRx = command :: commandRx') : RequestIds next commandRx' s := by
  refine h.subperm ?_
  subst hrx
  unfold liveIds
  cases hid : command.requestId with
  | none => simp [hid, List.Subperm.refl]
  | some id =>
    simp only [List.filterMap_cons, hid]
    exact ((List.sublist_cons_self _ _).append_left _).subperm

end RequestIds

/-- **Identities stay apart**, whatever the next call takes from the channel. -/
theorem requestIds_preserves {ctx : ContinuousBatchSchedulerContext C} {thread : SchedulerThread C}
    (answers : StepAnswers C) (hseq : SequenceIdsInv ctx thread.scheduler)
    (h : RequestIds thread.nextRequestId thread.commandRx thread.scheduler) :
    RequestIds thread.nextRequestId (thread.callStep ctx answers).commandRx
      (thread.callStep ctx answers).scheduler := by
  have hnow : RequestIds thread.nextRequestId (thread.callStep ctx answers).commandRx
      thread.scheduler := by
    by_cases hc : thread.commandRx = [] ∨ ¬ thread.TakesCommand
    · rwa [callStep_noCommand hc]
    · simp only [not_or, not_not] at hc
      obtain ⟨command, commandRx, hrx⟩ := List.exists_cons_of_ne_nil hc.1
      rw [(callStep_command hrx hc.2).2]
      exact h.queued hrx
  refine callStep_relying _ (hseq.preserves answers) hseq hnow ?_
  exact
    { stopSignals := fun _ => hnow.congr (checkStopSignals_keys ctx _ _)
      cleanup := fun s index r rest _ hs hswap _ => hs.cleaned hswap
      evict := fun s index r result _ hs _ _ _ => hs.congr (modify_keys _ _ _)
      command := by
        intro command commandRx hrx htakes
        rw [(callStep_command hrx htakes).2]
        rw [hrx] at h
        rcases processCommand_cases ctx answers thread.scheduler command with
          ⟨tx, -, hid, hstep⟩ | ⟨request, -, heq⟩ | ⟨-, heq⟩
        · exact h.accepted hid hstep
        · rw [heq]
          exact h.queued rfl
        · rw [heq]
          exact h.queued rfl
      running := hnow
      embedding := by
        intro _
        unfold tryProcessEmbeddingRequest
        split
        · exact hnow
        · split <;> exact hnow
      advance := fun _ => hnow.congr (advance_keys ctx _ _)
      decode := fun s hs hp _ hn =>
        hp.congr (decoded_keys (decodedWith_activeRequests hn hs.nodup))
      decodeFailed := fun _ _ _ hp => hp }

theorem requestIds_reaches {ctx : ContinuousBatchSchedulerContext C}
    {guard : SchedulerThread C → SchedulerInput C → Prop} {thread : SchedulerThread C}
    (h : Reaches (SchedulerThread.step ctx) guard (.new ctx) thread) :
    RequestIds thread.nextRequestId thread.commandRx thread.scheduler := by
  refine h.invariant (fun thread => RequestIds thread.nextRequestId thread.commandRx
    thread.scheduler) ⟨by simp [liveIds, SchedulerThread.new], by
      simp [liveIds, SchedulerThread.new]⟩
    fun thread input hreach hinv _ => ?_
  cases input with
  | arrive params drops =>
    -- the channel of the new command has an id that was never used
    have hids : liveIds thread.scheduler (thread.commandRx ++
        [params.command drops thread.nextRequestId]) = liveIds thread.scheduler thread.commandRx ++
        (params.command drops thread.nextRequestId).requestId.toList := by
      cases params <;> simp [liveIds, CommandParams.command,
        ContinuousBatchSchedulerCommand.requestId]
    have hnew : ∀ id ∈ (params.command drops thread.nextRequestId).requestId.toList,
        id = thread.nextRequestId := by
      cases params <;> simp [CommandParams.command, ContinuousBatchSchedulerCommand.requestId,
        Sender.new]
    show RequestIds (thread.nextRequestId + 1) (thread.commandRx ++
      [params.command drops thread.nextRequestId]) thread.scheduler
    unfold RequestIds
    rw [hids]
    refine ⟨List.nodup_append.mpr ⟨hinv.1, ?_, fun a ha b hb hab => ?_⟩, fun id hid => ?_⟩
    · cases (params.command drops thread.nextRequestId).requestId <;> simp
    · have := hinv.2 a ha
      rw [hab, hnew b hb] at this
      omega
    · rcases List.mem_append.mp hid with hid | hid
      · exact Nat.lt_succ_of_lt (hinv.2 id hid)
      · rw [hnew id hid]
        exact Nat.lt_succ_self _
  | dropCommandTx => exact hinv
  | call answers =>
    show RequestIds (thread.callStep ctx answers).nextRequestId
      (thread.callStep ctx answers).commandRx (thread.callStep ctx answers).scheduler
    rw [(callStep_other ctx thread answers).1]
    exact requestIds_preserves answers (sequenceIdsInv_reaches hreach) hinv

/-! ## How a request becomes active -/

theorem callStep_keys {ctx : ContinuousBatchSchedulerContext C} {thread : SchedulerThread C}
    (answers : StepAnswers C) (hseq : SequenceIdsInv ctx thread.scheduler) :
    (∃ command commandRx, thread.commandRx = command :: commandRx ∧ thread.TakesCommand) ∨
      ∀ r ∈ (thread.callStep ctx answers).scheduler.activeRequests,
        r.key ∈ thread.scheduler.activeRequests.map (·.key) := by
  have hcongr : ∀ {s s' : ContinuousBatchScheduler C},
      s'.activeRequests.map (·.key) = s.activeRequests.map (·.key) →
      (∀ r ∈ s.activeRequests, r.key ∈ thread.scheduler.activeRequests.map (·.key)) →
      ∀ r ∈ s'.activeRequests, r.key ∈ thread.scheduler.activeRequests.map (·.key) := by
    intro s s' hkeys hs r hr
    have hmem : r.key ∈ s.activeRequests.map (·.key) := hkeys ▸ List.mem_map_of_mem hr
    obtain ⟨r', hr', heq⟩ := List.mem_map.mp hmem
    rw [← heq]
    exact hs r' hr'
  by_cases hc : ∃ command commandRx, thread.commandRx = command :: commandRx ∧ thread.TakesCommand
  · exact Or.inl hc
  · right
    have hself : ∀ r ∈ thread.scheduler.activeRequests,
        r.key ∈ thread.scheduler.activeRequests.map (·.key) := fun r hr => List.mem_map_of_mem hr
    refine callStep_relying (fun s => ∀ r ∈ s.activeRequests,
      r.key ∈ thread.scheduler.activeRequests.map (·.key)) (hseq.preserves answers) hseq hself ?_
    exact
      { stopSignals := fun _ => hcongr (checkStopSignals_keys ctx _ _) hself
        cleanup := fun s index r rest _ hs hswap _ r' hr' =>
          hs r' ((swapRemove_perm hswap).mem_iff.mpr (List.mem_cons_of_mem _ hr'))
        evict := fun s index r result _ hs _ _ _ => hcongr (modify_keys _ _ _) hs
        command := fun command commandRx hrx htakes => absurd ⟨command, commandRx, hrx, htakes⟩ hc
        running := hself
        embedding := by
          intro _
          unfold tryProcessEmbeddingRequest
          split
          · exact hself
          · split <;> exact hself
        advance := fun _ => hcongr (advance_keys ctx _ _) hself
        decode := fun s hs hp _ hn =>
          hcongr (decoded_keys (decodedWith_activeRequests hn hs.nodup)) hp
        decodeFailed := fun _ _ _ hp => hp }

/-- The sequence of `r` holds nothing when `r` is a text prompt, and exactly what its own
evaluation wrote when it is a multimodal one. -/
def StartsOnOwnSequence (evalWritten : List Int) (r : ContinuousBatchActiveRequest C)
    (s : ContinuousBatchScheduler C) : Prop :=
  (r.state.phase = .ingesting ∧
    s.llamaContext.kvCells.filter (fun cell => cell.seqId == r.sequenceId) = []) ∨
  (r.state.phase = .generating ∧
    s.llamaContext.kvCells.filter (fun cell => cell.seqId == r.sequenceId) =
      evalWritten.map fun position => ⟨r.sequenceId, position, r.id⟩)

theorem clearKvCacheForSequence_filter {llama : LlamaContext} {sequenceId : Int}
    (h : 0 ≤ sequenceId) :
    (llama.clearKvCacheForSequence sequenceId).kvCells.filter
      (fun cell => cell.seqId == sequenceId) = [] := by
  refine List.filter_eq_nil_iff.mpr fun cell hcell => ?_
  simpa using ((LlamaContext.mem_clearKvCacheForSequence h).mp hcell).2

/-- The request that an acceptance makes active is the one it builds. -/
theorem AcceptStep.newRequest {ctx : ContinuousBatchSchedulerContext C}
    {answers : AcceptanceAnswers C} {sampling : Nat → SamplingAnswers} {served harvests : Prop}
    {tx : Sender GeneratedTokenResult} {s s' : ContinuousBatchScheduler C}
    {prompted : Option String} {requested : Option Int}
    (hstep : AcceptStep ctx answers sampling served harvests tx prompted requested s s')
    {r : ContinuousBatchActiveRequest C} (hr : r ∈ s'.activeRequests)
    (hnew : r.id ∉ s.activeRequests.map (·.id)) :
    ∃ sequenceId pool, s.sequenceIdPool.acquire = some (sequenceId, pool) ∧
      ((∃ prompt promptTokens maxTokens tokenClassifier hasGrammarSampler toolCallPipeline,
        answers.strToToken prompt = .ok promptTokens ∧
        s'.llamaContext = s.llamaContext.clearKvCacheForSequence sequenceId ∧
        r = newTextRequest maxTokens promptTokens tokenClassifier hasGrammarSampler tx sequenceId
          toolCallPipeline) ∨
      ∃ tokensIngested maxTokens tokenClassifier hasGrammarSampler toolCallPipeline,
        answers.evalMultimodalChunks = .ok tokensIngested ∧
        s'.llamaContext = (s.llamaContext.clearKvCacheForSequence sequenceId).evalMultimodal answers
          sequenceId tx.id ∧
        r = newMultimodalRequest maxTokens tokensIngested tokenClassifier hasGrammarSampler tx
          sequenceId toolCallPipeline) := by
  have hold : ∀ {rs : List (ContinuousBatchActiveRequest C)}, r ∈ rs →
      rs.map (·.key) = s.activeRequests.map (·.key) → False := by
    intro rs hmem hkeys
    refine hnew ?_
    rw [map_id_eq, ← hkeys, ← map_id_eq]
    exact List.mem_map_of_mem hmem
  cases hstep with
  | refused _ => exact absurd (List.mem_map_of_mem hr) hnew
  | text hacquire _ htokens =>
    rcases List.mem_append.mp hr with hr | hr
    · exact absurd (List.mem_map_of_mem hr) hnew
    · rw [List.mem_singleton] at hr
      exact ⟨_, _, hacquire, Or.inl ⟨_, _, _, _, _, _, htokens, rfl, hr⟩⟩
  | harvestRefused _ _ _ _ => exact (hold hr (harvest_keys ctx sampling _ _)).elim
  | multimodal _ hacquire heval =>
    rcases List.mem_append.mp hr with hr | hr
    · exact (hold hr (harvest_keys ctx sampling _ _)).elim
    · rw [List.mem_singleton] at hr
      exact ⟨_, _, hacquire, Or.inr ⟨_, _, _, _, _, heval, rfl, hr⟩⟩

/-- A request that becomes active was accepted by a command. -/
theorem callStep_newRequest {ctx : ContinuousBatchSchedulerContext C} {thread : SchedulerThread C}
    (answers : StepAnswers C) (hseq : SequenceIdsInv ctx thread.scheduler)
    {r : ContinuousBatchActiveRequest C}
    (hr : r ∈ (thread.callStep ctx answers).scheduler.activeRequests)
    (hnew : r.id ∉ thread.scheduler.activeRequests.map (·.id)) :
    ∃ served harvests tx prompted requested,
    AcceptStep ctx answers.acceptance answers.sampling served
      harvests tx prompted requested thread.scheduler (thread.callStep ctx answers).scheduler := by
  rcases callStep_keys answers hseq with ⟨command, commandRx, hrx, htakes⟩ | hkeys
  · rw [(callStep_command hrx htakes).1] at hr ⊢
    rcases processCommand_cases ctx answers thread.scheduler command with
      ⟨tx, -, -, hstep⟩ | ⟨request, -, heq⟩ | ⟨-, heq⟩
    · exact ⟨_, _, tx, _, _, hstep⟩
    · rw [heq] at hr
      exact absurd (List.mem_map_of_mem hr) hnew
    · rw [heq] at hr
      exact absurd (List.mem_map_of_mem hr) hnew
  · obtain ⟨r', hr', hkey⟩ := List.mem_map.mp (hkeys r hr)
    exact absurd (List.mem_map.mpr ⟨r', hr', congrArg Prod.fst hkey⟩) hnew

theorem accepted_starts {ctx : ContinuousBatchSchedulerContext C} {answers : AcceptanceAnswers C}
    {sampling : Nat → SamplingAnswers} {served harvests : Prop} {tx : Sender GeneratedTokenResult}
    {s s' : ContinuousBatchScheduler C} (hseq : SequenceIdsInv ctx s)
    {prompted : Option String} {requested : Option Int}
    (hstep : AcceptStep ctx answers sampling served harvests tx prompted requested s s')
    {r : ContinuousBatchActiveRequest C} (hr : r ∈ s'.activeRequests)
    (hnew : r.id ∉ s.activeRequests.map (·.id)) :
    StartsOnOwnSequence answers.evalWritten r s' := by
  obtain ⟨sequenceId, pool, hacquire, ⟨_, _, _, _, _, _, -, hllama, rfl⟩ | ⟨_, _, _, _, _, -,
      hllama, rfl⟩⟩ :=
    hstep.newRequest hr hnew
  · refine Or.inl ⟨rfl, ?_⟩
    rw [hllama]
    exact clearKvCacheForSequence_filter (hseq.acquired_nonneg hacquire)
  · refine Or.inr ⟨rfl, ?_⟩
    rw [hllama]
    simp only [LlamaContext.evalMultimodal, List.filter_append, newMultimodalRequest,
      clearKvCacheForSequence_filter (hseq.acquired_nonneg hacquire), List.nil_append]
    refine List.filter_eq_self.mpr fun cell hcell => ?_
    obtain ⟨position, -, rfl⟩ := List.mem_map.mp hcell
    simp

/-- **Sequence-id exclusivity over every run.**  Held and free ids are a permutation of
`0..max_sequences`, no two active requests share a sequence, `SequenceIdGuard::acquire` refuses
only when `max_sequences` requests hold one, and a request that becomes active finds its sequence
empty but for what its own acceptance wrote. -/
theorem sequenceId_exclusive {ctx : ContinuousBatchSchedulerContext C} {thread : SchedulerThread C}
    (h : Reaches (SchedulerThread.step ctx) (fun _ _ => True) (.new ctx) thread) :
    List.Perm (thread.scheduler.activeRequests.map (·.sequenceId) ++
      thread.scheduler.sequenceIdPool.availableIds) (sequenceIdRange ctx) ∧
    (thread.scheduler.activeRequests.map (·.sequenceId)).Nodup ∧
    (thread.scheduler.activeRequests.map (·.id)).Nodup ∧
    (thread.scheduler.sequenceIdPool.acquire = none →
      thread.scheduler.activeRequests.length = ctx.desiredSlotsTotal.toNat) ∧
    ∀ (answers : StepAnswers C) (r : ContinuousBatchActiveRequest C),
      r ∈ (thread.callStep ctx answers).scheduler.activeRequests →
      r.id ∉ thread.scheduler.activeRequests.map (·.id) →
      StartsOnOwnSequence answers.acceptance.evalWritten r
        (thread.callStep ctx answers).scheduler := by
  have hseq := sequenceIdsInv_reaches h
  refine ⟨hseq, hseq.nodup, (List.nodup_append.mp (requestIds_reaches h).1).1, ?_, ?_⟩
  · intro hnone
    have hlength := hseq.length_eq
    rw [SequenceIdPool.acquire_none hnone] at hlength
    simpa [sequenceIdRange] using hlength
  · intro answers r hr hnew
    obtain ⟨_, _, _, _, _, hstep⟩ := callStep_newRequest answers hseq hr hnew
    exact accepted_starts hseq hstep hr hnew

/-- The state after a text prompt was accepted by the small agent. -/
def oneTextPrompt : SchedulerThread Unit :=
  (SchedulerThread.new smallContext).run smallContext
    (.arrive textPrompt none :: calls 3 smallAnswers)

theorem sequenceId_exclusive_oneTextPrompt :
    oneTextPrompt.scheduler.activeRequests.map (·.sequenceId) = [0] ∧
    List.Perm (oneTextPrompt.scheduler.activeRequests.map (·.sequenceId) ++
      oneTextPrompt.scheduler.sequenceIdPool.availableIds) (sequenceIdRange smallContext) :=
  ⟨by decide, (sequenceId_exclusive (Reaches.runs _ (fun _ _ _ => trivial) .start)).1⟩

end Paddler
