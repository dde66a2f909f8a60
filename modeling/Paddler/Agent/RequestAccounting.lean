import Paddler.Agent.Channels

/-!
# No request is lost

A request that reached the scheduler thread is in its channel, among the waiting embedding requests,
active, or ended.  No call of the thread loses one or makes one of nothing.

* `accountedIds` — the identities of all requests, wherever they are.
* `callStep_accounts` — **a call keeps them**, and what ended stays ended.
* `accountedIds_reaches` — without a shutdown they are all identities given out so far.
-/

set_option autoImplicit false

namespace Paddler

open VecUpdate Run

variable {C : Type}

/-- The identities of the requests that are on their way, waiting to be embedded, or ended. -/
def accountedIds (s : ContinuousBatchScheduler C)
    (commandRx : List ContinuousBatchSchedulerCommand) : List Nat :=
  liveIds s commandRx ++ s.pendingEmbeddingRequests.map (·.generatedEmbeddingTx.id) ++
    (s.ended.map (·.generatedTokensTx.id) ++ s.endedEmbeddings.map (·.id))

/-- How many requests ended. -/
def endedCount (s : ContinuousBatchScheduler C) : Nat := s.ended.length + s.endedEmbeddings.length

/-- The same requests, and none that ended is back. -/
structure Accounts (s : ContinuousBatchScheduler C)
    (commandRx : List ContinuousBatchSchedulerCommand) (s' : ContinuousBatchScheduler C)
    (commandRx' : List ContinuousBatchSchedulerCommand) : Prop where
  ids : List.Perm (accountedIds s' commandRx') (accountedIds s commandRx)
  ended : endedCount s ≤ endedCount s'

/-! ## Identities of channels -/

theorem deliverTerminal_id (r : ContinuousBatchActiveRequest C) :
    r.deliverTerminal.generatedTokensTx.id = r.id := by
  unfold ContinuousBatchActiveRequest.deliverTerminal ContinuousBatchActiveRequest.id
  split
  · rfl
  · exact Sender.send_id _ _

theorem RefusedWith.id {served : Prop} {tx tx' : Sender GeneratedTokenResult}
    (h : RefusedWith served tx tx') : tx'.id = tx.id := by
  rcases h with ⟨rfl, -⟩ | ⟨result, -, hext⟩
  · rfl
  · exact hext.id

theorem processEmbeddingBatch_id (ctx : ContinuousBatchSchedulerContext C)
    (answers : EmbeddingAnswers) (request : GenerateEmbeddingBatchRequest) (llama : LlamaContext) :
    (processEmbeddingBatch ctx answers request llama).2.1.id = request.generatedEmbeddingTx.id := by
  cases h : processEmbeddingBatch ctx answers request llama with
  | mk result rest =>
  obtain ⟨tx', llama'⟩ := rest
  rcases (processEmbeddingBatch_sent h).1 with ⟨events, hext, -⟩ | ⟨events, last, hext, -, -⟩ <;>
    exact hext.id

/-! ## What a call is made of -/

namespace Accounts

variable {ctx : ContinuousBatchSchedulerContext C}
  {commandRx commandRx' : List ContinuousBatchSchedulerCommand}
  {s₀ s s' : ContinuousBatchScheduler C}

theorem refl (s : ContinuousBatchScheduler C) (commandRx : List ContinuousBatchSchedulerCommand) :
    Accounts s commandRx s commandRx :=
  ⟨List.Perm.refl _, Nat.le_refl _⟩

theorem trans {s₁ s₂ s₃ : ContinuousBatchScheduler C}
    {commandRx₁ commandRx₂ commandRx₃ : List ContinuousBatchSchedulerCommand}
    (h : Accounts s₁ commandRx₁ s₂ commandRx₂) (h' : Accounts s₂ commandRx₂ s₃ commandRx₃) :
    Accounts s₁ commandRx₁ s₃ commandRx₃ :=
  ⟨h'.ids.trans h.ids, Nat.le_trans h.ended h'.ended⟩

theorem of_keys (hkeys : s'.activeRequests.map (·.key) = s.activeRequests.map (·.key))
    (hpending : s'.pendingEmbeddingRequests = s.pendingEmbeddingRequests)
    (hended : s'.ended = s.ended) (hembeddings : s'.endedEmbeddings = s.endedEmbeddings) :
    Accounts s commandRx s' commandRx := by
  refine ⟨List.Perm.of_eq ?_, ?_⟩
  · unfold accountedIds liveIds
    rw [map_id_eq, hkeys, ← map_id_eq, hpending, hended, hembeddings]
  · unfold endedCount
    exact Nat.le_of_eq (by rw [hended, hembeddings])

/-- A request is cleaned up: it leaves the active ones and ends. -/
theorem cleaned {index : Nat} {r : ContinuousBatchActiveRequest C}
    {rest : List (ContinuousBatchActiveRequest C)}
    (hswap : swapRemove s.activeRequests index = some (r, rest)) :
    Accounts s commandRx (s.cleaned r rest) commandRx := by
  refine ⟨List.perm_iff_count.mpr fun id => ?_, by
    simp [endedCount, ContinuousBatchScheduler.cleaned]⟩
  have hperm := ((swapRemove_perm hswap).map (·.id)).count_eq id
  simp only [List.map_cons, List.count_cons] at hperm
  simp only [accountedIds, liveIds, ContinuousBatchScheduler.cleaned, List.map_append,
    List.map_cons, List.map_nil, deliverTerminal_id, List.count_append, List.count_cons,
    List.count_nil]
  omega

theorem accepted {answers : AcceptanceAnswers C} {sampling : Nat → SamplingAnswers}
    {served harvests : Prop} {tx : Sender GeneratedTokenResult}
    {command : ContinuousBatchSchedulerCommand} (hid : command.requestId = some tx.id)
    {prompted : Option String} {requested : Option Int}
    (hstep : AcceptStep ctx answers sampling served harvests tx prompted requested s s') :
    Accounts s (command :: commandRx) s' commandRx := by
  -- the identity moves from the channel to the ended requests
  have hrefused : ∀ (rs : List (ContinuousBatchActiveRequest C)) (llama : LlamaContext)
      (tx' : Sender GeneratedTokenResult), rs.map (·.key) = s.activeRequests.map (·.key) →
      tx'.id = tx.id → Accounts s (command :: commandRx)
        ({ s with llamaContext := llama, activeRequests := rs }.dropSender tx') commandRx := by
    intro rs llama tx' hkeys htx
    refine ⟨List.perm_iff_count.mpr fun id => ?_, by
      simp [endedCount, ContinuousBatchScheduler.dropSender]⟩
    simp only [accountedIds, liveIds, ContinuousBatchScheduler.dropSender, List.filterMap_cons, hid,
      map_id_eq rs, hkeys, ← map_id_eq, List.map_append, List.map_cons, List.map_nil, htx,
      List.count_append, List.count_cons, List.count_nil]
    omega
  -- the identity moves from the channel to the active requests
  have hjoined : ∀ (rs : List (ContinuousBatchActiveRequest C)) (r : ContinuousBatchActiveRequest C)
      (llama : LlamaContext) (pool : SequenceIdPool),
      rs.map (·.key) = s.activeRequests.map (·.key) → r.id = tx.id →
      Accounts s (command :: commandRx) { s with
        llamaContext := llama
        sequenceIdPool := pool
        activeRequests := rs ++ [r] } commandRx := by
    intro rs r llama pool hkeys hr
    refine ⟨List.perm_iff_count.mpr fun id => ?_, Nat.le_refl _⟩
    simp only [accountedIds, liveIds, List.filterMap_cons, hid, List.map_append,
      map_id_eq rs, hkeys, ← map_id_eq, List.map_cons, List.map_nil, hr, List.count_append,
      List.count_cons, List.count_nil]
    omega
  cases hstep with
  | refused h => exact hrefused _ _ _ rfl h.id
  | text _ _ => exact hjoined _ _ _ _ rfl rfl
  | harvestRefused _ _ h _ => exact hrefused _ _ _ (harvest_keys ctx sampling _ _) h.id
  | multimodal _ _ _ => exact hjoined _ _ _ _ (harvest_keys ctx sampling _ _) rfl

/-- The first command is taken from the channel and processed. -/
theorem processed (ctx : ContinuousBatchSchedulerContext C) (answers : StepAnswers C)
    (s : ContinuousBatchScheduler C) (command : ContinuousBatchSchedulerCommand)
    (commandRx : List ContinuousBatchSchedulerCommand) :
    Accounts s (command :: commandRx) (processCommand ctx answers s command) commandRx := by
  rcases processCommand_cases ctx answers s command with
    ⟨tx, -, hid, hstep⟩ | ⟨request, rfl, heq⟩ | ⟨rfl, heq⟩
  · exact accepted hid hstep
  · rw [heq]
    refine ⟨List.perm_iff_count.mpr fun id => ?_, Nat.le_refl _⟩
    simp only [accountedIds, liveIds, List.filterMap_cons,
      ContinuousBatchSchedulerCommand.requestId, List.map_append, List.map_cons, List.map_nil,
      List.count_append, List.count_cons, List.count_nil]
    omega
  · rw [heq]
    exact ⟨List.Perm.refl _, Nat.le_refl _⟩

/-- An embedding request is rejected or processed: it ends. -/
theorem embedded (ctx : ContinuousBatchSchedulerContext C) (answers : EmbeddingAnswers)
    (s : ContinuousBatchScheduler C) (commandRx : List ContinuousBatchSchedulerCommand) :
    Accounts s commandRx (tryProcessEmbeddingRequest ctx answers s) commandRx := by
  have hmoved : ∀ (request : GenerateEmbeddingBatchRequest)
      (pending : List GenerateEmbeddingBatchRequest) (llama : LlamaContext)
      (tx : Sender EmbeddingResult), s.pendingEmbeddingRequests = request :: pending →
      tx.id = request.generatedEmbeddingTx.id → Accounts s commandRx { s with
        pendingEmbeddingRequests := pending
        llamaContext := llama
        endedEmbeddings := s.endedEmbeddings ++ [tx] } commandRx := by
    intro request pending llama tx hpending htx
    refine ⟨List.perm_iff_count.mpr fun id => ?_, by simp [endedCount]⟩
    simp only [accountedIds, liveIds, hpending, List.map_append, List.map_cons, List.map_nil, htx,
      List.count_append, List.count_cons, List.count_nil]
    omega
  unfold tryProcessEmbeddingRequest
  split
  · exact refl s commandRx
  · rename_i request pending hpending
    split
    · exact hmoved request pending _ _ hpending (Sender.send_id _ _)
    · exact hmoved request pending _ _ hpending (processEmbeddingBatch_id ctx answers request _)

end Accounts

/-- **A call keeps the requests together.** -/
theorem callStep_accounts {ctx : ContinuousBatchSchedulerContext C} {thread : SchedulerThread C}
    (answers : StepAnswers C) (hseq : SequenceIdsInv ctx thread.scheduler) :
    Accounts thread.scheduler thread.commandRx (thread.callStep ctx answers).scheduler
      (thread.callStep ctx answers).commandRx := by
  by_cases hc : ∃ command commandRx, thread.commandRx = command :: commandRx ∧ thread.TakesCommand
  · obtain ⟨command, commandRx, hrx, htakes⟩ := hc
    rw [(callStep_command hrx htakes).1, (callStep_command hrx htakes).2, hrx]
    exact .processed ctx answers thread.scheduler command commandRx
  · have hrest : thread.commandRx = [] ∨ ¬ thread.TakesCommand := by
      cases hrx : thread.commandRx with
      | nil => exact Or.inl rfl
      | cons command commandRx => exact Or.inr fun htakes => hc ⟨command, commandRx, hrx, htakes⟩
    rw [callStep_noCommand hrest]
    refine callStep_relying (fun s => Accounts thread.scheduler thread.commandRx s thread.commandRx)
      (hseq.preserves answers) hseq (.refl _ _) ?_
    exact
      { stopSignals := fun _ => .of_keys (checkStopSignals_keys ctx _ _) rfl rfl rfl
        cleanup := fun s index r rest _ hs hswap _ => hs.trans (.cleaned hswap)
        evict := fun s index r result _ hs _ _ _ =>
          hs.trans (.of_keys (modify_keys _ _ _) rfl rfl rfl)
        command := fun command commandRx hrx htakes => absurd ⟨command, commandRx, hrx, htakes⟩ hc
        running := .of_keys rfl rfl rfl rfl
        embedding := fun _ => .embedded ctx _ _ _
        advance := fun _ => .of_keys (advance_keys ctx _ _) rfl rfl rfl
        decode := fun s hb hs _ hn => hs.trans
          (.of_keys (decoded_keys (decodedWith_activeRequests hn hb.nodup)) rfl rfl rfl)
        decodeFailed := fun s error _ hs => hs.trans (.of_keys rfl rfl rfl rfl) }

/-- Requests leave a thread and none joins it during a call. -/
theorem callStep_live_le {ctx : ContinuousBatchSchedulerContext C} {thread : SchedulerThread C}
    (answers : StepAnswers C) (hseq : SequenceIdsInv ctx thread.scheduler) :
    (liveIds (thread.callStep ctx answers).scheduler
      (thread.callStep ctx answers).commandRx).length +
        (thread.callStep ctx answers).scheduler.pendingEmbeddingRequests.length ≤
      (liveIds thread.scheduler thread.commandRx).length +
        thread.scheduler.pendingEmbeddingRequests.length := by
  have haccounts := callStep_accounts answers hseq
  have hlength := haccounts.ids.length_eq
  have hended := haccounts.ended
  simp only [accountedIds, endedCount, List.length_append, List.length_map] at hlength hended
  omega

/-! ## Whole runs -/

/-- No shutdown arrives and the sending half of the channel stays. -/
def SchedulerInput.KeepsRunning : SchedulerInput C → Prop
  | .arrive params _ => params ≠ .shutdown
  | .dropCommandTx => False
  | .call _ => True

/-- **Without a shutdown every identity given out is accounted for, once.** -/
theorem accountedIds_reaches {ctx : ContinuousBatchSchedulerContext C}
    {guard : SchedulerThread C → SchedulerInput C → Prop} {thread : SchedulerThread C}
    (hguard : ∀ thread input, guard thread input → input.KeepsRunning)
    (h : Reaches (SchedulerThread.step ctx) guard (.new ctx) thread) :
    List.Perm (accountedIds thread.scheduler thread.commandRx)
      (List.range thread.nextRequestId) := by
  refine h.invariant (fun thread => List.Perm (accountedIds thread.scheduler thread.commandRx)
    (List.range thread.nextRequestId)) (List.Perm.refl _) fun thread input hreach hinv hg => ?_
  cases input with
  | arrive params drops =>
    have hid : (params.command drops thread.nextRequestId).requestId =
        some thread.nextRequestId := by
      have hparams := hguard _ _ hg
      cases params with
      | shutdown => exact absurd rfl hparams
      | continueFromConversationHistory params => rfl
      | continueFromRawPrompt params => rfl
      | generateEmbeddingBatch inputBatch normalizationMethod => rfl
    refine List.perm_iff_count.mpr fun id => ?_
    have hcount := hinv.count_eq id
    simp only [accountedIds, liveIds, List.count_append] at hcount
    simp only [SchedulerThread.step, accountedIds, liveIds, List.filterMap_append,
      List.filterMap_cons, hid, List.filterMap_nil, List.range_succ, List.count_append]
    omega
  | dropCommandTx => exact absurd (hguard _ _ hg) id
  | call answers =>
    have hids := (callStep_accounts answers (sequenceIdsInv_reaches hreach)).ids
    show List.Perm (accountedIds (thread.callStep ctx answers).scheduler
      (thread.callStep ctx answers).commandRx)
      (List.range (thread.callStep ctx answers).nextRequestId)
    rw [(callStep_other ctx thread answers).1]
    exact hids.trans hinv

end Paddler
