import Paddler.Agent.Progress

/-!
# Evicting and retrying

What the loop of `execute_one_iteration` does when the decoder finds no room in the cache: every
failed pass evicts one request, and the batch is assembled again from those that are left.

* `Eviction` — one request is evicted: it is told, and nobody else notices.
* `evictLargestSequence_eviction` — `evict_largest_sequence` does that to a request that is furthest
  along.
* `decodeLoop_exact` — **the loop is a number of evictions, one for each failed pass, and then it
  ends.**
* `evictAndRetry_exact` — so it is for every list of requests, and in every iteration of the
  scheduler.
-/

set_option autoImplicit false

namespace Paddler

open Run VecUpdate

variable {C : Type}

/-! ## One eviction -/

/-- What an evicted request is sent. -/
def evictionResult : GeneratedTokenResult :=
  .samplerError "Request evicted due to KV cache pressure"

/-- The channel of an evicted request after that was sent. -/
def ContinuousBatchActiveRequest.evicted (r : ContinuousBatchActiveRequest C) : EndedRequest :=
  { generatedTokensTx := (r.generatedTokensTx.send evictionResult).2, history := r.history }

/-- One request is evicted.  It is not completed, and none that is not completed is further along;
it is sent one result, which it gets unless its receiver is gone.  All the other requests, with
their channels, stay as they are. -/
structure Eviction (s : ContinuousBatchScheduler C) (r : ContinuousBatchActiveRequest C)
    (s' : ContinuousBatchScheduler C) : Prop where
  active : r.state.phase.isCompleted = false
  largest : ∀ r' ∈ s.activeRequests, r'.state.phase.isCompleted = false →
    r'.state.currentTokenPosition ≤ r.state.currentTokenPosition
  others : s.activeRequests.Perm (r :: s'.activeRequests)
  ended : s'.ended = s.ended ++ [r.evicted]
  told : r.generatedTokensTx.receiverDropsAfter ≠ some 0 →
    r.evicted.generatedTokensTx.sent = r.generatedTokensTx.sent ++ [evictionResult]
  endedEmbeddings : s'.endedEmbeddings = s.endedEmbeddings
  pendingEmbeddingRequests : s'.pendingEmbeddingRequests = s.pendingEmbeddingRequests

/-- Requests are evicted one after the other. -/
inductive Evictions : ContinuousBatchScheduler C → List (ContinuousBatchActiveRequest C) →
    ContinuousBatchScheduler C → Prop where
  | done (s : ContinuousBatchScheduler C) : Evictions s [] s
  | evict {s s' s'' : ContinuousBatchScheduler C} {r : ContinuousBatchActiveRequest C}
      {rs : List (ContinuousBatchActiveRequest C)} :
      Eviction s r s' → Evictions s' rs s'' → Evictions s (r :: rs) s''

theorem Evictions.others {s s' : ContinuousBatchScheduler C}
    {rs : List (ContinuousBatchActiveRequest C)} (h : Evictions s rs s') :
    s.activeRequests.Perm (rs ++ s'.activeRequests) := by
  induction h with
  | done s => exact List.Perm.refl _
  | evict hfirst _ ih => exact hfirst.others.trans (ih.cons _)

theorem Evictions.ended {s s' : ContinuousBatchScheduler C}
    {rs : List (ContinuousBatchActiveRequest C)} (h : Evictions s rs s') :
    s'.ended = s.ended ++ rs.map ContinuousBatchActiveRequest.evicted := by
  induction h with
  | done s => exact (List.append_nil _).symm
  | evict hfirst _ ih =>
    rw [ih, hfirst.ended, List.append_assoc, List.map_cons, List.singleton_append]

/-- What the scan has found is further along than what it has seen. -/
theorem largestSequence_largest :
    ∀ {rs : List (ContinuousBatchActiveRequest C)} {k : Nat} {best : Option Nat} {position : Int}
      {index : Nat}, ContinuousBatchScheduler.largestSequence rs k best position = some index →
      (best = some index ∧ ∀ r ∈ rs, r.state.phase.isCompleted = false →
        r.state.currentTokenPosition ≤ position) ∨
      ∃ r, k ≤ index ∧ rs[index - k]? = some r ∧ r.state.phase.isCompleted = false ∧
        position < r.state.currentTokenPosition ∧
        ∀ r' ∈ rs, r'.state.phase.isCompleted = false →
          r'.state.currentTokenPosition ≤ r.state.currentTokenPosition
  | [], _, _, _, _, h => Or.inl ⟨h, fun _ hr => absurd hr List.not_mem_nil⟩
  | r :: rs, k, best, position, index, h => by
    -- what was found among the others is found one place later
    have later : ∀ {position' : Int}, position ≤ position' →
        (r.state.phase.isCompleted = false → r.state.currentTokenPosition ≤ position') →
        (∃ r', k + 1 ≤ index ∧ rs[index - (k + 1)]? = some r' ∧ r'.state.phase.isCompleted = false ∧
          position' < r'.state.currentTokenPosition ∧
          ∀ r'' ∈ rs, r''.state.phase.isCompleted = false →
            r''.state.currentTokenPosition ≤ r'.state.currentTokenPosition) →
        ∃ r', k ≤ index ∧ (r :: rs)[index - k]? = some r' ∧ r'.state.phase.isCompleted = false ∧
          position < r'.state.currentTokenPosition ∧
          ∀ r'' ∈ r :: rs, r''.state.phase.isCompleted = false →
            r''.state.currentTokenPosition ≤ r'.state.currentTokenPosition := by
      rintro position' hle hr ⟨r', hindex, hget, hc, hlt, hall⟩
      refine ⟨r', by omega, ?_, hc, by omega, List.forall_mem_cons.mpr ⟨fun hactive => ?_, hall⟩⟩
      · rw [show index - k = (index - (k + 1)) + 1 by omega, List.getElem?_cons_succ]
        exact hget
      · have := hr hactive
        omega
    unfold ContinuousBatchScheduler.largestSequence at h
    split at h
    · rename_i hc
      have hr : r.state.phase.isCompleted = false → r.state.currentTokenPosition ≤ position := by
        intro hactive
        rw [hc] at hactive
        cases hactive
      rcases largestSequence_largest h with ⟨hbest, hall⟩ | hfound
      · exact Or.inl ⟨hbest, List.forall_mem_cons.mpr ⟨hr, hall⟩⟩
      · exact Or.inr (later (Int.le_refl _) hr hfound)
    · rename_i hc
      split at h
      · rename_i hlt
        rcases largestSequence_largest h with ⟨hbest, hall⟩ | hfound
        · cases hbest
          refine Or.inr ⟨r, Nat.le_refl _, by simp, by simpa using hc, hlt, ?_⟩
          exact List.forall_mem_cons.mpr ⟨fun _ => Int.le_refl _, hall⟩
        · exact Or.inr (later (Int.le_of_lt hlt) (fun _ => Int.le_refl _) hfound)
      · rename_i hle
        have hr : r.state.phase.isCompleted = false → r.state.currentTokenPosition ≤ position :=
          fun _ => Int.not_lt.mp hle
        rcases largestSequence_largest h with ⟨hbest, hall⟩ | hfound
        · exact Or.inl ⟨hbest, List.forall_mem_cons.mpr ⟨hr, hall⟩⟩
        · exact Or.inr (later (Int.le_refl _) hr hfound)

theorem deliverTerminal_evicted {r : ContinuousBatchActiveRequest C}
    (h : r.state.phase.isCompleted = false) :
    (r.completeWithOutcome evictionResult).deliverTerminal = r.evicted := by
  rw [ContinuousBatchActiveRequest.completeWithOutcome_of_active h]
  rfl

theorem evicted_sent {r : ContinuousBatchActiveRequest C}
    (h : r.generatedTokensTx.receiverDropsAfter ≠ some 0) :
    r.evicted.generatedTokensTx.sent = r.generatedTokensTx.sent ++ [evictionResult] := by
  rcases r.generatedTokensTx.send_cases evictionResult with ⟨-, hsent, -⟩ | ⟨-, -, hgone⟩
  · exact hsent
  · exact absurd hgone h

/-- **An eviction**, as long as one request is not completed. -/
theorem evictLargestSequence_eviction {s : ContinuousBatchScheduler C}
    (hpositions : PositionsNonneg s)
    (hactive : ∃ r ∈ s.activeRequests, r.state.phase.isCompleted = false) :
    ∃ r, Eviction s r s.evictLargestSequence := by
  unfold ContinuousBatchScheduler.evictLargestSequence
  split
  · rename_i hnone
    obtain ⟨r, hr, hc⟩ := hactive
    rcases (largestSequence_none hnone).2 r hr with hdone | hle
    · rw [hc] at hdone
      cases hdone
    · have := hpositions r hr
      omega
  · rename_i index hsome
    rcases largestSequence_largest hsome with ⟨hbest, -⟩ | ⟨r, -, hget, hc, -, hlargest⟩
    · cases hbest
    · rw [Nat.sub_zero] at hget
      have hlen : index < (s.activeRequests.modify index
          (·.completeWithOutcome evictionResult)).length := by
        rw [List.length_modify]
        exact (List.getElem?_eq_some_iff.mp hget).1
      obtain ⟨removed, rest, hswap, hremoved⟩ := swapRemove_isSome hlen
      have hsame : removed = r.completeWithOutcome evictionResult := by
        rw [List.getElem?_modify_eq, hget] at hremoved
        exact (Option.some.inj hremoved).symm
      subst hsame
      have hcleaned := cleanupCompletedRequest_of_some (s := { s with
        activeRequests := s.activeRequests.modify index (·.completeWithOutcome evictionResult) }) hswap
      refine ⟨r, ?_⟩
      show Eviction s r (ContinuousBatchScheduler.cleanupCompletedRequest { s with
        activeRequests := s.activeRequests.modify index (·.completeWithOutcome evictionResult) }
          index)
      rw [hcleaned]
      exact {
        active := hc
        largest := hlargest
        others := swapRemove_modify_perm hget hswap
        ended := by rw [← deliverTerminal_evicted hc]; rfl
        told := evicted_sent
        endedEmbeddings := rfl
        pendingEmbeddingRequests := rfl }

/-! ## The loop -/

/-- How the loop ends, at decode number `pass` and with the requests of `s`: no request is left, no
batch is built of them, the batch is empty, or there is a batch and the decoder finds room for it or
fails.  It does not touch the requests, unless it decodes. -/
inductive LoopEnd (ctx : ContinuousBatchSchedulerContext C) (decode : Nat → Except DecodeError Unit)
    (pass : Nat) (s : ContinuousBatchScheduler C) :
    IterationExit × ContinuousBatchScheduler C → Prop where
  | evictedAll : 0 < pass → s.activeRequests = [] → LoopEnd ctx decode pass s (.evictedAll, s)
  | emptyBatch (batchPass : BatchPass) :
      assemblePass ctx.inferenceParameters.nBatch s.activeRequests = .ok batchPass →
      batchPass.isEmpty = true → LoopEnd ctx decode pass s (.emptyBatch, s)
  | noBatch (message : String) :
      assemblePass ctx.inferenceParameters.nBatch s.activeRequests = .error message →
      LoopEnd ctx decode pass s (.failed message, s)
  | aborted (error : DecodeError) : s.Assembles ctx.inferenceParameters.nBatch →
      decode pass = .error error → DecodeOutcome.fromDecodeResult (decode pass) = .aborted →
      LoopEnd ctx decode pass s (.aborted, s.failedWith ctx.inferenceParameters.nBatch error)
  | errored (error : DecodeError) : s.Assembles ctx.inferenceParameters.nBatch →
      DecodeOutcome.fromDecodeResult (decode pass) = .errored error →
      LoopEnd ctx decode pass s
        (.failed "decode failed", s.failedWith ctx.inferenceParameters.nBatch error)
  | decoded (exit : IterationExit) : s.Assembles ctx.inferenceParameters.nBatch →
      DecodeOutcome.fromDecodeResult (decode pass) = .decoded → exit ≠ .outOfFuel →
      LoopEnd ctx decode pass s (exit, s.decodedWith ctx.inferenceParameters.nBatch)

theorem LoopEnd.returns {ctx : ContinuousBatchSchedulerContext C}
    {decode : Nat → Except DecodeError Unit} {pass : Nat} {s : ContinuousBatchScheduler C}
    {result : IterationExit × ContinuousBatchScheduler C} (h : LoopEnd ctx decode pass s result) :
    result.1 ≠ .outOfFuel := by
  cases h with
  | decoded exit _ _ hexit => exact hexit
  | evictedAll | emptyBatch | noBatch | aborted | errored => simp

/-- **The loop**: one eviction for each pass that finds no room, and then its end. -/
theorem decodeLoop_exact {ctx : ContinuousBatchSchedulerContext C}
    {decode : Nat → Except DecodeError Unit} :
    ∀ (fuel pass : Nat) {s : ContinuousBatchScheduler C}, s.activeRequests.length < fuel →
      PositionsNonneg s → ∃ rs s', Evictions s rs s' ∧
        (∀ i < rs.length, DecodeOutcome.fromDecodeResult (decode (pass + i)) = .needsEviction) ∧
        LoopEnd ctx decode (pass + rs.length) s' (decodeLoop ctx decode fuel pass s)
  | 0, _, _, hlt, _ => absurd hlt (Nat.not_lt_zero _)
  | fuel + 1, pass, s, hlt, hpositions => by
    have stops : ∀ {result : IterationExit × ContinuousBatchScheduler C},
        LoopEnd ctx decode pass s result →
        ∃ rs s', Evictions s rs s' ∧
          (∀ i < rs.length, DecodeOutcome.fromDecodeResult (decode (pass + i)) = .needsEviction) ∧
          LoopEnd ctx decode (pass + rs.length) s' result :=
      fun hend => ⟨[], s, .done s, fun i hi => absurd hi (Nat.not_lt_zero _), hend⟩
    have evicts : s.Assembles ctx.inferenceParameters.nBatch →
        ∃ r, Eviction s r s.evictLargestSequence := by
      intro hassembles
      obtain ⟨r, hr, htokens⟩ := exists_hasTokens hassembles.nonempty
      exact evictLargestSequence_eviction hpositions ⟨r, hr, hasTokens_active htokens⟩
    have hpass : DecodePass ctx _ s _ _ := decodeLoop_pass decode fuel pass s
    generalize decodeLoop ctx decode (fuel + 1) pass s = result at hpass ⊢
    cases hpass with
    | notBuilt message _ hbuilt => exact stops (.noBatch message hbuilt)
    | emptyBatch hempty hbuilt => exact stops (.emptyBatch _ hbuilt hempty)
    | decoded hassembles hanswer =>
      refine stops (.decoded _ hassembles (congrArg _ hanswer) ?_)
      unfold ContinuousBatchScheduler.decodedExit
      split <;> simp
    | evictedAll hassembles hanswer hnone =>
      obtain ⟨evictee, heviction⟩ := evicts hassembles
      refine ⟨[evictee], _, .evict heviction (.done _), ?_, .evictedAll (by simp) hnone⟩
      intro i hi
      rw [List.length_singleton, Nat.lt_one_iff] at hi
      rw [hi]
      exact congrArg _ hanswer
    | retries hassembles hanswer =>
      obtain ⟨evictee, heviction⟩ := evicts hassembles
      -- there is one request less, and that is what the fuel counts
      have hlength := heviction.others.length_eq
      rw [List.length_cons] at hlength
      obtain ⟨rs, s', hevictions, houtcomes, hend⟩ :=
        decodeLoop_exact fuel (pass + 1) (by omega) (evict_nonneg hpositions)
      refine ⟨evictee :: rs, s', .evict heviction hevictions, ?_, ?_⟩
      · intro i hi
        cases i with
        | zero => exact congrArg _ hanswer
        | succ i =>
          rw [show pass + (i + 1) = pass + 1 + i by omega]
          exact houtcomes i (by simpa using hi)
      · rw [List.length_cons, show pass + (rs.length + 1) = pass + 1 + rs.length by omega]
        exact hend
    | aborted error hassembles hanswer haborted =>
      exact stops (.aborted error hassembles hanswer haborted)
    | errored message processed hassembles hanswer =>
      exact stops (.errored _ hassembles (congrArg _ hanswer))

/-! ## The iteration -/

/-- The loop ends.  Before it does, it evicts one request for each pass that found no room; each of
them is told, and the others, with their positions, pending tokens, prompts and channels, are as
they were. -/
def EvictAndRetry (ctx : ContinuousBatchSchedulerContext C) (decode : Nat → Except DecodeError Unit)
    (s : ContinuousBatchScheduler C) (result : IterationExit × ContinuousBatchScheduler C) : Prop :=
  result.1 ≠ .outOfFuel ∧ ∃ rs s', Evictions s rs s' ∧
    (∀ i < rs.length, DecodeOutcome.fromDecodeResult (decode i) = .needsEviction) ∧
    s.activeRequests.Perm (rs ++ s'.activeRequests) ∧
    s'.ended = s.ended ++ rs.map ContinuousBatchActiveRequest.evicted ∧
    LoopEnd ctx decode rs.length s' result

theorem evictAndRetry_decodeLoop {ctx : ContinuousBatchSchedulerContext C}
    (decode : Nat → Except DecodeError Unit) {fuel : Nat} {s : ContinuousBatchScheduler C}
    (hfuel : s.activeRequests.length < fuel) (hpositions : PositionsNonneg s) :
    EvictAndRetry ctx decode s (decodeLoop ctx decode fuel 0 s) := by
  obtain ⟨rs, s', hevictions, houtcomes, hend⟩ :=
    @decodeLoop_exact C ctx decode fuel 0 s hfuel hpositions
  simp only [Nat.zero_add] at houtcomes hend
  exact ⟨hend.returns, rs, s', hevictions, houtcomes, hevictions.others, hevictions.ended, hend⟩

/-- **Evict and retry** ends and is exact, for every list of requests whose positions are not
negative and all answers of the decoder; and so it is in every iteration of the scheduler, where no
position is negative. -/
theorem evictAndRetry_exact (ctx : ContinuousBatchSchedulerContext C) :
    (∀ (decode : Nat → Except DecodeError Unit) (s : ContinuousBatchScheduler C),
      PositionsNonneg s →
      EvictAndRetry ctx decode s (decodeLoop ctx decode (s.activeRequests.length + 1) 0 s)) ∧
    ∀ thread, Reaches (SchedulerThread.step ctx) (fun _ _ => True) (.new ctx) thread →
      ∀ answers : StepAnswers C,
        EvictAndRetry ctx answers.decode
          (advanceGeneratingRequests ctx answers.sampling thread.scheduler)
            (executeOneIteration ctx answers.sampling answers.decode thread.scheduler) := by
  refine ⟨fun decode s hpositions => ?_, fun thread h answers => ?_⟩
  · exact evictAndRetry_decodeLoop decode (Nat.lt_succ_self _) hpositions
  · have hlength := advance_length ctx answers thread.scheduler
    exact evictAndRetry_decodeLoop answers.decode (by omega)
      (readyToDecode_reaches h answers).positions

/-- The decoder of the small agent never finds room. -/
def noRoomAnswers : StepAnswers Unit :=
  { smallAnswers with decode := fun _ => .error .noKvCacheSlot }

theorem evictAndRetry_exact_oneTextPrompt :
    EvictAndRetry smallContext noRoomAnswers.decode
        (advanceGeneratingRequests smallContext noRoomAnswers.sampling oneTextPrompt.scheduler)
        (executeOneIteration smallContext noRoomAnswers.sampling noRoomAnswers.decode
          oneTextPrompt.scheduler) ∧
      (executeOneIteration smallContext noRoomAnswers.sampling noRoomAnswers.decode
        oneTextPrompt.scheduler).1 = .evictedAll := by
  have hreach : Reaches (SchedulerThread.step smallContext) (fun _ _ => True) (.new smallContext)
      oneTextPrompt := Reaches.runs _ (fun _ _ _ => trivial) .start
  exact ⟨(evictAndRetry_exact smallContext).2 oneTextPrompt hreach noRoomAnswers, rfl⟩

end Paddler
