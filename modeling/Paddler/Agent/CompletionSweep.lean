import Paddler.Agent.RequestRule

/-!
# The sweep of completed requests

`remove_completed_requests` walks over the active requests by index and takes the completed ones out
with `swap_remove`, which moves the last request under the cursor.  Here the effects of
`cleanup_completed_request` are taken one by one, over the whole sweep.

* `removals` — the requests the loop takes out, in its order; `removalsFrom_spec` — what is left.
* `sweepEvents_foldl` — **the effects of the removals, one after the other, are the sweep.**
* `Marked` — the outcomes a request was marked with; `Marked.phase` — the first one wins.
* `marked_reaches`, `sweep_cleared_reaches` — the requests of a run have such a history, and the ids
  that are made available in it have no cells left.
* `removeCompletedRequests_sweeps` — **what a sweep does to any list of active requests.**
-/

set_option autoImplicit false

namespace Paddler

open VecUpdate Run

variable {C : Type}

/-! ## The effects of a sweep -/

/-- The id that the effect makes available. -/
def SweepEvent.releasedId : SweepEvent C → Option Int
  | .sequenceIdReleased sequenceId => some sequenceId
  | _ => none

/-- What the loop of `remove_completed_requests` takes out. -/
def removalsFrom : Nat → Nat → List (ContinuousBatchActiveRequest C) → List (Removal C)
  | 0, _, _ => []
  | fuel + 1, removalIndex, activeRequests =>
    match activeRequests[removalIndex]? with
    | none => []
    | some request =>
      if request.state.phase.isCompleted then
        match swapRemove activeRequests removalIndex with
        | none => removalsFrom fuel removalIndex activeRequests
        | some (removedRequest, rest) =>
          ⟨removalIndex, removedRequest⟩ :: removalsFrom fuel removalIndex rest
      else removalsFrom fuel (removalIndex + 1) activeRequests

/-- What `remove_completed_requests` takes out. -/
def removals (activeRequests : List (ContinuousBatchActiveRequest C)) : List (Removal C) :=
  removalsFrom activeRequests.length 0 activeRequests

/-- Everything `remove_completed_requests` does. -/
def sweepEvents (scheduler : ContinuousBatchScheduler C) : List (SweepEvent C) :=
  (removals scheduler.activeRequests).flatMap Removal.events

/-- A completed request under the cursor is the one that is swapped out. -/
theorem swapRemove_of_getElem? {requests : List (ContinuousBatchActiveRequest C)} {index : Nat}
    {r : ContinuousBatchActiveRequest C} (h : requests[index]? = some r) :
    ∃ rest, swapRemove requests index = some (r, rest) := by
  obtain ⟨hlt, -⟩ := List.getElem?_eq_some_iff.mp h
  obtain ⟨x, rest, hswap, hx⟩ := swapRemove_isSome hlt
  rw [h] at hx
  cases hx
  exact ⟨rest, hswap⟩

theorem removalsFrom_foldl :
    ∀ (fuel index : Nat) (s : ContinuousBatchScheduler C),
      ((removalsFrom fuel index s.activeRequests).flatMap Removal.events).foldl SweepEvent.apply s =
        ContinuousBatchScheduler.removeCompletedFrom fuel index s
  | 0, _, _ => rfl
  | fuel + 1, index, s => by
    unfold removalsFrom ContinuousBatchScheduler.removeCompletedFrom
    cases hget : s.activeRequests[index]? with
    | none => rfl
    | some r =>
      dsimp only
      by_cases hc : r.state.phase.isCompleted = true
      · obtain ⟨rest, hswap⟩ := swapRemove_of_getElem? hget
        rw [if_pos hc, if_pos hc, hswap, cleanupCompletedRequest_of_some hswap]
        dsimp only
        rw [List.flatMap_cons, List.foldl_append, Removal.events_foldl hswap]
        exact removalsFrom_foldl fuel index (s.cleaned r rest)
      · rw [if_neg hc, if_neg hc]
        exact removalsFrom_foldl fuel (index + 1) s

/-- **The effects of the removals, one after the other, are the sweep.** -/
theorem sweepEvents_foldl (s : ContinuousBatchScheduler C) :
    (sweepEvents s).foldl SweepEvent.apply s = s.removeCompletedRequests :=
  removalsFrom_foldl s.activeRequests.length 0 s

/-! ## Which requests go -/

/-- What the loop has left behind when it is at `index`: nothing in front of the cursor is
completed. -/
def SweptBefore (index : Nat) (requests : List (ContinuousBatchActiveRequest C)) : Prop :=
  ∀ r ∈ requests.take index, r.state.phase.isCompleted = false

theorem SweptBefore.swapRemove {index : Nat} {requests rest : List (ContinuousBatchActiveRequest C)}
    {r : ContinuousBatchActiveRequest C} (h : SweptBefore index requests)
    (hswap : VecUpdate.swapRemove requests index = some (r, rest)) : SweptBefore index rest := by
  intro r' hr'
  refine h r' ?_
  rwa [swapRemove_take hswap] at hr'

theorem SweptBefore.succ {index : Nat} {requests : List (ContinuousBatchActiveRequest C)}
    {r : ContinuousBatchActiveRequest C} (h : SweptBefore index requests)
    (hget : requests[index]? = some r) (hc : r.state.phase.isCompleted = false) :
    SweptBefore (index + 1) requests := by
  intro r' hr'
  rw [List.take_add_one, hget, List.mem_append] at hr'
  rcases hr' with hr' | hr'
  · exact h r' hr'
  · rw [Option.toList_some, List.mem_singleton] at hr'
    rw [hr']
    exact hc

theorem SweptBefore.all {index : Nat} {requests : List (ContinuousBatchActiveRequest C)}
    (h : SweptBefore index requests) (hend : requests.length ≤ index) :
    ∀ r ∈ requests, r.state.phase.isCompleted = false := by
  rwa [SweptBefore, List.take_of_length_le hend] at h

/-- What a loop makes of the active requests: `removed` goes, `s'` keeps the rest. -/
structure Swept (s s' : ContinuousBatchScheduler C)
    (removed : List (ContinuousBatchActiveRequest C)) :
    Prop where
  perm : s.activeRequests.Perm (removed ++ s'.activeRequests)
  completed : ∀ r ∈ removed, r.state.phase.isCompleted = true
  active : ∀ r ∈ s'.activeRequests, r.state.phase.isCompleted = false
  ended : s'.ended = s.ended ++ removed.map (·.deliverTerminal)

theorem Swept.refl {s : ContinuousBatchScheduler C}
    (h : ∀ r ∈ s.activeRequests, r.state.phase.isCompleted = false) : Swept s s [] where
  perm := List.Perm.refl _
  completed := fun _ hr => absurd hr List.not_mem_nil
  active := h
  ended := (List.append_nil _).symm

theorem Swept.cons {s s' : ContinuousBatchScheduler C} {index : Nat}
    {r : ContinuousBatchActiveRequest C} {rest removed : List (ContinuousBatchActiveRequest C)}
    (hswap : swapRemove s.activeRequests index = some (r, rest))
    (hc : r.state.phase.isCompleted = true) (h : Swept (s.cleaned r rest) s' removed) :
    Swept s s' (r :: removed) where
  perm := (swapRemove_perm hswap).trans (h.perm.cons r)
  completed := List.forall_mem_cons.mpr ⟨hc, h.completed⟩
  active := h.active
  ended := by
    rw [h.ended, List.map_cons]
    exact List.append_assoc _ _ _

/-- **The loop takes out every completed request and no other.** -/
theorem removalsFrom_spec :
    ∀ (fuel index : Nat) (s : ContinuousBatchScheduler C), s.activeRequests.length ≤ index + fuel →
      SweptBefore index s.activeRequests →
      Swept s (ContinuousBatchScheduler.removeCompletedFrom fuel index s)
        ((removalsFrom fuel index s.activeRequests).map (·.request))
  | 0, _, _, hfuel, hswept => .refl (hswept.all hfuel)
  | fuel + 1, index, s, hfuel, hswept => by
    unfold removalsFrom ContinuousBatchScheduler.removeCompletedFrom
    cases hget : s.activeRequests[index]? with
    | none => exact .refl (hswept.all (List.getElem?_eq_none_iff.mp hget))
    | some r =>
      dsimp only
      by_cases hc : r.state.phase.isCompleted = true
      · obtain ⟨rest, hswap⟩ := swapRemove_of_getElem? hget
        rw [if_pos hc, if_pos hc, hswap, cleanupCompletedRequest_of_some hswap]
        have hlength := swapRemove_length hswap
        refine .cons hswap hc (removalsFrom_spec fuel index (s.cleaned r rest) ?_
          (hswept.swapRemove hswap))
        show rest.length ≤ index + fuel
        omega
      · rw [if_neg hc, if_neg hc]
        refine removalsFrom_spec fuel (index + 1) s (by omega) (hswept.succ hget ?_)
        exact Bool.eq_false_iff.mpr hc

theorem removeCompletedRequests_swept (s : ContinuousBatchScheduler C) :
    Swept s s.removeCompletedRequests ((removals s.activeRequests).map (·.request)) := by
  refine removalsFrom_spec s.activeRequests.length 0 s (Nat.le_add_left _ _) fun r hr => ?_
  rw [List.take_zero] at hr
  exact absurd hr List.not_mem_nil

theorem Swept.left {s s' : ContinuousBatchScheduler C}
    {removed : List (ContinuousBatchActiveRequest C)} (h : Swept s s' removed) :
    s'.activeRequests.Perm (s.activeRequests.filter fun r => !r.state.phase.isCompleted) := by
  have hremoved : removed.filter (fun r => !r.state.phase.isCompleted) = [] :=
    List.filter_eq_nil_iff.mpr fun r hr => by simp [h.completed r hr]
  have hkept : s'.activeRequests.filter (fun r => !r.state.phase.isCompleted) = s'.activeRequests :=
    List.filter_eq_self.mpr fun r hr => by simp [h.active r hr]
  have hperm := h.perm.filter fun r => !r.state.phase.isCompleted
  rw [List.filter_append, hremoved, hkept] at hperm
  exact hperm.symm

theorem Swept.gone {s s' : ContinuousBatchScheduler C}
    {removed : List (ContinuousBatchActiveRequest C)} (h : Swept s s' removed) :
    removed.Perm (s.activeRequests.filter fun r => r.state.phase.isCompleted) := by
  have hremoved : removed.filter (fun r => r.state.phase.isCompleted) = removed :=
    List.filter_eq_self.mpr fun r hr => h.completed r hr
  have hkept : s'.activeRequests.filter (fun r => r.state.phase.isCompleted) = [] :=
    List.filter_eq_nil_iff.mpr fun r hr => by simp [h.active r hr]
  have hperm := h.perm.filter fun r => r.state.phase.isCompleted
  rw [List.filter_append, hremoved, hkept, List.append_nil] at hperm
  exact hperm.symm

/-! ## In which order -/

/-- One removal clears its sequence before it releases its id. -/
theorem Removal.cleared_of_released {removal : Removal C}
    {before after : List (SweepEvent C)} {id : Int}
    (h : removal.events = before ++ .sequenceIdReleased id :: after) :
    .kvCacheCleared id ∈ before := by
  unfold events at h
  rcases before with _ | ⟨first, _ | ⟨second, _ | ⟨third, _ | ⟨fourth, before⟩⟩⟩⟩ <;> simp at h
  obtain ⟨rfl, rfl, rfl, rfl, rfl⟩ := h
  simp

/-- **An id is released after its sequence was cleared.** -/
theorem cleared_of_released {id : Int} :
    ∀ {removals : List (Removal C)} {before after : List (SweepEvent C)},
      removals.flatMap Removal.events = before ++ .sequenceIdReleased id :: after →
      .kvCacheCleared id ∈ before
  | [], before, after, h => by simp at h
  | removal :: removals, before, after, h => by
    rw [List.flatMap_cons] at h
    rcases List.append_eq_append_iff.mp h with ⟨rest, hbefore, hrest⟩ | ⟨rest, hevents, hrest⟩
    · rw [hbefore]
      exact List.mem_append_right _ (cleared_of_released hrest)
    · cases rest with
      | nil =>
        rw [List.append_nil] at hevents
        rw [← hevents]
        have hcleared : SweepEvent.kvCacheCleared id ∈ [] := cleared_of_released hrest.symm
        exact absurd hcleared List.not_mem_nil
      | cons event rest =>
        rw [List.cons_append, List.cons.injEq] at hrest
        obtain ⟨rfl, -⟩ := hrest
        exact removal.cleared_of_released hevents

theorem clearKvCacheForSequence_subset (llama : LlamaContext) (sequenceId : Int) :
    (llama.clearKvCacheForSequence sequenceId).kvCells ⊆ llama.kvCells := by
  unfold LlamaContext.clearKvCacheForSequence
  split
  · exact List.Subset.refl _
  · exact fun cell hcell => (LlamaContext.mem_clearKvCacheSeq.mp hcell).1

namespace SweepEvent

theorem apply_kvCells (s : ContinuousBatchScheduler C) (event : SweepEvent C) :
    (apply s event).llamaContext.kvCells ⊆ s.llamaContext.kvCells := by
  cases event with
  | swapRemoved index =>
    simp only [apply]
    split <;> exact List.Subset.refl _
  | kvCacheCleared sequenceId => exact clearKvCacheForSequence_subset _ _
  | delivered removedRequest => exact List.Subset.refl _
  | sequenceIdReleased sequenceId => exact List.Subset.refl _

theorem foldl_kvCells :
    ∀ (events : List (SweepEvent C)) (s : ContinuousBatchScheduler C),
      (events.foldl apply s).llamaContext.kvCells ⊆ s.llamaContext.kvCells
  | [], _ => List.Subset.refl _
  | event :: events, s =>
    List.Subset.trans (foldl_kvCells events (apply s event)) (apply_kvCells s event)

/-- A sequence that was cleared has no cells from then on. -/
theorem foldl_cleared {id : Int} (hid : 0 ≤ id) :
    ∀ {events : List (SweepEvent C)} {s : ContinuousBatchScheduler C}, .kvCacheCleared id ∈ events →
      ∀ cell ∈ (events.foldl apply s).llamaContext.kvCells, cell.seqId ≠ id
  | event :: events, s, hcleared, cell, hcell => by
    rcases List.mem_cons.mp hcleared with rfl | hcleared
    · exact ((LlamaContext.mem_clearKvCacheForSequence hid).mp (foldl_kvCells events _ hcell)).2
    · exact foldl_cleared hid hcleared cell hcell

theorem foldl_availableIds :
    ∀ (events : List (SweepEvent C)) (s : ContinuousBatchScheduler C),
      (events.foldl apply s).sequenceIdPool.availableIds =
        s.sequenceIdPool.availableIds ++ events.filterMap releasedId
  | [], _ => (List.append_nil _).symm
  | event :: events, s => by
    rw [List.foldl_cons, foldl_availableIds events (apply s event)]
    cases event with
    | swapRemoved index =>
      simp only [apply]
      split <;> rfl
    | kvCacheCleared sequenceId => rfl
    | delivered removedRequest => rfl
    | sequenceIdReleased sequenceId => exact List.append_assoc _ [sequenceId] _

theorem releasedId_eq_some {event : SweepEvent C} {id : Int} (h : event.releasedId = some id) :
    event = .sequenceIdReleased id := by
  cases event <;> cases h
  rfl

end SweepEvent

/-- At every moment of a sweep the ids that it has made available have no cells left. -/
theorem cleared_of_available {removals : List (Removal C)} {before after : List (SweepEvent C)}
    (h : removals.flatMap Removal.events = before ++ after) {id : Int}
    (hreleased : id ∈ before.filterMap SweepEvent.releasedId) (hid : 0 ≤ id)
    (s : ContinuousBatchScheduler C) :
    ∀ cell ∈ (before.foldl SweepEvent.apply s).llamaContext.kvCells, cell.seqId ≠ id := by
  obtain ⟨event, hevent, hsome⟩ := List.mem_filterMap.mp hreleased
  rw [SweepEvent.releasedId_eq_some hsome] at hevent
  obtain ⟨first, second, rfl⟩ := List.append_of_mem hevent
  rw [List.append_assoc, List.cons_append] at h
  exact SweepEvent.foldl_cleared hid (List.mem_append_left _ (cleared_of_released h))

/-! ## The first outcome -/

/-- `deliver` of `continuous_batch_terminal_delivery.rs`. -/
def ContinuousBatchTerminalOutcome.deliver (self : ContinuousBatchTerminalOutcome)
    (generatedTokensTx : Sender GeneratedTokenResult) : Sender GeneratedTokenResult :=
  match self with
  | .emitNothing => generatedTokensTx
  | .emitToClient terminalResult => sendGeneratedTokenResultOrWarn generatedTokensTx terminalResult

/-- What the state of a request went through since it was accepted, with the outcomes it was marked
with, the first one first.  A prompt is ingested only while the request is ingesting. -/
inductive Marked : List ContinuousBatchTerminalOutcome → ContinuousBatchRequestState → Prop where
  | accepted {state : ContinuousBatchRequestState} :
      state.phase.isCompleted = false → Marked [] state
  | generated {outcomes : List ContinuousBatchTerminalOutcome} {state : ContinuousBatchRequestState}
      (batchPosition : Int) :
      Marked outcomes state → Marked outcomes (state.applyGeneratingContribution batchPosition)
  | ingested {outcomes : List ContinuousBatchTerminalOutcome} {state : ContinuousBatchRequestState}
      (chunkSize : Nat) (isLastChunk : Bool) (lastBatchPosition : Int) :
      state.phase = .ingesting → Marked outcomes state →
      Marked outcomes (state.applyIngestingContribution chunkSize isLastChunk lastBatchPosition).2
  | stored {outcomes : List ContinuousBatchTerminalOutcome} {state : ContinuousBatchRequestState}
      (token : SampledToken) : Marked outcomes state →
      Marked outcomes (state.storePendingToken token)
  | rowTaken {outcomes : List ContinuousBatchTerminalOutcome} {state : ContinuousBatchRequestState} :
      Marked outcomes state → Marked outcomes { state with iBatch := none }
  | marked {outcomes : List ContinuousBatchTerminalOutcome} {state : ContinuousBatchRequestState}
      (outcome : ContinuousBatchTerminalOutcome) :
      Marked outcomes state → Marked (outcomes ++ [outcome]) (state.markCompleted outcome)

namespace Marked

variable {outcomes : List ContinuousBatchTerminalOutcome} {state : ContinuousBatchRequestState}

/-- The phase that the first of the outcomes leads to. -/
def Wins (outcomes : List ContinuousBatchTerminalOutcome) (state : ContinuousBatchRequestState) :
    Prop :=
  match outcomes with
  | [] => state.phase.isCompleted = false
  | first :: _ => state.phase = .completed first

theorem Wins.congr {state' : ContinuousBatchRequestState} (h : Wins outcomes state)
    (hphase : state'.phase = state.phase) : Wins outcomes state' := by
  cases outcomes with
  | nil => exact (congrArg _ hphase).trans h
  | cons first rest => exact hphase.trans h

theorem Wins.mark (h : Wins outcomes state) (outcome : ContinuousBatchTerminalOutcome) :
    Wins (outcomes ++ [outcome]) (state.markCompleted outcome) := by
  cases outcomes with
  | nil =>
    have hactive : state.phase.isCompleted = false := h
    simp [Wins, ContinuousBatchRequestState.markCompleted, hactive]
  | cons first rest =>
    have hphase : state.phase = .completed first := h
    have hcompleted : state.phase.isCompleted = true := by
      rw [hphase]
      rfl
    rw [ContinuousBatchRequestState.markCompleted, if_pos hcompleted]
    exact hphase

/-- **The first outcome wins**, and there is none as long as the request is active. -/
theorem wins (h : Marked outcomes state) : Wins outcomes state := by
  induction h with
  | accepted hactive => exact hactive
  | generated batchPosition _ ih => exact ih.congr rfl
  | stored token _ ih => exact ih.congr rfl
  | rowTaken _ ih => exact ih.congr rfl
  | marked outcome _ ih => exact ih.mark outcome
  | @ingested outcomes state chunkSize isLastChunk lastBatchPosition hphase _ ih =>
    cases outcomes with
    | cons first rest =>
      have hcompleted : state.phase = .completed first := ih
      rw [hphase] at hcompleted
      cases hcompleted
    | nil =>
      unfold Wins ContinuousBatchRequestState.applyIngestingContribution
      dsimp only
      split_ifs
      · exact ih
      · rfl
      · exact ih

end Marked

/-- A completed request delivers the first outcome it was marked with. -/
theorem Marked.delivers {outcomes : List ContinuousBatchTerminalOutcome}
    {r : ContinuousBatchActiveRequest C} (h : Marked outcomes r.state)
    (hc : r.state.phase.isCompleted = true) :
    ∃ first rest, outcomes = first :: rest ∧
      r.deliverTerminal.generatedTokensTx = first.deliver r.generatedTokensTx := by
  cases outcomes with
  | nil =>
    have hactive : r.state.phase.isCompleted = false := h.wins
    rw [hc] at hactive
    cases hactive
  | cons first rest =>
    have hphase : r.state.phase = .completed first := h.wins
    refine ⟨first, rest, rfl, ?_⟩
    unfold ContinuousBatchActiveRequest.deliverTerminal
      ContinuousBatchRequestState.intoTerminalOutcome
    rw [hphase]
    cases first <;> rfl

/-! ## Along a run -/

/-- The request was marked with some outcomes since it was accepted. -/
def HasMarks (r : ContinuousBatchActiveRequest C) : Prop :=
  ∃ outcomes, Marked outcomes r.state

namespace HasMarks

variable {ctx : ContinuousBatchSchedulerContext C} {r r' : ContinuousBatchActiveRequest C}

theorem congr (h : HasMarks r) (hstate : r'.state = r.state) : HasMarks r' := by
  rwa [HasMarks, hstate]

theorem mark (h : HasMarks r) (outcome : ContinuousBatchTerminalOutcome) :
    HasMarks { r with state := r.state.markCompleted outcome } := by
  obtain ⟨outcomes, hmarked⟩ := h
  exact ⟨_, hmarked.marked outcome⟩

theorem decoded {tokens : List BatchToken} (h : HasMarks r) (hstep : DecodeStep tokens r r') :
    HasMarks r' := by
  obtain ⟨outcomes, hmarked⟩ := h
  cases hstep with
  | skipped => exact ⟨outcomes, hmarked⟩
  | @generated p => exact ⟨outcomes, hmarked.generated p⟩
  | @ingested p k _ hphase => exact ⟨outcomes, hmarked.ingested k (r.isLastChunk k) p hphase⟩

theorem advanced {llama : LlamaContext} {answers : SamplingAnswers} (h : HasMarks r) :
    HasMarks (advance ctx llama answers r) := by
  rcases advance_cases ctx llama answers r with
    ⟨-, heq⟩ | ⟨i, result, -, -, -, heq⟩ | ⟨i, t, outcome, r', -, -, hadv, heq⟩
  · rw [heq]
    exact h
  · rw [heq]
    have hread : HasMarks (r.recordRead llama i) := h.congr rfl
    exact hread.mark _
  · rw [heq]
    have hstate : r'.state = r.state := by
      rcases advanceSampled_spec hadv with ⟨err, c, -, -, hr⟩ | ⟨outcomes, c, events, -, hing, -⟩
      · rw [hr]
        rfl
      · exact hing.state
    have hkept := h.congr hstate
    cases outcome with
    | sampledAndStored token =>
      obtain ⟨outcomes, hmarked⟩ := hkept
      exact ⟨outcomes, hmarked.stored token⟩
    | completed event => exact hkept.mark _
    | channelDropped => exact hkept.mark _

theorem harvested {llama : LlamaContext} {answers : SamplingAnswers} (h : HasMarks r) :
    HasMarks (harvestOne ctx llama answers r) := by
  rcases harvestOne_cases ctx llama answers r with
    ⟨-, heq⟩ | ⟨i, result, -, -, -, heq⟩ | ⟨i, t, err, c, -, -, -, heq⟩ |
    ⟨i, t, outcomes, c, -, -, -, heq⟩
  · rw [heq]
    exact h
  · rw [heq]
    have hread : HasMarks (r.recordRead llama i) := h.congr rfl
    exact hread.mark _
  · rw [heq]
    have hsampled : HasMarks { r.sampledAt llama i t with tokenClassifier := c } := h.congr rfl
    exact hsampled.mark _
  · rw [heq]
    obtain ⟨marks, hmarked⟩ := h
    exact ⟨marks, (hmarked.stored (.content t)).rowTaken⟩

end HasMarks

/-- **Every active request of every run was marked as `Marked` says.** -/
theorem marked_reaches {ctx : ContinuousBatchSchedulerContext C}
    {guard : SchedulerThread C → SchedulerInput C → Prop} {thread : SchedulerThread C}
    (h : Reaches (SchedulerThread.step ctx) guard (.new ctx) thread) :
    ∀ r ∈ thread.scheduler.activeRequests, HasMarks r := by
  refine (RequestRule.reaches (Q := fun _ r => HasMarks r) (E := fun _ => True)
    (fun thread answers _ _ => ?_) h).active
  exact
    { completed := fun _ _ _ hr _ _ _ => hr.mark _
      replaced := fun _ _ _ hr _ => hr
      advanced := fun _ _ _ hr => hr.advanced
      harvested := fun _ _ _ _ _ _ _ _ hr => hr.harvested
      decoded := fun _ _ _ _ hr _ hstep => hr.decoded hstep
      text := fun _ _ _ _ _ _ _ _ _ _ _ _ _ _ _ _ _ _ _ => ⟨[], .accepted rfl⟩
      multimodal := fun _ _ _ _ _ _ _ _ _ _ _ _ _ _ => ⟨[], .accepted rfl⟩
      delivered := fun _ _ _ _ => trivial
      refused := fun _ _ _ _ _ _ _ _ => trivial }

/-- **In a run the ids that a sweep makes available have no cells left**, at every moment of it. -/
theorem sweep_cleared_reaches {ctx : ContinuousBatchSchedulerContext C}
    {guard : SchedulerThread C → SchedulerInput C → Prop} {thread : SchedulerThread C}
    (h : Reaches (SchedulerThread.step ctx) guard (.new ctx) thread)
    {before after : List (SweepEvent C)}
    (hevents : sweepEvents thread.scheduler = before ++ after) {id : Int}
    (hreleased : id ∈ before.filterMap SweepEvent.releasedId) :
    ∀ cell ∈ (before.foldl SweepEvent.apply thread.scheduler).llamaContext.kvCells,
    cell.seqId ≠ id := by
  refine cleared_of_available hevents hreleased ?_ thread.scheduler
  obtain ⟨event, hevent, hsome⟩ := List.mem_filterMap.mp hreleased
  rw [SweepEvent.releasedId_eq_some hsome] at hevent
  have hmem : .sequenceIdReleased id ∈ sweepEvents thread.scheduler := by
    rw [hevents]
    exact List.mem_append_left _ hevent
  obtain ⟨removal, hremoval, hid⟩ := List.mem_flatMap.mp hmem
  have hactive : removal.request ∈ thread.scheduler.activeRequests :=
    (removeCompletedRequests_swept thread.scheduler).perm.mem_iff.mpr
      (List.mem_append_left _ (List.mem_map_of_mem hremoval))
  have hid : id = removal.request.sequenceId := by
    simpa [Removal.events] using hid
  rw [hid]
  exact (sequenceIdsInv_reaches h).nonneg hactive

/-! ## The sweep -/

/-- **What `remove_completed_requests` does to any list of active requests.**  Its effects, in their
order, are those of `sweepEvents`.  What is left is what was not completed, what goes is delivered
once and with the first outcome it was marked with, and at every moment in between an id that the
sweep has made available was cleared before. -/
theorem removeCompletedRequests_sweeps (s : ContinuousBatchScheduler C) :
    (sweepEvents s).foldl SweepEvent.apply s = s.removeCompletedRequests ∧
    s.removeCompletedRequests.activeRequests.Perm
      (s.activeRequests.filter fun r => !r.state.phase.isCompleted) ∧
    (∃ removed : List (ContinuousBatchActiveRequest C),
      removed.Perm (s.activeRequests.filter fun r => r.state.phase.isCompleted) ∧
      s.removeCompletedRequests.ended = s.ended ++ removed.map (·.deliverTerminal) ∧
      ∀ r ∈ removed, ∀ outcomes, Marked outcomes r.state →
        ∃ first rest, outcomes = first :: rest ∧
          r.deliverTerminal.generatedTokensTx = first.deliver r.generatedTokensTx) ∧
    ∀ before after, sweepEvents s = before ++ after →
      (∀ id earlier later, before = earlier ++ .sequenceIdReleased id :: later →
        .kvCacheCleared id ∈ earlier) ∧
      ∃ released, (before.foldl SweepEvent.apply s).sequenceIdPool.availableIds =
          s.sequenceIdPool.availableIds ++ released ∧
        ∀ id ∈ released, 0 ≤ id →
          ∀ cell ∈ (before.foldl SweepEvent.apply s).llamaContext.kvCells, cell.seqId ≠ id := by
  have hswept := removeCompletedRequests_swept s
  refine ⟨sweepEvents_foldl s, hswept.left, ⟨_, hswept.gone, hswept.ended, ?_⟩, ?_⟩
  · intro r hr outcomes hmarked
    exact hmarked.delivers (hswept.completed r hr)
  · intro before after hevents
    refine ⟨fun id earlier later hbefore => ?_, _, SweepEvent.foldl_availableIds before s, ?_⟩
    · rw [hbefore, List.append_assoc] at hevents
      exact cleared_of_released hevents
    · exact fun id hid hnonneg => cleared_of_available hevents hid hnonneg s

end Paddler
