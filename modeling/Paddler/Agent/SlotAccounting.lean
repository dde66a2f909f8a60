import Paddler.Agent.LlamaCppArbiterService

/-!
# The slot counter of the agent

`slots_processing` counts the live guards: whoever takes or drops a guard takes or releases a slot.
Only `reset`, in the middle of an application of the state, writes it without looking at the guards.

* `slotDrift` — how many live guards the counter misses.
* `AgentStep.slotDrift` — **no step changes it but the reset**, which sets it to the number of
  requests that wait for the arbiter.
* `slotsProcessing_eq_slotGuards` — the counter is right as long as no reset meets such a request.
* `drain_countsForwarded` — a drain waits only for forwarded requests as long as none waits for the
  arbiter when it starts and none arrives before it ends.
-/

set_option autoImplicit false

namespace Paddler

open Run

variable {C : Type}

/-- The live guards that `slots_processing` does not count. -/
def AgentService.slotDrift (s : AgentService C) : Int := s.slotGuards - s.slotsProcessing

/-! ## One step -/

namespace AgentService

variable {s s' : AgentService C}

theorem forwardedSlotGuards_some {handle : ContinuousBatchArbiterHandle C}
    (h : s.continuousBatchArbiterHandle = some handle) :
    s.forwardedSlotGuards = handle.schedulerThread.slotGuards := by
  unfold forwardedSlotGuards
  rw [h]
  rfl

theorem forwardedSlotGuards_none (h : s.continuousBatchArbiterHandle = none) :
    s.forwardedSlotGuards = 0 := by
  unfold forwardedSlotGuards
  rw [h]
  rfl

theorem forwardedSlotGuards_congr
    (h : s'.continuousBatchArbiterHandle = s.continuousBatchArbiterHandle) :
    s'.forwardedSlotGuards = s.forwardedSlotGuards := by
  unfold forwardedSlotGuards
  rw [h]

end AgentService

/-- A call of the thread behind the handle drops as many guards as it releases slots. -/
theorem guardsDropped_add {handle : ContinuousBatchArbiterHandle C}
    (hseq : SequenceIdsInv handle.context handle.schedulerThread.scheduler)
    (answers : StepAnswers C) :
    AgentService.guardsDropped handle answers +
        (AgentService.stepScheduler handle answers).schedulerThread.slotGuards =
      handle.schedulerThread.slotGuards := by
  have hle := SchedulerThread.slotGuards_callStep answers hseq
  exact Nat.sub_add_cancel hle

variable {threadGuard : ContinuousBatchSchedulerContext C → SchedulerThread C →
      SchedulerInput C → Prop}

/-- **Every step but the reset counts what it does to the guards.** -/
theorem AgentStep.slotDrift {s s' : AgentService C} {input : AgentInput C}
    (hthreads : ThreadsReached threadGuard s) (hstep : AgentStep s s' input) :
    s'.slotDrift = s.slotDrift ∨
      (input = .reset ∧ s.task = .resetting ∧ s'.slotDrift = s.queued.length) := by
  unfold AgentService.slotDrift AgentService.slotGuards
  cases hstep with
  | unchanged hreq htask =>
    left
    rw [hreq.queued, AgentService.forwardedSlotGuards_congr hreq.handle, htask,
      hreq.slotsProcessing]
  | moved hreq hguards hguards' _ _ _ =>
    left
    rw [hreq.queued, AgentService.forwardedSlotGuards_congr hreq.handle, hguards, hguards',
      hreq.slotsProcessing]
  | queued hhandle htask hlength hslots _ =>
    left
    rw [AgentService.forwardedSlotGuards_congr hhandle, htask, hlength, hslots]
    omega
  | @forwarded queued handle hhandle hrunning hhandle' htask htask' hlength hslots _ =>
    left
    have hguards : (handle.schedulerThread.step handle.context (.arrive queued.request.commandParams
        queued.receiverDropsAfter)).slotGuards = handle.schedulerThread.slotGuards + 1 :=
      SchedulerThread.slotGuards_forward hrunning queued.request queued.receiverDropsAfter
    rw [AgentService.forwardedSlotGuards_some hhandle,
      AgentService.forwardedSlotGuards_some hhandle', htask, htask', hlength, hslots]
    dsimp only
    omega
  | dropped _ hhandle htask htask' hlength hslots _ =>
    left
    rw [AgentService.forwardedSlotGuards_congr hhandle, htask, htask', hlength, hslots]
    omega
  | @taken _ handle exiting hhandle htask hnone htask' hqueued hslots _ =>
    left
    have hguards : s.task.slotGuards = 0 := by rcases htask with h | h <;> rw [h] <;> rfl
    have hguards' : s'.task.slotGuards = handle.schedulerThread.slotGuards := by
      rw [htask']
      exact SchedulerThread.slotGuards_shutdown handle.context handle.schedulerThread
    rw [AgentService.forwardedSlotGuards_some hhandle, AgentService.forwardedSlotGuards_none hnone,
      hguards, hguards', hqueued, hslots]
    omega
  | reset htask htask' hhandle hqueued hslots _ =>
    refine Or.inr ⟨rfl, htask, ?_⟩
    rw [AgentService.forwardedSlotGuards_none (hhandle.trans (hthreads.taken.2 (Or.inl htask))),
      htask', hqueued, hslots]
    simp [ArbiterTask.slotGuards]
  | @spawned context htask htask' hhandle hqueued hslots _ =>
    left
    have hguards : s'.forwardedSlotGuards = 0 := AgentService.forwardedSlotGuards_some hhandle
    rw [AgentService.forwardedSlotGuards_none (hthreads.taken.2 (Or.inr htask)), hguards, htask,
      htask', hqueued, hslots]
    rfl
  | @called handle answers hhandle hhandle' htask hqueued hslots _ =>
    left
    have hdropped := guardsDropped_add
      (sequenceIdsInv_reaches (hthreads.handle handle hhandle)) answers
    rw [AgentService.forwardedSlotGuards_some hhandle,
      AgentService.forwardedSlotGuards_some hhandle', htask, hqueued, hslots]
    omega
  | @calledJoining handle exiting answers hnone htask hnone' htask' hqueued hslots _ =>
    left
    have hdropped := guardsDropped_add
      (sequenceIdsInv_reaches (hthreads.joining handle exiting htask)) answers
    rw [AgentService.forwardedSlotGuards_none hnone, AgentService.forwardedSlotGuards_none hnone',
      htask, htask', hqueued, hslots]
    simp only [ArbiterTask.slotGuards]
    omega
  | ended hnone hguards hnone' htask hqueued hslots _ =>
    left
    rw [AgentService.forwardedSlotGuards_none hnone, AgentService.forwardedSlotGuards_none hnone',
      hguards, htask, hqueued, hslots]
    simp only [ArbiterTask.slotGuards, List.length_nil]
    omega

/-! ## Whole runs -/

theorem allThreads_reaches {guard : AgentService C → AgentInput C → Prop} {s : AgentService C}
    (h : Reaches AgentService.step guard .new s) : ThreadsReached (fun _ _ _ => True) s :=
  threads_reaches (fun _ _ _ _ _ => trivial) (fun _ _ _ _ _ => trivial) h

/-- Whatever happens, the counter never counts more than the live guards. -/
theorem slotDrift_nonneg {guard : AgentService C → AgentInput C → Prop} {s : AgentService C}
    (h : Reaches AgentService.step guard .new s) : 0 ≤ s.slotDrift := by
  refine h.invariant (fun s => 0 ≤ s.slotDrift) (Int.le_refl 0) fun s input hreach hinv _ => ?_
  have hthreads := allThreads_reaches hreach
  rcases (step_agentStep hthreads.taken input).slotDrift hthreads with hsame | ⟨-, -, hreset⟩
  · rw [hsame]
    exact hinv
  · rw [hreset]
    exact Int.natCast_nonneg _

/-- No request waits for the arbiter when the counter is reset. -/
def AgentService.ResetsWhenEmpty (s : AgentService C) : AgentInput C → Prop
  | .reset => s.task = .resetting → s.queued = []
  | _ => True

/-- **The slot counter.**  In every run in which no request waits for the arbiter when the counter
is reset, it is the number of live guards, and so never negative. -/
theorem slotsProcessing_eq_slotGuards {s : AgentService C}
    (h : Reaches AgentService.step AgentService.ResetsWhenEmpty .new s) :
    s.slotsProcessing = s.slotGuards ∧ 0 ≤ s.slotsProcessing := by
  have hdrift : s.slotDrift = 0 := by
    refine h.invariant (fun s => s.slotDrift = 0) rfl fun s input hreach hinv hempty => ?_
    have hthreads := allThreads_reaches hreach
    rcases (step_agentStep hthreads.taken input).slotDrift hthreads
        with hsame | ⟨rfl, htask, hreset⟩
    · exact hsame.trans hinv
    · rw [hreset, hempty htask]
      rfl
  unfold AgentService.slotDrift at hdrift
  omega

/-- The agent with a scheduler and one prompt forwarded to it. -/
def forwardedPrompt : AgentService Unit :=
  AgentService.new.run (applySmallContext ++ [.request queuedPrompt, .receive])

theorem slotsProcessing_eq_slotGuards_forwardedPrompt :
    (forwardedPrompt.slotsProcessing = forwardedPrompt.slotGuards ∧
      0 ≤ forwardedPrompt.slotsProcessing) ∧ forwardedPrompt.slotGuards = 1 := by
  refine ⟨slotsProcessing_eq_slotGuards ?_, by decide⟩
  exact Reaches.along _ ⟨trivial, fun _ => rfl, trivial, trivial, trivial, trivial⟩ .start

/-- A prompt waits for the arbiter while the first state is applied, and the application fails. -/
def resetWithPrompt : AgentService Unit :=
  AgentService.new.run [.request queuedPrompt, .reconciledStateChanged (some ⟨some "model.gguf"⟩),
    .reset, .spawned .failed]

/-- After the reset the counter misses the guard of the waiting prompt; when the guard is dropped
the counter is negative. -/
theorem slotsProcessing_negative :
    resetWithPrompt.slotsProcessing = 0 ∧ resetWithPrompt.slotGuards = 1 ∧
    (resetWithPrompt.step .receive).slotsProcessing = -1 ∧
    (resetWithPrompt.step .receive).slotGuards = 0 ∧
    ¬ ∀ s : AgentService Unit, Reaches AgentService.step (fun _ _ => True) .new s →
      s.slotsProcessing = s.slotGuards := by
  refine ⟨by decide, by decide, by decide, by decide, fun hcounts => ?_⟩
  have h := hcounts resetWithPrompt (Reaches.runs _ (fun _ _ _ => trivial) .start)
  exact absurd h (by decide)

/-! ## The drain -/

/-- No request waits for the arbiter when a drain starts, and none arrives during one. -/
def AgentService.DrainsUndisturbed (s : AgentService C) : AgentInput C → Prop
  | .request _ => s.task ≠ .draining
  | input => input.StartsApplying s → s.task = .select → s.continuousBatchArbiterHandle ≠ none →
    s.queued = []

/-- The drain waits for no request but those the scheduler has. -/
theorem draining_queued {s : AgentService C}
    (h : Reaches AgentService.step AgentService.DrainsUndisturbed .new s) :
    s.task = .draining → s.queued = [] := by
  refine h.invariant (fun s => s.task = .draining → s.queued = []) (fun htask => by cases htask)
    fun s input hreach hinv hguard hdraining => ?_
  generalize hs' : s.step input = s' at hdraining ⊢
  have hstep : AgentStep s s' input := hs' ▸ step_agentStep (allThreads_reaches hreach).taken input
  -- the tasks other steps end in are not the drain
  have hother : ∀ {task : ArbiterTask C} {P : Prop}, s'.task = task →
      (task = .select ∨ task = .spawning ∨ task = .ended) → P := by
    intro task P htask hcases
    rw [hdraining] at htask
    rcases hcases with rfl | rfl | rfl <;> cases htask
  cases hstep with
  | unchanged hreq htask =>
    rw [hreq.queued]
    exact hinv (htask.symm.trans hdraining)
  | moved hreq _ _ _ hstarts _ =>
    obtain ⟨htask, hhandle, hinput⟩ := hstarts hdraining
    rw [hreq.queued]
    cases input with
    | request _ => exact absurd hinput id
    | _ => exact hguard hinput htask hhandle
  | queued _ htask _ _ _ => exact absurd (htask.symm.trans hdraining) hguard
  | forwarded _ _ _ _ htask _ _ _ => exact hother htask (Or.inl rfl)
  | dropped _ _ _ htask _ _ _ => exact hother htask (Or.inl rfl)
  | taken _ _ _ htask _ _ _ =>
    rw [hdraining] at htask
    cases htask
  | reset _ htask _ _ _ _ => exact hother htask (Or.inr (Or.inl rfl))
  | spawned _ htask _ _ _ _ => exact hother htask (Or.inl rfl)
  | called _ _ htask hqueued _ _ =>
    rw [hqueued]
    exact hinv (htask.symm.trans hdraining)
  | calledJoining _ _ _ htask _ _ _ =>
    rw [hdraining] at htask
    cases htask
  | ended _ _ _ htask _ _ _ => exact hother htask (Or.inr (Or.inr rfl))

theorem drained_leaves {s : AgentService C} (htask : s.task = .draining)
    (hslots : s.slotsProcessing ≤ 0) : (s.step .drained).task ≠ .draining := by
  have hstep : s.step .drained = s.shutdownArbiterHandle false := by
    simp only [AgentService.step, htask]
    rw [if_neg fun h => absurd h.1 (Int.not_lt.mpr hslots)]
  rw [hstep]
  unfold AgentService.shutdownArbiterHandle AgentService.applyAfterShutdown
  intro h
  split at h
  · rw [if_neg (by simp)] at h
    split at h <;> cases h
  · cases h

/-- **The drain cannot wait on itself.**  In every run in which no request waits for the arbiter
when a drain starts and none arrives during one, a draining arbiter has no request in its channels,
the counter counts forwarded requests only, and the drain ends when the scheduler is done with
them. -/
theorem drain_countsForwarded {s : AgentService C}
    (h : Reaches AgentService.step AgentService.DrainsUndisturbed .new s)
    (hdraining : s.task = .draining) :
    s.queued = [] ∧ s.slotsProcessing ≤ s.forwardedSlotGuards ∧
      (s.forwardedSlotGuards = 0 → (s.step .drained).task ≠ .draining) := by
  have hqueued := draining_queued h hdraining
  have hle : s.slotsProcessing ≤ s.forwardedSlotGuards := by
    have hdrift := slotDrift_nonneg h
    unfold AgentService.slotDrift AgentService.slotGuards at hdrift
    rw [hqueued, hdraining] at hdrift
    simp only [List.length_nil, ArbiterTask.slotGuards] at hdrift
    omega
  refine ⟨hqueued, hle, fun hnone => drained_leaves hdraining ?_⟩
  rw [hnone] at hle
  exact hle

/-- The state changes while the scheduler works on a forwarded prompt. -/
def drainingPrompt : AgentService Unit :=
  AgentService.new.run (applySmallContext ++ [.request queuedPrompt, .receive,
    .reconciledStateChanged none])

theorem drain_countsForwarded_forwardedPrompt :
    (drainingPrompt.queued = [] ∧ drainingPrompt.slotsProcessing ≤
      drainingPrompt.forwardedSlotGuards ∧
      (drainingPrompt.forwardedSlotGuards = 0 →
        (drainingPrompt.step .drained).task ≠ .draining)) ∧
    drainingPrompt.slotsProcessing = 1 ∧ drainingPrompt.forwardedSlotGuards = 1 := by
  refine ⟨drain_countsForwarded ?_ rfl, by decide, by decide⟩
  refine Reaches.along _ ⟨fun _ _ h => absurd rfl h, fun h => absurd h id, fun h => absurd h id,
    fun h => (by cases h), fun h => absurd h id, fun _ _ _ => rfl, trivial⟩ .start

/-- The state changes before the arbiter has read a prompt from its channel. -/
def drainingUnread : AgentService Unit :=
  AgentService.new.run (applySmallContext ++ [.request queuedPrompt, .reconciledStateChanged none])

/-- The drain waits for a prompt that nobody reads: the only slot belongs to a request in the
channels of the arbiter, and neither the drain nor the arbiter can make a step. -/
theorem drain_waitsOnItself :
    drainingUnread.slotsProcessing = 1 ∧ drainingUnread.queued = [queuedPrompt] ∧
    drainingUnread.forwardedSlotGuards = 0 ∧ drainingUnread.step .drained = drainingUnread ∧
    drainingUnread.step .receive = drainingUnread ∧
    ¬ ∀ s : AgentService Unit, Reaches AgentService.step (fun _ _ => True) .new s →
      s.task = .draining → s.slotsProcessing ≤ s.forwardedSlotGuards := by
  refine ⟨by decide, by decide, by decide, rfl, rfl, fun hforwarded => ?_⟩
  have h := hforwarded drainingUnread (Reaches.runs _ (fun _ _ _ => trivial) .start) rfl
  exact absurd h (by decide)

end Paddler
