import Paddler.Agent.LlamaCppArbiterService
import Paddler.Agent.SlotAggregatedStatus

/-!
# What the agent reports while it applies its state

`slots_total` of `slot_aggregated_status.rs`, next to the arbiter service: `reset` sets it to zero,
and `ContinuousBatchArbiter::spawn` counts it up to `desired_slots_total` when the new scheduler
runs.  `statesRead` and `builtFrom` are history: how many states the service has read from the
holder, and which of them the present handle was built from.

* `ReconciledAgent.step` — a step of the arbiter service, with the slots it reports.
* `ApplicationInv` — what holds at each place of the arbiter's task; `applicationInv_reaches`.
* `applicationState_consistent` — **the total of slots follows the handle, `Applied` the state read
  last, and a failed state is tried again, as long as no scheduler fails to shut down.**
* `slotsTotal_stale` — after a failed shutdown the slots of the old scheduler are still reported.
-/

set_option autoImplicit false

namespace Paddler

open Run

variable {C : Type}

/-! ## The agent and its slots -/

/-- The arbiter service with the total of slots it reports. -/
structure ReconciledAgent (C : Type) where
  service : AgentService C
  desiredSlotsTotal : Int
  desiredSlotsTotal_le : desiredSlotsTotal ≤ i32Max
  slotsTotal : Int
  statesRead : Nat
  builtFrom : Nat

namespace ReconciledAgent

/-- `increment_total_slots`, once for each index below `slots`. -/
def incrementTotalSlots (slotsTotal : Int) : Nat → Int
  | 0 => slotsTotal
  | slots + 1 => wrappingI32 (incrementTotalSlots slotsTotal slots + 1)

/-- The result of `spawn`: `u32::try_from(desired_slots_total)` fails for a negative total. -/
def spawn (self : ReconciledAgent C) (outcome : SpawnOutcome C) : SpawnOutcome C :=
  match outcome with
  | .ready context => if self.desiredSlotsTotal < 0 then .failed else .ready context
  | .cancelled => .cancelled
  | .failed => .failed

/-- A fresh agent that is to have `desiredSlotsTotal` slots. -/
def new (desiredSlotsTotal : Int) (h : desiredSlotsTotal ≤ i32Max) : ReconciledAgent C :=
  { service := .new
    desiredSlotsTotal := desiredSlotsTotal
    desiredSlotsTotal_le := h
    slotsTotal := 0
    statesRead := 0
    builtFrom := 0 }

/-- One step. -/
def step (self : ReconciledAgent C) : AgentInput C → ReconciledAgent C
  | .reconciledStateChanged agentApplicableState =>
    match self.service.task with
    | .select =>
      { self with
        service := self.service.step (.reconciledStateChanged agentApplicableState)
        statesRead := self.statesRead + 1 }
    | _ => self
  | .reset =>
    match self.service.task with
    | .resetting => { self with service := self.service.step .reset, slotsTotal := 0 }
    | _ => self
  | .spawned outcome =>
    match self.service.task, self.service.agentApplicableState.bind (·.modelPath),
        self.spawn outcome with
    | .spawning, some _, .ready context =>
      { self with
        service := self.service.step (.spawned (.ready context))
        slotsTotal := incrementTotalSlots self.slotsTotal self.desiredSlotsTotal.toNat
        builtFrom := self.statesRead }
    | _, _, outcome => { self with service := self.service.step (.spawned outcome) }
  | input => { self with service := self.service.step input }

end ReconciledAgent

/-! ## Places of the task -/

/-- Where the arbiter's task is, without the thread it waits for. -/
inductive ArbiterPhase where
  | select
  | draining
  | joining (exiting : Bool)
  | resetting
  | spawning
  | ended
  deriving DecidableEq, Repr

/-- The place of the task. -/
def ArbiterTask.phase : ArbiterTask C → ArbiterPhase
  | .select => .select
  | .draining => .draining
  | .joining _ exiting => .joining exiting
  | .resetting => .resetting
  | .spawning => .spawning
  | .ended => .ended

/-- What the application of the state depends on. -/
structure ApplicationView where
  phase : ArbiterPhase
  hasHandle : Bool
  agentApplicableState : Option AgentApplicableState
  stateApplicationStatus : AgentStateApplicationStatus
  shutdown : Bool
  deriving DecidableEq

/-- The view of the service. -/
def AgentService.view (self : AgentService C) : ApplicationView :=
  { phase := self.task.phase
    hasHandle := self.continuousBatchArbiterHandle.isSome
    agentApplicableState := self.agentApplicableState
    stateApplicationStatus := self.stateApplicationStatus
    shutdown := self.shutdown }

namespace ApplicationView

/-- The end of `apply_state`. -/
def applied (v : ApplicationView) : ApplicationView :=
  { v with phase := .select, stateApplicationStatus := .applied }

/-- `apply_state` after the old scheduler is gone. -/
def applyAfterShutdown (v : ApplicationView) : ApplicationView :=
  match v.agentApplicableState with
  | none => v.applied
  | some _ => { v with phase := .resetting }

def shutdownArbiterHandle (v : ApplicationView) (exiting : Bool) : ApplicationView :=
  if v.hasHandle then { v with hasHandle := false, phase := .joining exiting }
  else if exiting then { v with phase := .ended }
  else v.applyAfterShutdown

def applyState (v : ApplicationView) : ApplicationView :=
  if v.hasHandle then { v with phase := .draining } else v.shutdownArbiterHandle false

end ApplicationView

/-- **Everything a step does to the application of the state.** -/
inductive ApplicationStep (v : ApplicationView) : AgentInput C → ApplicationView → Prop where
  | unchanged {input : AgentInput C} : ApplicationStep v input v
  | retried : v.phase = .select → v.stateApplicationStatus.shouldTryToApply = true →
      ApplicationStep v .tick
        { v with stateApplicationStatus := v.stateApplicationStatus.retrying }.applyState
  | read {agentApplicableState : Option AgentApplicableState} : v.phase = .select →
      ApplicationStep v (.reconciledStateChanged agentApplicableState)
        { v with
          agentApplicableState := agentApplicableState
          stateApplicationStatus := .fresh }.applyState
  | drained : v.phase = .draining → ApplicationStep v .drained (v.shutdownArbiterHandle false)
  | joined : v.phase = .joining false → ApplicationStep v (.joined true) v.applyAfterShutdown
  | joinFailed : v.phase = .joining false →
      ApplicationStep v (.joined false) { v with phase := .select }
  | joinedLast {ok : Bool} : v.phase = .joining true →
      ApplicationStep v (.joined ok) { v with phase := .ended }
  | reset : v.phase = .resetting → ApplicationStep v .reset { v with phase := .spawning }
  | spawned {context : ContinuousBatchSchedulerContext C} : v.phase = .spawning →
      v.agentApplicableState.bind (·.modelPath) ≠ none →
      ApplicationStep v (.spawned (.ready context)) { v.applied with hasHandle := true }
  | notSpawned {outcome : SpawnOutcome C} : v.phase = .spawning →
      v.agentApplicableState.bind (·.modelPath) = none ∨ outcome = .cancelled →
      ApplicationStep v (.spawned outcome) v.applied
  | spawnFailed : v.phase = .spawning → v.agentApplicableState.bind (·.modelPath) ≠ none →
      ApplicationStep v (.spawned .failed) { v with phase := .select }
  | cancelled : ApplicationStep v .cancel { v with shutdown := true }
  | exited : v.phase = .select → v.shutdown = true →
      ApplicationStep v .exit (v.shutdownArbiterHandle true)

/-! ## The service, seen this way -/

namespace AgentService

variable {s : AgentService C}

theorem view_applyAfterShutdown : s.applyAfterShutdown.view = s.view.applyAfterShutdown := by
  unfold applyAfterShutdown ApplicationView.applyAfterShutdown
  cases hstate : s.agentApplicableState <;> simp [view, applied, ApplicationView.applied, hstate,
    ArbiterTask.phase]

theorem view_shutdownArbiterHandle (exiting : Bool) :
    (s.shutdownArbiterHandle exiting).view = s.view.shutdownArbiterHandle exiting := by
  unfold shutdownArbiterHandle ApplicationView.shutdownArbiterHandle
  cases hhandle : s.continuousBatchArbiterHandle with
  | none =>
    have hview : s.view.hasHandle = false := by simp [view, hhandle]
    rw [hview]
    cases exiting
    · exact view_applyAfterShutdown
    · simp [view, endService, releaseSlots, ArbiterTask.phase, hhandle]
  | some handle => simp [view, hhandle, ArbiterTask.phase]

theorem view_applyState : s.applyState.view = s.view.applyState := by
  unfold applyState ApplicationView.applyState
  cases hhandle : s.continuousBatchArbiterHandle with
  | none =>
    have hview : s.view.hasHandle = false := by simp [view, hhandle]
    rw [hview]
    exact view_shutdownArbiterHandle false
  | some handle => simp [view, hhandle, ArbiterTask.phase]

theorem view_forwardCommand (queued : QueuedRequest) : (s.forwardCommand queued).view = s.view := by
  unfold forwardCommand
  cases hhandle : s.continuousBatchArbiterHandle with
  | none => simp [view, releaseSlots, hhandle]
  | some handle =>
    dsimp only
    split <;> simp [view, releaseSlots, hhandle]

theorem view_recvRequest {received : AgentService C} {queued : QueuedRequest}
    (h : s.recvRequest = some (queued, received)) : received.view = s.view := by
  unfold recvRequest at h
  split at h <;> cases h <;> rfl

theorem view_generateResponses (queued : QueuedRequest) :
    (s.generateResponses queued).view = s.view := by
  unfold generateResponses
  split
  · rfl
  · split <;> rfl

end AgentService

theorem AgentService.view_phase {s : AgentService C} {task : ArbiterTask C} (h : s.task = task) :
    s.view.phase = task.phase :=
  congrArg ArbiterTask.phase h

/-- Inversion of a step. -/
theorem step_applicationStep (s : AgentService C) (input : AgentInput C) :
    ApplicationStep s.view input (s.step input).view := by
  cases input with
  | request queued =>
    have hview := AgentService.view_generateResponses (s := s) queued
    simp only [AgentService.step, hview]
    exact .unchanged
  | receive =>
    simp only [AgentService.step]
    split
    · rename_i queued received _ hreceived
      rw [AgentService.view_forwardCommand, AgentService.view_recvRequest hreceived]
      exact .unchanged
    · exact .unchanged
  | tick =>
    simp only [AgentService.step]
    split
    · rename_i htask
      split
      · rename_i htry
        rw [AgentService.view_applyState]
        exact .retried (AgentService.view_phase htask) htry
      · exact .unchanged
    · exact .unchanged
  | reconciledStateChanged agentApplicableState =>
    simp only [AgentService.step]
    split
    · rename_i htask
      rw [AgentService.view_applyState]
      exact .read (AgentService.view_phase htask)
    · exact .unchanged
  | drained =>
    simp only [AgentService.step]
    split
    · rename_i htask
      split
      · exact .unchanged
      · rw [AgentService.view_shutdownArbiterHandle]
        exact .drained (AgentService.view_phase htask)
    · exact .unchanged
  | joined ok =>
    simp only [AgentService.step]
    split
    · rename_i handle exiting htask
      split
      · split
        · rename_i hexiting
          subst hexiting
          exact .joinedLast (AgentService.view_phase htask)
        · rename_i hexiting
          rw [Bool.not_eq_true] at hexiting
          subst hexiting
          have hjoining : s.view.phase = .joining false := AgentService.view_phase htask
          cases ok with
          | true =>
            rw [if_pos rfl, AgentService.view_applyAfterShutdown]
            exact .joined hjoining
          | false => exact .joinFailed hjoining
      · exact .unchanged
    · exact .unchanged
  | reset =>
    simp only [AgentService.step]
    split
    · rename_i htask
      exact .reset (AgentService.view_phase htask)
    · exact .unchanged
  | spawned outcome =>
    simp only [AgentService.step]
    split
    · rename_i state htask hstate
      have hspawning : s.view.phase = .spawning := AgentService.view_phase htask
      have hbind : s.view.agentApplicableState.bind (·.modelPath) = state.modelPath := by
        simp [AgentService.view, hstate]
      split
      · rename_i hpath
        exact .notSpawned hspawning (Or.inl (hbind.trans hpath))
      · exact .notSpawned hspawning (Or.inr rfl)
      · rename_i path hpath
        exact .spawnFailed hspawning (by rw [hbind, hpath]; exact Option.some_ne_none path)
      · rename_i path context hpath
        exact .spawned hspawning (by rw [hbind, hpath]; exact Option.some_ne_none path)
    · exact .unchanged
  | scheduler answers =>
    have hsame : (s.step (.scheduler answers)).view = s.view := by
      simp only [AgentService.step]
      split
      · rename_i handle hhandle
        simp [AgentService.view, AgentService.releaseSlots, hhandle]
      · rename_i hhandle htask
        simp [AgentService.view, AgentService.releaseSlots, hhandle, htask, ArbiterTask.phase]
      · rfl
    rw [hsame]
    exact .unchanged
  | cancel => exact .cancelled
  | exit =>
    simp only [AgentService.step]
    split
    · rename_i htask
      split
      · rename_i hshutdown
        rw [AgentService.view_shutdownArbiterHandle]
        exact .exited (AgentService.view_phase htask) hshutdown
      · exact .unchanged
    · exact .unchanged

/-! ## Invariants of the application -/

/-- What holds in every run: where the handle is, and what it was built from. -/
structure AppliedInv (statesRead builtFrom : Nat) (v : ApplicationView) : Prop where
  draining : v.phase = .draining → v.hasHandle = true
  taken : v.hasHandle = true → v.phase = .select ∨ v.phase = .draining
  built : v.stateApplicationStatus = .applied → v.hasHandle = true → builtFrom = statesRead
  tried : v.stateApplicationStatus ≠ .attemptedAndNotAppliable
  applying : v.phase = .draining ∨ v.phase = .joining false ∨ v.phase = .resetting ∨
    v.phase = .spawning → v.stateApplicationStatus ≠ .applied

/-- The total of slots at each place of the task, and that there is a state to apply. -/
structure ReportedSlotsInv (desiredSlotsTotal slotsTotal : Int) (v : ApplicationView) : Prop where
  slots : v.phase = .select ∨ v.phase = .draining →
    slotsTotal = if v.hasHandle then desiredSlotsTotal else 0
  spawning : v.phase = .spawning → slotsTotal = 0
  known : v.hasHandle = true ∨ v.phase = .joining false ∨ v.phase = .resetting ∨
    v.phase = .spawning → v.agentApplicableState ≠ none

theorem AgentStateApplicationStatus.retrying_tried (status : AgentStateApplicationStatus) :
    status.retrying ≠ .applied ∧ status.retrying ≠ .attemptedAndNotAppliable := by
  cases status <;> exact ⟨by decide, by decide⟩

section Applied

variable {statesRead builtFrom : Nat} {v v' : ApplicationView}

theorem AppliedInv.not_hasHandle (h : AppliedInv statesRead builtFrom v)
    (hselect : v.phase ≠ .select) (hdraining : v.phase ≠ .draining) : v.hasHandle = false := by
  cases hhandle : v.hasHandle with
  | false => rfl
  | true =>
    rcases h.taken hhandle with hphase | hphase
    · exact absurd hphase hselect
    · exact absurd hphase hdraining

theorem AppliedInv.applyState (happlied : v.stateApplicationStatus ≠ .applied)
    (htried : v.stateApplicationStatus ≠ .attemptedAndNotAppliable) :
    AppliedInv statesRead builtFrom v.applyState := by
  unfold ApplicationView.applyState ApplicationView.shutdownArbiterHandle
    ApplicationView.applyAfterShutdown ApplicationView.applied
  cases hhandle : v.hasHandle with
  | true => constructor <;> simp_all
  | false => cases hstate : v.agentApplicableState <;> constructor <;> simp_all

theorem AppliedInv.step {input : AgentInput C} (h : AppliedInv statesRead builtFrom v)
    (hstep : ApplicationStep v input v')
    (hready : v.phase = .spawning → v.agentApplicableState.bind (·.modelPath) ≠ none →
      ∀ context, input ≠ .spawned (.ready context)) : AppliedInv statesRead builtFrom v' := by
  have hgone := h.not_hasHandle
  obtain ⟨hdraining, htaken, hbuilt, htried, happlying⟩ := h
  cases hstep with
  | unchanged => exact ⟨hdraining, htaken, hbuilt, htried, happlying⟩
  | retried hselect htry =>
    obtain ⟨hne, hne'⟩ := v.stateApplicationStatus.retrying_tried
    exact .applyState hne hne'
  | read hselect => exact .applyState (by simp) (by simp)
  | drained hphase =>
    unfold ApplicationView.shutdownArbiterHandle
    rw [if_pos (hdraining hphase)]
    constructor <;> simp_all
  | joined hphase =>
    have hhandle := hgone (by simp [hphase]) (by simp [hphase])
    unfold ApplicationView.applyAfterShutdown ApplicationView.applied
    cases hv : v.agentApplicableState <;> constructor <;> simp_all
  | joinFailed hphase => constructor <;> simp_all
  | joinedLast hphase => constructor <;> simp_all
  | reset hphase => constructor <;> simp_all
  | spawned hphase hpath => exact absurd rfl (hready hphase hpath _)
  | notSpawned hphase hpath =>
    unfold ApplicationView.applied
    constructor <;> simp_all
  | spawnFailed hphase hpath => constructor <;> simp_all
  | cancelled => constructor <;> simp_all
  | exited hselect hshutdown =>
    unfold ApplicationView.shutdownArbiterHandle
    cases hhandle : v.hasHandle <;> constructor <;> simp_all

theorem AppliedInv.spawned (h : AppliedInv statesRead builtFrom v) :
    AppliedInv statesRead statesRead { v.applied with hasHandle := true } := by
  obtain ⟨-, -, -, -, -⟩ := h
  unfold ApplicationView.applied
  constructor <;> simp

end Applied

section Slots

variable {desiredSlotsTotal slotsTotal : Int} {statesRead builtFrom : Nat} {v v' : ApplicationView}

theorem ReportedSlotsInv.applyState
    (hslots : slotsTotal = if v.hasHandle then desiredSlotsTotal else 0)
    (hknown : v.hasHandle = true → v.agentApplicableState ≠ none) :
    ReportedSlotsInv desiredSlotsTotal slotsTotal v.applyState := by
  unfold ApplicationView.applyState ApplicationView.shutdownArbiterHandle
    ApplicationView.applyAfterShutdown ApplicationView.applied
  cases hhandle : v.hasHandle with
  | true =>
    rw [hhandle] at hslots
    have hstate := hknown hhandle
    constructor <;> simp_all
  | false =>
    rw [hhandle] at hslots
    cases hstate : v.agentApplicableState <;> constructor <;> simp_all

/-- Every step but the reset, a new scheduler, a failed shutdown, and a state that goes away under a
running scheduler. -/
theorem ReportedSlotsInv.step {input : AgentInput C}
    (h : ReportedSlotsInv desiredSlotsTotal slotsTotal v)
    (happlied : AppliedInv statesRead builtFrom v) (hstep : ApplicationStep v input v')
    (hread : input = .reconciledStateChanged none → v.hasHandle = false)
    (hreset : v.phase = .resetting → input ≠ .reset)
    (hready : v.phase = .spawning → v.agentApplicableState.bind (·.modelPath) ≠ none →
      ∀ context, input ≠ .spawned (.ready context))
    (hjoined : v.phase = .joining false → input ≠ .joined false) :
    ReportedSlotsInv desiredSlotsTotal slotsTotal v' := by
  have hgone := happlied.not_hasHandle
  obtain ⟨hslots, hspawning, hknown⟩ := h
  cases hstep with
  | unchanged => exact ⟨hslots, hspawning, hknown⟩
  | retried hselect htry =>
    exact .applyState (hslots (Or.inl hselect)) fun hhandle => hknown (Or.inl hhandle)
  | @read agentApplicableState hselect =>
    refine .applyState (hslots (Or.inl hselect)) fun hhandle hnone => ?_
    have hfalse := hread (congrArg AgentInput.reconciledStateChanged hnone)
    exact absurd (hhandle.symm.trans hfalse) (by decide)
  | drained hphase =>
    have hhandle := happlied.draining hphase
    have hstate := hknown (Or.inl hhandle)
    unfold ApplicationView.shutdownArbiterHandle
    rw [if_pos hhandle]
    constructor <;> simp_all
  | joined hphase =>
    have hhandle := hgone (by simp [hphase]) (by simp [hphase])
    have hstate := hknown (Or.inr (Or.inl hphase))
    unfold ApplicationView.applyAfterShutdown
    cases hv : v.agentApplicableState with
    | none => exact absurd hv hstate
    | some state => constructor <;> simp_all
  | joinFailed hphase => exact absurd rfl (hjoined hphase)
  | joinedLast hphase => constructor <;> simp_all
  | reset hphase => exact absurd rfl (hreset hphase)
  | spawned hphase hpath => exact absurd rfl (hready hphase hpath _)
  | notSpawned hphase hpath =>
    have hzero := hspawning hphase
    have hhandle := hgone (by simp [hphase]) (by simp [hphase])
    unfold ApplicationView.applied
    constructor <;> simp_all
  | spawnFailed hphase hpath =>
    have hzero := hspawning hphase
    have hhandle := hgone (by simp [hphase]) (by simp [hphase])
    constructor <;> simp_all
  | cancelled => constructor <;> simp_all
  | exited hselect hshutdown =>
    unfold ApplicationView.shutdownArbiterHandle
    cases hhandle : v.hasHandle <;> constructor <;> simp_all

end Slots

/-! ## Runs of the agent -/

namespace ReconciledAgent

/-- The input the service gets: the outcome of a spawn is checked first. -/
def serviceInput (s : ReconciledAgent C) : AgentInput C → AgentInput C
  | .spawned outcome => .spawned (s.spawn outcome)
  | input => input

theorem serviceInput_eq {s : ReconciledAgent C} {input input' : AgentInput C}
    (h : s.serviceInput input = input') (hspawned : ∀ outcome, input' ≠ .spawned outcome) :
    input = input' := by
  cases input with
  | spawned outcome => exact absurd h.symm (hspawned _)
  | _ => exact h

/-- **The arbiter service runs unchanged below the slots.** -/
theorem step_service (s : ReconciledAgent C) (input : AgentInput C) :
    (s.step input).service = s.service.step (s.serviceInput input) := by
  cases input with
  | reconciledStateChanged agentApplicableState =>
    cases htask : s.service.task <;> simp [step, serviceInput, AgentService.step, htask]
  | reset => cases htask : s.service.task <;> simp [step, serviceInput, AgentService.step, htask]
  | spawned outcome =>
    simp only [step, serviceInput]
    split
    · rename_i houtcome
      rw [houtcome]
    · rfl
  | _ => rfl

theorem incrementTotalSlots_zero :
    ∀ {slots : Nat}, slots ≤ i32Max → incrementTotalSlots 0 slots = slots
  | 0, _ => rfl
  | slots + 1, h => by
    unfold i32Max at h
    rw [incrementTotalSlots, incrementTotalSlots_zero (Nat.le_of_succ_le h),
      wrappingI32_of_between (by omega) (by omega)]
    rfl

theorem step_desiredSlotsTotal (s : ReconciledAgent C) (input : AgentInput C) :
    (s.step input).desiredSlotsTotal = s.desiredSlotsTotal := by
  cases input with
  | reconciledStateChanged agentApplicableState =>
    cases htask : s.service.task <;> simp [step, htask]
  | reset => cases htask : s.service.task <;> simp [step, htask]
  | spawned outcome =>
    simp only [step]
    split <;> rfl
  | _ => rfl

/-- What a step reports: only a reset and a new scheduler write the total of slots. -/
inductive ReportStep (s s' : ReconciledAgent C) : AgentInput C → Prop where
  | kept {input : AgentInput C} :
      s'.slotsTotal = s.slotsTotal → s'.statesRead = s.statesRead → s'.builtFrom = s.builtFrom →
      (s.service.view.phase = .resetting → input ≠ .reset) →
      (s.service.view.phase = .spawning →
        s.service.view.agentApplicableState.bind (·.modelPath) ≠ none →
        ∀ context, s.serviceInput input ≠ .spawned (.ready context)) →
      ReportStep s s' input
  | read {agentApplicableState : Option AgentApplicableState} :
      s.service.view.phase = .select →
      s'.slotsTotal = s.slotsTotal → s'.statesRead = s.statesRead + 1 →
      s'.service.view =
        { s.service.view with
          agentApplicableState := agentApplicableState
          stateApplicationStatus := .fresh }.applyState →
      ReportStep s s' (.reconciledStateChanged agentApplicableState)
  | reset :
      s.service.view.phase = .resetting → s'.slotsTotal = 0 → s'.statesRead = s.statesRead →
      s'.builtFrom = s.builtFrom →
      s'.service.view = { s.service.view with phase := .spawning } → ReportStep s s' .reset
  | spawned {outcome : SpawnOutcome C} :
      s.service.view.phase = .spawning → 0 ≤ s.desiredSlotsTotal →
      s'.slotsTotal = incrementTotalSlots s.slotsTotal s.desiredSlotsTotal.toNat →
      s'.statesRead = s.statesRead → s'.builtFrom = s.statesRead →
      s'.service.view = { s.service.view.applied with hasHandle := true } →
      ReportStep s s' (.spawned outcome)

theorem spawn_ready {s : ReconciledAgent C} {outcome : SpawnOutcome C}
    {context : ContinuousBatchSchedulerContext C} (h : s.spawn outcome = .ready context) :
    0 ≤ s.desiredSlotsTotal := by
  unfold spawn at h
  split at h
  · split at h
    · cases h
    · rename_i hnonneg
      exact Int.not_lt.1 hnonneg
  · cases h
  · cases h

theorem view_spawned {s : AgentService C} {context : ContinuousBatchSchedulerContext C}
    {path : String} (htask : s.task = .spawning)
    (hpath : s.agentApplicableState.bind (·.modelPath) = some path) :
    (s.step (.spawned (.ready context))).view = { s.view.applied with hasHandle := true } := by
  cases hstate : s.agentApplicableState with
  | none =>
    rw [hstate] at hpath
    cases hpath
  | some state =>
    rw [hstate, Option.bind_some] at hpath
    simp [AgentService.step, AgentService.view, AgentService.applied,
      ApplicationView.applied, htask, hstate, hpath, ArbiterTask.phase]

/-- Inversion of a step. -/
theorem step_reportStep (s : ReconciledAgent C) (input : AgentInput C) :
    ReportStep s (s.step input) input := by
  cases input with
  | reconciledStateChanged agentApplicableState =>
    simp only [step]
    split
    · rename_i htask
      refine .read (by simp [AgentService.view, htask, ArbiterTask.phase]) rfl rfl ?_
      simp only [AgentService.step, htask]
      exact AgentService.view_applyState
    · exact .kept rfl rfl rfl (by simp) (by simp [serviceInput])
  | reset =>
    simp only [step]
    split
    · rename_i htask
      refine .reset (by simp [AgentService.view, htask, ArbiterTask.phase]) rfl rfl rfl ?_
      simp [AgentService.step, AgentService.view, htask, ArbiterTask.phase]
    · rename_i hother
      refine .kept rfl rfl rfl (fun hphase => ?_) (by simp [serviceInput])
      cases htask : s.service.task <;> simp_all [AgentService.view, ArbiterTask.phase]
  | spawned outcome =>
    simp only [step]
    split
    · rename_i path context htask hpath houtcome
      exact .spawned (by simp [AgentService.view, htask, ArbiterTask.phase])
        (spawn_ready houtcome) rfl
        rfl rfl (view_spawned htask hpath)
    · rename_i hother
      refine .kept rfl rfl rfl (by simp) (fun hphase hpath context houtcome => ?_)
      simp only [serviceInput, AgentInput.spawned.injEq] at houtcome
      obtain ⟨path, hpath⟩ := Option.ne_none_iff_exists'.1 hpath
      refine hother path context ?_ hpath houtcome
      cases htask : s.service.task <;> simp_all [AgentService.view, ArbiterTask.phase]
  | _ => exact .kept rfl rfl rfl (by simp) (by simp [serviceInput])

/-- Only a failed shutdown of the scheduler, and a state that goes away under a running scheduler,
are left out. -/
def KeepsSlotsTotal (s : ReconciledAgent C) : AgentInput C → Prop
  | .joined ok => s.service.task.phase = .joining false → ok = true
  | .reconciledStateChanged agentApplicableState =>
    agentApplicableState = none → s.service.continuousBatchArbiterHandle.isSome = false
  | _ => True

/-- The invariant of every run. -/
def Applied (s : ReconciledAgent C) : Prop := AppliedInv s.statesRead s.builtFrom s.service.view

theorem Applied.step {s : ReconciledAgent C} (h : s.Applied) (input : AgentInput C) :
    (s.step input).Applied := by
  have hstep := step_applicationStep s.service (s.serviceInput input)
  rw [← step_service] at hstep
  unfold Applied at h ⊢
  cases step_reportStep s input with
  | kept _ hread hbuilt _ hready =>
    rw [hread, hbuilt]
    exact AppliedInv.step h hstep hready
  | read _ _ _ hview =>
    rw [hview]
    exact .applyState (by simp) (by simp)
  | reset _ _ hread hbuilt hview =>
    rw [hread, hbuilt]
    exact AppliedInv.step h hstep (by simp [serviceInput])
  | spawned _ _ _ hread hbuilt hview =>
    rw [hread, hbuilt, hview]
    exact AppliedInv.spawned h

theorem applied_reaches {guard : ReconciledAgent C → AgentInput C → Prop} {desiredSlotsTotal : Int}
    {hle : desiredSlotsTotal ≤ i32Max} {s : ReconciledAgent C}
    (h : Reaches step guard (new desiredSlotsTotal hle) s) : s.Applied := by
  refine h.invariant Applied ?_ fun _ input _ hs _ => hs.step input
  exact
    { draining := fun h => by cases h
      taken := fun h => by cases h
      built := fun h => by cases h
      tried := by simp [new, AgentService.new, AgentService.view]
      applying := by simp [new, AgentService.new, AgentService.view, ArbiterTask.phase] }

/-- The invariant of the runs without a failed shutdown. -/
def ReportsSlots (desiredSlotsTotal : Int) (s : ReconciledAgent C) : Prop :=
  s.desiredSlotsTotal = desiredSlotsTotal ∧
    ReportedSlotsInv desiredSlotsTotal s.slotsTotal s.service.view

theorem ReportsSlots.step {desiredSlotsTotal : Int} {s : ReconciledAgent C}
    (h : s.ReportsSlots desiredSlotsTotal) (happlied : s.Applied) {input : AgentInput C}
    (hkeeps : s.KeepsSlotsTotal input) : (s.step input).ReportsSlots desiredSlotsTotal := by
  obtain ⟨hdesired, hslots⟩ := h
  have hstep := step_applicationStep s.service (s.serviceInput input)
  rw [← step_service] at hstep
  refine ⟨(step_desiredSlotsTotal s input).trans hdesired, ?_⟩
  cases step_reportStep s input with
  | kept htotal _ _ hreset hready =>
    rw [htotal]
    refine ReportedSlotsInv.step hslots happlied hstep ?_ ?_ hready ?_
    · intro hinput
      rw [serviceInput_eq hinput (by simp)] at hkeeps
      exact hkeeps rfl
    · intro hphase hinput
      exact hreset hphase (serviceInput_eq hinput (by simp))
    · intro hphase hinput
      rw [serviceInput_eq hinput (by simp)] at hkeeps
      cases hkeeps hphase
  | @read agentApplicableState hselect htotal _ hview =>
    rw [htotal, hview]
    refine .applyState (hslots.slots (Or.inl hselect)) fun hhandle hnone => ?_
    exact absurd (hhandle.symm.trans (hkeeps hnone)) (by decide)
  | reset hphase htotal _ _ hview =>
    have hknown := hslots.known (Or.inr (Or.inr (Or.inl hphase)))
    rw [htotal, hview]
    constructor <;> simp_all
  | spawned hphase hnonneg htotal _ _ hview =>
    have hle := s.desiredSlotsTotal_le
    have hzero := hslots.spawning hphase
    have hknown := hslots.known (Or.inr (Or.inr (Or.inr hphase)))
    rw [hzero, incrementTotalSlots_zero (by omega), Int.toNat_of_nonneg hnonneg, hdesired] at htotal
    rw [htotal, hview]
    unfold ApplicationView.applied
    constructor <;> simp_all

theorem reportsSlots_reaches {desiredSlotsTotal : Int} {hle : desiredSlotsTotal ≤ i32Max}
    {s : ReconciledAgent C} (h : Reaches step KeepsSlotsTotal (new desiredSlotsTotal hle) s) :
    s.ReportsSlots desiredSlotsTotal := by
  refine h.invariant (ReportsSlots desiredSlotsTotal) ⟨rfl, ?_⟩ fun s input hs hinv hkeeps =>
    hinv.step (applied_reaches hs) hkeeps
  exact
    { slots := fun _ => rfl
      spawning := fun _ => rfl
      known := by simp [new, AgentService.new, AgentService.view, ArbiterTask.phase] }

/-! ## A failed application -/

/-- The input with which `apply_state` returns an error: the old scheduler did not shut down
cleanly, or the new one did not start. -/
def FailsApplication (s : ReconciledAgent C) : AgentInput C → Prop
  | .joined ok => ok = false ∧ ∃ handle, s.service.task = .joining handle false ∧
      handle.schedulerThread.call = .stopped
  | .spawned outcome => s.spawn outcome = .failed ∧ s.service.task = .spawning ∧
      s.service.agentApplicableState.bind (·.modelPath) ≠ none
  | _ => False

/-- At the `select!`, with a state that the next tick tries to apply. -/
def WaitsToRetry (s : ReconciledAgent C) (agentApplicableState : Option AgentApplicableState) :
    Prop :=
  s.service.task = .select ∧ s.service.agentApplicableState = agentApplicableState ∧
    s.service.stateApplicationStatus.shouldTryToApply = true

theorem shouldTryToApply_of_tried {status : AgentStateApplicationStatus}
    (happlied : status ≠ .applied) (htried : status ≠ .attemptedAndNotAppliable) :
    status.shouldTryToApply = true := by
  cases status with
  | applied => exact absurd rfl happlied
  | attemptedAndNotAppliable => exact absurd rfl htried
  | _ => rfl

theorem phase_select {s : AgentService C} : s.view.phase = .select ↔ s.task = .select := by
  cases htask : s.task <;> simp [AgentService.view, ArbiterTask.phase, htask]

/-- **A failed state waits for the next tick.** -/
theorem failed_waitsToRetry {s : ReconciledAgent C} (happlied : s.Applied) {input : AgentInput C}
    (hfails : s.FailsApplication input) :
    (s.step input).WaitsToRetry s.service.agentApplicableState := by
  cases input with
  | joined ok =>
    obtain ⟨rfl, handle, htask, hstopped⟩ := hfails
    have hphase : s.service.view.phase = .joining false := by
      simp [AgentService.view, htask, ArbiterTask.phase]
    have htry : s.service.stateApplicationStatus.shouldTryToApply = true :=
      shouldTryToApply_of_tried (happlied.applying (Or.inr (Or.inl hphase))) happlied.tried
    simpa [WaitsToRetry, step, AgentService.step, htask, hstopped] using htry
  | spawned outcome =>
    obtain ⟨hfailed, htask, hpath⟩ := hfails
    have hphase : s.service.view.phase = .spawning := by
      simp [AgentService.view, htask, ArbiterTask.phase]
    have htry : s.service.stateApplicationStatus.shouldTryToApply = true :=
      shouldTryToApply_of_tried
      (happlied.applying (Or.inr (Or.inr (Or.inr hphase)))) happlied.tried
    obtain ⟨path, hpath⟩ := Option.ne_none_iff_exists'.1 hpath
    obtain ⟨state, hstate, hpath⟩ := Option.bind_eq_some_iff.1 hpath
    simpa [WaitsToRetry, step, AgentService.step, htask, hfailed, hstate, hpath] using htry
  | _ => exact hfails.elim

/-- Only the next tick, a new state or the shutdown end the wait. -/
theorem WaitsToRetry.step {s : ReconciledAgent C}
    {agentApplicableState : Option AgentApplicableState} (h : s.WaitsToRetry agentApplicableState)
    (hshutdown : s.service.shutdown = false) {input : AgentInput C} (htick : input ≠ .tick)
    (hread : ∀ next, input ≠ .reconciledStateChanged next) :
    (s.step input).WaitsToRetry agentApplicableState := by
  obtain ⟨htask, hstate, htry⟩ := h
  have hselect := phase_select.2 htask
  have hstep := step_applicationStep s.service (s.serviceInput input)
  rw [← step_service] at hstep
  have hkept : (s.step input).service.view.phase = .select ∧
      (s.step input).service.view.agentApplicableState = s.service.view.agentApplicableState ∧
      (s.step input).service.view.stateApplicationStatus =
        s.service.view.stateApplicationStatus := by
    generalize hinput : s.serviceInput input = input' at hstep
    generalize (s.step input).service.view = v' at hstep ⊢
    cases hstep with
    | unchanged => exact ⟨hselect, rfl, rfl⟩
    | retried _ _ => exact absurd (serviceInput_eq hinput (by simp)) htick
    | read _ => exact absurd (serviceInput_eq hinput (by simp)) (hread _)
    | cancelled => exact ⟨hselect, rfl, rfl⟩
    | exited _ hcancelled => exact absurd (hcancelled.symm.trans hshutdown) (by decide)
    | drained hphase => rw [hselect] at hphase; cases hphase
    | joined hphase => rw [hselect] at hphase; cases hphase
    | joinFailed hphase => rw [hselect] at hphase; cases hphase
    | joinedLast hphase => rw [hselect] at hphase; cases hphase
    | reset hphase => rw [hselect] at hphase; cases hphase
    | spawned hphase => rw [hselect] at hphase; cases hphase
    | notSpawned hphase => rw [hselect] at hphase; cases hphase
    | spawnFailed hphase => rw [hselect] at hphase; cases hphase
  obtain ⟨hphase, hsame, hstatus⟩ := hkept
  exact ⟨phase_select.1 hphase, hsame.trans hstate,
    (congrArg AgentStateApplicationStatus.shouldTryToApply hstatus).trans htry⟩

theorem applyState_agentApplicableState (v : ApplicationView) :
    v.applyState.agentApplicableState = v.agentApplicableState := by
  unfold ApplicationView.applyState ApplicationView.shutdownArbiterHandle
    ApplicationView.applyAfterShutdown ApplicationView.applied
  cases v.hasHandle <;> cases v.agentApplicableState <;> simp

theorem step_agentApplicableState (s : ReconciledAgent C) {input : AgentInput C}
    (hread : ∀ next, input ≠ .reconciledStateChanged next) :
    (s.step input).service.agentApplicableState = s.service.agentApplicableState := by
  have hstep := step_applicationStep s.service (s.serviceInput input)
  rw [← step_service] at hstep
  show (s.step input).service.view.agentApplicableState = s.service.view.agentApplicableState
  generalize hinput : s.serviceInput input = input' at hstep
  generalize s.service.view = v at hstep ⊢
  generalize (s.step input).service.view = v' at hstep ⊢
  cases hstep with
  | read _ => exact absurd (serviceInput_eq hinput (by simp)) (hread _)
  | retried _ _ => exact applyState_agentApplicableState _
  | drained _ =>
    unfold ApplicationView.shutdownArbiterHandle ApplicationView.applyAfterShutdown
      ApplicationView.applied
    cases v.hasHandle <;> cases v.agentApplicableState <;> simp
  | joined _ =>
    unfold ApplicationView.applyAfterShutdown ApplicationView.applied
    cases v.agentApplicableState <;> simp
  | exited _ _ =>
    unfold ApplicationView.shutdownArbiterHandle
    cases v.hasHandle <;> simp
  | _ => rfl

/-! ## The application of states -/

/-- **Consistency of the application state.**  Whenever the service waits, the total of slots is the
desired one with a scheduler and zero without, in every run in which no scheduler fails to shut down
and no state goes away under a running scheduler.  In every run at all, `Applied` means that the
scheduler was built from the state read last, and a state that failed is kept and tried again by the
next tick. -/
theorem applicationState_consistent {desiredSlotsTotal : Int} (hle : desiredSlotsTotal ≤ i32Max) :
    (∀ s : ReconciledAgent C, Reaches step KeepsSlotsTotal (new desiredSlotsTotal hle) s →
      s.service.task = .select →
        s.slotsTotal = if s.service.continuousBatchArbiterHandle.isSome then desiredSlotsTotal
          else 0) ∧
      ∀ s : ReconciledAgent C, Reaches step (fun _ _ => True) (new desiredSlotsTotal hle) s →
        (s.service.stateApplicationStatus = .applied →
          s.service.continuousBatchArbiterHandle.isSome = true → s.builtFrom = s.statesRead) ∧
        (∀ input, s.FailsApplication input →
          (s.step input).WaitsToRetry s.service.agentApplicableState) ∧
        (∀ state, s.WaitsToRetry state → s.service.shutdown = false →
          s.service.stateApplicationStatus ≠ .applied ∧
          (s.step .tick).service = { s.service with
            stateApplicationStatus := s.service.stateApplicationStatus.retrying }.applyState ∧
          ∀ input, input ≠ .tick → (∀ next, input ≠ .reconciledStateChanged next) →
            (s.step input).WaitsToRetry state) ∧
        ∀ input, (∀ next, input ≠ .reconciledStateChanged next) →
          (s.step input).service.agentApplicableState = s.service.agentApplicableState := by
  refine ⟨fun s h hselect => ?_, fun s h => ⟨?_, ?_, ?_, ?_⟩⟩
  · exact (reportsSlots_reaches h).2.slots (Or.inl (phase_select.2 hselect))
  · exact (applied_reaches h).built
  · exact fun input => failed_waitsToRetry (applied_reaches h)
  · intro state hwaits hshutdown
    have hkept : ∀ input, input ≠ .tick → (∀ next, input ≠ .reconciledStateChanged next) →
        (s.step input).WaitsToRetry state := fun _ => hwaits.step hshutdown
    obtain ⟨htask, -, htry⟩ := hwaits
    refine ⟨fun happlied => ?_, ?_, hkept⟩
    · rw [happlied] at htry
      cases htry
    · simp only [step, AgentService.step, htask, htry, if_pos]
  · exact fun input => step_agentApplicableState s

theorem applicationState_consistent_applied :
    let s : ReconciledAgent Unit := applySmallContext.foldl step (new 2 (by decide))
    s.slotsTotal = (if s.service.continuousBatchArbiterHandle.isSome then 2 else 0) ∧
      s.slotsTotal = 2 ∧ s.service.stateApplicationStatus = .applied ∧
      s.builtFrom = s.statesRead := by
  intro s
  have hrun : Reaches step KeepsSlotsTotal (new 2 (by decide)) s := by
    refine Reaches.along _ ?_ .start
    exact ⟨fun h => (by cases h), trivial, trivial, trivial⟩
  have hselect : s.service.task = .select := phase_select.1 (by decide)
  have hconsistent := @applicationState_consistent Unit 2 (by decide)
  exact ⟨hconsistent.1 s hrun hselect, by decide, by decide,
    (hconsistent.2 s (hrun.weaken fun _ _ _ => trivial)).1 (by decide) (by decide)⟩

/-- A new state arrives while a scheduler runs, whose thread then fails to be joined. -/
def failedShutdown : List (AgentInput Unit) :=
  applySmallContext ++ [.reconciledStateChanged (some ⟨some "other.gguf"⟩), .drained] ++
    List.replicate 8 (.scheduler smallAnswers) ++ [.joined false]

/-- **Slots without a scheduler.**  After the failed shutdown the service waits without a scheduler
and still reports two slots. -/
theorem slotsTotal_stale :
    let s : ReconciledAgent Unit := failedShutdown.foldl step (new 2 (by decide))
    s.service.view.phase = .select ∧ s.service.shutdown = false ∧
      s.service.continuousBatchArbiterHandle.isSome = false ∧ s.slotsTotal = 2 := by
  decide

end ReconciledAgent

end Paddler
