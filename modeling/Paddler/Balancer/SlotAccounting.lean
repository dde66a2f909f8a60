import Mathlib.Data.List.Perm.Basic
import Paddler.Balancer.AgentControllerPool
import Paddler.Library.VecUpdate

/-!
# The slot counters of the balancer

`slots_processing` of a controller goes up with every claim and down with every dropped guard;
status updates leave it alone.  So for as long as the controller lives it differs from the number of
its live guards by what its agent reported when it registered.

* `SlotsStep` — everything a step can do to counters and guards; `step_slotsStep` — inversion.
* `SlotsInv` — the counter is the reported number plus the live guards.
* `slotsProcessing_iff_registeredIdle` — **the counter is right if and only if the agent registered
  without any slot in use.**
-/

set_option autoImplicit false

namespace Paddler

open Run VecUpdate

/-- The number of live guards of a controller. -/
def Balancer.slotGuardsOf (b : Balancer) (arc : Nat) : Nat := b.slotGuards.count arc

/-! ## One step -/

/-- What a step can do to the counters and the guards. -/
inductive SlotsStep (b b' : Balancer) : Prop where
  | unchanged : b'.agentControllers = b.agentControllers → b'.slotGuards = b.slotGuards →
      SlotsStep b b'
  | registered {agentId : String} {params : RegisterAgentParams} :
      b'.agentControllers =
        b.agentControllers ++ [AgentController.fromRegisterAgentParams agentId params] →
      b'.slotGuards = b.slotGuards → SlotsStep b b'
  | updated {arc : Nat} {controller controller' : AgentController} :
      b.agentControllers[arc]? = some controller →
      controller'.slotsProcessing = controller.slotsProcessing →
      controller'.registeredWith = controller.registeredWith →
      b'.agentControllers = b.agentControllers.set arc controller' →
      b'.slotGuards = b.slotGuards → SlotsStep b b'
  | claimed {arc : Nat} {controller : AgentController} :
      b.agentControllers[arc]? = some controller →
      b'.agentControllers = b.agentControllers.set arc
        { controller with slotsProcessing := controller.slotsProcessing + 1 } →
      b'.slotGuards = b.slotGuards ++ [arc] → SlotsStep b b'
  | released {guard arc : Nat} :
      b.slotGuards[guard]? = some arc →
      b'.agentControllers = b.agentControllers.modify arc (fun controller =>
        { controller with slotsProcessing := controller.slotsProcessing - 1 }) →
      b'.slotGuards = b.slotGuards.eraseIdx guard → SlotsStep b b'

theorem updateFromSnapshot_keeps (ratesDiffer : UInt64 → UInt64 → Bool) (self : AgentController)
    (snapshot : SlotAggregatedStatusSnapshot) :
    (self.updateFromSlotAggregatedStatusSnapshot ratesDiffer snapshot).2.slotsProcessing =
        self.slotsProcessing ∧
      (self.updateFromSlotAggregatedStatusSnapshot ratesDiffer snapshot).2.registeredWith =
        self.registeredWith := by
  unfold AgentController.updateFromSlotAggregatedStatusSnapshot
  split <;> exact ⟨rfl, rfl⟩

theorem updateAgentStatus_slotsStep (ratesDiffer : UInt64 → UInt64 → Bool) (b : Balancer)
    (agentId : String) (snapshot : SlotAggregatedStatusSnapshot) :
    SlotsStep b (b.updateAgentStatus ratesDiffer agentId snapshot) := by
  unfold Balancer.updateAgentStatus
  split
  · exact .unchanged rfl rfl
  · split
    · exact .unchanged rfl rfl
    · rename_i controller hcontroller
      obtain ⟨hslots, hregistered⟩ := updateFromSnapshot_keeps ratesDiffer controller snapshot
      exact .updated hcontroller hslots hregistered rfl rfl

/-- A claim that succeeds found the counter as the scan had read it. -/
theorem tryClaim_some {b b' : Balancer} {candidate : DispatchCandidate}
    (h : b.tryClaim candidate = some b') :
    ∃ controller, b.agentControllers[candidate.agentController]? = some controller ∧
      b'.agentControllers = b.agentControllers.set candidate.agentController
        { controller with slotsProcessing := controller.slotsProcessing + 1 } ∧
      b'.slotGuards = b.slotGuards ++ [candidate.agentController] := by
  unfold Balancer.tryClaim at h
  split at h
  · cases h
  · rename_i controller hcontroller
    split at h
    · rename_i slotsProcessing hswap
      cases h
      unfold compareAndSwap at hswap
      split at hswap
      · rename_i hread
        cases hswap
        exact ⟨controller, hcontroller, by rw [hread], rfl⟩
      · cases hswap
    · cases h

theorem dropSlotGuard_slotsStep (b : Balancer) (guard : Nat) :
    SlotsStep b (b.dropSlotGuard guard) := by
  unfold Balancer.dropSlotGuard
  split
  · exact .unchanged rfl rfl
  · rename_i arc hguard
    exact .released hguard rfl rfl

/-- **Inversion.** -/
theorem step_slotsStep (ratesDiffer : UInt64 → UInt64 → Bool) (b : Balancer)
    (input : BalancerInput) :
    SlotsStep b (b.step ratesDiffer input) := by
  cases input with
  | connect agentId => exact .unchanged rfl rfl
  | registerAgent socket params =>
    simp only [Balancer.step]
    split
    · exact .registered rfl rfl
    · exact .unchanged rfl rfl
  | updateAgentStatus socket snapshot =>
    simp only [Balancer.step]
    split
    · exact updateAgentStatus_slotsStep ratesDiffer b _ snapshot
    · exact .unchanged rfl rfl
  | dropContext socket =>
    simp only [Balancer.step]
    split <;> exact .unchanged rfl rfl
  | takeLeastBusyAgentController => exact .unchanged rfl rfl
  | visit caller agentId =>
    simp only [Balancer.step]
    split
    · split <;> exact .unchanged rfl rfl
    · exact .unchanged rfl rfl
  | claim caller =>
    simp only [Balancer.step]
    split
    · rename_i candidate hcaller
      split
      · rename_i claimed hclaim
        obtain ⟨controller, hcontroller, hcontrollers, hguards⟩ := tryClaim_some hclaim
        exact .claimed hcontroller hcontrollers hguards
      · exact .unchanged rfl rfl
    · exact .unchanged rfl rfl
    · exact .unchanged rfl rfl
  | dropSlotGuard guard => exact dropSlotGuard_slotsStep b guard

/-! ## Whole runs -/

/-- Every counter is what its agent reported at first plus the live guards. -/
structure SlotsInv (b : Balancer) : Prop where
  counted : ∀ (arc : Nat) (controller : AgentController),
    b.agentControllers[arc]? = some controller →
    controller.slotsProcessing = controller.registeredWith.slotsProcessing + b.slotGuardsOf arc
  live : ∀ arc ∈ b.slotGuards, arc < b.agentControllers.length

theorem slotGuardsOf_congr {b b' : Balancer} (hguards : b'.slotGuards = b.slotGuards) (arc : Nat) :
    b'.slotGuardsOf arc = b.slotGuardsOf arc := by
  unfold Balancer.slotGuardsOf
  rw [hguards]

/-- One entry is written, with what the guards of that controller become. -/
theorem SlotsInv.written {b b' : Balancer} (h : SlotsInv b) {arc : Nat}
    {controller controller' : AgentController} (hget : b.agentControllers[arc]? = some controller)
    (hcontrollers : b'.agentControllers = b.agentControllers.set arc controller')
    (hregistered : controller'.registeredWith = controller.registeredWith)
    (hslots : controller'.slotsProcessing - b'.slotGuardsOf arc =
      controller.slotsProcessing - b.slotGuardsOf arc)
    (hothers : ∀ other, other ≠ arc → b'.slotGuardsOf other = b.slotGuardsOf other)
    (hlive : ∀ other ∈ b'.slotGuards, other = arc ∨ other ∈ b.slotGuards) : SlotsInv b' := by
  have hlt : arc < b.agentControllers.length := (List.getElem?_eq_some_iff.mp hget).1
  refine ⟨fun other c hc => ?_, fun other hother => ?_⟩
  · rw [hcontrollers] at hc
    by_cases heq : other = arc
    · subst heq
      rw [List.getElem?_set_self hlt] at hc
      cases hc
      have hcounted := h.counted other controller hget
      rw [hregistered]
      omega
    · rw [List.getElem?_set_ne (Ne.symm heq)] at hc
      rw [hothers other heq]
      exact h.counted other c hc
  · rw [hcontrollers, List.length_set]
    rcases hlive other hother with rfl | hother
    · exact hlt
    · exact h.live other hother

/-- A new controller has the counter it was registered with, and no guard can point to it yet. -/
theorem SlotsInv.registered {b b' : Balancer} (h : SlotsInv b) {agentId : String}
    {params : RegisterAgentParams}
    (hcontrollers : b'.agentControllers =
      b.agentControllers ++ [AgentController.fromRegisterAgentParams agentId params])
    (hguards : b'.slotGuards = b.slotGuards) : SlotsInv b' := by
  refine ⟨fun arc controller hget => ?_, fun arc harc => ?_⟩
  · rw [hcontrollers] at hget
    rw [slotGuardsOf_congr hguards]
    rcases getElem?_push_cases hget with hget | ⟨harc, rfl⟩
    · exact h.counted arc controller hget
    · have hnone : b.slotGuardsOf arc = 0 := by
        refine List.count_eq_zero.mpr fun hmem => ?_
        exact absurd (h.live arc hmem) (by omega)
      rw [hnone]
      exact (Int.add_zero _).symm
  · rw [hguards] at harc
    rw [hcontrollers, List.length_append]
    exact Nat.lt_add_right _ (h.live arc harc)

theorem SlotsInv.released {b b' : Balancer} (h : SlotsInv b) {guard arc : Nat}
    (hget : b.slotGuards[guard]? = some arc)
    (hcontrollers : b'.agentControllers = b.agentControllers.modify arc (fun controller =>
      { controller with slotsProcessing := controller.slotsProcessing - 1 }))
    (hguards : b'.slotGuards = b.slotGuards.eraseIdx guard) : SlotsInv b' := by
  obtain ⟨hlt, harc⟩ := List.getElem?_eq_some_iff.mp hget
  have hperm : List.Perm (arc :: b'.slotGuards) b.slotGuards := by
    rw [hguards, ← harc]
    exact List.getElem_cons_eraseIdx_perm hlt
  have hlive : arc < b.agentControllers.length :=
    h.live arc (hperm.mem_iff.mp (List.mem_cons_self ..))
  have hcontroller := List.getElem?_eq_getElem hlive
  have hset : b'.agentControllers = b.agentControllers.set arc { b.agentControllers[arc] with
      slotsProcessing := b.agentControllers[arc].slotsProcessing - 1 } := by
    rw [hcontrollers, List.modify_eq_set_getElem?, hcontroller]
    rfl
  refine h.written hcontroller hset rfl ?_ (fun other hne => ?_) fun other hother =>
    Or.inr (hperm.mem_iff.mp (List.mem_cons_of_mem _ hother))
  · have hcount := hperm.count_eq arc
    simp only [List.count_cons_self] at hcount
    simp only [Balancer.slotGuardsOf]
    omega
  · have hcount := hperm.count_eq other
    rw [List.count_cons_of_ne (Ne.symm hne)] at hcount
    exact hcount

/-- **A step keeps the counters in line.** -/
theorem SlotsInv.step {b b' : Balancer} (h : SlotsInv b) (hstep : SlotsStep b b') :
    SlotsInv b' := by
  cases hstep with
  | unchanged hcontrollers hguards =>
    refine ⟨fun arc controller hget => ?_, fun arc harc => ?_⟩
    · rw [hcontrollers] at hget
      rw [slotGuardsOf_congr hguards]
      exact h.counted arc controller hget
    · rw [hguards] at harc
      rw [hcontrollers]
      exact h.live arc harc
  | registered hcontrollers hguards => exact h.registered hcontrollers hguards
  | updated hget hslots hregistered hcontrollers hguards =>
    exact h.written hget hcontrollers hregistered (by rw [hslots, slotGuardsOf_congr hguards])
      (fun other _ => slotGuardsOf_congr hguards other) fun other hother =>
        Or.inr (hguards ▸ hother)
  | claimed hget hcontrollers hguards =>
    refine h.written hget hcontrollers rfl ?_ (fun other hne => ?_) fun other hother => ?_
    · simp only [Balancer.slotGuardsOf, hguards, List.count_append, List.count_singleton_self]
      omega
    · simp [Balancer.slotGuardsOf, hguards, Ne.symm hne]
    · rw [hguards] at hother
      rcases List.mem_append.mp hother with hother | hother
      · exact Or.inr hother
      · exact Or.inl (List.mem_singleton.mp hother)
  | released hget hcontrollers hguards => exact h.released hget hcontrollers hguards

theorem slotsInv_reaches {ratesDiffer : UInt64 → UInt64 → Bool}
    {guard : Balancer → BalancerInput → Prop} {b : Balancer}
    (h : Reaches (Balancer.step ratesDiffer) guard .new b) : SlotsInv b := by
  refine h.invariant SlotsInv ⟨fun _ _ hget => (by cases hget), fun _ harc => (by cases harc)⟩
    fun b input _ hinv _ => hinv.step (step_slotsStep ratesDiffer b input)

/-- What a controller promises about its slots: the counter is the number of live guards, so it is
zero when all dispatched requests ended, and a scan finds capacity as long as fewer than
`slots_total` requests are dispatched. -/
structure SlotsAccounted (b : Balancer) (arc : Nat) (controller : AgentController) : Prop where
  counted : controller.slotsProcessing = b.slotGuardsOf arc
  idle : b.slotGuardsOf arc = 0 → controller.slotsProcessing = 0
  usable : controller.hasCapacity = true ↔ (b.slotGuardsOf arc : Int) < controller.slotsTotal

/-- **The slot counter of the balancer.**  In every state of every run, and for every controller in
or out of the pool, the counter is right if and only if the agent reported no slot in use when it
registered. -/
theorem slotsProcessing_iff_registeredIdle {ratesDiffer : UInt64 → UInt64 → Bool} {b : Balancer}
    (h : Reaches (Balancer.step ratesDiffer) (fun _ _ => True) .new b) {arc : Nat}
    {controller : AgentController} (hget : b.agentControllers[arc]? = some controller) :
    SlotsAccounted b arc controller ↔ controller.registeredWith.slotsProcessing = 0 := by
  have hcounted := (slotsInv_reaches h).counted arc controller hget
  constructor
  · intro haccounted
    have := haccounted.counted
    omega
  · intro hidle
    refine ⟨by omega, fun hnone => by omega, ?_⟩
    unfold AgentController.hasCapacity
    rw [hcounted, hidle]
    simp

/-- A status with `slotsProcessing` of four slots in use. -/
def fourSlots (slotsProcessing : Int) : SlotAggregatedStatusSnapshot where
  desiredSlotsTotal := 4
  downloadCurrent := 0
  downloadFilename := none
  downloadIndeterminate := false
  downloadTotal := 0
  issues := ∅
  modelPath := some "model.gguf"
  slotsProcessing := slotsProcessing
  slotsTotal := 4
  stateApplicationStatus := .applied
  tokensPerSecond := 0
  usesChatTemplateOverride := false
  version := 0

/-- An agent connects and registers with `slotsProcessing` slots in use. -/
def registering (agentId : String) (socket : Nat) (slotsProcessing : Int) : List BalancerInput :=
  [.connect agentId, .registerAgent socket ⟨none, fourSlots slotsProcessing⟩]

/-- A request is dispatched to the agent. -/
def dispatching (agentId : String) : List BalancerInput :=
  [.takeLeastBusyAgentController, .visit 0 agentId, .claim 0]

/-- An idle agent registered and got a request. -/
def idleRegistered : Balancer :=
  Balancer.new.run (fun _ _ => false) (registering "agent" 0 0 ++ dispatching "agent")

theorem slotsProcessing_iff_registeredIdle_dispatched :
    ∃ controller, idleRegistered.agentControllers[0]? = some controller ∧
      controller.slotsProcessing = 1 ∧ idleRegistered.slotGuardsOf 0 = 1 ∧
      SlotsAccounted idleRegistered 0 controller := by
  refine ⟨_, rfl, by decide, by decide, ?_⟩
  exact (slotsProcessing_iff_registeredIdle (Reaches.runs _ (fun _ _ _ => trivial) .start) rfl).mpr
    (by decide)

/-- An agent lost its connection while it worked on a request, and registered again before it was
done with it.  The request ends with the old controller. -/
def registeredAgain : Balancer :=
  Balancer.new.run (fun _ _ => false) (registering "agent" 0 0 ++ dispatching "agent" ++
    [.dropContext 0] ++ registering "agent" 1 1 ++ [.dropSlotGuard 0])

/-- Three more requests are dispatched to the agent. -/
def registeredAgainFull : Balancer :=
  registeredAgain.run (fun _ _ => false)
    (dispatching "agent" ++ dispatching "agent" ++ dispatching "agent")

/-- The counter of the new controller starts at one and nothing ever takes it down: no guard is
left, and three requests fill an agent with four slots. -/
theorem slotsProcessing_seeded :
    registeredAgain.agentControllerPool.getAgentController "agent" = some 1 ∧
    registeredAgain.slotGuards = [] ∧
    registeredAgain.agentControllers.map (·.slotsProcessing) = [0, 1] ∧
    registeredAgainFull.slotGuards = [1, 1, 1] ∧
    registeredAgainFull.agentControllers.map (·.hasCapacity) = [true, false] ∧
    ¬ ∀ b : Balancer, Reaches (Balancer.step (fun _ _ => false)) (fun _ _ => True) .new b →
      ∀ (arc : Nat) (controller : AgentController), b.agentControllers[arc]? = some controller →
        controller.slotsProcessing = b.slotGuardsOf arc := by
  refine ⟨by decide, by decide, by decide, by decide, by decide, fun hcounts => ?_⟩
  have h := hcounts registeredAgain (Reaches.runs _ (fun _ _ _ => trivial) .start) 1 _ rfl
  exact absurd h (by decide)

end Paddler
