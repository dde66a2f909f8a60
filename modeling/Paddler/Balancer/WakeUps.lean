import Paddler.Balancer.BufferedRequestManager

/-!
# Wake-ups of buffered requests

A call of `wait_for_available_agent` that awaits `changed` scans the pool again only when the watch
channel has a version it has not seen.  So whatever gives a registered agent a free slot has to send
on the channel, and has to send after the change.  Claims, dropped slot guards, removals, status
updates and registrations of new agents do.  A registration under an id that is already there
replaces the controller and returns an error before it sends.

* `Unchanged` — what a step leaves behind if it is announced and no version was sent; `quiet_step`.
* `TakeCurrent`, `WaitOk` — what scans and waiting calls know as long as nothing unseen happened.
* `wait_not_lost` — **no wake-up is lost** as long as no registered id gets another controller with
  a free slot.
-/

set_option autoImplicit false

namespace Paddler

open Run VecUpdate AssocList

/-! ## What a silent step leaves behind -/

/-- No registered agent has a free slot. -/
def Dispatch.NoneFree (s : Dispatch) : Prop :=
  ∀ (agentId : String) (arc : Nat) (controller : AgentController),
    s.entry agentId = some (arc, controller) → controller.hasCapacity = false

/-- Every change so far was sent on the watch channel. -/
structure Dispatch.Announced (s : Dispatch) : Prop where
  operations : PoolOperation.signalling ∉ s.operations
  takes : ∀ (scanned : List Reading) (candidate : DispatchCandidate),
    TakeCall.claimed scanned candidate ∉ s.takes

/-- Registered agents are as free as they were, or full, and no counter moved. -/
structure Unchanged (s s' : Dispatch) : Prop where
  entries : ∀ (agentId : String) (arc : Nat) (controller' : AgentController),
    s'.entry agentId = some (arc, controller') →
    (∃ controller, s.entry agentId = some (arc, controller) ∧
      controller'.hasCapacity = controller.hasCapacity) ∨ controller'.hasCapacity = false
  counters : ∀ (arc : Nat) (controller : AgentController),
    s.agentControllers[arc]? = some controller →
    ∃ controller', s'.agentControllers[arc]? = some controller' ∧
      controller'.slotsProcessing = controller.slotsProcessing

theorem Unchanged.noneFree {s s' : Dispatch} (h : Unchanged s s') (hnone : s.NoneFree) :
    s'.NoneFree := by
  intro agentId arc controller' hentry
  rcases h.entries agentId arc controller' hentry with ⟨controller, hbefore, hsame⟩ | hfull
  · rw [hsame]
    exact hnone agentId arc controller hbefore
  · exact hfull

theorem unchanged_of_eq {s s' : Dispatch} (hpool : s'.agentControllerPool = s.agentControllerPool)
    (hcontrollers : s'.agentControllers = s.agentControllers) : Unchanged s s' := by
  constructor
  · intro agentId arc controller' hentry
    refine Or.inl ⟨controller', ?_, rfl⟩
    unfold Dispatch.entry at hentry ⊢
    rw [hpool, hcontrollers] at hentry
    exact hentry
  · intro arc controller hget
    exact ⟨controller, hcontrollers ▸ hget, rfl⟩

theorem entry_eq_some {s : Dispatch} {agentId : String} {arc : Nat} {controller : AgentController} :
    s.entry agentId = some (arc, controller) ↔
      s.agentControllerPool.getAgentController agentId = some arc ∧
        s.agentControllers[arc]? = some controller := by
  unfold Dispatch.entry
  constructor
  · intro h
    split at h
    · cases h
    · rename_i arc' hget
      obtain ⟨controller', hcontroller, heq⟩ := Option.map_eq_some_iff.mp h
      cases heq
      exact ⟨hget, hcontroller⟩
  · rintro ⟨hget, hcontroller⟩
    rw [hget]
    simp [hcontroller]

/-- A status update without meaningful changes leaves `slots_total` alone. -/
theorem slotsTotal_of_noMeaningfulChanges {ratesDiffer : UInt64 → UInt64 → Bool}
    {self : AgentController} {snapshot : SlotAggregatedStatusSnapshot}
    (h : (self.updateFromSlotAggregatedStatusSnapshot ratesDiffer snapshot).1 =
      .noMeaningfulChanges) :
    (self.updateFromSlotAggregatedStatusSnapshot ratesDiffer snapshot).2.slotsTotal =
      self.slotsTotal := by
  unfold AgentController.updateFromSlotAggregatedStatusSnapshot at h ⊢
  split
  · rfl
  · rename_i hversion
    rw [if_neg hversion] at h
    simp only at h ⊢
    split at h
    · cases h
    · rename_i hchanged
      simp only [Bool.or_eq_true, bne_iff_ne, ne_eq, not_or, Decidable.not_not] at hchanged
      tauto

/-- A registration under an id that is already there brings no free slot. -/
def Dispatch.NoFreeReplacement (s : Dispatch) : DispatchInput → Prop
  | .registerAgentController agentId params =>
    s.agentControllerPool.getAgentController agentId = none ∨
      params.slotAggregatedStatusSnapshot.slotsTotal ≤
        params.slotAggregatedStatusSnapshot.slotsProcessing
  | _ => True

section QuietSteps

variable {ratesDiffer : UInt64 → UInt64 → Bool} {input : DispatchInput} {s s' : Dispatch}

theorem step_version (hstep : DispatchStep ratesDiffer input s s') :
    s.agentControllerPool.updateTx ≤ s'.agentControllerPool.updateTx := by
  cases hstep with
  | idle h | began h | moved _ _ h | claimed _ _ _ h | released _ h | registered _ h | removed h
  | looked h | stored _ _ h =>
    subst h
    exact Nat.le_refl _
  | announced _ h | signalled _ h =>
    subst h
    exact Nat.le_succ _

/-- The controller behind a taken id is replaced by a full one. -/
theorem register_unchanged {agentId : String} {params : RegisterAgentParams}
    (hfull : params.slotAggregatedStatusSnapshot.slotsTotal ≤
      params.slotAggregatedStatusSnapshot.slotsProcessing) :
    Unchanged s (s.registerAgentController agentId params) := by
  constructor
  · intro other arc controller' hentry
    obtain ⟨hget, hcontroller⟩ := entry_eq_some.mp hentry
    rcases getElem?_push_cases hcontroller with hcontroller | ⟨-, rfl⟩
    · have hlt : arc < s.agentControllers.length := (List.getElem?_eq_some_iff.mp hcontroller).1
      by_cases heq : other = agentId
      · -- the id maps to the new controller, which is at the end
        subst heq
        simp only [Dispatch.registerAgentController,
          AgentControllerPool.getAgentController_insert_self] at hget
        cases hget
        omega
      · simp only [Dispatch.registerAgentController,
          AgentControllerPool.getAgentController_insert_ne _ heq] at hget
        exact Or.inl ⟨controller', entry_eq_some.mpr ⟨hget, hcontroller⟩, rfl⟩
    · refine Or.inr ?_
      simp only [AgentController.hasCapacity, AgentController.fromRegisterAgentParams,
        Bool.not_eq_false']
      exact decide_eq_true hfull
  · intro arc controller hget
    have hlt : arc < s.agentControllers.length := (List.getElem?_eq_some_iff.mp hget).1
    refine ⟨controller, ?_, rfl⟩
    rw [← hget]
    exact List.getElem?_append_left hlt

theorem store_unchanged {arc : Nat} {snapshot : SlotAggregatedStatusSnapshot}
    {controller : AgentController} {operations : List PoolOperation}
    (hcontroller : s.agentControllers[arc]? = some controller)
    (hresult : (controller.updateFromSlotAggregatedStatusSnapshot ratesDiffer snapshot).1 =
      .noMeaningfulChanges) :
    Unchanged s
      { s with
        agentControllers := s.agentControllers.set arc
          (controller.updateFromSlotAggregatedStatusSnapshot ratesDiffer snapshot).2
        operations := operations } := by
  have htotal := slotsTotal_of_noMeaningfulChanges hresult
  obtain ⟨hslots, -⟩ := updateFromSnapshot_keeps ratesDiffer controller snapshot
  constructor
  · intro agentId other controller' hentry
    obtain ⟨hget, hother⟩ := entry_eq_some.mp hentry
    rcases getElem?_set_cases hother with ⟨rfl, rfl⟩ | ⟨-, hother⟩
    · refine Or.inl ⟨controller, entry_eq_some.mpr ⟨hget, hcontroller⟩, ?_⟩
      unfold AgentController.hasCapacity
      rw [htotal, hslots]
    · exact Or.inl ⟨controller', entry_eq_some.mpr ⟨hget, hother⟩, rfl⟩
  · intro other before hbefore
    refine exists_getElem?_set hcontroller ?_ (fun _ h => h)
      ⟨before, hbefore, (rfl : before.slotsProcessing = before.slotsProcessing)⟩
    exact hslots.trans

theorem mem_eraseIdx_of_ne {operations : List PoolOperation} {operation : Nat}
    {other : PoolOperation} (hget : operations[operation]? = some other)
    (hne : other ≠ .signalling) (hmem : PoolOperation.signalling ∈ operations) :
    PoolOperation.signalling ∈ operations.eraseIdx operation := by
  obtain ⟨i, hi⟩ := List.mem_iff_getElem?.mp hmem
  refine List.mem_eraseIdx_iff_getElem?.mpr ⟨i, fun heq => ?_, hi⟩
  subst heq
  rw [hi] at hget
  cases hget
  exact hne rfl

/-- A call that has to announce its claim does not move on its own. -/
theorem mem_set_of_takeMove {take : Nat} {call call' : TakeCall} {scanned : List Reading}
    {candidate : DispatchCandidate} (hcall : s.takes[take]? = some call)
    (hmove : TakeMove s call call') (hmem : TakeCall.claimed scanned candidate ∈ s.takes) :
    TakeCall.claimed scanned candidate ∈ s.takes.set take call' := by
  obtain ⟨i, hi⟩ := List.mem_iff_getElem?.mp hmem
  have hlt : i < s.takes.length := (List.getElem?_eq_some_iff.mp hi).1
  by_cases heq : i = take
  · subst heq
    rw [hi] at hcall
    cases hcall
    cases hmove
    exact List.mem_iff_getElem?.mpr ⟨i, List.getElem?_set_self hlt⟩
  · exact List.mem_iff_getElem?.mpr ⟨i, by rw [List.getElem?_set_ne (Ne.symm heq)]; exact hi⟩

/-- **A step that leaves nothing to announce and sends nothing changes nothing** that a waiting call
would have to know. -/
theorem quiet_step (hstep : DispatchStep ratesDiffer input s s')
    (hinput : s.NoFreeReplacement input) {seen : Nat} (hle : seen ≤ s.agentControllerPool.updateTx)
    (hversion : s'.agentControllerPool.updateTx = seen) (hannounced : s'.Announced) :
    s.agentControllerPool.updateTx = seen ∧ s.Announced ∧ Unchanged s s' := by
  obtain ⟨hoperations, htakes⟩ := hannounced
  cases hstep with
  | idle h =>
    subst h
    exact ⟨hversion, ⟨hoperations, htakes⟩, unchanged_of_eq rfl rfl⟩
  | began h =>
    subst h
    exact ⟨hversion, ⟨hoperations, fun scanned candidate hmem =>
      htakes scanned candidate (List.mem_append_left _ hmem)⟩, unchanged_of_eq rfl rfl⟩
  | moved hcall hmove h =>
    subst h
    exact ⟨hversion, ⟨hoperations, fun scanned candidate hmem =>
      htakes scanned candidate (mem_set_of_takeMove hcall hmove hmem)⟩, unchanged_of_eq rfl rfl⟩
  | @claimed take scanned candidate controller hcall _ _ h =>
    subst h
    have hlt : take < s.takes.length := (List.getElem?_eq_some_iff.mp hcall).1
    exact absurd (List.mem_iff_getElem?.mpr ⟨take, List.getElem?_set_self hlt⟩)
      (htakes scanned candidate)
  | announced _ h | signalled _ h =>
    subst h
    simp only [AgentControllerPool.signalUpdate] at hversion
    omega
  | released _ h | removed h =>
    subst h
    exact absurd (List.mem_append_right _ (List.mem_singleton_self _)) hoperations
  | @registered agentId params hregister h =>
    subst h hregister
    cases hget : s.agentControllerPool.getAgentController agentId with
    | none =>
      simp only [Dispatch.registerAgentController, hget] at hoperations
      exact absurd (List.mem_append_right _ (List.mem_singleton_self _)) hoperations
    | some old =>
      simp only [Dispatch.registerAgentController, hget] at hoperations htakes
      rcases hinput with hnew | hfull
      · rw [hget] at hnew
        cases hnew
      · exact ⟨hversion, ⟨hoperations, htakes⟩, register_unchanged hfull⟩
  | looked h =>
    subst h
    exact ⟨hversion, ⟨fun hmem => hoperations (List.mem_append_left _ hmem), htakes⟩,
      unchanged_of_eq rfl rfl⟩
  | @stored operation arc snapshot controller hoperation hcontroller h =>
    subst h
    have hlt : operation < s.operations.length := (List.getElem?_eq_some_iff.mp hoperation).1
    cases hresult : (controller.updateFromSlotAggregatedStatusSnapshot ratesDiffer snapshot).1 with
    | updated =>
      simp only [hresult] at hoperations
      exact absurd (List.mem_iff_getElem?.mpr ⟨operation, List.getElem?_set_self hlt⟩) hoperations
    | noMeaningfulChanges =>
      simp only [hresult] at hoperations
      have hkept : PoolOperation.signalling ∉ s.operations := fun hmem =>
        hoperations (mem_eraseIdx_of_ne hoperation (fun heq => by cases heq) hmem)
      exact ⟨hversion, ⟨hkept, htakes⟩, store_unchanged hcontroller hresult⟩

end QuietSteps

/-! ## What scans and waiting calls know -/

/-- What a scan knows if nothing changed since it started: an entry it is through with is full,
unless there is a candidate. -/
def TakeCurrent (s : Dispatch) : TakeCall → Prop
  | .scanning unvisited loaded _ best =>
    (best = none → ∀ (agentId : String) (arc : Nat) (controller : AgentController),
      s.entry agentId = some (arc, controller) →
      agentId ∈ unvisited ∨
      (∃ candidate, loaded = some candidate ∧ candidate.agentController = arc) ∨
        controller.hasCapacity = false) ∧
    ∀ candidate, loaded = some candidate → ∃ controller,
      s.agentControllers[candidate.agentController]? = some controller ∧
        controller.slotsProcessing = candidate.snapshot
  | .returned _ none => s.NoneFree
  | _ => True

/-- What a call knows as long as its receiver has seen everything that was sent. -/
def WaitOk (s : Dispatch) : WaitCall → Prop
  | .looping seen => seen ≤ s.agentControllerPool.updateTx
  | .taking seen take =>
    seen ≤ s.agentControllerPool.updateTx ∧
    ∃ call, s.takes[take]? = some call ∧
      (s.agentControllerPool.updateTx = seen → s.Announced → TakeCurrent s call)
  | .changed seen =>
    seen ≤ s.agentControllerPool.updateTx ∧
    (s.agentControllerPool.updateTx = seen → s.Announced → s.NoneFree)
  | _ => True

section Knowledge

variable {ratesDiffer : UInt64 → UInt64 → Bool} {input : DispatchInput} {s s' : Dispatch}

theorem startScan_takeCurrent : TakeCurrent s s.startScan := by
  constructor
  · intro _ agentId arc controller hentry
    exact Or.inl (lookup_eq_some_mem (entry_eq_some.mp hentry).1)
  · intro candidate hnone
    cases hnone

theorem TakeCurrent.mono {call : TakeCall} (h : TakeCurrent s call) (hsame : Unchanged s s') :
    TakeCurrent s' call := by
  match call, h with
  | .scanning unvisited loaded scanned best, ⟨hentries, hloaded⟩ =>
    constructor
    · intro hbest agentId arc controller' hentry
      rcases hsame.entries agentId arc controller' hentry
          with ⟨controller, hbefore, hcapacity⟩ | hfull
      · rw [hcapacity]
        exact hentries hbest agentId arc controller hbefore
      · exact Or.inr (Or.inr hfull)
    · intro candidate hcandidate
      obtain ⟨controller, hget, hslots⟩ := hloaded candidate hcandidate
      obtain ⟨controller', hget', hsame⟩ := hsame.counters _ controller hget
      exact ⟨controller', hget', hsame.trans hslots⟩
  | .claiming .., _ => trivial
  | .claimed .., _ => trivial
  | .returned _ none, hnone => exact hsame.noneFree hnone
  | .returned _ (some _), _ => trivial

/-- A reading that does not become the candidate had no free slot. -/
theorem keepLeastBusy_eq_none {best : Option DispatchCandidate} {reading : Reading}
    (h : keepLeastBusy best reading = none) : best = none ∧ reading.hasCapacity = false := by
  unfold keepLeastBusy at h
  split at h
  · split at h
    · split at h <;> cases h
    · cases h
  · rename_i hfull
    exact ⟨h, by simpa using hfull⟩

theorem TakeCurrent.move {call call' : TakeCall} (h : TakeCurrent s call)
    (hmove : TakeMove s call call') : TakeCurrent s call' := by
  cases hmove with
  | stay => exact h
  | @visited agentId unvisited scanned best =>
    obtain ⟨hentries, -⟩ := h
    constructor
    · intro hbest other arc controller hentry
      by_cases heq : other = agentId
      · subst heq
        exact Or.inr (Or.inl ⟨_, by rw [hentry]; rfl, rfl⟩)
      · rcases hentries hbest other arc controller hentry with hunvisited | ⟨_, hnone, _⟩ | hfull
        · exact Or.inl (List.mem_filter.mpr ⟨hunvisited, by simpa using heq⟩)
        · cases hnone
        · exact Or.inr (Or.inr hfull)
    · intro candidate hcandidate
      obtain ⟨⟨arc, controller⟩, hentry, rfl⟩ := Option.map_eq_some_iff.mp hcandidate
      exact ⟨controller, (entry_eq_some.mp hentry).2, rfl⟩
  | @checked unvisited loaded scanned best controller hcontroller =>
    obtain ⟨hentries, hloaded⟩ := h
    constructor
    · intro hbest agentId arc controller' hentry
      obtain ⟨hbest, hfull⟩ := keepLeastBusy_eq_none hbest
      rcases hentries hbest agentId arc controller' hentry
          with hunvisited | ⟨_, hsome, rfl⟩ | hfull'
      · exact Or.inl hunvisited
      · -- the entry that was just checked, with the counter as it was loaded
        cases hsome
        obtain ⟨before, hbefore, hslots⟩ := hloaded loaded rfl
        have hentry := (entry_eq_some.mp hentry).2
        rw [hentry] at hbefore hcontroller
        cases hbefore
        cases hcontroller
        refine Or.inr (Or.inr ?_)
        rw [← hfull]
        unfold AgentController.hasCapacity Reading.hasCapacity
        rw [hslots]
      · exact Or.inr (Or.inr hfull')
    · intro candidate hnone
      cases hnone
  | found => trivial
  | notFound =>
    intro agentId arc controller hentry
    rcases h.1 rfl agentId arc controller hentry with hunvisited | ⟨_, hnone, _⟩ | hfull
    · cases hunvisited
    · cases hnone
    · exact hfull
  | retried => exact startScan_takeCurrent

/-- Where a call is after a step, unless the step is one that has to be announced. -/
theorem step_take (hstep : DispatchStep ratesDiffer input s s') {take : Nat} {call : TakeCall}
    (hcall : s.takes[take]? = some call) :
    ∃ call', s'.takes[take]? = some call' ∧
      (call' = call ∨ TakeMove s call call' ∨
        (∃ scanned candidate, call' = .claimed scanned candidate) ∨
        s'.agentControllerPool.updateTx ≠ s.agentControllerPool.updateTx) := by
  cases hstep with
  | idle h | removed h | looked h | signalled _ h | registered _ h | stored _ _ h | released _ h =>
    subst h
    exact ⟨call, hcall, Or.inl rfl⟩
  | began h =>
    subst h
    exact exists_getElem?_push ⟨call, hcall, Or.inl rfl⟩
  | @moved moved before call' hbefore hmove h =>
    subst h
    exact exists_getElem?_set (P := (· = call)) hbefore (fun heq => Or.inr (Or.inl (heq ▸ hmove)))
      (fun _ heq => Or.inl heq) ⟨call, hcall, rfl⟩
  | @claimed claimer scanned candidate _ hclaimer _ _ h =>
    subst h
    exact exists_getElem?_set (P := (· = call)) hclaimer
      (fun _ => Or.inr (Or.inr (Or.inl ⟨scanned, candidate, rfl⟩))) (fun _ heq => Or.inl heq)
      ⟨call, hcall, rfl⟩
  | @announced announcer scanned candidate hannouncer h =>
    subst h
    have hversion : (s.agentControllerPool.signalUpdate).updateTx ≠
        s.agentControllerPool.updateTx :=
      Nat.succ_ne_self _
    exact exists_getElem?_set (P := (· = call)) hannouncer
      (fun _ => Or.inr (Or.inr (Or.inr hversion)))
      (fun _ heq => Or.inl heq) ⟨call, hcall, rfl⟩

/-- **A step of the pool keeps what waiting calls know.** -/
theorem WaitOk.step {wait : WaitCall} (h : WaitOk s wait)
    (hstep : DispatchStep ratesDiffer input s s') (hinput : s.NoFreeReplacement input) :
    WaitOk s' wait := by
  have hmono := step_version hstep
  match wait, h with
  | .looping seen, hle => exact Nat.le_trans hle hmono
  | .taking seen take, ⟨hle, call, hcall, hcurrent⟩ =>
    obtain ⟨call', hcall', hcases⟩ := step_take hstep hcall
    refine ⟨Nat.le_trans hle hmono, call', hcall', fun hversion hannounced => ?_⟩
    obtain ⟨hversion', hannounced', hsame⟩ := quiet_step hstep hinput hle hversion hannounced
    have hcurrent := hcurrent hversion' hannounced'
    rcases hcases with rfl | hmove | ⟨scanned, candidate, rfl⟩ | hsent
    · exact hcurrent.mono hsame
    · exact (hcurrent.move hmove).mono hsame
    · trivial
    · exact absurd (hversion.trans hversion'.symm) hsent
  | .changed seen, ⟨hle, hnone⟩ =>
    refine ⟨Nat.le_trans hle hmono, fun hversion hannounced => ?_⟩
    obtain ⟨hversion', hannounced', hsame⟩ := quiet_step hstep hinput hle hversion hannounced
    exact hsame.noneFree (hnone hversion' hannounced')
  | .quickPath _, _ => trivial
  | .checkingLimit, _ => trivial
  | .incrementing, _ => trivial
  | .subscribing, _ => trivial
  | .leaving _, _ => trivial
  | .returned _, _ => trivial

end Knowledge

/-! ## Whole runs -/

/-- A registration under an id that is already there brings no free slot. -/
def BufferedRequestManager.NoFreeReplacement (m : BufferedRequestManager) : ManagerInput → Prop
  | .pool input => m.dispatch.NoFreeReplacement input
  | _ => True

theorem WaitOk.move {m : BufferedRequestManager} {call call' : WaitCall}
    {counter : BufferedRequestCounter} (h : WaitOk m.dispatch call)
    (hmove : WaitMove m call call' counter) : WaitOk m.dispatch call' := by
  cases hmove with
  | stay => exact h
  | subscribed | woken => exact Nat.le_refl _
  | @notFound seen take htaken =>
    obtain ⟨hle, call, hcall, hcurrent⟩ := h
    refine ⟨hle, fun hversion hannounced => ?_⟩
    unfold BufferedRequestManager.taken at htaken
    rw [hcall] at htaken
    split at htaken
    · rename_i scanned result hreturned
      cases hreturned
      cases result with
      | none => exact hcurrent hversion hannounced
      | some candidate => cases htaken
    · cases htaken
  | quickFound | quickNone | overflowed _ | belowLimit _ | incremented | found
  | interrupted | left =>
    trivial

/-- **Every waiting call knows what it should**, in every state of every run. -/
theorem waitOk_reaches {ratesDiffer : UInt64 → UInt64 → Bool} {limit : Int}
    {m : BufferedRequestManager}
    (h : Reaches (BufferedRequestManager.step ratesDiffer)
      BufferedRequestManager.NoFreeReplacement (.new limit) m) :
    ∀ (wait : Nat) (call : WaitCall), m.waits[wait]? = some call → WaitOk m.dispatch call := by
  refine h.invariant (fun m => ∀ (wait : Nat) (call : WaitCall), m.waits[wait]? = some call →
    WaitOk m.dispatch call) (fun _ _ hcall => by cases hcall) ?_
  intro m input _ hinv hinput
  have htake : ∀ call, WaitOk m.dispatch call → WaitOk (m.dispatch.step ratesDiffer .take) call :=
    fun call hok => hok.step (step_dispatchStep m.dispatch .take) trivial
  cases step_managerStep ratesDiffer m input with
  | pool heq hm =>
    subst heq
    rw [hm]
    intro wait call hcall
    exact (hinv wait call hcall).step (step_dispatchStep m.dispatch _) hinput
  | called hm =>
    rw [hm]
    intro wait call hcall
    rcases getElem?_push_cases hcall with hcall | ⟨-, rfl⟩
    · exact htake call (hinv wait call hcall)
    · trivial
  | @looped looped seen hlooping hm =>
    rw [hm]
    intro wait call hcall
    rcases getElem?_set_cases hcall with ⟨-, rfl⟩ | ⟨-, hcall⟩
    · -- the new scan starts with every entry still to visit
      exact ⟨hinv looped _ hlooping, m.dispatch.startScan, by simp [Dispatch.step],
        fun _ _ => startScan_takeCurrent.mono (unchanged_of_eq rfl rfl)⟩
    · exact htake call (hinv wait call hcall)
  | @moved moved before call' counter hbefore hmove hm =>
    rw [hm]
    intro wait call hcall
    rcases getElem?_set_cases hcall with ⟨-, rfl⟩ | ⟨-, hcall⟩
    · exact (hinv moved before hbefore).move hmove
    · exact hinv wait call hcall
  | idle hm =>
    rw [hm]
    exact hinv

/-- The call returned. -/
def TakeCall.isReturned : TakeCall → Bool
  | .returned .. => true
  | _ => false

/-- The call awaits a change, or returned. -/
def WaitCall.isResting : WaitCall → Bool
  | .changed _ | .returned _ => true
  | _ => false

/-- No operation is in the middle of its steps. -/
structure BufferedRequestManager.Settled (m : BufferedRequestManager) : Prop where
  operations : m.dispatch.operations = []
  takes : ∀ call ∈ m.dispatch.takes, call.isReturned = true
  waits : ∀ call ∈ m.waits, call.isResting = true

/-- **No wake-up is lost** in any run in which no registered id gets another controller with a free
slot: when all operations are through their steps and a call still awaits a version it has seen, no
registered agent has a free slot. -/
theorem wait_not_lost {ratesDiffer : UInt64 → UInt64 → Bool} {limit : Int}
    {m : BufferedRequestManager}
    (h : Reaches (BufferedRequestManager.step ratesDiffer)
      BufferedRequestManager.NoFreeReplacement (.new limit) m) (hsettled : m.Settled)
      {wait seen : Nat}
    (hwait : m.waits[wait]? = some (.changed seen)) (hseen : m.version = seen) (agentId : String)
    (arc : Nat) (controller : AgentController)
    (hentry : m.dispatch.entry agentId = some (arc, controller)) :
    ¬ controller.slotsProcessing < controller.slotsTotal := by
  have hannounced : m.dispatch.Announced := by
    constructor
    · rw [hsettled.operations]
      exact List.not_mem_nil
    · intro scanned candidate hmem
      have hreturned := hsettled.takes _ hmem
      cases hreturned
  obtain ⟨-, hnone⟩ := waitOk_reaches h wait _ hwait
  have hfull := hnone hseen hannounced agentId arc controller hentry
  simp only [AgentController.hasCapacity, Bool.not_eq_false', decide_eq_true_eq] at hfull
  exact Int.not_lt.mpr hfull

/-- A scan of the pool with one agent. -/
def scanningAgent (take : Nat) : List ManagerInput :=
  [.pool (.visit take "agent"), .pool (.check take), .pool (.endScan take)]

/-- An agent without a free slot, and a request that waits for it. -/
def waitingForAgent : List ManagerInput :=
  [.pool (.registerAgentController "agent" ⟨none, fourSlots 4⟩), .pool (.signalUpdate 0),
    .waitForAvailableAgent] ++ scanningAgent 0 ++
    [.proceed 0, .proceed 0, .proceed 0, .proceed 0, .proceed 0] ++ scanningAgent 1 ++ [.proceed 0]

def requestWaiting : BufferedRequestManager :=
  (BufferedRequestManager.new 10).run (fun _ _ => false) waitingForAgent

theorem requestWaiting_settled : requestWaiting.Settled := ⟨by decide, by decide, by decide⟩

theorem wait_not_lost_requestWaiting :
    requestWaiting.waits = [.changed 1] ∧ requestWaiting.version = 1 ∧
      ∃ controller, requestWaiting.dispatch.entry "agent" = some (0, controller) ∧
        ¬ controller.slotsProcessing < controller.slotsTotal := by
  refine ⟨by decide, by decide, _, rfl, ?_⟩
  have hreached : Reaches (BufferedRequestManager.step fun _ _ => false)
      BufferedRequestManager.NoFreeReplacement (.new 10) requestWaiting := by
    refine Reaches.along _ ⟨Or.inl rfl, ?_⟩ .start
    refine ⟨trivial, trivial, trivial, trivial, trivial, trivial, trivial, trivial,
      trivial, trivial, trivial, trivial, trivial, trivial, trivial⟩
  have hwait : requestWaiting.waits[0]? = some (.changed 1) := by decide
  exact wait_not_lost hreached requestWaiting_settled hwait rfl "agent" 0 _ rfl

/-- A second connection registers the same id, with four free slots. -/
def agentReplaced : BufferedRequestManager :=
  requestWaiting.run (fun _ _ => false)
    [.pool (.registerAgentController "agent" ⟨none, fourSlots 0⟩)]

/-- The request goes on waiting, although the registered agent has nothing to do. -/
theorem wait_lost :
    agentReplaced.waits = [.changed 1] ∧ agentReplaced.version = 1 ∧
    ¬ ∀ m : BufferedRequestManager,
      Reaches (BufferedRequestManager.step fun _ _ => false) (fun _ _ => True) (.new 10) m →
      m.Settled → ∀ (wait seen : Nat), m.waits[wait]? = some (.changed seen) → m.version = seen →
      ∀ (agentId : String) (arc : Nat) (controller : AgentController),
        m.dispatch.entry agentId = some (arc, controller) →
        ¬ controller.slotsProcessing < controller.slotsTotal := by
  refine ⟨by decide, by decide, fun hall => ?_⟩
  have hreached : Reaches (BufferedRequestManager.step fun _ _ => false) (fun _ _ => True) (.new 10)
      agentReplaced :=
    Reaches.runs _ (fun _ _ _ => trivial) (Reaches.runs _ (fun _ _ _ => trivial) .start)
  have hfull := hall agentReplaced hreached ⟨by decide, by decide, by decide⟩ 0 1 (by decide) rfl
    "agent" 1 _ rfl
  exact hfull (by decide)

end Paddler
