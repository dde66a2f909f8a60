import Paddler.Agent.SlotAggregatedStatus
import Paddler.Balancer.AgentControllerPool

/-!
# Status snapshots from the agent to its controller

An agent changes its status, takes snapshots of it, and the balancer gives each snapshot to the
controller of the agent, in the order they were taken.  The controller starts with the snapshot of
the register message.  `received` is history: every snapshot the controller was given.

* `AgentController.Shows` — the status fields of a controller are those of a snapshot.
* `update_of_newer`, `update_of_older` — what one update does.
* `SnapshotsInv` — versions in the order in which they were taken; `snapshotsInv_reaches`.
* `converges` — **while the version counter does not wrap, the controller shows each snapshot it is
  given.**
* `discards_after_wrap` — a snapshot taken after the counter wrapped is discarded.
-/

set_option autoImplicit false

namespace Paddler

open Run

/-! ## One update -/

/-- The status fields of a controller, all but `slots_processing` and `tokens_per_second`. -/
structure AgentController.Shows (controller : AgentController)
    (snapshot : SlotAggregatedStatusSnapshot) :
    Prop where
  desiredSlotsTotal : controller.desiredSlotsTotal = snapshot.desiredSlotsTotal
  downloadCurrent : controller.downloadCurrent = snapshot.downloadCurrent
  downloadFilename : controller.downloadFilename = snapshot.downloadFilename
  downloadIndeterminate : controller.downloadIndeterminate = snapshot.downloadIndeterminate
  downloadTotal : controller.downloadTotal = snapshot.downloadTotal
  issues : controller.issues = snapshot.issues
  modelPath : controller.modelPath = snapshot.modelPath
  slotsTotal : controller.slotsTotal = snapshot.slotsTotal
  stateApplicationStatus :
    controller.stateApplicationStatusCode = snapshot.stateApplicationStatus.code
  usesChatTemplateOverride :
    controller.usesChatTemplateOverride = snapshot.usesChatTemplateOverride
  newestUpdateVersion : controller.newestUpdateVersion = snapshot.version

/-- Some field other than `newest_update_version` differs. -/
def AgentController.DiffersFrom (controller controller' : AgentController) : Prop :=
  { controller with newestUpdateVersion := controller'.newestUpdateVersion } ≠ controller'

theorem fromRegisterAgentParams_shows (agentId : String) (params : RegisterAgentParams) :
    (AgentController.fromRegisterAgentParams agentId params).Shows
      params.slotAggregatedStatusSnapshot :=
  ⟨rfl, rfl, rfl, rfl, rfl, rfl, rfl, rfl, rfl, rfl, rfl⟩

section Update

variable {ratesDiffer : UInt64 → UInt64 → Bool} {controller : AgentController}
  {snapshot : SlotAggregatedStatusSnapshot}

theorem update_of_older (h : snapshot.version < controller.newestUpdateVersion) :
    controller.updateFromSlotAggregatedStatusSnapshot ratesDiffer snapshot =
      (.noMeaningfulChanges, controller) := by
  unfold AgentController.updateFromSlotAggregatedStatusSnapshot
  rw [if_pos h]

theorem update_of_newer (h : controller.newestUpdateVersion ≤ snapshot.version) :
    (controller.updateFromSlotAggregatedStatusSnapshot ratesDiffer snapshot).2.Shows snapshot := by
  unfold AgentController.updateFromSlotAggregatedStatusSnapshot
  rw [if_neg (Int.not_lt.2 h)]
  exact ⟨rfl, rfl, rfl, rfl, rfl, rfl, rfl, rfl, rfl, rfl, by simp [compareAndSwap]⟩

theorem update_newestUpdateVersion :
    (controller.updateFromSlotAggregatedStatusSnapshot ratesDiffer snapshot).2.newestUpdateVersion =
      max controller.newestUpdateVersion snapshot.version := by
  rcases Int.lt_or_le snapshot.version controller.newestUpdateVersion with h | h
  · rw [update_of_older h]
    exact (Int.max_eq_left (Int.le_of_lt h)).symm
  · rw [(update_of_newer h).newestUpdateVersion]
    exact (Int.max_eq_right h).symm

/-- **The result tells whether a field changed.** -/
theorem update_updated_iff (hrates : ∀ rate, ratesDiffer rate rate = false) :
    (controller.updateFromSlotAggregatedStatusSnapshot ratesDiffer snapshot).1 = .updated ↔
      (controller.updateFromSlotAggregatedStatusSnapshot ratesDiffer snapshot).2.DiffersFrom
        controller := by
  unfold AgentController.DiffersFrom AgentController.updateFromSlotAggregatedStatusSnapshot
  split
  · simp
  · have hrate : (if ratesDiffer snapshot.tokensPerSecond controller.tokensPerSecond = true then
        snapshot.tokensPerSecond else controller.tokensPerSecond) = controller.tokensPerSecond ↔
        ratesDiffer snapshot.tokensPerSecond controller.tokensPerSecond = false := by
      split
      · rename_i hdiffers
        rw [hdiffers]
        refine ⟨fun heq => ?_, fun h => by cases h⟩
        rw [heq, hrates] at hdiffers
        cases hdiffers
      · rename_i hsame
        simpa using hsame
    cases controller
    simp only [ne_eq, AgentController.mk.injEq, not_and, hrate]
    split
    · rename_i hchanged
      simp only [Bool.or_eq_true, bne_iff_ne, ne_eq, decide_eq_true_eq] at hchanged
      grind
    · rename_i hchanged
      simp only [Bool.or_eq_true, bne_iff_ne, ne_eq, decide_eq_true_eq] at hchanged
      grind

end Update

/-! ## Runs -/

/-- The agent's status, the snapshots on their way, and the controller. -/
structure StatusSnapshots where
  status : SlotAggregatedStatus
  inFlight : List SlotAggregatedStatusSnapshot
  controller : AgentController
  received : List SlotAggregatedStatusSnapshot
  deriving DecidableEq

/-- What can happen next. -/
inductive StatusSnapshotsInput where
  | mutate (mutation : StatusMutation)
  | takeSnapshot (tokensPerSecond : UInt64)
  | deliver
  deriving DecidableEq

namespace StatusSnapshots

/-- The agent has registered with `registered`, a snapshot of `status`. -/
def start (status : SlotAggregatedStatus) (agentId : String) (name : Option String)
    (registered : SlotAggregatedStatusSnapshot) : StatusSnapshots :=
  { status := status
    inFlight := []
    controller := AgentController.fromRegisterAgentParams agentId ⟨name, registered⟩
    received := [registered] }

/-- One step.  A status that gives no snapshot sends none. -/
def step (ratesDiffer : UInt64 → UInt64 → Bool) (s : StatusSnapshots) :
    StatusSnapshotsInput → StatusSnapshots
  | .mutate mutation => { s with status := mutation.apply s.status }
  | .takeSnapshot tokensPerSecond =>
    match s.status.makeSnapshot tokensPerSecond with
    | .ok snapshot => { s with inFlight := s.inFlight ++ [snapshot] }
    | .error _ => s
  | .deliver =>
    match s.inFlight with
    | [] => s
    | snapshot :: rest =>
      { s with
        inFlight := rest
        controller :=
          (s.controller.updateFromSlotAggregatedStatusSnapshot ratesDiffer snapshot).2
        received := s.received ++ [snapshot] }

/-- The step does not wrap the version counter of the agent. -/
def NoWrap (s : StatusSnapshots) : StatusSnapshotsInput → Prop
  | .mutate mutation => s.status.NoWrap mutation
  | .takeSnapshot _ | .deliver => True

instance (s : StatusSnapshots) (input : StatusSnapshotsInput) : Decidable (s.NoWrap input) := by
  cases input <;> simp only [NoWrap] <;> infer_instance

/-! ## Every run -/

/-- No snapshot received is newer than the newest version. -/
def ReceivedInv (s : StatusSnapshots) : Prop :=
  s.status.WellFormed ∧ ∀ snapshot ∈ s.received, snapshot.version ≤ s.controller.newestUpdateVersion

variable {ratesDiffer : UInt64 → UInt64 → Bool} {status : SlotAggregatedStatus} {agentId : String}
  {name : Option String} {registered : SlotAggregatedStatusSnapshot}

theorem start_receivedInv (hstatus : status.WellFormed) :
    (start status agentId name registered).ReceivedInv := by
  refine ⟨hstatus, ?_⟩
  intro snapshot hmem
  rw [List.mem_singleton.1 hmem]
  exact Int.le_refl _

theorem ReceivedInv.step {s : StatusSnapshots} (h : s.ReceivedInv) (input : StatusSnapshotsInput) :
    (s.step ratesDiffer input).ReceivedInv := by
  obtain ⟨hstatus, hreceived⟩ := h
  cases input with
  | mutate mutation => exact ⟨StatusMutation.apply_wellFormed hstatus mutation, hreceived⟩
  | takeSnapshot tokensPerSecond =>
    simp only [StatusSnapshots.step]
    split <;> exact ⟨hstatus, hreceived⟩
  | deliver =>
    simp only [StatusSnapshots.step]
    split
    · exact ⟨hstatus, hreceived⟩
    · rename_i snapshot rest _
      refine ⟨hstatus, ?_⟩
      intro received hmem
      show received.version ≤ AgentController.newestUpdateVersion _
      rw [update_newestUpdateVersion]
      rcases List.mem_append.1 hmem with hmem | hmem
      · have := hreceived received hmem
        omega
      · rw [List.mem_singleton.1 hmem]
        omega

theorem receivedInv_reaches {guard : StatusSnapshots → StatusSnapshotsInput → Prop}
    {s : StatusSnapshots} (hstatus : status.WellFormed)
    (h : Reaches (step ratesDiffer) guard (start status agentId name registered) s) :
    s.ReceivedInv :=
  h.invariant ReceivedInv (start_receivedInv hstatus) fun _ input _ hs _ => hs.step input

/-- **A snapshot older than one received changes nothing**, in every run. -/
theorem older_changes_nothing {guard : StatusSnapshots → StatusSnapshotsInput → Prop}
    {s : StatusSnapshots} (hstatus : status.WellFormed)
    (h : Reaches (step ratesDiffer) guard (start status agentId name registered) s)
    {received snapshot : SlotAggregatedStatusSnapshot} (hreceived : received ∈ s.received)
    (hversion : snapshot.version < received.version) :
    s.controller.updateFromSlotAggregatedStatusSnapshot ratesDiffer snapshot =
      (.noMeaningfulChanges, s.controller) := by
  have hnewest := (receivedInv_reaches hstatus h).2 received hreceived
  exact update_of_older (Int.lt_of_lt_of_le hversion hnewest)

/-! ## Runs without a wrap -/

/-- Versions are in the order in which the snapshots were taken, the status last, and the controller
shows the snapshot received last. -/
structure SnapshotsInv (s : StatusSnapshots) : Prop where
  wellFormed : s.status.WellFormed
  ordered : s.inFlight.Pairwise fun earlier later => earlier.version ≤ later.version
  newestFirst : ∀ snapshot ∈ s.inFlight, s.controller.newestUpdateVersion ≤ snapshot.version
  beforeStatus : ∀ snapshot ∈ s.inFlight, snapshot.version ≤ s.status.version
  newestBefore : s.controller.newestUpdateVersion ≤ s.status.version
  shows : ∀ snapshot, s.received.getLast? = some snapshot → s.controller.Shows snapshot

theorem start_snapshotsInv {tokensPerSecond : UInt64} (hstatus : status.WellFormed)
    (hregistered : status.makeSnapshot tokensPerSecond = .ok registered) :
    (start status agentId name registered).SnapshotsInv where
  wellFormed := hstatus
  ordered := List.Pairwise.nil
  newestFirst := by simp [start]
  beforeStatus := by simp [start]
  newestBefore := by
    have hversion := SlotAggregatedStatus.makeSnapshot_version hregistered
    simp [start, AgentController.fromRegisterAgentParams, hversion]
  shows := by
    intro snapshot hlast
    simp only [start, List.getLast?_singleton, Option.some.injEq] at hlast
    rw [← hlast]
    exact fromRegisterAgentParams_shows agentId ⟨name, registered⟩

theorem SnapshotsInv.mutate {s : StatusSnapshots} (h : s.SnapshotsInv) {mutation : StatusMutation}
    (hwrap : s.status.NoWrap mutation) :
    ({ s with status := mutation.apply s.status } : StatusSnapshots).SnapshotsInv := by
  have hincrements := mutation.versionIncrements_nonneg
  have hversion : s.status.version ≤ (mutation.apply s.status).version := by
    rw [StatusMutation.apply_version_of_noWrap h.wellFormed hwrap]
    omega
  exact
    { h with
      wellFormed := StatusMutation.apply_wellFormed h.wellFormed mutation
      beforeStatus := fun snapshot hmem => Int.le_trans (h.beforeStatus snapshot hmem) hversion
      newestBefore := Int.le_trans h.newestBefore hversion }

theorem SnapshotsInv.takeSnapshot {s : StatusSnapshots} (h : s.SnapshotsInv)
    {snapshot : SlotAggregatedStatusSnapshot} (hversion : snapshot.version = s.status.version) :
    ({ s with inFlight := s.inFlight ++ [snapshot] } : StatusSnapshots).SnapshotsInv := by
  refine { h with ordered := ?_, newestFirst := ?_, beforeStatus := ?_ }
  · refine List.pairwise_append.2 ⟨h.ordered, List.pairwise_singleton _ _, ?_⟩
    intro earlier hearlier later hlater
    rw [List.mem_singleton.1 hlater, hversion]
    exact h.beforeStatus earlier hearlier
  · intro taken hmem
    rcases List.mem_append.1 hmem with hmem | hmem
    · exact h.newestFirst taken hmem
    · rw [List.mem_singleton.1 hmem, hversion]
      exact h.newestBefore
  · intro taken hmem
    rcases List.mem_append.1 hmem with hmem | hmem
    · exact h.beforeStatus taken hmem
    · rw [List.mem_singleton.1 hmem, hversion]

theorem SnapshotsInv.deliver {s : StatusSnapshots} (h : s.SnapshotsInv)
    {snapshot : SlotAggregatedStatusSnapshot} {rest : List SlotAggregatedStatusSnapshot}
    (hflight : s.inFlight = snapshot :: rest) :
    ({ s with
        inFlight := rest
        controller := (s.controller.updateFromSlotAggregatedStatusSnapshot ratesDiffer snapshot).2
        received := s.received ++ [snapshot] } : StatusSnapshots).SnapshotsInv := by
  obtain ⟨hwell, hordered, hnewest, hbefore, -, -⟩ := h
  rw [hflight] at hordered hnewest hbefore
  obtain ⟨hfirst, hrest⟩ := List.pairwise_cons.1 hordered
  have hshows := @update_of_newer ratesDiffer _ _ (hnewest snapshot List.mem_cons_self)
  refine
    { wellFormed := hwell
      ordered := hrest
      newestFirst := ?_
      beforeStatus := fun taken hmem => hbefore taken (List.mem_cons_of_mem _ hmem)
      newestBefore := ?_
      shows := ?_ }
  · intro taken hmem
    show AgentController.newestUpdateVersion _ ≤ taken.version
    rw [hshows.newestUpdateVersion]
    exact hfirst taken hmem
  · show AgentController.newestUpdateVersion _ ≤ s.status.version
    rw [hshows.newestUpdateVersion]
    exact hbefore snapshot List.mem_cons_self
  · intro last hlast
    rw [List.getLast?_append, List.getLast?_singleton] at hlast
    cases hlast
    exact hshows

theorem SnapshotsInv.step {s : StatusSnapshots} (h : s.SnapshotsInv) {input : StatusSnapshotsInput}
    (hwrap : s.NoWrap input) : (s.step ratesDiffer input).SnapshotsInv := by
  cases input with
  | mutate mutation => exact h.mutate hwrap
  | takeSnapshot tokensPerSecond =>
    simp only [StatusSnapshots.step]
    split
    · rename_i snapshot hsnapshot
      exact h.takeSnapshot (SlotAggregatedStatus.makeSnapshot_version hsnapshot)
    · exact h
  | deliver =>
    simp only [StatusSnapshots.step]
    split
    · exact h
    · rename_i snapshot rest hflight
      exact h.deliver hflight

theorem snapshotsInv_reaches {tokensPerSecond : UInt64} {s : StatusSnapshots}
    (hstatus : status.WellFormed)
    (hregistered : status.makeSnapshot tokensPerSecond = .ok registered)
    (h : Reaches (step ratesDiffer) NoWrap (start status agentId name registered) s) :
    s.SnapshotsInv :=
  h.invariant SnapshotsInv (start_snapshotsInv hstatus hregistered)
    fun _ _ _ hs hwrap => hs.step hwrap

/-- **Convergence.**  Whatever the agent did to its status before it registered: in every run from
then on in which the version counter does not wrap, each snapshot that is delivered is shown by the
controller, the result is `Updated` exactly if a field changed, and a snapshot older than one
received changes nothing. -/
theorem converges (hrates : ∀ rate, ratesDiffer rate rate = false) (desiredSlotsTotal : Int)
    (before : List StatusMutation) {tokensPerSecond : UInt64}
    (hregistered : (before.foldl StatusMutation.apply
      (SlotAggregatedStatus.new desiredSlotsTotal)).makeSnapshot tokensPerSecond = .ok registered)
    {s : StatusSnapshots}
    (h : Reaches (step ratesDiffer) NoWrap
      (start (before.foldl StatusMutation.apply (SlotAggregatedStatus.new desiredSlotsTotal))
        agentId name registered) s) :
    (∀ snapshot rest, s.inFlight = snapshot :: rest →
      (s.step ratesDiffer .deliver).controller.Shows snapshot ∧
        ((s.controller.updateFromSlotAggregatedStatusSnapshot ratesDiffer snapshot).1 = .updated ↔
          (s.step ratesDiffer .deliver).controller.DiffersFrom s.controller)) ∧
      (∀ snapshot, s.received.getLast? = some snapshot → s.controller.Shows snapshot) ∧
      ∀ received ∈ s.received, ∀ snapshot : SlotAggregatedStatusSnapshot,
        snapshot.version < received.version →
          s.controller.updateFromSlotAggregatedStatusSnapshot ratesDiffer snapshot =
            (.noMeaningfulChanges, s.controller) := by
  have hstatus := StatusMutation.foldl_wellFormed before
    (SlotAggregatedStatus.new_wellFormed desiredSlotsTotal)
  have hinv := snapshotsInv_reaches hstatus hregistered h
  refine ⟨?_, hinv.shows, ?_⟩
  · intro snapshot rest hflight
    have hcontroller : (s.step ratesDiffer .deliver).controller =
        (s.controller.updateFromSlotAggregatedStatusSnapshot ratesDiffer snapshot).2 := by
      simp only [step, hflight]
    rw [hcontroller]
    refine ⟨update_of_newer ?_, update_updated_iff hrates⟩
    exact hinv.newestFirst snapshot (by rw [hflight]; exact List.mem_cons_self)
  · intro received hreceived snapshot hversion
    exact older_changes_nothing hstatus h hreceived hversion

/-- The version goes up twice for each request that takes a slot and releases it. -/
theorem foldl_requests {slots : Int} :
    ∀ (n : Nat) {self : SlotAggregatedStatus}, self.slotsProcessing = 0 → self.slotsTotal = slots →
      self.version + 2 * n ≤ 2147483647 → self.WellFormed →
      ((List.replicate n [StatusMutation.takeSlot, .releaseSlot]).flatten.foldl
          StatusMutation.apply self).version = self.version + 2 * n ∧
        ((List.replicate n [StatusMutation.takeSlot, .releaseSlot]).flatten.foldl
          StatusMutation.apply self).slotsTotal = slots
  | 0, self, _, hslots, _, _ => by simp [hslots]
  | n + 1, self, hidle, hslots, hversion, hwell => by
    have htaken := StatusMutation.apply_wellFormed hwell .takeSlot
    have hreleased := StatusMutation.apply_wellFormed htaken .releaseSlot
    have hfirst : (StatusMutation.takeSlot.apply self).version = self.version + 1 :=
      StatusMutation.apply_version_of_noWrap hwell
        (show self.version + 1 ≤ 2147483647 by omega)
    have hsecond : (StatusMutation.releaseSlot.apply (StatusMutation.takeSlot.apply self)).version =
        self.version + 1 + 1 := by
      rw [← hfirst]
      exact StatusMutation.apply_version_of_noWrap htaken
        (show (StatusMutation.takeSlot.apply self).version + 1 ≤ 2147483647 by omega)
    have hzero : (StatusMutation.releaseSlot.apply
        (StatusMutation.takeSlot.apply self)).slotsProcessing = 0 := by
      show wrappingI32 (wrappingI32 (self.slotsProcessing + 1) - 1) = 0
      rw [hidle]
      decide
    obtain ⟨hafter, hkept⟩ := foldl_requests n hzero hslots (by rw [hsecond]; omega) hreleased
    rw [List.replicate_succ, List.flatten_cons, List.foldl_append]
    refine ⟨?_, hkept⟩
    have hpair : [StatusMutation.takeSlot, .releaseSlot].foldl StatusMutation.apply self =
        StatusMutation.releaseSlot.apply (StatusMutation.takeSlot.apply self) := rfl
    rw [hpair, hafter, hsecond]
    omega

/-- At version `i32::MAX` a reset of the status is never shown. -/
theorem reset_discarded {tokensPerSecond : UInt64} (hstatus : status.WellFormed)
    (hversion : status.version = 2147483647)
    (hregistered : status.makeSnapshot tokensPerSecond = .ok registered) :
    ∃ snapshot,
      let s := [StatusSnapshotsInput.mutate .reset, .takeSnapshot tokensPerSecond].foldl
        (step ratesDiffer) (start status agentId name registered)
      s.inFlight = [snapshot] ∧ snapshot.slotsTotal = 0 ∧
        (s.step ratesDiffer .deliver).controller.slotsTotal = registered.slotsTotal := by
  have hreset := StatusMutation.apply_wellFormed hstatus .reset
  have hwrapped : (StatusMutation.reset.apply status).version = -2147483647 := by
    rw [StatusMutation.apply_version hstatus, hversion]
    decide
  obtain ⟨snapshot, hsnapshot⟩ :=
    SlotAggregatedStatus.makeSnapshot_of_wellFormed hreset tokensPerSecond
  have hzero : snapshot.slotsTotal = 0 := SlotAggregatedStatus.makeSnapshot_slotsTotal hsnapshot
  have holder : snapshot.version <
      (AgentController.fromRegisterAgentParams agentId ⟨name, registered⟩).newestUpdateVersion := by
    show snapshot.version < registered.version
    rw [SlotAggregatedStatus.makeSnapshot_version hsnapshot, hwrapped,
      SlotAggregatedStatus.makeSnapshot_version hregistered, hversion]
    decide
  refine ⟨snapshot, ?_, hzero, ?_⟩
  · simp only [List.foldl_cons, List.foldl_nil, step, start, hsnapshot, List.nil_append]
  · simp only [List.foldl_cons, List.foldl_nil, step, start, hsnapshot, List.nil_append,
      update_of_older holder]
    rfl

/-- The mutations of an agent with one slot that has answered `2 ^ 30 - 1` requests: its version is
`i32::MAX`. -/
def longUptime : List StatusMutation :=
  .incrementTotalSlots ::
    (List.replicate 1073741823 [StatusMutation.takeSlot, .releaseSlot]).flatten

theorem foldl_longUptime :
    (longUptime.foldl StatusMutation.apply (SlotAggregatedStatus.new 1)).version = 2147483647 ∧
      (longUptime.foldl StatusMutation.apply (SlotAggregatedStatus.new 1)).slotsTotal = 1 := by
  have hwell := StatusMutation.apply_wellFormed (SlotAggregatedStatus.new_wellFormed 1)
    .incrementTotalSlots
  have hfirst : (StatusMutation.incrementTotalSlots.apply (SlotAggregatedStatus.new 1)).version = 1 :=
    rfl
  have hidle : (StatusMutation.incrementTotalSlots.apply
      (SlotAggregatedStatus.new 1)).slotsProcessing =
    0 := rfl
  have hone : (StatusMutation.incrementTotalSlots.apply (SlotAggregatedStatus.new 1)).slotsTotal = 1 :=
    rfl
  unfold longUptime
  rw [List.foldl_cons]
  generalize StatusMutation.incrementTotalSlots.apply (SlotAggregatedStatus.new 1) = status at *
  obtain ⟨hversion, hslots⟩ := foldl_requests 1073741823 hidle hone (by omega) hwell
  exact ⟨by omega, hslots⟩

/-- **A wrapped version is discarded.**  The agent registers with version `i32::MAX` and then drops
its slots: the snapshot has an older version, and the controller keeps the slot. -/
theorem discards_after_wrap :
    ∃ registered snapshot,
      (longUptime.foldl StatusMutation.apply (SlotAggregatedStatus.new 1)).makeSnapshot 0 =
        .ok registered ∧
      let s := [StatusSnapshotsInput.mutate .reset, .takeSnapshot 0].foldl (step fun _ _ => false)
        (start (longUptime.foldl StatusMutation.apply (SlotAggregatedStatus.new 1)) "agent" none
          registered)
      s.inFlight = [snapshot] ∧ snapshot.slotsTotal = 0 ∧
        (s.step (fun _ _ => false) .deliver).controller.slotsTotal = 1 := by
  have hwell := StatusMutation.foldl_wellFormed longUptime (SlotAggregatedStatus.new_wellFormed 1)
  obtain ⟨hversion, hslots⟩ := foldl_longUptime
  generalize longUptime.foldl StatusMutation.apply (SlotAggregatedStatus.new 1) = status at *
  obtain ⟨registered, hregistered⟩ := SlotAggregatedStatus.makeSnapshot_of_wellFormed hwell 0
  have hone : registered.slotsTotal = 1 :=
    (SlotAggregatedStatus.makeSnapshot_slotsTotal hregistered).trans hslots
  obtain ⟨snapshot, hflight, hzero, hcontroller⟩ :=
    @reset_discarded (fun _ _ => false) _ "agent" none _ _ hwell hversion hregistered
  exact ⟨registered, snapshot, hregistered, hflight, hzero, hcontroller.trans hone⟩

/-- A run in which the controller is told of a model, and then of a slot. -/
theorem converges_modelAndSlot :
    let registered : SlotAggregatedStatusSnapshot :=
      ⟨1, 0, none, true, 0, ∅, none, 0, 0, .fresh, 0, false, 0⟩
    let snapshot : SlotAggregatedStatusSnapshot :=
      { registered with modelPath := some "model", slotsTotal := 1, version := 2 }
    let s := [StatusSnapshotsInput.mutate (.setModelPath (some "model")), .takeSnapshot 0,
        .mutate .incrementTotalSlots, .takeSnapshot 0, .deliver].foldl (step fun _ _ => false)
      (start (SlotAggregatedStatus.new 1) "agent" none registered)
    s.inFlight = [snapshot] ∧ (s.step (fun _ _ => false) .deliver).controller.Shows snapshot := by
  intro registered snapshot s
  have hrun : Reaches (step fun _ _ => false) NoWrap
      (start (SlotAggregatedStatus.new 1) "agent" none registered) s :=
    Reaches.along _ (by decide) .start
  have hflight : s.inFlight = [snapshot] := by decide
  have hregistered : (SlotAggregatedStatus.new 1).makeSnapshot 0 = .ok registered := rfl
  exact ⟨hflight, ((converges (fun _ => rfl) 1 [] hregistered hrun).1 snapshot [] hflight).1⟩

end StatusSnapshots

end Paddler
