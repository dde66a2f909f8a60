import Paddler.Balancer.SlotAccounting
import Paddler.Library.AssocList
import Paddler.Library.VecUpdate

/-!
# Dispatching requests to agents

Model of `select_least_busy_with_capacity`, `try_claim` and `take_least_busy_agent_controller` at
the grain of their atomic operations.  A scan loads `slots_processing` and `slots_total` of an entry
in two steps, the compare-and-swap is a step, and sending on `update_tx` is a step after the change
it announces.  Everything else that touches the pool runs in between: slot guards are dropped,
agents register, report their status and leave.

The iterator of the map visits every entry that is there from its start to its end; an entry that
comes or goes meanwhile may be visited or not.

* `TakeMove`, `DispatchStep` — everything a step can do; `step_dispatchStep` — inversion.
* `LeastBusy` — what a scan promises about its candidate.
* `dispatch_withinSlots` — **no agent is over-committed**, and what a dispatch returns is what it
  claimed.
-/

set_option autoImplicit false

namespace Paddler

open Run VecUpdate AssocList

/-! ## One call of `take_least_busy_agent_controller` -/

/-- What a scan read of one entry. -/
structure Reading where
  agentController : Nat
  snapshot : Int
  slotsTotal : Int
  deriving DecidableEq, Repr

/-- The check of the scan. -/
def Reading.hasCapacity (self : Reading) : Bool := !decide (self.slotsTotal ≤ self.snapshot)

/-- The loop body of `select_least_busy_with_capacity`, once both counters are loaded. -/
def keepLeastBusy (best : Option DispatchCandidate) (reading : Reading) :
    Option DispatchCandidate :=
  if reading.hasCapacity then
    match best with
    | some current =>
      if current.snapshot ≤ reading.snapshot then some current
      else some ⟨reading.agentController, reading.snapshot⟩
    | none => some ⟨reading.agentController, reading.snapshot⟩
  else best

/-- Where a call is.  `scanned` is what the scan has read since it started last; `loaded` is an
entry of which only `slots_processing` is loaded. -/
inductive TakeCall where
  | scanning (unvisited : List String) (loaded : Option DispatchCandidate) (scanned : List Reading)
      (best : Option DispatchCandidate)
  | claiming (scanned : List Reading) (candidate : DispatchCandidate)
  | claimed (scanned : List Reading) (candidate : DispatchCandidate)
  | returned (scanned : List Reading) (result : Option DispatchCandidate)
  deriving DecidableEq, Repr

namespace TakeCall

/-- The scan gets to `agentId`: the entry is there and its `slots_processing` is loaded, or it is
gone. -/
def visit (self : TakeCall) (agentId : String) (entry : Option (Nat × AgentController)) :
    TakeCall :=
  match self with
  | .scanning unvisited none scanned best =>
    .scanning (unvisited.filter (· != agentId))
      (entry.map fun e => ⟨e.1, e.2.slotsProcessing⟩) scanned best
  | other => other

/-- `slots_total` of the loaded entry is compared. -/
def check (self : TakeCall) (agentControllers : List AgentController) : TakeCall :=
  match self with
  | .scanning unvisited (some loaded) scanned best =>
    match agentControllers[loaded.agentController]? with
    | some controller =>
      let reading : Reading := ⟨loaded.agentController, loaded.snapshot, controller.slotsTotal⟩
      .scanning unvisited none (scanned ++ [reading]) (keepLeastBusy best reading)
    | none => self
  | other => other

/-- The iterator is through. -/
def endScan (self : TakeCall) : TakeCall :=
  match self with
  | .scanning [] none scanned (some candidate) => .claiming scanned candidate
  | .scanning [] none scanned none => .returned scanned none
  | other => other

end TakeCall

/-! ## The pool with everything in progress -/

/-- An operation that is in the middle of its steps: a status update that looked its controller up,
or a change that is not announced yet. -/
inductive PoolOperation where
  | updating (agentController : Nat) (snapshot : SlotAggregatedStatusSnapshot)
  | signalling
  deriving DecidableEq

/-- History of the slot counters: a swap by the call `take` that found `snapshot` of `slotsTotal`
slots in use, or a dropped guard. -/
inductive SlotEvent where
  | claimed (take agentController : Nat) (snapshot slotsTotal : Int)
  | released (agentController : Nat)
  deriving DecidableEq, Repr

/-- Whether the event is a claim of the call. -/
def SlotEvent.claimedBy (take : Nat) : SlotEvent → Bool
  | .claimed take' .. => take' == take
  | .released _ => false

/-- What the event adds to the counter of a controller. -/
def SlotEvent.change (agentController : Nat) : SlotEvent → Int
  | .claimed _ agentController' .. => if agentController' = agentController then 1 else 0
  | .released agentController' => if agentController' = agentController then -1 else 0

/-- What a history adds to the counter of a controller. -/
def slotChanges (agentController : Nat) : List SlotEvent → Int
  | [] => 0
  | event :: events => event.change agentController + slotChanges agentController events

theorem slotChanges_append (agentController : Nat) (events events' : List SlotEvent) :
    slotChanges agentController (events ++ events') =
      slotChanges agentController events + slotChanges agentController events' := by
  induction events with
  | nil => simp [slotChanges]
  | cons event events ih =>
    simp only [List.cons_append, slotChanges, ih]
    omega

/-- The pool, the controllers behind the `Arc`s, every call of `take_least_busy_agent_controller`
made so far, the `Arc`s of the live slot guards, and what else is going on.  `history` records every
change of a slot counter. -/
structure Dispatch where
  agentControllerPool : AgentControllerPool
  agentControllers : List AgentController
  takes : List TakeCall
  slotGuards : List Nat
  operations : List PoolOperation
  history : List SlotEvent
  deriving DecidableEq

/-- What can happen next. -/
inductive DispatchInput where
  | take
  | visit (take : Nat) (agentId : String)
  | check (take : Nat)
  | endScan (take : Nat)
  | tryClaim (take : Nat)
  | announceClaim (take : Nat)
  | dropSlotGuard (guard : Nat)
  | registerAgentController (agentId : String) (params : RegisterAgentParams)
  | removeAgentController (agentId : String)
  | updateAgentStatus (agentId : String) (snapshot : SlotAggregatedStatusSnapshot)
  | store (operation : Nat)
  | signalUpdate (operation : Nat)

/-- The entry of `agents` is set. -/
def AgentControllerPool.insert (self : AgentControllerPool) (agentId : String) (agent : Nat) :
    AgentControllerPool :=
  { self with agents := insertKey agentId agent self.agents }

/-- The entry of `agents` is taken out. -/
def AgentControllerPool.erase (self : AgentControllerPool) (agentId : String) :
    AgentControllerPool :=
  { self with agents := eraseKey agentId self.agents }

namespace AgentControllerPool

@[simp]
theorem getAgentController_insert_self (self : AgentControllerPool) (agentId : String)
    (agent : Nat) :
    (self.insert agentId agent).getAgentController agentId = some agent :=
  lookup_insertKey_self agentId agent self.agents

theorem getAgentController_insert_ne (self : AgentControllerPool) {agentId other : String}
    (hne : other ≠ agentId) (agent : Nat) :
    (self.insert agentId agent).getAgentController other = self.getAgentController other :=
  lookup_insertKey_ne hne agent self.agents

@[simp]
theorem getAgentController_erase_self (self : AgentControllerPool) (agentId : String) :
    (self.erase agentId).getAgentController agentId = none :=
  lookup_eraseKey_self agentId self.agents

theorem getAgentController_erase_ne (self : AgentControllerPool) {agentId other : String}
    (hne : other ≠ agentId) :
    (self.erase agentId).getAgentController other = self.getAgentController other :=
  lookup_eraseKey_ne hne self.agents

end AgentControllerPool

/-- A registration is an insertion, announced only if the id was new. -/
theorem registerAgentController_eq (pool : AgentControllerPool) (agentId : String) (agent : Nat) :
    (pool.registerAgentController agentId agent).2 =
      if (pool.getAgentController agentId).isNone then (pool.insert agentId agent).signalUpdate
      else pool.insert agentId agent := by
  unfold AgentControllerPool.registerAgentController
  cases hget : pool.getAgentController agentId <;> rfl

theorem removeAgentController_eq (pool : AgentControllerPool) (agentId : String) :
    (pool.removeAgentController agentId).2 =
      if (pool.getAgentController agentId).isSome then (pool.erase agentId).signalUpdate
      else pool := by
  unfold AgentControllerPool.removeAgentController
  cases hget : pool.getAgentController agentId <;> rfl

theorem visitEntry_eq (best : Option DispatchCandidate) (arc : Nat) (controller : AgentController) :
    visitEntry best arc controller =
      keepLeastBusy best ⟨arc, controller.slotsProcessing, controller.slotsTotal⟩ := rfl

namespace Dispatch

/-- A pool that nobody uses. -/
def new : Dispatch := ⟨⟨[], 0⟩, [], [], [], [], []⟩

/-- The entry of an agent id. -/
def entry (self : Dispatch) (agentId : String) : Option (Nat × AgentController) :=
  match self.agentControllerPool.getAgentController agentId with
  | none => none
  | some arc => self.agentControllers[arc]?.map (arc, ·)

/-- A scan starts. -/
def startScan (self : Dispatch) : TakeCall :=
  .scanning (self.agentControllerPool.agents.map (·.1)) none [] none

/-- `try_claim`, up to its `send_replace`; on failure the loop starts over. -/
def tryClaim (self : Dispatch) (take : Nat) (scanned : List Reading)
    (candidate : DispatchCandidate) :
    Dispatch :=
  match self.agentControllers[candidate.agentController]? with
  | none => self
  | some controller =>
    match compareAndSwap controller.slotsProcessing candidate.snapshot (candidate.snapshot + 1) with
    | (true, slotsProcessing) =>
      { self with
        agentControllers := self.agentControllers.set candidate.agentController
          { controller with slotsProcessing := slotsProcessing }
        takes := self.takes.set take (.claimed scanned candidate)
        history := self.history ++
          [.claimed take candidate.agentController controller.slotsProcessing controller.slotsTotal] }
    | (false, _) => { self with takes := self.takes.set take self.startScan }

/-- `Drop for AgentControllerSlotGuard`, up to its `send_replace`. -/
def dropSlotGuard (self : Dispatch) (guard : Nat) : Dispatch :=
  match self.slotGuards[guard]? with
  | none => self
  | some arc =>
    { self with
      agentControllers := self.agentControllers.modify arc fun controller =>
        { controller with slotsProcessing := controller.slotsProcessing - 1 }
      slotGuards := self.slotGuards.eraseIdx guard
      operations := self.operations ++ [.signalling]
      history := self.history ++ [.released arc] }

/-- `register_agent_controller`, up to its `send_replace`. -/
def registerAgentController (self : Dispatch) (agentId : String) (params : RegisterAgentParams) :
    Dispatch :=
  { self with
    agentControllers :=
      self.agentControllers ++ [AgentController.fromRegisterAgentParams agentId params]
    agentControllerPool := self.agentControllerPool.insert agentId self.agentControllers.length
    operations :=
      match self.agentControllerPool.getAgentController agentId with
      | none => self.operations ++ [.signalling]
      | some _ => self.operations }

/-- `remove_agent_controller`, up to its `send_replace`. -/
def removeAgentController (self : Dispatch) (agentId : String) : Dispatch :=
  match self.agentControllerPool.getAgentController agentId with
  | none => self
  | some _ =>
    { self with
      agentControllerPool := self.agentControllerPool.erase agentId
      operations := self.operations ++ [.signalling] }

/-- `update_from_slot_aggregated_status_snapshot` of a status update that found its controller. -/
def store (ratesDiffer : UInt64 → UInt64 → Bool) (self : Dispatch) (operation : Nat) : Dispatch :=
  match self.operations[operation]? with
  | some (.updating arc snapshot) =>
    match self.agentControllers[arc]? with
    | none => self
    | some controller =>
      let updated := controller.updateFromSlotAggregatedStatusSnapshot ratesDiffer snapshot
      { self with
        agentControllers := self.agentControllers.set arc updated.2
        operations :=
          match updated.1 with
          | .updated => self.operations.set operation .signalling
          | .noMeaningfulChanges => self.operations.eraseIdx operation }
  | _ => self

/-- One step.  An input that is not enabled changes nothing. -/
def step (ratesDiffer : UInt64 → UInt64 → Bool) (self : Dispatch) : DispatchInput → Dispatch
  | .take => { self with takes := self.takes ++ [self.startScan] }
  | .visit take agentId =>
    { self with takes := self.takes.modify take (·.visit agentId (self.entry agentId)) }
  | .check take => { self with takes := self.takes.modify take (·.check self.agentControllers) }
  | .endScan take => { self with takes := self.takes.modify take (·.endScan) }
  | .tryClaim take =>
    match self.takes[take]? with
    | some (.claiming scanned candidate) => self.tryClaim take scanned candidate
    | _ => self
  | .announceClaim take =>
    match self.takes[take]? with
    | some (.claimed scanned candidate) =>
      { self with
        takes := self.takes.set take (.returned scanned (some candidate))
        agentControllerPool := self.agentControllerPool.signalUpdate
        slotGuards := self.slotGuards ++ [candidate.agentController] }
    | _ => self
  | .dropSlotGuard guard => self.dropSlotGuard guard
  | .registerAgentController agentId params => self.registerAgentController agentId params
  | .removeAgentController agentId => self.removeAgentController agentId
  | .updateAgentStatus agentId snapshot =>
    match self.agentControllerPool.getAgentController agentId with
    | some arc => { self with operations := self.operations ++ [.updating arc snapshot] }
    | none => self
  | .store operation => self.store ratesDiffer operation
  | .signalUpdate operation =>
    match self.operations[operation]? with
    | some .signalling =>
      { self with
        agentControllerPool := self.agentControllerPool.signalUpdate
        operations := self.operations.eraseIdx operation }
    | _ => self

/-- A whole run. -/
def run (ratesDiffer : UInt64 → UInt64 → Bool) (self : Dispatch) (inputs : List DispatchInput) :
    Dispatch :=
  inputs.foldl (step ratesDiffer) self

/-- The claims of a call. -/
def claimsOf (self : Dispatch) (take : Nat) : List SlotEvent :=
  self.history.filter (·.claimedBy take)

end Dispatch

/-! ## Inversion -/

/-- What a step can do to a call on its own. -/
inductive TakeMove (s : Dispatch) : TakeCall → TakeCall → Prop where
  | stay (call : TakeCall) : TakeMove s call call
  | visited (agentId : String) {unvisited : List String} {scanned : List Reading}
      {best : Option DispatchCandidate} :
      TakeMove s (.scanning unvisited none scanned best)
        (.scanning (unvisited.filter (· != agentId))
          ((s.entry agentId).map fun e => ⟨e.1, e.2.slotsProcessing⟩) scanned best)
  | checked {unvisited : List String} {loaded : DispatchCandidate} {scanned : List Reading}
      {best : Option DispatchCandidate} {controller : AgentController} :
      s.agentControllers[loaded.agentController]? = some controller →
      TakeMove s (.scanning unvisited (some loaded) scanned best)
        (.scanning unvisited none
          (scanned ++ [⟨loaded.agentController, loaded.snapshot, controller.slotsTotal⟩])
          (keepLeastBusy best ⟨loaded.agentController, loaded.snapshot, controller.slotsTotal⟩))
  | found {scanned : List Reading} {candidate : DispatchCandidate} :
      TakeMove s (.scanning [] none scanned (some candidate)) (.claiming scanned candidate)
  | notFound {scanned : List Reading} :
      TakeMove s (.scanning [] none scanned none) (.returned scanned none)
  | retried {scanned : List Reading} {candidate : DispatchCandidate} :
      TakeMove s (.claiming scanned candidate) s.startScan

theorem visit_takeMove (s : Dispatch) (call : TakeCall) (agentId : String) :
    TakeMove s call (call.visit agentId (s.entry agentId)) := by
  unfold TakeCall.visit
  split
  · exact .visited agentId
  · exact .stay _

theorem check_takeMove (s : Dispatch) (call : TakeCall) :
    TakeMove s call (call.check s.agentControllers) := by
  unfold TakeCall.check
  split
  · split
    · rename_i hcontroller
      exact .checked hcontroller
    · exact .stay _
  · exact .stay _

theorem endScan_takeMove (s : Dispatch) (call : TakeCall) : TakeMove s call call.endScan := by
  unfold TakeCall.endScan
  split
  · exact .found
  · exact .notFound
  · exact .stay _

/-- Everything a step can do. -/
inductive DispatchStep (ratesDiffer : UInt64 → UInt64 → Bool) (input : DispatchInput)
    (s s' : Dispatch) : Prop where
  | idle : s' = s → DispatchStep ratesDiffer input s s'
  | began : s' = { s with takes := s.takes ++ [s.startScan] } → DispatchStep ratesDiffer input s s'
  | moved {take : Nat} {call call' : TakeCall} :
      s.takes[take]? = some call → TakeMove s call call' →
      s' = { s with takes := s.takes.set take call' } → DispatchStep ratesDiffer input s s'
  | claimed {take : Nat} {scanned : List Reading} {candidate : DispatchCandidate}
      {controller : AgentController} :
      s.takes[take]? = some (.claiming scanned candidate) →
      s.agentControllers[candidate.agentController]? = some controller →
      controller.slotsProcessing = candidate.snapshot →
      s' = { s with
        agentControllers := s.agentControllers.set candidate.agentController
          { controller with slotsProcessing := candidate.snapshot + 1 }
        takes := s.takes.set take (.claimed scanned candidate)
        history := s.history ++
          [.claimed take candidate.agentController candidate.snapshot controller.slotsTotal] } →
      DispatchStep ratesDiffer input s s'
  | announced {take : Nat} {scanned : List Reading} {candidate : DispatchCandidate} :
      s.takes[take]? = some (.claimed scanned candidate) →
      s' = { s with
        takes := s.takes.set take (.returned scanned (some candidate))
        agentControllerPool := s.agentControllerPool.signalUpdate
        slotGuards := s.slotGuards ++ [candidate.agentController] } →
      DispatchStep ratesDiffer input s s'
  | released {guard arc : Nat} :
      s.slotGuards[guard]? = some arc →
      s' = { s with
        agentControllers := s.agentControllers.modify arc fun controller =>
          { controller with slotsProcessing := controller.slotsProcessing - 1 }
        slotGuards := s.slotGuards.eraseIdx guard
        operations := s.operations ++ [.signalling]
        history := s.history ++ [.released arc] } →
      DispatchStep ratesDiffer input s s'
  | registered {agentId : String} {params : RegisterAgentParams} :
      input = .registerAgentController agentId params →
      s' = s.registerAgentController agentId params → DispatchStep ratesDiffer input s s'
  | removed {agentId : String} :
      s' = { s with
        agentControllerPool := s.agentControllerPool.erase agentId
        operations := s.operations ++ [.signalling] } →
      DispatchStep ratesDiffer input s s'
  | looked {arc : Nat} {snapshot : SlotAggregatedStatusSnapshot} :
      s' = { s with operations := s.operations ++ [.updating arc snapshot] } →
      DispatchStep ratesDiffer input s s'
  | stored {operation arc : Nat} {snapshot : SlotAggregatedStatusSnapshot}
      {controller : AgentController} :
      s.operations[operation]? = some (.updating arc snapshot) →
      s.agentControllers[arc]? = some controller →
      s' = { s with
        agentControllers := s.agentControllers.set arc
          (controller.updateFromSlotAggregatedStatusSnapshot ratesDiffer snapshot).2
        operations :=
          match (controller.updateFromSlotAggregatedStatusSnapshot ratesDiffer snapshot).1 with
          | .updated => s.operations.set operation .signalling
          | .noMeaningfulChanges => s.operations.eraseIdx operation } →
      DispatchStep ratesDiffer input s s'
  | signalled {operation : Nat} :
      s.operations[operation]? = some .signalling →
      s' = { s with
        agentControllerPool := s.agentControllerPool.signalUpdate
        operations := s.operations.eraseIdx operation } →
      DispatchStep ratesDiffer input s s'

section Inversion

variable {ratesDiffer : UInt64 → UInt64 → Bool} {input : DispatchInput}

theorem modify_dispatchStep {s : Dispatch} {take : Nat} {f : TakeCall → TakeCall}
    (hmove : ∀ call, TakeMove s call (f call)) :
    DispatchStep ratesDiffer input s { s with takes := s.takes.modify take f } := by
  cases hcall : s.takes[take]? with
  | none =>
    refine .idle ?_
    rw [List.modify_eq_set_getElem?, hcall]
    rfl
  | some call =>
    refine .moved hcall (hmove call) ?_
    rw [List.modify_eq_set_getElem?, hcall]
    rfl

theorem tryClaim_dispatchStep {s : Dispatch} {take : Nat} {scanned : List Reading}
    {candidate : DispatchCandidate} (hcall : s.takes[take]? = some (.claiming scanned candidate)) :
    DispatchStep ratesDiffer input s (s.tryClaim take scanned candidate) := by
  unfold Dispatch.tryClaim
  split
  · exact .idle rfl
  · rename_i controller hcontroller
    unfold compareAndSwap
    by_cases hread : controller.slotsProcessing = candidate.snapshot
    · simp only [hread, if_true]
      exact .claimed hcall hcontroller hread rfl
    · simp only [hread, if_false]
      exact .moved hcall .retried rfl

theorem store_dispatchStep (s : Dispatch) (operation : Nat) :
    DispatchStep ratesDiffer input s (s.store ratesDiffer operation) := by
  unfold Dispatch.store
  split
  · rename_i hoperation
    split
    · exact .idle rfl
    · rename_i hcontroller
      exact .stored hoperation hcontroller rfl
  · exact .idle rfl

/-- **Inversion.** -/
theorem step_dispatchStep (s : Dispatch) (input : DispatchInput) :
    DispatchStep ratesDiffer input s (s.step ratesDiffer input) := by
  cases input with
  | take => exact .began rfl
  | visit take agentId => exact modify_dispatchStep fun call => visit_takeMove s call agentId
  | check take => exact modify_dispatchStep fun call => check_takeMove s call
  | endScan take => exact modify_dispatchStep fun call => endScan_takeMove s call
  | tryClaim take =>
    simp only [Dispatch.step]
    split
    · rename_i hcall
      exact tryClaim_dispatchStep hcall
    · exact .idle rfl
  | announceClaim take =>
    simp only [Dispatch.step]
    split
    · rename_i hcall
      exact .announced hcall rfl
    · exact .idle rfl
  | dropSlotGuard guard =>
    simp only [Dispatch.step, Dispatch.dropSlotGuard]
    split
    · exact .idle rfl
    · rename_i hguard
      exact .released hguard rfl
  | registerAgentController agentId params => exact .registered rfl rfl
  | removeAgentController agentId =>
    simp only [Dispatch.step, Dispatch.removeAgentController]
    split
    · exact .idle rfl
    · exact .removed rfl
  | updateAgentStatus agentId snapshot =>
    simp only [Dispatch.step]
    split
    · exact .looked rfl
    · exact .idle rfl
  | store operation => exact store_dispatchStep s operation
  | signalUpdate operation =>
    simp only [Dispatch.step]
    split
    · rename_i hoperation
      exact .signalled hoperation rfl
    · exact .idle rfl

end Inversion

/-! ## The scan -/

/-- The candidate was read with a free slot, and no entry with a free slot was read with less
load. -/
structure LeastBusy (scanned : List Reading) (candidate : DispatchCandidate) : Prop where
  read : ∃ reading ∈ scanned, reading.agentController = candidate.agentController ∧
    reading.snapshot = candidate.snapshot ∧ reading.hasCapacity = true
  least : ∀ reading ∈ scanned, reading.hasCapacity = true → candidate.snapshot ≤ reading.snapshot

/-- `best` is right about what was read so far. -/
def BestOf (scanned : List Reading) : Option DispatchCandidate → Prop
  | some candidate => LeastBusy scanned candidate
  | none => ∀ reading ∈ scanned, reading.hasCapacity = false

theorem leastBusy_singleton {scanned : List Reading} {reading : Reading}
    (hcapacity : reading.hasCapacity = true)
    (hleast : ∀ other ∈ scanned, other.hasCapacity = true → reading.snapshot ≤ other.snapshot) :
    LeastBusy (scanned ++ [reading]) ⟨reading.agentController, reading.snapshot⟩ := by
  refine ⟨⟨reading, by simp, rfl, rfl, hcapacity⟩, ?_⟩
  intro other hother hfree
  rcases List.mem_append.mp hother with hother | hother
  · exact hleast other hother hfree
  · rw [List.mem_singleton.mp hother]

theorem keepLeastBusy_bestOf {scanned : List Reading} {best : Option DispatchCandidate}
    (h : BestOf scanned best) (reading : Reading) :
    BestOf (scanned ++ [reading]) (keepLeastBusy best reading) := by
  unfold keepLeastBusy
  by_cases hcapacity : reading.hasCapacity = true
  · rw [if_pos hcapacity]
    cases best with
    | none =>
      refine leastBusy_singleton hcapacity fun other hother hfree => ?_
      rw [h other hother] at hfree
      cases hfree
    | some current =>
      by_cases hle : current.snapshot ≤ reading.snapshot
      · simp only [hle, if_true]
        obtain ⟨kept, hkept, hread⟩ := h.read
        refine ⟨⟨kept, List.mem_append_left _ hkept, hread⟩, ?_⟩
        intro other hother hfree
        rcases List.mem_append.mp hother with hother | hother
        · exact h.least other hother hfree
        · rw [List.mem_singleton.mp hother]
          exact hle
      · simp only [hle, if_false]
        refine leastBusy_singleton hcapacity fun other hother hfree => ?_
        have hleast := h.least other hother hfree
        omega
  · rw [if_neg hcapacity]
    have hfull : reading.hasCapacity = false := by simpa using hcapacity
    cases best with
    | none =>
      intro other hother
      rcases List.mem_append.mp hother with hother | hother
      · exact h other hother
      · rw [List.mem_singleton.mp hother, hfull]
    | some current =>
      obtain ⟨kept, hkept, hread⟩ := h.read
      refine ⟨⟨kept, List.mem_append_left _ hkept, hread⟩, ?_⟩
      intro other hother hfree
      rcases List.mem_append.mp hother with hother | hother
      · exact h.least other hother hfree
      · rw [List.mem_singleton.mp hother, hfull] at hfree
        cases hfree

/-! ## The counters -/

/-- What a step does to the counter of one controller is what it writes into the history. -/
theorem step_slotsProcessing {ratesDiffer : UInt64 → UInt64 → Bool} {input : DispatchInput}
    {s s' : Dispatch}
    (hstep : DispatchStep ratesDiffer input s s') {arc : Nat} {controller' : AgentController}
    (hget : s'.agentControllers[arc]? = some controller') :
    ∃ events, s'.history = s.history ++ events ∧
      ((∃ controller, s.agentControllers[arc]? = some controller ∧
          controller'.registeredWith = controller.registeredWith ∧
          controller'.slotsProcessing =
            controller.slotsProcessing + slotChanges arc events) ∨
        (arc = s.agentControllers.length ∧ events = [] ∧
          controller'.slotsProcessing = controller'.registeredWith.slotsProcessing)) := by
  cases hstep with
  | idle h | began h | moved _ _ h | announced _ h | removed h | looked h | signalled _ h =>
    subst h
    exact ⟨[], (List.append_nil _).symm, Or.inl ⟨controller', hget, rfl, by simp [slotChanges]⟩⟩
  | @claimed take scanned candidate controller hcall hcontroller hread h =>
    subst h
    refine ⟨_, rfl, Or.inl ?_⟩
    rcases getElem?_set_cases hget with ⟨rfl, rfl⟩ | ⟨hne, hget⟩
    · exact ⟨controller, hcontroller, rfl, by simp [slotChanges, SlotEvent.change, hread]⟩
    · exact ⟨controller', hget, rfl, by simp [slotChanges, SlotEvent.change, Ne.symm hne]⟩
  | @released guard freed hguard h =>
    subst h
    refine ⟨_, rfl, Or.inl ?_⟩
    rw [List.getElem?_modify] at hget
    by_cases heq : freed = arc
    · simp only [heq, if_true, Option.map_eq_map, Option.map_eq_some_iff] at hget
      obtain ⟨controller, hcontroller, rfl⟩ := hget
      refine ⟨controller, hcontroller, rfl, ?_⟩
      have hchange : slotChanges arc [SlotEvent.released freed] = -1 := by
        simp [slotChanges, SlotEvent.change, heq]
      rw [hchange]
      rfl
    · simp only [heq, if_false, Option.map_eq_map, Option.map_id'] at hget
      exact ⟨controller', hget, rfl, by simp [slotChanges, SlotEvent.change, heq]⟩
  | @registered agentId params _ h =>
    subst h
    refine ⟨[], (List.append_nil _).symm, ?_⟩
    rcases getElem?_push_cases hget with hget | ⟨rfl, rfl⟩
    · exact Or.inl ⟨controller', hget, rfl, by simp [slotChanges]⟩
    · exact Or.inr ⟨rfl, rfl, rfl⟩
  | @stored operation arc' snapshot controller hoperation hcontroller h =>
    subst h
    refine ⟨[], (List.append_nil _).symm, Or.inl ?_⟩
    rcases getElem?_set_cases hget with ⟨rfl, rfl⟩ | ⟨hne, hget⟩
    · obtain ⟨hslots, hregistered⟩ := updateFromSnapshot_keeps ratesDiffer controller snapshot
      exact ⟨controller, hcontroller, hregistered, by simpa [slotChanges] using hslots⟩
    · exact ⟨controller', hget, rfl, by simp [slotChanges]⟩

theorem step_length {ratesDiffer : UInt64 → UInt64 → Bool} {input : DispatchInput} {s s' : Dispatch}
    (hstep : DispatchStep ratesDiffer input s s') :
    s.agentControllers.length ≤ s'.agentControllers.length := by
  cases hstep with
  | idle h | began h | moved _ _ h | announced _ h | removed h | looked h | signalled _ h =>
    subst h
    exact Nat.le_refl _
  | claimed _ _ _ h | stored _ _ h =>
    subst h
    simp
  | released _ h =>
    subst h
    simp
  | registered _ h =>
    subst h
    simp [Dispatch.registerAgentController]

/-- `slots_total` of no controller changes, and a new one has no more slots in use than it has. -/
structure TotalsKept (s s' : Dispatch) : Prop where
  kept : ∀ (arc : Nat) (controller controller' : AgentController),
    s.agentControllers[arc]? = some controller → s'.agentControllers[arc]? = some controller' →
    controller'.slotsTotal = controller.slotsTotal
  fits : ∀ (arc : Nat) (controller' : AgentController),
    s.agentControllers[arc]? = none → s'.agentControllers[arc]? = some controller' →
    controller'.slotsProcessing ≤ controller'.slotsTotal

/-- The steps of dispatches and slot guards. -/
def DispatchInput.isDispatch : DispatchInput → Bool
  | .take | .visit .. | .check _ | .endScan _ | .tryClaim _ | .announceClaim _
  | .dropSlotGuard _ => true
  | _ => false

/-! ## Whole runs -/

/-- Every reading has the `slots_total` the controller still has. -/
def Dispatch.Genuine (s : Dispatch) (scanned : List Reading) : Prop :=
  ∀ reading ∈ scanned, ∃ controller,
    s.agentControllers[reading.agentController]? = some controller ∧
    controller.slotsTotal = reading.slotsTotal

/-- The call claimed this candidate and nothing else, and a slot was free. -/
def Dispatch.ClaimedOnce (s : Dispatch) (take : Nat) (candidate : DispatchCandidate) : Prop :=
  ∃ slotsTotal, candidate.snapshot < slotsTotal ∧
    s.claimsOf take = [.claimed take candidate.agentController candidate.snapshot slotsTotal]

/-- What is known of a call wherever it is. -/
def Dispatch.TakeOk (s : Dispatch) (take : Nat) : TakeCall → Prop
  | .scanning _ _ scanned best => s.claimsOf take = [] ∧ s.Genuine scanned ∧ BestOf scanned best
  | .claiming scanned candidate =>
    s.claimsOf take = [] ∧ s.Genuine scanned ∧ LeastBusy scanned candidate
  | .claimed scanned candidate => s.ClaimedOnce take candidate ∧ LeastBusy scanned candidate
  | .returned scanned (some candidate) =>
    s.ClaimedOnce take candidate ∧ LeastBusy scanned candidate
  | .returned scanned none =>
    s.claimsOf take = [] ∧ ∀ reading ∈ scanned, reading.hasCapacity = false

/-- What a controller had in use when it was first seen. -/
def Dispatch.slotsAtFirst (start : Dispatch) (arc : Nat) (controller : AgentController) : Int :=
  match start.agentControllers[arc]? with
  | some first => first.slotsProcessing
  | none => controller.registeredWith.slotsProcessing

/-- The controller of an event. -/
def SlotEvent.agentController : SlotEvent → Nat
  | .claimed _ agentController .. => agentController
  | .released agentController => agentController

theorem slotChanges_eq_zero {agentController : Nat} {events : List SlotEvent}
    (h : ∀ event ∈ events, event.agentController < agentController) :
    slotChanges agentController events = 0 := by
  induction events with
  | nil => rfl
  | cons event events ih =>
    have hevent : event.change agentController = 0 := by
      have hlt := h event List.mem_cons_self
      cases event <;> simp only [SlotEvent.agentController] at hlt <;>
        simp only [SlotEvent.change] <;> rw [if_neg (by omega)]
    simp only [slotChanges]
    rw [hevent, ih fun other hother => h other (List.mem_cons_of_mem _ hother)]
    rfl

/-- Nothing is in progress and no agent has more slots in use than it has. -/
structure Dispatch.AtRest (start : Dispatch) : Prop where
  takes : start.takes = []
  history : start.history = []
  slotGuards : ∀ arc ∈ start.slotGuards, arc < start.agentControllers.length
  within : ∀ (arc : Nat) (controller : AgentController),
    start.agentControllers[arc]? = some controller →
    controller.slotsProcessing ≤ controller.slotsTotal

structure DispatchInv (start s : Dispatch) : Prop where
  within : ∀ (arc : Nat) (controller : AgentController),
    s.agentControllers[arc]? = some controller → controller.slotsProcessing ≤ controller.slotsTotal
  accounted : ∀ (arc : Nat) (controller : AgentController),
    s.agentControllers[arc]? = some controller →
    controller.slotsProcessing =
      start.slotsAtFirst arc controller + slotChanges arc s.history
  longer : start.agentControllers.length ≤ s.agentControllers.length
  liveGuards : ∀ arc ∈ s.slotGuards, arc < s.agentControllers.length
  liveHistory : ∀ event ∈ s.history, event.agentController < s.agentControllers.length
  takes : ∀ (take : Nat) (call : TakeCall), s.takes[take]? = some call → s.TakeOk take call
  later : ∀ take, s.takes.length ≤ take → s.claimsOf take = []

theorem Dispatch.AtRest.dispatchInv {start : Dispatch} (h : start.AtRest) :
    DispatchInv start start := by
  refine ⟨h.within, fun arc controller hget => ?_, Nat.le_refl _, h.slotGuards, ?_, ?_, ?_⟩
  · rw [h.history]
    simp [Dispatch.slotsAtFirst, hget, slotChanges]
  · rw [h.history]
    intro event hevent
    cases hevent
  · rw [h.takes]
    intro take call hcall
    cases hcall
  · intro take _
    simp [Dispatch.claimsOf, h.history]

section StepLemmas

variable {ratesDiffer : UInt64 → UInt64 → Bool} {input : DispatchInput} {start s s' : Dispatch}

/-- What was read stays genuine as long as the totals are kept. -/
theorem Dispatch.Genuine.mono {scanned : List Reading} (h : s.Genuine scanned)
    (hstep : DispatchStep ratesDiffer input s s') (hkept : TotalsKept s s') :
    s'.Genuine scanned := by
  intro reading hreading
  obtain ⟨controller, hget, htotal⟩ := h reading hreading
  have hlt : reading.agentController < s'.agentControllers.length :=
    Nat.lt_of_lt_of_le (List.getElem?_eq_some_iff.mp hget).1 (step_length hstep)
  have hget' := List.getElem?_eq_getElem hlt
  exact ⟨_, hget', by rw [hkept.kept _ _ _ hget hget', htotal]⟩

theorem Dispatch.TakeOk.mono {take : Nat} {call : TakeCall} (h : s.TakeOk take call)
    (hstep : DispatchStep ratesDiffer input s s') (hkept : TotalsKept s s')
    (hclaims : s'.claimsOf take = s.claimsOf take) : s'.TakeOk take call := by
  have honce : ∀ candidate, s.ClaimedOnce take candidate → s'.ClaimedOnce take candidate := by
    rintro candidate ⟨slotsTotal, hfree, hclaimed⟩
    exact ⟨slotsTotal, hfree, hclaims.trans hclaimed⟩
  match call, h with
  | .scanning .., ⟨hnone, hgenuine, hbest⟩ =>
    exact ⟨hclaims.trans hnone, hgenuine.mono hstep hkept, hbest⟩
  | .claiming .., ⟨hnone, hgenuine, hleast⟩ =>
    exact ⟨hclaims.trans hnone, hgenuine.mono hstep hkept, hleast⟩
  | .claimed .., ⟨hclaimed, hleast⟩ => exact ⟨honce _ hclaimed, hleast⟩
  | .returned _ (some _), ⟨hclaimed, hleast⟩ => exact ⟨honce _ hclaimed, hleast⟩
  | .returned _ none, ⟨hnone, hfull⟩ => exact ⟨hclaims.trans hnone, hfull⟩

theorem startScan_takeOk {take : Nat} (h : s.claimsOf take = []) : s.TakeOk take s.startScan := by
  refine ⟨h, ?_, ?_⟩
  · intro reading hreading
    cases hreading
  · intro reading hreading
    cases hreading

theorem Dispatch.TakeOk.move {take : Nat} {call call' : TakeCall} (h : s.TakeOk take call)
    (hmove : TakeMove s call call') : s.TakeOk take call' := by
  cases hmove with
  | stay => exact h
  | visited agentId => exact h
  | @checked unvisited loaded scanned best controller hcontroller =>
    obtain ⟨hnone, hgenuine, hbest⟩ := h
    refine ⟨hnone, ?_, keepLeastBusy_bestOf hbest _⟩
    intro reading hreading
    rcases List.mem_append.mp hreading with hreading | hreading
    · exact hgenuine reading hreading
    · rw [List.mem_singleton.mp hreading]
      exact ⟨controller, hcontroller, rfl⟩
  | found => exact h
  | notFound => exact ⟨h.1, h.2.2⟩
  | retried => exact startScan_takeOk h.1

/-- Every controller was there before, with the same `slots_total`. -/
theorem totalsKept_of_same
    (h : ∀ (arc : Nat) (controller' : AgentController),
      s'.agentControllers[arc]? = some controller' →
      ∃ controller, s.agentControllers[arc]? = some controller ∧
        controller'.slotsTotal = controller.slotsTotal) : TotalsKept s s' := by
  constructor
  · intro arc controller controller' hget hget'
    obtain ⟨same, hsame, htotal⟩ := h arc controller' hget'
    rw [hget] at hsame
    cases hsame
    exact htotal
  · intro arc controller' hnone hget'
    obtain ⟨same, hsame, -⟩ := h arc controller' hget'
    rw [hnone] at hsame
    cases hsame

theorem tryClaim_totalsKept {take : Nat} {scanned : List Reading} {candidate : DispatchCandidate} :
    TotalsKept s (s.tryClaim take scanned candidate) := by
  apply totalsKept_of_same
  intro arc controller' hget'
  unfold Dispatch.tryClaim at hget'
  split at hget'
  · exact ⟨controller', hget', rfl⟩
  · rename_i controller hcontroller
    split at hget'
    · rcases getElem?_set_cases hget' with ⟨rfl, rfl⟩ | ⟨hne, hget'⟩
      · exact ⟨controller, hcontroller, rfl⟩
      · exact ⟨controller', hget', rfl⟩
    · exact ⟨controller', hget', rfl⟩

theorem dropSlotGuard_totalsKept {guard : Nat} : TotalsKept s (s.dropSlotGuard guard) := by
  apply totalsKept_of_same
  intro arc controller' hget'
  unfold Dispatch.dropSlotGuard at hget'
  split at hget'
  · exact ⟨controller', hget', rfl⟩
  · rename_i freed hguard
    simp only [List.getElem?_modify, Option.map_eq_map, Option.map_eq_some_iff] at hget'
    obtain ⟨controller, hcontroller, rfl⟩ := hget'
    refine ⟨controller, hcontroller, ?_⟩
    split <;> rfl

theorem totalsKept_of_isDispatch (h : input.isDispatch = true) :
    TotalsKept s (s.step ratesDiffer input) := by
  cases input with
  | take | visit | check | endScan =>
    exact totalsKept_of_same fun arc controller' hget' => ⟨controller', hget', rfl⟩
  | tryClaim take =>
    simp only [Dispatch.step]
    split
    · exact tryClaim_totalsKept
    · exact totalsKept_of_same fun arc controller' hget' => ⟨controller', hget', rfl⟩
  | announceClaim take =>
    simp only [Dispatch.step]
    split <;> exact totalsKept_of_same fun arc controller' hget' => ⟨controller', hget', rfl⟩
  | dropSlotGuard guard => exact dropSlotGuard_totalsKept
  | registerAgentController | removeAgentController | updateAgentStatus | store | signalUpdate =>
    cases h

/-- The candidate of a scan can only be claimed while a slot is free. -/
theorem free_of_claiming {take : Nat} {scanned : List Reading} {candidate : DispatchCandidate}
    {controller : AgentController} (h : s.TakeOk take (.claiming scanned candidate))
    (hget : s.agentControllers[candidate.agentController]? = some controller) :
    candidate.snapshot < controller.slotsTotal := by
  obtain ⟨-, hgenuine, hleast⟩ := h
  obtain ⟨reading, hreading, harc, hsnapshot, hfree⟩ := hleast.read
  obtain ⟨controller', hget', htotal⟩ := hgenuine reading hreading
  rw [harc, hget] at hget'
  cases hget'
  simp only [Reading.hasCapacity, Bool.not_eq_true', decide_eq_false_iff_not] at hfree
  omega

theorem DispatchInv.within_step (h : DispatchInv start s)
    (hstep : DispatchStep ratesDiffer input s s') (hkept : TotalsKept s s') {arc : Nat}
    {controller' : AgentController} (hget : s'.agentControllers[arc]? = some controller') :
    controller'.slotsProcessing ≤ controller'.slotsTotal := by
  obtain ⟨events, hhistory, ⟨controller, hcontroller, -, hslots⟩ | ⟨rfl, -, -⟩⟩ :=
    step_slotsProcessing hstep hget
  · have hwithin := h.within arc controller hcontroller
    have htotal := hkept.kept arc controller controller' hcontroller hget
    cases hstep with
    | idle hs | began hs | moved _ _ hs | announced _ hs | removed hs | looked hs | signalled _ hs
    | registered _ hs | stored _ _ hs =>
      subst hs
      have hevents : events = [] := List.append_right_eq_self.mp hhistory.symm
      subst hevents
      simp only [slotChanges] at hslots
      omega
    | @claimed take scanned candidate claimed hcall hclaimed hread hs =>
      subst hs
      have hevents := List.append_cancel_left hhistory
      subst hevents
      have hfree := free_of_claiming (h.takes take _ hcall) hclaimed
      by_cases heq : candidate.agentController = arc
      · subst heq
        rw [hclaimed] at hcontroller
        cases hcontroller
        simp only [slotChanges, SlotEvent.change, if_true] at hslots
        omega
      · simp only [slotChanges, SlotEvent.change, heq, if_false] at hslots
        omega
    | @released guard freed hguard hs =>
      subst hs
      have hevents := List.append_cancel_left hhistory
      subst hevents
      simp only [slotChanges, SlotEvent.change] at hslots
      split at hslots <;> omega
  · exact hkept.fits _ _ (List.getElem?_eq_none (Nat.le_refl _)) hget

theorem DispatchInv.accounted_step (h : DispatchInv start s)
    (hstep : DispatchStep ratesDiffer input s s') {arc : Nat} {controller' : AgentController}
    (hget : s'.agentControllers[arc]? = some controller') :
    controller'.slotsProcessing =
      start.slotsAtFirst arc controller' + slotChanges arc s'.history := by
  obtain ⟨events, hhistory, ⟨controller, hcontroller, hregistered, hslots⟩ | ⟨rfl, rfl, hslots⟩⟩ :=
    step_slotsProcessing hstep hget
  · have hfirst : start.slotsAtFirst arc controller' = start.slotsAtFirst arc controller := by
      unfold Dispatch.slotsAtFirst
      rw [hregistered]
    have haccounted := h.accounted arc controller hcontroller
    rw [hhistory, slotChanges_append, hfirst]
    omega
  · -- a new controller: no event of the history is about it
    have hsum : slotChanges s.agentControllers.length s'.history = 0 := by
      rw [hhistory, List.append_nil]
      exact slotChanges_eq_zero h.liveHistory
    rw [hsum, hslots]
    unfold Dispatch.slotsAtFirst
    rw [List.getElem?_eq_none h.longer]
    simp

theorem DispatchInv.takes_same (h : DispatchInv start s)
    (hstep : DispatchStep ratesDiffer input s s') (hkept : TotalsKept s s')
    (htakes : s'.takes = s.takes) (hclaims : ∀ take, s'.claimsOf take = s.claimsOf take)
    (take : Nat) (call : TakeCall) (hcall : s'.takes[take]? = some call) : s'.TakeOk take call := by
  rw [htakes] at hcall
  exact (h.takes take call hcall).mono hstep hkept (hclaims take)

theorem DispatchInv.takes_set (h : DispatchInv start s)
    (hstep : DispatchStep ratesDiffer input s s') (hkept : TotalsKept s s') {moved : Nat}
    {call' : TakeCall} (htakes : s'.takes = s.takes.set moved call')
    (hclaims : ∀ take, take ≠ moved → s'.claimsOf take = s.claimsOf take)
    (hmoved : s'.TakeOk moved call') (take : Nat) (call : TakeCall)
    (hcall : s'.takes[take]? = some call) : s'.TakeOk take call := by
  rw [htakes] at hcall
  rcases getElem?_set_cases hcall with ⟨rfl, rfl⟩ | ⟨hne, hcall⟩
  · exact hmoved
  · exact (h.takes take call hcall).mono hstep hkept (hclaims take hne)

theorem claimsOf_claimed_self {candidate : DispatchCandidate} {take : Nat} {slotsTotal : Int}
    (hhistory : s'.history = s.history ++
      [.claimed take candidate.agentController candidate.snapshot slotsTotal])
    (hnone : s.claimsOf take = []) :
    s'.claimsOf take = [.claimed take candidate.agentController candidate.snapshot slotsTotal] := by
  unfold Dispatch.claimsOf at hnone ⊢
  rw [hhistory, List.filter_append, hnone]
  simp [SlotEvent.claimedBy]

theorem claimsOf_append_other {event : SlotEvent} {take : Nat}
    (hhistory : s'.history = s.history ++ [event]) (hother : event.claimedBy take = false) :
    s'.claimsOf take = s.claimsOf take := by
  unfold Dispatch.claimsOf
  rw [hhistory, List.filter_append]
  simp [hother]

/-- **The calls stay as they should be.** -/
theorem DispatchInv.takes_step (h : DispatchInv start s)
    (hstep : DispatchStep ratesDiffer input s s') (hkept : TotalsKept s s') (take : Nat)
    (call : TakeCall) (hcall : s'.takes[take]? = some call) : s'.TakeOk take call := by
  have hstep' := hstep
  cases hstep' with
  | idle hs | removed hs | looked hs | signalled _ hs | registered _ hs | stored _ _ hs =>
    subst hs
    exact h.takes_same hstep hkept rfl (fun _ => rfl) take call hcall
  | began hs =>
    subst hs
    rcases getElem?_push_cases hcall with hcall | ⟨rfl, rfl⟩
    · exact (h.takes take call hcall).mono hstep hkept rfl
    · exact (startScan_takeOk (h.later _ (Nat.le_refl _))).mono hstep hkept rfl
  | @moved moved call' _ hbefore hmove hs =>
    subst hs
    exact h.takes_set hstep hkept rfl (fun _ _ => rfl)
      (((h.takes moved _ hbefore).move hmove).mono hstep hkept rfl) take call hcall
  | @claimed claimer scanned candidate controller hclaiming hcontroller hread hs =>
    subst hs
    have hok := h.takes claimer _ hclaiming
    refine h.takes_set hstep hkept rfl (fun other hne => ?_) ?_ take call hcall
    · exact claimsOf_append_other rfl (by simp [SlotEvent.claimedBy, Ne.symm hne])
    · exact ⟨⟨controller.slotsTotal, free_of_claiming hok hcontroller,
        claimsOf_claimed_self rfl hok.1⟩, hok.2.2⟩
  | @announced announcer scanned candidate hclaimed hs =>
    subst hs
    exact h.takes_set hstep hkept rfl (fun _ _ => rfl)
      (h.takes announcer _ hclaimed) take call hcall
  | released _ hs =>
    subst hs
    exact h.takes_same hstep hkept rfl (fun _ => claimsOf_append_other rfl rfl) take call hcall

theorem DispatchInv.later_step (h : DispatchInv start s)
    (hstep : DispatchStep ratesDiffer input s s') (take : Nat) (hlater : s'.takes.length ≤ take) :
    s'.claimsOf take = [] := by
  cases hstep with
  | idle hs | announced _ hs | removed hs | looked hs | signalled _ hs | registered _ hs
  | stored _ _ hs | moved _ _ hs =>
    subst hs
    exact h.later take (by simpa [Dispatch.registerAgentController] using hlater)
  | began hs =>
    subst hs
    simp only [List.length_append] at hlater
    exact h.later take (by omega)
  | @claimed claimer scanned candidate controller hclaiming _ _ hs =>
    subst hs
    simp only [List.length_set] at hlater
    have hlt : claimer < s.takes.length := (List.getElem?_eq_some_iff.mp hclaiming).1
    have hne : claimer ≠ take := by omega
    rw [claimsOf_append_other rfl (by simp [SlotEvent.claimedBy, hne])]
    exact h.later take hlater
  | released _ hs =>
    subst hs
    rw [claimsOf_append_other rfl rfl]
    exact h.later take hlater

theorem DispatchInv.liveHistory_step (h : DispatchInv start s)
    (hstep : DispatchStep ratesDiffer input s s') (event : SlotEvent)
    (hevent : event ∈ s'.history) :
    event.agentController < s'.agentControllers.length := by
  have hlonger := step_length hstep
  have hold : event ∈ s.history → event.agentController < s'.agentControllers.length :=
    fun hevent => Nat.lt_of_lt_of_le (h.liveHistory event hevent) hlonger
  cases hstep with
  | idle hs | began hs | moved _ _ hs | announced _ hs | removed hs | looked hs | signalled _ hs
  | registered _ hs | stored _ _ hs =>
    subst hs
    exact hold hevent
  | claimed _ hcontroller _ hs =>
    subst hs
    rcases List.mem_append.mp hevent with hevent | hevent
    · exact hold hevent
    · rw [List.mem_singleton.mp hevent]
      exact Nat.lt_of_lt_of_le (List.getElem?_eq_some_iff.mp hcontroller).1 hlonger
  | released hguard hs =>
    subst hs
    rcases List.mem_append.mp hevent with hevent | hevent
    · exact hold hevent
    · rw [List.mem_singleton.mp hevent]
      exact Nat.lt_of_lt_of_le (h.liveGuards _ (List.mem_of_getElem? hguard)) hlonger

theorem DispatchInv.liveGuards_step (h : DispatchInv start s)
    (hstep : DispatchStep ratesDiffer input s s') (arc : Nat) (harc : arc ∈ s'.slotGuards) :
    arc < s'.agentControllers.length := by
  have hlonger := step_length hstep
  have hold : arc ∈ s.slotGuards → arc < s'.agentControllers.length :=
    fun harc => Nat.lt_of_lt_of_le (h.liveGuards arc harc) hlonger
  cases hstep with
  | idle hs | began hs | moved _ _ hs | claimed _ _ _ hs | removed hs | looked hs | signalled _ hs
  | registered _ hs | stored _ _ hs =>
    subst hs
    exact hold harc
  | @announced announcer scanned candidate hclaimed hs =>
    subst hs
    rcases List.mem_append.mp harc with harc | harc
    · exact hold harc
    · -- the claim is in the history
      obtain ⟨⟨slotsTotal, -, hclaims⟩, -⟩ := h.takes announcer _ hclaimed
      have hevent : SlotEvent.claimed announcer candidate.agentController candidate.snapshot
          slotsTotal ∈ s.claimsOf announcer := by
        rw [hclaims]
        exact List.mem_singleton_self _
      rw [List.mem_singleton.mp harc]
      exact h.liveHistory _ (List.mem_of_mem_filter hevent)
  | released _ hs =>
    subst hs
    exact hold (List.mem_of_mem_eraseIdx harc)

/-- **A step keeps the dispatches in order.** -/
theorem DispatchInv.step (h : DispatchInv start s) (hstep : DispatchStep ratesDiffer input s s')
    (hkept : TotalsKept s s') : DispatchInv start s' where
  within _ _ hget := h.within_step hstep hkept hget
  accounted _ _ hget := h.accounted_step hstep hget
  longer := Nat.le_trans h.longer (step_length hstep)
  liveGuards := h.liveGuards_step hstep
  liveHistory := h.liveHistory_step hstep
  takes := h.takes_step hstep hkept
  later := h.later_step hstep

end StepLemmas

/-- What a pool promises about its dispatches.  Every change of a counter is in the history, so a
call that returned nothing changed none, and a call that returned an agent took one slot of it. -/
structure WithinSlots (start s : Dispatch) : Prop where
  within : ∀ (arc : Nat) (controller : AgentController),
    s.agentControllers[arc]? = some controller → controller.slotsProcessing ≤ controller.slotsTotal
  accounted : ∀ (arc : Nat) (controller : AgentController),
    s.agentControllers[arc]? = some controller →
    controller.slotsProcessing =
      start.slotsAtFirst arc controller + slotChanges arc s.history
  dispatched : ∀ (take : Nat) (scanned : List Reading) (candidate : DispatchCandidate),
    s.takes[take]? = some (.returned scanned (some candidate)) →
    s.ClaimedOnce take candidate ∧ LeastBusy scanned candidate
  notDispatched : ∀ (take : Nat) (scanned : List Reading),
    s.takes[take]? = some (.returned scanned none) →
    s.claimsOf take = [] ∧ ∀ reading ∈ scanned, reading.hasCapacity = false

/-- **No agent is over-committed**, for every interleaving of dispatches, dropped slot guards and
whatever else leaves the `slots_total` of the controllers alone. -/
theorem dispatch_withinSlots {ratesDiffer : UInt64 → UInt64 → Bool} {start s : Dispatch}
    (hstart : start.AtRest)
    (h : Reaches (Dispatch.step ratesDiffer)
      (fun s input => TotalsKept s (s.step ratesDiffer input)) start s) :
    WithinSlots start s := by
  have hinv : DispatchInv start s :=
    h.invariant (DispatchInv start) hstart.dispatchInv fun s input _ hinv hkept =>
      hinv.step (step_dispatchStep s input) hkept
  constructor
  · exact hinv.within
  · exact hinv.accounted
  · intro take scanned candidate hcall
    exact hinv.takes take _ hcall
  · intro take scanned hcall
    exact hinv.takes take _ hcall

/-- Two agents with one free slot each. -/
def twoAgents : Dispatch :=
  Dispatch.new.run (fun _ _ => false)
    [.registerAgentController "a" ⟨none, fourSlots 3⟩,
      .registerAgentController "b" ⟨none, fourSlots 3⟩, .signalUpdate 0, .signalUpdate 0]

/-- A scan of both. -/
def scanning (take : Nat) : List DispatchInput :=
  [.visit take "a", .check take, .visit take "b", .check take, .endScan take]

/-- Two dispatches choose the same slot.  The slower one scans again and gets the other agent; a
third one finds nothing. -/
def racing : List DispatchInput :=
  [.take, .take] ++ scanning 0 ++ scanning 1 ++ [.tryClaim 0, .tryClaim 1, .announceClaim 0] ++
    scanning 1 ++ [.tryClaim 1, .announceClaim 1, .take] ++ scanning 2 ++ [.dropSlotGuard 0]

theorem twoAgents_atRest : twoAgents.AtRest := by
  refine ⟨by decide, by decide, by decide, fun arc controller hget => ?_⟩
  have hall : ∀ c ∈ twoAgents.agentControllers, c.slotsProcessing ≤ c.slotsTotal := by decide
  exact hall controller (List.mem_of_getElem? hget)

theorem dispatch_withinSlots_racing :
    (twoAgents.run (fun _ _ => false) racing).takes =
      [.returned [⟨0, 3, 4⟩, ⟨1, 3, 4⟩] (some ⟨0, 3⟩),
        .returned [⟨0, 4, 4⟩, ⟨1, 3, 4⟩] (some ⟨1, 3⟩), .returned [⟨0, 4, 4⟩, ⟨1, 4, 4⟩] none] ∧
    (twoAgents.run (fun _ _ => false) racing).agentControllers.map (·.slotsProcessing) = [3, 4] ∧
    WithinSlots twoAgents (twoAgents.run (fun _ _ => false) racing) := by
  refine ⟨by decide, by decide, dispatch_withinSlots twoAgents_atRest (Reaches.runs _ ?_ .start)⟩
  have hdispatch : ∀ input ∈ racing, input.isDispatch = true := by decide
  intro input hinput s
  exact totalsKept_of_isDispatch (hdispatch input hinput)

end Paddler
