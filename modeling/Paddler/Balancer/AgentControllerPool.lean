import Paddler.Messaging.AgentStatus
import Paddler.Library.Run

/-!
# Agent controllers of the balancer

Model of `agent_controller.rs`, `agent_controller_pool.rs`, `agent_controller_slot_guard.rs` and of
the part of `ws_agent_socket` that registers, updates and removes controllers.

Controllers are shared: `Arc` number `n` points to entry `n` of `agentControllers`, which outlives
its place in the pool for as long as a dispatched request holds it.  Callers of
`take_least_busy_agent_controller` run concurrently, so reading one entry of the pool and the
compare-and-swap are steps of their own.  Counters are `AtomicI32`s and modelled without their
bounds: a slot is only claimed below `slots_total`, and only released after it was claimed.

* `AgentController.updateFromSlotAggregatedStatusSnapshot` — a status update.
* `Balancer.step` — one step of the agents, the sockets, or a dispatch.
-/

set_option autoImplicit false

namespace Paddler

/-! ## One controller -/

/-- `agent_controller.rs`.  `registeredWith` is history: the snapshot of the message the controller
was made from. -/
structure AgentController where
  desiredSlotsTotal : Int
  downloadCurrent : UInt64
  downloadFilename : Option String
  downloadIndeterminate : Bool
  downloadTotal : UInt64
  id : String
  issues : Finset AgentIssue
  modelPath : Option String
  name : Option String
  newestUpdateVersion : Int
  slotsProcessing : Int
  slotsTotal : Int
  stateApplicationStatusCode : Int
  tokensPerSecond : UInt64
  usesChatTemplateOverride : Bool
  registeredWith : SlotAggregatedStatusSnapshot
  deriving DecidableEq

/-- `agent_controller_update_result.rs`. -/
inductive AgentControllerUpdateResult where
  | noMeaningfulChanges
  | updated
  deriving DecidableEq, Repr

/-- `AtomicValue::compare_and_swap`: whether it swapped, and the value afterwards. -/
def compareAndSwap (value current new : Int) : Bool × Int :=
  if value = current then (true, new) else (false, value)

namespace AgentController

/-- The controller `handle_deserialized_message` makes of a `RegisterAgent` message: every counter
starts with what the agent reports, `slots_processing` included. -/
def fromRegisterAgentParams (agentId : String) (params : RegisterAgentParams) : AgentController :=
  let snapshot := params.slotAggregatedStatusSnapshot
  { desiredSlotsTotal := snapshot.desiredSlotsTotal
    downloadCurrent := snapshot.downloadCurrent
    downloadFilename := snapshot.downloadFilename
    downloadIndeterminate := snapshot.downloadIndeterminate
    downloadTotal := snapshot.downloadTotal
    id := agentId
    issues := snapshot.issues
    modelPath := snapshot.modelPath
    name := params.name
    newestUpdateVersion := snapshot.version
    slotsProcessing := snapshot.slotsProcessing
    slotsTotal := snapshot.slotsTotal
    stateApplicationStatusCode := snapshot.stateApplicationStatus.code
    tokensPerSecond := snapshot.tokensPerSecond
    usesChatTemplateOverride := snapshot.usesChatTemplateOverride
    registeredWith := snapshot }

/-- `update_from_slot_aggregated_status_snapshot`.  `ratesDiffer new old` is the `f64` comparison
`(new - old).abs() > 0.01`. -/
def updateFromSlotAggregatedStatusSnapshot (ratesDiffer : UInt64 → UInt64 → Bool)
    (self : AgentController) (snapshot : SlotAggregatedStatusSnapshot) :
    AgentControllerUpdateResult × AgentController :=
  if snapshot.version < self.newestUpdateVersion then (.noMeaningfulChanges, self)
  else
    let rateChanged := ratesDiffer snapshot.tokensPerSecond self.tokensPerSecond
    let changed :=
      self.desiredSlotsTotal != snapshot.desiredSlotsTotal ||
      self.downloadCurrent != snapshot.downloadCurrent ||
      self.downloadIndeterminate != snapshot.downloadIndeterminate ||
      self.downloadTotal != snapshot.downloadTotal ||
      self.slotsTotal != snapshot.slotsTotal ||
      self.stateApplicationStatusCode != snapshot.stateApplicationStatus.code ||
      self.usesChatTemplateOverride != snapshot.usesChatTemplateOverride ||
      snapshot.downloadFilename != self.downloadFilename ||
      decide (snapshot.issues ≠ self.issues) ||
      snapshot.modelPath != self.modelPath || rateChanged
    (if changed then .updated else .noMeaningfulChanges,
      { self with
        desiredSlotsTotal := snapshot.desiredSlotsTotal
        downloadCurrent := snapshot.downloadCurrent
        downloadFilename := snapshot.downloadFilename
        downloadIndeterminate := snapshot.downloadIndeterminate
        downloadTotal := snapshot.downloadTotal
        issues := snapshot.issues
        modelPath := snapshot.modelPath
        newestUpdateVersion := (compareAndSwap self.newestUpdateVersion self.newestUpdateVersion
          snapshot.version).2
        slotsTotal := snapshot.slotsTotal
        stateApplicationStatusCode := snapshot.stateApplicationStatus.code
        tokensPerSecond := if rateChanged then snapshot.tokensPerSecond else self.tokensPerSecond
        usesChatTemplateOverride := snapshot.usesChatTemplateOverride })

/-- The check of `select_least_busy_with_capacity`. -/
def hasCapacity (self : AgentController) : Bool := !decide (self.slotsTotal ≤ self.slotsProcessing)

end AgentController

/-! ## The pool -/

/-- `AgentControllerPool`: agent ids with the `Arc` registered for each, and how often `update_tx`
was sent on. -/
structure AgentControllerPool where
  agents : List (String × Nat)
  updateTx : Nat
  deriving DecidableEq, Repr

namespace AgentControllerPool

def getAgentController (self : AgentControllerPool) (agentId : String) : Option Nat :=
  self.agents.lookup agentId

def signalUpdate (self : AgentControllerPool) : AgentControllerPool :=
  { self with updateTx := self.updateTx + 1 }

/-- `register_agent_controller`: a second controller for the id is an error, but it is inserted. -/
def registerAgentController (self : AgentControllerPool) (agentId : String) (agent : Nat) :
    Except String Unit × AgentControllerPool :=
  let inserted := { self with agents := (agentId, agent) :: self.agents.filter (·.1 != agentId) }
  match self.getAgentController agentId with
  | none => (.ok (), inserted.signalUpdate)
  | some _ => (.error "AgentController already registered", inserted)

def removeAgentController (self : AgentControllerPool) (agentId : String) :
    Bool × AgentControllerPool :=
  match self.getAgentController agentId with
  | none => (false, self)
  | some _ => (true, { self with agents := self.agents.filter (·.1 != agentId) }.signalUpdate)

end AgentControllerPool

/-- `dispatch_candidate.rs`. -/
structure DispatchCandidate where
  agentController : Nat
  snapshot : Int
  deriving DecidableEq, Repr

/-- The loop body of `select_least_busy_with_capacity`, for the entry that points to `arc`. -/
def visitEntry (best : Option DispatchCandidate) (arc : Nat) (agentController : AgentController) :
    Option DispatchCandidate :=
  let snapshot := agentController.slotsProcessing
  if agentController.hasCapacity then
    match best with
    | some current => if current.snapshot ≤ snapshot then some current else some ⟨arc, snapshot⟩
    | none => some ⟨arc, snapshot⟩
  else best

/-! ## The balancer -/

/-- The context of a connection of `ws_agent_socket`, until it is dropped. -/
structure AgentSocketControllerContext where
  agentId : String
  dropped : Bool
  deriving DecidableEq, Repr

/-- The balancer, as far as slots go: the pool, the controllers behind the `Arc`s, the agent
sockets, the callers inside `take_least_busy_agent_controller` with the best candidate of their
scan, and the `Arc`s of the live slot guards. -/
structure Balancer where
  agentControllerPool : AgentControllerPool
  agentControllers : List AgentController
  agentSockets : List AgentSocketControllerContext
  dispatches : List (Option DispatchCandidate)
  slotGuards : List Nat
  deriving DecidableEq

/-- What can happen next. -/
inductive BalancerInput where
  | connect (agentId : String)
  | registerAgent (socket : Nat) (params : RegisterAgentParams)
  | updateAgentStatus (socket : Nat) (snapshot : SlotAggregatedStatusSnapshot)
  | dropContext (socket : Nat)
  | takeLeastBusyAgentController
  | visit (caller : Nat) (agentId : String)
  | claim (caller : Nat)
  | dropSlotGuard (guard : Nat)

namespace Balancer

/-- A balancer without agents. -/
def new : Balancer := ⟨⟨[], 0⟩, [], [], [], []⟩

/-- The agent id of a connection that is still there. -/
def openSocket (self : Balancer) (socket : Nat) : Option String :=
  match self.agentSockets[socket]? with
  | some context => if context.dropped then none else some context.agentId
  | none => none

/-- `RegisterAgent`: make the controller and put it in the pool.  The error of a second registration
closes the connection. -/
def registerAgent (self : Balancer) (agentId : String) (params : RegisterAgentParams) : Balancer :=
  { self with
    agentControllers :=
      self.agentControllers ++ [AgentController.fromRegisterAgentParams agentId params]
    agentControllerPool := (self.agentControllerPool.registerAgentController agentId
      self.agentControllers.length).2 }

/-- `UpdateAgentStatus`. -/
def updateAgentStatus (ratesDiffer : UInt64 → UInt64 → Bool) (self : Balancer) (agentId : String)
    (snapshot : SlotAggregatedStatusSnapshot) : Balancer :=
  match self.agentControllerPool.getAgentController agentId with
  | none => self
  | some arc =>
    match self.agentControllers[arc]? with
    | none => self
    | some controller =>
      let updated := controller.updateFromSlotAggregatedStatusSnapshot ratesDiffer snapshot
      { self with
        agentControllers := self.agentControllers.set arc updated.2
        agentControllerPool :=
          match updated.1 with
          | .updated => self.agentControllerPool.signalUpdate
          | .noMeaningfulChanges => self.agentControllerPool }

/-- `try_claim`; `none` is the candidate handed back. -/
def tryClaim (self : Balancer) (candidate : DispatchCandidate) : Option Balancer :=
  match self.agentControllers[candidate.agentController]? with
  | none => none
  | some controller =>
    match compareAndSwap controller.slotsProcessing candidate.snapshot (candidate.snapshot + 1) with
    | (true, slotsProcessing) =>
      some { self with
        agentControllers := self.agentControllers.set candidate.agentController
          { controller with slotsProcessing := slotsProcessing }
        agentControllerPool := self.agentControllerPool.signalUpdate
        slotGuards := self.slotGuards ++ [candidate.agentController] }
    | (false, _) => none

/-- `Drop for AgentControllerSlotGuard`. -/
def dropSlotGuard (self : Balancer) (guard : Nat) : Balancer :=
  match self.slotGuards[guard]? with
  | none => self
  | some arc =>
    { self with
      agentControllers := self.agentControllers.modify arc fun controller =>
        { controller with slotsProcessing := controller.slotsProcessing - 1 }
      agentControllerPool := self.agentControllerPool.signalUpdate
      slotGuards := self.slotGuards.eraseIdx guard }

/-- One step of the balancer.  An input that is not enabled changes nothing. -/
def step (ratesDiffer : UInt64 → UInt64 → Bool) (self : Balancer) : BalancerInput → Balancer
  | .connect agentId => { self with agentSockets := self.agentSockets ++ [⟨agentId, false⟩] }
  | .registerAgent socket params =>
    match self.openSocket socket with
    | some agentId => self.registerAgent agentId params
    | none => self
  | .updateAgentStatus socket snapshot =>
    match self.openSocket socket with
    | some agentId => self.updateAgentStatus ratesDiffer agentId snapshot
    | none => self
  | .dropContext socket =>
    match self.openSocket socket with
    | some agentId =>
      { self with
        agentSockets := self.agentSockets.set socket ⟨agentId, true⟩
        agentControllerPool := (self.agentControllerPool.removeAgentController agentId).2 }
    | none => self
  | .takeLeastBusyAgentController => { self with dispatches := self.dispatches ++ [none] }
  | .visit caller agentId =>
    -- the scan may meet the entries in any order, and entries may come and go while it runs
    match self.dispatches[caller]?, self.agentControllerPool.getAgentController agentId with
    | some best, some arc =>
      match self.agentControllers[arc]? with
      | some controller =>
        { self with dispatches := self.dispatches.set caller (visitEntry best arc controller) }
      | none => self
    | _, _ => self
  | .claim caller =>
    match self.dispatches[caller]? with
    | some (some candidate) =>
      match self.tryClaim candidate with
      | some claimed => { claimed with dispatches := claimed.dispatches.eraseIdx caller }
      | none => { self with dispatches := self.dispatches.set caller none }
    | some none => { self with dispatches := self.dispatches.eraseIdx caller }
    | none => self
  | .dropSlotGuard guard => self.dropSlotGuard guard

/-- A whole run. -/
def run (ratesDiffer : UInt64 → UInt64 → Bool) (self : Balancer) (inputs : List BalancerInput) :
    Balancer :=
  inputs.foldl (step ratesDiffer) self

end Balancer

end Paddler
