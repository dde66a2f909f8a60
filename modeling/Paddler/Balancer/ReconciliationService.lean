import Paddler.Library.AssocList
import Paddler.Library.Run
import Paddler.Library.VecUpdate

/-!
# The reconciliation service of the balancer

Model of `reconciliation_service.rs` with everything it shares state with: the state databases
(`state_database/file`, `state_database/memory.rs`) and their broadcast channel, the converter, the
holder of the applicable state, `set_desired_state` of the pool, and the registration of agents in
`ws_agent_socket/mod.rs`.  Inference parameters are passed on unread, so their type is a parameter.

Tasks run in any order, one step at a time:

* a store writes the database and then sends its notification; the file database keeps its lock in
  between, the one in memory does not;
* the loop of the service takes a branch of its `select!`; a conversion visits the agents in the
  pool one by one and then updates the holder;
* a registration joins the pool, then reads the holder, then sends what it read.

`for agent in &self.agents` goes over a concurrent map: it sees every agent that stays in the pool
once, in any order, and may or may not see one that joins meanwhile.  The receiver of the channel
lags when more notifications are unread than the channel holds.

* `Reconciliation.step` — one step of a store, of the loop or of a registration.
-/

set_option autoImplicit false

namespace Paddler

open AssocList Run VecUpdate

/-! ## Desired states -/

/-- `chat_template.rs`. -/
structure ChatTemplate where
  content : String
  deriving DecidableEq, Repr

/-- `huggingface_model_reference.rs`. -/
structure HuggingFaceModelReference where
  filename : String
  repoId : String
  revision : String
  deriving DecidableEq, Repr

/-- `url_model_reference.rs`. -/
structure UrlModelReference where
  url : String
  deriving DecidableEq, Repr

/-- `agent_desired_model.rs`. -/
inductive AgentDesiredModel where
  | huggingFace (reference : HuggingFaceModelReference)
  | localToAgent (path : String)
  | url (reference : UrlModelReference)
  | none
  deriving DecidableEq, Repr

/-- `balancer_desired_state.rs`. -/
structure BalancerDesiredState (π : Type) where
  chatTemplateOverride : Option ChatTemplate
  inferenceParameters : π
  model : AgentDesiredModel
  multimodalProjection : AgentDesiredModel
  useChatTemplateOverride : Bool
  deriving DecidableEq, Repr

/-- `agent_desired_state.rs`. -/
structure AgentDesiredState (π : Type) where
  chatTemplateOverride : Option ChatTemplate
  inferenceParameters : π
  model : AgentDesiredModel
  multimodalProjection : AgentDesiredModel
  deriving DecidableEq, Repr

/-- `balancer_applicable_state.rs`. -/
structure BalancerApplicableState (π : Type) where
  agentDesiredState : AgentDesiredState π
  deriving DecidableEq, Repr

namespace BalancerDesiredState

variable {π : Type}

/-- `to_desired_state` of `BalancerDesiredStateConverter`. -/
def toDesiredState (self : BalancerDesiredState π) : AgentDesiredState π :=
  { chatTemplateOverride := if self.useChatTemplateOverride then self.chatTemplateOverride else none
    inferenceParameters := self.inferenceParameters
    model := self.model
    multimodalProjection := self.multimodalProjection }

/-- `to_applicable_state` of `BalancerDesiredStateConverter`, which does not fail. -/
def toApplicableState (self : BalancerDesiredState π) : BalancerApplicableState π :=
  ⟨self.toDesiredState⟩

end BalancerDesiredState

/-! ## The state -/

inductive StateDatabaseType where
  | file
  | memory
  deriving DecidableEq, Repr

/-- Where the handling of a `RegisterAgent` message is. -/
inductive RegistrationPhase (π : Type) where
  | readingHolder
  | sending (desiredState : AgentDesiredState π)
  | registered
  | rejected
  deriving DecidableEq, Repr

/-- An agent controller as its registration made it; `setStates` are the `SetState` messages sent to
it. -/
structure AgentRegistration (π : Type) where
  phase : RegistrationPhase π
  setStates : List (AgentDesiredState π)
  deriving DecidableEq, Repr

/-- An agent that the broadcast visited, and whether its registration was over by then. -/
structure AgentVisit where
  agentId : String
  controller : Nat
  registered : Bool
  deriving DecidableEq, Repr

/-- `broadcast::error::RecvError`, as far as the service can get it: the senders live as long as the
balancer. -/
inductive RecvError where
  | lagged (skipped : Nat)
  deriving DecidableEq, Repr

/-- Where `run` is: in its `select!`, in the loop of `set_desired_state` with the agents it still
has to visit, or at the end. -/
inductive ReconciliationLoop (π : Type) where
  | selecting
  | broadcasting (applicable : BalancerApplicableState π) (remaining : List String)
    (visited : List AgentVisit)
  | returned (error : Option RecvError)
  deriving DecidableEq, Repr

/-- The state that stores, the service and registrations share.  `notifying` are the stores that
wrote the database and did not notify yet, `unread` the notifications that the service did not
receive.  `conversions` is history: the states for which the holder was updated. -/
structure Reconciliation (π : Type) where
  databaseType : StateDatabaseType
  capacity : Nat
  stateDatabase : BalancerDesiredState π
  notifying : List (BalancerDesiredState π)
  unread : List (BalancerDesiredState π)
  balancerDesiredState : BalancerDesiredState π
  isConverted : Bool
  loop : ReconciliationLoop π
  holder : Option (BalancerApplicableState π)
  agents : List (String × Nat)
  registrations : List (AgentRegistration π)
  conversions : List (BalancerDesiredState π)
  deriving DecidableEq, Repr

/-- What can happen next. -/
inductive ReconciliationInput (π : Type) where
  | write (balancerDesiredState : BalancerDesiredState π)
  | notify (store : Nat)
  | shutdown
  | tick
  | recv
  | visit (agentId : String) (sent : Bool)
  | setHolder
  | registerAgent (agentId : String)
  | readHolder (k : Nat)
  | sendDesiredState (k : Nat)
  | removeAgent (agentId : String)
  deriving DecidableEq, Repr

namespace Reconciliation

variable {π : Type}

/-- A balancer that starts with what its database has. -/
def new (databaseType : StateDatabaseType) (capacity : Nat) (initial : BalancerDesiredState π) :
    Reconciliation π :=
  ⟨databaseType, capacity, initial, [], [], initial, false, .selecting, none, [], [], []⟩

/-! ## Stores -/

/-- The database is written.  Under the lock of the file database no other store has to notify. -/
def write (self : Reconciliation π) (balancerDesiredState : BalancerDesiredState π) :
    Reconciliation π :=
  if self.databaseType = .file ∧ self.notifying ≠ [] then self
  else
    { self with
      stateDatabase := balancerDesiredState
      notifying := self.notifying ++ [balancerDesiredState] }

/-- A store sends its notification, which nobody gets if the service ended. -/
def notify (self : Reconciliation π) (store : Nat) : Reconciliation π :=
  match self.notifying[store]? with
  | none => self
  | some balancerDesiredState =>
    let sent := { self with notifying := self.notifying.eraseIdx store }
    match self.loop with
    | .returned _ => sent
    | _ => { sent with unread := self.unread ++ [balancerDesiredState] }

/-! ## The loop -/

/-- `convert_to_applicable_state` up to the first agent. -/
def convertToApplicableState (self : Reconciliation π) : Reconciliation π :=
  { self with
    loop := .broadcasting self.balancerDesiredState.toApplicableState (self.agents.map (·.1)) [] }

/-- The branch of the ticker. -/
def tick (self : Reconciliation π) : Reconciliation π :=
  match self.loop with
  | .selecting => if self.isConverted then self else self.convertToApplicableState
  | _ => self

/-- The branch of the channel: `received_balancer_desired_state?` ends the loop if the receiver
lagged. -/
def recv (self : Reconciliation π) : Reconciliation π :=
  match self.loop, self.unread with
  | .selecting, balancerDesiredState :: unread =>
    if self.capacity < self.unread.length then
      { self with
        isConverted := false
        loop := .returned (some (.lagged (self.unread.length - self.capacity))) }
    else
      { self with
        isConverted := false
        balancerDesiredState := balancerDesiredState
        unread := unread }.convertToApplicableState
  | _, _ => self

/-- The loop of `set_desired_state` sends to one more agent, or fails and so ends the conversion. -/
def visit (self : Reconciliation π) (agentId : String) (sent : Bool) : Reconciliation π :=
  match self.loop, self.agents.lookup agentId with
  | .broadcasting applicable remaining visited, some k =>
    if visited.any (·.agentId = agentId) then self
    else
      match self.registrations[k]? with
      | none => self
      | some r =>
        if sent then
          { self with
            loop := .broadcasting applicable (remaining.filter (· ≠ agentId))
              (visited ++ [⟨agentId, k, match r.phase with | .registered => true | _ => false⟩])
            registrations := self.registrations.set k
              { r with setStates := r.setStates ++ [applicable.agentDesiredState] } }
        else { self with loop := .selecting }
  | _, _ => self

/-- The rest of `convert_to_applicable_state`, when every agent was visited. -/
def setHolder (self : Reconciliation π) : Reconciliation π :=
  match self.loop with
  | .broadcasting applicable [] _ =>
    { self with
      loop := .selecting
      holder := some applicable
      isConverted := true
      conversions := self.conversions ++ [self.balancerDesiredState] }
  | _ => self

/-- The branch of the shutdown. -/
def shutdown (self : Reconciliation π) : Reconciliation π :=
  match self.loop with
  | .selecting => { self with loop := .returned none }
  | _ => self

/-! ## Agents -/

/-- `register_agent_controller`, which inserts and then fails if the id was taken. -/
def registerAgent (self : Reconciliation π) (agentId : String) : Reconciliation π :=
  { self with
    agents := insertKey agentId self.registrations.length self.agents
    registrations := self.registrations ++
      [⟨if (self.agents.lookup agentId).isSome then .rejected else .readingHolder, []⟩] }

/-- `get_agent_desired_state`, of a registration. -/
def readHolder (self : Reconciliation π) (k : Nat) (r : AgentRegistration π) : Reconciliation π :=
  match r.phase with
  | .readingHolder =>
    let phase := match self.holder with
      | some applicable => .sending applicable.agentDesiredState
      | none => .registered
    { self with registrations := self.registrations.set k { r with phase := phase } }
  | _ => self

/-- `set_desired_state`, of a registration; the receiver is there. -/
def sendDesiredState (self : Reconciliation π) (k : Nat) (r : AgentRegistration π) :
    Reconciliation π :=
  match r.phase with
  | .sending desiredState =>
    { self with
      registrations := self.registrations.set k ⟨.registered, r.setStates ++ [desiredState]⟩ }
  | _ => self

/-- `remove_agent_controller`; an iteration will not see the agent. -/
def removeAgent (self : Reconciliation π) (agentId : String) : Reconciliation π :=
  { self with
    agents := eraseKey agentId self.agents
    loop := match self.loop with
      | .broadcasting applicable remaining visited =>
        .broadcasting applicable (remaining.filter (· ≠ agentId)) visited
      | loop => loop }

/-- One step. -/
def step (self : Reconciliation π) (input : ReconciliationInput π) : Reconciliation π :=
  match input with
  | .write balancerDesiredState => self.write balancerDesiredState
  | .notify store => self.notify store
  | .shutdown => self.shutdown
  | .tick => self.tick
  | .recv => self.recv
  | .visit agentId sent => self.visit agentId sent
  | .setHolder => self.setHolder
  | .registerAgent agentId => self.registerAgent agentId
  | .readHolder k =>
    match self.registrations[k]? with
    | some r => self.readHolder k r
    | none => self
  | .sendDesiredState k =>
    match self.registrations[k]? with
    | some r => self.sendDesiredState k r
    | none => self
  | .removeAgent agentId => self.removeAgent agentId

/-- A whole run. -/
def run (self : Reconciliation π) (inputs : List (ReconciliationInput π)) : Reconciliation π :=
  inputs.foldl step self

end Reconciliation

end Paddler
