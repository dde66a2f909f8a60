import Paddler.Gui.Forms
import Paddler.Messaging.AgentStatus

/-!
# The desktop application

Model of `app.rs` with the screens of `screen.rs` and the handlers of the forms.  The application
starts an agent or a balancer in a task of its own, and keeps the token that cancels it.  What the
network interfaces are, and how an address is parsed and checked, is given.

* `App.update` — one message.
* `UpdateStep` — **everything that a message can do to the services and their tokens**;
  `update_step`.
-/

set_option autoImplicit false

namespace Paddler

namespace Gui

/-! ## Screens -/

/-- `agent_controller_snapshot.rs`.  A rate is an `f64` bit pattern. -/
structure AgentControllerSnapshot where
  desiredSlotsTotal : Int
  downloadCurrent : UInt64
  downloadFilename : Option String
  downloadIndeterminate : Bool
  downloadTotal : UInt64
  id : String
  issues : Finset AgentIssue
  modelPath : Option String
  name : Option String
  slotsProcessing : Int
  slotsTotal : Int
  stateApplicationStatus : AgentStateApplicationStatus
  tokensPerSecond : UInt64
  usesChatTemplateOverride : Bool
  deriving DecidableEq

/-- `agent_running_data.rs`. -/
structure AgentRunningData where
  balancerAddress : String
  connected : Bool
  snapshot : AgentControllerSnapshot
  deriving DecidableEq

def AgentRunningData.applyStatus (self : AgentRunningData) (status : SlotAggregatedStatusSnapshot) :
    AgentRunningData :=
  { self with
    connected := true
    snapshot :=
      { desiredSlotsTotal := status.desiredSlotsTotal
        downloadCurrent := status.downloadCurrent
        downloadFilename := status.downloadFilename
        downloadIndeterminate := status.downloadIndeterminate
        downloadTotal := status.downloadTotal
        id := ""
        issues := status.issues
        modelPath := status.modelPath
        name := self.snapshot.name
        slotsProcessing := status.slotsProcessing
        slotsTotal := status.slotsTotal
        stateApplicationStatus := status.stateApplicationStatus
        tokensPerSecond := status.tokensPerSecond
        usesChatTemplateOverride := status.usesChatTemplateOverride } }

/-- `running_balancer_snapshot.rs`. -/
structure RunningBalancerSnapshot (π : Type) where
  agentSnapshots : List AgentControllerSnapshot
  balancerApplicableState : Option (BalancerApplicableState π)
  balancerDesiredState : BalancerDesiredState π
  deriving DecidableEq

def RunningBalancerSnapshot.ofDefault {π : Type} [Inhabited π] : RunningBalancerSnapshot π :=
  ⟨[], none, .ofDefault⟩

/-- `running_balancer_data.rs`. -/
structure RunningBalancerData (π : Type) where
  balancerAddress : String
  snapshot : RunningBalancerSnapshot π
  stopping : Bool
  webAdminPanelAddress : Option String
  deriving DecidableEq

/-- `home_data.rs`. -/
structure HomeData where
  error : Option String
  deriving DecidableEq, Repr

/-- `current_screen.rs`. -/
inductive CurrentScreen (π : Type) where
  | agentRunning (data : AgentRunningData)
  | home (data : HomeData)
  | joinBalancerForm (data : JoinBalancerFormData)
  | startBalancerForm (data : StartBalancerFormData π)
  | runningBalancer (data : RunningBalancerData π)
  deriving DecidableEq

/-- `connect` of `Screen<JoinBalancerForm>`. -/
def JoinBalancerFormData.connected (self : JoinBalancerFormData) : AgentRunningData where
  balancerAddress := self.balancerAddress
  connected := false
  snapshot :=
    { desiredSlotsTotal := 0
      downloadCurrent := 0
      downloadFilename := none
      downloadIndeterminate := true
      downloadTotal := 0
      id := ""
      issues := ∅
      modelPath := none
      name := if self.agentName.isEmpty then none else some self.agentName
      slotsProcessing := 0
      slotsTotal := 0
      stateApplicationStatus := .fresh
      tokensPerSecond := 0
      usesChatTemplateOverride := false }

/-- `start_balancer` of `Screen<Home>`, with the address of the first network interface. -/
def StartBalancerFormData.suggested {π : Type} (suggestedAddress : String) :
    StartBalancerFormData π where
  addModelLater := false
  balancerAddress := suggestedAddress ++ ":8060"
  balancerAddressError := none
  inferenceAddress := suggestedAddress ++ ":8061"
  inferenceAddressError := none
  modelError := none
  selectedModel := none
  starting := false
  webAdminPanelAddress := ""
  webAdminPanelAddressError := none
  webAdminPanelAddressPlaceholder := suggestedAddress ++ ":8062"

/-- `balancer_started` of `Screen<StartBalancerForm>`. -/
def StartBalancerFormData.started {π : Type} [Inhabited π] (self : StartBalancerFormData π) :
    RunningBalancerData π where
  balancerAddress := self.balancerAddress
  snapshot := .ofDefault
  stopping := false
  webAdminPanelAddress :=
    if self.webAdminPanelAddress.isEmpty then none else some self.webAdminPanelAddress

/-! ## Messages -/

/-- `home_handler::Message`. -/
inductive HomeMessage where
  | startBalancer
  | joinBalancer
  deriving DecidableEq, Repr

/-- `running_balancer_handler::Message`. -/
inductive RunningBalancerMessage (π : Type) where
  | snapshotUpdated (snapshot : RunningBalancerSnapshot π)
  | stop
  | copyToClipboard (content : String)
  | openUrl (url : String)
  deriving DecidableEq

/-- `agent_running_handler::Message`. -/
inductive AgentRunningMessage where
  | agentStatusUpdated (status : SlotAggregatedStatusSnapshot)
  | disconnect
  deriving DecidableEq

/-- `message.rs`. -/
inductive Message (π : Type) where
  | home (message : HomeMessage)
  | startBalancerForm (message : StartBalancerFormMessage π)
  | joinBalancerForm (message : JoinBalancerFormMessage)
  | runningBalancer (message : RunningBalancerMessage π)
  | agentRunning (message : AgentRunningMessage)
  | balancerStarted
  | balancerStopped
  | balancerFailed (error : String)
  | agentStopped
  | agentFailed (error : String)
  | icedEventLoopReady
  | quit
  | tabPressed (shift : Bool)
  deriving DecidableEq

/-- What is left to the runtime, besides the tasks of the services. -/
inductive Effect where
  | none
  | exit
  | focusNext
  | focusPrevious
  | writeClipboard (content : String)
  | openUrl (url : String)
  deriving DecidableEq, Repr

/-! ## The application -/

inductive ServiceKind where
  | agent
  | balancer
  deriving DecidableEq, Repr

/-- What a service was started with. -/
inductive ServiceParams (π : Type) where
  | agent (agentName : Option String) (managementAddress : String) (slots : Int)
  | balancer (managementAddr inferenceAddr : SocketAddr) (webAdminPanelAddr : Option SocketAddr)
      (desiredState : BalancerDesiredState π)
  deriving DecidableEq

def ServiceParams.kind {π : Type} : ServiceParams π → ServiceKind
  | .agent .. => .agent
  | .balancer .. => .balancer

/-- Where the task of a service is. -/
inductive ServicePhase where
  | starting
  | running
  | returned
  deriving DecidableEq, Repr

/-- A service with its own token, and what its task has sent. -/
structure Service (π : Type) where
  params : ServiceParams π
  cancelled : Bool
  phase : ServicePhase
  outbox : List (Message π)
  deriving DecidableEq

/-- `App`.  A token of a service is its number; it is a child of `shutdown`. -/
structure App (π : Type) where
  agentCancel : Option Nat
  shutdown : Bool
  balancerCancel : Option Nat
  screen : CurrentScreen π
  services : List (Service π)
  deriving DecidableEq

namespace App

variable {π : Type} [Inhabited π]

def new : App π := ⟨none, false, none, .home ⟨none⟩, []⟩

def cancelOf (self : App π) : ServiceKind → Option Nat
  | .agent => self.agentCancel
  | .balancer => self.balancerCancel

/-- `cancel` of a token, if there is one. -/
def cancel (self : App π) : Option Nat → App π
  | none => self
  | some index => { self with services := self.services.modify index fun service => { service with cancelled := true } }

def spawnAgent (self : App π) (screen : AgentRunningData) (agentName : Option String)
    (managementAddress : String) (slots : Int) : App π :=
  { self with
    agentCancel := some self.services.length
    screen := .agentRunning screen
    services := self.services ++ [⟨.agent agentName managementAddress slots, false, .running, []⟩] }

def spawnBalancer (self : App π) (managementAddr inferenceAddr : SocketAddr)
    (webAdminPanelAddr : Option SocketAddr) (desiredState : BalancerDesiredState π) : App π :=
  { self with
    balancerCancel := some self.services.length
    services := self.services ++
      [⟨.balancer managementAddr inferenceAddr webAdminPanelAddr desiredState, false,
        .starting, []⟩] }

variable (answers : AddressAnswers) (suggestedAddress : String)

/-- `Message::Home` on its screen. -/
def updateHome (self : App π) : HomeMessage → App π
  | .startBalancer => { self with screen := .startBalancerForm (.suggested suggestedAddress) }
  | .joinBalancer => { self with screen := .joinBalancerForm .ofDefault }

/-- `Message::JoinBalancerForm` on its screen. -/
def updateJoinBalancerForm (self : App π) (form : JoinBalancerFormData)
    (message : JoinBalancerFormMessage) : App π :=
  match form.update answers.parse message with
  | (form, .none) => { self with screen := .joinBalancerForm form }
  | (_, .cancel) => { self with screen := .home ⟨none⟩ }
  | (form, .connectAgent agentName managementAddress slots) =>
    self.spawnAgent form.connected agentName managementAddress slots

/-- `Message::StartBalancerForm` on its screen. -/
def updateStartBalancerForm (self : App π) (form : StartBalancerFormData π)
    (message : StartBalancerFormMessage π) :
    App π :=
  match form.update answers message with
  | (form, .none) => { self with screen := .startBalancerForm form }
  | (_, .cancel) => { self.cancel self.balancerCancel with screen := .home ⟨none⟩ }
  | (form, .startBalancer managementAddr inferenceAddr webAdminPanelAddr desiredState) =>
    { self with screen := .startBalancerForm form }.spawnBalancer managementAddr inferenceAddr
      webAdminPanelAddr
      desiredState

/-- `Message::RunningBalancer` on its screen. -/
def updateRunningBalancer (self : App π) (running : RunningBalancerData π) :
    RunningBalancerMessage π → App π × Effect
  | .snapshotUpdated snapshot =>
    ({ self with screen := .runningBalancer { running with snapshot := snapshot } }, .none)
  | .stop =>
    ({ self.cancel self.balancerCancel with screen := .runningBalancer { running with stopping := true } }, .none)
  | .copyToClipboard content => (self, .writeClipboard content)
  | .openUrl url => (self, .openUrl url)

/-- `Message::AgentRunning` on its screen. -/
def updateAgentRunning (self : App π) (running : AgentRunningData) : AgentRunningMessage → App π
  | .agentStatusUpdated status => { self with screen := .agentRunning (running.applyStatus status) }
  | .disconnect => { self.cancel self.agentCancel with screen := .home ⟨none⟩ }

/-- `update`.  A message that the screen does not expect changes nothing. -/
def update (self : App π) (message : Message π) : App π × Effect :=
  match message, self.screen with
  | .icedEventLoopReady, _ => (self, .none)
  | .quit, _ =>
    ({ self with shutdown := true, balancerCancel := none, agentCancel := none, screen := .home ⟨none⟩ }, .exit)
  | .home message, .home _ => (self.updateHome suggestedAddress message, .none)
  | .joinBalancerForm message, .joinBalancerForm form =>
    (self.updateJoinBalancerForm answers form message, .none)
  | .startBalancerForm message, .startBalancerForm form =>
    (self.updateStartBalancerForm answers form message, .none)
  | .balancerStarted, .startBalancerForm form =>
    ({ self with screen := .runningBalancer form.started }, .none)
  | .balancerFailed error, .startBalancerForm _ | .balancerFailed error, .runningBalancer _ =>
    ({ self with balancerCancel := none, screen := .home ⟨some error⟩ }, .none)
  | .runningBalancer message, .runningBalancer running => self.updateRunningBalancer running message
  | .balancerStopped, .runningBalancer _ =>
    ({ self with balancerCancel := none, screen := .home ⟨none⟩ }, .none)
  | .agentRunning message, .agentRunning running => (self.updateAgentRunning running message, .none)
  | .agentStopped, .agentRunning _ =>
    ({ self with agentCancel := none, screen := .home ⟨none⟩ }, .none)
  | .agentFailed error, .agentRunning _ =>
    ({ self with agentCancel := none, screen := .home ⟨some error⟩ }, .none)
  | .tabPressed shift, _ => (self, if shift then .focusPrevious else .focusNext)
  | _, _ => (self, .none)

end App

/-! ## What a message can do to the services -/

section UpdateStep

variable {π : Type}

/-- The kind of the service that a screen is about. -/
def CurrentScreen.shows : CurrentScreen π → Option ServiceKind
  | .agentRunning _ => some .agent
  | .home _ | .joinBalancerForm _ => none
  | .startBalancerForm _ | .runningBalancer _ => some .balancer

/-- The kind of the service that is at its end, for the application. -/
def App.takesEnd (app : App π) (message : Message π) : Option ServiceKind :=
  match message, app.screen with
  | .agentStopped, .agentRunning _ | .agentFailed _, .agentRunning _ => some .agent
  | .balancerStopped, .runningBalancer _ | .balancerFailed _, .runningBalancer _
  | .balancerFailed _, .startBalancerForm _ => some .balancer
  | _, _ => none

/-- The service that was started last. -/
def ServiceParams.spawned (params : ServiceParams π) : Service π :=
  ⟨params, false, match params.kind with | .agent => .running | .balancer => .starting, []⟩

/-- Everything that a message can do to the services and their tokens. -/
inductive UpdateStep (app : App π) (message : Message π) (app' : App π) : Prop where
  | stays (htokens : ∀ kind, app'.cancelOf kind = app.cancelOf kind) (hservices : app'.services = app.services)
      (hshutdown : app'.shutdown = app.shutdown)
      (hshows : app'.screen.shows = app.screen.shows ∨ app.screen.shows = none)
        (hend : app.takesEnd message = none)
  | cancels (kind : ServiceKind) (hkind : app.screen.shows = some kind)
      (htokens : ∀ kind, app'.cancelOf kind = app.cancelOf kind)
      (hservices : app'.services = (app.cancel (app.cancelOf kind)).services)
      (hshutdown : app'.shutdown = app.shutdown) (hend : app.takesEnd message = none)
  | spawns (params : ServiceParams π) (hkind : app.screen.shows = none ∨ app.screen.shows = some params.kind)
      (htoken : app'.cancelOf params.kind = some app.services.length)
      (hothers : ∀ kind, kind ≠ params.kind → app'.cancelOf kind = app.cancelOf kind)
      (hservices : app'.services = app.services ++ [params.spawned])
        (hshutdown : app'.shutdown = app.shutdown)
      (hshows : app'.screen.shows = some params.kind) (hend : app.takesEnd message = none)
  | ends (kind : ServiceKind) (hkind : app.screen.shows = some kind) (htoken : app'.cancelOf kind = none)
      (hothers : ∀ other, other ≠ kind → app'.cancelOf other = app.cancelOf other)
      (hservices : app'.services = app.services) (hshutdown : app'.shutdown = app.shutdown)
      (hend : app.takesEnd message = some kind)
  | quits (hquit : message = .quit) (htokens : ∀ kind, app'.cancelOf kind = none)
      (hservices : app'.services = app.services) (hshutdown : app'.shutdown = true)

theorem cancelOf_cancel (app : App π) (token : Option Nat) (kind : ServiceKind) :
    (app.cancel token).cancelOf kind = app.cancelOf kind := by
  cases token <;> cases kind <;> rfl

theorem shutdown_cancel (app : App π) (token : Option Nat) :
    (app.cancel token).shutdown = app.shutdown := by
  cases token <;> rfl

theorem UpdateStep.screen {app : App π} {message : Message π} (screen : CurrentScreen π)
    (hshows : screen.shows = app.screen.shows ∨ app.screen.shows = none)
    (hend : app.takesEnd message = none) :
    UpdateStep app message { app with screen := screen } :=
  .stays (fun kind => by cases kind <;> rfl) rfl rfl hshows hend

theorem UpdateStep.unchanged {app : App π} {message : Message π}
    (hend : app.takesEnd message = none) :
    UpdateStep app message app :=
  .stays (fun _ => rfl) rfl rfl (.inl rfl) hend

theorem UpdateStep.cancelled {app : App π} {message : Message π} {kind : ServiceKind}
    (screen : CurrentScreen π) (hkind : app.screen.shows = some kind)
    (hend : app.takesEnd message = none) :
    UpdateStep app message { app.cancel (app.cancelOf kind) with screen := screen } :=
  .cancels kind hkind (fun other =>
    (by cases other <;> rfl : _ = (app.cancel _).cancelOf other).trans
      (cancelOf_cancel app _ other)) rfl (shutdown_cancel app _) hend

theorem UpdateStep.balancerEnded {app : App π} {message : Message π} (screen : CurrentScreen π)
    (hkind : app.screen.shows = some .balancer) (hend : app.takesEnd message = some .balancer) :
    UpdateStep app message { app with balancerCancel := none, screen := screen } :=
  .ends .balancer hkind rfl
    (fun kind hother => by cases kind with | agent => rfl | balancer => exact absurd rfl hother)
      rfl rfl hend

theorem UpdateStep.agentEnded {app : App π} {message : Message π} (screen : CurrentScreen π)
    (hkind : app.screen.shows = some .agent) (hend : app.takesEnd message = some .agent) :
    UpdateStep app message { app with agentCancel := none, screen := screen } :=
  .ends .agent hkind rfl
    (fun kind hother => by cases kind with | agent => exact absurd rfl hother | balancer => rfl)
      rfl rfl hend

section Updates

variable (answers : AddressAnswers) (suggestedAddress : String) (app : App π)

theorem updateJoinBalancerForm_step {form : JoinBalancerFormData}
    (hscreen : app.screen = .joinBalancerForm form) (message : JoinBalancerFormMessage) :
    UpdateStep app (.joinBalancerForm message)
      (app.updateJoinBalancerForm answers form message) := by
  have hshows : app.screen.shows = none := by rw [hscreen]; rfl
  unfold App.updateJoinBalancerForm
  split
  · exact .screen _ (.inr hshows) rfl
  · exact .screen _ (.inr hshows) rfl
  · rename_i form agentName managementAddress slots _
    exact .spawns (.agent agentName managementAddress slots) (.inl hshows) rfl
      (fun kind hother => by cases kind with | agent => exact absurd rfl hother | balancer => rfl)
        rfl rfl rfl rfl

theorem updateRunningBalancer_step {running : RunningBalancerData π}
    (hscreen : app.screen = .runningBalancer running) (message : RunningBalancerMessage π) :
    UpdateStep app (.runningBalancer message) (app.updateRunningBalancer running message).1 := by
  have hshows : app.screen.shows = some .balancer := by rw [hscreen]; rfl
  cases message with
  | snapshotUpdated snapshot => exact .screen _ (.inl hshows.symm) rfl
  | stop => exact .cancelled _ hshows rfl
  | copyToClipboard content => exact .unchanged rfl
  | openUrl url => exact .unchanged rfl

theorem updateAgentRunning_step {running : AgentRunningData}
    (hscreen : app.screen = .agentRunning running) (message : AgentRunningMessage) :
    UpdateStep app (.agentRunning message) (app.updateAgentRunning running message) := by
  have hshows : app.screen.shows = some .agent := by rw [hscreen]; rfl
  cases message with
  | agentStatusUpdated status => exact .screen _ (.inl hshows.symm) rfl
  | disconnect => exact .cancelled _ hshows rfl

variable [Inhabited π]

theorem updateStartBalancerForm_step {form : StartBalancerFormData π}
    (hscreen : app.screen = .startBalancerForm form) (message : StartBalancerFormMessage π) :
    UpdateStep app (.startBalancerForm message)
      (app.updateStartBalancerForm answers form message) := by
  have hshows : app.screen.shows = some .balancer := by rw [hscreen]; rfl
  unfold App.updateStartBalancerForm
  split
  · exact .screen _ (.inl hshows.symm) rfl
  · exact .cancelled _ hshows rfl
  · rename_i form managementAddr inferenceAddr webAdminPanelAddr desiredState _
    exact .spawns (.balancer managementAddr inferenceAddr webAdminPanelAddr desiredState)
      (.inr hshows) rfl
      (fun kind hother => by cases kind with | agent => rfl | balancer => exact absurd rfl hother)
        rfl rfl rfl rfl

/-- **Everything that a message can do.** -/
theorem update_step (message : Message π) :
    UpdateStep app message (app.update answers suggestedAddress message).1 := by
  unfold App.update
  split
  · exact .unchanged rfl
  · exact .quits rfl (fun kind => by cases kind <;> rfl) rfl rfl
  · rename_i message _ hscreen
    have hshows : app.screen.shows = none := by rw [hscreen]; rfl
    cases message with
    | startBalancer => exact .screen _ (.inr hshows) rfl
    | joinBalancer => exact .screen _ (.inr hshows) rfl
  · rename_i hscreen
    exact updateJoinBalancerForm_step answers app hscreen _
  · rename_i hscreen
    exact updateStartBalancerForm_step answers app hscreen _
  · rename_i hscreen
    exact .screen _ (.inl (by rw [hscreen]; rfl)) rfl
  · rename_i hscreen
    exact .balancerEnded _ (by rw [hscreen]; rfl) (by unfold App.takesEnd; rw [hscreen])
  · rename_i hscreen
    exact .balancerEnded _ (by rw [hscreen]; rfl) (by unfold App.takesEnd; rw [hscreen])
  · rename_i hscreen
    exact updateRunningBalancer_step app hscreen _
  · rename_i hscreen
    exact .balancerEnded _ (by rw [hscreen]; rfl) (by unfold App.takesEnd; rw [hscreen])
  · rename_i hscreen
    exact updateAgentRunning_step app hscreen _
  · rename_i hscreen
    exact .agentEnded _ (by rw [hscreen]; rfl) (by unfold App.takesEnd; rw [hscreen])
  · rename_i hscreen
    exact .agentEnded _ (by rw [hscreen]; rfl) (by unfold App.takesEnd; rw [hscreen])
  · exact .unchanged rfl
  · -- no screen expects the message
    refine .unchanged ?_
    unfold App.takesEnd
    grind

end Updates

end UpdateStep

end Gui

end Paddler
