import Mathlib.Data.List.TakeWhile
import Paddler.Gui.App
import Paddler.Library.VecUpdate

/-!
# The services of the desktop application

The task of a service sends messages to the application, which do not say which task they are from.
They arrive in any order with those of the user and of the other services, also of one that was told
to stop.

* `Session.step` — a message of the user, one turn of a service, or the delivery of what a service
  sent.
* `SessionInv` — **what holds between any two steps**; `sessionInv_reaches`.
* `running_stoppable` — **which of the running services the user can stop.**
-/

set_option autoImplicit false

namespace Paddler

open Run VecUpdate

namespace Gui

/-! ## One step -/

/-- What the task of a service can do. -/
inductive ServiceEvent (π : Type) where
  | started
  | failedToStart (error : String)
  | statusUpdated (status : SlotAggregatedStatusSnapshot)
  | snapshotUpdated (snapshot : RunningBalancerSnapshot π)
  | completed (error : Option String)
  | closed
  deriving DecidableEq

section Services

variable {π : Type}

/-- The message of a service at its end. -/
def ServiceKind.endMessage : ServiceKind → Option String → Message π
  | .agent, none => .agentStopped
  | .agent, some error => .agentFailed error
  | .balancer, none => .balancerStopped
  | .balancer, some error => .balancerFailed error

/-- One turn of the task of a service.  The runner is dropped when the task returns, and cancels the
token. -/
def Service.step (self : Service π) (event : ServiceEvent π) : Service π :=
  match event, self.phase, self.params.kind with
  | .started, .starting, .balancer =>
    { self with phase := .running, outbox := self.outbox ++ [.balancerStarted] }
  | .failedToStart error, .starting, .balancer =>
    { self with phase := .returned, outbox := self.outbox ++ [.balancerFailed error] }
  | .statusUpdated status, .running, .agent =>
    { self with outbox := self.outbox ++ [.agentRunning (.agentStatusUpdated status)] }
  | .snapshotUpdated snapshot, .running, .balancer =>
    { self with outbox := self.outbox ++ [.runningBalancer (.snapshotUpdated snapshot)] }
  | .completed error, .running, kind =>
    { self with cancelled := true, phase := .returned, outbox := self.outbox ++ [kind.endMessage error] }
  | .closed, .starting, _ | .closed, .running, _ =>
    { self with cancelled := true, phase := .returned }
  | _, _, _ => self

/-- What the user, the window and the signals can send. -/
def Message.isOfView : Message π → Bool
  | .home _ | .startBalancerForm _ | .joinBalancerForm _ | .icedEventLoopReady | .quit
  | .tabPressed _ => true
  | .runningBalancer (.snapshotUpdated _) | .agentRunning (.agentStatusUpdated _) => false
  | .runningBalancer _ | .agentRunning _ => true
  | .balancerStarted | .balancerStopped | .balancerFailed _ | .agentStopped
  | .agentFailed _ => false

/-- What became of the tokens: a service was started, or the application took the end of a service
for that of the one whose token it holds. -/
inductive SessionEvent where
  | spawned (kind : ServiceKind) (service : Nat)
  | ended (kind : ServiceKind) (service : Nat)
  deriving DecidableEq, Repr

/-- The application with its history. -/
structure Session (π : Type) where
  app : App π
  history : List SessionEvent
  deriving DecidableEq

/-- What the operating system answers while a message is handled. -/
structure Surroundings where
  answers : AddressAnswers
  suggestedAddress : String

inductive SessionInput (π : Type) where
  | view (found : Surroundings) (message : Message π)
  | service (index : Nat) (event : ServiceEvent π)
  | deliver (found : Surroundings) (index : Nat)

end Services

namespace Session

variable {π : Type}

def new : Session π := ⟨.new, []⟩

/-- What a message leaves in the history. -/
def eventsOf (app app' : App π) (sender : Option Nat) (message : Message π) : List SessionEvent :=
  ((app'.services.drop app.services.length).map fun service =>
    .spawned service.params.kind app.services.length) ++ match sender, app.takesEnd message with
    | some service, some kind => [.ended kind service]
    | _, _ => []

section Step

variable [Inhabited π]

/-- A message comes to the application. -/
def receive (self : Session π) (found : Surroundings) (sender : Option Nat) (message : Message π) :
    Session π :=
  let app := (self.app.update found.answers found.suggestedAddress message).1
  ⟨app, self.history ++ eventsOf self.app app sender message⟩

/-- One step. -/
def step (self : Session π) : SessionInput π → Session π
  | .view found message => if message.isOfView then self.receive found none message else self
  | .service index event =>
    { self with app := { self.app with services := self.app.services.modify index (·.step event) } }
  | .deliver found index =>
    match (self.app.services[index]?).map (·.outbox) with
    | some (message :: outbox) =>
      let services := self.app.services.modify index ({ · with outbox := outbox })
      { self with app := { self.app with services := services } }.receive found (some index) message
    | _ => self

/-! ### Running services -/

/-- A service that runs and was not told to stop. -/
structure Runs (session : Session π) (index : Nat) (service : Service π) : Prop where
  get : session.app.services[index]? = some service
  phase : service.phase ≠ .returned
  cancelled : service.cancelled = false
  shutdown : session.app.shutdown = false

/-- A message of the user that tells a service to stop, other than to quit. -/
def CanBeStopped (self : Session π) (found : Surroundings) (index : Nat) : Prop :=
  ∃ message : Message π, message.isOfView = true ∧ message ≠ .quit ∧
    ∃ service, (self.step (.view found message)).app.services[index]? = some service ∧
    service.cancelled = true

end Step

/-- A service was started, this one. -/
def isSpawnOf (index : Nat) : SessionEvent → Bool
  | .spawned _ service => service = index
  | .ended .. => false

/-- What happened since a service was started. -/
def since (index : Nat) (history : List SessionEvent) : List SessionEvent :=
  (history.dropWhile fun event => !isSpawnOf index event).tail

/-- The token of a service is no longer held after this. -/
def replaces (kind : ServiceKind) (index : Nat) : SessionEvent → Bool
  | .spawned other _ => other = kind
  | .ended other service => other = kind && service ≠ index

/-- Another service of its kind was started since, or the end of another was taken for its own. -/
def isReplaced (self : Session π) (kind : ServiceKind) (index : Nat) : Bool :=
  (since index self.history).any (replaces kind index)

/-! ### The history -/

section History

variable {kind : ServiceKind} {index : Nat} {history : List SessionEvent}

theorem since_append (h : history.any (isSpawnOf index) = true) (later : List SessionEvent) :
    since index (history ++ later) = since index history ++ later := by
  obtain ⟨event, hevent, hspawn⟩ := List.any_eq_true.mp h
  have hne : history.dropWhile (fun event => !isSpawnOf index event) ≠ [] := fun hnil => by
    have hnone := List.dropWhile_eq_nil_iff.mp hnil event hevent
    rw [hspawn] at hnone
    cases hnone
  rw [since, List.dropWhile_append, if_neg (by rw [List.isEmpty_iff]; exact hne),
    List.tail_append_of_ne_nil hne]
  rfl

theorem since_spawned (h : history.any (isSpawnOf index) = false) (later : List SessionEvent) :
    since index (history ++ .spawned kind index :: later) = later := by
  have hbefore : ∀ event ∈ history, (!isSpawnOf index event) = true := fun event hevent => by
    rw [Bool.not_eq_true']
    exact Bool.eq_false_iff.mpr fun hspawn =>
      Bool.eq_false_iff.mp h (List.any_eq_true.mpr ⟨event, hevent, hspawn⟩)
  rw [since, List.dropWhile_append_of_pos hbefore, List.dropWhile_cons_of_neg (by simp [isSpawnOf]),
    List.tail_cons]

end History

/-! ## What holds between any two steps -/

/-- Every token is of a service of its kind.  Of the services that run, the tokens of those are held
that are not replaced, and these the screen shows.  A task that has sent the end of its service has
returned. -/
structure SessionInv (s : Session π) : Prop where
  tokens : ∀ kind index, s.app.cancelOf kind = some index →
    ∃ service, s.app.services[index]? = some service ∧ service.params.kind = kind
  spawned : ∀ index : Nat, s.history.any (isSpawnOf index) = decide (index < s.app.services.length)
  outbox : ∀ (index : Nat) (service : Service π), s.app.services[index]? = some service →
    ∀ message ∈ service.outbox, (∃ app : App π, app.takesEnd message ≠ none) →
    service.phase = .returned
  held : ∀ index service, s.Runs index service →
    (s.app.cancelOf service.params.kind = some index ↔
      s.isReplaced service.params.kind index = false)
  shown : ∀ index service, s.Runs index service → s.app.cancelOf service.params.kind = some index →
    s.app.screen.shows = some service.params.kind

section Receive

variable {app app' : App π} {sender : Option Nat} {message : Message π}

theorem eventsOf_none (hservices : app'.services.length = app.services.length)
    (hend : app.takesEnd message = none) :
    eventsOf app app' sender message = [] := by
  unfold eventsOf
  rw [hend, List.drop_of_length_le (Nat.le_of_eq hservices)]
  cases sender <;> rfl

theorem eventsOf_spawned {service : Service π}
    (hservices : app'.services = app.services ++ [service]) (hend : app.takesEnd message = none) :
    eventsOf app app' sender message = [.spawned service.params.kind app.services.length] := by
  unfold eventsOf
  rw [hend, hservices, List.drop_left]
  cases sender <;> rfl

theorem eventsOf_ended {kind : ServiceKind} {index : Nat} (hservices : app'.services = app.services)
    (hend : app.takesEnd message = some kind) :
    eventsOf app app' (some index) message = [.ended kind index] := by
  unfold eventsOf
  rw [hend, hservices, List.drop_length]
  rfl

end Receive

/-! ### A message comes to the application -/

section Inv

variable {s : Session π} {app' : App π} {kind : ServiceKind} {index : Nat} {service : Service π}

theorem Runs.lt (h : s.Runs index service) : index < s.app.services.length :=
  (List.getElem?_eq_some_iff.mp h.get).1

theorem Runs.before {history : List SessionEvent} (h : Runs ⟨app', history⟩ index service)
    (hservices : app'.services = s.app.services) (hshutdown : app'.shutdown = s.app.shutdown) :
    s.Runs index service :=
  ⟨hservices ▸ h.get, h.phase, h.cancelled, hshutdown ▸ h.shutdown⟩

theorem SessionInv.isReplaced_append (h : SessionInv s) (hindex : index < s.app.services.length)
    (events : List SessionEvent) :
    isReplaced ⟨app', s.history ++ events⟩ kind index =
      (s.isReplaced kind index || events.any (replaces kind index)) := by
  have hspawned : s.history.any (isSpawnOf index) = true := by rw [h.spawned, decide_eq_true hindex]
  rw [isReplaced, since_append hspawned, List.any_append]
  rfl

theorem SessionInv.stays (h : SessionInv s)
    (htokens : ∀ kind, app'.cancelOf kind = s.app.cancelOf kind)
    (hservices : app'.services = s.app.services) (hshutdown : app'.shutdown = s.app.shutdown)
    (hshows : app'.screen.shows = s.app.screen.shows ∨ s.app.screen.shows = none) :
    SessionInv ⟨app', s.history⟩ where
  tokens kind index htoken := by
    rw [htokens] at htoken
    rw [hservices]
    exact h.tokens kind index htoken
  spawned index := by
    rw [hservices]
    exact h.spawned index
  outbox index service hget := h.outbox index service (hservices ▸ hget)
  held index service hruns := by
    rw [htokens]
    exact h.held index service (hruns.before hservices hshutdown)
  shown index service hruns htoken := by
    rw [htokens] at htoken
    have hbefore := h.shown index service (hruns.before hservices hshutdown) htoken
    rcases hshows with hsame | hnone
    · exact hsame.trans hbefore
    · rw [hnone] at hbefore
      cases hbefore

theorem getElem?_cancel {app : App π} {token : Option Nat}
    (hget : (app.cancel token).services[index]? = some service) :
    (token ≠ some index ∧ app.services[index]? = some service) ∨
      (token = some index ∧
        ∃ before, app.services[index]? = some before ∧
          service = { before with cancelled := true }) := by
  cases token with
  | none => exact .inl ⟨nofun, hget⟩
  | some other =>
    rcases getElem?_modify_cases hget with ⟨hne, hsame⟩ | ⟨rfl, before, hbefore, rfl⟩
    · exact .inl ⟨fun htoken => hne (Option.some.inj htoken), hsame⟩
    · exact .inr ⟨rfl, before, hbefore, rfl⟩

theorem getElem?_cancel_some (app : App π) (token : Option Nat)
    (hget : app.services[index]? = some service) :
    ∃ later, (app.cancel token).services[index]? = some later ∧ later.params = service.params := by
  cases token with
  | none => exact ⟨service, hget, rfl⟩
  | some other =>
    refine ⟨if other = index then { service with cancelled := true } else service, ?_, by
      split <;> rfl⟩
    show (app.services.modify other _)[index]? = _
    rw [List.getElem?_modify, hget]
    rfl

theorem length_cancel (app : App π) (token : Option Nat) :
    (app.cancel token).services.length = app.services.length := by
  cases token with
  | none => rfl
  | some other => exact List.length_modify ..

theorem SessionInv.cancels (h : SessionInv s) (hkind : s.app.screen.shows = some kind)
    (htokens : ∀ kind, app'.cancelOf kind = s.app.cancelOf kind)
    (hservices : app'.services = (s.app.cancel (s.app.cancelOf kind)).services)
    (hshutdown : app'.shutdown = s.app.shutdown) :
    SessionInv ⟨app', s.history⟩ := by
  -- a service that runs still did so before, and its token is not the one that was cancelled
  have hbefore : ∀ {index service}, Runs ⟨app', s.history⟩ index service →
      s.app.cancelOf kind ≠ some index ∧ s.Runs index service := by
    intro index service hruns
    rcases getElem?_cancel (hservices ▸ hruns.get) with ⟨hother, hget⟩ | ⟨-, before, -, rfl⟩
    · exact ⟨hother, hget, hruns.phase, hruns.cancelled, hshutdown ▸ hruns.shutdown⟩
    · cases hruns.cancelled
  constructor
  · intro kind' index htoken
    rw [htokens] at htoken
    obtain ⟨service, hget, hservice⟩ := h.tokens kind' index htoken
    obtain ⟨later, hlater, hparams⟩ := getElem?_cancel_some s.app (s.app.cancelOf kind) hget
    exact ⟨later, hservices ▸ hlater, hparams ▸ hservice⟩
  · intro index
    rw [hservices, length_cancel]
    exact h.spawned index
  · intro index service hget message hmessage hend
    rcases getElem?_cancel (hservices ▸ hget) with ⟨-, hsame⟩ | ⟨-, before, hbefore, rfl⟩
    · exact h.outbox index service hsame message hmessage hend
    · exact h.outbox index before hbefore message hmessage hend
  · intro index service hruns
    rw [htokens]
    exact h.held index service (hbefore hruns).2
  · intro index service hruns htoken
    rw [htokens] at htoken
    have hshown := h.shown index service (hbefore hruns).2 htoken
    -- the screen shows the service that was cancelled
    rw [hkind] at hshown
    rw [← Option.some.inj hshown] at htoken
    exact absurd htoken (hbefore hruns).1

theorem SessionInv.spawns (h : SessionInv s) {params : ServiceParams π}
    (hkind : s.app.screen.shows = none ∨ s.app.screen.shows = some params.kind)
    (htoken : app'.cancelOf params.kind = some s.app.services.length)
    (hothers : ∀ kind, kind ≠ params.kind → app'.cancelOf kind = s.app.cancelOf kind)
    (hservices : app'.services = s.app.services ++ [params.spawned])
    (hshutdown : app'.shutdown = s.app.shutdown) (hshows : app'.screen.shows = some params.kind) :
    SessionInv ⟨app', s.history ++ [.spawned params.kind s.app.services.length]⟩ := by
  have hlast : app'.services[s.app.services.length]? = some params.spawned := by
    rw [hservices]
    exact List.getElem?_concat_length
  have hbefore : ∀ {index service} {history : List SessionEvent},
      Runs ⟨app', history⟩ index service →
      s.Runs index service ∨ (index = s.app.services.length ∧ service = params.spawned) := by
    intro index service history hruns
    rcases getElem?_push_cases (hservices ▸ hruns.get) with hget | hnew
    · exact .inl ⟨hget, hruns.phase, hruns.cancelled, hshutdown ▸ hruns.shutdown⟩
    · exact .inr hnew
  -- a service that was started before and is held cannot be of another kind than the screen shows
  have hheld : ∀ {index service}, s.Runs index service → service.params.kind ≠ params.kind →
      s.app.cancelOf service.params.kind ≠ some index := by
    intro index service hruns hother htoken
    have hshown := h.shown index service hruns htoken
    rcases hkind with hnone | hsame
    · rw [hnone] at hshown
      cases hshown
    · rw [hsame] at hshown
      exact hother (Option.some.inj hshown).symm
  constructor
  · intro kind index hindex
    by_cases hsame : kind = params.kind
    · subst hsame
      rw [htoken] at hindex
      cases hindex
      exact ⟨params.spawned, hlast, rfl⟩
    · rw [hothers kind hsame] at hindex
      obtain ⟨service, hget, hservice⟩ := h.tokens kind index hindex
      refine ⟨service, ?_, hservice⟩
      rw [hservices, List.getElem?_append_left (List.getElem?_eq_some_iff.mp hget).1]
      exact hget
  · intro index
    rw [List.any_append, h.spawned, hservices, List.length_append]
    simp only [List.any_cons, List.any_nil, isSpawnOf, Bool.or_false, List.length_singleton]
    rw [← Bool.decide_or]
    exact decide_eq_decide.mpr (by omega)
  · intro index service hget message hmessage hend
    rcases getElem?_push_cases (hservices ▸ hget) with hsame | ⟨-, rfl⟩
    · exact h.outbox index service hsame message hmessage hend
    · cases hmessage
  · intro index service hruns
    rcases hbefore hruns with hold | ⟨rfl, rfl⟩
    · rw [h.isReplaced_append hold.lt]
      by_cases hsame : service.params.kind = params.kind
      · have hgone : app'.cancelOf service.params.kind ≠ some index := by
          rw [hsame, htoken]
          exact fun heq => Nat.ne_of_gt hold.lt (Option.some.inj heq)
        refine iff_of_false hgone ?_
        simp [replaces, hsame]
      · rw [hothers _ hsame, h.held index service hold]
        simp [replaces, Ne.symm hsame]
    · refine iff_of_true htoken ?_
      have hnone : s.history.any (isSpawnOf s.app.services.length) = false := by
        rw [h.spawned, decide_eq_false (Nat.lt_irrefl _)]
      rw [isReplaced, since_spawned hnone]
      rfl
  · intro index service hruns hindex
    rcases hbefore hruns with hold | ⟨rfl, rfl⟩
    · by_cases hsame : service.params.kind = params.kind
      · rw [hsame, htoken] at hindex
        exact absurd (Option.some.inj hindex) (Nat.ne_of_gt hold.lt)
      · rw [hothers _ hsame] at hindex
        exact absurd hindex (hheld hold hsame)
    · exact hshows

theorem SessionInv.ends (h : SessionInv s) (hkind : s.app.screen.shows = some kind)
    (htoken : app'.cancelOf kind = none)
    (hothers : ∀ other, other ≠ kind → app'.cancelOf other = s.app.cancelOf other)
    (hservices : app'.services = s.app.services) (hshutdown : app'.shutdown = s.app.shutdown)
    {sender : Nat} {ended : Service π} (hsender : s.app.services[sender]? = some ended)
    (hended : ended.phase = .returned) :
    SessionInv ⟨app', s.history ++ [.ended kind sender]⟩ := by
  constructor
  · intro other index hindex
    by_cases hsame : other = kind
    · rw [hsame, htoken] at hindex
      cases hindex
    · rw [hothers other hsame] at hindex
      rw [hservices]
      exact h.tokens other index hindex
  · intro index
    rw [List.any_append, hservices, h.spawned]
    simp [isSpawnOf]
  · exact fun index service hget => h.outbox index service (hservices ▸ hget)
  · intro index service hruns
    have hold := hruns.before hservices hshutdown
    rw [h.isReplaced_append hold.lt]
    by_cases hsame : service.params.kind = kind
    · -- the sender has returned, and is another service
      have hother : sender ≠ index := fun heq => by
        rw [heq, hold.get] at hsender
        cases hsender
        exact hold.phase hended
      refine iff_of_false (by rw [hsame, htoken]; nofun) ?_
      simp [replaces, hsame, hother]
    · rw [hothers _ hsame, h.held index service hold]
      simp [replaces, Ne.symm hsame]
  · intro index service hruns hindex
    have hold := hruns.before hservices hshutdown
    by_cases hsame : service.params.kind = kind
    · rw [hsame, htoken] at hindex
      cases hindex
    · rw [hothers _ hsame] at hindex
      have hshown := h.shown index service hold hindex
      rw [hkind] at hshown
      exact absurd (Option.some.inj hshown).symm hsame

theorem SessionInv.quits (h : SessionInv s) (hservices : app'.services = s.app.services)
    (htokens : ∀ kind, app'.cancelOf kind = none) (hshutdown : app'.shutdown = true) :
    SessionInv ⟨app', s.history⟩ := by
  have hnone : ∀ {index service}, ¬ Runs ⟨app', s.history⟩ index service := fun hruns =>
    Bool.false_ne_true (hruns.shutdown.symm.trans hshutdown)
  refine ⟨fun kind index hindex => ?_, fun index => ?_, fun index service hget => ?_,
    fun _ _ hruns => absurd hruns hnone, fun _ _ hruns => absurd hruns hnone⟩
  · rw [htokens] at hindex
    cases hindex
  · rw [hservices]
    exact h.spawned index
  · exact h.outbox index service (hservices ▸ hget)

theorem SessionInv.receive [Inhabited π] (found : Surroundings) (h : SessionInv s)
    {sender : Option Nat} {message : Message π}
    (hsender : s.app.takesEnd message ≠ none →
      ∃ index service, sender = some index ∧ s.app.services[index]? = some service ∧
        service.phase = .returned) :
    SessionInv (s.receive found sender message) := by
  unfold Session.receive
  simp only
  have hupdate := update_step found.answers found.suggestedAddress s.app message
  generalize (s.app.update found.answers found.suggestedAddress message).1 = app' at hupdate ⊢
  cases hupdate with
  | stays htokens hservices hshutdown hshows hend =>
    rw [eventsOf_none (congrArg List.length hservices) hend, List.append_nil]
    exact h.stays htokens hservices hshutdown hshows
  | cancels kind hkind htokens hservices hshutdown hend =>
    rw [eventsOf_none (by rw [hservices, length_cancel]) hend, List.append_nil]
    exact h.cancels hkind htokens hservices hshutdown
  | spawns params hkind htoken hothers hservices hshutdown hshows hend =>
    rw [eventsOf_spawned hservices hend]
    exact h.spawns hkind htoken hothers hservices hshutdown hshows
  | ends kind hkind htoken hothers hservices hshutdown hend =>
    obtain ⟨index, service, rfl, hget, hreturned⟩ := hsender (by rw [hend]; nofun)
    rw [eventsOf_ended hservices hend]
    exact h.ends hkind htoken hothers hservices hshutdown hget hreturned
  | quits hquit htokens hservices hshutdown =>
    subst hquit
    rw [eventsOf_none (congrArg List.length hservices) rfl, List.append_nil]
    exact h.quits hservices htokens hshutdown

/-! ### A turn of a service -/

/-- A service that was changed in its own ways only. -/
structure SameService (before after : Service π) : Prop where
  params : after.params = before.params
  runs : after.phase ≠ .returned → after.cancelled = false → before.phase ≠ .returned ∧
    before.cancelled = false
  outbox : (∀ message ∈ before.outbox, (∃ app : App π, app.takesEnd message ≠ none) →
    before.phase = .returned) →
    ∀ message ∈ after.outbox, (∃ app : App π, app.takesEnd message ≠ none) → after.phase = .returned

theorem SameService.refl (service : Service π) : SameService service service :=
  ⟨rfl, fun hphase hcancelled => ⟨hphase, hcancelled⟩, fun h => h⟩

theorem SameService.sends {before : Service π} {phase : ServicePhase} {message : Message π}
    (hphase : before.phase ≠ .returned) (hend : ∀ app : App π, app.takesEnd message = none) :
    SameService before { before with phase := phase, outbox := before.outbox ++ [message] } := by
  refine ⟨rfl, fun _ hcancelled => ⟨hphase, hcancelled⟩, fun hbefore other hmem hother => ?_⟩
  rcases List.mem_append.mp hmem with hold | hnew
  · exact absurd (hbefore other hold hother) hphase
  · obtain ⟨app, happ⟩ := hother
    rw [List.mem_singleton.mp hnew] at happ
    exact absurd (hend app) happ

theorem SameService.returns {before after : Service π} (hparams : after.params = before.params)
    (hphase : after.phase = .returned) : SameService before after :=
  ⟨hparams, fun hne => absurd hphase hne, fun _ _ _ _ => hphase⟩

theorem step_same (service : Service π) (event : ServiceEvent π) :
    SameService service (service.step event) := by
  unfold Service.step
  split
  · rename_i hphase _
    exact .sends (by rw [hphase]; nofun) fun _ => rfl
  · exact .returns rfl rfl
  · rename_i hphase _
    exact @SameService.sends _ service service.phase _ (by rw [hphase]; nofun) fun _ => rfl
  · rename_i hphase _
    exact @SameService.sends _ service service.phase _ (by rw [hphase]; nofun) fun _ => rfl
  · exact .returns rfl rfl
  · exact .returns rfl rfl
  · exact .returns rfl rfl
  · exact .refl service

theorem SessionInv.modify (h : SessionInv s) {f : Service π → Service π} (index : Nat)
    (hf : ∀ service, s.app.services[index]? = some service → SameService service (f service)) :
    SessionInv ⟨{ s.app with services := s.app.services.modify index f }, s.history⟩ := by
  have htokens : ∀ kind,
      ({ s.app with services := s.app.services.modify index f } : App π).cancelOf kind =
        s.app.cancelOf kind := fun kind => by cases kind <;> rfl
  have hbefore : ∀ {other : Nat} {after : Service π},
      (s.app.services.modify index f)[other]? = some after →
      ∃ before, s.app.services[other]? = some before ∧ SameService before after := by
    intro other after hget
    rcases getElem?_modify_cases hget with ⟨-, hsame⟩ | ⟨rfl, before, hold, rfl⟩
    · exact ⟨after, hsame, .refl after⟩
    · exact ⟨before, hold, hf before hold⟩
  have hruns : ∀ {other after}, Runs ⟨{ s.app with services := s.app.services.modify index f },
    s.history⟩ other after →
      ∃ before, s.Runs other before ∧ after.params = before.params := by
    intro other after hruns
    obtain ⟨before, hget, hsame⟩ := hbefore hruns.get
    obtain ⟨hphase, hcancelled⟩ := hsame.runs hruns.phase hruns.cancelled
    exact ⟨before, ⟨hget, hphase, hcancelled, hruns.shutdown⟩, hsame.params⟩
  constructor
  · intro kind other htoken
    rw [htokens] at htoken
    obtain ⟨service, hget, hservice⟩ := h.tokens kind other htoken
    refine ⟨if index = other then f service else service, ?_, ?_⟩
    · show (s.app.services.modify index f)[other]? = _
      rw [List.getElem?_modify, hget]
      rfl
    · split
      · rename_i heq
        rw [(hf service (heq ▸ hget)).params, hservice]
      · exact hservice
  · intro other
    show _ = decide (other < (s.app.services.modify index f).length)
    rw [List.length_modify]
    exact h.spawned other
  · intro other after hget
    obtain ⟨before, hget, hsame⟩ := hbefore hget
    exact hsame.outbox (h.outbox other before hget)
  · intro other after hafter
    obtain ⟨before, hold, hparams⟩ := hruns hafter
    rw [htokens, hparams]
    exact h.held other before hold
  · intro other after hafter htoken
    obtain ⟨before, hold, hparams⟩ := hruns hafter
    rw [htokens, hparams] at htoken
    rw [hparams]
    exact h.shown other before hold htoken

end Inv

/-! ### Every run -/

theorem sessionInv_new : SessionInv (new : Session π) where
  tokens kind index htoken := by cases kind <;> cases htoken
  spawned index := by simp [new, App.new]
  outbox index service hget := by cases hget
  held index service hruns := by cases hruns.get
  shown index service hruns := by cases hruns.get

theorem takesEnd_of_isOfView {message : Message π} (h : message.isOfView = true) (app : App π) :
    app.takesEnd message = none := by
  cases message with
  | balancerStarted | balancerStopped | agentStopped => cases h
  | balancerFailed error | agentFailed error => cases h
  | home _ | startBalancerForm _ | joinBalancerForm _ | runningBalancer _ | agentRunning _
  | tabPressed _ => rfl
  | icedEventLoopReady | quit => rfl

section Reached

variable [Inhabited π] {found : Surroundings} {s : Session π}

theorem SessionInv.step (h : SessionInv s) (input : SessionInput π) :
    SessionInv (s.step input) := by
  cases input with
  | view found message =>
    unfold Session.step
    simp only
    split
    · rename_i hview
      exact SessionInv.receive found h fun hend => absurd (takesEnd_of_isOfView hview s.app) hend
    · exact h
  | service index event => exact h.modify index fun service _ => step_same service event
  | deliver found index =>
    unfold Session.step
    simp only
    split
    · rename_i message outbox houtbox
      obtain ⟨service, hget, hservice⟩ := Option.map_eq_some_iff.mp houtbox
      have hpopped := h.modify (f := ({ · with outbox := outbox })) index fun before hbefore =>
        ⟨rfl, fun hphase hcancelled => ⟨hphase, hcancelled⟩, fun hends other hother =>
          hends other (by
            rw [hbefore] at hget
            rw [Option.some.inj hget, hservice]
            exact List.mem_cons_of_mem message hother)⟩
      refine SessionInv.receive found hpopped fun hend =>
        ⟨index, { service with outbox := outbox }, rfl, ?_, ?_⟩
      · show (s.app.services.modify index _)[index]? = _
        rw [List.getElem?_modify, hget]
        exact congrArg some (if_pos rfl)
      · exact h.outbox index service hget message (hservice ▸ List.mem_cons_self ..) ⟨_, hend⟩
    · exact h

theorem sessionInv_reaches (h : Reaches step (fun _ _ => True) new s) : SessionInv s :=
  h.invariant SessionInv sessionInv_new fun _ input _ hs _ => hs.step input

/-! ### Which services can be stopped -/

theorem shutdown_receive {sender : Option Nat} {message : Message π} (h : s.app.shutdown = true) :
    (s.receive found sender message).app.shutdown = true := by
  have hupdate := update_step found.answers found.suggestedAddress s.app message
  show (s.app.update found.answers found.suggestedAddress message).1.shutdown = true
  cases hupdate with
  | stays _ _ hshutdown _ _ => exact hshutdown.trans h
  | cancels _ _ _ _ hshutdown _ => exact hshutdown.trans h
  | spawns _ _ _ _ _ hshutdown _ _ => exact hshutdown.trans h
  | ends _ _ _ _ _ hshutdown _ => exact hshutdown.trans h
  | quits _ _ _ hshutdown => exact hshutdown

theorem shutdown_run (inputs : List (SessionInput π)) (h : s.app.shutdown = true) :
    (inputs.foldl step s).app.shutdown = true := by
  induction inputs generalizing s with
  | nil => exact h
  | cons input inputs ih =>
    refine ih ?_
    cases input with
    | view found message =>
      unfold Session.step
      simp only
      split
      · exact shutdown_receive h
      · exact h
    | service index event => exact h
    | deliver found index =>
      unfold Session.step
      simp only
      split
      · exact shutdown_receive h
      · exact h

theorem SessionInv.held_of_canBeStopped (h : SessionInv s) {index : Nat} {service : Service π}
    (hruns : s.Runs index service) (hstops : s.CanBeStopped found index) :
    s.app.cancelOf service.params.kind = some index := by
  obtain ⟨message, hview, hquit, after, hget, hcancelled⟩ := hstops
  unfold Session.step at hget
  simp only [hview, if_true] at hget
  have hupdate := update_step found.answers found.suggestedAddress s.app message
  change (s.app.update found.answers found.suggestedAddress message).1.services[index]? =
    some after at hget
  generalize (s.app.update found.answers found.suggestedAddress message).1 = app' at hupdate hget
  have hsame : s.app.services[index]? = some after → False := fun hsame => by
    rw [hruns.get] at hsame
    rw [← Option.some.inj hsame, hruns.cancelled] at hcancelled
    cases hcancelled
  cases hupdate with
  | stays _ hservices _ _ _ => exact absurd (hservices ▸ hget) hsame
  | cancels kind _ _ hservices _ _ =>
    rcases getElem?_cancel (hservices ▸ hget) with ⟨-, hget⟩ | ⟨htoken, -⟩
    · exact absurd hget hsame
    · obtain ⟨holder, hholder, hkind⟩ := h.tokens kind index htoken
      rw [hruns.get] at hholder
      cases hholder
      rw [hkind, htoken]
  | spawns _ _ _ _ hservices _ _ _ =>
    rw [hservices, List.getElem?_append_left hruns.lt] at hget
    exact absurd hget hsame
  | ends _ _ _ _ hservices _ _ => exact absurd (hservices ▸ hget) hsame
  | quits hmessage _ _ _ => exact absurd hmessage hquit

theorem SessionInv.canBeStopped (h : SessionInv s) {index : Nat} {service : Service π}
    (hruns : s.Runs index service) (hheld : s.app.cancelOf service.params.kind = some index) :
    s.CanBeStopped found index := by
  have hshown := h.shown index service hruns hheld
  have hcancelled : ∀ {app' : App π}, app'.services =
      (s.app.cancel (s.app.cancelOf service.params.kind)).services →
      ∃ after, app'.services[index]? = some after ∧ after.cancelled = true := by
    intro app' hservices
    refine ⟨{ service with cancelled := true }, ?_, rfl⟩
    rw [hservices, hheld]
    show (s.app.services.modify index _)[index]? = _
    rw [List.getElem?_modify, hruns.get]
    exact congrArg some (if_pos rfl)
  cases hscreen : s.app.screen with
  | home data =>
    rw [hscreen] at hshown
    cases hshown
  | joinBalancerForm form =>
    rw [hscreen] at hshown
    cases hshown
  | agentRunning running =>
    rw [hscreen] at hshown
    have hservices : (s.app.update found.answers found.suggestedAddress
        (.agentRunning .disconnect)).1.services =
        (s.app.cancel (s.app.cancelOf .agent)).services := by
      simp only [App.update, hscreen]
      rfl
    exact ⟨.agentRunning .disconnect, rfl, nofun, hcancelled (Option.some.inj hshown ▸ hservices)⟩
  | startBalancerForm form =>
    rw [hscreen] at hshown
    have hservices : (s.app.update found.answers found.suggestedAddress
        (.startBalancerForm .cancel)).1.services =
        (s.app.cancel (s.app.cancelOf .balancer)).services := by
      simp only [App.update, hscreen]
      rfl
    exact ⟨.startBalancerForm .cancel, rfl, nofun, hcancelled (Option.some.inj hshown ▸ hservices)⟩
  | runningBalancer running =>
    rw [hscreen] at hshown
    have hservices : (s.app.update found.answers found.suggestedAddress
        (.runningBalancer .stop)).1.services =
        (s.app.cancel (s.app.cancelOf .balancer)).services := by
      simp only [App.update, hscreen]
      rfl
    exact ⟨.runningBalancer .stop, rfl, nofun, hcancelled (Option.some.inj hshown ▸ hservices)⟩

/-- **Which services the user can stop.**  Whatever the user does and in whatever order the messages
of the services arrive, also of those that were told to stop: a service that runs can be stopped
from the screen unless another of its kind was started after it, or the end of another was taken for
its own; there is at most one such service; and to quit stops every service for good. -/
theorem running_stoppable (h : Reaches step (fun _ _ => True) new s) :
    (∀ (index : Nat) (service : Service π), s.Runs index service →
      (s.CanBeStopped found index ↔ s.isReplaced service.params.kind index = false) ∧
      (s.isReplaced service.params.kind index = false → ∀ other (service' : Service π),
        s.Runs other service' →
        s.isReplaced service'.params.kind other = false → other = index)) ∧
    ∀ (inputs : List (SessionInput π)) (index : Nat) (service : Service π),
      ¬ (inputs.foldl step (s.step (.view found .quit))).Runs index service := by
  have hinv := sessionInv_reaches h
  refine ⟨fun index service hruns => ?_, fun inputs index service hlater => ?_⟩
  · have hheld := hinv.held index service hruns
    refine ⟨⟨fun hstops => hheld.mp (hinv.held_of_canBeStopped hruns hstops), fun hkept =>
      hinv.canBeStopped hruns (hheld.mpr hkept)⟩, fun hkept other service' hother hkept' => ?_⟩
    -- both are on the screen
    have htoken := hheld.mpr hkept
    have htoken' := (hinv.held other service' hother).mpr hkept'
    have hkind := (hinv.shown index service hruns htoken).symm.trans
      (hinv.shown other service' hother htoken')
    rw [← Option.some.inj hkind, htoken] at htoken'
    exact (Option.some.inj htoken').symm
  · have hquit : (inputs.foldl step (s.step (.view found .quit))).app.shutdown = true :=
      shutdown_run inputs rfl
    rw [hlater.shutdown] at hquit
    cases hquit

end Reached

/-- Every address is one, and free. -/
def allFree (suggestedAddress : String) : Surroundings :=
  ⟨⟨fun text => .ok ⟨text, 8060⟩, fun _ => .available⟩, suggestedAddress⟩

/-- A balancer is cancelled while it starts, and a second one is started before the first has
stopped.  The address of the network interface is another by then. -/
def staleInputs : List (SessionInput Unit) :=
  [.view (allFree "10.0.0.1") (.home .startBalancer),
    .view (allFree "10.0.0.1") (.startBalancerForm (.toggleAddModelLater true)),
    .view (allFree "10.0.0.1") (.startBalancerForm .confirm), .service 0 .started,
    .view (allFree "10.0.0.1") (.startBalancerForm .cancel),
    .view (allFree "10.0.0.2") (.home .startBalancer),
    .view (allFree "10.0.0.2") (.startBalancerForm (.toggleAddModelLater true)),
    .view (allFree "10.0.0.2") (.startBalancerForm .confirm), .deliver (allFree "10.0.0.2") 0,
    .service 0 (.completed none), .deliver (allFree "10.0.0.2") 0, .service 1 .started,
    .deliver (allFree "10.0.0.2") 1]

def stale : Session Unit := staleInputs.foldl step new

/-- The second balancer runs, and nothing but to quit stops it. -/
theorem running_stoppable_stale :
    (∃ service, stale.Runs 1 service) ∧ ¬ stale.CanBeStopped (allFree "10.0.0.2") 1 := by
  have hreached : Reaches step (fun _ _ => True) new stale :=
    .runs staleInputs (fun _ _ _ => trivial) .start
  have hruns : stale.Runs 1
      ⟨.balancer ⟨"10.0.0.2:8060", 8060⟩ ⟨"10.0.0.2:8061", 8060⟩ none .ofDefault, false,
        .running, []⟩ :=
    ⟨by rfl, nofun, rfl, by rfl⟩
  refine ⟨⟨_, hruns⟩, fun hstops => ?_⟩
  have hkept := ((running_stoppable hreached).1 1 _ hruns).1.mp hstops
  cases hkept

end Session

end Gui

end Paddler
