import Mathlib.Data.List.Chain
import Paddler.Balancer.InferenceSocket
import Paddler.Balancer.ReconciliationService
import Paddler.Library.Watch
import Paddler.Messaging.RequestParams

/-!
# Notifications about token generation

Model of `spawn_token_generation_mode_watcher.rs`, `cluster_token_generation_mode.rs` and
`balancer_applicable_state_holder.rs`.  The watcher of a connection is a task: it subscribes to the
holder, reads the mode, and then notifies the client of every other mode it reads.  Writing the
state and sending on the watch channel are two steps of whoever sets it, and any number of them may
set it at once.

* `ModeWatcher.step` — one step of a writer, of the client or of the watcher.
* `WatcherInv` — what the watcher knows at each place; `watcherInv_reaches`.
* `notifications_agree` — **the modes alternate, and a watcher that has seen the last update and
  waits has notified the mode of the holder's state.**
-/

set_option autoImplicit false

namespace Paddler

open Run Watch

/-- The state behind the lock of `BalancerApplicableStateHolder`. -/
abbrev HeldState := Option (BalancerApplicableState InferenceParameters)

def ClusterTokenGenerationMode.fromApplicableStateHolder (held : HeldState) :
    ClusterTokenGenerationMode :=
  match held.map (·.agentDesiredState) with
  | some agentDesiredState =>
    if agentDesiredState.inferenceParameters.enableEmbeddings then .disabledForEmbeddings
    else .enabled
  | none => .enabled

inductive Notification where
  | tokenGenerationDisabled
  | tokenGenerationEnabled
  deriving DecidableEq, Repr

/-- The notification of a mode. -/
def ClusterTokenGenerationMode.notification : ClusterTokenGenerationMode → Notification
  | .enabled => .tokenGenerationEnabled
  | .disabledForEmbeddings => .tokenGenerationDisabled

/-- The mode a notification tells. -/
def Notification.mode : Notification → ClusterTokenGenerationMode
  | .tokenGenerationDisabled => .disabledForEmbeddings
  | .tokenGenerationEnabled => .enabled

@[simp] theorem notification_mode (mode : ClusterTokenGenerationMode) :
    mode.notification.mode = mode := by
  cases mode <;> rfl

/-- Where the watcher is. -/
inductive WatcherPhase where
  | created
  | subscribed
  | sendingFirst
  | waiting
  | changed
  | sending
  | ended
  deriving DecidableEq, Repr

/-- The holder and the watcher of one connection.  `seen` is the version its receiver has marked,
and `lastMode` the local variable; `notified` are the notifications that were sent. -/
structure ModeWatcher where
  holder : Announced HeldState
  connectionClose : Bool
  phase : WatcherPhase
  seen : Nat
  lastMode : ClusterTokenGenerationMode
  notified : List Notification
  deriving DecidableEq

/-- What can happen next.  `setBalancerApplicableState` writes the state, and `sendReplace` is the
send that follows it.  The watcher's step carries whether a send succeeds, and whether its `select!`
takes the close of the connection when both branches are ready. -/
inductive WatcherInput where
  | setBalancerApplicableState (held : HeldState)
  | sendReplace
  | closeConnection
  | watcher (sendSucceeds takesClose : Bool)
  deriving DecidableEq

namespace ModeWatcher

/-- A connection was made while the holder had this state. -/
def new (holder : Announced HeldState) : ModeWatcher :=
  { holder := holder
    connectionClose := false
    phase := .created
    seen := 0
    lastMode := .enabled
    notified := [] }

/-- The mode of the state that is there. -/
def currentMode (self : ModeWatcher) : ClusterTokenGenerationMode :=
  .fromApplicableStateHolder self.holder.value

/-- `send_notification`; a failed send ends the watcher. -/
def sendNotification (self : ModeWatcher) (sendSucceeds : Bool) : ModeWatcher :=
  if sendSucceeds then
    { self with notified := self.notified ++ [self.lastMode.notification], phase := .waiting }
  else { self with phase := .ended }

/-- The next step of the watcher. -/
def watch (self : ModeWatcher) (sendSucceeds takesClose : Bool) : ModeWatcher :=
  match self.phase with
  | .created => { self with phase := .subscribed, seen := self.holder.version }
  | .subscribed =>
    { self with
      lastMode := self.currentMode
      phase := if self.currentMode = .disabledForEmbeddings then .sendingFirst else .waiting }
  | .sendingFirst | .sending => self.sendNotification sendSucceeds
  | .waiting =>
    -- `select!` of `connection_close.cancelled()` and `update_rx.changed()`
    if self.connectionClose ∧ (takesClose ∨ self.seen = self.holder.version) then
      { self with phase := .ended }
    else if self.seen = self.holder.version then self
    else { self with phase := .changed, seen := self.holder.version }
  | .changed =>
    if self.currentMode = self.lastMode then { self with phase := .waiting }
    else { self with phase := .sending, lastMode := self.currentMode }
  | .ended => self

/-- One step. -/
def step (self : ModeWatcher) : WatcherInput → ModeWatcher
  | .setBalancerApplicableState held => { self with holder := self.holder.write held }
  | .sendReplace => { self with holder := self.holder.announce }
  | .closeConnection => { self with connectionClose := true }
  | .watcher sendSucceeds takesClose => self.watch sendSucceeds takesClose

/-- The mode the client knows of: it starts with token generation enabled. -/
def lastNotified (self : ModeWatcher) : ClusterTokenGenerationMode :=
  ((self.notified.map (·.mode)).getLast?).getD .enabled

/-- The modes notified, after the mode a client starts with, differ from one to the next. -/
def Alternates (self : ModeWatcher) : Prop :=
  (ClusterTokenGenerationMode.enabled :: self.notified.map (·.mode)).IsChain (· ≠ ·)

/-! ## What the watcher knows -/

/-- `lastMode` was read after the last mark, and is on its way to the client or there. -/
structure WatcherInv (s : ModeWatcher) : Prop where
  alternates : s.Alternates
  seen : s.phase ≠ .created → s.seen ≤ s.holder.version
  fresh : s.phase = .created ∨ s.phase = .subscribed ∨ s.phase = .sendingFirst → s.notified = []
  disabled : s.phase = .sendingFirst → s.lastMode = .disabledForEmbeddings
  notified : s.phase = .waiting ∨ s.phase = .changed → s.lastNotified = s.lastMode
  different : s.phase = .sending → s.lastMode ≠ s.lastNotified
  current : s.phase = .sendingFirst ∨ s.phase = .waiting ∨ s.phase = .sending →
    s.holder.Current ClusterTokenGenerationMode.fromApplicableStateHolder s.seen s.lastMode

variable {s : ModeWatcher}

theorem alternates_append (h : s.Alternates) {mode : ClusterTokenGenerationMode}
    (hmode : s.lastNotified ≠ mode) :
    (ClusterTokenGenerationMode.enabled ::
      (s.notified ++ [mode.notification]).map (·.mode)).IsChain (· ≠ ·) := by
  unfold Alternates at h
  rw [List.map_append, ← List.cons_append, List.isChain_append]
  refine ⟨h, List.isChain_singleton _, ?_⟩
  intro last hlast next hnext
  have hlastNotified : s.lastNotified = last := by
    rw [List.getLast?_cons] at hlast
    exact Option.some.inj hlast
  have hnext' : mode = next := by simpa using hnext
  rw [← hlastNotified, ← hnext']
  exact hmode

theorem sendNotification_inv (halternates : s.Alternates) (hseen : s.seen ≤ s.holder.version)
    (hdifferent : s.lastMode ≠ s.lastNotified)
    (hcurrent : s.holder.Current ClusterTokenGenerationMode.fromApplicableStateHolder
      s.seen s.lastMode)
    (sendSucceeds : Bool) : (s.sendNotification sendSucceeds).WatcherInv := by
  unfold sendNotification
  split
  · exact
      { alternates := alternates_append halternates hdifferent.symm
        seen := fun _ => hseen
        fresh := by simp
        disabled := by simp
        notified := fun _ => by simp [lastNotified]
        different := by simp
        current := fun _ => hcurrent }
  · exact
      { alternates := halternates
        seen := fun _ => hseen
        fresh := by simp
        disabled := by simp
        notified := by simp
        different := by simp
        current := by simp }

theorem WatcherInv.writer (h : s.WatcherInv) {holder : Announced HeldState}
    (hseen : s.seen ≤ s.holder.version → s.seen ≤ holder.version)
    (hcurrent : s.holder.Current ClusterTokenGenerationMode.fromApplicableStateHolder s.seen
      s.lastMode →
      holder.Current ClusterTokenGenerationMode.fromApplicableStateHolder s.seen s.lastMode) :
    ({ s with holder := holder } : ModeWatcher).WatcherInv :=
  { alternates := h.alternates
    seen := fun hphase => hseen (h.seen hphase)
    fresh := h.fresh
    disabled := h.disabled
    notified := h.notified
    different := h.different
    current := fun hphase => hcurrent (h.current hphase) }

theorem WatcherInv.watch (h : s.WatcherInv) (sendSucceeds takesClose : Bool) :
    (s.watch sendSucceeds takesClose).WatcherInv := by
  obtain ⟨halternates, hseen, hfresh, hdisabled, hnotified, hdifferent, hcurrent⟩ := h
  unfold ModeWatcher.watch
  cases hphase : s.phase with
  | created =>
    have hempty := hfresh (Or.inl hphase)
    exact ⟨halternates, fun _ => Nat.le_refl _, fun _ => hempty, by simp, by simp, by simp, by simp⟩
  | subscribed =>
    have hempty := hfresh (Or.inr (Or.inl hphase))
    have hle := hseen (by rw [hphase]; decide)
    refine ⟨halternates, fun _ => hle, fun _ => hempty, ?_, ?_, ?_,
      fun _ => Announced.Current.fresh hle⟩
    · simp +contextual
    · simp only [lastNotified, hempty, List.map_nil, List.getLast?_nil, Option.getD_none]
      cases s.currentMode <;> simp
    · cases s.currentMode <;> simp
  | sendingFirst =>
    have hempty := hfresh (Or.inr (Or.inr hphase))
    refine sendNotification_inv halternates (hseen (by rw [hphase]; decide)) ?_
      (hcurrent (Or.inl hphase)) sendSucceeds
    rw [hdisabled hphase]
    simp [lastNotified, hempty]
  | sending =>
    exact sendNotification_inv halternates (hseen (by rw [hphase]; decide)) (hdifferent hphase)
      (hcurrent (Or.inr (Or.inr hphase))) sendSucceeds
  | waiting =>
    have hsame := hnotified (Or.inl hphase)
    simp only
    split
    · exact ⟨halternates, fun _ => hseen (by rw [hphase]; decide), by simp, by simp, by
        simp, by simp, by simp⟩
    · split
      · exact ⟨halternates, hseen, hfresh, hdisabled, hnotified, hdifferent, hcurrent⟩
      · exact ⟨halternates, fun _ => Nat.le_refl _, by simp, by simp, fun _ => hsame, by
          simp, by simp⟩
  | changed =>
    have hsame := hnotified (Or.inr hphase)
    have hle := hseen (by rw [hphase]; decide)
    simp only
    split
    · rename_i hmode
      refine ⟨halternates, fun _ => hle, by simp, by simp, fun _ => hsame, by simp, fun _ => ?_⟩
      show s.holder.Current _ s.seen s.lastMode
      rw [← hmode]
      exact Announced.Current.fresh hle
    · rename_i hmode
      refine ⟨halternates, fun _ => hle, by simp, by simp, by simp, fun _ => ?_,
        fun _ => Announced.Current.fresh hle⟩
      show s.currentMode ≠ s.lastNotified
      rw [hsame]
      exact hmode
  | ended => exact ⟨halternates, hseen, hfresh, hdisabled, hnotified, hdifferent, hcurrent⟩

theorem WatcherInv.step (h : s.WatcherInv) (input : WatcherInput) : (s.step input).WatcherInv := by
  cases input with
  | setBalancerApplicableState held => exact h.writer id fun hcurrent => hcurrent.write held
  | sendReplace => exact h.writer Announced.le_announce Announced.Current.announce
  | closeConnection =>
    exact ⟨h.alternates, h.seen, h.fresh, h.disabled, h.notified, h.different, h.current⟩
  | watcher sendSucceeds takesClose => exact h.watch sendSucceeds takesClose

theorem watcherInv_reaches {holder : Announced HeldState}
    (h : Reaches step (fun _ _ => True) (new holder) s) : s.WatcherInv := by
  refine h.invariant WatcherInv ?_ fun _ input _ hs _ => hs.step input
  exact
    { alternates := List.isChain_singleton _
      seen := fun h => absurd rfl h
      fresh := fun _ => rfl
      disabled := fun h => (by cases h)
      notified := by simp [new]
      different := fun h => (by cases h)
      current := by simp [new] }

/-- **Notifications agree with the state.**  In every interleaving of any number of updates with the
watcher of a connection: the modes notified alternate, and whenever the watcher has seen the last
update and waits, the mode notified last is the mode of the state in the holder. -/
theorem notifications_agree (holder : Announced HeldState) :
    ∀ s, Reaches step (fun _ _ => True) (new holder) s →
      s.Alternates ∧
        (s.phase = .waiting → s.holder.unannounced = 0 → s.seen = s.holder.version →
          s.lastNotified = .fromApplicableStateHolder s.holder.value) := by
  intro s h
  have hinv := watcherInv_reaches h
  refine ⟨hinv.alternates, fun hwaiting hannounced hseen => ?_⟩
  rw [hinv.notified (Or.inl hwaiting)]
  exact (hinv.current (Or.inr (Or.inl hwaiting))).settled hannounced hseen

/-- A state for embeddings. -/
def embeddingState : BalancerApplicableState InferenceParameters :=
  ⟨⟨none, ⟨512, 1, true, 512, .mean⟩, .none, .none⟩⟩

/-- An update falls between the subscription and the first read, and is announced after it. -/
def updateWhileStarting : List WatcherInput :=
  [.watcher true false, .setBalancerApplicableState (some embeddingState), .watcher true false,
    .watcher true false, .sendReplace, .watcher true false, .watcher true false]

theorem notifications_agree_updateWhileStarting :
    let s := updateWhileStarting.foldl step (new ⟨none, 0, 0⟩)
    s.lastNotified = .fromApplicableStateHolder s.holder.value ∧
      s.notified = [.tokenGenerationDisabled] := by
  intro s
  have hrun : Reaches step (fun _ _ => True) (new ⟨none, 0, 0⟩) s :=
    Reaches.runs updateWhileStarting (fun _ _ _ => trivial) .start
  exact ⟨(notifications_agree ⟨none, 0, 0⟩ s hrun).2 (by decide) (by decide) (by decide), by decide⟩

end ModeWatcher

end Paddler
