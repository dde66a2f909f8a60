import Paddler.Library.AssocList
import Paddler.Library.Run
import Paddler.Library.VecUpdate

/-!
# The requests of a connection that can be cancelled

Model of `request_cancellation_tokens.rs` and `request_cancellation_token_guard.rs`.  The requests
of one inference connection register under ids of the client's choice.  A request is in flight as
long as its guard lives; the guard deregisters it when it is dropped.  `CancellationToken` is
third-party: a token that is cancelled stays so, a child of a cancelled token is cancelled from the
start, and cancelling a token cancels its children.

Every operation on the map is one step: `DashMap` holds the lock of the entry through `entry(..)`
and through the `match` on `get(..)`.

* `InferenceConnection.step` — a registration, a stop notification, the drop of a guard or the close
  of the connection.
* `registryInv_step` — the map has exactly the ids of the guards that live.
* `step_guard`, `step_isCancelled` — what a step does to each request that is there.
* `cancellation_registry` — **the law of the registry**, in every run.
-/

set_option autoImplicit false

namespace Paddler

open AssocList Run VecUpdate

/-! ## Cancellation tokens -/

/-- The `CancellationToken` of a connection and its children, which are known by their number. -/
structure ConnectionClose where
  isCancelled : Bool
  children : List Bool
  deriving DecidableEq, Repr

namespace ConnectionClose

def new : ConnectionClose := ⟨false, []⟩

def childToken (self : ConnectionClose) : Nat × ConnectionClose :=
  (self.children.length, { self with children := self.children ++ [self.isCancelled] })

/-- `CancellationToken::cancel` of a child. -/
def cancelChild (self : ConnectionClose) (token : Nat) : ConnectionClose :=
  { self with children := self.children.set token true }

def cancel (self : ConnectionClose) : ConnectionClose := ⟨true, self.children.map fun _ => true⟩

end ConnectionClose

/-! ## The registry -/

/-- `request_registration.rs`. -/
inductive RequestRegistration where
  | duplicateRequestId
  | registered (requestClose : Nat)
  deriving DecidableEq, Repr

/-- `request_cancellation_tokens.rs`. -/
structure RequestCancellationTokens where
  cancellationTokens : List (String × Nat)
  deriving DecidableEq, Repr

namespace RequestCancellationTokens

def register (self : RequestCancellationTokens) (requestId : String)
    (connectionClose : ConnectionClose) :
    RequestRegistration × RequestCancellationTokens × ConnectionClose :=
  match self.cancellationTokens.lookup requestId with
  | some _ => (.duplicateRequestId, self, connectionClose)
  | none =>
    let (requestClose, connectionClose) := connectionClose.childToken
    (.registered requestClose, ⟨insertKey requestId requestClose self.cancellationTokens⟩,
      connectionClose)

def cancel (self : RequestCancellationTokens) (requestId : String)
    (connectionClose : ConnectionClose) :
    ConnectionClose :=
  match self.cancellationTokens.lookup requestId with
  | some cancellationToken => connectionClose.cancelChild cancellationToken
  | none => connectionClose

def deregister (self : RequestCancellationTokens) (requestId : String) :
    RequestCancellationTokens :=
  ⟨eraseKey requestId self.cancellationTokens⟩

end RequestCancellationTokens

/-- `request_cancellation_token_guard.rs`; `dropped` is history. -/
structure RequestCancellationTokenGuard where
  cancellationToken : Nat
  requestId : String
  dropped : Bool
  deriving DecidableEq, Repr

/-- The id under which a guard that lives is registered. -/
def RequestCancellationTokenGuard.registeredId (self : RequestCancellationTokenGuard) :
    Option String :=
  if self.dropped then none else some self.requestId

/-- A connection: its token, the registry of its context, and the guards of all its requests so
far. -/
structure InferenceConnection where
  connectionClose : ConnectionClose
  requestCancellationTokens : RequestCancellationTokens
  guards : List RequestCancellationTokenGuard
  deriving DecidableEq, Repr

/-- What can happen on a connection. -/
inductive InferenceConnectionInput where
  | register (requestId : String)
  | stopRespondingTo (requestId : String)
  | guardDropped (k : Nat)
  | connectionClose
  deriving DecidableEq, Repr

namespace InferenceConnection

def new : InferenceConnection := ⟨.new, ⟨[]⟩, []⟩

/-- `RequestCancellationTokenGuard::register`; a duplicate gets no guard. -/
def register (self : InferenceConnection) (requestId : String) :
    RequestRegistration × InferenceConnection :=
  match self.requestCancellationTokens.register requestId self.connectionClose with
  | (.duplicateRequestId, requestCancellationTokens, connectionClose) =>
    (.duplicateRequestId, ⟨connectionClose, requestCancellationTokens, self.guards⟩)
  | (.registered cancellationToken, requestCancellationTokens, connectionClose) =>
    (.registered cancellationToken,
      ⟨connectionClose, requestCancellationTokens, self.guards ++
        [⟨cancellationToken, requestId, false⟩]⟩)

/-- `RequestCancellationTokenGuard::drop`; a guard is dropped once. -/
def dropGuard (self : InferenceConnection) (k : Nat) : InferenceConnection :=
  match self.guards[k]? with
  | none => self
  | some guard =>
    if guard.dropped then self
    else
      { self with
        requestCancellationTokens := self.requestCancellationTokens.deregister guard.requestId
        guards := self.guards.set k { guard with dropped := true } }

def step (self : InferenceConnection) (input : InferenceConnectionInput) : InferenceConnection :=
  match input with
  | .register requestId => (self.register requestId).2
  | .stopRespondingTo requestId =>
    { self with
      connectionClose := self.requestCancellationTokens.cancel requestId self.connectionClose }
  | .guardDropped k => self.dropGuard k
  | .connectionClose => { self with connectionClose := self.connectionClose.cancel }

/-- The token of request `k` is cancelled. -/
def isCancelled (self : InferenceConnection) (k : Nat) : Bool :=
  match self.guards[k]? with
  | none => false
  | some guard => self.connectionClose.children.getD guard.cancellationToken false

/-- Request `k` is in flight under this id. -/
def InFlight (self : InferenceConnection) (k : Nat) (requestId : String) : Prop :=
  heldBy RequestCancellationTokenGuard.registeredId self.guards k = some requestId

end InferenceConnection

/-! ## The invariant -/

/-- The map has exactly the ids of the guards that live, and every request has a token of its
own. -/
structure RegistryInv (s : InferenceConnection) : Prop where
  owned : Owned s.requestCancellationTokens.cancellationTokens
    (heldBy RequestCancellationTokenGuard.registeredId s.guards)
  tokens : ∀ (k : Nat) (guard : RequestCancellationTokenGuard),
    s.guards[k]? = some guard → guard.cancellationToken = k
  children : s.connectionClose.children.length = s.guards.length

theorem registryInv_new : RegistryInv InferenceConnection.new := by
  refine ⟨fun key owner => ?_, fun k guard h => (by cases h), rfl⟩
  constructor
  · intro h
    cases h
  · intro h
    cases h

namespace InferenceConnection

variable {s : InferenceConnection}

theorem register_duplicate {requestId : String} {token : Nat}
    (h : s.requestCancellationTokens.cancellationTokens.lookup requestId = some token) :
    s.register requestId = (.duplicateRequestId, s) := by
  unfold register RequestCancellationTokens.register
  rw [h]

/-- A free id is registered with a new token, which is cancelled if the connection is closed. -/
theorem register_fresh {requestId : String}
    (h : s.requestCancellationTokens.cancellationTokens.lookup requestId = none) :
    s.register requestId =
      (.registered s.connectionClose.children.length,
        { connectionClose := { s.connectionClose with
            children := s.connectionClose.children ++ [s.connectionClose.isCancelled] }
          requestCancellationTokens := ⟨insertKey requestId s.connectionClose.children.length
            s.requestCancellationTokens.cancellationTokens⟩
          guards := s.guards ++ [⟨s.connectionClose.children.length, requestId, false⟩] }) := by
  unfold register RequestCancellationTokens.register
  rw [h]
  rfl

theorem dropGuard_live {k : Nat} {guard : RequestCancellationTokenGuard}
    (hk : s.guards[k]? = some guard) (hlive : guard.dropped = false) :
    s.dropGuard k = { s with
      requestCancellationTokens :=
  ⟨eraseKey guard.requestId s.requestCancellationTokens.cancellationTokens⟩
      guards := s.guards.set k { guard with dropped := true } } := by
  unfold dropGuard
  rw [hk]
  dsimp only
  rw [if_neg (by simp [hlive])]
  rfl

theorem dropGuard_dropped {k : Nat}
    (h : ∀ guard, s.guards[k]? = some guard → guard.dropped = true) : s.dropGuard k = s := by
  unfold dropGuard
  cases hk : s.guards[k]? with
  | none => rfl
  | some guard => exact if_pos (h guard hk)

theorem InFlight.guard {k : Nat} {requestId : String} (h : s.InFlight k requestId) :
    ∃ guard, s.guards[k]? = some guard ∧ guard.dropped = false ∧ guard.requestId = requestId := by
  obtain ⟨guard, hk, hid⟩ := heldBy_eq_some h
  unfold RequestCancellationTokenGuard.registeredId at hid
  cases hdropped : guard.dropped with
  | true =>
    rw [if_pos hdropped] at hid
    cases hid
  | false =>
    rw [if_neg (by simp [hdropped])] at hid
    exact ⟨guard, hk, hdropped, Option.some.inj hid⟩

theorem inFlight_of_guard {k : Nat} {guard : RequestCancellationTokenGuard}
    (hk : s.guards[k]? = some guard) (hlive : guard.dropped = false) :
    s.InFlight k guard.requestId := by
  refine (heldBy_of_getElem? hk).trans ?_
  unfold RequestCancellationTokenGuard.registeredId
  rw [if_neg (by simp [hlive])]

end InferenceConnection

namespace RegistryInv

variable {s : InferenceConnection}

/-- **An id is registered exactly while a request is in flight under it**, with the token of that
request. -/
theorem lookup_iff (hinv : RegistryInv s) (requestId : String) (k : Nat) :
    s.requestCancellationTokens.cancellationTokens.lookup requestId = some k ↔
      s.InFlight k requestId :=
  hinv.owned requestId k

theorem isCancelled_eq (hinv : RegistryInv s) (k : Nat) :
    s.isCancelled k = s.connectionClose.children.getD k false := by
  unfold InferenceConnection.isCancelled
  cases hk : s.guards[k]? with
  | none =>
    have hlength : s.connectionClose.children.length ≤ k := by
      rw [hinv.children]
      exact List.getElem?_eq_none_iff.mp hk
    rw [List.getD_eq_getElem?_getD, List.getElem?_eq_none hlength]
    rfl
  | some guard =>
    dsimp only
    rw [hinv.tokens k guard hk]

theorem register (hinv : RegistryInv s) (requestId : String) :
    RegistryInv (s.register requestId).2 := by
  cases hlookup : s.requestCancellationTokens.cancellationTokens.lookup requestId with
  | some token =>
    rw [InferenceConnection.register_duplicate hlookup]
    exact hinv
  | none =>
    rw [InferenceConnection.register_fresh hlookup, hinv.children]
    refine ⟨hinv.owned.push_register hlookup rfl, fun k guard hk => ?_, ?_⟩
    · rcases getElem?_push_cases hk with hk | ⟨rfl, rfl⟩
      · exact hinv.tokens k guard hk
      · rfl
    · simp [hinv.children]

theorem dropGuard (hinv : RegistryInv s) (k : Nat) : RegistryInv (s.dropGuard k) := by
  by_cases hlive : ∃ guard, s.guards[k]? = some guard ∧ guard.dropped = false
  · obtain ⟨guard, hk, hlive⟩ := hlive
    rw [InferenceConnection.dropGuard_live hk hlive]
    have hheld : guard.registeredId = some guard.requestId := if_neg (by simp [hlive])
    refine ⟨hinv.owned.release hk hheld rfl, fun i guard' hi => ?_, ?_⟩
    · rcases getElem?_set_cases hi with ⟨rfl, rfl⟩ | ⟨-, hi⟩
      · exact hinv.tokens _ guard hk
      · exact hinv.tokens i guard' hi
    · simp [hinv.children]
  · rw [InferenceConnection.dropGuard_dropped]
    · exact hinv
    · intro guard hk
      by_contra hdropped
      exact hlive ⟨guard, hk, by simpa using hdropped⟩

end RegistryInv

theorem registryInv_step {s : InferenceConnection} (hinv : RegistryInv s)
    (input : InferenceConnectionInput) :
    RegistryInv (s.step input) := by
  cases input with
  | register requestId => exact hinv.register requestId
  | guardDropped k => exact hinv.dropGuard k
  | stopRespondingTo requestId =>
    refine ⟨hinv.owned, hinv.tokens, ?_⟩
    show (RequestCancellationTokens.cancel _ _ _).children.length = s.guards.length
    unfold RequestCancellationTokens.cancel
    split
    · rw [← hinv.children]
      exact List.length_set
    · exact hinv.children
  | connectionClose =>
    refine ⟨hinv.owned, hinv.tokens, ?_⟩
    show (s.connectionClose.children.map fun _ => true).length = s.guards.length
    rw [List.length_map, hinv.children]

theorem registryInv_of_reaches {s : InferenceConnection}
    (h : Reaches InferenceConnection.step (fun _ _ => True) .new s) : RegistryInv s :=
  h.invariant RegistryInv registryInv_new fun _ input _ hinv _ => registryInv_step hinv input

/-! ## What a step does to a request -/

namespace InferenceConnection

variable {s : InferenceConnection}

/-- A guard keeps its id and its token, and is dropped by nothing but its own drop. -/
theorem step_guard {k : Nat} {guard : RequestCancellationTokenGuard}
    (hk : s.guards[k]? = some guard) (input : InferenceConnectionInput) :
    (s.step input).guards[k]? =
      some { guard with dropped := guard.dropped || decide (input = .guardDropped k) } := by
  cases input with
  | stopRespondingTo requestId => simpa [step] using hk
  | connectionClose => simpa [step] using hk
  | register requestId =>
    have hkept : (s.register requestId).2.guards[k]? = some guard := by
      cases hlookup : s.requestCancellationTokens.cancellationTokens.lookup requestId with
      | some token => rwa [register_duplicate hlookup]
      | none =>
        rw [register_fresh hlookup]
        exact (List.getElem?_append_left (List.getElem?_eq_some_iff.mp hk).1).trans hk
    simpa [step] using hkept
  | guardDropped j =>
    show (s.dropGuard j).guards[k]? = _
    by_cases hlive : ∃ dropped, s.guards[j]? = some dropped ∧ dropped.dropped = false
    · obtain ⟨dropped, hj, hlive⟩ := hlive
      rw [dropGuard_live hj hlive]
      by_cases hjk : j = k
      · subst hjk
        rw [hk] at hj
        cases hj
        simp [List.getElem?_set_self (List.getElem?_eq_some_iff.mp hk).1]
      · simpa [List.getElem?_set_ne hjk, hjk] using hk
    · have hgone : ∀ dropped, s.guards[j]? = some dropped → dropped.dropped = true := by
        intro dropped hj
        by_contra hdropped
        exact hlive ⟨dropped, hj, by simpa using hdropped⟩
      rw [dropGuard_dropped hgone, hk]
      by_cases hjk : j = k
      · subst hjk
        have hdropped := hgone guard hk
        cases guard
        cases hdropped
        rfl
      · simp [hjk]

/-- **A request is cancelled by a stop for its id while it is in flight, or by the close of the
connection**, and by nothing else. -/
theorem step_isCancelled (hinv : RegistryInv s) {k : Nat} (hk : k < s.guards.length)
    (input : InferenceConnectionInput) :
    (s.step input).isCancelled k = true ↔
      s.isCancelled k = true ∨ input = .connectionClose ∨
        ∃ requestId, input = .stopRespondingTo requestId ∧ s.InFlight k requestId := by
  rw [(registryInv_step hinv input).isCancelled_eq, hinv.isCancelled_eq]
  have hchildren : k < s.connectionClose.children.length := by rwa [hinv.children]
  cases input with
  | register requestId =>
    show (s.register requestId).2.connectionClose.children.getD k false = true ↔ _
    have hkept : (s.register requestId).2.connectionClose.children.getD k false =
        s.connectionClose.children.getD k false := by
      cases hlookup : s.requestCancellationTokens.cancellationTokens.lookup requestId with
      | some token => rw [register_duplicate hlookup]
      | none =>
        rw [register_fresh hlookup, List.getD_eq_getElem?_getD, List.getElem?_append_left hchildren,
          List.getD_eq_getElem?_getD]
    rw [hkept]
    simp
  | guardDropped j =>
    have hkept : (s.dropGuard j).connectionClose = s.connectionClose := by
      unfold dropGuard
      split
      · rfl
      · split <;> rfl
    show (s.dropGuard j).connectionClose.children.getD k false = true ↔ _
    rw [hkept]
    simp
  | connectionClose =>
    have hclosed : (s.connectionClose.children.map fun _ => true).getD k false = true := by
      rw [List.getD_eq_getElem?_getD, List.getElem?_map, List.getElem?_eq_getElem hchildren]
      rfl
    exact ⟨fun _ => Or.inr (Or.inl rfl), fun _ => hclosed⟩
  | stopRespondingTo requestId =>
    show (s.requestCancellationTokens.cancel requestId s.connectionClose).children.getD k
      false = true ↔ _
    unfold RequestCancellationTokens.cancel
    cases hlookup : s.requestCancellationTokens.cancellationTokens.lookup requestId with
    | none =>
      have hnone : ¬ s.InFlight k requestId := by
        rw [← hinv.lookup_iff, hlookup]
        exact fun h => by cases h
      simp [hnone]
    | some token =>
      have hiff : s.InFlight k requestId ↔ token = k := by
        rw [← hinv.lookup_iff, hlookup, Option.some.injEq]
      show (s.connectionClose.children.set token true).getD k false = true ↔ _
      rw [List.getD_eq_getElem?_getD, List.getElem?_set]
      by_cases htoken : token = k
      · subst htoken
        simp [hchildren, hiff]
      · simp [htoken, hiff, List.getD_eq_getElem?_getD]

/-- A request stays in flight until its own guard is dropped. -/
theorem InFlight.step {k : Nat} {requestId : String} (h : s.InFlight k requestId)
    {input : InferenceConnectionInput} (hother : input ≠ .guardDropped k) :
    (s.step input).InFlight k requestId := by
  obtain ⟨guard, hk, hlive, rfl⟩ := h.guard
  have hk' : (s.step input).guards[k]? = some guard := by
    rw [step_guard hk, decide_eq_false hother, Bool.or_false]
  exact inFlight_of_guard hk' hlive

/-- After its own guard is dropped, the id of a request is free. -/
theorem InFlight.step_free {k : Nat} {requestId : String} (h : s.InFlight k requestId) :
    (s.step (.guardDropped k)).requestCancellationTokens.cancellationTokens.lookup requestId =
      none := by
  obtain ⟨guard, hk, hlive, rfl⟩ := h.guard
  show (s.dropGuard k).requestCancellationTokens.cancellationTokens.lookup guard.requestId = none
  rw [dropGuard_live hk hlive]
  exact lookup_eraseKey_self _ _

end InferenceConnection

/-! ## The law of the registry -/

/-- **The law of the registry**, in every state of every run: an id is registered exactly while a
request is in flight under it, and there is one such request; a duplicate is refused, changes
nothing, and the original can still be cancelled; a free id is registered; what a step cancels is
the request that a stop names, or all of them if the connection closes; a request stays registered
until its own guard is dropped, and then its id is free. -/
theorem cancellation_registry {s : InferenceConnection}
    (h : Reaches InferenceConnection.step (fun _ _ => True) .new s) :
    (∀ requestId token, s.requestCancellationTokens.cancellationTokens.lookup requestId =
      some token ↔
      ∃ guard ∈ s.guards, guard.dropped = false ∧ guard.requestId = requestId ∧
        guard.cancellationToken = token) ∧
      (∀ requestId j k, s.InFlight j requestId → s.InFlight k requestId → j = k) ∧
      (∀ requestId k, s.InFlight k requestId → s.register requestId = (.duplicateRequestId, s) ∧
        (s.step (.stopRespondingTo requestId)).isCancelled k = true) ∧
      (∀ requestId, (∀ k, ¬ s.InFlight k requestId) →
        (s.register requestId).1 ≠ .duplicateRequestId ∧
          (s.step (.register requestId)).InFlight s.guards.length requestId) ∧
      (∀ input k, k < s.guards.length → ((s.step input).isCancelled k = true ↔
        s.isCancelled k = true ∨ input = .connectionClose ∨
          ∃ requestId, input = .stopRespondingTo requestId ∧ s.InFlight k requestId)) ∧
      ∀ requestId k, s.InFlight k requestId →
        (∀ input, input ≠ .guardDropped k → (s.step input).InFlight k requestId) ∧
          (s.step (.guardDropped k)).requestCancellationTokens.cancellationTokens.lookup requestId =
            none := by
  have hinv := registryInv_of_reaches h
  refine ⟨fun requestId token => ⟨fun hlookup => ?_, ?_⟩, fun requestId j k hj hk =>
    hinv.owned.unique hj hk, fun requestId k hk => ⟨?_, ?_⟩, fun requestId hfree => ?_,
      fun input k hk => ?_,
    fun requestId k hk => ⟨fun input hother => hk.step hother, hk.step_free⟩⟩
  · obtain ⟨guard, hk, hlive, hid⟩ := ((hinv.lookup_iff requestId token).mp hlookup).guard
    exact ⟨guard, List.mem_of_getElem? hk, hlive, hid, hinv.tokens token guard hk⟩
  · rintro ⟨guard, hmem, hlive, rfl, rfl⟩
    obtain ⟨k, hk⟩ := List.mem_iff_getElem?.mp hmem
    rw [hinv.lookup_iff, hinv.tokens k guard hk]
    exact InferenceConnection.inFlight_of_guard hk hlive
  · exact InferenceConnection.register_duplicate ((hinv.lookup_iff requestId k).mpr hk)
  · obtain ⟨guard, hget, -⟩ := hk.guard
    have hlt := (List.getElem?_eq_some_iff.mp hget).1
    exact (InferenceConnection.step_isCancelled hinv hlt _).mpr
      (Or.inr (Or.inr ⟨requestId, rfl, hk⟩))
  · have hlookup : s.requestCancellationTokens.cancellationTokens.lookup requestId = none :=
      hinv.owned.free_iff.mpr hfree
    have hregister := InferenceConnection.register_fresh hlookup
    rw [show s.step (.register requestId) = (s.register requestId).2 from rfl, hregister]
    exact ⟨fun hduplicate => (by cases hduplicate), heldBy_push_self⟩
  · exact InferenceConnection.step_isCancelled hinv hk input

/-- An id that is used again: the stop is for the second request, and a third one is refused. -/
theorem cancellation_registry_reused :
    let s := [.register "a", .guardDropped 0, .register "a"].foldl InferenceConnection.step .new
    s.register "a" = (.duplicateRequestId, s) ∧
      (s.step (.stopRespondingTo "a")).isCancelled 1 = true ∧
      (s.step (.stopRespondingTo "a")).isCancelled 0 = false := by
  intro s
  have hreaches : Reaches InferenceConnection.step (fun _ _ => True) .new s :=
    .runs _ (fun _ _ _ => trivial) .start
  have hsecond : s.InFlight 1 "a" := rfl
  obtain ⟨hduplicate, hstopped⟩ := (cancellation_registry hreaches).2.2.1 "a" 1 hsecond
  exact ⟨hduplicate, hstopped, by decide⟩

end Paddler
