import Paddler.Client.Connection
import Paddler.Library.VecUpdate

/-!
# The connection pool of the Rust client

Model of `inference_socket/pool.rs`: calls of `send_request` run side by side, each over the slot
that the round-robin counter gave it.  A call looks whether its slot has a connection, connects if
there is none, takes the connection out of the slot and sends; between two of these steps another
call may have put its own connection into the slot.  A refused call tries once more.

* `Pool.step` — one step of a call, or of a connection by itself.
* `CallInv` — what is known of one call; `poolInv_reaches`.
* `requests_sentOnce` — **a request is on one connection if its call succeeded, and on none
  otherwise.**
* `refusals_exact` — which errors a call can end with, and why.
* `slots_roundRobin` — calls that follow each other use different slots.
-/

set_option autoImplicit false

namespace Paddler

open Run VecUpdate

namespace InferenceSocketPool

/-! ## The pool -/

abbrev NonZeroUsize := { n : Nat // 0 < n }

/-- How many values an `usize` of 64 bits has. -/
def usizeCount : Nat := 18446744073709551616

inductive PoolError where
  | connectFailed
  | connectionSlotEmpty
  | reconnectionFailed
  deriving DecidableEq, Repr

/-- Where a call of `send_request` is; `reconnecting` after its first connection refused it. -/
inductive CallPhase where
  | checking (reconnecting : Bool)
  | connecting (reconnecting : Bool)
  | getting (reconnecting : Bool)
  | sending (reconnecting : Bool) (connection : Nat)
  | established (connection : Nat)
  | cancelled
  | failed (error : PoolError)
  deriving DecidableEq, Repr

/-- A call.  `refusedBy` is history: the connections on which its `send` failed. -/
structure PoolCall where
  slot : Nat
  phase : CallPhase
  refusedBy : List Nat
  deriving DecidableEq, Repr

/-- `Pool`, with the connections that were ever made and the calls that were ever started. -/
structure Pool where
  capacity : NonZeroUsize
  slots : List (Option Nat)
  nextIdx : Nat
  connections : List (Connection Nat)
  calls : List PoolCall

/-- What happens next. -/
inductive PoolInput where
  | call
  | check (call : Nat)
  | connected (call : Nat) (succeeded : Bool)
  | get (call : Nat)
  | send (call : Nat)
  | cancel (call : Nat)
  | connection (k : Nat) (input : ConnectionInput Nat)
  deriving DecidableEq

namespace Pool

def new (capacity : NonZeroUsize) : Pool where
  capacity := capacity
  slots := List.replicate capacity.val none
  nextIdx := 0
  connections := []
  calls := []

/-- The connection in a slot. -/
def held (s : Pool) (slot : Nat) : Option Nat := (s.slots[slot]?).join

/-- `ensure_connection` finds no connection, or one that is disconnected. -/
def needsConnect (s : Pool) (slot : Nat) : Bool :=
  match s.held slot with
  | none => true
  | some k =>
    match s.connections[k]? with
    | none => true
    | some c => c.isDisconnected

def setPhase (s : Pool) (j : Nat) (t : PoolCall) (phase : CallPhase) : Pool :=
  { s with calls := s.calls.set j { t with phase := phase } }

/-- A connection goes on by itself, or a stream of it is dropped. -/
def ownStep (s : Pool) (k : Nat) : ConnectionInput Nat → Bool
  | .insert _ | .queue _ | .removeFailed _ => false
  | .stopRespondingTo j => s.calls[j]?.map (·.phase) == some (.established k)
  | _ => true

variable (sharding : Sharding) (requestId : Nat → String)

/-- `Connection::send`, one access at a time, and what `establish_request` makes of its result. -/
def send (s : Pool) (j : Nat) (t : PoolCall) (reconnecting : Bool) (k : Nat) (c : Connection Nat) :
    Pool :=
  match (c.requests j).phase with
  | .notSent => { s with connections := s.connections.set k (c.step sharding requestId (.insert j)) }
  | .inserted =>
    { s with
      connections := s.connections.set k (c.step sharding requestId (.queue j))
      calls := s.calls.set j { t with phase := if c.writeOpen then .established k else t.phase } }
  | .removing =>
    { s with
      connections := s.connections.set k (c.step sharding requestId (.removeFailed j))
      calls := s.calls.set j { t with
        phase := if reconnecting then .failed .reconnectionFailed else .checking true
        refusedBy := t.refusedBy ++ [k] } }
  | .ok | .failed => s

/-- One step.  An input that is not enabled changes nothing. -/
def step (s : Pool) : PoolInput → Pool
  | .call =>
    { s with
      nextIdx := (s.nextIdx + 1) % usizeCount
      calls := s.calls ++ [⟨s.nextIdx % s.capacity.val, .checking false, []⟩] }
  | .check j =>
    match s.calls[j]? with
    | none => s
    | some t =>
      match t.phase with
      | .checking reconnecting =>
        s.setPhase j t (if s.needsConnect t.slot then .connecting reconnecting
          else .getting reconnecting)
      | _ => s
  | .connected j succeeded =>
    match s.calls[j]? with
    | none => s
    | some t =>
      match t.phase with
      | .connecting reconnecting =>
        if succeeded then
          { s.setPhase j t (.getting reconnecting) with
            connections := s.connections ++ [.connect]
            slots := s.slots.set t.slot (some s.connections.length) }
        else s.setPhase j t (.failed .connectFailed)
      | _ => s
  | .get j =>
    match s.calls[j]? with
    | none => s
    | some t =>
      match t.phase with
      | .getting reconnecting =>
        match s.held t.slot with
        | none => s.setPhase j t (.failed .connectionSlotEmpty)
        | some k => s.setPhase j t (.sending reconnecting k)
      | _ => s
  | .send j =>
    match s.calls[j]? with
    | none => s
    | some t =>
      match t.phase with
      | .sending reconnecting k =>
        match s.connections[k]? with
        | none => s
        | some c => s.send sharding requestId j t reconnecting k c
      | _ => s
  | .cancel j =>
    match s.calls[j]? with
    | none => s
    | some t =>
      match t.phase with
      -- `send` has no point at which it could be cancelled
      | .checking _ | .connecting _ | .getting _ => s.setPhase j t .cancelled
      | _ => s
  | .connection k input =>
    match s.connections[k]? with
    | none => s
    | some c =>
      if s.ownStep k input then { s with connections := s.connections.set k (c.step sharding requestId input) }
      else s

end Pool

/-! ## A connection by itself -/

section Send

variable {sharding : Sharding} {requestId : Nat → String}

/-- What the phase of a call of `send` says of the connection. -/
structure SendInv (requestId : Nat → String) (c : Connection Nat) : Prop where
  closed : ∀ j, (c.requests j).phase = .removing ∨ (c.requests j).phase = .failed →
    c.writeOpen = false
  frames : ∀ j, c.frames.count (.request (requestId j)) =
    if (c.requests j).phase = .ok then 1 else 0

/-- The calls of `send` are where they were. -/
structure SendsSame (c c' : Connection Nat) : Prop where
  phase : ∀ j, (c'.requests j).phase = (c.requests j).phase
  closed : c.writeOpen = false → c'.writeOpen = false
  frames : ∀ id, c'.frames.count (.request id) = c.frames.count (.request id)

theorem SendsSame.refl (c : Connection Nat) : SendsSame c c := ⟨fun _ => rfl, id, fun _ => rfl⟩

theorem SendsSame.setRequest {c c' : Connection Nat} (h : SendsSame c c') (j : Nat)
    {f : PendingRequest → PendingRequest} (hf : ∀ request, (f request).phase = request.phase) :
    SendsSame c (c'.setRequest j f) where
  phase := by
    intro i
    unfold Connection.setRequest
    by_cases hi : i = j
    · subst hi
      simp only [Function.update_self, hf]
      exact h.phase i
    · simp only [Function.update_of_ne hi]
      exact h.phase i
  closed := h.closed
  frames := h.frames

theorem SendsSame.write {c c' : Connection Nat} (h : SendsSame c c') (id : String) :
    SendsSame c (c'.write (.stopRespondingTo id)) where
  phase := h.phase
  closed := h.closed
  frames := by
    intro other
    unfold Connection.write
    cases c'.writeOpen with
    | false => exact h.frames other
    | true =>
      show (c'.frames ++ [ClientFrame.stopRespondingTo id]).count (.request other) = _
      rw [List.count_append, List.count_singleton, h.frames other]
      rfl

theorem sendsSame_step (c : Connection Nat) {input : ConnectionInput Nat}
    (hinput : ∀ j, input ≠ .insert j ∧ input ≠ .queue j ∧ input ≠ .removeFailed j) :
    SendsSame c (c.step sharding requestId input) := by
  cases input with
  | insert j => exact absurd rfl (hinput j).1
  | queue j => exact absurd rfl (hinput j).2.1
  | removeFailed j => exact absurd rfl (hinput j).2.2
  | stopRespondingTo j =>
    simp only [Connection.step]
    split
    · have hremoved : SendsSame c (c.removePending (requestId j)) :=
        ⟨fun _ => rfl, id, fun _ => rfl⟩
      exact (hremoved.write _).setRequest j fun _ => rfl
    · exact .refl c
  | incoming message =>
    simp only [Connection.step]
    split
    · unfold Connection.routeMessage
      split
      · exact .refl c
      · split
        · exact .refl c
        · rename_i call _
          have hdelivered : SendsSame c (c.deliver call (.message message)) :=
            (SendsSame.refl c).setRequest call fun _ => rfl
          exact ⟨hdelivered.phase, hdelivered.closed, hdelivered.frames⟩
    · exact .refl c
  | removeDone =>
    simp only [Connection.step]
    split
    · exact ⟨fun _ => rfl, id, fun _ => rfl⟩
    · exact .refl c
  | readEnds =>
    simp only [Connection.step]
    split
    · exact ⟨fun _ => rfl, id, fun _ => rfl⟩
    · exact .refl c
  | notifyShard =>
    simp only [Connection.step]
    split
    · refine ⟨fun j => ?_, id, fun _ => rfl⟩
      simp only [Connection.notify]
      split <;> rfl
    · exact .refl c
  | clearShard =>
    simp only [Connection.step]
    split
    · exact ⟨fun _ => rfl, id, fun _ => rfl⟩
    · exact .refl c
  | writeCloses => exact ⟨fun _ => rfl, fun _ => rfl, fun _ => rfl⟩

theorem phase_setRequest (c : Connection Nat) (j : Nat)
    (f : PendingRequest → PendingRequest) (i : Nat) :
    ((c.setRequest j f).requests i).phase = if i = j then (f (c.requests j)).phase
      else (c.requests i).phase := by
  unfold Connection.setRequest
  by_cases hi : i = j
  · subst hi
    simp only [Function.update_self, if_true]
  · simp only [Function.update_of_ne hi, if_neg hi]

theorem phase_insert {c : Connection Nat} {j : Nat}
    (hphase : (c.requests j).phase = .notSent) (i : Nat) :
    ((c.step sharding requestId (.insert j)).requests i).phase =
      if i = j then .inserted else (c.requests i).phase := by
  simp only [Connection.step, hphase]
  exact phase_setRequest c j _ i

theorem phase_queue {c : Connection Nat} {j : Nat}
    (hphase : (c.requests j).phase = .inserted) (i : Nat) :
    ((c.step sharding requestId (.queue j)).requests i).phase =
      if i = j then (if c.writeOpen then .ok else .removing) else (c.requests i).phase := by
  simp only [Connection.step, hphase]
  exact phase_setRequest (c.write (.request (requestId j))) j _ i

theorem phase_removeFailed {c : Connection Nat} {j : Nat}
    (hphase : (c.requests j).phase = .removing) (i : Nat) :
    ((c.step sharding requestId (.removeFailed j)).requests i).phase =
      if i = j then .failed else (c.requests i).phase := by
  simp only [Connection.step, hphase]
  exact phase_setRequest (c.removePending (requestId j)) j _ i

theorem SendInv.same {c c' : Connection Nat} (h : SendInv requestId c) (hsame : SendsSame c c') :
    SendInv requestId c' where
  closed := fun j hj => hsame.closed (h.closed j (by rwa [hsame.phase] at hj))
  frames := fun j => by rw [hsame.frames, hsame.phase, h.frames]

theorem SendInv.move {c c' : Connection Nat} (h : SendInv requestId c) {j : Nat} {phase : SendPhase}
    (hphase : ∀ i, (c'.requests i).phase = if i = j then phase else (c.requests i).phase)
    (hwas : (c.requests j).phase ≠ .ok) (hnow : phase ≠ .ok) (hopen : c'.writeOpen = c.writeOpen)
    (hclosed : phase = .removing ∨ phase = .failed → c.writeOpen = false)
    (hframes : c'.frames = c.frames) :
    SendInv requestId c' where
  closed := by
    intro i hi
    rw [hphase] at hi
    rw [hopen]
    split at hi
    · exact hclosed hi
    · exact h.closed i hi
  frames := by
    intro i
    rw [hframes, hphase, h.frames]
    by_cases hi : i = j
    · subst hi
      rw [if_pos rfl, if_neg hwas, if_neg hnow]
    · rw [if_neg hi]

/-- A call of `send` whose phase is another one does nothing. -/
theorem step_idle {c : Connection Nat} {j : Nat} {input : ConnectionInput Nat} {phase : SendPhase}
    (hinput : (input, phase) ∈ [(.insert j, .notSent), (.queue j, .inserted),
      (.removeFailed j, SendPhase.removing)])
    (hphase : (c.requests j).phase ≠ phase) : c.step sharding requestId input = c := by
  simp only [List.mem_cons, Prod.mk.injEq, List.not_mem_nil, or_false] at hinput
  rcases hinput with ⟨rfl, rfl⟩ | ⟨rfl, rfl⟩ | ⟨rfl, rfl⟩
  all_goals simp only [Connection.step]

theorem SendInv.step (hunique : Function.Injective requestId) {c : Connection Nat}
    (h : SendInv requestId c) (input : ConnectionInput Nat) :
    SendInv requestId (c.step sharding requestId input) := by
  cases input with
  | insert j =>
    by_cases hphase : (c.requests j).phase = .notSent
    · refine h.move (phase_insert hphase) (by rw [hphase]; exact SendPhase.noConfusion)
        SendPhase.noConfusion ?_
        (fun hfalse => by rcases hfalse with hfalse | hfalse <;> cases hfalse) ?_
      · simp only [Connection.step, hphase, Connection.setRequest]
      · simp only [Connection.step, hphase, Connection.setRequest]
    · rw [step_idle (by simp) hphase]
      exact h
  | queue j =>
    by_cases hphase : (c.requests j).phase = .inserted
    · have hwas : (c.requests j).phase ≠ .ok := by
        rw [hphase]
        exact SendPhase.noConfusion
      cases hopen : c.writeOpen with
      | false =>
        refine h.move (phase_queue hphase) hwas (by simp [hopen]) ?_ (fun _ => hopen) ?_
        · simp only [Connection.step, hphase, Connection.setRequest, Connection.write]
        · simp [Connection.step, hphase, Connection.setRequest, Connection.write, hopen]
      | true =>
        have hframes : (c.step sharding requestId (.queue j)).frames =
            c.frames ++ [.request (requestId j)] := by
          simp only [Connection.step, hphase, Connection.write, hopen,
            Connection.setRequest, if_true]
        refine ⟨fun i hi => ?_, fun i => ?_⟩
        · rw [phase_queue hphase, hopen] at hi
          split at hi
          · rcases hi with hi | hi <;> simp at hi
          · exact absurd (h.closed i hi) (by rw [hopen]; exact Bool.noConfusion)
        · rw [phase_queue hphase, hopen, hframes, List.count_append,
            List.count_singleton, h.frames i]
          by_cases hi : i = j
          · subst hi
            simp [hwas]
          · have hne : (ClientFrame.request (requestId j) == .request (requestId i)) = false := by
              rw [beq_eq_false_iff_ne]
              intro heq
              rw [ClientFrame.request.injEq] at heq
              exact hi (hunique heq).symm
            rw [hne, if_neg hi]
            simp
    · rw [step_idle (by simp) hphase]
      exact h
  | removeFailed j =>
    by_cases hphase : (c.requests j).phase = .removing
    · refine h.move (phase_removeFailed hphase) (by rw [hphase]; exact SendPhase.noConfusion)
        SendPhase.noConfusion ?_ (fun _ => h.closed j (.inl hphase)) ?_
      · simp only [Connection.step, hphase, Connection.setRequest, Connection.removePending]
      · simp only [Connection.step, hphase, Connection.setRequest, Connection.removePending]
    · rw [step_idle (by simp) hphase]
      exact h
  | _ => exact h.same (sendsSame_step c fun j => ⟨by simp, by simp, by simp⟩)

theorem sendInv_reaches (hunique : Function.Injective requestId) {c : Connection Nat}
    (h : Reaches (Connection.step sharding requestId) (fun _ _ => True) .connect c) :
    SendInv requestId c := by
  refine h.invariant (SendInv requestId) ⟨fun j hj => ?_, fun j => rfl⟩ fun _ i _ hs _ =>
    hs.step hunique i
  rcases hj with hj | hj <;> cases hj

end Send

/-! ## What is known of a call -/

/-- Where a call of `send` is on a connection; on one that was not made it is nowhere. -/
def sendPhase (connections : List (Connection Nat)) (k j : Nat) : SendPhase :=
  match connections[k]? with
  | none => .notSent
  | some c => (c.requests j).phase

/-- What the place of a call says of its slot, and of the connections that refused it.  A connection
is younger than those before it, and a slot only ever gets a younger one. -/
def PlaceInv (t : PoolCall) (held : Option Nat) : Prop :=
  match t.phase with
  | .checking false | .connecting false => t.refusedBy = []
  | .checking true | .connecting true => ∃ f k, t.refusedBy = [f] ∧ held = some k ∧ f ≤ k
  | .getting false => t.refusedBy = [] ∧ held.isSome = true
  | .getting true => ∃ f k, t.refusedBy = [f] ∧ held = some k ∧ f < k
  | .sending false k => t.refusedBy = [] ∧ ∃ k', held = some k' ∧ k ≤ k'
  | .sending true k => ∃ f, t.refusedBy = [f] ∧ f < k
  | .established k => k ∉ t.refusedBy
  | .cancelled | .failed .connectFailed => True
  | .failed .connectionSlotEmpty => False
  | .failed .reconnectionFailed => ∃ f k, t.refusedBy = [f, k] ∧ f < k

/-- **What is known of one call.** -/
structure CallInv (s : Pool) (j : Nat) (t : PoolCall) : Prop where
  slot : t.slot = j % usizeCount % s.capacity.val
  failed : ∀ k, sendPhase s.connections k j = .failed ↔ k ∈ t.refusedBy
  ok : ∀ k, sendPhase s.connections k j = .ok ↔ t.phase = .established k
  inside : ∀ k, sendPhase s.connections k j = .inserted ∨ sendPhase s.connections k j = .removing →
    ∃ reconnecting, t.phase = .sending reconnecting k
  place : PlaceInv t (s.held t.slot)

/-- **What holds between any two steps.** -/
structure PoolInv (sharding : Sharding) (requestId : Nat → String) (s : Pool) : Prop where
  slots : s.slots.length = s.capacity.val
  next : s.nextIdx = s.calls.length % usizeCount
  made : ∀ slot k, s.held slot = some k → k < s.connections.length
  runs : ∀ (k : Nat) (c : Connection Nat), s.connections[k]? = some c →
    Reaches (Connection.step sharding requestId) (fun _ _ => True) .connect c
  calls : ∀ (j : Nat) (t : PoolCall), s.calls[j]? = some t → CallInv s j t
  later : ∀ j, s.calls.length ≤ j → ∀ k, sendPhase s.connections k j = .notSent

/-- A slot has the same connection, or a younger one. -/
def Younger (held held' : Option Nat) : Prop := ∀ k, held = some k → ∃ k', held' = some k' ∧ k ≤ k'

theorem Younger.refl (held : Option Nat) : Younger held held := fun k hk => ⟨k, hk, Nat.le_refl k⟩

theorem PlaceInv.younger {t : PoolCall} {held held' : Option Nat} (h : PlaceInv t held)
    (hyounger : Younger held held') :
    PlaceInv t held' := by
  unfold PlaceInv at h ⊢
  split at h
  · exact h
  · exact h
  · obtain ⟨f, k, hrefused, hheld, hle⟩ := h
    obtain ⟨k', hheld', hle'⟩ := hyounger k hheld
    exact ⟨f, k', hrefused, hheld', Nat.le_trans hle hle'⟩
  · obtain ⟨f, k, hrefused, hheld, hle⟩ := h
    obtain ⟨k', hheld', hle'⟩ := hyounger k hheld
    exact ⟨f, k', hrefused, hheld', Nat.le_trans hle hle'⟩
  · obtain ⟨k, hheld⟩ := Option.isSome_iff_exists.mp h.2
    obtain ⟨k', hheld', -⟩ := hyounger k hheld
    exact ⟨h.1, by rw [hheld']; rfl⟩
  · obtain ⟨f, k, hrefused, hheld, hlt⟩ := h
    obtain ⟨k', hheld', hle'⟩ := hyounger k hheld
    exact ⟨f, k', hrefused, hheld', Nat.lt_of_lt_of_le hlt hle'⟩
  · obtain ⟨hrefused, k', hheld, hle⟩ := h
    obtain ⟨k'', hheld', hle'⟩ := hyounger k' hheld
    exact ⟨hrefused, k'', hheld', Nat.le_trans hle hle'⟩
  all_goals exact h

theorem sendPhase_of_getElem? {connections : List (Connection Nat)} {k : Nat} {c : Connection Nat}
    (hc : connections[k]? = some c) (j : Nat) :
    sendPhase connections k j = (c.requests j).phase := by
  unfold sendPhase
  rw [hc]

theorem sendPhase_push (connections : List (Connection Nat)) (k j : Nat) :
    sendPhase (connections ++ [.connect]) k j = sendPhase connections k j := by
  unfold sendPhase
  rcases Nat.lt_trichotomy k connections.length with hlt | rfl | hgt
  · rw [List.getElem?_append_left hlt]
  · rw [List.getElem?_concat_length, List.getElem?_eq_none (Nat.le_refl _)]
    rfl
  · rw [List.getElem?_eq_none (Nat.le_of_lt hgt), List.getElem?_eq_none]
    rw [List.length_append, List.length_singleton]
    exact hgt

theorem sendPhase_set {connections : List (Connection Nat)} {k : Nat} {c c' : Connection Nat}
    (hc : connections[k]? = some c) (k' j : Nat) :
    sendPhase (connections.set k c') k' j =
      if k' = k then (c'.requests j).phase else sendPhase connections k' j := by
  unfold sendPhase
  by_cases hk : k' = k
  · subst hk
    rw [List.getElem?_set_self (List.getElem?_eq_some_iff.mp hc).1, if_pos rfl]
  · rw [List.getElem?_set_ne (Ne.symm hk), if_neg hk]

/-- A connection takes a step that moves no call of `send`. -/
theorem sendPhase_set_same {connections : List (Connection Nat)} {k : Nat} {c c' : Connection Nat}
    (hc : connections[k]? = some c) {j : Nat} (hsame : (c'.requests j).phase = (c.requests j).phase)
    (k' : Nat) :
    sendPhase (connections.set k c') k' j = sendPhase connections k' j := by
  rw [sendPhase_set hc]
  split
  · rename_i hk
    rw [hk, hsame, sendPhase_of_getElem? hc]
  · rfl

namespace PoolInv

variable {sharding : Sharding} {requestId : Nat → String} {s : Pool}

theorem new (sharding : Sharding) (requestId : Nat → String) (capacity : NonZeroUsize) :
    PoolInv sharding requestId (Pool.new capacity) where
  slots := List.length_replicate
  next := rfl
  made := by
    intro slot k hk
    unfold Pool.held Pool.new at hk
    rw [List.getElem?_replicate] at hk
    split at hk <;> cases hk
  runs := fun k c hc => by cases hc
  calls := fun j t ht => by cases ht
  later := fun j _ k => rfl

theorem setPhase (h : PoolInv sharding requestId s) {j : Nat} {t : PoolCall}
    (ht : s.calls[j]? = some t) {phase : CallPhase}
    (hsent : ∀ k, t.phase ≠ .established k ∧ phase ≠ .established k)
    (hinside : ∀ k, sendPhase s.connections k j ≠ .inserted ∧ sendPhase s.connections k j ≠
      .removing) (hplace : PlaceInv { t with phase := phase } (s.held t.slot)) :
    PoolInv sharding requestId (s.setPhase j t phase) where
  slots := h.slots
  next := by
    show s.nextIdx = (s.calls.set j _).length % usizeCount
    rw [List.length_set]
    exact h.next
  made := h.made
  runs := h.runs
  calls := by
    intro i u hu
    rcases getElem?_set_cases hu with ⟨rfl, rfl⟩ | ⟨-, hold⟩
    · have hcall := h.calls _ t ht
      refine ⟨hcall.slot, hcall.failed, fun k => ?_, fun k hk => ?_, hplace⟩
      · have hnot : sendPhase s.connections k i ≠ .ok :=
          fun hok => (hsent k).1 ((hcall.ok k).mp hok)
        exact iff_of_false hnot (hsent k).2
      · exact hk.elim (fun hk => absurd hk (hinside k).1) (fun hk => absurd hk (hinside k).2)
    · have hcall := h.calls i u hold
      exact ⟨hcall.slot, hcall.failed, hcall.ok, hcall.inside, hcall.place⟩
  later := by
    intro i hi
    have hi : (s.calls.set j _).length ≤ i := hi
    rw [List.length_set] at hi
    exact h.later i hi

theorem outside (h : PoolInv sharding requestId s) {j : Nat} {t : PoolCall}
    (ht : s.calls[j]? = some t)
    (hphase : ∀ reconnecting k, t.phase ≠ .sending reconnecting k) (k : Nat) :
    sendPhase s.connections k j ≠ .inserted ∧ sendPhase s.connections k j ≠ .removing := by
  constructor
  · intro hinserted
    obtain ⟨reconnecting, hsending⟩ := (h.calls j t ht).inside k (.inl hinserted)
    exact hphase reconnecting k hsending
  · intro hremoving
    obtain ⟨reconnecting, hsending⟩ := (h.calls j t ht).inside k (.inr hremoving)
    exact hphase reconnecting k hsending

theorem call (h : PoolInv sharding requestId s) :
    PoolInv sharding requestId (s.step sharding requestId .call) where
  slots := h.slots
  next := by
    show (s.nextIdx + 1) % usizeCount = (s.calls ++ [_]).length % usizeCount
    rw [List.length_append, List.length_singleton, h.next, Nat.mod_add_mod]
  made := h.made
  runs := h.runs
  calls := by
    intro j t ht
    rcases getElem?_push_cases ht with hold | ⟨rfl, rfl⟩
    · have hcall := h.calls j t hold
      exact ⟨hcall.slot, hcall.failed, hcall.ok, hcall.inside, hcall.place⟩
    · have hnot := h.later s.calls.length (Nat.le_refl _)
      refine ⟨?_, fun k => ?_, fun k => ?_, fun k hk => ?_, rfl⟩
      · show s.nextIdx % _ = _
        rw [h.next]
        rfl
      · show sendPhase s.connections k _ = _ ↔ _
        rw [hnot k]
        simp
      · show sendPhase s.connections k _ = _ ↔ _
        rw [hnot k]
        simp
      · have hk : sendPhase s.connections k s.calls.length = .inserted ∨
            sendPhase s.connections k s.calls.length = .removing := hk
        rw [hnot k] at hk
        rcases hk with hk | hk <;> cases hk
  later := by
    intro j hj
    have hj : (s.calls ++ [_]).length ≤ j := hj
    rw [List.length_append, List.length_singleton] at hj
    exact h.later j (Nat.le_of_succ_le hj)

theorem refused (h : PoolInv sharding requestId s) (hunique : Function.Injective requestId)
    {j : Nat} {t : PoolCall} (ht : s.calls[j]? = some t) {k : Nat} (hk : k ∈ t.refusedBy) :
    ∃ c, s.connections[k]? = some c ∧ c.writeOpen = false := by
  have hfailed := ((h.calls j t ht).failed k).mpr hk
  cases hc : s.connections[k]? with
  | none =>
    unfold sendPhase at hfailed
    rw [hc] at hfailed
    cases hfailed
  | some c =>
    rw [sendPhase_of_getElem? hc] at hfailed
    exact ⟨c, rfl, (sendInv_reaches hunique (h.runs k c hc)).closed j (.inr hfailed)⟩

theorem needsConnect_false {slot : Nat} (hneeds : s.needsConnect slot = false) :
    ∃ k c, s.held slot = some k ∧ s.connections[k]? = some c ∧ c.isDisconnected = false := by
  unfold Pool.needsConnect at hneeds
  split at hneeds
  · cases hneeds
  · rename_i k hheld
    split at hneeds
    · cases hneeds
    · rename_i c hc
      exact ⟨k, c, hheld, hc, hneeds⟩

theorem check (h : PoolInv sharding requestId s)
    (hunique : Function.Injective requestId) (j : Nat) :
    PoolInv sharding requestId (s.step sharding requestId (.check j)) := by
  simp only [Pool.step]
  split
  · exact h
  · rename_i t ht
    split
    · rename_i reconnecting hphase
      have hplace := (h.calls j t ht).place
      unfold PlaceInv at hplace
      rw [hphase] at hplace
      have houtside := h.outside ht fun r k => by rw [hphase]; exact CallPhase.noConfusion
      have hnot : ∀ k, t.phase ≠ .established k := fun k => by
        rw [hphase]; exact CallPhase.noConfusion
      cases hneeds : s.needsConnect t.slot with
      | true =>
        refine h.setPhase ht (fun k => ⟨hnot k, CallPhase.noConfusion⟩) houtside ?_
        cases reconnecting with
        | false => exact hplace
        | true => exact hplace
      | false =>
        obtain ⟨k, c, hheld, hc, hconnected⟩ := needsConnect_false hneeds
        refine h.setPhase ht (fun k => ⟨hnot k, CallPhase.noConfusion⟩) houtside ?_
        cases reconnecting with
        | false => exact ⟨hplace, by rw [hheld]; rfl⟩
        | true =>
          obtain ⟨f, k', hrefused, hheld', hle⟩ := hplace
          rw [hheld] at hheld'
          cases hheld'
          refine ⟨f, k, hrefused, hheld, Nat.lt_of_le_of_ne hle fun heq => ?_⟩
          -- the one that refused it would be disconnected
          subst heq
          obtain ⟨c', hc', hclosed⟩ := h.refused hunique ht (hrefused ▸ List.mem_singleton_self f)
          cases hc.symm.trans hc'
          unfold Connection.isDisconnected at hconnected
          rw [hclosed] at hconnected
          cases hconnected
    · exact h

theorem cancel (h : PoolInv sharding requestId s) (j : Nat) :
    PoolInv sharding requestId (s.step sharding requestId (.cancel j)) := by
  simp only [Pool.step]
  split
  · exact h
  · rename_i t ht
    split
    all_goals first
      | exact h
      | rename_i hphase
        refine h.setPhase ht (fun k => ⟨by rw [hphase]; exact CallPhase.noConfusion,
          CallPhase.noConfusion⟩)
          (h.outside ht fun r k => by rw [hphase]; exact CallPhase.noConfusion) trivial

theorem get (h : PoolInv sharding requestId s) (j : Nat) :
    PoolInv sharding requestId (s.step sharding requestId (.get j)) := by
  simp only [Pool.step]
  split
  · exact h
  · rename_i t ht
    split
    · rename_i reconnecting hphase
      have hplace := (h.calls j t ht).place
      unfold PlaceInv at hplace
      rw [hphase] at hplace
      have houtside := h.outside ht fun r k => by rw [hphase]; exact CallPhase.noConfusion
      have hnot : ∀ k, t.phase ≠ .established k := fun k => by
        rw [hphase]; exact CallPhase.noConfusion
      split
      · rename_i hheld
        -- the slot has a connection
        cases reconnecting with
        | false =>
          have hsome := hplace.2
          rw [hheld] at hsome
          cases hsome
        | true =>
          obtain ⟨f, k, -, hsome, -⟩ := hplace
          rw [hheld] at hsome
          cases hsome
      · rename_i k hheld
        refine h.setPhase ht (fun k => ⟨hnot k, CallPhase.noConfusion⟩) houtside ?_
        cases reconnecting with
        | false => exact ⟨hplace.1, k, hheld, Nat.le_refl k⟩
        | true =>
          obtain ⟨f, k', hrefused, hsome, hlt⟩ := hplace
          rw [hheld] at hsome
          cases hsome
          exact ⟨f, hrefused, hlt⟩
    · exact h

theorem push (h : PoolInv sharding requestId s) {slot : Nat} (hslot : slot < s.slots.length) :
    PoolInv sharding requestId
      { s with connections := s.connections ++ [.connect], slots := s.slots.set slot (some s.connections.length) } ∧
    ∀ other, Younger (s.held other)
      ((s.slots.set slot (some s.connections.length))[other]?).join := by
  have hheld : ∀ other, ((s.slots.set slot (some s.connections.length))[other]?).join =
      if other = slot then some s.connections.length else s.held other := by
    intro other
    by_cases hother : other = slot
    · subst hother
      rw [List.getElem?_set_self hslot, if_pos rfl]
      rfl
    · rw [List.getElem?_set_ne (Ne.symm hother), if_neg hother]
      rfl
  have hyounger : ∀ other,
      Younger (s.held other) ((s.slots.set slot (some s.connections.length))[other]?).join := by
    intro other k hk
    rw [hheld]
    split
    · exact ⟨s.connections.length, rfl, Nat.le_of_lt (h.made other k hk)⟩
    · exact ⟨k, hk, Nat.le_refl k⟩
  refine ⟨?_, hyounger⟩
  refine
    { slots := by rw [List.length_set]; exact h.slots
      next := h.next
      made := ?_
      runs := ?_
      calls := ?_
      later := fun j hj k => (sendPhase_push s.connections k j).trans (h.later j hj k) }
  · intro other k hk
    have hk : ((s.slots.set slot (some s.connections.length))[other]?).join = some k := hk
    rw [hheld] at hk
    rw [List.length_append, List.length_singleton]
    split at hk
    · cases hk
      exact Nat.lt_succ_self _
    · exact Nat.lt_succ_of_lt (h.made other k hk)
  · intro k c hc
    rcases getElem?_push_cases hc with hold | ⟨-, rfl⟩
    · exact h.runs k c hold
    · exact .start
  · intro j t ht
    have hcall := h.calls j t ht
    refine ⟨hcall.slot, fun k => ?_, fun k => ?_, fun k hk => ?_,
      hcall.place.younger (hyounger t.slot)⟩
    · exact (sendPhase_push s.connections k j).symm ▸ hcall.failed k
    · exact (sendPhase_push s.connections k j).symm ▸ hcall.ok k
    · exact hcall.inside k ((sendPhase_push s.connections k j) ▸ hk)

theorem connected (h : PoolInv sharding requestId s)
    (hunique : Function.Injective requestId) (j : Nat) (succeeded : Bool) :
    PoolInv sharding requestId (s.step sharding requestId (.connected j succeeded)) := by
  simp only [Pool.step]
  split
  · exact h
  · rename_i t ht
    split
    · rename_i reconnecting hphase
      have hcall := h.calls j t ht
      have hplace := hcall.place
      unfold PlaceInv at hplace
      rw [hphase] at hplace
      have houtside := h.outside ht fun r k => by rw [hphase]; exact CallPhase.noConfusion
      have hnot : ∀ k, t.phase ≠ .established k := fun k => by
        rw [hphase]; exact CallPhase.noConfusion
      split
      · have hslot : t.slot < s.slots.length := by
          rw [h.slots, hcall.slot]
          exact Nat.mod_lt _ s.capacity.property
        obtain ⟨hpushed, hyounger⟩ := h.push hslot
        have hheld : ((s.slots.set t.slot (some s.connections.length))[t.slot]?).join =
            some s.connections.length := by
          rw [List.getElem?_set_self hslot]
          rfl
        refine hpushed.setPhase ht (fun k => ⟨hnot k, CallPhase.noConfusion⟩) (fun k => ?_) ?_
        · have hsame := sendPhase_push s.connections k j
          exact ⟨fun hk => (houtside k).1 (hsame.symm.trans hk),
            fun hk => (houtside k).2 (hsame.symm.trans hk)⟩
        · show PlaceInv _ ((s.slots.set t.slot (some s.connections.length))[t.slot]?).join
          rw [hheld]
          cases reconnecting with
          | false => exact ⟨hplace, rfl⟩
          | true =>
            obtain ⟨f, k, hrefused, -, -⟩ := hplace
            obtain ⟨c, hc, -⟩ := h.refused hunique ht (hrefused ▸ List.mem_singleton_self f)
            exact ⟨f, s.connections.length, hrefused, rfl, (List.getElem?_eq_some_iff.mp hc).1⟩
      · exact h.setPhase ht (fun k => ⟨hnot k, CallPhase.noConfusion⟩) houtside trivial
    · exact h

theorem ownStep_ne {k : Nat} {input : ConnectionInput Nat}
    (hown : s.ownStep k input = true) (j : Nat) :
    input ≠ .insert j ∧ input ≠ .queue j ∧ input ≠ .removeFailed j := by
  refine ⟨?_, ?_, ?_⟩
  all_goals
    rintro rfl
    cases hown

theorem connection (h : PoolInv sharding requestId s) (k : Nat) (input : ConnectionInput Nat) :
    PoolInv sharding requestId (s.step sharding requestId (.connection k input)) := by
  simp only [Pool.step]
  split
  · exact h
  · rename_i c hc
    split
    · rename_i hown
      have hsame : SendsSame c (c.step sharding requestId input) :=
        sendsSame_step c (ownStep_ne hown)
      have hphases := fun j => sendPhase_set_same hc (hsame.phase j)
      refine
        { slots := h.slots
          next := h.next
          made := ?_
          runs := ?_
          calls := ?_
          later := fun j hj k' => (hphases j k').trans (h.later j hj k') }
      · intro slot k' hk'
        rw [List.length_set]
        exact h.made slot k' hk'
      · intro k' c' hc'
        rcases getElem?_set_cases hc' with ⟨rfl, rfl⟩ | ⟨-, hold⟩
        · exact .next (h.runs _ c hc) trivial
        · exact h.runs k' c' hold
      · intro j t ht
        have hcall := h.calls j t ht
        refine ⟨hcall.slot, fun k' => ?_, fun k' => ?_, fun k' hk' => ?_, hcall.place⟩
        · exact (hphases j k').symm ▸ hcall.failed k'
        · exact (hphases j k').symm ▸ hcall.ok k'
        · exact hcall.inside k' ((hphases j k') ▸ hk')
    · exact h

theorem sendMoves (h : PoolInv sharding requestId s) {j k : Nat} {t t' : PoolCall}
    {c : Connection Nat} (ht : s.calls[j]? = some t) (hc : s.connections[k]? = some c)
    {input : ConnectionInput Nat} {phase : SendPhase}
    (hphase : ∀ i, ((c.step sharding requestId input).requests i).phase =
      if i = j then phase else (c.requests i).phase)
    (hslot : t'.slot = t.slot) (hplace : PlaceInv t' (s.held t.slot))
    (hfailed : ∀ k', (if k' = k then phase else sendPhase s.connections k' j) = .failed ↔
      k' ∈ t'.refusedBy)
    (hok : ∀ k', (if k' = k then phase else sendPhase s.connections k' j) = .ok ↔
      t'.phase = .established k')
    (hinside : ∀ k', (if k' = k then phase else sendPhase s.connections k' j) = .inserted ∨
      (if k' = k then phase else sendPhase s.connections k' j) = .removing →
      ∃ reconnecting, t'.phase = .sending reconnecting k') :
    PoolInv sharding requestId
      { s with
        connections := s.connections.set k (c.step sharding requestId input)
        calls := s.calls.set j t' } := by
  have hother : ∀ i, i ≠ j → ∀ k',
      sendPhase (s.connections.set k (c.step sharding requestId input)) k' i =
        sendPhase s.connections k' i := by
    intro i hi
    refine sendPhase_set_same hc ?_
    rw [hphase, if_neg hi]
  have hself : ∀ k', sendPhase (s.connections.set k (c.step sharding requestId input)) k' j =
      if k' = k then phase else sendPhase s.connections k' j := by
    intro k'
    rw [sendPhase_set hc, hphase, if_pos rfl]
  obtain ⟨hj, -⟩ := List.getElem?_eq_some_iff.mp ht
  refine
    { slots := h.slots
      next := ?_
      made := ?_
      runs := ?_
      calls := ?_
      later := ?_ }
  · show s.nextIdx = (s.calls.set j t').length % usizeCount
    rw [List.length_set]
    exact h.next
  · intro slot k' hk'
    show k' < (s.connections.set k _).length
    rw [List.length_set]
    exact h.made slot k' hk'
  · intro k' c' hc'
    rcases getElem?_set_cases hc' with ⟨rfl, rfl⟩ | ⟨-, hold⟩
    · exact .next (h.runs _ c hc) trivial
    · exact h.runs k' c' hold
  · intro i u hu
    rcases getElem?_set_cases hu with ⟨rfl, rfl⟩ | ⟨hi, hold⟩
    · have hcall := h.calls _ t ht
      refine ⟨hslot.trans hcall.slot, fun k' => ?_, fun k' => ?_, fun k' hk' => ?_, ?_⟩
      · exact (hself k').symm ▸ hfailed k'
      · exact (hself k').symm ▸ hok k'
      · exact hinside k' ((hself k') ▸ hk')
      · show PlaceInv u (s.held u.slot)
        rw [hslot]
        exact hplace
    · have hcall := h.calls i u hold
      refine ⟨hcall.slot, fun k' => ?_, fun k' => ?_, fun k' hk' => ?_, hcall.place⟩
      · exact (hother i hi k').symm ▸ hcall.failed k'
      · exact (hother i hi k').symm ▸ hcall.ok k'
      · exact hcall.inside k' ((hother i hi k') ▸ hk')
  · intro i hi k'
    have hi : (s.calls.set j t').length ≤ i := hi
    rw [List.length_set] at hi
    exact (hother i (fun heq => by omega) k').trans (h.later i hi k')

theorem send (h : PoolInv sharding requestId s) (j : Nat) :
    PoolInv sharding requestId (s.step sharding requestId (.send j)) := by
  simp only [Pool.step]
  split
  · exact h
  · rename_i t ht
    split
    · rename_i reconnecting k hphase
      split
      · exact h
      · rename_i c hc
        have hcall := h.calls j t ht
        have hplace := hcall.place
        have hhere := sendPhase_of_getElem? hc j
        -- elsewhere the call is not inside `send`, and nowhere it has succeeded
        have hnot : ∀ k', t.phase ≠ .established k' := fun k' => by
          rw [hphase]; exact CallPhase.noConfusion
        have hinside : ∀ k', k' ≠ k →
            ¬ (sendPhase s.connections k' j = .inserted ∨ sendPhase s.connections k' j =
              .removing) := by
          intro k' hk' hboth
          obtain ⟨r, hsending⟩ := hcall.inside k' hboth
          rw [hphase] at hsending
          cases hsending
          exact hk' rfl
        have hok : ∀ k', sendPhase s.connections k' j ≠ .ok := fun k' hk' =>
          hnot k' ((hcall.ok k').mp hk')
        unfold Pool.send
        split
        · rename_i hsent
          rw [← hhere] at hsent
          have hmoved := h.sendMoves ht hc (phase_insert (hhere.symm.trans hsent)) rfl
            hplace ?_ ?_ ?_
          · have hset : s.calls.set j t = s.calls := by
              obtain ⟨hlt, hget⟩ := List.getElem?_eq_some_iff.mp ht
              exact hget ▸ List.set_getElem_self hlt
            rw [hset] at hmoved
            exact hmoved
          · intro k'
            split
            · rename_i hk'
              subst hk'
              exact iff_of_false SendPhase.noConfusion fun hmem => by
                rw [(hcall.failed k').mpr hmem] at hsent
                cases hsent
            · exact hcall.failed k'
          · intro k'
            refine iff_of_false ?_ (hnot k')
            split
            · exact SendPhase.noConfusion
            · exact hok k'
          · intro k' hboth
            split at hboth
            · rename_i hk'
              exact ⟨reconnecting, by rw [hphase, hk']⟩
            · exact hcall.inside k' hboth
        · rename_i hsent
          rw [← hhere] at hsent
          have hnew : k ∉ t.refusedBy := fun hmem => by
            rw [(hcall.failed k).mpr hmem] at hsent
            cases hsent
          have hqueue := @phase_queue sharding requestId _ _ (hhere.symm.trans hsent)
          cases hopen : c.writeOpen with
          | true =>
            rw [hopen] at hqueue
            refine h.sendMoves ht hc hqueue rfl hnew (fun k' => ?_) (fun k' => ?_)
              (fun k' hboth => ?_)
            · split
              · rename_i hk'
                subst hk'
                exact iff_of_false SendPhase.noConfusion hnew
              · exact hcall.failed k'
            · split
              · rename_i hk'
                subst hk'
                exact iff_of_true rfl rfl
              · rename_i hk'
                refine iff_of_false (hok k') fun heq => ?_
                cases heq
                exact hk' rfl
            · split at hboth
              · rcases hboth with hboth | hboth <;> cases hboth
              · rename_i hk'
                exact absurd hboth (hinside k' hk')
          | false =>
            rw [hopen] at hqueue
            refine h.sendMoves ht hc hqueue rfl hplace (fun k' => ?_) (fun k' => ?_)
              (fun k' hboth => ?_)
            · split
              · rename_i hk'
                subst hk'
                exact iff_of_false SendPhase.noConfusion hnew
              · exact hcall.failed k'
            · refine iff_of_false ?_ (hnot k')
              split
              · exact SendPhase.noConfusion
              · exact hok k'
            · split at hboth
              · rename_i hk'
                exact ⟨reconnecting, by rw [hk']; exact hphase⟩
              · exact hcall.inside k' hboth
        · rename_i hsent
          rw [← hhere] at hsent
          refine h.sendMoves ht hc (phase_removeFailed (hhere.symm.trans hsent)) rfl ?_
            (fun k' => ?_) (fun k' => ?_)
            (fun k' hboth => ?_)
          · unfold PlaceInv at hplace
            rw [hphase] at hplace
            cases reconnecting with
            | false =>
              obtain ⟨hrefused, k', hheld, hle⟩ := hplace
              exact ⟨k, k', by rw [hrefused]; rfl, hheld, hle⟩
            | true =>
              obtain ⟨f, hrefused, hlt⟩ := hplace
              exact ⟨f, k, by rw [hrefused]; rfl, hlt⟩
          · rw [List.mem_append, List.mem_singleton]
            split
            · rename_i hk'
              exact iff_of_true rfl (.inr hk')
            · rename_i hk'
              rw [hcall.failed k']
              exact (or_iff_left hk').symm
          · refine iff_of_false ?_ ?_
            · split
              · exact SendPhase.noConfusion
              · exact hok k'
            · split <;> exact CallPhase.noConfusion
          · split at hboth
            · rcases hboth with hboth | hboth <;> cases hboth
            · rename_i hk'
              exact absurd hboth (hinside k' hk')
        · exact h
        · exact h
    · exact h

theorem step (h : PoolInv sharding requestId s) (hunique : Function.Injective requestId)
    (input : PoolInput) :
    PoolInv sharding requestId (s.step sharding requestId input) := by
  cases input with
  | call => exact h.call
  | check j => exact h.check hunique j
  | connected j succeeded => exact h.connected hunique j succeeded
  | get j => exact h.get j
  | send j => exact h.send j
  | cancel j => exact h.cancel j
  | connection k input => exact h.connection k input

end PoolInv

/-! ## Every run -/

section Runs

variable {sharding : Sharding} {requestId : Nat → String} {capacity : NonZeroUsize} {s : Pool}

theorem poolInv_reaches (hunique : Function.Injective requestId)
    (h : Reaches (Pool.step sharding requestId) (fun _ _ => True) (.new capacity) s) :
    PoolInv sharding requestId s :=
  h.invariant (PoolInv sharding requestId) (.new sharding requestId capacity)
    fun _ input _ hs _ => hs.step hunique input

/-- **A request goes out once.**  However the calls and the connections interleave, the request of a
call is once in the frames of the connection that the call was established on, and in no frame of
any other connection; a call that was cancelled, that failed, or that is still under way has left
none.  Each connection of the pool behaves as a connection by itself. -/
theorem requests_sentOnce (hunique : Function.Injective requestId)
    (h : Reaches (Pool.step sharding requestId) (fun _ _ => True) (.new capacity) s) {j : Nat}
    {t : PoolCall} (ht : s.calls[j]? = some t) {k : Nat} {c : Connection Nat}
    (hc : s.connections[k]? = some c) :
    c.frames.count (.request (requestId j)) = (if t.phase = .established k then 1 else 0) ∧
      Reaches (Connection.step sharding requestId) (fun _ _ => True) .connect c := by
  have hinv := poolInv_reaches hunique h
  have hruns := hinv.runs k c hc
  refine ⟨?_, hruns⟩
  rw [(sendInv_reaches hunique hruns).frames j]
  have hok := (hinv.calls j t ht).ok k
  rw [sendPhase_of_getElem? hc] at hok
  simp only [hok]

/-- **Why a call fails.**  No call finds its slot empty; one whose reconnection failed was refused
by two different connections, both of which are closed; and a call that sends has not sent over that
connection before, so that the second attempt is one. -/
theorem refusals_exact (hunique : Function.Injective requestId)
    (h : Reaches (Pool.step sharding requestId) (fun _ _ => True) (.new capacity) s) {j : Nat}
    {t : PoolCall} (ht : s.calls[j]? = some t) :
    t.phase ≠ .failed .connectionSlotEmpty ∧
      (t.phase = .failed .reconnectionFailed → ∃ f k, f < k ∧ t.refusedBy = [f, k]) ∧
      (∀ k ∈ t.refusedBy, ∃ c, s.connections[k]? = some c ∧ c.writeOpen = false) ∧
      (∀ reconnecting k, t.phase = .sending reconnecting k → k ∉ t.refusedBy ∧
        sendPhase s.connections k j ≠ .ok ∧ sendPhase s.connections k j ≠ .failed) := by
  have hinv := poolInv_reaches hunique h
  have hcall := hinv.calls j t ht
  have hplace := hcall.place
  unfold PlaceInv at hplace
  refine ⟨fun hphase => ?_, fun hphase => ?_, fun k hk => hinv.refused hunique ht hk,
    fun reconnecting k hphase => ?_⟩
  · rw [hphase] at hplace
    exact hplace
  · rw [hphase] at hplace
    obtain ⟨f, k, hrefused, hlt⟩ := hplace
    exact ⟨f, k, hlt, hrefused⟩
  · have hfresh : k ∉ t.refusedBy := by
      rw [hphase] at hplace
      cases reconnecting with
      | false =>
        rw [hplace.1]
        exact List.not_mem_nil
      | true =>
        obtain ⟨f, hrefused, hlt⟩ := hplace
        rw [hrefused, List.mem_singleton]
        exact Nat.ne_of_gt hlt
    refine ⟨hfresh, fun hok => ?_, fun hfailed => hfresh ((hcall.failed k).mp hfailed)⟩
    have hestablished := (hcall.ok k).mp hok
    rw [hphase] at hestablished
    cases hestablished

/-- As many calls in a row as there are slots use different ones, until the counter starts again. -/
theorem slots_roundRobin (hunique : Function.Injective requestId)
    (h : Reaches (Pool.step sharding requestId) (fun _ _ => True) (.new capacity) s) {i j : Nat}
    {t t' : PoolCall} (ht : s.calls[i]? = some t) (ht' : s.calls[j]? = some t') (hlt : i < j)
    (hnear : j < i + s.capacity.val) (hcounter : j < usizeCount) : t.slot ≠ t'.slot := by
  have hinv := poolInv_reaches hunique h
  rw [(hinv.calls i t ht).slot, (hinv.calls j t' ht').slot, Nat.mod_eq_of_lt hcounter,
    Nat.mod_eq_of_lt (Nat.lt_trans hlt hcounter)]
  intro heq
  have hdvd : s.capacity.val ∣ j - i :=
    Nat.dvd_of_mod_eq_zero (Nat.sub_mod_eq_zero_of_mod_eq heq.symm)
  have hle := Nat.le_of_dvd (Nat.sub_pos_of_lt hlt) hdvd
  omega

end Runs

/-- Two calls connect over the one slot; the first takes the connection of the second, which
closes. -/
def racingRun : List PoolInput :=
  [.call, .call, .check 0, .check 1, .connected 0 true, .connected 1 true, .get 0, .get 1,
    .send 1, .send 1, .connection 1 .writeCloses, .send 0, .send 0, .send 0, .check 0,
    .connected 0 true, .get 0, .send 0, .send 0]

def oneSlot : NonZeroUsize := ⟨1, Nat.one_pos⟩

def requestName (j : Nat) : String := String.ofList (List.replicate j 'r')

theorem requestName_injective : Function.Injective requestName := by
  intro i j heq
  have hlength := congrArg (fun name : String => name.toList.length) heq
  simpa [requestName] using hlength

/-- The pool after the race. -/
def racedPool : Pool := racingRun.foldl (Pool.step oneShard requestName) (.new oneSlot)

theorem racedPool_reached :
    Reaches (Pool.step oneShard requestName) (fun _ _ => True) (.new oneSlot) racedPool :=
  Reaches.runs racingRun (fun _ _ _ => trivial) .start

theorem racedPool_calls : racedPool.calls.map (·.phase) = [.established 2, .established 1] := by
  decide +kernel

theorem racedPool_connections : racedPool.connections[2]?.isSome = true := by
  decide +kernel

theorem requests_sentOnce_racing :
    ∃ t c, racedPool.calls[0]? = some t ∧ racedPool.connections[2]? = some c ∧
      c.frames.count (.request (requestName 0)) = (if t.phase = .established 2 then 1 else 0) := by
  obtain ⟨c, hc⟩ := Option.isSome_iff_exists.mp racedPool_connections
  have hphase := congrArg (·[0]?) racedPool_calls
  simp only [List.getElem?_map] at hphase
  obtain ⟨t, ht, -⟩ := Option.map_eq_some_iff.mp hphase
  exact ⟨t, c, ht, hc, (requests_sentOnce requestName_injective racedPool_reached ht hc).1⟩

theorem refusals_exact_racing :
    ∃ t, racedPool.calls[0]? = some t ∧ t.phase ≠ .failed .connectionSlotEmpty := by
  have hphase := congrArg (·[0]?) racedPool_calls
  simp only [List.getElem?_map] at hphase
  obtain ⟨t, ht, -⟩ := Option.map_eq_some_iff.mp hphase
  exact ⟨t, ht, (refusals_exact requestName_injective racedPool_reached ht).1⟩

end InferenceSocketPool

end Paddler
