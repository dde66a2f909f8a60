import Paddler.Balancer.StoredState

/-!
# What the state databases notify of

A subscriber that applies the notifications one after the other, and what is stored once every call
is over.  The file database sends under its lock, so the last notification is of the last write, as
long as the writes succeed and somebody is listening.  The database in memory sends after its lock,
so a store may notify of its state after another one has replaced it and has notified.

* `FileNotifiedInv` — the file is ahead of the notifications only under the lock.
* `MemoryNotifiedInv` — what is in memory was notified of last, or a store of it has still to
  notify.
* `notifications_follow_stores` — **the subscriber ends on what is stored**, in every run of either
  database in which no stale notification comes last.
-/

set_option autoImplicit false

namespace Paddler

open Run VecUpdate

variable {π : Type}

/-! ## The property -/

/-- The state of a subscriber that applies the notifications in order. -/
def subscriberState (initial : Option (BalancerDesiredState π))
    (notifications : List (BalancerDesiredState π)) : Option (BalancerDesiredState π) :=
  notifications.foldl (fun _ balancerDesiredState => some balancerDesiredState) initial

theorem subscriberState_push (initial : Option (BalancerDesiredState π))
    (notifications : List (BalancerDesiredState π)) (x : BalancerDesiredState π) :
    subscriberState initial (notifications ++ [x]) = some x := by
  unfold subscriberState
  rw [List.foldl_append]
  rfl

/-- The state that a store in memory has still to notify of. -/
def MemoryPhase.unsent : MemoryPhase π → Option (BalancerDesiredState π)
  | .sending balancerDesiredState => some balancerDesiredState
  | _ => none

/-- Once its file is created a store into it succeeds. -/
def FileNotifies (s : FileDatabase π) : FileInput π → Prop
  | .writeAll _ failed | .syncAll _ failed => failed = false
  | .send _ => 0 < s.receivers
  | _ => True

/-- Somebody is listening, and a store notifies of a state that is no longer in memory only while a
store of the one that is has still to notify. -/
def MemoryNotifies (s : MemoryDatabase π) : MemoryInput π → Prop
  | .send k => 0 < s.receivers ∧ ∀ phase ∈ s.stores[k]?, ∀ x ∈ phase.unsent,
    x = s.balancerDesiredState ∨ .sending s.balancerDesiredState ∈ s.stores
  | _ => True

/-! ## The file -/

/-- The file is truncated or written, and nobody was notified of it yet. -/
def FilePhase.isAhead : FilePhase π → Bool
  | .storing .writing _ _ | .storing .syncing _ _ | .storing .sending _ _ => true
  | _ => false

/-- The schema that is in the file but was not notified of. -/
def FilePhase.isWritten (schema : Schema π) : FilePhase π → Prop
  | .storing .syncing written _ | .storing .sending written _ => written = schema
  | _ => False

theorem FilePhase.isLocked_of_isWritten {schema : Schema π} {phase : FilePhase π}
    (h : phase.isWritten schema) : phase.isLocked = true := by
  unfold isWritten at h
  split at h
  · rfl
  · rfl
  · cases h

variable [Inhabited π]

/-- The subscriber has what is in the file, unless a call is ahead of it; and a written schema is
there. -/
structure FileNotifiedInv (initial : FileContent π) (s : FileDatabase π) : Prop where
  notified : (∀ (k : Nat) (c : FileCall π), s.calls[k]? = some c → c.phase.isAhead = false) →
    s.content.storedState = subscriberState initial.storedState s.notifications
  written : ∀ (k : Nat) (c : FileCall π) schema, s.calls[k]? = some c → c.phase.isWritten schema →
    s.content = .written schema

namespace FileNotifiedInv

variable {initial : FileContent π} {s t : FileDatabase π} {k : Nat} {c d : FileCall π}

theorem setPhase (h : FileNotifiedInv initial s) (hk : s.calls[k]? = some c)
    (hahead : c.phase.isAhead = false) (hcalls : t.calls = s.calls.set k d)
    (hcontent : t.content = s.content) (hnotifications : t.notifications = s.notifications)
    (hwritten : ∀ schema, ¬ d.phase.isWritten schema) : FileNotifiedInv initial t := by
  constructor
  · intro hidle
    rw [hcontent, hnotifications]
    refine h.notified fun j e he => ?_
    by_cases hj : k = j
    · subst hj
      rw [hk, Option.some.injEq] at he
      rw [← he]
      exact hahead
    · refine hidle j e ?_
      rw [hcalls, List.getElem?_set_ne hj]
      exact he
  · intro j e schema he hschema
    rw [hcalls] at he
    rw [hcontent]
    rcases getElem?_set_cases he with ⟨-, rfl⟩ | ⟨-, hold⟩
    · exact absurd hschema (hwritten schema)
    · exact h.written j e schema hold hschema

/-- The call under the lock changes the file and stays ahead. -/
theorem ahead (hlock : s.LockHeld) (hk : s.calls[k]? = some c) (hlocked : c.phase.isLocked = true)
    (hcalls : t.calls = s.calls.set k d) (hahead : d.phase.isAhead = true)
    (hwritten : ∀ schema, d.phase.isWritten schema → t.content = .written schema) :
    FileNotifiedInv initial t := by
  constructor
  · intro hidle
    have hd := hidle k d
      (by rw [hcalls, List.getElem?_set_self (List.getElem?_eq_some_iff.mp hk).1])
    rw [hahead] at hd
    cases hd
  · intro j e schema he hschema
    rw [hcalls] at he
    rcases getElem?_set_cases he with ⟨-, rfl⟩ | ⟨hj, hold⟩
    · exact hwritten schema hschema
    · exact absurd (hlock j e hold (FilePhase.isLocked_of_isWritten hschema))
        (hlock.only hk hlocked hj)

theorem call (h : FileNotifiedInv initial s) (method : DatabaseCall π) :
    FileNotifiedInv initial (s.call method) := by
  constructor
  · intro hidle
    refine h.notified fun j e he => hidle j e ?_
    exact (List.getElem?_append_left (List.getElem?_eq_some_iff.mp he).1).trans he
  · intro j e schema he hschema
    rcases getElem?_push_cases he with hold | ⟨-, rfl⟩
    · exact h.written j e schema hold hschema
    · cases hschema

theorem readToString (h : FileNotifiedInv initial s) (hk : s.calls[k]? = some c) (failed : Bool) :
    FileNotifiedInv initial (s.readToString k c failed) := by
  unfold FileDatabase.readToString
  split
  swap
  · exact h
  rename_i hphase
  have hahead : c.phase.isAhead = false := by
    rw [hphase]
    rfl
  split
  · exact h.setPhase hk hahead rfl rfl rfl fun _ hw => by cases hw
  split
  · exact h.setPhase hk hahead rfl rfl rfl fun _ hw => by cases hw
  · exact h.setPhase hk hahead rfl rfl rfl fun _ hw => by cases hw
  · exact h.setPhase hk hahead rfl rfl rfl fun _ hw => by cases hw
  · rename_i schema _
    rcases s.continueWith_cases k c schema with heq | ⟨x, -, heq⟩
    · rw [heq]
      exact h.setPhase hk hahead rfl rfl rfl fun _ hw => by cases hw
    · rw [heq]
      exact h.setPhase hk hahead rfl rfl rfl fun _ hw => by cases hw

theorem lock (h : FileNotifiedInv initial s) (hk : s.calls[k]? = some c) :
    FileNotifiedInv initial (s.lock k c) := by
  unfold FileDatabase.lock
  split
  · rename_i hphase _
    refine h.setPhase hk ?_ rfl rfl rfl fun _ hw => by cases hw
    rw [hphase]
    rfl
  · exact h

theorem create (h : FileNotifiedInv initial s) (hlock : s.LockHeld) (hk : s.calls[k]? = some c)
    (failed : Bool) : FileNotifiedInv initial (s.create k c failed) := by
  unfold FileDatabase.create
  split
  swap
  · exact h
  rename_i hphase
  split
  · refine h.setPhase hk ?_ rfl rfl rfl fun _ hw => by cases hw
    rw [hphase]
    rfl
  · refine ahead hlock hk ?_ rfl rfl fun _ hw => by cases hw
    rw [hphase]
    rfl

theorem writeSome (h : FileNotifiedInv initial s) (hlock : s.LockHeld) (hk : s.calls[k]? = some c) :
    FileNotifiedInv initial (s.writeSome c) := by
  unfold FileDatabase.writeSome
  split
  swap
  · exact h
  rename_i hphase
  have hlocked : c.phase.isLocked = true := by
    rw [hphase]
    rfl
  constructor
  · intro hidle
    have hc := hidle k c hk
    rw [hphase] at hc
    cases hc
  · intro j e schema he hschema
    by_cases hj : j = k
    · subst hj
      rw [show s.calls[j]? = some e from he, Option.some.injEq] at hk
      rw [hk, hphase] at hschema
      cases hschema
    · exact absurd (hlock j e he (FilePhase.isLocked_of_isWritten hschema))
        (hlock.only hk hlocked hj)

theorem writeAll (h : FileNotifiedInv initial s) (hlock : s.LockHeld) (hk : s.calls[k]? = some c) :
    FileNotifiedInv initial (s.writeAll k c false) := by
  unfold FileDatabase.writeAll
  split
  swap
  · exact h
  rename_i hphase
  rw [if_neg Bool.false_ne_true]
  refine ahead hlock hk ?_ rfl rfl fun _ hw => ?_
  · rw [hphase]
    rfl
  · exact congrArg FileContent.written hw

theorem syncAll (h : FileNotifiedInv initial s) (hlock : s.LockHeld) (hk : s.calls[k]? = some c) :
    FileNotifiedInv initial (s.syncAll k c false) := by
  unfold FileDatabase.syncAll
  split
  swap
  · exact h
  rename_i schema initialising hphase
  rw [if_neg Bool.false_ne_true]
  refine ahead hlock hk ?_ rfl rfl fun schema' hw => ?_
  · rw [hphase]
    rfl
  · refine h.written k c schema' hk ?_
    rw [hphase]
    exact hw

theorem send (h : FileNotifiedInv initial s) (hlock : s.LockHeld) (hk : s.calls[k]? = some c)
    (hreceivers : 0 < s.receivers) : FileNotifiedInv initial (s.send k c) := by
  rcases s.send_cases k c (Nat.ne_of_gt hreceivers) with
    heq | ⟨schema, initialising, d, hphase, hfree, heq⟩
  · rw [heq]
    exact h
  rw [heq]
  have hlocked : c.phase.isLocked = true := by
    rw [hphase]
    rfl
  have hcontent : s.content = .written schema := by
    refine h.written k c schema hk ?_
    rw [hphase]
    rfl
  constructor
  · intro _
    show s.content.storedState = subscriberState initial.storedState (s.notifications ++ _)
    rw [subscriberState_push, hcontent]
    rfl
  · intro j e schema' he hschema
    rcases getElem?_set_cases he with ⟨-, rfl⟩ | ⟨hj, hold⟩
    · rw [FilePhase.isLocked_of_isWritten hschema] at hfree
      cases hfree
    · exact absurd (hlock j e hold (FilePhase.isLocked_of_isWritten hschema))
        (hlock.only hk hlocked hj)

end FileNotifiedInv

theorem fileNotifiedInv_step {initial : FileContent π} {s : FileDatabase π}
    (h : FileNotifiedInv initial s) (hlock : s.LockHeld) (input : FileInput π)
    (hguard : FileNotifies s input) : FileNotifiedInv initial (s.step input) := by
  cases input with
  | subscribe => exact ⟨h.notified, h.written⟩
  | unsubscribe => exact ⟨h.notified, h.written⟩
  | call method => exact h.call method
  | readToString k failed => exact FileDatabase.step_of_calls h fun _ hk => h.readToString hk failed
  | lock k => exact FileDatabase.step_of_calls h fun _ hk => h.lock hk
  | create k failed => exact FileDatabase.step_of_calls h fun _ hk => h.create hlock hk failed
  | writeSome k => exact FileDatabase.step_of_calls h fun _ hk => h.writeSome hlock hk
  | writeAll k failed =>
    rw [show failed = false from hguard]
    exact FileDatabase.step_of_calls h fun _ hk => h.writeAll hlock hk
  | syncAll k failed =>
    rw [show failed = false from hguard]
    exact FileDatabase.step_of_calls h fun _ hk => h.syncAll hlock hk
  | send k => exact FileDatabase.step_of_calls h fun _ hk => h.send hlock hk hguard

theorem fileNotifiedInv_new (path : String) (initial : FileContent π) :
    FileNotifiedInv initial (FileDatabase.new path initial) := by
  constructor
  · exact fun _ => rfl
  · intro k c schema hk
    cases hk

theorem file_subscriberState {path : String} {initial : FileContent π} {s : FileDatabase π}
    (h : Reaches FileDatabase.step FileNotifies (FileDatabase.new path initial) s)
    (hover : ∀ c ∈ s.calls, c.phase.hasReturned = true) :
    s.content.storedState = subscriberState initial.storedState s.notifications := by
  obtain ⟨-, hinv⟩ : s.LockHeld ∧ FileNotifiedInv initial s :=
    h.invariant (fun s => s.LockHeld ∧ FileNotifiedInv initial s)
      ⟨FileDatabase.lockHeld_new path initial, fileNotifiedInv_new path initial⟩
      fun s input _ hinv hguard =>
        ⟨FileDatabase.lockHeld_step hinv.1 input, fileNotifiedInv_step hinv.2 hinv.1 input hguard⟩
  refine hinv.notified fun k c hk => ?_
  have hreturned := hover c (List.mem_of_getElem? hk)
  unfold FilePhase.hasReturned at hreturned
  split at hreturned
  · rename_i hphase
    rw [hphase]
    rfl
  · cases hreturned

/-! ## Memory -/

section

omit [Inhabited π]

/-- What is in memory was notified of last, or a store of it has still to notify. -/
def MemoryNotifiedInv (initial : BalancerDesiredState π) (s : MemoryDatabase π) : Prop :=
  .sending s.balancerDesiredState ∈ s.stores ∨
    subscriberState (some initial) s.notifications = some s.balancerDesiredState

variable {initial : BalancerDesiredState π} {s : MemoryDatabase π}

theorem memoryNotifiedInv_write (h : MemoryNotifiedInv initial s) (k : Nat) :
    MemoryNotifiedInv initial (s.write k) := by
  unfold MemoryDatabase.write
  split
  · rename_i x hk
    exact Or.inl (List.mem_set (List.getElem?_eq_some_iff.mp hk).1 _)
  · exact h

theorem memoryNotifiedInv_send (h : MemoryNotifiedInv initial s) {k : Nat}
    (hguard : MemoryNotifies s (.send k)) : MemoryNotifiedInv initial (s.send k) := by
  unfold MemoryDatabase.send
  split
  swap
  · exact h
  rename_i x hk
  rw [if_neg (Nat.ne_of_gt hguard.1)]
  by_cases hx : x = s.balancerDesiredState
  · refine Or.inr ((subscriberState_push _ _ x).trans ?_)
    rw [hx]
  · -- the notification is stale, so another store is still to come
    have hpending : .sending s.balancerDesiredState ∈ s.stores := by
      rcases hguard.2 (.sending x) hk x rfl with heq | hpending
      · exact absurd heq hx
      · exact hpending
    obtain ⟨j, hj⟩ := List.mem_iff_getElem?.mp hpending
    have hleft : ∃ phase, (s.stores.set k (.returned .stored))[j]? = some phase ∧
        phase = .sending s.balancerDesiredState := by
      refine exists_getElem?_set hk (fun heq => ?_) (fun _ heq => heq) ⟨_, hj, rfl⟩
      cases heq
      exact absurd rfl hx
    obtain ⟨phase, hphase, heq⟩ := hleft
    rw [heq] at hphase
    exact Or.inl (List.mem_of_getElem? hphase)

theorem memoryNotifiedInv_step (h : MemoryNotifiedInv initial s) (input : MemoryInput π)
    (hguard : MemoryNotifies s input) : MemoryNotifiedInv initial (s.step input) := by
  cases input with
  | subscribe => exact h
  | unsubscribe => exact h
  | storeBalancerDesiredState x =>
    rcases h with hpending | hnotified
    · exact Or.inl (List.mem_append_left _ hpending)
    · exact Or.inr hnotified
  | write k => exact memoryNotifiedInv_write h k
  | send k => exact memoryNotifiedInv_send h hguard

theorem memory_subscriberState
    (h : Reaches MemoryDatabase.step MemoryNotifies (MemoryDatabase.new initial) s)
    (hover : ∀ phase ∈ s.stores, phase.hasReturned = true) :
    some s.readBalancerDesiredState = subscriberState (some initial) s.notifications := by
  have hinv : MemoryNotifiedInv initial s :=
    h.invariant (MemoryNotifiedInv initial) (Or.inr rfl) fun s input _ hinv hguard =>
      memoryNotifiedInv_step hinv input hguard
  rcases hinv with hpending | hnotified
  · have hreturned := hover _ hpending
    cases hreturned
  · exact hnotified.symm

end

/-! ## Both databases -/

/-- **The subscriber ends on what is stored.** -/
theorem notifications_follow_stores :
    (∀ (path : String) (initial : FileContent π) (s : FileDatabase π),
      Reaches FileDatabase.step FileNotifies (FileDatabase.new path initial) s →
      (∀ c ∈ s.calls, c.phase.hasReturned = true) →
      s.content.storedState = subscriberState initial.storedState s.notifications) ∧
    ∀ (initial : BalancerDesiredState π) (s : MemoryDatabase π),
      Reaches MemoryDatabase.step MemoryNotifies (MemoryDatabase.new initial) s →
      (∀ phase ∈ s.stores, phase.hasReturned = true) →
      some s.readBalancerDesiredState = subscriberState (some initial) s.notifications :=
  ⟨fun _ _ _ h hover => file_subscriberState h hover,
    fun _ _ h hover => memory_subscriberState h hover⟩

instance (s : MemoryDatabase Unit) : DecidablePred (MemoryNotifies s) := fun input =>
  match input with
  | .send k => inferInstanceAs (Decidable (0 < s.receivers ∧ ∀ phase ∈ s.stores[k]?,
      ∀ x ∈ phase.unsent, x = s.balancerDesiredState ∨ .sending s.balancerDesiredState ∈ s.stores))
  | .subscribe | .unsubscribe | .storeBalancerDesiredState _ | .write _ => isTrue trivial

/-- Two stores in memory that notify in the order of their writes. -/
def storedInOrder : List (MemoryInput Unit) :=
  [.subscribe, .storeBalancerDesiredState (storedModel "first"),
    .storeBalancerDesiredState (storedModel "second"), .write 0, .write 1, .send 0, .send 1]

instance (s : FileDatabase Unit) : DecidablePred (FileNotifies s) := fun input =>
  match input with
  | .writeAll _ failed | .syncAll _ failed => inferInstanceAs (Decidable (failed = false))
  | .send _ => inferInstanceAs (Decidable (0 < s.receivers))
  | .subscribe | .unsubscribe | .call _ | .readToString _ _ | .lock _ | .create _ _
  | .writeSome _ =>
    isTrue trivial

theorem notifications_follow_stores_storedInOrder :
    let file := storeThenRead.foldl FileDatabase.step (.new "state.json" .notFound)
    let memory := storedInOrder.foldl MemoryDatabase.step (.new (storedModel "old"))
    file.notifications = [.ofDefault, storedModel "new"] ∧
      file.content.storedState = subscriberState (some .ofDefault) file.notifications ∧
      memory.notifications = [storedModel "first", storedModel "second"] ∧
      some memory.readBalancerDesiredState =
        subscriberState (some (storedModel "old")) memory.notifications := by
  obtain ⟨hfile, hmemory⟩ := notifications_follow_stores (π := Unit)
  refine ⟨by decide +kernel, hfile "state.json" .notFound _ ?_ ?_, by decide +kernel,
    hmemory (storedModel "old") _ ?_ ?_⟩
  · exact Reaches.along storeThenRead (by decide +kernel) .start
  · decide +kernel
  · exact Reaches.along storedInOrder (by decide +kernel) .start
  · decide +kernel

/-- Two stores in memory of which the first notifies last. -/
def notifiedOutOfOrder : List (MemoryInput Unit) :=
  [.subscribe, .storeBalancerDesiredState (storedModel "first"),
    .storeBalancerDesiredState (storedModel "second"), .write 0, .write 1, .send 1, .send 0]

/-- **The subscriber ends on a state that was replaced.** -/
theorem not_notifications_follow_stores : ¬
    ((∀ (path : String) (initial : FileContent Unit) (s : FileDatabase Unit),
      Reaches FileDatabase.step (fun _ _ => True) (FileDatabase.new path initial) s →
      (∀ c ∈ s.calls, c.phase.hasReturned = true) →
      s.content.storedState = subscriberState initial.storedState s.notifications) ∧
    ∀ (initial : BalancerDesiredState Unit) (s : MemoryDatabase Unit),
      Reaches MemoryDatabase.step (fun _ _ => True) (MemoryDatabase.new initial) s →
      (∀ phase ∈ s.stores, phase.hasReturned = true) →
      some s.readBalancerDesiredState = subscriberState (some initial) s.notifications) := by
  intro h
  have hmemory := h.2 (storedModel "old") _
    (Reaches.runs notifiedOutOfOrder (fun _ _ _ => trivial) .start) (by decide)
  revert hmemory
  decide

end Paddler
