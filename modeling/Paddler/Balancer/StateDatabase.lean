import Paddler.Balancer.ReconciliationService

/-!
# The state databases

Model of `state_database/file` and `state_database/memory.rs` for calls that run at the same time.
Between two awaits a call takes one step:

* a call on the file reads the text at the path without the lock; where it finds nothing it stores
  the default first.  A store takes the lock, creates the file (which truncates it), writes, syncs
  and notifies, and only then lets go of the lock.  Each of these may fail and ends the call;
* a store in memory writes under the lock and notifies without it.

A text that parses is kept as the schema it parses to.  The beginning of the text of a schema, which
is what a reader may find while the file is written, is either empty or does not parse.

* `FileDatabase.step` — one step of a call on the file; `lockHeld_step` — the lock keeps stores
  apart.
* `MemoryDatabase.step` — one step of a call on the database in memory.
-/

set_option autoImplicit false

namespace Paddler

open Run VecUpdate

variable {π : Type}

/-! ## Schema and file -/

/-- `BalancerDesiredState::default`. -/
def BalancerDesiredState.ofDefault [Inhabited π] : BalancerDesiredState π :=
  ⟨none, default, .none, .none, false⟩

/-- `Schema` of `file/schema.rs`. -/
structure Schema (π : Type) where
  balancerDesiredState : BalancerDesiredState π
  version : String
  deriving DecidableEq, Repr

/-- `Schema::default`, which is derived: `default_version` is for files without a version only. -/
def Schema.ofDefault [Inhabited π] : Schema π :=
  ⟨.ofDefault, ""⟩

/-- What is at the path of the database. -/
inductive FileContent (π : Type) where
  | notFound
  | empty
  | unparsable
  | written (schema : Schema π)
  deriving DecidableEq, Repr

/-- The state that a read of the file gives, if nothing else happens meanwhile. -/
def FileContent.storedState [Inhabited π] : FileContent π → Option (BalancerDesiredState π)
  | .notFound | .empty => some .ofDefault
  | .unparsable => none
  | .written schema => some schema.balancerDesiredState

/-! ## Calls -/

/-- What a call on a database failed on. -/
inductive DatabaseErrorCause where
  | io
  | parse
  | noReceivers
  deriving DecidableEq, Repr

/-- An error with the context that was attached to it, outermost first. -/
structure DatabaseError where
  cause : DatabaseErrorCause
  context : List String
  deriving DecidableEq, Repr

/-- The methods of `StateDatabase`. -/
inductive DatabaseCall (π : Type) where
  | readBalancerDesiredState
  | storeBalancerDesiredState (balancerDesiredState : BalancerDesiredState π)
  deriving DecidableEq, Repr

/-- The context that a method attaches to a failed `read_schema_from_file`. -/
def DatabaseCall.readContext : DatabaseCall π → String
  | .readBalancerDesiredState => "Unable to read state from file"
  | .storeBalancerDesiredState _ => "Unable to read current state from file"

/-- What a method returns. -/
inductive DatabaseResult (π : Type) where
  | read (balancerDesiredState : BalancerDesiredState π)
  | stored
  | failed (error : DatabaseError)
  deriving DecidableEq, Repr

/-- Where `store_schema` is: before its lock, or at one of the awaits under it. -/
inductive StoreStage where
  | locking
  | creating
  | writing
  | syncing
  | sending
  deriving DecidableEq, Repr

/-- Where a call on the file is.  A store is `initialising` if it is the one of
`store_default_schema`. -/
inductive FilePhase (π : Type) where
  | reading
  | storing (stage : StoreStage) (schema : Schema π) (initialising : Bool)
  | returned (result : DatabaseResult π)
  deriving DecidableEq, Repr

/-- The phases under the lock. -/
def FilePhase.isLocked : FilePhase π → Bool
  | .storing .locking _ _ => false
  | .storing _ _ _ => true
  | _ => false

/-- The file is truncated, and not written yet. -/
def FilePhase.isWriting : FilePhase π → Bool
  | .storing .writing _ _ => true
  | _ => false

theorem FilePhase.isLocked_of_isWriting {phase : FilePhase π} (h : phase.isWriting = true) :
    phase.isLocked = true := by
  unfold isWriting at h
  split at h
  · rfl
  · cases h

/-- The call will store the default. -/
def FilePhase.isInitialising : FilePhase π → Bool
  | .storing _ _ initialising => initialising
  | _ => false

/-- The call is over. -/
def FilePhase.hasReturned : FilePhase π → Bool
  | .returned _ => true
  | _ => false

/-- A call on the file.  History: `startedAt` is how many stores had written the file when it was
made, and `notified` are the notifications that it sent. -/
structure FileCall (π : Type) where
  method : DatabaseCall π
  phase : FilePhase π
  startedAt : Nat
  notified : List (BalancerDesiredState π)
  deriving DecidableEq, Repr

/-- `File`, with what is at its path.  History: `notifications` are those of all calls, and
`commits` are the states written by the stores, each with the call, other than the default. -/
structure FileDatabase (π : Type) where
  path : String
  content : FileContent π
  writeLock : Option Nat
  receivers : Nat
  calls : List (FileCall π)
  notifications : List (BalancerDesiredState π)
  commits : List (Nat × BalancerDesiredState π)
  deriving DecidableEq, Repr

/-- What can happen next; `failed` is an I/O error. -/
inductive FileInput (π : Type) where
  | subscribe
  | unsubscribe
  | call (method : DatabaseCall π)
  | readToString (k : Nat) (failed : Bool)
  | lock (k : Nat)
  | create (k : Nat) (failed : Bool)
  | writeSome (k : Nat)
  | writeAll (k : Nat) (failed : Bool)
  | syncAll (k : Nat) (failed : Bool)
  | send (k : Nat)
  deriving DecidableEq, Repr

namespace FileDatabase

def new (path : String) (content : FileContent π) : FileDatabase π :=
  ⟨path, content, none, 0, [], [], []⟩

/-- The context of a text that does not parse. -/
def parseContext (self : FileDatabase π) : String :=
  "Unable to parse database file contents: '" ++ self.path ++
    "'. Either that is not a valid database file, or this version of Paddler is incompatible with it."

/-- The call goes on with another phase. -/
def setPhase (self : FileDatabase π) (k : Nat) (c : FileCall π) (phase : FilePhase π) :
    FileDatabase π :=
  { self with calls := self.calls.set k { c with phase := phase } }

/-- The lock is dropped. -/
def unlock (self : FileDatabase π) : FileDatabase π :=
  { self with writeLock := none }

/-! ## The steps of a call -/

/-- A new call, at its `read_to_string`. -/
def call (self : FileDatabase π) (method : DatabaseCall π) : FileDatabase π :=
  { self with calls := self.calls ++ [⟨method, .reading, self.commits.length, []⟩] }

/-- What the method does with the schema that `read_schema_from_file` gave it: a read is over, and
`update_schema` sets the state and stores the schema. -/
def continueWith (self : FileDatabase π) (k : Nat) (c : FileCall π) (schema : Schema π) :
    FileDatabase π :=
  match c.method with
  | .readBalancerDesiredState => self.setPhase k c (.returned (.read schema.balancerDesiredState))
  | .storeBalancerDesiredState balancerDesiredState =>
    self.setPhase k c
      (.storing .locking { schema with balancerDesiredState := balancerDesiredState } false)

theorem continueWith_cases (s : FileDatabase π) (k : Nat) (c : FileCall π) (schema : Schema π) :
    s.continueWith k c schema = s.setPhase k c (.returned (.read schema.balancerDesiredState)) ∨
      ∃ x, c.method = .storeBalancerDesiredState x ∧ s.continueWith k c schema =
        s.setPhase k c (.storing .locking { schema with balancerDesiredState := x } false) := by
  unfold continueWith
  split
  · exact Or.inl rfl
  · rename_i x hstore
    exact Or.inr ⟨x, hstore, rfl⟩

/-- `read_schema_from_file`, up to `store_default_schema`. -/
def readToString [Inhabited π] (self : FileDatabase π) (k : Nat) (c : FileCall π) (failed : Bool) :
    FileDatabase π :=
  match c.phase with
  | .reading =>
    if failed then self.setPhase k c (.returned (.failed ⟨.io, [c.method.readContext]⟩))
    else
      match self.content with
      | .notFound | .empty => self.setPhase k c (.storing .locking .ofDefault true)
      | .unparsable =>
        self.setPhase k c
          (.returned (.failed ⟨.parse, [c.method.readContext, self.parseContext]⟩))
      | .written schema => self.continueWith k c schema
  | _ => self

/-- `write_lock.write`. -/
def lock (self : FileDatabase π) (k : Nat) (c : FileCall π) : FileDatabase π :=
  match c.phase, self.writeLock with
  | .storing .locking schema initialising, none =>
    { self with writeLock := some k }.setPhase k c (.storing .creating schema initialising)
  | _, _ => self

/-- `store_schema` fails and drops the lock; `store_default_schema` and the method attach their
context. -/
def failStore (self : FileDatabase π) (k : Nat) (c : FileCall π) (cause : DatabaseErrorCause)
    (initialising : Bool) : FileDatabase π :=
  self.unlock.setPhase k c (.returned (.failed ⟨cause,
    if initialising then [c.method.readContext, "Failed to store default state"] else []⟩))

/-- `File::create`, which truncates. -/
def create (self : FileDatabase π) (k : Nat) (c : FileCall π) (failed : Bool) : FileDatabase π :=
  match c.phase with
  | .storing .creating schema initialising =>
    if failed then self.failStore k c .io initialising
    else { self with content := .empty }.setPhase k c (.storing .writing schema initialising)
  | _ => self

/-- The beginning of the text is in the file. -/
def writeSome (self : FileDatabase π) (c : FileCall π) : FileDatabase π :=
  match c.phase with
  | .storing .writing _ _ => { self with content := .unparsable }
  | _ => self

/-- The end of `write_all`; what a failed one wrote stays in the file. -/
def writeAll (self : FileDatabase π) (k : Nat) (c : FileCall π) (failed : Bool) : FileDatabase π :=
  match c.phase with
  | .storing .writing schema initialising =>
    if failed then self.failStore k c .io initialising
    else
      { self with
        content := .written schema
        commits := if initialising then self.commits
          else self.commits ++ [(k, schema.balancerDesiredState)] }.setPhase k c
        (.storing .syncing schema initialising)
  | _ => self

def syncAll (self : FileDatabase π) (k : Nat) (c : FileCall π) (failed : Bool) : FileDatabase π :=
  match c.phase with
  | .storing .syncing schema initialising =>
    if failed then self.failStore k c .io initialising
    else self.setPhase k c (.storing .sending schema initialising)
  | _ => self

/-- `balancer_desired_state_notify_tx.send`, which fails if nobody is listening, and the end of
`store_schema`. -/
def send (self : FileDatabase π) (k : Nat) (c : FileCall π) : FileDatabase π :=
  match c.phase with
  | .storing .sending schema initialising =>
    if self.receivers = 0 then self.failStore k c .noReceivers initialising
    else
      let c' := { c with notified := c.notified ++ [schema.balancerDesiredState] }
      let sent :=
        { self with notifications := self.notifications ++ [schema.balancerDesiredState] }.unlock
      if initialising then sent.continueWith k c' schema else sent.setPhase k c' (.returned .stored)
  | _ => self

/-- With somebody listening, a call that is at its `send` notifies and lets go of the lock. -/
theorem send_cases (s : FileDatabase π) (k : Nat) (c : FileCall π) (hreceivers : s.receivers ≠ 0) :
    s.send k c = s ∨ ∃ schema initialising d, c.phase = .storing .sending schema initialising ∧
      d.phase.isLocked = false ∧ s.send k c =
        { s with
          writeLock := none
          calls := s.calls.set k d
          notifications := s.notifications ++ [schema.balancerDesiredState] } := by
  unfold send
  split
  · rename_i schema initialising hphase
    refine Or.inr ⟨schema, initialising, ?_⟩
    rw [if_neg hreceivers]
    split
    · rcases continueWith_cases
          { s with notifications := s.notifications ++ [schema.balancerDesiredState] }.unlock k
          { c with notified := c.notified ++ [schema.balancerDesiredState] } schema with
        heq | ⟨x, -, heq⟩
      · exact ⟨_, hphase, rfl, heq⟩
      · exact ⟨_, hphase, rfl, heq⟩
    · exact ⟨_, hphase, rfl, rfl⟩
  · exact Or.inl rfl

/-- One step. -/
def step [Inhabited π] (self : FileDatabase π) (input : FileInput π) : FileDatabase π :=
  let at' (k : Nat) (f : FileCall π → FileDatabase π) : FileDatabase π :=
    match self.calls[k]? with
    | some c => f c
    | none => self
  match input with
  | .subscribe => { self with receivers := self.receivers + 1 }
  | .unsubscribe => { self with receivers := self.receivers - 1 }
  | .call method => self.call method
  | .readToString k failed => at' k fun c => self.readToString k c failed
  | .lock k => at' k fun c => self.lock k c
  | .create k failed => at' k fun c => self.create k c failed
  | .writeSome k => at' k fun c => self.writeSome c
  | .writeAll k failed => at' k fun c => self.writeAll k c failed
  | .syncAll k failed => at' k fun c => self.syncAll k c failed
  | .send k => at' k fun c => self.send k c

/-! ## The lock -/

/-- Calls under the lock hold it, so there is at most one. -/
def LockHeld (self : FileDatabase π) : Prop :=
  ∀ (k : Nat) (c : FileCall π), self.calls[k]? = some c → c.phase.isLocked = true →
    self.writeLock = some k

namespace LockHeld

variable {s t : FileDatabase π} {k : Nat} {c d : FileCall π}

theorem only (h : s.LockHeld) (hk : s.calls[k]? = some c) (hlock : c.phase.isLocked = true)
    {j : Nat} (hj : j ≠ k) : s.writeLock ≠ some j := by
  intro hother
  rw [h k c hk hlock, Option.some.injEq] at hother
  exact hj hother.symm

theorem idle (h : s.LockHeld) (hfree : s.writeLock = none) (j : Nat) (e : FileCall π)
    (he : s.calls[j]? = some e) : e.phase.isLocked = false := by
  by_contra hlocked
  rw [Bool.not_eq_false] at hlocked
  rw [h j e he hlocked] at hfree
  cases hfree

/-- One call goes on, and the others keep the lock if they have it. -/
theorem update (h : s.LockHeld) (hcalls : t.calls = s.calls.set k d)
    (hothers : ∀ j, j ≠ k → s.writeLock = some j → t.writeLock = some j)
    (hlocked : d.phase.isLocked = true → t.writeLock = some k) : t.LockHeld := by
  intro j e he hlock
  rw [hcalls] at he
  rcases getElem?_set_cases he with ⟨rfl, rfl⟩ | ⟨hj, hold⟩
  · exact hlocked hlock
  · exact hothers j hj (h j e hold hlock)

theorem setPhase (h : s.LockHeld) {phase : FilePhase π} (hfree : phase.isLocked = false) :
    (s.setPhase k c phase).LockHeld := by
  refine h.update (d := { c with phase := phase }) rfl (fun _ _ hother => hother) fun hlock => ?_
  rw [hfree] at hlock
  cases hlock

theorem unlock (h : s.LockHeld) (hk : s.calls[k]? = some c) (hlock : c.phase.isLocked = true)
    (hcalls : t.calls = s.calls.set k d) (hfree : d.phase.isLocked = false) : t.LockHeld := by
  refine h.update hcalls (fun _ hj hother => absurd hother (h.only hk hlock hj)) fun hlocked => ?_
  rw [hfree] at hlocked
  cases hlocked

theorem failStore (h : s.LockHeld) (hk : s.calls[k]? = some c) (hlock : c.phase.isLocked = true)
    (cause : DatabaseErrorCause) (initialising : Bool) :
    (s.failStore k c cause initialising).LockHeld :=
  h.unlock hk hlock rfl rfl

theorem keep (h : s.LockHeld) (hk : s.calls[k]? = some c) (hlock : c.phase.isLocked = true)
    (hcalls : t.calls = s.calls.set k d) (hsame : t.writeLock = s.writeLock) : t.LockHeld := by
  refine h.update hcalls (fun _ _ hother => hsame.trans hother) fun _ => hsame.trans ?_
  exact h k c hk hlock

theorem readToString [Inhabited π] (h : s.LockHeld) (failed : Bool) :
    (s.readToString k c failed).LockHeld := by
  unfold FileDatabase.readToString
  split
  swap
  · exact h
  split
  · exact h.setPhase rfl
  split
  · exact h.setPhase rfl
  · exact h.setPhase rfl
  · exact h.setPhase rfl
  · rename_i schema _
    rcases continueWith_cases s k c schema with heq | ⟨x, -, heq⟩
    · rw [heq]
      exact h.setPhase rfl
    · rw [heq]
      exact h.setPhase rfl

theorem lock (h : s.LockHeld) : (s.lock k c).LockHeld := by
  unfold FileDatabase.lock
  split
  · rename_i schema initialising hphase hfree
    refine h.update (d := { c with phase := .storing .creating schema initialising }) rfl
      (fun j _ hother => ?_) fun _ => rfl
    rw [hfree] at hother
    cases hother
  · exact h

theorem create (h : s.LockHeld) (hk : s.calls[k]? = some c) (failed : Bool) :
    (s.create k c failed).LockHeld := by
  unfold FileDatabase.create
  split
  swap
  · exact h
  rename_i hphase
  have hlock : c.phase.isLocked = true := by
    rw [hphase]
    rfl
  split
  · exact h.failStore hk hlock _ _
  · exact h.keep hk hlock rfl rfl

theorem writeAll (h : s.LockHeld) (hk : s.calls[k]? = some c) (failed : Bool) :
    (s.writeAll k c failed).LockHeld := by
  unfold FileDatabase.writeAll
  split
  swap
  · exact h
  rename_i hphase
  have hlock : c.phase.isLocked = true := by
    rw [hphase]
    rfl
  split
  · exact h.failStore hk hlock _ _
  · exact h.keep hk hlock rfl rfl

theorem syncAll (h : s.LockHeld) (hk : s.calls[k]? = some c) (failed : Bool) :
    (s.syncAll k c failed).LockHeld := by
  unfold FileDatabase.syncAll
  split
  swap
  · exact h
  rename_i hphase
  have hlock : c.phase.isLocked = true := by
    rw [hphase]
    rfl
  split
  · exact h.failStore hk hlock _ _
  · exact h.keep hk hlock rfl rfl

theorem send (h : s.LockHeld) (hk : s.calls[k]? = some c) : (s.send k c).LockHeld := by
  by_cases hreceivers : s.receivers = 0
  · unfold FileDatabase.send
    split
    · rename_i hphase
      rw [if_pos hreceivers]
      refine h.failStore hk ?_ _ _
      rw [hphase]
      rfl
    · exact h
  · rcases send_cases s k c hreceivers with heq | ⟨schema, initialising, d, hphase, hfree, heq⟩
    · rw [heq]
      exact h
    · rw [heq]
      refine h.unlock hk ?_ rfl hfree
      rw [hphase]
      rfl

end LockHeld

/-- A property of the state that every step of a call keeps. -/
theorem step_of_calls [Inhabited π] {P : FileDatabase π → Prop} {s : FileDatabase π} (hs : P s)
    {k : Nat} {f : FileCall π → FileDatabase π} (hf : ∀ c, s.calls[k]? = some c → P (f c)) :
    P (match s.calls[k]? with | some c => f c | none => s) := by
  split
  · rename_i c hk
    exact hf c hk
  · exact hs

/-- **Every step keeps the lock with its holder.** -/
theorem lockHeld_step [Inhabited π] {s : FileDatabase π} (h : s.LockHeld) (input : FileInput π) :
    (s.step input).LockHeld := by
  cases input with
  | subscribe => exact h
  | unsubscribe => exact h
  | call method =>
    intro j e he hlock
    rcases getElem?_push_cases he with hold | ⟨-, rfl⟩
    · exact h j e hold hlock
    · cases hlock
  | readToString k failed => exact step_of_calls h fun _ _ => h.readToString failed
  | lock k => exact step_of_calls h fun _ _ => h.lock
  | create k failed => exact step_of_calls h fun _ hk => h.create hk failed
  | writeSome k =>
    refine step_of_calls h fun c _ => ?_
    unfold FileDatabase.writeSome
    split
    · exact h
    · exact h
  | writeAll k failed => exact step_of_calls h fun _ hk => h.writeAll hk failed
  | syncAll k failed => exact step_of_calls h fun _ hk => h.syncAll hk failed
  | send k => exact step_of_calls h fun _ hk => h.send hk

theorem lockHeld_new (path : String) (content : FileContent π) : (new path content).LockHeld := by
  intro k c hk
  cases hk

end FileDatabase

/-! ## The database in memory -/

/-- Where a store in memory is. -/
inductive MemoryPhase (π : Type) where
  | writing (balancerDesiredState : BalancerDesiredState π)
  | sending (balancerDesiredState : BalancerDesiredState π)
  | returned (result : DatabaseResult π)
  deriving DecidableEq, Repr

/-- The call is over. -/
def MemoryPhase.hasReturned : MemoryPhase π → Bool
  | .returned _ => true
  | _ => false

/-- `Memory`.  `notifications` is history. -/
structure MemoryDatabase (π : Type) where
  balancerDesiredState : BalancerDesiredState π
  receivers : Nat
  stores : List (MemoryPhase π)
  notifications : List (BalancerDesiredState π)
  deriving DecidableEq, Repr

/-- What can happen next. -/
inductive MemoryInput (π : Type) where
  | subscribe
  | unsubscribe
  | storeBalancerDesiredState (balancerDesiredState : BalancerDesiredState π)
  | write (k : Nat)
  | send (k : Nat)
  deriving DecidableEq, Repr

namespace MemoryDatabase

def new (initialDesiredState : BalancerDesiredState π) : MemoryDatabase π :=
  ⟨initialDesiredState, 0, [], []⟩

/-- `read_balancer_desired_state`, one step under the lock. -/
def readBalancerDesiredState (self : MemoryDatabase π) : BalancerDesiredState π :=
  self.balancerDesiredState

/-- The block under the lock. -/
def write (self : MemoryDatabase π) (k : Nat) : MemoryDatabase π :=
  match self.stores[k]? with
  | some (.writing balancerDesiredState) =>
    { self with
      balancerDesiredState := balancerDesiredState
      stores := self.stores.set k (.sending balancerDesiredState) }
  | _ => self

/-- `balancer_desired_state_notify_tx.send`, after the lock. -/
def send (self : MemoryDatabase π) (k : Nat) : MemoryDatabase π :=
  match self.stores[k]? with
  | some (.sending balancerDesiredState) =>
    if self.receivers = 0 then
      { self with stores := self.stores.set k (.returned (.failed ⟨.noReceivers, []⟩)) }
    else
      { self with
        stores := self.stores.set k (.returned .stored)
        notifications := self.notifications ++ [balancerDesiredState] }
  | _ => self

/-- One step. -/
def step (self : MemoryDatabase π) (input : MemoryInput π) : MemoryDatabase π :=
  match input with
  | .subscribe => { self with receivers := self.receivers + 1 }
  | .unsubscribe => { self with receivers := self.receivers - 1 }
  | .storeBalancerDesiredState balancerDesiredState =>
    { self with stores := self.stores ++ [.writing balancerDesiredState] }
  | .write k => self.write k
  | .send k => self.send k

end MemoryDatabase

end Paddler
