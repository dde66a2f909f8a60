import Paddler.Balancer.StateDatabase

/-!
# What the file of the state database keeps

Calls on one file, in any interleaving.  Three things can go wrong: a call reads the file while a
store has truncated it and not yet written it, and takes it for one that was never stored; a call
that found nothing at the path stores its default over what was stored meanwhile; a call fails after
it truncated the file.

* `FileInv`, `fileInv_step` — nothing of it happens in an undisturbed step.
* `keepsStoredState` — **in every undisturbed run** reads change nothing and return what was stored
  at some time during the call, and a store that fails leaves the file as it was and notifies
  nobody.
-/

set_option autoImplicit false

namespace Paddler

open Run VecUpdate

variable {π : Type} [Inhabited π]

/-! ## The property -/

/-- The stored state after the first `n` stores. -/
def stateAfter (initial : FileContent π) (commits : List (Nat × BalancerDesiredState π)) :
    Nat → Option (BalancerDesiredState π)
  | 0 => initial.storedState
  | n + 1 => commits[n]?.map (·.2)

/-- The state was the stored one at some time between the start of the call and now. -/
def SeenSince (initial : FileContent π) (commits : List (Nat × BalancerDesiredState π))
    (startedAt : Nat) (seen : Option (BalancerDesiredState π)) : Prop :=
  ∃ n, startedAt ≤ n ∧ n ≤ commits.length ∧ stateAfter initial commits n = seen

/-- A database that keeps what was stored.  Whenever no store is going on the file has the state of
the last store, and reads store nothing; a store that returned without an error wrote its state, and
one that returned an error wrote nothing and notified nobody.  A read returns a state that was
stored at some time during the call, so the state of the last store if that was over before; it
fails on an I/O error, or on a file that never was a database. -/
structure KeepsStoredState (initial : FileContent π) (s : FileDatabase π) : Prop where
  stored : s.writeLock = none →
    s.content.storedState = stateAfter initial s.commits s.commits.length
  commits : ∀ k x, (k, x) ∈ s.commits →
    ∃ c, s.calls[k]? = some c ∧ c.method = .storeBalancerDesiredState x
  storeOk : ∀ (k : Nat) (c : FileCall π), s.calls[k]? = some c → c.phase = .returned .stored →
    ∃ x, c.method = .storeBalancerDesiredState x ∧ (k, x) ∈ s.commits
  storeErr : ∀ (k : Nat) (c : FileCall π) x error, s.calls[k]? = some c →
    c.method = .storeBalancerDesiredState x → c.phase = .returned (.failed error) →
    c.notified = [] ∧ ∀ y, (k, y) ∉ s.commits
  readOk : ∀ (k : Nat) (c : FileCall π) x, s.calls[k]? = some c → c.phase = .returned (.read x) →
    SeenSince initial s.commits c.startedAt (some x)
  readAfterStore : ∀ (k : Nat) (c : FileCall π) x j y n, s.calls[k]? = some c →
    c.phase = .returned (.read x) →
    s.commits[n]? = some (j, y) → n < c.startedAt → s.commits.length = n + 1 → x = y
  readErr : ∀ (k : Nat) (c : FileCall π) error, s.calls[k]? = some c →
    c.method = .readBalancerDesiredState →
    c.phase = .returned (.failed error) →
    error.cause = .io ∨ error.cause = .parse ∧ SeenSince initial s.commits c.startedAt none

/-- Nobody reads the file between its truncation and the end of the write; a default is stored only
where the file still has it or nothing; and no call fails once it has truncated the file. -/
def Undisturbed (s : FileDatabase π) : FileInput π → Prop
  | .readToString _ _ => ∀ c ∈ s.calls, c.phase.isWriting = false
  | .lock k => ∀ c ∈ s.calls[k]?, c.phase.isInitialising = true →
    s.content.storedState = some .ofDefault
  | .create k failed => failed = true → ∀ c ∈ s.calls[k]?, c.notified = []
  | .writeAll _ failed | .syncAll _ failed => failed = false
  | .send _ => 0 < s.receivers
  | _ => True

/-! ## States in the order of the stores -/

omit [Inhabited π] in
theorem mem_push {commits : List (Nat × BalancerDesiredState π)} {j k : Nat}
    {x y : BalancerDesiredState π} (hjk : j ≠ k) (h : (j, y) ∈ commits ++ [(k, x)]) :
    (j, y) ∈ commits := by
  rcases List.mem_append.mp h with hold | hnew
  · exact hold
  · rw [List.mem_singleton, Prod.mk.injEq] at hnew
    exact absurd hnew.1 hjk

section

variable {initial : FileContent π} {commits : List (Nat × BalancerDesiredState π)}

/-- A later store does not change what was stored before. -/
theorem stateAfter_push {n : Nat} (hn : n ≤ commits.length) (e : Nat × BalancerDesiredState π) :
    stateAfter initial (commits ++ [e]) n = stateAfter initial commits n := by
  cases n with
  | zero => rfl
  | succ n =>
    show (commits ++ [e])[n]?.map (·.2) = commits[n]?.map (·.2)
    rw [List.getElem?_append_left hn]

theorem stateAfter_last (k : Nat) (x : BalancerDesiredState π) :
    stateAfter initial (commits ++ [(k, x)]) (commits ++ [(k, x)]).length = some x := by
  rw [List.length_append]
  show (commits ++ [(k, x)])[commits.length]?.map (·.2) = some x
  rw [List.getElem?_concat_length]
  rfl

theorem SeenSince.push {startedAt : Nat} {seen : Option (BalancerDesiredState π)}
    (h : SeenSince initial commits startedAt seen) (e : Nat × BalancerDesiredState π) :
    SeenSince initial (commits ++ [e]) startedAt seen := by
  obtain ⟨n, hstart, hn, hseen⟩ := h
  refine ⟨n, hstart, ?_, (stateAfter_push hn e).trans hseen⟩
  rw [List.length_append]
  omega

/-- What is stored now is seen by every call that has started. -/
theorem SeenSince.now {startedAt : Nat} {seen : Option (BalancerDesiredState π)}
    (hstart : startedAt ≤ commits.length)
    (hseen : stateAfter initial commits commits.length = seen) :
    SeenSince initial commits startedAt seen :=
  ⟨commits.length, hstart, Nat.le_refl _, hseen⟩

end

/-! ## The invariant -/

/-- What a call has seen and done, by its phase. -/
def CallInv (initial : FileContent π) (commits : List (Nat × BalancerDesiredState π)) (k : Nat)
    (c : FileCall π) : Prop :=
  match c.phase with
  | .reading => c.startedAt ≤ commits.length ∧ c.notified = [] ∧ ∀ y, (k, y) ∉ commits
  | .storing _ schema true => schema = .ofDefault ∧ c.notified = [] ∧ (∀ y, (k, y) ∉ commits) ∧
      SeenSince initial commits c.startedAt (some .ofDefault) ∧
      (c.phase.isLocked = true → stateAfter initial commits commits.length = some .ofDefault)
  | .storing stage schema false =>
    c.method = .storeBalancerDesiredState schema.balancerDesiredState ∧
      match stage with
      | .syncing | .sending => (k, schema.balancerDesiredState) ∈ commits
      | _ => ∀ y, (k, y) ∉ commits
  | .returned (.read x) => SeenSince initial commits c.startedAt (some x)
  | .returned .stored => ∃ x, c.method = .storeBalancerDesiredState x ∧ (k, x) ∈ commits
  | .returned (.failed error) => c.notified = [] ∧ (∀ y, (k, y) ∉ commits) ∧
      (error.cause = .io ∨ error.cause = .parse ∧ SeenSince initial commits c.startedAt none)

/-- Unless the file is being written it has the state of the last store; the commits are those of
stores; and every call did what its phase says. -/
structure FileInv (initial : FileContent π) (s : FileDatabase π) : Prop where
  content : (∀ (k : Nat) (c : FileCall π), s.calls[k]? = some c → c.phase.isWriting = false) →
    s.content.storedState = stateAfter initial s.commits s.commits.length
  commits : ∀ k x, (k, x) ∈ s.commits →
    ∃ c, s.calls[k]? = some c ∧ c.method = .storeBalancerDesiredState x
  calls : ∀ (k : Nat) (c : FileCall π), s.calls[k]? = some c → CallInv initial s.commits k c

/-- What a call has seen and done in the phase that it is in. -/
theorem FileInv.callInv {initial : FileContent π} {s : FileDatabase π} {k : Nat} {c : FileCall π}
    (h : FileInv initial s) (hk : s.calls[k]? = some c) {phase : FilePhase π}
    (hphase : c.phase = phase) :
    CallInv initial s.commits k { c with phase := phase } := by
  rw [← hphase]
  exact h.calls k c hk

theorem fileInv_new (path : String) (initial : FileContent π) :
    FileInv initial (FileDatabase.new path initial) := by
  constructor
  · exact fun _ => rfl
  · intro k x h
    cases h
  · intro k c h
    cases h

/-- A store by another call, while this one has not the lock. -/
theorem CallInv.push {initial : FileContent π}
    {commits : List (Nat × BalancerDesiredState π)} {j k : Nat} {c : FileCall π}
    {x : BalancerDesiredState π} (h : CallInv initial commits j c) (hjk : j ≠ k)
    (hfree : c.phase.isLocked = false) : CallInv initial (commits ++ [(k, x)]) j c := by
  unfold CallInv at h ⊢
  split
  · rename_i hphase
    rw [hphase] at h
    obtain ⟨hstart, hnotified, hcommits⟩ := h
    refine ⟨?_, hnotified, fun y hy => hcommits y (mem_push hjk hy)⟩
    rw [List.length_append]
    omega
  · rename_i hphase
    rw [hphase] at h
    obtain ⟨hschema, hnotified, hcommits, hseen, -⟩ := h
    refine ⟨hschema, hnotified, fun y hy => hcommits y (mem_push hjk hy), hseen.push _,
      fun hlocked => ?_⟩
    rw [hfree] at hlocked
    cases hlocked
  · rename_i stage schema hphase
    rw [hphase] at h hfree
    obtain ⟨hmethod, hstage⟩ := h
    refine ⟨hmethod, ?_⟩
    cases stage with
    | locking => exact fun y hy => hstage y (mem_push hjk hy)
    | creating => cases hfree
    | writing => cases hfree
    | syncing => cases hfree
    | sending => cases hfree
  · rename_i hphase
    rw [hphase] at h
    exact h.push _
  · rename_i hphase
    rw [hphase] at h
    obtain ⟨x, hmethod, hx⟩ := h
    exact ⟨x, hmethod, List.mem_append_left _ hx⟩
  · rename_i hphase
    rw [hphase] at h
    obtain ⟨hnotified, hcommits, hcause⟩ := h
    refine ⟨hnotified, fun y hy => hcommits y (mem_push hjk hy), ?_⟩
    rcases hcause with hio | ⟨hparse, hseen⟩
    · exact Or.inl hio
    · exact Or.inr ⟨hparse, hseen.push _⟩

namespace FileInv

variable {initial : FileContent π} {s t : FileDatabase π} {k : Nat} {c d : FileCall π}

/-- **One call goes on**, and if it commits it does so under the lock. -/
theorem update (h : FileInv initial s) (hlock : s.LockHeld) (hk : s.calls[k]? = some c)
    (hmethod : d.method = c.method) (hcalls : t.calls = s.calls.set k d)
    (hcommits : t.commits = s.commits ∨ s.writeLock = some k ∧
      ∃ x, t.commits = s.commits ++ [(k, x)] ∧ c.method = .storeBalancerDesiredState x)
    (hcall : CallInv initial t.commits k d)
    (hcontent : (∀ (j : Nat) (e : FileCall π), t.calls[j]? = some e → e.phase.isWriting = false) →
      t.content.storedState = stateAfter initial t.commits t.commits.length) :
      FileInv initial t := by
  refine ⟨hcontent, fun j x hx => ?_, fun j e he => ?_⟩
  · -- a commit is an old one or that of the call, whose method stays
    have hold : ∃ e, s.calls[j]? = some e ∧ e.method = .storeBalancerDesiredState x := by
      rcases hcommits with heq | ⟨-, y, heq, hstore⟩
      · rw [heq] at hx
        exact h.commits j x hx
      · rw [heq] at hx
        rcases List.mem_append.mp hx with hxold | hxnew
        · exact h.commits j x hxold
        · rw [List.mem_singleton, Prod.mk.injEq] at hxnew
          rw [hxnew.1, hxnew.2]
          exact ⟨c, hk, hstore⟩
    rw [hcalls]
    by_cases hj : k = j
    · subst hj
      obtain ⟨e, he, hmethode⟩ := hold
      rw [hk, Option.some.injEq] at he
      subst he
      refine ⟨d, ?_, hmethod.trans hmethode⟩
      rw [List.getElem?_set_self (List.getElem?_eq_some_iff.mp hk).1]
    · rw [List.getElem?_set_ne hj]
      exact hold
  · rw [hcalls] at he
    rcases getElem?_set_cases he with ⟨rfl, rfl⟩ | ⟨hj, hold⟩
    · exact hcall
    · rcases hcommits with heq | ⟨hmine, y, heq, -⟩
      · rw [heq]
        exact h.calls j e hold
      · rw [heq]
        refine (h.calls j e hold).push hj ?_
        by_contra hlocked
        rw [Bool.not_eq_false] at hlocked
        have hother := hlock j e hold hlocked
        rw [hmine, Option.some.injEq] at hother
        exact hj hother.symm

omit [Inhabited π] in
/-- If nobody writes after a step of a call that did not write before, nobody wrote before. -/
theorem not_writing_of_set (hk : s.calls[k]? = some c) (hc : c.phase.isWriting = false)
    (hset : ∀ (j : Nat) (e : FileCall π), (s.calls.set k d)[j]? = some e →
      e.phase.isWriting = false)
    (j : Nat) (e : FileCall π) (he : s.calls[j]? = some e) : e.phase.isWriting = false := by
  by_cases hj : k = j
  · subst hj
    rw [hk, Option.some.injEq] at he
    rw [← he]
    exact hc
  · refine hset j e ?_
    rw [List.getElem?_set_ne hj]
    exact he

omit [Inhabited π] in
theorem idle (hlock : s.LockHeld) (hfree : s.writeLock = none) (j : Nat) (e : FileCall π)
    (he : s.calls[j]? = some e) : e.phase.isWriting = false := by
  by_contra hwriting
  rw [Bool.not_eq_false] at hwriting
  have hlocked := hlock.idle hfree j e he
  rw [FilePhase.isLocked_of_isWriting hwriting] at hlocked
  cases hlocked

theorem setPhase (h : FileInv initial s) (hlock : s.LockHeld) (hk : s.calls[k]? = some c)
    (hmethod : d.method = c.method) (hwriting : c.phase.isWriting = false)
    (hcalls : t.calls = s.calls.set k d) (hcontent : t.content = s.content)
    (hcommits : t.commits = s.commits) (hcall : CallInv initial s.commits k d) :
    FileInv initial t := by
  refine h.update hlock hk hmethod hcalls (Or.inl hcommits) ?_ ?_
  · rw [hcommits]
    exact hcall
  · intro hset
    rw [hcalls] at hset
    rw [hcontent, hcommits]
    exact h.content (not_writing_of_set hk hwriting hset)

/-! ## The steps keep the invariant -/

theorem call (h : FileInv initial s) (method : DatabaseCall π) :
    FileInv initial (s.call method) := by
  refine ⟨fun hset => h.content fun j e he => hset j e ?_,
    fun j x hx => exists_getElem?_push (h.commits j x hx), fun j e he => ?_⟩
  · exact (List.getElem?_append_left (List.getElem?_eq_some_iff.mp he).1).trans he
  · rcases getElem?_push_cases he with hold | ⟨rfl, rfl⟩
    · exact h.calls j e hold
    · refine ⟨Nat.le_refl _, rfl, fun y hy => ?_⟩
      obtain ⟨e, he, -⟩ := h.commits _ y hy
      exact absurd (List.getElem?_eq_some_iff.mp he).1 (Nat.lt_irrefl _)

/-- A call that has seen a schema and stored nothing of its own goes on with it. -/
theorem continueWith (h : FileInv initial s) (hlock : s.LockHeld) (hk : s.calls[k]? = some c)
    (hwriting : c.phase.isWriting = false) (hmethod : d.method = c.method)
    (hcalls : t.calls = s.calls) (hcontent : t.content = s.content)
    (hcommits : t.commits = s.commits) (hfresh : ∀ y, (k, y) ∉ s.commits) {schema : Schema π}
    (hseen : SeenSince initial s.commits d.startedAt (some schema.balancerDesiredState)) :
    FileInv initial (t.continueWith k d schema) := by
  rcases t.continueWith_cases k d schema with heq | ⟨x, hstore, heq⟩
  · rw [heq]
    refine h.setPhase (d := { d with phase := .returned (.read schema.balancerDesiredState) }) hlock
      hk
      hmethod hwriting ?_ hcontent hcommits hseen
    rw [← hcalls]
    rfl
  · rw [heq]
    refine h.setPhase (d := { d with
      phase := .storing .locking { schema with balancerDesiredState := x } false }) hlock hk hmethod
      hwriting ?_ hcontent hcommits ⟨hstore, hfresh⟩
    rw [← hcalls]
    rfl

theorem readToString (h : FileInv initial s) (hlock : s.LockHeld) (hk : s.calls[k]? = some c)
    {failed : Bool} (hguard : ∀ e ∈ s.calls, e.phase.isWriting = false) :
    FileInv initial (s.readToString k c failed) := by
  unfold FileDatabase.readToString
  split
  swap
  · exact h
  rename_i hphase
  have hwriting : c.phase.isWriting = false := hguard c (List.mem_of_getElem? hk)
  have hstored := h.content fun j e he => hguard e (List.mem_of_getElem? he)
  have hcall := h.callInv hk hphase
  obtain ⟨hstart, hnotified, hfresh⟩ := hcall
  have hnow : SeenSince initial s.commits c.startedAt s.content.storedState :=
    .now hstart hstored.symm
  -- the call finds the state of the last store
  split
  · exact h.setPhase (d := { c with phase := .returned (.failed ⟨.io, [c.method.readContext]⟩) })
      hlock hk rfl
      hwriting rfl rfl rfl
      ⟨hnotified, hfresh, Or.inl rfl⟩
  · split
    · rename_i hcontent
      rw [hcontent] at hnow
      exact h.setPhase (d := { c with phase := .storing .locking .ofDefault true }) hlock hk rfl
        hwriting rfl rfl rfl
        ⟨rfl, hnotified, hfresh, hnow, fun hlock => by cases hlock⟩
    · rename_i hcontent
      rw [hcontent] at hnow
      exact h.setPhase (d := { c with phase := .storing .locking .ofDefault true }) hlock hk rfl
        hwriting rfl rfl rfl
        ⟨rfl, hnotified, hfresh, hnow, fun hlock => by cases hlock⟩
    · rename_i hcontent
      rw [hcontent] at hnow
      exact h.setPhase (d := { c with
        phase := .returned (.failed ⟨.parse, [c.method.readContext, s.parseContext]⟩) }) hlock hk
        rfl hwriting rfl rfl rfl
        ⟨hnotified, hfresh, Or.inr ⟨rfl, hnow⟩⟩
    · rename_i schema hcontent
      rw [hcontent] at hnow
      exact h.continueWith hlock hk hwriting rfl rfl rfl rfl hfresh hnow

theorem lock (h : FileInv initial s) (hlock : s.LockHeld) (hk : s.calls[k]? = some c)
    (hguard : c.phase.isInitialising = true → s.content.storedState = some .ofDefault) :
    FileInv initial (s.lock k c) := by
  unfold FileDatabase.lock
  split
  swap
  · exact h
  rename_i schema initialising hphase hfree
  have hstored := h.content (idle hlock hfree)
  have hcall := h.callInv hk hphase
  rw [hphase] at hguard
  refine h.setPhase (d := { c with phase := .storing .creating schema initialising }) hlock hk
    rfl ?_ rfl rfl
    rfl ?_
  · rw [hphase]
    rfl
  · cases initialising with
    | true =>
      obtain ⟨hschema, hnotified, hfresh, hseen, -⟩ := hcall
      exact ⟨hschema, hnotified, hfresh, hseen, fun _ => hstored.symm.trans (hguard rfl)⟩
    | false => exact hcall

theorem failStore (h : FileInv initial s) (hlock : s.LockHeld) (hk : s.calls[k]? = some c)
    (hwriting : c.phase.isWriting = false) (hnotified : c.notified = [])
    (hfresh : ∀ y, (k, y) ∉ s.commits) (initialising : Bool) :
    FileInv initial (s.failStore k c .io initialising) :=
  h.setPhase (d := { c with phase := .returned (.failed ⟨.io,
      if initialising then [c.method.readContext, "Failed to store default state"] else []⟩) })
      hlock hk rfl
    hwriting rfl rfl rfl
    ⟨hnotified, hfresh, Or.inl rfl⟩

theorem create (h : FileInv initial s) (hlock : s.LockHeld) (hk : s.calls[k]? = some c)
    {failed : Bool} (hguard : failed = true → c.notified = []) :
    FileInv initial (s.create k c failed) := by
  unfold FileDatabase.create
  split
  swap
  · exact h
  rename_i schema initialising hphase
  have hwriting : c.phase.isWriting = false := by
    rw [hphase]
    rfl
  have hcall := h.callInv hk hphase
  split
  · rename_i hfailed
    refine h.failStore hlock hk hwriting (hguard hfailed) ?_ initialising
    cases initialising with
    | true => exact hcall.2.2.1
    | false => exact hcall.2
  · refine h.update (d := { c with phase := .storing .writing schema initialising })
      hlock hk rfl rfl
      (Or.inl rfl) ?_ ?_
    · cases initialising with
      | true => exact hcall
      | false => exact hcall
    · intro hset
      have := hset k _ (List.getElem?_set_self (List.getElem?_eq_some_iff.mp hk).1)
      cases this

theorem writeSome (h : FileInv initial s) (hk : s.calls[k]? = some c) :
    FileInv initial (s.writeSome c) := by
  unfold FileDatabase.writeSome
  split
  · rename_i hphase
    refine ⟨fun hidle => ?_, h.commits, h.calls⟩
    have := hidle k c hk
    rw [hphase] at this
    cases this
  · exact h

theorem writeAll (h : FileInv initial s) (hlock : s.LockHeld) (hk : s.calls[k]? = some c) :
    FileInv initial (s.writeAll k c false) := by
  unfold FileDatabase.writeAll
  split
  swap
  · exact h
  rename_i schema initialising hphase
  have hmine : s.writeLock = some k := by
    refine hlock k c hk ?_
    rw [hphase]
    rfl
  have hcall := h.callInv hk hphase
  rw [if_neg Bool.false_ne_true]
  cases initialising with
  | true =>
    -- the default is what was stored
    obtain ⟨hschema, hnotified, hfresh, hseen, hdefault⟩ := hcall
    refine h.update (d := { c with phase := .storing .syncing schema true }) hlock hk rfl rfl
      (Or.inl rfl)
      ⟨hschema, hnotified, hfresh, hseen, fun _ => hdefault rfl⟩ fun _ => ?_
    show some schema.balancerDesiredState = stateAfter initial s.commits s.commits.length
    rw [hdefault rfl, hschema]
    rfl
  | false =>
    refine h.update (d := { c with phase := .storing .syncing schema false }) hlock hk rfl rfl
      (Or.inr ⟨hmine, schema.balancerDesiredState, rfl, hcall.1⟩)
      ⟨hcall.1, List.mem_append_right _ (List.mem_singleton_self _)⟩ fun _ => ?_
    exact (stateAfter_last k schema.balancerDesiredState).symm

theorem syncAll (h : FileInv initial s) (hlock : s.LockHeld) (hk : s.calls[k]? = some c) :
    FileInv initial (s.syncAll k c false) := by
  unfold FileDatabase.syncAll
  split
  swap
  · exact h
  rename_i schema initialising hphase
  have hwriting : c.phase.isWriting = false := by
    rw [hphase]
    rfl
  have hcall := h.callInv hk hphase
  rw [if_neg Bool.false_ne_true]
  refine h.setPhase (d := { c with phase := .storing .sending schema initialising }) hlock hk
    rfl hwriting
    rfl rfl rfl ?_
  cases initialising with
  | true => exact hcall
  | false => exact hcall

theorem send (h : FileInv initial s) (hlock : s.LockHeld) (hk : s.calls[k]? = some c)
    (hreceivers : 0 < s.receivers) :
    FileInv initial (s.send k c) := by
  unfold FileDatabase.send
  split
  swap
  · exact h
  rename_i schema initialising hphase
  have hwriting : c.phase.isWriting = false := by
    rw [hphase]
    rfl
  have hcall := h.callInv hk hphase
  rw [if_neg (Nat.ne_of_gt hreceivers)]
  cases initialising with
  | true =>
    obtain ⟨hschema, -, hfresh, hseen, -⟩ := hcall
    rw [if_pos rfl]
    refine h.continueWith (t := { s with
        notifications := s.notifications ++ [schema.balancerDesiredState] }.unlock)
      (d := { c with notified := c.notified ++ [schema.balancerDesiredState] }) hlock hk
        hwriting rfl rfl rfl
      rfl hfresh ?_
    rw [hschema]
    exact hseen
  | false =>
    rw [if_neg Bool.false_ne_true]
    exact h.setPhase (d := { c with
        phase := .returned .stored
        notified := c.notified ++ [schema.balancerDesiredState] }) hlock hk rfl hwriting rfl rfl rfl
      ⟨_, hcall⟩

end FileInv

theorem fileInv_step {initial : FileContent π} {s : FileDatabase π} (h : FileInv initial s)
    (hlock : s.LockHeld) (input : FileInput π) (hguard : Undisturbed s input) :
    FileInv initial (s.step input) := by
  cases input with
  | subscribe => exact ⟨h.content, h.commits, h.calls⟩
  | unsubscribe => exact ⟨h.content, h.commits, h.calls⟩
  | call method => exact h.call method
  | readToString k failed => exact FileDatabase.step_of_calls h fun c hk => h.readToString hlock hk hguard
  | lock k => exact FileDatabase.step_of_calls h fun c hk => h.lock hlock hk (hguard c hk)
  | create k failed =>
    exact FileDatabase.step_of_calls h fun c hk => h.create hlock hk fun hfailed => hguard hfailed c hk
  | writeSome k => exact FileDatabase.step_of_calls h fun c hk => h.writeSome hk
  | writeAll k failed =>
    rw [show failed = false from hguard]
    exact FileDatabase.step_of_calls h fun c hk => h.writeAll hlock hk
  | syncAll k failed =>
    rw [show failed = false from hguard]
    exact FileDatabase.step_of_calls h fun c hk => h.syncAll hlock hk
  | send k => exact FileDatabase.step_of_calls h fun c hk => h.send hlock hk hguard

/-! ## Undisturbed runs -/

/-- **Undisturbed, the file keeps what was stored.** -/
theorem keepsStoredState (path : String) (initial : FileContent π) {s : FileDatabase π}
    (h : Reaches FileDatabase.step Undisturbed (FileDatabase.new path initial) s) :
    KeepsStoredState initial s := by
  obtain ⟨hlock, hinv⟩ : s.LockHeld ∧ FileInv initial s :=
    h.invariant (fun s => s.LockHeld ∧ FileInv initial s)
      ⟨FileDatabase.lockHeld_new path initial, fileInv_new path initial⟩
      fun s input _ hinv hguard =>
        ⟨FileDatabase.lockHeld_step hinv.1 input, fileInv_step hinv.2 hinv.1 input hguard⟩
  have hread : ∀ (k : Nat) (c : FileCall π) x, s.calls[k]? = some c →
      c.phase = .returned (.read x) →
      SeenSince initial s.commits c.startedAt (some x) := by
    intro k c x hk hphase
    exact hinv.callInv hk hphase
  refine ⟨fun hfree => hinv.content (FileInv.idle hlock hfree), hinv.commits, ?_, ?_, hread, ?_, ?_⟩
  · intro k c hk hphase
    exact hinv.callInv hk hphase
  · intro k c x error hk _ hphase
    have hcall := hinv.callInv hk hphase
    exact ⟨hcall.1, hcall.2.1⟩
  · intro k c x j y n hk hphase hn hstart hlast
    obtain ⟨m, hm, hmlast, hseen⟩ := hread k c x hk hphase
    obtain rfl : m = n + 1 := by omega
    have : s.commits[n]?.map (·.2) = some x := hseen
    rw [hn] at this
    exact (Option.some.inj this).symm
  · intro k c error hk _ hphase
    exact (hinv.callInv hk hphase).2.2

/-! ## Runs -/

section

/-- A state with a model. -/
def storedModel (path : String) : BalancerDesiredState Unit :=
  ⟨none, (), .localToAgent path, .none, false⟩

/-- The steps of `store_schema`. -/
def storeSchema (k : Nat) : List (FileInput Unit) :=
  [.lock k, .create k false, .writeAll k false, .syncAll k false, .send k]

/-- A store into a file that is not there, and a read after it. -/
def storeThenRead : List (FileInput Unit) :=
  [.subscribe, .call (.storeBalancerDesiredState (storedModel "new")), .readToString 0 false] ++
    storeSchema 0 ++ storeSchema 0 ++ [.call .readBalancerDesiredState, .readToString 1 false]

instance : ∀ (s : FileDatabase Unit) (input : FileInput Unit), Decidable (Undisturbed s input)
  | s, .readToString _ _ => inferInstanceAs (Decidable (∀ c ∈ s.calls, c.phase.isWriting = false))
  | s, .lock k => inferInstanceAs (Decidable (∀ c ∈ s.calls[k]?, c.phase.isInitialising = true →
      s.content.storedState = some .ofDefault))
  | s, .create k failed =>
    inferInstanceAs (Decidable (failed = true → ∀ c ∈ s.calls[k]?, c.notified = []))
  | _, .writeAll _ failed => inferInstanceAs (Decidable (failed = false))
  | _, .syncAll _ failed => inferInstanceAs (Decidable (failed = false))
  | s, .send _ => inferInstanceAs (Decidable (0 < s.receivers))
  | _, .subscribe => isTrue trivial
  | _, .unsubscribe => isTrue trivial
  | _, .call _ => isTrue trivial
  | _, .writeSome _ => isTrue trivial

theorem keepsStoredState_storeThenRead :
    let s := storeThenRead.foldl FileDatabase.step (.new "state.json" .notFound)
    s.calls[1]?.map (·.phase) = some (.returned (.read (storedModel "new"))) ∧
      KeepsStoredState .notFound s := by
  refine ⟨by decide +kernel, keepsStoredState "state.json" .notFound ?_⟩
  exact Reaches.along storeThenRead (by decide +kernel) .start

/-- A read that finds the file truncated, and stores the default after the store was over. -/
def readWhileTruncated : List (FileInput Unit) :=
  [.subscribe, .call (.storeBalancerDesiredState (storedModel "new")),
    .readToString 0 false, .lock 0, .create 0 false, .call .readBalancerDesiredState,
    .readToString 1 false, .writeAll 0 false, .syncAll 0 false, .send 0] ++ storeSchema 1

/-- **A read loses what was stored.** -/
theorem not_keepsStoredState :
    ¬ ∀ (path : String) (initial : FileContent Unit) (s : FileDatabase Unit),
    Reaches FileDatabase.step (fun _ _ => True) (FileDatabase.new path initial) s →
    KeepsStoredState initial s := by
  intro h
  have hkeeps := h "state.json" (.written ⟨storedModel "old", "1"⟩) _
    (Reaches.runs readWhileTruncated (fun _ _ _ => trivial) .start)
  have hstored := hkeeps.stored (by decide)
  revert hstored
  decide

end

end Paddler
