import Paddler.Balancer.ReconciliationService

/-!
# Progress of the reconciliation

Whether the loop of the service runs until its shutdown, and whether it ends up with the state that
was stored last.  Two things can go wrong: the receiver lags, which `?` turns into the end of the
loop; and two stores of the database in memory send their notifications in the other order than they
wrote.

* `ReconciliationInv`, `reconciliationInv_step` — once every store is over the newest notification,
  read or not, is what the database has, and a converted state is the one received last.
* `pendingWork` — what the loop has left to do; `pendingWork_step` — every step of the loop lowers
  it.
* `advances_recv`, `advances_tick`, `advances_broadcasting` — when the loop can go on;
  `settled_of_idle` — a loop that cannot has converted the database.
* `reconciliation_settles` — **the loop runs until its shutdown and settles on the last stored
  state**, in every run whose notifications come in order and in time.
-/

set_option autoImplicit false

namespace Paddler

open AssocList Run

variable {π : Type}

/-! ## The property -/

/-- `run` is over. -/
def ReconciliationLoop.hasReturned : ReconciliationLoop π → Bool
  | .returned _ => true
  | _ => false

/-- The steps of the loop, other than a send that fails and is tried again later. -/
def ReconciliationInput.isOfLoop : ReconciliationInput π → Bool
  | .tick | .recv | .visit _ true | .setHolder => true
  | _ => false

/-- The loop does something. -/
def Advances (s : Reconciliation π) (input : ReconciliationInput π) : Prop :=
  input.isOfLoop = true ∧ s.step input ≠ s

/-- The state was converted last and nothing is left to receive. -/
def SettledOn (s : Reconciliation π) (stored : BalancerDesiredState π) : Prop :=
  s.unread = [] ∧ s.isConverted = true ∧ s.conversions.getLast? = some stored ∧
    s.holder = some stored.toApplicableState

/-- The loop is only ended by a shutdown.  Once every store is over, a loop that received everything
and converted it has settled on what is stored; and however the loop goes on, it takes a bounded
number of steps before it can do no more, and has settled then. -/
structure Reconciles (s : Reconciliation π) : Prop where
  running : ∀ input error, s.loop.hasReturned = false → (s.step input).loop = .returned error →
    input = .shutdown
  latest : s.loop.hasReturned = false → s.notifying = [] → s.unread = [] → s.isConverted = true →
    SettledOn s s.stateDatabase
  settles : s.loop.hasReturned = false → s.notifying = [] → ∃ bound, ∀ inputs,
    Along Reconciliation.step Advances inputs s → inputs.length ≤ bound ∧
      ((∀ input, ¬ Advances (s.run inputs) input) → SettledOn (s.run inputs) s.stateDatabase)

/-- The channel has room for every notification; and of the stores of the database in memory, the
one that notifies last is the one that wrote last. -/
def NotificationsInTime (s : Reconciliation π) : ReconciliationInput π → Prop
  | .notify _ => (s.loop.hasReturned = false → s.unread.length < s.capacity) ∧
    (s.databaseType = .memory → s.notifying.length = 1 → s.notifying = [s.stateDatabase])
  | _ => True

/-! ## The invariant -/

/-- While the loop runs the receiver does not lag, and once every store is over the newest
notification is what the database has; under the lock of the file database one store at a time is
not over; what the loop converts or converted is what it received last; the agents that it has to
visit are there. -/
structure ReconciliationInv (s : Reconciliation π) : Prop where
  inTime : s.loop.hasReturned = false → s.unread.length ≤ s.capacity
  newest : s.loop.hasReturned = false → s.notifying = [] →
    (s.balancerDesiredState :: s.unread).getLast? = some s.stateDatabase
  locked : s.databaseType = .file → s.notifying = [] ∨ s.notifying = [s.stateDatabase]
  converted : s.isConverted = true → s.conversions.getLast? = some s.balancerDesiredState ∧
    s.holder = some s.balancerDesiredState.toApplicableState
  broadcasting : ∀ applicable remaining visited,
    s.loop = .broadcasting applicable remaining visited →
    applicable = s.balancerDesiredState.toApplicableState ∧
    ∀ agentId ∈ remaining, (s.agents.lookup agentId).isSome = true ∧
      visited.any (·.agentId = agentId) = false
  controllers : ∀ agentId k, s.agents.lookup agentId = some k → k < s.registrations.length

variable {s : Reconciliation π} {k : Nat} {r : AgentRegistration π}

theorem reconciliationInv_new (databaseType : StateDatabaseType) (capacity : Nat)
    (initial : BalancerDesiredState π) :
    ReconciliationInv (Reconciliation.new databaseType capacity initial) := by
  constructor
  · exact fun _ => Nat.zero_le capacity
  · exact fun _ _ => rfl
  · exact fun _ => Or.inl rfl
  · intro h
    cases h
  · intro applicable remaining visited h
    cases h
  · intro agentId k h
    cases h

theorem running_of_selecting (hloop : s.loop = .selecting) : s.loop.hasReturned = false := by
  rw [hloop]
  rfl

theorem running_of_broadcasting {applicable : BalancerApplicableState π} {remaining : List String}
    {visited : List AgentVisit} (hloop : s.loop = .broadcasting applicable remaining visited) :
    s.loop.hasReturned = false := by
  rw [hloop]
  rfl

namespace ReconciliationInv

theorem write (hinv : ReconciliationInv s) (balancerDesiredState : BalancerDesiredState π) :
    ReconciliationInv (s.write balancerDesiredState) := by
  unfold Reconciliation.write
  split
  · exact hinv
  · rename_i hfree
    refine ⟨hinv.inTime, fun _ hnotifying => ?_, fun hfile => ?_, hinv.converted, hinv.broadcasting,
      hinv.controllers⟩
    · exact absurd hnotifying (List.concat_ne_nil _ _)
    · have hnotifying : s.notifying = [] := by
        by_contra hother
        exact hfree ⟨hfile, hother⟩
      rw [hnotifying]
      exact Or.inr rfl

/-- The last store that has to notify is the one that wrote last. -/
theorem notifying_eq (hinv : ReconciliationInv s) {store : Nat}
    (hguard : NotificationsInTime s (.notify store)) (hone : s.notifying.length = 1) :
    s.notifying = [s.stateDatabase] := by
  cases htype : s.databaseType with
  | memory => exact hguard.2 htype hone
  | file =>
    rcases hinv.locked htype with hnone | hlast
    · rw [hnone] at hone
      cases hone
    · exact hlast

theorem notify (hinv : ReconciliationInv s) {store : Nat}
    (hguard : NotificationsInTime s (.notify store)) : ReconciliationInv (s.notify store) := by
  unfold Reconciliation.notify
  split
  · exact hinv
  · rename_i balancerDesiredState hstore
    obtain ⟨hlt, -⟩ := List.getElem?_eq_some_iff.mp hstore
    have hlocked : s.databaseType = .file →
        s.notifying.eraseIdx store = [] ∨ s.notifying.eraseIdx store = [s.stateDatabase] := by
      intro hfile
      rcases hinv.locked hfile with hnone | hlast
      · rw [hnone] at hstore
        cases hstore
      · left
        rw [← List.length_eq_zero_iff, List.length_eraseIdx_of_lt hlt, hlast]
        rfl
    simp only
    split
    · rename_i error hloop
      refine ⟨hinv.inTime, fun hrunning => ?_, hlocked, hinv.converted, hinv.broadcasting,
        hinv.controllers⟩
      have hrunning : s.loop.hasReturned = false := hrunning
      rw [hloop] at hrunning
      cases hrunning
    · refine ⟨fun hrunning => ?_, fun _ hnotifying => ?_, hlocked, hinv.converted,
        hinv.broadcasting, hinv.controllers⟩
      · rw [List.length_append]
        exact hguard.1 hrunning
      · have hlength := congrArg List.length hnotifying
        rw [List.length_eraseIdx_of_lt hlt, List.length_nil] at hlength
        have hlast := hinv.notifying_eq hguard (by omega)
        have hwritten : balancerDesiredState = s.stateDatabase := by
          refine List.mem_singleton.mp ?_
          rw [← hlast]
          exact List.mem_of_getElem? hstore
        rw [hwritten, ← List.cons_append, List.getLast?_concat]

/-- A conversion starts with every agent still to be visited. -/
theorem convertToApplicableState (hinv : ReconciliationInv s) (hloop : s.loop = .selecting) :
    ReconciliationInv s.convertToApplicableState := by
  have hrunning := running_of_selecting hloop
  refine ⟨fun _ => hinv.inTime hrunning, fun _ => hinv.newest hrunning, hinv.locked,
    hinv.converted, ?_, hinv.controllers⟩
  intro applicable remaining visited h
  cases h
  exact ⟨rfl, fun agentId hagent => ⟨lookup_isSome_of_mem hagent, rfl⟩⟩

theorem tick (hinv : ReconciliationInv s) : ReconciliationInv s.tick := by
  unfold Reconciliation.tick
  split
  · rename_i hloop
    split
    · exact hinv
    · exact hinv.convertToApplicableState hloop
  · exact hinv

/-- The next notification is received; the receiver does not lag. -/
theorem recv (hinv : ReconciliationInv s) : ReconciliationInv s.recv := by
  unfold Reconciliation.recv
  split
  · rename_i balancerDesiredState unread hloop hunread
    have hrunning := running_of_selecting hloop
    have hinTime := hinv.inTime hrunning
    rw [if_neg (Nat.not_lt.mpr hinTime)]
    refine ReconciliationInv.convertToApplicableState
      ⟨fun _ => ?_, fun _ hnotifying => ?_, hinv.locked, ?_, ?_, hinv.controllers⟩ hloop
    · rw [hunread] at hinTime
      exact Nat.le_of_succ_le hinTime
    · have hnewest := hinv.newest hrunning hnotifying
      rw [hunread, List.getLast?_cons_cons] at hnewest
      exact hnewest
    · intro h
      cases h
    · intro applicable remaining visited h
      rw [show s.loop = .broadcasting applicable remaining visited from h] at hloop
      cases hloop
  · exact hinv

/-- The broadcast goes on with the other agents, or stops where it is. -/
theorem visit (hinv : ReconciliationInv s) (agentId : String) (sent : Bool) :
    ReconciliationInv (s.visit agentId sent) := by
  unfold Reconciliation.visit
  split
  · rename_i applicable remaining visited k hloop hlookup
    have hrunning := running_of_broadcasting hloop
    obtain ⟨happlicable, hremaining⟩ := hinv.broadcasting applicable remaining visited hloop
    split
    · exact hinv
    · split
      · exact hinv
      · split
        · refine ⟨fun _ => hinv.inTime hrunning, fun _ => hinv.newest hrunning, hinv.locked,
            hinv.converted, ?_, ?_⟩
          · intro applicable' remaining' visited' h
            cases h
            refine ⟨happlicable, fun agentId' hagent => ?_⟩
            obtain ⟨hmem, hne⟩ := List.mem_filter.mp hagent
            obtain ⟨hpresent, hvisited⟩ := hremaining agentId' hmem
            refine ⟨hpresent, ?_⟩
            rw [List.any_append, hvisited, List.any_cons, List.any_nil]
            simpa using fun h => of_decide_eq_true hne h.symm
          · intro agentId' k' hlookup'
            rw [List.length_set]
            exact hinv.controllers agentId' k' hlookup'
        · refine ⟨fun _ => hinv.inTime hrunning, fun _ => hinv.newest hrunning, hinv.locked,
            hinv.converted, ?_, hinv.controllers⟩
          intro applicable' remaining' visited' h
          cases h
  · exact hinv

theorem setHolder (hinv : ReconciliationInv s) : ReconciliationInv s.setHolder := by
  unfold Reconciliation.setHolder
  split
  · rename_i applicable visited hloop
    have hrunning := running_of_broadcasting hloop
    obtain ⟨happlicable, -⟩ := hinv.broadcasting applicable [] visited hloop
    refine ⟨fun _ => hinv.inTime hrunning, fun _ => hinv.newest hrunning, hinv.locked,
      fun _ => ⟨?_, ?_⟩, ?_, hinv.controllers⟩
    · exact List.getLast?_concat ..
    · exact congrArg some happlicable
    · intro applicable' remaining' visited' h
      cases h
  · exact hinv

theorem shutdown (hinv : ReconciliationInv s) : ReconciliationInv s.shutdown := by
  unfold Reconciliation.shutdown
  split
  · refine ⟨fun h => ?_, fun h => ?_, hinv.locked, hinv.converted, ?_, hinv.controllers⟩
    · cases h
    · cases h
    · intro applicable remaining visited h
      cases h
  · exact hinv

theorem set_registration (hinv : ReconciliationInv s) (k : Nat) (r : AgentRegistration π) :
    ReconciliationInv { s with registrations := s.registrations.set k r } := by
  refine ⟨hinv.inTime, hinv.newest, hinv.locked, hinv.converted, hinv.broadcasting,
    fun agentId k' hlookup => ?_⟩
  rw [List.length_set]
  exact hinv.controllers agentId k' hlookup

theorem readHolder (hinv : ReconciliationInv s) : ReconciliationInv (s.readHolder k r) := by
  unfold Reconciliation.readHolder
  split
  · exact hinv.set_registration k _
  · exact hinv

theorem sendDesiredState (hinv : ReconciliationInv s) :
    ReconciliationInv (s.sendDesiredState k r) := by
  unfold Reconciliation.sendDesiredState
  split
  · exact hinv.set_registration k _
  · exact hinv

/-- An agent joins; the agents that are to be visited stay. -/
theorem registerAgent (hinv : ReconciliationInv s) (agentId : String) :
    ReconciliationInv (s.registerAgent agentId) := by
  unfold Reconciliation.registerAgent
  refine ⟨hinv.inTime, hinv.newest, hinv.locked, hinv.converted, ?_, ?_⟩
  · intro applicable remaining visited hloop
    obtain ⟨happlicable, hremaining⟩ := hinv.broadcasting applicable remaining visited hloop
    refine ⟨happlicable, fun agentId' hagent => ⟨?_, (hremaining agentId' hagent).2⟩⟩
    by_cases hid : agentId' = agentId
    · subst hid
      rw [lookup_insertKey_self]
      rfl
    · rw [lookup_insertKey_ne hid]
      exact (hremaining agentId' hagent).1
  · intro agentId' k hlookup
    rw [List.length_append, List.length_singleton]
    by_cases hid : agentId' = agentId
    · subst hid
      rw [lookup_insertKey_self] at hlookup
      cases hlookup
      exact Nat.lt_succ_self _
    · rw [lookup_insertKey_ne hid] at hlookup
      exact Nat.lt_succ_of_lt (hinv.controllers agentId' k hlookup)

theorem removeAgent (hinv : ReconciliationInv s) (agentId : String) :
    ReconciliationInv (s.removeAgent agentId) := by
  have hreturned : (s.removeAgent agentId).loop.hasReturned = s.loop.hasReturned := by
    unfold Reconciliation.removeAgent
    simp only
    split
    · rename_i hloop
      rw [hloop]
      rfl
    · rfl
  constructor
  · intro h
    exact hinv.inTime (hreturned.symm.trans h)
  · intro h
    exact hinv.newest (hreturned.symm.trans h)
  · exact hinv.locked
  · exact hinv.converted
  · intro applicable remaining visited h
    unfold Reconciliation.removeAgent at h ⊢
    simp only at h ⊢
    split at h
    · rename_i hloop
      cases h
      obtain ⟨happlicable, hremaining⟩ := hinv.broadcasting _ _ _ hloop
      refine ⟨happlicable, fun agentId' hagent => ?_⟩
      obtain ⟨hmem, hne⟩ := List.mem_filter.mp hagent
      rw [lookup_eraseKey_ne (of_decide_eq_true hne)]
      exact hremaining agentId' hmem
    · rename_i hother
      exact absurd h (hother applicable remaining visited)
  · intro agentId' k hlookup
    exact hinv.controllers agentId' k (lookup_of_lookup_eraseKey hlookup)

end ReconciliationInv

theorem reconciliationInv_step (hinv : ReconciliationInv s) (input : ReconciliationInput π)
    (hguard : NotificationsInTime s input) : ReconciliationInv (s.step input) := by
  cases input with
  | write balancerDesiredState => exact hinv.write balancerDesiredState
  | notify store => exact hinv.notify hguard
  | shutdown => exact hinv.shutdown
  | tick => exact hinv.tick
  | recv => exact hinv.recv
  | visit agentId sent => exact hinv.visit agentId sent
  | setHolder => exact hinv.setHolder
  | registerAgent agentId => exact hinv.registerAgent agentId
  | readHolder k =>
    unfold Reconciliation.step
    simp only
    split
    · exact hinv.readHolder
    · exact hinv
  | sendDesiredState k =>
    unfold Reconciliation.step
    simp only
    split
    · exact hinv.sendDesiredState
    · exact hinv
  | removeAgent agentId => exact hinv.removeAgent agentId

/-! ## What is left to do -/

/-- The agents that the broadcast did not visit. -/
def unvisited (agents : List (String × Nat)) (visited : List AgentVisit) : List (String × Nat) :=
  agents.filter fun entry => !visited.any (·.agentId = entry.1)

theorem unvisited_nil (agents : List (String × Nat)) : unvisited agents [] = agents :=
  List.filter_eq_self.mpr fun _ _ => rfl

/-- A visit of an agent in the pool that was not visited leaves fewer. -/
theorem unvisited_concat {agents : List (String × Nat)} {visited : List AgentVisit}
    {visit : AgentVisit} (hlookup : agents.lookup visit.agentId = some k)
    (hnew : visited.any (·.agentId = visit.agentId) = false) :
    (unvisited agents (visited ++ [visit])).length < (unvisited agents visited).length := by
  have hfilter : unvisited agents (visited ++ [visit]) =
      (unvisited agents visited).filter fun entry => !decide (visit.agentId = entry.1) := by
    unfold unvisited
    rw [List.filter_filter]
    congr 1
    funext entry
    rw [List.any_append, List.any_cons, List.any_nil, Bool.or_false, Bool.not_or, Bool.and_comm]
  rw [hfilter, List.length_filter_lt_length_iff_exists]
  refine ⟨(visit.agentId, k), List.mem_filter.mpr ⟨mem_of_lookup_eq_some hlookup, ?_⟩, ?_⟩
  · rw [hnew]
    rfl
  · simp

/-- How many steps the loop has to take: to receive a notification, visit every agent and update the
holder, and once more without a notification if the state is not converted. -/
def Reconciliation.pendingWork (self : Reconciliation π) : Nat :=
  self.unread.length * (self.agents.length + 3) +
    match self.loop with
    | .selecting => if self.isConverted then 0 else self.agents.length + 2
    | .broadcasting _ _ visited => (unvisited self.agents visited).length + 1
    | .returned _ => 0

theorem pendingWork_convertToApplicableState (s : Reconciliation π) :
    s.convertToApplicableState.pendingWork =
      s.unread.length * (s.agents.length + 3) + (s.agents.length + 1) := by
  show s.unread.length * (s.agents.length + 3) + ((unvisited s.agents []).length + 1) = _
  rw [unvisited_nil]

theorem pendingWork_tick (h : s.tick ≠ s) : s.tick.pendingWork < s.pendingWork := by
  unfold Reconciliation.tick at h ⊢
  split
  · rename_i hloop
    rw [hloop] at h
    split
    · rename_i hconverted
      exact absurd (if_pos hconverted) h
    · rename_i hconverted
      rw [pendingWork_convertToApplicableState]
      unfold Reconciliation.pendingWork
      rw [hloop]
      simp only [hconverted]
      simp
  · rename_i hloop
    split at h
    · rename_i hselecting
      exact absurd hselecting hloop
    · exact absurd rfl h

theorem pendingWork_recv (hinv : ReconciliationInv s) (h : s.recv ≠ s) :
    s.recv.pendingWork < s.pendingWork := by
  unfold Reconciliation.recv at h ⊢
  split at h
  · rename_i balancerDesiredState unread hloop hunread
    have hinTime := hinv.inTime (running_of_selecting hloop)
    rw [if_neg (Nat.not_lt.mpr hinTime), pendingWork_convertToApplicableState]
    show unread.length * (s.agents.length + 3) + (s.agents.length + 1) < _
    unfold Reconciliation.pendingWork
    rw [hunread, List.length_cons, Nat.succ_mul]
    omega
  · exact absurd rfl h

theorem pendingWork_visit {agentId : String} (h : s.visit agentId true ≠ s) :
    (s.visit agentId true).pendingWork < s.pendingWork := by
  unfold Reconciliation.visit at h ⊢
  split at h
  · rename_i applicable remaining visited k hloop hlookup
    split at h
    · exact absurd rfl h
    · rename_i hnew
      split at h
      · exact absurd rfl h
      · rw [if_neg hnew, if_pos rfl]
        unfold Reconciliation.pendingWork
        rw [hloop]
        refine Nat.add_lt_add_left (Nat.succ_lt_succ ?_) _
        exact unvisited_concat hlookup (Bool.eq_false_iff.mpr hnew)
  · exact absurd rfl h

theorem pendingWork_setHolder (h : s.setHolder ≠ s) : s.setHolder.pendingWork < s.pendingWork := by
  unfold Reconciliation.setHolder at h ⊢
  split at h
  · rename_i applicable visited hloop
    unfold Reconciliation.pendingWork
    rw [hloop]
    exact Nat.add_lt_add_left (Nat.succ_pos _) _
  · exact absurd rfl h

/-- Whatever the loop does, it has less to do afterwards. -/
theorem pendingWork_step (hinv : ReconciliationInv s) {input : ReconciliationInput π}
    (h : Advances s input) : (s.step input).pendingWork < s.pendingWork := by
  obtain ⟨hloop, hne⟩ := h
  unfold ReconciliationInput.isOfLoop at hloop
  split at hloop
  · exact pendingWork_tick hne
  · exact pendingWork_recv hinv hne
  · exact pendingWork_visit hne
  · exact pendingWork_setHolder hne
  · cases hloop

/-! ## A loop that is idle -/

/-- What a converted state is, once everything was received. -/
theorem ReconciliationInv.settledOn (hinv : ReconciliationInv s)
    (hrunning : s.loop.hasReturned = false) (hnotifying : s.notifying = [])
    (hunread : s.unread = []) (hconverted : s.isConverted = true) :
    SettledOn s s.stateDatabase := by
  have hnewest := hinv.newest hrunning hnotifying
  rw [hunread, List.getLast?_singleton, Option.some.injEq] at hnewest
  rw [← hnewest]
  exact ⟨hunread, hconverted, hinv.converted hconverted⟩

theorem advances_of_loop_ne {input : ReconciliationInput π} (hinput : input.isOfLoop = true)
    (hne : (s.step input).loop ≠ s.loop) : Advances s input :=
  ⟨hinput, fun h => hne (congrArg Reconciliation.loop h)⟩

theorem advances_recv (hinv : ReconciliationInv s) (hloop : s.loop = .selecting)
    (hunread : s.unread ≠ []) :
    Advances s .recv := by
  refine advances_of_loop_ne rfl ?_
  show s.recv.loop ≠ s.loop
  unfold Reconciliation.recv
  cases hcons : s.unread with
  | nil => exact absurd hcons hunread
  | cons balancerDesiredState unread =>
    rw [hloop]
    simp only
    rw [← hcons, if_neg (Nat.not_lt.mpr (hinv.inTime (running_of_selecting hloop)))]
    intro h
    cases h

theorem advances_tick (hloop : s.loop = .selecting) (hconverted : s.isConverted = false) :
    Advances s .tick := by
  refine advances_of_loop_ne rfl ?_
  show s.tick.loop ≠ s.loop
  unfold Reconciliation.tick
  rw [hloop, hconverted]
  intro h
  cases h

/-- While a broadcast is going on there is an agent to visit, or the holder is to be updated. -/
theorem advances_broadcasting (hinv : ReconciliationInv s) {applicable : BalancerApplicableState π}
    {remaining : List String} {visited : List AgentVisit}
    (hloop : s.loop = .broadcasting applicable remaining visited) : ∃ input, Advances s input := by
  obtain ⟨-, hremaining⟩ := hinv.broadcasting applicable remaining visited hloop
  cases remaining with
  | nil =>
    refine ⟨.setHolder, advances_of_loop_ne rfl ?_⟩
    show s.setHolder.loop ≠ s.loop
    unfold Reconciliation.setHolder
    rw [hloop]
    intro h
    cases h
  | cons agentId remaining =>
    obtain ⟨hpresent, hvisited⟩ := hremaining agentId List.mem_cons_self
    obtain ⟨k, hlookup⟩ := Option.isSome_iff_exists.mp hpresent
    have hr := List.getElem?_eq_getElem (hinv.controllers agentId k hlookup)
    refine ⟨.visit agentId true, advances_of_loop_ne rfl ?_⟩
    show (s.visit agentId true).loop ≠ s.loop
    unfold Reconciliation.visit
    rw [hloop, hlookup]
    simp only
    rw [hvisited, hr]
    intro h
    simp at h

/-- A loop that can do nothing is in its `select!`, received everything and converted it. -/
theorem settled_of_idle (hinv : ReconciliationInv s) (hrunning : s.loop.hasReturned = false)
    (hnotifying : s.notifying = []) (hidle : ∀ input, ¬ Advances s input) :
    SettledOn s s.stateDatabase := by
  cases hloop : s.loop with
  | selecting =>
    refine hinv.settledOn hrunning hnotifying ?_ ?_
    · by_contra hunread
      exact hidle .recv (advances_recv hinv hloop hunread)
    · by_contra hconverted
      exact hidle .tick (advances_tick hloop (Bool.eq_false_iff.mpr hconverted))
  | broadcasting applicable remaining visited =>
    obtain ⟨input, hadvances⟩ := advances_broadcasting hinv hloop
    exact absurd hadvances (hidle input)
  | returned error =>
    rw [hloop] at hrunning
    cases hrunning

/-! ## Whole runs -/

/-- Only a shutdown ends the loop, since the receiver does not lag. -/
theorem step_returned (hinv : ReconciliationInv s) (hrunning : s.loop.hasReturned = false)
    {input : ReconciliationInput π} {error : Option RecvError}
    (h : (s.step input).loop = .returned error) : input = .shutdown := by
  have hsame : s.loop ≠ .returned error := by
    intro hloop
    rw [hloop] at hrunning
    cases hrunning
  cases input with
  | shutdown => rfl
  | write balancerDesiredState =>
    refine absurd ?_ hsame
    simp only [Reconciliation.step, Reconciliation.write] at h
    split at h <;> exact h
  | notify store =>
    refine absurd ?_ hsame
    simp only [Reconciliation.step, Reconciliation.notify] at h
    split at h
    · exact h
    · split at h <;> exact h
  | tick =>
    simp only [Reconciliation.step, Reconciliation.tick] at h
    split at h
    · split at h
      · exact absurd h hsame
      · cases h
    · exact absurd h hsame
  | recv =>
    simp only [Reconciliation.step, Reconciliation.recv] at h
    split at h
    · rw [if_neg (Nat.not_lt.mpr (hinv.inTime hrunning))] at h
      cases h
    · exact absurd h hsame
  | visit agentId sent =>
    simp only [Reconciliation.step, Reconciliation.visit] at h
    split at h
    · split at h
      · exact absurd h hsame
      · split at h
        · exact absurd h hsame
        · split at h <;> cases h
    · exact absurd h hsame
  | setHolder =>
    simp only [Reconciliation.step, Reconciliation.setHolder] at h
    split at h
    · cases h
    · exact absurd h hsame
  | registerAgent agentId => exact absurd h hsame
  | readHolder k =>
    refine absurd ?_ hsame
    simp only [Reconciliation.step, Reconciliation.readHolder] at h
    split at h
    · split at h <;> exact h
    · exact h
  | sendDesiredState k =>
    refine absurd ?_ hsame
    simp only [Reconciliation.step, Reconciliation.sendDesiredState] at h
    split at h
    · split at h <;> exact h
    · exact h
  | removeAgent agentId =>
    simp only [Reconciliation.step, Reconciliation.removeAgent] at h
    split at h
    · cases h
    · exact absurd h hsame

theorem step_stores {input : ReconciliationInput π} (h : input.isOfLoop = true) :
    (s.step input).notifying = s.notifying ∧ (s.step input).stateDatabase = s.stateDatabase := by
  unfold ReconciliationInput.isOfLoop at h
  split at h
  · simp only [Reconciliation.step, Reconciliation.tick]
    split
    · split <;> exact ⟨rfl, rfl⟩
    · exact ⟨rfl, rfl⟩
  · simp only [Reconciliation.step, Reconciliation.recv]
    split
    · split <;> exact ⟨rfl, rfl⟩
    · exact ⟨rfl, rfl⟩
  · simp only [Reconciliation.step, Reconciliation.visit]
    split
    · split
      · exact ⟨rfl, rfl⟩
      · split
        · exact ⟨rfl, rfl⟩
        · exact ⟨rfl, rfl⟩
    · exact ⟨rfl, rfl⟩
  · simp only [Reconciliation.step, Reconciliation.setHolder]
    split <;> exact ⟨rfl, rfl⟩
  · cases h

/-- A running loop, with every store over and what is stored. -/
structure LoopAlone (stored : BalancerDesiredState π) (s : Reconciliation π) : Prop where
  inv : ReconciliationInv s
  running : s.loop.hasReturned = false
  notifying : s.notifying = []
  stateDatabase : s.stateDatabase = stored

theorem loopAlone_step {stored : BalancerDesiredState π} (h : LoopAlone stored s)
    {input : ReconciliationInput π} (hadvances : Advances s input) :
    LoopAlone stored (s.step input) := by
  obtain ⟨hnotifying, hstateDatabase⟩ := step_stores (s := s) hadvances.1
  constructor
  · refine reconciliationInv_step h.inv input ?_
    cases input with
    | notify store => cases hadvances.1
    | _ => trivial
  · cases hloop : (s.step input).loop with
    | returned error =>
      cases step_returned h.inv h.running hloop
      cases hadvances.1
    | selecting => rfl
    | broadcasting applicable remaining visited => rfl
  · exact hnotifying.trans h.notifying
  · exact hstateDatabase.trans h.stateDatabase

theorem ReconciliationInv.reconciles (hinv : ReconciliationInv s) : Reconciles s := by
  refine ⟨fun input error hrunning h => step_returned hinv hrunning h, hinv.settledOn, ?_⟩
  intro hrunning hnotifying
  refine ⟨s.pendingWork, fun inputs hinputs => ?_⟩
  obtain ⟨hend, hle⟩ := Along.terminates (LoopAlone s.stateDatabase) Reconciliation.pendingWork
    (fun _ _ h hadvances => ⟨loopAlone_step h hadvances, pendingWork_step h.inv hadvances⟩) inputs
    ⟨hinv, hrunning, hnotifying, rfl⟩ hinputs
  refine ⟨Nat.le_of_add_right_le hle, fun hidle => ?_⟩
  rw [← hend.stateDatabase]
  exact settled_of_idle hend.inv hend.running hend.notifying hidle

/-- **The loop runs until its shutdown and settles on the last stored state**, in every run in which
the channel has room for every notification and the store that wrote last does not notify before
others. -/
theorem reconciliation_settles (databaseType : StateDatabaseType) (capacity : Nat)
    (initial : BalancerDesiredState π)
    (h : Reaches Reconciliation.step NotificationsInTime
      (Reconciliation.new databaseType capacity initial) s) : Reconciles s :=
  (h.invariant ReconciliationInv (reconciliationInv_new databaseType capacity initial)
    fun _ input _ hinv hguard => reconciliationInv_step hinv input hguard).reconciles

instance [DecidableEq π] : DecidablePred (NotificationsInTime s) := fun input =>
  match input with
  | .notify _ => inferInstanceAs
      (Decidable ((s.loop.hasReturned = false → s.unread.length < s.capacity) ∧
      (s.databaseType = .memory → s.notifying.length = 1 → s.notifying = [s.stateDatabase])))
  | .write _ | .shutdown | .tick | .recv | .visit .. | .setHolder | .registerAgent _ | .readHolder _
  | .sendDesiredState _ | .removeAgent _ => isTrue trivial

/-- A desired state that is told apart by its inference parameters. -/
def numberedState (n : Nat) : BalancerDesiredState Nat :=
  ⟨none, n, .none, .none, false⟩

/-- That many stores, one after the other. -/
def stores (n : Nat) : List (ReconciliationInput Nat) :=
  (List.range n).flatMap fun store => [.write (numberedState (store + 1)), .notify 0]

/-- An agent registers, the initial state is converted, and two stores follow before the loop runs
again. -/
def storedTwice : List (ReconciliationInput Nat) :=
  [.registerAgent "agent", .readHolder 0, .tick, .visit "agent" true, .setHolder] ++ stores 2

theorem reconciliation_settles_storedTwice :
    ((Reconciliation.new .file 128 (numberedState 0)).run storedTwice).unread =
      [numberedState 1, numberedState 2] ∧
    Reconciles ((Reconciliation.new .file 128 (numberedState 0)).run storedTwice) := by
  refine ⟨by decide +kernel, reconciliation_settles .file 128 (numberedState 0) ?_⟩
  exact Reaches.along storedTwice (by decide +kernel) .start

/-- Two stores of the database in memory, of which the second one notifies first; the loop then
receives and converts both states. -/
def storedCrosswise : List (ReconciliationInput Nat) :=
  [.write (numberedState 1), .write (numberedState 2), .notify 1, .notify 0, .recv,
    .setHolder, .recv, .setHolder]

/-- A channel for 100 values really holds 128.  After 129 stores the loop ends with an error instead
of receiving, as it would if the channel held 100.  And after two stores that cross, the loop
settles on the first one although the second one is stored. -/
theorem reconciliation_ends :
    ((Reconciliation.new .file 100 (numberedState 0)).run (stores 129 ++ [.recv])).loop =
      .returned (some (.lagged 29)) ∧
    ((Reconciliation.new .file 128 (numberedState 0)).run (stores 129 ++ [.recv])).loop =
      .returned (some (.lagged 1)) ∧
    ((Reconciliation.new .memory 128 (numberedState 0)).run storedCrosswise).stateDatabase =
      numberedState 2 ∧
    ((Reconciliation.new .memory 128 (numberedState 0)).run storedCrosswise).conversions =
      [numberedState 2, numberedState 1] ∧
    (¬ ∀ s, Reaches Reconciliation.step (fun _ _ => True) (.new .file 128 (numberedState 0)) s →
      Reconciles s) ∧
    ¬ ∀ s, Reaches Reconciliation.step (fun _ _ => True) (.new .memory 128 (numberedState 0)) s →
      Reconciles s := by
  refine ⟨by decide +kernel, by decide +kernel, by decide +kernel, by
    decide +kernel, fun hall => ?_, fun hall => ?_⟩
  · have hreconciles := hall _ (Reaches.runs (stores 129) (fun _ _ _ => trivial) .start)
    have hshutdown := hreconciles.running .recv (some (.lagged 1)) (by decide +kernel)
      (by decide +kernel)
    cases hshutdown
  · have hreconciles := hall _ (Reaches.runs storedCrosswise (fun _ _ _ => trivial) .start)
    obtain ⟨-, -, hlast, -⟩ := hreconciles.latest (by decide +kernel) (by decide +kernel)
      (by decide +kernel) (by decide +kernel)
    exact absurd hlast (by decide +kernel)

end Paddler
