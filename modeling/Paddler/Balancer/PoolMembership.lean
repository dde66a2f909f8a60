import Paddler.Balancer.Dispatch

/-!
# Pool membership

The pool maps an agent id to the controller of the connection that registered it, and the context of
a connection takes the id out of the pool when it is dropped.  Both go by the id alone, which the
agents choose.  A connection counts as open until its context is dropped, which is when the last of
its tasks ends.

`PoolHistory` is the balancer with a record of the registrations: entry `n` is the socket that made
`Arc` number `n`, and whether `register_agent_controller` returned `Ok`.

* `Membership` — the pool holds exactly the controllers of open connections.
* `Undisputed` — no connection registers a taken id, and none is closed under an id that another
  connection holds.
* `membership_iff_undisputed` — **the pool is right as long as ids are undisputed**, and the first
  disputed step makes it wrong.
-/

set_option autoImplicit false

namespace Paddler

open Run VecUpdate AssocList

/-- The balancer with the history of registrations. -/
structure PoolHistory where
  balancer : Balancer
  registrations : List (Nat × Bool)
  deriving DecidableEq

namespace PoolHistory

def new : PoolHistory := ⟨Balancer.new, []⟩

/-- Whether `register_agent_controller` returns `Ok`. -/
def registers (self : PoolHistory) (agentId : String) : Bool :=
  (self.balancer.agentControllerPool.registerAgentController agentId
    self.balancer.agentControllers.length).1.isOk

/-- One step of the balancer. -/
def step (ratesDiffer : UInt64 → UInt64 → Bool) (self : PoolHistory) (input : BalancerInput) :
    PoolHistory where
  balancer := self.balancer.step ratesDiffer input
  registrations :=
    match input with
    | .registerAgent socket _ =>
      match self.balancer.openSocket socket with
      | some agentId => self.registrations ++ [(socket, self.registers agentId)]
      | none => self.registrations
    | _ => self.registrations

/-- A whole run. -/
def run (ratesDiffer : UInt64 → UInt64 → Bool) (self : PoolHistory) (inputs : List BalancerInput) :
    PoolHistory :=
  inputs.foldl (step ratesDiffer) self

/-- The pool maps an id to a controller exactly when the connection that successfully registered the
controller under the id is open. -/
def Membership (self : PoolHistory) : Prop :=
  ∀ (agentId : String) (arc : Nat),
    self.balancer.agentControllerPool.getAgentController agentId = some arc ↔
      ∃ socket, self.registrations[arc]? = some (socket, true) ∧
        self.balancer.openSocket socket = some agentId

/-- The step does not touch the id of another connection. -/
def Undisputed (self : PoolHistory) : BalancerInput → Prop
  | .registerAgent socket _ => ∀ agentId, self.balancer.openSocket socket = some agentId →
      self.balancer.agentControllerPool.getAgentController agentId = none
  | .dropContext socket => ∀ agentId, self.balancer.openSocket socket = some agentId →
      ∀ arc, self.balancer.agentControllerPool.getAgentController agentId = some arc →
        ∃ ok, self.registrations[arc]? = some (socket, ok)
  | _ => True

/-- There is one record for each controller, by a socket that exists. -/
structure Recorded (m : PoolHistory) : Prop where
  complete : m.registrations.length = m.balancer.agentControllers.length
  sockets : ∀ entry ∈ m.registrations, entry.1 < m.balancer.agentSockets.length

end PoolHistory

/-! ## One step -/

/-- What a step can do to sockets and pool. -/
inductive PoolStep (input : BalancerInput) (m m' : PoolHistory) : Prop where
  | kept : m.Undisputed input →
      m'.balancer.agentControllerPool.agents = m.balancer.agentControllerPool.agents →
      m'.balancer.agentSockets = m.balancer.agentSockets →
      m'.balancer.agentControllers.length = m.balancer.agentControllers.length →
      m'.registrations = m.registrations → PoolStep input m m'
  | connected {agentId : String} : m.Undisputed input →
      m'.balancer.agentControllerPool.agents = m.balancer.agentControllerPool.agents →
      m'.balancer.agentSockets = m.balancer.agentSockets ++ [⟨agentId, false⟩] →
      m'.balancer.agentControllers.length = m.balancer.agentControllers.length →
      m'.registrations = m.registrations → PoolStep input m m'
  | registered {socket : Nat} {params : RegisterAgentParams} {agentId : String} :
      input = .registerAgent socket params → m.balancer.openSocket socket = some agentId →
      m'.balancer.agentControllerPool.agents =
        insertKey agentId m.balancer.agentControllers.length m.balancer.agentControllerPool.agents →
      m'.balancer.agentSockets = m.balancer.agentSockets →
      m'.balancer.agentControllers.length = m.balancer.agentControllers.length + 1 →
      m'.registrations = m.registrations ++ [(socket, m.registers agentId)] → PoolStep input m m'
  | dropped {socket : Nat} {agentId : String} :
      input = .dropContext socket → m.balancer.openSocket socket = some agentId →
      (∀ other, m'.balancer.agentControllerPool.getAgentController other =
        if other = agentId then none else m.balancer.agentControllerPool.getAgentController other) →
      m'.balancer.agentSockets = m.balancer.agentSockets.set socket ⟨agentId, true⟩ →
      m'.balancer.agentControllers.length = m.balancer.agentControllers.length →
      m'.registrations = m.registrations → PoolStep input m m'

theorem registerAgentController_agents (pool : AgentControllerPool) (agentId : String)
    (agent : Nat) :
    (pool.registerAgentController agentId agent).2.agents =
      insertKey agentId agent pool.agents := by
  rw [registerAgentController_eq]
  split <;> rfl

theorem getAgentController_removeAgentController (pool : AgentControllerPool)
    (agentId other : String) :
    (pool.removeAgentController agentId).2.getAgentController other =
      if other = agentId then none else pool.getAgentController other := by
  rw [removeAgentController_eq]
  split
  · show (pool.erase agentId).getAgentController other = _
    split
    · rename_i heq
      subst heq
      exact pool.getAgentController_erase_self other
    · rename_i hne
      exact pool.getAgentController_erase_ne hne
  · rename_i hnone
    split
    · rename_i heq
      subst heq
      simpa using hnone
    · rfl

theorem updateAgentStatus_agents (ratesDiffer : UInt64 → UInt64 → Bool) (b : Balancer)
    (agentId : String) (snapshot : SlotAggregatedStatusSnapshot) :
    (b.updateAgentStatus ratesDiffer agentId snapshot).agentControllerPool.agents =
        b.agentControllerPool.agents ∧
      (b.updateAgentStatus ratesDiffer agentId snapshot).agentSockets = b.agentSockets ∧
      (b.updateAgentStatus ratesDiffer agentId snapshot).agentControllers.length =
        b.agentControllers.length := by
  unfold Balancer.updateAgentStatus
  split
  · exact ⟨rfl, rfl, rfl⟩
  · split
    · exact ⟨rfl, rfl, rfl⟩
    · refine ⟨?_, rfl, List.length_set⟩
      simp only
      split <;> rfl

theorem tryClaim_agents {b b' : Balancer} {candidate : DispatchCandidate}
    (h : b.tryClaim candidate = some b') :
    b'.agentControllerPool.agents = b.agentControllerPool.agents ∧
      b'.agentSockets = b.agentSockets ∧ b'.agentControllers.length =
        b.agentControllers.length := by
  unfold Balancer.tryClaim at h
  split at h
  · cases h
  · split at h
    · cases h
      exact ⟨rfl, rfl, List.length_set⟩
    · cases h

theorem dropSlotGuard_agents (b : Balancer) (guard : Nat) :
    (b.dropSlotGuard guard).agentControllerPool.agents = b.agentControllerPool.agents ∧
      (b.dropSlotGuard guard).agentSockets = b.agentSockets ∧
      (b.dropSlotGuard guard).agentControllers.length = b.agentControllers.length := by
  unfold Balancer.dropSlotGuard
  split
  · exact ⟨rfl, rfl, rfl⟩
  · exact ⟨rfl, rfl, List.length_modify _ _ _⟩

/-- **Inversion.** -/
theorem step_poolStep (ratesDiffer : UInt64 → UInt64 → Bool) (m : PoolHistory)
    (input : BalancerInput) : PoolStep input m (m.step ratesDiffer input) := by
  cases input with
  | connect agentId => exact .connected trivial rfl rfl rfl rfl
  | registerAgent socket params =>
    cases hopen : m.balancer.openSocket socket with
    | none =>
      have hstep : m.step ratesDiffer (.registerAgent socket params) = m := by
        simp [PoolHistory.step, Balancer.step, hopen]
      rw [hstep]
      refine .kept ?_ rfl rfl rfl rfl
      intro agentId hagent
      rw [hopen] at hagent
      cases hagent
    | some agentId =>
      refine .registered rfl hopen ?_ ?_ ?_ ?_
      · simp only [PoolHistory.step, Balancer.step, hopen]
        exact registerAgentController_agents _ agentId _
      · simp only [PoolHistory.step, Balancer.step, hopen]
        rfl
      · simp [PoolHistory.step, Balancer.step, hopen, Balancer.registerAgent]
      · simp only [PoolHistory.step, hopen]
  | updateAgentStatus socket snapshot =>
    simp only [PoolHistory.step, Balancer.step]
    split
    · rename_i agentId hopen
      obtain ⟨hagents, hsockets, hlength⟩ :=
        updateAgentStatus_agents ratesDiffer m.balancer agentId snapshot
      exact .kept trivial hagents hsockets hlength rfl
    · exact .kept trivial rfl rfl rfl rfl
  | dropContext socket =>
    cases hopen : m.balancer.openSocket socket with
    | none =>
      have hstep : m.step ratesDiffer (.dropContext socket) = m := by
        simp [PoolHistory.step, Balancer.step, hopen]
      rw [hstep]
      refine .kept ?_ rfl rfl rfl rfl
      intro agentId hagent
      rw [hopen] at hagent
      cases hagent
    | some agentId =>
      refine .dropped rfl hopen ?_ ?_ ?_ rfl
      · intro other
        simp only [PoolHistory.step, Balancer.step, hopen]
        exact getAgentController_removeAgentController _ agentId other
      · simp only [PoolHistory.step, Balancer.step, hopen]
      · simp only [PoolHistory.step, Balancer.step, hopen]
  | takeLeastBusyAgentController => exact .kept trivial rfl rfl rfl rfl
  | visit caller agentId =>
    simp only [PoolHistory.step, Balancer.step]
    split
    · split <;> exact .kept trivial rfl rfl rfl rfl
    · exact .kept trivial rfl rfl rfl rfl
  | claim caller =>
    simp only [PoolHistory.step, Balancer.step]
    split
    · split
      · rename_i claimed hclaim
        obtain ⟨hagents, hsockets, hlength⟩ := tryClaim_agents hclaim
        exact .kept trivial hagents hsockets hlength rfl
      · exact .kept trivial rfl rfl rfl rfl
    · exact .kept trivial rfl rfl rfl rfl
    · exact .kept trivial rfl rfl rfl rfl
  | dropSlotGuard guard =>
    obtain ⟨hagents, hsockets, hlength⟩ := dropSlotGuard_agents m.balancer guard
    exact .kept trivial hagents hsockets hlength rfl

/-! ## Membership -/

theorem openSocket_eq_some {b : Balancer} {socket : Nat} {agentId : String} :
    b.openSocket socket = some agentId ↔ b.agentSockets[socket]? = some ⟨agentId, false⟩ := by
  unfold Balancer.openSocket
  constructor
  · intro h
    split at h
    · rename_i context hcontext
      split at h
      · cases h
      · rename_i hopen
        obtain ⟨agentId', dropped⟩ := context
        cases h
        rw [hcontext]
        simpa using hopen
    · cases h
  · intro h
    rw [h]
    rfl

/-- A registration returns `Ok` exactly when the id is new. -/
theorem registers_iff {m : PoolHistory} {agentId : String} :
    m.registers agentId = true ↔
      m.balancer.agentControllerPool.getAgentController agentId = none := by
  unfold PoolHistory.registers AgentControllerPool.registerAgentController
  cases hget : m.balancer.agentControllerPool.getAgentController agentId with
  | none => simp [Except.isOk, Except.toBool]
  | some arc => simp [Except.isOk, Except.toBool]

section Membership

variable {m m' : PoolHistory} {input : BalancerInput}

theorem PoolHistory.Recorded.step (h : m.Recorded) (hstep : PoolStep input m m') : m'.Recorded := by
  cases hstep with
  | kept _ _ hsockets hlength hregistrations =>
    refine ⟨by rw [hregistrations, hlength, h.complete], fun entry hentry => ?_⟩
    rw [hregistrations] at hentry
    rw [hsockets]
    exact h.sockets entry hentry
  | connected _ _ hsockets hlength hregistrations =>
    refine ⟨by rw [hregistrations, hlength, h.complete], fun entry hentry => ?_⟩
    rw [hregistrations] at hentry
    rw [hsockets, List.length_append]
    exact Nat.lt_add_right _ (h.sockets entry hentry)
  | registered _ hopen _ hsockets hlength hregistrations =>
    refine ⟨by rw [hregistrations, hlength, List.length_append, h.complete]; rfl,
      fun entry hentry => ?_⟩
    rw [hregistrations] at hentry
    rw [hsockets]
    rcases List.mem_append.mp hentry with hentry | hentry
    · exact h.sockets entry hentry
    · rw [List.mem_singleton.mp hentry]
      exact (List.getElem?_eq_some_iff.mp (openSocket_eq_some.mp hopen)).1
  | dropped _ _ _ hsockets hlength hregistrations =>
    refine ⟨by rw [hregistrations, hlength, h.complete], fun entry hentry => ?_⟩
    rw [hregistrations] at hentry
    rw [hsockets, List.length_set]
    exact h.sockets entry hentry

/-- Pool, registrations and the sockets that registered are the same. -/
theorem membership_congr
    (hagents : m'.balancer.agentControllerPool.agents = m.balancer.agentControllerPool.agents)
    (hregistrations : m'.registrations = m.registrations)
    (hsockets : ∀ (arc socket : Nat) (ok : Bool) (agentId : String),
      m.registrations[arc]? = some (socket, ok) →
      (m'.balancer.openSocket socket = some agentId ↔
        m.balancer.openSocket socket = some agentId)) :
    m'.Membership ↔ m.Membership := by
  have hget : ∀ agentId, m'.balancer.agentControllerPool.getAgentController agentId =
      m.balancer.agentControllerPool.getAgentController agentId := fun agentId => by
    unfold AgentControllerPool.getAgentController
    rw [hagents]
  have hright : ∀ (agentId : String) (arc : Nat),
      (∃ socket, m'.registrations[arc]? = some (socket, true) ∧
        m'.balancer.openSocket socket = some agentId) ↔
      ∃ socket, m.registrations[arc]? = some (socket, true) ∧
        m.balancer.openSocket socket = some agentId := by
    intro agentId arc
    rw [hregistrations]
    constructor
    · rintro ⟨socket, hregistered, hopen⟩
      exact ⟨socket, hregistered, (hsockets arc socket true agentId hregistered).mp hopen⟩
    · rintro ⟨socket, hregistered, hopen⟩
      exact ⟨socket, hregistered, (hsockets arc socket true agentId hregistered).mpr hopen⟩
  unfold PoolHistory.Membership
  simp only [hget, hright]

/-- A new connection changes nothing for the sockets that registered. -/
theorem openSocket_connected (h : m.Recorded) {agentId : String}
    (hsockets : m'.balancer.agentSockets = m.balancer.agentSockets ++ [⟨agentId, false⟩])
    (arc socket : Nat) (ok : Bool) (other : String)
    (hregistered : m.registrations[arc]? = some (socket, ok)) :
    m'.balancer.openSocket socket = some other ↔ m.balancer.openSocket socket = some other := by
  have hlt : socket < m.balancer.agentSockets.length :=
    h.sockets _ (List.mem_of_getElem? hregistered)
  rw [openSocket_eq_some, openSocket_eq_some, hsockets, List.getElem?_append_left hlt]

/-- A registration keeps the pool right exactly if the id was new. -/
theorem membership_registered (h : m.Recorded) (hmember : m.Membership) {socket : Nat}
    {agentId : String} (hopen : m.balancer.openSocket socket = some agentId)
    (hagents : m'.balancer.agentControllerPool.agents =
      insertKey agentId m.balancer.agentControllers.length m.balancer.agentControllerPool.agents)
    (hsockets : m'.balancer.agentSockets = m.balancer.agentSockets)
    (hregistrations : m'.registrations = m.registrations ++ [(socket, m.registers agentId)]) :
    m'.Membership ↔ m.balancer.agentControllerPool.getAgentController agentId = none := by
  have hopens : ∀ other, m'.balancer.openSocket other = m.balancer.openSocket other := by
    intro other
    unfold Balancer.openSocket
    rw [hsockets]
  have hself : m'.balancer.agentControllerPool.getAgentController agentId =
      some m.balancer.agentControllers.length := by
    unfold AgentControllerPool.getAgentController
    rw [hagents]
    exact lookup_insertKey_self _ _ _
  have hothers : ∀ other, other ≠ agentId →
      m'.balancer.agentControllerPool.getAgentController other =
        m.balancer.agentControllerPool.getAgentController other := by
    intro other hne
    unfold AgentControllerPool.getAgentController
    rw [hagents]
    exact lookup_insertKey_ne hne _ _
  have hlast : m'.registrations[m.balancer.agentControllers.length]? =
      some (socket, m.registers agentId) := by
    rw [hregistrations, ← h.complete]
    exact List.getElem?_concat_length
  constructor
  · intro hmember'
    obtain ⟨socket', hregistered, -⟩ := (hmember' agentId _).mp hself
    rw [hlast] at hregistered
    exact registers_iff.mp (congrArg Prod.snd (Option.some.inj hregistered))
  · intro hnew other arc
    constructor
    · intro hget
      by_cases heq : other = agentId
      · subst heq
        rw [hself] at hget
        cases hget
        exact ⟨socket, by rw [hlast, registers_iff.mpr hnew], by rw [hopens]; exact hopen⟩
      · rw [hothers other heq] at hget
        obtain ⟨socket', hregistered, hopen'⟩ := (hmember other arc).mp hget
        refine ⟨socket', ?_, by rw [hopens]; exact hopen'⟩
        rw [hregistrations, List.getElem?_append_left (List.getElem?_eq_some_iff.mp hregistered).1]
        exact hregistered
    · rintro ⟨socket', hregistered, hopen'⟩
      rw [hopens] at hopen'
      rw [hregistrations] at hregistered
      rcases getElem?_push_cases hregistered with hregistered | ⟨harc, hpair⟩
      · have hget := (hmember other arc).mpr ⟨socket', hregistered, hopen'⟩
        have hne : other ≠ agentId := by
          rintro rfl
          rw [hnew] at hget
          cases hget
        rw [hothers other hne]
        exact hget
      · have hsocket := congrArg Prod.fst hpair
        simp only at hsocket
        rw [hsocket, hopen] at hopen'
        cases hopen'
        rw [hself, harc, h.complete]

/-- Closing a connection keeps the pool right exactly if no other connection holds its id. -/
theorem membership_dropped (hmember : m.Membership) {socket : Nat} {agentId : String}
    (hopen : m.balancer.openSocket socket = some agentId)
    (hget : ∀ other, m'.balancer.agentControllerPool.getAgentController other =
      if other = agentId then none else m.balancer.agentControllerPool.getAgentController other)
    (hsockets : m'.balancer.agentSockets = m.balancer.agentSockets.set socket ⟨agentId, true⟩)
    (hregistrations : m'.registrations = m.registrations) :
    m'.Membership ↔ ∀ arc, m.balancer.agentControllerPool.getAgentController agentId = some arc →
      ∃ ok, m.registrations[arc]? = some (socket, ok) := by
  have hopens : ∀ (other : Nat) (id : String), m'.balancer.openSocket other = some id ↔
      other ≠ socket ∧ m.balancer.openSocket other = some id := by
    intro other id
    rw [openSocket_eq_some, openSocket_eq_some, hsockets]
    constructor
    · intro hother
      rcases getElem?_set_cases hother with ⟨-, hclosed⟩ | hother
      · cases hclosed
      · exact hother
    · rintro ⟨hne, hother⟩
      rw [List.getElem?_set_ne (Ne.symm hne)]
      exact hother
  constructor
  · intro hmember' arc harc
    obtain ⟨socket', hregistered, hopen'⟩ := (hmember agentId arc).mp harc
    by_cases heq : socket' = socket
    · exact ⟨true, heq ▸ hregistered⟩
    · -- the other connection is still open, but the id is gone
      have hstill := (hmember' agentId arc).mpr
        ⟨socket', hregistrations ▸ hregistered, (hopens socket' agentId).mpr ⟨heq, hopen'⟩⟩
      rw [hget, if_pos rfl] at hstill
      cases hstill
  · intro hown other arc
    rw [hget, hregistrations]
    constructor
    · intro harc
      split at harc
      · cases harc
      · rename_i hne
        obtain ⟨socket', hregistered, hopen'⟩ := (hmember other arc).mp harc
        refine ⟨socket', hregistered, (hopens socket' other).mpr ⟨?_, hopen'⟩⟩
        rintro rfl
        rw [hopen] at hopen'
        cases hopen'
        exact hne rfl
    · rintro ⟨socket', hregistered, hopen'⟩
      obtain ⟨hne, hopen'⟩ := (hopens socket' other).mp hopen'
      have harc := (hmember other arc).mpr ⟨socket', hregistered, hopen'⟩
      by_cases heq : other = agentId
      · subst heq
        obtain ⟨ok, hregistered'⟩ := hown arc harc
        rw [hregistered] at hregistered'
        cases hregistered'
        exact absurd rfl hne
      · rw [if_neg heq]
        exact harc

/-- **A step keeps the pool right exactly if it is undisputed.** -/
theorem membership_step_iff (h : m.Recorded) (hmember : m.Membership)
    (hstep : PoolStep input m m') : m'.Membership ↔ m.Undisputed input := by
  cases hstep with
  | kept hundisputed hagents hsockets _ hregistrations =>
    have hcongr : m'.Membership ↔ m.Membership :=
      membership_congr hagents hregistrations fun arc socket ok agentId _ => by
        unfold Balancer.openSocket
        rw [hsockets]
    exact ⟨fun _ => hundisputed, fun _ => hcongr.mpr hmember⟩
  | connected hundisputed hagents hsockets _ hregistrations =>
    have hcongr : m'.Membership ↔ m.Membership :=
      membership_congr hagents hregistrations (openSocket_connected h hsockets)
    exact ⟨fun _ => hundisputed, fun _ => hcongr.mpr hmember⟩
  | registered hinput hopen hagents hsockets _ hregistrations =>
    subst hinput
    rw [membership_registered h hmember hopen hagents hsockets hregistrations]
    constructor
    · intro hnew agentId hagent
      rw [hopen] at hagent
      cases hagent
      exact hnew
    · intro hundisputed
      exact hundisputed _ hopen
  | dropped hinput hopen hget hsockets _ hregistrations =>
    subst hinput
    rw [membership_dropped hmember hopen hget hsockets hregistrations]
    constructor
    · intro hown agentId hagent
      rw [hopen] at hagent
      cases hagent
      exact hown
    · intro hundisputed
      exact hundisputed _ hopen

end Membership

/-! ## Whole runs -/

theorem recorded_new : PoolHistory.new.Recorded :=
  ⟨rfl, fun entry hentry => by cases hentry⟩

theorem membership_new : PoolHistory.new.Membership := by
  intro agentId arc
  constructor
  · intro hget
    cases hget
  · rintro ⟨socket, hregistered, -⟩
    cases hregistered

/-- **Pool membership.**  In every state of every run of undisputed steps the pool maps an id to a
controller exactly when the connection that registered the controller is open, and from such a state
it stays so exactly if the next step is undisputed. -/
theorem membership_iff_undisputed {ratesDiffer : UInt64 → UInt64 → Bool} {m : PoolHistory}
    (h : Reaches (PoolHistory.step ratesDiffer) PoolHistory.Undisputed .new m) :
    m.Membership ∧
      ∀ input, (m.step ratesDiffer input).Membership ↔ m.Undisputed input := by
  obtain ⟨hrecorded, hmember⟩ : m.Recorded ∧ m.Membership := by
    refine h.invariant (fun m => m.Recorded ∧ m.Membership) ⟨recorded_new, membership_new⟩ ?_
    rintro m input - ⟨hrecorded, hmember⟩ hundisputed
    have hstep := step_poolStep ratesDiffer m input
    exact ⟨hrecorded.step hstep, (membership_step_iff hrecorded hmember hstep).mpr hundisputed⟩
  refine ⟨hmember, fun input => ?_⟩
  exact membership_step_iff hrecorded hmember (step_poolStep ratesDiffer m input)

/-- An agent registers, loses its connection and registers over a new one. -/
def reconnected : PoolHistory :=
  PoolHistory.new.run (fun _ _ => false)
    (registering "agent" 0 0 ++ [.dropContext 0] ++ registering "agent" 1 0)

theorem membership_iff_undisputed_reconnected :
    reconnected.balancer.agentControllerPool.getAgentController "agent" = some 1 ∧
    reconnected.registrations = [(0, true), (1, true)] ∧ reconnected.Membership ∧
    ((reconnected.step (fun _ _ => false) (.dropContext 1)).Membership ↔
      reconnected.Undisputed (.dropContext 1)) := by
  have hundisputed : Along (PoolHistory.step fun _ _ => false) PoolHistory.Undisputed
      (registering "agent" 0 0 ++ [.dropContext 0] ++ registering "agent" 1 0) .new := by
    refine ⟨trivial, fun agentId hopen => ?_, fun agentId hopen arc hget => ?_, trivial,
      fun agentId hopen => ?_, trivial⟩
    · have hagent : some "agent" = some agentId := hopen
      cases hagent
      rfl
    · have hagent : some "agent" = some agentId := hopen
      cases hagent
      have harc : some 0 = some arc := hget
      cases harc
      exact ⟨true, rfl⟩
    · have hagent : some "agent" = some agentId := hopen
      cases hagent
      rfl
  have hall := membership_iff_undisputed (m := reconnected) (Reaches.along _ hundisputed .start)
  exact ⟨by decide, by decide, hall.1, hall.2 (.dropContext 1)⟩

/-- Two connections register the same id.  The second is rejected. -/
def rejected : PoolHistory :=
  PoolHistory.new.run (fun _ _ => false) (registering "agent" 0 0 ++ registering "agent" 1 0)

/-- The rejected connection is closed. -/
def rejectedClosed : PoolHistory := rejected.run (fun _ _ => false) [.dropContext 1]

/-- The rejected controller replaces the registered one, and closing the rejected connection takes
the id out of the pool while the first connection is open. -/
theorem membership_disputed :
    rejected.registrations = [(0, true), (1, false)] ∧
    rejected.balancer.agentControllerPool.getAgentController "agent" = some 1 ∧
    rejectedClosed.balancer.openSocket 0 = some "agent" ∧
    rejectedClosed.balancer.agentControllerPool.getAgentController "agent" = none ∧
    ¬ ∀ m : PoolHistory,
      Reaches (PoolHistory.step fun _ _ => false) (fun _ _ => True) .new m → m.Membership := by
  refine ⟨by decide, by decide, by decide, by decide, fun hall => ?_⟩
  have hreached : Reaches (PoolHistory.step fun _ _ => false)
      (fun _ _ => True) .new rejectedClosed :=
    Reaches.runs _ (fun _ _ _ => trivial) (Reaches.runs _ (fun _ _ _ => trivial) .start)
  have hget := (hall rejectedClosed hreached "agent" 0).mpr ⟨0, by decide, by decide⟩
  exact absurd hget (by decide)

end Paddler
