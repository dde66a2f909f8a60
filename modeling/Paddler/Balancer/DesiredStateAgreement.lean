import Paddler.Balancer.ReconciliationService

/-!
# Desired-state agreement

Whether every registered agent was last told the state that the holder has.  A conversion tells the
agents in the pool first and updates the holder afterwards; a registration joins the pool first and
reads the holder afterwards.  An agent whose registration reads the old state is told the new one
last only if the broadcast visits it once the registration is over.

* `AgreementInv`, `agreementInv_step` — what holds between the steps of conversions and
  registrations.
* `setStates_agree` — **agreement**, in every run in which each agent either reads the new holder or
  is visited late enough.
-/

set_option autoImplicit false

namespace Paddler

open AssocList Run VecUpdate

variable {π : Type}

/-! ## Agreement -/

/-- The handling of the `RegisterAgent` message is not over. -/
def AgentRegistration.inProgress (self : AgentRegistration π) : Bool :=
  match self.phase with
  | .readingHolder | .sending _ => true
  | .registered | .rejected => false

/-- Once the balancer converted its state and no registration is in progress, every agent in the
pool was last told what the holder has. -/
def Agreed (s : Reconciliation π) : Prop :=
  s.isConverted = true → (∀ r ∈ s.registrations, r.inProgress = false) →
  ∃ applicable, s.holder = some applicable ∧
    ∀ agentId k, s.agents.lookup agentId = some k → ∃ r, s.registrations[k]? = some r ∧
      r.setStates.getLast? = some applicable.agentDesiredState

/-- No agent registers under an id that the pool has; and when the holder is updated, every agent in
the pool either did not read the holder yet or was visited by the broadcast, after its registration
was over unless the holder has nothing that it could have read. -/
def RegistrationsOrdered (s : Reconciliation π) : ReconciliationInput π → Prop
  | .registerAgent agentId => s.agents.lookup agentId = none
  | .setHolder =>
    match s.loop with
    | .broadcasting _ [] visited => ∀ entry ∈ s.agents, ∀ r ∈ s.registrations[entry.2]?,
      r.phase = .readingHolder ∨ ∃ visit ∈ visited, visit.controller = entry.2 ∧
        (visit.registered = true ∨ s.holder.isNone = true)
    | _ => True
  | _ => True

/-! ## The invariant -/

/-- What the agent was told last, or will be told by its registration, is the applicable state. -/
def AgentRegistration.Agrees (r : AgentRegistration π) (applicable : BalancerApplicableState π) :
    Prop :=
  match r.phase with
  | .readingHolder => True
  | .sending desiredState => desiredState = applicable.agentDesiredState
  | .registered => r.setStates.getLast? = some applicable.agentDesiredState
  | .rejected => False

/-- The agent was told the state last, and its registration will not tell it what the holder has. -/
def AgentRegistration.Told (r : AgentRegistration π) (holder : Option (BalancerApplicableState π))
    (applicable : BalancerApplicableState π) : Prop :=
  (r.phase = .registered ∨ (r.phase = .readingHolder ∧ holder = none)) ∧
    r.setStates.getLast? = some applicable.agentDesiredState

/-- A conversion is in progress. -/
def ReconciliationLoop.isBroadcasting : ReconciliationLoop π → Bool
  | .broadcasting .. => true
  | _ => false

/-- Between the steps: while the state is converted every agent agrees with the holder; before the
first conversion nothing was read; an agent that the broadcast visited late enough was told the new
state last. -/
structure AgreementInv (s : Reconciliation π) : Prop where
  idle : s.isConverted = true → s.loop.isBroadcasting = false
  settled : s.isConverted = true → ∃ applicable, s.holder = some applicable ∧
    ∀ agentId k, s.agents.lookup agentId = some k → ∃ r, s.registrations[k]? = some r ∧
    r.Agrees applicable
  nothingRead : s.holder = none → ∀ r ∈ s.registrations, ∀ desiredState,
    r.phase ≠ .sending desiredState
  visited : ∀ applicable remaining visited, s.loop = .broadcasting applicable remaining visited →
    ∀ visit ∈ visited, visit.registered = true ∨ s.holder = none →
      ∃ r, s.registrations[visit.controller]? = some r ∧ r.Told s.holder applicable
  pool : ∀ agentId k, s.agents.lookup agentId = some k →
    ∃ r, s.registrations[k]? = some r ∧ r.phase ≠ .rejected

variable {s : Reconciliation π} {k : Nat} {r r' : AgentRegistration π}

theorem agreementInv_new (databaseType : StateDatabaseType) (capacity : Nat)
    (initial : BalancerDesiredState π) :
    AgreementInv (Reconciliation.new databaseType capacity initial) := by
  constructor
  · intro _
    rfl
  · intro h
    cases h
  · intro _ r hr
    cases hr
  · intro applicable remaining visited h
    cases h
  · intro agentId k h
    cases h

namespace AgreementInv

/-- While a broadcast is going on the state is not converted. -/
theorem not_converted (hinv : AgreementInv s) {applicable : BalancerApplicableState π}
    {remaining : List String} {visited : List AgentVisit}
    (hloop : s.loop = .broadcasting applicable remaining visited) : s.isConverted = false := by
  cases hconverted : s.isConverted with
  | false => rfl
  | true =>
    have hidle := hinv.idle hconverted
    rw [hloop] at hidle
    cases hidle

theorem set_registration (hinv : AgreementInv s) (hr : s.registrations[k]? = some r)
    (hagrees : s.isConverted = true → ∀ applicable, s.holder = some applicable →
      r.Agrees applicable →
      r'.Agrees applicable)
    (hnothingRead : s.holder = none → ∀ desiredState, r'.phase ≠ .sending desiredState)
    (htold : ∀ applicable, r.Told s.holder applicable → r'.Told s.holder applicable)
    (hpool : r.phase ≠ .rejected → r'.phase ≠ .rejected) :
    AgreementInv { s with registrations := s.registrations.set k r' } := by
  constructor
  · exact hinv.idle
  · intro hconverted
    obtain ⟨applicable, hholder, hall⟩ := hinv.settled hconverted
    refine ⟨applicable, hholder, fun agentId j hlookup => ?_⟩
    exact exists_getElem?_set hr (hagrees hconverted applicable hholder) (fun _ h => h)
      (hall agentId j hlookup)
  · intro hholder x hx
    rcases List.mem_or_eq_of_mem_set hx with hx | rfl
    · exact hinv.nothingRead hholder x hx
    · exact hnothingRead hholder
  · intro applicable remaining visited hloop visit hvisit hregistered
    exact exists_getElem?_set hr (htold applicable) (fun _ h => h)
      (hinv.visited applicable remaining visited hloop visit hvisit hregistered)
  · intro agentId j hlookup
    exact exists_getElem?_set hr hpool (fun _ h => h) (hinv.pool agentId j hlookup)

theorem readHolder (hinv : AgreementInv s) (hr : s.registrations[k]? = some r) :
    AgreementInv (s.readHolder k r) := by
  unfold Reconciliation.readHolder
  split
  · rename_i hphase
    refine hinv.set_registration hr ?_ ?_ ?_ ?_
    · intro _ applicable hholder _
      unfold AgentRegistration.Agrees
      simp only [hholder]
    · intro hholder desiredState h
      rw [hholder] at h
      cases h
    · rintro applicable ⟨hregistered | ⟨-, hholder⟩, hlast⟩
      · rw [hregistered] at hphase
        cases hphase
      · rw [hholder]
        exact ⟨Or.inl rfl, hlast⟩
    · intro _
      split
      · exact fun h => by cases h
      · exact fun h => by cases h
  · exact hinv

theorem sendDesiredState (hinv : AgreementInv s) (hr : s.registrations[k]? = some r) :
    AgreementInv (s.sendDesiredState k r) := by
  unfold Reconciliation.sendDesiredState
  split
  · rename_i desiredState hphase
    refine hinv.set_registration hr ?_ (fun _ _ h => by cases h) ?_ fun _ h => by cases h
    · intro _ applicable _ hagrees
      unfold AgentRegistration.Agrees at hagrees ⊢
      rw [hphase] at hagrees
      simp only at hagrees ⊢
      rw [hagrees, List.getLast?_concat]
    · rintro applicable ⟨hregistered | ⟨hreading, -⟩, -⟩
      · rw [hregistered] at hphase
        cases hphase
      · rw [hreading] at hphase
        cases hphase
  · exact hinv

theorem registerAgent (hinv : AgreementInv s) {agentId : String}
    (hfree : s.agents.lookup agentId = none) : AgreementInv (s.registerAgent agentId) := by
  have hentry : ∀ {P : AgentRegistration π → Prop}, P ⟨.readingHolder, []⟩ →
      (∀ agentId k, s.agents.lookup agentId = some k → ∃ r, s.registrations[k]? = some r ∧ P r) →
      ∀ agentId' k, (insertKey agentId s.registrations.length s.agents).lookup agentId' = some k →
        ∃ r, (s.registrations ++ [⟨.readingHolder, []⟩])[k]? = some r ∧ P r := by
    intro P hnew hall agentId' k hlookup
    by_cases hid : agentId' = agentId
    · subst hid
      rw [lookup_insertKey_self] at hlookup
      cases hlookup
      exact ⟨_, List.getElem?_concat_length, hnew⟩
    · rw [lookup_insertKey_ne hid] at hlookup
      exact exists_getElem?_push (hall agentId' k hlookup)
  unfold Reconciliation.registerAgent
  rw [hfree]
  constructor
  · exact hinv.idle
  · intro hconverted
    obtain ⟨applicable, hholder, hall⟩ := hinv.settled hconverted
    exact ⟨applicable, hholder, hentry trivial hall⟩
  · intro hholder r hr
    rcases List.mem_append.mp hr with hr | hr
    · exact hinv.nothingRead hholder r hr
    · rw [List.mem_singleton.mp hr]
      exact fun _ h => by cases h
  · intro applicable remaining visited hloop visit hvisit hregistered
    exact exists_getElem?_push
      (hinv.visited applicable remaining visited hloop visit hvisit hregistered)
  · exact hentry (fun h => by cases h) hinv.pool

theorem removeAgent (hinv : AgreementInv s) (agentId : String) :
    AgreementInv (s.removeAgent agentId) := by
  unfold Reconciliation.removeAgent
  constructor
  · intro hconverted
    have hidle := hinv.idle hconverted
    simp only
    split
    · rename_i hloop
      rw [hloop] at hidle
      cases hidle
    · exact hidle
  · intro hconverted
    obtain ⟨applicable, hholder, hall⟩ := hinv.settled hconverted
    exact ⟨applicable, hholder, fun agentId' k hlookup =>
      hall agentId' k (lookup_of_lookup_eraseKey hlookup)⟩
  · exact hinv.nothingRead
  · intro applicable remaining visited hloop
    simp only at hloop
    split at hloop
    · rename_i hbefore
      cases hloop
      exact hinv.visited _ _ _ hbefore
    · exact hinv.visited applicable remaining visited hloop
  · exact fun agentId' k hlookup => hinv.pool agentId' k (lookup_of_lookup_eraseKey hlookup)

/-- While the state is not converted nobody has to agree with the holder. -/
theorem of_not_converted (hconverted : s.isConverted = false)
    (hnothingRead : s.holder = none → ∀ r ∈ s.registrations, ∀ desiredState,
      r.phase ≠ .sending desiredState)
    (hvisited : ∀ applicable remaining visited, s.loop =
      .broadcasting applicable remaining visited →
      ∀ visit ∈ visited, visit.registered = true ∨ s.holder = none →
        ∃ r, s.registrations[visit.controller]? = some r ∧ r.Told s.holder applicable)
    (hpool : ∀ agentId k, s.agents.lookup agentId = some k →
      ∃ r, s.registrations[k]? = some r ∧ r.phase ≠ .rejected) : AgreementInv s := by
  have habsurd : ∀ {P : Prop}, s.isConverted = true → P := by
    intro P h
    rw [hconverted] at h
    cases h
  exact ⟨habsurd, habsurd, hnothingRead, hvisited, hpool⟩

theorem convertToApplicableState (hinv : AgreementInv s) (hconverted : s.isConverted = false) :
    AgreementInv s.convertToApplicableState := by
  refine of_not_converted hconverted hinv.nothingRead ?_ hinv.pool
  intro applicable remaining visited hloop visit hvisit
  cases hloop
  cases hvisit

theorem tick (hinv : AgreementInv s) : AgreementInv s.tick := by
  unfold Reconciliation.tick
  split
  · split
    · exact hinv
    · rename_i hconverted
      exact hinv.convertToApplicableState (Bool.eq_false_iff.mpr hconverted)
  · exact hinv

theorem recv (hinv : AgreementInv s) : AgreementInv s.recv := by
  unfold Reconciliation.recv
  split
  · split
    · refine of_not_converted rfl hinv.nothingRead ?_ hinv.pool
      intro applicable remaining visited hloop
      cases hloop
    · refine AgreementInv.convertToApplicableState ?_ rfl
      exact of_not_converted rfl hinv.nothingRead hinv.visited hinv.pool
  · exact hinv

theorem shutdown (hinv : AgreementInv s) : AgreementInv s.shutdown := by
  unfold Reconciliation.shutdown
  split
  · refine ⟨fun _ => rfl, hinv.settled, hinv.nothingRead, ?_, hinv.pool⟩
    intro applicable remaining visited hloop
    cases hloop
  · exact hinv

/-- A visit is late enough if the registration of the agent is over or has nothing to read. -/
theorem phase_of_late (hinv : AgreementInv s) {agentId : String}
    (hlookup : s.agents.lookup agentId = some k) (hr : s.registrations[k]? = some r)
    (hlate : (match r.phase with | .registered => true | _ => false) = true ∨ s.holder = none) :
    r.phase = .registered ∨ (r.phase = .readingHolder ∧ s.holder = none) := by
  rcases hlate with hregistered | hholder
  · split at hregistered
    · rename_i hphase
      exact Or.inl hphase
    · cases hregistered
  · obtain ⟨r', hr', hrejected⟩ := hinv.pool agentId k hlookup
    cases hr.symm.trans hr'
    cases hphase : r.phase with
    | readingHolder => exact Or.inr ⟨rfl, hholder⟩
    | sending desiredState =>
      exact absurd hphase (hinv.nothingRead hholder r (List.mem_of_getElem? hr) desiredState)
    | registered => exact Or.inl rfl
    | rejected => exact absurd hphase hrejected

/-- The broadcast sends to an agent, which it told the state last whether or not it did so
before. -/
theorem visit (hinv : AgreementInv s) (agentId : String) (sent : Bool) :
    AgreementInv (s.visit agentId sent) := by
  unfold Reconciliation.visit
  split
  · rename_i applicable remaining visited k hloop hlookup
    have hconverted := hinv.not_converted hloop
    split
    · exact hinv
    · split
      · exact hinv
      · rename_i r hr
        split
        · refine of_not_converted hconverted ?_ ?_ ?_
          · intro hholder x hx
            rcases List.mem_or_eq_of_mem_set hx with hx | rfl
            · exact hinv.nothingRead hholder x hx
            · exact hinv.nothingRead hholder r (List.mem_of_getElem? hr)
          · intro applicable' remaining' visited' hloop' v hv hlate
            cases hloop'
            rcases List.mem_append.mp hv with hv | hv
            · refine exists_getElem?_set hr ?_ (fun _ h => h) (hinv.visited _ _ _ hloop v hv hlate)
              exact fun htold => ⟨htold.1, List.getLast?_concat ..⟩
            · rw [List.mem_singleton.mp hv] at hlate ⊢
              obtain ⟨hlt, -⟩ := List.getElem?_eq_some_iff.mp hr
              have hphase := hinv.phase_of_late hlookup hr hlate
              exact ⟨_, List.getElem?_set_self hlt, hphase, List.getLast?_concat ..⟩
          · intro agentId' j hlookup'
            refine exists_getElem?_set hr ?_ (fun _ h => h) (hinv.pool agentId' j hlookup')
            exact fun h => h
        · refine of_not_converted hconverted hinv.nothingRead ?_ hinv.pool
          intro applicable' remaining' visited' hloop'
          cases hloop'
  · exact hinv

/-- The holder is updated: an agent that did not read it yet will read the new state, and one that
was visited after its registration was told the new state. -/
theorem setHolder (hinv : AgreementInv s) (hguard : RegistrationsOrdered s .setHolder) :
    AgreementInv s.setHolder := by
  unfold Reconciliation.setHolder
  split
  · rename_i applicable visited hloop
    refine ⟨fun _ => rfl, fun _ => ⟨applicable, rfl, ?_⟩, fun h => (by cases h), ?_, hinv.pool⟩
    · intro agentId k hlookup
      unfold RegistrationsOrdered at hguard
      rw [hloop] at hguard
      obtain ⟨r, hr, -⟩ := hinv.pool agentId k hlookup
      refine ⟨r, hr, ?_⟩
      unfold AgentRegistration.Agrees
      rcases hguard (agentId, k) (mem_of_lookup_eq_some hlookup) r hr with hphase | hvisit
      · rw [hphase]
        trivial
      · obtain ⟨visit, hmem, hcontroller, hlate⟩ := hvisit
        obtain ⟨r', hr', hphase, hlast⟩ := hinv.visited _ _ _ hloop visit hmem
          (hlate.imp_right Option.isNone_iff_eq_none.mp)
        rw [hcontroller] at hr'
        cases hr.symm.trans hr'
        rcases hphase with hphase | ⟨hphase, -⟩
        · rw [hphase]
          exact hlast
        · rw [hphase]
          trivial
    · intro applicable' remaining' visited' hloop'
      cases hloop'
  · exact hinv

theorem write (hinv : AgreementInv s) (balancerDesiredState : BalancerDesiredState π) :
    AgreementInv (s.write balancerDesiredState) := by
  unfold Reconciliation.write
  split
  · exact hinv
  · exact ⟨hinv.idle, hinv.settled, hinv.nothingRead, hinv.visited, hinv.pool⟩

theorem notify (hinv : AgreementInv s) (store : Nat) : AgreementInv (s.notify store) := by
  unfold Reconciliation.notify
  split
  · exact hinv
  · simp only
    split
    · exact ⟨hinv.idle, hinv.settled, hinv.nothingRead, hinv.visited, hinv.pool⟩
    · exact ⟨hinv.idle, hinv.settled, hinv.nothingRead, hinv.visited, hinv.pool⟩

end AgreementInv

theorem agreementInv_step (hinv : AgreementInv s) (input : ReconciliationInput π)
    (hguard : RegistrationsOrdered s input) : AgreementInv (s.step input) := by
  cases input with
  | write balancerDesiredState => exact hinv.write balancerDesiredState
  | notify store => exact hinv.notify store
  | shutdown => exact hinv.shutdown
  | tick => exact hinv.tick
  | recv => exact hinv.recv
  | visit agentId sent => exact hinv.visit agentId sent
  | setHolder => exact hinv.setHolder hguard
  | registerAgent agentId => exact hinv.registerAgent hguard
  | readHolder k =>
    unfold Reconciliation.step
    simp only
    split
    · rename_i r hr
      exact hinv.readHolder hr
    · exact hinv
  | sendDesiredState k =>
    unfold Reconciliation.step
    simp only
    split
    · rename_i r hr
      exact hinv.sendDesiredState hr
    · exact hinv
  | removeAgent agentId => exact hinv.removeAgent agentId

/-- Between registrations, agreement is what the invariant says. -/
theorem AgreementInv.agreed (hinv : AgreementInv s) : Agreed s := by
  intro hconverted hdone
  obtain ⟨applicable, hholder, hall⟩ := hinv.settled hconverted
  refine ⟨applicable, hholder, fun agentId k hlookup => ?_⟩
  obtain ⟨r, hr, hagrees⟩ := hall agentId k hlookup
  refine ⟨r, hr, ?_⟩
  have hover := hdone r (List.mem_of_getElem? hr)
  unfold AgentRegistration.Agrees at hagrees
  unfold AgentRegistration.inProgress at hover
  split at hagrees
  · rename_i hphase
    rw [hphase] at hover
    cases hover
  · rename_i hphase
    rw [hphase] at hover
    cases hover
  · exact hagrees
  · exact hagrees.elim

/-! ## Whole runs -/

/-- **Desired-state agreement**, in every run in which no agent registers under an id that the pool
has and every agent in the pool is served by the holder or by the broadcast when the holder is
updated. -/
theorem setStates_agree (databaseType : StateDatabaseType) (capacity : Nat)
    (initial : BalancerDesiredState π)
    (h : Reaches Reconciliation.step RegistrationsOrdered
      (Reconciliation.new databaseType capacity initial) s) : Agreed s :=
  (h.invariant AgreementInv (agreementInv_new databaseType capacity initial)
    fun _ input _ hinv hguard => agreementInv_step hinv input hguard).agreed

instance [DecidableEq π] : DecidablePred (RegistrationsOrdered s) := fun input =>
  match input with
  | .registerAgent agentId => inferInstanceAs (Decidable (s.agents.lookup agentId = none))
  | .setHolder =>
    match hloop : s.loop with
    | .broadcasting _ [] visited =>
      decidable_of_iff (∀ entry ∈ s.agents, ∀ r ∈ s.registrations[entry.2]?,
        r.phase = .readingHolder ∨
          ∃ visit ∈ visited, visit.controller = entry.2 ∧
            (visit.registered = true ∨ s.holder.isNone = true))
        (by rw [RegistrationsOrdered, hloop])
    | .broadcasting _ (_ :: _) _ | .selecting | .returned _ =>
      isTrue (by rw [RegistrationsOrdered, hloop]; trivial)
  | .write _ | .notify _ | .shutdown | .tick | .recv | .visit .. | .readHolder _
  | .sendDesiredState _
  | .removeAgent _ => isTrue trivial

/-- A desired state with a model from the agent's disk. -/
def desiredModel (path : String) : BalancerDesiredState Unit :=
  ⟨none, (), .localToAgent path, .none, false⟩

/-- The first agent is registered before the broadcast of a stored state and the second one, which
joins meanwhile, reads the holder after it was updated. -/
def servedBoth : List (ReconciliationInput Unit) :=
  [.tick, .setHolder, .registerAgent "first", .readHolder 0, .sendDesiredState 0,
    .write (desiredModel "new"), .notify 0, .recv, .registerAgent "second",
    .visit "first" true, .setHolder, .readHolder 1, .sendDesiredState 1]

/-- Both agents were told the stored state last. -/
theorem setStates_agree_servedBoth :
    ((Reconciliation.new .file 128 (desiredModel "old")).run servedBoth).isConverted = true ∧
    ((Reconciliation.new .file 128 (desiredModel "old")).run servedBoth).registrations.map
      (·.setStates) = [[(desiredModel "old").toDesiredState, (desiredModel "new").toDesiredState],
        [(desiredModel "new").toDesiredState]] ∧
    Agreed ((Reconciliation.new .file 128 (desiredModel "old")).run servedBoth) := by
  refine ⟨by decide +kernel, by decide +kernel, setStates_agree .file 128 (desiredModel "old") ?_⟩
  exact Reaches.along servedBoth (by decide +kernel) .start

/-- An agent joins the pool after the broadcast visited every agent and reads the holder before it
is updated. -/
def servedByNeither : List (ReconciliationInput Unit) :=
  [.tick, .setHolder, .write (desiredModel "new"), .notify 0, .recv, .registerAgent "agent",
    .readHolder 0, .setHolder, .sendDesiredState 0]

/-- The agent is registered with the state that the holder had before. -/
theorem setStates_disagree :
    ((Reconciliation.new .file 128 (desiredModel "old")).run servedByNeither).isConverted = true ∧
    ((Reconciliation.new .file 128 (desiredModel "old")).run servedByNeither).registrations =
      [⟨.registered, [(desiredModel "old").toDesiredState]⟩] ∧
    ((Reconciliation.new .file 128 (desiredModel "old")).run servedByNeither).holder =
      some (desiredModel "new").toApplicableState ∧
    ¬ ∀ s : Reconciliation Unit, Reaches Reconciliation.step (fun _ _ => True)
      (.new .file 128 (desiredModel "old")) s → Agreed s := by
  refine ⟨by decide +kernel, by decide +kernel, by decide +kernel, fun hall => ?_⟩
  obtain ⟨applicable, hholder, htold⟩ :=
    hall _ (Reaches.runs servedByNeither (fun _ _ _ => trivial) .start)
    (by decide +kernel) (by decide +kernel)
  obtain ⟨r, hr, hlast⟩ := htold "agent" 0 (by decide +kernel)
  have hnew : some (desiredModel "new").toApplicableState = some applicable := hholder
  have hold : some ⟨.registered, [(desiredModel "old").toDesiredState]⟩ = some r := hr
  cases hnew
  cases hold
  exact absurd hlast (by decide +kernel)

end Paddler
