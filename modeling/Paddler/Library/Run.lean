/-!
# Runs of a machine

A machine is a step function on states and inputs.  `Reaches` are the states of its runs from
`init` in which every step satisfies a guard; the guard `fun _ _ => True` gives all runs.

* `Reaches.invariant` — what holds initially and is kept by every guarded step holds in every
  state reached.
* `Reaches.weaken` — fewer runs under a stronger guard.
* `Reaches.runs`, `Reaches.along` — a list of inputs is a run.
* `Along.relates` — two runs over inputs that look alike stay related.
* `Along.terminates` — a run whose steps lower a measure has at most as many steps as the measure
  says; `Along.boundsMoves` counts only some of its steps.
-/

set_option autoImplicit false

namespace Run

variable {σ ι : Type}

/-- The states reached from `init` by steps that satisfy `guard`. -/
inductive Reaches (step : σ → ι → σ) (guard : σ → ι → Prop) (init : σ) : σ → Prop where
  | start : Reaches step guard init init
  | next {s : σ} {i : ι} : Reaches step guard init s → guard s i → Reaches step guard init (step s i)

/-- The inputs satisfy the guard one after the other, from `s` on. -/
def Along (step : σ → ι → σ) (guard : σ → ι → Prop) : List ι → σ → Prop
  | [], _ => True
  | i :: inputs, s => guard s i ∧ Along step guard inputs (step s i)

/-- A guard that can be decided can be decided along a list of inputs. -/
instance Along.decidable {step : σ → ι → σ} {guard : σ → ι → Prop}
    [hguard : ∀ s i, Decidable (guard s i)] :
    ∀ (inputs : List ι) (s : σ), Decidable (Along step guard inputs s)
  | [], _ => isTrue trivial
  | i :: inputs, s =>
    match hguard s i, Along.decidable inputs (step s i) with
    | isTrue hi, isTrue hrest => isTrue ⟨hi, hrest⟩
    | isFalse hi, _ => isFalse fun h => hi h.1
    | _, isFalse hrest => isFalse fun h => hrest h.2

theorem Along.replicate {step : σ → ι → σ} {guard : σ → ι → Prop} (i : ι) :
    ∀ (n : Nat) {s : σ}, (∀ k < n, guard ((List.replicate k i).foldl step s) i) →
      Along step guard (List.replicate n i) s
  | 0, _, _ => trivial
  | n + 1, _, h => ⟨h 0 (Nat.succ_pos n), replicate i n fun k hk => h (k + 1) (Nat.succ_lt_succ hk)⟩

theorem Along.of_prefix {step : σ → ι → σ} {guard : σ → ι → Prop} :
    ∀ {before inputs : List ι} {s : σ}, before <+: inputs → Along step guard inputs s →
      Along step guard before s
  | [], _, _, _, _ => trivial
  | i :: before, [], _, hprefix, _ =>
    absurd (List.prefix_nil.mp hprefix) (List.cons_ne_nil i before)
  | _ :: _, _ :: _, _, hprefix, h => by
    obtain ⟨rfl, hrest⟩ := List.cons_prefix_cons.mp hprefix
    exact ⟨h.1, of_prefix hrest h.2⟩

/-- A run that satisfies two guards satisfies what they give, in states in which an invariant
holds. -/
theorem Along.transfer {step : σ → ι → σ} {guard guard' guard'' : σ → ι → Prop} (Inv : σ → Prop)
    (hstep : ∀ s i, Inv s → guard s i → guard' s i → guard'' s i ∧ Inv (step s i)) :
    ∀ {inputs : List ι} {s : σ}, Inv s → Along step guard inputs s → Along step guard' inputs s →
      Along step guard'' inputs s
  | [], _, _, _, _ => trivial
  | i :: _, s, hs, h, h' => by
    obtain ⟨hguard, hnext⟩ := hstep s i hs h.1 h'.1
    exact ⟨hguard, transfer Inv hstep hnext h.2 h'.2⟩

/-- **Two runs side by side.**  If inputs that look alike keep a relation, it relates the states
after two lists of inputs that look alike. -/
theorem Along.relates {μ : Type} {step : σ → ι → σ} {guard : σ → ι → Prop} {mask : ι → μ}
    (R : σ → σ → Prop)
    (hstep : ∀ s s' i i', R s s' → mask i = mask i' → guard s i → guard s' i' →
      R (step s i) (step s' i')) :
    ∀ (inputs inputs' : List ι) {s s' : σ}, inputs.map mask = inputs'.map mask → R s s' →
      Along step guard inputs s → Along step guard inputs' s' →
      R (inputs.foldl step s) (inputs'.foldl step s')
  | [], [], _, _, _, hR, _, _ => hR
  | [], _ :: _, _, _, hmask, _, _, _ => by cases hmask
  | _ :: _, [], _, _, hmask, _, _, _ => by cases hmask
  | i :: inputs, i' :: inputs', s, s', hmask, hR, h, h' => by
    rw [List.map_cons, List.map_cons, List.cons.injEq] at hmask
    exact relates R hstep inputs inputs' hmask.2 (hstep s s' i i' hR hmask.1 h.1 h'.1) h.2 h'.2

/-- **Termination.**  If every guarded step from an invariant state lowers a measure, a run is at
most as long as the measure was. -/
theorem Along.terminates {step : σ → ι → σ} {guard : σ → ι → Prop} (Inv : σ → Prop)
    (measure : σ → Nat) (hstep : ∀ s i, Inv s → guard s i → Inv (step s i) ∧
      measure (step s i) < measure s) :
    ∀ (inputs : List ι) {s : σ}, Inv s → Along step guard inputs s →
      Inv (inputs.foldl step s) ∧ inputs.length + measure (inputs.foldl step s) ≤ measure s
  | [], s, hs, _ => ⟨hs, by simp⟩
  | i :: inputs, s, hs, h => by
    obtain ⟨hnext, hless⟩ := hstep s i hs h.1
    obtain ⟨hend, hle⟩ := terminates Inv measure hstep inputs hnext h.2
    refine ⟨hend, ?_⟩
    rw [List.length_cons, List.foldl_cons]
    omega

/-- **Termination among others.**  If the moves of a run lower a measure that its other steps do not
raise, it has at most as many moves as the measure says. -/
theorem Along.boundsMoves {step : σ → ι → σ} {guard : σ → ι → Prop} {moves : ι → Bool}
    (Inv : σ → Prop) (measure : σ → Nat)
    (hstep : ∀ s i, Inv s → guard s i → Inv (step s i) ∧
      (moves i = true → measure (step s i) < measure s) ∧ measure (step s i) ≤ measure s) :
    ∀ (inputs : List ι) {s : σ}, Inv s → Along step guard inputs s →
      Inv (inputs.foldl step s) ∧
        (inputs.filter moves).length + measure (inputs.foldl step s) ≤ measure s
  | [], s, hs, _ => ⟨hs, by simp⟩
  | i :: inputs, s, hs, h => by
    obtain ⟨hnext, hless, hle⟩ := hstep s i hs h.1
    obtain ⟨hend, hbound⟩ := boundsMoves Inv measure hstep inputs hnext h.2
    refine ⟨hend, ?_⟩
    rw [List.foldl_cons]
    cases hmoves : moves i with
    | true =>
      have hdown := hless hmoves
      rw [List.filter_cons_of_pos hmoves, List.length_cons]
      omega
    | false =>
      rw [List.filter_cons_of_neg (by simp [hmoves])]
      omega

namespace Reaches

variable {step : σ → ι → σ} {guard : σ → ι → Prop} {init : σ}

/-- **The invariant rule.** -/
theorem invariant (Inv : σ → Prop) (hinit : Inv init)
    (hstep : ∀ s i, Reaches step guard init s → Inv s → guard s i → Inv (step s i)) {s : σ}
    (h : Reaches step guard init s) : Inv s := by
  induction h with
  | start => exact hinit
  | next hs hg ih => exact hstep _ _ hs ih hg

theorem weaken {guard' : σ → ι → Prop} (hguard : ∀ s i, guard s i → guard' s i) {s : σ}
    (h : Reaches step guard init s) : Reaches step guard' init s := by
  induction h with
  | start => exact .start
  | next _ hg ih => exact .next ih (hguard _ _ hg)

/-- A list of inputs that satisfy the guard in every state is a run. -/
theorem runs {guard : σ → ι → Prop} :
    ∀ (inputs : List ι), (∀ i ∈ inputs, ∀ s, guard s i) → ∀ {s : σ}, Reaches step guard init s →
      Reaches step guard init (inputs.foldl step s)
  | [], _, _, h => h
  | i :: inputs, hguard, s, h =>
    runs inputs (fun j hj => hguard j (List.mem_cons_of_mem _ hj))
      (.next h (hguard i (List.mem_cons_self ..) s))

/-- A list of inputs that satisfy the guard along the way is a run. -/
theorem along : ∀ (inputs : List ι) {s : σ}, Along step guard inputs s → Reaches step guard init s →
      Reaches step guard init (inputs.foldl step s)
  | [], _, _, h => h
  | _ :: inputs, _, hguard, h => along inputs hguard.2 (.next h hguard.1)

end Reaches

end Run
