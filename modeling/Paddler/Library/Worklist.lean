import Mathlib.Data.List.Nodup

/-!
# What can be reached in a graph

A graph is a list of named nodes, and what a node refers to.  A worklist visits a name at most once,
and pushes what its node refers to; a name without a node stops it.

* `Reachable` — what is reached from a root over the references.
* `close` — the worklist; it ends because a node is visited once.
* `CloseInv` — what holds before every pop; `closeInv_visit`.
* `close_spec` — **the worklist visits exactly what can be reached**, or stops at a name that can be
  reached and has no node.
-/

set_option autoImplicit false

namespace Worklist

variable {κ α : Type} [DecidableEq κ]

/-- A graph. -/
structure NamedGraph (κ α : Type) where
  entries : List (κ × α)
  references : α → List κ

namespace NamedGraph

variable (graph : NamedGraph κ α)

/-- The node of a name. -/
def find (name : κ) : Option α := graph.entries.lookup name

/-- The references of the nodes that were not visited, and one pop for each of these nodes. -/
def weigh (visited : List (κ × α)) : List (κ × α) → Nat
  | [] => 0
  | entry :: entries =>
    (if visited.any (·.1 == entry.1) then 0 else (graph.references entry.2).length + 1) +
      weigh visited entries

def unvisited (visited : List (κ × α)) : Nat := graph.weigh visited graph.entries

end NamedGraph

/-- What is reached from the root. -/
inductive Reachable (graph : NamedGraph κ α) (root : κ) : κ → Prop where
  | root : Reachable graph root root
  | next {name target : κ} {node : α} : Reachable graph root name → graph.find name = some node →
      target ∈ graph.references node → Reachable graph root target

/-! ## The worklist -/

theorem weigh_visit (graph : NamedGraph κ α) (visited : List (κ × α)) (entry : κ × α)
    (entries : List (κ × α)) :
    graph.weigh (entry :: visited) entries ≤ graph.weigh visited entries := by
  induction entries with
  | nil => exact Nat.le_refl _
  | cons other entries ih =>
    unfold NamedGraph.weigh
    refine Nat.add_le_add ?_ ih
    rw [List.any_cons]
    cases visited.any (·.1 == other.1) with
    | true => exact Nat.le_of_eq (by rw [Bool.or_true])
    | false =>
      rw [Bool.or_false]
      split
      · exact Nat.zero_le _
      · exact Nat.le_refl _

theorem unvisited_visit {graph : NamedGraph κ α} {visited : List (κ × α)} {name : κ} {node : α}
    (hfresh : visited.any (·.1 == name) = false) (hnode : graph.find name = some node) :
    graph.unvisited ((name, node) :: visited) + ((graph.references node).length + 1) ≤
      graph.unvisited visited := by
  unfold NamedGraph.find at hnode
  unfold NamedGraph.unvisited
  generalize graph.entries = entries at hnode ⊢
  induction entries with
  | nil => cases hnode
  | cons entry entries ih =>
    rw [List.lookup_cons] at hnode
    unfold NamedGraph.weigh
    rw [List.any_cons]
    cases hname : name == entry.1 with
    | true =>
      -- the node itself
      rw [hname] at hnode
      cases hnode
      cases beq_iff_eq.mp hname
      have hless := weigh_visit graph visited (entry.1, entry.2) entries
      rw [hfresh, Bool.true_or, if_pos rfl]
      simp only [Bool.false_eq_true, if_false]
      omega
    | false =>
      rw [hname] at hnode
      have hless := ih hnode
      rw [Bool.false_or]
      omega

/-- The worklist: the name on top of `pending` is visited next. -/
def close (graph : NamedGraph κ α) (visited : List (κ × α)) (pending : List κ) :
    Except κ (List (κ × α)) :=
  match pending with
  | [] => .ok visited
  | name :: pending =>
    if _ : visited.any (·.1 == name) then close graph visited pending
    else
      match _ : graph.find name with
      | none => .error name
      | some node => close graph ((name, node) :: visited)
          ((graph.references node).reverse ++ pending)
termination_by graph.unvisited visited + pending.length
decreasing_by
  · exact Nat.add_lt_add_left (Nat.lt_succ_self _) _
  · rename_i hvisited hnode
    have hless := unvisited_visit (Bool.eq_false_iff.mpr hvisited) hnode
    rw [List.length_append, List.length_reverse, List.length_cons]
    omega

/-! ## What holds before every pop -/

/-- **The invariant of the worklist.** -/
structure CloseInv (graph : NamedGraph κ α) (root : κ) (visited : List (κ × α)) (pending : List κ) :
    Prop where
  nodup : (visited.map (·.1)).Nodup
  reached : ∀ entry ∈ visited, Reachable graph root entry.1 ∧ graph.find entry.1 = some entry.2
  waiting : ∀ name ∈ pending, Reachable graph root name
  covered : ∀ entry ∈ visited, ∀ target ∈ graph.references entry.2,
    target ∈ visited.map (·.1) ∨ target ∈ pending
  rooted : root ∈ visited.map (·.1) ∨ root ∈ pending

section Invariant

variable {graph : NamedGraph κ α} {root name : κ} {visited : List (κ × α)} {pending : List κ}

theorem closeInv_start (graph : NamedGraph κ α) (root : κ) : CloseInv graph root [] [root] where
  nodup := List.nodup_nil
  reached := fun entry hentry => by cases hentry
  waiting := fun name hname => by
    rw [List.mem_singleton.mp hname]
    exact .root
  covered := fun entry hentry => by cases hentry
  rooted := .inr (List.mem_singleton_self root)

theorem any_eq_true_iff : visited.any (·.1 == name) = true ↔ name ∈ visited.map (·.1) := by
  rw [List.any_eq_true, List.mem_map]
  constructor
  · rintro ⟨entry, hentry, hname⟩
    exact ⟨entry, hentry, beq_iff_eq.mp hname⟩
  · rintro ⟨entry, hentry, rfl⟩
    exact ⟨entry, hentry, beq_self_eq_true _⟩

theorem closeInv_skip (h : CloseInv graph root visited (name :: pending))
    (hname : name ∈ visited.map (·.1)) :
    CloseInv graph root visited pending where
  nodup := h.nodup
  reached := h.reached
  waiting := fun target htarget => h.waiting target (List.mem_cons_of_mem _ htarget)
  covered := by
    intro entry hentry target htarget
    rcases h.covered entry hentry target htarget with hseen | hpending
    · exact .inl hseen
    · rcases List.mem_cons.mp hpending with rfl | hpending
      · exact .inl hname
      · exact .inr hpending
  rooted := by
    rcases h.rooted with hseen | hpending
    · exact .inl hseen
    · rcases List.mem_cons.mp hpending with rfl | hpending
      · exact .inl hname
      · exact .inr hpending

/-- A name that was not visited is, and what it refers to comes next. -/
theorem closeInv_visit (h : CloseInv graph root visited (name :: pending))
    (hname : name ∉ visited.map (·.1)) {node : α} (hnode : graph.find name = some node) :
    CloseInv graph root ((name, node) :: visited) ((graph.references node).reverse ++ pending) := by
  have hreached := h.waiting name List.mem_cons_self
  have hlater : ∀ target, target ∈ visited.map (·.1) ∨ target ∈ name :: pending →
      target ∈ ((name, node) :: visited).map (·.1) ∨
      target ∈ (graph.references node).reverse ++ pending := by
    rintro target (hseen | hpending)
    · exact .inl (List.mem_cons_of_mem _ hseen)
    · rcases List.mem_cons.mp hpending with rfl | hpending
      · exact .inl List.mem_cons_self
      · exact .inr (List.mem_append_right _ hpending)
  refine
    { nodup := List.nodup_cons.mpr ⟨hname, h.nodup⟩
      reached := ?_
      waiting := ?_
      covered := ?_
      rooted := hlater root h.rooted }
  · intro entry hentry
    rcases List.mem_cons.mp hentry with rfl | hentry
    · exact ⟨hreached, hnode⟩
    · exact h.reached entry hentry
  · intro target htarget
    rcases List.mem_append.mp htarget with hreference | hpending
    · exact .next hreached hnode (List.mem_reverse.mp hreference)
    · exact h.waiting target (List.mem_cons_of_mem _ hpending)
  · intro entry hentry target htarget
    rcases List.mem_cons.mp hentry with rfl | hentry
    · exact .inr (List.mem_append_left _ (List.mem_reverse.mpr htarget))
    · exact hlater target (h.covered entry hentry target htarget)

/-- With nothing pending, what can be reached was visited. -/
theorem CloseInv.mem_of_reachable (h : CloseInv graph root visited [])
    (hname : Reachable graph root name) :
    name ∈ visited.map (·.1) := by
  induction hname with
  | root => exact h.rooted.resolve_right (List.not_mem_nil)
  | next hbefore hnode htarget ih =>
    obtain ⟨entry, hentry, rfl⟩ := List.mem_map.mp ih
    have hsame := (h.reached entry hentry).2
    rw [hnode] at hsame
    cases hsame
    exact (h.covered entry hentry _ htarget).resolve_right List.not_mem_nil

end Invariant

/-- What the worklist is for. -/
def CloseSpec (graph : NamedGraph κ α) (root : κ) : Except κ (List (κ × α)) → Prop
  | .ok visited => (visited.map (·.1)).Nodup ∧
      (∀ name, Reachable graph root name → (graph.find name).isSome = true) ∧
      ∀ name node, (name, node) ∈ visited ↔ Reachable graph root name ∧ graph.find name = some node
  | .error name => Reachable graph root name ∧ graph.find name = none

theorem close_inv {graph : NamedGraph κ α} {root : κ} (visited : List (κ × α)) (pending : List κ)
    (h : CloseInv graph root visited pending) :
    CloseSpec graph root (close graph visited pending) := by
  fun_induction close graph visited pending with
  | case1 visited =>
    refine ⟨h.nodup, fun name hname => ?_, fun name node =>
      ⟨h.reached (name, node), fun hreached => ?_⟩⟩
    · obtain ⟨entry, hentry, rfl⟩ := List.mem_map.mp (h.mem_of_reachable hname)
      rw [(h.reached entry hentry).2]
      rfl
    · obtain ⟨entry, hentry, rfl⟩ := List.mem_map.mp (h.mem_of_reachable hreached.1)
      have hsame := (h.reached entry hentry).2
      rw [hreached.2] at hsame
      cases hsame
      exact hentry
  | case2 visited name pending hvisited ih =>
    exact ih (closeInv_skip h (any_eq_true_iff.mp hvisited))
  | case3 visited name pending hvisited hnode => exact ⟨h.waiting name List.mem_cons_self, hnode⟩
  | case4 visited name pending hvisited node hnode ih =>
    exact ih (closeInv_visit h (fun hmem => hvisited (any_eq_true_iff.mpr hmem)) hnode)

/-- **The worklist is exact.** -/
theorem close_spec (graph : NamedGraph κ α) (root : κ) :
    CloseSpec graph root (close graph [] [root]) :=
  close_inv [] [root] (closeInv_start graph root)

end Worklist
