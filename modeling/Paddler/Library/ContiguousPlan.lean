import Mathlib.Data.List.Infix

/-!
# Cutting a list into contiguous parts

A list is cut into parts that lie next to each other, and each part has to fit.  Fitting is any
property that a part of a fitting list has too.

* `GreedyMaximal` — no part could have taken the first element of the part after it.
* `length_le_of_greedyMaximal` — **a greedy-maximal cut is a shortest one**.  The cut stays ahead:
  whatever the other cut has covered after so many parts, the greedy one has covered as well.
* `Contiguous.length_le` — the same for a cut that is given by ranges of indices.
-/

set_option autoImplicit false

namespace ContiguousPlan

variable {α : Type} {fits : List α → Prop}

/-- Every part of a fitting list fits. -/
def Hereditary (fits : List α → Prop) : Prop :=
  ∀ xs ys : List α, xs <:+: ys → fits ys → fits xs

/-- No part fits together with the first element of the part after it. -/
def GreedyMaximal (fits : List α → Prop) (parts : List (List α)) : Prop :=
  parts.IsChain fun part next => ∀ x, next.head? = some x → ¬ fits (part ++ [x])

theorem GreedyMaximal.tail {part : List α} {parts : List (List α)}
    (h : GreedyMaximal fits (part :: parts)) : GreedyMaximal fits parts :=
  List.IsChain.of_cons h

/-- A list that is longer than a greedy part, from the same place or from further back, does not
fit. -/
theorem GreedyMaximal.not_fits {before part rest : List α} {parts : List (List α)} {x : α}
    (hfits : Hereditary fits) (h : GreedyMaximal fits (part :: parts)) (hne : ∀ p ∈ parts, p ≠ [])
    (hrest : parts.flatten = x :: rest) (after : List α) :
    ¬ fits (before ++ part ++ x :: after) := by
  cases parts with
  | nil => cases hrest
  | cons next parts =>
    obtain ⟨y, next, rfl⟩ := List.exists_cons_of_ne_nil (hne next (List.mem_cons_self ..))
    have hxy : y = x := by
      rw [List.flatten_cons, List.cons_append] at hrest
      exact (List.cons.inj hrest).1
    subst hxy
    intro hlong
    refine (List.isChain_cons_cons.mp h).1 y rfl (hfits _ _ ⟨before, after, ?_⟩ hlong)
    simp

/-- The greedy cut stays ahead: `before` is what the other cut still has to cover and the greedy one
does not. -/
theorem length_le_of_ahead (hfits : Hereditary fits) :
    ∀ {others parts : List (List α)} {before : List α},
      GreedyMaximal fits parts → (∀ p ∈ parts, p ≠ []) → (∀ p ∈ others, fits p) →
      others.flatten = before ++ parts.flatten → parts.length ≤ others.length
  | others, [], _, _, _, _, _ => Nat.zero_le _
  | [], part :: parts, before, _, hne, _, hcover => by
    have hnil : part = [] := by
      have h := congrArg List.length hcover
      simp only [List.flatten_nil, List.length_nil, List.length_append, List.flatten_cons] at h
      exact List.length_eq_zero_iff.mp (by omega)
    exact absurd hnil (hne part (List.mem_cons_self ..))
  | other :: others, part :: parts, before, hgreedy, hne, hothers, hcover => by
    have hne' : ∀ p ∈ parts, p ≠ [] := fun p hp => hne p (List.mem_cons_of_mem _ hp)
    have hothers' : ∀ p ∈ others, fits p := fun p hp => hothers p (List.mem_cons_of_mem _ hp)
    rw [List.flatten_cons, List.flatten_cons, ← List.append_assoc] at hcover
    have hahead : ∃ before', others.flatten = before' ++ parts.flatten := by
      rcases List.append_eq_append_iff.mp hcover with ⟨before', -, hrest⟩ | ⟨beyond, hother, hrest⟩
      · exact ⟨before', hrest⟩
      · cases beyond with
        | nil => exact ⟨[], hrest.symm⟩
        | cons x beyond =>
          -- the other part covers more than the greedy one, so the greedy one could have taken `x`
          have hlong := hothers other (List.mem_cons_self ..)
          rw [hother] at hlong
          exact absurd hlong (hgreedy.not_fits hfits hne' hrest beyond)
    obtain ⟨before', hcover'⟩ := hahead
    exact Nat.succ_le_succ (length_le_of_ahead hfits hgreedy.tail hne' hothers' hcover')

/-- **A greedy-maximal cut is a shortest one.** -/
theorem length_le_of_greedyMaximal (hfits : Hereditary fits) {parts others : List (List α)}
    (hgreedy : GreedyMaximal fits parts) (hne : ∀ p ∈ parts, p ≠ [])
    (hothers : ∀ p ∈ others, fits p) (hcover : others.flatten = parts.flatten) :
    parts.length ≤ others.length := by
  have hahead : others.flatten = [] ++ parts.flatten := hcover
  exact length_le_of_ahead hfits hgreedy hne hothers hahead

/-! ## Cuts given by ranges -/

/-- Half-open ranges of indices that lie next to each other, from `start` to `stop`. -/
def Contiguous : Nat → List (Nat × Nat) → Nat → Prop
  | start, [], stop => start = stop
  | start, range :: ranges, stop =>
    range.1 = start ∧ range.1 ≤ range.2 ∧ Contiguous range.2 ranges stop

theorem Contiguous.le : ∀ {ranges : List (Nat × Nat)} {start stop : Nat},
    Contiguous start ranges stop → start ≤ stop
  | [], _, _, h => Nat.le_of_eq h
  | range :: ranges, start, stop, ⟨hstart, hle, h⟩ => by
    have := h.le
    omega

theorem Contiguous.head_start {start stop : Nat} {ranges : List (Nat × Nat)}
    (h : Contiguous start ranges stop) {range : Nat × Nat} (hrange : range ∈ ranges.head?) :
    range.1 = start := by
  cases ranges with
  | nil => cases hrange
  | cons first ranges =>
    cases Option.some.inj hrange
    exact h.1

theorem Contiguous.mem_bounds : ∀ {ranges : List (Nat × Nat)} {start stop : Nat},
    Contiguous start ranges stop → ∀ range ∈ ranges, start ≤ range.1 ∧ range.1 ≤ range.2 ∧
    range.2 ≤ stop
  | range :: ranges, start, stop, ⟨hstart, hle, h⟩, other, hother => by
    rcases List.mem_cons.mp hother with rfl | hother
    · exact ⟨Nat.le_of_eq hstart.symm, hle, h.le⟩
    · have := h.mem_bounds other hother
      omega

theorem extract_append_extract (xs : List α) {i j k : Nat} (hij : i ≤ j) (hjk : j ≤ k) :
    xs.extract i j ++ xs.extract j k = xs.extract i k := by
  have hdrop : xs.drop j = (xs.drop i).drop (j - i) := by
    rw [List.drop_drop]
    congr 1
    omega
  have hsize : k - i = (j - i) + (k - j) := by omega
  rw [List.extract_eq_take_drop, List.extract_eq_take_drop, List.extract_eq_take_drop, hdrop, hsize,
    List.take_add]

/-- The slices of contiguous ranges are the slice from end to end. -/
theorem Contiguous.flatten_extract (xs : List α) : ∀ {ranges : List (Nat × Nat)} {start stop : Nat},
    Contiguous start ranges stop →
      (ranges.map fun range => xs.extract range.1 range.2).flatten = xs.extract start stop
  | [], start, stop, h => by
    subst h
    simp
  | range :: ranges, start, stop, ⟨hstart, hle, h⟩ => by
    subst hstart
    rw [List.map_cons, List.flatten_cons, h.flatten_extract xs]
    exact extract_append_extract xs hle h.le

theorem extract_succ (xs : List α) {i j : Nat} {x : α} (hij : i ≤ j) (hx : xs[j]? = some x) :
    xs.extract i j ++ [x] = xs.extract i (j + 1) := by
  have hone : xs.extract j (j + 1) = [x] := by
    rw [List.extract_eq_take_drop, Nat.add_sub_cancel_left, List.take_one, List.head?_drop, hx]
    rfl
  rw [← hone]
  exact extract_append_extract xs hij (Nat.le_succ j)

/-- Ranges of which none could have taken one more element make a greedy-maximal cut. -/
theorem Contiguous.greedyMaximal {xs : List α} : ∀ {ranges : List (Nat × Nat)} {start stop : Nat},
    Contiguous start ranges stop →
    (ranges.IsChain fun range next => ¬ fits (xs.extract range.1 (next.1 + 1))) →
    GreedyMaximal fits (ranges.map fun range => xs.extract range.1 range.2)
  | [], _, _, _, _ => List.IsChain.nil
  | [_], _, _, _, _ => List.IsChain.singleton _
  | range :: next :: ranges, start, stop, ⟨hstart, hle, h⟩, hchain => by
    obtain ⟨hmax, hchain⟩ := List.isChain_cons_cons.mp hchain
    refine List.isChain_cons_cons.mpr ⟨fun x hx => ?_, h.greedyMaximal hchain⟩
    have hnext : next.1 = range.2 := h.1
    have hget : xs[range.2]? = some x := by
      dsimp only at hx
      rw [List.extract_eq_take_drop, List.head?_take] at hx
      split at hx
      · cases hx
      · rw [List.head?_drop, hnext] at hx
        exact hx
    rw [extract_succ xs hle hget, ← hnext]
    exact hmax

/-- **Ranges of which none could have taken one more element are as few as can be.** -/
theorem Contiguous.length_le (hfits : Hereditary fits) {xs : List α} {start stop : Nat}
    {ranges others : List (Nat × Nat)} (h : Contiguous start ranges stop) (hstop : stop ≤ xs.length)
    (hne : ∀ range ∈ ranges, range.1 < range.2)
    (hmax : ranges.IsChain fun range next => ¬ fits (xs.extract range.1 (next.1 + 1)))
    (hcover : Contiguous start others stop)
    (hothers : ∀ range ∈ others, fits (xs.extract range.1 range.2)) :
    ranges.length ≤ others.length := by
  have hparts : ∀ part ∈ ranges.map fun range => xs.extract range.1 range.2, part ≠ [] := by
    refine List.forall_mem_map.mpr fun range hrange hnil => ?_
    have hlen := congrArg List.length hnil
    have hlt := hne range hrange
    have hbounds := h.mem_bounds range hrange
    rw [List.extract_eq_take_drop, List.length_take, List.length_drop, List.length_nil] at hlen
    omega
  have hflatten := (hcover.flatten_extract xs).trans (h.flatten_extract xs).symm
  have hle := length_le_of_greedyMaximal hfits (h.greedyMaximal hmax) hparts
    (List.forall_mem_map.mpr hothers) hflatten
  rwa [List.length_map, List.length_map] at hle

end ContiguousPlan
