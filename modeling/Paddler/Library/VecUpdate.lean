import Mathlib.Data.List.Perm.Basic

/-!
# Index-addressed updates of a vector

Loops that first select entries of a vector and later write to them by index, and removal by
swapping with the last entry.  Nothing here depends on what the vectors hold.

* `selected` — the (index, value) pairs a scan over a vector collects.
* `updateAll` — the writes of a list of (index, value) pairs, in order.
* `updateAll_selected` — a scan followed by its writes is one pointwise map.
* `mem_selected_iff`, `selected_fst_nodup` — a scan collects each entry that holds a value, and each
  once.
* `filter_flatten_of_keyed` — in a concatenation of segments with pairwise different keys, the
  entries with one key are exactly that key's segment.
* `swapRemove` — `Vec::swap_remove`.
* `getElem?_set_cases`, `getElem?_push_cases`, `exists_getElem?_set`, `exists_getElem?_push`,
  `countP_set_add` — reading and counting after one write.
* `flatMap_set_perm`, `flatMap_filter_set_last`, `flatMap_filter_set_same`, `filter_set_neither` —
  what the entries hold together, after one entry got more.
* `getElem?_insertIdx_afterInsert`, `set_insertIdx`, `insertIdx_push` — reading and writing next to
  an entry that was inserted.
-/

set_option autoImplicit false

namespace VecUpdate

variable {α β κ : Type}

/-- The entries of `ps` that hold a value, with their indices counted from `k`. -/
def selected : List (Option β) → Nat → List (Nat × β)
  | [], _ => []
  | none :: ps, k => selected ps (k + 1)
  | some b :: ps, k => (k, b) :: selected ps (k + 1)

/-- Write to the indexed entries, in order. -/
def updateAll (f : β → α → α) (updates : List (Nat × β)) (xs : List α) : List α :=
  updates.foldl (fun xs u => xs.modify u.1 (f u.2)) xs

/-- One entry, written if a value was selected for it. -/
def updateOne (f : β → α → α) (x : α) (p : Option β) : α := p.elim x fun b => f b x

theorem modify_length_append (pre : List α) (x : α) (xs : List α) (f : α → α) :
    (pre ++ x :: xs).modify pre.length f = pre ++ f x :: xs := by
  induction pre with
  | nil => rfl
  | cons y pre ih => simp [ih]

theorem updateAll_selected_append (f : β → α → α) :
    ∀ (ps : List (Option β)) (pre xs : List α), ps.length = xs.length →
      updateAll f (selected ps pre.length) (pre ++ xs) = pre ++ List.zipWith (updateOne f) xs ps
  | [], pre, xs, h => by
    have : xs = [] := List.length_eq_zero_iff.mp h.symm
    simp [this, selected, updateAll]
  | p :: ps, pre, [], h => by simp at h
  | none :: ps, pre, x :: xs, h => by
    have ih := updateAll_selected_append f ps (pre ++ [x]) xs (by simpa using h)
    simpa [selected, updateOne] using ih
  | some b :: ps, pre, x :: xs, h => by
    have ih := updateAll_selected_append f ps (pre ++ [f b x]) xs (by simpa using h)
    have hstep : updateAll f (selected (some b :: ps) pre.length) (pre ++ x :: xs) =
        updateAll f (selected ps (pre.length + 1)) (pre ++ f b x :: xs) := by
      simp [selected, updateAll, modify_length_append]
    rw [hstep]
    simpa [updateOne] using ih

/-- **A scan followed by its writes is a pointwise map.** -/
theorem updateAll_selected (f : β → α → α) {ps : List (Option β)} {xs : List α}
    (h : ps.length = xs.length) :
    updateAll f (selected ps 0) xs = List.zipWith (updateOne f) xs ps := by
  simpa using updateAll_selected_append f ps [] xs h

theorem selected_eq_nil {ps : List (Option β)} {k : Nat} :
    selected ps k = [] ↔ ∀ p ∈ ps, p = none := by
  induction ps generalizing k with
  | nil => simp [selected]
  | cons p ps ih =>
    cases p with
    | none => simp [selected, ih]
    | some b => simp [selected]

theorem mem_selected {ps : List (Option β)} {k i : Nat} {b : β} (h : (i, b) ∈ selected ps k) :
    k ≤ i ∧ ps[i - k]? = some (some b) := by
  induction ps generalizing k with
  | nil => simp [selected] at h
  | cons p ps ih =>
    have tail : (i, b) ∈ selected ps (k + 1) → k ≤ i ∧ (p :: ps)[i - k]? = some (some b) := by
      intro hm
      obtain ⟨hle, hget⟩ := ih hm
      have hidx : i - k = (i - (k + 1)) + 1 := by omega
      exact ⟨by omega, by rw [hidx, List.getElem?_cons_succ]; exact hget⟩
    cases p with
    | none => exact tail h
    | some c =>
      simp only [selected, List.mem_cons, Prod.mk.injEq] at h
      rcases h with ⟨rfl, rfl⟩ | h
      · exact ⟨Nat.le_refl _, by simp⟩
      · exact tail h

theorem mem_selected_of_getElem? {ps : List (Option β)} {k i : Nat} {b : β}
    (h : ps[i]? = some (some b)) :
    (k + i, b) ∈ selected ps k := by
  induction ps generalizing k i with
  | nil => simp at h
  | cons p ps ih =>
    cases i with
    | zero =>
      rw [List.getElem?_cons_zero, Option.some.injEq] at h
      subst h
      exact List.mem_cons_self
    | succ i =>
      have hmem : (k + (i + 1), b) ∈ selected ps (k + 1) := by
        have htail := ih (k := k + 1) (by simpa using h)
        rwa [Nat.add_right_comm, Nat.add_assoc] at htail
      cases p with
      | none => exact hmem
      | some c => exact List.mem_cons_of_mem _ hmem

/-- A scan collects exactly the entries that hold a value. -/
theorem mem_selected_iff {ps : List (Option β)} {i : Nat} {b : β} :
    (i, b) ∈ selected ps 0 ↔ ps[i]? = some (some b) := by
  constructor
  · intro h
    simpa using (mem_selected h).2
  · intro h
    simpa using mem_selected_of_getElem? (k := 0) h

theorem selected_fst_nodup (ps : List (Option β)) (k : Nat) :
    ((selected ps k).map Prod.fst).Nodup := by
  induction ps generalizing k with
  | nil => exact List.nodup_nil
  | cons p ps ih =>
    cases p with
    | none => exact ih (k + 1)
    | some b =>
      refine List.nodup_cons.mpr ⟨fun hmem => ?_, ih (k + 1)⟩
      obtain ⟨⟨i, c⟩, hi, hik⟩ := List.mem_map.mp hmem
      have hle := (mem_selected hi).1
      dsimp only at hik
      omega

/-! ## Keyed segments -/

theorem filter_flatten_eq_nil [DecidableEq κ] (key : α → κ) {k : κ} {ks : List κ}
    {segments : List (List α)}
    (hkeyed : List.Forall₂ (fun k segment => ∀ a ∈ segment, key a = k) ks segments) (hk : k ∉ ks) :
    segments.flatten.filter (fun a => key a == k) = [] := by
  induction hkeyed with
  | nil => rfl
  | cons hseg _ ih =>
    rename_i k' segment ks segments
    simp only [List.mem_cons, not_or] at hk
    rw [List.flatten_cons, List.filter_append, ih hk.2, List.append_nil]
    refine List.filter_eq_nil_iff.mpr fun a ha => ?_
    rw [hseg a ha]
    simpa using fun e => hk.1 e.symm

/-- **Segments with pairwise different keys can be told apart in their concatenation.** -/
theorem filter_flatten_of_keyed [DecidableEq κ] (key : α → κ) {ks : List κ}
    {segments : List (List α)} (hnodup : ks.Nodup)
    (hkeyed : List.Forall₂ (fun k segment => ∀ a ∈ segment, key a = k) ks segments) :
    List.Forall₂ (fun k segment => segments.flatten.filter (fun a => key a == k) = segment)
      ks segments := by
  induction hkeyed with
  | nil => exact .nil
  | cons hseg hrest ih =>
    rename_i k segment ks segments
    rw [List.nodup_cons] at hnodup
    refine .cons ?_ ?_
    · rw [List.flatten_cons, List.filter_append, filter_flatten_eq_nil key hrest hnodup.1,
        List.append_nil]
      exact List.filter_eq_self.mpr fun a ha => by simp [hseg a ha]
    · have hmem : ∀ k' ∈ ks, (segment ++ segments.flatten).filter (fun a => key a == k') =
          segments.flatten.filter (fun a => key a == k') := by
        intro k' hk'
        have hne : k ≠ k' := fun e => hnodup.1 (e ▸ hk')
        rw [List.filter_append, List.filter_eq_nil_iff.mpr, List.nil_append]
        intro a ha
        rw [hseg a ha]
        simpa using hne
      have ih' := ih hnodup.2
      rw [List.flatten_cons]
      refine List.forall₂_iff_get.mpr ⟨ih'.length_eq, fun i h₁ h₂ => ?_⟩
      rw [hmem _ (List.get_mem ks ⟨i, h₁⟩)]
      exact (List.forall₂_iff_get.mp ih').2 i h₁ h₂

/-! ## Swap removal -/

/-- `Vec::swap_remove`: the removed entry and the vector in which the last entry took its place. -/
def swapRemove (xs : List α) (i : Nat) : Option (α × List α) :=
  match xs[i]? with
  | none => none
  | some x => some (x, (match xs.getLast? with
    | none => xs
    | some last => xs.set i last).dropLast)

/-- Removal by swapping keeps every other entry, up to order. -/
theorem swapRemove_perm {xs ys : List α} {i : Nat} {x : α} (h : swapRemove xs i = some (x, ys)) :
    xs.Perm (x :: ys) := by
  unfold swapRemove at h
  split at h
  · cases h
  · rename_i y hy
    obtain ⟨hi, hyx⟩ := List.getElem?_eq_some_iff.mp hy
    rcases List.eq_nil_or_concat xs with rfl | ⟨init, last, hxs⟩
    · simp at hi
    · rw [List.concat_eq_append] at hxs
      subst hxs
      simp only [List.getLast?_concat, Option.some.injEq, Prod.mk.injEq] at h
      obtain ⟨rfl, rfl⟩ := h
      simp only [List.length_append, List.length_singleton] at hi
      by_cases hlast : i = init.length
      · subst hlast
        have : y = last := by simpa using hyx.symm
        subst this
        rw [List.set_append_right _ _ (Nat.le_refl _)]
        simp
      · have hlt : i < init.length := by omega
        rw [List.set_append_left _ _ hlt, List.dropLast_concat]
        rw [List.getElem_append_left hlt] at hyx
        have hperm := List.set_perm_cons_eraseIdx hlt last
        have herase := List.getElem_cons_eraseIdx_perm hlt
        rw [hyx] at herase
        calc List.Perm (init ++ [last]) (last :: init) := List.perm_append_singleton _ _
          List.Perm _ (last :: y :: init.eraseIdx i) := (herase.symm).cons _
          List.Perm _ (y :: last :: init.eraseIdx i) := List.Perm.swap _ _ _
          List.Perm _ (y :: init.set i last) := (hperm.symm).cons _

theorem swapRemove_length {xs ys : List α} {i : Nat} {x : α} (h : swapRemove xs i = some (x, ys)) :
    xs.length = ys.length + 1 := by
  simpa using (swapRemove_perm h).length_eq

/-- What is in front of the removed entry stays where it is. -/
theorem swapRemove_take {xs ys : List α} {i : Nat} {x : α} (h : swapRemove xs i = some (x, ys)) :
    ys.take i = xs.take i := by
  unfold swapRemove at h
  split at h
  · cases h
  · rename_i y hy
    obtain ⟨hi, -⟩ := List.getElem?_eq_some_iff.mp hy
    rw [List.getLast?_eq_some_getLast (List.ne_nil_of_length_pos (Nat.zero_lt_of_lt hi))] at h
    cases h
    rw [List.dropLast_eq_take, List.length_set, List.take_take,
      Nat.min_eq_left (Nat.le_sub_one_of_lt hi), List.take_set_of_le (Nat.le_refl i)]

theorem swapRemove_isSome {xs : List α} {i : Nat} (h : i < xs.length) :
    ∃ x ys, swapRemove xs i = some (x, ys) ∧ xs[i]? = some x := by
  unfold swapRemove
  rw [List.getElem?_eq_getElem h]
  exact ⟨_, _, rfl, rfl⟩

/-- Removing an entry that was just written keeps every other entry as it was before the write. -/
theorem swapRemove_modify_perm {xs ys : List α} {i : Nat} {x y : α} {f : α → α}
    (hx : xs[i]? = some x) (h : swapRemove (xs.modify i f) i = some (y, ys)) :
    xs.Perm (x :: ys) := by
  obtain ⟨hi, hxi⟩ := List.getElem?_eq_some_iff.mp hx
  have hlen : i < (xs.modify i f).length := by rwa [List.length_modify]
  have hwritten : (xs.modify i f)[i] = y := by
    obtain ⟨z, zs, hswap, hz⟩ := swapRemove_isSome hlen
    rw [h] at hswap
    cases hswap
    exact (List.getElem?_eq_some_iff.mp hz).2
  have hothers : (xs.modify i f).eraseIdx i = xs.eraseIdx i := List.eraseIdx_modify_of_eq f i xs
  have hmodified := (List.getElem_cons_eraseIdx_perm hlen).trans (swapRemove_perm h)
  rw [hwritten, hothers] at hmodified
  have horiginal := (List.getElem_cons_eraseIdx_perm hi).symm
  rw [hxi] at horiginal
  exact horiginal.trans (hmodified.cons_inv.cons x)

/-! ## After one write -/

/-- An entry of a written vector is the new one, or was there before. -/
theorem getElem?_set_cases {xs : List α} {i j : Nat} {x y : α} (h : (xs.set i x)[j]? = some y) :
    (j = i ∧ y = x) ∨ (j ≠ i ∧ xs[j]? = some y) := by
  by_cases hij : j = i
  · subst hij
    rw [List.getElem?_set] at h
    simp only [if_true] at h
    split at h
    · cases h
      exact Or.inl ⟨rfl, rfl⟩
    · cases h
  · rw [List.getElem?_set_ne (Ne.symm hij)] at h
    exact Or.inr ⟨hij, h⟩

theorem getElem?_modify_cases {xs : List α} {i j : Nat} {f : α → α} {y : α}
    (h : (xs.modify i f)[j]? = some y) :
    (i ≠ j ∧ xs[j]? = some y) ∨ (i = j ∧ ∃ x, xs[j]? = some x ∧ y = f x) := by
  rw [List.getElem?_modify] at h
  obtain ⟨x, hx, heq⟩ := Option.map_eq_some_iff.mp h
  by_cases hij : i = j
  · rw [if_pos hij] at heq
    exact .inr ⟨hij, x, hx, heq.symm⟩
  · rw [if_neg hij] at heq
    exact .inl ⟨hij, heq ▸ hx⟩

/-- An entry of a vector after a push was there before, or is the last one. -/
theorem getElem?_push_cases {xs : List α} {j : Nat} {x y : α} (h : (xs ++ [x])[j]? = some y) :
    xs[j]? = some y ∨ (j = xs.length ∧ y = x) := by
  rcases Nat.lt_or_ge j xs.length with hlt | hge
  · rw [List.getElem?_append_left hlt] at h
    exact Or.inl h
  · rw [List.getElem?_append_right hge, List.getElem?_singleton] at h
    split at h
    · cases h
      exact Or.inr ⟨by omega, rfl⟩
    · cases h

/-- What holds of an entry before a write, in the form that it has afterwards. -/
theorem exists_getElem?_set {P Q : α → Prop} {xs : List α} {i j : Nat} {x y : α}
    (hx : xs[i]? = some x) (hwritten : P x → Q y) (hother : ∀ z, P z → Q z)
    (h : ∃ z, xs[j]? = some z ∧ P z) :
    ∃ z, (xs.set i y)[j]? = some z ∧ Q z := by
  obtain ⟨z, hz, hP⟩ := h
  obtain ⟨hlt, -⟩ := List.getElem?_eq_some_iff.mp hx
  by_cases hij : j = i
  · subst hij
    rw [hx] at hz
    cases hz
    exact ⟨y, List.getElem?_set_self hlt, hwritten hP⟩
  · exact ⟨z, (List.getElem?_set_ne (Ne.symm hij)).trans hz, hother z hP⟩

theorem exists_getElem?_push {P : α → Prop} {xs : List α} {j : Nat} {y : α}
    (h : ∃ z, xs[j]? = some z ∧ P z) : ∃ z, (xs ++ [y])[j]? = some z ∧ P z := by
  obtain ⟨z, hz, hP⟩ := h
  exact ⟨z, (List.getElem?_append_left (List.getElem?_eq_some_iff.mp hz).1).trans hz, hP⟩

/-- One write moves a count by the entry that goes and the entry that comes. -/
theorem countP_set_add (p : α → Bool) {xs : List α} {i : Nat} {x : α}
    (h : xs[i]? = some x) (y : α) :
    (xs.set i y).countP p + (if p x then 1 else 0) = xs.countP p + if p y then 1 else 0 := by
  obtain ⟨hlt, hx⟩ := List.getElem?_eq_some_iff.mp h
  rw [List.countP_set hlt, hx]
  by_cases hp : p x = true
  · have hpos : 0 < xs.countP p := List.countP_pos_iff.mpr ⟨x, hx ▸ List.getElem_mem hlt, hp⟩
    simp only [hp, if_true]
    omega
  · simp only [hp, Bool.false_eq_true, if_false]
    omega

/-- One entry got more: up to the order, so did all entries together. -/
theorem flatMap_set_perm {f : α → List β} :
    ∀ {xs : List α} {i : Nat} {x y : α} {more : List β}, xs[i]? = some x → f y = f x ++ more →
      ((xs.set i y).flatMap f).Perm (xs.flatMap f ++ more)
  | [], _, _, _, _, hx, _ => by cases hx
  | x :: xs, 0, _, y, more, hx, hmore => by
    cases hx
    rw [List.set_cons_zero, List.flatMap_cons, List.flatMap_cons, hmore, List.append_assoc,
      List.append_assoc]
    exact List.Perm.append_left _ List.perm_append_comm
  | x :: xs, i + 1, _, y, more, hx, hmore => by
    rw [List.set_cons_succ, List.flatMap_cons, List.flatMap_cons, List.append_assoc]
    exact List.Perm.append_left _ (flatMap_set_perm hx hmore)

/-- Among some entries the last one got more, and so did all of them together. -/
theorem flatMap_filter_set_last {p : α → Bool} {f : α → List β} :
    ∀ {xs : List α} {i : Nat} {x y : α} {more : List β}, xs[i]? = some x → p x = true → p y = true →
      f y = f x ++ more → (∀ j z, i < j → xs[j]? = some z → p z = false) →
      ((xs.set i y).filter p).flatMap f = (xs.filter p).flatMap f ++ more
  | [], _, _, _, _, hx, _, _, _, _ => by cases hx
  | x :: xs, 0, _, y, more, hx, hpx, hpy, hmore, hlast => by
    cases hx
    have hnone : xs.filter p = [] := List.filter_eq_nil_iff.mpr fun z hz => by
      obtain ⟨j, hj⟩ := List.getElem?_of_mem hz
      rw [hlast (j + 1) z (Nat.succ_pos j) hj]
      exact Bool.false_ne_true
    rw [List.set_cons_zero, List.filter_cons_of_pos hpy, List.filter_cons_of_pos hpx, hnone]
    simp [hmore]
  | w :: xs, i + 1, x, y, more, hx, hpx, hpy, hmore, hlast => by
    have hx : xs[i]? = some x := hx
    have ih := flatMap_filter_set_last hx hpx hpy hmore
      fun j z hj hz => hlast (j + 1) z (Nat.succ_lt_succ hj) hz
    rw [List.set_cons_succ]
    cases hw : p w with
    | true =>
      rw [List.filter_cons_of_pos hw, List.filter_cons_of_pos hw, List.flatMap_cons,
        List.flatMap_cons, ih, List.append_assoc]
    | false =>
      rw [List.filter_cons_of_neg (by simp [hw]), List.filter_cons_of_neg (by simp [hw]), ih]

/-- Writing an entry that gives the same changes nothing. -/
theorem flatMap_filter_set_same {p : α → Bool} {f : α → List β} :
    ∀ {xs : List α} {i : Nat} {x y : α}, xs[i]? = some x → p y = p x → f y = f x →
      ((xs.set i y).filter p).flatMap f = (xs.filter p).flatMap f
  | [], _, _, _, hx, _, _ => by cases hx
  | x :: xs, 0, _, y, hx, hp, hf => by
    cases hx
    rw [List.set_cons_zero]
    cases hpx : p x with
    | true =>
      rw [List.filter_cons_of_pos (hp.trans hpx), List.filter_cons_of_pos hpx, List.flatMap_cons,
        List.flatMap_cons, hf]
    | false =>
      rw [List.filter_cons_of_neg (by simp [hp, hpx]), List.filter_cons_of_neg (by simp [hpx])]
  | w :: xs, i + 1, x, y, hx, hp, hf => by
    have hx : xs[i]? = some x := hx
    have ih := flatMap_filter_set_same hx hp hf
    rw [List.set_cons_succ]
    cases hw : p w with
    | true => rw [List.filter_cons_of_pos hw, List.filter_cons_of_pos hw, List.flatMap_cons,
        List.flatMap_cons, ih]
    | false => rw [List.filter_cons_of_neg (by simp [hw]),
        List.filter_cons_of_neg (by simp [hw]), ih]

/-- Writing an entry that is not selected, before and after. -/
theorem filter_set_neither {p : α → Bool} :
    ∀ {xs : List α} {i : Nat} {x y : α}, xs[i]? = some x → p x = false → p y = false →
      (xs.set i y).filter p = xs.filter p
  | [], _, _, _, hx, _, _ => by cases hx
  | x :: xs, 0, _, y, hx, hpx, hpy => by
    cases hx
    rw [List.set_cons_zero, List.filter_cons_of_neg (by simp [hpy]),
      List.filter_cons_of_neg (by simp [hpx])]
  | w :: xs, i + 1, x, y, hx, hpx, hpy => by
    have hx : xs[i]? = some x := hx
    rw [List.set_cons_succ, List.filter_cons, List.filter_cons, filter_set_neither hx hpx hpy]

/-! ## Next to an inserted entry -/

/-- Where the entry at `k` is after one was inserted at `n`. -/
def afterInsert (n k : Nat) : Nat := if k < n then k else k + 1

theorem afterInsert_of_lt {n k : Nat} (h : k < n) : afterInsert n k = k := if_pos h

theorem afterInsert_of_le {n k : Nat} (h : n ≤ k) : afterInsert n k = k + 1 :=
  if_neg (Nat.not_lt.mpr h)

theorem getElem?_insertIdx_afterInsert (xs : List α) (n k : Nat) (x : α) :
    (xs.insertIdx n x)[afterInsert n k]? = xs[k]? := by
  rcases Nat.lt_or_ge k n with hlt | hge
  · rw [afterInsert_of_lt hlt, List.getElem?_insertIdx_of_lt hlt]
  · rw [afterInsert_of_le hge, List.getElem?_insertIdx_of_gt (Nat.lt_succ_of_le hge)]
    rfl

theorem set_insertIdx :
    ∀ (xs : List α) (n k : Nat) (x y : α),
      (xs.insertIdx n x).set (afterInsert n k) y = (xs.set k y).insertIdx n x
  | xs, 0, k, x, y => rfl
  | [], n + 1, k, x, y => rfl
  | z :: xs, n + 1, 0, x, y => rfl
  | z :: xs, n + 1, k + 1, x, y => by
    have hindex : afterInsert (n + 1) (k + 1) = afterInsert n k + 1 := by
      unfold afterInsert
      split <;> split <;> omega
    rw [hindex, List.insertIdx_succ_cons, List.set_cons_succ, List.set_cons_succ,
      List.insertIdx_succ_cons, set_insertIdx xs n k x y]

theorem insertIdx_push :
    ∀ {xs : List α} {n : Nat}, n ≤ xs.length → ∀ x y : α,
      xs.insertIdx n x ++ [y] = (xs ++ [y]).insertIdx n x
  | _, 0, _, _, _ => rfl
  | [], n + 1, hn, _, _ => absurd hn (Nat.not_succ_le_zero n)
  | z :: xs, n + 1, hn, x, y => by
    rw [List.insertIdx_succ_cons, List.cons_append, List.cons_append, List.insertIdx_succ_cons,
      insertIdx_push (Nat.le_of_succ_le_succ hn) x y]

end VecUpdate
