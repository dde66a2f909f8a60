/-!
# Lists that are merged by index

A stream sends the elements of a list as entries with an index; an entry with an index that is there
already is merged into that element, and a new index makes a new one.  How two elements are merged
is left open.

* `mergeKey_of_not_mem`, `keys_mergeKey_of_mem` — an entry with a new key comes last, and others
  keep the keys.
* `keys_mergeEntries_indexed`, `mergeEntries_fresh` — the same for lists, at consecutive indexes.
* `mergeGroups_eq_flatten_iff` — **lists that all begin at index 0 are concatenated if and only if**
  at most one of them has an element.
-/

set_option autoImplicit false

namespace MergeByIndex

variable {α : Type}

/-! ## One entry -/

/-- The entry of the key and the value are merged; a new key comes last. -/
def mergeKey (f : α → α → α) (k : Nat) (a : α) : List (Nat × α) → List (Nat × α)
  | [] => [(k, a)]
  | (k', a') :: xs => if k' == k then (k', f a' a) :: xs else (k', a') :: mergeKey f k a xs

variable {f : α → α → α}

theorem mergeKey_of_not_mem {k : Nat} {xs : List (Nat × α)} (h : k ∉ xs.map (·.1)) (a : α) :
    mergeKey f k a xs = xs ++ [(k, a)] := by
  induction xs with
  | nil => rfl
  | cons p xs ih =>
    rw [List.map_cons, List.mem_cons, not_or] at h
    have hne : (p.1 == k) = false := by simpa using fun heq => h.1 heq.symm
    unfold mergeKey
    rw [hne, ih h.2]
    rfl

theorem keys_mergeKey_of_mem {k : Nat} {xs : List (Nat × α)} (h : k ∈ xs.map (·.1)) (a : α) :
    (mergeKey f k a xs).map (·.1) = xs.map (·.1) := by
  induction xs with
  | nil => cases h
  | cons p xs ih =>
    unfold mergeKey
    cases heq : p.1 == k with
    | true => rfl
    | false =>
      rw [List.map_cons, List.mem_cons] at h
      rcases h with rfl | h
      · simp at heq
      · show p.1 :: (mergeKey f k a xs).map (·.1) = _
        rw [ih h]
        rfl

/-! ## Many entries -/

/-- Entries are merged one after the other. -/
def mergeEntries (f : α → α → α) (entries xs : List (Nat × α)) : List (Nat × α) :=
  entries.foldl (fun xs entry => mergeKey f entry.1 entry.2 xs) xs

/-- The values with their indexes, from `n` on. -/
def indexed (n : Nat) (values : List α) : List (Nat × α) :=
  values.mapIdx fun i a => (n + i, a)

theorem indexed_cons (n : Nat) (a : α) (values : List α) :
    indexed n (a :: values) = (n, a) :: indexed (n + 1) values := by
  unfold indexed
  rw [List.mapIdx_cons]
  simp only [Nat.add_zero, Nat.add_assoc, Nat.add_comm 1]

/-! ## Consecutive indexes -/

variable {xs : List (Nat × α)} {m n : Nat}

/-- The keys are consecutive indexes, before and afterwards. -/
theorem keys_mergeKey_range (hkeys : xs.map (·.1) = List.range m) (hn : n ≤ m) (a : α) :
    (mergeKey f n a xs).map (·.1) = List.range (max m (n + 1)) := by
  by_cases hmem : n < m
  · rw [keys_mergeKey_of_mem (by rw [hkeys]; exact List.mem_range.mpr hmem), hkeys,
      Nat.max_eq_left hmem]
  · have heq : n = m := by omega
    subst heq
    have hfresh : n ∉ xs.map (·.1) := by
      rw [hkeys, List.mem_range]
      exact Nat.lt_irrefl n
    rw [mergeKey_of_not_mem hfresh, List.map_append, hkeys, Nat.max_eq_right (Nat.le_succ n),
      List.range_succ]
    rfl

/-- **Merging values at the first indexes** makes a list that is as long as the longer of both. -/
theorem keys_mergeEntries_indexed (values : List α) (hkeys : xs.map (·.1) = List.range m)
    (hn : n ≤ m) :
    (mergeEntries f (indexed n values) xs).map (·.1) = List.range (max m (n + values.length)) := by
  induction values generalizing n m xs with
  | nil =>
    rw [List.length_nil, Nat.add_zero, Nat.max_eq_left hn]
    exact hkeys
  | cons a values ih =>
    rw [indexed_cons]
    have hrest := ih (keys_mergeKey_range (f := f) hkeys hn a) (Nat.le_max_right m (n + 1))
    rw [List.length_cons]
    refine hrest.trans (congrArg List.range ?_)
    omega

theorem mergeEntries_fresh (values : List α) (hkeys : xs.map (·.1) = List.range n) :
    mergeEntries f (indexed n values) xs = xs ++ indexed n values := by
  induction values generalizing n xs with
  | nil => exact (List.append_nil xs).symm
  | cons a values ih =>
    have hfresh : n ∉ xs.map (·.1) := by
      rw [hkeys, List.mem_range]
      exact Nat.lt_irrefl n
    rw [indexed_cons]
    show mergeEntries f (indexed (n + 1) values) (mergeKey f n a xs) = _
    rw [mergeKey_of_not_mem hfresh, ih, List.append_assoc]
    · rfl
    · rw [List.map_append, hkeys, List.range_succ]
      rfl

theorem mergeEntries_append (entries more xs : List (Nat × α)) :
    mergeEntries f (entries ++ more) xs = mergeEntries f more (mergeEntries f entries xs) :=
  List.foldl_append

theorem indexed_map_snd (n : Nat) (values : List α) : (indexed n values).map (·.2) = values := by
  induction values generalizing n with
  | nil => rfl
  | cons a values ih => rw [indexed_cons, List.map_cons, ih]

theorem indexed_map_fst (n : Nat) (values : List α) :
    (indexed n values).map (·.1) = List.range' n values.length := by
  induction values generalizing n with
  | nil => rfl
  | cons a values ih =>
    rw [indexed_cons, List.map_cons, ih]
    rfl

/-! ## Many lists -/

/-- How many of the lists are not empty, with one more for those merged before. -/
def filled (m : Nat) (groups : List (List α)) : Nat :=
  (if m = 0 then 0 else 1) + (groups.filter (!·.isEmpty)).length

/-- Lists that are each merged from the first index on. -/
def mergeGroups (f : α → α → α) (groups : List (List α)) (xs : List (Nat × α)) : List (Nat × α) :=
  mergeEntries f (groups.flatMap (indexed 0)) xs

theorem mergeGroups_cons (g : List α) (groups : List (List α)) (xs : List (Nat × α)) :
    mergeGroups f (g :: groups) xs = mergeGroups f groups (mergeEntries f (indexed 0 g) xs) := by
  unfold mergeGroups
  rw [List.flatMap_cons, mergeEntries_append]

theorem length_mergeGroups (groups : List (List α)) (hkeys : xs.map (·.1) = List.range m) :
    (mergeGroups f groups xs).length ≤ m + groups.flatten.length ∧
      ((mergeGroups f groups xs).length = m + groups.flatten.length → filled m groups ≤ 1) := by
  induction groups generalizing xs m with
  | nil =>
    have hlength : xs.length = m := by rw [← List.length_map, hkeys, List.length_range]
    refine ⟨Nat.le_of_eq hlength, fun _ => ?_⟩
    unfold filled
    split
    · exact Nat.zero_le 1
    · exact Nat.le_refl 1
  | cons g groups ih =>
    obtain ⟨hle, heq⟩ := ih (keys_mergeEntries_indexed (f := f) g hkeys (Nat.zero_le m))
    rw [mergeGroups_cons, List.flatten_cons, List.length_append]
    refine ⟨by omega, fun hlength => ?_⟩
    have hfilled := heq (by omega)
    unfold filled at hfilled ⊢
    cases g with
    | nil =>
      rw [List.length_nil, Nat.add_zero, Nat.max_zero] at hfilled
      exact hfilled
    | cons a g =>
      have hm : m = 0 := by
        rw [List.length_cons] at hle hlength
        omega
      rw [if_neg (by rw [List.length_cons]; omega)] at hfilled
      rw [hm, if_pos rfl, List.filter_cons_of_pos rfl, List.length_cons]
      omega

theorem mergeGroups_of_filled (groups : List (List α)) (hkeys : xs.map (·.1) = List.range m)
    (hfilled : filled m groups ≤ 1) :
    (mergeGroups f groups xs).map (·.2) = xs.map (·.2) ++ groups.flatten := by
  induction groups generalizing xs m with
  | nil => exact (List.append_nil _).symm
  | cons g groups ih =>
    rw [mergeGroups_cons, List.flatten_cons]
    cases g with
    | nil => exact ih hkeys hfilled
    | cons a g =>
      unfold filled at hfilled
      rw [List.filter_cons_of_pos rfl, List.length_cons] at hfilled
      have hm : m = 0 := by
        split at hfilled
        · assumption
        · omega
      have hempty : xs = [] := by
        rw [hm] at hkeys
        exact List.map_eq_nil_iff.mp hkeys
      rw [hempty, mergeEntries_fresh (n := 0) (a :: g) (by rfl), List.nil_append]
      rw [ih (m := (a :: g).length), indexed_map_snd]
      · rfl
      · rw [indexed_map_fst, List.range_eq_range']
      · unfold filled
        rw [if_neg (by rw [List.length_cons]; omega)]
        omega

/-- **Merging lists by index concatenates them if and only if** at most one of them has an
element. -/
theorem mergeGroups_eq_flatten_iff (groups : List (List α)) :
    (mergeGroups f groups []).map (·.2) = groups.flatten ↔
      (groups.filter (!·.isEmpty)).length ≤ 1 := by
  have hkeys : ([] : List (Nat × α)).map (·.1) = List.range 0 := rfl
  have hfilled : filled 0 groups = (groups.filter (!·.isEmpty)).length := Nat.zero_add _
  rw [← hfilled]
  constructor
  · intro h
    refine (length_mergeGroups (f := f) groups hkeys).2 ?_
    rw [Nat.zero_add, ← h, List.length_map]
  · exact mergeGroups_of_filled groups hkeys

end MergeByIndex
