/-!
# Maps as association lists

A map is a list of keys with their values; the first entry of a key counts.  `insertKey` and
`eraseKey` leave at most one entry for the key they are about.

* `lookup_insertKey_self`, `lookup_insertKey_ne`, `lookup_eraseKey_self`, `lookup_eraseKey_ne` —
  what a key maps to afterwards.
* `mem_of_lookup_eq_some`, `lookup_eq_some_mem`, `lookup_isSome_of_mem` — a key maps to something if
  it has an entry.
* `selectKeys_perm` — the entries of some keys, in any order.
* `mapValues` — another value for every value, which `lookup`, `insertKey` and `eraseKey` do not
  mind.
* `Owned` — a map that records who holds which key, as guards register and deregister them;
  `Owned.register`, `Owned.release` and `Owned.keep` for owners that are entries of a vector.
-/

set_option autoImplicit false

namespace AssocList

variable {κ α : Type} [BEq κ]

/-- Every entry of the key goes. -/
def eraseKey (k : κ) (xs : List (κ × α)) : List (κ × α) := xs.filter (·.1 != k)

/-- The key maps to the value. -/
def insertKey (k : κ) (a : α) (xs : List (κ × α)) : List (κ × α) := (k, a) :: eraseKey k xs

section Lookup

variable [LawfulBEq κ]

theorem lookup_eraseKey_self (k : κ) (xs : List (κ × α)) : (eraseKey k xs).lookup k = none := by
  rw [List.lookup_eq_none_iff]
  intro p hp
  have hne := (List.mem_filter.mp hp).2
  simp only [bne_iff_ne, ne_eq] at hne
  simpa using fun heq => hne heq.symm

theorem lookup_eraseKey_ne {k k' : κ} (hne : k' ≠ k) (xs : List (κ × α)) :
    (eraseKey k xs).lookup k' = xs.lookup k' := by
  induction xs with
  | nil => rfl
  | cons p xs ih =>
    unfold eraseKey at ih ⊢
    by_cases hk : p.1 = k
    · have hk' : (k' == p.1) = false := by simpa [hk] using hne
      rw [List.filter_cons_of_neg (by simp [hk]), ih, List.lookup_cons, hk']
    · rw [List.filter_cons_of_pos (by simpa using hk), List.lookup_cons, List.lookup_cons, ih]

/-- What is left after a key was erased was there before. -/
theorem lookup_of_lookup_eraseKey {k k' : κ} {a : α} {xs : List (κ × α)}
    (h : (eraseKey k xs).lookup k' = some a) : xs.lookup k' = some a := by
  by_cases hk : k' = k
  · subst hk
    rw [lookup_eraseKey_self] at h
    cases h
  · rwa [lookup_eraseKey_ne hk] at h

theorem lookup_insertKey_self (k : κ) (a : α) (xs : List (κ × α)) :
    (insertKey k a xs).lookup k = some a := by
  simp [insertKey]

theorem lookup_insertKey_ne {k k' : κ} (hne : k' ≠ k) (a : α) (xs : List (κ × α)) :
    (insertKey k a xs).lookup k' = xs.lookup k' := by
  have hk : (k' == k) = false := by simpa using hne
  unfold insertKey
  rw [List.lookup_cons, hk]
  exact lookup_eraseKey_ne hne xs

theorem mem_of_lookup_eq_some {k : κ} {a : α} {xs : List (κ × α)} (h : xs.lookup k = some a) :
    (k, a) ∈ xs := by
  induction xs with
  | nil => cases h
  | cons p xs ih =>
    rw [List.lookup_cons] at h
    split at h
    · rename_i heq
      cases h
      rw [beq_iff_eq.mp heq]
      exact List.mem_cons_self
    · exact List.mem_cons_of_mem _ (ih h)

theorem lookup_eq_some_mem {k : κ} {a : α} {xs : List (κ × α)} (h : xs.lookup k = some a) :
    k ∈ xs.map (·.1) :=
  List.mem_map_of_mem (mem_of_lookup_eq_some h)

theorem lookup_isSome_of_mem {k : κ} {xs : List (κ × α)} (h : k ∈ xs.map (·.1)) :
    (xs.lookup k).isSome = true := by
  obtain ⟨entry, hentry, rfl⟩ := List.mem_map.mp h
  cases hlookup : xs.lookup entry.1 with
  | some a => rfl
  | none =>
    have hne := List.lookup_eq_none_iff.mp hlookup entry hentry
    simp at hne

/-- With one entry a key, the entries are what the keys map to. -/
theorem lookup_eq_some_iff_mem {k : κ} {a : α} {xs : List (κ × α)} (h : (xs.map (·.1)).Nodup) :
    xs.lookup k = some a ↔ (k, a) ∈ xs := by
  refine ⟨mem_of_lookup_eq_some, fun hmem => ?_⟩
  induction xs with
  | nil => cases hmem
  | cons entry xs ih =>
    obtain ⟨hnew, hnodup⟩ := List.nodup_cons.mp h
    rw [List.lookup_cons]
    rcases List.mem_cons.mp hmem with rfl | hmem
    · rw [beq_self_eq_true]
    · have hne : (k == entry.1) = false := by
        rw [beq_eq_false_iff_ne]
        rintro rfl
        exact hnew (List.mem_map.mpr ⟨_, hmem, rfl⟩)
      rw [hne]
      exact ih hnodup hmem

/-- Maps with the same entries map every key to the same. -/
theorem lookup_perm {xs ys : List (κ × α)} (hperm : xs.Perm ys) (h : (xs.map (·.1)).Nodup) (k : κ) :
    xs.lookup k = ys.lookup k := by
  have h' : (ys.map (·.1)).Nodup := (hperm.map _).nodup h
  apply Option.ext
  intro a
  rw [lookup_eq_some_iff_mem h, lookup_eq_some_iff_mem h', hperm.mem_iff]

end Lookup

/-! ## Some of the keys -/

/-- The entries of these keys, in the order of the keys. -/
def selectKeys (keys : List κ) (xs : List (κ × α)) : List (κ × α) :=
  keys.filterMap fun k => (xs.lookup k).map (k, ·)

theorem mem_selectKeys {keys : List κ} {xs : List (κ × α)} {entry : κ × α} :
    entry ∈ selectKeys keys xs ↔ entry.1 ∈ keys ∧ xs.lookup entry.1 = some entry.2 := by
  unfold selectKeys
  rw [List.mem_filterMap]
  constructor
  · rintro ⟨k, hk, hentry⟩
    obtain ⟨a, ha, rfl⟩ := Option.map_eq_some_iff.mp hentry
    exact ⟨hk, ha⟩
  · exact fun ⟨hk, hlookup⟩ => ⟨entry.1, hk, by rw [hlookup]; rfl⟩

theorem keys_selectKeys (keys : List κ) (xs : List (κ × α)) :
    ((selectKeys keys xs).map (·.1)).Sublist keys := by
  induction keys with
  | nil => exact List.Sublist.refl _
  | cons k keys ih =>
    unfold selectKeys at ih ⊢
    rw [List.filterMap_cons]
    cases xs.lookup k with
    | none => exact ih.cons k
    | some a => exact ih.cons_cons k

theorem lookup_selectKeys [LawfulBEq κ] {keys : List κ} {k : κ} (hkeys : keys.Nodup) (hk : k ∈ keys)
    (xs : List (κ × α)) : (selectKeys keys xs).lookup k = xs.lookup k := by
  apply Option.ext
  intro a
  rw [lookup_eq_some_iff_mem (hkeys.sublist (keys_selectKeys keys xs)), mem_selectKeys]
  exact and_iff_right hk

/-- **Selecting keys** is filtering, up to the order. -/
theorem selectKeys_perm [LawfulBEq κ] {keys : List κ} {xs : List (κ × α)} (hkeys : keys.Nodup)
    (h : (xs.map (·.1)).Nodup) :
    (selectKeys keys xs).Perm (xs.filter fun entry => keys.contains entry.1) := by
  have hnodup : ∀ {ys : List (κ × α)}, (ys.map (·.1)).Nodup → ys.Nodup :=
    fun hys => List.Pairwise.of_map _ (fun _ _ hne heq => hne (congrArg Prod.fst heq)) hys
  have hselected := hnodup (hkeys.sublist (keys_selectKeys keys xs))
  have hfiltered := (hnodup h).filter fun entry => keys.contains entry.1
  rw [List.perm_ext_iff_of_nodup hselected hfiltered]
  intro entry
  rw [mem_selectKeys, List.mem_filter, lookup_eq_some_iff_mem h, List.contains_iff_mem, and_comm]

/-! ## Other values -/

/-- Every key keeps its place and gets the value that its value goes to. -/
def mapValues {β : Type} (f : α → β) (xs : List (κ × α)) : List (κ × β) :=
  xs.map fun entry => (entry.1, f entry.2)

theorem lookup_mapValues {β : Type} (f : α → β) (k : κ) (xs : List (κ × α)) :
    (mapValues f xs).lookup k = (xs.lookup k).map f := by
  induction xs with
  | nil => rfl
  | cons entry xs ih =>
    unfold mapValues at ih ⊢
    rw [List.map_cons, List.lookup_cons, List.lookup_cons]
    cases k == entry.1 with
    | true => rfl
    | false => exact ih

theorem eraseKey_mapValues {β : Type} (f : α → β) (k : κ) (xs : List (κ × α)) :
    eraseKey k (mapValues f xs) = mapValues f (eraseKey k xs) := by
  unfold eraseKey mapValues
  rw [List.filter_map]
  rfl

theorem insertKey_mapValues {β : Type} (f : α → β) (k : κ) (a : α) (xs : List (κ × α)) :
    insertKey k (f a) (mapValues f xs) = mapValues f (insertKey k a xs) := by
  unfold insertKey
  rw [eraseKey_mapValues]
  rfl

omit [BEq κ] in
theorem mapValues_eq_self {f : α → α} {xs : List (κ × α)} (h : ∀ entry ∈ xs, f entry.2 = entry.2) :
    mapValues f xs = xs := by
  unfold mapValues
  rw [List.map_congr_left fun entry hentry => show (entry.1, f entry.2) = id entry by
    rw [h entry hentry]; rfl]
  exact List.map_id xs

/-! ## Keys with an owner -/

section Owned

variable {m m' : List (κ × Nat)} {holds holds' : Nat → Option κ} {key : κ}

/-- The map has a key for an owner exactly if the owner holds that key. -/
def Owned (m : List (κ × Nat)) (holds : Nat → Option κ) : Prop :=
  ∀ key owner, m.lookup key = some owner ↔ holds owner = some key

theorem Owned.unique (h : Owned m holds) {i j : Nat} (hi : holds i = some key)
    (hj : holds j = some key) : i = j := by
  have hlookup := (h key i).mpr hi
  rw [(h key j).mpr hj] at hlookup
  cases hlookup
  rfl

theorem Owned.free_iff (h : Owned m holds) : m.lookup key = none ↔ ∀ i, holds i ≠ some key := by
  constructor
  · intro hfree i hi
    rw [(h key i).mpr hi] at hfree
    cases hfree
  · intro hnone
    cases hlookup : m.lookup key with
    | none => rfl
    | some i => exact absurd ((h key i).mp hlookup) (hnone i)

/-- Two maps agree on a key that the same owner holds in both. -/
theorem Owned.lookup_eq (h : Owned m holds) (h' : Owned m' holds')
    (hsame : ∀ i, holds i = some key ↔ holds' i = some key) : m.lookup key = m'.lookup key := by
  cases hlookup : m.lookup key with
  | some i => exact ((h' key i).mpr ((hsame i).mp ((h key i).mp hlookup))).symm
  | none =>
    refine (h'.free_iff.mpr fun i hi => ?_).symm
    exact h.free_iff.mp hlookup i ((hsame i).mpr hi)

variable {f : α → Option κ} {xs : List α} {i : Nat} {x x' : α}

/-- The key that an entry of a vector holds. -/
def heldBy (f : α → Option κ) (xs : List α) (i : Nat) : Option κ := xs[i]?.bind f

omit [BEq κ] in
theorem heldBy_of_getElem? (hx : xs[i]? = some x) : heldBy f xs i = f x := by
  unfold heldBy
  rw [hx]
  rfl

omit [BEq κ] in
theorem heldBy_eq_some (h : heldBy f xs i = some key) : ∃ x, xs[i]? = some x ∧ f x = some key :=
  Option.bind_eq_some_iff.mp h

omit [BEq κ] in
theorem heldBy_set_self (hx : xs[i]? = some x) : heldBy f (xs.set i x') i = f x' := by
  obtain ⟨hlt, -⟩ := List.getElem?_eq_some_iff.mp hx
  exact heldBy_of_getElem? (List.getElem?_set_self hlt)

omit [BEq κ] in
theorem heldBy_set_ne {j : Nat} (hne : j ≠ i) : heldBy f (xs.set i x') j = heldBy f xs j := by
  unfold heldBy
  rw [List.getElem?_set_ne hne.symm]

omit [BEq κ] in
theorem heldBy_push_ne {j : Nat} (hne : j ≠ xs.length) :
    heldBy f (xs ++ [x]) j = heldBy f xs j := by
  unfold heldBy
  rcases Nat.lt_or_gt_of_ne hne with hlt | hgt
  · rw [List.getElem?_append_left hlt]
  · rw [List.getElem?_eq_none (by rw [List.length_append, List.length_singleton]; omega),
      List.getElem?_eq_none (Nat.le_of_lt hgt)]

omit [BEq κ] in
theorem heldBy_push_self : heldBy f (xs ++ [x]) xs.length = f x :=
  heldBy_of_getElem? List.getElem?_concat_length

theorem Owned.keep (h : Owned m (heldBy f xs)) (hx : xs[i]? = some x) (hx' : f x' = f x) :
    Owned m (heldBy f (xs.set i x')) := by
  intro key j
  rw [h key j]
  by_cases hj : j = i
  · subst hj
    rw [heldBy_set_self hx, heldBy_of_getElem? hx, hx']
  · rw [heldBy_set_ne hj]

theorem Owned.push_idle (h : Owned m (heldBy f xs)) (hx : f x = none) :
    Owned m (heldBy f (xs ++ [x])) := by
  intro key j
  rw [h key j]
  by_cases hj : j = xs.length
  · subst hj
    rw [heldBy_push_self, hx]
    unfold heldBy
    rw [List.getElem?_eq_none (Nat.le_refl _)]
    rfl
  · rw [heldBy_push_ne hj]

variable [LawfulBEq κ]

theorem Owned.insert (h : Owned m holds) (hfree : m.lookup key = none) (hidle : holds i = none)
    (hi : holds' i = some key) (hne : ∀ j, j ≠ i → holds' j = holds j) :
    Owned (insertKey key i m) holds' := by
  intro key' j
  by_cases hkey : key' = key
  · subst hkey
    rw [lookup_insertKey_self]
    by_cases hj : j = i
    · subst hj
      simp [hi]
    · have hother : holds j ≠ some key' := h.free_iff.mp hfree j
      rw [hne j hj]
      simp [hother, Ne.symm hj]
  · rw [lookup_insertKey_ne hkey, h key' j]
    by_cases hj : j = i
    · subst hj
      rw [hidle, hi]
      simp [Ne.symm hkey]
    · rw [hne j hj]

theorem Owned.erase (h : Owned m holds) (hheld : holds i = some key) (hi : holds' i = none)
    (hne : ∀ j, j ≠ i → holds' j = holds j) : Owned (eraseKey key m) holds' := by
  intro key' j
  by_cases hj : j = i
  · subst hj
    rw [hi]
    by_cases hkey : key' = key
    · subst hkey
      simp [lookup_eraseKey_self]
    · rw [lookup_eraseKey_ne hkey, h key' j, hheld]
      simp [Ne.symm hkey]
  · rw [hne j hj]
    by_cases hkey : key' = key
    · subst hkey
      have hother : holds j ≠ some key' := fun hj' => hj (h.unique hj' hheld)
      simp [lookup_eraseKey_self, hother]
    · rw [lookup_eraseKey_ne hkey, h key' j]

theorem Owned.register (h : Owned m (heldBy f xs)) (hx : xs[i]? = some x)
    (hfree : m.lookup key = none) (hidle : f x = none) (hx' : f x' = some key) :
    Owned (insertKey key i m) (heldBy f (xs.set i x')) :=
  h.insert hfree ((heldBy_of_getElem? hx).trans hidle) ((heldBy_set_self hx).trans hx')
    fun _ hne => heldBy_set_ne hne

theorem Owned.release (h : Owned m (heldBy f xs)) (hx : xs[i]? = some x) (hheld : f x = some key)
    (hx' : f x' = none) : Owned (eraseKey key m) (heldBy f (xs.set i x')) :=
  h.erase ((heldBy_of_getElem? hx).trans hheld) ((heldBy_set_self hx).trans hx')
    fun _ hne => heldBy_set_ne hne

theorem Owned.push_register (h : Owned m (heldBy f xs)) (hfree : m.lookup key = none)
    (hx : f x = some key) : Owned (insertKey key xs.length m) (heldBy f (xs ++ [x])) := by
  refine h.insert hfree ?_ (heldBy_push_self.trans hx) fun _ hne => heldBy_push_ne hne
  unfold heldBy
  rw [List.getElem?_eq_none (Nat.le_refl _)]
  rfl

end Owned

end AssocList
