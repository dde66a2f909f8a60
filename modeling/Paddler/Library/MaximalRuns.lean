import Mathlib.Data.List.Basic

/-!
# Maximal runs in a list

The maximal runs of consecutive elements with a property, and the scan that finds them from left to
right.

* `runs` — the non-empty pieces between the elements without the property.
* `Scan` — the runs that were closed so far, and the one that is still open.
* `flush_scan` — **closing the last run of a scan gives all runs.**
* `scan_current_ne_nil` — a scan is inside a run exactly when its last element is.
* `flatten_runs` — what the runs hold together.
-/

set_option autoImplicit false

namespace MaximalRuns

variable {α : Type} {p : α → Bool}

/-- The maximal runs of consecutive elements of `xs` that satisfy `p`, in order. -/
def runs (p : α → Bool) (xs : List α) : List (List α) :=
  (xs.splitOnP fun x => !p x).filter fun run => !run.isEmpty

/-- A scan: the runs it closed, and the elements of the run it is in. -/
structure Scan (α : Type) where
  closed : List (List α)
  current : List α

namespace Scan

/-- One more element. -/
def next (p : α → Bool) (scan : Scan α) (x : α) : Scan α :=
  if p x then { scan with current := scan.current ++ [x] }
  else if scan.current.isEmpty then scan
  else ⟨scan.closed ++ [scan.current], []⟩

/-- The open run, if there is one. -/
def opened (scan : Scan α) : List (List α) := if scan.current.isEmpty then [] else [scan.current]

/-- All runs, the open one closed. -/
def flush (scan : Scan α) : List (List α) := scan.closed ++ scan.opened

end Scan

/-- A scan of `xs` that starts with nothing. -/
def scan (p : α → Bool) (xs : List α) : Scan α := xs.foldl (Scan.next p) ⟨[], []⟩

theorem runs_of_all {xs : List α} (h : ∀ x ∈ xs, p x = true) :
    runs p xs = if xs.isEmpty then [] else [xs] := by
  rw [runs, List.splitOnP_eq_singleton (by simpa using h)]
  cases xs <;> rfl

/-- A run ends at the first element without the property. -/
theorem runs_append_cons {current : List α} {x : α} (h : ∀ y ∈ current, p y = true)
    (hx : p x = false) (xs : List α) :
    runs p (current ++ x :: xs) = (if current.isEmpty then [] else [current]) ++ runs p xs := by
  rw [runs, List.splitOnP_append_cons_of_forall_mem (by simpa using h) x (by simp [hx])]
  cases current <;> rfl

theorem flush_foldl (xs : List α) : ∀ (closed : List (List α)) (current : List α),
    (∀ y ∈ current, p y = true) →
    (xs.foldl (Scan.next p) ⟨closed, current⟩).flush = closed ++ runs p (current ++ xs) := by
  induction xs with
  | nil =>
    intro closed current h
    rw [List.append_nil, runs_of_all h]
    rfl
  | cons x xs ih =>
    intro closed current h
    rw [List.foldl_cons]
    cases hx : p x with
    | true =>
      have hnext : Scan.next p ⟨closed, current⟩ x = ⟨closed, current ++ [x]⟩ := by
        simp [Scan.next, hx]
      rw [hnext, ih closed (current ++ [x]) ?_, List.append_assoc, List.singleton_append]
      intro y hy
      rcases List.mem_append.mp hy with hy | hy
      · exact h y hy
      · rw [List.mem_singleton.mp hy, hx]
    | false =>
      rw [runs_append_cons h hx]
      cases current with
      | nil =>
        have hnext : Scan.next p ⟨closed, []⟩ x = ⟨closed, []⟩ := by simp [Scan.next, hx]
        rw [hnext, ih closed [] (by simp)]
        rfl
      | cons y current =>
        have hnext : Scan.next p ⟨closed, y :: current⟩ x = ⟨closed ++ [y :: current], []⟩ := by
          simp [Scan.next, hx]
        rw [hnext, ih (closed ++ [y :: current]) [] (by simp), List.append_assoc]
        rfl

/-- **Closing the last run of a scan gives all runs.** -/
theorem flush_scan (p : α → Bool) (xs : List α) : (scan p xs).flush = runs p xs :=
  flush_foldl xs [] [] (by simp)

theorem scan_append (xs ys : List α) : scan p (xs ++ ys) = ys.foldl (Scan.next p) (scan p xs) :=
  List.foldl_append

/-- A scan is inside a run exactly when its last element is. -/
theorem scan_current_ne_nil {xs : List α} :
    (scan p xs).current ≠ [] ↔ ∃ x, xs.getLast? = some x ∧ p x = true := by
  rcases List.eq_nil_or_concat xs with rfl | ⟨init, x, rfl⟩
  · simp [scan]
  · have hnext : scan p (init.concat x) = (scan p init).next p x := by
      rw [List.concat_eq_append, scan_append]
      rfl
    rw [hnext]
    cases hx : p x with
    | true => simp [Scan.next, hx]
    | false =>
      by_cases hcurrent : (scan p init).current = []
      · simp [Scan.next, hx, hcurrent]
      · simp [Scan.next, hx, hcurrent]

/-- The runs hold the elements with the property, in order. -/
theorem flatten_runs (p : α → Bool) (xs : List α) : (runs p xs).flatten = xs.filter p := by
  have hscan : ∀ (xs : List α) (scan : Scan α),
      (xs.foldl (Scan.next p) scan).flush.flatten = scan.flush.flatten ++ xs.filter p := by
    intro xs
    induction xs with
    | nil => exact fun scan => (List.append_nil _).symm
    | cons x xs ih =>
      intro scan
      rw [List.foldl_cons, ih]
      cases hx : p x with
      | true => simp [Scan.next, hx, Scan.flush, Scan.opened]; split <;> simp_all
      | false => simp [Scan.next, hx, Scan.flush, Scan.opened]; split <;> simp_all
  rw [← flush_scan]
  exact hscan xs ⟨[], []⟩

end MaximalRuns
