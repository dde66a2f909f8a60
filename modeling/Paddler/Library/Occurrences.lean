import Mathlib.Data.List.Infix

/-!
# Occurrences of a pattern

A pattern is written between the pieces of a text, and a reader looks for it from left to right.
What the pieces hold next to each other can be the pattern, too.

* `occurrences` — where the pattern stands, overlaps included; `found` — where a reader finds it,
  who goes on behind it.
* `found_eq_writtenAt_iff` — **the reader finds the pattern where it was written and nowhere else,
  if and only if** every piece is `Clear` of it, and the last does not contain it.
* `clear_iff_not_infix` — if no end of the pattern begins it, a piece is clear that does not contain
  it.
-/

set_option autoImplicit false

namespace Occurrences

variable {α : Type} [DecidableEq α]

/-! ## Where a pattern stands -/

/-- Where `pattern` stands in a text. -/
def occurrences (pattern text : List α) : List Nat :=
  (List.range text.length).filter fun index => pattern.isPrefixOf (text.drop index)

theorem mem_occurrences {pattern text : List α} {index : Nat} :
    index ∈ occurrences pattern text ↔ index < text.length ∧ pattern <+: text.drop index := by
  simp [occurrences]

/-- A text in which the pattern stands nowhere does not contain it. -/
theorem occurrences_eq_nil_iff {pattern : List α} (hpattern : pattern ≠ []) (text : List α) :
    occurrences pattern text = [] ↔ ¬ pattern <:+: text := by
  rw [List.eq_nil_iff_forall_not_mem, ← not_exists]
  refine not_congr ⟨fun ⟨index, hindex⟩ => ?_, fun ⟨before, after, htext⟩ => ?_⟩
  · exact (mem_occurrences.mp hindex).2.isInfix.trans (List.drop_suffix index text).isInfix
  · have hdrop : text.drop before.length = pattern ++ after := by
      rw [← htext, List.append_assoc, List.drop_left]
    have hlength : before.length < text.length := by
      have hpos := List.length_pos_of_ne_nil hpattern
      rw [← htext, List.length_append, List.length_append]
      omega
    exact ⟨before.length, mem_occurrences.mpr ⟨hlength, after, hdrop.symm⟩⟩

theorem occurrences_self {pattern : List α} (hpattern : pattern ≠ []) :
    occurrences pattern pattern = [0] := by
  obtain ⟨x, xs, rfl⟩ := List.exists_cons_of_ne_nil hpattern
  have hlater : ∀ index ∈ (List.range xs.length).map Nat.succ,
      ¬ (x :: xs).isPrefixOf ((x :: xs).drop index) = true := by
    intro index hindex hprefix
    obtain ⟨before, -, rfl⟩ := List.mem_map.mp hindex
    have hle := (List.isPrefixOf_iff_prefix.mp hprefix).length_le
    simp only [List.drop_succ_cons, List.length_drop, List.length_cons] at hle
    omega
  rw [occurrences, List.length_cons, List.range_succ_eq_map, List.filter_cons_of_pos,
    List.filter_eq_nil_iff.mpr hlater]
  exact List.isPrefixOf_iff_prefix.mpr (List.prefix_refl _)

/-! ## Where a reader finds it -/

/-- Where the pattern is found from left to right: `skip` elements of the last one are still ahead,
and the text starts at `start`. -/
def found (pattern : List α) : Nat → Nat → List α → List Nat
  | _, _, [] => []
  | skip + 1, start, _ :: text => found pattern skip (start + 1) text
  | 0, start, x :: text =>
    if pattern.isPrefixOf (x :: text) then start ::
      found pattern (pattern.length - 1) (start + 1) text
    else found pattern 0 (start + 1) text

theorem found_append (pattern : List α) :
    ∀ (skipped text : List α) (start : Nat),
      found pattern skipped.length start (skipped ++ text) =
        found pattern 0 (start + skipped.length) text
  | [], _, _ => rfl
  | x :: skipped, text, start => by
    rw [List.length_cons, List.cons_append, found, found_append pattern skipped text (start + 1)]
    congr 1
    omega

/-- The pattern is found at its place, and the reader goes on behind it. -/
theorem found_pattern {pattern : List α} (hpattern : pattern ≠ []) (text : List α) (start : Nat) :
    found pattern 0 start (pattern ++ text) = start ::
      found pattern 0 (start + pattern.length) text := by
  obtain ⟨x, xs, rfl⟩ := List.exists_cons_of_ne_nil hpattern
  have hprefix : (x :: xs).isPrefixOf (x :: (xs ++ text)) = true :=
    List.isPrefixOf_iff_prefix.mpr (List.prefix_append (x :: xs) text)
  rw [List.cons_append, found, if_pos hprefix, List.length_cons, Nat.add_sub_cancel, found_append]
  congr 2
  omega

/-- Nothing is found before the first place at which the pattern stands. -/
theorem found_skip {pattern : List α} :
    ∀ {piece text : List α}, (∀ index < piece.length, ¬ pattern <+: (piece ++ text).drop index) →
      ∀ start, found pattern 0 start (piece ++ text) = found pattern 0 (start + piece.length) text
  | [], _, _, _ => rfl
  | x :: piece, text, h, start => by
    have hhere : ¬ pattern.isPrefixOf (x :: (piece ++ text)) = true := fun hprefix =>
      h 0 (Nat.succ_pos _) (List.isPrefixOf_iff_prefix.mp hprefix)
    rw [List.cons_append, found, if_neg hhere,
      found_skip (fun index hindex => h (index + 1) (Nat.succ_lt_succ hindex)) (start + 1),
      List.length_cons]
    congr 1
    omega

theorem found_first {pattern : List α} :
    ∀ {text : List α} {index : Nat}, index < text.length → pattern <+: text.drop index → ∀ start,
      ∃ first ≤ start + index, ∃ later, found pattern 0 start text = first :: later
  | x :: text, index, hindex, hprefix, start => by
    rw [found]
    split
    · exact ⟨start, by omega, _, rfl⟩
    · rename_i hnot
      cases index with
      | zero => exact absurd (List.isPrefixOf_iff_prefix.mpr hprefix) hnot
      | succ index =>
        obtain ⟨first, hle, later, hlater⟩ :=
          found_first (Nat.lt_of_succ_lt_succ hindex) hprefix (start + 1)
        exact ⟨first, by omega, later, hlater⟩

theorem found_eq_nil_iff {pattern : List α} (hpattern : pattern ≠ []) (text : List α)
    (start : Nat) :
    found pattern 0 start text = [] ↔ ¬ pattern <:+: text := by
  rw [← occurrences_eq_nil_iff hpattern,
    List.eq_nil_iff_forall_not_mem (l := occurrences pattern text)]
  constructor
  · intro hnone index hindex
    obtain ⟨hlt, hprefix⟩ := mem_occurrences.mp hindex
    obtain ⟨first, -, later, hlater⟩ := found_first hlt hprefix start
    rw [hnone] at hlater
    cases hlater
  · intro hnone
    have hskip : ∀ index < text.length, ¬ pattern <+: (text ++ []).drop index := by
      intro index hindex hprefix
      rw [List.append_nil] at hprefix
      exact hnone index (mem_occurrences.mpr ⟨hindex, hprefix⟩)
    have hfound := found_skip hskip start
    rwa [List.append_nil] at hfound

/-! ## Where it was written -/

/-- The pieces of a text, the pattern behind each. -/
def written (pattern : List α) (pieces : List (List α)) (last : List α) : List α :=
  pieces.flatMap (· ++ pattern) ++ last

/-- Where the pattern was written in a text that starts at `start`. -/
def writtenAt (pattern : List α) : Nat → List (List α) → List Nat
  | _, [] => []
  | start, piece :: pieces =>
    (start + piece.length) :: writtenAt pattern (start + piece.length + pattern.length) pieces

/-- Before the pattern that was written behind the piece there is no other, in the piece or with its
end in the pattern. -/
def Clear (pattern piece : List α) : Prop :=
  ∀ index ∈ occurrences pattern (piece ++ pattern), piece.length ≤ index

instance (pattern piece : List α) : Decidable (Clear pattern piece) :=
  inferInstanceAs (Decidable (∀ index ∈ occurrences pattern (piece ++ pattern),
    piece.length ≤ index))

omit [DecidableEq α] in
/-- What stands before the pattern does not reach behind it. -/
theorem prefix_drop_append_iff {pattern piece text : List α} {index : Nat}
    (hindex : index < piece.length) :
    pattern <+: (piece ++ (pattern ++ text)).drop index ↔
      pattern <+: (piece ++ pattern).drop index := by
  rw [← List.append_assoc, List.drop_append_of_le_length (by rw [List.length_append]; omega)]
  refine ⟨fun hprefix => ?_, fun hprefix => hprefix.trans (List.prefix_append _ _)⟩
  exact List.prefix_of_prefix_length_le hprefix (List.prefix_append _ _)
    (by rw [List.length_drop, List.length_append]; omega)

/-- Behind a clear piece the pattern is found where it was written. -/
theorem Clear.found {pattern piece : List α} (h : Clear pattern piece) (hpattern : pattern ≠ [])
    (text : List α) (start : Nat) : found pattern 0 start (piece ++ (pattern ++ text)) =
      (start + piece.length) :: found pattern 0 (start + piece.length + pattern.length) text := by
  rw [found_skip ?_ start, found_pattern hpattern]
  intro index hindex hprefix
  have hmem : index ∈ occurrences pattern (piece ++ pattern) :=
    mem_occurrences.mpr ⟨by rw [List.length_append]; omega,
      (prefix_drop_append_iff hindex).mp hprefix⟩
  have := h index hmem
  omega

theorem found_of_not_clear {pattern piece : List α} (h : ¬ Clear pattern piece) (text : List α)
    (start : Nat) :
    ∃ first < start + piece.length, ∃ later,
      found pattern 0 start (piece ++ (pattern ++ text)) = first :: later := by
  simp only [Clear, not_forall, not_le] at h
  obtain ⟨index, hmem, hlt⟩ := h
  obtain ⟨first, hle, later, hlater⟩ := found_first (by rw [List.length_append]; omega)
    ((prefix_drop_append_iff hlt).mpr (mem_occurrences.mp hmem).2) start
  exact ⟨first, by omega, later, hlater⟩

/-- **The pattern is found where it was written and nowhere else, if and only if** every piece is
clear of it and the last does not contain it. -/
theorem found_eq_writtenAt_iff {pattern : List α} (hpattern : pattern ≠ []) (last : List α) :
    ∀ (pieces : List (List α)) (start : Nat),
      found pattern 0 start (written pattern pieces last) = writtenAt pattern start pieces ↔
        (∀ piece ∈ pieces, Clear pattern piece) ∧ ¬ pattern <:+: last
  | [], start => by
    show found pattern 0 start last = [] ↔ _
    rw [found_eq_nil_iff hpattern]
    simp
  | piece :: pieces, start => by
    have hwritten : written pattern (piece :: pieces) last =
        piece ++ (pattern ++ written pattern pieces last) := by
      simp [written]
    rw [hwritten, writtenAt, List.forall_mem_cons, and_assoc]
    by_cases hclear : Clear pattern piece
    · rw [hclear.found hpattern, List.cons_inj_right, found_eq_writtenAt_iff hpattern last pieces]
      exact (and_iff_right hclear).symm
    · obtain ⟨first, hlt, later, hlater⟩ :=
        found_of_not_clear hclear (written pattern pieces last) start
      rw [hlater]
      refine iff_of_false (fun hsame => ?_) fun h => hclear h.1
      have hfirst := (List.cons.inj hsame).1
      omega

/-- No end of the pattern begins it, but the whole. -/
def Borderless (pattern : List α) : Prop :=
  ∀ index, 0 < index → index < pattern.length → ¬ pattern.drop index <+: pattern

/-- **A piece without the pattern is clear of it** if no end of the pattern begins it. -/
theorem clear_iff_not_infix {pattern : List α} (hpattern : pattern ≠ [])
    (hborder : Borderless pattern) (piece : List α) :
    Clear pattern piece ↔ ¬ pattern <:+: piece := by
  constructor
  · rintro hclear ⟨before, after, hpiece⟩
    have hpos := List.length_pos_of_ne_nil hpattern
    have hlength := congrArg List.length hpiece
    rw [List.length_append, List.length_append] at hlength
    have hdrop : (piece ++ pattern).drop before.length = pattern ++ (after ++ pattern) := by
      rw [← hpiece, List.append_assoc, List.append_assoc, List.drop_left]
    have hle := hclear before.length (mem_occurrences.mpr
      ⟨by rw [List.length_append]; omega, by rw [hdrop]; exact List.prefix_append _ _⟩)
    omega
  · intro hfree index hmem
    by_contra hlt
    obtain ⟨-, hprefix⟩ := mem_occurrences.mp hmem
    rw [List.drop_append_of_le_length (by omega)] at hprefix
    by_cases hinside : pattern.length ≤ (piece.drop index).length
    · -- it would end in the piece
      have hpiece := List.prefix_of_prefix_length_le hprefix (List.prefix_append _ _) hinside
      exact hfree (hpiece.isInfix.trans (List.drop_suffix index piece).isInfix)
    · -- it would end in the pattern, and an end of it would begin it
      obtain ⟨rest, hrest⟩ :=
        List.prefix_of_prefix_length_le (List.prefix_append _ _) hprefix (by omega)
      have hpositive : 0 < (piece.drop index).length := by
        rw [List.length_drop]
        omega
      refine hborder (piece.drop index).length hpositive (by omega) ?_
      have hend : pattern.drop (piece.drop index).length = rest := by
        conv_lhs => rw [← hrest]
        exact List.drop_left
      rw [hend]
      rw [← hrest] at hprefix
      exact hrest ▸ (List.prefix_append_right_inj _).mp hprefix

end Occurrences
