import Mathlib.Data.List.Basic

/-!
# Lines out of chunks

A reader fills a buffer with the chunks of a text and takes out of it the pieces that a separator
ends.  An item comes from a piece, or from what is left at the end.  Where the text was cut into
chunks is not seen in the items.

* `complete`, `remainder` — the pieces of a text that a separator ends, and what comes after the
  last one.
* `complete_append`, `remainder_append` — a text goes on where its first part left off.
* `Unfolds` — the items of a stream that is unfolded from a state, up to its end.
* `Unfolds.iff_eq` — a stream has one list of items.
* `ReadsLines` — how such a reader gets its next item.
* `ReadsLines.unfolds` — **the items are those of the complete pieces of the whole text, and then
  what the remainder gives.**
-/

set_option autoImplicit false

namespace LineStream

/-! ## Pieces of a text -/

section

variable {α : Type} [DecidableEq α] {sep : α}

/-- The pieces that a separator ends. -/
def complete (sep : α) (text : List α) : List (List α) := (text.splitOn sep).dropLast

/-- What comes after the last separator. -/
def remainder (sep : α) (text : List α) : List α :=
  (text.splitOn sep).getLast (List.splitOn_ne_nil sep text)

theorem splitOn_eq (text : List α) : text.splitOn sep = complete sep text ++ [remainder sep text] :=
  (List.dropLast_append_getLast (List.splitOn_ne_nil sep text)).symm

/-- A text is split before the first separator, or not at all. -/
theorem cases_split (sep : α) (text : List α) :
    sep ∉ text ∨ ∃ piece rest, sep ∉ piece ∧ text = piece ++ sep :: rest := by
  by_cases hmem : sep ∈ text
  · obtain ⟨piece, rest, htext, hpiece⟩ := List.eq_append_cons_of_mem hmem
    exact Or.inr ⟨piece, rest, hpiece, htext⟩
  · exact Or.inl hmem

theorem complete_of_not_mem {text : List α} (h : sep ∉ text) : complete sep text = [] := by
  rw [complete, List.splitOn_eq_singleton h]
  rfl

theorem remainder_of_not_mem {text : List α} (h : sep ∉ text) : remainder sep text = text := by
  simp only [remainder, List.splitOn_eq_singleton h, List.getLast_singleton]

theorem complete_cons {piece : List α} (h : sep ∉ piece) (rest : List α) :
    complete sep (piece ++ sep :: rest) = piece :: complete sep rest := by
  rw [complete, List.splitOn_append_cons_self_of_not_mem h,
    List.dropLast_cons_of_ne_nil (List.splitOn_ne_nil sep rest)]
  rfl

theorem remainder_cons {piece : List α} (h : sep ∉ piece) (rest : List α) :
    remainder sep (piece ++ sep :: rest) = remainder sep rest := by
  simp only [remainder, List.splitOn_append_cons_self_of_not_mem h,
    List.getLast_cons (List.splitOn_ne_nil sep rest)]

/-- Induction on a text piece by piece. -/
theorem pieces_induction (sep : α) {motive : List α → Prop}
    (hrest : ∀ text, sep ∉ text → motive text)
    (hpiece : ∀ piece rest, sep ∉ piece → motive rest → motive (piece ++ sep :: rest)) :
    ∀ text, motive text := by
  intro text
  induction hlength : text.length using Nat.strongRecOn generalizing text with
  | ind length ih =>
    rcases cases_split sep text with hmem | ⟨piece, rest, hnot, rfl⟩
    · exact hrest text hmem
    · have hshorter : rest.length < length := by
        rw [← hlength, List.length_append, List.length_cons]
        omega
      exact hpiece piece rest hnot (ih rest.length hshorter rest rfl)

theorem not_mem_remainder (text : List α) : sep ∉ remainder sep text := by
  induction text using pieces_induction sep with
  | hrest text hmem => rwa [remainder_of_not_mem hmem]
  | hpiece piece rest hnot ih => rwa [remainder_cons hnot]

/-- What comes after a text goes on where its remainder stopped. -/
theorem complete_append (first second : List α) :
    complete sep (first ++ second) = complete sep first ++
      complete sep (remainder sep first ++ second) := by
  induction first using pieces_induction sep with
  | hrest text hmem => rw [complete_of_not_mem hmem, remainder_of_not_mem hmem, List.nil_append]
  | hpiece piece rest hnot ih =>
    rw [List.append_assoc, List.cons_append, complete_cons hnot, complete_cons hnot,
      remainder_cons hnot, ih, List.cons_append]

theorem remainder_append (first second : List α) :
    remainder sep (first ++ second) = remainder sep (remainder sep first ++ second) := by
  induction first using pieces_induction sep with
  | hrest text hmem => rw [remainder_of_not_mem hmem]
  | hpiece piece rest hnot ih =>
    rw [List.append_assoc, List.cons_append, remainder_cons hnot, remainder_cons hnot, ih]

end

/-! ## The items of a stream -/

section

variable {σ ι : Type}

/-- The items that a stream gives from a state on, up to its end. -/
inductive Unfolds (next : σ → Option (ι × σ)) : σ → List ι → Prop where
  | ended {s : σ} : next s = none → Unfolds next s []
  | item {s s' : σ} {i : ι} {items : List ι} :
      next s = some (i, s') → Unfolds next s' items → Unfolds next s (i :: items)

variable {next : σ → Option (ι × σ)} {s s' : σ} {items items' : List ι}

theorem Unfolds.unique (h : Unfolds next s items) (h' : Unfolds next s items') :
    items' = items := by
  induction h generalizing items' with
  | ended hnone =>
    cases h' with
    | ended _ => rfl
    | item hsome _ => cases hnone.symm.trans hsome
  | item hsome _ ih =>
    cases h' with
    | ended hnone => cases hnone.symm.trans hsome
    | item hsome' hrest =>
      cases hsome.symm.trans hsome'
      rw [ih hrest]

theorem Unfolds.iff_eq (h : Unfolds next s items) : Unfolds next s items' ↔ items' = items :=
  ⟨h.unique, fun heq => heq ▸ h⟩

theorem Unfolds.congr (heq : next s = next s') (h : Unfolds next s' items) :
    Unfolds next s items := by
  cases h with
  | ended hnone => exact .ended (heq.trans hnone)
  | item hsome hrest => exact .item (heq.trans hsome) hrest

end

/-! ## Readers -/

/-- A reader in `state buffer source` takes a piece out of its buffer while there is one.  When
there is none it adds the next chunk.  A piece without an item is passed over. -/
structure ReadsLines {α σ ι ρ : Type} (sep : α) (next : σ → Option (ι × σ)) (state : List α → ρ → σ)
    (arrives : List α → ρ → ρ) (itemOf : List α → Option ι) : Prop where
  item : ∀ {piece : List α} {i : ι} (rest : List α) (source : ρ), sep ∉ piece →
    itemOf piece = some i →
    next (state (piece ++ sep :: rest) source) = some (i, state rest source)
  skip : ∀ {piece : List α} (rest : List α) (source : ρ), sep ∉ piece → itemOf piece = none →
    next (state (piece ++ sep :: rest) source) = next (state rest source)
  chunk : ∀ {buffer : List α} (chunk : List α) (source : ρ), sep ∉ buffer →
    next (state buffer (arrives chunk source)) = next (state (buffer ++ chunk) source)

namespace ReadsLines

variable {α σ ι ρ : Type} [DecidableEq α] {sep : α} {next : σ → Option (ι × σ)}
    {state : List α → ρ → σ}
variable {arrives : List α → ρ → ρ} {itemOf : List α → Option ι}

theorem drains (reader : ReadsLines sep next state arrives itemOf) {source : ρ} {items : List ι}
    (buffer : List α) (h : Unfolds next (state (remainder sep buffer) source) items) :
    Unfolds next (state buffer source) ((complete sep buffer).filterMap itemOf ++ items) := by
  induction buffer using pieces_induction sep with
  | hrest buffer hmem =>
    rw [remainder_of_not_mem hmem] at h
    rwa [complete_of_not_mem hmem, List.filterMap_nil, List.nil_append]
  | hpiece piece rest hnot ih =>
    rw [remainder_cons hnot] at h
    rw [complete_cons hnot]
    cases hitem : itemOf piece with
    | none =>
      rw [List.filterMap_cons_none hitem]
      exact (ih h).congr (reader.skip rest source hnot hitem)
    | some i =>
      rw [List.filterMap_cons_some hitem, List.cons_append]
      exact .item (reader.item rest source hnot hitem) (ih h)

/-- **Chunks are not seen in the items.** -/
theorem unfolds (reader : ReadsLines sep next state arrives itemOf) {source : ρ} {items : List ι}
    (chunks : List (List α)) (buffer : List α)
    (h : Unfolds next (state (remainder sep (buffer ++ chunks.flatten)) source) items) :
    Unfolds next (state buffer (chunks.foldr arrives source))
      ((complete sep (buffer ++ chunks.flatten)).filterMap itemOf ++ items) := by
  induction chunks generalizing buffer with
  | nil =>
    rw [List.flatten_nil, List.append_nil] at h ⊢
    exact reader.drains buffer h
  | cons chunk chunks ih =>
    rw [List.flatten_cons, remainder_append, ← List.append_assoc] at h
    rw [List.foldr_cons, List.flatten_cons, complete_append, List.filterMap_append,
      List.append_assoc, ← List.append_assoc (remainder sep buffer)]
    exact reader.drains buffer ((ih _ h).congr (reader.chunk chunk _ (not_mem_remainder buffer)))

end ReadsLines

end LineStream
