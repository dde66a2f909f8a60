/-!
# Readers of a shared stream

A reader goes through the items of a stream that it shares with others.  It decodes an item, passes
over what is not its own, and stops at an item that it cannot decode or takes for its last one.

* `takeThrough` — the items up to and including the first with a property.
* `readStream` — what a reader sees.
* `Follows` — the reader sees its own items up to its last one, and stops there.
* `follows_iff` — **a reader follows the stream if and only if up to its last item it decodes every
  item and tells which is the last.**
-/

set_option autoImplicit false

namespace StreamView

variable {α β ε : Type}

/-- The items up to and including the first with `p`. -/
def takeThrough (p : α → Bool) : List α → List α
  | [] => []
  | a :: l => if p a then [a] else a :: takeThrough p l

theorem exists_mem_takeThrough {p : α → Bool} {l : List α} {a : α} (hmem : a ∈ l)
    (ha : p a = true) :
    ∃ b ∈ takeThrough p l, p b = true := by
  induction l with
  | nil => cases hmem
  | cons c l ih =>
    unfold takeThrough
    split
    next hc => exact ⟨c, List.mem_singleton.mpr rfl, hc⟩
    next hc =>
      rcases List.mem_cons.mp hmem with rfl | hrest
      · exact absurd ha hc
      · obtain ⟨b, hb, hpb⟩ := ih hrest
        exact ⟨b, List.mem_cons_of_mem _ hb, hpb⟩

end StreamView

/-- What a reader has seen so far. -/
structure StreamView (β : Type) where
  items : List β
  ended : Bool
  failed : Bool
  deriving DecidableEq, Repr

namespace StreamView

variable {α β ε : Type}

/-- One more item in front. -/
def cons (b : β) (view : StreamView β) : StreamView β :=
  { view with items := b :: view.items }

/-- Reads a stream.  What decodes to `none` is not for this reader. -/
def readStream (decode : α → Except ε (Option β)) (isLast : β → Bool) : List α → StreamView β
  | [] => { items := [], ended := false, failed := false }
  | a :: l =>
    match decode a with
    | .error _ => { items := [], ended := true, failed := true }
    | .ok none => readStream decode isLast l
    | .ok (some b) =>
      if isLast b then { items := [b], ended := true, failed := false }
      else (readStream decode isLast l).cons b

/-- A reader that ended without a failure has seen something. -/
theorem readStream_items_ne_nil {decode : α → Except ε (Option β)} {isLast : β → Bool} {l : List α}
    (hended : (readStream decode isLast l).ended = true)
    (hfailed : (readStream decode isLast l).failed = false) :
    (readStream decode isLast l).items ≠ [] := by
  induction l with
  | nil => cases hended
  | cons a l ih =>
    unfold readStream at hended hfailed ⊢
    cases hdecode : decode a with
    | error e =>
      rw [hdecode] at hfailed
      cases hfailed
    | ok b? =>
      rw [hdecode] at hended hfailed
      cases b? with
      | none => exact ih hended hfailed
      | some b =>
        dsimp only
        split <;> exact List.cons_ne_nil _ _

/-- The reader saw its own items up to its last one, and ended there. -/
structure Follows (decode : α → Except ε (Option β)) (own isEnd : α → Bool) (l : List α)
    (view : StreamView β) : Prop where
  items : view.items.map (fun b => Except.ok (some b)) =
    ((takeThrough isEnd l).filter own).map decode
  ended : view.ended = true ↔ ∃ a ∈ l, isEnd a = true
  failed : view.failed = false

/-- An item is decoded, and it is told whether it is the last one. -/
def Reads (decode : α → Except ε (Option β)) (isLast : β → Bool) (isEnd : α → Bool) (a : α) :
    Prop :=
  ∃ b?, decode a = .ok b? ∧ ∀ b ∈ b?, isLast b = isEnd a

section

variable {decode : α → Except ε (Option β)} {isLast : β → Bool} {own isEnd : α → Bool}

theorem follows_cons_other {a : α} {l : List α} {view : StreamView β} (hown : own a = false)
    (hend : isEnd a = false) :
    Follows decode own isEnd (a :: l) view ↔ Follows decode own isEnd l view := by
  have htake : (takeThrough isEnd (a :: l)).filter own = (takeThrough isEnd l).filter own := by
    simp [takeThrough, hown, hend]
  have hexists : (∃ c ∈ a :: l, isEnd c = true) ↔ ∃ c ∈ l, isEnd c = true := by simp [hend]
  constructor
  · intro h
    exact ⟨htake ▸ h.items, h.ended.trans hexists, h.failed⟩
  · intro h
    exact ⟨htake.symm ▸ h.items, h.ended.trans hexists.symm, h.failed⟩

/-- An item that is decoded and not the last one comes first in what is seen. -/
theorem follows_cons_own {a : α} {b : β} {l : List α} {view : StreamView β}
    (hdecode : decode a = .ok (some b)) (hown : own a = true) (hend : isEnd a = false) :
    Follows decode own isEnd (a :: l) (view.cons b) ↔ Follows decode own isEnd l view := by
  have htake : (takeThrough isEnd (a :: l)).filter own = a :: (takeThrough isEnd l).filter own := by
    simp [takeThrough, hown, hend]
  have hexists : (∃ c ∈ a :: l, isEnd c = true) ↔ ∃ c ∈ l, isEnd c = true := by simp [hend]
  constructor
  · intro h
    have hitems := h.items
    rw [htake, cons, List.map_cons, List.map_cons, hdecode] at hitems
    exact ⟨(List.cons.inj hitems).2, h.ended.trans hexists, h.failed⟩
  · intro h
    refine ⟨?_, h.ended.trans hexists.symm, h.failed⟩
    rw [htake, cons, List.map_cons, List.map_cons, hdecode, h.items]

/-- A reader that ends before its last item does not follow: nothing may come after, and nothing
ends it. -/
theorem not_follows_early (hend : ∀ a, isEnd a = true → own a = true) {a : α} {b : β} {l : List α}
    (hown : own a = true) (hstop : isEnd a = false) :
    ¬ Follows decode own isEnd (a :: l) { items := [b], ended := true, failed := false } := by
  intro h
  obtain ⟨c, hc, hcend⟩ := h.ended.mp rfl
  have hrest : c ∈ l := by
    rcases List.mem_cons.mp hc with rfl | hc
    · exact absurd (hcend.symm.trans hstop) (by simp)
    · exact hc
  obtain ⟨d, hd, hdend⟩ := exists_mem_takeThrough hrest hcend
  have hnone : (takeThrough isEnd l).filter own = [] := by
    have hlength := congrArg List.length h.items
    simpa [takeThrough, hstop, hown] using hlength
  exact List.filter_eq_nil_iff.mp hnone d hd (hend d hdend)

/-- A reader that goes on after its last item does not follow: when it ends, it has seen more. -/
theorem not_follows_late {a : α} {b : β} {l : List α} (hown : own a = true)
    (hstop : isEnd a = true) :
    ¬ Follows decode own isEnd (a :: l) ((readStream decode isLast l).cons b) := by
  intro h
  have hnil : (readStream decode isLast l).items = [] := by
    have hlength := congrArg List.length h.items
    simpa [takeThrough, hstop, hown, cons] using hlength
  have hended : (readStream decode isLast l).ended = true :=
    h.ended.mpr ⟨a, List.mem_cons_self, hstop⟩
  exact readStream_items_ne_nil hended h.failed hnil

theorem mem_takeThrough_cons (a : α) (l : List α) : a ∈ takeThrough isEnd (a :: l) := by
  unfold takeThrough
  split <;> exact List.mem_cons_self

/-- **When a reader follows the stream.**  `own` says which items are decoded to something. -/
theorem follows_iff (hown : ∀ a b?, decode a = .ok b? → b?.isSome = own a)
    (hend : ∀ a, isEnd a = true → own a = true) (l : List α) :
    Follows decode own isEnd l (readStream decode isLast l) ↔
      ∀ a ∈ takeThrough isEnd l, Reads decode isLast isEnd a := by
  induction l with
  | nil =>
    constructor
    · intro _ a hmem
      cases hmem
    · intro _
      exact ⟨rfl, by simp [readStream], rfl⟩
  | cons a l ih =>
    have hmem : a ∈ takeThrough isEnd (a :: l) := mem_takeThrough_cons a l
    rw [readStream]
    cases hdecode : decode a with
    | error e =>
      constructor
      · intro h
        cases h.failed
      · intro h
        obtain ⟨b?, hok, -⟩ := h a hmem
        rw [hdecode] at hok
        cases hok
    | ok b? =>
      have hmine := hown a b? hdecode
      cases b? with
      | none =>
        have hother : isEnd a = false := by
          cases hlast : isEnd a with
          | false => rfl
          | true => exact absurd ((hend a hlast).symm.trans hmine.symm) (by simp)
        have hreads : Reads decode isLast isEnd a := ⟨none, hdecode, fun b hb => by cases hb⟩
        dsimp only
        rw [follows_cons_other hmine.symm hother, ih]
        simp [takeThrough, hother, hreads]
      | some b =>
        have hself : own a = true := hmine.symm
        have hreads : Reads decode isLast isEnd a ↔ isLast b = isEnd a := by
          constructor
          · rintro ⟨b?, hok, hlast⟩
            rw [hdecode] at hok
            cases hok
            exact hlast b rfl
          · intro hlast
            exact ⟨some b, hdecode, fun c hc => by cases hc; exact hlast⟩
        dsimp only
        cases hlast : isLast b <;> cases hstop : isEnd a
        case false.false =>
          rw [if_neg Bool.false_ne_true, follows_cons_own hdecode hself hstop, ih]
          simp [takeThrough, hstop, hreads, hlast]
        case true.true =>
          constructor
          · intro _ c hc
            have hc : c = a := by simpa [takeThrough, hstop] using hc
            rw [hc]
            exact hreads.mpr (hlast.trans hstop.symm)
          · intro _
            refine ⟨?_, ?_, rfl⟩
            · simp [takeThrough, hstop, hself, hdecode]
            · simp [hstop]
        case true.false =>
          refine iff_of_false (not_follows_early hend hself hstop) fun h => ?_
          have hsame := hreads.mp (h a hmem)
          rw [hlast, hstop] at hsame
          cases hsame
        case false.true =>
          refine iff_of_false (not_follows_late hself hstop) fun h => ?_
          have hsame := hreads.mp (h a hmem)
          rw [hlast, hstop] at hsame
          cases hsame

theorem follows_iff_of_reads {P : α → Prop} (hown : ∀ a b?, decode a = .ok b? → b?.isSome = own a)
    (hend : ∀ a, isEnd a = true → own a = true) (hreads : ∀ a, Reads decode isLast isEnd a ↔ P a)
    (l : List α) :
    Follows decode own isEnd l (readStream decode isLast l) ↔ ∀ a ∈ takeThrough isEnd l, P a := by
  rw [follows_iff hown hend]
  constructor
  · intro h a hmem
    exact (hreads a).mp (h a hmem)
  · intro h a hmem
    exact (hreads a).mpr (h a hmem)

end

end StreamView
