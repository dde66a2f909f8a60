/-!
# A value whose changes are announced

Writers store a value and then announce it: they raise the version of a watch channel.  Between the
two steps others may write, announce and read.  A reader marks the version it has seen and reads the
value later, so several announcements may be seen as one, and a value may be read before it is
announced.

* `Announced.Current` — what a reader knows of the value it read last.
* `Current.write`, `Current.announce`, `Current.fresh` — writers keep it, a fresh read gives it.
* `Current.settled` — **a reader that has seen the last announcement read the value that is there.**
-/

set_option autoImplicit false

namespace Watch

/-- A value, the writers that have stored but not announced yet, and the version of the channel. -/
structure Announced (α : Type) where
  value : α
  unannounced : Nat
  version : Nat
  deriving DecidableEq, Repr

namespace Announced

variable {α β : Type}

/-- A writer stores a value. -/
def write (self : Announced α) (value : α) : Announced α :=
  { self with value := value, unannounced := self.unannounced + 1 }

/-- A writer that has stored announces it. -/
def announce (self : Announced α) : Announced α :=
  if self.unannounced = 0 then self
  else { self with unannounced := self.unannounced - 1, version := self.version + 1 }

/-- `seen` was marked before `f` of the value was read: if the value is another one by now, an
announcement is still to come or to be seen. -/
def Current (self : Announced α) (f : α → β) (seen : Nat) (read : β) : Prop :=
  seen ≤ self.version ∧ (read = f self.value ∨ 0 < self.unannounced ∨ seen < self.version)

variable {self : Announced α} {f : α → β} {seen : Nat} {read : β}

theorem Current.write (h : self.Current f seen read) (value : α) :
    (self.write value).Current f seen read :=
  ⟨h.1, Or.inr (Or.inl (Nat.succ_pos _))⟩

theorem le_announce (h : seen ≤ self.version) : seen ≤ self.announce.version := by
  unfold announce
  split
  · exact h
  · exact Nat.le_succ_of_le h

theorem Current.announce (h : self.Current f seen read) : self.announce.Current f seen read := by
  obtain ⟨hle, hcurrent⟩ := h
  refine ⟨le_announce hle, ?_⟩
  unfold Announced.announce
  split
  · exact hcurrent
  · exact Or.inr (Or.inr (Nat.lt_succ_of_le hle))

theorem Current.fresh (h : seen ≤ self.version) : self.Current f seen (f self.value) :=
  ⟨h, Or.inl rfl⟩

/-- **Nothing is missed.** -/
theorem Current.settled (h : self.Current f seen read) (hannounced : self.unannounced = 0)
    (hseen : seen = self.version) : read = f self.value := by
  rcases h.2 with hread | hpending | hlt
  · exact hread
  · omega
  · omega

end Announced

end Watch
