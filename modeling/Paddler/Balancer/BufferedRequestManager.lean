import Mathlib.Algebra.Order.Ring.Int
import Paddler.Balancer.Dispatch

/-!
# Buffered requests

Model of `buffered_request_manager.rs`, `buffered_request_counter.rs` and
`buffered_request_count_guard.rs`.  A call of `wait_for_available_agent` takes an agent at once, or
reads the counter, increments it, subscribes to the updates of the pool and then takes an agent or
waits for a change, over and over.  Each of these is a step of its own, and any number of calls run
at the same time.  A call is timed out or dropped only where it awaits `changed`.

`seen` is the version of the watch channel the receiver of a call has seen.

* `WaitMove`, `ManagerStep` — everything a step can do; `step_managerStep` — inversion.
* `bufferedRequests_bounded` — **the counter is the number of live guards**, and **the buffer keeps
  its limit** as long as no call passes the check on a place that is already promised.
-/

set_option autoImplicit false

namespace Paddler

open Run VecUpdate

/-- `buffered_request_agent_wait_result.rs`. -/
inductive BufferedRequestAgentWaitResult where
  | bufferOverflow
  | found (agentController : Nat)
  | timeout
  deriving DecidableEq, Repr

/-- `BufferedRequestCounter`; `updateTx` is how often its own channel was sent on. -/
structure BufferedRequestCounter where
  count : Int
  updateTx : Nat
  deriving DecidableEq, Repr

namespace BufferedRequestCounter

def decrement (self : BufferedRequestCounter) : BufferedRequestCounter :=
  ⟨self.count - 1, self.updateTx + 1⟩

def increment (self : BufferedRequestCounter) : BufferedRequestCounter :=
  ⟨self.count + 1, self.updateTx + 1⟩

end BufferedRequestCounter

/-- Where a call of `wait_for_available_agent` is.  `none` is the result of a call that was
dropped. -/
inductive WaitCall where
  | quickPath (take : Nat)
  | checkingLimit
  | incrementing
  | subscribing
  | looping (seen : Nat)
  | taking (seen take : Nat)
  | changed (seen : Nat)
  | leaving (result : Option BufferedRequestAgentWaitResult)
  | returned (result : Option BufferedRequestAgentWaitResult)
  deriving DecidableEq, Repr

/-- The call holds a `BufferedRequestCountGuard`. -/
def WaitCall.holdsGuard : WaitCall → Bool
  | .subscribing | .looping _ | .taking .. | .changed _ | .leaving _ => true
  | _ => false

/-- The call passed the check of the limit and has not incremented the counter yet. -/
def WaitCall.isIncrementing : WaitCall → Bool
  | .incrementing => true
  | _ => false

/-- The manager, the pool it waits for, and all its calls. -/
structure BufferedRequestManager where
  dispatch : Dispatch
  bufferedRequestCounter : BufferedRequestCounter
  maxBufferedRequests : Int
  waits : List WaitCall
  deriving DecidableEq

/-- What can happen next. -/
inductive ManagerInput where
  | pool (input : DispatchInput)
  | waitForAvailableAgent
  | proceed (wait : Nat)
  | timeout (wait : Nat)
  | drop (wait : Nat)

namespace BufferedRequestManager

/-- `BufferedRequestManager::new`, with a pool that nobody uses. -/
def new (maxBufferedRequests : Int) : BufferedRequestManager :=
  ⟨Dispatch.new, ⟨0, 0⟩, maxBufferedRequests, []⟩

/-- The version of the watch channel of the pool. -/
def version (self : BufferedRequestManager) : Nat := self.dispatch.agentControllerPool.updateTx

/-- What the call gets from `take_least_busy_agent_controller`, once that returned. -/
def taken (self : BufferedRequestManager) (take : Nat) : Option (Option Nat) :=
  match self.dispatch.takes[take]? with
  | some (.returned _ result) => some (result.map (·.agentController))
  | _ => none

/-- The next step of a call that does not start another scan. -/
def next (self : BufferedRequestManager) (wait : WaitCall) : WaitCall × BufferedRequestCounter :=
  match wait with
  | .quickPath take =>
    match self.taken take with
    | some (some arc) => (.returned (some (.found arc)), self.bufferedRequestCounter)
    | some none => (.checkingLimit, self.bufferedRequestCounter)
    | none => (wait, self.bufferedRequestCounter)
  | .checkingLimit =>
    if self.maxBufferedRequests ≤ self.bufferedRequestCounter.count then
      (.returned (some .bufferOverflow), self.bufferedRequestCounter)
    else (.incrementing, self.bufferedRequestCounter)
  | .incrementing => (.subscribing, self.bufferedRequestCounter.increment)
  | .subscribing => (.looping self.version, self.bufferedRequestCounter)
  | .taking seen take =>
    match self.taken take with
    | some (some arc) => (.leaving (some (.found arc)), self.bufferedRequestCounter)
    | some none => (.changed seen, self.bufferedRequestCounter)
    | none => (wait, self.bufferedRequestCounter)
  | .changed seen =>
    if self.version = seen then (wait, self.bufferedRequestCounter)
    else (.looping self.version, self.bufferedRequestCounter)
  | .leaving result => (.returned result, self.bufferedRequestCounter.decrement)
  | .looping _ | .returned _ => (wait, self.bufferedRequestCounter)

/-- A call awaiting `changed` is ended from outside. -/
def interrupt (self : BufferedRequestManager) (wait : Nat)
    (result : Option BufferedRequestAgentWaitResult) : BufferedRequestManager :=
  match self.waits[wait]? with
  | some (.changed _) => { self with waits := self.waits.set wait (.leaving result) }
  | _ => self

/-- One step.  An input that is not enabled changes nothing. -/
def step (ratesDiffer : UInt64 → UInt64 → Bool) (self : BufferedRequestManager) :
    ManagerInput → BufferedRequestManager
  | .pool input => { self with dispatch := self.dispatch.step ratesDiffer input }
  | .waitForAvailableAgent =>
    { self with
      dispatch := self.dispatch.step ratesDiffer .take
      waits := self.waits ++ [.quickPath self.dispatch.takes.length] }
  | .proceed wait =>
    match self.waits[wait]? with
    | some (.looping seen) =>
      { self with
        dispatch := self.dispatch.step ratesDiffer .take
        waits := self.waits.set wait (.taking seen self.dispatch.takes.length) }
    | some call =>
      { self with
        bufferedRequestCounter := (self.next call).2
        waits := self.waits.set wait (self.next call).1 }
    | none => self
  | .timeout wait => self.interrupt wait (some .timeout)
  | .drop wait => self.interrupt wait none

/-- A whole run. -/
def run (ratesDiffer : UInt64 → UInt64 → Bool) (self : BufferedRequestManager)
    (inputs : List ManagerInput) : BufferedRequestManager :=
  inputs.foldl (step ratesDiffer) self

end BufferedRequestManager

/-! ## Inversion -/

/-- What a step can do to a call, and to the counter with it. -/
inductive WaitMove (m : BufferedRequestManager) :
    WaitCall → WaitCall → BufferedRequestCounter → Prop where
  | stay (call : WaitCall) : WaitMove m call call m.bufferedRequestCounter
  | quickFound {take arc : Nat} :
      WaitMove m (.quickPath take) (.returned (some (.found arc))) m.bufferedRequestCounter
  | quickNone {take : Nat} : WaitMove m (.quickPath take) .checkingLimit m.bufferedRequestCounter
  | overflowed : m.maxBufferedRequests ≤ m.bufferedRequestCounter.count →
      WaitMove m .checkingLimit (.returned (some .bufferOverflow)) m.bufferedRequestCounter
  | belowLimit : m.bufferedRequestCounter.count < m.maxBufferedRequests →
      WaitMove m .checkingLimit .incrementing m.bufferedRequestCounter
  | incremented : WaitMove m .incrementing .subscribing m.bufferedRequestCounter.increment
  | subscribed : WaitMove m .subscribing (.looping m.version) m.bufferedRequestCounter
  | found {seen take arc : Nat} :
      WaitMove m (.taking seen take) (.leaving (some (.found arc))) m.bufferedRequestCounter
  | notFound {seen take : Nat} : m.taken take = some none →
      WaitMove m (.taking seen take) (.changed seen) m.bufferedRequestCounter
  | woken {seen : Nat} : WaitMove m (.changed seen) (.looping m.version) m.bufferedRequestCounter
  | interrupted {seen : Nat} {result : Option BufferedRequestAgentWaitResult} :
      WaitMove m (.changed seen) (.leaving result) m.bufferedRequestCounter
  | left {result : Option BufferedRequestAgentWaitResult} :
      WaitMove m (.leaving result) (.returned result) m.bufferedRequestCounter.decrement

theorem next_waitMove (m : BufferedRequestManager) (call : WaitCall) :
    WaitMove m call (m.next call).1 (m.next call).2 := by
  cases call with
  | quickPath take =>
    simp only [BufferedRequestManager.next]
    split
    · exact .quickFound
    · exact .quickNone
    · exact .stay _
  | checkingLimit =>
    simp only [BufferedRequestManager.next]
    split
    · rename_i hfull
      exact .overflowed hfull
    · rename_i hfree
      exact .belowLimit (Int.not_le.mp hfree)
  | incrementing => exact .incremented
  | subscribing => exact .subscribed
  | looping seen => exact .stay _
  | taking seen take =>
    simp only [BufferedRequestManager.next]
    split
    · exact .found
    · rename_i htaken
      exact .notFound htaken
    · exact .stay _
  | changed seen =>
    simp only [BufferedRequestManager.next]
    split
    · exact .stay _
    · exact .woken
  | leaving result => exact .left
  | returned result => exact .stay _

/-- Everything a step can do. -/
inductive ManagerStep (ratesDiffer : UInt64 → UInt64 → Bool) (input : ManagerInput)
    (m m' : BufferedRequestManager) : Prop where
  | pool {poolInput : DispatchInput} :
      input = .pool poolInput →
      m' = { m with dispatch := m.dispatch.step ratesDiffer poolInput } →
      ManagerStep ratesDiffer input m m'
  | called :
      m' = { m with
        dispatch := m.dispatch.step ratesDiffer .take
        waits := m.waits ++ [.quickPath m.dispatch.takes.length] } →
      ManagerStep ratesDiffer input m m'
  | looped {wait seen : Nat} :
      m.waits[wait]? = some (.looping seen) →
      m' = { m with
        dispatch := m.dispatch.step ratesDiffer .take
        waits := m.waits.set wait (.taking seen m.dispatch.takes.length) } →
      ManagerStep ratesDiffer input m m'
  | moved {wait : Nat} {call call' : WaitCall} {counter : BufferedRequestCounter} :
      m.waits[wait]? = some call → WaitMove m call call' counter →
      m' = { m with bufferedRequestCounter := counter, waits := m.waits.set wait call' } →
      ManagerStep ratesDiffer input m m'
  | idle : m' = m → ManagerStep ratesDiffer input m m'

theorem interrupt_managerStep {ratesDiffer : UInt64 → UInt64 → Bool} {input : ManagerInput}
    (m : BufferedRequestManager) (wait : Nat) (result : Option BufferedRequestAgentWaitResult) :
    ManagerStep ratesDiffer input m (m.interrupt wait result) := by
  unfold BufferedRequestManager.interrupt
  split
  · rename_i hcall
    exact .moved hcall .interrupted rfl
  · exact .idle rfl

/-- **Inversion.** -/
theorem step_managerStep (ratesDiffer : UInt64 → UInt64 → Bool) (m : BufferedRequestManager)
    (input : ManagerInput) : ManagerStep ratesDiffer input m (m.step ratesDiffer input) := by
  cases input with
  | pool poolInput => exact .pool rfl rfl
  | waitForAvailableAgent => exact .called rfl
  | proceed wait =>
    simp only [BufferedRequestManager.step]
    split
    · rename_i hcall
      exact .looped hcall rfl
    · rename_i call hcall hlooping
      exact .moved hlooping (next_waitMove m call) rfl
    · exact .idle rfl
  | timeout wait => exact interrupt_managerStep m wait _
  | drop wait => exact interrupt_managerStep m wait _

/-! ## The counter and the limit -/

/-- The number of live guards, which is the number of buffered requests. -/
def BufferedRequestManager.liveGuards (m : BufferedRequestManager) : Nat :=
  m.waits.countP WaitCall.holdsGuard

/-- The number of calls between the check and the increment. -/
def BufferedRequestManager.promised (m : BufferedRequestManager) : Nat :=
  m.waits.countP WaitCall.isIncrementing

/-- What a move adds to the counter is what it adds to the live guards. -/
theorem WaitMove.count {m : BufferedRequestManager} {call call' : WaitCall}
    {counter : BufferedRequestCounter} (h : WaitMove m call call' counter) :
    counter.count + (if call.holdsGuard then 1 else 0) =
      m.bufferedRequestCounter.count + if call'.holdsGuard then 1 else 0 := by
  cases h with
  | incremented => simp [WaitCall.holdsGuard, BufferedRequestCounter.increment]
  | left => simp [WaitCall.holdsGuard, BufferedRequestCounter.decrement]
  | stay | quickFound | quickNone | overflowed _ | belowLimit _ | subscribed | found | notFound _
  | woken | interrupted => simp [WaitCall.holdsGuard]

/-- The counter with the promised places grows only when a call passes the check. -/
theorem WaitMove.places {m : BufferedRequestManager} {call call' : WaitCall}
    {counter : BufferedRequestCounter} (h : WaitMove m call call' counter) :
    counter.count + (if call'.isIncrementing then 1 else 0) ≤
        m.bufferedRequestCounter.count + (if call.isIncrementing then 1 else 0) ∨
      (call = .checkingLimit ∧ call' = .incrementing ∧ counter = m.bufferedRequestCounter) := by
  cases h with
  | belowLimit _ => exact Or.inr ⟨rfl, rfl, rfl⟩
  | incremented => exact Or.inl (by simp [WaitCall.isIncrementing, BufferedRequestCounter.increment])
  | left => exact Or.inl (by simp [WaitCall.isIncrementing, BufferedRequestCounter.decrement])
  | stay | quickFound | quickNone | overflowed _ | subscribed | found | notFound _ | woken
  | interrupted => exact Or.inl (by simp [WaitCall.isIncrementing])

/-- The counter is the number of live guards, whatever happens. -/
theorem count_eq_liveGuards {ratesDiffer : UInt64 → UInt64 → Bool}
    {guard : BufferedRequestManager → ManagerInput → Prop} {limit : Int}
    {m : BufferedRequestManager}
    (h : Reaches (BufferedRequestManager.step ratesDiffer) guard (.new limit) m) :
    m.bufferedRequestCounter.count = m.liveGuards := by
  refine h.invariant (fun m => m.bufferedRequestCounter.count = m.liveGuards) rfl ?_
  intro m input _ hinv _
  cases step_managerStep ratesDiffer m input with
  | pool _ hm | idle hm =>
    rw [hm]
    exact hinv
  | called hm =>
    rw [hm]
    simpa [BufferedRequestManager.liveGuards, WaitCall.holdsGuard] using hinv
  | @looped wait seen hcall hm =>
    have hcount := countP_set_add WaitCall.holdsGuard hcall (.taking seen m.dispatch.takes.length)
    simp only [WaitCall.holdsGuard, if_true] at hcount
    rw [hm]
    simp only [BufferedRequestManager.liveGuards] at hinv ⊢
    omega
  | @moved wait call call' counter hcall hmove hm =>
    have hcount := countP_set_add WaitCall.holdsGuard hcall call'
    have hmoved := hmove.count
    rw [hm]
    simp only [BufferedRequestManager.liveGuards] at hinv ⊢
    cases hholds : call.holdsGuard <;> cases hholds' : call'.holdsGuard <;>
      simp only [hholds, hholds', if_true, Bool.false_eq_true, if_false] at hcount hmoved <;> omega

theorem maxBufferedRequests_reaches {ratesDiffer : UInt64 → UInt64 → Bool}
    {guard : BufferedRequestManager → ManagerInput → Prop} {limit : Int}
    {m : BufferedRequestManager}
    (h : Reaches (BufferedRequestManager.step ratesDiffer) guard (.new limit) m) :
    m.maxBufferedRequests = limit := by
  refine h.invariant (fun m => m.maxBufferedRequests = limit) rfl ?_
  intro m input _ hinv _
  cases step_managerStep ratesDiffer m input with
  | pool _ hm | idle hm | called hm | looped _ hm | moved _ _ hm =>
    rw [hm]
    exact hinv

/-- A call that passes the check finds a place that is not promised to another call. -/
def PlaceLeft (m m' : BufferedRequestManager) : Prop :=
  ∀ wait < m.waits.length, m.waits[wait]? = some .checkingLimit →
    m'.waits[wait]? = some .incrementing →
    m.bufferedRequestCounter.count + m.promised < m.maxBufferedRequests

instance (m m' : BufferedRequestManager) : Decidable (PlaceLeft m m') :=
  inferInstanceAs (Decidable (∀ wait < m.waits.length, _ → _ → _))

/-- Buffered and promised requests keep the limit. -/
def PlacesBounded (m : BufferedRequestManager) : Prop :=
  m.bufferedRequestCounter.count + m.promised ≤ max 0 m.maxBufferedRequests

theorem PlacesBounded.step {ratesDiffer : UInt64 → UInt64 → Bool} {m : BufferedRequestManager}
    {input : ManagerInput} (hinv : PlacesBounded m)
    (hplace : PlaceLeft m (m.step ratesDiffer input)) :
    PlacesBounded (m.step ratesDiffer input) := by
  cases step_managerStep ratesDiffer m input with
  | pool _ hm | idle hm =>
    rw [hm]
    exact hinv
  | called hm =>
    rw [hm]
    simpa [PlacesBounded, BufferedRequestManager.promised, WaitCall.isIncrementing] using hinv
  | @looped wait seen hcall hm =>
    have hcount := countP_set_add WaitCall.isIncrementing hcall
      (.taking seen m.dispatch.takes.length)
    simp only [WaitCall.isIncrementing, Bool.false_eq_true, if_false] at hcount
    rw [hm]
    simp only [PlacesBounded, BufferedRequestManager.promised] at hinv ⊢
    omega
  | @moved wait call call' counter hcall hmove hm =>
    have hlt : wait < m.waits.length := (List.getElem?_eq_some_iff.mp hcall).1
    have hcount := countP_set_add WaitCall.isIncrementing hcall call'
    rw [hm] at hplace ⊢
    rcases hmove.places with hle | ⟨rfl, rfl, rfl⟩
    · simp only [PlacesBounded, BufferedRequestManager.promised] at hinv ⊢
      cases hbefore : call.isIncrementing <;> cases hafter : call'.isIncrementing <;>
        simp only [hbefore, hafter, if_true, Bool.false_eq_true, if_false] at hcount hle <;> omega
    · have hplace := hplace wait hlt hcall (List.getElem?_set_self hlt)
      simp only [PlacesBounded, BufferedRequestManager.promised, WaitCall.isIncrementing, if_true,
        Bool.false_eq_true, if_false] at hcount hplace ⊢
      omega

/-- What the counter promises. -/
structure CounterExact (m : BufferedRequestManager) : Prop where
  counted : m.bufferedRequestCounter.count = m.liveGuards
  nonneg : 0 ≤ m.bufferedRequestCounter.count
  idle : m.liveGuards = 0 → m.bufferedRequestCounter.count = 0

/-- **The buffer.**  In every run the counter is exact.  In every run whose calls pass the check
only on places that are not promised to another call, the buffer keeps its limit. -/
theorem bufferedRequests_bounded {ratesDiffer : UInt64 → UInt64 → Bool} {limit : Int}
    {m : BufferedRequestManager}
    (h : Reaches (BufferedRequestManager.step ratesDiffer) (fun _ _ => True) (.new limit) m) :
    CounterExact m ∧
      (Reaches (BufferedRequestManager.step ratesDiffer)
          (fun m input => PlaceLeft m (m.step ratesDiffer input)) (.new limit) m →
        (m.liveGuards : Int) ≤ max 0 limit) := by
  have hcounted := count_eq_liveGuards h
  refine ⟨⟨hcounted, by omega, fun hidle => by omega⟩, ?_⟩
  intro hplaces
  have hinit : PlacesBounded (.new limit) := le_max_left 0 limit
  have hbound : PlacesBounded m :=
    hplaces.invariant PlacesBounded hinit fun m input _ hinv hplace => hinv.step hplace
  rw [PlacesBounded, maxBufferedRequests_reaches h] at hbound
  omega

/-- The quick path of a call without any agent, up to the check of the limit. -/
def findingNone (wait take : Nat) : List ManagerInput :=
  [.waitForAvailableAgent, .pool (.endScan take), .proceed wait]

/-- From the increment to awaiting a change, without any agent. -/
def buffering (wait take : Nat) : List ManagerInput :=
  [.proceed wait, .proceed wait, .proceed wait, .pool (.endScan take), .proceed wait]

/-- Two requests one after the other: the first is buffered, the second finds the buffer full.  Then
the first times out. -/
def oneAfterTheOther : List ManagerInput :=
  findingNone 0 0 ++ [.proceed 0] ++ buffering 0 1 ++ findingNone 1 2 ++ [.proceed 1, .timeout 0]

def oneBuffered : BufferedRequestManager :=
  (BufferedRequestManager.new 1).run (fun _ _ => false) oneAfterTheOther

theorem bufferedRequests_bounded_oneBuffered :
    oneBuffered.waits = [.leaving (some .timeout), .returned (some .bufferOverflow)] ∧
      oneBuffered.liveGuards = 1 ∧ CounterExact oneBuffered ∧
      (oneBuffered.liveGuards : Int) ≤ max 0 1 := by
  have hreached : Reaches (BufferedRequestManager.step fun _ _ => false) (fun _ _ => True) (.new 1)
      oneBuffered := Reaches.runs _ (fun _ _ _ => trivial) .start
  obtain ⟨hexact, hbounded⟩ := bufferedRequests_bounded hreached
  exact ⟨by decide, by decide, hexact, hbounded (Reaches.along _ (by decide +kernel) .start)⟩

/-- Two requests check the limit before either of them increments the counter. -/
def bothChecked : List ManagerInput :=
  findingNone 0 0 ++ findingNone 1 1 ++ [.proceed 0, .proceed 1] ++ buffering 0 2 ++ buffering 1 3

/-- A buffer of one place holds two requests. -/
theorem bufferedRequests_overrun :
    ((BufferedRequestManager.new 1).run (fun _ _ => false) bothChecked).waits =
      [.changed 0, .changed 0] ∧
    ¬ ∀ m : BufferedRequestManager,
      Reaches (BufferedRequestManager.step (fun _ _ => false)) (fun _ _ => True) (.new 1) m →
      (m.liveGuards : Int) ≤ max 0 1 := by
  refine ⟨by decide, fun hbound => ?_⟩
  have h := hbound _ (Reaches.runs bothChecked (fun _ _ _ => trivial) .start)
  exact absurd h (by decide)

end Paddler
