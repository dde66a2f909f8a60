import Mathlib.Algebra.Order.Field.Rat
import Mathlib.Tactic.NormNum

/-!
# The tokens per second of an agent

Model of `token_throughput_meter.rs`, with instants as whole nanoseconds and rates as fractions.  A
call takes no time: both of its clock reads give the same instant.  `Instant::elapsed` is zero for
an instant that is to come.

The abstract side cuts the calls into windows: a call that comes `WINDOW_DURATION` or more after the
start of its window closes it, and the next one starts there.

* `windowsFrom_calls` — every token is in one window, a closed one or the last.
* `meterAfter_eq` — the meter has the rate of the last closed window, and the start and the count of
  the open one.
* `throughputLaw_iff` — **the rate of an agent that went idle drops to zero if and only if** it
  never closed a window or its last token closed one.  A token in the open window keeps the old rate
  for ever.
-/

set_option autoImplicit false

namespace Paddler

/-- `WINDOW_DURATION`. -/
def windowDuration : Nat := 1000000000

/-- `STALE_AFTER`. -/
def staleAfter : Nat := 2000000000

/-- `Duration::as_secs_f64`. -/
def asSecs (duration : Nat) : ℚ := (duration : ℚ) / 1000000000

structure ThroughputWindow where
  tokensPerSecond : ℚ
  windowStartedAt : Nat
  windowTokenCount : Nat
  deriving DecidableEq

/-- `TokenThroughputMeter`; its lock is held during a call. -/
structure TokenThroughputMeter where
  window : ThroughputWindow
  deriving DecidableEq

namespace TokenThroughputMeter

def new (now : Nat) : TokenThroughputMeter := ⟨⟨0, now, 0⟩⟩

def recordToken (self : TokenThroughputMeter) (now : Nat) : TokenThroughputMeter :=
  let elapsed := now - self.window.windowStartedAt
  let windowTokenCount := self.window.windowTokenCount + 1
  if windowDuration ≤ elapsed then ⟨⟨windowTokenCount / asSecs elapsed, now, 0⟩⟩
  else ⟨{ self.window with windowTokenCount := windowTokenCount }⟩

def tokensPerSecond (self : TokenThroughputMeter) (now : Nat) : ℚ :=
  if staleAfter < now - self.window.windowStartedAt ∧ self.window.windowTokenCount = 0 then 0
  else self.window.tokensPerSecond

end TokenThroughputMeter

/-- A meter made at one instant, after these calls. -/
def meterAfter (createdAt : Nat) (calls : List Nat) : TokenThroughputMeter :=
  calls.foldl TokenThroughputMeter.recordToken (.new createdAt)

/-! ## Windows -/

/-- A window that is closed, with the instants at which its tokens were recorded. -/
structure ClosedWindow where
  startedAt : Nat
  closedAt : Nat
  tokens : List Nat
  deriving DecidableEq, Repr

/-- How long the window was open. -/
def ClosedWindow.duration (self : ClosedWindow) : Nat := self.closedAt - self.startedAt

/-- The tokens of the window per second. -/
def ClosedWindow.rate (self : ClosedWindow) : ℚ := self.tokens.length / asSecs self.duration

/-- The windows of a list of calls: those that are closed, and the start and the tokens of the last
one. -/
structure Windows where
  closed : List ClosedWindow
  openedAt : Nat
  opened : List Nat
  deriving DecidableEq, Repr

/-- The calls from a window on that started at an instant and has tokens. -/
def windowsFrom (startedAt : Nat) (tokens : List Nat) : List Nat → Windows
  | [] => ⟨[], startedAt, tokens⟩
  | now :: calls =>
    if windowDuration ≤ now - startedAt then
      let windows := windowsFrom now [] calls
      { windows with closed := ⟨startedAt, now, tokens ++ [now]⟩ :: windows.closed }
    else windowsFrom startedAt (tokens ++ [now]) calls

/-- The windows of a meter. -/
def windowsOf (createdAt : Nat) (calls : List Nat) : Windows := windowsFrom createdAt [] calls

/-- **Every token is in one window.** -/
theorem windowsFrom_calls : ∀ (calls : List Nat) (startedAt : Nat) (tokens : List Nat),
    (windowsFrom startedAt tokens calls).closed.flatMap ClosedWindow.tokens ++
      (windowsFrom startedAt tokens calls).opened = tokens ++ calls
  | [], _, tokens => (List.append_nil tokens).symm
  | now :: calls, startedAt, tokens => by
    rw [windowsFrom]
    split
    · have ih := windowsFrom_calls calls now []
      rw [List.flatMap_cons, List.append_assoc, ih]
      simp
    · have ih := windowsFrom_calls calls startedAt (tokens ++ [now])
      rw [ih]
      simp

theorem windowsOf_calls (createdAt : Nat) (calls : List Nat) :
    (windowsOf createdAt calls).closed.flatMap ClosedWindow.tokens ++
      (windowsOf createdAt calls).opened = calls :=
  windowsFrom_calls calls createdAt []

/-- A closed window was open for `WINDOW_DURATION` or longer, and the token that closed it is in
it. -/
theorem windowsFrom_closed : ∀ (calls : List Nat) (startedAt : Nat) (tokens : List Nat),
    ∀ window ∈ (windowsFrom startedAt tokens calls).closed,
      windowDuration ≤ window.duration ∧ window.closedAt ∈ window.tokens
  | [], _, _, _, hwindow => by cases hwindow
  | now :: calls, startedAt, tokens, window, hwindow => by
    rw [windowsFrom] at hwindow
    split at hwindow
    · rename_i hclose
      rcases List.mem_cons.mp hwindow with rfl | hwindow
      · exact ⟨hclose, by simp⟩
      · exact windowsFrom_closed calls now [] window hwindow
    · exact windowsFrom_closed calls startedAt (tokens ++ [now]) window hwindow

/-- The last of several values, if there are more than the first. -/
theorem getLast?_cons_map_getD {α β : Type} (f : α → β) (x : α) (xs : List α) (default : β) :
    ((x :: xs).getLast?.map f).getD default = (xs.getLast?.map f).getD (f x) := by
  rw [List.getLast?_cons]
  cases xs.getLast? <;> rfl

/-- The last window starts where the window before it was closed. -/
theorem windowsFrom_openedAt : ∀ (calls : List Nat) (startedAt : Nat) (tokens : List Nat),
    (windowsFrom startedAt tokens calls).openedAt =
      ((windowsFrom startedAt tokens calls).closed.getLast?.map (·.closedAt)).getD startedAt
  | [], _, _ => rfl
  | now :: calls, startedAt, tokens => by
    rw [windowsFrom]
    split
    · dsimp only
      rw [windowsFrom_openedAt calls now [], getLast?_cons_map_getD]
    · exact windowsFrom_openedAt calls startedAt (tokens ++ [now])

/-! ## The meter and the windows -/

theorem recordToken_eq (rate : ℚ) (startedAt windowTokenCount now : Nat) :
    TokenThroughputMeter.recordToken ⟨⟨rate, startedAt, windowTokenCount⟩⟩ now =
      if windowDuration ≤ now - startedAt then
        ⟨⟨((windowTokenCount + 1 : Nat) : ℚ) / asSecs (now - startedAt), now, 0⟩⟩
      else ⟨⟨rate, startedAt, windowTokenCount + 1⟩⟩ := rfl

/-- The loop invariant: the meter counts the tokens of the open window. -/
theorem foldl_recordToken : ∀ (calls : List Nat) (rate : ℚ) (startedAt : Nat) (tokens : List Nat),
    calls.foldl TokenThroughputMeter.recordToken ⟨⟨rate, startedAt, tokens.length⟩⟩ =
      ⟨⟨((windowsFrom startedAt tokens calls).closed.getLast?.map (·.rate)).getD rate,
        (windowsFrom startedAt tokens calls).openedAt,
          (windowsFrom startedAt tokens calls).opened.length⟩⟩
  | [], _, _, _ => rfl
  | now :: calls, rate, startedAt, tokens => by
    rw [List.foldl_cons, windowsFrom, recordToken_eq]
    split
    · have ih := foldl_recordToken calls (ClosedWindow.rate ⟨startedAt, now, tokens ++ [now]⟩) now
        []
      have hrate : ClosedWindow.rate ⟨startedAt, now, tokens ++ [now]⟩ =
          ((tokens.length + 1 : Nat) : ℚ) / asSecs (now - startedAt) := by
        unfold ClosedWindow.rate ClosedWindow.duration
        rw [List.length_append, List.length_singleton]
      rw [List.length_nil, hrate] at ih
      rw [ih, getLast?_cons_map_getD, hrate]
    · have ih := foldl_recordToken calls rate startedAt (tokens ++ [now])
      rw [List.length_append, List.length_singleton] at ih
      exact ih

/-- **The meter has the rate of the last closed window**, and the start and the count of the open
one. -/
theorem meterAfter_eq (createdAt : Nat) (calls : List Nat) :
    meterAfter createdAt calls =
      ⟨⟨((windowsOf createdAt calls).closed.getLast?.map (·.rate)).getD 0,
        (windowsOf createdAt calls).openedAt, (windowsOf createdAt calls).opened.length⟩⟩ :=
  foldl_recordToken calls 0 createdAt []

theorem rate_ne_zero {createdAt : Nat} {calls : List Nat} {window : ClosedWindow}
    (h : window ∈ (windowsOf createdAt calls).closed) : window.rate ≠ 0 := by
  obtain ⟨hduration, hclosed⟩ := windowsFrom_closed calls createdAt [] window h
  have hpos : 0 < window.duration := Nat.lt_of_lt_of_le (by decide) hduration
  have htokens : window.tokens.length ≠ 0 :=
    fun hnil => List.ne_nil_of_mem hclosed (List.length_eq_zero_iff.mp hnil)
  unfold ClosedWindow.rate asSecs
  refine div_ne_zero (Nat.cast_ne_zero.mpr htokens)
    (div_ne_zero (Nat.cast_ne_zero.mpr ?_) (by norm_num))
  exact Nat.ne_of_gt hpos

/-- The rate is that of the last closed window, unless the meter is stale with an empty window. -/
theorem tokensPerSecond_cases (createdAt : Nat) (calls : List Nat) (t : Nat) :
    (meterAfter createdAt calls).tokensPerSecond t = 0 ∨
      ∃ window ∈ (windowsOf createdAt calls).closed,
        (meterAfter createdAt calls).tokensPerSecond t = window.rate := by
  rw [meterAfter_eq]
  unfold TokenThroughputMeter.tokensPerSecond
  split
  · exact Or.inl rfl
  · cases hlast : (windowsOf createdAt calls).closed.getLast? with
    | none => exact Or.inl rfl
    | some window => exact Or.inr ⟨window, List.mem_of_getLast? hlast, rfl⟩

/-! ## An agent that goes idle -/

/-- No token was recorded during the last `STALE_AFTER` before `t`. -/
def Idle (calls : List Nat) (t : Nat) : Prop := ∀ now ∈ calls, now + staleAfter < t

/-- What a meter should report at `t`: nothing for an idle agent, otherwise nothing or the rate of
one closed window of at least `WINDOW_DURATION`, with every token in one window. -/
structure ThroughputLaw (createdAt : Nat) (calls : List Nat) (t : Nat) : Prop where
  idle : Idle calls t → (meterAfter createdAt calls).tokensPerSecond t = 0
  measured : ¬ Idle calls t → (meterAfter createdAt calls).tokensPerSecond t = 0 ∨
    ∃ window ∈ (windowsOf createdAt calls).closed, windowDuration ≤ window.duration ∧
      (meterAfter createdAt calls).tokensPerSecond t = window.tokens.length / asSecs window.duration
  partition : (windowsOf createdAt calls).closed.flatMap ClosedWindow.tokens ++
    (windowsOf createdAt calls).opened = calls

/-- A window was closed, and no token came after it: the open one starts at a token. -/
theorem openedAt_mem {createdAt : Nat} {calls : List Nat}
    (hclosed : (windowsOf createdAt calls).closed ≠ []) :
    (windowsOf createdAt calls).openedAt ∈ calls := by
  have hopenedAt := windowsFrom_openedAt calls createdAt []
  rw [show windowsFrom createdAt [] calls = windowsOf createdAt calls from rfl,
    List.getLast?_eq_some_getLast hclosed] at hopenedAt
  have hlast := List.getLast_mem hclosed
  obtain ⟨-, htoken⟩ := windowsFrom_closed calls createdAt [] _ hlast
  have hmem := List.mem_append_left (windowsOf createdAt calls).opened
    (List.mem_flatMap.mpr ⟨_, hlast, htoken⟩)
  rw [windowsOf_calls] at hmem
  rw [hopenedAt]
  exact hmem

/-- **When the law holds**: for an agent that is not idle, and for an idle one if and only if no
window was ever closed or the last token closed one. -/
theorem throughputLaw_iff (createdAt : Nat) (calls : List Nat) (t : Nat) :
    ThroughputLaw createdAt calls t ↔
      ¬ Idle calls t ∨ (windowsOf createdAt calls).closed = [] ∨
      (windowsOf createdAt calls).opened = [] := by
  constructor
  · intro hlaw
    by_contra hnot
    obtain ⟨hidle, hclosed, hopened⟩ : Idle calls t ∧ (windowsOf createdAt calls).closed ≠ [] ∧
        (windowsOf createdAt calls).opened ≠ [] := by
      simpa [not_or] using hnot
    have hzero := hlaw.idle hidle
    rw [meterAfter_eq] at hzero
    unfold TokenThroughputMeter.tokensPerSecond at hzero
    rw [if_neg fun h => hopened (List.length_eq_zero_iff.mp h.2),
      List.getLast?_eq_some_getLast hclosed] at hzero
    exact rate_ne_zero (List.getLast_mem hclosed) hzero
  · intro hcondition
    refine ⟨fun hidle => ?_, fun _ => ?_, windowsOf_calls createdAt calls⟩
    · by_cases hclosed : (windowsOf createdAt calls).closed = []
      · have hrate := tokensPerSecond_cases createdAt calls t
        rw [hclosed] at hrate
        simpa using hrate
      · have hopened := (hcondition.resolve_left (not_not.mpr hidle)).resolve_left hclosed
        have hstale := hidle _ (openedAt_mem hclosed)
        rw [meterAfter_eq]
        unfold TokenThroughputMeter.tokensPerSecond
        refine if_pos ⟨?_, by rw [hopened]; rfl⟩
        dsimp only
        omega
    · rcases tokensPerSecond_cases createdAt calls t with hzero | ⟨window, hwindow, hrate⟩
      · exact Or.inl hzero
      · exact Or.inr ⟨window, hwindow, (windowsFrom_closed calls createdAt [] window hwindow).1,
          hrate⟩

/-- A window is closed after one second, half a second later a token opens the next one, and then
nothing comes: eight seconds later the rate is still reported. -/
theorem throughputLaw_fails : ¬ ThroughputLaw 0 [1000000000, 1500000000] 10000000000 := by
  have hwindows : windowsOf 0 [1000000000, 1500000000] =
      ⟨[⟨0, 1000000000, [1000000000]⟩], 1000000000, [1500000000]⟩ := by decide
  have hidle : Idle [1000000000, 1500000000] 10000000000 := by
    unfold Idle
    decide
  intro hlaw
  have hzero := hlaw.idle hidle
  rw [meterAfter_eq, hwindows] at hzero
  unfold TokenThroughputMeter.tokensPerSecond at hzero
  rw [if_neg (by simp)] at hzero
  have hclosed : (⟨0, 1000000000, [1000000000]⟩ : ClosedWindow) ∈
      (windowsOf 0 [1000000000, 1500000000]).closed := by
    rw [hwindows]
    exact List.mem_singleton.mpr rfl
  exact rate_ne_zero hclosed hzero

end Paddler
