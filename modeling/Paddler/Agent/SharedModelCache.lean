import Paddler.Agent.UrlModelSource
import Paddler.Download.CompletionIntegrity
import Paddler.Download.PrefixInvariant

/-!
# A cache that several agents share

Any number of agent processes resolve one URL into one cache directory, in any interleaving of their
steps.  The lock is mutually exclusive; a process that downloads holds it, and releases it when it
returns, when its future is dropped or when it dies.

* `SharedCache.step` — one step of one process.
* `CacheInv`, `CachedInv` — what always holds, and what holds while nobody acts on a stale check.
* `SoundStep` — what is expected of a step; `CarefulStep` — the condition on the state before it.
* `sharedCache_sound_iff` — **the steps of a run are sound if and only if they are careful.**
* `staleCheck_downloadsAgain` — a process that acts on a stale check replaces the file.
-/

set_option autoImplicit false

namespace Paddler

open Run

/-! ## The processes -/

variable {Pid : Type} [DecidableEq Pid]

/-- The files, the holder of the lock, and where each process is and what it told its status. -/
structure SharedCache (Pid : Type) where
  files : Files
  lock : Option Pid
  phases : Pid → ResolvePhase
  calls : Pid → List StatusMutation

/-- What a process does next. -/
inductive CacheInput where
  | resolver (input : ResolveInput)
  | killed
  deriving DecidableEq

instance : ∀ phase : ResolvePhase, Decidable phase.IsDownloading
  | .downloading _ => isTrue trivial
  | .idle | .checking | .preparing | .locking | .returned _ => isFalse id

variable (source : ModelUrl) (versions : Set (List UInt8))

namespace SharedCache

/-- The guard of the lock lives while the process downloads. -/
def lockAfter (pid : Pid) (lock : Option Pid) (phase : ResolvePhase) : Option Pid :=
  if phase.IsDownloading then some pid else if lock = some pid then none else lock

/-- One step of one process. -/
def step (s : SharedCache Pid) (input : Pid × CacheInput) : SharedCache Pid :=
  match input.2 with
  | .resolver resolveInput =>
    let next := resolveStep source s.lock.isNone s.files (s.phases input.1) resolveInput
    { files := next.1
      lock := lockAfter input.1 s.lock next.2.1
      phases := Function.update s.phases input.1 next.2.1
      calls := Function.update s.calls input.1 (s.calls input.1 ++ next.2.2) }
  | .killed =>
    { s with
      lock := lockAfter input.1 s.lock .idle
      phases := Function.update s.phases input.1 .idle
      calls := Function.update s.calls input.1 [] }

/-- Before any process resolves the URL. -/
def init (files : Files) : SharedCache Pid where
  files := files
  lock := none
  phases := fun _ => .idle
  calls := fun _ => []

/-- What a compliant server answers the downloads with. -/
def CompliantStep (s : SharedCache Pid) (input : Pid × CacheInput) : Prop :=
  ∀ attempt downloadInput, s.phases input.1 = .downloading attempt →
    input.2 = .resolver (.download downloadInput) →
    Compliant versions ⟨s.files, attempt⟩ downloadInput

/-! ## What is expected, and the condition -/

/-- The partial file is changed by the holder of the lock only, a file in the cache is neither
downloaded again nor replaced, and a resolved path has a version. -/
structure SoundStep (s : SharedCache Pid) (input : Pid × CacheInput) : Prop where
  partial_locked : (s.step source input).files source.partialFile.partialPath ≠
    s.files source.partialFile.partialPath → s.lock = some input.1
  cached_kept : s.files source.cached.cacheFilePath ≠ none →
    (s.step source input).files source.cached.cacheFilePath = s.files source.cached.cacheFilePath ∧
      ∀ pid, ¬ ((s.step source input).phases pid).IsDownloading
  resolved_complete : ∀ path, s.phases input.1 ≠ .returned (.ok (.resolved path)) →
    (s.step source input).phases input.1 = .returned (.ok (.resolved path)) →
      ∃ version ∈ versions, (s.step source input).files path = some version

/-- Nobody acquires the lock when the file is in the cache, and the answer to a download that
completes finishes a version. -/
def CarefulStep (s : SharedCache Pid) (input : Pid × CacheInput) : Prop :=
  (input.2 = .resolver (.tryLock none none) → s.phases input.1 = .locking → s.lock = none →
      s.files source.cached.cacheFilePath = none) ∧
    ∀ attempt, input.2 = .resolver (.download (.rename none)) →
      s.phases input.1 = .downloading attempt → attempt.phase = .finalizing →
        ∃ answer ∈ attempt.answer, answer.Finishes versions attempt.found

/-! ## What always holds -/

/-- Who downloads holds the lock, and its attempt is as it should be. -/
structure CacheInv (s : SharedCache Pid) : Prop where
  lock_iff : ∀ pid, (s.phases pid).IsDownloading ↔ s.lock = some pid
  attempt : ∀ pid attempt, s.phases pid = .downloading attempt →
    AttemptInv source.partialFile (· = []) s.files attempt ∧ ¬ attempt.phase.IsOver ∧
      ∀ answer ∈ attempt.answer, ∃ version ∈ versions, answer.IsOf version

end SharedCache

variable {source : ModelUrl} {versions : Set (List UInt8)}

theorem ModelUrl.partialPath_ne (source : ModelUrl) :
    source.partialFile.partialPath ≠ source.partialFile.finalPath :=
  CachedDownloadedModel.partialPath_ne source.sha256 source.cacheRoot source.url

theorem AttemptStep.not_idle {partialFile : PartialFile} {files files' : Files}
    {attempt attempt' : Attempt} {input : AttemptInput}
    (h : AttemptStep partialFile files attempt input files' attempt')
    (hidle : attempt'.phase = .idle) : attempt.phase = .idle := by
  cases h
  case stays => exact hidle
  case writesSome next_eq =>
    rcases next_eq with rfl | ⟨ioError, rfl⟩
    · cases hidle
    · cases hidle
  all_goals cases hidle

/-- A step of a download that changes the file in the cache completes it. -/
theorem download_final {files files' : Files} {attempt attempt' : Attempt} {input : AttemptInput}
    (h : AttemptStep source.partialFile files attempt input files' attempt') :
    files' source.cached.cacheFilePath = files source.cached.cacheFilePath ∨
      attempt'.phase = .returned (.ok .completed) := by
  rcases h.final_eq source.partialPath_ne with hsame | ⟨-, -, -, hcompleted⟩
  · exact Or.inl hsame
  · exact Or.inr hcompleted

namespace ResolveStep

variable {lockIsFree : Bool} {files files' : Files} {phase phase' : ResolvePhase}
    {input : ResolveInput}

theorem files_eq (h : ResolveStep source lockIsFree files phase input files' phase')
    (hphase : ¬ phase.IsDownloading) : files' = files := by
  cases h
  case downloads attempt input phase_eq step active =>
    rw [phase_eq] at hphase
    exact absurd trivial hphase
  case ends attempt attempt' input phase_eq step after resolved =>
    rw [phase_eq] at hphase
    exact absurd trivial hphase
  all_goals rfl

/-- Who downloads did so before, or has just acquired the lock. -/
theorem isDownloading (h : ResolveStep source lockIsFree files phase input files' phase')
    (hphase : phase'.IsDownloading) :
    phase.IsDownloading ∨
      phase = .locking ∧ lockIsFree = true ∧ input = .tryLock none none ∧ files' = files ∧
        phase' = .downloading { Attempt.fresh with phase := .sizing } := by
  cases h
  case stays => exact Or.inl hphase
  case quiet before after unresolved => exact absurd hphase after
  case isCached => exact absurd hphase id
  case locks phase_eq free => exact Or.inr ⟨phase_eq, free, rfl, rfl, rfl⟩
  case downloads attempt attempt' input phase_eq step active =>
    rw [phase_eq]
    exact Or.inl trivial
  case ends after resolved => exact absurd hphase after

theorem attempt_cases {attempt' : Attempt}
    (h : ResolveStep source lockIsFree files phase input files' phase')
    (hphase' : phase' = .downloading attempt') :
    phase = .downloading attempt' ∧ files' = files ∨
      attempt' = { Attempt.fresh with phase := .sizing } ∨
      ∃ attempt downloadInput, phase = .downloading attempt ∧ input = .download downloadInput ∧
        AttemptStep source.partialFile files attempt downloadInput files' attempt' ∧
        (attempt'.phase.IsOver → attempt'.phase = .idle) := by
  cases h
  case stays => exact Or.inl ⟨hphase', rfl⟩
  case quiet before after unresolved =>
    rw [hphase'] at after
    exact absurd trivial after
  case isCached => cases hphase'
  case locks =>
    cases hphase'
    exact Or.inr (Or.inl rfl)
  case downloads attempt _ downloadInput phase_eq active step =>
    cases hphase'
    exact Or.inr (Or.inr ⟨attempt, downloadInput, phase_eq, rfl, step, active⟩)
  case ends after resolved =>
    rw [hphase'] at after
    exact absurd trivial after

theorem resolved_cases {path : PathBuf}
    (h : ResolveStep source lockIsFree files phase input files' phase')
    (hbefore : phase ≠ .returned (.ok (.resolved path)))
    (hphase' : phase' = .returned (.ok (.resolved path))) :
    path = source.cached.cacheFilePath ∧
      (files path ≠ none ∧ files' = files ∨
        ∃ attempt attempt' downloadInput, phase = .downloading attempt ∧
          input = .download downloadInput ∧
          AttemptStep source.partialFile files attempt downloadInput files' attempt' ∧
          attempt'.phase = .returned (.ok .completed)) := by
  cases h
  case stays => exact absurd hphase' hbefore
  case quiet before after unresolved => exact absurd hphase' (unresolved path)
  case isCached phase_eq file =>
    cases hphase'
    exact ⟨rfl, Or.inl ⟨Option.isSome_iff_ne_none.mp file, rfl⟩⟩
  case locks => cases hphase'
  case downloads => cases hphase'
  case ends attempt attempt' downloadInput phase_eq step after resolved =>
    obtain ⟨hpath, hcompleted⟩ := (resolved path).mp hphase'
    exact ⟨hpath, Or.inr ⟨attempt, attempt', downloadInput, phase_eq, rfl, step, hcompleted⟩⟩

theorem final_cases (h : ResolveStep source lockIsFree files phase input files' phase')
    (hchanged : files' source.cached.cacheFilePath ≠ files source.cached.cacheFilePath) :
    ∃ attempt attempt' downloadInput, phase = .downloading attempt ∧
    input = .download downloadInput ∧
      AttemptStep source.partialFile files attempt downloadInput files' attempt' ∧
      attempt'.phase = .returned (.ok .completed) ∧
      phase' = .returned (.ok (.resolved source.cached.cacheFilePath)) := by
  cases h
  case downloads attempt attempt' downloadInput phase_eq active step =>
    rcases download_final step with hsame | hcompleted
    · exact absurd hsame hchanged
    · have hidle := active (by rw [hcompleted]; trivial)
      rw [hcompleted] at hidle
      cases hidle
  case ends attempt attempt' downloadInput phase_eq step after resolved =>
    rcases download_final step with hsame | hcompleted
    · exact absurd hsame hchanged
    · exact ⟨attempt, attempt', downloadInput, phase_eq, rfl, step, hcompleted,
        (resolved _).mpr ⟨rfl, hcompleted⟩⟩
  all_goals exact absurd rfl hchanged

end ResolveStep

namespace SharedCache

/-- What a step of a process does to its place and to the files. -/
theorem step_resolver (s : SharedCache Pid) (pid : Pid) (input : ResolveInput) :
    ResolveStep source s.lock.isNone s.files (s.phases pid) input
      (s.step source (pid, .resolver input)).files
      ((s.step source (pid, .resolver input)).phases pid) := by
  have h := @resolveStep_spec source s.lock.isNone s.files (s.phases pid) input
  simpa only [step, Function.update_self] using h

theorem step_lock (s : SharedCache Pid) (pid : Pid) (input : ResolveInput) :
    (s.step source (pid, .resolver input)).lock =
      lockAfter pid s.lock ((s.step source (pid, .resolver input)).phases pid) := by
  simp only [step, Function.update_self]

theorem step_phases_of_ne (s : SharedCache Pid) {pid other : Pid} (input : CacheInput)
    (hne : other ≠ pid) : (s.step source (pid, input)).phases other = s.phases other := by
  cases input <;> exact Function.update_of_ne hne _ _

theorem lockAfter_iff {phases : Pid → ResolvePhase} {lock : Option Pid}
    (hlock : ∀ pid, (phases pid).IsDownloading ↔ lock = some pid) {pid : Pid} {next : ResolvePhase}
    (hnext : next.IsDownloading → (phases pid).IsDownloading ∨ lock = none) (other : Pid) :
    (Function.update phases pid next other).IsDownloading ↔ lockAfter pid lock next =
      some other := by
  unfold lockAfter
  by_cases hother : other = pid
  · subst hother
    rw [Function.update_self]
    by_cases hdownloading : next.IsDownloading
    · simp [hdownloading]
    · rw [if_neg hdownloading]
      split
      · simp [hdownloading]
      · rename_i hne
        simp [hdownloading, hne]
  · rw [Function.update_of_ne hother, hlock other]
    by_cases hdownloading : next.IsDownloading
    · have hlockNe : lock ≠ some other := by
        rcases hnext hdownloading with hphase | hnone
        · rw [(hlock pid).mp hphase]
          simpa using Ne.symm hother
        · simp [hnone]
      simp [hdownloading, hlockNe, Ne.symm hother]
    · rw [if_neg hdownloading]
      split
      · rename_i heq
        simp [heq, Ne.symm hother]
      · exact Iff.rfl

omit [DecidableEq Pid] in
theorem CacheInv.notDownloading {s : SharedCache Pid} (h : CacheInv source versions s)
    (hlock : s.lock = none) (pid : Pid) : ¬ (s.phases pid).IsDownloading := by
  rw [h.lock_iff, hlock]
  exact nofun

omit [DecidableEq Pid] in
theorem init_cacheInv (files : Files) :
    CacheInv source versions (init files : SharedCache Pid) where
  lock_iff := fun pid => by simp [init, ResolvePhase.IsDownloading]
  attempt := fun pid attempt hphase => by simp [init] at hphase

theorem CacheInv.attempt_other {s : SharedCache Pid} (h : CacheInv source versions s)
    {pid other : Pid} (hother : other ≠ pid) (input : CacheInput) {attempt : Attempt}
    (hphase : (s.step source (pid, input)).phases other = .downloading attempt) :
    s.phases other = .downloading attempt ∧ (s.step source (pid, input)).files = s.files := by
  rw [step_phases_of_ne s input hother] at hphase
  refine ⟨hphase, ?_⟩
  cases input with
  | killed => rfl
  | resolver input =>
    refine (step_resolver s pid input).files_eq fun hdownloading => ?_
    have hlock := (h.lock_iff other).mp (by rw [hphase]; trivial)
    rw [h.lock_iff, hlock, Option.some.injEq] at hdownloading
    exact hother hdownloading

omit [DecidableEq Pid] in
theorem CacheInv.attempt_own {s : SharedCache Pid} (h : CacheInv source versions s) {pid : Pid}
    {input : ResolveInput} (hcompliant : CompliantStep versions s (pid, .resolver input))
    {files' : Files} {phase' : ResolvePhase} {attempt' : Attempt}
    (hstep : ResolveStep source s.lock.isNone s.files (s.phases pid) input files' phase')
    (hphase' : phase' = .downloading attempt') :
    AttemptInv source.partialFile (· = []) files' attempt' ∧ ¬ attempt'.phase.IsOver ∧
      ∀ answer ∈ attempt'.answer, ∃ version ∈ versions, answer.IsOf version := by
  rcases hstep.attempt_cases hphase' with
    ⟨hphase, rfl⟩ | rfl | ⟨attempt, downloadInput, hphase, rfl, hspec, hactive⟩
  · exact h.attempt pid attempt' hphase
  · exact ⟨rfl, id, by simp [Attempt.fresh]⟩
  · obtain ⟨hinv, hover, hanswers⟩ := h.attempt pid attempt hphase
    have hguard := hcompliant attempt downloadInput hphase rfl
    refine ⟨hinv.next hspec ?_, fun hover' => ?_, fun answer hanswer => ?_⟩
    · rintro rfl rest hrest
      exact hguard rest hrest
    · rw [hspec.not_idle (hactive hover')] at hover
      exact hover trivial
    · rcases hspec.answer_eq hanswer with hbefore | rfl
      · exact hanswers answer hbefore
      · exact hguard.1

/-- **Every step keeps what always holds.** -/
theorem CacheInv.next {s : SharedCache Pid} (h : CacheInv source versions s)
    (input : Pid × CacheInput) (hcompliant : CompliantStep versions s input) :
    CacheInv source versions (s.step source input) := by
  obtain ⟨pid, input⟩ := input
  refine ⟨?_, ?_⟩
  · intro other
    cases input with
    | killed => exact lockAfter_iff h.lock_iff (fun hdownloading => absurd hdownloading id) other
    | resolver input =>
      rw [step_lock]
      have hiff : (Function.update s.phases pid ((s.step source (pid, .resolver input)).phases pid)
          other).IsDownloading ↔ _ = some other := lockAfter_iff h.lock_iff ?_ other
      · rw [← hiff]
        simp only [step, Function.update_self]
      · intro hdownloading
        rcases (step_resolver s pid input).isDownloading hdownloading with hbefore | ⟨-, hfree, -⟩
        · exact Or.inl hbefore
        · exact Or.inr (Option.isNone_iff_eq_none.mp hfree)
  · intro other attempt hphase
    by_cases hother : other = pid
    · subst hother
      cases input with
      | killed => simp [step] at hphase
      | resolver input => exact h.attempt_own hcompliant (step_resolver s other input) hphase
    · obtain ⟨hbefore, hfiles⟩ := h.attempt_other hother input hphase
      rw [hfiles]
      exact h.attempt other attempt hbefore

/-- **Only the holder of the lock changes a file**, whatever the checks were. -/
theorem CacheInv.changed_locked {s : SharedCache Pid} (h : CacheInv source versions s)
    (input : Pid × CacheInput) {path : PathBuf}
    (hchanged : (s.step source input).files path ≠ s.files path) : s.lock = some input.1 := by
  obtain ⟨pid, input⟩ := input
  cases input with
  | killed => exact absurd rfl hchanged
  | resolver input =>
    rw [← h.lock_iff]
    by_contra hphase
    exact hchanged (congrFun ((step_resolver s pid input).files_eq hphase) path)

/-! ## Careful steps are sound -/

/-- What holds while nobody acts on a stale check: a file in the cache is a version, and nobody
downloads. -/
def CachedInv (source : ModelUrl) (versions : Set (List UInt8)) (s : SharedCache Pid) : Prop :=
  s.files source.cached.cacheFilePath ≠ none →
    s.lock = none ∧ ∃ version ∈ versions, s.files source.cached.cacheFilePath = some version

theorem download_completes {files files' : Files} {attempt attempt' : Attempt}
    {input : AttemptInput} (h : AttemptStep source.partialFile files attempt input files' attempt')
    (hactive : ¬ attempt.phase.IsOver) (hcompleted : attempt'.phase = .returned (.ok .completed)) :
    input = .rename none ∧ attempt.phase = .finalizing ∧ attempt'.answer = attempt.answer ∧
      attempt'.found = attempt.found := by
  cases h
  case stays =>
    rw [hcompleted] at hactive
    exact absurd trivial hactive
  case givesUp result active incomplete kept =>
    cases hcompleted
    exact absurd rfl incomplete
  case writesSome next_eq =>
    rcases next_eq with rfl | ⟨ioError, rfl⟩
    · cases hcompleted
    · cases hcompleted
  case renames bytes phase file => exact ⟨rfl, phase, rfl, rfl⟩
  all_goals cases hcompleted

omit [DecidableEq Pid] in
/-- What is installed by a download that completes, in the state `s` of the cache. -/
theorem CacheInv.installed {s : SharedCache Pid} (h : CacheInv source versions s) {pid : Pid}
    {attempt attempt' : Attempt} {downloadInput : AttemptInput} {files' : Files}
    (hphase : s.phases pid = .downloading attempt)
    (hspec : AttemptStep source.partialFile s.files attempt downloadInput files' attempt')
    (hcompleted : attempt'.phase = .returned (.ok .completed)) :
    (∃ version ∈ versions, files' source.cached.cacheFilePath = some version) ↔
      ∃ answer ∈ attempt.answer, answer.Finishes versions attempt.found := by
  obtain ⟨hinv, hactive, hanswers⟩ := h.attempt pid attempt hphase
  obtain ⟨rfl, hfinalizing, hanswer, hfound⟩ := download_completes hspec hactive hcompleted
  have hinv' := hinv.next hspec nofun
  rw [← hanswer] at hanswers
  rw [← hanswer, ← hfound]
  exact installed_iff hinv' hanswers hcompleted

theorem careful_notDownloading {s : SharedCache Pid} (h : CacheInv source versions s)
    (hcached : CachedInv source versions s) {pid : Pid} {input : ResolveInput}
    (hcareful : CarefulStep source versions s (pid, .resolver input))
    (hphase : ¬ (s.phases pid).IsDownloading) :
    SoundStep source versions s (pid, .resolver input) ∧
      CachedInv source versions (s.step source (pid, .resolver input)) := by
  have hstep : ResolveStep source _ _ _ _ _ _ := step_resolver s pid input
  have hfiles := hstep.files_eq hphase
  have hnone : s.files source.cached.cacheFilePath ≠ none →
      ∀ other, ¬ ((s.step source (pid, .resolver input)).phases other).IsDownloading := by
    intro hfile other hdownloading
    obtain ⟨hlock, -⟩ := hcached hfile
    by_cases hother : other = pid
    · subst hother
      rcases hstep.isDownloading hdownloading with hbefore | ⟨hlocking, -, rfl, -⟩
      · exact hphase hbefore
      · exact hfile (hcareful.1 rfl hlocking hlock)
    · rw [step_phases_of_ne s _ hother] at hdownloading
      exact h.notDownloading hlock other hdownloading
  refine ⟨⟨h.changed_locked _, ?_, ?_⟩, ?_⟩
  · exact fun hfile => ⟨congrFun hfiles _, hnone hfile⟩
  · intro path hbefore hresolved
    obtain ⟨rfl, ⟨hfile, hsame⟩ | ⟨attempt, -, -, hdownloading, -⟩⟩ :=
      hstep.resolved_cases hbefore hresolved
    · rw [hsame]
      exact (hcached hfile).2
    · rw [hdownloading] at hphase
      exact absurd trivial hphase
  · intro hfile
    rw [hfiles] at hfile ⊢
    obtain ⟨hlock, hversion⟩ := hcached hfile
    refine ⟨?_, hversion⟩
    rw [step_lock, lockAfter, if_neg (hnone hfile pid), hlock]
    rfl

theorem careful_downloading {s : SharedCache Pid} (h : CacheInv source versions s)
    (hcached : CachedInv source versions s) {pid : Pid} {input : ResolveInput}
    (hcareful : CarefulStep source versions s (pid, .resolver input))
    (hphase : (s.phases pid).IsDownloading) :
    SoundStep source versions s (pid, .resolver input) ∧
      CachedInv source versions (s.step source (pid, .resolver input)) := by
  have hstep : ResolveStep source _ _ _ _ _ _ := step_resolver s pid input
  have hlock := (h.lock_iff pid).mp hphase
  have habsent : s.files source.cached.cacheFilePath = none := by
    by_contra hfile
    rw [(hcached hfile).1] at hlock
    cases hlock
  refine ⟨⟨h.changed_locked _, fun hfile => absurd habsent hfile, ?_⟩, ?_⟩
  · intro path hbefore hresolved
    obtain ⟨rfl, ⟨hfile, -⟩ | ⟨attempt, attempt', downloadInput, hattempt, rfl, hspec,
        hcompleted⟩⟩ :=
      hstep.resolved_cases hbefore hresolved
    · exact absurd habsent hfile
    · obtain ⟨-, hactive, -⟩ := h.attempt pid attempt hattempt
      obtain ⟨rfl, hfinalizing, -⟩ := download_completes hspec hactive hcompleted
      exact (h.installed hattempt hspec hcompleted).mpr
        (hcareful.2 attempt rfl hattempt hfinalizing)
  · intro hfile
    rw [← habsent] at hfile
    obtain ⟨attempt, attempt', downloadInput, hattempt, rfl, hspec, hcompleted, hresolved⟩ :=
      hstep.final_cases hfile
    obtain ⟨-, hactive, -⟩ := h.attempt pid attempt hattempt
    obtain ⟨rfl, hfinalizing, -⟩ := download_completes hspec hactive hcompleted
    refine ⟨?_, (h.installed hattempt hspec hcompleted).mpr
      (hcareful.2 attempt rfl hattempt hfinalizing)⟩
    rw [step_lock, hresolved, lockAfter, if_neg (id : ¬ ResolvePhase.IsDownloading (.returned _)),
      if_pos hlock]

/-- **A careful step is sound.** -/
theorem careful_sound {s : SharedCache Pid} (h : CacheInv source versions s)
    (hcached : CachedInv source versions s) (input : Pid × CacheInput)
    (hcareful : CarefulStep source versions s input) :
    SoundStep source versions s input ∧ CachedInv source versions (s.step source input) := by
  obtain ⟨pid, input⟩ := input
  cases input with
  | resolver input =>
    by_cases hphase : (s.phases pid).IsDownloading
    · exact careful_downloading h hcached hcareful hphase
    · exact careful_notDownloading h hcached hcareful hphase
  | killed =>
    refine ⟨⟨h.changed_locked _, ?_, ?_⟩, ?_⟩
    · refine fun hfile => ⟨rfl, fun other hdownloading => ?_⟩
      by_cases hother : other = pid
      · subst hother
        simp [step, ResolvePhase.IsDownloading] at hdownloading
      · rw [step_phases_of_ne s _ hother] at hdownloading
        exact h.notDownloading (hcached hfile).1 other hdownloading
    · intro path _ hresolved
      simp [step] at hresolved
    · intro hfile
      obtain ⟨hlock, hversion⟩ := hcached hfile
      refine ⟨?_, hversion⟩
      simp [step, lockAfter, ResolvePhase.IsDownloading, hlock]

/-! ## Sound steps are careful -/

theorem attemptStep_rename {files : Files} {attempt : Attempt}
    (hinv : AttemptInv source.partialFile (· = []) files attempt)
    (hphase : attempt.phase = .finalizing) :
    (attemptStep source.partialFile files attempt (.rename none)).2.phase =
      .returned (.ok .completed) := by
  obtain ⟨answer, taken, rest, hreceived, -⟩ := hinv.of_finishing (Or.inr hphase)
  simp [attemptStep, hphase, PartialFile.finalize, Files.rename, hreceived.file, afterIo]

/-- **A sound step is careful.** -/
theorem sound_careful {s : SharedCache Pid} (h : CacheInv source versions s)
    (input : Pid × CacheInput) (hsound : SoundStep source versions s input) :
    CarefulStep source versions s input := by
  obtain ⟨pid, input⟩ := input
  refine ⟨?_, ?_⟩
  · rintro rfl hphase hlock
    dsimp only at hphase
    by_contra hfile
    refine (hsound.cached_kept hfile).2 pid ?_
    simp [step, resolveStep, hphase, hlock, ResolvePhase.IsDownloading]
  · rintro attempt rfl hphase hfinalizing
    dsimp only at hphase
    have hattempt := h.attempt pid attempt hphase
    have hcompleted := attemptStep_rename hattempt.1 hfinalizing
    have hresolved : (s.step source (pid, .resolver (.download (.rename none)))).phases pid =
        .returned (.ok (.resolved source.cached.cacheFilePath)) := by
      simp [step, resolveStep, hphase, afterDownload, hcompleted, DownloadManager.result]
    have hversion := hsound.resolved_complete _ (by simp [hphase]) hresolved
    rw [← h.installed hphase (attemptStep_spec (.rename none)) hcompleted]
    simpa [step, resolveStep, hphase] using hversion

/-! ## Runs -/

/-- **Shared model cache.**  For any processes and any interleaving of their steps, from a cache
that is empty or has a version: all steps are sound if and only if all are careful. -/
theorem sharedCache_sound_iff (source : ModelUrl) (versions : Set (List UInt8)) (files : Files)
    (hfiles : ∀ bytes ∈ files source.cached.cacheFilePath, bytes ∈ versions)
    (inputs : List (Pid × CacheInput))
    (hrun : Along (step source) (CompliantStep versions) inputs (init files)) :
    Along (step source) (SoundStep source versions) inputs (init files) ↔
      Along (step source) (CarefulStep source versions) inputs (init files) := by
  have hinit : CacheInv source versions (init files : SharedCache Pid) := init_cacheInv files
  constructor
  · refine Along.transfer (CacheInv source versions) (fun s input h hcompliant hsound =>
      ?_) hinit hrun
    exact ⟨sound_careful h input hsound, h.next input hcompliant⟩
  · refine Along.transfer (fun s => CacheInv source versions s ∧ CachedInv source versions s)
      (fun s input h hcompliant hcareful => ?_) ⟨hinit, fun hfile => ⟨rfl, ?_⟩⟩ hrun
    · obtain ⟨hsound, hcached⟩ := careful_sound h.1 h.2 input hcareful
      exact ⟨hsound, h.1.next input hcompliant, hcached⟩
    · obtain ⟨bytes, hbytes⟩ := Option.ne_none_iff_exists'.mp hfile
      exact ⟨bytes, hfiles bytes hbytes, hbytes⟩

/-! ## A stale check -/

omit [DecidableEq Pid] in
theorem compliantStep_whole {s : SharedCache Pid} {pid : Pid} {answer : Answer}
    (hstatus : answer.status = 200) (hbody : answer.body ∈ versions) :
    CompliantStep versions s (pid, .resolver (.download (.send (.answered answer)))) := by
  rintro attempt _ - ⟨⟩
  refine ⟨⟨answer.body, hbody, fun _ => rfl, fun h => ?_⟩, fun _ _ h => ?_⟩ <;>
    rw [hstatus] at h <;> cases h

/-- What the server has no part in. -/
def IsQuiet : CacheInput → Prop
  | .resolver (.download (.send (.answered _))) | .resolver (.download .bodyEnded) => False
  | _ => True

omit [DecidableEq Pid] in
theorem compliantStep_quiet {s : SharedCache Pid} {input : Pid × CacheInput} (h : IsQuiet input.2) :
    CompliantStep versions s input := by
  intro attempt downloadInput _ hinput
  rw [hinput] at h
  unfold Compliant
  split
  · exact absurd h id
  · exact absurd h id
  · trivial

/-- A URL whose digest is one byte. -/
def exampleUrl : ModelUrl where
  parseUrl := fun _ => .ok "https"
  sha256 := fun _ => [171]
  cacheRoot := []
  url := "https://example.com/m.gguf"

/-- A whole download, by the process that is about to try the lock. -/
def lockAndDownload (pid : Nat) (body : List UInt8) : List (Nat × CacheInput) :=
  [.tryLock none none, .download (.metadata none),
    .download (.send (.answered ⟨200, none, some body.length, body⟩)), .download (.openFile none),
    .download (.chunk body.length none), .download .bodyEnded, .download (.flush none),
    .download (.rename none)].map fun input => (pid, .resolver input)

/-- Two processes check the cache before either of them downloads. -/
def checkBoth : List (Nat × CacheInput) :=
  [(0, .resolver .resolve), (0, .resolver (.isCached none)), (1, .resolver .resolve),
    (1, .resolver (.isCached none)), (0, .resolver (.ensureCacheSubdirExists none)),
    (1, .resolver (.ensureCacheSubdirExists none))]

/-- The second process downloads after the first one has finished, and gets another version. -/
def staleCheck : List (Nat × CacheInput) :=
  checkBoth ++ lockAndDownload 0 [1, 2] ++ lockAndDownload 1 [3, 4]

theorem staleCheck_along :
    Along (step exampleUrl) (CompliantStep {[1, 2], [3, 4]}) staleCheck (init fun _ => none) := by
  have quiet : ∀ {s : SharedCache Nat} {input : Nat × CacheInput}, IsQuiet input.2 →
      CompliantStep {[1, 2], [3, 4]} s input := compliantStep_quiet
  have first : ∀ s : SharedCache Nat, CompliantStep {[1, 2], [3, 4]} s
      (0, .resolver (.download (.send (.answered ⟨200, none, some 2, [1, 2]⟩)))) :=
    fun _ => compliantStep_whole rfl (by simp)
  have second : ∀ s : SharedCache Nat, CompliantStep {[1, 2], [3, 4]} s
      (1, .resolver (.download (.send (.answered ⟨200, none, some 2, [3, 4]⟩)))) :=
    fun _ => compliantStep_whole rfl (by simp)
  refine ⟨quiet trivial, quiet trivial, quiet trivial, quiet trivial, quiet trivial, quiet trivial,
    quiet trivial, quiet trivial, first _, quiet trivial, quiet trivial, ?_, quiet trivial,
    quiet trivial, quiet trivial, quiet trivial, second _, quiet trivial, quiet trivial, ?_,
    quiet trivial, quiet trivial, trivial⟩
  · rintro attempt _ ⟨⟩ ⟨⟩ rest ⟨⟩
    rfl
  · rintro attempt _ ⟨⟩ ⟨⟩ rest ⟨⟩
    rfl

/-- The second process acquires the lock when the file is in the cache. -/
theorem staleCheck_notCareful :
    ¬ Along (step exampleUrl) (CarefulStep exampleUrl {[1, 2], [3, 4]}) staleCheck
      (init fun _ => none) := by
  intro h
  have hlock := h.2.2.2.2.2.2.2.2.2.2.2.2.2.2.1
  exact absurd (hlock.1 rfl (by decide) (by decide)) (by decide)

/-- **A process that acts on a stale check** downloads what is in the cache and replaces it. -/
theorem staleCheck_downloadsAgain :
    Along (step exampleUrl) (CompliantStep {[1, 2], [3, 4]}) staleCheck (init fun _ => none) ∧
      ((checkBoth ++ lockAndDownload 0 [1, 2]).foldl (step exampleUrl) (init fun _ => none)).files
        exampleUrl.cached.cacheFilePath = some [1, 2] ∧
      (staleCheck.foldl (step exampleUrl) (init fun _ => none)).files
        exampleUrl.cached.cacheFilePath = some [3, 4] ∧
      ¬ Along (step exampleUrl) (SoundStep exampleUrl {[1, 2], [3, 4]}) staleCheck
        (init fun _ => none) := by
  refine ⟨staleCheck_along, by decide, by decide, fun h => ?_⟩
  have hlock := h.2.2.2.2.2.2.2.2.2.2.2.2.2.2.1
  exact (hlock.cached_kept (by decide)).2 1 (by decide)

theorem sharedCache_sound_staleCheck :
    ¬ Along (step exampleUrl) (SoundStep exampleUrl {[1, 2], [3, 4]}) staleCheck
      (init fun _ => none) :=
  fun h => staleCheck_notCareful ((sharedCache_sound_iff exampleUrl {[1, 2], [3, 4]} (fun _ => none)
    (fun _ hbytes => nomatch hbytes) staleCheck staleCheck_along).mp h)

end SharedCache

end Paddler
