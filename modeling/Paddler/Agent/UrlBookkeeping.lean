import Paddler.Library.Run
import Paddler.Agent.DesiredStateConversion

/-!
# What the resolution of a URL leaves in the status

Every exit of `resolve_url_into_cache` should reset the progress and register its issue, or take the
issues of the URL back.  Two of them do neither: the `?`s behind `CachedDownloadedModel::new` and
`DownloadManager::new`.

* `UrlCall.resolveUrlIntoCache` — a whole call, with what the world answers to it.
* `UrlCall.resolveUrlIntoCache_run` — behind the directory of the cache a call is a run of the
  process.
* `UrlMutation` — the calls of the status that it makes; `Ending` — the last of them, at each exit.
* `UrlCall.bookkept_iff` — one call keeps the books if and only if it does not leave through one of
  the two exits.
* `bookkeeping_iff` — **a sequence of calls keeps the books if and only if** none of them leaves
  there.
* `bookkeeping_withoutHome` — without a home directory no issue is registered.
-/

set_option autoImplicit false

namespace Paddler

open Run

/-! ## The directory of the cache -/

/-- `cache_dir/unix.rs`. -/
structure CacheDir where
  explicit : Option String
  home : Option String
  xdg : Option String
  deriving DecidableEq, Repr

/-- `PathBuf::from`, of a directory: a slash at its end is dropped. -/
def directoryComponents (path : String) : List (List Char) :=
  let components := path.toList.splitOn '/'
  if components.getLast? = some [] then components.dropLast else components

def CacheDir.resolve (self : CacheDir) : Except String (List (List Char)) :=
  match self.explicit with
  | some explicit => .ok (directoryComponents explicit)
  | none =>
    match self.xdg with
    | some xdg => .ok (directoryComponents xdg ++ ["paddler".toList])
    | none =>
      match self.home with
      | none => .error "HOME not set; cannot derive paddler cache directory"
      | some home => .ok (directoryComponents home ++ [".cache".toList, "paddler".toList])

/-- There is no directory only if nothing says where it is. -/
theorem CacheDir.resolve_error_iff (self : CacheDir) :
    (∃ message, self.resolve = .error message) ↔ self.explicit = none ∧ self.xdg = none ∧
    self.home = none := by
  unfold resolve
  split
  · simp [*]
  · split
    · simp [*]
    · split <;> simp [*]

/-! ## A call -/

/-- A call of `resolve_url_into_cache`, and what the world answers to it: to the check of the cache,
the directory, the lock, the client and the download. -/
structure UrlCall where
  url : String
  cacheDir : CacheDir
  files : Files
  isCachedFailure : Option IoError
  ensureCacheSubdirExistsFailure : Option IoError
  lockIsFree : Bool
  tryLockFailure : Option IoError
  clientFailure : Option String
  download : List (Files × AttemptInput)

/-- What the world answers to a step: whether the lock is free, the files, and what happens. -/
structure ResolveAnswer where
  lockIsFree : Bool
  files : Files
  input : ResolveInput

/-- Where a process is after these answers, and its calls of the status. -/
def resolveFrom (source : ModelUrl) : ResolvePhase → List ResolveAnswer →
    ResolvePhase × List StatusMutation
  | phase, [] => (phase, [])
  | phase, answer :: answers =>
    let step := resolveStep source answer.lockIsFree answer.files phase answer.input
    ((resolveFrom source step.2.1 answers).1, step.2.2 ++ (resolveFrom source step.2.1 answers).2)

namespace UrlCall

variable (parseUrl : String → Except String String) (sha256 : List UInt8 → List UInt8)
    (self : UrlCall)

/-- The URL with its paths in the cache. -/
def source (cacheRoot : List (List Char)) : ModelUrl where
  parseUrl := parseUrl
  sha256 := sha256
  cacheRoot := cacheRoot
  url := self.url

/-- The answers to the steps of the download. -/
def downloadAnswers : List ResolveAnswer :=
  self.download.map fun step => ⟨true, step.1, .download step.2⟩

/-- The answers to the steps after the check of the URL. -/
def answers : List ResolveAnswer :=
  ⟨self.lockIsFree, self.files, .isCached self.isCachedFailure⟩ ::
  ⟨self.lockIsFree, self.files, .ensureCacheSubdirExists self.ensureCacheSubdirExistsFailure⟩ ::
  ⟨self.lockIsFree, self.files, .tryLock self.tryLockFailure self.clientFailure⟩ ::
    self.downloadAnswers

/-- `resolve_url_into_cache`: where the call is after its answers, and its calls of the status.  The
paths of the cache are made after the URL is checked. -/
def resolveUrlIntoCache : ResolvePhase × List StatusMutation :=
  match (self.source parseUrl sha256 []).check with
  | .error error => failResolve error (.downloadUrlIsMalformed ⟨self.url⟩)
  | .ok () =>
    match self.cacheDir.resolve with
    | .error message => (.returned (.error (.cacheDir message)), [])
    | .ok cacheRoot => resolveFrom (self.source parseUrl sha256 cacheRoot) .checking self.answers

/-- The status after the call. -/
def statusAfter (status : SlotAggregatedStatus) : SlotAggregatedStatus :=
  DesiredStateConversion.applyCalls status (self.resolveUrlIntoCache parseUrl sha256).2

end UrlCall

/-! ## Keeping the books -/

/-- The issue is one of the cache or of the download, about this URL. -/
def AgentIssue.isAbout (self : AgentIssue) (url : String) : Bool :=
  match self with
  | .cacheCannotAcquireLock modelPath | .cacheDirectoryIsNotWritable modelPath
  | .cacheStorageIsFull modelPath
  | .downloadInterrupted modelPath | .downloadServerDeniedAccess modelPath
  | .downloadServerErrored modelPath
  | .downloadServerIsUnreachable modelPath | .downloadServerRejectedRequest modelPath
  | .downloadUrlIsMalformed modelPath | .modelCacheIsCorrupted modelPath
  | .modelDoesNotExistAtUrl modelPath =>
    modelPath == ⟨url⟩
  | _ => false

/-- The download status is reset. -/
structure SlotAggregatedStatus.DownloadIsReset (status : SlotAggregatedStatus) : Prop where
  current : status.downloadCurrent = 0
  total : status.downloadTotal = 0
  indeterminate : status.downloadIndeterminate = true
  filename : status.downloadFilename = none

/-- The issue of an error, by `agent_issue_for` and `classify_cache_io_error`; that another agent
holds the lock is an issue of its own. -/
def ResolveError.issue (url : String) : ResolveError → Option AgentIssue
  | .invalidUrl failedUrl source => some (agentIssueFor (.invalidUrl failedUrl source) url)
  | .unsupportedUrlScheme failedUrl scheme =>
    some (agentIssueFor (.unsupportedUrlScheme failedUrl scheme) url)
  | .io error => some (classifyCacheIoError url error)
  | .anotherAgentIsDownloading _ => some (.cacheCannotAcquireLock ⟨url⟩)
  | .download error => some (agentIssueFor error url)
  | .cacheDir _ | .client _ => none

/-- What a call for `url` makes of a status when it keeps the books. -/
structure Bookkept (url : String) (phase : ResolvePhase) (before after : SlotAggregatedStatus) :
    Prop where
  resolved : ∀ path, phase = .returned (.ok (.resolved path)) →
    (∀ issue ∈ after.issues, issue.isAbout url = false) ∧ after.DownloadIsReset
  failed : ∀ error, phase = .returned (.error error) →
    (∃ issue, error.issue url = some issue ∧ issue ∈ after.issues) ∧ after.DownloadIsReset
  others : ∀ issue ∈ before.issues, issue.isAbout url = false → issue ∈ after.issues

/-! ## Every exit -/

/-- The calls of the status that are about the download of `url`. -/
def UrlMutation (url : String) : StatusMutation → Prop
  | .setDownloadStatus .. | .incrementDownloadCurrent _ | .resetDownload => True
  | .registerFix fix => fix = .modelDownloadStarted ⟨url⟩ ∨ fix = .modelDownloadCompleted ⟨url⟩
  | .registerIssue issue => issue.isAbout url = true
  | _ => False

/-- The last calls of the status at each exit. -/
inductive Ending (url : String) : Except ResolveError DesiredModelResolution →
    List StatusMutation → Prop where
  | cached (path : PathBuf) :
      Ending url (.ok (.resolved path)) [.resetDownload,
        .registerFix (.modelDownloadCompleted ⟨url⟩)]
  | completed (path : PathBuf) :
      Ending url (.ok (.resolved path)) [.registerFix (.modelDownloadCompleted ⟨url⟩),
        .resetDownload]
  | cancelled : Ending url (.ok .cancelled) []
  | failed {error : ResolveError} {issue : AgentIssue} :
      error.issue url = some issue →
      Ending url (.error error) [.resetDownload, .registerIssue issue]
  | silent {error : ResolveError} : error.issue url = none → Ending url (.error error) []

theorem classifyCacheIoError_isAbout (url : String) (error : IoError) :
    (classifyCacheIoError url error).isAbout url = true := by
  unfold classifyCacheIoError
  split_ifs <;> simp [AgentIssue.isAbout]

theorem agentIssueFor_isAbout (error : DownloadError) (url : String) :
    (agentIssueFor error url).isAbout url = true := by
  cases error <;> simp [agentIssueFor, AgentIssue.isAbout]

theorem ResolveError.issue_isAbout {url : String} {error : ResolveError} {issue : AgentIssue}
    (h : error.issue url = some issue) : issue.isAbout url = true := by
  cases error with
  | invalidUrl => cases h; exact agentIssueFor_isAbout _ _
  | unsupportedUrlScheme => cases h; exact agentIssueFor_isAbout _ _
  | io error => cases h; exact classifyCacheIoError_isAbout _ _
  | anotherAgentIsDownloading => cases h; simp [AgentIssue.isAbout]
  | download error => cases h; exact agentIssueFor_isAbout _ _
  | cacheDir => cases h
  | client => cases h

/-- A completed or started download takes back exactly the issues about its URL. -/
theorem canFix_eq_isAbout (url : String) (issue : AgentIssue) :
    (AgentIssueFix.modelDownloadStarted ⟨url⟩).canFix issue = issue.isAbout url ∧
      (AgentIssueFix.modelDownloadCompleted ⟨url⟩).canFix issue = issue.isAbout url := by
  cases issue <;> exact ⟨rfl, rfl⟩

theorem sinkCalls_urlMutation (basename : Option String) (url : String) (event : ProgressEvent) :
    ∀ mutation ∈ sinkCalls basename url event, UrlMutation url mutation := by
  cases event with
  | onStarted => exact List.forall_mem_cons.mpr ⟨trivial,
      List.forall_mem_singleton.mpr (Or.inl rfl)⟩
  | onChunk => exact List.forall_mem_singleton.mpr trivial
  | onFinished => exact List.forall_mem_cons.mpr ⟨Or.inr rfl, List.forall_mem_singleton.mpr trivial⟩

theorem failResolve_urlMutation {url : String} {error : ResolveError} {issue : AgentIssue}
    (h : error.issue url = some issue) :
    ∀ mutation ∈ (failResolve error issue).2, UrlMutation url mutation :=
  List.forall_mem_cons.mpr ⟨trivial, List.forall_mem_singleton.mpr (ResolveError.issue_isAbout h)⟩

variable {source : ModelUrl}

theorem ModelUrl.check_issue {error : ResolveError} (h : source.check = .error error) :
    error.issue source.url = some (.downloadUrlIsMalformed ⟨source.url⟩) := by
  unfold check at h
  split at h
  · cases h
    rfl
  · split at h <;> cases h
    rfl

theorem afterDownload_urlMutation (attempt : Attempt) :
    ∀ mutation ∈ (afterDownload source attempt).2, UrlMutation source.url mutation := by
  unfold afterDownload
  split
  · split
    · simp
    · simp
    · exact failResolve_urlMutation rfl
  · simp
  · simp

/-- Every call of the status is about the download of the URL. -/
theorem resolveStep_urlMutation (lockIsFree : Bool) (files : Files) (phase : ResolvePhase)
    (input : ResolveInput) :
    ∀ mutation ∈ (resolveStep source lockIsFree files phase input).2.2,
    UrlMutation source.url mutation := by
  unfold resolveStep
  split
  · split
    · simp
    · rename_i error hcheck
      exact failResolve_urlMutation (ModelUrl.check_issue hcheck)
  · split
    · simp
    · rename_i error hcheck
      exact failResolve_urlMutation (ModelUrl.check_issue hcheck)
  · exact failResolve_urlMutation rfl
  · split
    · exact List.forall_mem_cons.mpr ⟨trivial, List.forall_mem_singleton.mpr (Or.inr rfl)⟩
    · simp
  · exact failResolve_urlMutation rfl
  · simp
  · exact failResolve_urlMutation rfl
  · split
    · split <;> simp
    · exact failResolve_urlMutation rfl
  · intro mutation hmutation
    rcases List.mem_append.mp hmutation with hreported | hended
    · obtain ⟨event, -, hevent⟩ := List.mem_flatMap.mp hreported
      exact sinkCalls_urlMutation _ _ event mutation hevent
    · exact afterDownload_urlMutation _ mutation hended
  · simp

/-- A process in the middle of a download has an attempt under way. -/
def ResolvePhase.Underway : ResolvePhase → Prop
  | .downloading attempt => ¬ attempt.phase.IsOver
  | _ => True

/-- An attempt that is under way does not go back to its beginning. -/
theorem AttemptStep.ne_idle {partialFile : PartialFile} {files files' : Files}
    {attempt attempt' : Attempt} {input : AttemptInput}
    (h : AttemptStep partialFile files attempt input files' attempt')
    (underway : ¬ attempt.phase.IsOver) : attempt'.phase ≠ .idle := by
  intro hidle
  cases h with
  | stays => exact underway (by rw [hidle]; trivial)
  | begins ended => exact underway ended
  | writesSome _ _ _ _ next _ next_eq =>
    rcases next_eq with rfl | ⟨ioError, rfl⟩ <;> cases hidle
  | _ => cases hidle

/-- An attempt that completes by a step says so to its sink, at the end of its progress. -/
theorem AttemptStep.completes {partialFile : PartialFile} {files files' : Files}
    {attempt attempt' : Attempt} {input : AttemptInput}
    (h : AttemptStep partialFile files attempt input files' attempt')
    (underway : ¬ attempt.phase.IsOver) (completed : attempt'.phase = .returned (.ok .completed)) :
    attempt'.progress = attempt.progress ++ [.onFinished] := by
  cases h with
  | renames => rfl
  | stays => exact absurd (by rw [completed]; trivial) underway
  | begins => cases completed
  | givesUp _ result _ incomplete =>
    cases completed
    exact absurd rfl incomplete
  | writesSome _ _ _ _ next _ next_eq =>
    rcases next_eq with rfl | ⟨ioError, rfl⟩ <;> cases completed
  | _ => cases completed

theorem resolveStep_underway (lockIsFree : Bool) (files : Files) {phase : ResolvePhase}
    (input : ResolveInput) (h : phase.Underway) :
    (resolveStep source lockIsFree files phase input).2.1.Underway := by
  have hother : ∀ next : ResolvePhase, ¬ next.IsDownloading → next.Underway := by
    intro next hnext
    cases next <;> first | trivial | exact absurd trivial hnext
  have hstep := @resolveStep_spec source lockIsFree files phase input
  generalize (resolveStep source lockIsFree files phase input).1 = files' at hstep
  generalize (resolveStep source lockIsFree files phase input).2.1 = next at hstep ⊢
  cases hstep with
  | stays => exact h
  | quiet _ _ _ after => exact hother next after
  | isCached => trivial
  | locks => exact id
  | downloads attempt attempt' _ _ phase_eq step active =>
    rw [phase_eq] at h
    exact fun hover => step.ne_idle h (active hover)
  | ends _ _ _ _ _ _ _ after => exact hother next after

theorem failResolve_ending {url : String} {error : ResolveError} {issue : AgentIssue}
    {result : Except ResolveError DesiredModelResolution} (hissue : error.issue url = some issue)
    (h : (failResolve error issue).1 = .returned result) :
    Ending url result (failResolve error issue).2 := by
  cases h
  exact .failed hissue

theorem afterDownload_ending {attempt attempt' : Attempt}
    {result : Except ResolveError DesiredModelResolution} {basename : Option String}
    (hcompleted : attempt'.phase = .returned (.ok .completed) →
      attempt'.progress = attempt.progress ++ [.onFinished])
    (h : (afterDownload source attempt').1 = .returned result) :
    ∃ before ending, (attempt'.progress.drop attempt.progress.length).flatMap
      (sinkCalls basename source.url) ++ (afterDownload source attempt').2 = before ++ ending ∧
      Ending source.url result ending := by
  unfold afterDownload at h ⊢
  split at h
  · rename_i returned hreturned
    have hiff := result_completed_iff source.url source.partialFile returned
    split at h <;> rename_i hresult <;> rw [hresult] at hiff
    · cases h
      rw [hcompleted (by rw [hreturned, hiff.mp rfl])]
      exact ⟨[], _, by simp [sinkCalls], .completed _⟩
    · cases h
      exact ⟨_, [], rfl, .cancelled⟩
    · exact ⟨_, _, rfl, failResolve_ending rfl h⟩
  · cases h
  · cases h

/-- **Every exit of a process** ends with the calls that belong to it. -/
theorem resolveStep_ending {lockIsFree : Bool} {files : Files} {phase : ResolvePhase}
    {input : ResolveInput} {result : Except ResolveError DesiredModelResolution}
    (running : ∀ result, phase ≠ .returned result) (underway : phase.Underway)
    (h : (resolveStep source lockIsFree files phase input).2.1 = .returned result) :
    ∃ before ending, (resolveStep source lockIsFree files phase input).2.2 = before ++ ending ∧
      Ending source.url result ending := by
  revert h
  unfold resolveStep
  split
  · split
    · intro h
      cases h
    · rename_i error hcheck
      exact fun h => ⟨[], _, rfl, failResolve_ending (ModelUrl.check_issue hcheck) h⟩
  · exact absurd rfl (running _)
  · exact fun h => ⟨[], _, rfl, failResolve_ending rfl h⟩
  · split
    · intro h
      cases h
      exact ⟨[], _, rfl, .cached _⟩
    · intro h
      cases h
  · exact fun h => ⟨[], _, rfl, failResolve_ending rfl h⟩
  · intro h
    cases h
  · exact fun h => ⟨[], _, rfl, failResolve_ending rfl h⟩
  · split
    · split
      · intro h
        cases h
        exact ⟨[], [], rfl, .silent rfl⟩
      · intro h
        cases h
    · exact fun h => ⟨[], _, rfl, failResolve_ending rfl h⟩
  · exact fun h => afterDownload_ending ((attemptStep_spec _).completes underway) h
  · exact fun h => absurd h (running _)

/-! ## Whole calls -/

theorem resolveFrom_cons (phase : ResolvePhase) (answer : ResolveAnswer)
    (answers : List ResolveAnswer) :
    resolveFrom source phase (answer :: answers) =
      ((resolveFrom source
        (resolveStep source answer.lockIsFree answer.files phase answer.input).2.1 answers).1,
          (resolveStep source answer.lockIsFree answer.files phase answer.input).2.2 ++
            (resolveFrom source (resolveStep source answer.lockIsFree answer.files phase
              answer.input).2.1 answers).2) :=
  rfl

theorem resolveFrom_returned {result : Except ResolveError DesiredModelResolution} :
    ∀ {answers : List ResolveAnswer}, (∀ answer ∈ answers, answer.input ≠ .resolve) →
      resolveFrom source (.returned result) answers = (.returned result, [])
  | [], _ => rfl
  | answer :: answers, h => by
    have hstays : (resolveStep source answer.lockIsFree answer.files
        (.returned result) answer.input).2 = (.returned result, []) := by
      have hinput := h answer List.mem_cons_self
      unfold resolveStep
      split <;> first | rfl | exact absurd ‹_› hinput | simp_all
    have hrest : resolveFrom source (.returned result) answers = (.returned result, []) :=
      resolveFrom_returned fun later hlater => h later (List.mem_cons_of_mem _ hlater)
    simp only [resolveFrom_cons, hstays, hrest, List.append_nil]

theorem resolveFrom_run :
    ∀ {answers : List ResolveAnswer} {phase : ResolvePhase} {calls : List StatusMutation},
      (∀ answer ∈ answers, answer.input ≠ .resolve) →
      DesiredStateConversion.ResolveRun source phase calls →
      DesiredStateConversion.ResolveRun source (resolveFrom source phase answers).1
        (calls ++ (resolveFrom source phase answers).2)
  | [], _, _, _, h => by
    unfold resolveFrom
    rwa [List.append_nil]
  | answer :: answers, phase, calls, hinputs, h => by
    by_cases hreturned : ∃ result, phase = .returned result
    · obtain ⟨result, rfl⟩ := hreturned
      rwa [resolveFrom_returned hinputs, List.append_nil]
    · have hnext := h.step answer.lockIsFree answer.files answer.input
        fun result hphase => hreturned ⟨result, hphase⟩
      rw [resolveFrom_cons, ← List.append_assoc]
      exact resolveFrom_run
        (fun later hlater => hinputs later (List.mem_cons_of_mem _ hlater)) hnext

theorem resolveFrom_urlMutation :
    ∀ (answers : List ResolveAnswer) (phase : ResolvePhase),
      ∀ mutation ∈ (resolveFrom source phase answers).2, UrlMutation source.url mutation
  | [], _, mutation, h => absurd h List.not_mem_nil
  | answer :: answers, phase, mutation, h => by
    rcases List.mem_append.mp h with h | h
    · exact resolveStep_urlMutation _ _ _ _ mutation h
    · exact resolveFrom_urlMutation answers _ mutation h

theorem resolveFrom_ending {result : Except ResolveError DesiredModelResolution} :
    ∀ {answers : List ResolveAnswer} {phase : ResolvePhase},
    (∀ answer ∈ answers, answer.input ≠ .resolve) →
      (∀ result, phase ≠ .returned result) → phase.Underway →
      (resolveFrom source phase answers).1 = .returned result →
      ∃ before ending, (resolveFrom source phase answers).2 = before ++ ending ∧
        Ending source.url result ending
  | [], phase, _, hrunning, _, h => absurd h (hrunning result)
  | answer :: answers, phase, hinputs, hrunning, hunderway, h => by
    have hrest : ∀ answer ∈ answers, answer.input ≠ .resolve := fun answer hanswer =>
      hinputs answer (List.mem_cons_of_mem _ hanswer)
    have hnext : (resolveStep source answer.lockIsFree answer.files phase
        answer.input).2.1.Underway :=
      resolveStep_underway _ _ _ hunderway
    rw [resolveFrom_cons] at h ⊢
    by_cases hreturned : ∃ result',
        (resolveStep source answer.lockIsFree answer.files phase answer.input).2.1 =
          .returned result'
    · obtain ⟨result', hphase⟩ := hreturned
      simp only [hphase, resolveFrom_returned hrest, List.append_nil] at h ⊢
      cases h
      exact resolveStep_ending hrunning hunderway hphase
    · obtain ⟨before, ending, hcalls, hending⟩ := resolveFrom_ending hrest
        (fun result' hphase => hreturned ⟨result', hphase⟩) hnext h
      exact ⟨_, ending, by rw [hcalls, List.append_assoc], hending⟩

/-- The process left without an issue. -/
def LeavesSilently (url : String) (phase : ResolvePhase) : Prop :=
  ∃ error, phase = .returned (.error error) ∧ error.issue url = none

theorem afterDownload_not_silent (attempt : Attempt) :
    ¬ LeavesSilently source.url (afterDownload source attempt).1 := by
  rintro ⟨error, hreturned, hissue⟩
  unfold afterDownload at hreturned
  split at hreturned
  · split at hreturned <;> cases hreturned
    cases hissue
  · cases hreturned
  · cases hreturned

theorem resolveStep_download_silent {lockIsFree : Bool} {files : Files} {phase : ResolvePhase}
    {input : AttemptInput}
    (h : LeavesSilently source.url
      (resolveStep source lockIsFree files phase (.download input)).2.1) :
    LeavesSilently source.url phase := by
  cases phase with
  | downloading attempt => exact absurd h (afterDownload_not_silent _)
  | _ => exact h

theorem resolveFrom_download_silent :
    ∀ {download : List (Files × AttemptInput)} {phase : ResolvePhase},
      LeavesSilently source.url (resolveFrom source phase
        (download.map fun step => ⟨true, step.1, .download step.2⟩)).1 →
        LeavesSilently source.url phase
  | [], _, h => h
  | step :: download, phase, h => by
    have hrest : LeavesSilently source.url
        (resolveFrom source (resolveStep source true step.1 phase (.download step.2)).2.1
          (download.map fun step => ⟨true, step.1, .download step.2⟩)).1 := h
    exact resolveStep_download_silent (resolveFrom_download_silent hrest)

namespace UrlCall

variable {parseUrl : String → Except String String} {sha256 : List UInt8 → List UInt8}
    {self : UrlCall}

theorem downloadAnswers_ne_resolve : ∀ answer ∈ self.downloadAnswers, answer.input ≠ .resolve := by
  intro answer hanswer
  obtain ⟨step, -, rfl⟩ := List.mem_map.mp hanswer
  simp

theorem answers_ne_resolve : ∀ answer ∈ self.answers, answer.input ≠ .resolve := by
  unfold answers
  simpa using self.downloadAnswers_ne_resolve

/-- The call gets the lock: nothing fails before, and the file is not in the cache. -/
def GetsLock (self : UrlCall) (source : ModelUrl) : Prop :=
  self.isCachedFailure = none ∧ self.files source.cached.cacheFilePath = none ∧
    self.ensureCacheSubdirExistsFailure = none ∧ self.tryLockFailure = none ∧ self.lockIsFree = true

/-- Where the call is before the download. -/
def beforeDownload (self : UrlCall) (source : ModelUrl) : ResolvePhase :=
  let checked := (resolveStep source self.lockIsFree self.files .checking
    (.isCached self.isCachedFailure)).2.1
  let prepared := (resolveStep source self.lockIsFree self.files checked
    (.ensureCacheSubdirExists self.ensureCacheSubdirExistsFailure)).2.1
  (resolveStep source self.lockIsFree self.files prepared
    (.tryLock self.tryLockFailure self.clientFailure)).2.1

theorem resolveFrom_answers (source : ModelUrl) :
    (resolveFrom source .checking self.answers).1 =
      (resolveFrom source (self.beforeDownload source) self.downloadAnswers).1 :=
  rfl

theorem failResolve_not_silent {url : String} {error : ResolveError} {issue : AgentIssue}
    (h : error.issue url = some issue) : ¬ LeavesSilently url (.returned (.error error)) := by
  rintro ⟨error', heq, hnone⟩
  cases heq
  rw [h] at hnone
  cases hnone

theorem beforeDownload_silent (source : ModelUrl) :
    LeavesSilently source.url (self.beforeDownload source) ↔
      self.GetsLock source ∧ ∃ message, self.clientFailure = some message := by
  unfold beforeDownload GetsLock
  cases hchecked : self.isCachedFailure with
  | some error => exact iff_of_false (failResolve_not_silent rfl) (by simp)
  | none =>
    cases hfile : self.files source.cached.cacheFilePath with
    | some bytes =>
      simp only [resolveStep, hfile, Option.isSome_some, if_true]
      exact iff_of_false (by simp [LeavesSilently]) (by simp)
    | none =>
      simp only [resolveStep, hfile, Option.isSome_none, Bool.false_eq_true, if_false]
      cases self.ensureCacheSubdirExistsFailure with
      | some error => exact iff_of_false (failResolve_not_silent rfl) (by simp)
      | none =>
        cases self.tryLockFailure with
        | some error => exact iff_of_false (failResolve_not_silent rfl) (by simp)
        | none =>
          cases self.lockIsFree with
          | false => exact iff_of_false (failResolve_not_silent rfl) (by simp)
          | true =>
            cases self.clientFailure with
            | none => exact iff_of_false (by simp [LeavesSilently]) (by simp)
            | some message => exact iff_of_true ⟨.client message, rfl, rfl⟩ (by simp)

/-- Behind the directory of the cache only the client has no issue. -/
theorem answers_silent (source : ModelUrl) :
    LeavesSilently source.url (resolveFrom source .checking self.answers).1 ↔
      self.GetsLock source ∧ ∃ message, self.clientFailure = some message := by
  rw [resolveFrom_answers, ← beforeDownload_silent]
  constructor
  · exact resolveFrom_download_silent
  · rintro ⟨error, hreturned, hissue⟩
    rw [hreturned, resolveFrom_returned downloadAnswers_ne_resolve]
    exact ⟨error, rfl, hissue⟩

variable (parseUrl sha256 self)

/-- If its URL is accepted, the call knows the directory of the cache, and a client is made once it
has the lock. -/
def CanStart : Prop :=
  (self.source parseUrl sha256 []).check = .ok () →
    ∃ cacheRoot, self.cacheDir.resolve = .ok cacheRoot ∧
      (self.GetsLock (self.source parseUrl sha256 cacheRoot) → self.clientFailure = none)

variable {parseUrl sha256 self}

/-- A call leaves without an issue if and only if it cannot start. -/
theorem silent_iff :
    LeavesSilently self.url (self.resolveUrlIntoCache parseUrl sha256).1 ↔ ¬ self.CanStart parseUrl sha256 := by
  unfold resolveUrlIntoCache CanStart
  cases hcheck : (self.source parseUrl sha256 []).check with
  | error error => exact iff_of_false (failResolve_not_silent (ModelUrl.check_issue hcheck)) (by simp)
  | ok u =>
    cases hresolve : self.cacheDir.resolve with
    | error message => exact iff_of_true ⟨.cacheDir message, rfl, rfl⟩ (by simp)
    | ok cacheRoot =>
      refine (answers_silent (self.source parseUrl sha256 cacheRoot)).trans ?_
      cases self.clientFailure <;> simp

/-- **A call that knows the directory of the cache is a run of the process.** -/
theorem resolveUrlIntoCache_run {cacheRoot : List (List Char)}
    (hcheck : (self.source parseUrl sha256 cacheRoot).check = .ok ())
    (hresolve : self.cacheDir.resolve = .ok cacheRoot) :
    DesiredStateConversion.ResolveRun (self.source parseUrl sha256 cacheRoot)
      (self.resolveUrlIntoCache parseUrl sha256).1
        (self.resolveUrlIntoCache parseUrl sha256).2 := by
  have hstart : DesiredStateConversion.ResolveRun (self.source parseUrl sha256 cacheRoot) .idle
      [] := .start
  have hchecked := hstart.step self.lockIsFree self.files .resolve fun result h => by cases h
  have hstep : (resolveStep (self.source parseUrl sha256 cacheRoot) self.lockIsFree self.files .idle
      .resolve).2 = (.checking, []) := by
    simp only [resolveStep, hcheck]
  rw [hstep] at hchecked
  have hunrooted : (self.source parseUrl sha256 []).check = .ok () := hcheck
  unfold resolveUrlIntoCache
  rw [hunrooted, hresolve]
  exact resolveFrom_run answers_ne_resolve hchecked

/-- The calls of the status are about the URL of the call. -/
theorem urlMutation :
    ∀ mutation ∈ (self.resolveUrlIntoCache parseUrl sha256).2, UrlMutation self.url mutation := by
  unfold resolveUrlIntoCache
  split
  · rename_i error hcheck
    exact failResolve_urlMutation (ModelUrl.check_issue hcheck)
  · split
    · simp
    · exact @resolveFrom_urlMutation (self.source parseUrl sha256 _) _ _

/-- Every exit of a call ends with the calls of the status that belong to it. -/
theorem ending {result : Except ResolveError DesiredModelResolution}
    (h : (self.resolveUrlIntoCache parseUrl sha256).1 = .returned result) :
    ∃ before ending, (self.resolveUrlIntoCache parseUrl sha256).2 = before ++ ending ∧
      Ending self.url result ending := by
  revert h
  unfold resolveUrlIntoCache
  split
  · rename_i error hcheck
    exact fun h => ⟨[], _, rfl, failResolve_ending (ModelUrl.check_issue hcheck) h⟩
  · split
    · intro h
      cases h
      exact ⟨[], [], rfl, .silent rfl⟩
    · exact @resolveFrom_ending (self.source parseUrl sha256 _) _ _ _ answers_ne_resolve
        (fun result hphase => by cases hphase) trivial

end UrlCall

/-! ## What the calls leave -/

namespace SlotAggregatedStatus

theorem resetDownload_downloadIsReset (self : SlotAggregatedStatus) :
    self.resetDownload.DownloadIsReset :=
  ⟨rfl, rfl, rfl, rfl⟩

variable {self : SlotAggregatedStatus}

theorem DownloadIsReset.registerIssue (h : self.DownloadIsReset) (issue : AgentIssue) :
    (self.registerIssue issue).DownloadIsReset := by
  unfold SlotAggregatedStatus.registerIssue
  split <;> exact ⟨h.current, h.total, h.indeterminate, h.filename⟩

theorem DownloadIsReset.registerFix (h : self.DownloadIsReset) (fix : AgentIssueFix) :
    (self.registerFix fix).DownloadIsReset := by
  unfold SlotAggregatedStatus.registerFix
  dsimp only
  split <;> exact ⟨h.current, h.total, h.indeterminate, h.filename⟩

end SlotAggregatedStatus

/-- A call of the status about one URL keeps the issues that are not about it. -/
theorem UrlMutation.keeps {url : String} {mutation : StatusMutation} (h : UrlMutation url mutation)
    {status : SlotAggregatedStatus} {issue : AgentIssue} (hmem : issue ∈ status.issues)
    (hother : issue.isAbout url = false) : issue ∈ (mutation.apply status).issues := by
  cases mutation with
  | setDownloadStatus current total filename => cases total <;> exact hmem
  | incrementDownloadCurrent size => exact hmem
  | resetDownload => exact hmem
  | registerIssue registered => exact SlotAggregatedStatus.mem_registerIssue.mpr (Or.inr hmem)
  | registerFix fix =>
    refine SlotAggregatedStatus.mem_registerFix.mpr ⟨hmem, ?_⟩
    obtain ⟨hstarted, hcompleted⟩ := canFix_eq_isAbout url issue
    rcases h with rfl | rfl
    · rw [hstarted, hother]
    · rw [hcompleted, hother]
  | _ => exact absurd h id

theorem applyCalls_keeps {url : String} {issue : AgentIssue} (hother : issue.isAbout url = false) :
    ∀ {calls : List StatusMutation} {status : SlotAggregatedStatus},
      (∀ mutation ∈ calls, UrlMutation url mutation) → issue ∈ status.issues →
      issue ∈ (DesiredStateConversion.applyCalls status calls).issues
  | [], _, _, hmem => hmem
  | mutation :: calls, status, h, hmem => by
    have hnext := (h mutation List.mem_cons_self).keeps hmem hother
    have hrest : ∀ later ∈ calls, UrlMutation url later := fun later hlater =>
      h later (List.mem_cons_of_mem _ hlater)
    have hkept : issue ∈ (DesiredStateConversion.applyCalls (mutation.apply status) calls).issues :=
      applyCalls_keeps hother hrest hnext
    exact hkept

theorem Ending.leaves {url : String} {result : Except ResolveError DesiredModelResolution}
    {calls : List StatusMutation} (h : Ending url result calls) (status : SlotAggregatedStatus) :
    (∀ path, result = .ok (.resolved path) →
      (∀ issue ∈ (DesiredStateConversion.applyCalls status calls).issues,
        issue.isAbout url = false) ∧
        (DesiredStateConversion.applyCalls status calls).DownloadIsReset) ∧
    (∀ error issue, result = .error error → error.issue url = some issue →
      issue ∈ (DesiredStateConversion.applyCalls status calls).issues ∧
        (DesiredStateConversion.applyCalls status calls).DownloadIsReset) := by
  have hfixed : ∀ (status : SlotAggregatedStatus) (issue : AgentIssue),
      issue ∈ (status.registerFix (.modelDownloadCompleted ⟨url⟩)).issues →
      issue.isAbout url = false := by
    intro status issue hissue
    rw [← (canFix_eq_isAbout url issue).2]
    exact (SlotAggregatedStatus.mem_registerFix.mp hissue).2
  have hreset := status.resetDownload_downloadIsReset
  cases h with
  | cached path =>
    exact ⟨fun _ _ => ⟨hfixed status.resetDownload, hreset.registerFix _⟩, fun _ _ h => by cases h⟩
  | completed path =>
    exact ⟨fun _ _ => ⟨hfixed status, SlotAggregatedStatus.resetDownload_downloadIsReset _⟩,
      fun _ _ h => by cases h⟩
  | cancelled => exact ⟨fun _ h => (by cases h), fun _ _ h => by cases h⟩
  | @failed error issue hissue =>
    refine ⟨fun _ h => (by cases h), fun error' issue' heq hissue' => ?_⟩
    cases heq
    rw [hissue] at hissue'
    cases hissue'
    exact ⟨SlotAggregatedStatus.mem_registerIssue.mpr (Or.inl rfl), hreset.registerIssue _⟩
  | silent hnone =>
    refine ⟨fun _ h => (by cases h), fun error issue heq hissue => ?_⟩
    cases heq
    rw [hnone] at hissue
    cases hissue

namespace UrlCall

variable {parseUrl : String → Except String String} {sha256 : List UInt8 → List UInt8}
    {self : UrlCall}

/-- **One call keeps the books if and only if it can start.** -/
theorem bookkept_iff {status : SlotAggregatedStatus} :
    Bookkept self.url (self.resolveUrlIntoCache parseUrl sha256).1 status
      (self.statusAfter parseUrl sha256 status) ↔ self.CanStart parseUrl sha256 := by
  constructor
  · intro h
    by_contra hstart
    obtain ⟨error, hreturned, hnone⟩ := silent_iff.mpr hstart
    obtain ⟨⟨issue, hissue, -⟩, -⟩ := h.failed error hreturned
    rw [hnone] at hissue
    cases hissue
  · intro hstart
    have hleaves : ∀ result, (self.resolveUrlIntoCache parseUrl sha256).1 = .returned result →
        ∃ before ending, self.statusAfter parseUrl sha256 status =
          DesiredStateConversion.applyCalls
            (DesiredStateConversion.applyCalls status before) ending ∧
          Ending self.url result ending := by
      intro result hreturned
      obtain ⟨before, ending, hcalls, hending⟩ := ending hreturned
      refine ⟨before, ending, ?_, hending⟩
      unfold statusAfter DesiredStateConversion.applyCalls
      rw [hcalls, List.foldl_append]
    refine ⟨fun path hreturned => ?_, fun error hreturned => ?_, fun issue hmem hother => ?_⟩
    · obtain ⟨before, ending, hafter, hending⟩ := hleaves _ hreturned
      rw [hafter]
      exact (hending.leaves _).1 path rfl
    · obtain ⟨before, ending, hafter, hending⟩ := hleaves _ hreturned
      rw [hafter]
      cases hissue : error.issue self.url with
      | none => exact absurd hstart (silent_iff.mp ⟨error, hreturned, hissue⟩)
      | some issue =>
        obtain ⟨hmem, hreset⟩ := (hending.leaves _).2 error issue rfl hissue
        exact ⟨⟨issue, rfl, hmem⟩, hreset⟩
    · exact applyCalls_keeps hother urlMutation hmem

end UrlCall

/-! ## Sequences of calls -/

/-- **A sequence of calls keeps the books if and only if each of them can start**: if its URL is
accepted, the directory of the cache is known, and a client is made once the call has the lock. -/
theorem bookkeeping_iff (parseUrl : String → Except String String)
    (sha256 : List UInt8 → List UInt8) (calls : List UrlCall) (status : SlotAggregatedStatus) :
    Along (fun status call => call.statusAfter parseUrl sha256 status)
        (fun status call => Bookkept call.url (call.resolveUrlIntoCache parseUrl sha256).1 status
          (call.statusAfter parseUrl sha256 status)) calls status ↔
      ∀ call ∈ calls, call.CanStart parseUrl sha256 := by
  induction calls generalizing status with
  | nil => simp [Along]
  | cons call calls ih =>
    rw [List.forall_mem_cons, ← ih (call.statusAfter parseUrl sha256 status)]
    exact and_congr_left' UrlCall.bookkept_iff

/-- A call in a process without `PADDLER_CACHE_DIR`, `XDG_CACHE_HOME` and `HOME`. -/
def withoutHome : UrlCall where
  url := "https://host.example/model.gguf"
  cacheDir := ⟨none, none, none⟩
  files := fun _ => none
  isCachedFailure := none
  ensureCacheSubdirExistsFailure := none
  lockIsFree := true
  tryLockFailure := none
  clientFailure := none
  download := []

/-- **Without a home directory the call fails and no issue says so.** -/
theorem bookkeeping_withoutHome :
    ¬ ∀ (parseUrl : String → Except String String) (sha256 : List UInt8 → List UInt8) (calls : List UrlCall)
      (status : SlotAggregatedStatus),
      Along (fun status call => call.statusAfter parseUrl sha256 status)
        (fun status call => Bookkept call.url (call.resolveUrlIntoCache parseUrl sha256).1 status
          (call.statusAfter parseUrl sha256 status)) calls status := by
  intro h
  have hbooks := (h (fun _ => .ok "https") (fun _ => []) [withoutHome] (.new 0)).1
  obtain ⟨⟨issue, hissue, -⟩, -⟩ := hbooks.failed _ rfl
  cases hissue

end Paddler
