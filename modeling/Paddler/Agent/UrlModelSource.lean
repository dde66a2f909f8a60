import Paddler.Agent.SlotAggregatedStatus
import Paddler.Download.DownloadManager

/-!
# Resolving the URL of a model

Model of `resolve_url_into_cache` of `model_source/url.rs` and of what it reports to the status of
its agent.  An agent process checks the cache, tries to lock the download of its URL, and downloads
while it holds the lock; the steps between are given what the file system and the lock do.

* `resolveStep` — one step of a process; `ResolveStep` and `resolveStep_spec` — everything it can
  do.
* `agentIssueFor_modelPath` — every issue names the URL.
-/

set_option autoImplicit false

namespace Paddler

/-- `desired_model_resolution.rs`. -/
inductive DesiredModelResolution where
  | cancelled
  | notConfigured
  | resolved (path : PathBuf)
  | localFileMissing (path : PathBuf)
  deriving DecidableEq, Repr

/-- The errors `resolve_url_into_cache` returns. -/
inductive ResolveError where
  | invalidUrl (url : String) (source : String)
  | unsupportedUrlScheme (url : String) (scheme : String)
  | cacheDir (message : String)
  | io (error : IoError)
  | anotherAgentIsDownloading (url : String)
  | client (source : String)
  | download (error : DownloadError)
  deriving DecidableEq, Repr

/-! ## Issues -/

def classifyCacheIoError (url : String) (error : IoError) : AgentIssue :=
  if error.kind = .permissionDenied then .cacheDirectoryIsNotWritable ⟨url⟩
  else if isDiskFull error then .cacheStorageIsFull ⟨url⟩
  else .modelCacheIsCorrupted ⟨url⟩

def agentIssueFor (error : DownloadError) (url : String) : AgentIssue :=
  match error with
  | .invalidUrl .. | .unsupportedUrlScheme .. => .downloadUrlIsMalformed ⟨url⟩
  | .notFound .. => .modelDoesNotExistAtUrl ⟨url⟩
  | .permissionDenied .. => .downloadServerDeniedAccess ⟨url⟩
  | .downloadServerIsUnreachable .. => .downloadServerIsUnreachable ⟨url⟩
  | .downloadServerErrored .. => .downloadServerErrored ⟨url⟩
  | .downloadServerRejectedRequest .. => .downloadServerRejectedRequest ⟨url⟩
  | .downloadInterrupted .. => .downloadInterrupted ⟨url⟩
  | .cachePermissionDenied .. => .cacheDirectoryIsNotWritable ⟨url⟩
  | .cacheDiskFull .. => .cacheStorageIsFull ⟨url⟩
  | .partialFileStale .. | .io .. => .modelCacheIsCorrupted ⟨url⟩

/-- A failed write of the partial file is the same issue as a failed access to the cache. -/
theorem agentIssueFor_classifyCacheFailure (path : PathBuf) (error : IoError) (url : String) :
    agentIssueFor (classifyCacheFailure path error) url = classifyCacheIoError url error := by
  unfold classifyCacheFailure classifyCacheIoError
  split_ifs <;> rfl

/-- The issue of a failed download goes when the download starts, completes, or the state is
reconciled. -/
theorem canFix_agentIssueFor (error : DownloadError) (url : String) :
    (AgentIssueFix.modelDownloadStarted ⟨url⟩).canFix (agentIssueFor error url) = true ∧
      (AgentIssueFix.modelDownloadCompleted ⟨url⟩).canFix (agentIssueFor error url) = true ∧
      AgentIssueFix.modelStateIsReconciled.canFix (agentIssueFor error url) = true := by
  cases error <;> simp [agentIssueFor, AgentIssueFix.canFix]

/-! ## The sink -/

/-- What `SlotAggregatedStatusSink` does with a call. -/
def sinkCalls (basename : Option String) (url : String) : ProgressEvent → List StatusMutation
  | .onStarted totalBytes alreadyDownloaded =>
    [.setDownloadStatus (UInt64.ofNat alreadyDownloaded) (totalBytes.map UInt64.ofNat) basename,
      .registerFix (.modelDownloadStarted ⟨url⟩)]
  | .onChunk additionalBytes => [.incrementDownloadCurrent (UInt64.ofNat additionalBytes)]
  | .onFinished => [.registerFix (.modelDownloadCompleted ⟨url⟩), .resetDownload]

/-! ## A process -/

/-- What all processes that resolve a URL have in common.  `parseUrl` is `Url::parse`, of which only
the scheme is used, and `cacheRoot` the cache directory. -/
structure ModelUrl where
  parseUrl : String → Except String String
  sha256 : List UInt8 → List UInt8
  cacheRoot : List (List Char)
  url : String

namespace ModelUrl

variable (self : ModelUrl)

/-- The paths in the cache. -/
def cached : CachedDownloadedModel :=
  .new self.sha256 self.cacheRoot self.url

/-- The files of a download. -/
def partialFile : PartialFile :=
  .new self.cached.cacheFilePath

/-- The checks of the URL; `download` makes the same ones again. -/
def check : Except ResolveError Unit :=
  match self.parseUrl self.url with
  | .error parseError => .error (.invalidUrl self.url parseError)
  | .ok scheme =>
    if scheme = "http" ∨ scheme = "https" then .ok ()
    else .error (.unsupportedUrlScheme self.url scheme)

end ModelUrl

/-- Where a process is. -/
inductive ResolvePhase where
  | idle
  | checking
  | preparing
  | locking
  | downloading (attempt : Attempt)
  | returned (result : Except ResolveError DesiredModelResolution)
  deriving DecidableEq

/-- What happens next.  `tryLock` is given the failure of the lock file and then that of the
client. -/
inductive ResolveInput where
  | resolve
  | isCached (failure : Option IoError)
  | ensureCacheSubdirExists (failure : Option IoError)
  | tryLock (failure : Option IoError) (clientFailure : Option String)
  | download (input : AttemptInput)
  deriving DecidableEq

variable (source : ModelUrl)

/-- The process fails and registers an issue. -/
def failResolve (error : ResolveError) (issue : AgentIssue) : ResolvePhase × List StatusMutation :=
  (.returned (.error error), [.resetDownload, .registerIssue issue])

/-- What follows a step of the download. -/
def afterDownload (attempt : Attempt) : ResolvePhase × List StatusMutation :=
  match attempt.phase with
  | .returned result =>
    match DownloadManager.result source.url source.partialFile result with
    | .ok .completed => (.returned (.ok (.resolved source.cached.cacheFilePath)), [])
    | .ok .cancelled => (.returned (.ok .cancelled), [])
    | .error error => failResolve (.download error) (agentIssueFor error source.url)
  | .dropped => (.idle, [])
  | _ => (.downloading attempt, [])

/-- One step of `resolve_url_into_cache`: the files, the place it is at, and its calls to the
status.  `lockIsFree` tells whether the lock can be acquired. -/
def resolveStep (lockIsFree : Bool) (files : Files) (phase : ResolvePhase) (input : ResolveInput) :
    Files × ResolvePhase × List StatusMutation :=
  match phase, input with
  | .idle, .resolve | .returned _, .resolve =>
    match source.check with
    | .ok () => (files, .checking, [])
    | .error error => (files, failResolve error (.downloadUrlIsMalformed ⟨source.url⟩))
  | .checking, .isCached (some error) =>
    (files, failResolve (.io error) (classifyCacheIoError source.url error))
  | .checking, .isCached none =>
    if (files source.cached.cacheFilePath).isSome then
      (files, .returned (.ok (.resolved source.cached.cacheFilePath)),
        [.resetDownload, .registerFix (.modelDownloadCompleted ⟨source.url⟩)])
    else (files, .preparing, [])
  | .preparing, .ensureCacheSubdirExists (some error) =>
    (files, failResolve (.io error) (classifyCacheIoError source.url error))
  | .preparing, .ensureCacheSubdirExists none => (files, .locking, [])
  | .locking, .tryLock (some error) _ =>
    (files, failResolve (.io error) (classifyCacheIoError source.url error))
  | .locking, .tryLock none clientFailure =>
    if lockIsFree then
      match clientFailure with
      | some clientError => (files, .returned (.error (.client clientError)), [])
      | none => (files, .downloading { Attempt.fresh with phase := .sizing }, [])
    else
      (files, failResolve (.anotherAgentIsDownloading source.url)
        (.cacheCannotAcquireLock ⟨source.url⟩))
  | .downloading attempt, .download input =>
    let files' := (attemptStep source.partialFile files attempt input).1
    let attempt' := (attemptStep source.partialFile files attempt input).2
    let reported := (attempt'.progress.drop attempt.progress.length).flatMap
      (sinkCalls (some (String.ofList source.cached.cacheFilePath.fileName)) source.url)
    let (phase, calls) := afterDownload source attempt'
    (files', phase, reported ++ calls)
  | phase, _ => (files, phase, [])

/-! ## Everything a step can do -/

/-- The process holds the lock and downloads. -/
def ResolvePhase.IsDownloading : ResolvePhase → Prop
  | .downloading _ => True
  | _ => False

/-- The steps of a process. -/
inductive ResolveStep (lockIsFree : Bool) (files : Files) (phase : ResolvePhase) :
    ResolveInput → Files → ResolvePhase → Prop where
  | stays (input : ResolveInput) : ResolveStep lockIsFree files phase input files phase
  | quiet (input : ResolveInput) (next : ResolvePhase) (before : ¬ phase.IsDownloading)
      (after : ¬ next.IsDownloading) (unresolved : ∀ path,
        next ≠ .returned (.ok (.resolved path))) :
      ResolveStep lockIsFree files phase input files next
  | isCached (phase_eq : phase = .checking) (file : (files source.cached.cacheFilePath).isSome) :
      ResolveStep lockIsFree files phase (.isCached none) files
        (.returned (.ok (.resolved source.cached.cacheFilePath)))
  | locks (phase_eq : phase = .locking) (free : lockIsFree = true) :
      ResolveStep lockIsFree files phase (.tryLock none none) files
        (.downloading { Attempt.fresh with phase := .sizing })
  | downloads (attempt attempt' : Attempt) (files' : Files) (input : AttemptInput)
      (phase_eq : phase = .downloading attempt)
      (step : AttemptStep source.partialFile files attempt input files' attempt')
      (active : attempt'.phase.IsOver → attempt'.phase = .idle) :
      ResolveStep lockIsFree files phase (.download input) files' (.downloading attempt')
  | ends (attempt attempt' : Attempt) (files' : Files) (input : AttemptInput) (next : ResolvePhase)
      (phase_eq : phase = .downloading attempt)
      (step : AttemptStep source.partialFile files attempt input files' attempt')
      (after : ¬ next.IsDownloading)
      (resolved : ∀ path, next = .returned (.ok (.resolved path)) ↔
        path = source.cached.cacheFilePath ∧ attempt'.phase = .returned (.ok .completed)) :
      ResolveStep lockIsFree files phase (.download input) files' next

variable {source : ModelUrl}

theorem failResolve_quiet {lockIsFree : Bool} {files : Files} {phase : ResolvePhase}
    {input : ResolveInput} (before : ¬ phase.IsDownloading) (error : ResolveError)
    (issue : AgentIssue) :
    ResolveStep source lockIsFree files phase input files (failResolve error issue).1 :=
  .quiet input _ before id (by simp [failResolve])

/-- What `download` makes of a result that is not a completed one is not. -/
theorem result_completed_iff (url : String) (partialFile : PartialFile)
    (result : Except DownloadAttemptError DownloadOutcome) :
    DownloadManager.result url partialFile result = .ok .completed ↔ result = .ok .completed := by
  cases result with
  | ok outcome => simp [DownloadManager.result]
  | error error => cases error <;> simp [DownloadManager.result]

/-- The download goes on, or its process goes on without the lock. -/
theorem afterDownload_spec {lockIsFree : Bool} {files files' : Files} {phase : ResolvePhase}
    {attempt attempt' : Attempt} {input : AttemptInput} (phase_eq : phase = .downloading attempt)
    (step : AttemptStep source.partialFile files attempt input files' attempt') :
    ResolveStep source lockIsFree files phase (.download input) files'
      (afterDownload source attempt').1 := by
  unfold afterDownload
  split
  · rename_i result hreturned
    have hcompleted := result_completed_iff source.url source.partialFile result
    split <;> rename_i hresult <;> rw [hresult] at hcompleted
    · refine .ends attempt attempt' files' input _ phase_eq step id fun path => ?_
      rw [hreturned, hcompleted.mp rfl]
      simp [eq_comm]
    · have hne : result ≠ .ok .completed := fun h => nomatch hcompleted.mpr h
      refine .ends attempt attempt' files' input _ phase_eq step id fun path => ?_
      simp [hreturned, hne]
    · have hne : result ≠ .ok .completed := fun h => nomatch hcompleted.mpr h
      refine .ends attempt attempt' files' input _ phase_eq step id fun path => ?_
      simp [failResolve, hreturned, hne]
  · rename_i hdropped
    refine .ends attempt attempt' files' input _ phase_eq step id fun path => ?_
    simp [hdropped]
  · rename_i hreturned hdropped
    refine .downloads attempt attempt' files' input phase_eq step fun hover => ?_
    rcases hover.cases with hidle | ⟨result, hresult⟩ | hphase
    · exact hidle
    · exact absurd hresult (hreturned result)
    · exact absurd hphase hdropped

/-- **Every step of a process is one of these.** -/
theorem resolveStep_spec (lockIsFree : Bool) (files : Files) (phase : ResolvePhase)
    (input : ResolveInput) :
    ResolveStep source lockIsFree files phase input
      (resolveStep source lockIsFree files phase input).1
      (resolveStep source lockIsFree files phase input).2.1 := by
  unfold resolveStep
  split
  · split
    · exact .quiet _ _ id id (by simp)
    · exact failResolve_quiet id _ _
  · split
    · exact .quiet _ _ id id (by simp)
    · exact failResolve_quiet id _ _
  · exact failResolve_quiet id _ _
  · split
    · rename_i hfile
      exact .isCached rfl hfile
    · exact .quiet _ _ id id (by simp)
  · exact failResolve_quiet id _ _
  · exact .quiet _ _ id id (by simp)
  · exact failResolve_quiet id _ _
  · split
    · rename_i hfree
      split
      · exact .quiet _ _ id id (by simp)
      · exact .locks rfl hfree
    · exact failResolve_quiet id _ _
  · exact afterDownload_spec rfl (attemptStep_spec _)
  · exact .stays _

end Paddler
