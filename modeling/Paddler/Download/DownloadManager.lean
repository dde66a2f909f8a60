import Paddler.Download.PartialFile
import Paddler.Library.Run

/-!
# Download attempts

Model of `download_manager.rs`, `response_classification.rs` and `stream_to_partial_file.rs`.  An
attempt goes from one await point to the next; each step is given what the server, the file system
or the cancellation token does there.  The body of an answer comes in chunks of any size, and its
stream may fail or end anywhere.  A future may also be dropped at any await point.

* `attemptStep` — one step of an attempt; `AttemptStep` and `attemptStep_spec` — everything it can
  do.
* `AttemptInv` — what is on disk at each place of an attempt: the bytes it kept, then those it
  received.
* `Downloads.step` — attempts to one final path, one after the other; `attemptInv_reaches`.
-/

set_option autoImplicit false

namespace Paddler

open Run

/-! ## Answers and errors -/

/-- What the server answers.  `contentRange` is the `bytes_range` of the `Content-Range` header. -/
structure Answer where
  status : Nat
  contentRange : Option (Nat × Nat)
  contentLength : Option Nat
  body : List UInt8
  deriving DecidableEq, Repr

/-- `response_classification.rs`. -/
inductive ResponseClassification where
  | clientError (status : Nat)
  | notFound
  | partialFileStale
  | permissionDenied (status : Nat)
  | serverError (status : Nat)
  | streamFromCurrentOffset
  | streamFromStart
  | streamFromStartIgnoringRange
  deriving DecidableEq, Repr

def ResponseClassification.fromStatus (status : Nat) (sentRangeHeader : Bool) :
    ResponseClassification :=
  if status = 206 then .streamFromCurrentOffset
  else if status = 200 then
    if sentRangeHeader then .streamFromStartIgnoringRange else .streamFromStart
  else if status = 404 then .notFound
  else if status = 401 ∨ status = 403 then .permissionDenied status
  else if status = 416 then .partialFileStale
  else if 400 ≤ status ∧ status < 500 then .clientError status
  else .serverError status

/-- `download_outcome.rs`. -/
inductive DownloadOutcome where
  | completed
  | cancelled
  deriving DecidableEq, Repr

/-- `download_attempt_error.rs`. -/
inductive DownloadAttemptError where
  | clientError (status : Nat)
  | io (error : IoError)
  | notFound
  | partialFileStale
  | permissionDenied (status : Nat)
  | serverError (status : Nat)
  | interrupted (source : String)
  | unreachable (source : String)
  deriving DecidableEq, Repr

/-- `download_error.rs`. -/
inductive DownloadError where
  | invalidUrl (url : String) (source : String)
  | unsupportedUrlScheme (url : String) (scheme : String)
  | notFound (url : String)
  | permissionDenied (url : String) (status : Nat)
  | partialFileStale (url : String) (partialPath : PathBuf)
  | downloadServerIsUnreachable (url : String) (source : String)
  | downloadServerErrored (url : String) (status : Nat)
  | downloadServerRejectedRequest (url : String) (status : Nat)
  | downloadInterrupted (url : String) (source : String)
  | io (path : PathBuf) (source : IoError)
  | cachePermissionDenied (path : PathBuf) (source : IoError)
  | cacheDiskFull (path : PathBuf) (source : IoError)
  deriving DecidableEq, Repr

/-- `is_disk_full` on Unix. -/
def isDiskFull (error : IoError) : Bool :=
  error.rawOsError == some 28

def classifyCacheFailure (path : PathBuf) (source : IoError) : DownloadError :=
  if source.kind = .permissionDenied then .cachePermissionDenied path source
  else if isDiskFull source then .cacheDiskFull path source
  else .io path source

/-- What `download` returns for the result of its attempt. -/
def DownloadManager.result (url : String) (partialFile : PartialFile) :
    Except DownloadAttemptError DownloadOutcome → Except DownloadError DownloadOutcome
  | .ok outcome => .ok outcome
  | .error (.unreachable source) => .error (.downloadServerIsUnreachable url source)
  | .error (.serverError status) => .error (.downloadServerErrored url status)
  | .error (.clientError status) => .error (.downloadServerRejectedRequest url status)
  | .error (.interrupted source) => .error (.downloadInterrupted url source)
  | .error .notFound => .error (.notFound url)
  | .error (.permissionDenied status) => .error (.permissionDenied url status)
  | .error .partialFileStale => .error (.partialFileStale url partialFile.partialPath)
  | .error (.io ioError) => .error (classifyCacheFailure partialFile.partialPath ioError)

/-! ## Progress -/

/-- The calls of the `ProgressSink`. -/
inductive ProgressEvent where
  | onStarted (totalBytes : Option Nat) (alreadyDownloaded : Nat)
  | onChunk (additionalBytes : Nat)
  | onFinished
  deriving DecidableEq, Repr

/-- What `on_started` was told is there already. -/
def alreadyDownloaded : List ProgressEvent → Nat
  | [] => 0
  | .onStarted _ already :: _ => already
  | _ :: rest => alreadyDownloaded rest

/-- The chunk sizes that were reported. -/
def chunkBytes : List ProgressEvent → Nat
  | [] => 0
  | .onChunk additionalBytes :: rest => additionalBytes + chunkBytes rest
  | _ :: rest => chunkBytes rest

theorem alreadyDownloaded_onChunk (additionalBytes : Nat) :
    ∀ progress, alreadyDownloaded (progress ++ [.onChunk additionalBytes]) =
      alreadyDownloaded progress
  | [] => rfl
  | .onStarted _ _ :: _ => rfl
  | .onChunk _ :: rest => alreadyDownloaded_onChunk additionalBytes rest
  | .onFinished :: rest => alreadyDownloaded_onChunk additionalBytes rest

theorem chunkBytes_onChunk (additionalBytes : Nat) :
    ∀ progress, chunkBytes (progress ++ [.onChunk additionalBytes]) =
      chunkBytes progress + additionalBytes
  | [] => (Nat.zero_add _).symm
  | .onStarted _ _ :: rest => chunkBytes_onChunk additionalBytes rest
  | .onChunk n :: rest => by
    have ih := chunkBytes_onChunk additionalBytes rest
    simp only [List.cons_append, chunkBytes, ih, Nat.add_assoc]
  | .onFinished :: rest => chunkBytes_onChunk additionalBytes rest

/-! ## An attempt -/

/-- Where an attempt is.  `rest` is what is still to come of the body. -/
inductive AttemptPhase where
  | idle
  | sizing
  | requesting (offset : Nat)
  | removing
  | truncating (answer : Answer)
  | opening (answer : Answer)
  | streaming (rest : List UInt8)
  | flushing (outcome : DownloadOutcome)
  | finalizing
  | returned (result : Except DownloadAttemptError DownloadOutcome)
  | dropped
  deriving DecidableEq

/-- An attempt: the bytes of the partial file it found, the answer it was given and what it
reported. -/
structure Attempt where
  phase : AttemptPhase
  found : List UInt8
  answer : Option Answer
  progress : List ProgressEvent
  deriving DecidableEq

/-- Before the first attempt. -/
def Attempt.fresh : Attempt where
  phase := .idle
  found := []
  answer := none
  progress := []

/-- What happens to `request.send()`. -/
inductive SendResult where
  | answered (answer : Answer)
  | failed (source : String)
  | cancelled
  deriving DecidableEq

/-- What happens next.  Some of a chunk's bytes may be written before `write_all` fails or, without
an error, its future is dropped. -/
inductive AttemptInput where
  | begin
  | metadata (fault : Option IoFault)
  | send (result : SendResult)
  | removeFile (fault : Option IoFault)
  | truncateFile (failure : Option IoError)
  | openFile (failure : Option IoError)
  | chunk (size : Nat) (stop : Option (Nat × Option IoError))
  | bodyFailed (source : String)
  | bodyEnded
  | bodyCancelled
  | flush (failure : Option IoError)
  | rename (failure : Option IoError)
  | dropFuture
  deriving DecidableEq

namespace Attempt

variable (self : Attempt)

/-- The attempt returns. -/
def finish (result : Except DownloadAttemptError DownloadOutcome) : Attempt :=
  { self with phase := .returned result }

/-- `on_started`, before the file is opened. -/
def start (offset : Nat) (answer : Answer) : Attempt :=
  { self with
    phase := .opening answer
    progress := self.progress ++ [.onStarted (answer.contentLength.map (offset + ·)) offset] }

/-- What follows the answer. -/
def respond (offset : Nat) (answer : Answer) : Attempt :=
  let self := { self with answer := some answer }
  match ResponseClassification.fromStatus answer.status (0 < offset) with
  | .notFound => self.finish (.error .notFound)
  | .permissionDenied status => self.finish (.error (.permissionDenied status))
  | .partialFileStale => { self with phase := .removing }
  | .serverError status => self.finish (.error (.serverError status))
  | .clientError status => self.finish (.error (.clientError status))
  | .streamFromStartIgnoringRange => { self with phase := .truncating answer }
  | .streamFromCurrentOffset =>
    if answer.contentRange.map Prod.fst = some offset then self.start offset answer
    else { self with phase := .removing }
  | .streamFromStart => self.start offset answer

end Attempt

variable (partialFile : PartialFile)

/-- An operation on the files that the attempt goes on after, or fails with. -/
def afterIo (files : Files) (attempt next : Attempt) : Except IoError Files → Files × Attempt
  | .ok files => (files, next)
  | .error ioError => (files, attempt.finish (.error (.io ioError)))

/-- One step of `attempt_download`. -/
def attemptStep (files : Files) (attempt : Attempt) (input : AttemptInput) : Files × Attempt :=
  match attempt.phase, input with
  | .idle, .begin | .returned _, .begin | .dropped, .begin =>
    (files, { Attempt.fresh with phase := .sizing })
  | .sizing, .metadata fault =>
    match partialFile.currentSize files fault with
    | .ok offset =>
      (files, { attempt with
        phase := .requesting offset
        found := (files partialFile.partialPath).getD [] })
    | .error ioError => (files, attempt.finish (.error (.io ioError)))
  | .requesting _, .send .cancelled => (files, attempt.finish (.ok .cancelled))
  | .requesting _, .send (.failed source) => (files, attempt.finish (.error (.unreachable source)))
  | .requesting offset, .send (.answered answer) => (files, attempt.respond offset answer)
  | .removing, .removeFile fault =>
    afterIo files attempt (attempt.finish (.error .partialFileStale))
      (partialFile.remove files fault)
  | .truncating answer, .truncateFile failure =>
    afterIo files attempt (attempt.start 0 answer) (partialFile.truncate files failure)
  | .opening answer, .openFile failure =>
    afterIo files attempt { attempt with phase := .streaming answer.body }
      (partialFile.openForAppend files failure)
  | .streaming rest, .chunk size none =>
    (partialFile.append files (rest.take size),
      { attempt with
        phase := .streaming (rest.drop size)
        progress := attempt.progress ++ [.onChunk (rest.take size).length] })
  | .streaming rest, .chunk size (some (written, some ioError)) =>
    (partialFile.append files ((rest.take size).take written),
      attempt.finish (.error (.io ioError)))
  | .streaming rest, .chunk size (some (written, none)) =>
    (partialFile.append files ((rest.take size).take written), { attempt with phase := .dropped })
  | .streaming _, .bodyFailed source => (files, attempt.finish (.error (.interrupted source)))
  | .streaming _, .bodyEnded => (files, { attempt with phase := .flushing .completed })
  | .streaming _, .bodyCancelled => (files, { attempt with phase := .flushing .cancelled })
  | .flushing .cancelled, .flush failure =>
    afterIo files attempt (attempt.finish (.ok .cancelled)) (failure.elim (.ok files) .error)
  | .flushing .completed, .flush failure =>
    afterIo files attempt { attempt with phase := .finalizing } (failure.elim (.ok files) .error)
  | .finalizing, .rename failure =>
    afterIo files attempt
      { attempt with
        phase := .returned (.ok .completed)
        progress := attempt.progress ++ [.onFinished] }
      (partialFile.finalize files failure)
  | .idle, .dropFuture | .returned _, .dropFuture | .dropped, .dropFuture => (files, attempt)
  | _, .dropFuture => (files, { attempt with phase := .dropped })
  | _, _ => (files, attempt)

/-! ## Everything a step can do -/

/-- No attempt is under way. -/
def AttemptPhase.IsOver : AttemptPhase → Prop
  | .idle | .returned _ | .dropped => True
  | _ => False

theorem AttemptPhase.IsOver.cases {phase : AttemptPhase} (h : phase.IsOver) :
    phase = .idle ∨ (∃ result, phase = .returned result) ∨ phase = .dropped := by
  cases phase
  case idle => exact Or.inl rfl
  case returned result => exact Or.inr (Or.inl ⟨result, rfl⟩)
  case dropped => exact Or.inr (Or.inr rfl)
  all_goals exact absurd h id

/-- The attempt goes on with this answer when the partial file has `offset` bytes. -/
def Answer.Resumes (self : Answer) (offset : Nat) : Prop :=
  self.status = 206 ∧ self.contentRange.map Prod.fst = some offset ∨ self.status = 200 ∧ offset = 0

/-- The steps of an attempt. -/
inductive AttemptStep (files : Files) (attempt : Attempt) :
    AttemptInput → Files → Attempt → Prop where
  | stays (input : AttemptInput) : AttemptStep files attempt input files attempt
  | begins (ended : attempt.phase.IsOver) :
      AttemptStep files attempt .begin files { Attempt.fresh with phase := .sizing }
  | sizes (fault : Option IoFault) (phase : attempt.phase = .sizing) :
      AttemptStep files attempt (.metadata fault) files
        { attempt with
          phase := .requesting (files.size partialFile.partialPath)
          found := (files partialFile.partialPath).getD [] }
  | givesUp (input : AttemptInput) (result : Except DownloadAttemptError DownloadOutcome)
      (active : ¬ attempt.phase.IsOver) (incomplete : result ≠ .ok .completed)
      (kept : result ≠ .error .partialFileStale) :
      AttemptStep files attempt input files (attempt.finish result)
  | drops (input : AttemptInput) (active : ¬ attempt.phase.IsOver) :
      AttemptStep files attempt input files { attempt with phase := .dropped }
  | refused (offset : Nat) (answer : Answer) (error : DownloadAttemptError)
      (phase : attempt.phase = .requesting offset) (kept : error ≠ .partialFileStale)
      (status : answer.status ≠ 200) :
      AttemptStep files attempt (.send (.answered answer)) files
        { attempt with answer := some answer, phase := .returned (.error error) }
  | stale (offset : Nat) (answer : Answer) (phase : attempt.phase = .requesting offset)
      (status : answer.status ≠ 200) :
      AttemptStep files attempt (.send (.answered answer)) files
        { attempt with answer := some answer, phase := .removing }
  | removes (fault : Option IoFault) (phase : attempt.phase = .removing) :
      AttemptStep files attempt (.removeFile fault)
        (Function.update files partialFile.partialPath none)
        (attempt.finish (.error .partialFileStale))
  | ignoresRange (offset : Nat) (answer : Answer) (phase : attempt.phase = .requesting offset)
      (status : answer.status = 200) :
      AttemptStep files attempt (.send (.answered answer)) files
        { attempt with answer := some answer, phase := .truncating answer }
  | resumes (offset : Nat) (answer : Answer) (phase : attempt.phase = .requesting offset)
      (accepted : answer.Resumes offset) :
      AttemptStep files attempt (.send (.answered answer)) files
        (Attempt.start { attempt with answer := some answer } offset answer)
  | truncates (failure : Option IoError) (answer : Answer) (phase : attempt.phase = .truncating answer) :
      AttemptStep files attempt (.truncateFile failure)
        (Function.update files partialFile.partialPath (some [])) (attempt.start 0 answer)
  | opens (failure : Option IoError) (answer : Answer) (phase : attempt.phase = .opening answer) :
      AttemptStep files attempt (.openFile failure)
        (Function.update files partialFile.partialPath
          (some ((files partialFile.partialPath).getD [])))
        { attempt with phase := .streaming answer.body }
  | writes (size : Nat) (rest : List UInt8) (phase : attempt.phase = .streaming rest) :
      AttemptStep files attempt (.chunk size none) (partialFile.append files (rest.take size))
        { attempt with
          phase := .streaming (rest.drop size)
          progress := attempt.progress ++ [.onChunk (rest.take size).length] }
  | writesSome (size written : Nat) (error : Option IoError) (rest : List UInt8) (next : AttemptPhase)
      (phase : attempt.phase = .streaming rest)
      (next_eq : next = .dropped ∨ ∃ ioError, next = .returned (.error (.io ioError))) :
      AttemptStep files attempt (.chunk size (some (written, error)))
        (partialFile.append files ((rest.take size).take written)) { attempt with phase := next }
  | ends (rest : List UInt8) (phase : attempt.phase = .streaming rest) :
      AttemptStep files attempt .bodyEnded files { attempt with phase := .flushing .completed }
  | cancels (rest : List UInt8) (phase : attempt.phase = .streaming rest) :
      AttemptStep files attempt .bodyCancelled files { attempt with phase := .flushing .cancelled }
  | flushes (failure : Option IoError) (phase : attempt.phase = .flushing .completed) :
      AttemptStep files attempt (.flush failure) files { attempt with phase := .finalizing }
  | renames (bytes : List UInt8) (phase : attempt.phase = .finalizing)
      (file : files partialFile.partialPath = some bytes) :
      AttemptStep files attempt (.rename none)
        (Function.update (Function.update files partialFile.partialPath none) partialFile.finalPath
          (some bytes))
        { attempt with
          phase := .returned (.ok .completed)
          progress := attempt.progress ++ [.onFinished] }

variable {partialFile : PartialFile} {files : Files} {attempt : Attempt}

/-- An operation that fails makes the attempt give up; one that succeeds does what the next step
says. -/
theorem afterIo_spec {input : AttemptInput} {next : Attempt} {done : Except IoError Files}
    (active : ¬ attempt.phase.IsOver)
    (hdone : ∀ files', done = .ok files' →
      AttemptStep partialFile files attempt input files' next) :
    AttemptStep partialFile files attempt input (afterIo files attempt next done).1
      (afterIo files attempt next done).2 := by
  unfold afterIo
  split
  · rename_i files'
    exact hdone files' rfl
  · exact .givesUp _ _ active (by simp) (by simp)

theorem respond_spec {offset : Nat} (answer : Answer) (phase : attempt.phase = .requesting offset) :
    AttemptStep partialFile files attempt (.send (.answered answer)) files
      (attempt.respond offset answer) := by
  unfold Attempt.respond ResponseClassification.fromStatus
  by_cases h206 : answer.status = 206
  · simp only [if_pos h206]
    split
    · rename_i hstart
      exact .resumes offset answer phase (Or.inl ⟨h206, hstart⟩)
    · exact .stale offset answer phase (by omega)
  by_cases h200 : answer.status = 200
  · simp only [if_neg h206, if_pos h200]
    by_cases hoffset : 0 < offset
    · simp only [hoffset, decide_true, if_true]
      exact .ignoresRange offset answer phase h200
    · simp only [hoffset, decide_false, Bool.false_eq_true, if_false]
      exact .resumes offset answer phase (Or.inr ⟨h200, by omega⟩)
  simp only [if_neg h206, if_neg h200]
  split <;> rename_i hclass
  all_goals split_ifs at hclass
  all_goals first
    | exact .refused offset answer _ phase (by simp) h200
    | exact .stale offset answer phase h200

/-- **Every step of an attempt is one of these.** -/
theorem attemptStep_spec (input : AttemptInput) :
    AttemptStep partialFile files attempt input (attemptStep partialFile files attempt input).1
      (attemptStep partialFile files attempt input).2 := by
  have hactive : ∀ {phase : AttemptPhase}, attempt.phase = phase → ¬ phase.IsOver →
      ¬ attempt.phase.IsOver := fun h hphase => h ▸ hphase
  unfold attemptStep
  split <;> rename_i hphase
  · exact .begins (by rw [hphase]; trivial)
  · exact .begins (by rw [hphase]; trivial)
  · exact .begins (by rw [hphase]; trivial)
  · rename_i fault
    split
    · rename_i offset hsize
      rw [PartialFile.currentSize_ok hsize]
      exact .sizes fault hphase
    · exact .givesUp _ _ (hactive hphase id) (by simp) (by simp)
  · exact .givesUp _ _ (hactive hphase id) (by simp) (by simp)
  · exact .givesUp _ _ (hactive hphase id) (by simp) (by simp)
  · exact respond_spec _ hphase
  · refine afterIo_spec (hactive hphase id) fun files' hremove => ?_
    rw [PartialFile.remove_ok hremove]
    exact .removes _ hphase
  · refine afterIo_spec (hactive hphase id) fun files' htruncate => ?_
    rw [PartialFile.truncate_ok htruncate]
    exact .truncates _ _ hphase
  · refine afterIo_spec (hactive hphase id) fun files' hopen => ?_
    rw [PartialFile.openForAppend_ok hopen]
    exact .opens _ _ hphase
  · exact .writes _ _ hphase
  · exact .writesSome _ _ _ _ _ hphase (Or.inr ⟨_, rfl⟩)
  · exact .writesSome _ _ _ _ _ hphase (Or.inl rfl)
  · exact .givesUp _ _ (hactive hphase id) (by simp) (by simp)
  · exact .ends _ hphase
  · exact .cancels _ hphase
  · rename_i failure
    refine afterIo_spec (hactive hphase id) fun files' hflush => ?_
    cases failure <;> cases hflush
    exact .givesUp _ _ (hactive hphase id) (by simp) (by simp)
  · rename_i failure
    refine afterIo_spec (hactive hphase id) fun files' hflush => ?_
    cases failure <;> cases hflush
    exact .flushes _ hphase
  · refine afterIo_spec (hactive hphase id) fun files' hrename => ?_
    obtain ⟨rfl, bytes, hfile, heq⟩ := PartialFile.finalize_ok hrename
    rw [heq]
    exact .renames bytes hphase hfile
  · exact .stays _
  · exact .stays _
  · exact .stays _
  · rename_i hidle hreturned
    refine .drops _ fun hover => ?_
    rcases hover.cases with hover | ⟨result, hover⟩ | hover
    · exact hidle hover
    · exact hreturned result hover
    · exact hphase hover
  · exact .stays _

/-! ## What is on disk -/

/-- The bytes an attempt keeps of those it found. -/
def Attempt.kept (self : Attempt) : List UInt8 :=
  match self.answer with
  | some answer => if answer.status = 200 then [] else self.found
  | none => self.found

/-- The partial file has the bytes that were kept and those that were received, and they were
reported. -/
structure Attempt.Received (attempt : Attempt) (files : Files) (path : PathBuf) (answer : Answer)
    (taken rest : List UInt8) : Prop where
  answer_eq : attempt.answer = some answer
  accepted : answer.status = 200 ∨ answer.Resumes attempt.found.length
  body : answer.body = taken ++ rest
  file : files path = some (attempt.kept ++ taken)
  already : alreadyDownloaded attempt.progress = attempt.kept.length
  chunks : chunkBytes attempt.progress = taken.length

/-- The partial file is not shorter than what was kept and what was received. -/
def Attempt.Keeps (self : Attempt) (files : Files) (path : PathBuf) : Prop :=
  self.kept.length + chunkBytes self.progress ≤ files.size path

/-- What holds at each place of an attempt.  `Ended` is what is known of the rest of a body whose
stream ended without an error. -/
def AttemptInv (partialFile : PartialFile) (Ended : List UInt8 → Prop) (files : Files)
    (attempt : Attempt) : Prop :=
  match attempt.phase with
  | .idle => attempt = .fresh
  | .sizing => attempt = { Attempt.fresh with phase := .sizing }
  | .requesting offset =>
    attempt = { Attempt.fresh with phase := .requesting offset, found := attempt.found } ∧
      offset = attempt.found.length ∧ (files partialFile.partialPath).getD [] = attempt.found
  | .removing =>
    attempt.progress = [] ∧ (files partialFile.partialPath).getD [] = attempt.found ∧
      attempt.kept = attempt.found
  | .truncating answer =>
    attempt.progress = [] ∧ attempt.answer = some answer ∧ answer.status = 200
  | .opening answer =>
    attempt.answer = some answer ∧ (answer.status = 200 ∨ answer.Resumes attempt.found.length) ∧
      (files partialFile.partialPath).getD [] = attempt.kept ∧
      alreadyDownloaded attempt.progress = attempt.kept.length ∧ chunkBytes attempt.progress = 0
  | .streaming rest =>
    ∃ answer taken, attempt.Received files partialFile.partialPath answer taken rest
  | .flushing .cancelled =>
    ∃ answer taken rest, attempt.Received files partialFile.partialPath answer taken rest
  | .flushing .completed | .finalizing =>
    ∃ answer taken rest, attempt.Received files partialFile.partialPath answer taken rest ∧
      Ended rest
  | .returned (.ok .completed) =>
    ∃ answer taken rest, attempt.answer = some answer ∧
      (answer.status = 200 ∨ answer.Resumes attempt.found.length) ∧ answer.body = taken ++ rest ∧
      Ended rest ∧ files partialFile.finalPath = some (attempt.kept ++ taken)
  | .returned (.error .partialFileStale) => True
  | .returned _ | .dropped => attempt.Keeps files partialFile.partialPath

section

variable {Ended : List UInt8 → Prop}

/-- An attempt that waits for its answer has found the partial file and has reported nothing. -/
theorem AttemptInv.of_requesting (h : AttemptInv partialFile Ended files attempt) {offset : Nat}
    (phase : attempt.phase = .requesting offset) :
    attempt = { Attempt.fresh with phase := .requesting offset, found := attempt.found } ∧
      offset = attempt.found.length ∧ (files partialFile.partialPath).getD [] = attempt.found := by
  unfold AttemptInv at h
  rw [phase] at h
  exact h

/-- An attempt that streams has received what comes before the rest. -/
theorem AttemptInv.of_streaming (h : AttemptInv partialFile Ended files attempt) {rest : List UInt8}
    (phase : attempt.phase = .streaming rest) :
    ∃ answer taken, attempt.Received files partialFile.partialPath answer taken rest := by
  unfold AttemptInv at h
  rw [phase] at h
  exact h

/-- An attempt that finishes has received what comes before a rest as it is known of ended
streams. -/
theorem AttemptInv.of_finishing (h : AttemptInv partialFile Ended files attempt)
    (phase : attempt.phase = .flushing .completed ∨ attempt.phase = .finalizing) :
    ∃ answer taken rest, attempt.Received files partialFile.partialPath answer taken rest ∧
    Ended rest := by
  unfold AttemptInv at h
  rcases phase with phase | phase <;> rw [phase] at h <;> exact h

end

theorem Files.size_eq (files : Files) (path : PathBuf) :
    files.size path = ((files path).getD []).length := by
  unfold Files.size
  cases files path <;> rfl

theorem Attempt.Received.keeps {files : Files} {path : PathBuf} {answer : Answer}
    {taken rest : List UInt8} (h : attempt.Received files path answer taken rest) :
    attempt.Keeps files path := by
  unfold Attempt.Keeps
  rw [Files.size_eq, h.file, Option.getD_some, List.length_append, h.chunks]

/-- While an attempt is under way, nothing it kept or received is lost. -/
theorem AttemptInv.keeps {Ended : List UInt8 → Prop}
    (h : AttemptInv partialFile Ended files attempt) (active : ¬ attempt.phase.IsOver) :
    attempt.Keeps files partialFile.partialPath := by
  unfold AttemptInv at h
  unfold Attempt.Keeps
  split at h <;> rename_i hphase <;> rw [hphase] at active
  all_goals try exact absurd trivial active
  · rw [h]
    exact Nat.zero_le _
  · obtain ⟨hattempt, -, hfile⟩ := h
    rw [Files.size_eq, hfile, hattempt]
    exact le_rfl
  · obtain ⟨hprogress, hfile, hkept⟩ := h
    rw [Files.size_eq, hfile, hprogress, hkept]
    exact le_rfl
  · obtain ⟨hprogress, hanswer, hstatus⟩ := h
    rw [hprogress, Attempt.kept, hanswer]
    simp [hstatus, chunkBytes]
  · obtain ⟨-, -, hfile, -, hchunks⟩ := h
    rw [Files.size_eq, hfile, hchunks]
    exact le_rfl
  · obtain ⟨answer, taken, hreceived⟩ := h
    exact hreceived.keeps
  · obtain ⟨answer, taken, rest, hreceived⟩ := h
    exact hreceived.keeps
  · obtain ⟨answer, taken, rest, hreceived, -⟩ := h
    exact hreceived.keeps
  · obtain ⟨answer, taken, rest, hreceived, -⟩ := h
    exact hreceived.keeps

/-- Nothing is lost unless the attempt completed or found its partial file stale. -/
theorem AttemptInv.keeps_of_ne {Ended : List UInt8 → Prop}
    (h : AttemptInv partialFile Ended files attempt)
    (incomplete : attempt.phase ≠ .returned (.ok .completed))
    (valid : attempt.phase ≠ .returned (.error .partialFileStale)) :
    attempt.Keeps files partialFile.partialPath := by
  by_cases active : ¬ attempt.phase.IsOver
  · exact h.keeps active
  rcases (Classical.not_not.mp active).cases with hphase | ⟨result, hphase⟩ | hphase
  · unfold AttemptInv at h
    rw [hphase] at h
    rw [h]
    exact Nat.zero_le _
  · unfold AttemptInv at h
    split at h <;> rename_i heq <;> rw [hphase] at heq <;> cases heq
    · exact absurd hphase incomplete
    · exact absurd hphase valid
    · exact h
  · unfold AttemptInv at h
    rw [hphase] at h
    exact h

/-- An attempt that is over but did not complete kept what it had. -/
theorem attemptInv_of_keeps {Ended : List UInt8 → Prop} {phase : AttemptPhase}
    (hphase : phase = .dropped ∨ ∃ result, phase = .returned result ∧ result ≠ .ok .completed)
    (h : attempt.Keeps files partialFile.partialPath) :
    AttemptInv partialFile Ended files { attempt with phase := phase } := by
  rcases hphase with rfl | ⟨result, rfl, hresult⟩
  · exact h
  · unfold AttemptInv
    split <;> rename_i heq <;> cases heq
    · exact absurd rfl hresult
    · trivial
    · exact h

/-- Accepting an answer makes the attempt keep what is on disk. -/
theorem kept_of_resumes {answer : Answer} {found : List UInt8} (h : answer.Resumes found.length)
    (progress : List ProgressEvent) (phase : AttemptPhase) :
    Attempt.kept { phase := phase, found := found, answer := some answer, progress := progress } =
      found := by
  unfold Attempt.kept
  rcases h with ⟨hstatus, -⟩ | ⟨hstatus, hlength⟩
  · exact if_neg (by omega)
  · rw [List.length_eq_zero_iff] at hlength
    simp [hstatus, hlength]

theorem Attempt.Received.setPhase {path : PathBuf} {answer : Answer} {taken rest : List UInt8}
    (h : attempt.Received files path answer taken rest) (phase : AttemptPhase) :
    Attempt.Received { attempt with phase := phase } files path answer taken rest :=
  ⟨h.answer_eq, h.accepted, h.body, h.file, h.already, h.chunks⟩

theorem Attempt.Received.append {answer : Answer} {taken rest : List UInt8}
    (h : attempt.Received files partialFile.partialPath answer taken rest) (bytes : List UInt8) :
    partialFile.append files bytes partialFile.partialPath =
      some (attempt.kept ++ (taken ++ bytes)) := by
  unfold PartialFile.append
  rw [Function.update_self, h.file, Option.getD_some, List.append_assoc]

/-- **One step keeps what is on disk right.** -/
theorem AttemptInv.next {Ended : List UInt8 → Prop} {input : AttemptInput} {files' : Files}
    {attempt' : Attempt} (h : AttemptInv partialFile Ended files attempt)
    (hstep : AttemptStep partialFile files attempt input files' attempt')
    (hended : input = .bodyEnded → ∀ rest, attempt.phase = .streaming rest → Ended rest) :
    AttemptInv partialFile Ended files' attempt' := by
  cases hstep with
  | stays => exact h
  | begins => exact rfl
  | sizes fault phase =>
    unfold AttemptInv at h
    rw [phase] at h
    rw [h]
    exact ⟨rfl, Files.size_eq files _, rfl⟩
  | givesUp _ result active incomplete kept =>
    exact attemptInv_of_keeps (Or.inr ⟨result, rfl, incomplete⟩) (h.keeps active)
  | drops _ active => exact attemptInv_of_keeps (Or.inl rfl) (h.keeps active)
  | refused offset answer error phase kept status =>
    obtain ⟨hattempt, -, hfile⟩ := h.of_requesting phase
    have hkeeps : Attempt.Keeps { attempt with answer := some answer } files
      partialFile.partialPath := by
      rw [Attempt.Keeps, Files.size_eq, hfile, hattempt]
      simp [Attempt.kept, Attempt.fresh, status, chunkBytes]
    exact attemptInv_of_keeps (Or.inr ⟨.error error, rfl, by simp⟩) hkeeps
  | stale offset answer phase status =>
    obtain ⟨hattempt, -, hfile⟩ := h.of_requesting phase
    exact ⟨congrArg Attempt.progress hattempt, hfile, if_neg status⟩
  | removes => trivial
  | ignoresRange offset answer phase status =>
    obtain ⟨hattempt, -, -⟩ := h.of_requesting phase
    exact ⟨congrArg Attempt.progress hattempt, rfl, status⟩
  | resumes offset answer phase accepted =>
    obtain ⟨hattempt, hoffset, hfile⟩ := h.of_requesting phase
    have hprogress : attempt.progress = [] := congrArg Attempt.progress hattempt
    subst hoffset
    have hkept := kept_of_resumes accepted
      [.onStarted (answer.contentLength.map (attempt.found.length + ·)) attempt.found.length]
      (.opening answer)
    rw [Attempt.start, hprogress]
    exact ⟨rfl, Or.inr accepted, hfile.trans hkept.symm, congrArg List.length hkept.symm, rfl⟩
  | truncates failure answer phase =>
    unfold AttemptInv at h
    rw [phase] at h
    obtain ⟨hprogress, hanswer, hstatus⟩ := h
    have hkept : (attempt.start 0 answer).kept = [] := by
      simp [Attempt.kept, Attempt.start, hanswer, hstatus]
    refine ⟨hanswer, Or.inl hstatus, ?_, ?_, ?_⟩
    · rw [Function.update_self, hkept, Option.getD_some]
    · rw [hkept, Attempt.start, hprogress]
      rfl
    · rw [Attempt.start, hprogress]
      rfl
  | opens failure answer phase =>
    unfold AttemptInv at h
    rw [phase] at h
    obtain ⟨hanswer, haccepted, hfile, halready, hchunks⟩ := h
    refine ⟨answer, [], hanswer, haccepted, rfl, ?_, halready, hchunks⟩
    rw [Function.update_self, hfile, List.append_nil]
    rfl
  | writes size rest phase =>
    obtain ⟨answer, taken, hreceived⟩ := h.of_streaming phase
    refine ⟨answer, taken ++ rest.take size, hreceived.answer_eq, hreceived.accepted, ?_,
      hreceived.append _, ?_, ?_⟩
    · rw [hreceived.body, List.append_assoc, List.take_append_drop]
    · rw [alreadyDownloaded_onChunk]
      exact hreceived.already
    · rw [chunkBytes_onChunk, hreceived.chunks, List.length_append]
  | writesSome size written error rest next phase next_eq =>
    obtain ⟨answer, taken, hreceived⟩ := h.of_streaming phase
    refine attemptInv_of_keeps ?_ ?_
    · rcases next_eq with hnext | ⟨ioError, hnext⟩
      · exact Or.inl hnext
      · exact Or.inr ⟨_, hnext, by simp⟩
    · rw [Attempt.Keeps, Files.size_eq, hreceived.append, Option.getD_some, hreceived.chunks]
      simp only [List.length_append]
      omega
  | ends rest phase =>
    obtain ⟨answer, taken, hreceived⟩ := h.of_streaming phase
    exact ⟨answer, taken, rest, hreceived.setPhase _, hended rfl rest phase⟩
  | cancels rest phase =>
    obtain ⟨answer, taken, hreceived⟩ := h.of_streaming phase
    exact ⟨answer, taken, rest, hreceived.setPhase _⟩
  | flushes failure phase =>
    obtain ⟨answer, taken, rest, hreceived, hrest⟩ := h.of_finishing (Or.inl phase)
    exact ⟨answer, taken, rest, hreceived.setPhase _, hrest⟩
  | renames bytes phase file =>
    obtain ⟨answer, taken, rest, hreceived, hrest⟩ := h.of_finishing (Or.inr phase)
    refine ⟨answer, taken, rest, hreceived.answer_eq, hreceived.accepted, hreceived.body, hrest, ?_⟩
    rw [Function.update_self, ← file]
    exact hreceived.file

/-! ## Attempts to one final path -/

/-- The files and the current attempt. -/
structure Downloads where
  files : Files
  attempt : Attempt

/-- One step. -/
def Downloads.step (partialFile : PartialFile) (s : Downloads) (input : AttemptInput) :
    Downloads where
  files := (attemptStep partialFile s.files s.attempt input).1
  attempt := (attemptStep partialFile s.files s.attempt input).2

/-- Before the first attempt. -/
def Downloads.init (files : Files) : Downloads where
  files := files
  attempt := .fresh

/-- **What is on disk in every state reached.** -/
theorem attemptInv_reaches {Ended : List UInt8 → Prop} {guard : Downloads → AttemptInput → Prop}
    (hended : ∀ s rest, guard s .bodyEnded → s.attempt.phase = .streaming rest → Ended rest)
    {s : Downloads} (h : Reaches (Downloads.step partialFile) guard (.init files) s) :
    AttemptInv partialFile Ended s.files s.attempt := by
  have hinit : AttemptInv partialFile Ended files .fresh := rfl
  refine h.invariant (fun s => AttemptInv partialFile Ended s.files s.attempt) hinit ?_
  intro s input _ hinv hguard
  refine hinv.next (attemptStep_spec input) ?_
  rintro rfl rest hphase
  exact hended s rest hguard hphase

end Paddler
