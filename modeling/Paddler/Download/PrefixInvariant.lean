import Paddler.Download.DownloadManager

/-!
# The partial file is a prefix of the resource

Attempts to one final path, for a resource with fixed content.  The server answers 200 with that
content and 206 with consecutive bytes of it, from the start its `Content-Range` gives; every
status, every failure and every way to stop may come at any step.

* `Answer.Carries`, `Serves` — what is promised of the server.
* `AttemptStep.files_eq` — a step that neither writes nor renames leaves the files alone.
* `PrefixInv` — the invariant; `prefixInv_reaches`.
* `downloads_keepPrefix` — **the partial file stays a prefix, the final file is a renamed one,
  nothing is lost and progress tells the length.**
-/

set_option autoImplicit false

namespace Paddler

open Run

/-! ## The server -/

/-- The answer carries the content `body`, or consecutive bytes of it. -/
def Answer.Carries (body : List UInt8) (self : Answer) : Prop :=
  (self.status = 200 → self.body = body) ∧
    (self.status = 206 → ∀ range ∈ self.contentRange, self.body <+: body.drop range.1)

instance (body : List UInt8) (answer : Answer) : Decidable (answer.Carries body) :=
  inferInstanceAs (Decidable ((_ → _) ∧ (_ → _)))

/-- Every answer carries `body`. -/
def Serves (body : List UInt8) (_ : Downloads) : AttemptInput → Prop
  | .send (.answered answer) => answer.Carries body
  | _ => True

instance (body : List UInt8) (s : Downloads) : ∀ input, Decidable (Serves body s input)
  | .send (.answered answer) => inferInstanceAs (Decidable (answer.Carries body))
  | .send (.failed _) | .send .cancelled | .begin | .metadata _ | .removeFile _ | .truncateFile _
  | .openFile _ | .chunk _ _ | .bodyFailed _ | .bodyEnded | .bodyCancelled | .flush _ | .rename _
  | .dropFuture => isTrue trivial

/-- The file is absent or a prefix of `body`. -/
def PrefixOf (body : List UInt8) (files : Files) (path : PathBuf) : Prop :=
  ∀ bytes ∈ files path, bytes <+: body

theorem PrefixOf.getD {body : List UInt8} {files : Files} {path : PathBuf}
    (h : PrefixOf body files path) : (files path).getD [] <+: body := by
  cases hfile : files path with
  | none => exact List.nil_prefix
  | some bytes => exact h bytes hfile

theorem prefixOf_update {body bytes : List UInt8} {files : Files} {path : PathBuf}
    (h : bytes <+: body) : PrefixOf body (Function.update files path (some bytes)) path := by
  intro found hfound
  rw [Function.update_self, Option.mem_some_iff] at hfound
  exact hfound ▸ h

/-! ## Consecutive bytes -/

theorem prefix_append_of_drop {α : Type} {found bytes body : List α} (hfound : found <+: body)
    (hbytes : bytes <+: body.drop found.length) : found ++ bytes <+: body := by
  obtain ⟨rest, rfl⟩ := hfound
  rw [List.drop_left] at hbytes
  exact (List.prefix_append_right_inj found).mpr hbytes

/-- What an accepted answer carries follows what is kept. -/
theorem kept_append_prefix {attempt : Attempt} {answer : Answer} {body : List UInt8}
    (hanswer : attempt.answer = some answer)
    (haccepted : answer.status = 200 ∨ answer.Resumes attempt.found.length)
    (hcarries : answer.Carries body) (hfound : attempt.found <+: body) :
    attempt.kept ++ answer.body <+: body := by
  by_cases hstatus : answer.status = 200
  · have hkept : attempt.kept = [] := by simp [Attempt.kept, hanswer, hstatus]
    rw [hkept, List.nil_append, hcarries.1 hstatus]
  · have hkept : attempt.kept = attempt.found := by simp [Attempt.kept, hanswer, hstatus]
    rcases haccepted with habsurd | ⟨hpart, hstart⟩ | ⟨habsurd, -⟩
    · exact absurd habsurd hstatus
    · obtain ⟨range, hrange, hoffset⟩ := Option.map_eq_some_iff.mp hstart
      have hbytes := hcarries.2 hpart range hrange
      rw [hoffset] at hbytes
      rw [hkept]
      exact prefix_append_of_drop hfound hbytes
    · exact absurd habsurd hstatus

theorem Attempt.Received.prefix {attempt : Attempt} {files : Files} {path : PathBuf}
    {answer : Answer} {taken rest body bytes : List UInt8}
    (h : attempt.Received files path answer taken rest) (hcarries : answer.Carries body)
    (hfound : attempt.found <+: body) (hbytes : bytes <+: rest) :
    attempt.kept ++ (taken ++ bytes) <+: body := by
  have hall := kept_append_prefix h.answer_eq h.accepted hcarries hfound
  rw [h.body] at hall
  exact ((List.prefix_append_right_inj _).mpr ((List.prefix_append_right_inj _).mpr hbytes)).trans
    hall

/-! ## The invariant -/

variable {partialFile : PartialFile} {body : List UInt8}

/-- What an attempt found is a prefix, its answer is what was promised, and the partial file is a
prefix. -/
structure PrefixInv (body : List UInt8) (partialFile : PartialFile) (files : Files)
    (attempt : Attempt) : Prop where
  file : PrefixOf body files partialFile.partialPath
  found : attempt.found <+: body
  carries : ∀ answer ∈ attempt.answer, answer.Carries body

theorem AttemptStep.final_eq {files files' : Files} {attempt attempt' : Attempt}
    {input : AttemptInput} (hpath : partialFile.partialPath ≠ partialFile.finalPath)
    (h : AttemptStep partialFile files attempt input files' attempt') :
    files' partialFile.finalPath = files partialFile.finalPath ∨
      attempt.phase = .finalizing ∧ input = .rename none ∧
        files' partialFile.finalPath = files partialFile.partialPath ∧
        attempt'.phase = .returned (.ok .completed) := by
  cases h
  case renames bytes phase file =>
    refine Or.inr ⟨phase, rfl, ?_, rfl⟩
    rw [Function.update_self, file]
  all_goals exact Or.inl (by simp [PartialFile.append, Function.update_of_ne hpath.symm])

/-- Writing the next bytes of the answer keeps the partial file a prefix. -/
theorem PrefixInv.append {files : Files} {attempt : Attempt}
    (h : PrefixInv body partialFile files attempt)
    (hattempt : AttemptInv partialFile (fun _ => True) files attempt) {rest bytes : List UInt8}
    (phase : attempt.phase = .streaming rest) (hbytes : bytes <+: rest) :
    PrefixOf body (partialFile.append files bytes) partialFile.partialPath := by
  obtain ⟨answer, taken, hreceived⟩ := hattempt.of_streaming phase
  rw [PrefixOf, hreceived.append]
  rintro _ ⟨⟩
  exact hreceived.prefix (h.carries answer hreceived.answer_eq) h.found hbytes

/-- **One step keeps the invariant.** -/
theorem PrefixInv.next {files files' : Files} {attempt attempt' : Attempt} {input : AttemptInput}
    (hpath : partialFile.partialPath ≠ partialFile.finalPath)
    (h : PrefixInv body partialFile files attempt)
    (hattempt : AttemptInv partialFile (fun _ => True) files attempt)
    (hstep : AttemptStep partialFile files attempt input files' attempt')
    (hserves : ∀ answer, input = .send (.answered answer) → answer.Carries body) :
    PrefixInv body partialFile files' attempt' := by
  cases hstep with
  | stays | givesUp | drops | ends | cancels | flushes => exact ⟨h.file, h.found, h.carries⟩
  | begins => exact ⟨h.file, List.nil_prefix, by simp [Attempt.fresh]⟩
  | sizes => exact ⟨h.file, h.file.getD, h.carries⟩
  | refused offset answer | stale offset answer | ignoresRange offset answer
  | resumes offset answer =>
    refine ⟨h.file, h.found, ?_⟩
    rintro _ ⟨⟩
    exact hserves answer rfl
  | removes => exact ⟨by simp [PrefixOf], h.found, h.carries⟩
  | truncates => exact ⟨prefixOf_update List.nil_prefix, h.found, h.carries⟩
  | opens => exact ⟨prefixOf_update h.file.getD, h.found, h.carries⟩
  | writes size rest phase =>
    exact ⟨h.append hattempt phase (List.take_prefix size rest), h.found, h.carries⟩
  | writesSome size written error rest next phase =>
    refine ⟨h.append hattempt phase ?_, h.found, h.carries⟩
    exact (List.take_prefix written _).trans (List.take_prefix size rest)
  | renames =>
    refine ⟨?_, h.found, h.carries⟩
    rw [PrefixOf, Function.update_of_ne hpath, Function.update_self]
    simp

/-- **The invariant holds in every state reached.** -/
theorem prefixInv_reaches {files : Files} (hpath : partialFile.partialPath ≠ partialFile.finalPath)
    (hfiles : PrefixOf body files partialFile.partialPath) {s : Downloads}
    (h : Reaches (Downloads.step partialFile) (Serves body) (.init files) s) :
    PrefixInv body partialFile s.files s.attempt := by
  have hinit : PrefixInv body partialFile files .fresh :=
    ⟨hfiles, List.nil_prefix, by simp [Attempt.fresh]⟩
  refine h.invariant (fun s => PrefixInv body partialFile s.files s.attempt) hinit ?_
  intro s input hs hinv hguard
  refine hinv.next hpath (attemptInv_reaches (fun _ _ _ _ => trivial) hs)
    (attemptStep_spec input) ?_
  rintro answer rfl
  exact hguard

/-! ## The final file -/

/-- The body's stream has not ended in this attempt. -/
def AttemptPhase.NotEnded (phase : AttemptPhase) : Prop :=
  phase ≠ .flushing .completed ∧ phase ≠ .finalizing

theorem AttemptStep.notEnded {files files' : Files} {attempt attempt' : Attempt}
    {input : AttemptInput} (h : AttemptStep partialFile files attempt input files' attempt')
    (hinput : input ≠ .bodyEnded) (hphase : attempt.phase.NotEnded) : attempt'.phase.NotEnded := by
  cases h
  case stays => exact hphase
  case ends => exact absurd rfl hinput
  case flushes failure phase => exact absurd phase hphase.1
  case writesSome next_eq =>
    rcases next_eq with rfl | ⟨ioError, rfl⟩
    · exact ⟨by simp, by simp⟩
    · exact ⟨by simp, by simp⟩
  all_goals exact ⟨by simp [Attempt.finish, Attempt.start], by simp [Attempt.finish, Attempt.start]⟩

/-- Attempts none of which sees its body's stream end leave the final file alone. -/
theorem final_eq_of_notEnded (hpath : partialFile.partialPath ≠ partialFile.finalPath) :
    ∀ (inputs : List AttemptInput) {s : Downloads}, .bodyEnded ∉ inputs → s.attempt.phase.NotEnded →
      (inputs.foldl (Downloads.step partialFile) s).files partialFile.finalPath =
        s.files partialFile.finalPath
  | [], _, _, _ => rfl
  | input :: inputs, s, hinputs, hphase => by
    rw [List.mem_cons, not_or] at hinputs
    have hspec : AttemptStep partialFile s.files s.attempt input _ _ := attemptStep_spec input
    have hnext := @final_eq_of_notEnded hpath inputs (s.step partialFile input) hinputs.2
      (hspec.notEnded (Ne.symm hinputs.1) hphase)
    rw [List.foldl_cons, hnext]
    rcases hspec.final_eq hpath with hsame | ⟨hfinalizing, -⟩
    · exact hsame
    · exact absurd hfinalizing hphase.2

/-! ## Progress -/

theorem AttemptStep.onChunk {files files' : Files} {attempt attempt' : Attempt}
    {input : AttemptInput} {additionalBytes : Nat}
    (h : AttemptStep partialFile files attempt input files' attempt')
    (hreported : attempt'.progress = attempt.progress ++ [.onChunk additionalBytes]) :
    ∃ rest, attempt'.phase = .streaming rest := by
  cases h
  case writes size rest phase => exact ⟨rest.drop size, rfl⟩
  all_goals simp [Attempt.fresh, Attempt.finish, Attempt.start] at hreported

/-- While the body is streamed, what was reported is the length of the partial file. -/
theorem AttemptInv.reported {Ended : List UInt8 → Prop} {files : Files} {attempt : Attempt}
    {rest : List UInt8} (h : AttemptInv partialFile Ended files attempt)
    (hphase : attempt.phase = .streaming rest) :
    alreadyDownloaded attempt.progress + chunkBytes attempt.progress =
      files.size partialFile.partialPath := by
  obtain ⟨answer, taken, hreceived⟩ := h.of_streaming hphase
  rw [hreceived.already, hreceived.chunks, Files.size_eq, hreceived.file, Option.getD_some,
    List.length_append]

/-! ## Every state -/

/-- What holds of the files and of the current attempt. -/
structure KeepsPrefix (body : List UInt8) (partialFile : PartialFile) (s : Downloads) : Prop where
  /-- The partial file is absent or a prefix. -/
  partialFile_prefix : PrefixOf body s.files partialFile.partialPath
  /-- The final file appears by a rename of the partial file. -/
  final_renamed : ∀ input,
    (s.step partialFile input).files partialFile.finalPath ≠ s.files partialFile.finalPath →
      input = .rename none ∧ s.attempt.phase = .finalizing ∧
        (s.step partialFile input).files partialFile.finalPath = s.files partialFile.partialPath
  /-- No final file appears in attempts none of whose body streams ended without an error. -/
  final_ended : s.attempt.phase.IsOver → ∀ inputs : List AttemptInput, .bodyEnded ∉ inputs →
    (inputs.foldl (Downloads.step partialFile) s).files partialFile.finalPath =
      s.files partialFile.finalPath
  /-- Unless it completed or the partial file was stale, an attempt has lost nothing that it found
  or, after a 200 answer, received. -/
  nothing_lost : s.attempt.phase ≠ .returned (.ok .completed) →
    s.attempt.phase ≠ .returned (.error .partialFileStale) →
      if ∃ answer ∈ s.attempt.answer, answer.status = 200 then
        chunkBytes s.attempt.progress ≤ s.files.size partialFile.partialPath
      else s.attempt.found.length ≤ s.files.size partialFile.partialPath
  /-- After a chunk was reported, what was there and what was reported is the length of the partial
  file. -/
  progress_exact : ∀ input additionalBytes, Serves body s input →
    (s.step partialFile input).attempt.progress = s.attempt.progress ++ [.onChunk additionalBytes] →
      alreadyDownloaded (s.step partialFile input).attempt.progress +
          chunkBytes (s.step partialFile input).attempt.progress =
        (s.step partialFile input).files.size partialFile.partialPath

theorem Attempt.Keeps.nothing_lost {attempt : Attempt} {files : Files} {path : PathBuf}
    (h : attempt.Keeps files path) :
    if ∃ answer ∈ attempt.answer, answer.status = 200 then chunkBytes attempt.progress ≤
      files.size path
    else attempt.found.length ≤ files.size path := by
  unfold Attempt.Keeps at h
  split
  · exact (Nat.le_add_left _ _).trans h
  · rename_i hanswer
    have hkept : attempt.kept = attempt.found := by
      unfold Attempt.kept
      split
      · rename_i answer heq
        exact if_neg fun hstatus => hanswer ⟨answer, heq, hstatus⟩
      · rfl
    rw [hkept] at h
    exact (Nat.le_add_right _ _).trans h

/-- **Download prefix invariant.**  In every state of every run of attempts to one final path, which
is another path than that of the partial file. -/
theorem downloads_keepPrefix (finalPath : PathBuf)
    (hpath : (PartialFile.new finalPath).partialPath ≠ finalPath) (body : List UInt8)
    (files : Files) (hfiles : PrefixOf body files (PartialFile.new finalPath).partialPath)
    {s : Downloads} (h : Reaches (Downloads.step (.new finalPath)) (Serves body) (.init files) s) :
    KeepsPrefix body (.new finalPath) s where
  partialFile_prefix := (prefixInv_reaches hpath hfiles h).file
  final_renamed := by
    intro input hchanged
    rcases (attemptStep_spec input).final_eq hpath with hsame | ⟨hphase, hinput, hrenamed, -⟩
    · exact absurd hsame hchanged
    · exact ⟨hinput, hphase, hrenamed⟩
  final_ended := by
    intro hover inputs hinputs
    refine final_eq_of_notEnded hpath inputs hinputs ?_
    rcases hover.cases with hphase | ⟨result, hphase⟩ | hphase <;>
      simp [AttemptPhase.NotEnded, hphase]
  nothing_lost := by
    intro hincomplete hvalid
    exact (AttemptInv.keeps_of_ne (attemptInv_reaches (fun _ _ _ _ => trivial) h) hincomplete
      hvalid).nothing_lost
  progress_exact := by
    intro input additionalBytes hguard hreported
    obtain ⟨rest, hphase⟩ := (attemptStep_spec input).onChunk hreported
    have hinv : AttemptInv (.new finalPath) (fun _ => True) _ _ :=
      attemptInv_reaches (fun _ _ _ _ => trivial) (h.next hguard)
    exact hinv.reported hphase

/-- An attempt that is cut off after two bytes, and one that resumes it. -/
def resumedDownload : List AttemptInput :=
  [.begin, .metadata none, .send (.answered ⟨200, none, some 4, [1, 2, 3, 4]⟩), .openFile none,
    .chunk 2 none, .bodyFailed "connection reset",
    .begin, .metadata none, .send (.answered ⟨206, some (2, 3), some 2, [3, 4]⟩), .openFile none,
    .chunk 2 none, .bodyEnded, .flush none, .rename none]

/-- The path of a model, next to which its partial file is. -/
def modelPath : PathBuf := ⟨[], "model".toList⟩

theorem downloads_keepPrefix_resumed :
    (PartialFile.new modelPath).partialPath ≠ modelPath ∧
      KeepsPrefix [1, 2, 3, 4] (.new modelPath)
        (resumedDownload.foldl (Downloads.step (.new modelPath)) (.init fun _ => none)) :=
  ⟨by decide, downloads_keepPrefix modelPath (by decide) [1, 2, 3, 4] (fun _ => none)
    (fun _ hbytes => by cases hbytes) (Reaches.along resumedDownload (by decide) .start)⟩

example :
    (resumedDownload.foldl (Downloads.step (.new modelPath)) (.init fun _ => none)).files
      modelPath = some [1, 2, 3, 4] := by decide

end Paddler
