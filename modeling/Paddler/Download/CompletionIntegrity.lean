import Mathlib.Data.Set.Basic
import Paddler.Download.DownloadManager

/-!
# What a completed download installs

Attempts to one final path, for a resource that may be another version at each answer.  A compliant
server answers 200 with a version, and a range request with 206 and any range of a version that
starts at the offset that was asked for; the body's stream ends without an error only where the body
ends.

* `Answer.IsOf`, `Compliant` — what is promised of the server.
* `Answer.Finishes` — the answer is the rest of a version that starts with what was found.
* `completed_iff` — a completed download installed a version if and only if its answer finishes one.
* `downloads_complete_iff` — **the same along a run.**
* `truncatedRange_completes` — a range that stops short is completed as if it were the rest.
-/

set_option autoImplicit false

namespace Paddler

open Run

/-! ## The server -/

/-- The answer carries a version, or the range of it that its `Content-Range` gives. -/
def Answer.IsOf (version : List UInt8) (self : Answer) : Prop :=
  (self.status = 200 → self.body = version) ∧
    (self.status = 206 → ∃ start stop, self.contentRange = some (start, stop) ∧ start ≤ stop ∧
      stop < version.length ∧ self.body = (version.drop start).take (stop + 1 - start))

/-- A range is answered only if one was asked for, and it starts there. -/
def Answer.StartsAt (offset : Nat) (self : Answer) : Prop :=
  self.status = 206 → 0 < offset ∧ self.contentRange.map Prod.fst = some offset

/-- What a compliant server of these versions and the connection to it do. -/
def Compliant (versions : Set (List UInt8)) (s : Downloads) : AttemptInput → Prop
  | .send (.answered answer) =>
    (∃ version ∈ versions, answer.IsOf version) ∧
      ∀ offset, s.attempt.phase = .requesting offset → answer.StartsAt offset
  | .bodyEnded => ∀ rest, s.attempt.phase = .streaming rest → rest = []
  | _ => True

/-- The answer has a whole version, or a range to the end of a version that starts with the bytes
found. -/
def Answer.Finishes (versions : Set (List UInt8)) (found : List UInt8) (self : Answer) : Prop :=
  self.status = 200 ∨
    ∃ version ∈ versions, self.IsOf version ∧ found <+: version ∧
      self.contentRange = some (found.length, version.length - 1)

/-! ## One completed attempt -/

variable {partialFile : PartialFile} {versions : Set (List UInt8)}

/-- The answer of an attempt is the one it had, or the one that comes. -/
theorem AttemptStep.answer_eq {files files' : Files} {attempt attempt' : Attempt}
    {input : AttemptInput} (h : AttemptStep partialFile files attempt input files' attempt')
    {answer : Answer} (hanswer : answer ∈ attempt'.answer) :
    answer ∈ attempt.answer ∨ input = .send (.answered answer) := by
  cases h
  case begins => simp [Attempt.fresh] at hanswer
  case refused | stale | ignoresRange | resumes =>
    obtain ⟨⟩ := hanswer
    exact Or.inr rfl
  all_goals exact Or.inl hanswer

theorem answer_isOf {files : Files} {s : Downloads}
    (h : Reaches (Downloads.step partialFile) (Compliant versions) (.init files) s) :
    ∀ answer ∈ s.attempt.answer, ∃ version ∈ versions, answer.IsOf version := by
  refine h.invariant (fun s => ∀ answer ∈ s.attempt.answer, ∃ version ∈ versions,
    answer.IsOf version)
    (by simp [Downloads.init, Attempt.fresh]) ?_
  intro s input _ hinv hguard answer hanswer
  rcases (attemptStep_spec input).answer_eq hanswer with hbefore | rfl
  · exact hinv answer hbefore
  · exact hguard.1

/-- The range of a version has the length its header tells. -/
theorem range_length {version : List UInt8} {start stop : Nat} (hle : start ≤ stop)
    (hstop : stop < version.length) :
    ((version.drop start).take (stop + 1 - start)).length = stop + 1 - start := by
  rw [List.length_take, List.length_drop]
  omega

/-- **What was found and a range make a version if and only if the range finishes one.** -/
theorem append_mem_iff {answer : Answer} {version found : List UInt8}
    (hstatus : answer.status = 206) (hof : answer.IsOf version)
    (hstart : answer.contentRange.map Prod.fst = some found.length) :
    found ++ answer.body ∈ versions ↔ answer.Finishes versions found := by
  obtain ⟨start, stop, hrange, hle, hstop, hbody⟩ := hof.2 hstatus
  rw [hrange, Option.map_some, Option.some.injEq] at hstart
  subst hstart
  constructor
  · intro hmem
    have hlength : answer.body.length = stop + 1 - found.length := by
      rw [hbody, range_length hle hstop]
    have htotal : (found ++ answer.body).length = stop + 1 := by
      rw [List.length_append, hlength]
      omega
    refine Or.inr ⟨found ++ answer.body, hmem, ⟨fun h200 => by omega, fun _ => ?_⟩,
      List.prefix_append _ _, ?_⟩
    · refine ⟨found.length, stop, hrange, hle, by omega, ?_⟩
      rw [List.drop_left, List.take_of_length_le (by omega)]
    · rw [hrange, htotal, Nat.add_sub_cancel]
  · intro hfinishes
    rcases hfinishes with h200 | ⟨last, hlast, hlastOf, ⟨rest, hrest⟩, hend⟩
    · omega
    · obtain ⟨start', stop', hrange', hle', hstop', hbody'⟩ := hlastOf.2 hstatus
      rw [hend, Option.some.injEq, Prod.mk.injEq] at hrange'
      obtain ⟨rfl, rfl⟩ := hrange'
      have hrestBody : answer.body = rest := by
        rw [hbody', ← hrest, List.drop_left, List.take_of_length_le]
        rw [List.length_append]
        omega
      rw [hrestBody, hrest]
      exact hlast

/-- The download that returned installed a version. -/
def Downloads.Installed (versions : Set (List UInt8)) (finalPath : PathBuf) (s : Downloads) :
    Prop :=
  ∃ version ∈ versions, s.files finalPath = some version

/-- The answer to the attempt finishes a version. -/
def Downloads.Finished (versions : Set (List UInt8)) (s : Downloads) : Prop :=
  ∃ answer ∈ s.attempt.answer, answer.Finishes versions s.attempt.found

/-- **What a completed attempt installed**, by what is on disk. -/
theorem installed_iff {files : Files} {attempt : Attempt}
    (hinv : AttemptInv partialFile (· = []) files attempt)
    (hanswers : ∀ answer ∈ attempt.answer, ∃ version ∈ versions, answer.IsOf version)
    (hcompleted : attempt.phase = .returned (.ok .completed)) :
    (∃ version ∈ versions, files partialFile.finalPath = some version) ↔
      ∃ answer ∈ attempt.answer, answer.Finishes versions attempt.found := by
  unfold AttemptInv at hinv
  rw [hcompleted] at hinv
  obtain ⟨answer, taken, rest, hanswer, haccepted, hbody, rfl, hfile⟩ := hinv
  rw [List.append_nil] at hbody
  subst hbody
  obtain ⟨version, hversion, hof⟩ := hanswers answer hanswer
  have hinstalled : (∃ version ∈ versions, files partialFile.finalPath = some version) ↔
      attempt.kept ++ answer.body ∈ versions := by
    simp [hfile]
  have hfinished : (∃ answer ∈ attempt.answer, answer.Finishes versions attempt.found) ↔
      answer.Finishes versions attempt.found := by
    simp [hanswer]
  rw [hinstalled, hfinished]
  by_cases hstatus : answer.status = 200
  · have hkept : attempt.kept = [] := by simp [Attempt.kept, hanswer, hstatus]
    rw [hkept, List.nil_append, hof.1 hstatus]
    exact ⟨fun _ => Or.inl hstatus, fun _ => hversion⟩
  · have hkept : attempt.kept = attempt.found := by simp [Attempt.kept, hanswer, hstatus]
    rw [hkept]
    rcases haccepted with habsurd | ⟨hpart, hstart⟩ | ⟨habsurd, -⟩
    · exact absurd habsurd hstatus
    · exact append_mem_iff hpart hof hstart
    · exact absurd habsurd hstatus

/-- **A completed download.** -/
theorem completed_iff {files : Files} {s : Downloads}
    (h : Reaches (Downloads.step partialFile) (Compliant versions) (.init files) s)
    (hcompleted : s.attempt.phase = .returned (.ok .completed)) :
    s.Installed versions partialFile.finalPath ↔ s.Finished versions :=
  installed_iff (attemptInv_reaches (fun _ rest hguard hphase => hguard rest hphase) h)
    (answer_isOf h)
    hcompleted

/-! ## Along a run -/

/-- **Download completion integrity.**  In a run of attempts to one final path, every completed
download installs a version if and only if every one of them was answered with the rest of a version
that starts with the bytes it found. -/
theorem downloads_complete_iff (finalPath : PathBuf) (versions : Set (List UInt8)) (files : Files)
    (inputs : List AttemptInput)
    (hrun : Along (Downloads.step (.new finalPath)) (Compliant versions) inputs (.init files)) :
    (∀ before, before <+: inputs →
        (before.foldl (Downloads.step (.new finalPath)) (.init files)).attempt.phase =
          .returned (.ok .completed) →
        (before.foldl (Downloads.step (.new finalPath)) (.init files)).Installed versions
          finalPath) ↔
      ∀ before, before <+: inputs →
        (before.foldl (Downloads.step (.new finalPath)) (.init files)).attempt.phase =
          .returned (.ok .completed) →
        (before.foldl (Downloads.step (.new finalPath)) (.init files)).Finished versions := by
  have hreaches : ∀ before, before <+: inputs →
      Reaches (Downloads.step (.new finalPath)) (Compliant versions) (.init files)
        (before.foldl (Downloads.step (.new finalPath)) (.init files)) :=
    fun before hbefore => Reaches.along before (hrun.of_prefix hbefore) .start
  refine forall₂_congr fun before hbefore => ?_
  exact imp_congr_right fun hcompleted => completed_iff (hreaches before hbefore) hcompleted

/-- The first download is cut off after three bytes; the server answers the second with two more. -/
def truncatedRange : List AttemptInput :=
  [.begin, .metadata none, .send (.answered ⟨200, none, some 10, [1, 2, 3, 4, 5, 6, 7, 8, 9, 10]⟩),
    .openFile none, .chunk 3 none, .bodyFailed "connection reset",
    .begin, .metadata none, .send (.answered ⟨206, some (3, 4), some 2, [4, 5]⟩), .openFile none,
    .chunk 2 none, .bodyEnded, .flush none, .rename none]

/-- The path of the model, next to which its partial file is. -/
def ggufPath : PathBuf := ⟨[], "model.gguf".toList⟩

theorem truncatedRange_along :
    Along (Downloads.step (.new ggufPath)) (Compliant {[1, 2, 3, 4, 5, 6, 7, 8, 9, 10]})
      truncatedRange (.init fun _ => none) := by
  have hwhole : ∀ offset,
      (Answer.mk 200 none (some 10) [1, 2, 3, 4, 5, 6, 7, 8, 9, 10]).StartsAt offset :=
    fun _ hstatus => absurd hstatus (by decide)
  have hrange : ∀ offset, AttemptPhase.requesting 3 = .requesting offset →
      (Answer.mk 206 (some (3, 4)) (some 2) [4, 5]).StartsAt offset := by
    rintro offset ⟨⟩ -
    exact ⟨by decide, rfl⟩
  refine ⟨trivial, trivial, ⟨⟨_, rfl, fun _ => rfl, ?_⟩, fun offset _ => hwhole offset⟩,
    trivial, trivial, trivial, trivial, trivial, ⟨⟨_, rfl, ?_, ?_⟩, hrange⟩, trivial, trivial, ?_,
    trivial, trivial, trivial⟩
  · exact fun hstatus => absurd hstatus (by decide)
  · exact fun hstatus => absurd hstatus (by decide)
  · exact fun _ => ⟨3, 4, rfl, by decide, by decide, by decide⟩
  · rintro rest ⟨⟩
    rfl

theorem truncatedRange_notInstalled :
    ¬ (truncatedRange.foldl (Downloads.step (.new ggufPath)) (.init fun _ => none)).Installed
        {[1, 2, 3, 4, 5, 6, 7, 8, 9, 10]} ggufPath := by
  rintro ⟨version, rfl, hfile⟩
  exact absurd hfile (by decide)

/-- **The truncated range is installed as the model.** -/
theorem truncatedRange_completes :
    Along (Downloads.step (.new ggufPath)) (Compliant {[1, 2, 3, 4, 5, 6, 7, 8, 9, 10]})
      truncatedRange
        (.init fun _ => none) ∧
      (truncatedRange.foldl (Downloads.step (.new ggufPath)) (.init fun _ => none)).attempt.phase =
        .returned (.ok .completed) ∧
      ¬ (truncatedRange.foldl (Downloads.step (.new ggufPath)) (.init fun _ => none)).Installed
        {[1, 2, 3, 4, 5, 6, 7, 8, 9, 10]} ggufPath :=
  ⟨truncatedRange_along, by decide, truncatedRange_notInstalled⟩

theorem downloads_complete_truncated :
    ¬ ∀ before, before <+: truncatedRange →
      (before.foldl (Downloads.step (.new ggufPath)) (.init fun _ => none)).attempt.phase =
        .returned (.ok .completed) →
      (before.foldl (Downloads.step (.new ggufPath)) (.init fun _ => none)).Finished
        {[1, 2, 3, 4, 5, 6, 7, 8, 9, 10]} := fun hfinished =>
  truncatedRange_notInstalled
    ((downloads_complete_iff ggufPath _ _ truncatedRange truncatedRange_along).mpr hfinished
      truncatedRange (List.prefix_refl _) (by decide))

end Paddler
