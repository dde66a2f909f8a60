import Mathlib.Logic.Function.Basic
import Paddler.Agent.DesiredStateConversion

/-!
# The cache of Hugging Face models

`HuggingFaceModelSource::resolve` looks its file up in the cache of `hf_hub` and downloads it when
it is not there.  The cache has files by repository, revision and file name.  The download asks for
the revision of the reference; the lookup asks `Repo::new`, which is the revision `main`.

* `resolveHuggingFace_resolved` — a path comes from the lookup or from the download, and from
  nowhere else.
* `ResolveCall.resolve` — a call with the cache it finds, and the cache it leaves.
* `ResolveCall.returnsNamed_iff` — one call returns what its reference names unless the lookup goes
  astray.
* `alongCalls_iff` — **a sequence of calls over one cache returns what the references name if and
  only if** no lookup of it goes astray.
* `lookupIsRight_of_mainApart` — none does as long as `main` and the other revisions are kept apart.
* `resolved_other_revision` — whoever asks for `main` first gets it for every other revision too.
-/

set_option autoImplicit false

namespace Paddler

open Run

namespace DesiredStateConversion

/-! ## The cache of `hf_hub` -/

/-- `Repo`, of the type `RepoType::Model`. -/
structure Repo where
  repoId : String
  revision : String
  deriving DecidableEq, Repr

def Repo.new (repoId : String) : Repo where
  repoId := repoId
  revision := "main"

def Repo.withRevision (repoId revision : String) : Repo where
  repoId := repoId
  revision := revision

/-- `Cache`: the files by repository, revision and file name. -/
abbrev Cache := Repo → String → Option PathBuf

namespace Cache

/-- `cache.repo(repo).get(filename)`. -/
def get (self : Cache) (repo : Repo) (filename : String) : Option PathBuf :=
  self repo filename

/-- A download stores its file under the revision it was asked for. -/
def store (self : Cache) (repo : Repo) (filename : String) (path : PathBuf) : Cache :=
  Function.update self repo (Function.update (self repo) filename (some path))

theorem get_store (self : Cache) (repo : Repo) (filename : String) (path : PathBuf) :
    (self.store repo filename path).get repo filename = some path := by
  unfold get store
  rw [Function.update_self, Function.update_self]

end Cache

/-! ## One call -/

/-- A path that is returned was found in the cache, or was not found there and downloaded. -/
theorem resolveHuggingFace_resolved (answers : HuggingFaceAnswers)
    (reference : HuggingFaceModelReference) (status : SlotAggregatedStatus) (path : PathBuf) :
    (resolveHuggingFace answers reference status).1 = .ok (.resolved path) ↔
      AgentIssue.huggingFaceModelDoesNotExist
          ⟨reference.repoId ++ "/" ++ reference.revision ++ "/" ++ reference.filename⟩ ∉
            status.issues ∧
        answers.build = .ok () ∧
        (answers.cached = some path ∨ answers.cached = none ∧
          answers.download = some (.ok path)) := by
  unfold resolveHuggingFace
  dsimp only
  by_cases hissue : AgentIssue.huggingFaceModelDoesNotExist
      ⟨reference.repoId ++ "/" ++ reference.revision ++ "/" ++ reference.filename⟩ ∈ status.issues
  · simp [hissue]
  rw [if_neg hissue]
  cases hbuild : answers.build with
  | error message => simp
  | ok u =>
    cases hcached : answers.cached with
    | some cachedPath => simp [hissue]
    | none =>
      cases hdownload : answers.download with
      | none => simp
      | some result =>
        cases result with
        | ok resolvedFilename => simp [hissue]
        | error error =>
          cases error with
          | lockAcquisition lockPath =>
            dsimp only
            split <;> simp
          | requestError httpStatus message =>
            dsimp only
            split_ifs <;> simp
          | other message => simp

/-- A call of `resolve`: its reference, the status of its agent, and what `hf_hub` answers besides
the lookup. -/
structure ResolveCall where
  reference : HuggingFaceModelReference
  status : SlotAggregatedStatus
  build : Except String Unit
  progress : List StatusMutation
  download : Option (Except ApiError PathBuf)
  waitCancelled : Bool

namespace ResolveCall

variable (self : ResolveCall)

/-- `hf_cache.repo(Repo::new(repo_id, RepoType::Model)).get(filename)`. -/
def cached (cache : Cache) : Option PathBuf :=
  cache.get (.new self.reference.repoId) self.reference.filename

/-- The repository that is downloaded from. -/
def repo : Repo :=
  .withRevision self.reference.repoId self.reference.revision

/-- What `hf_hub` answers with this cache. -/
def answers (cache : Cache) : HuggingFaceAnswers where
  build := self.build
  cached := self.cached cache
  progress := self.progress
  download := self.download
  waitCancelled := self.waitCancelled

/-- `HuggingFaceModelSource::resolve` with this cache. -/
def resolve (cache : Cache) :
    Except ConversionError DesiredModelResolution × SlotAggregatedStatus :=
  resolveHuggingFace (self.answers cache) self.reference self.status

/-- The call gets as far as the lookup. -/
def LooksUp : Prop :=
  AgentIssue.huggingFaceModelDoesNotExist
      ⟨self.reference.repoId ++ "/" ++ self.reference.revision ++ "/" ++ self.reference.filename⟩ ∉
    self.status.issues ∧ self.build = .ok ()

instance : Decidable self.LooksUp :=
  inferInstanceAs (Decidable (_ ∧ _))

/-- The file that the call downloads. -/
def downloaded (cache : Cache) : Option PathBuf :=
  if self.LooksUp ∧ self.cached cache = none then
    match self.download with
    | some (.ok path) => some path
    | _ => none
  else none

/-- The cache after the call. -/
def cacheAfter (cache : Cache) : Cache :=
  match self.downloaded cache with
  | some path => cache.store self.repo self.reference.filename path
  | none => cache

/-- A path that the call returns is the file of the repository, the revision and the name in its
reference. -/
def ReturnsNamed (cache : Cache) : Prop :=
  ∀ path, (self.resolve cache).1 = .ok (.resolved path) →
    (self.cacheAfter cache).get self.repo self.reference.filename = some path

/-- The lookup does not go astray: it asks for the revision of the reference, or finds nothing, or
finds the file that the cache has for that revision as well. -/
def LookupIsRight (cache : Cache) : Prop :=
  self.LooksUp → self.reference.revision = "main" ∨ self.cached cache = none ∨
    self.cached cache = cache.get self.repo self.reference.filename

theorem resolve_resolved (cache : Cache) (path : PathBuf) :
    (self.resolve cache).1 = .ok (.resolved path) ↔
      self.LooksUp ∧ (self.cached cache = some path ∨ self.downloaded cache = some path) := by
  have hdownloaded : self.LooksUp →
      (self.downloaded cache = some path ↔ self.cached cache = none ∧
        self.download = some (.ok path)) := by
    intro hlooks
    unfold downloaded
    split
    · rename_i hmissing
      split
      · rename_i hdownload
        simp [hdownload, hmissing.2]
      · rename_i hother
        exact iff_of_false (by simp) fun h => hother path h.2
    · rename_i hfound
      exact iff_of_false (by simp) fun h => hfound ⟨hlooks, h.1⟩
  unfold resolve
  rw [resolveHuggingFace_resolved, ← and_assoc]
  exact and_congr_right fun hlooks => or_congr_right (hdownloaded hlooks).symm

variable {self}

/-- A file that was downloaded is the one that was asked for. -/
theorem cacheAfter_of_downloaded {cache : Cache} {path : PathBuf}
    (h : self.downloaded cache = some path) :
    (self.cacheAfter cache).get self.repo self.reference.filename = some path := by
  unfold cacheAfter
  rw [h]
  exact cache.get_store _ _ _

theorem cacheAfter_of_cached {cache : Cache} {path : PathBuf} (h : self.cached cache = some path) :
    self.cacheAfter cache = cache := by
  have hnone : self.downloaded cache = none := by
    unfold downloaded
    rw [h]
    exact if_neg (by simp)
  unfold cacheAfter
  rw [hnone]

/-- **One call returns what its reference names if and only if its lookup does not go astray.** -/
theorem returnsNamed_iff {cache : Cache} : self.ReturnsNamed cache ↔ self.LookupIsRight cache := by
  constructor
  · intro hnamed hlooks
    cases hcached : self.cached cache with
    | none => exact Or.inr (Or.inl rfl)
    | some path =>
      have hget := hnamed path ((self.resolve_resolved cache path).mpr ⟨hlooks, Or.inl hcached⟩)
      rw [cacheAfter_of_cached hcached] at hget
      exact Or.inr (Or.inr hget.symm)
  · intro hright path hpath
    obtain ⟨hlooks, hcached | hdownloaded⟩ := (self.resolve_resolved cache path).mp hpath
    · rw [cacheAfter_of_cached hcached]
      rcases hright hlooks with hmain | hnone | hsame
      · unfold repo
        rw [hmain]
        exact hcached
      · rw [hcached] at hnone
        cases hnone
      · rw [← hsame]
        exact hcached
    · exact cacheAfter_of_downloaded hdownloaded

end ResolveCall

/-! ## Sequences of calls -/

/-- A sequence of calls over one cache, of which each satisfies `P` with the cache it finds. -/
def AlongCalls (P : ResolveCall → Cache → Prop) (calls : List ResolveCall) (cache : Cache) : Prop :=
  Along (fun cache call => call.cacheAfter cache) (fun cache call => P call cache) calls cache

/-- **A sequence of calls over one cache returns what the references name if and only if no lookup
of it goes astray**: each lookup asks for the revision of its reference, or finds nothing, or finds
what the cache has for that revision too. -/
theorem alongCalls_iff (cache : Cache) (calls : List ResolveCall) :
    AlongCalls ResolveCall.ReturnsNamed calls cache ↔
      AlongCalls ResolveCall.LookupIsRight calls cache := by
  have hguard : (fun cache (call : ResolveCall) => call.ReturnsNamed cache) =
      fun cache call => call.LookupIsRight cache :=
    funext₂ fun cache call => propext ResolveCall.returnsNamed_iff
  unfold AlongCalls
  rw [hguard]

/-! ## Which sequences -/

namespace ResolveCall

variable {self : ResolveCall}

/-- Two calls for the same file of the same repository, at whatever revisions. -/
def SameFile (self other : ResolveCall) : Prop :=
  self.reference.repoId = other.reference.repoId ∧
    self.reference.filename = other.reference.filename

/-- What a call finds is not changed by one that stores its file elsewhere. -/
theorem cached_cacheAfter {other : ResolveCall}
    (h : other.reference.revision = "main" → ¬ self.SameFile other) (cache : Cache) :
    self.cached (other.cacheAfter cache) = self.cached cache := by
  unfold cacheAfter
  split
  · unfold cached Cache.get Cache.store
    by_cases hrepo : Repo.new self.reference.repoId = other.repo
    · rw [hrepo, Function.update_self]
      have hsame := congrArg Repo.repoId hrepo
      have hmain := congrArg Repo.revision hrepo
      rw [Function.update_of_ne fun hfilename => h hmain.symm ⟨hsame, hfilename⟩]
    · rw [Function.update_of_ne hrepo]
  · rfl

end ResolveCall

/-- Every call asks for `main`, or for a file that no call asks for at `main` and that the cache
does not have. -/
def MainApart (calls : List ResolveCall) (cache : Cache) : Prop :=
  ∀ call ∈ calls, call.reference.revision = "main" ∨ call.cached cache = none ∧
    ∀ other ∈ calls, other.reference.revision = "main" → ¬ call.SameFile other

/-- **No lookup goes astray as long as `main` and the other revisions are kept apart.** -/
theorem lookupIsRight_of_mainApart :
    ∀ {calls : List ResolveCall} {cache : Cache}, MainApart calls cache →
      AlongCalls ResolveCall.LookupIsRight calls cache
  | [], _, _ => trivial
  | call :: calls, cache, h => by
    refine ⟨fun _ => ?_, lookupIsRight_of_mainApart fun later hlater => ?_⟩
    · exact (h call List.mem_cons_self).imp_right fun hmissing => Or.inl hmissing.1
    · refine (h later (List.mem_cons_of_mem _ hlater)).imp_right fun hmissing => ⟨?_, ?_⟩
      · rw [ResolveCall.cached_cacheAfter (hmissing.2 call List.mem_cons_self)]
        exact hmissing.1
      · exact fun other hother => hmissing.2 other (List.mem_cons_of_mem _ hother)

/-- A first download of a file for this revision. -/
def freshDownload (revision : String) (path : PathBuf) : ResolveCall where
  reference := { filename := "model.gguf", repoId := "owner/model", revision := revision }
  status := .new 0
  build := .ok ()
  progress := []
  download := some (.ok path)
  waitCancelled := false

/-- **Whoever asks for `main` first gets it for every other revision too.** -/
theorem resolved_other_revision :
    ¬ ∀ cache calls, AlongCalls ResolveCall.ReturnsNamed calls cache := by
  intro h
  have hdev := (h (fun _ _ => none)
    [freshDownload "main" ⟨[], ['m']⟩, freshDownload "dev" ⟨[], ['d']⟩]).2.1
  exact absurd (hdev ⟨[], ['m']⟩ (by decide)) (by decide)

end DesiredStateConversion

end Paddler
