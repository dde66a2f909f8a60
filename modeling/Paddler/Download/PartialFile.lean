import Mathlib.Data.List.Infix
import Mathlib.Logic.Function.Basic

/-!
# The partial file of a download

Model of `partial_file.rs` and of `cached_downloaded_model.rs`.  A file is its bytes, and the file
system says which paths have one.  A path is its directory and the name of the file in it.

* `PartialFile.new` — the two paths of a download; `new_partialPath_ne` — they differ unless the
  name already ends in `.partial`.
* `PartialFile.append`, `truncate`, `finalize`, `remove` — what the operations do to the two files.
* `CachedDownloadedModel.partialPath_ne` — **the paths of the cache differ.**
-/

set_option autoImplicit false

namespace Paddler

/-! ## Paths -/

/-- A `PathBuf` that names a file. -/
structure PathBuf where
  parent : List (List Char)
  fileName : List Char
  deriving DecidableEq, Repr

/-- What stands before the last `.` of a name. -/
def beforeLastDot : List Char → Option (List Char)
  | [] => none
  | c :: rest =>
    match beforeLastDot rest with
    | some before => some (c :: before)
    | none => if c = '.' then some [] else none

/-- `Path::file_stem`: a name that starts with its only `.` has no extension. -/
def fileStem (fileName : List Char) : List Char :=
  match beforeLastDot fileName with
  | some (c :: before) => c :: before
  | some [] | none => fileName

/-- `Path::with_extension`; `..` is no file name. -/
def PathBuf.withExtension (self : PathBuf) (extension : List Char) : PathBuf :=
  if self.fileName = "..".toList then self
  else { self with fileName := fileStem self.fileName ++ '.' :: extension }

theorem beforeLastDot_of_not_mem : ∀ {name : List Char}, '.' ∉ name → beforeLastDot name = none
  | [], _ => rfl
  | c :: rest, h => by
    rw [List.mem_cons, not_or] at h
    rw [beforeLastDot, beforeLastDot_of_not_mem h.2]
    exact if_neg (Ne.symm h.1)

theorem PathBuf.withExtension_ne {path : PathBuf} (h : '.' ∉ path.fileName)
    (extension : List Char) :
    path.withExtension extension ≠ path := by
  have hname : path.fileName ≠ "..".toList := by
    intro heq
    rw [heq] at h
    exact h (by decide)
  intro heq
  unfold withExtension at heq
  rw [if_neg hname] at heq
  have hmem : '.' ∈ path.fileName := by
    rw [← congrArg PathBuf.fileName heq]
    exact List.mem_append_right _ (List.mem_cons_self ..)
  exact h hmem

/-! ## Files -/

/-- The kinds of `io::ErrorKind` that are told apart. -/
inductive IoErrorKind where
  | notFound
  | permissionDenied
  | other
  deriving DecidableEq, Repr

/-- `io::Error`. -/
structure IoError where
  kind : IoErrorKind
  rawOsError : Option Int
  deriving DecidableEq, Repr

/-- The error of an operation on a file that is not there. -/
def IoError.missing : IoError where
  kind := .notFound
  rawOsError := some 2

/-- A failure that is not about a missing file. -/
structure IoFault where
  error : IoError
  notMissing : error.kind ≠ .notFound
  deriving DecidableEq

/-- The files and their bytes. -/
abbrev Files := PathBuf → Option (List UInt8)

/-- The length of a file, 0 where there is none. -/
def Files.size (files : Files) (path : PathBuf) : Nat :=
  (files path).elim 0 List.length

/-- `metadata(path).len()`, which fails where there is no file. -/
def Files.metadata (files : Files) (path : PathBuf) (fault : Option IoFault) : Except IoError Nat :=
  match fault, files path with
  | some fault, _ => .error fault.error
  | none, some bytes => .ok bytes.length
  | none, none => .error .missing

def Files.removeFile (files : Files) (path : PathBuf) (fault : Option IoFault) :
    Except IoError Files :=
  match fault, files path with
  | some fault, _ => .error fault.error
  | none, some _ => .ok (Function.update files path none)
  | none, none => .error .missing

/-- `rename`, which replaces what is at the other path. -/
def Files.rename (files : Files) (source target : PathBuf) : Except IoError Files :=
  match files source with
  | some bytes => .ok (Function.update (Function.update files source none) target (some bytes))
  | none => .error .missing

/-! ## The partial file -/

/-- `partial_file.rs`. -/
structure PartialFile where
  finalPath : PathBuf
  partialPath : PathBuf
  deriving DecidableEq, Repr

/-- `PARTIAL_EXTENSION`. -/
def partialExtension : List Char := "partial".toList

namespace PartialFile

def new (finalPath : PathBuf) : PartialFile where
  finalPath := finalPath
  partialPath := finalPath.withExtension partialExtension

variable (self : PartialFile)

def currentSize (files : Files) (fault : Option IoFault) : Except IoError Nat :=
  match files.metadata self.partialPath fault with
  | .ok size => .ok size
  | .error metadataError => if metadataError.kind = .notFound then .ok 0 else .error metadataError

/-- `open_for_append`, which creates the file.  `failure` is that of `create_dir_all` or of
`open`. -/
def openForAppend (files : Files) (failure : Option IoError) : Except IoError Files :=
  match failure with
  | some error => .error error
  | none =>
    match files self.partialPath with
    | some _ => .ok files
    | none => .ok (Function.update files self.partialPath (some []))

/-- `truncate`, which creates the file too. -/
def truncate (files : Files) (failure : Option IoError) : Except IoError Files :=
  match failure with
  | some error => .error error
  | none => .ok (Function.update files self.partialPath (some []))

/-- What the file opened for appending does with bytes written to it. -/
def append (files : Files) (bytes : List UInt8) : Files :=
  Function.update files self.partialPath (some ((files self.partialPath).getD [] ++ bytes))

def finalize (files : Files) (failure : Option IoError) : Except IoError Files :=
  match failure with
  | some error => .error error
  | none => files.rename self.partialPath self.finalPath

def remove (files : Files) (fault : Option IoFault) : Except IoError Files :=
  match files.removeFile self.partialPath fault with
  | .ok files => .ok files
  | .error removeError => if removeError.kind = .notFound then .ok files else .error removeError

/-! ### What the operations do -/

variable {self : PartialFile} {files files' : Files}

theorem currentSize_ok {fault : Option IoFault} {size : Nat}
    (h : self.currentSize files fault = .ok size) : size = files.size self.partialPath := by
  unfold currentSize Files.metadata at h
  unfold Files.size
  cases fault with
  | some fault =>
    simp only [if_neg fault.notMissing] at h
    cases h
  | none =>
    cases hfile : files self.partialPath with
    | some bytes =>
      simp only [hfile] at h
      cases h
      rfl
    | none =>
      simp only [hfile] at h
      cases h
      rfl

theorem openForAppend_ok {failure : Option IoError}
    (h : self.openForAppend files failure = .ok files') :
    files' = Function.update files self.partialPath (some ((files self.partialPath).getD [])) := by
  unfold openForAppend at h
  split at h
  · cases h
  · split at h
    · rename_i bytes hfile
      cases h
      rw [hfile, Option.getD_some, ← hfile, Function.update_eq_self]
    · rename_i hfile
      cases h
      rw [hfile, Option.getD_none]

theorem truncate_ok {failure : Option IoError} (h : self.truncate files failure = .ok files') :
    files' = Function.update files self.partialPath (some []) := by
  unfold truncate at h
  split at h
  · cases h
  · cases h
    rfl

theorem remove_ok {fault : Option IoFault} (h : self.remove files fault = .ok files') :
    files' = Function.update files self.partialPath none := by
  unfold remove Files.removeFile at h
  cases fault with
  | some fault =>
    simp only [if_neg fault.notMissing] at h
    cases h
  | none =>
    cases hfile : files self.partialPath with
    | some bytes =>
      simp only [hfile] at h
      cases h
      rfl
    | none =>
      simp only [hfile] at h
      cases h
      rw [← hfile, Function.update_eq_self]

theorem finalize_ok {failure : Option IoError} (h : self.finalize files failure = .ok files') :
    failure = none ∧ ∃ bytes, files self.partialPath = some bytes ∧
      files' = Function.update (Function.update files self.partialPath none) self.finalPath
        (some bytes) := by
  unfold finalize Files.rename at h
  split at h
  · cases h
  · split at h
    · rename_i bytes hfile
      cases h
      exact ⟨rfl, bytes, hfile, rfl⟩
    · cases h

end PartialFile

/-! ## The cache -/

/-- A digit of `{byte:02x}`. -/
def hexDigit (n : Nat) : Char :=
  if n < 10 then Char.ofNat (48 + n) else Char.ofNat (87 + n)

def hexLowercase (bytes : List UInt8) : List Char :=
  bytes.flatMap fun byte => [hexDigit (byte.toNat / 16), hexDigit (byte.toNat % 16)]

/-- `cached_downloaded_model.rs`. -/
structure CachedDownloadedModel where
  cacheFilePath : PathBuf
  cacheSubdir : List (List Char)
  lockFilePath : PathBuf
  deriving DecidableEq, Repr

/-- `DOWNLOADED_MODELS_SUBDIR`. -/
def downloadedModelsSubdir : List Char := "downloaded-models".toList

/-- `CachedDownloadedModel::new` under the cache directory that was resolved.  `sha256` is the
digest of the URL's bytes. -/
def CachedDownloadedModel.new (sha256 : List UInt8 → List UInt8) (cacheRoot : List (List Char))
    (url : String) : CachedDownloadedModel :=
  let basename := hexLowercase (sha256 url.toUTF8.data.toList)
  let cacheSubdir := cacheRoot ++ [downloadedModelsSubdir]
  { cacheFilePath := { parent := cacheSubdir, fileName := basename }
    cacheSubdir := cacheSubdir
    lockFilePath := { parent := cacheSubdir, fileName := basename ++ ".lock".toList } }

theorem hexDigit_ne_dot : ∀ {n : Nat}, n < 16 → '.' ≠ hexDigit n := by decide

theorem dot_notMem_hexLowercase (bytes : List UInt8) : '.' ∉ hexLowercase bytes := by
  intro h
  obtain ⟨byte, -, hdigit⟩ := List.mem_flatMap.mp h
  have hbyte := byte.toNat_lt
  simp only [List.mem_cons, List.not_mem_nil, or_false] at hdigit
  rcases hdigit with hdigit | hdigit
  · exact hexDigit_ne_dot (by omega) hdigit
  · exact hexDigit_ne_dot (by omega) hdigit

/-- **The file that is cached and the partial file are two files.** -/
theorem CachedDownloadedModel.partialPath_ne (sha256 : List UInt8 → List UInt8)
    (cacheRoot : List (List Char)) (url : String) :
    (PartialFile.new (CachedDownloadedModel.new sha256 cacheRoot url).cacheFilePath).partialPath ≠
      (CachedDownloadedModel.new sha256 cacheRoot url).cacheFilePath :=
  PathBuf.withExtension_ne (dot_notMem_hexLowercase _) partialExtension

end Paddler
