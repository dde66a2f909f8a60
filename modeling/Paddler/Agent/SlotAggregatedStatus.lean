import Mathlib.Data.Finset.Card
import Paddler.Messaging.AgentStatus

/-!
# The status an agent keeps of itself

Model of `slot_aggregated_status.rs`, `agent_issue_fix.rs` and of the parts of `atomic_value.rs`
they use.  The `AtomicI32`s wrap around, as `fetch_add` and `fetch_sub` do, and `fetch_add` of an
`AtomicU64` is addition of `UInt64`.  `updateTx` counts the sends on the watch channel.  The token
rate depends on the clock, so it is given when a snapshot is made.

* `StatusMutation.apply` — every mutator of the status.
* `apply_version` — how far each mutator moves the version.
* `NoWrap` — a mutator under which the version counter does not wrap.
-/

set_option autoImplicit false

namespace Paddler

/-! ## Issues and their fixes -/

/-- `agent_issue_fix.rs`. -/
inductive AgentIssueFix where
  | chatTemplateIsCompiled (modelPath : ModelPath)
  | huggingFaceDownloadedModel (modelPath : ModelPath)
  | huggingFaceStartedDownloading (modelPath : ModelPath)
  | modelChatTemplateIsLoaded (modelPath : ModelPath)
  | modelFileExists (modelPath : ModelPath)
  | modelIsLoaded (modelPath : ModelPath)
  | modelDownloadCompleted (modelPath : ModelPath)
  | modelDownloadStarted (modelPath : ModelPath)
  | modelStateIsReconciled
  | multimodalProjectionIsLoaded (modelPath : ModelPath)
  | slotStarted (slotIndex : UInt32)
  deriving DecidableEq

def AgentIssueFix.canFix (self : AgentIssueFix) (issue : AgentIssue) : Bool :=
  match issue with
  | .chatTemplateDoesNotCompile issueParams =>
    match self with
    | .chatTemplateIsCompiled fixModelPath => issueParams.modelPath == fixModelPath
    | .modelStateIsReconciled => true
    | _ => false
  | .huggingFaceCannotAcquireLock lock =>
    match self with
    | .huggingFaceDownloadedModel fixModelPath | .huggingFaceStartedDownloading fixModelPath =>
      lock.modelPath == fixModelPath
    | .modelStateIsReconciled => true
    | _ => false
  | .huggingFaceModelDoesNotExist issueModelPath | .huggingFacePermissions issueModelPath =>
    match self with
    | .huggingFaceDownloadedModel fixModelPath | .huggingFaceStartedDownloading fixModelPath
    | .multimodalProjectionIsLoaded fixModelPath => issueModelPath == fixModelPath
    | .modelStateIsReconciled => true
    | _ => false
  | .modelCannotBeLoaded issueModelPath =>
    match self with
    | .modelIsLoaded fixModelPath => issueModelPath == fixModelPath
    | _ => false
  | .modelFileDoesNotExist issueModelPath =>
    match self with
    | .modelFileExists fixModelPath | .multimodalProjectionIsLoaded fixModelPath =>
      issueModelPath == fixModelPath
    | _ => false
  | .multimodalProjectionCannotBeLoaded _ =>
    match self with
    | .multimodalProjectionIsLoaded _ => true
    | _ => false
  | .slotCannotStart params =>
    match self with
    | .slotStarted startedSlotIndex => params.slotIndex == startedSlotIndex
    | _ => false
  | .unableToFindChatTemplate issueModelPath =>
    match self with
    | .modelChatTemplateIsLoaded fixModelPath => issueModelPath == fixModelPath
    | .modelStateIsReconciled => true
    | _ => false
  | .cacheCannotAcquireLock issueModelPath | .cacheDirectoryIsNotWritable issueModelPath
  | .cacheStorageIsFull issueModelPath | .downloadInterrupted issueModelPath
  | .downloadServerDeniedAccess issueModelPath | .downloadServerErrored issueModelPath
  | .downloadServerIsUnreachable issueModelPath | .downloadServerRejectedRequest issueModelPath
  | .downloadUrlIsMalformed issueModelPath | .modelCacheIsCorrupted issueModelPath
  | .modelDoesNotExistAtUrl issueModelPath =>
    match self with
    | .modelDownloadCompleted fixModelPath | .modelDownloadStarted fixModelPath =>
      issueModelPath == fixModelPath
    | .modelStateIsReconciled => true
    | _ => false

/-- `TryFrom<i32>` for the application status. -/
def AgentStateApplicationStatus.tryFrom (value : Int) : Except String AgentStateApplicationStatus :=
  if value = 0 then .ok .applied
  else if value = 1 then .ok .attemptedAndNotAppliable
  else if value = 2 then .ok .attemptedAndRetrying
  else if value = 3 then .ok .fresh
  else if value = 4 then .ok .stuck
  else .error s!"Invalid value for AgentStateApplicationStatus: {value}"

@[simp] theorem AgentStateApplicationStatus.tryFrom_code (status : AgentStateApplicationStatus) :
    AgentStateApplicationStatus.tryFrom status.code = .ok status := by
  cases status <;> rfl

/-! ## The status -/

/-- An `AtomicI32` holds the result of arithmetic modulo `2 ^ 32`. -/
def wrappingI32 (value : Int) : Int := Int.bmod value 4294967296

theorem wrappingI32_of_between {value : Int} (hlow : -2147483648 ≤ value)
    (hhigh : value ≤ 2147483647) : wrappingI32 value = value := by
  unfold wrappingI32
  exact Int.bmod_eq_of_le (by omega) (by omega)

theorem wrappingI32_bounds (value : Int) :
    -2147483648 ≤ wrappingI32 value ∧ wrappingI32 value ≤ 2147483647 := by
  unfold wrappingI32
  have hlow := @Int.le_bmod value 4294967296 (by decide)
  have hhigh := @Int.bmod_lt value 4294967296 (by decide)
  omega

/-- `slot_aggregated_status.rs`. -/
structure SlotAggregatedStatus where
  desiredSlotsTotal : Int
  downloadCurrent : UInt64
  downloadFilename : Option String
  downloadIndeterminate : Bool
  downloadTotal : UInt64
  issues : Finset AgentIssue
  modelPath : Option String
  slotsProcessing : Int
  slotsTotal : Int
  stateApplicationStatusCode : Int
  updateTx : Nat
  usesChatTemplateOverride : Bool
  version : Int
  deriving DecidableEq

namespace SlotAggregatedStatus

def new (desiredSlotsTotal : Int) : SlotAggregatedStatus :=
  { desiredSlotsTotal := desiredSlotsTotal
    downloadCurrent := 0
    downloadFilename := none
    downloadIndeterminate := true
    downloadTotal := 0
    issues := ∅
    modelPath := none
    slotsProcessing := 0
    slotsTotal := 0
    stateApplicationStatusCode := AgentStateApplicationStatus.fresh.code
    updateTx := 0
    usesChatTemplateOverride := false
    version := 0 }

/-- `self.update_tx.send_replace(())`. -/
def notify (self : SlotAggregatedStatus) : SlotAggregatedStatus :=
  { self with updateTx := self.updateTx + 1 }

/-- `self.version.increment(); self.update_tx.send_replace(())`. -/
def incrementVersion (self : SlotAggregatedStatus) : SlotAggregatedStatus :=
  { self with version := wrappingI32 (self.version + 1) }.notify

def decrementTotalSlots (self : SlotAggregatedStatus) : SlotAggregatedStatus :=
  { self with slotsTotal := wrappingI32 (self.slotsTotal - 1) }.incrementVersion

def getStateApplicationStatus (self : SlotAggregatedStatus) :
    Except String AgentStateApplicationStatus :=
  AgentStateApplicationStatus.tryFrom self.stateApplicationStatusCode

def incrementDownloadCurrent (self : SlotAggregatedStatus) (size : UInt64) : SlotAggregatedStatus :=
  { self with downloadCurrent := self.downloadCurrent + size }.incrementVersion

def incrementTotalSlots (self : SlotAggregatedStatus) : SlotAggregatedStatus :=
  { self with slotsTotal := wrappingI32 (self.slotsTotal + 1) }.incrementVersion

/-- `register_issue`: the version stays. -/
def registerIssue (self : SlotAggregatedStatus) (issue : AgentIssue) : SlotAggregatedStatus :=
  if issue ∈ self.issues then self else { self with issues := insert issue self.issues }.notify

/-- `register_fix`: the version stays. -/
def registerFix (self : SlotAggregatedStatus) (fix : AgentIssueFix) : SlotAggregatedStatus :=
  let issues := self.issues.filter fun issue => !fix.canFix issue
  if issues.card < self.issues.card then { self with issues := issues }.notify
  else { self with issues := issues }

def setDownloadFilename (self : SlotAggregatedStatus) (filename : Option String) :
    SlotAggregatedStatus :=
  { self with downloadFilename := filename }.incrementVersion

def setModelPath (self : SlotAggregatedStatus) (modelPath : Option String) : SlotAggregatedStatus :=
  { self with modelPath := modelPath }.incrementVersion

/-- `reset`: the version moves for the model path, and again at the end. -/
def reset (self : SlotAggregatedStatus) : SlotAggregatedStatus :=
  { ({ self with issues := ∅ }.setModelPath none) with
    slotsProcessing := 0
    slotsTotal := 0 }.incrementVersion

/-- `reset_download`: the version moves for the file name, and again at the end. -/
def resetDownload (self : SlotAggregatedStatus) : SlotAggregatedStatus :=
  ({ self with
      downloadCurrent := 0
      downloadTotal := 0
      downloadIndeterminate := true }.setDownloadFilename none).incrementVersion

def setDownloadStatus (self : SlotAggregatedStatus) (current : UInt64) (total : Option UInt64)
    (filename : Option String) : SlotAggregatedStatus :=
  match total with
  | some value =>
    { self with
      downloadCurrent := current
      downloadTotal := value
      downloadIndeterminate := false }.setDownloadFilename filename
  | none =>
    { self with
      downloadCurrent := current
      downloadTotal := 0
      downloadIndeterminate := true }.setDownloadFilename filename

def setStateApplicationStatus (self : SlotAggregatedStatus) (status : AgentStateApplicationStatus) :
    SlotAggregatedStatus :=
  { self with stateApplicationStatusCode := status.code }.incrementVersion

def setUsesChatTemplateOverride (self : SlotAggregatedStatus) (uses : Bool) :
    SlotAggregatedStatus :=
  { self with usesChatTemplateOverride := uses }.incrementVersion

def releaseSlot (self : SlotAggregatedStatus) : SlotAggregatedStatus :=
  { self with slotsProcessing := wrappingI32 (self.slotsProcessing - 1) }.incrementVersion

def takeSlot (self : SlotAggregatedStatus) : SlotAggregatedStatus :=
  { self with slotsProcessing := wrappingI32 (self.slotsProcessing + 1) }.incrementVersion

/-- `make_snapshot`, with the token rate at that time. -/
def makeSnapshot (self : SlotAggregatedStatus) (tokensPerSecond : UInt64) :
    Except String SlotAggregatedStatusSnapshot := do
  let stateApplicationStatus ← self.getStateApplicationStatus
  return {
    desiredSlotsTotal := self.desiredSlotsTotal
    downloadCurrent := self.downloadCurrent
    downloadFilename := self.downloadFilename
    downloadIndeterminate := self.downloadIndeterminate
    downloadTotal := self.downloadTotal
    issues := self.issues
    modelPath := self.modelPath
    slotsProcessing := self.slotsProcessing
    slotsTotal := self.slotsTotal
    stateApplicationStatus := stateApplicationStatus
    tokensPerSecond := tokensPerSecond
    usesChatTemplateOverride := self.usesChatTemplateOverride
    version := self.version }

end SlotAggregatedStatus

/-- A call of one of the mutators; `record_generated_token` only moves the token meter. -/
inductive StatusMutation where
  | decrementTotalSlots
  | incrementDownloadCurrent (size : UInt64)
  | incrementTotalSlots
  | recordGeneratedToken
  | registerFix (fix : AgentIssueFix)
  | registerIssue (issue : AgentIssue)
  | releaseSlot
  | reset
  | resetDownload
  | setDownloadFilename (filename : Option String)
  | setDownloadStatus (current : UInt64) (total : Option UInt64) (filename : Option String)
  | setModelPath (modelPath : Option String)
  | setStateApplicationStatus (status : AgentStateApplicationStatus)
  | setUsesChatTemplateOverride (uses : Bool)
  | takeSlot
  deriving DecidableEq

namespace StatusMutation

/-- What the call does. -/
def apply (self : SlotAggregatedStatus) : StatusMutation → SlotAggregatedStatus
  | .decrementTotalSlots => self.decrementTotalSlots
  | .incrementDownloadCurrent size => self.incrementDownloadCurrent size
  | .incrementTotalSlots => self.incrementTotalSlots
  | .recordGeneratedToken => self
  | .registerFix fix => self.registerFix fix
  | .registerIssue issue => self.registerIssue issue
  | .releaseSlot => self.releaseSlot
  | .reset => self.reset
  | .resetDownload => self.resetDownload
  | .setDownloadFilename filename => self.setDownloadFilename filename
  | .setDownloadStatus current total filename => self.setDownloadStatus current total filename
  | .setModelPath modelPath => self.setModelPath modelPath
  | .setStateApplicationStatus status => self.setStateApplicationStatus status
  | .setUsesChatTemplateOverride uses => self.setUsesChatTemplateOverride uses
  | .takeSlot => self.takeSlot

/-- How often the call increments the version. -/
def versionIncrements : StatusMutation → Int
  | .recordGeneratedToken | .registerFix _ | .registerIssue _ => 0
  | .reset | .resetDownload => 2
  | .decrementTotalSlots | .incrementDownloadCurrent _ | .incrementTotalSlots | .releaseSlot
  | .setDownloadFilename _ | .setDownloadStatus .. | .setModelPath _ | .setStateApplicationStatus _
  | .setUsesChatTemplateOverride _ | .takeSlot => 1

end StatusMutation

/-- The call leaves the version counter below the end of its range. -/
def SlotAggregatedStatus.NoWrap (self : SlotAggregatedStatus) (mutation : StatusMutation) : Prop :=
  self.version + mutation.versionIncrements ≤ 2147483647

instance (self : SlotAggregatedStatus) (mutation : StatusMutation) :
    Decidable (self.NoWrap mutation) :=
  inferInstanceAs (Decidable (_ ≤ _))

/-! ## What every mutator keeps -/

namespace SlotAggregatedStatus

theorem mem_registerIssue {self : SlotAggregatedStatus} {issue registered : AgentIssue} :
    issue ∈ (self.registerIssue registered).issues ↔ issue = registered ∨ issue ∈ self.issues := by
  unfold registerIssue
  split
  · rename_i hmem
    exact ⟨Or.inr, fun h => h.elim (fun heq => heq ▸ hmem) id⟩
  · exact Finset.mem_insert

theorem mem_registerFix {self : SlotAggregatedStatus} {fix : AgentIssueFix} {issue : AgentIssue} :
    issue ∈ (self.registerFix fix).issues ↔ issue ∈ self.issues ∧ fix.canFix issue = false := by
  have hissues : (self.registerFix fix).issues = self.issues.filter fun issue =>
      !fix.canFix issue := by
    unfold registerFix
    dsimp only
    split <;> rfl
  rw [hissues, Finset.mem_filter, Bool.not_eq_true']

/-- The version is an `i32` and the code is one of the application statuses. -/
structure WellFormed (s : SlotAggregatedStatus) : Prop where
  versionLow : -2147483648 ≤ s.version
  versionHigh : s.version ≤ 2147483647
  code : ∃ status : AgentStateApplicationStatus, s.stateApplicationStatusCode = status.code

theorem new_wellFormed (desiredSlotsTotal : Int) : (new desiredSlotsTotal).WellFormed :=
  ⟨by simp [new], by simp [new], .fresh, rfl⟩

theorem makeSnapshot_of_wellFormed {self : SlotAggregatedStatus} (h : self.WellFormed)
    (tokensPerSecond : UInt64) : ∃ snapshot, self.makeSnapshot tokensPerSecond = .ok snapshot := by
  obtain ⟨status, hstatus⟩ := h.code
  unfold makeSnapshot getStateApplicationStatus
  rw [hstatus, AgentStateApplicationStatus.tryFrom_code]
  exact ⟨_, rfl⟩

theorem makeSnapshot_ok {self : SlotAggregatedStatus} {tokensPerSecond : UInt64}
    {snapshot : SlotAggregatedStatusSnapshot}
    (h : self.makeSnapshot tokensPerSecond = .ok snapshot) :
    ∃ status, self.getStateApplicationStatus = .ok status ∧
      snapshot =
        { desiredSlotsTotal := self.desiredSlotsTotal
          downloadCurrent := self.downloadCurrent
          downloadFilename := self.downloadFilename
          downloadIndeterminate := self.downloadIndeterminate
          downloadTotal := self.downloadTotal
          issues := self.issues
          modelPath := self.modelPath
          slotsProcessing := self.slotsProcessing
          slotsTotal := self.slotsTotal
          stateApplicationStatus := status
          tokensPerSecond := tokensPerSecond
          usesChatTemplateOverride := self.usesChatTemplateOverride
          version := self.version } := by
  unfold makeSnapshot at h
  cases hstatus : self.getStateApplicationStatus with
  | error message =>
    rw [hstatus] at h
    cases h
  | ok status =>
    rw [hstatus] at h
    cases h
    exact ⟨status, rfl, rfl⟩

theorem makeSnapshot_version {self : SlotAggregatedStatus} {tokensPerSecond : UInt64}
    {snapshot : SlotAggregatedStatusSnapshot}
    (h : self.makeSnapshot tokensPerSecond = .ok snapshot) :
    snapshot.version = self.version := by
  obtain ⟨status, -, rfl⟩ := makeSnapshot_ok h
  rfl

theorem makeSnapshot_slotsTotal {self : SlotAggregatedStatus} {tokensPerSecond : UInt64}
    {snapshot : SlotAggregatedStatusSnapshot}
    (h : self.makeSnapshot tokensPerSecond = .ok snapshot) :
    snapshot.slotsTotal = self.slotsTotal := by
  obtain ⟨status, -, rfl⟩ := makeSnapshot_ok h
  rfl

end SlotAggregatedStatus

theorem wrappingI32_add_one_twice (value : Int) :
    wrappingI32 (wrappingI32 (value + 1) + 1) = wrappingI32 (value + 2) := by
  unfold wrappingI32
  rw [Int.bmod_add_bmod, Int.add_assoc]
  rfl

namespace StatusMutation

/-- **Every call moves the version by its increments**, modulo `2 ^ 32`. -/
theorem apply_version {self : SlotAggregatedStatus} (h : self.WellFormed)
    (mutation : StatusMutation) :
    (mutation.apply self).version = wrappingI32 (self.version + mutation.versionIncrements) := by
  have hsame : self.version = wrappingI32 (self.version + 0) := by
    rw [Int.add_zero, wrappingI32_of_between h.versionLow h.versionHigh]
  cases mutation with
  | recordGeneratedToken => exact hsame
  | registerFix fix =>
    simp only [apply, SlotAggregatedStatus.registerFix]
    split <;> exact hsame
  | registerIssue issue =>
    simp only [apply, SlotAggregatedStatus.registerIssue]
    split <;> exact hsame
  | reset => exact wrappingI32_add_one_twice self.version
  | resetDownload => exact wrappingI32_add_one_twice self.version
  | setDownloadStatus current total filename => cases total <;> rfl
  | _ => rfl

theorem apply_wellFormed {self : SlotAggregatedStatus} (h : self.WellFormed)
    (mutation : StatusMutation) :
    (mutation.apply self).WellFormed := by
  obtain ⟨hlow, hhigh⟩ := wrappingI32_bounds (self.version + mutation.versionIncrements)
  rw [← apply_version h] at hlow hhigh
  refine ⟨hlow, hhigh, ?_⟩
  cases mutation with
  | setStateApplicationStatus status => exact ⟨status, rfl⟩
  | registerFix fix =>
    simp only [apply, SlotAggregatedStatus.registerFix]
    split <;> exact h.code
  | registerIssue issue =>
    simp only [apply, SlotAggregatedStatus.registerIssue]
    split <;> exact h.code
  | setDownloadStatus current total filename => cases total <;> exact h.code
  | _ => exact h.code

theorem versionIncrements_nonneg (mutation : StatusMutation) : 0 ≤ mutation.versionIncrements := by
  cases mutation <;> simp [versionIncrements]

/-- Without a wrap the version goes up by the increments of the call. -/
theorem apply_version_of_noWrap {self : SlotAggregatedStatus} (h : self.WellFormed)
    {mutation : StatusMutation} (hwrap : self.NoWrap mutation) :
    (mutation.apply self).version = self.version + mutation.versionIncrements := by
  have hincrements := mutation.versionIncrements_nonneg
  have hlow := h.versionLow
  unfold SlotAggregatedStatus.NoWrap at hwrap
  rw [apply_version h, wrappingI32_of_between (by omega) hwrap]

theorem foldl_wellFormed :
    ∀ (mutations : List StatusMutation) {self : SlotAggregatedStatus}, self.WellFormed →
      (mutations.foldl StatusMutation.apply self).WellFormed
  | [], _, h => h
  | mutation :: mutations, _, h => foldl_wellFormed mutations (apply_wellFormed h mutation)

end StatusMutation

end Paddler
