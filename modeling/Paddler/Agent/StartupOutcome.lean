import Paddler.Agent.ModelStartup

/-!
# How a startup ends

The thread that loads a model and the task that waits for it write one status, next to the other
tasks of the agent.  Here is what the status says in the end.

* `StartupInv` — what holds between any two steps; `startupInv_reaches`.
* `startup_ended` — **however the steps interleave, the outcome is the one of `startup`, with its
  issues.**
* `startup_terminates` — the startup comes to its end, whatever it waits for.
-/

set_option autoImplicit false

namespace Paddler

open Run

namespace ModelStartup

variable {arbiter : ContinuousBatchArbiter} {answers : StartupAnswers} {s : StartupState}

/-! ## Writes of the other tasks -/

/-- The issues only a startup registers.  A projection that is missing is also registered by the
conversion of the desired state. -/
def ofStartup : AgentIssue → Bool
  | .chatTemplateDoesNotCompile _ | .modelCannotBeLoaded _ | .slotCannotStart _
  | .unableToFindChatTemplate _ => true
  | _ => false

/-- The calls of the agent's other tasks: the requests, the downloads and the reconciliation of the
desired state. -/
def ofOtherTask : StatusMutation → Bool
  | .registerIssue issue => !ofStartup issue
  | .registerFix (.huggingFaceDownloadedModel _) | .registerFix (.huggingFaceStartedDownloading _)
  | .registerFix (.modelDownloadCompleted _) | .registerFix (.modelDownloadStarted _)
  | .registerFix .modelStateIsReconciled => true
  | .incrementDownloadCurrent _ | .recordGeneratedToken | .releaseSlot | .resetDownload
  | .setDownloadFilename _ | .setDownloadStatus .. | .setUsesChatTemplateOverride _
  | .takeSlot => true
  | .decrementTotalSlots | .incrementTotalSlots | .registerFix _ | .reset | .setModelPath _
  | .setStateApplicationStatus _ => false

theorem ofOtherTask_frame {mutation : StatusMutation} (h : ofOtherTask mutation = true)
    (status : SlotAggregatedStatus) :
    (mutation.apply status).modelPath = status.modelPath ∧
      (mutation.apply status).slotsTotal = status.slotsTotal := by
  cases mutation with
  | decrementTotalSlots => cases h
  | incrementTotalSlots => cases h
  | reset => cases h
  | setModelPath modelPath => cases h
  | setStateApplicationStatus applicationStatus => cases h
  | registerFix fix => exact ⟨registerFix_modelPath status fix, registerFix_slotsTotal status fix⟩
  | registerIssue issue =>
    exact ⟨registerIssue_modelPath status issue, registerIssue_slotsTotal status issue⟩
  | setDownloadStatus current total filename => cases total <;> exact ⟨rfl, rfl⟩
  | _ => exact ⟨rfl, rfl⟩

theorem mem_of_ofOtherTask {mutation : StatusMutation} (h : ofOtherTask mutation = true)
    {status : SlotAggregatedStatus} {issue : AgentIssue} (hissue : ofStartup issue = true)
    (hmem : issue ∈ (mutation.apply status).issues) : issue ∈ status.issues := by
  cases mutation with
  | reset => cases h
  | registerFix fix => exact (SlotAggregatedStatus.mem_registerFix.mp hmem).1
  | registerIssue registered =>
    rcases SlotAggregatedStatus.mem_registerIssue.mp hmem with rfl | hold
    · rw [ofOtherTask, hissue] at h
      cases h
    · exact hold
  | setDownloadStatus current total filename => cases total <;> exact hmem
  | _ => exact hmem

/-- The issues a startup may register. -/
def registeredByStartup : AgentIssue → Bool
  | .multimodalProjectionCannotBeLoaded _ => true
  | issue => ofStartup issue

/-- Of what the other tasks fix, only a reconciliation fixes an issue of a startup. -/
theorem fix_of_ofOtherTask {fix : AgentIssueFix} (h : ofOtherTask (.registerFix fix) = true)
    {issue : AgentIssue} (hissue : registeredByStartup issue = true)
    (hfix : fix.canFix issue = true) :
    fix = .modelStateIsReconciled := by
  cases fix with
  | modelStateIsReconciled => rfl
  | huggingFaceDownloadedModel modelPath => cases issue <;> cases hissue <;> cases hfix
  | huggingFaceStartedDownloading modelPath => cases issue <;> cases hissue <;> cases hfix
  | modelDownloadCompleted modelPath => cases issue <;> cases hissue <;> cases hfix
  | modelDownloadStarted modelPath => cases issue <;> cases hissue <;> cases hfix
  | _ => cases h

/-! ## The issues of a failure -/

/-- The issues of the slots below `slots`. -/
def slotIssues (error : String) (slots : Nat) : List AgentIssue :=
  (List.range slots).map (slotIssue error)

/-- The issues the agent has after the failure. -/
def StartupFailure.issues (arbiter : ContinuousBatchArbiter) : StartupFailure → List AgentIssue
  | .llamaBackend | .desiredSlotsTotal | .nBatch | .gpuDevices | .model =>
    [.modelCannotBeLoaded arbiter.issuePath]
  | .metadata | .chatTemplate => [.unableToFindChatTemplate arbiter.issuePath]
  | .chatTemplateRenderer content => [templateIssue arbiter content]
  | .multimodalProjection path => [.multimodalProjectionCannotBeLoaded ⟨path.display⟩]
  | .tokens => []
  | .llamaContext error => slotIssues error arbiter.nSeqMax

/-- The issues the thread has registered. -/
def StartupThread.issues (arbiter : ContinuousBatchArbiter) : StartupThread → List AgentIssue
  | .registeringSlotIssues error slotIndex => slotIssues error slotIndex
  | .returning (.error (.startup failure)) | .exited (.error (.startup failure)) =>
    if failure.signals = 2 then failure.issues arbiter else []
  | _ => []

theorem mem_slotIssues {error : String} {slots : Nat} {issue : AgentIssue} :
    issue ∈ slotIssues error slots ↔ ∃ slotIndex < slots, slotIssue error slotIndex = issue := by
  simp [slotIssues]

theorem slotIssues_succ (error : String) (slots : Nat) :
    slotIssues error (slots + 1) = slotIssues error slots ++ [slotIssue error slots] := by
  simp [slotIssues, List.range_succ]

theorem StartupFailure.issues_of_signals_zero {failure : StartupFailure} (h : failure.signals = 0) :
    failure.issues arbiter = [.modelCannotBeLoaded arbiter.issuePath] := by
  cases failure <;> first | rfl | cases h

theorem StartupFailure.issues_of_signals_one {failure : StartupFailure} (h : failure.signals = 1) :
    failure.issues arbiter = [.unableToFindChatTemplate arbiter.issuePath] := by
  cases failure <;> first | rfl | cases h

theorem StartupFailure.signals_le (failure : StartupFailure) : failure.signals ≤ 2 := by
  cases failure <;> simp [StartupFailure.signals]

theorem StartupFailure.issues_registered {failure : StartupFailure} {issue : AgentIssue}
    (h : issue ∈ failure.issues arbiter) : registeredByStartup issue = true := by
  cases failure with
  | tokens => cases h
  | llamaContext error =>
    obtain ⟨slotIndex, -, rfl⟩ := mem_slotIssues.mp h
    rfl
  | _ =>
    cases List.mem_singleton.mp h
    rfl

theorem StartupThread.issues_registered {thread : StartupThread} {issue : AgentIssue}
    (h : issue ∈ thread.issues arbiter) : registeredByStartup issue = true := by
  unfold StartupThread.issues at h
  split at h
  · obtain ⟨slotIndex, -, rfl⟩ := mem_slotIssues.mp h
    rfl
  · split at h
    · exact StartupFailure.issues_registered h
    · cases h
  · split at h
    · exact StartupFailure.issues_registered h
    · cases h
  · cases h

/-! ## Registered issues -/

/-- The issue is there, unless the desired state was reconciled and that fixes it. -/
def StartupState.Registered (s : StartupState) (issue : AgentIssue) : Prop :=
  issue ∈ s.status.issues ∨
    (s.reconciledMeanwhile = true ∧ AgentIssueFix.modelStateIsReconciled.canFix issue = true)

theorem StartupState.Registered.of_mem {s s' : StartupState} {issue : AgentIssue}
    (hkeep : issue ∈ s.status.issues → issue ∈ s'.status.issues)
    (hreconciled : s'.reconciledMeanwhile = s.reconciledMeanwhile) (h : s.Registered issue) :
    s'.Registered issue := by
  rcases h with hmem | hfixed
  · exact .inl (hkeep hmem)
  · exact .inr (hreconciled ▸ hfixed)

theorem StartupState.Registered.otherStep {s : StartupState} {issue : AgentIssue}
    (h : s.Registered issue) (hissue : registeredByStartup issue = true) {mutation : StatusMutation}
    (hother : ofOtherTask mutation = true) : (otherStep s mutation).Registered issue := by
  rcases h with hmem | ⟨hreconciled, hfix⟩
  · by_cases hkept : issue ∈ (mutation.apply s.status).issues
    · exact .inl hkept
    · cases mutation with
      | registerFix fix =>
        have hfix : fix.canFix issue = true := by
          by_contra hcannot
          exact hkept (SlotAggregatedStatus.mem_registerFix.mpr ⟨hmem,
            Bool.eq_false_iff.mpr hcannot⟩)
        cases fix_of_ofOtherTask hother hissue hfix
        exact .inr ⟨by simp [ModelStartup.otherStep], hfix⟩
      | registerIssue registered =>
        exact absurd (SlotAggregatedStatus.mem_registerIssue.mpr (.inr hmem)) hkept
      | reset => cases hother
      | setDownloadStatus current total filename => cases total <;> exact absurd hmem hkept
      | _ => exact absurd hmem hkept
  · exact .inr ⟨by simp [ModelStartup.otherStep, hreconciled], hfix⟩

/-! ## Where the task can be -/

/-- The task has heard of the model, and was not cancelled. -/
def StartupTask.pastModel : StartupTask → Bool
  | .awaitingChatTemplateLoaded | .checkingModelIssue | .registeringTemplateIssue
  | .awaitingAgentWarm
  | .ended .failed => true
  | _ => false

/-- The task has dealt with the template, and was not cancelled. -/
def StartupTask.pastTemplate : StartupTask → Bool
  | .awaitingAgentWarm | .ended .failed => true
  | _ => false

/-- What the task knows of the thread. -/
def TaskAt (arbiter : ContinuousBatchArbiter) (thread : StartupThread) : StartupTask → Prop
  | .awaitingModelLoaded | .joining => True
  | .awaitingChatTemplateLoaded => 1 ≤ thread.signals ∨ thread.isExited = true
  | .checkingModelIssue => thread.isExited = true ∧ thread.signals ≤ 1
  | .registeringTemplateIssue => thread.isExited = true ∧ thread.signals = 1
  | .awaitingAgentWarm => 2 ≤ thread.signals ∨ thread.isExited = true
  | .incrementingSlots slotIndex => thread = .schedulerRunning ∧ slotIndex ≤ arbiter.nSeqMax
  | .fixingSlot slotIndex => thread = .schedulerRunning ∧ slotIndex < arbiter.nSeqMax
  | .ended .ready => thread = .schedulerRunning
  | .ended .failed => thread.isExited = true ∧ thread.signals ≤ 2
  | .ended .cancelled => thread.isExited = true

/-- The scheduler was shut down. -/
def StartupThread.isStopped : StartupThread → Bool
  | .returning (.ok ()) | .exited (.ok ()) => true
  | _ => false

/-- The slots the task has counted. -/
def StartupTask.slots (arbiter : ContinuousBatchArbiter) : StartupTask → Nat
  | .incrementingSlots slotIndex => slotIndex
  | .fixingSlot slotIndex => slotIndex + 1
  | .ended .ready => arbiter.nSeqMax
  | _ => 0

/-- **What holds between any two steps.** -/
structure StartupInv (arbiter : ContinuousBatchArbiter) (answers : StartupAnswers)
    (s : StartupState) :
    Prop where
  thread : ThreadInv arbiter answers s
  task : TaskAt arbiter s.thread s.task
  shutdownSent : s.shutdownSent = s.task.isCancelled
  slotsTotal : s.status.slotsTotal = s.task.slots arbiter
  sound : ∀ issue ∈ s.status.issues, ofStartup issue = true →
    ∃ failure, startup arbiter answers = .error failure ∧ issue ∈ failure.issues arbiter
  threadIssues : ∀ issue ∈ s.thread.issues arbiter, s.Registered issue
  modelIssue : s.task.pastModel = true → s.thread.signals = 0 →
    .modelCannotBeLoaded arbiter.issuePath ∈ s.status.issues
  templateIssue : s.task.pastTemplate = true → s.thread.signals = 1 →
    s.Registered (.unableToFindChatTemplate arbiter.issuePath)
  stopped : s.thread.isStopped = true → s.task.isCancelled = true

/-! ## Steps of the thread and the issues -/

/-- What a step of the thread never touches. -/
structure ThreadFrame (s s' : StartupState) : Prop where
  task : s'.task = s.task
  shutdownSent : s'.shutdownSent = s.shutdownSent
  reconciledMeanwhile : s'.reconciledMeanwhile = s.reconciledMeanwhile
  slotsTotal : s'.status.slotsTotal = s.status.slotsTotal

/-- The issues of the failed calls are those a step may add. -/
structure ThreadIssues (arbiter : ContinuousBatchArbiter) (answers : StartupAnswers)
    (s s' : StartupState) :
    Prop where
  added : ∀ issue ∈ s'.status.issues, issue ∈ s.status.issues ∨
    ∃ failure, startup arbiter answers = .error failure ∧ issue ∈ failure.issues arbiter
  registered : ∀ issue ∈ s'.thread.issues arbiter,
    issue ∈ s.thread.issues arbiter ∨ issue ∈ s'.status.issues
  kept : ∀ issue ∈ s.status.issues, issue ∈ s.thread.issues arbiter ∨
    issue = .modelCannotBeLoaded arbiter.issuePath ∨
    issue = .unableToFindChatTemplate arbiter.issuePath →
    issue ∈ s'.status.issues

theorem ThreadIssues.of_status_eq {s s' : StartupState}
    (hissues : s'.status.issues = s.status.issues)
    (hthread : ∀ issue ∈ s'.thread.issues arbiter, issue ∈ s.thread.issues arbiter) :
    ThreadIssues arbiter answers s s' where
  added := fun _ hissue => .inl (hissues ▸ hissue)
  registered := fun issue hissue => .inl (hthread issue hissue)
  kept := fun _ hissue _ => hissues.symm ▸ hissue

/-- The step registers the issue of the call that failed. -/
theorem ThreadIssues.of_registerIssue {s s' : StartupState} {issue : AgentIssue}
    {failure : StartupFailure} (hstatus : s'.status = s.status.registerIssue issue)
    (hfailure : startup arbiter answers = .error failure) (hissue : issue ∈ failure.issues arbiter)
    (hthread : ∀ due ∈ s'.thread.issues arbiter, due ∈ s.thread.issues arbiter ∨ due = issue) :
    ThreadIssues arbiter answers s s' where
  added := by
    intro added hadded
    rw [hstatus, SlotAggregatedStatus.mem_registerIssue] at hadded
    rcases hadded with rfl | hold
    · exact .inr ⟨failure, hfailure, hissue⟩
    · exact .inl hold
  registered := by
    intro due hdue
    rcases hthread due hdue with hold | rfl
    · exact .inl hold
    · exact .inr (by rw [hstatus]; exact SlotAggregatedStatus.mem_registerIssue.mpr (.inl rfl))
  kept := by
    intro kept hkept _
    rw [hstatus]
    exact SlotAggregatedStatus.mem_registerIssue.mpr (.inr hkept)

/-- The step registers a fix for what the task never registers. -/
theorem ThreadIssues.of_registerFix {s s' : StartupState} {fix : AgentIssueFix}
    (hstatus : s'.status = s.status.registerFix fix)
    (hmodel : fix.canFix (.modelCannotBeLoaded arbiter.issuePath) = false)
    (htemplate : fix.canFix (.unableToFindChatTemplate arbiter.issuePath) = false)
    (hnone : s.thread.issues arbiter = []) (hthread : s'.thread.issues arbiter = []) :
    ThreadIssues arbiter answers s s' where
  added := by
    intro added hadded
    rw [hstatus] at hadded
    exact .inl (SlotAggregatedStatus.mem_registerFix.mp hadded).1
  registered := by
    intro due hdue
    rw [hthread] at hdue
    cases hdue
  kept := by
    intro kept hkept hdue
    rw [hstatus]
    rcases hdue with hthread | rfl | rfl
    · rw [hnone] at hthread
      cases hthread
    · exact SlotAggregatedStatus.mem_registerFix.mpr ⟨hkept, hmodel⟩
    · exact SlotAggregatedStatus.mem_registerFix.mpr ⟨hkept, htemplate⟩

theorem threadStep_frame (arbiter : ContinuousBatchArbiter) (answers : StartupAnswers)
    (s : StartupState) :
    ThreadFrame s (threadStep arbiter answers s) := by
  unfold threadStep
  split
  case h_4 content =>
    split
    · exact ⟨rfl, rfl, rfl, registerIssue_slotsTotal _ _⟩
    · exact ⟨rfl, rfl, rfl, registerFix_slotsTotal _ _⟩
  case h_6 =>
    split
    · exact ⟨rfl, rfl, rfl, rfl⟩
    · split
      · exact ⟨rfl, rfl, rfl, registerIssue_slotsTotal _ _⟩
      · exact ⟨rfl, rfl, rfl, registerFix_slotsTotal _ _⟩
  case h_9 error slotIndex =>
    split
    · exact ⟨rfl, rfl, rfl, registerIssue_slotsTotal _ _⟩
    · exact ⟨rfl, rfl, rfl, rfl⟩
  all_goals first
    | exact ⟨rfl, rfl, rfl, rfl⟩
    | (split <;> exact ⟨rfl, rfl, rfl, rfl⟩)

/-- What a failed call still has to register, when its signals are not all sent. -/
theorem not_mem_fail_issues {failure : StartupFailure} (h : failure.signals ≠ 2)
    (issue : AgentIssue) :
    issue ∉ (s.fail failure).thread.issues arbiter := by
  simp [StartupState.fail, StartupThread.issues, h]

theorem threadStep_issues (h : ThreadInv arbiter answers s) :
    ThreadIssues arbiter answers s (threadStep arbiter answers s) := by
  have hcalls := h.calls
  cases hthread : s.thread with
  | loadingModel =>
    simp only [threadStep, hthread]
    cases hload : loadModel arbiter answers with
    | error failure =>
      exact .of_status_eq rfl fun issue hissue =>
        absurd hissue (not_mem_fail_issues (by rw [loadModel_error hload]; decide) issue)
    | ok =>
      refine .of_status_eq rfl fun issue hissue => ?_
      simp only [StartupState.afterSignal] at hissue
      split at hissue <;> cases hissue
  | readingMetadata =>
    simp only [threadStep, hthread]
    cases hread : readMetadata ⟨[]⟩ answers.metaEntries with
    | error failure =>
      exact .of_status_eq rfl fun issue hissue =>
        absurd hissue (not_mem_fail_issues (by rw [readMetadata_error hread]; decide) issue)
    | ok metadata =>
      refine .of_status_eq rfl fun issue hissue => ?_
      cases hissue
  | findingChatTemplate =>
    simp only [threadStep, hthread]
    cases hfind : findChatTemplate arbiter answers with
    | error failure =>
      exact .of_status_eq rfl fun issue hissue =>
        absurd hissue (not_mem_fail_issues (by rw [findChatTemplate_error hfind]; decide) issue)
    | ok chatTemplate =>
      cases chatTemplate with
      | none =>
        refine .of_status_eq rfl fun issue hissue => ?_
        simp only [StartupState.afterSignal] at hissue
        split at hissue <;> cases hissue
      | some content =>
        refine .of_status_eq rfl fun issue hissue => ?_
        simp only [StartupState.afterSignal] at hissue
        split at hissue <;> cases hissue
  | compilingChatTemplate content =>
    simp only [threadStep, hthread]
    cases hcompile : compileChatTemplate answers content with
    | error failure =>
      cases compileChatTemplate_error hcompile
      have hfailure : startup arbiter answers = .error (.chatTemplateRenderer content) := by
        rw [hcalls, hthread]
        simp [remaining, startupFromTemplate, hcompile, bind, Except.bind]
      exact .of_registerIssue rfl hfailure (List.mem_singleton_self _)
        fun due hdue => .inr (List.mem_singleton.mp hdue)
    | ok => exact .of_registerFix rfl rfl rfl (by rw [hthread]; rfl) rfl
  | settingModelPath =>
    simp only [threadStep, hthread]
    exact .of_status_eq rfl fun _ hissue => by cases hissue
  | loadingMultimodalProjection =>
    simp only [threadStep, hthread]
    split
    · exact .of_status_eq rfl fun issue hissue => by cases hissue
    · rename_i path hpath
      cases hload : loadMultimodalProjection arbiter answers with
      | error failure =>
        cases loadMultimodalProjection_error hpath hload
        have hfailure : startup arbiter answers = .error (.multimodalProjection path) := by
          rw [hcalls, hthread]
          simp [remaining, startupFromProjection, hload, bind, Except.bind]
        exact .of_registerIssue rfl hfailure (List.mem_singleton_self _)
          fun due hdue => .inr (List.mem_singleton.mp hdue)
      | ok => exact .of_registerFix rfl rfl rfl (by rw [hthread]; rfl) rfl
  | readingTokens =>
    simp only [threadStep, hthread]
    cases hread : readTokens answers with
    | error failure =>
      cases readTokens_error hread
      exact .of_status_eq rfl fun issue hissue => by cases hissue
    | ok => exact .of_status_eq rfl fun issue hissue => by cases hissue
  | creatingContext =>
    simp only [threadStep, hthread]
    cases hcreate : createContext answers with
    | error failure =>
      obtain ⟨error, rfl⟩ := createContext_error hcreate
      exact .of_status_eq rfl fun issue hissue => by cases hissue
    | ok => exact .of_status_eq rfl fun issue hissue => by cases hissue
  | registeringSlotIssues error slotIndex =>
    have hfailure : startup arbiter answers = .error (.llamaContext error) := by
      rw [hcalls, hthread]
      rfl
    simp only [threadStep, hthread]
    split
    · rename_i hlt
      refine .of_registerIssue rfl hfailure (mem_slotIssues.mpr ⟨slotIndex, hlt, rfl⟩)
        fun due hdue => ?_
      rw [hthread]
      simp only [StartupThread.issues, slotIssues_succ, List.mem_append,
        List.mem_singleton] at hdue ⊢
      exact hdue
    · rename_i hge
      refine .of_status_eq rfl fun due hdue => ?_
      rw [hthread]
      obtain ⟨index, hindex, rfl⟩ := mem_slotIssues.mp hdue
      exact mem_slotIssues.mpr ⟨index, by omega, rfl⟩
  | signallingAgentWarm =>
    simp only [threadStep, hthread]
    refine .of_status_eq rfl fun issue hissue => ?_
    simp only [StartupState.afterSignal] at hissue
    split at hissue <;> cases hissue
  | schedulerRunning =>
    simp only [threadStep, hthread]
    split
    · exact .of_status_eq rfl fun issue hissue => by cases hissue
    · exact .of_status_eq rfl fun issue hissue => hissue
  | returning result =>
    simp only [threadStep, hthread]
    refine .of_status_eq rfl fun issue hissue => ?_
    rw [hthread]
    cases result with
    | ok => exact hissue
    | error err => cases err <;> exact hissue
  | exited result =>
    simp only [threadStep, hthread]
    exact .of_status_eq rfl fun issue hissue => hissue

/-! ## The invariant -/

/-- The thread of a task that was not cancelled only sends more signals. -/
theorem threadStep_signals
    (hdelivered : (threadStep arbiter answers s).thread.undelivered = false) :
    s.thread.signals ≤ (threadStep arbiter answers s).thread.signals := by
  cases hthread : s.thread with
  | loadingModel => exact Nat.zero_le _
  | readingMetadata =>
    simp only [threadStep, hthread]
    cases hread : readMetadata ⟨[]⟩ answers.metaEntries with
    | error failure =>
      cases readMetadata_error hread
      exact Nat.le_refl _
    | ok metadata => exact Nat.le_refl _
  | findingChatTemplate =>
    simp only [threadStep, hthread, StartupState.afterSignal] at hdelivered ⊢
    cases hfind : findChatTemplate arbiter answers with
    | error failure =>
      cases findChatTemplate_error hfind
      exact Nat.le_refl _
    | ok chatTemplate =>
      rw [hfind] at hdelivered
      cases chatTemplate with
      | none =>
        dsimp only at hdelivered ⊢
        split at hdelivered
        · cases hdelivered
        · rename_i hreceiver
          rw [if_neg hreceiver]
          exact Nat.le_succ _
      | some content =>
        dsimp only at hdelivered ⊢
        split at hdelivered
        · cases hdelivered
        · rename_i hreceiver
          rw [if_neg hreceiver]
          exact Nat.le_succ _
  | compilingChatTemplate content =>
    simp only [threadStep, hthread]
    cases hcompile : compileChatTemplate answers content with
    | error failure =>
      cases compileChatTemplate_error hcompile
      exact Nat.le_refl _
    | ok => exact Nat.le_refl _
  | settingModelPath =>
    simp only [threadStep, hthread]
    exact Nat.le_refl _
  | loadingMultimodalProjection =>
    simp only [threadStep, hthread]
    split
    · exact Nat.le_refl _
    · rename_i path hpath
      cases hload : loadMultimodalProjection arbiter answers with
      | error failure =>
        cases loadMultimodalProjection_error hpath hload
        exact Nat.le_refl _
      | ok => exact Nat.le_refl _
  | readingTokens =>
    simp only [threadStep, hthread]
    cases hread : readTokens answers with
    | error failure =>
      cases readTokens_error hread
      exact Nat.le_refl _
    | ok => exact Nat.le_refl _
  | creatingContext =>
    simp only [threadStep, hthread]
    cases hcreate : createContext answers with
    | error failure =>
      obtain ⟨error, rfl⟩ := createContext_error hcreate
      exact Nat.le_refl _
    | ok => exact Nat.le_refl _
  | registeringSlotIssues error slotIndex =>
    simp only [threadStep, hthread]
    split <;> exact Nat.le_refl _
  | signallingAgentWarm =>
    simp only [threadStep, hthread, StartupState.afterSignal] at hdelivered ⊢
    split at hdelivered
    · cases hdelivered
    · rename_i hreceiver
      rw [if_neg hreceiver]
      exact Nat.le_succ _
  | schedulerRunning =>
    simp only [threadStep, hthread]
    split
    · exact Nat.le_refl _
    · rw [hthread]
  | returning result =>
    simp only [threadStep, hthread]
    cases result with
    | ok => exact Nat.le_refl _
    | error err => cases err <;> exact Nat.le_refl _
  | exited result =>
    simp only [threadStep, hthread]
    exact Nat.le_refl _

theorem threadStep_of_isExited (h : s.thread.isExited = true) :
    threadStep arbiter answers s = s := by
  cases hthread : s.thread with
  | exited result => simp only [threadStep, hthread]
  | _ =>
    rw [hthread] at h
    cases h

theorem threadStep_of_schedulerRunning (h : s.thread = .schedulerRunning)
    (hshutdown : s.shutdownSent = false) :
    threadStep arbiter answers s = s := by
  simp [threadStep, h, hshutdown]

/-- A thread that exited before its last signal failed in a call, unless it was cancelled. -/
theorem ThreadInv.failed (h : ThreadInv arbiter answers s) (hexited : s.thread.isExited = true)
    (hsignals : s.thread.signals ≤ 2) (hcancelled : s.task.isCancelled = false) :
    ∃ failure, s.thread = .exited (.error (.startup failure)) ∧
      startup arbiter answers = .error failure := by
  have hdelivered : s.thread.undelivered ≠ true := fun hu => by
    rw [h.undelivered hu] at hcancelled
    cases hcancelled
  have hcalls := h.calls
  cases hthread : s.thread with
  | exited result =>
    rw [hthread] at hsignals hdelivered hcalls
    cases result with
    | ok => exact absurd hsignals (Nat.not_le.mpr (Nat.lt_succ_self 2))
    | error err =>
      cases err with
      | signalNotSent => exact absurd rfl hdelivered
      | startup failure => exact ⟨failure, rfl, hcalls⟩
  | _ =>
    rw [hthread] at hexited
    cases hexited

theorem signals_le_threadStep (h : StartupInv arbiter answers s)
    (hcancelled : s.task.isCancelled = false) :
    s.thread.signals ≤ (threadStep arbiter answers s).thread.signals := by
  refine threadStep_signals ?_
  by_contra hu
  have htrue := h.thread.threadStep.undelivered (Bool.not_eq_false _ ▸ hu)
  rw [(threadStep_frame arbiter answers s).task, hcancelled] at htrue
  cases htrue

theorem taskAt_threadStep (h : StartupInv arbiter answers s) :
    TaskAt arbiter (threadStep arbiter answers s).thread s.task := by
  have hat := h.task
  have hshutdown := h.shutdownSent
  have hmore := signals_le_threadStep h
  cases htask : s.task with
  | awaitingModelLoaded => trivial
  | joining => trivial
  | awaitingChatTemplateLoaded =>
    rw [htask] at hat hmore
    rcases hat with hsignals | hexited
    · exact .inl (hsignals.trans (hmore rfl))
    · rw [threadStep_of_isExited hexited]
      exact .inr hexited
  | awaitingAgentWarm =>
    rw [htask] at hat hmore
    rcases hat with hsignals | hexited
    · exact .inl (hsignals.trans (hmore rfl))
    · rw [threadStep_of_isExited hexited]
      exact .inr hexited
  | checkingModelIssue =>
    rw [htask] at hat
    rw [threadStep_of_isExited hat.1]
    exact hat
  | registeringTemplateIssue =>
    rw [htask] at hat
    rw [threadStep_of_isExited hat.1]
    exact hat
  | incrementingSlots slotIndex =>
    rw [htask] at hat hshutdown
    rw [threadStep_of_schedulerRunning hat.1 hshutdown]
    exact hat
  | fixingSlot slotIndex =>
    rw [htask] at hat hshutdown
    rw [threadStep_of_schedulerRunning hat.1 hshutdown]
    exact hat
  | ended outcome =>
    rw [htask] at hat hshutdown
    cases outcome with
    | ready =>
      rw [threadStep_of_schedulerRunning hat hshutdown]
      exact hat
    | failed =>
      rw [threadStep_of_isExited hat.1]
      exact hat
    | cancelled =>
      rw [threadStep_of_isExited hat]
      exact hat

/-- Before the signal `n` a task that has gone past it knows that the thread has exited. -/
theorem isExited_of_signals {n : Nat} {thread : StartupThread}
    (h : n ≤ thread.signals ∨ thread.isExited = true) (hsignals : thread.signals < n) :
    thread.isExited = true := by
  rcases h with hle | hexited
  · omega
  · exact hexited

theorem taskAt_pastTemplate {thread : StartupThread} {task : StartupTask}
    (h : TaskAt arbiter thread task) (hpast : task.pastTemplate = true)
    (hsignals : thread.signals ≤ 1) : thread.isExited = true := by
  cases task with
  | awaitingAgentWarm => exact isExited_of_signals h (by omega)
  | ended outcome =>
    cases outcome with
    | failed => exact h.1
    | _ => cases hpast
  | _ => cases hpast

theorem StartupTask.pastModel_not_cancelled {task : StartupTask} (h : task.pastModel = true) :
    task.isCancelled = false := by
  cases task with
  | ended outcome => cases outcome <;> first | rfl | cases h
  | _ => first | rfl | cases h

theorem StartupTask.pastModel_of_pastTemplate {task : StartupTask} (h : task.pastTemplate = true) :
    task.pastModel = true := by
  cases task with
  | ended outcome => cases outcome <;> first | rfl | cases h
  | _ => first | rfl | cases h

/-- The scheduler stops only after the shutdown was sent. -/
theorem threadStep_isStopped (h : (threadStep arbiter answers s).thread.isStopped = true) :
    s.thread.isStopped = true ∨ s.shutdownSent = true := by
  cases hthread : s.thread with
  | loadingModel =>
    simp only [threadStep, hthread] at h
    cases hload : loadModel arbiter answers <;> rw [hload] at h
    · cases h
    · dsimp only [StartupState.afterSignal] at h
      split at h <;> cases h
  | readingMetadata =>
    simp only [threadStep, hthread] at h
    cases hread : readMetadata ⟨[]⟩ answers.metaEntries <;> rw [hread] at h <;> cases h
  | findingChatTemplate =>
    simp only [threadStep, hthread] at h
    cases hfind : findChatTemplate arbiter answers with
    | error failure =>
      rw [hfind] at h
      cases h
    | ok chatTemplate =>
      rw [hfind] at h
      cases chatTemplate <;> dsimp only [StartupState.afterSignal] at h <;> split at h <;> cases h
  | compilingChatTemplate content =>
    simp only [threadStep, hthread] at h
    cases hcompile : compileChatTemplate answers content <;> rw [hcompile] at h <;> cases h
  | settingModelPath =>
    simp only [threadStep, hthread] at h
    cases h
  | loadingMultimodalProjection =>
    simp only [threadStep, hthread] at h
    split at h
    · cases h
    · cases hload : loadMultimodalProjection arbiter answers <;> rw [hload] at h <;> cases h
  | readingTokens =>
    simp only [threadStep, hthread] at h
    cases hread : readTokens answers <;> rw [hread] at h <;> cases h
  | creatingContext =>
    simp only [threadStep, hthread] at h
    cases hcreate : createContext answers with
    | error failure =>
      obtain ⟨error, rfl⟩ := createContext_error hcreate
      rw [hcreate] at h
      cases h
    | ok =>
      rw [hcreate] at h
      cases h
  | registeringSlotIssues error slotIndex =>
    simp only [threadStep, hthread] at h
    split at h <;> cases h
  | signallingAgentWarm =>
    simp only [threadStep, hthread, StartupState.afterSignal] at h
    split at h <;> cases h
  | schedulerRunning =>
    simp only [threadStep, hthread] at h
    split at h
    · rename_i hshutdown
      exact .inr hshutdown
    · rw [hthread] at h
      cases h
  | returning result =>
    simp only [threadStep, hthread] at h
    cases result with
    | ok => exact .inl rfl
    | error err => cases h
  | exited result =>
    simp only [threadStep, hthread] at h
    exact .inl h

theorem StartupInv.threadStep (h : StartupInv arbiter answers s) :
    StartupInv arbiter answers (threadStep arbiter answers s) := by
  have hframe := threadStep_frame arbiter answers s
  have hissues := threadStep_issues h.thread
  refine
    { thread := h.thread.threadStep
      task := ?_
      shutdownSent := ?_
      slotsTotal := ?_
      sound := ?_
      threadIssues := ?_
      modelIssue := ?_
      templateIssue := ?_
      stopped := ?_ }
  · rw [hframe.task]
    exact taskAt_threadStep h
  · rw [hframe.shutdownSent, hframe.task]
    exact h.shutdownSent
  · rw [hframe.slotsTotal, hframe.task]
    exact h.slotsTotal
  · intro issue hmem hstartup
    rcases hissues.added issue hmem with hold | hnew
    · exact h.sound issue hold hstartup
    · exact hnew
  · intro issue hdue
    rcases hissues.registered issue hdue with hold | hmem
    · rcases h.threadIssues issue hold with hmem | hfixed
      · exact .inl (hissues.kept issue hmem (.inl hold))
      · exact .inr (hframe.reconciledMeanwhile ▸ hfixed)
    · exact .inl hmem
  · intro hpast hsignals
    rw [hframe.task] at hpast
    have hle := signals_le_threadStep h (StartupTask.pastModel_not_cancelled hpast)
    have hmem := h.modelIssue hpast (by omega)
    exact hissues.kept _ hmem (.inr (.inl rfl))
  · intro hpast hsignals
    rw [hframe.task] at hpast
    have hle := signals_le_threadStep h
      (StartupTask.pastModel_not_cancelled (StartupTask.pastModel_of_pastTemplate hpast))
    have hexited := taskAt_pastTemplate h.task hpast (by omega)
    rw [threadStep_of_isExited hexited] at hsignals ⊢
    exact h.templateIssue hpast hsignals
  · intro hstopped
    rw [hframe.task]
    rcases threadStep_isStopped hstopped with hold | hshutdown
    · exact h.stopped hold
    · exact h.shutdownSent ▸ hshutdown

/-! ## Steps of the task -/

/-- A failure in a call of the thread leaves no issue to the task but those of the signals. -/
theorem StartupThread.issues_not_of_signal {thread : StartupThread} {issue : AgentIssue}
    (h : issue ∈ thread.issues arbiter) (modelPath : ModelPath) :
    (AgentIssueFix.modelIsLoaded modelPath).canFix issue = false ∧
      (AgentIssueFix.modelChatTemplateIsLoaded modelPath).canFix issue = false := by
  have hfailure : ∀ failure : StartupFailure, failure.signals = 2 → issue ∈ failure.issues arbiter →
      (AgentIssueFix.modelIsLoaded modelPath).canFix issue = false ∧
        (AgentIssueFix.modelChatTemplateIsLoaded modelPath).canFix issue = false := by
    intro failure hsignals hissue
    cases failure with
    | chatTemplateRenderer content =>
      cases List.mem_singleton.mp hissue
      exact ⟨rfl, rfl⟩
    | multimodalProjection path =>
      cases List.mem_singleton.mp hissue
      exact ⟨rfl, rfl⟩
    | tokens => cases hissue
    | llamaContext error =>
      obtain ⟨slotIndex, -, rfl⟩ := mem_slotIssues.mp hissue
      exact ⟨rfl, rfl⟩
    | _ => cases hsignals
  unfold StartupThread.issues at h
  split at h
  · obtain ⟨slotIndex, -, rfl⟩ := mem_slotIssues.mp h
    exact ⟨rfl, rfl⟩
  · split at h
    · exact hfailure _ ‹_› h
    · cases h
  · split at h
    · exact hfailure _ ‹_› h
    · cases h
  · cases h

theorem StartupInv.move (h : StartupInv arbiter answers s) {s' : StartupState}
    (hthread : ThreadInv arbiter answers s') (hframe : TaskFrame s s')
    (htask : TaskAt arbiter s.thread s'.task)
    (hslots : s'.status.slotsTotal = s'.task.slots arbiter)
    (hsound : ∀ issue ∈ s'.status.issues, issue ∈ s.status.issues ∨
      ∃ failure, startup arbiter answers = .error failure ∧ issue ∈ failure.issues arbiter)
    (hkept : ∀ issue ∈ s.thread.issues arbiter, issue ∈ s.status.issues → issue ∈ s'.status.issues)
    (hmodel : s'.task.pastModel = true → s.thread.signals = 0 →
      .modelCannotBeLoaded arbiter.issuePath ∈ s'.status.issues)
    (htemplate : s'.task.pastTemplate = true → s.thread.signals = 1 →
      s'.Registered (.unableToFindChatTemplate arbiter.issuePath)) :
      StartupInv arbiter answers s' where
  thread := hthread
  task := by
    rw [hframe.thread]
    exact htask
  shutdownSent := by
    rw [hframe.shutdownSent, hframe.isCancelled]
    exact h.shutdownSent
  slotsTotal := hslots
  sound := by
    intro issue hmem hstartup
    rcases hsound issue hmem with hold | hnew
    · exact h.sound issue hold hstartup
    · exact hnew
  threadIssues := by
    rw [hframe.thread]
    intro issue hdue
    exact (h.threadIssues issue hdue).of_mem (hkept issue hdue) hframe.reconciledMeanwhile
  modelIssue := by
    rw [hframe.thread]
    exact hmodel
  templateIssue := by
    rw [hframe.thread]
    exact htemplate
  stopped := by
    rw [hframe.thread, hframe.isCancelled]
    exact h.stopped

namespace StartupInv

theorem awaitingModelLoaded (h : StartupInv arbiter answers s)
    (htask : s.task = .awaitingModelLoaded) :
    StartupInv arbiter answers (taskStep arbiter s) := by
  have hthread := h.thread.taskStep
  have hframe := taskStep_frame arbiter s
  have hslots := h.slotsTotal
  have hcancelled : s.task.isCancelled = false := by
    rw [htask]
    rfl
  have hdelivered : s.thread.undelivered = false := by
    by_contra hu
    rw [h.thread.undelivered (Bool.not_eq_false _ ▸ hu)] at hcancelled
    cases hcancelled
  have hsender := h.thread.modelLoaded hdelivered
  rw [htask] at hslots
  cases hmodelLoaded : s.modelLoaded.sender with
  | waiting =>
    simp only [taskStep, htask, hmodelLoaded]
    exact h
  | sent value =>
    rw [hmodelLoaded] at hsender
    have hsent : 0 < s.thread.signals := of_decide_eq_true hsender
    simp only [taskStep, htask, hmodelLoaded] at hthread hframe ⊢
    refine h.move hthread hframe (.inl hsent) ?_ ?_ ?_ ?_ ?_
    · exact (registerFix_slotsTotal _ _).trans hslots
    · exact fun issue hmem => .inl (SlotAggregatedStatus.mem_registerFix.mp hmem).1
    · exact fun issue hdue hmem => SlotAggregatedStatus.mem_registerFix.mpr
        ⟨hmem, (StartupThread.issues_not_of_signal hdue _).1⟩
    · exact fun _ hnone => absurd hnone (Nat.ne_of_gt hsent)
    · exact fun hfalse => absurd hfalse Bool.false_ne_true
  | dropped =>
    rw [hmodelLoaded] at hsender
    have hunsent : ¬ 0 < s.thread.signals := of_decide_eq_false hsender.1
    obtain ⟨failure, hfailed, hstartup⟩ := h.thread.failed hsender.2 (by omega) hcancelled
    have hfailure : failure.signals = 0 := by
      rw [hfailed] at hunsent
      exact Nat.eq_zero_of_not_pos hunsent
    simp only [taskStep, htask, hmodelLoaded] at hthread hframe ⊢
    refine h.move hthread hframe (.inr hsender.2) ?_ ?_ ?_ ?_ ?_
    · exact (registerIssue_slotsTotal _ _).trans hslots
    · intro issue hmem
      rcases SlotAggregatedStatus.mem_registerIssue.mp hmem with rfl | hold
      · refine .inr ⟨failure, hstartup, ?_⟩
        rw [StartupFailure.issues_of_signals_zero hfailure]
        exact List.mem_singleton_self _
      · exact .inl hold
    · exact fun issue _ hmem => SlotAggregatedStatus.mem_registerIssue.mpr (.inr hmem)
    · exact fun _ _ => SlotAggregatedStatus.mem_registerIssue.mpr (.inl rfl)
    · exact fun hfalse => absurd hfalse Bool.false_ne_true

theorem moveOnly (h : StartupInv arbiter answers s) {task : StartupTask}
    (hcancelled : task.isCancelled = s.task.isCancelled) (htask : TaskAt arbiter s.thread task)
    (hslots : task.slots arbiter = s.task.slots arbiter)
    (hmodel : task.pastModel = true → s.thread.signals = 0 →
      .modelCannotBeLoaded arbiter.issuePath ∈ s.status.issues)
    (htemplate : task.pastTemplate = true → s.thread.signals = 1 →
      s.Registered (.unableToFindChatTemplate arbiter.issuePath)) :
    StartupInv arbiter answers { s with task := task } := by
  have hframe : TaskFrame s { s with task := task } := .of_move rfl hcancelled rfl
  have hthread : ThreadInv arbiter answers { s with task := task } :=
    h.thread.sameSignals ⟨rfl, rfl, rfl, hcancelled, rfl, rfl, rfl⟩ rfl
  exact h.move hthread hframe htask (h.slotsTotal.trans (by rw [hslots])) (fun _ hmem => .inl hmem)
    (fun _ _ hmem => hmem) hmodel fun hpast hsignals => htemplate hpast hsignals

theorem awaitingChatTemplateLoaded (h : StartupInv arbiter answers s)
    (htask : s.task = .awaitingChatTemplateLoaded) :
    StartupInv arbiter answers (taskStep arbiter s) := by
  have hthread := h.thread.taskStep
  have hframe := taskStep_frame arbiter s
  have hslots := h.slotsTotal
  have hcancelled : s.task.isCancelled = false := by
    rw [htask]
    rfl
  have hdelivered : s.thread.undelivered = false := by
    by_contra hu
    rw [h.thread.undelivered (Bool.not_eq_false _ ▸ hu)] at hcancelled
    cases hcancelled
  have hsender := h.thread.chatTemplateLoaded hdelivered
  cases hchatTemplateLoaded : s.chatTemplateLoaded.sender with
  | waiting =>
    simp only [taskStep, htask, hchatTemplateLoaded]
    exact h
  | sent status =>
    rw [hchatTemplateLoaded] at hsender
    have hsent : 1 < s.thread.signals := of_decide_eq_true hsender
    cases status with
    | loaded =>
      rw [htask] at hslots
      simp only [taskStep, htask, hchatTemplateLoaded] at hthread hframe ⊢
      refine h.move hthread hframe (.inl hsent) ?_ ?_ ?_ ?_ ?_
      · exact (registerFix_slotsTotal _ _).trans hslots
      · exact fun issue hmem => .inl (SlotAggregatedStatus.mem_registerFix.mp hmem).1
      · exact fun issue hdue hmem => SlotAggregatedStatus.mem_registerFix.mpr
          ⟨hmem, (StartupThread.issues_not_of_signal hdue _).2⟩
      · exact fun _ hnone => absurd hnone (by omega)
      · exact fun _ hone => absurd hone (by omega)
    | skippedForEmbeddings =>
      simp only [taskStep, htask, hchatTemplateLoaded]
      exact h.moveOnly (by rw [htask]; rfl) (.inl hsent) (by rw [htask]; rfl)
        (fun _ hnone => absurd hnone (by omega)) fun _ hone => absurd hone (by omega)
  | dropped =>
    rw [hchatTemplateLoaded] at hsender
    have hunsent : ¬ 1 < s.thread.signals := of_decide_eq_false hsender.1
    simp only [taskStep, htask, hchatTemplateLoaded]
    exact h.moveOnly (by rw [htask]; rfl) ⟨hsender.2, by omega⟩ (by rw [htask]; rfl)
      (fun _ => h.modelIssue (by rw [htask]; rfl)) fun hfalse => absurd hfalse Bool.false_ne_true

theorem checkingModelIssue (h : StartupInv arbiter answers s)
    (htask : s.task = .checkingModelIssue) :
    StartupInv arbiter answers (taskStep arbiter s) := by
  have hat := h.task
  rw [htask] at hat
  obtain ⟨hexited, hsignals⟩ := hat
  have hcancelled : s.task.isCancelled = false := by
    rw [htask]
    rfl
  obtain ⟨failure, hfailed, hstartup⟩ := h.thread.failed hexited (by omega) hcancelled
  simp only [taskStep, htask]
  split
  · rename_i hmem
    refine h.moveOnly (by rw [htask]; rfl) (.inr hexited) (by rw [htask]; rfl) (fun _ _ => hmem)
      fun _ hone => ?_
    -- the issue of the model would be one of a failure after the first signal
    obtain ⟨failure', hstartup', hissue⟩ := h.sound _ hmem rfl
    cases hstartup.symm.trans hstartup'
    rw [hfailed] at hone
    rw [StartupFailure.issues_of_signals_one hone] at hissue
    cases List.mem_singleton.mp hissue
  · rename_i hnone
    refine h.moveOnly (by rw [htask]; rfl) ⟨hexited, ?_⟩ (by rw [htask]; rfl)
      (fun _ hzero => h.modelIssue (by rw [htask]; rfl) hzero) fun hfalse =>
        absurd hfalse Bool.false_ne_true
    by_contra hne
    exact hnone (h.modelIssue (by rw [htask]; rfl) (by omega))

theorem registeringTemplateIssue (h : StartupInv arbiter answers s)
    (htask : s.task = .registeringTemplateIssue) :
    StartupInv arbiter answers (taskStep arbiter s) := by
  have hat := h.task
  have hslots := h.slotsTotal
  have hthread := h.thread.taskStep
  have hframe := taskStep_frame arbiter s
  rw [htask] at hat hslots
  obtain ⟨hexited, hsignals⟩ := hat
  have hcancelled : s.task.isCancelled = false := by
    rw [htask]
    rfl
  obtain ⟨failure, hfailed, hstartup⟩ := h.thread.failed hexited (by omega) hcancelled
  simp only [taskStep, htask] at hthread hframe ⊢
  refine h.move hthread hframe (.inr hexited) ?_ ?_ ?_ ?_ ?_
  · exact (registerIssue_slotsTotal _ _).trans hslots
  · intro issue hmem
    rcases SlotAggregatedStatus.mem_registerIssue.mp hmem with rfl | hold
    · refine .inr ⟨failure, hstartup, ?_⟩
      rw [hfailed] at hsignals
      rw [StartupFailure.issues_of_signals_one hsignals]
      exact List.mem_singleton_self _
    · exact .inl hold
  · exact fun issue _ hmem => SlotAggregatedStatus.mem_registerIssue.mpr (.inr hmem)
  · exact fun _ hzero => absurd hzero (by omega)
  · exact fun _ _ => .inl (SlotAggregatedStatus.mem_registerIssue.mpr (.inl rfl))

/-- A thread that has sent its last signal runs the scheduler, unless it was told to stop. -/
theorem schedulerRunning_of_signals (h : StartupInv arbiter answers s)
    (hsignals : 2 < s.thread.signals) (hcancelled : s.task.isCancelled = false) :
    s.thread = .schedulerRunning := by
  have hstopped : s.thread.isStopped ≠ true := fun htrue => by
    rw [h.stopped htrue] at hcancelled
    cases hcancelled
  cases hthread : s.thread with
  | schedulerRunning => rfl
  | returning result =>
    rw [hthread] at hsignals hstopped
    cases result with
    | ok => exact absurd rfl hstopped
    | error err =>
      cases err with
      | startup failure => exact absurd failure.signals_le (Nat.not_le.mpr hsignals)
      | signalNotSent => cases hsignals
  | exited result =>
    rw [hthread] at hsignals hstopped
    cases result with
    | ok => exact absurd rfl hstopped
    | error err =>
      cases err with
      | startup failure => exact absurd failure.signals_le (Nat.not_le.mpr hsignals)
      | signalNotSent => cases hsignals
  | _ =>
    rw [hthread] at hsignals
    simp [StartupThread.signals] at hsignals

/-- A scheduler that runs was started with slots that fit. -/
theorem desiredSlotsTotal_nonneg (h : StartupInv arbiter answers s)
    (hthread : s.thread = .schedulerRunning) :
    0 ≤ arbiter.desiredSlotsTotal := by
  have hstartup := h.thread.calls
  rw [hthread] at hstartup
  cases hload : loadModel arbiter answers with
  | ok => exact loadModel_ok hload
  | error failure =>
    rw [startup, hload] at hstartup
    cases hstartup

theorem awaitingAgentWarm (h : StartupInv arbiter answers s) (htask : s.task = .awaitingAgentWarm) :
    StartupInv arbiter answers (taskStep arbiter s) := by
  have hcancelled : s.task.isCancelled = false := by
    rw [htask]
    rfl
  have hdelivered : s.thread.undelivered = false := by
    by_contra hu
    rw [h.thread.undelivered (Bool.not_eq_false _ ▸ hu)] at hcancelled
    cases hcancelled
  have hsender := h.thread.agentWarm hdelivered
  cases hagentWarm : s.agentWarm.sender with
  | waiting =>
    simp only [taskStep, htask, hagentWarm]
    exact h
  | sent value =>
    rw [hagentWarm] at hsender
    have hthread := h.schedulerRunning_of_signals (of_decide_eq_true hsender) hcancelled
    simp only [taskStep, htask, hagentWarm]
    rw [if_neg (Int.not_lt.mpr (h.desiredSlotsTotal_nonneg hthread))]
    exact h.moveOnly (by rw [htask]; rfl) ⟨hthread, Nat.zero_le _⟩ (by rw [htask]; rfl)
      (fun hfalse => absurd hfalse Bool.false_ne_true) fun hfalse =>
        absurd hfalse Bool.false_ne_true
  | dropped =>
    rw [hagentWarm] at hsender
    have hunsent : ¬ 2 < s.thread.signals := of_decide_eq_false hsender.1
    simp only [taskStep, htask, hagentWarm]
    exact h.moveOnly (by rw [htask]; rfl) ⟨hsender.2, by omega⟩ (by rw [htask]; rfl)
      (fun _ => h.modelIssue (by rw [htask]; rfl)) fun _ => h.templateIssue (by rw [htask]; rfl)

theorem incrementingSlots (h : StartupInv arbiter answers s) {slotIndex : Nat}
    (htask : s.task = .incrementingSlots slotIndex) :
    StartupInv arbiter answers (taskStep arbiter s) := by
  have hat := h.task
  have hslots := h.slotsTotal
  have hthread := h.thread.taskStep
  have hframe := taskStep_frame arbiter s
  rw [htask] at hat hslots
  obtain ⟨hrunning, hle⟩ := hat
  simp only [taskStep, htask] at hthread hframe ⊢
  split
  · rename_i hlt
    rw [if_pos hlt] at hthread hframe
    refine h.move hthread hframe ⟨hrunning, hlt⟩ ?_ (fun _ hmem => .inl hmem)
      (fun _ _ hmem => hmem) ?_ ?_
    · -- the total stays below the desired one, which is an `i32`
      have hdesired := arbiter.desiredSlotsTotal_le
      have hnonneg := h.desiredSlotsTotal_nonneg hrunning
      have hbound : (slotIndex : Int) + 1 ≤ 2147483647 := by
        unfold ContinuousBatchArbiter.nSeqMax at hlt
        unfold i32Max at hdesired
        omega
      show wrappingI32 (s.status.slotsTotal + 1) = ((slotIndex + 1 : Nat) : Int)
      rw [hslots]
      exact wrappingI32_of_between (by simp only [StartupTask.slots]; omega) hbound
    · exact fun hfalse => absurd hfalse Bool.false_ne_true
    · exact fun hfalse => absurd hfalse Bool.false_ne_true
  · refine h.moveOnly (by rw [htask]; rfl) hrunning ?_
      (fun hfalse => absurd hfalse Bool.false_ne_true)
      fun hfalse => absurd hfalse Bool.false_ne_true
    rw [htask]
    simp only [StartupTask.slots]
    omega

theorem fixingSlot (h : StartupInv arbiter answers s) {slotIndex : Nat}
    (htask : s.task = .fixingSlot slotIndex) : StartupInv arbiter answers (taskStep arbiter s) := by
  have hat := h.task
  have hslots := h.slotsTotal
  have hthread := h.thread.taskStep
  have hframe := taskStep_frame arbiter s
  rw [htask] at hat hslots
  obtain ⟨hrunning, hlt⟩ := hat
  simp only [taskStep, htask] at hthread hframe ⊢
  refine h.move hthread hframe ⟨hrunning, hlt⟩
    ((registerFix_slotsTotal _ _).trans hslots) ?_ ?_ ?_ ?_
  · exact fun issue hmem => .inl (SlotAggregatedStatus.mem_registerFix.mp hmem).1
  · intro issue hdue
    rw [hrunning] at hdue
    cases hdue
  · exact fun hfalse => absurd hfalse Bool.false_ne_true
  · exact fun hfalse => absurd hfalse Bool.false_ne_true

theorem joining (h : StartupInv arbiter answers s) (htask : s.task = .joining) :
    StartupInv arbiter answers (taskStep arbiter s) := by
  simp only [taskStep, htask]
  split
  · rename_i result hthread
    refine h.moveOnly (by rw [htask]; rfl) ?_ (by rw [htask]; rfl)
      (fun hfalse => absurd hfalse Bool.false_ne_true) fun hfalse =>
        absurd hfalse Bool.false_ne_true
    rw [hthread]
    rfl
  · exact h

/-- **A step of the task keeps the invariant.** -/
theorem taskStep (h : StartupInv arbiter answers s) :
    StartupInv arbiter answers (taskStep arbiter s) := by
  cases htask : s.task with
  | awaitingModelLoaded => exact h.awaitingModelLoaded htask
  | awaitingChatTemplateLoaded => exact h.awaitingChatTemplateLoaded htask
  | checkingModelIssue => exact h.checkingModelIssue htask
  | registeringTemplateIssue => exact h.registeringTemplateIssue htask
  | awaitingAgentWarm => exact h.awaitingAgentWarm htask
  | incrementingSlots slotIndex => exact h.incrementingSlots htask
  | fixingSlot slotIndex => exact h.fixingSlot htask
  | joining => exact h.joining htask
  | ended outcome =>
    simp only [ModelStartup.taskStep, htask]
    exact h

theorem cancelStep (h : StartupInv arbiter answers s) :
    StartupInv arbiter answers (cancelStep s) := by
  have hthread := h.thread.cancelStep
  unfold ModelStartup.cancelStep at hthread ⊢
  split at hthread
  · rename_i hawaits
    rw [if_pos hawaits]
    have hslots : s.task.slots arbiter = 0 := by
      cases htask : s.task <;> rw [htask] at hawaits <;> first | rfl | cases hawaits
    exact
      { thread := hthread
        task := trivial
        shutdownSent := rfl
        slotsTotal := h.slotsTotal.trans (by rw [hslots]; rfl)
        sound := h.sound
        threadIssues := h.threadIssues
        modelIssue := fun hfalse => absurd hfalse Bool.false_ne_true
        templateIssue := fun hfalse => absurd hfalse Bool.false_ne_true
        stopped := fun _ => rfl }
  · rename_i hawaits
    rw [if_neg hawaits]
    exact h

/-- **What the other tasks write keeps the invariant.** -/
theorem otherStep (h : StartupInv arbiter answers s) {mutation : StatusMutation}
    (hother : ofOtherTask mutation = true) : StartupInv arbiter answers (otherStep s mutation) := by
  have hslots := (ofOtherTask_frame hother s.status).2
  exact
    { thread := h.thread.sameSignals ⟨rfl, rfl, rfl, rfl, rfl, rfl, rfl⟩ rfl
      task := h.task
      shutdownSent := h.shutdownSent
      slotsTotal := hslots.trans h.slotsTotal
      sound := fun issue hmem hstartup =>
        h.sound issue (mem_of_ofOtherTask hother hstartup hmem) hstartup
      threadIssues := fun issue hdue =>
        (h.threadIssues issue hdue).otherStep (StartupThread.issues_registered hdue) hother
      modelIssue := by
        intro hpast hsignals
        rcases StartupState.Registered.otherStep (.inl (h.modelIssue hpast hsignals))
          rfl hother with
          hmem | ⟨-, hfix⟩
        · exact hmem
        · cases hfix
      templateIssue := fun hpast hsignals => (h.templateIssue hpast hsignals).otherStep rfl hother
      stopped := h.stopped }

end StartupInv

/-- What each may do: the parties their steps, the other tasks their writes. -/
def Allowed (_ : StartupState) : StartupInput → Prop
  | .other mutation => ofOtherTask mutation = true
  | _ => True

instance (s : StartupState) (i : StartupInput) : Decidable (Allowed s i) :=
  match i with
  | .other mutation => inferInstanceAs (Decidable (ofOtherTask mutation = true))
  | .thread | .task | .cancel => isTrue trivial

theorem startupInv_start (arbiter : ContinuousBatchArbiter) (answers : StartupAnswers)
    (status : SlotAggregatedStatus) (holder : Option ModelMetadata) :
    StartupInv arbiter answers (start status holder) where
  thread :=
    { calls := rfl
      modelLoaded := fun _ => ⟨rfl, rfl⟩
      chatTemplateLoaded := fun _ => ⟨rfl, rfl⟩
      agentWarm := fun _ => ⟨rfl, rfl⟩
      receivers := ⟨rfl, rfl, rfl⟩
      undelivered := fun hfalse => absurd hfalse Bool.false_ne_true }
  task := trivial
  shutdownSent := rfl
  slotsTotal := rfl
  sound := fun issue hmem => absurd hmem (Finset.notMem_empty issue)
  threadIssues := fun _ hdue => absurd hdue List.not_mem_nil
  modelIssue := fun hfalse => absurd hfalse Bool.false_ne_true
  templateIssue := fun hfalse => absurd hfalse Bool.false_ne_true
  stopped := fun hfalse => absurd hfalse Bool.false_ne_true

theorem StartupInv.step (h : StartupInv arbiter answers s) {i : StartupInput} (hi : Allowed s i) :
    StartupInv arbiter answers (step arbiter answers s i) := by
  cases i with
  | thread => exact h.threadStep
  | task => exact h.taskStep
  | cancel => exact h.cancelStep
  | other mutation => exact h.otherStep hi

theorem startupInv_reaches {status : SlotAggregatedStatus} {holder : Option ModelMetadata}
    (h : Reaches (step arbiter answers) Allowed (start status holder) s) :
    StartupInv arbiter answers s := by
  exact h.invariant (StartupInv arbiter answers) (startupInv_start arbiter answers status holder)
    fun _ _ _ hs hi => hs.step hi

/-! ## What is published -/

/-- The metadata is published before the call that failed. -/
def StartupFailure.afterMetadata : StartupFailure → Bool
  | .chatTemplate | .chatTemplateRenderer _ | .multimodalProjection _ | .tokens
  | .llamaContext _ => true
  | .llamaBackend | .desiredSlotsTotal | .nBatch | .gpuDevices | .model | .metadata => false

/-- So is the path of the model. -/
def StartupFailure.afterModelPath : StartupFailure → Bool
  | .multimodalProjection _ | .tokens | .llamaContext _ => true
  | _ => false

/-- The thread has published the metadata; not known of one that could not send a signal. -/
def StartupThread.passedMetadata : StartupThread → Option Bool
  | .loadingModel | .readingMetadata => some false
  | .returning (.error .signalNotSent) | .exited (.error .signalNotSent) => none
  | .returning (.error (.startup failure)) | .exited (.error (.startup failure)) =>
    some failure.afterMetadata
  | _ => some true

def StartupThread.passedModelPath : StartupThread → Option Bool
  | .loadingModel | .readingMetadata | .findingChatTemplate | .compilingChatTemplate _
  | .settingModelPath =>
    some false
  | .returning (.error .signalNotSent) | .exited (.error .signalNotSent) => none
  | .returning (.error (.startup failure)) | .exited (.error (.startup failure)) =>
    some failure.afterModelPath
  | _ => some true

/-- What holds after it was published, or before, or one of both. -/
def IfPassed (before after : Prop) : Option Bool → Prop
  | some true => after
  | some false => before
  | none => before ∨ after

theorem IfPassed.either {before after : Prop} {passed : Option Bool}
    (h : IfPassed before after passed) :
    before ∨ after := by
  cases passed with
  | none => exact h
  | some passed =>
    cases passed with
    | false => exact .inl h
    | true => exact .inr h

/-- The holder has the metadata that was read. -/
def StartupState.HasMetadata (answers : StartupAnswers) (s : StartupState) : Prop :=
  ∃ metadata, readMetadata ⟨[]⟩ answers.metaEntries = .ok metadata ∧
    s.modelMetadataHolder = some metadata

/-- The metadata and the path are published as far as the thread is. -/
structure Published (arbiter : ContinuousBatchArbiter) (answers : StartupAnswers)
    (holder : Option ModelMetadata) (s : StartupState) : Prop where
  metadata : IfPassed (s.modelMetadataHolder = holder)
    (s.HasMetadata answers) s.thread.passedMetadata
  modelPath : IfPassed (s.status.modelPath = none)
    (s.status.modelPath = some arbiter.modelPathString)
    s.thread.passedModelPath

namespace Published

variable {holder : Option ModelMetadata}

theorem of_same (h : Published arbiter answers holder s) {thread : StartupThread}
    (hthread : s.thread = thread) {s' : StartupState}
    (hmetadata : s'.modelMetadataHolder = s.modelMetadataHolder)
    (hmodelPath : s'.status.modelPath = s.status.modelPath)
    (hpassed : s'.thread.passedMetadata = thread.passedMetadata)
    (hpassed' : s'.thread.passedModelPath = thread.passedModelPath) :
    Published arbiter answers holder s' where
  metadata := by
    unfold StartupState.HasMetadata
    rw [hpassed, hmetadata, ← hthread]
    exact h.metadata
  modelPath := by
    rw [hpassed', hmodelPath, ← hthread]
    exact h.modelPath

theorem afterSignal (h : Published arbiter answers holder s) {thread : StartupThread}
    (hthread : s.thread = thread) {α : Type} (channel : Oneshot α) {next : StartupThread}
    {s' : StartupState} (hmetadata : s'.modelMetadataHolder = s.modelMetadataHolder)
    (hmodelPath : s'.status.modelPath = s.status.modelPath)
    (hnext : s'.thread = StartupState.afterSignal channel next)
    (hpassed : next.passedMetadata = thread.passedMetadata)
    (hpassed' : next.passedModelPath = thread.passedModelPath) :
    Published arbiter answers holder s' := by
  unfold StartupState.afterSignal at hnext
  split at hnext
  · exact
      { metadata := by
          unfold StartupState.HasMetadata
          rw [hnext, hmetadata]
          exact h.metadata.either
        modelPath := by
          rw [hnext, hmodelPath]
          exact h.modelPath.either }
  · exact h.of_same hthread hmetadata hmodelPath (hnext ▸ hpassed) (hnext ▸ hpassed')

/-- **A step of the thread publishes what it passes.** -/
theorem threadStep (h : Published arbiter answers holder s) :
    Published arbiter answers holder (threadStep arbiter answers s) := by
  cases hthread : s.thread with
  | loadingModel =>
    simp only [ModelStartup.threadStep, hthread]
    cases hload : loadModel arbiter answers with
    | error failure =>
      have hsignals := loadModel_error hload
      refine h.of_same hthread rfl rfl ?_ ?_ <;>
        (cases failure <;> first | rfl | cases hsignals)
    | ok => exact h.afterSignal hthread s.modelLoaded rfl rfl rfl rfl rfl
  | readingMetadata =>
    have hpath := h.modelPath
    rw [hthread] at hpath
    simp only [ModelStartup.threadStep, hthread]
    cases hread : readMetadata ⟨[]⟩ answers.metaEntries with
    | error failure =>
      cases readMetadata_error hread
      exact h.of_same hthread rfl rfl rfl rfl
    | ok metadata => exact ⟨⟨metadata, hread, rfl⟩, hpath⟩
  | findingChatTemplate =>
    simp only [ModelStartup.threadStep, hthread]
    cases hfind : findChatTemplate arbiter answers with
    | error failure =>
      cases findChatTemplate_error hfind
      exact h.of_same hthread rfl rfl rfl rfl
    | ok chatTemplate =>
      cases chatTemplate <;>
        exact h.afterSignal hthread s.chatTemplateLoaded rfl rfl rfl rfl rfl
  | compilingChatTemplate content =>
    simp only [ModelStartup.threadStep, hthread]
    cases hcompile : compileChatTemplate answers content with
    | error failure =>
      cases compileChatTemplate_error hcompile
      exact h.of_same hthread rfl (registerIssue_modelPath _ _) rfl rfl
    | ok => exact h.of_same hthread rfl (registerFix_modelPath _ _) rfl rfl
  | settingModelPath =>
    have hmetadata := h.metadata
    rw [hthread] at hmetadata
    simp only [ModelStartup.threadStep, hthread]
    exact ⟨hmetadata, rfl⟩
  | loadingMultimodalProjection =>
    simp only [ModelStartup.threadStep, hthread]
    split
    · exact h.of_same hthread rfl rfl rfl rfl
    · rename_i path hpath
      cases hload : loadMultimodalProjection arbiter answers with
      | error failure =>
        cases loadMultimodalProjection_error hpath hload
        exact h.of_same hthread rfl (registerIssue_modelPath _ _) rfl rfl
      | ok => exact h.of_same hthread rfl (registerFix_modelPath _ _) rfl rfl
  | readingTokens =>
    simp only [ModelStartup.threadStep, hthread]
    cases hread : readTokens answers with
    | error failure =>
      cases readTokens_error hread
      exact h.of_same hthread rfl rfl rfl rfl
    | ok => exact h.of_same hthread rfl rfl rfl rfl
  | creatingContext =>
    simp only [ModelStartup.threadStep, hthread]
    cases hcreate : createContext answers with
    | error failure =>
      obtain ⟨error, rfl⟩ := createContext_error hcreate
      exact h.of_same hthread rfl rfl rfl rfl
    | ok => exact h.of_same hthread rfl rfl rfl rfl
  | registeringSlotIssues error slotIndex =>
    simp only [ModelStartup.threadStep, hthread]
    split
    · exact h.of_same hthread rfl (registerIssue_modelPath _ _) rfl rfl
    · exact h.of_same hthread rfl rfl rfl rfl
  | signallingAgentWarm =>
    simp only [ModelStartup.threadStep, hthread]
    exact h.afterSignal hthread s.agentWarm rfl rfl rfl rfl rfl
  | schedulerRunning =>
    simp only [ModelStartup.threadStep, hthread]
    split
    · exact h.of_same hthread rfl rfl rfl rfl
    · exact h
  | returning result =>
    simp only [ModelStartup.threadStep, hthread]
    rcases result with (_ | _) | _ <;> exact h.of_same hthread rfl rfl rfl rfl
  | exited result =>
    simp only [ModelStartup.threadStep, hthread]
    exact h

theorem step (h : Published arbiter answers holder s) {i : StartupInput} (hi : Allowed s i) :
    Published arbiter answers holder (step arbiter answers s i) := by
  cases i with
  | thread => exact h.threadStep
  | task =>
    have hframe := taskStep_frame arbiter s
    exact h.of_same rfl hframe.modelMetadataHolder hframe.modelPath
      (congrArg StartupThread.passedMetadata hframe.thread)
        (congrArg StartupThread.passedModelPath hframe.thread)
  | cancel =>
    show Published arbiter answers holder (cancelStep s)
    unfold cancelStep
    split
    · exact h.of_same rfl rfl rfl rfl rfl
    · exact h
  | other mutation => exact h.of_same rfl rfl (ofOtherTask_frame hi s.status).1 rfl rfl

end Published

theorem published_reaches {status : SlotAggregatedStatus} {holder : Option ModelMetadata}
    (h : Reaches (step arbiter answers) Allowed (start status holder) s) :
    Published arbiter answers holder s := by
  have hstart : Published arbiter answers holder (start status holder) :=
    { metadata := show (start status holder).modelMetadataHolder = holder from rfl
      modelPath := show (start status holder).status.modelPath = none from rfl }
  exact h.invariant (Published arbiter answers holder) hstart fun _ _ _ hs hi => hs.step hi

/-! ## The end -/

/-- How a startup ends, by its outcome; `holder` is what the holder of the metadata had before. -/
def EndsAs (arbiter : ContinuousBatchArbiter) (answers : StartupAnswers)
    (holder : Option ModelMetadata) (s : StartupState) : StartupOutcome → Prop
  | .ready =>
    -- the scheduler runs, its slots are counted, its metadata is there, and nothing is wrong with
    -- the model
    startup arbiter answers = .ok () ∧ s.thread = .schedulerRunning ∧
      s.status.slotsTotal = arbiter.desiredSlotsTotal ∧
      s.status.modelPath = some arbiter.modelPathString ∧ s.HasMetadata answers ∧
      ∀ issue ∈ s.status.issues, ofStartup issue = false
  | .failed =>
    -- the thread is gone, no slot is counted, what came before the call that failed is published,
    -- and the issues are those of that call
    ∃ failure, startup arbiter answers = .error failure ∧ s.thread.isExited = true ∧
      s.status.slotsTotal = 0 ∧
      IfPassed (s.modelMetadataHolder = holder) (s.HasMetadata answers)
        (some failure.afterMetadata) ∧
      IfPassed (s.status.modelPath = none) (s.status.modelPath = some arbiter.modelPathString)
        (some failure.afterModelPath) ∧
      (∀ issue ∈ failure.issues arbiter, s.Registered issue) ∧
      ∀ issue ∈ s.status.issues, ofStartup issue = true → issue ∈ failure.issues arbiter
  | .cancelled =>
    -- the thread was joined, nothing else is published, and there are no issues but those of a call
    -- that failed
    s.thread.isExited = true ∧ s.status.slotsTotal = 0 ∧
      (s.modelMetadataHolder = holder ∨ s.HasMetadata answers) ∧
      (s.status.modelPath = none ∨ s.status.modelPath = some arbiter.modelPathString) ∧
      ∀ issue ∈ s.status.issues, ofStartup issue = true →
        ∃ failure, startup arbiter answers = .error failure ∧ issue ∈ failure.issues arbiter

/-- **However the steps of the thread, of the task and of the rest of the agent interleave, and
whenever the startup is cancelled**: the outcome is the one of the calls, the slots are counted if
and only if the scheduler runs, what the calls before a failed one publish is published, and the
status has the issues of the call that failed and no others of a startup. -/
theorem startup_ended {status : SlotAggregatedStatus} {holder : Option ModelMetadata}
    {outcome : StartupOutcome} (h : Reaches (step arbiter answers) Allowed (start status holder) s)
    (hended : s.task = .ended outcome) : EndsAs arbiter answers holder s outcome := by
  have hinv := startupInv_reaches h
  have hpublished := published_reaches h
  have hat := hinv.task
  have hslots := hinv.slotsTotal
  rw [hended] at hat hslots
  cases outcome with
  | ready =>
    have hstartup := hinv.thread.calls
    have hnonneg := hinv.desiredSlotsTotal_nonneg hat
    have hmetadata := hpublished.metadata
    have hmodelPath := hpublished.modelPath
    rw [hat] at hstartup hmetadata hmodelPath
    refine ⟨hstartup, hat, ?_, hmodelPath, hmetadata, fun issue hmem => ?_⟩
    · rw [hslots]
      exact Int.toNat_of_nonneg hnonneg
    · by_contra hissue
      obtain ⟨failure, hfailure, -⟩ := hinv.sound issue hmem (Bool.not_eq_false _ ▸ hissue)
      cases hstartup.symm.trans hfailure
  | failed =>
    obtain ⟨hexited, hsignals⟩ := hat
    obtain ⟨failure, hthread, hstartup⟩ := hinv.thread.failed hexited hsignals (by rw [hended]; rfl)
    have hmetadata := hpublished.metadata
    have hmodelPath := hpublished.modelPath
    rw [hthread] at hmetadata hmodelPath
    refine ⟨failure, hstartup, hexited, hslots, hmetadata, hmodelPath, ?_, ?_⟩
    · intro issue hissue
      have hfailureSignals : s.thread.signals = failure.signals := by
        rw [hthread]
        rfl
      have hle := failure.signals_le
      rcases Nat.lt_or_ge failure.signals 1 with hzero | hpos
      · rw [StartupFailure.issues_of_signals_zero (by omega)] at hissue
        cases List.mem_singleton.mp hissue
        exact .inl (hinv.modelIssue (by rw [hended]; rfl) (by omega))
      rcases Nat.lt_or_ge failure.signals 2 with hone | htwo
      · rw [StartupFailure.issues_of_signals_one (by omega)] at hissue
        cases List.mem_singleton.mp hissue
        exact hinv.templateIssue (by rw [hended]; rfl) (by omega)
      · refine hinv.threadIssues issue ?_
        rw [hthread]
        simp only [StartupThread.issues]
        rw [if_pos (by omega)]
        exact hissue
    · intro issue hmem hissue
      obtain ⟨failure', hfailure', hissue'⟩ := hinv.sound issue hmem hissue
      cases hstartup.symm.trans hfailure'
      exact hissue'
  | cancelled => exact ⟨hat, hslots, hpublished.metadata.either,
      hpublished.modelPath.either, hinv.sound⟩

/-- A model whose metadata cannot be read, for an agent of one slot. -/
def unreadableArbiter : ContinuousBatchArbiter :=
  { chatTemplateOverride := none
    desiredSlotsTotal := 1
    desiredSlotsTotal_le := by decide
    gpuDevices := []
    inferenceParameters := ⟨false, 2048⟩
    multimodalProjectionPath := none
    modelPath := ⟨[], ['m']⟩
    modelPathString := PathBuf.display ⟨[], ['m']⟩
    modelPathString_eq := rfl }

/-- Everything succeeds but the value of an entry. -/
def unreadableAnswers : StartupAnswers :=
  { llamaBackendInit := true
    withDevices := fun _ => true
    loadFromFile := fun _ => true
    metaEntries := [(some "general.name", none)]
    chatTemplate := some (some "template")
    rendererNew := fun _ => true
    mtmdInitFromFile := fun _ => true
    tokenBosToPiece := some "<s>"
    tokenNlToPiece := some "\n"
    tokenEosToPiece := some "</s>"
    llamaContextFromModel := .ok () }

/-- The model is loaded and a request arrives; the thread fails, and the task hears of it. -/
def unreadableRun : List StartupInput :=
  [.thread, .task, .other .takeSlot, .thread, .thread, .task, .task, .task, .task]

/-- The template is reported missing, though it was never looked for. -/
theorem startup_ended_unreadable :
    EndsAs unreadableArbiter unreadableAnswers none
      (unreadableRun.foldl (step unreadableArbiter unreadableAnswers)
        (start (.new 1) none)) .failed :=
  startup_ended (Reaches.along unreadableRun (by decide +kernel) .start) (by decide +kernel)

/-! ## Termination -/

/-- How far the thread is from its end. -/
def StartupThread.rank (arbiter : ContinuousBatchArbiter) : StartupThread → Nat
  | .loadingModel => arbiter.nSeqMax + 13
  | .readingMetadata => arbiter.nSeqMax + 12
  | .findingChatTemplate => arbiter.nSeqMax + 11
  | .compilingChatTemplate _ => arbiter.nSeqMax + 10
  | .settingModelPath => arbiter.nSeqMax + 9
  | .loadingMultimodalProjection => arbiter.nSeqMax + 8
  | .readingTokens => arbiter.nSeqMax + 7
  | .creatingContext => arbiter.nSeqMax + 6
  | .registeringSlotIssues _ slotIndex => arbiter.nSeqMax - slotIndex + 4
  | .signallingAgentWarm => 4
  | .schedulerRunning => 3
  | .returning _ => 2
  | .exited _ => 1

/-- How far the task is from its end. -/
def StartupTask.rank (arbiter : ContinuousBatchArbiter) : StartupTask → Nat
  | .awaitingModelLoaded => 2 * arbiter.nSeqMax + 9
  | .awaitingChatTemplateLoaded => 2 * arbiter.nSeqMax + 8
  | .checkingModelIssue => 2 * arbiter.nSeqMax + 7
  | .registeringTemplateIssue => 2 * arbiter.nSeqMax + 6
  | .awaitingAgentWarm => 2 * arbiter.nSeqMax + 5
  | .incrementingSlots slotIndex => 2 * (arbiter.nSeqMax - slotIndex) + 3
  | .fixingSlot slotIndex => 2 * (arbiter.nSeqMax - slotIndex) + 2
  | .joining => 1
  | .ended _ => 0

/-- How far both are from their ends. -/
def StartupState.rank (arbiter : ContinuousBatchArbiter) (s : StartupState) : Nat :=
  s.thread.rank arbiter + s.task.rank arbiter

theorem rank_afterSignal (arbiter : ContinuousBatchArbiter) {α : Type} (channel : Oneshot α)
    (next : StartupThread) (h : 2 ≤ next.rank arbiter) :
    (StartupState.afterSignal channel next).rank arbiter ≤ next.rank arbiter := by
  unfold StartupState.afterSignal
  split
  · exact h
  · exact Nat.le_refl _

/-- The thread is gone, or its scheduler waits for a command. -/
def StartupState.ThreadIdle (s : StartupState) : Prop :=
  s.thread.isExited = true ∨ (s.thread = .schedulerRunning ∧ s.shutdownSent = false)

/-- The task waits for something that has not happened, or it has ended. -/
def StartupState.TaskIdle (s : StartupState) : Prop :=
  match s.task with
  | .awaitingModelLoaded => s.modelLoaded.sender = .waiting
  | .awaitingChatTemplateLoaded => s.chatTemplateLoaded.sender = .waiting
  | .awaitingAgentWarm => s.agentWarm.sender = .waiting
  | .joining => s.thread.isExited = false
  | .ended _ => True
  | _ => False

theorem threadStep_of_idle (h : s.ThreadIdle) : threadStep arbiter answers s = s := by
  rcases h with hexited | ⟨hrunning, hshutdown⟩
  · exact threadStep_of_isExited hexited
  · exact threadStep_of_schedulerRunning hrunning hshutdown

/-- A step of the thread brings it closer to its end, unless it is idle. -/
theorem rank_threadStep (arbiter : ContinuousBatchArbiter) (answers : StartupAnswers)
    (s : StartupState) :
    s.ThreadIdle ∨
      (threadStep arbiter answers s).thread.rank arbiter < s.thread.rank arbiter := by
  cases hthread : s.thread with
  | loadingModel =>
    have hle := rank_afterSignal arbiter s.modelLoaded .readingMetadata
      (by simp [StartupThread.rank])
    simp only [StartupThread.rank] at hle
    refine .inr ?_
    simp only [threadStep, hthread]
    split <;> simp only [StartupState.fail, StartupThread.rank] <;> omega
  | readingMetadata =>
    refine .inr ?_
    simp only [threadStep, hthread]
    split <;> simp only [StartupState.fail, StartupThread.rank] <;> omega
  | findingChatTemplate =>
    have hskip := rank_afterSignal arbiter s.chatTemplateLoaded .settingModelPath
      (by simp [StartupThread.rank])
    have hfound := fun content => rank_afterSignal arbiter s.chatTemplateLoaded
      (.compilingChatTemplate content) (by simp [StartupThread.rank])
    simp only [StartupThread.rank] at hskip hfound
    refine .inr ?_
    simp only [threadStep, hthread]
    split
    · simp only [StartupState.fail, StartupThread.rank]
      omega
    · simp only [StartupThread.rank]
      omega
    · rename_i content _
      have hnext := hfound content
      simp only [StartupThread.rank]
      omega
  | compilingChatTemplate content =>
    refine .inr ?_
    simp only [threadStep, hthread]
    split <;> simp only [StartupState.fail, StartupThread.rank] <;> omega
  | settingModelPath =>
    refine .inr ?_
    simp only [threadStep, hthread, StartupThread.rank]
    omega
  | loadingMultimodalProjection =>
    refine .inr ?_
    simp only [threadStep, hthread]
    split
    · simp only [StartupThread.rank]
      omega
    · split <;> simp only [StartupState.fail, StartupThread.rank] <;> omega
  | readingTokens =>
    refine .inr ?_
    simp only [threadStep, hthread]
    split <;> simp only [StartupState.fail, StartupThread.rank] <;> omega
  | creatingContext =>
    refine .inr ?_
    simp only [threadStep, hthread]
    split <;> simp only [StartupState.fail, StartupThread.rank] <;> omega
  | registeringSlotIssues error slotIndex =>
    refine .inr ?_
    simp only [threadStep, hthread]
    split <;> simp only [StartupState.fail, StartupThread.rank] <;> omega
  | signallingAgentWarm =>
    have hle := rank_afterSignal arbiter s.agentWarm .schedulerRunning
      (by simp [StartupThread.rank])
    simp only [StartupThread.rank] at hle
    refine .inr ?_
    simp only [threadStep, hthread, StartupThread.rank]
    omega
  | schedulerRunning =>
    simp only [threadStep, hthread]
    split
    · exact .inr (Nat.lt_succ_self 2)
    · rename_i hshutdown
      exact .inl (.inr ⟨hthread, Bool.eq_false_iff.mpr hshutdown⟩)
  | returning result => exact .inr (by simp only [threadStep, hthread, StartupThread.rank]; omega)
  | exited result => exact .inl (.inl (by rw [hthread]; rfl))

/-- A step of the task brings it closer to its end, unless it is idle. -/
theorem rank_taskStep (h : StartupInv arbiter answers s) :
    s.TaskIdle ∨ (taskStep arbiter s).task.rank arbiter < s.task.rank arbiter := by
  cases htask : s.task with
  | awaitingModelLoaded =>
    simp only [StartupState.TaskIdle, taskStep, htask]
    split
    · rename_i hwaiting
      exact .inl hwaiting
    · exact .inr (by simp only [StartupTask.rank]; omega)
    · exact .inr (by simp only [StartupTask.rank]; omega)
  | awaitingChatTemplateLoaded =>
    simp only [StartupState.TaskIdle, taskStep, htask]
    split
    · rename_i hwaiting
      exact .inl hwaiting
    · exact .inr (by simp only [StartupTask.rank]; omega)
    · exact .inr (by simp only [StartupTask.rank]; omega)
    · exact .inr (by simp only [StartupTask.rank]; omega)
  | checkingModelIssue =>
    refine .inr ?_
    simp only [taskStep, htask]
    split <;> simp only [StartupTask.rank] <;> omega
  | registeringTemplateIssue =>
    refine .inr ?_
    simp only [taskStep, htask, StartupTask.rank]
    omega
  | awaitingAgentWarm =>
    simp only [StartupState.TaskIdle, taskStep, htask]
    split
    · rename_i hwaiting
      exact .inl hwaiting
    · refine .inr ?_
      split <;> simp only [StartupTask.rank] <;> omega
    · exact .inr (by simp only [StartupTask.rank]; omega)
  | incrementingSlots slotIndex =>
    refine .inr ?_
    simp only [taskStep, htask]
    split <;> simp only [StartupTask.rank] <;> omega
  | fixingSlot slotIndex =>
    have hat := h.task
    rw [htask] at hat
    have hlt := hat.2
    refine .inr ?_
    simp only [taskStep, htask, StartupTask.rank]
    omega
  | joining =>
    simp only [StartupState.TaskIdle, taskStep, htask]
    split
    · exact .inr Nat.zero_lt_one
    · rename_i hrunning
      refine .inl ?_
      cases hthread : s.thread with
      | exited result => exact absurd hthread (hrunning result)
      | _ => rfl
  | ended outcome => exact .inl (by simp only [StartupState.TaskIdle, htask])

theorem taskStep_of_idle (h : s.TaskIdle) : taskStep arbiter s = s := by
  unfold StartupState.TaskIdle at h
  cases htask : s.task with
  | joining =>
    rw [htask] at h
    simp only [taskStep, htask]
    split
    · rename_i result hthread
      rw [hthread] at h
      cases h
    · rfl
  | awaitingModelLoaded =>
    rw [htask] at h
    simp only [taskStep, htask, show s.modelLoaded.sender = .waiting from h]
  | awaitingChatTemplateLoaded =>
    rw [htask] at h
    simp only [taskStep, htask, show s.chatTemplateLoaded.sender = .waiting from h]
  | awaitingAgentWarm =>
    rw [htask] at h
    simp only [taskStep, htask, show s.agentWarm.sender = .waiting from h]
  | ended outcome => simp only [taskStep, htask]
  | _ =>
    rw [htask] at h
    cases h

theorem rank_cancelStep (arbiter : ContinuousBatchArbiter) (s : StartupState) :
    cancelStep s = s ∨ (cancelStep s).task.rank arbiter < s.task.rank arbiter := by
  unfold cancelStep
  split
  · rename_i hawaits
    refine .inr ?_
    cases htask : s.task <;> rw [htask] at hawaits <;>
      first
        | (simp only [StartupTask.rank]; omega)
        | cases hawaits
  · exact .inl rfl

theorem threadStep_task (arbiter : ContinuousBatchArbiter) (answers : StartupAnswers)
    (s : StartupState) :
    (threadStep arbiter answers s).task = s.task :=
  (threadStep_frame arbiter answers s).task

theorem cancelStep_thread (s : StartupState) : (cancelStep s).thread = s.thread := by
  unfold cancelStep
  split <;> rfl

/-- The steps of the two parties, and the cancellation. -/
def StartupInput.isMove : StartupInput → Bool
  | .other _ => false
  | _ => true

/-- A move is a step that changes something. -/
def Moves (arbiter : ContinuousBatchArbiter) (answers : StartupAnswers) (s : StartupState)
    (i : StartupInput) :
    Prop :=
  Allowed s i ∧ (i.isMove = true → step arbiter answers s i ≠ s)

instance (arbiter : ContinuousBatchArbiter) (answers : StartupAnswers) (s : StartupState)
    (i : StartupInput) :
    Decidable (Moves arbiter answers s i) :=
  inferInstanceAs (Decidable (_ ∧ (_ → _)))

theorem rank_step (h : StartupInv arbiter answers s) {i : StartupInput}
    (hi : Moves arbiter answers s i) :
    (i.isMove = true → (step arbiter answers s i).rank arbiter < s.rank arbiter) ∧
      (step arbiter answers s i).rank arbiter ≤ s.rank arbiter := by
  have hlt : i.isMove = true → (step arbiter answers s i).rank arbiter < s.rank arbiter := by
    intro hmove
    have hchanged := hi.2 hmove
    unfold StartupState.rank
    cases i with
    | other mutation => cases hmove
    | thread =>
      rcases rank_threadStep arbiter answers s with hidle | hless
      · exact absurd (threadStep_of_idle hidle) hchanged
      · have htask := threadStep_task arbiter answers s
        show (threadStep arbiter answers s).thread.rank arbiter +
          (threadStep arbiter answers s).task.rank arbiter < _
        rw [htask]
        omega
    | task =>
      rcases rank_taskStep h with hidle | hless
      · exact absurd (taskStep_of_idle hidle) hchanged
      · have hthread := (taskStep_frame arbiter s).thread
        show (taskStep arbiter s).thread.rank arbiter + (taskStep arbiter s).task.rank arbiter < _
        rw [hthread]
        omega
    | cancel =>
      rcases rank_cancelStep arbiter s with hsame | hless
      · exact absurd hsame hchanged
      · have hthread := cancelStep_thread s
        show (cancelStep s).thread.rank arbiter + (cancelStep s).task.rank arbiter < _
        rw [hthread]
        omega
  refine ⟨hlt, ?_⟩
  cases i with
  | other mutation => exact Nat.le_refl _
  | _ => exact Nat.le_of_lt (hlt rfl)

theorem ended_of_idle (h : StartupInv arbiter answers s) (hthread : s.ThreadIdle)
    (htask : s.TaskIdle) :
    ∃ outcome, s.task = .ended outcome := by
  have hdelivered : s.task.isCancelled = false → s.thread.undelivered = false := by
    intro hcancelled
    by_contra hu
    rw [h.thread.undelivered (Bool.not_eq_false _ ▸ hu)] at hcancelled
    cases hcancelled
  -- a sender that still waits belongs to a thread that has signals to send
  have hnever : ∀ {n : Nat} {α : Type} {sender : OneshotSender α}, n < 3 →
      SenderAt (decide (n < s.thread.signals)) s.thread.isExited sender → sender ≠ .waiting := by
    intro n α sender hn hsender hwaiting
    rw [hwaiting] at hsender
    rcases hthread with hexited | ⟨hrunning, -⟩
    · rw [hexited] at hsender
      cases hsender.2
    · rw [hrunning] at hsender
      exact absurd hn (of_decide_eq_false hsender.1)
  unfold StartupState.TaskIdle at htask
  cases hat : s.task with
  | awaitingModelLoaded =>
    rw [hat] at htask hdelivered
    exact absurd htask (hnever (by decide) (h.thread.modelLoaded (hdelivered rfl)))
  | awaitingChatTemplateLoaded =>
    rw [hat] at htask hdelivered
    exact absurd htask (hnever (by decide) (h.thread.chatTemplateLoaded (hdelivered rfl)))
  | awaitingAgentWarm =>
    rw [hat] at htask hdelivered
    exact absurd htask (hnever (by decide) (h.thread.agentWarm (hdelivered rfl)))
  | joining =>
    have hshutdown := h.shutdownSent
    rw [hat] at htask hshutdown
    rcases hthread with hexited | ⟨-, hnone⟩
    · rw [hexited] at htask
      cases htask
    · rw [hnone] at hshutdown
      cases hshutdown
  | ended outcome => exact ⟨outcome, rfl⟩
  | _ =>
    rw [hat] at htask
    cases htask

/-- **The startup comes to its end.**  Among any writes of the other tasks the two parties make
boundedly many moves, and when neither has a move left `spawn` has returned: nobody waits for ever,
and a cancelled startup is joined. -/
theorem startup_terminates (arbiter : ContinuousBatchArbiter) (answers : StartupAnswers)
    (status : SlotAggregatedStatus) (holder : Option ModelMetadata) (inputs : List StartupInput)
    (hrun : Along (step arbiter answers) (Moves arbiter answers) inputs (start status holder)) :
    (inputs.filter StartupInput.isMove).length ≤ 3 * arbiter.nSeqMax + 22 ∧
      ((∀ i ∈ [StartupInput.thread, .task],
          step arbiter answers (inputs.foldl (step arbiter answers) (start status holder)) i =
            inputs.foldl (step arbiter answers) (start status holder)) →
        ∃ outcome, (inputs.foldl (step arbiter answers) (start status holder)).task =
          .ended outcome) := by
  obtain ⟨hinv, hbound⟩ :=
    Along.boundsMoves (StartupInv arbiter answers) (StartupState.rank arbiter)
    (fun s i hs hi => ⟨hs.step hi.1, rank_step hs hi⟩) inputs
    (startupInv_start arbiter answers status holder) hrun
  refine ⟨?_, fun hstuck => ?_⟩
  · have hstart : (start status holder).rank arbiter = 3 * arbiter.nSeqMax + 22 := by
      simp only [StartupState.rank, start, StartupThread.rank, StartupTask.rank]
      omega
    exact (Nat.le_add_right _ _).trans (hbound.trans (Nat.le_of_eq hstart))
  · have hthread := hstuck .thread (List.mem_cons_self ..)
    have htask := hstuck .task (List.mem_cons_of_mem _ (List.mem_cons_self ..))
    refine ended_of_idle hinv ?_ ?_
    · refine (rank_threadStep arbiter answers _).resolve_right fun hless => ?_
      rw [show threadStep arbiter answers _ = _ from hthread] at hless
      exact absurd hless (Nat.lt_irrefl _)
    · refine (rank_taskStep hinv).resolve_right fun hless => ?_
      rw [show taskStep arbiter _ = _ from htask] at hless
      exact absurd hless (Nat.lt_irrefl _)

theorem startup_terminates_unreadable :
    (unreadableRun.filter StartupInput.isMove).length ≤ 25 ∧
      ((∀ i ∈ [StartupInput.thread, .task],
          step unreadableArbiter unreadableAnswers
            (unreadableRun.foldl (step unreadableArbiter unreadableAnswers)
              (start (.new 1) none)) i = unreadableRun.foldl
                (step unreadableArbiter unreadableAnswers) (start (.new 1) none)) →
        ∃ outcome, (unreadableRun.foldl (step unreadableArbiter unreadableAnswers)
          (start (.new 1) none)).task = .ended outcome) :=
  startup_terminates unreadableArbiter unreadableAnswers (.new 1) none unreadableRun
    (by decide +kernel)

end ModelStartup

end Paddler
