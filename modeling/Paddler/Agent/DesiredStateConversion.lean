import Paddler.Agent.UrlModelSource
import Paddler.Balancer.ReconciliationService

/-!
# From the desired state of an agent to its applicable state

Model of `convert_to_applicable_state` of the agent's `reconciliation_service.rs`, with
`agent_desired_state_converter.rs`, `resolve_desired_model.rs`, `agent_applicable_state_holder.rs`
and the sources of `model_source`.  The model and the multimodal projection are resolved one after
the other; what Hugging Face, the file system and the download do is given.  A URL is resolved by a
run of the process of `UrlModelSource`.

* `resolveDesiredModel_notConfigured` — only a model that is not desired is not configured.
* `convertToApplicableState_cases` — everything a conversion can do to the holder and to the flag.
* `conversion_allOrNothing_iff` — **the conversion is all or nothing if and only if** no resolution
  that it goes by was cancelled and somebody listens to the holder.
-/

set_option autoImplicit false

namespace Paddler

/-! ## Paths -/

/-- `PathBuf::from`: the text is kept, cut at its slashes. -/
def PathBuf.ofString (path : String) : PathBuf :=
  let components := path.toList.splitOn '/'
  ⟨components.dropLast, components.getLastD []⟩

/-- `path.display().to_string()`. -/
def PathBuf.display (self : PathBuf) : String :=
  String.ofList (List.intercalate ['/'] (self.parent ++ [self.fileName]))

namespace DesiredStateConversion

/-- The errors of a conversion, with the text of those that other crates make. -/
inductive ConversionError where
  | huggingFace (message : String)
  | io (message : String)
  | url (error : ResolveError)
  | localFileDoesNotExist (message : String)
  | sendFailed
  deriving DecidableEq, Repr

/-! ## Hugging Face -/

/-- `ApiError` of `hf_hub`, as far as it is told apart. -/
inductive ApiError where
  | lockAcquisition (lockPath : PathBuf)
  | requestError (status : Option Nat) (message : String)
  | other (message : String)
  deriving DecidableEq, Repr

/-- What `hf_hub` answers: whether its client can be built, the file in its cache, the calls of the
download to its progress, its result unless it was cancelled, and whether the wait for its lock was
cancelled. -/
structure HuggingFaceAnswers where
  build : Except String Unit
  cached : Option PathBuf
  progress : List StatusMutation
  download : Option (Except ApiError PathBuf)
  waitCancelled : Bool

/-- Calls of the status, one after the other. -/
def applyCalls (status : SlotAggregatedStatus) (calls : List StatusMutation) :
    SlotAggregatedStatus :=
  calls.foldl StatusMutation.apply status

/-- `HuggingFaceModelSource::resolve`. -/
def resolveHuggingFace (answers : HuggingFaceAnswers) (reference : HuggingFaceModelReference)
    (status : SlotAggregatedStatus) :
    Except ConversionError DesiredModelResolution × SlotAggregatedStatus :=
  let modelPath := reference.repoId ++ "/" ++ reference.revision ++ "/" ++ reference.filename
  if AgentIssue.huggingFaceModelDoesNotExist ⟨modelPath⟩ ∈ status.issues then
    (.error (.huggingFace ("Model '" ++ modelPath ++
      "' does not exist on Hugging Face. Not attempting to download it again.")), status)
  else
    match answers.build with
    | .error message => (.error (.huggingFace message), status)
    | .ok () =>
      match answers.cached with
      | some cachedPath => (.ok (.resolved cachedPath), status.resetDownload)
      | none =>
        let status := applyCalls status answers.progress
        match answers.download with
        | none => (.ok .cancelled, status)
        | some (.ok resolvedFilename) =>
          (.ok (.resolved resolvedFilename),
            status.registerFix (.huggingFaceDownloadedModel ⟨modelPath⟩))
        | some (.error (.lockAcquisition lockPath)) =>
          let status := status.registerIssue
            (.huggingFaceCannotAcquireLock ⟨lockPath.display, ⟨modelPath⟩⟩)
          if answers.waitCancelled then (.ok .cancelled, status)
          else
            (.error (.huggingFace ("Failed to acquire download lock '" ++ lockPath.display ++
              "'. Is more than one agent running on this machine?")), status)
        | some (.error (.requestError httpStatus message)) =>
          if httpStatus = some 404 then
            (.error (.huggingFace ("Model '" ++ modelPath ++ "' does not exist on Hugging Face.")),
              status.registerIssue (.huggingFaceModelDoesNotExist ⟨modelPath⟩))
          else if httpStatus = some 403 ∨ httpStatus = some 401 then
            (.error (.huggingFace ("You do not have enough permissions to download '" ++
              modelPath ++ "' from Hugging Face.")),
              status.registerIssue (.huggingFacePermissions ⟨modelPath⟩))
          else
            (.error (.huggingFace ("Failed to download model from Hugging Face: " ++ message)), status)
        | some (.error (.other message)) => (.error (.huggingFace message), status)

/-! ## URLs -/

/-- The runs of a process that resolves a URL, up to its result, with its calls of the status.
After the check of the URL there may be no cache directory. -/
inductive ResolveRun (source : ModelUrl) : ResolvePhase → List StatusMutation → Prop where
  | start : ResolveRun source .idle []
  | noCacheDir (message : String) : source.check = .ok () →
      ResolveRun source (.returned (.error (.cacheDir message))) []
  | step {phase : ResolvePhase} {calls : List StatusMutation} (lockIsFree : Bool) (files : Files)
      (input : ResolveInput) : ResolveRun source phase calls →
      (∀ result, phase ≠ .returned result) →
      ResolveRun source (resolveStep source lockIsFree files phase input).2.1
        (calls ++ (resolveStep source lockIsFree files phase input).2.2)

/-- What a process returned, at the end of one of its runs. -/
structure UrlResolution (source : ModelUrl) where
  result : Except ResolveError DesiredModelResolution
  calls : List StatusMutation
  ran : ResolveRun source (.returned result) calls

/-- The resolutions of a URL. -/
def IsUrlResolution (resolution : DesiredModelResolution) : Prop :=
  resolution = .cancelled ∨ ∃ path, resolution = .resolved path

theorem afterDownload_resolution {source : ModelUrl} {attempt : Attempt}
    {resolution : DesiredModelResolution}
    (h : (afterDownload source attempt).1 = .returned (.ok resolution)) :
    IsUrlResolution resolution := by
  unfold afterDownload at h
  split at h
  · split at h
    · cases h
      exact Or.inr ⟨_, rfl⟩
    · cases h
      exact Or.inl rfl
    · cases h
  · cases h
  · cases h

/-- A step returns a path or a cancellation, if it does not return an error. -/
theorem resolveStep_resolution {source : ModelUrl} {lockIsFree : Bool} {files : Files}
    {phase : ResolvePhase} {input : ResolveInput} {resolution : DesiredModelResolution}
    (hopen : ∀ result, phase ≠ .returned result)
    (h : (resolveStep source lockIsFree files phase input).2.1 = .returned (.ok resolution)) :
    IsUrlResolution resolution := by
  unfold resolveStep at h
  split at h
  · split at h <;> cases h
  · split at h <;> cases h
  · cases h
  · split at h <;> cases h
    exact Or.inr ⟨_, rfl⟩
  · cases h
  · cases h
  · cases h
  · split at h
    · split at h <;> cases h
    · cases h
  · exact afterDownload_resolution h
  · exact absurd h (hopen _)

theorem UrlResolution.isUrlResolution {source : ModelUrl} (self : UrlResolution source)
    {resolution : DesiredModelResolution} (h : self.result = .ok resolution) :
    IsUrlResolution resolution := by
  have hran := self.ran
  rw [h] at hran
  generalize hphase : ResolvePhase.returned (.ok resolution) = phase at hran
  generalize self.calls = calls at hran
  cases hran with
  | start => cases hphase
  | noCacheDir message => cases hphase
  | step lockIsFree files input hbefore hopen => exact resolveStep_resolution hopen hphase.symm

/-! ## Sources -/

/-- What the world answers while one model is resolved; `environment` is what all URLs have in
common. -/
structure ResolutionAnswers (environment : ModelUrl) where
  huggingFace : HuggingFaceAnswers
  tryExists : Except String Bool
  url : (reference : UrlModelReference) → UrlResolution { environment with url := reference.url }

variable {environment : ModelUrl} {π : Type}

/-- `LocalModelPath::resolve`. -/
def resolveLocal (tryExists : Except String Bool) (path : String) :
    Except ConversionError DesiredModelResolution :=
  match tryExists with
  | .error message => .error (.io message)
  | .ok true => .ok (.resolved (.ofString path))
  | .ok false => .ok (.localFileMissing (.ofString path))

def resolveDesiredModel (answers : ResolutionAnswers environment) (desired : AgentDesiredModel)
    (status : SlotAggregatedStatus) :
    Except ConversionError DesiredModelResolution × SlotAggregatedStatus :=
  match desired with
  | .huggingFace reference => resolveHuggingFace answers.huggingFace reference status
  | .localToAgent path => (resolveLocal answers.tryExists path, status)
  | .url reference =>
    ((answers.url reference).result.mapError .url, applyCalls status (answers.url reference).calls)
  | .none => (.ok .notConfigured, status)

/-! ## The converter -/

def resolveIntoOptionalPath (answers : ResolutionAnswers environment) (desired : AgentDesiredModel)
    (status : SlotAggregatedStatus) (onLocalMissing : ModelPath → AgentIssue) :
    Except ConversionError (Option PathBuf) × SlotAggregatedStatus :=
  match resolveDesiredModel answers desired status with
  | (.error err, status) => (.error err, status)
  | (.ok .cancelled, status) | (.ok .notConfigured, status) => (.ok none, status)
  | (.ok (.resolved path), status) => (.ok (some path), status)
  | (.ok (.localFileMissing path), status) =>
    (.error (.localFileDoesNotExist ("Local file does not exist: " ++ path.display)),
      status.registerIssue (onLocalMissing ⟨path.display⟩))

/-- `agent_applicable_state.rs`. -/
structure AgentApplicableState (π : Type) where
  chatTemplateOverride : Option ChatTemplate
  inferenceParameters : π
  multimodalProjectionPath : Option PathBuf
  modelPath : Option PathBuf
  deriving DecidableEq, Repr

/-- What the world answers during a conversion. -/
structure ConversionAnswers (environment : ModelUrl) where
  model : ResolutionAnswers environment
  multimodalProjection : ResolutionAnswers environment

/-- `to_applicable_state` of `AgentDesiredStateConverter`. -/
def toApplicableState (answers : ConversionAnswers environment) (desiredState : AgentDesiredState π)
    (status : SlotAggregatedStatus) :
    Except ConversionError (AgentApplicableState π) × SlotAggregatedStatus :=
  match resolveIntoOptionalPath answers.model desiredState.model status .modelFileDoesNotExist with
  | (.error err, status) => (.error err, status)
  | (.ok modelPath, status) =>
    match resolveIntoOptionalPath answers.multimodalProjection
      desiredState.multimodalProjection status
        .multimodalProjectionCannotBeLoaded with
    | (.error err, status) => (.error err, status)
    | (.ok multimodalProjectionPath, status) =>
      (.ok {
        chatTemplateOverride := desiredState.chatTemplateOverride
        inferenceParameters := desiredState.inferenceParameters
        multimodalProjectionPath := multimodalProjectionPath
        modelPath := modelPath }, status)

/-! ## The holder -/

/-- A `watch::Sender`, with the number of its receivers. -/
structure ChangeNotifier (α : Type) where
  value : α
  version : Nat
  receivers : Nat
  deriving DecidableEq, Repr

/-- `watch::Sender::send`: without a receiver it fails and keeps its value. -/
def ChangeNotifier.send {α : Type} (self : ChangeNotifier α) (value : α) :
    Bool × ChangeNotifier α :=
  if self.receivers = 0 then (false, self)
  else (true, { self with value := value, version := self.version + 1 })

/-- `agent_applicable_state_holder.rs`. -/
structure AgentApplicableStateHolder (π : Type) where
  agentApplicableState : Option (AgentApplicableState π)
  changeNotifier : ChangeNotifier (Option (AgentApplicableState π))
  deriving DecidableEq, Repr

/-- `set_agent_applicable_state`: the state is stored before the notifier may fail. -/
def AgentApplicableStateHolder.setAgentApplicableState (self : AgentApplicableStateHolder π)
    (agentApplicableState : Option (AgentApplicableState π)) :
    Bool × AgentApplicableStateHolder π :=
  let (sent, changeNotifier) := self.changeNotifier.send agentApplicableState
  (sent, ⟨agentApplicableState, changeNotifier⟩)

/-! ## The conversion -/

/-- What a conversion changes: the status of the agent, the holder, and
`is_converted_to_applicable_state`. -/
structure Reconciliation (π : Type) where
  slotAggregatedStatus : SlotAggregatedStatus
  agentApplicableStateHolder : AgentApplicableStateHolder π
  isConvertedToApplicableState : Bool

/-- The end of `convert_to_applicable_state`. -/
def publish (self : Reconciliation π) (applicableState : Option (AgentApplicableState π)) :
    Except ConversionError Unit × Reconciliation π :=
  let usesChatTemplateOverride := applicableState.any (·.chatTemplateOverride.isSome)
  let slotAggregatedStatus := (self.slotAggregatedStatus.setUsesChatTemplateOverride
    usesChatTemplateOverride).registerFix .modelStateIsReconciled
  match self.agentApplicableStateHolder.setAgentApplicableState applicableState with
  | (false, holder) =>
    (.error .sendFailed, ⟨slotAggregatedStatus, holder, self.isConvertedToApplicableState⟩)
  | (true, holder) => (.ok (), ⟨slotAggregatedStatus, holder, true⟩)

def convertToApplicableState (answers : ConversionAnswers environment)
    (agentDesiredState : Option (AgentDesiredState π)) (self : Reconciliation π) :
    Except ConversionError Unit × Reconciliation π :=
  match agentDesiredState with
  | none => publish self none
  | some agentDesiredState =>
    match toApplicableState answers agentDesiredState self.slotAggregatedStatus with
    | (.error err, status) => (.error err, { self with slotAggregatedStatus := status })
    | (.ok applicableState, status) =>
      publish { self with slotAggregatedStatus := status } (some applicableState)

/-! ## Resolutions -/

/-- Hugging Face returns a path or a cancellation, if it does not return an error. -/
theorem resolveHuggingFace_resolution {answers : HuggingFaceAnswers}
    {reference : HuggingFaceModelReference} {status : SlotAggregatedStatus}
    {resolution : DesiredModelResolution}
    (h : (resolveHuggingFace answers reference status).1 = .ok resolution) :
    IsUrlResolution resolution := by
  unfold resolveHuggingFace at h
  dsimp only at h
  split at h
  · cases h
  · split at h
    · cases h
    · split at h
      · cases h
        exact Or.inr ⟨_, rfl⟩
      · split at h
        · cases h
          exact Or.inl rfl
        · cases h
          exact Or.inr ⟨_, rfl⟩
        · split at h
          · cases h
            exact Or.inl rfl
          · cases h
        · split at h
          · cases h
          · split at h <;> cases h
        · cases h

/-- **Only a model that is not desired is not configured.** -/
theorem resolveDesiredModel_notConfigured (answers : ResolutionAnswers environment)
    (desired : AgentDesiredModel) (status : SlotAggregatedStatus) :
    (resolveDesiredModel answers desired status).1 = .ok .notConfigured ↔ desired = .none := by
  constructor
  · intro h
    cases desired with
    | none => rfl
    | huggingFace reference =>
      rcases resolveHuggingFace_resolution h with hcancelled | ⟨path, hpath⟩
      · cases hcancelled
      · cases hpath
    | localToAgent path =>
      unfold resolveDesiredModel resolveLocal at h
      dsimp only at h
      split at h <;> cases h
    | url reference =>
      have hmapped : (answers.url reference).result.mapError ConversionError.url =
          .ok .notConfigured := h
      have hresult : (answers.url reference).result = .ok .notConfigured := by
        cases hresult : (answers.url reference).result with
        | error error =>
          rw [hresult] at hmapped
          cases hmapped
        | ok resolution =>
          rw [hresult] at hmapped
          cases hmapped
          rfl
      rcases (answers.url reference).isUrlResolution hresult with hcancelled | ⟨path, hpath⟩
      · cases hcancelled
      · cases hpath
  · intro h
    rw [h]
    rfl

/-- The path of a resolution. -/
def resolvedPath : Except ConversionError DesiredModelResolution → Option PathBuf
  | .ok (.resolved path) => some path
  | _ => none

/-- The conversion goes on after such a resolution: it is no error, and no file is missing. -/
def GoesOn (resolution : Except ConversionError DesiredModelResolution) : Prop :=
  ∃ outcome, resolution = .ok outcome ∧ ∀ path, outcome ≠ .localFileMissing path

/-- What the resolution of the model comes back with. -/
def modelResolution (answers : ConversionAnswers environment) (desiredState : AgentDesiredState π)
    (status : SlotAggregatedStatus) : Except ConversionError DesiredModelResolution :=
  (resolveDesiredModel answers.model desiredState.model status).1

/-- What the resolution of the multimodal projection comes back with, after that of the model. -/
def multimodalProjectionResolution (answers : ConversionAnswers environment)
    (desiredState : AgentDesiredState π) (status : SlotAggregatedStatus) :
    Except ConversionError DesiredModelResolution :=
  (resolveDesiredModel answers.multimodalProjection desiredState.multimodalProjection
    (resolveIntoOptionalPath answers.model desiredState.model status .modelFileDoesNotExist).2).1

/-- A resolution after which the conversion goes on gives its path, and the others an error. -/
theorem resolveIntoOptionalPath_cases (answers : ResolutionAnswers environment)
    (desired : AgentDesiredModel) (status : SlotAggregatedStatus)
    (onLocalMissing : ModelPath → AgentIssue) :
    (GoesOn (resolveDesiredModel answers desired status).1 ∧
        (resolveIntoOptionalPath answers desired status onLocalMissing).1 =
          .ok (resolvedPath (resolveDesiredModel answers desired status).1)) ∨
      (¬ GoesOn (resolveDesiredModel answers desired status).1 ∧
        ∃ err, (resolveIntoOptionalPath answers desired status onLocalMissing).1 = .error err) := by
  unfold resolveIntoOptionalPath
  cases hresolve : resolveDesiredModel answers desired status with
  | mk result status' =>
    cases result with
    | error err => exact Or.inr ⟨fun ⟨outcome, houtcome, _⟩ => (by cases houtcome), err, rfl⟩
    | ok outcome =>
      cases outcome with
      | cancelled => exact Or.inl ⟨⟨_, rfl, by simp⟩, rfl⟩
      | notConfigured => exact Or.inl ⟨⟨_, rfl, by simp⟩, rfl⟩
      | resolved path => exact Or.inl ⟨⟨_, rfl, by simp⟩, rfl⟩
      | localFileMissing path =>
        refine Or.inr ⟨?_, _, rfl⟩
        rintro ⟨outcome, houtcome, hfound⟩
        cases houtcome
        exact hfound path rfl

/-- The applicable state of two resolutions. -/
def stateOf (desiredState : AgentDesiredState π)
    (model multimodalProjection : Except ConversionError DesiredModelResolution) :
    AgentApplicableState π :=
  { chatTemplateOverride := desiredState.chatTemplateOverride
    inferenceParameters := desiredState.inferenceParameters
    multimodalProjectionPath := resolvedPath multimodalProjection
    modelPath := resolvedPath model }

/-- Both resolutions let the conversion go on and it has their paths, or it has an error. -/
theorem toApplicableState_cases (answers : ConversionAnswers environment)
    (desiredState : AgentDesiredState π) (status : SlotAggregatedStatus) :
    ((GoesOn (modelResolution answers desiredState status) ∧
          GoesOn (multimodalProjectionResolution answers desiredState status)) ∧
        (toApplicableState answers desiredState status).1 =
          .ok (stateOf desiredState (modelResolution answers desiredState status)
            (multimodalProjectionResolution answers desiredState status))) ∨
      (¬ (GoesOn (modelResolution answers desiredState status) ∧
          GoesOn (multimodalProjectionResolution answers desiredState status)) ∧
        ∃ err, (toApplicableState answers desiredState status).1 = .error err) := by
  have hmodel := resolveIntoOptionalPath_cases answers.model desiredState.model status
    .modelFileDoesNotExist
  unfold modelResolution multimodalProjectionResolution toApplicableState
  cases hfirst : resolveIntoOptionalPath answers.model desiredState.model status
    .modelFileDoesNotExist with
  | mk modelPath status' =>
  rw [hfirst] at hmodel
  rcases hmodel with ⟨hgoes, rfl⟩ | ⟨hgoes, err, rfl⟩
  · have hprojection := resolveIntoOptionalPath_cases answers.multimodalProjection
      desiredState.multimodalProjection status' .multimodalProjectionCannotBeLoaded
    dsimp only
    cases hsecond : resolveIntoOptionalPath answers.multimodalProjection
      desiredState.multimodalProjection
        status' .multimodalProjectionCannotBeLoaded with
    | mk projectionPath status'' =>
    rw [hsecond] at hprojection
    rcases hprojection with ⟨hgoes', rfl⟩ | ⟨hgoes', err, rfl⟩
    · exact Or.inl ⟨⟨hgoes, hgoes'⟩, rfl⟩
    · exact Or.inr ⟨fun h => hgoes' h.2, err, rfl⟩
  · exact Or.inr ⟨fun h => hgoes h.1, err, rfl⟩

theorem convertToApplicableState_some (answers : ConversionAnswers environment)
    (desiredState : AgentDesiredState π) (self : Reconciliation π) :
    convertToApplicableState answers (some desiredState) self =
      match toApplicableState answers desiredState self.slotAggregatedStatus with
      | (.error err, status) => (.error err, { self with slotAggregatedStatus := status })
      | (.ok applicableState, status) =>
        publish { self with slotAggregatedStatus := status } (some applicableState) := rfl

theorem setAgentApplicableState_unheard {holder : AgentApplicableStateHolder π}
    {state : Option (AgentApplicableState π)} (h : holder.changeNotifier.receivers = 0) :
    (holder.setAgentApplicableState state).2 = ⟨state, holder.changeNotifier⟩ := by
  unfold AgentApplicableStateHolder.setAgentApplicableState ChangeNotifier.send
  rw [if_pos h]

theorem setAgentApplicableState_heard {holder : AgentApplicableStateHolder π}
    {state : Option (AgentApplicableState π)} (h : holder.changeNotifier.receivers ≠ 0) :
    (holder.setAgentApplicableState state).2 =
      ⟨state, ⟨state, holder.changeNotifier.version + 1, holder.changeNotifier.receivers⟩⟩ := by
  unfold AgentApplicableStateHolder.setAgentApplicableState ChangeNotifier.send
  rw [if_neg h]

/-- **Everything a conversion can do**: it fails before it touches the holder, or it stores the
state of the two resolutions, and then it fails if nobody listens. -/
theorem convertToApplicableState_cases (answers : ConversionAnswers environment)
    (desiredState : AgentDesiredState π) (self : Reconciliation π) :
    let model := modelResolution answers desiredState self.slotAggregatedStatus
    let multimodalProjection :=
      multimodalProjectionResolution answers desiredState self.slotAggregatedStatus
    let after := (convertToApplicableState answers (some desiredState) self).2
    (¬ (GoesOn model ∧ GoesOn multimodalProjection) ∧
        after.agentApplicableStateHolder = self.agentApplicableStateHolder ∧
        after.isConvertedToApplicableState = self.isConvertedToApplicableState) ∨
      ((GoesOn model ∧ GoesOn multimodalProjection) ∧
        after.agentApplicableStateHolder = (self.agentApplicableStateHolder.setAgentApplicableState
          (some (stateOf desiredState model multimodalProjection))).2 ∧
        after.isConvertedToApplicableState =
          if self.agentApplicableStateHolder.changeNotifier.receivers = 0 then
            self.isConvertedToApplicableState
          else true) := by
  intro model multimodalProjection after
  have hcases := toApplicableState_cases answers desiredState self.slotAggregatedStatus
  have hafter : after = (convertToApplicableState answers (some desiredState) self).2 := rfl
  rw [convertToApplicableState_some] at hafter
  cases hconverted : toApplicableState answers desiredState self.slotAggregatedStatus with
  | mk result status =>
  rw [hconverted] at hcases hafter
  rcases hcases with ⟨hgoes, rfl⟩ | ⟨hgoes, err, rfl⟩
  · refine Or.inr ⟨hgoes, ?_⟩
    dsimp only at hafter
    rw [hafter]
    unfold publish AgentApplicableStateHolder.setAgentApplicableState ChangeNotifier.send
    dsimp only
    by_cases hreceivers : self.agentApplicableStateHolder.changeNotifier.receivers = 0
    · rw [if_pos hreceivers, if_pos hreceivers]
      exact ⟨rfl, rfl⟩
    · rw [if_neg hreceivers, if_neg hreceivers]
      exact ⟨rfl, rfl⟩
  · refine Or.inl ⟨hgoes, ?_⟩
    rw [hafter]
    exact ⟨rfl, rfl⟩

/-! ## All or nothing -/

/-- The path is the one that was resolved, and there is none only if no model is desired. -/
def IsResolvedPath (desired : AgentDesiredModel)
    (resolution : Except ConversionError DesiredModelResolution) (path : Option PathBuf) : Prop :=
  (desired = .none ∧ path = none) ∨ ∃ resolved, resolution = .ok (.resolved resolved) ∧
    path = some resolved

/-- The conversion publishes the desired state with the resolved paths, and sets the flag. -/
structure Publishes (answers : ConversionAnswers environment) (desiredState : AgentDesiredState π)
    (before after : Reconciliation π) (state : AgentApplicableState π) : Prop where
  stored : after.agentApplicableStateHolder.agentApplicableState = some state
  sent : after.agentApplicableStateHolder.changeNotifier.value = some state
  version : after.agentApplicableStateHolder.changeNotifier.version =
    before.agentApplicableStateHolder.changeNotifier.version + 1
  converted : after.isConvertedToApplicableState = true
  chatTemplateOverride : state.chatTemplateOverride = desiredState.chatTemplateOverride
  inferenceParameters : state.inferenceParameters = desiredState.inferenceParameters
  modelPath : IsResolvedPath desiredState.model
    (modelResolution answers desiredState before.slotAggregatedStatus) state.modelPath
  multimodalProjectionPath : IsResolvedPath desiredState.multimodalProjection
    (multimodalProjectionResolution answers desiredState before.slotAggregatedStatus)
    state.multimodalProjectionPath

/-- A conversion publishes the state, or leaves the holder and the flag as they were; and it
publishes no state without a model after a cancelled resolution. -/
structure AllOrNothing (answers : ConversionAnswers environment)
    (desiredState : AgentDesiredState π) (before after : Reconciliation π) : Prop where
  publishes_or_keeps : (∃ state, Publishes answers desiredState before after state) ∨
    (after.agentApplicableStateHolder = before.agentApplicableStateHolder ∧
      after.isConvertedToApplicableState = before.isConvertedToApplicableState)
  cancelled : modelResolution answers desiredState before.slotAggregatedStatus = .ok .cancelled ∨
      multimodalProjectionResolution answers desiredState before.slotAggregatedStatus =
        .ok .cancelled →
    after.agentApplicableStateHolder ≠ before.agentApplicableStateHolder →
    ∀ state, after.agentApplicableStateHolder.agentApplicableState = some state →
    state.modelPath ≠ none

/-- The path of a resolution after which the conversion goes on is as it should be if it was not
cancelled. -/
theorem isResolvedPath_iff {answers : ResolutionAnswers environment} {desired : AgentDesiredModel}
    {status : SlotAggregatedStatus}
    (hgoes : GoesOn (resolveDesiredModel answers desired status).1) :
    IsResolvedPath desired (resolveDesiredModel answers desired status).1
        (resolvedPath (resolveDesiredModel answers desired status).1) ↔
      (resolveDesiredModel answers desired status).1 ≠ .ok .cancelled := by
  have hnone := resolveDesiredModel_notConfigured answers desired status
  obtain ⟨outcome, houtcome, hfound⟩ := hgoes
  rw [houtcome] at hnone ⊢
  unfold IsResolvedPath
  cases outcome with
  | cancelled =>
    have hdesired : desired ≠ .none := fun h => by cases hnone.mpr h
    simp [hdesired]
  | notConfigured => simp [hnone.mp rfl, resolvedPath]
  | resolved path => simp [resolvedPath]
  | localFileMissing path => exact absurd rfl (hfound path)

/-- Where nobody listens the state is stored and the flag stays: that is nothing only if it was
stored before. -/
theorem allOrNothing_unheard {answers : ConversionAnswers environment}
    {desiredState : AgentDesiredState π} {before after : Reconciliation π}
    {state : AgentApplicableState π} (hstored : after.agentApplicableStateHolder =
      ⟨some state, before.agentApplicableStateHolder.changeNotifier⟩)
    (hflag : after.isConvertedToApplicableState = before.isConvertedToApplicableState) :
    AllOrNothing answers desiredState before after ↔
      before.agentApplicableStateHolder.agentApplicableState = some state := by
  constructor
  · intro hlaw
    rcases hlaw.publishes_or_keeps with ⟨published, hpublishes⟩ | ⟨hkept, -⟩
    · have hversion := hpublishes.version
      rw [hstored] at hversion
      exact absurd hversion (Nat.ne_of_lt (Nat.lt_succ_self _))
    · rw [hstored] at hkept
      exact (congrArg AgentApplicableStateHolder.agentApplicableState hkept).symm
  · intro hstate
    have hkept : after.agentApplicableStateHolder = before.agentApplicableStateHolder := by
      rw [hstored, ← hstate]
    exact ⟨Or.inr ⟨hkept, hflag⟩, fun _ hchanged => absurd hkept hchanged⟩

/-- Where somebody listens the state is published: that is all only if its paths were not
cancelled. -/
theorem allOrNothing_heard {answers : ConversionAnswers environment}
    {desiredState : AgentDesiredState π} {before after : Reconciliation π} :
    let model := modelResolution answers desiredState before.slotAggregatedStatus
    let multimodalProjection :=
      multimodalProjectionResolution answers desiredState before.slotAggregatedStatus
    let state := stateOf desiredState model multimodalProjection
    let notifier := before.agentApplicableStateHolder.changeNotifier
    GoesOn model → GoesOn multimodalProjection →
    after.agentApplicableStateHolder = ⟨some state,
      ⟨some state, notifier.version + 1, notifier.receivers⟩⟩ →
    after.isConvertedToApplicableState = true →
    (AllOrNothing answers desiredState before after ↔
      model ≠ .ok .cancelled ∧ multimodalProjection ≠ .ok .cancelled) := by
  intro model multimodalProjection state notifier hmodel hprojection hstored hflag
  have hmodelPath : IsResolvedPath desiredState.model model (resolvedPath model) ↔
      model ≠ .ok .cancelled :=
    isResolvedPath_iff hmodel
  have hprojectionPath : IsResolvedPath desiredState.multimodalProjection multimodalProjection
      (resolvedPath multimodalProjection) ↔ multimodalProjection ≠ .ok .cancelled :=
    isResolvedPath_iff hprojection
  constructor
  · intro hlaw
    rcases hlaw.publishes_or_keeps with ⟨published, hpublishes⟩ | ⟨hkept, -⟩
    · have hstate := hpublishes.stored
      rw [hstored] at hstate
      cases hstate
      exact ⟨hmodelPath.mp hpublishes.modelPath,
        hprojectionPath.mp hpublishes.multimodalProjectionPath⟩
    · have hversion := congrArg (·.changeNotifier.version) hkept
      rw [hstored] at hversion
      exact absurd hversion (Nat.ne_of_gt (Nat.lt_succ_self _))
  · rintro ⟨hmodel', hprojection'⟩
    refine ⟨Or.inl ⟨state, ?_⟩, fun hcancelled => ?_⟩
    · exact ⟨by rw [hstored], by rw [hstored], by rw [hstored], hflag, rfl, rfl,
        hmodelPath.mpr hmodel', hprojectionPath.mpr hprojection'⟩
    · exact absurd hcancelled (not_or.mpr ⟨hmodel', hprojection'⟩)

/-- **The conversion is all or nothing if and only if** neither of two resolutions that it goes by
was cancelled and somebody listens to the holder, or nobody listens and the holder has that state
already. -/
theorem conversion_allOrNothing_iff (answers : ConversionAnswers environment)
    (desiredState : AgentDesiredState π) (before : Reconciliation π) :
    let model := modelResolution answers desiredState before.slotAggregatedStatus
    let multimodalProjection :=
      multimodalProjectionResolution answers desiredState before.slotAggregatedStatus
    let holder := before.agentApplicableStateHolder
    AllOrNothing answers desiredState before
      (convertToApplicableState answers (some desiredState) before).2 ↔
      (GoesOn model → GoesOn multimodalProjection →
        (model ≠ .ok .cancelled ∧ multimodalProjection ≠ .ok .cancelled ∧
            holder.changeNotifier.receivers ≠ 0) ∨
          (holder.changeNotifier.receivers = 0 ∧
            holder.agentApplicableState =
              some (stateOf desiredState model multimodalProjection))) := by
  intro model multimodalProjection holder
  rcases convertToApplicableState_cases answers desiredState before with
    ⟨hgoes, hholder, hflag⟩ | ⟨⟨hmodel, hprojection⟩, hholder, hflag⟩
  · refine ⟨fun _ hmodel hprojection => absurd ⟨hmodel, hprojection⟩ hgoes,
      fun _ => ⟨Or.inr ⟨hholder, hflag⟩, ?_⟩⟩
    exact fun _ hchanged => absurd hholder hchanged
  · by_cases hreceivers : holder.changeNotifier.receivers = 0
    · rw [setAgentApplicableState_unheard hreceivers] at hholder
      rw [if_pos hreceivers] at hflag
      rw [allOrNothing_unheard hholder hflag]
      constructor
      · exact fun hstate _ _ => Or.inr ⟨hreceivers, hstate⟩
      · exact fun hcondition =>
          ((hcondition hmodel hprojection).resolve_left fun h => h.2.2 hreceivers).2
    · rw [setAgentApplicableState_heard hreceivers] at hholder
      rw [if_neg hreceivers] at hflag
      rw [allOrNothing_heard hmodel hprojection hholder hflag]
      constructor
      · exact fun hpaths _ _ => Or.inl ⟨hpaths.1, hpaths.2, hreceivers⟩
      · intro hcondition
        obtain ⟨hmodel', hprojection', -⟩ := (hcondition hmodel hprojection).resolve_right
          fun h => hreceivers h.1
        exact ⟨hmodel', hprojection'⟩

/-! ## A cancelled download -/

/-- The download from Hugging Face is cancelled; no URL can be parsed. -/
def cancelledAnswers :
    ResolutionAnswers ⟨fun _ => .error "relative URL without a base", fun _ => [], [], ""⟩ where
  huggingFace := ⟨.ok (), none, [], none, false⟩
  tryExists := .ok false
  url reference :=
    { result := .error (.invalidUrl reference.url "relative URL without a base")
      calls := [.resetDownload, .registerIssue (.downloadUrlIsMalformed ⟨reference.url⟩)]
      ran := .step true (fun _ => none) .resolve .start (by simp) }

/-- A model from Hugging Face and no projection. -/
def huggingFaceModel : AgentDesiredState Unit :=
  ⟨none, (), .huggingFace ⟨"model.gguf", "owner/repo", "main"⟩, .none⟩

/-- An agent whose holder has the state of a loaded model, and a listener. -/
def loadedModel : Reconciliation Unit :=
  ⟨.new 1, ⟨some ⟨none, (), none, some (.ofString "/models/old.gguf")⟩,
    ⟨some ⟨none, (), none, some (.ofString "/models/old.gguf")⟩, 1, 1⟩⟩, false⟩

/-- The loaded model is replaced by a state without one, and the flag says that it is converted. -/
theorem conversion_publishes_cancelled :
    let after := (convertToApplicableState ⟨cancelledAnswers, cancelledAnswers⟩
      (some huggingFaceModel) loadedModel).2
    ¬ AllOrNothing ⟨cancelledAnswers, cancelledAnswers⟩ huggingFaceModel loadedModel after ∧
      after.agentApplicableStateHolder.agentApplicableState = some ⟨none, (), none, none⟩ ∧
      after.isConvertedToApplicableState = true := by
  intro after
  have hcancelled : modelResolution ⟨cancelledAnswers, cancelledAnswers⟩ huggingFaceModel
      loadedModel.slotAggregatedStatus = .ok .cancelled := rfl
  have hstored : after.agentApplicableStateHolder = ⟨some ⟨none, (), none, none⟩,
      ⟨some ⟨none, (), none, none⟩, 2, 1⟩⟩ := rfl
  refine ⟨fun hlaw => ?_, rfl, rfl⟩
  have hchanged : after.agentApplicableStateHolder ≠ loadedModel.agentApplicableStateHolder := by
    rw [hstored]
    decide
  exact hlaw.cancelled (Or.inl hcancelled) hchanged ⟨none, (), none, none⟩ rfl rfl

end DesiredStateConversion

end Paddler
