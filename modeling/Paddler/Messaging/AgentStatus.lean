import Mathlib.Data.Finset.Basic

/-!
# Status of an agent

Models of `agent_issue.rs`, `agent_state_application_status.rs`,
`slot_aggregated_status_snapshot.rs` and `register_agent_params.rs`: what an agent reports about
itself to the balancer.  A rate is an `f64` bit pattern, and a `BTreeSet` is a `Finset`.
-/

set_option autoImplicit false

namespace Paddler

/-- `agent_issue_params/model_path.rs`. -/
structure ModelPath where
  modelPath : String
  deriving DecidableEq, Repr

/-- `agent_issue_params/chat_template_does_not_compile_params.rs`. -/
structure ChatTemplateDoesNotCompileParams where
  error : String
  modelPath : ModelPath
  templateContent : String
  deriving DecidableEq, Repr

/-- `agent_issue_params/hugging_face_download_lock.rs`. -/
structure HuggingFaceDownloadLock where
  lockPath : String
  modelPath : ModelPath
  deriving DecidableEq, Repr

/-- `agent_issue_params/slot_cannot_start_params.rs`. -/
structure SlotCannotStartParams where
  error : String
  slotIndex : UInt32
  deriving DecidableEq, Repr

/-- `agent_issue.rs`. -/
inductive AgentIssue where
  | cacheCannotAcquireLock (modelPath : ModelPath)
  | cacheDirectoryIsNotWritable (modelPath : ModelPath)
  | cacheStorageIsFull (modelPath : ModelPath)
  | chatTemplateDoesNotCompile (params : ChatTemplateDoesNotCompileParams)
  | downloadInterrupted (modelPath : ModelPath)
  | downloadServerDeniedAccess (modelPath : ModelPath)
  | downloadServerErrored (modelPath : ModelPath)
  | downloadServerIsUnreachable (modelPath : ModelPath)
  | downloadServerRejectedRequest (modelPath : ModelPath)
  | downloadUrlIsMalformed (modelPath : ModelPath)
  | huggingFaceCannotAcquireLock (lock : HuggingFaceDownloadLock)
  | huggingFaceModelDoesNotExist (modelPath : ModelPath)
  | huggingFacePermissions (modelPath : ModelPath)
  | modelCacheIsCorrupted (modelPath : ModelPath)
  | modelCannotBeLoaded (modelPath : ModelPath)
  | modelDoesNotExistAtUrl (modelPath : ModelPath)
  | modelFileDoesNotExist (modelPath : ModelPath)
  | multimodalProjectionCannotBeLoaded (modelPath : ModelPath)
  | slotCannotStart (params : SlotCannotStartParams)
  | unableToFindChatTemplate (modelPath : ModelPath)
  deriving DecidableEq

/-- `agent_state_application_status.rs`. -/
inductive AgentStateApplicationStatus where
  | applied
  | attemptedAndNotAppliable
  | attemptedAndRetrying
  | fresh
  | stuck
  deriving DecidableEq, Repr

def AgentStateApplicationStatus.shouldTryToApply : AgentStateApplicationStatus → Bool
  | .applied | .attemptedAndNotAppliable => false
  | .attemptedAndRetrying | .fresh | .stuck => true

/-- The `#[repr(i32)]` value. -/
def AgentStateApplicationStatus.code : AgentStateApplicationStatus → Int
  | .applied => 0
  | .attemptedAndNotAppliable => 1
  | .attemptedAndRetrying => 2
  | .fresh => 3
  | .stuck => 4

/-- `slot_aggregated_status_snapshot.rs`. -/
structure SlotAggregatedStatusSnapshot where
  desiredSlotsTotal : Int
  downloadCurrent : UInt64
  downloadFilename : Option String
  downloadIndeterminate : Bool
  downloadTotal : UInt64
  issues : Finset AgentIssue
  modelPath : Option String
  slotsProcessing : Int
  slotsTotal : Int
  stateApplicationStatus : AgentStateApplicationStatus
  tokensPerSecond : UInt64
  usesChatTemplateOverride : Bool
  version : Int
  deriving DecidableEq

/-- `register_agent_params.rs`. -/
structure RegisterAgentParams where
  name : Option String
  slotAggregatedStatusSnapshot : SlotAggregatedStatusSnapshot
  deriving DecidableEq

end Paddler
