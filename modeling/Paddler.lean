import Paddler.Library.VecUpdate
import Paddler.Library.Run
import Paddler.Library.Json
import Paddler.Library.JsonReader
import Paddler.Library.JsonSchema
import Paddler.Library.MergeByIndex
import Paddler.Library.ContiguousPlan
import Paddler.Library.MaximalRuns
import Paddler.Library.StreamView
import Paddler.Library.Watch
import Paddler.Library.LineStream
import Paddler.Messaging.RequestParams
import Paddler.Messaging.GenerateEmbeddingBatchParams
import Paddler.Messaging.RawParameters
import Paddler.Messaging.AgentStatus
import Paddler.Agent.LlamaCpp
import Paddler.Agent.ToolCallPipeline
import Paddler.Agent.ActiveRequest
import Paddler.Agent.AdvanceGenerating
import Paddler.Agent.SamplingSites
import Paddler.Agent.AssembleBatch
import Paddler.Agent.BatchAssembly
import Paddler.Agent.Embedding
import Paddler.Agent.AcceptRequest
import Paddler.Agent.Scheduler
import Paddler.Agent.SequenceIds
import Paddler.Agent.KvCells
import Paddler.Agent.RequestRule
import Paddler.Agent.LogitsRows
import Paddler.Agent.Positions
import Paddler.Agent.Progress
import Paddler.Agent.EvictAndRetry
import Paddler.Agent.Channels
import Paddler.Agent.CompletionSweep
import Paddler.Agent.RequestAccounting
import Paddler.Agent.TokenStream
import Paddler.Agent.TokenBudget
import Paddler.Agent.ToolCallSegmentation
import Paddler.Agent.LlamaCppArbiterService
import Paddler.Agent.TerminalResults
import Paddler.Agent.MediaMarkers
import Paddler.Agent.SlotAccounting
import Paddler.Agent.EmbeddingDocuments
import Paddler.Agent.PlanEmbeddingBatches
import Paddler.Agent.EmbeddingStream
import Paddler.Agent.ApplicationState
import Paddler.Agent.SharedModelCache
import Paddler.Agent.SlotAggregatedStatus
import Paddler.Agent.TokenThroughputMeter
import Paddler.Agent.UrlModelSource
import Paddler.Balancer.AgentControllerPool
import Paddler.Balancer.SlotAccounting
import Paddler.Balancer.Dispatch
import Paddler.Balancer.PoolMembership
import Paddler.Balancer.BufferedRequestManager
import Paddler.Balancer.WakeUps
import Paddler.Balancer.RequestFromAgent
import Paddler.Balancer.SenderCollections
import Paddler.Balancer.RequestCancellation
import Paddler.Balancer.InferenceSocket
import Paddler.Balancer.ResponseIsolation
import Paddler.Balancer.RenumberedRequests
import Paddler.Balancer.RejectedRequests
import Paddler.Balancer.EmbeddingFanOut
import Paddler.Balancer.ReconciliationService
import Paddler.Agent.DesiredStateConversion
import Paddler.Agent.HuggingFaceModelSource
import Paddler.Agent.UrlBookkeeping
import Paddler.Balancer.DesiredStateAgreement
import Paddler.Balancer.ReconciliationProgress
import Paddler.Balancer.StateDatabase
import Paddler.Balancer.StoredState
import Paddler.Balancer.StoreNotifications
import Paddler.Balancer.QueuedResponses
import Paddler.Balancer.StatusSnapshots
import Paddler.Balancer.TokenGenerationMode
import Paddler.Compatibility.OutgoingMessages
import Paddler.Compatibility.Responses
import Paddler.Compatibility.ResponsesStreamStructure
import Paddler.Compatibility.ResponsesAgreement
import Paddler.Compatibility.ChatCompletions
import Paddler.Compatibility.ChatCompletionsAgreement
import Paddler.Compatibility.ChatCompletionsStream
import Paddler.Compatibility.ResponsesRequest
import Paddler.Compatibility.ToolSchemas
import Paddler.Compatibility.ResponsesNextTurn
import Paddler.Compatibility.ChatCompletionsNextTurn
import Paddler.Download.CompletionIntegrity
import Paddler.Download.PrefixInvariant
import Paddler.Client.Connection
import Paddler.Client.WireFormat
import Paddler.Client.PythonClient
import Paddler.Client.PythonConnection
import Paddler.Client.JavaScriptClient
import Paddler.Client.WireAgreement
import Paddler.Client.LineStreams
import Paddler.Agent.StartupOutcome
import Paddler.Agent.ManagementSocketClient
import Paddler.Compatibility.StrictChatCompletionSchema
import Paddler.Client.Pool
import Paddler.Client.HttpStreams
import Paddler.Gui.Services
