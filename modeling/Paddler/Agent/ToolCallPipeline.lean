import Paddler.Messaging.RequestParams

/-!
# Tool-call pipeline

Model of `tool_call_pipeline.rs`, `tool_call_buffer.rs`, `tool_call_event.rs` and
`tool_call_validator.rs`: text of the tool-call section is buffered, and when the section ends the
buffer is parsed by the model's own parser and every parsed call is validated against the schema
of its tool.

`ToolCallApi` collects the third-party functions on that path (`serde_json`, `jsonschema`, the
parser of llama.cpp and Rust's `{:?}` for strings).
-/

set_option autoImplicit false

namespace Paddler

/-- `ChatMessageParseOutcome`, with the fields the pipeline reads. -/
inductive ChatMessageParseOutcome where
  | recognized (toolCalls : List ParsedToolCall)
  | unrecognized (text ffiErrorMessage : String)
  deriving DecidableEq, Repr

/-- Third-party functions used to build and to run the pipeline. -/
structure ToolCallApi where
  schemaToValue : String → Except String String
  validatorFor : String → Except String Unit
  iterErrors : String → String → List String
  toolToValue : Tool → Except String String
  toolsToString : List String → Except String String
  parseChatMessage : String → String → Except String ChatMessageParseOutcome
  debugStr : String → String

/-! ## Validator -/

/-- `ValidationStrategy`; a compiled schema is kept as the schema it was compiled from. -/
inductive ValidationStrategy where
  | jsonObjectOnly
  | schema (schema : String)
  deriving DecidableEq, Repr

/-- `ToolCallValidator`: the map of strategies, latest insertion first. -/
structure ToolCallValidator where
  strategies : List (String × ValidationStrategy)
  deriving DecidableEq, Repr

/-- `validator_build_error.rs`. -/
inductive ValidatorBuildError where
  | serializationFailed (toolName message : String)
  | invalidSchema (toolName message : String)
  deriving DecidableEq, Repr

/-- The strategy of one tool in `ToolCallValidator::from_tools`. -/
def strategyFor (api : ToolCallApi) (tool : Tool) : Except ValidatorBuildError ValidationStrategy :=
  match tool.parameters with
  | .empty => .ok .jsonObjectOnly
  | .schema schema =>
    match api.schemaToValue schema with
    | .error message => .error (.serializationFailed tool.name message)
    | .ok value =>
      match api.validatorFor value with
      | .error message => .error (.invalidSchema tool.name message)
      | .ok () => .ok (.schema value)

/-- The loop of `ToolCallValidator::from_tools`. -/
def strategiesFromTools (api : ToolCallApi) :
    List Tool → List (String × ValidationStrategy) →
      Except ValidatorBuildError (List (String × ValidationStrategy))
  | [], strategies => .ok strategies
  | tool :: tools, strategies =>
    match strategyFor api tool with
    | .error err => .error err
    | .ok strategy => strategiesFromTools api tools ((tool.name, strategy) :: strategies)

def ToolCallValidator.fromTools (api : ToolCallApi) (tools : List Tool) :
    Except ValidatorBuildError ToolCallValidator :=
  (strategiesFromTools api tools []).map ToolCallValidator.mk

/-- `tool_call_validation_error.rs`. -/
inductive ToolCallValidationError where
  | unknownToolName (name : String)
  | schemaMismatch (toolName message : String)
  deriving DecidableEq, Repr

/-- `Display` of `ToolCallValidationError`. -/
def ToolCallValidationError.display (api : ToolCallApi) : ToolCallValidationError → String
  | .unknownToolName name => "unknown tool name " ++ api.debugStr name
  | .schemaMismatch toolName message =>
    "arguments for tool " ++ api.debugStr toolName ++ " failed schema check: " ++ message

def ToolCallValidator.validate (api : ToolCallApi) (self : ToolCallValidator)
    (parsed : ParsedToolCall) : Except ToolCallValidationError Unit :=
  match self.strategies.lookup parsed.name with
  | none => .error (.unknownToolName parsed.name)
  | some strategy =>
    match parsed.arguments with
    | .invalidJson _ => .ok ()
    | .validJson value =>
      match strategy with
      | .jsonObjectOnly => .ok ()
      | .schema schema =>
        match api.iterErrors schema value with
        | [] => .ok ()
        | message :: _ => .error (.schemaMismatch parsed.name message)

/-! ## Pipeline -/

/-- `tool_call_event.rs`; a `ToolCallPipelineError::Bindings` is kept as its message. -/
inductive ToolCallEvent where
  | pending
  | resolved (toolCalls : List ParsedToolCall)
  | parseFailed (message : String)
  | validationFailed (errors : List ToolCallValidationError)
  | unrecognizedFormat (raw : RawToolCallTokens)
  deriving DecidableEq, Repr

def ToolCallEvent.intoGeneratedTokenResult (api : ToolCallApi) :
    ToolCallEvent → Option GeneratedTokenResult
  | .resolved parsed => some (.toolCallParsed parsed)
  | .parseFailed message => some (.toolCallParseFailed ("bindings parse failed: " ++ message))
  | .validationFailed errors => some (.toolCallValidationFailed (errors.map (·.display api)))
  | .unrecognizedFormat raw => some (.unrecognizedToolCallFormat raw)
  | .pending => none

/-- `ToolCallPipeline`: the buffer, the tools as JSON text and the validator. -/
structure ToolCallPipeline where
  buffer : String
  toolsJson : String
  validator : ToolCallValidator
  deriving DecidableEq, Repr

namespace ToolCallPipeline

def feed (self : ToolCallPipeline) (fragment : String) : ToolCallPipeline :=
  { self with buffer := self.buffer ++ fragment }

def validateResolved (api : ToolCallApi) (self : ToolCallPipeline)
    (toolCalls : List ParsedToolCall) : ToolCallEvent :=
  match toolCalls.filterMap (fun call =>
      match self.validator.validate api call with
      | .error err => some err
      | .ok () => none) with
  | [] => .resolved toolCalls
  | errors => .validationFailed errors

/-- `ToolCallPipeline::finalize`: take the buffer, parse it and validate the calls. -/
def finalize (api : ToolCallApi) (self : ToolCallPipeline) : ToolCallEvent × ToolCallPipeline :=
  let taken := { self with buffer := "" }
  if self.buffer.isEmpty then (.resolved [], taken)
  else
    match api.parseChatMessage self.toolsJson self.buffer with
    | .ok (.recognized toolCalls) => (self.validateResolved api toolCalls, taken)
    | .ok (.unrecognized text ffiErrorMessage) =>
      (.unrecognizedFormat ⟨text, ffiErrorMessage⟩, taken)
    | .error message => (.parseFailed message, taken)

def finalizeToGeneratedEvent (api : ToolCallApi) (self : ToolCallPipeline) :
    Option GeneratedTokenResult × ToolCallPipeline :=
  ((self.finalize api).1.intoGeneratedTokenResult api, (self.finalize api).2)

end ToolCallPipeline

/-- What the pipeline sends is neither a streamed token nor terminal. -/
theorem intoGeneratedTokenResult_not_token {api : ToolCallApi} {event : ToolCallEvent}
    {result : GeneratedTokenResult} (h : event.intoGeneratedTokenResult api = some result) :
    result.isToken = false ∧ result.isDone = false := by
  cases event <;> simp only [ToolCallEvent.intoGeneratedTokenResult, reduceCtorEq,
    Option.some.injEq] at h <;> subst h <;> exact ⟨rfl, rfl⟩

/-! ## Building the pipeline -/

/-- `tool_call_pipeline_build_outcome.rs`. -/
inductive ToolCallPipelineBuildOutcome where
  | disabled
  | ready (pipeline : ToolCallPipeline)
  | schemaInvalid (message : String)
  deriving DecidableEq, Repr

/-- `tools.into_iter().map(serde_json::to_value).collect()`. -/
def toolsToValues (api : ToolCallApi) : List Tool → Except String (List String)
  | [] => .ok []
  | tool :: tools =>
    match api.toolToValue tool, toolsToValues api tools with
    | .ok value, .ok values => .ok (value :: values)
    | .error message, _ => .error message
    | .ok _, .error message => .error message

def buildToolCallPipeline (api : ToolCallApi) (tools : List Tool) (parseToolCalls : Bool) :
    Except String ToolCallPipelineBuildOutcome :=
  if !parseToolCalls || tools.isEmpty then .ok .disabled
  else
    match ToolCallValidator.fromTools api tools with
    | .error (.invalidSchema toolName message) =>
      .ok (.schemaInvalid ("tool " ++ api.debugStr toolName ++
        " parameters are not a valid JSON Schema: " ++ message))
    | .error (.serializationFailed _ _) =>
      .error "failed to serialize tool parameters during validator build"
    | .ok validator =>
      match toolsToValues api tools with
      | .error _ => .error "failed to serialize tools to JSON"
      | .ok toolsJson =>
        match api.toolsToString toolsJson with
        | .error _ => .error "failed to serialize tools for tool-call pipeline"
        | .ok text => .ok (.ready ⟨"", text, validator⟩)

end Paddler
