import Paddler.Messaging.RawParameters

/-!
# Requests to the Responses endpoint

Model of `openai_responses_request_params.rs` and of the types of its input: what `serde` makes of a
JSON value, and `into_prepared`, which turns a request into the parameters of an agent.

A type that is tagged by `type` is read from objects; `serde` also takes arrays that begin with the
tag.  An object that names a field twice is not looked at.

* `OpenAIResponsesInputItem.deserialize` — an item is read by its tag, and else as a message.
* `OpenAIResponsesInputItem.intoConversationMessage` — what becomes of an item; some are dropped.
* `OpenAIResponsesRequestParams.intoPrepared` — the whole request.
-/

set_option autoImplicit false

namespace Paddler

/-- A field that has to be a string. -/
def stringField (key : String) (value : Json) : Option String :=
  (value.field key).bind (·.asString)

/-! ## Content -/

/-- `openai_responses_input_content_part.rs`. -/
inductive OpenAIResponsesInputContentPart where
  | inputText (text : String)
  | inputImage (imageUrl : Option String)
  | unsupported
  deriving DecidableEq, Repr

namespace OpenAIResponsesInputContentPart

/-- A part, by its tag; any other tag is `Unsupported`. -/
def deserialize (value : Json) : Option OpenAIResponsesInputContentPart :=
  match stringField "type" value with
  | some "input_text" => (stringField "text" value).map .inputText
  | some "input_image" =>
    match value.field "image_url" with
    | none | some .null => some (.inputImage none)
    | some (.string url) => some (.inputImage (some url))
    | some _ => none
  | some _ => some .unsupported
  | none => none

def intoConversationPart : OpenAIResponsesInputContentPart → Option ConversationMessageContentPart
  | .inputText text => some (.text text)
  | .inputImage (some url) => some (.imageUrl ⟨url⟩)
  | .inputImage none | .unsupported => none

end OpenAIResponsesInputContentPart

/-- `openai_responses_message_content.rs` and `openai_responses_function_output.rs`, which are the
same type. -/
inductive OpenAIResponsesMessageContent where
  | text (text : String)
  | parts (parts : List OpenAIResponsesInputContentPart)
  deriving DecidableEq, Repr

namespace OpenAIResponsesMessageContent

/-- A string, and else an array of parts. -/
def deserialize (value : Json) : Option OpenAIResponsesMessageContent :=
  match value with
  | .string s => some (.text s)
  | .array values => (values.mapM OpenAIResponsesInputContentPart.deserialize).map .parts
  | _ => none

def intoConversationContent : OpenAIResponsesMessageContent → ConversationMessageContent
  | .text s => .text s
  | .parts ps => .parts (ps.filterMap (·.intoConversationPart))

def intoText : OpenAIResponsesMessageContent → String
  | .text s => s
  | .parts ps => String.join (ps.filterMap fun
    | .inputText s => some s
    | .inputImage _ | .unsupported => none)

end OpenAIResponsesMessageContent

/-! ## Items -/

/-- `openai_responses_message_item.rs`. -/
structure OpenAIResponsesMessageItem where
  role : String
  content : OpenAIResponsesMessageContent
  deriving DecidableEq, Repr

def normalizeRole (role : String) : String :=
  if role = "developer" then "system" else role

namespace OpenAIResponsesMessageItem

/-- A message item; fields that it does not know are ignored. -/
def deserialize (value : Json) : Option OpenAIResponsesMessageItem := do
  let role ← stringField "role" value
  let content ← (value.field "content").bind OpenAIResponsesMessageContent.deserialize
  return ⟨role, content⟩

def intoConversationMessage (self : OpenAIResponsesMessageItem) : ConversationMessage :=
  ⟨self.content.intoConversationContent, normalizeRole self.role⟩

end OpenAIResponsesMessageItem

/-- `openai_responses_function_call_item.rs`. -/
structure OpenAIResponsesFunctionCallItem where
  callId : String
  name : String
  arguments : String
  deriving DecidableEq, Repr

/-- A call item; fields that it does not know are ignored. -/
def OpenAIResponsesFunctionCallItem.deserialize (value : Json) :
    Option OpenAIResponsesFunctionCallItem := do
  let callId ← stringField "call_id" value
  let name ← stringField "name" value
  let arguments ← stringField "arguments" value
  return ⟨callId, name, arguments⟩

/-- `openai_responses_tagged_item.rs`. -/
inductive OpenAIResponsesTaggedItem where
  | message (item : OpenAIResponsesMessageItem)
  | functionCall (item : OpenAIResponsesFunctionCallItem)
  | functionCallOutput (output : OpenAIResponsesMessageContent)
  | unsupported
  deriving DecidableEq, Repr

/-- An item, by its tag; any other tag is `Unsupported`. -/
def OpenAIResponsesTaggedItem.deserialize (value : Json) : Option OpenAIResponsesTaggedItem :=
  match stringField "type" value with
  | some "message" => (OpenAIResponsesMessageItem.deserialize value).map .message
  | some "function_call" => (OpenAIResponsesFunctionCallItem.deserialize value).map .functionCall
  | some "function_call_output" =>
    ((value.field "output").bind OpenAIResponsesMessageContent.deserialize).map .functionCallOutput
  | some _ => some .unsupported
  | none => none

/-- `openai_responses_input_item.rs`. -/
inductive OpenAIResponsesInputItem where
  | tagged (item : OpenAIResponsesTaggedItem)
  | message (item : OpenAIResponsesMessageItem)
  deriving DecidableEq, Repr

namespace OpenAIResponsesInputItem

/-- The first of the two that an item can be read as. -/
def deserialize (value : Json) : Option OpenAIResponsesInputItem :=
  match OpenAIResponsesTaggedItem.deserialize value with
  | some item => some (.tagged item)
  | none => (OpenAIResponsesMessageItem.deserialize value).map .message

/-- The text of a function call in the conversation. -/
def callText (item : OpenAIResponsesFunctionCallItem) : String :=
  (Json.object [("call_id", .string item.callId), ("name", .string item.name),
    ("arguments", .string item.arguments)]).render

def intoConversationMessage : OpenAIResponsesInputItem → Option ConversationMessage
  | .message item | .tagged (.message item) => some item.intoConversationMessage
  | .tagged (.functionCall item) => some ⟨.text (callText item), "assistant"⟩
  | .tagged (.functionCallOutput output) => some ⟨.text output.intoText, "tool"⟩
  | .tagged .unsupported => none

end OpenAIResponsesInputItem

/-- `openai_responses_input.rs`. -/
inductive OpenAIResponsesInput where
  | text (text : String)
  | items (items : List OpenAIResponsesInputItem)
  deriving DecidableEq, Repr

/-- A string, and else an array of items. -/
def OpenAIResponsesInput.deserialize (value : Json) : Option OpenAIResponsesInput :=
  match value with
  | .string s => some (.text s)
  | .array values => (values.mapM OpenAIResponsesInputItem.deserialize).map .items
  | _ => none

/-! ## Tools and formats -/

structure OpenAIToolParametersSchema where
  schemaType : Option String
  properties : Option (List (String × Json))
  required : Option (List String)
  additionalProperties : Option Json
  deriving Repr

def OpenAIToolParametersSchema.intoRawParametersSchema (self : OpenAIToolParametersSchema) :
    ParametersSchema :=
  ⟨self.schemaType.getD "object", self.properties, self.required, self.additionalProperties⟩

/-- `openai_responses_tool.rs`; the description of a function is left out. -/
inductive OpenAIResponsesTool where
  | function (name : String) (parameters : Option OpenAIToolParametersSchema)
  | unsupported
  deriving Repr

/-- The tool that a function becomes, validated. -/
def OpenAIResponsesTool.intoTool : OpenAIResponsesTool → Option (Except String Tool)
  | .function name none => some (.ok ⟨name, .empty⟩)
  | .function name (some parameters) =>
    some (parameters.intoRawParametersSchema.validate.map fun schema =>
      ⟨name, .schema schema.toJson.render⟩)
  | .unsupported => none

/-- `openai_responses_text_format.rs`. -/
inductive OpenAIResponsesTextFormat where
  | text
  | jsonSchema (schema : Json)
  | unsupported
  deriving Repr

/-- `into_grammar_constraint`, of `openai_responses_text_param.rs`; a JSON value can always be
serialized. -/
def OpenAIResponsesTextFormat.intoGrammarConstraint :
    Option OpenAIResponsesTextFormat → Option GrammarConstraint
  | some (.jsonSchema schema) => some (.jsonSchema schema.render)
  | some .text | some .unsupported | none => none

/-! ## The request -/

/-- `openai_responses_request_params.rs`.  `textFormat` is the format of a `text`, and `effort` the
effort of a `reasoning`. -/
structure OpenAIResponsesRequestParams where
  model : String
  input : OpenAIResponsesInput
  instructions : Option String
  stream : Option Bool
  maxOutputTokens : Option Int
  tools : List OpenAIResponsesTool
  textFormat : Option OpenAIResponsesTextFormat
  effort : Option String
  deriving Repr

/-- `responses_prepared_request.rs`. -/
structure ResponsesPreparedRequest where
  paddlerParams : ContinueFromConversationHistoryParams
  stream : Bool
  model : String
  instructions : Option String
  deriving DecidableEq, Repr

namespace OpenAIResponsesRequestParams

/-- The message of the instructions. -/
def instructionMessages (self : OpenAIResponsesRequestParams) : List ConversationMessage :=
  match self.instructions with
  | some instructions => if instructions ≠ "" then [⟨.text instructions, "system"⟩] else []
  | none => []

/-- The messages of the input. -/
def inputMessages : OpenAIResponsesInput → List ConversationMessage
  | .text text => [⟨.text text, "user"⟩]
  | .items items => items.filterMap (·.intoConversationMessage)

def intoPrepared (self : OpenAIResponsesRequestParams) : Except String ResponsesPreparedRequest :=
  do
  let messages := self.instructionMessages ++ inputMessages self.input
  let validatedTools ← (self.tools.filterMap (·.intoTool)).mapM id
  return {
    paddlerParams := {
      addGenerationPrompt := true
      conversationHistory := ⟨messages⟩
      enableThinking := decide (self.effort ≠ some "none")
      grammar := OpenAIResponsesTextFormat.intoGrammarConstraint self.textFormat
      maxTokens := self.maxOutputTokens.getD 2000
      parseToolCalls := !validatedTools.isEmpty
      tools := validatedTools }
    stream := self.stream.getD false
    model := self.model
    instructions := self.instructions }

end OpenAIResponsesRequestParams

end Paddler
