import Paddler.Messaging.Results

/-!
# Request parameters

Model of the request types of `paddler_messaging` that reach an agent: inference parameters
with their validation, grammar constraints, conversation histories, tools, and the three kinds
of inference request.  Fields no modelled function reads (sampling temperatures, cache types,
GPU layers) are left out.
-/

set_option autoImplicit false

namespace Paddler

/-- `inference_parameters.rs`. -/
structure InferenceParameters where
  nBatch : Nat
  embeddingBatchSize : Nat
  enableEmbeddings : Bool
  imageResizeToFit : Nat
  poolingType : PoolingType
  deriving DecidableEq, Repr

def InferenceParameters.validate (self : InferenceParameters) : Except String InferenceParameters :=
  if self.imageResizeToFit = 0 then .error "image_resize_to_fit must be greater than zero"
  else if self.embeddingBatchSize = 0 then .error "embedding_batch_size must be greater than zero"
  else .ok self

/-- `grammar_constraint.rs`. -/
inductive GrammarConstraint where
  | gbnf (grammar root : String)
  | jsonSchema (schema : String)
  deriving DecidableEq, Repr

/-- `image_url.rs`. -/
structure ImageUrl where
  url : String
  deriving DecidableEq, Repr

/-- `conversation_message_content_part.rs`. -/
inductive ConversationMessageContentPart where
  | text (text : String)
  | imageUrl (imageUrl : ImageUrl)
  deriving DecidableEq, Repr

/-- `conversation_message_content.rs`. -/
inductive ConversationMessageContent where
  | text (text : String)
  | parts (parts : List ConversationMessageContentPart)
  deriving DecidableEq, Repr

def ConversationMessageContent.imageUrls : ConversationMessageContent → List ImageUrl
  | .text _ => []
  | .parts ps => ps.filterMap fun
    | .imageUrl imageUrl => some imageUrl
    | .text _ => none

def ConversationMessageContent.textContent : ConversationMessageContent → String
  | .text s => s
  | .parts ps => String.join (ps.filterMap fun
    | .text s => some s
    | .imageUrl _ => none)

/-- `conversation_message.rs`. -/
structure ConversationMessage where
  content : ConversationMessageContent
  role : String
  deriving DecidableEq, Repr

/-- `conversation_history.rs`. -/
structure ConversationHistory where
  messages : List ConversationMessage
  deriving DecidableEq, Repr

def ConversationHistory.extractImageUrls (self : ConversationHistory) : List ImageUrl :=
  self.messages.flatMap fun message => message.content.imageUrls

/-- `chat_template_message_content_part.rs`. -/
structure ChatTemplateMessageContentPart where
  contentType : String
  text : String
  deriving DecidableEq, Repr

/-- `chat_template_message_content.rs`. -/
inductive ChatTemplateMessageContent where
  | text (text : String)
  | parts (parts : List ChatTemplateMessageContentPart)
  deriving DecidableEq, Repr

/-- `chat_template_message.rs`. -/
structure ChatTemplateMessage where
  content : ChatTemplateMessageContent
  role : String
  deriving DecidableEq, Repr

def ConversationHistory.replaceImagesWithMarker (self : ConversationHistory)
    (mediaMarker : String) : List ChatTemplateMessage :=
  self.messages.map fun message =>
    { content := match message.content with
        | .text text => .text text
        | .parts parts => .parts (parts.map fun
          | .text text => ⟨"text", text⟩
          | .imageUrl _ => ⟨"text", mediaMarker⟩)
      role := message.role }

/-- `Parameters<ValidatedParametersSchema>`; a schema is kept as its JSON text. -/
inductive Parameters where
  | empty
  | schema (schema : String)
  deriving DecidableEq, Repr

/-- `Tool::Function`: the name and the parameters of the function. -/
structure Tool where
  name : String
  parameters : Parameters
  deriving DecidableEq, Repr

structure ContinueFromConversationHistoryParams where
  addGenerationPrompt : Bool
  conversationHistory : ConversationHistory
  enableThinking : Bool
  grammar : Option GrammarConstraint
  maxTokens : Int
  parseToolCalls : Bool
  tools : List Tool
  deriving DecidableEq, Repr

/-- `continue_from_raw_prompt_params.rs`. -/
structure ContinueFromRawPromptParams where
  grammar : Option GrammarConstraint
  maxTokens : Int
  rawPrompt : String
  deriving DecidableEq, Repr

/-- `embedding_input_document.rs`. -/
structure EmbeddingInputDocument where
  content : String
  id : String
  deriving DecidableEq, Repr

end Paddler
