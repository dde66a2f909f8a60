import Paddler.Library.Json
import Paddler.Messaging.RequestParams

/-!
# Parameters before they are validated

Model of `RawParametersSchema` and of the parameters that contain one: a request names the schemas
of its tools as the client wrote them, and `validate` makes of it the request that goes to an agent.

* `RawContinueFromConversationHistoryParams.validate_ok_iff` — **a request is valid if its tools
  are**.
-/

set_option autoImplicit false

namespace Paddler

/-- `raw_parameters_schema.rs` and `validated_parameters_schema.rs`. -/
structure ParametersSchema where
  schemaType : String
  properties : Option (List (String × Json))
  required : Option (List String)
  additionalProperties : Option Json
  deriving Repr

namespace ParametersSchema

def validate (self : ParametersSchema) : Except String ParametersSchema :=
  match self.required, self.properties with
  | some required, some properties =>
    match required.find? fun field => (properties.lookup field).isNone with
    | some field => .error ("Required field '" ++ field ++ "' not found in properties")
    | none => .ok self
  | _, _ => .ok self

/-- The validated schema as JSON; what is not there is left out. -/
def toJson (self : ParametersSchema) : Json :=
  .object ([("type", .string self.schemaType)] ++
    (self.properties.map fun properties => ("properties", Json.object properties)).toList ++
    (self.required.map fun required => ("required", Json.array (required.map .string))).toList ++
    (self.additionalProperties.map fun value => ("additionalProperties", value)).toList)

/-- Every required field is one of the properties, if both are there. -/
def RequiredDefined (self : ParametersSchema) : Prop :=
  ∀ required properties, self.required = some required → self.properties = some properties →
    ∀ field ∈ required, (properties.lookup field).isSome = true

/-- What `validate` says: the schema stays as it is, or the error names a required field that is not
defined. -/
theorem validate_cases (self : ParametersSchema) :
    (self.validate = .ok self ∧ self.RequiredDefined) ∨
      ∃ required properties field, self.required = some required ∧
      self.properties = some properties ∧
        field ∈ required ∧ properties.lookup field = none ∧
        self.validate = .error ("Required field '" ++ field ++ "' not found in properties") := by
  unfold validate RequiredDefined
  cases hrequired : self.required with
  | none => exact Or.inl ⟨rfl, fun _ _ h => by cases h⟩
  | some required =>
    cases hproperties : self.properties with
    | none => exact Or.inl ⟨rfl, fun _ _ _ h => by cases h⟩
    | some properties =>
      dsimp only
      cases hfind : required.find? fun field => (properties.lookup field).isNone with
      | none =>
        refine Or.inl ⟨rfl, ?_⟩
        rintro _ _ ⟨⟩ ⟨⟩ field hfield
        simpa using List.find?_eq_none.mp hfind field hfield
      | some field =>
        have hnone : (properties.lookup field).isNone = true := by simpa using List.find?_some hfind
        exact Or.inr ⟨required, properties, field, rfl, rfl, List.mem_of_find?_eq_some hfind,
          Option.isNone_iff_eq_none.mp hnone, rfl⟩

theorem validate_ok_iff (self : ParametersSchema) :
    (∃ schema, self.validate = .ok schema) ↔ self.RequiredDefined := by
  rcases self.validate_cases
      with ⟨hok, hdefined⟩ | ⟨required, properties, field, hr, hp, hfield, hnone, herror⟩
  · exact ⟨fun _ => hdefined, fun _ => ⟨self, hok⟩⟩
  · constructor
    · rintro ⟨schema, hok⟩
      rw [herror] at hok
      cases hok
    · intro hdefined
      have hsome := hdefined required properties hr hp field hfield
      rw [hnone] at hsome
      cases hsome

end ParametersSchema

/-- `Parameters<RawParametersSchema>`. -/
inductive RawParameters where
  | empty
  | schema (schema : ParametersSchema)
  deriving Repr

/-- `Parameters::validate`; a validated schema is kept as its JSON text. -/
def RawParameters.validate : RawParameters → Except String Parameters
  | .empty => .ok .empty
  | .schema s => s.validate.map fun validated => .schema validated.toJson.render

/-- `Tool<RawParametersSchema>`. -/
structure RawTool where
  name : String
  parameters : RawParameters
  deriving Repr

/-- `Tool::validate`, with those of `FunctionCall` and `Function`. -/
def RawTool.validate (self : RawTool) : Except String Tool :=
  self.parameters.validate.map fun parameters => ⟨self.name, parameters⟩

/-- The schema of a tool, if it has one, defines what it requires. -/
def RawTool.RequiredDefined (self : RawTool) : Prop :=
  match self.parameters with
  | .empty => True
  | .schema s => s.RequiredDefined

theorem RawTool.validate_ok_iff (self : RawTool) :
    (∃ tool, self.validate = .ok tool) ↔ self.RequiredDefined := by
  unfold RawTool.validate RawTool.RequiredDefined RawParameters.validate
  cases self.parameters with
  | empty => exact ⟨fun _ => trivial, fun _ => ⟨_, rfl⟩⟩
  | schema s =>
    dsimp only
    rw [← s.validate_ok_iff]
    cases s.validate with
    | ok schema => exact ⟨fun _ => ⟨_, rfl⟩, fun _ => ⟨_, rfl⟩⟩
    | error err => exact ⟨fun ⟨_, h⟩ => by (cases h), fun ⟨_, h⟩ => by (cases h)⟩

/-- `ContinueFromConversationHistoryParams<RawParametersSchema>`. -/
structure RawContinueFromConversationHistoryParams where
  addGenerationPrompt : Bool
  conversationHistory : ConversationHistory
  enableThinking : Bool
  grammar : Option GrammarConstraint
  maxTokens : Int
  parseToolCalls : Bool
  tools : List RawTool
  deriving Repr

namespace RawContinueFromConversationHistoryParams

def validate (self : RawContinueFromConversationHistoryParams) :
    Except String ContinueFromConversationHistoryParams := do
  let tools ← self.tools.mapM RawTool.validate
  return {
    addGenerationPrompt := self.addGenerationPrompt
    conversationHistory := self.conversationHistory
    enableThinking := self.enableThinking
    grammar := self.grammar
    maxTokens := self.maxTokens
    parseToolCalls := self.parseToolCalls
    tools := tools }

/-- All elements of a list succeed together if each of them does. -/
theorem mapM_ok_iff {α β : Type} (f : α → Except String β) (xs : List α) :
    (∃ ys, xs.mapM f = .ok ys) ↔ ∀ x ∈ xs, ∃ y, f x = .ok y := by
  induction xs with
  | nil => exact ⟨fun _ x hx => by (cases hx), fun _ => ⟨[], rfl⟩⟩
  | cons x xs ih =>
    rw [List.mapM_cons, List.forall_mem_cons, ← ih]
    cases f x with
    | error err => exact ⟨fun ⟨_, h⟩ => by (cases h), fun ⟨⟨_, h⟩, _⟩ => by (cases h)⟩
    | ok y =>
      cases xs.mapM f with
      | error err => exact ⟨fun ⟨_, h⟩ => by (cases h), fun ⟨_, ⟨_, h⟩⟩ => by (cases h)⟩
      | ok ys => exact ⟨fun _ => ⟨⟨y, rfl⟩, ⟨ys, rfl⟩⟩, fun _ => ⟨y :: ys, rfl⟩⟩

/-- **A request is valid if its tools are.** -/
theorem validate_ok_iff (self : RawContinueFromConversationHistoryParams) :
    (∃ params, self.validate = .ok params) ↔ ∀ tool ∈ self.tools, tool.RequiredDefined := by
  have htools := mapM_ok_iff RawTool.validate self.tools
  simp only [RawTool.validate_ok_iff] at htools
  rw [← htools]
  unfold validate
  cases self.tools.mapM RawTool.validate with
  | error err => exact ⟨fun ⟨_, h⟩ => by (cases h), fun ⟨_, h⟩ => by (cases h)⟩
  | ok tools => exact ⟨fun _ => ⟨tools, rfl⟩, fun _ => ⟨_, rfl⟩⟩

end RawContinueFromConversationHistoryParams

end Paddler
