import Mathlib.Data.List.Basic
import Paddler.Library.JsonReader
import Paddler.Library.JsonSchema
import Paddler.Agent.ToolCallPipeline
import Paddler.Compatibility.ResponsesRequest

/-!
# Tool schemas

The schema of a tool goes through `OpenAIToolParametersSchema`, `RawParametersSchema::validate` and
`ValidatedParametersSchema` before an agent compiles it.  Four keywords come through; the others are
ignored, and what refers to them breaks.

* `toolsOf` — the tools that an endpoint makes of the tools of a request.
* `Convertible` — the schemas that mean the same afterwards.
* `toolSchemas_keepMeaning` — **the validator of the agent accepts what they accept.**
* `toolSchemas_loseMeaning` — a schema with another keyword on objects, of which the keyword is
  lost.
-/

set_option autoImplicit false

namespace Paddler

open AssocList JsonSchema

/-! ## Schemas -/

/-- A field that may be missing or `null`. -/
def optionalField {α : Type} (key : String) (read : Json → Option α) (value : Json) :
    Option (Option α) :=
  match value.field key with
  | none | some .null => some none
  | some value => (read value).map some

/-- The elements of an array of strings. -/
def asStrings (value : Json) : Option (List String) :=
  value.asArray.bind fun values => values.mapM Json.asString

/-- The fields of an object. -/
def asFields : Json → Option Fields
  | .object fields => some fields
  | _ => none

/-- The keywords of a `ParametersSchema`. -/
def parametersKeywords : List String := ["type", "properties", "required", "additionalProperties"]

/-- A schema of a client; keywords that it does not know are ignored. -/
def OpenAIToolParametersSchema.deserialize : Json → Option OpenAIToolParametersSchema
  | .object fields => do
    let schemaType ← optionalField "type" Json.asString (.object fields)
    let properties ← optionalField "properties" asFields (.object fields)
    let required ← optionalField "required" asStrings (.object fields)
    let additionalProperties ← optionalField "additionalProperties" some (.object fields)
    return ⟨schemaType, properties, required, additionalProperties⟩
  | _ => none

/-- A schema of an agent; other keywords are not allowed. -/
def ParametersSchema.deserialize : Json → Option ParametersSchema
  | .object fields =>
    if fields.all fun (key, _) => parametersKeywords.contains key then do
      let schemaType ← stringField "type" (.object fields)
      let properties ← optionalField "properties" asFields (.object fields)
      let required ← optionalField "required" asStrings (.object fields)
      let additionalProperties ← optionalField "additionalProperties" some (.object fields)
      return ⟨schemaType, properties, required, additionalProperties⟩
    else none
  | _ => none

theorem asStrings_map (names : List String) :
    asStrings (.array (names.map .string)) = some names := by
  show (names.map Json.string).mapM Json.asString = some names
  induction names with
  | nil => rfl
  | cons name names ih =>
    rw [List.map_cons, List.mapM_cons, ih]
    rfl

theorem optionalField_of_some {α : Type} {key : String} {read : Json → Option α}
    {value v : Json} {a : α} (hfield : value.field key = some v) (hnull : v ≠ .null)
    (hread : read v = some a) :
    optionalField key read value = some (some a) := by
  unfold optionalField
  rw [hfield]
  cases v with
  | null => exact absurd rfl hnull
  | _ => exact congrArg (Option.map some) hread

theorem optionalField_of_none {α : Type} {key : String} {read : Json → Option α} {value : Json}
    (hfield : value.field key = none) : optionalField key read value = some none := by
  unfold optionalField
  rw [hfield]

theorem ParametersSchema.field_toJson (schema : ParametersSchema) :
    schema.toJson.field "type" = some (.string schema.schemaType) ∧
    schema.toJson.field "properties" = schema.properties.map .object ∧
    schema.toJson.field "required" = schema.required.map (fun names => .array (names.map .string)) ∧
    schema.toJson.field "additionalProperties" = schema.additionalProperties := by
  obtain ⟨schemaType, properties, required, additionalProperties⟩ := schema
  cases properties <;> cases required <;> cases additionalProperties <;> exact ⟨rfl, rfl, rfl, rfl⟩

theorem ParametersSchema.keys_toJson (schema : ParametersSchema) :
    ∃ fields, schema.toJson = .object fields ∧
    (fields.all fun (key, _) => parametersKeywords.contains key) = true := by
  obtain ⟨schemaType, properties, required, additionalProperties⟩ := schema
  cases properties <;> cases required <;> cases additionalProperties <;> exact ⟨_, rfl, by rfl⟩

/-- **An agent reads the schema that was validated.** -/
theorem ParametersSchema.deserialize_toJson {schema : ParametersSchema}
    (h : schema.additionalProperties ≠ some .null) : deserialize schema.toJson = some schema := by
  obtain ⟨htype, hproperties, hrequired, hadditional⟩ := schema.field_toJson
  obtain ⟨fields, hjson, hkeys⟩ := schema.keys_toJson
  rw [hjson] at htype hproperties hrequired hadditional ⊢
  have htype' : stringField "type" (.object fields) = some schema.schemaType := by
    unfold stringField
    rw [htype]
    rfl
  have hproperties' : optionalField "properties" asFields (.object fields) = some schema.properties := by
    cases hp : schema.properties with
    | none => exact optionalField_of_none (by rw [hproperties, hp]; rfl)
    | some properties => exact optionalField_of_some (by rw [hproperties, hp]; rfl) (by simp) rfl
  have hrequired' : optionalField "required" asStrings (.object fields) = some schema.required := by
    cases hr : schema.required with
    | none => exact optionalField_of_none (by rw [hrequired, hr]; rfl)
    | some names => exact optionalField_of_some (by rw [hrequired, hr]; rfl) (by simp) (asStrings_map names)
  have hadditional' :
      optionalField "additionalProperties" some (.object fields) = some schema.additionalProperties := by
    cases ha : schema.additionalProperties with
    | none => exact optionalField_of_none (by rw [hadditional, ha])
    | some value => exact optionalField_of_some (by rw [hadditional, ha]) (fun hv => h (by rw [ha, hv])) rfl
  rw [deserialize, if_pos hkeys, htype', hproperties', hrequired', hadditional']
  rfl

/-! ## Schemas that keep their meaning -/

/-- The schemas of clients that the conversions leave their meaning: compiled by the evaluation, for
objects, in a dialect in which they mean what they mean in the default one, with no other keyword on
objects, no reference to anything but `properties` and `additionalProperties`, and with a property
for everything that is required. -/
structure Convertible (evaluation : Evaluation) (fields : Fields) : Prop where
  names : (fields.map (·.1)).Nodup
  builds : evaluation.Builds (.object fields)
  dialect : fields.lookup "$schema" = none ∨ fields.lookup "$schema" =
    some (.string defaultDialect) ∨
    evaluation.ReadsUndeclared fields
  objects : fields.lookup "type" = none ∨ fields.lookup "type" = some (.string "object")
  keywords : ∀ key ∈ fields.map (·.1), key ∈ parametersKeywords ∨ key = "$schema" ∨
    key ∉ objectKeywords
  references : Local (keptFields parametersKeywords fields)
  identifiers : Settled parametersKeywords (undeclared fields)
  required : ∀ (names : List String) (properties : Fields),
    fields.lookup "required" = some (.array (names.map .string)) →
    fields.lookup "properties" = some (.object properties) →
    ∀ name ∈ names, (properties.lookup name).isSome = true

/-- The fields of a schema that come through, the type by default. -/
def convertedFields (fields : Fields) : Fields :=
  if fields.lookup "type" = none then ("type", .string "object") ::
    selectKeys parametersKeywords fields
  else selectKeys parametersKeywords fields

/-- The argument values on which a schema is compared with what became of it: all, or objects if the
schema does not say what it is for. -/
def Compared (fields : Fields) (value : Json) : Prop :=
  fields.lookup "type" ≠ none ∨ isObject value = true

/-- The converted schema can be compiled and accepts what the schema accepts. -/
structure KeepsMeaning (evaluation : Evaluation) (fields converted : Fields) : Prop where
  builds : evaluation.Builds (.object converted)
  accepts : ∀ value, Compared fields value →
    evaluation.isValid (.object converted) value = evaluation.isValid (.object fields) value

theorem Convertible.readsUndeclared {evaluation : Evaluation} (hlawful : evaluation.Lawful)
    {fields : Fields} (h : Convertible evaluation fields) : evaluation.ReadsUndeclared fields := by
  rcases h.dialect with hnone | hdefault | hreads
  · unfold Evaluation.ReadsUndeclared
    rw [undeclared_of_lookup hnone]
    exact ⟨h.builds, fun _ => rfl⟩
  · exact hlawful.declared h.names hdefault h.builds
  · exact hreads

/-- **A convertible schema keeps its meaning.** -/
theorem Convertible.keepsMeaning {evaluation : Evaluation} (hlawful : evaluation.Lawful)
    {fields : Fields} (h : Convertible evaluation fields) :
    KeepsMeaning evaluation fields (convertedFields fields) := by
  have hkeywords : parametersKeywords.Nodup := by decide
  have hmissing : "$schema" ∉ parametersKeywords := by decide
  have hlookup : ∀ key ∈ parametersKeywords, (undeclared fields).lookup key = fields.lookup key :=
    fun key hkey => lookup_undeclared_ne (ne_of_mem_of_not_mem hkey hmissing) fields
  have hselect : selectKeys parametersKeywords (undeclared fields) =
      selectKeys parametersKeywords fields :=
    List.filterMap_congr fun key hkey => by rw [hlookup key hkey]
  obtain ⟨hbuilds, hreads⟩ := h.readsUndeclared hlawful
  have hnames : ((undeclared fields).map (·.1)).Nodup := h.names.sublist (List.filter_sublist.map _)
  have hothers : ∀ key ∈ (undeclared fields).map (·.1), key ∈ parametersKeywords ∨
      key ∉ objectKeywords := by
    intro key hkey
    obtain ⟨entry, hentry, rfl⟩ := List.mem_map.mp hkey
    obtain ⟨hmem, hne⟩ := List.mem_filter.mp hentry
    rcases h.keywords _ (List.mem_map_of_mem hmem) with hkept | hschema | hother
    · exact .inl hkept
    · simp [hschema] at hne
    · exact .inr hother
  have hlocal : Local (keptFields parametersKeywords (undeclared fields)) := by
    rw [keptFields_undeclared hmissing]
    exact h.references
  unfold convertedFields
  rw [← hlookup "type" (by decide), ← hselect]
  rcases h.objects with hnone | hobject
  · have htype : (undeclared fields).lookup "type" = none := by
      rw [hlookup "type" (by decide), hnone]
    rw [if_pos htype]
    obtain ⟨hbuilds', hsame⟩ :=
      hlawful.selected_typed hkeywords hnames (lookup_undeclared fields) hothers htype
      hlocal h.identifiers hbuilds
    refine ⟨hbuilds', fun value hvalue => ?_⟩
    rw [hsame value (hvalue.resolve_left fun hne => hne hnone), hreads value]
  · have htype : (undeclared fields).lookup "type" = some (.string "object") := by
      rw [hlookup "type" (by decide), hobject]
    rw [if_neg (by rw [htype]; simp)]
    obtain ⟨hbuilds', hsame⟩ :=
      hlawful.selected hkeywords hnames (lookup_undeclared fields) hothers hlocal
      h.identifiers hbuilds
    refine ⟨hbuilds', fun value _ => ?_⟩
    rw [← hreads value]
    cases hvalue : isObject value with
    | true => exact hsame value hvalue
    | false =>
      -- neither accepts what is not an object
      have hselected : (selectKeys parametersKeywords (undeclared fields)).lookup "type" =
          some (.string "object") := by
        rw [lookup_selectKeys hkeywords (by decide), htype]
      have hschema : (selectKeys parametersKeywords (undeclared fields)).lookup "$schema" = none := by
        rw [List.lookup_eq_none_iff]
        intro entry hentry
        have hne := ne_of_mem_of_not_mem (mem_selectKeys.mp hentry).1 hmissing
        simpa using hne.symm
      rw [hlawful.rejects hschema hselected hbuilds' hvalue,
        hlawful.rejects (lookup_undeclared fields) htype hbuilds hvalue]

theorem Convertible.lookups {evaluation : Evaluation} (hlawful : evaluation.Lawful)
    {fields : Fields} (h : Convertible evaluation fields) :
    ∃ (properties : Option Fields) (required : Option (List String)) (additionalProperties : Option Json),
      fields.lookup "properties" = properties.map .object ∧
      fields.lookup "required" = required.map (fun names => .array (names.map .string)) ∧
      fields.lookup "additionalProperties" = additionalProperties ∧
      additionalProperties ≠ some .null := by
  have hbuilds := (h.readsUndeclared hlawful).1
  have hschema := lookup_undeclared fields
  have hlookup : ∀ {keyword : String}, keyword ≠ "$schema" →
      fields.lookup keyword = (undeclared fields).lookup keyword :=
    fun hne => (lookup_undeclared_ne hne fields).symm
  rw [hlookup (show "properties" ≠ "$schema" by decide),
    hlookup (show "required" ≠ "$schema" by decide),
    hlookup (show "additionalProperties" ≠ "$schema" by decide)]
  obtain ⟨properties, hproperties⟩ : ∃ properties : Option Fields,
      (undeclared fields).lookup "properties" = properties.map .object := by
    cases hp : (undeclared fields).lookup "properties" with
    | none => exact ⟨none, rfl⟩
    | some value =>
      obtain ⟨members, rfl⟩ := hlawful.properties hschema hbuilds hp
      exact ⟨some members, rfl⟩
  obtain ⟨required, hrequired⟩ : ∃ required : Option (List String),
      (undeclared fields).lookup "required" = required.map fun names =>
        .array (names.map .string) := by
    cases hr : (undeclared fields).lookup "required" with
    | none => exact ⟨none, rfl⟩
    | some value =>
      obtain ⟨names, rfl⟩ := hlawful.required hschema hbuilds hr
      exact ⟨some names, rfl⟩
  exact ⟨properties, required, _, hproperties, hrequired, rfl,
    hlawful.additionalProperties hschema hbuilds⟩

/-- **A convertible schema is converted**: it is read and validated, and its four keywords come
out. -/
theorem Convertible.converted {evaluation : Evaluation} (hlawful : evaluation.Lawful)
    {fields : Fields} (h : Convertible evaluation fields) : ∃ parameters,
      OpenAIToolParametersSchema.deserialize (.object fields) = some parameters ∧
      parameters.intoRawParametersSchema.validate = .ok parameters.intoRawParametersSchema ∧
      parameters.intoRawParametersSchema.toJson = .object (convertedFields fields) ∧
      parameters.intoRawParametersSchema.additionalProperties ≠ some .null := by
  obtain ⟨properties, required, additionalProperties, hproperties, hrequired, hadditional, hnull⟩ :=
    h.lookups hlawful
  obtain ⟨schemaType, htype, hobject⟩ : ∃ schemaType : Option String,
      fields.lookup "type" = schemaType.map .string ∧ schemaType.getD "object" = "object" := by
    rcases h.objects with hnone | hobject
    · exact ⟨none, hnone, rfl⟩
    · exact ⟨some "object", hobject, rfl⟩
  refine ⟨⟨schemaType, properties, required, additionalProperties⟩, ?_, ?_, ?_, hnull⟩
  · have htype' : optionalField "type" Json.asString (.object fields) = some schemaType := by
      cases schemaType with
      | none => exact optionalField_of_none htype
      | some name => exact optionalField_of_some htype (by simp) rfl
    have hproperties' : optionalField "properties" asFields (.object fields) = some properties := by
      cases properties with
      | none => exact optionalField_of_none hproperties
      | some members => exact optionalField_of_some hproperties (by simp) rfl
    have hrequired' : optionalField "required" asStrings (.object fields) = some required := by
      cases required with
      | none => exact optionalField_of_none hrequired
      | some names => exact optionalField_of_some hrequired (by simp) (asStrings_map names)
    have hadditional' :
        optionalField "additionalProperties" some (.object fields) = some additionalProperties := by
      cases additionalProperties with
      | none => exact optionalField_of_none hadditional
      | some value => exact optionalField_of_some hadditional (fun hv => hnull (by rw [hv])) rfl
    rw [OpenAIToolParametersSchema.deserialize, htype', hproperties', hrequired', hadditional']
    rfl
  · rcases ParametersSchema.validate_cases
      ⟨schemaType.getD "object", properties, required, additionalProperties⟩ with
      ⟨hok, -⟩ | ⟨names, members, name, hr, hp, hname, hmissing, -⟩
    · exact hok
    · -- the name would be required and not defined
      cases hr
      cases hp
      have hdefined := h.required names members hrequired hproperties name hname
      rw [hmissing] at hdefined
      cases hdefined
  · unfold convertedFields ParametersSchema.toJson
      OpenAIToolParametersSchema.intoRawParametersSchema
    simp only [selectKeys, parametersKeywords, List.filterMap_cons, List.filterMap_nil, htype,
      hproperties, hrequired, hadditional, hobject]
    cases schemaType <;> cases properties <;> cases required <;> cases additionalProperties <;>
      simp_all

/-! ## Tools of a request -/

/-- The name and the parameters of a function; the description is left out. -/
def readFunction (value : Json) : Option (String × Option OpenAIToolParametersSchema) := do
  let name ← stringField "name" value
  let _ ← optionalField "description" Json.asString value
  let parameters ← optionalField "parameters" OpenAIToolParametersSchema.deserialize value
  return (name, parameters)

/-- `openai_chat_completion_tool.rs`. -/
inductive OpenAIChatCompletionTool where
  | function (name : String) (parameters : Option OpenAIToolParametersSchema)
  | unsupported
  deriving Repr

namespace OpenAIChatCompletionTool

/-- A tool, by its tag; any other tag is `Unsupported`. -/
def deserialize (value : Json) : Option OpenAIChatCompletionTool :=
  match stringField "type" value with
  | some "function" => ((value.field "function").bind readFunction).map fun (name, parameters) =>
      .function name parameters
  | some _ => some .unsupported
  | none => none

/-- `into_tool`, with that of `OpenAIChatCompletionFunction`. -/
def intoTool : OpenAIChatCompletionTool → Option RawTool
  | .function name parameters => some ⟨name, match parameters with
    | none => .empty
    | some parameters => .schema parameters.intoRawParametersSchema⟩
  | .unsupported => none

end OpenAIChatCompletionTool

/-- A tool of the Responses endpoint, by its tag; any other tag is `Unsupported`. -/
def OpenAIResponsesTool.deserialize (value : Json) : Option OpenAIResponsesTool :=
  match stringField "type" value with
  | some "function" => (readFunction value).map fun (name, parameters) => .function name parameters
  | some _ => some .unsupported
  | none => none

/-- The endpoints that take tools. -/
inductive ToolEndpoint where
  | chatCompletions
  | responses
  deriving DecidableEq, Repr

/-- The validated tools of a request; `none` if its tools cannot be read. -/
def toolsOf : ToolEndpoint → List Json → Option (Except String (List Tool))
  | .chatCompletions, values => (values.mapM OpenAIChatCompletionTool.deserialize).map fun tools =>
      (tools.filterMap (·.intoTool)).mapM RawTool.validate
  | .responses, values => (values.mapM OpenAIResponsesTool.deserialize).map fun tools =>
      (tools.filterMap (·.intoTool)).mapM id

/-! ## One reading for both endpoints -/

/-- Where a tool has its function. -/
def functionOf : ToolEndpoint → Json → Option Json
  | .chatCompletions, tool => tool.field "function"
  | .responses, tool => some tool

/-- The function of a tool, `some none` if the tool is not supported. -/
def readTool (endpoint : ToolEndpoint) (tool : Json) :
    Option (Option (String × Option OpenAIToolParametersSchema)) :=
  match stringField "type" tool with
  | some "function" => ((functionOf endpoint tool).bind readFunction).map some
  | some _ => some none
  | none => none

/-- The validated tool of a function. -/
def functionTool (function : String × Option OpenAIToolParametersSchema) : Except String Tool :=
  match function.2 with
  | none => .ok ⟨function.1, .empty⟩
  | some parameters => parameters.intoRawParametersSchema.validate.map fun schema =>
      ⟨function.1, .schema schema.toJson.render⟩

theorem mapM_map_option {α β γ : Type} (f : α → Option β) (g : β → γ) (xs : List α) :
    xs.mapM (fun x => (f x).map g) = (xs.mapM f).map (List.map g) := by
  induction xs with
  | nil => rfl
  | cons x xs ih =>
    rw [List.mapM_cons, List.mapM_cons, ih]
    cases f x with
    | none => rfl
    | some y =>
      cases xs.mapM f with
      | none => rfl
      | some ys => rfl

/-- A list of functions and of tools that are not supported, as tools of another type. -/
theorem filterMap_map_some {α β γ : Type} (read : Option α → β) (into : β → Option γ)
    (convert : α → γ) (hnone : into (read none) = none)
    (hsome : ∀ a, into (read (some a)) = some (convert a)) (xs : List (Option α)) :
    (xs.map read).filterMap into = (xs.filterMap id).map convert := by
  induction xs with
  | nil => rfl
  | cons x xs ih =>
    rw [List.map_cons, List.filterMap_cons, ih]
    cases x with
    | none => rw [hnone]; rfl
    | some a => rw [hsome]; rfl

theorem openAIChatCompletionTool_deserialize_eq (value : Json) :
    OpenAIChatCompletionTool.deserialize value = (readTool .chatCompletions value).map
      fun function => function.elim .unsupported fun f => .function f.1 f.2 := by
  unfold OpenAIChatCompletionTool.deserialize readTool functionOf
  split
  · rw [Option.map_map]
    rfl
  · rfl
  · rfl

theorem openAIResponsesTool_deserialize_eq (value : Json) :
    OpenAIResponsesTool.deserialize value = (readTool .responses value).map
      fun function => function.elim .unsupported fun f => .function f.1 f.2 := by
  unfold OpenAIResponsesTool.deserialize readTool functionOf
  split
  · rw [Option.map_map]
    rfl
  · rfl
  · rfl

/-- The raw tool that the chat completions endpoint makes of a function. -/
def rawTool (function : String × Option OpenAIToolParametersSchema) : RawTool :=
  ⟨function.1, match function.2 with
    | none => .empty
    | some parameters => .schema parameters.intoRawParametersSchema⟩

/-- Validating it afterwards gives what the Responses endpoint validates at once. -/
theorem rawTool_validate (function : String × Option OpenAIToolParametersSchema) :
    (rawTool function).validate = functionTool function := by
  obtain ⟨name, parameters⟩ := function
  cases parameters with
  | none => rfl
  | some parameters =>
    show (((parameters.intoRawParametersSchema.validate).map _).map _ : Except String Tool) = _
    cases hvalidate : parameters.intoRawParametersSchema.validate with
    | error err => simp [functionTool, hvalidate, Except.map]
    | ok schema => simp [rawTool, functionTool, hvalidate, Except.map]

/-- **Both endpoints make the same of their functions.** -/
theorem toolsOf_eq (endpoint : ToolEndpoint) (values : List Json) :
    toolsOf endpoint values =
      (values.mapM (readTool endpoint)).map fun functions =>
        (functions.filterMap id).mapM functionTool := by
  cases endpoint with
  | chatCompletions =>
    have hinto := filterMap_map_some
      (fun function : Option (String × Option OpenAIToolParametersSchema) =>
        function.elim .unsupported fun f => .function f.1 f.2)
          OpenAIChatCompletionTool.intoTool rawTool
      rfl (fun _ => rfl)
    rw [toolsOf, funext openAIChatCompletionTool_deserialize_eq, mapM_map_option, Option.map_map]
    congr 1
    funext functions
    show ((functions.map _).filterMap OpenAIChatCompletionTool.intoTool).mapM RawTool.validate = _
    rw [hinto functions, List.mapM_map]
    congr 1
    funext function
    exact rawTool_validate function
  | responses =>
    have hinto := filterMap_map_some
      (fun function : Option (String × Option OpenAIToolParametersSchema) =>
        function.elim .unsupported fun f => .function f.1 f.2) OpenAIResponsesTool.intoTool
          functionTool rfl
      (fun f => by
        obtain ⟨name, parameters⟩ := f
        cases parameters <;> rfl)
    rw [toolsOf, funext openAIResponsesTool_deserialize_eq, mapM_map_option, Option.map_map]
    congr 1
    funext functions
    show ((functions.map _).filterMap OpenAIResponsesTool.intoTool).mapM id = _
    rw [hinto functions, List.mapM_map]
    rfl

/-! ## The validator of an agent -/

/-- `serde_json::to_value` of the schema that an agent read. -/
def schemaToValue (text : String) : Except String String :=
  match (Json.read text).bind ParametersSchema.deserialize with
  | some schema => .ok schema.toJson.render
  | none => .error "not a schema of parameters"

/-- The agent compiles and applies schemas by the evaluation. -/
structure ToolCallApi.Evaluates (api : ToolCallApi) (evaluation : Evaluation) : Prop where
  schemaToValue : ∀ text, api.schemaToValue text = Paddler.schemaToValue text
  validatorFor : ∀ schema : Json, api.validatorFor schema.render = evaluation.validatorFor schema
  iterErrors : ∀ schema value : Json,
    api.iterErrors schema.render value.render = [] ↔ evaluation.isValid schema value = true

/-- The name and the schema of the function of a tool, as the client wrote them. -/
def sentFunction (endpoint : ToolEndpoint) (tool : Json) : Option (String × Option Fields) :=
  if stringField "type" tool = some "function" then
    (functionOf endpoint tool).bind fun function => (stringField "name" function).map fun name =>
      (name, (function.field "parameters").bind asFields)
  else none

/-- A tool that is not a function, or a function with a name and with no schema or a convertible
one. -/
def Supported (evaluation : Evaluation) (endpoint : ToolEndpoint) (tool : Json) : Prop :=
  ∃ tag, stringField "type" tool = some tag ∧ (tag = "function" → ∃ function name,
    functionOf endpoint tool = some function ∧ stringField "name" function = some name ∧
    (∃ description, optionalField "description" Json.asString function = some description) ∧
    (function.field "parameters" = none ∨ function.field "parameters" = some .null ∨
      ∃ fields, function.field "parameters" = some (.object fields) ∧ Convertible evaluation fields))

/-- The strategy is that of the function: it looks at no more than the name, or has a schema that
means the same. -/
def StrategyOf (evaluation : Evaluation) (function : String × Option Fields)
    (strategy : String × ValidationStrategy) : Prop :=
  strategy.1 = function.1 ∧ match function.2 with
    | none => strategy.2 = .jsonObjectOnly
    | some fields => ∃ converted, strategy.2 = .schema (Json.object converted).render ∧
      KeepsMeaning evaluation fields converted

/-- An agent compiles what a convertible schema was converted to. -/
theorem Convertible.strategy {evaluation : Evaluation} (hlawful : evaluation.Lawful)
    {api : ToolCallApi} (hapi : api.Evaluates evaluation) {fields : Fields}
    (h : Convertible evaluation fields) (name : String) :
    strategyFor api ⟨name, .schema (Json.object (convertedFields fields)).render⟩ =
      .ok (.schema (Json.object (convertedFields fields)).render) := by
  obtain ⟨parameters, -, -, hjson, hadditional⟩ := h.converted hlawful
  have hvalue : api.schemaToValue (Json.object (convertedFields fields)).render =
      .ok (Json.object (convertedFields fields)).render := by
    rw [hapi.schemaToValue, schemaToValue, Json.read_render, Option.bind_some, ← hjson,
      ParametersSchema.deserialize_toJson hadditional]
  have hbuilds : evaluation.validatorFor (.object (convertedFields fields)) = .ok () :=
    (h.keepsMeaning hlawful).builds
  unfold strategyFor
  simp only [hvalue, hapi.validatorFor, hbuilds]

theorem readTool_function {endpoint : ToolEndpoint} {tool function : Json} {name : String}
    {parameters : Option OpenAIToolParametersSchema}
    (htag : stringField "type" tool = some "function")
    (hof : functionOf endpoint tool = some function) (hname : stringField "name" function = some name) (hdescription : ∃ description, optionalField "description" Json.asString function = some description)
    (hparameters : optionalField "parameters" OpenAIToolParametersSchema.deserialize function =
      some parameters) :
    readTool endpoint tool = some (some (name, parameters)) ∧
      sentFunction endpoint tool = some (name, (function.field "parameters").bind asFields) := by
  obtain ⟨description, hdescription⟩ := hdescription
  constructor
  · unfold readTool
    rw [htag]
    show ((functionOf endpoint tool).bind readFunction).map some = _
    rw [hof, Option.bind_some, readFunction, hname, hdescription, hparameters]
    rfl
  · rw [sentFunction, htag, if_pos rfl, hof, Option.bind_some, hname]
    rfl

theorem readTool_unsupported {endpoint : ToolEndpoint} {tool : Json} {tag : String}
    (htag : stringField "type" tool = some tag) (hother : tag ≠ "function") :
    readTool endpoint tool = some none ∧ sentFunction endpoint tool = none := by
  unfold readTool sentFunction
  rw [htag, if_neg (by simpa using hother)]
  refine ⟨?_, rfl⟩
  split
  · rename_i heq
    exact absurd (Option.some.inj heq) hother
  · rfl
  · rename_i heq
    cases heq

/-- **A function that is sent** is validated, and an agent compiles it. -/
theorem Supported.compiled {evaluation : Evaluation} (hlawful : evaluation.Lawful)
    {api : ToolCallApi} (hapi : api.Evaluates evaluation) {endpoint : ToolEndpoint} {tool : Json}
    (h : Supported evaluation endpoint tool) :
    (readTool endpoint tool = some none ∧ sentFunction endpoint tool = none) ∨
    ∃ read sent validated strategy, readTool endpoint tool = some (some read) ∧
      sentFunction endpoint tool = some sent ∧ functionTool read = .ok validated ∧
      strategyFor api validated = .ok strategy ∧
      StrategyOf evaluation sent (validated.name, strategy) := by
  obtain ⟨tag, htag, hfunction⟩ := h
  by_cases hname : tag = "function"
  · right
    subst hname
    obtain ⟨function, name, hof, hname, hdescription, hparameters⟩ := hfunction rfl
    rcases hparameters with hnone | hnull | ⟨fields, hfields, hconvertible⟩
    · obtain ⟨hread, hsent⟩ :=
        readTool_function htag hof hname hdescription (optionalField_of_none hnone)
      rw [hnone] at hsent
      exact ⟨_, _, _, _, hread, hsent, rfl, rfl, rfl, rfl⟩
    · have hempty : optionalField "parameters" OpenAIToolParametersSchema.deserialize
          function = some none := by
        unfold optionalField
        rw [hnull]
      obtain ⟨hread, hsent⟩ := readTool_function htag hof hname hdescription hempty
      rw [hnull] at hsent
      exact ⟨_, _, _, _, hread, hsent, rfl, rfl, rfl, rfl⟩
    · obtain ⟨parameters, hdeserialize, hvalidate, hjson, -⟩ := hconvertible.converted hlawful
      have hkeeps := hconvertible.keepsMeaning hlawful
      obtain ⟨hread, hsent⟩ := readTool_function htag hof hname hdescription
        (optionalField_of_some hfields (by simp) hdeserialize)
      rw [hfields] at hsent
      have htool : functionTool (name, some parameters) =
          .ok ⟨name, .schema (Json.object (convertedFields fields)).render⟩ := by
        show (parameters.intoRawParametersSchema.validate).map _ = _
        rw [hvalidate, ← hjson]
        rfl
      have hstrategy := hconvertible.strategy hlawful hapi name
      exact ⟨_, _, _, _, hread, hsent, htool, hstrategy, rfl, _, rfl, hkeeps⟩
  · exact Or.inl (readTool_unsupported htag hname)

/-- All functions of a request are validated, and the loop of `from_tools` goes through. -/
theorem supported_strategies {evaluation : Evaluation} (hlawful : evaluation.Lawful)
    {api : ToolCallApi} (hapi : api.Evaluates evaluation) {endpoint : ToolEndpoint}
    {tools : List Json} (h : ∀ tool ∈ tools, Supported evaluation endpoint tool) :
    ∃ functions validated, tools.mapM (readTool endpoint) = some functions ∧
      (functions.filterMap id).mapM functionTool = .ok validated ∧
      ∀ sent strategies, List.Forall₂ (StrategyOf evaluation) sent strategies →
        ∃ result, strategiesFromTools api validated strategies = .ok result ∧
          List.Forall₂ (StrategyOf evaluation)
            ((tools.filterMap (sentFunction endpoint)).reverse ++ sent) result := by
  induction tools with
  | nil => exact ⟨[], [], rfl, rfl, fun sent strategies hstrategies =>
      ⟨strategies, rfl, hstrategies⟩⟩
  | cons tool tools ih =>
    obtain ⟨htool, htools⟩ := List.forall_mem_cons.mp h
    obtain ⟨functions, validated, hfunctions, hvalidated, hloop⟩ := ih htools
    rw [List.mapM_cons, hfunctions]
    rcases htool.compiled hlawful hapi with
      ⟨hread, hsent⟩ | ⟨read, sent, tool', strategy, hread, hsent, htool', hstrategy, hof⟩
    · rw [hread, List.filterMap_cons_none hsent]
      exact ⟨none :: functions, validated, rfl, hvalidated, hloop⟩
    · rw [hread, List.filterMap_cons_some hsent]
      refine ⟨some read :: functions, tool' :: validated, rfl, ?_,
        fun sents strategies hstrategies => ?_⟩
      · show (read :: functions.filterMap id).mapM functionTool = _
        rw [List.mapM_cons, htool', hvalidated]
        rfl
      · obtain ⟨result, hresult, hall⟩ :=
          hloop (sent :: sents) ((tool'.name, strategy) :: strategies)
          (.cons hof hstrategies)
        refine ⟨result, ?_, ?_⟩
        · rw [strategiesFromTools, hstrategy]
          exact hresult
        · rw [List.reverse_cons, List.append_assoc]
          exact hall

/-- The strategy of a function that is found by its name. -/
theorem lookup_strategy {evaluation : Evaluation} {name : String} {schema : Option Fields}
    {sent : List (String × Option Fields)} {strategies : List (String × ValidationStrategy)}
    (h : List.Forall₂ (StrategyOf evaluation) sent strategies)
    (hlookup : sent.lookup name = some schema) :
    ∃ strategy, strategies.lookup name = some strategy ∧
      StrategyOf evaluation (name, schema) (name, strategy) := by
  induction h with
  | nil => cases hlookup
  | cons hof _ ih =>
    rename_i function strategy functions strategies _
    rw [List.lookup_cons] at hlookup
    rw [List.lookup_cons, hof.1]
    cases hname : name == function.1 with
    | true =>
      rw [hname] at hlookup
      cases hlookup
      rw [beq_iff_eq] at hname
      exact ⟨strategy.2, rfl, rfl, hof.2⟩
    | false =>
      rw [hname] at hlookup
      exact ih hlookup

/-- A call is accepted when the schema of its tool has nothing to say against its arguments. -/
theorem validate_iff_noErrors {api : ToolCallApi} {strategies : List (String × ValidationStrategy)}
    {name schema : String} (hlookup : strategies.lookup name = some (.schema schema))
    (id arguments : String) :
    ToolCallValidator.validate api ⟨strategies⟩ ⟨id, name, .validJson arguments⟩ = .ok () ↔
      api.iterErrors schema arguments = [] := by
  unfold ToolCallValidator.validate
  simp only [hlookup]
  cases api.iterErrors schema arguments with
  | nil => simp
  | cons message messages => simp

/-- **Tool schemas keep their meaning** if they are convertible: at either endpoint the tools of a
request are validated, an agent builds their validator, and for the last function of a name it
accepts exactly the argument values that the schema of the client accepts. -/
theorem toolSchemas_keepMeaning {evaluation : Evaluation} (hlawful : evaluation.Lawful)
    {api : ToolCallApi} (hapi : api.Evaluates evaluation) {endpoint : ToolEndpoint}
    {tools : List Json} (h : ∀ tool ∈ tools, Supported evaluation endpoint tool) :
    ∃ validated validator, toolsOf endpoint tools = some (.ok validated) ∧
      ToolCallValidator.fromTools api validated = .ok validator ∧
      ∀ name fields, (tools.filterMap (sentFunction endpoint)).reverse.lookup name =
        some (some fields) →
      ∀ id value, Compared fields value →
        (validator.validate api ⟨id, name, .validJson value.render⟩ = .ok () ↔
          evaluation.isValid (.object fields) value = true) := by
  obtain ⟨functions, validated, hfunctions, hvalidated, hloop⟩ :=
    supported_strategies hlawful hapi h
  obtain ⟨strategies, hstrategies, hall⟩ := hloop [] [] .nil
  rw [List.append_nil] at hall
  refine ⟨validated, ⟨strategies⟩, ?_, ?_, fun name fields hname id value hvalue => ?_⟩
  · rw [toolsOf_eq, hfunctions, Option.map_some, hvalidated]
  · rw [ToolCallValidator.fromTools, hstrategies]
    rfl
  · obtain ⟨strategy, hlookup, -, converted, hstrategy, hkeeps⟩ := lookup_strategy hall hname
    have hstrategy' : strategy = .schema (Json.object converted).render := hstrategy
    rw [hstrategy'] at hlookup
    rw [← hkeeps.accepts value hvalue, ← hapi.iterErrors]
    exact validate_iff_noErrors hlookup id _

/-! ## A small evaluation -/

/-- The values of a type. -/
def hasType : String → Json → Bool
  | "object", .object _ | "array", .array _ | "string", .string _ | "integer", .number _
  | "number", .number _
  | "number", .decimal _ | "boolean", .bool _ | "null", .null => true
  | _, _ => false

/-- What `type` says. -/
def allowsType (schema value : Json) : Bool :=
  match schema.field "type" with
  | some (.string name) => hasType name value
  | _ => true

/-- A date: a year, a month and a day. -/
def isDate (text : String) : Bool :=
  match text.toList with
  | [y1, y2, y3, y4, '-', m1, m2, '-', d1, d2] => [y1, y2, y3, y4, m1, m2, d1, d2].all Char.isDigit
  | _ => false

/-- The formats of strings are checked in drafts before the default dialect. -/
def assertsFormat (schema : Json) : Bool :=
  match schema.field "$schema" with
  | some (.string dialect) => dialect == "http://json-schema.org/draft-07/schema#"
  | _ => false

/-- What `format` says. -/
def allowsFormat (schema value : Json) : Bool :=
  match schema.field "format", value with
  | some (.string "date"), .string text => isDate text
  | _, _ => true

/-- What the other keywords say about the members of an object. -/
def allowsMembers (schema : Json) (members : Fields) : Bool :=
  (match schema.field "required" with
    | some value => ((asStrings value).getD []).all fun name => (members.lookup name).isSome
    | none => true) &&
  (match schema.field "minProperties" with
    | some (.number n) => n ≤ members.length
    | _ => true) &&
  members.all fun (key, value) =>
    match (schema.field "properties").bind (·.field key), schema.field "additionalProperties" with
    | some property, _ =>
      allowsType property value && (!assertsFormat schema || allowsFormat property value)
    | none, some (.bool allowed) => allowed
    | none, some schema => allowsType schema value
    | none, none => true

/-- The keywords have values of their kinds. -/
def wellFormed (schema : Json) : Bool :=
  (match schema.field "properties" with
    | none | some (.object _) => true
    | _ => false) &&
  (match schema.field "required" with
    | some value => (asStrings value).isSome
    | none => true) &&
  match schema.field "additionalProperties" with
    | some .null => false
    | _ => true

/-- An evaluation with five keywords, which looks at no more than the types and formats of the
members. -/
def smallEvaluation : Evaluation where
  validatorFor schema := if wellFormed schema then .ok () else .error "not a schema"
  isValid schema value := allowsType schema value &&
    match value with
    | .object members => allowsMembers schema members
    | _ => true

/-- The keywords that the small evaluation knows, besides the dialect. -/
def smallKeywords : List String :=
  ["type", "properties", "required", "additionalProperties", "minProperties"]

theorem smallEvaluation_builds {schema : Json} :
    smallEvaluation.Builds schema ↔ wellFormed schema = true := by
  unfold Evaluation.Builds smallEvaluation
  dsimp only
  split <;> simp_all

theorem smallEvaluation_congr {schema schema' : Json}
    (h : ∀ key ∈ smallKeywords, schema'.field key = schema.field key)
    (hformat : assertsFormat schema' = assertsFormat schema) :
    (smallEvaluation.Builds schema ↔ smallEvaluation.Builds schema') ∧
      ∀ value, smallEvaluation.isValid schema' value = smallEvaluation.isValid schema value := by
  have htype := h "type" (by decide)
  have hproperties := h "properties" (by decide)
  have hrequired := h "required" (by decide)
  have hadditional := h "additionalProperties" (by decide)
  have hmin := h "minProperties" (by decide)
  have htypes : ∀ value, allowsType schema' value = allowsType schema value := fun value => by
    unfold allowsType
    rw [htype]
  have hmembers : ∀ members, allowsMembers schema' members = allowsMembers schema members :=
    fun members => by
    unfold allowsMembers
    rw [hproperties, hrequired, hadditional, hmin, hformat]
  refine ⟨?_, fun value => ?_⟩
  · rw [smallEvaluation_builds, smallEvaluation_builds]
    unfold wellFormed
    rw [hproperties, hrequired, hadditional]
  · show (allowsType schema' value && _) = (allowsType schema value && _)
    rw [htypes value]
    cases value with
    | object members => exact congrArg _ (hmembers members)
    | _ => rfl

theorem asStrings_eq_some {value : Json} {names : List String} (h : asStrings value = some names) :
    value = .array (names.map .string) := by
  cases value with
  | array values =>
    have hvalues : values.mapM Json.asString = some names := h
    congr 1
    clear h
    induction values generalizing names with
    | nil =>
      cases hvalues
      rfl
    | cons value values ih =>
      rw [List.mapM_cons] at hvalues
      cases value with
      | string name =>
        cases hrest : values.mapM Json.asString with
        | none =>
          rw [hrest] at hvalues
          cases hvalues
        | some names' =>
          rw [hrest] at hvalues
          cases hvalues
          rw [ih hrest]
          rfl
      | _ => cases hvalues
  | _ => cases h

theorem assertsFormat_of_lookup {fields : Fields} (h : fields.lookup "$schema" = none) :
    assertsFormat (.object fields) = false := by
  have hfield : (Json.object fields).field "$schema" = none := h
  rw [assertsFormat, hfield]

/-- What it knows of a schema is in the fields that are kept. -/
theorem lookup_keptFields_small {keywords : List String} {fields : Fields}
    (hothers : ∀ key ∈ fields.map (·.1), key ∈ keywords ∨ key ∉ objectKeywords) (key : String)
    (hkey : key ∈ smallKeywords) : (keptFields keywords fields).lookup key = fields.lookup key := by
  have hknown : key ∈ objectKeywords := (show ∀ key ∈ smallKeywords, key ∈ objectKeywords by
    decide) key hkey
  cases hlookup : fields.lookup key with
  | none => exact lookup_keptFields_none hlookup
  | some value =>
    have hkept := (hothers key (List.mem_map_of_mem (mem_of_lookup_eq_some hlookup))).resolve_right
      fun hother => hother hknown
    rw [lookup_keptFields hkept, hlookup]

theorem field_cons_type {fields : Fields} (key : String) (hkey : key ≠ "type") (value : Json) :
    (Json.object (("type", value) :: fields)).field key = (Json.object fields).field key := by
  have hne : (key == "type") = false := by simpa using hkey
  show (("type", value) :: fields).lookup key = fields.lookup key
  rw [List.lookup_cons, hne]

/-- **The small evaluation is lawful.** -/
theorem smallEvaluation_lawful : smallEvaluation.Lawful where
  declared := by
    intro fields hnames hdefault hbuilds
    have hfield : (Json.object fields).field "$schema" = some (.string defaultDialect) := hdefault
    have hformat : assertsFormat (.object fields) = false := by
      rw [assertsFormat, hfield]
      rfl
    obtain ⟨hiff, hsame⟩ := smallEvaluation_congr (fun key hkey =>
      show (Json.object (undeclared fields)).field key = (Json.object fields).field key from
        lookup_undeclared_ne (ne_of_mem_of_not_mem hkey (by decide)) fields)
      ((assertsFormat_of_lookup (lookup_undeclared fields)).trans hformat.symm)
    exact ⟨hiff.mp hbuilds, hsame⟩
  perm := by
    intro fields fields' hnames hperm hschema _ hbuilds
    have hlookup := fun key => (lookup_perm hperm hnames key).symm
    obtain ⟨hiff, hsame⟩ := smallEvaluation_congr (fun key _ =>
      show (Json.object fields').field key = (Json.object fields).field key from hlookup key)
      ((assertsFormat_of_lookup ((hlookup _).trans hschema)).trans
        (assertsFormat_of_lookup hschema).symm)
    exact ⟨hiff.mp hbuilds, hsame⟩
  properties := by
    intro fields value _ hbuilds hlookup
    have hfield : (Json.object fields).field "properties" = some value := hlookup
    rw [smallEvaluation_builds, wellFormed, hfield] at hbuilds
    cases value with
    | object members => exact ⟨members, rfl⟩
    | _ => simp at hbuilds
  required := by
    intro fields value _ hbuilds hlookup
    have hfield : (Json.object fields).field "required" = some value := hlookup
    rw [smallEvaluation_builds, wellFormed, hfield, Bool.and_eq_true, Bool.and_eq_true] at hbuilds
    obtain ⟨names, hnames⟩ := Option.isSome_iff_exists.mp hbuilds.1.2
    exact ⟨names, asStrings_eq_some hnames⟩
  additionalProperties := by
    intro fields _ hbuilds hlookup
    have hfield : (Json.object fields).field "additionalProperties" = some .null := hlookup
    rw [smallEvaluation_builds, wellFormed, hfield, Bool.and_eq_true] at hbuilds
    exact absurd hbuilds.2 (by simp)
  ignored := by
    intro keywords fields hnames hschema hothers _ _ hbuilds
    obtain ⟨hiff, hsame⟩ := smallEvaluation_congr (fun key hkey =>
      show (Json.object (keptFields keywords fields)).field key =
        (Json.object fields).field key from
        lookup_keptFields_small hothers key hkey)
      ((assertsFormat_of_lookup (lookup_keptFields_none hschema)).trans
        (assertsFormat_of_lookup hschema).symm)
    exact ⟨hiff.mp hbuilds, fun value _ => hsame value⟩
  typed := by
    intro fields value _ htype _ hvalid
    have hfield : (Json.object fields).field "type" = some (.string "object") := htype
    have hallows : allowsType (.object fields) value = true := (Bool.and_eq_true _ _ ▸ hvalid).1
    rw [allowsType, hfield] at hallows
    cases value with
    | object members => rfl
    | _ => cases hallows
  restricted := by
    intro fields hschema htype _ hbuilds
    have hfield : (Json.object fields).field "type" = none := htype
    refine ⟨?_, fun value hvalue => ?_⟩
    · rw [smallEvaluation_builds, wellFormed] at hbuilds ⊢
      rw [field_cons_type _ (by decide), field_cons_type _ (by decide),
        field_cons_type _ (by decide)]
      exact hbuilds
    · cases value with
      | object members =>
        have hmembers : allowsMembers (.object (("type", .string "object") :: fields)) members =
            allowsMembers (.object fields) members := by
          unfold allowsMembers assertsFormat
          rw [field_cons_type _ (by decide), field_cons_type _ (by decide),
            field_cons_type _ (by decide), field_cons_type _ (by decide),
            field_cons_type _ (by decide)]
        have hallows : allowsType (.object fields) (.object members) = true := by
          rw [allowsType, hfield]
        show (true && allowsMembers _ members) =
          (allowsType (.object fields) _ && allowsMembers _ members)
        rw [hmembers, hallows]
      | _ => cases hvalue

/-- An agent that evaluates schemas so. -/
def smallToolCallApi : ToolCallApi where
  schemaToValue := schemaToValue
  validatorFor text :=
    match Json.read text with
    | some schema => smallEvaluation.validatorFor schema
    | none => .error "not JSON"
  iterErrors schema value :=
    match Json.read schema, Json.read value with
    | some schema, some value => if smallEvaluation.isValid schema value then [] else ["not valid"]
    | _, _ => ["not JSON"]
  toolToValue tool := .ok tool.name
  toolsToString _ := .ok "[]"
  parseChatMessage _ _ := .ok (.recognized [])
  debugStr text := text

theorem smallToolCallApi_evaluates : smallToolCallApi.Evaluates smallEvaluation where
  schemaToValue _ := rfl
  validatorFor schema := by
    show (match Json.read schema.render with
      | some schema => smallEvaluation.validatorFor schema
      | none => .error "not JSON") = _
    rw [Json.read_render]
  iterErrors schema value := by
    show (match Json.read schema.render, Json.read value.render with
      | some schema, some value =>
        if smallEvaluation.isValid schema value then [] else ["not valid"]
      | _, _ => ["not JSON"]) = [] ↔ _
    rw [Json.read_render, Json.read_render]
    dsimp only
    split <;> simp_all

/-- A tool of the Responses endpoint. -/
def toolWith (name : String) (schema : Fields) : Json :=
  .object [("type", .string "function"), ("name", .string name), ("parameters", .object schema)]

/-- The weather at a place, with a title and a dialect. -/
def weatherSchema : Fields :=
  [("$schema", .string defaultDialect), ("title", .string "Weather"), ("type", .string "object"),
    ("properties", .object [("place", .object [("type", .string "string")])]),
    ("required", .array [.string "place"]), ("additionalProperties", .bool false)]

theorem weatherSchema_convertible : Convertible smallEvaluation weatherSchema where
  names := by decide
  builds := rfl
  dialect := Or.inr (Or.inl rfl)
  objects := Or.inr rfl
  keywords := by decide
  references := by
    intro target htarget
    cases htarget
  identifiers := Or.inl rfl
  required := by
    intro names properties hnames hproperties name hname
    have hplace : asStrings (.array [.string "place"]) = some names := by
      rw [show Json.array [.string "place"] = .array (names.map .string)
        from Option.some.inj hnames]
      exact asStrings_map names
    cases hplace
    cases hproperties
    rw [List.mem_singleton.mp hname]
    rfl

/-- The tool with that schema is built, and it takes a place and refuses a number. -/
theorem toolSchemas_keepMeaning_weather : ∃ validated validator,
    toolsOf .responses [toolWith "weather" weatherSchema] = some (.ok validated) ∧
    ToolCallValidator.fromTools smallToolCallApi validated = .ok validator ∧
    validator.validate smallToolCallApi
      ⟨"1", "weather", .validJson (Json.object [("place", .string "here")]).render⟩ = .ok () ∧
    validator.validate smallToolCallApi
      ⟨"2", "weather", .validJson (Json.object [("place", .number 7)]).render⟩ ≠ .ok () := by
  have hsupported : ∀ tool ∈ [toolWith "weather" weatherSchema],
      Supported smallEvaluation .responses tool := by
    intro tool htool
    rw [List.mem_singleton.mp htool]
    exact ⟨"function", rfl, fun _ => ⟨_, "weather", rfl, rfl, ⟨none, rfl⟩,
      Or.inr (Or.inr ⟨weatherSchema, rfl, weatherSchema_convertible⟩)⟩⟩
  obtain ⟨validated, validator, htools, hbuilt, haccepts⟩ :=
    toolSchemas_keepMeaning smallEvaluation_lawful smallToolCallApi_evaluates hsupported
  have hweather := haccepts "weather" weatherSchema rfl
  refine ⟨validated, validator, htools, hbuilt, ?_, ?_⟩
  · exact (hweather "1" _ (Or.inr rfl)).mpr rfl
  · rw [ne_eq, hweather "2" _ (Or.inr rfl)]
    decide

/-- The tool is built, and its calls are taken if and only if the schema accepts their arguments. -/
def ToolKept (evaluation : Evaluation) (api : ToolCallApi) (endpoint : ToolEndpoint) (tool : Json)
    (name : String) (fields : Fields) : Prop :=
  ∃ validated validator, toolsOf endpoint [tool] = some (.ok validated) ∧
    ToolCallValidator.fromTools api validated = .ok validator ∧
    ∀ id value, (validator.validate api ⟨id, name, .validJson value.render⟩ = .ok () ↔
      evaluation.isValid (.object fields) value = true)

/-- A tool of which another schema is compiled, with another meaning. -/
theorem not_toolKept {name : String} {fields left : Fields}
    (hleft : Convertible smallEvaluation left)
    (hconverted : toolsOf .responses [toolWith name fields] =
      some (.ok [⟨name, .schema (Json.object (convertedFields left)).render⟩]))
    {value : Json} (hrefused : smallEvaluation.isValid (.object fields) value = false)
    (htaken : smallEvaluation.isValid (.object (convertedFields left)) value = true) :
    ¬ ToolKept smallEvaluation smallToolCallApi .responses (toolWith name fields) name fields := by
  rintro ⟨validated, validator, htools, hbuilt, haccepts⟩
  rw [hconverted] at htools
  cases htools
  have hstrategy := hleft.strategy smallEvaluation_lawful smallToolCallApi_evaluates name
  rw [ToolCallValidator.fromTools, strategiesFromTools, hstrategy] at hbuilt
  cases hbuilt
  have hnoErrors : smallToolCallApi.iterErrors (Json.object (convertedFields left)).render
      value.render = [] :=
    (smallToolCallApi_evaluates.iterErrors _ _).mpr htaken
  have hlookup : [(name,
      ValidationStrategy.schema (Json.object (convertedFields left)).render)].lookup name =
      some (.schema (Json.object (convertedFields left)).render) := by
    rw [List.lookup_cons, beq_self_eq_true]
  have hvalid := (haccepts "1" value).mp ((validate_iff_noErrors hlookup "1" _).mpr hnoErrors)
  rw [hrefused] at hvalid
  cases hvalid

/-- Objects that are not empty. -/
def nonemptySchema : Fields := [("type", .string "object"), ("minProperties", .number 1)]

/-- What is left of it. -/
def objectSchema : Fields := [("type", .string "object")]

theorem objectSchema_convertible : Convertible smallEvaluation objectSchema where
  names := by decide
  builds := rfl
  dialect := Or.inl rfl
  objects := Or.inr rfl
  keywords := by decide
  references := by
    intro target htarget
    cases htarget
  identifiers := Or.inl rfl
  required := by
    intro names properties hnames
    cases hnames

/-- A day. -/
def daySchema : Fields :=
  [("type", .string "object"),
    ("properties", .object
      [("day", .object [("type", .string "string"), ("format", .string "date")])])]

theorem daySchema_convertible : Convertible smallEvaluation daySchema where
  names := by decide
  builds := rfl
  dialect := Or.inl rfl
  objects := Or.inr rfl
  keywords := by decide
  references := by
    intro target htarget
    cases htarget
  identifiers := Or.inl rfl
  required := by
    intro names properties hnames
    cases hnames

/-- The day in a dialect that checks its format. -/
def datedSchema : Fields :=
  ("$schema", .string "http://json-schema.org/draft-07/schema#") :: daySchema

/-- **Another keyword is lost, and another dialect**: a schema refuses the empty object, and one
refuses a day that is no date, which the validators of the agent take. -/
theorem toolSchemas_loseMeaning :
    ¬ ToolKept smallEvaluation smallToolCallApi .responses
      (toolWith "lookup" nonemptySchema) "lookup"
      nonemptySchema ∧
    ¬ ToolKept smallEvaluation smallToolCallApi .responses
      (toolWith "calendar" datedSchema) "calendar"
      datedSchema ∧
    ¬ ∀ (evaluation : Evaluation) (api : ToolCallApi) (endpoint : ToolEndpoint) (tool : Json) (name : String)
      (fields : Fields), evaluation.Lawful → api.Evaluates evaluation →
      sentFunction endpoint tool = some (name, some fields) → (fields.map (·.1)).Nodup →
      evaluation.Builds (.object fields) → fields.lookup "type" = some (.string "object") →
      ToolKept evaluation api endpoint tool name fields := by
  have hlookup : ¬ ToolKept smallEvaluation smallToolCallApi .responses
      (toolWith "lookup" nonemptySchema) "lookup"
      nonemptySchema :=
    not_toolKept objectSchema_convertible rfl
      (show smallEvaluation.isValid (.object nonemptySchema) (.object []) = false by decide) rfl
  have hcalendar : ¬ ToolKept smallEvaluation smallToolCallApi .responses
      (toolWith "calendar" datedSchema)
      "calendar" datedSchema :=
    not_toolKept daySchema_convertible rfl
      (show smallEvaluation.isValid (.object datedSchema) (.object [("day", .string "soon")]) =
        false by decide) rfl
  refine ⟨hlookup, hcalendar, fun hclaim => hlookup ?_⟩
  exact hclaim smallEvaluation smallToolCallApi .responses
    (toolWith "lookup" nonemptySchema) "lookup"
    nonemptySchema smallEvaluation_lawful smallToolCallApi_evaluates rfl (by decide) rfl rfl

end Paddler
