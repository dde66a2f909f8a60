import Paddler.Library.AssocList
import Paddler.Library.Json

/-!
# Schemas of JSON objects

What a part of a schema can be relied on for when the rest of it is left out.  The evaluation of
schemas is given; a lawful one does what the JSON Schema specification says about whole keywords.

* `references`, `identifiers` — the references in a schema, and the names that can be referred to.
* `Local`, `Settled` — the references stay within two of its keywords, and the names within one.
* `Evaluation.Lawful` — what is assumed of an evaluation.
* `Evaluation.Lawful.selected` — **a schema for objects means the same without the keywords that do
  not bear on objects**, if nothing refers to them.
-/

set_option autoImplicit false

namespace JsonSchema

open AssocList

/-- The fields of an object, as they are in its JSON. -/
abbrev Fields := List (String × Json)

/-- The value is an object. -/
def isObject : Json → Bool
  | .object _ => true
  | _ => false

/-! ## References and identifiers -/

mutual

/-- The strings under these keys, at any depth of a schema. -/
def stringsUnder (keys : List String) : Json → List String
  | .array values => stringsUnderOfValues keys values
  | .object fields => stringsUnderOfFields keys fields
  | _ => []

def stringsUnderOfValues (keys : List String) : List Json → List String
  | [] => []
  | value :: values => stringsUnder keys value ++ stringsUnderOfValues keys values

def stringsUnderOfFields (keys : List String) : List (String × Json) → List String
  | [] => []
  | (key, .string text) :: fields =>
    (if key ∈ keys then [text] else []) ++ stringsUnderOfFields keys fields
  | (_, value) :: fields => stringsUnder keys value ++ stringsUnderOfFields keys fields

end

/-- The keywords that refer to a schema. -/
def referenceKeywords : List String := ["$ref", "$dynamicRef", "$recursiveRef"]

/-- The references in a schema. -/
def references (schema : Json) : List String := stringsUnder referenceKeywords schema

def referencesOfValues (values : List Json) : List String :=
  stringsUnderOfValues referenceKeywords values

def referencesOfFields (fields : List (String × Json)) : List String :=
  stringsUnderOfFields referenceKeywords fields

/-- The keywords that give a schema a name to refer to it. -/
def identifierKeywords : List String := ["$id", "id", "$anchor", "$dynamicAnchor"]

/-- The names in a schema. -/
def identifiers (schema : Json) : List String := stringsUnder identifierKeywords schema

/-- No keyword but this one has names in it. -/
def NamesWithin (keyword : String) (fields : Fields) : Prop :=
  ∀ entry ∈ fields, entry.1 ≠ keyword → identifiers (.object [entry]) = []

/-- A reference that leads into the keyword. -/
def LeadsInto (keyword target : String) : Prop :=
  target = "#/" ++ keyword ∨ ∃ rest, target = "#/" ++ keyword ++ "/" ++ rest

/-- The references of these fields stay within `properties` and `additionalProperties`. -/
def Closed (fields : Fields) : Prop :=
  ∀ target ∈ references (.object fields),
    LeadsInto "properties" target ∨ LeadsInto "additionalProperties" target

/-- So they do, or they are to the whole schema of an object. -/
def Local (fields : Fields) : Prop :=
  ∀ target ∈ references (.object fields),
    LeadsInto "properties" target ∨ LeadsInto "additionalProperties" target ∨
      (target = "#" ∧ fields.lookup "type" = some (.string "object"))

/-! ## Parts of a schema -/

/-- The dialect of a schema that names none. -/
def defaultDialect : String := "https://json-schema.org/draft/2020-12/schema"

/-- The schema without the name of its dialect. -/
def undeclared (fields : Fields) : Fields := eraseKey "$schema" fields

/-- The part of a schema under these keywords, in its order. -/
def keptFields (keywords : List String) (fields : Fields) : Fields :=
  fields.filter fun entry => keywords.contains entry.1

/-- The keywords that say something about objects, or about how a schema is read. -/
def objectKeywords : List String :=
  ["type", "properties", "required", "additionalProperties", "patternProperties", "propertyNames",
    "minProperties", "maxProperties", "unevaluatedProperties", "dependentRequired",
    "dependentSchemas", "dependencies", "enum", "const", "allOf", "anyOf", "oneOf", "not", "if",
    "then", "else", "$ref", "$dynamicRef", "$recursiveRef", "$recursiveAnchor", "$schema",
    "$vocabulary"]

/-- What is kept refers to nothing, or only one of the keywords that are kept has names in it. -/
def Settled (keywords : List String) (fields : Fields) : Prop :=
  references (.object (keptFields keywords fields)) = [] ∨ ∃ keyword ∈ keywords,
    NamesWithin keyword fields

theorem undeclared_of_lookup {fields : Fields} (h : fields.lookup "$schema" = none) :
    undeclared fields = fields := by
  rw [List.lookup_eq_none_iff] at h
  refine List.filter_eq_self.mpr fun entry hentry => ?_
  have hne := h entry hentry
  rw [bne_comm]
  simpa using hne

theorem lookup_undeclared (fields : Fields) : (undeclared fields).lookup "$schema" = none :=
  lookup_eraseKey_self _ _

theorem lookup_undeclared_ne {keyword : String} (h : keyword ≠ "$schema") (fields : Fields) :
    (undeclared fields).lookup keyword = fields.lookup keyword := lookup_eraseKey_ne h _

theorem keptFields_undeclared {keywords : List String} (h : "$schema" ∉ keywords)
    (fields : Fields) :
    keptFields keywords (undeclared fields) = keptFields keywords fields := by
  unfold keptFields undeclared eraseKey
  rw [List.filter_filter]
  refine List.filter_congr fun entry _ => ?_
  by_cases hkey : entry.1 = "$schema"
  · simp [hkey, h]
  · simp [hkey]

theorem lookup_keptFields {keywords : List String} {key : String} (h : key ∈ keywords)
    (fields : Fields) :
    (keptFields keywords fields).lookup key = fields.lookup key := by
  induction fields with
  | nil => rfl
  | cons entry fields ih =>
    unfold keptFields at ih ⊢
    rw [List.filter_cons, List.lookup_cons]
    by_cases hkey : key = entry.1
    · subst hkey
      rw [if_pos (List.contains_iff_mem.mpr h), List.lookup_cons, beq_self_eq_true]
    · have hne : (key == entry.1) = false := by simpa using hkey
      rw [hne, ← ih]
      split
      · rw [List.lookup_cons, hne]
      · rfl

theorem nodup_keptFields {keywords : List String} {fields : Fields} (h : (fields.map (·.1)).Nodup) :
    ((keptFields keywords fields).map (·.1)).Nodup := h.sublist (List.filter_sublist.map _)

theorem lookup_keptFields_none {keywords : List String} {key : String} {fields : Fields}
    (h : fields.lookup key = none) : (keptFields keywords fields).lookup key = none := by
  rw [List.lookup_eq_none_iff] at h ⊢
  exact fun entry hentry => h entry ((List.mem_filter.mp hentry).1)

/-- References that are local are to the keywords if the schema has no type. -/
theorem Local.closed {fields : Fields} (h : Local fields) (htype : fields.lookup "type" = none) :
    Closed fields := by
  intro target htarget
  rcases h target htarget with hproperties | hadditional | ⟨-, hroot⟩
  · exact .inl hproperties
  · exact .inr hadditional
  · rw [htype] at hroot
    cases hroot

/-- Among the keywords that are kept the names are in one at most, too. -/
theorem Settled.ordered {keywords : List String} {fields : Fields} (h : Settled keywords fields) :
    references (.object (keptFields keywords fields)) = [] ∨
      ∃ keyword, NamesWithin keyword (keptFields keywords fields) := by
  rcases h with hnone | ⟨keyword, -, hwithin⟩
  · exact .inl hnone
  · exact .inr ⟨keyword, fun entry hentry => hwithin entry ((List.mem_filter.mp hentry).1)⟩

/-! ## Evaluations -/

/-- An evaluation of schemas: which can be compiled, and which values they accept. -/
structure Evaluation where
  validatorFor : Json → Except String Unit
  isValid : Json → Json → Bool

namespace Evaluation

/-- The schema is a valid one. -/
def Builds (evaluation : Evaluation) (schema : Json) : Prop :=
  evaluation.validatorFor schema = .ok ()

/-- In its dialect the schema means what it means in the default one. -/
def ReadsUndeclared (evaluation : Evaluation) (fields : Fields) : Prop :=
  evaluation.Builds (.object (undeclared fields)) ∧
    ∀ value, evaluation.isValid (.object (undeclared fields)) value =
      evaluation.isValid (.object fields) value

/-- What the specification says about whole keywords of a schema in the default dialect: its name
can be left out, the order of the keywords does not matter, some have values of one kind, those that
do not bear on objects can be left out when what remains refers to itself only, and `type`
restricts. -/
structure Lawful (evaluation : Evaluation) : Prop where
  declared : ∀ {fields : Fields}, (fields.map (·.1)).Nodup →
    fields.lookup "$schema" = some (.string defaultDialect) → evaluation.Builds (.object fields) →
    evaluation.ReadsUndeclared fields
  perm : ∀ {fields fields' : Fields}, (fields.map (·.1)).Nodup → fields.Perm fields' →
    fields.lookup "$schema" = none →
    (references (.object fields) = [] ∨ ∃ keyword, NamesWithin keyword fields) →
    evaluation.Builds (.object fields) → evaluation.Builds (.object fields') ∧
      ∀ value, evaluation.isValid (.object fields') value =
        evaluation.isValid (.object fields) value
  properties : ∀ {fields : Fields} {value : Json}, fields.lookup "$schema" = none →
    evaluation.Builds (.object fields) → fields.lookup "properties" = some value →
    ∃ members, value = .object members
  required : ∀ {fields : Fields} {value : Json}, fields.lookup "$schema" = none →
    evaluation.Builds (.object fields) → fields.lookup "required" = some value →
    ∃ names : List String, value = .array (names.map .string)
  additionalProperties : ∀ {fields : Fields}, fields.lookup "$schema" = none →
    evaluation.Builds (.object fields) → fields.lookup "additionalProperties" ≠ some .null
  ignored : ∀ {keywords : List String} {fields : Fields}, (fields.map (·.1)).Nodup →
    fields.lookup "$schema" = none →
    (∀ key ∈ fields.map (·.1), key ∈ keywords ∨ key ∉ objectKeywords) →
    Local (keptFields keywords fields) → Settled keywords fields →
    evaluation.Builds (.object fields) → evaluation.Builds (.object (keptFields keywords fields)) ∧
      ∀ value, isObject value = true →
        evaluation.isValid (.object (keptFields keywords fields)) value =
          evaluation.isValid (.object fields) value
  typed : ∀ {fields : Fields} {value : Json}, fields.lookup "$schema" = none →
    fields.lookup "type" = some (.string "object") → evaluation.Builds (.object fields) →
    evaluation.isValid (.object fields) value = true → isObject value = true
  restricted : ∀ {fields : Fields}, fields.lookup "$schema" = none → fields.lookup "type" = none →
    Closed fields → evaluation.Builds (.object fields) →
    evaluation.Builds (.object (("type", .string "object") :: fields)) ∧
      ∀ value, isObject value = true →
        evaluation.isValid (.object (("type", .string "object") :: fields)) value =
          evaluation.isValid (.object fields) value

section Selected

variable {evaluation : Evaluation} {keywords : List String} {fields : Fields}

/-- **A schema for objects means the same without the keywords that do not bear on objects**, if
nothing refers to them. -/
theorem Lawful.selected (h : evaluation.Lawful) (hkeywords : keywords.Nodup)
    (hnames : (fields.map (·.1)).Nodup) (hschema : fields.lookup "$schema" = none)
    (hothers : ∀ key ∈ fields.map (·.1), key ∈ keywords ∨ key ∉ objectKeywords)
    (hlocal : Local (keptFields keywords fields)) (hsettled : Settled keywords fields)
    (hbuilds : evaluation.Builds (.object fields)) :
    evaluation.Builds (.object (selectKeys keywords fields)) ∧ ∀ value, isObject value = true →
      evaluation.isValid (.object (selectKeys keywords fields)) value =
        evaluation.isValid (.object fields) value := by
  obtain ⟨hkept, hsame⟩ := h.ignored hnames hschema hothers hlocal hsettled hbuilds
  obtain ⟨hselected, hordered⟩ :=
    h.perm (nodup_keptFields hnames) (selectKeys_perm hkeywords hnames).symm
    (lookup_keptFields_none hschema) hsettled.ordered hkept
  refine ⟨hselected, fun value hvalue => ?_⟩
  rw [hordered value, hsame value hvalue]

/-- **It does, too, if it is said to be for objects afterwards.** -/
theorem Lawful.selected_typed (h : evaluation.Lawful) (hkeywords : keywords.Nodup)
    (hnames : (fields.map (·.1)).Nodup) (hschema : fields.lookup "$schema" = none)
    (hothers : ∀ key ∈ fields.map (·.1), key ∈ keywords ∨ key ∉ objectKeywords)
    (htype : fields.lookup "type" = none) (hlocal : Local (keptFields keywords fields))
    (hsettled : Settled keywords fields) (hbuilds : evaluation.Builds (.object fields)) :
    evaluation.Builds (.object (("type", .string "object") :: selectKeys keywords fields)) ∧
      ∀ value, isObject value = true →
        evaluation.isValid (.object (("type", .string "object") :: selectKeys keywords fields))
          value = evaluation.isValid (.object fields) value := by
  have htype' : (keptFields keywords fields).lookup "type" = none := lookup_keptFields_none htype
  have hschema' : (keptFields keywords fields).lookup "$schema" = none :=
    lookup_keptFields_none hschema
  obtain ⟨hkept, hsame⟩ := h.ignored hnames hschema hothers hlocal hsettled hbuilds
  obtain ⟨htyped, hsame'⟩ := h.restricted hschema' htype' (hlocal.closed htype') hkept
  -- then only the order differs
  have hperm := ((selectKeys_perm hkeywords hnames).symm.cons ("type", Json.string "object"))
  have hnames' : ((("type", Json.string "object") :: keptFields keywords fields).map
      (·.1)).Nodup := by
    rw [List.map_cons, List.nodup_cons]
    refine ⟨fun hmem => ?_, nodup_keptFields hnames⟩
    obtain ⟨entry, hentry, hkey⟩ := List.mem_map.mp hmem
    have hne := List.lookup_eq_none_iff.mp htype' entry hentry
    rw [hkey] at hne
    exact absurd hne (by decide)
  have hordered : references (.object (("type", .string "object") :: keptFields keywords fields)) =
      [] ∨
      ∃ keyword, NamesWithin keyword (("type", .string "object") ::
        keptFields keywords fields) := by
    rcases hsettled.ordered with hnone | ⟨keyword, hwithin⟩
    · exact .inl hnone
    · exact .inr ⟨keyword, List.forall_mem_cons.mpr ⟨fun _ => rfl, hwithin⟩⟩
  obtain ⟨hselected, hsame''⟩ := h.perm hnames' hperm hschema' hordered htyped
  refine ⟨hselected, fun value hvalue => ?_⟩
  rw [hsame'' value, hsame' value hvalue, hsame value hvalue]

end Selected

/-- A schema for objects accepts nothing else. -/
theorem Lawful.rejects {evaluation : Evaluation} (h : evaluation.Lawful) {fields : Fields}
    {value : Json} (hschema : fields.lookup "$schema" = none)
    (htype : fields.lookup "type" = some (.string "object"))
    (hbuilds : evaluation.Builds (.object fields)) (hvalue : isObject value = false) :
    evaluation.isValid (.object fields) value = false := by
  rw [← Bool.not_eq_true]
  intro hvalid
  rw [h.typed hschema htype hbuilds hvalid] at hvalue
  cases hvalue

end Evaluation

end JsonSchema
