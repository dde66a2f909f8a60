import Mathlib.Data.List.Sort
import Mathlib.Data.String.Basic
import Mathlib.Tactic.Tauto
import Paddler.Library.JsonPointer
import Paddler.Library.Worklist

/-!
# The schemas of the OpenAI document

Model of `strict_chat_completion_schema.rs`: the components of an OpenAPI document that a root
component reaches become the definitions of one JSON schema, rewritten from the dialect of OpenAPI,
and some places of it are closed.  A `BTreeMap` is its entries in the order of their keys.

* `transformNode`, `collectComponentRefs`, `transitiveClosure`, `strictChatCompletionSchema` — the
  assembly.
* `transitiveClosure_exact` — **the definitions are the components that can be reached**; a
  component that is missing is named.
* `transformNode_idempotent` — **a schema in the new dialect stays as it is.**
* `assembled_selfContained` — **what the assembled schema refers to is in it.**
* `strict_targets` — every place that was asked to be closed is closed in the end.
-/

set_option autoImplicit false

namespace Paddler

open JsonSchema Worklist

namespace StrictSchema

/-! ## References -/

def componentRefPrefix : String := "#/components/schemas/"

def dialect : String := "https://json-schema.org/draft/2020-12/schema"

def stripPrefix (start text : String) : Option String :=
  (text.toList.dropPrefix? start.toList).map String.ofList

/-- `format!("#/$defs/\x7bname\x7d")`. -/
def definitionRef (name : String) : String := "#/$defs/" ++ name

/-- The component that a field refers to. -/
def componentRef (key : String) : Json → Option String
  | .string reference => if key = "$ref" then stripPrefix componentRefPrefix reference else none
  | _ => none

/-- `rewrite_ref` of a string; of anything else it is `transform_node`. -/
def rewriteRef (reference : String) : String :=
  match stripPrefix componentRefPrefix reference with
  | none => reference
  | some name => definitionRef name

/-! ## The new dialect -/

/-- The loop of `unique_strings`. -/
def uniqueFrom (seen : List String) : List Json → List Json
  | [] => []
  | value :: values =>
    if value.render ∈ seen then uniqueFrom seen values
    else value :: uniqueFrom (value.render :: seen) values

def uniqueStrings (values : List Json) : List Json := uniqueFrom [] values

def isBoolean : Json → Bool
  | .bool _ => true
  | _ => false

/-- The keywords that `transform_object` leaves out. -/
def dropsField (key : String) (value : Json) : Bool :=
  key == "nullable" || key == "$recursiveAnchor" || key == "$recursiveRef" ||
    (key == "exclusiveMinimum" || key == "exclusiveMaximum") && isBoolean value

/-- What `transform_object` puts under a key; `transformed` is what `transform_node` makes of the
value. -/
def keptValue (key : String) (transformed : Json) : Json → Json
  | .array entries => if key = "required" then .array (uniqueStrings entries) else transformed
  | .string reference => if key = "$ref" then .string (rewriteRef reference) else transformed
  | _ => transformed

/-- The field `nullable` is `true`. -/
def isNullable (fields : List (String × Json)) : Bool :=
  match fields.lookup "nullable" with
  | some (.bool value) => value
  | _ => false

/-- The end of `transform_object`. -/
def wrapNullable (nullable : Bool) (transformed : List (String × Json)) : Json :=
  if nullable then
    .object [("anyOf", .array [.object transformed, .object [("type", .string "null")]])]
  else .object transformed

mutual

def transformNode : Json → Json
  | .array items => .array (transformItems items)
  | .object object => wrapNullable (isNullable object) (transformFields object)
  | other => other

def transformItems : List Json → List Json
  | [] => []
  | item :: items => transformNode item :: transformItems items

/-- The loop of `transform_object`.  The keys of an object differ, so that an insertion comes
last. -/
def transformFields : List (String × Json) → List (String × Json)
  | [] => []
  | (key, value) :: fields =>
    if dropsField key value then transformFields fields
    else (key, keptValue key (transformNode value) value) :: transformFields fields

end

/-! ## The closure -/

/-- `BTreeSet::insert`. -/
def insertName (name : String) (found : List String) : List String :=
  if name ∈ found then found else found.orderedInsert (· ≤ ·) name

mutual

def collectComponentRefs : Json → List String → List String
  | .array items, found => collectFromItems items found
  | .object object, found => collectFromFields object found
  | _, found => found

def collectFromItems : List Json → List String → List String
  | [], found => found
  | item :: items, found => collectFromItems items (collectComponentRefs item found)

def collectFromFields : List (String × Json) → List String → List String
  | [], found => found
  | (key, value) :: fields, found =>
    match componentRef key value with
    | some name => collectFromFields fields (insertName name found)
    | none => collectFromFields fields (collectComponentRefs value found)

end

/-- The components, and what they refer to. -/
def componentGraph (components : Json) : NamedGraph String Json where
  entries := match components with
    | .object fields => fields
    | _ => []
  references := fun component => collectComponentRefs component []

inductive SchemaError where
  | unknownComponent (name : String)
  | notAnObject (pointer : String) (other : Json)
  | notFound (pointer : String)

/-- The text of the error. -/
def SchemaError.message : SchemaError → String
  | .unknownComponent name => "schema references unknown component " ++ name.quote
  | .notAnObject pointer other =>
    "strict target " ++ pointer.quote ++ " is not an object: " ++ other.render
  | .notFound pointer =>
    "strict target " ++ pointer.quote ++ " was not found in the assembled schema"

def transitiveClosure (components : Json) (rootName : String) :
    Except SchemaError (List (String × Json)) :=
  match close (componentGraph components) [] [rootName] with
  | .ok reachable => .ok (reachable.insertionSort fun entry other => entry.1 ≤ other.1)
  | .error name => .error (.unknownComponent name)

/-! ## The assembly -/

def unevaluatedProperties : String := "unevaluatedProperties"

/-- The place is closed. -/
def closeTarget : Json → Json
  | .object target => .object (Json.insertField unevaluatedProperties (.bool false) target)
  | other => other

/-- One pass of the loop over the pointers. -/
def strictTarget (schema : Json) (pointer : String) : Except SchemaError Json :=
  match Json.pointerTokens pointer with
  | none => .error (.notFound pointer)
  | some tokens =>
    match schema.resolve tokens with
    | some (.object _) => .ok (Json.modify closeTarget tokens schema)
    | some other => .error (.notAnObject pointer other)
    | none => .error (.notFound pointer)

/-- The schema before any place of it is closed. -/
def assemble (rootName : String) (closure : List (String × Json)) : Json :=
  .object
    [("$schema", .string dialect), ("$ref", .string (definitionRef rootName)),
      ("$defs", .object (closure.map fun entry => (entry.1, transformNode entry.2)))]

def strictChatCompletionSchema (components : Json) (rootName : String)
    (strictPointers : List String) :
    Except SchemaError Json := do
  let closure ← transitiveClosure components rootName
  strictPointers.foldlM strictTarget (assemble rootName closure)

/-! ## What is referred to -/

mutual

/-- The components that a schema refers to, at any depth. -/
def componentRefs : Json → List String
  | .array items => componentRefsOfItems items
  | .object object => componentRefsOfFields object
  | _ => []

def componentRefsOfItems : List Json → List String
  | [] => []
  | item :: items => componentRefs item ++ componentRefsOfItems items

def componentRefsOfFields : List (String × Json) → List String
  | [] => []
  | (key, value) :: fields =>
    (match componentRef key value with
      | some name => [name]
      | none => componentRefs value) ++ componentRefsOfFields fields

end

/-- The components that are reached from the root. -/
inductive Referenced (components : Json) (rootName : String) : String → Prop where
  | root : Referenced components rootName rootName
  | next {name target : String} {component : Json} : Referenced components rootName name →
      components.field name = some component → target ∈ componentRefs component →
      Referenced components rootName target

theorem mem_insertName {name other : String} {found : List String} :
    other ∈ insertName name found ↔ other = name ∨ other ∈ found := by
  unfold insertName
  split
  · rename_i hmem
    constructor
    · exact .inr
    · rintro (rfl | hother)
      · exact hmem
      · exact hother
  · exact List.mem_orderedInsert _

mutual

theorem mem_collectComponentRefs {name : String} :
    ∀ {node : Json} {found : List String},
      name ∈ collectComponentRefs node found ↔ name ∈ found ∨ name ∈ componentRefs node
  | .array items, found => mem_collectFromItems
  | .object object, found => mem_collectFromFields
  | .null, found | .bool _, found | .number _, found | .decimal _, found | .string _, found => by
    simp [collectComponentRefs, componentRefs]

theorem mem_collectFromItems {name : String} :
    ∀ {items : List Json} {found : List String},
      name ∈ collectFromItems items found ↔ name ∈ found ∨ name ∈ componentRefsOfItems items
  | [], found => by simp [collectFromItems, componentRefsOfItems]
  | item :: items, found => by
    rw [collectFromItems, componentRefsOfItems, mem_collectFromItems, mem_collectComponentRefs,
      List.mem_append, or_assoc]

theorem mem_collectFromFields {name : String} :
    ∀ {fields : List (String × Json)} {found : List String},
      name ∈ collectFromFields fields found ↔ name ∈ found ∨ name ∈ componentRefsOfFields fields
  | [], found => by simp [collectFromFields, componentRefsOfFields]
  | (key, value) :: fields, found => by
    rw [collectFromFields, componentRefsOfFields, List.mem_append]
    split
    · rw [mem_collectFromFields, mem_insertName, List.mem_singleton]
      tauto
    · rw [mem_collectFromFields, mem_collectComponentRefs, or_assoc]

end

theorem find_componentGraph (components : Json) (name : String) :
    (componentGraph components).find name = components.field name := by
  cases components <;> rfl

theorem reachable_iff {components : Json} {rootName name : String} :
    Reachable (componentGraph components) rootName name ↔ Referenced components rootName name := by
  constructor
  · intro h
    induction h with
    | root => exact .root
    | next _ hnode htarget ih =>
      rw [find_componentGraph] at hnode
      exact .next ih hnode ((mem_collectComponentRefs.mp htarget).resolve_left List.not_mem_nil)
  · intro h
    induction h with
    | root => exact .root
    | next _ hnode htarget ih =>
      exact .next ih ((find_componentGraph components _).trans hnode)
        (mem_collectComponentRefs.mpr (.inr htarget))

/-- The entries of a `BTreeMap` are in the order of their keys. -/
theorem pairwise_sorted {entries : List (String × Json)} (hnodup : (entries.map (·.1)).Nodup) :
    (entries.insertionSort fun entry other => entry.1 ≤ other.1).Pairwise fun entry other =>
      entry.1 < other.1 := by
  have hle := List.pairwise_insertionSort (fun entry other : String × Json =>
    entry.1 ≤ other.1) entries
  have hperm := List.perm_insertionSort (fun entry other : String × Json =>
    entry.1 ≤ other.1) entries
  have hne : (entries.insertionSort fun entry other => entry.1 ≤ other.1).Pairwise
      fun entry other =>
      entry.1 ≠ other.1 := List.pairwise_map.mp ((hperm.map Prod.fst).nodup_iff.mpr hnodup)
  exact (hle.and hne).imp fun hboth => lt_of_le_of_ne hboth.1 hboth.2

/-- **The closure is exact.**  It has the components that the root refers to, over however many
others, each once and in the order of their names; if one of them is missing there is no closure,
and the error names it. -/
theorem transitiveClosure_exact (components : Json) (rootName : String) :
    match transitiveClosure components rootName with
    | .ok closure =>
      closure.Pairwise (fun entry other => entry.1 < other.1) ∧
        (∀ name, Referenced components rootName name → (components.field name).isSome = true) ∧
        ∀ name component, (name, component) ∈ closure ↔
          Referenced components rootName name ∧ components.field name = some component
    | .error error =>
      ∃ name, error = .unknownComponent name ∧ Referenced components rootName name ∧
        components.field name = none := by
  have hspec := close_spec (componentGraph components) rootName
  unfold transitiveClosure
  cases hclose : close (componentGraph components) [] [rootName] with
  | ok visited =>
    rw [hclose] at hspec
    obtain ⟨hnodup, hfound, hexact⟩ := hspec
    refine ⟨pairwise_sorted hnodup, fun name hname => ?_, fun name component => ?_⟩
    · rw [← find_componentGraph]
      exact hfound name (reachable_iff.mpr hname)
    · rw [List.mem_insertionSort, hexact, reachable_iff, find_componentGraph]
  | error name =>
    rw [hclose] at hspec
    obtain ⟨hreached, hmissing⟩ := hspec
    exact ⟨name, rfl, reachable_iff.mp hreached,
      (find_componentGraph components name).symm.trans hmissing⟩

/-! ## The new dialect stays -/

theorem transformNode_isString (value : Json) :
    (transformNode value).isString = value.isString := by
  cases value with
  | object object =>
    unfold transformNode wrapNullable
    split <;> rfl
  | _ => rfl

theorem transformNode_isBoolean (value : Json) :
    isBoolean (transformNode value) = isBoolean value := by
  cases value with
  | object object =>
    unfold transformNode wrapNullable
    split <;> rfl
  | _ => rfl

/-- The values of a `required` that was rewritten differ. -/
theorem uniqueFrom_of_nodup :
    ∀ {values : List Json} {seen : List String}, (values.map Json.render).Nodup →
      (∀ value ∈ values, value.render ∉ seen) → uniqueFrom seen values = values
  | [], _, _, _ => rfl
  | value :: values, seen, hnodup, hfresh => by
    obtain ⟨hnew, hrest⟩ := List.nodup_cons.mp hnodup
    rw [uniqueFrom, if_neg (hfresh value List.mem_cons_self),
      uniqueFrom_of_nodup hrest fun other hother => ?_]
    rw [List.mem_cons, not_or]
    refine ⟨fun heq => hnew ?_, hfresh other (List.mem_cons_of_mem _ hother)⟩
    rw [← heq]
    exact List.mem_map_of_mem hother

theorem uniqueFrom_nodup :
    ∀ (values : List Json) (seen : List String),
      ((uniqueFrom seen values).map Json.render).Nodup ∧ ∀ value ∈ uniqueFrom seen values,
      value.render ∉ seen
  | [], _ => ⟨List.nodup_nil, fun _ hmem => by cases hmem⟩
  | value :: values, seen => by
    unfold uniqueFrom
    split
    · exact uniqueFrom_nodup values seen
    · rename_i hnew
      obtain ⟨hnodup, hfresh⟩ := uniqueFrom_nodup values (value.render :: seen)
      refine ⟨List.nodup_cons.mpr ⟨fun hmem => ?_, hnodup⟩, fun other hother => ?_⟩
      · obtain ⟨other, hother, heq⟩ := List.mem_map.mp hmem
        exact hfresh other hother (by rw [heq]; exact List.mem_cons_self)
      · rcases List.mem_cons.mp hother with rfl | hother
        · exact hnew
        · exact fun hseen => hfresh other hother (List.mem_cons_of_mem _ hseen)

theorem uniqueStrings_idempotent (values : List Json) :
    uniqueStrings (uniqueStrings values) = uniqueStrings values := by
  obtain ⟨hnodup, -⟩ := uniqueFrom_nodup values []
  exact uniqueFrom_of_nodup hnodup fun _ _ => List.not_mem_nil

theorem stripPrefix_eq_some {start text rest : String} (h : stripPrefix start text = some rest) :
    text = start ++ rest := by
  unfold stripPrefix at h
  obtain ⟨chars, hchars, rfl⟩ := Option.map_eq_some_iff.mp h
  obtain ⟨before, htext, hbefore⟩ := List.dropPrefix?_eq_some_iff.mp hchars
  rw [← String.toList_inj, String.toList_append, String.toList_ofList, htext, beq_iff_eq.mp hbefore]

theorem stripPrefix_definitionRef (name : String) :
    stripPrefix componentRefPrefix (definitionRef name) = none := by
  cases h : stripPrefix componentRefPrefix (definitionRef name) with
  | none => rfl
  | some rest =>
    have heq := congrArg (fun text : String => text.toList[2]?) (stripPrefix_eq_some h)
    simp only [definitionRef, componentRefPrefix, String.toList_append] at heq
    cases heq

theorem rewriteRef_idempotent (reference : String) :
    rewriteRef (rewriteRef reference) = rewriteRef reference := by
  unfold rewriteRef
  cases h : stripPrefix componentRefPrefix reference with
  | none => simp only [h]
  | some name => simp only [stripPrefix_definitionRef]

/-- What is put under a key is as much a boolean as what was there. -/
theorem isBoolean_keptValue (key : String) (value : Json) :
    isBoolean (keptValue key (transformNode value) value) = isBoolean value := by
  cases value with
  | array entries =>
    simp only [keptValue]
    split <;> rfl
  | string reference =>
    simp only [keptValue]
    split <;> rfl
  | object object => exact transformNode_isBoolean _
  | _ => rfl

theorem keptValue_idempotent {key : String} {value : Json}
    (h : transformNode (transformNode value) = transformNode value) :
    keptValue key (transformNode (keptValue key (transformNode value) value))
      (keptValue key (transformNode value) value) = keptValue key (transformNode value) value := by
  cases value with
  | array entries =>
    by_cases hkey : key = "required"
    · simp only [keptValue, if_pos hkey, uniqueStrings_idempotent]
    · simp only [keptValue, if_neg hkey]
      rw [h]
      simp only [transformNode]
  | string reference =>
    by_cases hkey : key = "$ref"
    · simp only [keptValue, if_pos hkey, rewriteRef_idempotent]
    · simp only [keptValue, if_neg hkey, transformNode]
  | object object =>
    show keptValue key (transformNode (transformNode (.object object)))
      (transformNode (.object object)) = _
    rw [h]
    unfold transformNode wrapNullable
    split <;> rfl
  | _ => rfl

theorem lookup_transformFields_nullable (fields : List (String × Json)) :
    (transformFields fields).lookup "nullable" = none := by
  induction fields with
  | nil => rfl
  | cons entry fields ih =>
    obtain ⟨key, value⟩ := entry
    unfold transformFields
    split
    · exact ih
    · rename_i hkept
      have hne : ("nullable" == key) = false := by
        refine beq_eq_false_iff_ne.mpr fun heq => hkept ?_
        subst heq
        rfl
      rw [List.lookup_cons, hne]
      exact ih

mutual

/-- **The new dialect stays as it is.** -/
theorem transformNode_twice : ∀ value : Json, transformNode (transformNode value) =
    transformNode value
  | .array items => by
    rw [transformNode, transformNode, transformItems_twice items]
  | .object object => by
    have hnot : isNullable (transformFields object) = false := by
      unfold isNullable
      rw [lookup_transformFields_nullable]
    have hbody : transformNode (.object (transformFields object)) =
        .object (transformFields object) := by
      rw [transformNode, hnot, transformFields_twice object]
      rfl
    rw [transformNode]
    unfold wrapNullable
    split
    · show Json.object [("anyOf", .array [transformNode (.object (transformFields object)), _])] = _
      rw [hbody]
      rfl
    · exact hbody
  | .null | .bool _ | .number _ | .decimal _ | .string _ => rfl

theorem transformItems_twice : ∀ items : List Json, transformItems (transformItems items) =
    transformItems items
  | [] => rfl
  | item :: items => by
    rw [transformItems, transformItems, transformNode_twice item, transformItems_twice items]

theorem transformFields_twice :
    ∀ fields : List (String × Json), transformFields (transformFields fields) =
      transformFields fields
  | [] => rfl
  | (key, value) :: fields => by
    have hvalue := transformNode_twice value
    have hfields := transformFields_twice fields
    rw [transformFields]
    split
    · exact hfields
    · rename_i hkept
      have hkept' : ¬ dropsField key (keptValue key (transformNode value) value) = true := by
        unfold dropsField at hkept ⊢
        rw [isBoolean_keptValue]
        exact hkept
      rw [transformFields, if_neg hkept', keptValue_idempotent hvalue, hfields]

end

/-! ## References of the assembled schema -/

/-- What stays of the references under a key; `kept` is what stays of those in the value. -/
def keptUnder (key : String) (kept : List String) : Json → List String
  | .string reference =>
    if key = "$dynamicRef" ∨ key = "$recursiveRef" then [reference]
    else if key = "$ref" ∧ stripPrefix componentRefPrefix reference = none then [reference]
    else []
  | .array entries => if key = "required" then referencesOfValues entries else kept
  | _ => kept

mutual

/-- The references of a schema that the new dialect leaves as they are. -/
def keptReferences : Json → List String
  | .array items => keptReferencesOfItems items
  | .object object => keptReferencesOfFields object
  | _ => []

def keptReferencesOfItems : List Json → List String
  | [] => []
  | item :: items => keptReferences item ++ keptReferencesOfItems items

def keptReferencesOfFields : List (String × Json) → List String
  | [] => []
  | (key, value) :: fields =>
    (if dropsField key value then [] else keptUnder key (keptReferences value) value) ++
      keptReferencesOfFields fields

end

/-- The reference is to the definition of a component that the schema refers to, or it was left. -/
def ComesFrom (refs kept : List String) (target : String) : Prop :=
  (∃ name ∈ refs, target = definitionRef name) ∨ target ∈ kept

theorem ComesFrom.mono {refs refs' kept kept' : List String} {target : String}
    (h : ComesFrom refs kept target) (hrefs : ∀ name ∈ refs, name ∈ refs')
    (hkept : ∀ other ∈ kept, other ∈ kept') : ComesFrom refs' kept' target := by
  rcases h with ⟨name, hname, heq⟩ | hmem
  · exact .inl ⟨name, hrefs name hname, heq⟩
  · exact .inr (hkept target hmem)

theorem uniqueFrom_subset :
    ∀ {values : List Json} {seen : List String}, ∀ value ∈ uniqueFrom seen values, value ∈ values
  | [], _, _, hmem => by cases hmem
  | first :: values, seen, value, hmem => by
    unfold uniqueFrom at hmem
    split at hmem
    · exact List.mem_cons_of_mem _ (uniqueFrom_subset value hmem)
    · rcases List.mem_cons.mp hmem with rfl | hmem
      · exact List.mem_cons_self
      · exact List.mem_cons_of_mem _ (uniqueFrom_subset value hmem)

theorem references_wrapNullable {nullable : Bool} {transformed : List (String × Json)}
    {target : String} (h : target ∈ references (wrapNullable nullable transformed)) :
    target ∈ referencesOfFields transformed := by
  unfold wrapNullable at h
  split at h
  · simpa [references, referencesOfFields, stringsUnder, stringsUnderOfFields, stringsUnderOfValues,
      referenceKeywords] using h
  · exact h

theorem comesFrom_string {key reference target : String} {rest : List (String × Json)}
    (h : target ∈ referencesOfFields
      [(key, keptValue key (transformNode (.string reference)) (.string reference))]) :
    ComesFrom (componentRefsOfFields ((key, .string reference) :: rest))
      (keptUnder key (keptReferences (.string reference)) (.string reference)) target := by
  simp only [keptValue, transformNode] at h
  by_cases href : key = "$ref"
  · subst href
    rw [if_pos rfl] at h
    have htarget : target = rewriteRef reference := by
      simpa [referencesOfFields, stringsUnderOfFields, referenceKeywords] using h
    unfold rewriteRef at htarget
    cases hstrip : stripPrefix componentRefPrefix reference with
    | none =>
      rw [hstrip] at htarget
      exact .inr (by simp [keptUnder, hstrip, htarget])
    | some name =>
      rw [hstrip] at htarget
      exact .inl ⟨name, by simp [componentRefsOfFields, componentRef, hstrip], htarget⟩
  · rw [if_neg href] at h
    have hdynamic : (key = "$dynamicRef" ∨ key = "$recursiveRef") ∧ target = reference := by
      simpa [referencesOfFields, stringsUnderOfFields, referenceKeywords, href] using h
    exact .inr (by simp [keptUnder, hdynamic.1, hdynamic.2])

mutual

/-- **What a rewritten schema refers to.** -/
theorem comesFrom_transformNode :
    ∀ {value : Json}, ∀ target ∈ references (transformNode value),
      ComesFrom (componentRefs value) (keptReferences value) target
  | .array items, target, h => comesFrom_transformItems target h
  | .object object, target, h => comesFrom_transformFields target (references_wrapNullable h)
  | .null, _, h | .bool _, _, h | .number _, _, h | .decimal _, _, h | .string _, _, h => by cases h

theorem comesFrom_transformItems :
    ∀ {items : List Json}, ∀ target ∈ referencesOfValues (transformItems items),
      ComesFrom (componentRefsOfItems items) (keptReferencesOfItems items) target
  | [], _, h => by cases h
  | item :: items, target, h => by
    rcases List.mem_append.mp h with hhere | hlater
    · exact (comesFrom_transformNode target hhere).mono (fun _ => List.mem_append_left _)
        (fun _ => List.mem_append_left _)
    · exact (comesFrom_transformItems target hlater).mono (fun _ => List.mem_append_right _)
        (fun _ => List.mem_append_right _)

theorem comesFrom_transformFields :
    ∀ {fields : List (String × Json)}, ∀ target ∈ referencesOfFields (transformFields fields),
      ComesFrom (componentRefsOfFields fields) (keptReferencesOfFields fields) target
  | [], _, h => by cases h
  | (key, value) :: fields, target, h => by
    have hlater : target ∈ referencesOfFields (transformFields fields) →
        ComesFrom (componentRefsOfFields ((key, value) :: fields))
          (keptReferencesOfFields ((key, value) :: fields))
          target := fun hmem =>
      (comesFrom_transformFields target hmem).mono (fun _ => List.mem_append_right _)
        (fun _ => List.mem_append_right _)
    rw [transformFields] at h
    split at h
    · exact hlater h
    · rename_i hkept
      have hunder : ∀ other ∈ keptUnder key (keptReferences value) value,
          other ∈ keptReferencesOfFields ((key, value) :: fields) := by
        intro other hother
        rw [keptReferencesOfFields, if_neg hkept]
        exact List.mem_append_left _ hother
      cases value with
      | string reference =>
        rw [Json.referencesOfFields_append (_, _) (transformFields fields)] at h
        rcases List.mem_append.mp h with hhere | hmem
        · exact (comesFrom_string hhere).mono (fun _ => id) hunder
        · exact hlater hmem
      | array entries =>
        have hhere : target ∈
            references (keptValue key (transformNode (.array entries)) (.array entries)) →
            ComesFrom (componentRefsOfFields ((key, .array entries) :: fields))
              (keptReferencesOfFields ((key, .array entries) :: fields)) target := by
          intro hmem
          by_cases hkey : key = "required"
          · simp only [keptValue, if_pos hkey] at hmem
            refine .inr (hunder target ?_)
            simp only [keptUnder, if_pos hkey]
            obtain ⟨value, hvalue, htarget⟩ := Json.mem_referencesOfValues.mp hmem
            exact Json.mem_referencesOfValues.mpr ⟨value, uniqueFrom_subset value hvalue, htarget⟩
          · simp only [keptValue, if_neg hkey] at hmem
            refine (comesFrom_transformNode target hmem).mono (fun _ => List.mem_append_left _)
              fun other hother => ?_
            refine hunder other ?_
            simp only [keptUnder, if_neg hkey]
            exact hother
        rw [Json.referencesOfFields_cons (by simp only [keptValue]; split <;> rfl)] at h
        rcases List.mem_append.mp h with hmem | hmem
        · exact hhere hmem
        · exact hlater hmem
      | object object =>
        rw [Json.referencesOfFields_cons (transformNode_isString _)] at h
        rcases List.mem_append.mp h with hmem | hmem
        · exact (comesFrom_transformNode target hmem).mono (fun _ => List.mem_append_left _) hunder
        · exact hlater hmem
      | _ => exact hlater h

end

/-! ## Closed places -/

theorem noNewReferences_closeTarget (value : Json) :
    Json.NoNewReferences value (closeTarget value) := by
  cases value with
  | object target =>
    exact ⟨fun hfalse => Bool.noConfusion hfalse, Json.referencesOfFields_insertField rfl rfl⟩
  | _ => exact .refl _

/-- The place is an object that allows no other properties. -/
def IsClosed (tokens : List String) (schema : Json) : Prop :=
  ∃ target, schema.resolve tokens = some (.object target) ∧
    target.lookup unevaluatedProperties = some (.bool false)

/-- **What closing a place does to the rest of a schema.** -/
structure Strengthened (schema schema' : Json) : Prop where
  references : ∀ target ∈ references schema', target ∈ references schema
  present : ∀ tokens, unevaluatedProperties ∉ tokens.dropLast →
    (schema.resolve tokens).isSome = true →
    (schema'.resolve tokens).isSome = true
  objects : ∀ tokens, unevaluatedProperties ∉ tokens →
    (schema'.resolve tokens).map isObject = (schema.resolve tokens).map isObject
  closed : ∀ tokens, unevaluatedProperties ∉ tokens → IsClosed tokens schema →
    IsClosed tokens schema'

theorem Strengthened.refl (schema : Json) : Strengthened schema schema :=
  ⟨fun _ h => h, fun _ _ h => h, fun _ _ => rfl, fun _ _ h => h⟩

theorem Strengthened.trans {schema schema' schema'' : Json} (h : Strengthened schema schema')
    (h' : Strengthened schema' schema'') : Strengthened schema schema'' where
  references := fun target htarget => h.references target (h'.references target htarget)
  present := fun tokens hnot hsome => h'.present tokens hnot (h.present tokens hnot hsome)
  objects := fun tokens hnot => (h'.objects tokens hnot).trans (h.objects tokens hnot)
  closed := fun tokens hnot hclosed => h'.closed tokens hnot (h.closed tokens hnot hclosed)

section Place

variable {token other : String} {tokens rest : List String} {value next : Json}
    {fields target : List (String × Json)}

theorem resolve_cons_modify (hnext : value.child token = some next) (other : String)
    (tokens rest : List String) :
    (Json.modify closeTarget (token :: tokens) value).resolve (other :: rest) =
        (Json.modify closeTarget tokens next).resolve rest ∧ value.resolve (other :: rest) =
          next.resolve rest ∨
      (Json.modify closeTarget (token :: tokens) value).resolve (other :: rest) =
        value.resolve (other :: rest) := by
  simp only [Json.resolve]
  rw [Json.child_modify_cons hnext]
  split
  · rename_i hsame
    rw [Json.child_of_samePlace hsame hnext]
    exact .inl ⟨rfl, rfl⟩
  · exact .inr rfl

theorem resolve_closeTarget (hother : other ≠ unevaluatedProperties) :
    (closeTarget (.object fields)).resolve (other :: rest) =
      (Json.object fields).resolve (other :: rest) :=
  congrArg (fun found : Option Json => found.bind (Json.resolve rest))
    (Json.lookup_insertField_ne hother (.bool false) fields)

theorem isObject_setChild (token : String) (new value : Json) :
    isObject (Json.setChild token new value) = isObject value := by
  cases value with
  | array values =>
    unfold Json.setChild
    cases Json.parseIndex token <;> rfl
  | _ => rfl

theorem isClosed_modify :
    ∀ (tokens : List String) {value : Json} {target : List (String × Json)},
      value.resolve tokens = some (.object target) →
      IsClosed tokens (Json.modify closeTarget tokens value)
  | [], value, target, htarget => by
    cases htarget
    exact ⟨_, rfl, Json.lookup_insertField_self ..⟩
  | token :: tokens, value, target, htarget => by
    obtain ⟨next, hnext, hrest⟩ := Option.bind_eq_some_iff.mp htarget
    obtain ⟨fields, hfields, hlookup⟩ := isClosed_modify tokens hrest
    refine ⟨fields, ?_, hlookup⟩
    rw [Json.modify_cons hnext, Json.resolve,
      Json.child_setChild_same (Json.samePlace_refl token value) hnext]
    exact hfields

theorem objects_modify :
    ∀ (tokens : List String) {value : Json} {target : List (String × Json)},
      value.resolve tokens = some (.object target) → ∀ path, unevaluatedProperties ∉ path →
        ((Json.modify closeTarget tokens value).resolve path).map isObject =
          (value.resolve path).map isObject
  | [], value, target, htarget, path, hpath => by
    cases htarget
    cases path with
    | nil => rfl
    | cons other rest =>
      exact congrArg (Option.map isObject) (resolve_closeTarget fun heq =>
        hpath (by rw [heq]; exact List.mem_cons_self))
  | token :: tokens, value, target, htarget, path, hpath => by
    obtain ⟨next, hnext, hrest⟩ := Option.bind_eq_some_iff.mp htarget
    cases path with
    | nil =>
      rw [Json.modify_cons hnext]
      exact congrArg some (isObject_setChild token _ value)
    | cons other rest =>
      rcases resolve_cons_modify hnext other tokens rest with ⟨hnew, hold⟩ | hsame
      · rw [hnew, hold]
        exact objects_modify tokens hrest rest fun hmem => hpath (List.mem_cons_of_mem _ hmem)
      · rw [hsame]

theorem present_modify :
    ∀ (tokens : List String) {value : Json} {target : List (String × Json)},
      value.resolve tokens = some (.object target) → ∀ path, unevaluatedProperties ∉ path.dropLast →
        (value.resolve path).isSome = true →
        ((Json.modify closeTarget tokens value).resolve path).isSome = true
  | _, _, _, _, [], _, _ => rfl
  | [], value, target, htarget, other :: rest, hpath, hsome => by
    cases htarget
    by_cases hother : other = unevaluatedProperties
    · -- the field itself, which is there now
      subst hother
      cases rest with
      | nil =>
        show (((Json.insertField _ _ target).lookup unevaluatedProperties).bind
          (Json.resolve [])).isSome = true
        rw [Json.lookup_insertField_self]
        rfl
      | cons next rest => exact absurd List.mem_cons_self hpath
    · show ((closeTarget (.object target)).resolve (other :: rest)).isSome = true
      rw [resolve_closeTarget hother]
      exact hsome
  | token :: tokens, value, target, htarget, other :: rest, hpath, hsome => by
    obtain ⟨next, hnext, hrest⟩ := Option.bind_eq_some_iff.mp htarget
    rcases resolve_cons_modify hnext other tokens rest with ⟨hnew, hold⟩ | hsame
    · rw [hnew]
      rw [hold] at hsome
      refine present_modify tokens hrest rest (fun hmem => hpath ?_) hsome
      cases rest with
      | nil => cases hmem
      | cons _ _ => exact List.mem_cons_of_mem _ hmem
    · rw [hsame]
      exact hsome

theorem closed_modify :
    ∀ (tokens : List String) {value : Json} {target : List (String × Json)},
      value.resolve tokens = some (.object target) → ∀ path, unevaluatedProperties ∉ path →
        IsClosed path value → IsClosed path (Json.modify closeTarget tokens value)
  | [], value, target, htarget, path, hpath, hclosed => by
    cases htarget
    cases path with
    | nil => exact ⟨_, rfl, Json.lookup_insertField_self ..⟩
    | cons other rest =>
      obtain ⟨fields, hfields, hlookup⟩ := hclosed
      refine ⟨fields, Eq.trans ?_ hfields, hlookup⟩
      exact resolve_closeTarget fun heq => hpath (by rw [heq]; exact List.mem_cons_self)
  | token :: tokens, value, target, htarget, path, hpath, hclosed => by
    obtain ⟨next, hnext, hrest⟩ := Option.bind_eq_some_iff.mp htarget
    obtain ⟨fields, hfields, hlookup⟩ := hclosed
    cases path with
    | nil =>
      cases hfields
      rw [Json.modify_cons hnext]
      refine ⟨_, rfl, ?_⟩
      by_cases htoken : unevaluatedProperties = token
      · -- there is no object below `false`
        subst htoken
        have hnext : fields.lookup unevaluatedProperties = some next := hnext
        rw [hlookup] at hnext
        cases hnext
        cases tokens <;> cases hrest
      · exact (Json.lookup_insertField_ne htoken _ fields).trans hlookup
    | cons other rest =>
      rcases resolve_cons_modify hnext other tokens rest with ⟨hnew, hold⟩ | hsame
      · rw [hold] at hfields
        unfold IsClosed
        rw [hnew]
        exact closed_modify tokens hrest rest (fun hmem => hpath (List.mem_cons_of_mem _ hmem))
          ⟨fields, hfields, hlookup⟩
      · exact ⟨fields, hsame.trans hfields, hlookup⟩

end Place

/-- One pass of the loop closes its place, and takes nothing away elsewhere. -/
theorem strictTarget_spec {schema schema' : Json} {pointer : String}
    (h : strictTarget schema pointer = .ok schema') :
    Strengthened schema schema' ∧ ∀ tokens, Json.pointerTokens pointer = some tokens →
      (schema.resolve tokens).map isObject = some true ∧ IsClosed tokens schema' := by
  unfold strictTarget at h
  split at h
  · cases h
  · rename_i tokens htokens
    split at h
    · rename_i target htarget
      cases h
      refine ⟨⟨?_, present_modify tokens htarget, objects_modify tokens htarget,
        closed_modify tokens htarget⟩, fun tokens' htokens' => ?_⟩
      · exact (Json.NoNewReferences.modify noNewReferences_closeTarget tokens schema).references
      · cases htokens.symm.trans htokens'
        exact ⟨by rw [htarget]; rfl, isClosed_modify tokens htarget⟩
    · cases h
    · cases h

/-- A pointer leads to an object. -/
def LeadsToObject (schema : Json) (pointer : String) : Prop :=
  ((Json.pointerTokens pointer).bind fun tokens => schema.resolve tokens).map isObject = some true

/-- No pointer leads through the field that the loop writes. -/
def Avoid (strictPointers : List String) : Prop :=
  ∀ pointer ∈ strictPointers, ∀ tokens, Json.pointerTokens pointer = some tokens →
    unevaluatedProperties ∉ tokens

theorem Strengthened.leadsToObject {schema schema' : Json} (h : Strengthened schema schema')
    {pointer : String} (havoid : ∀ tokens, Json.pointerTokens pointer = some tokens →
      unevaluatedProperties ∉ tokens) :
    LeadsToObject schema' pointer ↔ LeadsToObject schema pointer := by
  unfold LeadsToObject
  cases htokens : Json.pointerTokens pointer with
  | none => rfl
  | some tokens =>
    show (schema'.resolve tokens).map isObject = _ ↔ (schema.resolve tokens).map isObject = _
    rw [h.objects tokens (havoid tokens htokens)]

/-- The pointer that an error is about. -/
def SchemaError.pointer? : SchemaError → Option String
  | .unknownComponent _ => none
  | .notAnObject pointer _ | .notFound pointer => some pointer

theorem strictTarget_error {schema : Json} {pointer : String} {error : SchemaError}
    (h : strictTarget schema pointer = .error error) :
    error.pointer? = some pointer ∧ ¬ LeadsToObject schema pointer := by
  unfold strictTarget at h
  unfold LeadsToObject
  split at h
  · rename_i htokens
    cases h
    rw [htokens]
    exact ⟨rfl, fun hfalse => by cases hfalse⟩
  · rename_i tokens htokens
    rw [htokens]
    show _ ∧ ¬ (schema.resolve tokens).map isObject = some true
    split at h
    · cases h
    · rename_i other hother hresolve
      cases h
      refine ⟨rfl, fun hobject => ?_⟩
      rw [hresolve] at hobject
      cases other with
      | object target => exact hother target rfl
      | _ => cases hobject
    · rename_i hnone
      cases h
      rw [hnone]
      exact ⟨rfl, fun hfalse => by cases hfalse⟩

theorem strengthened_foldlM :
    ∀ {strictPointers : List String} {schema schema' : Json},
      strictPointers.foldlM strictTarget schema = .ok schema' → Strengthened schema schema'
  | [], schema, schema', h => by
    cases h
    exact .refl _
  | first :: strictPointers, schema, schema', h => by
    rw [List.foldlM_cons] at h
    cases hfirst : strictTarget schema first with
    | error error =>
      rw [hfirst] at h
      cases h
    | ok next =>
      rw [hfirst] at h
      exact (strictTarget_spec hfirst).1.trans (strengthened_foldlM h)

/-- **The loop over the pointers.**  It closes every place, or stops at one that was none to begin
with. -/
theorem strictTargets_spec :
    ∀ (strictPointers : List String) (schema : Json), Avoid strictPointers →
      match strictPointers.foldlM strictTarget schema with
      | .ok schema' => ∀ pointer ∈ strictPointers, LeadsToObject schema pointer ∧
          ∃ tokens, Json.pointerTokens pointer = some tokens ∧ IsClosed tokens schema'
      | .error error => ∃ pointer ∈ strictPointers, error.pointer? = some pointer ∧
          ¬ LeadsToObject schema pointer
  | [], schema, _ => fun pointer hpointer => by cases hpointer
  | first :: strictPointers, schema, havoid => by
    have hlater : Avoid strictPointers := fun pointer hpointer =>
      havoid pointer (List.mem_cons_of_mem _ hpointer)
    rw [List.foldlM_cons]
    cases hfirst : strictTarget schema first with
    | error error =>
      obtain ⟨hpointer, hnot⟩ := strictTarget_error hfirst
      exact ⟨first, List.mem_cons_self, hpointer, hnot⟩
    | ok next =>
      obtain ⟨hstrengthened, hclosed⟩ := strictTarget_spec hfirst
      have ih := strictTargets_spec strictPointers next hlater
      show match strictPointers.foldlM strictTarget next with
        | .ok schema' => ∀ pointer ∈ first :: strictPointers, LeadsToObject schema pointer ∧
            ∃ tokens, Json.pointerTokens pointer = some tokens ∧ IsClosed tokens schema'
        | .error error =>
          ∃ pointer ∈ first :: strictPointers, error.pointer? = some pointer ∧
            ¬ LeadsToObject schema pointer
      cases hrest : strictPointers.foldlM strictTarget next with
      | error error =>
        rw [hrest] at ih
        obtain ⟨pointer, hmem, hpointer, hnot⟩ := ih
        refine ⟨pointer, List.mem_cons_of_mem _ hmem, hpointer, fun hleads => hnot ?_⟩
        exact (hstrengthened.leadsToObject (hlater pointer hmem)).mpr hleads
      | ok schema' =>
        rw [hrest] at ih
        intro pointer hmem
        rcases List.mem_cons.mp hmem with rfl | hmem
        · cases htokens : Json.pointerTokens pointer with
          | none =>
            unfold strictTarget at hfirst
            rw [htokens] at hfirst
            cases hfirst
          | some tokens =>
            obtain ⟨hobject, hplace⟩ := hclosed tokens htokens
            refine ⟨?_, tokens, rfl, ?_⟩
            · unfold LeadsToObject
              rw [htokens]
              exact hobject
            · exact (strengthened_foldlM hrest).closed tokens
                (havoid pointer List.mem_cons_self tokens htokens) hplace
        · obtain ⟨hleads, hplace⟩ := ih pointer hmem
          exact ⟨(hstrengthened.leadsToObject (hlater pointer hmem)).mp hleads, hplace⟩

/-! ## The whole schema -/

/-- **The new dialect is a fixed point.**  Rewriting what was rewritten changes nothing; and what a
rewritten schema refers to are the definitions of the components that the schema referred to, and
references that were left. -/
theorem transformNode_idempotent (value : Json) :
    transformNode (transformNode value) = transformNode value ∧
      ∀ target ∈ references (transformNode value),
        (∃ name ∈ componentRefs value, target = definitionRef name) ∨
        target ∈ keptReferences value :=
  ⟨transformNode_twice value, comesFrom_transformNode⟩

/-- The reference stands in the component, and is left as it is.  A component may be a bare
string. -/
def LeftIn (component : Json) (target : String) : Prop :=
  target ∈ keptReferences component ∨ component = .string target

theorem references_assemble {rootName target : String} {closure : List (String × Json)}
    (h : target ∈ references (assemble rootName closure)) :
    target = definitionRef rootName ∨ ∃ entry ∈ closure,
      ComesFrom (componentRefs entry.2) (keptReferences entry.2) target ∨
      entry.2 = .string target := by
  have hfields : target ∈ [definitionRef rootName] ++
      referencesOfFields (closure.map fun entry => (entry.1, transformNode entry.2)) := by
    simpa [assemble, references, referencesOfFields, stringsUnder, stringsUnderOfFields,
      referenceKeywords]
      using h
  rcases List.mem_append.mp hfields with hroot | hdefs
  · exact .inl (List.mem_singleton.mp hroot)
  · right
    clear h hfields
    induction closure with
    | nil => cases hdefs
    | cons entry closure ih =>
      rw [List.map_cons, Json.referencesOfFields_append] at hdefs
      rcases List.mem_append.mp hdefs with hhere | hlater
      · refine ⟨entry, List.mem_cons_self, ?_⟩
        cases hstring : entry.2.isString with
        | false =>
          rw [Json.referencesOfFields_cons ((transformNode_isString _).trans hstring)] at hhere
          refine .inl (comesFrom_transformNode target ?_)
          simpa [referencesOfFields, stringsUnderOfFields] using hhere
        | true =>
          obtain ⟨name, component⟩ := entry
          cases component with
          | string reference =>
            right
            simp only [transformNode, referencesOfFields, stringsUnderOfFields,
              List.append_nil] at hhere
            split at hhere
            · rw [List.mem_singleton.mp hhere]
            · cases hhere
          | _ => cases hstring
      · obtain ⟨other, hother, hcomes⟩ := ih hlater
        exact ⟨other, List.mem_cons_of_mem _ hother, hcomes⟩

theorem strictChatCompletionSchema_ok {components schema : Json} {rootName : String}
    {strictPointers : List String}
    (h : strictChatCompletionSchema components rootName strictPointers = .ok schema) :
    ∃ closure, transitiveClosure components rootName = .ok closure ∧
      strictPointers.foldlM strictTarget (assemble rootName closure) = .ok schema := by
  unfold strictChatCompletionSchema at h
  cases hclosure : transitiveClosure components rootName with
  | error error =>
    rw [hclosure] at h
    cases h
  | ok closure =>
    rw [hclosure] at h
    exact ⟨closure, rfl, h⟩

/-- **The assembled schema is self-contained.**  Every reference in it names one of its definitions,
but for references of the components that are none to a component, which are left as they are. -/
theorem assembled_selfContained {components : Json} {rootName : String}
    {strictPointers : List String} {schema : Json}
    (h : strictChatCompletionSchema components rootName strictPointers = .ok schema) :
    ∀ target ∈ references schema,
      (∃ name, target = definitionRef name ∧ (schema.resolve ["$defs", name]).isSome = true) ∨
        ∃ name component, Referenced components rootName name ∧
        components.field name = some component ∧
          LeftIn component target := by
  intro target htarget
  obtain ⟨closure, hclosure, hfold⟩ := strictChatCompletionSchema_ok h
  have hexact := transitiveClosure_exact components rootName
  rw [hclosure] at hexact
  obtain ⟨-, hfound, hexact⟩ := hexact
  have hstrengthened := strengthened_foldlM hfold
  -- a component that is referred to is a definition, before and after
  have hdefined : ∀ name, Referenced components rootName name →
      (schema.resolve ["$defs", name]).isSome = true := by
    intro name hname
    refine hstrengthened.present ["$defs", name] ?_ ?_
    · show unevaluatedProperties ∉ ["$defs"]
      decide
    obtain ⟨component, hcomponent⟩ := Option.isSome_iff_exists.mp (hfound name hname)
    have hmem := (hexact name component).mpr ⟨hname, hcomponent⟩
    have hkey : name ∈ (closure.map fun entry => (entry.1, transformNode entry.2)).map (·.1) := by
      rw [List.map_map]
      exact List.mem_map_of_mem (f := fun entry : String × Json => entry.1) hmem
    obtain ⟨definition, hdefinition⟩ :=
      Option.isSome_iff_exists.mp (AssocList.lookup_isSome_of_mem hkey)
    have hresolve : (assemble rootName closure).resolve ["$defs", name] =
        ((closure.map fun entry => (entry.1, transformNode entry.2)).lookup name).bind
          (Json.resolve []) := rfl
    rw [hresolve, hdefinition]
    rfl
  rcases references_assemble (hstrengthened.references target htarget)
      with rfl | ⟨entry, hentry, hcomes⟩
  · exact .inl ⟨rootName, rfl, hdefined rootName .root⟩
  · obtain ⟨hreferenced, hcomponent⟩ := (hexact entry.1 entry.2).mp hentry
    rcases hcomes with (⟨name, hname, heq⟩ | hkept) | hstring
    · exact .inl ⟨name, heq, hdefined name (.next hreferenced hcomponent hname)⟩
    · exact .inr ⟨entry.1, entry.2, hreferenced, hcomponent, .inl hkept⟩
    · exact .inr ⟨entry.1, entry.2, hreferenced, hcomponent, .inr hstring⟩

/-- A root that refers to another component twice, one of them under `nullable`. -/
def sampleComponents : Json :=
  .object
    [("Root", .object
        [("properties", .object
            [("child", .object [("$ref", .string "#/components/schemas/Child")]),
              ("other", .object [("$ref", .string "#/components/schemas/Child"),
                ("nullable", .bool true)])]),
          ("required", .array [.string "child", .string "child"])]),
      ("Child", .object [("type", .string "object")]), ("Unused", .null)]

theorem sampleComponents_assemble :
    (strictChatCompletionSchema sampleComponents "Root" ["/$defs/Root", "/$defs/Child"]).isOk =
      true := by
  decide +kernel

theorem assembled_selfContained_sample :
    ∃ schema, strictChatCompletionSchema sampleComponents "Root" ["/$defs/Root", "/$defs/Child"] =
      .ok schema ∧
      ∀ target ∈ references schema,
        (∃ name, target = definitionRef name ∧ (schema.resolve ["$defs", name]).isSome = true) ∨
          ∃ name component, Referenced sampleComponents "Root" name ∧ sampleComponents.field name =
            some component ∧
            LeftIn component target := by
  cases h : strictChatCompletionSchema sampleComponents "Root" ["/$defs/Root", "/$defs/Child"] with
  | ok schema => exact ⟨schema, rfl, assembled_selfContained h⟩
  | error error =>
    have hok := sampleComponents_assemble
    rw [h] at hok
    cases hok

/-- **Every strict target is closed.**  In the end each of the pointers leads to an object that
allows no other properties, whatever the pointers after it closed; if there is no schema, a
component is missing, or one of the pointers does not lead to an object of the schema without any
place closed. -/
theorem strict_targets {strictPointers : List String} (havoid : Avoid strictPointers)
    (components : Json) (rootName : String) :
    match strictChatCompletionSchema components rootName strictPointers with
    | .ok schema => ∃ closure, transitiveClosure components rootName = .ok closure ∧
        ∀ pointer ∈ strictPointers, LeadsToObject (assemble rootName closure) pointer ∧
          ∃ tokens, Json.pointerTokens pointer = some tokens ∧ IsClosed tokens schema
    | .error error => transitiveClosure components rootName = .error error ∨
        ∃ closure, transitiveClosure components rootName = .ok closure ∧ ∃ pointer ∈ strictPointers,
          error.pointer? = some pointer ∧ ¬ LeadsToObject (assemble rootName closure) pointer := by
  unfold strictChatCompletionSchema
  cases hclosure : transitiveClosure components rootName with
  | error error => exact .inl rfl
  | ok closure =>
    have hspec := strictTargets_spec strictPointers (assemble rootName closure) havoid
    show match strictPointers.foldlM strictTarget (assemble rootName closure) with
      | .ok schema => _
      | .error error => _
    cases hfold : strictPointers.foldlM strictTarget (assemble rootName closure) with
    | ok schema =>
      rw [hfold] at hspec
      exact ⟨closure, rfl, hspec⟩
    | error error =>
      rw [hfold] at hspec
      exact .inr ⟨closure, rfl, hspec⟩

theorem strict_targets_sample :
    match strictChatCompletionSchema sampleComponents "Root" ["/$defs/Root", "/$defs/Child"] with
    | .ok schema => ∃ closure, transitiveClosure sampleComponents "Root" = .ok closure ∧
        ∀ pointer ∈ ["/$defs/Root", "/$defs/Child"],
        LeadsToObject (assemble "Root" closure) pointer ∧
          ∃ tokens, Json.pointerTokens pointer = some tokens ∧ IsClosed tokens schema
    | .error error => transitiveClosure sampleComponents "Root" = .error error ∨
        ∃ closure, transitiveClosure sampleComponents "Root" = .ok closure ∧
          ∃ pointer ∈ ["/$defs/Root", "/$defs/Child"],
            error.pointer? = some pointer ∧ ¬ LeadsToObject (assemble "Root" closure) pointer := by
  refine strict_targets (fun pointer hpointer tokens htokens => ?_) sampleComponents "Root"
  have htokens' : Json.pointerTokens pointer = some ["$defs", "Root"] ∨
      Json.pointerTokens pointer = some ["$defs", "Child"] := by
    rcases List.mem_cons.mp hpointer with rfl | hpointer
    · exact .inl (by decide)
    · rw [List.mem_singleton.mp hpointer]
      exact .inr (by decide)
  rcases htokens' with h | h
  · cases h.symm.trans htokens
    decide
  · cases h.symm.trans htokens
    decide

end StrictSchema

end Paddler
