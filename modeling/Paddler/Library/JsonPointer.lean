import Paddler.Library.JsonSchema

/-!
# Pointers into JSON values

A pointer is a list of tokens; each leads from an object or an array to one of its values.

* `Json.resolve` — the value a pointer leads to; `Json.modify` — that value is changed in its place.
* `Json.pointerTokens` — the tokens of the text of a pointer.
* `child_modify_cons` — where a token leads afterwards.
* `NoNewReferences.modify` — **a change that adds no references adds none below a pointer.**
-/

set_option autoImplicit false

namespace Json

/-! ## Fields of an object -/

/-- `Map::insert`: a field that is there keeps its place. -/
def insertField (key : String) (value : Json) : List (String × Json) → List (String × Json)
  | [] => [(key, value)]
  | entry :: fields => if entry.1 = key then (key, value) :: fields else entry ::
      insertField key value fields

theorem lookup_insertField_self (key : String) (value : Json) (fields : List (String × Json)) :
    (insertField key value fields).lookup key = some value := by
  induction fields with
  | nil => simp [insertField]
  | cons entry fields ih =>
    unfold insertField
    split
    · simp
    · rename_i hne
      have hskip : (key == entry.1) = false := by simpa using fun heq => hne heq.symm
      rw [List.lookup_cons, hskip]
      exact ih

theorem lookup_insertField_ne {key other : String} (hne : other ≠ key) (value : Json)
    (fields : List (String × Json)) :
    (insertField key value fields).lookup other = fields.lookup other := by
  have hskip : (other == key) = false := by simpa using hne
  induction fields with
  | nil =>
    unfold insertField
    rw [List.lookup_cons, hskip]
  | cons entry fields ih =>
    unfold insertField
    split
    · rename_i hkey
      rw [List.lookup_cons, List.lookup_cons, hkey, hskip]
    · rw [List.lookup_cons, List.lookup_cons, ih]

/-! ## Tokens -/

/-- The place in an array that a token stands for. -/
def parseIndex (token : String) : Option Nat :=
  match token.toList with
  | '0' :: _ :: _ => none
  | chars => if isDigits chars then token.toNat? else none

/-- The value a token leads to. -/
def child (token : String) : Json → Option Json
  | .object fields => fields.lookup token
  | .array values => (parseIndex token).bind (values[·]?)
  | _ => none

/-- Another value in that place. -/
def setChild (token : String) (new : Json) : Json → Json
  | .object fields => .object (insertField token new fields)
  | .array values =>
    match parseIndex token with
    | some index => .array (values.set index new)
    | none => .array values
  | value => value

/-- Two tokens lead to the same place. -/
def SamePlace (token other : String) : Json → Prop
  | .array _ => parseIndex token = parseIndex other
  | _ => token = other

instance (token other : String) : ∀ value : Json, Decidable (SamePlace token other value)
  | .array _ => inferInstanceAs (Decidable (parseIndex token = parseIndex other))
  | .null | .bool _ | .number _ | .decimal _ | .string _ | .object _ =>
    inferInstanceAs (Decidable (token = other))

theorem samePlace_refl (token : String) (value : Json) : SamePlace token token value := by
  cases value <;> rfl

theorem child_setChild_same {token other : String} {value old : Json}
    (hsame : SamePlace token other value) (hold : value.child token = some old) (new : Json) :
    (setChild token new value).child other = some new := by
  cases value with
  | object fields =>
    cases hsame
    exact lookup_insertField_self token new fields
  | array values =>
    have hsame : parseIndex token = parseIndex other := hsame
    unfold child at hold
    cases hindex : parseIndex token with
    | none =>
      rw [hindex] at hold
      cases hold
    | some index =>
      rw [hindex] at hold
      have hlt := (List.getElem?_eq_some_iff.mp hold).1
      unfold setChild
      rw [hindex]
      unfold child
      rw [← hsame, hindex]
      exact List.getElem?_set_self hlt
  | _ => cases hold

theorem child_setChild_other {token other : String} {value : Json}
    (hne : ¬ SamePlace token other value) (new : Json) :
    (setChild token new value).child other = value.child other := by
  cases value with
  | object fields => exact lookup_insertField_ne (fun heq => hne heq.symm) new fields
  | array values =>
    have hne : parseIndex token ≠ parseIndex other := hne
    unfold setChild
    cases hindex : parseIndex token with
    | none => rfl
    | some index =>
      unfold child
      cases hother : parseIndex other with
      | none => rfl
      | some place =>
        refine List.getElem?_set_ne fun heq => hne ?_
        rw [hindex, hother, heq]
  | _ => rfl

/-! ## Pointers -/

/-- The value that the tokens lead to. -/
def resolve : List String → Json → Option Json
  | [], value => some value
  | token :: tokens, value => (value.child token).bind (resolve tokens)

/-- The value that the tokens lead to is changed in its place. -/
def modify (change : Json → Json) : List String → Json → Json
  | [], value => change value
  | token :: tokens, value =>
    match value.child token with
    | some next => setChild token (modify change tokens next) value
    | none => value

/-- `str::replace` of `~` and a character. -/
def replaceEscape (escaped replacement : Char) : List Char → List Char
  | '~' :: c :: chars =>
    if c = escaped then replacement :: replaceEscape escaped replacement chars
    else '~' :: replaceEscape escaped replacement (c :: chars)
  | c :: chars => c :: replaceEscape escaped replacement chars
  | [] => []

/-- `str::split` at a slash. -/
def splitSlash : List Char → List (List Char)
  | [] => [[]]
  | c :: chars =>
    if c = '/' then [] :: splitSlash chars
    else
      match splitSlash chars with
      | [] => [[c]]
      | part :: parts => (c :: part) :: parts

/-- The tokens of a pointer.  One that is not empty starts with a slash. -/
def pointerTokens (pointer : String) : Option (List String) :=
  match pointer.toList with
  | [] => some []
  | '/' :: chars =>
    some ((splitSlash chars).map fun token =>
      String.ofList (replaceEscape '0' '~' (replaceEscape '1' '/' token)))
  | _ => none

theorem modify_cons {token : String} {value next : Json} (hnext : value.child token = some next)
    (change : Json → Json) (tokens : List String) :
    modify change (token :: tokens) value = setChild token (modify change tokens next) value := by
  rw [modify, hnext]

/-- Below the token that was taken there is what was changed; elsewhere there is what was there. -/
theorem child_modify_cons {token : String} {value next : Json}
    (hnext : value.child token = some next) (change : Json → Json) (tokens : List String)
    (other : String) :
    (modify change (token :: tokens) value).child other =
      if SamePlace token other value then some (modify change tokens next)
      else value.child other := by
  rw [modify_cons hnext]
  split
  · rename_i hsame
    exact child_setChild_same hsame hnext _
  · rename_i hne
    exact child_setChild_other hne _

theorem child_of_samePlace {token other : String} {value next : Json}
    (hsame : SamePlace token other value) (hnext : value.child token = some next) :
    value.child other = some next := by
  cases value with
  | array values =>
    have hsame : parseIndex token = parseIndex other := hsame
    unfold child at hnext ⊢
    rw [← hsame]
    exact hnext
  | object fields =>
    cases hsame
    exact hnext
  | _ => cases hnext

/-! ## References -/

open JsonSchema

/-- A string. -/
def isString : Json → Bool
  | .string _ => true
  | _ => false

theorem referencesOfFields_cons {key : String} {value : Json} (hvalue : value.isString = false)
    (fields : List (String × Json)) :
    referencesOfFields ((key, value) :: fields) = references value ++
      referencesOfFields fields := by
  cases value with
  | string target => cases hvalue
  | _ => rfl

theorem referencesOfFields_append (entry : String × Json) (fields : List (String × Json)) :
    referencesOfFields (entry :: fields) = referencesOfFields [entry] ++
      referencesOfFields fields := by
  obtain ⟨key, value⟩ := entry
  cases value <;> simp [referencesOfFields, stringsUnderOfFields]

theorem mem_referencesOfFields_tail {entry : String × Json} {fields : List (String × Json)}
    {target : String} (h : target ∈ referencesOfFields fields) :
    target ∈ referencesOfFields (entry :: fields) := by
  obtain ⟨key, value⟩ := entry
  cases value with
  | string reference => exact List.mem_append_right _ h
  | _ => exact List.mem_append_right _ h

theorem mem_referencesOfFields_head {key : String} {value : Json} {fields : List (String × Json)}
    {target : String} (h : target ∈ references value) :
    target ∈ referencesOfFields ((key, value) :: fields) := by
  cases value with
  | string reference => cases h
  | _ => exact List.mem_append_left _ h

theorem mem_referencesOfFields_cons {entry : String × Json} {fields fields' : List (String × Json)}
    (hfields : ∀ target ∈ referencesOfFields fields, target ∈ referencesOfFields fields')
    {target : String} (h : target ∈ referencesOfFields (entry :: fields)) :
    target ∈ referencesOfFields (entry :: fields') := by
  obtain ⟨key, value⟩ := entry
  cases value with
  | string reference =>
    rcases List.mem_append.mp h with hhere | hlater
    · exact List.mem_append_left _ hhere
    · exact List.mem_append_right _ (hfields target hlater)
  | _ =>
    rcases List.mem_append.mp h with hhere | hlater
    · exact List.mem_append_left _ hhere
    · exact List.mem_append_right _ (hfields target hlater)

theorem referencesOfFields_insertField {key : String} {new : Json} (hstring : new.isString = false)
    (hnew : references new = []) :
    ∀ {fields : List (String × Json)}, ∀ target ∈ referencesOfFields (insertField key new fields),
      target ∈ referencesOfFields fields
  | [], target, h => by
    rw [insertField, referencesOfFields_cons hstring, hnew] at h
    exact h
  | entry :: fields, target, h => by
    unfold insertField at h
    split at h
    · rw [referencesOfFields_cons hstring, hnew, List.nil_append] at h
      exact mem_referencesOfFields_tail h
    · exact mem_referencesOfFields_cons (referencesOfFields_insertField hstring hnew) h

theorem mem_referencesOfValues {values : List Json} {target : String} :
    target ∈ referencesOfValues values ↔ ∃ value ∈ values, target ∈ references value := by
  induction values with
  | nil => simp [referencesOfValues, stringsUnderOfValues]
  | cons value values ih =>
    show target ∈ references value ++ referencesOfValues values ↔ _
    simp [ih]

/-- No reference is new. -/
structure NoNewReferences (old new : Json) : Prop where
  isString : new.isString = true → new = old
  references : ∀ target ∈ references new, target ∈ references old

theorem NoNewReferences.refl (value : Json) : NoNewReferences value value :=
  ⟨fun _ => rfl, fun _ h => h⟩

theorem NoNewReferences.insertField {old new : Json} (h : NoNewReferences old new) {key : String} :
    ∀ {fields : List (String × Json)}, fields.lookup key = some old →
      ∀ target ∈ referencesOfFields (insertField key new fields), target ∈ referencesOfFields fields
  | [], hold => by cases hold
  | entry :: fields, hold => by
    intro target htarget
    rw [List.lookup_cons] at hold
    unfold Json.insertField at htarget
    split at htarget
    · rename_i hkey
      subst hkey
      rw [beq_self_eq_true] at hold
      cases hold
      cases hstring : new.isString with
      | true =>
        rw [h.isString hstring] at htarget
        exact htarget
      | false =>
        rw [referencesOfFields_cons hstring] at htarget
        rcases List.mem_append.mp htarget with hhere | hlater
        · exact mem_referencesOfFields_head (h.references target hhere)
        · exact mem_referencesOfFields_tail hlater
    · rename_i hne
      have hskip : (key == entry.1) = false := by simpa using fun heq => hne heq.symm
      rw [hskip] at hold
      exact mem_referencesOfFields_cons (h.insertField hold) htarget

theorem NoNewReferences.setChild {old new value : Json} (h : NoNewReferences old new)
    {token : String} (hold : value.child token = some old) :
    NoNewReferences value (setChild token new value) := by
  cases value with
  | object fields => exact ⟨fun hfalse => Bool.noConfusion hfalse, h.insertField hold⟩
  | array values =>
    cases hindex : parseIndex token with
    | none =>
      unfold Json.setChild
      rw [hindex]
      exact .refl _
    | some index =>
      unfold child at hold
      rw [hindex] at hold
      have hold : values[index]? = some old := hold
      unfold Json.setChild
      rw [hindex]
      refine ⟨fun hfalse => Bool.noConfusion hfalse, fun target htarget => ?_⟩
      obtain ⟨value, hmem, hvalue⟩ := mem_referencesOfValues.mp htarget
      refine mem_referencesOfValues.mpr ?_
      rcases List.mem_or_eq_of_mem_set hmem with hkept | rfl
      · exact ⟨value, hkept, hvalue⟩
      · exact ⟨old, List.mem_of_getElem? hold, h.references target hvalue⟩
  | _ => cases hold

/-- **A change that adds no references adds none below a pointer.** -/
theorem NoNewReferences.modify {change : Json → Json}
    (hchange : ∀ value, NoNewReferences value (change value)) :
    ∀ (tokens : List String) (value : Json), NoNewReferences value (modify change tokens value)
  | [], value => hchange value
  | token :: tokens, value => by
    cases hnext : value.child token with
    | none =>
      rw [Json.modify, hnext]
      exact .refl value
    | some next =>
      rw [modify_cons hnext]
      exact (NoNewReferences.modify hchange tokens next).setChild hnext

end Json
