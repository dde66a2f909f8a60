import Paddler.Agent.LlamaCpp
import Paddler.Balancer.StateDatabase
import Paddler.Library.Run

/-!
# The forms of the desktop application

Models of `join_balancer_form_handler.rs`, `start_balancer_form_handler.rs` and their data.  A form
takes what is typed into its fields, and its last button checks all of them.

How an address is parsed and whether its port can be bound are given.

* `parseI32` — the parser of the number of slots, with the kinds of its errors.
* `connect_exact` — **what `Connect` does**, whatever was typed before: the number of slots is
  always a sequence of digits, so that one of the four messages about it is never seen.
* `confirm_exact` — a cluster is started exactly when the form shows no error.
-/

set_option autoImplicit false

namespace Paddler

open Run

namespace Gui

/-! ## Numbers -/

/-- `std::num::IntErrorKind`, of an `i32`. -/
inductive IntErrorKind where
  | empty
  | invalidDigit
  | posOverflow
  | negOverflow
  deriving DecidableEq, Repr

def i32Min : Int := -(i32Max : Int) - 1

/-- `char::to_digit`, of a digit. -/
def digitOf (c : Char) : Nat := c.toNat - '0'.toNat

/-- The digits, of which some have been read. -/
def parseDigits (isNegative : Bool) (result : Int) : List Char → Except IntErrorKind Int
  | [] => .ok result
  | c :: digits =>
    if !c.isDigit then .error .invalidDigit
    else if isNegative then
      if result * 10 - digitOf c < i32Min then .error .negOverflow
      else parseDigits isNegative (result * 10 - digitOf c) digits
    else if i32Max < result * 10 + digitOf c then .error .posOverflow
    else parseDigits isNegative (result * 10 + digitOf c) digits

/-- `str::parse::<i32>`. -/
def parseI32 (text : String) : Except IntErrorKind Int :=
  match text.toList with
  | [] => .error .empty
  | ['+'] | ['-'] => .error .invalidDigit
  | '+' :: digits => parseDigits false 0 digits
  | '-' :: digits => parseDigits true 0 digits
  | digits => parseDigits false 0 digits

/-- The number that these digits write, after some others. -/
def digitsValue (result : Nat) : List Char → Nat
  | [] => result
  | c :: digits => digitsValue (result * 10 + digitOf c) digits

theorem le_digitsValue (result : Nat) (digits : List Char) :
    result ≤ digitsValue result digits := by
  induction digits generalizing result with
  | nil => exact Nat.le_refl result
  | cons c digits ih => exact Nat.le_trans (by omega) (ih (result * 10 + digitOf c))

theorem parseDigits_cons {c : Char} (h : c.isDigit = true) (result : Nat) (digits : List Char) :
    parseDigits false result (c :: digits) =
      if i32Max < ((result * 10 + digitOf c : Nat) : Int) then .error .posOverflow
      else parseDigits false ((result * 10 + digitOf c : Nat) : Int) digits := by
  have hnext : (result : Int) * 10 + (digitOf c : Int) =
      ((result * 10 + digitOf c : Nat) : Int) := by
    rw [Int.natCast_add, Int.natCast_mul]
    rfl
  rw [← hnext, parseDigits, if_neg (by rw [h]; exact Bool.false_ne_true), if_neg Bool.false_ne_true]

/-- A sequence of digits is read unless its number is too large. -/
theorem parseDigits_ok {digits : List Char} (h : digits.all Char.isDigit) {result : Nat}
    (hfits : (digitsValue result digits : Int) ≤ i32Max) :
    parseDigits false result digits = .ok (digitsValue result digits) := by
  induction digits generalizing result with
  | nil => rfl
  | cons c digits ih =>
    rw [List.all_cons, Bool.and_eq_true] at h
    have hle := le_digitsValue (result * 10 + digitOf c) digits
    have hnext : (digitsValue (result * 10 + digitOf c) digits : Int) ≤ i32Max := hfits
    rw [parseDigits_cons h.1, if_neg (by omega), ih h.2 hnext]
    rfl

theorem parseDigits_overflow {digits : List Char} (h : digits.all Char.isDigit) {result : Nat}
    (hstart : (result : Int) ≤ i32Max) (hover : i32Max < (digitsValue result digits : Int)) :
    parseDigits false result digits = .error .posOverflow := by
  induction digits generalizing result with
  | nil => exact absurd hover (Int.not_lt.mpr hstart)
  | cons c digits ih =>
    rw [List.all_cons, Bool.and_eq_true] at h
    rw [parseDigits_cons h.1]
    split
    · rfl
    · rename_i hfits
      exact ih h.2 (Int.not_lt.mp hfits) hover

/-! ## Joining a cluster -/

/-- What the application looks at of a `std::net::SocketAddr`. -/
structure SocketAddr where
  display : String
  port : UInt16
  deriving DecidableEq, Repr

/-- `join_balancer_form_data.rs`. -/
structure JoinBalancerFormData where
  agentName : String
  balancerAddress : String
  balancerAddressError : Option String
  slotsCount : String
  slotsError : Option String
  deriving DecidableEq, Repr

/-- `join_balancer_form_handler::Message`. -/
inductive JoinBalancerFormMessage where
  | setAgentName (name : String)
  | setBalancerAddress (address : String)
  | setSlotsCount (slots : String)
  | connect
  | cancel
  deriving DecidableEq, Repr

/-- `join_balancer_form_handler::Action`. -/
inductive JoinBalancerFormAction where
  | none
  | cancel
  | connectAgent (agentName : Option String) (managementAddress : String) (slots : Int)
  deriving DecidableEq, Repr

namespace JoinBalancerFormData

def ofDefault : JoinBalancerFormData := ⟨"", "", none, "", none⟩

def addressIsRequired : String := "Cluster address is required."

def addressIsInvalid : String := "Invalid address, expected format: IP:port"

def slotsAreRequired : String := "Number of slots is required."

def slotsAreNotPositive : String :=
  "Invalid number of slots (the number should be greater than zero)."

def slotsAreTooMany : String := "Number of slots is too large."

def slotsAreInvalid : String := "Invalid number of slots."

variable (parse : String → Except String SocketAddr)

/-- What `validate_and_connect` finds out about the address. -/
def checkAddress (address : String) : Option String :=
  if address.isEmpty then some addressIsRequired
  else
    match parse address with
    | .ok _ => none
    | .error _ => some addressIsInvalid

/-- What it finds out about the number of slots. -/
def checkSlots (slotsCount : String) : Except String Int :=
  if slotsCount.isEmpty then .error slotsAreRequired
  else
    match parseI32 slotsCount with
    | .ok slots => if 0 < slots then .ok slots else .error slotsAreNotPositive
    | .error .posOverflow => .error slotsAreTooMany
    | .error _ => .error slotsAreInvalid

def validateAndConnect (self : JoinBalancerFormData) :
    JoinBalancerFormData × JoinBalancerFormAction :=
  let balancerAddressError := checkAddress parse self.balancerAddress
  match checkSlots self.slotsCount with
  | .error slotsError =>
    ({ self with balancerAddressError := balancerAddressError, slotsError := some slotsError },
      .none)
  | .ok slots =>
    ({ self with balancerAddressError := balancerAddressError, slotsError := none },
      if balancerAddressError.isSome then .none
      else .connectAgent (if self.agentName.isEmpty then none else some self.agentName)
        self.balancerAddress slots)

def update (self : JoinBalancerFormData) :
    JoinBalancerFormMessage → JoinBalancerFormData × JoinBalancerFormAction
  | .setAgentName name => ({ self with agentName := name }, .none)
  | .setBalancerAddress address =>
    ({ self with balancerAddress := address, balancerAddressError := none }, .none)
  | .setSlotsCount slots =>
    (if slots.isEmpty || slots.toList.all Char.isDigit then { self with slotsCount := slots, slotsError := none }
      else self, .none)
  | .connect => self.validateAndConnect parse
  | .cancel => (self, .cancel)

/-- The form after a message. -/
def step (self : JoinBalancerFormData) (message : JoinBalancerFormMessage) : JoinBalancerFormData :=
  (self.update parse message).1

variable {parse} {form : JoinBalancerFormData}

theorem slotsCount_validateAndConnect (form : JoinBalancerFormData) :
    (form.validateAndConnect parse).1.slotsCount = form.slotsCount := by
  unfold validateAndConnect
  simp only
  split
  · rfl
  · rfl

theorem balancerAddressError_validateAndConnect (form : JoinBalancerFormData) :
    (form.validateAndConnect parse).1.balancerAddressError =
      checkAddress parse form.balancerAddress := by
  unfold validateAndConnect
  simp only
  split
  · rfl
  · rfl

/-- **The field of the slots holds nothing but digits**, whatever was typed. -/
theorem digits_reaches (h : Reaches (step parse) (fun _ _ => True) ofDefault form) :
    form.slotsCount.toList.all Char.isDigit = true := by
  refine h.invariant (fun form => form.slotsCount.toList.all Char.isDigit = true) rfl ?_
  intro form message _ hform _
  cases message with
  | setAgentName name => exact hform
  | setBalancerAddress address => exact hform
  | setSlotsCount slots =>
    simp only [step, update]
    split
    · rename_i hslots
      rcases Bool.or_eq_true_iff.mp hslots with hempty | hdigits
      · rw [String.isEmpty_iff.mp hempty]
        rfl
      · exact hdigits
    · exact hform
  | connect =>
    show ((form.validateAndConnect parse).1.slotsCount).toList.all Char.isDigit = true
    rw [slotsCount_validateAndConnect]
    exact hform
  | cancel => exact hform

theorem parseI32_digits {text : String} (h : text.toList.all Char.isDigit = true)
    (hne : text.isEmpty = false) :
    parseI32 text = parseDigits false 0 text.toList := by
  unfold parseI32
  split
  · rename_i hnil
    rw [String.isEmpty_eq_false_iff, ne_eq, ← String.toList_eq_nil_iff] at hne
    exact absurd hnil hne
  all_goals first
    | rfl
    | rename_i hsign
      rw [hsign] at h
      cases h

/-- The number that is written in the field of the slots. -/
def slots (form : JoinBalancerFormData) : Nat := digitsValue 0 form.slotsCount.toList

theorem checkSlots_digits (h : form.slotsCount.toList.all Char.isDigit = true) :
    checkSlots form.slotsCount =
      if form.slotsCount.isEmpty then .error slotsAreRequired
      else if form.slots = 0 then .error slotsAreNotPositive
      else if (form.slots : Int) ≤ i32Max then .ok form.slots
      else .error slotsAreTooMany := by
  unfold checkSlots
  split
  · rfl
  · rename_i hne
    rw [parseI32_digits h (Bool.eq_false_iff.mpr hne)]
    by_cases hfits : (form.slots : Int) ≤ i32Max
    · have hparsed : parseDigits false 0 form.slotsCount.toList = .ok (form.slots : Int) :=
        parseDigits_ok h hfits
      simp only [hparsed, hfits, if_true]
      by_cases hzero : form.slots = 0
      · rw [if_neg (by omega), if_pos hzero]
      · rw [if_pos (by omega), if_neg hzero]
    · have hparsed : parseDigits false 0 form.slotsCount.toList = .error .posOverflow :=
        parseDigits_overflow h (by decide) (Int.not_le.mp hfits)
      simp only [hparsed, hfits, if_false]
      rw [if_neg]
      intro hzero
      rw [hzero] at hfits
      exact hfits (by decide)

/-- **What `Connect` does.**  Whatever was typed before, the field of the slots holds only digits,
and the number is seen as it is written: the agent is started with that number if it is one of an
`i32` and not zero, and if the address is one; each field has its messages, of which `Invalid number
of slots.` is never shown. -/
theorem connect_exact (h : Reaches (step parse) (fun _ _ => True) ofDefault form) :
    form.slotsCount.toList.all Char.isDigit = true ∧
    (form.update parse .connect).1.balancerAddressError =
      (if form.balancerAddress.isEmpty then some addressIsRequired
      else match parse form.balancerAddress with
        | .ok _ => none
        | .error _ => some addressIsInvalid) ∧
    (form.update parse .connect).1.slotsError =
      (if form.slotsCount.isEmpty then some slotsAreRequired
      else if form.slots = 0 then some slotsAreNotPositive
      else if (form.slots : Int) ≤ i32Max then none
      else some slotsAreTooMany) ∧
    ∀ agentName managementAddress slots,
      (form.update parse .connect).2 = .connectAgent agentName managementAddress slots ↔
        agentName = (if form.agentName.isEmpty then none else some form.agentName) ∧
          managementAddress = form.balancerAddress ∧ slots = form.slots ∧ 0 < form.slots ∧
          (form.slots : Int) ≤ i32Max ∧ checkAddress parse form.balancerAddress = none := by
  have hdigits := digits_reaches h
  have hslots := checkSlots_digits hdigits
  refine ⟨hdigits, balancerAddressError_validateAndConnect form, ?_⟩
  show (form.validateAndConnect parse).1.slotsError = _ ∧ ∀ agentName managementAddress slots,
    (form.validateAndConnect parse).2 = _ ↔ _
  by_cases hempty : form.slotsCount.isEmpty = true
  · have hzero : form.slots = 0 := by
      rw [slots, String.isEmpty_iff.mp hempty]
      rfl
    rw [if_pos hempty] at hslots
    simp only [validateAndConnect, hslots, hempty, if_true]
    exact ⟨trivial, fun _ _ _ => iff_of_false nofun fun hall => by omega⟩
  rw [if_neg hempty] at hslots
  rw [if_neg hempty]
  by_cases hzero : form.slots = 0
  · rw [if_pos hzero] at hslots
    simp only [validateAndConnect, hslots, hzero, if_true]
    exact ⟨trivial, fun _ _ _ => iff_of_false nofun fun hall => by omega⟩
  rw [if_neg hzero] at hslots
  rw [if_neg hzero]
  by_cases hfits : (form.slots : Int) ≤ i32Max
  · rw [if_pos hfits] at hslots
    simp only [validateAndConnect, hslots, if_pos hfits]
    refine ⟨trivial, fun agentName managementAddress slots => ?_⟩
    cases hcheck : checkAddress parse form.balancerAddress with
    | some error => exact iff_of_false nofun fun hall => by cases hall.2.2.2.2.2
    | none =>
      simp only [Option.isSome_none, Bool.false_eq_true, if_false,
        JoinBalancerFormAction.connectAgent.injEq]
      constructor
      · rintro ⟨rfl, rfl, rfl⟩
        exact ⟨rfl, rfl, rfl, by omega, hfits, trivial⟩
      · rintro ⟨rfl, rfl, rfl, -⟩
        exact ⟨rfl, rfl, rfl⟩
  · rw [if_neg hfits] at hslots
    simp only [validateAndConnect, hslots, if_neg hfits]
    exact ⟨trivial, fun _ _ _ => iff_of_false nofun fun hall => hfits hall.2.2.2.2.1⟩

/-- Zeros before a number do not count, and a letter is not taken. -/
def sevenSlotsTyped : List JoinBalancerFormMessage :=
  [.setSlotsCount "007", .setSlotsCount "007x", .setBalancerAddress "127.0.0.1:8060"]

def sevenSlots : JoinBalancerFormData := ⟨"", "127.0.0.1:8060", none, "007", none⟩

theorem connect_exact_sevenSlots :
    (sevenSlots.update (fun text => .ok ⟨text, 8060⟩) .connect).2 =
      .connectAgent none "127.0.0.1:8060" 7 := by
  have hreached : Reaches (step fun text => .ok ⟨text, 8060⟩) (fun _ _ => True) ofDefault
      sevenSlots :=
    .runs sevenSlotsTyped (fun _ _ _ => trivial) .start
  exact ((connect_exact hreached).2.2.2 none "127.0.0.1:8060" 7).mpr ⟨rfl, rfl, rfl, by decide, by
    decide, rfl⟩

end JoinBalancerFormData

/-! ## Starting a cluster -/

/-- `model_preset.rs`. -/
structure ModelPreset (π : Type) where
  displayName : String
  model : HuggingFaceModelReference
  multimodalProjection : Option HuggingFaceModelReference
  inferenceParameters : π
  deriving DecidableEq, Repr

def ModelPreset.toBalancerDesiredState {π : Type} (self : ModelPreset π) :
    BalancerDesiredState π where
  chatTemplateOverride := none
  inferenceParameters := self.inferenceParameters
  model := .huggingFace self.model
  multimodalProjection := self.multimodalProjection.elim .none .huggingFace
  useChatTemplateOverride := false

/-- `start_balancer_form_data.rs`. -/
structure StartBalancerFormData (π : Type) where
  addModelLater : Bool
  balancerAddress : String
  balancerAddressError : Option String
  inferenceAddress : String
  inferenceAddressError : Option String
  modelError : Option String
  selectedModel : Option (ModelPreset π)
  starting : Bool
  webAdminPanelAddress : String
  webAdminPanelAddressError : Option String
  webAdminPanelAddressPlaceholder : String
  deriving DecidableEq, Repr

inductive PortCheck where
  | available
  | inUse
  | bindFailed (error : String)
  deriving DecidableEq, Repr

/-- What the operating system says about addresses. -/
structure AddressAnswers where
  parse : String → Except String SocketAddr
  checkPort : SocketAddr → PortCheck

/-- `start_balancer_form_handler::Message`. -/
inductive StartBalancerFormMessage (π : Type) where
  | setBalancerAddress (address : String)
  | setInferenceAddress (address : String)
  | setWebAdminPanelAddress (address : String)
  | selectModel (preset : ModelPreset π)
  | toggleAddModelLater (addLater : Bool)
  | confirm
  | cancel
  deriving DecidableEq, Repr

/-- `start_balancer_form_handler::Action`. -/
inductive StartBalancerFormAction (π : Type) where
  | none
  | cancel
  | startBalancer (managementAddr inferenceAddr : SocketAddr) (webAdminPanelAddr : Option SocketAddr)
      (desiredState : BalancerDesiredState π)
  deriving DecidableEq, Repr

def validateOptionalAddress (answers : AddressAnswers) (raw : String) :
    Except String (Option SocketAddr) :=
  if raw.isEmpty then .ok none
  else
    match answers.parse raw with
    | .error error => .error ("Invalid address (" ++ error ++ "), expected format: IP:port")
    | .ok addr =>
      match answers.checkPort addr with
      | .available => .ok (some addr)
      | .inUse => .error ("Port " ++ toString addr.port.toNat ++ " is already in use")
      | .bindFailed error => .error ("Cannot bind to " ++ addr.display ++ ": " ++ error)

def validateRequiredAddress (answers : AddressAnswers) (raw : String) : Except String SocketAddr :=
  match validateOptionalAddress answers raw with
  | .error error => .error error
  | .ok none => .error "Address is required."
  | .ok (some addr) => .ok addr

/-- What is wrong, if anything is. -/
def errorOf {α : Type} : Except String α → Option String
  | .error error => some error
  | .ok _ => none

theorem ok_of_errorOf {α : Type} {result : Except String α} (h : errorOf result = none) :
    ∃ value, result = .ok value := by
  cases result with
  | ok value => exact ⟨value, rfl⟩
  | error error => cases h

namespace StartBalancerFormData

variable {π : Type} [Inhabited π] (answers : AddressAnswers)

/-- The form with the errors that `validate_and_confirm` finds. -/
def validated (self : StartBalancerFormData π) : StartBalancerFormData π :=
  { self with
    modelError :=
      if !self.addModelLater && self.selectedModel.isNone then some "Please select a model."
      else none
    balancerAddressError := errorOf (validateRequiredAddress answers self.balancerAddress)
    inferenceAddressError := errorOf (validateRequiredAddress answers self.inferenceAddress)
    webAdminPanelAddressError :=
      errorOf (validateOptionalAddress answers self.webAdminPanelAddress) }

/-- The state that a cluster is started with. -/
def desiredState (self : StartBalancerFormData π) : BalancerDesiredState π :=
  if self.addModelLater then .ofDefault
  else (self.selectedModel.map ModelPreset.toBalancerDesiredState).getD .ofDefault

def validateAndConfirm (self : StartBalancerFormData π) :
    StartBalancerFormData π × StartBalancerFormAction π :=
  let form := self.validated answers
  match form.modelError, validateRequiredAddress answers self.balancerAddress,
    validateRequiredAddress answers self.inferenceAddress,
    validateOptionalAddress answers self.webAdminPanelAddress with
  | none, .ok managementAddr, .ok inferenceAddr, .ok webAdminPanelAddr =>
    ({ form with starting := true },
      .startBalancer managementAddr inferenceAddr webAdminPanelAddr self.desiredState)
  | _, _, _, _ => (form, .none)

def update (self : StartBalancerFormData π) :
    StartBalancerFormMessage π → StartBalancerFormData π × StartBalancerFormAction π
  | .selectModel preset => ({ self with selectedModel := some preset, modelError := none }, .none)
  | .setBalancerAddress address =>
    ({ self with balancerAddress := address, balancerAddressError := none }, .none)
  | .setInferenceAddress address =>
    ({ self with inferenceAddress := address, inferenceAddressError := none }, .none)
  | .setWebAdminPanelAddress address =>
    ({ self with webAdminPanelAddress := address, webAdminPanelAddressError := none }, .none)
  | .toggleAddModelLater addLater =>
    ({ self with addModelLater := addLater, modelError := if addLater then none else self.modelError }, .none)
  | .confirm => self.validateAndConfirm answers
  | .cancel => (self, .cancel)

/-- No field shows an error. -/
def ShowsNoError (self : StartBalancerFormData π) : Prop :=
  self.modelError = none ∧ self.balancerAddressError = none ∧ self.inferenceAddressError = none ∧
    self.webAdminPanelAddressError = none

/-- A cluster is started exactly when the form shows no error, and it is then marked as starting. -/
theorem confirm_exact (form : StartBalancerFormData π) :
    ((form.update answers .confirm).1.ShowsNoError ↔
      ∃ managementAddr inferenceAddr webAdminPanelAddr, (form.update answers .confirm).2 =
        .startBalancer managementAddr inferenceAddr webAdminPanelAddr form.desiredState) ∧
    ((form.update answers .confirm).1.ShowsNoError →
      (form.update answers .confirm).1.starting = true) := by
  show ((form.validateAndConfirm answers).1.ShowsNoError ↔
    ∃ managementAddr inferenceAddr webAdminPanelAddr, (form.validateAndConfirm answers).2 = _) ∧
      ((form.validateAndConfirm answers).1.ShowsNoError →
        (form.validateAndConfirm answers).1.starting = true)
  unfold validateAndConfirm
  simp only
  split
  · rename_i managementAddr inferenceAddr webAdminPanelAddr hmodel hmanagement hinference hpanel
    have hnone : ({ form.validated answers with starting := true } :
      StartBalancerFormData π).ShowsNoError :=
      ⟨hmodel, by simp only [validated, hmanagement, errorOf], by
        simp only [validated, hinference, errorOf], by simp only [validated, hpanel, errorOf]⟩
    exact ⟨iff_of_true hnone ⟨managementAddr, inferenceAddr, webAdminPanelAddr, rfl⟩, fun _ => rfl⟩
  · rename_i hsome
    have herror : ¬ (form.validated answers).ShowsNoError := by
      rintro ⟨hmodel, hmanagement, hinference, hpanel⟩
      simp only [validated] at hmanagement hinference hpanel
      obtain ⟨managementAddr, hmanagement⟩ := ok_of_errorOf hmanagement
      obtain ⟨inferenceAddr, hinference⟩ := ok_of_errorOf hinference
      obtain ⟨webAdminPanelAddr, hpanel⟩ := ok_of_errorOf hpanel
      exact hsome _ _ _ hmodel hmanagement hinference hpanel
    exact ⟨iff_of_false herror (by rintro ⟨_, _, _, hstarts⟩; cases hstarts),
      fun hnone => absurd hnone herror⟩

end StartBalancerFormData

end Gui

end Paddler
