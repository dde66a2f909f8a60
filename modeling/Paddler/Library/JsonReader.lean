import Mathlib.Data.List.Basic
import Paddler.Library.Json

/-!
# Reading a JSON text

A reader for the compact text of a value, so that a text stands for one value only.

* `Json.read` — the value of a text.
* `Json.readValue_render` — a value is read up to its end, whatever follows it.
* `Json.read_render` — **every value is read back from its text.**
-/

set_option autoImplicit false

namespace Json

/-! ## The reader -/

/-- A natural number and what follows its digits. -/
def readNat (chars : List Char) : Option (Nat × List Char) :=
  match chars.takeWhile Char.isDigit with
  | [] => none
  | digits => some (Nat.ofDigitChars 10 digits 0, chars.dropWhile Char.isDigit)

/-- The characters that a number has after its sign. -/
def isNumberChar (c : Char) : Bool :=
  c.isDigit || c = '.' || c = 'e' || c = '+' || c = '-'

/-- An integer or a decimal without its sign, and what follows it. -/
def readUnsigned (negative : Bool) (chars : List Char) : Option (Json × List Char) :=
  (readNat chars).bind fun (whole, chars) =>
    let tail := chars.takeWhile isNumberChar
    let rest := chars.dropWhile isNumberChar
    if tail = [] then some (.number (if negative then -whole else whole), rest)
    else if wellFormed : isDecimalTail tail = true then some (.decimal ⟨negative, whole, tail,
      wellFormed⟩, rest)
    else none

/-- An integer or a decimal, and what follows it. -/
def readNumber : List Char → Option (Json × List Char)
  | '-' :: rest => readUnsigned true rest
  | chars => readUnsigned false chars

/-- What follows a word. -/
def readWord (word : List Char) (chars : List Char) : Option (List Char) :=
  if word.isPrefixOf chars then some (chars.drop word.length) else none

mutual

/-- A value and what follows it, by its first character. -/
def readValue : Nat → List Char → Option (Json × List Char)
  | 0, _ => none
  | _, [] => none
  | fuel + 1, c :: rest =>
    if c = 'n' then (readWord "null".toList (c :: rest)).map fun rest => (.null, rest)
    else if c = 't' then (readWord "true".toList (c :: rest)).map fun rest => (.bool true, rest)
    else if c = 'f' then (readWord "false".toList (c :: rest)).map fun rest => (.bool false, rest)
    else if c = '\x22' then (readString (c :: rest)).map fun (s, rest) => (.string s, rest)
    else if c = '[' then
      if rest.head? = some ']' then some (.array [], rest.tail)
      else (readValues fuel rest).map fun (values, rest) => (.array values, rest)
    else if c = '\x7b' then
      if rest.head? = some '\x7d' then some (.object [], rest.tail)
      else (readMembers fuel rest).map fun (fields, rest) => (.object fields, rest)
    else readNumber (c :: rest)

/-- The values up to a closing bracket. -/
def readValues : Nat → List Char → Option (List Json × List Char)
  | 0, _ => none
  | fuel + 1, chars =>
    match readValue fuel chars with
    | some (value, ']' :: rest) => some ([value], rest)
    | some (value, ',' :: rest) =>
      (readValues fuel rest).map fun (values, rest) => (value :: values, rest)
    | _ => none

/-- The fields up to a closing brace. -/
def readMembers : Nat → List Char → Option (List (String × Json) × List Char)
  | 0, _ => none
  | fuel + 1, chars =>
    match readString chars with
    | some (key, ':' :: rest) =>
      match readValue fuel rest with
      | some (value, '\x7d' :: rest) => some ([(key, value)], rest)
      | some (value, ',' :: rest) =>
        (readMembers fuel rest).map fun (fields, rest) => ((key, value) :: fields, rest)
      | _ => none
    | _ => none

end

/-- The value of a text; nothing may follow it. -/
def read (text : String) : Option Json :=
  match readValue text.toList.length text.toList with
  | some (value, []) => some value
  | _ => none

/-! ## Numbers -/

/-- What follows begins with none of these characters. -/
def Stops (chars : Char → Bool) (rest : List Char) : Prop :=
  ∀ c, rest.head? = some c → chars c = false

/-- What follows a number does not go on with it. -/
def Ends (rest : List Char) : Prop := Stops isNumberChar rest

theorem stops_cons {p : Char → Bool} {c : Char} (h : p c = false) (rest : List Char) :
    Stops p (c :: rest) := by
  intro d hd
  cases hd
  exact h

theorem ends_cons {c : Char} (h : isNumberChar c = false) (rest : List Char) : Ends (c :: rest) :=
  stops_cons h rest

theorem Ends.noDigit {rest : List Char} (h : Ends rest) : Stops Char.isDigit rest := by
  intro c hc
  have hchar := h c hc
  simp only [isNumberChar, Bool.or_eq_false_iff] at hchar
  exact hchar.1.1.1.1

theorem takeWhile_append_stops {p : Char → Bool} {run rest : List Char}
    (hrun : ∀ c ∈ run, p c = true) (h : Stops p rest) : (run ++ rest).takeWhile p = run := by
  have hnil : rest.takeWhile p = [] := by
    cases rest with
    | nil => rfl
    | cons c rest => rw [List.takeWhile_cons_of_neg (by simp [h c rfl])]
  rw [List.takeWhile_append_of_pos hrun, hnil, List.append_nil]

theorem dropWhile_append_stops {p : Char → Bool} {run rest : List Char}
    (hrun : ∀ c ∈ run, p c = true) (h : Stops p rest) : (run ++ rest).dropWhile p = rest := by
  rw [List.dropWhile_append_of_pos hrun]
  cases rest with
  | nil => rfl
  | cons c rest => rw [List.dropWhile_cons_of_neg (by simp [h c rfl])]

theorem readNat_toDigits (n : Nat) {rest : List Char} (h : Stops Char.isDigit rest) :
    readNat (Nat.toDigits 10 n ++ rest) = some (n, rest) := by
  have hdigits : ∀ c ∈ Nat.toDigits 10 n, c.isDigit = true :=
    fun c hc => Nat.isDigit_of_mem_toDigits (by decide) (by decide) hc
  unfold readNat
  rw [takeWhile_append_stops hdigits h, dropWhile_append_stops hdigits h]
  cases hn : Nat.toDigits 10 n with
  | nil => exact absurd hn Nat.toDigits_ne_nil
  | cons c digits =>
    show some (Nat.ofDigitChars 10 (c :: digits) 0, rest) = _
    rw [← hn, Nat.ofDigitChars_ten_toDigits]

theorem toDigits_cons (n : Nat) : ∃ c digits, Nat.toDigits 10 n = c :: digits ∧
    c.isDigit = true := by
  cases hn : Nat.toDigits 10 n with
  | nil => exact absurd hn Nat.toDigits_ne_nil
  | cons c digits =>
    refine ⟨c, digits, rfl, Nat.isDigit_of_mem_toDigits (b := 10) (n := n) (by decide)
      (by decide) ?_⟩
    rw [hn]
    exact List.mem_cons_self

/-! ### The tail of a decimal -/

theorem isNumberChar_of_isDigit {c : Char} (h : c.isDigit = true) : isNumberChar c = true := by
  simp [isNumberChar, h]

theorem isNumberChar_of_isDigits {chars : List Char} (h : isDigits chars = true) :
    ∀ c ∈ chars, isNumberChar c = true := by
  intro c hc
  unfold isDigits at h
  rw [Bool.and_eq_true, List.all_eq_true] at h
  exact isNumberChar_of_isDigit (h.2 c hc)

theorem isNumberChar_of_isExponent {chars : List Char} (h : isExponent chars = true) :
    ∀ c ∈ chars, isNumberChar c = true := by
  unfold isExponent at h
  split at h
  · exact List.forall_mem_cons.mpr ⟨rfl, isNumberChar_of_isDigits h⟩
  · exact List.forall_mem_cons.mpr ⟨rfl, isNumberChar_of_isDigits h⟩
  · exact isNumberChar_of_isDigits h

/-- The tail of a decimal has only characters of a number. -/
theorem isNumberChar_of_isDecimalTail {chars : List Char} (h : isDecimalTail chars = true) :
    ∀ c ∈ chars, isNumberChar c = true := by
  unfold isDecimalTail at h
  split at h
  · rename_i chars
    obtain ⟨hdigits, hexponent⟩ := Bool.and_eq_true_iff.mp h
    refine List.forall_mem_cons.mpr ⟨rfl, ?_⟩
    rw [← List.takeWhile_append_dropWhile (p := Char.isDigit) (l := chars)]
    refine List.forall_mem_append.mpr ⟨isNumberChar_of_isDigits hdigits, ?_⟩
    split at hexponent
    · rename_i hnil
      rw [hnil]
      exact fun c hc => by cases hc
    · rename_i rest hrest
      rw [hrest]
      exact List.forall_mem_cons.mpr ⟨rfl, isNumberChar_of_isExponent hexponent⟩
    · cases hexponent
  · exact List.forall_mem_cons.mpr ⟨rfl, isNumberChar_of_isExponent h⟩
  · cases h

theorem stops_of_isDecimalTail {chars : List Char} (h : isDecimalTail chars = true)
    (rest : List Char) :
    chars ≠ [] ∧ Stops Char.isDigit (chars ++ rest) := by
  unfold isDecimalTail at h
  split at h
  · exact ⟨by simp, stops_cons rfl _⟩
  · exact ⟨by simp, stops_cons rfl _⟩
  · cases h

/-! ### Integers and decimals -/

theorem renderChars_ofNat (n : Nat) : renderChars (.number (Int.ofNat n)) = Nat.toDigits 10 n :=
  Nat.toList_repr

theorem renderChars_negSucc (n : Nat) :
    renderChars (.number (Int.negSucc n)) = '-' :: Nat.toDigits 10 (n + 1) := by
  show ("-" ++ (n + 1).repr).toList = _
  rw [String.toList_append, Nat.toList_repr]
  rfl

theorem readUnsigned_integer (negative : Bool) (n : Nat) {rest : List Char} (h : Ends rest) :
    readUnsigned negative (Nat.toDigits 10 n ++ rest) =
      some (.number (if negative then -n else n), rest) := by
  have hnone : ∀ c ∈ ([] : List Char), isNumberChar c = true := fun c hc => by cases hc
  have htail := takeWhile_append_stops hnone h
  have hrest := dropWhile_append_stops hnone h
  rw [List.nil_append] at htail hrest
  rw [readUnsigned, readNat_toDigits n h.noDigit, Option.bind_some]
  dsimp only
  rw [htail, hrest, if_pos rfl]

theorem readUnsigned_decimal (value : Decimal) {rest : List Char} (h : Ends rest) :
    readUnsigned value.negative (Nat.toDigits 10 value.whole ++ value.tail ++ rest) =
      some (.decimal value, rest) := by
  obtain ⟨hne, hstops⟩ := stops_of_isDecimalTail value.wellFormed rest
  have htail := takeWhile_append_stops (isNumberChar_of_isDecimalTail value.wellFormed) h
  have hrest := dropWhile_append_stops (isNumberChar_of_isDecimalTail value.wellFormed) h
  rw [readUnsigned, List.append_assoc, readNat_toDigits value.whole hstops, Option.bind_some]
  dsimp only
  simp only [htail, hrest, if_neg hne, value.wellFormed, dif_pos]

/-- Without a sign the first digit is not mistaken for one. -/
theorem readNumber_digits (n : Nat) (rest : List Char) :
    readNumber (Nat.toDigits 10 n ++ rest) = readUnsigned false (Nat.toDigits 10 n ++ rest) := by
  obtain ⟨c, digits, hn, hc⟩ := toDigits_cons n
  rw [hn, List.cons_append, readNumber]
  rintro rest' heq
  cases heq
  cases hc

/-- **A number is read up to its end.** -/
theorem readNumber_integer (n : Int) {rest : List Char} (h : Ends rest) :
    readNumber (renderChars (.number n) ++ rest) = some (.number n, rest) := by
  cases n with
  | ofNat n =>
    rw [renderChars_ofNat, readNumber_digits, readUnsigned_integer false n h]
    rfl
  | negSucc n =>
    rw [renderChars_negSucc, List.cons_append, readNumber, readUnsigned_integer true _ h]
    rfl

theorem readNumber_decimal (value : Decimal) {rest : List Char} (h : Ends rest) :
    readNumber (renderChars (.decimal value) ++ rest) = some (.decimal value, rest) := by
  have hread := readUnsigned_decimal value h
  show readNumber (value.chars ++ rest) = _
  unfold Decimal.chars
  cases hnegative : value.negative with
  | true =>
    rw [hnegative] at hread
    exact hread
  | false =>
    rw [hnegative] at hread
    show readNumber (Nat.toDigits 10 value.whole ++ value.tail ++ rest) = _
    rw [List.append_assoc, readNumber_digits, ← List.append_assoc, hread]

theorem renderChars_number_cons (n : Int) :
    ∃ c chars, renderChars (.number n) = c :: chars ∧ (c.isDigit = true ∨ c = '-') := by
  cases n with
  | ofNat n =>
    obtain ⟨c, digits, hn, hc⟩ := toDigits_cons n
    exact ⟨c, digits, by rw [renderChars_ofNat, hn], Or.inl hc⟩
  | negSucc n => exact ⟨'-', _, renderChars_negSucc n, Or.inr rfl⟩

theorem renderChars_decimal_cons (value : Decimal) :
    ∃ c chars, renderChars (.decimal value) = c :: chars ∧ (c.isDigit = true ∨ c = '-') := by
  show ∃ c chars, value.chars = c :: chars ∧ _
  unfold Decimal.chars
  cases value.negative with
  | true => exact ⟨'-', _, rfl, Or.inr rfl⟩
  | false =>
    obtain ⟨c, digits, hn, hc⟩ := toDigits_cons value.whole
    exact ⟨c, digits ++ value.tail, by rw [hn]; rfl, Or.inl hc⟩

/-! ## Values -/

theorem ne_of_number_head {c d : Char} (hc : c.isDigit = true ∨ c = '-') (hd : d.isDigit = false)
    (hminus : d ≠ '-') : c ≠ d := by
  rintro rfl
  rcases hc with hc | hc
  · rw [hd] at hc
    cases hc
  · exact hminus hc

theorem readValue_readNumber (fuel : Nat) {chars : List Char} (rest : List Char)
    (hcons : ∃ c chars', chars = c :: chars' ∧ (c.isDigit = true ∨ c = '-')) :
    readValue (fuel + 1) (chars ++ rest) = readNumber (chars ++ rest) := by
  obtain ⟨c, chars', rfl, hc⟩ := hcons
  have hne : ∀ d : Char, d.isDigit = false → d ≠ '-' → c ≠ d := fun d => ne_of_number_head hc
  rw [List.cons_append, readValue, if_neg (hne _ rfl (by decide)), if_neg (hne _ rfl (by decide)),
    if_neg (hne _ rfl (by decide)), if_neg (hne _ rfl (by decide)), if_neg (hne _ rfl (by decide)),
    if_neg (hne _ rfl (by decide))]

theorem renderValues_head (value : Json) (values : List Json) (rest : List Char) :
    (renderValues (value :: values) ++ rest).head? ≠ some ']' := by
  obtain ⟨c, chars, hchars, hc⟩ : ∃ c chars, renderChars value = c :: chars ∧ c ≠ ']' := by
    cases value with
    | null => exact ⟨_, _, rfl, by decide⟩
    | bool value => cases value <;> exact ⟨_, _, rfl, by decide⟩
    | number n =>
      obtain ⟨c, chars, hn, hc⟩ := renderChars_number_cons n
      exact ⟨c, chars, hn, ne_of_number_head hc rfl (by decide)⟩
    | decimal value =>
      obtain ⟨c, chars, hn, hc⟩ := renderChars_decimal_cons value
      exact ⟨c, chars, hn, ne_of_number_head hc rfl (by decide)⟩
    | string s => exact ⟨_, _, rfl, by decide⟩
    | array values => exact ⟨_, _, rfl, by decide⟩
    | object fields => exact ⟨_, _, rfl, by decide⟩
  cases values with
  | nil => simpa [renderValues, hchars] using hc
  | cons next values => simpa [renderValues, hchars] using hc

theorem renderFields_head (field : String × Json) (fields : List (String × Json))
    (rest : List Char) :
    (renderFields (field :: fields) ++ rest).head? ≠ some '\x7d' := by
  cases fields with
  | nil => simp [renderFields, renderString]
  | cons next fields => simp [renderFields, renderString]

/-- **What is read back with enough fuel**: a value, the values of an array and the fields of an
object. -/
structure ReadsBack (fuel : Nat) : Prop where
  value : ∀ value rest, (renderChars value).length ≤ fuel → Ends rest →
    readValue fuel (renderChars value ++ rest) = some (value, rest)
  values : ∀ value values rest, (renderValues (value :: values)).length < fuel →
    readValues fuel (renderValues (value :: values) ++ ']' :: rest) = some (value :: values, rest)
  members : ∀ field fields rest, (renderFields (field :: fields)).length < fuel →
    readMembers fuel (renderFields (field :: fields) ++ '\x7d' :: rest) =
      some (field :: fields, rest)

theorem ReadsBack.succ_value {fuel : Nat} (ih : ReadsBack fuel) (value : Json) (rest : List Char)
    (hlength : (renderChars value).length ≤ fuel + 1) (h : Ends rest) :
    readValue (fuel + 1) (renderChars value ++ rest) = some (value, rest) := by
  cases value with
  | null => rfl
  | bool value => cases value <;> rfl
  | number n => rw [readValue_readNumber fuel rest (renderChars_number_cons n),
      readNumber_integer n h]
  | decimal value =>
    rw [readValue_readNumber fuel rest (renderChars_decimal_cons value), readNumber_decimal value h]
  | string s =>
    show (readString (renderString s ++ rest)).map _ = _
    rw [readString_renderString]
    rfl
  | array values =>
    cases values with
    | nil => rfl
    | cons value values =>
      have hsize : (renderValues (value :: values)).length < fuel := by
        simp only [renderChars, List.length_cons, List.length_append, List.length_nil] at hlength
        omega
      have hread := ih.values value values rest hsize
      have hne := renderValues_head value values (']' :: rest)
      simp only [renderChars, List.cons_append, List.append_assoc, List.nil_append, readValue,
        Char.reduceEq, if_false, if_true, if_neg hne, hread, Option.map_some]
  | object fields =>
    cases fields with
    | nil => rfl
    | cons field fields =>
      have hsize : (renderFields (field :: fields)).length < fuel := by
        simp only [renderChars, List.length_cons, List.length_append, List.length_nil] at hlength
        omega
      have hread := ih.members field fields rest hsize
      have hne := renderFields_head field fields ('\x7d' :: rest)
      simp only [renderChars, List.cons_append, List.append_assoc, List.nil_append, readValue,
        Char.reduceEq, if_false, if_true, if_neg hne, hread, Option.map_some]

theorem ReadsBack.succ_values {fuel : Nat} (ih : ReadsBack fuel) (value : Json) (values : List Json)
    (rest : List Char) (hlength : (renderValues (value :: values)).length < fuel + 1) :
    readValues (fuel + 1) (renderValues (value :: values) ++ ']' :: rest) =
      some (value :: values, rest) := by
  cases values with
  | nil =>
    have hread := ih.value value (']' :: rest)
      (by simpa [renderValues, Nat.lt_succ_iff] using hlength)
      (ends_cons rfl _)
    rw [readValues, renderValues, hread]
    rfl
  | cons next values =>
    have hsize : (renderChars value).length + 1 + (renderValues (next :: values)).length <
        fuel + 1 := by
      simpa [renderValues, Nat.add_assoc, Nat.add_comm 1] using hlength
    have hread := ih.value value (',' :: (renderValues (next :: values) ++ ']' :: rest)) (by omega)
      (ends_cons rfl _)
    have hrest := ih.values next values rest (by omega)
    have hrender : renderValues (value :: next :: values) ++ ']' :: rest =
        renderChars value ++ ',' :: (renderValues (next :: values) ++ ']' :: rest) := by
      rw [renderValues]
      · rw [List.append_assoc, List.cons_append]
      · simp
    rw [readValues, hrender, hread]
    exact congrArg (Option.map _) hrest

theorem ReadsBack.succ_members {fuel : Nat} (ih : ReadsBack fuel) (field : String × Json)
    (fields : List (String × Json)) (rest : List Char)
    (hlength : (renderFields (field :: fields)).length < fuel + 1) :
    readMembers (fuel + 1) (renderFields (field :: fields) ++ '\x7d' :: rest) =
      some (field :: fields, rest) := by
  obtain ⟨key, value⟩ := field
  cases fields with
  | nil =>
    have hsize : (renderString key).length + 1 + (renderChars value).length < fuel + 1 := by
      simpa [renderFields, Nat.add_assoc, Nat.add_comm 1] using hlength
    have hread := ih.value value ('\x7d' :: rest) (by omega) (ends_cons rfl _)
    rw [readMembers, renderFields, List.append_assoc, readString_renderString]
    simp only [List.cons_append]
    rw [hread]
    rfl
  | cons next fields =>
    have hsize : (renderString key).length + 1 + (renderChars value).length + 1 +
        (renderFields (next :: fields)).length < fuel + 1 := by
      simp only [renderFields, List.length_append, List.length_cons] at hlength ⊢
      omega
    have hread := ih.value value (',' :: (renderFields (next :: fields) ++ '\x7d' :: rest))
      (by omega)
      (ends_cons rfl _)
    have hrest := ih.members next fields rest (by omega)
    have hrender : renderFields ((key, value) :: next :: fields) ++ '\x7d' :: rest =
        renderString key ++ ':' ::
          (renderChars value ++ ',' :: (renderFields (next :: fields) ++ '\x7d' :: rest)) := by
      rw [renderFields]
      · simp only [List.append_assoc, List.cons_append]
      · simp
    rw [readMembers, hrender, readString_renderString]
    simp only []
    rw [hread]
    exact congrArg (Option.map _) hrest

theorem readsBack (fuel : Nat) : ReadsBack fuel := by
  induction fuel with
  | zero =>
    refine ⟨fun value rest hlength => ?_, fun _ _ _ h => absurd h (Nat.not_lt_zero _),
      fun _ _ _ h => absurd h (Nat.not_lt_zero _)⟩
    have hpos : 0 < (renderChars value).length := by
      cases value with
      | null => decide
      | bool value => cases value <;> decide
      | number n =>
        obtain ⟨c, chars, hn, -⟩ := renderChars_number_cons n
        rw [hn]
        exact Nat.succ_pos _
      | decimal value =>
        obtain ⟨c, chars, hn, -⟩ := renderChars_decimal_cons value
        rw [hn]
        exact Nat.succ_pos _
      | string s => exact Nat.succ_pos _
      | array values => exact Nat.succ_pos _
      | object fields => exact Nat.succ_pos _
    omega
  | succ fuel ih => exact ⟨ih.succ_value, ih.succ_values, ih.succ_members⟩

theorem readValue_render {fuel : Nat} (value : Json) {rest : List Char}
    (hfuel : (renderChars value).length ≤ fuel) (h : Ends rest) :
    readValue fuel (renderChars value ++ rest) = some (value, rest) :=
  (readsBack fuel).value value rest hfuel h

/-- **Every value is read back from its text.** -/
theorem read_render (value : Json) : read value.render = some value := by
  have hends : Ends [] := fun c hc => by cases hc
  have hread := readValue_render value (Nat.le_refl _) hends
  rw [List.append_nil] at hread
  unfold read render
  rw [String.toList_ofList, hread]

end Json
