import Mathlib.Data.List.TakeWhile
import Paddler.Library.JsonReader

/-!
# What the text of a value looks like

A text is one line of printable characters, and a text that is cut off cannot be read.

* `printable_renderChars` — there are no control characters in a text.
* `readChars_cut`, `ReadsCut` — what is cut off inside a string, an array or an object.
* `read_cut` — **the text of an object is not read before its end.**
-/

set_option autoImplicit false

namespace Json

/-! ## Printable characters -/

/-- No control character of ASCII. -/
def isPrintable (c : Char) : Bool := 32 ≤ c.toNat

theorem isPrintable_hexDigit : ∀ n < 16, isPrintable (hexDigit n) = true := by decide

theorem printable_escapeChar (c : Char) : (escapeChar c).all isPrintable = true := by
  unfold escapeChar
  split
  · rfl
  split
  · rfl
  split
  · rfl
  split
  · rfl
  split
  · rfl
  split
  · rfl
  split
  · rfl
  split
  · rename_i hcontrol
    have hfirst := isPrintable_hexDigit (c.toNat / 16) (by omega)
    have hsecond := isPrintable_hexDigit (c.toNat % 16) (by omega)
    simp only [List.all_cons, List.all_nil, hfirst, hsecond, Bool.and_true]
    rfl
  · rename_i hcontrol
    simpa [isPrintable] using hcontrol

theorem printable_renderString (s : String) : (renderString s).all isPrintable = true := by
  have hescaped : (s.toList.flatMap escapeChar).all isPrintable = true := by
    rw [List.all_flatMap, List.all_eq_true]
    exact fun c _ => printable_escapeChar c
  unfold renderString
  rw [List.all_cons, List.all_append, hescaped]
  rfl

theorem isPrintable_of_isNumberChar {c : Char} (h : isNumberChar c = true) :
    isPrintable c = true := by
  simp only [isNumberChar, Bool.or_eq_true, decide_eq_true_eq] at h
  rcases h with (((h | rfl) | rfl) | rfl) | rfl
  · simp only [Char.isDigit, Bool.and_eq_true, decide_eq_true_eq] at h
    have hlower : 48 ≤ c.toNat := h.1
    exact decide_eq_true (by omega)
  · rfl
  · rfl
  · rfl
  · rfl

theorem isNumberChar_of_mem_toDigits (n : Nat) : ∀ c ∈ Nat.toDigits 10 n, isNumberChar c = true :=
  fun _ hc => isNumberChar_of_isDigit (Nat.isDigit_of_mem_toDigits (by decide) (by decide) hc)

/-- A number has no other characters than those of a number. -/
theorem isNumberChar_of_mem_number (n : Int) :
    ∀ c ∈ renderChars (.number n), isNumberChar c = true := by
  cases n with
  | ofNat n =>
    rw [renderChars_ofNat]
    exact isNumberChar_of_mem_toDigits n
  | negSucc n =>
    rw [renderChars_negSucc]
    exact List.forall_mem_cons.mpr ⟨rfl, isNumberChar_of_mem_toDigits _⟩

theorem isNumberChar_of_mem_decimal (value : Decimal) :
    ∀ c ∈ renderChars (.decimal value), isNumberChar c = true := by
  intro c hc
  simp only [renderChars, Decimal.chars, List.mem_append] at hc
  rcases hc with hc | hc | hc
  · split at hc
    · rw [List.mem_singleton.mp hc]
      rfl
    · cases hc
  · exact isNumberChar_of_mem_toDigits _ c hc
  · exact isNumberChar_of_isDecimalTail value.wellFormed c hc

mutual

/-- **There are no control characters in a text.** -/
theorem printable_renderChars : ∀ value : Json, (renderChars value).all isPrintable = true
  | .null => rfl
  | .bool true => rfl
  | .bool false => rfl
  | .number n =>
    List.all_eq_true.mpr fun c hc => isPrintable_of_isNumberChar (isNumberChar_of_mem_number n c hc)
  | .decimal value =>
    List.all_eq_true.mpr fun c hc =>
      isPrintable_of_isNumberChar (isNumberChar_of_mem_decimal value c hc)
  | .string s => printable_renderString s
  | .array values => by
    rw [renderChars, List.all_cons, List.all_append, printable_renderValues values]
    rfl
  | .object fields => by
    rw [renderChars, List.all_cons, List.all_append, printable_renderFields fields]
    rfl

theorem printable_renderValues : ∀ values : List Json, (renderValues values).all isPrintable = true
  | [] => rfl
  | [value] => printable_renderChars value
  | value :: next :: values => by
    rw [renderValues, List.all_append, List.all_cons, printable_renderChars value,
      printable_renderValues (next :: values)]
    · rfl
    · exact List.cons_ne_nil _ _

theorem printable_renderFields :
    ∀ fields : List (String × Json), (renderFields fields).all isPrintable = true
  | [] => rfl
  | [(key, value)] => by
    rw [renderFields, List.all_append, List.all_cons, printable_renderString key,
      printable_renderChars value]
    rfl
  | (key, value) :: next :: fields => by
    rw [renderFields, List.all_append, List.all_cons, List.all_append, List.all_cons,
      printable_renderString key, printable_renderChars value,
      printable_renderFields (next :: fields)]
    · rfl
    · exact List.cons_ne_nil _ _

end

/-! ## More fuel -/

/-- **What is read is read with more fuel too.** -/
structure ReadsOn (fuel : Nat) : Prop where
  value : ∀ {chars read}, readValue fuel chars = some read → readValue (fuel + 1) chars = some read
  values : ∀ {chars read}, readValues fuel chars = some read →
    readValues (fuel + 1) chars = some read
  members : ∀ {chars read}, readMembers fuel chars = some read →
    readMembers (fuel + 1) chars = some read

theorem readsOn (fuel : Nat) : ReadsOn fuel := by
  induction fuel with
  | zero =>
    refine ⟨fun {chars _} h => ?_, fun h => ?_, fun h => ?_⟩
    · cases chars <;> simp [readValue] at h
    · simp [readValues] at h
    · simp [readMembers] at h
  | succ fuel ih =>
    refine ⟨fun {chars read} h => ?_, fun {chars read} h => ?_, fun {chars read} h => ?_⟩
    · cases chars with
      | nil => simp [readValue] at h
      | cons c rest =>
        rw [readValue] at h ⊢
        split at h <;> rename_i hnull
        · rwa [if_pos hnull]
        rw [if_neg hnull]
        split at h <;> rename_i htrue
        · rwa [if_pos htrue]
        rw [if_neg htrue]
        split at h <;> rename_i hfalse
        · rwa [if_pos hfalse]
        rw [if_neg hfalse]
        split at h <;> rename_i hquote
        · rwa [if_pos hquote]
        rw [if_neg hquote]
        split at h <;> rename_i hbracket
        · rw [if_pos hbracket]
          split at h <;> rename_i hempty
          · rwa [if_pos hempty]
          · rw [if_neg hempty]
            obtain ⟨values, hvalues, hread⟩ := Option.map_eq_some_iff.mp h
            rw [ih.values hvalues, Option.map_some, hread]
        rw [if_neg hbracket]
        split at h <;> rename_i hbrace
        · rw [if_pos hbrace]
          split at h <;> rename_i hempty
          · rwa [if_pos hempty]
          · rw [if_neg hempty]
            obtain ⟨fields, hfields, hread⟩ := Option.map_eq_some_iff.mp h
            rw [ih.members hfields, Option.map_some, hread]
        rwa [if_neg hbrace]
    · rw [readValues] at h ⊢
      split at h
      · rename_i hvalue
        rw [ih.value hvalue]
        exact h
      · rename_i hvalue
        rw [ih.value hvalue]
        obtain ⟨values, hvalues, hread⟩ := Option.map_eq_some_iff.mp h
        simp only [ih.values hvalues, Option.map_some, hread]
      · cases h
    · rw [readMembers] at h ⊢
      split at h
      · split at h
        · rename_i hvalue
          simp only [ih.value hvalue]
          exact h
        · rename_i hvalue
          simp only [ih.value hvalue]
          obtain ⟨fields, hfields, hread⟩ := Option.map_eq_some_iff.mp h
          simp only [ih.members hfields, Option.map_some, hread]
        · cases h
      · cases h

theorem readValue_add {fuel : Nat} (more : Nat) {chars : List Char} {read : Json × List Char}
    (h : readValue fuel chars = some read) : readValue (fuel + more) chars = some read := by
  induction more with
  | zero => exact h
  | succ more ih => exact (readsOn _).value ih

theorem readValue_render_cases (fuel : Nat) (value : Json) {rest : List Char} (h : Ends rest) :
    readValue fuel (renderChars value ++ rest) = none ∨
      readValue fuel (renderChars value ++ rest) = some (value, rest) := by
  cases hread : readValue fuel (renderChars value ++ rest) with
  | none => exact .inl rfl
  | some read =>
    have hmore := readValue_add (renderChars value).length hread
    rw [readValue_render value (Nat.le_add_left _ _) h] at hmore
    exact .inr hmore.symm

/-! ## Texts that are cut off -/

theorem prefix_of_cut {α : Type} {cut text : List α} {last : α} (h : cut <+: text ++ [last])
    (hne : cut ≠ text ++ [last]) : cut <+: text :=
  (List.prefix_concat_iff.mp h).resolve_left hne

/-- What is cut off is cut off in the first part or behind it. -/
theorem prefix_append_cases {α : Type} {cut first second : List α} (h : cut <+: first ++ second) :
    cut <+: first ∨ ∃ rest, cut = first ++ rest ∧ rest <+: second := by
  rcases List.prefix_or_prefix_of_prefix h (List.prefix_append first second)
      with hfirst | ⟨rest, hrest⟩
  · exact .inl hfirst
  · rw [← hrest] at h
    exact .inr ⟨rest, hrest.symm, (List.prefix_append_right_inj first).mp h⟩

theorem readChars_cut_of_take {word cut : List Char}
    (h : ∀ n < word.length, readChars (word.take n) = none) (hcut : cut <+: word)
    (hne : cut ≠ word) : readChars cut = none := by
  have htake : cut = word.take cut.length := List.prefix_iff_eq_take.mp hcut
  have hlength : cut.length < word.length :=
    Nat.lt_of_le_of_ne hcut.length_le fun heq => hne (hcut.eq_of_length heq)
  rw [htake]
  exact h _ hlength

theorem readChars_take_control : ∀ n < 32, ∀ k < 6,
    readChars (List.take k ['\x5c', 'u', '0', '0', hexDigit (n / 16), hexDigit (n % 16)]) =
    none := by
  decide

theorem readChars_cut_escapeChar {c : Char} {cut : List Char} (h : cut <+: escapeChar c)
    (hne : cut ≠ escapeChar c) : readChars cut = none := by
  refine readChars_cut_of_take ?_ h hne
  unfold escapeChar
  split
  · decide
  split
  · decide
  split
  · decide
  split
  · decide
  split
  · decide
  split
  · decide
  split
  · decide
  split
  · rename_i hcontrol
    exact readChars_take_control c.toNat hcontrol
  · intro n hn
    rw [Nat.lt_one_iff.mp hn]
    rfl

theorem readChars_cut (s : List Char) {cut : List Char} (h : cut <+: s.flatMap escapeChar) :
    readChars cut = none := by
  induction s generalizing cut with
  | nil => rw [List.prefix_nil.mp h]; rfl
  | cons c s ih =>
    rw [List.flatMap_cons] at h
    by_cases hwhole : cut = escapeChar c
    · have hread := readChars_escapeChar c []
      rw [List.append_nil] at hread
      rw [hwhole, hread]
      rfl
    rcases prefix_append_cases h with hfirst | ⟨rest, hcut, hrest⟩
    · exact readChars_cut_escapeChar hfirst hwhole
    · rw [hcut, readChars_escapeChar, ih hrest]
      rfl

theorem readString_cut {s : String} {cut : List Char} (h : cut <+: renderString s)
    (hne : cut ≠ renderString s) :
    readString cut = none := by
  cases cut with
  | nil => rfl
  | cons c cut =>
    obtain ⟨rfl, hcut⟩ := List.cons_prefix_cons.mp h
    have hopen : cut <+: s.toList.flatMap escapeChar := prefix_of_cut hcut fun heq =>
      hne (by rw [heq]; rfl)
    show (readChars cut).map _ = none
    rw [readChars_cut s.toList hopen]
    rfl

theorem readNumber_all {chars : List Char} (h : ∀ c ∈ chars, isNumberChar c = true) :
    readNumber chars = none ∨ ∃ value, readNumber chars = some (value, []) := by
  have hunsigned : ∀ (negative : Bool) (chars : List Char), (∀ c ∈ chars, isNumberChar c = true) →
      readUnsigned negative chars = none ∨ ∃ value, readUnsigned negative chars =
        some (value, []) := by
    intro negative chars hchars
    cases hread : readUnsigned negative chars with
    | none => exact .inl rfl
    | some read =>
      obtain ⟨⟨whole, rest⟩, hnat, htail⟩ := Option.bind_eq_some_iff.mp hread
      have hrest : rest = chars.dropWhile Char.isDigit := by
        unfold readNat at hnat
        split at hnat
        · cases hnat
        · cases hnat
          rfl
      have hnil : rest.dropWhile isNumberChar = [] := by
        rw [List.dropWhile_eq_nil_iff, hrest]
        exact fun c hc => hchars c ((List.dropWhile_suffix _).subset hc)
      simp only [hnil] at htail
      split at htail
      · cases htail
        exact .inr ⟨_, rfl⟩
      · split at htail
        · cases htail
          exact .inr ⟨_, rfl⟩
        · cases htail
  unfold readNumber
  split
  · exact hunsigned true _ fun c hc => h c (List.mem_cons_of_mem _ hc)
  · exact hunsigned false _ h

/-- No value is read from the text, or one that ends with it. -/
def ReadsNoFurther (fuel : Nat) (chars : List Char) : Prop :=
  readValue fuel chars = none ∨ ∃ value, readValue fuel chars = some (value, [])

/-- A value whose text shows where it ends. -/
def ShowsEnd : Json → Prop
  | .number _ | .decimal _ => False
  | _ => True

/-- **What is cut off cannot be read**, with any fuel: a value that shows its end, the values of an
array and the fields of an object before the bracket that closes them. -/
structure ReadsCut (fuel : Nat) : Prop where
  value : ∀ value {cut}, ShowsEnd value → cut <+: renderChars value → cut ≠ renderChars value →
    readValue fuel cut = none
  values : ∀ values {cut}, cut <+: renderValues values → readValues fuel cut = none
  members : ∀ fields {cut}, cut <+: renderFields fields → readMembers fuel cut = none

theorem ReadsCut.noFurther {fuel : Nat} (h : ReadsCut fuel) (value : Json) {cut : List Char}
    (hcut : cut <+: renderChars value) : ReadsNoFurther fuel cut := by
  have hends : Ends [] := fun c hc => by cases hc
  by_cases hwhole : cut = renderChars value
  · have hread := readValue_render_cases fuel value hends
    rw [List.append_nil, ← hwhole] at hread
    exact hread.imp_right fun hsome => ⟨value, hsome⟩
  have hnumber : (∀ c ∈ renderChars value, isNumberChar c = true) → ReadsNoFurther fuel cut := by
    intro hchars
    cases fuel with
    | zero => exact .inl (by cases cut <;> rfl)
    | succ fuel =>
      cases cut with
      | nil => exact .inl rfl
      | cons c cut =>
        have hall : ∀ d ∈ c :: cut, isNumberChar d = true := fun d hd => hchars d (hcut.subset hd)
        have hne : ∀ d, isNumberChar d = false → c ≠ d := fun d hd heq => by
          rw [← heq, hall c List.mem_cons_self] at hd
          cases hd
        unfold ReadsNoFurther
        rw [readValue, if_neg (hne 'n' rfl), if_neg (hne 't' rfl), if_neg (hne 'f' rfl),
          if_neg (hne '\x22' rfl), if_neg (hne '[' rfl), if_neg (hne '\x7b' rfl)]
        exact readNumber_all hall
  cases value with
  | number n => exact hnumber (isNumberChar_of_mem_number n)
  | decimal value => exact hnumber (isNumberChar_of_mem_decimal value)
  | null => exact .inl (h.value .null trivial hcut hwhole)
  | bool value => exact .inl (h.value (.bool value) trivial hcut hwhole)
  | string s => exact .inl (h.value (.string s) trivial hcut hwhole)
  | array values => exact .inl (h.value (.array values) trivial hcut hwhole)
  | object fields => exact .inl (h.value (.object fields) trivial hcut hwhole)

theorem readValue_cut_word {fuel : Nat} {word cut : List Char}
    (h : ∀ n < word.length, readValue fuel (word.take n) = none) (hcut : cut <+: word)
    (hne : cut ≠ word) :
    readValue fuel cut = none := by
  rw [List.prefix_iff_eq_take.mp hcut]
  exact h _ (Nat.lt_of_le_of_ne hcut.length_le fun heq => hne (hcut.eq_of_length heq))

theorem readValue_nil (fuel : Nat) : readValue fuel [] = none := by
  cases fuel <;> rfl

theorem ReadsCut.succ_value {fuel : Nat} (ih : ReadsCut fuel) (value : Json) {cut : List Char}
    (hclosed : ShowsEnd value) (hcut : cut <+: renderChars value) (hne : cut ≠ renderChars value) :
    readValue (fuel + 1) cut = none := by
  cases value with
  | null =>
    refine readValue_cut_word (fun n hn => ?_) hcut hne
    match n, hn with
    | 0, _ | 1, _ | 2, _ | 3, _ => rfl
  | bool value =>
    cases value with
    | true =>
      refine readValue_cut_word (fun n hn => ?_) hcut hne
      match n, hn with
      | 0, _ | 1, _ | 2, _ | 3, _ => rfl
    | false =>
      refine readValue_cut_word (fun n hn => ?_) hcut hne
      match n, hn with
      | 0, _ | 1, _ | 2, _ | 3, _ | 4, _ => rfl
  | number n => exact hclosed.elim
  | decimal value => exact hclosed.elim
  | string s =>
    have hread := readString_cut hcut hne
    cases cut with
    | nil => rfl
    | cons c cut =>
      obtain ⟨rfl, -⟩ := List.cons_prefix_cons.mp hcut
      show (readString ('\x22' :: cut)).map _ = none
      rw [hread]
      rfl
  | array values =>
    cases cut with
    | nil => rfl
    | cons c cut =>
      obtain ⟨rfl, hinside⟩ := List.cons_prefix_cons.mp hcut
      have hopen : cut <+: renderValues values := prefix_of_cut hinside fun heq =>
        hne (by rw [heq]; rfl)
      have hhead : cut.head? ≠ some ']' := by
        obtain ⟨rest, hrest⟩ := hopen
        cases values with
        | nil =>
          rw [(List.append_eq_nil_iff.mp hrest).1]
          exact fun heq => by cases heq
        | cons value values =>
          intro heq
          refine renderValues_head value values [] ?_
          rw [List.append_nil, ← hrest, List.head?_append, heq]
          rfl
      show (if cut.head? = some ']' then _ else _) = none
      rw [if_neg hhead, ih.values values hopen]
      rfl
  | object fields =>
    cases cut with
    | nil => rfl
    | cons c cut =>
      obtain ⟨rfl, hinside⟩ := List.cons_prefix_cons.mp hcut
      have hopen : cut <+: renderFields fields := prefix_of_cut hinside fun heq =>
        hne (by rw [heq]; rfl)
      have hhead : cut.head? ≠ some '\x7d' := by
        obtain ⟨rest, hrest⟩ := hopen
        cases fields with
        | nil =>
          rw [(List.append_eq_nil_iff.mp hrest).1]
          exact fun heq => by cases heq
        | cons field fields =>
          intro heq
          refine renderFields_head field fields [] ?_
          rw [List.append_nil, ← hrest, List.head?_append, heq]
          rfl
      show (if cut.head? = some '\x7d' then _ else _) = none
      rw [if_neg hhead, ih.members fields hopen]
      rfl

theorem ReadsCut.succ_values {fuel : Nat} (ih : ReadsCut fuel) (values : List Json)
    {cut : List Char} (hcut : cut <+: renderValues values) : readValues (fuel + 1) cut = none := by
  have hlast : ReadsNoFurther fuel cut → readValues (fuel + 1) cut = none := by
    rintro (hnone | ⟨value, hsome⟩)
    · rw [readValues, hnone]
    · rw [readValues, hsome]
  cases values with
  | nil =>
    obtain rfl := List.prefix_nil.mp hcut
    exact hlast (.inl (readValue_nil fuel))
  | cons value values =>
    cases values with
    | nil => exact hlast (ih.noFurther value hcut)
    | cons next values =>
      rw [renderValues] at hcut
      · rcases prefix_append_cases hcut with hvalue | ⟨rest, heq, hrest⟩
        · exact hlast (ih.noFurther value hvalue)
        · cases rest with
          | nil =>
            rw [List.append_nil] at heq
            exact hlast (ih.noFurther value (heq ▸ List.prefix_refl _))
          | cons c rest =>
            obtain ⟨rfl, htail⟩ := List.cons_prefix_cons.mp hrest
            rcases readValue_render_cases fuel value (ends_cons (c := ',') rfl rest)
                with hnone | hsome
            · rw [readValues, heq, hnone]
            · rw [readValues, heq, hsome]
              exact congrArg (Option.map _) (ih.values (next :: values) htail)
      · exact List.cons_ne_nil _ _

theorem ReadsCut.succ_members {fuel : Nat} (ih : ReadsCut fuel) (fields : List (String × Json))
    {cut : List Char} (hcut : cut <+: renderFields fields) : readMembers (fuel + 1) cut = none := by
  -- nothing is read but the name, and the value behind it is cut off
  have hname : ∀ (key : String) {cut : List Char}, cut <+: renderString key →
      readMembers (fuel + 1) cut = none := by
    intro key cut hcut
    rw [readMembers]
    by_cases hwhole : cut = renderString key
    · have hread := readString_renderString key []
      rw [List.append_nil] at hread
      rw [hwhole, hread]
    · rw [readString_cut hcut hwhole]
  have hlast : ∀ (key : String) {cut : List Char}, ReadsNoFurther fuel cut →
      readMembers (fuel + 1) (renderString key ++ ':' :: cut) = none := by
    rintro key cut (hnone | ⟨value, hsome⟩)
    · rw [readMembers, readString_renderString]
      simp only [hnone]
    · rw [readMembers, readString_renderString]
      simp only [hsome]
  have hfirst : ∀ (key : String) (value : Json) {cut : List Char},
      cut <+: renderString key ++ ':' :: renderChars value → readMembers (fuel + 1) cut = none := by
    intro key value cut hcut
    rcases prefix_append_cases hcut with hkey | ⟨rest, heq, hrest⟩
    · exact hname key hkey
    · cases rest with
      | nil =>
        rw [List.append_nil] at heq
        exact hname key (heq ▸ List.prefix_refl _)
      | cons c rest =>
        obtain ⟨rfl, htail⟩ := List.cons_prefix_cons.mp hrest
        rw [heq]
        exact hlast key (ih.noFurther value htail)
  cases fields with
  | nil =>
    rw [List.prefix_nil.mp hcut]
    rfl
  | cons field fields =>
    obtain ⟨key, value⟩ := field
    cases fields with
    | nil => exact hfirst key value hcut
    | cons next fields =>
      rw [renderFields] at hcut
      · rcases prefix_append_cases hcut with hvalue | ⟨rest, heq, hrest⟩
        · exact hfirst key value hvalue
        · cases rest with
          | nil =>
            rw [List.append_nil] at heq
            exact hfirst key value (heq ▸ List.prefix_refl _)
          | cons c rest =>
            obtain ⟨rfl, htail⟩ := List.cons_prefix_cons.mp hrest
            rw [heq, List.append_assoc, readMembers, readString_renderString]
            simp only [List.cons_append]
            rcases readValue_render_cases fuel value (ends_cons (c := ',') rfl rest)
                with hnone | hsome
            · rw [hnone]
            · rw [hsome]
              exact congrArg (Option.map _) (ih.members (next :: fields) htail)
      · exact List.cons_ne_nil _ _

theorem readsCut (fuel : Nat) : ReadsCut fuel := by
  induction fuel with
  | zero => exact ⟨fun _ {cut} _ _ _ => by cases cut <;> rfl, fun _ _ _ => rfl, fun _ _ _ => rfl⟩
  | succ fuel ih => exact ⟨ih.succ_value, ih.succ_values, ih.succ_members⟩

/-- **The text of an object is not read before its end.** -/
theorem read_cut {fields : List (String × Json)} {cut : List Char}
    (h : cut <+: renderChars (.object fields)) (hne : cut ≠ renderChars (.object fields)) :
    read (String.ofList cut) = none := by
  unfold read
  rw [String.toList_ofList, (readsCut _).value (.object fields) trivial h hne]

end Json
