/-!
# JSON values and their text

Objects keep their fields in the order in which they were put in.  The text is the compact one:
strings are quoted, and quotes, backslashes and control characters in them are escaped.

* `Json.render` — the text of a value.
* `readString_renderString` — **a quoted string is read back**, whatever follows it.
* `readObject_render` — **an object of strings is read back.**
-/

set_option autoImplicit false

namespace Json

/-- One digit or more, and nothing else. -/
def isDigits (chars : List Char) : Bool :=
  !chars.isEmpty && chars.all Char.isDigit

/-- What an exponent has after its letter. -/
def isExponent : List Char → Bool
  | '+' :: chars => isDigits chars
  | '-' :: chars => isDigits chars
  | chars => isDigits chars

/-- What follows the integer part of a decimal: a fraction, an exponent, or both. -/
def isDecimalTail : List Char → Bool
  | '.' :: chars =>
    isDigits (chars.takeWhile Char.isDigit) && match chars.dropWhile Char.isDigit with
      | [] => true
      | 'e' :: chars => isExponent chars
      | _ => false
  | 'e' :: chars => isExponent chars
  | _ => false

/-- A number that is not written as an integer: its sign, its integer part, and what follows it. -/
structure Decimal where
  negative : Bool
  whole : Nat
  tail : List Char
  wellFormed : isDecimalTail tail = true
  deriving Repr

end Json

/-- A JSON value. -/
inductive Json where
  | null
  | bool (value : Bool)
  | number (value : Int)
  | decimal (value : Json.Decimal)
  | string (value : String)
  | array (values : List Json)
  | object (fields : List (String × Json))
  deriving Repr

namespace Json

/-- The value of a field. -/
def field (key : String) : Json → Option Json
  | .object fields => fields.lookup key
  | _ => none

/-- The text of a string value. -/
def asString : Json → Option String
  | .string value => some value
  | _ => none

/-- The value of an integer. -/
def asNumber : Json → Option Int
  | .number value => some value
  | _ => none

/-- The elements of an array. -/
def asArray : Json → Option (List Json)
  | .array values => some values
  | _ => none

/-- The object without a field. -/
def without (key : String) : Json → Json
  | .object fields => .object (fields.filter (·.1 ≠ key))
  | value => value

theorem field_without {key other : String} (hne : other ≠ key) (value : Json) :
    (value.without key).field other = value.field other := by
  cases value with
  | object fields =>
    show (fields.filter (·.1 ≠ key)).lookup other = fields.lookup other
    induction fields with
    | nil => rfl
    | cons entry fields ih =>
      by_cases hkey : entry.1 = key
      · have hskip : (other == entry.1) = false := by rw [hkey]; simpa using hne
        rw [List.filter_cons_of_neg (by simp [hkey]), ih, List.lookup_cons, hskip]
      · rw [List.filter_cons_of_pos (by simpa using hkey), List.lookup_cons, List.lookup_cons, ih]
  | _ => rfl

/-! ## Text -/

/-- A hexadecimal digit. -/
def hexDigit (n : Nat) : Char :=
  ("0123456789abcdef".toList[n]?).getD '0'

/-- How a character is written inside quotes. -/
def escapeChar (c : Char) : List Char :=
  if c = '\x22' then ['\x5c', '\x22']
  else if c = '\x5c' then ['\x5c', '\x5c']
  else if c = '\n' then ['\x5c', 'n']
  else if c = '\r' then ['\x5c', 'r']
  else if c = '\t' then ['\x5c', 't']
  else if c.toNat = 8 then ['\x5c', 'b']
  else if c.toNat = 12 then ['\x5c', 'f']
  else if c.toNat < 32 then ['\x5c', 'u', '0', '0', hexDigit (c.toNat / 16),
    hexDigit (c.toNat % 16)]
  else [c]

/-- A quoted string. -/
def renderString (s : String) : List Char :=
  '\x22' :: (s.toList.flatMap escapeChar ++ ['\x22'])

/-- The characters of a decimal. -/
def Decimal.chars (value : Decimal) : List Char :=
  (if value.negative then ['-'] else []) ++ (Nat.toDigits 10 value.whole ++ value.tail)

mutual

/-- The characters of a value. -/
def renderChars : Json → List Char
  | .null => "null".toList
  | .bool true => "true".toList
  | .bool false => "false".toList
  | .number value => (toString value).toList
  | .decimal value => value.chars
  | .string value => renderString value
  | .array values => '[' :: (renderValues values ++ [']'])
  | .object fields => '\x7b' :: (renderFields fields ++ ['\x7d'])

/-- Values between commas. -/
def renderValues : List Json → List Char
  | [] => []
  | [value] => renderChars value
  | value :: values => renderChars value ++ ',' :: renderValues values

/-- Fields between commas. -/
def renderFields : List (String × Json) → List Char
  | [] => []
  | [(key, value)] => renderString key ++ ':' :: renderChars value
  | (key, value) :: fields => renderString key ++ ':' :: renderChars value ++ ',' ::
      renderFields fields

end

/-- The compact text of a value. -/
def render (value : Json) : String :=
  String.ofList (renderChars value)

/-! ## Reading a string -/

/-- The value of a hexadecimal digit. -/
def hexValue (c : Char) : Nat :=
  "0123456789abcdef".toList.idxOf c

/-- The characters up to the closing quote, and what follows it. -/
def readChars : List Char → Option (List Char × List Char)
  | '\x22' :: rest => some ([], rest)
  | '\x5c' :: 'u' :: a :: b :: c :: d :: rest =>
    (readChars rest).map fun (s, rest) =>
      (Char.ofNat (((hexValue a * 16 + hexValue b) * 16 + hexValue c) * 16 + hexValue d) :: s, rest)
  | '\x5c' :: 'n' :: rest => (readChars rest).map fun (s, rest) => ('\n' :: s, rest)
  | '\x5c' :: 'r' :: rest => (readChars rest).map fun (s, rest) => ('\r' :: s, rest)
  | '\x5c' :: 't' :: rest => (readChars rest).map fun (s, rest) => ('\t' :: s, rest)
  | '\x5c' :: 'b' :: rest => (readChars rest).map fun (s, rest) => (Char.ofNat 8 :: s, rest)
  | '\x5c' :: 'f' :: rest => (readChars rest).map fun (s, rest) => (Char.ofNat 12 :: s, rest)
  | '\x5c' :: c :: rest => (readChars rest).map fun (s, rest) => (c :: s, rest)
  | c :: rest => (readChars rest).map fun (s, rest) => (c :: s, rest)
  | [] => none

/-- A quoted string, and what follows it. -/
def readString : List Char → Option (String × List Char)
  | '\x22' :: rest => (readChars rest).map fun (s, rest) => (String.ofList s, rest)
  | _ => none

theorem ofNat_hexValue :
    ∀ n < 32, Char.ofNat
      (((hexValue '0' * 16 + hexValue '0') * 16 + hexValue (hexDigit (n / 16))) * 16 +
        hexValue (hexDigit (n % 16))) = Char.ofNat n := by
  decide

theorem readChars_escapeChar (c : Char) (rest : List Char) :
    readChars (escapeChar c ++ rest) = (readChars rest).map fun (s, rest) => (c :: s, rest) := by
  have hofNat : ∀ {n : Nat}, c.toNat = n → Char.ofNat n = c := by
    intro n hn
    rw [← hn, Char.ofNat_toNat]
  unfold escapeChar
  split
  · rename_i hc
    rw [hc]
    rfl
  split
  · rename_i hc
    rw [hc]
    rfl
  split
  · rename_i hc
    rw [hc]
    rfl
  split
  · rename_i hc
    rw [hc]
    rfl
  split
  · rename_i hc
    rw [hc]
    rfl
  split
  · rename_i hc
    rw [← hofNat hc]
    rfl
  split
  · rename_i hc
    rw [← hofNat hc]
    rfl
  split
  · rename_i hc
    show (readChars rest).map _ = _
    rw [ofNat_hexValue c.toNat hc, hofNat rfl]
  · rename_i hquote hbackslash _ _ _ _ _ _
    show readChars (c :: rest) = _
    rw [readChars]
    · exact hquote
    · exact fun _ _ _ _ _ hc _ => hbackslash hc
    · exact fun _ hc _ => hbackslash hc
    · exact fun _ hc _ => hbackslash hc
    · exact fun _ hc _ => hbackslash hc
    · exact fun _ hc _ => hbackslash hc
    · exact fun _ hc _ => hbackslash hc
    · exact fun _ _ hc _ => hbackslash hc

theorem readChars_escape (s rest : List Char) :
    readChars (s.flatMap escapeChar ++ '\x22' :: rest) = some (s, rest) := by
  induction s with
  | nil => rfl
  | cons c s ih =>
    rw [List.flatMap_cons, List.append_assoc, readChars_escapeChar, ih]
    rfl

/-- **A quoted string is read back.** -/
theorem readString_renderString (s : String) (rest : List Char) :
    readString (renderString s ++ rest) = some (s, rest) := by
  have hread : readChars (s.toList.flatMap escapeChar ++ ['\x22'] ++ rest) =
      some (s.toList, rest) := by
    rw [List.append_assoc]
    exact readChars_escape s.toList rest
  show (readChars (s.toList.flatMap escapeChar ++ ['\x22'] ++ rest)).map _ = _
  rw [hread]
  show some (String.ofList s.toList, rest) = some (s, rest)
  rw [String.ofList_toList]

/-! ## Reading an object of strings -/

/-- The value of the field that comes first, and what follows it. -/
def readField (key : String) (chars : List Char) : Option (String × List Char) :=
  match readString chars with
  | some (found, ':' :: rest) => if found = key then readString rest else none
  | _ => none

/-- The values of the fields, up to the closing brace. -/
def readFields : List String → List Char → Option (List String)
  | [], _ => none
  | [key], chars =>
    match readField key chars with
    | some (value, ['\x7d']) => some [value]
    | _ => none
  | key :: keys, chars =>
    match readField key chars with
    | some (value, ',' :: rest) => (readFields keys rest).map (value :: ·)
    | _ => none

/-- The values of an object with these fields. -/
def readObject (keys : List String) (text : String) : Option (List String) :=
  match text.toList with
  | '\x7b' :: rest => readFields keys rest
  | _ => none

theorem readField_render (key value : String) (rest : List Char) :
    readField key (renderString key ++ ':' :: renderString value ++ rest) = some (value, rest) := by
  unfold readField
  rw [List.append_assoc, readString_renderString]
  show (if key = key then readString (renderString value ++ rest) else none) = _
  rw [if_pos rfl, readString_renderString]

theorem readFields_render (field : String × String) (fields : List (String × String)) :
    readFields ((field :: fields).map (·.1))
      (renderFields ((field :: fields).map fun (key, value) => (key, .string value)) ++ ['\x7d']) =
        some ((field :: fields).map (·.2)) := by
  induction fields generalizing field with
  | nil =>
    show (match readField field.1 (renderString field.1 ++ ':' :: renderString field.2 ++
      ['\x7d']) with
      | some (value, ['\x7d']) => some [value]
      | _ => none) = _
    rw [readField_render]
    rfl
  | cons next fields ih =>
    show (match readField field.1 ((renderString field.1 ++ ':' :: renderString field.2 ++
        ',' :: renderFields ((next :: fields).map fun (key, value) => (key, .string value))) ++
        ['\x7d']) with
      | some (value, ',' :: rest) =>
        (readFields ((next :: fields).map Prod.fst) rest).map (value :: ·)
      | _ => none) = _
    rw [List.append_assoc, readField_render]
    show (readFields ((next :: fields).map Prod.fst) (renderFields _ ++ ['\x7d'])).map
      (field.2 :: ·) = _
    rw [ih next]
    rfl

/-- **An object of strings is read back.** -/
theorem readObject_render (field : String × String) (fields : List (String × String)) :
    readObject ((field :: fields).map (·.1))
      (render (.object ((field :: fields).map fun (key, value) => (key, .string value)))) =
        some ((field :: fields).map (·.2)) := by
  unfold readObject render
  rw [String.toList_ofList]
  exact readFields_render field fields

end Json
