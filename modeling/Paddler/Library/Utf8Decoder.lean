import Mathlib.Data.List.Basic

/-!
# Decoding UTF-8 byte by byte

The decoder of the Encoding Standard, which reads a text that arrives in pieces.  A byte that cannot
come next ends what was begun with a replacement character, and is then read again.

* `Decoder` — what is known between two bytes.
* `feed_append` — a text goes on where its first part left off, wherever it was cut.
* `feed_encode` — **the encoding of a text is decoded to that text**, and nothing of it is left.
-/

set_option autoImplicit false

namespace Utf8

/-! ## The decoder -/

/-- What is known of a code point, how many bytes of it are still to come, and between which bounds
the next one is. -/
structure Decoder where
  codePoint : Nat
  needed : Nat
  lower : Nat
  upper : Nat
  deriving DecidableEq, Repr

/-- Between two code points. -/
def start : Decoder := ⟨0, 0, 0x80, 0xBF⟩

/-- What stands for bytes that are no UTF-8. -/
def replacement : Char := '\uFFFD'

/-- A byte between two code points. -/
def first (byte : Nat) : List Char × Decoder :=
  if byte ≤ 0x7F then ([Char.ofNat byte], start)
  else if 0xC2 ≤ byte ∧ byte ≤ 0xDF then ([], ⟨byte - 0xC0, 1, 0x80, 0xBF⟩)
  else if 0xE0 ≤ byte ∧ byte ≤ 0xEF then
    ([], ⟨byte - 0xE0, 2, if byte = 0xE0 then 0xA0 else 0x80, if byte = 0xED then 0x9F else 0xBF⟩)
  else if 0xF0 ≤ byte ∧ byte ≤ 0xF4 then
    ([], ⟨byte - 0xF0, 3, if byte = 0xF0 then 0x90 else 0x80, if byte = 0xF4 then 0x8F else 0xBF⟩)
  else ([replacement], start)

/-- One byte. -/
def step (decoder : Decoder) (byte : Nat) : List Char × Decoder :=
  if decoder.needed = 0 then first byte
  else if decoder.lower ≤ byte ∧ byte ≤ decoder.upper then
    if decoder.needed = 1 then ([Char.ofNat (decoder.codePoint * 64 + (byte - 0x80))], start)
    else ([], ⟨decoder.codePoint * 64 + (byte - 0x80), decoder.needed - 1, 0x80, 0xBF⟩)
  else (replacement :: (first byte).1, (first byte).2)

/-- Some bytes. -/
def feed (decoder : Decoder) : List UInt8 → List Char × Decoder
  | [] => ([], decoder)
  | byte :: bytes =>
    ((step decoder byte.toNat).1 ++ (feed (step decoder byte.toNat).2 bytes).1,
      (feed (step decoder byte.toNat).2 bytes).2)

theorem feed_append (decoder : Decoder) (before after : List UInt8) :
    feed decoder (before ++ after) =
      ((feed decoder before).1 ++ (feed (feed decoder before).2 after).1,
        (feed (feed decoder before).2 after).2) := by
  induction before generalizing decoder with
  | nil => rfl
  | cons byte before ih =>
    simp only [List.cons_append, feed, ih, List.append_assoc]

/-! ## What was encoded -/

theorem toNat_ofNat {n : Nat} (h : n < 256) : (UInt8.ofNat n).toNat = n := by
  rw [UInt8.toNat_ofNat']
  exact Nat.mod_eq_of_lt h

theorem first_twoBytes {byte : Nat} (hlower : 0xC2 ≤ byte) (hupper : byte ≤ 0xDF) :
    first byte = ([], ⟨byte - 0xC0, 1, 0x80, 0xBF⟩) := by
  rw [first, if_neg (by omega), if_pos ⟨hlower, hupper⟩]

theorem first_threeBytes {byte : Nat} (hlower : 0xE0 ≤ byte) (hupper : byte ≤ 0xEF) :
    first byte =
      ([], ⟨byte - 0xE0, 2, if byte = 0xE0 then 0xA0 else 0x80,
        if byte = 0xED then 0x9F else 0xBF⟩) := by
  rw [first, if_neg (by omega), if_neg (by omega), if_pos ⟨hlower, hupper⟩]

theorem first_fourBytes {byte : Nat} (hlower : 0xF0 ≤ byte) (hupper : byte ≤ 0xF4) :
    first byte =
      ([], ⟨byte - 0xF0, 3, if byte = 0xF0 then 0x90 else 0x80,
        if byte = 0xF4 then 0x8F else 0xBF⟩) := by
  rw [first, if_neg (by omega), if_neg (by omega), if_neg (by omega), if_pos ⟨hlower, hupper⟩]

section Continuation

variable {codePoint needed lower upper byte : Nat}

/-- A byte within the bounds, after which more are to come. -/
theorem step_next (hlower : lower ≤ byte) (hupper : byte ≤ upper) :
    step ⟨codePoint, needed + 2, lower, upper⟩ byte =
      ([], ⟨codePoint * 64 + (byte - 0x80), needed + 1, 0x80, 0xBF⟩) := by
  rw [step, if_neg (Nat.succ_ne_zero _), if_pos ⟨hlower, hupper⟩, if_neg (by simp)]
  rfl

theorem step_last (hlower : lower ≤ byte) (hupper : byte ≤ upper) :
    step ⟨codePoint, 1, lower, upper⟩ byte =
      ([Char.ofNat (codePoint * 64 + (byte - 0x80))], start) := by
  rw [step, if_neg Nat.one_ne_zero, if_pos ⟨hlower, hupper⟩, if_pos rfl]

end Continuation

theorem feed_encodeChar (c : Char) : feed start (String.utf8EncodeChar c) = ([c], start) := by
  have hchar : Char.ofNat c.val.toNat = c := Char.ofNat_toNat c
  have hvalid : c.val.toNat < 0xD800 ∨ 0xDFFF < c.val.toNat ∧ c.val.toNat < 0x110000 := c.valid
  unfold String.utf8EncodeChar
  generalize c.val.toNat = v at hchar hvalid
  simp only
  split
  · -- one byte
    have hbyte : (UInt8.ofNat v).toNat = v := toNat_ofNat (by omega)
    simp only [feed, hbyte, step, start, if_true, first]
    rw [if_pos (by omega)]
    simp only [hchar, List.append_nil]
  split
  · -- two bytes
    have hlead : (UInt8.ofNat (v / 64 % 32 + 192)).toNat = v / 64 + 192 := by
      rw [toNat_ofNat (by omega)]; omega
    have hlast : (UInt8.ofNat (v % 64 + 128)).toNat = v % 64 + 128 := toNat_ofNat (by omega)
    have hcode : (v / 64 + 192 - 192) * 64 + (v % 64 + 128 - 128) = v := by omega
    simp only [feed, hlead, hlast]
    rw [show step start (v / 64 + 192) = first (v / 64 + 192) from rfl,
      first_twoBytes (by omega) (by omega), step_last (by omega) (by omega), hcode, hchar]
    rfl
  split
  · -- three bytes
    have hlead : (UInt8.ofNat (v / 4096 % 16 + 224)).toNat = v / 4096 + 224 := by
      rw [toNat_ofNat (by omega)]; omega
    have hmiddle : (UInt8.ofNat (v / 64 % 64 + 128)).toNat = v / 64 % 64 + 128 :=
      toNat_ofNat (by omega)
    have hlast : (UInt8.ofNat (v % 64 + 128)).toNat = v % 64 + 128 := toNat_ofNat (by omega)
    have hcode : ((v / 4096 + 224 - 224) * 64 + (v / 64 % 64 + 128 - 128)) * 64 +
        (v % 64 + 128 - 128) = v := by
      omega
    simp only [feed, hlead, hmiddle, hlast]
    rw [show step start (v / 4096 + 224) = first (v / 4096 + 224) from rfl,
      first_threeBytes (by omega) (by omega)]
    -- no shorter encoding, and no surrogate
    rw [step_next (by split <;> omega) (by split <;> omega), step_last (by omega) (by omega),
      hcode, hchar]
    rfl
  · -- four bytes
    have hlead : (UInt8.ofNat (v / 262144 % 8 + 240)).toNat = v / 262144 + 240 := by
      rw [toNat_ofNat (by omega)]; omega
    have hsecond : (UInt8.ofNat (v / 4096 % 64 + 128)).toNat = v / 4096 % 64 + 128 :=
      toNat_ofNat (by omega)
    have hthird : (UInt8.ofNat (v / 64 % 64 + 128)).toNat = v / 64 % 64 + 128 :=
      toNat_ofNat (by omega)
    have hlast : (UInt8.ofNat (v % 64 + 128)).toNat = v % 64 + 128 := toNat_ofNat (by omega)
    have hcode : (((v / 262144 + 240 - 240) * 64 + (v / 4096 % 64 + 128 - 128)) * 64 +
        (v / 64 % 64 + 128 - 128)) * 64 + (v % 64 + 128 - 128) = v := by omega
    simp only [feed, hlead, hsecond, hthird, hlast]
    rw [show step start (v / 262144 + 240) = first (v / 262144 + 240) from rfl,
      first_fourBytes (by omega) (by omega)]
    rw [step_next (by split <;> omega) (by split <;> omega), step_next (by omega) (by omega),
      step_last (by omega) (by omega), hcode, hchar]
    rfl

/-- A byte of ASCII is in no other encoding than its own. -/
theorem mem_encodeChar {byte : UInt8} (hascii : byte.toNat < 128) {c : Char}
    (h : byte ∈ String.utf8EncodeChar c) :
    c = Char.ofNat byte.toNat := by
  have hchar : Char.ofNat c.val.toNat = c := Char.ofNat_toNat c
  have hrest : ∀ n, 128 ≤ n → n < 256 → byte ≠ UInt8.ofNat n := fun n hn hlt heq => by
    rw [heq, toNat_ofNat hlt] at hascii
    omega
  unfold String.utf8EncodeChar at h
  generalize c.val.toNat = v at hchar h
  simp only at h
  split at h
  · rw [List.mem_singleton.mp h, toNat_ofNat (by omega), hchar]
  split at h
  · simp only [List.mem_cons, List.not_mem_nil, or_false] at h
    rcases h with h | h
    · exact absurd h (hrest _ (by omega) (by omega))
    · exact absurd h (hrest _ (by omega) (by omega))
  split at h
  · simp only [List.mem_cons, List.not_mem_nil, or_false] at h
    rcases h with h | h | h
    · exact absurd h (hrest _ (by omega) (by omega))
    · exact absurd h (hrest _ (by omega) (by omega))
    · exact absurd h (hrest _ (by omega) (by omega))
  · simp only [List.mem_cons, List.not_mem_nil, or_false] at h
    rcases h with h | h | h | h
    · exact absurd h (hrest _ (by omega) (by omega))
    · exact absurd h (hrest _ (by omega) (by omega))
    · exact absurd h (hrest _ (by omega) (by omega))
    · exact absurd h (hrest _ (by omega) (by omega))

/-- **What was encoded is decoded.** -/
theorem feed_encode (text : List Char) :
    feed start (text.flatMap String.utf8EncodeChar) = (text, start) := by
  induction text with
  | nil => rfl
  | cons c text ih => rw [List.flatMap_cons, feed_append, feed_encodeChar, ih]; rfl

end Utf8
