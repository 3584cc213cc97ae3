/-!
# Octet strings

Keys of the store, packet data and acknowledgements are strings of
octets. They are lists here, so that a reader can take them apart from
the left and a proof can follow it by recursion on the list.

Text and octets are tied together by UTF-8: `Bytes.toText?` undoes
`Bytes.ofText` (`Bytes.toText?_ofText`), and it accepts nothing but
what `Bytes.ofText` writes (`Bytes.eq_ofText_of_toText?`).
-/

namespace TokenBridge

/-- **A string of octets.** -/
abbrev Bytes := List UInt8

namespace Bytes

/-! ## Text -/

/-- The UTF-8 form of a text. -/
def ofText (s : String) : Bytes := s.toByteArray.data.toList

/-- The text that has the given UTF-8 form, if there is one. -/
def toText? (b : Bytes) : Option String := String.fromUTF8? ⟨b.toArray⟩

@[simp] theorem toText?_ofText (s : String) : toText? (ofText s) = some s := by
  have h : (⟨(ofText s).toArray⟩ : ByteArray) = s.toByteArray := by simp [ofText]
  rw [toText?, h, String.fromUTF8?]
  simp [String.isValidUTF8, String.fromUTF8]

theorem eq_ofText_of_toText? {b : Bytes} {s : String} (h : toText? b = some s) :
    b = ofText s := by
  rw [toText?, String.fromUTF8?] at h
  split at h
  · cases h; simp [ofText, String.fromUTF8]
  · cases h

theorem ofText_injective {s t : String} (h : ofText s = ofText t) : s = t := by
  have := congrArg toText? h
  simpa using this

/-- A text has as many octets as its UTF-8 form. -/
@[simp] theorem length_ofText (s : String) : (ofText s).length = s.utf8ByteSize := by
  simp [ofText]

/-! ## Numbers -/

/-- The last `width` digits of a number in base 256, the highest
first. -/
def bigEndian : (width : Nat) → Nat → Bytes
  | 0, _ => []
  | width + 1, n => bigEndian width (n / 256) ++ [n.toUInt8]

/-- The number that octets denote in base 256, the highest first. -/
def toNat (b : Bytes) : Nat := b.foldl (fun n d => n * 256 + d.toNat) 0

@[simp] theorem length_bigEndian (width n : Nat) : (bigEndian width n).length = width := by
  induction width generalizing n with
  | zero => rfl
  | succ width ih => simp [bigEndian, ih]

theorem toNat_bigEndian (width n : Nat) : toNat (bigEndian width n) = n % Nat.pow 256 width := by
  induction width generalizing n with
  | zero => simp [bigEndian, toNat, Nat.mod_one]
  | succ width ih =>
    have := ih (n / 256)
    simp only [toNat] at this
    simp only [bigEndian, toNat, List.foldl_append, this, List.foldl_cons, List.foldl_nil,
      Nat.toUInt8_eq, UInt8.toNat_ofNat']
    -- the last digit and the digits before it
    rw [show Nat.pow 256 (width + 1) = 256 * Nat.pow 256 width from Nat.pow_succ', Nat.mod_mul]
    omega

/-! ## Hexadecimal -/

/-- A hexadecimal digit in lower case. -/
def lowerDigit (n : Nat) : Char :=
  if n < 10 then Char.ofNat (48 + n) else Char.ofNat (87 + n)

/-- A hexadecimal digit in upper case. -/
def upperDigit (n : Nat) : Char :=
  if n < 10 then Char.ofNat (48 + n) else Char.ofNat (55 + n)

/-- Two lower-case digits per octet. -/
def toHex (b : Bytes) : String :=
  String.ofList (b.flatMap fun d => [lowerDigit (d.toNat / 16), lowerDigit (d.toNat % 16)])

/-- A dump for error texts: two upper-case digits per octet, with a
comma and a space between octets, in brackets. -/
def dump (b : Bytes) : String :=
  "[" ++ String.intercalate ", " (b.map fun d =>
    String.ofList [upperDigit (d.toNat / 16), upperDigit (d.toNat % 16)]) ++ "]"

end Bytes

end TokenBridge
