import TokenBridge.Bytes
import TokenBridge.Json.Error

/-!
# Strings in JSON

Between its quotes a string is written with the quote, the backslash
and the 32 control characters escaped, and with everything else as it
is. Reading undoes that (`unescape_escape`); it accepts the other
escapes of JSON as well, among them the pairs of surrogates for the
characters beyond the first plane.

All of this happens on octets. Nothing that is escaped, and no character
that ends a string, occurs inside the UTF-8 form of another character,
so the octets need no decoding until the string is complete.
-/

namespace TokenBridge.Json

/-! ## The characters with a meaning -/

/-- The double quote. -/
abbrev quoteMark : UInt8 := 0x22

/-- The backslash. -/
abbrev backslash : UInt8 := 0x5C

/-- The value of a hexadecimal digit, in either case. -/
def hexValue? (d : UInt8) : Option Nat :=
  if 0x30 ≤ d ∧ d ≤ 0x39 then some (d.toNat - 0x30)
  else if 0x41 ≤ d ∧ d ≤ 0x46 then some (d.toNat - 0x37)
  else if 0x61 ≤ d ∧ d ≤ 0x66 then some (d.toNat - 0x57)
  else none

/-- The number that four hexadecimal digits denote. -/
def hexQuad? (a b c d : UInt8) : Option Nat := do
  let a ← hexValue? a
  let b ← hexValue? b
  let c ← hexValue? c
  let d ← hexValue? d
  return ((a * 16 + b) * 16 + c) * 16 + d

/-! ## Writing -/

/-- The characters with a short escape, and the letters of their
escapes. -/
def shortEscapes : List (UInt8 × UInt8) :=
  [(quoteMark, quoteMark), (backslash, backslash), (0x08, 0x62), (0x09, 0x74), (0x0A, 0x6E),
   (0x0C, 0x66), (0x0D, 0x72)]

/-- A hexadecimal digit in upper case. -/
def hexOctet (n : UInt8) : UInt8 := if n < 10 then 0x30 + n else 0x37 + n

/-- One octet of a string, as it is written: a short escape if it has
one, four digits if it is a control, and itself otherwise. -/
def escapeOctet (b : UInt8) : Bytes :=
  match shortEscapes.lookup b with
  | some letter => [backslash, letter]
  | none =>
    if b < 0x20 then [backslash, 0x75, 0x30, 0x30, hexOctet (b / 16), hexOctet (b % 16)]
    else [b]

/-- The octets of a string, as they are written between the quotes. -/
def escape (b : Bytes) : Bytes := b.flatMap escapeOctet

/-- **A string as JSON.** -/
def writeText (s : String) : Bytes :=
  quoteMark :: (escape (Bytes.ofText s) ++ [quoteMark])

/-! ## Reading -/

/-- The octets before the closing quote, added in reverse to those
already seen, and the octets after it. A backslash protects the octet
after it. -/
def scanText (seen : Bytes) : Bytes → Option (Bytes × Bytes)
  | [] => none
  | b :: rest =>
    if b = quoteMark then some (seen.reverse, rest)
    else if b = backslash then
      match rest with
      | [] => none
      | c :: rest => scanText (c :: b :: seen) rest
    else scanText (b :: seen) rest

/-- What an escape of one letter stands for. The slash has one as well,
although it is never written. -/
def shortEscape? (letter : UInt8) : Option UInt8 :=
  if letter = 0x2F then some 0x2F
  else (shortEscapes.find? (·.2 == letter)).map (·.1)

/-- Whether a code unit opens a pair of surrogates. -/
def isHighSurrogate (n : Nat) : Bool := 0xD800 ≤ n && n < 0xDC00

/-- Whether a code unit closes a pair of surrogates. -/
def isLowSurrogate (n : Nat) : Bool := 0xDC00 ≤ n && n < 0xE000

/-- The UTF-8 form of a code point, in reverse. -/
def reversedUtf8 (n : Nat) : Bytes := (Bytes.ofText (Char.ofNat n).toString).reverse

/-- What a code unit given by its number adds to the octets read so
far, which are in reverse, and which high surrogate is open after
it. -/
def addUnit (read : Bytes) (high : Option Nat) (unit : Nat) :
    Except ReadError (Bytes × Option Nat) :=
  if isHighSurrogate unit then
    match high with
    | some _ => .error .lowSurrogateExpected
    | none => .ok (read, some unit)
  else if isLowSurrogate unit then
    match high with
    | some h =>
      .ok (reversedUtf8 (0x10000 + (h - 0xD800) * 0x400 + (unit - 0xDC00)) ++ read, none)
    | none => .error .highSurrogateExpected
  else .ok (reversedUtf8 unit ++ read, high)

/-- The error of an octet that cannot stand where it does in an escape,
or of the end of the text in its place. A control character may stand
nowhere in a string. -/
def misplaced : Option UInt8 → ReadError
  | some b => if b < 0x20 then .controlCharacter else .badEscape
  | none => .badEscape

/-- The error of an escape that stands for nothing, which begins with
the given octets after its backslash. The first octet that does not
belong there decides: after the letter of a number, the first that is no
digit. -/
def escapeError : Bytes → ReadError
  | 0x75 :: digits => misplaced (digits.find? fun d => (hexValue? d).isNone)
  | s => misplaced s.head?

/-- **The octets that an escaped string denotes.** The octets read so
far are in reverse; `high` is a high surrogate that still waits for its
low one. Other escapes may stand between the two, bare characters may
not. -/
def unescapeFrom (read : Bytes) (high : Option Nat) : Bytes → Except ReadError Bytes
  | [] => if high.isSome then .error .loneSurrogate else .ok read.reverse
  | b :: rest =>
    if b = backslash then
      match rest with
      | 0x75 :: d₁ :: d₂ :: d₃ :: d₄ :: rest =>
        match hexQuad? d₁ d₂ d₃ d₄ with
        | none => .error (escapeError [0x75, d₁, d₂, d₃, d₄])
        | some unit =>
          match addUnit read high unit with
          | .error e => .error e
          | .ok (read, high) => unescapeFrom read high rest
      | letter :: rest =>
        match shortEscape? letter with
        | none => .error (escapeError (letter :: rest))
        | some o => unescapeFrom (o :: read) high rest
      | [] => .error .badEscape
    else if b < 0x20 then .error .controlCharacter
    else if high.isSome then .error .loneSurrogate
    else unescapeFrom (b :: read) high rest

/-- The octets that an escaped string denotes. -/
def unescape (b : Bytes) : Except ReadError Bytes := unescapeFrom [] none b

/-- The text between two quotes. Only a string that holds a backslash is
looked through for escapes and controls. -/
def decodeText (raw : Bytes) : Except ReadError String := do
  let octets ← if raw.contains backslash then unescape raw else .ok raw
  match Bytes.toText? octets with
  | some s => .ok s
  | none => .error .badUtf8

theorem length_lt_of_scanText {seen s raw rest : Bytes}
    (h : scanText seen s = some (raw, rest)) : rest.length < s.length := by
  fun_induction scanText seen s <;> simp_all <;> omega

/-! ## Reading undoes writing -/

/-- An octet that has a short escape gets it back. -/
theorem shortEscape?_of_lookup {b letter : UInt8} (h : shortEscapes.lookup b = some letter) :
    letter ≠ 0x75 ∧ shortEscape? letter = some b := by
  have hm : (b, letter) ∈ shortEscapes := by
    obtain ⟨l₁, l₂, hl, -⟩ := List.lookup_eq_some_iff.mp h
    simp [hl]
  revert hm
  simp only [shortEscapes, List.mem_cons, Prod.mk.injEq, List.not_mem_nil, or_false]
  rintro (⟨rfl, rfl⟩ | ⟨rfl, rfl⟩ | ⟨rfl, rfl⟩ | ⟨rfl, rfl⟩ | ⟨rfl, rfl⟩ | ⟨rfl, rfl⟩ |
    ⟨rfl, rfl⟩) <;> decide

/-- The characters with a meaning have short escapes. -/
theorem ne_of_lookup_eq_none {b : UInt8} (h : shortEscapes.lookup b = none) :
    b ≠ quoteMark ∧ b ≠ backslash := by
  have hmem : ∀ p ∈ shortEscapes, b ≠ p.1 := by simpa using List.lookup_eq_none_iff.mp h
  exact ⟨hmem (quoteMark, quoteMark) (by decide), hmem (backslash, backslash) (by decide)⟩

/-- A control character gets its four digits back, and they are nothing
but digits. -/
theorem control_facts : ∀ n < 32,
    hexQuad? 0x30 0x30 (hexOctet (UInt8.ofNat n / 16)) (hexOctet (UInt8.ofNat n % 16)) = some n
      ∧ reversedUtf8 n = [UInt8.ofNat n]
      ∧ hexOctet (UInt8.ofNat n / 16) ≠ quoteMark ∧ hexOctet (UInt8.ofNat n / 16) ≠ backslash
      ∧ hexOctet (UInt8.ofNat n % 16) ≠ quoteMark
      ∧ hexOctet (UInt8.ofNat n % 16) ≠ backslash := by
  decide +kernel

theorem scanText_quote (seen rest : Bytes) :
    scanText seen (quoteMark :: rest) = some (seen.reverse, rest) := by
  rw [scanText.eq_def]
  rfl

theorem scanText_escaped (b : UInt8) (seen rest : Bytes) :
    scanText seen (backslash :: b :: rest) = scanText (b :: backslash :: seen) rest := by
  rw [scanText.eq_def]
  rfl

theorem scanText_plain {b : UInt8} (hq : b ≠ quoteMark) (hb : b ≠ backslash)
    (seen rest : Bytes) : scanText seen (b :: rest) = scanText (b :: seen) rest := by
  rw [scanText.eq_def]
  simp only [if_neg hq, if_neg hb]

theorem scanText_escapeOctet (b : UInt8) (seen rest : Bytes) :
    scanText seen (escapeOctet b ++ rest) = scanText ((escapeOctet b).reverse ++ seen) rest := by
  simp only [escapeOctet]
  split
  · exact scanText_escaped ..
  · next h =>
    have ⟨hq, hb⟩ := ne_of_lookup_eq_none h
    split
    · next hc =>
      -- the backslash protects one octet, and the four digits are plain
      have ⟨_, _, h₁, h₂, h₃, h₄⟩ := control_facts b.toNat hc
      rw [UInt8.ofNat_toNat] at h₁ h₂ h₃ h₄
      simp only [List.cons_append, List.nil_append]
      rw [scanText_escaped, scanText_plain (by decide) (by decide),
        scanText_plain (by decide) (by decide), scanText_plain h₁ h₂, scanText_plain h₃ h₄]
      rfl
    · exact scanText_plain hq hb ..

/-- The closing quote of a written string is the one that is found. -/
theorem scanText_escape (b seen rest : Bytes) :
    scanText seen (escape b ++ quoteMark :: rest) = some (seen.reverse ++ escape b, rest) := by
  induction b generalizing seen with
  | nil => simp [escape, scanText_quote]
  | cons o b ih =>
    rw [escape, List.flatMap_cons, ← escape, List.append_assoc, scanText_escapeOctet, ih]
    simp

/-- An escape of one letter. -/
theorem unescapeFrom_letter {letter o : UInt8} (hu : letter ≠ 0x75)
    (ho : shortEscape? letter = some o) (read : Bytes) (high : Option Nat) (rest : Bytes) :
    unescapeFrom read high (backslash :: letter :: rest)
      = unescapeFrom (o :: read) high rest := by
  rw [unescapeFrom.eq_def]
  simp only [if_true]
  split
  · next heq => cases heq; exact absurd rfl hu
  · next heq => cases heq; rw [ho]
  · next heq => cases heq

/-- An escape by a number. -/
theorem unescapeFrom_unit {d₁ d₂ d₃ d₄ : UInt8} {unit : Nat} {read read' : Bytes}
    {high high' : Option Nat} (hunit : hexQuad? d₁ d₂ d₃ d₄ = some unit)
    (hadd : addUnit read high unit = .ok (read', high')) (rest : Bytes) :
    unescapeFrom read high (backslash :: 0x75 :: d₁ :: d₂ :: d₃ :: d₄ :: rest)
      = unescapeFrom read' high' rest := by
  rw [unescapeFrom.eq_def]
  simp only [if_true, hunit, hadd]

/-- An octet that stands for itself. -/
theorem unescapeFrom_plain {b : UInt8} (hb : b ≠ backslash) (hc : ¬ b < 0x20)
    (read rest : Bytes) :
    unescapeFrom read none (b :: rest) = unescapeFrom (b :: read) none rest := by
  rw [unescapeFrom.eq_def]
  simp only [if_neg hb, if_neg hc, Option.isSome_none, Bool.false_eq_true, if_false]

/-- The number of a character is no half of a pair. -/
theorem addUnit_single {unit : Nat} (h : ¬ (0xD800 ≤ unit ∧ unit ≤ 0xDFFF)) (read : Bytes)
    (high : Option Nat) : addUnit read high unit = .ok (reversedUtf8 unit ++ read, high) := by
  have h₁ : isHighSurrogate unit = false := by simp [isHighSurrogate]; omega
  have h₂ : isLowSurrogate unit = false := by simp [isLowSurrogate]; omega
  simp [addUnit, h₁, h₂]

theorem unescapeFrom_escapeOctet (b : UInt8) (read rest : Bytes) :
    unescapeFrom read none (escapeOctet b ++ rest) = unescapeFrom (b :: read) none rest := by
  simp only [escapeOctet]
  split
  · next letter h =>
    -- the letter of a short escape is not the one before a number
    have ⟨hu, ho⟩ := shortEscape?_of_lookup h
    exact unescapeFrom_letter hu ho read none rest
  · next h =>
    have ⟨_, hb⟩ := ne_of_lookup_eq_none h
    split
    · next hc =>
      have ⟨hq, hr, _⟩ := control_facts b.toNat hc
      rw [UInt8.ofNat_toNat] at hq hr
      have hn : b.toNat < 32 := hc
      have hadd : addUnit read none b.toNat = .ok (b :: read, none) := by
        rw [addUnit_single (by omega), hr]
        rfl
      exact unescapeFrom_unit hq hadd rest
    · next hc => exact unescapeFrom_plain hb hc read rest

/-- **Reading a written string gives its octets back.** -/
theorem unescape_escape (b : Bytes) : unescape (escape b) = .ok b := by
  have general (b read : Bytes) :
      unescapeFrom read none (escape b) = .ok (read.reverse ++ b) := by
    induction b generalizing read with
    | nil => simp [escape, unescapeFrom]
    | cons o b ih =>
      rw [escape, List.flatMap_cons, ← escape, unescapeFrom_escapeOctet, ih]
      simp
  exact general b []

/-- A string that is written without a backslash is written as it is. -/
theorem escape_eq_self {b : Bytes} (h : backslash ∉ escape b) : escape b = b := by
  induction b with
  | nil => rfl
  | cons o b ih =>
    rw [escape, List.flatMap_cons, ← escape] at h ⊢
    rw [List.mem_append, not_or] at h
    rw [ih h.2]
    -- both kinds of escapes begin with a backslash
    have ho : escapeOctet o = [o] := by
      have ho := h.1
      simp only [escapeOctet] at ho ⊢
      split
      · simp_all
      · split
        · simp_all
        · rfl
    rw [ho]
    rfl

/-- **Reading a written text gives it back.** -/
@[simp] theorem decodeText_escape (s : String) : decodeText (escape (Bytes.ofText s)) = .ok s := by
  rw [decodeText]
  split
  · -- the octets are unescaped only if there is a backslash
    rw [unescape_escape]
    simp [bind, Except.bind]
  · next h =>
    rw [escape_eq_self (by simpa using h)]
    simp [bind, Except.bind]

end TokenBridge.Json
