import TokenBridge.Text.Cased

/-!
# Addresses

An account is named by its address, which is a text. Which texts are
addresses is not for the bridge to say. It asks the chain on which it
runs about every address that comes with a message, before anything is
given to it, and chains have different rules.

The rule of this module is that of the simulated chain on which a bridge
is tried out, and its refusals say so. An address has from 3 to 90 octets
there, and it is in normal form, so that one account cannot go by two
addresses that differ in case alone. The characters of an address are
otherwise free, but for the one with the number zero. What is proved of
a bridge rests on one fact about the rule and on nothing else: an
address that is accepted is the text itself (`Address.eq_of_ofText`).

The check compares an address with its lower-case form, which has to
stay within 90 octets as well. The lower-case form of some characters is
longer than they are. A form that grows beyond the limit loses its end,
and if the limit runs through a character, what is left is not a text
any more. `Defect.broken` reports that; otherwise it is an address out
of normal form like any other.
-/

namespace TokenBridge

/-- The address of an account. -/
abbrev Address := String

namespace Address

/-- The most octets that an address has. -/
def maxLength : Nat := 90

/-- **What is wrong with an address.** -/
inductive Defect where
  /-- It has fewer than three octets. -/
  | tooShort
  /-- It has more than ninety octets. -/
  | tooLong
  /-- It is not in normal form. -/
  | notNormalized
  /-- Its lower-case form ends within a character, the one that begins
  at the given octet. -/
  | broken (place : Nat)
  deriving DecidableEq, Repr

/-- The wording of a defect. -/
def Defect.message : Defect → String
  | .tooShort =>
    "Generic error: Invalid input: "
      ++ "human address too short for this mock implementation (must be >= 3)."
  | .tooLong =>
    "Generic error: Invalid input: "
      ++ "human address too long for this mock implementation (must be <= 90)."
  | .notNormalized => "Generic error: Invalid input: address not normalized"
  | .broken place =>
    "Cannot decode UTF8 bytes into string: incomplete utf-8 byte sequence from index "
      ++ toString place

/-- Whether a text is in the normal form of addresses. -/
def isNormalized (s : String) : Bool :=
  s.toList.all fun c => !Text.Cased.isLowered c && c != '\x00'

/-- Where the character begins that the end of `room` octets runs
through, if there is one. `place` octets lie before the text. The
characters with the number zero take room, but they are left out when
octets are counted. -/
def breakFrom (place room : Nat) : List Char → Option Nat
  | [] => none
  | c :: cs =>
    if c.utf8Size ≤ room then
      breakFrom (if c = '\x00' then place else place + c.utf8Size) (room - c.utf8Size) cs
    else if room = 0 then none
    else some place

/-- Where the lower-case form of a text breaks, if it does. -/
def break? (s : String) : Option Nat :=
  breakFrom 0 maxLength (s.toList.flatMap Text.Cased.lower)

/-- **The address that a text gives**, if the chain takes it for one. -/
def ofText (s : String) : Except Defect Address :=
  if s.utf8ByteSize < 3 then .error .tooShort
  else if s.utf8ByteSize > maxLength then .error .tooLong
  else if isNormalized s then .ok s
  else
    match break? s with
    | some place => .error (.broken place)
    | none => .error .notNormalized

/-- Which texts are addresses. -/
theorem ofText_eq_ok_iff {s : String} {a : Address} :
    ofText s = .ok a
      ↔ a = s ∧ 3 ≤ s.utf8ByteSize ∧ s.utf8ByteSize ≤ maxLength ∧ isNormalized s := by
  simp only [ofText]
  split
  · next h => simp [Nat.not_le.mpr h]
  · next h₁ =>
    split
    · next h => simp [Nat.not_le.mpr h]
    · next h₂ =>
      split
      · next h => simp [Nat.not_lt.mp h₁, Nat.not_lt.mp h₂, h, eq_comm]
      · next h => split <;> simp [h]

/-- **An address is accepted as it is**, or not at all. -/
theorem eq_of_ofText {s : String} {a : Address} (h : ofText s = .ok a) : a = s :=
  (ofText_eq_ok_iff.mp h).1

end Address

end TokenBridge
