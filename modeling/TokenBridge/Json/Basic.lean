import TokenBridge.Json.Text

/-!
# JSON values

Values with parts of any type, and the one form in which they are
written: no blanks, members in the order given, and only those
characters escaped that have to be.
-/

namespace TokenBridge

/-- **A JSON value.** Numbers are integers, since no others occur.
Members keep their order, and a name may occur twice. -/
inductive Json where
  /-- The null. -/
  | null
  /-- A truth value. -/
  | bool (b : Bool)
  /-- An integer. -/
  | number (n : Int)
  /-- A string. -/
  | text (s : String)
  /-- A list. -/
  | list (items : List Json)
  /-- An object. -/
  | object (members : List (String × Json))
  deriving Repr

namespace Json

/-- The decimal digits of a number, without leading zeros. -/
def decimal (n : Nat) : Bytes :=
  if n < 10 then [0x30 + n.toUInt8] else decimal (n / 10) ++ [0x30 + (n % 10).toUInt8]

mutual

/-- **A value as compact JSON.** -/
def write : Json → Bytes
  | .null => Bytes.ofText "null"
  | .bool true => Bytes.ofText "true"
  | .bool false => Bytes.ofText "false"
  | .number (.ofNat n) => decimal n
  | .number (.negSucc n) => 0x2D :: decimal (n + 1)
  | .text s => writeText s
  | .list items => 0x5B :: (writeItems items ++ [0x5D])
  | .object members => 0x7B :: (writeMembers members ++ [0x7D])

/-- The elements of a list, with commas between them. -/
def writeItems : List Json → Bytes
  | [] => []
  | [x] => write x
  | x :: y :: rest => write x ++ 0x2C :: writeItems (y :: rest)

/-- The members of an object, with commas between them. -/
def writeMembers : List (String × Json) → Bytes
  | [] => []
  | [(name, x)] => writeText name ++ 0x3A :: write x
  | (name, x) :: m :: rest =>
    writeText name ++ 0x3A :: (write x ++ 0x2C :: writeMembers (m :: rest))

end

/-- An optional text: null when there is none. -/
def ofText? : Option String → Json
  | none => .null
  | some s => .text s

/-- A 64-bit number. -/
def ofUInt64 (n : UInt64) : Json := .number n.toNat

end Json

end TokenBridge
