import TokenBridge.Proofs.Codec

/-!
# The many written forms of a value

A value can be written as JSON in many ways, of which `Json.write` is one. Blanks may
stand between the tokens, the members of an object come in any order, most characters
can be escaped in more than one way, and there are numbers that no bridge has a use for.
Packets come from foreign chains, and each of them writes as it likes.

A `Layout` is a text in which all of that has been decided: it is a tree of the tokens,
with the blanks between them and with the escapes of each string. Whatever follows the
grammar of JSON is written by some layout, as long as its strings denote characters. A
high surrogate stands right before the low one that belongs to it (`Glyph.pair`), and
nowhere else. What a layout means does not refer to how texts are read.
-/

namespace TokenBridge.Json

/-! ## Blanks -/

/-- **An octet that may stand between two tokens.** -/
inductive Filler where
  /-- A space. -/
  | space
  /-- A tab. -/
  | tab
  /-- The end of a line. -/
  | lineFeed
  /-- The return to the start of a line. -/
  | carriageReturn
  deriving DecidableEq, Repr

/-- The octet of a blank. -/
def Filler.octet : Filler → UInt8
  | .space => 0x20
  | .tab => 0x09
  | .lineFeed => 0x0A
  | .carriageReturn => 0x0D

/-- **What stands between two tokens.** -/
abbrev Gap := List Filler

/-- The octets between two tokens. -/
def Gap.write (gap : Gap) : Bytes := gap.map Filler.octet

/-! ## Strings -/

/-- **A hexadecimal digit**, as it is written. -/
structure HexDigit where
  /-- Its value. -/
  value : Fin 16
  /-- Whether it is a capital, if it is a letter. -/
  capital : Bool
  deriving DecidableEq, Repr

/-- The octet of a digit. -/
def HexDigit.octet (d : HexDigit) : UInt8 :=
  UInt8.ofNat (d.value + if d.value < 10 then 0x30 else if d.capital then 0x37 else 0x57)

/-- **The four digits** that give a code unit by its number. -/
structure HexQuad where
  /-- The first digit. -/
  first : HexDigit
  /-- The second digit. -/
  second : HexDigit
  /-- The third digit. -/
  third : HexDigit
  /-- The last digit. -/
  fourth : HexDigit
  deriving DecidableEq, Repr

namespace HexQuad

/-- The number that four digits denote. -/
def number (q : HexQuad) : Nat :=
  q.first.value * 0x1000 + q.second.value * 0x100 + q.third.value * 0x10 + q.fourth.value

/-- Four digits after a backslash and the letter of a number. -/
def write (q : HexQuad) : Bytes :=
  [backslash, 0x75, q.first.octet, q.second.octet, q.third.octet, q.fourth.octet]

end HexQuad

/-- **The characters with an escape of one letter.** -/
inductive Letter where
  /-- The double quote. -/
  | quote
  /-- The backslash. -/
  | backslash
  /-- The slash, which needs no escape but has one. -/
  | slash
  /-- The step back. -/
  | backspace
  /-- The end of a page. -/
  | formFeed
  /-- The end of a line. -/
  | lineFeed
  /-- The return to the start of a line. -/
  | carriageReturn
  /-- The tab. -/
  | tab
  deriving DecidableEq, Repr

namespace Letter

/-- The letter after the backslash. -/
def octet : Letter → UInt8
  | .quote => 0x22
  | .backslash => 0x5C
  | .slash => 0x2F
  | .backspace => 0x62
  | .formFeed => 0x66
  | .lineFeed => 0x6E
  | .carriageReturn => 0x72
  | .tab => 0x74

/-- The character that is meant. -/
def char : Letter → Char
  | .quote => '"'
  | .backslash => '\\'
  | .slash => '/'
  | .backspace => Char.ofNat 0x08
  | .formFeed => Char.ofNat 0x0C
  | .lineFeed => Char.ofNat 0x0A
  | .carriageReturn => Char.ofNat 0x0D
  | .tab => Char.ofNat 0x09

end Letter

/-- Whether a character may stand in a string as it is. -/
def IsPlain (c : Char) : Prop := 0x20 ≤ c.toNat ∧ c ≠ '"' ∧ c ≠ '\\'

instance : DecidablePred IsPlain := fun _ => inferInstanceAs (Decidable (_ ∧ _))

/-- **A character of a string**, as it is written. -/
inductive Glyph where
  /-- The character itself. -/
  | bare (c : Char) (plain : IsPlain c)
  /-- An escape of one letter. -/
  | letter (l : Letter)
  /-- The number of a character, which is no surrogate. -/
  | unit (q : HexQuad) (single : ¬ (0xD800 ≤ q.number ∧ q.number ≤ 0xDFFF))
  /-- The numbers of the two surrogates of a character beyond the first plane. -/
  | pair (high low : HexQuad) (opens : 0xD800 ≤ high.number ∧ high.number ≤ 0xDBFF)
    (closes : 0xDC00 ≤ low.number ∧ low.number ≤ 0xDFFF)

namespace Glyph

/-- **The character** that is written. -/
def char : Glyph → Char
  | .bare c _ => c
  | .letter l => l.char
  | .unit q _ => Char.ofNat q.number
  | .pair high low _ _ =>
    Char.ofNat (0x10000 + (high.number - 0xD800) * 0x400 + (low.number - 0xDC00))

/-- The octets of a character, as it is written. -/
def write : Glyph → Bytes
  | .bare c _ => Bytes.ofText (String.ofList [c])
  | .letter l => [Json.backslash, l.octet]
  | .unit q _ => q.write
  | .pair high low _ _ => high.write ++ low.write

end Glyph

/-- **The characters of a string**, as they are written. -/
abbrev Glyphs := List Glyph

namespace Glyphs

/-- **The text** that is written. -/
def text (gs : Glyphs) : String := String.ofList (gs.map Glyph.char)

/-- A string with its quotes. -/
def write (gs : Glyphs) : Bytes := quoteMark :: (gs.flatMap Glyph.write ++ [quoteMark])

end Glyphs

/-! ## Numbers -/

/-- **One digit or more.** -/
structure Digits where
  /-- The first digit. -/
  first : Fin 10
  /-- The others. -/
  others : List (Fin 10)
  deriving DecidableEq, Repr

/-- The octet of a digit. -/
def digitOctet (d : Fin 10) : UInt8 := UInt8.ofNat (0x30 + d)

namespace Digits

/-- The octets of digits. -/
def write (ds : Digits) : Bytes := (ds.first :: ds.others).map digitOctet

end Digits

/-- **The exponent of a number.** -/
structure Exponent where
  /-- Whether its letter is a capital. -/
  capital : Bool
  /-- Its sign, if there is one: whether it is a minus. -/
  sign : Option Bool
  /-- Its digits. -/
  digits : Digits
  deriving DecidableEq, Repr

/-- The octets of an exponent. -/
def Exponent.write (e : Exponent) : Bytes :=
  (if e.capital then 0x45 else 0x65) ::
    ((e.sign.elim [] fun minus => [if minus then 0x2D else 0x2B]) ++ e.digits.write)

/-- **A number**, as it is written. -/
structure Numeral where
  /-- Whether there is a minus before it. -/
  minus : Bool
  /-- The digits before the point. -/
  whole : Digits
  /-- A zero stands alone. -/
  unpadded : whole.first = 0 → whole.others = []
  /-- The digits after the point, if there is one. -/
  fraction : Option Digits
  /-- The exponent, if there is one. -/
  exponent : Option Exponent
  deriving DecidableEq, Repr

/-- The octets of a number. -/
def Numeral.write (n : Numeral) : Bytes :=
  (if n.minus then [0x2D] else []) ++ (n.whole.write
    ++ ((n.fraction.elim [] fun ds => 0x2E :: ds.write) ++ n.exponent.elim [] Exponent.write))

/-! ## Values -/

/-- An element of a list, with the blanks around it. -/
structure Item (α : Type) where
  /-- The blanks before it. -/
  before : Gap
  /-- The element. -/
  value : α
  /-- The blanks after it. -/
  after : Gap

/-- A member of an object, with the blanks around its parts. -/
structure Member (α : Type) where
  /-- The blanks before the name. -/
  before : Gap
  /-- The name. -/
  name : Glyphs
  /-- The blanks before the colon. -/
  between : Gap
  /-- The blanks after the colon. -/
  behind : Gap
  /-- The value. -/
  value : α
  /-- The blanks after the value. -/
  after : Gap

/-- **A value as it is written**, with all its blanks and escapes. -/
inductive Layout where
  /-- The null. -/
  | null
  /-- A truth value. -/
  | bool (b : Bool)
  /-- A number. -/
  | number (n : Numeral)
  /-- A string. -/
  | text (gs : Glyphs)
  /-- A list, with the blanks after its opening bracket. -/
  | list (gap : Gap) (items : List (Item Layout))
  /-- An object, with the blanks after its opening brace. -/
  | object (gap : Gap) (members : List (Member Layout))

namespace Layout

/-! ### Writing -/

mutual

/-- **The text of a layout.** -/
def write : Layout → Bytes
  | .null => Bytes.ofText "null"
  | .bool true => Bytes.ofText "true"
  | .bool false => Bytes.ofText "false"
  | .number n => n.write
  | .text gs => gs.write
  | .list gap items => 0x5B :: (gap.write ++ Reader.joined (writeItems items) ++ [0x5D])
  | .object gap members =>
    0x7B :: (gap.write ++ Reader.joined (writeMembers members) ++ [0x7D])

/-- The texts of the elements of a list. -/
def writeItems : List (Item Layout) → List Bytes
  | [] => []
  | ⟨before, v, after⟩ :: items => (before.write ++ write v ++ after.write) :: writeItems items

/-- The texts of the members of an object. -/
def writeMembers : List (Member Layout) → List Bytes
  | [] => []
  | ⟨before, name, between, behind, v, after⟩ :: members =>
    (before.write ++ (name.write ++ between.write ++ 0x3A :: (behind.write ++ write v))
      ++ after.write) :: writeMembers members

end

/-! ### Depth -/

mutual

/-- **How many lists and objects stand inside each other.** -/
def depth : Layout → Nat
  | .list _ items => depthOfItems items + 1
  | .object _ members => depthOfMembers members + 1
  | _ => 0

/-- The depth of the deepest element of a list. -/
def depthOfItems : List (Item Layout) → Nat
  | [] => 0
  | ⟨_, v, _⟩ :: items => max (depth v) (depthOfItems items)

/-- The depth of the deepest member of an object. -/
def depthOfMembers : List (Member Layout) → Nat
  | [] => 0
  | ⟨_, _, _, _, v, _⟩ :: members => max (depth v) (depthOfMembers members)

end

theorem depthOfItems_le_iff {items : List (Item Layout)} {n : Nat} :
    depthOfItems items ≤ n ↔ ∀ x ∈ items, x.value.depth ≤ n := by
  induction items with
  | nil => simp [depthOfItems]
  | cons x items ih =>
    obtain ⟨before, v, after⟩ := x
    rw [depthOfItems, Nat.max_le, ih, List.forall_mem_cons]

theorem depthOfMembers_le_iff {members : List (Member Layout)} {n : Nat} :
    depthOfMembers members ≤ n ↔ ∀ m ∈ members, m.value.depth ≤ n := by
  induction members with
  | nil => simp [depthOfMembers]
  | cons m members ih =>
    obtain ⟨before, name, between, behind, v, after⟩ := m
    rw [depthOfMembers, Nat.max_le, ih, List.forall_mem_cons]

/-! ### Meaning -/

/-- The text that a value is, if it is one. -/
def text? : Layout → Option String
  | .text gs => some gs.text
  | _ => none

/-- What a value is, given what it is if it is not null. -/
def nullable? {α : Type} (read : Layout → Option α) : Layout → Option (Option α)
  | .null => some none
  | v => (read v).map some

/-- The list that a value is, given what its elements are. -/
def list? {α : Type} (read : Layout → Option α) : Layout → Option (List α)
  | .list _ items => items.mapM fun x => read x.value
  | _ => none

end Layout

/-- **The values of the members with a name**, in order. -/
def valuesOf (name : String) (members : List (Member Layout)) : List Layout :=
  (members.filter (·.name.text = name)).map (·.value)

/-! ## An object of foreign make -/

/-- A text without escapes. -/
def plainly (s : String) : Glyphs :=
  s.toList.filterMap fun c => if h : IsPlain c then some (.bare c h) else none

/-- The members of a packet as another implementation writes them: in another order, with
blanks, and with a list of its own. The names of the class and of a token are escaped in
part, and there is no metadata of the class. -/
def foreignMembers : List (Member Layout) :=
  [⟨[.space], plainly "receiver", [], [.tab], .text (plainly "bob"), []⟩,
   ⟨[], plainly "memo", [.space], [], .object [] [⟨[], plainly "a", [], [], .list [.lineFeed]
      [⟨[], .number ⟨true, ⟨1, [2]⟩, nofun, some ⟨5, []⟩, some ⟨true, some true, ⟨3, []⟩⟩⟩, []⟩,
       ⟨[.space], .null, []⟩], []⟩], [.space]⟩,
   ⟨[.carriageReturn, .lineFeed], plainly "tokenUris", [], [], .list []
      [⟨[], .null, [.space]⟩, ⟨[], .text [.letter .slash], []⟩], []⟩,
   ⟨[], plainly "classI" ++ [.unit ⟨⟨0, false⟩, ⟨0, false⟩, ⟨6, false⟩, ⟨4, false⟩⟩ (by decide)],
      [], [], .text (plainly "art"), []⟩,
   ⟨[], plainly "sender", [], [.space], .text (plainly "alice"), []⟩,
   ⟨[], plainly "tokenIds", [], [], .list [.space]
      [⟨[], .text (plainly "moon"), []⟩,
       ⟨[], .text [.pair ⟨⟨13, true⟩, ⟨8, false⟩, ⟨3, false⟩, ⟨12, false⟩⟩
          ⟨⟨13, false⟩, ⟨15, true⟩, ⟨1, false⟩, ⟨9, false⟩⟩ (by decide) (by decide)],
          [.space]⟩], []⟩]

example : (Layout.object [] foreignMembers).write = Bytes.ofText
    ("\x7b \"receiver\":\t\"bob\",\"memo\" :\x7b\"a\":[\n-12.5E-3, null]\x7d ,\r\n"
      ++ "\"tokenUris\":[null ,\"\\/\"],\"classI\\u0064\":\"art\",\"sender\": \"alice\","
      ++ "\"tokenIds\":[ \"moon\",\"\\uD83c\\udF19\" ]\x7d") := by
  decide +kernel

end TokenBridge.Json
