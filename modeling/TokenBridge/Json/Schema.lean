import TokenBridge.Json.Basic
import TokenBridge.Json.Generic

/-!
# Schemas

Packets, messages and stored records have fixed fields. A schema lists
them, and both directions follow it: `Fields.reader` reads a record from
an object, whatever the order of its members, and `Fields.toJson` gives
the object in which a record is written, with its members in the order
of the schema.

A record with the fields `fs` is a tuple of type `Record fs`. The types
that the rest of the library works with are structures of their own;
each says next to its schema how it becomes such a tuple.

A message is an object with one member, whose name chooses among several
records (`Forms`).
-/

namespace TokenBridge.Json

/-! ## Fields -/

/-- **The type of a field**, as JSON sees it. -/
inductive Shape where
  /-- A string. -/
  | text
  /-- One of several words, each a string. -/
  | word (choices : List String)
  /-- A number of 64 bits. -/
  | count64
  /-- A number of 32 bits. -/
  | count32
  /-- A number of nanoseconds, written as a string of decimal digits. -/
  | stamp
  /-- A value that may be missing or null. -/
  | nullable (shape : Shape)
  /-- A list. -/
  | list (shape : Shape)

/-- The values of a shape. -/
@[reducible] def Shape.Value : Shape → Type
  | .text => String
  | .word choices => Fin choices.length
  | .count64 => UInt64
  | .count32 => UInt32
  | .stamp => UInt64
  | .nullable shape => Option shape.Value
  | .list shape => List shape.Value

/-- The value of a field that is left out, if it may be. -/
def Shape.absent? : (shape : Shape) → Option shape.Value
  | .nullable _ => some none
  | _ => none

/-! ### Writing -/

/-- A value of a shape as JSON. -/
def Shape.toJson : (shape : Shape) → shape.Value → Json
  | .text, s => .text s
  | .word choices, i => .text (choices.get i)
  | .count64, n => .number n.toNat
  | .count32, n => .number n.toNat
  | .stamp, n => .text (toString n.toNat)
  | .nullable _, none => .null
  | .nullable shape, some a => shape.toJson a
  | .list shape, as => .list (as.map shape.toJson)

/-! ### Reading -/

/-- The choice that a word makes. -/
def findWord (choices : List String) (word : String) : Except ReadError (Fin choices.length) :=
  match choices.finIdxOf? word with
  | some i => .ok i
  | none => .error (.unknownVariant word choices)

/-- The end of an object, and what follows it. -/
def readClosing (s : Bytes) : Except ReadError Bytes :=
  match skipBlanks s with
  | [] => .error .endOfValue
  | b :: s => if b = 0x7D then .ok s else .error .valueExpected

theorem length_lt_of_readClosing {s rest : Bytes} (h : readClosing s = .ok rest) :
    rest.length < s.length := by
  have hs := length_skipBlanks_le s
  simp only [readClosing] at h
  split at h
  · cases h
  · next ht =>
    rw [ht] at hs
    simp only [List.length_cons] at hs
    split at h
    · cases h; omega
    · cases h

/-- An object with a single member, whose key says how its value is
read. -/
def Reader.single {α : Type} (value : String → Except ReadError (Reader α)) : Reader α :=
  .ofFirst
    (fun _ s =>
      match (Reader.entry value).run s with
      | .error e => .error e
      | .ok (a, rest) =>
        match readClosing rest with
        | .error e => .error e
        | .ok rest => .ok (a, rest))
    (by
      intro b s a rest h
      split at h
      · cases h
      · next hr =>
        split at h
        · cases h
        · next hc =>
          cases h
          have h₁ := Reader.shrinks _ hr
          have h₂ := length_lt_of_readClosing hc
          omega)

/-- A choice among several things by name: the name as a string, or an
object whose only key is the name. -/
def Reader.tagged {α : Type} (named : String → Except ReadError α)
    (value : String → Except ReadError (Reader α)) : Reader α :=
  .byFirst fun b =>
    if b = quoteMark then Reader.text.check named
    else if b = 0x7B then Reader.single value
    else Reader.fail .badWord

/-- One of several words. An object may name the word as its key, but no
value is the right one for it. -/
def Reader.word (choices : List String) : Reader (Fin choices.length) :=
  .tagged (findWord choices) fun name =>
    (findWord choices name).map fun _ => Reader.fail .wrongType

/-- Goes on reading a count of nanoseconds, one digit after another. -/
def readStampFrom (n : Nat) : List Char → Except StampDefect Nat
  | [] => .ok n
  | c :: cs =>
    if c.isDigit then
      let n := n * 10 + (c.toNat - '0'.toNat)
      if n < UInt64.size then readStampFrom n cs else .error .tooLarge
    else .error .notADigit

/-- The count of nanoseconds that a text holds. A plus sign may stand
before the digits. -/
def readStamp (text : String) : Except ReadError UInt64 :=
  let digits := match text.toList with
    | '+' :: c :: cs => c :: cs
    | cs => cs
  match (if digits.isEmpty then .error .empty else readStampFrom 0 digits) with
  | .ok n => .ok n.toUInt64
  | .error defect => .error (.badStamp text defect)

/-- **The reader of a shape.** -/
def Shape.reader : (shape : Shape) → Reader shape.Value
  | .text => .text
  | .word choices => .word choices
  | .count64 => (Reader.number UInt64.size).map Nat.toUInt64
  | .count32 => (Reader.number UInt32.size).map Nat.toUInt32
  | .stamp => Reader.text.check readStamp
  | .nullable shape => shape.reader.nullable
  | .list shape => shape.reader.list

/-! ## Records -/

/-- **A schema**: the fields of a record, in order, with their
shapes. -/
abbrev Fields := List (String × Shape)

/-- **The records of a schema**: one value for each field. -/
@[reducible] def Record : Fields → Type
  | [] => Unit
  | (_, shape) :: fields => shape.Value × Record fields

/-- The members of the object in which a record is written. -/
def Fields.members : (fields : Fields) → Record fields → List (String × Json)
  | [], () => []
  | (name, shape) :: fields, (a, record) => (name, shape.toJson a) :: Fields.members fields record

/-- **The object in which a record is written.** -/
def Fields.toJson (fields : Fields) (record : Record fields) : Json :=
  .object (fields.members record)

/-- A record of which some fields have been read. -/
@[reducible] def Draft : Fields → Type
  | [] => Unit
  | (_, shape) :: fields => Option shape.Value × Draft fields

namespace Draft

/-- The draft with nothing in it. -/
def empty : (fields : Fields) → Draft fields
  | [] => ()
  | (_, _) :: fields => (none, empty fields)

/-- How the value of a member goes on with a draft, if the schema has a
field of its name. A field that has its value already refuses
another. -/
def member? : (fields : Fields) → Draft fields → (name : String) →
    Option (Except ReadError (Reader (Draft fields)))
  | [], (), _ => none
  | (field, shape) :: fields, (a?, draft), name =>
    if name = field then
      some (if a?.isSome then .error (.duplicateField field)
        else .ok (shape.reader.map fun a => (some a, draft)))
    else
      (member? fields draft name).map fun next => next.map fun r => r.map fun d => (a?, d)

/-- The record of a draft. The first field without a value is an error,
unless its shape lets it be left out. -/
def finish : (fields : Fields) → Draft fields → Except ReadError (Record fields)
  | [], () => .ok ()
  | (name, shape) :: fields, (a?, draft) =>
    match a?.or shape.absent? with
    | none => .error (.missingField name)
    | some a => (finish fields draft).map fun record => (a, record)

end Draft

/-- What happens to members that a schema does not name. -/
inductive Strangers where
  /-- They are errors. -/
  | refused
  /-- Their values are passed over, up to a depth. -/
  | ignored (depth : Nat)

/-- **The reader of a record.** -/
def Fields.reader (fields : Fields) (strangers : Strangers) : Reader (Record fields) :=
  .object
    (fun draft name =>
      match draft.member? fields name with
      | some next => next
      | none =>
        match strangers with
        | .refused => .error (.unknownField name (fields.map (·.1)))
        | .ignored depth => .ok ((Reader.ignored depth).map fun _ => draft))
    (Draft.empty fields) (Draft.finish fields)

/-! ## Messages -/

/-- **The forms of a message.** A message takes one of several forms,
each with a name and fields of its own. -/
structure Forms (α : Type) where
  /-- The forms. -/
  Form : Type
  /-- All of them, in order. -/
  all : List Form
  /-- The name of a form. -/
  name : Form → String
  /-- The fields of a form. -/
  fields : Form → Fields
  /-- The message of a form with the given fields. -/
  make : (form : Form) → Record (fields form) → α
  /-- The form of a message. -/
  form : α → Form
  /-- The fields of a message. -/
  record : (a : α) → Record (fields (form a))
  /-- A message is made of its fields. -/
  make_record : ∀ a, make (form a) (record a) = a
  /-- A form is found by its name. -/
  find?_name : ∀ f, all.find? (name · == name f) = some f

namespace Forms

variable {α : Type}

/-- The form of a name. -/
def find (forms : Forms α) (name : String) : Except ReadError forms.Form :=
  match forms.all.find? (forms.name · == name) with
  | some form => .ok form
  | none => .error (.unknownVariant name (forms.all.map forms.name))

/-- **The reader of a message.** A name alone does not do, since every
form has fields to give, if only an empty object of them. -/
def reader (forms : Forms α) : Reader α :=
  .tagged
    (fun name => (forms.find name).bind fun _ => .error .wrongType)
    (fun name => (forms.find name).map fun form =>
      ((forms.fields form).reader .refused).map (forms.make form))

/-- **A message as JSON**: an object with one member, under the name of
its form. -/
def toJson (forms : Forms α) (a : α) : Json :=
  .object [(forms.name (forms.form a), (forms.fields (forms.form a)).toJson (forms.record a))]

end Forms

end TokenBridge.Json
