import TokenBridge.Json.Document
import TokenBridge.Json.Generic

/-!
# Acknowledgements

The receiving bridge answers every packet, either with a success or with
an error and its text. The answer is an object whose member `result`
says which of the two it is; a list whose first element says so is
accepted as well.

The sender of the packet cannot do without an answer: one that cannot be
read counts as an error (`Ack.decodeLenient`), so that the tokens of a
garbled answer go back to their sender instead of being stranded.
-/

namespace TokenBridge

/-- **The answer to a packet.** -/
inductive Ack where
  /-- The packet was delivered. -/
  | success
  /-- The packet was not delivered, for the given reason. -/
  | error (message : String)
  deriving DecidableEq, Repr

namespace Ack

/-- Whether the packet was delivered. -/
def isSuccess : Ack → Bool
  | .success => true
  | .error _ => false

/-- The kind of an answer, by its name. -/
def kind : Ack → String
  | .success => "success"
  | .error _ => "error"

/-! ## Writing -/

/-- An answer as JSON. -/
def toJson : Ack → Json
  | .success => .object [("result", .text "success")]
  | .error message => .object [("result", .text "error"), ("message", .text message)]

/-- **An answer as it is sent.** -/
def encode (a : Ack) : Bytes := a.toJson.write

/-! ## Reading -/

open Json (Reader ReadError)

/-- The two kinds of answers. -/
inductive Tag where
  /-- A success. -/
  | success
  /-- An error. -/
  | error

/-- The kind that a name stands for. -/
def Tag.ofName (name : String) : Except ReadError Tag :=
  if name = "success" then .ok .success
  else if name = "error" then .ok .error
  else .error (.unknownVariant name ["success", "error"])

/-- The reader of a kind. -/
def Tag.reader : Reader Tag := Reader.text.check Tag.ofName

/-- A text that was read as a value of any type. -/
def textOf : Json → Except ReadError String
  | .text s => .ok s
  | v => .error (.unexpected v.describe "a string")

/-- Looks through members from the left for the message of an error; the
message found so far is given. -/
def findMessage (found : Option String) : List (String × Json) → Except ReadError String
  | [] =>
    match found with
    | some message => .ok message
    | none => .error (.missingField "message")
  | (name, v) :: rest =>
    if name = "message" then
      match found with
      | some _ => .error (.duplicateField "message")
      | none =>
        match textOf v with
        | .ok message => findMessage (some message) rest
        | .error e => .error e
    else findMessage found rest

/-- The answer in an object: its kind, and its other members. -/
def ofMembers (tag : Option Tag) (members : List (String × Json)) : Except ReadError Ack :=
  match tag with
  | none => .error (.missingField "result")
  | some .success => .ok .success
  | some .error => (findMessage none members).map .error

/-- The answer in a list: its kind, and the elements after it. -/
def ofItems (tag : Option Tag) (items : List Json) : Except ReadError Ack :=
  match tag, items with
  | none, _ => .error (.missingField "result")
  | some .success, [] => .ok .success
  | some .success, _ :: _ => .error (.wrongLength items.length "0 elements in sequence")
  | some .error, [] => .error (.wrongLength 0 "struct variant Ack::Error with 1 element")
  | some .error, v :: rest =>
    match textOf v with
    | .error e => .error e
    | .ok message =>
      if rest = [] then .ok (.error message)
      else .error (.wrongLength items.length "1 element in sequence")

/-- The values inside an answer. -/
def inner : Reader Json := .any (Json.nestingLimit - 1)

/-- An answer that is an object. -/
def objectReader : Reader Ack :=
  .object
    (fun (tag, members) name =>
      if name = "result" then
        match tag with
        | some _ => .error (.duplicateField "result")
        | none => .ok (Tag.reader.map fun tag => (some tag, members))
      else .ok (inner.map fun v => (tag, (name, v) :: members)))
    (none, [])
    fun (tag, members) => ofMembers tag members.reverse

/-- An answer that is a list. -/
def listReader : Reader Ack :=
  .bracketed 0x5B .list
    (fun (tag, items) =>
      match tag with
      | none => Tag.reader.map fun tag => (some tag, items)
      | some tag => inner.map fun v => (some tag, v :: items))
    ((none, []) : Option Tag × List Json)
    fun (tag, items) => ofItems tag items.reverse

/-- Anything else is refused, once it has been read. -/
def otherReader : Reader Ack :=
  (Reader.any 0).check fun v =>
    .error (.unexpected v.describe "internally tagged enum Ack")

/-- **The reader of an answer.** -/
def reader : Reader Ack :=
  .byFirst fun b =>
    if b = 0x7B then objectReader
    else if b = 0x5B then listReader
    else otherReader

/-- **The answer that a text holds**, if it can be read. -/
def decode (data : Bytes) : Except Json.Unreadable Ack :=
  (reader.readAll data).mapError fun cause => ⟨.acknowledgement, cause⟩

/-- **The answer that a text holds.** A text that cannot be read counts
as an error. -/
def decodeLenient (data : Bytes) : Ack :=
  match decode data with
  | .ok a => a
  | .error u => .error ("undecodable ack: " ++ u.message)

/-- What is not read as a success is not taken for one. -/
theorem isSuccess_decodeLenient {data : Bytes} (h : (decodeLenient data).isSuccess) :
    decode data = .ok .success := by
  simp only [decodeLenient] at h
  split at h
  · next a ha => cases a <;> simp_all [isSuccess]
  · cases h

end Ack

end TokenBridge
