import TokenBridge.Json.Document
import TokenBridge.Json.Schema

/-!
# Setting a bridge up

The messages with which a chain sets a bridge up and brings it to a new
version.
-/

namespace TokenBridge

/-- **How a bridge is to be set up.** -/
structure Setup where
  /-- Its admin. -/
  admin : String
  /-- How many seconds a packet may take, if its sender does not say. -/
  timeout : Option UInt64
  deriving DecidableEq, Repr

namespace Setup

/-- The fields of the message. -/
def fields : Json.Fields :=
  [("admin", .text), ("default_timeout_seconds", .nullable .count64)]

/-- The message with the given values. -/
def ofRecord : Json.Record fields → Setup
  | (admin, timeout, ()) => { admin, timeout }

/-- The message as JSON. -/
def toJson (m : Setup) : Json := fields.toJson (m.admin, m.timeout, ())

/-- The message that a text holds. -/
def decode (data : Bytes) : Except Json.Unreadable Setup :=
  (((fields.reader .refused).map ofRecord).readAll data).mapError fun cause => ⟨.setup, cause⟩

end Setup

/-- **The message that brings a bridge to a new version.** It says
nothing. -/
structure Migration where
  deriving DecidableEq, Repr

namespace Migration

/-- The message as JSON. -/
def toJson (_ : Migration) : Json := .object []

/-- The message that a text holds. -/
def decode (data : Bytes) : Except Json.Unreadable Migration :=
  (((Json.Fields.reader [] .refused).map fun _ => ⟨⟩).readAll data).mapError
    fun cause => ⟨.migration, cause⟩

end Migration

end TokenBridge
