import TokenBridge.Ledger.Fault
import TokenBridge.Ledger.Records
import TokenBridge.Store.Transaction

/-!
# The tables of a bridge

All records of a bridge lie in one store, each kind in a space of its
own. A table is the typed view of one space: which keys it has, and how
its records are kept. What the bridge does is a program over that store
(`Bridge`), built from a few operations on tables: looking a record up,
keeping it, removing it, and going through a space in order.
-/

namespace TokenBridge

/-! ## Entries -/

/-- **What stands in the store**: a record of one of the kinds, or the
mark of a pending packet, which has no content. -/
inductive Entry where
  /-- The settings. -/
  | settings (record : Settings)
  /-- The version. -/
  | version (record : Version)
  /-- The last acknowledgement. -/
  | lastAck (record : Ack)
  /-- A channel. -/
  | channel (record : Channel)
  /-- A class. -/
  | tokenClass (record : TokenClass)
  /-- The class of a collection, by its name. -/
  | collection (classId : String)
  /-- A token. -/
  | token (record : Token)
  /-- A deposit. -/
  | deposit (record : Deposit)
  /-- A packet that was sent. -/
  | shipment (record : Shipment)
  /-- The mark of a pending packet. -/
  | pending
  deriving DecidableEq, Repr

/-- Every entry can be stored. -/
instance : Blank Entry := ⟨fun _ => false⟩

@[simp] theorem Entry.isBlank (e : Entry) : Blank.isBlank e = false := rfl

/-- **What a bridge does** to its store, and what comes of it. -/
abbrev Bridge := Program Entry Fault

/-- The store of a bridge accepts whatever the bridge does. -/
theorem Bridge.accepted {α : Type} (p : Bridge α) (s : Store Entry) : p.Accepted s :=
  Program.accepted_of_forall Entry.isBlank p s

/-! ## Tables -/

/-- **A table**: one kind of records, under keys of one kind. -/
structure Table (κ α : Type) where
  /-- The place of a record. -/
  key : κ → Key
  /-- A record as it is stored. -/
  entry : α → Entry
  /-- The record that is stored. -/
  record? : Entry → Option α
  /-- A record is stored faithfully. -/
  record?_entry : ∀ a, record? (entry a) = some a

namespace Table

/-- The settings. -/
def settings : Table Unit Settings where
  key _ := .settings
  entry := .settings
  record?
    | .settings r => some r
    | _ => none
  record?_entry _ := rfl

/-- The version. -/
def version : Table Unit Version where
  key _ := .version
  entry := .version
  record?
    | .version r => some r
    | _ => none
  record?_entry _ := rfl

/-- The last acknowledgement of a packet that was sent. -/
def lastAck : Table Unit Ack where
  key _ := .lastAck
  entry := .lastAck
  record?
    | .lastAck r => some r
    | _ => none
  record?_entry _ := rfl

/-- The channels, by their names. -/
def channels : Table String Channel where
  key := .channel
  entry := .channel
  record?
    | .channel r => some r
    | _ => none
  record?_entry _ := rfl

/-- The classes, by their names. -/
def classes : Table String TokenClass where
  key := .tokenClass
  entry := .tokenClass
  record?
    | .tokenClass r => some r
    | _ => none
  record?_entry _ := rfl

/-- The names of the classes, by the addresses of their collections. -/
def collections : Table Address String where
  key := .collection
  entry := .collection
  record?
    | .collection r => some r
    | _ => none
  record?_entry _ := rfl

/-- The tokens, by their classes and names. -/
def tokens : Table (String × String) Token where
  key k := .token k.1 k.2
  entry := .token
  record?
    | .token r => some r
    | _ => none
  record?_entry _ := rfl

/-- The deposits, by the classes and names of their tokens. -/
def deposits : Table (String × String) Deposit where
  key k := .deposit k.1 k.2
  entry := .deposit
  record?
    | .deposit r => some r
    | _ => none
  record?_entry _ := rfl

/-- The packets that were sent, by their channels and numbers. -/
def shipments : Table (String × UInt64) Shipment where
  key k := .shipment k.1 k.2
  entry := .shipment
  record?
    | .shipment r => some r
    | _ => none
  record?_entry _ := rfl

/-- The marks of the packets that are pending, by their channels and
numbers. They let the close of a channel find these packets without
going through all that were ever sent. -/
def pending : Table (String × UInt64) Unit where
  key k := .pending k.1 k.2
  entry _ := .pending
  record?
    | .pending => some ()
    | _ => none
  record?_entry _ := rfl

/-! ## Operations -/

variable {κ α : Type}

/-- The octets of a key; a key that has none breaks the run off. -/
def encoded (k : Key) : Bridge Bytes :=
  match k.encode? with
  | some key => pure key
  | none => .abort .longKey

/-- The record under a key, if there is one. -/
def find? (t : Table κ α) (k : κ) : Bridge (Option α) := do
  let key ← encoded (t.key k)
  .get key fun e => .done (e.bind t.record?)

/-- The record under a key; that there is none is a fault. -/
def find (t : Table κ α) (k : κ) (fault : Fault) : Bridge α := do
  .ofOption fault (← t.find? k)

/-- Whether there is a record under a key. -/
def has (t : Table κ α) (k : κ) : Bridge Bool := return (← t.find? k).isSome

/-- Keeps a record under a key. -/
def put (t : Table κ α) (k : κ) (record : α) : Bridge Unit := do
  let key ← encoded (t.key k)
  .set key (t.entry record) (.done ())

/-- Removes the record under a key. -/
def erase (t : Table κ α) (k : κ) : Bridge Unit := do
  let key ← encoded (t.key k)
  .remove key (.done ())

/-! ## Going through a space -/

/-- The entries of a space whose keys begin with the given parts, and
whose last part comes after the given one: each with its last part, in
ascending order. -/
def scan (space : Space) (parts : List Bytes) (after : Option Bytes) :
    Bridge (List (Bytes × Entry)) := do
  let lead ← match Key.lead? (Bytes.ofText space.name :: parts) with
    | some lead => pure lead
    | none => .abort .longKey
  let start := match after with
    | none => lead
    | some part => lead ++ part ++ [0]
  .range ⟨some start, Key.successor? lead, false⟩ fun entries =>
    .done (entries.map fun (key, e) => (key.drop lead.length, e))

/-- The channels after the given one. -/
def channelsAfter (after : Option String) : Bridge (List Channel) := do
  let entries ← scan .channels [] (after.map Bytes.ofText)
  return entries.filterMap fun (_, e) => channels.record? e

/-- The classes after the given one. -/
def classesAfter (after : Option String) : Bridge (List TokenClass) := do
  let entries ← scan .classes [] (after.map Bytes.ofText)
  return entries.filterMap fun (_, e) => classes.record? e

/-- The packets that were sent on a channel, after the given one. -/
def shipmentsAfter (channel : String) (after : Option UInt64) : Bridge (List Shipment) := do
  let entries ← scan .shipments [Bytes.ofText channel] (after.map Key.sequencePart)
  return entries.filterMap fun (_, e) => shipments.record? e

/-- The numbers of the packets that are pending on a channel. -/
def pendingOn (channel : String) : Bridge (List UInt64) := do
  let entries ← scan .pending [Bytes.ofText channel] none
  return entries.map fun (part, _) => Key.sequenceOf part

end Table

end TokenBridge
