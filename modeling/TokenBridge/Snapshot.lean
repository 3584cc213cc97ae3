import TokenBridge.Ledger.Table

/-!
# Snapshots

Everything that a bridge keeps, table by table. The store orders its
entries by their keys as octets, where the length of a part counts
before its content; a snapshot orders the records of a table part by
part instead, so that it reads like an index.
-/

namespace TokenBridge

/-- **All records of a bridge.** -/
structure Snapshot where
  /-- The settings. -/
  settings : Option Settings
  /-- The version. -/
  version : Option Version
  /-- The channels. -/
  channels : List Channel
  /-- The classes. -/
  classes : List TokenClass
  /-- The addresses of collections with the names of their classes. -/
  collections : List (Address × String)
  /-- The tokens, with their classes and names. -/
  tokens : List (String × String × Token)
  /-- The deposits. -/
  deposits : List Deposit
  /-- The packets that were sent. -/
  shipments : List Shipment
  /-- The packets that are pending, by their channels and numbers. -/
  pending : List (String × UInt64)
  /-- The last acknowledgement. -/
  lastAck : Option Ack
  deriving DecidableEq, Repr

namespace Snapshot

/-- The entries with their keys, in the order of the parts of the
keys. -/
def index (entries : List (Bytes × Entry)) : List (Key × Entry) :=
  let known := entries.filterMap fun (key, e) => (Key.decode? key).map fun k => (k, e)
  known.mergeSort fun a b => decide (a.1.parts ≤ b.1.parts)

/-- The records of the given entries. -/
def ofEntries (entries : List (Bytes × Entry)) : Snapshot :=
  let known := index entries
  { settings := known.findSome? fun (_, e) => Table.settings.record? e
    version := known.findSome? fun (_, e) => Table.version.record? e
    channels := known.filterMap fun (_, e) => Table.channels.record? e
    classes := known.filterMap fun (_, e) => Table.classes.record? e
    collections := known.filterMap fun
      | (.collection address, .collection classId) => some (address, classId)
      | _ => none
    tokens := known.filterMap fun
      | (.token classId tokenId, .token token) => some (classId, tokenId, token)
      | _ => none
    deposits := known.filterMap fun (_, e) => Table.deposits.record? e
    shipments := known.filterMap fun (_, e) => Table.shipments.record? e
    pending := known.filterMap fun
      | (.pending channel sequence, .pending) => some (channel, sequence)
      | _ => none
    lastAck := known.findSome? fun (_, e) => Table.lastAck.record? e }

/-- **Takes a snapshot.** -/
def take : Bridge Snapshot := .range {} fun entries => .done (ofEntries entries)

end Snapshot

end TokenBridge
