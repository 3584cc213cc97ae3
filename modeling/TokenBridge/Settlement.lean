import TokenBridge.Deposit
import TokenBridge.Packet.Data

/-!
# Settlement

A packet that was sent is settled once: by a success of its
counterparty, which leaves everything as the send left it, or by a
failure of any kind, which undoes the send. Whatever is reported about
the packet after that changes nothing.
-/

namespace TokenBridge

/-- **What settling a packet did.** -/
inductive Settlement where
  /-- The send stands. -/
  | committed
  /-- The send is undone. -/
  | refunded
  /-- The packet had been settled before, as the status says. -/
  | settledBefore (status : Status)
  deriving DecidableEq, Repr

/-- The name of what settling a packet did. -/
def Settlement.name : Settlement → String
  | .committed => "committed"
  | .refunded => "refunded"
  | .settledBefore _ => "already_resolved"

namespace Shipment

/-- The packet that was sent on a channel under a number, which has to
exist. -/
def find (channel : String) (sequence : UInt64) : Bridge Shipment :=
  Table.shipments.find (channel, sequence) (.unknownPacket channel sequence)

/-- Keeps a packet under its channel and its number. -/
def keep (s : Shipment) : Bridge Unit := Table.shipments.put (s.channel, s.sequence) s

/-- Marks a packet as pending. -/
def mark (s : Shipment) : Bridge Unit := Table.pending.put (s.channel, s.sequence) ()

/-- Whether the data of a packet is about the tokens that were sent in
it. -/
def agreesWith (s : Shipment) (data : PacketData) : Bool :=
  s.classId = data.classId && s.tokenIds = data.tokenIds

/-- **Undoes a send**: its tokens are released from their deposits, or
made again, for the one who sent them. -/
def refund (bridge : Address) (s : Shipment) : Bridge Unit :=
  match s.custody with
  | .escrowed =>
    s.tokenIds.forM fun tokenId => do
      let _ ← Deposit.release bridge s.classId tokenId s.channel s.sender
  | .burned =>
    (s.tokenIds.zip s.tokenUris).forM fun (tokenId, uri) =>
      Token.mint s.classId tokenId s.sender uri

/-- **Settles a packet** by an outcome. The first outcome decides. -/
def settle (bridge : Address) (s : Shipment) (outcome : Outcome) : Bridge Settlement := do
  match s.status.after? outcome with
  | none => return .settledBefore s.status
  | some status =>
    if status = .refunded then s.refund bridge
    keep { s with status }
    Table.pending.erase (s.channel, s.sequence)
    return if status = .refunded then .refunded else .committed

end Shipment

end TokenBridge
