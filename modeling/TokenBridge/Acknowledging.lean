import TokenBridge.Packet.Basic
import TokenBridge.Settlement

/-!
# What comes back for a packet

A packet that was sent comes back with the acknowledgement of its
counterparty, or without one if it came too late. It is matched with the
record that was kept of it, by its channel and its number and then by
what it says, and the record is settled.
-/

namespace TokenBridge

/-- The outcome that an acknowledgement reports. -/
def Ack.outcome (a : Ack) : Outcome := if a.isSuccess then .delivered else .failed

namespace Packet

/-- The record of a packet that was sent. The packet has to be about the
same tokens. -/
def shipment (packet : Packet) : Bridge Shipment := do
  let shipment ← Shipment.find packet.source.channel packet.sequence
  let data ← .ofExcept ((PacketData.decode packet.data).mapError fun _ =>
    .packetMismatch packet.source.channel packet.sequence)
  if !shipment.agreesWith data then
    .throw (.packetMismatch shipment.channel shipment.sequence)
  return shipment

/-- **Settles a packet by its acknowledgement**, which is noted in any
case. -/
def acknowledge (bridge : Address) (packet : Packet) (data : Bytes) :
    Bridge (Ack × Settlement) := do
  let ack := Ack.decodeLenient data
  Table.lastAck.put () ack
  let shipment ← packet.shipment
  let settlement ← shipment.settle bridge ack.outcome
  return (ack, settlement)

/-- **Settles a packet that came too late.** -/
def expire (bridge : Address) (packet : Packet) : Bridge Settlement := do
  let shipment ← packet.shipment
  shipment.settle bridge .failed

end Packet

end TokenBridge
