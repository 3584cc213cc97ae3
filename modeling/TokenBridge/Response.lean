import TokenBridge.Ack
import TokenBridge.Closing
import TokenBridge.Receiving
import TokenBridge.Sending

/-!
# Responses

A call answers with what the chain is to do after it, and with
attributes, by which others can follow what happened. An attribute is a
name and a text; this module holds the names.
-/

namespace TokenBridge

/-- Names and texts, in order. -/
abbrev Attributes := List (String × String)

/-- **The answer to a call.** -/
structure Response where
  /-- What the chain is to do. -/
  requests : List Request := []
  /-- What happened. -/
  attributes : Attributes
  deriving DecidableEq, Repr

/-- **The answer to a packet that arrives.** -/
structure Receipt where
  /-- The acknowledgement. -/
  ack : Ack
  /-- What happened. -/
  attributes : Attributes
  deriving DecidableEq, Repr

/-- The packets that were refunded, by their number alone, and the
others one by one, if there are any. -/
def Drained.attributes (d : Drained) : Attributes :=
  ("refunded", toString d.refunded.length) ::
    if d.stuck = [] then []
    else [("refund_failed", String.intercalate "," (d.stuck.map fun n => toString n.toNat))]

/-- What was sent. -/
def Sent.attributes (s : Sent) : Attributes :=
  [("method", "send_nft"),
   ("class_id", s.shipment.classId),
   ("token_count", toString s.shipment.tokenIds.length),
   ("custody", s.shipment.custody.name),
   ("sender", s.shipment.sender),
   ("receiver", s.shipment.receiver),
   ("channel_id", s.shipment.channel),
   ("sequence", toString s.shipment.sequence.toNat)]

/-- Which packet arrived. -/
def Packet.arrivalAttributes (packet : Packet) : Attributes :=
  [("method", "ibc_packet_receive"),
   ("channel_id", packet.destination.channel),
   ("sequence", toString packet.sequence.toNat)]

/-- What was received. -/
def Received.attributes (r : Received) : Attributes :=
  [("class_id", r.classId),
   ("delivery", r.delivery.name),
   ("class_created", toString r.classCreated),
   ("receiver", r.receiver),
   ("token_count", toString r.tokenCount)]

/-- Which packet came back, and in which way. -/
def Packet.returnAttributes (method : String) (packet : Packet) : Attributes :=
  [("method", method),
   ("channel_id", packet.source.channel),
   ("sequence", toString packet.sequence.toNat)]

/-- What an acknowledgement said. -/
def Ack.attributes : Ack → Attributes
  | .success => []
  | .error message => [("ack_error", message)]

end TokenBridge
