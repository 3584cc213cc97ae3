import TokenBridge.Acknowledging
import TokenBridge.Response

/-!
# Calls from the chain

The chain calls the bridge when a channel is opened or closed, when a
packet arrives, and when a packet that was sent comes back.

A packet that arrives is always answered. Whatever is wrong with it is
said in the acknowledgement, and nothing else happens.
-/

namespace TokenBridge

/-! ## Channels -/

/-- **A channel is proposed.** -/
def Proposal.offered (p : Proposal) (theirVersion : Option String) : Bridge Unit :=
  .ofExcept (p.check theirVersion)

/-- **The handshake of a channel is complete.** -/
def Proposal.connected (p : Proposal) (theirVersion : Option String) : Bridge Response := do
  .ofExcept (p.check theirVersion)
  let channel ← Channel.establish p
  return { attributes :=
    [("method", "ibc_channel_connect"),
     ("channel_id", channel.here.channel),
     ("port", channel.here.port),
     ("counterparty_channel_id", channel.there.channel),
     ("connection_id", channel.connection)] }

/-- Which side closes a channel. -/
inductive CloseSide where
  /-- The chain of the bridge, without having been asked to. -/
  | ours
  /-- The chain on the other side. -/
  | theirs
  deriving DecidableEq, Repr

/-- The name of a side. -/
def CloseSide.name : CloseSide → String
  | .ours => "close_init"
  | .theirs => "close_confirm"

/-- **A channel is closed**, from either side. A channel whose handshake
was never complete has nothing to be settled. -/
def Channel.closed (context : Context) (id : String) (side : CloseSide) : Bridge Response := do
  let attributes : Attributes :=
    [("method", "ibc_channel_close"), ("phase", side.name), ("channel_id", id)]
  if ← Table.channels.has id then
    let drained ← Channel.confirmClose context.bridge id
    return { attributes := attributes ++ drained.attributes }
  else
    return { attributes }

namespace Packet

/-! ## Packets that arrive -/

/-- **A packet arrives** and is answered. -/
def arrived (context : Context) (packet : Packet) : Bridge Receipt := do
  match ← (packet.receive context).attempt with
  | .ok received =>
    return { ack := .success, attributes := packet.arrivalAttributes ++ received.attributes }
  | .error (.error fault) =>
    return { ack := .error fault.message,
             attributes := packet.arrivalAttributes ++ [("error", fault.message)] }
  | .error (.abort cause) => .abort cause

/-! ## Packets that come back -/

/-- Answers for a packet that came back. That nothing is known of the
packet is no failure; any other fault is. -/
def report {α : Type} (packet : Packet) (method : String) (settle : Bridge α)
    (attributes : α → Attributes) : Bridge Response := do
  let start := packet.returnAttributes method
  match ← settle.attempt with
  | .ok a => return { attributes := start ++ attributes a }
  | .error (.error (.unknownPacket channel sequence)) =>
    let fault := Fault.unknownPacket channel sequence
    return { attributes := start ++ [("error", fault.message)] }
  | .error failure => .fail failure

/-- **A packet is acknowledged.** -/
def acknowledged (context : Context) (packet : Packet) (data : Bytes) : Bridge Response :=
  packet.report "ibc_packet_ack" (packet.acknowledge context.bridge data)
    fun (ack, settlement) =>
      [("ack", ack.kind), ("result", settlement.name)] ++ ack.attributes

/-- **A packet came too late.** -/
def timedOut (context : Context) (packet : Packet) : Bridge Response :=
  packet.report "ibc_packet_timeout" (packet.expire context.bridge)
    fun settlement => [("result", settlement.name)]

end Packet

end TokenBridge
