import TokenBridge.Bytes
import TokenBridge.Endpoint

/-!
# Packets

What travels over a channel: data, with the two ends between which it
travels and the number that the sending end gave it.
-/

namespace TokenBridge

/-- **A packet.** -/
structure Packet where
  /-- Where it comes from. -/
  source : Endpoint
  /-- Where it goes to. -/
  destination : Endpoint
  /-- Its number among the packets of its source. -/
  sequence : UInt64
  /-- What it says. -/
  data : Bytes
  deriving DecidableEq, Repr

end TokenBridge
