import TokenBridge.Channel
import TokenBridge.Settlement

/-!
# The close of a channel

Once a channel is about to go, neither an acknowledgement nor a timeout
can be relied on for the packets that are still pending on it. Closing a
channel therefore drains it: every packet that is pending on it is
refunded. A refund that fails is undone as a whole and does not keep the
others from happening; its packet stays pending.
-/

namespace TokenBridge

/-- **What draining a channel did.** -/
structure Drained where
  /-- The packets that were refunded. -/
  refunded : List UInt64 := []
  /-- The packets whose refund failed. -/
  stuck : List UInt64 := []
  deriving DecidableEq, Repr

namespace Channel

/-- Tries to refund a packet, as a whole or not at all, and adds it to
what draining did. A refund that breaks off breaks everything off. -/
def drainOne (bridge : Address) (channel : String) (drained : Drained) (sequence : UInt64) :
    Bridge Drained := do
  let shipment ← Shipment.find channel sequence
  match ← (shipment.settle bridge .failed).transactional.attempt with
  | .ok _ => return { drained with refunded := drained.refunded ++ [sequence] }
  | .error (.error _) => return { drained with stuck := drained.stuck ++ [sequence] }
  | .error (.abort cause) => .abort cause

/-- **Refunds every packet that is pending on a channel**, in the order
in which they were sent. -/
def drain (bridge : Address) (channel : String) : Bridge Drained := do
  let sequences ← Table.pendingOn channel
  sequences.foldlM (drainOne bridge channel) {}

/-- **Starts to close a channel.** A channel that is being closed is
drained again; one that is closed has nothing left to do. -/
def requestClose (bridge : Address) (id : String) : Bridge Drained := do
  let channel ← find id
  match channel.phase with
  | .closed => return {}
  | .closing => drain bridge id
  | .opened =>
    channel.enter id .closing
    drain bridge id

/-- **Closes a channel**, draining it before if need be. -/
def confirmClose (bridge : Address) (id : String) : Bridge Drained := do
  let drained ← requestClose bridge id
  let channel ← find id
  if channel.phase ≠ .closed then channel.enter id .closed
  return drained

end Channel

end TokenBridge
