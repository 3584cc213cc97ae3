import TokenBridge.Ledger.Table

/-!
# Where a call happens

A call to the bridge happens in a block of its chain, which has a time;
and the bridge has an account of its own there, which owns the tokens it
holds for others.
-/

namespace TokenBridge

/-- **The surroundings of a call.** -/
structure Context where
  /-- The account of the bridge. -/
  bridge : Address
  /-- The time of the block, in nanoseconds. -/
  now : UInt64
  deriving DecidableEq, Repr

/-- A message from the bridge to its chain, to be carried out after the
call. -/
inductive Request where
  /-- To send a packet. -/
  | sendPacket (channel : String) (data : Bytes) (deadline : UInt64)
  /-- To close a channel. -/
  | closeChannel (channel : String)
  deriving DecidableEq, Repr

end TokenBridge
