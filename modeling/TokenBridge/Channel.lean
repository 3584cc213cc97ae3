import TokenBridge.Ledger.Table

/-!
# Channels

A channel comes into being by a handshake between two chains, in which
the bridge insists on the version of its protocol and on channels that
do not keep packets in order. The name of a channel is used once: a
channel that was closed cannot be opened again.
-/

namespace TokenBridge

/-! ## The handshake -/

/-- Whether a channel keeps its packets in order. -/
inductive PacketOrder where
  /-- It does. -/
  | ordered
  /-- It does not. -/
  | unordered
  deriving DecidableEq, Repr

/-- **A channel as the handshake proposes it.** -/
structure Proposal where
  /-- The end of the channel on this chain. -/
  here : Endpoint
  /-- The end of the channel on the other chain. -/
  there : Endpoint
  /-- Whether the channel is to keep packets in order. -/
  ordering : PacketOrder
  /-- The version of the protocol that is to be spoken. -/
  version : String
  /-- The connection that the channel is to use. -/
  connection : String
  deriving DecidableEq, Repr

/-- **Whether the bridge takes part** in a handshake, in which the other
side may have named its version already. -/
def Proposal.check (p : Proposal) (theirVersion : Option String) : Except Fault Unit :=
  if p.ordering = .ordered then .error .orderedChannel
  else if p.version ≠ protocolVersion then .error (.badVersion p.version)
  else
    match theirVersion with
    | none => .ok ()
    | some version => if version ≠ protocolVersion then .error (.badVersion version) else .ok ()

namespace Channel

/-- **Opens a channel** whose handshake is complete. -/
def establish (p : Proposal) : Bridge Channel := do
  .ofExcept (p.check none)
  let id := p.here.channel
  if ← Table.channels.has id then .throw (.channelExists id)
  let channel : Channel :=
    { here := p.here, there := p.there, connection := p.connection, phase := .opened,
      nextSequence := 1 }
  Table.channels.put id channel
  return channel

/-! ## Looking channels up -/

/-- The channel of a name, which has to be known. -/
def find (id : String) : Bridge Channel := Table.channels.find id (.unknownChannel id)

/-- The channel of a name, which has to be able to carry packets. -/
def findOpen (id : String) : Bridge Channel := do
  let channel ← find id
  match channel.phase with
  | .opened => return channel
  | .closing => .throw (.channelClosing id)
  | .closed => .throw (.channelClosed id)

/-- **Takes the next number** of a channel for a packet. Numbers are
never used twice, so the last one there is cannot be taken. -/
def takeSequence (channel : Channel) : Bridge UInt64 := do
  if channel.nextSequence.toNat + 1 = UInt64.size then .abort .counterOverflow
  Table.channels.put channel.here.channel
    { channel with nextSequence := channel.nextSequence + 1 }
  return channel.nextSequence

/-- Keeps a channel with another phase. -/
def enter (channel : Channel) (id : String) (phase : Phase) : Bridge Unit :=
  Table.channels.put id { channel with phase }

end Channel

end TokenBridge
