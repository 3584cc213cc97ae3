import TokenBridge.Ack
import TokenBridge.Address
import TokenBridge.Endpoint
import TokenBridge.Json.Schema

/-!
# What a bridge keeps

The records of the bridge: its settings, the channels it has, the
classes and tokens that exist on its chain, the tokens it holds for
others, and the packets it has sent.
-/

namespace TokenBridge

/-! ## Settings -/

/-- **How the bridge is set up.** -/
structure Settings where
  /-- Who may pause the bridge, change its settings and close its
  channels. -/
  admin : Address
  /-- Whether nothing is sent or received for now. -/
  paused : Bool
  /-- How many seconds a packet may take, if its sender does not say. -/
  defaultTimeout : UInt64
  deriving DecidableEq, Repr

/-- Which program runs the bridge, by name and version. -/
structure Version where
  /-- The name. -/
  name : String
  /-- The version. -/
  version : String
  deriving DecidableEq, Repr

/-- The program and the version that this library describes. -/
def Version.current : Version := ⟨"crates.io:nft-bridge", "0.1.0"⟩

/-! ## Channels -/

/-- **The life of a channel.** It only goes forward. -/
inductive Phase where
  /-- Packets can be sent and received. -/
  | opened
  /-- The bridge has asked for the channel to be closed. -/
  | closing
  /-- The channel is gone. -/
  | closed
  deriving DecidableEq, Repr

/-- The name of a phase. -/
def Phase.name : Phase → String
  | .opened => "open"
  | .closing => "closing"
  | .closed => "closed"

/-- **A channel** to a bridge on another chain. -/
structure Channel where
  /-- The end of the channel on this chain. -/
  here : Endpoint
  /-- The end of the channel on the other chain. -/
  there : Endpoint
  /-- The connection that the channel uses. -/
  connection : String
  /-- How far the channel has come in its life. -/
  phase : Phase
  /-- The number of the next packet that is sent. -/
  nextSequence : UInt64
  deriving DecidableEq, Repr

/-! ## Classes and tokens -/

/-- **Where a class comes from.** -/
inductive Origin where
  /-- It was created on this chain. -/
  | native
  /-- It stands here for a class that arrived over a channel. -/
  | wrapped (channel : String)
  deriving DecidableEq, Repr

/-- Whether a class arrived over exactly the given channel, so that its
tokens go home when they are sent over it. -/
def Origin.isWrappedOn (o : Origin) (channel : String) : Bool := o = .wrapped channel

/-- **A class of tokens** that exists on this chain. -/
structure TokenClass where
  /-- Its name. -/
  id : String
  /-- Where its metadata is. -/
  uri : Option String
  /-- The address of its collection. -/
  collection : Address
  /-- Who may mint tokens of it: its creator, or the bridge if the class
  is wrapped. -/
  minter : Address
  /-- Where it comes from. -/
  origin : Origin
  deriving DecidableEq, Repr

/-- **A token** that exists on this chain. -/
structure Token where
  /-- Who has it. -/
  owner : Address
  /-- Where its metadata is. -/
  uri : Option String
  deriving DecidableEq, Repr

/-- **A deposit**: a token that the bridge holds while something else
stands for it on another chain. -/
structure Deposit where
  /-- The class of the token. -/
  classId : String
  /-- The token. -/
  tokenId : String
  /-- The channel over which the token was sent. -/
  channel : String
  /-- Who sent it. -/
  depositor : Address
  deriving DecidableEq, Repr

/-! ## Packets that were sent -/

/-- **What a send did with its tokens**, and therefore what undoes
it. -/
inductive Custody where
  /-- The bridge holds them. -/
  | escrowed
  /-- They exist no more on this chain. -/
  | burned
  deriving DecidableEq, Repr

/-- The name of a kind of custody. -/
def Custody.name : Custody → String
  | .escrowed => "escrowed"
  | .burned => "burned"

/-- How a packet ended. -/
inductive Outcome where
  /-- It was delivered. -/
  | delivered
  /-- It was refused, it came too late, or its channel was closed. -/
  | failed
  deriving DecidableEq, Repr

/-- **What has become of a packet.** -/
inductive Status where
  /-- Nothing yet. -/
  | pending
  /-- It was delivered. -/
  | committed
  /-- Its tokens went back to their sender. -/
  | refunded
  deriving DecidableEq, Repr

/-- The name of a status. -/
def Status.name : Status → String
  | .pending => "pending"
  | .committed => "committed"
  | .refunded => "refunded"

/-- **The status after an outcome.** The first outcome decides; later
ones change nothing, and there is no status after them. -/
def Status.after? : Status → Outcome → Option Status
  | .pending, .delivered => some .committed
  | .pending, .failed => some .refunded
  | .committed, _ => none
  | .refunded, _ => none

/-- **A packet that was sent**, with what it takes to undo the send. -/
structure Shipment where
  /-- The number of the packet on its channel. -/
  sequence : UInt64
  /-- The channel. -/
  channel : String
  /-- The class of its tokens. -/
  classId : String
  /-- Its tokens. -/
  tokenIds : List String
  /-- The metadata of its tokens, in the same order. -/
  tokenUris : List (Option String)
  /-- What the send did with the tokens. -/
  custody : Custody
  /-- Who sent them. -/
  sender : Address
  /-- Who is to have them, on the other chain. -/
  receiver : String
  /-- When the packet is too late, in nanoseconds. -/
  deadline : UInt64
  /-- What has become of it. -/
  status : Status
  deriving DecidableEq, Repr

namespace Shipment

/-! ### The written form of a shipment -/

/-- The fields of a shipment. -/
def fields : Json.Fields :=
  [("sequence", .count64), ("channel_id", .text), ("class_id", .text),
   ("token_ids", .list .text), ("token_uris", .list (.nullable .text)),
   ("custody", .word ["escrowed", "burned"]), ("sender", .text), ("receiver", .text),
   ("timeout_timestamp", .stamp), ("status", .word ["pending", "committed", "refunded"])]

/-- The custody that a choice of words stands for. -/
def custodyOf : Fin 2 → Custody
  | 0 => .escrowed
  | 1 => .burned

/-- The status that a choice of words stands for. -/
def statusOf : Fin 3 → Status
  | 0 => .pending
  | 1 => .committed
  | 2 => .refunded

/-- The shipment with the given values. -/
def ofRecord : Json.Record fields → Shipment
  | (sequence, channel, classId, tokenIds, tokenUris, custody, sender, receiver, deadline,
      status, ()) =>
    { sequence, channel, classId, tokenIds, tokenUris, custody := custodyOf custody, sender,
      receiver, deadline, status := statusOf status }

/-- **The shipment that a text holds**, if it can be read. -/
def decode (data : Bytes) : Except Json.Unreadable Shipment :=
  (((fields.reader .refused).map ofRecord).readAll data).mapError fun cause => ⟨.shipment, cause⟩

end Shipment

end TokenBridge
