import TokenBridge.Channel
import TokenBridge.Configuration
import TokenBridge.Context
import TokenBridge.Packet.Basic
import TokenBridge.TokenClass

/-!
# Receiving tokens

A packet that arrives either brings tokens home, which are released from
their deposits, or it brings tokens that are new to this chain, which
are minted in a class that stands for theirs. Which of the two it is,
all tokens of the packet decide together.

The chain does not undo what a packet did that the bridge refuses, since
the bridge answers it all the same. So a packet is taken in a
transaction: every token in it is delivered, or nothing happens.
-/

namespace TokenBridge

/-- **How the tokens of a packet were delivered.** -/
inductive Delivery where
  /-- They were released. -/
  | released
  /-- They were minted. -/
  | minted
  deriving DecidableEq, Repr

/-- The name of a kind of delivery. -/
def Delivery.name : Delivery → String
  | .released => "unlocked"
  | .minted => "minted"

/-- **What was received.** -/
structure Received where
  /-- The class of the tokens on this chain. -/
  classId : String
  /-- How they were delivered. -/
  delivery : Delivery
  /-- Who has them now. -/
  receiver : Address
  /-- How many there are. -/
  tokenCount : Nat
  /-- Whether their class is new. -/
  classCreated : Bool
  deriving DecidableEq, Repr

namespace Packet

/-- **What the chain demands of a packet** before the bridge sees it: if
it has data that can be read, the data names a class. -/
def checkEnvelope (packet : Packet) : Except Fault Unit :=
  match PacketData.decode packet.data with
  | .ok data => if data.classId = "" then .error .unnamedClass else .ok ()
  | .error _ => .ok ()

/-- Asks the other tokens whether they come home like the first one. -/
def agree (packet : Packet) (classId : String) (home : Option String) :
    List String → Bridge Unit
  | [] => return
  | tokenId :: rest => do
    let other ← TokenClass.homeOf? packet.source packet.destination.channel classId tokenId
    if other.isSome ≠ home.isSome then .throw .mixedReturn
    agree packet classId home rest

/-- **The class to which the tokens of a packet come home**, if they do.
They all have to agree. -/
def home? (packet : Packet) (classId : String) : List String → Bridge (Option String)
  | [] => return none
  | tokenId :: rest => do
    let home ← TokenClass.homeOf? packet.source packet.destination.channel classId tokenId
    agree packet classId home rest
    return home

/-- Releases the tokens of a packet that come home. -/
def release (context : Context) (packet : Packet) (data : PacketData) (receiver : Address)
    (home : String) : Bridge Received := do
  data.tokenIds.forM fun tokenId => do
    let _ ← Deposit.release context.bridge home tokenId packet.destination.channel receiver
  return { classId := home, delivery := .released, receiver,
           tokenCount := data.tokenIds.length, classCreated := false }

/-- Mints the tokens of a packet that are new here. -/
def mint (context : Context) (packet : Packet) (data : PacketData) (receiver : Address) :
    Bridge Received := do
  let classId := packet.destination.extend data.classId
  let (c, classCreated) ← TokenClass.findOrCreate classId data.classUri
    packet.destination.channel context.bridge
  data.tokens.forM fun (tokenId, uri) => Token.mint c.id tokenId receiver uri
  return { classId := c.id, delivery := .minted, receiver,
           tokenCount := data.tokenIds.length, classCreated }

/-- Takes a packet, as far as it goes. -/
def apply (context : Context) (packet : Packet) : Bridge Received := do
  let settings ← Settings.load
  if settings.paused then .throw .paused
  let _ ← Channel.findOpen packet.destination.channel
  let data ← .ofExcept ((PacketData.decode packet.data).mapError .unreadable)
  .ofExcept (data.validate.mapError .badPacket)
  let receiver ← .ofExcept ((Address.ofText data.receiver).mapError .badAddress)
  match ← packet.home? data.classId data.tokenIds with
  | some home => packet.release context data receiver home
  | none => packet.mint context data receiver

/-- **Takes a packet**, as a whole or not at all. -/
def receive (context : Context) (packet : Packet) : Bridge Received := do
  .ofExcept packet.checkEnvelope
  (packet.apply context).transactional

end Packet

end TokenBridge
