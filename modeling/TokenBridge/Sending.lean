import TokenBridge.Channel
import TokenBridge.Configuration
import TokenBridge.Context
import TokenBridge.Settlement
import TokenBridge.TokenClass

/-!
# Sending tokens

Tokens that leave over the channel over which their class arrived go
home: what stands for them here is burned. All others are deposited with
the bridge. Either way a record is kept of the packet, so that its
acknowledgement or its timeout can finish the job.
-/

namespace TokenBridge

/-- **What somebody wants to send.** -/
structure SendOrder where
  /-- The class of the tokens. -/
  classId : String
  /-- The tokens. -/
  tokenIds : List String
  /-- Who is to have them, on the other chain. -/
  receiver : String
  /-- The channel over which they are to go. -/
  channel : String
  /-- How many seconds the packet may take. -/
  timeout : Option UInt64
  deriving DecidableEq, Repr

/-- **What was sent**: the record of the packet, and its data. -/
structure Sent where
  /-- The record. -/
  shipment : Shipment
  /-- The data. -/
  data : PacketData
  deriving DecidableEq, Repr

namespace SendOrder

/-- Looks through tokens from the left for one that has been seen
before. -/
def checkDistinct (seen : List String) : List String → Except Fault Unit
  | [] => .ok ()
  | tokenId :: rest =>
    if tokenId ∈ seen then .error (.duplicateToken tokenId)
    else checkDistinct (tokenId :: seen) rest

/-- Whether tokens are given, and none twice. -/
def checkTokens (tokenIds : List String) : Except Fault Unit :=
  if tokenIds = [] then .error .noTokens else checkDistinct [] tokenIds

/-- The time that many seconds later, in nanoseconds, if it can be
written. -/
def deadlineAfter (now seconds : UInt64) : Except Fault UInt64 :=
  let deadline := now.toNat + seconds.toNat * 1000000000
  if deadline < UInt64.size then .ok deadline.toUInt64 else .error .badTimeout

/-- What sending tokens of a class over a channel does with them. -/
def custodyOf (c : TokenClass) (channel : String) : Custody :=
  if c.origin.isWrappedOn channel then .burned else .escrowed

/-- Takes a token from its owner, and tells what it was. -/
def surrender (bridge : Address) (custody : Custody) (classId channel : String)
    (owner : Address) (tokenId : String) : Bridge Token := do
  let token ← Token.findOwned classId tokenId owner
  match custody with
  | .escrowed =>
    let _ ← Deposit.make bridge classId tokenId channel owner
  | .burned =>
    let _ ← Token.burn classId tokenId
  return token

/-- **Sends tokens.** -/
def run (context : Context) (sender : Address) (order : SendOrder) : Bridge Sent := do
  let settings ← Settings.load
  if settings.paused then .throw .paused
  let channel ← Channel.findOpen order.channel
  .ofExcept (checkTokens order.tokenIds)
  let seconds := order.timeout.getD settings.defaultTimeout
  .ofExcept (checkTimeout seconds)
  let c ← TokenClass.find order.classId
  let custody := custodyOf c order.channel
  let tokens ← order.tokenIds.mapM
    (surrender context.bridge custody order.classId order.channel sender)
  let sequence ← channel.takeSequence
  let deadline ← .ofExcept (deadlineAfter context.now seconds)
  let tokenUris := tokens.map (·.uri)
  let shipment : Shipment :=
    { sequence, channel := order.channel, classId := order.classId,
      tokenIds := order.tokenIds, tokenUris, custody, sender, receiver := order.receiver,
      deadline, status := .pending }
  shipment.keep
  shipment.mark
  return {
    shipment
    data :=
      { classId := order.classId, classUri := c.uri, tokenIds := order.tokenIds, tokenUris,
        sender, receiver := order.receiver } }

end SendOrder

/-- The request to the chain to send what was sent. -/
def Sent.request (s : Sent) : Request :=
  .sendPacket s.shipment.channel s.data.encode s.shipment.deadline

end TokenBridge
