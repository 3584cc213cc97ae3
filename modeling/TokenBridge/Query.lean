import TokenBridge.Configuration
import TokenBridge.Context
import TokenBridge.Deposit
import TokenBridge.Message.Inquiry

/-!
# Answers to inquiries

Inquiries read the store and change nothing. A table is answered page by
page: a page starts after a given entry and holds ten entries, or as
many as are asked for, but never more than fifty. The answers are JSON.
-/

namespace TokenBridge

/-! ## Pages -/

/-- How many entries a page holds. -/
def pageSize (limit : Option UInt32) : Nat := min (limit.getD 10).toNat 50

/-- **A page of classes**, by their names. -/
def PageOf.classes (page : PageOf String) : Bridge (List TokenClass) :=
  return (← Table.classesAfter page.after).take (pageSize page.limit)

/-- **A page of channels**, by their names. -/
def PageOf.channels (page : PageOf String) : Bridge (List Channel) :=
  return (← Table.channelsAfter page.after).take (pageSize page.limit)

/-- **A page of the packets that were sent** on a channel, by their
numbers. -/
def PageOf.shipments (page : PageOf UInt64) (channel : String) : Bridge (List Shipment) :=
  return (← Table.shipmentsAfter channel page.after).take (pageSize page.limit)

/-! ## Records as JSON -/

/-- The settings. -/
def Settings.toJson (s : Settings) : Json :=
  .object
    [("admin", .text s.admin),
     ("paused", .bool s.paused),
     ("default_timeout_seconds", .ofUInt64 s.defaultTimeout)]

/-- Where a class comes from. -/
def Origin.toJson : Origin → Json
  | .native => .text "native"
  | .wrapped channel => .object [("wrapped", .object [("channel_id", .text channel)])]

/-- A class. -/
def TokenClass.toJson (c : TokenClass) : Json :=
  .object
    [("class_id", .text c.id),
     ("class_uri", .ofText? c.uri),
     ("contract", .text c.collection),
     ("minter", .text c.minter),
     ("origin", c.origin.toJson)]

/-- A deposit. -/
def Deposit.toJson (d : Deposit) : Json :=
  .object
    [("class_id", .text d.classId),
     ("token_id", .text d.tokenId),
     ("channel_id", .text d.channel),
     ("original_owner", .text d.depositor)]

/-- A channel. -/
def Channel.toJson (c : Channel) : Json :=
  .object
    [("channel_id", .text c.here.channel),
     ("port", .text c.here.port),
     ("counterparty_channel_id", .text c.there.channel),
     ("counterparty_port", .text c.there.port),
     ("connection_id", .text c.connection),
     ("state", .text c.phase.name),
     ("next_sequence", .ofUInt64 c.nextSequence)]

/-- A packet that was sent. The metadata of its tokens is left out. -/
def Shipment.toJson (s : Shipment) : Json :=
  .object
    [("sequence", .ofUInt64 s.sequence),
     ("channel_id", .text s.channel),
     ("class_id", .text s.classId),
     ("token_ids", .list (s.tokenIds.map .text)),
     ("custody", .text s.custody.name),
     ("sender", .text s.sender),
     ("receiver", .text s.receiver),
     ("timeout_timestamp", .text (toString s.deadline.toNat)),
     ("status", .text s.status.name)]

/-! ## Answers -/

/-- A token that is asked for. -/
def Inquiry.findToken (classId tokenId : String) : Bridge Token :=
  Table.tokens.find (classId, tokenId) (.notFound (.token classId tokenId))

/-- Who has a token, and whether that is the bridge, which holds it for
somebody else. -/
def Inquiry.ownerOf (context : Context) (classId tokenId : String) : Bridge Json := do
  let token ← findToken classId tokenId
  let held ←
    if token.owner = context.bridge then Table.deposits.has (classId, tokenId)
    else pure false
  return .object [("owner", .text token.owner), ("escrowed", .bool held)]

/-- **Answers an inquiry.** What has to exist to be described is a fault
if it does not; anything else is null. -/
def Inquiry.answer (context : Context) : Inquiry → Bridge Json
  | .settings => Settings.toJson <$> Settings.load
  | .owner classId tokenId => ownerOf context classId tokenId
  | .tokenUri classId tokenId => do
    let token ← findToken classId tokenId
    return .object [("token_uri", .ofText? token.uri)]
  | .collection classId => do
    return .ofText? ((← Table.classes.find? classId).map (·.collection))
  | .classOfCollection address => return .ofText? (← Table.collections.find? address)
  | .classUri classId => return .ofText? ((← Table.classes.find? classId).bind (·.uri))
  | .tokenClass classId =>
    TokenClass.toJson <$> Table.classes.find classId (.notFound (.tokenClass classId))
  | .classes page => do
    return .object [("classes", .list ((← page.classes).map TokenClass.toJson))]
  | .deposit classId tokenId => do
    return ((← Table.deposits.find? (classId, tokenId)).map Deposit.toJson).getD .null
  | .channel id => Channel.toJson <$> Table.channels.find id (.notFound (.channel id))
  | .channels page => do
    return .object [("channels", .list ((← page.channels).map Channel.toJson))]
  | .shipment channelId sequence =>
    Shipment.toJson <$> Table.shipments.find (channelId, sequence)
      (.notFound (.shipment channelId sequence))
  | .shipments channelId page => do
    return .object [("packets", .list ((← page.shipments channelId).map Shipment.toJson))]
  | .lastAck => return ((← Table.lastAck.find? ()).map Ack.toJson).getD .null

end TokenBridge
