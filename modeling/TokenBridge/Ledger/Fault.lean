import TokenBridge.Address
import TokenBridge.Ledger.Key
import TokenBridge.Packet.Data

/-!
# Faults

Why the bridge refuses to do something, by cause, and the wording of
each cause in one place (`Fault.message`). The wording of a fault that a
received packet meets goes back to its sender in the acknowledgement.
-/

namespace TokenBridge

/-- The longest name of a class that is created here, in octets. -/
def maxClassIdLength : Nat := 128

/-- The longest time a packet may take, in seconds: thirty days. -/
def maxTimeout : UInt64 := 30 * 24 * 60 * 60

/-- The version of the protocol that is spoken on every channel. -/
def protocolVersion : String := "ics721-1"

/-- **What is wrong with the name of a class** that is to be created
here. -/
inductive ClassIdDefect where
  /-- It is empty. -/
  | empty
  /-- It is too long. -/
  | tooLong
  /-- It contains a slash, which only the hops of a path may bring. -/
  | slash
  deriving DecidableEq, Repr

/-- The wording of a defect. -/
def ClassIdDefect.message : ClassIdDefect → String
  | .empty => "class id must not be empty"
  | .tooLong => "class id longer than " ++ toString maxClassIdLength ++ " bytes"
  | .slash => "class id must not contain '/'"

/-- **A record that has to be there**, and is not. -/
inductive Missing where
  /-- The settings. -/
  | settings
  /-- A channel. -/
  | channel (id : String)
  /-- A class. -/
  | tokenClass (id : String)
  /-- A token. -/
  | token (classId tokenId : String)
  /-- A packet that was sent. -/
  | shipment (channelId : String) (sequence : UInt64)
  deriving DecidableEq, Repr

/-- The name of the kind of a record in error texts. -/
def Missing.kind : Missing → String
  | .settings => "nft_bridge::state::Config"
  | .channel _ => "nft_bridge::state::ChannelInfo"
  | .tokenClass _ => "nft_bridge::state::NftClass"
  | .token .. => "nft_bridge::state::TokenInfo"
  | .shipment .. => "nft_bridge::state::PendingPacket"

/-- Where a record should have been. -/
def Missing.key : Missing → Key
  | .settings => .settings
  | .channel id => .channel id
  | .tokenClass id => .tokenClass id
  | .token classId tokenId => .token classId tokenId
  | .shipment channelId sequence => .shipment channelId sequence

/-- The wording of the report that a record is missing. It shows the
octets of the key. -/
def Missing.message (m : Missing) : String :=
  "type: " ++ m.kind ++ "; key: " ++ Bytes.dump (m.key.encode?.getD []) ++ " not found"

/-- **Why something is refused.** -/
inductive Fault where
  /-- A text is not an address. -/
  | badAddress (defect : Address.Defect)
  /-- A record is not there. -/
  | notFound (record : Missing)
  /-- A text cannot be read. -/
  | unreadable (report : Json.Unreadable)
  /-- The data of a packet makes no sense. -/
  | badPacket (defect : PacketData.Defect)
  /-- Only the admin may do this. -/
  | unauthorized
  /-- Only the minter of a class may mint tokens of it. -/
  | notMinter (classId : String)
  /-- An account does not have the token it wants to move. -/
  | notOwner (classId tokenId : String) (account : Address)
  /-- The bridge is paused. -/
  | paused
  /-- A timeout is out of range. -/
  | badTimeout
  /-- There is no such channel. -/
  | unknownChannel (channel : String)
  /-- A channel is being closed. -/
  | channelClosing (channel : String)
  /-- A channel is closed. -/
  | channelClosed (channel : String)
  /-- A channel of that name exists, or has existed. -/
  | channelExists (channel : String)
  /-- A channel keeps its packets in order, which is not supported. -/
  | orderedChannel
  /-- A channel is to speak another version of the protocol. -/
  | badVersion (actual : String)
  /-- There is no such class. -/
  | unknownClass (classId : String)
  /-- A class of that name exists. -/
  | classExists (classId : String)
  /-- A class cannot have such a name. -/
  | badClassId (defect : ClassIdDefect)
  /-- There is no such token. -/
  | unknownToken (classId tokenId : String)
  /-- A token of that name exists. -/
  | tokenExists (classId tokenId : String)
  /-- No tokens are given. -/
  | noTokens
  /-- A token cannot have an empty name. -/
  | emptyTokenId
  /-- A token is given twice. -/
  | duplicateToken (tokenId : String)
  /-- A token is held by the bridge already. -/
  | alreadyDeposited (classId tokenId : String)
  /-- A token is not held by the bridge for a channel. -/
  | notDeposited (classId tokenId channel : String)
  /-- There is no such packet. -/
  | unknownPacket (channel : String) (sequence : UInt64)
  /-- A packet is not the one that was sent under its number. -/
  | packetMismatch (channel : String) (sequence : UInt64)
  /-- Some tokens of a packet come home and others do not. -/
  | mixedReturn
  /-- A packet names no class. -/
  | unnamedClass
  deriving DecidableEq, Repr

namespace Fault

/-- **The wording of a fault.** -/
def message : Fault → String
  | .badAddress defect => defect.message
  | .notFound record => record.message
  | .unreadable report => report.message
  | .badPacket defect => "Invalid packet: " ++ defect.message
  | .unauthorized => "Unauthorized: only admin can perform this action"
  | .notMinter classId => "Unauthorized: only the class minter can mint " ++ classId
  | .notOwner classId tokenId account =>
    "Unauthorized: " ++ account ++ " does not own token " ++ tokenId ++ " of " ++ classId
  | .paused => "Bridge is paused"
  | .badTimeout =>
    "Invalid timeout: must be between 1 and " ++ toString maxTimeout.toNat ++ " seconds"
  | .unknownChannel channel => "Unknown channel: " ++ channel
  | .channelClosing channel => "Channel " ++ channel ++ " is not open"
  | .channelClosed channel => "Channel " ++ channel ++ " is closed"
  | .channelExists channel => "Channel " ++ channel ++ " already exists and can not be reopened"
  | .orderedChannel => "Only unordered channels are supported"
  | .badVersion actual =>
    "Invalid IBC version: expected " ++ protocolVersion ++ ", got " ++ actual
  | .unknownClass classId => "Class not found: " ++ classId
  | .classExists classId => "Class already exists: " ++ classId
  | .badClassId defect => "Invalid class id: " ++ defect.message
  | .unknownToken classId tokenId => "Token " ++ tokenId ++ " of " ++ classId ++ " not found"
  | .tokenExists classId tokenId =>
    "Token " ++ tokenId ++ " of " ++ classId ++ " already exists"
  | .noTokens => "No token ids given"
  | .emptyTokenId => "Token id must not be empty"
  | .duplicateToken tokenId => "Duplicate token id: " ++ tokenId
  | .alreadyDeposited classId tokenId =>
    "Token " ++ tokenId ++ " of " ++ classId ++ " is already escrowed"
  | .notDeposited classId tokenId channel =>
    "Token " ++ tokenId ++ " of " ++ classId ++ " is not escrowed on channel " ++ channel
  | .unknownPacket channel sequence =>
    "Unknown packet: sequence " ++ toString sequence.toNat ++ " on channel " ++ channel
  | .packetMismatch channel sequence =>
    "Packet " ++ toString sequence.toNat ++ " on channel " ++ channel ++
      " does not match the pending record"
  | .mixedReturn => "Packet mixes tokens returning home with tokens new to this chain"
  | .unnamedClass => "Transport rejected packet: empty class id"

end Fault

end TokenBridge
