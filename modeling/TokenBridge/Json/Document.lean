import TokenBridge.Json.Error

/-!
# Documents

The texts that a bridge reads, by kind. A text that cannot be read is
reported by its kind and its first fault.
-/

namespace TokenBridge.Json

/-- **The kinds of texts** that are read. -/
inductive Document where
  /-- The data of a packet. -/
  | packet
  /-- An acknowledgement. -/
  | acknowledgement
  /-- A command. -/
  | command
  /-- An inquiry. -/
  | inquiry
  /-- The message that sets a bridge up. -/
  | setup
  /-- The message that brings a bridge to a new version. -/
  | migration
  /-- The record of a packet that was sent. -/
  | shipment
  deriving DecidableEq, Repr

/-- The name of a kind in error texts. -/
def Document.name : Document → String
  | .packet => "common::packet::NonFungibleTokenPacketData"
  | .acknowledgement => "common::ack::Ack"
  | .command => "nft_bridge::msg::ExecuteMsg"
  | .inquiry => "nft_bridge::msg::QueryMsg"
  | .setup => "nft_bridge::msg::InstantiateMsg"
  | .migration => "nft_bridge::msg::MigrateMsg"
  | .shipment => "nft_bridge::state::PendingPacket"

/-- **A text that cannot be read.** -/
structure Unreadable where
  /-- What it should have been. -/
  document : Document
  /-- Its first fault. -/
  cause : ReadError
  deriving DecidableEq, Repr

/-- The wording of the report. -/
def Unreadable.message (u : Unreadable) : String :=
  "Error parsing into type " ++ u.document.name ++ ": " ++ u.cause.message

end TokenBridge.Json
