import TokenBridge.Json.Document
import TokenBridge.Json.Schema

/-!
# Inquiries

What anybody can ask the bridge, and the JSON in which it is asked.
-/

namespace TokenBridge

/-- **Which part of a table is asked for.** A table is read page by
page, and the last entry of one page says where the next one starts. -/
structure PageOf (κ : Type) where
  /-- The entry after which the page starts; the first page if there is
  none. -/
  after : Option κ
  /-- How many entries there may be on the page. -/
  limit : Option UInt32
  deriving DecidableEq, Repr

/-- **What the bridge is asked.** -/
inductive Inquiry where
  /-- For its settings. -/
  | settings
  /-- Who has a token. -/
  | owner (classId tokenId : String)
  /-- For the metadata of a token. -/
  | tokenUri (classId tokenId : String)
  /-- For the collection of a class. -/
  | collection (classId : String)
  /-- For the class of a collection. -/
  | classOfCollection (address : String)
  /-- For the metadata of a class. -/
  | classUri (classId : String)
  /-- For a class. -/
  | tokenClass (classId : String)
  /-- For a page of classes. -/
  | classes (page : PageOf String)
  /-- For the deposit of a token. -/
  | deposit (classId tokenId : String)
  /-- For a channel. -/
  | channel (id : String)
  /-- For a page of channels. -/
  | channels (page : PageOf String)
  /-- For a packet that was sent. -/
  | shipment (channelId : String) (sequence : UInt64)
  /-- For a page of the packets that were sent on a channel. -/
  | shipments (channelId : String) (page : PageOf UInt64)
  /-- For the last acknowledgement. -/
  | lastAck
  deriving DecidableEq, Repr

namespace Inquiry

/-! ## The written form of inquiries -/

/-- The forms of inquiries. -/
inductive Form where
  /-- The form of `Inquiry.settings`. -/
  | settings
  /-- The form of `Inquiry.owner`. -/
  | owner
  /-- The form of `Inquiry.tokenUri`. -/
  | tokenUri
  /-- The form of `Inquiry.collection`. -/
  | collection
  /-- The form of `Inquiry.classOfCollection`. -/
  | classOfCollection
  /-- The form of `Inquiry.classUri`. -/
  | classUri
  /-- The form of `Inquiry.tokenClass`. -/
  | tokenClass
  /-- The form of `Inquiry.classes`. -/
  | classes
  /-- The form of `Inquiry.deposit`. -/
  | deposit
  /-- The form of `Inquiry.channel`. -/
  | channel
  /-- The form of `Inquiry.channels`. -/
  | channels
  /-- The form of `Inquiry.shipment`. -/
  | shipment
  /-- The form of `Inquiry.shipments`. -/
  | shipments
  /-- The form of `Inquiry.lastAck`. -/
  | lastAck
  deriving DecidableEq, Repr

/-- The name of a form. -/
def Form.name : Form → String
  | .settings => "config"
  | .owner => "owner_of"
  | .tokenUri => "nft_info"
  | .collection => "nft_contract"
  | .classOfCollection => "class_id_for_nft_contract"
  | .classUri => "metadata"
  | .tokenClass => "class"
  | .classes => "classes"
  | .deposit => "escrow"
  | .channel => "channel"
  | .channels => "channels"
  | .shipment => "pending_packet"
  | .shipments => "pending_packets"
  | .lastAck => "last_ack"

/-- The fields of a form. -/
def Form.fields : Form → Json.Fields
  | .settings => []
  | .owner => [("class_id", .text), ("token_id", .text)]
  | .tokenUri => [("class_id", .text), ("token_id", .text)]
  | .collection => [("class_id", .text)]
  | .classOfCollection => [("contract", .text)]
  | .classUri => [("class_id", .text)]
  | .tokenClass => [("class_id", .text)]
  | .classes => [("start_after", .nullable .text), ("limit", .nullable .count32)]
  | .deposit => [("class_id", .text), ("token_id", .text)]
  | .channel => [("channel_id", .text)]
  | .channels => [("start_after", .nullable .text), ("limit", .nullable .count32)]
  | .shipment => [("channel_id", .text), ("sequence", .count64)]
  | .shipments =>
    [("channel_id", .text), ("start_after", .nullable .count64), ("limit", .nullable .count32)]
  | .lastAck => []

/-- The form of an inquiry. -/
def form : Inquiry → Form
  | .settings => .settings
  | .owner .. => .owner
  | .tokenUri .. => .tokenUri
  | .collection .. => .collection
  | .classOfCollection .. => .classOfCollection
  | .classUri .. => .classUri
  | .tokenClass .. => .tokenClass
  | .classes .. => .classes
  | .deposit .. => .deposit
  | .channel .. => .channel
  | .channels .. => .channels
  | .shipment .. => .shipment
  | .shipments .. => .shipments
  | .lastAck => .lastAck

/-- The fields of an inquiry. -/
def record : (i : Inquiry) → Json.Record i.form.fields
  | .settings => ()
  | .owner classId tokenId => (classId, tokenId, ())
  | .tokenUri classId tokenId => (classId, tokenId, ())
  | .collection classId => (classId, ())
  | .classOfCollection address => (address, ())
  | .classUri classId => (classId, ())
  | .tokenClass classId => (classId, ())
  | .classes page => (page.after, page.limit, ())
  | .deposit classId tokenId => (classId, tokenId, ())
  | .channel id => (id, ())
  | .channels page => (page.after, page.limit, ())
  | .shipment channelId sequence => (channelId, sequence, ())
  | .shipments channelId page => (channelId, page.after, page.limit, ())
  | .lastAck => ()

/-- The inquiry of a form with the given fields. -/
def ofRecord : (form : Form) → Json.Record form.fields → Inquiry
  | .settings, () => .settings
  | .owner, (classId, tokenId, ()) => .owner classId tokenId
  | .tokenUri, (classId, tokenId, ()) => .tokenUri classId tokenId
  | .collection, (classId, ()) => .collection classId
  | .classOfCollection, (address, ()) => .classOfCollection address
  | .classUri, (classId, ()) => .classUri classId
  | .tokenClass, (classId, ()) => .tokenClass classId
  | .classes, (after, limit, ()) => .classes { after, limit }
  | .deposit, (classId, tokenId, ()) => .deposit classId tokenId
  | .channel, (id, ()) => .channel id
  | .channels, (after, limit, ()) => .channels { after, limit }
  | .shipment, (channelId, sequence, ()) => .shipment channelId sequence
  | .shipments, (channelId, after, limit, ()) => .shipments channelId { after, limit }
  | .lastAck, () => .lastAck

/-- **The forms of inquiries**, by their names. -/
def forms : Json.Forms Inquiry where
  Form := Form
  all := [.settings, .owner, .tokenUri, .collection, .classOfCollection, .classUri, .tokenClass,
    .classes, .deposit, .channel, .channels, .shipment, .shipments, .lastAck]
  name := Form.name
  fields := Form.fields
  make := ofRecord
  form := form
  record := record
  make_record i := by cases i <;> rfl
  find?_name f := by cases f <;> rfl

/-- An inquiry as JSON. -/
def toJson (i : Inquiry) : Json := forms.toJson i

/-- **The inquiry that a text holds**, if it can be read. -/
def decode (data : Bytes) : Except Json.Unreadable Inquiry :=
  (forms.reader.readAll data).mapError fun cause => ⟨.inquiry, cause⟩

end Inquiry

end TokenBridge
