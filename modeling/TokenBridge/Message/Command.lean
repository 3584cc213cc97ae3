import TokenBridge.Json.Document
import TokenBridge.Json.Schema
import TokenBridge.Sending

/-!
# Commands

What an account can tell the bridge to do, and the JSON in which it
does.
-/

namespace TokenBridge

/-- **What the bridge is told to do.** -/
inductive Command where
  /-- To create a class. -/
  | createClass (classId : String) (uri : Option String)
  /-- To mint a token. -/
  | mint (classId tokenId : String) (uri : Option String) (owner : String)
  /-- To pass a token on. -/
  | transfer (classId tokenId recipient : String)
  /-- To send tokens to another chain. -/
  | send (order : SendOrder)
  /-- To close a channel. -/
  | closeChannel (channel : String)
  /-- To pause. -/
  | pause
  /-- To go on after a pause. -/
  | unpause
  /-- To change how long a packet may take, if its sender does not
  say. -/
  | setDefaultTimeout (seconds : UInt64)
  deriving DecidableEq, Repr

namespace Command

/-! ## The written form of commands -/

/-- The forms of commands. -/
inductive Form where
  /-- The form of `Command.createClass`. -/
  | createClass
  /-- The form of `Command.mint`. -/
  | mint
  /-- The form of `Command.transfer`. -/
  | transfer
  /-- The form of `Command.send`. -/
  | send
  /-- The form of `Command.closeChannel`. -/
  | closeChannel
  /-- The form of `Command.pause`. -/
  | pause
  /-- The form of `Command.unpause`. -/
  | unpause
  /-- The form of `Command.setDefaultTimeout`. -/
  | setDefaultTimeout
  deriving DecidableEq, Repr

/-- The name of a form. -/
def Form.name : Form → String
  | .createClass => "create_class"
  | .mint => "mint"
  | .transfer => "transfer_nft"
  | .send => "send_nft"
  | .closeChannel => "close_channel"
  | .pause => "pause"
  | .unpause => "unpause"
  | .setDefaultTimeout => "set_default_timeout"

/-- The fields of a form. -/
def Form.fields : Form → Json.Fields
  | .createClass => [("class_id", .text), ("class_uri", .nullable .text)]
  | .mint =>
    [("class_id", .text), ("token_id", .text), ("token_uri", .nullable .text), ("owner", .text)]
  | .transfer => [("class_id", .text), ("token_id", .text), ("recipient", .text)]
  | .send =>
    [("class_id", .text), ("token_ids", .list .text), ("receiver", .text),
     ("channel_id", .text), ("timeout_seconds", .nullable .count64)]
  | .closeChannel => [("channel_id", .text)]
  | .pause => []
  | .unpause => []
  | .setDefaultTimeout => [("seconds", .count64)]

/-- The form of a command. -/
def form : Command → Form
  | .createClass .. => .createClass
  | .mint .. => .mint
  | .transfer .. => .transfer
  | .send .. => .send
  | .closeChannel .. => .closeChannel
  | .pause => .pause
  | .unpause => .unpause
  | .setDefaultTimeout .. => .setDefaultTimeout

/-- The fields of a command. -/
def record : (c : Command) → Json.Record c.form.fields
  | .createClass classId uri => (classId, uri, ())
  | .mint classId tokenId uri owner => (classId, tokenId, uri, owner, ())
  | .transfer classId tokenId recipient => (classId, tokenId, recipient, ())
  | .send order =>
    (order.classId, order.tokenIds, order.receiver, order.channel, order.timeout, ())
  | .closeChannel channel => (channel, ())
  | .pause => ()
  | .unpause => ()
  | .setDefaultTimeout seconds => (seconds, ())

/-- The command of a form with the given fields. -/
def ofRecord : (form : Form) → Json.Record form.fields → Command
  | .createClass, (classId, uri, ()) => .createClass classId uri
  | .mint, (classId, tokenId, uri, owner, ()) => .mint classId tokenId uri owner
  | .transfer, (classId, tokenId, recipient, ()) => .transfer classId tokenId recipient
  | .send, (classId, tokenIds, receiver, channel, timeout, ()) =>
    .send { classId, tokenIds, receiver, channel, timeout }
  | .closeChannel, (channel, ()) => .closeChannel channel
  | .pause, () => .pause
  | .unpause, () => .unpause
  | .setDefaultTimeout, (seconds, ()) => .setDefaultTimeout seconds

/-- **The forms of commands**, by their names. -/
def forms : Json.Forms Command where
  Form := Form
  all := [.createClass, .mint, .transfer, .send, .closeChannel, .pause, .unpause,
    .setDefaultTimeout]
  name := Form.name
  fields := Form.fields
  make := ofRecord
  form := form
  record := record
  make_record c := by cases c <;> rfl
  find?_name f := by cases f <;> rfl

/-- A command as JSON. -/
def toJson (c : Command) : Json := forms.toJson c

/-- **The command that a text holds**, if it can be read. -/
def decode (data : Bytes) : Except Json.Unreadable Command :=
  (forms.reader.readAll data).mapError fun cause => ⟨.command, cause⟩

end Command

end TokenBridge
