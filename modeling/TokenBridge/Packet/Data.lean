import TokenBridge.Json.Document
import TokenBridge.Json.Schema

/-!
# The data of a packet

What a bridge tells its counterparty about the tokens that it sends.
The data is a JSON object; `PacketData.encode` writes it and
`PacketData.decode` reads it. Since it comes from a foreign chain,
members that are not known are passed over, up to a depth.

A packet that can be read still has to make sense
(`PacketData.validate`): it carries tokens, each with its metadata, and
none of them twice.
-/

namespace TokenBridge

/-- **What a packet says** about the tokens it carries. -/
structure PacketData where
  /-- The class of the tokens, by its name on the sending chain. -/
  classId : String
  /-- Where the metadata of the class is. -/
  classUri : Option String
  /-- The tokens. -/
  tokenIds : List String
  /-- Where the metadata of each token is, in the same order. -/
  tokenUris : List (Option String)
  /-- The account that sends the tokens, on the sending chain. -/
  sender : String
  /-- The account that is to have them, on the receiving chain. -/
  receiver : String
  deriving DecidableEq, Repr

namespace PacketData

/-! ## Validity -/

/-- **What is wrong with the data** of a packet that can be read. -/
inductive Defect where
  /-- There are no tokens. -/
  | noTokens
  /-- A token has an empty name. -/
  | emptyTokenId
  /-- A token occurs twice. -/
  | duplicateToken (tokenId : String)
  /-- There is not one metadata entry for each token. -/
  | uriCount (ids uris : Nat)
  deriving DecidableEq, Repr

/-- The wording of a defect. -/
def Defect.message : Defect → String
  | .noTokens => "Packet carries no token ids"
  | .emptyTokenId => "Token id must not be empty"
  | .duplicateToken tokenId => "Duplicate token id in packet: " ++ tokenId
  | .uriCount ids uris =>
    "Token uri count " ++ toString uris ++ " does not match token id count " ++ toString ids

/-- Looks through the tokens from the left for one that has an empty
name or has been seen before. -/
def checkTokens (seen : List String) : List String → Except Defect Unit
  | [] => .ok ()
  | tokenId :: rest =>
    if tokenId = "" then .error .emptyTokenId
    else if tokenId ∈ seen then .error (.duplicateToken tokenId)
    else checkTokens (tokenId :: seen) rest

/-- **Whether the data makes sense.** The class may have any name. -/
def validate (p : PacketData) : Except Defect Unit :=
  if p.tokenIds = [] then .error .noTokens
  else if p.tokenUris.length ≠ p.tokenIds.length then
    .error (.uriCount p.tokenIds.length p.tokenUris.length)
  else checkTokens [] p.tokenIds

/-- The tokens with their metadata. -/
def tokens (p : PacketData) : List (String × Option String) := p.tokenIds.zip p.tokenUris

/-! ## The written form -/

/-- The fields of the data. -/
def fields : Json.Fields :=
  [("classId", .text), ("classUri", .nullable .text), ("tokenIds", .list .text),
   ("tokenUris", .list (.nullable .text)), ("sender", .text), ("receiver", .text)]

/-- The fields with the values of the given data. -/
def toRecord (p : PacketData) : Json.Record fields :=
  (p.classId, p.classUri, p.tokenIds, p.tokenUris, p.sender, p.receiver, ())

/-- The data with the given values. -/
def ofRecord : Json.Record fields → PacketData
  | (classId, classUri, tokenIds, tokenUris, sender, receiver, ()) =>
    { classId, classUri, tokenIds, tokenUris, sender, receiver }

@[simp] theorem ofRecord_toRecord (p : PacketData) : ofRecord p.toRecord = p := rfl

/-- **The data as it is sent.** -/
def encode (p : PacketData) : Bytes := (fields.toJson p.toRecord).write

/-- The reader of the data. Members that are not known stand inside one
object already. -/
def reader : Json.Reader PacketData :=
  (fields.reader (.ignored (Json.nestingLimit - 1))).map ofRecord

/-- **The data that a packet holds**, if it can be read. -/
def decode (data : Bytes) : Except Json.Unreadable PacketData :=
  (reader.readAll data).mapError fun cause => ⟨.packet, cause⟩

end PacketData

end TokenBridge
