import TokenBridge.Message.Command
import TokenBridge.Message.Setup
import TokenBridge.Response

/-!
# Calls from accounts

What each message does when its turn comes. The account that sent it is
known to be who it says it is; whether it may do what it asks for is
decided here.
-/

namespace TokenBridge

/-- **Sets the bridge up.** -/
def Setup.carryOut (m : Setup) : Bridge Response := do
  let settings ← Settings.establish m.admin m.timeout
  return { attributes :=
    [("method", "instantiate"),
     ("admin", settings.admin),
     ("default_timeout_seconds", toString settings.defaultTimeout.toNat)] }

/-- **Brings the bridge to the current version.** -/
def Migration.carryOut (_ : Migration) : Bridge Response := do
  Table.version.put () .current
  return { attributes := [("method", "migrate"), ("version", Version.current.version)] }

namespace Command

/-- A new class belongs to the account that creates it. -/
def createClassFor (account : Address) (classId : String) (uri : Option String) :
    Bridge Response := do
  let c ← TokenClass.create classId uri account
  return { attributes :=
    [("method", "create_class"),
     ("class_id", c.id),
     ("contract", c.collection),
     ("minter", c.minter)] }

/-- Only the minter of a class may mint tokens of it, which for a
wrapped class is the bridge itself. -/
def mintFor (account : Address) (classId tokenId : String) (uri : Option String)
    (owner : String) : Bridge Response := do
  let c ← TokenClass.find classId
  if account ≠ c.minter then .throw (.notMinter classId)
  if tokenId = "" then .throw .emptyTokenId
  let owner ← .ofExcept ((Address.ofText owner).mapError .badAddress)
  Token.mint classId tokenId owner uri
  return { attributes :=
    [("method", "mint"),
     ("class_id", classId),
     ("token_id", tokenId),
     ("owner", owner)] }

/-- Only the owner of a token may pass it on. -/
def transferFor (account : Address) (classId tokenId recipient : String) :
    Bridge Response := do
  let recipient ← .ofExcept ((Address.ofText recipient).mapError .badAddress)
  Token.transfer classId tokenId account recipient
  return { attributes :=
    [("method", "transfer_nft"),
     ("class_id", classId),
     ("token_id", tokenId),
     ("sender", account),
     ("recipient", recipient)] }

/-- Sends tokens, and asks the chain to send their packet. -/
def sendFor (context : Context) (account : Address) (order : SendOrder) : Bridge Response := do
  let sent ← order.run context account
  return { requests := [sent.request], attributes := sent.attributes }

/-- Only the admin may close a channel. The packets that are pending on
it are refunded at once, and the chain is asked to do the rest. -/
def closeChannelFor (context : Context) (account : Address) (channel : String) :
    Bridge Response := do
  let _ ← Settings.loadFor account
  let drained ← Channel.requestClose context.bridge channel
  return {
    requests := [.closeChannel channel]
    attributes :=
      [("method", "close_channel"), ("channel_id", channel)] ++ drained.attributes }

/-- **Carries a command out** for an account. -/
def carryOut (context : Context) (account : Address) : Command → Bridge Response
  | .createClass classId uri => createClassFor account classId uri
  | .mint classId tokenId uri owner => mintFor account classId tokenId uri owner
  | .transfer classId tokenId recipient => transferFor account classId tokenId recipient
  | .send order => sendFor context account order
  | .closeChannel channel => closeChannelFor context account channel
  | .pause => do
    Settings.setPaused account true
    return { attributes := [("method", "pause")] }
  | .unpause => do
    Settings.setPaused account false
    return { attributes := [("method", "unpause")] }
  | .setDefaultTimeout seconds => do
    Settings.setDefaultTimeout account seconds
    return { attributes :=
      [("method", "set_default_timeout"), ("seconds", toString seconds.toNat)] }

end Command

end TokenBridge
