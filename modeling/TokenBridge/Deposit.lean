import TokenBridge.Token

/-!
# Deposits

A token that leaves for another chain is deposited with the bridge, and
a record says over which channel it left. Only that channel can release
it: a packet that arrives there, or the return of the packet it left
with.
-/

namespace TokenBridge.Deposit

/-- **Deposits a token** with the bridge for a channel. -/
def make (bridge : Address) (classId tokenId channel : String) (owner : Address) :
    Bridge Deposit := do
  if ← Table.deposits.has (classId, tokenId) then .throw (.alreadyDeposited classId tokenId)
  Token.transfer classId tokenId owner bridge
  let deposit : Deposit := { classId, tokenId, channel, depositor := owner }
  Table.deposits.put (classId, tokenId) deposit
  return deposit

/-- **Releases a token** that is deposited for exactly the given
channel. -/
def release (bridge : Address) (classId tokenId channel : String) (recipient : Address) :
    Bridge Deposit := do
  let found ← Table.deposits.find? (classId, tokenId)
  let deposit ← .ofOption (.notDeposited classId tokenId channel)
    (found.filter (·.channel = channel))
  Table.deposits.erase (classId, tokenId)
  Token.transfer classId tokenId bridge recipient
  return deposit

/-- The channel for which a token is deposited, if it is. -/
def channelOf? (classId tokenId : String) : Bridge (Option String) :=
  return (← Table.deposits.find? (classId, tokenId)).map (·.channel)

end TokenBridge.Deposit
