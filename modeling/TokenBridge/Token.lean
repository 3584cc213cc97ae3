import TokenBridge.Ledger.Table

/-!
# Tokens

The elementary changes to the tokens of a chain: minting, burning and
passing on. None of them asks who may do this; that is for those who
call them.
-/

namespace TokenBridge.Token

/-- The token of a name, which has to exist. -/
def find (classId tokenId : String) : Bridge Token :=
  Table.tokens.find (classId, tokenId) (.unknownToken classId tokenId)

/-- The token of a name, which has to be in the given hands. -/
def findOwned (classId tokenId : String) (owner : Address) : Bridge Token := do
  let token ← find classId tokenId
  if token.owner ≠ owner then .throw (.notOwner classId tokenId owner)
  return token

/-- **Makes a token**, which must not exist yet. -/
def mint (classId tokenId : String) (owner : Address) (uri : Option String) : Bridge Unit := do
  if ← Table.tokens.has (classId, tokenId) then .throw (.tokenExists classId tokenId)
  Table.tokens.put (classId, tokenId) { owner, uri }

/-- **Destroys a token** and tells what it was. -/
def burn (classId tokenId : String) : Bridge Token := do
  let token ← find classId tokenId
  Table.tokens.erase (classId, tokenId)
  return token

/-- **Passes a token on** from the one who has it to somebody else. -/
def transfer (classId tokenId : String) (giver taker : Address) : Bridge Unit := do
  let token ← findOwned classId tokenId giver
  Table.tokens.put (classId, tokenId) { token with owner := taker }

end TokenBridge.Token
