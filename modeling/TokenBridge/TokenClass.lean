import TokenBridge.Collection
import TokenBridge.Deposit

/-!
# Classes

A class is created on its home chain under a name of its creator's
choice, or it comes into being when tokens of it arrive for the first
time. The name of a class that arrived begins with the trail of the
endpoint at which it did, and the slashes in that are what keeps it
apart from the classes created here.

A packet brings tokens home (`TokenClass.homeOf?`) only if the trail of
its source comes off the name of its class *and* the token of the name
that is left is deposited for the very channel on which the packet
arrives. Anything else is a class that is new here, whatever its name
may suggest.
-/

namespace TokenBridge.TokenClass

/-! ## Names -/

/-- Whether a class may be created here under a name. -/
def checkId (classId : String) : Except ClassIdDefect Unit :=
  if classId = "" then .error .empty
  else if classId.utf8ByteSize > maxClassIdLength then .error .tooLong
  else if '/' ∈ classId.toList then .error .slash
  else .ok ()

/-! ## The table of classes -/

/-- The class of a name, which has to exist. -/
def find (classId : String) : Bridge TokenClass :=
  Table.classes.find classId (.unknownClass classId)

/-- Keeps a class, under its name and under the address of its
collection. -/
def keep (c : TokenClass) : Bridge Unit := do
  Table.classes.put c.id c
  Table.collections.put c.collection c.id

/-- **Creates a class** of this chain. -/
def create (classId : String) (uri : Option String) (creator : Address) : Bridge TokenClass := do
  .ofExcept ((checkId classId).mapError .badClassId)
  if ← Table.classes.has classId then .throw (.classExists classId)
  let c : TokenClass :=
    { id := classId, uri, collection := collectionAddress classId, minter := creator,
      origin := .native }
  keep c
  return c

/-- **The class of a name that arrived** over a channel, and whether it
is new. A class that exists already stays as it is. -/
def findOrCreate (classId : String) (uri : Option String) (channel : String)
    (bridge : Address) : Bridge (TokenClass × Bool) := do
  match ← Table.classes.find? classId with
  | some c => return (c, false)
  | none =>
    let c : TokenClass :=
      { id := classId, uri, collection := collectionAddress classId, minter := bridge,
        origin := .wrapped channel }
    keep c
    return (c, true)

/-! ## Coming home -/

/-- **The class to which a token comes home**, if it does, when it
arrives on a channel from a source under the name of a class. -/
def homeOf? (source : Endpoint) (channel classId tokenId : String) : Bridge (Option String) := do
  match source.strip? classId with
  | none => return none
  | some home =>
    let depositedOn ← Deposit.channelOf? home tokenId
    return if depositedOn = some channel then some home else none

end TokenBridge.TokenClass
