import TokenBridge.Address
import TokenBridge.Keccak

/-!
# Collections

Every class has a collection, which lives at an address of its own. The
address depends on nothing but the name of the class, so the same class
has the same collection no matter who brought it here first.
-/

namespace TokenBridge

/-- **The address of the collection of a class**: the first twenty
octets of a digest of its name, in hexadecimal, after a fixed start. The
name is set apart from anything else that is digested by a word in front
of it. -/
def collectionAddress (classId : String) : Address :=
  let digest := Keccak.digest (Bytes.ofText "nft-bridge/collection" ++ Bytes.ofText classId)
  "nft1" ++ Bytes.toHex (digest.take 20)

end TokenBridge
