import TokenBridge.Bytes

/-!
# Keys

Each kind of record has a space of its own in the store, and within it a
record is found by the parts of its key. As octets, a key is the name of
the space and the parts one after another, each with its length in front
except the last (`Key.encode?`). So no key is taken for another one,
wherever its parts may be cut (`Key.decode?_of_encode?`), and all keys
that begin with the same parts stand next to each other.

A length takes two octets. A part that is longer than that allows cannot
stand anywhere but at the end.
-/

namespace TokenBridge

/-- **The kinds of records**, each of which has a space of its own. -/
inductive Space where
  /-- The settings. -/
  | settings
  /-- The version. -/
  | version
  /-- The last acknowledgement. -/
  | lastAck
  /-- The channels. -/
  | channels
  /-- The classes. -/
  | classes
  /-- The classes by their collections. -/
  | collections
  /-- The tokens. -/
  | tokens
  /-- The deposits. -/
  | deposits
  /-- The packets that were sent. -/
  | shipments
  /-- The marks of the packets that are pending. -/
  | pending
  deriving DecidableEq, Repr

/-- The name of a space, with which its keys begin. -/
def Space.name : Space → String
  | .settings => "config"
  | .version => "contract_info"
  | .lastAck => "last_ack"
  | .channels => "channels"
  | .classes => "classes"
  | .collections => "contract_to_class"
  | .tokens => "tokens"
  | .deposits => "escrows"
  | .shipments => "pending_packets"
  | .pending => "unresolved_packets"

/-- **What a record is found by.** -/
inductive Key where
  /-- The settings. -/
  | settings
  /-- The version. -/
  | version
  /-- The last acknowledgement. -/
  | lastAck
  /-- A channel, by its name. -/
  | channel (id : String)
  /-- A class, by its name. -/
  | tokenClass (id : String)
  /-- The class of a collection, by the address of the collection. -/
  | collection (address : String)
  /-- A token, by its class and its name. -/
  | token (classId tokenId : String)
  /-- A deposit, by the class and the name of its token. -/
  | deposit (classId tokenId : String)
  /-- A packet that was sent, by its channel and its number. -/
  | shipment (channelId : String) (sequence : UInt64)
  /-- The mark of a packet that is pending, by its channel and its
  number. -/
  | pending (channelId : String) (sequence : UInt64)
  deriving DecidableEq, Repr

namespace Key

/-- The space of a key. -/
def space : Key → Space
  | .settings => .settings
  | .version => .version
  | .lastAck => .lastAck
  | .channel _ => .channels
  | .tokenClass _ => .classes
  | .collection _ => .collections
  | .token .. => .tokens
  | .deposit .. => .deposits
  | .shipment .. => .shipments
  | .pending .. => .pending

/-- A number as a part of a key, such that keys ascend as numbers do. -/
def sequencePart (n : UInt64) : Bytes := Bytes.bigEndian 8 n.toNat

/-- The parts of a key within its space. -/
def parts : Key → List Bytes
  | .settings => []
  | .version => []
  | .lastAck => []
  | .channel id => [Bytes.ofText id]
  | .tokenClass id => [Bytes.ofText id]
  | .collection address => [Bytes.ofText address]
  | .token classId tokenId => [Bytes.ofText classId, Bytes.ofText tokenId]
  | .deposit classId tokenId => [Bytes.ofText classId, Bytes.ofText tokenId]
  | .shipment channelId sequence => [Bytes.ofText channelId, sequencePart sequence]
  | .pending channelId sequence => [Bytes.ofText channelId, sequencePart sequence]

/-- A part of a key with its length in front, if the length can be
written. -/
def frame? (part : Bytes) : Option Bytes :=
  if part.length < UInt16.size then some (Bytes.bigEndian 2 part.length ++ part) else none

/-- Parts one after another, each with its length in front: the common
start of all keys that have these parts before others. -/
def lead? : (parts : List Bytes) → Option Bytes
  | [] => some []
  | part :: rest => do
    let framed ← frame? part
    let rest ← lead? rest
    return framed ++ rest

/-- Parts one after another, each with its length in front except the
last. -/
def join? : (parts : List Bytes) → Option Bytes
  | [] => some []
  | [last] => some last
  | part :: next :: rest => do
    let framed ← frame? part
    let rest ← join? (next :: rest)
    return framed ++ rest

/-- **A key as octets**, unless a part of it is too long. -/
def encode? (k : Key) : Option Bytes := join? (Bytes.ofText k.space.name :: k.parts)

/-- The part that stands at the front with its length, and what follows
it. -/
def unframe? (b : Bytes) : Option (Bytes × Bytes) :=
  let length := Bytes.toNat (b.take 2)
  let rest := b.drop 2
  if b.length < 2 ∨ rest.length < length then none else some (rest.take length, rest.drop length)

/-- The number that a part of a key stands for. -/
def sequenceOf (part : Bytes) : UInt64 := (Bytes.toNat part).toUInt64

/-- The key of a space that has the given octets after the name of the
space. -/
def ofSpace? (space : Space) (rest : Bytes) : Option Key :=
  match space with
  | .settings => none
  | .version => none
  | .lastAck => none
  | .channels => return .channel (← Bytes.toText? rest)
  | .classes => return .tokenClass (← Bytes.toText? rest)
  | .collections => return .collection (← Bytes.toText? rest)
  | .tokens => do
    let (classId, tokenId) ← unframe? rest
    return .token (← Bytes.toText? classId) (← Bytes.toText? tokenId)
  | .deposits => do
    let (classId, tokenId) ← unframe? rest
    return .deposit (← Bytes.toText? classId) (← Bytes.toText? tokenId)
  | .shipments => do
    let (channelId, sequence) ← unframe? rest
    return .shipment (← Bytes.toText? channelId) (sequenceOf sequence)
  | .pending => do
    let (channelId, sequence) ← unframe? rest
    return .pending (← Bytes.toText? channelId) (sequenceOf sequence)

/-- The spaces in which a key has parts. -/
def keyed : List Space :=
  [.channels, .classes, .collections, .tokens, .deposits, .shipments, .pending]

/-- **The key that octets stand for**, if they do. -/
def decode? (b : Bytes) : Option Key :=
  if b = Bytes.ofText Space.settings.name then some .settings
  else if b = Bytes.ofText Space.version.name then some .version
  else if b = Bytes.ofText Space.lastAck.name then some .lastAck
  else do
    let (name, rest) ← unframe? b
    let space ← keyed.find? fun space => Bytes.ofText space.name = name
    ofSpace? space rest

/-! ## Reading undoes writing -/

/-- A part is taken off again, whatever follows it. -/
theorem unframe?_append {part framed : Bytes} (h : frame? part = some framed) (rest : Bytes) :
    unframe? (framed ++ rest) = some (part, rest) := by
  simp only [frame?] at h
  split at h
  · next hlt =>
    cases h
    have hn : Bytes.toNat (Bytes.bigEndian 2 part.length) = part.length := by
      rw [Bytes.toNat_bigEndian, Nat.mod_eq_of_lt (by omega)]
    have htake : (Bytes.bigEndian 2 part.length ++ part ++ rest).take 2
        = Bytes.bigEndian 2 part.length := by
      rw [List.append_assoc, List.take_append_of_le_length (by simp),
        List.take_of_length_le (by simp)]
    have hdrop : (Bytes.bigEndian 2 part.length ++ part ++ rest).drop 2 = part ++ rest := by
      rw [List.append_assoc, List.drop_append_of_le_length (by simp),
        List.drop_of_length_le (by simp), List.nil_append]
    simp only [unframe?, htake, hdrop, hn]
    rw [if_neg (by simp only [List.length_append, Bytes.length_bigEndian]; omega)]
    simp
  · cases h

@[simp] theorem sequenceOf_sequencePart (n : UInt64) : sequenceOf (sequencePart n) = n := by
  have : n.toNat < UInt64.size := n.toNat_lt_size
  rw [sequenceOf, sequencePart, Bytes.toNat_bigEndian, Nat.mod_eq_of_lt (by omega)]
  simp

/-- The octets of a keyed space say which space it is. -/
theorem decode?_append {space : Space} (hs : space ∈ keyed) {framed : Bytes}
    (h : frame? (Bytes.ofText space.name) = some framed) (rest : Bytes) :
    decode? (framed ++ rest) = ofSpace? space rest := by
  -- the length in front begins with a zero, and no name of a space does
  have hhead : (framed ++ rest).head? = some 0 := by
    have : (frame? (Bytes.ofText space.name)).bind List.head? = some 0 := by
      cases space <;> decide +kernel
    rw [h] at this
    simpa using Or.inl this
  have hne (item : Space) : framed ++ rest ≠ Bytes.ofText item.name := by
    have : (Bytes.ofText item.name).head? ≠ some 0 := by cases item <;> decide +kernel
    intro heq
    exact this (heq ▸ hhead)
  have hfind : keyed.find? (fun s => Bytes.ofText s.name = Bytes.ofText space.name)
      = some space := by
    revert hs
    cases space <;> decide +kernel
  simp only [decode?, if_neg (hne _), unframe?_append h]
  show (keyed.find? (fun s => Bytes.ofText s.name = Bytes.ofText space.name)).bind
    (ofSpace? · rest) = _
  rw [hfind]
  rfl

theorem join?_cons_eq_some_iff {part next b : Bytes} {rest : List Bytes} :
    join? (part :: next :: rest) = some b
      ↔ ∃ framed, frame? part = some framed ∧ ∃ others, join? (next :: rest) = some others
          ∧ framed ++ others = b := by
  simp [join?, Option.bind_eq_some_iff]

/-- What follows the name of a keyed space in a key gives the key
back. -/
theorem ofSpace?_of_join? {k : Key} (hk : k.space ∈ keyed) {rest : Bytes}
    (h : join? k.parts = some rest) : ofSpace? k.space rest = some k := by
  cases k with
  | settings => exact absurd hk (by decide)
  | version => exact absurd hk (by decide)
  | lastAck => exact absurd hk (by decide)
  | channel | tokenClass | collection =>
    cases h
    simp [space, ofSpace?]
  | token | deposit | shipment | pending =>
    obtain ⟨framed, hf, _, hl, rfl⟩ := join?_cons_eq_some_iff.mp h
    cases hl
    simp [space, ofSpace?, unframe?_append hf]

/-- **A key is found again from its octets**, so no two keys share
them. -/
theorem decode?_of_encode? {k : Key} {b : Bytes} (h : k.encode? = some b) :
    decode? b = some k := by
  by_cases hk : k.space ∈ keyed
  · obtain ⟨part, rest, hp⟩ : ∃ part rest, k.parts = part :: rest := by
      cases k with
      | settings | version | lastAck => exact absurd hk (by decide)
      | _ => exact ⟨_, _, rfl⟩
    rw [encode?, hp] at h
    obtain ⟨framed, hf, others, ho, rfl⟩ := join?_cons_eq_some_iff.mp h
    rw [decode?_append hk hf, ofSpace?_of_join? hk (hp ▸ ho)]
  · cases k with
    | settings | version | lastAck => cases h; decide +kernel
    | _ => exact absurd (by simp [space, keyed]) hk

/-! ## Neighbours -/

/-- The least octet string above all that begin with the given one. -/
def successor? (lead : Bytes) : Option Bytes :=
  match lead.reverse.dropWhile (· == 0xFF) with
  | [] => none
  | b :: rest => some (rest.reverse ++ [b + 1])

end Key

end TokenBridge
