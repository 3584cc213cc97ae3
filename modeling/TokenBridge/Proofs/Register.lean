import TokenBridge.Proofs.Custody
import TokenBridge.Proofs.Origins

/-!
# The register of classes

Classes are entered in the register in two ways that have nothing to do with
each other: an account creates one under a name of its choice, or a packet
brings one whose name somebody else has chosen. They never get into each
other's way, because the names of the first kind have no slash and those of the
second have two at least. So the name of a class alone tells where the class has
come from, and whatever is known of a class by its name stays true for good: a
class is entered once, and nothing is ever changed in its entry.

A class is entered twice over, under its name and under the address of its
collection. The second entry could be lost to another class whose name has the
same digest. It is the only thing in the register that depends on the digest,
and as long as no two names in it collide the one table is the inverse of the
other (`register_after`).

Three other tables speak of classes: those of tokens, of deposits and of packets
that were sent. All of them outlive the calls that have filled them, but no
class ever goes away.
-/

namespace TokenBridge

open Store

variable {bridge : Address} {s u : Store Entry} {d : Deed} {past : List Turn}

/-! ## Entries by collection -/

/-- The name of the class whose collection is at an address. -/
abbrev Store.classAt? (s : Store Entry) (a : Address) : Option String :=
  Table.collections.view s a

theorem Store.classAt?_withClass {c : TokenClass} {a : Address} :
    (s.withClass c).classAt? a = if a = c.collection then some c.id else s.classAt? a := by
  rw [classAt?, withClass, Table.view_keep (Key.fits_collection _),
    Table.view_keep (Key.fits_tokenClass _)]
  simp

/-- **What may happen to the entry of a collection**: it is made when a class
comes into being that lives there. -/
theorem Deed.Does.classAt? (h : d.Does bridge s u) (a : Address) :
    u.classAt? a = s.classAt? a
      ∨ ∃ c, u.class? c.id = some c ∧ c.collection = a ∧ u.classAt? a = some c.id := by
  have kept {c : TokenClass} (hu : u = s.withClass c) :
      u.classAt? a = s.classAt? a
        ∨ ∃ c, u.class? c.id = some c ∧ c.collection = a ∧ u.classAt? a = some c.id := by
    subst hu
    rw [classAt?_withClass]
    split
    · next heq => exact .inr ⟨c, by rw [class?_withClass, if_pos rfl], heq.symm, rfl⟩
    · exact .inl rfl
  cases d with
  | founded c =>
    obtain ⟨-, -, -, -, hu⟩ := h
    exact kept hu
  | wrapped arrival inner c =>
    obtain ⟨-, -, -, -, -, hu⟩ := h
    exact kept hu
  | _ => exact .inl (h.view_eq _ (by simp [Touches, Concerns]))

/-- A class that comes into being is entered under its collection as well. -/
theorem Deed.Does.classAt?_of_new {id : String} {c : TokenClass} (h : d.Does bridge s u)
    (hn : s.class? id = none) (hc : u.class? id = some c) :
    c.collection = collectionAddress c.id ∧ u.classAt? c.collection = some c.id := by
  obtain heq | ⟨c', rfl | ⟨arrival, inner, rfl⟩, -, -, hu⟩ := h.class? id
  · cases (heq.symm.trans hc).symm.trans hn
  · obtain rfl := Option.some.inj (hu.symm.trans hc)
    obtain ⟨-, -, hcollection, -, rfl⟩ := h
    exact ⟨hcollection, by rw [classAt?_withClass, if_pos rfl]⟩
  · obtain rfl := Option.some.inj (hu.symm.trans hc)
    obtain ⟨-, -, hcollection, -, -, rfl⟩ := h
    exact ⟨hcollection, by rw [classAt?_withClass, if_pos rfl]⟩

/-! ## Entries that are in order -/

/-- **Whether the register is in order.** -/
structure Catalogued (s : Store Entry) : Prop where
  /-- The collection of a class is at the address that goes with its name. -/
  collected : ∀ {id c}, s.class? id = some c → c.collection = collectionAddress id
  /-- The name of a class of this chain is not empty and not too long. -/
  measured : ∀ {id c}, s.class? id = some c → c.origin = .native →
    1 ≤ id.utf8ByteSize ∧ id.utf8ByteSize ≤ maxClassIdLength
  /-- A class that has arrived had a name where it has come from. -/
  called : ∀ {arrival : Endpoint} {inner c}, arrival.Plain →
    s.class? (arrival.extend inner) = some c → inner ≠ ""
  /-- The name that is entered for a collection is that of its class. -/
  listed : ∀ {a id}, s.classAt? a = some id → ∃ c, s.class? id = some c ∧ c.collection = a
  /-- A name is entered for the collection of every class. -/
  complete : ∀ {id c}, s.class? id = some c → s.classAt? c.collection ≠ none

namespace Catalogued

theorem empty : Catalogued .empty where
  collected h := by simp at h
  measured h := by simp at h
  called _ h := by simp at h
  listed h := by simp at h
  complete h := by simp at h

/-- **Every deed keeps the register in order**, if what arrives has a name and
arrives at an endpoint whose name is free of slashes. -/
theorem of_does (h : d.Does bridge s u) (hplain : d.Plain) (hnamed : d.Named)
    (hs : Catalogued s) : Catalogued u where
  collected {id c} hc := by
    obtain heq | ⟨c', -, hid, hn, hu⟩ := h.class? id
    · exact hs.collected (heq ▸ hc)
    · obtain rfl := Option.some.inj (hu.symm.trans hc)
      exact hid ▸ (h.classAt?_of_new hn hc).1
  measured {id c} hc ho := by
    obtain heq | ⟨c', rfl | ⟨arrival, inner, rfl⟩, rfl, -, hu⟩ := h.class? id
    · exact hs.measured (heq ▸ hc) ho
    · obtain ⟨-, hcheck, -⟩ := h
      obtain ⟨hne, hlength, -⟩ := TokenClass.of_checkId hcheck
      exact ⟨Nat.one_le_iff_ne_zero.mpr fun hzero =>
        hne (String.utf8ByteSize_eq_zero_iff.mp hzero), hlength⟩
    · obtain rfl := Option.some.inj (hu.symm.trans hc)
      obtain ⟨-, -, -, hw, -⟩ := h
      cases hw.symm.trans ho
  called {arrival inner c} harrival hc := by
    obtain heq | ⟨c', rfl | ⟨arrival', inner', rfl⟩, hid, -, -⟩ := h.class? (arrival.extend inner)
    · exact hs.called harrival (heq ▸ hc)
    -- a name that is allowed here has no slash
    · obtain ⟨-, hcheck, -⟩ := h
      exact absurd (hid ▸ Endpoint.slash_mem_extend) (TokenClass.of_checkId hcheck).2.2
    · obtain ⟨-, hname, -⟩ := h
      obtain ⟨-, rfl⟩ := (Endpoint.extend_inj hplain harrival).mp (hname.symm.trans hid)
      exact hnamed
  listed {a id} ha := by
    obtain heq | ⟨c, hc, rfl, hu⟩ := h.classAt? a
    · obtain ⟨c, hc, hcollection⟩ := hs.listed (heq ▸ ha)
      exact ⟨c, h.class?_of_some hc, hcollection⟩
    · obtain rfl := Option.some.inj (hu.symm.trans ha)
      exact ⟨c, hc, rfl⟩
  complete {id c} hc := by
    obtain heq | ⟨c', -, -, hn, -⟩ := h.class? id
    · obtain heq' | ⟨c', -, -, hu⟩ := h.classAt? c.collection
      · rw [heq']
        exact hs.complete (heq ▸ hc)
      · exact hu ▸ Option.some_ne_none _
    · exact (h.classAt?_of_new hn hc).2 ▸ Option.some_ne_none _

/-- **The two tables of the register are inverse to each other** if no two names
in it have the same address. -/
theorem classAt?_eq_some_iff (hs : Catalogued s)
    (hdistinct : ∀ id id' c c', s.class? id = some c → s.class? id' = some c' →
      collectionAddress id = collectionAddress id' → id = id')
    {a : Address} {id : String} :
    s.classAt? a = some id ↔ ∃ c, s.class? id = some c ∧ c.collection = a := by
  refine ⟨hs.listed, ?_⟩
  rintro ⟨c, hc, rfl⟩
  obtain ⟨id', hid'⟩ := Option.ne_none_iff_exists'.mp (hs.complete hc)
  obtain ⟨c', hc', hcollection⟩ := hs.listed hid'
  rw [hs.collected hc, hs.collected hc'] at hcollection
  rw [hid', hdistinct id' id c' c hc' hc hcollection]

end Catalogued

/-- **A bridge at which packets arrive at plain endpoints has its register in
order.** -/
theorem catalogued_after (h : ∀ turn ∈ past, turn.call.Plain) :
    Catalogued (storeAfter bridge past) := by
  induction past with
  | nil => exact .empty
  | cons turn past ih =>
    obtain ⟨hturn, hpast⟩ := List.forall_mem_cons.mp h
    exact turn.keeps_of_named (fun hdoes hoccasion hnamed hs =>
      hs.of_does hdoes (hoccasion.plain hturn) hnamed) (ih hpast)

/-- **A class that is known stays as it is**, whatever comes next. -/
theorem class?_lasts (later : List Turn) {id : String} {c : TokenClass}
    (hc : (storeAfter bridge past).class? id = some c) :
    (storeAfter bridge (later ++ past)).class? id = some c := by
  induction later with
  | nil => exact hc
  | cons turn later ih => exact turn.keeps (fun h _ hs => h.class?_of_some hs) ih

/-! ## The register of a bridge -/

/-- **What can be relied on in the register** of a bridge at the end of a
history. -/
structure Register (bridge : Address) (past : List Turn) : Prop where
  /-- A class is kept under its name, and its collection is at the address that
  goes with the name. -/
  filed : ∀ id c, (storeAfter bridge past).class? id = some c →
    c.id = id ∧ c.collection = collectionAddress id
  /-- The classes of this chain are those that have no slash in their names. -/
  native_iff : ∀ id c, (storeAfter bridge past).class? id = some c →
    (c.origin = .native ↔ '/' ∉ id.toList)
  /-- Their names have from 1 to 128 octets. -/
  native_length : ∀ id c, (storeAfter bridge past).class? id = some c → c.origin = .native →
    1 ≤ id.utf8ByteSize ∧ id.utf8ByteSize ≤ 128
  /-- The name of a class that has come over a channel begins with the port and
  the channel, and goes on with a name; and the bridge mints its tokens. -/
  wrapped : ∀ id c channel, (storeAfter bridge past).class? id = some c →
    c.origin = .wrapped channel →
    c.minter = bridge ∧ ∃ port inner : String, '/' ∉ port.toList ∧ '/' ∉ channel.toList
      ∧ inner ≠ "" ∧ id = port ++ "/" ++ channel ++ "/" ++ inner
  /-- The class of every token is known, -/
  tokens : ∀ classId tokenId token,
    (storeAfter bridge past).token? classId tokenId = some token →
    ∃ c, (storeAfter bridge past).class? classId = some c
  /-- so is that of every deposit, which says of which class it is, -/
  deposits : ∀ classId tokenId deposit,
    (storeAfter bridge past).deposit? classId tokenId = some deposit →
    deposit.classId = classId ∧ ∃ c, (storeAfter bridge past).class? classId = some c
  /-- and so is that of every packet that was sent, pending or not. -/
  shipments : ∀ id n p, (storeAfter bridge past).shipment? id n = some p →
    ∃ c, (storeAfter bridge past).class? p.classId = some c
  /-- If no two names of classes have the same address, the table of collections
  is the inverse of the table of classes. -/
  inverse : (∀ id id' c c', (storeAfter bridge past).class? id = some c →
      (storeAfter bridge past).class? id' = some c' →
      collectionAddress id = collectionAddress id' → id = id') →
    ∀ a id, (storeAfter bridge past).classAt? a = some id
      ↔ ∃ c, (storeAfter bridge past).class? id = some c ∧ c.collection = a
  /-- Whatever comes next, a class stays as it is, with all that is known of
  it. -/
  lasting : ∀ later id c, (storeAfter bridge past).class? id = some c →
    (storeAfter bridge (later ++ past)).class? id = some c

/-- **The register of classes is in order** after every history in which no call
has come from the account of the bridge and packets have arrived at endpoints
whose names are free of slashes. -/
theorem register_after (hpast : ∀ turn ∈ past, turn.call.NotBy bridge)
    (hplain : ∀ turn ∈ past, turn.call.Plain) : Register bridge past := by
  have hcatalogued : Catalogued (storeAfter bridge past) := catalogued_after hplain
  have hregistered : Registered bridge (storeAfter bridge past) := registered_after hplain
  have hclassed : Classed (storeAfter bridge past) := classed_after past
  have hsound : Sound (storeAfter bridge past) := sound_after past
  constructor
  case filed => exact fun id c hc => ⟨hclassed.named hc, hcatalogued.collected hc⟩
  case native_iff =>
    intro id c hc
    refine ⟨hregistered.native hc, fun hslash => ?_⟩
    cases ho : c.origin with
    | native => rfl
    | wrapped channel =>
      obtain ⟨-, arrival, inner, -, -, rfl⟩ := hregistered.wrapped hc ho
      exact absurd Endpoint.slash_mem_extend hslash
  case native_length => exact fun id c hc ho => hcatalogued.measured hc ho
  case wrapped =>
    intro id c channel hc ho
    obtain ⟨hminter, arrival, inner, harrival, rfl, rfl⟩ := hregistered.wrapped hc ho
    exact ⟨hminter, arrival.port, inner, harrival.1, harrival.2,
      hcatalogued.called harrival hc, rfl⟩
  case tokens => exact fun classId tokenId token ht => hclassed.known ht
  case deposits =>
    intro classId tokenId deposit hdep
    obtain ⟨uri, ht⟩ := held_after hpast _ _ _ hdep
    exact ⟨(documented_after past _ _ _ hdep).1, hclassed.known ht⟩
  case shipments => exact fun id n p hp => (hsound.custody hp).imp fun c hc => hc.1
  case inverse => exact fun hdistinct a id => hcatalogued.classAt?_eq_some_iff hdistinct
  case lasting => exact fun later id c hc => class?_lasts later hc

/-- The token of Carol arrives after the first voyage. -/
def mixedVoyage : List Turn :=
  ⟨5, .arrived
    { source := harborChannel.there, destination := harborChannel.here, sequence := 1,
      data := PacketData.encode
        { classId := "song", classUri := none, tokenIds := ["dawn"],
          tokenUris := [some "ipfs://dawn"], sender := "carol", receiver := "bob" } }⟩ ::
  firstVoyage

/-- There are two classes then, one of this chain and one that has come over the
channel. -/
theorem register_after_mixedVoyage :
    (∀ turn ∈ mixedVoyage, turn.call.NotBy harbor) ∧ (∀ turn ∈ mixedVoyage, turn.call.Plain)
      ∧ ((storeAfter harbor mixedVoyage).class? "art").map (·.origin) = some .native
      ∧ ((storeAfter harbor mixedVoyage).class? "wasm.harbor/channel-0/song").map (·.origin)
        = some (.wrapped "channel-0")
      ∧ Register harbor mixedVoyage := by
  have hnotBy : ∀ turn ∈ mixedVoyage, turn.call.NotBy harbor := by decide
  have hplain : ∀ turn ∈ mixedVoyage, turn.call.Plain := by decide
  exact ⟨hnotBy, hplain, by decide +kernel, by decide +kernel, register_after hnotBy hplain⟩

end TokenBridge
