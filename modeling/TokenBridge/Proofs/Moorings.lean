import TokenBridge.Proofs.Names

/-!
# One end of a channel

Two bridges may rely on the channel that joins them, if nobody but they use
it. This module looks at one end of such a channel.

A token is **at hand** at the end of a channel (`Store.AtHand`) if it could
be sent from there. For a class that has come over the channel this means
that the token exists; for any other it means that the token is not
deposited for the channel. Whatever else becomes of the token – that it is
minted, passed on, or sent over another channel – does not matter.

For this to make sense the names of classes must tell which of them have
come over the channel, and no deposit must be kept for a channel over which
its class has come. Both are kept by every deed (`Moored`). Then a token
comes to be at hand, or ceases to be, by few deeds only
(`Deed.Does.atHand_iff`): those that send it over the channel, bring it, or
bring it back.
-/

namespace TokenBridge

open Store

variable {bridge : Address} {here there : Endpoint} {s u : Store Entry} {d : Deed}
  {classId tokenId : String}

/-! ## Tokens that are at hand -/

/-- Whether a name is that of a class which has come to an endpoint. -/
def Endpoint.Brought (here : Endpoint) (classId : String) : Prop :=
  ∃ inner, classId = here.extend inner

/-- **Whether a token is at hand** at an end of a channel. -/
def Store.AtHand (s : Store Entry) (here : Endpoint) (classId tokenId : String) : Prop :=
  (here.Brought classId → s.token? classId tokenId ≠ none)
    ∧ (¬ here.Brought classId → ∀ deposit, s.deposit? classId tokenId = some deposit →
      deposit.channel ≠ here.channel)

theorem Store.atHand_of_brought (h : here.Brought classId) :
    s.AtHand here classId tokenId ↔ s.token? classId tokenId ≠ none := by
  unfold AtHand
  simp [h]

theorem Store.atHand_of_not_brought (h : ¬ here.Brought classId) :
    s.AtHand here classId tokenId
      ↔ ∀ deposit, s.deposit? classId tokenId = some deposit → deposit.channel ≠ here.channel := by
  unfold AtHand
  simp [h]

/-- Whether a token is at hand depends on where it is. -/
theorem Store.atHand_congr (h : u.whereabouts classId tokenId = s.whereabouts classId tokenId) :
    u.AtHand here classId tokenId ↔ s.AtHand here classId tokenId := by
  obtain ⟨ht, hd⟩ := Prod.mk.inj h
  unfold AtHand
  rw [ht, hd]

/-- For a class that has not come over the channel, only the deposit matters. -/
theorem Store.atHand_iff_of_deposit? (h : ¬ here.Brought classId)
    (hd : u.deposit? classId tokenId = s.deposit? classId tokenId) :
    u.AtHand here classId tokenId ↔ s.AtHand here classId tokenId := by
  rw [atHand_of_not_brought h, atHand_of_not_brought h, hd]

/-- A token that is there is at hand, if it is not deposited for the channel. -/
theorem Store.atHand_of_whereabouts {token : Token} {deposit? : Option Deposit}
    (h : s.whereabouts classId tokenId = (some token, deposit?))
    (hd : ∀ deposit, deposit? = some deposit → deposit.channel ≠ here.channel) :
    s.AtHand here classId tokenId := by
  obtain ⟨ht, rfl⟩ := Prod.mk.inj h
  exact ⟨fun _ => ht ▸ Option.some_ne_none _, fun _ => hd⟩

/-- A token that was deposited for another channel is at hand as before when it is
not deposited any more. -/
theorem Store.atHand_iff_of_freed {token token' : Token} {deposit : Deposit}
    (hs : s.whereabouts classId tokenId = (some token, some deposit))
    (hu : u.whereabouts classId tokenId = (some token', none))
    (hchannel : deposit.channel ≠ here.channel) :
    u.AtHand here classId tokenId ↔ s.AtHand here classId tokenId :=
  iff_of_true (atHand_of_whereabouts hu (by simp))
    (atHand_of_whereabouts hs (by simpa using hchannel))

/-! ## What holds at an end of a channel -/

/-- **What holds of the store at one end of a channel** whose other end is
`there`. -/
structure Moored (bridge : Address) (here there : Endpoint) (s : Store Entry) : Prop where
  /-- The store is sound. -/
  sound : Sound s
  /-- Its classes are registered. -/
  registered : Registered bridge s
  /-- A class that has come over the channel has come to this end, and it had
  not come from here before. -/
  brought : ∀ {id c}, s.class? id = some c → c.origin = .wrapped here.channel →
    ∃ inner, id = here.extend inner ∧ ¬ there.Brought inner
  /-- What is deposited for a channel has not come over it. -/
  lodged : ∀ {classId tokenId deposit}, s.deposit? classId tokenId = some deposit →
    ∃ c, s.class? classId = some c ∧ SendOrder.custodyOf c deposit.channel = .escrowed

/-- Whether a deed keeps to the rules of the channel: none is one of the
account of the bridge, and what arrives over the channel does so at this
end. -/
def Deed.Fair (bridge : Address) (here there : Endpoint) : Deed → Prop
  | .minted minter .. => minter ≠ bridge
  | .wrapped arrival inner _ =>
    arrival.Plain
      ∧ (arrival.channel = here.channel → arrival = here ∧ ¬ there.Brought inner)
  | .issued arrival .. => arrival.Plain ∧ (arrival.channel = here.channel → arrival = here)
  | _ => True

theorem Deed.Fair.plain (h : d.Fair bridge here there) : d.Plain := by
  cases d with
  | wrapped => exact h.1
  | issued => exact h.1
  | _ => trivial

namespace Moored

theorem empty : Moored bridge here there .empty where
  sound := .empty
  registered := .empty
  brought h := by simp at h
  lodged h := by simp at h

/-- **The name of a class tells whether it has come over the channel.** -/
theorem brought_iff (hs : Moored bridge here there s) (hhere : here.Plain) {c : TokenClass}
    (hc : s.class? classId = some c) :
    here.Brought classId ↔ c.origin = .wrapped here.channel := by
  constructor
  · rintro ⟨inner, rfl⟩
    exact (hs.registered.origin_of_extend hhere hc).1
  · intro ho
    obtain ⟨inner, rfl, -⟩ := hs.brought hc ho
    exact ⟨inner, rfl⟩

/-- What has come over the channel is burned when it is sent back. -/
theorem burned_iff (hs : Moored bridge here there s) (hhere : here.Plain) {c : TokenClass}
    (hc : s.class? classId = some c) :
    SendOrder.custodyOf c here.channel = .burned ↔ here.Brought classId := by
  rw [SendOrder.custodyOf_eq_burned_iff, hs.brought_iff hhere hc]

/-- What has not come over the channel is deposited when it is sent. -/
theorem escrowed_iff (hs : Moored bridge here there s) (hhere : here.Plain) {c : TokenClass}
    (hc : s.class? classId = some c) :
    SendOrder.custodyOf c here.channel = .escrowed ↔ ¬ here.Brought classId := by
  rw [SendOrder.custodyOf_eq_escrowed_iff, hs.brought_iff hhere hc]

/-- What is burned when it is sent over another channel has come over that one, and
not over this one. -/
theorem not_brought_of_burned (hs : Moored bridge here there s) (hhere : here.Plain)
    {c : TokenClass} {channel : String} (hc : s.class? classId = some c)
    (hburned : SendOrder.custodyOf c channel = .burned) (hne : channel ≠ here.channel) :
    ¬ here.Brought classId := by
  intro hb
  have horigin := (hs.brought_iff hhere hc).mp hb
  rw [SendOrder.custodyOf_eq_burned_iff.mp hburned] at horigin
  exact hne (Origin.wrapped.inj horigin)

/-- **Every fair deed keeps an end of a channel moored.** -/
theorem of_does (h : d.Does bridge s u) (hd : d.Fair bridge here there)
    (hs : Moored bridge here there s) : Moored bridge here there u where
  sound := hs.sound.of_does h
  registered := hs.registered.of_does h hd.plain
  brought := by
    intro id c hc ho
    obtain heq | ⟨c', rfl | ⟨arrival, inner, rfl⟩, rfl, -, hu⟩ := h.class? id
    · exact hs.brought (heq ▸ hc) ho
    · obtain rfl := Option.some.inj (hu.symm.trans hc)
      obtain ⟨-, -, -, hn, -⟩ := h
      rw [ho] at hn
      cases hn
    · obtain rfl := Option.some.inj (hu.symm.trans hc)
      obtain ⟨-, hid, -, hw, -⟩ := h
      rw [ho] at hw
      obtain ⟨rfl, hinner⟩ := hd.2 (Origin.wrapped.inj hw).symm
      exact ⟨inner, hid, hinner⟩
  lodged := by
    intro classId tokenId deposit hdep
    obtain hold | ⟨p, rfl, hescrowed, rfl, -, rfl⟩ := h.deposit?_of_some hdep
    · obtain ⟨c, hc, hcustody⟩ := hs.lodged hold
      exact ⟨c, h.class?_of_some hc, hcustody⟩
    · obtain ⟨-, -, ⟨c, hc, hcustody⟩, -⟩ := id h
      exact ⟨c, h.class?_of_some hc, hcustody ▸ hescrowed⟩

end Moored

/-! ## Deeds that use the channel -/

namespace Deed

/-- Whether a deed sends a token over the channel of an endpoint. -/
def Ships (here : Endpoint) (classId tokenId : String) : Deed → Prop
  | .sent p => p.channel = here.channel ∧ p.classId = classId ∧ tokenId ∈ p.tokenIds
  | _ => False

/-- Whether a deed brings a token over the channel of an endpoint, or brings
it back. -/
def Brings (here : Endpoint) (classId tokenId : String) : Deed → Prop
  | .released channel classId' tokenIds _ =>
    channel = here.channel ∧ classId' = classId ∧ tokenId ∈ tokenIds
  | .issued arrival inner _ tokens _ =>
    arrival = here ∧ arrival.extend inner = classId ∧ ∃ uri, (tokenId, uri) ∈ tokens
  | .refunded channel _ p => channel = here.channel ∧ p.classId = classId ∧ tokenId ∈ p.tokenIds
  | _ => False

theorem Ships.concerns (h : d.Ships here classId tokenId) : d.Concerns classId tokenId := by
  cases d with
  | sent p => exact h.2
  | _ => exact h.elim

/-- A deed that brings a token concerns it. -/
theorem Brings.concerns (h : d.Brings here classId tokenId) (hdoes : d.Does bridge s u)
    (hs : Moored bridge here there s) : d.Concerns classId tokenId := by
  cases d with
  | released => exact h.2
  | issued arrival inner c tokens recipient =>
    obtain ⟨-, rfl, hmem⟩ := h
    exact ⟨hs.registered.named hdoes.1, hmem⟩
  | refunded channel n p =>
    obtain ⟨-, rfl, hmem⟩ := h
    refine ⟨rfl, ?_⟩
    cases hcustody : p.custody with
    | escrowed => exact .inl ⟨rfl, hmem⟩
    | burned => exact .inr ⟨rfl, exists_mem_zip (hs.sound.filed hdoes.1).2.2 hmem⟩
  | _ => exact h.elim

/-- **A token that is sent over the channel ceases to be at hand.** -/
theorem Does.atHand_of_ships (h : d.Does bridge s u) (hhere : here.Plain)
    (hs : Moored bridge here there s) (hd : d.Ships here classId tokenId) :
    s.AtHand here classId tokenId ∧ ¬ u.AtHand here classId tokenId := by
  have hmoves := h.moves hd.concerns
  cases d with
  | sent p =>
    obtain ⟨hchannel, rfl, -⟩ := hd
    obtain ⟨-, -, ⟨c, hc, hcustody⟩, -⟩ := h
    rw [hchannel] at hcustody
    obtain ⟨uri, -, ht, ⟨hescrowed, hn, ha⟩ | ⟨hburned, ha⟩⟩ := hmoves
    · have hb := (hs.escrowed_iff hhere hc).mp (hcustody ▸ hescrowed)
      rw [atHand_of_not_brought hb, atHand_of_not_brought hb,
        show s.deposit? p.classId tokenId = none from hn, (Prod.mk.inj ha).2]
      simp [hchannel]
    · have hb := (hs.burned_iff hhere hc).mp (hcustody ▸ hburned)
      rw [atHand_of_brought hb, atHand_of_brought hb,
        show s.token? p.classId tokenId = _ from ht, (Prod.mk.inj ha).1]
      simp
  | _ => exact hd.elim

/-- **A token that is brought is at hand.** -/
theorem Does.atHand_of_brings (h : d.Does bridge s u) (hhere : here.Plain)
    (hs : Moored bridge here there s) (hd : d.Brings here classId tokenId) :
    u.AtHand here classId tokenId := by
  have hmoves := h.moves (hd.concerns h hs)
  have made {token : Token} {deposit? : Option Deposit} (hb : here.Brought classId)
      (ha : u.whereabouts classId tokenId = (some token, deposit?)) :
      u.AtHand here classId tokenId := by
    rw [atHand_of_brought hb, (Prod.mk.inj ha).1]
    exact Option.some_ne_none _
  cases d with
  | released =>
    obtain ⟨uri, deposit, -, -, ha⟩ := hmoves
    exact atHand_of_whereabouts ha (by simp)
  | issued arrival inner c tokens recipient =>
    obtain ⟨rfl, rfl, -⟩ := hd
    obtain ⟨uri, -, -, ha⟩ := hmoves
    exact made ⟨inner, rfl⟩ ha
  | refunded channel n p =>
    obtain ⟨rfl, rfl, -⟩ := hd
    obtain ⟨-, uri, deposit, -, -, ha⟩ | ⟨hburned, uri, -, -, ha⟩ := hmoves
    · exact atHand_of_whereabouts ha (by simp)
    · obtain ⟨c, hc, hcustody⟩ := hs.sound.custody h.1
      rw [(hs.sound.filed h.1).1, hburned] at hcustody
      exact made ((hs.burned_iff hhere hc).mp hcustody.symm) ha
  | _ => exact hd.elim

/-! What other deeds do does not matter, and each has a reason of its own. -/

section

variable {p : Shipment}

/-- A token that is minted here is of a class that has not come over the channel,
unless it is the bridge that mints it. -/
theorem Does.atHand_iff_of_minted {minter : Address} {token : Token}
    (h : (minted minter classId tokenId token).Does bridge s u) (hminter : minter ≠ bridge)
    (hhere : here.Plain) (hs : Moored bridge here there s) :
    u.AtHand here classId tokenId ↔ s.AtHand here classId tokenId := by
  obtain ⟨-, ha⟩ := h.moves ⟨rfl, rfl⟩
  obtain ⟨⟨c, hc, rfl⟩, -⟩ := h
  refine atHand_iff_of_deposit? ?_ (congrArg Prod.snd ha)
  rintro ⟨inner, rfl⟩
  exact hminter (hs.registered.origin_of_extend hhere hc).2

/-- Who has a token is no matter. -/
theorem Does.atHand_iff_of_passed {giver taker : Address}
    (h : (passed classId tokenId giver taker).Does bridge s u) :
    u.AtHand here classId tokenId ↔ s.AtHand here classId tokenId := by
  obtain ⟨uri, hb, ha⟩ := h.moves ⟨rfl, rfl⟩
  obtain ⟨ht, hd⟩ := Prod.mk.inj ha
  unfold AtHand
  rw [ht, hd, show s.token? classId tokenId = _ from hb]
  simp

/-- **A token that is sent over another channel** is deposited for that one, or it is
burned, as its class has come over that one. -/
theorem Does.atHand_iff_of_sent (h : (sent p).Does bridge s u) (hmem : tokenId ∈ p.tokenIds)
    (hchannel : p.channel ≠ here.channel) (hhere : here.Plain) (hs : Moored bridge here there s) :
    u.AtHand here p.classId tokenId ↔ s.AtHand here p.classId tokenId := by
  obtain ⟨uri, -, ht, ⟨-, hn, ha⟩ | ⟨hburned, ha⟩⟩ := h.moves ⟨rfl, hmem⟩
  · exact iff_of_true (atHand_of_whereabouts ha (by simpa using hchannel))
      (atHand_of_whereabouts (Prod.ext ht hn) (by simp))
  · obtain ⟨-, -, ⟨c, hc, hcustody⟩, -⟩ := h
    have hnot := hs.not_brought_of_burned hhere hc (hcustody.symm.trans hburned) hchannel
    exact atHand_iff_of_deposit? hnot (congrArg Prod.snd ha)

/-- A token that is released to another channel was deposited for that one. -/
theorem Does.atHand_iff_of_released {channel : String} {tokenIds : List String}
    {recipient : Address} (h : (released channel classId tokenIds recipient).Does bridge s u)
    (hmem : tokenId ∈ tokenIds) (hchannel : channel ≠ here.channel) :
    u.AtHand here classId tokenId ↔ s.AtHand here classId tokenId := by
  obtain ⟨uri, deposit, hb, rfl, ha⟩ := h.moves ⟨rfl, hmem⟩
  exact atHand_iff_of_freed hb ha hchannel

/-- A token that arrives at another endpoint is of a class that has come there. -/
theorem Does.atHand_iff_of_issued {arrival : Endpoint} {inner : String} {c : TokenClass}
    {tokens : List (String × Option String)} {recipient : Address}
    (h : (issued arrival inner c tokens recipient).Does bridge s u)
    (hmem : ∃ uri, (tokenId, uri) ∈ tokens) (harrival : arrival.Plain) (hne : arrival ≠ here)
    (hhere : here.Plain) (hs : Moored bridge here there s) :
    u.AtHand here c.id tokenId ↔ s.AtHand here c.id tokenId := by
  obtain ⟨uri, -, -, ha⟩ := h.moves ⟨rfl, hmem⟩
  refine atHand_iff_of_deposit? ?_ (congrArg Prod.snd ha)
  rintro ⟨inner', heq⟩
  have hid : c.id = arrival.extend inner := hs.registered.named h.1
  exact hne ((Endpoint.extend_inj harrival hhere).mp (hid.symm.trans heq)).1

/-- **A token that is refunded on another channel** was deposited for that one, or it
was burned, as its class has come over that one. -/
theorem Does.atHand_iff_of_refunded {channel : String} {n : UInt64}
    (h : (refunded channel n p).Does bridge s u) (hd : p.Restores classId tokenId)
    (hchannel : p.channel ≠ here.channel) (hhere : here.Plain) (hs : Moored bridge here there s) :
    u.AtHand here classId tokenId ↔ s.AtHand here classId tokenId := by
  obtain ⟨-, uri, deposit, hb, hdeposit, ha⟩ | ⟨hburned, uri, -, -, ha⟩ := h.moves hd
  · exact atHand_iff_of_freed hb ha (hdeposit ▸ hchannel)
  · obtain ⟨c, hc, hcustody⟩ := hs.sound.custody h.1
    obtain ⟨rfl, -⟩ := hd
    have hnot := hs.not_brought_of_burned hhere hc (hcustody.symm.trans hburned) hchannel
    exact atHand_iff_of_deposit? hnot (congrArg Prod.snd ha)

end

/-- **What other deeds do does not matter.** -/
theorem Does.atHand_of_idle (h : d.Does bridge s u) (hfair : d.Fair bridge here there)
    (hhere : here.Plain) (hs : Moored bridge here there s)
    (hships : ¬ d.Ships here classId tokenId) (hbrings : ¬ d.Brings here classId tokenId) :
    u.AtHand here classId tokenId ↔ s.AtHand here classId tokenId := by
  by_cases hconcerns : d.Concerns classId tokenId
  case neg => exact atHand_congr (h.stays hconcerns)
  cases d with
  | minted =>
    obtain ⟨rfl, rfl⟩ := hconcerns
    exact h.atHand_iff_of_minted hfair hhere hs
  | passed =>
    obtain ⟨rfl, rfl⟩ := hconcerns
    exact h.atHand_iff_of_passed
  | sent p =>
    obtain ⟨rfl, hmem⟩ := hconcerns
    exact h.atHand_iff_of_sent hmem (fun heq => hships ⟨heq, rfl, hmem⟩) hhere hs
  | released =>
    obtain ⟨rfl, hmem⟩ := hconcerns
    exact h.atHand_iff_of_released hmem fun heq => hbrings ⟨heq, rfl, hmem⟩
  | issued =>
    obtain ⟨rfl, hmem⟩ := hconcerns
    have hid := hs.registered.named h.1
    exact h.atHand_iff_of_issued hmem hfair.1 (fun heq => hbrings ⟨heq, hid.symm, hmem⟩) hhere hs
  | refunded channel n p =>
    refine h.atHand_iff_of_refunded hconcerns (fun heq => hbrings ?_) hhere hs
    obtain ⟨hchannel, -, -⟩ := hs.sound.filed h.1
    obtain ⟨rfl, ⟨-, hmem⟩ | ⟨-, uri, hmem⟩⟩ := hconcerns
    · exact ⟨hchannel.symm.trans heq, rfl, hmem⟩
    · exact ⟨hchannel.symm.trans heq, rfl, (List.of_mem_zip hmem).1⟩
  | _ => exact hconcerns.elim

/-- **What a deed does to the tokens at hand.** -/
theorem Does.atHand_iff (h : d.Does bridge s u) (hfair : d.Fair bridge here there)
    (hhere : here.Plain) (hs : Moored bridge here there s) :
    u.AtHand here classId tokenId
      ↔ (s.AtHand here classId tokenId ∨ d.Brings here classId tokenId)
        ∧ ¬ d.Ships here classId tokenId := by
  by_cases hships : d.Ships here classId tokenId
  · exact iff_of_false (h.atHand_of_ships hhere hs hships).2 fun hn => hn.2 hships
  by_cases hbrings : d.Brings here classId tokenId
  · exact iff_of_true (h.atHand_of_brings hhere hs hbrings) ⟨.inr hbrings, hships⟩
  rw [h.atHand_of_idle hfair hhere hs hships hbrings]
  simp [hships, hbrings]

end Deed

/-! ## Packets of the channel -/

/-- The number that the next packet gets which is sent from an endpoint, if
there is a channel. -/
def Store.nextNumber? (s : Store Entry) (here : Endpoint) : Option UInt64 :=
  (s.channel? here.channel).map (·.nextSequence)

/-- Whether a deed changes what is known of the packets that were sent from
an endpoint. -/
def Deed.Files (here : Endpoint) : Deed → Prop
  | .sent p => p.channel = here.channel
  | .committed channel .. => channel = here.channel
  | .refunded channel .. => channel = here.channel
  | _ => False

/-- **Whether the same is known of the packets** that were sent from an
endpoint. -/
structure SameRecords (here : Endpoint) (s u : Store Entry) : Prop where
  /-- The same packets are known. -/
  shipment? : ∀ n, u.shipment? here.channel n = s.shipment? here.channel n
  /-- The next packet gets the same number. -/
  nextNumber? : ∀ n, s.nextNumber? here = some n → u.nextNumber? here = some n

namespace SameRecords

theorem refl : SameRecords here s s := ⟨fun _ => rfl, fun _ h => h⟩

theorem trans {m : Store Entry} (h : SameRecords here s m) (h' : SameRecords here m u) :
    SameRecords here s u where
  shipment? n := (h'.shipment? n).trans (h.shipment? n)
  nextNumber? n hn := h'.nextNumber? n (h.nextNumber? n hn)

end SameRecords

namespace Deed

/-- A deed takes no number of the channel unless it sends something over
it. -/
theorem Does.nextNumber?_of_idle (h : d.Does bridge s u) (hs : Sound s) {n : UInt64}
    (hd : ∀ p, d = .sent p → p.channel ≠ here.channel) (hn : s.nextNumber? here = some n) :
    u.nextNumber? here = some n := by
  obtain ⟨channel, hc, rfl⟩ := Option.map_eq_some_iff.mp hn
  unfold Store.nextNumber?
  obtain heq | ⟨_, -, -, hnone, -⟩ | ⟨channel', phase, -, hc', hu⟩
    | ⟨p, channel', rfl, hid, hc', -⟩ := h.channel? here.channel
  · rw [heq, hc]
    rfl
  · cases hnone.symm.trans hc
  · obtain rfl := Option.some.inj (hc'.symm.trans hc)
    rw [hu]
    rfl
  · exact absurd ((hs.named hc').symm.trans hid) (hd p rfl)

/-- A deed that files no packet of the channel leaves their records
alone. -/
theorem Does.sameRecords (h : d.Does bridge s u) (hs : Sound s) (hd : ¬ d.Files here) :
    SameRecords here s u where
  shipment? n := by
    obtain heq | ⟨p, rfl, hchannel, -⟩ | ⟨id, n', p, status, hres, hp, -, hchannel, -⟩ :=
      h.shipment? here.channel n
    · exact heq
    · exact absurd hchannel hd
    · obtain rfl := (hs.filed hp).1.symm.trans hchannel
      obtain ⟨-, rfl⟩ | ⟨-, rfl⟩ := hres <;> exact absurd rfl hd
  nextNumber? n hn := by
    refine h.nextNumber?_of_idle hs ?_ hn
    rintro p rfl
    exact hd

/-- **Sending a packet over the channel** files it under the next number. -/
theorem Does.records_of_sent {p : Shipment} (h : (sent p).Does bridge s u) (hs : Sound s)
    (hp : p.channel = here.channel) :
    s.nextNumber? here = some p.sequence ∧ u.nextNumber? here = some (p.sequence + 1)
      ∧ ∀ n, u.shipment? here.channel n
        = if n = p.sequence then some p else s.shipment? here.channel n := by
  obtain ⟨-, -, -, m, channel, hm, hc, -, hnext, -, hk, rfl⟩ := h
  unfold Store.nextNumber?
  rw [channel?_dispatched hk, ← hp, hc, if_pos (hs.named hc).symm, Option.map_some, hnext]
  refine ⟨rfl, rfl, fun n => ?_⟩
  have hrest : m.shipment? p.channel n = s.shipment? p.channel n :=
    Table.view_of_changedOnly hm.rest _ (by simp)
  rw [shipment?_dispatched hk, hrest]
  simp

/-- **Settling a packet of the channel** changes its status, and nothing
else. -/
theorem Does.records_of_resolves {n : UInt64} {p : Shipment} {status : Status}
    (h : d.Does bridge s u) (hs : Sound s) (hd : d.Resolves here.channel n p status) :
    s.shipment? here.channel n = some p ∧ p.status = .pending
      ∧ (∀ k, s.nextNumber? here = some k → u.nextNumber? here = some k)
      ∧ ∀ n', u.shipment? here.channel n'
        = if n' = n then some { p with status } else s.shipment? here.channel n' := by
  have hnext : ∀ k, s.nextNumber? here = some k → u.nextNumber? here = some k := by
    intro k
    refine h.nextNumber?_of_idle hs ?_
    rintro q rfl
    obtain ⟨-, heq⟩ | ⟨-, heq⟩ := hd <;> cases heq
  obtain ⟨rfl, rfl⟩ | ⟨rfl, rfl⟩ := hd
  · obtain ⟨hp, hpend, hk, rfl⟩ := h
    obtain ⟨hid, hseq, -⟩ := hs.filed hp
    refine ⟨hp, hpend, hnext, fun n' => ?_⟩
    rw [shipment?_settled hk]
    simp [hid, hseq]
  · obtain ⟨hp, hpend, hk, m, hm, rfl⟩ := h
    obtain ⟨hid, hseq, -⟩ := hs.filed hp
    refine ⟨hp, hpend, hnext, fun n' => ?_⟩
    have hrest : m.shipment? here.channel n' = s.shipment? here.channel n' :=
      Table.view_of_changedOnly hm.rest _ (by simp)
    rw [shipment?_settled hk, hrest]
    simp [hid, hseq]

end Deed

/-! ## Deeds that have nothing to do with the channel -/

/-- **Whether a deed uses the channel** of an endpoint. -/
def Deed.Uses (here : Endpoint) : Deed → Prop
  | .sent p => p.channel = here.channel
  | .released channel .. => channel = here.channel
  | .wrapped arrival .. => arrival.channel = here.channel
  | .issued arrival .. => arrival.channel = here.channel
  | .committed channel .. => channel = here.channel
  | .refunded channel .. => channel = here.channel
  | _ => False

theorem Deed.Ships.uses (h : d.Ships here classId tokenId) : d.Uses here := by
  cases d with
  | sent p => exact h.1
  | _ => exact h.elim

theorem Deed.Brings.uses (h : d.Brings here classId tokenId) : d.Uses here := by
  cases d with
  | released => exact h.1
  | issued => exact congrArg Endpoint.channel h.1
  | refunded => exact h.1
  | _ => exact h.elim

theorem Deed.Files.uses (h : d.Files here) : d.Uses here := by
  cases d <;> first | exact h | exact h.elim

/-- **Whether the traffic of the channel is the same** in two stores, as far
as one of its ends is concerned. -/
structure Undisturbed (here : Endpoint) (s u : Store Entry) : Prop
    extends SameRecords here s u where
  /-- The same tokens are at hand. -/
  atHand : ∀ classId tokenId, u.AtHand here classId tokenId ↔ s.AtHand here classId tokenId

/-- **A path that does not use the channel leaves its traffic alone.** -/
theorem Path.undisturbed {ds : List Deed} (h : Path bridge s ds u) (hhere : here.Plain)
    (hds : ∀ d ∈ ds, d.Fair bridge here there ∧ ¬ d.Uses here)
    (hs : Moored bridge here there s) : Moored bridge here there u ∧ Undisturbed here s u := by
  induction h with
  | nil => exact ⟨hs, .refl, fun _ _ => .rfl⟩
  | cons first _ ih =>
    obtain ⟨⟨hfair, hidle⟩, hothers⟩ := List.forall_mem_cons.mp hds
    obtain ⟨hmoored, hrest⟩ := ih hothers (hs.of_does first hfair)
    refine ⟨hmoored, .trans ?_ hrest.toSameRecords, fun classId tokenId => ?_⟩
    · exact first.sameRecords hs.sound fun hfiles => hidle hfiles.uses
    · rw [hrest.atHand]
      exact first.atHand_of_idle hfair hhere hs (fun hships => hidle hships.uses)
        fun hbrings => hidle hbrings.uses

end TokenBridge
