import TokenBridge.Proofs.Effects
import TokenBridge.Proofs.Turns

/-!
# What holds of every store of a bridge

A store that a bridge has come to by itself is not any store. Its packets
are kept where they belong, under numbers that are used once (`Sound`);
what is deposited is in the hands of the bridge (`Held`); and its classes
bear names that tell where they come from (`Registered`).

All three are kept by every deed, and so by every turn. The first needs
nothing else. The second needs that no call comes from the account of the
bridge, and the third that packets arrive at endpoints whose names are free
of slashes.
-/

namespace TokenBridge

open Store

variable {bridge : Address} {s u : Store Entry} {d : Deed}

/-! ## Deeds in general -/

namespace Deed

/-- Whether a deed is not one of the account of the bridge. -/
def NotBy (bridge : Address) : Deed → Prop
  | .minted minter .. => minter ≠ bridge
  | .passed _ _ giver _ => giver ≠ bridge
  | .sent p => p.sender ≠ bridge
  | _ => True

/-- Whether the tokens of a deed arrive, if they do, at an endpoint whose
name is free of slashes. -/
def Plain : Deed → Prop
  | .wrapped arrival .. => arrival.Plain
  | .issued arrival .. => arrival.Plain
  | _ => True

end Deed

section

variable {call : Call}

/-- A call that is one of the others is the occasion for their deeds. -/
theorem Call.Occasions.notBy (h : call.Occasions d) (hc : call.NotBy bridge) : d.NotBy bridge := by
  cases d with
  | minted =>
    obtain rfl := h
    exact hc
  | passed =>
    obtain rfl := h
    exact hc
  | sent p =>
    obtain ⟨order, rfl, -⟩ := h
    exact hc
  | _ => trivial

/-- The tokens of a packet that arrives do so at its destination. -/
theorem Call.Occasions.plain (h : call.Occasions d) (hc : call.Plain) : d.Plain := by
  cases d with
  | wrapped =>
    obtain ⟨packet, rfl, rfl⟩ := h
    exact hc
  | issued =>
    obtain ⟨packet, rfl, rfl⟩ := h
    exact hc
  | _ => trivial

/-- **What every deed keeps for which a turn may be the occasion, the turn
keeps.** -/
theorem Turn.keeps {P : Store Entry → Prop} (turn : Turn)
    (step : ∀ {s u} {d : Deed}, d.Does bridge s u → turn.call.Occasions d → P s → P u)
    (hs : P s) : P (turn.after bridge s) := by
  obtain heq | ⟨answer, ds, -, hcarries, hpath⟩ := turn.path bridge s
  · rw [heq]
    exact hs
  · exact hpath.keeps (fun hd h => step h (hcarries.occasions _ hd)) hs

/-- What every deed of the others keeps, a turn of the others keeps. -/
theorem Turn.keeps_of_notBy {P : Store Entry → Prop} {turn : Turn}
    (step : ∀ {s u} {d : Deed}, d.Does bridge s u → d.NotBy bridge → P s → P u)
    (hturn : turn.call.NotBy bridge) (hs : P s) : P (turn.after bridge s) :=
  turn.keeps (fun h hoccasion => step h (hoccasion.notBy hturn)) hs

/-- What every deed keeps whose tokens arrive at plain endpoints, a turn
keeps whose packet does. -/
theorem Turn.keeps_of_plain {P : Store Entry → Prop} {turn : Turn}
    (step : ∀ {s u} {d : Deed}, d.Does bridge s u → d.Plain → P s → P u)
    (hturn : turn.call.Plain) (hs : P s) : P (turn.after bridge s) :=
  turn.keeps (fun h hoccasion => step h (hoccasion.plain hturn)) hs

end

/-! ## Packets and channels -/

theorem SendOrder.custodyOf_eq_burned_iff {c : TokenClass} {channel : String} :
    custodyOf c channel = .burned ↔ c.origin = .wrapped channel := by
  simp [custodyOf, Origin.isWrappedOn]

theorem SendOrder.custodyOf_eq_escrowed_iff {c : TokenClass} {channel : String} :
    custodyOf c channel = .escrowed ↔ c.origin ≠ .wrapped channel := by
  simp [custodyOf, Origin.isWrappedOn]

/-- **What holds of the packets and the channels** of a bridge. -/
structure Sound (s : Store Entry) : Prop where
  /-- A packet is kept under its channel and its number, and there is one
  metadata entry for each of its tokens. -/
  filed : ∀ {id n p}, s.shipment? id n = some p →
    p.channel = id ∧ p.sequence = n ∧ p.tokenIds.length = p.tokenUris.length
  /-- The number of a packet has been taken from its channel. -/
  numbered : ∀ {id n p}, s.shipment? id n = some p →
    ∃ channel, s.channel? id = some channel ∧ n < channel.nextSequence
  /-- A channel is kept under its name. -/
  named : ∀ {id channel}, s.channel? id = some channel → channel.here.channel = id
  /-- The class of the tokens that were sent is known, and what was done with
  them is what has to be done for that class. -/
  custody : ∀ {id n p}, s.shipment? id n = some p →
    ∃ c, s.class? p.classId = some c ∧ p.custody = SendOrder.custodyOf c p.channel

/-- A number that is not the last one there is has a next one. -/
theorem toNat_succ {n : UInt64} (h : n.toNat + 1 < UInt64.size) : (n + 1).toNat = n.toNat + 1 := by
  rw [UInt64.toNat_add]
  exact Nat.mod_eq_of_lt h

namespace Sound

theorem empty : Sound .empty where
  filed h := by simp at h
  numbered h := by simp at h
  named h := by simp at h
  custody h := by simp at h

/-- **A number is taken once.** Nothing is kept yet under the number of a
packet that is being sent. -/
theorem fresh (hs : Sound s) {p : Shipment} (h : (Deed.sent p).Does bridge s u) :
    s.shipment? p.channel p.sequence = none := by
  obtain ⟨-, -, -, m, channel, -, hc, -, hnext, -⟩ := h
  cases hq : s.shipment? p.channel p.sequence with
  | none => rfl
  | some q =>
    obtain ⟨channel', hc', hlt⟩ := hs.numbered hq
    obtain rfl : channel = channel' := Option.some.inj (hc.symm.trans hc')
    rw [hnext] at hlt
    exact absurd hlt (UInt64.lt_irrefl _)

/-- **What becomes of a packet that was sent**: it stays as it is, or it was
pending and is settled. -/
theorem shipment?_of_some (hs : Sound s) (h : d.Does bridge s u) {id : String}
    {n : UInt64} {p : Shipment} (hp : s.shipment? id n = some p) :
    u.shipment? id n = some p
      ∨ p.status = .pending ∧ ∃ status, d.Resolves id n p status
        ∧ u.shipment? id n = some { p with status } := by
  obtain heq | ⟨q, rfl, rfl, rfl, -, -⟩ | ⟨id', n', q, status, hd, hq, hpend, rfl, rfl, hu⟩ :=
    h.shipment? id n
  · rw [heq, hp]
    exact .inl rfl
  · rw [hs.fresh h] at hp
    cases hp
  · obtain ⟨rfl, rfl, -⟩ := hs.filed hq
    obtain rfl : p = q := Option.some.inj (hp.symm.trans hq)
    exact .inr ⟨hpend, status, hd, hu⟩

/-- A packet comes to be known when it is sent. -/
theorem shipment?_of_none (hs : Sound s) (h : d.Does bridge s u) {id : String}
    {n : UInt64} (hn : s.shipment? id n = none) :
    u.shipment? id n = none
      ∨ ∃ p, d = .sent p ∧ p.channel = id ∧ p.sequence = n ∧ u.shipment? id n = some p := by
  obtain heq | ⟨q, rfl, rfl, rfl, -, hu⟩ | ⟨id', n', q, status, -, hq, -, rfl, rfl, -⟩ :=
    h.shipment? id n
  · rw [heq, hn]
    exact .inl rfl
  · exact .inr ⟨q, rfl, rfl, rfl, hu⟩
  · obtain ⟨rfl, rfl, -⟩ := hs.filed hq
    rw [hn] at hq
    cases hq

section

variable (h : d.Does bridge s u) (hs : Sound s) {id : String} {n : UInt64} {q : Shipment}
include h hs

/-- A packet is kept under its channel and its number when it is sent, and both stay
the same. -/
theorem filed_of_does (hq : u.shipment? id n = some q) :
    q.channel = id ∧ q.sequence = n ∧ q.tokenIds.length = q.tokenUris.length := by
  obtain heq | ⟨p, rfl, rfl, rfl, -, hu⟩ | ⟨id', n', p, status, -, hp, -, rfl, rfl, hu⟩ :=
    h.shipment? id n
  · exact hs.filed (heq ▸ hq)
  · obtain rfl : p = q := Option.some.inj (hu.symm.trans hq)
    obtain ⟨-, -, -, m, channel, hm, -⟩ := h
    exact ⟨rfl, rfl, hm.length_eq⟩
  · obtain rfl := Option.some.inj (hu.symm.trans hq)
    exact ⟨rfl, rfl, (hs.filed hp).2.2⟩

/-- **A number that was taken stays taken**, whatever becomes of the channel. -/
theorem taken_of_does
    (hold : ∃ channel, s.channel? id = some channel ∧ n < channel.nextSequence) :
    ∃ channel, u.channel? id = some channel ∧ n < channel.nextSequence := by
  obtain ⟨channel, hc, hlt⟩ := hold
  obtain heq | ⟨_, -, -, hn, -⟩ | ⟨channel', phase, -, hc', hu⟩
    | ⟨p, channel', -, hid, hc', -, hnext, hroom, hu⟩ := h.channel? id
  · exact ⟨channel, heq ▸ hc, hlt⟩
  · rw [hc] at hn
    cases hn
  · obtain rfl : channel = channel' := Option.some.inj (hc.symm.trans hc')
    exact ⟨_, hu, hlt⟩
  · obtain rfl := (hs.named hc').symm.trans hid
    obtain rfl : channel = channel' := Option.some.inj (hc.symm.trans hc')
    refine ⟨_, hu, ?_⟩
    rw [hnext, UInt64.lt_iff_toNat_lt] at hlt
    rw [UInt64.lt_iff_toNat_lt, toNat_succ hroom]
    exact Nat.lt_succ_of_lt hlt

/-- A packet that is sent takes its number from its channel. -/
theorem numbered_of_does (hq : u.shipment? id n = some q) :
    ∃ channel, u.channel? id = some channel ∧ n < channel.nextSequence := by
  obtain heq | ⟨p, rfl, rfl, rfl, -, hu⟩ | ⟨id', n', p, status, -, hp, -, rfl, rfl, hu⟩ :=
    h.shipment? id n
  · exact hs.taken_of_does h (hs.numbered (heq ▸ hq))
  · obtain ⟨-, -, -, m, channel, hm, hc, -, hnext, hroom, hk, rfl⟩ := h
    refine ⟨_, (channel?_dispatched hk).trans (if_pos (hs.named hc).symm), ?_⟩
    rw [UInt64.lt_iff_toNat_lt, toNat_succ hroom]
    exact Nat.lt_succ_self _
  · obtain ⟨rfl, rfl, -⟩ := hs.filed hp
    exact hs.taken_of_does h (hs.numbered hp)

/-- A channel is kept under its name when it is opened, and the name stays the
same. -/
theorem named_of_does {channel : Channel} (hc : u.channel? id = some channel) :
    channel.here.channel = id := by
  obtain heq | ⟨channel', -, hid, -, -, hu⟩ | ⟨channel', phase, -, hc', hu⟩
    | ⟨p, channel', -, hid, -, -, -, -, hu⟩ := h.channel? id
  · exact hs.named (heq ▸ hc)
  · obtain rfl := Option.some.inj (hu.symm.trans hc)
    exact hid
  · obtain rfl := Option.some.inj (hu.symm.trans hc)
    exact (hs.named hc' : channel'.here.channel = id)
  · obtain rfl := Option.some.inj (hu.symm.trans hc)
    exact hid

/-- A packet is sent with tokens of a class that is known, and the class stays. -/
theorem custody_of_does (hq : u.shipment? id n = some q) :
    ∃ c, u.class? q.classId = some c ∧ q.custody = SendOrder.custodyOf c q.channel := by
  obtain heq | ⟨p, rfl, rfl, rfl, -, hu⟩ | ⟨id', n', p, status, -, hp, -, rfl, rfl, hu⟩ :=
    h.shipment? id n
  · obtain ⟨c, hc, hcustody⟩ := hs.custody (heq ▸ hq)
    exact ⟨c, h.class?_of_some hc, hcustody⟩
  · obtain rfl : p = q := Option.some.inj (hu.symm.trans hq)
    have hsent := h
    obtain ⟨-, -, ⟨c, hc, hcustody⟩, -⟩ := hsent
    exact ⟨c, h.class?_of_some hc, hcustody⟩
  · obtain rfl := Option.some.inj (hu.symm.trans hq)
    obtain ⟨c, hc, hcustody⟩ := hs.custody hp
    exact ⟨c, h.class?_of_some hc, hcustody⟩

/-- **Every deed keeps a store sound.** -/
theorem of_does : Sound u where
  filed hq := hs.filed_of_does h hq
  numbered hq := hs.numbered_of_does h hq
  named hc := hs.named_of_does h hc
  custody hq := hs.custody_of_does h hq

end

/-- An acknowledgement that is noted changes nothing of that. -/
theorem keep_lastAck (hs : Sound s) {ack : Ack} : Sound (s.keep .lastAck (.lastAck ack)) :=
  hs.of_does (Deed.noted_keep_lastAck : Deed.noted.Does "" s _)

end Sound

/-- **The store of a bridge is sound.** -/
theorem sound_after (past : List Turn) : Sound (storeAfter bridge past) := by
  induction past with
  | nil => exact .empty
  | cons turn past ih => exact turn.keeps (fun h _ => Sound.of_does h) ih

/-! ## Deposits -/

/-- **Whether what is deposited is in the hands of the bridge.** -/
def Held (bridge : Address) (s : Store Entry) : Prop :=
  ∀ classId tokenId deposit, s.deposit? classId tokenId = some deposit →
    ∃ uri, s.token? classId tokenId = some ⟨bridge, uri⟩

namespace Held

theorem empty : Held bridge .empty := by
  intro classId tokenId deposit h
  simp at h

/-- **Every deed of the others keeps what is deposited in the hands of the
bridge.** -/
theorem of_does (h : d.Does bridge s u) (hd : d.NotBy bridge) (hs : Held bridge s) :
    Held bridge u := by
  intro classId tokenId deposit hdep
  obtain heq | ⟨-, hmoves⟩ := h.stays_or_moves classId tokenId
  · obtain ⟨ht, hd'⟩ := Prod.mk.inj heq
    rw [ht]
    exact hs _ _ _ (hd' ▸ hdep)
  -- a token that moves was not deposited, or it is not deposited any more, or it is by now
  · have old (heq : (u.whereabouts classId tokenId).2 = (s.whereabouts classId tokenId).2) :
        ∃ uri, s.token? classId tokenId = some ⟨bridge, uri⟩ :=
      hs _ _ _ ((show u.deposit? classId tokenId = s.deposit? classId tokenId from heq) ▸ hdep)
    have gone (heq : (u.whereabouts classId tokenId).2 = none) : False := by
      rw [show u.deposit? classId tokenId = none from heq] at hdep
      cases hdep
    cases d with
    | minted minter classId' tokenId' token =>
      obtain ⟨hn, ha⟩ := hmoves
      obtain ⟨uri, ht⟩ := old (by rw [ha])
      cases hn.symm.trans ht
    | passed classId' tokenId' giver taker =>
      obtain ⟨uri, hb, ha⟩ := hmoves
      obtain ⟨uri', ht⟩ := old (by rw [ha])
      cases hb.symm.trans ht
      exact absurd rfl hd
    | sent p =>
      obtain ⟨uri, -, hb, ⟨-, -, ha⟩ | ⟨-, ha⟩⟩ := hmoves
      · exact ⟨uri, congrArg Prod.fst ha⟩
      · obtain ⟨uri', ht⟩ := old (by rw [ha])
        have := congrArg Token.owner (Option.some.inj (hb.symm.trans ht))
        exact absurd this hd
    | released channel classId' tokenIds recipient =>
      obtain ⟨uri, deposit', -, -, ha⟩ := hmoves
      exact (gone (congrArg Prod.snd ha)).elim
    | issued arrival inner c tokens recipient =>
      obtain ⟨uri, -, hn, ha⟩ := hmoves
      obtain ⟨uri', ht⟩ := old (by rw [ha])
      cases hn.symm.trans ht
    | refunded channel sequence p =>
      obtain ⟨-, uri, deposit', -, -, ha⟩ | ⟨-, uri, -, hn, ha⟩ := hmoves
      · exact (gone (congrArg Prod.snd ha)).elim
      · obtain ⟨uri', ht⟩ := old (by rw [ha])
        cases hn.symm.trans ht
    | _ => exact hmoves.elim

/-- A token that is not in the hands of the bridge is not deposited. -/
theorem deposit?_eq_none {classId tokenId : String} (hs : Held bridge s)
    (h : ∀ uri, s.token? classId tokenId ≠ some ⟨bridge, uri⟩) :
    s.deposit? classId tokenId = none := by
  refine Option.eq_none_iff_forall_ne_some.mpr fun deposit hdep => ?_
  obtain ⟨uri, ht⟩ := hs _ _ _ hdep
  exact h uri ht

/-- A token that somebody else has is not deposited. -/
theorem deposit?_eq_none_of_other {classId tokenId : String} {token : Token}
    (hs : Held bridge s) (ht : s.token? classId tokenId = some token) (ho : token.owner ≠ bridge) :
    s.deposit? classId tokenId = none :=
  hs.deposit?_eq_none fun _ ht' =>
    ho (congrArg Token.owner (Option.some.inj (ht.symm.trans ht')))

end Held

/-- **A bridge that is not called by itself has in its hands what is
deposited.** -/
theorem held_after {past : List Turn} (h : ∀ turn ∈ past, turn.call.NotBy bridge) :
    Held bridge (storeAfter bridge past) := by
  induction past with
  | nil => exact .empty
  | cons turn past ih =>
    obtain ⟨hturn, hpast⟩ := List.forall_mem_cons.mp h
    exact Turn.keeps_of_notBy Held.of_does hturn (ih hpast)

/-! ## Classes -/

/-- **What holds of the classes** of a bridge. -/
structure Registered (bridge : Address) (s : Store Entry) : Prop where
  /-- A class is kept under its name. -/
  named : ∀ {id c}, s.class? id = some c → c.id = id
  /-- The name of a class of this chain is free of slashes. -/
  native : ∀ {id c}, s.class? id = some c → c.origin = .native → '/' ∉ id.toList
  /-- A class that arrived over a channel has a name that says so, and its
  tokens are minted by the bridge. -/
  wrapped : ∀ {id c channel}, s.class? id = some c → c.origin = .wrapped channel →
    c.minter = bridge
      ∧ ∃ (arrival : Endpoint) (inner : String), arrival.Plain ∧ arrival.channel = channel
        ∧ id = arrival.extend inner

namespace Registered

theorem empty : Registered bridge .empty where
  named h := by simp at h
  native h := by simp at h
  wrapped h := by simp at h

/-- **Every deed keeps the classes registered** if no class arrives at an
endpoint whose name has slashes. -/
theorem of_does (h : d.Does bridge s u) (hd : d.Plain) (hs : Registered bridge s) :
    Registered bridge u where
  named := by
    intro id c hc
    obtain heq | ⟨c', -, hid, -, hu⟩ := h.class? id
    · exact hs.named (heq ▸ hc)
    · obtain rfl := Option.some.inj (hu.symm.trans hc)
      exact hid
  native := by
    intro id c hc ho
    obtain heq | ⟨c', rfl | ⟨arrival, inner, rfl⟩, rfl, -, hu⟩ := h.class? id
    · exact hs.native (heq ▸ hc) ho
    · obtain ⟨-, hcheck, -⟩ := h
      exact (TokenClass.of_checkId hcheck).2.2
    · obtain rfl := Option.some.inj (hu.symm.trans hc)
      obtain ⟨-, -, -, hw, -⟩ := h
      rw [ho] at hw
      cases hw
  wrapped := by
    intro id c channel hc ho
    obtain heq | ⟨c', rfl | ⟨arrival, inner, rfl⟩, rfl, -, hu⟩ := h.class? id
    · exact hs.wrapped (heq ▸ hc) ho
    · obtain rfl := Option.some.inj (hu.symm.trans hc)
      obtain ⟨-, -, -, hn, -⟩ := h
      rw [ho] at hn
      cases hn
    · obtain rfl := Option.some.inj (hu.symm.trans hc)
      obtain ⟨-, hid, -, hw, hminter, -⟩ := h
      rw [ho] at hw
      exact ⟨hminter, arrival, inner, hd, (Origin.wrapped.inj hw).symm, hid⟩

end Registered

/-- **A bridge at which packets arrive at plain endpoints has its classes
registered.** -/
theorem registered_after {past : List Turn} (h : ∀ turn ∈ past, turn.call.Plain) :
    Registered bridge (storeAfter bridge past) := by
  induction past with
  | nil => exact .empty
  | cons turn past ih =>
    obtain ⟨hturn, hpast⟩ := List.forall_mem_cons.mp h
    exact Turn.keeps_of_plain Registered.of_does hturn (ih hpast)

end TokenBridge
