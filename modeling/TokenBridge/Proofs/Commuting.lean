import TokenBridge.Proofs.Abreast
import TokenBridge.Proofs.Lifecycle
import TokenBridge.Proofs.Origins
import TokenBridge.Proofs.Sends

/-!
# Callbacks on different channels commute

A bridge has no say in the order in which its channels call it back. It does not
need to: two callbacks on different channels give the same answers and leave the
same store in either order (`Turn.callbacks_commute`), whatever packets are and
whatever counterparties send. Only of two acknowledgements the one that comes
later is the last.

What a callback can reach is `Call.Reaches`. It may be less than its channel has,
but it is all that it may change, and two callbacks on different channels have
nothing of that in common. The difficult case are the tokens of a class that has
come over the one channel and that are deposited for the other: one callback may
mint tokens of the class while the other releases some. But they do not compete
for the same token, since what is deposited exists, and what is minted does not.
The rest is a comparison of two runs of each callback, before the other one and
after it.
-/

namespace TokenBridge

open Program Store

variable {bridge : Address} {s u : Store Entry} {past : List Turn} {call other : Call}
  {channel channel' : String} {id : String}

/-! ## What has come over a channel -/

/-- **Whether a name is one of a class that has come over a channel.** -/
def CameOver (channel id : String) : Prop :=
  ∃ (arrival : Endpoint) (inner : String),
    arrival.Plain ∧ arrival.channel = channel ∧ id = arrival.extend inner

/-- A class has come over one channel. -/
theorem CameOver.unique (h : CameOver channel id) (h' : CameOver channel' id) :
    channel = channel' := by
  obtain ⟨arrival, inner, hplain, rfl, rfl⟩ := h
  obtain ⟨arrival', inner', hplain', rfl, heq⟩ := h'
  rw [((Endpoint.extend_inj hplain hplain').mp heq).1]

/-- **Whether a packet that arrives on a channel** does so at an endpoint whose
name is free of slashes. -/
def Call.PlainOn (channel : String) : Call → Prop
  | .arrived packet => packet.destination.channel = channel → packet.destination.Plain
  | _ => True

instance : DecidablePred (Call.PlainOn channel)
  | .arrived packet =>
    inferInstanceAs (Decidable (packet.destination.channel = channel → packet.destination.Plain))
  | .setup _ | .migrate _ | .command .. | .offered .. | .connected .. | .closed ..
  | .acknowledged .. | .timedOut _ => .isTrue trivial

/-- A class that is wrapped on a channel has come over it. -/
theorem cameOver_of_wrapped (hplain : ∀ turn ∈ past, turn.call.PlainOn channel) {c : TokenClass}
    (hc : (storeAfter bridge past).class? id = some c) (horigin : c.origin = .wrapped channel) :
    CameOver channel id := by
  induction past generalizing c with
  | nil => simp at hc
  | cons turn past ih =>
    obtain ⟨hturn, hpast⟩ := List.forall_mem_cons.mp hplain
    refine turn.keeps (P := fun s => ∀ c, s.class? id = some c → c.origin = .wrapped channel →
      CameOver channel id) ?_ (fun c hc horigin => ih hpast hc horigin) c hc horigin
    intro s u d h hoccasion hs c hc horigin
    obtain heq | ⟨c', rfl | ⟨arrival, inner, rfl⟩, rfl, -, hu⟩ := h.class? id
    · exact hs c (heq ▸ hc) horigin
    · obtain rfl := Option.some.inj (hu.symm.trans hc)
      obtain ⟨-, -, -, hnative, -⟩ := h
      cases hnative.symm.trans horigin
    · obtain rfl := Option.some.inj (hu.symm.trans hc)
      obtain ⟨-, hid, -, hwrapped, -⟩ := h
      have hchannel : arrival.channel = channel :=
        Origin.wrapped.inj (hwrapped.symm.trans horigin)
      obtain ⟨packet, hcall, rfl⟩ := hoccasion
      rw [hcall] at hturn
      exact ⟨packet.destination, inner, hturn hchannel, hchannel, hid⟩

/-- The class of a packet that arrives on a channel comes over it. -/
theorem Call.cameOver_of_wraps? (hcall : call.callbackOn? = some channel)
    (hplain : call.PlainOn channel) (hid : call.wraps? = some id) : CameOver channel id := by
  cases call with
  | arrived packet =>
    have hchannel := Option.some.inj hcall
    simp only [wraps?] at hid
    split at hid
    · next data _ =>
      exact ⟨packet.destination, data.classId, hplain hchannel, hchannel,
        (Option.some.inj hid).symm⟩
    · cases hid
  | _ => cases hid

/-! ## What a callback can reach -/

/-- **Whether a token is deposited for a channel.** -/
def Store.DepositedFor (s : Store Entry) (channel classId tokenId : String) : Prop :=
  ∃ deposit, s.deposit? classId tokenId = some deposit ∧ deposit.channel = channel

/-- **What a callback on a channel can reach** in a store: the records of the
channel, the class that a packet may bring, and the tokens that are deposited for
the channel, or that might still be made in a class that has come over it. -/
def Call.Reaches (call : Call) (channel : String) (s : Store Entry) : Key → Prop
  | .settings | .version => False
  | .lastAck => call.Acknowledges
  | .channel id => id = channel
  | .shipment id _ => id = channel
  | .pending id _ => id = channel
  | .tokenClass id => call.wraps? = some id
  | .collection address => ∃ id, call.wraps? = some id ∧ collectionAddress id = address
  | .deposit classId tokenId => s.DepositedFor channel classId tokenId
  | .token classId tokenId =>
    s.DepositedFor channel classId tokenId
      ∨ CameOver channel classId ∧ s.token? classId tokenId = none

/-- The territory of a callback. -/
def Call.territory (call : Call) (channel : String) (s : Store Entry) : Territory where
  channel := channel
  came := CameOver channel
  own := call.Reaches channel s
  channel_own := rfl
  shipment_own _ := rfl
  pending_own _ := rfl
  token_own := .inl

/-- **Callbacks on different channels reach nothing in common**, but for the last
acknowledgement. -/
theorem Call.Reaches.apart {k : Key} (h : call.Reaches channel s k)
    (h' : other.Reaches channel' s k) (hne : channel ≠ channel') (hheld : Held bridge s)
    (hcame : ∀ id, call.wraps? = some id → CameOver channel id)
    (hcame' : ∀ id, other.wraps? = some id → CameOver channel' id)
    (hcollection : ∀ id id', call.wraps? = some id → other.wraps? = some id' →
      collectionAddress id = collectionAddress id' → id = id') :
    k = .lastAck ∧ call.Acknowledges ∧ other.Acknowledges := by
  have came {id : String} (h : CameOver channel id) (h' : CameOver channel' id) : False :=
    hne (h.unique h')
  have deposited {classId tokenId : String} (h : s.DepositedFor channel classId tokenId)
      (h' : s.DepositedFor channel' classId tokenId) : False := by
    obtain ⟨deposit, hd, rfl⟩ := h
    obtain ⟨deposit', hd', rfl⟩ := h'
    exact hne (congrArg Deposit.channel (Option.some.inj (hd.symm.trans hd')))
  -- what is deposited exists
  have exists_of {classId tokenId name : String} (h : s.DepositedFor name classId tokenId)
      (hnone : s.token? classId tokenId = none) : False := by
    obtain ⟨deposit, hd, -⟩ := h
    obtain ⟨uri, ht⟩ := hheld _ _ _ hd
    cases hnone.symm.trans ht
  cases k with
  | settings | version => exact h.elim
  | lastAck => exact ⟨rfl, h, h'⟩
  | channel id => exact absurd ((h : id = channel).symm.trans h') hne
  | shipment id n => exact absurd ((h : id = channel).symm.trans h') hne
  | pending id n => exact absurd ((h : id = channel).symm.trans h') hne
  | tokenClass id => exact (came (hcame id h) (hcame' id h')).elim
  | collection address =>
    obtain ⟨id, hid, rfl⟩ := h
    obtain ⟨id', hid', heq⟩ := h'
    obtain rfl := hcollection id id' hid hid' heq.symm
    exact (came (hcame id hid) (hcame' id hid')).elim
  | deposit classId tokenId => exact (deposited h h').elim
  | token classId tokenId =>
    obtain h | ⟨h, hnone⟩ := h
    · obtain h' | ⟨-, hnone⟩ := h'
      · exact (deposited h h').elim
      · exact (exists_of h hnone).elim
    · obtain h' | ⟨h', -⟩ := h'
      · exact (exists_of h' hnone).elim
      · exact (came h h').elim

/-- **There is nothing for a channel outside of what its callbacks can reach** in
the store of a bridge. -/
theorem fenced_after (hplain : ∀ turn ∈ past, turn.call.PlainOn channel) (call : Call) :
    (call.territory channel (storeAfter bridge past)).Fenced (storeAfter bridge past) where
  keyed := (booked_after past).keyed
  fair {k e} hk hlook := by
    cases k with
    | shipment id n =>
      cases e with
      | shipment p =>
        have hp := shipment?_eq_some_iff.mpr hlook
        obtain ⟨rfl, rfl, -⟩ := (sound_after past).filed hp
        refine ⟨rfl, rfl, fun hburned => ?_⟩
        -- only what has come over the channel is burned when it is sent there
        obtain ⟨c, hc, hcustody⟩ := (sound_after past).custody hp
        refine cameOver_of_wrapped hplain hc ?_
        rw [SendOrder.custodyOf_eq_burned_iff.mp (hcustody.symm.trans hburned)]
        exact congrArg Origin.wrapped hk
      | _ => trivial
    | tokenClass id =>
      cases e with
      | tokenClass c => exact (classed_after past).named (class?_eq_some_iff.mpr hlook)
      | _ => trivial
    | _ => trivial
  deposits hk deposit hd hchannel := hk ⟨deposit, hd, hchannel⟩
  tokens hcame hk hnone := hk (.inr ⟨hcame, hnone⟩)

/-! ## One callback after another -/

/-- A callback sends nothing. -/
theorem Turn.spares_of_callback (bridge : Address) {turn : Turn}
    (hcall : turn.call.callbackOn? = some channel) (s : Store Entry) (classId tokenId : String) :
    Spares classId tokenId s (turn.after bridge s) := by
  obtain ⟨p, hsent, -⟩ | ⟨-, hspares⟩ := turn.sends_or_spares bridge s classId tokenId
  · have hnot : turn.sent? bridge s = none :=
      Turn.sent?_of_not_send fun account order heq => by
        rw [heq] at hcall
        cases hcall
    cases hnot.symm.trans hsent
  · exact hspares

/-- **A callback on stores that are alike** in what it can reach is answered in the
same way, and keeps them abreast. -/
theorem Turn.take_of_alike (bridge : Address) {turn : Turn} {t s s' : Store Entry}
    (hcall : turn.call.callbackOn? = some channel) (hplain : turn.call.PlainOn channel)
    (h : (turn.call.territory channel t).Alike s s') :
    (turn.take bridge s').1 = (turn.take bridge s).1
      ∧ (turn.call.territory channel t).Abreast s s' (turn.after bridge s)
          (turn.after bridge s') := by
  refine (Call.respects_perform hcall (fun id hid => ?_) fun hack => hack).runAtomic h.abreast
  exact ⟨Call.cameOver_of_wraps? hcall hplain hid, hid, id, hid, rfl⟩

/-- **A callback changes nothing but what it can reach.** -/
theorem Turn.changedOnly_of_callback (bridge : Address) {turn : Turn}
    (hcall : turn.call.callbackOn? = some channel)
    (hplain : ∀ earlier ∈ turn :: past, earlier.call.PlainOn channel) :
    ChangedOnly (turn.call.Reaches channel (storeAfter bridge past)) (storeAfter bridge past)
      (storeAfter bridge (turn :: past)) := by
  obtain ⟨hturn, hpast⟩ := List.forall_mem_cons.mp hplain
  have hfenced : (turn.call.territory channel (storeAfter bridge past)).Fenced
      (storeAfter bridge past) := fenced_after hpast _
  -- the two runs that are compared are one and the same
  have hrun := (take_of_alike bridge hcall hturn ⟨rfl, fun _ _ => rfl, hfenced, hfenced⟩).2
  intro b hb
  obtain ⟨hsame, -⟩ | ⟨⟨k, hk, hkb⟩, -⟩ := hrun.changed b
  · exact hsame
  · exact absurd hkb (hb k hk)

/-- **A callback on another channel leaves alike** what a callback can reach. -/
theorem Turn.alike_after {turn : Turn} (hcall : turn.call.callbackOn? = some channel')
    (hplain' : ∀ earlier ∈ turn :: past, earlier.call.PlainOn channel')
    (hplain : ∀ earlier ∈ past, earlier.call.PlainOn channel)
    (hapart : ∀ k, call.Reaches channel (storeAfter bridge past) k →
      turn.call.Reaches channel' (storeAfter bridge past) k → k = .lastAck) :
    (call.territory channel (storeAfter bridge past)).Alike (storeAfter bridge past)
      (storeAfter bridge (turn :: past)) := by
  have hchanged := changedOnly_of_callback bridge hcall hplain'
  have hfenced : (call.territory channel (storeAfter bridge past)).Fenced
      (storeAfter bridge past) := fenced_after hplain _
  have hsame {k : Key} (hk : call.Reaches channel (storeAfter bridge past) k)
      (hne : k ≠ .lastAck) :
      (storeAfter bridge (turn :: past)).look k = (storeAfter bridge past).look k :=
    hchanged.look fun hk' => hne (hapart k hk hk')
  have hspares := spares_of_callback bridge hcall (storeAfter bridge past)
  refine ⟨Table.view_of_changedOnly hchanged _ (by simp [Call.Reaches]), hsame, hfenced, ?_⟩
  exact {
    keyed := hfenced.keyed.of_changedOnly hchanged
    fair := fun {k e} hk hlook => by
      by_cases hne : k = .lastAck
      · subst hne
        trivial
      · exact hfenced.fair hk ((hsame hk hne).symm.trans hlook)
    deposits := fun hk deposit hd => hfenced.deposits hk deposit ((hspares _ _).2 deposit hd)
    tokens := fun hcame hk => (hspares _ _).1 (hfenced.tokens hcame hk) }

/-- **Callbacks on different channels commute**, whatever history the bridge has
had, if none of its calls came from its own account and the names of the two
channels and of the ports at which packets arrived on them are free of slashes.

Two callbacks on different channels, each a close, an arrival or a return, with
whatever data, are answered in the same way in either order, and leave the same
store, but for the last acknowledgement if both are acknowledgements. If both
bring a class, the collections of the two must not have the same address, since
the class that is found by an address is the one that was kept there last. -/
theorem Turn.callbacks_commute {first second : Turn} (hne : channel ≠ channel')
    (hfirst : first.call.callbackOn? = some channel)
    (hsecond : second.call.callbackOn? = some channel')
    (hpast : ∀ turn ∈ past, turn.call.NotBy bridge)
    (hplain : ∀ turn ∈ first :: past, turn.call.PlainOn channel)
    (hplain' : ∀ turn ∈ second :: past, turn.call.PlainOn channel')
    (hcollection : ∀ id id', first.call.wraps? = some id → second.call.wraps? = some id' →
      collectionAddress id = collectionAddress id' → id = id') :
    (first.take bridge (storeAfter bridge (second :: past))).1
        = (first.take bridge (storeAfter bridge past)).1
      ∧ (second.take bridge (storeAfter bridge (first :: past))).1
        = (second.take bridge (storeAfter bridge past)).1
      ∧ (storeAfter bridge (second :: first :: past) = storeAfter bridge (first :: second :: past)
        ∨ first.call.Acknowledges ∧ second.call.Acknowledges
          ∧ ChangedOnly (· = .lastAck) (storeAfter bridge (first :: second :: past))
            (storeAfter bridge (second :: first :: past))) := by
  obtain ⟨hturn, hp⟩ := List.forall_mem_cons.mp hplain
  obtain ⟨hturn', hp'⟩ := List.forall_mem_cons.mp hplain'
  have hapart {k : Key} (h : first.call.Reaches channel (storeAfter bridge past) k)
      (h' : second.call.Reaches channel' (storeAfter bridge past) k) :
      k = .lastAck ∧ first.call.Acknowledges ∧ second.call.Acknowledges :=
    h.apart h' hne (held_after hpast) (fun _ => Call.cameOver_of_wraps? hfirst hturn)
      (fun _ => Call.cameOver_of_wraps? hsecond hturn') hcollection
  -- each callback before the other one, and after it
  obtain ⟨hanswer, habreast⟩ := take_of_alike bridge hfirst hturn
    (alike_after hsecond hplain' hp fun k h h' => (hapart h h').1)
  obtain ⟨hanswer', habreast'⟩ := take_of_alike bridge hsecond hturn'
    (alike_after hfirst hplain hp' fun k h h' => (hapart h' h).1)
  refine ⟨hanswer, hanswer', ?_⟩
  have hchanged : ChangedOnly (fun k => k = .lastAck ∧ first.call.Acknowledges
      ∧ second.call.Acknowledges) (storeAfter bridge (first :: second :: past))
      (storeAfter bridge (second :: first :: past)) :=
    (habreast.changedOnly habreast').mono fun k hk => hapart hk.1 hk.2
  by_cases hack : first.call.Acknowledges ∧ second.call.Acknowledges
  · exact .inr ⟨hack.1, hack.2, hchanged.mono fun k hk => hk.1⟩
  · exact .inl (Store.ext_get? fun b => hchanged b fun k hk => absurd hk.2 hack)

/-- Two channels are opened; Bob gets a token over the first one and sends it on over
the second one. -/
def songVoyage : List Turn :=
  [⟨4, .command "bob" (.send ⟨"wasm.harbor/channel-0/song", ["dawn"], "erin", "channel-1", none⟩)⟩,
   ⟨3, .arrived
    { source := harborChannel.there, destination := harborChannel.here, sequence := 1,
      data := PacketData.encode
        { classId := "song", classUri := none, tokenIds := ["dawn"],
          tokenUris := [some "ipfs://dawn"], sender := "carol", receiver := "bob" } }⟩,
   ⟨2, .connected { harborChannel with here := ⟨"wasm.harbor", "channel-1"⟩ } none⟩,
   ⟨1, .connected harborChannel none⟩,
   ⟨0, .setup ⟨"admin", none⟩⟩]

/-- Another token of its class arrives on the first channel. -/
def duskArrives : Turn :=
  ⟨5, .arrived
    { source := harborChannel.there, destination := harborChannel.here, sequence := 2,
      data := PacketData.encode
        { classId := "song", classUri := none, tokenIds := ["dusk"], tokenUris := [none],
          sender := "carol", receiver := "bob" } }⟩

/-- The packet of Bob comes back over the second one. -/
def dawnReturns : Turn :=
  ⟨6, .timedOut
    { source := ⟨"wasm.harbor", "channel-1"⟩, destination := harborChannel.there, sequence := 1,
      data := PacketData.encode
        { classId := "wasm.harbor/channel-0/song", classUri := none, tokenIds := ["dawn"],
          tokenUris := [some "ipfs://dawn"], sender := "bob", receiver := "erin" } }⟩

/-- The two callbacks are about tokens of one class, which has come over the first
channel. In either order Bob has both tokens in the end. -/
theorem Turn.callbacks_commute_songVoyage :
    duskArrives.call.callbackOn? = some "channel-0"
      ∧ dawnReturns.call.callbackOn? = some "channel-1"
      ∧ (∀ turn ∈ songVoyage, turn.call.NotBy harbor)
      ∧ (∀ turn ∈ duskArrives :: songVoyage, turn.call.PlainOn "channel-0")
      ∧ (∀ turn ∈ dawnReturns :: songVoyage, turn.call.PlainOn "channel-1")
      ∧ storeAfter harbor (dawnReturns :: duskArrives :: songVoyage)
        = storeAfter harbor (duskArrives :: dawnReturns :: songVoyage)
      ∧ (storeAfter harbor (dawnReturns :: duskArrives :: songVoyage)).token?
          "wasm.harbor/channel-0/song" "dawn" = some ⟨"bob", some "ipfs://dawn"⟩
      ∧ (storeAfter harbor (dawnReturns :: duskArrives :: songVoyage)).token?
          "wasm.harbor/channel-0/song" "dusk" = some ⟨"bob", none⟩ := by
  have hnotBy : ∀ turn ∈ songVoyage, turn.call.NotBy harbor := by decide
  have hplain : ∀ turn ∈ duskArrives :: songVoyage, turn.call.PlainOn "channel-0" := by decide
  have hplain' : ∀ turn ∈ dawnReturns :: songVoyage, turn.call.PlainOn "channel-1" := by decide
  obtain ⟨-, -, hstore⟩ := Turn.callbacks_commute (by decide) rfl rfl hnotBy hplain hplain'
    fun id id' _ hid' => by cases hid'
  refine ⟨rfl, rfl, hnotBy, hplain, hplain', hstore.resolve_right ?_, ?_, ?_⟩
  · rintro ⟨⟨_, _, hcall⟩, -⟩
    cases hcall
  · decide +kernel
  · decide +kernel

/-- Of two acknowledgements the one that comes later is the last. -/
example :
    let delivered : Turn := ⟨8, .acknowledged firstPacket Ack.success.encode⟩
    let refused : Turn :=
      ⟨9, .acknowledged { firstPacket with source := impostor.destination } []⟩
    (storeAfter harbor (delivered :: refused :: reefVoyage)).look .lastAck
      ≠ (storeAfter harbor (refused :: delivered :: reefVoyage)).look .lastAck := by
  decide +kernel

end TokenBridge
