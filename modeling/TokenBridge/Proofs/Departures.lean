import TokenBridge.Proofs.Ferrying
import TokenBridge.Proofs.Lifecycle
import TokenBridge.Proofs.Matching

/-!
# Tokens that leave

When somebody sends tokens, five tables change: the tokens and their deposits,
the channel with its numbers, the records of packets and the marks of those that
are pending. And the chain is asked to send a packet, which has to say what the
records say. This module states all of that at once, together with the conditions
under which it happens (`Turn.send_exact`).

The conditions are what the bridge asks of an order (`SendOrder.Sendable`), and
nothing else. There is one more check, and it is the difficult one: a token that is
to be deposited must not be deposited already. The sender has nothing to do with
it. It never fails in a store to which a bridge has come that is not called by
itself, since what is deposited there is in the hands of the bridge, and so not in
those of a sender. And no bridge is called by itself: all that it ever requests is
that a packet is sent or a channel closed (`Request`).
-/

namespace TokenBridge

open Program Store

variable {bridge sender : Address} {s u : Store Entry} {now : UInt64} {order : SendOrder}
  {settings : Settings} {channel : Channel} {c : TokenClass} {sent : Sent} {answer : Answer}

namespace SendOrder

/-- **What sending tokens does.** The metadata of the tokens and the deadline of the
packet are those that it finds. -/
structure Departed (order : SendOrder) (bridge sender : Address) (now : UInt64)
    (settings : Settings) (channel : Channel) (c : TokenClass) (uris : List (Option String))
    (deadline : UInt64) (answer : Answer) (s u : Store Entry) : Prop where
  /-- The tokens belonged to the sender, and this was their metadata, in the order
  of the tokens. -/
  found : order.tokenIds.map (s.token? order.classId ·) = uris.map fun uri => some ⟨sender, uri⟩
  /-- Tokens whose class came over the channel are there no more. -/
  burned : c.origin = .wrapped order.channel →
    ∀ tokenId ∈ order.tokenIds, u.token? order.classId tokenId = none
  /-- All others are in the hands of the bridge, and deposited for the channel, where
  they were not deposited before. -/
  escrowed : c.origin ≠ .wrapped order.channel → ∀ x ∈ order.tokenIds.zip uris,
    s.deposit? order.classId x.1 = none
      ∧ u.token? order.classId x.1 = some ⟨bridge, x.2⟩
      ∧ u.deposit? order.classId x.1 = some ⟨order.classId, x.1, order.channel, sender⟩
  /-- The channel has taken a number. -/
  counted : u.channel? order.channel
    = some { channel with nextSequence := channel.nextSequence + 1 }
  /-- Nothing was known under that number, -/
  fresh : s.shipment? order.channel channel.nextSequence = none
    ∧ s.look (.pending order.channel channel.nextSequence) = none
  /-- and now the packet is. -/
  recorded : u.shipment? order.channel channel.nextSequence
    = some (order.record sender c channel.nextSequence uris deadline)
  /-- It is marked as pending. -/
  marked : u.look (.pending order.channel channel.nextSequence) = some .pending
  /-- The packet may take as long as the order says. -/
  due : deadline.toNat = now.toNat + (order.seconds settings).toNat * 1000000000
  /-- The chain is asked to send a packet that says the same as the record. -/
  answered : ∃ attributes, answer = .response
    { requests := [.sendPacket order.channel (order.contents sender c uris).encode deadline],
      attributes }
  /-- Nothing else has changed. -/
  rest : ChangedOnly (fun k =>
      (∃ tokenId ∈ order.tokenIds, k = .token order.classId tokenId
        ∨ c.origin ≠ .wrapped order.channel ∧ k = .deposit order.classId tokenId)
      ∨ k = .channel order.channel ∨ k = .shipment order.channel channel.nextSequence
      ∨ k = .pending order.channel channel.nextSequence) s u

/-- **An order that is carried out** was one to which the bridge had no objection. Its
tokens are taken, and then the packet is dispatched, all of which follows from what
was found. -/
theorem dispatched_of_yields_run (h : (order.run ⟨bridge, now⟩ sender).Yields s sent u) :
    ∃ settings channel c m uris deadline, order.Sendable sender now settings channel c s
      ∧ Surrendered bridge (custodyOf c order.channel) order.classId order.channel sender
        order.tokenIds uris s m
      ∧ deadline.toNat = now.toNat + (order.seconds settings).toNat * 1000000000
      ∧ sent = ⟨order.record sender c channel.nextSequence uris deadline,
        order.contents sender c uris⟩
      ∧ u = m.dispatched channel sent.shipment
      ∧ (Key.shipment sent.shipment.channel sent.shipment.sequence).Fits := by
  obtain ⟨settings, channel, c, m, deadline, hs, hp, hc, ho, ht, hd, hclass, hm, hn, hl, hshipment,
    hdata, hk, hu⟩ := of_yields_run h
  obtain ⟨hne, hnodup⟩ := checkTokens_eq_ok_iff.mp ht
  have hdeadline : deadline.toNat = now.toNat + (order.seconds settings).toNat * 1000000000 :=
    deadlineAfter_eq_ok_iff.mp hl
  obtain ⟨p, data⟩ := sent
  generalize p.tokenUris = uris at *
  have hrecord : p = order.record sender c channel.nextSequence uris deadline := by
    rw [record, ← custodyOf_eq]
    exact hshipment
  have hcontents : data = order.contents sender c uris := hdata
  refine ⟨settings, channel, c, m, uris, deadline, ?_, hm, hdeadline, ?_, ?_, ?_⟩
  · exact
      { configured := hs, running := hp, joined := hc, opened := ho
        room := Nat.lt_of_le_of_ne channel.nextSequence.toNat_lt_size hn
        nonempty := hne, nodup := hnodup
        inRange := checkTimeout_eq_ok_iff.mp hd
        timely := hdeadline ▸ deadline.toNat_lt_size
        known := hclass
        owned := fun tokenId hmem => by
          obtain ⟨uri, -, ht, -⟩ := hm.whereabouts hmem
          exact ⟨uri, ht⟩ }
  · rw [hrecord, hcontents]
  · subst hrecord
    exact hu
  · subst hrecord
    exact hk

/-- **What an order does that is carried out**, and what the chain is asked for. -/
theorem departed_of_yields_run (hs : Sound s) (hbooked : Booked s)
    (h : (order.run ⟨bridge, now⟩ sender).Yields s sent u) :
    ∃ settings channel c uris deadline, order.Sendable sender now settings channel c s
      ∧ order.Departed bridge sender now settings channel c uris deadline
        (.response { requests := [sent.request], attributes := sent.attributes }) s u := by
  have hfresh := hs.fresh (run_sent h).1
  obtain ⟨settings, channel, c, m, uris, deadline, hsendable, hm, hdeadline, hsent, rfl, hk⟩ :=
    dispatched_of_yields_run h
  refine ⟨settings, channel, c, uris, deadline, hsendable, ?_⟩
  have hnamed : channel.here.channel = order.channel := hs.named hsendable.joined
  have hsame (tokenId : String) : (m.dispatched channel sent.shipment).whereabouts order.classId
      tokenId = m.whereabouts order.classId tokenId :=
    whereabouts_of_changedOnly changedOnly_dispatched (by simp) (by simp)
  subst hsent
  constructor
  case found => exact hm.found
  case burned =>
    intro horigin tokenId hmem
    obtain ⟨-, -, -, ⟨hescrowed, -⟩ | ⟨-, hgone⟩⟩ := hm.whereabouts hmem
    · exact absurd horigin (custodyOf_eq_escrowed_iff.mp hescrowed)
    · exact congrArg Prod.fst ((hsame tokenId).trans hgone)
  case escrowed =>
    intro horigin x hx
    obtain ⟨uri, -, ht, ⟨-, hfree, hmoved⟩ | ⟨hburned, -⟩⟩ := hm.whereabouts (List.of_mem_zip hx).1
    · obtain rfl : uri = x.2 :=
        congrArg Token.uri (Option.some.inj (ht.symm.trans (hm.token?_of_mem hx)))
      have hmoved := (hsame x.1).trans hmoved
      exact ⟨hfree, congrArg Prod.fst hmoved, congrArg Prod.snd hmoved⟩
    · exact absurd (custodyOf_eq_burned_iff.mp hburned) horigin
  case counted => exact (channel?_dispatched hk).trans (if_pos hnamed.symm)
  case fresh =>
    refine ⟨hfresh, ?_⟩
    rw [hbooked.marked, show s.shipment? order.channel channel.nextSequence = none from hfresh]
    rfl
  case recorded => exact (shipment?_dispatched hk).trans (if_pos ⟨rfl, rfl⟩)
  case marked => exact (look_dispatched hk).trans (if_pos ⟨rfl, rfl⟩)
  case due => exact hdeadline
  case answered => exact ⟨_, rfl⟩
  case rest =>
    refine .trans (hm.changedOnly.mono fun k => ?_) (changedOnly_dispatched.mono fun k hk => ?_)
    · rintro ⟨tokenId, hmem, heq⟩
      exact .inl ⟨tokenId, hmem, heq.imp_right (.imp_left custodyOf_eq_escrowed_iff.mp)⟩
    · exact .inr (hk.imp_left fun heq => heq.trans (congrArg Key.channel hnamed))

namespace Departed

variable {uris : List (Option String)} {deadline : UInt64}
  (h : order.Departed bridge sender now settings channel c uris deadline answer s u)
include h

/-- There is one metadata entry for each token. -/
theorem length_eq : order.tokenIds.length = uris.length := by
  simpa using congrArg List.length h.found

/-- None of the tokens was deposited that are deposited now. -/
theorem free (horigin : c.origin ≠ .wrapped order.channel) :
    ∀ tokenId ∈ order.tokenIds, s.deposit? order.classId tokenId = none := by
  intro tokenId hmem
  obtain ⟨uri, hx⟩ := exists_mem_zip h.length_eq hmem
  exact (h.escrowed horigin _ hx).1

end Departed

/-- **Which orders are carried out.** -/
theorem exists_run_iff (hs : Sound s) (hbooked : Booked s)
    (hshort : (Bytes.ofText order.channel).length < UInt16.size) :
    (∃ sent u, (order.run ⟨bridge, now⟩ sender).Yields s sent u)
      ↔ ∃ settings channel c, order.Sendable sender now settings channel c s
        ∧ (c.origin ≠ .wrapped order.channel →
          ∀ tokenId ∈ order.tokenIds, s.deposit? order.classId tokenId = none) := by
  constructor
  · rintro ⟨sent, u, hsent⟩
    obtain ⟨settings, channel, c, uris, deadline, hsendable, hdeparted⟩ :=
      departed_of_yields_run hs hbooked hsent
    exact ⟨settings, channel, c, hsendable, hdeparted.free⟩
  · rintro ⟨settings, channel, c, hsendable, hfree⟩
    exact hsendable.exists_run hshort fun hescrowed =>
      hfree (custodyOf_eq_escrowed_iff.mp hescrowed)

end SendOrder

/-- A send is answered if its order is carried out. -/
theorem Turn.exists_take_send_iff :
    (∃ answer u, (⟨now, .command sender (.send order)⟩ : Turn).take bridge s = (.ok answer, u))
      ↔ ∃ sent u, (order.run ⟨bridge, now⟩ sender).Yields s sent u := by
  simp only [take_send_iff]
  constructor
  · rintro ⟨-, u, sent, hsent, -⟩
    exact ⟨sent, u, hsent⟩
  · rintro ⟨sent, u, hsent⟩
    exact ⟨_, u, sent, hsent, rfl⟩

/-- **Exactly what sending tokens takes, and exactly what it does.** An order is
carried out if and only if the bridge has no objection to it and none of its tokens
is deposited already that are to be deposited. The second is so in every store to
which a bridge has come that is not called by itself, if the one who sends is not
the bridge. No past call was one of its own, as a bridge requests packets and closes
of its chain and never a call. And an order that is carried out has done what
`SendOrder.Departed` says, and nothing else. -/
theorem Turn.send_exact {past : List Turn} {account : Address}
    (hshort : (Bytes.ofText order.channel).length < UInt16.size) :
    ((∃ answer u, (⟨now, .command account (.send order)⟩ : Turn).take bridge
          (storeAfter bridge past) = (.ok answer, u))
        ↔ ∃ settings channel c,
          order.Sendable account now settings channel c (storeAfter bridge past)
            ∧ (c.origin ≠ .wrapped order.channel → ∀ tokenId ∈ order.tokenIds,
              (storeAfter bridge past).deposit? order.classId tokenId = none))
      ∧ (account ≠ bridge → (∀ turn ∈ past, turn.call.NotBy bridge) →
        ((∃ answer u, (⟨now, .command account (.send order)⟩ : Turn).take bridge
            (storeAfter bridge past) = (.ok answer, u))
          ↔ ∃ settings channel c,
            order.Sendable account now settings channel c (storeAfter bridge past)))
      ∧ ∀ answer u, (⟨now, .command account (.send order)⟩ : Turn).take bridge
          (storeAfter bridge past) = (.ok answer, u) →
        ∃ settings channel c uris deadline,
          order.Sendable account now settings channel c (storeAfter bridge past)
            ∧ order.Departed bridge account now settings channel c uris deadline answer
              (storeAfter bridge past) u := by
  have hs : Sound (storeAfter bridge past) := sound_after past
  have hbooked : Booked (storeAfter bridge past) := booked_after past
  have hexact := @SendOrder.exists_run_iff bridge account _ now order hs hbooked hshort
  refine ⟨exists_take_send_iff.trans hexact, fun haccount hpast =>
    exists_take_send_iff.trans (hexact.trans ?_), fun answer u htake => ?_⟩
  · refine exists_congr fun settings => exists_congr fun channel => exists_congr fun c => ?_
    refine and_iff_left_of_imp fun hsendable _ tokenId hmem => ?_
    -- what is deposited is in the hands of the bridge, and this token is not
    obtain ⟨uri, ht⟩ := hsendable.owned tokenId hmem
    exact (held_after hpast).deposit?_eq_none_of_other ht haccount
  · obtain ⟨sent, hsent, rfl⟩ := take_send_iff.mp htake
    exact SendOrder.departed_of_yields_run hs hbooked hsent

/-- Alice has two tokens, and one of them has no metadata. -/
def pairVoyage : List Turn :=
  ⟨4, .command "alice" (.mint "art" "sun" none "alice")⟩ :: firstVoyage.tail

/-- The order by which she sends both of them. -/
def pairOrder : SendOrder := ⟨"art", ["sun", "moon"], "bob", "channel-0", some 60⟩

/-- The packet is due a minute later, and its record lists the metadata in the
order of the tokens. -/
theorem Turn.send_exact_pairVoyage :
    (Bytes.ofText pairOrder.channel).length < UInt16.size
      ∧ ∃ answer u, (⟨5, .command "alice" (.send pairOrder)⟩ : Turn).take harbor
          (storeAfter harbor pairVoyage) = (.ok answer, u)
        ∧ (u.shipment? "channel-0" 1).map (fun p => (p.tokenUris, p.custody, p.deadline))
          = some ([none, some "ipfs://moon"], .escrowed, 60000000005)
        ∧ u.deposit? "art" "sun" = some ⟨"art", "sun", "channel-0", "alice"⟩ := by
  obtain ⟨hsettings, hchannel, horigin, hsun, hmoon⟩ :
      (storeAfter harbor pairVoyage).settings? = some ⟨"admin", false, 600⟩
        ∧ ((storeAfter harbor pairVoyage).channel? "channel-0").map
          (fun channel => (channel.phase, channel.nextSequence)) = some (.opened, 1)
        ∧ ((storeAfter harbor pairVoyage).class? "art").map (·.origin) = some .native
        ∧ (storeAfter harbor pairVoyage).token? "art" "sun" = some ⟨"alice", none⟩
        ∧ (storeAfter harbor pairVoyage).token? "art" "moon"
          = some ⟨"alice", some "ipfs://moon"⟩ := by
    decide +kernel
  obtain ⟨channel, hc, hphase⟩ := Option.map_eq_some_iff.mp hchannel
  obtain ⟨hopened, hnext⟩ := Prod.mk.inj hphase
  obtain ⟨c, hclass, hnative⟩ := Option.map_eq_some_iff.mp horigin
  have hshort : (Bytes.ofText pairOrder.channel).length < UInt16.size := by decide
  have hsendable : pairOrder.Sendable "alice" 5 ⟨"admin", false, 600⟩ channel c
      (storeAfter harbor pairVoyage) :=
    { configured := hsettings, running := rfl, joined := hc, opened := hopened
      room := by rw [hnext]; decide
      nonempty := by decide, nodup := by decide, inRange := by decide, timely := by decide
      known := hclass
      owned := List.forall_mem_cons.mpr ⟨⟨_, hsun⟩, List.forall_mem_singleton.mpr ⟨_, hmoon⟩⟩ }
  obtain ⟨-, hiff, hdeparts⟩ := @send_exact harbor 5 pairOrder pairVoyage "alice" hshort
  obtain ⟨answer, u, htake⟩ :=
    (hiff (by decide) (by decide)).mpr ⟨_, channel, c, hsendable⟩
  obtain ⟨settings', channel', c', uris, deadline, hsendable', hdeparted⟩ := hdeparts answer u htake
  obtain rfl := Option.some.inj (hsendable.configured.symm.trans hsendable'.configured)
  obtain rfl := Option.some.inj (hsendable.joined.symm.trans hsendable'.joined)
  obtain rfl := Option.some.inj (hsendable.known.symm.trans hsendable'.known)
  have huris : [none, some "ipfs://moon"] = uris := by
    have hfound : [none, some "ipfs://moon"].map (fun uri => some (⟨"alice", uri⟩ : Token))
        = uris.map fun uri => some ⟨"alice", uri⟩ := by
      refine .trans ?_ hdeparted.found
      rw [List.map_cons, List.map_cons, ← hsun, ← hmoon]
      rfl
    refine (List.map_inj_right fun x y hxy => ?_).mp hfound
    exact congrArg Token.uri (Option.some.inj hxy)
  have hdeadline : deadline = 60000000005 := UInt64.toNat_inj.mp hdeparted.due
  refine ⟨hshort, answer, u, htake, ?_, ?_⟩
  · have hrecorded := hdeparted.recorded
    rw [hnext] at hrecorded
    rw [show u.shipment? "channel-0" 1 = _ from hrecorded, ← huris, hdeadline, SendOrder.record,
      hnative]
    rfl
  · refine (hdeparted.escrowed ?_ ("sun", none) ?_).2.2
    · simp [hnative]
    · simp [← huris, pairOrder]

end TokenBridge
