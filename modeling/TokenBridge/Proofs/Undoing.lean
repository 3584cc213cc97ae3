import TokenBridge.Proofs.Departures

/-!
# Sends that are undone

A refund is the send backwards. The send takes tokens from their owner in one loop,
and the refund gives them back in another, which reads what the first has written
down: tokens are released that were deposited, and tokens are made again that were
burned, with metadata that stands in a list of its own by now. This module shows
that the second loop undoes the first exactly (`Turn.refund_undoes_send`).

Much may happen between the two. As long as the packet is pending and its tokens are
where the send has left them, none of it is in the way; and it does not matter how
the bridge learns that the packet has failed, be it a timeout, an error, or an
acknowledgement that makes no sense.
-/

namespace TokenBridge

open Program Store

variable {bridge sender : Address} {s t u : Store Entry} {now : UInt64}
  {order : SendOrder} {settings : Settings} {channel : Channel} {c : TokenClass}
  {uris : List (Option String)} {deadline : UInt64} {answer : Answer}

/-- **Whether a packet is the one that the chain is asked to send**, when this is
the answer to a send: it goes over the channel with the data of which the chain is
told, and under the number that the channel had next. -/
def Packet.IsSent (packet : Packet) (answer : Answer) (s : Store Entry) : Prop :=
  answer.packet? packet.source.channel = some packet.data
    ∧ ∃ channel, s.channel? packet.source.channel = some channel
      ∧ packet.sequence = channel.nextSequence

namespace SendOrder

/-- **What undoing a send does**, if `before` is the store in which the tokens were
sent. -/
structure Undone (order : SendOrder) (sender : Address) (sequence : UInt64)
    (before s u : Store Entry) : Prop where
  /-- The tokens and their deposits are as they were before they were sent, -/
  restored : ∀ tokenId ∈ order.tokenIds,
    u.whereabouts order.classId tokenId = before.whereabouts order.classId tokenId
  /-- which is in the hands of the sender, and not deposited. -/
  returned : ∀ tokenId ∈ order.tokenIds,
    ∃ uri, u.whereabouts order.classId tokenId = (some ⟨sender, uri⟩, none)
  /-- The packet is refunded, -/
  settled : ∃ p, s.shipment? order.channel sequence = some p
    ∧ u.shipment? order.channel sequence = some { p with status := .refunded }
  /-- and not marked as pending any more. -/
  unmarked : u.look (.pending order.channel sequence) = none
  /-- Nothing else has changed. -/
  rest : ChangedOnly (fun k =>
      (∃ tokenId ∈ order.tokenIds, k = .token order.classId tokenId
        ∨ k = .deposit order.classId tokenId)
      ∨ k = .shipment order.channel sequence ∨ k = .pending order.channel sequence) s u

namespace Departed

variable (h : order.Departed bridge sender now settings channel c uris deadline answer s u)
include h

/-- The tokens were in the hands of the sender, and not deposited if deposits are in
the hands of the bridge. -/
theorem whereabouts_before (hheld : Held bridge s) (hsender : sender ≠ bridge)
    {x : String × Option String} (hx : x ∈ order.tokenIds.zip uris) :
    s.whereabouts order.classId x.1 = (some ⟨sender, x.2⟩, none) := by
  have ht : s.token? order.classId x.1 = some ⟨sender, x.2⟩ := eq_of_mem_zip h.found hx
  rw [Store.whereabouts, ht, hheld.deposit?_eq_none_of_other ht hsender]

/-- The packet goes over the channel of the order, under the number that was taken,
and says what was sent. -/
theorem of_isSent {packet : Packet} (hpacket : packet.IsSent answer s)
    (hjoined : s.channel? order.channel = some channel) :
    packet.source.channel = order.channel ∧ packet.sequence = channel.nextSequence
      ∧ packet.data = (order.contents sender c uris).encode := by
  obtain ⟨hdata, channel', hchannel, hsequence⟩ := hpacket
  obtain ⟨attributes, rfl⟩ := h.answered
  have hposted := (Answer.packet?_of_sent
    ⟨order.record sender c channel.nextSequence uris deadline, order.contents sender c uris⟩
    attributes packet.source.channel).symm.trans hdata
  split at hposted
  · next hsource =>
    have hsource : order.channel = packet.source.channel := hsource
    rw [← hsource] at hchannel
    obtain rfl := Option.some.inj (hjoined.symm.trans hchannel)
    exact ⟨hsource.symm, hsequence, (Option.some.inj hposted).symm⟩
  · cases hposted

/-- **The packet can be refunded** as long as its tokens are where the send has left
them. -/
theorem redeemable (hheld : Held bridge s) (hsender : sender ≠ bridge)
    (hnodup : order.tokenIds.Nodup)
    (hkept : ∀ tokenId ∈ order.tokenIds,
      t.whereabouts order.classId tokenId = u.whereabouts order.classId tokenId) :
    (order.record sender c channel.nextSequence uris deadline).Redeemable bridge t where
  nodup := hnodup
  length_eq := h.length_eq
  kept x hx := by
    have hmem : x.1 ∈ order.tokenIds := (List.of_mem_zip hx).1
    have hbefore := h.whereabouts_before hheld hsender hx
    by_cases horigin : c.origin = .wrapped order.channel
    · refine .inr ⟨if_pos horigin, Table.fits_of_view (congrArg Prod.fst hbefore), ?_⟩
      -- a token that is burned leaves its deposit alone, and it had none
      have hdeposit : u.deposit? order.classId x.1 = s.deposit? order.classId x.1 :=
        Table.view_of_changedOnly h.rest Table.deposits (by simp [horigin])
      refine (hkept x.1 hmem).trans ?_
      rw [Store.whereabouts, h.burned horigin x.1 hmem, hdeposit,
        show s.deposit? order.classId x.1 = none from congrArg Prod.snd hbefore]
    · obtain ⟨-, ht, hd⟩ := h.escrowed horigin x hx
      refine .inl ⟨if_neg horigin, ⟨order.classId, x.1, order.channel, sender⟩, ?_, rfl⟩
      refine (hkept x.1 hmem).trans ?_
      rw [Store.whereabouts, ht, hd]

/-- **Its refund undoes the send.** -/
theorem undone (hheld : Held bridge s) (hsender : sender ≠ bridge)
    (hredeemable :
      (order.record sender c channel.nextSequence uris deadline).Redeemable bridge t)
    {v : Store Entry} (hdoes : (Deed.refunded order.channel channel.nextSequence
      (order.record sender c channel.nextSequence uris deadline)).Does bridge t v) :
    order.Undone sender channel.nextSequence s t v := by
  have hback {tokenId : String} (hmem : tokenId ∈ order.tokenIds) :
      ∃ uri, s.whereabouts order.classId tokenId = (some ⟨sender, uri⟩, none)
        ∧ v.whereabouts order.classId tokenId = (some ⟨sender, uri⟩, none) := by
    obtain ⟨uri, hx⟩ := exists_mem_zip h.length_eq hmem
    have hbefore := h.whereabouts_before hheld hsender hx
    have hafter := hredeemable.whereabouts hdoes hx
    exact ⟨uri, hbefore, hafter⟩
  constructor
  case restored =>
    intro tokenId hmem
    obtain ⟨uri, hbefore, hafter⟩ := hback hmem
    exact hafter.trans hbefore.symm
  case returned =>
    intro tokenId hmem
    obtain ⟨uri, -, hafter⟩ := hback hmem
    exact ⟨uri, hafter⟩
  case settled =>
    obtain ⟨hp, -, hk, m, -, rfl⟩ := hdoes
    exact ⟨_, hp, (shipment?_settled hk).trans (if_pos ⟨rfl, rfl⟩)⟩
  case unmarked =>
    obtain ⟨-, -, hk, m, -, rfl⟩ := hdoes
    exact (look_settled hk).trans (if_pos ⟨rfl, rfl⟩)
  case rest =>
    refine hdoes.changedOnly.mono fun k => ?_
    rintro (⟨classId, tokenId, ⟨rfl, ⟨-, hmem⟩ | ⟨-, uri, hx⟩⟩, heq⟩ | hk)
    · exact .inl ⟨tokenId, hmem, heq⟩
    · exact .inl ⟨tokenId, (List.of_mem_zip hx).1, heq⟩
    · exact .inr hk

end Departed

end SendOrder

/-- **A refund undoes the send**, whatever has happened in between. Let somebody who
is not the bridge send tokens, at any time of the life of a bridge that is not called
by itself. If the packet is still pending later on, and its tokens and their deposits
are as the send has left them, then a timeout of the packet is answered, and so is
every acknowledgement that cannot be read as a success; both make the tokens and their
deposits what they were before the send, and the packet refunded, and nothing else
changes, but for the acknowledgement that is noted. -/
theorem Turn.refund_undoes_send {past later : List Turn} {account : Address} {packet : Packet}
    {p : Shipment} (hpast : ∀ turn ∈ past, turn.call.NotBy bridge) (haccount : account ≠ bridge)
    (hsend : (⟨now, .command account (.send order)⟩ : Turn).take bridge (storeAfter bridge past)
      = (.ok answer, u))
    (hpacket : packet.IsSent answer (storeAfter bridge past))
    (ht : storeAfter bridge (later ++ ⟨now, .command account (.send order)⟩ :: past) = t)
    (hp : t.shipment? packet.source.channel packet.sequence = some p) (hpend : p.status = .pending)
    (hkept : ∀ tokenId ∈ order.tokenIds,
      t.whereabouts order.classId tokenId = u.whereabouts order.classId tokenId) :
    (∀ now, ∃ r v, (⟨now, .timedOut packet⟩ : Turn).take bridge t = (.ok (.response r), v)
        ∧ order.Undone account packet.sequence (storeAfter bridge past) t v)
      ∧ ∀ now reply, Ack.decode reply ≠ .ok .success →
        ∃ r v, (⟨now, .acknowledged packet reply⟩ : Turn).take bridge t = (.ok (.response r), v)
          ∧ order.Undone account packet.sequence (storeAfter bridge past)
            (t.keep .lastAck (.lastAck (Ack.decodeLenient reply))) v := by
  have hheld : Held bridge (storeAfter bridge past) := held_after hpast
  obtain ⟨sent, hsent, rfl⟩ := take_send_iff.mp hsend
  obtain ⟨settings, channel, c, uris, deadline, hsendable, hdeparted⟩ :=
    SendOrder.departed_of_yields_run (sound_after past) (booked_after past) hsent
  obtain ⟨hsource, hsequence, hdata⟩ := hdeparted.of_isSent hpacket hsendable.joined
  -- a packet that is pending is as it was sent
  have hrecorded : (storeAfter bridge
      (⟨now, .command account (.send order)⟩ :: past)).shipment? packet.source.channel
        packet.sequence = some (order.record account c channel.nextSequence uris deadline) := by
    rw [storeAfter_cons, Turn.after, hsend, hsource, hsequence]
    exact hdeparted.recorded
  obtain rfl := pending_in_past (List.suffix_append later _) (ht ▸ hp) hpend hrecorded
  have hredeemable := hdeparted.redeemable hheld haccount hsendable.nodup hkept
  have hs : Sound t := ht ▸ sound_after _
  have hdecode : PacketData.decode packet.data = .ok (order.contents account c uris) := by
    rw [hdata]
    exact PacketData.decode_encode _
  have hagrees : (order.record account c channel.nextSequence uris deadline).agreesWith
      (order.contents account c uris) := SendOrder.agreesWith_contents
  constructor
  · intro now
    obtain ⟨r, v, htake, -, hdoes⟩ :=
      hredeemable.exists_take_timedOut hs hp hpend hdecode hagrees now
    rw [hsource, hsequence] at hdoes
    exact ⟨r, v, htake, hsequence ▸ hdeparted.undone hheld haccount hredeemable hdoes⟩
  · intro now reply hreply
    obtain ⟨r, v, htake, -, hdoes⟩ :=
      hredeemable.exists_take_acknowledged hs hp hpend hdecode hagrees now
        (Bool.eq_false_iff.mpr (mt Ack.isSuccess_decodeLenient hreply))
    rw [hsource, hsequence] at hdoes
    exact ⟨r, v, htake, hsequence ▸ hdeparted.undone hheld haccount hredeemable.keep_lastAck hdoes⟩

/-- The packet in which Alice's two tokens are sent. -/
def pairPacket : Packet :=
  { source := harborChannel.here, destination := harborChannel.there, sequence := 1,
    data := PacketData.encode
      { classId := "art", classUri := none, tokenIds := ["sun", "moon"],
        tokenUris := [none, some "ipfs://moon"], sender := "alice", receiver := "bob" } }

/-- What happens while the packet is underway: there is a third token, and the bridge
is paused. -/
def pairAftermath : List Turn :=
  [⟨7, .command "admin" .pause⟩, ⟨6, .command "alice" (.mint "art" "star" none "alice")⟩]

/-- An acknowledgement that is empty gives Alice both tokens back. -/
theorem Turn.refund_undoes_send_pairVoyage :
    ∃ r v, (⟨8, .acknowledged pairPacket []⟩ : Turn).take harbor
        (storeAfter harbor
          (pairAftermath ++ ⟨5, .command "alice" (.send pairOrder)⟩ :: pairVoyage))
          = (.ok (.response r), v)
      ∧ v.whereabouts "art" "sun" = (some ⟨"alice", none⟩, none)
      ∧ v.whereabouts "art" "moon" = (some ⟨"alice", some "ipfs://moon"⟩, none) := by
  obtain ⟨hposts, hsequence⟩ :
      (⟨5, .command "alice" (.send pairOrder)⟩ : Turn).posts? harbor
          (storeAfter harbor pairVoyage) "channel-0" = some pairPacket.data
        ∧ ((storeAfter harbor pairVoyage).channel? "channel-0").map (·.nextSequence) = some 1 := by
    decide +kernel
  obtain ⟨hstatus, hsame⟩ :
      ((storeAfter harbor (pairAftermath ++ ⟨5, .command "alice" (.send pairOrder)⟩
          :: pairVoyage)).shipment? "channel-0" 1).map (·.status) = some .pending
        ∧ ∀ tokenId ∈ pairOrder.tokenIds,
          (storeAfter harbor (pairAftermath ++ ⟨5, .command "alice" (.send pairOrder)⟩
            :: pairVoyage)).whereabouts "art" tokenId
          = (storeAfter harbor (⟨5, .command "alice" (.send pairOrder)⟩ :: pairVoyage)).whereabouts
            "art" tokenId := by
    decide +kernel
  obtain ⟨hsun, hmoon⟩ :
      (storeAfter harbor pairVoyage).whereabouts "art" "sun" = (some ⟨"alice", none⟩, none)
        ∧ (storeAfter harbor pairVoyage).whereabouts "art" "moon"
          = (some ⟨"alice", some "ipfs://moon"⟩, none) := by
    decide +kernel
  obtain ⟨channel, hchannel, hnext⟩ := Option.map_eq_some_iff.mp hsequence
  obtain ⟨p, hp, hpend⟩ := Option.map_eq_some_iff.mp hstatus
  rcases hsend : (⟨5, .command "alice" (.send pairOrder)⟩ : Turn).take harbor
    (storeAfter harbor pairVoyage) with ⟨e | answer, u⟩
  · rw [posts?, hsend] at hposts
    cases hposts
  rw [posts?, hsend] at hposts
  have hafter : storeAfter harbor (⟨5, .command "alice" (.send pairOrder)⟩ :: pairVoyage) = u :=
    congrArg Prod.snd hsend
  rw [hafter] at hsame
  have hpacket : pairPacket.IsSent answer (storeAfter harbor pairVoyage) :=
    ⟨hposts, channel, hchannel, hnext.symm⟩
  obtain ⟨-, hacknowledged⟩ :=
    refund_undoes_send (by decide) (by decide) hsend hpacket rfl hp hpend hsame
  have hempty : Ack.decode [] ≠ .ok .success := by
    intro h
    have hnone : (Ack.decode []).toOption = none := by decide +kernel
    rw [h] at hnone
    cases hnone
  obtain ⟨r, v, htake, hundone⟩ := hacknowledged 8 [] hempty
  refine ⟨r, v, htake, ?_, ?_⟩
  · exact (hundone.restored "sun" (by decide)).trans hsun
  · exact (hundone.restored "moon" (by decide)).trans hmoon

end TokenBridge
