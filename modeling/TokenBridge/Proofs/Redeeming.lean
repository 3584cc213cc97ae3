import TokenBridge.Proofs.Invariants

/-!
# Packets that can be refunded

A refund is a loop over the tokens of a packet, and each turn of it can fail:
a token that was deposited may have come home in another packet, and one that
was burned may have come back. Then the whole call fails, and the packet stays
pending.

What it takes for a refund to succeed is that each token is still where the
send of the packet has left it (`Shipment.Redeemable`). This is a fact about
the tokens and nothing else: no pause, no phase of the channel and no other
packet is in the way. A call that reports the failure of such a packet is
answered, says that the packet is refunded, and gives each token back to its
sender (`Shipment.Redeemable.givesBack_timedOut`,
`Shipment.Redeemable.givesBack_acknowledged`).

Whether the tokens are where the packet has left them is not up to one bridge
alone, since it depends on what the other side has sent back.
-/

namespace TokenBridge

open Program Store

variable {bridge : Address} {s u before : Store Entry} {p : Shipment} {packet : Packet}
  {data : PacketData}

/-! ## Tokens that are where a packet has left them -/

/-- **Whether a packet can be refunded**: its tokens are where the send has left
them, deposited for its channel or burned. A token that is deposited has the
metadata that the record of the packet tells. -/
structure Shipment.Redeemable (bridge : Address) (s : Store Entry) (p : Shipment) : Prop where
  /-- No token occurs twice. -/
  nodup : p.tokenIds.Nodup
  /-- There is one metadata entry for each token. -/
  length_eq : p.tokenIds.length = p.tokenUris.length
  /-- Each token is where it was left. -/
  kept : ∀ y ∈ p.tokens,
    p.custody = .escrowed
        ∧ (∃ deposit, s.whereabouts p.classId y.1 = (some ⟨bridge, y.2⟩, some deposit)
          ∧ deposit.channel = p.channel)
      ∨ p.custody = .burned ∧ (Key.token p.classId y.1).Fits
        ∧ s.whereabouts p.classId y.1 = (none, none)

namespace Shipment

/-- A packet that is pending is settled as refunded if its refund comes to its
end. -/
theorem exists_settle_of_refund {m : Store Entry} (hm : (p.refund bridge).Yields s () m)
    {channel : String} {n : UInt64} (hp : s.shipment? channel n = some p)
    (hid : p.channel = channel) (hseq : p.sequence = n) (hpend : p.status = .pending) :
    ∃ u, (p.settle bridge .failed).Yields s .refunded u
      ∧ (Deed.refunded channel n p).Does bridge s u := by
  have hk : (Key.shipment p.channel p.sequence).Fits := by
    rw [hid, hseq]
    exact Table.fits_of_view hp
  have hk' : (Key.pending p.channel p.sequence).Fits :=
    Key.fits_pending_iff.mpr (Key.fits_shipment_iff.mp hk)
  have hsettle : (p.settle bridge .failed).Yields s .refunded (m.settled p .refunded) := by
    simp only [settle, hpend, Status.after?, if_true, keep, yields_bind, Table.yields_put,
      Table.yields_erase, yields_pure]
    exact ⟨(), m, hm, (), _, ⟨hk, rfl⟩, (), _, ⟨hk', rfl⟩, trivial, rfl⟩
  exact ⟨_, hsettle, hp, hpend, hk, m, restored_of_yields_refund hm, rfl⟩

namespace Redeemable

/-- **The refund of such a packet comes to its end.** -/
theorem exists_refund (h : p.Redeemable bridge s) : ∃ u, (p.refund bridge).Yields s () u := by
  unfold refund
  cases hcustody : p.custody with
  | escrowed =>
    refine Released.exists_yields _ h.nodup fun tokenId hmem => ?_
    obtain ⟨uri, hy⟩ := exists_mem_zip h.length_eq hmem
    obtain ⟨-, deposit, hs, hc⟩ | ⟨hburned, -⟩ := h.kept _ hy
    · exact ⟨uri, deposit, congrArg Prod.fst hs, congrArg Prod.snd hs, hc⟩
    · cases hcustody.symm.trans hburned
  | burned =>
    refine Minted.exists_yields _ ?_ fun y hy => ?_
    · rw [List.map_fst_zip (Nat.le_of_eq h.length_eq)]
      exact h.nodup
    · obtain ⟨hescrowed, -⟩ | ⟨-, hk, hs⟩ := h.kept y hy
      · cases hcustody.symm.trans hescrowed
      · exact ⟨hk, congrArg Prod.fst hs⟩

/-- **A failure refunds such a packet** if it is pending. -/
theorem exists_settle (h : p.Redeemable bridge s) {channel : String} {n : UInt64}
    (hp : s.shipment? channel n = some p) (hid : p.channel = channel) (hseq : p.sequence = n)
    (hpend : p.status = .pending) :
    ∃ u, (p.settle bridge .failed).Yields s .refunded u
      ∧ (Deed.refunded channel n p).Does bridge s u := by
  obtain ⟨m, hm⟩ := h.exists_refund
  exact exists_settle_of_refund hm hp hid hseq hpend

/-- **Once it is refunded, its tokens are back** with their sender. -/
theorem whereabouts (h : p.Redeemable bridge s) {channel : String} {n : UInt64}
    (hdoes : (Deed.refunded channel n p).Does bridge s u) {y : String × Option String}
    (hy : y ∈ p.tokens) :
    u.whereabouts p.classId y.1 = (some ⟨p.sender, y.2⟩, none) := by
  obtain ⟨-, -, -, m, hm, rfl⟩ := hdoes
  rw [whereabouts_of_changedOnly changedOnly_settled (by simp) (by simp)]
  unfold Restored at hm
  obtain ⟨hcustody, deposit, hs, -⟩ | ⟨hcustody, -, hs⟩ := h.kept y hy
  · rw [hcustody] at hm
    obtain ⟨uri, deposit', hs', -, hu⟩ := hm.whereabouts (List.of_mem_zip hy).1
    cases hs.symm.trans hs'
    exact hu
  · rw [hcustody] at hm
    rw [(hm.whereabouts hy).2, show s.deposit? p.classId y.1 = none from congrArg Prod.snd hs]

/-- An acknowledgement that is noted is not in the way. -/
theorem keep_lastAck (h : p.Redeemable bridge s) {ack : Ack} :
    p.Redeemable bridge (s.keep .lastAck (.lastAck ack)) where
  nodup := h.nodup
  length_eq := h.length_eq
  kept y hy := by
    rw [whereabouts_of_changedOnly (.keep rfl : ChangedOnly (· = .lastAck) s _) (by simp)
      (by simp)]
    exact h.kept y hy

end Redeemable

end Shipment

/-! ## Calls that report a failure -/

/-- **Whether a turn gives the tokens of a packet back**: it is answered, the
packet is refunded, and each of its tokens is in the hands of its sender as it
was in the store `before`, and not deposited. -/
def Turn.GivesBack (bridge : Address) (turn : Turn) (before s : Store Entry)
    (p : Shipment) : Prop :=
  ∃ r u, turn.take bridge s = (.ok (.response r), u)
    ∧ ("result", Settlement.refunded.name) ∈ r.attributes
    ∧ u.shipment? p.channel p.sequence = some { p with status := .refunded }
    ∧ ∀ tokenId ∈ p.tokenIds, ∃ uri, before.token? p.classId tokenId = some ⟨p.sender, uri⟩
      ∧ u.whereabouts p.classId tokenId = (some ⟨p.sender, uri⟩, none)

namespace Shipment.Redeemable

/-- What the refund of such a packet leaves. -/
theorem restores (h : p.Redeemable bridge s) {channel : String} {n : UInt64}
    (hdoes : (Deed.refunded channel n p).Does bridge s u)
    (hbefore : ∀ y ∈ p.tokens, before.token? p.classId y.1 = some ⟨p.sender, y.2⟩) :
    u.shipment? p.channel p.sequence = some { p with status := .refunded }
      ∧ ∀ tokenId ∈ p.tokenIds, ∃ uri, before.token? p.classId tokenId = some ⟨p.sender, uri⟩
        ∧ u.whereabouts p.classId tokenId = (some ⟨p.sender, uri⟩, none) := by
  obtain ⟨hp, hpend, hk, m, -, hu⟩ := id hdoes
  refine ⟨?_, fun tokenId hmem => ?_⟩
  · rw [hu, shipment?_settled hk, if_pos ⟨rfl, rfl⟩]
  · obtain ⟨uri, hy⟩ := exists_mem_zip h.length_eq hmem
    have ht := hbefore _ hy
    have hu := h.whereabouts hdoes hy
    exact ⟨uri, ht, hu⟩

section

variable (h : p.Redeemable bridge s) (hs : Sound s)
  (hp : s.shipment? packet.source.channel packet.sequence = some p) (hpend : p.status = .pending)
  (hdecode : PacketData.decode packet.data = .ok data) (hagrees : p.agreesWith data)
include h hs hp hpend hdecode hagrees

/-- **A packet that came too late is refunded**, if it can be. -/
theorem exists_take_timedOut (now : UInt64) :
    ∃ r u, (⟨now, .timedOut packet⟩ : Turn).take bridge s = (.ok (.response r), u)
      ∧ ("result", Settlement.refunded.name) ∈ r.attributes
      ∧ (Deed.refunded packet.source.channel packet.sequence p).Does bridge s u := by
  obtain ⟨hid, hseq, -⟩ := hs.filed hp
  obtain ⟨u, hsettle, hdoes⟩ := h.exists_settle hp hid hseq hpend
  have hexpire : (packet.expire bridge).Yields s .refunded u :=
    yields_bind.mpr ⟨p, s, Packet.yields_shipment.mpr ⟨hp, ⟨data, hdecode, hagrees⟩, rfl⟩, hsettle⟩
  refine ⟨_, u, Turn.take_eq_ok_iff.mpr (yields_map.mpr ⟨_, Packet.yields_report hexpire, rfl⟩),
    ?_, hdoes⟩
  simp

/-- **A packet that was not taken is refunded**, if it can be. The
acknowledgement says so, or it makes no sense. -/
theorem exists_take_acknowledged (now : UInt64) {reply : Bytes}
    (hreply : (Ack.decodeLenient reply).isSuccess = false) :
    ∃ r u, (⟨now, .acknowledged packet reply⟩ : Turn).take bridge s = (.ok (.response r), u)
      ∧ ("result", Settlement.refunded.name) ∈ r.attributes
      ∧ (Deed.refunded packet.source.channel packet.sequence p).Does bridge
        (s.keep .lastAck (.lastAck (Ack.decodeLenient reply))) u := by
  obtain ⟨hid, hseq, -⟩ := hs.filed hp
  have hp' : (s.keep .lastAck (.lastAck (Ack.decodeLenient reply))).shipment?
      packet.source.channel packet.sequence = some p := by
    simpa [Table.view_keep Key.fits_lastAck] using hp
  obtain ⟨u, hsettle, hdoes⟩ := h.keep_lastAck.exists_settle hp' hid hseq hpend
  have hfailed : (Ack.decodeLenient reply).outcome = .failed := by
    rw [Ack.outcome, hreply]
    rfl
  have hacknowledge : (packet.acknowledge bridge reply).Yields s
      (Ack.decodeLenient reply, .refunded) u := by
    simp only [Packet.acknowledge, yields_bind, yields_pure, Table.yields_put, hfailed]
    exact ⟨(), _, ⟨Key.fits_lastAck, rfl⟩, p, _,
      Packet.yields_shipment.mpr ⟨hp', ⟨data, hdecode, hagrees⟩, rfl⟩, _, u, hsettle, rfl, rfl⟩
  refine ⟨_, u,
    Turn.take_eq_ok_iff.mpr (yields_map.mpr ⟨_, Packet.yields_report hacknowledge, rfl⟩),
    ?_, hdoes⟩
  simp

variable (hbefore : ∀ y ∈ p.tokens, before.token? p.classId y.1 = some ⟨p.sender, y.2⟩)
include hbefore

/-- A packet that came too late gives its tokens back. -/
theorem givesBack_timedOut (now : UInt64) :
    Turn.GivesBack bridge ⟨now, .timedOut packet⟩ before s p := by
  obtain ⟨r, u, htake, hresult, hdoes⟩ := h.exists_take_timedOut hs hp hpend hdecode hagrees now
  exact ⟨r, u, htake, hresult, h.restores hdoes hbefore⟩

/-- A packet that was not taken gives its tokens back. -/
theorem givesBack_acknowledged (now : UInt64) {reply : Bytes}
    (hreply : (Ack.decodeLenient reply).isSuccess = false) :
    Turn.GivesBack bridge ⟨now, .acknowledged packet reply⟩ before s p := by
  obtain ⟨r, u, htake, hresult, hdoes⟩ :=
    h.exists_take_acknowledged hs hp hpend hdecode hagrees now hreply
  exact ⟨r, u, htake, hresult, h.keep_lastAck.restores hdoes hbefore⟩

end

end Shipment.Redeemable

end TokenBridge
