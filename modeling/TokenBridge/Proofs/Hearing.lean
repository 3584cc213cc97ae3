import TokenBridge.Proofs.Codec
import TokenBridge.Proofs.Framing
import TokenBridge.Proofs.Network

/-!
# What the sender of a packet hears

A packet is taken on one chain, and whether its send stands is decided on another
one. All that passes between the two is a short text, the answer. This module shows
that nothing is lost on that way (`Packet.answers_understood`): the sender reads the
very answer that was written, it keeps the send exactly if the packet was applied, and
if it was not, it notes the reason in the words of the receiver. A text that is no
answer is never taken for a success.

That an answer is read back is a matter of its written form (`Ack.decode_encode`).
That the sender notes it, whatever becomes of the packet after that, is not: the
record may be missing, or about other tokens, and the refund may fail halfway. It
holds because settling a packet never goes to the place where the last answer is
noted (`Shipment.avoids_settle`), so what is noted first is there in the end.
-/

namespace TokenBridge

open Program Store

namespace Packet

variable {context : Context} {bridge : Address} {packet : Packet} {data : Bytes}
  {s u : Store Entry}

/-! ## The sender -/

/-- **What the sender of a packet makes of a text**: it takes it for an answer, by
which it chooses an outcome. -/
structure Hears (bridge : Address) (packet : Packet) (data : Bytes) (ack : Ack)
    (outcome : Outcome) (s : Store Entry) : Prop where
  /-- The answer is noted, also if the packet cannot be settled. -/
  noted : Table.lastAck.view ((packet.acknowledge bridge data).run s).2 () = some ack
  /-- The packet is settled if it is known, and the outcome decides how. -/
  settled : ∀ {heard settlement u}, (packet.acknowledge bridge data).Yields s (heard, settlement) u
    ↔ heard = ack ∧ ∃ p, packet.shipment.Yields s p s
      ∧ (p.settle bridge outcome).Yields (s.keep .lastAck (.lastAck ack)) settlement u

/-- **The sender hears what it reads**, and chooses the outcome by it. -/
theorem hears_decodeLenient (bridge : Address) (packet : Packet) (data : Bytes)
    (s : Store Entry) : packet.Hears bridge data (Ack.decodeLenient data)
      (Ack.decodeLenient data).outcome s := by
  let ack : Ack := Ack.decodeLenient data
  have hk : ¬ Key.lastAck.Settling := not_false
  have hput : (Table.lastAck.put () ack).Yields s () (s.keep .lastAck (.lastAck ack)) :=
    Table.yields_put.mpr ⟨Key.fits_lastAck, rfl⟩
  constructor
  case noted =>
    have hrest : Bridge.Avoids .lastAck (packet.shipment >>= fun p =>
        p.settle bridge ack.outcome >>= fun settlement => pure (ack, settlement)) :=
      (avoids_shipment hk).bind fun p =>
        (Shipment.avoids_settle hk).bind fun settlement => Bridge.avoids_pure
    have hrun : ((packet.acknowledge bridge data).run s).2
        = (((packet.shipment >>= fun p => p.settle bridge ack.outcome >>= fun settlement =>
          pure (ack, settlement)).run s).2).keep .lastAck (.lastAck ack) := by
      rw [acknowledge, run_bind, hput]
      exact congrArg Prod.snd (hrest.run_keep s)
    rw [hrun, Table.view_keep Key.fits_lastAck,
      if_pos (show Table.lastAck.key () = .lastAck from rfl)]
    exact Table.lastAck.record?_entry ack
  case settled =>
    intro heard settlement u
    have hshipment {p : Shipment} {m : Store Entry} :
        packet.shipment.Yields (s.keep .lastAck (.lastAck ack)) p m
          ↔ packet.shipment.Yields s p s ∧ m = s.keep .lastAck (.lastAck ack) := by
      rw [(avoids_shipment hk).yields_keep_iff]
      constructor
      · rintro ⟨m', hm', rfl⟩
        obtain rfl : m' = s := (yields_shipment.mp hm').2.2
        exact ⟨hm', rfl⟩
      · rintro ⟨hp, rfl⟩
        exact ⟨s, hp, rfl⟩
    simp only [acknowledge, yields_bind, yields_pure, Prod.mk.injEq]
    constructor
    · rintro ⟨_, m, hm, p, m', hp, _, _, hsettle, ⟨rfl, rfl⟩, rfl⟩
      obtain ⟨-, rfl⟩ := hput.unique hm
      obtain ⟨hfound, rfl⟩ := hshipment.mp hp
      exact ⟨rfl, p, hfound, hsettle⟩
    · rintro ⟨rfl, p, hp, hsettle⟩
      exact ⟨(), _, hput, p, _, hshipment.mpr ⟨hp, rfl⟩, settlement, u, hsettle, ⟨rfl, rfl⟩, rfl⟩

/-! ## The receiver -/

/-- **The answer says what became of the packet**: it was taken, or it was refused for
the reason that is given. -/
theorem ack_of_yields_arrived {receipt : Receipt}
    (h : (packet.arrived context).Yields s receipt u) :
    receipt.ack = .success ∧ (∃ received, (packet.receive context).Yields s received u)
      ∨ ∃ fault, receipt.ack = .error fault.message
        ∧ (packet.receive context).Fails s (.error fault) u := by
  simp only [arrived, yields_bind] at h
  obtain ⟨r, m, hr, h⟩ := h
  rw [yields_attempt (Bridge.accepted _ _)] at hr
  split at h
  · next received =>
    obtain ⟨rfl, rfl⟩ := yields_pure.mp h
    exact .inl ⟨rfl, received, hr⟩
  · next fault =>
    obtain ⟨rfl, rfl⟩ := yields_pure.mp h
    exact .inr ⟨fault, rfl, hr⟩
  · exact absurd h yields_abort

/-! ## Both -/

/-- **Answers survive the way between two chains, and are never confused.** Every
answer that is written is read back, also by the sender, who takes every text that
cannot be read for an error. Thus a packet that is answered by its receiver has
an outcome: it is delivered exactly if the receiver took it, and it has failed
exactly if the receiver refused it, for a reason that the answer gives. When the
answer is handed to any sender about any packet, that is the outcome by which it
settles the packet, and the answer is what it notes. -/
theorem answers_understood :
    (∀ a : Ack, Ack.decode a.encode = .ok a ∧ Ack.decodeLenient a.encode = a)
      ∧ (∀ data : Bytes, (∀ a, Ack.decode data ≠ .ok a) →
        ∃ message, Ack.decodeLenient data = .error message)
      ∧ ∀ {context : Context} {packet : Packet} {s u : Store Entry} {receipt : Receipt},
        (packet.arrived context).Yields s receipt u →
          ∃ outcome : Outcome,
            (outcome = .delivered ↔ ∃ received, (packet.receive context).Yields s received u)
            ∧ (outcome = .failed ↔ ∃ fault, receipt.ack = .error fault.message
              ∧ (packet.receive context).Fails s (.error fault) u)
            ∧ ∀ (bridge : Address) (original : Packet) (m : Store Entry),
              original.Hears bridge receipt.ack.encode receipt.ack outcome m := by
  refine ⟨fun a => ⟨a.decode_encode, a.decodeLenient_encode⟩, fun data hdata => ?_, ?_⟩
  · cases hdecode : Ack.decode data with
    | ok a => exact absurd hdecode (hdata a)
    | error unreadable => exact ⟨_, by rw [Ack.decodeLenient, hdecode]⟩
  · intro context packet s u receipt h
    refine ⟨receipt.ack.outcome, ?_, ?_, fun bridge original m => ?_⟩
    · obtain ⟨hack, hreceived⟩ | ⟨fault, hack, hfails⟩ := ack_of_yields_arrived h
      · exact iff_of_true (by rw [hack]; rfl) hreceived
      · refine iff_of_false (fun heq => ?_) ?_
        · rw [hack] at heq
          cases heq
        · rintro ⟨received, hreceived⟩
          exact hreceived.not_fails hfails
    · obtain ⟨hack, received, hreceived⟩ | ⟨fault, hack, hfails⟩ := ack_of_yields_arrived h
      · refine iff_of_false (fun heq => ?_) ?_
        · rw [hack] at heq
          cases heq
        · rintro ⟨fault, -, hfails⟩
          exact hreceived.not_fails hfails
      · exact iff_of_true (by rw [hack]; rfl) ⟨fault, hack, hfails⟩
    · have hhears := hears_decodeLenient bridge original receipt.ack.encode m
      rwa [Ack.decodeLenient_encode] at hhears

/-- Bob's bridge takes the first packet, and the send of it stands. It refuses the packet
on a channel that it does not know, and Alice's bridge notes that name as it is, with its
quotes and backslashes. -/
theorem answers_understood_firstPacket :
    (∃ receipt u, (firstPacket.arrived ⟨island, 5⟩).Yields (shore .right) receipt u
        ∧ firstPacket.Hears harbor receipt.ack.encode receipt.ack .delivered
          (storeAfter harbor firstVoyage))
      ∧ Table.lastAck.view ((firstPacket.acknowledge harbor
          (Ack.error "Unknown channel: \"7\\").encode).run (storeAfter harbor firstVoyage)).2 ()
            = some (.error "Unknown channel: \"7\\") := by
  obtain ⟨-, -, hanswered⟩ := answers_understood
  constructor
  · obtain ⟨u, hreceived⟩ : ∃ u, (firstPacket.receive ⟨island, 5⟩).Yields (shore .right)
        ⟨"wasm.island/channel-7/art", .minted, "bob", 1, true⟩ u :=
      exists_yields_of_toOption (by decide +kernel)
    have harrived : (firstPacket.arrived ⟨island, 5⟩).Yields (shore .right) _ u :=
      yields_bind.mpr ⟨.ok _, u, (yields_attempt (Bridge.accepted _ _)).mpr hreceived,
        yields_pure.mpr ⟨rfl, rfl⟩⟩
    obtain ⟨outcome, hdelivered, -, hhears⟩ := hanswered harrived
    obtain rfl := hdelivered.mpr ⟨_, hreceived⟩
    exact ⟨_, u, harrived, hhears harbor firstPacket _⟩
  · let stray : Packet := { firstPacket with destination := ⟨"wasm.island", "\"7\\"⟩ }
    obtain ⟨u, hrefused⟩ : ∃ u, (stray.arrived ⟨island, 5⟩).Yields (shore .right)
        ⟨.error "Unknown channel: \"7\\",
          stray.arrivalAttributes ++ [("error", "Unknown channel: \"7\\")]⟩ u :=
      exists_yields_of_toOption (by decide +kernel)
    obtain ⟨outcome, -, -, hhears⟩ := hanswered hrefused
    exact (hhears harbor firstPacket _).noted

end Packet

end TokenBridge
