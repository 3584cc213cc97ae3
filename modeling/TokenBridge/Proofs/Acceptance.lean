import TokenBridge.Proofs.Answering
import TokenBridge.Proofs.Redeeming

/-!
# What succeeds

The other modules say what a call has done if it succeeds. This one says when
it does: what a bridge needs to send tokens (`SendOrder.Admitted.exists_run`), to
take a packet that brings tokens home or one that is new to it
(`Packet.Admitted.exists_arrived_home`, `Packet.Admitted.exists_arrived_new`),
and to take the acknowledgement of a packet that was delivered
(`Packet.exists_acknowledged`). Each is a list of facts about the store, and none
of them says that some other call has failed or has succeeded before.
-/

namespace TokenBridge

open Program Store

variable {s u : Store Entry} {bridge : Address} {context : Context}

/-! ## Sending -/

/-- A timeout is in range if it is a positive number of seconds, and not more than
there may be. -/
theorem checkTimeout_eq_ok_iff {seconds : UInt64} :
    checkTimeout seconds = .ok () ↔ 1 ≤ seconds ∧ seconds ≤ maxTimeout := by
  have hpos : 1 ≤ seconds ↔ seconds ≠ 0 := by
    rw [UInt64.le_iff_toNat_le, ne_eq, ← UInt64.toNat_inj]
    exact Nat.one_le_iff_ne_zero
  rw [checkTimeout, hpos, ← UInt64.not_lt]
  split <;> grind

namespace SendOrder

variable {order : SendOrder} {sender : Address} {tokenIds seen : List String}

theorem checkDistinct_eq_ok_iff :
    checkDistinct seen tokenIds = .ok ()
      ↔ tokenIds.Nodup ∧ ∀ tokenId ∈ tokenIds, tokenId ∉ seen := by
  induction tokenIds generalizing seen with
  | nil => simp [checkDistinct]
  | cons tokenId rest ih =>
    rw [checkDistinct, nodup_unseen_cons_iff]
    split
    · simp [*]
    · rw [ih]
      simp [*]

/-- **Tokens may be sent** if there are some, and none of them twice. -/
theorem checkTokens_eq_ok_iff : checkTokens tokenIds = .ok () ↔ tokenIds ≠ [] ∧ tokenIds.Nodup := by
  unfold checkTokens
  split
  · simp [*]
  · simp [checkDistinct_eq_ok_iff, *]

/-- A deadline is the time of the call and as many seconds more, and is not given
if that cannot be written. -/
theorem deadlineAfter_eq_ok_iff {now seconds deadline : UInt64} :
    deadlineAfter now seconds = .ok deadline
      ↔ deadline.toNat = now.toNat + seconds.toNat * 1000000000 := by
  have hlt := deadline.toNat_lt
  simp only [deadlineAfter]
  split
  · next hroom =>
    rw [Except.ok.injEq, ← UInt64.toNat_inj, eq_comm, UInt64.toNat_ofNat_of_lt' hroom]
  · next hroom =>
    refine ⟨nofun, fun heq => absurd ?_ hroom⟩
    rw [← heq]
    exact hlt

/-- How many seconds a packet may take: as many as its order says, or as many as
any packet if it does not say. -/
def seconds (order : SendOrder) (settings : Settings) : UInt64 :=
  order.timeout.getD settings.defaultTimeout

/-- **What a bridge asks of an order**, and of its settings, the channel and the
class to which the order leads. -/
structure Sendable (order : SendOrder) (sender : Address) (now : UInt64) (settings : Settings)
    (channel : Channel) (c : TokenClass) (s : Store Entry) : Prop where
  /-- These are the settings, -/
  configured : s.settings? = some settings
  /-- and the bridge is not paused. -/
  running : settings.paused = false
  /-- This is the channel, -/
  joined : s.channel? order.channel = some channel
  /-- it is open, -/
  opened : channel.phase = .opened
  /-- and it has a number left. -/
  room : channel.nextSequence.toNat + 1 < UInt64.size
  /-- There are tokens to be sent, -/
  nonempty : order.tokenIds ≠ []
  /-- and none of them twice. -/
  nodup : order.tokenIds.Nodup
  /-- The packet may take a while, but not too long. -/
  inRange : 1 ≤ order.seconds settings ∧ order.seconds settings ≤ maxTimeout
  /-- Its deadline can be written. -/
  timely : now.toNat + (order.seconds settings).toNat * 1000000000 < UInt64.size
  /-- This is the class of the tokens, -/
  known : s.class? order.classId = some c
  /-- and they are in the hands of the sender. -/
  owned : ∀ tokenId ∈ order.tokenIds, ∃ uri, s.token? order.classId tokenId = some ⟨sender, uri⟩

/-- **Whether an order is given in time**: the packet may take as long as it
says, and its deadline can be written. -/
def Timely (order : SendOrder) (now : UInt64) (s : Store Entry) : Prop :=
  ∃ settings deadline, s.settings? = some settings
    ∧ checkTimeout (order.timeout.getD settings.defaultTimeout) = .ok ()
    ∧ deadlineAfter now (order.timeout.getD settings.defaultTimeout) = .ok deadline

/-- **What it takes for tokens to be sent.** -/
structure Admitted (order : SendOrder) (sender : Address) (now : UInt64) (s : Store Entry) :
    Prop where
  /-- The bridge is not paused. -/
  running : ∃ settings, s.settings? = some settings ∧ settings.paused = false
  /-- The packet gets a deadline. -/
  timely : order.Timely now s
  /-- The channel is open and has a number left. -/
  opened : ∃ channel, s.channel? order.channel = some channel ∧ channel.phase = .opened
    ∧ channel.nextSequence.toNat + 1 < UInt64.size
  /-- The name of the channel fits in the key of a packet. -/
  short : (Bytes.ofText order.channel).length < UInt16.size
  /-- There are tokens, and none of them twice. -/
  checked : checkTokens order.tokenIds = .ok ()
  /-- Their class is known. -/
  known : ∃ c, s.class? order.classId = some c
  /-- They are in the hands of the sender. -/
  owned : ∀ tokenId ∈ order.tokenIds, ∃ uri, s.token? order.classId tokenId = some ⟨sender, uri⟩
  /-- They are not deposited. -/
  free : ∀ tokenId ∈ order.tokenIds, s.deposit? order.classId tokenId = none

/-- **An order is carried out** if the bridge has no objection to it, the name of
the channel fits in the key of a packet, and none of the tokens is deposited
already that are to be deposited. -/
theorem Sendable.exists_run {settings : Settings} {channel : Channel} {c : TokenClass}
    (h : order.Sendable sender context.now settings channel c s)
    (hshort : (Bytes.ofText order.channel).length < UInt16.size)
    (hfree : custodyOf c order.channel = .escrowed →
      ∀ tokenId ∈ order.tokenIds, s.deposit? order.classId tokenId = none) :
    ∃ sent u, (order.run context sender).Yields s sent u := by
  obtain ⟨tokens, m, htokens⟩ := Surrendered.exists_yields context.bridge
    (custodyOf c order.channel) order.channel h.nodup h.owned hfree
  obtain ⟨deadline, hdeadline⟩ : ∃ deadline,
      deadlineAfter context.now (order.seconds settings) = .ok deadline :=
    ⟨_, if_pos h.timely⟩
  have htimeout : checkTimeout (order.seconds settings) = .ok () :=
    checkTimeout_eq_ok_iff.mpr h.inRange
  have hroom : channel.nextSequence.toNat + 1 ≠ UInt64.size :=
    Nat.ne_of_lt h.room
  have hk : (Key.shipment order.channel channel.nextSequence).Fits :=
    Key.fits_shipment_iff.mpr hshort
  have hk' : (Key.pending order.channel channel.nextSequence).Fits :=
    Key.fits_pending_iff.mpr hshort
  simp only [run, yields_bind, Settings.yields_load, yields_guard, Channel.yields_findOpen,
    yields_ofExcept, TokenClass.yields_find, Channel.yields_takeSequence, Shipment.keep,
    Shipment.mark, Table.yields_put, yields_pure]
  exact ⟨_, _, settings, s, ⟨h.configured, rfl⟩, by simp [h.running], channel, s,
    ⟨h.joined, h.opened, rfl⟩, (), s, ⟨checkTokens_eq_ok_iff.mpr ⟨h.nonempty, h.nodup⟩, rfl⟩, (), s,
    ⟨htimeout, rfl⟩, c, s, ⟨h.known, rfl⟩, tokens, m, htokens, _, _, ⟨hroom, rfl, rfl⟩, deadline, _,
    ⟨hdeadline, rfl⟩, (), _, ⟨hk, rfl⟩, (), _, ⟨hk', rfl⟩, rfl, rfl⟩

/-- **An order that is admitted is carried out.** -/
theorem Admitted.exists_run (h : order.Admitted sender context.now s) :
    ∃ sent u, (order.run context sender).Yields s sent u := by
  obtain ⟨settings, hs, hpaused⟩ := h.running
  obtain ⟨settings', deadline, hs', htimeout, hdeadline⟩ := h.timely
  obtain rfl : settings = settings' := Option.some.inj (hs.symm.trans hs')
  obtain ⟨channel, hc, hopen, hroom⟩ := h.opened
  obtain ⟨c, hclass⟩ := h.known
  obtain ⟨hne, hnodup⟩ := checkTokens_eq_ok_iff.mp h.checked
  have hsendable : order.Sendable sender context.now settings channel c s :=
    { configured := hs, running := hpaused, joined := hc, opened := hopen
      room := hroom
      nonempty := hne, nodup := hnodup
      inRange := checkTimeout_eq_ok_iff.mp htimeout
      timely := deadlineAfter_eq_ok_iff.mp hdeadline ▸ deadline.toNat_lt_size
      known := hclass, owned := h.owned }
  exact hsendable.exists_run h.short fun _ => h.free

end SendOrder

/-! ## Packets that arrive -/

namespace Packet

variable {packet : Packet} {data : PacketData} {home : String}

namespace Admitted

/-- A packet that is admitted is taken if its tokens can be delivered. -/
theorem exists_arrived {found : Option String} {received : Received}
    (hp : packet.Admitted data s) (hname : data.classId ≠ "")
    (hhome : (packet.home? data.classId data.tokenIds).Yields s found s)
    (h : (packet.deliver context data found).Yields s received u) :
    ∃ receipt u, (packet.arrived context).Yields s receipt u ∧ receipt.ack = .success := by
  have hcheck : packet.checkEnvelope = .ok () := by
    rw [checkEnvelope, hp.decoded]
    exact if_neg hname
  have happly : (packet.apply context).Yields s received u := by
    rw [Yields, hp.run_apply]
    exact yields_bind.mpr ⟨found, s, hhome, h⟩
  have hreceive : (packet.receive context).Yields s received u :=
    yields_bind.mpr ⟨(), s, yields_ofExcept.mpr ⟨hcheck, rfl⟩,
      (yields_transactional (Bridge.accepted _ _)).mpr happly⟩
  refine ⟨_, u, yields_bind.mpr ⟨.ok received, u,
    (yields_attempt (Bridge.accepted _ _)).mpr hreceive, yields_pure.mpr ⟨rfl, rfl⟩⟩, rfl⟩

/-- **A packet that brings tokens home is taken**, if each of them is in the
hands of the bridge and deposited for the channel on which it arrives. -/
theorem exists_arrived_home (context : Context) (hp : packet.Admitted data s)
    (hname : data.classId ≠ "")
    (hclass : data.classId = packet.source.extend home)
    (hkept : ∀ tokenId ∈ data.tokenIds, ∃ uri deposit,
      s.token? home tokenId = some ⟨context.bridge, uri⟩
        ∧ s.deposit? home tokenId = some deposit
        ∧ deposit.channel = packet.destination.channel) :
    ∃ receipt u, (packet.arrived context).Yields s receipt u ∧ receipt.ack = .success := by
  have hne := (PacketData.of_validate hp.valid).1
  have hhome : (packet.home? data.classId data.tokenIds).Yields s (some home) s := by
    refine yields_home? hne (fun origin hstrip => ?_) fun tokenId hmem => ?_
    · rw [hclass, Endpoint.strip?_extend] at hstrip
      obtain rfl := Option.some.inj hstrip
      obtain ⟨tokenId, hmem⟩ := List.exists_mem_of_ne_nil _ hne
      obtain ⟨uri, deposit, ht, -⟩ := hkept tokenId hmem
      exact Key.fits_token_iff.mp (Table.fits_of_view ht)
    · obtain ⟨uri, deposit, -, hdeposit⟩ := hkept tokenId hmem
      exact homeOf?_eq_some_iff.mpr ⟨hclass, deposit, hdeposit⟩
  obtain ⟨u, hu⟩ := Released.exists_yields data.receiver
    (PacketData.nodup_of_validate hp.valid) hkept
  have hrelease : (packet.release context data data.receiver home).Yields s _ u :=
    yields_bind.mpr ⟨(), u, hu, yields_pure.mpr ⟨rfl, rfl⟩⟩
  exact hp.exists_arrived hname hhome hrelease

/-- **A packet that brings new tokens is taken**, if their class has a name on
this side that fits and none of them is there already. -/
theorem exists_arrived_new (context : Context) (hp : packet.Admitted data s)
    (hname : data.classId ≠ "")
    (hnamed : ∀ {id c}, s.class? id = some c → c.id = id)
    (hshort : (Bytes.ofText (packet.destination.extend data.classId)).length < UInt16.size)
    (hnew : ∀ tokenId ∈ data.tokenIds,
      s.homeOf? packet.source packet.destination.channel data.classId tokenId = none)
    (habsent : ∀ tokenId ∈ data.tokenIds,
      s.token? (packet.destination.extend data.classId) tokenId = none) :
    ∃ receipt u, (packet.arrived context).Yields s receipt u ∧ receipt.ack = .success := by
  obtain ⟨hne, hlength⟩ := PacketData.of_validate hp.valid
  have hhome : (packet.home? data.classId data.tokenIds).Yields s none s := by
    refine yields_home? hne (fun origin hstrip => ?_) hnew
    -- the name is shorter without the trail of its source
    rw [Endpoint.strip?_eq_some_iff.mp hstrip, Endpoint.length_extend,
      Endpoint.length_extend] at hshort
    omega
  obtain ⟨c, created, m, hfound, hid⟩ :=
    TokenClass.exists_yields_findOrCreate context.bridge packet.destination data.classId
      data.classUri hnamed
  have hsame (tokenId : String) : m.token? c.id tokenId = s.token? c.id tokenId := by
    obtain ⟨-, rfl | hwrapped⟩ := TokenClass.found_or_wrapped hfound
    · rfl
    · exact hwrapped.view_eq _ (by simp [Deed.Touches, Deed.Concerns])
  have hnodup : (data.tokens.map Prod.fst).Nodup := by
    rw [PacketData.tokens, List.map_fst_zip (Nat.le_of_eq hlength.symm)]
    exact PacketData.nodup_of_validate hp.valid
  have hfree : ∀ x ∈ data.tokens, (Key.token c.id x.1).Fits ∧ m.token? c.id x.1 = none := by
    refine fun x hx => ⟨Key.fits_token_iff.mpr (hid ▸ hshort), ?_⟩
    rw [hsame, hid]
    exact habsent _ (List.of_mem_zip hx).1
  obtain ⟨u, hu⟩ := Minted.exists_yields data.receiver hnodup hfree
  have hmint : (packet.mint context data data.receiver).Yields s _ u :=
    yields_bind.mpr ⟨_, m, hfound, yields_bind.mpr ⟨(), u, hu, yields_pure.mpr ⟨rfl, rfl⟩⟩⟩
  exact hp.exists_arrived hname hhome hmint

end Admitted

/-! ## Packets that come back -/

/-- **The acknowledgement of a packet that was delivered is taken.** -/
theorem exists_acknowledged (context : Context) (hs : Sound s) {p : Shipment}
    (hp : s.shipment? packet.source.channel packet.sequence = some p)
    (hdecode : PacketData.decode packet.data = .ok data) (hagrees : p.agreesWith data) :
    ∃ r u, (packet.acknowledged context Ack.success.encode).Yields s r u := by
  obtain ⟨hid, hseq, -⟩ := hs.filed hp
  have hk : (Key.shipment p.channel p.sequence).Fits := by
    rw [hid, hseq]
    exact Table.fits_of_view hp
  have hk' : (Key.pending p.channel p.sequence).Fits :=
    Key.fits_pending_iff.mpr (Key.fits_shipment_iff.mp hk)
  have hp' : (s.keep .lastAck (.lastAck .success)).shipment? packet.source.channel packet.sequence
      = some p := by
    simpa [Table.view_keep Key.fits_lastAck] using hp
  obtain ⟨settlement, u, hsettle⟩ : ∃ settlement u,
      (p.settle context.bridge .delivered).Yields (s.keep .lastAck (.lastAck .success))
        settlement u := by
    rw [Shipment.settle]
    split
    · exact ⟨_, _, yields_pure.mpr ⟨rfl, rfl⟩⟩
    · next status hafter =>
      have hne : status ≠ .refunded := by
        rintro rfl
        revert hafter
        cases p.status <;> simp [Status.after?]
      simp only [if_neg hne, yields_bind, Shipment.keep, Table.yields_put, Table.yields_erase,
        yields_pure]
      exact ⟨_, _, (), _, ⟨hk, rfl⟩, (), _, ⟨hk', rfl⟩, rfl, rfl⟩
  have hacknowledge : (packet.acknowledge context.bridge Ack.success.encode).Yields s
      (.success, settlement) u := by
    simp only [acknowledge, Ack.decodeLenient_encode, yields_bind, Table.yields_put, yields_pure]
    exact ⟨(), _, ⟨Key.fits_lastAck, rfl⟩, p, _,
      yields_shipment.mpr ⟨hp', ⟨data, hdecode, hagrees⟩, rfl⟩, settlement, u, hsettle, rfl, rfl⟩
  exact ⟨_, u, yields_report hacknowledge⟩

end Packet

end TokenBridge
