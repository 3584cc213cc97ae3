import TokenBridge.Proofs.Acceptance
import TokenBridge.Proofs.Register

/-!
# Tokens that arrive

A packet that arrives brings tokens of one class. Either all of them come home, or
all of them are new, and anything in between is turned away: a packet in which one
token is deposited here for the channel and another one is not
(`Packet.ComesHome`, `Packet.IsNew`). It does not matter where in the packet the odd
token stands, although the tokens are delivered one after another.

This module says exactly which packets are taken, and exactly what each of them
does (`Turn.arrival_exact`). That a packet is taken whose tokens come home has one
reason that the packet does not show: whatever is deposited is in the hands of the
bridge, so that no release fails midway.
-/

namespace TokenBridge

open Program Store

variable {bridge : Address} {s u : Store Entry} {context : Context} {packet : Packet}
  {data : PacketData} {home : String}

namespace Packet

/-! ## Which packets are taken -/

/-- **Whether all tokens of a packet come home** to a class: they left this chain
over the channel on which the packet arrives, and they are deposited for it. -/
def ComesHome (packet : Packet) (data : PacketData) (home : String) (s : Store Entry) : Prop :=
  data.classId = packet.source.extend home
    ∧ ∀ tokenId ∈ data.tokenIds, ∃ deposit, s.deposit? home tokenId = some deposit
      ∧ deposit.channel = packet.destination.channel

/-- **Whether all tokens of a packet are new** to this chain: none of them comes
home, and none of them is here under the name that its class has on this side. -/
def IsNew (packet : Packet) (data : PacketData) (s : Store Entry) : Prop :=
  (∀ home, data.classId = packet.source.extend home → ∀ tokenId ∈ data.tokenIds,
      ¬ ∃ deposit, s.deposit? home tokenId = some deposit
        ∧ deposit.channel = packet.destination.channel)
    ∧ ∀ tokenId ∈ data.tokenIds,
      s.token? (packet.destination.extend data.classId) tokenId = none

/-- The tokens of a packet come home if each of them does. -/
theorem comesHome_iff (hne : data.tokenIds ≠ []) :
    packet.ComesHome data home s
      ↔ ∀ tokenId ∈ data.tokenIds, s.homeOf? packet.source packet.destination.channel
        data.classId tokenId = some home := by
  simp only [homeOf?_eq_some_iff]
  constructor
  · rintro ⟨hclass, hdeposited⟩ tokenId hmem
    exact ⟨hclass, hdeposited tokenId hmem⟩
  · intro h
    obtain ⟨tokenId, hmem⟩ := List.exists_mem_of_ne_nil _ hne
    exact ⟨(h tokenId hmem).1, fun tokenId hmem => (h tokenId hmem).2⟩

/-- The tokens of a packet are new if none of them comes home or is here. -/
theorem isNew_iff :
    packet.IsNew data s
      ↔ (∀ tokenId ∈ data.tokenIds, s.homeOf? packet.source packet.destination.channel
          data.classId tokenId = none)
        ∧ ∀ tokenId ∈ data.tokenIds,
          s.token? (packet.destination.extend data.classId) tokenId = none := by
  refine and_congr_left fun _ => ?_
  simp only [Option.eq_none_iff_forall_ne_some, ne_eq, homeOf?_eq_some_iff]
  constructor
  · intro h tokenId hmem home hhome
    exact h home hhome.1 tokenId hmem hhome.2
  · intro h home hclass tokenId hmem hdeposited
    exact h tokenId hmem home ⟨hclass, hdeposited⟩

/-! ## What they do -/

/-- **What a packet does that brings new tokens.** -/
structure Issues (packet : Packet) (bridge : Address) (data : PacketData) (s u : Store Entry) :
    Prop where
  /-- Each of them is there, in the hands of the receiver and with its metadata. -/
  made : data.tokenIds.map (u.token? (packet.destination.extend data.classId) ·)
    = data.tokenUris.map fun uri => some ⟨data.receiver, uri⟩
  /-- Their class stays as it is if it is known, and is created if not: it has
  arrived over the channel, and the bridge mints its tokens. -/
  named : u.class? (packet.destination.extend data.classId)
    = some ((s.class? (packet.destination.extend data.classId)).getD
      (TokenClass.wrapper (packet.destination.extend data.classId) data.classUri
        packet.destination.channel bridge))
  /-- A class that is created is found by its collection as well. -/
  located : s.class? (packet.destination.extend data.classId) = none →
    u.classAt? (collectionAddress (packet.destination.extend data.classId))
      = some (packet.destination.extend data.classId)
  /-- Nothing else has changed. -/
  rest : ChangedOnly (fun k =>
      (∃ tokenId ∈ data.tokenIds,
        k = .token (packet.destination.extend data.classId) tokenId)
      ∨ s.class? (packet.destination.extend data.classId) = none
        ∧ (k = .tokenClass (packet.destination.extend data.classId)
          ∨ k = .collection (collectionAddress (packet.destination.extend data.classId)))) s u

/-- The class of a packet is there after it has been looked up, and nothing else has
changed. -/
theorem classed_of_findOrCreate {classId channel : String} {uri : Option String} {c : TokenClass}
    {created : Bool} (hnamed : ∀ {id c}, s.class? id = some c → c.id = id)
    (h : (TokenClass.findOrCreate classId uri channel bridge).Yields s (c, created) u) :
    c.id = classId
      ∧ u.class? classId
        = some ((s.class? classId).getD (TokenClass.wrapper classId uri channel bridge))
      ∧ (s.class? classId = none → u.classAt? (collectionAddress classId) = some classId)
      ∧ ChangedOnly (fun k => s.class? classId = none
          ∧ (k = .tokenClass classId ∨ k = .collection (collectionAddress classId))) s u := by
  obtain ⟨hc, -, rfl⟩ | ⟨hnone, rfl, -, rfl⟩ := TokenClass.yields_findOrCreate.mp h
  · refine ⟨hnamed hc, ?_, fun hnone => ?_, .refl⟩
    · rw [hc]
      rfl
    · cases hnone.symm.trans hc
  · refine ⟨rfl, ?_, fun _ => ?_, changedOnly_withClass.mono fun k hk => ⟨hnone, hk⟩⟩
    · rw [hnone]
      exact class?_withClass.trans (if_pos rfl)
    · exact classAt?_withClass.trans (if_pos rfl)

/-- Tokens that are minted in the class of a packet have been issued, and none of
them was there. -/
theorem issues_of_minted {c : TokenClass} {created : Bool} {m : Store Entry}
    (hvalid : data.validate = .ok ()) (hnamed : ∀ {id c}, s.class? id = some c → c.id = id)
    (hfound : (TokenClass.findOrCreate (packet.destination.extend data.classId) data.classUri
      packet.destination.channel bridge).Yields s (c, created) m)
    (h : Minted c.id data.receiver data.tokens m u) :
    packet.Issues bridge data s u
      ∧ ∀ tokenId ∈ data.tokenIds,
        s.token? (packet.destination.extend data.classId) tokenId = none := by
  obtain ⟨hid, hclass, hlocated, hchanged⟩ := classed_of_findOrCreate hnamed hfound
  obtain ⟨-, hlength⟩ := PacketData.of_validate hvalid
  rw [hid] at h
  have hids : data.tokens.map Prod.fst = data.tokenIds :=
    List.map_fst_zip (Nat.le_of_eq hlength.symm)
  have huris : data.tokens.map Prod.snd = data.tokenUris := List.map_snd_zip (Nat.le_of_eq hlength)
  have hlisted {tokenId : String} : tokenId ∈ data.tokenIds ↔ ∃ x ∈ data.tokens, x.1 = tokenId := by
    rw [← hids, List.mem_map]
  constructor
  · constructor
    case made =>
      rw [← hids, ← huris, List.map_map, List.map_map]
      exact List.map_congr_left fun x hx => h.made x hx
    case named => exact (Table.view_of_changedOnly h.rest Table.classes (by simp)).trans hclass
    case located =>
      intro hnone
      exact (Table.view_of_changedOnly h.rest Table.collections (by simp)).trans (hlocated hnone)
    case rest =>
      refine .trans (hchanged.mono fun k => .inr) (h.rest.mono fun k => ?_)
      rintro ⟨x, hx, heq⟩
      exact .inl ⟨x.1, hlisted.mpr ⟨x, hx, rfl⟩, heq⟩
  · intro tokenId hmem
    obtain ⟨x, hx, rfl⟩ := hlisted.mp hmem
    exact (Table.view_of_changedOnly hchanged Table.tokens (by simp)).symm.trans (h.absent x hx)

/-! ## Packets that are taken -/

/-- A packet that is taken was one whose tokens are looked at. -/
theorem admitted_of_yields_apply {received : Received}
    (h : (packet.apply context).Yields s received u) : ∃ data, packet.Admitted data s := by
  simp only [apply, yields_bind, Settings.yields_load, yields_guard, Channel.yields_findOpen,
    yields_ofExcept, mapError_eq_ok] at h
  obtain ⟨settings, _, ⟨hs, rfl⟩, hpaused, channel, _, ⟨hc, hopen, rfl⟩, data, _, ⟨hdecode, rfl⟩,
    _, _, ⟨hvalid, rfl⟩, receiver, _, ⟨hreceiver, rfl⟩, -⟩ := h
  obtain rfl := Address.eq_of_ofText hreceiver
  exact ⟨data, ⟨settings, hs, by simpa using hpaused⟩, ⟨channel, hc, hopen⟩, hdecode, hvalid,
    hreceiver⟩

/-- **What a packet does that is taken**: its tokens come home and are released, or
they are new and are issued. -/
theorem Admitted.of_yields_apply {received : Received} (hp : packet.Admitted data s)
    (hnamed : ∀ {id c}, s.class? id = some c → c.id = id)
    (h : (packet.apply context).Yields s received u) :
    (∃ home, packet.ComesHome data home s
        ∧ Released context.bridge home packet.destination.channel data.receiver data.tokenIds s u)
      ∨ packet.IsNew data s ∧ packet.Issues context.bridge data s u := by
  rw [Yields, hp.run_apply] at h
  obtain ⟨found, m, hhome, hdeliver⟩ := yields_bind.mp h
  obtain ⟨hall, rfl⟩ := of_yields_home? hhome
  cases found with
  | some home =>
    obtain ⟨_, _, hrelease, hu⟩ := yields_bind.mp hdeliver
    obtain ⟨-, rfl⟩ := yields_pure.mp hu
    refine .inl ⟨home, ?_, Released.of_yields hrelease⟩
    exact (comesHome_iff (PacketData.of_validate hp.valid).1).mpr hall
  | none =>
    obtain ⟨⟨c, created⟩, m', hfound, hissue⟩ := yields_bind.mp hdeliver
    obtain ⟨_, _, hmint, hu⟩ := yields_bind.mp hissue
    obtain ⟨-, rfl⟩ := yields_pure.mp hu
    obtain ⟨hissues, habsent⟩ := issues_of_minted hp.valid hnamed hfound (Minted.of_yields hmint)
    exact .inr ⟨isNew_iff.mpr ⟨hall, habsent⟩, hissues⟩

/-- **What a packet does that is not refused.** -/
theorem delivered_of_success {receipt : Receipt}
    (hnamed : ∀ {id c}, s.class? id = some c → c.id = id)
    (h : (packet.arrived context).Yields s receipt u) (hack : receipt.ack = .success) :
    ∃ data, packet.Admitted data s ∧ data.classId ≠ ""
      ∧ ((∃ home, packet.ComesHome data home s
          ∧ Released context.bridge home packet.destination.channel data.receiver data.tokenIds s u)
        ∨ packet.IsNew data s ∧ packet.Issues context.bridge data s u) := by
  obtain ⟨-, received, happly⟩ := applied_of_success h hack
  obtain ⟨data, hp⟩ := admitted_of_yields_apply happly
  exact ⟨data, hp, classId_ne_empty_of_arrived h hack hp.decoded, hp.of_yields_apply hnamed happly⟩

/-- **Which packets are taken**, in a store whose deposits are in the hands of the
bridge. -/
theorem exists_arrived_iff (context : Context) (hheld : Held context.bridge s)
    (hnamed : ∀ {id c}, s.class? id = some c → c.id = id)
    (hshort : ∀ data, PacketData.decode packet.data = .ok data →
      (Bytes.ofText (packet.destination.extend data.classId)).length < UInt16.size) :
    (∃ receipt u, (packet.arrived context).Yields s receipt u ∧ receipt.ack = .success)
      ↔ ∃ data, packet.Admitted data s ∧ data.classId ≠ ""
        ∧ ((∃ home, packet.ComesHome data home s) ∨ packet.IsNew data s) := by
  constructor
  · rintro ⟨receipt, u, harrived, hack⟩
    obtain ⟨data, hp, hname, hdelivered⟩ := delivered_of_success hnamed harrived hack
    exact ⟨data, hp, hname, hdelivered.imp (fun ⟨home, hcomes, _⟩ => ⟨home, hcomes⟩) And.left⟩
  · rintro ⟨data, hp, hname, ⟨home, hclass, hdeposited⟩ | hnew⟩
    · refine hp.exists_arrived_home context hname hclass fun tokenId hmem => ?_
      obtain ⟨deposit, hdeposit, hchannel⟩ := hdeposited tokenId hmem
      obtain ⟨uri, ht⟩ := hheld _ _ _ hdeposit
      exact ⟨uri, deposit, ht, hdeposit, hchannel⟩
    · obtain ⟨hnone, habsent⟩ := isNew_iff.mp hnew
      exact hp.exists_arrived_new context hname hnamed (hshort data hp.decoded) hnone habsent

end Packet

/-- **Exactly which packets are taken, and exactly what they do.** In every store
to which a bridge has come that is not called by itself, a packet is answered whose
class has a name on this side that is not too long. The answer is that it was
delivered if and only if the bridge is not paused, the packet arrives on an open
channel, its data can be read and makes sense, names a class and an account of this
chain, and its tokens all come home or are all new. Tokens that come home are
released to the receiver, tokens that are new are issued to the receiver, and
nothing else changes; and if the packet was not delivered, nothing changes at
all. -/
theorem Turn.arrival_exact {past : List Turn} (hpast : ∀ turn ∈ past, turn.call.NotBy bridge)
    (hshort : ∀ data, PacketData.decode packet.data = .ok data →
      (Bytes.ofText (packet.destination.extend data.classId)).length < UInt16.size)
    (now : UInt64) :
    ∃ receipt u, (⟨now, .arrived packet⟩ : Turn).take bridge (storeAfter bridge past)
        = (.ok (.receipt receipt), u)
      ∧ (receipt.ack = .success ↔ ∃ data, packet.Admitted data (storeAfter bridge past)
        ∧ data.classId ≠ ""
        ∧ ((∃ home, packet.ComesHome data home (storeAfter bridge past))
          ∨ packet.IsNew data (storeAfter bridge past)))
      ∧ (receipt.ack = .success → ∃ data, packet.Admitted data (storeAfter bridge past)
        ∧ ((∃ home, packet.ComesHome data home (storeAfter bridge past)
            ∧ Released bridge home packet.destination.channel data.receiver data.tokenIds
              (storeAfter bridge past) u)
          ∨ packet.IsNew data (storeAfter bridge past)
            ∧ packet.Issues bridge data (storeAfter bridge past) u))
      ∧ (receipt.ack ≠ .success → u = storeAfter bridge past) := by
  have hheld : Held bridge (storeAfter bridge past) := held_after hpast
  have hnamed {id : String} {c : TokenClass} : (storeAfter bridge past).class? id = some c →
      c.id = id := (classed_after past).named
  generalize storeAfter bridge past = s at hheld hnamed ⊢
  have hnot : ¬ ∃ e m, (packet.arrived ⟨bridge, now⟩).Fails s e m := by
    rintro ⟨e, m, hfails⟩
    obtain ⟨-, data, hp, -, hlong, -⟩ := (Packet.fails_arrived_iff hnamed).mp ⟨m, hfails⟩
    exact hlong (hshort data hp.decoded)
  obtain ⟨receipt, u, harrived⟩ := (yields_or_fails _ s).resolve_right hnot
  refine ⟨receipt, u, take_eq_ok_iff.mpr (yields_map.mpr ⟨receipt, harrived, rfl⟩), ?_, ?_, ?_⟩
  · refine .trans ?_ (Packet.exists_arrived_iff ⟨bridge, now⟩ hheld hnamed hshort)
    constructor
    · intro hack
      exact ⟨receipt, u, harrived, hack⟩
    · rintro ⟨receipt', u', harrived', hack⟩
      obtain ⟨rfl, -⟩ := harrived.unique harrived'
      exact hack
  · intro hack
    obtain ⟨data, hp, -, hdelivered⟩ := Packet.delivered_of_success hnamed harrived hack
    exact ⟨data, hp, hdelivered⟩
  · intro hack
    obtain ⟨-, hu⟩ | ⟨hsuccess, -⟩ := Packet.refused_or_applied harrived
    · exact hu
    · exact absurd hsuccess hack

/-! ## Tokens that come back -/

/-- What a packet says that brings tokens of the class back that Alice has
created. -/
def homewardData (tokenIds : List String) : PacketData :=
  { classId := "wasm.island/channel-7/art", classUri := none, tokenIds,
    tokenUris := tokenIds.map fun _ => none, sender := "bob", receiver := "carol" }

/-- The packet. -/
def homewardPacket (tokenIds : List String) : Packet :=
  { source := harborChannel.there, destination := harborChannel.here, sequence := 1,
    data := (homewardData tokenIds).encode }

/-- Alice's token comes home, with the metadata that it had when it left; but if
another token is said to come with it that has never left, in whatever order, both
are turned away. -/
theorem Turn.arrival_exact_firstVoyage :
    (∃ receipt u, (⟨5, .arrived (homewardPacket ["moon"])⟩ : Turn).take harbor
          (storeAfter harbor firstVoyage) = (.ok (.receipt receipt), u)
        ∧ receipt.ack = .success
        ∧ u.token? "art" "moon" = some ⟨"carol", some "ipfs://moon"⟩)
      ∧ ∀ tokenIds ∈ [["moon", "sun"], ["sun", "moon"]],
        ∃ receipt, (⟨5, .arrived (homewardPacket tokenIds)⟩ : Turn).take harbor
            (storeAfter harbor firstVoyage)
              = (.ok (.receipt receipt), storeAfter harbor firstVoyage)
          ∧ receipt.ack ≠ .success := by
  have hpast : ∀ turn ∈ firstVoyage, turn.call.NotBy harbor := by decide
  have hdecode {tokenIds : List String} {data : PacketData}
      (h : PacketData.decode (homewardPacket tokenIds).data = .ok data) :
      data = homewardData tokenIds :=
    (Except.ok.inj ((PacketData.decode_encode (homewardData tokenIds)).symm.trans h)).symm
  have hshort {tokenIds : List String} : ∀ data,
      PacketData.decode (homewardPacket tokenIds).data = .ok data →
      (Bytes.ofText ((homewardPacket tokenIds).destination.extend data.classId)).length
        < UInt16.size := by
    intro data h
    rw [hdecode h]
    show (Bytes.ofText (harborChannel.here.extend "wasm.island/channel-7/art")).length < UInt16.size
    decide +kernel
  have hclass : "wasm.island/channel-7/art" = harborChannel.there.extend "art" := by decide +kernel
  have hname {home : String} (h : "wasm.island/channel-7/art" = harborChannel.there.extend home) :
      home = "art" := by
    have hstrip := Endpoint.strip?_eq_some_iff.mpr h
    rw [hclass, Endpoint.strip?_extend] at hstrip
    exact (Option.some.inj hstrip).symm
  obtain ⟨hsettings, hchannel, hmoon, hdeposit, hsun⟩ :
      (storeAfter harbor firstVoyage).settings? = some ⟨"admin", false, 600⟩
        ∧ ((storeAfter harbor firstVoyage).channel? "channel-0").map (·.phase) = some .opened
        ∧ (storeAfter harbor firstVoyage).token? "art" "moon" = some ⟨"harbor", some "ipfs://moon"⟩
        ∧ (storeAfter harbor firstVoyage).deposit? "art" "moon"
          = some ⟨"art", "moon", "channel-0", "alice"⟩
        ∧ (storeAfter harbor firstVoyage).deposit? "art" "sun" = none := by
    decide +kernel
  constructor
  · obtain ⟨receipt, u, htake, hiff, hdoes, -⟩ := @arrival_exact harbor (homewardPacket ["moon"])
      firstVoyage hpast hshort 5
    obtain ⟨channel, hc, hopened⟩ := Option.map_eq_some_iff.mp hchannel
    have hadmitted : (homewardPacket ["moon"]).Admitted (homewardData ["moon"])
        (storeAfter harbor firstVoyage) :=
      { running := ⟨_, hsettings, rfl⟩
        opened := ⟨channel, hc, hopened⟩
        decoded := PacketData.decode_encode _
        valid := rfl
        addressed := Address.ofText_eq_ok_iff.mpr ⟨rfl, by decide +kernel⟩ }
    have hcomes : (homewardPacket ["moon"]).ComesHome (homewardData ["moon"]) "art"
        (storeAfter harbor firstVoyage) :=
      ⟨hclass, List.forall_mem_singleton.mpr ⟨_, hdeposit, rfl⟩⟩
    have hack : receipt.ack = .success :=
      hiff.mpr ⟨_, hadmitted, by decide, .inl ⟨"art", hcomes⟩⟩
    refine ⟨receipt, u, htake, hack, ?_⟩
    obtain ⟨data, hp, ⟨home, ⟨hhome, -⟩, hreleased⟩ | ⟨⟨hnone, -⟩, -⟩⟩ := hdoes hack
    · obtain rfl := hdecode hp.decoded
      obtain rfl := hname hhome
      obtain ⟨token, ht, -, hu⟩ := hreleased.passed "moon" (List.mem_singleton_self _)
      obtain rfl := Option.some.inj (hmoon.symm.trans ht)
      exact hu
    · obtain rfl := hdecode hp.decoded
      exact absurd ⟨_, hdeposit, rfl⟩ (hnone "art" hclass "moon" (by decide))
  · intro tokenIds hmem
    obtain ⟨hmoonIn, hsunIn⟩ : "moon" ∈ tokenIds ∧ "sun" ∈ tokenIds := by
      revert tokenIds
      decide
    obtain ⟨receipt, u, htake, hiff, -, hunchanged⟩ := @arrival_exact harbor
      (homewardPacket tokenIds) firstVoyage hpast hshort 5
    have hack : receipt.ack ≠ .success := by
      refine mt hiff.mp ?_
      rintro ⟨data, hp, -, ⟨home, hhome, hdeposited⟩ | ⟨hnone, -⟩⟩
      -- one of the tokens is not deposited, and the other one is
      · obtain rfl := hdecode hp.decoded
        obtain rfl := hname hhome
        obtain ⟨deposit, hd, -⟩ := hdeposited "sun" hsunIn
        cases hsun.symm.trans hd
      · obtain rfl := hdecode hp.decoded
        exact hnone "art" hclass "moon" hmoonIn ⟨_, hdeposit, rfl⟩
    refine ⟨receipt, ?_, hack⟩
    rw [htake, hunchanged hack]

end TokenBridge
