import TokenBridge.Proofs.Settling

/-!
# What a refund undoes

A refund is meant to undo the send of its packet. It does so by handing the
tokens of the packet to its sender, out of their deposits if the send has
deposited them. But a deposit is kept under its token alone and does not say
which packet it belongs to, and a packet may stay pending after its tokens
have come back over the channel in another one. If they are sent once more
by whoever has got them, the refund of the first packet finds the deposit of
the second one, and it gives the token to somebody who has sold it
(`refund_of_resold`).

What is true is that a token that a refund hands out goes to the sender of
the packet, while its deposit was made by the one who sent it last
(`Deposit.made_by_last_sender`). The two are of the same packet exactly if
the token has been where that packet left it ever since
(`Turn.refund_undoes_last_send_iff`).
-/

namespace TokenBridge

open Store

variable {bridge : Address} {s m u : Store Entry} {ds : List Deed}
  {channel id classId tokenId : String} {n : UInt64} {p q : Shipment}
  {past : List Turn} {turn : Turn}

/-! ## The last send of a token -/

/-- **The packet in which a token was sent last**, if it was ever sent. -/
def lastSend? (bridge : Address) : List Turn → String → String → Option Shipment
  | [], _, _ => none
  | turn :: past, classId, tokenId =>
    match turn.sent? bridge (storeAfter bridge past) with
    | some p =>
      if p.classId = classId ∧ tokenId ∈ p.tokenIds then some p
      else lastSend? bridge past classId tokenId
    | none => lastSend? bridge past classId tokenId

theorem lastSend?_of_sent (hsent : turn.sent? bridge (storeAfter bridge past) = some p)
    (hp : p.classId = classId ∧ tokenId ∈ p.tokenIds) :
    lastSend? bridge (turn :: past) classId tokenId = some p := by
  rw [lastSend?, hsent]
  exact if_pos hp

theorem lastSend?_of_not_sent
    (h : ∀ p, turn.sent? bridge (storeAfter bridge past) = some p →
      ¬ (p.classId = classId ∧ tokenId ∈ p.tokenIds)) :
    lastSend? bridge (turn :: past) classId tokenId = lastSend? bridge past classId tokenId := by
  rw [lastSend?]
  split
  · next p hsent => exact if_neg (h p hsent)
  · rfl

/-- **A deposit was made by the one who sent its token last**, and for the
channel over which it was sent. -/
theorem Deposit.made_by_last_sender {deposit : Deposit}
    (hpast : ∀ turn ∈ past, turn.call.NotBy bridge)
    (hdep : (storeAfter bridge past).deposit? classId tokenId = some deposit) :
    ∃ p, lastSend? bridge past classId tokenId = some p ∧ p.custody = .escrowed
      ∧ p.channel = deposit.channel ∧ p.sender = deposit.depositor := by
  induction past with
  | nil => simp at hdep
  | cons turn past ih =>
    obtain ⟨hturn, hpast⟩ := List.forall_mem_cons.mp hpast
    obtain ⟨p, hsent, hclass, hmem, hdoes⟩ | ⟨hnot, -, hkept⟩ :=
      turn.sends_or_spares bridge (storeAfter bridge past) classId tokenId
    · have hmoves := hdoes.moves (show (Deed.sent p).Concerns classId tokenId from ⟨hclass, hmem⟩)
      refine ⟨p, lastSend?_of_sent hsent ⟨hclass, hmem⟩, ?_⟩
      obtain ⟨uri, -, hb, ⟨hcustody, -, ha⟩ | ⟨-, ha⟩⟩ := hmoves
      · obtain rfl := Option.some.inj (hdep.symm.trans (congrArg Prod.snd ha))
        exact ⟨hcustody, rfl, rfl⟩
      -- a token that is burned belonged to its sender, and so was not deposited
      · obtain ⟨uri', ht⟩ := held_after hpast _ _ _ ((congrArg Prod.snd ha).symm.trans hdep)
        have := congrArg Token.owner (Option.some.inj (hb.symm.trans ht))
        exact absurd this (Turn.sender_ne_bridge hturn hsent)
    · rw [lastSend?_of_not_sent hnot]
      exact ih hpast (hkept deposit hdep)

/-- A token of a packet was sent. -/
theorem lastSend?_ne_none (hp : (storeAfter bridge past).shipment? id n = some p)
    (hmem : tokenId ∈ p.tokenIds) : lastSend? bridge past p.classId tokenId ≠ none := by
  induction past generalizing p with
  | nil => simp at hp
  | cons turn past ih =>
    obtain ⟨q, hsent, hclass, hmem', -⟩ | ⟨hnot, -⟩ :=
      turn.sends_or_spares bridge (storeAfter bridge past) p.classId tokenId
    · rw [lastSend?_of_sent hsent ⟨hclass, hmem'⟩]
      exact Option.some_ne_none _
    · rw [lastSend?_of_not_sent hnot]
      cases hq : (storeAfter bridge past).shipment? id n with
      | none =>
        obtain ⟨hsent, -⟩ := turn.sent?_of_shipment? (sound_after past) hq hp
        exact absurd ⟨rfl, hmem⟩ (hnot p hsent)
      | some q =>
        obtain ⟨q', hq', hadv⟩ := turn.advances (sound_after past) hq
        obtain rfl := Option.some.inj (hq'.symm.trans hp)
        obtain rfl | ⟨-, status, -, rfl⟩ := hadv
        · exact ih hq hmem
        · exact ih (p := q) hq hmem

/-! ## Custody -/

/-- **Whether a token is where the send of a packet has left it**: deposited
for the channel of the packet, or burned. -/
def Store.Keeps (s : Store Entry) (p : Shipment) (tokenId : String) : Prop :=
  match p.custody with
  | .escrowed =>
    ∃ deposit, s.deposit? p.classId tokenId = some deposit ∧ deposit.channel = p.channel
  | .burned => s.token? p.classId tokenId = none

/-- **Whether a token has been where the send of a packet has left it** in
every state since. -/
def Unbroken (bridge : Address) (past : List Turn) (p : Shipment) (tokenId : String) : Prop :=
  ∀ earlier, earlier <:+ past →
    (storeAfter bridge earlier).shipment? p.channel p.sequence ≠ none →
      (storeAfter bridge earlier).Keeps p tokenId

/-- What was spared and is where a packet has left it was there before. -/
theorem Spares.keeps (h : Spares p.classId tokenId s u) (hu : u.Keeps p tokenId) :
    s.Keeps p tokenId := by
  unfold Keeps at hu ⊢
  split at hu
  · obtain ⟨deposit, hdep, hc⟩ := hu
    exact ⟨deposit, h.2 deposit hdep, hc⟩
  · by_cases hs : s.token? p.classId tokenId = none
    · exact hs
    · exact absurd hu (h.1 hs)

/-- A token that is where a packet has left it cannot be sent. -/
theorem Store.Keeps.not_sent (hs : s.Keeps p tokenId) (hheld : Held bridge s)
    (hsender : q.sender ≠ bridge) (hclass : q.classId = p.classId) (hmem : tokenId ∈ q.tokenIds) :
    ¬ (Deed.sent q).Does bridge s u := by
  intro h
  obtain ⟨uri, -, hb, hmoves⟩ :=
    h.moves (show (Deed.sent q).Concerns p.classId tokenId from ⟨hclass, hmem⟩)
  unfold Keeps at hs
  split at hs
  · obtain ⟨deposit, hdep, -⟩ := hs
    obtain ⟨uri', ht⟩ := hheld _ _ _ hdep
    exact hsender (congrArg Token.owner (Option.some.inj (hb.symm.trans ht)))
  · cases hb.symm.trans hs

/-- **The last send of a token is that of a packet that is pending exactly if
the token has been where that packet has left it ever since**, provided
that it is there now. -/
theorem lastSend?_eq_some_iff (hpast : ∀ turn ∈ past, turn.call.NotBy bridge)
    (hp : (storeAfter bridge past).shipment? p.channel p.sequence = some p)
    (hpend : p.status = .pending) (hmem : tokenId ∈ p.tokenIds)
    (hkeeps : (storeAfter bridge past).Keeps p tokenId) :
    lastSend? bridge past p.classId tokenId = some p ↔ Unbroken bridge past p tokenId := by
  induction past with
  | nil => simp at hp
  | cons turn past ih =>
    obtain ⟨hturn, hpast⟩ := List.forall_mem_cons.mp hpast
    cases hq : (storeAfter bridge past).shipment? p.channel p.sequence with
    | none =>
      -- the packet is sent in this turn, so there is no state between that and now
      obtain ⟨hsent, -⟩ := turn.sent?_of_shipment? (sound_after past) hq hp
      refine iff_of_true (lastSend?_of_sent hsent ⟨rfl, hmem⟩) fun earlier hsuffix hknown => ?_
      obtain rfl | hsuffix := List.suffix_cons_iff.mp hsuffix
      · exact hkeeps
      · obtain ⟨r, hr⟩ := Option.ne_none_iff_exists'.mp hknown
        obtain ⟨r', hr', -⟩ := advances_of_suffix hsuffix hr
        cases hq.symm.trans hr'
    | some q =>
      obtain rfl := pending_in_past (List.suffix_cons turn past) hp hpend hq
      have hunbroken : Unbroken bridge (turn :: past) q tokenId
          ↔ Unbroken bridge past q tokenId := by
        refine ⟨fun h earlier hsuffix => h earlier (hsuffix.trans (List.suffix_cons _ _)), ?_⟩
        intro h earlier hsuffix hknown
        obtain rfl | hsuffix := List.suffix_cons_iff.mp hsuffix
        · exact hkeeps
        · exact h earlier hsuffix hknown
      rw [hunbroken]
      obtain ⟨r, hsent, hclass, hmem', hdoes⟩ | ⟨hnot, hspares⟩ :=
        turn.sends_or_spares bridge (storeAfter bridge past) q.classId tokenId
      -- the token is sent again, so it has been elsewhere, and the last send is another one
      · refine iff_of_false (fun h => ?_) fun h => ?_
        · rw [lastSend?_of_sent hsent ⟨hclass, hmem'⟩] at h
          obtain rfl := Option.some.inj h
          cases ((sound_after past).fresh hdoes).symm.trans hq
        · have hbefore := h past List.suffix_rfl (by rw [hq]; exact Option.some_ne_none _)
          exact hbefore.not_sent (held_after hpast) (Turn.sender_ne_bridge hturn hsent) hclass hmem'
            hdoes
      · rw [lastSend?_of_not_sent hnot]
        exact ih hpast hq (hspares.keeps hkeeps)

/-! ## What a refund hands out -/

/-- Once a token has left its deposit it stays where it is while packets are
settled. -/
theorem Deed.Does.stays_released {d : Deed} {token : Token} (h : d.Does bridge s u)
    (hd : d.SettlesOn channel) (hs : s.whereabouts classId tokenId = (some token, none)) :
    u.whereabouts classId tokenId = (some token, none) := by
  obtain heq | ⟨-, hmoves⟩ := h.stays_or_moves classId tokenId
  · exact heq.trans hs
  rw [hs] at hmoves
  cases d with
  | refunded =>
    obtain ⟨-, uri, deposit, ⟨⟩, -⟩ | ⟨-, uri, -, ⟨⟩, -⟩ := hmoves
  | noted => exact hmoves.elim
  | entered => exact hmoves.elim
  | committed => exact hmoves.elim
  | _ => exact hd.elim

/-- **What a refund hands out** while packets of a channel are settled was
where the packet had left it, and goes to the sender of the packet. -/
theorem Path.undone_keeps (h : Path bridge s ds u) (hs : Sound s)
    (hds : ∀ d ∈ ds, d.SettlesOn channel) (hundone : Undone s u id n p)
    (hmem : tokenId ∈ p.tokenIds) :
    s.Keeps p tokenId ∧ ∃ uri, u.token? p.classId tokenId = some ⟨p.sender, uri⟩
      ∧ (p.custody = .escrowed → u.deposit? p.classId tokenId = none) := by
  induction h with
  | nil => exact absurd hundone (not_undone_of_eq rfl)
  | @cons s m u d ds first others ih =>
    obtain ⟨hfirst, hothers⟩ := List.forall_mem_cons.mp hds
    obtain rfl | hlater := others.undone_cases first hs hundone
    · obtain rfl : id = channel := hfirst
      obtain ⟨hid, -, hlength⟩ := hs.filed hundone.1
      cases hcustody : p.custody with
      | escrowed =>
        have hmoves :=
          first.moves (show p.Restores p.classId tokenId from ⟨rfl, .inl ⟨hcustody, hmem⟩⟩)
        obtain ⟨-, uri, deposit, hb, hc, ha⟩ | ⟨hburned, -⟩ := hmoves
        · have hu := others.keeps
            (P := fun m => m.whereabouts p.classId tokenId = (some ⟨p.sender, uri⟩, none))
            (fun hd hdoes hm => hdoes.stays_released (hothers _ hd) hm) ha
          obtain ⟨ht, hdep⟩ := Prod.mk.inj hu
          refine ⟨?_, uri, ht, fun _ => hdep⟩
          rw [Keeps, hcustody]
          exact ⟨deposit, congrArg Prod.snd hb, hc⟩
        · cases hcustody.symm.trans hburned
      | burned =>
        obtain ⟨uri, hx⟩ := exists_mem_zip hlength hmem
        have hmoves :=
          first.moves (show p.Restores p.classId tokenId from ⟨rfl, .inr ⟨hcustody, uri, hx⟩⟩)
        obtain ⟨hescrowed, -⟩ | ⟨-, uri, -, hn, ha⟩ := hmoves
        · cases hcustody.symm.trans hescrowed
        · obtain ⟨c, hc, hburned⟩ := hs.custody hundone.1
          rw [hcustody, hid] at hburned
          have ht := others.token?_of_burned (hs.of_does first) hothers
            (first.class?_of_some hc) hburned.symm (congrArg Prod.fst ha)
          refine ⟨?_, uri, ht, fun h => by cases h⟩
          rw [Keeps, hcustody]
          exact hn
    · obtain ⟨hm, h⟩ := ih (hs.of_does first) hothers hlater
      exact ⟨(first.spares hfirst.not_isSend _ _).keeps hm, h⟩

/-- **What a refund hands out goes to the sender of the packet**, and what this
undoes is the last send of the token exactly if the token has been where
that packet has left it ever since. If it was deposited, the deposit that is
ended was made by the one who sent the token last, whoever that is. -/
theorem Turn.refund_undoes_last_send_iff
    (hpast : ∀ earlier ∈ past, earlier.call.NotBy bridge)
    (hundone : Undone (storeAfter bridge past) (storeAfter bridge (turn :: past)) channel n p)
    (hmem : tokenId ∈ p.tokenIds) :
    let s := storeAfter bridge past
    let u := storeAfter bridge (turn :: past)
    (∃ uri, u.token? p.classId tokenId = some ⟨p.sender, uri⟩)
      ∧ ∃ q, lastSend? bridge past p.classId tokenId = some q
        ∧ (p.custody = .escrowed →
          ∃ deposit, s.deposit? p.classId tokenId = some deposit
            ∧ u.deposit? p.classId tokenId = none
            ∧ deposit.channel = channel ∧ deposit.depositor = q.sender)
        ∧ (q = p ↔ Unbroken bridge past p tokenId) := by
  intro s u
  have hs : Sound s := sound_after past
  obtain ⟨settled, hc⟩ := turn.settles_of_undone hs hundone
  obtain heq | ⟨answer, ds, -, hcarries, hpath⟩ := turn.path bridge s
  · rw [storeAfter_cons, heq] at hundone
    exact (not_undone_of_eq rfl hundone).elim
  obtain ⟨hkeeps, uri, ht, hdep⟩ := hpath.undone_keeps hs (hcarries.settlesOn hc) hundone hmem
  obtain ⟨rfl, rfl, -⟩ := hs.filed hundone.1
  refine ⟨⟨uri, ht⟩, ?_⟩
  obtain ⟨q, hq⟩ := Option.ne_none_iff_exists'.mp (lastSend?_ne_none hundone.1 hmem)
  refine ⟨q, hq, fun hcustody => ?_, ?_⟩
  · rw [Keeps, hcustody] at hkeeps
    obtain ⟨deposit, hdeposit, hchannel⟩ := hkeeps
    obtain ⟨q', hq', -, -, hsender⟩ := Deposit.made_by_last_sender hpast hdeposit
    obtain rfl := Option.some.inj (hq.symm.trans hq')
    exact ⟨deposit, hdeposit, hdep hcustody, hchannel, hsender.symm⟩
  · rw [← lastSend?_eq_some_iff hpast hundone.1 hundone.2.1 hmem hkeeps, hq, Option.some_inj]

/-- The record of the packet of the first voyage. -/
def firstShipment : Shipment :=
  { sequence := 1, channel := "channel-0", classId := "art", tokenIds := ["moon"],
    tokenUris := [some "ipfs://moon"], custody := .escrowed, sender := "alice",
    receiver := "bob", deadline := 600000000004, status := .pending }

/-- If the packet of the first voyage is timed out, the refund undoes the last
send of its token, since the token has been deposited all the time. -/
theorem Turn.refund_undoes_last_send_iff_firstVoyage :
    ∃ q, lastSend? harbor firstVoyage "art" "moon" = some q
      ∧ (q = firstShipment ↔ Unbroken harbor firstVoyage firstShipment "moon") := by
  have hundone : Undone (storeAfter harbor firstVoyage)
      (storeAfter harbor (⟨5, .timedOut firstPacket⟩ :: firstVoyage)) "channel-0" 1
      firstShipment :=
    ⟨by decide +kernel, rfl, by decide +kernel⟩
  obtain ⟨-, q, hq, -, hiff⟩ := Turn.refund_undoes_last_send_iff (by decide) hundone
    (List.mem_singleton.mpr rfl)
  exact ⟨q, hq, hiff⟩

/-- After the first voyage the token comes back over the channel to Bob, who
sends it again. The first packet is still pending. -/
def resale : List Turn :=
  ⟨6, .command "bob" (.send ⟨"art", ["moon"], "carol", "channel-0", none⟩)⟩ ::
  ⟨5, .arrived
    { source := harborChannel.there, destination := harborChannel.here, sequence := 1,
      data := PacketData.encode
        { classId := "wasm.island/channel-7/art", classUri := none, tokenIds := ["moon"],
          tokenUris := [some "ipfs://moon"], sender := "bob", receiver := "bob" } }⟩ ::
  firstVoyage

/-- **A refund may give away a token that was sent by somebody else.** When
the channel is closed after the resale, the first packet is refunded: Alice
gets the token that Bob has sent and that is deposited in his name, though
the packet of hers is not the last one in which the token was sent. -/
theorem refund_of_resold :
    let closing : Turn := ⟨7, .command "admin" (.closeChannel "channel-0")⟩
    let s := storeAfter harbor resale
    let u := storeAfter harbor (closing :: resale)
    (∀ turn ∈ closing :: resale, turn.call.NotBy harbor)
      ∧ Undone s u "channel-0" 1 firstShipment ∧ "moon" ∈ firstShipment.tokenIds
      ∧ lastSend? harbor resale "art" "moon" ≠ some firstShipment
      ∧ s.deposit? "art" "moon" = some ⟨"art", "moon", "channel-0", "bob"⟩
      ∧ u.token? "art" "moon" = some ⟨"alice", some "ipfs://moon"⟩ := by
  refine ⟨by decide, ⟨by decide +kernel, rfl, by decide +kernel⟩, by decide, ?_, ?_, ?_⟩
  · decide +kernel
  · decide +kernel
  · decide +kernel

end TokenBridge
