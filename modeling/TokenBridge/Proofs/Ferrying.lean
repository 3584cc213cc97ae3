import TokenBridge.Proofs.Acceptance
import TokenBridge.Proofs.Moorings
import TokenBridge.Proofs.Network
import TokenBridge.Proofs.Sends

/-!
# One token at one bridge

A token that travels leaves one bridge in a packet of its own and arrives at
another. This module says what that means for each of them: the token is
deposited or burned on the one side and released or minted on the other
(`Turn.moved_of_posts`, `Turn.moved_of_brought_home`, `Turn.moved_of_brought`),
everything else that is known of tokens and deposits stays as it is
(`Moved`), and the bridge can still be used as before (`Steady`).
-/

namespace TokenBridge

open Program Store

variable {bridge : Address} {s m u : Store Entry} {d : Deed} {ds : List Deed}
  {classId tokenId : String} {uri : Option String}

/-! ## What a turn moves -/

/-- **Whether one token has moved** to where it is said to be, and nothing has
become of all others. -/
structure Moved (s u : Store Entry) (classId tokenId : String)
    (place : Option Token × Option Deposit) : Prop where
  /-- The token is where it is said to be. -/
  there : u.whereabouts classId tokenId = place
  /-- Every other token is where it was. -/
  others : ∀ {classId' tokenId'}, ¬ (classId' = classId ∧ tokenId' = tokenId) →
    u.whereabouts classId' tokenId' = s.whereabouts classId' tokenId'

/-- Tokens that none of the deeds concerns stay where they are. -/
theorem Path.stays (h : Path bridge s ds u) (hds : ∀ d ∈ ds, ¬ d.Concerns classId tokenId) :
    u.whereabouts classId tokenId = s.whereabouts classId tokenId :=
  h.keeps (P := fun m => m.whereabouts classId tokenId = s.whereabouts classId tokenId)
    (fun hd hdoes hm => (hdoes.stays (hds _ hd)).trans hm) rfl

/-! ## What a turn leaves alone -/

/-- **Whether a bridge can still be used as before**: its settings and the phases
of its channels have not changed. -/
structure Steady (s u : Store Entry) : Prop where
  /-- The settings are the same. -/
  settings : u.settings? = s.settings?
  /-- A channel is in the phase in which it was. -/
  phases : ∀ {id channel}, s.channel? id = some channel →
    ∃ channel', u.channel? id = some channel' ∧ channel'.phase = channel.phase

/-- Whether a deed changes neither the settings nor the phase of a channel. -/
def Deed.IsSteady : Deed → Prop
  | .noted => False
  | .entered .. => False
  | _ => True

namespace Steady

theorem refl : Steady s s where
  settings := rfl
  phases h := ⟨_, h, rfl⟩

theorem trans (h : Steady s m) (h' : Steady m u) : Steady s u where
  settings := h'.settings.trans h.settings
  phases hc := by
    obtain ⟨channel, hm, hphase⟩ := h.phases hc
    obtain ⟨channel', hu, hphase'⟩ := h'.phases hm
    exact ⟨channel', hu, hphase'.trans hphase⟩

theorem keep_lastAck {ack : Ack} : Steady s (s.keep .lastAck (.lastAck ack)) where
  settings := by simp [Table.view_keep Key.fits_lastAck]
  phases hc := ⟨_, by simpa [Table.view_keep Key.fits_lastAck] using hc, rfl⟩

theorem of_does (h : d.Does bridge s u) (hs : Sound s) (hd : d.IsSteady) : Steady s u where
  settings := h.view_eq _ (by cases d <;> simp_all [Deed.IsSteady, Deed.Touches])
  phases {id channel} hc := by
    obtain heq | ⟨_, -, -, hn, -⟩ | ⟨_, _, rfl, -⟩ | ⟨p, channel', -, hid, hc', -, -, -, hu⟩ :=
      h.channel? id
    · exact ⟨channel, heq.trans hc, rfl⟩
    · cases hc.symm.trans hn
    · exact hd.elim
    · -- the channel that takes a number is the one under whose name it is kept
      obtain rfl : p.channel = id := (hs.named hc').symm.trans hid
      obtain rfl : channel = channel' := Option.some.inj (hc.symm.trans hc')
      exact ⟨_, hu, rfl⟩

theorem of_path (h : Path bridge s ds u) (hs : Sound s) (hds : ∀ d ∈ ds, d.IsSteady) :
    Steady s u := by
  refine (h.keeps (P := fun m => Sound m ∧ Steady s m) ?_ ⟨hs, .refl⟩).2
  exact fun hd hdoes hm => ⟨hm.1.of_does hdoes, hm.2.trans (.of_does hdoes hm.1 (hds _ hd))⟩

end Steady

/-! ## The numbers of a channel -/

/-- A deed makes the next number of a channel one if it opens the channel, and
greater by one if it is a send. -/
theorem Deed.Does.nextSequence_le {k n : Nat} (h : d.Does bridge s u)
    (hs : ∀ id channel, s.channel? id = some channel → channel.nextSequence.toNat ≤ k)
    (hkn : k ≤ n) (hpos : 1 ≤ n) (hsend : d.IsSend → k + 1 ≤ n) (id : String) (channel : Channel)
    (hc : u.channel? id = some channel) : channel.nextSequence.toNat ≤ n := by
  obtain heq | ⟨channel', -, -, -, hone, hu⟩ | ⟨channel', phase, -, hc', hu⟩
    | ⟨p, channel', rfl, -, hc', -, hnext, hroom, hu⟩ := h.channel? id
  · exact Nat.le_trans (hs id channel (heq ▸ hc)) hkn
  · obtain rfl := Option.some.inj (hu.symm.trans hc)
    rw [hone]
    exact hpos
  · obtain rfl := Option.some.inj (hu.symm.trans hc)
    exact Nat.le_trans (hs id channel' hc') hkn
  · obtain rfl := Option.some.inj (hu.symm.trans hc)
    have hbefore := hs p.channel channel' hc'
    rw [hnext] at hbefore
    show (p.sequence + 1).toNat ≤ n
    rw [toNat_succ hroom]
    exact Nat.le_trans (Nat.succ_le_succ hbefore) (hsend trivial)

/-- **The next number of a channel is not greater than the number of turns** that
have been taken. -/
theorem nextSequence_le_length {past : List Turn} {id : String} {channel : Channel}
    (hc : (storeAfter bridge past).channel? id = some channel) :
    channel.nextSequence.toNat ≤ past.length := by
  suffices h : ∀ id channel, (storeAfter bridge past).channel? id = some channel →
      channel.nextSequence.toNat ≤ past.length from h id channel hc
  clear hc
  induction past with
  | nil => simp
  | cons turn past ih =>
    rw [List.length_cons]
    obtain ⟨p, -, hdoes⟩ | ⟨-, ds, hpath, hds⟩ := turn.sends_or_not bridge (storeAfter bridge past)
    · exact hdoes.nextSequence_le ih (Nat.le_succ _) (Nat.succ_pos _) fun _ => Nat.le_refl _
    · refine hpath.keeps (P := fun m => ∀ id channel, m.channel? id = some channel →
        channel.nextSequence.toNat ≤ past.length + 1) (fun hd hdoes hm => ?_)
        fun id channel hc => Nat.le_succ_of_le (ih id channel hc)
      exact hdoes.nextSequence_le hm (Nat.le_refl _) (Nat.succ_pos _) fun hsend =>
        absurd hsend (hds _ hd)

/-! ## A token that leaves -/

/-- **The data of the packet** that a turn asks the chain to send over a channel,
if it does. -/
def Turn.posts? (bridge : Address) (turn : Turn) (s : Store Entry) (channel : String) :
    Option Bytes :=
  match (turn.take bridge s).1 with
  | .ok answer => answer.packet? channel
  | .error _ => none

section

variable {sender : Address} {order : SendOrder} {now : UInt64} {data : Bytes} {channel : String}

/-- What a send is answered with. -/
theorem Turn.take_send_iff {answer : Answer} :
    (⟨now, .command sender (.send order)⟩ : Turn).take bridge s = (.ok answer, u)
      ↔ ∃ sent, (order.run ⟨bridge, now⟩ sender).Yields s sent u
        ∧ answer = .response { requests := [sent.request], attributes := sent.attributes } := by
  rw [take_eq_ok_iff]
  simp only [Call.perform, Command.carryOut, Command.sendFor, yields_map, yields_bind, yields_pure]
  constructor
  · rintro ⟨_, ⟨sent, _, hsent, rfl, rfl⟩, rfl⟩
    exact ⟨sent, hsent, rfl⟩
  · rintro ⟨sent, hsent, rfl⟩
    exact ⟨_, ⟨sent, u, hsent, rfl, rfl⟩, rfl⟩

/-- A send that asks for a packet to be sent has been carried out. -/
theorem Turn.run_of_posts
    (h : (⟨now, .command sender (.send order)⟩ : Turn).posts? bridge s channel = some data) :
    ∃ sent, (order.run ⟨bridge, now⟩ sender).Yields s sent
        ((⟨now, .command sender (.send order)⟩ : Turn).after bridge s)
      ∧ data = sent.data.encode := by
  rw [posts?] at h
  rw [after]
  rcases htake : (⟨now, .command sender (.send order)⟩ : Turn).take bridge s with ⟨e | answer, u⟩
  · rw [htake] at h
    cases h
  · rw [htake] at h
    obtain ⟨sent, hsent, rfl⟩ := take_send_iff.mp htake
    refine ⟨sent, hsent, ?_⟩
    have hpacket := (Answer.packet?_of_sent sent sent.attributes channel).symm.trans h
    split at hpacket
    · exact (Option.some.inj hpacket).symm
    · cases hpacket

/-- **An order that is admitted is sent.** -/
theorem SendOrder.Admitted.exists_posts (h : order.Admitted sender now s) :
    ∃ data, (⟨now, .command sender (.send order)⟩ : Turn).posts? bridge s order.channel
      = some data := by
  obtain ⟨sent, u, hsent⟩ : ∃ sent u, (order.run ⟨bridge, now⟩ sender).Yields s sent u :=
    Admitted.exists_run h
  have hchannel : sent.shipment.channel = order.channel := (run_sent hsent).2.2.2.2
  refine ⟨sent.data.encode, ?_⟩
  rw [Turn.posts?, Turn.take_send_iff.mpr ⟨sent, hsent, rfl⟩]
  exact (Answer.packet?_of_sent sent sent.attributes _).trans (if_pos hchannel)

variable (h : (⟨now, .command sender (.send order)⟩ : Turn).posts? bridge s channel = some data)
include h

/-- A send leaves the bridge as usable as it was. -/
theorem Turn.steady_of_posts (hs : Sound s) :
    Steady s ((⟨now, .command sender (.send order)⟩ : Turn).after bridge s) := by
  obtain ⟨sent, hsent, -⟩ := Turn.run_of_posts h
  exact .of_does (SendOrder.run_sent hsent).1 hs trivial

/-- **A token that is sent is burned if its class came over the channel, and
deposited for the channel if not.** -/
theorem Turn.moved_of_posts {c : TokenClass} (htokens : order.tokenIds = [tokenId])
    (hc : s.class? order.classId = some c)
    (hw : s.whereabouts order.classId tokenId = (some ⟨sender, uri⟩, none)) :
    Moved s ((⟨now, .command sender (.send order)⟩ : Turn).after bridge s) order.classId tokenId
      (if c.origin = .wrapped order.channel then (none, none)
        else (some ⟨bridge, uri⟩, some ⟨order.classId, tokenId, order.channel, sender⟩)) := by
  obtain ⟨sent, hsent, -⟩ := Turn.run_of_posts h
  obtain ⟨hdoes, hsender, hclass, hids, hchannel⟩ := SendOrder.run_sent hsent
  have hconcerns {classId' tokenId' : String} : (Deed.sent sent.shipment).Concerns classId' tokenId'
      ↔ classId' = order.classId ∧ tokenId' = tokenId := by
    simp [Deed.Concerns, hclass, hids, htokens, eq_comm]
  constructor
  case others =>
    intro classId' tokenId' hne
    exact hdoes.stays (mt hconcerns.mp hne)
  case there =>
    obtain ⟨uri', -, howner, hmoves⟩ := hdoes.moves (hconcerns.mpr ⟨rfl, rfl⟩)
    obtain rfl : uri = uri' :=
      congrArg Token.uri (Option.some.inj ((congrArg Prod.fst hw).symm.trans howner))
    obtain ⟨c', hc', hcustody⟩ := hdoes.2.2.1
    rw [hclass] at hc'
    obtain rfl : c = c' := Option.some.inj (hc.symm.trans hc')
    rw [hchannel] at hcustody
    obtain ⟨hescrowed, -, ha⟩ | ⟨hburned, ha⟩ := hmoves
    · rw [if_neg (SendOrder.custodyOf_eq_escrowed_iff.mp (hcustody.symm.trans hescrowed)), ha,
        hsender, hchannel]
    · rw [if_pos (SendOrder.custodyOf_eq_burned_iff.mp (hcustody.symm.trans hburned)), ha,
        congrArg Prod.snd hw]

/-- **The packet of a token that is sent** is about that token, and is on record
under the number that was the next one. -/
theorem Turn.record_of_posts {n : UInt64} {here : Endpoint} (htokens : order.tokenIds = [tokenId])
    (hw : s.whereabouts order.classId tokenId = (some ⟨sender, uri⟩, none))
    (hhere : here.channel = order.channel) (hn : s.nextNumber? here = some n) :
    ∃ contents : PacketData, PacketData.decode data = .ok contents
      ∧ contents.classId = order.classId ∧ contents.tokenIds = [tokenId]
      ∧ contents.tokenUris = [uri] ∧ contents.receiver = order.receiver
      ∧ ∃ p, ((⟨now, .command sender (.send order)⟩ : Turn).after bridge s).shipment?
          order.channel n = some p ∧ p.agreesWith contents := by
  obtain ⟨sent, hsent, rfl⟩ := Turn.run_of_posts h
  obtain ⟨_, channel, _, _, _, -, -, hc, -, -, -, -, hm, -, -, hp, hdata, -⟩ :=
    SendOrder.of_yields_run hsent
  obtain rfl : channel.nextSequence = n := by
    rw [nextNumber?, hhere, hc] at hn
    exact Option.some.inj hn
  have huris : sent.shipment.tokenUris = [uri] := by
    have hfound := hm.found
    rw [htokens, List.map_singleton,
      show s.token? order.classId tokenId = some ⟨sender, uri⟩ from congrArg Prod.fst hw] at hfound
    obtain ⟨uri', huri', heq⟩ := List.map_eq_singleton_iff.mp hfound.symm
    obtain rfl : uri' = uri := congrArg Token.uri (Option.some.inj heq)
    exact huri'
  have hrecord := (SendOrder.run_sent hsent).1.shipment?_of_sent
  rw [hdata, huris]
  refine ⟨_, PacketData.decode_encode _, rfl, htokens, rfl, rfl, sent.shipment, ?_, ?_⟩
  · rw [hp] at hrecord ⊢
    exact hrecord
  · rw [hp]
    simp [Shipment.agreesWith]

end

/-! ## A token that arrives -/

/-- **The receipt of a packet** with which a turn is answered, if it is. -/
def Turn.receipt? (bridge : Address) (turn : Turn) (s : Store Entry) : Option Receipt :=
  match (turn.take bridge s).1 with
  | .ok (.receipt receipt) => some receipt
  | _ => none

section

variable {packet : Packet} {data : PacketData} {receipt : Receipt} {now : UInt64} {home : String}

/-- What the arrival of a packet is answered with. -/
theorem Turn.take_arrived_iff {answer : Answer} :
    (⟨now, .arrived packet⟩ : Turn).take bridge s = (.ok answer, u)
      ↔ ∃ receipt, (packet.arrived ⟨bridge, now⟩).Yields s receipt u
        ∧ answer = .receipt receipt :=
  take_eq_ok_iff.trans yields_map

theorem Turn.receipt?_of_arrived (h : (packet.arrived ⟨bridge, now⟩).Yields s receipt u) :
    (⟨now, .arrived packet⟩ : Turn).receipt? bridge s = some receipt := by
  rw [receipt?, take_arrived_iff.mpr ⟨receipt, h, rfl⟩]

theorem Turn.arrived_of_receipt
    (h : (⟨now, .arrived packet⟩ : Turn).receipt? bridge s = some receipt) :
    (packet.arrived ⟨bridge, now⟩).Yields s receipt
      ((⟨now, .arrived packet⟩ : Turn).after bridge s) := by
  rw [receipt?] at h
  rw [after]
  rcases htake : (⟨now, .arrived packet⟩ : Turn).take bridge s with ⟨e | answer, u⟩
  · rw [htake] at h
    cases h
  · rw [htake] at h
    obtain ⟨receipt', hreceipt, rfl⟩ := take_arrived_iff.mp htake
    obtain rfl : receipt' = receipt := Option.some.inj h
    exact hreceipt

variable (h : (⟨now, .arrived packet⟩ : Turn).receipt? bridge s = some receipt)
include h

/-- A packet that arrives leaves the bridge as usable as it was. -/
theorem Turn.steady_of_receipt (hs : Sound s) :
    Steady s ((⟨now, .arrived packet⟩ : Turn).after bridge s) := by
  obtain ⟨-, hu⟩ | ⟨-, data, ds, -, -, hlands, hpath⟩ :=
    Packet.arrived_path (Turn.arrived_of_receipt h)
  · rw [hu]
    exact .refl
  · refine .of_path hpath hs ?_
    obtain ⟨home, -, rfl⟩ | ⟨-, c, rfl | rfl⟩ := hlands <;> simp [Deed.IsSteady]

variable (hack : receipt.ack = .success) (hdecode : PacketData.decode packet.data = .ok data)
include hack hdecode

/-- What a packet has done that was taken. -/
theorem Turn.lands_of_receipt : ∃ ds, packet.Lands data s ds
    ∧ Path bridge s ds ((⟨now, .arrived packet⟩ : Turn).after bridge s) := by
  obtain ⟨hfailed, -⟩ | ⟨-, data', ds, hdecode', -, hlands, hpath⟩ :=
    Packet.arrived_path (Turn.arrived_of_receipt h)
  · rw [hack] at hfailed
    cases hfailed
  · cases hdecode.symm.trans hdecode'
    exact ⟨ds, hlands, hpath⟩

variable (htokens : data.tokenIds = [tokenId])
include htokens

/-- **A token that is brought home is released.** -/
theorem Turn.moved_of_brought_home {deposit : Deposit}
    (hclass : data.classId = packet.source.extend home)
    (hw : s.whereabouts home tokenId = (some ⟨bridge, uri⟩, some deposit))
    (hchannel : deposit.channel = packet.destination.channel) :
    Moved s ((⟨now, .arrived packet⟩ : Turn).after bridge s) home tokenId
      (some ⟨data.receiver, uri⟩, none) := by
  obtain ⟨ds, hlands, hpath⟩ := Turn.lands_of_receipt h hack hdecode
  have hmem : tokenId ∈ data.tokenIds := htokens ▸ List.mem_singleton_self tokenId
  have hhome : s.homeOf? packet.source packet.destination.channel data.classId tokenId
      = some home :=
    homeOf?_eq_some_iff.mpr ⟨hclass, deposit, congrArg Prod.snd hw, hchannel⟩
  obtain ⟨home', hall, rfl⟩ | ⟨hnone, -⟩ := hlands
  · obtain rfl : home = home' := Option.some.inj (hhome.symm.trans (hall tokenId hmem))
    have hdoes := Path.single_iff.mp hpath
    constructor
    case others =>
      rintro classId' tokenId' hne
      refine hdoes.stays fun hconcerns => hne ⟨hconcerns.1.symm, ?_⟩
      exact List.mem_singleton.mp (htokens ▸ hconcerns.2)
    case there =>
      obtain ⟨uri', deposit', hbefore, -, hafter⟩ := hdoes.moves ⟨rfl, hmem⟩
      cases hw.symm.trans hbefore
      exact hafter
  · cases hhome.symm.trans (hnone tokenId hmem)

/-- **A token that does not come home is minted.** -/
theorem Turn.moved_of_brought (huris : data.tokenUris = [uri])
    (hnamed : ∀ {id c}, s.class? id = some c → c.id = id)
    (hnew : s.homeOf? packet.source packet.destination.channel data.classId tokenId = none)
    (hw : s.whereabouts (packet.destination.extend data.classId) tokenId = (none, none)) :
    Moved s ((⟨now, .arrived packet⟩ : Turn).after bridge s)
      (packet.destination.extend data.classId) tokenId (some ⟨data.receiver, uri⟩, none) := by
  obtain ⟨ds, hlands, hpath⟩ := Turn.lands_of_receipt h hack hdecode
  have hmem : tokenId ∈ data.tokenIds := htokens ▸ List.mem_singleton_self tokenId
  have htokens' : data.tokens = [(tokenId, uri)] := by
    rw [PacketData.tokens, htokens, huris]
    rfl
  -- the token is minted in the class that bears the name, whether or not that one is new
  suffices hissued : ∃ c m, (∀ classId tokenId, m.whereabouts classId tokenId
        = s.whereabouts classId tokenId) ∧ c.id = packet.destination.extend data.classId
      ∧ (Deed.issued packet.destination data.classId c data.tokens data.receiver).Does bridge m
        ((⟨now, .arrived packet⟩ : Turn).after bridge s) by
    obtain ⟨c, m, hm, hid, hdoes⟩ := hissued
    rw [← hid] at hw ⊢
    constructor
    case others =>
      rintro classId' tokenId' hne
      rw [← hm classId' tokenId']
      refine hdoes.stays ?_
      rintro ⟨hclass, uri', hmem⟩
      refine hne ⟨hclass.symm, ?_⟩
      rw [htokens'] at hmem
      exact congrArg Prod.fst (List.mem_singleton.mp hmem)
    case there =>
      obtain ⟨uri', hmem, -, hafter⟩ :=
        hdoes.moves ⟨rfl, uri, htokens' ▸ List.mem_singleton_self (tokenId, uri)⟩
      rw [htokens'] at hmem
      obtain rfl : uri' = uri := congrArg Prod.snd (List.mem_singleton.mp hmem)
      rw [hafter, hm, hw]
  obtain ⟨home, hall, -⟩ | ⟨-, c, rfl | rfl⟩ := hlands
  · cases hnew.symm.trans (hall tokenId hmem)
  · have hdoes := Path.single_iff.mp hpath
    exact ⟨c, s, fun _ _ => rfl, hnamed hdoes.1, hdoes⟩
  · obtain ⟨m, hwrapped, hpath⟩ := Path.cons_iff.mp hpath
    exact ⟨c, m, fun _ _ => hwrapped.stays not_false, hwrapped.2.1, Path.single_iff.mp hpath⟩

end

/-! ## An acknowledgement that comes back -/

section

variable {packet : Packet} {now : UInt64}

/-- What the report that a packet was delivered does, if it does anything. -/
theorem Turn.path_of_acknowledged (bridge : Address) (s : Store Entry) (packet : Packet)
    (now : UInt64) :
    (⟨now, .acknowledged packet Ack.success.encode⟩ : Turn).after bridge s = s
      ∨ ∃ ds, (∀ d ∈ ds, ∃ channel n p, d = .committed channel n p)
        ∧ Path bridge (s.keep .lastAck (.lastAck .success)) ds
          ((⟨now, .acknowledged packet Ack.success.encode⟩ : Turn).after bridge s) := by
  obtain heq | ⟨answer, htake⟩ :=
    Turn.after_eq_or_take bridge ⟨now, .acknowledged packet Ack.success.encode⟩ s
  · exact .inl heq
  · obtain ⟨r, hr, -⟩ := yields_map.mp (take_eq_ok_iff.mp htake)
    obtain ⟨ds, hds, hpath⟩ := Packet.acknowledged_settles hr
    rw [Ack.decodeLenient_encode] at hds hpath
    refine .inr ⟨ds, ?_, hpath⟩
    obtain rfl | ⟨p, data, -, -, ⟨-, rfl⟩ | ⟨hfailed, -⟩⟩ := hds
    · simp
    · simp
    · cases hfailed

/-- **The report that a packet was delivered moves no token.** -/
theorem Turn.stays_of_acknowledged (bridge : Address) (s : Store Entry) (packet : Packet)
    (now : UInt64) (classId tokenId : String) :
    ((⟨now, .acknowledged packet Ack.success.encode⟩ : Turn).after bridge s).whereabouts classId
      tokenId = s.whereabouts classId tokenId := by
  obtain heq | ⟨ds, hds, hpath⟩ := Turn.path_of_acknowledged bridge s packet now
  · rw [heq]
  · rw [hpath.stays fun d hd => by obtain ⟨channel, n, p, rfl⟩ := hds d hd; exact not_false]
    exact whereabouts_of_changedOnly (.keep rfl : ChangedOnly (· = .lastAck) s _) (by simp)
      (by simp)

/-- It leaves the bridge as usable as it was. -/
theorem Turn.steady_of_acknowledged (hs : Sound s) (packet : Packet) (now : UInt64) :
    Steady s ((⟨now, .acknowledged packet Ack.success.encode⟩ : Turn).after bridge s) := by
  obtain heq | ⟨ds, hds, hpath⟩ := Turn.path_of_acknowledged bridge s packet now
  · rw [heq]
    exact .refl
  · refine Steady.keep_lastAck.trans (.of_path hpath hs.keep_lastAck fun d hd => ?_)
    obtain ⟨channel, n, p, rfl⟩ := hds d hd
    trivial

end

end TokenBridge
