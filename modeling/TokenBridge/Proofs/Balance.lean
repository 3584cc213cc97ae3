import TokenBridge.Proofs.Lanes
import TokenBridge.Proofs.Sends

/-!
# The balance of two bridges

Two bridges that are joined by a channel are in balance (`Crossing.Balanced`)
if each token of each lane is in exactly one place. They are at the start,
and every step preserves it: a call that has nothing to do with the channel
disturbs nothing, and a send, a delivery and a refund each take the tokens of
one packet from one place to another.

A place is where a token is at hand or underway, and for a class that is at
home on a side not to be at hand there is to be deposited for the channel. So
a token is deposited if and only if it is in exactly one place elsewhere
(`Crossing.deposited_iff_elsewhere`).
-/

namespace TokenBridge

open Program Store

variable {x : Crossing} {net : Network} {side : Side}

/-! ## Calls that have nothing to do with the channel -/

namespace Crossing

section

variable {context : Context} {s u : Store Entry} {answer : Answer} {ds : List Deed} {call : Call}

/-- An allowed call settles no packets of the channel. -/
theorem Allows.settles_ne {channel : String} (hcall : x.Allows side call)
    (hc : call.settles? = some channel) : channel ≠ (x.gate side).channel := by
  unfold Call.settles? at hc
  split at hc
  · obtain rfl := Option.some.inj hc
    exact fun heq => hcall.2 (by rw [heq])
  all_goals first | exact Option.some.inj hc ▸ hcall | cases hc

/-- **What an allowed call does is fair**, and a call that is no send does not
use the channel. -/
theorem fair_of_carries (h : call.Carries context s u answer ds) (hcall : x.Allows side call)
    (hsend : ∀ account order, call ≠ .command account (.send order)) :
    ∀ d ∈ ds, d.Fair (x.bridge side) (x.gate side) (x.gate side.other)
      ∧ ¬ d.Uses (x.gate side) := by
  intro d hd
  have hoccasion := h.occasions d hd
  have plain {e : Endpoint} (hport : e.port = (x.gate side).port)
      (hchannel : '/' ∉ e.channel.toList) : e.Plain :=
    ⟨hport ▸ (x.plain side).1, hchannel⟩
  cases d with
  | minted =>
    obtain rfl := hoccasion
    exact ⟨hcall.1, not_false⟩
  | wrapped =>
    obtain ⟨packet, rfl, rfl⟩ := hoccasion
    obtain ⟨hport, hplain, hne⟩ := hcall
    exact ⟨⟨plain hport hplain, fun heq => absurd heq hne⟩, hne⟩
  | issued =>
    obtain ⟨packet, rfl, rfl⟩ := hoccasion
    obtain ⟨hport, hplain, hne⟩ := hcall
    exact ⟨⟨plain hport hplain, fun heq => absurd heq hne⟩, hne⟩
  | released =>
    obtain ⟨packet, rfl, rfl⟩ := hoccasion
    exact ⟨trivial, hcall.2.2⟩
  | sent p =>
    obtain ⟨order, rfl, -⟩ := hoccasion
    exact absurd rfl (hsend p.sender order)
  | committed => exact ⟨trivial, hcall.settles_ne hoccasion⟩
  | refunded => exact ⟨trivial, hcall.settles_ne hoccasion⟩
  | _ => exact ⟨trivial, not_false⟩

end

/-- **An allowed call sends a packet over the channel, or leaves the channel
alone.** -/
theorem posts_or_not {turn : Turn} (hturn : x.Allows side turn.call) (s : Store Entry) :
    (∃ sent : Sent, x.posted? side (turn.take (x.bridge side) s).1 = some sent.data.encode
        ∧ (Deed.sent sent.shipment).Does (x.bridge side) s (turn.after (x.bridge side) s)
        ∧ sent.shipment.channel = (x.gate side).channel
        ∧ sent.data.classId = sent.shipment.classId
        ∧ sent.data.tokenIds = sent.shipment.tokenIds)
      ∨ x.posted? side (turn.take (x.bridge side) s).1 = none
        ∧ ∃ ds, Path (x.bridge side) s ds (turn.after (x.bridge side) s)
          ∧ ∀ d ∈ ds, d.Fair (x.bridge side) (x.gate side) (x.gate side.other)
            ∧ ¬ d.Uses (x.gate side) := by
  rcases htake : turn.take (x.bridge side) s with ⟨e | answer, u⟩
  · obtain ⟨-, rfl⟩ := Turn.take_eq_error_iff.mp htake
    rw [Turn.after, htake]
    exact .inr ⟨rfl, [], .nil, by simp⟩
  rw [Turn.after, htake]
  have h := Turn.take_eq_ok_iff.mp htake
  obtain ⟨ds, hcarries, hpath⟩ := Call.path_of_yields h
  by_cases hsend : ∃ account order, turn.call = .command account (.send order)
  · obtain ⟨account, order, hcall⟩ := hsend
    rw [hcall] at hcarries
    obtain ⟨sent, hsent, rfl, rfl⟩ := hcarries
    have hposted : x.posted? side
        (.ok (.response { requests := [sent.request], attributes := sent.attributes }))
          = if sent.shipment.channel = (x.gate side).channel then some sent.data.encode
            else none :=
      Answer.packet?_of_sent sent sent.attributes _
    by_cases hchannel : sent.shipment.channel = (x.gate side).channel
    · obtain ⟨_, _, _, _, _, -, -, -, -, -, -, -, -, -, -, hp, hdata, -⟩ :=
        SendOrder.of_yields_run hsent
      refine .inl ⟨sent, hposted.trans (if_pos hchannel), Path.single_iff.mp hpath, hchannel,
        ?_, ?_⟩
      · rw [hdata, hp]
      · rw [hdata, hp]
    · refine .inr ⟨hposted.trans (if_neg hchannel), _, hpath, ?_⟩
      exact List.forall_mem_singleton.mpr ⟨trivial, hchannel⟩
  · have hsend' (account : Address) (order : SendOrder) :
        turn.call ≠ .command account (.send order) := fun heq => hsend ⟨account, order, heq⟩
    exact .inr ⟨Call.packet?_of_yields h hsend' _, ds, hpath,
      fair_of_carries hcarries hturn hsend'⟩

/-! ## Balance -/

/-- **Whether a packet that was posted is on record**: its data is about the
tokens of the record, and the packet is pending as long as it travels. -/
def Recorded (s : Store Entry) (here : Endpoint) (n : UInt64) (letter : Letter) : Prop :=
  ∃ p data, s.shipment? here.channel n = some p ∧ PacketData.decode letter.data = .ok data
    ∧ data.classId = p.classId ∧ data.tokenIds = p.tokenIds
    ∧ (letter.fate = .travelling → p.status = .pending)

/-- **Whether two bridges are in balance.** -/
structure Balanced (x : Crossing) (net : Network) : Prop where
  /-- Both ends of the channel are moored. -/
  moored : ∀ side, Moored (x.bridge side) (x.gate side) (x.gate side.other) (net.store side)
  /-- Each bridge knows which number its chain gives the next packet. -/
  numbered : ∀ side, (net.store side).nextNumber? (x.gate side) = some (net.next side)
  /-- All packets that were posted are on record. -/
  recorded : ∀ side n letter, net.letters side n = some letter →
    Recorded (net.store side) (x.gate side) n letter
  /-- Each token is in one place. -/
  placed : ∀ (lane : x.Lane) tokenId, ∃! place, x.Finds net lane tokenId place

variable {s u : Store Entry} {classId tokenId : String} {n : UInt64}

/-- A store that is disturbed in nothing leaves every token where it is. -/
theorem at_withStore (h : Undisturbed (x.gate side) (net.store side) s) {place : Place} :
    x.At (net.withStore side s) classId tokenId place ↔ x.At net classId tokenId place := by
  obtain heq | heq := side.eq_or_eq_other place.side
  · cases place with
    | atHand side' =>
      obtain rfl : side' = side := heq
      rw [at_atHand, Network.store_withStore, h.atHand, at_atHand]
    | underway side' n =>
      obtain rfl : side' = side := heq
      refine underway_congr ?_ rfl
      rw [Network.store_withStore, h.shipment?]
  · exact at_congr (by rw [heq, Network.store_withStore_other]) rfl

/-- **Whether tokens of a class have landed on a side** between two stores:
they are at hand there afterwards, and nothing else has changed as far as the
channel is concerned. -/
structure Landed (x : Crossing) (side : Side) (classId : String) (tokenIds : List String)
    (s u : Store Entry) : Prop where
  /-- The end of the channel stays moored. -/
  moored : Moored (x.bridge side) (x.gate side) (x.gate side.other) u
  /-- The same is known of the packets that were sent. -/
  records : SameRecords (x.gate side) s u
  /-- What is at hand, and was not, are the tokens. -/
  atHand : ∀ classId' tokenId, u.AtHand (x.gate side) classId' tokenId
    ↔ s.AtHand (x.gate side) classId' tokenId ∨ classId' = classId ∧ tokenId ∈ tokenIds

section

variable {m : Store Entry} {tokenIds : List String} {contents : PacketData} {c : TokenClass}

/-- What a deed brings that sends nothing has landed. -/
theorem landed_of_does {d : Deed}
    (hs : Moored (x.bridge side) (x.gate side) (x.gate side.other) s)
    (hdoes : d.Does (x.bridge side) s u)
    (hfair : d.Fair (x.bridge side) (x.gate side) (x.gate side.other))
    (hfiles : ¬ d.Files (x.gate side))
    (hships : ∀ classId' tokenId, ¬ d.Ships (x.gate side) classId' tokenId)
    (hbrings : ∀ classId' tokenId, d.Brings (x.gate side) classId' tokenId
      ↔ classId' = classId ∧ tokenId ∈ tokenIds) :
    x.Landed side classId tokenIds s u where
  moored := hs.of_does hdoes hfair
  records := hdoes.sameRecords hs.sound hfiles
  atHand classId' tokenId := by
    rw [hdoes.atHand_iff hfair (x.plain side) hs, hbrings,
      and_iff_left (hships classId' tokenId)]

/-- Tokens that are released have landed. -/
theorem landed_of_released {recipient : Address}
    (hs : Moored (x.bridge side) (x.gate side) (x.gate side.other) s)
    (hdoes : (Deed.released (x.gate side).channel classId tokenIds recipient).Does
      (x.bridge side) s u) :
    x.Landed side classId tokenIds s u := by
  refine landed_of_does hs hdoes trivial not_false (fun _ _ => not_false) fun classId' tokenId => ?_
  simp [Deed.Brings, eq_comm]

/-- Tokens that are issued have landed. -/
theorem landed_of_issued (hs : Moored (x.bridge side) (x.gate side) (x.gate side.other) s)
    (hlength : contents.tokenUris.length = contents.tokenIds.length)
    (hdoes : (Deed.issued (x.gate side) contents.classId c contents.tokens
      contents.receiver).Does (x.bridge side) s u) :
    x.Landed side ((x.gate side).extend contents.classId) contents.tokenIds s u := by
  refine landed_of_does hs hdoes ⟨x.plain side, fun _ => rfl⟩ not_false (fun _ _ => not_false)
    fun classId' tokenId => ?_
  have hzip : (∃ uri, (tokenId, uri) ∈ contents.tokens) ↔ tokenId ∈ contents.tokenIds :=
    ⟨fun ⟨_, hmem⟩ => (List.of_mem_zip hmem).1, exists_mem_zip hlength.symm⟩
  simp [Deed.Brings, hzip, eq_comm]

/-- Tokens have landed as well if their class has been registered just
before. -/
theorem Landed.of_wrapped (hs : Moored (x.bridge side) (x.gate side) (x.gate side.other) s)
    (hb : ¬ (x.gate side.other).Brought contents.classId)
    (hdoes : (Deed.wrapped (x.gate side) contents.classId c).Does (x.bridge side) s m)
    (h : Moored (x.bridge side) (x.gate side) (x.gate side.other) m →
      x.Landed side classId tokenIds m u) :
    x.Landed side classId tokenIds s u := by
  have hfair : (Deed.wrapped (x.gate side) contents.classId c).Fair (x.bridge side)
      (x.gate side) (x.gate side.other) :=
    ⟨x.plain side, fun _ => ⟨rfl, hb⟩⟩
  have hlanded := h (hs.of_does hdoes hfair)
  refine ⟨hlanded.moored, (hdoes.sameRecords hs.sound not_false).trans hlanded.records, ?_⟩
  intro classId' tokenId
  rw [hlanded.atHand, hdoes.atHand_of_idle hfair (x.plain side) hs not_false not_false]

end

namespace Balanced

/-- **What disturbs nothing preserves the balance.** -/
theorem of_undisturbed (h : x.Balanced net)
    (hs : Moored (x.bridge side) (x.gate side) (x.gate side.other) s)
    (hu : Undisturbed (x.gate side) (net.store side) s) : x.Balanced (net.withStore side s) where
  moored := Network.forall_withStore
    (P := fun side s => Moored (x.bridge side) (x.gate side) (x.gate side.other) s)
    hs (h.moored _)
  numbered := Network.forall_withStore
    (P := fun side s => s.nextNumber? (x.gate side) = some (net.next side))
    (hu.nextNumber? _ (h.numbered _)) (h.numbered _)
  recorded := by
    refine Network.forall_withStore (P := fun side s => ∀ n letter,
      net.letters side n = some letter → Recorded s (x.gate side) n letter) ?_ (h.recorded _)
    intro n letter hletter
    unfold Recorded
    rw [hu.shipment?]
    exact h.recorded _ n letter hletter
  placed lane tokenId := by
    unfold Finds
    rw [existsUnique_congr fun place => at_withStore hu]
    exact h.placed lane tokenId

/-- A class that is known on a side has a name on the other. -/
theorem linked (h : x.Balanced net) {c : TokenClass}
    (hc : (net.store side).class? classId = some c) :
    ∃ classId', x.Linked side classId classId' := by
  by_cases hb : (x.gate side).Brought classId
  · have ho := ((h.moored side).brought_iff (x.plain side) hc).mp hb
    obtain ⟨inner, rfl, hinner⟩ := (h.moored side).brought hc ho
    exact ⟨inner, .inr ⟨hinner, rfl⟩⟩
  · exact ⟨_, .inl ⟨hb, rfl⟩⟩

/-- **A send takes tokens from where they are at hand** and makes them
underway. -/
theorem shift_of_sent (h : x.Balanced net) {p : Shipment} {data : Bytes}
    (hdoes : (Deed.sent p).Does (x.bridge side) (net.store side) u)
    (hchannel : p.channel = (x.gate side).channel) (hn : net.next side = p.sequence)
    (hlinked : x.Linked side p.classId classId) :
    x.Shift net ((net.withStore side u).post side (some data)) (.of hlinked) p.tokenIds
      (.atHand side) (.underway side p.sequence) where
  held tokenId hmem := by
    rw [at_atHand, Place.side, Lane.name_of]
    exact (hdoes.atHand_of_ships (x.plain side) (h.moored side) ⟨hchannel, rfl, hmem⟩).1
  leaves classId' tokenId := by
    rw [at_atHand, at_atHand, Place.side, Lane.name_of, Network.store_post,
      Network.store_withStore, hdoes.atHand_iff trivial (x.plain side) (h.moored side)]
    simp [Deed.Brings, Deed.Ships, hchannel, eq_comm]
  arrives classId' tokenId := by
    obtain ⟨-, -, hships⟩ := hdoes.records_of_sent (h.moored side).sound hchannel
    have hfresh := (h.moored side).sound.fresh hdoes
    rw [hchannel] at hfresh
    rw [at_underway, at_underway, Place.side, Lane.name_of]
    unfold Underway
    rw [Network.store_post, Network.store_withStore, hships, if_pos rfl, hfresh]
    simp [Network.letters_post, hn, hdoes.1, eq_comm]
  stays place hsource htarget classId' tokenId := by
    obtain heq | heq := side.eq_or_eq_other place.side
    · cases place with
      | atHand side' => exact absurd (congrArg Place.atHand heq) hsource
      | underway side' n =>
        obtain rfl : side' = side := heq
        have hne : n ≠ p.sequence := by
          rintro rfl
          exact htarget rfl
        obtain ⟨-, -, hships⟩ := hdoes.records_of_sent (h.moored side').sound hchannel
        refine underway_congr ?_ ?_
        · rw [Network.store_post, Network.store_withStore, hships, if_neg hne]
        · rw [Network.letters_post, Network.next_withStore, hn, if_neg fun hand => hne hand.2,
            Network.letters_withStore]
    · refine at_congr ?_ ?_
      · rw [Network.store_post, heq, Network.store_withStore_other]
      · funext n
        rw [Network.letters_post, heq, if_neg fun hand => side.ne_other hand.1.symm,
          Network.letters_withStore]

/-- **A send preserves the balance.** -/
theorem of_sent (h : x.Balanced net) {sent : Sent}
    (hdoes : (Deed.sent sent.shipment).Does (x.bridge side) (net.store side) u)
    (hchannel : sent.shipment.channel = (x.gate side).channel)
    (hclass : sent.data.classId = sent.shipment.classId)
    (htokens : sent.data.tokenIds = sent.shipment.tokenIds) :
    x.Balanced ((net.withStore side u).post side (some sent.data.encode)) := by
  have hs := h.moored side
  obtain ⟨hnext, hnext', hships⟩ := hdoes.records_of_sent hs.sound hchannel
  have hn : net.next side = sent.shipment.sequence :=
    Option.some.inj ((h.numbered side).symm.trans hnext)
  obtain ⟨hpend, -, ⟨c, hc, -⟩, -⟩ := id hdoes
  obtain ⟨classId', hlinked⟩ := h.linked hc
  refine ⟨?_, ?_, ?_, fun lane tokenId => ?_⟩
  · exact Network.forall_withStore
      (P := fun side s => Moored (x.bridge side) (x.gate side) (x.gate side.other) s)
      (hs.of_does hdoes trivial) (h.moored _)
  · refine Network.forall_withStore (P := fun side' s => s.nextNumber? (x.gate side')
      = some (((net.withStore side u).post side (some sent.data.encode)).next side')) ?_ ?_
    · rw [Network.next_post, if_pos rfl, Network.next_withStore, hn]
      exact hnext'
    · rw [Network.next_post, if_neg side.ne_other.symm]
      exact h.numbered _
  · refine Network.forall_withStore (P := fun side' s => ∀ n letter,
      ((net.withStore side u).post side (some sent.data.encode)).letters side' n = some letter →
        Recorded s (x.gate side') n letter) ?_ ?_
    all_goals
      intro n letter hletter
      rw [Network.letters_post, Network.next_withStore, hn, Network.letters_withStore] at hletter
    · unfold Recorded
      rw [hships]
      split at hletter
      · next hand =>
        obtain rfl := Option.some.inj hletter
        rw [if_pos hand.2]
        exact ⟨_, _, rfl, sent.data.decode_encode, hclass, htokens, fun _ => hpend⟩
      · next hand =>
        rw [if_neg fun heq => hand ⟨rfl, heq⟩]
        exact h.recorded _ n letter hletter
    · rw [if_neg fun hand => side.ne_other hand.1.symm] at hletter
      exact h.recorded _ n letter hletter
  · exact (h.shift_of_sent hdoes hchannel hn hlinked).existsUnique lane (h.placed lane tokenId)

/-! ### Deliveries -/

/-- **A token that is underway is at hand on neither side.** -/
theorem not_atHand (h : x.Balanced net) {classId' : String}
    (hunderway : x.Underway net side n classId tokenId) (hlinked : x.Linked side classId classId')
    (side' : Side) :
    ¬ (net.store side').AtHand (x.gate side') ((Lane.of hlinked).name side') tokenId := by
  intro hat
  have hfinds : x.Finds net (.of hlinked) tokenId (.underway side n) := by
    unfold Finds
    rw [at_underway, Place.side, Lane.name_of]
    exact hunderway
  have hfinds' : x.Finds net (.of hlinked) tokenId (.atHand side') := hat
  cases (h.placed _ tokenId).unique hfinds hfinds'

/-- What the tokens of a packet were deposited for has not come over the
channel, so they come home. -/
theorem homeOf?_eq_some (h : x.Balanced net) {p : Shipment}
    (hunderway : x.Underway net side n p.classId tokenId)
    (hlinked : x.Linked side p.classId classId) (hb : (x.gate side).Brought p.classId) :
    (net.store side.other).homeOf? (x.gate side) (x.gate side.other).channel p.classId tokenId
      = some classId := by
  have hnot := h.not_atHand hunderway hlinked side.other
  rw [Lane.name_of_other] at hnot
  obtain ⟨hn, -⟩ | ⟨hn, heq⟩ := hlinked
  · exact absurd hb hn
  rw [atHand_of_not_brought hn] at hnot
  exact homeOf?_eq_some_iff.mpr ⟨heq, by simpa using hnot⟩

/-- **A delivery lands the tokens of the packet** on the other side. -/
theorem lands (h : x.Balanced net) {p : Shipment} {data : Bytes} {contents : PacketData}
    {ds : List Deed} (hlinked : x.Linked side p.classId classId)
    (hunderway : ∀ tokenId ∈ p.tokenIds, x.Underway net side n p.classId tokenId)
    (hclass : contents.classId = p.classId) (htokens : contents.tokenIds = p.tokenIds)
    (hvalid : contents.validate = .ok ())
    (hlands : (x.packet side n data).Lands contents (net.store side.other) ds)
    (hpath : Path (x.bridge side.other) (net.store side.other) ds u) :
    x.Landed side.other classId p.tokenIds (net.store side.other) u := by
  obtain ⟨hne, hlength⟩ := PacketData.of_validate hvalid
  obtain ⟨tokenId, hmem⟩ := List.exists_mem_of_ne_nil _ hne
  have hs := h.moored side.other
  rw [← htokens]
  obtain ⟨home, hall, rfl⟩ | ⟨hall, c, hds⟩ := hlands
  · -- the tokens come home to the class that they have left
    have hhome := (homeOf?_eq_some_iff.mp (hall tokenId hmem)).1
    rw [hclass] at hhome
    obtain rfl : home = classId := by
      obtain ⟨hb, -⟩ | ⟨-, heq⟩ := hlinked
      · exact absurd ⟨home, hhome⟩ hb
      · exact Endpoint.extend_injective (hhome.symm.trans heq)
    exact landed_of_released hs (Path.single_iff.mp hpath)
  · -- the tokens are new on this side, and so they have not come from here
    have hb : ¬ (x.gate side).Brought p.classId := by
      intro hb
      have hsome := h.homeOf?_eq_some (hunderway tokenId (htokens ▸ hmem)) hlinked hb
      rw [← hclass] at hsome
      cases (hall tokenId hmem).symm.trans hsome
    obtain rfl : classId = (x.gate side.other).extend contents.classId := by
      obtain ⟨-, heq⟩ | ⟨-, heq⟩ := hlinked
      · rw [heq, hclass]
      · exact absurd ⟨classId, heq⟩ hb
    rw [← hclass, ← Side.other_other side] at hb
    obtain rfl | rfl := hds
    · exact landed_of_issued hs hlength (Path.single_iff.mp hpath)
    · obtain ⟨m, hwrapped, hissued⟩ := Path.cons_iff.mp hpath
      exact .of_wrapped hs hb hwrapped fun hm =>
        landed_of_issued hm hlength (Path.single_iff.mp hissued)

/-- A packet that travels carries what its record says. -/
theorem underway_of_travelling {p : Shipment} {data : Bytes}
    (hletter : net.letters side n = some ⟨data, .travelling⟩)
    (hp : (net.store side).shipment? (x.gate side).channel n = some p)
    (hpend : p.status = .pending) (hmem : tokenId ∈ p.tokenIds) :
    x.Underway net side n p.classId tokenId :=
  ⟨p, hp, hpend, rfl, hmem, by simp [hletter]⟩

/-- **A delivery takes tokens that are underway** and makes them at hand on
the other side. -/
theorem shift_of_delivered {p : Shipment} {data : Bytes}
    (hlinked : x.Linked side p.classId classId)
    (hletter : net.letters side n = some ⟨data, .travelling⟩)
    (hp : (net.store side).shipment? (x.gate side).channel n = some p)
    (hpend : p.status = .pending)
    (hlanded : x.Landed side.other classId p.tokenIds (net.store side.other) u) :
    x.Shift net ((net.withStore side.other u).withLetter side n ⟨data, .answered .success⟩)
      (.of hlinked) p.tokenIds (.underway side n) (.atHand side.other) where
  held tokenId hmem := by
    rw [at_underway, Place.side, Lane.name_of]
    exact underway_of_travelling hletter hp hpend hmem
  leaves classId' tokenId := by
    rw [at_underway, at_underway, Place.side, Lane.name_of]
    refine iff_of_false ?_ ?_
    · rintro ⟨-, -, -, -, -, hnot⟩
      exact hnot data (if_pos ⟨rfl, rfl⟩)
    · rintro ⟨⟨q, hq, -, hname, hmem, -⟩, hnot⟩
      obtain rfl : p = q := Option.some.inj (hp.symm.trans hq)
      exact hnot ⟨hname.symm, hmem⟩
  arrives classId' tokenId := by
    rw [at_atHand, at_atHand, Place.side, Lane.name_of_other, Network.store_withLetter,
      Network.store_withStore, hlanded.atHand]
  stays place hsource htarget classId' tokenId := by
    obtain heq | heq := side.eq_or_eq_other place.side
    · cases place with
      | atHand side' =>
        obtain rfl : side' = side := heq
        rw [at_atHand, at_atHand, Network.store_withLetter, Network.store_withStore_across]
      | underway side' n' =>
        obtain rfl : side' = side := heq
        refine underway_congr ?_ ?_
        · rw [Network.store_withLetter, Network.store_withStore_across]
        · rw [Network.letters_withLetter, if_neg fun hand => hsource (by rw [hand.2]),
            Network.letters_withStore]
    · cases place with
      | atHand side' => exact absurd (congrArg Place.atHand heq) htarget
      | underway side' n' =>
        obtain rfl : side' = side.other := heq
        refine underway_congr ?_ ?_
        · rw [Network.store_withLetter, Network.store_withStore, hlanded.records.shipment?]
        · rw [Network.letters_withLetter, if_neg fun hand => side.ne_other hand.1.symm,
            Network.letters_withStore]

/-- **A packet that is not taken leaves every token where it is**, whether it
is answered with an error or comes too late. -/
theorem of_letter (h : x.Balanced net) {data : Bytes} {fate : Fate}
    (hletter : net.letters side n = some ⟨data, .travelling⟩) (hfate : fate ≠ .travelling)
    (hnot : fate ≠ .answered .success) :
    x.Balanced (net.withLetter side n ⟨data, fate⟩) where
  moored := h.moored
  numbered := h.numbered
  recorded side' n' letter hletter' := by
    rw [Network.letters_withLetter] at hletter'
    split at hletter'
    · next hand =>
      obtain ⟨rfl, rfl⟩ := hand
      obtain rfl := Option.some.inj hletter'
      obtain ⟨p, contents, hp, hdecode, hclass, htokens, -⟩ := h.recorded _ _ _ hletter
      exact ⟨p, contents, hp, hdecode, hclass, htokens, fun heq => absurd heq hfate⟩
    · exact h.recorded side' n' letter hletter'
  placed lane tokenId := by
    unfold Finds
    refine (existsUnique_congr fun place => ?_).mpr (h.placed lane tokenId)
    cases place with
    | atHand side' => exact .rfl
    | underway side' n' =>
      rw [Finds, at_underway, at_underway]
      unfold Underway
      rw [Network.letters_withLetter, Network.store_withLetter]
      split
      · next hand =>
        rw [hand.1, hand.2, hletter]
        simp [hnot]
      · exact .rfl

/-- **A delivery preserves the balance.** -/
theorem of_delivered (h : x.Balanced net) {data : Bytes} {now : UInt64} {receipt : Receipt}
    (hletter : net.letters side n = some ⟨data, .travelling⟩)
    (htake : (⟨now, .arrived (x.packet side n data)⟩ : Turn).take (x.bridge side.other)
      (net.store side.other) = (.ok (.receipt receipt), s)) :
    x.Balanced
      ((net.withStore side.other s).withLetter side n ⟨data, .answered receipt.ack⟩) := by
  obtain ⟨ds, ⟨receipt', heq, hcarries⟩, hpath⟩ := Turn.path_of_take htake
  obtain rfl := Answer.receipt.inj heq
  obtain ⟨hack, rfl⟩ | ⟨hack, contents, hdecode, hvalid, hlands⟩ := hcarries
  · obtain rfl := Path.nil_iff.mp hpath
    refine (h.of_undisturbed (h.moored side.other) ⟨.refl, fun _ _ => .rfl⟩).of_letter hletter
      (by simp) ?_
    intro heq
    rw [Fate.answered.inj heq] at hack
    cases hack
  · obtain ⟨p, contents', hp, hdecode', hclass, htokens, hpend⟩ := h.recorded side n _ hletter
    obtain rfl := Except.ok.inj (hdecode'.symm.trans hdecode)
    have hunderway : ∀ tokenId ∈ p.tokenIds, x.Underway net side n p.classId tokenId :=
      fun tokenId => underway_of_travelling hletter hp (hpend rfl)
    obtain ⟨c, hc, -⟩ := (h.moored side).sound.custody hp
    obtain ⟨classId', hlinked⟩ := h.linked hc
    have hlanded := h.lands hlinked hunderway hclass htokens hvalid hlands hpath
    rw [hack]
    refine ⟨?_, ?_, ?_, fun lane tokenId => ?_⟩
    · refine Network.forall_withStore
        (P := fun side s => Moored (x.bridge side) (x.gate side) (x.gate side.other) s)
        hlanded.moored ?_
      rw [Side.other_other]
      exact h.moored side
    · exact Network.forall_withStore
        (P := fun side s => s.nextNumber? (x.gate side) = some (net.next side))
        (hlanded.records.nextNumber? _ (h.numbered _)) (h.numbered _)
    · intro side' n' letter hletter'
      rw [Network.letters_withLetter, Network.letters_withStore] at hletter'
      rw [Network.store_withLetter]
      obtain rfl | rfl := side.eq_or_eq_other side'
      · rw [Network.store_withStore_across]
        split at hletter'
        · next hand =>
          obtain rfl := Option.some.inj hletter'
          rw [hand.2]
          exact ⟨p, contents', hp, hdecode, hclass, htokens, by simp⟩
        · exact h.recorded side' n' letter hletter'
      · rw [if_neg fun hand => side.ne_other hand.1.symm] at hletter'
        unfold Recorded
        rw [Network.store_withStore, hlanded.records.shipment?]
        exact h.recorded side.other n' letter hletter'
    · exact (shift_of_delivered hlinked hletter hp (hpend rfl) hlanded).existsUnique lane
        (h.placed lane tokenId)

/-! ### Answers and delays -/

/-- Settling a packet that does not travel any more preserves the balance if
each token is still in one place. -/
theorem of_resolved (h : x.Balanced net) {d : Deed} {p : Shipment} {status : Status}
    {letter : Letter} (hletter : net.letters side n = some letter)
    (hfate : letter.fate ≠ .travelling) (hdoes : d.Does (x.bridge side) (net.store side) u)
    (hd : d.Resolves (x.gate side).channel n p status)
    (hplaced : ∀ (lane : x.Lane) tokenId, ∃! place,
      x.Finds (net.withStore side u) lane tokenId place) :
    x.Balanced (net.withStore side u) := by
  have hs := h.moored side
  obtain ⟨hp, hpend, hnext, hships⟩ := hdoes.records_of_resolves hs.sound hd
  have hfair : d.Fair (x.bridge side) (x.gate side) (x.gate side.other) := by
    obtain ⟨-, rfl⟩ | ⟨-, rfl⟩ := hd <;> trivial
  refine ⟨?_, ?_, ?_, hplaced⟩
  · exact Network.forall_withStore
      (P := fun side s => Moored (x.bridge side) (x.gate side) (x.gate side.other) s)
      (hs.of_does hdoes hfair) (h.moored _)
  · exact Network.forall_withStore
      (P := fun side s => s.nextNumber? (x.gate side) = some (net.next side))
      (hnext _ (h.numbered _)) (h.numbered _)
  · refine Network.forall_withStore (P := fun side s => ∀ n letter,
      net.letters side n = some letter → Recorded s (x.gate side) n letter) ?_ (h.recorded _)
    intro n' letter' hletter'
    obtain ⟨q, contents, hq, hrest⟩ := h.recorded _ n' letter' hletter'
    unfold Recorded
    rw [hships]
    by_cases heq : n' = n
    · subst heq
      obtain rfl : p = q := Option.some.inj (hp.symm.trans hq)
      obtain rfl : letter = letter' := Option.some.inj (hletter.symm.trans hletter')
      obtain ⟨hdecode, hclass, htokens, -⟩ := hrest
      rw [if_pos rfl]
      exact ⟨_, contents, rfl, hdecode, hclass, htokens, fun htravel => absurd htravel hfate⟩
    · rw [if_neg heq]
      exact ⟨q, contents, hq, hrest⟩

/-- The places of a side that are not about a packet stay as they are when it
is settled. -/
theorem at_of_resolved (h : x.Balanced net) {d : Deed} {p : Shipment} {status : Status}
    (hdoes : d.Does (x.bridge side) (net.store side) u)
    (hd : d.Resolves (x.gate side).channel n p status) {place : Place}
    (hpacket : place ≠ .underway side n) (hside : place ≠ .atHand side) :
    x.At (net.withStore side u) classId tokenId place ↔ x.At net classId tokenId place := by
  obtain heq | heq := side.eq_or_eq_other place.side
  · cases place with
    | atHand side' => exact absurd (congrArg Place.atHand heq) hside
    | underway side' n' =>
      obtain rfl : side' = side := heq
      obtain ⟨-, -, -, hships⟩ := hdoes.records_of_resolves (h.moored side').sound hd
      refine underway_congr ?_ rfl
      rw [Network.store_withStore, hships, if_neg fun heq => hpacket (by rw [heq])]
  · exact at_congr (by rw [heq, Network.store_withStore_other]) rfl

/-- A packet that is settled is not underway. -/
theorem not_underway_of_resolved (h : x.Balanced net) {d : Deed} {p : Shipment}
    {status : Status} (hdoes : d.Does (x.bridge side) (net.store side) u)
    (hd : d.Resolves (x.gate side).channel n p status) :
    ¬ x.Underway (net.withStore side u) side n classId tokenId := by
  obtain ⟨-, -, -, hships⟩ := hdoes.records_of_resolves (h.moored side).sound hd
  rintro ⟨q, hq, hpend, -⟩
  rw [Network.store_withStore, hships, if_pos rfl] at hq
  obtain rfl := Option.some.inj hq
  exact hd.ne_pending hpend

/-- **A refund takes tokens that are underway** and makes them at hand where
they have come from. -/
theorem shift_of_refunded (h : x.Balanced net) {p : Shipment}
    (hdoes : (Deed.refunded (x.gate side).channel n p).Does (x.bridge side) (net.store side) u)
    (hletter : ∀ data, net.letters side n ≠ some ⟨data, .answered .success⟩)
    (hlinked : x.Linked side p.classId classId) :
    x.Shift net (net.withStore side u) (.of hlinked) p.tokenIds (.underway side n)
      (.atHand side) where
  held tokenId hmem := by
    rw [at_underway, Place.side, Lane.name_of]
    exact ⟨p, hdoes.1, hdoes.2.1, rfl, hmem, hletter⟩
  leaves classId' tokenId := by
    rw [at_underway, at_underway, Place.side, Lane.name_of]
    refine iff_of_false (h.not_underway_of_resolved hdoes (.inr ⟨rfl, rfl⟩)) ?_
    rintro ⟨⟨q, hq, -, hname, hmem, -⟩, hnot⟩
    obtain rfl : p = q := Option.some.inj (hdoes.1.symm.trans hq)
    exact hnot ⟨hname.symm, hmem⟩
  arrives classId' tokenId := by
    rw [at_atHand, at_atHand, Place.side, Lane.name_of, Network.store_withStore,
      hdoes.atHand_iff trivial (x.plain side) (h.moored side)]
    simp [Deed.Brings, Deed.Ships, eq_comm]
  stays place hsource htarget classId' tokenId :=
    h.at_of_resolved hdoes (.inr ⟨rfl, rfl⟩) hsource htarget

/-- **What comes back for a packet preserves the balance**, if it says
whether the packet has been taken. -/
theorem of_settled (h : x.Balanced net) {data : Bytes} {fate : Fate} {outcome : Outcome}
    {ds : List Deed} (hletter : net.letters side n = some ⟨data, fate⟩)
    (hfate : fate ≠ .travelling) (hdelivered : outcome = .delivered → fate = .answered .success)
    (hfailed : outcome = .failed → fate ≠ .answered .success)
    (hds : (x.packet side n data).Settles outcome ds)
    (hpath : Path (x.bridge side) (net.store side) ds u) : x.Balanced (net.withStore side u) := by
  obtain rfl | ⟨p, contents, -, -, ⟨hout, rfl⟩ | ⟨hout, rfl⟩⟩ := hds
  · obtain rfl := Path.nil_iff.mp hpath
    exact h.of_undisturbed (h.moored side) ⟨.refl, fun _ _ => .rfl⟩
  · have hdoes := Path.single_iff.mp hpath
    refine h.of_resolved hletter hfate hdoes (.inl ⟨rfl, rfl⟩) fun lane tokenId => ?_
    refine (existsUnique_congr fun place => ?_).mpr (h.placed lane tokenId)
    -- the packet has been taken, so its tokens were not underway any more
    unfold Finds
    by_cases hpacket : place = .underway side n
    · subst hpacket
      refine iff_of_false (h.not_underway_of_resolved hdoes (.inl ⟨rfl, rfl⟩)) ?_
      rintro ⟨-, -, -, -, -, hnot⟩
      exact hnot data (hdelivered hout ▸ hletter)
    by_cases hside : place = .atHand side
    · subst hside
      rw [at_atHand, at_atHand, Network.store_withStore]
      exact hdoes.atHand_of_idle trivial (x.plain side) (h.moored side) not_false not_false
    · exact h.at_of_resolved hdoes (.inl ⟨rfl, rfl⟩) hpacket hside
  · have hdoes : (Deed.refunded (x.gate side).channel n p).Does (x.bridge side)
        (net.store side) u :=
      Path.single_iff.mp hpath
    obtain ⟨c, hc, -⟩ := (h.moored side).sound.custody hdoes.1
    obtain ⟨classId', hlinked⟩ := h.linked hc
    refine h.of_resolved hletter hfate hdoes (.inr ⟨rfl, rfl⟩) fun lane tokenId => ?_
    refine (h.shift_of_refunded hdoes (fun data' heq => ?_) hlinked).existsUnique lane
      (h.placed lane tokenId)
    rw [hletter] at heq
    exact hfailed hout (congrArg Letter.fate (Option.some.inj heq))

/-- The answer that comes back is noted, and then the packet is settled. -/
theorem of_acknowledged (h : x.Balanced net) {data : Bytes} {ack : Ack} {ds : List Deed}
    (hletter : net.letters side n = some ⟨data, .answered ack⟩)
    (hds : (x.packet side n data).Settles (Ack.decodeLenient ack.encode).outcome ds)
    (hpath : Path (x.bridge side) (net.store side) (.noted :: ds) u) :
    x.Balanced (net.withStore side u) := by
  obtain ⟨m, hnoted, hsettled⟩ := Path.cons_iff.mp hpath
  obtain ⟨hm, hundisturbed⟩ := (Path.single hnoted).undisturbed (x.plain side)
    (List.forall_mem_singleton.mpr ⟨trivial, not_false⟩) (h.moored side)
  rw [Ack.decodeLenient_encode] at hds
  have hafter : Path (x.bridge side) ((net.withStore side m).store side) ds u := by
    rw [Network.store_withStore]
    exact hsettled
  rw [← Network.withStore_withStore]
  refine (h.of_undisturbed hm hundisturbed).of_settled hletter (by simp) (fun hout => ?_)
    (fun hout heq => ?_) hds hafter
  · cases ack with
    | success => rfl
    | error message => cases hout
  · rw [Fate.answered.inj heq] at hout
    cases hout

/-! ### All steps -/

/-- **Every step preserves the balance.** -/
theorem of_step {net' : Network} (h : x.Balanced net) (hstep : x.Step net net') :
    x.Balanced net' := by
  cases hstep with
  | called side turn allowed =>
    obtain ⟨sent, hposted, hdoes, hchannel, hclass, htokens⟩ | ⟨hposted, ds, hpath, hds⟩ :=
      posts_or_not allowed (net.store side)
    · rw [call, hposted]
      exact h.of_sent hdoes hchannel hclass htokens
    · obtain ⟨hu, hundisturbed⟩ := hpath.undisturbed (x.plain side) hds (h.moored side)
      rw [call, hposted]
      exact h.of_undisturbed hu hundisturbed
  | delivered side n data now receipt s travelling taken => exact h.of_delivered travelling taken
  | acknowledged side n data now ack answered =>
    obtain heq | ⟨answer, ds, -, ⟨ds', rfl, hds⟩, hpath⟩ := Turn.path (x.bridge side)
      ⟨now, .acknowledged (x.packet side n data) ack.encode⟩ (net.store side)
    · rw [heq]
      exact h.of_undisturbed (h.moored side) ⟨.refl, fun _ _ => .rfl⟩
    · exact h.of_acknowledged answered hds hpath
  | expired side n data travelling => exact h.of_letter travelling (by simp) (by simp)
  | timedOut side n data now late =>
    obtain heq | ⟨answer, ds, -, hds, hpath⟩ := Turn.path (x.bridge side)
      ⟨now, .timedOut (x.packet side n data)⟩ (net.store side)
    · rw [heq]
      exact h.of_undisturbed (h.moored side) ⟨.refl, fun _ _ => .rfl⟩
    · exact h.of_settled late (by simp) (by simp) (by simp) hds hpath

end Balanced

end Crossing

end TokenBridge
