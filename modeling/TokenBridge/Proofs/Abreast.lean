import Mathlib.Data.List.Sort
import TokenBridge.Proofs.Containment
import TokenBridge.Proofs.Territories

/-!
# Callbacks side by side

A callback on a channel cannot tell stores from each other that are alike in a
territory of the channel (`Call.respects_perform`). It is respected link by link,
and its loops by their turns, so there is one lemma for each operation.

Two of the operations look at what is not the channel's own. To release a token
is to ask first whether it is deposited for the channel; if it is not, then it is
no matter for which one it is. And to mint a token is to ask first whether it
exists, in a class that has come over the channel. No other channel makes tokens
of such a class, so a token that is not the channel's own to make is there, in
whatever hands.
-/

namespace TokenBridge

open Program Store

/-- The settings are the same. -/
theorem Settings.respects_load {T : Territory} {s₀ s₀' : Store Entry} :
    load.Respects (T.Abreast s₀ s₀') :=
  (Table.respects_find?_of fun _ _ h => h.settings).bind fun _ => respects_ofOption

/-! ## Tokens -/

section

variable {T : Territory} {s₀ s₀' : Store Entry} {bridge : Address} {classId tokenId : String}

/-- **A token in a class that has come over the channel** is the channel's own, or
it exists and cannot be made. -/
theorem Token.respects_mint {owner : Address} {uri : Option String} (hc : T.came classId) :
    (mint classId tokenId owner uri).Respects (T.Abreast s₀ s₀') := by
  by_cases hk : T.own (.token classId tokenId)
  · refine (Table.respects_has hk (by simp)).bind fun there => ?_
    exact respects_guard (Table.respects_put hk trivial)
  · have hthere {s : Store Entry} (h : T.Fenced s) : (s.token? classId tokenId).isSome :=
      Option.isSome_iff_ne_none.mpr (h.tokens hc hk)
    refine Respects.bind_of (Table.respects_has_of fun s s' h => ?_) fun there s s' m h hm => ?_
    · rw [hthere h.fenced, hthere h.fenced']
    · obtain ⟨-, rfl, -⟩ := Table.yields_has.mp hm
      rw [if_pos (hthere h.fenced)]
      exact respects_throw_bind

/-- Passing on a token that is the channel's own. -/
theorem Token.respects_transfer {giver taker : Address} (hk : T.own (.token classId tokenId)) :
    (transfer classId tokenId giver taker).Respects (T.Abreast s₀ s₀') := by
  refine Respects.bind ?_ fun token => Table.respects_put hk trivial
  exact (Table.respects_find hk (by simp)).bind fun token => respects_guard respects_pure

/-- **A token is released** if it is deposited for the channel, and is its own
then. -/
theorem Deposit.respects_release {recipient : Address} :
    (release bridge classId tokenId T.channel recipient).Respects (T.Abreast s₀ s₀') := by
  by_cases hk : T.own (.deposit classId tokenId)
  · refine (Table.respects_find? hk (by simp)).bind fun found =>
      respects_ofOption.bind fun deposit => (Table.respects_erase hk).bind fun _ =>
        (Token.respects_transfer (T.token_own hk)).bind fun _ => respects_pure
  · have hrun {s : Store Entry} (h : T.Fenced s) :
        (release bridge classId tokenId T.channel recipient).run s
          = if (Key.deposit classId tokenId).Fits then
              (.error (.error (.notDeposited classId tokenId T.channel)), s)
            else (.error (.abort .longKey), s) := by
      have hnone : (s.deposit? classId tokenId).filter (·.channel = T.channel) = none :=
        Option.filter_eq_none_iff.mpr fun deposit hd => by simpa using h.deposits hk deposit hd
      rw [release, Table.run_find?_bind, hnone]
      rfl
    refine respects_of_reads fun s s' h => ?_
    rw [hrun h.fenced, hrun h.fenced']
    split
    · exact ⟨_, rfl, rfl⟩
    · exact ⟨_, rfl, rfl⟩

/-- Whether a token comes home is the same to ask. -/
theorem TokenClass.respects_homeOf? {source : Endpoint} :
    (homeOf? source T.channel classId tokenId).Respects (T.Abreast s₀ s₀') := by
  rw [homeOf?]
  split
  · exact respects_pure
  · next home hstrip =>
    refine respects_of_reads fun s s' h => ?_
    have hsame : (s'.deposit? home tokenId).map (·.channel) = some T.channel
        ↔ (s.deposit? home tokenId).map (·.channel) = some T.channel := by
      simp only [Option.map_eq_some_iff]
      exact exists_congr fun deposit => and_congr_left h.toAlike.deposit?_iff
    simp only [Deposit.channelOf?, bind_assoc, pure_bind, Table.run_find?_bind, hsame]
    split
    · exact ⟨_, rfl, rfl⟩
    · exact ⟨_, rfl, rfl⟩

/-- A class is kept under its name and under the address of its collection. -/
theorem TokenClass.respects_keep {c : TokenClass} (hclass : T.own (.tokenClass c.id))
    (hcollection : T.own (.collection c.collection)) :
    (keep c).Respects (T.Abreast s₀ s₀') :=
  Respects.bind (Table.respects_put hclass (rfl : c.id = c.id)) fun _ =>
    Table.respects_put hcollection trivial

/-- **The class of a packet that arrives** is found or made as the channel's
own. -/
theorem TokenClass.respects_findOrCreate {uri : Option String}
    (hclass : T.own (.tokenClass classId))
    (hcollection : T.own (.collection (collectionAddress classId))) :
    (findOrCreate classId uri T.channel bridge).Respects (T.Abreast s₀ s₀') := by
  refine (Table.respects_find? hclass (by simp)).bind fun found => ?_
  split
  · exact respects_pure
  · exact (respects_keep hclass hcollection).bind fun _ => respects_pure

/-- It is the class of that name. -/
theorem TokenClass.id_of_findOrCreate {uri : Option String} {c : TokenClass} {created : Bool}
    {s u : Store Entry} (hclass : T.own (.tokenClass classId)) (hs : T.Fenced s)
    (h : (findOrCreate classId uri T.channel bridge).Yields s (c, created) u) :
    c.id = classId := by
  simp only [findOrCreate, yields_bind, Table.yields_find?] at h
  obtain ⟨found, _, ⟨-, rfl, rfl⟩, h⟩ := h
  split at h
  · next c' hc =>
    obtain rfl : c = c' := congrArg Prod.fst (yields_pure.mp h).1
    exact hs.id_of_class? hclass hc
  · simp only [yields_bind, yields_keep, yields_pure, Prod.mk.injEq] at h
    obtain ⟨_, _, -, ⟨rfl, -⟩, -⟩ := h
    rfl

end

/-! ## Packets -/

section

variable {T : Territory} {s₀ s₀' : Store Entry} {bridge : Address}

/-- **Settling a packet** of the channel, which has burned only what had come over
the channel. -/
theorem Shipment.respects_settle {p : Shipment} {outcome : Outcome}
    (hchannel : p.channel = T.channel) (hburned : p.custody = .burned → T.came p.classId) :
    (p.settle bridge outcome).Respects (T.Abreast s₀ s₀') := by
  have hrefund : (p.refund bridge).Respects (T.Abreast s₀ s₀') := by
    rw [refund]
    split
    · refine respects_forM fun tokenId _ => ?_
      rw [hchannel]
      exact Deposit.respects_release.bind fun _ => respects_pure
    · next hcustody => exact respects_forM fun x _ => Token.respects_mint (hburned hcustody)
  have hrest {status : Status} {settlement : Settlement} :
      (do
        keep { p with status }
        Table.pending.erase (p.channel, p.sequence)
        return settlement : Bridge Settlement).Respects (T.Abreast s₀ s₀') := by
    refine Respects.bind (Table.respects_put ?_ ⟨rfl, rfl, hburned⟩) fun _ =>
      Respects.bind (Table.respects_erase ?_) fun _ => respects_pure
    · exact hchannel ▸ T.shipment_own p.sequence
    · exact hchannel ▸ T.pending_own p.sequence
  rw [settle]
  split
  · exact respects_pure
  · split
    · exact hrefund.bind fun _ => hrest
    · exact hrest

/-- The packet that was sent on the channel under a number. -/
theorem Shipment.respects_find {n : UInt64} :
    (find T.channel n).Respects (T.Abreast s₀ s₀') :=
  Table.respects_find (T.shipment_own n) (by simp)

/-! ## The close of a channel -/

/-- **The packets that are pending on the channel** are the same. -/
theorem Table.respects_pendingOn : (pendingOn T.channel).Respects (T.Abreast s₀ s₀') := by
  refine respects_of_reads fun s s' h => ?_
  obtain hall | hall := pendingOn_cases T.channel
  · obtain ⟨sequences, hs⟩ := hall s
    obtain ⟨sequences', hs'⟩ := hall s'
    obtain ⟨hmem, hsorted⟩ := of_yields_pendingOn h.fenced.keyed hs
    obtain ⟨hmem', hsorted'⟩ := of_yields_pendingOn h.fenced'.keyed hs'
    -- they are found in the same order, so it is enough that they are the same
    have heq : sequences' = sequences := by
      refine List.Pairwise.eq_of_mem_iff hsorted' hsorted fun n => ?_
      rw [hmem, hmem', h.same (T.pending_own n) (by simp)]
    exact ⟨_, hs, heq ▸ hs'⟩
  · exact ⟨_, hall s, hall s'⟩

namespace Channel

variable {drained : Drained}

theorem respects_find : (find T.channel).Respects (T.Abreast s₀ s₀') :=
  Table.respects_find T.channel_own (by simp)

theorem respects_enter {channel : Channel} {phase : Phase} :
    (channel.enter T.channel phase).Respects (T.Abreast s₀ s₀') :=
  Table.respects_put T.channel_own trivial

theorem respects_findOpen : (findOpen T.channel).Respects (T.Abreast s₀ s₀') := by
  refine respects_find.bind fun channel => ?_
  split
  · exact respects_pure
  · exact respects_fail
  · exact respects_fail

/-- A packet is drained, or it is stuck, in both runs. -/
theorem respects_drainOne {n : UInt64} :
    (drainOne bridge T.channel drained n).Respects (T.Abreast s₀ s₀') := by
  refine Shipment.respects_find.bind_of fun p s s' m h hp => ?_
  obtain ⟨hchannel, -, hburned⟩ := h.fenced.of_shipment? (Shipment.yields_find.mp hp).1
  refine (((Shipment.respects_settle hchannel hburned).transactional
    (Bridge.accepted _)).attempt (Bridge.accepted _)).bind fun r => ?_
  split
  · exact respects_pure
  · exact respects_pure
  · exact respects_fail

theorem respects_drain : (drain bridge T.channel).Respects (T.Abreast s₀ s₀') :=
  Table.respects_pendingOn.bind fun _ => respects_foldlM fun _ _ _ => respects_drainOne

theorem respects_requestClose : (requestClose bridge T.channel).Respects (T.Abreast s₀ s₀') := by
  refine respects_find.bind fun channel => ?_
  split
  · exact respects_pure
  · exact respects_drain
  · exact respects_enter.bind fun _ => respects_drain

theorem respects_confirmClose : (confirmClose bridge T.channel).Respects (T.Abreast s₀ s₀') := by
  refine respects_requestClose.bind fun drained => respects_find.bind fun channel => ?_
  split
  · exact respects_enter.bind fun _ => respects_pure
  · exact respects_pure

/-- **The close of the channel** respects what is alike in its territory. -/
theorem respects_closed {context : Context} {side : CloseSide} :
    (closed context T.channel side).Respects (T.Abreast s₀ s₀') := by
  refine (Table.respects_has T.channel_own (by simp)).bind fun known => ?_
  split
  · exact respects_confirmClose.bind fun _ => respects_pure
  · exact respects_pure

end Channel

/-! ## Packets that arrive -/

/-- **Whether a class may arrive in a territory** under a name. -/
structure Territory.Takes (T : Territory) (id : String) : Prop where
  /-- The name is one of a class that has come over the channel. -/
  came : T.came id
  /-- It is the channel's own, -/
  class_own : T.own (.tokenClass id)
  /-- and so is the address of its collection. -/
  collection_own : T.own (.collection (collectionAddress id))

namespace Packet

variable {context : Context} {packet : Packet} {data : PacketData} {classId : String}
  {tokenIds : List String} {receiver : Address}

section

variable (hchannel : packet.destination.channel = T.channel)
include hchannel

theorem respects_agree {home : Option String} :
    (packet.agree classId home tokenIds).Respects (T.Abreast s₀ s₀') := by
  induction tokenIds with
  | nil => exact respects_pure
  | cons tokenId tokenIds ih =>
    rw [agree, hchannel]
    exact TokenClass.respects_homeOf?.bind fun other => respects_guard ih

theorem respects_home? : (packet.home? classId tokenIds).Respects (T.Abreast s₀ s₀') := by
  cases tokenIds with
  | nil => exact respects_pure
  | cons tokenId tokenIds =>
    rw [home?, hchannel]
    exact TokenClass.respects_homeOf?.bind fun home =>
      (respects_agree hchannel).bind fun _ => respects_pure

theorem respects_release {home : String} :
    (packet.release context data receiver home).Respects (T.Abreast s₀ s₀') := by
  refine Respects.bind (respects_forM fun tokenId _ => ?_) fun _ => respects_pure
  rw [hchannel]
  exact Deposit.respects_release.bind fun _ => respects_pure

theorem respects_mint (hid : T.Takes (packet.destination.extend data.classId)) :
    (packet.mint context data receiver).Respects (T.Abreast s₀ s₀') := by
  rw [mint, hchannel]
  refine (TokenClass.respects_findOrCreate hid.class_own hid.collection_own).bind_of
    fun found s s' m h hm => ?_
  obtain ⟨c, created⟩ := found
  have hcame : T.came c.id :=
    TokenClass.id_of_findOrCreate hid.class_own h.fenced hm ▸ hid.came
  exact (respects_forM fun x _ => Token.respects_mint hcame).bind fun _ => respects_pure

variable (hdata : ∀ data, PacketData.decode packet.data = .ok data →
  T.Takes (packet.destination.extend data.classId))
include hdata

theorem respects_apply : (packet.apply context).Respects (T.Abreast s₀ s₀') := by
  refine Settings.respects_load.bind fun settings => respects_guard ?_
  rw [hchannel]
  refine Channel.respects_findOpen.bind fun _ => ?_
  refine respects_ofExcept.bind_of fun data s s' m h hm => ?_
  have hid := hdata data (mapError_eq_ok.mp (yields_ofExcept.mp hm).1)
  refine respects_ofExcept.bind fun _ => respects_ofExcept.bind fun receiver =>
    (respects_home? hchannel).bind fun home => ?_
  split
  · exact respects_release hchannel
  · exact respects_mint hchannel hid

/-- **The arrival of a packet** respects what is alike in a territory, as long as
its class may arrive there. -/
theorem respects_arrived : (packet.arrived context).Respects (T.Abreast s₀ s₀') := by
  have hreceive : (packet.receive context).Respects (T.Abreast s₀ s₀') :=
    respects_ofExcept.bind fun _ =>
      (respects_apply hchannel hdata).transactional (Bridge.accepted _)
  refine (hreceive.attempt (Bridge.accepted _)).bind fun r => ?_
  split
  · exact respects_pure
  · exact respects_pure
  · exact respects_fail

end

/-! ## Packets that come back -/

theorem respects_report {α : Type} {method : String} {settle : Bridge α}
    {attributes : α → Attributes} (h : settle.Respects (T.Abreast s₀ s₀')) :
    (packet.report method settle attributes).Respects (T.Abreast s₀ s₀') := by
  refine (h.attempt (Bridge.accepted _)).bind fun r => ?_
  split
  · exact respects_pure
  · exact respects_pure
  · exact respects_fail

section

variable (hchannel : packet.source.channel = T.channel)
include hchannel

theorem respects_shipment : packet.shipment.Respects (T.Abreast s₀ s₀') := by
  rw [shipment, hchannel]
  exact Shipment.respects_find.bind fun p => respects_ofExcept.bind fun data =>
    respects_guard respects_pure

/-- What comes after the record of a packet was found. -/
theorem respects_shipment_bind {α : Type} {f : Shipment → Bridge α}
    (hf : ∀ p, p.channel = T.channel → (p.custody = .burned → T.came p.classId) →
      (f p).Respects (T.Abreast s₀ s₀')) :
    (packet.shipment >>= f).Respects (T.Abreast s₀ s₀') := by
  refine (respects_shipment hchannel).bind_of fun p s s' m h hp => ?_
  obtain ⟨hp, -, -⟩ := yields_shipment.mp hp
  obtain ⟨hp, -, hburned⟩ := h.fenced.of_shipment? (hchannel ▸ hp)
  exact hf p hp hburned

/-- **The return of a packet that came too late** respects what is alike in a
territory. -/
theorem respects_timedOut : (packet.timedOut context).Respects (T.Abreast s₀ s₀') :=
  respects_report (respects_shipment_bind hchannel fun _ => Shipment.respects_settle)

/-- **The acknowledgement of a packet** does so where the last acknowledgement is
among what may be written. -/
theorem respects_acknowledged {ack : Bytes} (hack : T.own .lastAck) :
    (packet.acknowledged context ack).Respects (T.Abreast s₀ s₀') := by
  refine respects_report (Respects.bind (Table.respects_put hack trivial) fun _ => ?_)
  exact respects_shipment_bind hchannel fun p hp hburned =>
    (Shipment.respects_settle hp hburned).bind fun _ => respects_pure

end

end Packet

end

/-! ## Callbacks -/

/-- **The name of the class that a call may bring**, if it does. -/
def Call.wraps? : Call → Option String
  | .arrived packet =>
    match PacketData.decode packet.data with
    | .ok data => some (packet.destination.extend data.classId)
    | .error _ => none
  | _ => none

/-- Whether a call is an acknowledgement. -/
def Call.Acknowledges (call : Call) : Prop := ∃ packet data, call = .acknowledged packet data

/-- **A callback cannot tell stores from each other that are alike** in a territory
of its channel: it has the same result in both, and changes the same. -/
theorem Call.respects_perform {T : Territory} {s₀ s₀' : Store Entry} {context : Context}
    {call : Call} (hcall : call.callbackOn? = some T.channel)
    (hwraps : ∀ id, call.wraps? = some id → T.Takes id)
    (hack : call.Acknowledges → T.own .lastAck) :
    (call.perform context).Respects (T.Abreast s₀ s₀') := by
  cases call with
  | closed id side =>
    obtain rfl := Option.some.inj hcall
    exact Channel.respects_closed.map _
  | arrived packet =>
    refine (Packet.respects_arrived (Option.some.inj hcall) fun data hdata => ?_).map _
    exact hwraps _ (by simp [wraps?, hdata])
  | acknowledged packet data =>
    exact (Packet.respects_acknowledged (Option.some.inj hcall) (hack ⟨_, _, rfl⟩)).map _
  | timedOut packet => exact (Packet.respects_timedOut (Option.some.inj hcall)).map _
  | _ => cases hcall

end TokenBridge
