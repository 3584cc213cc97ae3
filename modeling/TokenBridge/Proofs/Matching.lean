import TokenBridge.Proofs.Codec
import TokenBridge.Proofs.Creation

/-!
# Packets that match

What a packet says is looked at three times: when it is sent, when it arrives
on the other chain, and when it comes back. Each of these places has checks of
its own, and they do not ask for the same things. The send wants tokens that are
distinct and in the hands of the sender; the arrival wants a class, and tokens
that have names and metadata; and the return wants the tokens of the record.
This module shows that they agree on every packet that is sent
(`Turn.sent_matches`). Nothing that a bridge sends is turned away by another
bridge because of its form, and nothing that comes back is taken for the packet
of somebody else.

What the send does not ask is whether anything has a name. It need not, since
nothing without a name is ever there to be sent: a class is created under a name
that is checked, or it has arrived under one that begins with a port and a
channel; and a token is minted under a name that is checked here or was checked
when it arrived (`Titled`).
-/

namespace TokenBridge

open Program Store

variable {bridge : Address} {s u : Store Entry} {d : Deed} {past : List Turn}

/-! ## Whatever is there has a name -/

/-- **Whether everything has a name** that is there or was sent. -/
structure Titled (s : Store Entry) : Prop where
  /-- The classes have names, -/
  classes : ∀ {id c}, s.class? id = some c → id ≠ ""
  /-- the tokens have names, -/
  tokens : ∀ {classId tokenId token}, s.token? classId tokenId = some token → tokenId ≠ ""
  /-- and so have the tokens that were sent. -/
  shipments : ∀ {id n p}, s.shipment? id n = some p → ∀ tokenId ∈ p.tokenIds, tokenId ≠ ""

namespace Titled

theorem empty : Titled .empty where
  classes h := by simp at h
  tokens h := by simp at h
  shipments h := by simp at h

/-- **Every deed leaves nothing without a name**, if what arrives has one. -/
theorem of_does (h : d.Does bridge s u) (hnamed : d.Named) (hs : Titled s) : Titled u where
  classes {id c} hc := by
    obtain heq | ⟨c', rfl | ⟨arrival, inner, rfl⟩, rfl, -, -⟩ := h.class? id
    · exact hs.classes (heq ▸ hc)
    · obtain ⟨-, hcheck, -⟩ := h
      exact (TokenClass.of_checkId hcheck).1
    · obtain ⟨-, hid, -⟩ := h
      exact hid ▸ Endpoint.extend_ne_empty
  tokens {classId tokenId token} ht := by
    cases hbefore : s.token? classId tokenId with
    | some before => exact hs.tokens hbefore
    | none =>
      obtain ⟨minter, rfl⟩ | ⟨arrival, inner, c, tokens, rfl, -, hmem⟩
        | ⟨channel, n, p, rfl, -, -, hmem, -⟩ := h.made hbefore ht
      · obtain ⟨-, hne, -⟩ := h
        exact hne
      · exact hnamed.2 _ hmem
      · obtain ⟨hp, -⟩ := h
        exact hs.shipments hp _ (List.of_mem_zip hmem).1
  shipments {id n q} hq := by
    obtain heq | ⟨p, rfl, -, -, -, hu⟩ | ⟨id', n', p, status, -, hp, -, -, -, hu⟩ :=
      h.shipment? id n
    · exact hs.shipments (heq ▸ hq)
    · obtain rfl := Option.some.inj (hu.symm.trans hq)
      -- a token that was sent was there
      intro tokenId hmem
      have hsent := h
      obtain ⟨-, -, -, m, channel, hm, -⟩ := hsent
      obtain ⟨uri, hx⟩ := exists_mem_zip hm.length_eq hmem
      have ht := h.token?_of_sent hx
      exact hs.tokens ht
    · obtain rfl := Option.some.inj (hu.symm.trans hq)
      exact (hs.shipments hp : ∀ tokenId ∈ p.tokenIds, tokenId ≠ "")

end Titled

/-- **Everything has a name** that a bridge knows. -/
theorem titled_after (past : List Turn) : Titled (storeAfter bridge past) := by
  induction past with
  | nil => exact .empty
  | cons turn past ih => exact turn.keeps_of_named (fun h _ hnamed hs => hs.of_does h hnamed) ih

/-! ## Reports that match -/

namespace Packet

variable {packet : Packet} {p : Shipment} {data : PacketData}

/-- A report of something that does not fail for want of a record that matches
says what has come of it, or fails for another reason. -/
theorem report_yields_or_fails {α : Type} (packet : Packet) (method : String)
    {settle : Bridge α} (attributes : α → Attributes)
    (h : ∀ e u, settle.Fails s e u → ¬ e.Unmatched) :
    (∃ a u, settle.Yields s a u ∧ (packet.report method settle attributes).Yields s
        { attributes := packet.returnAttributes method ++ attributes a } u)
      ∨ ∃ e u, (packet.report method settle attributes).Fails s e u ∧ ¬ e.Unmatched := by
  obtain ⟨a, u, ha⟩ | ⟨e, u, he⟩ := yields_or_fails settle s
  · exact .inl ⟨a, u, ha, yields_report ha⟩
  · refine .inr ⟨e, u, ?_, h e u he⟩
    simp only [report, fails_bind, yields_attempt (Bridge.accepted _ _)]
    refine .inr ⟨.error e, u, he, ?_⟩
    split
    · next heq => cases heq
    · next channel sequence heq =>
      obtain rfl := Except.error.inj heq
      exact absurd ⟨channel, sequence, .inl rfl⟩ (h _ u he)
    · next failure _ heq =>
      obtain rfl := Except.error.inj heq
      exact fails_fail.mpr ⟨rfl, rfl⟩

/-- A packet that is about the tokens of its record does not fail to match it. -/
theorem not_fails_shipment {e : Failure Fault}
    (hp : s.shipment? packet.source.channel packet.sequence = some p)
    (hdecode : PacketData.decode packet.data = .ok data) (hagrees : p.agreesWith data) :
    ¬ packet.shipment.Fails s e u :=
  (yields_shipment.mpr ⟨hp, ⟨data, hdecode, hagrees⟩, rfl⟩).not_fails

/-- **Whether a packet that comes back matches the record** that was made of it when
it was sent. Whatever is reported about it is answered with what has come of it, or
fails for a reason that has nothing to do with that. -/
structure Matched (bridge : Address) (packet : Packet) (sent : Shipment) (s : Store Entry) :
    Prop where
  /-- The record is found, and it is about the tokens of the packet. It is as it was
  made, but for its status. -/
  found : ∃ status, packet.shipment.Yields s { sent with status } s
  /-- An acknowledgement of the packet settles it, or fails otherwise. -/
  acknowledged : ∀ now reply,
    (∃ (settlement : Settlement) (u : Store Entry),
        (⟨now, .acknowledged packet reply⟩ : Turn).take bridge s
          = (.ok (.response { attributes := packet.returnAttributes "ibc_packet_ack"
              ++ ([("ack", (Ack.decodeLenient reply).kind), ("result", settlement.name)]
                ++ (Ack.decodeLenient reply).attributes) }), u))
      ∨ ∃ e, (⟨now, .acknowledged packet reply⟩ : Turn).take bridge s = (.error e, s)
        ∧ ¬ e.Unmatched
  /-- So does a timeout. -/
  timedOut : ∀ now,
    (∃ (settlement : Settlement) (u : Store Entry),
        (⟨now, .timedOut packet⟩ : Turn).take bridge s
          = (.ok (.response { attributes := packet.returnAttributes "ibc_packet_timeout"
              ++ [("result", settlement.name)] }), u))
      ∨ ∃ e, (⟨now, .timedOut packet⟩ : Turn).take bridge s = (.error e, s) ∧ ¬ e.Unmatched

/-- **A packet matches its record** if it is about the same tokens. -/
theorem matched_of_shipment? (status : Status)
    (hp : s.shipment? packet.source.channel packet.sequence = some { p with status })
    (hdecode : PacketData.decode packet.data = .ok data)
    (hagrees : { p with status }.agreesWith data) : packet.Matched bridge p s where
  found := ⟨status, yields_shipment.mpr ⟨hp, ⟨data, hdecode, hagrees⟩, rfl⟩⟩
  acknowledged now reply := by
    have hnot (e : Failure Fault) (u : Store Entry)
        (h : (packet.acknowledge bridge reply).Fails s e u) : ¬ e.Unmatched := by
      intro he
      simp only [acknowledge, fails_bind, fails_pure, Table.fails_put, Table.yields_put,
        Table.lastAck_key, Table.lastAck_entry, and_false, exists_false, or_false] at h
      obtain ⟨hk, -⟩ | ⟨_, _, ⟨-, rfl⟩, h | ⟨p', _, -, h⟩⟩ := h
      · exact hk Key.fits_lastAck
      -- noting the acknowledgement has not changed the record
      · refine not_fails_shipment ?_ hdecode hagrees h
        rw [Store.shipment?, Table.view_keep Key.fits_lastAck]
        simpa using hp
      · exact Shipment.not_fails_settle he h
    obtain ⟨⟨ack, settlement⟩, u, ha, hr⟩ | ⟨e, u, hr, he⟩ :=
      report_yields_or_fails packet "ibc_packet_ack" (fun settled =>
        [("ack", settled.1.kind), ("result", settled.2.name)] ++ settled.1.attributes) hnot
    · simp only [acknowledge, yields_bind, yields_pure] at ha
      obtain ⟨_, _, -, _, _, -, _, _, -, heq, -⟩ := ha
      obtain ⟨rfl, -⟩ := Prod.mk.inj heq
      exact .inl ⟨settlement, u, Turn.take_eq_ok_iff.mpr (yields_map.mpr ⟨_, hr, rfl⟩)⟩
    · exact .inr ⟨e, Turn.take_eq_error_iff.mpr ⟨⟨u, fails_map.mpr hr⟩, rfl⟩, he⟩
  timedOut now := by
    have hnot (e : Failure Fault) (u : Store Entry) (h : (packet.expire bridge).Fails s e u) :
        ¬ e.Unmatched := by
      intro he
      simp only [expire, fails_bind] at h
      obtain h | ⟨p', _, -, h⟩ := h
      · exact not_fails_shipment hp hdecode hagrees h
      · exact Shipment.not_fails_settle he h
    obtain ⟨settlement, u, -, hr⟩ | ⟨e, u, hr, he⟩ :=
      report_yields_or_fails packet "ibc_packet_timeout"
        (fun settlement => [("result", settlement.name)]) hnot
    · exact .inl ⟨settlement, u, Turn.take_eq_ok_iff.mpr (yields_map.mpr ⟨_, hr, rfl⟩)⟩
    · exact .inr ⟨e, Turn.take_eq_error_iff.mpr ⟨⟨u, fails_map.mpr hr⟩, rfl⟩, he⟩

end Packet

/-! ## Packets that are sent -/

namespace SendOrder

/-- **What a packet has to say** if somebody sends tokens of a class, whose
metadata is at the given places. -/
def contents (order : SendOrder) (sender : Address) (c : TokenClass)
    (uris : List (Option String)) : PacketData :=
  { classId := order.classId, classUri := c.uri, tokenIds := order.tokenIds, tokenUris := uris,
    sender, receiver := order.receiver }

/-- **What is written down about tokens that are sent.** They are burned if their
class came over the channel, and deposited if not. -/
def record (order : SendOrder) (sender : Address) (c : TokenClass) (sequence : UInt64)
    (uris : List (Option String)) (deadline : UInt64) : Shipment :=
  { sequence, channel := order.channel, classId := order.classId, tokenIds := order.tokenIds,
    tokenUris := uris, custody := if c.origin = .wrapped order.channel then .burned else .escrowed,
    sender, receiver := order.receiver, deadline, status := .pending }

/-- What is done with tokens depends on whether their class came over the channel. -/
theorem custodyOf_eq (c : TokenClass) (channel : String) :
    custodyOf c channel = if c.origin = .wrapped channel then .burned else .escrowed := by
  split
  · next h => exact custodyOf_eq_burned_iff.mpr h
  · next h => exact custodyOf_eq_escrowed_iff.mpr h

/-- What is written down agrees with what the packet says, whatever has become of it. -/
theorem agreesWith_contents {order : SendOrder} {sender : Address} {c : TokenClass}
    {n deadline : UInt64} {uris : List (Option String)} {status : Status} :
    ({ order.record sender c n uris deadline with status } : Shipment).agreesWith
      (order.contents sender c uris) := by
  simp [Shipment.agreesWith, record, contents]

end SendOrder

/-- **Every end of a channel takes what a bridge sends.** When tokens are sent,
the chain is asked to send a packet that says which tokens of which class these
are, where the metadata of each of them is, and who sends them to whom. The data
can be read, it makes sense, and it passes what a chain demands of a packet. And
if a packet with this data and with the number that was taken comes back, however
much later, it matches the record that was made when it was sent. -/
theorem Turn.sent_matches {now : UInt64} {account : Address} {order : SendOrder}
    {answer : Answer}
    (hsend : (⟨now, .command account (.send order)⟩ : Turn).take bridge (storeAfter bridge past)
      = (.ok answer, u)) :
    ∃ channel c uris deadline attributes,
      (storeAfter bridge past).channel? order.channel = some channel
      ∧ (storeAfter bridge past).class? order.classId = some c
      ∧ order.tokenIds.map ((storeAfter bridge past).token? order.classId ·)
        = uris.map (fun uri => some ⟨account, uri⟩)
      ∧ answer = .response
        { requests :=
            [.sendPacket order.channel (order.contents account c uris).encode deadline],
          attributes }
      ∧ PacketData.decode (order.contents account c uris).encode
        = .ok (order.contents account c uris)
      ∧ (order.contents account c uris).validate = .ok ()
      ∧ ∀ packet : Packet, packet.data = (order.contents account c uris).encode →
        packet.checkEnvelope = .ok ()
        ∧ (packet.source.channel = order.channel → packet.sequence = channel.nextSequence →
          ∀ later, packet.Matched bridge
            (order.record account c channel.nextSequence uris deadline)
            (storeAfter bridge (later ++ ⟨now, .command account (.send order)⟩ :: past))) := by
  obtain ⟨_, ⟨sent, hrun, -, rfl⟩, -⟩ := path_of_take hsend
  obtain ⟨hdoes, -, -, htokens, -⟩ := SendOrder.run_sent hrun
  obtain ⟨settings, channel, c, m, deadline, -, -, hchannel, -, -, -, hclass, hm, -, -,
    hshipment, hdata, -, -⟩ := SendOrder.of_yields_run hrun
  rw [SendOrder.custodyOf_eq] at hshipment
  have hrecord : sent.shipment
      = order.record account c channel.nextSequence sent.shipment.tokenUris deadline := hshipment
  have hdata : sent.data = order.contents account c sent.shipment.tokenUris := hdata
  have hdecode : PacketData.decode (order.contents account c sent.shipment.tokenUris).encode
      = .ok (order.contents account c sent.shipment.tokenUris) :=
    PacketData.decode_encode _
  have htitled : Titled (storeAfter bridge past) := titled_after past
  have hnames (tokenId : String) (hmem : tokenId ∈ order.tokenIds) : tokenId ≠ "" := by
    obtain ⟨uri, hx⟩ := exists_mem_zip hm.length_eq hmem
    have ht := hm.token?_of_mem hx
    exact htitled.tokens ht
  refine ⟨channel, c, sent.shipment.tokenUris, deadline, sent.attributes, hchannel,
    hclass, hm.found, ?_, hdecode, ?_, fun packet hpacket => ⟨?_, ?_⟩⟩
  · rw [Sent.request, hdata, hrecord]
    rfl
  · have hne : order.tokenIds ≠ [] := htokens ▸ hdoes.2.1
    exact PacketData.validate_eq_ok_iff.mpr ⟨hne, hm.length_eq.symm, hm.nodup, hnames⟩
  · rw [Packet.checkEnvelope, hpacket, hdecode]
    exact if_neg (htitled.classes hclass)
  · intro hsource hsequence later
    have hp := hdoes.shipment?_of_sent
    rw [hrecord] at hp
    have hafter : storeAfter bridge (⟨now, .command account (.send order)⟩ :: past) = u :=
      congrArg Prod.snd hsend
    -- the record is that of the send, but for its status
    obtain ⟨q, hq, hadvances⟩ :=
      advances_of_suffix (List.suffix_append later _) (hafter.symm ▸ hp)
    obtain ⟨status, rfl⟩ := hadvances.exists_status
    refine Packet.matched_of_shipment? status ?_ (hpacket ▸ hdecode) SendOrder.agreesWith_contents
    rw [hsource, hsequence]
    exact hq

/-- Alice has a token whose names have to be escaped. -/
def quotedVoyage : List Turn :=
  [⟨3, .command "alice" (.mint "\"art\"" "new\nmoon" (some "ipfs:\\moon") "alice")⟩,
   ⟨2, .command "alice" (.createClass "\"art\"" (some "\t"))⟩,
   ⟨1, .connected harborChannel none⟩,
   ⟨0, .setup ⟨"admin", none⟩⟩]

/-- The order by which she sends it. -/
def quotedOrder : SendOrder := ⟨"\"art\"", ["new\nmoon"], "\\bob", "channel-0", none⟩

/-- The packet that is sent. -/
def quotedPacket : Packet :=
  { source := harborChannel.here, destination := harborChannel.there, sequence := 1,
    data := PacketData.encode
      { classId := "\"art\"", classUri := some "\t", tokenIds := ["new\nmoon"],
        tokenUris := [some "ipfs:\\moon"], sender := "alice", receiver := "\\bob" } }

/-- What Alice has sent, and by which time it is due. -/
def quotedRecord (deadline : UInt64) : Shipment :=
  { sequence := 1, channel := "channel-0", classId := "\"art\"", tokenIds := ["new\nmoon"],
    tokenUris := [some "ipfs:\\moon"], custody := .escrowed, sender := "alice",
    receiver := "\\bob", deadline, status := .pending }

/-- The packet passes what a chain demands of it, and it matches its record when it
comes back, even if it was timed out before. -/
theorem Turn.sent_matches_quotedVoyage :
    (∃ answer, (⟨4, .command "alice" (.send quotedOrder)⟩ : Turn).take harbor
        (storeAfter harbor quotedVoyage)
      = (.ok answer, storeAfter harbor (⟨4, .command "alice" (.send quotedOrder)⟩ :: quotedVoyage)))
      ∧ quotedPacket.checkEnvelope = .ok ()
      ∧ ∃ deadline, quotedPacket.Matched harbor (quotedRecord deadline)
        (storeAfter harbor (⟨5, .timedOut quotedPacket⟩
          :: ⟨4, .command "alice" (.send quotedOrder)⟩ :: quotedVoyage)) := by
  have hanswered : ((⟨4, .command "alice" (.send quotedOrder)⟩ : Turn).take harbor
      (storeAfter harbor quotedVoyage)).1.toOption.isSome = true := by
    decide +kernel
  obtain ⟨hsequence, hclassUri, htoken⟩ :
      ((storeAfter harbor quotedVoyage).channel? "channel-0").map (·.nextSequence) = some 1
        ∧ ((storeAfter harbor quotedVoyage).class? "\"art\"").map (fun c => (c.uri, c.origin))
          = some (some "\t", .native)
        ∧ (storeAfter harbor quotedVoyage).token? "\"art\"" "new\nmoon"
          = some ⟨"alice", some "ipfs:\\moon"⟩ := by
    decide +kernel
  rcases htake : (⟨4, .command "alice" (.send quotedOrder)⟩ : Turn).take harbor
    (storeAfter harbor quotedVoyage) with ⟨e | answer, u⟩
  · rw [htake] at hanswered
    cases hanswered
  obtain ⟨channel, c, uris, deadline, -, hchannel, hclass, huris, -, -, -, hpacket⟩ :=
    Turn.sent_matches htake
  -- what the packet says is what the store says about the class and the token
  rw [show (storeAfter harbor quotedVoyage).class? "\"art\"" = some c from hclass,
    Option.map_some] at hclassUri
  obtain ⟨huri, horigin⟩ := Prod.mk.inj (Option.some.inj hclassUri)
  obtain ⟨uri, rfl, htokenUri⟩ :=
    List.map_eq_singleton_iff.mp (huris.symm.trans (congrArg (fun token => [token]) htoken))
  obtain rfl : uri = some "ipfs:\\moon" := congrArg Token.uri (Option.some.inj htokenUri)
  have hcontents : quotedPacket.data
      = (quotedOrder.contents "alice" c [some "ipfs:\\moon"]).encode := by
    rw [SendOrder.contents, huri]
    rfl
  rw [show (storeAfter harbor quotedVoyage).channel? "channel-0" = some channel from hchannel,
    Option.map_some] at hsequence
  have hnext : channel.nextSequence = 1 := Option.some.inj hsequence
  have hrecord : quotedOrder.record "alice" c channel.nextSequence [some "ipfs:\\moon"] deadline
      = quotedRecord deadline := by
    rw [SendOrder.record, horigin, hnext]
    rfl
  obtain ⟨henvelope, hmatched⟩ := hpacket quotedPacket hcontents
  have hmatched := hmatched rfl hnext.symm [⟨5, .timedOut quotedPacket⟩]
  rw [hrecord] at hmatched
  refine ⟨⟨answer, ?_⟩, henvelope, deadline, hmatched⟩
  rw [storeAfter_cons, Turn.after, htake]

end TokenBridge
