import TokenBridge.Proofs.Marks
import TokenBridge.Proofs.Sends

/-!
# The life of a packet

A packet that is sent takes the next number of its channel, is kept under
it for good, and is marked as pending. Some time later it is settled: by an
acknowledgement, by a timeout, or by the close of its channel. All of these
may come, more than once and in any order, and refunds may fail midway. This
module shows that the records, the marks and the numbers agree at all times
(`Booked`), and that only the first of these reports counts: a packet that
is settled is never settled again (`Path.settled_once`), and what is
reported about it later changes nothing but the note of the last
acknowledgement (`asNoted_of_settled`).

The close of a channel does not look at the records first. It goes through
the marks, and would report a packet that has lost its status but not its
mark. This is what the marks have to agree with the records for.
-/

namespace TokenBridge

open Program Store

variable {bridge : Address} {s u : Store Entry} {d : Deed} {id : String} {n : UInt64}
  {p : Shipment}

/-! ## Marks of deeds -/

/-- A packet that is settled has lost its mark, and the others have
theirs. -/
theorem Store.look_settled {status : Status} (hk : (Key.shipment p.channel p.sequence).Fits) :
    (s.settled p status).look (.pending id n)
      = if id = p.channel ∧ n = p.sequence then none else s.look (.pending id n) := by
  rw [settled, look_drop, look_keep hk]
  simp

/-- A packet that is sent is marked, and the others are as before. -/
theorem Store.look_dispatched {channel : Channel}
    (hk : (Key.shipment p.channel p.sequence).Fits) :
    (s.dispatched channel p).look (.pending id n)
      = if id = p.channel ∧ n = p.sequence then some .pending else s.look (.pending id n) := by
  have hk' : (Key.pending p.channel p.sequence).Fits :=
    Key.fits_pending_iff.mpr (Key.fits_shipment_iff.mp hk)
  rw [dispatched, look_keep hk', look_keep hk, look_keep (Key.fits_channel _)]
  simp

/-! ## The books of a bridge -/

/-- **Whether the books about packets are in order.** -/
structure Booked (s : Store Entry) : Prop where
  /-- There is nothing in the store but what is under keys. -/
  keyed : s.Keyed
  /-- The packets that are marked are those that are pending. -/
  marked : ∀ id n, s.look (.pending id n)
    = ((s.shipment? id n).filter (·.status = .pending)).map fun _ => .pending
  /-- The numbers of a channel begin at one. -/
  started : ∀ {id channel}, s.channel? id = some channel → 1 ≤ channel.nextSequence
  /-- Numbers that are taken are at least one, -/
  positive : ∀ {id n p}, s.shipment? id n = some p → 1 ≤ n
  /-- and there is a packet under each of them. -/
  complete : ∀ {id channel n}, s.channel? id = some channel → 1 ≤ n → n < channel.nextSequence →
    s.shipment? id n ≠ none
  /-- A packet has tokens, and none of them twice. -/
  listed : ∀ {id n p}, s.shipment? id n = some p → p.tokenIds ≠ [] ∧ p.tokenIds.Nodup

namespace Booked

theorem empty : Booked .empty where
  keyed := .empty
  marked id n := by simp
  started h := by simp at h
  positive h := by simp at h
  complete h := by simp at h
  listed h := by simp at h

/-- **A packet is marked exactly if it is pending.** -/
theorem look_pending_ne_none_iff (hs : Booked s) :
    s.look (.pending id n) ≠ none ↔ ∃ p, s.shipment? id n = some p ∧ p.status = .pending := by
  rw [hs.marked, ne_eq, Option.map_eq_none_iff, Option.filter_eq_none_iff]
  simp

/-- A packet that is pending is marked, -/
theorem look_pending_of_pending (hs : Booked s) (hp : s.shipment? id n = some p)
    (hpend : p.status = .pending) : s.look (.pending id n) = some .pending := by
  rw [hs.marked, hp]
  simp [Option.filter, hpend]

/-- and one that is settled is not. -/
theorem look_pending_of_settled (hs : Booked s) (hp : s.shipment? id n = some p)
    (hset : p.status ≠ .pending) : s.look (.pending id n) = none := by
  rw [hs.marked, hp]
  simp [Option.filter, hset]

section

variable (h : d.Does bridge s u) (hs : Booked s)
include h hs

/-- **A deed marks what it makes pending**, and nothing else. -/
theorem marked_of_does (id : String) (n : UInt64) :
    u.look (.pending id n)
      = ((u.shipment? id n).filter (·.status = .pending)).map fun _ => .pending := by
  -- where neither the mark nor the record has changed, they agree as before
  have kept {P : Key → Prop} {m : Store Entry} (hm : ChangedOnly P s m)
      (hmark : ¬ P (.pending id n)) (hrecord : ¬ P (.shipment id n)) :
      m.look (.pending id n)
        = ((m.shipment? id n).filter (·.status = .pending)).map fun _ => .pending := by
    rw [hm.look hmark, shipment?, Table.view_of_changedOnly hm _ hrecord]
    exact hs.marked id n
  cases d with
  | sent p =>
    obtain ⟨hpend, -, -, m, channel, hm, -, -, -, -, hk, rfl⟩ := h
    rw [look_dispatched hk, shipment?_dispatched hk]
    split
    · simp [Option.filter, hpend]
    · exact kept hm.rest (by simp) (by simp)
  | committed id' n' p =>
    obtain ⟨-, -, hk, rfl⟩ := h
    rw [look_settled hk, shipment?_settled hk]
    split
    · simp [Option.filter]
    · exact hs.marked id n
  | refunded id' n' p =>
    obtain ⟨-, -, hk, m, hm, rfl⟩ := h
    rw [look_settled hk, shipment?_settled hk]
    split
    · simp [Option.filter]
    · exact kept hm.rest (by simp) (by simp)
  | _ => exact kept h.changedOnly (by simp [Deed.Touches]) (by simp [Deed.Touches])

/-- The next number of a channel is at least one: a channel starts with it, and
takes numbers in order. -/
theorem started_of_does {id : String} {channel : Channel} (hc : u.channel? id = some channel) :
    1 ≤ channel.nextSequence := by
  obtain heq | ⟨channel', -, -, -, hnext, hu⟩ | ⟨channel', phase, -, hc', hu⟩
    | ⟨p, channel', -, -, -, -, -, hroom, hu⟩ := h.channel? id
  · exact hs.started (heq ▸ hc)
  · obtain rfl := Option.some.inj (hu.symm.trans hc)
    exact hnext ▸ UInt64.le_refl 1
  · obtain rfl := Option.some.inj (hu.symm.trans hc)
    exact (hs.started hc' : 1 ≤ channel'.nextSequence)
  · obtain rfl := Option.some.inj (hu.symm.trans hc)
    rw [UInt64.le_iff_toNat_le, toNat_succ hroom]
    exact Nat.le_add_left 1 _

/-- A packet that is sent has a number that is at least one. -/
theorem positive_of_does (hsound : Sound s) {q : Shipment} (hq : u.shipment? id n = some q) :
    1 ≤ n := by
  obtain heq | ⟨p, rfl, rfl, rfl, -, -⟩ | ⟨id', n', p, status, -, hp, -, rfl, rfl, -⟩ :=
    h.shipment? id n
  · exact hs.positive (heq ▸ hq)
  · obtain ⟨-, -, -, m, channel, -, hc, -, hnext, -⟩ := h
    exact hnext ▸ hs.started hc
  · obtain ⟨rfl, rfl, -⟩ := hsound.filed hp
    exact hs.positive hp

/-- **A number that is taken is taken for a packet.** -/
theorem complete_of_does (hsound : Sound s) {channel : Channel}
    (hc : u.channel? id = some channel) (hpos : 1 ≤ n) (hlt : n < channel.nextSequence) :
    u.shipment? id n ≠ none := by
  -- a packet that is there stays there
  have stays (hp : s.shipment? id n ≠ none) : u.shipment? id n ≠ none := by
    obtain ⟨p, hp⟩ := Option.ne_none_iff_exists'.mp hp
    obtain hu | ⟨-, status, -, hu⟩ := hsound.shipment?_of_some h hp <;>
      exact hu ▸ Option.some_ne_none _
  obtain heq | ⟨channel', -, -, -, hnext, hu⟩ | ⟨channel', phase, -, hc', hu⟩
    | ⟨p, channel', rfl, hid, hc', -, hnext, hroom, hu⟩ := h.channel? id
  · exact stays (hs.complete (heq ▸ hc) hpos hlt)
  · obtain rfl := Option.some.inj (hu.symm.trans hc)
    rw [hnext] at hlt
    exact absurd hlt (UInt64.not_lt.mpr hpos)
  · obtain rfl := Option.some.inj (hu.symm.trans hc)
    exact stays (hs.complete hc' hpos hlt)
  · obtain rfl := (hsound.named hc').symm.trans hid
    obtain rfl := Option.some.inj (hu.symm.trans hc)
    -- the number that is taken is the last one now
    by_cases heq : n = p.sequence
    · exact heq ▸ h.shipment?_of_sent ▸ Option.some_ne_none _
    · refine stays (hs.complete hc' hpos ?_)
      rw [UInt64.lt_iff_toNat_lt, toNat_succ hroom] at hlt
      rw [hnext, UInt64.lt_iff_toNat_lt]
      exact Nat.lt_of_le_of_ne (Nat.le_of_lt_succ hlt) fun h => heq (UInt64.toNat.inj h)

/-- A packet that is sent lists its tokens, each of them once. -/
theorem listed_of_does {q : Shipment} (hq : u.shipment? id n = some q) :
    q.tokenIds ≠ [] ∧ q.tokenIds.Nodup := by
  obtain heq | ⟨p, rfl, -, -, -, hu⟩ | ⟨id', n', p, status, -, hp, -, -, -, hu⟩ :=
    h.shipment? id n
  · exact hs.listed (heq ▸ hq)
  · obtain rfl := Option.some.inj (hu.symm.trans hq)
    obtain ⟨-, hne, -, m, channel, hm, -⟩ := h
    exact ⟨hne, hm.nodup⟩
  · obtain rfl := Option.some.inj (hu.symm.trans hq)
    exact (hs.listed hp : p.tokenIds ≠ [] ∧ p.tokenIds.Nodup)

/-- **Every deed keeps the books in order.** -/
theorem of_does (hsound : Sound s) : Booked u where
  keyed := hs.keyed.of_changedOnly h.changedOnly
  marked := hs.marked_of_does h
  started hc := hs.started_of_does h hc
  positive hq := hs.positive_of_does h hsound hq
  complete hc hpos hlt := hs.complete_of_does h hsound hc hpos hlt
  listed hq := hs.listed_of_does h hq

end

end Booked

/-- **The books of a bridge are in order.** -/
theorem booked_after (past : List Turn) : Booked (storeAfter bridge past) := by
  suffices h : Sound (storeAfter bridge past) ∧ Booked (storeAfter bridge past) from h.2
  induction past with
  | nil => exact ⟨.empty, .empty⟩
  | cons turn past ih =>
    refine turn.keeps (P := fun s => Sound s ∧ Booked s) ?_ ih
    exact fun h _ hs => ⟨hs.1.of_does h, hs.2.of_does h hs.1⟩

/-! ## Packets that are settled -/

/-- No deed settles a packet that is settled. -/
theorem Path.not_resolves {ds : List Deed} (h : Path bridge s ds u) (hs : Sound s)
    (hp : s.shipment? id n = some p) (hset : p.status ≠ .pending) :
    ∀ d ∈ ds, ∀ q status, ¬ d.Resolves id n q status := by
  induction h generalizing p with
  | nil => simp
  | cons first _ ih =>
    obtain hm | ⟨hpend, -⟩ := hs.shipment?_of_some first hp
    · refine List.forall_mem_cons.mpr ⟨fun q status hres => ?_, ih (hs.of_does first) hm hset⟩
      obtain ⟨hq, hpend, -⟩ := first.shipment?_of_resolves hs hres
      obtain rfl := Option.some.inj (hq.symm.trans hp)
      exact hset hpend
    · exact absurd hpend hset

/-- **A packet is settled once.** No two deeds of a path settle the same
packet. -/
theorem Path.settled_once {ds : List Deed} (h : Path bridge s ds u) (hs : Sound s) :
    ds.Pairwise fun d d' => ∀ id n p q status status',
      d.Resolves id n p status → ¬ d'.Resolves id n q status' := by
  induction h with
  | nil => exact .nil
  | cons first others ih =>
    refine List.pairwise_cons.mpr ⟨fun d' hd' id n p q status status' hres => ?_,
      ih (hs.of_does first)⟩
    obtain ⟨-, -, hm⟩ := first.shipment?_of_resolves hs hres
    exact others.not_resolves (hs.of_does first) hm hres.ne_pending d' hd' q status'

/-! ## Reports about packets -/

/-- **Whether a call reports what has become of a packet**: that it is
acknowledged, or that it came too late. -/
def Call.ReportsOn (id : String) (n : UInt64) : Call → Prop
  | .acknowledged packet _ => packet.source.channel = id ∧ packet.sequence = n
  | .timedOut packet => packet.source.channel = id ∧ packet.sequence = n
  | _ => False

/-- **Whether two stores differ in the last acknowledgement at most.** -/
def Store.AsNoted (s u : Store Entry) : Prop :=
  u = s ∨ ∃ ack, u = s.keep .lastAck (.lastAck ack)

namespace Store.AsNoted

variable {m : Store Entry}

/-- Only the last acknowledgement is noted. -/
theorem trans (h : AsNoted s m) (h' : AsNoted m u) : AsNoted s u := by
  obtain rfl | ⟨ack', rfl⟩ := h'
  · exact h
  · obtain rfl | ⟨ack, rfl⟩ := h
    · exact .inr ⟨ack', rfl⟩
    · exact .inr ⟨ack', keep_keep⟩

/-- The packets are the same. -/
theorem shipment? (h : AsNoted s u) : u.shipment? id n = s.shipment? id n := by
  obtain rfl | ⟨ack, rfl⟩ := h
  · rfl
  · rw [Store.shipment?, Table.view_keep (by decide)]
    simp

theorem sound (h : AsNoted s u) (hs : Sound s) : Sound u := by
  obtain rfl | ⟨ack, rfl⟩ := h
  · exact hs
  · exact hs.keep_lastAck

end Store.AsNoted

/-- Settling a packet that is settled already does nothing. -/
theorem Packet.Settles.eq_of_settled {packet : Packet} {outcome : Outcome} {ds : List Deed}
    (h : packet.Settles outcome ds) (hpath : Path bridge s ds u) (hs : Sound s)
    (hp : s.shipment? packet.source.channel packet.sequence = some p)
    (hset : p.status ≠ .pending) : u = s := by
  have hnot := hpath.not_resolves hs hp hset
  obtain rfl | ⟨q, data, -, -, ⟨-, rfl⟩ | ⟨-, rfl⟩⟩ := h
  · exact Path.nil_iff.mp hpath
  · exact absurd (.inl ⟨rfl, rfl⟩) (hnot _ List.mem_cons_self q .committed)
  · exact absurd (.inr ⟨rfl, rfl⟩) (hnot _ List.mem_cons_self q .refunded)

/-- **What is reported about a packet that is settled changes nothing**, but is
noted. -/
theorem Turn.asNoted_of_settled {turn : Turn} (hs : Sound s) (hturn : turn.call.ReportsOn id n)
    (hp : s.shipment? id n = some p) (hset : p.status ≠ .pending) :
    s.AsNoted (turn.after bridge s) := by
  obtain heq | ⟨answer, htake⟩ := turn.after_eq_or_take bridge s
  · exact .inl heq
  obtain ⟨now, call⟩ := turn
  have hyields := take_eq_ok_iff.mp htake
  cases call with
  | acknowledged packet data =>
    obtain ⟨rfl, rfl⟩ := hturn
    obtain ⟨r, hr, -⟩ := yields_map.mp hyields
    obtain ⟨ds, hsettles, hpath⟩ := Packet.acknowledged_settles hr
    have hnoted : s.AsNoted (s.keep .lastAck (.lastAck (Ack.decodeLenient data))) :=
      .inr ⟨_, rfl⟩
    rw [hsettles.eq_of_settled hpath (hnoted.sound hs) (hnoted.shipment?.trans hp) hset]
    exact hnoted
  | timedOut packet =>
    obtain ⟨rfl, rfl⟩ := hturn
    obtain ⟨r, hr, -⟩ := yields_map.mp hyields
    obtain ⟨ds, hsettles, hpath⟩ := Packet.timedOut_path hr
    exact .inl (hsettles.eq_of_settled hpath hs hp hset)
  | _ => exact hturn.elim

/-- Whatever is reported about a packet that is settled, however often and in
whatever order, changes nothing but the last acknowledgement. -/
theorem asNoted_of_settled {past later : List Turn}
    (hlater : ∀ turn ∈ later, turn.call.ReportsOn id n)
    (hp : (storeAfter bridge past).shipment? id n = some p) (hset : p.status ≠ .pending) :
    (storeAfter bridge past).AsNoted (storeAfter bridge (later ++ past)) := by
  induction later with
  | nil => exact .inl rfl
  | cons turn later ih =>
    obtain ⟨hturn, hlater⟩ := List.forall_mem_cons.mp hlater
    have hnoted := ih hlater
    exact hnoted.trans (Turn.asNoted_of_settled (sound_after _) hturn
      (hnoted.shipment?.trans hp) hset)

/-! ## Closes of channels -/

/-- **The close of a channel passes over packets that are settled.** It neither
refunds them nor reports that it could not. -/
theorem Channel.closes_over_settled {drained : Drained} (hs : Sound s) (hbooked : Booked s)
    (h : (requestClose bridge id).Yields s drained u ∨ (confirmClose bridge id).Yields s drained u)
    (hp : s.shipment? id n = some p) (hset : p.status ≠ .pending) :
    n ∉ drained.refunded ∧ n ∉ drained.stuck ∧ u.shipment? id n = some p := by
  have hnot : n ∉ drained.refunded ++ drained.stuck := by
    have hmark : s.look (.pending id n) = none := hbooked.look_pending_of_settled hp hset
    intro hn
    obtain h | h := h
    · exact requestClose_reports hbooked.keyed h hn hmark
    · exact confirmClose_reports hbooked.keyed h hn hmark
  obtain ⟨ds, hpath⟩ : ∃ ds, Path bridge s ds u := by
    obtain h | h := h
    · exact (requestClose_path h).imp fun _ => And.right
    · exact (confirmClose_path h).imp fun _ => And.right
  obtain ⟨q, hq, hadvances⟩ := hpath.advances hs hp
  rw [List.mem_append, not_or] at hnot
  exact ⟨hnot.1, hnot.2, hadvances.eq_of_settled hset ▸ hq⟩

/-! ## Packets in a history -/

/-- **Whether a packet that was pending gets a status** between two stores. -/
def SettledAs (s u : Store Entry) (id : String) (n : UInt64) (status : Status) : Prop :=
  status ≠ .pending ∧ ∃ p, s.shipment? id n = some p ∧ p.status = .pending
    ∧ u.shipment? id n = some { p with status }

/-- A packet that is pending has not been settled before. -/
theorem not_settledAs_of_suffix {earlier past : List Turn} {turn : Turn} {status : Status}
    (hsuffix : (turn :: earlier) <:+ past)
    (hp : (storeAfter bridge past).shipment? id n = some p) (hpend : p.status = .pending) :
    ¬ SettledAs (storeAfter bridge earlier) (storeAfter bridge (turn :: earlier)) id n status := by
  rintro ⟨hne, q, -, -, hq⟩
  have heq := congrArg Shipment.status (pending_in_past hsuffix hp hpend hq)
  exact hne (heq.trans hpend)

/-- **The life of the packets of a bridge** up to the end of a history. -/
structure Lifecycle (bridge : Address) (past : List Turn) : Prop where
  /-- There are packets under the numbers that a channel has taken, and under no
  others. -/
  numbered : ∀ id n, (storeAfter bridge past).shipment? id n ≠ none
    ↔ ∃ channel, (storeAfter bridge past).channel? id = some channel
      ∧ 1 ≤ n ∧ n < channel.nextSequence
  /-- A packet is kept under its channel and its number, and has tokens, none of
  them twice and each with its metadata. -/
  filed : ∀ id n p, (storeAfter bridge past).shipment? id n = some p →
    p.channel = id ∧ p.sequence = n ∧ p.tokenIds ≠ [] ∧ p.tokenIds.Nodup
      ∧ p.tokenUris.length = p.tokenIds.length
  /-- The packets that are marked are those that are pending. -/
  marked : ∀ id n, (storeAfter bridge past).look (.pending id n) ≠ none
    ↔ ∃ p, (storeAfter bridge past).shipment? id n = some p ∧ p.status = .pending
  /-- Whatever comes next, a packet stays, and nothing of it changes but its
  status, and that only if it is pending. -/
  advances : ∀ later id n p, (storeAfter bridge past).shipment? id n = some p →
    ∃ q, (storeAfter bridge (later ++ past)).shipment? id n = some q ∧ Advances p q
  /-- There is one turn at the most in which a packet is settled, and one status
  that it gets there. -/
  once : ∀ id n turn earlier again before status status',
    (turn :: earlier) <:+ past → (again :: before) <:+ past →
    SettledAs (storeAfter bridge earlier) (storeAfter bridge (turn :: earlier)) id n status →
    SettledAs (storeAfter bridge before) (storeAfter bridge (again :: before)) id n status' →
    turn :: earlier = again :: before ∧ status = status'
  /-- In what is done from here on no packet is settled twice, not in a single
  turn either. -/
  pairwise : ∀ ds u, Path bridge (storeAfter bridge past) ds u →
    ds.Pairwise fun d d' => ∀ id n p q status status',
      d.Resolves id n p status → ¬ d'.Resolves id n q status'
  /-- What is reported about a packet that is settled, however often and in
  whatever order, changes nothing but the last acknowledgement. -/
  idle : ∀ id n p later, (storeAfter bridge past).shipment? id n = some p →
    p.status ≠ .pending → (∀ turn ∈ later, turn.call.ReportsOn id n) →
    (storeAfter bridge past).AsNoted (storeAfter bridge (later ++ past))
  /-- The close of a channel, by whomever, passes over packets that are
  settled. -/
  closing : ∀ id n p drained u, (storeAfter bridge past).shipment? id n = some p →
    p.status ≠ .pending →
    (Channel.requestClose bridge id).Yields (storeAfter bridge past) drained u
      ∨ (Channel.confirmClose bridge id).Yields (storeAfter bridge past) drained u →
    n ∉ drained.refunded ∧ n ∉ drained.stuck ∧ u.shipment? id n = some p

/-- **Every packet of a bridge is settled once at the most**, and its record,
its number and its mark agree at all times, whatever the bridge is called
for. -/
theorem lifecycle_after (bridge : Address) (past : List Turn) : Lifecycle bridge past := by
  have hsound : Sound (storeAfter bridge past) := sound_after past
  have hbooked : Booked (storeAfter bridge past) := booked_after past
  constructor
  case numbered =>
    intro id n
    constructor
    · intro hp
      obtain ⟨p, hp⟩ := Option.ne_none_iff_exists'.mp hp
      obtain ⟨channel, hc, hlt⟩ := hsound.numbered hp
      exact ⟨channel, hc, hbooked.positive hp, hlt⟩
    · rintro ⟨channel, hc, hpos, hlt⟩
      exact hbooked.complete hc hpos hlt
  case filed =>
    intro id n p hp
    obtain ⟨hid, hseq, hlength⟩ := hsound.filed hp
    obtain ⟨hne, hnodup⟩ := hbooked.listed hp
    exact ⟨hid, hseq, hne, hnodup, hlength.symm⟩
  case marked => exact fun id n => hbooked.look_pending_ne_none_iff
  case advances => exact fun later id n p hp => advances_of_suffix (List.suffix_append _ _) hp
  case once =>
    intro channel n turn earlier again before status status' hsuffix hsuffix' hsettled hsettled'
    obtain ⟨-, p, hp, hpend, hu⟩ := id hsettled
    obtain ⟨-, q, hq, hpend', hu'⟩ := id hsettled'
    -- of two turns that settle the packet neither comes before the other
    have heq : turn :: earlier = again :: before := by
      obtain hle | hle := List.suffix_or_suffix_of_suffix hsuffix hsuffix'
      · obtain heq | hle := List.suffix_cons_iff.mp hle
        · exact heq
        · exact absurd hsettled (not_settledAs_of_suffix hle hq hpend')
      · obtain heq | hle := List.suffix_cons_iff.mp hle
        · exact heq.symm
        · exact absurd hsettled' (not_settledAs_of_suffix hle hp hpend)
    rw [heq] at hu
    exact ⟨heq, congrArg Shipment.status (Option.some.inj (hu.symm.trans hu'))⟩
  case pairwise => exact fun ds u hpath => hpath.settled_once hsound
  case idle => exact fun id n p later hp hset hlater => asNoted_of_settled hlater hp hset
  case closing =>
    exact fun id n p drained u hp hset h => Channel.closes_over_settled hsound hbooked h hp hset

/-- The packet of Alice is timed out and refunded; after that, an acknowledgement
that says that it was delivered is noted, and nothing else. -/
theorem lifecycle_after_firstVoyage :
    ((storeAfter harbor (⟨5, .timedOut firstPacket⟩ :: firstVoyage)).shipment? "channel-0" 1).map
        (·.status) = some .refunded
      ∧ (storeAfter harbor (⟨5, .timedOut firstPacket⟩ :: firstVoyage)).AsNoted
        (storeAfter harbor ([⟨7, .timedOut firstPacket⟩,
          ⟨6, .acknowledged firstPacket Ack.success.encode⟩]
            ++ ⟨5, .timedOut firstPacket⟩ :: firstVoyage)) := by
  have hstatus : ((storeAfter harbor (⟨5, .timedOut firstPacket⟩ :: firstVoyage)).shipment?
      "channel-0" 1).map (·.status) = some .refunded := by decide +kernel
  obtain ⟨p, hp, hrefunded⟩ := Option.map_eq_some_iff.mp hstatus
  refine ⟨hstatus, (lifecycle_after harbor _).idle "channel-0" 1 p _ hp ?_ ?_⟩
  · rw [hrefunded]
    decide
  · simp only [List.forall_mem_cons, List.not_mem_nil, false_implies, implies_true, and_true]
    exact ⟨⟨rfl, rfl⟩, rfl, rfl⟩

end TokenBridge
