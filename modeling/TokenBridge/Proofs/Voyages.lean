import TokenBridge.Proofs.Origins
import TokenBridge.Proofs.Stowage

/-!
# Voyages

A cargo is carried from chain to chain: the one who has it sends it on a hop, the
packet is delivered on the other side, and the acknowledgement comes back
(`Chart.Step`). Between any two of these the bridges may be called for whatever
else leaves the cargo alone and the bridges working. A voyage begins where
nothing has arrived yet, with a token that has been minted on one of the chains
(`Chart.Departs`), and goes wherever there is a channel.

Every state of a voyage is on course: the cargo is stowed along the trail that the
hops so far have left (`Chart.Reaches.onCourse`). Every hop is decided on twice,
on two stores that know nothing of each other, and the two decisions have to
agree with the trail.

* The bridge that sends the cargo asks over which channel its class has come. It
  burns the cargo if that is the channel of the hop, which is so exactly if the hop
  leads back (`Chart.OnCourse.origin_iff`).
* The bridge at which it arrives asks whether the name of the class bears the
  endpoint of the sender, and what is deposited under the rest of the name. On a
  hop back it finds the deposit that was made when the cargo left. On any other
  hop the name does not bear that endpoint, since the cargo would have come over
  the same channel then (`Chart.OnCourse.name_ne_extend`), and under the new name
  there is nothing yet (`Chart.OnCourse.exists_receipt`).

That an arrival may not be taken, or be answered with an error, is not ruled out
by what a voyage is. It is ruled out by its being on course.
-/

namespace TokenBridge

open Store

variable {ι : Type}

/-! ## The state of a voyage -/

/-- **What is being done with the cargo.** -/
inductive Stage (ι : Type) where
  /-- Somebody has it. -/
  | held (holder : Address)
  /-- It is underway in a packet, and is to go to a receiver. -/
  | underway (hop : Hop ι) (packet : Packet) (receiver : Address)
  /-- The packet has been answered. -/
  | answered (hop : Hop ι) (packet : Packet) (receiver : Address) (ack : Ack)

/-- **The state of a voyage.** -/
structure Voyage (ι : Type) where
  /-- The history of the bridge on each chain, the latest turn first. -/
  past : ι → List Turn
  /-- The hops that have been made, the latest one first. -/
  log : List (Hop ι)
  /-- What is being done with the cargo. -/
  stage : Stage ι

namespace Chart

variable (chart : Chart ι) (cargo : Cargo ι)

/-- **Whether the bridge on a chain works**: it is not paused, and its channels
are open. -/
structure Working (i : ι) (s : Store Entry) : Prop where
  /-- It is not paused. -/
  running : ∃ settings, s.settings? = some settings ∧ settings.paused = false
  /-- The channel of each hop from the chain is open. -/
  opened : ∀ hop ∈ chart.hops, hop.source = i →
    ∃ channel, s.channel? hop.departure.channel = some channel ∧ channel.phase = .opened

/-- **Whether a turn has nothing to do with the cargo.** It may be any other call
of the bridge, if the bridge works afterwards. -/
structure Idle (i : ι) (turn : Turn) (s : Store Entry) : Prop where
  /-- The call is not one of the bridge itself. -/
  notBy : turn.call.NotBy (chart.bridge i)
  /-- A packet arrives at an endpoint whose name is free of slashes. -/
  plain : turn.call.Plain
  /-- The bridge works afterwards. -/
  working : chart.Working i (turn.after (chart.bridge i) s)
  /-- The cargo is left alone, under every name that it can have there. -/
  untouched : ∀ route, chart.IsRoute cargo route → cargo.place route = i →
    (turn.after (chart.bridge i) s).whereabouts (cargo.name route) cargo.tokenId
      = s.whereabouts (cargo.name route) cargo.tokenId

/-- **Whether the cargo may be sent on a hop** from the end of a trail to a
receiver. -/
structure Permits (trail : List (Hop ι)) (hop : Hop ι) (receiver : Address) : Prop where
  /-- There is such a hop. -/
  mem : hop ∈ chart.hops
  /-- It starts where the trail ends. -/
  here : hop.source = cargo.place trail
  /-- The receiver has an address. -/
  valid : Address.ofText receiver = .ok receiver
  /-- The receiver is not the bridge. -/
  other : receiver ≠ chart.bridge hop.target
  /-- If it leads on, the name that the class of the cargo gets fits in a key. -/
  short : trail.head? ≠ some hop.reverse →
    (Bytes.ofText (cargo.name (hop :: trail))).length < UInt16.size

/-- **A state in which a voyage can begin**: nothing has arrived anywhere yet, all
bridges work, and the cargo has been minted at home for somebody who has it. -/
structure Departs (past : ι → List Turn) (holder : Address) : Prop where
  /-- No bridge has been called by itself. -/
  notBy : ∀ i, ∀ turn ∈ past i, turn.call.NotBy (chart.bridge i)
  /-- Nothing has arrived. -/
  fresh : ∀ i, ∀ turn ∈ past i, ∀ packet, turn.call ≠ .arrived packet
  /-- The bridges work. -/
  working : ∀ i, chart.Working i (chart.store past i)
  /-- The cargo is there. -/
  minted : (chart.store past cargo.home).token? cargo.classId cargo.tokenId
    = some ⟨holder, cargo.uri⟩
  /-- The bridge does not have it. -/
  other : holder ≠ chart.bridge cargo.home

end Chart

/-- The turn by which the one who has the cargo sends it. -/
def Cargo.dispatch (cargo : Cargo ι) (trail : List (Hop ι)) (holder : Address) (hop : Hop ι)
    (receiver : Address) (timeout : Option UInt64) (now : UInt64) : Turn :=
  ⟨now, .command holder
    (.send ⟨cargo.name trail, [cargo.tokenId], receiver, hop.departure.channel, timeout⟩)⟩

namespace Chart

variable [DecidableEq ι] (chart : Chart ι) (cargo : Cargo ι)

/-- **What may happen on a voyage.** Which answer a packet gets is not said, only
that the chain brings back the one that was given. -/
inductive Step (v : Voyage ι) : Voyage ι → Prop
  /-- A bridge is called for something else. -/
  | idle (i : ι) (turn : Turn) (idle : chart.Idle cargo i turn (chart.store v.past i)) :
    Step v { v with past := called v.past i turn }
  /-- The one who has the cargo sends it, and the chain sends the packet for
  which the bridge asks. -/
  | sent (holder : Address) (hop : Hop ι) (receiver : Address) (timeout : Option UInt64)
    (now n : UInt64) (data : Bytes) (held : v.stage = .held holder)
    (permitted : chart.Permits cargo (trailOf v.log) hop receiver)
    (numbered : (chart.store v.past hop.source).nextNumber? hop.departure = some n)
    (posted : (cargo.dispatch (trailOf v.log) holder hop receiver timeout now).posts?
      (chart.bridge hop.source) (chart.store v.past hop.source) hop.departure.channel
        = some data) :
    Step v { v with
      past := called v.past hop.source
        (cargo.dispatch (trailOf v.log) holder hop receiver timeout now)
      stage := .underway hop ⟨hop.departure, hop.arrival, n, data⟩ receiver }
  /-- The packet is delivered, and answered in some way. -/
  | delivered (hop : Hop ι) (packet : Packet) (receiver : Address) (now : UInt64)
    (receipt : Receipt) (underway : v.stage = .underway hop packet receiver)
    (answered : (⟨now, .arrived packet⟩ : Turn).receipt? (chart.bridge hop.target)
      (chart.store v.past hop.target) = some receipt) :
    Step v { v with
      past := called v.past hop.target ⟨now, .arrived packet⟩
      stage := .answered hop packet receiver receipt.ack }
  /-- The answer that the packet was delivered comes back. -/
  | acknowledged (hop : Hop ι) (packet : Packet) (receiver : Address) (now : UInt64)
    (answered : v.stage = .answered hop packet receiver .success) :
    Step v
      { past := called v.past hop.source ⟨now, .acknowledged packet Ack.success.encode⟩
        log := hop :: v.log
        stage := .held receiver }

/-- **The states that a voyage can come to.** -/
inductive Reaches : Voyage ι → Prop
  /-- No hop has been made yet. -/
  | start (past : ι → List Turn) (holder : Address) (departs : chart.Departs cargo past holder) :
    Reaches { past, log := [], stage := .held holder }
  /-- Something more has happened. -/
  | step {v v' : Voyage ι} (reached : Reaches v) (step : chart.Step cargo v v') : Reaches v'

end Chart

/-! ## What holds on a voyage -/

namespace Chart

variable {chart : Chart ι} {i : ι}

/-- A turn that leaves a bridge as usable as it was leaves it working. -/
theorem Working.of_steady {s u : Store Entry} (h : chart.Working i s) (hsteady : Steady s u) :
    chart.Working i u where
  running := by
    rw [hsteady.settings]
    exact h.running
  opened hop hmem hsource := by
    obtain ⟨channel, hc, hopen⟩ := h.opened hop hmem hsource
    obtain ⟨channel', hc', hphase⟩ := hsteady.phases hc
    exact ⟨channel', hc', hphase.trans hopen⟩

/-- **What is known of a packet** in which the cargo is underway. -/
structure Shipped (chart : Chart ι) (cargo : Cargo ι) (past : ι → List Turn)
    (trail : List (Hop ι)) (hop : Hop ι) (packet : Packet) (receiver : Address) : Prop where
  /-- The cargo could be sent. -/
  permitted : chart.Permits cargo trail hop receiver
  /-- The packet comes from where the hop departs. -/
  source : packet.source = hop.departure
  /-- It goes to where the hop arrives. -/
  destination : packet.destination = hop.arrival
  /-- It is about the cargo, and it is on record. -/
  contents : ∃ data, PacketData.decode packet.data = .ok data
    ∧ data.classId = cargo.name trail ∧ data.tokenIds = [cargo.tokenId]
    ∧ data.tokenUris = [cargo.uri] ∧ data.receiver = receiver
    ∧ ∃ p, (chart.store past hop.source).shipment? hop.departure.channel packet.sequence = some p
      ∧ p.agreesWith data

section

variable [DecidableEq ι] (chart : Chart ι) (cargo : Cargo ι)

/-- **Where the cargo is** at each stage. -/
def Carried (past : ι → List Turn) (trail : List (Hop ι)) : Stage ι → Prop
  | .held holder =>
    holder ≠ chart.bridge (cargo.place trail)
      ∧ chart.Stowed cargo past trail (some ⟨holder, cargo.uri⟩)
  | .underway hop packet receiver =>
    chart.Shipped cargo past trail hop packet receiver
      ∧ chart.Stowed cargo past (hop.along trail) none
  | .answered hop packet receiver ack =>
    chart.Shipped cargo past trail hop packet receiver ∧ ack = .success
      ∧ chart.Stowed cargo past (hop.onto trail) (some ⟨receiver, cargo.uri⟩)

/-- **What holds of every state of a voyage.** -/
structure OnCourse (v : Voyage ι) : Prop where
  /-- No bridge has been called by itself. -/
  notBy : ∀ i, ∀ turn ∈ v.past i, turn.call.NotBy (chart.bridge i)
  /-- Packets have arrived at endpoints whose names are free of slashes. -/
  plain : ∀ i, ∀ turn ∈ v.past i, turn.call.Plain
  /-- The bridges work. -/
  working : ∀ i, chart.Working i (chart.store v.past i)
  /-- The trail is a route. -/
  route : chart.IsRoute cargo (trailOf v.log)
  /-- The name of the class at home is free of slashes and not empty. -/
  native : '/' ∉ cargo.classId.toList ∧ cargo.classId ≠ ""
  /-- The name of the cargo is not empty. -/
  named : cargo.tokenId ≠ ""
  /-- The cargo is where it should be. -/
  carried : chart.Carried cargo v.past (trailOf v.log) v.stage

end

variable [DecidableEq ι] {cargo : Cargo ι} {past : ι → List Turn} {turn : Turn} {hop : Hop ι}
  {trail : List (Hop ι)} {packet : Packet} {receiver holder : Address} {v v' : Voyage ι}

/-- A packet stays on record. -/
theorem Shipped.called (h : chart.Shipped cargo past trail hop packet receiver) (i : ι)
    (turn : Turn) : chart.Shipped cargo (called past i turn) trail hop packet receiver where
  permitted := h.permitted
  source := h.source
  destination := h.destination
  contents := by
    obtain ⟨data, hdecode, hclass, htokens, huris, hreceiver, p, hp, hagrees⟩ := h.contents
    refine ⟨data, hdecode, hclass, htokens, huris, hreceiver, ?_⟩
    by_cases hi : hop.source = i
    · subst hi
      obtain ⟨q, hq, hadvances⟩ := turn.advances (sound_after (past hop.source)) hp
      refine ⟨q, by rw [store_called]; exact hq, ?_⟩
      obtain rfl | ⟨-, status, -, rfl⟩ := hadvances <;> exact hagrees
    · exact ⟨p, by rw [store_called_of_ne hi]; exact hp, hagrees⟩

/-! ### The beginning -/

/-- **A voyage begins on course.** -/
theorem onCourse_of_departs (h : chart.Departs cargo past holder) :
    chart.OnCourse cargo { past, log := [], stage := .held holder } := by
  have hplain (i : ι) : ∀ turn ∈ past i, turn.call.Plain := by
    intro turn hturn
    cases hcall : turn.call with
    | arrived packet => exact absurd hcall (h.fresh i turn hturn packet)
    | _ => trivial
  have hheld (i : ι) : Held (chart.bridge i) (chart.store past i) := held_after (h.notBy i)
  have hgrown (i : ι) : Homegrown (chart.store past i) := homegrown_after (h.fresh i)
  have hregistered (i : ι) : Registered (chart.bridge i) (chart.store past i) :=
    registered_after (hplain i)
  obtain ⟨c, hc⟩ := (classed_after (past cargo.home)).known h.minted
  obtain ⟨hnative, hne⟩ := (hgrown cargo.home).native hc
  have hdeposit : (chart.store past cargo.home).deposit? cargo.classId cargo.tokenId = none :=
    (hheld cargo.home).deposit?_eq_none_of_other h.minted h.other
  -- where nothing has arrived no class has a name with a slash in it
  have habsent {hop : Hop ι} {rest : List (Hop ι)} :
      (chart.store past hop.target).token? (cargo.name (hop :: rest)) cargo.tokenId = none := by
    refine Option.eq_none_iff_forall_ne_some.mpr fun token ht => ?_
    obtain ⟨c, hc⟩ := (classed_after (past hop.target)).known ht
    exact (hregistered hop.target).native hc ((hgrown hop.target).native hc).1
      Cargo.slash_mem_name_cons
  exact
    { notBy := h.notBy
      plain := hplain
      working := h.working
      route := trivial
      native := ⟨(hregistered cargo.home).native hc hnative, hne⟩
      named := (hgrown cargo.home).named h.minted
      carried := ⟨h.other,
        { here := Prod.ext h.minted hdeposit
          behind := fun hsuffix => by simp at hsuffix
          elsewhere := fun {route} _ hnot => by
            cases route with
            | nil => exact absurd List.suffix_rfl hnot
            | cons hop rest =>
              refine Prod.ext habsent ((hheld hop.target).deposit?_eq_none fun uri ht => ?_)
              cases habsent.symm.trans ht }⟩ }

namespace OnCourse

/-! ### Sends -/

/-- The class of the cargo has come over the channel of a hop exactly if the hop
leads back. -/
theorem origin_iff (h : chart.OnCourse cargo v) (hmem : hop ∈ chart.hops)
    (hroute : chart.IsRoute cargo trail) (hsource : hop.source = cargo.place trail)
    {c : TokenClass} (hc : (chart.store v.past hop.source).class? (cargo.name trail) = some c) :
    c.origin = .wrapped hop.departure.channel ↔ trail.head? = some hop.reverse := by
  have hregistered : Registered (chart.bridge hop.source) (chart.store v.past hop.source) :=
    registered_after (h.plain hop.source)
  cases trail with
  | nil =>
    refine iff_of_false (fun horigin => ?_) (by simp)
    obtain ⟨-, arrival, inner, -, -, heq⟩ := hregistered.wrapped hc horigin
    exact h.native.1 ((show cargo.classId = arrival.extend inner from heq) ▸
      Endpoint.slash_mem_extend)
  | cons last rest =>
    obtain ⟨horigin, -⟩ := hregistered.origin_of_extend (chart.plain _ hroute.1) hc
    rw [horigin, Origin.wrapped.injEq, List.head?_cons, Option.some.injEq]
    constructor
    · exact eq_of_arrival hroute.1 (chart.reverse_mem _ hmem) hsource.symm
    · rintro rfl
      rfl

variable {timeout : Option UInt64} {now : UInt64} {data : Bytes}

/-- The cargo is where it is held. -/
theorem whereabouts_of_held (h : chart.OnCourse cargo v) (hheld : v.stage = .held holder)
    (hsource : hop.source = cargo.place (trailOf v.log)) :
    (chart.store v.past hop.source).whereabouts (cargo.name (trailOf v.log)) cargo.tokenId
      = (some ⟨holder, cargo.uri⟩, none) := by
  have hcarried := h.carried
  rw [hheld] at hcarried
  rw [hsource]
  exact hcarried.2.here

/-- **The one who has the cargo can send it.** -/
theorem exists_posts (h : chart.OnCourse cargo v) (hheld : v.stage = .held holder)
    (hp : chart.Permits cargo (trailOf v.log) hop receiver)
    (htimely : SendOrder.Timely ⟨cargo.name (trailOf v.log), [cargo.tokenId], receiver,
      hop.departure.channel, timeout⟩ now (chart.store v.past hop.source))
    (hroom : (v.past hop.source).length + 1 < UInt64.size)
    (hshort : (trailOf v.log).head? ≠ some hop.reverse →
      (Bytes.ofText hop.departure.channel).length < UInt16.size) :
    ∃ data, (cargo.dispatch (trailOf v.log) holder hop receiver timeout now).posts?
      (chart.bridge hop.source) (chart.store v.past hop.source) hop.departure.channel
        = some data := by
  have hw := h.whereabouts_of_held hheld hp.here
  have ht : (chart.store v.past hop.source).token? (cargo.name (trailOf v.log)) cargo.tokenId
      = some ⟨holder, cargo.uri⟩ := congrArg Prod.fst hw
  refine SendOrder.Admitted.exists_posts ⟨(h.working _).running, htimely, ?_, ?_, rfl,
    (classed_after _).known ht, fun tokenId hmem => ?_, fun tokenId hmem => ?_⟩
  · obtain ⟨channel, hc, hopen⟩ := (h.working _).opened hop hp.mem rfl
    refine ⟨channel, hc, hopen, ?_⟩
    exact Nat.lt_of_le_of_lt (Nat.succ_le_succ (nextSequence_le_length hc)) hroom
  · -- on the way back the name of the channel is a part of the name of the class
    by_cases hback : (trailOf v.log).head? = some hop.reverse
    · obtain ⟨rest, htrail⟩ := List.head?_eq_some_iff.mp hback
      have hfits := Key.fits_token_iff.mp (Table.fits_of_view ht)
      rw [htrail, Cargo.name_cons, Endpoint.length_extend] at hfits
      have hchannel : (Bytes.ofText hop.departure.channel).length
          ≤ (Bytes.ofText hop.departure.trail).length := by
        simp [Endpoint.trail]
        omega
      exact Nat.lt_of_le_of_lt (Nat.le_trans hchannel (Nat.le_add_right _ _)) hfits
    · exact hshort hback
  · obtain rfl := List.mem_singleton.mp hmem
    exact ⟨cargo.uri, ht⟩
  · obtain rfl := List.mem_singleton.mp hmem
    exact congrArg Prod.snd hw

/-- **The cargo is burned if it is sent back, and deposited if it is sent
on.** -/
theorem moved_of_posts (h : chart.OnCourse cargo v) (hheld : v.stage = .held holder)
    (hp : chart.Permits cargo (trailOf v.log) hop receiver)
    (hposted : (cargo.dispatch (trailOf v.log) holder hop receiver timeout now).posts?
      (chart.bridge hop.source) (chart.store v.past hop.source) hop.departure.channel
        = some data) :
    Moved (chart.store v.past hop.source)
      ((cargo.dispatch (trailOf v.log) holder hop receiver timeout now).after
        (chart.bridge hop.source) (chart.store v.past hop.source))
      (cargo.name (trailOf v.log)) cargo.tokenId
      (if (trailOf v.log).head? = some hop.reverse then (none, none)
        else (some ⟨chart.bridge hop.source, cargo.uri⟩,
          some ⟨cargo.name (trailOf v.log), cargo.tokenId, hop.departure.channel, holder⟩)) := by
  have hw := h.whereabouts_of_held hheld hp.here
  obtain ⟨c, hc⟩ := (classed_after _).known (congrArg Prod.fst hw)
  have hmoved := Turn.moved_of_posts hposted rfl hc hw
  simp only [h.origin_iff hp.mem h.route hp.here hc] at hmoved
  exact hmoved

/-! ### Deliveries -/

/-- A packet in which the cargo is underway is admitted. -/
theorem admitted (h : chart.OnCourse cargo v)
    (hshipped : chart.Shipped cargo v.past trail hop packet receiver) {data : PacketData}
    (hdecode : PacketData.decode packet.data = .ok data) (htokens : data.tokenIds = [cargo.tokenId])
    (huris : data.tokenUris = [cargo.uri]) (hreceiver : data.receiver = receiver) :
    packet.Admitted data (chart.store v.past hop.target) where
  running := (h.working _).running
  opened := by
    rw [hshipped.destination]
    exact (h.working _).opened hop.reverse (chart.reverse_mem _ hshipped.permitted.mem) rfl
  decoded := hdecode
  valid := by
    simp [PacketData.validate, PacketData.checkTokens, htokens, huris, h.named]
  addressed := by
    rw [hreceiver]
    exact hshipped.permitted.valid

/-- On a hop that leads on, the class of the cargo does not bear the trail of the
chain from which it comes. -/
theorem name_ne_extend (h : chart.OnCourse cargo v) (hmem : hop ∈ chart.hops)
    (hroute : chart.IsRoute cargo trail) (hsource : hop.source = cargo.place trail)
    (hon : trail.head? ≠ some hop.reverse) (home : String) :
    cargo.name trail ≠ hop.departure.extend home := by
  intro heq
  cases trail with
  | nil =>
    exact h.native.1 ((show cargo.classId = hop.departure.extend home from heq) ▸
      Endpoint.slash_mem_extend)
  | cons last rest =>
    obtain ⟨harrival, -⟩ :=
      (Endpoint.extend_inj (chart.plain _ hroute.1) (plain_departure hmem)).mp heq
    refine hon (congrArg some ?_)
    exact eq_of_arrival hroute.1 (chart.reverse_mem _ hmem) hsource.symm (by rw [harrival]; rfl)

/-- On a hop back the cargo is released, since it is deposited for the channel on
which it arrives. -/
theorem exists_receipt_of_back (h : chart.OnCourse cargo v) {rest : List (Hop ι)}
    (hroute : chart.IsRoute cargo (hop.reverse :: rest))
    (hshipped : chart.Shipped cargo v.past (hop.reverse :: rest) hop packet receiver)
    (hstowed : chart.Stowed cargo v.past (hop.reverse :: rest) none) (now : UInt64) :
    ∃ receipt, (⟨now, .arrived packet⟩ : Turn).receipt? (chart.bridge hop.target)
        (chart.store v.past hop.target) = some receipt
      ∧ receipt.ack = .success
      ∧ Moved (chart.store v.past hop.target)
        ((⟨now, .arrived packet⟩ : Turn).after (chart.bridge hop.target)
          (chart.store v.past hop.target))
        (cargo.name rest) cargo.tokenId (some ⟨receiver, cargo.uri⟩, none) := by
  obtain ⟨data, hdecode, hclass, htokens, huris, hreceiver, -⟩ := hshipped.contents
  have hname : data.classId ≠ "" := hclass ▸ Cargo.name_ne_empty h.native.2 _
  have hplace : cargo.place rest = hop.target := hroute.2.1.symm
  obtain ⟨depositor, hberth⟩ := hstowed.behind List.suffix_rfl
  rw [berth, hplace] at hberth
  have hhome : data.classId = packet.source.extend (cargo.name rest) := by
    rw [hclass, hshipped.source]
    rfl
  have hchannel : hop.reverse.departure.channel = packet.destination.channel := by
    rw [hshipped.destination]
    rfl
  obtain ⟨receipt, u, harrived, hack⟩ :=
    (h.admitted hshipped hdecode htokens huris hreceiver).exists_arrived_home
      ⟨chart.bridge hop.target, now⟩ hname hhome fun tokenId hmem => by
        obtain rfl := List.mem_singleton.mp (htokens ▸ hmem)
        exact ⟨cargo.uri, _, congrArg Prod.fst hberth, congrArg Prod.snd hberth, hchannel⟩
  have hreceipt := Turn.receipt?_of_arrived harrived
  rw [← hreceiver]
  exact ⟨receipt, hreceipt, hack,
    Turn.moved_of_brought_home hreceipt hack hdecode htokens hhome hberth hchannel⟩

/-- On a hop that leads on the cargo is minted, since it does not come home, and
there is nothing yet under its new name. -/
theorem exists_receipt_of_on (h : chart.OnCourse cargo v) (hroute : chart.IsRoute cargo trail)
    (hon : trail.head? ≠ some hop.reverse)
    (hshipped : chart.Shipped cargo v.past trail hop packet receiver)
    (hstowed : chart.Stowed cargo v.past (hop :: trail) none) (now : UInt64) :
    ∃ receipt, (⟨now, .arrived packet⟩ : Turn).receipt? (chart.bridge hop.target)
        (chart.store v.past hop.target) = some receipt
      ∧ receipt.ack = .success
      ∧ Moved (chart.store v.past hop.target)
        ((⟨now, .arrived packet⟩ : Turn).after (chart.bridge hop.target)
          (chart.store v.past hop.target))
        (cargo.name (hop :: trail)) cargo.tokenId (some ⟨receiver, cargo.uri⟩, none) := by
  obtain ⟨hmem, hsource, -, -, hshort⟩ := hshipped.permitted
  obtain ⟨data, hdecode, hclass, htokens, huris, hreceiver, -⟩ := hshipped.contents
  have hname : data.classId ≠ "" := hclass ▸ Cargo.name_ne_empty h.native.2 _
  have hnew : (chart.store v.past hop.target).homeOf? packet.source packet.destination.channel
      data.classId cargo.tokenId = none := by
    refine Option.eq_none_iff_forall_ne_some.mpr fun home hhome => ?_
    obtain ⟨heq, -⟩ := homeOf?_eq_some_iff.mp hhome
    rw [hclass, hshipped.source] at heq
    exact h.name_ne_extend hmem hroute hsource hon home heq
  have hextend : packet.destination.extend data.classId = cargo.name (hop :: trail) := by
    rw [hclass, hshipped.destination]
    rfl
  have hberth := hstowed.here
  rw [berth, Cargo.place_cons, ← hextend] at hberth
  obtain ⟨receipt, u, harrived, hack⟩ :=
    (h.admitted hshipped hdecode htokens huris hreceiver).exists_arrived_new
      ⟨chart.bridge hop.target, now⟩ hname (classed_after _).named (hextend ▸ hshort hon)
      (fun tokenId hmem => by
        obtain rfl := List.mem_singleton.mp (htokens ▸ hmem)
        exact hnew)
      (fun tokenId hmem => by
        obtain rfl := List.mem_singleton.mp (htokens ▸ hmem)
        exact congrArg Prod.fst hberth)
  have hreceipt := Turn.receipt?_of_arrived harrived
  rw [← hreceiver, ← hextend]
  exact ⟨receipt, hreceipt, hack,
    Turn.moved_of_brought hreceipt hack hdecode htokens huris (classed_after _).named hnew hberth⟩

/-- **The cargo is delivered**: the packet is answered with a success, and the
cargo is in the hands of the receiver. -/
theorem exists_receipt (h : chart.OnCourse cargo v)
    (hunderway : v.stage = .underway hop packet receiver) (now : UInt64) :
    ∃ receipt, (⟨now, .arrived packet⟩ : Turn).receipt? (chart.bridge hop.target)
        (chart.store v.past hop.target) = some receipt
      ∧ receipt.ack = .success
      ∧ Moved (chart.store v.past hop.target)
        ((⟨now, .arrived packet⟩ : Turn).after (chart.bridge hop.target)
          (chart.store v.past hop.target))
        (cargo.name (hop.onto (trailOf v.log))) cargo.tokenId
        (some ⟨receiver, cargo.uri⟩, none) := by
  have hcarried := h.carried
  rw [hunderway] at hcarried
  obtain ⟨hshipped, hstowed⟩ := hcarried
  have hroute := h.route
  obtain ⟨rest, htrail, honto⟩ | ⟨hon, honto⟩ := hop.back_or_on (trailOf v.log)
  · rw [htrail, Hop.along_reverse] at hstowed
    rw [htrail] at hroute hshipped
    rw [honto]
    exact h.exists_receipt_of_back hroute hshipped hstowed now
  · rw [Hop.along_of_on hon] at hstowed
    rw [honto]
    exact h.exists_receipt_of_on hroute hon hshipped hstowed now

/-! ### Acknowledgements -/

/-- **The acknowledgement is taken.** -/
theorem exists_response (h : chart.OnCourse cargo v) {ack : Ack}
    (hanswered : v.stage = .answered hop packet receiver ack) (now : UInt64) :
    ack = .success ∧ ∃ r u, (⟨now, .acknowledged packet Ack.success.encode⟩ : Turn).take
      (chart.bridge hop.source) (chart.store v.past hop.source) = (.ok (.response r), u) := by
  have hcarried := h.carried
  rw [hanswered] at hcarried
  obtain ⟨hshipped, hack, -⟩ := hcarried
  obtain ⟨data, hdecode, -, -, -, -, p, hp, hagrees⟩ := hshipped.contents
  rw [← hshipped.source] at hp
  obtain ⟨r, u, hr⟩ := Packet.exists_acknowledged ⟨chart.bridge hop.source, now⟩
    (sound_after _) hp hdecode hagrees
  exact ⟨hack, r, u, Turn.take_eq_ok_iff.mpr (Program.yields_map.mpr ⟨r, hr, rfl⟩)⟩

/-! ### Steps -/

/-- A turn keeps a voyage on course if the bridge works afterwards and the cargo
is where it should be. -/
theorem of_called (h : chart.OnCourse cargo v) {log : List (Hop ι)} {stage : Stage ι}
    (hnotBy : turn.call.NotBy (chart.bridge i)) (hplain : turn.call.Plain)
    (hworking : chart.Working i (turn.after (chart.bridge i) (chart.store v.past i)))
    (hroute : chart.IsRoute cargo (trailOf log))
    (hcarried : chart.Carried cargo (called v.past i turn) (trailOf log) stage) :
    chart.OnCourse cargo { past := called v.past i turn, log, stage } where
  notBy j other hother := by
    obtain ⟨rfl, rfl⟩ | hother := mem_called hother
    · exact hnotBy
    · exact h.notBy j other hother
  plain j other hother := by
    obtain ⟨rfl, rfl⟩ | hother := mem_called hother
    · exact hplain
    · exact h.plain j other hother
  working := forall_store_called hworking h.working
  route := hroute
  native := h.native
  named := h.named
  carried := hcarried

/-- If the cargo has not moved, it is where it should be. -/
theorem carried_called (h : chart.OnCourse cargo v)
    (hsame : ∀ {route}, chart.IsRoute cargo route →
      chart.berth cargo (called v.past i turn) route = chart.berth cargo v.past route) :
    chart.Carried cargo (called v.past i turn) (trailOf v.log) v.stage := by
  have hcarried := h.carried
  cases hstage : v.stage with
  | held holder =>
    rw [hstage] at hcarried
    exact ⟨hcarried.1, hcarried.2.congr h.route hsame⟩
  | underway hop packet receiver =>
    rw [hstage] at hcarried
    obtain ⟨hshipped, hstowed⟩ := hcarried
    have hroute := h.route.along hshipped.permitted.mem hshipped.permitted.here
    exact ⟨hshipped.called i turn, hstowed.congr hroute hsame⟩
  | answered hop packet receiver ack =>
    rw [hstage] at hcarried
    obtain ⟨hshipped, hack, hstowed⟩ := hcarried
    have hroute := h.route.onto hshipped.permitted.mem hshipped.permitted.here
    exact ⟨hshipped.called i turn, hack, hstowed.congr hroute hsame⟩

/-- A send takes the cargo away from the end of the trail. -/
theorem stowed_of_sent (h : chart.OnCourse cargo v) (hheld : v.stage = .held holder)
    (hp : chart.Permits cargo (trailOf v.log) hop receiver) {timeout : Option UInt64}
    {now : UInt64} {data : Bytes}
    (hposted : (cargo.dispatch (trailOf v.log) holder hop receiver timeout now).posts?
      (chart.bridge hop.source) (chart.store v.past hop.source) hop.departure.channel
        = some data) :
    chart.Stowed cargo
      (called v.past hop.source (cargo.dispatch (trailOf v.log) holder hop receiver timeout now))
      (hop.along (trailOf v.log)) none := by
  have hcarried := h.carried
  rw [hheld] at hcarried
  obtain ⟨-, hstowed⟩ := hcarried
  have hshifted := shifted_called h.native.1 h.route hp.here (h.moved_of_posts hheld hp hposted)
  by_cases hback : (trailOf v.log).head? = some hop.reverse
  · rw [if_pos hback] at hshifted
    rw [Hop.along, if_pos hback]
    exact hstowed.shift h.route hshifted
  · rw [if_neg hback, hp.here] at hshifted
    rw [Hop.along_of_on hback, hp.here]
    exact hstowed.push ⟨hp.mem, hp.here, h.route⟩ hshifted

/-- A delivery brings the cargo to the end of the trail after the hop. -/
theorem stowed_of_delivered (h : chart.OnCourse cargo v)
    (hunderway : v.stage = .underway hop packet receiver) {now : UInt64}
    (hmoved : Moved (chart.store v.past hop.target)
      ((⟨now, .arrived packet⟩ : Turn).after (chart.bridge hop.target)
        (chart.store v.past hop.target))
      (cargo.name (hop.onto (trailOf v.log))) cargo.tokenId (some ⟨receiver, cargo.uri⟩, none)) :
    chart.Stowed cargo (called v.past hop.target ⟨now, .arrived packet⟩)
      (hop.onto (trailOf v.log)) (some ⟨receiver, cargo.uri⟩) := by
  have hcarried := h.carried
  rw [hunderway] at hcarried
  obtain ⟨hshipped, hstowed⟩ := hcarried
  obtain ⟨hmem, hsource, -⟩ := hshipped.permitted
  have hroute := h.route
  have hshifted := shifted_called h.native.1 (hroute.onto hmem hsource) hroute.place_onto.symm
    hmoved
  generalize trailOf v.log = trail at *
  obtain ⟨rest, rfl, honto⟩ | ⟨hon, honto⟩ := hop.back_or_on trail
  · rw [Hop.along_reverse] at hstowed
    rw [honto] at hshifted ⊢
    exact hstowed.pop hroute hshifted
  · rw [Hop.along_of_on hon] at hstowed
    rw [honto] at hshifted ⊢
    exact hstowed.shift ⟨hmem, hsource, hroute⟩ hshifted

/-- **Every step keeps a voyage on course.** -/
theorem of_step (h : chart.OnCourse cargo v) (hstep : chart.Step cargo v v') :
    chart.OnCourse cargo v' := by
  cases hstep with
  | idle i turn hidle =>
    exact h.of_called hidle.notBy hidle.plain hidle.working h.route
      (h.carried_called fun hroute => berth_called hroute hidle.untouched)
  | sent holder hop receiver timeout now n data hheld hp hnumbered hposted =>
    have hw := h.whereabouts_of_held hheld hp.here
    obtain ⟨contents, hdecode, hclass, htokens, huris, hreceiver, p, hrecord, hagrees⟩ :=
      Turn.record_of_posts hposted rfl hw rfl hnumbered
    have hcarried := h.carried
    rw [hheld] at hcarried
    refine h.of_called ?_ trivial
      ((h.working _).of_steady (Turn.steady_of_posts hposted (sound_after _))) h.route
      ⟨⟨hp, rfl, rfl, contents, hdecode, hclass, htokens, huris, hreceiver, p, ?_, hagrees⟩,
        h.stowed_of_sent hheld hp hposted⟩
    · rw [hp.here]
      exact hcarried.1
    · rw [store_called]
      exact hrecord
  | delivered hop packet receiver now receipt hunderway hreceipt =>
    obtain ⟨receipt', hreceipt', hack, hmoved⟩ := h.exists_receipt hunderway now
    obtain rfl : receipt' = receipt := Option.some.inj (hreceipt'.symm.trans hreceipt)
    have hcarried := h.carried
    rw [hunderway] at hcarried
    have hshipped := hcarried.1
    refine h.of_called trivial ?_
      ((h.working _).of_steady (Turn.steady_of_receipt hreceipt (sound_after _))) h.route
      ⟨hshipped.called _ _, hack, h.stowed_of_delivered hunderway hmoved⟩
    show packet.destination.Plain
    rw [hshipped.destination]
    exact chart.plain _ hshipped.permitted.mem
  | acknowledged hop packet receiver now hanswered =>
    have hcarried := h.carried
    rw [hanswered] at hcarried
    obtain ⟨hshipped, -, hstowed⟩ := hcarried
    have hroute := h.route.onto hshipped.permitted.mem hshipped.permitted.here
    refine h.of_called trivial trivial
      ((h.working _).of_steady (Turn.steady_of_acknowledged (sound_after _) packet now)) hroute
      ⟨?_, hstowed.congr hroute fun hroute => berth_called hroute fun route _ _ =>
        Turn.stays_of_acknowledged _ _ packet now _ _⟩
    rw [trailOf_cons, h.route.place_onto]
    exact hshipped.permitted.other

end OnCourse

/-- **Every voyage stays on course.** -/
theorem Reaches.onCourse (h : chart.Reaches cargo v) : chart.OnCourse cargo v := by
  induction h with
  | start past holder departs => exact onCourse_of_departs departs
  | step _ step ih => exact ih.of_step step

end Chart

end TokenBridge
