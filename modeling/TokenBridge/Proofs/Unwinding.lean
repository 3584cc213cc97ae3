import TokenBridge.Proofs.Voyages

/-!
# Every path unwinds

A path can lead to the same chain and over the same channel any number of times,
and the name of the class of the cargo gets another layer with each hop. If the
cargo is sent back over the same hops, each layer is taken off again where it was
put on, and the cargo ends as the token that it was. Every send on the way is
carried out, every packet is answered with a success, and no token but the cargo
is moved (`Chart.every_path_unwinds`).

A path never turns back, that is, it never leaves a chain over the channel on which
it has just come. This is what makes the way back one: to leave a chain over that
channel is to undo the last hop. So the trail that a voyage leaves is the path on
the way out, and on the way back what has not been undone yet (`trailOf_wayBack`).

There is a voyage along every path (`Chart.Departs.exists_voyage`). What it takes
is that the names fit in their keys, that the packets get a deadline, and that the
numbers of the packets do not run out.
-/

namespace TokenBridge

open Store

variable {ι : Type} [DecidableEq ι]

namespace Chart

variable {chart : Chart ι} {cargo : Cargo ι} {past : ι → List Turn} {hop : Hop ι}
  {receiver holder : Address} {v : Voyage ι}

/-! ## Voyages that can be made -/

/-- **A hop that may be made can be made.** -/
theorem Reaches.exists_hop (h : chart.Reaches cargo v) (hheld : v.stage = .held holder)
    (hp : chart.Permits cargo (trailOf v.log) hop receiver) {seconds now deadline : UInt64}
    (htimeout : checkTimeout seconds = .ok ())
    (hdeadline : SendOrder.deadlineAfter now seconds = .ok deadline)
    (hchannel : (Bytes.ofText hop.departure.channel).length < UInt16.size)
    (hroom : (v.past hop.source).length + 1 < UInt64.size) :
    ∃ v', chart.Reaches cargo v' ∧ v'.log = hop :: v.log ∧ v'.stage = .held receiver
      ∧ ∀ i, (v'.past i).length ≤ (v.past i).length + 3 := by
  have hworking := h.onCourse.working hop.source
  obtain ⟨settings, hs, -⟩ := hworking.running
  obtain ⟨channel, hc, -⟩ := hworking.opened hop hp.mem rfl
  have hnumbered : (chart.store v.past hop.source).nextNumber? hop.departure
      = some channel.nextSequence := by
    rw [nextNumber?, hc]
    rfl
  have htimely : SendOrder.Timely ⟨cargo.name (trailOf v.log), [cargo.tokenId], receiver,
      hop.departure.channel, some seconds⟩ now (chart.store v.past hop.source) :=
    ⟨settings, deadline, hs, htimeout, hdeadline⟩
  obtain ⟨data, hposted⟩ := h.onCourse.exists_posts hheld hp htimely hroom fun _ => hchannel
  have hsent := h.step (.sent holder hop receiver (some seconds) now _ data hheld hp hnumbered
    hposted)
  obtain ⟨receipt, hreceipt, hack, -⟩ := hsent.onCourse.exists_receipt rfl now
  have hdelivered := hsent.step (.delivered hop _ receiver now receipt rfl hreceipt)
  rw [hack] at hdelivered
  refine ⟨_, hdelivered.step (.acknowledged hop _ receiver now rfl), rfl, rfl, fun i => ?_⟩
  exact (length_called_le _ _ _ _).trans (Nat.succ_le_succ ((length_called_le _ _ _ _).trans
    (Nat.succ_le_succ (length_called_le _ _ _ _))))

variable (chart cargo) in
/-- **Whether hops can be made** one after the other, the latest one first, where
the cargo is sent to the same receiver each time. -/
def Passable (receiver : Address) : List (Hop ι) → Prop
  | [] => True
  | hop :: log => chart.Permits cargo (trailOf log) hop receiver
    ∧ (Bytes.ofText hop.departure.channel).length < UInt16.size ∧ Passable receiver log

/-- **Every voyage that can be made is made**, from every state in which one can
begin. -/
theorem Departs.exists_voyage (h : chart.Departs cargo past holder) {log : List (Hop ι)}
    (hlog : chart.Passable cargo receiver log) {seconds now deadline : UInt64}
    (htimeout : checkTimeout seconds = .ok ())
    (hdeadline : SendOrder.deadlineAfter now seconds = .ok deadline)
    (hroom : ∀ i, (past i).length + 3 * log.length < UInt64.size) :
    ∃ v holder, chart.Reaches cargo v ∧ v.log = log ∧ v.stage = .held holder
      ∧ ∀ i, (v.past i).length ≤ (past i).length + 3 * log.length := by
  induction log with
  | nil => exact ⟨_, holder, .start past holder h, rfl, rfl, fun i => Nat.le_refl _⟩
  | cons hop log ih =>
    obtain ⟨hp, hchannel, hlog⟩ := hlog
    simp only [List.length_cons] at hroom ⊢
    obtain ⟨v, holder, hreaches, rfl, hheld, hlength⟩ := ih hlog fun i => by
      have := hroom i
      omega
    obtain ⟨v', hreaches', hlog', hheld', hlength'⟩ := hreaches.exists_hop hheld hp htimeout
      hdeadline hchannel (by have := hroom hop.source; have := hlength hop.source; omega)
    refine ⟨v', receiver, hreaches', hlog', hheld', fun i => ?_⟩
    have := hlength i
    have := hlength' i
    omega

/-! ## Every path unwinds -/

/-- **What can be relied on** when the cargo of a voyage has left a trail. -/
structure SafePassage (chart : Chart ι) (cargo : Cargo ι) (v : Voyage ι)
    (trail : List (Hop ι)) : Prop where
  /-- The one who has the cargo has it at the end of the trail, under the name that
  it has there. Each chain before has it in escrow for the channel of the next
  hop, and it is nowhere else. -/
  stowed : ∀ {holder}, v.stage = .held holder →
    chart.Stowed cargo v.past trail (some ⟨holder, cargo.uri⟩)
  /-- On each chain of the trail the class of the cargo is known under the name that
  it has there. -/
  classes : ∀ {holder}, v.stage = .held holder → ∀ {route}, route <:+ trail →
    ∃ c, (chart.store v.past (cargo.place route)).class? (cargo.name route) = some c
      ∧ c.id = cargo.name route
  /-- The one who has the cargo can send it on every hop on which it may be sent, if
  the packet gets a deadline and a number. On a hop that leads on the name of the
  channel has to fit in a key. On a hop back it does, as it is a part of the name of
  the class. -/
  sends : ∀ {holder hop receiver timeout now}, v.stage = .held holder →
    chart.Permits cargo trail hop receiver →
    SendOrder.Timely ⟨cargo.name trail, [cargo.tokenId], receiver, hop.departure.channel, timeout⟩
      now (chart.store v.past hop.source) →
    (v.past hop.source).length + 1 < UInt64.size →
    (trail.head? ≠ some hop.reverse →
      (Bytes.ofText hop.departure.channel).length < UInt16.size) →
    ∃ data, (cargo.dispatch trail holder hop receiver timeout now).posts?
      (chart.bridge hop.source) (chart.store v.past hop.source) hop.departure.channel = some data
  /-- If it is sent back it is burned, and otherwise it is put in escrow. No other
  token is moved. -/
  leaves : ∀ {holder hop receiver timeout now data}, v.stage = .held holder →
    chart.Permits cargo trail hop receiver →
    (cargo.dispatch trail holder hop receiver timeout now).posts?
      (chart.bridge hop.source) (chart.store v.past hop.source) hop.departure.channel = some data →
    Moved (chart.store v.past hop.source)
      ((cargo.dispatch trail holder hop receiver timeout now).after
        (chart.bridge hop.source) (chart.store v.past hop.source))
      (cargo.name trail) cargo.tokenId
      (if trail.head? = some hop.reverse then (none, none)
        else (some ⟨chart.bridge hop.source, cargo.uri⟩,
          some ⟨cargo.name trail, cargo.tokenId, hop.departure.channel, holder⟩))
  /-- A packet that is delivered is answered with a success. Then the receiver has
  the cargo under the name that the trail gives it after the hop, not in escrow,
  and no other token is moved. -/
  arrives : ∀ {hop packet receiver}, v.stage = .underway hop packet receiver → ∀ now,
    ∃ receipt, (⟨now, .arrived packet⟩ : Turn).receipt? (chart.bridge hop.target)
        (chart.store v.past hop.target) = some receipt
      ∧ receipt.ack = .success
      ∧ Moved (chart.store v.past hop.target)
        ((⟨now, .arrived packet⟩ : Turn).after (chart.bridge hop.target)
          (chart.store v.past hop.target))
        (cargo.name (hop.onto trail)) cargo.tokenId (some ⟨receiver, cargo.uri⟩, none)
  /-- On a hop back it was in escrow there until then, for the channel on which the
  packet arrives. -/
  released : ∀ {hop packet receiver rest}, v.stage = .underway hop packet receiver →
    trail = hop.reverse :: rest → ∃ depositor, chart.berth cargo v.past rest
      = (some ⟨chart.bridge hop.target, cargo.uri⟩,
        some ⟨cargo.name rest, cargo.tokenId, hop.arrival.channel, depositor⟩)
  /-- Every packet that is answered is answered with a success, and the
  acknowledgement is taken. -/
  settles : ∀ {hop packet receiver ack}, v.stage = .answered hop packet receiver ack → ∀ now,
    ack = .success ∧ ∃ r u, (⟨now, .acknowledged packet Ack.success.encode⟩ : Turn).take
      (chart.bridge hop.source) (chart.store v.past hop.source) = (.ok (.response r), u)

/-- A voyage that is on course goes safely. -/
theorem OnCourse.safePassage (h : chart.OnCourse cargo v) :
    chart.SafePassage cargo v (trailOf v.log) := by
  have hstowed {holder : Address} (hheld : v.stage = .held holder) :
      chart.Stowed cargo v.past (trailOf v.log) (some ⟨holder, cargo.uri⟩) := by
    have hcarried := h.carried
    rw [hheld] at hcarried
    exact hcarried.2
  exact
    { stowed := hstowed
      classes := fun {holder} hheld {route} hsuffix => by
        obtain ⟨token, ht⟩ := (hstowed hheld).exists_token hsuffix
        obtain ⟨c, hc⟩ := (classed_after _).known ht
        exact ⟨c, hc, (classed_after _).named hc⟩
      sends := h.exists_posts
      leaves := h.moved_of_posts
      arrives := h.exists_receipt
      released := fun {hop packet receiver rest} hunderway htrail => by
        have hcarried := h.carried
        rw [hunderway, htrail] at hcarried
        have hroute := h.route
        rw [htrail] at hroute
        obtain ⟨-, hstowed⟩ := hcarried
        rw [Hop.along_reverse] at hstowed
        obtain ⟨depositor, hberth⟩ := hstowed.behind List.suffix_rfl
        exact ⟨depositor, by rw [hberth, ← hroute.2.1]; rfl⟩
      settles := h.exists_response }

/-- **Every path unwinds.** Take a voyage along a path that never turns back, of
which the hops `undone` have been made again in the other direction, and the hops
`rest` are left. On the way out nothing has been undone, and where nothing is left
the cargo is home. Then the cargo is stowed along what is left, and from there on
each send, each delivery and each acknowledgement succeeds, and moves the cargo
alone. -/
theorem every_path_unwinds (h : chart.Reaches cargo v) {undone rest : List (Hop ι)}
    (hpath : Onward (undone ++ rest)) (hlog : v.log = wayBack undone ++ (undone ++ rest)) :
    chart.SafePassage cargo v rest := by
  have hsafe := h.onCourse.safePassage
  rwa [hlog, trailOf_wayBack hpath] at hsafe

end Chart

/-! ### A voyage over two straits -/

/-- A hop from the harbor to the island. -/
def overStrait : Hop Side :=
  { source := .left, target := .right, departure := harborChannel.here,
    arrival := harborChannel.there }

/-- A hop from the harbor to the island over another channel. -/
def overSound : Hop Side :=
  { overStrait with
    departure := { harborChannel.here with channel := "channel-1" }
    arrival := { harborChannel.there with channel := "channel-8" } }

/-- The hops that can be made between the two. -/
def ferries : List (Hop Side) := [overStrait, overStrait.reverse, overSound, overSound.reverse]

/-- Two channels between two bridges. -/
def straits : Chart Side where
  bridge := strait.bridge
  hops := {hop | hop ∈ ferries}
  plain := show ∀ hop ∈ ferries, hop.arrival.Plain by decide
  reverse_mem := show ∀ hop ∈ ferries, hop.reverse ∈ ferries by decide
  joined := show ∀ hop ∈ ferries, ∀ hop' ∈ ferries, hop.source = hop'.source →
    hop.departure.channel = hop'.departure.channel → hop = hop' by decide

/-- A side on which the bridge has been set up and its channels are open. -/
def moored (side : Side) : List Turn :=
  (ferries.filter (·.source = side)).map (fun hop =>
    ⟨1, .connected { harborChannel with here := hop.departure, there := hop.arrival } none⟩)
    ++ [⟨0, .setup ⟨"admin", none⟩⟩]

/-- Alice has created a class and minted a token of it. -/
def ashore : Side → List Turn
  | .left =>
    ⟨3, .command "alice" (.mint "art" "moon" (some "ipfs://moon") "alice")⟩ ::
    ⟨2, .command "alice" (.createClass "art" none)⟩ :: moored .left
  | .right => moored .right

/-- The token. -/
def moon : Cargo Side :=
  { home := .left, classId := "art", tokenId := "moon", uri := some "ipfs://moon" }

/-- A path from the harbor over one channel, back over the other one and over the
first one again, the latest hop first. -/
def circle : List (Hop Side) := [overStrait, overSound.reverse, overStrait]

theorem departs_ashore : straits.Departs moon ashore "alice" where
  notBy side := by cases side <;> decide
  fresh side turn hturn packet := by
    revert turn
    cases side <;> simp [ashore, moored, ferries, overStrait, overSound, Hop.reverse]
  working side := by
    constructor
    case running =>
      have h : ((straits.store ashore side).settings?.map (·.paused)) = some false := by
        cases side <;> decide +kernel
      exact Option.map_eq_some_iff.mp h
    case opened =>
      have h : ∀ hop ∈ ferries, hop.source = side →
          ((straits.store ashore side).channel? hop.departure.channel).map (·.phase)
            = some .opened := by
        cases side <;> decide +kernel
      exact fun hop hmem hsource => Option.map_eq_some_iff.mp (h hop hmem hsource)
  minted := by decide +kernel
  other := by decide

/-- The token can be sent along the path and back, to Bob each time. -/
theorem passable_circle : straits.Passable moon "bob" (wayBack circle ++ (circle ++ [])) := by
  have hpermits {trail : List (Hop Side)} {hop : Hop Side} (hmem : hop ∈ ferries)
      (hsource : hop.source = moon.place trail)
      (hshort : (Bytes.ofText (moon.name (hop :: trail))).length < UInt16.size) :
      straits.Permits moon trail hop "bob" :=
    { mem := hmem
      here := hsource
      valid := rfl
      other := by cases hop.target <;> decide
      short := fun _ => hshort }
  refine ⟨hpermits ?_ ?_ ?_, ?_, hpermits ?_ ?_ ?_, ?_, hpermits ?_ ?_ ?_, ?_, hpermits ?_ ?_ ?_,
    ?_, hpermits ?_ ?_ ?_, ?_, hpermits ?_ ?_ ?_, ?_, trivial⟩
  all_goals decide +kernel

/-- The token comes home from a path that leads over one channel twice. -/
theorem Chart.every_path_unwinds_circle :
    ∃ v : Voyage Side, straits.Reaches moon v ∧ Onward (circle ++ [])
      ∧ v.log = wayBack circle ++ (circle ++ []) ∧ straits.SafePassage moon v [] := by
  obtain ⟨v, holder, hreaches, hlog, -⟩ := departs_ashore.exists_voyage passable_circle
    (show checkTimeout 600 = .ok () by decide)
    (show SendOrder.deadlineAfter 4 600 = .ok 600000000004 by decide +kernel)
    (fun side => by cases side <;> decide +kernel)
  have honward : Onward (circle ++ []) := by
    show List.IsChain _ _
    decide
  exact ⟨v, hreaches, honward, hlog, Chart.every_path_unwinds hreaches honward hlog⟩

end TokenBridge
