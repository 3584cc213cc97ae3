import TokenBridge.Proofs.Creation
import TokenBridge.Proofs.Lifecycle

/-!
# The life of a channel

A channel is opened once. From then on it is in the table for good, with the
same ends and over the same connection, and two things about it change: its
phase, which only moves on, and the number of its next packet, which grows by
one with each packet that is sent over it (`Turn.channel?_of_some`). Both stand
in one record, and whoever changes one of them writes the other one back as well.
That this never brings back an old phase or an old number is what has to be
shown of each deed, and it holds because none of them keeps a record that it has
found before something else was done.

A channel that is not open any more does nothing new. Nothing is sent over it and
nothing that arrives on it is taken, and so there are no new packets on it, no new
deposits for it, and no new tokens of classes that have come over it but those that
were there before and come back by a refund (`channelLife_after`).
-/

namespace TokenBridge

open Program Store

variable {bridge : Address} {s u : Store Entry} {d : Deed} {past : List Turn} {turn : Turn}
  {id : String} {channel : Channel}

/-! ## What becomes of a channel -/

/-- How far a phase is on the way of a channel. -/
def Phase.rank : Phase → Nat
  | .opened => 0
  | .closing => 1
  | .closed => 2

theorem Phase.rank_le (phase : Phase) : phase.rank ≤ Phase.closed.rank := by
  cases phase <;> decide

/-- **What may become of a channel** while packets are sent over it, as many as
the number says. -/
structure Channel.Becomes (sends : Nat) (channel channel' : Channel) : Prop where
  /-- It has the same ends, -/
  here : channel'.here = channel.here
  there : channel'.there = channel.there
  /-- and it uses the same connection. -/
  connection : channel'.connection = channel.connection
  /-- Its phase is the same, or one that comes later. -/
  phase : channel.phase.rank ≤ channel'.phase.rank
  /-- Each of the packets has taken a number. -/
  nextSequence : channel'.nextSequence.toNat = channel.nextSequence.toNat + sends

namespace Channel.Becomes

theorem refl : channel.Becomes 0 channel where
  here := rfl
  there := rfl
  connection := rfl
  phase := Nat.le_refl _
  nextSequence := rfl

theorem trans {m n : Nat} {channel' channel'' : Channel} (h : channel.Becomes m channel')
    (h' : channel'.Becomes n channel'') : channel.Becomes (m + n) channel'' where
  here := h'.here.trans h.here
  there := h'.there.trans h.there
  connection := h'.connection.trans h.connection
  phase := Nat.le_trans h.phase h'.phase
  nextSequence := by rw [h'.nextSequence, h.nextSequence, Nat.add_assoc]

/-- A channel that has left its first phase does not get back to it. -/
theorem phase_ne_opened {n : Nat} {channel' : Channel} (h : channel.Becomes n channel')
    (hleft : channel.phase ≠ .opened) : channel'.phase ≠ .opened := by
  intro hopen
  have hrank := h.phase
  rw [hopen] at hrank
  cases hphase : channel.phase with
  | opened => exact hleft hphase
  | closing | closed =>
    rw [hphase] at hrank
    exact absurd hrank (by decide)

end Channel.Becomes

/-- Whether a deed is a send over a channel. -/
def Deed.SendsOver (id : String) : Deed → Prop
  | .sent p => p.channel = id
  | _ => False

/-- **What a deed makes of a channel.** It is only a send over the channel that
takes a number, and it finds the channel open. -/
theorem Deed.Does.channel?_of_some (h : d.Does bridge s u) (hs : Sound s)
    (hc : s.channel? id = some channel) :
    ∃ channel', u.channel? id = some channel'
      ∧ (¬ d.SendsOver id ∧ channel.Becomes 0 channel'
        ∨ d.SendsOver id ∧ channel.phase = .opened ∧ channel.Becomes 1 channel') := by
  by_cases hd : d.SendsOver id
  · cases d with
    | sent p =>
      obtain rfl : p.channel = id := hd
      obtain ⟨-, -, -, m, channel', -, hc', hopen, hnext, hroom, hk, rfl⟩ := h
      obtain rfl := Option.some.inj (hc'.symm.trans hc)
      refine ⟨_, (channel?_dispatched hk).trans (if_pos (hs.named hc).symm), .inr ⟨rfl, hopen, ?_⟩⟩
      exact ⟨rfl, rfl, rfl, Nat.le_refl _, by rw [toNat_succ hroom, hnext]⟩
    | _ => exact hd.elim
  · obtain heq | ⟨_, -, -, hn, -⟩ | ⟨channel', phase, rfl, hc', hu⟩
      | ⟨p, channel', rfl, hid, hc', -⟩ := h.channel? id
    · exact ⟨channel, heq.trans hc, .inl ⟨hd, .refl⟩⟩
    · cases hn.symm.trans hc
    · obtain rfl := Option.some.inj (hc'.symm.trans hc)
      obtain ⟨channel', hc', hphase, -⟩ := h
      obtain rfl := Option.some.inj (hc'.symm.trans hc)
      refine ⟨_, hu, .inl ⟨hd, rfl, rfl, rfl, ?_, rfl⟩⟩
      obtain ⟨hopened, rfl⟩ | ⟨-, rfl⟩ := hphase
      · exact hopened ▸ Nat.zero_le _
      · exact channel'.phase.rank_le
    · exact absurd ((hs.named hc').symm.trans hid) hd

/-- Deeds that are no sends leave the number of a channel alone. -/
theorem Path.channel?_of_some {ds : List Deed} (h : Path bridge s ds u) (hs : Sound s)
    (hds : ∀ d ∈ ds, ¬ d.IsSend) (hc : s.channel? id = some channel) :
    ∃ channel', u.channel? id = some channel' ∧ channel.Becomes 0 channel' := by
  induction h generalizing channel with
  | nil => exact ⟨channel, hc, .refl⟩
  | @cons s m u d ds first others ih =>
    obtain ⟨hfirst, hothers⟩ := List.forall_mem_cons.mp hds
    obtain ⟨channel', hm, ⟨-, hbecomes⟩ | ⟨hsend, -⟩⟩ := first.channel?_of_some hs hc
    · obtain ⟨channel'', hu, hbecomes'⟩ := ih (hs.of_does first) hothers hm
      exact ⟨channel'', hu, hbecomes.trans hbecomes'⟩
    · cases d with
      | sent => exact absurd trivial hfirst
      | _ => exact hsend.elim

/-! ## Turns that send over a channel -/

/-- **Whether a turn sends tokens over a channel**: its call is to do so, and it is
answered. -/
def Turn.sendsOver (bridge : Address) (turn : Turn) (id : String) (s : Store Entry) : Bool :=
  match turn.call with
  | .command _ (.send order) => decide (order.channel = id) && (turn.take bridge s).1.isOk
  | _ => false

/-- The packet that is sent goes over the channel of the call. -/
theorem Turn.sendsOver_eq (turn : Turn) (id : String) (s : Store Entry) :
    turn.sendsOver bridge id s = (turn.sent? bridge s).any (·.channel = id) := by
  obtain ⟨now, call⟩ := turn
  unfold sendsOver sent?
  cases call with
  | command account m =>
    cases m with
    | send order =>
      rcases hrun : (order.run ⟨bridge, now⟩ account).run s with ⟨e | sent, u⟩
      · simp [take, runAtomic, Call.perform, Command.carryOut, Command.sendFor, hrun, Except.isOk,
          Except.toBool]
      · obtain ⟨-, -, -, -, hchannel⟩ := SendOrder.run_sent hrun
        simp [take, runAtomic, Call.perform, Command.carryOut, Command.sendFor, hrun, Except.isOk,
          Except.toBool, hchannel]
    | _ => rfl
  | _ => rfl

/-- **What a turn makes of a channel.** -/
theorem Turn.channel?_of_some (bridge : Address) (turn : Turn) (hs : Sound s)
    (hc : s.channel? id = some channel) :
    ∃ channel', (turn.after bridge s).channel? id = some channel'
      ∧ channel.Becomes (turn.sendsOver bridge id s).toNat channel'
      ∧ (turn.sendsOver bridge id s = true → channel.phase = .opened) := by
  rw [sendsOver_eq]
  obtain ⟨p, hsent, hdoes⟩ | ⟨hnone, ds, hpath, hds⟩ := turn.sends_or_not bridge s
  · rw [hsent]
    obtain ⟨channel', hu, ⟨hnot, hbecomes⟩ | ⟨hsends, hopen, hbecomes⟩⟩ :=
      hdoes.channel?_of_some hs hc
    · have hne : p.channel ≠ id := hnot
      simpa [hne] using ⟨channel', hu, hbecomes⟩
    · have heq : p.channel = id := hsends
      simpa [heq, hopen] using ⟨channel', hu, hbecomes⟩
  · obtain ⟨channel', hu, hbecomes⟩ := hpath.channel?_of_some hs hds hc
    exact ⟨channel', hu, by simpa [hnone] using hbecomes, by simp [hnone]⟩

/-- **How many packets are sent over a channel** in the turns that follow a
history, the latest of which comes first. -/
def sendsOver (bridge : Address) (id : String) (past : List Turn) : List Turn → Nat
  | [] => 0
  | turn :: later =>
    sendsOver bridge id past later
      + (turn.sendsOver bridge id (storeAfter bridge (later ++ past))).toNat

/-- **What becomes of a channel**, whatever comes next. -/
theorem channel?_lasts (later : List Turn)
    (hc : (storeAfter bridge past).channel? id = some channel) :
    ∃ channel', (storeAfter bridge (later ++ past)).channel? id = some channel'
      ∧ channel.Becomes (sendsOver bridge id past later) channel' := by
  induction later with
  | nil => exact ⟨channel, hc, .refl⟩
  | cons turn later ih =>
    obtain ⟨channel', hm, hbecomes⟩ := ih
    obtain ⟨channel'', hu, hbecomes', -⟩ := turn.channel?_of_some bridge (sound_after _) hm
    exact ⟨channel'', hu, hbecomes.trans hbecomes'⟩

/-- **A channel is opened once.** No other one gets the name of one that is known. -/
theorem Turn.not_connected_of_known {now : UInt64} {p : Proposal} {theirVersion : Option String}
    {answer : Answer} (hc : s.channel? p.here.channel = some channel) :
    (⟨now, .connected p theirVersion⟩ : Turn).take bridge s ≠ (.ok answer, u) := by
  intro htake
  obtain ⟨_, ⟨channel', rfl, hhere, -⟩, hpath⟩ := path_of_take htake
  obtain ⟨hn, -⟩ := Path.single_iff.mp hpath
  rw [hhere] at hn
  cases hn.symm.trans hc

/-! ## Channels that are not open any more -/

/-- Nothing is sent over a channel that is not open. -/
theorem Turn.channel_ne_of_sent? {p : Shipment} (hs : Sound s)
    (hc : s.channel? id = some channel) (hleft : channel.phase ≠ .opened)
    (hsent : turn.sent? bridge s = some p) : p.channel ≠ id := by
  intro heq
  obtain ⟨-, -, -, hopen⟩ := turn.channel?_of_some bridge hs hc
  exact hleft (hopen (by simp [sendsOver_eq, hsent, heq]))

/-- An order to send over a channel that is not open is not answered. -/
theorem Turn.not_sent_of_left {now : UInt64} {account : Address} {order : SendOrder}
    {answer : Answer} (hs : Sound s) (hc : s.channel? order.channel = some channel)
    (hleft : channel.phase ≠ .opened) :
    (⟨now, .command account (.send order)⟩ : Turn).take bridge s ≠ (.ok answer, u) := by
  intro htake
  obtain ⟨-, -, -, hopen⟩ :=
    Turn.channel?_of_some bridge ⟨now, .command account (.send order)⟩ hs hc
  exact hleft (hopen (by simp [sendsOver, htake, Except.isOk, Except.toBool]))

/-- **Nothing that arrives on a channel that is not open** is acknowledged as a
success. -/
theorem Turn.not_received_of_left {now : UInt64} {packet : Packet} {receipt : Receipt}
    (hc : s.channel? packet.destination.channel = some channel) (hleft : channel.phase ≠ .opened)
    (htake : (⟨now, .arrived packet⟩ : Turn).take bridge s = (.ok (.receipt receipt), u)) :
    receipt.ack.isSuccess = false := by
  obtain ⟨_, hyields, ⟨⟩⟩ := yields_map.mp (take_eq_ok_iff.mp htake)
  obtain ⟨hfailed, -⟩ | ⟨-, -, received, happly⟩ := Packet.refused_or_applied hyields
  · exact hfailed
  · obtain ⟨channel', hc', hopen⟩ := Packet.opened_of_apply happly
    obtain rfl := Option.some.inj (hc'.symm.trans hc)
    exact absurd hopen hleft

/-- No packet comes to be known on a channel that is not open. -/
theorem Turn.shipment?_of_left {n : UInt64} (turn : Turn) (hs : Sound s)
    (hc : s.channel? id = some channel) (hleft : channel.phase ≠ .opened)
    (hn : s.shipment? id n = none) : (turn.after bridge s).shipment? id n = none := by
  cases hp : (turn.after bridge s).shipment? id n with
  | none => rfl
  | some p =>
    obtain ⟨hsent, hid, -⟩ := turn.sent?_of_shipment? hs hn hp
    exact absurd hid (channel_ne_of_sent? hs hc hleft hsent)

/-- No deposit is made for a channel that is not open. -/
theorem Turn.deposit?_of_left {classId tokenId : String} {deposit : Deposit} (turn : Turn)
    (hs : Sound s) (hc : s.channel? id = some channel) (hleft : channel.phase ≠ .opened)
    (hdep : (turn.after bridge s).deposit? classId tokenId = some deposit)
    (hchannel : deposit.channel = id) : s.deposit? classId tokenId = some deposit := by
  obtain ⟨p, hsent, -, -, hdoes⟩ | ⟨-, hspares⟩ := turn.sends_or_spares bridge s classId tokenId
  · obtain hold | ⟨q, ⟨⟩, -, -, -, rfl⟩ := hdoes.deposit?_of_some hdep
    · exact hold
    · exact absurd hchannel (channel_ne_of_sent? hs hc hleft hsent)
  · exact hspares.2 deposit hdep

/-! What holds of one turn holds of all that follow. -/

section

variable (hc : (storeAfter bridge past).channel? id = some channel)
  (hleft : channel.phase ≠ .opened) (later : List Turn)
include hc hleft

/-- A channel that is not open never is again. -/
theorem channel?_of_left : ∃ channel', (storeAfter bridge (later ++ past)).channel? id
    = some channel' ∧ channel'.phase ≠ .opened := by
  obtain ⟨channel', hc', hbecomes⟩ := channel?_lasts later hc
  exact ⟨channel', hc', hbecomes.phase_ne_opened hleft⟩

/-- **No packet ever comes to be known** on a channel that is not open, -/
theorem shipment?_of_left {n : UInt64} (hn : (storeAfter bridge past).shipment? id n = none) :
    (storeAfter bridge (later ++ past)).shipment? id n = none := by
  induction later with
  | nil => exact hn
  | cons turn later ih =>
    obtain ⟨channel', hc', hleft'⟩ := channel?_of_left hc hleft later
    exact turn.shipment?_of_left (sound_after _) hc' hleft' ih

/-- and none is marked as pending that was not. -/
theorem look_pending_of_left {n : UInt64}
    (hmark : (storeAfter bridge past).look (.pending id n) = none) :
    (storeAfter bridge (later ++ past)).look (.pending id n) = none := by
  by_contra hne
  obtain ⟨q, hq, hpend⟩ := (booked_after _).look_pending_ne_none_iff.mp hne
  -- a packet that is pending was pending from the beginning
  cases hp : (storeAfter bridge past).shipment? id n with
  | none => cases (shipment?_of_left hc hleft later hp).symm.trans hq
  | some p =>
    obtain rfl := pending_in_past (List.suffix_append later past) hq hpend hp
    exact (booked_after past).look_pending_ne_none_iff.mpr ⟨p, hp, hpend⟩ hmark

/-- **A deposit for a channel that is not open** was made before. -/
theorem deposit?_of_left {classId tokenId : String} {deposit : Deposit}
    (hdep : (storeAfter bridge (later ++ past)).deposit? classId tokenId = some deposit)
    (hchannel : deposit.channel = id) :
    (storeAfter bridge past).deposit? classId tokenId = some deposit := by
  induction later with
  | nil => exact hdep
  | cons turn later ih =>
    obtain ⟨channel', hc', hleft'⟩ := channel?_of_left hc hleft later
    exact ih (turn.deposit?_of_left (sound_after _) hc' hleft' hdep hchannel)

/-- **A channel that is not open takes no numbers.** -/
theorem nextSequence_of_left {channel' : Channel}
    (hc' : (storeAfter bridge (later ++ past)).channel? id = some channel') :
    channel'.nextSequence = channel.nextSequence := by
  induction later generalizing channel' with
  | nil => rw [Option.some.inj (hc.symm.trans hc')]
  | cons turn later ih =>
    obtain ⟨before, hbefore, hleft'⟩ := channel?_of_left hc hleft later
    obtain ⟨after, hafter, hbecomes, hopen⟩ := turn.channel?_of_some bridge (sound_after _) hbefore
    obtain rfl := Option.some.inj (hafter.symm.trans hc')
    rw [Bool.eq_false_iff.mpr fun h => hleft' (hopen h)] at hbecomes
    exact (UInt64.toNat.inj hbecomes.nextSequence).trans (ih hbefore)

end

/-- **A token that comes into being in a class that has come over a channel that is
not open comes back by a refund.** Nobody can mint it, and it cannot arrive. -/
theorem Turn.restored_of_left {classId tokenId : String} {token : Token} {c : TokenClass}
    (hpast : ∀ earlier ∈ past, earlier.call.Plain) (hplain : turn.call.Plain)
    (hnot : turn.call.NotBy bridge) (hchannel : (storeAfter bridge past).channel? id = some channel)
    (hleft : channel.phase ≠ .opened)
    (hc : (storeAfter bridge (turn :: past)).class? classId = some c)
    (horigin : c.origin = .wrapped id)
    (hn : (storeAfter bridge past).token? classId tokenId = none)
    (ht : (storeAfter bridge (turn :: past)).token? classId tokenId = some token) :
    ∃ n, RestoredFrom bridge past turn classId tokenId token id n := by
  have known {c' : TokenClass} (hc' : (storeAfter bridge past).class? classId = some c') :
      c' = c := by
    have hc'' : (storeAfter bridge (turn :: past)).class? classId = some c' :=
      turn.keeps (fun h _ hs => h.class?_of_some hs) hc'
    exact Option.some.inj (hc''.symm.trans hc)
  cases hsettles : turn.call.settles? with
  | some other =>
    obtain ⟨n, hrestored⟩ := Turn.restored hsettles hn ht
    have hfrom := hrestored
    obtain ⟨p, -, -, -, ⟨c', hc', horigin'⟩, -⟩ := hfrom
    rw [known hc', horigin] at horigin'
    obtain rfl := Origin.wrapped.inj horigin'
    exact ⟨n, hrestored⟩
  | none =>
    obtain ⟨account, hminted⟩ | ⟨packet, hcall, ⟨receipt, hack, htake⟩, data, -, -,
        ⟨c', hc', horigin'⟩, -⟩ :=
      Turn.minted_or_brought (registered_after hpast) hplain hnot hsettles hn ht
    · obtain ⟨-, -, c', hc', -, hnative⟩ := hminted
      rw [known hc', horigin] at hnative
      cases hnative
    · obtain rfl := Option.some.inj (hc'.symm.trans hc)
      obtain rfl := Origin.wrapped.inj (horigin'.symm.trans horigin)
      obtain ⟨now, call⟩ := turn
      obtain rfl : call = .arrived packet := hcall
      have hfailed := not_received_of_left hchannel hleft htake
      rw [hack] at hfailed
      cases hfailed

/-! ## The life of a channel -/

/-- **What can be relied on for a channel** that is known at the end of a
history. -/
structure ChannelLife (bridge : Address) (past : List Turn) (id : String)
    (channel : Channel) : Prop where
  /-- Whatever comes next, the channel stays in the table under its name. Its ends
  and its connection stay the same, its phase only moves on, and its next number
  grows by one with each packet that is sent over it and with nothing else. -/
  becomes : ∀ later, ∃ channel', (storeAfter bridge (later ++ past)).channel? id = some channel'
    ∧ channel'.here.channel = id ∧ channel.Becomes (sendsOver bridge id past later) channel'
  /-- No other channel gets its name. -/
  taken : ∀ later now p theirVersion answer u, p.here.channel = id →
    (⟨now, .connected p theirVersion⟩ : Turn).take bridge (storeAfter bridge (later ++ past))
      ≠ (.ok answer, u)
  /-- Once it is not open, nothing is sent over it, -/
  sends : channel.phase ≠ .opened → ∀ later now account (order : SendOrder) answer u,
    order.channel = id →
    (⟨now, .command account (.send order)⟩ : Turn).take bridge (storeAfter bridge (later ++ past))
      ≠ (.ok answer, u)
  /-- and nothing that arrives on it is acknowledged as a success. -/
  arrivals : channel.phase ≠ .opened → ∀ later now (packet : Packet) (receipt : Receipt) u,
    packet.destination.channel = id →
    (⟨now, .arrived packet⟩ : Turn).take bridge (storeAfter bridge (later ++ past))
      = (.ok (.receipt receipt), u) →
    receipt.ack.isSuccess = false
  /-- It has the packets that it had, -/
  shipments : channel.phase ≠ .opened → ∀ later n,
    (storeAfter bridge past).shipment? id n = none →
    (storeAfter bridge (later ++ past)).shipment? id n = none
  /-- those that are marked as pending are some of those that were, -/
  marks : channel.phase ≠ .opened → ∀ later n,
    (storeAfter bridge past).look (.pending id n) = none →
    (storeAfter bridge (later ++ past)).look (.pending id n) = none
  /-- and so it is with the deposits that are kept for it. -/
  deposits : channel.phase ≠ .opened → ∀ later classId tokenId deposit,
    (storeAfter bridge (later ++ past)).deposit? classId tokenId = some deposit →
    deposit.channel = id → (storeAfter bridge past).deposit? classId tokenId = some deposit
  /-- Its next number stays the same. -/
  nextSequence : channel.phase ≠ .opened → ∀ later channel',
    (storeAfter bridge (later ++ past)).channel? id = some channel' →
    channel'.nextSequence = channel.nextSequence
  /-- A token that comes into being in a class that has come over it was burned when
  it was sent, and comes back by the refund of its packet. -/
  tokens : channel.phase ≠ .opened → ∀ later turn,
    (∀ x ∈ turn :: later ++ past, x.call.NotBy bridge ∧ x.call.Plain) →
    ∀ classId c tokenId token,
      (storeAfter bridge (turn :: later ++ past)).class? classId = some c →
      c.origin = .wrapped id →
      (storeAfter bridge (later ++ past)).token? classId tokenId = none →
      (storeAfter bridge (turn :: later ++ past)).token? classId tokenId = some token →
      ∃ n, RestoredFrom bridge (later ++ past) turn classId tokenId token id n

/-- **A channel lives once.** Whatever a bridge has been called for and will be
called for, a channel that it knows goes on as `ChannelLife` says. -/
theorem channelLife_after (hc : (storeAfter bridge past).channel? id = some channel) :
    ChannelLife bridge past id channel := by
  have hsound (later : List Turn) : Sound (storeAfter bridge (later ++ past)) := sound_after _
  constructor
  case becomes =>
    intro later
    obtain ⟨channel', hc', hbecomes⟩ := channel?_lasts later hc
    exact ⟨channel', hc', (hsound later).named hc', hbecomes⟩
  case taken =>
    rintro later now p theirVersion answer u rfl
    obtain ⟨channel', hc', -⟩ := channel?_lasts later hc
    exact Turn.not_connected_of_known hc'
  case sends =>
    rintro hleft later now account order answer u rfl
    obtain ⟨channel', hc', hleft'⟩ := channel?_of_left hc hleft later
    exact Turn.not_sent_of_left (hsound later) hc' hleft'
  case arrivals =>
    rintro hleft later now packet receipt u rfl htake
    obtain ⟨channel', hc', hleft'⟩ := channel?_of_left hc hleft later
    exact Turn.not_received_of_left hc' hleft' htake
  case shipments => exact fun hleft later n hn => shipment?_of_left hc hleft later hn
  case marks => exact fun hleft later n hmark => look_pending_of_left hc hleft later hmark
  case deposits =>
    exact fun hleft later _ _ _ hdep hchannel => deposit?_of_left hc hleft later hdep hchannel
  case nextSequence => exact fun hleft later _ hc' => nextSequence_of_left hc hleft later hc'
  case tokens =>
    intro hleft later turn hall classId c tokenId token hclass horigin hn ht
    obtain ⟨channel', hc', hleft'⟩ := channel?_of_left hc hleft later
    obtain ⟨⟨hnot, hplain⟩, hall⟩ := List.forall_mem_cons.mp hall
    exact Turn.restored_of_left (fun x hx => (hall x hx).2) hplain hnot hc' hleft' hclass horigin
      hn ht

/-- The other side closes the channel of the first voyage. It has taken one number,
and it takes no other one, even if Alice tries to send her moon again. -/
theorem channelLife_after_firstVoyage :
    ∃ channel, (storeAfter harbor (⟨5, .closed "channel-0" .theirs⟩ :: firstVoyage)).channel?
        "channel-0" = some channel
      ∧ channel.phase ≠ .opened ∧ channel.nextSequence = 2
      ∧ ChannelLife harbor (⟨5, .closed "channel-0" .theirs⟩ :: firstVoyage) "channel-0" channel
      ∧ ∀ answer u, (⟨6, .command "alice" (.send ⟨"art", ["moon"], "bob", "channel-0", none⟩)⟩
          : Turn).take harbor
            (storeAfter harbor (⟨5, .closed "channel-0" .theirs⟩ :: firstVoyage))
        ≠ (.ok answer, u) := by
  have hc : (storeAfter harbor (⟨5, .closed "channel-0" .theirs⟩ :: firstVoyage)).channel?
      "channel-0" = some ⟨harborChannel.here, harborChannel.there, "connection-0", .closed, 2⟩ := by
    decide +kernel
  have hlife := channelLife_after hc
  exact ⟨_, hc, by decide, rfl, hlife,
    fun answer u => hlife.sends (by decide) [] 6 "alice" _ answer u rfl⟩

end TokenBridge
