import TokenBridge.Proofs.Turns

/-!
# Two bridges and the channel between them

A `Crossing` is a channel that joins two bridges on two chains. Whatever
one of them sends over the channel is posted with its chain under the next
number, and travels until it is delivered to the other bridge or comes too
late. The other bridge answers what is delivered to it, and the answer
comes back to the sender.

A `Network` is the state of all this: the stores of both bridges, and what
has been posted with their chains. `Crossing.Step` says what may happen to
it. The two chains are honest about the channel: nothing is delivered
twice, the answer that comes back is the one that was given, and only what
is never delivered comes too late. Nothing else is assumed. Both bridges
are called by accounts and by their chains in any order, and what comes
over any other channel may be forged.
-/

namespace TokenBridge

open Program Store

/-! ## Sides -/

/-- **The two sides of a channel.** -/
inductive Side where
  /-- The one side. -/
  | left
  /-- The other side. -/
  | right
  deriving DecidableEq

/-- The side across the channel. -/
def Side.other : Side → Side
  | .left => .right
  | .right => .left

@[simp] theorem Side.other_other (side : Side) : side.other.other = side := by
  cases side <;> rfl

theorem Side.ne_other (side : Side) : side ≠ side.other := by
  cases side <;> decide

theorem Side.eq_or_eq_other (side side' : Side) : side' = side ∨ side' = side.other := by
  cases side <;> cases side' <;> decide

/-! ## What an answer asks for -/

/-- **The data of the packet** that an answer asks the chain to send over a
channel, if it does. -/
def Answer.packet? (channel : String) : Answer → Option Bytes
  | .response r => r.requests.findSome? fun
    | .sendPacket channel' data _ => if channel' = channel then some data else none
    | .closeChannel _ => none
  | _ => none

/-- Whether a program never asks for a packet to be sent. -/
def Quiet (m : Bridge Response) : Prop :=
  ∀ s r u, m.Yields s r u → ∀ channel, (Answer.response r).packet? channel = none

section

variable {α : Type} {m : Bridge Response}

theorem quiet_pure {r : Response} (h : ∀ channel, (Answer.response r).packet? channel = none) :
    Quiet (pure r) := by
  intro s r' u hr
  obtain ⟨rfl, -⟩ := yields_pure.mp hr
  exact h

theorem quiet_bind {p : Bridge α} {f : α → Bridge Response} (h : ∀ a, Quiet (f a)) :
    Quiet (p >>= f) := by
  intro s r u hr
  obtain ⟨a, m, -, hm⟩ := yields_bind.mp hr
  exact h a m r u hm

theorem quiet_guard {c : Prop} [Decidable c] {cause : Fault} {next : Unit → Bridge Response}
    (h : Quiet (next ())) : Quiet (if c then throw cause >>= next else next ()) := by
  intro s r u hr
  exact h s r u (yields_guard.mp hr).2

/-- **A command that is no send asks for no packet.** -/
theorem Command.quiet {context : Context} {account : Address} {m : Command}
    (hm : ∀ order, m ≠ .send order) : Quiet (m.carryOut context account) := by
  cases m with
  | createClass classId uri => exact quiet_bind fun _ => quiet_pure fun _ => rfl
  | mint classId tokenId uri owner =>
    exact quiet_bind fun _ => quiet_guard <| quiet_guard <| quiet_bind fun _ =>
      quiet_bind fun _ => quiet_pure fun _ => rfl
  | transfer classId tokenId recipient =>
    exact quiet_bind fun _ => quiet_bind fun _ => quiet_pure fun _ => rfl
  | send order => exact absurd rfl (hm order)
  | closeChannel channel =>
    exact quiet_bind fun _ => quiet_bind fun _ => quiet_pure fun _ => rfl
  | pause => exact quiet_bind fun _ => quiet_pure fun _ => rfl
  | unpause => exact quiet_bind fun _ => quiet_pure fun _ => rfl
  | setDefaultTimeout seconds => exact quiet_bind fun _ => quiet_pure fun _ => rfl

theorem Packet.quiet_report {packet : Packet} {method : String} {settle : Bridge α}
    {attributes : α → Attributes} : Quiet (packet.report method settle attributes) := by
  refine quiet_bind fun result => ?_
  split
  · exact quiet_pure fun _ => rfl
  · exact quiet_pure fun _ => rfl
  · intro s r u hr
    exact absurd hr yields_fail

theorem Channel.quiet_closed {context : Context} {id : String} {side : CloseSide} :
    Quiet (closed context id side) := by
  refine quiet_bind fun known => ?_
  split
  · exact quiet_bind fun _ => quiet_pure fun _ => rfl
  · exact quiet_pure fun _ => rfl

end

/-- **Only a send asks for a packet to be sent.** -/
theorem Call.packet?_of_yields {context : Context} {s u : Store Entry} {answer : Answer}
    {call : Call} (h : (call.perform context).Yields s answer u)
    (hcall : ∀ account order, call ≠ .command account (.send order)) (channel : String) :
    answer.packet? channel = none := by
  have quiet {m : Bridge Response} (hm : Quiet m)
      (h : (Answer.response <$> m).Yields s answer u) : answer.packet? channel = none := by
    obtain ⟨r, hr, rfl⟩ := yields_map.mp h
    exact hm s r u hr channel
  cases call with
  | setup m => exact quiet (quiet_bind fun _ => quiet_pure fun _ => rfl) h
  | migrate m => exact quiet (quiet_bind fun _ => quiet_pure fun _ => rfl) h
  | command account m =>
    exact quiet (Command.quiet fun order heq => hcall account order (by rw [heq])) h
  | offered p theirVersion =>
    obtain ⟨_, -, rfl⟩ := yields_map.mp h
    rfl
  | connected p theirVersion =>
    exact quiet (quiet_bind fun _ => quiet_bind fun _ => quiet_pure fun _ => rfl) h
  | closed channel side => exact quiet Channel.quiet_closed h
  | arrived packet =>
    obtain ⟨_, -, rfl⟩ := yields_map.mp h
    rfl
  | acknowledged packet data => exact quiet Packet.quiet_report h
  | timedOut packet => exact quiet Packet.quiet_report h

/-- What a send asks for. -/
theorem Answer.packet?_of_sent (sent : Sent) (attributes : Attributes) (channel : String) :
    (Answer.response { requests := [sent.request], attributes }).packet? channel
      = if sent.shipment.channel = channel then some sent.data.encode else none := by
  simp only [packet?, Sent.request, List.findSome?_cons, List.findSome?_nil]
  split <;> simp_all

/-! ## Networks -/

/-- **A channel that joins two bridges.** -/
structure Crossing where
  /-- The account of the bridge on each side. -/
  bridge : Side → Address
  /-- The end of the channel on each side, at the port of the bridge. -/
  gate : Side → Endpoint
  /-- The names of the ends are free of slashes. -/
  plain : ∀ side, (gate side).Plain

/-- **What has become of a packet** that was posted. -/
inductive Fate where
  /-- It has not been delivered yet. -/
  | travelling
  /-- It has been delivered and answered. -/
  | answered (ack : Ack)
  /-- It has come too late, and it is not delivered any more. -/
  | late

/-- **A packet that was posted**, by its data, and what has become of
it. -/
structure Letter where
  /-- The data. -/
  data : Bytes
  /-- What has become of it. -/
  fate : Fate

/-- **Two bridges and what has been posted between them.** -/
structure Network where
  /-- The store of the bridge on each side. -/
  store : Side → Store Entry
  /-- The packets that each side has posted, by their numbers. -/
  letters : Side → UInt64 → Option Letter
  /-- The number that the chain of each side gives the next packet. -/
  next : Side → UInt64

namespace Network

variable (net : Network)

/-- The network in which the bridge on one side has another store. -/
def withStore (side : Side) (s : Store Entry) : Network :=
  { net with store := fun side' => if side' = side then s else net.store side' }

/-- The network in which a packet of one side has another fate, or is
there. -/
def withLetter (side : Side) (n : UInt64) (letter : Letter) : Network :=
  { net with letters := fun side' n' =>
      if side' = side ∧ n' = n then some letter else net.letters side' n' }

/-- **Posts a packet** on one side, if there is one, under the next number of
that side. -/
def post (side : Side) : Option Bytes → Network
  | none => net
  | some data =>
    { net.withLetter side (net.next side) ⟨data, .travelling⟩ with
      next := fun side' => if side' = side then net.next side + 1 else net.next side' }

variable {net : Network} {side side' : Side} {s u : Store Entry} {n n' : UInt64} {letter : Letter}
  {data : Bytes}

@[simp] theorem store_withStore : (net.withStore side s).store side = s := if_pos rfl

@[simp] theorem store_withStore_other :
    (net.withStore side s).store side.other = net.store side.other :=
  if_neg side.ne_other.symm

@[simp] theorem store_withStore_across :
    (net.withStore side.other s).store side = net.store side :=
  if_neg side.ne_other

@[simp] theorem letters_withStore : (net.withStore side s).letters = net.letters := rfl

@[simp] theorem next_withStore : (net.withStore side s).next = net.next := rfl

/-- What is so of the new store of a side, and of the store of the other side,
is so of both stores afterwards. -/
theorem forall_withStore {P : Side → Store Entry → Prop} (hs : P side s)
    (hother : P side.other (net.store side.other)) (side' : Side) :
    P side' ((net.withStore side s).store side') := by
  obtain rfl | rfl := side.eq_or_eq_other side'
  · rw [store_withStore]
    exact hs
  · rw [store_withStore_other]
    exact hother

theorem withStore_withStore :
    (net.withStore side s).withStore side u = net.withStore side u := by
  unfold withStore
  congr 1
  funext side'
  split
  · rfl
  · next h => exact if_neg h

@[simp] theorem store_withLetter : (net.withLetter side n letter).store = net.store := rfl

@[simp] theorem next_withLetter : (net.withLetter side n letter).next = net.next := rfl

theorem letters_withLetter :
    (net.withLetter side n letter).letters side' n'
      = if side' = side ∧ n' = n then some letter else net.letters side' n' := rfl

@[simp] theorem post_none : net.post side none = net := rfl

@[simp] theorem store_post : (net.post side (some data)).store = net.store := rfl

theorem letters_post :
    (net.post side (some data)).letters side' n
      = if side' = side ∧ n = net.next side then some ⟨data, .travelling⟩
        else net.letters side' n := rfl

theorem next_post :
    (net.post side (some data)).next side'
      = if side' = side then net.next side + 1 else net.next side' := rfl

end Network

namespace Crossing

/-- The packet that has been posted on a side under a number. -/
def packet (x : Crossing) (side : Side) (n : UInt64) (data : Bytes) : Packet :=
  { source := x.gate side, destination := x.gate side.other, sequence := n, data }

/-- **The calls that a side may get besides those which are about the
channel itself.** None comes from the account of the bridge, none closes the
channel, and what is reported over other channels may be anything, if only a
packet arrives at the port of the bridge, on a channel whose name is free of
slashes. -/
def Allows (x : Crossing) (side : Side) : Call → Prop
  | .setup _ => True
  | .migrate _ => True
  | .command account m => account ≠ x.bridge side ∧ m ≠ .closeChannel (x.gate side).channel
  | .offered .. => True
  | .connected p _ => p.here.channel ≠ (x.gate side).channel
  | .closed channel _ => channel ≠ (x.gate side).channel
  | .arrived packet =>
    packet.destination.port = (x.gate side).port ∧ '/' ∉ packet.destination.channel.toList
      ∧ packet.destination.channel ≠ (x.gate side).channel
  | .acknowledged packet _ => packet.source.channel ≠ (x.gate side).channel
  | .timedOut packet => packet.source.channel ≠ (x.gate side).channel

/-- The packet that a call asks to be sent over the channel, if it does not
fail. -/
def posted? (x : Crossing) (side : Side) : Except (Failure Fault) Answer → Option Bytes
  | .ok answer => answer.packet? (x.gate side).channel
  | .error _ => none

/-- **Calls the bridge on a side**, and posts the packet that it asks to be
sent. -/
def call (x : Crossing) (net : Network) (side : Side) (turn : Turn) : Network :=
  (net.withStore side (turn.after (x.bridge side) (net.store side))).post side
    (x.posted? side (turn.take (x.bridge side) (net.store side)).1)

/-- **What may happen.** -/
inductive Step (x : Crossing) (net : Network) : Network → Prop
  /-- The bridge on a side is called. -/
  | called (side : Side) (turn : Turn) (allowed : x.Allows side turn.call) :
    x.Step net (x.call net side turn)
  /-- A packet is delivered to the other side and answered. -/
  | delivered (side : Side) (n : UInt64) (data : Bytes) (now : UInt64) (receipt : Receipt)
    (s : Store Entry) (travelling : net.letters side n = some ⟨data, .travelling⟩)
    (taken : (⟨now, .arrived (x.packet side n data)⟩ : Turn).take (x.bridge side.other)
      (net.store side.other) = (.ok (.receipt receipt), s)) :
    x.Step net
      ((net.withStore side.other s).withLetter side n ⟨data, .answered receipt.ack⟩)
  /-- The answer to a packet comes back. -/
  | acknowledged (side : Side) (n : UInt64) (data : Bytes) (now : UInt64) (ack : Ack)
    (answered : net.letters side n = some ⟨data, .answered ack⟩) :
    x.Step net
      (net.withStore side ((⟨now, .acknowledged (x.packet side n data) ack.encode⟩ : Turn).after
        (x.bridge side) (net.store side)))
  /-- A packet is not delivered any more. -/
  | expired (side : Side) (n : UInt64) (data : Bytes)
    (travelling : net.letters side n = some ⟨data, .travelling⟩) :
    x.Step net (net.withLetter side n ⟨data, .late⟩)
  /-- That a packet has come too late is reported. -/
  | timedOut (side : Side) (n : UInt64) (data : Bytes) (now : UInt64)
    (late : net.letters side n = some ⟨data, .late⟩) :
    x.Step net
      (net.withStore side ((⟨now, .timedOut (x.packet side n data)⟩ : Turn).after
        (x.bridge side) (net.store side)))

/-- **A side at the start**: its bridge has been set up, and the channel has
been opened. -/
def Launched (x : Crossing) (side : Side) (s : Store Entry) : Prop :=
  ∃ (m : Setup) (p : Proposal) (theirVersion : Option String) (before now : UInt64)
    (first second : Answer) (fresh : Store Entry),
    p.here = x.gate side ∧ p.there = x.gate side.other
      ∧ (⟨before, .setup m⟩ : Turn).take (x.bridge side) .empty = (.ok first, fresh)
      ∧ (⟨now, .connected p theirVersion⟩ : Turn).take (x.bridge side) fresh = (.ok second, s)

/-- **The states that two bridges can come to.** -/
inductive Reaches (x : Crossing) : Network → Prop
  /-- Nothing has been sent yet. -/
  | start (store : Side → Store Entry) (launched : ∀ side, x.Launched side (store side)) :
    x.Reaches { store, letters := fun _ _ => none, next := fun _ => 1 }
  /-- Something more has happened. -/
  | step {net net' : Network} (reached : x.Reaches net) (step : x.Step net net') : x.Reaches net'

end Crossing

/-! ## A short crossing -/

/-- The address of another bridge. -/
def island : Address := "island"

/-- The channel between two bridges. -/
def strait : Crossing where
  bridge
    | .left => harbor
    | .right => island
  gate
    | .left => harborChannel.here
    | .right => harborChannel.there
  plain side := by cases side <;> decide

/-- The channel, as each side proposes it. -/
def straitChannel (side : Side) : Proposal :=
  { harborChannel with here := strait.gate side, there := strait.gate side.other }

/-- A side on which the bridge has been set up and the channel is open. -/
def shore (side : Side) : Store Entry :=
  storeAfter (strait.bridge side)
    [⟨1, .connected (straitChannel side) none⟩, ⟨0, .setup ⟨"admin", none⟩⟩]

/-- The state in which nothing has been sent. -/
def calm : Network := { store := shore, letters := fun _ _ => none, next := fun _ => 1 }

/-- Alice creates a class, mints a token of it and sends the token. -/
def underSail : Network :=
  (firstVoyage.take 3).foldr (fun turn net => strait.call net .left turn) calm

/-- What a turn is answered with, if it does not fail. -/
theorem Turn.exists_take_of_isOk {bridge : Address} {turn : Turn} {s : Store Entry}
    (h : (turn.take bridge s).1.isOk = true) :
    ∃ answer, turn.take bridge s = (.ok answer, turn.after bridge s) := by
  rcases htake : turn.take bridge s with ⟨e | answer, u⟩
  · rw [htake] at h
    cases h
  · exact ⟨answer, by rw [after, htake]⟩

theorem strait_launched (side : Side) : strait.Launched side (shore side) := by
  obtain ⟨first, hfirst⟩ : ∃ answer, (⟨0, .setup ⟨"admin", none⟩⟩ : Turn).take
      (strait.bridge side) .empty = (.ok answer, _) :=
    Turn.exists_take_of_isOk (by cases side <;> decide +kernel)
  obtain ⟨second, hsecond⟩ : ∃ answer, (⟨1, .connected (straitChannel side) none⟩ : Turn).take
      (strait.bridge side) _ = (.ok answer, shore side) :=
    Turn.exists_take_of_isOk (by cases side <;> decide +kernel)
  exact ⟨_, _, _, _, _, first, second, _, rfl, rfl, hfirst, hsecond⟩

/-- What a side is called for is reached, call after call. -/
theorem Crossing.Reaches.calls {x : Crossing} {net : Network} (h : x.Reaches net) {side : Side}
    {turns : List Turn} (hturns : ∀ turn ∈ turns, x.Allows side turn.call) :
    x.Reaches (turns.foldr (fun turn net => x.call net side turn) net) := by
  induction turns with
  | nil => exact h
  | cons turn turns ih =>
    obtain ⟨hturn, hturns⟩ := List.forall_mem_cons.mp hturns
    exact .step (ih hturns) (.called side turn hturn)

theorem strait_reaches_underSail : strait.Reaches underSail := by
  have start : strait.Reaches calm := .start shore strait_launched
  refine start.calls fun turn hturn => ?_
  simp only [firstVoyage, List.take, List.mem_cons, List.not_mem_nil, or_false] at hturn
  obtain rfl | rfl | rfl := hturn
  all_goals exact ⟨by decide, by simp⟩

end TokenBridge
