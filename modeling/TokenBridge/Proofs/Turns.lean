import TokenBridge.Proofs.Operations

/-!
# A bridge, call after call

A bridge is called by accounts and by its chain, in any order and with
any arguments. A `Call` is one of these calls, a `Turn` is a call at a
time, and a history is a list of turns, the latest one first. The host of
a bridge undoes what a call that fails has done, so each turn leaves
either all that its call does or nothing (`Turn.take`), and the history
alone determines the store (`storeAfter`).

What a call does is a path of deeds (`Turn.path`), and `Call.Carries` says
which deeds a call may carry out. From there on nothing has to be known of
the programs any more. Often it is enough to know, the other way round,
which calls may be the occasion for a deed (`Call.Occasions`).
-/

namespace TokenBridge

open Program Store

/-! ## Calls and turns -/

/-- **A call of a bridge**, by an account or by its chain. -/
inductive Call where
  /-- The bridge is set up. -/
  | setup (m : Setup)
  /-- The bridge is brought to the current version. -/
  | migrate (m : Migration)
  /-- An account gives a command. -/
  | command (account : Address) (m : Command)
  /-- A channel is proposed. -/
  | offered (p : Proposal) (theirVersion : Option String)
  /-- The handshake of a channel is complete. -/
  | connected (p : Proposal) (theirVersion : Option String)
  /-- A channel is closed. -/
  | closed (channel : String) (side : CloseSide)
  /-- A packet arrives. -/
  | arrived (packet : Packet)
  /-- A packet that was sent is acknowledged. -/
  | acknowledged (packet : Packet) (data : Bytes)
  /-- A packet that was sent came too late. -/
  | timedOut (packet : Packet)

/-- **What a call is answered with.** -/
inductive Answer where
  /-- Nothing. -/
  | silence
  /-- A response. -/
  | response (r : Response)
  /-- The receipt of a packet. -/
  | receipt (r : Receipt)
  deriving DecidableEq

/-- **What a bridge does when it is called.** -/
def Call.perform (context : Context) : Call → Bridge Answer
  | .setup m => .response <$> m.carryOut
  | .migrate m => .response <$> m.carryOut
  | .command account m => .response <$> m.carryOut context account
  | .offered p theirVersion => (fun _ => .silence) <$> p.offered theirVersion
  | .connected p theirVersion => .response <$> p.connected theirVersion
  | .closed channel side => .response <$> Channel.closed context channel side
  | .arrived packet => .receipt <$> packet.arrived context
  | .acknowledged packet data => .response <$> packet.acknowledged context data
  | .timedOut packet => .response <$> packet.timedOut context

/-- **A call at a time.** -/
structure Turn where
  /-- The time of the block, in nanoseconds. -/
  now : UInt64
  /-- The call. -/
  call : Call

/-- **Takes a turn.** If the call fails, the store stays as it was. -/
def Turn.take (bridge : Address) (turn : Turn) (s : Store Entry) :
    Except (Failure Fault) Answer × Store Entry :=
  (turn.call.perform ⟨bridge, turn.now⟩).runAtomic s

/-- The store after a turn. -/
def Turn.after (bridge : Address) (turn : Turn) (s : Store Entry) : Store Entry :=
  (turn.take bridge s).2

/-- **The store after a history**, whose latest turn comes first. -/
def storeAfter (bridge : Address) : List Turn → Store Entry
  | [] => .empty
  | turn :: past => turn.after bridge (storeAfter bridge past)

@[simp] theorem storeAfter_nil {bridge : Address} : storeAfter bridge [] = .empty := rfl

@[simp] theorem storeAfter_cons {bridge : Address} {turn : Turn} {past : List Turn} :
    storeAfter bridge (turn :: past) = turn.after bridge (storeAfter bridge past) := rfl

/-! ## Who calls, and from where -/

/-- Whether a call does not come from the account of the bridge, which no
one else can act for. -/
def Call.NotBy (bridge : Address) : Call → Prop
  | .command account _ => account ≠ bridge
  | _ => True

/-- Whether the name of an endpoint is free of slashes. -/
def Endpoint.Plain (e : Endpoint) : Prop := '/' ∉ e.port.toList ∧ '/' ∉ e.channel.toList

/-- Whether a packet that arrives does so at an endpoint whose name is free
of slashes. -/
def Call.Plain : Call → Prop
  | .arrived packet => packet.destination.Plain
  | _ => True

instance {bridge : Address} : DecidablePred (Call.NotBy bridge)
  | .command account _ => inferInstanceAs (Decidable (account ≠ bridge))
  | .setup _ | .migrate _ | .offered .. | .connected .. | .closed .. | .arrived _
  | .acknowledged .. | .timedOut _ => .isTrue trivial

instance : DecidablePred Endpoint.Plain := fun _ => inferInstanceAs (Decidable (_ ∧ _))

instance : DecidablePred Call.Plain
  | .arrived packet => inferInstanceAs (Decidable packet.destination.Plain)
  | .setup _ | .migrate _ | .command .. | .offered .. | .connected .. | .closed ..
  | .acknowledged .. | .timedOut _ => .isTrue trivial

/-! ## A short history -/

/-- The address of a bridge. -/
def harbor : Address := "harbor"

/-- A channel that is opened to another bridge. -/
def harborChannel : Proposal :=
  { here := ⟨"wasm.harbor", "channel-0"⟩, there := ⟨"wasm.island", "channel-7"⟩,
    ordering := .unordered, version := protocolVersion, connection := "connection-0" }

/-- A bridge is set up and a channel is opened; Alice creates a class, mints
a token of it and sends the token. -/
def firstVoyage : List Turn :=
  [⟨4, .command "alice" (.send ⟨"art", ["moon"], "bob", "channel-0", none⟩)⟩,
   ⟨3, .command "alice" (.mint "art" "moon" (some "ipfs://moon") "alice")⟩,
   ⟨2, .command "alice" (.createClass "art" none)⟩,
   ⟨1, .connected harborChannel none⟩,
   ⟨0, .setup ⟨"admin", none⟩⟩]

/-- The packet that is sent. -/
def firstPacket : Packet :=
  { source := harborChannel.here, destination := harborChannel.there, sequence := 1,
    data := PacketData.encode
      { classId := "art", classUri := none, tokenIds := ["moon"],
        tokenUris := [some "ipfs://moon"], sender := "alice", receiver := "bob" } }

example : (storeAfter harbor firstVoyage).deposit? "art" "moon"
    = some ⟨"art", "moon", "channel-0", "alice"⟩ := by decide +kernel

/-! ## The deeds of a call -/

/-- **The deeds of a command.** -/
def Command.Carries (context : Context) (account : Address) (s u : Store Entry)
    (answer : Answer) (ds : List Deed) : Command → Prop
  | .createClass classId uri =>
    ∃ c, ds = [.founded c] ∧ c.id = classId ∧ c.uri = uri ∧ c.minter = account
  | .mint classId tokenId uri owner => ds = [.minted account classId tokenId ⟨owner, uri⟩]
  | .transfer classId tokenId recipient => ds = [.passed classId tokenId account recipient]
  | .send order =>
    ∃ sent, (order.run context account).Yields s sent u ∧ ds = [.sent sent.shipment]
      ∧ answer = .response { requests := [sent.request], attributes := sent.attributes }
  | .closeChannel channel => Closes channel ds
  | .pause => ds = [.noted]
  | .unpause => ds = [.noted]
  | .setDefaultTimeout _ => ds = [.noted]

/-- **The deeds of a call**, which it carries out in the store `s`. -/
def Call.Carries (context : Context) (s u : Store Entry) (answer : Answer)
    (ds : List Deed) : Call → Prop
  | .setup _ => ds = [.noted]
  | .migrate _ => ds = [.noted]
  | .command account m => m.Carries context account s u answer ds
  | .offered .. => ds = []
  | .connected p _ =>
    ∃ channel, ds = [.connected channel] ∧ channel.here = p.here ∧ channel.there = p.there
  | .closed channel _ => Closes channel ds
  | .arrived packet =>
    ∃ receipt, answer = .receipt receipt
      ∧ (receipt.ack.isSuccess = false ∧ ds = []
        ∨ receipt.ack = .success ∧ ∃ data, PacketData.decode packet.data = .ok data
          ∧ data.validate = .ok () ∧ packet.Lands data s ds)
  | .acknowledged packet data =>
    ∃ ds', ds = .noted :: ds' ∧ packet.Settles (Ack.decodeLenient data).outcome ds'
  | .timedOut packet => packet.Settles .failed ds

/-- **The channel of the packets that a call settles**, if it does settle
packets. -/
def Call.settles? : Call → Option String
  | .command _ (.closeChannel channel) => some channel
  | .closed channel _ => some channel
  | .acknowledged packet _ => some packet.source.channel
  | .timedOut packet => some packet.source.channel
  | _ => none

/-- **Whether a call may be the occasion for a deed.** -/
def Call.Occasions (call : Call) : Deed → Prop
  | .noted => True
  | .connected _ => ∃ p theirVersion, call = .connected p theirVersion
  | .entered id _ =>
    (∃ account, call = .command account (.closeChannel id)) ∨ ∃ side, call = .closed id side
  | .founded _ => ∃ account classId uri, call = .command account (.createClass classId uri)
  | .wrapped arrival .. => ∃ packet, call = .arrived packet ∧ packet.destination = arrival
  | .minted minter classId tokenId token =>
    call = .command minter (.mint classId tokenId token.uri token.owner)
  | .passed classId tokenId giver taker => call = .command giver (.transfer classId tokenId taker)
  | .sent p =>
    ∃ order, call = .command p.sender (.send order) ∧ order.classId = p.classId
      ∧ order.tokenIds = p.tokenIds ∧ order.channel = p.channel
  | .released channel .. => ∃ packet, call = .arrived packet ∧ packet.destination.channel = channel
  | .issued arrival .. => ∃ packet, call = .arrived packet ∧ packet.destination = arrival
  | .committed channel .. => call.settles? = some channel
  | .refunded channel .. => call.settles? = some channel

section

variable {context : Context} {bridge account : Address} {s u : Store Entry} {answer : Answer}

/-- **Each deed of a call has the call as its occasion.** -/
theorem Call.Carries.occasions {call : Call} {ds : List Deed}
    (h : call.Carries context s u answer ds) : ∀ d ∈ ds, call.Occasions d := by
  have closes {id : String} (hclose : (∃ account, call = .command account (.closeChannel id))
      ∨ ∃ side, call = .closed id side) (h : Closes id ds) : ∀ d ∈ ds, call.Occasions d := by
    intro d hd
    obtain ⟨phase, rfl⟩ | ⟨sequence, p, rfl⟩ := h d hd
    · exact hclose
    · obtain ⟨account, rfl⟩ | ⟨side, rfl⟩ := hclose <;> rfl
  have settles {packet : Packet} {outcome : Outcome} {ds : List Deed}
      (hc : call.settles? = some packet.source.channel) (h : packet.Settles outcome ds) :
      ∀ d ∈ ds, call.Occasions d := by
    obtain rfl | ⟨_, _, -, -, ⟨-, rfl⟩ | ⟨-, rfl⟩⟩ := h <;> simp [Occasions, hc]
  cases call with
  | command account m =>
    cases m with
    | createClass classId uri =>
      obtain ⟨c, rfl, -⟩ := h
      simp [Occasions]
    | send order =>
      obtain ⟨sent, hsent, rfl, -⟩ := h
      obtain ⟨-, hsender, hclass, htokens, hchannel⟩ := SendOrder.run_sent hsent
      refine List.forall_mem_singleton.mpr
        ⟨order, ?_, hclass.symm, htokens.symm, hchannel.symm⟩
      rw [hsender]
    | closeChannel channel => exact closes (.inl ⟨account, rfl⟩) h
    | _ =>
      obtain rfl := h
      simp [Occasions]
  | connected p theirVersion =>
    obtain ⟨channel, rfl, -⟩ := h
    simp [Occasions]
  | closed channel side => exact closes (.inr ⟨side, rfl⟩) h
  | arrived packet =>
    obtain ⟨receipt, -, ⟨-, rfl⟩ | ⟨-, data, -, -, hlands⟩⟩ := h
    · simp
    · obtain ⟨home, -, rfl⟩ | ⟨-, c, rfl | rfl⟩ := hlands <;> simp [Occasions]
  | acknowledged packet data =>
    obtain ⟨ds, rfl, hds⟩ := h
    exact List.forall_mem_cons.mpr ⟨trivial, settles rfl hds⟩
  | timedOut packet => exact settles rfl h
  | _ =>
    obtain rfl := h
    simp [Occasions]

theorem Command.path_of_yields {m : Command} {r : Response}
    (h : (m.carryOut context account).Yields s r u) :
    ∃ ds, m.Carries context account s u (.response r) ds ∧ Path context.bridge s ds u := by
  cases m with
  | createClass classId uri =>
    simp only [carryOut, createClassFor, yields_bind, yields_pure] at h
    obtain ⟨c, _, hc, -, rfl⟩ := h
    obtain ⟨hd, hid, huri, hminter⟩ := TokenClass.create_founded hc
    exact ⟨_, ⟨c, rfl, hid, huri, hminter⟩, .single hd⟩
  | mint classId tokenId uri owner =>
    simp only [carryOut, mintFor, yields_bind, TokenClass.yields_find, yields_guard,
      yields_ofExcept, mapError_eq_ok, Token.yields_mint, yields_pure, ne_eq, not_not] at h
    obtain ⟨c, _, ⟨hc, rfl⟩, rfl, hne, _, _, ⟨howner, rfl⟩, _, _, ⟨hk, hn, rfl⟩, -, rfl⟩ := h
    obtain rfl := Address.eq_of_ofText howner
    exact ⟨_, rfl, .single ⟨⟨c, hc, rfl⟩, hne, hk, hn, rfl⟩⟩
  | transfer classId tokenId recipient =>
    simp only [carryOut, transferFor, yields_bind, yields_ofExcept, mapError_eq_ok,
      Token.yields_transfer, yields_pure] at h
    obtain ⟨_, _, ⟨htaker, rfl⟩, _, _, ⟨token, ht, ho, rfl⟩, -, rfl⟩ := h
    obtain rfl := Address.eq_of_ofText htaker
    exact ⟨_, rfl, .single ⟨token, ht, ho, rfl⟩⟩
  | send order =>
    simp only [carryOut, sendFor, yields_bind, yields_pure] at h
    obtain ⟨sent, _, hsent, rfl, rfl⟩ := h
    exact ⟨_, ⟨sent, hsent, rfl, rfl⟩, .single (SendOrder.run_sent hsent).1⟩
  | closeChannel channel =>
    simp only [carryOut, closeChannelFor, yields_bind, Settings.yields_loadFor, yields_pure] at h
    obtain ⟨_, _, ⟨-, -, rfl⟩, drained, _, hdrained, -, rfl⟩ := h
    exact Channel.requestClose_path hdrained
  | pause =>
    simp only [carryOut, yields_bind, yields_pure] at h
    obtain ⟨_, _, h, -, rfl⟩ := h
    exact ⟨_, rfl, .single (Settings.setPaused_noted h)⟩
  | unpause =>
    simp only [carryOut, yields_bind, yields_pure] at h
    obtain ⟨_, _, h, -, rfl⟩ := h
    exact ⟨_, rfl, .single (Settings.setPaused_noted h)⟩
  | setDefaultTimeout seconds =>
    simp only [carryOut, yields_bind, yields_pure] at h
    obtain ⟨_, _, h, -, rfl⟩ := h
    exact ⟨_, rfl, .single (Settings.setDefaultTimeout_noted h)⟩

/-- Acknowledging a packet keeps the acknowledgement, and then it settles the
packet. -/
theorem Packet.acknowledged_settles {packet : Packet} {data : Bytes} {r : Response}
    (h : (packet.acknowledged context data).Yields s r u) :
    ∃ ds, packet.Settles (Ack.decodeLenient data).outcome ds
      ∧ Path context.bridge (s.keep .lastAck (.lastAck (Ack.decodeLenient data))) ds u := by
  obtain ⟨a, h⟩ | ⟨channel, sequence, h⟩ := of_yields_report h
  · simp only [acknowledge, yields_bind, yields_pure, Table.yields_put] at h
    obtain ⟨_, _, ⟨-, rfl⟩, p, m', hp, _, _, hsettle, -, rfl⟩ := h
    exact settles_of_yields hp hsettle
  -- nothing is known of the packet, so it has not been settled
  · simp only [acknowledge, fails_bind, fails_pure, Table.yields_put, Table.fails_put] at h
    obtain ⟨-, h, -⟩ | ⟨_, _, ⟨-, rfl⟩, h | ⟨p, m', -, h | ⟨_, _, -, h⟩⟩⟩ := h
    · cases h
    · obtain rfl := unchanged_of_fails_shipment h
      exact ⟨[], .inl rfl, .nil⟩
    · exact absurd h (Shipment.not_fails_settle ⟨channel, sequence, .inl rfl⟩)
    · exact h.elim

/-- Keeping an acknowledgement is a deed. -/
theorem Deed.noted_keep_lastAck {bridge : Address} {ack : Ack} :
    Deed.noted.Does bridge s (s.keep .lastAck (.lastAck ack)) :=
  .keep (.inr (.inr rfl))

theorem Packet.acknowledged_path {packet : Packet} {data : Bytes} {r : Response}
    (h : (packet.acknowledged context data).Yields s r u) :
    ∃ ds, packet.Settles (Ack.decodeLenient data).outcome ds
      ∧ Path context.bridge s (.noted :: ds) u := by
  obtain ⟨ds, hds, hpath⟩ := acknowledged_settles h
  exact ⟨ds, hds, .cons Deed.noted_keep_lastAck hpath⟩

theorem Packet.timedOut_path {packet : Packet} {r : Response}
    (h : (packet.timedOut context).Yields s r u) :
    ∃ ds, packet.Settles .failed ds ∧ Path context.bridge s ds u := by
  obtain ⟨a, h⟩ | ⟨channel, sequence, h⟩ := of_yields_report h
  · simp only [expire, yields_bind] at h
    obtain ⟨p, m, hp, hsettle⟩ := h
    exact settles_of_yields hp hsettle
  · simp only [expire, fails_bind] at h
    obtain h | ⟨p, m, -, h⟩ := h
    · obtain rfl := unchanged_of_fails_shipment h
      exact ⟨[], .inl rfl, .nil⟩
    · exact absurd h (Shipment.not_fails_settle ⟨channel, sequence, .inl rfl⟩)

theorem Channel.closed_path {id : String} {side : CloseSide} {r : Response}
    (h : (closed context id side).Yields s r u) :
    ∃ ds, Closes id ds ∧ Path context.bridge s ds u := by
  simp only [closed, yields_bind, Table.yields_has] at h
  obtain ⟨known, _, ⟨-, rfl, rfl⟩, h⟩ := h
  split at h
  · simp only [yields_bind, yields_pure] at h
    obtain ⟨drained, _, hdrained, -, rfl⟩ := h
    exact confirmClose_path hdrained
  · obtain ⟨-, rfl⟩ := yields_pure.mp h
    exact ⟨[], by simp [Closes], .nil⟩

/-- **What a call does is a path of deeds** that it may carry out. -/
theorem Call.path_of_yields {call : Call} (h : (call.perform context).Yields s answer u) :
    ∃ ds, call.Carries context s u answer ds ∧ Path context.bridge s ds u := by
  cases call with
  | setup m =>
    simp only [perform, Setup.carryOut, yields_map, yields_bind, yields_pure] at h
    obtain ⟨r, ⟨settings, _, hs, -, rfl⟩, -⟩ := h
    exact ⟨_, rfl, .single (Settings.establish_noted hs)⟩
  | migrate m =>
    simp only [perform, Migration.carryOut, yields_map, yields_bind, yields_pure,
      Table.yields_put] at h
    obtain ⟨r, ⟨_, _, ⟨-, rfl⟩, -, rfl⟩, -⟩ := h
    exact ⟨_, rfl, .single (.keep (.inr (.inl rfl)))⟩
  | command account m =>
    obtain ⟨r, hr, rfl⟩ := yields_map.mp h
    exact Command.path_of_yields hr
  | offered p theirVersion =>
    simp only [perform, Proposal.offered, yields_map, yields_ofExcept] at h
    obtain ⟨_, ⟨-, rfl⟩, -⟩ := h
    exact ⟨[], rfl, .nil⟩
  | connected p theirVersion =>
    simp only [perform, Proposal.connected, yields_map, yields_bind, yields_ofExcept,
      yields_pure] at h
    obtain ⟨r, ⟨_, _, ⟨-, rfl⟩, channel, _, hc, -, rfl⟩, -⟩ := h
    obtain ⟨hd, hhere, hthere⟩ := Channel.establish_connected hc
    exact ⟨_, ⟨channel, rfl, hhere, hthere⟩, .single hd⟩
  | closed channel side =>
    obtain ⟨r, hr, rfl⟩ := yields_map.mp h
    exact Channel.closed_path hr
  | arrived packet =>
    obtain ⟨receipt, hr, rfl⟩ := yields_map.mp h
    obtain ⟨hack, rfl⟩ | ⟨hack, data, ds, hdecode, hvalid, hlands, hpath⟩ :=
      Packet.arrived_path hr
    · exact ⟨[], ⟨receipt, rfl, .inl ⟨hack, rfl⟩⟩, .nil⟩
    · exact ⟨ds, ⟨receipt, rfl, .inr ⟨hack, data, hdecode, hvalid, hlands⟩⟩, hpath⟩
  | acknowledged packet data =>
    obtain ⟨r, hr, rfl⟩ := yields_map.mp h
    obtain ⟨ds, hds, hpath⟩ := Packet.acknowledged_path hr
    exact ⟨_, ⟨ds, rfl, hds⟩, hpath⟩
  | timedOut packet =>
    obtain ⟨r, hr, rfl⟩ := yields_map.mp h
    exact Packet.timedOut_path hr

/-- A turn is answered if its call succeeds, and leaves what the call
leaves. -/
theorem Turn.take_eq_ok_iff {bridge : Address} {turn : Turn} :
    turn.take bridge s = (.ok answer, u)
      ↔ (turn.call.perform ⟨bridge, turn.now⟩).Yields s answer u := by
  rw [take, runAtomic, Yields]
  rcases (turn.call.perform ⟨bridge, turn.now⟩).run s with ⟨e | answer', u'⟩ <;> simp

/-- A turn fails if its call does, and leaves everything as it was. -/
theorem Turn.take_eq_error_iff {bridge : Address} {turn : Turn} {e : Failure Fault} :
    turn.take bridge s = (.error e, u)
      ↔ (∃ m, (turn.call.perform ⟨bridge, turn.now⟩).Fails s e m) ∧ u = s := by
  simp only [take, runAtomic, Fails]
  rcases (turn.call.perform ⟨bridge, turn.now⟩).run s with ⟨e' | answer, u'⟩ <;>
    simp [eq_comm]

/-- A turn that is answered goes a path of deeds. -/
theorem Turn.path_of_take {bridge : Address} {turn : Turn}
    (h : turn.take bridge s = (.ok answer, u)) :
    ∃ ds, turn.call.Carries ⟨bridge, turn.now⟩ s u answer ds ∧ Path bridge s ds u :=
  Call.path_of_yields (take_eq_ok_iff.mp h)

/-- **A turn is answered, or it leaves the store as it was.** -/
theorem Turn.after_eq_or_take (bridge : Address) (turn : Turn) (s : Store Entry) :
    turn.after bridge s = s
      ∨ ∃ answer, turn.take bridge s = (.ok answer, turn.after bridge s) := by
  rcases htake : turn.take bridge s with ⟨e | answer, u⟩
  · obtain ⟨-, rfl⟩ := take_eq_error_iff.mp htake
    exact .inl (congrArg Prod.snd htake)
  · have hu : turn.after bridge s = u := congrArg Prod.snd htake
    exact .inr ⟨answer, by rw [hu]⟩

/-- **A turn leaves the store as it was, or it goes a path of deeds.** -/
theorem Turn.path (bridge : Address) (turn : Turn) (s : Store Entry) :
    turn.after bridge s = s
      ∨ ∃ answer ds, turn.take bridge s = (.ok answer, turn.after bridge s)
        ∧ turn.call.Carries ⟨bridge, turn.now⟩ s (turn.after bridge s) answer ds
        ∧ Path bridge s ds (turn.after bridge s) := by
  obtain heq | ⟨answer, htake⟩ := turn.after_eq_or_take bridge s
  · exact .inl heq
  · obtain ⟨ds, hcarries, hpath⟩ := path_of_take htake
    exact .inr ⟨answer, ds, htake, hcarries, hpath⟩

end

end TokenBridge
