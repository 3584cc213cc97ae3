import Mathlib.Logic.ExistsUnique
import TokenBridge.Proofs.Names
import TokenBridge.Proofs.Settling

/-!
# No token out of thin air

A token comes into being in one of three ways: the minter of a class of
this chain mints it, it arrives in a packet, or the packet in which it was
destroyed is refunded. Each of these is a `Source`, and a turn after which
a token is there that was not there before has exactly one source for it
(`Turn.made_by_one_source`).

The first two are single deeds. The third is the hard one, since the close
of a channel refunds many packets. Of all that happens while packets are
settled, only the refund of a burned packet makes tokens, and it does not
succeed if one of them exists (`Path.undone_absent`). So no two packets that
are refunded in one turn have burned the same token (`Path.undone_once`).
-/

namespace TokenBridge

open Store

variable {bridge : Address} {s m u : Store Entry} {d : Deed} {ds : List Deed}
  {channel id classId tokenId : String} {n : UInt64} {p : Shipment} {token : Token}

/-! ## Refunds -/

/-- **A token that a deed makes** is minted by a minter, issued on an arrival,
or minted again by a refund. -/
theorem Deed.Does.made (h : d.Does bridge s u) (hn : s.token? classId tokenId = none)
    (ht : u.token? classId tokenId = some token) :
    (∃ minter, d = .minted minter classId tokenId token)
      ∨ (∃ arrival inner c tokens, d = .issued arrival inner c tokens token.owner
        ∧ c.id = classId ∧ (tokenId, token.uri) ∈ tokens)
      ∨ ∃ channel n p, d = .refunded channel n p ∧ p.custody = .burned ∧ p.classId = classId
        ∧ (tokenId, token.uri) ∈ p.tokens ∧ token.owner = p.sender := by
  obtain heq | ⟨hconcerns, hmoves⟩ := h.stays_or_moves classId tokenId
  · cases (show some token = none from ht.symm.trans ((congrArg Prod.fst heq).trans hn))
  cases d with
  | minted minter classId' tokenId' token' =>
    obtain ⟨rfl, rfl⟩ := hconcerns
    obtain rfl := Option.some.inj (ht.symm.trans (congrArg Prod.fst hmoves.2))
    exact .inl ⟨minter, rfl⟩
  | issued arrival inner c tokens recipient =>
    obtain ⟨uri, hmem, -, ha⟩ := hmoves
    obtain rfl : token = ⟨recipient, uri⟩ :=
      Option.some.inj (ht.symm.trans (congrArg Prod.fst ha))
    exact .inr (.inl ⟨arrival, inner, c, tokens, rfl, hconcerns.1, hmem⟩)
  | refunded channel n p =>
    obtain ⟨-, uri, deposit, hb, -, -⟩ | ⟨hburned, uri, hmem, -, ha⟩ := hmoves
    · cases (congrArg Prod.fst hb).symm.trans hn
    · obtain rfl : token = ⟨p.sender, uri⟩ :=
        Option.some.inj (ht.symm.trans (congrArg Prod.fst ha))
      exact .inr (.inr ⟨channel, n, p, rfl, hburned, hconcerns.1, hmem, rfl⟩)
  | passed =>
    obtain ⟨uri, hb, -⟩ := hmoves
    cases hb.symm.trans hn
  | sent p =>
    obtain ⟨uri, -, hb, -⟩ := hmoves
    cases hb.symm.trans hn
  | released =>
    obtain ⟨uri, deposit, hb, -⟩ := hmoves
    cases (congrArg Prod.fst hb).symm.trans hn
  | _ => exact hmoves.elim

namespace Path

/-- A token that is there only afterwards is made by one of the deeds. -/
theorem exists_making (h : Path bridge s ds u) (hn : s.token? classId tokenId = none)
    (ht : u.token? classId tokenId = some token) :
    ∃ d ∈ ds, ∃ m m' made, d.Does bridge m m' ∧ m.token? classId tokenId = none
      ∧ m'.token? classId tokenId = some made := by
  induction h with
  | nil => cases hn.symm.trans ht
  | @cons s m u d ds first others ih =>
    cases hm : m.token? classId tokenId with
    | none =>
      obtain ⟨d', hd', h⟩ := ih hm ht
      exact ⟨d', List.mem_cons_of_mem d hd', h⟩
    | some made => exact ⟨d, List.mem_cons_self, s, m, made, first, hn, hm⟩

/-- **A token that is made while packets of a channel are settled was burned,
and its packet is refunded.** -/
theorem made_by_refund (h : Path bridge s ds u) (hs : Sound s)
    (hds : ∀ d ∈ ds, d.SettlesOn channel) (hn : s.token? classId tokenId = none)
    (ht : u.token? classId tokenId = some token) :
    ∃ n p, Undone s u channel n p ∧ p.custody = .burned ∧ p.classId = classId
      ∧ (tokenId, token.uri) ∈ p.tokens ∧ token.owner = p.sender := by
  induction h with
  | nil => cases hn.symm.trans ht
  | @cons s m u d ds first others ih =>
    obtain ⟨hfirst, hothers⟩ := List.forall_mem_cons.mp hds
    cases hm : m.token? classId tokenId with
    | none =>
      obtain ⟨n, p, hundone, h⟩ := ih (hs.of_does first) hothers hm ht
      exact ⟨n, p, undone_cons first hs hfirst.not_isSend hundone, h⟩
    | some token' =>
      -- the first deed has made it, and it stays as it is
      obtain ⟨_, rfl⟩ | ⟨_, _, _, _, rfl, -⟩ | ⟨_, n, p, rfl, hburned, rfl, hmem, howner⟩ :=
        first.made hn hm
      · exact hfirst.elim
      · exact hfirst.elim
      obtain rfl := hfirst
      have hundone := undone_of_first first others hs
      obtain ⟨c, hc, hcustody⟩ := hs.custody hundone.1
      rw [hburned, (hs.filed hundone.1).1] at hcustody
      have ht' := others.token?_of_burned (hs.of_does first) hothers (first.class?_of_some hc)
        hcustody.symm hm
      obtain rfl := Option.some.inj (ht'.symm.trans ht)
      exact ⟨n, p, hundone, hburned, rfl, hmem, howner⟩

/-- **What a refund mints was not there** when the packets began to be
settled. -/
theorem undone_absent (h : Path bridge s ds u) (hs : Sound s)
    (hds : ∀ d ∈ ds, d.SettlesOn channel) (hundone : Undone s u id n p)
    (hburned : p.custody = .burned) {x : String × Option String} (hx : x ∈ p.tokens) :
    s.token? p.classId x.1 = none := by
  induction h with
  | nil => exact absurd hundone (not_undone_of_eq rfl)
  | @cons s m u d ds first others ih =>
    obtain ⟨hfirst, hothers⟩ := List.forall_mem_cons.mp hds
    obtain rfl | hlater := others.undone_cases first hs hundone
    · obtain ⟨hescrowed, -⟩ | ⟨-, uri, -, hn, -⟩ :=
        first.moves (show p.Restores p.classId x.1 from ⟨rfl, .inr ⟨hburned, x.2, hx⟩⟩)
      · cases hburned.symm.trans hescrowed
      · exact hn
    · by_cases hn : s.token? p.classId x.1 = none
      · exact hn
      · exact absurd (ih (hs.of_does first) hothers hlater)
          ((first.spares hfirst.not_isSend _ _).1 hn)

/-- **No token is minted by two refunds** while packets of a channel are
settled. -/
theorem undone_once {n' : UInt64} {p' : Shipment} (h : Path bridge s ds u) (hs : Sound s)
    (hds : ∀ d ∈ ds, d.SettlesOn channel) (hundone : Undone s u id n p)
    (hundone' : Undone s u id n' p') (hburned : p.custody = .burned)
    (hburned' : p'.custody = .burned) (hclass : p'.classId = p.classId)
    {uri uri' : Option String} (hx : (tokenId, uri) ∈ p.tokens)
    (hx' : (tokenId, uri') ∈ p'.tokens) : n = n' := by
  induction h with
  | nil => exact absurd hundone (not_undone_of_eq rfl)
  | @cons s m u d ds first others ih =>
    obtain ⟨hfirst, hothers⟩ := List.forall_mem_cons.mp hds
    have hm := hs.of_does first
    -- what the first deed has minted is there, so nothing mints it later on
    have minted {q q' : Shipment} {k k' : UInt64} {y y' : Option String}
        (hd : d = .refunded id k q) (hq : q.custody = .burned) (hy : (tokenId, y) ∈ q.tokens)
        (hclass : q'.classId = q.classId) (hlater : Undone m u id k' q')
        (hq' : q'.custody = .burned) (hy' : (tokenId, y') ∈ q'.tokens) : False := by
      subst hd
      obtain ⟨hescrowed, -⟩ | ⟨-, uri, -, -, ha⟩ :=
        first.moves (show q.Restores q.classId tokenId from ⟨rfl, .inr ⟨hq, y, hy⟩⟩)
      · cases hq.symm.trans hescrowed
      · have habsent := others.undone_absent hm hothers hlater hq' hy'
        rw [hclass] at habsent
        cases habsent.symm.trans (congrArg Prod.fst ha)
    obtain hd | hlater := others.undone_cases first hs hundone
    · obtain hd' | hlater' := others.undone_cases first hs hundone'
      · exact (Deed.refunded.inj (hd.symm.trans hd')).2.1
      · exact (minted hd hburned hx hclass hlater' hburned' hx').elim
    · obtain hd' | hlater' := others.undone_cases first hs hundone'
      · exact (minted hd' hburned' hx' hclass.symm hlater hburned hx).elim
      · exact ih hm hothers hlater hlater'

end Path

/-! ## Sources -/

/-- **What a token can come from.** -/
inductive Source where
  /-- The minter of its class. -/
  | minter (account : Address)
  /-- A packet that arrives. -/
  | arrival (packet : Packet)
  /-- The refund of the packet that was sent on a channel under a number. -/
  | refund (channel : String) (sequence : UInt64)

section

variable (bridge : Address) (past : List Turn) (turn : Turn) (classId tokenId : String)
  (token : Token)

/-- **Whether a token is minted by the minter of its class**, which is a class
of this chain. -/
def MintedBy (account : Address) : Prop :=
  turn.call = .command account (.mint classId tokenId token.uri token.owner) ∧ tokenId ≠ ""
    ∧ ∃ c, (storeAfter bridge past).class? classId = some c ∧ c.minter = account
      ∧ c.origin = .native

/-- **Whether a token arrives in a packet** that is acknowledged as a success.
Its class is the one that stands for the class of the packet at the endpoint
where it arrives, its owner is the receiver of the packet, and its metadata
is what the packet says. -/
def BroughtBy (packet : Packet) : Prop :=
  turn.call = .arrived packet
    ∧ (∃ receipt, receipt.ack = .success ∧ turn.take bridge (storeAfter bridge past)
      = (.ok (.receipt receipt), storeAfter bridge (turn :: past)))
    ∧ ∃ data, PacketData.decode packet.data = .ok data
      ∧ classId = packet.destination.extend data.classId
      ∧ (∃ c, (storeAfter bridge (turn :: past)).class? classId = some c
        ∧ c.origin = .wrapped packet.destination.channel)
      ∧ (tokenId, token.uri) ∈ data.tokens ∧ token.owner = data.receiver

/-- **Whether a packet is refunded in a turn, and in no other.** No turn of
this history refunds it, nor does any turn of a history that goes on from
here. -/
def RefundedOnce (channel : String) (n : UInt64) (p : Shipment) : Prop :=
  Undone (storeAfter bridge past) (storeAfter bridge (turn :: past)) channel n p
    ∧ ∀ later again earlier q, (again :: earlier) <:+ later ++ turn :: past →
      Undone (storeAfter bridge earlier) (storeAfter bridge (again :: earlier)) channel n q →
        again :: earlier = turn :: past

/-- **Whether a token was burned by the turn that sent a packet**: it was
there before that turn and belonged to the sender of the packet, and it
was gone afterwards. -/
def BurnedBySend (p : Shipment) : Prop :=
  ∃ sending earlier, (sending :: earlier) <:+ past
    ∧ sending.sent? bridge (storeAfter bridge earlier) = some p
    ∧ (storeAfter bridge earlier).token? classId tokenId = some token
    ∧ (storeAfter bridge (sending :: earlier)).token? classId tokenId = none

/-- **Whether a token comes back by a refund**: by the one and only refund of
a packet that has burned it and whose class arrived over the channel of the
packet. It comes back to the sender of the packet and as it was when it was
burned. -/
def RestoredFrom (channel : String) (n : UInt64) : Prop :=
  ∃ p, RefundedOnce bridge past turn channel n p ∧ p.custody = .burned ∧ p.classId = classId
    ∧ (∃ c, (storeAfter bridge past).class? classId = some c ∧ c.origin = .wrapped channel)
    ∧ (tokenId, token.uri) ∈ p.tokens ∧ token.owner = p.sender
    ∧ BurnedBySend bridge past classId tokenId token p

/-- **Whether a token that a turn has made comes from a source.** -/
def Source.Explains : Source → Prop
  | .minter account => MintedBy bridge past turn classId tokenId token account
  | .arrival packet => BroughtBy bridge past turn classId tokenId token packet
  | .refund channel n => RestoredFrom bridge past turn classId tokenId token channel n

end

section

variable {past : List Turn} {turn : Turn}

/-- A packet is refunded once. -/
theorem Undone.once
    (h : Undone (storeAfter bridge past) (storeAfter bridge (turn :: past)) channel n p) :
    RefundedOnce bridge past turn channel n p := by
  refine ⟨h, fun later again earlier q hsuffix h' => ?_⟩
  -- a packet that is pending now was not refunded before
  have before {x y : Turn} {xs ys : List Turn} {p q : Shipment}
      (hx : Undone (storeAfter bridge xs) (storeAfter bridge (x :: xs)) channel n p)
      (hy : Undone (storeAfter bridge ys) (storeAfter bridge (y :: ys)) channel n q)
      (hsuffix : (x :: xs) <:+ ys) : False := by
    have heq := pending_in_past hsuffix hy.1 hy.2.1 hx.2.2
    have := congrArg Shipment.status heq
    rw [hy.2.1] at this
    cases this
  obtain hle | hle :=
    List.suffix_or_suffix_of_suffix hsuffix (List.suffix_append later (turn :: past))
  · obtain heq | hle := List.suffix_cons_iff.mp hle
    · exact heq
    · exact (before h' h hle).elim
  · obtain heq | hle := List.suffix_cons_iff.mp hle
    · exact heq.symm
    · exact (before h h' hle).elim

/-- What a packet that is pending has burned was there before it was sent, and
is what the record says. -/
theorem burnedBySend_of_pending (hp : (storeAfter bridge past).shipment? channel n = some p)
    (hpend : p.status = .pending) (hburned : p.custody = .burned) {uri : Option String}
    (hmem : (tokenId, uri) ∈ p.tokens) :
    BurnedBySend bridge past p.classId tokenId ⟨p.sender, uri⟩ p := by
  obtain ⟨sending, earlier, hsuffix, hsent, hdoes⟩ := sent_in_past hp
  rw [show { p with status := .pending } = p by rw [← hpend]] at hsent hdoes
  have hbefore := hdoes.token?_of_sent hmem
  refine ⟨sending, earlier, hsuffix, hsent, hbefore, ?_⟩
  obtain ⟨-, -, -, ⟨hescrowed, -⟩ | ⟨-, ha⟩⟩ :=
    hdoes.moves (show (Deed.sent p).Concerns p.classId tokenId from
      ⟨rfl, (List.of_mem_zip hmem).1⟩)
  · cases hburned.symm.trans hescrowed
  · exact congrArg Prod.fst ha

/-- **A token that is made in a turn that settles packets comes back by a
refund.** -/
theorem Turn.restored (hc : turn.call.settles? = some channel)
    (hn : (storeAfter bridge past).token? classId tokenId = none)
    (ht : (storeAfter bridge (turn :: past)).token? classId tokenId = some token) :
    ∃ n, RestoredFrom bridge past turn classId tokenId token channel n := by
  obtain heq | ⟨answer, ds, -, hcarries, hpath⟩ := turn.path bridge (storeAfter bridge past)
  · rw [storeAfter_cons, heq, hn] at ht
    cases ht
  have hs : Sound (storeAfter bridge past) := sound_after past
  obtain ⟨n, p, hundone, hburned, rfl, hmem, howner⟩ :=
    hpath.made_by_refund hs (hcarries.settlesOn hc) hn ht
  have hsent := burnedBySend_of_pending hundone.1 hundone.2.1 hburned hmem
  rw [← howner] at hsent
  obtain ⟨c, hclass, hcustody⟩ := hs.custody hundone.1
  refine ⟨n, p, hundone.once, hburned, rfl, ⟨c, hclass, ?_⟩, hmem, howner, hsent⟩
  rw [hburned, (hs.filed hundone.1).1, SendOrder.custodyOf] at hcustody
  split at hcustody
  · next hw => simpa [Origin.isWrappedOn] using hw
  · cases hcustody

/-- The refund from which a token comes back is the only one. -/
theorem RestoredFrom.unique {channel' : String} {n' : UInt64}
    (h : RestoredFrom bridge past turn classId tokenId token channel n)
    (h' : RestoredFrom bridge past turn classId tokenId token channel' n') :
    channel = channel' ∧ n = n' := by
  obtain ⟨p, ⟨hundone, -⟩, hburned, rfl, ⟨c, hc, hw⟩, hmem, -⟩ := h
  obtain ⟨p', ⟨hundone', -⟩, hburned', hclass, ⟨c', hc', hw'⟩, hmem', -⟩ := h'
  obtain rfl := Option.some.inj (hc'.symm.trans hc)
  obtain rfl := Origin.wrapped.inj (hw.symm.trans hw')
  have hs : Sound (storeAfter bridge past) := sound_after past
  obtain ⟨settled, hsettles⟩ := turn.settles_of_undone hs hundone
  obtain heq | ⟨answer, ds, -, hcarries, hpath⟩ := turn.path bridge (storeAfter bridge past)
  · rw [storeAfter_cons, heq] at hundone
    exact (not_undone_of_eq rfl hundone).elim
  · exact ⟨rfl, hpath.undone_once hs (hcarries.settlesOn hsettles) hundone hundone' hburned
      hburned' hclass hmem hmem'⟩

/-- **The tokens of a class that has arrived** are minted by the bridge. -/
theorem minter_of_wrapped {c : TokenClass} (hc : (storeAfter bridge past).class? classId = some c)
    (horigin : c.origin = .wrapped channel) : c.minter = bridge := by
  induction past with
  | nil => simp at hc
  | cons turn past ih =>
    refine turn.keeps (P := fun s => s.class? classId = some c → c.minter = bridge) ?_ ih hc
    intro s u d h _ hs hu
    obtain heq | ⟨c', rfl | ⟨arrival, inner, rfl⟩, -, -, hc'⟩ := h.class? classId
    · exact hs (heq ▸ hu)
    · obtain rfl := Option.some.inj (hc'.symm.trans hu)
      obtain ⟨-, -, -, hnative, -⟩ := h
      cases hnative.symm.trans horigin
    · obtain ⟨-, -, -, -, hminter, -⟩ := h
      rwa [Option.some.inj (hc'.symm.trans hu)] at hminter

/-- A token that a minter has minted was minted by the minter of its class. -/
theorem mintedBy_of_minted {account : Address} {id' tokenId' : String} {token' : Token}
    (hnot : account ≠ bridge)
    (hcall : turn.call = .command account (.mint id' tokenId' token'.uri token'.owner))
    (hdoes : (Deed.minted account id' tokenId' token').Does bridge (storeAfter bridge past)
      (storeAfter bridge (turn :: past)))
    (hn : (storeAfter bridge past).token? classId tokenId = none)
    (ht : (storeAfter bridge (turn :: past)).token? classId tokenId = some token) :
    MintedBy bridge past turn classId tokenId token account := by
  obtain ⟨minter, hd⟩ | ⟨_, _, _, _, hd, -⟩ | ⟨_, _, _, hd, -⟩ := hdoes.made hn ht
  · obtain ⟨rfl, rfl, rfl, rfl⟩ := Deed.minted.inj hd
    obtain ⟨⟨c, hclass, hminter⟩, hne, -⟩ := hdoes
    refine ⟨hcall, hne, c, hclass, hminter, ?_⟩
    -- the minter of a class that arrived is the bridge, which mints by itself alone
    cases ho : c.origin with
    | native => rfl
    | wrapped channel => exact absurd (hminter.symm.trans (minter_of_wrapped hclass ho)) hnot
  · cases hd
  · cases hd

/-- A token that is issued on an arrival was brought by the packet. -/
theorem broughtBy_of_issued {packet : Packet} {data : PacketData} {receipt : Receipt}
    {c : TokenClass} (hregistered : Registered bridge (storeAfter bridge (turn :: past)))
    (hplain : packet.destination.Plain) (hcall : turn.call = .arrived packet)
    (hack : receipt.ack = .success)
    (htake : turn.take bridge (storeAfter bridge past)
      = (.ok (.receipt receipt), storeAfter bridge (turn :: past)))
    (hdecode : PacketData.decode packet.data = .ok data)
    (hdoes : (Deed.issued packet.destination data.classId c data.tokens data.receiver).Does
      bridge m (storeAfter bridge (turn :: past)))
    (hn : m.token? classId tokenId = none)
    (ht : (storeAfter bridge (turn :: past)).token? classId tokenId = some token) :
    BroughtBy bridge past turn classId tokenId token packet := by
  obtain ⟨_, hd⟩ | ⟨_, _, _, _, hd, hid, hmem⟩ | ⟨_, _, _, hd, -⟩ := hdoes.made hn ht
  · cases hd
  · obtain ⟨rfl, rfl, rfl, rfl, howner⟩ := Deed.issued.inj hd
    have hclass := hdoes.class?_of_some hdoes.1
    have hname := hregistered.named hclass
    rw [hid] at hname
    refine ⟨hcall, ⟨receipt, hack, htake⟩, data, hdecode, hname, ⟨c, hname ▸ hclass, ?_⟩, hmem,
      howner.symm⟩
    exact (hregistered.origin_of_extend hplain hclass).1
  · cases hd

/-- **A token that is made in a turn that settles no packets** is minted by
the minter of its class, or it arrives. -/
theorem Turn.minted_or_brought (hregistered : Registered bridge (storeAfter bridge past))
    (hplain : turn.call.Plain) (hnot : turn.call.NotBy bridge) (hc : turn.call.settles? = none)
    (hn : (storeAfter bridge past).token? classId tokenId = none)
    (ht : (storeAfter bridge (turn :: past)).token? classId tokenId = some token) :
    (∃ account, MintedBy bridge past turn classId tokenId token account)
      ∨ ∃ packet, BroughtBy bridge past turn classId tokenId token packet := by
  obtain heq | ⟨answer, ds, htake, hcarries, hpath⟩ := turn.path bridge (storeAfter bridge past)
  · rw [storeAfter_cons, heq, hn] at ht
    cases ht
  -- the deed that makes the token tells which call this is
  obtain ⟨d, hd, m, m', made, hdoes, hm, hm'⟩ := hpath.exists_making hn ht
  have hoccasion := hcarries.occasions d hd
  obtain ⟨minter, rfl⟩ | ⟨arrival, inner, c, tokens, rfl, -⟩ | ⟨channel, n, p, rfl, -⟩ :=
    hdoes.made hm hm'
  · have hcall : turn.call = .command minter (.mint classId tokenId made.uri made.owner) :=
      hoccasion
    rw [hcall] at hcarries hnot
    obtain rfl := hcarries
    exact .inl ⟨minter, mintedBy_of_minted hnot hcall (Path.single_iff.mp hpath) hn ht⟩
  · obtain ⟨packet, hcall, rfl⟩ := hoccasion
    have hregistered' : Registered bridge (storeAfter bridge (turn :: past)) :=
      Turn.keeps_of_plain Registered.of_does hplain hregistered
    rw [hcall] at hcarries hplain
    obtain ⟨receipt, rfl, ⟨-, rfl⟩ | ⟨hack, data, hdecode, -, hlands⟩⟩ := hcarries
    · cases hd
    refine .inr ⟨packet, ?_⟩
    obtain ⟨home, -, rfl⟩ | ⟨-, c, rfl | rfl⟩ := hlands
    · cases List.mem_singleton.mp hd
    · exact broughtBy_of_issued hregistered' hplain hcall hack htake hdecode
        (Path.single_iff.mp hpath) hn ht
    · obtain ⟨m, hwrapped, hissued⟩ := Path.cons_iff.mp hpath
      exact broughtBy_of_issued hregistered' hplain hcall hack htake hdecode
        (Path.single_iff.mp hissued) ((congrArg Prod.fst (hwrapped.stays id)).trans hn) ht
  · cases hoccasion.symm.trans hc

/-- **No token comes out of thin air.** A token that is there after a turn and
was not there before has exactly one source: the minter of its class, which
is a class of this chain, has minted it under a name that is not empty; or
it is listed in a packet that arrived and was acknowledged as a success; or
the one and only refund of a packet that was pending and has burned it has
brought it back as it was. -/
theorem Turn.made_by_one_source (hpast : ∀ earlier ∈ past, earlier.call.Plain)
    (hplain : turn.call.Plain) (hnot : turn.call.NotBy bridge)
    (hn : (storeAfter bridge past).token? classId tokenId = none)
    (ht : (storeAfter bridge (turn :: past)).token? classId tokenId = some token) :
    ∃! source : Source, source.Explains bridge past turn classId tokenId token := by
  have hs : Sound (storeAfter bridge past) := sound_after past
  -- a refund explains nothing in a turn that settles no packets, and nothing else does in others
  have settles {channel : String} {n : UInt64}
      (h : RestoredFrom bridge past turn classId tokenId token channel n) :
      ∃ channel, turn.call.settles? = some channel := by
    obtain ⟨p, ⟨hundone, -⟩, -⟩ := h
    exact turn.settles_of_undone hs hundone
  have minted {account : Address} (h : MintedBy bridge past turn classId tokenId token account) :
      turn.call.settles? = none := by
    rw [h.1]
    rfl
  have brought {packet : Packet} (h : BroughtBy bridge past turn classId tokenId token packet) :
      turn.call.settles? = none := by
    rw [h.1]
    rfl
  cases hc : turn.call.settles? with
  | some channel =>
    obtain ⟨n, hrestored⟩ := Turn.restored hc hn ht
    refine ⟨.refund channel n, hrestored, fun source hsource => ?_⟩
    cases source with
    | minter account => cases hc.symm.trans (minted hsource)
    | arrival packet => cases hc.symm.trans (brought hsource)
    | refund channel' n' =>
      obtain ⟨rfl, rfl⟩ := RestoredFrom.unique hsource hrestored
      rfl
  | none =>
    have not_restored {channel : String} {n : UInt64} :
        ¬ RestoredFrom bridge past turn classId tokenId token channel n := by
      intro h
      obtain ⟨channel, hsome⟩ := settles h
      cases hsome.symm.trans hc
    obtain ⟨account, h⟩ | ⟨packet, h⟩ :=
      Turn.minted_or_brought (registered_after hpast) hplain hnot hc hn ht
    · refine ⟨.minter account, h, fun source hsource => ?_⟩
      cases source with
      | minter account' =>
        obtain ⟨rfl, -⟩ := Call.command.inj (h.1.symm.trans hsource.1)
        rfl
      | arrival packet => cases h.1.symm.trans hsource.1
      | refund channel n => exact (not_restored hsource).elim
    · refine ⟨.arrival packet, h, fun source hsource => ?_⟩
      cases source with
      | minter account => cases h.1.symm.trans hsource.1
      | arrival packet' =>
        obtain rfl := Call.arrived.inj (h.1.symm.trans hsource.1)
        rfl
      | refund channel n => exact (not_restored hsource).elim

end

/-- A token of a class of the island arrives at the harbor, and Bob, who
receives it, sends it home. -/
def returnVoyage : List Turn :=
  [⟨3, .command "bob" (.send ⟨"wasm.harbor/channel-0/song", ["dawn"], "carol", "channel-0", none⟩)⟩,
   ⟨2, .arrived
    { source := harborChannel.there, destination := harborChannel.here, sequence := 1,
      data := PacketData.encode
        { classId := "song", classUri := none, tokenIds := ["dawn"],
          tokenUris := [some "ipfs://dawn"], sender := "carol", receiver := "bob" } }⟩,
   ⟨1, .connected harborChannel none⟩,
   ⟨0, .setup ⟨"admin", none⟩⟩]

/-- The packet in which it is sent home. -/
def returnPacket : Packet :=
  { source := harborChannel.here, destination := harborChannel.there, sequence := 1,
    data := PacketData.encode
      { classId := "wasm.harbor/channel-0/song", classUri := none, tokenIds := ["dawn"],
        tokenUris := [some "ipfs://dawn"], sender := "bob", receiver := "carol" } }

/-- The token comes back when the packet is timed out, and that has one
source. -/
theorem Turn.made_by_one_source_returnVoyage :
    ∃! source : Source, source.Explains harbor returnVoyage ⟨4, .timedOut returnPacket⟩
      "wasm.harbor/channel-0/song" "dawn" ⟨"bob", some "ipfs://dawn"⟩ :=
  Turn.made_by_one_source (by decide) (by decide) (by decide) (by decide +kernel)
    (by decide +kernel)

end TokenBridge
