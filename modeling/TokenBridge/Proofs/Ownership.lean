import TokenBridge.Proofs.Invariants

/-!
# Only the owner moves a token

A token leaves the hands of an account only if that account passes it on
or sends it. The bridge has tokens too, which are deposited with it, and
it gives them out without being told to by their owner; but all that a
packet, an acknowledgement, a timeout or the close of a channel can get
from it is what is deposited for that very channel (`Gives`).

No other call concerns a token that exists. So there is a complete list of
what a turn may do to a token (`Turn.leaves_only_by_owner`): who may move
it and by which call, when it can be destroyed, and that its metadata
stays what it was.
-/

namespace TokenBridge

open Store

variable {bridge : Address} {s m u : Store Entry} {d : Deed} {channel : String}

/-! ## What a channel can get from the bridge -/

/-- **What may have become of a token if nobody but the bridge has given it
away**, and the bridge only on behalf of a channel. The token is where it
was before or has just been made; or it was deposited for the channel and
is deposited no more. -/
def Given (bridge : Address) (channel : String) (before after : Option Token × Option Deposit) :
    Prop :=
  (∀ owner uri, before.1 = some ⟨owner, uri⟩ → ∃ owner', after.1 = some ⟨owner', uri⟩
      ∧ (owner' = owner
        ∨ owner = bridge ∧ (∃ deposit, before.2 = some deposit ∧ deposit.channel = channel)
          ∧ after.2 = none))
    ∧ (after.2 = before.2 ∨ after.2 = none)

section

variable {x y z : Option Token × Option Deposit}

theorem Given.refl : Given bridge channel x x :=
  ⟨fun owner _ h => ⟨owner, h, .inl rfl⟩, .inl rfl⟩

theorem Given.trans (h : Given bridge channel x y) (h' : Given bridge channel y z) :
    Given bridge channel x z := by
  refine ⟨fun owner uri ht => ?_, ?_⟩
  · obtain ⟨owner₁, ht₁, rfl | ⟨rfl, hdep, hnone⟩⟩ := h.1 owner uri ht
    · obtain ⟨owner₂, ht₂, rfl | ⟨rfl, ⟨deposit, hdep, hc⟩, hnone⟩⟩ := h'.1 _ uri ht₁
      · exact ⟨owner₂, ht₂, .inl rfl⟩
      -- what is deposited in the middle was deposited at the start
      · obtain heq | hnone' := h.2
        · exact ⟨owner₂, ht₂, .inr ⟨rfl, ⟨deposit, heq ▸ hdep, hc⟩, hnone⟩⟩
        · rw [hnone'] at hdep
          cases hdep
    · obtain ⟨owner₂, ht₂, -⟩ := h'.1 _ uri ht₁
      refine ⟨owner₂, ht₂, .inr ⟨rfl, hdep, ?_⟩⟩
      obtain heq | hnone' := h'.2
      · rw [heq, hnone]
      · exact hnone'
  · obtain heq | hnone := h'.2
    · rw [heq]
      exact h.2
    · exact .inr hnone

/-- A token that is made was given away by nobody. -/
theorem Given.of_made {token : Token} (hn : x.1 = none) (hy : y = (some token, x.2)) :
    Given bridge channel x y := by
  refine ⟨fun owner uri ht => ?_, .inl (by rw [hy])⟩
  rw [hn] at ht
  cases ht

/-- A token that the bridge releases was deposited for the channel. -/
theorem Given.of_released {owner : Address} {uri : Option String} {deposit : Deposit}
    (hx : x = (some ⟨bridge, uri⟩, some deposit)) (hc : deposit.channel = channel)
    (hy : y = (some ⟨owner, uri⟩, none)) : Given bridge channel x y := by
  subst hx hy
  refine ⟨fun owner' uri' ht => ?_, .inr rfl⟩
  cases ht
  exact ⟨owner, rfl, .inr ⟨rfl, ⟨deposit, rfl, hc⟩, rfl⟩⟩

end

/-- **Whether the bridge has given out nothing but what was deposited for a
channel**, and nobody else has given anything. -/
def Gives (bridge : Address) (channel : String) (s u : Store Entry) : Prop :=
  ∀ classId tokenId,
    Given bridge channel (s.whereabouts classId tokenId) (u.whereabouts classId tokenId)

/-- Whether a deed takes tokens from nobody, or from the bridge on behalf of
a channel. -/
def Deed.DrawsOn (channel : String) : Deed → Prop
  | .passed .. => False
  | .sent _ => False
  | .released channel' .. => channel' = channel
  | .refunded channel' _ _ => channel' = channel
  | _ => True

/-- A deed that takes tokens from the bridge alone gives out what is deposited
for the channel. -/
theorem Deed.Does.gives (h : d.Does bridge s u) (hs : Sound s)
    (hd : d.DrawsOn channel) : Gives bridge channel s u := by
  intro classId tokenId
  obtain heq | ⟨-, hmoves⟩ := h.stays_or_moves classId tokenId
  · rw [heq]
    exact .refl
  cases d with
  | minted minter classId' tokenId' token => exact .of_made hmoves.1 hmoves.2
  | passed => exact hd.elim
  | sent p => exact hd.elim
  | released channel' classId' tokenIds recipient =>
    obtain ⟨uri, deposit, hx, hc, hy⟩ := hmoves
    exact .of_released hx (hc.trans hd) hy
  | issued arrival inner c tokens recipient =>
    obtain ⟨uri, -, hn, hy⟩ := hmoves
    exact .of_made hn hy
  | refunded channel' sequence p =>
    obtain ⟨-, uri, deposit, hx, hc, hy⟩ | ⟨-, uri, -, hn, hy⟩ := hmoves
    -- the packet is kept under its own channel
    · refine .of_released hx (hc.trans ?_) hy
      rw [(hs.filed h.1).1]
      exact hd
    · exact .of_made hn hy
  | _ => exact hmoves.elim

/-- **A path of such deeds gives out what is deposited for the channel.** -/
theorem Path.gives {ds : List Deed} (h : Path bridge s ds u) (hs : Sound s)
    (hds : ∀ d ∈ ds, d.DrawsOn channel) :
    Gives bridge channel s u := by
  have step {m u : Store Entry} {d : Deed} (hmem : d ∈ ds) (hd : d.Does bridge m u)
      (hm : Sound m ∧ Gives bridge channel s m) : Sound u ∧ Gives bridge channel s u :=
    ⟨hm.1.of_does hd, fun classId tokenId =>
      (hm.2 classId tokenId).trans (hd.gives hm.1 (hds d hmem) classId tokenId)⟩
  exact (h.keeps step ⟨hs, fun _ _ => .refl⟩).2

/-! ## Which calls move tokens -/

/-- **The channel that a call is about**, if it can get something from the
bridge: the one on which a packet arrives or to which it comes back, or the
one that is closed. -/
def Call.channel? : Call → Option String
  | .command _ (.closeChannel channel) => some channel
  | .closed channel _ => some channel
  | .arrived packet => some packet.destination.channel
  | .acknowledged packet _ => some packet.source.channel
  | .timedOut packet => some packet.source.channel
  | _ => none

/-- **Whether an account parts with a token by a call**: whether it passes
the token on, or sends it. -/
def Call.PartsWith (account : Address) (classId tokenId : String) : Call → Prop
  | .command account' (.transfer classId' tokenId' _) =>
    account' = account ∧ classId' = classId ∧ tokenId' = tokenId
  | .command account' (.send order) =>
    account' = account ∧ order.classId = classId ∧ tokenId ∈ order.tokenIds
  | _ => False

section

variable {context : Context} {answer : Answer} {ds : List Deed} {call : Call}
  {classId tokenId : String} {owner : Address} {uri : Option String}

/-- A call that settles packets of a channel is about that channel. -/
theorem Call.channel?_of_settles (hc : call.settles? = some channel) :
    call.channel? = some channel := by
  unfold Call.settles? at hc
  split at hc
  all_goals first | exact hc | cases hc

/-- A call that is about a channel draws on that channel alone. -/
theorem Call.Carries.drawsOn (h : call.Carries context s u answer ds)
    (hc : call.channel? = some channel) : ∀ d ∈ ds, d.DrawsOn channel := by
  intro d hd
  have hoccasion := h.occasions d hd
  cases d with
  | passed =>
    obtain rfl := hoccasion
    cases hc
  | sent p =>
    obtain ⟨order, rfl, -⟩ := hoccasion
    cases hc
  | released =>
    obtain ⟨packet, rfl, rfl⟩ := hoccasion
    exact Option.some.inj hc
  | refunded => exact Option.some.inj ((Call.channel?_of_settles hoccasion).symm.trans hc)
  | _ => trivial

/-- A call that is about no channel is a single deed at most. -/
theorem Call.Carries.eq_nil_or_single (h : call.Carries context s u answer ds)
    (hc : call.channel? = none) : ds = [] ∨ ∃ d, ds = [d] := by
  cases call with
  | command account m =>
    cases m with
    | createClass classId uri =>
      obtain ⟨c, hds, -⟩ := h
      exact .inr ⟨_, hds⟩
    | send order =>
      obtain ⟨sent, -, hds, -⟩ := h
      exact .inr ⟨_, hds⟩
    | closeChannel channel => cases hc
    | _ => exact .inr ⟨_, h⟩
  | offered p theirVersion => exact .inl h
  | connected p theirVersion =>
    obtain ⟨channel, hds, -⟩ := h
    exact .inr ⟨_, hds⟩
  | setup m => exact .inr ⟨_, h⟩
  | migrate m => exact .inr ⟨_, h⟩
  | _ => cases hc

/-- **What a deed of a call that is about no channel does to a token that
exists**: its owner passes it on or sends it, or it stays what it is. A token
that is sent is destroyed if its class arrived over the channel. -/
theorem Deed.Does.parts (h : d.Does bridge s u) (hoccasion : call.Occasions d)
    (hc : call.channel? = none) (ht : s.token? classId tokenId = some ⟨owner, uri⟩) :
    u.token? classId tokenId = some ⟨owner, uri⟩
      ∨ call.PartsWith owner classId tokenId
        ∧ ((∃ owner', u.token? classId tokenId = some ⟨owner', uri⟩)
          ∨ u.token? classId tokenId = none
            ∧ ∃ order c, call = .command owner (.send order) ∧ order.classId = classId
              ∧ tokenId ∈ order.tokenIds ∧ s.class? classId = some c
              ∧ c.origin = .wrapped order.channel) := by
  obtain heq | ⟨hconcerns, hmoves⟩ := h.stays_or_moves classId tokenId
  · exact .inl ((congrArg Prod.fst heq).trans ht)
  cases d with
  | minted => cases hmoves.1.symm.trans ht
  | passed classId' tokenId' giver taker =>
    obtain rfl := hoccasion
    obtain ⟨rfl, rfl⟩ := hconcerns
    obtain ⟨uri', hb, ha⟩ := hmoves
    cases hb.symm.trans ht
    exact .inr ⟨⟨rfl, rfl, rfl⟩, .inl ⟨taker, congrArg Prod.fst ha⟩⟩
  | sent p =>
    obtain ⟨order, rfl, hclass, htokens, hchannel⟩ := hoccasion
    obtain ⟨rfl, hmem⟩ := hconcerns
    obtain ⟨uri', -, hb, hmoves⟩ := hmoves
    obtain ⟨rfl, rfl⟩ := Token.mk.inj (Option.some.inj (hb.symm.trans ht))
    rw [← htokens] at hmem
    refine .inr ⟨⟨rfl, hclass, hmem⟩, ?_⟩
    obtain ⟨-, -, ha⟩ | ⟨hburned, ha⟩ := hmoves
    · exact .inl ⟨bridge, congrArg Prod.fst ha⟩
    · obtain ⟨-, -, ⟨c, hc, hcustody⟩, -⟩ := h
      refine .inr ⟨congrArg Prod.fst ha, order, c, rfl, hclass, hmem, hc, ?_⟩
      rw [hburned, ← hchannel, SendOrder.custodyOf] at hcustody
      split at hcustody
      · next hw => simpa [Origin.isWrappedOn] using hw
      · cases hcustody
  | released =>
    obtain ⟨packet, rfl, -⟩ := hoccasion
    cases hc
  | issued =>
    obtain ⟨packet, rfl, -⟩ := hoccasion
    cases hc
  | refunded => cases (Call.channel?_of_settles hoccasion).symm.trans hc
  | _ => exact hmoves.elim

end

/-! ## A single turn -/

section

variable {past : List Turn} {turn : Turn} {classId tokenId : String} {owner : Address}
  {uri : Option String}

/-- **What may become of a token in a turn**: it exists and has the same owner,
or its owner has parted with it, or the bridge has given it out; or it is
destroyed, by a send of its owner. -/
theorem Turn.stays_or_leaves (bridge : Address) (turn : Turn) (hs : Sound s)
    (ht : s.token? classId tokenId = some ⟨owner, uri⟩) :
    (∃ owner', (turn.after bridge s).token? classId tokenId = some ⟨owner', uri⟩
        ∧ (owner' = owner ∨ turn.call.PartsWith owner classId tokenId
          ∨ owner = bridge ∧ ∃ deposit, s.deposit? classId tokenId = some deposit
            ∧ (turn.after bridge s).deposit? classId tokenId = none
            ∧ turn.call.channel? = some deposit.channel))
      ∨ (turn.after bridge s).token? classId tokenId = none
        ∧ turn.call.PartsWith owner classId tokenId
        ∧ ∃ order c, turn.call = .command owner (.send order) ∧ order.classId = classId
          ∧ tokenId ∈ order.tokenIds ∧ s.class? classId = some c
          ∧ c.origin = .wrapped order.channel := by
  obtain heq | ⟨answer, ds, -, hcarries, hpath⟩ := turn.path bridge s
  · exact .inl ⟨owner, by rw [heq, ht], .inl rfl⟩
  cases hc : turn.call.channel? with
  | some channel =>
    have hgives := hpath.gives hs (hcarries.drawsOn hc)
    obtain ⟨owner', ht', rfl | ⟨rfl, ⟨deposit, hdep, rfl⟩, hnone⟩⟩ :=
      (hgives classId tokenId).1 owner uri ht
    · exact .inl ⟨owner', ht', .inl rfl⟩
    · exact .inl ⟨owner', ht', .inr (.inr ⟨rfl, deposit, hdep, hnone, rfl⟩)⟩
  | none =>
    obtain hds | ⟨d, hds⟩ := hcarries.eq_nil_or_single hc
    · rw [hds] at hpath
      rw [Path.nil_iff.mp hpath]
      exact .inl ⟨owner, ht, .inl rfl⟩
    have hoccasion := hcarries.occasions d (hds ▸ List.mem_singleton_self d)
    rw [hds] at hpath
    obtain ht' | ⟨hparts, ⟨owner', ht'⟩ | ⟨hnone, hdestroyed⟩⟩ :=
      (Path.single_iff.mp hpath).parts hoccasion hc ht
    · exact .inl ⟨owner, ht', .inl rfl⟩
    · exact .inl ⟨owner', ht', .inr (.inl hparts)⟩
    · exact .inr ⟨hnone, hparts, hdestroyed⟩

/-- Whoever parts with a token is not the bridge. -/
theorem Call.PartsWith.ne_bridge {call : Call} (h : call.PartsWith owner classId tokenId)
    (hcall : call.NotBy bridge) : owner ≠ bridge := by
  unfold PartsWith at h
  split at h
  · exact h.1 ▸ hcall
  · exact h.1 ▸ hcall
  · exact h.elim

/-- **Only the owner moves a token.** A token that has left the hands of its
owner was passed on or sent by that owner; or it belonged to the bridge
and was deposited, and the turn has ended the deposit and was about the
very channel of it. A token is destroyed only if its owner sends it over the
channel over which its class has arrived, so never if its class is one of
this chain. Its metadata never changes. -/
theorem Turn.leaves_only_by_owner (hturn : turn.call.NotBy bridge)
    (ht : (storeAfter bridge past).token? classId tokenId = some ⟨owner, uri⟩) :
    let s := storeAfter bridge past
    let u := turn.after bridge s
    ((u.token? classId tokenId).map (·.owner) ≠ some owner →
        owner ≠ bridge ∧ turn.call.PartsWith owner classId tokenId
          ∨ owner = bridge ∧ ∃ deposit, s.deposit? classId tokenId = some deposit
            ∧ u.deposit? classId tokenId = none ∧ turn.call.channel? = some deposit.channel)
      ∧ (u.token? classId tokenId = none →
        ∃ order c, turn.call = .command owner (.send order) ∧ order.classId = classId
          ∧ tokenId ∈ order.tokenIds ∧ s.class? classId = some c
          ∧ c.origin = .wrapped order.channel)
      ∧ (∀ c, s.class? classId = some c → c.origin = .native → u.token? classId tokenId ≠ none)
      ∧ ∀ token, u.token? classId tokenId = some token → token.uri = uri := by
  intro s u
  have hcases := turn.stays_or_leaves bridge (sound_after past) ht
  refine ⟨fun hleft => ?_, fun hnone => ?_, fun c hc hnative hnone => ?_, fun token htoken => ?_⟩
  · obtain ⟨owner', ht', rfl | hparts | hgiven⟩ | ⟨-, hparts, -⟩ := hcases
    · rw [show u.token? classId tokenId = _ from ht'] at hleft
      exact absurd rfl hleft
    · exact .inl ⟨hparts.ne_bridge hturn, hparts⟩
    · exact .inr hgiven
    · exact .inl ⟨hparts.ne_bridge hturn, hparts⟩
  · obtain ⟨owner', ht', -⟩ | ⟨-, -, hdestroyed⟩ := hcases
    · cases hnone.symm.trans ht'
    · exact hdestroyed
  · obtain ⟨owner', ht', -⟩ | ⟨-, -, order, c', -, -, -, hc', hw⟩ := hcases
    · cases hnone.symm.trans ht'
    · obtain rfl : c = c' := Option.some.inj (hc.symm.trans hc')
      rw [hnative] at hw
      cases hw
  · obtain ⟨owner', ht', -⟩ | ⟨hnone, -⟩ := hcases
    · obtain rfl := Option.some.inj (ht'.symm.trans htoken)
      rfl
    · cases hnone.symm.trans htoken

/-- The token of the first voyage comes back from the bridge when its packet
is timed out, since it was deposited for the channel of the packet. -/
theorem Turn.leaves_only_by_owner_firstVoyage :
    let s := storeAfter harbor firstVoyage
    let u := Turn.after harbor ⟨5, .timedOut firstPacket⟩ s
    ∃ deposit, s.deposit? "art" "moon" = some deposit ∧ u.deposit? "art" "moon" = none
      ∧ some "channel-0" = some deposit.channel := by
  intro s u
  have ht : s.token? "art" "moon" = some ⟨harbor, some "ipfs://moon"⟩ := by decide +kernel
  have hleft : (u.token? "art" "moon").map (·.owner) ≠ some harbor := by decide +kernel
  have hnot : (⟨5, .timedOut firstPacket⟩ : Turn).call.NotBy harbor := by decide
  obtain ⟨hmoved, -⟩ := Turn.leaves_only_by_owner hnot ht
  obtain ⟨hne, -⟩ | ⟨-, h⟩ := hmoved hleft
  · exact absurd rfl hne
  · exact h

end

end TokenBridge
