import TokenBridge.Proofs.Invariants

/-!
# What stands behind a deposit

A deposit is a promise: the bridge has the token, and it will hand it out
over one channel. This module shows what the promise rests on. Behind every
deposit there is the token, in the hands of the bridge; a class that has not
come over that channel; and a packet over that channel that deposited the
token and has not been refunded (`Deposit.Backed`).

The packet is the difficult part, since nothing ties a deposit to it but the
channel and the token. A token may be deposited, come home, and be deposited
again while the first packet is still pending, and if that one is refunded
it takes the deposit that the second has made. So the packet that stands
behind a deposit may not be the one that takes it away. What holds all the
same is that no packet is refunded and leaves a deposit of its tokens, since
a refund releases all of them (`Documented.of_does`).

As the tokens are there, a deposit that is found can be released, in the
midst of a call as well (`Held.release`, `Held.fails_release`), and no token
that somebody else has is deposited already (`Held.not_fails_run`).
-/

namespace TokenBridge

open Program Store

variable {bridge : Address} {s u m : Store Entry} {d : Deed} {classId tokenId channel : String}
  {deposit : Deposit}

/-! ## Packets behind deposits -/

/-- **Whether a packet accounts for a deposit**: the one who made the deposit
has sent the token in it, the token was deposited for that, and the packet
has not been refunded. -/
def Shipment.AccountsFor (p : Shipment) (deposit : Deposit) : Prop :=
  p.custody = .escrowed ∧ p.classId = deposit.classId ∧ deposit.tokenId ∈ p.tokenIds
    ∧ p.sender = deposit.depositor ∧ (p.status = .pending ∨ p.status = .committed)

/-- **Whether deposits are documented**: each says of which token it is, and
there is a packet on its channel that accounts for it. -/
def Documented (s : Store Entry) : Prop :=
  ∀ classId tokenId deposit, s.deposit? classId tokenId = some deposit →
    deposit.classId = classId ∧ deposit.tokenId = tokenId
      ∧ ∃ n p, s.shipment? deposit.channel n = some p ∧ p.AccountsFor deposit

namespace Documented

theorem empty : Documented .empty := by
  intro classId tokenId deposit h
  simp at h

/-- **Every deed keeps the deposits documented.** -/
theorem of_does (h : d.Does bridge s u) (hsound : Sound s) (hs : Documented s) :
    Documented u := by
  intro classId tokenId deposit hdep
  obtain hold | ⟨p, rfl, hescrowed, rfl, hmem, rfl⟩ := h.deposit?_of_some hdep
  · obtain ⟨rfl, rfl, n, p, hp, haccounts⟩ := hs _ _ _ hold
    refine ⟨rfl, rfl, n, ?_⟩
    obtain hu | ⟨-, status, hresolves, hu⟩ := hsound.shipment?_of_some h hp
    · exact ⟨p, hu, haccounts⟩
    obtain ⟨hescrowed, hclass, hmem, hsender, -⟩ := haccounts
    obtain ⟨rfl, -⟩ | ⟨-, rfl⟩ := hresolves
    · exact ⟨_, hu, hescrowed, hclass, hmem, hsender, .inr rfl⟩
    -- if the packet were refunded, its token would be deposited no more
    · have hmoves := h.moves (show p.Restores deposit.classId deposit.tokenId
        from ⟨hclass, .inl ⟨hescrowed, hmem⟩⟩)
      obtain ⟨-, uri, deposit', -, -, hafter⟩ | ⟨hburned, -⟩ := hmoves
      · cases (congrArg Prod.snd hafter).symm.trans hdep
      · rw [hescrowed] at hburned
        cases hburned
  · exact ⟨rfl, rfl, p.sequence, p, h.shipment?_of_sent, hescrowed, rfl, hmem, rfl, .inl h.1⟩

end Documented

/-- **The deposits of a bridge are documented.** -/
theorem documented_after (past : List Turn) : Documented (storeAfter bridge past) := by
  -- to follow the packets the store has to be sound in the midst of a call as well
  suffices h : Sound (storeAfter bridge past) ∧ Documented (storeAfter bridge past) from h.2
  induction past with
  | nil => exact ⟨.empty, .empty⟩
  | cons turn past ih =>
    refine turn.keeps (P := fun s => Sound s ∧ Documented s) ?_ ih
    exact fun h _ hs => ⟨hs.1.of_does h, hs.2.of_does h hs.1⟩

/-! ## What a deposit is backed by -/

/-- **What a deposit is backed by**, in a store in which it is kept under a
token of a class. -/
structure Deposit.Backed (bridge : Address) (s : Store Entry) (classId tokenId : String)
    (deposit : Deposit) : Prop where
  /-- It says of which token it is. -/
  about : deposit.classId = classId ∧ deposit.tokenId = tokenId
  /-- The token exists and is in the hands of the bridge. -/
  held : ∃ uri, s.token? classId tokenId = some ⟨bridge, uri⟩
  /-- The class is known and has not come over the channel of the
  deposit. -/
  foreign : ∃ c, s.class? classId = some c ∧ c.origin ≠ .wrapped deposit.channel
  /-- The channel is known. -/
  connected : ∃ channel, s.channel? deposit.channel = some channel
  /-- A packet on the channel accounts for the deposit. -/
  documented : ∃ n p, s.shipment? deposit.channel n = some p ∧ p.AccountsFor deposit

/-- A deposit that is documented is backed, if what is deposited is in the
hands of the bridge. -/
theorem Documented.backed (hs : Documented s) (hsound : Sound s) (hheld : Held bridge s)
    (hdep : s.deposit? classId tokenId = some deposit) :
    deposit.Backed bridge s classId tokenId := by
  obtain ⟨rfl, rfl, n, p, hp, haccounts⟩ := hs _ _ _ hdep
  obtain ⟨channel, hc, -⟩ := hsound.numbered hp
  obtain ⟨c, hclass, hcustody⟩ := hsound.custody hp
  refine ⟨⟨rfl, rfl⟩, hheld _ _ _ hdep, ⟨c, haccounts.2.1 ▸ hclass, ?_⟩, ⟨channel, hc⟩,
    n, p, hp, haccounts⟩
  rw [← (hsound.filed hp).1]
  exact SendOrder.custodyOf_eq_escrowed_iff.mp (hcustody.symm.trans haccounts.1)

/-! ## Deposits that are released -/

namespace Held

/-- **A deposit that is found is released**, whoever is to have the token. -/
theorem release (hs : Held bridge s) (hdep : s.deposit? classId tokenId = some deposit)
    (recipient : Address) :
    ∃ u, (Deposit.release bridge classId tokenId deposit.channel recipient).Yields s deposit u := by
  obtain ⟨uri, ht⟩ := hs _ _ _ hdep
  exact ⟨_, Deposit.yields_release.mpr ⟨hdep, rfl, _, ht, rfl, rfl⟩⟩

/-- A store in which a token has moved still has in its hands what is
deposited, if the token is not deposited or in the hands of the bridge. -/
theorem of_changedOnly (hs : Held bridge s)
    (h : ChangedOnly (fun k => k = .token classId tokenId ∨ k = .deposit classId tokenId) s u)
    (hmoved : u.deposit? classId tokenId = none
      ∨ ∃ uri, u.token? classId tokenId = some ⟨bridge, uri⟩) :
    Held bridge u := by
  intro classId' tokenId' deposit hdep
  by_cases heq : classId' = classId ∧ tokenId' = tokenId
  · obtain ⟨rfl, rfl⟩ := heq
    obtain hnone | hheld := hmoved
    · cases hnone.symm.trans hdep
    · exact hheld
  · have hstays : u.whereabouts classId' tokenId' = s.whereabouts classId' tokenId' :=
      whereabouts_of_changedOnly h (by simpa using heq) (by simpa using heq)
    obtain ⟨ht, hd⟩ := Prod.mk.inj hstays
    rw [ht]
    exact hs _ _ _ (hd ▸ hdep)

/-- Releasing a token leaves what is deposited in the hands of the bridge. -/
theorem of_yields_release {recipient : Address} (hs : Held bridge s)
    (h : (Deposit.release bridge classId tokenId channel recipient).Yields s deposit u) :
    Held bridge u := by
  have hreleased := Released.cons h .nil
  exact hs.of_changedOnly (hreleased.rest.mono (by simp))
    (.inl (hreleased.cleared _ List.mem_cons_self))

/-- **A loop that releases tokens fails only at a token for which no deposit
is found**, be it that there is none for the channel or that its key is too
long to be looked up. -/
theorem fails_release {recipient : Address} {tokenIds : List String} {e : Failure Fault}
    (hs : Held bridge s)
    (h : (forM tokenIds fun tokenId => do
      let _ ← Deposit.release bridge classId tokenId channel recipient).Fails s e u) :
    ∃ tokenId ∈ tokenIds, e = .error (.notDeposited classId tokenId channel)
      ∨ ¬ (Key.deposit classId tokenId).Fits ∧ e = .abort .longKey := by
  obtain ⟨tokenId, hmem, m, hm, hfails⟩ := exists_fails_of_forM (P := Held bridge)
    (fun tokenId s u h hs => by
      simp only [yields_bind, yields_pure] at h
      obtain ⟨deposit, _, h, -, rfl⟩ := h
      exact hs.of_yields_release h) h hs
  simp only [fails_bind, fails_pure, and_false, exists_false, or_false] at hfails
  cases hfound : (m.deposit? classId tokenId).filter (·.channel = channel) with
  | some deposit =>
    obtain ⟨hdep, hc⟩ := Option.filter_eq_some_iff.mp hfound
    obtain ⟨u', hu'⟩ := hm.release hdep recipient
    rw [of_decide_eq_true hc] at hu'
    exact absurd hfails hu'.not_fails
  | none =>
    rw [Deposit.release, fails_bind, Table.fails_find?] at hfails
    refine ⟨tokenId, hmem, ?_⟩
    obtain ⟨hk, rfl, -⟩ | ⟨_, _, hfind, hrest⟩ := hfails
    · exact .inr ⟨hk, rfl⟩
    · obtain ⟨-, rfl, rfl⟩ := Table.yields_find?.mp hfind
      rw [hfound] at hrest
      obtain ⟨-, rfl, -⟩ | ⟨_, _, h, -⟩ := fails_bind.mp hrest |>.imp_left fails_ofOption.mp
      · exact .inl rfl
      · cases (yields_ofOption.mp h).1

/-! ## Deposits that are made -/

/-- Taking a token from one of the others leaves what is deposited in the
hands of the bridge. -/
theorem of_yields_surrender {custody : Custody} {owner : Address} {token : Token}
    (hs : Held bridge s) (ho : owner ≠ bridge)
    (h : (SendOrder.surrender bridge custody classId channel owner tokenId).Yields s token u) :
    Held bridge u := by
  have hloop : ([tokenId].mapM (SendOrder.surrender bridge custody classId channel owner)).Yields
      s [token] u :=
    yields_mapM_cons.mpr ⟨token, u, h, [], by simp⟩
  have htaken : Surrendered bridge custody classId channel owner [tokenId] [token.uri] s u :=
    .of_yields hloop
  have hrest : ChangedOnly (fun k => k = .token classId tokenId ∨ k = .deposit classId tokenId)
      s u :=
    htaken.rest.mono (by simp)
  refine hs.of_changedOnly hrest ?_
  obtain ⟨uri, -, ht, ⟨-, -, hafter⟩ | ⟨-, hafter⟩⟩ := htaken.whereabouts List.mem_cons_self
  · exact .inr ⟨uri, congrArg Prod.fst hafter⟩
  -- a token that is burned was in other hands, so it was not deposited
  · exact .inl ((congrArg Prod.snd hafter).trans (hs.deposit?_eq_none_of_other ht ho))

/-- **A token that one of the others has is not deposited already.** -/
theorem not_fails_surrender {custody : Custody} {owner : Address} (hs : Held bridge s)
    (ho : owner ≠ bridge) {classId' tokenId' : String} :
    ¬ (SendOrder.surrender bridge custody classId channel owner tokenId).Fails s
      (.error (.alreadyDeposited classId' tokenId')) u := by
  have notFails_findOwned {account : Address} {s u : Store Entry} :
      ¬ (Token.findOwned classId tokenId account).Fails s
        (.error (.alreadyDeposited classId' tokenId')) u := by
    simp only [Token.findOwned, Token.find, fails_bind, fails_guard, Table.fails_find, fails_pure]
    simp
  intro h
  rw [SendOrder.surrender, fails_bind] at h
  obtain h | ⟨token, _, hfound, h⟩ := h
  · exact notFails_findOwned h
  obtain ⟨ht, ho', rfl⟩ := Token.yields_findOwned.mp hfound
  cases custody with
  | escrowed =>
    simp only [fails_bind, fails_pure, Deposit.make, fails_guard, Token.transfer,
      Table.fails_has, Table.yields_has, Table.fails_put, notFails_findOwned, Failure.error.injEq,
      reduceCtorEq, and_false, false_and, exists_false, or_false, false_or] at h
    obtain ⟨_, _, ⟨-, rfl, rfl⟩, hsome, -⟩ := h
    have hnone := hs.deposit?_eq_none_of_other ht (ho' ▸ ho)
    simp [hnone] at hsome
  | burned => simp [Token.burn, Token.find] at h

end Held

/-- Tokens that are not distinct are refused because one of them is given
twice. -/
theorem SendOrder.checkDistinct_eq_error {seen tokenIds : List String} {fault : Fault}
    (h : checkDistinct seen tokenIds = .error fault) :
    ∃ tokenId, fault = .duplicateToken tokenId := by
  induction tokenIds generalizing seen with
  | nil => cases h
  | cons tokenId rest ih =>
    rw [checkDistinct] at h
    split at h
    · exact ⟨tokenId, (Except.error.inj h).symm⟩
    · exact ih h

/-- **No one but the bridge is told that a token is deposited already** when
sending tokens. -/
theorem Held.not_fails_run {context : Context} {sender : Address} {order : SendOrder}
    (hs : Held context.bridge s) (hsender : sender ≠ context.bridge) :
    ¬ (order.run context sender).Fails s (.error (.alreadyDeposited classId tokenId)) u := by
  -- what comes before and after the tokens are taken fails for other reasons
  have hload {s u : Store Entry} :
      ¬ Settings.load.Fails s (.error (.alreadyDeposited classId tokenId)) u := by
    simp [Settings.load]
  have hopen {s u : Store Entry} : ¬ (Channel.findOpen order.channel).Fails s
      (.error (.alreadyDeposited classId tokenId)) u := by
    simp only [Channel.findOpen, Channel.find, fails_bind, Table.fails_find]
    rintro (h | ⟨channel, _, -, h⟩)
    · simp at h
    · split at h <;> simp at h
  have htokens {s u : Store Entry} : ¬ (ofExcept (SendOrder.checkTokens order.tokenIds)).Fails s
      (.error (.alreadyDeposited classId tokenId)) u := by
    rw [SendOrder.checkTokens]
    split
    · simp
    · intro h
      obtain ⟨fault, hfault, heq, -⟩ := fails_ofExcept.mp h
      obtain ⟨_, rfl⟩ := SendOrder.checkDistinct_eq_error hfault
      cases heq
  have htimeout {seconds : UInt64} {s u : Store Entry} :
      ¬ (ofExcept (checkTimeout seconds)).Fails s
        (.error (.alreadyDeposited classId tokenId)) u := by
    rw [checkTimeout]
    split <;> simp
  have hclass {s u : Store Entry} : ¬ (TokenClass.find order.classId).Fails s
      (.error (.alreadyDeposited classId tokenId)) u := by
    simp [TokenClass.find]
  have hsequence {channel : Channel} {s u : Store Entry} :
      ¬ channel.takeSequence.Fails s (.error (.alreadyDeposited classId tokenId)) u := by
    rw [Channel.takeSequence]
    split <;> simp
  have hdeadline {seconds : UInt64} {s u : Store Entry} :
      ¬ (ofExcept (SendOrder.deadlineAfter context.now seconds)).Fails s
        (.error (.alreadyDeposited classId tokenId)) u := by
    rw [SendOrder.deadlineAfter]
    split <;> simp
  intro h
  simp only [SendOrder.run, fails_bind, fails_guard, fails_pure, Shipment.keep, Shipment.mark,
    Table.fails_put, Settings.yields_load, Channel.yields_findOpen, yields_ofExcept,
    TokenClass.yields_find, hload, hopen, htokens, htimeout, hclass, hsequence, hdeadline,
    Failure.error.injEq, reduceCtorEq, and_false, false_and, exists_false, or_false,
    false_or] at h
  obtain ⟨_, _, ⟨-, rfl⟩, -, _, _, ⟨-, -, rfl⟩, _, _, ⟨-, rfl⟩, _, _, ⟨-, rfl⟩, c, _, ⟨-, rfl⟩,
    hloop⟩ := h
  obtain ⟨_, -, m, hm, hfails⟩ := exists_fails_of_mapM (P := Held context.bridge)
    (fun _ _ _ _ h hs => hs.of_yields_surrender hsender h) hloop hs
  exact hm.not_fails_surrender hsender hfails

/-! ## Deposits of a bridge -/

/-- **What is deposited with a bridge is backed, and can be handed out**,
whatever history the bridge has had, if none of its calls came from its own
account.

Every deposit is backed (`Deposit.Backed`). In every store that is reached in
the course of a call as well, a deposit that is found for a channel is
released to whoever is to have the token, and a loop that releases tokens
fails only at one for which no deposit is found. And no one else who sends
tokens is told that one of them is deposited already. -/
theorem deposits_backed {past : List Turn} (hpast : ∀ turn ∈ past, turn.call.NotBy bridge) :
    (∀ classId tokenId deposit,
        (storeAfter bridge past).deposit? classId tokenId = some deposit →
          deposit.Backed bridge (storeAfter bridge past) classId tokenId)
      ∧ (∀ ds m, (∀ d ∈ ds, d.NotBy bridge) → Path bridge (storeAfter bridge past) ds m →
        (∀ classId tokenId deposit recipient, m.deposit? classId tokenId = some deposit →
          ∃ u, (Deposit.release bridge classId tokenId deposit.channel recipient).Yields m
            deposit u)
        ∧ ∀ classId (tokenIds : List String) channel recipient e u,
          (forM tokenIds fun tokenId => do
            let _ ← Deposit.release bridge classId tokenId channel recipient).Fails m e u →
          ∃ tokenId ∈ tokenIds, e = .error (.notDeposited classId tokenId channel)
            ∨ ¬ (Key.deposit classId tokenId).Fits ∧ e = .abort .longKey)
      ∧ ∀ now account order classId tokenId, account ≠ bridge →
        (Turn.take bridge ⟨now, .command account (.send order)⟩ (storeAfter bridge past)).1
          ≠ .error (.error (.alreadyDeposited classId tokenId)) := by
  have hheld : Held bridge (storeAfter bridge past) := held_after hpast
  refine ⟨fun classId tokenId deposit hdep => ?_, fun ds m hds hpath => ?_, ?_⟩
  · exact (documented_after past).backed (sound_after past) hheld hdep
  · have hm : Held bridge m := hpath.keeps (fun hd h => Held.of_does h (hds _ hd)) hheld
    exact ⟨fun classId tokenId deposit recipient hdep => hm.release hdep recipient,
      fun classId tokenIds channel recipient e u h => hm.fails_release h⟩
  · intro now account order classId tokenId haccount h
    obtain ⟨⟨m, hfails⟩, -⟩ := Turn.take_eq_error_iff.mp (Prod.ext h rfl)
    simp only [Call.perform, Command.carryOut, Command.sendFor, fails_map, fails_bind, fails_pure,
      and_false, exists_false, or_false] at hfails
    exact Held.not_fails_run hheld haccount hfails

/-- The moon that Alice has sent is backed by her packet, and would be released
to Bob; and Bob is not told that it is deposited already. -/
theorem deposits_backed_firstVoyage :
    (∀ turn ∈ firstVoyage, turn.call.NotBy harbor)
      ∧ (⟨"art", "moon", "channel-0", "alice"⟩ : Deposit).Backed harbor
        (storeAfter harbor firstVoyage) "art" "moon"
      ∧ (∃ deposit u, (Deposit.release harbor "art" "moon" "channel-0" "bob").Yields
        (storeAfter harbor firstVoyage) deposit u)
      ∧ (Turn.take harbor ⟨5, .command "bob" (.send ⟨"art", ["moon"], "bob", "channel-0", none⟩)⟩
        (storeAfter harbor firstVoyage)).1 ≠ .error (.error (.alreadyDeposited "art" "moon")) := by
  have hnotBy : ∀ turn ∈ firstVoyage, turn.call.NotBy harbor := by decide
  have hdep : (storeAfter harbor firstVoyage).deposit? "art" "moon"
      = some ⟨"art", "moon", "channel-0", "alice"⟩ := by decide +kernel
  obtain ⟨hbacked, hreleased, hsend⟩ := deposits_backed hnotBy
  exact ⟨hnotBy, hbacked _ _ _ hdep, ⟨_, (hreleased [] _ (by simp) .nil).1 _ _ _ "bob" hdep⟩,
    hsend _ _ _ _ _ (by decide)⟩

end TokenBridge
