import TokenBridge.Proofs.Conservation
import TokenBridge.Proofs.Ownership
import TokenBridge.Proofs.Redeeming

/-!
# Genuine failures are refunded

A packet that the other side has refused, or has never got, has failed. If it
is still pending, the call that reports the failure gives its tokens back: the
refund does not find them missing, in other hands or made again, whatever else
has happened on both chains (`Crossing.failures_give_back`).

The reason is where the tokens are. As the other side has not taken them, they
are underway all the time, and so they are at hand on neither side
(`Crossing.Balanced.not_atHand`). On the side of their sender this means that
they are deposited for the channel, or burned, which is all that a refund
needs (`Crossing.Pledged.redeemable`). What it does not tell is the metadata
of a token that is deposited. It is followed from step to step, as long as the
packet is pending and has not been taken (`Crossing.Pledged.of_step`).

To say how a token was when it was sent one needs the states in between, and
so the theorem is about a run (`Crossing.Run`).
-/

namespace TokenBridge

open Program Store

variable {x : Crossing} {net net' : Network} {past : List Network} {side : Side} {n : UInt64}
  {p : Shipment}

namespace Crossing

/-! ## Runs -/

/-- **The run of two bridges**: the states that came before, the latest one
first, and the state that it has come to. -/
inductive Run (x : Crossing) : List Network → Network → Prop
  /-- Nothing has been sent yet. -/
  | start (store : Side → Store Entry) (launched : ∀ side, x.Launched side (store side)) :
    x.Run [] { store, letters := fun _ _ => none, next := fun _ => 1 }
  /-- Something more has happened. -/
  | step {past : List Network} {net net' : Network} (run : x.Run past net)
    (step : x.Step net net') : x.Run (net :: past) net'

theorem Run.reaches (h : x.Run past net) : x.Reaches net := by
  induction h with
  | start store launched => exact .start store launched
  | step _ step ih => exact .step ih step

/-- Every state that can be reached is reached by a run. -/
theorem Reaches.exists_run (h : x.Reaches net) : ∃ past, x.Run past net := by
  induction h with
  | start store launched => exact ⟨[], .start store launched⟩
  | step _ step ih =>
    obtain ⟨past, run⟩ := ih
    exact ⟨_, .step run step⟩

/-! ## What a step does to a side -/

/-- An allowed call does not come from the account of the bridge. -/
theorem Allows.notBy {call : Call} (h : x.Allows side call) : call.NotBy (x.bridge side) := by
  cases call with
  | command account m => exact h.1
  | _ => trivial

theorem store_call {turn : Turn} : (x.call net side turn).store
    = (net.withStore side (turn.after (x.bridge side) (net.store side))).store := by
  unfold call
  cases x.posted? side (turn.take (x.bridge side) (net.store side)).1 <;> rfl

/-- **Whether a store of a side comes from a step**: it is the one that was
there, or what a turn of the others leaves of it. If the turn is a send, the
step is a call of that side. -/
def Turned (x : Crossing) (net net' : Network) (side : Side) (s : Store Entry) : Prop :=
  s = net.store side
    ∨ ∃ turn : Turn, s = turn.after (x.bridge side) (net.store side)
      ∧ turn.call.NotBy (x.bridge side)
      ∧ ((∀ account order, turn.call ≠ .command account (.send order))
        ∨ x.Allows side turn.call ∧ net' = x.call net side turn)

/-- **On either side a step is a turn**, or nothing. -/
theorem Step.turned (h : x.Step net net') (side : Side) :
    x.Turned net net' side (net'.store side) := by
  have reported {side' : Side} {turn : Turn} {net₁ : Network}
      (hturn : turn.call.NotBy (x.bridge side'))
      (hsend : ∀ account order, turn.call ≠ .command account (.send order)) :
      x.Turned net net₁ side
        ((net.withStore side' (turn.after (x.bridge side') (net.store side'))).store side) :=
    Network.forall_withStore (P := x.Turned net net₁) (.inr ⟨turn, rfl, hturn, .inl hsend⟩)
      (.inl rfl) side
  cases h with
  | called side' turn allowed =>
    rw [store_call]
    exact Network.forall_withStore (P := x.Turned net (x.call net side' turn))
      (.inr ⟨turn, rfl, allowed.notBy, .inr ⟨allowed, rfl⟩⟩) (.inl rfl) side
  | delivered side' n data now receipt s travelling taken =>
    rw [← show Turn.after _ _ _ = s from congrArg Prod.snd taken]
    exact reported trivial (by simp)
  | acknowledged side' n data now ack answered => exact reported trivial (by simp)
  | expired => exact .inl rfl
  | timedOut side' n data now late => exact reported trivial (by simp)

/-! ## What a step does to packets -/

namespace Balanced

variable {letter : Letter}

/-- Nothing has been posted yet under the next number. -/
theorem letters_next (h : x.Balanced net) (side : Side) :
    net.letters side (net.next side) = none := by
  cases hletter : net.letters side (net.next side) with
  | none => rfl
  | some letter =>
    obtain ⟨p, data, hp, -⟩ := h.recorded side _ _ hletter
    obtain ⟨channel, hc, hlt⟩ := (h.moored side).sound.numbered hp
    have hnext := h.numbered side
    rw [Store.nextNumber?, hc, Option.map_some] at hnext
    rw [Option.some.inj hnext] at hlt
    exact absurd hlt (UInt64.lt_irrefl _)

/-- **A packet that was posted stays posted**, and its answer stays what it
is. -/
theorem letter_of_step (h : x.Balanced net) (hstep : x.Step net net')
    (hletter : net.letters side n = some letter) :
    ∃ letter', net'.letters side n = some letter'
      ∧ ∀ ack, letter.fate = .answered ack → letter' = letter := by
  -- a packet that travels has no answer yet
  have moved {side' : Side} {n' : UInt64} {data : Bytes} {fate : Fate} {net₁ : Network}
      (hsame : net₁.letters = net.letters)
      (htravelling : net.letters side' n' = some ⟨data, .travelling⟩) :
      ∃ letter', (net₁.withLetter side' n' ⟨data, fate⟩).letters side n = some letter'
        ∧ ∀ ack, letter.fate = .answered ack → letter' = letter := by
    rw [Network.letters_withLetter, hsame]
    split
    · next hand =>
      rw [hand.1, hand.2, htravelling] at hletter
      obtain rfl := Option.some.inj hletter
      exact ⟨_, rfl, fun ack hack => by cases hack⟩
    · exact ⟨letter, hletter, fun _ _ => rfl⟩
  cases hstep with
  | called side' turn allowed =>
    refine ⟨letter, ?_, fun _ _ => rfl⟩
    unfold call
    cases x.posted? side' (turn.take (x.bridge side') (net.store side')).1 with
    | none => exact hletter
    | some data =>
      rw [Network.letters_post, Network.next_withStore, Network.letters_withStore, if_neg]
      · exact hletter
      · rintro ⟨rfl, rfl⟩
        cases hletter.symm.trans (h.letters_next side)
  | delivered side' n' data now receipt s travelling taken => exact moved rfl travelling
  | acknowledged => exact ⟨letter, hletter, fun _ _ => rfl⟩
  | expired side' n' data travelling => exact moved rfl travelling
  | timedOut => exact ⟨letter, hletter, fun _ _ => rfl⟩

/-- A call by which a packet of the channel comes to be known sends it and posts
it. -/
theorem posted_of_call (h : x.Balanced net) {turn : Turn} (allowed : x.Allows side turn.call)
    (hn : (net.store side).shipment? (x.gate side).channel n = none)
    (hp : (turn.after (x.bridge side) (net.store side)).shipment? (x.gate side).channel n
      = some p) :
    (Deed.sent p).Does (x.bridge side) (net.store side)
        (turn.after (x.bridge side) (net.store side))
      ∧ (x.call net side turn).letters side n ≠ none := by
  have hs := h.moored side
  obtain ⟨sent, hposted, hdoes, hchannel, -⟩ | ⟨-, ds, hpath, hds⟩ :=
    posts_or_not allowed (net.store side)
  · obtain ⟨hnext, -, hships⟩ := hdoes.records_of_sent hs.sound hchannel
    rw [hships] at hp
    split at hp
    · next hseq =>
      obtain rfl := Option.some.inj hp
      have hnumber : net.next side = sent.shipment.sequence :=
        Option.some.inj ((h.numbered side).symm.trans hnext)
      refine ⟨hdoes, ?_⟩
      rw [call, hposted, Network.letters_post, Network.next_withStore, hnumber,
        if_pos ⟨rfl, hseq⟩]
      exact Option.some_ne_none _
    · cases hn.symm.trans hp
  · obtain ⟨-, hundisturbed⟩ := hpath.undisturbed (x.plain side) hds hs
    cases hn.symm.trans ((hundisturbed.shipment? n).symm.trans hp)

/-- **A packet of the channel was known before a step**, or the step sends and
posts it. -/
theorem shipment?_of_step (h : x.Balanced net) (hstep : x.Step net net')
    (hp : (net'.store side).shipment? (x.gate side).channel n = some p) :
    (∃ q, (net.store side).shipment? (x.gate side).channel n = some q ∧ Advances q p)
      ∨ ∃ turn, net' = x.call net side turn ∧ turn.sent? (x.bridge side) (net.store side) = some p
        ∧ (Deed.sent p).Does (x.bridge side) (net.store side) (net'.store side)
        ∧ net'.letters side n ≠ none := by
  have hs := (h.moored side).sound
  obtain heq | ⟨turn, hafter, -, hsend⟩ := hstep.turned side
  · rw [heq] at hp
    exact .inl ⟨p, hp, .inl rfl⟩
  rw [hafter] at hp
  cases hq : (net.store side).shipment? (x.gate side).channel n with
  | some q =>
    obtain ⟨q', hq', hadv⟩ := turn.advances hs hq
    obtain rfl := Option.some.inj (hq'.symm.trans hp)
    exact .inl ⟨q, rfl, hadv⟩
  | none =>
    obtain ⟨hsent, -⟩ := turn.sent?_of_shipment? hs hq hp
    obtain hnot | ⟨allowed, rfl⟩ := hsend
    · cases (Turn.sent?_of_not_send hnot).symm.trans hsent
    · rw [hafter]
      exact .inr ⟨turn, rfl, hsent, h.posted_of_call allowed hq hp⟩

end Balanced

/-- **A packet that is pending was sent in the course of the run.** -/
theorem Run.sent (h : x.Run past net)
    (hp : (net.store side).shipment? (x.gate side).channel n = some p)
    (hpend : p.status = .pending) :
    ∃ net₀ turn earlier, (x.call net₀ side turn :: net₀ :: earlier) <:+ (net :: past)
      ∧ turn.sent? (x.bridge side) (net₀.store side) = some p
      ∧ (Deed.sent p).Does (x.bridge side) (net₀.store side)
        ((x.call net₀ side turn).store side) := by
  induction h with
  | start store launched => cases ((launched side).records.2 n).symm.trans hp
  | @step past net net' run step ih =>
    obtain ⟨q, hq, hadv⟩ | ⟨turn, rfl, hsent, hdoes, -⟩ :=
      run.reaches.balanced.shipment?_of_step step hp
    · obtain rfl := hadv.eq_of_pending hpend
      obtain ⟨net₀, turn, earlier, hsuffix, hsent⟩ := ih hq
      exact ⟨net₀, turn, earlier, hsuffix.trans (List.suffix_cons _ _), hsent⟩
    · exact ⟨net, turn, past, List.suffix_rfl, hsent, hdoes⟩

/-! ## Tokens of packets that have failed -/

/-- **Whether a packet has not been settled and not been taken** on the other
side. -/
def Open (x : Crossing) (net : Network) (side : Side) (n : UInt64) (p : Shipment) : Prop :=
  (net.store side).shipment? (x.gate side).channel n = some p ∧ p.status = .pending
    ∧ ∀ data, net.letters side n ≠ some ⟨data, .answered .success⟩

/-- A packet that is open was open before, if it was known. -/
theorem Open.of_step (hopen : x.Open net' side n p) (h : x.Balanced net)
    (hstep : x.Step net net')
    (hp : (net.store side).shipment? (x.gate side).channel n = some p) :
    x.Open net side n p := by
  refine ⟨hp, hopen.2.1, fun data hletter => ?_⟩
  obtain ⟨letter, hletter', hsame⟩ := h.letter_of_step hstep hletter
  rw [hsame _ rfl] at hletter'
  exact hopen.2.2 data hletter'

/-- A token that is not destroyed keeps its metadata. -/
theorem Step.keeps_metadata (h : x.Step net net') (hs : Sound (net.store side))
    {classId tokenId : String} {owner : Address} {uri : Option String}
    (ht : (net.store side).token? classId tokenId = some ⟨owner, uri⟩)
    (hne : (net'.store side).token? classId tokenId ≠ none) :
    ∃ owner', (net'.store side).token? classId tokenId = some ⟨owner', uri⟩ := by
  obtain heq | ⟨turn, hafter, -⟩ := h.turned side
  · exact ⟨owner, by rw [heq, ht]⟩
  rw [hafter] at hne ⊢
  obtain ⟨owner', ht', -⟩ | ⟨hnone, -⟩ := turn.stays_or_leaves (x.bridge side) hs ht
  · exact ⟨owner', ht'⟩
  · exact absurd hnone hne

/-- **What a run keeps for the tokens of a packet** until the packet has been
settled or taken. -/
structure Pledged (x : Crossing) (net : Network) : Prop where
  /-- What is deposited is in the hands of the bridge. -/
  held : ∀ side, Held (x.bridge side) (net.store side)
  /-- A packet that is known was posted. -/
  posted : ∀ {side n p}, (net.store side).shipment? (x.gate side).channel n = some p →
    net.letters side n ≠ none
  /-- A token that is deposited has the metadata that the record of the packet
  tells. -/
  labelled : ∀ {side n p}, x.Open net side n p → p.custody = .escrowed → ∀ y ∈ p.tokens,
    ∃ owner, (net.store side).token? p.classId y.1 = some ⟨owner, y.2⟩

variable {tokenId : String}

/-- **Where a token of an open packet is**: it is deposited for the channel, or
it was burned and is nowhere. -/
theorem Balanced.whereabouts_of_open (h : x.Balanced net)
    (hheld : Held (x.bridge side) (net.store side)) (hopen : x.Open net side n p)
    (hmem : tokenId ∈ p.tokenIds) :
    p.custody = .escrowed
        ∧ (∃ uri deposit, (net.store side).whereabouts p.classId tokenId
            = (some ⟨x.bridge side, uri⟩, some deposit) ∧ deposit.channel = p.channel)
      ∨ p.custody = .burned
        ∧ (net.store side).whereabouts p.classId tokenId = (none, none) := by
  obtain ⟨hp, hpend, hunanswered⟩ := hopen
  have hs := h.moored side
  obtain ⟨hchannel, -⟩ := hs.sound.filed hp
  obtain ⟨c, hc, hcustody⟩ := hs.sound.custody hp
  obtain ⟨classId', hlinked⟩ := h.linked hc
  have hnot := h.not_atHand ⟨p, hp, hpend, rfl, hmem, hunanswered⟩ hlinked side
  rw [Lane.name_of] at hnot
  rw [hchannel] at hcustody ⊢
  cases hkind : p.custody with
  | escrowed =>
    rw [atHand_of_not_brought ((hs.escrowed_iff (x.plain side) hc).mp (hcustody ▸ hkind))] at hnot
    obtain ⟨deposit, hdep, hdeposit⟩ : ∃ deposit,
        (net.store side).deposit? p.classId tokenId = some deposit
          ∧ deposit.channel = (x.gate side).channel := by
      simpa using hnot
    obtain ⟨uri, ht⟩ := hheld _ _ _ hdep
    exact .inl ⟨rfl, uri, deposit, Prod.ext ht hdep, hdeposit⟩
  | burned =>
    rw [atHand_of_brought ((hs.burned_iff (x.plain side) hc).mp (hcustody ▸ hkind)),
      not_not] at hnot
    refine .inr ⟨rfl, Prod.ext hnot (hheld.deposit?_eq_none fun uri ht => ?_)⟩
    cases hnot.symm.trans ht

namespace Pledged

/-- At the start nothing has been sent. -/
theorem of_launched {store : Side → Store Entry} (h : ∀ side, x.Launched side (store side)) :
    x.Pledged { store, letters := fun _ _ => none, next := fun _ => 1 } where
  held side := by
    intro classId tokenId deposit hdep
    cases (congrArg Prod.snd (h side).whereabouts).symm.trans hdep
  posted hp := by cases ((h _).records.2 _).symm.trans hp
  labelled hopen := by cases ((h _).records.2 _).symm.trans hopen.1

/-- **Every step keeps what is kept for the tokens.** -/
theorem of_step (h : x.Pledged net) (hbalanced : x.Balanced net) (hstep : x.Step net net') :
    x.Pledged net' := by
  have hheld (side : Side) : Held (x.bridge side) (net'.store side) := by
    obtain heq | ⟨turn, hafter, hturn, -⟩ := hstep.turned side
    · rw [heq]
      exact h.held side
    · rw [hafter]
      exact Turn.keeps_of_notBy Held.of_does hturn (h.held side)
  refine ⟨hheld, ?_, ?_⟩
  · intro side n p hp
    obtain ⟨q, hq, -⟩ | ⟨turn, -, -, -, hposted⟩ := hbalanced.shipment?_of_step hstep hp
    · obtain ⟨letter, hletter⟩ := Option.ne_none_iff_exists'.mp (h.posted hq)
      obtain ⟨letter', hletter', -⟩ := hbalanced.letter_of_step hstep hletter
      rw [hletter']
      exact Option.some_ne_none _
    · exact hposted
  · intro side n p hopen hcustody y hy
    obtain ⟨hp, hpend, -⟩ := id hopen
    obtain ⟨q, hq, hadv⟩ | ⟨turn, -, -, hdoes, -⟩ := hbalanced.shipment?_of_step hstep hp
    · obtain rfl := hadv.eq_of_pending hpend
      obtain ⟨owner, ht⟩ := h.labelled (hopen.of_step hbalanced hstep hq) hcustody y hy
      refine hstep.keeps_metadata (hbalanced.moored side).sound ht fun hnone => ?_
      -- the token is still deposited, so it was not destroyed
      obtain ⟨-, uri, deposit, hu, -⟩ | ⟨hburned, -⟩ :=
        (hbalanced.of_step hstep).whereabouts_of_open (hheld side) hopen (List.of_mem_zip hy).1
      · cases hnone.symm.trans (congrArg Prod.fst hu)
      · cases hcustody.symm.trans hburned
    · have hmoves := hdoes.moves (show (Deed.sent p).Concerns p.classId y.1
        from ⟨rfl, (List.of_mem_zip hy).1⟩)
      obtain ⟨uri, -, hb, ⟨-, -, ha⟩ | ⟨hburned, -⟩⟩ := hmoves
      · obtain rfl := congrArg Token.uri (Option.some.inj (hb.symm.trans (hdoes.token?_of_sent hy)))
        exact ⟨_, congrArg Prod.fst ha⟩
      · cases hcustody.symm.trans hburned

end Pledged

/-- **Whatever has happened**, it is kept. -/
theorem Reaches.pledged (h : x.Reaches net) : x.Pledged net := by
  induction h with
  | start store launched => exact .of_launched launched
  | step reached step ih => exact ih.of_step reached.balanced step

/-- **An open packet can be refunded.** -/
theorem Pledged.redeemable (h : x.Pledged net) (hbalanced : x.Balanced net)
    (hopen : x.Open net side n p) {s u : Store Entry}
    (hdoes : (Deed.sent p).Does (x.bridge side) s u) :
    p.Redeemable (x.bridge side) (net.store side) where
  nodup := by
    obtain ⟨-, -, -, m, channel, hm, -⟩ := hdoes
    exact hm.nodup
  length_eq := ((hbalanced.moored side).sound.filed hopen.1).2.2
  kept y hy := by
    obtain ⟨hescrowed, uri, deposit, hs, hc⟩ | ⟨hburned, hs⟩ :=
      hbalanced.whereabouts_of_open (h.held side) hopen (List.of_mem_zip hy).1
    · obtain ⟨owner, ht⟩ := h.labelled hopen hescrowed y hy
      cases ht.symm.trans (congrArg Prod.fst hs)
      exact .inl ⟨hescrowed, deposit, hs, hc⟩
    -- what was burned was there when it was sent, so its key fits
    · exact .inr ⟨hburned, Table.fits_of_view (hdoes.token?_of_sent hy), hs⟩

/-! ## A packet that is refused -/

/-- The other side has paused its bridge. -/
def becalmed : Network := strait.call underSail .right ⟨5, .command "admin" .pause⟩

/-- A bridge that is paused refuses what is delivered to it. -/
theorem strait_refuses : ∃ net data message, strait.Reaches net
    ∧ net.store .left = becalmed.store .left
    ∧ net.letters .left 1 = some ⟨data, .answered (.error message)⟩ := by
  have hreaches : strait.Reaches becalmed :=
    .step strait_reaches_underSail (.called .right _ ⟨by decide, by simp⟩)
  have htravelling : (match becalmed.letters .left 1 with
      | some ⟨data, .travelling⟩ =>
        match (Turn.take island ⟨6, .arrived (strait.packet .left 1 data)⟩
          (becalmed.store .right)).1 with
        | .ok (.receipt r) => !r.ack.isSuccess
        | _ => false
      | _ => false) = true := by
    decide +kernel
  split at htravelling
  · next data hletter =>
    split at htravelling
    · next receipt hanswer =>
      have hstep : strait.Step becalmed _ :=
        .delivered .left 1 data 6 receipt _ hletter (Prod.ext hanswer rfl)
      rcases hack : receipt.ack with _ | message
      · rw [hack] at htravelling
        cases htravelling
      · refine ⟨_, data, message, hreaches.step hstep, rfl, ?_⟩
        rw [Network.letters_withLetter, if_pos ⟨rfl, rfl⟩, hack]
    · cases htravelling
  · cases htravelling

/-! ## Failures -/

/-- **Genuine failures are refunded.** Take a run of two bridges and a packet
that is pending on one side. It was sent in the course of the run and posted.
If the other side has answered it with an error, then the call that brings
the answer gives its tokens back, and if the other side has not got it, so does
the call that reports this: the call is answered, the packet is refunded, and
each token is in the hands of the one who sent it, with the metadata that it
had then, and not deposited. -/
theorem failures_give_back (h : x.Run past net)
    (hp : (net.store side).shipment? (x.gate side).channel n = some p)
    (hpend : p.status = .pending) :
    ∃ net₀ turn earlier data fate,
      (x.call net₀ side turn :: net₀ :: earlier) <:+ (net :: past)
        ∧ turn.sent? (x.bridge side) (net₀.store side) = some p
        ∧ net.letters side n = some ⟨data, fate⟩
        ∧ (∀ message now, fate = .answered (.error message) →
          Turn.GivesBack (x.bridge side)
            ⟨now, .acknowledged (x.packet side n data) (Ack.error message).encode⟩
            (net₀.store side) (net.store side) p)
        ∧ ∀ now, (∀ ack, fate ≠ .answered ack) →
          Turn.GivesBack (x.bridge side) ⟨now, .timedOut (x.packet side n data)⟩
            (net₀.store side) (net.store side) p := by
  have hbalanced := h.reaches.balanced
  have hpledged := h.reaches.pledged
  have hs := (hbalanced.moored side).sound
  obtain ⟨net₀, turn, earlier, hsuffix, hsent, hdoes⟩ := h.sent hp hpend
  obtain ⟨⟨data, fate⟩, hletter⟩ := Option.ne_none_iff_exists'.mp (hpledged.posted hp)
  obtain ⟨q, contents, hq, hcontents, hclass, htokens, -⟩ := hbalanced.recorded side n _ hletter
  obtain rfl := Option.some.inj (hq.symm.trans hp)
  have hfound : (net.store side).shipment? (x.packet side n data).source.channel
      (x.packet side n data).sequence = some q := hp
  have hdecode : PacketData.decode (x.packet side n data).data = .ok contents := hcontents
  have hagrees : q.agreesWith contents := by
    simp [Shipment.agreesWith, hclass, htokens]
  have hredeemable (hnot : fate ≠ .answered .success) :
      q.Redeemable (x.bridge side) (net.store side) := by
    refine hpledged.redeemable hbalanced ⟨hp, hpend, fun data' hletter' => hnot ?_⟩ hdoes
    exact congrArg Letter.fate (Option.some.inj (hletter.symm.trans hletter'))
  have hbefore : ∀ y ∈ q.tokens, (net₀.store side).token? q.classId y.1 = some ⟨q.sender, y.2⟩ :=
    fun y hy => hdoes.token?_of_sent hy
  refine ⟨net₀, turn, earlier, data, fate, hsuffix, hsent, hletter, ?_, ?_⟩
  · rintro message now rfl
    refine (hredeemable (by simp)).givesBack_acknowledged hs hfound hpend hdecode hagrees hbefore
      now ?_
    rw [Ack.decodeLenient_encode]
    rfl
  · intro now hnot
    exact (hredeemable (hnot .success)).givesBack_timedOut hs hfound hpend hdecode hagrees
      hbefore now

/-- Alice's packet is underway, so if it is timed out she gets her token back;
and if the other side refuses it, she gets it back as well. -/
theorem failures_give_back_underSail :
    (∃ past net₀ turn earlier data p,
      strait.Run past underSail
        ∧ (underSail.store .left).shipment? "channel-0" 1 = some p ∧ p.status = .pending
        ∧ (strait.call net₀ .left turn :: net₀ :: earlier) <:+ (underSail :: past)
        ∧ turn.sent? harbor (net₀.store .left) = some p
        ∧ underSail.letters .left 1 = some ⟨data, .travelling⟩
        ∧ Turn.GivesBack harbor ⟨7, .timedOut (strait.packet .left 1 data)⟩ (net₀.store .left)
          (underSail.store .left) p)
      ∧ ∃ past net net₀ turn earlier data message p,
        strait.Run past net
          ∧ (net.store .left).shipment? "channel-0" 1 = some p ∧ p.status = .pending
          ∧ (strait.call net₀ .left turn :: net₀ :: earlier) <:+ (net :: past)
          ∧ turn.sent? harbor (net₀.store .left) = some p
          ∧ net.letters .left 1 = some ⟨data, .answered (.error message)⟩
          ∧ Turn.GivesBack harbor
            ⟨7, .acknowledged (strait.packet .left 1 data) (Ack.error message).encode⟩
            (net₀.store .left) (net.store .left) p := by
  constructor
  · have hstatus : ((underSail.store .left).shipment? "channel-0" 1).map (·.status)
        = some .pending := by
      decide +kernel
    have htravelling : (match underSail.letters .left 1 with
        | some ⟨_, .travelling⟩ => true
        | _ => false) = true := by
      decide +kernel
    obtain ⟨p, hp, hpend⟩ := Option.map_eq_some_iff.mp hstatus
    obtain ⟨past, hrun⟩ := strait_reaches_underSail.exists_run
    obtain ⟨net₀, turn, earlier, data, fate, hsuffix, hsent, hletter, -, htimedOut⟩ :=
      failures_give_back hrun hp hpend
    rw [hletter] at htravelling
    cases fate with
    | travelling =>
      exact ⟨past, net₀, turn, earlier, data, p, hrun, hp, hpend, hsuffix, hsent, hletter,
        htimedOut 7 (by simp)⟩
    | answered ack => cases htravelling
    | late => cases htravelling
  · have hstatus : ((becalmed.store .left).shipment? "channel-0" 1).map (·.status)
        = some .pending := by
      decide +kernel
    obtain ⟨net, data, message, hreaches, hstore, hrefused⟩ := strait_refuses
    rw [← hstore] at hstatus
    obtain ⟨p, hp, hpend⟩ := Option.map_eq_some_iff.mp hstatus
    obtain ⟨past, hrun⟩ := hreaches.exists_run
    obtain ⟨net₀, turn, earlier, data', fate, hsuffix, hsent, hletter, hacknowledged, -⟩ :=
      failures_give_back hrun hp hpend
    cases hletter.symm.trans hrefused
    exact ⟨past, net, net₀, turn, earlier, data, message, p, hrun, hp, hpend, hsuffix, hsent,
      hletter, hacknowledged message 7 rfl⟩

end Crossing

end TokenBridge
