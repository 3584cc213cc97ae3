import Mathlib.Data.List.Sort
import TokenBridge.Proofs.Draining

/-!
# Closing a channel again

A channel is drained when its close is requested and once more when the close is
confirmed, and in between it can be asked to close any number of times. This module
shows that only the first of these counts: draining again refunds nothing, reports
the same packets as stuck and leaves the store as it is, and the two ways to the
end of a channel, with a request before and without, lead to the same store
(`Channel.close_idempotent`).

A packet that is stuck is tried once, over the store as it is when its turn comes,
and the refunds of the packets after it change that store. What is not routine is
that none of them frees it. A refund takes a token out of the hands of the bridge or
makes one, while a packet is stuck because a token is not deposited, or because one
is there (`Shipment.Stranded.of_does`). Only a send could bring a token back to
where a packet has left it, and draining sends nothing.
-/

namespace TokenBridge

open Program Store

variable {bridge : Address} {s u : Store Entry} {d : Deed} {id : String} {n : UInt64}
  {p : Shipment}

/-- **A packet that cannot be refunded stays so**, as long as nothing is sent. -/
theorem Shipment.Stranded.of_does (h : p.Stranded s) (hdoes : d.Does bridge s u)
    (hd : ¬ d.IsSend) : p.Stranded u := by
  obtain ⟨tokenId, hmem, hnot⟩ := h
  exact ⟨tokenId, hmem, fun hu => hnot ((hdoes.spares hd _ _).keeps hu)⟩

namespace Drains

variable {sequences : List UInt64} {drained : Drained}

/-- **A packet that is stuck stays stuck** after the refunds that come later. -/
theorem stranded_of_mem (h : Drains bridge id s sequences drained u) (hs : Orderly bridge s)
    (hnodup : sequences.Nodup) (hn : n ∈ drained.stuck) :
    ∃ p, u.shipment? id n = some p ∧ p.Stranded u := by
  induction h with
  | nil => cases hn
  | refunded _ _ _ does _ ih =>
    exact ih (hs.of_does does trivial) (List.nodup_cons.mp hnodup).2 hn
  | @stuck s u n' rest p drained found stranded others ih =>
    obtain ⟨hnot, hnodup⟩ := List.nodup_cons.mp hnodup
    rcases List.mem_cons.mp hn with rfl | hn
    · have hunrefunded : n ∉ drained.refunded := fun hmem => hnot (others.sublists.1.subset hmem)
      refine ⟨p, (others.shipment?_of_notMem hs hunrefunded).trans found, ?_⟩
      exact others.keeps (P := p.Stranded) (fun hdoes hm => hm.of_does hdoes not_false) stranded
    · exact ih hs hnodup hn

/-- **Draining packets that are all stranded does nothing** but report them. -/
theorem of_stranded (h : Drains bridge id s sequences drained u)
    (hstranded : ∀ n ∈ sequences, ∃ p, s.shipment? id n = some p ∧ p.Stranded s) :
    drained = ⟨[], sequences⟩ ∧ u = s := by
  induction h with
  | nil => exact ⟨rfl, rfl⟩
  | refunded found free =>
    obtain ⟨p, hp, hstuck⟩ := hstranded _ List.mem_cons_self
    obtain rfl := Option.some.inj (hp.symm.trans found)
    exact absurd hstuck free
  | stuck _ _ _ ih =>
    obtain ⟨rfl, rfl⟩ := ih fun n hn => hstranded n (List.mem_cons_of_mem _ hn)
    exact ⟨rfl, rfl⟩

/-- **What is drained again is what was stuck**, and nothing comes of it. -/
theorem again {sequences' : List UInt64} {drained' : Drained} {u' : Store Entry}
    (h : Drains bridge id s sequences drained u) (hs : Orderly bridge s)
    (hmem : ∀ n, n ∈ sequences ↔ s.look (.pending id n) ≠ none)
    (hsorted : sequences.Pairwise (· < ·)) (h' : Drains bridge id u sequences' drained' u')
    (hmem' : ∀ n, n ∈ sequences' ↔ u.look (.pending id n) ≠ none)
    (hsorted' : sequences'.Pairwise (· < ·)) :
    drained' = ⟨[], drained.stuck⟩ ∧ u' = u := by
  have hnodup : sequences.Nodup := hsorted.imp UInt64.ne_of_lt
  obtain rfl : sequences' = drained.stuck :=
    hsorted'.eq_of_mem_iff (hsorted.sublist h.sublists.2)
      fun n => (hmem' n).trans (h.look_pending_iff hs hmem hnodup)
  exact h'.of_stranded fun n hn => h.stranded_of_mem hs hnodup hn

end Drains

/-- **Repeated closing is idempotent, and both ways to close a channel agree.** Take
a store that a bridge which is not called by itself has come to, and a channel in it
that is not closed. The request to close the channel is answered. The same request
directly after it refunds nothing, reports the same packets as stuck and changes
nothing; for the refund of each of them still fails. And to confirm the close leaves
the same store after the request as without it, where what is refunded by the request
is all that is refunded, and the same packets are stuck. -/
theorem Channel.close_idempotent {past : List Turn} {channel : Channel}
    (hpast : ∀ turn ∈ past, turn.call.NotBy bridge)
    (hc : (storeAfter bridge past).channel? id = some channel) (hphase : channel.phase ≠ .closed)
    (hid : (Bytes.ofText id).length < UInt16.size) :
    ∃ drained m u, (requestClose bridge id).Yields (storeAfter bridge past) drained m
      ∧ (requestClose bridge id).Yields m ⟨[], drained.stuck⟩ m
      ∧ (∀ n ∈ drained.stuck, ∃ p fault rest, m.shipment? id n = some p
        ∧ (p.settle bridge .failed).Fails m (.error fault) rest)
      ∧ (confirmClose bridge id).Yields (storeAfter bridge past) drained u
      ∧ (confirmClose bridge id).Yields m ⟨[], drained.stuck⟩ u := by
  have hs := orderly_after hpast
  obtain ⟨sequences, drained, m, hrequest, hs', hdrains, hmem, hsorted, hm⟩ :=
    exists_requestClose hs hc hphase hid
  have horderly : Orderly bridge m := hdrains.orderly hs'
  obtain ⟨sequences', drained', u', hagain, -, hdrains', hmem', hsorted', -⟩ :=
    exists_requestClose horderly hm (by simp [beingClosed]) hid
  -- the channel has entered the phase in which it is now before it was drained
  have hkept : m.keep (.channel id) (.channel channel.beingClosed.beingClosed) = m :=
    keep_of_look (channel?_eq_some_iff.mp hm)
  rw [hkept] at hdrains' hmem'
  obtain ⟨hdrained, hsame⟩ := hdrains.again hs' hmem hsorted hdrains' hmem' hsorted'
  rw [hdrained, hsame] at hagain
  refine ⟨drained, m, _, hrequest, hagain, fun n hn => ?_,
    yields_confirmClose_of_requestClose hrequest hm (by simp [beingClosed]),
    yields_confirmClose_of_requestClose hagain hm (by simp [beingClosed])⟩
  obtain ⟨p, hp, hstranded⟩ := hdrains.stranded_of_mem hs' (hsorted.imp UInt64.ne_of_lt) hn
  have hmark : m.look (.pending id n) ≠ none :=
    (hdrains.look_pending_iff hs' hmem (hsorted.imp UInt64.ne_of_lt)).mpr hn
  have hpend : p.status = .pending := by
    by_contra hset
    exact hmark (horderly.booked.look_pending_of_settled hp hset)
  obtain ⟨fault, rest, hfails⟩ := Shipment.fails_settle_of_stranded horderly hp hpend hstranded
  exact ⟨p, fault, rest, hp, hfails⟩

/-- After the second voyage the first packet is stuck and the second one is
refunded, and closing the channel again changes neither. -/
theorem Channel.close_idempotent_secondVoyage :
    ∃ m u, (requestClose harbor "channel-0").Yields (storeAfter harbor secondVoyage) ⟨[2], [1]⟩ m
      ∧ (requestClose harbor "channel-0").Yields m ⟨[], [1]⟩ m
      ∧ (confirmClose harbor "channel-0").Yields (storeAfter harbor secondVoyage) ⟨[2], [1]⟩ u
      ∧ (confirmClose harbor "channel-0").Yields m ⟨[], [1]⟩ u := by
  obtain ⟨channel, hc, hphase⟩ : ∃ channel,
      (storeAfter harbor secondVoyage).channel? "channel-0" = some channel
        ∧ channel.phase ≠ .closed :=
    ⟨⟨harborChannel.here, harborChannel.there, "connection-0", .opened, 3⟩, by decide +kernel,
      by decide⟩
  obtain ⟨drained, m, u, hrequest, hagain, -, hconfirm, hafter⟩ :=
    @Channel.close_idempotent harbor "channel-0" secondVoyage channel (by decide) hc hphase
      (by decide +kernel)
  have hdrained : ((requestClose harbor "channel-0").run
      (storeAfter harbor secondVoyage)).1.toOption = some ⟨[2], [1]⟩ := by
    decide +kernel
  rw [show _ = _ from hrequest] at hdrained
  obtain rfl := Option.some.inj hdrained
  exact ⟨m, u, hrequest, hagain, hconfirm, hafter⟩

end TokenBridge
