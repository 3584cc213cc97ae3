import TokenBridge.Proofs.Framing
import TokenBridge.Proofs.Lifecycle
import TokenBridge.Proofs.Redeeming
import TokenBridge.Proofs.Refunds

/-!
# The close of a channel

No acknowledgement and no timeout can be relied on once a channel goes, so its
close is the last chance of the packets that are still pending on it. It must
not be lost because one of them cannot be refunded. This module shows that it
is not: a close comes to its end, whatever the counterparty has done before,
and it refunds every packet that can be refunded when its turn comes
(`Turn.close_completes`).

A refund is a loop over tokens, and it fails at a token that is not where the
send of the packet has left it (`Shipment.Stranded`). It must fail with an error
then, since a refund that breaks off breaks the whole close off. It does not,
because the class of a token that was ever sent has a name that fits. And what
it has done before it failed must not stay, which is what the transaction
around each refund is for. In the end the store is the one that the refunds
which succeeded would have left by themselves (`Channel.refundAll`), with
another phase of the channel, which no refund looks at.
-/

namespace TokenBridge

open Program Store

variable {bridge : Address} {s m u : Store Entry} {d : Deed} {id : String} {n : UInt64}
  {p : Shipment}

/-! ## Stores that can be drained -/

/-- **What a refund relies on** in the store of a bridge. -/
structure Orderly (bridge : Address) (s : Store Entry) : Prop where
  /-- Packets and channels are as they should be. -/
  sound : Sound s
  /-- The books about packets are in order. -/
  booked : Booked s
  /-- What is deposited is in the hands of the bridge. -/
  held : Held bridge s
  /-- The class of the tokens that were sent has a name that fits. -/
  fitting : ∀ {id n p}, s.shipment? id n = some p →
    (Bytes.ofText p.classId).length < UInt16.size

namespace Orderly

theorem empty : Orderly bridge .empty where
  sound := .empty
  booked := .empty
  held := .empty
  fitting h := by simp at h

/-- **Every deed of the others keeps a store orderly.** -/
theorem of_does (h : d.Does bridge s u) (hd : d.NotBy bridge) (hs : Orderly bridge s) :
    Orderly bridge u where
  sound := hs.sound.of_does h
  booked := hs.booked.of_does h hs.sound
  held := hs.held.of_does h hd
  fitting {id n q} hq := by
    obtain heq | ⟨p, rfl, -, -, -, hu⟩ | ⟨id', n', p, status, -, hp, -, -, -, hu⟩ :=
      h.shipment? id n
    · exact hs.fitting (heq ▸ hq)
    · obtain rfl := Option.some.inj (hu.symm.trans hq)
      -- a token that was sent was there
      have hsent := h
      obtain ⟨-, hne, -, m, channel, hm, -⟩ := hsent
      obtain ⟨tokenId, hmem⟩ := List.exists_mem_of_ne_nil _ hne
      obtain ⟨uri, hx⟩ := exists_mem_zip hm.length_eq hmem
      exact Key.fits_token_iff.mp (Table.fits_of_view (h.token?_of_sent hx))
    · obtain rfl := Option.some.inj (hu.symm.trans hq)
      exact (hs.fitting hp : (Bytes.ofText p.classId).length < UInt16.size)

end Orderly

/-- **The store of a bridge that is not called by itself is orderly.** -/
theorem orderly_after {past : List Turn} (h : ∀ turn ∈ past, turn.call.NotBy bridge) :
    Orderly bridge (storeAfter bridge past) := by
  induction past with
  | nil => exact .empty
  | cons turn past ih =>
    obtain ⟨hturn, hpast⟩ := List.forall_mem_cons.mp h
    exact Turn.keeps_of_notBy Orderly.of_does hturn (ih hpast)

/-! ## A single refund -/

namespace Shipment

/-- **Whether a packet cannot be refunded**: one of its tokens is not where the
send has left it, deposited for the channel or burned. -/
def Stranded (p : Shipment) (s : Store Entry) : Prop :=
  ∃ tokenId ∈ p.tokenIds, ¬ s.Keeps p tokenId

/-- A refund does not break off if the class of the tokens has a name that
fits. -/
theorem not_aborts_refund {cause : Abort} (hfits : (Bytes.ofText p.classId).length < UInt16.size) :
    ¬ (p.refund bridge).Fails s (.abort cause) u := by
  rw [refund]
  split
  · refine not_fails_forM fun tokenId s u h => ?_
    simp only [fails_bind, fails_pure, and_false, exists_false, or_false] at h
    exact Deposit.not_aborts_release (Key.fits_deposit_iff.mpr hfits) h
  · refine not_fails_forM fun x s u h => ?_
    exact (Token.aborts_mint_iff.mp h).1 (Key.fits_token_iff.mpr hfits)

section

variable (hs : Orderly bridge s) (hp : s.shipment? id n = some p)
include hs hp

/-- **A refund comes to its end exactly if each token is where the send has left
it.** -/
theorem exists_refund_iff :
    (∃ u, (p.refund bridge).Yields s () u) ↔ ¬ p.Stranded s := by
  obtain ⟨-, -, hlength⟩ := hs.sound.filed hp
  constructor
  · rintro ⟨u, hu⟩ ⟨tokenId, hmem, hnot⟩
    refine hnot ?_
    have hrestored := restored_of_yields_refund hu
    unfold Restored at hrestored
    unfold Store.Keeps
    cases hcustody : p.custody with
    | escrowed =>
      rw [hcustody] at hrestored
      exact hrestored.deposited tokenId hmem
    | burned =>
      rw [hcustody] at hrestored
      obtain ⟨uri, hx⟩ := exists_mem_zip hlength hmem
      have habsent := hrestored.absent _ hx
      exact habsent
  · intro hnot
    have hkeeps (tokenId : String) (hmem : tokenId ∈ p.tokenIds) : s.Keeps p tokenId :=
      Classical.byContradiction fun h => hnot ⟨tokenId, hmem, h⟩
    unfold Store.Keeps at hkeeps
    unfold refund
    cases hcustody : p.custody with
    | escrowed =>
      refine Released.exists_yields _ (hs.booked.listed hp).2 fun tokenId hmem => ?_
      have hkept := hkeeps tokenId hmem
      rw [hcustody] at hkept
      obtain ⟨deposit, hdeposit, hchannel⟩ := hkept
      obtain ⟨uri, htoken⟩ := hs.held _ _ _ hdeposit
      exact ⟨uri, deposit, htoken, hdeposit, hchannel⟩
    | burned =>
      refine Minted.exists_yields _ ?_ fun x hx => ?_
      · rw [List.map_fst_zip (Nat.le_of_eq hlength)]
        exact (hs.booked.listed hp).2
      · have hkept := hkeeps x.1 (List.of_mem_zip hx).1
        rw [hcustody] at hkept
        exact ⟨Key.fits_token_iff.mpr (hs.fitting hp), hkept⟩

/-- **A packet that is pending is refunded** if it can be. -/
theorem exists_settle_of_not_stranded (hpend : p.status = .pending) (h : ¬ p.Stranded s) :
    ∃ u, (p.settle bridge .failed).Yields s .refunded u
      ∧ (Deed.refunded id n p).Does bridge s u := by
  obtain ⟨hid, hseq, -⟩ := hs.sound.filed hp
  obtain ⟨m, hm⟩ := (exists_refund_iff hs hp).mpr h
  exact exists_settle_of_refund hm hp hid hseq hpend

/-- The refund of a packet that cannot be refunded fails with an error. -/
theorem fails_settle_of_stranded (hpend : p.status = .pending) (h : p.Stranded s) :
    ∃ fault u, (p.settle bridge .failed).Fails s (.error fault) u := by
  obtain ⟨_, u, hu⟩ | ⟨e, u, hu⟩ := yields_or_fails (p.refund bridge) s
  · exact absurd h ((exists_refund_iff hs hp).mp ⟨u, hu⟩)
  · cases e with
    | error fault =>
      refine ⟨fault, u, ?_⟩
      simp only [settle, hpend, Status.after?, if_true, fails_bind]
      exact .inl hu
    | abort cause => exact absurd hu (not_aborts_refund (hs.fitting hp))

/-- Once a packet is refunded, its tokens are in the hands of its sender, and
not deposited. -/
theorem whereabouts_of_refunded (hdoes : (Deed.refunded id n p).Does bridge s u)
    {tokenId : String} (hmem : tokenId ∈ p.tokenIds) :
    ∃ uri, u.whereabouts p.classId tokenId = (some ⟨p.sender, uri⟩, none) := by
  obtain ⟨-, -, hlength⟩ := hs.sound.filed hp
  obtain ⟨uri, hx⟩ := exists_mem_zip hlength hmem
  have hconcerns : p.Restores p.classId tokenId := by
    refine ⟨rfl, ?_⟩
    cases hcustody : p.custody with
    | escrowed => exact .inl ⟨rfl, hmem⟩
    | burned => exact .inr ⟨rfl, uri, hx⟩
  obtain ⟨-, uri, deposit, -, -, ha⟩ | ⟨-, uri, -, hn, ha⟩ := hdoes.moves hconcerns
  · exact ⟨uri, ha⟩
  · -- a token that was not there was not deposited
    have hnone : s.deposit? p.classId tokenId = none :=
      hs.held.deposit?_eq_none fun uri ht => by cases hn.symm.trans ht
    exact ⟨uri, by rw [ha, ← hnone]⟩

end

end Shipment

/-! ## One refund after another -/

/-- **Refunds packets of a channel** one after another, and breaks off at the
first one that cannot be refunded. -/
def Channel.refundAll (bridge : Address) (id : String) (sequences : List UInt64) : Bridge Unit :=
  sequences.forM fun n => do
    let p ← Shipment.find id n
    let _ ← p.settle bridge .failed

/-- **What draining does**, one packet after another: a packet that can be
refunded is, and the others are left alone. -/
inductive Drains (bridge : Address) (id : String) :
    Store Entry → List UInt64 → Drained → Store Entry → Prop
  /-- There is nothing left to do. -/
  | nil {s : Store Entry} : Drains bridge id s [] {} s
  /-- A packet is refunded. -/
  | refunded {s m u : Store Entry} {n : UInt64} {rest : List UInt64} {p : Shipment}
      {drained : Drained} (found : s.shipment? id n = some p) (free : ¬ p.Stranded s)
      (settled : (p.settle bridge .failed).Yields s .refunded m)
      (does : (Deed.refunded id n p).Does bridge s m) (others : Drains bridge id m rest drained u) :
      Drains bridge id s (n :: rest) { drained with refunded := n :: drained.refunded } u
  /-- A packet is stuck. -/
  | stuck {s u : Store Entry} {n : UInt64} {rest : List UInt64} {p : Shipment}
      {drained : Drained} (found : s.shipment? id n = some p) (stranded : p.Stranded s)
      (others : Drains bridge id s rest drained u) :
      Drains bridge id s (n :: rest) { drained with stuck := n :: drained.stuck } u

/-- Whether packets of a channel are pending. -/
def Store.PendingOn (s : Store Entry) (id : String) (sequences : List UInt64) : Prop :=
  ∀ n ∈ sequences, ∃ p, s.shipment? id n = some p ∧ p.status = .pending

/-- A packet that is refunded is the only one of which the record changes. -/
theorem Deed.Does.shipment?_of_refunded (h : (Deed.refunded id n p).Does bridge s u)
    (hs : Sound s) (n' : UInt64) :
    u.shipment? id n' = if n' = n then some { p with status := .refunded }
      else s.shipment? id n' := by
  obtain ⟨hp, -, hk, m, hm, rfl⟩ := h
  obtain ⟨rfl, rfl, -⟩ := hs.filed hp
  rw [shipment?_settled hk]
  split
  · next heq => rw [if_pos heq.2]
  · next hne =>
    rw [if_neg fun heq => hne ⟨rfl, heq⟩]
    exact Table.view_of_changedOnly hm.rest _ (by simp)

/-- The others are still pending once a packet is refunded. -/
theorem Store.PendingOn.of_refunded {rest : List UInt64} (h : s.PendingOn id (n :: rest))
    (hn : n ∉ rest) (hs : Sound s) (hdoes : (Deed.refunded id n p).Does bridge s u) :
    u.PendingOn id rest := by
  intro n' hmem
  rw [hdoes.shipment?_of_refunded hs, if_neg (by rintro rfl; exact hn hmem)]
  exact h n' (List.mem_cons_of_mem _ hmem)

/-- **Draining comes to its end.** -/
theorem Channel.exists_drains {sequences : List UInt64} (hs : Orderly bridge s)
    (hpend : s.PendingOn id sequences) (hnodup : sequences.Nodup) (before : Drained) :
    ∃ drained u, Drains bridge id s sequences drained u
      ∧ (sequences.foldlM (drainOne bridge id) before).Yields s
        ⟨before.refunded ++ drained.refunded, before.stuck ++ drained.stuck⟩ u := by
  induction sequences generalizing s before with
  | nil => exact ⟨{}, s, .nil, yields_foldlM_nil.mpr ⟨by simp, rfl⟩⟩
  | cons n rest ih =>
    obtain ⟨hn, hnodup⟩ := List.nodup_cons.mp hnodup
    obtain ⟨p, hp, hstatus⟩ := hpend n List.mem_cons_self
    have hattempt (r : Except (Failure Fault) Settlement) (m : Store Entry) :
        ((p.settle bridge .failed).transactional.attempt : Bridge _).Yields s r m
          ↔ (p.settle bridge .failed).transactional.run s = (r, m) :=
      yields_attempt (Bridge.accepted _ _)
    by_cases hstranded : p.Stranded s
    · obtain ⟨fault, m, hfails⟩ := Shipment.fails_settle_of_stranded hs hp hstatus hstranded
      obtain ⟨drained, u, hdrains, hrest⟩ := ih hs (fun n' hmem =>
        hpend n' (List.mem_cons_of_mem _ hmem)) hnodup ⟨before.refunded, before.stuck ++ [n]⟩
      have hone : (drainOne bridge id before n).Yields s
          ⟨before.refunded, before.stuck ++ [n]⟩ s := by
        simp only [drainOne, yields_bind, Shipment.yields_find]
        refine ⟨p, s, ⟨hp, rfl⟩, .error (.error fault), s, (hattempt _ _).mpr ?_, ?_⟩
        · exact (fails_transactional (Bridge.accepted _ _)).mpr ⟨⟨m, hfails⟩, rfl⟩
        · exact yields_pure.mpr ⟨rfl, rfl⟩
      refine ⟨_, u, .stuck hp hstranded hdrains, yields_foldlM_cons.mpr ⟨_, s, hone, ?_⟩⟩
      simpa using hrest
    · obtain ⟨m, hsettle, hdoes⟩ :=
        Shipment.exists_settle_of_not_stranded hs hp hstatus hstranded
      obtain ⟨drained, u, hdrains, hrest⟩ := ih (hs.of_does hdoes trivial)
        (hpend.of_refunded hn hs.sound hdoes) hnodup ⟨before.refunded ++ [n], before.stuck⟩
      have hone : (drainOne bridge id before n).Yields s
          ⟨before.refunded ++ [n], before.stuck⟩ m := by
        simp only [drainOne, yields_bind, Shipment.yields_find]
        refine ⟨p, s, ⟨hp, rfl⟩, .ok .refunded, m, (hattempt _ _).mpr ?_, ?_⟩
        · exact (yields_transactional (Bridge.accepted _ _)).mpr hsettle
        · exact yields_pure.mpr ⟨rfl, rfl⟩
      refine ⟨_, u, .refunded hp hstranded hsettle hdoes hdrains,
        yields_foldlM_cons.mpr ⟨_, m, hone, ?_⟩⟩
      simpa using hrest

namespace Drains

variable {sequences : List UInt64} {drained : Drained}

/-- The packets that are refunded, and those that are stuck, are reported in the
order in which they are drained. -/
theorem sublists (h : Drains bridge id s sequences drained u) :
    drained.refunded.Sublist sequences ∧ drained.stuck.Sublist sequences := by
  induction h with
  | nil => exact ⟨.slnil, .slnil⟩
  | refunded _ _ _ _ _ ih => exact ⟨ih.1.cons_cons _, ih.2.cons _⟩
  | stuck _ _ _ ih => exact ⟨ih.1.cons _, ih.2.cons_cons _⟩

/-- **Every packet is reported once**, as refunded or as stuck. -/
theorem perm (h : Drains bridge id s sequences drained u) :
    (drained.refunded ++ drained.stuck).Perm sequences := by
  induction h with
  | nil => exact .refl _
  | refunded _ _ _ _ _ ih => exact ih.cons _
  | stuck _ _ _ ih => exact List.perm_middle.trans (ih.cons _)

/-- **What every refund keeps, draining keeps.** -/
theorem keeps {P : Store Entry → Prop}
    (step : ∀ {s u n p}, (Deed.refunded id n p).Does bridge s u → P s → P u)
    (h : Drains bridge id s sequences drained u) (hs : P s) : P u := by
  induction h with
  | nil => exact hs
  | refunded _ _ _ does _ ih => exact ih (step does hs)
  | stuck _ _ _ ih => exact ih hs

theorem orderly (h : Drains bridge id s sequences drained u) (hs : Orderly bridge s) :
    Orderly bridge u :=
  h.keeps (fun hdoes hm => hm.of_does hdoes trivial) hs

/-- **The packets that are refunded could have been refunded by
themselves.** -/
theorem refundAll (h : Drains bridge id s sequences drained u) :
    (Channel.refundAll bridge id drained.refunded).Yields s () u := by
  induction h with
  | nil => exact yields_pure.mpr ⟨rfl, rfl⟩
  | refunded found _ settled _ _ ih =>
    refine yields_forM_cons.mpr ⟨_, ?_, ih⟩
    simp only [yields_bind, Shipment.yields_find, yields_pure]
    exact ⟨_, _, ⟨found, rfl⟩, _, _, settled, trivial, rfl⟩
  | stuck _ _ _ ih => exact ih

/-- The record of a packet that is not refunded stays. -/
theorem shipment?_of_notMem (h : Drains bridge id s sequences drained u) (hs : Orderly bridge s)
    (hn : n ∉ drained.refunded) : u.shipment? id n = s.shipment? id n := by
  induction h with
  | nil => rfl
  | refunded _ _ _ does _ ih =>
    obtain ⟨hne, hn⟩ := not_or.mp (mt List.mem_cons.mpr hn)
    rw [ih (hs.of_does does trivial) hn, does.shipment?_of_refunded hs.sound, if_neg hne]
  | stuck _ _ _ ih => exact ih hs hn

/-- **A packet that is refunded has given its tokens back**, and no later refund
takes them away again. -/
theorem refunded_of_mem (h : Drains bridge id s sequences drained u) (hs : Orderly bridge s)
    (hn : n ∈ drained.refunded) :
    ∃ p, s.shipment? id n = some p ∧ p.status = .pending
      ∧ u.shipment? id n = some { p with status := .refunded }
      ∧ ∀ tokenId ∈ p.tokenIds, ∃ uri,
        u.whereabouts p.classId tokenId = (some ⟨p.sender, uri⟩, none) := by
  induction h with
  | nil => cases hn
  | @refunded s m u n' rest p drained found _ _ does others ih =>
    have hm : Orderly bridge m := hs.of_does does trivial
    rcases List.mem_cons.mp hn with rfl | hn
    · refine ⟨p, found, does.2.1, ?_, fun tokenId hmem => ?_⟩
      · -- what is refunded is not pending, and so it stays
        refine (others.keeps (P := fun m => Orderly bridge m
          ∧ m.shipment? id n = some { p with status := .refunded }) ?_ ⟨hm, ?_⟩).2
        · intro s u n' p' hdoes hpre
          refine ⟨hpre.1.of_does hdoes trivial, ?_⟩
          obtain hu | ⟨hpend, -⟩ := hpre.1.sound.shipment?_of_some hdoes hpre.2
          · exact hu
          · cases hpend
        · rw [does.shipment?_of_refunded hs.sound, if_pos rfl]
      · obtain ⟨uri, ha⟩ := Shipment.whereabouts_of_refunded hs found does hmem
        exact ⟨uri, others.keeps (fun hdoes hpre => hdoes.stays_released
          (show Deed.SettlesOn id _ from rfl) hpre) ha⟩
    · obtain ⟨q, hq, hpend, hu⟩ := ih hm hn
      refine ⟨q, ?_, hpend, hu⟩
      rw [does.shipment?_of_refunded hs.sound] at hq
      split at hq
      · cases hq
        cases hpend
      · exact hq
  | stuck _ _ _ ih => exact ih hs hn

/-- No packet is reported twice. -/
theorem disjoint (h : Drains bridge id s sequences drained u) (hnodup : sequences.Nodup)
    (hn : n ∈ drained.refunded) : n ∉ drained.stuck := fun hn' =>
  (List.nodup_append.mp (h.perm.nodup_iff.mpr hnodup)).2.2 n hn n hn' rfl

/-- **What is left as pending is what is stuck.** -/
theorem look_pending_iff (h : Drains bridge id s sequences drained u) (hs : Orderly bridge s)
    (hmem : ∀ n, n ∈ sequences ↔ s.look (.pending id n) ≠ none) (hnodup : sequences.Nodup) :
    u.look (.pending id n) ≠ none ↔ n ∈ drained.stuck := by
  have hu : Orderly bridge u := h.orderly hs
  have hreported : n ∈ drained.refunded ∨ n ∈ drained.stuck ↔ s.look (.pending id n) ≠ none := by
    rw [← hmem, ← List.mem_append, h.perm.mem_iff]
  by_cases hn : n ∈ drained.refunded
  · -- what is refunded is neither pending any more nor reported twice
    obtain ⟨p, -, -, hup, -⟩ := h.refunded_of_mem hs hn
    have hmark := hu.booked.look_pending_of_settled hup (by simp)
    exact iff_of_false (fun hne => hne hmark) (h.disjoint hnodup hn)
  · have hmark : u.look (.pending id n) = s.look (.pending id n) := by
      rw [hu.booked.marked, hs.booked.marked, h.shipment?_of_notMem hs hn]
    rw [hmark, ← hreported, or_iff_right hn]

/-- **A packet that is stuck is pending**, and its record stays as it was. -/
theorem stuck_of_mem (h : Drains bridge id s sequences drained u) (hs : Orderly bridge s)
    (hmem : ∀ n, n ∈ sequences ↔ s.look (.pending id n) ≠ none) (hnodup : sequences.Nodup)
    (hn : n ∈ drained.stuck) :
    ∃ p, s.shipment? id n = some p ∧ p.status = .pending ∧ u.shipment? id n = some p := by
  have hnot : n ∉ drained.refunded := fun hn' => h.disjoint hnodup hn' hn
  obtain ⟨p, hp, hpend⟩ :=
    hs.booked.look_pending_ne_none_iff.mp ((hmem n).mp (h.sublists.2.subset hn))
  exact ⟨p, hp, hpend, (h.shipment?_of_notMem hs hnot).trans hp⟩

/-- **A packet is stuck exactly if it cannot be refunded when its turn comes**,
that is, once the packets with smaller numbers are refunded of which that is
reported. -/
theorem stuck_iff (h : Drains bridge id s sequences drained u) (hs : Orderly bridge s)
    (hsorted : sequences.Pairwise (· < ·)) (hn : n ∈ sequences) :
    ∃ m p, (Channel.refundAll bridge id (drained.refunded.filter (· < n))).Yields s () m
      ∧ s.shipment? id n = some p ∧ (n ∈ drained.stuck ↔ p.Stranded m) := by
  -- nothing comes before the first one
  have first {rest reported : List UInt64} {n : UInt64} (hlt : ∀ n' ∈ rest, n < n')
      (hsub : reported.Sublist rest) : n ∉ reported ∧ reported.filter (· < n) = [] := by
    refine ⟨fun hmem => UInt64.lt_irrefl n (hlt n (hsub.subset hmem)), ?_⟩
    refine List.filter_eq_nil_iff.mpr fun n' hmem => ?_
    simpa using UInt64.le_of_lt (hlt n' (hsub.subset hmem))
  induction h with
  | nil => cases hn
  | @refunded s m u n' rest p drained found free settled does others ih =>
    obtain ⟨hlt, hsorted⟩ := List.pairwise_cons.mp hsorted
    rcases List.mem_cons.mp hn with rfl | hmem
    · obtain ⟨hnot, -⟩ := first hlt others.sublists.2
      obtain ⟨-, hnil⟩ := first hlt others.sublists.1
      refine ⟨s, p, ?_, found, iff_of_false hnot free⟩
      simp only [List.filter_cons, UInt64.lt_irrefl, decide_false, Bool.false_eq_true, if_false,
        hnil]
      exact yields_pure.mpr ⟨rfl, rfl⟩
    · have hne : n ≠ n' := by
        rintro rfl
        exact UInt64.lt_irrefl _ (hlt _ hmem)
      obtain ⟨m', q, hrefund, hq, hiff⟩ := ih (hs.of_does does trivial) hsorted hmem
      refine ⟨m', q, ?_, ?_, hiff⟩
      · simp only [List.filter_cons, hlt n hmem, decide_true, if_true]
        refine yields_forM_cons.mpr ⟨m, ?_, hrefund⟩
        simp only [yields_bind, Shipment.yields_find, yields_pure]
        exact ⟨_, _, ⟨found, rfl⟩, _, _, settled, trivial, rfl⟩
      · rwa [does.shipment?_of_refunded hs.sound, if_neg hne] at hq
  | @stuck s u n' rest p drained found stranded others ih =>
    obtain ⟨hlt, hsorted⟩ := List.pairwise_cons.mp hsorted
    rcases List.mem_cons.mp hn with rfl | hmem
    · obtain ⟨-, hnil⟩ := first hlt others.sublists.1
      refine ⟨s, p, ?_, found, iff_of_true List.mem_cons_self stranded⟩
      rw [hnil]
      exact yields_pure.mpr ⟨rfl, rfl⟩
    · have hne : n ≠ n' := by
        rintro rfl
        exact UInt64.lt_irrefl _ (hlt _ hmem)
      obtain ⟨m', q, hrefund, hq, hiff⟩ := ih hs hsorted hmem
      refine ⟨m', q, hrefund, hq, ?_⟩
      rw [List.mem_cons, or_iff_right hne]
      exact hiff

end Drains

/-! ## The close -/

/-- Keeping what is kept already changes nothing. -/
theorem Store.keep_of_look {k : Key} {e : Entry} (h : s.look k = some e) : s.keep k e = s := by
  cases hk : k.encode? with
  | none => simp [keep, hk]
  | some b =>
    simp only [look, hk, Option.bind_some] at h
    refine Store.ext_get? fun key => ?_
    simp only [keep, hk, get?_insert]
    split
    · next heq => rw [heq, h]
    · rfl

/-- **The packets that are pending on a channel can be found** if its name
fits. -/
theorem Table.exists_yields_pendingOn (hid : (Bytes.ofText id).length < UInt16.size) :
    ∃ sequences, (Table.pendingOn id).Yields s sequences s := by
  obtain ⟨lead, hlead⟩ : ∃ lead,
      Key.lead? [Bytes.ofText Space.pending.name, Bytes.ofText id] = some lead := by
    simp [Key.lead?, Key.frame?_of_lt hid, Key.frame?_of_lt (Key.length_name_lt .pending)]
  simp only [Table.pendingOn, Table.scan, hlead, pure_bind, yields_bind, yields_pure]
  exact ⟨_, _, s, rfl, rfl, rfl⟩

namespace Channel

variable {channel : Channel} {drained : Drained}

/-- **Draining a channel comes to its end**, and it drains what is marked as
pending, in ascending order. -/
theorem exists_drain (hs : Orderly bridge s) (hid : (Bytes.ofText id).length < UInt16.size) :
    ∃ sequences drained u, (drain bridge id).Yields s drained u
      ∧ Drains bridge id s sequences drained u
      ∧ (∀ n, n ∈ sequences ↔ s.look (.pending id n) ≠ none)
      ∧ sequences.Pairwise (· < ·) := by
  obtain ⟨sequences, hpending⟩ := Table.exists_yields_pendingOn (s := s) hid
  obtain ⟨hmem, hsorted⟩ := Table.of_yields_pendingOn hs.booked.keyed hpending
  have hpend : s.PendingOn id sequences := by
    intro n hn
    exact hs.booked.look_pending_ne_none_iff.mp ((hmem n).mp hn)
  have hnodup : sequences.Nodup := hsorted.imp UInt64.ne_of_lt
  obtain ⟨drained, u, hdrains, hrun⟩ := exists_drains hs hpend hnodup {}
  refine ⟨sequences, drained, u, ?_, hdrains, hmem, hsorted⟩
  simp only [drain, yields_bind]
  exact ⟨sequences, s, hpending, by simpa using hrun⟩

/-- The phase of a channel is no matter to refunds. -/
theorem yields_refundAll_keep_iff {sequences : List UInt64} {e : Entry} :
    (refundAll bridge id sequences).Yields (s.keep (.channel id) e) () u
      ↔ ∃ m, (refundAll bridge id sequences).Yields s () m ∧ u = m.keep (.channel id) e := by
  refine Bridge.Avoids.yields_keep_iff (Bridge.avoids_forM fun n => ?_)
  have hk : ¬ (Key.channel id).Settling := not_false
  exact .bind (Shipment.avoids_find hk) fun p =>
    .bind (Shipment.avoids_settle hk) fun _ => Bridge.avoids_pure

/-- **What the close of a channel does** that is not closed yet, between the
store `s` before and the store `u` after. -/
structure ClosesWith (bridge : Address) (id : String) (channel : Channel) (s u : Store Entry)
    (drained : Drained) : Prop where
  /-- The packets that are refunded are reported in ascending order, -/
  refunded_ascending : drained.refunded.Pairwise (· < ·)
  /-- and so are those that are stuck. -/
  stuck_ascending : drained.stuck.Pairwise (· < ·)
  /-- No packet is both. -/
  disjoint : ∀ n ∈ drained.refunded, n ∉ drained.stuck
  /-- The packets that are reported are those that were marked as pending. -/
  complete : ∀ n, n ∈ drained.refunded ∨ n ∈ drained.stuck ↔ s.look (.pending id n) ≠ none
  /-- A packet that is refunded was pending. It is refunded now and not marked any
  more, and its tokens are in the hands of its sender and not deposited. -/
  given_back : ∀ n ∈ drained.refunded, ∃ p, s.shipment? id n = some p ∧ p.status = .pending
    ∧ u.shipment? id n = some { p with status := .refunded } ∧ u.look (.pending id n) = none
    ∧ ∀ tokenId ∈ p.tokenIds, ∃ uri,
      u.whereabouts p.classId tokenId = (some ⟨p.sender, uri⟩, none)
  /-- A packet that is stuck is pending and marked, as it was. -/
  stuck_kept : ∀ n ∈ drained.stuck, ∃ p, s.shipment? id n = some p ∧ p.status = .pending
    ∧ u.shipment? id n = some p ∧ u.look (.pending id n) = some .pending
  /-- Nothing is left but what the refunds that succeeded leave by themselves, and
  the phase of the channel. -/
  isolated : ∃ m, (refundAll bridge id drained.refunded).Yields s () m
    ∧ u = m.keep (.channel id) (.channel { channel with phase := .closed })
  /-- A packet is stuck exactly if one of its tokens is not where it has left it,
  once those before it are refunded that can be. -/
  stuck_iff : ∀ n, s.look (.pending id n) ≠ none →
    ∃ m p, (refundAll bridge id (drained.refunded.filter (· < n))).Yields s () m
      ∧ s.shipment? id n = some p ∧ (n ∈ drained.stuck ↔ p.Stranded m)

/-- What is kept under the key of a channel is not seen in the records of packets
and tokens. -/
theorem keep_channel_records (s : Store Entry) (id : String) (e : Entry) (n : UInt64) :
    (s.keep (.channel id) e).shipment? id n = s.shipment? id n
      ∧ (s.keep (.channel id) e).look (.pending id n) = s.look (.pending id n)
      ∧ ∀ classId tokenId, (s.keep (.channel id) e).whereabouts classId tokenId
        = s.whereabouts classId tokenId := by
  have hchanged : ChangedOnly (· = .channel id) s (s.keep (.channel id) e) := .keep rfl
  exact ⟨Table.view_of_changedOnly hchanged _ (by simp), hchanged.look (by simp),
    fun _ _ => Store.whereabouts_of_changedOnly hchanged (by simp) (by simp)⟩

/-- **What draining leaves, once the channel is closed.** The channel has
entered a phase before it was drained, and enters another one after that. -/
theorem closesWith_of_drains {sequences : List UInt64} {e : Entry}
    (hs : Orderly bridge (s.keep (.channel id) e))
    (h : Drains bridge id (s.keep (.channel id) e) sequences drained u)
    (hmem : ∀ n, n ∈ sequences ↔ (s.keep (.channel id) e).look (.pending id n) ≠ none)
    (hsorted : sequences.Pairwise (· < ·)) :
    ClosesWith bridge id channel s
      (u.keep (.channel id) (.channel { channel with phase := .closed })) drained := by
  obtain ⟨hrefunded, hstuck⟩ := h.sublists
  have hu : Orderly bridge u := h.orderly hs
  have hnodup : sequences.Nodup := hsorted.imp UInt64.ne_of_lt
  have hmarked (n : UInt64) : n ∈ sequences ↔ s.look (.pending id n) ≠ none := by
    rw [hmem, (keep_channel_records s id e n).2.1]
  -- none of the records is that of the channel
  have hbefore (n : UInt64) : (s.keep (.channel id) e).shipment? id n = s.shipment? id n :=
    (keep_channel_records s id e n).1
  have hafter (n : UInt64) :=
    keep_channel_records u id (.channel { channel with phase := .closed }) n
  constructor
  case refunded_ascending => exact hsorted.sublist hrefunded
  case stuck_ascending => exact hsorted.sublist hstuck
  case disjoint => exact fun n hn => h.disjoint hnodup hn
  case complete =>
    intro n
    rw [← hmarked, ← List.mem_append, h.perm.mem_iff]
  case given_back =>
    intro n hn
    obtain ⟨p, hp, hpend, hup, htokens⟩ := h.refunded_of_mem hs hn
    obtain ⟨hrecord, hmark, hwhereabouts⟩ := hafter n
    refine ⟨p, (hbefore n).symm.trans hp, hpend, hrecord.trans hup, ?_, fun tokenId hmem => ?_⟩
    · rw [hmark]
      exact hu.booked.look_pending_of_settled hup (by simp)
    · obtain ⟨uri, ha⟩ := htokens tokenId hmem
      exact ⟨uri, (hwhereabouts _ _).trans ha⟩
  case stuck_kept =>
    intro n hn
    obtain ⟨p, hp, hpend, hup⟩ := h.stuck_of_mem hs hmem hnodup hn
    obtain ⟨hrecord, hmark, -⟩ := hafter n
    refine ⟨p, (hbefore n).symm.trans hp, hpend, hrecord.trans hup, ?_⟩
    rw [hmark]
    exact hu.booked.look_pending_of_pending hup hpend
  case isolated =>
    obtain ⟨m, hrun, rfl⟩ := yields_refundAll_keep_iff.mp h.refundAll
    exact ⟨m, hrun, keep_keep⟩
  case stuck_iff =>
    intro n hn
    obtain ⟨_, p, hkept, hp, hiff⟩ := h.stuck_iff hs hsorted ((hmarked n).mpr hn)
    obtain ⟨m, hrun, rfl⟩ := yields_refundAll_keep_iff.mp hkept
    refine ⟨m, p, hrun, (hbefore n).symm.trans hp, hiff.trans ?_⟩
    have hkeeps (tokenId : String) : (m.keep (.channel id) e).Keeps p tokenId
        ↔ m.Keeps p tokenId := by
      obtain ⟨htoken, hdeposit⟩ := Prod.mk.inj
        ((keep_channel_records m id e n).2.2 p.classId tokenId)
      rw [Store.Keeps, Store.Keeps, htoken, hdeposit]
    simp only [Shipment.Stranded, hkeeps]

/-- The channel as it is while it is being closed. -/
def beingClosed (channel : Channel) : Channel := { channel with phase := .closing }

/-- **The request to close a channel comes to its end.** It leaves the channel
being closed, which an open one enters now and another one has entered before,
and drains what is marked as pending. -/
theorem exists_requestClose (hs : Orderly bridge s) (hc : s.channel? id = some channel)
    (hphase : channel.phase ≠ .closed) (hid : (Bytes.ofText id).length < UInt16.size) :
    ∃ sequences drained u, (requestClose bridge id).Yields s drained u
      ∧ Orderly bridge (s.keep (.channel id) (.channel channel.beingClosed))
      ∧ Drains bridge id (s.keep (.channel id) (.channel channel.beingClosed)) sequences drained u
      ∧ (∀ n, n ∈ sequences
        ↔ (s.keep (.channel id) (.channel channel.beingClosed)).look (.pending id n) ≠ none)
      ∧ sequences.Pairwise (· < ·)
      ∧ u.channel? id = some channel.beingClosed := by
  let s' : Store Entry := s.keep (.channel id) (.channel channel.beingClosed)
  obtain ⟨hs', hrequest⟩ : Orderly bridge s' ∧ ∀ {drained u},
      (drain bridge id).Yields s' drained u → (requestClose bridge id).Yields s drained u := by
    cases hopen : channel.phase with
    | opened =>
      refine ⟨hs.of_does (d := .entered id .closing) ⟨channel, hc, .inl ⟨hopen, rfl⟩, rfl⟩
        trivial, fun hdrain => ?_⟩
      simp only [requestClose, yields_bind, yields_find]
      refine ⟨channel, s, ⟨hc, rfl⟩, ?_⟩
      simp only [hopen, yields_bind, yields_enter]
      exact ⟨(), s', rfl, hdrain⟩
    | closing =>
      have hsame : channel.beingClosed = channel := by rw [beingClosed, ← hopen]
      have heq : s' = s := Store.keep_of_look (hsame.symm ▸ Store.channel?_eq_some_iff.mp hc)
      rw [heq]
      refine ⟨hs, fun hdrain => ?_⟩
      simp only [requestClose, yields_bind, yields_find]
      exact ⟨channel, s, ⟨hc, rfl⟩, by simpa only [hopen] using hdrain⟩
    | closed => exact absurd hopen hphase
  obtain ⟨sequences, drained, u, hdrain, hdrains, hmem, hsorted⟩ := exists_drain hs' hid
  refine ⟨sequences, drained, u, hrequest hdrain, hs', hdrains, hmem, hsorted, ?_⟩
  refine hdrains.keeps (P := fun m => m.channel? id = some channel.beingClosed)
    (fun hdoes hm => ?_) ?_
  · rw [channel?, hdoes.view_eq Table.channels (by simp [Deed.Touches])]
    exact hm
  · simp [s', Table.view_keep (Key.fits_channel id)]

/-- Once the request has come to its end, the close is confirmed by one more
phase of the channel. -/
theorem yields_confirmClose_of_requestClose {m : Store Entry}
    (h : (requestClose bridge id).Yields s drained m) (hc : m.channel? id = some channel)
    (hphase : channel.phase ≠ .closed) :
    (confirmClose bridge id).Yields s drained
      (m.keep (.channel id) (.channel { channel with phase := .closed })) := by
  simp only [confirmClose, yields_bind, yields_find]
  exact ⟨drained, m, h, channel, m, ⟨hc, rfl⟩, by simp [hphase]⟩

/-- **The close of a channel comes to its end.** -/
theorem exists_confirmClose (hs : Orderly bridge s) (hc : s.channel? id = some channel)
    (hid : (Bytes.ofText id).length < UInt16.size) :
    ∃ drained u, (confirmClose bridge id).Yields s drained u
      ∧ u.channel? id = some { channel with phase := .closed }
      ∧ (channel.phase = .closed → drained = {} ∧ u = s)
      ∧ (channel.phase ≠ .closed → ClosesWith bridge id channel s u drained) := by
  by_cases hclosed : channel.phase = .closed
  · have hrequest : (requestClose bridge id).Yields s {} s := by
      simp only [requestClose, yields_bind, yields_find]
      exact ⟨channel, s, ⟨hc, rfl⟩, by simp [hclosed]⟩
    refine ⟨{}, s, ?_, by rw [hc, ← hclosed], fun _ => ⟨rfl, rfl⟩, fun h => absurd hclosed h⟩
    simp only [confirmClose, yields_bind, yields_find]
    exact ⟨{}, s, hrequest, channel, s, ⟨hc, rfl⟩, by simp [hclosed]⟩
  · obtain ⟨sequences, drained, u, hrequest, hs', hdrains, hmem, hsorted, hc'⟩ :=
      exists_requestClose hs hc hclosed hid
    refine ⟨drained, _, yields_confirmClose_of_requestClose hrequest hc' (by simp [beingClosed]),
      ?_, fun h => absurd h hclosed, fun _ => closesWith_of_drains hs' hdrains hmem hsorted⟩
    simp [Table.view_keep (Key.fits_channel id), beingClosed]

end Channel

/-- **A channel close always completes and isolates failures.** Whatever a
bridge that is not called by itself has come to, the close of a channel that it
knows is answered and leaves the channel closed. The answer reports what was
drained: how many packets were refunded, and which ones are stuck, if there are
any. A channel that was closed before stays as it is. On any other one, every
packet that is pending is refunded or stuck, in the order of their numbers and
each for itself. -/
theorem Turn.close_completes {past : List Turn} {channel : Channel} {now : UInt64}
    {side : CloseSide} (hpast : ∀ turn ∈ past, turn.call.NotBy bridge)
    (hc : (storeAfter bridge past).channel? id = some channel)
    (hid : (Bytes.ofText id).length < UInt16.size) :
    ∃ drained u, (Channel.confirmClose bridge id).Yields (storeAfter bridge past) drained u
      ∧ (⟨now, .closed id side⟩ : Turn).take bridge (storeAfter bridge past)
        = (.ok (.response { attributes :=
            [("method", "ibc_channel_close"), ("phase", side.name), ("channel_id", id),
             ("refunded", toString drained.refunded.length)]
              ++ if drained.stuck = [] then []
                else [("refund_failed",
                  String.intercalate "," (drained.stuck.map fun n => toString n.toNat))] }), u)
      ∧ u.channel? id = some { channel with phase := .closed }
      ∧ (channel.phase = .closed → drained = {} ∧ u = storeAfter bridge past)
      ∧ (channel.phase ≠ .closed →
        Channel.ClosesWith bridge id channel (storeAfter bridge past) u drained) := by
  obtain ⟨drained, u, hrun, hclose⟩ := Channel.exists_confirmClose (orderly_after hpast) hc hid
  refine ⟨drained, u, hrun, Turn.take_eq_ok_iff.mpr (yields_map.mpr ⟨_, ?_, rfl⟩), hclose⟩
  simp only [Channel.closed, yields_bind, Table.yields_has]
  refine ⟨true, _, ⟨Key.fits_channel id, (Option.isSome_iff_exists.mpr ⟨_, hc⟩).symm, rfl⟩, ?_⟩
  simp only [if_true, yields_bind, yields_pure]
  exact ⟨drained, u, hrun, rfl, rfl⟩

/-- After the first voyage the token comes back over the channel to Bob, who keeps
it, so that the first packet cannot be refunded any more. Alice sends another
token, and nothing is heard of that packet. -/
def secondVoyage : List Turn :=
  ⟨7, .command "alice" (.send ⟨"art", ["sun"], "bob", "channel-0", none⟩)⟩ ::
  ⟨6, .command "alice" (.mint "art" "sun" none "alice")⟩ ::
  ⟨5, .arrived
    { source := harborChannel.there, destination := harborChannel.here, sequence := 1,
      data := PacketData.encode
        { classId := "wasm.island/channel-7/art", classUri := none, tokenIds := ["moon"],
          tokenUris := [some "ipfs://moon"], sender := "bob", receiver := "bob" } }⟩ ::
  firstVoyage

/-- When the channel is closed then, the first packet is stuck and the second one
is refunded, and this is what is reported. -/
theorem Turn.close_completes_secondVoyage :
    ∃ channel u, (∀ turn ∈ secondVoyage, turn.call.NotBy harbor)
      ∧ (storeAfter harbor secondVoyage).channel? "channel-0" = some channel
      ∧ (Bytes.ofText "channel-0").length < UInt16.size
      ∧ channel.phase = .opened
      ∧ (Channel.confirmClose harbor "channel-0").Yields (storeAfter harbor secondVoyage)
        ⟨[2], [1]⟩ u
      ∧ (⟨8, .closed "channel-0" .theirs⟩ : Turn).take harbor (storeAfter harbor secondVoyage)
        = (.ok (.response { attributes :=
            [("method", "ibc_channel_close"), ("phase", "close_confirm"),
             ("channel_id", "channel-0"), ("refunded", "1"), ("refund_failed", "1")] }), u)
      ∧ u.channel? "channel-0" = some { channel with phase := .closed }
      ∧ Channel.ClosesWith harbor "channel-0" channel (storeAfter harbor secondVoyage) u
        ⟨[2], [1]⟩ := by
  have hpast : ∀ turn ∈ secondVoyage, turn.call.NotBy harbor := by decide
  have hc : (storeAfter harbor secondVoyage).channel? "channel-0"
      = some ⟨harborChannel.here, harborChannel.there, "connection-0", .opened, 3⟩ := by
    decide +kernel
  have hid : (Bytes.ofText "channel-0").length < UInt16.size := by decide +kernel
  obtain ⟨drained, u, hrun, htake, hclosed, -, hcloses⟩ :=
    @Turn.close_completes harbor "channel-0" secondVoyage _ 8 .theirs hpast hc hid
  have hdrained : ((Channel.confirmClose harbor "channel-0").run
      (storeAfter harbor secondVoyage)).1.toOption = some ⟨[2], [1]⟩ := by
    decide +kernel
  rw [show _ = _ from hrun] at hdrained
  obtain rfl := Option.some.inj hdrained
  exact ⟨_, u, hpast, hc, hid, rfl, hrun, htake, hclosed, hcloses (by decide)⟩

end TokenBridge
