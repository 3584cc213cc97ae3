import TokenBridge.Proofs.Sends

/-!
# Packets that are settled

Whatever brings a packet to its end, be it an acknowledgement, a timeout or
the close of its channel, does no more than settle packets of one channel
(`Deed.SettlesOn`). It destroys no token and deposits none. A packet that is
refunded between two stores is `Undone`, and if a path of such deeds lies
between them, one of the deeds has refunded it.
-/

namespace TokenBridge

open Store

variable {bridge : Address} {s m u : Store Entry} {d : Deed} {ds : List Deed}
  {channel id classId tokenId : String} {n : UInt64} {p : Shipment} {token : Token}

/-! ## Deeds that settle packets -/

/-- Whether a deed settles a packet that was sent on a channel, or does no
more than note something. -/
def Deed.SettlesOn (channel : String) : Deed → Prop
  | .noted => True
  | .entered .. => True
  | .committed channel' _ _ => channel' = channel
  | .refunded channel' _ _ => channel' = channel
  | _ => False

theorem Deed.SettlesOn.not_isSend (h : d.SettlesOn channel) : ¬ d.IsSend := by
  cases d <;> first | exact not_false | exact h.elim

section

variable {context : Context} {answer : Answer} {call : Call}

/-- A call that settles packets of a channel does no more than that. -/
theorem Call.Carries.settlesOn (h : call.Carries context s u answer ds)
    (hc : call.settles? = some channel) : ∀ d ∈ ds, d.SettlesOn channel := by
  intro d hd
  have hoccasion := h.occasions d hd
  cases d with
  | noted => trivial
  | entered => trivial
  | committed => exact Option.some.inj (hoccasion.symm.trans hc)
  | refunded => exact Option.some.inj (hoccasion.symm.trans hc)
  | connected =>
    obtain ⟨p, theirVersion, rfl⟩ := hoccasion
    cases hc
  | founded =>
    obtain ⟨account, classId, uri, rfl⟩ := hoccasion
    cases hc
  | sent p =>
    obtain ⟨order, rfl, -⟩ := hoccasion
    cases hc
  | minted =>
    obtain rfl := hoccasion
    cases hc
  | passed =>
    obtain rfl := hoccasion
    cases hc
  | _ =>
    obtain ⟨packet, rfl, -⟩ := hoccasion
    cases hc

/-- A call that settles no packets leaves the packets alone that are
known. -/
theorem Call.Carries.not_resolves (h : call.Carries context s u answer ds)
    (hc : call.settles? = none) : ∀ d ∈ ds, ∀ id n p status, ¬ d.Resolves id n p status := by
  rintro d hd id n p status (⟨-, rfl⟩ | ⟨-, rfl⟩)
  · cases (h.occasions _ hd).symm.trans hc
  · cases (h.occasions _ hd).symm.trans hc

end

/-! ## Tokens -/

/-- Settling packets of a channel leaves the tokens alone that are burned when
they are sent over it. -/
theorem Deed.Does.token?_of_burned (h : d.Does bridge s u) (hs : Sound s)
    (hd : d.SettlesOn channel) {c : TokenClass} (hc : s.class? classId = some c)
    (hburned : SendOrder.custodyOf c channel = .burned)
    (ht : s.token? classId tokenId = some token) : u.token? classId tokenId = some token := by
  obtain heq | ⟨hconcerns, hmoves⟩ := h.stays_or_moves classId tokenId
  · exact (congrArg Prod.fst heq).trans ht
  cases d with
  | refunded channel' n p =>
    obtain rfl : channel' = channel := hd
    obtain ⟨hescrowed, -⟩ | ⟨-, uri, -, hn, -⟩ := hmoves
    -- the packet is one of this channel, so its tokens were burned
    · obtain ⟨c', hc', hcustody⟩ := hs.custody h.1
      rw [hconcerns.1] at hc'
      obtain rfl := Option.some.inj (hc'.symm.trans hc)
      rw [hescrowed, (hs.filed h.1).1, hburned] at hcustody
      cases hcustody
    · cases hn.symm.trans ht
  | noted => exact hmoves.elim
  | entered => exact hmoves.elim
  | committed => exact hmoves.elim
  | _ => exact hd.elim

/-! ## Refunds -/

/-- **Whether a packet that was pending is refunded** between two
stores. -/
def Undone (s u : Store Entry) (channel : String) (n : UInt64) (p : Shipment) : Prop :=
  s.shipment? channel n = some p ∧ p.status = .pending
    ∧ u.shipment? channel n = some { p with status := .refunded }

/-- A packet that is known as it was is not refunded. -/
theorem not_undone_of_eq (h : u.shipment? channel n = s.shipment? channel n) :
    ¬ Undone s u channel n p := by
  rintro ⟨hp, hpend, hu⟩
  have := congrArg Shipment.status (Option.some.inj ((hp.symm.trans h.symm).trans hu))
  rw [hpend] at this
  cases this

/-- A deed that refunds a packet undoes it. -/
theorem Deed.Does.undone (h : (Deed.refunded channel n p).Does bridge s u) (hs : Sound s) :
    Undone s u channel n p :=
  h.shipment?_of_resolves hs (.inr ⟨rfl, rfl⟩)

namespace Path

theorem token?_of_burned (h : Path bridge s ds u) (hs : Sound s)
    (hds : ∀ d ∈ ds, d.SettlesOn channel) {c : TokenClass} (hc : s.class? classId = some c)
    (hburned : SendOrder.custodyOf c channel = .burned)
    (ht : s.token? classId tokenId = some token) : u.token? classId tokenId = some token := by
  induction h with
  | nil => exact ht
  | cons first _ ih =>
    obtain ⟨hfirst, hothers⟩ := List.forall_mem_cons.mp hds
    exact ih (hs.of_does first) hothers (first.class?_of_some hc)
      (first.token?_of_burned hs hfirst hc hburned ht)

/-- What is refunded later on is refunded in all. -/
theorem undone_cons (first : d.Does bridge s m) (hs : Sound s) (hd : ¬ d.IsSend)
    (h : Undone m u id n p) : Undone s u id n p := by
  obtain ⟨hp, hpend, hu⟩ := h
  cases hq : s.shipment? id n with
  | none =>
    obtain hnone | ⟨q, rfl, -⟩ := hs.shipment?_of_none first hq
    · cases hnone.symm.trans hp
    · exact absurd trivial hd
  | some q =>
    obtain hm | ⟨-, status, hres, hm⟩ := hs.shipment?_of_some first hq
    · obtain rfl := Option.some.inj (hm.symm.trans hp)
      exact ⟨hq, hpend, hu⟩
    · obtain rfl := Option.some.inj (hm.symm.trans hp)
      exact absurd hpend hres.ne_pending

/-- What the first deed refunds is refunded in all. -/
theorem undone_of_first (first : (Deed.refunded id n p).Does bridge s m)
    (others : Path bridge m ds u) (hs : Sound s) : Undone s u id n p := by
  obtain ⟨hp, hpend, hm⟩ := first.undone hs
  obtain ⟨q, hq, hadv⟩ := others.advances (hs.of_does first) hm
  rw [hadv.eq_of_settled (by simp)] at hq
  exact ⟨hp, hpend, hq⟩

/-- A packet that is refunded in all is refunded by the first deed, or later
on. -/
theorem undone_cases (h : Path bridge m ds u) (first : d.Does bridge s m) (hs : Sound s)
    (hundone : Undone s u id n p) : d = .refunded id n p ∨ Undone m u id n p := by
  obtain ⟨hp, hpend, hu⟩ := hundone
  obtain hm | ⟨-, status, hres, hm⟩ := hs.shipment?_of_some first hp
  · exact .inr ⟨hm, hpend, hu⟩
  · obtain ⟨q, hq, hadv⟩ := h.advances (hs.of_does first) hm
    obtain rfl := Option.some.inj (hq.symm.trans hu)
    have heq := congrArg Shipment.status (hadv.eq_of_settled hres.ne_pending)
    obtain ⟨rfl, -⟩ | ⟨-, rfl⟩ := hres
    · cases heq
    · exact .inl rfl

/-- A packet that is refunded is refunded by one of the deeds. -/
theorem undone_mem (h : Path bridge s ds u) (hs : Sound s) (hundone : Undone s u id n p) :
    Deed.refunded id n p ∈ ds := by
  induction h with
  | nil => exact absurd hundone (not_undone_of_eq rfl)
  | cons first others ih =>
    obtain rfl | hlater := others.undone_cases first hs hundone
    · exact List.mem_cons_self
    · exact List.mem_cons_of_mem _ (ih (hs.of_does first) hlater)

end Path

/-- A turn that refunds a packet is one that settles packets. -/
theorem Turn.settles_of_undone (turn : Turn) (hs : Sound s)
    (h : Undone s (turn.after bridge s) id n p) :
    ∃ channel, turn.call.settles? = some channel := by
  obtain heq | ⟨answer, ds, -, hcarries, hpath⟩ := turn.path bridge s
  · rw [heq] at h
    exact (not_undone_of_eq rfl h).elim
  · refine Option.ne_none_iff_exists'.mp fun hc => ?_
    exact hcarries.not_resolves hc _ (hpath.undone_mem hs h) id n p .refunded (.inr ⟨rfl, rfl⟩)

end TokenBridge
