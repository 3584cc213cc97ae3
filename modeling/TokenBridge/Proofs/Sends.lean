import TokenBridge.Proofs.Invariants

/-!
# What was sent

A packet comes into being in a turn that sends it (`Turn.sent?`), and in no
other way. From then on its record says what was sent, and only its status
changes, once at the most: whatever the bridge is called for, a packet that
was committed or refunded stays so (`Turn.shipment?_of_some`).

So a history tells of each packet which turn sent it, and how its tokens
were then (`sent_in_past`); and of each packet that is pending, that it was
pending ever since (`pending_in_past`).
-/

namespace TokenBridge

open Program Store

variable {bridge : Address} {s u : Store Entry} {turn : Turn} {id : String} {n : UInt64}
  {p : Shipment}

/-! ## Turns that send -/

/-- **The packet that is sent in a turn**, if there is one. -/
def Turn.sent? (bridge : Address) (turn : Turn) (s : Store Entry) : Option Shipment :=
  match turn.call with
  | .command account (.send order) =>
    match (order.run ⟨bridge, turn.now⟩ account).run s with
    | (.ok sent, _) => some sent.shipment
    | (.error _, _) => none
  | _ => none

/-- Whether a deed is a send. -/
def Deed.IsSend : Deed → Prop
  | .sent _ => True
  | _ => False

/-- A turn that is no send sends no packet. -/
theorem Turn.sent?_of_not_send
    (h : ∀ account order, turn.call ≠ .command account (.send order)) :
    turn.sent? bridge s = none := by
  unfold Turn.sent?
  split
  · next account order hcall => exact absurd hcall (h account order)
  · rfl

/-- **A turn sends a packet, or none of its deeds is a send.** -/
theorem Turn.sends_or_not (bridge : Address) (turn : Turn) (s : Store Entry) :
    (∃ p, turn.sent? bridge s = some p ∧ (Deed.sent p).Does bridge s (turn.after bridge s))
      ∨ turn.sent? bridge s = none
        ∧ ∃ ds, Path bridge s ds (turn.after bridge s) ∧ ∀ d ∈ ds, ¬ d.IsSend := by
  by_cases hsend : ∃ account order, turn.call = .command account (.send order)
  · obtain ⟨now, call⟩ := turn
    obtain ⟨account, order, rfl⟩ := hsend
    rcases hrun : (order.run ⟨bridge, now⟩ account).run s with ⟨e | sent, u⟩
    -- a send that fails fails the call
    · refine .inr ⟨by simp [Turn.sent?, hrun], [], ?_, by simp⟩
      have : (⟨now, .command account (.send order)⟩ : Turn).after bridge s = s := by
        simp [Turn.after, Turn.take, runAtomic, Call.perform, Command.carryOut,
          Command.sendFor, hrun]
      rw [this]
      exact .nil
    · refine .inl ⟨sent.shipment, by simp [Turn.sent?, hrun], ?_⟩
      have : (⟨now, .command account (.send order)⟩ : Turn).after bridge s = u := by
        simp [Turn.after, Turn.take, runAtomic, Call.perform, Command.carryOut,
          Command.sendFor, hrun]
      rw [this]
      exact (SendOrder.run_sent hrun).1
  · refine .inr ⟨Turn.sent?_of_not_send fun account order hcall =>
      hsend ⟨account, order, hcall⟩, ?_⟩
    obtain heq | ⟨answer, ds, -, hcarries, hpath⟩ := turn.path bridge s
    · rw [heq]
      exact ⟨[], .nil, by simp⟩
    · refine ⟨ds, hpath, fun d hd hd' => ?_⟩
      have hoccasion := hcarries.occasions d hd
      cases d with
      | sent p =>
        obtain ⟨order, hcall, -⟩ := hoccasion
        exact hsend ⟨p.sender, order, hcall⟩
      | _ => exact hd'.elim

/-- The one who sends is the one who calls. -/
theorem Turn.sender_ne_bridge (hturn : turn.call.NotBy bridge)
    (hsent : turn.sent? bridge s = some p) : p.sender ≠ bridge := by
  unfold Turn.sent? at hsent
  split at hsent
  · next account order hcall =>
    split at hsent
    · next sent m hrun =>
      obtain rfl := Option.some.inj hsent
      rw [(SendOrder.run_sent hrun).2.1]
      rw [hcall] at hturn
      exact hturn
    · cases hsent
  · cases hsent

/-- A token that is sent belonged to its sender, and its metadata goes into
the record. -/
theorem Deed.Does.token?_of_sent (h : (Deed.sent p).Does bridge s u)
    {x : String × Option String} (hx : x ∈ p.tokens) :
    s.token? p.classId x.1 = some ⟨p.sender, x.2⟩ := by
  obtain ⟨-, -, -, m, channel, hm, -⟩ := h
  exact hm.token?_of_mem hx

/-! ## Tokens that are not sent -/

/-- **Whether a token is spared** between two stores: it was not destroyed,
and it was not deposited. -/
def Spares (classId tokenId : String) (s u : Store Entry) : Prop :=
  (s.token? classId tokenId ≠ none → u.token? classId tokenId ≠ none)
    ∧ ∀ deposit, u.deposit? classId tokenId = some deposit →
      s.deposit? classId tokenId = some deposit

theorem Spares.of_eq {classId tokenId : String}
    (h : u.whereabouts classId tokenId = s.whereabouts classId tokenId) :
    Spares classId tokenId s u := by
  obtain ⟨ht, hd⟩ := Prod.mk.inj h
  exact ⟨fun hne => ht ▸ hne, fun deposit hdep => hd ▸ hdep⟩

theorem Spares.trans {classId tokenId : String} {m : Store Entry}
    (h : Spares classId tokenId s m) (h' : Spares classId tokenId m u) :
    Spares classId tokenId s u :=
  ⟨fun hne => h'.1 (h.1 hne), fun deposit hdep => h.2 deposit (h'.2 deposit hdep)⟩

/-- **A deed that is no send spares all tokens.** -/
theorem Deed.Does.spares {d : Deed} (h : d.Does bridge s u) (hd : ¬ d.IsSend)
    (classId tokenId : String) : Spares classId tokenId s u := by
  obtain heq | ⟨-, hmoves⟩ := h.stays_or_moves classId tokenId
  · exact .of_eq heq
  -- the token is there after it has moved, and its deposit is as it was or has ended
  have spared {token : Token} {deposit : Option Deposit}
      (ha : u.whereabouts classId tokenId = (some token, deposit))
      (hdep : deposit = s.deposit? classId tokenId ∨ deposit = none) :
      Spares classId tokenId s u := by
    obtain ⟨ht, hd⟩ := Prod.mk.inj ha
    refine ⟨fun _ => ht ▸ Option.some_ne_none _, fun deposit' hdep' => ?_⟩
    rw [hd] at hdep'
    obtain rfl | rfl := hdep
    · exact hdep'
    · cases hdep'
  cases d with
  | minted => exact spared hmoves.2 (.inl rfl)
  | passed =>
    obtain ⟨uri, -, ha⟩ := hmoves
    exact spared ha (.inl rfl)
  | sent => exact absurd trivial hd
  | released =>
    obtain ⟨uri, deposit, -, -, ha⟩ := hmoves
    exact spared ha (.inr rfl)
  | issued =>
    obtain ⟨uri, -, -, ha⟩ := hmoves
    exact spared ha (.inl rfl)
  | refunded =>
    obtain ⟨-, uri, deposit, -, -, ha⟩ | ⟨-, uri, -, -, ha⟩ := hmoves
    · exact spared ha (.inr rfl)
    · exact spared ha (.inl rfl)
  | _ => exact hmoves.elim

theorem Path.spares {ds : List Deed} (h : Path bridge s ds u) (hds : ∀ d ∈ ds, ¬ d.IsSend)
    (classId tokenId : String) : Spares classId tokenId s u :=
  h.keeps (P := fun m => Spares classId tokenId s m)
    (fun hd hdoes hs => hs.trans (hdoes.spares (hds _ hd) classId tokenId)) (.of_eq rfl)

/-- **A turn sends a token, or spares it.** -/
theorem Turn.sends_or_spares (bridge : Address) (turn : Turn) (s : Store Entry)
    (classId tokenId : String) :
    (∃ p, turn.sent? bridge s = some p ∧ p.classId = classId ∧ tokenId ∈ p.tokenIds
        ∧ (Deed.sent p).Does bridge s (turn.after bridge s))
      ∨ (∀ p, turn.sent? bridge s = some p → ¬ (p.classId = classId ∧ tokenId ∈ p.tokenIds))
        ∧ Spares classId tokenId s (turn.after bridge s) := by
  obtain ⟨p, hsent, hdoes⟩ | ⟨hnone, ds, hpath, hds⟩ := turn.sends_or_not bridge s
  · by_cases hp : p.classId = classId ∧ tokenId ∈ p.tokenIds
    · exact .inl ⟨p, hsent, hp.1, hp.2, hdoes⟩
    · refine .inr ⟨fun q hq => ?_, .of_eq (hdoes.stays hp)⟩
      obtain rfl := Option.some.inj (hsent.symm.trans hq)
      exact hp
  · refine .inr ⟨fun q hq => ?_, hpath.spares hds classId tokenId⟩
    cases hnone.symm.trans hq

/-! ## What becomes of a packet -/

/-- **The record of a packet only changes its status**, and only while the
packet is pending. -/
def Advances (p q : Shipment) : Prop :=
  q = p ∨ p.status = .pending ∧ ∃ status, status ≠ .pending ∧ q = { p with status }

/-- The record is the same but for its status. -/
theorem Advances.exists_status {q : Shipment} (h : Advances p q) :
    ∃ status, q = { p with status } := by
  obtain rfl | ⟨-, status, -, rfl⟩ := h
  · exact ⟨_, rfl⟩
  · exact ⟨status, rfl⟩

theorem Advances.trans {q r : Shipment} (h : Advances p q) (h' : Advances q r) :
    Advances p r := by
  obtain rfl | ⟨hpend, status, hne, rfl⟩ := h
  · exact h'
  · obtain rfl | ⟨hpend', -⟩ := h'
    · exact .inr ⟨hpend, status, hne, rfl⟩
    · exact absurd hpend' hne

/-- A packet that is pending has not changed. -/
theorem Advances.eq_of_pending {q : Shipment} (h : Advances p q) (hq : q.status = .pending) :
    q = p := by
  obtain rfl | ⟨-, status, hne, rfl⟩ := h
  · rfl
  · exact absurd hq hne

/-- A packet that is pending no more does not change. -/
theorem Advances.eq_of_settled {q : Shipment} (h : Advances p q) (hp : p.status ≠ .pending) :
    q = p := by
  obtain rfl | ⟨hpend, -⟩ := h
  · rfl
  · exact absurd hpend hp

theorem Deed.Resolves.ne_pending {d : Deed} {status : Status} (h : d.Resolves id n p status) :
    status ≠ .pending := by
  obtain ⟨rfl, -⟩ | ⟨rfl, -⟩ := h <;> decide

/-- A deed that settles a packet finds it pending, and leaves it with its
status. -/
theorem Deed.Does.shipment?_of_resolves {d : Deed} {status : Status} (h : d.Does bridge s u)
    (hs : Sound s) (hd : d.Resolves id n p status) :
    s.shipment? id n = some p ∧ p.status = .pending
      ∧ u.shipment? id n = some { p with status } := by
  obtain ⟨rfl, rfl⟩ | ⟨rfl, rfl⟩ := hd
  · obtain ⟨hp, hpend, hk, rfl⟩ := h
    obtain ⟨rfl, rfl, -⟩ := hs.filed hp
    exact ⟨hp, hpend, (shipment?_settled hk).trans (if_pos ⟨rfl, rfl⟩)⟩
  · obtain ⟨hp, hpend, hk, m, -, rfl⟩ := h
    obtain ⟨rfl, rfl, -⟩ := hs.filed hp
    exact ⟨hp, hpend, (shipment?_settled hk).trans (if_pos ⟨rfl, rfl⟩)⟩

theorem Path.advances {ds : List Deed} (h : Path bridge s ds u) (hs : Sound s)
    (hp : s.shipment? id n = some p) : ∃ q, u.shipment? id n = some q ∧ Advances p q := by
  induction h generalizing p with
  | nil => exact ⟨p, hp, .inl rfl⟩
  | cons first _ ih =>
    obtain hm | ⟨hpend, status, hd, hm⟩ := hs.shipment?_of_some first hp
    · exact ih (hs.of_does first) hm
    · obtain ⟨q, hq, hadv⟩ := ih (hs.of_does first) hm
      exact ⟨q, hq, .trans (.inr ⟨hpend, status, hd.ne_pending, rfl⟩) hadv⟩

/-- Without a send no packet comes into being. -/
theorem Path.shipment?_of_none {ds : List Deed} (h : Path bridge s ds u) (hs : Sound s)
    (hds : ∀ d ∈ ds, ¬ d.IsSend) (hn : s.shipment? id n = none) : u.shipment? id n = none := by
  induction h with
  | nil => exact hn
  | cons first _ ih =>
    obtain ⟨hfirst, hothers⟩ := List.forall_mem_cons.mp hds
    obtain hm | ⟨q, rfl, -⟩ := hs.shipment?_of_none first hn
    · exact ih (hs.of_does first) hothers hm
    · exact absurd trivial hfirst

/-- **A packet that is known stays known.** -/
theorem Turn.advances (turn : Turn) (hs : Sound s) (hp : s.shipment? id n = some p) :
    ∃ q, (turn.after bridge s).shipment? id n = some q ∧ Advances p q := by
  obtain heq | ⟨answer, ds, -, -, hpath⟩ := turn.path bridge s
  · exact ⟨p, by rw [heq, hp], .inl rfl⟩
  · exact hpath.advances hs hp

/-- **A packet comes to be known in the turn that sends it.** -/
theorem Turn.sent?_of_shipment? (turn : Turn) (hs : Sound s) (hn : s.shipment? id n = none)
    (hp : (turn.after bridge s).shipment? id n = some p) :
    turn.sent? bridge s = some p ∧ p.channel = id ∧ p.sequence = n ∧ p.status = .pending := by
  obtain ⟨q, hsent, hdoes⟩ | ⟨-, ds, hpath, hds⟩ := turn.sends_or_not bridge s
  · obtain hnone | ⟨q', ⟨⟩, hid, hseq, hq⟩ := hs.shipment?_of_none hdoes hn
    · cases hnone.symm.trans hp
    · obtain rfl := Option.some.inj (hq.symm.trans hp)
      exact ⟨hsent, hid, hseq, hdoes.1⟩
  · cases (hpath.shipment?_of_none hs hds hn).symm.trans hp

/-! ## Packets in a history -/

/-- **Every packet was sent**, with what its record says, and pending at
first. -/
theorem sent_in_past {past : List Turn} (hp : (storeAfter bridge past).shipment? id n = some p) :
    ∃ sending earlier, (sending :: earlier) <:+ past
      ∧ sending.sent? bridge (storeAfter bridge earlier) = some { p with status := .pending }
      ∧ (Deed.sent { p with status := .pending }).Does bridge (storeAfter bridge earlier)
        (storeAfter bridge (sending :: earlier)) := by
  induction past generalizing p with
  | nil => simp at hp
  | cons turn past ih =>
    cases hq : (storeAfter bridge past).shipment? id n with
    | some q =>
      obtain ⟨sending, earlier, hsuffix, hsent⟩ := ih hq
      refine ⟨sending, earlier, hsuffix.trans (List.suffix_cons _ _), ?_⟩
      obtain ⟨q', hq', hadv⟩ := turn.advances (sound_after past) hq
      obtain rfl := Option.some.inj (hq'.symm.trans hp)
      obtain rfl | ⟨-, status, -, rfl⟩ := hadv <;> exact hsent
    | none =>
      obtain ⟨hsent, -, -, hpend⟩ := turn.sent?_of_shipment? (sound_after past) hq hp
      have heq : { p with status := .pending } = p := by rw [← hpend]
      refine ⟨turn, past, List.suffix_rfl, by rw [heq, hsent], ?_⟩
      rw [heq]
      obtain ⟨q, hsent', hdoes⟩ | ⟨hnone, -⟩ := turn.sends_or_not bridge (storeAfter bridge past)
      · obtain rfl := Option.some.inj (hsent'.symm.trans hsent)
        exact hdoes
      · cases hnone.symm.trans hsent

/-- What was known once is known ever after. -/
theorem advances_of_suffix {earlier past : List Turn} (h : earlier <:+ past)
    (hp : (storeAfter bridge earlier).shipment? id n = some p) :
    ∃ q, (storeAfter bridge past).shipment? id n = some q ∧ Advances p q := by
  induction past with
  | nil =>
    obtain rfl := List.suffix_nil.mp h
    exact ⟨p, hp, .inl rfl⟩
  | cons turn past ih =>
    obtain rfl | h := List.suffix_cons_iff.mp h
    · exact ⟨p, hp, .inl rfl⟩
    · obtain ⟨q, hq, hadv⟩ := ih h
      obtain ⟨r, hr, hadv'⟩ := turn.advances (sound_after past) hq
      exact ⟨r, hr, hadv.trans hadv'⟩

/-- **A packet that is pending was pending ever since** it was sent. -/
theorem pending_in_past {earlier past : List Turn} {q : Shipment} (h : earlier <:+ past)
    (hp : (storeAfter bridge past).shipment? id n = some p) (hpend : p.status = .pending)
    (hq : (storeAfter bridge earlier).shipment? id n = some q) : q = p := by
  obtain ⟨r, hr, hadv⟩ := advances_of_suffix h hq
  obtain rfl := Option.some.inj (hr.symm.trans hp)
  exact (hadv.eq_of_pending hpend).symm

end TokenBridge
