import TokenBridge.Proofs.Balance

/-!
# No token is lost or doubled

Two bridges that are joined by a channel are in balance at the start and
after every step, so they are in balance whenever anybody looks at them
(`Crossing.Reaches.balanced`).

What this means for a token of a class that is at home on a side, or has come
there over another channel, is said in terms of its deposit: it is deposited
for the channel if and only if it is in exactly one place elsewhere – on the
other side, or underway in one of the directions – and if it is not deposited
it is nowhere else (`Crossing.deposited_iff_elsewhere`).
-/

namespace TokenBridge

open Store

namespace Crossing

variable {x : Crossing} {net : Network} {side : Side} {s : Store Entry}
  {classId tokenId : String}

/-! ## The start -/

/-- A side at the start has gone two deeds. -/
theorem Launched.path (h : x.Launched side s) :
    ∃ channel, channel.here = x.gate side
      ∧ Path (x.bridge side) .empty [.noted, .connected channel] s := by
  obtain ⟨m, p, theirVersion, before, now, first, second, fresh, hhere, -, hsetup, hconnect⟩ := h
  obtain ⟨ds, rfl, hnoted⟩ := Turn.path_of_take hsetup
  obtain ⟨ds, ⟨channel, rfl, hchannel, -⟩, hconnected⟩ := Turn.path_of_take hconnect
  exact ⟨channel, hchannel.trans hhere, hnoted.append hconnected⟩

theorem Launched.moored (h : x.Launched side s) :
    Moored (x.bridge side) (x.gate side) (x.gate side.other) s := by
  obtain ⟨channel, -, hpath⟩ := h.path
  refine hpath.keeps (fun hd hdoes hs => hs.of_does hdoes ?_) .empty
  obtain rfl | rfl := by simpa using hd
  all_goals trivial

/-- There are no tokens at the start. -/
theorem Launched.whereabouts (h : x.Launched side s) :
    s.whereabouts classId tokenId = (none, none) := by
  obtain ⟨channel, -, hpath⟩ := h.path
  refine hpath.keeps (P := fun m => m.whereabouts classId tokenId = (none, none))
    (fun hd hdoes hs => ?_) (by simp [Store.whereabouts])
  rw [← hs]
  refine hdoes.stays ?_
  obtain rfl | rfl := by simpa using hd
  all_goals exact not_false

/-- Nothing has been sent at the start. -/
theorem Launched.records (h : x.Launched side s) :
    s.nextNumber? (x.gate side) = some 1
      ∧ ∀ n, s.shipment? (x.gate side).channel n = none := by
  obtain ⟨channel, hhere, hpath⟩ := h.path
  constructor
  · obtain ⟨m, -, hconnected⟩ := Path.cons_iff.mp hpath
    obtain ⟨-, -, hnext, rfl⟩ := Path.single_iff.mp hconnected
    have hopen : (m.keep (.channel channel.here.channel) (.channel channel)).channel?
        channel.here.channel = some channel :=
      (Table.view_keep (Key.fits_channel _)).trans (if_pos rfl)
    unfold Store.nextNumber?
    rw [← hhere, hopen, Option.map_some, hnext]
  · intro n
    refine hpath.shipment?_of_none .empty (fun d hd => ?_) (by simp)
    obtain rfl | rfl := by simpa using hd
    all_goals exact not_false

/-- A class has come over the channel on one side, and not on the other. -/
theorem Lane.exists_home (lane : x.Lane) :
    ∃ side : Side, ¬ (x.gate side).Brought (lane.name side)
      ∧ (x.gate side.other).Brought (lane.name side.other) := by
  obtain ⟨hb, heq⟩ | ⟨hb, heq⟩ := lane.linked .left
  · exact ⟨.left, hb, _, heq⟩
  · exact ⟨.right, hb, _, heq⟩

/-- **Two bridges are in balance at the start.** Every token is at hand where
its class is at home. -/
theorem balanced_of_launched {store : Side → Store Entry}
    (h : ∀ side, x.Launched side (store side)) :
    x.Balanced { store, letters := fun _ _ => none, next := fun _ => 1 } where
  moored side := (h side).moored
  numbered side := (h side).records.1
  recorded side n letter hletter := by cases hletter
  placed lane tokenId := by
    obtain ⟨home, hhome, haway⟩ := lane.exists_home
    refine ⟨.atHand home, ?_, fun place hplace => ?_⟩
    · show (store home).AtHand (x.gate home) (lane.name home) tokenId
      rw [atHand_of_not_brought hhome, (Prod.mk.inj (h home).whereabouts).2]
      simp
    · cases place with
      | atHand side =>
        obtain rfl | rfl := home.eq_or_eq_other side
        · rfl
        have haway' : (store home.other).AtHand (x.gate home.other) (lane.name home.other)
            tokenId := hplace
        rw [atHand_of_brought haway, (Prod.mk.inj (h home.other).whereabouts).1] at haway'
        exact absurd rfl haway'
      | underway side n =>
        obtain ⟨p, hp, -⟩ := hplace
        cases hp.symm.trans ((h side).records.2 n)

/-- **Two bridges are always in balance.** -/
theorem Reaches.balanced (h : x.Reaches net) : x.Balanced net := by
  induction h with
  | start store launched => exact balanced_of_launched launched
  | step _ step ih => exact ih.of_step step

end Crossing

/-! ## Deposits -/

/-- **Where a token can be** that is not at hand on a side. -/
inductive Elsewhere where
  /-- It is on the other side, under the name that its class has there. -/
  | across
  /-- It is underway to the other side, in the packet of a number. -/
  | leaving (n : UInt64)
  /-- It is underway from the other side, in the packet of a number. -/
  | returning (n : UInt64)

/-- The place, as seen from a side. -/
def Elsewhere.place (side : Side) : Elsewhere → Place
  | .across => .atHand side.other
  | .leaving n => .underway side n
  | .returning n => .underway side.other n

theorem Elsewhere.place_injective {side : Side} {e e' : Elsewhere}
    (h : e.place side = e'.place side) : e = e' := by
  have hne := side.ne_other
  cases e <;> cases e' <;> simp_all [place]

theorem Elsewhere.place_ne {side : Side} (e : Elsewhere) : e.place side ≠ .atHand side := by
  have hne := side.ne_other
  cases e <;> simp_all [place, eq_comm]

/-- A token that is not at hand on a side is elsewhere. -/
theorem Elsewhere.exists_place {side : Side} {place : Place} (h : place ≠ .atHand side) :
    ∃ e : Elsewhere, e.place side = place := by
  cases place with
  | atHand side' =>
    obtain rfl | rfl := side.eq_or_eq_other side'
    · exact absurd rfl h
    · exact ⟨.across, rfl⟩
  | underway side' n =>
    obtain rfl | rfl := side.eq_or_eq_other side'
    · exact ⟨.leaving n, rfl⟩
    · exact ⟨.returning n, rfl⟩

namespace Crossing

variable {x : Crossing} {net : Network} {side : Side} {classId tokenId : String}

/-- **Whether a token of a side is elsewhere**: it exists on the other side, or
a packet carries it that has been sent from one of the sides, has not been
taken on the other, and has not been settled where it was sent. -/
def IsElsewhere (x : Crossing) (net : Network) (side : Side) (classId tokenId : String) :
    Elsewhere → Prop
  | .across =>
    (net.store side.other).token? ((x.gate side.other).extend classId) tokenId ≠ none
  | .leaving n => x.Underway net side n classId tokenId
  | .returning n => x.Underway net side.other n ((x.gate side.other).extend classId) tokenId

/-- Whether a token is deposited for the channel. -/
def IsDeposited (x : Crossing) (net : Network) (side : Side) (classId tokenId : String) : Prop :=
  ∃ deposit, (net.store side).deposit? classId tokenId = some deposit
    ∧ deposit.channel = (x.gate side).channel

/-- The names of a class that has not come over the channel. -/
theorem linked_of_not_brought (hb : ¬ (x.gate side).Brought classId) :
    x.Linked side classId ((x.gate side.other).extend classId) :=
  .inl ⟨hb, rfl⟩

theorem isElsewhere_iff (hb : ¬ (x.gate side).Brought classId) {e : Elsewhere} :
    x.IsElsewhere net side classId tokenId e
      ↔ x.Finds net (.of (linked_of_not_brought hb)) tokenId (e.place side) := by
  unfold Finds
  cases e with
  | across =>
    rw [Elsewhere.place, Place.side, Lane.name_of_other, at_atHand,
      atHand_of_brought ⟨classId, rfl⟩]
    exact .rfl
  | leaving n =>
    rw [Elsewhere.place, Place.side, Lane.name_of, at_underway]
    exact .rfl
  | returning n =>
    rw [Elsewhere.place, Place.side, Lane.name_of_other, at_underway]
    exact .rfl

theorem not_isDeposited_iff (hb : ¬ (x.gate side).Brought classId) :
    ¬ x.IsDeposited net side classId tokenId
      ↔ x.Finds net (.of (linked_of_not_brought hb)) tokenId (.atHand side) := by
  unfold Finds IsDeposited
  rw [Place.side, Lane.name_of, at_atHand, atHand_of_not_brought hb]
  simp

/-- **No token is lost or doubled.** Take two bridges and the channel between
them, in any state that they can come to, and a class of one side that has
not come over the channel. A token of it is deposited for the channel if and
only if it is in exactly one place elsewhere, and if it is not deposited it is
nowhere else. -/
theorem deposited_iff_elsewhere (h : x.Reaches net) (side : Side) {c : TokenClass}
    (hc : (net.store side).class? classId = some c)
    (ho : c.origin ≠ .wrapped (x.gate side).channel) (tokenId : String) :
    (x.IsDeposited net side classId tokenId
        ↔ ∃! e : Elsewhere, x.IsElsewhere net side classId tokenId e)
      ∧ ∀ e : Elsewhere, x.IsElsewhere net side classId tokenId e →
        x.IsDeposited net side classId tokenId := by
  have hbalanced := h.balanced
  have hb : ¬ (x.gate side).Brought classId :=
    fun hb => ho (((hbalanced.moored side).brought_iff (x.plain side) hc).mp hb)
  have hone := hbalanced.placed (.of (linked_of_not_brought hb)) tokenId
  have deposited {e : Elsewhere} (he : x.IsElsewhere net side classId tokenId e) :
      x.IsDeposited net side classId tokenId := by
    by_cases hd : x.IsDeposited net side classId tokenId
    · exact hd
    · exact absurd (hone.unique ((isElsewhere_iff hb).mp he) ((not_isDeposited_iff hb).mp hd))
        e.place_ne
  refine ⟨⟨fun hd => ?_, fun ⟨e, he, _⟩ => deposited he⟩, fun e => deposited⟩
  -- the token is not at hand, so the one place where it is is elsewhere
  obtain ⟨place, hplace, -⟩ := id hone
  have hne : place ≠ .atHand side := by
    rintro rfl
    exact (not_isDeposited_iff hb).mpr hplace hd
  obtain ⟨e, rfl⟩ := Elsewhere.exists_place hne
  refine ⟨e, (isElsewhere_iff hb).mpr hplace, fun e' he' => ?_⟩
  exact Elsewhere.place_injective (hone.unique ((isElsewhere_iff hb).mp he') hplace)

/-- Alice's token is deposited while it is underway. -/
theorem deposited_iff_elsewhere_underSail :
    strait.IsDeposited underSail .left "art" "moon"
      ∧ (strait.IsDeposited underSail .left "art" "moon"
          ↔ ∃! e : Elsewhere, strait.IsElsewhere underSail .left "art" "moon" e)
      ∧ ∀ e : Elsewhere, strait.IsElsewhere underSail .left "art" "moon" e →
        strait.IsDeposited underSail .left "art" "moon" := by
  have horigin : ((underSail.store .left).class? "art").map (·.origin) = some .native := by
    decide +kernel
  have hdeposit : (underSail.store .left).deposit? "art" "moon"
      = some ⟨"art", "moon", "channel-0", "alice"⟩ := by
    decide +kernel
  obtain ⟨c, hclass, hnative⟩ := Option.map_eq_some_iff.mp horigin
  exact ⟨⟨_, hdeposit, rfl⟩,
    deposited_iff_elsewhere strait_reaches_underSail .left hclass (by simp [hnative]) "moon"⟩

end Crossing

end TokenBridge
