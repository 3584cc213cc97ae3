import Mathlib.Logic.ExistsUnique
import TokenBridge.Proofs.Codec
import TokenBridge.Proofs.Moorings
import TokenBridge.Proofs.Network

/-!
# Lanes

A class has one name on each side of a channel, and its tokens go back and
forth between the two: such a pair of names is a `Lane`. A token of a lane
is somewhere, and there are four kinds of places where it can be: it is at
hand on one of the sides, or it is underway from one of them in a packet
that the other side has not taken (`Place`).

What is to be shown of the places is that a token is in exactly one of them.
Whatever happens to packets and tokens takes the tokens of one packet from
one place to another and leaves all others where they are (`Shift`), and that
preserves it (`Shift.existsUnique`).
-/

namespace TokenBridge

open Store

/-! ## Places -/

/-- **Where a token of a lane can be.** -/
inductive Place where
  /-- It is at hand on a side. -/
  | atHand (side : Side)
  /-- It is underway from a side, in the packet that was sent from there under
  a number. -/
  | underway (side : Side) (n : UInt64)
  deriving DecidableEq

/-- The side whose name for the class is the one that counts at a place. -/
def Place.side : Place → Side
  | .atHand side => side
  | .underway side _ => side

variable {x : Crossing} {side : Side} {classId classId' tokenId : String}

/-! ## Names across the channel -/

theorem Endpoint.extend_injective {e : Endpoint} {y z : String} (h : e.extend y = e.extend z) :
    y = z := by
  have h := congrArg e.strip? h
  rw [strip?_extend, strip?_extend] at h
  exact Option.some.inj h

namespace Crossing

/-- **Whether a class of one side is known by a name on the other side**: it
has come from there under that name, or it gets that name there. -/
def Linked (x : Crossing) (side : Side) (classId classId' : String) : Prop :=
  ¬ (x.gate side).Brought classId ∧ classId' = (x.gate side.other).extend classId
    ∨ ¬ (x.gate side.other).Brought classId' ∧ classId = (x.gate side).extend classId'

theorem Linked.symm (h : x.Linked side classId classId') :
    x.Linked side.other classId' classId := by
  unfold Linked at h ⊢
  rw [Side.other_other]
  exact h.symm

theorem Linked.unique {other : String} (h : x.Linked side classId classId')
    (h' : x.Linked side classId other) : other = classId' := by
  obtain ⟨hb, rfl⟩ | ⟨hb, rfl⟩ := h
  · obtain ⟨-, rfl⟩ | ⟨-, rfl⟩ := h'
    · rfl
    · exact absurd ⟨other, rfl⟩ hb
  · obtain ⟨hb', -⟩ | ⟨-, heq⟩ := h'
    · exact absurd ⟨classId', rfl⟩ hb'
    · exact (Endpoint.extend_injective heq).symm

/-- **The two names of a class**, one on each side. -/
structure Lane (x : Crossing) where
  /-- The name on a side. -/
  name : Side → String
  /-- Each name is the one that belongs to the other. -/
  linked : ∀ side, x.Linked side (name side) (name side.other)

namespace Lane

/-- The lane of a class, from its two names. -/
def of (h : x.Linked side classId classId') : x.Lane where
  name side' := if side' = side then classId else classId'
  linked side' := by
    obtain rfl | rfl := side.eq_or_eq_other side'
    · rw [if_pos rfl, if_neg side'.ne_other.symm]
      exact h
    · rw [if_neg side.ne_other.symm, Side.other_other, if_pos rfl]
      exact h.symm

@[simp] theorem name_of (h : x.Linked side classId classId') : (of h).name side = classId :=
  if_pos rfl

@[simp] theorem name_of_other (h : x.Linked side classId classId') :
    (of h).name side.other = classId' :=
  if_neg side.ne_other.symm

/-- **Lanes that share a name are the same.** -/
theorem ext_of_name {lane lane' : x.Lane} (h : lane.name side = lane'.name side) :
    lane = lane' := by
  have hother : lane.name side.other = lane'.name side.other :=
    (lane'.linked side).unique (h ▸ lane.linked side)
  have hname : lane.name = lane'.name := by
    funext side'
    obtain rfl | rfl := side.eq_or_eq_other side'
    · exact h
    · exact hother
  cases lane
  cases lane'
  cases hname
  rfl

end Lane

end Crossing

/-! ## Tokens at places -/

namespace Crossing

/-- **Whether a token is underway from a side** in the packet that was sent
under a number: the packet carries it, its sender has not settled it yet, and
it has not been taken on the other side. -/
def Underway (x : Crossing) (net : Network) (side : Side) (n : UInt64)
    (classId tokenId : String) : Prop :=
  ∃ p, (net.store side).shipment? (x.gate side).channel n = some p ∧ p.status = .pending
    ∧ p.classId = classId ∧ tokenId ∈ p.tokenIds
    ∧ ∀ data, net.letters side n ≠ some ⟨data, .answered .success⟩

/-- **Whether a token is at a place**, under the name that its class has
there. -/
def At (x : Crossing) (net : Network) (classId tokenId : String) : Place → Prop
  | .atHand side => (net.store side).AtHand (x.gate side) classId tokenId
  | .underway side n => x.Underway net side n classId tokenId

@[simp] theorem at_atHand {net : Network} :
    x.At net classId tokenId (.atHand side)
      ↔ (net.store side).AtHand (x.gate side) classId tokenId :=
  .rfl

@[simp] theorem at_underway {net : Network} {n : UInt64} :
    x.At net classId tokenId (.underway side n) ↔ x.Underway net side n classId tokenId :=
  .rfl

/-- Whether a token is underway depends on the record of the packet and on
what has become of it. -/
theorem underway_congr {net net' : Network} {n : UInt64}
    (hstore : (net'.store side).shipment? (x.gate side).channel n
      = (net.store side).shipment? (x.gate side).channel n)
    (hletter : net'.letters side n = net.letters side n) :
    x.Underway net' side n classId tokenId ↔ x.Underway net side n classId tokenId := by
  unfold Underway
  rw [hstore, hletter]

/-- Whether a token is at a place depends on the side of the place only. -/
theorem at_congr {net net' : Network} {place : Place}
    (hstore : net'.store place.side = net.store place.side)
    (hletters : net'.letters place.side = net.letters place.side) :
    x.At net' classId tokenId place ↔ x.At net classId tokenId place := by
  cases place with
  | atHand side =>
    rw [at_atHand, at_atHand, show net'.store side = net.store side from hstore]
  | underway side n =>
    refine underway_congr ?_ (congrFun hletters n)
    rw [show net'.store side = net.store side from hstore]

/-- **Whether a token of a lane is at a place.** -/
def Finds (x : Crossing) (net : Network) (lane : x.Lane) (tokenId : String)
    (place : Place) : Prop :=
  x.At net (lane.name place.side) tokenId place

/-- **Whether tokens of a lane go from one place to another**, and nothing
else changes its place. -/
structure Shift (x : Crossing) (net net' : Network) (lane : x.Lane) (tokenIds : List String)
    (source target : Place) : Prop where
  /-- The tokens were at the one place. -/
  held : ∀ tokenId ∈ tokenIds, x.At net (lane.name source.side) tokenId source
  /-- They are there no more, but those that were with them are. -/
  leaves : ∀ classId tokenId, x.At net' classId tokenId source
    ↔ x.At net classId tokenId source ∧ ¬ (classId = lane.name source.side ∧ tokenId ∈ tokenIds)
  /-- They are at the other place, with those that have been there. -/
  arrives : ∀ classId tokenId, x.At net' classId tokenId target
    ↔ x.At net classId tokenId target ∨ classId = lane.name target.side ∧ tokenId ∈ tokenIds
  /-- All other places are as they were. -/
  stays : ∀ place, place ≠ source → place ≠ target → ∀ classId tokenId,
    x.At net' classId tokenId place ↔ x.At net classId tokenId place

/-- **A token that is in one place stays in one place**, wherever the tokens
of a packet go. -/
theorem Shift.existsUnique {net net' : Network} {carrier : x.Lane} {tokenIds : List String}
    {source target : Place} (h : x.Shift net net' carrier tokenIds source target) (lane : x.Lane)
    (hone : ∃! place, x.Finds net lane tokenId place) :
    ∃! place, x.Finds net' lane tokenId place := by
  unfold Finds at hone ⊢
  by_cases hcarried : lane = carrier ∧ tokenId ∈ tokenIds
  · obtain ⟨rfl, hmem⟩ := hcarried
    -- the token was at the source, and only there
    have only (place : Place) (hplace : x.At net (lane.name place.side) tokenId place) :
        place = source :=
      hone.unique hplace (h.held tokenId hmem)
    refine ⟨target, (h.arrives _ _).mpr (.inr ⟨rfl, hmem⟩), fun place hplace => ?_⟩
    by_cases htarget : place = target
    · exact htarget
    by_cases hsource : place = source
    · subst hsource
      exact absurd ⟨rfl, hmem⟩ ((h.leaves _ _).mp hplace).2
    · exact absurd (only place ((h.stays place hsource htarget _ _).mp hplace)) hsource
  · have hname (side : Side) : ¬ (lane.name side = carrier.name side ∧ tokenId ∈ tokenIds) :=
      fun hn => hcarried ⟨Lane.ext_of_name hn.1, hn.2⟩
    refine (existsUnique_congr fun place => ?_).mpr hone
    by_cases htarget : place = target
    · subst htarget
      rw [h.arrives]
      simp [hname]
    by_cases hsource : place = source
    · subst hsource
      rw [h.leaves]
      simp [hname]
    · exact h.stays place hsource htarget _ _

end Crossing

end TokenBridge
