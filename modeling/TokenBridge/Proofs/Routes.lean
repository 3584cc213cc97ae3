import Mathlib.Data.List.Chain
import Mathlib.Data.Set.Defs
import TokenBridge.Proofs.Names

/-!
# Routes between chains

A token can travel over any number of chains, and the name of its class grows
with every hop and shrinks with every hop back. A `Chart` is made up of the
bridges on some chains and the hops that can be made between them, and a route
is a list of hops, the latest one first. On a route a `Cargo` has a place and a
name there, which is the names of the endpoints at which it has arrived, one
in front of the other.

The name tells the route, since the channel on which the cargo has arrived
tells from which chain it came: two routes that lead to one chain and give the
cargo one name are the same (`Chart.IsRoute.unique`). So what happens to the
cargo under the name of one route is not mistaken for what happens on another,
however often the two meet.

What is left of all the hops that were made, if each hop back takes the one
before it away, is the trail of the cargo (`trailOf`). On a path that never
turns back it is the path (`trailOf_of_onward`), and on the way back from it, it
is what has not been undone yet (`trailOf_wayBack`).
-/

namespace TokenBridge

variable {ι : Type}

/-! ## Hops -/

/-- **A hop** from one chain to another, or one direction of a channel. -/
structure Hop (ι : Type) where
  /-- The chain from which it starts. -/
  source : ι
  /-- The chain to which it leads. -/
  target : ι
  /-- The end of the channel on the chain from which it starts. -/
  departure : Endpoint
  /-- The end of the channel on the chain to which it leads. -/
  arrival : Endpoint
  deriving DecidableEq

namespace Hop

/-- The hop back. -/
def reverse (hop : Hop ι) : Hop ι :=
  { source := hop.target, target := hop.source, departure := hop.arrival,
    arrival := hop.departure }

@[simp] theorem reverse_reverse (hop : Hop ι) : hop.reverse.reverse = hop := rfl
@[simp] theorem reverse_source (hop : Hop ι) : hop.reverse.source = hop.target := rfl
@[simp] theorem reverse_target (hop : Hop ι) : hop.reverse.target = hop.source := rfl
@[simp] theorem reverse_departure (hop : Hop ι) : hop.reverse.departure = hop.arrival := rfl
@[simp] theorem reverse_arrival (hop : Hop ι) : hop.reverse.arrival = hop.departure := rfl

end Hop

/-! ## Trails -/

section

variable [DecidableEq ι] {hop : Hop ι} {trail path undone rest : List (Hop ι)}

/-- **The trail after another hop.** A hop back takes the last one away. -/
def Hop.onto (hop : Hop ι) : List (Hop ι) → List (Hop ι)
  | [] => [hop]
  | last :: rest => if last = hop.reverse then rest else hop :: last :: rest

/-- **The trail of the hops that were made.** -/
def trailOf (log : List (Hop ι)) : List (Hop ι) := log.foldr Hop.onto []

@[simp] theorem trailOf_nil : trailOf ([] : List (Hop ι)) = [] := rfl

@[simp] theorem trailOf_cons {log : List (Hop ι)} :
    trailOf (hop :: log) = hop.onto (trailOf log) := rfl

@[simp] theorem Hop.onto_reverse : hop.onto (hop.reverse :: rest) = rest := if_pos rfl

/-- **A hop leads back or on.** -/
theorem Hop.back_or_on (hop : Hop ι) (trail : List (Hop ι)) :
    (∃ rest, trail = hop.reverse :: rest ∧ hop.onto trail = rest)
      ∨ trail.head? ≠ some hop.reverse ∧ hop.onto trail = hop :: trail := by
  cases trail with
  | nil => exact .inr ⟨by simp, rfl⟩
  | cons last rest =>
    by_cases hback : last = hop.reverse
    · exact .inl ⟨rest, by rw [hback], if_pos hback⟩
    · exact .inr ⟨fun hhead => hback (Option.some.inj hhead), if_neg hback⟩

/-- The trail while the cargo is on a hop: the longer one of the trails before and
after it. -/
def Hop.along (hop : Hop ι) (trail : List (Hop ι)) : List (Hop ι) :=
  if trail.head? = some hop.reverse then trail else hop :: trail

@[simp] theorem Hop.along_reverse : hop.along (hop.reverse :: rest) = hop.reverse :: rest :=
  if_pos rfl

theorem Hop.along_of_on (h : trail.head? ≠ some hop.reverse) : hop.along trail = hop :: trail :=
  if_neg h

/-- **Whether a path never turns back**: no chain is left over the channel on
which it was reached. -/
def Onward (path : List (Hop ι)) : Prop := path.IsChain fun hop earlier => earlier ≠ hop.reverse

/-- The trail of a path that never turns back is the path. -/
theorem trailOf_of_onward (h : Onward path) : trailOf path = path := by
  induction path with
  | nil => rfl
  | cons hop path ih =>
    rw [trailOf_cons, ih h.tail]
    cases path with
    | nil => rfl
    | cons earlier path => exact if_neg (List.isChain_cons_cons.mp h).1

/-- The hops that undo a path, the latest one first. -/
def wayBack (path : List (Hop ι)) : List (Hop ι) := (path.map Hop.reverse).reverse

/-- **The trail on the way back** is what has not been undone yet. -/
theorem trailOf_wayBack (h : Onward (undone ++ rest)) :
    trailOf (wayBack undone ++ (undone ++ rest)) = rest := by
  induction undone with
  | nil => exact trailOf_of_onward h
  | cons hop undone ih =>
    have hrest : Onward (undone ++ rest) := h.tail
    -- the first hop back takes the last one away, and then it goes on from there
    have hfirst : trailOf (hop.reverse :: (hop :: undone ++ rest)) = trailOf (undone ++ rest) := by
      rw [trailOf_cons, trailOf_of_onward h, trailOf_of_onward hrest]
      exact Hop.onto_reverse
    calc trailOf (wayBack (hop :: undone) ++ (hop :: undone ++ rest))
        = (wayBack undone).foldr Hop.onto (trailOf (hop.reverse :: (hop :: undone ++ rest))) := by
          simp [trailOf, wayBack]
      _ = trailOf (wayBack undone ++ (undone ++ rest)) := by
          rw [hfirst]
          exact (List.foldr_append ..).symm
      _ = rest := ih hrest

end

/-! ## Charts -/

/-- **The bridges on some chains, and the hops that can be made** between
them. -/
structure Chart (ι : Type) where
  /-- The account of the bridge on each chain. -/
  bridge : ι → Address
  /-- The hops. -/
  hops : Set (Hop ι)
  /-- The names of the ends of the channels are free of slashes. -/
  plain : ∀ hop ∈ hops, hop.arrival.Plain
  /-- A channel can be used in both directions. -/
  reverse_mem : ∀ hop ∈ hops, hop.reverse ∈ hops
  /-- A channel of a chain has one other end. -/
  joined : ∀ hop ∈ hops, ∀ hop' ∈ hops, hop.source = hop'.source →
    hop.departure.channel = hop'.departure.channel → hop = hop'

/-- **A token that is carried** from chain to chain. -/
structure Cargo (ι : Type) where
  /-- The chain on which it was minted. -/
  home : ι
  /-- The name of its class there. -/
  classId : String
  /-- Its own name, which is the same everywhere. -/
  tokenId : String
  /-- Where its metadata is. -/
  uri : Option String

namespace Cargo

variable (cargo : Cargo ι)

/-- The chain to which a route leads. -/
def place : List (Hop ι) → ι
  | [] => cargo.home
  | hop :: _ => hop.target

/-- **The name that the class of the cargo has** at the end of a route. -/
def name : List (Hop ι) → String
  | [] => cargo.classId
  | hop :: rest => hop.arrival.extend (name rest)

@[simp] theorem place_cons {hop : Hop ι} {rest : List (Hop ι)} :
    cargo.place (hop :: rest) = hop.target := rfl

@[simp] theorem name_cons {hop : Hop ι} {rest : List (Hop ι)} :
    cargo.name (hop :: rest) = hop.arrival.extend (cargo.name rest) := rfl

end Cargo

/-- A name that is not the one at home has a slash in it. -/
theorem Cargo.slash_mem_name_cons {cargo : Cargo ι} {hop : Hop ι} {rest : List (Hop ι)} :
    '/' ∈ (cargo.name (hop :: rest)).toList :=
  Endpoint.slash_mem_extend

theorem Cargo.name_ne_empty {cargo : Cargo ι} (h : cargo.classId ≠ "") (route : List (Hop ι)) :
    cargo.name route ≠ "" := by
  cases route with
  | nil => exact h
  | cons hop rest =>
    intro hempty
    have hslash : '/' ∈ (cargo.name (hop :: rest)).toList := Cargo.slash_mem_name_cons
    rw [hempty] at hslash
    simp at hslash

namespace Chart

variable (chart : Chart ι) (cargo : Cargo ι)

/-- **Whether hops make up a route** of the cargo: each starts where the one
before it leads to. -/
def IsRoute : List (Hop ι) → Prop
  | [] => True
  | hop :: rest => hop ∈ chart.hops ∧ hop.source = cargo.place rest ∧ IsRoute rest

variable {chart cargo} {hop hop' : Hop ι} {rest trail route route' : List (Hop ι)}

theorem plain_departure (h : hop ∈ chart.hops) : hop.departure.Plain :=
  chart.plain _ (chart.reverse_mem _ h)

/-- Two hops that lead to one chain over one channel are the same. -/
theorem eq_of_arrival (h : hop ∈ chart.hops) (h' : hop' ∈ chart.hops)
    (htarget : hop.target = hop'.target) (harrival : hop.arrival.channel = hop'.arrival.channel) :
    hop = hop' :=
  congrArg Hop.reverse
    (chart.joined _ (chart.reverse_mem _ h) _ (chart.reverse_mem _ h') htarget harrival)

/-- What is left of a route is a route. -/
theorem IsRoute.of_suffix (h : chart.IsRoute cargo route) (hsuffix : trail <:+ route) :
    chart.IsRoute cargo trail := by
  induction route with
  | nil =>
    obtain rfl := List.suffix_nil.mp hsuffix
    exact h
  | cons hop rest ih =>
    obtain rfl | hsuffix := List.suffix_cons_iff.mp hsuffix
    · exact h
    · exact ih h.2.2 hsuffix

/-- **The name tells the route**: two routes of the cargo that lead to one chain
and give it one name are the same. -/
theorem IsRoute.unique (hclass : '/' ∉ cargo.classId.toList) (h : chart.IsRoute cargo route)
    (h' : chart.IsRoute cargo route') (hplace : cargo.place route = cargo.place route')
    (hname : cargo.name route = cargo.name route') : route = route' := by
  -- only the name at home is free of slashes
  have hcons {hop : Hop ι} {rest : List (Hop ι)} (heq : cargo.classId = cargo.name (hop :: rest)) :
      False := by
    rw [heq] at hclass
    exact hclass Cargo.slash_mem_name_cons
  induction route generalizing route' with
  | nil =>
    cases route' with
    | nil => rfl
    | cons hop' rest' => exact (hcons hname).elim
  | cons hop rest ih =>
    cases route' with
    | nil => exact (hcons hname.symm).elim
    | cons hop' rest' =>
      obtain ⟨hmem, hsource, hrest⟩ := h
      obtain ⟨hmem', hsource', hrest'⟩ := h'
      obtain ⟨harrival, hinner⟩ :=
        (Endpoint.extend_inj (chart.plain _ hmem) (chart.plain _ hmem')).mp hname
      obtain rfl := eq_of_arrival hmem hmem' hplace (by rw [harrival])
      rw [ih hrest hrest' (hsource.symm.trans hsource') hinner]

section

variable [DecidableEq ι]

/-- A hop from the end of a trail leads to the end of a trail. -/
theorem IsRoute.onto (h : chart.IsRoute cargo trail) (hmem : hop ∈ chart.hops)
    (hsource : hop.source = cargo.place trail) : chart.IsRoute cargo (hop.onto trail) := by
  obtain ⟨rest, rfl, honto⟩ | ⟨-, honto⟩ := hop.back_or_on trail
  · rw [honto]
    exact h.2.2
  · rw [honto]
    exact ⟨hmem, hsource, h⟩

/-- The trail while the cargo is on the hop is a route as well. -/
theorem IsRoute.along (h : chart.IsRoute cargo trail) (hmem : hop ∈ chart.hops)
    (hsource : hop.source = cargo.place trail) : chart.IsRoute cargo (hop.along trail) := by
  unfold Hop.along
  split
  · exact h
  · exact ⟨hmem, hsource, h⟩

/-- It leads to the chain to which the hop leads. -/
theorem IsRoute.place_onto (h : chart.IsRoute cargo trail) :
    cargo.place (hop.onto trail) = hop.target := by
  obtain ⟨rest, rfl, honto⟩ | ⟨-, honto⟩ := hop.back_or_on trail
  · rw [honto, ← h.2.1]
    rfl
  · rw [honto]
    rfl

end

end Chart

end TokenBridge
