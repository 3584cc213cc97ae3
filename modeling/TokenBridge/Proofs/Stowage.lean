import Mathlib.Logic.Function.Basic
import TokenBridge.Proofs.Ferrying
import TokenBridge.Proofs.Routes

/-!
# Where a cargo is stowed

A cargo that has left a trail has left something of itself on each chain of the
trail. At the end it is in somebody's hands; on each chain before that the
bridge has it, and it is deposited for the channel on which the next hop
departed; and it is nowhere else (`Chart.Stowed`). While it is underway there is
nothing at the end of the trail.

Every hop changes this at the end of one route at a time: the token is burned or
minted at the end of the trail (`Chart.Stowed.shift`), deposited there as the
trail gets longer (`Chart.Stowed.push`), or released on the chain before as it
gets shorter (`Chart.Stowed.pop`). That nothing changes at the end of any other
route, though the route may lead to the same chain, is where it counts that the
name tells the route (`Chart.shifted_called`).
-/

namespace TokenBridge

open Store

variable {ι : Type}

namespace Chart

section

variable (chart : Chart ι) (cargo : Cargo ι)

/-- The store of the bridge on a chain, after the history of each of them. -/
def store (past : ι → List Turn) (i : ι) : Store Entry := storeAfter (chart.bridge i) (past i)

/-- **Where the cargo is at the end of a route**, if it is there at all. -/
def berth (past : ι → List Turn) (route : List (Hop ι)) : Option Token × Option Deposit :=
  (chart.store past (cargo.place route)).whereabouts (cargo.name route) cargo.tokenId

end

variable {chart : Chart ι} {cargo : Cargo ι} {past past' : ι → List Turn}
  {hop : Hop ι} {trail route rest : List (Hop ι)}

/-! ## Berths -/

/-- **Whether the cargo has moved at the end of one route**, and nowhere else. -/
structure Shifted (chart : Chart ι) (cargo : Cargo ι) (past past' : ι → List Turn)
    (route : List (Hop ι)) (place : Option Token × Option Deposit) : Prop where
  /-- There it is where it is said to be. -/
  there : chart.berth cargo past' route = place
  /-- At the end of every other route it is where it was. -/
  others : ∀ {route'}, chart.IsRoute cargo route' → route' ≠ route →
    chart.berth cargo past' route' = chart.berth cargo past route'

/-- **Where the cargo is** when it has left a trail: at the end of the trail, if
it is not underway; on each chain before that in the hands of the bridge and
deposited for the channel of the next hop; and nowhere else. -/
structure Stowed (chart : Chart ι) (cargo : Cargo ι) (past : ι → List Turn)
    (trail : List (Hop ι)) (top : Option Token) : Prop where
  /-- At the end of the trail it is in somebody's hands, or underway. -/
  here : chart.berth cargo past trail = (top, none)
  /-- Before each hop it is deposited for the channel of that hop. -/
  behind : ∀ {hop rest}, hop :: rest <:+ trail → ∃ depositor, chart.berth cargo past rest
    = (some ⟨chart.bridge (cargo.place rest), cargo.uri⟩,
      some ⟨cargo.name rest, cargo.tokenId, hop.departure.channel, depositor⟩)
  /-- It is nowhere else. -/
  elsewhere : ∀ {route}, chart.IsRoute cargo route → ¬ route <:+ trail →
    chart.berth cargo past route = (none, none)

namespace Stowed

variable {top top' : Option Token}

/-- What comes before a hop of a trail is not the trail. -/
theorem ne_of_suffix (h : hop :: rest <:+ trail) : rest ≠ trail := by
  rintro rfl
  exact Nat.not_succ_le_self _ h.length_le

/-- A trail that is left of a longer one comes before a hop of that one. -/
theorem exists_cons_suffix (h : route <:+ trail) (hne : route ≠ trail) :
    ∃ hop, hop :: route <:+ trail := by
  induction trail with
  | nil => exact absurd (List.suffix_nil.mp h) hne
  | cons last rest ih =>
    have hsuffix := (List.suffix_cons_iff.mp h).resolve_left hne
    by_cases hrest : route = rest
    · exact ⟨last, hrest ▸ List.suffix_rfl⟩
    · exact (ih hsuffix hrest).imp fun hop hhop => hhop.trans (List.suffix_cons _ _)

/-- All along the trail there is a token. -/
theorem exists_token {token : Token} (h : chart.Stowed cargo past trail (some token))
    (hsuffix : route <:+ trail) : ∃ token,
      (chart.store past (cargo.place route)).token? (cargo.name route) cargo.tokenId
        = some token := by
  by_cases heq : route = trail
  · rw [heq]
    exact ⟨token, congrArg Prod.fst h.here⟩
  · obtain ⟨hop, hhop⟩ := exists_cons_suffix hsuffix heq
    obtain ⟨depositor, hberth⟩ := h.behind hhop
    exact ⟨_, congrArg Prod.fst hberth⟩

/-- If the cargo has not moved, it is stowed as it was. -/
theorem congr (h : chart.Stowed cargo past trail top) (hroute : chart.IsRoute cargo trail)
    (hsame : ∀ {route}, chart.IsRoute cargo route →
      chart.berth cargo past' route = chart.berth cargo past route) :
    chart.Stowed cargo past' trail top where
  here := (hsame hroute).trans h.here
  behind hsuffix := by
    rw [hsame (hroute.of_suffix ((List.suffix_cons _ _).trans hsuffix))]
    exact h.behind hsuffix
  elsewhere hroute' hnot := (hsame hroute').trans (h.elsewhere hroute' hnot)

/-- The cargo has moved at the end of the trail. -/
theorem shift (h : chart.Stowed cargo past trail top) (hroute : chart.IsRoute cargo trail)
    (hshifted : chart.Shifted cargo past past' trail (top', none)) :
    chart.Stowed cargo past' trail top' where
  here := hshifted.there
  behind hsuffix := by
    rw [hshifted.others (hroute.of_suffix ((List.suffix_cons _ _).trans hsuffix))
      (ne_of_suffix hsuffix)]
    exact h.behind hsuffix
  elsewhere hroute' hnot := by
    rw [hshifted.others hroute' fun heq => hnot (heq ▸ List.suffix_rfl)]
    exact h.elsewhere hroute' hnot

/-- The cargo has been deposited at the end of the trail, for a hop that leads
on. -/
theorem push {depositor : Address} (h : chart.Stowed cargo past trail top)
    (hroute : chart.IsRoute cargo (hop :: trail))
    (hshifted : chart.Shifted cargo past past' trail
      (some ⟨chart.bridge (cargo.place trail), cargo.uri⟩,
        some ⟨cargo.name trail, cargo.tokenId, hop.departure.channel, depositor⟩)) :
    chart.Stowed cargo past' (hop :: trail) none where
  here := by
    have hnot : ¬ hop :: trail <:+ trail := fun hsuffix => ne_of_suffix hsuffix rfl
    rw [hshifted.others hroute (List.cons_ne_self _ _)]
    exact h.elsewhere hroute hnot
  behind hsuffix := by
    obtain heq | hsuffix := List.suffix_cons_iff.mp hsuffix
    · obtain ⟨rfl, rfl⟩ := List.cons.inj heq
      exact ⟨depositor, hshifted.there⟩
    · rw [hshifted.others (hroute.2.2.of_suffix ((List.suffix_cons _ _).trans hsuffix))
        (ne_of_suffix hsuffix)]
      exact h.behind hsuffix
  elsewhere hroute' hnot := by
    rw [hshifted.others hroute' fun heq => hnot (heq ▸ List.suffix_cons _ _)]
    exact h.elsewhere hroute' fun hsuffix => hnot (hsuffix.trans (List.suffix_cons _ _))

/-- The cargo has been released before the last hop of the trail. -/
theorem pop (h : chart.Stowed cargo past (hop :: rest) none)
    (hroute : chart.IsRoute cargo (hop :: rest))
    (hshifted : chart.Shifted cargo past past' rest (top', none)) :
    chart.Stowed cargo past' rest top' where
  here := hshifted.there
  behind hsuffix := by
    rw [hshifted.others (hroute.2.2.of_suffix ((List.suffix_cons _ _).trans hsuffix))
      (ne_of_suffix hsuffix)]
    exact h.behind (hsuffix.trans (List.suffix_cons _ _))
  elsewhere {route} hroute' hnot := by
    rw [hshifted.others hroute' fun heq => hnot (heq ▸ List.suffix_rfl)]
    by_cases hlast : route = hop :: rest
    · rw [hlast]
      exact h.here
    · refine h.elsewhere hroute' fun hsuffix => ?_
      exact (List.suffix_cons_iff.mp hsuffix).elim hlast hnot

end Stowed

end Chart

/-! ## Turns -/

section

variable [DecidableEq ι]

/-- The histories after another turn on one chain. -/
def called (past : ι → List Turn) (i : ι) (turn : Turn) : ι → List Turn :=
  Function.update past i (turn :: past i)

variable {past : ι → List Turn} {i j : ι} {turn : Turn}

theorem length_called_le (past : ι → List Turn) (i : ι) (turn : Turn) (j : ι) :
    (called past i turn j).length ≤ (past j).length + 1 := by
  by_cases h : j = i
  · subst h
    simp [called]
  · simp [called, h]

theorem mem_called {other : Turn} (h : other ∈ called past i turn j) :
    other = turn ∧ j = i ∨ other ∈ past j := by
  by_cases hj : j = i
  · subst hj
    simp only [called, Function.update_self, List.mem_cons] at h
    exact h.imp_left fun heq => ⟨heq, rfl⟩
  · simp only [called, Function.update_of_ne hj] at h
    exact .inr h

namespace Chart

variable {chart : Chart ι} {cargo : Cargo ι} {route : List (Hop ι)}

@[simp] theorem store_called :
    chart.store (called past i turn) i = turn.after (chart.bridge i) (chart.store past i) := by
  simp [store, called]

theorem store_called_of_ne (h : j ≠ i) :
    chart.store (called past i turn) j = chart.store past j := by
  simp [store, called, h]

/-- What is so of the new store of a chain, and of the stores of all chains before,
is so of all stores afterwards. -/
theorem forall_store_called {P : ι → Store Entry → Prop}
    (hturn : P i (turn.after (chart.bridge i) (chart.store past i)))
    (hbefore : ∀ j, P j (chart.store past j)) (j : ι) :
    P j (chart.store (called past i turn) j) := by
  by_cases h : j = i
  · subst h
    rw [store_called]
    exact hturn
  · rw [store_called_of_ne h]
    exact hbefore j

/-- **A turn that moves the cargo under one name** moves it at the end of one
route. -/
theorem shifted_called {place : Option Token × Option Deposit}
    (hclass : '/' ∉ cargo.classId.toList) (hroute : chart.IsRoute cargo route)
    (hi : i = cargo.place route)
    (h : Moved (chart.store past i) (turn.after (chart.bridge i) (chart.store past i))
      (cargo.name route) cargo.tokenId place) :
    chart.Shifted cargo past (called past i turn) route place := by
  subst hi
  constructor
  case there =>
    rw [berth, store_called]
    exact h.there
  case others =>
    intro route' hroute' hne
    by_cases hplace : cargo.place route' = cargo.place route
    · rw [berth, berth, hplace, store_called]
      -- two names on one chain are different since the routes are
      exact h.others fun heq => hne (hroute'.unique hclass hroute hplace heq.1)
    · rw [berth, berth, store_called_of_ne hplace]

/-- A turn that leaves the cargo alone under all its names leaves it where it
is. -/
theorem berth_called (hroute : chart.IsRoute cargo route)
    (h : ∀ route, chart.IsRoute cargo route → cargo.place route = i →
      (turn.after (chart.bridge i) (chart.store past i)).whereabouts (cargo.name route)
        cargo.tokenId = (chart.store past i).whereabouts (cargo.name route) cargo.tokenId) :
    chart.berth cargo (called past i turn) route = chart.berth cargo past route := by
  by_cases hplace : cargo.place route = i
  · rw [berth, berth, hplace, store_called]
    exact h route hroute hplace
  · rw [berth, berth, store_called_of_ne hplace]

end Chart

end

end TokenBridge
