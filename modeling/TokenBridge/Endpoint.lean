/-!
# Endpoints and the paths of classes

A channel joins two endpoints. A class that arrives at an endpoint is
known from then on by the trail of the endpoint followed by the name
under which it was sent, so the name of a class tells the whole path
that the class has travelled, the last hop first.

`Endpoint.extend` adds a hop to a name and `Endpoint.strip?` takes one
off; each undoes exactly the other (`Endpoint.strip?_eq_some_iff`).
-/

namespace TokenBridge

/-- **One end of a channel.** -/
structure Endpoint where
  /-- The port at which the bridge listens. -/
  port : String
  /-- The channel, by its name on the chain of the port. -/
  channel : String
  deriving DecidableEq, Repr

namespace Endpoint

/-- What an endpoint leaves on the name of a class that arrives at
it. -/
def trail (e : Endpoint) : String := e.port ++ "/" ++ e.channel ++ "/"

/-- **The name of a class once it has arrived** at an endpoint. -/
def extend (e : Endpoint) (classId : String) : String := e.trail ++ classId

/-- What follows the given characters in a list of characters. -/
def dropLeading? : (leading : List Char) → List Char → Option (List Char)
  | [], cs => some cs
  | p :: ps, c :: cs => if p = c then dropLeading? ps cs else none
  | _ :: _, [] => none

/-- **The name of a class before it arrived** at an endpoint, if it
bears the trail of that endpoint. -/
def strip? (e : Endpoint) (classId : String) : Option String :=
  (dropLeading? e.trail.toList classId.toList).map String.ofList

theorem dropLeading?_eq_some_iff {leading cs rest : List Char} :
    dropLeading? leading cs = some rest ↔ cs = leading ++ rest := by
  fun_induction dropLeading? leading cs with
  | case1 => simp [eq_comm]
  | case2 ps c cs ih => simp [ih]
  | case3 p ps c cs hne => simp [Ne.symm hne]
  | case4 => simp

/-- **Stripping is the inverse of extending.** -/
theorem strip?_eq_some_iff {e : Endpoint} {x y : String} :
    e.strip? x = some y ↔ x = e.extend y := by
  simp only [strip?, Option.map_eq_some_iff, dropLeading?_eq_some_iff, extend]
  constructor
  · rintro ⟨rest, hx, rfl⟩
    apply String.toList_injective
    simp [hx]
  · rintro rfl
    exact ⟨y.toList, by simp, by simp⟩

@[simp] theorem strip?_extend (e : Endpoint) (classId : String) :
    e.strip? (e.extend classId) = some classId :=
  strip?_eq_some_iff.mpr rfl

end Endpoint

end TokenBridge
