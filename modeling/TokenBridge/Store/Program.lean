import TokenBridge.Store.Basic

/-!
# Programs over a store

What the bridge does to its store is a program: a tree that says which
key it reads or writes next, given what it has read so far, and ends
with a result or a failure. A program does not know what it runs on. It
can be run on a store (`Program.run`), where a failure keeps what was
written before it, or against a buffer of writes over a store that it
only reads (`Program.buffered`).

Keeping the two apart is what makes a transaction a statement about
programs and not about one function after another: whatever a program
does, running it in a transaction that commits is running it
(`Program.run_transactional`), as long as the store accepts the values
that it writes (`Program.Accepted`).
-/

namespace TokenBridge

/-! ## Failures -/

/-- Why a run breaks off without an error of its own. -/
inductive Abort where
  /-- A store does not accept an empty value. -/
  | emptyValue
  /-- A part of a key is too long for its length to be written. -/
  | longKey
  /-- A counter stands at its largest value. -/
  | counterOverflow
  deriving DecidableEq, Repr

/-- The wording of an abort. -/
def Abort.message : Abort → String
  | .emptyValue =>
    "TL;DR: Value must not be empty in Storage::set but in most cases you can use " ++
    "Storage::remove instead. Long story: Getting empty values from storage is not well " ++
    "supported at the moment. Some of our internal interfaces cannot differentiate between " ++
    "a non-existent key and an empty value. Right now, you cannot rely on the behaviour of " ++
    "empty values. To protect you from trouble later on, we stop here. Sorry for the " ++
    "inconvenience! We highly welcome you to contribute to CosmWasm, making this more solid " ++
    "one way or the other."
  | .longKey => "only supports namespaces up to length 0xFFFF"
  | .counterOverflow => "attempt to add with overflow"

/-- **How a run fails**: by an error that its caller can handle, or by
breaking off. -/
inductive Failure (ε : Type) where
  /-- An error. -/
  | error (cause : ε)
  /-- A break. -/
  | abort (cause : Abort)
  deriving DecidableEq, Repr

/-- Values of which some cannot be stored, because they would look as if
there were none. -/
class Blank (V : Type) where
  /-- Whether a value cannot be stored. -/
  isBlank : V → Bool

instance : Blank Bytes := ⟨List.isEmpty⟩

/-! ## Programs -/

/-- **A program over a store** of values `V`, with errors `ε` and
results `α`. -/
inductive Program (V ε α : Type) where
  /-- Ends with a result. -/
  | done (result : α)
  /-- Ends with a failure. -/
  | fail (failure : Failure ε)
  /-- Reads the value under a key. -/
  | get (key : Bytes) (next : Option V → Program V ε α)
  /-- Writes a value under a key. -/
  | set (key : Bytes) (value : V) (next : Program V ε α)
  /-- Removes the value under a key. -/
  | remove (key : Bytes) (next : Program V ε α)
  /-- Reads the entries in a window. -/
  | range (window : Window) (next : List (Bytes × V) → Program V ε α)

namespace Program

variable {V ε δ α β γ : Type}

/-- One program after another. -/
def bind : Program V ε α → (α → Program V ε β) → Program V ε β
  | .done a, f => f a
  | .fail e, _ => .fail e
  | .get key next, f => .get key fun v => (next v).bind f
  | .set key value next, f => .set key value (next.bind f)
  | .remove key next, f => .remove key (next.bind f)
  | .range window next, f => .range window fun entries => (next entries).bind f

instance : Monad (Program V ε) where
  pure := .done
  bind := bind

instance : LawfulMonad (Program V ε) :=
  LawfulMonad.mk' (Program V ε)
    (by
      intro α p
      show p.bind .done = p
      induction p <;> simp_all [bind])
    (by intros; rfl)
    (by
      intro α β γ p f g
      show (p.bind f).bind g = p.bind fun a => (f a).bind g
      induction p <;> simp_all [bind])

/-- The program that ends with an error. -/
def throw (cause : ε) : Program V ε α := .fail (.error cause)

/-- The program that breaks off. -/
def abort (cause : Abort) : Program V ε α := .fail (.abort cause)

/-- The result of an optional value, or an error where there is none. -/
def ofOption (cause : ε) : Option α → Program V ε α
  | some a => .done a
  | none => throw cause

/-- The result of a computation without a store. -/
def ofExcept : Except ε α → Program V ε α
  | .ok a => .done a
  | .error cause => throw cause

/-- Handles failures: the result of a program, or how it failed, as a
result. What the program wrote before it failed stays written. -/
def attempt : Program V ε α → Program V δ (Except (Failure ε) α)
  | .done a => .done (.ok a)
  | .fail e => .done (.error e)
  | .get key next => .get key fun v => (next v).attempt
  | .set key value next => .set key value next.attempt
  | .remove key next => .remove key next.attempt
  | .range window next => .range window fun entries => (next entries).attempt

/-! ## Running on a store -/

/-- **Runs a program on a store.** A failure keeps what was written
before it, and a value that cannot be stored is itself a failure. -/
def run [Blank V] : Program V ε α → Store V → Except (Failure ε) α × Store V
  | .done a, s => (.ok a, s)
  | .fail e, s => (.error e, s)
  | .get key next, s => (next (s.get? key)).run s
  | .set key value next, s =>
    if Blank.isBlank value then (.error (.abort .emptyValue), s)
    else next.run (s.insert key value)
  | .remove key next, s => next.run (s.erase key)
  | .range window next, s => (next (s.range window)).run s

/-- **Runs a program as one unit**: a failure leaves the store as it
was. -/
def runAtomic [Blank V] (p : Program V ε α) (s : Store V) : Except (Failure ε) α × Store V :=
  match p.run s with
  | (.ok a, t) => (.ok a, t)
  | (.error e, _) => (.error e, s)

/-- **Whether a store accepts a program**: of the values that the program
writes when it runs on the store, each can be stored. -/
def Accepted [Blank V] : Program V ε α → Store V → Prop
  | .done _, _ => True
  | .fail _, _ => True
  | .get key next, s => (next (s.get? key)).Accepted s
  | .set key value next, s => Blank.isBlank value = false ∧ next.Accepted (s.insert key value)
  | .remove key next, s => next.Accepted (s.erase key)
  | .range window next, s => (next (s.range window)).Accepted s

section Run

variable [Blank V]

@[simp] theorem run_pure (a : α) (s : Store V) :
    (pure a : Program V ε α).run s = (.ok a, s) := rfl

@[simp] theorem run_throw (e : ε) (s : Store V) :
    (throw e : Program V ε α).run s = (.error (.error e), s) := rfl

@[simp] theorem run_abort (e : Abort) (s : Store V) :
    (abort e : Program V ε α).run s = (.error (.abort e), s) := rfl

/-- A program after another runs on the store that the first one leaves,
if that one succeeds. -/
@[simp] theorem run_bind (p : Program V ε α) (f : α → Program V ε β) (s : Store V) :
    (p >>= f).run s
      = match p.run s with
        | (.ok a, t) => (f a).run t
        | (.error e, t) => (.error e, t) := by
  show (p.bind f).run s = _
  induction p generalizing s with
  | done => rfl
  | fail => rfl
  | get key next ih => exact ih _ s
  | set key value next ih =>
    simp only [bind, run]
    split
    · rfl
    · exact ih _
  | remove key next ih => exact ih _
  | range window next ih => exact ih _ s

@[simp] theorem run_map (f : α → β) (p : Program V ε α) (s : Store V) :
    (f <$> p).run s
      = match p.run s with
        | (.ok a, t) => (.ok (f a), t)
        | (.error e, t) => (.error e, t) := by
  rw [map_eq_pure_bind, run_bind]
  rfl

/-- Where every value can be stored, every program is accepted. -/
theorem accepted_of_forall (h : ∀ v : V, Blank.isBlank v = false) (p : Program V ε α)
    (s : Store V) : p.Accepted s := by
  induction p generalizing s with
  | done => trivial
  | fail => trivial
  | get key next ih => exact ih _ s
  | set key value next ih => exact ⟨h value, ih _⟩
  | remove key next ih => exact ih _
  | range window next ih => exact ih _ s

/-- A program after another is accepted if the first one is, and if it
is itself by the store that the first one leaves. -/
theorem accepted_bind {p : Program V ε α} {f : α → Program V ε β} {s : Store V} :
    (p >>= f).Accepted s
      ↔ p.Accepted s ∧ ∀ a t, p.run s = (.ok a, t) → (f a).Accepted t := by
  show (p.bind f).Accepted s ↔ _
  induction p generalizing s with
  | done a =>
    -- the first program ends where it starts
    refine ⟨fun h => ⟨trivial, fun b t hr => ?_⟩, fun h => h.2 a s rfl⟩
    cases hr
    exact h
  | fail => exact ⟨fun _ => ⟨trivial, fun a t hr => by cases hr⟩, fun _ => trivial⟩
  | get key next ih => exact ih _
  | set key value next ih =>
    simp only [bind, Accepted, run, ih, and_assoc]
    refine and_congr_right fun hv => ?_
    simp [hv]
  | remove key next ih => exact ih
  | range window next ih => exact ih _

/-- Handling the failures of a program changes nothing else about it,
unless it breaks off on a value that cannot be stored. -/
theorem run_attempt {p : Program V ε α} {s : Store V} (h : p.Accepted s) :
    (p.attempt : Program V δ _).run s = (.ok (p.run s).1, (p.run s).2) := by
  induction p generalizing s with
  | done => rfl
  | fail => rfl
  | get key next ih => exact ih _ h
  | set key value next ih => simp [attempt, run, h.1, ih h.2]
  | remove key next ih => exact ih h
  | range window next ih => exact ih _ h

end Run

end Program

end TokenBridge
