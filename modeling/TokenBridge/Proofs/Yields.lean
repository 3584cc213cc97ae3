import Mathlib.Logic.Basic
import TokenBridge.Ledger.Table

/-!
# How a program ends

A program run on a store ends with a result, or it fails. Both are stated
as relations between the store before and the store after:
`p.Yields s a u` says that `p`, run on `s`, succeeds with `a` and leaves
`u`, and `p.Fails s e u` that it fails with `e` and leaves `u`.

A program is a chain of smaller ones, so either relation is taken apart
link by link. `yields_bind` opens a link of a program that succeeds, and
`fails_bind` says at which link a program that fails did so; every other
lemma of this module says what the two relations are for one kind of link.
With these an execution is read off a hypothesis about its end, and no
later proof goes through the tree that a program is.
-/

namespace TokenBridge

namespace Program

variable {V ε δ α β σ : Type} [Blank V]

/-- **A program succeeds**: run on `s`, it has the result `a` and leaves
the store `u`. -/
def Yields (p : Program V ε α) (s : Store V) (a : α) (u : Store V) : Prop :=
  p.run s = (.ok a, u)

/-- **A program fails**: run on `s`, it ends with the failure `e` and
leaves the store `u`, with all that it wrote before. -/
def Fails (p : Program V ε α) (s : Store V) (e : Failure ε) (u : Store V) : Prop :=
  p.run s = (.error e, u)

variable {s u : Store V} {a : α} {b : β} {e : Failure ε}

/-- A run ends in one way only. -/
theorem Yields.unique {p : Program V ε α} {a' : α} {u' : Store V} (h : p.Yields s a u)
    (h' : p.Yields s a' u') : a = a' ∧ u = u' := by
  rw [Yields, h] at h'
  cases h'
  exact ⟨rfl, rfl⟩

theorem Yields.not_fails {p : Program V ε α} {u' : Store V} (h : p.Yields s a u) :
    ¬ p.Fails s e u' := by
  intro h'
  rw [Fails, h] at h'
  cases h'

/-- **A program succeeds or fails.** -/
theorem yields_or_fails (p : Program V ε α) (s : Store V) :
    (∃ a u, p.Yields s a u) ∨ ∃ e u, p.Fails s e u := by
  rcases h : p.run s with ⟨a | a, u⟩
  · exact .inr ⟨a, u, h⟩
  · exact .inl ⟨a, u, h⟩

/-- What a run comes to, by its result alone. -/
theorem exists_yields_of_toOption {p : Program V ε α} (h : (p.run s).1.toOption = some a) :
    ∃ u, p.Yields s a u := by
  obtain ⟨a', u, h'⟩ | ⟨e, u, h'⟩ := yields_or_fails p s
  · rw [h'] at h
    cases h
    exact ⟨u, h'⟩
  · rw [h'] at h
    cases h

/-! ## Links of a chain -/

@[simp] theorem yields_pure {a' : α} :
    (pure a' : Program V ε α).Yields s a u ↔ a = a' ∧ u = s := by
  simp [Yields, eq_comm]

@[simp] theorem fails_pure {a' : α} : ¬ (pure a' : Program V ε α).Fails s e u := by
  simp [Fails]

@[simp] theorem yields_throw {cause : ε} : ¬ (throw cause : Program V ε α).Yields s a u := by
  simp [Yields]

@[simp] theorem fails_throw {cause : ε} :
    (throw cause : Program V ε α).Fails s e u ↔ e = .error cause ∧ u = s := by
  simp [Fails, eq_comm]

@[simp] theorem yields_abort {cause : Abort} : ¬ (abort cause : Program V ε α).Yields s a u := by
  simp [Yields]

@[simp] theorem fails_abort {cause : Abort} :
    (abort cause : Program V ε α).Fails s e u ↔ e = .abort cause ∧ u = s := by
  simp [Fails, eq_comm]

@[simp] theorem yields_fail {f : Failure ε} : ¬ (fail f : Program V ε α).Yields s a u := by
  simp [Yields, run]

@[simp] theorem fails_fail {f : Failure ε} :
    (fail f : Program V ε α).Fails s e u ↔ e = f ∧ u = s := by
  simp [Fails, run, eq_comm]

/-- **A chain succeeds link by link.** -/
@[simp] theorem yields_bind {p : Program V ε α} {f : α → Program V ε β} :
    (p >>= f).Yields s b u ↔ ∃ a m, p.Yields s a m ∧ (f a).Yields m b u := by
  simp only [Yields, run_bind]
  rcases p.run s with ⟨e | a, m⟩
  · simp
  · constructor
    · intro h
      exact ⟨a, m, rfl, h⟩
    · rintro ⟨_, _, ⟨⟩, h⟩
      exact h

/-- What a program yields may be made something of. -/
theorem Yields.bind_pure {p : Program V ε α} {a : α} (h : p.Yields s a u) (f : α → β) :
    (p >>= fun a => pure (f a)).Yields s (f a) u :=
  yields_bind.mpr ⟨a, u, h, yields_pure.mpr ⟨rfl, rfl⟩⟩

/-- **A chain fails at one of its links.** -/
@[simp] theorem fails_bind {p : Program V ε α} {f : α → Program V ε β} :
    (p >>= f).Fails s e u
      ↔ p.Fails s e u ∨ ∃ a m, p.Yields s a m ∧ (f a).Fails m e u := by
  simp only [Yields, Fails, run_bind]
  rcases p.run s with ⟨e' | a, m⟩
  · simp
  · constructor
    · intro h
      exact .inr ⟨a, m, rfl, h⟩
    · rintro (⟨⟨⟩⟩ | ⟨_, _, ⟨⟩, h⟩)
      exact h

@[simp] theorem yields_map {p : Program V ε α} {f : α → β} :
    (f <$> p).Yields s b u ↔ ∃ a, p.Yields s a u ∧ b = f a := by
  simp only [map_eq_pure_bind, yields_bind, yields_pure]
  constructor
  · rintro ⟨a, m, h, rfl, rfl⟩
    exact ⟨a, h, rfl⟩
  · rintro ⟨a, h, rfl⟩
    exact ⟨a, u, h, rfl, rfl⟩

@[simp] theorem fails_map {p : Program V ε α} {f : α → β} :
    (f <$> p).Fails s e u ↔ p.Fails s e u := by
  simp only [map_eq_pure_bind, fails_bind, fails_pure, and_false, exists_false, or_false]

@[simp] theorem yields_ofOption {cause : ε} {o : Option α} :
    (ofOption cause o).Yields s a u ↔ o = some a ∧ u = s := by
  cases o <;> simp [ofOption, Yields, run, eq_comm]

@[simp] theorem fails_ofOption {cause : ε} {o : Option α} :
    (ofOption cause o).Fails s e u ↔ o = none ∧ e = .error cause ∧ u = s := by
  cases o <;> simp [ofOption, throw, Fails, run, eq_comm]

@[simp] theorem yields_ofExcept {x : Except ε α} :
    (ofExcept x).Yields s a u ↔ x = .ok a ∧ u = s := by
  cases x <;> simp [ofExcept, Yields, run, eq_comm]

@[simp] theorem fails_ofExcept {x : Except ε α} :
    (ofExcept x).Fails s e u ↔ ∃ cause, x = .error cause ∧ e = .error cause ∧ u = s := by
  cases x <;> simp [ofExcept, throw, Fails, run, eq_comm]

/-- A result is one whether or not an error would have been given another
form. -/
@[simp] theorem mapError_eq_ok {ε ε' : Type} {x : Except ε α} {f : ε → ε'} :
    x.mapError f = .ok a ↔ x = .ok a := by
  cases x with
  | ok r => exact ⟨fun h => by cases h; rfl, fun h => by cases h; rfl⟩
  | error e => exact ⟨nofun, nofun⟩

/-- **A chain goes on past a check** exactly if the check does not
object. -/
theorem yields_guard {c : Prop} [Decidable c] {cause : ε} {next : Unit → Program V ε α} :
    (if c then throw cause >>= next else next ()).Yields s a u
      ↔ ¬ c ∧ (next ()).Yields s a u := by
  split <;> simp [*]

theorem fails_guard {c : Prop} [Decidable c] {cause : ε} {next : Unit → Program V ε α} :
    (if c then throw cause >>= next else next ()).Fails s e u
      ↔ c ∧ e = .error cause ∧ u = s ∨ ¬ c ∧ (next ()).Fails s e u := by
  split <;> simp [*]

/-! ## Failures that are handled, and transactions -/

/-- Handling failures is looking at how the program ends. -/
theorem yields_attempt {p : Program V ε α} {r : Except (Failure ε) α} (h : p.Accepted s) :
    (p.attempt : Program V δ _).Yields s r u ↔ p.run s = (r, u) := by
  rw [Yields, run_attempt h]
  rcases p.run s with ⟨r', u'⟩
  simp

theorem not_fails_attempt {p : Program V ε α} {e : Failure δ} (h : p.Accepted s) :
    ¬ (p.attempt : Program V δ _).Fails s e u := by
  simp [Fails, run_attempt h]

/-- A transaction that succeeds has done what the program does. -/
theorem yields_transactional {p : Program V ε α} (h : p.Accepted s) :
    p.transactional.Yields s a u ↔ p.Yields s a u := by
  simp only [Yields, run_transactional h, runAtomic]
  rcases p.run s with ⟨a | a, m⟩ <;> simp

/-- A transaction that fails has done nothing. -/
theorem fails_transactional {p : Program V ε α} (h : p.Accepted s) :
    p.transactional.Fails s e u ↔ (∃ m, p.Fails s e m) ∧ u = s := by
  simp only [Fails, run_transactional h, runAtomic]
  rcases p.run s with ⟨a | a, m⟩ <;> simp [eq_comm]

/-! ## Loops -/

@[simp] theorem yields_forM_nil {f : α → Program V ε Unit} {x : Unit} :
    (forM ([] : List α) f).Yields s x u ↔ u = s := by
  simp [List.forM_nil]

@[simp] theorem yields_forM_cons {i : α} {is : List α} {f : α → Program V ε Unit}
    {x : Unit} :
    (forM (i :: is) f).Yields s x u
      ↔ ∃ m, (f i).Yields s () m ∧ (forM is f).Yields m () u := by
  rw [List.forM_cons, yields_bind]
  exact ⟨fun ⟨(), m, h⟩ => ⟨m, h⟩, fun ⟨m, h⟩ => ⟨(), m, h⟩⟩

/-- **A loop that fails does so in one of its turns.** What every turn keeps
that succeeds still holds when that turn begins. -/
theorem exists_fails_of_forM {P : Store V → Prop} {is : List α} {f : α → Program V ε Unit}
    (step : ∀ i s u, (f i).Yields s () u → P s → P u) (h : (forM is f).Fails s e u) (hs : P s) :
    ∃ i ∈ is, ∃ m, P m ∧ (f i).Fails m e u := by
  induction is generalizing s with
  | nil => simp [List.forM_nil] at h
  | cons i is ih =>
    rw [List.forM_cons, fails_bind] at h
    obtain hi | ⟨_, m, hm, hrest⟩ := h
    · exact ⟨i, List.mem_cons_self, s, hs, hi⟩
    · obtain ⟨i', hmem, h⟩ := ih hrest (step i s m hm hs)
      exact ⟨i', List.mem_cons_of_mem _ hmem, h⟩

/-- What none of its turns fails with, a loop does not fail with. -/
theorem not_fails_forM {is : List α} {f : α → Program V ε Unit}
    (h : ∀ i s u, ¬ (f i).Fails s e u) : ¬ (forM is f).Fails s e u := by
  intro hfails
  obtain ⟨i, -, m, -, hi⟩ :=
    exists_fails_of_forM (P := fun _ => True) (fun _ _ _ _ _ => trivial) hfails trivial
  exact h i m u hi

@[simp] theorem yields_mapM_nil {f : α → Program V ε β} {bs : List β} :
    (([] : List α).mapM f).Yields s bs u ↔ bs = [] ∧ u = s := by
  simp [List.mapM_nil]

@[simp] theorem yields_mapM_cons {x : α} {xs : List α} {f : α → Program V ε β}
    {bs : List β} :
    ((x :: xs).mapM f).Yields s bs u
      ↔ ∃ b m, (f x).Yields s b m ∧ ∃ rest, (xs.mapM f).Yields m rest u
          ∧ bs = b :: rest := by
  simp only [List.mapM_cons, yields_bind, yields_pure]
  constructor
  · rintro ⟨b, m, hb, rest, m', hr, rfl, rfl⟩
    exact ⟨b, m, hb, rest, hr, rfl⟩
  · rintro ⟨b, m, hb, rest, hr, rfl⟩
    exact ⟨b, m, hb, rest, u, hr, rfl, rfl⟩

/-- A loop that collects results fails as any other loop does. -/
theorem exists_fails_of_mapM {P : Store V → Prop} {xs : List α} {f : α → Program V ε β}
    (step : ∀ x s b u, (f x).Yields s b u → P s → P u) (h : (xs.mapM f).Fails s e u) (hs : P s) :
    ∃ x ∈ xs, ∃ m, P m ∧ (f x).Fails m e u := by
  induction xs generalizing s with
  | nil => simp [List.mapM_nil] at h
  | cons x xs ih =>
    simp only [List.mapM_cons, fails_bind, fails_pure, and_false, exists_false, or_false] at h
    obtain hx | ⟨b, m, hm, hrest⟩ := h
    · exact ⟨x, List.mem_cons_self, s, hs, hx⟩
    · obtain ⟨x', hmem, h⟩ := ih hrest (step x s b m hm hs)
      exact ⟨x', List.mem_cons_of_mem _ hmem, h⟩

@[simp] theorem yields_foldlM_nil {f : σ → α → Program V ε σ} {x y : σ} :
    (([] : List α).foldlM f x).Yields s y u ↔ y = x ∧ u = s := by
  simp [List.foldlM_nil]

@[simp] theorem yields_foldlM_cons {f : σ → α → Program V ε σ} {x y : σ} {i : α}
    {is : List α} :
    ((i :: is).foldlM f x).Yields s y u
      ↔ ∃ z m, (f x i).Yields s z m ∧ (is.foldlM f z).Yields m y u := by
  simp [List.foldlM_cons]

end Program

end TokenBridge
