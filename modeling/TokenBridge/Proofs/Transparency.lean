import TokenBridge.Store.Operation

/-!
# A transaction cannot be told from its store

`Program.run_transactional` compares a transaction with the program in
it. Here the yardstick knows nothing of buffers: `Operation.carry` says
what an operation answers on a store and which store it leaves, and a
transaction in it is carried out on a copy, which is taken over or thrown
away. The operations may hold transactions to any depth.

Running against a buffer then means three things at once, for every part
of the operations that has run so far: the answers are those of the copy,
the store below is what it was, and the copy is what is seen through the
buffer (`Operation.Indistinguishable`). That the store below is untouched
is not only true at the end: a program that runs against a buffer is one
that never writes (`Program.onlyReads_buffered`), so no moment of its run
can find the store changed.

The condition is on the values alone: each must be one that a store
accepts, or the copy would refuse what the buffer takes.
-/

namespace TokenBridge

namespace Program

variable {V ε δ α : Type}

/-! ## Programs that only read -/

/-- **Whether a program only reads**, whatever it finds. -/
def OnlyReads : Program V ε α → Prop
  | .done _ => True
  | .fail _ => True
  | .get _ next => ∀ value, (next value).OnlyReads
  | .set _ _ _ => False
  | .remove _ _ => False
  | .range _ next => ∀ entries, (next entries).OnlyReads

/-- **Against a buffer, a program only reads.** -/
theorem onlyReads_buffered (p : Program V ε α) (w : Writes V) :
    (p.buffered w : Program V δ _).OnlyReads := by
  induction p generalizing w with
  | done => trivial
  | fail => trivial
  | get key next ih =>
    simp only [buffered]
    split
    · exact ih _ w
    · exact fun value => ih value w
  | set key value next ih => exact ih _
  | remove key next ih => exact ih _
  | range window next ih => exact fun entries => ih _ w

end Program

namespace Operation

/-! ## Operations on a copy -/

mutual

/-- **What an operation answers on a store, and the store it leaves.**
The operations in a transaction go to a copy, which replaces the store if
they are committed. -/
def carry : Operation → Store Bytes → Answer × Store Bytes
  | .get key, s => (.value (s.get? key), s)
  | .set key value, s => (.done, s.insert key value)
  | .remove key, s => (.done, s.erase key)
  | .range window, s => (.entries (s.range window), s)
  | .transaction operations commits, s =>
    let (answers, copy) := carryAll operations s
    (.transaction answers, if commits then copy else s)

/-- What operations answer one after another, and the store they leave. -/
def carryAll : List Operation → Store Bytes → List Answer × Store Bytes
  | [], s => ([], s)
  | operation :: rest, s =>
    let (answer, t) := carry operation s
    let (answers, u) := carryAll rest t
    (answer :: answers, u)

end

mutual

/-- Whether the values that an operation writes can be stored, at any
depth. -/
def Storable : Operation → Prop
  | .set _ value => value ≠ []
  | .transaction operations _ => AllStorable operations
  | _ => True

/-- Whether the values that operations write can be stored. -/
def AllStorable : List Operation → Prop
  | [] => True
  | operation :: rest => Storable operation ∧ AllStorable rest

end

theorem AllStorable.of_append {past rest : List Operation} (h : AllStorable (past ++ rest)) :
    AllStorable past := by
  induction past with
  | nil => trivial
  | cons operation past ih => exact ⟨h.1, ih h.2⟩

variable {ε : Type}

mutual

/-- A store accepts an operation whose values it can store, and does with
it what is done with a copy. -/
theorem run_program (operation : Operation) (h : operation.Storable) (s : Store Bytes) :
    (program operation : Program Bytes ε Answer).Accepted s
      ∧ (program operation : Program Bytes ε Answer).run s
          = (.ok (operation.carry s).1, (operation.carry s).2) :=
  match operation with
  | .get _ => ⟨trivial, rfl⟩
  | .set _ value => by
    have hv : Blank.isBlank value = false := by simpa [Blank.isBlank, Storable] using h
    exact ⟨⟨hv, trivial⟩, by simp [program, Program.run, hv, carry]⟩
  | .remove _ => ⟨trivial, rfl⟩
  | .range _ => ⟨trivial, rfl⟩
  | .transaction operations commits => by
    obtain ⟨ha, hr⟩ := run_programs operations h s
    constructor
    · exact Program.accepted_bind.mpr
        ⟨Program.accepted_inTransaction ha _, fun _ _ _ => trivial⟩
    · rw [program, Program.run_map, Program.run_inTransaction ha, hr]
      rfl

/-- The same for operations one after another. -/
theorem run_programs (operations : List Operation) (h : AllStorable operations)
    (s : Store Bytes) :
    (programs operations : Program Bytes ε (List Answer)).Accepted s
      ∧ (programs operations : Program Bytes ε (List Answer)).run s
          = (.ok (carryAll operations s).1, (carryAll operations s).2) :=
  match operations with
  | [] => ⟨trivial, rfl⟩
  | operation :: rest => by
    obtain ⟨ha, hr⟩ := run_program operation h.1 s
    obtain ⟨has, hrs⟩ := run_programs rest h.2 (operation.carry s).2
    constructor
    · refine Program.accepted_bind.mpr ⟨ha, fun answer t hrun => ?_⟩
      -- the rest starts where the operation ends
      cases hr.symm.trans hrun
      exact Program.accepted_bind.mpr ⟨has, fun _ _ _ => trivial⟩
    · simp [programs, hr, hrs, carryAll]

end

/-! ## Operations against a buffer -/

/-- **What it is for operations on a transaction over a store to be
indistinguishable** from the same operations on a copy of the store. -/
structure Indistinguishable (ε : Type) (operations : List Operation) (s : Store Bytes) :
    Prop where
  /-- After any part of them, what was answered so far is what the copy
  answered, the store below is the one of the start, and the buffer shows
  the copy. -/
  answers : ∀ past rest, operations = past ++ rest → ∃ w : Writes Bytes,
    ((programs past : Program Bytes ε _).buffered .empty : Program Bytes ε _).run s
        = (.ok (.ok (carryAll past s).1, w), s)
      ∧ w.applyTo s = (carryAll past s).2
  /-- At no point is the store below written to. -/
  reads : ((programs operations : Program Bytes ε _).buffered .empty
    : Program Bytes ε _).OnlyReads
  /-- Run without a transaction, the operations are those on the copy. -/
  direct : (programs operations : Program Bytes ε _).run s
    = (.ok (carryAll operations s).1, (carryAll operations s).2)
  /-- Committing leaves the copy. -/
  committed : ((programs operations : Program Bytes ε _).inTransaction fun _ => true).run s
    = (.ok (carryAll operations s).1, (carryAll operations s).2)
  /-- Dropping leaves the store of the start. -/
  dropped : ((programs operations : Program Bytes ε _).inTransaction fun _ => false).run s
    = (.ok (carryAll operations s).1, s)

theorem indistinguishable {operations : List Operation} (h : AllStorable operations)
    (s : Store Bytes) : Indistinguishable ε operations s where
  answers := by
    rintro past rest rfl
    obtain ⟨ha, hr⟩ := run_programs (ε := ε) past h.of_append s
    obtain ⟨w, hrun, hw, -⟩ :=
      Program.run_buffered (δ := ε) (w := .empty) (s := s) ha Writes.storable_empty
    rw [Writes.applyTo_empty, hr] at hrun hw
    exact ⟨w, hrun, hw⟩
  reads := Program.onlyReads_buffered _ _
  direct := (run_programs operations h s).2
  committed := by
    obtain ⟨ha, hr⟩ := run_programs (ε := ε) operations h s
    rw [Program.run_inTransaction ha, hr]
    rfl
  dropped := by
    obtain ⟨ha, hr⟩ := run_programs (ε := ε) operations h s
    rw [Program.run_inTransaction ha, hr]
    rfl

end Operation

/-! ## Transactions are transparent -/

/-- **A transaction cannot be told from its store.** Over every store,
operations whose values can be stored are indistinguishable from the same
operations on a copy, to whatever depth they hold transactions. And every
program that the store accepts, run in a transaction, is the program
itself if that succeeds, and changes nothing if it fails. -/
theorem transaction_transparent {ε : Type} (s : Store Bytes) :
    (∀ operations, Operation.AllStorable operations
        → Operation.Indistinguishable ε operations s)
      ∧ ∀ (α : Type) (p : Program Bytes ε α), p.Accepted s
        → (∀ a t, p.run s = (.ok a, t) → p.transactional.run s = (.ok a, t))
          ∧ ∀ e t, p.run s = (.error e, t) → p.transactional.run s = (.error e, s) := by
  refine ⟨fun operations h => Operation.indistinguishable h s, fun α p h => ?_⟩
  rw [Program.run_transactional h, Program.runAtomic]
  constructor
  · intro a t hp
    rw [hp]
  · intro e t hp
    rw [hp]

/-- On a store with entries under `[1]` and `[3]`: a removal that is
dropped inside a transaction that is committed, and windows before, in and
after it, one of them upside down. And a program that fails after it has
written, on the same store. -/
theorem transaction_transparent_nested :
    let s : Store Bytes := (Store.empty.insert [1] [10]).insert [3] [30]
    let upward : Window := { start := some [1], stop := some [3] }
    let downward : Window := { descending := true }
    let inverted : Window := { start := some [3], stop := some [1] }
    let operations : List Operation :=
      [.range upward, .transaction [.set [2] [20], .transaction [.remove [1]] false,
        .range upward] true, .remove [3], .range downward, .range inverted, .get [3]]
    let p : Program Bytes Unit Unit := .set [1] [11] (.remove [3] (.throw ()))
    Operation.Indistinguishable Unit operations s
      ∧ (Operation.carryAll operations s).1
          = [.entries [([1], [10])],
            .transaction [.done, .transaction [.done], .entries [([1], [10]), ([2], [20])]],
            .done, .entries [([2], [20]), ([1], [10])], .entries [], .value none]
      ∧ p.transactional.run s = (.error (.error ()), s) := by
  intro s upward downward inverted operations p
  obtain ⟨hops, hp⟩ := transaction_transparent (ε := Unit) s
  refine ⟨hops operations ?_, by rfl, ?_⟩
  · simp [operations, Operation.AllStorable, Operation.Storable]
  · exact (hp Unit p ⟨rfl, trivial⟩).2 (.error ()) _ rfl

end TokenBridge
