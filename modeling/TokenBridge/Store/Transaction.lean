import TokenBridge.Store.Program

/-!
# Transactions

A program can be run against a buffer: what it writes is kept in the
buffer, what it reads is looked up there first, and the store below is
only read. Afterwards the buffer is committed, which repeats its writes
on the store in the order of their keys, or it is dropped.

`Program.transactional` commits exactly when the program succeeds.
Neither of the two ways of running can be told apart from running
directly on a store that accepts the program: a transaction that commits
gives the same result and leaves the same store
(`Program.run_transactional`), and one that fails leaves the store as it
was.

Transactions nest, since a program that holds one is again a program,
and one that is accepted where the program inside is
(`Program.accepted_inTransaction`).
-/

namespace TokenBridge

/-! ## Buffered writes -/

/-- **Writes that wait to be committed**: under each key that was
written, the value, or nothing for a removal. -/
abbrev Writes (V : Type) := Store (Option V)

namespace Writes

variable {V : Type}

/-- Repeats writes on ascending entries. -/
def replay (writes : List (Bytes × Option V)) (entries : List (Bytes × V)) : List (Bytes × V) :=
  writes.foldl
    (fun entries write =>
      match write.2 with
      | some value => Ascending.insert write.1 value entries
      | none => Ascending.erase write.1 entries)
    entries

/-- What a store looks like through the writes over it. -/
def applyTo (w : Writes V) (s : Store V) : Store V :=
  w.entries.foldl
    (fun s write =>
      match write.2 with
      | some value => s.insert write.1 value
      | none => s.erase write.1)
    s

/-! ### What is seen through writes -/

theorem get?_foldl (entries : List (Bytes × Option V)) (h : Ascending entries) (s : Store V)
    (key : Bytes) :
    (entries.foldl
      (fun s write =>
        match write.2 with
        | some value => s.insert write.1 value
        | none => s.erase write.1) s).get? key
      = (Ascending.find? key entries).getD (s.get? key) := by
  induction entries generalizing s with
  | nil => rfl
  | cons write rest ih =>
    obtain ⟨k, v⟩ := write
    obtain ⟨hk, hrest⟩ := List.pairwise_cons.mp h
    rw [List.foldl_cons, ih hrest]
    by_cases hkey : key = k
    · subst hkey
      rw [Ascending.find?_eq_none hk]
      cases v <;> simp [Ascending.find?]
    · cases v <;> simp [Ascending.find?, hkey]

/-- A write hides what is below it. -/
@[simp] theorem get?_applyTo (w : Writes V) (s : Store V) (key : Bytes) :
    (w.applyTo s).get? key = (w.get? key).getD (s.get? key) :=
  get?_foldl w.entries w.ascending s key

@[simp] theorem applyTo_empty (s : Store V) : applyTo .empty s = s := rfl

theorem applyTo_insert_some (w : Writes V) (s : Store V) (key : Bytes) (value : V) :
    applyTo (w.insert key (some value)) s = (w.applyTo s).insert key value := by
  refine Store.ext_get? fun other => ?_
  simp only [get?_applyTo, Store.get?_insert]
  split <;> simp

theorem applyTo_insert_none (w : Writes V) (s : Store V) (key : Bytes) :
    applyTo (w.insert key none) s = (w.applyTo s).erase key := by
  refine Store.ext_get? fun other => ?_
  simp only [get?_applyTo, Store.get?_insert, Store.get?_erase]
  split <;> simp

/-- Whether all values among the writes can be stored. -/
def Storable [Blank V] (w : Writes V) : Prop :=
  ∀ key value, w.get? key = some (some value) → Blank.isBlank value = false

theorem storable_empty [Blank V] : Storable (.empty : Writes V) := by
  intro key value h
  cases h

theorem Storable.insert_some [Blank V] {w : Writes V} (hw : w.Storable) {value : V}
    (h : Blank.isBlank value = false) (key : Bytes) :
    Storable (w.insert key (some value) : Writes V) := by
  intro other v hv
  rw [Store.get?_insert] at hv
  split at hv
  · cases hv; exact h
  · exact hw other v hv

theorem Storable.insert_none [Blank V] {w : Writes V} (hw : w.Storable) (key : Bytes) :
    Storable (w.insert key none : Writes V) := by
  intro other v hv
  rw [Store.get?_insert] at hv
  split at hv
  · cases hv
  · exact hw other v hv

/-! ### Windows on what is seen -/

theorem clip_insert (window : Window) (key : Bytes) (value : V) {entries : List (Bytes × V)}
    (h : Ascending entries) :
    window.clip (Ascending.insert key value entries)
      = if window.contains key then Ascending.insert key value (window.clip entries)
        else window.clip entries := by
  have sorted {l : List (Bytes × V)} (h : Ascending l) : Ascending (window.clip l) :=
    h.sublist List.filter_sublist
  split
  · next hw =>
    -- both sides ascend, so it is enough that the same is found in them
    refine Ascending.eq_of_find?_eq (sorted (Ascending.insert_ascending h))
      (Ascending.insert_ascending (sorted h)) fun other => ?_
    rw [Ascending.find?_insert]
    refine Option.ext fun v => ?_
    rw [Ascending.find?_eq_some_iff (sorted (Ascending.insert_ascending h))]
    simp only [Window.clip, List.mem_filter]
    rw [← Ascending.find?_eq_some_iff (Ascending.insert_ascending h), Ascending.find?_insert]
    split
    · next heq => subst heq; simp [hw]
    · rw [Ascending.find?_eq_some_iff h]
      have hc : Ascending.find? other (window.clip entries) = some v
          ↔ (other, v) ∈ window.clip entries := Ascending.find?_eq_some_iff (sorted h)
      simp only [Window.clip, List.mem_filter] at hc
      exact hc.symm
  · next hw =>
    -- the new entry is out of sight
    refine Ascending.eq_of_find?_eq (sorted (Ascending.insert_ascending h)) (sorted h)
      fun other => ?_
    refine Option.ext fun v => ?_
    rw [Ascending.find?_eq_some_iff (sorted (Ascending.insert_ascending h)),
      Ascending.find?_eq_some_iff (sorted h)]
    simp only [Window.clip, List.mem_filter]
    rw [← Ascending.find?_eq_some_iff (Ascending.insert_ascending h), Ascending.find?_insert]
    split
    · next heq => subst heq; simp [hw]
    · rw [Ascending.find?_eq_some_iff h]

theorem clip_erase (window : Window) (key : Bytes) (entries : List (Bytes × V)) :
    window.clip (Ascending.erase key entries) = Ascending.erase key (window.clip entries) := by
  simp [Window.clip, Ascending.erase, List.filter_filter, Bool.and_comm]

theorem erase_clip (window : Window) {key : Bytes} (entries : List (Bytes × V))
    (h : window.contains key = false) :
    Ascending.erase key (window.clip entries) = window.clip entries := by
  refine List.filter_eq_self.mpr fun entry he => ?_
  have hc := (List.mem_filter.mp he).2
  simp only [ne_eq, decide_not, Bool.not_eq_eq_eq_not, Bool.not_true, decide_eq_false_iff_not]
  rintro rfl
  rw [h] at hc
  cases hc

theorem clip_foldl (window : Window) (entries : List (Bytes × Option V)) (s : Store V) :
    window.clip (entries.foldl
      (fun s write =>
        match write.2 with
        | some value => s.insert write.1 value
        | none => s.erase write.1) s).entries
      = replay (window.clip entries) (window.clip s.entries) := by
  induction entries generalizing s with
  | nil => rfl
  | cons write rest ih =>
    obtain ⟨k, v⟩ := write
    rw [List.foldl_cons, ih]
    have hclip : window.clip ((k, v) :: rest)
        = if window.contains k then (k, v) :: window.clip rest else window.clip rest := by
      simp [Window.clip, List.filter_cons]
    rw [hclip]
    cases v with
    | some value =>
      show replay _ (window.clip (Ascending.insert k value s.entries)) = _
      rw [clip_insert window k value s.ascending]
      split <;> rfl
    | none =>
      show replay _ (window.clip (Ascending.erase k s.entries)) = _
      rw [clip_erase]
      split
      · rfl
      · next hk => rw [erase_clip window s.entries (by simpa using hk)]

/-- A window on what is seen through writes shows the entries below with
the writes in the window repeated on them. -/
theorem range_applyTo (w : Writes V) (s : Store V) (window : Window) :
    (w.applyTo s).range window
      = window.arrange (replay (window.clip w.entries)
          (s.range { window with descending := false })) := by
  rw [Store.range, applyTo, clip_foldl]
  rfl

end Writes

namespace Program

variable {V ε δ α : Type}

/-! ## Running against a buffer -/

/-- **Runs a program against a buffer.** The result is itself a program,
which only reads; it ends with the result or the failure of the one that
was run, and with the buffer. -/
def buffered : Program V ε α → Writes V → Program V δ (Except (Failure ε) α × Writes V)
  | .done a, w => .done (.ok a, w)
  | .fail e, w => .done (.error e, w)
  | .get key next, w =>
    match w.get? key with
    | some value => (next value).buffered w
    | none => .get key fun value => (next value).buffered w
  | .set key value next, w => next.buffered (w.insert key (some value))
  | .remove key next, w => next.buffered (w.insert key none)
  | .range window next, w =>
    .range { window with descending := false } fun below =>
      (next (window.arrange (Writes.replay (window.clip w.entries) below))).buffered w

/-- Repeats writes on the store, in the given order. -/
def commit : List (Bytes × Option V) → Program V ε Unit
  | [] => .done ()
  | (key, some value) :: rest => .set key value (commit rest)
  | (key, none) :: rest => .remove key (commit rest)

/-- **Runs a program in a transaction** that is committed if the program
succeeds with a result to be kept, and dropped otherwise. -/
def inTransaction (keep : α → Bool) (p : Program V ε α) : Program V ε α := do
  match ← p.buffered .empty with
  | (.ok a, w) =>
    if keep a then commit w.entries
    return a
  | (.error e, _) => .fail e

/-- **Runs a program in a transaction** that is committed exactly if the
program succeeds. -/
def transactional (p : Program V ε α) : Program V ε α := p.inTransaction fun _ => true

/-! ## Transactions are transparent -/

section Run

variable [Blank V]

/-- Committing repeats the writes. -/
theorem run_commit {w : Writes V} (hw : w.Storable) (s : Store V) :
    (commit w.entries : Program V ε Unit).run s = (.ok (), w.applyTo s) := by
  have general (entries : List (Bytes × Option V))
      (h : ∀ key value, (key, some value) ∈ entries → Blank.isBlank value = false)
      (s : Store V) :
      (commit entries : Program V ε Unit).run s
        = (.ok (), entries.foldl
            (fun s write =>
              match write.2 with
              | some value => s.insert write.1 value
              | none => s.erase write.1) s) := by
    induction entries generalizing s with
    | nil => rfl
    | cons write rest ih =>
      obtain ⟨k, v⟩ := write
      have hrest := ih fun key value hm => h key value (List.mem_cons_of_mem _ hm)
      cases v with
      | none => simp [commit, run, hrest]
      | some value => simp [commit, run, h k value List.mem_cons_self, hrest]
  exact general w.entries (fun key value hm => hw key value (Store.mem_entries_iff.mp hm)) s

theorem accepted_commit {w : Writes V} (hw : w.Storable) (s : Store V) :
    (commit w.entries : Program V ε Unit).Accepted s := by
  have general (entries : List (Bytes × Option V))
      (h : ∀ key value, (key, some value) ∈ entries → Blank.isBlank value = false)
      (s : Store V) : (commit entries : Program V ε Unit).Accepted s := by
    induction entries generalizing s with
    | nil => trivial
    | cons write rest ih =>
      obtain ⟨k, v⟩ := write
      have hrest := ih fun key value hm => h key value (List.mem_cons_of_mem _ hm)
      cases v with
      | none => exact hrest _
      | some value => exact ⟨h k value List.mem_cons_self, hrest _⟩
  exact general w.entries (fun key value hm => hw key value (Store.mem_entries_iff.mp hm)) s

/-- **A program cannot tell a buffer from a store.** Against a buffer it
has the result that it has on the store seen through the buffer; the
store below is not touched, and what is seen through the buffer
afterwards is the store it would have left. -/
theorem run_buffered {p : Program V ε α} {w : Writes V} {s : Store V}
    (h : p.Accepted (w.applyTo s)) (hw : w.Storable) :
    ∃ w' : Writes V,
      (p.buffered w : Program V δ _).run s = (.ok ((p.run (w.applyTo s)).1, w'), s)
        ∧ w'.applyTo s = (p.run (w.applyTo s)).2 ∧ w'.Storable := by
  induction p generalizing w s with
  | done => exact ⟨w, rfl, rfl, hw⟩
  | fail => exact ⟨w, rfl, rfl, hw⟩
  | get key next ih =>
    -- what the buffer does not hold is read from the store below
    simp only [Accepted, Writes.get?_applyTo] at h
    simp only [buffered, run, Writes.get?_applyTo]
    cases hk : w.get? key with
    | some value => rw [hk] at h; exact ih value h hw
    | none => rw [hk] at h; exact ih (s.get? key) h hw
  | set key value next ih =>
    obtain ⟨hv, h⟩ := h
    simp only [buffered, run, hv, Bool.false_eq_true, if_false]
    rw [← Writes.applyTo_insert_some] at h ⊢
    exact ih h (hw.insert_some hv key)
  | remove key next ih =>
    simp only [Accepted] at h
    simp only [buffered, run]
    rw [← Writes.applyTo_insert_none] at h ⊢
    exact ih h (hw.insert_none key)
  | range window next ih =>
    simp only [Accepted, Writes.range_applyTo] at h
    simp only [buffered, run, Writes.range_applyTo]
    exact ih _ h hw

/-- A program that runs against a buffer writes nothing. -/
theorem accepted_buffered (p : Program V ε α) (w : Writes V) (s : Store V) :
    (p.buffered w : Program V δ _).Accepted s := by
  induction p generalizing w with
  | done => trivial
  | fail => trivial
  | get key next ih =>
    simp only [buffered]
    split
    · exact ih _ w
    · exact ih _ w
  | set key value next ih => exact ih _
  | remove key next ih => exact ih _
  | range window next ih => exact ih _ w

/-- **A transaction is the program, or nothing**: it ends as the program
ends, leaves what the program leaves if that result is kept, and leaves
the store alone otherwise. -/
theorem run_inTransaction {p : Program V ε α} {s : Store V} (h : p.Accepted s)
    (keep : α → Bool) :
    (p.inTransaction keep).run s
      = match p.run s with
        | (.ok a, t) => (.ok a, if keep a then t else s)
        | (.error e, _) => (.error e, s) := by
  obtain ⟨w, hr, hw, hs⟩ := run_buffered (δ := ε) (w := .empty) h Writes.storable_empty
  rw [Writes.applyTo_empty] at hr hw
  rw [inTransaction, run_bind, hr]
  cases hp : p.run s with
  | mk result t =>
    rw [hp] at hw
    cases result with
    | error e => rfl
    | ok a => cases hk : keep a <;> simp [hk, run_commit hs, hw]

/-- A transaction is accepted wherever the program in it is, so that
transactions nest. -/
theorem accepted_inTransaction {p : Program V ε α} {s : Store V} (h : p.Accepted s)
    (keep : α → Bool) : (p.inTransaction keep).Accepted s := by
  obtain ⟨w, hr, -, hs⟩ := run_buffered (δ := ε) (w := .empty) h Writes.storable_empty
  refine accepted_bind.mpr ⟨accepted_buffered p .empty s, fun a t ha => ?_⟩
  rw [hr] at ha
  cases ha
  cases (p.run (Writes.applyTo .empty s)).1 with
  | error e => trivial
  | ok a =>
    dsimp only
    split
    · exact accepted_bind.mpr ⟨accepted_commit hs s, fun _ _ _ => trivial⟩
    · trivial

/-- A transaction keeps what the program leaves if the program succeeds,
and nothing otherwise. -/
theorem run_transactional {p : Program V ε α} {s : Store V} (h : p.Accepted s) :
    p.transactional.run s = p.runAtomic s := by
  rw [transactional, run_inTransaction h, runAtomic]
  rfl

end Run

end Program

end TokenBridge
