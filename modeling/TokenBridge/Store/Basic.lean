import TokenBridge.Bytes

/-!
# Stores

A store holds values under keys, which are octet strings, in ascending
order of the keys. The order is part of the type, so a store is
determined by what is found under each key (`Store.ext_get?`): two runs
that leave the same values behind leave the same store.

The view through which everything else is stated is `Store.get?`, with
one equation for each operation: `get?_insert`, `get?_erase`.
-/

namespace TokenBridge

/-- The entries of a list stand in strictly ascending order of their
keys. -/
def Ascending {V : Type} (entries : List (Bytes × V)) : Prop :=
  entries.Pairwise fun a b => a.1 < b.1

namespace Ascending

variable {V : Type}

/-! ## Ascending lists of entries -/

/-- The entries with one more, which takes the place of the entry under
its key, if there is one. -/
def insert (key : Bytes) (value : V) : List (Bytes × V) → List (Bytes × V)
  | [] => [(key, value)]
  | (k, v) :: rest =>
    if key < k then (key, value) :: (k, v) :: rest
    else if key = k then (key, value) :: rest
    else (k, v) :: insert key value rest

/-- The entries without the one under a key. -/
def erase (key : Bytes) (entries : List (Bytes × V)) : List (Bytes × V) :=
  entries.filter (·.1 ≠ key)

/-- The value under a key. -/
def find? (key : Bytes) : List (Bytes × V) → Option V
  | [] => none
  | (k, v) :: rest => if key = k then some v else find? key rest

theorem mem_insert {key : Bytes} {value : V} {entry : Bytes × V} {entries : List (Bytes × V)}
    (h : entry ∈ insert key value entries) : entry = (key, value) ∨ entry ∈ entries := by
  induction entries with
  | nil => simpa [insert] using h
  | cons head rest ih =>
    obtain ⟨k, v⟩ := head
    simp only [insert] at h
    repeat' split at h
    · simpa using h
    · rcases List.mem_cons.mp h with rfl | h <;> simp [*]
    · rcases List.mem_cons.mp h with rfl | h
      · simp
      · rcases ih h with rfl | h <;> simp [*]

theorem insert_ascending {key : Bytes} {value : V} {entries : List (Bytes × V)}
    (h : Ascending entries) : Ascending (insert key value entries) := by
  induction entries with
  | nil => simp [insert, Ascending]
  | cons head rest ih =>
    obtain ⟨k, v⟩ := head
    obtain ⟨hk, hrest⟩ := List.pairwise_cons.mp h
    simp only [insert]
    split
    · next hlt =>
      -- the new entry comes before all others
      refine List.pairwise_cons.mpr ⟨fun entry he => ?_, h⟩
      rcases List.mem_cons.mp he with rfl | he
      · exact hlt
      · exact List.lt_trans hlt (hk entry he)
    · next hlt =>
      split
      · next heq => subst heq; exact List.pairwise_cons.mpr ⟨hk, hrest⟩
      · next hne =>
        -- the first entry stays the first, also before the new one
        refine List.pairwise_cons.mpr ⟨fun entry he => ?_, ih hrest⟩
        rcases mem_insert he with rfl | he
        · rcases List.le_iff_lt_or_eq.mp (List.not_lt.mp hlt) with hlt | heq
          · exact hlt
          · exact absurd heq.symm hne
        · exact hk entry he

theorem erase_ascending {key : Bytes} {entries : List (Bytes × V)} (h : Ascending entries) :
    Ascending (erase key entries) :=
  h.sublist List.filter_sublist

theorem find?_insert (key other : Bytes) (value : V) (entries : List (Bytes × V)) :
    find? other (insert key value entries)
      = if other = key then some value else find? other entries := by
  induction entries with
  | nil => simp [insert, find?]
  | cons head rest ih =>
    obtain ⟨k, v⟩ := head
    simp only [insert]
    split
    · simp [find?]
    · split
      · next heq => subst heq; simp only [find?]; split <;> rfl
      · next hne =>
        simp only [find?, ih]
        split
        · next heq => subst heq; simp [Ne.symm hne]
        · rfl

theorem find?_erase (key other : Bytes) (entries : List (Bytes × V)) :
    find? other (erase key entries) = if other = key then none else find? other entries := by
  induction entries with
  | nil => simp [erase, find?]
  | cons head rest ih =>
    obtain ⟨k, v⟩ := head
    simp only [erase, List.filter_cons] at ih ⊢
    by_cases hk : k = key
    · subst hk
      simp only [ne_eq, not_true_eq_false, decide_false, Bool.false_eq_true, if_false, ih, find?]
      split <;> simp_all
    · simp only [ne_eq, hk, not_false_eq_true, decide_true, if_true, find?, ih]
      split
      · next heq => subst heq; simp [hk]
      · rfl

theorem find?_eq_none {key : Bytes} {entries : List (Bytes × V)}
    (h : ∀ entry ∈ entries, key < entry.1) : find? key entries = none := by
  induction entries with
  | nil => rfl
  | cons head rest ih =>
    obtain ⟨k, v⟩ := head
    have hk : key < k := h (k, v) List.mem_cons_self
    have hne : key ≠ k := by rintro rfl; exact List.lt_irrefl _ hk
    simp only [find?, if_neg hne]
    exact ih fun entry he => h entry (List.mem_cons_of_mem _ he)

theorem find?_eq_some_iff {key : Bytes} {value : V} {entries : List (Bytes × V)}
    (h : Ascending entries) : find? key entries = some value ↔ (key, value) ∈ entries := by
  induction entries with
  | nil => simp [find?]
  | cons head rest ih =>
    obtain ⟨k, v⟩ := head
    obtain ⟨hk, hrest⟩ := List.pairwise_cons.mp h
    simp only [find?, List.mem_cons, Prod.mk.injEq]
    split
    · next heq =>
      subst heq
      simp only [Option.some.injEq, true_and]
      refine ⟨fun h => .inl h.symm, fun h => h.elim Eq.symm fun hm => ?_⟩
      exact absurd (hk _ hm) (List.lt_irrefl _)
    · next hne => simp [ih hrest, hne]

/-- Ascending lists in which the same is found are equal. -/
theorem eq_of_find?_eq {l₁ l₂ : List (Bytes × V)} (h₁ : Ascending l₁) (h₂ : Ascending l₂)
    (h : ∀ key, find? key l₁ = find? key l₂) : l₁ = l₂ := by
  induction l₁ generalizing l₂ with
  | nil =>
    cases l₂ with
    | nil => rfl
    | cons head rest => simpa [find?] using h head.1
  | cons head₁ rest₁ ih =>
    obtain ⟨k₁, v₁⟩ := head₁
    obtain ⟨hk₁, hrest₁⟩ := List.pairwise_cons.mp h₁
    cases l₂ with
    | nil => simpa [find?] using h k₁
    | cons head₂ rest₂ =>
      obtain ⟨k₂, v₂⟩ := head₂
      obtain ⟨hk₂, hrest₂⟩ := List.pairwise_cons.mp h₂
      -- each list holds the first entry of the other
      have m₁ : (k₁, v₁) ∈ (k₂, v₂) :: rest₂ :=
        (find?_eq_some_iff h₂).mp (by rw [← h]; simp [find?])
      have m₂ : (k₂, v₂) ∈ (k₁, v₁) :: rest₁ :=
        (find?_eq_some_iff h₁).mp (by rw [h]; simp [find?])
      have heq : (k₁, v₁) = (k₂, v₂) := by
        rcases List.mem_cons.mp m₁ with e | m₁
        · exact e
        · rcases List.mem_cons.mp m₂ with e | m₂
          · exact e.symm
          · exact absurd (List.lt_trans (hk₂ _ m₁) (hk₁ _ m₂)) (List.lt_irrefl _)
      cases heq
      -- and under its key there is nothing in either rest
      congr 1
      refine ih hrest₁ hrest₂ fun key => ?_
      by_cases hkey : key = k₁
      · subst hkey
        rw [find?_eq_none hk₁, find?_eq_none hk₂]
      · simpa [find?, hkey] using h key

end Ascending

/-! ## Stores -/

/-- **Values under keys**, in ascending order of the keys. -/
@[ext] structure Store (V : Type) where
  /-- The entries. -/
  entries : List (Bytes × V)
  /-- They ascend strictly. -/
  ascending : Ascending entries

namespace Store

variable {V : Type}

/-- The store with nothing in it. -/
def empty : Store V := ⟨[], List.Pairwise.nil⟩

/-- The value under a key. -/
def get? (s : Store V) (key : Bytes) : Option V := Ascending.find? key s.entries

/-- The store with a value under a key. -/
def insert (s : Store V) (key : Bytes) (value : V) : Store V :=
  ⟨Ascending.insert key value s.entries, Ascending.insert_ascending s.ascending⟩

/-- The store with nothing under a key. -/
def erase (s : Store V) (key : Bytes) : Store V :=
  ⟨Ascending.erase key s.entries, Ascending.erase_ascending s.ascending⟩

@[simp] theorem get?_empty (key : Bytes) : (empty : Store V).get? key = none := rfl

@[simp] theorem get?_insert (s : Store V) (key other : Bytes) (value : V) :
    (s.insert key value).get? other = if other = key then some value else s.get? other :=
  Ascending.find?_insert ..

@[simp] theorem get?_erase (s : Store V) (key other : Bytes) :
    (s.erase key).get? other = if other = key then none else s.get? other :=
  Ascending.find?_erase ..

/-- The entries of a store are what is found under its keys. -/
theorem mem_entries_iff {s : Store V} {key : Bytes} {value : V} :
    (key, value) ∈ s.entries ↔ s.get? key = some value :=
  (Ascending.find?_eq_some_iff s.ascending).symm

/-- **A store is what is found in it.** -/
theorem ext_get? {s t : Store V} (h : ∀ key, s.get? key = t.get? key) : s = t :=
  Store.ext (Ascending.eq_of_find?_eq s.ascending t.ascending h)

end Store

/-! ## Windows -/

/-- **A window on a store**: the keys from a first one, up to but not
including an end, in either order. Either bound may be missing. -/
structure Window where
  /-- The first key, itself included. -/
  start : Option Bytes := none
  /-- The end, itself excluded. -/
  stop : Option Bytes := none
  /-- Whether the largest key comes first. -/
  descending : Bool := false

namespace Window

/-- Whether a key lies in the window. -/
def contains (w : Window) (key : Bytes) : Bool :=
  w.start.all (· ≤ key) && w.stop.all (key < ·)

/-- The entries of an ascending list that lie in the window, in
ascending order. -/
def clip {V : Type} (w : Window) (entries : List (Bytes × V)) : List (Bytes × V) :=
  entries.filter (w.contains ·.1)

/-- Ascending entries in the order of the window. -/
def arrange {V : Type} (w : Window) (entries : List (Bytes × V)) : List (Bytes × V) :=
  if w.descending then entries.reverse else entries

end Window

namespace Store

variable {V : Type}

/-- The entries of the store in a window, in its order. -/
def range (s : Store V) (w : Window) : List (Bytes × V) := w.arrange (w.clip s.entries)

end Store

end TokenBridge
