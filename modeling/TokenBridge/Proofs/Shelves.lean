import Mathlib.Data.Set.List
import TokenBridge.Proofs.Lookup

/-!
# Shelves of a store

A store is one long row of octets in order. What makes a table of a part of
it is that its keys stand together there, and nothing else between them; and
likewise the packets of one channel. This module calls such a part a shelf
(`Shelf`), and shows that going through a shelf finds what is under its keys,
all of it, once, and in order (`Shelf.exists_yields_scan`).

The bounds of a shelf are octets, though, and not keys. That octets between
the bounds are those that begin with some other octets is a matter of the
order alone (`Key.contains_window_iff`). That they are the octets of a key on
the shelf takes more. A name that begins with another name must not be taken
for it, which is what the lengths in front of the parts are for
(`Key.eq_append_of_join?`); and octets that begin like the keys of a shelf need
not be a key at all. They are if the store has only keys in it (`Store.Keyed`).
And so it is, because nothing is ever kept under anything else.
-/

namespace TokenBridge

open Program Store

/-! ## Octets that begin alike -/

namespace Key

/-- The next octets above all that begin with the given ones are found
behind the first octet, if they can be. -/
theorem successor?_cons {a : UInt8} {lead : Bytes} :
    successor? (a :: lead)
      = match successor? lead with
        | some stop => some (a :: stop)
        | none => if a = 0xFF then none else some [a + 1] := by
  simp only [successor?, List.reverse_cons, List.dropWhile_append]
  cases h : lead.reverse.dropWhile (· == 0xFF) with
  | nil =>
    by_cases ha : a = 0xFF
    · simp [ha]
    · simp [ha]
  | cons b rest => simp

/-- **The window from some octets to the next ones above them** shows what
begins with them. -/
theorem contains_window_iff {lead b : Bytes} :
    (⟨some lead, successor? lead, false⟩ : Window).contains b ↔ lead <+: b := by
  induction lead generalizing b with
  | nil => simp [Window.contains, successor?]
  | cons a lead ih =>
    cases b with
    | nil => simp [Window.contains]
    | cons c b =>
      specialize ih (b := b)
      rw [List.cons_prefix_cons, ← ih]
      simp only [Window.contains, successor?_cons]
      cases successor? lead with
      -- the bounds begin with the same octet, so what is between them does
      | some stop =>
        simp only [Option.all_some, Bool.and_eq_true, decide_eq_true_eq, List.cons_le_cons_iff,
          List.cons_lt_cons_iff]
        grind
      | none =>
        by_cases ha : a = 0xFF
        -- nothing is above the first octet, as nothing is above the others
        · simp only [ha, if_true, Option.all_some, Option.all_none, Bool.and_true,
            decide_eq_true_eq, List.cons_le_cons_iff]
          grind
        -- nothing is between the first octet and its successor
        · simp only [ha, if_false, Option.all_some, Option.all_none, Bool.and_true,
            Bool.and_eq_true, decide_eq_true_eq, List.cons_le_cons_iff, List.cons_lt_cons_iff,
            List.not_lt_nil, and_false, or_false]
          grind

/-- Beginning after the octets of a part is the same as beginning with the
least octets above them. -/
theorem append_zero_le_iff {a b : Bytes} : a ++ [0] ≤ b ↔ a < b := by
  induction a generalizing b with
  | nil =>
    cases b with
    | nil => decide
    | cons y b =>
      have : (0 : UInt8) ≤ y := UInt8.le_iff_toNat_le.mpr (Nat.zero_le _)
      simp [List.cons_le_cons_iff, UInt8.lt_or_eq_of_le this]
  | cons x a ih =>
    cases b with
    | nil => simp
    | cons y b => rw [List.cons_append, List.cons_le_cons_iff, List.cons_lt_cons_iff, ih]

/-- **The window from some point on** up to the next octets above the given ones
shows what begins with these and is behind that point. -/
theorem contains_window_from_iff {lead start b : Bytes} (hstart : lead ≤ start) :
    (⟨some start, successor? lead, false⟩ : Window).contains b ↔ lead <+: b ∧ start ≤ b := by
  rw [← contains_window_iff]
  simp only [Window.contains, Option.all_some, Bool.and_eq_true, decide_eq_true_eq]
  constructor
  · rintro ⟨hb, hstop⟩
    exact ⟨⟨List.le_trans hstart hb, hstop⟩, hb⟩
  · rintro ⟨⟨-, hstop⟩, hb⟩
    exact ⟨hb, hstop⟩

/-! ## Numbers in order -/

/-- Octets that are as many as others are compared before what follows
them. -/
theorem append_singleton_lt_iff {xs ys : Bytes} {a b : UInt8} (h : xs.length = ys.length) :
    xs ++ [a] < ys ++ [b] ↔ xs < ys ∨ xs = ys ∧ a < b := by
  induction xs generalizing ys with
  | nil =>
    obtain rfl := List.length_eq_zero_iff.mp h.symm
    simp [List.cons_lt_cons_iff]
  | cons x xs ih =>
    cases ys with
    | nil => cases h
    | cons y ys =>
      simp only [List.cons_append, List.cons_lt_cons_iff, ih (Nat.succ.inj h), List.cons.injEq]
      grind

/-- The digits of numbers, the highest first, are in the order of the
numbers. -/
theorem bigEndian_lt_iff {width m n : Nat} (hm : m < Nat.pow 256 width)
    (hn : n < Nat.pow 256 width) :
    Bytes.bigEndian width m < Bytes.bigEndian width n ↔ m < n := by
  induction width generalizing m n with
  | zero => simp_all [Bytes.bigEndian]
  | succ width ih =>
    have hpow : Nat.pow 256 (width + 1) = 256 * Nat.pow 256 width := Nat.pow_succ'
    have hm' : m / 256 < Nat.pow 256 width := Nat.div_lt_of_lt_mul (hpow ▸ hm)
    have hn' : n / 256 < Nat.pow 256 width := Nat.div_lt_of_lt_mul (hpow ▸ hn)
    -- the digits before the last one are those of a smaller number
    have heq : Bytes.bigEndian width (m / 256) = Bytes.bigEndian width (n / 256)
        ↔ m / 256 = n / 256 := by
      refine ⟨fun h => ?_, fun h => by rw [h]⟩
      have hnat := congrArg Bytes.toNat h
      rw [Bytes.toNat_bigEndian, Bytes.toNat_bigEndian] at hnat
      exact (Nat.mod_eq_of_lt hm').symm.trans (hnat.trans (Nat.mod_eq_of_lt hn'))
    rw [Bytes.bigEndian, Bytes.bigEndian, append_singleton_lt_iff (by simp), ih hm' hn', heq,
      UInt8.lt_iff_toNat_lt, Nat.toUInt8_eq, Nat.toUInt8_eq, UInt8.toNat_ofNat',
      UInt8.toNat_ofNat']
    omega

/-- **Keys ascend as their numbers do.** -/
theorem sequencePart_lt_iff {m n : UInt64} : sequencePart m < sequencePart n ↔ m < n := by
  rw [sequencePart, sequencePart, bigEndian_lt_iff m.toNat_lt n.toNat_lt,
    UInt64.lt_iff_toNat_lt]

/-- What follows the same octets is in the order of the whole. -/
theorem append_lt_append_iff {lead xs ys : Bytes} : lead ++ xs < lead ++ ys ↔ xs < ys := by
  induction lead with
  | nil => rfl
  | cons a lead ih => simp [ih]

theorem append_le_append_iff {lead xs ys : Bytes} : lead ++ xs ≤ lead ++ ys ↔ xs ≤ ys := by
  rw [← List.not_lt, ← List.not_lt, append_lt_append_iff]

/-- What begins with some octets does not come before them. -/
theorem le_append (lead part : Bytes) : lead ≤ lead ++ part := by
  have h : lead ++ [] ≤ lead ++ part := append_le_append_iff.mpr (List.nil_le part)
  rwa [List.append_nil] at h

end Key

/-! ## Keys that begin with the same parts -/

/-- How many parts the keys of a space have. -/
def Space.arity : Space → Nat
  | .settings | .version | .lastAck => 0
  | .channels | .classes | .collections => 1
  | .tokens | .deposits | .shipments | .pending => 2

namespace Key

theorem length_parts (k : Key) : k.parts.length = k.space.arity := by
  cases k <;> rfl

/-- What is read as a key of a space is one. -/
theorem space_of_ofSpace? {space : Space} {rest : Bytes} {k : Key}
    (h : ofSpace? space rest = some k) : k.space = space := by
  cases space <;> simp only [ofSpace?, Option.bind_eq_bind, Option.bind_eq_some_iff,
    Option.pure_def, Option.some.injEq, reduceCtorEq] at h
  case channels | classes | collections =>
    obtain ⟨_, -, rfl⟩ := h
    rfl
  case tokens | deposits =>
    obtain ⟨_, -, _, -, _, -, rfl⟩ := h
    rfl
  case shipments | pending =>
    obtain ⟨_, -, _, -, rfl⟩ := h
    rfl

/-- Parts have a common start if they are short enough. -/
theorem exists_lead? {parts : List Bytes} (h : ∀ part ∈ parts, part.length < UInt16.size) :
    ∃ lead, lead? parts = some lead := by
  induction parts with
  | nil => exact ⟨_, rfl⟩
  | cons part rest ih =>
    obtain ⟨hpart, hrest⟩ := List.forall_mem_cons.mp h
    obtain ⟨lead, hlead⟩ := ih hrest
    exact ⟨_, by rw [lead?, frame?_of_lt hpart, hlead]; rfl⟩

/-- A key is the common start of its first parts, and its last part. -/
theorem join?_append_singleton (parts : List Bytes) (part : Bytes) :
    join? (parts ++ [part]) = (lead? parts).map (· ++ part) := by
  induction parts with
  | nil => rfl
  | cons first rest ih =>
    obtain ⟨next, others, h⟩ : ∃ next others, rest ++ [part] = next :: others := by
      cases rest <;> exact ⟨_, _, rfl⟩
    rw [List.cons_append, h, join?, ← h, ih, lead?]
    cases frame? first <;> cases lead? rest <;> simp

/-- A key with short parts has octets. -/
theorem exists_encode? {k : Key} (h : ∀ part ∈ k.parts, part.length < UInt16.size) :
    ∃ b, k.encode? = some b := by
  obtain ⟨firsts, last, hparts⟩ : ∃ firsts last, Bytes.ofText k.space.name :: k.parts
      = firsts ++ [last] :=
    ⟨_, _, (List.dropLast_concat_getLast (List.cons_ne_nil _ _)).symm⟩
  obtain ⟨lead, hlead⟩ : ∃ lead, lead? firsts = some lead := exists_lead? fun part hpart => by
    have hmem : part ∈ Bytes.ofText k.space.name :: k.parts := by simp [hparts, hpart]
    obtain rfl | hmem := List.mem_cons.mp hmem
    · exact length_name_lt k.space
    · exact h part hmem
  exact ⟨_, by rw [encode?, hparts, join?_append_singleton, hlead, Option.map_some]⟩

/-- **Parts are not taken for others**, not even where one begins with another:
what begins like keys with some first parts has these first parts. -/
theorem eq_append_of_join? {parts firsts : List Bytes} {lead part : Bytes}
    (hlength : parts.length = firsts.length + 1) (hlead : lead? firsts = some lead)
    (h : join? parts = some (lead ++ part)) : parts = firsts ++ [part] := by
  induction firsts generalizing parts lead with
  | nil =>
    obtain ⟨last, rfl⟩ := List.length_eq_one_iff.mp hlength
    cases hlead
    simpa [join?] using h
  | cons first firsts ih =>
    obtain ⟨p, q, rest, rfl⟩ : ∃ p q rest, parts = p :: q :: rest := by
      obtain _ | ⟨p, _ | ⟨q, rest⟩⟩ := parts
      · cases hlength
      · cases hlength
      · exact ⟨p, q, rest, rfl⟩
    obtain ⟨framed, hframed, others, hothers, heq⟩ := join?_cons_eq_some_iff.mp h
    simp only [lead?, Option.bind_eq_bind, Option.bind_eq_some_iff, Option.pure_def,
      Option.some.injEq] at hlead
    obtain ⟨framed', hframed', lead', hlead', rfl⟩ := hlead
    -- the part in front is taken off on both sides
    have hunframe := unframe?_append hframed others
    rw [heq, List.append_assoc, unframe?_append hframed', Option.some.injEq,
      Prod.mk.injEq] at hunframe
    obtain ⟨rfl, rfl⟩ := hunframe
    rw [ih (Nat.succ.inj hlength) hlead' hothers, List.cons_append]

/-- **The keys that begin like those of a space with some first parts** are
those. -/
theorem encode?_eq_append_iff {space : Space} {parts : List Bytes} {lead part : Bytes} {k : Key}
    (harity : space.arity = parts.length + 1)
    (hlead : lead? (Bytes.ofText space.name :: parts) = some lead) :
    k.encode? = some (lead ++ part) ↔ k.space = space ∧ k.parts = parts ++ [part] := by
  constructor
  · intro h
    -- the space is read off first, since the number of parts depends on it
    have hspace : k.space = space := by
      have hkeyed : space ∈ keyed := by
        cases space with
        | settings | version | lastAck => cases harity
        | _ => decide
      simp only [lead?, Option.bind_eq_bind, Option.bind_eq_some_iff, Option.pure_def,
        Option.some.injEq] at hlead
      obtain ⟨framed, hframed, rest, -, rfl⟩ := hlead
      have hdecode := decode?_of_encode? h
      rw [List.append_assoc, decode?_append hkeyed hframed] at hdecode
      exact space_of_ofSpace? hdecode
    subst hspace
    have hlength : (Bytes.ofText k.space.name :: k.parts).length
        = (Bytes.ofText k.space.name :: parts).length + 1 := by
      simp [length_parts, harity]
    exact ⟨rfl, List.tail_eq_of_cons_eq (eq_append_of_join? hlength hlead h)⟩
  · rintro ⟨rfl, hparts⟩
    rw [encode?, hparts, ← List.cons_append, join?_append_singleton, hlead]
    rfl

end Key

/-! ## Stores of keys -/

/-- **Whether there is nothing in a store but what is under keys.** -/
def Store.Keyed (s : Store Entry) : Prop := ∀ b, (∀ k : Key, k.encode? ≠ some b) → s.get? b = none

namespace Store.Keyed

variable {s u : Store Entry}

theorem empty : Store.Keyed .empty := fun _ _ => rfl

/-- Where only what is under keys has changed, there is nothing else. -/
theorem of_changedOnly {P : Key → Prop} (h : ChangedOnly P s u) (hs : s.Keyed) : u.Keyed :=
  fun b hb => (h b fun k _ => hb k).trans (hs b hb)

/-- Keeping an entry under a key keeps it so. -/
theorem keep {k : Key} {e : Entry} (hs : s.Keyed) : (s.keep k e).Keyed :=
  of_changedOnly (P := (· = k)) (.keep rfl) hs

/-- Where there is something, there is a key. -/
theorem exists_key {b : Bytes} {e : Entry} (hs : s.Keyed) (h : s.get? b = some e) :
    ∃ k : Key, k.encode? = some b :=
  Classical.byContradiction fun hnone => by cases (hs b (not_exists.mp hnone)).symm.trans h

end Store.Keyed

/-! ## Going through a space -/

/-- **Going through a space finds what begins with the given parts**, in
ascending order, from any last part on. -/
theorem Table.exists_yields_scan (s : Store Entry) {space : Space} {parts : List Bytes}
    {lead : Bytes} (hlead : Key.lead? (Bytes.ofText space.name :: parts) = some lead) :
    ∃ entries : List (Bytes × Entry),
      (∀ part e, (part, e) ∈ entries ↔ s.get? (lead ++ part) = some e)
        ∧ Ascending entries
        ∧ ∀ after, (Table.scan space parts after).Yields s
            (entries.filter fun x => after.all (· < x.1)) s := by
  refine ⟨(s.entries.filter fun x => lead <+: x.1).map fun x => (x.1.drop lead.length, x.2),
    fun part e => ?_, ?_, fun after => ?_⟩
  · simp only [List.mem_map, List.mem_filter, decide_eq_true_eq, Prod.exists, Prod.mk.injEq,
      Store.mem_entries_iff]
    constructor
    · rintro ⟨b, _, ⟨hget, ⟨rest, rfl⟩⟩, rfl, rfl⟩
      rw [List.drop_left]
      exact hget
    · intro hget
      exact ⟨_, e, ⟨hget, ⟨part, rfl⟩⟩, List.drop_left, rfl⟩
  · -- the keys ascend, and so does what is left of them without what they share
    have hsorted : Ascending (s.entries.filter fun x => lead <+: x.1) :=
      s.ascending.sublist List.filter_sublist
    refine List.pairwise_map.mpr (hsorted.imp_of_mem fun {a b} ha hb hlt => ?_)
    obtain ⟨x, hx⟩ := of_decide_eq_true (List.mem_filter.mp ha).2
    obtain ⟨y, hy⟩ := of_decide_eq_true (List.mem_filter.mp hb).2
    rw [← hx, ← hy] at hlt ⊢
    rw [List.drop_left, List.drop_left]
    exact Key.append_lt_append_iff.mp hlt
  · obtain ⟨start, hstart, hfrom, hscan⟩ : ∃ start, lead ≤ start
        ∧ (∀ part, start ≤ lead ++ part ↔ after.all (· < part))
        ∧ (Table.scan space parts after).Yields s
            ((s.range ⟨some start, Key.successor? lead, false⟩).map
              fun x => (x.1.drop lead.length, x.2)) s := by
      simp only [Table.scan, hlead]
      cases after with
      | none => exact ⟨lead, List.le_refl lead, fun part => by simp [Key.le_append], rfl⟩
      | some a =>
        refine ⟨lead ++ (a ++ [0]), Key.le_append _ _, fun part => ?_,
          by rw [← List.append_assoc]; rfl⟩
        rw [Key.append_le_append_iff, Key.append_zero_le_iff]
        simp
    -- what is in the window begins with the parts and is behind its start
    have hwindow (x : Bytes × Entry) :
        (⟨some start, Key.successor? lead, false⟩ : Window).contains x.1
          = (after.all (· < x.1.drop lead.length) && decide (lead <+: x.1)) := by
      rw [Bool.eq_iff_iff, Key.contains_window_from_iff hstart, Bool.and_eq_true,
        decide_eq_true_eq, and_comm]
      refine and_congr_left fun hbegins => ?_
      obtain ⟨rest, hrest⟩ := hbegins
      rw [← hrest, List.drop_left, hfrom]
    rw [List.filter_map, List.filter_filter]
    simpa only [Store.range, Window.arrange, Window.clip, Bool.false_eq_true, if_false, hwindow,
      Function.comp_def] using hscan

/-- **Going through a space finds the same** in two stores that differ in other
spaces only. -/
theorem Table.exists_run_scan {P : Key → Prop} {s u : Store Entry} (h : ChangedOnly P s u)
    {space : Space} (hP : ∀ k, P k → k.space ≠ space) {parts : List Bytes}
    (harity : space.arity = parts.length + 1) (after : Option Bytes) :
    ∃ r, (Table.scan space parts after).run s = (r, s)
      ∧ (Table.scan space parts after).run u = (r, u) := by
  cases hlead : Key.lead? (Bytes.ofText space.name :: parts) with
  | none =>
    have hrun (m : Store Entry) :
        (Table.scan space parts after).run m = (.error (.abort .longKey), m) := by
      rw [Table.scan, hlead]
      rfl
    exact ⟨_, hrun s, hrun u⟩
  | some lead =>
    obtain ⟨entries, hentries, hsorted, hscan⟩ := Table.exists_yields_scan s hlead
    obtain ⟨entries', hentries', hsorted', hscan'⟩ := Table.exists_yields_scan u hlead
    have hget (part : Bytes) : u.get? (lead ++ part) = s.get? (lead ++ part) := by
      refine h _ fun k hk hencoded => hP k hk ?_
      exact ((Key.encode?_eq_append_iff harity hlead).mp hencoded).1
    have heq : entries' = entries := by
      refine Ascending.eq_of_find?_eq hsorted' hsorted fun part => Option.ext fun e => ?_
      rw [Ascending.find?_eq_some_iff hsorted', Ascending.find?_eq_some_iff hsorted, hentries',
        hentries, hget]
    exact ⟨_, hscan after, heq ▸ hscan' after⟩

/-! ## Going through a shelf -/

/-- **A shelf of the store**: the keys of a space that share all parts but the
last. -/
structure Shelf (ι : Type) where
  /-- The space. -/
  space : Space
  /-- The parts that the keys share. -/
  parts : List Bytes
  /-- A key of the shelf. -/
  key : ι → Key
  /-- The last part of a key. -/
  part : ι → Bytes
  /-- The keys have one part more than they share. -/
  arity_space : space.arity = parts.length + 1
  /-- The keys are in the space, and have the parts that they share. -/
  isKey : ∀ i, (key i).space = space ∧ (key i).parts = parts ++ [part i]
  /-- There are no other such keys. -/
  exists_key : ∀ k b, k.space = space → k.parts = parts ++ [b] → ∃ i, k = key i
  /-- The last part tells them apart. -/
  part_injective : Function.Injective part

namespace Shelf

/-- The channels. -/
def channels : Shelf String where
  space := .channels
  parts := []
  key := .channel
  part := Bytes.ofText
  arity_space := rfl
  isKey _ := ⟨rfl, rfl⟩
  exists_key k b hspace _ := by cases k <;> simp_all [Key.space]
  part_injective _ _ := Bytes.ofText_injective

/-- The classes. -/
def classes : Shelf String where
  space := .classes
  parts := []
  key := .tokenClass
  part := Bytes.ofText
  arity_space := rfl
  isKey _ := ⟨rfl, rfl⟩
  exists_key k b hspace _ := by cases k <;> simp_all [Key.space]
  part_injective _ _ := Bytes.ofText_injective

theorem sequencePart_injective : Function.Injective Key.sequencePart :=
  Function.LeftInverse.injective Key.sequenceOf_sequencePart

/-- The packets that were sent on a channel. -/
def shipments (channel : String) : Shelf UInt64 where
  space := .shipments
  parts := [Bytes.ofText channel]
  key := .shipment channel
  part := Key.sequencePart
  arity_space := rfl
  isKey _ := ⟨rfl, rfl⟩
  exists_key k b hspace hparts := by
    cases k <;> simp_all [Key.space, Key.parts]
    exact Bytes.ofText_injective hparts.1
  part_injective := sequencePart_injective

/-- The marks of the packets that are pending on a channel. -/
def pending (channel : String) : Shelf UInt64 where
  space := .pending
  parts := [Bytes.ofText channel]
  key := .pending channel
  part := Key.sequencePart
  arity_space := rfl
  isKey _ := ⟨rfl, rfl⟩
  exists_key k b hspace hparts := by
    cases k <;> simp_all [Key.space, Key.parts]
    exact Bytes.ofText_injective hparts.1
  part_injective := sequencePart_injective

variable {ι : Type} {s : Store Entry} (shelf : Shelf ι)

/-- The octets that begin like the keys of a shelf are those of the keys. -/
theorem encode?_eq_iff {lead b : Bytes} {k : Key}
    (hlead : Key.lead? (Bytes.ofText shelf.space.name :: shelf.parts) = some lead) :
    k.encode? = some (lead ++ b) ↔ ∃ i, k = shelf.key i ∧ b = shelf.part i := by
  rw [Key.encode?_eq_append_iff shelf.arity_space hlead]
  constructor
  · rintro ⟨hspace, hparts⟩
    obtain ⟨i, rfl⟩ := shelf.exists_key k b hspace hparts
    refine ⟨i, rfl, ?_⟩
    rw [(shelf.isKey i).2] at hparts
    simpa using hparts.symm
  · rintro ⟨i, rfl, rfl⟩
    exact shelf.isKey i

/-- **Going through a shelf finds what is under its keys**, all of it, once, and
in the order of the last parts of the keys, from any key on. -/
theorem exists_yields_scan (hs : s.Keyed)
    (hfits : ∀ part ∈ shelf.parts, part.length < UInt16.size) :
    ∃ placed : List (ι × Entry),
      (∀ i e, (i, e) ∈ placed ↔ s.look (shelf.key i) = some e)
        ∧ (placed.Pairwise fun x y => shelf.part x.1 < shelf.part y.1)
        ∧ ∀ after : Option ι,
          (Table.scan shelf.space shelf.parts (after.map shelf.part)).Yields s
            ((placed.filter fun x => after.all (shelf.part · < shelf.part x.1)).map
              fun x => (shelf.part x.1, x.2)) s := by
  obtain ⟨lead, hlead⟩ : ∃ lead,
      Key.lead? (Bytes.ofText shelf.space.name :: shelf.parts) = some lead :=
    Key.exists_lead? (List.forall_mem_cons.mpr ⟨Key.length_name_lt _, hfits⟩)
  obtain ⟨entries, hentries, hsorted, hscan⟩ := Table.exists_yields_scan s hlead
  -- what is found is under the key of an index
  have hplaced (part : Bytes) (e : Entry) (hmem : (part, e) ∈ entries) :
      ∃ i, part = shelf.part i := by
    obtain ⟨k, hk⟩ := hs.exists_key ((hentries part e).mp hmem)
    obtain ⟨i, -, hi⟩ := (shelf.encode?_eq_iff hlead).mp hk
    exact ⟨i, hi⟩
  obtain ⟨placed, rfl⟩ :
      entries ∈ Set.range (List.map fun x : ι × Entry => (shelf.part x.1, x.2)) := by
    rw [Set.range_list_map]
    intro x hx
    obtain ⟨i, hi⟩ := hplaced x.1 x.2 hx
    exact ⟨(i, x.2), Prod.ext hi.symm rfl⟩
  rw [Ascending, List.pairwise_map] at hsorted
  refine ⟨placed, fun i e => ?_, hsorted, fun after => ?_⟩
  · have hkey : (shelf.key i).encode? = some (lead ++ shelf.part i) :=
      (shelf.encode?_eq_iff hlead).mpr ⟨i, rfl, rfl⟩
    have hmem :
        (i, e) ∈ placed ↔ (shelf.part i, e) ∈ placed.map fun x => (shelf.part x.1, x.2) := by
      refine ⟨fun h => List.mem_map_of_mem h, fun h => ?_⟩
      obtain ⟨⟨j, e'⟩, hj, heq⟩ := List.mem_map.mp h
      obtain ⟨hpart, rfl⟩ := Prod.mk.inj heq
      obtain rfl : j = i := shelf.part_injective hpart
      exact hj
    rw [hmem, hentries, look, hkey, Option.bind_some]
  · have h := hscan (after.map shelf.part)
    rw [List.filter_map] at h
    simpa only [Option.all_map, Function.comp_def] using h

/-- **Going through a shelf of a table** finds its records in the same way. -/
theorem exists_yields_records {κ α : Type} (t : Table κ α) {index : ι → κ}
    (hkey : ∀ i, t.key (index i) = shelf.key i) (hs : s.Keyed)
    (hfits : ∀ part ∈ shelf.parts, part.length < UInt16.size) :
    ∃ rows : List (ι × α),
      (∀ i a, (i, a) ∈ rows ↔ t.view s (index i) = some a)
        ∧ (rows.Pairwise fun x y => shelf.part x.1 < shelf.part y.1)
        ∧ ∀ after : Option ι,
          (do
            let entries ← Table.scan shelf.space shelf.parts (after.map shelf.part)
            return entries.filterMap fun x => t.record? x.2 : Bridge (List α)).Yields s
              ((rows.filter fun x => after.all (shelf.part · < shelf.part x.1)).map
                Prod.snd) s := by
  obtain ⟨placed, hplaced, hsorted, hscan⟩ := shelf.exists_yields_scan hs hfits
  refine ⟨placed.filterMap fun x => (t.record? x.2).map (x.1, ·), fun i a => ?_, ?_,
    fun after => ?_⟩
  · simp only [List.mem_filterMap, Prod.exists, Option.map_eq_some_iff, Prod.mk.injEq, hplaced,
      Table.view, hkey, Option.bind_eq_some_iff]
    grind
  · refine List.pairwise_filterMap.mpr (hsorted.imp fun {x y} hlt a ha b hb => ?_)
    obtain ⟨_, -, rfl⟩ := Option.map_eq_some_iff.mp ha
    obtain ⟨_, -, rfl⟩ := Option.map_eq_some_iff.mp hb
    exact hlt
  · refine yields_bind.mpr ⟨_, _, hscan after, yields_pure.mpr ⟨?_, rfl⟩⟩
    rw [List.filterMap_map, List.filterMap_filter, List.filter_filterMap, List.map_filterMap]
    congr 1
    funext x
    cases h : t.record? x.2 <;> simp [Option.filter, h]

end Shelf

/-! ## Packets on a shelf -/

section

variable {s u : Store Entry} {channel : String}

/-- **The packets that are found to be pending are those that are marked**, and
they are found in the order of their numbers. -/
theorem Table.exists_yields_marked (hs : s.Keyed)
    (hfits : (Bytes.ofText channel).length < UInt16.size) :
    ∃ sequences, (Table.pendingOn channel).Yields s sequences s
      ∧ (∀ n, n ∈ sequences ↔ s.look (.pending channel n) ≠ none)
      ∧ sequences.Pairwise (· < ·) := by
  obtain ⟨placed, hplaced, hsorted, hscan⟩ :=
    (Shelf.pending channel).exists_yields_scan hs (by simpa [Shelf.pending] using hfits)
  refine ⟨placed.map Prod.fst, ?_, fun n => ?_, ?_⟩
  · refine yields_bind.mpr ⟨_, _, hscan none, yields_pure.mpr ⟨?_, rfl⟩⟩
    have hall : (placed.filter fun _ => true) = placed := List.filter_eq_self.mpr fun _ _ => rfl
    simp [Shelf.pending, Function.comp_def, hall]
  · simp [hplaced, Shelf.pending, Option.ne_none_iff_exists']
  · exact List.pairwise_map.mpr (hsorted.imp Key.sequencePart_lt_iff.mp)

theorem Table.of_yields_pendingOn {sequences : List UInt64} (hs : s.Keyed)
    (h : (Table.pendingOn channel).Yields s sequences u) :
    (∀ n, n ∈ sequences ↔ s.look (.pending channel n) ≠ none)
      ∧ sequences.Pairwise (· < ·) := by
  by_cases hfits : (Bytes.ofText channel).length < UInt16.size
  · obtain ⟨found, hfound, hmarked, hsorted⟩ := Table.exists_yields_marked hs hfits
    obtain ⟨rfl, -⟩ := h.unique hfound
    exact ⟨hmarked, hsorted⟩
  · have hframe : Key.frame? (Bytes.ofText channel) = none := if_neg hfits
    simp [Table.pendingOn, Table.scan, Key.lead?, hframe] at h

/-- **The packets that were sent on a channel are found** in the order of their
numbers, from any number on. -/
theorem Table.exists_yields_shipmentsAfter (hs : s.Keyed)
    (hfits : (Bytes.ofText channel).length < UInt16.size) :
    ∃ sent : List (UInt64 × Entry),
      (∀ n e, (n, e) ∈ sent ↔ s.look (.shipment channel n) = some e)
        ∧ sent.Pairwise (·.1 < ·.1)
        ∧ ∀ after : Option UInt64, (Table.shipmentsAfter channel after).Yields s
            ((sent.filter fun x => after.all (· < x.1)).filterMap
              fun x => Table.shipments.record? x.2) s := by
  obtain ⟨sent, hsent, hsorted, hscan⟩ :=
    (Shelf.shipments channel).exists_yields_scan hs (by simpa [Shelf.shipments] using hfits)
  refine ⟨sent, hsent, hsorted.imp Key.sequencePart_lt_iff.mp, fun after => ?_⟩
  refine yields_bind.mpr ⟨_, _, hscan after, yields_pure.mpr ⟨?_, rfl⟩⟩
  simp only [Shelf.shipments, Key.sequencePart_lt_iff, List.filterMap_map]
  rfl

end

/-! ## Places of their own -/

/-- **Everything in the store has a place of its own.** Keys whose parts are short
enough have octets, and two of them have the same octets only if they are the
same key of the same table. And whatever the store holds under keys, the marks
and the packets of a channel are found without those of any other channel, be
its name the start of the other name or the other way around: each number under
which there is something, once, in ascending order, and from any number on. -/
theorem Store.places_apart {s : Store Entry} (hs : s.Keyed) :
    (∀ k k' : Key, (∀ part ∈ k.parts, part.length ≤ 65535) →
      (∀ part ∈ k'.parts, part.length ≤ 65535) →
      ∃ b b', k.encode? = some b ∧ k'.encode? = some b' ∧ (b = b' → k = k'))
    ∧ ∀ channel : String, (Bytes.ofText channel).length ≤ 65535 →
      (∃ sequences, (Table.pendingOn channel).Yields s sequences s
        ∧ (∀ n, n ∈ sequences ↔ s.look (.pending channel n) ≠ none)
        ∧ sequences.Pairwise (· < ·))
      ∧ ∃ sent : List (UInt64 × Entry),
        (∀ n e, (n, e) ∈ sent ↔ s.look (.shipment channel n) = some e)
          ∧ sent.Pairwise (·.1 < ·.1)
          ∧ ∀ after : Option UInt64, (Table.shipmentsAfter channel after).Yields s
              ((sent.filter fun x => after.all (· < x.1)).filterMap
                fun x => Table.shipments.record? x.2) s := by
  constructor
  · intro k k' hk hk'
    obtain ⟨b, hb⟩ := Key.exists_encode? fun part hpart => Nat.lt_succ_of_le (hk part hpart)
    obtain ⟨b', hb'⟩ := Key.exists_encode? fun part hpart => Nat.lt_succ_of_le (hk' part hpart)
    refine ⟨b, b', hb, hb', ?_⟩
    rintro rfl
    exact Key.eq_of_encode?_eq hb hb'
  · intro channel hchannel
    have hfits : (Bytes.ofText channel).length < UInt16.size := Nat.lt_succ_of_le hchannel
    exact ⟨Table.exists_yields_marked hs hfits, Table.exists_yields_shipmentsAfter hs hfits⟩

/-- The marks of packets on three channels, the names of which begin alike, and
one of the packets. -/
def alikeLanes : Store Entry :=
  ((((empty.keep (.pending "channel-1" 10) .pending).keep (.pending "channel-1" 9) .pending).keep
    (.pending "channel-" 1) .pending).keep (.pending "channel-10" 2) .pending).keep
    (.shipment "channel-1" 9)
    (.shipment
      { sequence := 9, channel := "channel-1", classId := "whales", tokenIds := ["w1"],
        tokenUris := [none], custody := .escrowed, sender := "anna", receiver := "bob",
        deadline := 1, status := .pending })

theorem Store.places_apart_alikeLanes :
    alikeLanes.Keyed
    ∧ (∃ sequences, (Table.pendingOn "channel-1").Yields alikeLanes sequences alikeLanes
        ∧ (∀ n, n ∈ sequences ↔ alikeLanes.look (.pending "channel-1" n) ≠ none)
        ∧ sequences.Pairwise (· < ·))
    ∧ ((Table.pendingOn "channel-1").run alikeLanes).1.toOption = some [9, 10] :=
  have hs : alikeLanes.Keyed := .keep (.keep (.keep (.keep (.keep .empty))))
  ⟨hs, ((Store.places_apart hs).2 "channel-1" (by decide +kernel)).1, by decide +kernel⟩

end TokenBridge
