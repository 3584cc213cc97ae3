import Mathlib.Data.List.Sort
import TokenBridge.Proofs.Marks
import TokenBridge.Proofs.Lookup

/-!
# Two runs side by side

When does it make no difference to a callback what has been done for other
channels in the meantime? It may well look at records of theirs: it asks for
deposits that turn out not to be its own, and it tries to mint tokens that exist
already. What stands there may differ from one run to another, and the callback
has to come to the same end all the same.

So two runs of a program are compared. `Program.Respects` says that from stores
that stand in a relation the program ends in the same way and leaves stores that
stand in the relation. The relation that is meant is `Territory.Abreast`. A
`Territory` has the keys that are a channel's own. Two stores are alike in it if
the same stands under these keys, and if the records outside of it tell the
channel the same, which is little: that a deposit is not for the channel, and
that a token exists. Besides, the relation keeps account of what the two runs
have changed, which is nothing but what is the channel's own, and the same in
both.
-/

namespace TokenBridge

namespace Program

variable {V ε δ α β σ : Type} [Blank V] {R : Store V → Store V → Prop}

/-! ## Programs that respect a relation -/

/-- **Whether a program respects a relation** of stores: run on two that stand in
it, the program ends in the same way and leaves two that stand in it. -/
def Respects (R : Store V → Store V → Prop) (p : Program V ε α) : Prop :=
  ∀ s s', R s s' → (p.run s').1 = (p.run s).1 ∧ R (p.run s).2 (p.run s').2

/-- A program that only reads respects a relation if it reads the same in
stores that stand in it, or can do without what it reads. -/
theorem respects_of_reads {p : Program V ε α}
    (h : ∀ s s', R s s' → ∃ r, p.run s = (r, s) ∧ p.run s' = (r, s')) : p.Respects R := by
  intro s s' hR
  obtain ⟨r, hs, hs'⟩ := h s s' hR
  rw [hs, hs']
  exact ⟨rfl, hR⟩

theorem respects_pure {a : α} : (pure a : Program V ε α).Respects R :=
  respects_of_reads fun _ _ _ => ⟨.ok a, rfl, rfl⟩

theorem respects_fail {f : Failure ε} : (fail f : Program V ε α).Respects R :=
  respects_of_reads fun _ _ _ => ⟨.error f, rfl, rfl⟩

/-- A failure respects anything, whatever would come after it. -/
theorem respects_throw_bind {cause : ε} {f : α → Program V ε β} :
    (throw cause >>= f).Respects R :=
  respects_of_reads fun _ _ _ => ⟨.error (.error cause), rfl, rfl⟩

theorem respects_ofOption {cause : ε} {o : Option α} :
    (ofOption cause o : Program V ε α).Respects R := by
  cases o
  · exact respects_fail
  · exact respects_pure

theorem respects_ofExcept {x : Except ε α} : (ofExcept x : Program V ε α).Respects R := by
  cases x
  · exact respects_fail
  · exact respects_pure

/-- **A chain respects what its links respect.** A link need only do so for the
results that the one before it can have. -/
theorem Respects.bind_of {p : Program V ε α} {f : α → Program V ε β} (hp : p.Respects R)
    (hf : ∀ a s s' m, R s s' → p.Yields s a m → (f a).Respects R) : (p >>= f).Respects R := by
  intro s s' h
  obtain ⟨heq, hR⟩ := hp s s' h
  simp only [run_bind]
  rcases hs : p.run s with ⟨r, m⟩
  rcases hs' : p.run s' with ⟨r', m'⟩
  rw [hs, hs'] at heq hR
  obtain rfl : r' = r := heq
  cases r' with
  | error e => exact ⟨rfl, hR⟩
  | ok a => exact hf a s s' m h hs m m' hR

theorem Respects.bind {p : Program V ε α} {f : α → Program V ε β} (hp : p.Respects R)
    (hf : ∀ a, (f a).Respects R) : (p >>= f).Respects R :=
  hp.bind_of fun a _ _ _ _ _ => hf a

theorem Respects.map {p : Program V ε α} (hp : p.Respects R) (f : α → β) :
    (f <$> p).Respects R := by
  rw [map_eq_pure_bind]
  exact hp.bind fun _ => respects_pure

/-- A check that goes on or objects. -/
theorem respects_guard {c : Prop} [Decidable c] {cause : ε} {next : Unit → Program V ε α}
    (h : (next ()).Respects R) : (if c then throw cause >>= next else next ()).Respects R := by
  split
  · exact respects_throw_bind
  · exact h

/-- **A loop respects what its turns respect.** -/
theorem respects_forM {is : List α} {f : α → Program V ε Unit}
    (h : ∀ i ∈ is, (f i).Respects R) : (forM is f).Respects R := by
  induction is with
  | nil => exact respects_pure
  | cons i is ih =>
    obtain ⟨hi, his⟩ := List.forall_mem_cons.mp h
    exact hi.bind fun _ => ih his

theorem respects_foldlM {is : List α} {f : σ → α → Program V ε σ} {x : σ}
    (h : ∀ y, ∀ i ∈ is, (f y i).Respects R) : (is.foldlM f x).Respects R := by
  induction is generalizing x with
  | nil => exact respects_pure
  | cons i is ih =>
    rw [List.foldlM_cons]
    exact (h x i List.mem_cons_self).bind fun y =>
      ih fun y i hi => h y i (List.mem_cons_of_mem _ hi)

/-- How the program ends is the same, so it is the same to look at. -/
theorem Respects.attempt {p : Program V ε α} (hp : p.Respects R) (h : ∀ s, p.Accepted s) :
    (p.attempt : Program V δ _).Respects R := by
  intro s s' hR
  rw [run_attempt (h s), run_attempt (h s')]
  obtain ⟨heq, hR'⟩ := hp s s' hR
  exact ⟨congrArg Except.ok heq, hR'⟩

/-- Runs that are undone lead back to stores that stand in the relation. -/
theorem Respects.runAtomic {p : Program V ε α} (hp : p.Respects R) {s s' : Store V}
    (h : R s s') :
    (p.runAtomic s').1 = (p.runAtomic s).1 ∧ R (p.runAtomic s).2 (p.runAtomic s').2 := by
  obtain ⟨heq, hR⟩ := hp s s' h
  simp only [Program.runAtomic]
  rcases hs : p.run s with ⟨r, m⟩
  rcases hs' : p.run s' with ⟨r', m'⟩
  rw [hs, hs'] at heq hR
  obtain rfl : r' = r := heq
  cases r' with
  | error e => exact ⟨rfl, h⟩
  | ok a => exact ⟨rfl, hR⟩

theorem Respects.transactional {p : Program V ε α} (hp : p.Respects R)
    (h : ∀ s, p.Accepted s) : p.transactional.Respects R := by
  intro s s' hR
  rw [run_transactional (h s), run_transactional (h s')]
  exact hp.runAtomic hR

end Program

open Program Store

/-! ## Territories -/

/-- **What is a channel's own** for the time of a callback. -/
structure Territory where
  /-- The channel. -/
  channel : String
  /-- Whether a name is that of a class that has come over the channel. -/
  came : String → Prop
  /-- Whether a key is the channel's own. -/
  own : Key → Prop
  /-- The record of the channel is its own, -/
  channel_own : own (.channel channel)
  /-- and so are the packets that were sent on it, -/
  shipment_own : ∀ n, own (.shipment channel n)
  /-- and their marks. -/
  pending_own : ∀ n, own (.pending channel n)
  /-- A token is the channel's own if its deposit is. -/
  token_own : ∀ {classId tokenId}, own (.deposit classId tokenId) → own (.token classId tokenId)

namespace Territory

variable {T : Territory} {s u s' s₀ s₀' : Store Entry} {k : Key} {e : Entry}

/-- **What the records of a channel say** as a rule: a packet is kept under its
channel and its number, and what it burned had come over the channel; and a
class is kept under its name. -/
def Fair (T : Territory) : Key → Entry → Prop
  | .shipment id n, .shipment p =>
    p.channel = id ∧ p.sequence = n ∧ (p.custody = .burned → T.came p.classId)
  | .tokenClass id, .tokenClass c => c.id = id
  | _, _ => True

/-- **Whether there is nothing for the channel outside of its territory.** -/
structure Fenced (T : Territory) (s : Store Entry) : Prop where
  /-- There is nothing in the store but what is under keys. -/
  keyed : s.Keyed
  /-- The records in the territory are as they should be. -/
  fair : ∀ {k e}, T.own k → s.look k = some e → T.Fair k e
  /-- The deposits outside are not for the channel. -/
  deposits : ∀ {classId tokenId}, ¬ T.own (.deposit classId tokenId) →
    ∀ deposit, s.deposit? classId tokenId = some deposit → deposit.channel ≠ T.channel
  /-- The names outside that tokens might have, in classes that have come over
  the channel, are taken. -/
  tokens : ∀ {classId tokenId}, T.came classId → ¬ T.own (.token classId tokenId) →
    s.token? classId tokenId ≠ none

/-- A change under one of the channel's own keys leaves the fence where it is. -/
theorem Fenced.of_changedOnly (hs : T.Fenced s) (hk : T.own k) (hu : ChangedOnly (· = k) s u)
    (he : ∀ e, u.look k = some e → T.Fair k e) : T.Fenced u where
  keyed := hs.keyed.of_changedOnly hu
  fair {k' e'} hk' hlook := by
    by_cases heq : k' = k
    · subst heq
      exact he e' hlook
    · rw [hu.look heq] at hlook
      exact hs.fair hk' hlook
  deposits {classId tokenId} hout deposit hdep := by
    have hne : Key.deposit classId tokenId ≠ k := fun heq => hout (heq ▸ hk)
    rw [deposit?, Table.view_of_changedOnly hu _ hne] at hdep
    exact hs.deposits hout deposit hdep
  tokens {classId tokenId} hc hout := by
    have hne : Key.token classId tokenId ≠ k := fun heq => hout (heq ▸ hk)
    rw [token?, Table.view_of_changedOnly hu _ hne]
    exact hs.tokens hc hout

/-- **Whether two stores are alike** in a territory. What was acknowledged last
may differ, since nobody looks at it. -/
structure Alike (T : Territory) (s s' : Store Entry) : Prop where
  /-- The settings are the same. -/
  settings : s'.settings? = s.settings?
  /-- The same is in the territory. -/
  same : ∀ {k}, T.own k → k ≠ .lastAck → s'.look k = s.look k
  /-- Nothing for the channel is outside, in either of them. -/
  fenced : T.Fenced s
  fenced' : T.Fenced s'

/-- **Two runs that have come to stores that are alike**, from `s₀` and from
`s₀'`, having changed nothing but what is the channel's own. -/
structure Abreast (T : Territory) (s₀ s₀' s s' : Store Entry) : Prop extends T.Alike s s' where
  /-- What one of the runs has changed is the same in both. -/
  changed : ∀ b, s.get? b = s₀.get? b ∧ s'.get? b = s₀'.get? b
    ∨ (∃ k, T.own k ∧ k.encode? = some b) ∧ s'.get? b = s.get? b

/-- Two runs begin abreast in stores that are alike. -/
theorem Alike.abreast (h : T.Alike s s') : T.Abreast s s' s s' where
  toAlike := h
  changed _ := .inl ⟨rfl, rfl⟩

namespace Abreast

/-- **Two runs stay abreast** when the same comes under one of the channel's own
keys in both. -/
theorem of_changedOnly (h : T.Abreast s₀ s₀' s s') (hk : T.own k)
    (hu : ChangedOnly (· = k) s u) (hu' : ChangedOnly (· = k) s' u')
    (hlook : u'.look k = u.look k) (he : ∀ e, u.look k = some e → T.Fair k e) :
    T.Abreast s₀ s₀' u u' where
  settings := by
    by_cases heq : Key.settings = k
    · subst heq
      exact congrArg (·.bind Table.settings.record?) hlook
    · rw [settings?, settings?, Table.view_of_changedOnly hu _ heq,
        Table.view_of_changedOnly hu' _ heq]
      exact h.settings
  same {k'} hk' hne := by
    by_cases heq : k' = k
    · subst heq
      exact hlook
    · rw [hu.look heq, hu'.look heq]
      exact h.same hk' hne
  fenced := h.fenced.of_changedOnly hk hu he
  fenced' := h.fenced'.of_changedOnly hk hu' fun e hlook' => he e (hlook ▸ hlook')
  changed b := by
    by_cases hb : k.encode? = some b
    · simp only [Store.look, hb, Option.bind_some] at hlook
      exact .inr ⟨⟨k, hk, hb⟩, hlook⟩
    · rw [hu b fun k' heq => heq ▸ hb, hu' b fun k' heq => heq ▸ hb]
      exact h.changed b

theorem keep (h : T.Abreast s₀ s₀' s s') (hk : T.own k) (hfits : k.Fits) (he : T.Fair k e) :
    T.Abreast s₀ s₀' (s.keep k e) (s'.keep k e) := by
  have hlook (m : Store Entry) : (m.keep k e).look k = some e := by
    rw [look_keep hfits, if_pos rfl]
  refine h.of_changedOnly hk (.keep rfl) (.keep rfl) (by rw [hlook, hlook]) fun e' he' => ?_
  rw [hlook] at he'
  exact Option.some.inj he' ▸ he

theorem drop (h : T.Abreast s₀ s₀' s s') (hk : T.own k) :
    T.Abreast s₀ s₀' (s.drop k) (s'.drop k) := by
  have hlook (m : Store Entry) : (m.drop k).look k = none := by
    rw [look_drop, if_pos rfl]
  refine h.of_changedOnly hk (.drop rfl) (.drop rfl) (by rw [hlook, hlook]) fun e' he' => ?_
  rw [hlook] at he'
  cases he'

/-- **Two programs that are run in either order** leave the same, but for what is
their own to both. The first one leads from `s` to `t` and from `t'` to `u'`, and
the other one from `s` to `t'` and from `t` to `u`. -/
theorem changedOnly {T' : Territory} {s t t' u u' : Store Entry} (h : T.Abreast s t' t u')
    (h' : T'.Abreast s t t' u) : ChangedOnly (fun k => T.own k ∧ T'.own k) u' u := by
  intro b hb
  obtain ⟨hb₁, hb₁'⟩ | ⟨⟨k, hk, hkb⟩, hb₁⟩ := h.changed b
  · obtain ⟨hb₂, hb₂'⟩ | ⟨-, hb₂⟩ := h'.changed b
    · rw [hb₂', hb₁, hb₁', hb₂]
    · rw [hb₂, hb₁']
  · obtain ⟨-, hb₂'⟩ | ⟨⟨k', hk', hkb'⟩, -⟩ := h'.changed b
    · rw [hb₂', hb₁]
    -- both have changed it
    · obtain rfl := Key.eq_of_encode?_eq hkb hkb'
      exact absurd hkb (hb k ⟨hk, hk'⟩)

end Abreast

/-- A packet that was sent on the channel is as it should be. -/
theorem Fenced.of_shipment? {n : UInt64} {p : Shipment} (h : T.Fenced s)
    (hp : s.shipment? T.channel n = some p) :
    p.channel = T.channel ∧ p.sequence = n ∧ (p.custody = .burned → T.came p.classId) :=
  h.fair (T.shipment_own n) (shipment?_eq_some_iff.mp hp)

/-- A class of the channel's own has its name. -/
theorem Fenced.id_of_class? {id : String} {c : TokenClass} (h : T.Fenced s)
    (hk : T.own (.tokenClass id)) (hc : s.class? id = some c) : c.id = id :=
  h.fair hk (class?_eq_some_iff.mp hc)

/-- The record of a table is the same under a key of the territory. -/
theorem Alike.view_eq {κ α : Type} (h : T.Alike s s') {t : Table κ α} {i : κ}
    (hk : T.own (t.key i)) (hne : t.key i ≠ .lastAck) : t.view s' i = t.view s i := by
  rw [Table.view, Table.view, h.same hk hne]

/-- The deposits for the channel are its own, -/
theorem Fenced.deposit_own {classId tokenId : String} {deposit : Deposit} (h : T.Fenced s)
    (hd : s.deposit? classId tokenId = some deposit) (hchannel : deposit.channel = T.channel) :
    T.own (.deposit classId tokenId) :=
  Classical.byContradiction fun hk => h.deposits hk deposit hd hchannel

/-- and so they are the same. -/
theorem Alike.deposit?_iff {classId tokenId : String} {deposit : Deposit} (h : T.Alike s s')
    (hchannel : deposit.channel = T.channel) :
    s'.deposit? classId tokenId = some deposit ↔ s.deposit? classId tokenId = some deposit := by
  constructor
  · intro hd
    exact (h.view_eq (h.fenced'.deposit_own hd hchannel) (by simp)).symm.trans hd
  · intro hd
    exact (h.view_eq (h.fenced.deposit_own hd hchannel) (by simp)).trans hd

end Territory

/-! ## Tables -/

namespace Table

variable {κ α β : Type} {t : Table κ α} {i : κ} {s : Store Entry}

theorem run_find? : (t.find? i).run s
    = (if (t.key i).Fits then .ok (t.view s i) else .error (.abort .longKey), s) := by
  split
  · next hk => exact yields_find?.mpr ⟨hk, rfl, rfl⟩
  · next hk => exact fails_find?.mpr ⟨hk, rfl, rfl⟩

/-- What comes after a record was looked up goes by the record. -/
theorem run_find?_bind {f : Option α → Bridge β} : (t.find? i >>= f).run s
    = if (t.key i).Fits then (f (t.view s i)).run s else (.error (.abort .longKey), s) := by
  by_cases hk : (t.key i).Fits
  · rw [run_bind, run_find?, if_pos hk, if_pos hk]
  · rw [run_bind, run_find?, if_neg hk, if_neg hk]

theorem run_put {a : α} : (t.put i a).run s
    = if (t.key i).Fits then (.ok (), s.keep (t.key i) (t.entry a))
      else (.error (.abort .longKey), s) := by
  split
  · next hk => exact yields_put.mpr ⟨hk, rfl⟩
  · next hk => exact fails_put.mpr ⟨hk, rfl, rfl⟩

theorem run_erase : (t.erase i).run s
    = if (t.key i).Fits then (.ok (), s.drop (t.key i))
      else (.error (.abort .longKey), s) := by
  split
  · next hk => exact yields_erase.mpr ⟨hk, rfl⟩
  · next hk => exact fails_erase.mpr ⟨hk, rfl, rfl⟩

variable {T : Territory} {s₀ s₀' : Store Entry}

/-- A record that is the same is the same to look up. -/
theorem respects_find?_of (h : ∀ s s', T.Abreast s₀ s₀' s s' → t.view s' i = t.view s i) :
    (t.find? i).Respects (T.Abreast s₀ s₀') :=
  respects_of_reads fun s s' hs => ⟨_, run_find?, by rw [run_find?, h s s' hs]⟩

/-- That there is a record is all that is asked. -/
theorem respects_has_of
    (h : ∀ s s', T.Abreast s₀ s₀' s s' → (t.view s' i).isSome = (t.view s i).isSome) :
    (t.has i).Respects (T.Abreast s₀ s₀') := by
  refine respects_of_reads fun s s' hs => ?_
  simp only [has, run_find?_bind, h s s' hs]
  split
  · exact ⟨_, rfl, rfl⟩
  · exact ⟨_, rfl, rfl⟩

variable (hk : T.own (t.key i))
include hk

theorem respects_find? (hne : t.key i ≠ .lastAck) : (t.find? i).Respects (T.Abreast s₀ s₀') :=
  respects_find?_of fun _ _ h => h.toAlike.view_eq hk hne

theorem respects_find {fault : Fault} (hne : t.key i ≠ .lastAck) :
    (t.find i fault).Respects (T.Abreast s₀ s₀') :=
  (respects_find? hk hne).bind fun _ => respects_ofOption

theorem respects_has (hne : t.key i ≠ .lastAck) : (t.has i).Respects (T.Abreast s₀ s₀') :=
  (respects_find? hk hne).bind fun _ => respects_pure

/-- **What is the channel's own may be written.** -/
theorem respects_put {a : α} (ha : T.Fair (t.key i) (t.entry a)) :
    (t.put i a).Respects (T.Abreast s₀ s₀') := by
  intro s s' h
  rw [run_put, run_put]
  split
  · next hfits => exact ⟨rfl, h.keep hk hfits ha⟩
  · exact ⟨rfl, h⟩

theorem respects_erase : (t.erase i).Respects (T.Abreast s₀ s₀') := by
  intro s s' h
  rw [run_erase, run_erase]
  split
  · exact ⟨rfl, h.drop hk⟩
  · exact ⟨rfl, h⟩

end Table

end TokenBridge
