import Mathlib
import TokenBridge.Proofs.Pages

/-!
# What rows tell

A table is browsed row by row, and no record of it is left out. This module is about
how much of a record its row tells. A row has a member for each field that it shows,
so it determines these fields: all of a class and of a channel, and all but one of a
packet that was sent (`Shipment.shown`).

So those who browse know the tables. Two bridges that show the same pages have the
same records (`tables_determined`), up to the metadata of tokens that were sent,
which is nowhere to be browsed. Pages are compared by their rows there, while tables
are compared by what is found under a name; a row has to tell the name of its record
as well (`Catalogue.Presents.map_shown`).
-/

namespace TokenBridge

open Program Store

/-! ## Members of a row -/

theorem Json.ofText?_inj {x y : Option String} : ofText? x = ofText? y ↔ x = y := by
  cases x <;> cases y <;> simp [ofText?]

theorem Json.ofUInt64_inj {m n : UInt64} : ofUInt64 m = ofUInt64 n ↔ m = n := by
  refine ⟨fun h => ?_, congrArg ofUInt64⟩
  have hcount := congrArg count64? h
  simpa using hcount

theorem Origin.toJson_inj {o o' : Origin} : o.toJson = o'.toJson ↔ o = o' := by
  cases o <;> cases o' <;> simp [toJson]

theorem Phase.name_inj {p q : Phase} : p.name = q.name ↔ p = q := by
  cases p <;> cases q <;> simp [name]

theorem Custody.name_inj {c c' : Custody} : c.name = c'.name ↔ c = c' := by
  cases c <;> cases c' <;> simp [name]

theorem Status.name_inj {t t' : Status} : t.name = t'.name ↔ t = t' := by
  cases t <;> cases t' <;> simp [name]

/-! ## Rows -/

/-- The row of a class shows all of it. -/
theorem TokenClass.toJson_injective : Function.Injective TokenClass.toJson := by
  intro c d h
  simp only [toJson, Json.object.injEq, List.cons.injEq, Prod.mk.injEq, Json.text.injEq, true_and,
    and_true, Json.ofText?_inj, Origin.toJson_inj] at h
  obtain ⟨hid, huri, hcollection, hminter, horigin⟩ := h
  cases c
  cases d
  simp only [mk.injEq]
  exact ⟨hid, huri, hcollection, hminter, horigin⟩

/-- The row of a channel shows all of it. -/
theorem Channel.toJson_injective : Function.Injective Channel.toJson := by
  intro c d h
  simp only [toJson, Json.object.injEq, List.cons.injEq, Prod.mk.injEq, Json.text.injEq, true_and,
    and_true, Phase.name_inj, Json.ofUInt64_inj] at h
  obtain ⟨hchannel, hport, hchannel', hport', hconnection, hphase, hnext⟩ := h
  obtain ⟨⟨_, _⟩, ⟨_, _⟩, _, _, _⟩ := c
  obtain ⟨⟨_, _⟩, ⟨_, _⟩, _, _, _⟩ := d
  simp only [mk.injEq, Endpoint.mk.injEq]
  exact ⟨⟨hport, hchannel⟩, ⟨hport', hchannel'⟩, hconnection, hphase, hnext⟩

/-- What the row of a packet shows of its record: everything but the metadata of the
tokens. -/
def Shipment.shown (p : Shipment) : Shipment := { p with tokenUris := [] }

/-- **Two packets have the same row** exactly if it shows the same of them. -/
theorem Shipment.toJson_eq_iff {p q : Shipment} : p.toJson = q.toJson ↔ p.shown = q.shown := by
  have hdeadline : toString p.deadline.toNat = toString q.deadline.toNat
      ↔ p.deadline = q.deadline := Iff.trans Nat.repr_inj UInt64.toNat_inj
  unfold shown
  simp only [toJson, Json.object.injEq, List.cons.injEq, Prod.mk.injEq, Json.text.injEq, true_and,
    and_true, Json.ofUInt64_inj, Json.list.injEq, List.map_inj_right (fun _ _ => Json.text.inj),
    Custody.name_inj, Status.name_inj, hdeadline, mk.injEq]

/-! ## Tables -/

namespace Catalogue

/-- Whether somebody who browses sees the same pages in two stores. -/
def SamePages {κ : Type} (c : Catalogue κ) (context : Context) (limit : Option UInt32)
    (s u : Store Entry) : Prop :=
  ∀ pages, c.Browses context s limit none pages ↔ c.Browses context u limit none pages

/-- **The same pages show the same records**, as far as a row determines what it shows
of a record. -/
theorem Presents.map_shown {κ κ' α β : Type} {c : Catalogue κ} {context : Context}
    {limit : Option UInt32} {s u : Store Entry} {toJson : α → Json} {name : α → κ'}
    {records records' : List α} {view view' : κ' → Option α} (shown : α → β)
    (h : c.Presents context s limit (records.map toJson))
    (h' : c.Presents context u limit (records'.map toJson)) (hsame : c.SamePages context limit s u)
    (hrow : ∀ a b, toJson a = toJson b → name a = name b ∧ shown a = shown b)
    (hview : ∀ i a, view i = some a ↔ a ∈ records ∧ name a = i)
    (hview' : ∀ i a, view' i = some a ↔ a ∈ records' ∧ name a = i) (i : κ') :
    (view i).map shown = (view' i).map shown := by
  have hrows : records.map toJson = records'.map toJson := by
    obtain ⟨pages, hbrowses, -, hflatten, -⟩ := h
    obtain ⟨pages', -, hunique, hflatten', -⟩ := h'
    rw [← hflatten, ← hflatten', hunique pages ((hsame pages).mp hbrowses)]
  -- a record has a row among those of the other table, under the same name
  have told {xs ys : List α} {v w : κ' → Option α} {a : α}
      (hxs : ∀ i a, v i = some a ↔ a ∈ xs ∧ name a = i)
      (hys : ∀ i a, w i = some a ↔ a ∈ ys ∧ name a = i) (heq : xs.map toJson = ys.map toJson)
      (ha : v i = some a) : ∃ b, w i = some b ∧ shown a = shown b := by
    obtain ⟨hmem, rfl⟩ := (hxs i a).mp ha
    obtain ⟨b, hb, hrowb⟩ := List.mem_map.mp (heq ▸ List.mem_map_of_mem hmem)
    obtain ⟨hname, hshown⟩ := hrow b a hrowb
    exact ⟨b, (hys _ b).mpr ⟨hb, hname⟩, hshown.symm⟩
  cases ha : view i with
  | some a =>
    obtain ⟨b, hb, hshown⟩ := told hview hview' hrows ha
    rw [hb, Option.map_some, Option.map_some, hshown]
  | none =>
    cases hb : view' i with
    | none => rfl
    | some b =>
      obtain ⟨a, ha', -⟩ := told hview' hview hrows.symm hb
      cases ha.symm.trans ha'

end Catalogue

/-- **Nothing of a table is hidden from those who browse.** If they see the same pages
after two histories, of whatever bridges, then these have come to the same classes
or the same channels; and to the same packets of a channel, but for the metadata of
the tokens, which no row shows. -/
theorem tables_determined (bridge bridge' : Address) (past past' : List Turn) (context : Context)
    {limit : Option UInt32} (hlimit : limit ≠ some 0) :
    (Catalogue.classes.SamePages context limit (storeAfter bridge past) (storeAfter bridge' past') →
        (storeAfter bridge past).class? = (storeAfter bridge' past').class?)
      ∧ (Catalogue.channels.SamePages context limit (storeAfter bridge past)
          (storeAfter bridge' past') →
        (storeAfter bridge past).channel? = (storeAfter bridge' past').channel?)
      ∧ ∀ id : String, (Bytes.ofText id).length ≤ 65535 →
        (Catalogue.shipments id).SamePages context limit (storeAfter bridge past)
          (storeAfter bridge' past') →
        ∀ n, ((storeAfter bridge past).shipment? id n).map Shipment.shown
          = ((storeAfter bridge' past').shipment? id n).map Shipment.shown := by
  refine ⟨fun hsame => funext fun id => ?_, fun hsame => funext fun id => ?_,
    fun id hid hsame n => ?_⟩
  · obtain ⟨_, hview, -, h⟩ := Catalogue.exists_classes bridge past context hlimit
    obtain ⟨_, hview', -, h'⟩ := Catalogue.exists_classes bridge' past' context hlimit
    have hrow (c d : TokenClass) (heq : c.toJson = d.toJson) : c.id = d.id ∧ c = d := by
      obtain rfl := TokenClass.toJson_injective heq
      exact ⟨rfl, rfl⟩
    simpa using h.map_shown (fun c => c) h' hsame hrow hview hview' id
  · obtain ⟨_, hview, -, h⟩ := Catalogue.exists_channels bridge past context hlimit
    obtain ⟨_, hview', -, h'⟩ := Catalogue.exists_channels bridge' past' context hlimit
    have hrow (c d : Channel) (heq : c.toJson = d.toJson) :
        c.here.channel = d.here.channel ∧ c = d := by
      obtain rfl := Channel.toJson_injective heq
      exact ⟨rfl, rfl⟩
    simpa using h.map_shown (fun c => c) h' hsame hrow hview hview' id
  · obtain ⟨_, hview, -, h⟩ := Catalogue.exists_shipments bridge past context hlimit hid
    obtain ⟨_, hview', -, h'⟩ := Catalogue.exists_shipments bridge' past' context hlimit hid
    have hrow (p q : Shipment) (heq : p.toJson = q.toJson) :
        p.sequence = q.sequence ∧ p.shown = q.shown := by
      have hshown := Shipment.toJson_eq_iff.mp heq
      have hsequence := congrArg Shipment.sequence hshown
      exact ⟨hsequence, hshown⟩
    exact h.map_shown Shipment.shown h' hsame hrow hview hview' n

end TokenBridge
