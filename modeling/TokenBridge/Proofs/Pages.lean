import TokenBridge.Query
import TokenBridge.Proofs.Lifecycle
import TokenBridge.Proofs.Origins
import TokenBridge.Proofs.Shelves

/-!
# Browsing a table

A table may be larger than any answer. So it is shown page by page, and the
last entry of a page says where the next one starts. Nothing is kept between
two inquiries; whoever browses has only what the last page has shown. This
module follows somebody who asks for page after page until there is nothing on
one (`Catalogue.Browses`), and shows that this comes to an end, and that the
pages are the table then: all of it, in order, and no entry twice
(`catalogues_complete`).

That a page starts right behind an entry, and not behind another one whose name
begins like it, is a matter of the shelf of the table. What is left to see is
that the entry has told where it stands. It does, because records are kept
under the names that they bear.
-/

namespace TokenBridge

open Program Store

namespace Json

/-! ## Looking into a value -/

/-- The member of an object that has a name. -/
def member? (name : String) : Json → Option Json
  | .object members => (members.find? (·.1 = name)).map Prod.snd
  | _ => none

/-- The text that a value is. -/
def text? : Json → Option String
  | .text s => some s
  | _ => none

/-- The 64-bit number that a value is. -/
def count64? : Json → Option UInt64
  | .number (.ofNat n) => if n < UInt64.size then some n.toUInt64 else none
  | _ => none

@[simp] theorem count64?_ofUInt64 (n : UInt64) : (ofUInt64 n).count64? = some n := by
  show (if n.toNat < UInt64.size then some n.toNat.toUInt64 else none) = some n
  rw [if_pos n.toNat_lt_size]
  simp

end Json

/-! ## Catalogues -/

/-- **A table that can be browsed**, as it looks from outside. -/
structure Catalogue (κ : Type) where
  /-- What is asked for a page. -/
  inquiry : PageOf κ → Inquiry
  /-- The member of the answer that has the entries of the page. -/
  label : String
  /-- What an entry says about where the next page starts. -/
  bookmark? : Json → Option κ

namespace Catalogue

/-- The classes. -/
def classes : Catalogue String where
  inquiry := .classes
  label := "classes"
  bookmark? entry := (entry.member? "class_id").bind Json.text?

/-- The channels. -/
def channels : Catalogue String where
  inquiry := .channels
  label := "channels"
  bookmark? entry := (entry.member? "channel_id").bind Json.text?

/-- The packets that were sent on a channel. -/
def shipments (channel : String) : Catalogue UInt64 where
  inquiry := .shipments channel
  label := "packets"
  bookmark? entry := (entry.member? "sequence").bind Json.count64?

variable {κ : Type} (c : Catalogue κ) (context : Context) (s : Store Entry)
  (limit : Option UInt32)

/-- Whether the bridge shows the given entries on a page. -/
def Shows (page : PageOf κ) (entries : List Json) : Prop :=
  ((c.inquiry page).answer context).Yields s (.object [(c.label, .list entries)]) s

/-- **Somebody asks for page after page**, each behind the last entry of the one
before, until there is nothing on a page: the pages with something on them,
from a given point on. -/
inductive Browses : (after : Option κ) → (pages : List (List Json)) → Prop
  /-- There is nothing more. -/
  | finish {after : Option κ} (h : c.Shows context s ⟨after, limit⟩ []) : Browses after []
  /-- There is a page, and the next one starts behind its last entry. -/
  | turn {after : Option κ} {key : κ} {page : List Json} {last : Json} {pages : List (List Json)}
      (h : c.Shows context s ⟨after, limit⟩ page) (hlast : page.getLast? = some last)
      (hkey : c.bookmark? last = some key) (rest : Browses (some key) pages) :
      Browses after (page :: pages)

/-- **Whether browsing shows exactly the given entries**: it comes to an end, in
one way only; the pages are the entries one after another; and all pages but
the last one are as long as they may be. -/
def Presents (entries : List Json) : Prop :=
  ∃ pages, c.Browses context s limit none pages
    ∧ (∀ others, c.Browses context s limit none others → others = pages)
    ∧ pages.flatten = entries
    ∧ ∀ page ∈ pages.dropLast, page.length = min (limit.getD 10).toNat 50

variable {c context s limit}

theorem Shows.unique {page : PageOf κ} {entries others : List Json}
    (h : c.Shows context s page entries) (h' : c.Shows context s page others) :
    entries = others := by
  have heq := (Program.Yields.unique h h').1
  simpa using heq

/-- Who browses twice sees the same. -/
theorem Browses.unique {after : Option κ} {pages others : List (List Json)}
    (h : c.Browses context s limit after pages) (h' : c.Browses context s limit after others) :
    pages = others := by
  induction h generalizing others with
  | finish h =>
    cases h' with
    | finish => rfl
    | turn h' hlast =>
      obtain rfl := h.unique h'
      cases hlast
  | turn h hlast hkey rest ih =>
    cases h' with
    | finish h' =>
      obtain rfl := h.unique h'
      cases hlast
    | turn h' hlast' hkey' rest' =>
      obtain rfl := h.unique h'
      obtain rfl := Option.some.inj (hlast.symm.trans hlast')
      obtain rfl := Option.some.inj (hkey.symm.trans hkey')
      rw [ih rest']

/-! ## Going on behind an entry -/

section

variable {α : Type} {part : κ → Bytes} {toJson : α → Json} {rows : List (κ × α)} {size : Nat}

/-- Behind a row in order is what comes after it. -/
theorem filter_behind {before behind : List (κ × α)} {x : κ × α}
    (hsorted : (before ++ x :: behind).Pairwise fun x y => part x.1 < part y.1) :
    ((before ++ x :: behind).filter fun y => part x.1 < part y.1) = behind := by
  obtain ⟨-, hx, hbefore⟩ := List.pairwise_append.mp hsorted
  rw [List.filter_append, List.filter_cons_of_neg (by simp), List.filter_eq_nil_iff.mpr,
    List.filter_eq_self.mpr, List.nil_append]
  · exact fun y hy => decide_eq_true ((List.pairwise_cons.mp hx).1 y hy)
  · exact fun y hy hlt => List.lt_asymm (of_decide_eq_true hlt) (hbefore y hy x List.mem_cons_self)

/-- A page with something on it ends with a row, and what it does not show comes
behind that. -/
theorem exists_last_shown {rest : List (κ × α)} (hsize : 0 < size) (hne : rest ≠ []) :
    ∃ shown x, rest.take size = shown ++ [x] ∧ rest = shown ++ x :: rest.drop size := by
  have hpage : rest.take size ≠ [] := fun hnil =>
    hne ((List.take_eq_nil_iff.mp hnil).resolve_left (Nat.ne_of_gt hsize))
  have hshown := List.dropLast_concat_getLast hpage
  refine ⟨_, _, hshown.symm, ?_⟩
  conv_lhs => rw [← List.take_append_drop size rest, ← hshown, List.append_assoc]
  rfl

/-- **Browsing goes through the rows of a table**, if each page shows the rows
behind a given one and each entry says which row it is. -/
theorem exists_browses (hsorted : rows.Pairwise fun x y => part x.1 < part y.1)
    (hmark : ∀ x ∈ rows, c.bookmark? (toJson x.2) = some x.1)
    (hshows : ∀ after : Option κ, c.Shows context s ⟨after, limit⟩
      ((((rows.filter fun x => after.all (part · < part x.1)).map Prod.snd).take size).map toJson))
    (hsize : 0 < size) :
    ∃ pages, c.Browses context s limit none pages
      ∧ pages.flatten = (rows.map Prod.snd).map toJson
      ∧ ∀ page ∈ pages.dropLast, page.length = size := by
  -- the rows that are still to come become fewer with each page
  have browse (rest : List (κ × α)) : ∀ (before : List (κ × α)) (after : Option κ),
      rows = before ++ rest → (rows.filter fun x => after.all (part · < part x.1)) = rest →
      ∃ pages, c.Browses context s limit after pages
        ∧ pages.flatten = (rest.map Prod.snd).map toJson
        ∧ ∀ page ∈ pages.dropLast, page.length = size := by
    induction hlength : rest.length using Nat.strong_induction_on generalizing rest with
    | _ length ih =>
      intro before after hrows hrest
      have hpage := hshows after
      rw [hrest] at hpage
      obtain rfl | hne := eq_or_ne rest []
      · exact ⟨[], .finish (by simpa using hpage), rfl, by simp⟩
      obtain ⟨shown, x, hshown, hsplit⟩ := exists_last_shown hsize hne
      have hrow : rows = (before ++ shown) ++ x :: rest.drop size := by
        rw [hrows, List.append_assoc, ← hsplit]
      have hbehind :
          (rows.filter fun y => (some x.1).all (part · < part y.1)) = rest.drop size := by
        rw [hrow] at hsorted ⊢
        exact filter_behind hsorted
      obtain ⟨pages, hpages, hflatten, hfull⟩ := ih (rest.drop size).length
        (by rw [List.length_drop, ← hlength]; have := List.length_pos_iff.mpr hne; omega)
        (rest.drop size) rfl (before ++ shown ++ [x]) (some x.1) (by simpa using hrow) hbehind
      have hlast : (((rest.take size).map Prod.snd).map toJson).getLast? = some (toJson x.2) := by
        simp [hshown]
      rw [← List.map_take] at hpage
      refine ⟨_, .turn hpage hlast (hmark x (by simp [hrow])) hpages, ?_, ?_⟩
      · rw [List.flatten_cons, hflatten, ← List.map_append, ← List.map_append,
          List.take_append_drop]
      · cases pages with
        | nil => simp
        | cons next pages =>
          -- there is another page only if this one did not have room for all that was left
          have hmore : rest.drop size ≠ [] := by
            intro hnil
            have hend := hshows (some x.1)
            rw [hbehind, hnil] at hend
            cases hpages.unique (.finish (by simpa using hend))
          rw [List.dropLast_cons_cons]
          refine List.forall_mem_cons.mpr ⟨?_, hfull⟩
          have := List.length_pos_iff.mpr hmore
          rw [List.length_drop] at this
          simp only [List.length_map, List.length_take]
          omega
  exact browse rows [] none rfl (List.filter_eq_self.mpr fun _ _ => rfl)

/-- There is room for something on a page, unless nothing is asked for. -/
theorem pageSize_pos (hlimit : limit ≠ some 0) : 0 < pageSize limit := by
  cases limit with
  | none => decide
  | some n =>
    have hn : n.toNat ≠ 0 := fun h => hlimit (congrArg some (UInt32.toNat_inj.mp h))
    simp only [pageSize, Option.getD_some]
    omega

/-- **A catalogue of a table presents its records**, if a page is what is found on
the shelf of the table behind its start, and if the records bear the names
under which they are kept. -/
theorem exists_presents {κ' : Type} {index : κ → κ'} {name : α → κ} (c : Catalogue κ)
    (context : Context) (t : Table κ' α) (shelf : Shelf κ)
    (hkey : ∀ i, t.key (index i) = shelf.key i) (hs : s.Keyed)
    (hfits : ∀ part ∈ shelf.parts, part.length < UInt16.size)
    (hnamed : ∀ i a, t.view s (index i) = some a → name a = i)
    (hmark : ∀ a, c.bookmark? (toJson a) = some (name a))
    (hshows : ∀ (after : Option κ) (records : List α),
      (do
        let entries ← Table.scan shelf.space shelf.parts (after.map shelf.part)
        return entries.filterMap fun x => t.record? x.2 : Bridge (List α)).Yields s records s →
      c.Shows context s ⟨after, limit⟩ ((records.take (pageSize limit)).map toJson))
    (hlimit : limit ≠ some 0) :
    ∃ records : List α,
      (∀ i a, t.view s (index i) = some a ↔ a ∈ records ∧ name a = i)
        ∧ (records.Pairwise fun a b => shelf.part (name a) < shelf.part (name b))
        ∧ c.Presents context s limit (records.map toJson) := by
  obtain ⟨rows, hrows, hsorted, hscan⟩ := shelf.exists_yields_records t hkey hs hfits
  have hname (x : κ × α) (hx : x ∈ rows) : name x.2 = x.1 := hnamed _ _ ((hrows x.1 x.2).mp hx)
  refine ⟨rows.map Prod.snd, fun i a => ⟨fun h => ?_, ?_⟩, ?_, ?_⟩
  · exact ⟨List.mem_map.mpr ⟨(i, a), (hrows i a).mpr h, rfl⟩, hnamed i a h⟩
  · rintro ⟨hmem, rfl⟩
    obtain ⟨⟨i, a⟩, hx, rfl⟩ := List.mem_map.mp hmem
    rw [hname (i, a) hx]
    exact (hrows i a).mp hx
  · refine List.pairwise_map.mpr (hsorted.imp_of_mem fun {x y} hx hy hlt => ?_)
    rwa [hname x hx, hname y hy]
  · obtain ⟨pages, hpages, hflatten, hfull⟩ := exists_browses hsorted
      (fun x hx => (hmark x.2).trans (congrArg some (hname x hx)))
      (fun after => hshows after _ (hscan after)) (pageSize_pos hlimit)
    exact ⟨pages, hpages, fun others h => h.unique hpages, hflatten, hfull⟩

end

end Catalogue

/-! ## The tables of a bridge -/

section

variable (bridge : Address) (past : List Turn) (context : Context) {limit : Option UInt32}
  (hlimit : limit ≠ some 0)
include hlimit

/-- The classes are presented in the order of their names. -/
theorem Catalogue.exists_classes : ∃ classes : List TokenClass,
    (∀ id c, (storeAfter bridge past).class? id = some c ↔ c ∈ classes ∧ c.id = id)
      ∧ (classes.Pairwise fun c d => Bytes.ofText c.id < Bytes.ofText d.id)
      ∧ Catalogue.classes.Presents context (storeAfter bridge past) limit
          (classes.map TokenClass.toJson) := by
  have hclassed : Classed (storeAfter bridge past) := classed_after past
  exact Catalogue.classes.exists_presents context Table.classes Shelf.classes (fun _ => rfl)
    (booked_after past).keyed (by simp [Shelf.classes]) (fun id c h => hclassed.named h)
    (fun c => rfl) (fun after classes h => (h.bind_pure _).bind_pure _) hlimit

/-- So are the channels, -/
theorem Catalogue.exists_channels : ∃ channels : List Channel,
    (∀ id c, (storeAfter bridge past).channel? id = some c ↔ c ∈ channels ∧ c.here.channel = id)
      ∧ (channels.Pairwise fun c d => Bytes.ofText c.here.channel < Bytes.ofText d.here.channel)
      ∧ Catalogue.channels.Presents context (storeAfter bridge past) limit
          (channels.map Channel.toJson) := by
  have hsound : Sound (storeAfter bridge past) := sound_after past
  exact Catalogue.channels.exists_presents context Table.channels Shelf.channels (fun _ => rfl)
    (booked_after past).keyed (by simp [Shelf.channels]) (fun id c h => hsound.named h)
    (fun c => rfl) (fun after channels h => (h.bind_pure _).bind_pure _) hlimit

/-- and the packets of a channel in the order of their numbers. -/
theorem Catalogue.exists_shipments {id : String} (hid : (Bytes.ofText id).length ≤ 65535) :
    ∃ shipments : List Shipment,
      (∀ n p, (storeAfter bridge past).shipment? id n = some p ↔ p ∈ shipments ∧ p.sequence = n)
        ∧ shipments.Pairwise (·.sequence < ·.sequence)
        ∧ (Catalogue.shipments id).Presents context (storeAfter bridge past) limit
            (shipments.map Shipment.toJson) := by
  have hsound : Sound (storeAfter bridge past) := sound_after past
  have hmark (p : Shipment) : (Catalogue.shipments id).bookmark? p.toJson = some p.sequence :=
    Json.count64?_ofUInt64 p.sequence
  obtain ⟨shipments, hall, hsorted, hpresents⟩ := (Catalogue.shipments id).exists_presents
    context Table.shipments (Shelf.shipments id) (fun _ => rfl) (booked_after past).keyed
    (by simpa [Shelf.shipments] using Nat.lt_succ_of_le hid)
    (fun n p h => (hsound.filed h).2.1) hmark
    (fun after shipments h => (h.bind_pure _).bind_pure _) hlimit
  exact ⟨shipments, hall, hsorted.imp Key.sequencePart_lt_iff.mp, hpresents⟩

end

/-- **Browsing shows every table in full.** Whatever has been done to a bridge, and
however many entries are asked for at a time, if any: who asks for page after
page of the classes, of the channels or of the packets of a channel comes to
an end, and has been shown exactly what there is, in order. -/
theorem catalogues_complete (bridge : Address) (past : List Turn) (context : Context)
    {limit : Option UInt32} (hlimit : limit ≠ some 0) :
    (∃ classes : List TokenClass,
      (∀ id c, (storeAfter bridge past).class? id = some c ↔ c ∈ classes ∧ c.id = id)
        ∧ (classes.Pairwise fun c d => Bytes.ofText c.id < Bytes.ofText d.id)
        ∧ Catalogue.classes.Presents context (storeAfter bridge past) limit
            (classes.map TokenClass.toJson))
    ∧ (∃ channels : List Channel,
      (∀ id c, (storeAfter bridge past).channel? id = some c ↔ c ∈ channels ∧ c.here.channel = id)
        ∧ (channels.Pairwise fun c d => Bytes.ofText c.here.channel < Bytes.ofText d.here.channel)
        ∧ Catalogue.channels.Presents context (storeAfter bridge past) limit
            (channels.map Channel.toJson))
    ∧ ∀ id : String, (Bytes.ofText id).length ≤ 65535 →
      ∃ shipments : List Shipment,
        (∀ n p, (storeAfter bridge past).shipment? id n = some p
            ↔ p ∈ shipments ∧ p.sequence = n)
          ∧ shipments.Pairwise (·.sequence < ·.sequence)
          ∧ (Catalogue.shipments id).Presents context (storeAfter bridge past) limit
              (shipments.map Shipment.toJson) := by
  exact ⟨Catalogue.exists_classes bridge past context hlimit,
    Catalogue.exists_channels bridge past context hlimit,
    fun id hid => Catalogue.exists_shipments bridge past context hlimit hid⟩

/-- Two more channels are opened, the names of which begin like the name of
another one. -/
def wideHarbor : List Turn :=
  [⟨6, .connected { harborChannel with here.channel := "channel-0.1" } none⟩,
   ⟨5, .connected { harborChannel with here.channel := "channel-" } none⟩] ++ firstVoyage

theorem catalogues_complete_wideHarbor :
    (some 2 : Option UInt32) ≠ some 0
    ∧ (∃ channels : List Channel,
      (∀ id c, (storeAfter harbor wideHarbor).channel? id = some c
          ↔ c ∈ channels ∧ c.here.channel = id)
        ∧ (channels.Pairwise fun c d => Bytes.ofText c.here.channel < Bytes.ofText d.here.channel)
        ∧ Catalogue.channels.Presents ⟨harbor, 9⟩ (storeAfter harbor wideHarbor) (some 2)
            (channels.map Channel.toJson))
    ∧ (Bytes.ofText "channel-0").length ≤ 65535
    ∧ (∃ shipments : List Shipment,
      (∀ n p, (storeAfter harbor wideHarbor).shipment? "channel-0" n = some p
          ↔ p ∈ shipments ∧ p.sequence = n)
        ∧ shipments.Pairwise (·.sequence < ·.sequence)
        ∧ (Catalogue.shipments "channel-0").Presents ⟨harbor, 9⟩ (storeAfter harbor wideHarbor)
            (some 2) (shipments.map Shipment.toJson))
    ∧ ["channel-", "channel-0", "channel-0.1"].all fun id =>
        ((storeAfter harbor wideHarbor).channel? id).isSome := by
  have hlimit : (some 2 : Option UInt32) ≠ some 0 := by decide
  have hlength : (Bytes.ofText "channel-0").length ≤ 65535 := by decide +kernel
  obtain ⟨-, hchannels, hshipments⟩ := catalogues_complete harbor wideHarbor ⟨harbor, 9⟩ hlimit
  exact ⟨hlimit, hchannels, hlength, hshipments "channel-0" hlength, by decide +kernel⟩

end TokenBridge
