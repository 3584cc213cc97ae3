import TokenBridge.Proofs.Reading

/-!
# What a packet says does not depend on how it is written

The data of a packet is an object with six members. Other implementations write it in
their own ways: in another order, with blanks, with other escapes, and with members of
their own among the six. This module shows that all of that is no matter. Whatever the
layout of an object is, it is decoded to the data that its members tell, and to nothing
if they tell none (`PacketData.decode_eq_ok_iff`). Members that are not asked can go
wrong in one way only, by being nested too deeply, and that is ruled out for every object
of an ordinary depth (`PacketData.decode_layout`).

A record is read member by member, and each member changes a draft of the whole record.
What the members tell can be said field by field instead. Both come to the same, because
a member goes to one field at most (`Draft.foldlM_add`), and this is where it matters that
the names of the fields are distinct.
-/

namespace TokenBridge.Json

variable {fields : Fields}

/-! ## Shapes -/

/-- **Whether a shape is made of texts**, as all those in a packet are. -/
def Shape.Textual : Shape → Prop
  | .text => True
  | .nullable shape => shape.Textual
  | .list shape => shape.Textual
  | _ => False

/-- **The value that a layout gives** to a field of a shape that is made of texts. -/
def Shape.ofLayout? : (shape : Shape) → Layout → Option shape.Value
  | .text, v => v.text?
  | .nullable shape, v => v.nullable? shape.ofLayout?
  | .list shape, v => v.list? shape.ofLayout?
  | _, _ => none

/-- **What a field is read as** is the value that the layout gives to it. -/
theorem Shape.reads : (shape : Shape) → shape.Textual → ∀ v : Layout,
    shape.reader.Reads v.write (shape.ofLayout? v)
  | .text, _, v => Reader.reads_text v
  | .nullable shape, h, v => Reader.reads_nullable (shape.reads h v)
  | .list shape, h, v => Reader.reads_list (shape.reads h) v

/-! ## Members -/

namespace Draft

/-- A member with a value for a field, which has none yet. -/
def addValue (shape : Shape) (a? : Option shape.Value) (v : Layout) :
    Option (Option shape.Value) :=
  if a?.isSome then none else (shape.ofLayout? v).map some

/-- **One member more.** If the schema has a field of its name, that field gets the
value, or the member is refused. -/
def add? : (fields : Fields) → Draft fields → (name : String) → Layout →
    Option (Option (Draft fields))
  | [], (), _, _ => none
  | (field, shape) :: fields, (a?, draft), name, v =>
    if name = field then some ((addValue shape a? v).map fun a? => (a?, draft))
    else (add? fields draft name v).map fun next => next.map fun draft => (a?, draft)

/-- **The members of a record, field by field**: each field gets the values of the
members with its name. -/
def addAll : (fields : Fields) → Draft fields → List (Member Layout) → Option (Draft fields)
  | [], (), _ => some ()
  | (name, shape) :: fields, (a?, draft), members =>
    ((valuesOf name members).foldlM (addValue shape) a?).bind fun a? =>
      (addAll fields draft members).map fun draft => (a?, draft)

/-- **What becomes of a draft** with one member more, which may be a stranger that is
passed over. -/
def add (depth : Nat) (draft : Draft fields) (m : Member Layout) : Option (Draft fields) :=
  (add? fields draft m.name.text m.value).getD
    (if m.value.depth ≤ depth then some draft else none)

end Draft

theorem valuesOf_cons_of_eq {name : String} {m : Member Layout} {members : List (Member Layout)}
    (h : m.name.text = name) : valuesOf name (m :: members) = m.value :: valuesOf name members := by
  simp [valuesOf, h]

theorem valuesOf_cons_of_ne {name : String} {m : Member Layout} {members : List (Member Layout)}
    (h : m.name.text ≠ name) : valuesOf name (m :: members) = valuesOf name members := by
  simp [valuesOf, h]

namespace Draft

variable {name : String} {m : Member Layout} {members : List (Member Layout)}

/-! ### Reading a member -/

/-- What a member calls for, and what it adds: a stranger nothing, a member that is
refused nothing either, and any other one what its value is read as. -/
theorem reads_member? (name : String) (v : Layout) : (fields : Fields) →
    (∀ f ∈ fields, f.2.Textual) → (draft : Draft fields) →
    member? fields draft name = none ∧ add? fields draft name v = none
      ∨ (∃ e, member? fields draft name = some (.error e)) ∧ add? fields draft name v = some none
      ∨ ∃ r next, member? fields draft name = some (.ok r) ∧ add? fields draft name v = some next
        ∧ r.Reads v.write next
  | [], _, () => .inl ⟨rfl, rfl⟩
  | (field, shape) :: fields, htextual, (a?, draft) => by
    obtain ⟨hshape, htextual⟩ := List.forall_mem_cons.mp htextual
    rw [member?, add?]
    by_cases hname : name = field
    · rw [if_pos hname, if_pos hname]
      cases a? with
      | some a => exact .inr (.inl ⟨⟨_, rfl⟩, rfl⟩)
      | none =>
        refine .inr (.inr ⟨_, _, rfl, rfl, ?_⟩)
        have hread := (shape.reads hshape v).map fun a => (some a, draft)
        simpa [addValue, Option.map_map, Function.comp_def] using hread
    · rw [if_neg hname, if_neg hname]
      obtain ⟨hmember, hadd⟩ | ⟨⟨e, hmember⟩, hadd⟩ | ⟨r, next, hmember, hadd, hread⟩ :=
        reads_member? name v fields htextual draft
      · exact .inl ⟨by rw [hmember]; rfl, by rw [hadd]; rfl⟩
      · exact .inr (.inl ⟨⟨e, by rw [hmember]; rfl⟩, by rw [hadd]; rfl⟩)
      · exact .inr (.inr ⟨_, _, by rw [hmember]; rfl, by rw [hadd]; rfl, hread.map _⟩)

/-- **A member is read** as what it adds to a draft. -/
theorem reads_goOn (htextual : ∀ f ∈ fields, f.2.Textual) (depth : Nat) (draft : Draft fields)
    (m : Member Layout) : (Reader.entry (fields.goOn (.ignored depth) draft)).Reads
      (Reader.memberPiece m).value (draft.add depth m) := by
  obtain ⟨hmember, hadd⟩ | ⟨⟨e, hmember⟩, hadd⟩ | ⟨r, next, hmember, hadd, hread⟩ :=
    reads_member? m.name.text m.value fields htextual draft
  · -- a stranger is passed over, and the draft stays
    have hgoOn : fields.goOn (.ignored depth) draft m.name.text
        = .ok ((Reader.ignored depth).map fun _ => draft) := by
      rw [Fields.goOn, hmember]
    have hread := (Reader.reads_ignored depth m.value).map fun _ => draft
    have hsame : (if m.value.depth ≤ depth then some () else none).map (fun _ => draft)
        = draft.add depth m := by
      rw [add, hadd]
      split <;> rfl
    refine Reader.reads_entry (fun r hr => ?_) fun e he => ?_
    · cases hgoOn.symm.trans hr
      exact hsame ▸ hread
    · cases hgoOn.symm.trans he
  · refine Reader.reads_entry (fun r hr => ?_) fun e he => ?_
    · rw [Fields.goOn, hmember] at hr
      cases hr
    · rw [add, hadd]
      rfl
  · have hgoOn : fields.goOn (.ignored depth) draft m.name.text = .ok r := by
      rw [Fields.goOn, hmember]
    refine Reader.reads_entry (fun r' hr => ?_) fun e he => ?_
    · cases hgoOn.symm.trans hr
      rw [add, hadd]
      exact hread
    · cases hgoOn.symm.trans he

/-! ### Member by member, and field by field -/

/-- A member that no field has the name of changes none of them. -/
theorem addAll_cons_of_notMem : (fields : Fields) → (draft : Draft fields) →
    m.name.text ∉ fields.map (·.1) →
    addAll fields draft (m :: members) = addAll fields draft members
  | [], (), _ => rfl
  | (name, shape) :: fields, (a?, draft), h => by
    obtain ⟨hne, h⟩ := not_or.mp (mt List.mem_cons.mpr h)
    rw [addAll, addAll, valuesOf_cons_of_ne hne, addAll_cons_of_notMem fields draft h]

/-- Whether a member goes to a field. -/
theorem add?_eq_none_iff : (fields : Fields) → (draft : Draft fields) → {v : Layout} →
    (add? fields draft name v = none ↔ name ∉ fields.map (·.1))
  | [], (), _ => by simp [add?]
  | (field, shape) :: fields, (a?, draft), v => by
    by_cases hname : name = field
    · simp [add?, hname]
    · simp [add?, hname, add?_eq_none_iff fields draft]

/-- **A member that goes to a field** comes first, and then the others. -/
theorem addAll_cons : (fields : Fields) → (draft : Draft fields) → {next : Option (Draft fields)} →
    (fields.map (·.1)).Nodup → add? fields draft m.name.text m.value = some next →
    addAll fields draft (m :: members) = next.bind fun draft => addAll fields draft members
  | (field, shape) :: fields, (a?, draft), next, hnodup, h => by
    obtain ⟨hfield, hnodup⟩ := List.nodup_cons.mp hnodup
    rw [add?] at h
    by_cases hname : m.name.text = field
    · rw [if_pos hname] at h
      cases h
      have hothers : addAll fields draft (m :: members) = addAll fields draft members :=
        addAll_cons_of_notMem fields draft (hname ▸ hfield)
      rw [addAll, valuesOf_cons_of_eq hname, List.foldlM_cons, hothers]
      cases addValue shape a? m.value with
      | none => rfl
      | some a? => rfl
    · rw [if_neg hname] at h
      obtain ⟨next', hadd, rfl⟩ := Option.map_eq_some_iff.mp h
      rw [addAll, valuesOf_cons_of_ne hname, addAll_cons fields draft hnodup hadd]
      cases next' with
      | none =>
        cases (valuesOf field members).foldlM (addValue shape) a? <;> rfl
      | some draft' => rfl

end Draft

/-- **Whether the values of strangers are not nested too deeply.** -/
def Fields.Shallow (fields : Fields) (depth : Nat) (members : List (Member Layout)) : Prop :=
  ∀ m ∈ members, m.name.text ∈ fields.map (·.1) ∨ m.value.depth ≤ depth

instance {depth : Nat} : DecidablePred (fields.Shallow depth) := fun _ =>
  inferInstanceAs (Decidable (∀ m ∈ _, _))

theorem Fields.shallow_cons_iff {depth : Nat} {m : Member Layout} {members : List (Member Layout)} :
    fields.Shallow depth (m :: members)
      ↔ (m.name.text ∈ fields.map (·.1) ∨ m.value.depth ≤ depth) ∧ fields.Shallow depth members :=
  List.forall_mem_cons

theorem Draft.addAll_nil : (fields : Fields) → (draft : Draft fields) →
    addAll fields draft [] = some draft
  | [], () => rfl
  | (_, _) :: fields, (a?, draft) => by
    rw [addAll, addAll_nil fields draft]
    rfl

/-- **Member by member is field by field**, if the names of the fields are distinct. -/
theorem Draft.foldlM_add (hnodup : (fields.map (·.1)).Nodup) (depth : Nat)
    (members : List (Member Layout)) (draft : Draft fields) :
    members.foldlM (Draft.add depth) draft
      = if fields.Shallow depth members then addAll fields draft members else none := by
  induction members generalizing draft with
  | nil =>
    have hshallow : fields.Shallow depth [] := fun m hm => by cases hm
    rw [if_pos hshallow, addAll_nil]
    rfl
  | cons m members ih =>
    have ih : (fun draft => members.foldlM (Draft.add depth) draft)
        = fun draft => if fields.Shallow depth members then addAll fields draft members else none :=
      funext ih
    rw [List.foldlM_cons]
    show (Draft.add depth draft m).bind (fun draft => members.foldlM (Draft.add depth) draft) = _
    rw [ih, add]
    simp only [Fields.shallow_cons_iff]
    cases hadd : add? fields draft m.name.text m.value with
    | none =>
      have hstranger := (add?_eq_none_iff fields draft).mp hadd
      rw [addAll_cons_of_notMem fields draft hstranger]
      by_cases hdepth : m.value.depth ≤ depth <;> simp [hstranger, hdepth]
    | some next =>
      have hfield : m.name.text ∈ fields.map (·.1) := by
        by_contra hnot
        cases ((add?_eq_none_iff fields draft).mpr hnot).symm.trans hadd
      rw [addAll_cons fields draft hnodup hadd]
      by_cases hshallow : fields.Shallow depth members <;> simp [hfield, hshallow]

/-! ## Records -/

/-- **The value of a field**, which one member tells. A field that may be left out is
told by none as well. -/
def Shape.told? (shape : Shape) : List Layout → Option shape.Value
  | [] => shape.absent?
  | [v] => shape.ofLayout? v
  | _ => none

/-- **The record that members tell.** -/
def Fields.told? : (fields : Fields) → List (Member Layout) → Option (Record fields)
  | [], _ => some ()
  | (name, shape) :: fields, members =>
    (shape.told? (valuesOf name members)).bind fun a =>
      (told? fields members).map fun record => (a, record)

/-- The values of a field come to what they tell. -/
theorem Draft.foldlM_addValue (shape : Shape) (vs : List Layout) :
    (vs.foldlM (addValue shape) none).bind (fun a? => a?.or shape.absent?) = shape.told? vs := by
  cases vs with
  | nil => rfl
  | cons v vs =>
    rw [List.foldlM_cons]
    show ((addValue shape none v).bind fun a? => vs.foldlM (addValue shape) a?).bind _ = _
    cases hv : shape.ofLayout? v with
    | none =>
      have hadd : addValue shape none v = none := by simp [addValue, hv]
      rw [hadd]
      cases vs <;> simp [Shape.told?, hv]
    | some a =>
      have hadd : addValue shape none v = some (some a) := by simp [addValue, hv]
      rw [hadd]
      cases vs with
      | nil => simp [Shape.told?, hv]
      | cons v' vs => simp [Shape.told?, addValue]

/-- **What the members add to the empty draft is what they tell.** -/
theorem Draft.finish_addAll : (fields : Fields) → (members : List (Member Layout)) →
    (addAll fields (empty fields) members).bind (fun draft => (finish fields draft).toOption)
      = fields.told? members
  | [], _ => rfl
  | (name, shape) :: fields, members => by
    rw [Fields.told?, ← foldlM_addValue, ← finish_addAll fields members, empty, addAll]
    cases (valuesOf name members).foldlM (addValue shape) none with
    | none => rfl
    | some a? =>
      cases addAll fields (empty fields) members with
      | none => cases h : a?.or shape.absent? <;> simp [h]
      | some draft =>
        cases h : a?.or shape.absent? with
        | none => simp [finish, h, Except.toOption]
        | some a =>
          cases hfinish : finish fields draft <;>
            simp [finish, h, hfinish, Except.map, Except.toOption]

/-- A field that may not be left out is told by one member. -/
theorem Shape.told?_eq_some_iff {shape : Shape} (h : shape.absent? = none) {vs : List Layout}
    {a : shape.Value} : shape.told? vs = some a ↔ ∃ v, vs = [v] ∧ shape.ofLayout? v = some a := by
  match vs with
  | [] => simp [told?, h]
  | [v] => simp [told?]
  | v :: v' :: vs => simp [told?]

/-- A field that may be left out is told by one member at most. -/
theorem Shape.told?_nullable_eq_some_iff {shape : Shape} {vs : List Layout}
    {a? : Option shape.Value} : (Shape.nullable shape).told? vs = some a?
      ↔ vs = [] ∧ a? = none ∨ ∃ v, vs = [v] ∧ v.nullable? shape.ofLayout? = some a? := by
  match vs with
  | [] => simp [told?, absent?, eq_comm]
  | [v] => simp [told?, ofLayout?]
  | v :: v' :: vs => simp [told?]

theorem Fields.told?_cons_eq_some_iff {name : String} {shape : Shape}
    {members : List (Member Layout)} {a : shape.Value} {record : Record fields} :
    Fields.told? ((name, shape) :: fields) members = some (a, record)
      ↔ shape.told? (valuesOf name members) = some a ∧ fields.told? members = some record := by
  simp [told?, Option.bind_eq_some_iff, Option.map_eq_some_iff]

/-- **A record is read as what its members tell**, whatever else stands among them. -/
theorem Fields.spans_layout (htextual : ∀ f ∈ fields, f.2.Textual)
    (hnodup : (fields.map (·.1)).Nodup) (depth : Nat) (gap : Gap)
    (members : List (Member Layout)) :
    (fields.reader (.ignored depth)).Spans (Layout.object gap members).write
      (if fields.Shallow depth members then fields.told? members else none) := by
  have hspans := Reader.spans_object (fun draft m (_ : m ∈ members) =>
    Draft.reads_goOn htextual depth draft m) (Draft.finish fields) gap (Draft.empty fields)
  rw [Draft.foldlM_add hnodup] at hspans
  rw [Fields.reader_eq, ← Draft.finish_addAll]
  by_cases hshallow : fields.Shallow depth members
  · simpa [hshallow] using hspans
  · simpa [hshallow] using hspans

end Json

/-! ## The data of a packet -/

namespace PacketData

open Json

variable {members : List (Member Layout)}

/-- **Whether the members of an object tell what a packet says**: each field once, the
class metadata at most once, with a null for what is not there. Members with other names
are not asked. -/
structure ToldBy (members : List (Member Layout)) (p : PacketData) : Prop where
  /-- The class. -/
  classId : ∃ v, valuesOf "classId" members = [v] ∧ v.text? = some p.classId
  /-- The metadata of the class, which may be missing if there is none. -/
  classUri : valuesOf "classUri" members = [] ∧ p.classUri = none
    ∨ ∃ v, valuesOf "classUri" members = [v] ∧ v.nullable? Layout.text? = some p.classUri
  /-- The tokens. -/
  tokenIds : ∃ v, valuesOf "tokenIds" members = [v] ∧ v.list? Layout.text? = some p.tokenIds
  /-- The metadata of the tokens. -/
  tokenUris : ∃ v, valuesOf "tokenUris" members = [v]
    ∧ v.list? (Layout.nullable? Layout.text?) = some p.tokenUris
  /-- The sender. -/
  sender : ∃ v, valuesOf "sender" members = [v] ∧ v.text? = some p.sender
  /-- The receiver. -/
  receiver : ∃ v, valuesOf "receiver" members = [v] ∧ v.text? = some p.receiver

/-- What a packet says is what its fields are told. -/
theorem toldBy_iff {p : PacketData} :
    p.ToldBy members ↔ fields.told? members = some p.toRecord := by
  have hfields : fields.told? members = some p.toRecord
      ↔ Shape.text.told? (valuesOf "classId" members) = some p.classId
        ∧ (Shape.nullable .text).told? (valuesOf "classUri" members) = some p.classUri
        ∧ (Shape.list .text).told? (valuesOf "tokenIds" members) = some p.tokenIds
        ∧ (Shape.list (.nullable .text)).told? (valuesOf "tokenUris" members) = some p.tokenUris
        ∧ Shape.text.told? (valuesOf "sender" members) = some p.sender
        ∧ Shape.text.told? (valuesOf "receiver" members) = some p.receiver
        ∧ Fields.told? [] members = some () := by
    refine Fields.told?_cons_eq_some_iff.trans (and_congr_right' ?_)
    refine Fields.told?_cons_eq_some_iff.trans (and_congr_right' ?_)
    refine Fields.told?_cons_eq_some_iff.trans (and_congr_right' ?_)
    refine Fields.told?_cons_eq_some_iff.trans (and_congr_right' ?_)
    refine Fields.told?_cons_eq_some_iff.trans (and_congr_right' ?_)
    exact Fields.told?_cons_eq_some_iff
  rw [hfields]
  constructor
  · intro h
    exact ⟨(Shape.told?_eq_some_iff rfl).mpr h.classId,
      Shape.told?_nullable_eq_some_iff.mpr h.classUri,
      (Shape.told?_eq_some_iff rfl).mpr h.tokenIds, (Shape.told?_eq_some_iff rfl).mpr h.tokenUris,
      (Shape.told?_eq_some_iff rfl).mpr h.sender, (Shape.told?_eq_some_iff rfl).mpr h.receiver, rfl⟩
  · rintro ⟨hclassId, hclassUri, htokenIds, htokenUris, hsender, hreceiver, -⟩
    exact ⟨(Shape.told?_eq_some_iff rfl).mp hclassId,
      Shape.told?_nullable_eq_some_iff.mp hclassUri,
      (Shape.told?_eq_some_iff rfl).mp htokenIds, (Shape.told?_eq_some_iff rfl).mp htokenUris,
      (Shape.told?_eq_some_iff rfl).mp hsender, (Shape.told?_eq_some_iff rfl).mp hreceiver⟩

/-- **What is decoded is what the members tell**, if no stranger among them is nested
too deeply. -/
theorem decode_eq_ok_iff (before gap after : Gap) {p : PacketData} :
    decode (before.write ++ (Layout.object gap members).write ++ after.write) = .ok p
      ↔ p.ToldBy members ∧ fields.Shallow (nestingLimit - 1) members := by
  have htextual : ∀ f ∈ fields, f.2.Textual := by simp [fields, Shape.Textual]
  have hread := ((Fields.spans_layout htextual (by decide) (nestingLimit - 1) gap members).map
    ofRecord).readAll before after
  have hok : decode (before.write ++ (Layout.object gap members).write ++ after.write) = .ok p
      ↔ (reader.readAll (before.write ++ (Layout.object gap members).write ++ after.write)).toOption
        = some p := by
    rw [decode]
    cases reader.readAll _ <;> simp [Except.mapError, Except.toOption]
  rw [hok, reader, hread, toldBy_iff]
  by_cases hshallow : fields.Shallow (nestingLimit - 1) members
  · have hrecord (record : Record fields) : ofRecord record = p ↔ record = p.toRecord := by
      constructor
      · rintro rfl
        rfl
      · rintro rfl
        rfl
    simp [hshallow, Option.map_eq_some_iff, hrecord]
  · simp [hshallow]

/-- A field that is told is told once, or it may be left out. -/
theorem ToldBy.length_valuesOf {p : PacketData} (h : p.ToldBy members) :
    ∀ name ∈ fields.map (·.1), (valuesOf name members).length = 1
      ∨ name = "classUri" ∧ valuesOf name members = [] := by
  have once {name : String} {P : Layout → Prop} (h : ∃ v, valuesOf name members = [v] ∧ P v) :
      (valuesOf name members).length = 1 := by
    obtain ⟨v, hv, -⟩ := h
    rw [hv]
    rfl
  intro name hname
  simp only [fields, List.map_cons, List.map_nil, List.mem_cons, List.not_mem_nil, or_false]
    at hname
  obtain rfl | rfl | rfl | rfl | rfl | rfl := hname
  · exact .inl (once h.classId)
  · obtain ⟨hnone, -⟩ | hsome := h.classUri
    · exact .inr ⟨rfl, hnone⟩
    · exact .inl (once hsome)
  · exact .inl (once h.tokenIds)
  · exact .inl (once h.tokenUris)
  · exact .inl (once h.sender)
  · exact .inl (once h.receiver)

/-- **Decoding does not depend on presentation.** Take any object, however its members are
ordered, spaced and escaped, and whatever else stands among the six fields of a packet.
If its members tell what a packet says and at most `Json.nestingLimit` lists and objects
stand inside each other, which is more than a hundred, then it is decoded to that
packet. If a field is missing that may not be left out, or a field is told twice, it is
not decoded. -/
theorem decode_layout (before gap after : Gap) (members : List (Member Layout)) :
    (∀ p : PacketData, p.ToldBy members → (Layout.object gap members).depth ≤ nestingLimit →
        decode (before.write ++ (Layout.object gap members).write ++ after.write) = .ok p)
      ∧ ∀ name ∈ fields.map (·.1),
        (name ≠ "classUri" ∧ valuesOf name members = [] ∨ 2 ≤ (valuesOf name members).length) →
          ∃ e, decode (before.write ++ (Layout.object gap members).write ++ after.write)
            = .error e := by
  constructor
  · intro p hp hdepth
    refine (decode_eq_ok_iff before gap after).mpr ⟨hp, fun m hm => .inr ?_⟩
    rw [Layout.depth] at hdepth
    exact Layout.depthOfMembers_le_iff.mp (Nat.le_sub_one_of_lt hdepth) m hm
  · intro name hname hbad
    cases hdecode : decode (before.write ++ (Layout.object gap members).write ++ after.write) with
    | error e => exact ⟨e, rfl⟩
    | ok p =>
      obtain ⟨hp, -⟩ := (decode_eq_ok_iff before gap after).mp hdecode
      obtain hone | ⟨rfl, hnone⟩ := hp.length_valuesOf name hname
      · obtain ⟨-, hmissing⟩ | htwice := hbad
        · simp [hmissing] at hone
        · omega
      · obtain ⟨hne, -⟩ | htwice := hbad
        · exact absurd rfl hne
        · simp [hnone] at htwice

/-- The packet is decoded, and it is not any more once a field is told twice. -/
theorem decode_layout_foreign :
    decode (Gap.write [] ++ (Layout.object [] foreignMembers).write ++ Gap.write [.lineFeed])
        = .ok { classId := "art", classUri := none, tokenIds := ["moon", "🌙"],
                tokenUris := [none, some "/"], sender := "alice", receiver := "bob" }
      ∧ ∃ e, decode (Gap.write [] ++ (Layout.object [] (foreignMembers ++ foreignMembers)).write
          ++ Gap.write []) = .error e := by
  constructor
  · refine (decode_layout [] [] [.lineFeed] foreignMembers).1 _ ?_ (by decide +kernel)
    exact ⟨⟨_, rfl, by decide +kernel⟩, .inl ⟨rfl, rfl⟩, ⟨_, rfl, by decide +kernel⟩,
      ⟨_, rfl, by decide +kernel⟩, ⟨_, rfl, by decide +kernel⟩, ⟨_, rfl, by decide +kernel⟩⟩
  · exact (decode_layout [] [] [] (foreignMembers ++ foreignMembers)).2 "sender" (by decide)
      (.inr (by decide +kernel))

end PacketData

end TokenBridge
