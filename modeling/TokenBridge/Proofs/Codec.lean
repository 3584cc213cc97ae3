import Mathlib.Data.List.DropRight
import TokenBridge.Ack
import TokenBridge.Packet.Data

/-!
# What is written is read back

A reader takes a text for a value if it does so whatever follows the text
(`Reader.Takes`). The readers of lists and of objects go from element to
element, and each element changes what has been read so far; `Reader.Goes`
follows them through the texts of the elements.

The members of an object may come in any order. What has been read of a
record after some of its members depends on nothing but their names
(`Draft.part`), so one member more takes a part of the record to a larger
part of the same record.

For the bridge two round trips come out of this: the data of a packet
(`PacketData.decode_encode`) and the answer to it (`Ack.decode_encode`).
-/

namespace TokenBridge

namespace Json

/-! ## Texts that are taken for a value -/

/-- Whether a text can follow a value. A digit cannot, since it would go on
with a number. -/
def Ends (rest : Bytes) : Prop := ∀ b ∈ rest.head?, isDigit b = false

/-- Whether a text can be a value, by its first octet. -/
def Opens (w : Bytes) : Prop := ∃ b t, w = b :: t ∧ isBlank b = false ∧ b ≠ 0x2C ∧ b ≠ 0x5D

/-- A member of an object, as it is written. -/
def writeMember (m : String × Bytes) : Bytes := writeText m.1 ++ 0x3A :: m.2

theorem ends_nil : Ends [] := by simp [Ends]

theorem ends_cons {b : UInt8} {rest : Bytes} (h : isDigit b = false) : Ends (b :: rest) := by
  simpa [Ends] using h

theorem skipBlanks_cons {b : UInt8} {s : Bytes} (h : isBlank b = false) :
    skipBlanks (b :: s) = b :: s :=
  List.dropWhile_cons_of_neg (by simp [h])

@[simp] theorem skipBlanks_skipBlanks (s : Bytes) : skipBlanks (skipBlanks s) = skipBlanks s :=
  List.dropWhile_idempotent isBlank s

theorem opens_writeText (s : String) : Opens (writeText s) :=
  ⟨quoteMark, _, rfl, by decide, by decide, by decide⟩

namespace Reader

variable {α β σ : Type}

/-- **A reader takes a text for a value**, whatever follows the text. -/
def Takes (r : Reader α) (w : Bytes) (a : α) : Prop :=
  ∀ rest, Ends rest → r.run (w ++ rest) = .ok (a, rest)

theorem Takes.check {r : Reader α} {f : α → Except ReadError β} {w : Bytes} {a : α} {b : β}
    (h : r.Takes w a) (hf : f a = .ok b) : (r.check f).Takes w b := by
  intro rest hrest
  unfold Reader.check
  simp [h rest hrest, hf, bind, Except.bind, pure, Except.pure]

theorem Takes.map {r : Reader α} {w : Bytes} {a : α} (f : α → β) (h : r.Takes w a) :
    (r.map f).Takes w (f a) :=
  h.check rfl

theorem takes_byFirst {choose : UInt8 → Reader α} {b : UInt8} {t : Bytes} {a : α}
    (hb : isBlank b = false) (h : (choose b).Takes (b :: t) a) :
    (byFirst choose).Takes (b :: t) a := by
  intro rest hrest
  unfold byFirst ofFirst
  rw [List.cons_append]
  simp only [skipBlanks_cons hb]
  exact h rest hrest

theorem takes_text (s : String) : text.Takes (writeText s) s :=
  fun rest _ => run_text_writeText s rest

theorem takes_null (a : α) : (null a).Takes [0x6E, 0x75, 0x6C, 0x6C] a := by
  intro rest _
  rfl

theorem Takes.entry {value : String → Except ReadError (Reader α)} {name : String} {r : Reader α}
    {w : Bytes} {a : α} (hv : value name = .ok r) (h : r.Takes w a) :
    (entry value).Takes (writeMember (name, w)) a := by
  intro rest hrest
  have hcolon : readColon (0x3A :: (w ++ rest)) = .ok (w ++ rest) := by
    unfold readColon
    rw [skipBlanks_cons (by decide)]
    rfl
  unfold Reader.entry writeMember
  rw [List.append_assoc, List.cons_append]
  simp [hv, hcolon, h rest hrest, bind, Except.bind]

theorem readAll_of_takes {r : Reader α} {w : Bytes} {a : α} (h : r.Takes w a) :
    r.readAll w = .ok a := by
  have hrun := h [] ends_nil
  rw [List.append_nil] at hrun
  unfold readAll
  rw [hrun]
  rfl

/-! ## Lists and objects -/

/-- Texts with commas between them. -/
def joined : List Bytes → Bytes
  | [] => []
  | w :: ws => w ++ ws.flatMap (0x2C :: ·)

/-- **The elements of a list or an object change a state**, one text after
another. -/
inductive Goes (element : σ → Reader σ) : σ → List Bytes → σ → Prop
  /-- There are no elements. -/
  | nil {a : σ} : Goes element a [] a
  /-- One element, and then the others. -/
  | cons {a b c : σ} {w : Bytes} {ws : List Bytes} (takes : (element a).Takes w b)
      (goes : Goes element b ws c) : Goes element a (w :: ws) c

variable {rule : Separation} {element : σ → Reader σ} {a b : σ}

theorem foldFrom_last {first : Bool} {s rest : Bytes}
    (h : rule.step first s = .ok (.last rest)) :
    foldFrom rule element first a s = .ok (a, rest) := by
  rw [foldFrom]
  split
  all_goals simp_all

theorem foldFrom_next {first first' : Bool} {s t rest : Bytes}
    (h : rule.step first s = .ok (.next first' t)) (hr : (element a).run t = .ok (b, rest)) :
    foldFrom rule element first a s = foldFrom rule element first' b rest := by
  rw [foldFrom]
  split
  · simp_all
  · simp_all
  · next heq =>
    rw [h] at heq
    cases heq
    split
    · simp_all
    · next hrun =>
      rw [hr] at hrun
      cases hrun
      rfl

/-- What a rule says of texts with commas between them, up to the closing
octet. The texts of an object are its members. -/
structure Separates (rule : Separation) (closing : UInt8) (IsElement : Bytes → Prop) : Prop where
  /-- The closing octet ends the elements. -/
  last : ∀ first rest, rule.step first (closing :: rest) = .ok (.last rest)
  /-- The first element stands alone. -/
  first : ∀ w rest, IsElement w → rule.step true (w ++ rest) = .ok (.next false (w ++ rest))
  /-- A comma stands before another element. -/
  comma : ∀ w rest, IsElement w →
    rule.step false (0x2C :: (w ++ rest)) = .ok (.next false (w ++ rest))
  /-- Blanks may stand before all that, -/
  blanks : ∀ first s, rule.step first (skipBlanks s) = rule.step first s
  /-- and after a comma. -/
  blanks_comma : ∀ s, rule.step false (0x2C :: skipBlanks s) = rule.step false (0x2C :: s)
  /-- The closing octet is no digit. -/
  ends : isDigit closing = false

theorem separates_list : Separates .list 0x5D Opens where
  last first rest := rfl
  first := by
    rintro _ rest ⟨b, t, rfl, hblank, hcomma, hclose⟩
    show listStep true (b :: (t ++ rest)) = .ok (.next false (b :: (t ++ rest)))
    unfold listStep
    rw [skipBlanks_cons hblank]
    simp [hcomma, hclose]
  comma := by
    rintro _ rest ⟨b, t, rfl, hblank, hcomma, hclose⟩
    show listStep false (0x2C :: b :: (t ++ rest)) = .ok (.next false (b :: (t ++ rest)))
    unfold listStep
    rw [skipBlanks_cons (by decide)]
    simp [skipBlanks_cons hblank, hclose]
  blanks first s := by simp only [Separation.list, listStep, skipBlanks_skipBlanks]
  blanks_comma s := by
    simp [Separation.list, listStep, skipBlanks_cons (show isBlank 0x2C = false from rfl)]
  ends := by decide

theorem separates_object : Separates .object 0x7D (·.head? = some quoteMark) where
  last first rest := by cases first <;> rfl
  first := by
    rintro (_ | ⟨b, t⟩) rest h
    · cases h
    · obtain rfl : b = quoteMark := by simpa using h
      rfl
  comma := by
    rintro (_ | ⟨b, t⟩) rest h
    · cases h
    · obtain rfl : b = quoteMark := by simpa using h
      rfl
  blanks first s := by simp only [Separation.object, objectStep, skipBlanks_skipBlanks]
  blanks_comma s := by
    simp [Separation.object, objectStep, skipBlanks_cons (show isBlank 0x2C = false from rfl)]
  ends := by decide

variable {closing opening : UInt8} {IsElement : Bytes → Prop} {ws : List Bytes}

/-- After the first element, the others follow with a comma each. -/
theorem foldFrom_of_goes (hrule : Separates rule closing IsElement) (h : Goes element a ws b)
    (hws : ∀ w ∈ ws, IsElement w) (rest : Bytes) :
    foldFrom rule element false a (ws.flatMap (0x2C :: ·) ++ closing :: rest)
      = .ok (b, rest) := by
  induction h with
  | nil => exact foldFrom_last (hrule.last false rest)
  | @cons a b c w ws takes goes ih =>
    obtain ⟨hw, hws⟩ := List.forall_mem_cons.mp hws
    have hends : Ends (ws.flatMap (0x2C :: ·) ++ closing :: rest) := by
      cases ws with
      | nil => exact ends_cons hrule.ends
      | cons => exact ends_cons rfl
    rw [List.flatMap_cons, List.append_assoc, List.cons_append,
      foldFrom_next (hrule.comma w _ hw) (takes _ hends)]
    exact ih hws

/-- **A list or an object is read** when its elements are. -/
theorem Goes.takes {α : Type} {finish : σ → Except ReadError α} {x : α}
    (h : Goes element a ws b) (hrule : Separates rule closing IsElement)
    (hws : ∀ w ∈ ws, IsElement w) (hopening : isBlank opening = false) (hx : finish b = .ok x) :
    (bracketed opening rule element a finish).Takes (opening :: (joined ws ++ [closing])) x := by
  refine Takes.check ?_ hx
  intro rest _
  unfold ofFirst
  rw [List.cons_append]
  simp only [skipBlanks_cons hopening, if_true]
  cases h with
  | nil => exact foldFrom_last (hrule.last true rest)
  | @cons _ b' _ w ws takes goes =>
    obtain ⟨hw, hws⟩ := List.forall_mem_cons.mp hws
    have hends : Ends (ws.flatMap (0x2C :: ·) ++ closing :: rest) := by
      cases ws with
      | nil => exact ends_cons hrule.ends
      | cons => exact ends_cons rfl
    rw [joined, List.append_assoc, List.append_assoc, List.cons_append, List.nil_append,
      foldFrom_next (hrule.first w _ hw) (takes _ hends)]
    exact foldFrom_of_goes hrule goes hws rest

/-- **A list is read** when its elements are. -/
theorem takes_list {α : Type} {r : Reader α} {write : α → Bytes}
    (h : ∀ a, r.Takes (write a) a) (hopens : ∀ a, Opens (write a)) (as : List α) :
    r.list.Takes (0x5B :: (joined (as.map write) ++ [0x5D])) as := by
  -- the elements read so far are in reverse
  have goes (read : List α) :
      Goes (fun read => r.map (· :: read)) read (as.map write) (as.reverse ++ read) := by
    induction as generalizing read with
    | nil => exact .nil
    | cons a as ih =>
      rw [List.reverse_cons, List.append_assoc]
      exact .cons ((h a).map _) (ih _)
  refine (goes []).takes separates_list ?_ (by decide) ?_
  · simpa using fun a _ => hopens a
  · simp

/-- **An object is read** when its members are. -/
theorem Goes.takes_object {α : Type} {member : σ → String → Except ReadError (Reader σ)}
    {finish : σ → Except ReadError α} {x : α} {ms : List (String × Bytes)}
    (h : Goes (fun state => entry (member state)) a
      (ms.map writeMember) b) (hx : finish b = .ok x) :
    (object member a finish).Takes
      (0x7B :: (joined (ms.map writeMember) ++ [0x7D])) x := by
  refine h.takes separates_object ?_ (by decide) hx
  intro w hw
  obtain ⟨m, -, rfl⟩ := List.mem_map.mp hw
  rfl

end Reader

/-! ## The written form of lists and objects -/

theorem writeItems_eq (items : List Json) : writeItems items = Reader.joined (items.map write) := by
  induction items with
  | nil => rfl
  | cons x items ih =>
    cases items with
    | nil => simp [writeItems, Reader.joined]
    | cons y items => rw [writeItems, ih]; simp [Reader.joined]

theorem writeMembers_eq (members : List (String × Json)) :
    writeMembers members
      = Reader.joined (members.map fun m => writeMember (m.1, m.2.write)) := by
  induction members with
  | nil => rfl
  | cons m members ih =>
    cases members with
    | nil => simp [writeMembers, Reader.joined, writeMember]
    | cons m' members => rw [writeMembers, ih]; simp [Reader.joined, writeMember]

/-! ## Shapes -/

/-- **What is written of a shape is read back.** -/
structure Shape.Legible (shape : Shape) : Prop where
  /-- It can be an element of a list. -/
  opens : ∀ a, Opens (shape.toJson a).write
  /-- It is taken for the value that was written. -/
  takes : ∀ a, shape.reader.Takes (shape.toJson a).write a

theorem Shape.legible_text : Shape.text.Legible where
  opens s := by
    rw [toJson, write]
    exact opens_writeText s
  takes s := by
    rw [toJson, write]
    exact Reader.takes_text s

/-- A shape that is never taken for a null may be nullable. -/
theorem Shape.Legible.nullable {shape : Shape} (h : shape.Legible)
    (hnull : ∀ a, (shape.toJson a).write.head? ≠ some 0x6E) : (Shape.nullable shape).Legible where
  opens a? := by
    cases a? with
    | none => exact ⟨0x6E, _, rfl, by decide, by decide, by decide⟩
    | some a => exact h.opens a
  takes a? := by
    cases a? with
    | none => exact Reader.takes_byFirst (by decide) (Reader.takes_null none)
    | some a =>
      obtain ⟨b, t, hw, hblank, -, -⟩ := h.opens a
      have htakes := h.takes a
      have hne : b ≠ 0x6E := fun hb => hnull a (by rw [hw, hb, List.head?_cons])
      rw [toJson]
      rw [hw] at htakes ⊢
      refine Reader.takes_byFirst hblank ?_
      rw [if_neg hne]
      exact htakes.map some

theorem Shape.legible_nullable_text : (Shape.nullable .text).Legible :=
  legible_text.nullable fun s => by
    rw [toJson, write]
    exact fun h => absurd (Option.some.inj h) (by decide)

theorem Shape.Legible.list {shape : Shape} (h : shape.Legible) : (Shape.list shape).Legible where
  opens as := ⟨0x5B, _, by rw [toJson, write], by decide, by decide, by decide⟩
  takes as := by
    rw [toJson, write, writeItems_eq, List.map_map]
    exact Reader.takes_list h.takes h.opens as

/-! ## Records -/

/-- **The part of a record** that the fields of some names make up. -/
def Draft.part (known : String → Bool) : (fields : Fields) → Record fields → Draft fields
  | [], () => ()
  | (name, _) :: fields, (a, record) =>
    (if known name then some a else none, part known fields record)

/-- Whether a text is read as the field of a name. -/
def Fields.Gives : (fields : Fields) → Record fields → String → Bytes → Prop
  | [], (), _, _ => False
  | (field, shape) :: fields, (a, record), name, w =>
    if name = field then shape.reader.Takes w a else Gives fields record name w

variable {fields : Fields} {known : String → Bool} {name : String} {w : Bytes}

theorem Draft.part_none : (fields : Fields) → (record : Record fields) →
    part (fun _ => false) fields record = empty fields
  | [], () => rfl
  | (_, _) :: fields, (_, record) => by simp [part, empty, part_none fields record]

theorem Draft.part_congr {other : String → Bool} : (fields : Fields) → (record : Record fields) →
    (∀ f ∈ fields, known f.1 = other f.1) → part known fields record = part other fields record
  | [], (), _ => rfl
  | (name, shape) :: fields, (a, record), h => by
    obtain ⟨hname, h⟩ := List.forall_mem_cons.mp h
    rw [part, part, part_congr fields record h, hname]

theorem Draft.finish_part : (fields : Fields) → (record : Record fields) →
    (∀ f ∈ fields, known f.1 = true) → finish fields (part known fields record) = .ok record
  | [], (), _ => rfl
  | (name, shape) :: fields, (a, record), h => by
    obtain ⟨hname, h⟩ := List.forall_mem_cons.mp h
    rw [part, finish, finish_part fields record h, hname]
    rfl

/-- **One member more**, of a name that has not been read yet, leads to the
part of the record that has its field as well. -/
theorem Draft.member?_part : (fields : Fields) → (record : Record fields) →
    (fields.map (·.1)).Nodup → fields.Gives record name w → known name = false →
    ∃ r, member? fields (part known fields record) name = some (.ok r)
      ∧ r.Takes w (part (fun n => known n || n == name) fields record)
  | [], (), _, h, _ => h.elim
  | (field, shape) :: fields, (a, record), hnodup, h, hknown => by
    obtain ⟨hfield, hnodup⟩ := List.nodup_cons.mp hnodup
    unfold Fields.Gives at h
    by_cases hname : name = field
    · subst hname
      rw [if_pos rfl] at h
      have hrest : part (fun n => known n || n == name) fields record
          = part known fields record := by
        refine part_congr fields record fun f hf => ?_
        have hne : f.1 ≠ name := fun heq => hfield (List.mem_map.mpr ⟨f, hf, heq⟩)
        simp [hne]
      rw [part, member?, if_pos rfl, part, hrest]
      simp only [hknown]
      exact ⟨_, rfl, by simpa using h.map fun a => (some a, part known fields record)⟩
    · rw [if_neg hname] at h
      obtain ⟨r, hr, htakes⟩ := member?_part fields record hnodup h hknown
      have hsame : (known field || field == name) = known field := by
        simp [Ne.symm hname]
      rw [part, member?, if_neg hname, hr, part, hsame]
      exact ⟨_, rfl, htakes.map _⟩

/-- How the value of a member goes on with a draft. -/
def Fields.goOn (fields : Fields) (strangers : Strangers) (draft : Draft fields)
    (name : String) : Except ReadError (Reader (Draft fields)) :=
  match draft.member? fields name with
  | some next => next
  | none =>
    match strangers with
    | .refused => .error (.unknownField name (fields.map (·.1)))
    | .ignored depth => .ok ((Reader.ignored depth).map fun _ => draft)

theorem Fields.reader_eq (fields : Fields) (strangers : Strangers) :
    fields.reader strangers
      = .object (fields.goOn strangers) (Draft.empty fields) (Draft.finish fields) := rfl

variable {ms : List (String × Bytes)}

/-- **The members of a record may come in any order.** -/
theorem Fields.goes_part (strangers : Strangers) (known : String → Bool) {record : Record fields}
    (hnodup : (fields.map (·.1)).Nodup) (hms : ∀ m ∈ ms, fields.Gives record m.1 m.2)
    (hnames : (ms.map (·.1)).Nodup)
    (hnew : ∀ m ∈ ms, known m.1 = false) :
    Reader.Goes (fun draft => Reader.entry (fields.goOn strangers draft))
      (Draft.part known fields record) (ms.map writeMember)
      (Draft.part (fun n => known n || ms.any (·.1 == n)) fields record) := by
  induction ms generalizing known with
  | nil => simpa using Reader.Goes.nil
  | cons m ms ih =>
    obtain ⟨hm, hms⟩ := List.forall_mem_cons.mp hms
    obtain ⟨hname, hnames⟩ := List.nodup_cons.mp hnames
    obtain ⟨hnew, hrest⟩ := List.forall_mem_cons.mp hnew
    obtain ⟨r, hr, htakes⟩ := Draft.member?_part fields record hnodup hm hnew
    have hvalue : fields.goOn strangers (Draft.part known fields record) m.1 = .ok r := by
      unfold goOn
      rw [hr]
    have hknown : (fun n => known n || (m :: ms).any (·.1 == n))
        = fun n => (known n || n == m.1) || ms.any (·.1 == n) := by
      funext n
      rw [List.any_cons, Bool.or_assoc, BEq.comm]
    rw [hknown]
    refine .cons (htakes.entry hvalue) (ih _ hms hnames fun m' hm' => ?_)
    have hne : m'.1 ≠ m.1 := fun heq => hname (List.mem_map.mpr ⟨m', hm', heq⟩)
    simp [hrest m' hm', hne]

/-- **A record is read** from its members, in whatever order they come. -/
theorem Fields.takes_members (strangers : Strangers) {record : Record fields}
    (hnodup : (fields.map (·.1)).Nodup) (hms : ∀ m ∈ ms, fields.Gives record m.1 m.2)
    (hnames : (ms.map (·.1)).Nodup)
    (hall : ∀ f ∈ fields, f.1 ∈ ms.map (·.1)) :
    (fields.reader strangers).Takes
      (0x7B :: (Reader.joined (ms.map writeMember) ++ [0x7D]))
      record := by
  have goes := goes_part strangers (fun _ => false) hnodup hms hnames fun _ _ => rfl
  rw [Draft.part_none] at goes
  rw [reader_eq]
  refine goes.takes_object (Draft.finish_part fields record fun f hf => ?_)
  obtain ⟨m, hm, hname⟩ := List.mem_map.mp (hall f hf)
  simpa using ⟨m.2, hname ▸ hm⟩

theorem Fields.map_fst_members : (fields : Fields) → (record : Record fields) →
    (fields.members record).map (·.1) = fields.map (·.1)
  | [], () => rfl
  | (name, shape) :: fields, (a, record) => by
    rw [members, List.map_cons, List.map_cons, map_fst_members fields record]

theorem Fields.gives_of_mem_members : (fields : Fields) → (record : Record fields) →
    (fields.map (·.1)).Nodup → (∀ f ∈ fields, f.2.Legible) → ∀ m ∈ fields.members record,
    fields.Gives record m.1 m.2.write
  | [], (), _, _, m, hm => by cases hm
  | (name, shape) :: fields, (a, record), hnodup, hlegible, m, hm => by
    obtain ⟨hname, hnodup⟩ := List.nodup_cons.mp hnodup
    obtain ⟨hshape, hlegible⟩ := List.forall_mem_cons.mp hlegible
    rw [members] at hm
    unfold Gives
    obtain rfl | htail := List.mem_cons.mp hm
    · rw [if_pos rfl]
      exact hshape.takes a
    · have hne : m.1 ≠ name := by
        rintro rfl
        refine hname ?_
        rw [← map_fst_members fields record]
        exact List.mem_map_of_mem htail
      rw [if_neg hne]
      exact gives_of_mem_members fields record hnodup hlegible m htail

/-- **A record that is written is read back**, if all its shapes are. -/
theorem Fields.takes_write (strangers : Strangers) (hnodup : (fields.map (·.1)).Nodup)
    (hlegible : ∀ f ∈ fields, f.2.Legible) (record : Record fields) :
    (fields.reader strangers).Takes (fields.toJson record).write record := by
  have hgives : ∀ m ∈ (fields.members record).map fun m => (m.1, m.2.write),
      fields.Gives record m.1 m.2 := by
    intro m hm
    obtain ⟨member, hmember, rfl⟩ := List.mem_map.mp hm
    exact gives_of_mem_members fields record hnodup hlegible member hmember
  have hnames : ((fields.members record).map fun m => (m.1, m.2.write)).map (·.1)
      = fields.map (·.1) := by
    rw [List.map_map, ← map_fst_members fields record]
    rfl
  have h := takes_members strangers hnodup hgives (hnames ▸ hnodup)
    (hnames ▸ fun f hf => List.mem_map_of_mem hf)
  rw [toJson, write, writeMembers_eq]
  rwa [List.map_map] at h

end Json

/-! ## The data of a packet -/

namespace PacketData

theorem legible_of_mem_fields : ∀ f ∈ fields, f.2.Legible := by
  have htext := Json.Shape.legible_text
  have hnullable := Json.Shape.legible_nullable_text
  simp [fields, htext, hnullable, htext.list, hnullable.list]

/-- **The data that was sent is read back.** -/
theorem decode_encode (p : PacketData) : decode p.encode = .ok p := by
  have h := (Json.Fields.takes_write (.ignored (Json.nestingLimit - 1)) (by decide)
    legible_of_mem_fields p.toRecord).map ofRecord
  rw [decode, reader, encode, Json.Reader.readAll_of_takes h]
  rfl

/-- **The written form is faithful.** There is one for all data, whatever characters its
texts consist of and whether or not there are as many metadata entries as tokens. The
data is read back from it, so no two packets that say different things look the
same. -/
theorem encode_faithful :
    (∀ p : PacketData, decode p.encode = .ok p) ∧ Function.Injective encode := by
  refine ⟨decode_encode, fun p q h => ?_⟩
  have hdecode : (.ok p : Except Json.Unreadable PacketData) = .ok q := by
    rw [← decode_encode p, h, decode_encode q]
  exact Except.ok.inj hdecode

end PacketData

/-! ## Acknowledgements -/

namespace Ack

open Json (Reader ReadError writeText writeMember)

theorem takes_any_text (depth : Nat) (s : String) :
    (Reader.any depth).Takes (writeText s) (.text s) := by
  cases depth with
  | zero => exact Reader.takes_byFirst (by decide) ((Reader.takes_text s).map _)
  | succ => exact Reader.takes_byFirst (by decide) ((Reader.takes_text s).map _)

theorem takes_tag {tag : Tag} {name : String} (h : Tag.ofName name = .ok tag) :
    Tag.reader.Takes (writeText name) tag :=
  (Reader.takes_text name).check h

/-- How a member goes on with an answer. -/
def goOn (read : Option Tag × List (String × Json)) (name : String) :
    Except ReadError (Reader (Option Tag × List (String × Json))) :=
  if name = "result" then
    match read.1 with
    | some _ => .error (.duplicateField "result")
    | none => .ok (Tag.reader.map fun tag => (some tag, read.2))
  else .ok (inner.map fun v => (read.1, (name, v) :: read.2))

theorem objectReader_eq :
    objectReader = .object goOn (none, []) fun read => ofMembers read.1 read.2.reverse := rfl

theorem takes_of_goes {ms : List (String × Bytes)} {tag : Option Tag}
    {members : List (String × Json)} {a : Ack}
    (goes : Reader.Goes (fun read => Reader.entry (goOn read)) (none, []) (ms.map writeMember)
      (tag, members)) (ha : ofMembers tag members.reverse = .ok a) :
    objectReader.Takes (0x7B :: (Reader.joined (ms.map writeMember) ++ [0x7D])) a := by
  rw [objectReader_eq]
  exact goes.takes_object ha

theorem takes_result {tag : Tag} {kind : String} (h : Tag.ofName kind = .ok tag) :
    (Reader.entry (goOn (none, []))).Takes (writeMember ("result", writeText kind))
      (some tag, []) :=
  ((takes_tag h).map fun tag => (some tag, [])).entry rfl

theorem takes_message (tag : Tag) (message : String) :
    (Reader.entry (goOn (some tag, []))).Takes (writeMember ("message", writeText message))
      (some tag, [("message", .text message)]) :=
  ((takes_any_text _ message).map fun v => (some tag, [("message", v)])).entry rfl

/-- **The answer that was written is read back.** -/
theorem decode_encode (a : Ack) : decode a.encode = .ok a := by
  have h : objectReader.Takes a.encode a := by
    cases a with
    | success =>
      have goes : Reader.Goes (fun read => Reader.entry (goOn read)) (none, [])
          ([("result", writeText "success")].map writeMember) (some .success, []) :=
        .cons (takes_result rfl) .nil
      rw [encode, toJson, Json.write, Json.writeMembers_eq]
      simpa [Json.write] using takes_of_goes goes rfl
    | error message =>
      have goes : Reader.Goes (fun read => Reader.entry (goOn read)) (none, [])
          ([("result", writeText "error"), ("message", writeText message)].map writeMember)
          (some .error, [("message", .text message)]) :=
        .cons (takes_result rfl) (.cons (takes_message .error message) .nil)
      rw [encode, toJson, Json.write, Json.writeMembers_eq]
      simpa [Json.write] using takes_of_goes goes rfl
  have hbrace : ∃ t, a.encode = 0x7B :: t := by
    cases a with
    | success => exact ⟨_, by rw [encode, toJson, Json.write]⟩
    | error message => exact ⟨_, by rw [encode, toJson, Json.write]⟩
  obtain ⟨t, ht⟩ := hbrace
  rw [ht] at h
  have hreader : reader.Takes (0x7B :: t) a := Reader.takes_byFirst (by decide) h
  rw [decode, ht, Reader.readAll_of_takes hreader]
  rfl

/-- An answer that was written is never garbled. -/
theorem decodeLenient_encode (a : Ack) : decodeLenient a.encode = a := by
  rw [decodeLenient, decode_encode]

end Ack

end TokenBridge
