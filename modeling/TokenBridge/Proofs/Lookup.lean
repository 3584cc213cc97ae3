import TokenBridge.Proofs.Yields

/-!
# What is found in a store

The store of a bridge holds octets under octets. The theorems about the
bridge speak of records under keys instead: `Store.look` is the entry
under a key, and `Table.view` the record of a table under a key of that
table. Since no two keys share their octets, writing under one key is not
seen under another, which is all that has to be known of the octets
(`Store.look_keep`, `Store.look_drop`).

A key some part of which is too long has no octets. Nothing is found under
it and nothing can be kept under it; the operations on tables break off
instead. A key that has octets is said to fit.

Each operation on a table is described by one equivalence, which says when
it succeeds, with what result, and what it leaves.
-/

namespace TokenBridge

/-! ## Keys -/

namespace Key

/-- **Whether a key has octets**, that is, no part of it is too long. -/
def Fits (k : Key) : Prop := k.encode? ≠ none

instance : DecidablePred Fits := fun _ => inferInstanceAs (Decidable (_ ≠ _))

/-- A part that is short enough gets its length in front. -/
theorem frame?_of_lt {part : Bytes} (h : part.length < UInt16.size) :
    frame? part = some (Bytes.bigEndian 2 part.length ++ part) :=
  if_pos h

/-- The last part of a key may have any length. -/
theorem join?_ne_none {name : Bytes} (h : name.length < UInt16.size) (last : Bytes) :
    join? [name, last] ≠ none := by
  rw [join?, frame?_of_lt h]
  exact Option.some_ne_none _

/-- A part that stands between others has to have a length that can be
written. -/
theorem join?_ne_none_iff {name part last : Bytes} (h : name.length < UInt16.size) :
    join? [name, part, last] ≠ none ↔ part.length < UInt16.size := by
  rw [join?, join?, frame?_of_lt h]
  by_cases hp : part.length < UInt16.size
  · rw [frame?_of_lt hp]
    exact iff_of_true (Option.some_ne_none _) hp
  · rw [show frame? part = none from if_neg hp]
    exact iff_of_false (fun hn => hn rfl) hp

/-- The names of the spaces are short. -/
theorem length_name_lt (space : Space) : (Bytes.ofText space.name).length < UInt16.size := by
  cases space <;> decide +kernel

theorem fits_settings : settings.Fits := by decide +kernel
theorem fits_lastAck : lastAck.Fits := by decide +kernel
theorem fits_channel (id : String) : (channel id).Fits := join?_ne_none (length_name_lt _) _
theorem fits_tokenClass (id : String) : (tokenClass id).Fits := join?_ne_none (length_name_lt _) _
theorem fits_collection (a : String) : (collection a).Fits := join?_ne_none (length_name_lt _) _

theorem fits_token_iff {classId tokenId : String} :
    (token classId tokenId).Fits ↔ (Bytes.ofText classId).length < UInt16.size :=
  join?_ne_none_iff (length_name_lt .tokens)

theorem fits_deposit_iff {classId tokenId : String} :
    (deposit classId tokenId).Fits ↔ (Bytes.ofText classId).length < UInt16.size :=
  join?_ne_none_iff (length_name_lt .deposits)

theorem fits_shipment_iff {channelId : String} {sequence : UInt64} :
    (shipment channelId sequence).Fits ↔ (Bytes.ofText channelId).length < UInt16.size :=
  join?_ne_none_iff (length_name_lt .shipments)

theorem fits_pending_iff {channelId : String} {sequence : UInt64} :
    (pending channelId sequence).Fits ↔ (Bytes.ofText channelId).length < UInt16.size :=
  join?_ne_none_iff (length_name_lt .pending)

/-- No two keys share their octets. -/
theorem eq_of_encode?_eq {k k' : Key} {b : Bytes} (h : k.encode? = some b)
    (h' : k'.encode? = some b) : k = k' := by
  have := decode?_of_encode? h
  rw [decode?_of_encode? h'] at this
  exact (Option.some.inj this).symm

end Key

/-! ## Entries under keys -/

namespace Store

variable {s t u : Store Entry} {k k' : Key} {e : Entry}

/-- The entry under a key. -/
def look (s : Store Entry) (k : Key) : Option Entry := k.encode?.bind s.get?

/-- The store with an entry under a key that fits. -/
def keep (s : Store Entry) (k : Key) (e : Entry) : Store Entry :=
  match k.encode? with
  | some b => s.insert b e
  | none => s

/-- The store with nothing under a key. -/
def drop (s : Store Entry) (k : Key) : Store Entry :=
  match k.encode? with
  | some b => s.erase b
  | none => s

@[simp] theorem look_empty : (empty : Store Entry).look k = none := by
  cases h : k.encode? <;> simp [look, h]

/-- A key under which something is found fits. -/
theorem fits_of_look (h : s.look k = some e) : k.Fits := by
  intro hk
  rw [look, hk] at h
  cases h

/-- What is kept under a key is found under it, and nowhere else. -/
theorem look_keep (hk : k.Fits) : (s.keep k e).look k' = if k' = k then some e else s.look k' := by
  cases h : k.encode? with
  | none => exact absurd h hk
  | some b =>
    simp only [look, keep, h]
    cases h' : k'.encode? with
    | none =>
      rw [if_neg]
      · rfl
      · rintro rfl
        rw [h'] at h
        cases h
    | some b' =>
      have hb : b' = b ↔ k' = k := by
        constructor
        · rintro rfl
          exact Key.eq_of_encode?_eq h' h
        · rintro rfl
          rw [h] at h'
          exact (Option.some.inj h').symm
      simp [hb]

/-- What is kept under a key takes the place of what was kept there. -/
theorem keep_keep {e' : Entry} : (s.keep k e).keep k e' = s.keep k e' := by
  simp only [keep]
  cases k.encode? with
  | none => rfl
  | some b =>
    refine ext_get? fun key => ?_
    simp only [get?_insert]
    split <;> rfl

/-- What is dropped under a key is not found under it, and everything
else still is. -/
theorem look_drop : (s.drop k).look k' = if k' = k then none else s.look k' := by
  cases h : k.encode? with
  | none =>
    simp only [look, drop, h]
    split
    · next heq => rw [heq, h]; rfl
    · rfl
  | some b =>
    simp only [look, drop, h]
    cases h' : k'.encode? with
    | none => simp
    | some b' =>
      have hb : b' = b ↔ k' = k := by
        constructor
        · rintro rfl
          exact Key.eq_of_encode?_eq h' h
        · rintro rfl
          rw [h] at h'
          exact (Option.some.inj h').symm
      simp [hb]

/-- **Nothing but what is under the given keys has changed**, not even under
octets that are those of no key. -/
def ChangedOnly (P : Key → Prop) (s u : Store Entry) : Prop :=
  ∀ b, (∀ k, P k → k.encode? ≠ some b) → u.get? b = s.get? b

namespace ChangedOnly

variable {P Q : Key → Prop}

theorem refl : ChangedOnly P s s := fun _ _ => rfl

theorem trans (h : ChangedOnly P s t) (h' : ChangedOnly P t u) : ChangedOnly P s u :=
  fun b hb => (h' b hb).trans (h b hb)

theorem mono (h : ChangedOnly P s u) (hPQ : ∀ k, P k → Q k) : ChangedOnly Q s u :=
  fun b hb => h b fun k hk => hb k (hPQ k hk)

theorem keep (hP : P k) : ChangedOnly P s (s.keep k e) := by
  intro b hb
  rw [Store.keep]
  split
  · next b' hk =>
    rw [get?_insert, if_neg]
    rintro rfl
    exact hb k hP hk
  · rfl

theorem drop (hP : P k) : ChangedOnly P s (s.drop k) := by
  intro b hb
  rw [Store.drop]
  split
  · next b' hk =>
    rw [get?_erase, if_neg]
    rintro rfl
    exact hb k hP hk
  · rfl

/-- What is under the other keys is the same. -/
theorem look (h : ChangedOnly P s u) (hk : ¬ P k) : u.look k = s.look k := by
  cases hb : k.encode? with
  | none => simp only [Store.look, hb, Option.bind_none]
  | some b =>
    simp only [Store.look, hb, Option.bind_some]
    refine h b fun k' hP hk' => ?_
    obtain rfl := Key.eq_of_encode?_eq hk' hb
    exact hk hP

end ChangedOnly

end Store

/-! ## Records in tables -/

namespace Table

variable {κ κ' α β : Type} {s u : Store Entry} {k : Key} {e : Entry}

/-- **The record of a table under a key.** -/
def view (t : Table κ α) (s : Store Entry) (k : κ) : Option α :=
  (s.look (t.key k)).bind t.record?

@[simp] theorem view_empty {t : Table κ α} {i : κ} : t.view .empty i = none := by
  simp [view]

theorem fits_of_view {t : Table κ α} {i : κ} {a : α} (h : t.view s i = some a) :
    (t.key i).Fits := by
  obtain ⟨e, he, -⟩ := Option.bind_eq_some_iff.mp h
  exact Store.fits_of_look he

theorem view_keep {t : Table κ α} {i : κ} (hk : k.Fits) :
    t.view (s.keep k e) i = if t.key i = k then t.record? e else t.view s i := by
  rw [view, Store.look_keep hk]
  split <;> rfl

theorem view_drop {t : Table κ α} {i : κ} :
    t.view (s.drop k) i = if t.key i = k then none else t.view s i := by
  rw [view, Store.look_drop]
  split <;> rfl

/-- A record stays as it is where nothing has changed. -/
theorem view_of_changedOnly {P : Key → Prop} (h : Store.ChangedOnly P s u) (t : Table κ α)
    {i : κ} (hi : ¬ P (t.key i)) : t.view u i = t.view s i := by
  rw [view, view, h.look hi]

/-- **A record is found where its entry is**, if no other entry is read as that
record. -/
theorem view_eq_some_iff {t : Table κ α} {i : κ} {a : α}
    (ht : ∀ e, t.record? e = some a → e = t.entry a) :
    t.view s i = some a ↔ s.look (t.key i) = some (t.entry a) := by
  rw [view, Option.bind_eq_some_iff]
  constructor
  · rintro ⟨e, he, hrecord⟩
    rw [he, ht e hrecord]
  · intro h
    exact ⟨_, h, t.record?_entry a⟩

/-! ### The places of records -/

@[simp] theorem settings_key (i : Unit) : settings.key i = .settings := rfl
@[simp] theorem version_key (i : Unit) : version.key i = .version := rfl
@[simp] theorem lastAck_key (i : Unit) : lastAck.key i = .lastAck := rfl
@[simp] theorem channels_key (i : String) : channels.key i = .channel i := rfl
@[simp] theorem classes_key (i : String) : classes.key i = .tokenClass i := rfl
@[simp] theorem collections_key (i : Address) : collections.key i = .collection i := rfl
@[simp] theorem tokens_key (i : String × String) : tokens.key i = .token i.1 i.2 := rfl
@[simp] theorem deposits_key (i : String × String) : deposits.key i = .deposit i.1 i.2 := rfl
@[simp] theorem shipments_key (i : String × UInt64) : shipments.key i = .shipment i.1 i.2 := rfl
@[simp] theorem pending_key (i : String × UInt64) : pending.key i = .pending i.1 i.2 := rfl

@[simp] theorem settings_entry (a : Settings) : settings.entry a = .settings a := rfl
@[simp] theorem version_entry (a : Version) : version.entry a = .version a := rfl
@[simp] theorem lastAck_entry (a : Ack) : lastAck.entry a = .lastAck a := rfl
@[simp] theorem channels_entry (a : Channel) : channels.entry a = .channel a := rfl
@[simp] theorem classes_entry (a : TokenClass) : classes.entry a = .tokenClass a := rfl
@[simp] theorem collections_entry (a : String) : collections.entry a = .collection a := rfl
@[simp] theorem tokens_entry (a : Token) : tokens.entry a = .token a := rfl
@[simp] theorem deposits_entry (a : Deposit) : deposits.entry a = .deposit a := rfl
@[simp] theorem shipments_entry (a : Shipment) : shipments.entry a = .shipment a := rfl
@[simp] theorem pending_entry (a : Unit) : pending.entry a = .pending := rfl

@[simp] theorem channels_record? (a : Channel) : channels.record? (.channel a) = some a := rfl
@[simp] theorem classes_record? (a : TokenClass) : classes.record? (.tokenClass a) = some a := rfl
@[simp] theorem collections_record? (a : String) :
    collections.record? (.collection a) = some a := rfl
@[simp] theorem tokens_record? (a : Token) : tokens.record? (.token a) = some a := rfl
@[simp] theorem deposits_record? (a : Deposit) : deposits.record? (.deposit a) = some a := rfl
@[simp] theorem shipments_record? (a : Shipment) : shipments.record? (.shipment a) = some a := rfl
@[simp] theorem pending_record? : pending.record? .pending = some () := rfl

/-! ## The operations on tables -/

theorem yields_encoded {b : Bytes} :
    (encoded k).Yields s b u ↔ k.encode? = some b ∧ u = s := by
  cases h : k.encode? <;> simp [encoded, h, eq_comm]

theorem fails_encoded {f : Failure Fault} :
    (encoded k).Fails s f u ↔ ¬ k.Fits ∧ f = .abort .longKey ∧ u = s := by
  cases h : k.encode? <;> simp [encoded, h, Key.Fits]

@[simp] theorem yields_find? {t : Table κ α} {i : κ} {r : Option α} :
    (t.find? i).Yields s r u ↔ (t.key i).Fits ∧ r = t.view s i ∧ u = s := by
  simp only [find?, Program.yields_bind, yields_encoded]
  constructor
  · rintro ⟨b, _, ⟨hb, rfl⟩, h⟩
    cases h
    refine ⟨by simp [Key.Fits, hb], ?_, rfl⟩
    simp [view, Store.look, hb]
  · rintro ⟨hk, rfl, rfl⟩
    obtain ⟨b, hb⟩ := Option.ne_none_iff_exists'.mp hk
    refine ⟨b, u, ⟨hb, rfl⟩, ?_⟩
    simp [view, Store.look, hb, Program.Yields, Program.run]

@[simp] theorem fails_find? {t : Table κ α} {i : κ} {f : Failure Fault} :
    (t.find? i).Fails s f u ↔ ¬ (t.key i).Fits ∧ f = .abort .longKey ∧ u = s := by
  simp only [find?, Program.fails_bind, fails_encoded]
  constructor
  · rintro (h | ⟨b, m, -, h⟩)
    · exact h
    · cases h
  · exact .inl

@[simp] theorem yields_find {t : Table κ α} {i : κ} {fault : Fault} {a : α} :
    (t.find i fault).Yields s a u ↔ t.view s i = some a ∧ u = s := by
  simp only [find, Program.yields_bind, yields_find?, Program.yields_ofOption]
  constructor
  · rintro ⟨_, _, ⟨-, rfl, rfl⟩, h⟩
    exact h
  · rintro ⟨h, rfl⟩
    exact ⟨_, _, ⟨fits_of_view h, rfl, rfl⟩, h, rfl⟩

@[simp] theorem fails_find {t : Table κ α} {i : κ} {fault : Fault} {f : Failure Fault} :
    (t.find i fault).Fails s f u
      ↔ (¬ (t.key i).Fits ∧ f = .abort .longKey
          ∨ (t.key i).Fits ∧ t.view s i = none ∧ f = .error fault) ∧ u = s := by
  simp only [find, Program.fails_bind, fails_find?, yields_find?, Program.fails_ofOption]
  constructor
  · rintro (⟨hk, hf, hu⟩ | ⟨_, _, ⟨hk, rfl, rfl⟩, hr, hf, hu⟩)
    · exact ⟨.inl ⟨hk, hf⟩, hu⟩
    · exact ⟨.inr ⟨hk, hr, hf⟩, hu⟩
  · rintro ⟨⟨hk, hf⟩ | ⟨hk, hr, hf⟩, hu⟩
    · exact .inl ⟨hk, hf, hu⟩
    · exact .inr ⟨_, _, ⟨hk, rfl, rfl⟩, hr, hf, hu⟩

@[simp] theorem yields_has {t : Table κ α} {i : κ} {r : Bool} :
    (t.has i).Yields s r u ↔ (t.key i).Fits ∧ r = (t.view s i).isSome ∧ u = s := by
  simp only [has, Program.yields_bind, yields_find?, Program.yields_pure]
  constructor
  · rintro ⟨_, _, ⟨hk, rfl, rfl⟩, rfl, rfl⟩
    exact ⟨hk, rfl, rfl⟩
  · rintro ⟨hk, rfl, rfl⟩
    exact ⟨_, _, ⟨hk, rfl, rfl⟩, rfl, rfl⟩

@[simp] theorem fails_has {t : Table κ α} {i : κ} {f : Failure Fault} :
    (t.has i).Fails s f u ↔ ¬ (t.key i).Fits ∧ f = .abort .longKey ∧ u = s := by
  simp [has]

@[simp] theorem yields_put {t : Table κ α} {i : κ} {a : α} {x : Unit} :
    (t.put i a).Yields s x u ↔ (t.key i).Fits ∧ u = s.keep (t.key i) (t.entry a) := by
  simp only [put, Program.yields_bind, yields_encoded]
  constructor
  · rintro ⟨b, _, ⟨hb, rfl⟩, h⟩
    cases h
    refine ⟨by simp [Key.Fits, hb], ?_⟩
    simp [Store.keep, hb]
  · rintro ⟨hk, rfl⟩
    obtain ⟨b, hb⟩ := Option.ne_none_iff_exists'.mp hk
    refine ⟨b, s, ⟨hb, rfl⟩, ?_⟩
    simp [Store.keep, hb, Program.Yields, Program.run]

@[simp] theorem fails_put {t : Table κ α} {i : κ} {a : α} {f : Failure Fault} :
    (t.put i a).Fails s f u ↔ ¬ (t.key i).Fits ∧ f = .abort .longKey ∧ u = s := by
  simp only [put, Program.fails_bind, fails_encoded]
  constructor
  · rintro (h | ⟨b, m, -, h⟩)
    · exact h
    · cases h
  · exact .inl

@[simp] theorem yields_erase {t : Table κ α} {i : κ} {x : Unit} :
    (t.erase i).Yields s x u ↔ (t.key i).Fits ∧ u = s.drop (t.key i) := by
  simp only [erase, Program.yields_bind, yields_encoded]
  constructor
  · rintro ⟨b, _, ⟨hb, rfl⟩, h⟩
    cases h
    refine ⟨by simp [Key.Fits, hb], ?_⟩
    simp [Store.drop, hb]
  · rintro ⟨hk, rfl⟩
    obtain ⟨b, hb⟩ := Option.ne_none_iff_exists'.mp hk
    refine ⟨b, s, ⟨hb, rfl⟩, ?_⟩
    simp [Store.drop, hb, Program.Yields, Program.run]

@[simp] theorem fails_erase {t : Table κ α} {i : κ} {f : Failure Fault} :
    (t.erase i).Fails s f u ↔ ¬ (t.key i).Fits ∧ f = .abort .longKey ∧ u = s := by
  simp only [erase, Program.fails_bind, fails_encoded]
  constructor
  · rintro (h | ⟨b, m, -, h⟩)
    · exact h
    · cases h
  · exact .inl

/-- Going through a space only reads. -/
theorem scan_unchanged {space : Space} {parts : List Bytes} {after : Option Bytes}
    {entries : List (Bytes × Entry)} (h : (scan space parts after).Yields s entries u) :
    u = s := by
  simp only [scan] at h
  split at h
  · simp only [pure_bind] at h
    cases h
    rfl
  · simp at h

/-- Looking for the packets that are pending on a channel only reads. -/
theorem pendingOn_unchanged {channel : String} {sequences : List UInt64}
    (h : (pendingOn channel).Yields s sequences u) : u = s := by
  simp only [pendingOn, Program.yields_bind, Program.yields_pure] at h
  obtain ⟨entries, m, hm, rfl, rfl⟩ := h
  exact scan_unchanged hm

end Table

/-! ## The records of a bridge -/

namespace Store

/-- The settings. -/
abbrev settings? (s : Store Entry) : Option Settings := Table.settings.view s ()

/-- The settings that are kept are found. -/
theorem settings?_keep {s : Store Entry} {c : Settings} :
    (s.keep .settings (.settings c)).settings? = some c :=
  (Table.view_keep Key.fits_settings).trans (if_pos rfl)

/-- The channel of a name. -/
abbrev channel? (s : Store Entry) (id : String) : Option Channel := Table.channels.view s id

/-- The class of a name. -/
abbrev class? (s : Store Entry) (id : String) : Option TokenClass := Table.classes.view s id

/-- The token of a name in a class. -/
abbrev token? (s : Store Entry) (classId tokenId : String) : Option Token :=
  Table.tokens.view s (classId, tokenId)

/-- The deposit of a token. -/
abbrev deposit? (s : Store Entry) (classId tokenId : String) : Option Deposit :=
  Table.deposits.view s (classId, tokenId)

/-- The packet that was sent on a channel under a number. -/
abbrev shipment? (s : Store Entry) (channel : String) (sequence : UInt64) : Option Shipment :=
  Table.shipments.view s (channel, sequence)

variable {s : Store Entry} {id : String} {n : UInt64}

theorem channel?_eq_some_iff {channel : Channel} :
    s.channel? id = some channel ↔ s.look (.channel id) = some (.channel channel) :=
  Table.view_eq_some_iff fun e he => by cases e <;> simp_all [Table.channels]

theorem class?_eq_some_iff {c : TokenClass} :
    s.class? id = some c ↔ s.look (.tokenClass id) = some (.tokenClass c) :=
  Table.view_eq_some_iff fun e he => by cases e <;> simp_all [Table.classes]

theorem shipment?_eq_some_iff {p : Shipment} :
    s.shipment? id n = some p ↔ s.look (.shipment id n) = some (.shipment p) :=
  Table.view_eq_some_iff fun e he => by cases e <;> simp_all [Table.shipments]

end Store

end TokenBridge
