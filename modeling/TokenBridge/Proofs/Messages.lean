import TokenBridge.Message.Command
import TokenBridge.Message.Inquiry
import TokenBridge.Message.Setup
import TokenBridge.Proofs.Codec

/-!
# Messages are read back

Whoever talks to a bridge writes a message as JSON, and the bridge reads it.
This module shows that the bridge reads what was meant (`messages_faithful`):
each message is read back from its own text, so that no two messages share a
text, and a message that was read from any other text can be written down
again without a change.

A message is an object with a single member, which names its form. Its fields
are a record like any other, for which the work has been done. What is left
are the numbers. A number has no octet that ends it; it goes on for as long as
there are digits, and therefore it matters what stands behind it, and that a
zero stands alone.
-/

namespace TokenBridge

namespace Json

/-! ## Decimal digits -/

theorem isDigit_digit {n : Nat} (h : n < 10) : isDigit (0x30 + n.toUInt8) = true := by
  revert n
  decide

theorem toNat_digit {n : Nat} (h : n < 10) : (0x30 + n.toUInt8 : UInt8).toNat - 0x30 = n := by
  revert n
  decide

theorem isDigit_of_mem_decimal {n : Nat} {b : UInt8} (h : b ∈ decimal n) : isDigit b = true := by
  fun_induction decimal n with
  | case1 n hn =>
    obtain rfl := List.mem_singleton.mp h
    exact isDigit_digit hn
  | case2 n hn ih =>
    obtain h | h := List.mem_append.mp h
    · exact ih h
    · obtain rfl := List.mem_singleton.mp h
      exact isDigit_digit (Nat.mod_lt _ (by decide))

/-- **The digits of a number denote it.** -/
theorem digitsValue_decimal (n : Nat) : digitsValue (decimal n) = n := by
  fun_induction decimal n with
  | case1 n hn =>
    rw [digitsValue, List.foldl_cons, List.foldl_nil, toNat_digit hn]
    omega
  | case2 n hn ih =>
    rw [digitsValue, List.foldl_append, ← digitsValue, ih, List.foldl_cons, List.foldl_nil,
      toNat_digit (Nat.mod_lt n (by decide))]
    omega

/-- A number begins with a zero only if it is nothing else. -/
theorem exists_decimal_eq (n : Nat) :
    ∃ b ds, decimal n = b :: ds ∧ (b = 0x30 → n = 0 ∧ ds = []) := by
  fun_induction decimal n with
  | case1 n hn =>
    refine ⟨_, [], rfl, fun h => ⟨?_, rfl⟩⟩
    have hdigit := toNat_digit hn
    rw [h] at hdigit
    exact hdigit.symm
  | case2 n hn ih =>
    obtain ⟨b, ds, hds, hzero⟩ := ih
    refine ⟨b, ds ++ [_], by rw [hds, List.cons_append], fun h => ?_⟩
    have := (hzero h).1
    omega

/-! ## Numbers -/

theorem isBlank_eq_false_of_isDigit {b : UInt8} (h : isDigit b = true) : isBlank b = false := by
  by_contra hblank
  have hcases : b = 0x20 ∨ b = 0x09 ∨ b = 0x0A ∨ b = 0x0D := by grind [isBlank]
  obtain rfl | rfl | rfl | rfl := hcases <;> exact absurd h (by decide)

/-- No digit is taken from what can follow a value. -/
theorem Ends.takeWhile_eq {rest : Bytes} (h : Ends rest) : rest.takeWhile isDigit = [] := by
  cases rest with
  | nil => rfl
  | cons b rest => simp [h b rfl]

theorem Ends.dropWhile_eq {rest : Bytes} (h : Ends rest) : rest.dropWhile isDigit = rest := by
  cases rest with
  | nil => rfl
  | cons b rest => simp [h b rfl]

namespace Reader

variable {α : Type}

/-- Digits are read up to where no digit follows. -/
theorem readDigits_append {bound n : Nat} {b : UInt8} {ds rest : Bytes} (hn : n < bound)
    (hds : decimal n = b :: ds) (hzero : b = 0x30 → n = 0 ∧ ds = []) (hrest : Ends rest) :
    readDigits bound b (ds ++ rest) = .ok (n, rest) := by
  have hdigits (d : UInt8) (hd : d ∈ b :: ds) : isDigit d = true :=
    isDigit_of_mem_decimal (hds ▸ hd)
  rw [readDigits]
  split
  · next hb =>
    obtain ⟨rfl, rfl⟩ := hzero hb
    rfl
  · have hds' : ∀ d ∈ ds, isDigit d = true := fun d hd => hdigits d (List.mem_cons_of_mem _ hd)
    have htake : (ds ++ rest).takeWhile isDigit = ds := by
      rw [List.takeWhile_append_of_pos hds', hrest.takeWhile_eq, List.append_nil]
    have hdrop : (ds ++ rest).dropWhile isDigit = rest := by
      rw [List.dropWhile_append_of_pos hds', hrest.dropWhile_eq]
    rw [if_pos (hdigits b List.mem_cons_self), htake, hdrop, ← hds, digitsValue_decimal]
    simp [hn]

/-- **A number below the bound is taken for what it is.** -/
theorem takes_number {bound n : Nat} (hn : n < bound) : (number bound).Takes (decimal n) n := by
  intro rest hrest
  obtain ⟨b, ds, hds, hzero⟩ := exists_decimal_eq n
  have hb : isDigit b = true := isDigit_of_mem_decimal (hds ▸ List.mem_cons_self)
  have hminus : b ≠ 0x2D := by
    rintro rfl
    exact absurd hb (by decide)
  unfold number ofFirst
  rw [hds, List.cons_append]
  simp only [skipBlanks_cons (isBlank_eq_false_of_isDigit hb), if_neg hminus]
  exact readDigits_append hn hds hzero hrest

/-- **An object with a single member is taken for what the member is taken
for.** -/
theorem takes_single {value : String → Except ReadError (Reader α)} {w : Bytes} {a : α}
    (h : (entry value).Takes w a) : (single value).Takes (0x7B :: (w ++ [0x7D])) a := by
  intro rest hrest
  have hentry := h (0x7D :: rest) (ends_cons (by decide))
  have hclosing : readClosing (0x7D :: rest) = .ok rest := by
    unfold readClosing
    rw [skipBlanks_cons (by decide)]
    rfl
  unfold single ofFirst
  rw [List.cons_append, List.append_assoc, List.singleton_append]
  simp only [skipBlanks_cons (show isBlank 0x7B = false by decide), hentry, hclosing]

end Reader

theorem write_number (n : Nat) : (Json.number n).write = decimal n := by
  rw [show (n : Int) = Int.ofNat n from rfl, write]

/-- A number is not taken for the end of a list, for a comma or for a null. -/
theorem exists_write_number_eq (n : Nat) :
    ∃ b t, (Json.number n).write = b :: t ∧ isDigit b = true := by
  obtain ⟨b, ds, hds, -⟩ := exists_decimal_eq n
  exact ⟨b, ds, by rw [write_number, hds], isDigit_of_mem_decimal (hds ▸ List.mem_cons_self)⟩

theorem opens_write_number (n : Nat) : Opens (Json.number n).write := by
  obtain ⟨b, t, hw, hb⟩ := exists_write_number_eq n
  refine ⟨b, t, hw, isBlank_eq_false_of_isDigit hb, ?_, ?_⟩ <;> rintro rfl <;>
    exact absurd hb (by decide)

/-! ## Shapes -/

namespace Shape

theorem legible_count64 : Shape.count64.Legible where
  opens n := opens_write_number n.toNat
  takes n := by
    have h := (Reader.takes_number n.toNat_lt_size).map Nat.toUInt64
    rw [show n.toNat.toUInt64 = n by simp] at h
    rw [toJson, write_number]
    exact h

theorem legible_count32 : Shape.count32.Legible where
  opens n := opens_write_number n.toNat
  takes n := by
    have h := (Reader.takes_number n.toNat_lt_size).map Nat.toUInt32
    rw [show n.toNat.toUInt32 = n by simp] at h
    rw [toJson, write_number]
    exact h

theorem legible_nullable_count64 : (Shape.nullable .count64).Legible :=
  legible_count64.nullable fun n => by
    obtain ⟨b, t, hw, hb⟩ := exists_write_number_eq n.toNat
    rw [toJson, hw]
    rintro ⟨⟩
    exact absurd hb (by decide)

theorem legible_nullable_count32 : (Shape.nullable .count32).Legible :=
  legible_count32.nullable fun n => by
    obtain ⟨b, t, hw, hb⟩ := exists_write_number_eq n.toNat
    rw [toJson, hw]
    rintro ⟨⟩
    exact absurd hb (by decide)

end Shape

/-! ## Messages -/

/-- **A message is read back from its text**, if its fields have different names
and can be read back. -/
theorem Forms.takes_write {α : Type} (forms : Forms α)
    (hnodup : ∀ form, ((forms.fields form).map (·.1)).Nodup)
    (hlegible : ∀ form, ∀ f ∈ forms.fields form, f.2.Legible) (a : α) :
    forms.reader.Takes (forms.toJson a).write a := by
  have hvalue : (forms.find (forms.name (forms.form a))).map
      (fun form => ((forms.fields form).reader .refused).map (forms.make form))
        = .ok (((forms.fields (forms.form a)).reader .refused).map
          (forms.make (forms.form a))) := by
    rw [find, forms.find?_name]
    rfl
  have hrecord := (Fields.takes_write .refused (hnodup (forms.form a)) (hlegible (forms.form a))
    (forms.record a)).map (forms.make (forms.form a))
  rw [forms.make_record] at hrecord
  rw [toJson, write, writeMembers_eq]
  simp only [List.map_cons, List.map_nil, Reader.joined, List.flatMap_nil, List.append_nil]
  exact Reader.takes_byFirst (by decide) (Reader.takes_single (hrecord.entry hvalue))

/-- **The written form of messages of a type is faithful.** -/
structure Faithful {α ε : Type} (toJson : α → Json) (decode : Bytes → Except ε α) : Prop where
  /-- A message is read back from its text. -/
  decode_write : ∀ m, decode (toJson m).write = .ok m
  /-- No two messages share a text. -/
  injective : Function.Injective fun m => (toJson m).write
  /-- A message that was read from some text, its own or another one, is read again
  once it has been written down. -/
  reread : ∀ data m, decode data = .ok m → decode (toJson m).write = .ok m

theorem Faithful.of_takes {α ε : Type} {toJson : α → Json} {r : Reader α} {f : ReadError → ε}
    (h : ∀ m, r.Takes (toJson m).write m) :
    Faithful toJson fun data => (r.readAll data).mapError f := by
  have hdecode (m : α) : (r.readAll (toJson m).write).mapError f = .ok m := by
    rw [Reader.readAll_of_takes (h m)]
    rfl
  refine ⟨hdecode, fun m m' heq => ?_, fun _ m _ => hdecode m⟩
  have hsame : (.ok m : Except ε α) = .ok m' := by
    rw [← hdecode m, show (toJson m).write = (toJson m').write from heq, hdecode m']
  exact Except.ok.inj hsame

end Json

/-! ## The messages of a bridge -/

open Json.Shape in
theorem Command.legible_of_mem_fields (form : Command.Form) : ∀ f ∈ form.fields, f.2.Legible := by
  cases form <;> simp [Form.fields, legible_text, legible_nullable_text, legible_text.list,
    legible_count64, legible_nullable_count64]

theorem Command.takes_write (c : Command) : forms.reader.Takes c.toJson.write c :=
  forms.takes_write (fun form => by cases form <;> decide) legible_of_mem_fields c

open Json.Shape in
theorem Inquiry.legible_of_mem_fields (form : Inquiry.Form) : ∀ f ∈ form.fields, f.2.Legible := by
  cases form <;> simp [Form.fields, legible_text, legible_nullable_text, legible_count64,
    legible_nullable_count64, legible_nullable_count32]

theorem Inquiry.takes_write (i : Inquiry) : forms.reader.Takes i.toJson.write i :=
  forms.takes_write (fun form => by cases form <;> decide) legible_of_mem_fields i

open Json.Shape in
theorem Setup.takes_write (m : Setup) :
    ((fields.reader .refused).map ofRecord).Takes m.toJson.write m := by
  have h : (fields.reader .refused).Takes m.toJson.write (m.admin, m.timeout, ()) :=
    Json.Fields.takes_write .refused (by decide)
      (by simp [fields, legible_text, legible_nullable_count64]) _
  exact h.map ofRecord

theorem Migration.takes_write (m : Migration) :
    ((Json.Fields.reader [] .refused).map fun _ => (⟨⟩ : Migration)).Takes m.toJson.write m := by
  have h : (Json.Fields.reader [] .refused).Takes m.toJson.write () :=
    @Json.Fields.takes_write [] .refused List.nodup_nil (List.forall_mem_nil _) ()
  exact h.map fun _ => (⟨⟩ : Migration)

/-- **What a bridge is told is what was said.** Commands, inquiries and the messages
that set a bridge up and bring it to a new version are read back from the texts
in which they are written, whatever characters, numbers and lists are in them
and whatever is left out. -/
theorem messages_faithful :
    Json.Faithful Command.toJson Command.decode
      ∧ Json.Faithful Inquiry.toJson Inquiry.decode
      ∧ Json.Faithful Setup.toJson Setup.decode
      ∧ Json.Faithful Migration.toJson Migration.decode := by
  refine ⟨?_, ?_, ?_, ?_⟩
  · exact .of_takes (r := Command.forms.reader) Command.takes_write
  · exact .of_takes (r := Inquiry.forms.reader) Inquiry.takes_write
  · exact .of_takes (r := (Setup.fields.reader .refused).map Setup.ofRecord) Setup.takes_write
  · exact .of_takes (r := (Json.Fields.reader [] .refused).map fun _ => (⟨⟩ : Migration))
      Migration.takes_write

/-- A field that is left out is read like one that is null. -/
example : (Setup.decode (Bytes.ofText "\x7b\"admin\":\"ada\"\x7d")).toOption
    = (Setup.decode (Setup.toJson ⟨"ada", none⟩).write).toOption := by decide +kernel

end TokenBridge
