import TokenBridge.Proofs.Spelling

/-!
# What a reader makes of a layout

A reader that meets the text of a layout takes it for a value or refuses it, whatever
blanks stand before it and whatever follows (`Reader.Reads`). Both halves are needed: a
record is read only if each member is, and it is refused as soon as one of them is.

A value that is not looked at ends at the next comma or closing bracket, so it takes the
blanks before that as well. A reader is therefore not held to leave what follows as it
is, but only up to blanks. This costs nothing, since the steps from element to element
skip blanks first (`Reader.foldFrom_element`).

From there on the two kinds of readers that a packet needs follow the layout. One passes
over values of any kind, as deep as it may (`Reader.reads_ignored`), and the other reads
texts, and lists of what it can read (`Reader.reads_list`).
-/

namespace TokenBridge.Json

/-! ## Blanks -/

theorem Filler.isBlank_octet (f : Filler) : isBlank f.octet = true := by
  cases f <;> rfl

/-- **Blanks are skipped.** -/
@[simp] theorem Gap.skipBlanks_write (gap : Gap) (s : Bytes) :
    skipBlanks (gap.write ++ s) = skipBlanks s := by
  induction gap with
  | nil => rfl
  | cons f gap ih =>
    rw [Gap.write, List.map_cons, List.cons_append, skipBlanks,
      List.dropWhile_cons_of_pos f.isBlank_octet]
    exact ih

/-- Whether a text goes on, after blanks, with an octet that ends a value. -/
def Stops (rest : Bytes) : Prop := ∃ b t, skipBlanks rest = b :: t ∧ Reader.isDelimiter b = true

/-- What ends a value is no blank. -/
theorem skipBlanks_of_isDelimiter {b : UInt8} {t : Bytes} (hb : Reader.isDelimiter b = true) :
    skipBlanks (b :: t) = b :: t := by
  refine skipBlanks_cons ?_
  simp only [Reader.isDelimiter, Bool.or_eq_true, beq_iff_eq] at hb
  obtain (rfl | rfl) | rfl := hb <;> rfl

theorem stops_cons {b : UInt8} {t : Bytes} (hb : Reader.isDelimiter b = true) : Stops (b :: t) :=
  ⟨b, t, skipBlanks_of_isDelimiter hb, hb⟩

/-- Up to the octet that ends a value there is nothing but blanks. -/
theorem dropWhile_of_skipBlanks {rest t : Bytes} {b : UInt8} (h : skipBlanks rest = b :: t)
    (hb : Reader.isDelimiter b = true) : rest.dropWhile (!Reader.isDelimiter ·) = b :: t := by
  induction rest with
  | nil => cases h
  | cons c rest ih =>
    by_cases hc : isBlank c = true
    · have hnot : Reader.isDelimiter c = false := by
        simp only [isBlank, Bool.or_eq_true, beq_iff_eq] at hc
        obtain ((rfl | rfl) | rfl) | rfl := hc <;> rfl
      rw [skipBlanks, List.dropWhile_cons_of_pos hc] at h
      rw [List.dropWhile_cons_of_pos (by simp [hnot])]
      exact ih h
    · rw [skipBlanks, List.dropWhile_cons_of_neg hc] at h
      cases h
      exact List.dropWhile_cons_of_neg (by simp [hb])

theorem Stops.gap {rest : Bytes} (gap : Gap) (h : Stops rest) : Stops (gap.write ++ rest) := by
  rw [Stops, Gap.skipBlanks_write]
  exact h

namespace Reader

variable {α β σ ξ : Type} {r : Reader α} {w : Bytes} {a? : Option α}

/-! ## Values that are read, or refused -/

/-- **What a reader makes of a text**: the value for which it takes the text, or
nothing if it refuses it. Blanks may stand before the text, and something has to follow
that ends a value. What is left then is what follows, or that without the blanks at its
front. -/
def Reads (r : Reader α) (w : Bytes) (a? : Option α) : Prop :=
  ∀ (gap : Gap) rest, Stops rest → ∃ rest', skipBlanks rest' = skipBlanks rest
    ∧ (r.run (gap.write ++ (w ++ rest))).toOption = a?.map (·, rest')

/-- What a reader makes of a text **whatever follows**, all of which it leaves. -/
def Spans (r : Reader α) (w : Bytes) (a? : Option α) : Prop :=
  ∀ (gap : Gap) rest, (r.run (gap.write ++ (w ++ rest))).toOption = a?.map (·, rest)

theorem Spans.reads (h : r.Spans w a?) : r.Reads w a? :=
  fun gap rest _ => ⟨rest, rfl, h gap rest⟩

theorem toOption_run_check (f : α → Except ReadError β) (s : Bytes) :
    ((r.check f).run s).toOption
      = (r.run s).toOption.bind fun p => (f p.1).toOption.map (·, p.2) := by
  unfold check
  cases h : r.run s with
  | error e => simp [h, bind, Except.bind, Except.toOption]
  | ok p =>
    cases hf : f p.1 <;>
      simp [h, hf, bind, Except.bind, pure, Except.pure, Except.toOption]

theorem Reads.check (f : α → Except ReadError β) (h : r.Reads w a?) :
    (r.check f).Reads w (a?.bind fun a => (f a).toOption) := by
  intro gap rest hrest
  obtain ⟨rest', hleft, hrun⟩ := h gap rest hrest
  refine ⟨rest', hleft, ?_⟩
  rw [toOption_run_check, hrun]
  cases a? <;> rfl

theorem Spans.check (f : α → Except ReadError β) (h : r.Spans w a?) :
    (r.check f).Spans w (a?.bind fun a => (f a).toOption) := by
  intro gap rest
  rw [toOption_run_check, h gap rest]
  cases a? <;> rfl

theorem bind_toOption_ok (f : α → β) (a? : Option α) :
    (a?.bind fun a => (Except.ok (f a) : Except ReadError β).toOption) = a?.map f := by
  cases a? <;> rfl

theorem Reads.map (f : α → β) (h : r.Reads w a?) : (r.map f).Reads w (a?.map f) :=
  bind_toOption_ok f a? ▸ h.check fun a => .ok (f a)

theorem Spans.map (f : α → β) (h : r.Spans w a?) : (r.map f).Spans w (a?.map f) :=
  bind_toOption_ok f a? ▸ h.check fun a => .ok (f a)

/-- **A whole text is read** if nothing but blanks stands around it. -/
theorem Spans.readAll (h : r.Spans w a?) (before after : Gap) :
    (r.readAll (before.write ++ w ++ after.write)).toOption = a? := by
  have hrun := h before after.write
  have hafter : skipBlanks after.write = [] := by
    rw [← List.append_nil after.write, Gap.skipBlanks_write]
    rfl
  rw [List.append_assoc, Reader.readAll]
  cases hr : r.run (before.write ++ (w ++ after.write)) with
  | error e =>
    rw [hr] at hrun
    cases a? with
    | none => rfl
    | some a => cases hrun
  | ok p =>
    rw [hr] at hrun
    cases a? with
    | none => cases hrun
    | some a =>
      cases hrun
      simp [hafter, bind, Except.bind, Except.toOption]

theorem spans_fail {e : ReadError} : (fail e : Reader α).Spans w none := fun _ _ => rfl

theorem reads_byFirst {choose : UInt8 → Reader α} {b : UInt8} {t : Bytes}
    (hb : isBlank b = false) (h : (choose b).Reads (b :: t) a?) :
    (byFirst choose).Reads (b :: t) a? := by
  intro gap rest hrest
  obtain ⟨rest', hleft, hrun⟩ := h [] rest hrest
  refine ⟨rest', hleft, ?_⟩
  simp only [byFirst, ofFirst, List.cons_append, Gap.skipBlanks_write, skipBlanks_cons hb]
  exact hrun

/-! ## Values without parts -/

/-- **A string is read**, whatever stands before it and after it. -/
theorem run_text_write (gap : Gap) (gs : Glyphs) (rest : Bytes) :
    text.run (gap.write ++ (gs.write ++ rest)) = .ok (gs.text, rest) := by
  have hquote : isBlank quoteMark = false := rfl
  simp only [text, ofFirst, Glyphs.write, List.cons_append, Gap.skipBlanks_write,
    skipBlanks_cons hquote, if_true, List.append_assoc, List.nil_append, gs.scanText_glyphs,
    List.reverse_nil, gs.decodeText_glyphs]

theorem spans_text (gs : Glyphs) : text.Spans gs.write (some gs.text) := by
  intro gap rest
  rw [run_text_write]
  rfl

/-- What does not open with a quote is no string. -/
theorem spans_text_none {b : UInt8} {t : Bytes} (hb : isBlank b = false) (hq : b ≠ quoteMark) :
    text.Spans (b :: t) none := by
  intro gap rest
  simp only [text, ofFirst, List.cons_append, Gap.skipBlanks_write, skipBlanks_cons hb, if_neg hq]
  rfl

theorem spans_null (a : α) : (null a).Spans (Bytes.ofText "null") (some a) := by
  intro gap rest
  have hnull : Bytes.ofText "null" = [0x6E, 0x75, 0x6C, 0x6C] := by decide +kernel
  have hblank : isBlank 0x6E = false := rfl
  simp only [hnull, null, literal, ofFirst, List.cons_append, Gap.skipBlanks_write,
    skipBlanks_cons hblank]
  rfl

/-- **What is not looked at is passed over**, up to the octet that ends it. -/
theorem reads_unseen {b : UInt8} {t : Bytes} (hb : isBlank b = false)
    (ht : ∀ c ∈ t, isDelimiter c = false) : unseen.Reads (b :: t) (some ()) := by
  rintro gap rest ⟨c, rest', hc, hdelimiter⟩
  refine ⟨c :: rest', by rw [← hc, skipBlanks_skipBlanks], ?_⟩
  have hdrop : (t ++ rest).dropWhile (!isDelimiter ·) = c :: rest' := by
    rw [List.dropWhile_append_of_pos (by simpa using ht)]
    exact dropWhile_of_skipBlanks hc hdelimiter
  simp only [unseen, ofFirst, List.cons_append, Gap.skipBlanks_write, skipBlanks_cons hb, hdrop]
  rfl

/-! ## From element to element -/

/-- A text between the blanks before it and those after it. -/
abbrev Piece := Item Bytes

/-- The octets of a text and of the blanks around it. -/
def Piece.write (x : Piece) : Bytes := x.before.write ++ x.value ++ x.after.write

variable {rule : Separation} {element : σ → Reader σ} {closing opening : UInt8}
  {IsElement : Bytes → Prop} {a : σ}

theorem foldFrom_error {first first' : Bool} {s t : Bytes} {e : ReadError}
    (h : rule.step first s = .ok (.next first' t)) (hr : (element a).run t = .error e) :
    foldFrom rule element first a s = .error e := by
  rw [foldFrom]
  split
  · simp_all
  · simp_all
  · next heq =>
    rw [h] at heq
    cases heq
    split
    · simp_all
    · next hrun => cases hr.symm.trans hrun

/-- **One element, and then the others**, which are gone through in the same way
whether or not the element has taken the blanks after it. -/
theorem foldFrom_element {first : Bool} {s others left : Bytes} {after : Gap} {b? : Option σ}
    {goOn : σ → Option σ}
    (hstep : rule.step first s = .ok (.next false (w ++ (after.write ++ others))))
    (hothers : ∃ b t, others = b :: t ∧ isDelimiter b = true) (h : (element a).Reads w b?)
    (hgo : ∀ b s', skipBlanks s' = others →
      (foldFrom rule element false b s').toOption = (goOn b).map (·, left)) :
    (foldFrom rule element first a s).toOption = (b?.bind goOn).map (·, left) := by
  obtain ⟨c, t, rfl, hc⟩ := hothers
  obtain ⟨rest', hleft, hrun⟩ := h [] _ ((stops_cons hc).gap after)
  rw [show Gap.write [] ++ (w ++ (after.write ++ c :: t)) = w ++ (after.write ++ c :: t) from rfl]
    at hrun
  cases hr : (element a).run (w ++ (after.write ++ c :: t)) with
  | error e =>
    obtain rfl : b? = none := by cases b? <;> simp_all [Except.toOption]
    rw [foldFrom_error hstep hr]
    rfl
  | ok p =>
    obtain ⟨b, rest⟩ := p
    obtain ⟨rfl, rfl⟩ : b? = some b ∧ rest' = rest := by
      cases b? <;> simp_all [Except.toOption]
    rw [foldFrom_next hstep hr]
    exact hgo b rest' (by rw [hleft, Gap.skipBlanks_write, skipBlanks_of_isDelimiter hc])

/-- Texts with a comma before each, up to a closing octet. -/
def commas (closing : UInt8) (ws : List Bytes) (rest : Bytes) : Bytes :=
  ws.flatMap (0x2C :: ·) ++ closing :: rest

theorem commas_opens (hclosing : isDelimiter closing = true) (ws : List Bytes) (rest : Bytes) :
    ∃ b t, commas closing ws rest = b :: t ∧ isDelimiter b = true := by
  cases ws with
  | nil => exact ⟨closing, _, rfl, hclosing⟩
  | cons => exact ⟨0x2C, _, rfl, rfl⟩

section

variable {xs : List ξ} {piece : ξ → Piece} {step : σ → ξ → Option σ}
  (hrule : Separates rule closing IsElement) (hclosing : isDelimiter closing = true)
  (hxs : ∀ x ∈ xs, IsElement (piece x).value)
  (h : ∀ a, ∀ x ∈ xs, (element a).Reads (piece x).value (step a x))
include hrule hclosing hxs h

/-- **The elements behind a comma each** are gone through one after another. The
reader makes the same of all of them together as of each by itself. -/
theorem foldFrom_commas (a : σ) (rest : Bytes) {s : Bytes}
    (hs : skipBlanks s = commas closing (xs.map fun x => (piece x).write) rest) :
    (foldFrom rule element false a s).toOption = (xs.foldlM step a).map (·, rest) := by
  induction xs generalizing a s with
  | nil =>
    have hlast : rule.step false s = .ok (.last rest) := by
      rw [← hrule.blanks, hs]
      exact hrule.last false rest
    rw [foldFrom_last hlast]
    rfl
  | cons x xs ih =>
    obtain ⟨hx, hxs⟩ := List.forall_mem_cons.mp hxs
    have hstep : rule.step false s = .ok (.next false ((piece x).value
        ++ ((piece x).after.write ++ commas closing (xs.map fun x => (piece x).write) rest))) := by
      rw [← hrule.blanks, hs]
      simp only [commas, List.map_cons, List.flatMap_cons, List.cons_append, List.append_assoc,
        Piece.write]
      rw [← hrule.blanks_comma, Gap.skipBlanks_write, hrule.blanks_comma]
      exact hrule.comma _ _ hx
    refine foldFrom_element hstep (commas_opens hclosing _ rest) (h a x List.mem_cons_self)
      fun b s' hs' => ?_
    exact ih hxs (fun a x hx => h a x (List.mem_cons_of_mem _ hx)) b hs'

/-- **A list or an object is read** as its elements are, and refused if one of them is
or if nothing can be made of all of them. -/
theorem spans_bracketed (finish : σ → Except ReadError α) (hopening : isBlank opening = false)
    (gap : Gap) (a : σ) :
    (bracketed opening rule element a finish).Spans
      (opening :: (gap.write ++ joined (xs.map fun x => (piece x).write) ++ [closing]))
      ((xs.foldlM step a).bind fun b => (finish b).toOption) := by
  refine Spans.check finish fun before rest => ?_
  simp only [ofFirst, List.cons_append, Gap.skipBlanks_write, skipBlanks_cons hopening, if_true,
    List.append_assoc, List.nil_append]
  cases xs with
  | nil =>
    have hlast : rule.step true (gap.write ++ (closing :: rest)) = .ok (.last rest) := by
      rw [← hrule.blanks, Gap.skipBlanks_write, hrule.blanks]
      exact hrule.last true rest
    simp only [joined, List.map_nil, List.nil_append, foldFrom_last hlast]
    rfl
  | cons x xs =>
    obtain ⟨hx, hxs⟩ := List.forall_mem_cons.mp hxs
    have hstep : rule.step true (gap.write ++ (joined ((x :: xs).map fun x => (piece x).write)
        ++ closing :: rest)) = .ok (.next false ((piece x).value ++ ((piece x).after.write
          ++ commas closing (xs.map fun x => (piece x).write) rest))) := by
      rw [← hrule.blanks]
      simp only [joined, List.map_cons, List.append_assoc, Piece.write, Gap.skipBlanks_write]
      rw [hrule.blanks]
      exact hrule.first _ _ hx
    refine foldFrom_element hstep (commas_opens hclosing _ rest) (h a x List.mem_cons_self)
      fun b s' hs' => ?_
    exact foldFrom_commas hrule hclosing hxs (fun a x hx => h a x (List.mem_cons_of_mem _ hx)) b
      rest hs'

end

end Reader

/-! ## How a layout opens -/

namespace Layout

/-- The first octet of a layout. -/
def opening : Layout → UInt8
  | .null => 0x6E
  | .bool true => 0x74
  | .bool false => 0x66
  | .number n => if n.minus then 0x2D else digitOctet n.whole.first
  | .text _ => quoteMark
  | .list .. => 0x5B
  | .object .. => 0x7B

theorem exists_write_eq (v : Layout) : ∃ t, v.write = v.opening :: t := by
  cases v with
  | null => exact ⟨_, rfl⟩
  | bool b => cases b <;> exact ⟨_, rfl⟩
  | number n =>
    rw [write, Numeral.write, opening]
    split <;> exact ⟨_, rfl⟩
  | text gs => exact ⟨_, rfl⟩
  | list gap items => exact ⟨_, rfl⟩
  | object gap members => exact ⟨_, rfl⟩

/-- What a value is can be told by its first octet. -/
theorem of_opening (v : Layout) : isBlank v.opening = false
    ∧ Reader.isDelimiter v.opening = false
    ∧ (v.opening = 0x6E → v = .null)
    ∧ (v.opening = quoteMark → ∃ gs, v = .text gs)
    ∧ (v.opening = 0x5B → ∃ gap items, v = .list gap items)
    ∧ (v.opening = 0x7B → ∃ gap members, v = .object gap members) := by
  have hdigit : ∀ d : Fin 10, isBlank (digitOctet d) = false
      ∧ Reader.isDelimiter (digitOctet d) = false ∧ digitOctet d ≠ 0x6E ∧ digitOctet d ≠ quoteMark
      ∧ digitOctet d ≠ 0x5B ∧ digitOctet d ≠ 0x7B := by
    decide
  cases v with
  | number n =>
    rw [opening]
    split
    · exact ⟨rfl, rfl, nofun, nofun, nofun, nofun⟩
    · obtain ⟨h₁, h₂, h₃, h₄, h₅, h₆⟩ := hdigit n.whole.first
      exact ⟨h₁, h₂, (absurd · h₃), (absurd · h₄), (absurd · h₅), (absurd · h₆)⟩
  | null => exact ⟨rfl, rfl, fun _ => rfl, nofun, nofun, nofun⟩
  | bool b => cases b <;> exact ⟨rfl, rfl, nofun, nofun, nofun, nofun⟩
  | text gs => exact ⟨rfl, rfl, nofun, fun _ => ⟨gs, rfl⟩, nofun, nofun⟩
  | list gap items => exact ⟨rfl, rfl, nofun, nofun, fun _ => ⟨gap, items, rfl⟩, nofun⟩
  | object gap members => exact ⟨rfl, rfl, nofun, nofun, nofun, fun _ => ⟨gap, members, rfl⟩⟩

theorem opens_write (v : Layout) : Opens v.write := by
  obtain ⟨t, ht⟩ := v.exists_write_eq
  obtain ⟨hblank, hdelimiter, -⟩ := v.of_opening
  refine ⟨v.opening, t, ht, hblank, ?_, ?_⟩
  all_goals
    intro heq
    rw [heq] at hdelimiter
    cases hdelimiter

end Layout

namespace Numeral

theorem isDelimiter_of_mem_digits {ds : Digits} : ∀ b ∈ ds.write, Reader.isDelimiter b = false := by
  have hdigit : ∀ d : Fin 10, Reader.isDelimiter (digitOctet d) = false := by decide
  intro b hb
  obtain ⟨d, -, rfl⟩ := List.mem_map.mp hb
  exact hdigit d

/-- Nothing in a number ends a value. -/
theorem isDelimiter_of_mem (n : Numeral) : ∀ b ∈ n.write, Reader.isDelimiter b = false := by
  have hexponent (e : Exponent) : ∀ b ∈ e.write, Reader.isDelimiter b = false := by
    intro b hb
    rw [Exponent.write, List.mem_cons, List.mem_append] at hb
    obtain rfl | hb | hb := hb
    · split <;> rfl
    · cases hsign : e.sign with
      | none => simp [hsign] at hb
      | some minus =>
        obtain rfl : b = if minus then 0x2D else 0x2B := by simpa [hsign] using hb
        split <;> rfl
    · exact isDelimiter_of_mem_digits b hb
  intro b hb
  rw [write, List.mem_append, List.mem_append, List.mem_append] at hb
  obtain hb | hb | hb | hb := hb
  · split at hb
    · obtain rfl := List.mem_singleton.mp hb
      rfl
    · cases hb
  · exact isDelimiter_of_mem_digits b hb
  · cases hfraction : n.fraction with
    | none => simp [hfraction] at hb
    | some ds =>
      rw [hfraction] at hb
      obtain rfl | hb := List.mem_cons.mp hb
      · rfl
      · exact isDelimiter_of_mem_digits b hb
  · cases he : n.exponent with
    | none => simp [he] at hb
    | some e =>
      rw [he] at hb
      exact hexponent e b hb

end Numeral

namespace Reader

variable {α σ : Type} {r : Reader α} {o : Layout → Option α}

/-! ## Strings, lists and objects -/

/-- **What is read of a string** is the text that it denotes. -/
theorem reads_text (v : Layout) : text.Reads v.write v.text? := by
  obtain ⟨t, ht⟩ := v.exists_write_eq
  obtain ⟨hblank, -, -, hquote, -⟩ := v.of_opening
  by_cases hv : ∃ gs, v = .text gs
  · obtain ⟨gs, rfl⟩ := hv
    rw [Layout.write]
    exact (spans_text gs).reads
  · have hnone : v.text? = none := by
      cases v with
      | text gs => exact absurd ⟨gs, rfl⟩ hv
      | _ => rfl
    rw [ht, hnone]
    exact (spans_text_none hblank (mt hquote hv)).reads

/-- A null is read as such, and anything else as what it is. -/
theorem reads_nullable {v : Layout} (h : r.Reads v.write (o v)) :
    r.nullable.Reads v.write (v.nullable? o) := by
  obtain ⟨t, ht⟩ := v.exists_write_eq
  obtain ⟨hblank, -, hnull, -⟩ := v.of_opening
  rw [ht] at h ⊢
  refine reads_byFirst hblank ?_
  by_cases hv : v = .null
  · subst hv
    rw [← ht, Layout.write]
    exact (spans_null none).reads
  · have hsome : v.nullable? o = (o v).map some := by
      cases v with
      | null => exact absurd rfl hv
      | _ => rfl
    rw [if_neg (mt hnull hv), hsome]
    exact h.map some

/-- The text of an element and the blanks around it. -/
def itemPiece (x : Item Layout) : Piece := ⟨x.before, x.value.write, x.after⟩

/-- The text of a member and the blanks around it. -/
def memberPiece (m : Member Layout) : Piece :=
  ⟨m.before, m.name.write ++ m.between.write ++ 0x3A :: (m.behind.write ++ m.value.write), m.after⟩

theorem writeItems_eq_map (items : List (Item Layout)) :
    Layout.writeItems items = items.map fun x => (itemPiece x).write := by
  induction items with
  | nil => rfl
  | cons x items ih => rw [Layout.writeItems, ih]; rfl

theorem writeMembers_eq_map (members : List (Member Layout)) :
    Layout.writeMembers members = members.map fun m => (memberPiece m).write := by
  induction members with
  | nil => rfl
  | cons m members ih => rw [Layout.writeMembers, ih]; rfl

/-- **A list is read** as its elements are, and refused if one of them is or if nothing
can be made of all of them. -/
theorem spans_items {element : σ → Reader σ} {items : List (Item Layout)}
    {step : σ → Item Layout → Option σ}
    (h : ∀ a, ∀ x ∈ items, (element a).Reads x.value.write (step a x))
    (finish : σ → Except ReadError α) (gap : Gap) (a : σ) :
    (bracketed 0x5B .list element a finish).Spans (Layout.list gap items).write
      ((items.foldlM step a).bind fun b => (finish b).toOption) := by
  rw [Layout.write, writeItems_eq_map]
  exact spans_bracketed separates_list rfl (fun x _ => x.value.opens_write) h finish rfl gap a

/-- What opens otherwise is no list or object of the kind in question. -/
theorem spans_bracketed_none {rule : Separation} {element : σ → Reader σ} {opening b : UInt8}
    {a : σ} {finish : σ → Except ReadError α} (hb : isBlank b = false) (hne : b ≠ opening)
    (t : Bytes) : (bracketed opening rule element a finish).Spans (b :: t) none := by
  refine @Spans.check _ _ _ _ none finish fun gap rest => ?_
  simp only [ofFirst, List.cons_append, Gap.skipBlanks_write, skipBlanks_cons hb, if_neg hne]
  rfl

/-- Elements that are put before each other come out in reverse. -/
theorem foldlM_cons {ξ : Type} (f : ξ → Option α) (xs : List ξ) (read : List α) :
    xs.foldlM (fun read x => (f x).map (· :: read)) read
      = (xs.mapM f).map fun as => as.reverse ++ read := by
  induction xs generalizing read with
  | nil => rfl
  | cons x xs ih =>
    rw [List.foldlM_cons, List.mapM_cons]
    cases f x with
    | none => rfl
    | some a =>
      refine (ih (a :: read)).trans ?_
      cases xs.mapM f with
      | none => rfl
      | some as => simp

/-- **A list is read** if each of its elements is. -/
theorem reads_list (h : ∀ v, r.Reads v.write (o v)) (v : Layout) :
    r.list.Reads v.write (v.list? o) := by
  obtain ⟨t, ht⟩ := v.exists_write_eq
  obtain ⟨hblank, -, -, -, hlist, -⟩ := v.of_opening
  by_cases hv : ∃ gap items, v = .list gap items
  · obtain ⟨gap, items, rfl⟩ := hv
    have hspans : r.list.Spans _ _ := spans_items
      (fun read x (_ : x ∈ items) => (h x.value).map (· :: read)) (fun read => .ok read.reverse)
      gap []
    rw [foldlM_cons, bind_toOption_ok, Option.map_map] at hspans
    have hresult : (items.mapM fun x => o x.value).map
        (List.reverse ∘ fun as => as.reverse ++ []) = (Layout.list gap items).list? o := by
      rw [Layout.list?]
      cases items.mapM fun x => o x.value <;> simp
    exact hresult ▸ hspans.reads
  · have hnone : v.list? o = none := by
      cases v with
      | list gap items => exact absurd ⟨gap, items, rfl⟩ hv
      | _ => rfl
    rw [ht, hnone]
    exact (spans_bracketed_none hblank (mt hlist hv) t).reads

theorem readColon_write (gap : Gap) (s : Bytes) : readColon (gap.write ++ 0x3A :: s) = .ok s := by
  have hcolon : isBlank 0x3A = false := rfl
  rw [readColon, Gap.skipBlanks_write, skipBlanks_cons hcolon]
  rfl

/-- **A member is read** as its value is by the reader that its name calls for. It is
refused if the name calls for none. -/
theorem reads_entry {value : String → Except ReadError (Reader α)} {m : Member Layout}
    {a? : Option α} (hvalue : ∀ r, value m.name.text = .ok r → r.Reads m.value.write a?)
    (hrefused : ∀ e, value m.name.text = .error e → a? = none) :
    (entry value).Reads (memberPiece m).value a? := by
  intro gap rest hrest
  have htext : text.run (gap.write ++ ((memberPiece m).value ++ rest)) = .ok (m.name.text,
      m.between.write ++ 0x3A :: (m.behind.write ++ (m.value.write ++ rest))) := by
    simpa [memberPiece] using run_text_write gap m.name _
  unfold entry
  cases hv : value m.name.text with
  | error e =>
    refine ⟨rest, rfl, ?_⟩
    rw [hrefused e hv]
    simp [htext, hv, bind, Except.bind, Except.toOption]
  | ok r =>
    obtain ⟨rest', hleft, hrun⟩ := hvalue r hv m.behind rest hrest
    refine ⟨rest', hleft, ?_⟩
    rw [← hrun]
    simp [htext, hv, readColon_write, bind, Except.bind]

/-- **An object is read** as its members are, and refused if one of them is or if
nothing can be made of all of them. -/
theorem spans_object {member : σ → String → Except ReadError (Reader σ)}
    {members : List (Member Layout)} {step : σ → Member Layout → Option σ}
    (h : ∀ a, ∀ m ∈ members, (entry (member a)).Reads (memberPiece m).value (step a m))
    (finish : σ → Except ReadError α) (gap : Gap) (a : σ) :
    (object member a finish).Spans (Layout.object gap members).write
      ((members.foldlM step a).bind fun b => (finish b).toOption) := by
  rw [Layout.write, writeMembers_eq_map]
  exact spans_bracketed separates_object rfl (fun _ _ => rfl) h finish rfl gap a

/-! ## Values to be ignored -/

/-- Going through elements without a result. -/
theorem foldlM_guard {ξ : Type} {P : ξ → Prop} [DecidablePred P] (xs : List ξ) :
    xs.foldlM (fun _ x => if P x then some () else none) ()
      = if ∀ x ∈ xs, P x then some () else none := by
  induction xs with
  | nil => rfl
  | cons x xs ih =>
    rw [List.foldlM_cons]
    by_cases hx : P x
    · simpa [hx] using ih
    · simp [hx]

/-- Nothing in a word or a number ends a value. -/
theorem isDelimiter_of_mem_write {v : Layout} (hv : v.depth = 0) (htext : ¬ ∃ gs, v = .text gs) :
    ∀ b ∈ v.write, isDelimiter b = false := by
  cases v with
  | null =>
    rw [Layout.write]
    decide +kernel
  | bool b =>
    cases b
    all_goals
      rw [Layout.write]
      decide +kernel
  | number n =>
    rw [Layout.write]
    exact n.isDelimiter_of_mem
  | text gs => exact absurd ⟨gs, rfl⟩ htext
  | _ => simp [Layout.depth] at hv

/-- What is neither a list nor an object is passed over at any depth. -/
theorem reads_ignoredOver {v : Layout} (inner : Option (Reader Unit)) (hv : v.depth = 0) :
    (ignoredOver inner).Reads v.write (some ()) := by
  obtain ⟨t, ht⟩ := v.exists_write_eq
  obtain ⟨hblank, hdelimiter, -, hquote, hlist, hobject⟩ := v.of_opening
  have hnotlist : ¬ ∃ gap items, v = .list gap items := by
    rintro ⟨gap, items, rfl⟩
    simp [Layout.depth] at hv
  have hnotobject : ¬ ∃ gap members, v = .object gap members := by
    rintro ⟨gap, members, rfl⟩
    simp [Layout.depth] at hv
  rw [ht]
  refine reads_byFirst hblank ?_
  by_cases htext : ∃ gs, v = .text gs
  · obtain ⟨gs, rfl⟩ := htext
    rw [← ht, Layout.write]
    exact (spans_text gs).reads.map _
  · have hscalar := isDelimiter_of_mem_write hv htext
    rw [ht] at hscalar
    rw [if_neg (mt hquote htext), if_neg (mt hlist hnotlist), if_neg (mt hobject hnotobject),
      if_neg (by simp [hdelimiter])]
    exact reads_unseen hblank fun c hc => hscalar c (List.mem_cons_of_mem _ hc)

/-- **A value that is ignored is passed over** if it is not nested too deeply. -/
theorem reads_ignored (n : Nat) (v : Layout) :
    (ignored n).Reads v.write (if v.depth ≤ n then some () else none) := by
  induction n generalizing v with
  | zero =>
    by_cases hv : v.depth = 0
    · rw [if_pos (Nat.le_of_eq hv)]
      exact reads_ignoredOver none hv
    · rw [if_neg (by omega)]
      cases v with
      | list gap items =>
        rw [Layout.write]
        exact reads_byFirst rfl spans_fail.reads
      | object gap members =>
        rw [Layout.write]
        exact reads_byFirst rfl spans_fail.reads
      | _ => exact absurd rfl hv
  | succ n ih =>
    by_cases hv : v.depth = 0
    · rw [if_pos (by omega)]
      exact reads_ignoredOver _ hv
    · cases v with
      | list gap items =>
        have hspans : (bracketed 0x5B .list (fun _ => ignored n) () .ok).Spans _ _ :=
          spans_items (fun _ x (_ : x ∈ items) => ih x.value) .ok gap ()
        rw [foldlM_guard, bind_toOption_ok id, Option.map_id] at hspans
        simp only [Layout.depth, Nat.add_le_add_iff_right, Layout.depthOfItems_le_iff]
        rw [Layout.write] at hspans ⊢
        exact reads_byFirst rfl hspans.reads
      | object gap members =>
        have hmember (m : Member Layout) : (entry fun _ => .ok (ignored n)).Reads
            (memberPiece m).value (if m.value.depth ≤ n then some () else none) :=
          reads_entry (fun r hr => by cases hr; exact ih m.value) fun e he => by cases he
        have hspans : (object (fun _ _ => .ok (ignored n)) () .ok).Spans _ _ :=
          spans_object (fun _ m (_ : m ∈ members) => hmember m) .ok gap ()
        rw [foldlM_guard, bind_toOption_ok id, Option.map_id] at hspans
        simp only [Layout.depth, Nat.add_le_add_iff_right, Layout.depthOfMembers_le_iff]
        rw [Layout.write] at hspans ⊢
        exact reads_byFirst rfl hspans.reads
      | _ => exact absurd rfl hv

end Reader

end TokenBridge.Json
