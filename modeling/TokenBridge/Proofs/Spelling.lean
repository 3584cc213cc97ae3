import TokenBridge.Proofs.Layouts

/-!
# Every spelling of a string is read

A character can stand in a string as it is, behind a backslash with a letter, by its
number, or as a pair of surrogates by their numbers. The reader of strings goes through
the octets twice: once for the closing quote, where a backslash protects one octet, and
once, if there is a backslash at all, for what is meant. This module shows that both
passes take every glyph as a whole, and that what comes out is the text that the glyphs
denote (`Glyphs.decodeText_glyphs`).

What is not routine is that the octets of a character are not mistaken for anything
else. Those of a character beyond the first 128 are too large for a quote, a backslash
or a control character (`octets_plain`).
-/

namespace TokenBridge.Json

/-! ## The octets of characters -/

theorem ofText_ofList (cs : List Char) :
    Bytes.ofText (String.ofList cs) = cs.flatMap String.utf8EncodeChar := by
  simp [Bytes.ofText, List.utf8Encode]

theorem reversedUtf8_eq (n : Nat) :
    reversedUtf8 n = (String.utf8EncodeChar (Char.ofNat n)).reverse := by
  have h : (Char.ofNat n).toString = String.ofList [Char.ofNat n] := rfl
  rw [reversedUtf8, h, ofText_ofList]
  simp

/-- Whether an octet stands for itself in a string. -/
def IsPlainOctet (b : UInt8) : Prop := b ≠ quoteMark ∧ b ≠ backslash ∧ ¬ b < 0x20

theorem isPlainOctet_of_toNat {b : UInt8} (h : 0x20 ≤ b.toNat) (hquote : b.toNat ≠ 0x22)
    (hslash : b.toNat ≠ 0x5C) : IsPlainOctet b := by
  refine ⟨?_, ?_, fun hlt => Nat.not_lt.mpr h (UInt8.lt_iff_toNat_lt.mp hlt)⟩
  · rintro rfl
    exact hquote rfl
  · rintro rfl
    exact hslash rfl

/-- **The octets of a plain character are plain.** -/
theorem octets_plain {c : Char} (hc : IsPlain c) :
    ∀ b ∈ String.utf8EncodeChar c, IsPlainOctet b := by
  intro b hb
  obtain ⟨hcontrol, hquote, hslash⟩ := hc
  have hne (d : Char) (h : c ≠ d) : c.val.toNat ≠ d.toNat := fun heq =>
    h (Char.ext (UInt32.toNat_inj.mp heq))
  have hcontrol : 0x20 ≤ c.val.toNat := hcontrol
  have hquote : c.val.toNat ≠ 0x22 := hne '"' hquote
  have hslash : c.val.toNat ≠ 0x5C := hne '\\' hslash
  have hoctet : b.toNat = c.val.toNat ∨ 0x80 ≤ b.toNat := by
    simp only [String.utf8EncodeChar] at hb
    generalize c.val.toNat = v at *
    split at hb
    · obtain rfl := List.mem_singleton.mp hb
      rw [UInt8.toNat_ofNat']
      omega
    · repeat' split at hb
      all_goals
        simp only [List.mem_cons, List.not_mem_nil, or_false] at hb
        rcases hb with rfl | rfl | rfl | rfl <;> rw [UInt8.toNat_ofNat'] <;> omega
  exact isPlainOctet_of_toNat (by omega) (by omega) (by omega)

/-! ## Plain octets -/

theorem scanText_plains {w : Bytes} (hw : ∀ b ∈ w, IsPlainOctet b) (seen rest : Bytes) :
    scanText seen (w ++ rest) = scanText (w.reverse ++ seen) rest := by
  induction w generalizing seen with
  | nil => rfl
  | cons b w ih =>
    obtain ⟨⟨hquote, hslash, -⟩, hw⟩ := List.forall_mem_cons.mp hw
    rw [List.cons_append, scanText_plain hquote hslash, ih hw]
    simp

theorem unescapeFrom_plains {w : Bytes} (hw : ∀ b ∈ w, IsPlainOctet b) (read rest : Bytes) :
    unescapeFrom read none (w ++ rest) = unescapeFrom (w.reverse ++ read) none rest := by
  induction w generalizing read with
  | nil => rfl
  | cons b w ih =>
    obtain ⟨⟨-, hslash, hcontrol⟩, hw⟩ := List.forall_mem_cons.mp hw
    rw [List.cons_append, unescapeFrom_plain hslash hcontrol, ih hw]
    simp

/-! ## Numbers of characters -/

namespace HexDigit

/-- A digit has its value, and it is plain. -/
theorem facts : ∀ d : HexDigit, hexValue? d.octet = some d.value.val ∧ IsPlainOctet d.octet := by
  have h : ∀ (value : Fin 16) (capital : Bool),
      hexValue? (octet ⟨value, capital⟩) = some value.val
        ∧ octet ⟨value, capital⟩ ≠ quoteMark ∧ octet ⟨value, capital⟩ ≠ backslash
        ∧ ¬ octet ⟨value, capital⟩ < 0x20 := by
    decide
  exact fun d => h d.value d.capital

end HexDigit

namespace HexQuad

theorem hexQuad?_octets (q : HexQuad) :
    hexQuad? q.first.octet q.second.octet q.third.octet q.fourth.octet = some q.number := by
  simp only [hexQuad?, HexDigit.facts, bind, Option.bind, pure, Option.some.injEq, number]
  omega

theorem scanText_write (q : HexQuad) (seen rest : Bytes) :
    scanText seen (q.write ++ rest) = scanText (q.write.reverse ++ seen) rest := by
  have hdigits : ∀ b ∈ [0x75, q.first.octet, q.second.octet, q.third.octet, q.fourth.octet].tail,
      IsPlainOctet b := by
    simp [HexDigit.facts]
  rw [write, List.cons_append, List.cons_append, scanText_escaped]
  exact (scanText_plains hdigits _ rest).trans (by simp)

end HexQuad

/-! ## Glyphs -/

namespace Letter

/-- A letter stands for its character, and it is not the letter of a number. -/
theorem facts (l : Letter) : l.octet ≠ 0x75 ∧ ∃ o, shortEscape? l.octet = some o
    ∧ String.utf8EncodeChar l.char = [o] := by
  cases l <;> exact ⟨by decide, _, rfl, rfl⟩

end Letter

namespace Glyph

/-- The closing quote is not looked for inside a glyph. -/
theorem scanText_write (g : Glyph) (seen rest : Bytes) :
    scanText seen (g.write ++ rest) = scanText (g.write.reverse ++ seen) rest := by
  cases g with
  | bare c plain =>
    rw [write, ofText_ofList, List.flatMap_singleton]
    exact scanText_plains (octets_plain plain) seen rest
  | letter l => exact scanText_escaped ..
  | unit q => exact q.scanText_write seen rest
  | pair high low =>
    rw [write, List.append_assoc, high.scanText_write, low.scanText_write]
    simp

/-- **A glyph is read as its character.** -/
theorem unescapeFrom_write (g : Glyph) (read rest : Bytes) :
    unescapeFrom read none (g.write ++ rest)
      = unescapeFrom ((String.utf8EncodeChar g.char).reverse ++ read) none rest := by
  cases g with
  | bare c plain =>
    rw [write, ofText_ofList, List.flatMap_singleton]
    exact unescapeFrom_plains (octets_plain plain) read rest
  | letter l =>
    obtain ⟨hunit, o, ho, hchar⟩ := l.facts
    rw [char, hchar]
    exact unescapeFrom_letter hunit ho read none rest
  | unit q single =>
    rw [char, ← reversedUtf8_eq]
    exact unescapeFrom_unit q.hexQuad?_octets (addUnit_single single read none) rest
  | pair high low opens closes =>
    have hhigh : addUnit read none high.number = .ok (read, some high.number) := by
      have h : isHighSurrogate high.number = true := by simp [isHighSurrogate]; omega
      simp [addUnit, h]
    have hlow : addUnit read (some high.number) low.number
        = .ok (reversedUtf8 (0x10000 + (high.number - 0xD800) * 0x400 + (low.number - 0xDC00))
          ++ read, none) := by
      have h₁ : isHighSurrogate low.number = false := by simp [isHighSurrogate]; omega
      have h₂ : isLowSurrogate low.number = true := by simp [isLowSurrogate]; omega
      simp [addUnit, h₁, h₂]
    rw [char, ← reversedUtf8_eq, write, List.append_assoc]
    exact (unescapeFrom_unit high.hexQuad?_octets hhigh _).trans
      (unescapeFrom_unit low.hexQuad?_octets hlow rest)

/-- A glyph without a backslash is its character. -/
theorem write_of_notMem {g : Glyph} (h : backslash ∉ g.write) :
    g.write = String.utf8EncodeChar g.char := by
  cases g with
  | bare c => rw [write, ofText_ofList, List.flatMap_singleton, char]
  | _ => exact absurd (List.mem_cons_self ..) h

end Glyph

/-! ## Strings -/

namespace Glyphs

theorem ofText_text (gs : Glyphs) :
    Bytes.ofText gs.text = gs.flatMap fun g => String.utf8EncodeChar g.char := by
  rw [text, ofText_ofList, List.flatMap_map]

/-- **The closing quote of a string is found.** -/
theorem scanText_glyphs (gs : Glyphs) (seen rest : Bytes) :
    scanText seen (gs.flatMap Glyph.write ++ quoteMark :: rest)
      = some (seen.reverse ++ gs.flatMap Glyph.write, rest) := by
  induction gs generalizing seen with
  | nil => simp [scanText_quote]
  | cons g gs ih =>
    rw [List.flatMap_cons, List.append_assoc, g.scanText_write, ih]
    simp

theorem unescapeFrom_glyphs (gs : Glyphs) (read : Bytes) :
    unescapeFrom read none (gs.flatMap Glyph.write)
      = .ok (read.reverse ++ Bytes.ofText gs.text) := by
  rw [ofText_text]
  induction gs generalizing read with
  | nil => simp [unescapeFrom]
  | cons g gs ih =>
    rw [List.flatMap_cons, g.unescapeFrom_write, ih]
    simp

/-- **Every spelling of a text is read as the text.** -/
theorem decodeText_glyphs (gs : Glyphs) :
    decodeText (gs.flatMap Glyph.write) = .ok gs.text := by
  rw [decodeText]
  split
  · rw [unescape, unescapeFrom_glyphs]
    simp [bind, Except.bind]
  · next h =>
    have hplain : gs.flatMap Glyph.write = Bytes.ofText gs.text := by
      rw [ofText_text, List.flatMap_def, List.flatMap_def]
      refine congrArg List.flatten (List.map_congr_left fun g hg => ?_)
      exact Glyph.write_of_notMem fun hmem => h (by simpa using ⟨g, hg, hmem⟩)
    rw [hplain]
    simp [bind, Except.bind]

end Glyphs

end TokenBridge.Json
