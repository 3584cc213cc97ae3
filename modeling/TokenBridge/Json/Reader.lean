import TokenBridge.Json.Text

/-!
# Readers of JSON values

A reader takes one value off the front of a text and returns it with
what follows. A reader is told what type of value to expect, and it goes
through the text once, from left to right, so that of several faults the
first decides the error.

Every reader makes progress: what follows the value is shorter than the
text. `Reader` holds the proof of that, and it is what lets the loop
over the elements of a list or the members of an object
(`Reader.foldFrom`) end.

The commas of a list are treated more leniently than those of an object.
See `listStep` and `objectStep`, which say for both what may stand
before the next element.
-/

namespace TokenBridge.Json

/-! ## Readers -/

/-- **A reader of one value.** -/
structure Reader (α : Type) where
  /-- The value at the front of a text, and the rest of the text. -/
  run : Bytes → Except ReadError (α × Bytes)
  /-- A value takes at least one octet. -/
  shrinks : ∀ {s a rest}, run s = .ok (a, rest) → rest.length < s.length

/-- The octets that may stand between the tokens of a text. -/
def isBlank (b : UInt8) : Bool := b == 0x20 || b == 0x09 || b == 0x0A || b == 0x0D

/-- A text without the blanks at its front. -/
def skipBlanks (s : Bytes) : Bytes := s.dropWhile isBlank

theorem length_skipBlanks_le (s : Bytes) : (skipBlanks s).length ≤ s.length :=
  (List.dropWhile_sublist _).length_le

namespace Reader

variable {α β : Type}

/-- The reader that skips blanks and then decides by the first octet of
the value. -/
def ofFirst (f : UInt8 → Bytes → Except ReadError (α × Bytes))
    (h : ∀ {b s a rest}, f b s = .ok (a, rest) → rest.length ≤ s.length) : Reader α where
  run s :=
    match skipBlanks s with
    | [] => .error .endOfValue
    | b :: s => f b s
  shrinks := by
    intro s a rest hr
    have hs := length_skipBlanks_le s
    split at hr
    · cases hr
    · next b t ht =>
      rw [ht] at hs
      exact Nat.lt_of_le_of_lt (h hr) hs

/-- The reader that refuses everything. -/
def fail (e : ReadError) : Reader α where
  run _ := .error e
  shrinks := by intro s a rest h; cases h

/-- The reader that skips blanks, looks at the first octet of the value,
and leaves the value to the reader chosen by it. -/
def byFirst (choose : UInt8 → Reader α) : Reader α :=
  .ofFirst (fun b s => (choose b).run (b :: s)) fun h =>
    Nat.le_of_lt_succ ((choose _).shrinks h)

/-- The reader whose value is checked and turned into another one, once
it has been read. -/
def check (r : Reader α) (f : α → Except ReadError β) : Reader β where
  run s := do
    let (a, rest) ← r.run s
    let b ← f a
    return (b, rest)
  shrinks := by
    intro s b rest h
    cases hr : r.run s with
    | error e => simp [hr, bind, Except.bind] at h
    | ok p =>
      cases hf : f p.1 with
      | error e => simp [hr, hf, bind, Except.bind] at h
      | ok b' =>
        simp [hr, hf, bind, Except.bind, pure, Except.pure] at h
        exact h.2 ▸ r.shrinks (a := p.1) hr

/-- The reader whose value is turned into another one. -/
def map (f : α → β) (r : Reader α) : Reader β := r.check fun a => .ok (f a)

/-- The value of a whole text, which nothing but blanks may follow. -/
def readAll (r : Reader α) (s : Bytes) : Except ReadError α := do
  let (a, rest) ← r.run s
  match skipBlanks rest with
  | [] => .ok a
  | _ :: _ => .error .trailingText

end Reader

/-! ## Values without parts -/

/-- A string. -/
def Reader.text : Reader String :=
  .ofFirst
    (fun b s =>
      if b = quoteMark then
        match scanText [] s with
        | none => .error .endOfString
        | some (raw, rest) =>
          match decodeText raw with
          | .error e => .error e
          | .ok text => .ok (text, rest)
      else .error .wrongType)
    (by
      intro b s a rest h
      split at h
      · split at h
        · cases h
        · next raw t ht =>
          have := length_lt_of_scanText ht
          split at h
          · cases h
          · cases h; omega
      · cases h)

/-- **A written text is read back**, whatever follows it. -/
@[simp] theorem Reader.run_text_writeText (text : String) (rest : Bytes) :
    Reader.text.run (writeText text ++ rest) = .ok (text, rest) := by
  have h : skipBlanks (writeText text ++ rest)
      = quoteMark :: (escape (Bytes.ofText text) ++ quoteMark :: rest) := by
    rw [writeText, List.cons_append, List.append_assoc, skipBlanks]
    exact List.dropWhile_cons_of_neg (by decide)
  simp only [Reader.text, Reader.ofFirst, h, if_true, scanText_escape, List.reverse_nil,
    List.nil_append, decodeText_escape]

/-- Whether an octet is a decimal digit. -/
def isDigit (b : UInt8) : Bool := 0x30 ≤ b && b ≤ 0x39

/-- The number that decimal digits denote. -/
def digitsValue (ds : Bytes) : Nat := ds.foldl (fun n d => n * 10 + (d.toNat - 0x30)) 0

/-- The number whose first octet is given, and the rest of the text. A
zero stands alone: digits after it are not part of the number. -/
def readDigits (bound : Nat) (b : UInt8) (s : Bytes) : Except ReadError (Nat × Bytes) :=
  if b = 0x30 then .ok (0, s)
  else if isDigit b then
    let n := digitsValue (b :: s.takeWhile isDigit)
    if n < bound then .ok (n, s.dropWhile isDigit) else .error .badNumber
  else .error .wrongType

theorem length_le_of_readDigits {bound : Nat} {b : UInt8} {s rest : Bytes} {n : Nat}
    (h : readDigits bound b s = .ok (n, rest)) : rest.length ≤ s.length := by
  have hs : (s.dropWhile isDigit).length ≤ s.length := (List.dropWhile_sublist _).length_le
  simp only [readDigits] at h
  split at h
  · cases h; omega
  · split at h
    · split at h
      · cases h; exact hs
      · cases h
    · cases h

/-- A number below a bound. -/
def Reader.number (bound : Nat) : Reader Nat :=
  .ofFirst
    (fun b s => if b = 0x2D then .error .badNumber else readDigits bound b s)
    (by
      intro b s a rest h
      split at h
      · cases h
      · exact length_le_of_readDigits h)

/-- The rest of a text after the rest of a word. -/
def readWord : (word : Bytes) → Bytes → Except ReadError Bytes
  | [], s => .ok s
  | w :: ws, b :: s => if b = w then readWord ws s else .error .badWord
  | _ :: _, [] => .error .badWord

theorem length_le_of_readWord {word s rest : Bytes} (h : readWord word s = .ok rest) :
    rest.length ≤ s.length := by
  fun_induction readWord word s with
  | case1 => cases h; exact Nat.le_refl _
  | case2 w ws s ih => exact Nat.le_succ_of_le (ih h)
  | case3 => cases h
  | case4 => cases h

/-- The rest of a text after a colon. -/
def readColon (s : Bytes) : Except ReadError Bytes :=
  match skipBlanks s with
  | [] => .error .endOfObject
  | b :: s => if b = 0x3A then .ok s else .error .colonExpected

theorem length_le_of_readColon {s rest : Bytes} (h : readColon s = .ok rest) :
    rest.length ≤ s.length := by
  have hs := length_skipBlanks_le s
  simp only [readColon] at h
  split at h
  · cases h
  · next ht =>
    rw [ht] at hs
    simp only [List.length_cons] at hs
    split at h
    · cases h; omega
    · cases h

namespace Reader

variable {α β : Type}

/-- A literal word, given by its first letter and the rest of it, which
stands for the given value. -/
def literal (first : UInt8) (word : Bytes) (a : α) : Reader α :=
  .ofFirst
    (fun b s =>
      if b = first then
        match readWord word s with
        | .error e => .error e
        | .ok rest => .ok (a, rest)
      else .error .wrongType)
    (by
      intro b s a rest h
      split at h
      · split at h
        · cases h
        · next hw => cases h; exact length_le_of_readWord hw
      · cases h)

/-- A null, which stands for the given value. -/
def null (a : α) : Reader α := literal 0x6E [0x75, 0x6C, 0x6C] a

/-- A null, or else a value of the given kind. -/
def nullable (r : Reader α) : Reader (Option α) :=
  .byFirst fun b => if b = 0x6E then null none else r.map some

/-- A key, a colon, and the value that the key calls for. The key may
already be a fault, before the colon is looked at. -/
def entry (value : String → Except ReadError (Reader α)) : Reader α where
  run s := do
    let (key, s) ← text.run s
    let r ← value key
    let s ← readColon s
    r.run s
  shrinks := by
    intro s a rest h
    cases ht : text.run s with
    | error e => simp [ht, bind, Except.bind] at h
    | ok p =>
      cases hv : value p.1 with
      | error e => simp [ht, hv, bind, Except.bind] at h
      | ok r =>
        cases hc : readColon p.2 with
        | error e => simp [ht, hv, hc, bind, Except.bind] at h
        | ok t =>
          simp only [ht, hv, hc, bind, Except.bind] at h
          -- the key, the colon and the value each leave less
          have h₁ : p.2.length < s.length := text.shrinks ht
          have h₂ := length_le_of_readColon hc
          have h₃ := r.shrinks h
          omega

end Reader

/-! ## Lists and objects -/

/-- What stands before the next element of a list or an object: its end,
or an element, at which a comma may still be missing. -/
inductive Step where
  /-- The end; the text after it follows. -/
  | last (rest : Bytes)
  /-- An element, which the rest of the text starts with, and whether an
  element without a comma is still allowed after it. -/
  | next (first : Bool) (rest : Bytes)

/-- A rule for what may stand before the next element. -/
structure Separation where
  /-- The step at the front of a text. -/
  step : (first : Bool) → Bytes → Except ReadError Step
  /-- The end takes at least one octet. -/
  shrinks : ∀ {first s rest}, step first s = .ok (.last rest) → rest.length < s.length
  /-- A comma takes no more octets than there are. -/
  grows : ∀ {first s first' rest},
    step first s = .ok (.next first' rest) → rest.length ≤ s.length

/-- **The elements of a list.** One element may follow what is before it
without a comma, and a comma may come before the first element: what
uses the allowance up is an element that no comma precedes. -/
def listStep (first : Bool) (s : Bytes) : Except ReadError Step :=
  match skipBlanks s with
  | [] => .error .endOfList
  | b :: s =>
    if b = 0x5D then .ok (.last s)
    else if b = 0x2C then
      match skipBlanks s with
      | [] => .error .endOfValue
      | c :: s => if c = 0x5D then .error .trailingComma else .ok (.next first (c :: s))
    else if first then .ok (.next false (b :: s))
    else .error .commaOrBracketExpected

/-- **The members of an object.** A comma stands before every member but
the first. -/
def objectStep (first : Bool) (s : Bytes) : Except ReadError Step :=
  match skipBlanks s with
  | [] => .error .endOfObject
  | b :: s =>
    if b = 0x7D then .ok (.last s)
    else if first then
      if b = quoteMark then .ok (.next false (b :: s)) else .error .keyExpected
    else if b = 0x2C then
      match skipBlanks s with
      | [] => .error .endOfValue
      | c :: s =>
        if c = quoteMark then .ok (.next false (c :: s))
        else if c = 0x7D then .error .trailingComma
        else .error .keyExpected
    else .error .commaOrBraceExpected

/-- The rule of lists. -/
def Separation.list : Separation where
  step := listStep
  shrinks := by
    intro first s rest h
    have hs := length_skipBlanks_le s
    simp only [listStep] at h
    split at h
    · cases h
    · next ht =>
      rw [ht] at hs
      simp only [List.length_cons] at hs
      repeat' split at h
      all_goals cases h
      omega
  grows := by
    intro first s first' rest h
    have hs := length_skipBlanks_le s
    simp only [listStep] at h
    split at h
    · cases h
    · next t ht =>
      have ht' := length_skipBlanks_le t
      rw [ht] at hs
      simp only [List.length_cons] at hs
      repeat' split at h
      all_goals cases h
      all_goals simp_all only [List.length_cons]
      all_goals omega

/-- The rule of objects. -/
def Separation.object : Separation where
  step := objectStep
  shrinks := by
    intro first s rest h
    have hs := length_skipBlanks_le s
    simp only [objectStep] at h
    split at h
    · cases h
    · next ht =>
      rw [ht] at hs
      simp only [List.length_cons] at hs
      repeat' split at h
      all_goals cases h
      omega
  grows := by
    intro first s first' rest h
    have hs := length_skipBlanks_le s
    simp only [objectStep] at h
    split at h
    · cases h
    · next t ht =>
      have ht' := length_skipBlanks_le t
      rw [ht] at hs
      simp only [List.length_cons] at hs
      repeat' split at h
      all_goals cases h
      all_goals simp_all only [List.length_cons]
      all_goals omega

namespace Reader

variable {α σ : Type}

/-- Reads elements up to the end and lets each one change a state. -/
def foldFrom (rule : Separation) (element : σ → Reader σ) (first : Bool) (state : σ)
    (s : Bytes) : Except ReadError (σ × Bytes) :=
  match hs : rule.step first s with
  | .error e => .error e
  | .ok (.last rest) => .ok (state, rest)
  | .ok (.next first' rest) =>
    match hr : (element state).run rest with
    | .error e => .error e
    | .ok (state', rest') =>
      have : rest'.length < s.length :=
        Nat.lt_of_lt_of_le ((element state).shrinks hr) (rule.grows hs)
      foldFrom rule element first' state' rest'
termination_by s.length

theorem length_lt_of_foldFrom {rule : Separation} {element : σ → Reader σ} {first : Bool}
    {state state' : σ} {s rest : Bytes}
    (h : foldFrom rule element first state s = .ok (state', rest)) :
    rest.length < s.length := by
  fun_induction foldFrom rule element first state s with
  | case1 => cases h
  | case2 _ _ _ _ hs => cases h; exact rule.shrinks hs
  | case3 => cases h
  | case4 first state s first' t hs state'' t' hr _ ih =>
    have h₁ := rule.grows hs
    have h₂ := (element state).shrinks hr
    have h₃ := ih h
    omega

/-- A list or an object: its opening octet, its elements, and a last
change of the state they lead to, which may fail. -/
def bracketed (opening : UInt8) (rule : Separation) (element : σ → Reader σ) (start : σ)
    (finish : σ → Except ReadError α) : Reader α :=
  .check
    (.ofFirst
      (fun b s => if b = opening then foldFrom rule element true start s else .error .wrongType)
      (by
        intro b s a rest h
        split at h
        · exact Nat.le_of_lt (length_lt_of_foldFrom h)
        · cases h))
    finish

/-- A list of values of the given kind. -/
def list (r : Reader α) : Reader (List α) :=
  bracketed 0x5B .list (fun read => r.map (· :: read)) [] fun read => .ok read.reverse

/-- An object, whose members change a state one by one. -/
def object (member : σ → String → Except ReadError (Reader σ)) (start : σ)
    (finish : σ → Except ReadError α) : Reader α :=
  bracketed 0x7B .object (fun state => entry (member state)) start finish

end Reader

end TokenBridge.Json
