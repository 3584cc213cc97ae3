import TokenBridge.Json.Basic
import TokenBridge.Json.Reader
import TokenBridge.Text.Quoted

/-!
# Values of any type

Two readers that take whatever value comes. `Reader.ignored` passes over
a value that nobody needs, and looks at it no more closely than it takes
to find its end; `Reader.any` reads a value that is needed later.

Both are limited in depth, so that a text from a stranger cannot make
them nest without bound. A limit of `n` means that `n` lists and objects
may stand inside each other.
-/

namespace TokenBridge.Json

/-- How many lists and objects may stand inside each other. -/
def nestingLimit : Nat := 127

namespace Reader

/-! ## Values to be ignored -/

/-- Whether an octet ends a value that is not looked at. -/
def isDelimiter (b : UInt8) : Bool := b == 0x2C || b == 0x7D || b == 0x5D

/-- A value that is not looked at: everything up to the next comma or
closing bracket, which has to be there. -/
def unseen : Reader Unit :=
  .ofFirst
    (fun _ s =>
      match s.dropWhile (!isDelimiter ·) with
      | [] => .error .endOfString
      | b :: rest => .ok ((), b :: rest))
    (by
      intro b s a rest h
      have hs := (List.dropWhile_sublist (!isDelimiter ·) (l := s)).length_le
      split at h
      · cases h
      · next ht => cases h; rw [ht] at hs; exact hs)

/-- The reader for a list or an object, given the reader for the values
inside it, if there may be any. -/
def within {α β : Type} (inner : Option (Reader α)) (container : Reader α → Reader β) :
    Reader β :=
  match inner with
  | none => fail .tooDeep
  | some r => container r

/-- A value to be ignored, given the reader for the values inside it, if
there may be any. Strings, lists and objects are checked; anything else
is not looked at. -/
def ignoredOver (inner : Option (Reader Unit)) : Reader Unit :=
  .byFirst fun b =>
    if b = quoteMark then text.map fun _ => ()
    else if b = 0x5B then within inner fun r => bracketed 0x5B .list (fun _ => r) () .ok
    else if b = 0x7B then within inner fun r => object (fun _ _ => .ok r) () .ok
    else if isDelimiter b then fail .valueExpected
    else unseen

/-- **A value to be ignored**, up to a depth. -/
def ignored : (depth : Nat) → Reader Unit
  | 0 => ignoredOver none
  | depth + 1 => ignoredOver (some (ignored depth))

/-! ## Values to be kept -/

/-- A negative number. The lowest is the lowest of 64 bits with a
sign. -/
def negative : Reader Int :=
  .ofFirst
    (fun _ s =>
      match s with
      | [] => .error .endOfValue
      | b :: s =>
        match readDigits (UInt64.size / 2 + 1) b s with
        | .error e => .error e
        | .ok (n, rest) => .ok (-n, rest))
    (by
      intro b s a rest h
      split at h
      · cases h
      · split at h
        · cases h
        · next hd => cases h; exact Nat.le_succ_of_le (length_le_of_readDigits hd))

/-- A value of any type, given the reader for the values inside it, if
there may be any. -/
def anyOver (inner : Option (Reader Json)) : Reader Json :=
  .byFirst fun b =>
    if b = quoteMark then text.map .text
    else if b = 0x5B then within inner fun r => r.list.map .list
    else if b = 0x7B then
      within inner fun r =>
        object (fun members name => .ok (r.map fun v => (name, v) :: members)) []
          fun members => .ok (.object members.reverse)
    else if b = 0x6E then null .null
    else if b = 0x74 then literal 0x74 [0x72, 0x75, 0x65] (.bool true)
    else if b = 0x66 then literal 0x66 [0x61, 0x6C, 0x73, 0x65] (.bool false)
    else if b = 0x2D then negative.map .number
    else if isDigit b then (number UInt64.size).map fun (n : Nat) => .number n
    else fail .valueExpected

/-- **A value of any type**, up to a depth. -/
def any : (depth : Nat) → Reader Json
  | 0 => anyOver none
  | depth + 1 => anyOver (some (any depth))

end Reader

/-- How an error text names a value that stands where another type was
wanted. -/
def describe : Json → String
  | .null => "unit value"
  | .bool b => "boolean `" ++ (if b then "true" else "false") ++ "`"
  | .number n => "integer `" ++ toString n ++ "`"
  | .text s => "string " ++ Text.Quoted.quote s
  | .list _ => "sequence"
  | .object _ => "map"

end TokenBridge.Json
