import TokenBridge.Text.Unprintable

/-!
# Quoted texts

The form in which an error text shows a text that it objects to: in
double quotes, with the quote, the backslash and the common controls
escaped, and every other character that would not show by itself given
by its number in hexadecimal.
-/

namespace TokenBridge.Text.Quoted

/-- One character of a quoted text. -/
def escape (c : Char) : String :=
  match c with
  | '\x00' => "\\0"
  | '\t' => "\\t"
  | '\r' => "\\r"
  | '\n' => "\\n"
  | '"' => "\\\""
  | '\\' => "\\\\"
  | c =>
    if Unprintable.isUnprintable c then
      "\\u\x7b" ++ String.ofList (Nat.toDigits 16 c.toNat) ++ "\x7d"
    else c.toString

/-- **A text in double quotes.** -/
def quote (s : String) : String :=
  "\"" ++ String.join (s.toList.map escape) ++ "\""

end TokenBridge.Text.Quoted
