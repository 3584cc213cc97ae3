/-!
# Why a JSON text is refused

Reading stops at the first fault, from left to right, so one cause
describes a refusal completely. The wording of each cause is given once,
by `ReadError.message`; it reaches other chains inside acknowledgements
and is therefore part of what a bridge promises.
-/

namespace TokenBridge.Json

/-- What is wrong with a text that should hold a count of
nanoseconds. -/
inductive StampDefect where
  /-- There are no digits at all. -/
  | empty
  /-- There is something that is not a digit. -/
  | notADigit
  /-- The number does not fit in 64 bits. -/
  | tooLarge
  deriving DecidableEq, Repr

/-- The wording of a defect. -/
def StampDefect.message : StampDefect → String
  | .empty => "cannot parse integer from empty string"
  | .notADigit => "invalid digit found in string"
  | .tooLarge => "number too large to fit in target type"

/-- **The first fault of a text** that is read as JSON of a known
shape. -/
inductive ReadError where
  /-- The text ends where a value should stand. -/
  | endOfValue
  /-- The text ends inside a string. -/
  | endOfString
  /-- The text ends inside a list. -/
  | endOfList
  /-- The text ends inside an object. -/
  | endOfObject
  /-- A value of another type stands where a string, a number, a list
  or an object should. -/
  | wrongType
  /-- A number has a sign it must not have, or is out of range. -/
  | badNumber
  /-- A word starts like a literal and goes on otherwise. -/
  | badWord
  /-- A backslash starts no known escape. -/
  | badEscape
  /-- The octets of a string are not UTF-8. -/
  | badUtf8
  /-- A control character stands bare in a string with escapes. -/
  | controlCharacter
  /-- A low surrogate follows no high one. -/
  | highSurrogateExpected
  /-- A high surrogate follows another one. -/
  | lowSurrogateExpected
  /-- A high surrogate has no low one. -/
  | loneSurrogate
  /-- Something other than a comma or the end follows an element. -/
  | commaOrBracketExpected
  /-- Something other than a comma or the end follows a member. -/
  | commaOrBraceExpected
  /-- Something other than a colon follows a key. -/
  | colonExpected
  /-- Something other than a string stands where a key should. -/
  | keyExpected
  /-- No value starts with the character that stands there. -/
  | valueExpected
  /-- A comma stands before the end of a list or an object. -/
  | trailingComma
  /-- Something follows the value. -/
  | trailingText
  /-- Lists and objects are nested too deeply. -/
  | tooDeep
  /-- A field is given twice. -/
  | duplicateField (name : String)
  /-- A field is absent. -/
  | missingField (name : String)
  /-- There is no such field; those there are follow. -/
  | unknownField (name : String) (known : List String)
  /-- There is no such variant; those there are follow. -/
  | unknownVariant (name : String) (known : List String)
  /-- One thing was found where another was wanted. -/
  | unexpected (found wanted : String)
  /-- A list has that many elements where another number was wanted. -/
  | wrongLength (found : Nat) (wanted : String)
  /-- A text holds no count of nanoseconds. -/
  | badStamp (text : String) (defect : StampDefect)
  deriving DecidableEq, Repr

namespace ReadError

/-- A name between backquotes. -/
def ticked (name : String) : String := "`" ++ name ++ "`"

/-- The wording of the names that would have been right. -/
def choices : List String → String
  | [] => ""
  | [a] => ticked a
  | [a, b] => ticked a ++ " or " ++ ticked b
  | names => "one of " ++ String.intercalate ", " (names.map ticked)

/-- **The wording of a fault.** -/
def message : ReadError → String
  | .endOfValue => "EOF while parsing a JSON value."
  | .endOfString => "EOF while parsing a string."
  | .endOfList => "EOF while parsing a list."
  | .endOfObject => "EOF while parsing an object."
  | .wrongType => "Invalid type"
  | .badNumber => "Invalid number."
  | .badWord => "Expected to parse either a `true`, `false`, or a `null`."
  | .badEscape => "Invalid escape sequence."
  | .badUtf8 => "Invalid unicode code point."
  | .controlCharacter => "Control character found in string."
  | .highSurrogateExpected => "Expected a high surrogate (D800–DBFF)."
  | .lowSurrogateExpected => "Expected a low surrogate (DC00–DFFF)."
  | .loneSurrogate =>
    "Found a lone surrogate, which can exist in JSON but cannot be encoded to UTF-8."
  | .commaOrBracketExpected =>
    "Expected this character to be either a `','` ora `']'`."
  | .commaOrBraceExpected =>
    "Expected this character to be either a `','` or a `'\x7d'`."
  | .colonExpected => "Expected this character to be a `':'`."
  | .keyExpected => "Object key is not a string."
  | .valueExpected => "Expected this character to start a JSON value."
  | .trailingComma => "JSON has a comma after the last value in an array or map."
  | .trailingText => "JSON has non-whitespace trailing characters after the value."
  | .tooDeep => "JSON is nested too deeply, exceeded the recursion limit."
  | .duplicateField name => "duplicate field " ++ ticked name
  | .missingField name => "missing field " ++ ticked name
  | .unknownField name [] => "unknown field " ++ ticked name ++ ", there are no fields"
  | .unknownField name known =>
    "unknown field " ++ ticked name ++ ", expected " ++ choices known
  | .unknownVariant name known =>
    "unknown variant " ++ ticked name ++ ", expected " ++ choices known
  | .unexpected found wanted => "invalid type: " ++ found ++ ", expected " ++ wanted
  | .wrongLength found wanted =>
    "invalid length " ++ toString found ++ ", expected " ++ wanted
  | .badStamp text defect => "invalid Uint64 '" ++ text ++ "' - " ++ defect.message

end ReadError

end TokenBridge.Json
