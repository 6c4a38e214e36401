/-!
# Faults of JSON texts

What can be wrong with a JSON text or with the values in it, and at which byte.
-/

set_option autoImplicit false

namespace Workday.Json

/-- A place in a text: its line, from one, and the bytes before it on the line. -/
structure Mark where
  line : Nat := 1
  column : Nat := 0
  deriving DecidableEq, Repr

/-- What is wrong at a place. -/
inductive Problem where
  | endInList
  | endInObject
  | endInString
  | endInValue
  | noColon
  | noListCommaOrEnd
  | noObjectCommaOrEnd
  | noWord
  | noValue
  | badEscape
  | badNumber
  | numberTooLarge
  | notUtf8
  | controlInString
  | keyNotString
  | loneSurrogate
  | endOfEscapes
  | trailingComma
  | trailingCharacters
  /-- A value of another kind than wanted, each as a message names it. -/
  | wrongKind (found wanted : String)
  /-- A list with too few elements. -/
  | wrongLength (length : Nat) (wanted : String)
  | missingField (name : String)
  | duplicateField (name : String)
  /-- A text that its reader refuses. -/
  | refused (message : String)
  deriving DecidableEq, Repr

/-- The wording of a problem. -/
def Problem.message : Problem → String
  | endInList => "EOF while parsing a list"
  | endInObject => "EOF while parsing an object"
  | endInString => "EOF while parsing a string"
  | endInValue => "EOF while parsing a value"
  | noColon => "expected \x60:\x60"
  | noListCommaOrEnd => "expected \x60,\x60 or \x60]\x60"
  | noObjectCommaOrEnd => "expected \x60,\x60 or \x60\x7d\x60"
  | noWord => "expected ident"
  | noValue => "expected value"
  | badEscape => "invalid escape"
  | badNumber => "invalid number"
  | numberTooLarge => "number out of range"
  | notUtf8 => "invalid unicode code point"
  | controlInString => "control character (\\u0000-\\u001F) found while parsing a string"
  | keyNotString => "key must be a string"
  | loneSurrogate => "lone leading surrogate in hex escape"
  | endOfEscapes => "unexpected end of hex escape"
  | trailingComma => "trailing comma"
  | trailingCharacters => "trailing characters"
  | wrongKind found wanted => "invalid type: " ++ found ++ ", expected " ++ wanted
  | wrongLength length wanted => "invalid length " ++ toString length ++ ", expected " ++ wanted
  | missingField name => "missing field \x60" ++ name ++ "\x60"
  | duplicateField name => "duplicate field \x60" ++ name ++ "\x60"
  | refused message => message

/-- A problem and its place. -/
structure Fault where
  problem : Problem
  mark : Mark
  deriving DecidableEq, Repr

/-- The wording of a fault. -/
def Fault.message (f : Fault) : String :=
  f.problem.message ++ " at line " ++ toString f.mark.line ++ " column " ++ toString f.mark.column

end Workday.Json
