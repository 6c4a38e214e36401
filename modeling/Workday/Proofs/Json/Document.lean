/-!
# JSON documents

The values that a JSON text can hold, and the texts in which a value can be written. A value is a
tree in which the members of an object stand in order and names may repeat; a number is kept as its
literal, since no reader here wants its value.

`Written` is the grammar. A value has many texts: space may stand around every value and name, and
every character of a string may be escaped. An escape of half a surrogate pair stands for no
character, so a string with one is well-formed but has no text. That goes for names as well.
-/

set_option autoImplicit false

namespace Workday.Json

inductive Value where
  | null
  | bool (b : Bool)
  | number (literal : List Char)
  /-- A string with its text, if it has one. -/
  | string (text : Option String)
  | array (elements : List Value)
  | object (members : List (Option String × Value))

/-- A member of an object: its name, if that has a text, and its value. -/
abbrev Member := Option String × Value

namespace Value

def string? : Value → Option String
  | string text => text
  | _ => none

def bool? : Value → Option Bool
  | bool b => some b
  | _ => none

def array? : Value → Option (List Value)
  | array elements => some elements
  | _ => none

def object? : Value → Option (List Member)
  | object members => some members
  | _ => none

end Value

/-- The values of the members with a name, in order. -/
def valuesOf (members : List Member) (name : String) : List Value :=
  (members.filter (·.1 == some name)).map Prod.snd

/-- Whether the names of all members have a text. -/
def isNamed (members : List Member) : Bool := members.all (·.1.isSome)

/-! ## Numbers -/

def IsDigits (s : List Char) : Prop := s ≠ [] ∧ ∀ c ∈ s, c.isDigit = true

/-- Digits without a zero in front of others. -/
def IsWhole (s : List Char) : Prop := s = ['0'] ∨ IsDigits s ∧ s.head? ≠ some '0'

def IsFraction (s : List Char) : Prop := s = [] ∨ ∃ digits, IsDigits digits ∧ s = '.' :: digits

def IsExponent (s : List Char) : Prop :=
  s = [] ∨ ∃ letter ∈ ['e', 'E'], ∃ sign ∈ [[], ['+'], ['-']], ∃ digits, IsDigits digits ∧
    s = letter :: (sign ++ digits)

def IsMagnitude (s : List Char) : Prop :=
  ∃ whole fraction exponent, IsWhole whole ∧ IsFraction fraction ∧ IsExponent exponent ∧
    s = whole ++ (fraction ++ exponent)

def IsNumber (s : List Char) : Prop := IsMagnitude s ∨ ∃ t, IsMagnitude t ∧ s = '-' :: t

/-! ## Strings -/

/-- The letters that stand for a character after a backslash. -/
def shortEscapes : List (Char × Char) :=
  [('"', '"'), ('\\', '\\'), ('/', '/'), ('b', '\x08'), ('f', '\x0C'), ('n', '\n'), ('r', '\r'),
    ('t', '\t')]

/-- The hexadecimal digits and their values. -/
def hexDigits : List (Char × Nat) :=
  [('0', 0), ('1', 1), ('2', 2), ('3', 3), ('4', 4), ('5', 5), ('6', 6), ('7', 7), ('8', 8),
    ('9', 9), ('a', 10), ('b', 11), ('c', 12), ('d', 13), ('e', 14), ('f', 15), ('A', 10),
    ('B', 11), ('C', 12), ('D', 13), ('E', 14), ('F', 15)]

/-- A unit of 16 bits in four hexadecimal digits. -/
def WrittenUnit (unit : Nat) (s : List Char) : Prop :=
  ∃ w a x b y c z d, (w, a) ∈ hexDigits ∧ (x, b) ∈ hexDigits ∧ (y, c) ∈ hexDigits ∧
    (z, d) ∈ hexDigits ∧ unit = ((a * 16 + b) * 16 + c) * 16 + d ∧ s = [w, x, y, z]

/-- How a character can be written in a string. -/
inductive WrittenChar : Char → List Char → Prop where
  | plain {c : Char} (printable : ' ' ≤ c) (noQuote : c ≠ '"') (noBackslash : c ≠ '\\') :
      WrittenChar c [c]
  | short {c letter : Char} (listed : (letter, c) ∈ shortEscapes) : WrittenChar c ['\\', letter]
  | unit {c : Char} {s : List Char} (digits : WrittenUnit c.toNat s) :
      WrittenChar c ('\\' :: 'u' :: s)
  | pair {c : Char} {lead trail : Nat} {s t : List Char} (digits : WrittenUnit lead s)
      (digits' : WrittenUnit trail t) (leading : 0xD800 ≤ lead ∧ lead ≤ 0xDBFF)
      (trailing : 0xDC00 ≤ trail ∧ trail ≤ 0xDFFF)
      (value : c.toNat = (lead - 0xD800) * 0x400 + (trail - 0xDC00) + 0x10000) :
      WrittenChar c ('\\' :: 'u' :: (s ++ '\\' :: 'u' :: t))

/-- How characters can be written between the quotes of a string. -/
inductive WrittenText : List Char → List Char → Prop where
  | nil : WrittenText [] []
  | cons {c : Char} {cs s t : List Char} (head : WrittenChar c s) (tail : WrittenText cs t) :
      WrittenText (c :: cs) (s ++ t)

/-- What can be written between the quotes of a string, whether it has a text or not. -/
inductive IsStringBody : List Char → Prop where
  | nil : IsStringBody []
  | plain {c : Char} {s : List Char} (printable : ' ' ≤ c) (noQuote : c ≠ '"')
      (noBackslash : c ≠ '\\') (rest : IsStringBody s) : IsStringBody (c :: s)
  | short {c letter : Char} {s : List Char} (listed : (letter, c) ∈ shortEscapes)
      (rest : IsStringBody s) : IsStringBody ('\\' :: letter :: s)
  | unit {unit : Nat} {u s : List Char} (digits : WrittenUnit unit u) (rest : IsStringBody s) :
      IsStringBody ('\\' :: 'u' :: (u ++ s))

/-- How a string can be written between its quotes, by its text if it has one. -/
inductive WrittenString : Option String → List Char → Prop where
  | text {text : String} {s : List Char} (chars : WrittenText text.toList s) :
      WrittenString (some text) s
  | noText {s : List Char} (body : IsStringBody s) (noText : ∀ cs, ¬ WrittenText cs s) :
      WrittenString none s

/-! ## Values -/

/-- The characters that may stand between tokens. -/
def spaces : List Char := [' ', '\n', '\t', '\r']

def IsSpace (s : List Char) : Prop := ∀ c ∈ s, c ∈ spaces

/-- No white space at all is white space, too: between any two parts of a document there may be
none. -/
theorem isSpace_nil : IsSpace [] := fun _ h => nomatch h

/-- A part of a document. -/
inductive Part where
  | value (v : Value)
  /-- A value with space around it. -/
  | spaced (v : Value)
  /-- The elements of a list that is not empty. -/
  | elements (vs : List Value)
  /-- The members of an object that is not empty. -/
  | members (ms : List Member)

/-- How the parts of a document can be written. -/
inductive Written : Part → List Char → Prop where
  | nullWord : Written (.value .null) ['n', 'u', 'l', 'l']
  | trueWord : Written (.value (.bool true)) ['t', 'r', 'u', 'e']
  | falseWord : Written (.value (.bool false)) ['f', 'a', 'l', 's', 'e']
  | number {s : List Char} (literal : IsNumber s) : Written (.value (.number s)) s
  | string {text : Option String} {s : List Char} (chars : WrittenString text s) :
      Written (.value (.string text)) ('"' :: (s ++ ['"']))
  | emptyArray {a : List Char} (space : IsSpace a) :
      Written (.value (.array [])) ('[' :: (a ++ [']']))
  | array {vs : List Value} {s : List Char} (elements : Written (.elements vs) s) :
      Written (.value (.array vs)) ('[' :: (s ++ [']']))
  | emptyObject {a : List Char} (space : IsSpace a) :
      Written (.value (.object [])) ('{' :: (a ++ ['}']))
  | object {ms : List Member} {s : List Char} (members : Written (.members ms) s) :
      Written (.value (.object ms)) ('{' :: (s ++ ['}']))
  | spaced {v : Value} {a s b : List Char} (before : IsSpace a) (value : Written (.value v) s)
      (after : IsSpace b) : Written (.spaced v) (a ++ (s ++ b))
  | element {v : Value} {s : List Char} (value : Written (.spaced v) s) : Written (.elements [v]) s
  | elements {v : Value} {vs : List Value} {s t : List Char} (value : Written (.spaced v) s)
      (rest : Written (.elements vs) t) : Written (.elements (v :: vs)) (s ++ ',' :: t)
  | member {name : Option String} {v : Value} {a n b s : List Char} (before : IsSpace a)
      (chars : WrittenString name n) (after : IsSpace b) (value : Written (.spaced v) s) :
      Written (.members [(name, v)]) (a ++ '"' :: (n ++ '"' :: (b ++ ':' :: s)))
  | members {name : Option String} {v : Value} {ms : List Member} {a n b s t : List Char}
      (before : IsSpace a) (chars : WrittenString name n) (after : IsSpace b)
      (value : Written (.spaced v) s) (rest : Written (.members ms) t) :
      Written (.members ((name, v) :: ms)) (a ++ '"' :: (n ++ '"' :: (b ++ ':' :: (s ++ ',' :: t))))

/-- A text is a document of a value: the value, with space around it. -/
def IsDocument (v : Value) (text : String) : Prop := Written (.spaced v) text.toList

end Workday.Json
