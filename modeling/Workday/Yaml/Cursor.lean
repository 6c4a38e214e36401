import Workday.Yaml.Fault

/-!
# Reading a text from front to back

A cursor is what is left of a text and the mark that has been reached. A line ends at a carriage
return, a line feed, both in that order, or one of three wider breaks; of these, two stay what they
are in a scalar and all others become line feeds.
-/

set_option autoImplicit false

namespace Workday.Yaml

/-- What is left of a text, and where that begins. -/
structure Cursor where
  rest : List Char
  mark : Mark := {}
  deriving Repr

/-- Whether a character ends a line. -/
def isBreak (c : Char) : Bool :=
  c == '\n' || c == '\r' || c == '\x85' || c == '\u2028' || c == '\u2029'

/-- Whether a character separates without ending a line. -/
def isGap (c : Char) : Bool := c == ' ' || c == '\t'

/-- Whether a character may stand in the name of an anchor, a tag handle or a directive. -/
def isWordChar (c : Char) : Bool := c.isAlphanum || c == '_' || c == '-'

/-- Whether a text is over or goes on with a gap or a break. -/
def separates : List Char → Bool
  | [] => true
  | c :: _ => isGap c || isBreak c

/-- Whether a text begins with the three dashes or dots that start or end a document. -/
def startsDocumentMark : List Char → Bool
  | '-' :: '-' :: '-' :: r => separates r
  | '.' :: '.' :: '.' :: r => separates r
  | _ => false

/-- The mark after so many more characters of the line. -/
def Mark.advance (m : Mark) (n : Nat) : Mark := ⟨m.index + n, m.line, m.column + n⟩

/-- The mark at the start of the next line, after a break of so many characters. -/
def Mark.nextLine (m : Mark) (n : Nat) : Mark := ⟨m.index + n, m.line + 1, 0⟩

namespace Cursor

/-- The next character. -/
def peek? (c : Cursor) : Option Char := c.rest.head?

/-- Whether the text is over. -/
def isOver (c : Cursor) : Bool := c.rest.isEmpty

/-- Whether the next character is the given one. -/
def isAt (c : Cursor) (x : Char) : Bool := c.rest.head? == some x

/-- Whether the text is over or goes on with a gap or a break. -/
def atSeparator (c : Cursor) : Bool := separates c.rest

/-- Whether the line is over. -/
def atLineEnd (c : Cursor) : Bool := c.rest.head?.all isBreak

/-- Whether a line begins here with a document mark. -/
def atDocumentMark (c : Cursor) : Bool := c.mark.column == 0 && startsDocumentMark c.rest

/-- Passes over characters that are no breaks. -/
def skip (c : Cursor) (n : Nat) : Cursor := ⟨c.rest.drop n, c.mark.advance n⟩

/-- Takes the longest run of characters that satisfy a test and are no breaks. -/
def takeWhile (c : Cursor) (test : Char → Bool) : List Char × Cursor :=
  let run := c.rest.takeWhile test
  (run, c.skip run.length)

/-- Passes over the longest run of characters that satisfy a test and are no breaks. -/
def skipWhile (c : Cursor) (test : Char → Bool) : Cursor := (c.takeWhile test).2

/-- Passes over gaps. -/
def skipGaps (c : Cursor) : Cursor := c.skipWhile isGap

/-- Passes over the rest of the line. -/
def skipLine (c : Cursor) : Cursor := c.skipWhile (!isBreak ·)

/-- Passes over a comment. -/
def skipComment (c : Cursor) : Cursor := if c.isAt '#' then c.skipLine else c

/-- Takes a line break, as it counts in a scalar, if there is one. -/
def takeBreak (c : Cursor) : List Char × Cursor :=
  match c.rest with
  | '\r' :: '\n' :: r => (['\n'], ⟨r, c.mark.nextLine 2⟩)
  | x :: r =>
    if x == '\u2028' || x == '\u2029' then ([x], ⟨r, c.mark.nextLine 1⟩)
    else if isBreak x then (['\n'], ⟨r, c.mark.nextLine 1⟩)
    else ([], c)
  | [] => ([], c)

/-- Passes over a line break if there is one. -/
def skipBreak (c : Cursor) : Cursor := c.takeBreak.2

/-- Whether a line break comes next. -/
def atBreak (c : Cursor) : Bool := c.rest.head?.any isBreak

/-- Whether a gap comes next. -/
def atGap (c : Cursor) : Bool := c.rest.head?.any isGap

/-- Passes over gaps and a comment up to the end of the line; none if there is more on it. -/
def finishLine? (c : Cursor) : Option Cursor :=
  let c := c.skipGaps.skipComment
  if c.atLineEnd then some c.skipBreak else none

end Cursor

/-- Whether a character may stand in a text at all. -/
def isReadable (c : Char) : Bool :=
  let n := c.toNat
  n == 0x09 || n == 0x0A || n == 0x0D || (0x20 ≤ n && n ≤ 0x7E) || n == 0x85
    || (0xA0 ≤ n && n ≤ 0xFFFD) || 0x10000 ≤ n

/-- How many bytes come before the first character that may not stand in a text. -/
def unreadableAt? : Nat → List Char → Option Nat
  | _, [] => none
  | n, c :: r => if isReadable c then unreadableAt? (n + c.utf8Size) r else some n

/-- The cursor at the start of a text, after its byte order mark; or the fault that the text cannot
be read. -/
def Cursor.start (text : List Char) : Except Fault Cursor :=
  match unreadableAt? 0 text with
  | some bytes => .error { problem := .controlCharacter, place := .offset bytes }
  | none => .ok ⟨if text.head? == some '\uFEFF' then text.drop 1 else text, {}⟩

end Workday.Yaml
