import Workday.Json.Fault

/-!
# Reading bytes from front to back

A cursor is what is left of a text and the mark that has been reached. A fault is reported at the
mark after the bytes that were read, or, for a byte that was only looked at, at the mark after it.
-/

set_option autoImplicit false

namespace Workday.Json

/-- What is left of a text, and where that begins. -/
structure Cursor where
  rest : List UInt8
  mark : Mark := {}
  deriving Repr

/-- The character of an ASCII byte; other bytes give characters past ASCII. -/
def byteChar (b : UInt8) : Char := Char.ofNat b.toNat

/-- The mark after a byte. -/
def Mark.after (m : Mark) (c : Char) : Mark :=
  if c == '\n' then ⟨m.line + 1, 0⟩ else ⟨m.line, m.column + 1⟩

/-- Whether a byte may stand between tokens. -/
def isSpace (c : Char) : Bool := c == ' ' || c == '\n' || c == '\t' || c == '\r'

namespace Cursor

/-- The next byte. -/
def peek? (c : Cursor) : Option Char := c.rest.head?.map byteChar

/-- Passes over the next byte. -/
def skip (c : Cursor) : Cursor :=
  match c.rest with
  | [] => c
  | b :: r => ⟨r, c.mark.after (byteChar b)⟩

/-- Passes over the bytes that satisfy a test. -/
def skipWhile (test : Char → Bool) (c : Cursor) : Cursor := go c.rest c.mark
where
  /-- Passes over bytes from a mark. -/
  go : List UInt8 → Mark → Cursor
    | [], m => ⟨[], m⟩
    | b :: r, m => if test (byteChar b) then go r (m.after (byteChar b)) else ⟨b :: r, m⟩

/-- Passes over the bytes between tokens. -/
def skipSpace (c : Cursor) : Cursor := c.skipWhile isSpace

/-- A problem after the bytes that were read. -/
def fail {α : Type} (c : Cursor) (problem : Problem) : Except Fault α := .error ⟨problem, c.mark⟩

/-- A problem with the next byte. -/
def failNext {α : Type} (c : Cursor) (problem : Problem) : Except Fault α := c.skip.fail problem

/-- Reads the rest of a word. -/
def takeWord (c : Cursor) : List Char → Except Fault Cursor
  | [] => .ok c
  | x :: word =>
    match c.peek? with
    | none => c.fail .endInValue
    | some y => if x == y then c.skip.takeWord word else c.skip.fail .noWord

end Cursor

end Workday.Json
