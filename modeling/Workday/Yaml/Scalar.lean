import Workday.Yaml.Cursor

/-!
# Scalars

A scalar is a text in one of five styles. Between the words of a plain or quoted scalar, gaps are
kept within a line; a single line break counts as a space, and of more breaks the first is dropped.
-/

set_option autoImplicit false

namespace Workday.Yaml

/-- How a scalar is written. -/
inductive Style where
  | plain
  | singleQuoted
  | doubleQuoted
  | literal
  | folded
  deriving DecidableEq, Repr

/-- A text and how it was written. -/
structure Scalar where
  value : String
  style : Style
  deriving DecidableEq, Repr

/-- A scalar that was read: itself, where it ends, and the cursor after all that was looked at. -/
structure ScalarRead where
  scalar : Scalar
  stop : Mark
  cursor : Cursor
  /-- Whether line breaks follow the scalar that were passed over with it. -/
  crossedLines : Bool := false

/-- What stands between two words: gaps within a line, or line breaks. -/
inductive Between where
  | gaps (xs : List Char)
  /-- The first break, which is empty after an escaped one, and the breaks after it. -/
  | breaks (first : List Char) (others : List Char)
  deriving DecidableEq, Repr

namespace Between

/-- Nothing between. -/
def nothing : Between := .gaps []

/-- Whether there are line breaks. -/
def crossesLines : Between → Bool
  | .gaps _ => false
  | .breaks .. => true

/-- One more gap; after a break, gaps do not count. -/
def addGap (b : Between) (x : Char) : Between :=
  match b with
  | .gaps xs => .gaps (xs ++ [x])
  | .breaks first others => .breaks first others

/-- One more break. -/
def addBreak (b : Between) (x : List Char) : Between :=
  match b with
  | .gaps _ => .breaks x []
  | .breaks first others => .breaks first (others ++ x)

/-- The text that stands for it. -/
def text : Between → List Char
  | .gaps xs => xs
  | .breaks first others =>
    if first == ['\n'] then (if others.isEmpty then [' '] else others) else first ++ others

end Between

/-- Passes over gaps and breaks. A tab at the start of a line is refused where the line must be
indented up to a column. -/
def Cursor.takeBetween (tabFault : Mark → Option Fault) : Nat → Cursor → Between →
    Except Fault (Between × Cursor)
  | 0, c, b => .ok (b, c)
  | fuel + 1, c, b =>
    if c.atBreak then
      let (x, c) := c.takeBreak
      c.takeBetween tabFault fuel (b.addBreak x)
    else match c.peek? with
      | some x =>
        if !isGap x then .ok (b, c)
        else if let some fault := (if b.crossesLines && x == '\t' then tabFault c.mark else none) then
          .error fault
        else (c.skip 1).takeBetween tabFault fuel (b.addGap x)
      | none => .ok (b, c)

end Workday.Yaml
