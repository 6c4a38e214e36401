import Workday.Yaml.Scalar

/-!
# Block scalars

A block scalar is the indented lines after a bar or a greater-than sign. A header may give the
indentation and say what becomes of the line breaks at the end: one is kept, none, or all.
-/

set_option autoImplicit false

namespace Workday.Yaml

/-- Which line breaks at the end of a block scalar are kept. -/
inductive Chomping where
  | strip
  | clip
  | keep
  deriving DecidableEq, Repr

/-- What the sign of a chomping means. -/
def chomping? : Char → Option Chomping
  | '-' => some .strip
  | '+' => some .keep
  | _ => none

/-- Reads a sign of chomping if there is one. -/
def Cursor.takeChomping (c : Cursor) : Option Chomping × Cursor :=
  match c.peek?.bind chomping? with
  | some chomping => (some chomping, c.skip 1)
  | none => (none, c)

/-- Reads the digit of an indentation if there is one. -/
def Cursor.takeIndentation (c : Cursor) (start : Mark) : Except Fault (Option Nat × Cursor) :=
  match c.peek? with
  | some '0' => .error (.whileReading .blockScalar start .zeroIndentation c.mark)
  | some x => .ok (if x.isDigit then (some (x.toNat - '0'.toNat), c.skip 1) else (none, c))
  | none => .ok (none, c)

/-- Reads the two parts of a header, in either order. -/
def Cursor.takeBlockHeader (c : Cursor) (start : Mark) :
    Except Fault (Chomping × Option Nat × Cursor) := do
  match c.takeChomping with
  | (some chomping, c) =>
    let (indentation, c) ← c.takeIndentation start
    return (chomping, indentation, c)
  | (none, c) =>
    let (indentation, c) ← c.takeIndentation start
    if indentation.isNone then return (.clip, none, c)
    let (chomping, c) := c.takeChomping
    return (chomping.getD .clip, indentation, c)

/-- What comes before a line of a block scalar: the breaks of blank lines, the mark after the last
of them, and the deepest column that was reached. -/
structure BlankLines where
  breaks : List Char
  stop : Mark
  deepest : Nat
  cursor : Cursor

/-- Passes over blank lines, and the spaces of the next line up to the indentation, or all of its
spaces while that is not known. -/
def blankLines (start : Mark) (indent : Option Nat) :
    Nat → BlankLines → Except Fault BlankLines
  | 0, b => .ok b
  | fuel + 1, b =>
    let spaces := b.cursor.rest.takeWhile (· == ' ')
    let count := match indent with
      | some n => min spaces.length (n - b.cursor.mark.column)
      | none => spaces.length
    let c := b.cursor.skip count
    let deepest := max b.deepest c.mark.column
    let unindented := indent.all (c.mark.column < ·)
    if unindented && c.isAt '\t' then
      .error (.whileReading .blockScalar start .tabForIndentation c.mark)
    else if c.atBreak then
      let (x, c) := c.takeBreak
      blankLines start indent fuel ⟨b.breaks ++ x, c.mark, deepest, c⟩
    else .ok { b with deepest, cursor := c }

/-- Passes over blank lines from a cursor. -/
def Cursor.takeBlankLines (c : Cursor) (start : Mark) (indent : Option Nat) :
    Except Fault BlankLines :=
  blankLines start indent (c.rest.length + 1) ⟨[], c.mark, 0, c⟩

/-- What has been read of a block scalar: its text, the break after its last line, and the breaks
of the blank lines after that. -/
structure BlockText where
  text : List Char := []
  lastBreak : List Char := []
  blanks : List Char
  /-- Whether the last line began with a gap, which is never folded. -/
  indented : Bool := false

/-- What stands before the next line. In a folded scalar, a single break between two lines that do
not begin with a gap counts as a space. -/
def BlockText.join (b : BlockText) (folded startsWithGap : Bool) : List Char :=
  if folded && b.lastBreak == ['\n'] && !b.indented && !startsWithGap then
    if b.blanks.isEmpty then [' '] else b.blanks
  else b.lastBreak ++ b.blanks

/-- Reads the lines of a block scalar at an indentation. -/
def blockLines (folded : Bool) (start : Mark) (indent : Nat) :
    Nat → Cursor → Mark → BlockText → Except Fault (BlockText × Mark × Cursor)
  | 0, c, stop, b => .ok (b, stop, c)
  | fuel + 1, c, stop, b =>
    if c.mark.column != indent || c.isOver then .ok (b, stop, c)
    else do
      let startsWithGap := c.atGap
      let (line, c) := c.takeWhile (!isBreak ·)
      let (lastBreak, c) := c.takeBreak
      let blank ← c.takeBlankLines start (some indent)
      blockLines folded start indent fuel blank.cursor blank.stop
        ⟨b.text ++ b.join folded startsWithGap ++ line, lastBreak, blank.breaks, startsWithGap⟩

/-- What a block scalar ends with. -/
def BlockText.chomped (b : BlockText) : Chomping → List Char
  | .strip => b.text
  | .clip => b.text ++ b.lastBreak
  | .keep => b.text ++ b.lastBreak ++ b.blanks

/-- Reads a block scalar from its sign on, within a block that is indented to a column, which is
-1 outside of all blocks. -/
def Cursor.blockScalar (c : Cursor) (folded : Bool) (parent : Int) : Except Fault ScalarRead := do
  let start := c.mark
  let (chomping, indentation, c) ← (c.skip 1).takeBlockHeader start
  match c.finishLine? with
  | none => throw (.whileReading .blockScalar start .lineNotOver c.skipGaps.mark)
  | some c =>
    let known := indentation.map fun n => (max parent 0).toNat + n
    let first ← c.takeBlankLines start known
    let indent := known.getD (max first.deepest (max (parent + 1) 1).toNat)
    let (b, stop, c) ← blockLines folded start indent (c.rest.length + 1) first.cursor first.stop
      { blanks := first.breaks }
    let style := if folded then Style.folded else .literal
    return ⟨⟨String.ofList (b.chomped chomping), style⟩, stop, c, false⟩

end Workday.Yaml
