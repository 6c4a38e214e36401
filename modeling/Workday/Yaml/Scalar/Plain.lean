import Workday.Yaml.Scalar

/-!
# Plain scalars

A plain scalar has no quotes. It ends at a colon that a separator follows, at a comment, at a
document mark, in a flow collection at one of its signs, and outside of one where the indentation
ends.
-/

set_option autoImplicit false

namespace Workday.Yaml

/-- Whether a character has a meaning of its own in flow collections. -/
def isFlowSign (c : Char) : Bool :=
  c == ',' || c == '[' || c == ']' || c == '{' || c == '}'

/-- Whether a word of a plain scalar ends here. -/
def endsWord (inFlow : Bool) : List Char → Bool
  | [] => true
  | ':' :: r => separates r
  | c :: _ => isGap c || isBreak c || (inFlow && isFlowSign c)

/-- Whether a colon comes next that may not stand there: in a flow collection, before a sign. -/
def misplacedColon (inFlow : Bool) : List Char → Bool
  | ':' :: c :: _ => inFlow && (isFlowSign c || c == '?')
  | _ => false

/-- The word of a plain scalar at the front of a text; none if a misplaced colon follows it. -/
def plainWord (inFlow : Bool) : List Char → List Char × Bool
  | [] => ([], false)
  | c :: r =>
    if misplacedColon inFlow (c :: r) then ([], true)
    else if endsWord inFlow (c :: r) then ([], false)
    else
      let (word, misplaced) := plainWord inFlow r
      (c :: word, misplaced)

/-- Reads the words of a plain scalar that follow `text`, whose last word ended at `stop` and which
`between` follows. -/
def plainWords (inFlow : Bool) (indent : Int) (start : Mark) :
    Nat → Cursor → List Char → Mark → Between → Except Fault ScalarRead
  | 0, c, text, stop, between => .ok ⟨⟨String.ofList text, .plain⟩, stop, c, between.crossesLines⟩
  | fuel + 1, c, text, stop, between =>
    let done := ScalarRead.mk ⟨String.ofList text, .plain⟩ stop c between.crossesLines
    if c.atDocumentMark || c.isAt '#' then .ok done
    else
      let (word, misplaced) := plainWord inFlow c.rest
      let after := c.skip word.length
      if misplaced then .error (.whileReading .plainScalar start .colonInPlainScalar after.mark)
      else
        let (text, stop, pending) :=
          if word.isEmpty then (text, stop, between)
          else (text ++ between.text ++ word, after.mark, Between.nothing)
        if !(after.atGap || after.atBreak) then
          .ok ⟨⟨String.ofList text, .plain⟩, stop, after, pending.crossesLines⟩
        else do
          let tabFault := fun (m : Mark) =>
            if (m.column : Int) < indent then
              some (Fault.whileReading .plainScalar start .tabInPlainScalar m)
            else none
          let (between, c) ← after.takeBetween tabFault after.rest.length pending
          if !inFlow && (c.mark.column : Int) < indent then
            .ok ⟨⟨String.ofList text, .plain⟩, stop, c, between.crossesLines⟩
          else plainWords inFlow indent start fuel c text stop between

/-- Reads a plain scalar, whose lines are indented at least up to a column. -/
def Cursor.plainScalar (c : Cursor) (inFlow : Bool) (indent : Int) : Except Fault ScalarRead :=
  plainWords inFlow indent c.mark (c.rest.length + 1) c [] c.mark .nothing

end Workday.Yaml
