import Workday.Json.Number
import Workday.Json.Text
import Workday.Text.Printable

/-!
# Decoding

A decoder reads one value of a wanted kind. A record is an object whose members may come in any
order, each known one at most once, or a list of its fields in order; members that no one knows are
passed over, but have to be well-formed.
-/

set_option autoImplicit false

namespace Workday.Json

/-- Reads a value of a wanted kind, and gives the cursor after it. -/
abbrev Decoder (α : Type) := Cursor → Except Fault (α × Cursor)

namespace Cursor

/-- Passes over the space before a value, which has to follow. -/
def beforeValue (c : Cursor) : Except Fault (Char × Cursor) :=
  let c := c.skipSpace
  match c.peek? with
  | some x => .ok (x, c)
  | none => c.failNext .endInValue

/-- The fault that the next value is not of the wanted kind. Scalars are read for it. -/
def wrongKind {α : Type} (c : Cursor) (x : Char) (wanted : String) : Except Fault α := do
  let (found, c) ← found
  c.fail (.wrongKind found wanted)
where
  /-- What the next value is, as a message names it. -/
  found : Except Fault (String × Cursor) := do
    match x with
    | 'n' => return ("null", ← c.skip.takeWord "ull".toList)
    | 't' => return ("boolean \x60true\x60", ← c.skip.takeWord "rue".toList)
    | 'f' => return ("boolean \x60false\x60", ← c.skip.takeWord "alse".toList)
    | '"' =>
      let (text, c) ← c.skip.takeString
      return ("string " ++ Workday.Text.shown text, c)
    | '[' => return ("sequence", c)
    | '{' => return ("map", c)
    | '-' =>
      let (n, c) ← c.skip.takeNumber true
      return (n.describe, c)
    | _ =>
      if x.isDigit then
        let (n, c) ← c.takeNumber false
        return (n.describe, c)
      else c.failNext .noValue

end Cursor

/-- Decodes a string and goes on with its text. -/
def stringWith {α : Type} (wanted : String) (read : String → Except String α) : Decoder α :=
  fun c => do
  let (x, c) ← c.beforeValue
  if x != '"' then c.wrongKind x wanted
  else
    let (text, c) ← c.skip.takeString
    match read text with
    | .ok value => return (value, c)
    | .error message => c.fail (.refused message)

/-- Decodes a string. -/
def string : Decoder String := stringWith "a string" .ok

/-- Decodes a truth value. -/
def boolean : Decoder Bool := fun c => do
  let (x, c) ← c.beforeValue
  match x with
  | 't' => return (true, ← c.skip.takeWord "rue".toList)
  | 'f' => return (false, ← c.skip.takeWord "alse".toList)
  | x => c.wrongKind x "a boolean"

/-- Passes over the comma before an element, if there is one more. The first one has no comma. -/
def Cursor.nextElement (c : Cursor) (first : Bool) : Except Fault (Bool × Cursor) :=
  let c := c.skipSpace
  match c.peek? with
  | none => c.failNext .endInList
  | some ']' => .ok (false, c)
  | some x =>
    if first then .ok (true, c)
    else if x != ',' then c.failNext .noListCommaOrEnd
    else
      let c := c.skip.skipSpace
      match c.peek? with
      | none => c.failNext .endInValue
      | some ']' => c.failNext .trailingComma
      | some _ => .ok (true, c)

/-- Passes over the comma and the opening quote before a name, if there is one more member. The
first one has no comma. -/
def Cursor.nextMember (c : Cursor) (first : Bool) : Except Fault (Bool × Cursor) :=
  let c := c.skipSpace
  match c.peek? with
  | none => c.failNext .endInObject
  | some '}' => .ok (false, c)
  | some x =>
    if first then (if x == '"' then .ok (true, c.skip) else c.failNext .keyNotString)
    else if x != ',' then c.failNext .noObjectCommaOrEnd
    else
      let c := c.skip.skipSpace
      match c.peek? with
      | none => c.failNext .endInValue
      | some '"' => .ok (true, c.skip)
      | some '}' => c.failNext .trailingComma
      | some _ => c.failNext .keyNotString

/-- Passes over the colon after a name. -/
def Cursor.takeColon (c : Cursor) : Except Fault Cursor :=
  let c := c.skipSpace
  match c.peek? with
  | none => c.failNext .endInObject
  | some ':' => .ok c.skip
  | some _ => c.failNext .noColon

/-- Passes over the end of a list, before which nothing may be left. -/
def Cursor.endList (c : Cursor) : Except Fault Cursor :=
  let c := c.skipSpace
  match c.peek? with
  | none => c.failNext .endInList
  | some ']' => .ok c.skip
  | some ',' =>
    let c := c.skip.skipSpace
    c.failNext (if c.peek? == some ']' then .trailingComma else .trailingCharacters)
  | some _ => c.failNext .trailingCharacters

/-- Decodes the elements of a list up to its end, after those that have been decoded, the latest
first. -/
def elements {α : Type} (element : Decoder α) : Nat → Bool → List α → Decoder (List α)
  | 0, _, _ => fun c => c.fail .endInList
  | fuel + 1, first, values => fun c => do
    let (more, c) ← c.nextElement first
    if !more then return (values.reverse, c)
    let (value, c) ← element c
    elements element fuel false (value :: values) c

/-- Decodes a list. -/
def list {α : Type} (element : Decoder α) : Decoder (List α) := fun c => do
  let (x, c) ← c.beforeValue
  if x != '[' then c.wrongKind x "a sequence"
  else
    let (values, c) ← elements element c.rest.length true [] c.skip
    return (values, ← c.endList)

/-- A collection that is being passed over. -/
inductive Enclosing where
  | list
  | object
  deriving DecidableEq, Repr

namespace Cursor

/-- Passes over a scalar, or over the sign that opens a collection. -/
def skipScalar (c : Cursor) (x : Char) : Except Fault (Option Enclosing × Cursor) := do
  match x with
  | 'n' => return (none, ← c.skip.takeWord "ull".toList)
  | 't' => return (none, ← c.skip.takeWord "rue".toList)
  | 'f' => return (none, ← c.skip.takeWord "alse".toList)
  | '"' => return (none, ← c.skip.skipString)
  | '-' => return (none, ← c.skip.skipNumber)
  | '[' => return (some .list, c.skip)
  | '{' => return (some .object, c.skip)
  | x => if x.isDigit then return (none, ← c.skipNumber) else c.failNext .noValue

/-- Passes over the name and the colon of a member, if a member comes next. -/
def skipName (c : Cursor) (within : Enclosing) : Except Fault Cursor :=
  if within == .list then .ok c
  else
    let c := c.skipSpace
    match c.peek? with
    | none => c.failNext .endInObject
    | some '"' => do (← c.skip.skipString).takeColon
    | some _ => c.failNext .keyNotString

/-- Passes over the ends of collections after a value or an opening sign, up to where a further
value begins, if one does. -/
def closeValue : Nat → List Enclosing → Bool → Cursor → Except Fault (List Enclosing × Cursor)
  | 0, _, _, c => c.fail .endInValue
  | _ + 1, [], _, c => .ok ([], c)
  | fuel + 1, within :: outer, afterValue, c =>
    let c := c.skipSpace
    match c.peek? with
    | none => c.failNext (match within with | .list => .endInList | .object => .endInObject)
    | some x =>
      if x == (match within with | .list => ']' | .object => '}') then
        closeValue fuel outer true c.skip
      else if !afterValue then .ok (within :: outer, c)
      else if x == ',' then .ok (within :: outer, c.skip)
      else c.failNext (match within with
        | .list => .noListCommaOrEnd
        | .object => .noObjectCommaOrEnd)

/-- Passes over values until all collections are closed. -/
def skipValues : Nat → List Enclosing → Cursor → Except Fault Cursor
  | 0, _, c => c.fail .endInValue
  | fuel + 1, outer, c => do
    let (x, c) ← c.beforeValue
    let (opened, c) ← c.skipScalar x
    let (outer, c) ← closeValue (outer.length + 2) (opened.toList ++ outer) opened.isNone c
    match outer with
    | [] => return c
    | within :: _ => skipValues fuel outer (← c.skipName within)

/-- Passes over a value. -/
def skipValue (c : Cursor) : Except Fault Cursor := skipValues (c.rest.length + 1) [] c

end Cursor

/-- A field of a record: its name, whether it has been read, whether it may be missing, and how it
is read into the record. -/
structure Field (δ : Type) where
  name : String
  isRead : δ → Bool
  mayBeMissing : Bool := false
  read : δ → Decoder δ

/-- A record: how messages name it, its fields, what has been read of it at first, and what it
gives when all has been read. -/
structure Shape (α δ : Type) where
  wanted : String
  fields : List (Field δ)
  start : δ
  finish : δ → Option α

namespace Shape

variable {α δ : Type}

/-- Where an object ends that a fault was found in after a name: after its brace if it comes next. -/
def endOfObject (c : Cursor) : Cursor :=
  let c := c.skipSpace
  if c.peek? == some '}' then c.skip else c

/-- Decodes the members of an object up to its end. -/
def members (shape : Shape α δ) : Nat → Bool → δ → Decoder δ
  | 0, _, _ => fun c => c.fail .endInObject
  | fuel + 1, first, value => fun c => do
    let (more, c) ← c.nextMember first
    if !more then return (value, c)
    let (name, c) ← c.takeString
    match shape.fields.find? (·.name == name) with
    | none => shape.members fuel false value (← (← c.takeColon).skipValue)
    | some field =>
      if field.isRead value then (endOfObject c).fail (.duplicateField name)
      else
        let (value, c) ← field.read value (← c.takeColon)
        shape.members fuel false value c

/-- Decodes the elements of a list as the fields of a record, counted from `i`. -/
def positions (shape : Shape α δ) : List (Field δ) → Nat → δ → Decoder δ
  | [], _, value => fun c => .ok (value, c)
  | field :: fields, i, value => fun c => do
    let (more, c) ← c.nextElement (i == 0)
    if more then
      let (value, c) ← field.read value c
      shape.positions fields (i + 1) value c
    else if field.mayBeMissing then shape.positions fields (i + 1) value c
    else
      let count := shape.fields.length
      c.skip.fail (.wrongLength i (shape.wanted ++ " with " ++ toString count
        ++ (if count == 1 then " element" else " elements")))

/-- Ends a record: all fields that may not be missing have been read. -/
def close (shape : Shape α δ) (value : δ) : Decoder α := fun c =>
  match shape.fields.find? fun field => !field.mayBeMissing && !field.isRead value with
  | some field => c.fail (.missingField field.name)
  | none =>
    match shape.finish value with
    | some result => .ok (result, c)
    | none => c.fail .noValue

/-- Decodes a record. -/
def decoder (shape : Shape α δ) : Decoder α := fun c => do
  let (x, c) ← c.beforeValue
  match x with
  | '{' =>
    let (value, c) ← shape.members (c.rest.length + 1) true shape.start c.skip
    shape.close value c.skip
  | '[' =>
    let (value, c) ← shape.positions shape.fields 0 shape.start c.skip
    let c ← c.endList
    shape.close value c
  | x => c.wrongKind x shape.wanted

end Shape

/-- Decodes all of a text. -/
def decode {α : Type} (decoder : Decoder α) (bytes : List UInt8) : Except Fault α := do
  let (value, c) ← decoder { rest := bytes }
  let c := c.skipSpace
  if c.rest.isEmpty then return value else c.failNext .trailingCharacters

end Workday.Json
