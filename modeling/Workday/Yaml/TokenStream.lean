import Workday.Yaml.Scalar.Block
import Workday.Yaml.Scalar.Plain
import Workday.Yaml.Tag

/-!
# The tokens of a text

Tokens are read one after another. Whether a token begins a mapping key shows only at the colon
after it, so its place is remembered until then: a key is held to one line and a limited length, and
at the indentation of a mapping there has to be one. `tokensOf` gives the tokens that can be relied
on, and the fault that stops the reading.
-/

set_option autoImplicit false

namespace Workday.Yaml

/-- A place where a key may have begun. -/
structure KeyPlace where
  /-- Whether only a key may stand there. -/
  required : Bool
  /-- How many tokens come before it. -/
  place : Nat
  mark : Mark
  deriving DecidableEq, Repr

/-- The longest way from the start of a key to its colon. -/
def maxKeyLength : Nat := 1024

/-- Whether a mark is too far on for the colon of a key. -/
def KeyPlace.isPast (k : KeyPlace) (m : Mark) : Bool :=
  k.mark.line < m.line || k.mark.index + maxKeyLength < m.index

/-- The fault that a required key is none. -/
def KeyPlace.fault (k : KeyPlace) (m : Mark) : Fault :=
  .whileReading .simpleKey k.mark .unfinishedKey m

/-- The tokens read so far and what is needed to read on. -/
structure TokenStream where
  cursor : Cursor
  tokens : List Token := []
  /-- The column of the innermost block, -1 outside of all. -/
  indent : Int := -1
  /-- The columns of the blocks around it, innermost first. -/
  outerIndents : List Int := []
  /-- Where a key may have begun in the innermost flow collection. -/
  key : Option KeyPlace := none
  /-- Where a key may have begun around each flow collection, innermost first. -/
  outerKeys : List (Option KeyPlace) := []
  /-- Whether a key may begin here. -/
  keyAllowed : Bool := true

namespace TokenStream

/-- Whether the cursor is within a flow collection. -/
def inFlow (s : TokenStream) : Bool := !s.outerKeys.isEmpty

/-- Adds a token at the end. -/
def push (s : TokenStream) (token : Token) : TokenStream :=
  { s with tokens := s.tokens ++ [token] }

/-- Adds a token without characters of its own. -/
def pushAt (s : TokenStream) (kind : TokenKind) (mark : Mark) : TokenStream :=
  s.push ⟨kind, mark, mark⟩

/-- Adds a token for the next characters. -/
def pushSign (s : TokenStream) (kind : TokenKind) (length : Nat) : TokenStream :=
  let after := s.cursor.skip length
  { s with cursor := after }.push ⟨kind, s.cursor.mark, after.mark⟩

/-- Adds a token that was read, and goes on after it. -/
def pushRead (s : TokenStream) (token : Token) (after : Cursor) : TokenStream :=
  { s with cursor := after }.push token

/-- Opens a block at a column if it is deeper than the innermost one. Its token goes before the
tokens of its first key if those have been read already. -/
def openBlock (s : TokenStream) (kind : TokenKind) (mark : Mark) (place : Nat) : TokenStream :=
  if s.inFlow || (mark.column : Int) ≤ s.indent then s
  else
    { s with
      tokens := s.tokens.insertIdx place ⟨kind, mark, mark⟩
      indent := mark.column
      outerIndents := s.indent :: s.outerIndents }

/-- Leaves the blocks that are deeper than a column: their number and the columns that remain. -/
def leave (column : Int) : Int → List Int → Nat × Int × List Int
  | indent, outer :: rest =>
    if column < indent then
      let (count, remaining) := leave column outer rest
      (count + 1, remaining)
    else (0, indent, outer :: rest)
  | indent, [] => (0, indent, [])

/-- Closes the blocks that are deeper than a column. -/
def closeBlocks (s : TokenStream) (column : Int) : TokenStream :=
  if s.inFlow then s
  else
    let (count, indent, outerIndents) := leave column s.indent s.outerIndents
    let mark := s.cursor.mark
    { s with
      tokens := s.tokens ++ List.replicate count ⟨.blockEnd, mark, mark⟩
      indent, outerIndents }

/-- Gives up a key that may have begun here, unless one is required. -/
def dropKey (s : TokenStream) : Except Fault TokenStream :=
  match s.key with
  | some k => if k.required then .error (k.fault s.cursor.mark) else .ok { s with key := none }
  | none => .ok s

/-- Remembers that a key may begin here, if one may. -/
def saveKey (s : TokenStream) : Except Fault TokenStream :=
  if s.keyAllowed then do
    let s ← s.dropKey
    let required := !s.inFlow && s.indent == (s.cursor.mark.column : Int)
    return { s with key := some ⟨required, s.tokens.length, s.cursor.mark⟩ }
  else .ok s

/-- Gives up the keys that are too far back, unless one is required. -/
def expireKeys (s : TokenStream) : Except Fault TokenStream :=
  let mark := s.cursor.mark
  let isPast := fun (k : KeyPlace) => k.isPast mark
  match (s.key :: s.outerKeys).findSome? (·.filter fun k => isPast k && k.required) with
  | some k => .error (k.fault mark)
  | none =>
    let kept := fun (k : Option KeyPlace) => k.filter (!isPast ·)
    .ok { s with key := kept s.key, outerKeys := s.outerKeys.map kept }

/-- Passes over spaces, comments and line breaks. Tabs are passed over where no key may begin. -/
def skipBlanks : Nat → TokenStream → TokenStream
  | 0, s => s
  | fuel + 1, s =>
    let c := s.cursor
    let c := if c.mark.index == 0 && c.isAt '\uFEFF' then c.skip 1 else c
    let tabs := s.inFlow || !s.keyAllowed
    let c := (c.skipWhile fun x => x == ' ' || (tabs && x == '\t')).skipComment
    if c.atBreak then
      skipBlanks fuel { s with cursor := c.skipBreak, keyAllowed := s.keyAllowed || !s.inFlow }
    else { s with cursor := c }

/-- Ends the text, on a line of its own. -/
def endStream (s : TokenStream) : Except Fault TokenStream := do
  let m := s.cursor.mark
  let mark := if m.column == 0 then m else ⟨m.index, m.line + 1, 0⟩
  let s ← ({ s with cursor := { s.cursor with mark } }.closeBlocks (-1)).dropKey
  return { s with keyAllowed := false }.pushAt .streamEnd mark

/-- Reads a directive. -/
def directive (s : TokenStream) : Except Fault TokenStream := do
  let s ← (s.closeBlocks (-1)).dropKey
  let (token, after) ← s.cursor.takeDirective
  return { s with keyAllowed := false }.pushRead token after

/-- Reads the mark that starts or ends a document. -/
def documentMark (s : TokenStream) (kind : TokenKind) : Except Fault TokenStream := do
  let s ← (s.closeBlocks (-1)).dropKey
  return { s with keyAllowed := false }.pushSign kind 3

/-- Opens a flow collection. -/
def openFlow (s : TokenStream) (kind : TokenKind) : Except Fault TokenStream := do
  let s ← s.saveKey
  return { s with key := none, outerKeys := s.key :: s.outerKeys, keyAllowed := true }.pushSign kind 1

/-- Closes a flow collection. -/
def closeFlow (s : TokenStream) (kind : TokenKind) : Except Fault TokenStream := do
  let s ← s.dropKey
  let s := match s.outerKeys with
    | key :: outerKeys => { s with key, outerKeys }
    | [] => s
  return { s with keyAllowed := false }.pushSign kind 1

/-- Reads the comma between the entries of a flow collection. -/
def flowEntry (s : TokenStream) : Except Fault TokenStream := do
  let s ← s.dropKey
  return { s with keyAllowed := true }.pushSign .flowEntry 1

/-- Opens a block at the sign that comes next, which must stand where a key may begin. -/
def openBlockHere (s : TokenStream) (kind : TokenKind) (problem : Problem) :
    Except Fault TokenStream :=
  if s.inFlow then .ok s
  else if !s.keyAllowed then .error (.found problem s.cursor.mark)
  else .ok (s.openBlock kind s.cursor.mark s.tokens.length)

/-- Reads the dash of a sequence entry. -/
def blockEntry (s : TokenStream) : Except Fault TokenStream := do
  let s ← s.openBlockHere .blockSequenceStart .entryNotAllowed
  let s ← s.dropKey
  return { s with keyAllowed := true }.pushSign .blockEntry 1

/-- Reads the question mark before a key. -/
def keySign (s : TokenStream) : Except Fault TokenStream := do
  let s ← s.openBlockHere .blockMappingStart .keyNotAllowed
  let s ← s.dropKey
  return { s with keyAllowed := !s.inFlow }.pushSign .key 1

/-- Reads the colon before a value. If a key may have begun before it, one did. -/
def valueSign (s : TokenStream) : Except Fault TokenStream :=
  match s.key with
  | some k =>
    let s := { s with
      tokens := s.tokens.insertIdx k.place ⟨.key, k.mark, k.mark⟩, key := none, keyAllowed := false }
    .ok ((s.openBlock .blockMappingStart k.mark k.place).pushSign .value 1)
  | none => do
    let s ← s.openBlockHere .blockMappingStart .valueNotAllowed
    return { s with keyAllowed := !s.inFlow }.pushSign .value 1

/-- Reads a token that a key may begin with. -/
def keyPart (s : TokenStream) (read : TokenStream → TokenRead) : Except Fault TokenStream := do
  let s ← s.saveKey
  let (token, after) ← read s
  return { s with keyAllowed := false }.pushRead token after

/-- Adds a scalar that was read. A key may begin after the line breaks that follow it. -/
def pushScalar (s : TokenStream) (r : ScalarRead) (keyAllowed : Bool) : TokenStream :=
  { s with keyAllowed }.pushRead ⟨.scalar r.scalar, s.cursor.mark, r.stop⟩ r.cursor

/-- Reads a plain scalar. -/
def plainScalar (s : TokenStream) : Except Fault TokenStream := do
  let s ← s.saveKey
  let r ← s.cursor.plainScalar s.inFlow (s.indent + 1)
  return s.pushScalar r r.crossedLines

/-- Reads a quoted scalar. -/
def quotedScalar (s : TokenStream) (single : Bool) : Except Fault TokenStream := do
  let s ← s.saveKey
  return s.pushScalar (← s.cursor.quotedScalar single) false

/-- Reads a block scalar. -/
def blockScalar (s : TokenStream) (folded : Bool) : Except Fault TokenStream := do
  let s ← s.dropKey
  return s.pushScalar (← s.cursor.blockScalar folded s.indent) true

/-- Reads the token that begins with a character, which comes before the rest. -/
def tokenFrom (s : TokenStream) (x : Char) (rest : List Char) : Except Fault TokenStream :=
  let alone := s.inFlow || separates rest
  match x with
  | '[' => s.openFlow .flowSequenceStart
  | '{' => s.openFlow .flowMappingStart
  | ']' => s.closeFlow .flowSequenceEnd
  | '}' => s.closeFlow .flowMappingEnd
  | ',' => s.flowEntry
  | '-' => if separates rest then s.blockEntry else s.plainScalar
  | '?' => if alone then s.keySign else s.plainScalar
  | ':' => if alone then s.valueSign else s.plainScalar
  | '*' => s.keyPart fun s => s.cursor.takeAnchor true
  | '&' => s.keyPart fun s => s.cursor.takeAnchor false
  | '!' => s.keyPart fun s => s.cursor.takeTag s.inFlow
  | '|' => if s.inFlow then noToken else s.blockScalar false
  | '>' => if s.inFlow then noToken else s.blockScalar true
  | '\'' => s.quotedScalar true
  | '"' => s.quotedScalar false
  | '%' | '@' | '\x60' | '\t' => noToken
  | _ => s.plainScalar
where
  /-- The character cannot begin a token. -/
  noToken : Except Fault TokenStream :=
    .error (.whileReading .nextToken s.cursor.mark .noToken s.cursor.mark)

/-- Reads the next token. -/
def next (s : TokenStream) : Except Fault TokenStream := do
  let s ← (s.skipBlanks (s.cursor.rest.length + 1)).expireKeys
  let s := s.closeBlocks s.cursor.mark.column
  let s ← match s.cursor.rest with
    | [] => s.endStream
    | x :: rest =>
      if s.cursor.mark.column == 0 && x == '%' then s.directive
      else if s.cursor.atDocumentMark then
        s.documentMark (if x == '-' then .documentStart else .documentEnd)
      else s.tokenFrom x rest
  s.expireKeys

/-- The tokens whose meaning no later token can change. -/
def settled (s : TokenStream) : List Token :=
  let places := (s.key :: s.outerKeys).filterMap (·.map KeyPlace.place)
  s.tokens.take (places.foldl min s.tokens.length)

/-- Reads all tokens. -/
def run : Nat → TokenStream → List Token × Option Fault
  | 0, s => (s.settled, none)
  | fuel + 1, s =>
    match s.next with
    | .error fault => (s.settled, some fault)
    | .ok after =>
      if after.tokens.getLast?.any (·.kind == .streamEnd) then (after.tokens, none)
      else run fuel after

end TokenStream

/-- The tokens of a text up to its end or to the first fault. -/
def tokensOf (text : List Char) : List Token × Option Fault :=
  match Cursor.start text with
  | .error fault => ([], some fault)
  | .ok cursor => TokenStream.run (text.length + 1) { cursor }

end Workday.Yaml
