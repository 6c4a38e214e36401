import Workday.Yaml.TokenStream

/-!
# The events of a text

The nodes of a document in the order in which they are written, collections with a start and an end.
`eventsOf` gives the events up to the end of the text or to the first fault. What is read of a
collection is a state; the states of the collections around it wait in order.
-/

set_option autoImplicit false

namespace Workday.Yaml

/-- What stands before a node. -/
structure Properties where
  anchor : Option String := none
  /-- The tag in full. -/
  tag : Option String := none
  deriving DecidableEq, Repr

/-- A part of a stream of documents. -/
inductive Event where
  | streamEnd
  | documentStart
  | documentEnd
  | aliasOf (name : String)
  | scalar (properties : Properties) (scalar : Scalar)
  | sequenceStart (properties : Properties)
  | sequenceEnd
  | mappingStart (properties : Properties)
  | mappingEnd
  deriving DecidableEq, Repr

/-- What may come next. Within a collection, where it began is known. -/
inductive Expected where
  /-- A document; the first one needs no mark. -/
  | document (first : Bool)
  /-- The content of a document, which may be missing after a mark. -/
  | content (mayBeMissing : Bool)
  | documentEnd
  | blockEntry (start : Mark)
  /-- An entry of a sequence that is no deeper than the mapping around it. -/
  | flatEntry
  | blockKey (start : Mark)
  | blockValue (start : Mark)
  | flowEntry (first : Bool) (start : Mark)
  /-- The key of a mapping that is one entry of a flow sequence. -/
  | pairKey (start : Mark)
  | pairValue (start : Mark)
  | pairEnd (start : Mark)
  | flowKey (first : Bool) (start : Mark)
  | flowValue (start : Mark)
  /-- The value of a key without a colon. -/
  | noFlowValue (start : Mark)
  | nothing
  deriving DecidableEq, Repr

/-- The tokens that are left, and what they may be. -/
structure EventStream where
  tokens : List Token
  /-- Why there are no further tokens, if the text is not over. -/
  fault : Option Fault
  expected : Expected := .document true
  /-- What may come after the collections that are open, innermost first. -/
  outer : List Expected := []
  /-- The tag handles of the document and what they stand for. -/
  handles : List (String × String) := []

/-- An event, where it begins, and the rest of the stream. -/
abbrev EventRead := Except Fault ((Event × Mark) × EventStream)

namespace EventStream

/-- The next token. -/
def peek (s : EventStream) : Except Fault Token :=
  match s.tokens, s.fault with
  | token :: _, _ => .ok token
  | [], some fault => .error fault
  | [], none => .ok ⟨.streamEnd, {}, {}⟩

/-- Passes over the next token. -/
def drop (s : EventStream) : EventStream := { s with tokens := s.tokens.tail }

/-- An event after which something may come. -/
def give (s : EventStream) (event : Event) (mark : Mark) (expected : Expected) : EventRead :=
  .ok ((event, mark), { s with expected })

/-- A node that is not written. -/
def giveEmpty (s : EventStream) (mark : Mark) (expected : Expected) : EventRead :=
  s.give (.scalar {} ⟨"", .plain⟩) mark expected

/-- The start of a collection, of which something may come first, and after which something may
come. -/
def giveStart (s : EventStream) (event : Event) (mark : Mark) (first after : Expected) :
    EventRead :=
  .ok ((event, mark), { s with expected := first, outer := after :: s.outer })

/-- The end of a collection. -/
def giveEnd (s : EventStream) (event : Event) (mark : Mark) : EventRead :=
  .ok ((event, mark), { s with expected := s.outer.headD .nothing, outer := s.outer.tail })

/-- The anchor and the tag before a node, as written, and where the tag stands. -/
structure Written where
  anchor : Option String := none
  tag : Option (Tag × Mark) := none

/-- Reads the anchor and the tag before a node, in either order. -/
def takeProperties (s : EventStream) : Except Fault (Written × EventStream) := do
  let first ← s.peek
  match first.kind with
  | .anchor name =>
    let second ← s.drop.peek
    match second.kind with
    | .tag tag => return (⟨some name, some (tag, second.start)⟩, s.drop.drop)
    | _ => return (⟨some name, none⟩, s.drop)
  | .tag tag =>
    let second ← s.drop.peek
    match second.kind with
    | .anchor name => return (⟨some name, some (tag, first.start)⟩, s.drop.drop)
    | _ => return (⟨none, some (tag, first.start)⟩, s.drop)
  | _ => return ({}, s)

/-- The tag in full. -/
def resolveTag (s : EventStream) (start : Mark) : Option (Tag × Mark) →
    Except Fault (Option String)
  | none => .ok none
  | some (tag, mark) =>
    if tag.handle.isEmpty then .ok (some tag.suffix)
    else match s.handles.lookup tag.handle with
      | some full => .ok (some (full ++ tag.suffix))
      | none => .error (.whileReading .node start .undefinedHandle mark)

/-- Reads the next event of a node. A block may begin only where blocks may stand. -/
def node (s : EventStream) (inBlock flatAllowed : Bool) (after : Expected) : EventRead := do
  let first ← s.peek
  let start := first.start
  if let .aliasOf name := first.kind then return ← s.drop.give (.aliasOf name) start after
  let (written, s) ← s.takeProperties
  let properties := ⟨written.anchor, ← s.resolveTag start written.tag⟩
  let token ← s.peek
  let other : EventRead :=
    if written.anchor.isSome || written.tag.isSome then
      s.give (.scalar properties ⟨"", .plain⟩) start after
    else
      .error (.whileReading (if inBlock then .blockNode else .flowNode) start .noNode token.start)
  match token.kind with
  | .blockEntry =>
    if flatAllowed then s.giveStart (.sequenceStart properties) start .flatEntry after else other
  | .scalar scalar =>
    let tag := properties.tag.filter (· != "!")
    s.drop.give (.scalar { properties with tag } scalar) start after
  | .flowSequenceStart =>
    s.drop.giveStart (.sequenceStart properties) start (.flowEntry true token.start) after
  | .flowMappingStart =>
    s.drop.giveStart (.mappingStart properties) start (.flowKey true token.start) after
  | .blockSequenceStart =>
    if inBlock then
      s.drop.giveStart (.sequenceStart properties) start (.blockEntry token.start) after
    else other
  | .blockMappingStart =>
    if inBlock then
      s.drop.giveStart (.mappingStart properties) start (.blockKey token.start) after
    else other
  | _ => other

/-- The tag handles that every document knows. -/
def standardHandles : List (String × String) := [("!", "!"), ("!!", "tag:yaml.org,2002:")]

/-- Reads the directives before a document. -/
def directives : Nat → EventStream → Bool → Except Fault EventStream
  | 0, s, _ => .ok s
  | fuel + 1, s, hasVersion => do
    let token ← s.peek
    match token.kind with
    | .versionDirective major minor =>
      if hasVersion then throw (.found .duplicateVersion token.start)
      if major != 1 || (minor != 1 && minor != 2) then throw (.found .otherVersion token.start)
      directives fuel s.drop true
    | .tagDirective handle replacement =>
      if (s.handles.lookup handle).isSome then throw (.found .duplicateHandle token.start)
      directives fuel { s.drop with handles := s.handles ++ [(handle, replacement)] } hasVersion
    | _ => return { s with handles := s.handles ++ standardHandles }

/-- Whether a token stands before a document. -/
def beginsDocument : TokenKind → Bool
  | .versionDirective .. | .tagDirective .. | .documentStart | .streamEnd => true
  | _ => false

/-- Reads the start of a document, or the end of the text. -/
def document (s : EventStream) (first : Bool) : EventRead := do
  let s := if first then s else { s with tokens := s.tokens.dropWhile (·.kind == .documentEnd) }
  let token ← s.peek
  if first && !beginsDocument token.kind then
    let s := { s with handles := standardHandles }
    s.give .documentStart token.start (.content false)
  else if token.kind == .streamEnd then s.give .streamEnd token.start .nothing
  else
    let s ← directives (s.tokens.length + 1) s false
    let mark ← s.peek
    if mark.kind != .documentStart then throw (.found .noDocumentStart mark.start)
    s.drop.give .documentStart token.start (.content true)

/-- Reads the next event of the content of a document. -/
def content (s : EventStream) (mayBeMissing : Bool) : EventRead := do
  let token ← s.peek
  if mayBeMissing && (beginsDocument token.kind || token.kind == .documentEnd) then
    s.giveEmpty token.start .documentEnd
  else s.node true false .documentEnd

/-- Reads the end of a document, which needs no mark. -/
def documentEnd (s : EventStream) : EventRead := do
  let token ← s.peek
  let s := if token.kind == .documentEnd then s.drop else s
  { s with handles := [] }.give .documentEnd token.start (.document false)

/-- Reads the next entry of a block sequence. -/
def blockEntry (s : EventStream) (start : Mark) : EventRead := do
  let token ← s.peek
  match token.kind with
  | .blockEntry =>
    let next ← s.drop.peek
    match next.kind with
    | .blockEntry | .blockEnd => s.drop.giveEmpty token.stop (.blockEntry start)
    | _ => s.drop.node true false (.blockEntry start)
  | .blockEnd => s.drop.giveEnd .sequenceEnd token.start
  | _ => throw (.whileReading .blockSequence start .noDash token.start)

/-- Reads the next entry of a sequence that is no deeper than the mapping around it. -/
def flatEntry (s : EventStream) : EventRead := do
  let token ← s.peek
  match token.kind with
  | .blockEntry =>
    let next ← s.drop.peek
    match next.kind with
    | .blockEntry | .key | .value | .blockEnd => s.drop.giveEmpty token.stop .flatEntry
    | _ => s.drop.node true false .flatEntry
  | _ => s.giveEnd .sequenceEnd token.start

/-- Reads the next key of a block mapping. -/
def blockKey (s : EventStream) (start : Mark) : EventRead := do
  let token ← s.peek
  match token.kind with
  | .key =>
    let next ← s.drop.peek
    match next.kind with
    | .key | .value | .blockEnd => s.drop.giveEmpty token.stop (.blockValue start)
    | _ => s.drop.node true true (.blockValue start)
  | .blockEnd => s.drop.giveEnd .mappingEnd token.start
  | _ => throw (.whileReading .blockMapping start .noKey token.start)

/-- Reads the value of a key of a block mapping. -/
def blockValue (s : EventStream) (start : Mark) : EventRead := do
  let token ← s.peek
  match token.kind with
  | .value =>
    let next ← s.drop.peek
    match next.kind with
    | .key | .value | .blockEnd => s.drop.giveEmpty token.stop (.blockKey start)
    | _ => s.drop.node true true (.blockKey start)
  | _ => s.giveEmpty token.start (.blockKey start)

/-- Passes over the comma before an entry of a flow collection, which the first one has none of. -/
def separator (s : EventStream) (first : Bool) (fault : Mark → Fault) :
    Except Fault EventStream := do
  if first then return s
  let token ← s.peek
  if token.kind == .flowEntry then return s.drop else throw (fault token.start)

/-- Reads the next entry of a flow sequence. -/
def flowEntry (s : EventStream) (first : Bool) (start : Mark) : EventRead := do
  let token ← s.peek
  if token.kind == .flowSequenceEnd then s.drop.giveEnd .sequenceEnd token.start
  else
    let s ← s.separator first (.whileReading .flowSequence start .noCommaOrBracket)
    let token ← s.peek
    match token.kind with
    | .key => s.drop.giveStart (.mappingStart {}) token.start (.pairKey start) (.flowEntry false start)
    | .flowSequenceEnd => s.drop.giveEnd .sequenceEnd token.start
    | _ => s.node false false (.flowEntry false start)

/-- Reads the key of a mapping that is one entry of a flow sequence. -/
def pairKey (s : EventStream) (start : Mark) : EventRead := do
  let token ← s.peek
  match token.kind with
  | .value | .flowEntry | .flowSequenceEnd => s.drop.giveEmpty token.stop (.pairValue start)
  | _ => s.node false false (.pairValue start)

/-- Reads the value of a mapping that is one entry of a flow sequence. -/
def pairValue (s : EventStream) (start : Mark) : EventRead := do
  let token ← s.peek
  if token.kind == .value then
    let next ← s.drop.peek
    match next.kind with
    | .flowEntry | .flowSequenceEnd => s.drop.giveEmpty next.start (.pairEnd start)
    | _ => s.drop.node false false (.pairEnd start)
  else s.giveEmpty token.start (.pairEnd start)

/-- Reads the end of a mapping that is one entry of a flow sequence. -/
def pairEnd (s : EventStream) : EventRead := do
  let token ← s.peek
  s.giveEnd .mappingEnd token.start

/-- Reads the next key of a flow mapping. -/
def flowKey (s : EventStream) (first : Bool) (start : Mark) : EventRead := do
  let token ← s.peek
  if token.kind == .flowMappingEnd then s.drop.giveEnd .mappingEnd token.start
  else
    let s ← s.separator first (.whileReading .flowMapping start .noCommaOrBrace)
    let token ← s.peek
    match token.kind with
    | .key =>
      let next ← s.drop.peek
      match next.kind with
      | .value | .flowEntry | .flowMappingEnd => s.drop.giveEmpty next.start (.flowValue start)
      | _ => s.drop.node false false (.flowValue start)
    | .flowMappingEnd => s.drop.giveEnd .mappingEnd token.start
    | _ => s.node false false (.noFlowValue start)

/-- Reads the value of a key of a flow mapping. -/
def flowValue (s : EventStream) (start : Mark) : EventRead := do
  let token ← s.peek
  if token.kind == .value then
    let next ← s.drop.peek
    match next.kind with
    | .flowEntry | .flowMappingEnd => s.drop.giveEmpty next.start (.flowKey false start)
    | _ => s.drop.node false false (.flowKey false start)
  else s.giveEmpty token.start (.flowKey false start)

/-- Gives the value of a key without a colon. -/
def noFlowValue (s : EventStream) (start : Mark) : EventRead := do
  let token ← s.peek
  s.giveEmpty token.start (.flowKey false start)

/-- Reads the next event. -/
def next (s : EventStream) : EventRead :=
  match s.expected with
  | .document first => s.document first
  | .content mayBeMissing => s.content mayBeMissing
  | .documentEnd => s.documentEnd
  | .blockEntry start => s.blockEntry start
  | .flatEntry => s.flatEntry
  | .blockKey start => s.blockKey start
  | .blockValue start => s.blockValue start
  | .flowEntry first start => s.flowEntry first start
  | .pairKey start => s.pairKey start
  | .pairValue start => s.pairValue start
  | .pairEnd _ => s.pairEnd
  | .flowKey first start => s.flowKey first start
  | .flowValue start => s.flowValue start
  | .noFlowValue start => s.noFlowValue start
  | .nothing => .ok ((.streamEnd, {}), s)

/-- Reads all events. -/
def run : Nat → EventStream → List (Event × Mark) × Option Fault
  | 0, _ => ([], none)
  | fuel + 1, s =>
    match s.next with
    | .error fault => ([], some fault)
    | .ok (event, s) =>
      if event.1 == .streamEnd then ([event], none)
      else
        let (events, fault) := run fuel s
        (event :: events, fault)

end EventStream

/-- The events of a text with their marks, up to its end or to the first fault. -/
def eventsOf (text : List Char) : List (Event × Mark) × Option Fault :=
  let (tokens, fault) := tokensOf text
  EventStream.run (4 * tokens.length + 8) { tokens, fault }

end Workday.Yaml
