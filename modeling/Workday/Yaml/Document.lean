import Workday.Yaml.Meaning

/-!
# Documents

A document is its nodes in the order in which they are written, with the places that anchors name.
What follows a fault is missing, and the fault counts only for a reader that gets so far. An alias
is known by number: an anchor has the number of anchor names before it.
-/

set_option autoImplicit false

namespace Workday.Yaml

/-- A part of a document. -/
inductive Part where
  | aliasOf (anchor : Nat)
  | scalar (tag : Option String) (scalar : Scalar)
  | sequenceStart
  | sequenceEnd
  | mappingStart
  | mappingEnd
  /-- The content of a text without a document. -/
  | void
  deriving DecidableEq, Repr

/-- Why a document is cut short. -/
inductive Document.Fault where
  | text (fault : Yaml.Fault)
  /-- An alias for an anchor that no node before it has. -/
  | unknownAnchor (mark : Mark)
  deriving DecidableEq, Repr

/-- A mark as a message gives it; the start of the text is left out. -/
def atMark (m : Mark) : String := if m.isStart then "" else " at " ++ m.format

/-- The wording of a fault. -/
def Document.Fault.message : Document.Fault → String
  | text fault => fault.message
  | unknownAnchor mark => "unknown anchor" ++ atMark mark

/-- What is left of a document from a place on. -/
abbrev Spot := List (Part × Mark)

/-- A document. -/
structure Document where
  parts : Spot := []
  /-- The numbers of the anchors, and how many parts come before the node of each. -/
  places : List (Nat × Nat) := []
  /-- Why it is cut short. -/
  fault : Option Document.Fault := none
  /-- Whether the text goes on after it, with another document or with a fault. -/
  isFollowed : Bool := false

namespace Document

/-- The document read so far, with the numbers of its anchor names, the latest first. -/
structure Draft where
  document : Document := {}
  names : List (String × Nat) := []

/-- Adds a part. -/
def Draft.add (d : Draft) (part : Part) (mark : Mark) : Draft :=
  { d with document := { d.document with parts := d.document.parts ++ [(part, mark)] } }

/-- How many anchor names there are. -/
def Draft.nameCount (d : Draft) : Nat := (d.names.map Prod.fst).eraseDups.length

/-- Adds a node, which may have an anchor. -/
def Draft.addNode (d : Draft) (anchor : Option String) (part : Part) (mark : Mark) : Draft :=
  match anchor with
  | none => d.add part mark
  | some name =>
    let number := d.nameCount
    let places := (number, d.document.parts.length) :: d.document.places
    { d with document := { d.document with places }, names := (name, number) :: d.names }.add part mark

/-- Whether a text is over after a document. -/
def isLast (events : List (Event × Mark)) : Bool :=
  match events with
  | (.streamEnd, _) :: _ => true
  | _ => false

/-- Reads the first document of a stream of events. -/
def ofEvents (fault : Option Yaml.Fault) : Draft → List (Event × Mark) → Document
  | d, [] => { d.document with fault := fault.map .text }
  | d, (event, mark) :: rest =>
    match event with
    | .documentStart => ofEvents fault d rest
    | .documentEnd => { d.document with isFollowed := !isLast rest }
    | .streamEnd => (d.add .void mark).document
    | .aliasOf name =>
      match d.names.lookup name with
      | some number => ofEvents fault (d.add (.aliasOf number) mark) rest
      | none => { d.document with fault := some (.unknownAnchor mark) }
    | .scalar properties scalar =>
      ofEvents fault (d.addNode properties.anchor (.scalar properties.tag scalar) mark) rest
    | .sequenceStart properties => ofEvents fault (d.addNode properties.anchor .sequenceStart mark) rest
    | .sequenceEnd => ofEvents fault (d.add .sequenceEnd mark) rest
    | .mappingStart properties => ofEvents fault (d.addNode properties.anchor .mappingStart mark) rest
    | .mappingEnd => ofEvents fault (d.add .mappingEnd mark) rest

/-- Reads the first document of a text. -/
def ofText (text : String) : Document :=
  let (events, fault) := eventsOf text.toList
  ofEvents fault {} events

/-- The place of an anchor. -/
def follow (d : Document) (anchor : Nat) : Spot :=
  d.parts.drop ((d.places.lookup anchor).getD 0)

end Document

end Workday.Yaml
