import Workday.Yaml.Document

/-!
# Reading values from documents

A reader takes a value of a wanted kind from a place of a document and says where it ends. Names
say where in the document a value is, and a fault is reported with them. Aliases are followed
wherever a value is wanted; what no one wants is passed over as it stands.
-/

set_option autoImplicit false

namespace Workday.Yaml

/-- Why a node is not what is wanted. -/
inductive Mismatch where
  | wrongKind (found : Meaning) (wanted : String)
  /-- A tag asks for something that the text is not. -/
  | mistagged (fault : Mistagged)
  | duplicateField (name : String)
  deriving DecidableEq, Repr

/-- The wording of a mismatch. -/
def Mismatch.message : Mismatch → String
  | wrongKind found wanted => "invalid type: " ++ found.describe ++ ", expected " ++ wanted
  | mistagged fault =>
    "invalid value: string " ++ Text.shown fault.text ++ ", expected " ++ fault.wanted
  | duplicateField name => "duplicate field \x60" ++ name ++ "\x60"

/-- Why a value cannot be read. -/
inductive ReadFault where
  | mismatch (mismatch : Mismatch) (path : List String) (mark : Mark)
  | document (fault : Document.Fault)
  | endOfDocument
  | severalDocuments
  deriving DecidableEq, Repr

/-- The wording of a fault. -/
def ReadFault.message : ReadFault → String
  | mismatch m path mark =>
    (if path.isEmpty then "" else ".".intercalate path ++ ": ") ++ m.message ++ atMark mark
  | document fault => fault.message
  | endOfDocument => "EOF while parsing a value"
  | severalDocuments =>
    "deserializing from YAML containing more than one document is not supported"

/-- Reads a value from a place that is known by names, and gives the place after it. -/
abbrev Reader (α : Type) := Document → List String → Spot → Except ReadFault (α × Spot)

/-- The next part. -/
def Spot.next (d : Document) (s : Spot) : Except ReadFault ((Part × Mark) × Spot) :=
  match s, d.fault with
  | part :: rest, _ => .ok (part, rest)
  | [], some fault => .error (.document fault)
  | [], none => .error .endOfDocument

namespace Reader

variable {α : Type}

/-- The fault that a node is not what is wanted. -/
def wrongKind (part : Part) (wanted : String) (path : List String) (mark : Mark) : ReadFault :=
  let found := match part with
    | .scalar tag scalar => meaning tag scalar
    | .sequenceStart | .sequenceEnd => .ok .sequence
    | .mappingStart | .mappingEnd => .ok .mapping
    | .aliasOf _ | .void => .ok .null
  match found with
  | .ok m => .mismatch (.wrongKind m wanted) path mark
  | .error fault => .mismatch (.mistagged fault) path mark

/-- Reads a value and makes another of it. -/
def map {β : Type} (f : α → β) (read : Reader α) : Reader β := fun d path spot => do
  let (value, rest) ← read d path spot
  return (f value, rest)

/-- Reads one node, which may be given by an alias. -/
def node (read : Document → List String → Part × Mark → Spot → Except ReadFault (α × Spot)) :
    Reader α := fun d path spot => do
  let (part, rest) ← spot.next d
  match part.1 with
  | .aliasOf anchor =>
    let (target, inner) ← (d.follow anchor).next d
    let (value, _) ← read d path target inner
    return (value, rest)
  | _ => read d path part rest

/-- Reads a text: a scalar of any style. -/
def text (wanted : String) : Reader String := node fun _ path (part, mark) rest =>
  match part with
  | .scalar _ scalar => .ok (scalar.value, rest)
  | part => .error (wrongKind part wanted path mark)

/-- Whether a scalar may be a number: it is plain, or a literal tagged as one. -/
def mayBeNumber (tag : Option String) (scalar : Scalar) : Bool :=
  scalar.style == .plain || (scalar.style == .literal && tag == some (standardTag "int"))

/-- The greatest natural number of 64 bits. -/
def mostNatural64 : Nat := 18446744073709551615

/-- Reads a natural number of at most 64 bits. -/
def natural64 : Reader Nat := node fun _ path (part, mark) rest =>
  let found := match part with
    | .scalar tag scalar =>
      if mayBeNumber tag scalar then (natural? scalar.value.toList).filter (· ≤ mostNatural64) else none
    | _ => none
  match found with
  | some n => .ok (n, rest)
  | none => .error (wrongKind part "u64" path mark)

/-- Whether a node stands for nothing. A plain scalar that is tagged as null must be null. -/
def isNothing (tag : Option String) (scalar : Scalar) : Except Mistagged Bool :=
  if scalar.style != .plain then .ok false
  else match tag with
    | none => .ok (scalar.value.isEmpty || isNull scalar.value)
    | some tag =>
      if tag != standardTag "null" then .ok false
      else if isNull scalar.value then .ok true
      else .error ⟨scalar.value, "null"⟩

/-- Reads a value or nothing. A fault of the tag counts for the section around it. -/
def optional (within : List String × Mark) (read : Reader α) : Reader (Option α) :=
  fun d path spot => do
  let (part, rest) ← spot.next d
  let shown ← match part.1 with
    | .aliasOf anchor => Prod.fst <$> (d.follow anchor).next d
    | _ => pure part
  let nothing ← match shown.1 with
    | .scalar tag scalar =>
      match isNothing tag scalar with
      | .ok b => pure b
      | .error fault => throw (.mismatch (.mistagged fault) within.1 within.2)
    | .void => pure true
    | _ => pure false
  if nothing then return (none, rest)
  let (value, rest) ← read d path spot
  return (some value, rest)

/-- Passes over a node, which starts at the given depth of open collections. -/
def skip (d : Document) : Nat → Nat → Spot → Except ReadFault Spot
  | 0, _, _ => .error .endOfDocument
  | fuel + 1, depth, spot => do
    let (part, rest) ← spot.next d
    let depth := match part.1 with
      | .sequenceStart | .mappingStart => depth + 1
      | .sequenceEnd | .mappingEnd => depth - 1
      | .aliasOf _ | .scalar .. | .void => depth
    if depth = 0 then return rest else skip d fuel depth rest

/-- A field of a section: its name, and how its value is read into what has been read so far. The
place of the section is known to it. -/
structure Field (α : Type) where
  name : String
  read : List String × Mark → α → Reader α

/-- A field whose value replaces a part of what has been read so far. -/
def field {β : Type} (name : String) (read : Reader β) (set : α → β → α) : Field α :=
  ⟨name, fun _ value => read.map (set value)⟩

/-- Reads the name of an entry, and how it is known in a path. -/
def entryName (d : Document) (path : List String) (spot : Spot) :
    Except ReadFault ((String × String) × Spot) := do
  let (part, _) ← spot.next d
  let (name, rest) ← text "field identifier" d path spot
  match part.1 with
  | .scalar .. => return ((name, name), rest)
  | _ => return ((name, "?"), rest)

/-- Reads the entries of a section up to its end. Each field may occur once; other entries are
passed over. -/
def entries (fields : List (Field α)) (d : Document) (path : List String) (mark : Mark) :
    Nat → List String → α → Spot → Except ReadFault (α × Spot)
  | 0, _, _, _ => .error .endOfDocument
  | fuel + 1, seen, value, spot => do
    let (part, rest) ← spot.next d
    if part.1 = .mappingEnd then return (value, rest)
    let ((name, step), rest) ← entryName d path spot
    match fields.find? (·.name == name) with
    | none =>
      let rest ← skip d (rest.length + 1) 0 rest
      entries fields d path mark fuel seen value rest
    | some field =>
      if seen.contains name then throw (.mismatch (.duplicateField name) path mark)
      let (value, rest) ← field.read (path, mark) value d (path ++ [step]) rest
      entries fields d path mark fuel (name :: seen) value rest

/-- Reads a section: a mapping, or nothing at all. Fields that do not occur stay as they are. -/
def fieldsOf (wanted : String) (fields : List (Field α)) (start : α) : Reader α :=
  node fun d path (part, mark) rest =>
  match part with
  | .mappingStart => entries fields d path mark (rest.length + 1) [] start rest
  | .void => .ok (start, rest)
  | .scalar _ scalar =>
    if scalar.style == .plain && scalar.value.isEmpty then .ok (start, rest)
    else .error (wrongKind part wanted path mark)
  | part => .error (wrongKind part wanted path mark)

/-- Reads the only document of a text. A fault after the value that is read still counts. -/
def run (read : Reader α) (text : String) : Except ReadFault α := do
  let d := Document.ofText text
  let (value, _) ← read d [] d.parts
  if let some fault := d.fault then throw (.document fault)
  if d.isFollowed then throw .severalDocuments
  return value

end Reader

end Workday.Yaml
