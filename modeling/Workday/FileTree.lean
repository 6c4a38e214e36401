import Workday.Text

/-!
# File trees

Files and directories, found by paths from the root or from a working directory. A path is followed
name by name: each name but the last has to lead to a directory that may be searched, and so has the
last one if a slash follows it. There are no links, so the names alone tell where a path would lead;
the tree tells whether it gets there.
-/

set_option autoImplicit false

namespace Workday

open Workday.Text (decodeUtf8? splitAt utf8)

/-- The names that lead from the root to a file or a directory. -/
abbrev Place := List String

namespace FileTree

/-- What the program may do with a file or a directory. For a directory, to write is to make entries in
it, and to search is to follow names from it. -/
structure Rights where
  read : Bool := true
  write : Bool := true
  search : Bool := true
  deriving DecidableEq, Repr

/-- What stands at a place. -/
inductive Entry where
  | file (bytes : List UInt8) (rights : Rights := {})
  | directory (rights : Rights := {})
  deriving DecidableEq, Repr

/-- Why the system refuses to do something with a path. -/
inductive Fault where
  | missing
  | denied
  | occupied
  | notDirectory
  | isDirectory
  | nameTooLong
  | nulByte
  | notUtf8
  deriving DecidableEq, Repr

/-- How a fault is worded: the number that the system has for it, if the fault is one of the system's,
the name of its kind, and a text. -/
structure Fault.Wording where
  code : Option Nat := none
  kind : String
  text : String

/-- The wording of a fault. -/
def Fault.wording : Fault → Fault.Wording
  | missing => ⟨some 2, "NotFound", "No such file or directory"⟩
  | denied => ⟨some 13, "PermissionDenied", "Permission denied"⟩
  | occupied => ⟨some 17, "AlreadyExists", "File exists"⟩
  | notDirectory => ⟨some 20, "NotADirectory", "Not a directory"⟩
  | isDirectory => ⟨some 21, "IsADirectory", "Is a directory"⟩
  | nameTooLong => ⟨some 36, "InvalidFilename", "File name too long"⟩
  | nulByte => ⟨none, "InvalidInput", "file name contained an unexpected NUL byte"⟩
  | notUtf8 => ⟨none, "InvalidData", "stream did not contain valid UTF-8"⟩

/-- A fault as a message tells it. -/
def Fault.message (fault : Fault) : String :=
  let w := fault.wording
  match w.code with
  | some code => w.text ++ " (os error " ++ toString code ++ ")"
  | none => w.text

/-- A fault as a report of the program's inner state tells it. -/
def Fault.report (fault : Fault) : String :=
  let w := fault.wording
  match w.code with
  | some code => "Os \x7b code: " ++ toString code ++ ", kind: " ++ w.kind ++ ", message: \"" ++
      w.text ++ "\" \x7d"
  | none => "Error \x7b kind: " ++ w.kind ++ ", message: \"" ++ w.text ++ "\" \x7d"

end FileTree

/-- Files and directories. The directories on the way to an entry need no entry of their own. -/
structure FileTree where
  entries : List (Place × FileTree.Entry) := []
  workingDirectory : Place := []
  deriving Repr

namespace FileTree

/-- What stands at a place. -/
def lookup (t : FileTree) (place : Place) : Option Entry :=
  match t.entries.lookup place with
  | some entry => some entry
  | none =>
    if place.isEmpty || t.entries.any (fun (other, _) => place.isPrefixOf other) then
      some (.directory {})
    else none

/-! ## Paths -/

/-- The names in a path. A path from the root begins with an empty name. -/
def names (path : String) : List String :=
  (splitAt (· == '/') path.toList).map String.ofList

/-- Whether a path starts at the root. -/
def isAbsolute (path : String) : Bool := path.toList.head? == some '/'

/-- The path to a name in a directory. -/
def joined (directory name : String) : String :=
  if directory.toList.getLast? == some '/' then directory ++ name else directory ++ "/" ++ name

/-- The place where a path starts. -/
def origin (t : FileTree) (path : String) : Place :=
  if isAbsolute path then [] else t.workingDirectory

/-- The place that a path from the root without dots is for. -/
def place (path : String) : Place := (names path).filter (!·.isEmpty)

/-- Where one name leads from a place, told by the name alone. -/
def follow (place : Place) (name : String) : Place :=
  if name == "" || name == "." then place
  else if name == ".." then place.dropLast
  else place ++ [name]

/-- The places that names lead through from a place, told by the names alone. -/
def route (place : Place) : List String → List Place
  | [] => [place]
  | name :: rest => place :: route (follow place name) rest

/-- The longest name, in bytes. -/
def nameLimit : Nat := 255

/-- The longest path, in bytes. -/
def pathLimit : Nat := 4095

/-- Whether a name is short enough. -/
def isName (name : String) : Bool := (utf8 name).length ≤ nameLimit

/-- What is wrong with a path before anything is looked at. -/
def pathFault? (path : String) : Option Fault :=
  if path.toList.contains '\x00' then some .nulByte
  else if pathLimit < (utf8 path).length then some .nameTooLong
  else none

/-! ## Looking things up -/

/-- Follows one name from a place. An empty name is not looked up. -/
def enter (t : FileTree) (place : Place) (name : String) : Except Fault Place :=
  match t.lookup place with
  | none => .error .missing
  | some (.file _ _) => .error .notDirectory
  | some (.directory rights) =>
    if name == "" then .ok place
    else if !rights.search then .error .denied
    else if !isName name then .error .nameTooLong
    else if (t.lookup (follow place name)).isSome then .ok (follow place name)
    else .error .missing

/-- The place that a path leads to, if it leads anywhere. The empty path leads nowhere. -/
def find (t : FileTree) (path : String) : Except Fault Place :=
  match pathFault? path with
  | some fault => .error fault
  | none =>
    if path.isEmpty then .error .missing else (names path).foldlM t.enter (t.origin path)

/-- Whether a path leads anywhere. -/
def has (t : FileTree) (path : String) : Bool := (t.find path).isOk

/-- The text of what stands at a place. A directory can be opened, but has none. -/
def textAt (t : FileTree) (place : Place) : Except Fault String :=
  match t.lookup place with
  | none => .error .missing
  | some (.directory rights) => .error (if rights.read then .isDirectory else .denied)
  | some (.file bytes rights) =>
    if rights.read then
      match decodeUtf8? bytes with
      | some text => .ok text
      | none => .error .notUtf8
    else .error .denied

/-- The text of the file that a path leads to. -/
def readText (t : FileTree) (path : String) : Except Fault String := do
  t.textAt (← t.find path)

end FileTree

end Workday
