import Workday.FileTree

/-!
# Writing to file trees

A file is opened for appending by a path. If that fails, the directories on the way are made and it
is tried once more. What was made stays even if the second attempt fails.
-/

set_option autoImplicit false

namespace Workday.FileTree

/-- The same tree with another entry at a place. -/
def put (t : FileTree) (place : Place) (entry : Entry) : FileTree :=
  { t with entries := (place, entry) :: t.entries }

/-- Where a file is to be: the path to its directory, and its own name. -/
structure Target where
  directory : String
  name : String
  deriving DecidableEq, Repr

namespace Target

/-- Whether a name counts for nothing at the end of a path. -/
def isIdle (name : String) : Bool := name == "" || name == "."

/-- The file that a path is for. A path whose last name leads to a directory is for none; empty names
and single dots at the end, and before the name of the file, count for nothing. -/
def ofPath? (path : String) : Option Target :=
  match (names path).reverse.dropWhile isIdle with
  | [] => none
  | name :: before =>
    if name == ".." then none
    else
      match (before.dropWhile isIdle).reverse with
      | [] => some ⟨if isAbsolute path then "/" else ".", name⟩
      | directories => some ⟨"/".intercalate directories, name⟩

/-- The path to the file. -/
def path (target : Target) : String := joined target.directory target.name

/-- The names that lead to the directory of the file. -/
def directories (target : Target) : List String := names target.directory

end Target

/-- The place where the way to a file starts. -/
def start (t : FileTree) (target : Target) : Place := t.origin target.directory

/-- Opens the file of a name in the directory at a place, a new one if there is none: its place, and
the tree that holds it. -/
def openIn (t : FileTree) (name : String) (place : Place) : Except Fault (Place × FileTree) :=
  match t.lookup place with
  | none => .error .missing
  | some (.file _ _) => .error .notDirectory
  | some (.directory rights) =>
    if !rights.search then .error .denied
    else if !isName name then .error .nameTooLong
    else
      match t.lookup (place ++ [name]) with
      | some (.directory _) => .error .isDirectory
      | some (.file _ own) => if own.write then .ok (place ++ [name], t) else .error .denied
      | none =>
        if rights.write then .ok (place ++ [name], t.put (place ++ [name]) (.file []))
        else .error .denied

/-- Opens a file whose directories are all there. -/
def openDirectly (t : FileTree) (target : Target) : Except Fault (Place × FileTree) :=
  match pathFault? target.path with
  | some fault => .error fault
  | none => do t.openIn target.name (← target.directories.foldlM t.enter (t.start target))

/-- Makes a directory at a place below a directory. -/
def makeDirectory (t : FileTree) (place : Place) (name : String) : Except Fault FileTree :=
  match t.lookup place with
  | some (.directory rights) =>
    if rights.write then .ok (t.put (place ++ [name]) (.directory {})) else .error .denied
  | _ => .error .missing

/-- Follows names from a place and makes a directory of each name that leads nowhere. The deepest
directory is asked for first and the ones above it only if they are missing, so a file in the way is
taken for an existing entry if the way ends there or something has been made before it. -/
def makeDirectories (t : FileTree) (place : Place) (hasMade : Bool) :
    List String → Except Fault Unit × FileTree
  | [] => (.ok (), t)
  | name :: rest =>
    match t.enter place name with
    | .ok next =>
      match t.lookup next with
      | some (.directory _) => t.makeDirectories next hasMade rest
      | _ => (.error (if hasMade || rest.isEmpty then .occupied else .notDirectory), t)
    | .error .missing =>
      match t.makeDirectory place name with
      | .ok made => made.makeDirectories (place ++ [name]) true rest
      | .error fault => (.error fault, t)
    | .error fault => (.error fault, t)

/-- Makes the directories on the way to a file, as far as they are missing. -/
def makeWay (t : FileTree) (target : Target) : Except Fault Unit × FileTree :=
  match pathFault? target.directory with
  | some fault => (.error fault, t)
  | none => t.makeDirectories (t.start target) false target.directories

/-- Why a file is not open: what was being done, and why that failed. -/
structure OpenFault where
  context : String
  cause : Fault
  deriving DecidableEq, Repr

/-- The fault as a report of the program's inner state tells it. -/
def OpenFault.report (fault : OpenFault) : String :=
  "InitError \x7b context: \"" ++ fault.context ++ "\", source: " ++ fault.cause.report ++ " \x7d"

/-- Opens a file for appending, and makes the directories on the way if it cannot be opened without:
its place if it is open, and the tree after. -/
def openForAppend (t : FileTree) (target : Target) : Except OpenFault Place × FileTree :=
  match t.openDirectly target with
  | .ok (place, opened) => (.ok place, opened)
  | .error _ =>
    match t.makeWay target with
    | (.error cause, made) => (.error ⟨"failed to create log directory", cause⟩, made)
    | (.ok (), made) =>
      match made.openDirectly target with
      | .ok (place, opened) => (.ok place, opened)
      | .error cause => (.error ⟨"failed to create initial log file", cause⟩, made)

/-- Appends bytes to the file at a place. -/
def append (t : FileTree) (place : Place) (bytes : List UInt8) : FileTree :=
  match t.lookup place with
  | some (.file held rights) => t.put place (.file (held ++ bytes) rights)
  | _ => t

end Workday.FileTree
