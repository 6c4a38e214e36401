import Workday.Url

/-!
# Reading URLs

`Url.read` reads an absolute URL from a text; `Url.resolve` reads a reference relative to a URL. The
grammar is the one browsers use: blanks and controls at both ends and all tabs and line breaks are
dropped, backslashes count as slashes in the special schemes, and the segments `.` and `..` are
followed as they are read.
-/

set_option autoImplicit false

namespace Workday.Url

open Workday.Text (splitAt)

/-- The characters that are read: without controls and spaces at the ends, and without tabs and
line breaks anywhere. -/
def significant (s : String) : List Char :=
  let trimmed := (s.toList.dropWhile (·.toNat ≤ 0x20)).reverse.dropWhile (·.toNat ≤ 0x20)
  trimmed.reverse.filter fun c => c != '\t' && c != '\n' && c != '\r'

/-- Whether a character may stand in a scheme after its first letter. -/
def isSchemeChar (c : Char) : Bool :=
  c.isAlphanum || c == '+' || c == '-' || c == '.'

/-- A scheme in lower case and what follows its colon, if the text begins with one. -/
def readScheme (s : List Char) : Option (String × List Char) :=
  let name := s.takeWhile isSchemeChar
  match s.drop name.length with
  | ':' :: r =>
    if name.head?.any Char.isAlpha then some (String.ofList (name.map Char.toLower), r) else none
  | _ => none

/-- Whether a character ends an authority. -/
def endsAuthority (special : Bool) (c : Char) : Bool :=
  c == '/' || c == '?' || c == '#' || (special && c == '\\')

/-- Cuts a list before the first element that satisfies a test. -/
def cutAt (test : Char → Bool) (s : List Char) : List Char × List Char :=
  (s.takeWhile (!test ·), s.dropWhile (!test ·))

/-- Cuts an authority after its last `@`. -/
def splitUserInfo (authority : List Char) : Option (List Char × List Char) :=
  match authority.reverse.span (· != '@') with
  | (host, '@' :: info) => some (info.reverse, host.reverse)
  | _ => none

/-- The user name and the password, encoded. -/
def readUserInfo (info : List Char) : String × String :=
  let (name, r) := cutAt (· == ':') info
  (String.ofList (percentEncode .userInfo name), String.ofList (percentEncode .userInfo (r.drop 1)))

/-- Cuts a host off a port at the first colon outside brackets. -/
def splitPort (inBrackets : Bool) : List Char → List Char × List Char
  | [] => ([], [])
  | c :: r =>
    if c == ':' && !inBrackets then ([], c :: r)
    else
      let (host, port) := splitPort (if c == '[' then true else if c == ']' then false else inBrackets) r
      (c :: host, port)

/-- A port after its colon; none if it is empty or the scheme's own. -/
def readPort (scheme : String) (s : List Char) : Except Fault (Option Nat) :=
  match s with
  | ':' :: digits =>
    let port := Workday.Text.digitsValue digits
    if !digits.all Char.isDigit || 65535 < port then .error .invalidPort
    else .ok (if digits.isEmpty || some port == ownPort? scheme then none else some port)
  | _ => .ok none

/-- What an authority holds. -/
structure Authority where
  username : String
  password : String
  host : Host
  port : Option Nat

/-- Reads an authority, and is told whether more follows it. Where it has user information, a host
must follow. -/
def readAuthority (scheme : String) (authority : List Char) (more : Bool) :
    Except Fault Authority := do
  let special := isSpecial scheme
  let (info, rest) := (splitUserInfo authority).getD ([], authority)
  let hasAt := (splitUserInfo authority).isSome
  let (hostText, portText) := splitPort false rest
  if hasAt && info.isEmpty && rest.isEmpty && more then throw .emptyHost
  if special && hostText.isEmpty then throw .emptyHost
  let host ← if special then Host.read hostText else Host.readOpaque hostText
  if hostText.isEmpty && !portText.isEmpty then throw .emptyHost
  let port ← readPort scheme portText
  let (username, password) := readUserInfo info
  if hostText.isEmpty && !(username.isEmpty && password.isEmpty) then throw .emptyHost
  return ⟨username, password, host, port⟩

/-- Whether a segment stands for the place it is at. -/
def isSingleDot (segment : List Char) : Bool :=
  let s := segment.map Char.toLower
  s == ['.'] || s == ['%', '2', 'e']

/-- Whether a segment stands for the place above. -/
def isDoubleDot (segment : List Char) : Bool :=
  let s := String.ofList (segment.map Char.toLower)
  s == ".." || s == ".%2e" || s == "%2e." || s == "%2e%2e"

/-- Whether a segment names a drive: a letter and a colon or a bar. -/
def isDrive (segment : List Char) : Bool :=
  match segment with
  | [a, b] => a.isAlpha && (b == ':' || b == '|')
  | _ => false

/-- Goes up one place; the drive of a file is not left. -/
def goUp (isFile : Bool) (names : List String) : List String :=
  match names with
  | [name] => if isFile && isDrive name.toList then [name] else []
  | names => names.dropLast

/-- Follows segments from a place. -/
def follow (isFile : Bool) : List String → List (List Char) → List String
  | names, [] => names
  | names, segment :: rest =>
    let encoded := percentEncode .path segment
    if isDoubleDot encoded then
      let up := goUp isFile names
      if rest.isEmpty then up ++ [""] else follow isFile up rest
    else if isSingleDot encoded then
      if rest.isEmpty then names ++ [""] else follow isFile names rest
    else
      let segment := if isFile && names.isEmpty && isDrive segment then segment.take 1 ++ [':'] else encoded
      follow isFile (names ++ [String.ofList segment]) rest

/-- The segments of a path from a place; a file's path does not begin with empty ones. -/
def readSegments (scheme : String) (start : List String) (s : List Char) : Path :=
  let special := isSpecial scheme
  let isFile := scheme == "file"
  let names := follow isFile start (splitAt (fun c => c == '/' || (special && c == '\\')) s)
  if isFile then
    match names.dropWhile (·.isEmpty) with
    | [] => .segments [""]
    | names => .segments names
  else .segments names

/-- Drops one leading slash. -/
def dropSlash (special : Bool) : List Char → List Char
  | '/' :: r => r
  | '\\' :: r => if special then r else '\\' :: r
  | s => s

/-- The path after an authority. It is empty only where the scheme is not special and nothing
follows. -/
def readPathStart (scheme : String) (s : List Char) : Path :=
  let special := isSpecial scheme
  if s.isEmpty && !special then .segments [] else readSegments scheme [] (dropSlash special s)

/-- The query and the fragment, encoded. -/
def readTail (scheme : String) (s : List Char) : Option String × Option String :=
  let (front, fragment) := cutAt (· == '#') s
  let set := if isSpecial scheme then EncodeSet.specialQuery else EncodeSet.query
  let query := match front with
    | '?' :: r => some (String.ofList (percentEncode set r))
    | _ => none
  let fragment := match fragment with
    | '#' :: r => some (String.ofList (percentEncode .fragment r))
    | _ => none
  (query, fragment)

/-- Whether a character ends a path. -/
def endsPath (c : Char) : Bool := c == '?' || c == '#'

/-- Reads what follows the two slashes before an authority. -/
def readAfterSlashes (scheme : String) (s : List Char) : Except Fault Url := do
  let (authority, r) := cutAt (endsAuthority (isSpecial scheme)) s
  let a ← readAuthority scheme authority (!r.isEmpty)
  let (path, tail) := cutAt endsPath r
  let (query, fragment) := readTail scheme tail
  return ⟨scheme, a.username, a.password, some a.host, a.port, readPathStart scheme path, query,
    fragment⟩

/-- Whether a character counts as a slash in the special schemes. -/
def isSlash (c : Char) : Bool := c == '/' || c == '\\'

/-- Reads the host of a file: none for `localhost`, and none where a drive stands. -/
def readFileHost (s : List Char) : Except Fault (Host × List Char) := do
  let (name, r) := cutAt (endsAuthority true) s
  if name.isEmpty then return (.domain "", r)
  if isDrive name then return (.domain "", s)
  let host ← Host.read name
  return (if host == .domain "localhost" then .domain "" else host, r)

/-- Reads the URL of a file after its scheme. -/
def readFile (s : List Char) : Except Fault Url := do
  let (host, r) ← match s with
    | a :: b :: r => if isSlash a && isSlash b then readFileHost r else pure (Host.domain "", s)
    | _ => pure (Host.domain "", s)
  let (path, tail) := cutAt endsPath r
  let (query, fragment) := readTail "file" tail
  return ⟨"file", "", "", some host, none, readPathStart "file" path, query, fragment⟩

/-- Reads a URL without an authority after its scheme. -/
def readRooted (scheme : String) (s : List Char) : Url :=
  let (path, tail) := cutAt endsPath s
  let (query, fragment) := readTail scheme tail
  let path := match path with
    | '/' :: r => readSegments scheme [] r
    | text => .opaqueText (String.ofList (percentEncode .control text))
  ⟨scheme, "", "", none, none, path, query, fragment⟩

/-- Reads a URL after its scheme. -/
def readWithScheme (scheme : String) (s : List Char) : Except Fault Url :=
  if scheme == "file" then readFile s
  else if isSpecial scheme then readAfterSlashes scheme (s.dropWhile isSlash)
  else match s with
    | '/' :: '/' :: r => readAfterSlashes scheme r
    | s => .ok (readRooted scheme s)

/-- Reads an absolute URL. -/
def read (s : String) : Except Fault Url :=
  match readScheme (significant s) with
  | some (scheme, r) => readWithScheme scheme r
  | none => .error .relativeWithoutBase

/-- Reads a reference without a scheme, relative to a URL with a hierarchy. -/
def readRelative (base : Url) (names : List String) (s : List Char) : Except Fault Url :=
  let (path, tail) := cutAt endsPath s
  let (query, fragment) := readTail base.scheme tail
  let special := isSpecial base.scheme
  let slash := fun (c : Char) => c == '/' || (special && c == '\\')
  match s with
  | a :: b :: r =>
    if slash a && slash b then
      readAfterSlashes base.scheme (if special then r.dropWhile isSlash else r)
    else .ok (place path query fragment)
  | _ => .ok (place path query fragment)
where
  /-- The URL at a path from the base. -/
  place (path : List Char) (query fragment : Option String) : Url :=
    match path with
    | [] => { base with query := if query.isSome then query else base.query, fragment }
    | c :: r =>
      if c == '/' || (isSpecial base.scheme && c == '\\') then
        { base with path := readSegments base.scheme [] r, query, fragment }
      else
        { base with
          path := readSegments base.scheme (goUp (base.scheme == "file") names) (c :: r)
          query, fragment }

/-- Whether text after a scheme is still relative to a URL of the same special scheme: it does not
begin with two slashes. -/
def staysRelative (base : Url) (scheme : String) (s : List Char) : Bool :=
  scheme == base.scheme && (ownPort? scheme).isSome && (s.takeWhile isSlash).length < 2

/-- Reads a reference relative to a URL. -/
def resolve (base : Url) (s : String) : Except Fault Url :=
  let text := significant s
  match readScheme text, base.path with
  | some (scheme, r), .segments names =>
    if staysRelative base scheme r then readRelative base names r else readWithScheme scheme r
  | some (scheme, r), .opaqueText _ => readWithScheme scheme r
  | none, .segments names => readRelative base names text
  | none, .opaqueText _ =>
    if text.head? == some '#' then .ok { base with fragment := (readTail base.scheme text).2 }
    else .error .relativeToOpaque

end Workday.Url
