import Workday.Url.Host

/-!
# URLs

The parts of a URL, already in the form they are written in: percent-encoded, the host in ASCII, a
port only if it is not the scheme's own. `Url.format` writes them one after another.
-/

set_option autoImplicit false

namespace Workday

namespace Url

/-- The path of a URL: a list of segments, or text without a hierarchy. -/
inductive Path where
  | segments (names : List String)
  | opaqueText (text : String)
  deriving DecidableEq, Repr

end Url

/-- A URL. -/
structure Url where
  scheme : String
  username : String
  /-- Empty if there is none. -/
  password : String
  /-- None for a URL without an authority. -/
  host : Option Url.Host
  port : Option Nat
  path : Url.Path
  query : Option String
  fragment : Option String
  deriving DecidableEq, Repr

namespace Url

/-- The schemes whose URLs always have a host, and the port that each uses by itself. -/
def ownPort? : String → Option Nat
  | "http" | "ws" => some 80
  | "https" | "wss" => some 443
  | "ftp" => some 21
  | _ => none

/-- Whether a scheme is one of those with a host, or that of files. -/
def isSpecial (scheme : String) : Bool :=
  (ownPort? scheme).isSome || scheme == "file"

/-- Whether a URL names a host. -/
def hasHost (u : Url) : Bool :=
  match u.host with
  | none | some (.domain "") => false
  | some _ => true

/-- The user information before the host, as written. -/
def formatUserInfo (u : Url) : String :=
  if u.username.isEmpty && u.password.isEmpty then ""
  else u.username ++ (if u.password.isEmpty then "" else ":" ++ u.password) ++ "@"

/-- A path as written. -/
def Path.format : Path → String
  | segments names => String.join (names.map fun name => "/" ++ name)
  | opaqueText text => text

/-- What stands between the scheme and the path. Without an authority, a path whose first segment
is empty is set off from one by a single full stop. -/
def formatAuthority (u : Url) : String :=
  match u.host with
  | some host =>
    "//" ++ u.formatUserInfo ++ host.format
      ++ (match u.port with | some port => ":" ++ toString port | none => "")
  | none =>
    match u.path with
    | .segments ("" :: _ :: _) => "/."
    | _ => ""

/-- The URL as text. -/
def format (u : Url) : String :=
  u.scheme ++ ":" ++ u.formatAuthority ++ u.path.format
    ++ (match u.query with | some query => "?" ++ query | none => "")
    ++ (match u.fragment with | some fragment => "#" ++ fragment | none => "")

/-- The same URL without user information. -/
def withoutUserInfo (u : Url) : Url := { u with username := "", password := "" }

end Url

end Workday
