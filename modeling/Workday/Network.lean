import Workday.Url.Reader

/-!
# The network

What becomes of the requests that are sent. A network is known by what it does with each request it
receives, in order; a network on which no server is reached receives none.
-/

set_option autoImplicit false

namespace Workday

/-- The reply to a request. -/
structure Reply where
  status : Nat
  /-- Where the reply refers the client to. -/
  location : Option String := none
  body : List UInt8 := []
  /-- Whether the connection ends before the body does. -/
  isCutShort : Bool := false
  deriving DecidableEq, Repr

namespace Reply

/-- Whether a reply is a success. -/
def isSuccess (r : Reply) : Bool := 200 ≤ r.status && r.status ≤ 299

/-- The URL that a reply to a request for a URL redirects to, if it redirects. -/
def redirection? (r : Reply) (url : Url) : Option Url :=
  if [301, 302, 303, 307, 308].contains r.status then
    r.location.bind fun location => (url.resolve location).toOption
  else none

end Reply

/-- What a server does with a request. -/
inductive Network.Answer where
  | reply (reply : Reply)
  /-- It closes the connection. -/
  | closed
  /-- It never replies. -/
  | silent
  deriving DecidableEq, Repr

/-- What is done with the n-th request, counted from zero; none if no server is reached. -/
structure Network where
  answer : Nat → Option Network.Answer

namespace Network

/-- The network on which no server is reached. -/
def unreachable : Network := ⟨fun _ => none⟩

/-- The network that gives the entries of a script in turn, and the last one again and again. -/
def scripted (script : List Answer) : Network :=
  ⟨fun n => script[min n (script.length - 1)]?⟩

end Network

end Workday
