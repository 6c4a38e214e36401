import Workday.Calculator
import Workday.Feed
import Workday.Network
import Workday.Service
import Workday.Settings
import Workday.Text

/-!
# The client

The client asks one endpoint for the feed, or only probes it. A request follows a limited number of
redirects; whatever they lead to, a failure names the endpoint. Only a success counts, and a body has
to arrive in full. Every state here is the number of requests that servers have received.
-/

set_option autoImplicit false

namespace Workday

/-- A client of one endpoint, with the seconds that it allows. -/
structure Client where
  endpoint : String
  timeoutSecs : Nat
  healthTimeoutSecs : Nat
  deriving DecidableEq, Repr

/-- What became of a request. -/
structure Exchange where
  result : Except FetchFailure (List UInt8)
  /-- How many milliseconds it took. -/
  elapsed : Nat
  /-- How many requests servers have received after it. -/
  requests : Nat

namespace Client

/-- The path of the feed below the base URL. -/
def feedPath : String := "/bank-holidays.json"

/-- A text without slashes at its end. -/
def withoutSlashes (s : String) : String :=
  String.ofList (s.toList.reverse.dropWhile (· == '/')).reverse

/-- The client that settings describe. -/
def ofSettings (s : FeedSettings) : Client :=
  ⟨withoutSlashes s.url ++ feedPath, s.timeoutSecs, s.healthTimeoutSecs⟩

/-- Whether user information is read as text. -/
def isReadableInfo (s : String) : Bool :=
  (Text.decodeUtf8? (Url.percentDecode s.toList)).isSome

/-- The URL that is requested: user information is not sent in it. -/
def requestUrl (url : Url) : Url :=
  if !isReadableInfo url.username then url
  else if url.username.isEmpty && !(isReadableInfo url.password && !url.password.isEmpty) then url
  else url.withoutUserInfo

/-- The most bytes of a URL that is requested. -/
def maxUrlLength : Nat := 65534

/-- Whether a host may stand in a request. -/
def isRequestableHost (host : Url.Host) : Bool :=
  host.format.toList.all fun c => !"\"\x60\x7b\x7d".toList.contains c

/-- Whether a URL can be requested. -/
def isRequestable (url : Url) : Bool :=
  (url.scheme == "http" || url.scheme == "https") && url.host.all isRequestableHost
    && url.format.utf8ByteSize ≤ maxUrlLength

/-- The URL to request for an endpoint, or why there is none. -/
def target (endpoint : String) : Except TransportCause Url :=
  match Url.read endpoint with
  | .error _ => .error .unusableUrl
  | .ok url =>
    if !url.hasHost then .error (.unusableScheme url.format)
    else if !isRequestable (requestUrl url) then .error (.unusableScheme (requestUrl url).format)
    else .ok (requestUrl url)

/-- The most redirects that are followed. -/
def maxRedirects : Nat := 10

/-- How a chain of redirects ends: with a reply, or without one. -/
structure Ending where
  result : Except TransportCause Reply
  elapsed : Nat
  requests : Nat

/-- Sends a request for a URL and follows redirects. Every failure to get a reply names the URL that
was asked for first. -/
def follow (network : Network) (timeout : Nat) (first : Url) : Nat → Url → Nat → Ending
  | left, url, n =>
    match network.answer n with
    | none => ⟨.error (.noReply first.format), 0, n⟩
    | some .closed => ⟨.error (.noReply first.format), 0, n + 1⟩
    | some .silent => ⟨.error (.timedOut first.format), timeout, n + 1⟩
    | some (.reply reply) =>
      match reply.redirection? url, left with
      | none, _ => ⟨.ok reply, 0, n + 1⟩
      | some _, 0 => ⟨.error (.tooManyRedirects url.format), 0, n + 1⟩
      | some next, left + 1 =>
        if isRequestable next then follow network timeout first left next (n + 1)
        else ⟨.error (.unusableScheme next.format), 0, n + 1⟩

/-- What a final reply gives: the body of a success. -/
def judge (endpoint : String) (reply : Reply) : Except FetchFailure (List UInt8) :=
  if !reply.isSuccess then .error (.status endpoint reply.status)
  else if reply.isCutShort then .error (.transport endpoint .bodyCutShort)
  else .ok reply.body

/-- Asks for the endpoint within so many seconds. -/
def get (c : Client) (network : Network) (timeoutSecs : Nat) (n : Nat) : Exchange :=
  match target c.endpoint with
  | .error cause => ⟨.error (.transport c.endpoint cause), 0, n⟩
  | .ok url =>
    let ending := follow network (timeoutSecs * 1000) url maxRedirects url n
    let result := match ending.result with
      | .error cause => .error (.transport c.endpoint cause)
      | .ok reply => judge c.endpoint reply
    ⟨result, ending.elapsed, ending.requests⟩

/-- The calendar in a body. -/
def decode (body : List UInt8) : Except FetchFailure Calendar :=
  (Feed.decode body).mapError fun fault => .malformed fault.message

/-- Fetches the calendar. -/
def fetch (c : Client) (network : Network) : CalendarSource Nat := fun n =>
  let exchange := c.get network c.timeoutSecs n
  (⟨exchange.result.bind decode, exchange.elapsed⟩, exchange.requests)

/-- Probes the endpoint: why it does not answer with a success, if so, and how long that took. -/
def probe (c : Client) (network : Network) (n : Nat) : (Option FetchFailure × Nat) × Nat :=
  let exchange := c.get network c.healthTimeoutSecs n
  let failure := match exchange.result with
    | .ok _ => none
    | .error failure => some failure
  ((failure, exchange.elapsed), exchange.requests)

end Client

/-- A service over the endpoint that settings describe. -/
def Service.connected (s : FeedSettings) (network : Network) (today : Date)
    (clock : Cache.Clock) : Except Settings.Fault (Service Nat) := do
  let ttl ← s.ttl
  let client := Client.ofSettings s
  return {
    source := client.fetch network
    probe := client.probe network
    ttl := ttl
    today := today
    store := .empty clock 0
    calculators := [Calculator.new ttl] }

end Workday
