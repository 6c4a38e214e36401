import Workday.Date.Text

/-!
# Failures

Why a fetch of the feed gives no calendar, and why a question about working days gets no answer,
each with its wording. A failed fetch is passed on with its cause and never turned into an answer.
-/

set_option autoImplicit false

namespace Workday

/-- Why a request got no usable reply. -/
inductive TransportCause where
  /-- The endpoint is no URL. -/
  | unusableUrl
  /-- The scheme of the URL is neither http nor https. -/
  | unusableScheme (url : String)
  /-- No connection, or one that closed without a reply. -/
  | noReply (url : String)
  /-- No reply within the time allowed. -/
  | timedOut (url : String)
  /-- One redirect too many, leading to the URL. -/
  | tooManyRedirects (url : String)
  /-- The body was cut short. -/
  | bodyCutShort
  deriving DecidableEq, Repr

namespace TransportCause

/-- The wording of a cause. -/
def message : TransportCause → String
  | unusableUrl => "builder error"
  | unusableScheme url => "builder error for url (" ++ url ++ ")"
  | noReply url => "error sending request for url (" ++ url ++ ")"
  | timedOut url => "error sending request for url (" ++ url ++ ")"
  | tooManyRedirects url => "error following redirect for url (" ++ url ++ ")"
  | bodyCutShort => "error decoding response body"

/-- Whether the time allowed ran out. -/
def isTimeout : TransportCause → Bool
  | timedOut _ => true
  | _ => false

end TransportCause

/-- Why a fetch gave no calendar. The URL is the configured endpoint, whatever redirects led to. -/
inductive FetchFailure where
  | transport (url : String) (cause : TransportCause)
  /-- The final reply was no success. -/
  | status (url : String) (status : Nat)
  /-- The body is no feed document. -/
  | malformed (message : String)
  deriving DecidableEq, Repr

/-- The wording of a failed fetch. -/
def FetchFailure.message : FetchFailure → String
  | transport url cause => "request to " ++ url ++ " failed: " ++ cause.message
  | status url code => url ++ " returned HTTP " ++ toString code
  | malformed message => "malformed bank holiday payload: " ++ message

/-- Why a question about working days got no answer. -/
inductive DeadlineFailure where
  /-- The calendar was needed, and the fetch for it failed. -/
  | noCalendar (cause : FetchFailure)
  /-- The number of days is no count that can be stepped. -/
  | invalidCount (n : Int)
  /-- The calendar ends before the deadline. -/
  | outOfRange (start : Date)
  deriving DecidableEq

namespace DeadlineFailure

/-- The wording of a failure; the cause of an unavailable calendar is told apart from it. -/
def message : DeadlineFailure → String
  | noCalendar _ => "bank holiday calendar unavailable"
  | invalidCount n => "number of days must be a non-negative count, got " ++ toString n
  | outOfRange start => "no working day representable after " ++ start.format

/-- The HTTP status that a request handler answers a failure with. -/
def httpStatus : DeadlineFailure → Nat
  | noCalendar _ => 503
  | invalidCount _ | outOfRange _ => 400

/-- The messages of a failure and its causes, outermost first. -/
def chain : DeadlineFailure → List String
  | noCalendar cause => [message (.noCalendar cause), cause.message]
  | failure => [failure.message]

/-- The fetch that failed, if that is why there is no answer. -/
def fetchFailure? : DeadlineFailure → Option FetchFailure
  | noCalendar cause => some cause
  | invalidCount _ | outOfRange _ => none

end DeadlineFailure

end Workday
