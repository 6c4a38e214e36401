import Workday.Url.Reader

/-!
# Settings

Where the feed is, how long to wait for it, how long to keep a calendar, and how to log. Settings
are used only after `Settings.check`, which reports the first fault.
-/

set_option autoImplicit false

namespace Workday

/-- How the feed is reached. -/
structure FeedSettings where
  /-- The base URL that the feed's path is added to. -/
  url : String := "https://www.gov.uk"
  /-- Seconds allowed for a fetch. -/
  timeoutSecs : Nat := 30
  /-- Seconds allowed for a health probe. -/
  healthTimeoutSecs : Nat := 2
  /-- Seconds that a fetched calendar is kept. -/
  ttlSecs : Nat := 86400
  deriving DecidableEq, Repr

/-- What is logged, and where. -/
structure LogSettings where
  /-- The filter where the environment gives none. -/
  level : String := "info"
  /-- The log file; none for standard error. -/
  file : Option String := none
  deriving DecidableEq, Repr

/-- All settings, each with its default. -/
structure Settings where
  feed : FeedSettings := {}
  log : LogSettings := {}
  deriving DecidableEq, Repr

namespace Settings

/-- Why settings cannot be used. -/
inductive Fault where
  | invalidUrl (url : String) (fault : Url.Fault)
  | zeroTimeout
  | zeroHealthTimeout
  /-- The seconds are more than a duration holds. -/
  | ttlTooLong (secs : Nat)
  deriving DecidableEq, Repr

/-- The most seconds a calendar can be kept. -/
def maxTtlSecs : Nat := 9223372036854775

/-- The wording of a fault. -/
def Fault.message : Fault → String
  | invalidUrl url fault => "Invalid bank holidays url '" ++ url ++ "': " ++ fault.message
  | zeroTimeout => "bank_holidays.timeout_secs must be greater than zero"
  | zeroHealthTimeout => "bank_holidays.health_timeout_secs must be greater than zero"
  | ttlTooLong secs =>
    "bank_holidays.cache_ttl_secs must be at most " ++ toString maxTtlSecs ++ ", got "
      ++ toString secs

end Settings

namespace FeedSettings

/-- The most milliseconds a duration holds. -/
def maxMillis : Nat := 9223372036854775807

/-- A number of seconds in milliseconds, if a duration holds as many. -/
def millis? (secs : Nat) : Option Int :=
  if secs * 1000 ≤ maxMillis then some (secs * 1000 : Nat) else none

/-- How long a fetched calendar is kept, in milliseconds. -/
def ttl (s : FeedSettings) : Except Settings.Fault Int :=
  match millis? s.ttlSecs with
  | some ms => .ok ms
  | none => .error (.ttlTooLong s.ttlSecs)

/-- The first fault of the settings, in the order URL, timeouts, time to live. -/
def check (s : FeedSettings) : Except Settings.Fault Unit := do
  if let .error fault := Url.read s.url then throw (.invalidUrl s.url fault)
  if s.timeoutSecs = 0 then throw .zeroTimeout
  if s.healthTimeoutSecs = 0 then throw .zeroHealthTimeout
  if Settings.maxTtlSecs < s.ttlSecs then throw (.ttlTooLong s.ttlSecs)

end FeedSettings

/-- The first fault of the settings. -/
def Settings.check (s : Settings) : Except Settings.Fault Unit := s.feed.check

end Workday
