/-!
# The time-boxed cache

One value is kept with the moment it was stored. A handle on the cache has a time to live: it
serves the value while less than that has passed, and otherwise fetches a new one. A fetch that
fails is the caller's error and leaves the entry as it was; nothing stale is ever served.

`Store.get` is one call that runs alone. Calls that overlap are in `Workday.Cache.Room`.
-/

set_option autoImplicit false

namespace Workday.Cache

variable {σ ε α : Type}

/-- The two readings of time, in milliseconds: one that only moves forward and decides expiry,
and the time of day, which is reported and decides nothing. -/
structure Clock where
  monotonic : Nat
  timeOfDay : Int
  deriving DecidableEq, Repr

/-- Lets time pass. -/
def Clock.advance (c : Clock) (ms : Nat) : Clock :=
  ⟨c.monotonic + ms, c.timeOfDay + ms⟩

/-- A value and the moment it was stored. -/
structure Entry (α : Type) where
  value : α
  storedAt : Clock
  deriving DecidableEq

/-- How long an entry has been held. -/
def Entry.age (e : Entry α) (now : Clock) : Nat :=
  now.monotonic - e.storedAt.monotonic

/-- An entry is served while it is younger than the time to live; under a time to live of zero or
less it never is. -/
def Entry.isFresh (e : Entry α) (now : Clock) (ttl : Int) : Bool :=
  (e.age now : Int) < ttl

/-- What a fetch comes to: its result, and how long it takes. -/
structure Fetched (ε α : Type) where
  result : Except ε α
  delay : Nat

/-- A call for the value: the time to live of its handle, and how to fetch from a source. -/
structure Call (σ ε α : Type) where
  ttl : Int
  fetch : σ → Fetched ε α × σ

/-- Where an answer comes from. -/
inductive Origin where
  /-- Fetched by this very call. -/
  | network
  /-- Held, and within the time to live. -/
  | cache
  deriving DecidableEq, Repr

/-- A value that is served, and where it comes from. -/
structure Served (α : Type) where
  value : α
  origin : Origin
  deriving DecidableEq

/-- What all handles on a cache share: the entry, the clock, the source that fetches draw on and
how many fetches have been started. -/
structure Store (σ α : Type) where
  entry : Option (Entry α)
  clock : Clock
  source : σ
  fetches : Nat

namespace Store

/-- An empty cache. -/
def empty (clock : Clock) (source : σ) : Store σ α :=
  ⟨none, clock, source, 0⟩

/-- The held value, if it is fresh for a time to live. -/
def fresh? (s : Store σ α) (ttl : Int) : Option α :=
  match s.entry with
  | some e => if e.isFresh s.clock ttl then some e.value else none
  | none => none

/-- Lets time pass. -/
def advance (s : Store σ α) (ms : Nat) : Store σ α :=
  { s with clock := s.clock.advance ms }

/-- Drops the entry. -/
def invalidate (s : Store σ α) : Store σ α :=
  { s with entry := none }

/-- Starts a fetch. -/
def start (s : Store σ α) (call : Call σ ε α) : Fetched ε α × Store σ α :=
  let (fetched, source) := call.fetch s.source
  (fetched, { s with source, fetches := s.fetches + 1 })

/-- Ends a fetch: a value is stored as of now, an error changes nothing. -/
def finish (s : Store σ α) : Except ε α → Except ε (Served α) × Store σ α
  | .ok value => (.ok ⟨value, .network⟩, { s with entry := some ⟨value, s.clock⟩ })
  | .error e => (.error e, s)

/-- One call that runs alone: the held value if it is fresh, else a fetch. -/
def get (s : Store σ α) (call : Call σ ε α) : Except ε (Served α) × Store σ α :=
  match s.fresh? call.ttl with
  | some value => (.ok ⟨value, .cache⟩, s)
  | none =>
    let (fetched, s) := s.start call
    (s.advance fetched.delay).finish fetched.result

end Store

end Workday.Cache
