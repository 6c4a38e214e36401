import Workday.Cache.Room

/-!
# Sessions with a cache

A session is a sequence of steps on one cache through its handles. A handle is a time to live;
all handles share the entry and the refresh lock. Handle 0 is the cache as it was made.
-/

set_option autoImplicit false

namespace Workday.Cache

variable {σ ε α : Type}

/-- The time to live of a new cache: one day. -/
def defaultTtl : Int := 86400000

/-- A cache and the handles on it, each its time to live in milliseconds. -/
structure Session (σ α : Type) where
  store : Store σ α
  handles : List Int

/-- A request for the value: on which handle, and how to fetch. -/
structure Request (σ ε α : Type) where
  handle : Nat
  fetch : σ → Fetched ε α × σ

/-- One step of a session. -/
inductive Step (σ ε α : Type) where
  | get (request : Request σ ε α)
  /-- Requests that arrive together, in order. -/
  | together (requests : List (Request σ ε α))
  /-- Whether an entry is held, fresh or not. -/
  | isHeld
  | ttl (handle : Nat)
  | invalidate
  | advance (ms : Nat)
  /-- A further handle with the time to live of another. -/
  | clone (handle : Nat)
  /-- A further handle with a time to live of its own. -/
  | withTtl (ttl : Int)

/-- What a step answers. -/
inductive Reply (ε α : Type) where
  | got (answer : Except ε (Served α))
  | gotAll (answers : List (Except ε (Served α)))
  | held (held : Bool)
  | ttl (ms : Int)
  /-- The number of a new handle. -/
  | handle (i : Nat)
  | nothing

namespace Session

/-- A session with a new cache. -/
def new (ttl : Int) (clock : Clock) (source : σ) : Session σ α :=
  ⟨.empty clock source, [ttl]⟩

/-- The time to live of a handle. An unknown handle counts as handle 0. -/
def ttlOf (s : Session σ α) (handle : Nat) : Int :=
  (s.handles[handle]?).getD (s.handles.headD defaultTtl)

/-- The call that a request makes. -/
def call (s : Session σ α) (request : Request σ ε α) : Call σ ε α :=
  ⟨s.ttlOf request.handle, request.fetch⟩

/-- Adds a handle. -/
def addHandle (s : Session σ α) (ttl : Int) : Reply ε α × Session σ α :=
  (.handle s.handles.length, { s with handles := s.handles ++ [ttl] })

/-- One step. -/
def step (s : Session σ α) : Step σ ε α → Reply ε α × Session σ α
  | .get request =>
    let (answer, store) := s.store.get (s.call request)
    (.got answer, { s with store })
  | .together requests =>
    let (answers, store) := s.store.batch (requests.map s.call)
    (.gotAll answers, { s with store })
  | .isHeld => (.held s.store.entry.isSome, s)
  | .ttl handle => (.ttl (s.ttlOf handle), s)
  | .invalidate => (.nothing, { s with store := s.store.invalidate })
  | .advance ms => (.nothing, { s with store := s.store.advance ms })
  | .clone handle => s.addHandle (s.ttlOf handle)
  | .withTtl ttl => s.addHandle ttl

/-- All steps in turn, each reply with the number of fetches started by then. -/
def run (s : Session σ α) : List (Step σ ε α) → List (Reply ε α × Nat)
  | [] => []
  | step :: steps =>
    let (reply, s) := s.step step
    (reply, s.store.fetches) :: s.run steps

end Session

end Workday.Cache
