import Workday.Cache

/-!
# Calls that overlap

A room holds the calls that are under way on one cache. A call goes through up to five moves, and
between any two of them other calls may move, time may pass and the entry may be dropped. It
arrives and checks the entry; if that is not fresh it waits in line for the refresh lock. It takes
the lock. It checks again, as another call may have refreshed the entry, and starts its fetch. Its
fetch ends: an error is its answer, and a value is marked with the moment. It stores the value and
gives up the lock. Any order of moves that the lock allows is a run of the room. `Store.batch` is
the run in which the calls arrive together, in order, and the lock goes to the one that has waited
longest.
-/

set_option autoImplicit false

namespace Workday.Cache

variable {σ ε α : Type}

/-- What a call is doing between its moves. -/
inductive Phase (ε α : Type) where
  /-- Not yet begun. -/
  | idle
  /-- In line for the refresh lock. -/
  | waiting
  /-- Holding the refresh lock, before the second check. -/
  | admitted
  /-- Holding the refresh lock while its fetch runs. -/
  | fetching (fetched : Fetched ε α)
  /-- Holding the refresh lock with a value that is fetched and not yet stored. -/
  | storing (entry : Entry α)
  /-- Answered. -/
  | done (answer : Except ε (Served α))

/-- The answer of a call that has one. -/
def Phase.answer? : Phase ε α → Option (Except ε (Served α))
  | done answer => some answer
  | _ => none

/-- Calls under way on one cache. -/
structure Room (σ ε α : Type) where
  store : Store σ α
  calls : List (Call σ ε α)
  /-- What each call is doing. -/
  phases : List (Phase ε α)
  /-- The call that holds the refresh lock. -/
  holder : Option Nat
  /-- The calls waiting for the refresh lock, longest first. -/
  line : List Nat

/-- One move in a room. -/
inductive Move where
  /-- A call begins and checks the entry. -/
  | arrive (i : Nat)
  /-- A waiting call takes the refresh lock. -/
  | take (i : Nat)
  /-- The call that took the lock checks the entry again. -/
  | check (i : Nat)
  /-- The fetch of a call ends. -/
  | finish (i : Nat)
  /-- The value that a call fetched is stored. -/
  | store (i : Nat)
  /-- Time passes. -/
  | advance (ms : Nat)
  /-- The entry is dropped. -/
  | invalidate
  deriving DecidableEq, Repr

namespace Room

/-- A room in which no call has begun. -/
def opened (store : Store σ α) (calls : List (Call σ ε α)) : Room σ ε α :=
  ⟨store, calls, calls.map fun _ => .idle, none, []⟩

/-- Sets what a call is doing. -/
def setPhase (r : Room σ ε α) (i : Nat) (phase : Phase ε α) : Room σ ε α :=
  { r with phases := r.phases.set i phase }

/-- A call begins: it is answered at once if the entry is fresh for it, and else waits in line. -/
def arrive (r : Room σ ε α) (i : Nat) (call : Call σ ε α) : Room σ ε α :=
  match r.store.fresh? call.ttl with
  | some value => r.setPhase i (.done (.ok ⟨value, .cache⟩))
  | none => { r.setPhase i .waiting with line := r.line ++ [i] }

/-- A waiting call takes the lock. -/
def take (r : Room σ ε α) (i : Nat) : Room σ ε α :=
  { r.setPhase i .admitted with line := r.line.erase i, holder := some i }

/-- The call that took the lock checks the entry again: fresh, it is answered and gives the lock
up; else it starts its fetch. -/
def check (r : Room σ ε α) (i : Nat) (call : Call σ ε α) : Room σ ε α :=
  match r.store.fresh? call.ttl with
  | some value => { r.setPhase i (.done (.ok ⟨value, .cache⟩)) with holder := none }
  | none =>
    let (fetched, store) := r.store.start call
    { r.setPhase i (.fetching fetched) with store }

/-- The fetch of a call ends. An error is its answer, and the lock is given up; a value is marked
with the moment, and will be stored. -/
def finish (r : Room σ ε α) (i : Nat) : Except ε α → Room σ ε α
  | .ok value => r.setPhase i (.storing ⟨value, r.store.clock⟩)
  | .error e => { r.setPhase i (.done (.error e)) with holder := none }

/-- The value that a call fetched is stored and is its answer, and the lock is given up. -/
def put (r : Room σ ε α) (i : Nat) (entry : Entry α) : Room σ ε α :=
  { r.setPhase i (.done (.ok ⟨entry.value, .network⟩)) with
    store := { r.store with entry := some entry }, holder := none }

/-- One move; none if the room does not allow it. A call arrives once, takes the lock while it
waits and nobody holds it, and does the rest in turn. -/
def step (r : Room σ ε α) : Move → Option (Room σ ε α)
  | .arrive i =>
    match r.phases[i]?, r.calls[i]? with
    | some .idle, some call => some (r.arrive i call)
    | _, _ => none
  | .take i =>
    match r.phases[i]?, r.holder with
    | some .waiting, none => some (r.take i)
    | _, _ => none
  | .check i =>
    match r.phases[i]?, r.calls[i]? with
    | some .admitted, some call => some (r.check i call)
    | _, _ => none
  | .finish i =>
    match r.phases[i]? with
    | some (.fetching fetched) => some (r.finish i fetched.result)
    | _ => none
  | .store i =>
    match r.phases[i]? with
    | some (.storing entry) => some (r.put i entry)
    | _ => none
  | .advance ms => some { r with store := r.store.advance ms }
  | .invalidate => some { r with store := r.store.invalidate }

/-- A run of moves; none if the room does not allow one of them. -/
def run (r : Room σ ε α) : List Move → Option (Room σ ε α)
  | [] => some r
  | m :: ms => (r.step m).bind fun r => r.run ms

/-- The run in which the room allows every move, and passes over those it does not. -/
def play (r : Room σ ε α) (m : Move) : Room σ ε α :=
  (r.step m).getD r

/-- How long the fetch of the lock's holder takes. -/
def holderDelay (r : Room σ ε α) : Nat :=
  match r.holder.bind fun i => r.phases[i]? with
  | some (.fetching fetched) => fetched.delay
  | _ => 0

/-- A waiting call takes the lock and checks the entry again at once. -/
def enter (r : Room σ ε α) (i : Nat) : Room σ ε α :=
  (r.play (.take i)).play (.check i)

/-- The fetch of a call ends, and a value is stored at once. -/
def leave (r : Room σ ε α) (i : Nat) : Room σ ε α :=
  (r.play (.finish i)).play (.store i)

/-- A call arrives; if the lock is free it goes on, to its end if its fetch takes no time. -/
def welcome (r : Room σ ε α) (i : Nat) : Room σ ε α :=
  let r := r.play (.arrive i)
  match r.holder with
  | some _ => r
  | none =>
    let r := r.enter i
    if r.holderDelay = 0 then r.leave i else r

/-- Serves all that wait, the longest first: while a fetch runs time passes to its end, and then
the next in line takes the lock. -/
def drain : Nat → Room σ ε α → Room σ ε α
  | 0, r => r
  | fuel + 1, r =>
    match r.holder, r.line with
    | some i, _ => drain fuel ((r.play (.advance r.holderDelay)).leave i)
    | none, i :: _ => drain fuel (r.enter i)
    | none, [] => r

/-- The answers given so far, in the order of the calls. -/
def answers (r : Room σ ε α) : List (Except ε (Served α)) :=
  r.phases.filterMap Phase.answer?

end Room

/-- Calls that arrive together, in order, with the lock first come first served. Each call takes
the lock at most once and gives it up at most once, so two rounds for each end the line. -/
def Store.batch (s : Store σ α) (calls : List (Call σ ε α)) :
    List (Except ε (Served α)) × Store σ α :=
  let welcomed := (List.range calls.length).foldl Room.welcome (Room.opened s calls)
  let r := Room.drain (2 * calls.length) welcomed
  (r.answers, r.store)

end Workday.Cache
