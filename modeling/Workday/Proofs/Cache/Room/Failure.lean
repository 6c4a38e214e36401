import Workday.Proofs.Cache.Room.SingleFlight
import Workday.Proofs.Cache.Room.Trace

/-!
# Fetches that fail

A fetch that fails is the error of the call that made it and leaves everything else as it was: the
entry, marked as before, is served to every handle whose time to live still covers it, the line
stands, and the lock is free for the next call. `failed_fetch_leaves_all_else` says so of every run.

While a fetch runs its call holds the lock, so nobody stores meanwhile (`run_entry_eq`); those in
line wait (`Lined`); whoever finds the lock free can go through to its end (`canStore_of_free`); and
a value that is fetched is stored (`stored_of_fetching`).
-/

set_option autoImplicit false

namespace Workday.Cache

variable {σ ε α : Type}

/-- The fetch of the call is over, or it was answered without one. -/
def Phase.isOver : Phase ε α → Bool
  | storing _ | done _ => true
  | _ => false

namespace Room

variable {r r' : Room σ ε α} {m : Move} {moves between : List Move} {i j : Nat}
  {call : Call σ ε α} {fetched : Fetched ε α} {value : α} {e : ε}
  {store : Store σ α} {calls : List (Call σ ε α)}

/-! ## Whose error it is -/

/-- A call came to an error by a fetch of its own. -/
def FailedItself (moves : List Move) (r : Room σ ε α) (i : Nat) (e : ε) : Prop :=
  ∃ fetched, (i, fetched) ∈ r.launches moves ∧ fetched.result = .error e

/-- The fetch that a call waits for, and the error that is its answer, come from a fetch that it
started itself. -/
structure OwnFetches (launched : List (Nat × Fetched ε α)) (r : Room σ ε α) : Prop where
  running : ∀ i fetched, r.phases[i]? = some (.fetching fetched) → (i, fetched) ∈ launched
  failed : ∀ i e, r.phases[i]? = some (.done (.error e)) →
    ∃ fetched, (i, fetched) ∈ launched ∧ fetched.result = .error e

/-- More fetches that have started do not take away those that a call has its error from. -/
theorem OwnFetches.mono {launched more : List (Nat × Fetched ε α)} (h : OwnFetches launched r) :
    OwnFetches (launched ++ more) r where
  running i fetched hi := List.mem_append_left _ (h.running i fetched hi)
  failed i e hi := by
    obtain ⟨fetched, hmem, hresult⟩ := h.failed i e hi
    exact ⟨fetched, List.mem_append_left _ hmem, hresult⟩

/-- A move keeps it so that errors come from fetches of one's own: a fetch that starts is noted, and
one that fails gives its error to the call that runs it. -/
theorem Moved.ownFetches {launched : List (Nat × Fetched ε α)} (h : r.Moved m r')
    (hr : OwnFetches launched r) :
    OwnFetches (launched ++ (r'.broughtTo Phase.fetched? m).toList) r' where
  running i fetched hi := by
    rcases h.phase_cases hi with ⟨_, hold⟩ | ⟨q, _, hturn⟩
    · exact List.mem_append_left _ (hr.running i fetched hold)
    · cases hturn with
      | started =>
        exact List.mem_append_right _ (mem_broughtTo_iff.mpr ⟨rfl, _, hi, rfl⟩)
  failed i e hi := by
    rcases h.phase_cases hi with ⟨_, hold⟩ | ⟨q, hq, hturn⟩
    · exact hr.mono.failed i e hold
    · cases hturn with
      | @failed fetched _ result => exact ⟨fetched, hr.mono.running i fetched hq, result⟩

/-- In every run errors come from fetches of one's own. Nobody has failed in a room that has just been
opened, and a move gives an error only to the call whose fetch has ended in it. -/
theorem ownFetches_of_run (hrun : (opened store calls).run moves = some r) :
    OwnFetches ((opened store calls).launches moves) r := by
  suffices (opened store calls).run moves = some r ∧
      OwnFetches ((opened store calls).launches moves) r from this.2
  refine run_traces (motive := fun made a => (opened store calls).run made = some a ∧
    OwnFetches ((opened store calls).launches made) a) ?_ ⟨rfl, ?_, ?_⟩ hrun
  · rintro made a b m ⟨hmade, hown⟩ hm
    refine ⟨run_concat_eq_some_iff.mpr ⟨a, hmade, hm⟩, ?_⟩
    rw [launches, seen_concat hmade hm]
    exact hm.ownFetches hown
  · intro i fetched hi
    cases eq_idle_of_opened hi
  · intro i e hi
    cases eq_idle_of_opened hi

/-! ## While a fetch runs -/

/-- A fetch that is over does not start again. -/
theorem Moved.isOver (h : r.Moved m r') (hr : ∃ p, r.phases[i]? = some p ∧ p.isOver = true) :
    ∃ p, r'.phases[i]? = some p ∧ p.isOver = true := by
  obtain ⟨p, hp, hover⟩ := hr
  by_cases hm : m.call? = some i
  · obtain ⟨q, p', hq, hp', hturn⟩ := h.turn hm
    obtain rfl := Option.some.inj (hp.symm.trans hq)
    refine ⟨p', hp', ?_⟩
    cases hturn with
    | stored => rfl
    | _ => cases hover
  · exact ⟨p, (h.phase_of_other hm).trans hp, hover⟩

/-- A call whose fetch runs had not come past it before, for no call fetches twice. -/
theorem not_isOver_of_fetching (hrun : r.run moves = some r')
    (hr' : r'.phases[i]? = some (.fetching fetched)) :
    ¬ ∃ p, r.phases[i]? = some p ∧ p.isOver = true := by
  intro hover
  obtain ⟨p, hp, hpover⟩ := run_preserves
    (motive := fun a => ∃ p, a.phases[i]? = some p ∧ p.isOver = true) (fun h hm => hm.isOver h)
    hover hrun
  obtain rfl := Option.some.inj (hp.symm.trans hr')
  cases hpover

/-- While a fetch runs nobody else has one in flight, so only an invalidation touches the entry: a call
that stores holds the lock, and the lock is held by the one that fetches. -/
theorem run_entry_eq {running : Fetched ε α} (hguarded : Guarded r.holder r.phases)
    (hr : r.phases[i]? = some (.fetching running)) (hrun : r.run between = some r')
    (hr' : r'.phases[i]? = some (.fetching fetched)) (hkept : .invalidate ∉ between) :
    r'.store.entry = r.store.entry := by
  induction between generalizing r with
  | nil => rw [Option.some.inj hrun]
  | cons m moves ih =>
    obtain ⟨a, hmoved, hrest⟩ := run_cons_eq_some_iff.mp hrun
    have hother : m.call? ≠ some i := by
      intro hm
      obtain ⟨q, p, hq, hp, hturn⟩ := hmoved.turn hm
      obtain rfl := Option.some.inj (hr.symm.trans hq)
      refine not_isOver_of_fetching hrest hr' ⟨p, hp, ?_⟩
      cases hturn <;> rfl
    have htouch : ¬ m.TouchesEntry := by
      cases hmoved with
      -- whoever stores holds the lock, which the running fetch does
      | stored storing =>
        exact absurd (congrArg some (hguarded.eq_of_holdsLock storing rfl hr rfl)) hother
      | dropped => exact absurd List.mem_cons_self hkept
      | _ => exact id
    rw [← hmoved.entry_eq htouch]
    exact ih (hmoved.guarded hguarded) ((hmoved.phase_of_other hother).trans hr) hrest
      fun hmem => hkept (List.mem_cons_of_mem m hmem)

/-- From the check that starts a fetch to its end only an invalidation touches the entry. -/
theorem entry_eq_since_check {a : Room σ ε α} (hguarded : Guarded r.holder r.phases)
    (hcheck : r.Moved (.check i) a) (hrun : a.run between = some r')
    (hr' : r'.phases[i]? = some (.fetching fetched)) (hkept : .invalidate ∉ between) :
    r'.store.entry = r.store.entry := by
  rw [← hcheck.entry_eq id]
  obtain ⟨q, p, hq, hp, hturn⟩ := hcheck.turn rfl
  cases hturn with
  -- a check that served the call would have left it no fetch to run
  | servedLate => exact absurd ⟨_, hp, rfl⟩ (not_isOver_of_fetching hrun hr')
  | started => exact run_entry_eq (hcheck.guarded hguarded) hp hrun hr' hkept

/-! ## The line -/

/-- Those in line wait, each at one place. -/
structure Lined (r : Room σ ε α) : Prop where
  waiting : ∀ i ∈ r.line, r.phases[i]? = some .waiting
  nodup : r.line.Nodup

theorem lined_opened : (opened store calls).Lined := ⟨nofun, .nil⟩

/-- A call that does not wait is not in line. -/
theorem Lined.not_mem {p : Phase ε α} (h : r.Lined) (hi : r.phases[i]? = some p)
    (hp : p ≠ .waiting) : i ∉ r.line :=
  fun hmem => hp (Option.some.inj (hi.symm.trans (h.waiting i hmem)))

/-- A call that is not in line goes on, and the line stays. -/
theorem Lined.keep {p q : Phase ε α} (h : r.Lined) (hi : r.phases[i]? = some q) (hq : q ≠ .waiting)
    (hphases : r'.phases = r.phases.set i p) (hline : r'.line = r.line) : r'.Lined := by
  refine ⟨fun j hj => ?_, hline ▸ h.nodup⟩
  rw [hline] at hj
  have hne : j ≠ i := by
    rintro rfl
    exact h.not_mem hi hq hj
  rw [hphases, getElem?_set_phase_of_ne hi hne]
  exact h.waiting j hj

/-- A move keeps the line: a call that finds nothing fresh goes to its end, and the one that takes
the lock leaves it. -/
theorem Moved.lined (h : r.Moved m r') (hr : r.Lined) : r'.Lined := by
  cases h with
  | servedAtOnce idle => exact hr.keep idle nofun rfl rfl
  | @queued i call idle =>
    have hnew : i ∉ r.line := hr.not_mem idle nofun
    refine ⟨fun j hj => ?_, ?_⟩
    · rcases List.mem_append.mp hj with hj | hj
      · exact (getElem?_set_phase_of_ne idle fun heq => hnew (heq ▸ hj)).trans (hr.waiting j hj)
      · obtain rfl := List.mem_singleton.mp hj
        exact getElem?_set_phase_self idle
    · refine List.nodup_append.mpr ⟨hr.nodup, List.pairwise_singleton _ i, fun j hj k hk => ?_⟩
      rw [List.mem_singleton.mp hk]
      exact fun heq => hnew (heq ▸ hj)
  | admitted waiting =>
    refine ⟨fun j hj => ?_, hr.nodup.erase _⟩
    obtain ⟨hne, hmem⟩ := hr.nodup.mem_erase_iff.mp hj
    exact (getElem?_set_phase_of_ne waiting hne).trans (hr.waiting j hmem)
  | servedLate admitted => exact hr.keep admitted nofun rfl rfl
  | started admitted => exact hr.keep admitted nofun rfl rfl
  | failed fetching => exact hr.keep fetching nofun rfl rfl
  | fetched fetching => exact hr.keep fetching nofun rfl rfl
  | stored storing => exact hr.keep storing nofun rfl rfl
  | advanced => exact ⟨hr.waiting, hr.nodup⟩
  | dropped => exact ⟨hr.waiting, hr.nodup⟩

/-- In every run those in line wait, each at one place. -/
theorem lined_of_run (hrun : (opened store calls).run moves = some r) : r.Lined :=
  run_preserves (fun h hm => hm.lined h) lined_opened hrun

/-! ## Whoever comes next -/

/-- The move with which a call checks the entry next: it arrives, or it holds the lock and checks
again. -/
inductive ChecksWith (r : Room σ ε α) (j : Nat) : Move → Prop where
  | first (idle : r.phases[j]? = some .idle) : ChecksWith r j (.arrive j)
  | second (admitted : r.phases[j]? = some .admitted) : ChecksWith r j (.check j)

/-- A check that finds a fresh entry answers the call with it. -/
theorem ChecksWith.moved_of_fresh (h : r.ChecksWith j m) (hmade : r.calls[j]? = some call)
    (hfresh : r.store.fresh? call.ttl = some value) :
    ∃ next, r.Moved m next ∧ next.phases[j]? = some (.done (.ok ⟨value, .cache⟩)) := by
  cases h with
  | first idle => exact ⟨_, .servedAtOnce idle hmade hfresh, getElem?_set_phase_self idle⟩
  | second admitted => exact ⟨_, .servedLate admitted hmade hfresh, getElem?_set_phase_self admitted⟩

/-- A check that finds nothing fresh leaves the call without an answer, in line or with a fetch of
its own. -/
theorem ChecksWith.moved_of_stale (h : r.ChecksWith j m) (hmade : r.calls[j]? = some call)
    (hstale : r.store.IsStale call.ttl) :
    ∃ next p, r.Moved m next ∧ next.phases[j]? = some p ∧ p.answer? = none := by
  cases h with
  | first idle => exact ⟨_, .waiting, .queued idle hmade hstale, getElem?_set_phase_self idle, rfl⟩
  | second admitted =>
    exact ⟨_, .fetching _, .started admitted hmade hstale, getElem?_set_phase_self admitted, rfl⟩

/-- A check serves the entry while it is younger than the time to live, and else serves nothing. Both
kinds of check are meant: the one on arrival, and the one behind the lock. -/
theorem ChecksWith.served_iff (h : r.ChecksWith j m) (hmade : r.calls[j]? = some call) :
    ∃ next, r.step m = some next ∧ ∀ served, next.phases[j]? = some (.done (.ok served)) ↔
      ∃ entry, r.store.entry = some entry ∧ (entry.age r.store.clock : Int) < call.ttl ∧
        served = ⟨entry.value, .cache⟩ := by
  cases hfresh : r.store.fresh? call.ttl with
  | some value =>
    obtain ⟨next, hmoved, hdone⟩ := h.moved_of_fresh hmade hfresh
    obtain ⟨entry, hentry, hyoung, rfl⟩ := Store.fresh?_eq_some_iff.mp hfresh
    refine ⟨next, hmoved.step, fun served => ?_⟩
    rw [hdone, hentry]
    constructor
    · rintro ⟨⟩
      exact ⟨entry, rfl, hyoung, rfl⟩
    · rintro ⟨_, ⟨⟩, _, rfl⟩
      rfl
  | none =>
    have hstale := Store.fresh?_eq_none_iff.mp hfresh
    obtain ⟨next, p, hmoved, hp, hanswer⟩ := h.moved_of_stale hmade hstale
    refine ⟨next, hmoved.step, fun served => iff_of_false ?_ ?_⟩
    · rw [hp]
      rintro ⟨⟩
      cases hanswer
    · rintro ⟨entry, hentry, hyoung, _⟩
      exact Int.not_lt.mpr (hstale entry hentry) hyoung

/-- The holder of the lock can check again, and fetches if the entry is stale. -/
theorem check_admitted (hadmitted : r.phases[j]? = some .admitted)
    (hmade : r.calls[j]? = some call) :
    ∃ next, r.step (.check j) = some next ∧
      next.phases[j]? = some (match r.store.fresh? call.ttl with
        | some value => .done (.ok ⟨value, .cache⟩)
        | none => .fetching (call.fetch r.store.source).1) := by
  cases hfresh : r.store.fresh? call.ttl with
  | some value =>
    have hserved := Moved.servedLate hadmitted hmade hfresh
    exact ⟨_, hserved.step, getElem?_set_phase_self hadmitted⟩
  | none =>
    have hstarted := Moved.started hadmitted hmade (Store.fresh?_eq_none_iff.mp hfresh)
    exact ⟨_, hstarted.step, getElem?_set_phase_self hadmitted⟩

/-- Whoever waits while the lock is free can take it and check for itself. -/
theorem take_check (hwaiting : r.phases[j]? = some .waiting) (hfree : r.holder = none)
    (hmade : r.calls[j]? = some call) :
    ∃ admitted next, r.step (.take j) = some admitted ∧ admitted.step (.check j) = some next ∧
      next.phases[j]? = some (match r.store.fresh? call.ttl with
        | some value => .done (.ok ⟨value, .cache⟩)
        | none => .fetching (call.fetch r.store.source).1) := by
  have htake := Moved.admitted hwaiting hfree
  obtain ⟨next, hcheck, hnext⟩ := check_admitted (r := r.take j) (getElem?_set_phase_self hwaiting)
    hmade
  exact ⟨_, next, htake.step, hcheck, hnext⟩

/-- From here a call can return a value and store it as of a moment. -/
def CanStore (r : Room σ ε α) (j : Nat) (entry : Entry α) : Prop :=
  ∃ through stored, r.run through = some stored ∧
    stored.phases[j]? = some (.done (.ok ⟨entry.value, .network⟩)) ∧
    stored.store.entry = some entry

/-- What can be stored after a move could be stored before it. -/
theorem CanStore.of_moved {entry : Entry α} (h : r'.CanStore j entry) (hm : r.Moved m r') :
    r.CanStore j entry := by
  obtain ⟨through, stored, hrun, hdone, hentry⟩ := h
  exact ⟨m :: through, stored, run_cons_eq_some_iff.mpr ⟨r', hm, hrun⟩, hdone, hentry⟩

/-- A call whose fetch has given a value can store it. -/
theorem canStore_of_storing {entry : Entry α} (h : r.phases[j]? = some (.storing entry)) :
    r.CanStore j entry :=
  ⟨[.store j], _, run_singleton.trans (Moved.stored h).step, getElem?_set_phase_self h, rfl⟩

/-- A fetch of a value can run for as long as it takes, and the value is then stored. -/
theorem canStore_of_fetching (h : r.phases[j]? = some (.fetching fetched))
    (hresult : fetched.result = .ok value) :
    r.CanStore j ⟨value, r.store.clock.advance fetched.delay⟩ := by
  let later : Room σ ε α := { r with store := r.store.advance fetched.delay }
  have hended : later.Moved (.finish j) _ := .fetched h hresult
  have hstoring : (later.setPhase j (.storing ⟨value, later.store.clock⟩)).phases[j]? =
      some (.storing ⟨value, later.store.clock⟩) := getElem?_set_phase_self h
  exact ((canStore_of_storing hstoring).of_moved hended).of_moved (.advanced fetched.delay)

/-- A call that holds the lock and finds nothing fresh can store what its fetch gives, as of the
moment when the fetch ends. -/
theorem canStore_of_admitted (h : r.phases[j]? = some .admitted) (hmade : r.calls[j]? = some call)
    (hstale : r.store.IsStale call.ttl)
    (hresult : (call.fetch r.store.source).1.result = .ok value) :
    r.CanStore j ⟨value, r.store.clock.advance (call.fetch r.store.source).1.delay⟩ := by
  have hstarted := Moved.started h hmade hstale
  refine CanStore.of_moved ?_ hstarted
  exact canStore_of_fetching (getElem?_set_phase_self h) hresult

/-- A call in line can store what its fetch gives, if the lock is free for it. -/
theorem canStore_of_waiting (h : r.phases[j]? = some .waiting) (hfree : r.holder = none)
    (hmade : r.calls[j]? = some call) (hstale : r.store.IsStale call.ttl)
    (hresult : (call.fetch r.store.source).1.result = .ok value) :
    r.CanStore j ⟨value, r.store.clock.advance (call.fetch r.store.source).1.delay⟩ := by
  refine CanStore.of_moved ?_ (.admitted h hfree)
  exact canStore_of_admitted (getElem?_set_phase_self h) hmade hstale hresult

/-- A call that finds the lock free and the entry stale, and whose fetch gives a value, can go
through to its end. -/
theorem canStore_of_free (h : r.phases[j]? = some .idle ∨ r.phases[j]? = some .waiting)
    (hfree : r.holder = none) (hmade : r.calls[j]? = some call)
    (hstale : r.store.IsStale call.ttl)
    (hresult : (call.fetch r.store.source).1.result = .ok value) :
    r.CanStore j ⟨value, r.store.clock.advance (call.fetch r.store.source).1.delay⟩ := by
  rcases h with hidle | hwaiting
  · refine CanStore.of_moved ?_ (.queued hidle hmade hstale)
    exact canStore_of_waiting (getElem?_set_phase_self hidle) hfree hmade hstale hresult
  · exact canStore_of_waiting hwaiting hfree hmade hstale hresult

/-- How far a call has come whose fetch gave a value. -/
inductive Bringing (fetched : Fetched ε α) (value : α) (j : Nat) (made : List Move)
    (r : Room σ ε α) : Prop where
  | fetching (phase : r.phases[j]? = some (.fetching fetched))
  | storing {entry : Entry α} (phase : r.phases[j]? = some (.storing entry))
      (value_eq : entry.value = value)
  | stored (phase : r.phases[j]? = some (.done (.ok ⟨value, .network⟩))) (mem : .store j ∈ made)

/-- Whatever others do, a call whose fetch gives a value goes on with it, and no move but its own
takes it further. -/
theorem Moved.bringing {made : List Move} (h : r.Moved m r') (hresult : fetched.result = .ok value)
    (hr : Bringing fetched value j made r) : Bringing fetched value j (made ++ [m]) r' := by
  by_cases hm : m.call? = some j
  · obtain ⟨q, p, hq, hp, hturn⟩ := h.turn hm
    cases hr with
    | fetching phase =>
      obtain rfl := Option.some.inj (hq.symm.trans phase)
      cases hturn with
      | failed result => cases result.symm.trans hresult
      | fetched result =>
        exact .storing hp (Except.ok.inj (result.symm.trans hresult))
    | storing phase value_eq =>
      obtain rfl := Option.some.inj (hq.symm.trans phase)
      cases hturn with
      | stored => exact .stored (value_eq ▸ hp) (List.mem_append_right _ List.mem_cons_self)
    | stored phase => exact absurd hm (h.call_ne_of_done phase)
  · have hsame := h.phase_of_other hm
    cases hr with
    | fetching phase => exact .fetching (hsame.trans phase)
    | storing phase value_eq => exact .storing (hsame.trans phase) value_eq
    | stored phase mem => exact .stored (hsame.trans phase) (List.mem_append_left _ mem)

/-- A call whose fetch gives a value has stored it when it is answered, and is answered with it,
whatever the others do meanwhile. -/
theorem stored_of_fetching {answer : Except ε (Served α)}
    (hr : r.phases[j]? = some (.fetching fetched)) (hresult : fetched.result = .ok value)
    (hrun : r.run moves = some r') (hr' : r'.phases[j]? = some (.done answer)) :
    answer = .ok ⟨value, .network⟩ ∧ .store j ∈ moves := by
  have hbringing : Bringing fetched value j moves r' :=
    run_traces (motive := Bringing fetched value j) (fun h hm => hm.bringing hresult h)
      (.fetching hr) hrun
  cases hbringing with
  | fetching phase => cases phase.symm.trans hr'
  | storing phase => cases phase.symm.trans hr'
  | stored phase mem => exact ⟨Phase.done.inj (Option.some.inj (hr'.symm.trans phase)), mem⟩

/-- A fetch that fails, in any run of calls on any handles, leaves everything else as it was. Its
error is the answer of the call that made it, and whoever has an error for an answer got it from a
fetch of its own. The store and the line are unchanged, and the entry is the one that the call found
when it started its fetch, unless that was dropped. Until somebody stores or drops, every check
serves it as before, by its old age. The lock is free: whoever is in line can take it, check for
itself and fetch. And whatever comes after, a call that finds the lock free and the entry stale, and
whose fetch gives a value, can return and store it; and no call whose fetch gives a value is
answered anything else, or before it has stored the value. -/
theorem failed_fetch_leaves_all_else (store : Store σ α) (calls : List (Call σ ε α))
    (moves : List Move) (r : Room σ ε α) (i : Nat) (fetched : Fetched ε α) (e : ε)
    (hrun : (opened store calls).run moves = some r)
    (hfetching : r.phases[i]? = some (.fetching fetched)) (hfail : fetched.result = .error e) :
    ∃ failed, r.step (.finish i) = some failed ∧
      failed.phases = r.phases.set i (.done (.error e)) ∧
      (∀ j e', failed.phases[j]? = some (.done (.error e')) →
        (opened store calls).FailedItself (moves ++ [.finish i]) j e') ∧
      failed.store = r.store ∧ failed.line = r.line ∧
      (∀ before between started, moves = before ++ .check i :: between →
        .invalidate ∉ between → (opened store calls).run before = some started →
        failed.store.entry = started.store.entry) ∧
      (∀ later r', failed.run later = some r' → (∀ m ∈ later, ¬ m.TouchesEntry) →
        r'.store.entry = r.store.entry ∧
        ∀ j call m, calls[j]? = some call → r'.ChecksWith j m → ∃ next, r'.step m = some next ∧
          ∀ served, next.phases[j]? = some (.done (.ok served)) ↔
            ∃ entry, r.store.entry = some entry ∧ (entry.age r'.store.clock : Int) < call.ttl ∧
              served = ⟨entry.value, .cache⟩) ∧
      failed.holder = none ∧
      (∀ j ∈ failed.line, ∃ call admitted next, calls[j]? = some call ∧
        failed.step (.take j) = some admitted ∧ admitted.step (.check j) = some next ∧
        next.phases[j]? = some (match failed.store.fresh? call.ttl with
          | some value => .done (.ok ⟨value, .cache⟩)
          | none => .fetching (call.fetch failed.store.source).1)) ∧
      (∀ later r' j call value, failed.run later = some r' → r'.holder = none →
        calls[j]? = some call →
        (r'.phases[j]? = some .idle ∨ r'.phases[j]? = some .waiting) →
        r'.store.IsStale call.ttl → (call.fetch r'.store.source).1.result = .ok value →
        r'.CanStore j ⟨value, r'.store.clock.advance (call.fetch r'.store.source).1.delay⟩) ∧
      (∀ later r' j running value, failed.run later = some r' →
        r'.phases[j]? = some (.fetching running) → running.result = .ok value →
        ∀ more r'' answer, r'.run more = some r'' → r''.phases[j]? = some (.done answer) →
          answer = .ok ⟨value, .network⟩ ∧ .store j ∈ more) := by
  obtain ⟨failed, hmoved, hphases, hstore, hline, hfree⟩ : ∃ failed, r.Moved (.finish i) failed ∧
      failed.phases = r.phases.set i (.done (.error e)) ∧ failed.store = r.store ∧
      failed.line = r.line ∧ failed.holder = none :=
    ⟨_, .failed hfetching hfail, rfl, rfl, rfl, rfl⟩
  have hrun' := run_concat_eq_some_iff.mpr ⟨r, hrun, hmoved⟩
  have hcalls : failed.calls = calls := run_calls_eq hrun'
  refine ⟨failed, hmoved.step, hphases, (ownFetches_of_run hrun').failed, hstore, hline, ?_, ?_,
    hfree, ?_, ?_, ?_⟩
  · -- since the check only others could have moved, and none of them stores while the lock is held
    rintro before between started rfl hkept hbefore
    obtain ⟨a, ha, hrest⟩ := run_append_eq_some_iff.mp hrun
    obtain rfl := Option.some.inj (ha.symm.trans hbefore)
    obtain ⟨b, hcheck, hbetween⟩ := run_cons_eq_some_iff.mp hrest
    rw [hstore]
    exact entry_eq_since_check (guarded_of_run ha) hcheck hbetween hfetching hkept
  · -- later checks read an entry that nobody has touched
    intro later r' hlater huntouched
    have hentry : r'.store.entry = r.store.entry :=
      (run_entry_eq_of_untouched hlater huntouched).trans (congrArg Store.entry hstore)
    refine ⟨hentry, fun j call m hmade hm => ?_⟩
    rw [← hentry]
    rw [← hcalls, ← run_calls_eq hlater] at hmade
    exact hm.served_iff hmade
  · -- whoever is in line waits, so it can take the lock that is free now
    intro j hj
    have hwaiting := (lined_of_run hrun').waiting j hj
    obtain ⟨hlt, _⟩ := List.getElem?_eq_some_iff.mp hwaiting
    rw [length_phases_of_run hrun'] at hlt
    have hmade := List.getElem?_eq_getElem hlt
    have hmade' : failed.calls[j]? = some calls[j] := by rw [hcalls, hmade]
    obtain ⟨admitted, next, htake, hcheck, hnext⟩ := take_check hwaiting hfree hmade'
    exact ⟨_, admitted, next, hmade, htake, hcheck, hnext⟩
  · intro later r' j call value hlater hfree' hmade hready hstale hresult
    rw [← hcalls, ← run_calls_eq hlater] at hmade
    exact canStore_of_free hready hfree' hmade hstale hresult
  · intro later r' j running value _ hrunning hresult more r'' answer hmore hdone
    exact stored_of_fetching hrunning hresult hmore hdone

/-- An entry of time 0 is held at time 10. A call for which it is too old fails after 5
milliseconds; a call with a longer time to live is still served the entry, and the one in line can
store its value by time 18. -/
theorem failed_fetch_leaves_all_else_while_one_waits :
    let call (ttl : Int) (fetched : Fetched String String) : Call Unit String String :=
      ⟨ttl, fun source => (fetched, source)⟩
    let calls := [call 5 ⟨.error "down", 5⟩, call 60 ⟨.ok "unasked", 0⟩, call 5 ⟨.ok "new", 3⟩]
    let store : Store Unit String := ⟨some ⟨"old", ⟨0, 0⟩⟩, ⟨10, 10⟩, (), 1⟩
    let moves : List Move := [.arrive 0, .arrive 2, .take 0, .check 0, .advance 5]
    ∃ r failed next, (opened store calls).run moves = some r ∧
      r.phases[0]? = some (.fetching ⟨.error "down", 5⟩) ∧ r.step (.finish 0) = some failed ∧
      failed.step (.arrive 1) = some next ∧
      next.phases[1]? = some (.done (.ok ⟨"old", .cache⟩)) ∧
      failed.CanStore 2 ⟨"new", ⟨18, 18⟩⟩ := by
  intro call calls store moves
  obtain ⟨failed, hstep, _, _, hstore, _, _, hserved, _, _, hgoesOn, _⟩ :=
    failed_fetch_leaves_all_else store calls moves _ 0 ⟨.error "down", 5⟩ "down" rfl rfl rfl
  obtain rfl := Option.some.inj hstep
  obtain ⟨_, hchecks⟩ := hserved [] _ rfl nofun
  obtain ⟨next, harrive, hnext⟩ := hchecks 1 (call 60 ⟨.ok "unasked", 0⟩) _ rfl (.first rfl)
  refine ⟨_, _, next, rfl, rfl, rfl, harrive, ?_, ?_⟩
  · exact (hnext _).mpr ⟨⟨"old", ⟨0, 0⟩⟩, rfl, by decide, rfl⟩
  · refine hgoesOn [] _ 2 (call 5 ⟨.ok "new", 3⟩) "new" rfl rfl rfl (Or.inr rfl) ?_ rfl
    intro e he
    obtain rfl := Option.some.inj he
    decide

end Room

end Workday.Cache
