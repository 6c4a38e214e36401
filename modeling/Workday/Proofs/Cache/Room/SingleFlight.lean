import Workday.Proofs.Cache.Room.Moves

/-!
# One fetch at a time

However the moves of any number of calls are interleaved with each other, with the passing of time
and with invalidations, at most one fetch runs, and a fetch starts only at a moment at which the
entry is missing or too old for the handle that starts it. So a stored value is followed by a
further fetch only once it was dropped or has reached the time to live of the handle that fetches.

The invariant is `Guarded`: the refresh lock is held by the one call that is past it. The second
check, made under the lock, is what ties the start of a fetch to the age of the entry.
-/

set_option autoImplicit false

namespace Workday.Cache

variable {σ ε α : Type}

/-! ## The lock -/

/-- The refresh lock is held exactly by the call that has taken it and not given it up. -/
def Guarded (holder : Option Nat) (phases : List (Phase ε α)) : Prop :=
  ∀ i, holder = some i ↔ ∃ p, phases[i]? = some p ∧ p.holdsLock = true

section Lock

variable {holder : Option Nat} {phases : List (Phase ε α)} {i j : Nat} {p q : Phase ε α}

/-- Two calls that hold the lock are one call. -/
theorem Guarded.eq_of_holdsLock (h : Guarded holder phases) (hi : phases[i]? = some p)
    (hp : p.holdsLock = true) (hj : phases[j]? = some q) (hq : q.holdsLock = true) : i = j := by
  have hholder := (h i).mpr ⟨p, hi, hp⟩
  rw [(h j).mpr ⟨q, hj, hq⟩] at hholder
  exact (Option.some.inj hholder).symm

/-- A call goes on without taking or giving up the lock. -/
theorem Guarded.keep (h : Guarded holder phases) (hi : phases[i]? = some q)
    (hsame : p.holdsLock = q.holdsLock) : Guarded holder (phases.set i p) := by
  intro j
  rw [h j, Room.getElem?_set_phase hi]
  by_cases hj : j = i
  · rw [if_pos hj, hj, hi]
    simp only [Option.some.injEq, exists_eq_left', hsame]
  · rw [if_neg hj]

/-- A call takes the lock, which nobody holds. -/
theorem Guarded.take (h : Guarded none phases) (hi : phases[i]? = some q)
    (hp : p.holdsLock = true) : Guarded (some i) (phases.set i p) := by
  intro j
  rw [Room.getElem?_set_phase hi]
  by_cases hj : j = i
  · rw [if_pos hj, hj]
    simp only [Option.some.injEq, exists_eq_left', hp]
  · rw [if_neg hj, ← h j]
    simp only [Option.some.injEq, reduceCtorEq, iff_false]
    exact Ne.symm hj

/-- The holder gives up the lock. -/
theorem Guarded.release (h : Guarded holder phases) (hi : phases[i]? = some q)
    (hq : q.holdsLock = true) (hp : p.holdsLock = false) : Guarded none (phases.set i p) := by
  intro j
  rw [Room.getElem?_set_phase hi]
  by_cases hj : j = i
  · rw [if_pos hj]
    simp only [reduceCtorEq, Option.some.injEq, exists_eq_left', hp, Bool.false_eq_true]
  · rw [if_neg hj]
    simp only [reduceCtorEq, false_iff]
    rintro ⟨p', hp', hlock⟩
    exact hj (h.eq_of_holdsLock hp' hlock hi hq)

end Lock

namespace Room

variable {r r' : Room σ ε α} {m : Move} {moves : List Move} {i j : Nat}

/-- In a room where no call has arrived no one holds the lock. -/
theorem guarded_opened (store : Store σ α) (calls : List (Call σ ε α)) :
    Guarded (opened store calls).holder (opened store calls).phases := by
  refine fun i => iff_of_false nofun ?_
  rintro ⟨p, hi, hp⟩
  obtain rfl := eq_idle_of_opened hi
  cases hp

/-- What every move does to the lock. It is taken only while it is free, and given up by the call that
has it, so at most one call is ever behind it and that call is its holder. -/
theorem Moved.guarded (h : r.Moved m r') (hr : Guarded r.holder r.phases) :
    Guarded r'.holder r'.phases := by
  cases h with
  | servedAtOnce idle => exact hr.keep idle rfl
  | queued idle => exact hr.keep idle rfl
  | admitted waiting free => exact Guarded.take (free ▸ hr) waiting rfl
  | servedLate admitted => exact hr.release admitted rfl rfl
  | started admitted => exact hr.keep admitted rfl
  | failed fetching => exact hr.release fetching rfl rfl
  | fetched fetching => exact hr.keep fetching rfl
  | stored storing => exact hr.release storing rfl rfl
  | advanced => exact hr
  | dropped => exact hr

/-- In every state that can be reached the lock is held by the one call that is past it. -/
theorem guarded_of_run {store : Store σ α} {calls : List (Call σ ε α)}
    (hrun : (opened store calls).run moves = some r) : Guarded r.holder r.phases :=
  run_preserves (motive := fun a => Guarded a.holder a.phases) (fun h hm => hm.guarded h)
    (guarded_opened store calls) hrun

/-! ## The start of a fetch -/

/-- The fetch of a call is running. -/
def Fetching (r : Room σ ε α) (i : Nat) : Prop :=
  ∃ fetched, r.phases[i]? = some (.fetching fetched)

/-- Between two states the fetch of a call starts. -/
def StartsFetch (r r' : Room σ ε α) (i : Nat) : Prop := r'.Fetching i ∧ ¬ r.Fetching i

/-- A fetch starts with the second check of its call, at which the entry is stale. -/
theorem Moved.of_startsFetch (h : r.Moved m r') (hstarts : r.StartsFetch r' j) :
    ∃ call, r.calls[j]? = some call ∧ r.store.IsStale call.ttl ∧
      r'.store.clock = r.store.clock ∧ r'.store.fetches = r.store.fetches + 1 := by
  obtain ⟨⟨fetched, hfetching⟩, hnot⟩ := hstarts
  rcases h.phase_cases hfetching with ⟨_, hold⟩ | ⟨q, hq, hturn⟩
  · exact absurd ⟨fetched, hold⟩ hnot
  · cases hturn with
    | @started call made stale =>
      refine ⟨call, made, stale, ?_⟩
      cases h with
      | servedLate admitted => cases hfetching.symm.trans (getElem?_set_phase_self admitted)
      | started => exact ⟨rfl, rfl⟩

/-- A move that starts no fetch leaves their count as it was. -/
theorem Moved.fetches_eq (h : r.Moved m r') (hnone : ∀ i, ¬ r.StartsFetch r' i) :
    r'.store.fetches = r.store.fetches := by
  cases h with
  | @started i call admitted =>
    refine absurd ⟨⟨_, getElem?_set_phase_self admitted⟩, ?_⟩ (hnone i)
    rintro ⟨fetched, hfetching⟩
    cases admitted.symm.trans hfetching
  | _ => rfl

/-! ## Between a stored value and the next fetch -/

/-- No call has a fetch in flight. -/
def Quiet (r : Room σ ε α) : Prop := ∀ i, ¬ r.InFlight i

/-- Where the lock is free no fetch is in flight. -/
theorem quiet_of_free (h : Guarded r.holder r.phases) (hfree : r.holder = none) : r.Quiet := by
  rintro i ⟨p, hp, hflight⟩
  have hholder := (h i).mpr ⟨p, hp, Phase.holdsLock_of_isInFlight hflight⟩
  cases hfree.symm.trans hholder

/-- A move that starts no fetch leaves a quiet room quiet: a fetch is in flight only once it has been
counted. -/
theorem Moved.quiet (h : r.Moved m r') (hquiet : r.Quiet)
    (hfetches : r'.store.fetches = r.store.fetches) : r'.Quiet := by
  rintro i ⟨p, hp, hflight⟩
  rcases h.phase_cases hp with ⟨_, hold⟩ | ⟨q, hq, hturn⟩
  · exact hquiet i ⟨p, hold, hflight⟩
  · cases hturn with
    | started =>
      have hnot : ¬ r.Fetching i := by
        rintro ⟨fetched, hfetching⟩
        cases hq.symm.trans hfetching
      obtain ⟨_, _, _, _, hsucc⟩ := h.of_startsFetch ⟨⟨_, hp⟩, hnot⟩
      omega
    | fetched => exact hquiet i ⟨_, hq, rfl⟩
    | _ => cases hflight

/-- While nothing is in flight only an invalidation touches the entry. -/
theorem Moved.entry_eq_of_quiet (h : r.Moved m r') (hquiet : r.Quiet) (hm : m ≠ .invalidate) :
    r'.store.entry = r.store.entry := by
  cases h with
  | stored storing => exact absurd ⟨_, storing, rfl⟩ (hquiet _)
  | dropped => exact absurd rfl hm
  | _ => rfl

/-- While nothing is in flight and no fetch starts, only an invalidation touches the entry: nobody has
anything to store. -/
theorem run_keeps_entry (hquiet : r.Quiet) (hrun : r.run moves = some r')
    (hfetches : r'.store.fetches = r.store.fetches) (hmoves : .invalidate ∉ moves) :
    r'.store.entry = r.store.entry := by
  induction moves generalizing r with
  | nil => rw [Option.some.inj hrun]
  | cons m moves ih =>
    obtain ⟨a, hmoved, hrest⟩ := run_cons_eq_some_iff.mp hrun
    have hfirst := hmoved.fetches_le
    have hlast := run_fetches_le hrest
    have hsame : a.store.fetches = r.store.fetches := by omega
    have hentry : a.store.entry = r.store.entry :=
      hmoved.entry_eq_of_quiet hquiet fun hm => hmoves (hm ▸ List.mem_cons_self)
    rw [← hentry]
    exact ih (hmoved.quiet hquiet hsame) hrest (by omega) fun hm =>
      hmoves (List.mem_cons_of_mem m hm)

/-- A fetched value that is not yet stored was marked in the past. -/
def Stamped (r : Room σ ε α) : Prop :=
  ∀ (i : Nat) (e : Entry α), r.phases[i]? = some (.storing e) →
    e.storedAt.monotonic ≤ r.store.clock.monotonic

/-- In a room where no call has arrived nothing has been fetched. -/
theorem stamped_opened (store : Store σ α) (calls : List (Call σ ε α)) :
    (opened store calls).Stamped := by
  intro i e hi
  cases eq_idle_of_opened hi

/-- A move keeps it so that fetched values were marked in the past: a value is marked by the clock
when its fetch ends, and time does not go back. -/
theorem Moved.stamped (h : r.Moved m r') (hr : r.Stamped) : r'.Stamped := by
  intro i e hi
  refine Nat.le_trans ?_ h.clock_le
  rcases h.phase_cases hi with ⟨_, hold⟩ | ⟨q, hq, hturn⟩
  · exact hr i e hold
  · cases hturn
    exact Nat.le_refl _

/-- In every run fetched values were marked in the past. -/
theorem stamped_of_run {store : Store σ α} {calls : List (Call σ ε α)}
    (hrun : (opened store calls).run moves = some r) : r.Stamped :=
  run_preserves (fun h hm => hm.stamped h) (stamped_opened store calls) hrun

/-- Once a value is held and nothing is in flight, the next fetch starts only after the value was
dropped, or after the time to live of the handle that fetches. -/
theorem ttl_le_of_next_fetch {next : Room σ ε α} {call : Call σ ε α} {e : Entry α}
    (hquiet : r.Quiet) (hentry : r.store.entry = some e)
    (hpast : e.storedAt.monotonic ≤ r.store.clock.monotonic) (hrun : r.run moves = some r')
    (hfetches : r'.store.fetches = r.store.fetches) (hmoves : .invalidate ∉ moves)
    (hmoved : r'.Moved m next) (hstarts : r'.StartsFetch next j)
    (hcall : r'.calls[j]? = some call) :
    call.ttl ≤ (r'.store.clock.monotonic : Int) - e.storedAt.monotonic := by
  obtain ⟨call', hmade, hstale, _, _⟩ := hmoved.of_startsFetch hstarts
  obtain rfl : call' = call := Option.some.inj (hmade.symm.trans hcall)
  have hkept := run_keeps_entry hquiet hrun hfetches hmoves
  have hage := hstale e (hkept.trans hentry)
  have hclock := run_clock_le hrun
  unfold Entry.age at hage
  omega

/-- In every run, of any calls and from any state of the cache: at most one fetch is running; a
fetch starts only at an instant at which the entry is missing or stale for the handle that starts
it; and between the storing of a value, marked with the time at which its fetch ended, and the next
start of a fetch, either the entry was dropped or the time to live of the handle that fetches has
passed. -/
theorem single_flight (store : Store σ α) (calls : List (Call σ ε α)) (moves : List Move)
    (r : Room σ ε α) (hrun : (opened store calls).run moves = some r) :
    (∀ i j, r.Fetching i → r.Fetching j → i = j) ∧
    (∀ m r', r.step m = some r' →
      (∀ i, r.StartsFetch r' i → ∃ call, calls[i]? = some call ∧ r.store.IsStale call.ttl ∧
        r'.store.clock = r.store.clock ∧ r'.store.fetches = r.store.fetches + 1) ∧
      ((∀ i, ¬ r.StartsFetch r' i) → r'.store.fetches = r.store.fetches)) ∧
    (∀ i e stored, r.phases[i]? = some (.storing e) → r.step (.store i) = some stored →
      stored.store.entry = some e ∧
      ∀ between before m next j call, stored.run between = some before →
        before.store.fetches = stored.store.fetches → before.step m = some next →
        before.StartsFetch next j → calls[j]? = some call →
        .invalidate ∈ between ∨
          call.ttl ≤ (before.store.clock.monotonic : Int) - e.storedAt.monotonic) := by
  have hguarded := guarded_of_run hrun
  have hcalls : r.calls = calls := run_calls_eq hrun
  refine ⟨?_, ?_, ?_⟩
  · rintro i j ⟨f, hi⟩ ⟨g, hj⟩
    exact hguarded.eq_of_holdsLock hi rfl hj rfl
  · intro m r' hstep
    have hmoved := Moved.of_step hstep
    exact ⟨fun i hi => hcalls ▸ hmoved.of_startsFetch hi, hmoved.fetches_eq⟩
  · intro i e stored hstoring hstep
    have hmoved := Moved.of_step hstep
    -- who stores lets go of the lock, so no fetch is running when the entry is there
    have hquiet : stored.Quiet := by
      refine quiet_of_free (hmoved.guarded hguarded) ?_
      cases hmoved
      rfl
    have hentry : stored.store.entry = some e := by
      cases hmoved with
      | stored storing =>
        cases hstoring.symm.trans storing
        rfl
    refine ⟨hentry, ?_⟩
    intro between before m next j call hbetween hfetches hnext hstarts hcall
    -- without an invalidation the next fetch has found this very entry too old
    by_cases hdropped : .invalidate ∈ between
    · exact Or.inl hdropped
    · have hpast := Nat.le_trans (stamped_of_run hrun i e hstoring) hmoved.clock_le
      have hkept : before.calls = calls :=
        (run_calls_eq hbetween).trans (hmoved.calls_eq.trans hcalls)
      exact Or.inr <| ttl_le_of_next_fetch hquiet hentry hpast hbetween hfetches hdropped
        (Moved.of_step hnext) hstarts (hkept ▸ hcall)

/-- Two calls find an empty cache. The first fetches until time 5; the second, with a time to live
of 10, gets the lock at time 15 and fetches again. -/
theorem single_flight_of_two_calls :
    let call (ttl : Int) (fetched : Fetched String Nat) : Call Unit String Nat :=
      ⟨ttl, fun source => (fetched, source)⟩
    let calls := [call 60 ⟨.ok 1, 5⟩, call 10 ⟨.ok 2, 0⟩]
    let moves : List Move := [.arrive 0, .arrive 1, .take 0, .check 0, .advance 5, .finish 0]
    ∃ r stored before next, (opened (.empty ⟨0, 0⟩ ()) calls).run moves = some r ∧
      r.step (.store 0) = some stored ∧ stored.run [.advance 10, .take 1] = some before ∧
      before.step (.check 1) = some next ∧ before.StartsFetch next 1 ∧
      stored.store.entry = some ⟨1, ⟨5, 5⟩⟩ ∧
      (10 : Int) ≤ before.store.clock.monotonic - (5 : Nat) := by
  intro call calls moves
  refine ⟨_, _, _, _, rfl, rfl, rfl, rfl, ⟨⟨_, rfl⟩, fun ⟨_, h⟩ => by cases h⟩, ?_⟩
  have law := single_flight (.empty ⟨0, 0⟩ ()) calls moves _ rfl
  obtain ⟨hentry, hnext⟩ := law.2.2 0 ⟨1, ⟨5, 5⟩⟩ _ rfl rfl
  refine ⟨hentry, ?_⟩
  have hstarts := hnext [.advance 10, .take 1] _ (.check 1) _ 1 (call 10 ⟨.ok 2, 0⟩) rfl rfl rfl
    ⟨⟨_, rfl⟩, fun ⟨_, h⟩ => by cases h⟩ rfl
  exact hstarts.resolve_left (by decide)

end Room

end Workday.Cache
