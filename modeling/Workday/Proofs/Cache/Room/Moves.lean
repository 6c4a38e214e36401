import Workday.Cache.Room
import Workday.Proofs.Cache.Store

/-!
# What a move can do

`Moved` lists the moves of a room with everything they need and everything they change, and
`step_eq_some_iff` says that it lists them all. The rest of the theory of overlapping calls argues
from this list and never opens `Room.step`.
-/

set_option autoImplicit false

namespace Workday.Cache

variable {σ ε α : Type}

/-- The call holds the refresh lock. -/
def Phase.holdsLock : Phase ε α → Bool
  | admitted | fetching _ | storing _ => true
  | _ => false

/-- The call has started a fetch and has not stored what it came to. -/
def Phase.isInFlight : Phase ε α → Bool
  | fetching _ | storing _ => true
  | _ => false

/-- The call whose move it is. -/
def Move.call? : Move → Option Nat
  | arrive i | take i | check i | finish i | store i => some i
  | advance _ | invalidate => none

/-- The move stores a value or drops the entry. -/
def Move.TouchesEntry : Move → Prop
  | store _ | invalidate => True
  | _ => False

/-- A call with a fetch in flight holds the lock. -/
theorem Phase.holdsLock_of_isInFlight {p : Phase ε α} (h : p.isInFlight = true) :
    p.holdsLock = true := by
  cases p with
  | fetching | storing => rfl
  | _ => cases h

namespace Room

variable {r r' r'' : Room σ ε α} {m : Move} {moves : List Move} {i j : Nat} {p q : Phase ε α}

/-- A call has a fetch in flight. -/
def InFlight (r : Room σ ε α) (i : Nat) : Prop :=
  ∃ p, r.phases[i]? = some p ∧ p.isInFlight = true

/-- Every way in which a move can go. -/
inductive Moved (r : Room σ ε α) : Move → Room σ ε α → Prop where
  /-- A call finds a fresh entry when it arrives. -/
  | servedAtOnce {i : Nat} {call : Call σ ε α} {value : α} (idle : r.phases[i]? = some .idle)
      (made : r.calls[i]? = some call) (fresh : r.store.fresh? call.ttl = some value) :
      Moved r (.arrive i) (r.setPhase i (.done (.ok ⟨value, .cache⟩)))
  /-- A call finds no fresh entry when it arrives. -/
  | queued {i : Nat} {call : Call σ ε α} (idle : r.phases[i]? = some .idle)
      (made : r.calls[i]? = some call) (stale : r.store.IsStale call.ttl) :
      Moved r (.arrive i) { r.setPhase i .waiting with line := r.line ++ [i] }
  /-- A waiting call takes the lock, which nobody holds. -/
  | admitted {i : Nat} (waiting : r.phases[i]? = some .waiting) (free : r.holder = none) :
      Moved r (.take i)
        { r.setPhase i .admitted with line := r.line.erase i, holder := some i }
  /-- The holder of the lock finds that the entry has become fresh. -/
  | servedLate {i : Nat} {call : Call σ ε α} {value : α} (admitted : r.phases[i]? = some .admitted)
      (made : r.calls[i]? = some call) (fresh : r.store.fresh? call.ttl = some value) :
      Moved r (.check i) { r.setPhase i (.done (.ok ⟨value, .cache⟩)) with holder := none }
  /-- The holder of the lock finds no fresh entry and starts its fetch. -/
  | started {i : Nat} {call : Call σ ε α} (admitted : r.phases[i]? = some .admitted)
      (made : r.calls[i]? = some call) (stale : r.store.IsStale call.ttl) :
      Moved r (.check i)
        { r.setPhase i (.fetching (call.fetch r.store.source).1) with
          store := (r.store.start call).2 }
  /-- A fetch ends with an error. -/
  | failed {i : Nat} {fetched : Fetched ε α} {e : ε}
      (fetching : r.phases[i]? = some (.fetching fetched)) (result : fetched.result = .error e) :
      Moved r (.finish i) { r.setPhase i (.done (.error e)) with holder := none }
  /-- A fetch ends with a value. -/
  | fetched {i : Nat} {fetched : Fetched ε α} {value : α}
      (fetching : r.phases[i]? = some (.fetching fetched)) (result : fetched.result = .ok value) :
      Moved r (.finish i) (r.setPhase i (.storing ⟨value, r.store.clock⟩))
  /-- A fetched value is stored. -/
  | stored {i : Nat} {entry : Entry α} (storing : r.phases[i]? = some (.storing entry)) :
      Moved r (.store i)
        { r.setPhase i (.done (.ok ⟨entry.value, .network⟩)) with
          store := { r.store with entry := some entry }, holder := none }
  | advanced (ms : Nat) : Moved r (.advance ms) { r with store := r.store.advance ms }
  | dropped : Moved r .invalidate { r with store := r.store.invalidate }

/-- A move that the room allows goes in one of these ways. This is the one place where the step is
unfolded: whatever a run preserves is shown from the cases of `Moved`. -/
theorem Moved.of_step (h : r.step m = some r') : r.Moved m r' := by
  cases m with
  | arrive i =>
    simp only [step] at h
    split at h
    next call idle made =>
      rw [← Option.some.inj h, arrive]
      cases hfresh : r.store.fresh? call.ttl with
      | some value => exact .servedAtOnce idle made hfresh
      | none => exact .queued idle made (Store.fresh?_eq_none_iff.mp hfresh)
    next => cases h
  | take i =>
    simp only [step] at h
    split at h
    next waiting free => exact Option.some.inj h ▸ .admitted waiting free
    next => cases h
  | check i =>
    simp only [step] at h
    split at h
    next call admitted made =>
      rw [← Option.some.inj h, check]
      cases hfresh : r.store.fresh? call.ttl with
      | some value => exact .servedLate admitted made hfresh
      | none => exact .started admitted made (Store.fresh?_eq_none_iff.mp hfresh)
    next => cases h
  | finish i =>
    simp only [step] at h
    split at h
    next fetched fetching =>
      rw [← Option.some.inj h]
      cases hresult : fetched.result with
      | ok value => exact .fetched fetching hresult
      | error e => exact .failed fetching hresult
    next => cases h
  | store i =>
    simp only [step] at h
    split at h
    next entry storing => exact Option.some.inj h ▸ .stored storing
    next => cases h
  | advance ms => exact Option.some.inj h ▸ .advanced ms
  | invalidate => exact Option.some.inj h ▸ .dropped

/-- The room allows each of these ways. -/
theorem Moved.step (h : r.Moved m r') : r.step m = some r' := by
  cases h with
  | servedAtOnce idle made fresh => simp only [Room.step, idle, made, arrive, fresh]
  | queued idle made stale =>
    simp only [Room.step, idle, made, arrive, Store.fresh?_eq_none_iff.mpr stale]
  | admitted waiting free =>
    simp only [Room.step, waiting, free]
    rfl
  | servedLate admitted made fresh => simp only [Room.step, admitted, made, check, fresh]
  | started admitted made stale =>
    simp only [Room.step, admitted, made, check, Store.fresh?_eq_none_iff.mpr stale]
    rfl
  | failed fetching result => simp only [Room.step, fetching, result, finish]
  | fetched fetching result => simp only [Room.step, fetching, result, finish]
  | stored storing =>
    simp only [Room.step, storing]
    rfl
  | advanced ms => rfl
  | dropped => rfl

/-- The list of moves is the step. -/
theorem step_eq_some_iff : r.step m = some r' ↔ r.Moved m r' := ⟨Moved.of_step, Moved.step⟩

/-! ## One call's view -/

/-- What a move does to the call whose move it is. -/
inductive Turn (r : Room σ ε α) (i : Nat) : Move → Phase ε α → Phase ε α → Prop where
  | servedAtOnce {call : Call σ ε α} {value : α} (made : r.calls[i]? = some call)
      (fresh : r.store.fresh? call.ttl = some value) :
      Turn r i (.arrive i) .idle (.done (.ok ⟨value, .cache⟩))
  | queued {call : Call σ ε α} (made : r.calls[i]? = some call) (stale : r.store.IsStale call.ttl) :
      Turn r i (.arrive i) .idle .waiting
  | admitted : Turn r i (.take i) .waiting .admitted
  | servedLate {call : Call σ ε α} {value : α} (made : r.calls[i]? = some call)
      (fresh : r.store.fresh? call.ttl = some value) :
      Turn r i (.check i) .admitted (.done (.ok ⟨value, .cache⟩))
  | started {call : Call σ ε α} (made : r.calls[i]? = some call)
      (stale : r.store.IsStale call.ttl) :
      Turn r i (.check i) .admitted (.fetching (call.fetch r.store.source).1)
  | failed {fetched : Fetched ε α} {e : ε} (result : fetched.result = .error e) :
      Turn r i (.finish i) (.fetching fetched) (.done (.error e))
  | fetched {fetched : Fetched ε α} {value : α} (result : fetched.result = .ok value) :
      Turn r i (.finish i) (.fetching fetched) (.storing ⟨value, r.store.clock⟩)
  | stored {entry : Entry α} :
      Turn r i (.store i) (.storing entry) (.done (.ok ⟨entry.value, .network⟩))

variable {phases : List (Phase ε α)}

/-- Calls that are doing different things are different calls. -/
theorem ne_of_phase (hi : phases[i]? = some p) (hj : phases[j]? = some q) (hpq : p ≠ q) :
    j ≠ i := by
  rintro rfl
  exact hpq (Option.some.inj (hi.symm.trans hj))

/-- When one phase is set the others stay as they are. -/
theorem getElem?_set_phase (h : phases[i]? = some q) :
    (phases.set i p)[j]? = if j = i then some p else phases[j]? := by
  obtain ⟨hi, _⟩ := List.getElem?_eq_some_iff.mp h
  rw [List.getElem?_set]
  by_cases hj : j = i
  · rw [if_pos hj, if_pos hj.symm, if_pos hi]
  · rw [if_neg hj, if_neg (Ne.symm hj)]

theorem getElem?_set_phase_self (h : phases[i]? = some q) :
    (phases.set i p)[i]? = some p :=
  (getElem?_set_phase h).trans (if_pos rfl)

theorem getElem?_set_phase_of_ne (h : phases[i]? = some q) (hj : j ≠ i) :
    (phases.set i p)[j]? = phases[j]? :=
  (getElem?_set_phase h).trans (if_neg hj)

/-- A move of a call sets what that call is doing, by a turn of its own. Time that passes and the
dropping of the entry leave the calls where they are. -/
theorem Moved.phases_cases (h : r.Moved m r') :
    (∃ i q p, m.call? = some i ∧ r.phases[i]? = some q ∧ r'.phases = r.phases.set i p ∧
      r.Turn i m q p) ∨ (m.call? = none ∧ r'.phases = r.phases) := by
  cases h with
  | servedAtOnce idle made fresh =>
    exact Or.inl ⟨_, _, _, rfl, idle, rfl, .servedAtOnce made fresh⟩
  | queued idle made stale => exact Or.inl ⟨_, _, _, rfl, idle, rfl, .queued made stale⟩
  | admitted waiting => exact Or.inl ⟨_, _, _, rfl, waiting, rfl, .admitted⟩
  | servedLate admitted made fresh =>
    exact Or.inl ⟨_, _, _, rfl, admitted, rfl, .servedLate made fresh⟩
  | started admitted made stale =>
    exact Or.inl ⟨_, _, _, rfl, admitted, rfl, .started made stale⟩
  | failed fetching result => exact Or.inl ⟨_, _, _, rfl, fetching, rfl, .failed result⟩
  | fetched fetching result => exact Or.inl ⟨_, _, _, rfl, fetching, rfl, .fetched result⟩
  | stored storing => exact Or.inl ⟨_, _, _, rfl, storing, rfl, .stored⟩
  | advanced | dropped => exact Or.inr ⟨rfl, rfl⟩

/-- A move of a call takes it from the phase it is in to the next, in one of the ways there are. -/
theorem Moved.turn (h : r.Moved m r') (hm : m.call? = some j) :
    ∃ q p, r.phases[j]? = some q ∧ r'.phases[j]? = some p ∧ r.Turn j m q p := by
  rcases h.phases_cases with ⟨i, q, p, hi, hq, hphases, hturn⟩ | ⟨hnone, _⟩
  · obtain rfl := Option.some.inj (hi.symm.trans hm)
    refine ⟨q, p, hq, ?_, hturn⟩
    rw [hphases]
    exact getElem?_set_phase_self hq
  · cases hnone.symm.trans hm

/-- What the other calls are doing stays as it is. -/
theorem Moved.phase_of_other (h : r.Moved m r') (hm : m.call? ≠ some j) :
    r'.phases[j]? = r.phases[j]? := by
  rcases h.phases_cases with ⟨i, q, p, hi, hq, hphases, _⟩ | ⟨_, hphases⟩
  · have hne : j ≠ i := fun hj => hm (hj ▸ hi)
    rw [hphases]
    exact getElem?_set_phase_of_ne hq hne
  · rw [hphases]

/-- What a call is doing after a move it was doing before, or came to by a turn of its own. -/
theorem Moved.phase_cases (h : r.Moved m r') (hp : r'.phases[j]? = some p) :
    (m.call? ≠ some j ∧ r.phases[j]? = some p) ∨ ∃ q, r.phases[j]? = some q ∧ r.Turn j m q p := by
  by_cases hm : m.call? = some j
  · obtain ⟨q, p', hq, hp', hturn⟩ := h.turn hm
    rw [hp] at hp'
    obtain rfl := Option.some.inj hp'
    exact Or.inr ⟨q, hq, hturn⟩
  · exact Or.inl ⟨hm, h.phase_of_other hm ▸ hp⟩

/-- An answered call makes no move. -/
theorem Moved.call_ne_of_done {answer : Except ε (Served α)} (h : r.Moved m r')
    (hj : r.phases[j]? = some (.done answer)) : m.call? ≠ some j := by
  intro hm
  obtain ⟨q, p, hq, _, hturn⟩ := h.turn hm
  rw [hj] at hq
  obtain rfl := Option.some.inj hq
  cases hturn

/-- An answered call stays answered. -/
theorem Moved.done_stays {answer : Except ε (Served α)} (h : r.Moved m r')
    (hj : r.phases[j]? = some (.done answer)) : r'.phases[j]? = some (.done answer) :=
  (h.phase_of_other (h.call_ne_of_done hj)).trans hj

/-! ## What every move keeps -/

theorem Moved.calls_eq (h : r.Moved m r') : r'.calls = r.calls := by
  cases h <;> rfl

/-- No move sets the clock back. -/
theorem Moved.clock_le (h : r.Moved m r') :
    r.store.clock.monotonic ≤ r'.store.clock.monotonic := by
  cases h with
  | advanced ms => exact Nat.le_add_right _ _
  | _ => exact Nat.le_refl _

theorem Moved.fetches_le (h : r.Moved m r') : r.store.fetches ≤ r'.store.fetches := by
  cases h with
  | started => exact Nat.le_succ _
  | _ => exact Nat.le_refl _

/-- The entry changes only with a move that stores or drops it. -/
theorem Moved.entry_eq (h : r.Moved m r') (hm : ¬ m.TouchesEntry) :
    r'.store.entry = r.store.entry := by
  cases h with
  | stored | dropped => exact absurd trivial hm
  | _ => rfl

/-! ## Runs -/

/-- In a room where no call has arrived all are idle. -/
theorem eq_idle_of_opened {store : Store σ α} {calls : List (Call σ ε α)}
    (h : (opened store calls).phases[i]? = some p) : p = .idle := by
  simp only [opened, List.getElem?_map, Option.map_eq_some_iff] at h
  obtain ⟨call, _, hp⟩ := h
  exact hp.symm

/-- A run is a move, and then the run of the others. -/
theorem run_cons_eq_some_iff :
    r.run (m :: moves) = some r'' ↔ ∃ r', r.Moved m r' ∧ r'.run moves = some r'' := by
  simp only [run, Option.bind_eq_some_iff, step_eq_some_iff]

/-- A run of two lists of moves is a run of the first, and then of the second. -/
theorem run_append_eq_some_iff {more : List Move} :
    r.run (moves ++ more) = some r'' ↔ ∃ r', r.run moves = some r' ∧ r'.run more = some r'' := by
  induction moves generalizing r with
  | nil => simp only [List.nil_append, run, Option.some.injEq, exists_eq_left']
  | cons m moves ih =>
    simp only [List.cons_append, run_cons_eq_some_iff, ih]
    constructor
    · rintro ⟨a, ha, b, hb, hrest⟩
      exact ⟨b, ⟨a, ha, hb⟩, hrest⟩
    · rintro ⟨b, ⟨a, ha, hb⟩, hrest⟩
      exact ⟨a, ha, b, hb, hrest⟩

theorem run_singleton : r.run [m] = r.step m := Option.bind_fun_some (r.step m)

/-- A run is the run of all moves but the last, and then the last. -/
theorem run_concat_eq_some_iff :
    r.run (moves ++ [m]) = some r'' ↔ ∃ r', r.run moves = some r' ∧ r'.Moved m r'' := by
  simp only [run_append_eq_some_iff, run_singleton, step_eq_some_iff]

/-- What holds before a run, and of the moves made so far and the state they led to whenever it held
before the last of them, holds of the run. -/
theorem run_traces {motive : List Move → Room σ ε α → Prop}
    (hmove : ∀ {made : List Move} {a b : Room σ ε α} {m : Move},
      motive made a → a.Moved m b → motive (made ++ [m]) b)
    (h : motive [] r) (hrun : r.run moves = some r') : motive moves r' := by
  suffices ∀ made, motive made r → motive (made ++ moves) r' from this [] h
  clear h
  induction moves generalizing r with
  | nil =>
    intro made h
    rw [List.append_nil]
    exact Option.some.inj hrun ▸ h
  | cons m moves ih =>
    intro made h
    obtain ⟨a, hmoved, hrest⟩ := run_cons_eq_some_iff.mp hrun
    have hall := ih hrest (made ++ [m]) (hmove h hmoved)
    rwa [List.append_assoc] at hall

/-- What every move preserves, a run preserves. -/
theorem run_preserves {motive : Room σ ε α → Prop}
    (hmove : ∀ {a b : Room σ ε α} {m : Move}, motive a → a.Moved m b → motive b)
    (h : motive r) (hrun : r.run moves = some r') : motive r' :=
  run_traces (motive := fun _ a => motive a) (fun ha hm => hmove ha hm) h hrun

/-- No run sets the clock back. -/
theorem run_clock_le (hrun : r.run moves = some r') :
    r.store.clock.monotonic ≤ r'.store.clock.monotonic :=
  run_preserves (motive := fun a => r.store.clock.monotonic ≤ a.store.clock.monotonic)
    (fun h hm => Nat.le_trans h hm.clock_le) (Nat.le_refl _) hrun

theorem run_fetches_le (hrun : r.run moves = some r') : r.store.fetches ≤ r'.store.fetches :=
  run_preserves (motive := fun a => r.store.fetches ≤ a.store.fetches)
    (fun h hm => Nat.le_trans h hm.fetches_le) (Nat.le_refl _) hrun

theorem run_calls_eq (hrun : r.run moves = some r') : r'.calls = r.calls :=
  run_preserves (motive := fun a => a.calls = r.calls) (fun h hm => hm.calls_eq.trans h) rfl hrun

/-- In every run each call has a phase. -/
theorem length_phases_of_run {store : Store σ α} {calls : List (Call σ ε α)}
    (hrun : (opened store calls).run moves = some r) : r.phases.length = calls.length := by
  refine run_preserves (motive := fun a => a.phases.length = calls.length) (fun h hm => ?_)
    (List.length_map _) hrun
  rcases hm.phases_cases with ⟨_, _, _, _, _, hphases, _⟩ | ⟨_, hphases⟩
  · rw [hphases, List.length_set, h]
  · rw [hphases, h]

/-- Moves that neither store nor drop leave the entry as it was. -/
theorem run_entry_eq_of_untouched (hrun : r.run moves = some r')
    (huntouched : ∀ m ∈ moves, ¬ m.TouchesEntry) : r'.store.entry = r.store.entry := by
  induction moves generalizing r with
  | nil => rw [Option.some.inj hrun]
  | cons m moves ih =>
    obtain ⟨a, hmoved, hrest⟩ := run_cons_eq_some_iff.mp hrun
    rw [ih hrest fun x hx => huntouched x (List.mem_cons_of_mem m hx)]
    exact hmoved.entry_eq (huntouched m List.mem_cons_self)

end Room

end Workday.Cache
