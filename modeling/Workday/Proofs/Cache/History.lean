import Workday.Cache.Session
import Workday.Proofs.Cache.Store
import Workday.Proofs.Latest

/-!
# What the history of a session tells

The history of a session is what its users see: every step, its reply and the time at which it
ended. In a session whose steps follow one another the history alone decides every answer. A value
that a fetch brought in is served while it is younger than the time to live of the handle that
asks, unless a later fetch or an invalidation came in between; everything else is fetched anew, by
the call that asks and only once.

The invariant `Tracks` ties the entry to the history: the entry is the value that was stored last,
marked with the time of the step that stored it, unless it was dropped since.
-/

set_option autoImplicit false

namespace Workday.Cache

variable {σ ε α : Type}

/-- No calls that overlap. -/
def Step.isSequential : Step σ ε α → Bool
  | .together _ => false
  | _ => true

/-- One step of a session as its users see it. -/
structure Record (σ ε α : Type) where
  step : Step σ ε α
  reply : Reply ε α
  /-- The monotonic time at the end of the step. -/
  time : Nat

namespace Record

/-- The value that the step fetched and stored. -/
def stored? (r : Record σ ε α) : Option α :=
  match r.reply with
  | .got (.ok ⟨value, .network⟩) => some value
  | _ => none

/-- The step drops the entry. -/
def drops (r : Record σ ε α) : Bool :=
  match r.step with
  | .invalidate => true
  | _ => false

/-- The step stores a value or drops the entry. -/
def touches (r : Record σ ε α) : Prop := r.stored?.isSome ∨ r.drops = true

end Record

/-- The latest fetch of a history that was stored after the last invalidation brought in a value,
at a time. -/
def LatestStored (history : List (Record σ ε α)) (value : α) (time : Nat) : Prop :=
  ∃ r, IsLatest Record.touches history r ∧ r.stored? = some value ∧ r.time = time

/-- One more step stores a value now, or leaves what was stored last unless it drops the entry. -/
theorem latestStored_concat {history : List (Record σ ε α)} {r : Record σ ε α} {value : α}
    {time : Nat} :
    LatestStored (history ++ [r]) value time ↔
      (r.stored? = some value ∧ r.time = time) ∨ (¬ r.touches ∧ LatestStored history value time) :=
  exists_isLatest_concat

/-- An answer that is not served from the entry. -/
def Reply.isFetched : Reply ε α → Bool
  | .got (.ok ⟨_, .cache⟩) => false
  | .got _ => true
  | _ => false

namespace Session

/-- The session after a number of steps. -/
def after (s : Session σ α) (steps : List (Step σ ε α)) : Session σ α :=
  steps.foldl (fun s step => (s.step step).2) s

/-- What the users see of one step. -/
def record (s : Session σ α) (step : Step σ ε α) : Record σ ε α :=
  ⟨step, (s.step step).1, (s.step step).2.store.clock.monotonic⟩

/-- What the users see of a number of steps. -/
def history (s : Session σ α) : List (Step σ ε α) → List (Record σ ε α)
  | [] => []
  | step :: steps => s.record step :: (s.step step).2.history steps

variable {s : Session σ α} {history : List (Record σ ε α)}

@[simp]
theorem after_nil : s.after ([] : List (Step σ ε α)) = s := rfl

/-- What is left after steps is what the others leave after the first. -/
@[simp]
theorem after_cons (step : Step σ ε α) (steps : List (Step σ ε α)) :
    s.after (step :: steps) = (s.step step).2.after steps := rfl

/-- What is left after two lists of steps is what the second leaves after the first. -/
theorem after_append (xs ys : List (Step σ ε α)) : s.after (xs ++ ys) = (s.after xs).after ys :=
  List.foldl_append

/-- Two lists of steps answer as the first does, and then as the second does after it. -/
theorem run_append (xs ys : List (Step σ ε α)) :
    s.run (xs ++ ys) = s.run xs ++ (s.after xs).run ys := by
  induction xs generalizing s with
  | nil => rfl
  | cons x xs ih => simp only [List.cons_append, run, ih, after_cons]

@[simp]
theorem length_run (steps : List (Step σ ε α)) : (s.run steps).length = steps.length := by
  induction steps generalizing s with
  | nil => rfl
  | cons x xs ih => simp only [run, List.length_cons, ih]

/-! ## One call -/

/-- A request is answered by the store, with the time to live of its handle. -/
theorem step_get (request : Request σ ε α) :
    s.step (.get request) = (.got (s.store.get (s.call request)).1,
      { s with store := (s.store.get (s.call request)).2 }) := rfl

/-- A request that finds a fresh value leaves the session as it is. -/
theorem step_get_of_fresh (request : Request σ ε α) {value : α}
    (h : s.store.fresh? (s.ttlOf request.handle) = some value) :
    s.step (.get request) = (.got (.ok ⟨value, .cache⟩), s) := by
  rw [step_get, Store.get_of_fresh _ h]

/-! ## The invariant -/

/-- The entry is what the history says was stored last and not dropped since. -/
structure Tracks (s : Session σ α) (history : List (Record σ ε α)) : Prop where
  entry_iff : ∀ value time, LatestStored history value time ↔
    ∃ e, s.store.entry = some e ∧ e.value = value ∧ e.storedAt.monotonic = time
  past : ∀ e, s.store.entry = some e → e.storedAt.monotonic ≤ s.store.clock.monotonic

variable {s' : Session σ α} {r : Record σ ε α}

/-- Of a new session there is nothing to track. -/
theorem Tracks.new (ttl : Int) (clock : Clock) (source : σ) :
    (Session.new ttl clock source : Session σ α).Tracks ([] : List (Record σ ε α)) := by
  refine ⟨fun value time => iff_of_false ?_ ?_, fun e he => ?_⟩
  · rintro ⟨r, hlatest, _⟩
    exact not_isLatest_nil hlatest
  · rintro ⟨e, he, _⟩
    cases he
  · cases he

/-- A step that neither stores nor drops keeps what the history tells. -/
theorem Tracks.keep (h : s.Tracks history) (hquiet : ¬ r.touches)
    (hentry : s'.store.entry = s.store.entry)
    (hclock : s.store.clock.monotonic ≤ s'.store.clock.monotonic) :
    s'.Tracks (history ++ [r]) := by
  refine ⟨fun value time => ?_, fun e he => ?_⟩
  · rw [latestStored_concat, hentry, ← h.entry_iff]
    constructor
    · rintro (⟨hstored, _⟩ | ⟨_, hlatest⟩)
      · exact absurd (Or.inl (Option.isSome_iff_exists.mpr ⟨value, hstored⟩)) hquiet
      · exact hlatest
    · exact fun hlatest => Or.inr ⟨hquiet, hlatest⟩
  · rw [hentry] at he
    exact Nat.le_trans (h.past e he) hclock

/-- A step that stores a value makes it the latest. -/
theorem Tracks.of_stored {value : α} (hstored : r.stored? = some value)
    (htime : r.time = s'.store.clock.monotonic)
    (hentry : s'.store.entry = some ⟨value, s'.store.clock⟩) : s'.Tracks (history ++ [r]) := by
  have htouches : r.touches := Or.inl (Option.isSome_iff_exists.mpr ⟨value, hstored⟩)
  refine ⟨fun value' time => ?_, fun e he => ?_⟩
  · rw [latestStored_concat, hstored, hentry, htime]
    simp [htouches]
  · rw [hentry, Option.some.injEq] at he
    exact he ▸ Nat.le_refl _

/-- A step that drops the entry leaves nothing stored. -/
theorem Tracks.of_dropped (hdrops : r.drops = true) (hstored : r.stored? = none)
    (hentry : s'.store.entry = none) : s'.Tracks (history ++ [r]) := by
  have htouches : r.touches := Or.inr hdrops
  refine ⟨fun value' time => ?_, fun e he => ?_⟩
  · rw [latestStored_concat, hstored, hentry]
    simp [htouches]
  · rw [hentry] at he
    cases he

/-- A step that neither stores nor drops does not touch the entry. -/
theorem not_touches_of_quiet (hstored : r.stored? = none) (hdrops : r.drops = false) :
    ¬ r.touches := by
  simp [Record.touches, hstored, hdrops]

/-- What one step of a sequential session preserves: the entry is the value that was stored last since
the last invalidation, with the time at which it was stored. Only a fetch that succeeds and an
invalidation touch it. -/
theorem Tracks.step {step : Step σ ε α} (h : s.Tracks history) (hstep : step.isSequential = true) :
    (s.step step).2.Tracks (history ++ [s.record step]) := by
  cases step with
  | get request =>
    cases hfresh : s.store.fresh? (s.ttlOf request.handle) with
    | some value =>
      have hget := step_get_of_fresh request hfresh
      refine h.keep (not_touches_of_quiet ?_ rfl) (by rw [hget])
        (hget ▸ Nat.le_refl _)
      simp only [record, hget, Record.stored?]
    | none =>
      -- the entry is stale, so the call fetches; whether it stores is up to the result
      have hfetched := Store.get_of_stale (s.call request)
        (Store.fresh?_eq_none_iff.mp hfresh)
      have hanswer := hfetched.answer_eq
      have hentry := hfetched.entry_eq
      cases hresult : ((s.call request).fetch s.store.source).1.result with
      | ok value =>
        rw [hresult] at hanswer hentry
        have hstored : (s.record (.get request)).stored? = some value := by
          simp only [record, step_get, hanswer, Except.map, Record.stored?]
        exact Tracks.of_stored hstored rfl hentry
      | error e =>
        rw [hresult] at hanswer hentry
        refine h.keep (not_touches_of_quiet ?_ rfl) hentry ?_
        · simp only [record, step_get, hanswer, Except.map, Record.stored?]
        · rw [step_get, hfetched.clock_eq]
          exact Nat.le_add_right _ _
  | together requests => cases hstep
  | isHeld => exact h.keep (not_touches_of_quiet rfl rfl) rfl (Nat.le_refl _)
  | ttl handle => exact h.keep (not_touches_of_quiet rfl rfl) rfl (Nat.le_refl _)
  | invalidate => exact Tracks.of_dropped rfl rfl rfl
  | advance ms => exact h.keep (not_touches_of_quiet rfl rfl) rfl (Nat.le_add_right _ _)
  | clone handle => exact h.keep (not_touches_of_quiet rfl rfl) rfl (Nat.le_refl _)
  | withTtl ttl => exact h.keep (not_touches_of_quiet rfl rfl) rfl (Nat.le_refl _)

/-- What a sequential session preserves. -/
theorem Tracks.after {steps : List (Step σ ε α)} (h : s.Tracks history)
    (hsteps : ∀ step ∈ steps, step.isSequential = true) :
    (s.after steps).Tracks (history ++ s.history steps) := by
  induction steps generalizing s history with
  | nil => simpa only [Session.history, List.append_nil, after_nil] using h
  | cons step steps ih =>
    have hstep := h.step (hsteps step List.mem_cons_self)
    have hrest := ih hstep fun x hx => hsteps x (List.mem_cons_of_mem step hx)
    rwa [List.append_assoc] at hrest

/-! ## The law of a history -/

/-- A step fetches once or not at all, and its answer tells which. -/
theorem step_fetches {step : Step σ ε α} (hstep : step.isSequential = true) :
    (s.step step).2.store.fetches =
      s.store.fetches + if (s.step step).1.isFetched then 1 else 0 := by
  cases step with
  | get request =>
    cases hfresh : s.store.fresh? (s.ttlOf request.handle) with
    | some value =>
      rw [step_get_of_fresh request hfresh]
      rfl
    | none =>
      have hfetched := Store.get_of_stale (s.call request)
        (Store.fresh?_eq_none_iff.mp hfresh)
      rw [step_get, hfetched.answer_eq]
      cases ((s.call request).fetch s.store.source).1.result <;> exact hfetched.fetches_eq
  | together requests => cases hstep
  | isHeld | ttl _ | invalidate | advance _ | clone _ | withTtl _ => rfl

/-- The fetches of a sequential session are the answers not served from the entry. -/
theorem after_fetches {steps : List (Step σ ε α)}
    (hsteps : ∀ step ∈ steps, step.isSequential = true) :
    (s.after steps).store.fetches =
      s.store.fetches + (s.run steps).countP fun (reply, _) => reply.isFetched := by
  induction steps generalizing s with
  | nil => rfl
  | cons step steps ih =>
    have hstep := step_fetches (s := s) (hsteps step List.mem_cons_self)
    have hrest := ih (s := (s.step step).2) fun x hx => hsteps x (List.mem_cons_of_mem step hx)
    rw [after_cons, hrest, hstep]
    simp only [run, List.countP_cons]
    omega

/-- The answer to a request among other steps is that of the store as the earlier steps leave it. -/
theorem run_getElem?_get (earlier later : List (Step σ ε α)) (request : Request σ ε α) :
    (s.run (earlier ++ .get request :: later))[earlier.length]? =
      some (.got ((s.after earlier).store.get ((s.after earlier).call request)).1,
        (s.after (earlier ++ [.get request])).store.fetches) := by
  rw [run_append, List.getElem?_append_right (by simp), after_append]
  simp [run, step_get]

/-- The law of a history. In a session of steps that follow one another, with any number of handles
on a new cache, a call is served the value that was stored last after the last invalidation, if
there is one and less than the time to live of the handle has passed since, and then nothing is
fetched and nothing changes. In every other case, and always under a time to live of zero or less,
the call fetches exactly once and is answered with its own fetch. So the fetches of the session are
the answers not served from the entry. -/
theorem history_decides_answers (ttl : Int) (clock : Clock) (source : σ)
    (steps : List (Step σ ε α)) (hsteps : ∀ step ∈ steps, step.isSequential = true) :
    (∀ earlier request later, steps = earlier ++ .get request :: later →
      let opened : Session σ α := .new ttl clock source
      let s := opened.after earlier
      let s' := opened.after (earlier ++ [.get request])
      ∃ answer, (opened.run steps)[earlier.length]? = some (.got answer, s'.store.fetches) ∧
        (∀ value time, LatestStored (opened.history earlier) value time →
          (s.store.clock.monotonic : Int) - time < s.ttlOf request.handle →
          answer = .ok ⟨value, .cache⟩ ∧ s' = s) ∧
        ((¬ ∃ value time, LatestStored (opened.history earlier) value time ∧
            (s.store.clock.monotonic : Int) - time < s.ttlOf request.handle) →
          s.store.FetchedOnce s'.store request.fetch answer) ∧
        (s.ttlOf request.handle ≤ 0 → s.store.FetchedOnce s'.store request.fetch answer)) ∧
    ((Session.new ttl clock source : Session σ α).after steps).store.fetches =
      ((Session.new ttl clock source).run steps).countP fun (reply, _) => reply.isFetched := by
  refine ⟨?_, ?_⟩
  · rintro earlier request later rfl opened s s'
    have htracks : s.Tracks (opened.history earlier) :=
      (Tracks.new ttl clock source).after fun x hx => hsteps x (List.mem_append_left _ hx)
    have hs' : s' = (s.step (.get request)).2 := by
      simp only [s', s, after_append, after_cons, after_nil]
    -- time never runs back, so the age of the entry is the time that has passed
    have hage : ∀ e, s.store.entry = some e →
        (s.store.clock.monotonic : Int) - e.storedAt.monotonic = (e.age s.store.clock : Nat) := by
      intro e he
      have hpast := htracks.past e he
      unfold Entry.age
      omega
    refine ⟨_, run_getElem?_get earlier later request, ?_, ?_, ?_⟩
    · intro value time hlatest hfresh
      obtain ⟨e, he, rfl, rfl⟩ := (htracks.entry_iff value time).mp hlatest
      rw [hage e he] at hfresh
      have hget := step_get_of_fresh request (Store.fresh?_eq_some_iff.mpr ⟨e, he, hfresh, rfl⟩)
      rw [step_get] at hget
      obtain ⟨hanswer, hsame⟩ := Prod.mk.inj hget
      exact ⟨Reply.got.inj hanswer, hs'.trans hsame⟩
    · intro hnone
      rw [hs']
      refine Store.get_of_stale _ fun e he => Int.not_lt.mp fun hyoung => hnone ?_
      refine ⟨e.value, e.storedAt.monotonic, (htracks.entry_iff _ _).mpr ⟨e, he, rfl, rfl⟩, ?_⟩
      rw [hage e he]
      exact hyoung
    · intro hnonpos
      rw [hs']
      exact Store.get_of_stale _ (Store.isStale_of_nonpos hnonpos)
  · rw [after_fetches hsteps]
    exact Nat.zero_add _

/-- A value is fetched at time 5; at time 15 a handle with a time to live of 10 finds it too old,
and its own fetch fails. The handle with a time to live of 60 is still served the value. -/
theorem history_decides_answers_after_failure :
    let request (handle : Nat) (fetched : Fetched String Nat) : Request Unit String Nat :=
      ⟨handle, fun source => (fetched, source)⟩
    let earlier : List (Step Unit String Nat) := [.get (request 0 ⟨.ok 1, 5⟩), .withTtl 10,
      .advance 10, .get (request 1 ⟨.error "down", 3⟩)]
    let steps := earlier ++ [.get (request 0 ⟨.ok 2, 0⟩)]
    let opened : Session Unit Nat := .new 60 ⟨0, 0⟩ ()
    (∀ step ∈ steps, step.isSequential = true) ∧
      (opened.run steps)[4]? = some (.got (.ok ⟨1, .cache⟩), 2) ∧
      (opened.after steps).store.fetches = 2 := by
  intro request earlier steps opened
  have hsteps : ∀ step ∈ steps, step.isSequential = true := by
    simp [steps, earlier, Step.isSequential]
  have law := history_decides_answers 60 ⟨0, 0⟩ () steps hsteps
  obtain ⟨answer, hrun, hserved, _⟩ := law.1 earlier _ [] rfl
  have hlatest : LatestStored (opened.history earlier) 1 5 := by
    refine ⟨_, ⟨[], _, rfl, ?_⟩, rfl, rfl⟩
    rintro x (_ | ⟨_, _ | ⟨_, _ | ⟨_, hx⟩⟩⟩)
    · exact not_touches_of_quiet rfl rfl
    · exact not_touches_of_quiet rfl rfl
    · exact not_touches_of_quiet rfl rfl
    · cases hx
  obtain ⟨rfl, _⟩ := hserved 1 5 hlatest (by decide)
  exact ⟨hsteps, hrun, law.2⟩

end Session

end Workday.Cache
