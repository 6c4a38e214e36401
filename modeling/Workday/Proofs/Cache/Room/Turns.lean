import Workday.Proofs.Cache.Room.Batch

/-!
# Failing in turn

What calls go through that arrive together while every fetch fails after some time. They find no fresh
entry, before a fetch that fails as well as after it, so each makes a fetch of its own, when the one
before it has failed. `timeline` shows the two things of a call that matter to others, the start of its
fetch and its answer, with the times at which they happen; `drain_outage` says what it shows.

The invariant follows one call at a time. With `k` calls failed the next one is first in line, and the
lock is free (`Ready`), or it holds the lock while its fetch runs (`Running`).
-/

set_option autoImplicit false

namespace Workday.Cache

variable {σ ε α : Type}

/-! ## The time at which things happen -/

/-- What happens to a call that others may notice. -/
inductive Course (ε α : Type) where
  /-- Its fetch starts. -/
  | started
  | answered (answer : Except ε (Served α))

/-- What has just happened to a call that has come to a phase. -/
def Phase.course? : Phase ε α → Option (Course ε α)
  | fetching _ => some .started
  | done answer => some (.answered answer)
  | _ => none

namespace Room

variable {r r' a : Room σ ε α} {m : Move} {moves : List Move} {i : Nat} {p : Phase ε α}

/-- What a move has made happen, with the time and the call. -/
def noted (r : Room σ ε α) (m : Move) : Option (Nat × Nat × Course ε α) :=
  (r.broughtTo Phase.course? m).map (r.store.clock.monotonic, ·)

/-- What happens along a run: at which time, to which call, and what. -/
def timeline (r : Room σ ε α) (moves : List Move) : List (Nat × Nat × Course ε α) :=
  r.seen noted moves

section Timeline

variable {course : Course ε α} (hrun : r.run moves = some a) (hm : a.Moved m r')
include hrun hm

/-- A call comes to a phase that is of interest to others. -/
theorem timeline_note (hi : m.call? = some i) (hp : r'.phases[i]? = some p)
    (hcourse : p.course? = some course) :
    r.timeline (moves ++ [m]) = r.timeline moves ++ [(r'.store.clock.monotonic, i, course)] := by
  rw [timeline, seen_concat hrun hm, noted, broughtTo_eq hi hp, hcourse]
  rfl

/-- A call comes to a phase that is of interest to nobody. -/
theorem timeline_quiet (hi : m.call? = some i) (hp : r'.phases[i]? = some p)
    (hcourse : p.course? = none) : r.timeline (moves ++ [m]) = r.timeline moves := by
  rw [timeline, seen_concat hrun hm, noted, broughtTo_eq hi hp, hcourse]
  exact List.append_nil _

/-- A move that is no call's adds nothing to the timeline. -/
theorem timeline_no_call (hm' : m.call? = none) : r.timeline (moves ++ [m]) = r.timeline moves := by
  rw [timeline, seen_concat hrun hm, noted, broughtTo_of_no_call hm']
  exact List.append_nil _

end Timeline

/-- A move of a call takes no time. -/
theorem Moved.clock_eq (h : r.Moved m r') (hm : m.call? = some i) : r'.store.clock = r.store.clock := by
  cases h with
  | advanced ms => cases hm
  | _ => rfl

/-- A call makes its moves without any time passing. Only a fetch takes time, which is a move of its
own. -/
theorem play_clock (hm : m.call? = some i) : (r.play m).store.clock = r.store.clock := by
  cases hstep : r.step m with
  | none => simp only [play, hstep, Option.getD_none]
  | some r' =>
    rw [(Moved.of_step hstep).play]
    exact (Moved.of_step hstep).clock_eq hm

/-- Nobody waits for a call that arrives: time passes only while the room is drained. -/
theorem welcome_clock (r : Room σ ε α) (i : Nat) : (r.welcome i).store.clock = r.store.clock := by
  have harrive : (r.play (.arrive i)).store.clock = r.store.clock := play_clock (i := i) rfl
  have henter (a : Room σ ε α) : (a.enter i).store.clock = a.store.clock :=
    (play_clock (m := .check i) rfl).trans (play_clock (m := .take i) rfl)
  have hleave (a : Room σ ε α) : (a.leave i).store.clock = a.store.clock :=
    (play_clock (m := .store i) rfl).trans (play_clock (m := .finish i) rfl)
  cases hholder : (r.play (.arrive i)).holder with
  | some b => rw [welcome_of_held hholder, harrive]
  | none =>
    rw [welcome_of_free hholder]
    split
    · rw [hleave, henter, harrive]
    · rw [henter, harrive]

/-- Calls arrive without any time passing. -/
theorem arrivals_clock (s : Store σ α) (calls : List (Call σ ε α)) (n : Nat) :
    (arrivals s calls n).store.clock = s.clock := by
  induction n with
  | zero => rfl
  | succ n ih =>
    rw [arrivals, List.range_succ, List.foldl_append]
    exact (welcome_clock _ n).trans ih

end Room

/-! ## An outage -/

/-- A source that is down: every fetch fails after some time. -/
def outage (e : ε) (delay : Nat) : Nat → Fetched ε α × Nat :=
  fun n => (⟨.error e, delay⟩, n + 1)

namespace Store

variable {s : Store Nat α} {ttl : Int} {delay k : Nat} {e : ε}

/-- The store after `k` calls that have fetched one after the other and failed. -/
def outlasted (s : Store Nat α) (delay k : Nat) : Store Nat α where
  entry := s.entry
  clock := s.clock.advance (k * delay)
  source := s.source + k
  fetches := s.fetches + k

/-- A store that no call has outlasted is as it was. -/
theorem outlasted_zero : s.outlasted delay 0 = s := by
  simp [outlasted, Clock.advance]

/-- One more call fetches and fails. -/
theorem advance_start_outlasted :
    ((s.outlasted delay k).start ⟨ttl, outage e delay⟩).2.advance delay =
      s.outlasted delay (k + 1) := by
  have hclock : (s.clock.advance (k * delay)).advance delay = s.clock.advance ((k + 1) * delay) := by
    rw [Clock.advance, Clock.advance, Clock.advance, Nat.add_assoc, Int.add_assoc, ← Nat.succ_mul,
      ← Int.natCast_add, ← Nat.succ_mul]
  simp only [start, outage, outlasted, advance, hclock, Nat.add_assoc]

/-- A stale entry is stale later on. -/
theorem IsStale.mono {s' : Store σ α} {t : Store σ α} (h : t.IsStale ttl)
    (hentry : s'.entry = t.entry) (hclock : t.clock.monotonic ≤ s'.clock.monotonic) :
    s'.IsStale ttl := by
  intro entry he
  rw [hentry] at he
  exact Int.le_trans (h entry he) (Entry.age_le hclock)

/-- A call that runs alone fetches and fails. -/
theorem get_outage (hstale : s.IsStale ttl) :
    s.get ⟨ttl, outage e delay⟩ = (.error e, s.outlasted delay 1) := by
  have hnext : ((s.outlasted delay 0).start ⟨ttl, outage e delay⟩).2.advance delay =
      s.outlasted delay 1 := advance_start_outlasted
  rw [outlasted_zero] at hnext
  simp only [get, fresh?_eq_none_iff.mpr hstale]
  show ((s.start _).2.advance delay).finish _ = _
  rw [hnext]
  rfl

/-- What is stale stays stale during an outage. -/
theorem IsStale.outlasted (h : s.IsStale ttl) : (s.outlasted delay k).IsStale ttl :=
  h.mono rfl (Nat.le_add_right _ _)

end Store

/-- What happens to `k` calls, of which each fetches when the one before it has failed. -/
def turns (start delay : Nat) (e : ε) (k : Nat) : List (Nat × Nat × Course ε α) :=
  (List.range k).flatMap fun i =>
    [(start + i * delay, i, .started), (start + (i + 1) * delay, i, .answered (.error e))]

/-- One more turn is a fetch that starts when the one before it has failed, and its failure. -/
theorem turns_succ (start delay : Nat) (e : ε) (k : Nat) :
    (turns start delay e (k + 1) : List (Nat × Nat × Course ε α)) =
      turns start delay e k ++ [(start + k * delay, k, .started)] ++
        [(start + (k + 1) * delay, k, .answered (.error e))] := by
  rw [turns, List.range_succ, List.flatMap_append, List.flatMap_singleton, List.append_assoc]
  rfl

namespace Room

/-- The calls up to `k` have failed, those from `first` to `n` are in line, and the others have not
arrived. -/
structure Ranks (e : ε) (size k first n : Nat) (phases : List (Phase ε α)) : Prop where
  failed : ∀ i < k, phases[i]? = some (.done (.error e))
  waiting : ∀ i, first ≤ i → i < n → phases[i]? = some .waiting
  idle : ∀ i, n ≤ i → i < size → phases[i]? = some .idle

/-- The calls of an outage. -/
def downCalls (ttl : Int) (e : ε) (delay size : Nat) : List (Call Nat ε α) :=
  List.replicate size ⟨ttl, outage e delay⟩

/-- `k` calls have failed, and the lock is free for the next. -/
structure Ready (s : Store Nat α) (ttl : Int) (e : ε) (delay size k n : Nat) (moves : List Move)
    (r : Room Nat ε α) : Prop where
  run : (opened s (downCalls ttl e delay size)).run moves = some r
  timeline : (opened s (downCalls ttl e delay size)).timeline moves =
    turns s.clock.monotonic delay e k
  store : r.store = s.outlasted delay k
  holder : r.holder = none
  line : r.line = List.range' k (n - k)
  ranks : Ranks e size k k n r.phases

/-- `k` calls have failed, and the fetch of the next runs. -/
structure Running (s : Store Nat α) (ttl : Int) (e : ε) (delay size k n : Nat) (moves : List Move)
    (r : Room Nat ε α) : Prop where
  lt : k < n
  run : (opened s (downCalls ttl e delay size)).run moves = some r
  timeline : (opened s (downCalls ttl e delay size)).timeline moves =
    turns s.clock.monotonic delay e k ++ [(s.clock.monotonic + k * delay, k, .started)]
  store : r.store = ((s.outlasted delay k).start ⟨ttl, outage e delay⟩).2
  holder : r.holder = some k
  line : r.line = List.range' (k + 1) (n - (k + 1))
  fetching : r.phases[k]? = some (.fetching ⟨.error e, delay⟩)
  ranks : Ranks e size k (k + 1) n r.phases

variable {s : Store Nat α} {ttl : Int} {e : ε} {delay size k n : Nat} {moves : List Move}
  {r : Room Nat ε α}

/-- The calls of an outage are alike. -/
theorem downCalls_getElem? (hn : n < size) :
    (downCalls ttl e delay size : List (Call Nat ε α))[n]? = some ⟨ttl, outage e delay⟩ :=
  List.getElem?_replicate_of_lt hn

/-- The calls of an outage are alike at every moment of a run. -/
theorem calls_getElem?_of_run (hrun : (opened s (downCalls ttl e delay size)).run moves = some r)
    (hn : n < size) : r.calls[n]? = some ⟨ttl, outage e delay⟩ := by
  rw [run_calls_eq hrun]
  exact downCalls_getElem? hn

/-- The next call takes the lock and starts its fetch: the entry that it finds is as stale as all calls
before have left it. -/
theorem Ready.enter (h : Ready s ttl e delay size k n moves r) (hstale : s.IsStale ttl) (hk : k < n)
    (hn : n ≤ size) : Running s ttl e delay size k n (moves ++ [.take k, .check k]) (r.enter k) := by
  have hwaiting := h.ranks.waiting k (Nat.le_refl k) hk
  have hmade := calls_getElem?_of_run h.run (Nat.lt_of_lt_of_le hk hn)
  have htake : r.Moved (.take k) (r.take k) := .admitted hwaiting h.holder
  have hadmitted : (r.take k).phases[k]? = some .admitted := getElem?_set_phase_self hwaiting
  have hcheck := Moved.started (r := r.take k) hadmitted hmade (h.store ▸ hstale.outlasted)
  have hfetching := getElem?_set_phase_self (p := .fetching (outage e delay r.store.source).1) hadmitted
  have htaken := run_concat_eq_some_iff.mpr ⟨r, h.run, htake⟩
  have hother : ∀ j ≠ k, (r.enter k).phases[j]? = r.phases[j]? := fun j hj => enter_phase_of_other hj
  rw [enter_eq htake hcheck] at hother ⊢
  refine ⟨hk, ?_, ?_, ?_, rfl, ?_, hfetching, ?_, ?_, ?_⟩
  · rw [List.append_cons]
    exact run_concat_eq_some_iff.mpr ⟨_, htaken, hcheck⟩
  · -- the fetch starts when those before it have been waited out, and the timeline says so
    have hclock : r.store.clock.monotonic = s.clock.monotonic + k * delay := by
      rw [h.store]
      rfl
    rw [List.append_cons, timeline_note htaken hcheck rfl hfetching rfl,
      timeline_quiet h.run htake rfl hadmitted rfl, h.timeline, ← hclock]
    rfl
  · exact congrArg (fun store => (store.start ⟨ttl, outage e delay⟩).2) h.store
  · obtain ⟨rest, hrest⟩ : ∃ rest, n - k = rest + 1 := ⟨n - (k + 1), by omega⟩
    have hrest' : n - (k + 1) = rest := by omega
    show r.line.erase k = _
    rw [h.line, hrest, hrest', List.range'_succ, List.erase_cons_head]
  · exact fun i hi => (hother i (Nat.ne_of_lt hi)).trans (h.ranks.failed i hi)
  · exact fun i hi hin => (hother i (by omega)).trans (h.ranks.waiting i (by omega) hin)
  · exact fun i hi hin => (hother i (by omega)).trans (h.ranks.idle i hi hin)

/-- The fetch that runs fails, and the lock is free again. The clock has moved on by one more delay, and
nothing else has changed in the store. -/
theorem Running.leave (h : Running s ttl e delay size k n moves r) :
    Ready s ttl e delay size (k + 1) n (moves ++ [.advance delay, .finish k])
      ((r.play (.advance r.holderDelay)).leave k) := by
  have hlt := h.lt
  have hdelay : r.holderDelay = delay := by
    simp only [holderDelay, h.holder, Option.bind_some, h.fetching]
  have hadvance := Moved.advanced (r := r) delay
  have hadvanced := run_concat_eq_some_iff.mpr ⟨r, h.run, hadvance⟩
  have hfinish := Moved.failed (r := { r with store := r.store.advance delay }) h.fetching rfl
  have hdone := getElem?_set_phase_self (p := .done (.error e)) h.fetching
  have hstore : r.store.advance delay = s.outlasted delay (k + 1) := by
    rw [h.store, Store.advance_start_outlasted]
  -- the holder is the only one who has time to wait for, so the clock moves by its delay
  have hleft : (r.play (.advance r.holderDelay)).leave k =
      { r.setPhase k (.done (.error e)) with store := r.store.advance delay, holder := none } := by
    rw [hdelay, hadvance.play]
    exact leave_eq (r := { r with store := r.store.advance delay }) h.fetching
  have hother : ∀ j ≠ k, (r.phases.set k (.done (.error e)))[j]? = r.phases[j]? := fun j hj =>
    getElem?_set_phase_of_ne h.fetching hj
  rw [hleft]
  refine ⟨?_, ?_, hstore, rfl, ?_, ?_, ?_, ?_⟩
  · rw [List.append_cons]
    exact run_concat_eq_some_iff.mpr ⟨_, hadvanced, hfinish⟩
  · have hclock : (r.store.advance delay).clock.monotonic = s.clock.monotonic + (k + 1) * delay := by
      rw [hstore]
      rfl
    rw [List.append_cons, timeline_note hadvanced hfinish rfl hdone rfl,
      timeline_no_call h.run hadvance rfl, h.timeline, turns_succ, ← hclock]
    rfl
  · show r.line = _
    rw [h.line]
  · intro i hi
    rcases Nat.lt_succ_iff_lt_or_eq.mp hi with hlt | rfl
    · exact (hother i (Nat.ne_of_lt hlt)).trans (h.ranks.failed i hlt)
    · exact hdone
  · exact fun i hi hin => (hother i (by omega)).trans (h.ranks.waiting i hi hin)
  · exact fun i hi hin => (hother i (by omega)).trans (h.ranks.idle i hi hin)

/-- A call that arrives while a fetch runs waits in line. The timeline does not show it: neither a fetch
nor an answer has come of the arrival. -/
theorem Running.arrive (h : Running s ttl e delay size k n moves r) (hstale : s.IsStale ttl)
    (hn : n < size) :
    Running s ttl e delay size k (n + 1) (moves ++ [.arrive n]) (r.welcome n) := by
  have hlt := h.lt
  have hidle := h.ranks.idle n (Nat.le_refl n) hn
  have hqueued := Moved.queued hidle (calls_getElem?_of_run h.run hn) (h.store ▸ hstale.outlasted)
  have hwaiting := getElem?_set_phase_self (p := .waiting) hidle
  have hwelcome : r.welcome n = { r.setPhase n .waiting with line := r.line ++ [n] } :=
    (welcome_of_held (by rw [hqueued.play]; exact h.holder)).trans hqueued.play
  have hother : ∀ j ≠ n, (r.welcome n).phases[j]? = r.phases[j]? := fun j hj => welcome_phase_of_other hj
  rw [hwelcome] at hother ⊢
  refine ⟨Nat.lt_succ_of_lt hlt, ?_, ?_, h.store, h.holder, ?_, ?_, ?_, ?_, ?_⟩
  · exact run_concat_eq_some_iff.mpr ⟨r, h.run, hqueued⟩
  · rw [timeline_quiet h.run hqueued rfl hwaiting rfl, h.timeline]
  · obtain ⟨rest, rfl⟩ : ∃ rest, n = k + 1 + rest := ⟨n - (k + 1), by omega⟩
    show r.line ++ [k + 1 + rest] = _
    rw [h.line, Nat.add_sub_cancel_left, Nat.add_assoc (k + 1), Nat.add_sub_cancel_left,
      List.range'_concat, Nat.one_mul]
  · exact (hother k (Nat.ne_of_lt hlt)).trans h.fetching
  · exact fun i hi => (hother i (by omega)).trans (h.ranks.failed i hi)
  · intro i hi hin
    rcases Nat.lt_succ_iff_lt_or_eq.mp hin with hearlier | rfl
    · exact (hother i (Nat.ne_of_lt hearlier)).trans (h.ranks.waiting i hi hearlier)
    · exact hwaiting
  · exact fun i hi hin => (hother i (by omega)).trans (h.ranks.idle i (by omega) hin)

/-- Before any call has arrived the lock is free for the first. -/
theorem ready_opened : Ready s ttl e delay size 0 0 [] (opened s (downCalls ttl e delay size)) where
  run := rfl
  timeline := rfl
  store := Store.outlasted_zero.symm
  holder := rfl
  line := rfl
  ranks := ⟨nofun, nofun, fun i _ hi => by
    simp only [opened, List.getElem?_map, downCalls_getElem? hi, Option.map_some]⟩

/-- The first call starts its fetch as it arrives: the lock is free, the line is empty, and the entry is
stale for it. The fetch takes time, so it is still running. -/
theorem Ready.arrive (h : Ready s ttl e delay size 0 0 moves r) (hstale : s.IsStale ttl)
    (hdelay : 0 < delay) (hn : 0 < size) :
    ∃ more, Running s ttl e delay size 0 1 (moves ++ more) (r.welcome 0) := by
  have hidle := h.ranks.idle 0 (Nat.le_refl 0) hn
  have hqueued := Moved.queued hidle (calls_getElem?_of_run h.run hn) (h.store ▸ hstale.outlasted)
  have hwaiting := getElem?_set_phase_self (p := .waiting) hidle
  have harrived : Ready s ttl e delay size 0 1 (moves ++ [.arrive 0]) (r.play (.arrive 0)) := by
    rw [hqueued.play]
    refine ⟨run_concat_eq_some_iff.mpr ⟨r, h.run, hqueued⟩, ?_, h.store, h.holder, ?_, nofun, ?_, ?_⟩
    · rw [timeline_quiet h.run hqueued rfl hwaiting rfl, h.timeline]
    · show r.line ++ [0] = _
      rw [h.line]
      rfl
    · intro i _ hi
      obtain rfl := Nat.lt_one_iff.mp hi
      exact hwaiting
    · intro i hi hin
      exact (getElem?_set_phase_of_ne hidle (Nat.ne_of_gt hi)).trans (h.ranks.idle i (Nat.zero_le i) hin)
  have hrunning := harrived.enter hstale Nat.zero_lt_one hn
  have htakes : ((r.play (.arrive 0)).enter 0).holderDelay = delay := by
    simp only [holderDelay, hrunning.holder, Option.bind_some, hrunning.fetching]
  refine ⟨[.arrive 0] ++ [.take 0, .check 0], ?_⟩
  rw [welcome_of_free harrived.holder, htakes, if_neg (Nat.ne_of_gt hdelay), ← List.append_assoc]
  exact hrunning

/-- When some calls have arrived the fetch of the first runs, and the others wait. -/
theorem running_arrivals (hstale : s.IsStale ttl) (hdelay : 0 < delay) (hn : n < size) :
    ∃ moves, Running s ttl e delay size 0 (n + 1) moves
      (arrivals s (downCalls ttl e delay size) (n + 1)) := by
  induction n with
  | zero => exact ready_opened.arrive hstale hdelay hn
  | succ n ih =>
    obtain ⟨moves, h⟩ := ih (Nat.lt_of_succ_lt hn)
    have hnext := h.arrive hstale hn
    rw [arrivals, List.range_succ, List.foldl_append]
    exact ⟨_, hnext⟩

/-- All that wait fail in turn. The store stays stale for them, so each in its turn takes the lock,
starts a fetch of its own and fails by it. -/
theorem Ready.drain {fuel : Nat} (h : Ready s ttl e delay size k size moves r) (hstale : s.IsStale ttl)
    (hk : k ≤ size) (hfuel : 2 * (size - k) ≤ fuel) :
    ∃ more, Ready s ttl e delay size size size (moves ++ more) (r.drain fuel) := by
  -- each call takes two rounds: in one it takes the lock, in the other its fetch fails
  induction hleft : size - k generalizing k fuel moves r with
  | zero =>
    obtain rfl : k = size := by omega
    have hline : r.line = [] := by rw [h.line, Nat.sub_self, List.range'_zero]
    refine ⟨[], ?_⟩
    rw [List.append_nil]
    cases fuel with
    | zero => exact h
    | succ fuel => simpa only [Room.drain, h.holder, hline] using h
  | succ left ih =>
    obtain ⟨fuel, rfl⟩ : ∃ fuel', fuel = fuel' + 2 := ⟨fuel - 2, by omega⟩
    have hline : r.line = k :: List.range' (k + 1) left := by rw [h.line, hleft, List.range'_succ]
    have hrunning := h.enter hstale (by omega) (Nat.le_refl size)
    obtain ⟨more, hend⟩ := ih hrunning.leave (by omega)
      (show 2 * (size - (k + 1)) ≤ fuel by omega) (by omega)
    rw [List.append_assoc, List.append_assoc] at hend
    simp only [Room.drain, h.holder, hline, hrunning.holder]
    exact ⟨_, hend⟩

/-- When a room is drained the calls in line fail one after the other. The induction is on the fuel,
of which a call takes one to leave and one to enter. -/
theorem Running.drain {fuel : Nat} (h : Running s ttl e delay size k size moves r)
    (hstale : s.IsStale ttl) (hfuel : 2 * (size - k) ≤ fuel + 1) :
    ∃ more, Ready s ttl e delay size size size (moves ++ more) (r.drain fuel) := by
  have hlt := h.lt
  obtain ⟨fuel, rfl⟩ : ∃ fuel', fuel = fuel' + 1 := ⟨fuel - 1, by omega⟩
  obtain ⟨more, hend⟩ := h.leave.drain hstale hlt (show 2 * (size - (k + 1)) ≤ fuel by omega)
  rw [List.append_assoc] at hend
  simp only [Room.drain, h.holder]
  exact ⟨_, hend⟩

/-- When all calls have failed the room holds their failures. -/
theorem Ready.answers_eq (h : Ready s ttl e delay size size size moves r) :
    r.answers = List.replicate size (.error e) := by
  have hphases : r.phases = List.replicate size (.done (.error e)) := by
    have hlength : r.phases.length = size := by
      rw [length_phases_of_run h.run, downCalls, List.length_replicate]
    refine List.eq_replicate_iff.mpr ⟨hlength, fun p hp => ?_⟩
    obtain ⟨i, hi⟩ := List.mem_iff_getElem?.mp hp
    have hlt := (List.getElem?_eq_some_iff.mp hi).1
    exact Option.some.inj (hi.symm.trans (h.ranks.failed i (hlength ▸ hlt)))
  rw [answers, hphases, List.filterMap_replicate]
  rfl

/-- Calls that arrive together in an outage, while no fresh entry is held. Each of them fetches, in the
order in which they arrived, when the fetch of the one before it has failed; all fail; and the store is
as it was, but for the time and the count of fetches. -/
theorem drain_outage (s : Store Nat α) (ttl : Int) (e : ε) {delay : Nat} (size : Nat)
    (hstale : s.IsStale ttl) (hdelay : 0 < delay) :
    let calls := downCalls ttl e delay size
    let r := Room.drain (2 * size) (arrivals s calls size)
    ∃ moves, (opened s calls).run moves = some r ∧
      (opened s calls).timeline moves = turns s.clock.monotonic delay e size ∧
      r.answers = List.replicate size (.error e) ∧ r.store = s.outlasted delay size := by
  intro calls r
  suffices ∃ moves, Ready s ttl e delay size size size moves r by
    obtain ⟨moves, h⟩ := this
    exact ⟨moves, h.run, h.timeline, h.answers_eq, h.store⟩
  cases size with
  | zero => exact ⟨[], ready_opened⟩
  | succ size =>
    obtain ⟨moves, h⟩ := running_arrivals (e := e) hstale hdelay (Nat.lt_succ_self size)
    obtain ⟨more, hend⟩ := h.drain hstale (show 2 * (size + 1 - 0) ≤ 2 * (size + 1) + 1 by omega)
    exact ⟨_, hend⟩

end Room

end Workday.Cache
