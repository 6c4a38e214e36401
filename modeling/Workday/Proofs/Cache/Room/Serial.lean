import Workday.Proofs.Cache.Room.Play
import Workday.Proofs.Cache.Room.Trace
import Workday.Proofs.Cache.Series

/-!
# The series behind overlapping calls

When overlapping calls take the lock in turn and time passes only while a fetch runs, they are
answered as a series: one after the other, in the order of their answers. `Standing` says where the
room stands to the series of the calls answered so far. It stands as the series leaves the store,
or one call further, while the fetch of that call runs; and as the entry and the clock have not
changed since that fetch began, a check finds the same in both. Each thing that a call can do keeps
this (`arrive`, `enter`, `leave`), and so does the serving of a whole line (`Serial.drain`).
-/

set_option autoImplicit false

namespace Workday.Cache

variable {σ ε α : Type}

namespace Room

variable {r r' : Room σ ε α} {m : Move} {moves : List Move} {order : List Nat} {i n : Nat}
  {call : Call σ ε α} {fetched : Fetched ε α} {value : α} {s : Store σ α}
  {calls : List (Call σ ε α)} {t : Series σ ε α}

/-- The calls that wait for their answer: the one that holds the lock, then those in line. -/
def pending (r : Room σ ε α) : List Nat := r.holder.toList ++ r.line

/-- Where the lock is held, the one who holds it is the first to wait for an answer. -/
theorem pending_of_held (h : r.holder = some i) : r.pending = i :: r.line := by
  rw [pending, h]
  rfl

/-- Where the lock is free, only those in line wait for an answer. -/
theorem pending_of_free (h : r.holder = none) : r.pending = r.line := by
  rw [pending, h]
  rfl

/-! ## The run that is seen -/

/-- A run of the room in which the calls arrive, and what is seen along it. -/
structure Traced (s : Store σ α) (calls : List (Call σ ε α)) (moves : List Move)
    (answers : List (Nat × Except ε (Served α))) (launched : List (Nat × Fetched ε α))
    (r : Room σ ε α) : Prop where
  run : (opened s calls).run moves = some r
  answered : (opened s calls).answered moves = answers
  launches : (opened s calls).launches moves = launched

section Traced

variable {p : Phase ε α} {answers : List (Nat × Except ε (Served α))}
  {launched : List (Nat × Fetched ε α)}

theorem Traced.calls_eq (h : Traced s calls moves answers launched r) : r.calls = calls :=
  run_calls_eq h.run

/-- One more move adds what it has brought its call to: an answer, a fetch, or neither. -/
theorem Traced.concat (h : Traced s calls moves answers launched r) (hm : r.Moved m r') :
    Traced s calls (moves ++ [m]) (answers ++ (r'.broughtTo Phase.answer? m).toList)
      (launched ++ (r'.broughtTo Phase.fetched? m).toList) r' where
  run := run_concat_eq_some_iff.mpr ⟨r, h.run, hm⟩
  answered := by rw [Room.answered, seen_concat h.run hm, ← Room.answered, h.answered]
  launches := by rw [Room.launches, seen_concat h.run hm, ← Room.launches, h.launches]

/-- Time that passes adds nothing to what is seen. -/
theorem Traced.advance (h : Traced s calls moves answers launched r) (ms : Nat) :
    Traced s calls (moves ++ [.advance ms]) answers launched
      { r with store := r.store.advance ms } := by
  have hconcat := h.concat (.advanced ms)
  rw [broughtTo_of_no_call rfl, broughtTo_of_no_call rfl] at hconcat
  simpa only [Option.toList_none, List.append_nil] using hconcat

/-- A call moves, and what is seen of it is the answer or the fetch that it comes to. -/
theorem Traced.move (h : Traced s calls moves answers launched r) (hm : r.Moved m r')
    (hi : m.call? = some i) (hp : r'.phases[i]? = some p) :
    Traced s calls (moves ++ [m]) (answers ++ (p.answer?.map (i, ·)).toList)
      (launched ++ (p.fetched?.map (i, ·)).toList) r' := by
  have hconcat := h.concat hm
  rwa [broughtTo_eq hi hp, broughtTo_eq hi hp] at hconcat

/-- A call goes on, and neither is answered nor starts its fetch. -/
theorem Traced.goOn (h : Traced s calls moves answers launched r) (hm : r.Moved m r')
    (hi : m.call? = some i) (hp : r'.phases[i]? = some p) (hanswer : p.answer? = none)
    (hfetched : p.fetched? = none) : Traced s calls (moves ++ [m]) answers launched r' := by
  have hmove := h.move hm hi hp
  rw [hanswer, hfetched] at hmove
  simpa only [Option.map_none, Option.toList_none, List.append_nil] using hmove

/-- A move that answers a call adds the answer. -/
theorem Traced.answer {answer : Except ε (Served α)} (h : Traced s calls moves answers launched r)
    (hm : r.Moved m r') (hi : m.call? = some i) (hp : r'.phases[i]? = some (.done answer)) :
    Traced s calls (moves ++ [m]) (answers ++ [(i, answer)]) launched r' := by
  have hmove := h.move hm hi hp
  rwa [show Phase.fetched? (.done answer) = none from rfl, Option.map_none, Option.toList_none,
    List.append_nil] at hmove

/-- A move that starts a fetch adds the fetch. -/
theorem Traced.launch (h : Traced s calls moves answers launched r)
    (hm : r.Moved m r') (hi : m.call? = some i) (hp : r'.phases[i]? = some (.fetching fetched)) :
    Traced s calls (moves ++ [m]) answers (launched ++ [(i, fetched)]) r' := by
  have hmove := h.move hm hi hp
  rwa [show Phase.answer? (.fetching fetched) = none from rfl, Option.map_none, Option.toList_none,
    List.append_nil] at hmove

/-- The fetch of a call ends, and the call is answered as the fetch decides. A failure takes one move; a
success takes two, since the calendar is stored before it is handed out. -/
theorem Traced.leave (h : Traced s calls moves answers launched r)
    (hfetching : r.phases[i]? = some (.fetching fetched)) :
    ∃ more, Traced s calls (moves ++ more) (answers ++ [(i, (r.store.finish fetched.result).1)])
      launched (r.leave i) := by
  unfold Room.leave
  cases hresult : fetched.result with
  | error e =>
    have hm := Moved.failed hfetching hresult
    have hdone := getElem?_set_phase_self (p := .done (.error e)) hfetching
    rw [hm.play, play_of_answered hdone rfl]
    exact ⟨[.finish i], h.answer hm rfl hdone⟩
  | ok value =>
    have hm := Moved.fetched hfetching hresult
    have hstoring := getElem?_set_phase_self (p := .storing ⟨value, r.store.clock⟩) hfetching
    have hput := Moved.stored (r := r.setPhase i (.storing ⟨value, r.store.clock⟩)) hstoring
    rw [hm.play, hput.play]
    refine ⟨[.finish i, .store i], ?_⟩
    have hdone := getElem?_set_phase_self (p := .done (.ok ⟨value, .network⟩)) hstoring
    have hstored := (h.goOn hm rfl hstoring rfl rfl).answer hput rfl hdone
    rwa [List.append_assoc] at hstored

end Traced

/-! ## The series behind a batch -/

/-- The room stands as a series of calls leaves it, or one call further, while the fetch of that
call runs. -/
inductive Standing (s : Store σ α) (calls : List (Call σ ε α)) (moves : List Move)
    (t : Series σ ε α) (r : Room σ ε α) : Prop where
  | free (traced : Traced s calls moves t.answers t.launches r) (holder : r.holder = none)
      (store : r.store = t.store)
  | busy {i : Nat} {call : Call σ ε α}
      (traced : Traced s calls moves t.answers (t.launches ++ [(i, (t.store.start call).1)]) r)
      (holder : r.holder = some i) (made : calls[i]? = some call)
      (fetching : r.phases[i]? = some (.fetching (t.store.start call).1))
      (stale : t.store.IsStale call.ttl) (store : r.store = (t.store.start call).2)

/-- The calls answered so far were answered as the series of them, in the order of their answers,
and the others that have arrived wait. -/
structure Serial (s : Store σ α) (calls : List (Call σ ε α)) (arrived : Nat) (moves : List Move)
    (order : List Nat) (r : Room σ ε α) : Prop where
  standing : Standing s calls moves (s.series (numbered calls order)) r
  waiting : ∀ i ∈ r.line, r.phases[i]? = some .waiting
  perm : (order ++ r.pending).Perm (List.range arrived)

/-- A room that stands as a series leaves it has come to be so by a run. -/
theorem Standing.run (h : Standing s calls moves t r) : (opened s calls).run moves = some r := by
  cases h with
  | free traced => exact traced.run
  | busy traced => exact traced.run

/-- A room that stands as a series leaves it has the same calls. -/
theorem Standing.calls_eq (h : Standing s calls moves t r) : r.calls = calls :=
  run_calls_eq h.run

/-- A fetch that runs has not changed what a check finds. -/
theorem Standing.fresh?_eq (h : Standing s calls moves t r) (ttl : Int) :
    r.store.fresh? ttl = t.store.fresh? ttl := by
  cases h with
  | free _ _ store => rw [store]
  | busy _ _ _ _ _ store =>
    rw [store]
    rfl

/-- Only calls that have arrived are answered or wait. -/
theorem Serial.lt (h : Serial s calls n moves order r) (hi : i ∈ order ++ r.pending) : i < n :=
  List.mem_range.mp (h.perm.mem_iff.mp hi)

theorem Serial.pending_nodup (h : Serial s calls n moves order r) : r.pending.Nodup :=
  (List.nodup_append.mp (h.perm.nodup_iff.mpr List.nodup_range)).2.1

/-- With the fetch of the lock's holder over, the series goes on by one call. The lock is free again,
and nobody in line has moved. -/
theorem Standing.leave (h : Standing s calls moves t r) (hholder : r.holder = some i) :
    ∃ more call, calls[i]? = some call ∧
      Standing s calls (moves ++ more) (t.call i call)
        ((r.play (.advance r.holderDelay)).leave i) ∧
      ((r.play (.advance r.holderDelay)).leave i).holder = none ∧
      ((r.play (.advance r.holderDelay)).leave i).line = r.line := by
  cases h with
  | free _ holder => cases hholder.symm.trans holder
  | @busy j call traced holder made fetching stale store =>
    obtain rfl := Option.some.inj (hholder.symm.trans holder)
    have hdelay : r.holderDelay = (t.store.start call).1.delay := by
      simp only [holderDelay, holder, Option.bind_some, fetching]
    rw [hdelay, (Moved.advanced _).play]
    obtain ⟨more, hleave⟩ := (traced.advance (t.store.start call).1.delay).leave fetching
    have hroom := leave_eq (r := { r with store := r.store.advance (t.store.start call).1.delay })
      fetching
    rw [List.append_assoc, hroom] at hleave
    rw [hroom]
    refine ⟨.advance (t.store.start call).1.delay :: more, call, made, .free ?_ rfl ?_, rfl, rfl⟩
    · rw [Series.call_of_stale stale, ← store]
      exact hleave
    · rw [Series.call_of_stale stale, ← store]

/-- The first in line finds no fresh entry: it starts its fetch. The series stays where it is, since the
call is not over. -/
theorem Standing.enter_of_stale (h : Standing s calls moves t r) (hfree : r.holder = none)
    (hwaiting : r.phases[i]? = some .waiting) (hmade : calls[i]? = some call)
    (hstale : r.store.IsStale call.ttl) :
    ∃ more, Standing s calls (moves ++ more) t (r.enter i) ∧ (r.enter i).holder = some i ∧
      (r.enter i).line = r.line.erase i ∧ (r.enter i).store = (r.store.start call).2 := by
  cases h with
  | busy _ holder => cases hfree.symm.trans holder
  | free traced _ store =>
    have htake : r.Moved (.take i) (r.take i) := .admitted hwaiting hfree
    have hadmitted : (r.take i).phases[i]? = some .admitted := getElem?_set_phase_self hwaiting
    have hcheck := Moved.started hadmitted (traced.calls_eq.symm ▸ hmade) hstale
    have hfetching := getElem?_set_phase_self (p := .fetching (r.store.start call).1) hadmitted
    have htraced := (traced.goOn htake rfl hadmitted rfl rfl).launch hcheck rfl hfetching
    rw [List.append_assoc] at htraced
    rw [enter_eq htake hcheck]
    refine ⟨[.take i, .check i], .busy ?_ rfl hmade ?_ ?_ ?_, rfl, rfl, rfl⟩
    all_goals rw [← store]
    · exact htraced
    · exact hfetching
    · exact hstale
    · rfl

/-- The first in line finds a fresh entry: it is served, and the series goes on by one call. The lock is
free at once. -/
theorem Standing.enter_of_fresh (h : Standing s calls moves t r) (hfree : r.holder = none)
    (hwaiting : r.phases[i]? = some .waiting) (hmade : calls[i]? = some call)
    (hfresh : r.store.fresh? call.ttl = some value) :
    ∃ more, Standing s calls (moves ++ more) (t.call i call) (r.enter i) ∧
      (r.enter i).holder = none ∧ (r.enter i).line = r.line.erase i := by
  have hseries := Series.call_of_fresh (i := i) ((h.fresh?_eq call.ttl).symm.trans hfresh)
  cases h with
  | busy _ holder => cases hfree.symm.trans holder
  | free traced _ store =>
    have htake : r.Moved (.take i) (r.take i) := .admitted hwaiting hfree
    have hadmitted : (r.take i).phases[i]? = some .admitted := getElem?_set_phase_self hwaiting
    have hcheck := Moved.servedLate hadmitted (traced.calls_eq.symm ▸ hmade) hfresh
    have hdone := getElem?_set_phase_self (p := .done (.ok ⟨value, .cache⟩)) hadmitted
    have htraced := (traced.goOn htake rfl hadmitted rfl rfl).answer hcheck rfl hdone
    rw [List.append_assoc] at htraced
    rw [enter_eq htake hcheck, hseries]
    exact ⟨_, .free htraced rfl store, rfl, rfl⟩

/-- A call finds a fresh entry when it arrives: it is served, and the series goes on by one call. -/
theorem Standing.arrive_of_fresh (h : Standing s calls moves t r)
    (hidle : r.phases[i]? = some .idle) (hmade : calls[i]? = some call)
    (hfresh : r.store.fresh? call.ttl = some value) :
    Standing s calls (moves ++ [.arrive i]) (t.call i call)
      (r.setPhase i (.done (.ok ⟨value, .cache⟩))) := by
  rw [Series.call_of_fresh ((h.fresh?_eq call.ttl).symm.trans hfresh)]
  have hm := Moved.servedAtOnce hidle (h.calls_eq.symm ▸ hmade) hfresh
  have hdone := getElem?_set_phase_self (p := .done (.ok ⟨value, .cache⟩)) hidle
  cases h with
  | free traced holder store => exact .free (traced.answer hm rfl hdone) holder store
  | @busy b other traced holder made fetching stale store =>
    have hne : b ≠ i := ne_of_phase hidle fetching (by simp)
    exact .busy (traced.answer hm rfl hdone) holder made
      ((getElem?_set_phase_of_ne hidle hne).trans fetching) stale store

/-- A call finds no fresh entry when it arrives: it waits in line. -/
theorem Standing.arrive_of_stale (h : Standing s calls moves t r)
    (hidle : r.phases[i]? = some .idle) (hmade : calls[i]? = some call)
    (hstale : r.store.IsStale call.ttl) :
    Standing s calls (moves ++ [.arrive i]) t
      { r.setPhase i .waiting with line := r.line ++ [i] } := by
  have hm := Moved.queued hidle (h.calls_eq.symm ▸ hmade) hstale
  have hwaiting := getElem?_set_phase_self (p := .waiting) hidle
  cases h with
  | free traced holder store => exact .free (traced.goOn hm rfl hwaiting rfl rfl) holder store
  | @busy b other traced holder made fetching stale store =>
    have hne : b ≠ i := ne_of_phase hidle fetching (by simp)
    exact .busy (traced.goOn hm rfl hwaiting rfl rfl) holder made
      ((getElem?_set_phase_of_ne hidle hne).trans fetching) stale store

/-- A call arrives alone and finds no fresh entry: it starts its fetch. A fetch that takes no time is
over in the same moment, so the call is welcomed and leaves at once. -/
theorem Standing.start_alone (h : Standing s calls moves t r) (hidle : r.phases[i]? = some .idle)
    (hmade : calls[i]? = some call) (hstale : r.store.IsStale call.ttl) (hfree : r.holder = none)
    (hline : r.line = []) :
    ∃ more, Standing s calls (moves ++ more) t ((r.play (.arrive i)).enter i) ∧
      ((r.play (.arrive i)).enter i).holder = some i ∧
      ((r.play (.arrive i)).enter i).line = [] ∧
      ((r.play (.arrive i)).enter i).store = (r.store.start call).2 ∧
      r.welcome i =
        if ((r.play (.arrive i)).enter i).holderDelay = 0 then
          ((r.play (.arrive i)).enter i).leave i
        else (r.play (.arrive i)).enter i := by
  have hmoved := Moved.queued hidle (h.calls_eq.symm ▸ hmade) hstale
  have hwaiting := getElem?_set_phase_self (p := .waiting) hidle
  have hwelcome := welcome_of_free (r := r) (i := i) (by rw [hmoved.play]; exact hfree)
  obtain ⟨more, hbusy, hholder, hrest, hstore⟩ :=
    (h.arrive_of_stale hidle hmade hstale).enter_of_stale hfree hwaiting hmade hstale
  rw [← hmoved.play] at hbusy hholder hrest hstore
  refine ⟨[.arrive i] ++ more, ?_, hholder, ?_, ?_, hwelcome⟩
  · rw [← List.append_assoc]
    exact hbusy
  · rw [hrest, hmoved.play, hline, List.nil_append, List.erase_cons_head]
  · rw [hstore, hmoved.play]
    rfl

/-- The answers of the series are those that the calls have. -/
theorem Standing.mem_answers_iff {answer : Except ε (Served α)} (h : Standing s calls moves t r) :
    (i, answer) ∈ t.answers ↔ r.phases[i]? = some (.done answer) := by
  rw [← mem_answered_iff h.run]
  cases h with
  | free traced => rw [traced.answered]
  | busy traced => rw [traced.answered]

/-- When nobody waits any more the room stands as the series leaves it. -/
theorem Standing.ended (h : Standing s calls moves t r) (hend : r.pending = []) :
    Traced s calls moves t.answers t.launches r ∧ r.store = t.store := by
  cases h with
  | free traced _ store => exact ⟨traced, store⟩
  | busy _ holder => cases (pending_of_held holder).symm.trans hend

/-- The holder of the lock ends. It is the next in the order of the series, and the calls in line are
those that were in line before. -/
theorem Serial.leave (h : Serial s calls n moves order r) (hholder : r.holder = some i) :
    ∃ more, Serial s calls n (moves ++ more) (order ++ [i])
        ((r.play (.advance r.holderDelay)).leave i) ∧
      ((r.play (.advance r.holderDelay)).leave i).holder = none ∧
      ((r.play (.advance r.holderDelay)).leave i).line = r.line := by
  obtain ⟨more, call, hmade, hstanding, hfree, hline⟩ := h.standing.leave hholder
  have hpending := pending_of_held hholder
  have hnodup := h.pending_nodup
  have hperm := h.perm
  rw [hpending] at hnodup hperm
  refine ⟨more, ⟨s.series_numbered_concat hmade ▸ hstanding, ?_, ?_⟩, hfree, hline⟩
  · intro j hj
    rw [hline] at hj
    have hne : j ≠ i := by
      rintro rfl
      exact (List.nodup_cons.mp hnodup).1 hj
    rw [leave_phase_of_other hne, (Moved.advanced _).play]
    exact h.waiting j hj
  · rw [pending_of_free hfree, hline, List.append_assoc]
    exact hperm

/-- The first in line goes on, and is served or starts its fetch. Either way it is the next in the
order, at once or when its fetch ends. -/
theorem Serial.enter (h : Serial s calls n moves order r) (hn : n ≤ calls.length)
    (hfree : r.holder = none) {rest : List Nat} (hline : r.line = i :: rest) :
    ∃ more order', Serial s calls n (moves ++ more) order' (r.enter i) ∧
      order' ++ (r.enter i).pending = order ++ r.pending ∧ (r.enter i).line = rest := by
  have hpending : r.pending = i :: rest := (pending_of_free hfree).trans hline
  have hi : i < calls.length := Nat.lt_of_lt_of_le (h.lt (by simp [hpending])) hn
  have hmade := List.getElem?_eq_getElem hi
  have hwaiting := h.waiting i (by rw [hline]; exact List.mem_cons_self)
  have herase : r.line.erase i = rest := by rw [hline, List.erase_cons_head]
  have hnodup := h.pending_nodup
  rw [hpending] at hnodup
  -- nobody is in line twice, so the others still wait
  have hrest : ∀ j ∈ rest, (r.enter i).phases[j]? = some .waiting := by
    intro j hj
    have hne : j ≠ i := by
      rintro rfl
      exact (List.nodup_cons.mp hnodup).1 hj
    rw [enter_phase_of_other hne]
    exact h.waiting j (by rw [hline]; exact List.mem_cons_of_mem i hj)
  -- the second check decides, by an entry that may be newer than the one the call came upon
  cases hfresh : r.store.fresh? calls[i].ttl with
  | none =>
    have hstale := Store.fresh?_eq_none_iff.mp hfresh
    obtain ⟨more, hstanding, hholder, hline', _⟩ :=
      h.standing.enter_of_stale hfree hwaiting hmade hstale
    rw [herase] at hline'
    have hpending' : (r.enter i).pending = r.pending := by
      rw [hpending, pending_of_held hholder, hline']
    refine ⟨more, order, ⟨hstanding, hline' ▸ hrest, hpending' ▸ h.perm⟩, ?_, hline'⟩
    rw [hpending']
  | some value =>
    obtain ⟨more, hstanding, hholder, hline'⟩ :=
      h.standing.enter_of_fresh hfree hwaiting hmade hfresh
    rw [herase] at hline'
    have hpending' : order ++ [i] ++ (r.enter i).pending = order ++ r.pending := by
      rw [hpending, pending_of_free hholder, hline', List.append_assoc, List.singleton_append]
    refine ⟨more, order ++ [i], ⟨?_, hline' ▸ hrest, hpending' ▸ h.perm⟩, hpending', hline'⟩
    rw [s.series_numbered_concat hmade]
    exact hstanding

/-- All that wait are served, in the order in which they stand. With the order of those answered so far
before them this is the order of the whole batch. -/
theorem Serial.drain (fuel : Nat) (h : Serial s calls n moves order r) (hn : n ≤ calls.length)
    (hfuel : 2 * r.line.length + r.holder.toList.length ≤ fuel) :
    ∃ more, Serial s calls n (moves ++ more) (order ++ r.pending) (r.drain fuel) ∧
      (r.drain fuel).pending = [] := by
  -- a call in line takes two rounds at most: in one it goes on, in the other its fetch ends
  induction fuel generalizing r moves order with
  | zero =>
    have hline : r.line = [] := List.eq_nil_of_length_eq_zero (by omega)
    have hholder : r.holder.toList = [] := List.eq_nil_of_length_eq_zero (by omega)
    have hpending : r.pending = [] := by rw [pending, hholder, hline, List.append_nil]
    refine ⟨[], ?_, hpending⟩
    rw [List.append_nil, hpending, List.append_nil]
    exact h
  | succ fuel ih =>
    cases hholder : r.holder with
    | some i =>
      obtain ⟨more, hleave, hfree, hline⟩ := h.leave hholder
      obtain ⟨rest, hdrain, hend⟩ := ih hleave (by
        rw [hfree, hline, Option.toList_none]
        rw [hholder, Option.toList_some] at hfuel
        simp only [List.length_cons, List.length_nil] at hfuel ⊢
        omega)
      simp only [Room.drain, hholder]
      refine ⟨more ++ rest, ?_, hend⟩
      have horder : order ++ [i] ++ ((r.play (.advance r.holderDelay)).leave i).pending =
          order ++ r.pending := by
        rw [pending_of_free hfree, pending_of_held hholder, hline, List.append_assoc,
          List.singleton_append]
      rw [← horder, ← List.append_assoc]
      exact hdrain
    | none =>
      cases hline : r.line with
      | nil =>
        have hpending : r.pending = [] := (pending_of_free hholder).trans hline
        simp only [Room.drain, hholder, hline]
        refine ⟨[], ?_, hpending⟩
        rw [List.append_nil, hpending, List.append_nil]
        exact h
      | cons i rest =>
        obtain ⟨more, order', henter, horder, hrest⟩ := h.enter hn hholder hline
        have hone : (r.enter i).holder.toList.length ≤ 1 := by
          cases (r.enter i).holder <;> simp
        obtain ⟨others, hdrain, hend⟩ := ih henter (by
          rw [hline, List.length_cons] at hfuel
          rw [hrest]
          omega)
        simp only [Room.drain, hholder, hline]
        refine ⟨more ++ others, ?_, hend⟩
        rw [← horder, ← List.append_assoc]
        exact hdrain

end Room

end Workday.Cache
