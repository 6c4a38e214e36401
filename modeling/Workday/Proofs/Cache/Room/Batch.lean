import Workday.Proofs.Cache.Room.Serial

/-!
# Calls that arrive together

Calls that arrive together are answered as if they had run one after the other, in the order in
which their answers come: first those that are answered as they arrive, then the one that holds the
lock when all have arrived, then those in line (`batch_serial`). A call comes out of the order of
the list only if an entry that is too old for a call before it is fresh for this one, so with one
time to live for all the order is that of the list.
-/

set_option autoImplicit false

namespace Workday.Cache

variable {σ ε α : Type}

namespace Room

variable {r r' : Room σ ε α} {m : Move} {moves : List Move} {order : List Nat} {i j n : Nat}
  {call : Call σ ε α} {fetched : Fetched ε α} {value : α} {s : Store σ α}
  {calls : List (Call σ ε α)} {t : Series σ ε α}

/-- A call has its answer. -/
def isAnswered (r : Room σ ε α) (i : Nat) : Bool := (r.phases[i]?.bind Phase.answer?).isSome

/-- Whether a call is answered is told by its phase. -/
theorem isAnswered_of_phase {p : Phase ε α} (h : r.phases[i]? = some p) :
    r.isAnswered i = p.answer?.isSome := by
  simp only [isAnswered, h, Option.bind_some]

/-- The holder of the lock has no answer. -/
theorem Standing.isAnswered_holder (h : Standing s calls moves t r) (hholder : r.holder = some i) :
    r.isAnswered i = false := by
  cases h with
  | free _ holder => cases hholder.symm.trans holder
  | busy _ holder _ fetching =>
    obtain rfl := Option.some.inj (hholder.symm.trans holder)
    rw [isAnswered_of_phase fetching]
    rfl

/-! ## Arriving together -/

/-- A call may be answered before another if it comes before it in the list, or if it is served at
its first check by an entry that is too old for the other. -/
def MayPrecede (calls : List (Call σ ε α)) (atOnce : List Nat) (i j : Nat) : Prop :=
  i < j ∨ (i ∈ atOnce ∧
    ∃ a b, calls[i]? = some a ∧ calls[j]? = some b ∧ b.ttl < a.ttl)

/-- A call that may be answered before another still may when more calls are served at once. -/
theorem MayPrecede.mono {atOnce more : List Nat} (h : MayPrecede calls atOnce i j)
    (hsub : ∀ k ∈ atOnce, k ∈ more) : MayPrecede calls more i j :=
  h.imp id fun hahead => ⟨hsub i hahead.1, hahead.2⟩

/-- What holds while the calls arrive, `n` of them so far. -/
structure Welcomed (s : Store σ α) (calls : List (Call σ ε α)) (n : Nat) (moves : List Move)
    (order : List Nat) (r : Room σ ε α) : Prop extends Serial s calls n moves order r where
  idle : ∀ i, n ≤ i → i < calls.length → r.phases[i]? = some .idle
  ordered : (order ++ r.pending).Pairwise
    (MayPrecede calls ((opened s calls).servedAtOnce moves))
  stale : ∀ i ∈ r.pending, ∀ call, calls[i]? = some call → r.store.IsStale call.ttl
  line_eq_nil : r.holder = none → r.line = []
  order_eq : order = (List.range n).filter r.isAnswered

/-- An arrival leaves the answers of the others as they were. -/
theorem filter_isAnswered_welcome :
    (List.range (n + 1)).filter (r.welcome n).isAnswered =
      (List.range n).filter r.isAnswered ++ if (r.welcome n).isAnswered n then [n] else [] := by
  have hsame : ∀ i ∈ List.range n, (r.welcome n).isAnswered i = r.isAnswered i := by
    intro i hi
    have hne : i ≠ n := Nat.ne_of_lt (List.mem_range.mp hi)
    simp only [isAnswered, welcome_phase_of_other hne]
  rw [List.range_succ, List.filter_append, List.filter_congr hsame, List.filter_cons,
    List.filter_nil]

/-- Whoever arrives comes last in the list so far, so all others may precede it. -/
theorem Welcomed.ordered_concat (h : Welcomed s calls n moves order r) (more : List Move) :
    (order ++ r.pending ++ [n]).Pairwise
      (MayPrecede calls ((opened s calls).servedAtOnce (moves ++ more))) := by
  refine List.pairwise_append.mpr ⟨?_, List.pairwise_singleton _ _, fun i hi j hj => ?_⟩
  · exact h.ordered.imp fun hprecede =>
      hprecede.mono fun _ hk => mem_servedAtOnce_append _ h.standing.run hk
  · obtain rfl := List.mem_singleton.mp hj
    exact Or.inl (h.lt hi)

/-- What an arrival has to keep. The calls that arrived before it are as they were, so each way to
arrive has to say only what becomes of the newcomer and of the order so far. -/
theorem Welcomed.succ {more : List Move} {order' : List Nat} (h : Welcomed s calls n moves order r)
    (hstanding : Standing s calls (moves ++ more) (s.series (numbered calls order')) (r.welcome n))
    (horder : order' = order ++ if (r.welcome n).isAnswered n then [n] else [])
    (hperm : (order' ++ (r.welcome n).pending).Perm (order ++ r.pending ++ [n]))
    (hwaiting : ∀ i ∈ (r.welcome n).line, i ∈ r.line ∨
      (i = n ∧ (r.welcome n).phases[n]? = some .waiting))
    (hordered : (order' ++ (r.welcome n).pending).Pairwise
      (MayPrecede calls ((opened s calls).servedAtOnce (moves ++ more))))
    (hstale : ∀ i ∈ (r.welcome n).pending, ∀ call, calls[i]? = some call →
      (r.welcome n).store.IsStale call.ttl)
    (hline : (r.welcome n).holder = none → (r.welcome n).line = []) :
    Welcomed s calls (n + 1) (moves ++ more) order' (r.welcome n) where
  standing := hstanding
  waiting := by
    intro i hi
    -- only the newcomer has changed its phase
    rcases hwaiting i hi with hold | ⟨rfl, hnew⟩
    · have hne : i ≠ n := Nat.ne_of_lt
        (h.lt (List.mem_append_right _ (List.mem_append_right _ hold)))
      rw [welcome_phase_of_other hne]
      exact h.waiting i hold
    · exact hnew
  perm := by
    rw [List.range_succ]
    exact hperm.trans (h.perm.append_right [n])
  idle := by
    intro i hi hlt
    rw [welcome_phase_of_other (by omega)]
    exact h.idle i (by omega) hlt
  ordered := hordered
  stale := hstale
  line_eq_nil := hline
  order_eq := by rw [filter_isAnswered_welcome, horder, h.order_eq]

/-- A call arrives and finds a fresh entry. It is answered before all that wait, though they came first:
the one way in which the order departs from that of the list. -/
theorem Welcomed.arrive_of_fresh (h : Welcomed s calls n moves order r)
    (hmade : calls[n]? = some call) (hfresh : r.store.fresh? call.ttl = some value) :
    Welcomed s calls (n + 1) (moves ++ [.arrive n]) (order ++ [n]) (r.welcome n) := by
  have hidle := h.idle n (Nat.le_refl n) (List.getElem?_eq_some_iff.mp hmade).1
  have hcall : r.calls[n]? = some call := h.standing.calls_eq.symm ▸ hmade
  have hdone := getElem?_set_phase_self (p := .done (.ok ⟨value, .cache⟩)) hidle
  have hwelcome := welcome_of_fresh hidle hcall hfresh
  have hpending : (r.welcome n).pending = r.pending := hwelcome ▸ rfl
  have hatOnce : n ∈ (opened s calls).servedAtOnce (moves ++ [.arrive n]) := by
    rw [servedAtOnce, seen_concat h.standing.run (Moved.servedAtOnce hidle hcall hfresh)]
    refine List.mem_append_right _ ?_
    rw [answeredAtOnce?, broughtTo_eq rfl hdone]
    exact List.mem_singleton.mpr rfl
  -- the entry is fresh for this call and too old for all that wait
  have hahead : ∀ j ∈ r.pending,
      MayPrecede calls ((opened s calls).servedAtOnce (moves ++ [.arrive n])) n j := by
    intro j hj
    have hlt := h.lt (List.mem_append_right _ hj)
    have hmade' := List.getElem?_eq_getElem
      (Nat.lt_trans hlt (List.getElem?_eq_some_iff.mp hmade).1)
    obtain ⟨e, he, hyoung, _⟩ := Store.fresh?_eq_some_iff.mp hfresh
    have hold := h.stale j hj _ hmade' e he
    exact Or.inr ⟨hatOnce, call, _, hmade, hmade', by omega⟩
  refine h.succ ?_ ?_ ?_ ?_ ?_ ?_ ?_
  · rw [s.series_numbered_concat hmade, hwelcome]
    exact h.standing.arrive_of_fresh hidle hmade hfresh
  · rw [hwelcome, isAnswered_of_phase (r := r.setPhase n _) hdone]
    rfl
  · rw [hpending, List.append_assoc, List.append_assoc]
    exact List.perm_append_comm.append_left order
  · intro i hi
    rw [hwelcome] at hi
    exact Or.inl hi
  · obtain ⟨horder, hrest, hcross⟩ := List.pairwise_append.mp (h.ordered.imp fun hprecede =>
      hprecede.mono fun _ hk => mem_servedAtOnce_append [.arrive n] h.standing.run hk)
    rw [hpending, List.append_assoc, List.singleton_append]
    refine List.pairwise_append.mpr ⟨horder, List.pairwise_cons.mpr ⟨hahead, hrest⟩, ?_⟩
    intro i hi j hj
    rcases List.mem_cons.mp hj with rfl | hj
    · exact Or.inl (h.lt (List.mem_append_left _ hi))
    · exact hcross i hi j hj
  · rw [hpending, hwelcome]
    exact h.stale
  · rw [hwelcome]
    exact h.line_eq_nil

/-- A call arrives, finds no fresh entry, and gets in line behind the holder of the lock. Nobody is
answered, and the order so far stays. -/
theorem Welcomed.arrive_behind {b : Nat} (h : Welcomed s calls n moves order r)
    (hmade : calls[n]? = some call) (hstale : r.store.IsStale call.ttl)
    (hholder : r.holder = some b) :
    Welcomed s calls (n + 1) (moves ++ [.arrive n]) order (r.welcome n) := by
  have hidle := h.idle n (Nat.le_refl n) (List.getElem?_eq_some_iff.mp hmade).1
  have hcall : r.calls[n]? = some call := h.standing.calls_eq.symm ▸ hmade
  have hmoved := Moved.queued hidle hcall hstale
  have hwaiting := getElem?_set_phase_self (p := .waiting) hidle
  have hwelcome := (welcome_of_held (by rw [hmoved.play]; exact hholder)).trans hmoved.play
  have hpending : (r.welcome n).pending = r.pending ++ [n] := by
    rw [hwelcome, pending, pending, List.append_assoc]
    rfl
  refine h.succ ?_ ?_ ?_ ?_ ?_ ?_ ?_
  · rw [hwelcome]
    exact h.standing.arrive_of_stale hidle hmade hstale
  · rw [hwelcome, isAnswered_of_phase (r := { r.setPhase n .waiting with line := r.line ++ [n] })
      hwaiting]
    exact (List.append_nil order).symm
  · rw [hpending, ← List.append_assoc]
  · intro i hi
    rw [hwelcome] at hi
    rcases List.mem_append.mp hi with hi | hi
    · exact Or.inl hi
    · exact Or.inr ⟨List.mem_singleton.mp hi, hwelcome ▸ hwaiting⟩
  · rw [hpending, ← List.append_assoc]
    exact h.ordered_concat _
  · -- what was too old for those in line still is, and it is for the newcomer
    rw [hpending, hwelcome]
    intro i hi call' hmade'
    rcases List.mem_append.mp hi with hi | hi
    · exact h.stale i hi call' hmade'
    · rw [List.mem_singleton.mp hi, hmade] at hmade'
      exact Option.some.inj hmade' ▸ hstale
  · rw [hwelcome]
    intro hfree
    cases hholder.symm.trans hfree

/-- A call arrives, finds no fresh entry and the lock free, and starts its fetch; if that takes no
time it also ends it. -/
theorem Welcomed.arrive_alone (h : Welcomed s calls n moves order r)
    (hmade : calls[n]? = some call) (hstale : r.store.IsStale call.ttl)
    (hfree : r.holder = none) :
    ∃ more order', Welcomed s calls (n + 1) (moves ++ more) order' (r.welcome n) := by
  have hidle := h.idle n (Nat.le_refl n) (List.getElem?_eq_some_iff.mp hmade).1
  have hnone := h.line_eq_nil hfree
  have hpending : r.pending = [] := (pending_of_free hfree).trans hnone
  obtain ⟨more, hbusy, hholder, hline, hstore, hwelcome⟩ :=
    h.standing.start_alone hidle hmade hstale hfree hnone
  have hordered := h.ordered_concat
  rw [hpending, List.append_nil] at hordered
  generalize (r.play (.arrive n)).enter n = a at hbusy hholder hline hstore hwelcome
  -- who holds the lock without anybody in line has found it free, and has started its fetch
  by_cases hdelay : a.holderDelay = 0
  -- a fetch that takes no time is over before anybody else arrives
  · obtain ⟨rest, call', hmade', hleft, hfree', hline'⟩ := hbusy.leave hholder
    rw [hdelay, play_advance_zero] at hleft hfree' hline'
    rw [if_pos hdelay] at hwelcome
    have hpending' : (a.leave n).pending = [] :=
      (pending_of_free hfree').trans (hline'.trans hline)
    rw [← s.series_numbered_concat hmade', List.append_assoc] at hleft
    refine ⟨more ++ rest, order ++ [n], h.succ (hwelcome ▸ hleft) ?_ ?_ ?_ ?_ ?_ ?_⟩
    all_goals rw [hwelcome]
    · have hdone := hleft.mem_answers_iff.mp (by
        rw [s.series_numbered_concat hmade']
        exact List.mem_append_right _ List.mem_cons_self)
      rw [isAnswered_of_phase hdone]
      rfl
    · rw [hpending', hpending, List.append_nil, List.append_nil]
    · rw [hline', hline]
      exact fun i hi => absurd hi List.not_mem_nil
    · rw [hpending', List.append_nil]
      exact hordered _
    · rw [hpending']
      exact fun i hi => absurd hi List.not_mem_nil
    · exact fun _ => hline'.trans hline
  · rw [if_neg hdelay] at hwelcome
    have hpending' : a.pending = [n] := by rw [pending_of_held hholder, hline]
    refine ⟨more, order, h.succ (hwelcome ▸ hbusy) ?_ ?_ ?_ ?_ ?_ ?_⟩
    all_goals rw [hwelcome]
    · rw [hbusy.isAnswered_holder hholder]
      exact (List.append_nil order).symm
    · rw [hpending', hpending, List.append_nil]
    · rw [hline]
      exact fun i hi => absurd hi List.not_mem_nil
    · rw [hpending']
      exact hordered _
    · rw [hpending', hstore]
      intro i hi call' hmade'
      rw [List.mem_singleton.mp hi, hmade] at hmade'
      exact Option.some.inj hmade' ▸ hstale
    · exact fun _ => hline

/-- A room in which no call has arrived is in order. -/
theorem welcomed_opened : Welcomed s calls 0 [] [] (opened s calls) where
  standing := .free ⟨rfl, rfl, rfl⟩ rfl rfl
  waiting := nofun
  perm := .refl []
  idle := by
    intro i _ hi
    simp only [opened, List.getElem?_map, List.getElem?_eq_getElem hi, Option.map_some]
  ordered := .nil
  stale := nofun
  line_eq_nil := fun _ => rfl
  order_eq := rfl

/-- One more call arrives. -/
theorem Welcomed.welcome (h : Welcomed s calls n moves order r) (hn : n < calls.length) :
    ∃ more order', Welcomed s calls (n + 1) (moves ++ more) order' (r.welcome n) := by
  have hmade := List.getElem?_eq_getElem hn
  cases hfresh : r.store.fresh? calls[n].ttl with
  | some value => exact ⟨_, _, h.arrive_of_fresh hmade hfresh⟩
  | none =>
    have hstale := Store.fresh?_eq_none_iff.mp hfresh
    cases hholder : r.holder with
    | some b => exact ⟨_, _, h.arrive_behind hmade hstale hholder⟩
    | none => exact h.arrive_alone hmade hstale hholder

/-- The room when the first calls of a list have arrived. -/
def arrivals (s : Store σ α) (calls : List (Call σ ε α)) (n : Nat) : Room σ ε α :=
  (List.range n).foldl Room.welcome (opened s calls)

/-- Calls that arrive one after the other leave the room in order, by some moves. The induction is
on how many have arrived. -/
theorem welcomed_arrivals (hn : n ≤ calls.length) :
    ∃ moves order, Welcomed s calls n moves order (arrivals s calls n) := by
  induction n with
  | zero => exact ⟨[], [], welcomed_opened⟩
  | succ n ih =>
    obtain ⟨moves, order, h⟩ := ih (Nat.le_of_succ_le hn)
    obtain ⟨more, order', hnext⟩ := h.welcome hn
    refine ⟨moves ++ more, order', ?_⟩
    rw [arrivals, List.range_succ, List.foldl_append]
    exact hnext

/-! ## The answers of a room -/

/-- Where all calls are answered, the answers are all that the calls have come to. None is left out, so
the place of an answer is the number of its call. -/
theorem map_done_answers (h : ∀ p ∈ r.phases, ∃ answer, p = .done answer) :
    r.answers.map .done = r.phases := by
  have hall : ∀ phases : List (Phase ε α), (∀ p ∈ phases, ∃ answer, p = .done answer) →
      (phases.filterMap Phase.answer?).map .done = phases := by
    intro phases hdone
    induction phases with
    | nil => rfl
    | cons p phases ih =>
      obtain ⟨answer, rfl⟩ := hdone p List.mem_cons_self
      have hrest := ih fun q hq => hdone q (List.mem_cons_of_mem _ hq)
      simp only [List.filterMap_cons, Phase.answer?, List.map_cons, hrest]
  exact hall r.phases h

/-- Where all calls are answered, each answer stands at the number of its call. -/
theorem answers_getElem?_eq_some_iff {answer : Except ε (Served α)}
    (h : ∀ p ∈ r.phases, ∃ answer, p = .done answer) :
    r.answers[i]? = some answer ↔ r.phases[i]? = some (.done answer) := by
  rw [← map_done_answers h, List.getElem?_map]
  simp

/-- When nobody waits any more all calls have been answered. Every number is then in the order of the
series, which answers the calls that are in it. -/
theorem Serial.answered_all (h : Serial s calls calls.length moves order r)
    (hend : r.pending = []) : ∀ p ∈ r.phases, ∃ answer, p = .done answer := by
  intro p hp
  obtain ⟨i, hi⟩ := List.mem_iff_getElem?.mp hp
  have hlt : i < calls.length :=
    length_phases_of_run h.standing.run ▸ (List.getElem?_eq_some_iff.mp hi).1
  have hperm := h.perm
  rw [hend, List.append_nil] at hperm
  have hnumbers : (s.series (numbered calls order)).answers.map Prod.fst = _ := s.series_numbers
  rw [numbered_numbers fun j hj => List.mem_range.mp (hperm.mem_iff.mp hj)] at hnumbers
  have hmem : i ∈ order := hperm.mem_iff.mpr (List.mem_range.mpr hlt)
  rw [← hnumbers] at hmem
  obtain ⟨⟨_, answer⟩, hanswer, rfl⟩ := List.mem_map.mp hmem
  exact ⟨answer, Option.some.inj (hi.symm.trans (h.standing.mem_answers_iff.mp hanswer))⟩

end Room

namespace Store

variable {s : Store σ α} {calls : List (Call σ ε α)} {i : Nat}

/-- The order in which calls that arrive together are answered: first those that are answered as
they arrive, then the one that holds the lock when all have arrived, then those in line. -/
def answerOrder (s : Store σ α) (calls : List (Call σ ε α)) : List Nat :=
  (List.range calls.length).filter (Room.arrivals s calls calls.length).isAnswered ++
    (Room.arrivals s calls calls.length).pending

/-- Calls that arrive together make a run of the room, at whose end they have been answered as the
series of them in the order of their answers. -/
theorem batch_serial (s : Store σ α) (calls : List (Call σ ε α)) :
    ∃ moves r, s.batch calls = (r.answers, r.store) ∧ r.pending = [] ∧
      Room.Serial s calls calls.length moves (s.answerOrder calls) r ∧
      (s.answerOrder calls).Pairwise
        (Room.MayPrecede calls ((Room.opened s calls).servedAtOnce moves)) := by
  obtain ⟨moves, order, h⟩ := Room.welcomed_arrivals (s := s) (Nat.le_refl calls.length)
  have horder : order ++ (Room.arrivals s calls calls.length).pending = s.answerOrder calls :=
    congrArg (· ++ _) h.order_eq
  have hcount : (order ++ (Room.arrivals s calls calls.length).pending).length = calls.length :=
    h.perm.length_eq.trans List.length_range
  obtain ⟨more, hdrain, hend⟩ := h.drain (2 * calls.length) (Nat.le_refl _) (by
    rw [Room.pending, List.length_append, List.length_append] at hcount
    omega)
  refine ⟨moves ++ more, _, rfl, hend, horder ▸ hdrain, ?_⟩
  rw [← horder]
  exact h.ordered.imp fun hprecede =>
    hprecede.mono fun _ hk => Room.mem_servedAtOnce_append _ h.standing.run hk

/-- Every call of a batch is answered, and answered once. -/
theorem answerOrder_perm (s : Store σ α) (calls : List (Call σ ε α)) :
    (s.answerOrder calls).Perm (List.range calls.length) := by
  obtain ⟨_, _, _, hend, hserial, _⟩ := s.batch_serial calls
  have hperm := hserial.perm
  rwa [hend, List.append_nil] at hperm

/-- With one time to live for all, calls are answered in the order of the list. -/
theorem answerOrder_eq_range (h : ∀ a ∈ calls, ∀ b ∈ calls, a.ttl = b.ttl) :
    s.answerOrder calls = List.range calls.length := by
  obtain ⟨_, _, _, _, _, hordered⟩ := s.batch_serial calls
  have hsorted : (s.answerOrder calls).Pairwise (· < ·) := by
    refine hordered.imp fun hprecede => hprecede.resolve_right ?_
    rintro ⟨_, a, b, ha, hb, hlt⟩
    exact Int.ne_of_lt hlt (h b (List.mem_of_getElem? hb) a (List.mem_of_getElem? ha))
  exact (s.answerOrder_perm calls).eq_of_pairwise
    (fun _ _ _ _ hab hba => absurd hba (Nat.lt_asymm hab)) hsorted List.pairwise_lt_range

/-- The series of calls that arrive together, in the order of their answers. -/
def batchSeries (s : Store σ α) (calls : List (Call σ ε α)) : Series σ ε α :=
  s.series (numbered calls (s.answerOrder calls))

/-- Every call is in the series, once. -/
theorem batchSeries_numbers :
    (s.batchSeries calls).answers.map Prod.fst = s.answerOrder calls := by
  rw [batchSeries, series_numbers]
  exact numbered_numbers fun i hi => List.mem_range.mp ((s.answerOrder_perm calls).mem_iff.mp hi)

/-- Calls that arrive together leave the store and get the answers of their series. -/
theorem batch_eq_series (s : Store σ α) (calls : List (Call σ ε α)) :
    (s.batch calls).2 = (s.batchSeries calls).store ∧
      ∀ i answer, (s.batch calls).1[i]? = some answer ↔
        (i, answer) ∈ (s.batchSeries calls).answers := by
  obtain ⟨moves, r, hbatch, hend, hserial, _⟩ := s.batch_serial calls
  refine ⟨?_, fun i answer => ?_⟩
  · rw [hbatch]
    exact (hserial.standing.ended hend).2
  · rw [hbatch, Room.answers_getElem?_eq_some_iff (hserial.answered_all hend)]
    exact hserial.standing.mem_answers_iff.symm

/-- Every call gets an answer. -/
theorem length_batch (s : Store σ α) (calls : List (Call σ ε α)) :
    (s.batch calls).1.length = calls.length := by
  obtain ⟨moves, r, hbatch, hend, hserial, _⟩ := s.batch_serial calls
  have hdone := congrArg List.length (Room.map_done_answers (hserial.answered_all hend))
  rw [List.length_map, Room.length_phases_of_run hserial.standing.run] at hdone
  rw [hbatch]
  exact hdone

/-- The answers of calls that arrive together, each with the number of its call, in the order in
which they are given. -/
def answersInOrder (s : Store σ α) (calls : List (Call σ ε α)) :
    List (Nat × Except ε (Served α)) :=
  (s.answerOrder calls).filterMap fun i => (s.batch calls).1[i]?.map (i, ·)

/-- The answers of a batch, in the order in which they are given, are those of the series of its
calls in this order. -/
theorem answersInOrder_eq : s.answersInOrder calls = (s.batchSeries calls).answers := by
  have hlookup : ∀ answers : List (Nat × Except ε (Served α)),
      (∀ x ∈ answers, (s.batch calls).1[x.1]? = some x.2) →
      (answers.map Prod.fst).filterMap (fun i => (s.batch calls).1[i]?.map (i, ·)) = answers := by
    intro answers hall
    induction answers with
    | nil => rfl
    | cons x answers ih =>
      have hx := hall x List.mem_cons_self
      have hrest := ih fun y hy => hall y (List.mem_cons_of_mem x hy)
      simp only [List.map_cons, List.filterMap_cons, hx, Option.map_some, hrest]
  rw [answersInOrder, ← batchSeries_numbers]
  exact hlookup _ fun x hx => ((s.batch_eq_series calls).2 x.1 x.2).mpr hx

/-- An answer is given to a call exactly if the batch has it for this call. -/
theorem mem_answersInOrder {answer : Except ε (Served α)} :
    (i, answer) ∈ s.answersInOrder calls ↔ (s.batch calls).1[i]? = some answer := by
  rw [answersInOrder_eq]
  exact ((s.batch_eq_series calls).2 i answer).symm

/-- Calls that arrive together are answered as if they had run one after the other. In some order
of the calls, the series of them from the same store gives every call the same answer, starts the
same fetches, and leaves the same store. A call comes before one that stands earlier in the list
only if it was served from the entry at its first check, and with one time to live for all the
order is that of the list. Time passes as long as the fetches take together. -/
theorem batch_serialises (s : Store σ α) (calls : List (Call σ ε α)) :
    ∃ order moves r,
      let room := Room.opened s calls
      let t := s.series (numbered calls order)
      order.Perm (List.range calls.length) ∧
      room.run moves = some r ∧ s.batch calls = (r.answers, r.store) ∧
      (∀ i answer, (s.batch calls).1[i]? = some answer ↔ (i, answer) ∈ t.answers) ∧
      room.launches moves = t.launches ∧
      (s.batch calls).2 = t.store ∧
      order.Pairwise (fun i j => i < j ∨ i ∈ room.servedAtOnce moves) ∧
      ((∀ a ∈ calls, ∀ b ∈ calls, a.ttl = b.ttl) → order = List.range calls.length) ∧
      (s.batch calls).2.clock =
        s.clock.advance ((room.launches moves).map (·.2.delay)).sum := by
  obtain ⟨moves, r, hbatch, hend, hserial, hordered⟩ := s.batch_serial calls
  obtain ⟨hstore, hanswers⟩ := s.batch_eq_series calls
  have hlaunches : (Room.opened s calls).launches moves = (s.batchSeries calls).launches :=
    (hserial.standing.ended hend).1.launches
  refine ⟨s.answerOrder calls, moves, r, s.answerOrder_perm calls, hserial.standing.run, hbatch,
    hanswers, hlaunches, hstore, hordered.imp fun hprecede => hprecede.imp id And.left,
    answerOrder_eq_range, ?_⟩
  rw [hstore, hlaunches]
  exact series_clock

/-- Three calls under one time to live find an empty cache. The first fails, the second fetches and
the third is served what the second stored, as if each had waited for the one before. -/
theorem batch_serialises_behind_a_failure :
    let call (fetched : Fetched String Nat) : Call Unit String Nat :=
      ⟨60, fun source => (fetched, source)⟩
    let calls := [call ⟨.error "down", 5⟩, call ⟨.ok 1, 3⟩, call ⟨.ok 2, 0⟩]
    let s : Store Unit Nat := .empty ⟨0, 0⟩ ()
    (∀ a ∈ calls, ∀ b ∈ calls, a.ttl = b.ttl) ∧
      (s.batch calls).1[0]? = some (.error "down") ∧
      (s.batch calls).1[2]? = some (.ok ⟨1, .cache⟩) ∧ (s.batch calls).2.clock = ⟨8, 8⟩ := by
  intro call calls s
  have hsame : ∀ a ∈ calls, ∀ b ∈ calls, a.ttl = b.ttl := by simp [calls, call]
  obtain ⟨order, moves, r, _, _, _, hanswers, hlaunches, _, _, horder, hclock⟩ :=
    batch_serialises s calls
  obtain rfl : order = [0, 1, 2] := horder hsame
  refine ⟨hsame, (hanswers 0 _).mpr ?_, (hanswers 2 _).mpr ?_, ?_⟩
  · exact List.mem_cons_self
  · exact List.mem_cons_of_mem _ (List.mem_cons_of_mem _ List.mem_cons_self)
  · rw [hclock, hlaunches]
    rfl

end Store

end Workday.Cache
