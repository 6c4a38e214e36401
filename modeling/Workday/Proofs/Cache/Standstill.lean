import Workday.Proofs.Cache.Room.Batch

/-!
# Caches for which time does not count

If a time to live is nothing or has not run out since a cache was opened, the time that passes decides
nothing: the cache goes the way of one whose clock stands still and whose fetches take no time. Calls
that overlap are no exception, as they are answered as a series.
-/

set_option autoImplicit false

namespace Workday.Cache

variable {σ ε α : Type} {call call' : Call σ ε α} {start : Nat} {ttl : Int} {s s' : Store σ α}

/-- A call, and the same call with fetches that take no time. -/
structure Call.Untimed (call call' : Call σ ε α) : Prop where
  ttl_eq : call'.ttl = call.ttl
  result_eq (source : σ) : (call'.fetch source).1.result = (call.fetch source).1.result
  source_eq (source : σ) : (call'.fetch source).2 = (call.fetch source).2
  delay_eq (source : σ) : (call'.fetch source).1.delay = 0

namespace Store

/-- A time to live that is nothing or has not run out since a moment. -/
def InTime (start : Nat) (ttl : Int) (s : Store σ α) : Prop :=
  ttl ≤ 0 ∨ (s.clock.monotonic : Int) < start + ttl

/-- A store, and one with the same value for which no time has passed since it was stored. -/
structure Standstill (start : Nat) (s s' : Store σ α) : Prop where
  value_eq : s'.entry.map Entry.value = s.entry.map Entry.value
  source_eq : s'.source = s.source
  fetches_eq : s'.fetches = s.fetches
  started : start ≤ s.clock.monotonic
  since (e : Entry α) (h : s.entry = some e) : start ≤ e.storedAt.monotonic
  still (e : Entry α) (h : s'.entry = some e) : e.storedAt = s'.clock

/-- What is in time at some moment was in time at every moment before. -/
theorem InTime.of_le (h : s'.InTime start ttl) (hle : s.clock.monotonic ≤ s'.clock.monotonic) :
    s.InTime start ttl := by
  unfold InTime at h ⊢
  omega

/-- In time, a check tells the same of both. What the store holds has come since the start and so is
younger than the time to live, and what the other holds is of this very moment. -/
theorem Standstill.fresh?_eq (h : s.Standstill start s') (hin : s.InTime start ttl) :
    s'.fresh? ttl = s.fresh? ttl := by
  rcases hin with hnone | hin
  · rw [fresh?_eq_none_iff.mpr (isStale_of_nonpos hnone), fresh?_eq_none_iff.mpr (isStale_of_nonpos hnone)]
  · have hvalue := h.value_eq
    have hstarted := h.started
    cases he : s.entry with
    | none =>
      cases he' : s'.entry with
      | none => simp only [fresh?, he, he']
      | some e' => simp [he, he'] at hvalue
    | some e =>
      cases he' : s'.entry with
      | none => simp [he, he'] at hvalue
      | some e' =>
        have hsame : e'.value = e.value := by simpa [he, he'] using hvalue
        have hsince := h.since e he
        have hage : (e.age s.clock : Int) < ttl := by
          unfold Entry.age
          omega
        have hage' : (e'.age s'.clock : Int) < ttl := by
          rw [Entry.age, h.still e' he', Nat.sub_self]
          omega
        rw [fresh?_eq_some_iff.mpr ⟨e, he, hage, rfl⟩, fresh?_eq_some_iff.mpr ⟨e', he', hage', hsame⟩]

/-- No call sets the clock back. -/
theorem get_clock_le (s : Store σ α) (call : Call σ ε α) :
    s.clock.monotonic ≤ (s.get call).2.clock.monotonic := by
  cases hfresh : s.fresh? call.ttl with
  | some value =>
    exact Nat.le_of_eq (congrArg (·.2.clock.monotonic) (get_of_fresh call hfresh).symm)
  | none =>
    rw [(get_of_stale call (fresh?_eq_none_iff.mp hfresh)).clock_eq]
    exact Nat.le_add_right _ _

/-- Fetches that come to the same are answered alike, and leave both with the same value. In the store
for which no time passes the entry is marked with the moment at which everything happens, so it has no
age; in the other it is no older than the session. -/
theorem Standstill.fetched {t t' : Store σ α} {answer answer' : Except ε (Served α)}
    (h : s.Standstill start s') (hcall : call.Untimed call')
    (hfetched : s.FetchedOnce t call.fetch answer) (hfetched' : s'.FetchedOnce t' call'.fetch answer') :
    answer' = answer ∧ t.Standstill start t' := by
  have hresult := hcall.result_eq s.source
  have hclock' : t'.clock = s'.clock := by
    rw [hfetched'.clock_eq, hcall.delay_eq]
    simp [Clock.advance]
  have hstarted : start ≤ t.clock.monotonic := by
    rw [hfetched.clock_eq]
    exact Nat.le_trans h.started (Nat.le_add_right _ _)
  have hentry := hfetched.entry_eq
  have hentry' := hfetched'.entry_eq
  rw [h.source_eq, hresult] at hentry'
  -- the parts of the standstill in turn: answer, value, source, fetches, and where the two marks lie
  refine ⟨?_, ?_, ?_, ?_, hstarted, ?_, ?_⟩
  · rw [hfetched.answer_eq, hfetched'.answer_eq, h.source_eq, hresult]
  · rw [hentry, hentry']
    cases (call.fetch s.source).1.result with
    | error e => exact h.value_eq
    | ok value => rfl
  · rw [hfetched.source_eq, hfetched'.source_eq, h.source_eq, hcall.source_eq]
  · rw [hfetched.fetches_eq, hfetched'.fetches_eq, h.fetches_eq]
  · intro e he
    rw [hentry] at he
    cases hok : (call.fetch s.source).1.result with
    | error _ =>
      rw [hok] at he
      exact h.since e he
    | ok value =>
      rw [hok] at he
      cases he
      exact hstarted
  · intro e he
    rw [hentry'] at he
    cases hok : (call.fetch s.source).1.result with
    | error _ =>
      rw [hok] at he
      rw [hclock']
      exact h.still e he
    | ok value =>
      rw [hok] at he
      cases he
      rfl

/-- A call that ends in time is answered alike by both: either both are served what they hold, or both
fetch. -/
theorem Standstill.get (h : s.Standstill start s') (hcall : call.Untimed call')
    (hin : (s.get call).2.InTime start call.ttl) :
    (s'.get call').1 = (s.get call).1 ∧ (s.get call).2.Standstill start (s'.get call').2 := by
  have hfresh' : s'.fresh? call'.ttl = s.fresh? call.ttl := by
    rw [hcall.ttl_eq]
    exact h.fresh?_eq (hin.of_le (s.get_clock_le call))
  cases hfresh : s.fresh? call.ttl with
  | some value =>
    rw [hfresh] at hfresh'
    rw [get_of_fresh call hfresh, get_of_fresh call' hfresh']
    exact ⟨rfl, h⟩
  | none =>
    rw [hfresh] at hfresh'
    exact h.fetched hcall (get_of_stale call (fresh?_eq_none_iff.mp hfresh))
      (get_of_stale call' (fresh?_eq_none_iff.mp hfresh'))

/-- Two stores that hold the same hold the same when both are invalidated. -/
theorem Standstill.invalidate (h : s.Standstill start s') :
    s.invalidate.Standstill start s'.invalidate :=
  ⟨rfl, h.source_eq, h.fetches_eq, h.started, (fun _ he => by cases he), (fun _ he => by cases he)⟩

/-- Time that passes in the slower store keeps the standstill. -/
theorem Standstill.advance (h : s.Standstill start s') (ms : Nat) :
    (s.advance ms).Standstill start s' :=
  ⟨h.value_eq, h.source_eq, h.fetches_eq, Nat.le_trans h.started (Nat.le_add_right _ _), h.since, h.still⟩

/-- Empty caches are alike at any time. -/
theorem standstill_empty (clock clock' : Clock) (source : σ) :
    (empty clock source : Store σ α).Standstill clock.monotonic (empty clock' source) :=
  ⟨rfl, rfl, rfl, Nat.le_refl _, (fun _ he => by cases he), (fun _ he => by cases he)⟩

/-! ## Calls that overlap -/

/-- What every call keeps, calls that arrive together keep, since they leave the store as a series of
them does. -/
theorem batch_keeps {P : Store σ α → Prop} {calls : List (Call σ ε α)} (h : P s)
    (hget : ∀ t, ∀ call ∈ calls, P t → P (t.get call).2) : P (s.batch calls).2 := by
  have hseries : ∀ numbered : List (Nat × Call σ ε α), (∀ x ∈ numbered, x.2 ∈ calls) →
      P (s.series numbered).store := by
    intro numbered
    induction numbered using List.reverseRecOn with
    | nil => exact fun _ => h
    | append_singleton numbered next ih =>
      intro hcalls
      rw [series_concat]
      exact hget _ _ (hcalls next (by simp)) (ih fun x hx => hcalls x (List.mem_append_left _ hx))
  rw [(s.batch_eq_series calls).1, batchSeries]
  refine hseries _ fun x hx => ?_
  obtain ⟨i, -, hi⟩ := List.mem_filterMap.mp hx
  obtain ⟨call, hcall, rfl⟩ := Option.map_eq_some_iff.mp hi
  exact List.mem_of_getElem? hcall

/-- Series of one call over and over. -/
theorem Standstill.series (h : s.Standstill start s') (hcall : call.Untimed call') (numbers : List Nat)
    (hin : (s.series (numbers.map (·, call))).store.InTime start call.ttl) :
    (s'.series (numbers.map (·, call'))).answers = (s.series (numbers.map (·, call))).answers ∧
      (s.series (numbers.map (·, call))).store.Standstill start
        (s'.series (numbers.map (·, call'))).store := by
  induction numbers using List.reverseRecOn with
  | nil => exact ⟨rfl, h⟩
  | append_singleton numbers i ih =>
    simp only [List.map_append, List.map_cons, List.map_nil, series_concat] at hin ⊢
    obtain ⟨hanswers, hstore⟩ := ih (hin.of_le (get_clock_le _ call))
    obtain ⟨hanswer, hnext⟩ := hstore.get hcall hin
    refine ⟨?_, hnext⟩
    simp only [Series.call, hanswers, hanswer]

/-- Copies of one call keep their numbers and are the same call. -/
theorem numbered_replicate (call : Call σ ε α) {n : Nat} {numbers : List Nat}
    (h : ∀ i ∈ numbers, i < n) :
    numbered (List.replicate n call) numbers = numbers.map (·, call) := by
  induction numbers with
  | nil => rfl
  | cons i numbers ih =>
    have hi : (List.replicate n call)[i]? = some call :=
      List.getElem?_replicate_of_lt (h i List.mem_cons_self)
    have hrest := ih fun j hj => h j (List.mem_cons_of_mem i hj)
    simp only [numbered, List.filterMap_cons, hi, Option.map_some, List.map_cons] at hrest ⊢
    rw [hrest]

/-- Answers in the order of their numbers, without the numbers. -/
theorem eq_map_snd {β : Type} {xs : List β} {answers : List (Nat × β)} {n : Nat}
    (hnumbers : answers.map Prod.fst = List.range n)
    (h : ∀ i answer, xs[i]? = some answer ↔ (i, answer) ∈ answers) : xs = answers.map Prod.snd := by
  have hplace : ∀ {j i : Nat} {answer : β}, answers[j]? = some (i, answer) → i = j := by
    intro j i answer hj
    have hfst : (answers.map Prod.fst)[j]? = some i := by rw [List.getElem?_map, hj]; rfl
    rw [hnumbers] at hfst
    obtain ⟨hlt, hrange⟩ := List.getElem?_eq_some_iff.mp hfst
    exact hrange.symm.trans (List.getElem_range _)
  refine List.ext_getElem? fun i => Option.ext fun answer => ?_
  rw [h, List.getElem?_map, Option.map_eq_some_iff]
  constructor
  · intro hmem
    obtain ⟨j, hj⟩ := List.mem_iff_getElem?.mp hmem
    exact ⟨(i, answer), hplace hj ▸ hj, rfl⟩
  · rintro ⟨⟨j, _⟩, hj, rfl⟩
    rw [hplace hj] at hj
    exact List.mem_of_getElem? hj

/-- Calls that are all the same and arrive together are a series, in the order of their numbers: no call
overtakes another that is like it. -/
theorem batch_replicate (s : Store σ α) (call : Call σ ε α) (n : Nat) :
    s.batch (List.replicate n call) =
      ((s.series ((List.range n).map (·, call))).answers.map Prod.snd,
        (s.series ((List.range n).map (·, call))).store) := by
  have horder : s.answerOrder (List.replicate n call) = List.range n := by
    rw [answerOrder_eq_range, List.length_replicate]
    intro a ha b hb
    rw [List.eq_of_mem_replicate ha, List.eq_of_mem_replicate hb]
  obtain ⟨hstore, hanswers⟩ := s.batch_eq_series (List.replicate n call)
  have hnumbered : numbered (List.replicate n call) (List.range n) = (List.range n).map (·, call) :=
    numbered_replicate call fun i hi => List.mem_range.mp hi
  rw [batchSeries, horder, hnumbered] at hstore hanswers
  have hnumbers : (s.series ((List.range n).map (·, call))).answers.map Prod.fst = List.range n := by
    rw [series_numbers, List.map_map]
    exact List.map_id _
  exact Prod.ext (eq_map_snd hnumbers hanswers) hstore

/-- Calls that are all the same and end in time are answered alike by both. -/
theorem Standstill.batch (h : s.Standstill start s') (hcall : call.Untimed call') (n : Nat)
    (hin : (s.batch (List.replicate n call)).2.InTime start call.ttl) :
    (s'.batch (List.replicate n call')).1 = (s.batch (List.replicate n call)).1 ∧
      (s.batch (List.replicate n call)).2.Standstill start (s'.batch (List.replicate n call')).2 := by
  rw [batch_replicate] at hin
  obtain ⟨hanswers, hstore⟩ := h.series hcall (List.range n) hin
  rw [batch_replicate, batch_replicate, hanswers]
  exact ⟨rfl, hstore⟩

end Store

end Workday.Cache
