import Workday.Proofs.Calculator.Question
import Workday.Proofs.Calculator.Script

/-!
# Many questions at once

Questions that are asked together while no calendar is fresh are answered at the cost of one
success. As long as the fetches fail, every call makes its own and fails with it; the first success
serves all that wait behind it. The calls share one time to live, so they are answered in the order
of the list, as a series (`answerOrder_eq_range`). Along it the store is in one of two states
(`Stampede`): no calendar is fresh and every call so far has failed, or the first success is held.
-/

set_option autoImplicit false

namespace Workday

open Cache (Call Entry Series Served Store numbered)

/-! ## Along the calls -/

/-- What the `i`-th of the calls is answered while `j` fetches from `f` on fail before one
succeeds. -/
inductive HerdAnswer (script : List Scripted) (f i : Nat) :
    Except FetchFailure (Served Calendar) → Prop where
  | failed {e : FetchFailure} (early : (i : ℕ∞) < failuresFrom script f)
      (result : (scriptSource script (f + i)).1.result = .error e) :
      HerdAnswer script f i (.error e)
  | served {n : Nat} {served : Served Calendar} (first : failuresFrom script f = n) (late : n ≤ i)
      (result : (scriptSource script (f + n)).1.result = .ok served.value) :
      HerdAnswer script f i (.ok served)

/-- Where the store stands after `k` of the calls. -/
inductive Stampede (script : List Scripted) (ttl : Int) (s : CalendarStore Nat) (k : Nat)
    (after : CalendarStore Nat) : Prop where
  | failing (early : (k : ℕ∞) ≤ failuresFrom script s.source)
      (source_eq : after.source = s.source + k) (fetches_eq : after.fetches = s.fetches + k)
      (stale : after.IsStale ttl)
  | served {n : Nat} {calendar : Calendar} (first : failuresFrom script s.source = n) (late : n < k)
      (source_eq : after.source = s.source + (n + 1))
      (fetches_eq : after.fetches = s.fetches + (n + 1))
      (result : (scriptSource script (s.source + n)).1.result = .ok calendar)
      (fresh : after.fresh? ttl = some calendar)

section Calls

variable {script : List Scripted} {ttl : Int} {s after : CalendarStore Nat} {k : Nat}
  {call : Call Nat FetchFailure Calendar}

/-- One more call makes the next fetch while these fail, and is served once one succeeded. The two
states of a stampede are told apart by whether the number of calls so far has reached that of the
failures. -/
theorem Stampede.get (h : Stampede script ttl s k after) (hpositive : 0 < ttl)
    (httl : call.ttl = ttl) (hcall : call.fetch = scriptSource script) :
    Stampede script ttl s (k + 1) (after.get call).2 ∧
      HerdAnswer script s.source k (after.get call).1 := by
  cases h with
  | failing early source_eq fetches_eq stale =>
    obtain ⟨hanswer, hfetches, hsource, hclock, hentry⟩ := Store.get_of_stale call (httl ▸ stale)
    rw [hcall, source_eq] at hanswer hsource hentry hclock
    rw [scriptSource_source] at hsource
    rw [fetches_eq] at hfetches
    -- the fetch of this call is one of those that fail, or the first that does not
    rcases early.lt_or_eq with hlt | heq
    · obtain ⟨e, hresult⟩ := result_of_lt_failuresFrom hlt
      rw [hresult] at hanswer hentry
      refine ⟨.failing ?_ hsource hfetches fun entry he => ?_, ?_⟩
      · exact_mod_cast Order.add_one_le_of_lt hlt
      · -- time passed while the fetch ran, so the entry is no younger than before
        rw [hentry] at he
        refine Int.le_trans (stale entry he) (Entry.age_le ?_)
        rw [hclock]
        exact Nat.le_add_right _ _
      · rw [hanswer]
        exact .failed hlt hresult
    · obtain ⟨calendar, hresult⟩ := result_of_failuresFrom_eq heq.symm
      rw [hresult] at hanswer hentry
      refine ⟨.served heq.symm (Nat.lt_succ_self k) hsource hfetches hresult ?_, ?_⟩
      · refine Store.fresh?_eq_some_iff.mpr ⟨_, hentry, ?_, rfl⟩
        rw [Entry.age_self]
        exact hpositive
      · rw [hanswer]
        exact .served heq.symm (Nat.le_refl k) hresult
  | served first late source_eq fetches_eq result fresh =>
    rw [Store.get_of_fresh call (httl ▸ fresh)]
    exact ⟨.served first (Nat.lt_succ_of_lt late) source_eq fetches_eq result fresh,
      .served first (Nat.le_of_lt late) result⟩

/-- What one call keeps, calls that follow one another keep. The number of a call is how many have come
before it, so its answer is the one of its place. -/
theorem stampede_series {calls : List (Call Nat FetchFailure Calendar)} (hpositive : 0 < ttl)
    (hstale : s.IsStale ttl)
    (hcalls : ∀ call ∈ calls, call.ttl = ttl ∧ call.fetch = scriptSource script)
    (hk : k ≤ calls.length) :
    Stampede script ttl s k (s.series (numbered calls (List.range k))).store ∧
      ∀ i answer, (i, answer) ∈ (s.series (numbered calls (List.range k))).answers →
        HerdAnswer script s.source i answer := by
  induction k with
  | zero => exact ⟨.failing zero_le rfl rfl hstale, nofun⟩
  | succ k ih =>
    obtain ⟨hstampede, hanswers⟩ := ih (Nat.le_of_succ_le hk)
    have hmade := List.getElem?_eq_getElem (Nat.lt_of_succ_le hk)
    obtain ⟨httl, hfetch⟩ := hcalls _ (List.mem_of_getElem? hmade)
    obtain ⟨hnext, hanswer⟩ := hstampede.get hpositive httl hfetch
    rw [List.range_succ, Store.series_numbered_concat hmade]
    refine ⟨hnext, fun i answer hmem => ?_⟩
    rcases List.mem_append.mp hmem with hold | hnew
    · exact hanswers i answer hold
    · cases List.mem_singleton.mp hnew
      exact hanswer

/-- Calls that arrive together are answered in the order of their list, as a series. They have one time
to live, so none of them overtakes another. -/
theorem stampede_batch {calls : List (Call Nat FetchFailure Calendar)} (hpositive : 0 < ttl)
    (hstale : s.IsStale ttl)
    (hcalls : ∀ call ∈ calls, call.ttl = ttl ∧ call.fetch = scriptSource script) :
    Stampede script ttl s calls.length (s.batch calls).2 ∧
      ∀ i answer, (s.batch calls).1[i]? = some answer → HerdAnswer script s.source i answer := by
  have hsame : ∀ a ∈ calls, ∀ b ∈ calls, a.ttl = b.ttl := fun a ha b hb =>
    (hcalls a ha).1.trans (hcalls b hb).1.symm
  have hseries : s.batchSeries calls = s.series (numbered calls (List.range calls.length)) := by
    rw [Store.batchSeries, Store.answerOrder_eq_range hsame]
  obtain ⟨hstore, hanswers⟩ := s.batch_eq_series calls
  rw [hstore, hseries]
  obtain ⟨hstampede, hherd⟩ := stampede_series hpositive hstale hcalls (Nat.le_refl calls.length)
  refine ⟨hstampede, fun i answer hi => hherd i answer ?_⟩
  rw [← hseries]
  exact (hanswers i answer).mp hi

/-- The calls have made one fetch for every failure and one for the success, and none of them has
made more than one. -/
theorem Stampede.cost (h : Stampede script ttl s k after) :
    ∃ n : ℕ, (n : ℕ∞) = min (failuresFrom script s.source + 1) k ∧
      after.fetches = s.fetches + n ∧ after.source = s.source + n := by
  cases h with
  | failing early source_eq fetches_eq =>
    refine ⟨k, (min_eq_right ?_).symm, fetches_eq, source_eq⟩
    exact le_trans early le_self_add
  | @served n calendar first late source_eq fetches_eq =>
    have hle : (n : ℕ∞) + 1 ≤ k := by exact_mod_cast Nat.succ_le_of_lt late
    refine ⟨n + 1, ?_, fetches_eq, source_eq⟩
    rw [first, min_eq_left hle]
    exact Nat.cast_succ n

end Calls

namespace Calculator

/-- A herd of questions that finds no fresh calendar under a positive time to live. If `j` fetches
of the script fail before one succeeds and `m` of the questions need the calendar, the source is
asked `j + 1` times, or `m` times if that is less. Of the questions that need the calendar the first
`j`, in the order of the list, fail with the error of one fetch each, in turn, and all others are
told by the calendar of the first success. The questions that need no calendar are answered as they
are in any state of any store, which they leave as it is: they wait for nothing. -/
theorem herd_costs_one_success (script : List Scripted) (today : Date) (ttl : Int)
    (s : CalendarStore Nat) (asked : List (Calculator × Question)) (hpositive : 0 < ttl)
    (hstale : s.IsStale ttl) (httl : ∀ x ∈ asked, x.1.ttl = ttl) :
    let f := s.source
    let j := failuresFrom script f
    let m := callsAmong asked
    let answered := askTogether (scriptSource script) today s asked
    (∃ n : ℕ, (n : ℕ∞) = min (j + 1) m ∧
      answered.2.fetches = s.fetches + n ∧ answered.2.source = f + n) ∧
    answered.1.length = asked.length ∧
    ∀ p c q, asked[p]? = some (c, q) → ∃ verdict, answered.1[p]? = some verdict ∧
      (q.needsCalendar = true →
        let i := callsBefore asked p
        ((i : ℕ∞) < j → ∃ e, (scriptSource script (f + i)).1.result = .error e ∧
          verdict = .error (.noCalendar e)) ∧
        (j ≤ i → ∃ n : ℕ, ∃ calendar, j = n ∧
          (scriptSource script (f + n)).1.result = .ok calendar ∧
          q.ToldBy c.region today calendar verdict)) ∧
      (q.needsCalendar = false → ∀ (σ : Type) (source : CalendarSource σ) (other : CalendarStore σ),
        c.ask source today other q = (verdict, other)) := by
  intro f j m answered
  have hcalls : ∀ call ∈ callsOf (scriptSource script) today asked,
      call.ttl = ttl ∧ call.fetch = scriptSource script := by
    intro call hcall
    obtain ⟨hfetch, x, hx, hsame⟩ := of_mem_callsOf hcall
    exact ⟨hsame.trans (httl x hx), hfetch⟩
  -- with one time to live for all a batch is the series of its calls
  obtain ⟨hstampede, hherd⟩ := stampede_batch hpositive hstale hcalls
  rw [length_callsOf] at hstampede
  refine ⟨hstampede.cost, length_askTogether _ today s asked, fun p c q hp => ?_⟩
  -- each verdict is settled without a call, or concluded from the answer of its own
  obtain ⟨verdict, hverdict, hsettled | ⟨hsettle, answer, hanswer, rfl⟩⟩ :=
    askTogether_getElem? (scriptSource script) today s hp
  · refine ⟨verdict, hverdict, fun hneeds => ?_, fun _ σ source other => ?_⟩
    · cases hsettled.symm.trans (settle_eq_none_iff.mpr hneeds)
    · simp only [ask, hsettled]
  · have hneeds := settle_eq_none_iff.mp hsettle
    refine ⟨_, hverdict, fun _ => ⟨fun hearly => ?_, fun hlate => ?_⟩, fun hnot => ?_⟩
    · cases hherd _ _ hanswer with
      | @failed e _ result => exact ⟨e, result, rfl⟩
      | served first late =>
        exact absurd hearly (not_lt.mpr (first.le.trans (Nat.cast_le.mpr late)))
    · cases hherd _ _ hanswer with
      | failed early => exact absurd early (not_lt.mpr hlate)
      | @served n served first _ result =>
        exact ⟨n, served.value, first, result, answerBy_toldBy hneeds⟩
    · cases hnot.symm.trans hneeds

/-- Five questions find no calendar, and the script fails twice before it succeeds. The one about
the region needs no calendar; the first two of the others fail, and the last two are told by the
calendar. -/
theorem herd_costs_one_success_after_two_failures :
    let day : Date := ⟨738876, by decide, by decide⟩
    let calendar : Calendar := ⟨[⟨"Holiday", day, "", false⟩], [], []⟩
    let down (n : Nat) : FetchFailure := .status "http://stub/bank-holidays.json" n
    let script : List Scripted :=
      [⟨.error (down 500), 5⟩, ⟨.error (down 503), 0⟩, ⟨.ok calendar, 3⟩]
    let c : Calculator := .new 60
    let scots := c.withRegion .scotland
    let asked := [(c, .isWorkingDay day), (c, .region), (scots, .deadline 2 day),
      (scots, .isWorkingDay day), (c, .isWorkingDay day)]
    let s : CalendarStore Nat := .empty ⟨0, 0⟩ 0
    let answered := askTogether (scriptSource script) day s asked
    0 < (60 : Int) ∧ s.IsStale 60 ∧ (∀ x ∈ asked, x.1.ttl = 60) ∧ answered.2.fetches = 3 ∧
      answered.1[2]? = some (.error (.noCalendar (down 503))) ∧
      ∃ verdict, answered.1[4]? = some verdict ∧
        (Question.isWorkingDay day).ToldBy .englandAndWales day calendar verdict := by
  intro day calendar down script c scots asked s answered
  have hstale : s.IsStale 60 := nofun
  have httl : ∀ x ∈ asked, x.1.ttl = 60 := by simp [asked, scots, c, new, withRegion]
  have hfails : failuresFrom script s.source = (2 : ℕ) := rfl
  obtain ⟨⟨n, hn, hfetches, _⟩, _, hquestions⟩ :=
    herd_costs_one_success script day 60 s asked (by decide) hstale httl
  refine ⟨by decide, hstale, httl, ?_, ?_, ?_⟩
  · have hcost : min (failuresFrom script s.source + 1) (4 : ℕ) = (3 : ℕ) :=
      min_eq_left (by rw [hfails]; exact Nat.cast_le.mpr (by decide : 2 + 1 ≤ 4))
    obtain rfl : n = 3 := Nat.cast_inj.mp (hn.trans hcost)
    exact hfetches
  · obtain ⟨verdict, hverdict, hneeds, _⟩ := hquestions 2 scots (.deadline 2 day) rfl
    obtain ⟨e, he, rfl⟩ := (hneeds rfl).1 (by rw [hfails]; exact Nat.cast_lt.mpr (by decide))
    obtain rfl := Except.error.inj he
    exact hverdict
  · obtain ⟨verdict, hverdict, hneeds, _⟩ := hquestions 4 c (.isWorkingDay day) rfl
    obtain ⟨k, told, hk, hresult, htold⟩ :=
      (hneeds rfl).2 (by rw [hfails]; exact Nat.cast_le.mpr (by decide))
    obtain rfl : k = 2 := by exact_mod_cast hk.symm.trans hfails
    obtain rfl := Except.ok.inj hresult
    exact ⟨verdict, hverdict, htold⟩

end Calculator

end Workday
