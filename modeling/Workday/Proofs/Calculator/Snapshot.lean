import Workday.Proofs.Cache.Room.Batch
import Workday.Proofs.Calculator.Question
import Workday.Proofs.Calculator.Script
import Workday.Proofs.Latest
import Workday.Service

/-!
# One snapshot for every answer

A session leaves a log: each answer to a call for the calendar, in the order in which they are
given, and each dropping of the calendar. The log alone tells which calendar is held (`Held`) and
which fetch was whose, and so what every verdict rests on: the calendar that was stored last, or
the failure of a fetch of its own.

The invariant is `Follows`: the shared store stands as the log tells, and every answer in the log
was obtained in one of the ways that `Obtained` lists. One call keeps it, so a series of calls does,
and so does every step, as calls that arrive together are answered as a series.
-/

set_option autoImplicit false

namespace Workday

open Cache (Call Clock Entry Served Series Store)

/-- What happens to the shared calendar. -/
inductive Happening where
  /-- A call for the calendar is answered. The number is its place among the calls of its step. -/
  | answered (number : Nat) (answer : Except FetchFailure (Served Calendar))
  /-- The calendar is dropped. -/
  | dropped

namespace Happening

/-- The calendar that is fetched and stored. -/
def stored? : Happening → Option Calendar
  | answered _ (.ok ⟨calendar, .network⟩) => some calendar
  | _ => none

/-- The answer comes from a fetch of the very call. -/
def isFetched : Happening → Bool
  | answered _ (.ok ⟨_, .network⟩) | answered _ (.error _) => true
  | _ => false

/-- The answers to calls, each with the number of its call, as they are given. -/
def ofAnswers (answers : List (Nat × Except FetchFailure (Served Calendar))) : List Happening :=
  answers.map fun x => .answered x.1 x.2

/-- A calendar is stored, or the one that is held is dropped. -/
def Touches (x : Happening) : Prop := x.stored?.isSome = true ∨ x = dropped

end Happening

/-- The calendar that is held after a log: it was stored last, and not dropped since. -/
def Held (log : List Happening) (calendar : Calendar) : Prop :=
  ∃ x, IsLatest Happening.Touches log x ∧ x.stored? = some calendar

/-- The fetches of a log. -/
def fetches (log : List Happening) : Nat := log.countP Happening.isFetched

/-- How a call comes to its answer. It is served the calendar that is held, or its own fetch, which
is the next of the script, decides. -/
inductive Obtained (script : List Scripted) (before : List Happening) :
    Except FetchFailure (Served Calendar) → Prop where
  | held {calendar : Calendar} (held : Held before calendar) :
      Obtained script before (.ok ⟨calendar, .cache⟩)
  | fetched {calendar : Calendar}
      (result : (scriptSource script (fetches before)).1.result = .ok calendar) :
      Obtained script before (.ok ⟨calendar, .network⟩)
  | failed {e : FetchFailure}
      (result : (scriptSource script (fetches before)).1.result = .error e) :
      Obtained script before (.error e)

section Log

variable {script : List Scripted} {log before after between : List Happening} {x : Happening}
  {calendar other : Calendar} {k : Nat} {answer : Except FetchFailure (Served Calendar)}
  {served : Served Calendar}

/-- What has happened by a batch are its answers. -/
theorem mem_ofAnswers {answers : List (Nat × Except FetchFailure (Served Calendar))} :
    .answered k answer ∈ Happening.ofAnswers answers ↔ (k, answer) ∈ answers := by
  simp [Happening.ofAnswers]

theorem not_held_nil : ¬ Held [] calendar := fun ⟨_, hlatest, _⟩ => not_isLatest_nil hlatest

/-- One more happening stores a calendar, or leaves the one that is held unless it is dropped. -/
theorem held_concat :
    Held (log ++ [x]) calendar ↔ x.stored? = some calendar ∨ (¬ x.Touches ∧ Held log calendar) :=
  exists_isLatest_concat

theorem held_concat_of_stored (h : x.stored? = some calendar) : Held (log ++ [x]) calendar :=
  held_concat.mpr (Or.inl h)

theorem touches_of_stored (h : x.stored? = some calendar) : x.Touches :=
  Or.inl (Option.isSome_iff_exists.mpr ⟨calendar, h⟩)

/-- An answer that stores nothing does not touch the entry. -/
theorem not_touches_answered (h : (Happening.answered k answer).stored? = none) :
    ¬ (Happening.answered k answer).Touches := by
  rintro (hstored | hdropped)
  · rw [h] at hstored
    cases hstored
  · cases hdropped

/-- What does not touch the entry does not change what is held. -/
theorem held_concat_of_not_touches (h : ¬ x.Touches) :
    Held (log ++ [x]) calendar ↔ Held log calendar := by
  rw [held_concat]
  constructor
  · rintro (hstored | ⟨_, hheld⟩)
    · exact absurd (touches_of_stored hstored) h
    · exact hheld
  · exact fun hheld => Or.inr ⟨h, hheld⟩

/-- What is held stays so as long as nothing touches the entry. -/
theorem Held.append (h : Held log calendar) (hquiet : ∀ z ∈ between, ¬ z.Touches) :
    Held (log ++ between) calendar := by
  induction between using List.reverseRecOn with
  | nil => rwa [List.append_nil]
  | append_singleton between z ih =>
    rw [← List.append_assoc, held_concat_of_not_touches (hquiet z (by simp))]
    exact ih fun y hy => hquiet y (List.mem_append_left _ hy)

/-- Only one calendar is held at a time. -/
theorem Held.eq (h : Held log calendar) (hother : Held log other) : calendar = other := by
  obtain ⟨x, hx, hstored⟩ := h
  obtain ⟨y, hy, hstored'⟩ := hother
  obtain rfl := hx.eq hy (touches_of_stored hstored) (touches_of_stored hstored')
  exact Option.some.inj (hstored.symm.trans hstored')

theorem fetches_concat : fetches (log ++ [x]) = fetches log + if x.isFetched then 1 else 0 := by
  rw [fetches, List.countP_append, List.countP_singleton]
  rfl

/-- Whoever is answered with a calendar is answered with the one that is held from then on. -/
theorem Obtained.held_concat (h : Obtained script before (.ok served)) :
    Held (before ++ [.answered k (.ok served)]) served.value := by
  cases h with
  | held held => exact (held_concat_of_not_touches (not_touches_answered rfl)).mpr held
  | fetched => exact held_concat_of_stored rfl

end Log

/-! ## The invariant -/

/-- The shared store stands as a log tells, and every answer of the log was obtained. -/
structure Follows (script : List Scripted) (log : List Happening) (s : CalendarStore Nat) :
    Prop where
  source_eq : s.source = fetches log
  held_iff : ∀ calendar, Held log calendar ↔ s.entry.map Entry.value = some calendar
  obtained : ∀ before k answer after, log = before ++ .answered k answer :: after →
    Obtained script before answer

section Follows

variable {script : List Scripted} {log : List Happening} {s s' : CalendarStore Nat}
  {x : Happening} {k : Nat} {answer : Except FetchFailure (Served Calendar)}
  {call : Call Nat FetchFailure Calendar} {numbered : List (Nat × Call Nat FetchFailure Calendar)}

/-- An empty store follows a log in which nothing has happened. -/
theorem follows_empty (clock : Clock) : Follows script [] (.empty clock 0) where
  source_eq := rfl
  held_iff _ := iff_of_false not_held_nil nofun
  obtained before k answer after heq := by cases before <;> cases heq

/-- A store follows the same log as long as neither its entry nor its place in the script changes. -/
theorem Follows.keep (h : Follows script log s) (hsource : s'.source = s.source)
    (hentry : s'.entry = s.entry) : Follows script (log ++ []) s' := by
  rw [List.append_nil]
  exact ⟨hsource.trans h.source_eq, fun calendar => hentry ▸ h.held_iff calendar, h.obtained⟩

/-- One more happening, if its answer was obtained. -/
theorem Follows.concat (h : Follows script log s) (hsource : s'.source = fetches (log ++ [x]))
    (hheld : ∀ calendar, Held (log ++ [x]) calendar ↔ s'.entry.map Entry.value = some calendar)
    (hobtained : ∀ k answer, x = .answered k answer → Obtained script log answer) :
    Follows script (log ++ [x]) s' where
  source_eq := hsource
  held_iff := hheld
  obtained before k answer after heq := by
    -- the answer is the one that came last, or it stands in the log before that
    rcases after.eq_nil_or_concat with rfl | ⟨after, y, rfl⟩
    · obtain ⟨rfl, hx⟩ := List.append_inj' heq rfl
      exact hobtained k answer (List.singleton_inj.mp hx)
    · rw [List.concat_eq_append, ← List.cons_append, ← List.append_assoc] at heq
      obtain ⟨hlog, _⟩ := List.append_inj' heq rfl
      exact h.obtained before k answer after hlog

/-- A store that is invalidated follows its log, with the drop at the end. -/
theorem Follows.invalidate (h : Follows script log s) :
    Follows script (log ++ [.dropped]) s.invalidate := by
  refine h.concat ?_ (fun calendar => ?_) nofun
  · rw [fetches_concat]
    exact h.source_eq
  · refine iff_of_false ?_ nofun
    rw [held_concat]
    rintro (hstored | ⟨hquiet, _⟩)
    · cases hstored
    · exact hquiet (Or.inr rfl)

/-- A call that finds a fresh calendar is served the one that is held. -/
theorem Follows.get_of_fresh {calendar : Calendar} (h : Follows script log s)
    (hfresh : s.fresh? call.ttl = some calendar) (k : Nat) :
    Follows script (log ++ [.answered k (.ok ⟨calendar, .cache⟩)]) s := by
  obtain ⟨e, hentry, _, rfl⟩ := Store.fresh?_eq_some_iff.mp hfresh
  refine h.concat ?_ (fun other => ?_) ?_
  · rw [fetches_concat]
    exact h.source_eq
  · exact (held_concat_of_not_touches (not_touches_answered rfl)).trans (h.held_iff other)
  · rintro _ _ ⟨⟩
    exact .held ((h.held_iff e.value).mpr (by rw [hentry, Option.map_some]))

/-- A call that finds no fresh calendar makes the next fetch of the script: the one that the log of all
that has happened says is next. The log goes on by its answer, and by nothing else. -/
theorem Follows.get_of_stale (h : Follows script log s) (hcall : call.fetch = scriptSource script)
    (hstale : s.IsStale call.ttl) (k : Nat) :
    Follows script (log ++ [.answered k (s.get call).1]) (s.get call).2 := by
  obtain ⟨hanswer, _, hsource, _, hentry⟩ := Store.get_of_stale call hstale
  rw [hcall, h.source_eq] at hanswer hsource hentry
  rw [scriptSource_source] at hsource
  cases hresult : (scriptSource script (fetches log)).1.result with
  | ok calendar =>
    rw [hresult] at hanswer hentry
    refine h.concat ?_ (fun other => ?_) ?_
    · rw [fetches_concat, hsource, hanswer]
      rfl
    · rw [held_concat, hanswer, hentry]
      simp [Happening.stored?, Happening.Touches, Except.map]
    · rintro _ _ ⟨⟩
      rw [hanswer]
      exact .fetched hresult
  | error e =>
    rw [hresult] at hanswer hentry
    refine h.concat ?_ (fun other => ?_) ?_
    · rw [fetches_concat, hsource, hanswer]
      rfl
    · rw [hanswer, hentry]
      exact (held_concat_of_not_touches (not_touches_answered rfl)).trans (h.held_iff other)
    · rintro _ _ ⟨⟩
      rw [hanswer]
      exact .failed hresult

/-- A call leaves a store that follows its log, with the answer at the end. A fresh entry is what is
held; a fetch is the next entry of the script. -/
theorem Follows.get (h : Follows script log s) (hcall : call.fetch = scriptSource script)
    (k : Nat) : Follows script (log ++ [.answered k (s.get call).1]) (s.get call).2 := by
  cases hfresh : s.fresh? call.ttl with
  | some calendar =>
    rw [Store.get_of_fresh call hfresh]
    exact h.get_of_fresh hfresh k
  | none => exact h.get_of_stale hcall (Store.fresh?_eq_none_iff.mp hfresh) k

/-- A series of calls leaves a store that follows its log, with the answers at the end. -/
theorem Follows.series (h : Follows script log s)
    (hcalls : ∀ x ∈ numbered, x.2.fetch = scriptSource script) :
    Follows script (log ++ Happening.ofAnswers (s.series numbered).answers)
      (s.series numbered).store := by
  induction numbered using List.reverseRecOn with
  | nil => simpa only [Store.series_nil, Series.opened, Happening.ofAnswers, List.map_nil,
      List.append_nil] using h
  | append_singleton numbered next ih =>
    have hprefix := ih fun x hx => hcalls x (List.mem_append_left _ hx)
    have hnext := hprefix.get (hcalls next (by simp)) next.1
    rw [Store.series_concat]
    simpa only [Series.call, Happening.ofAnswers, List.map_append, List.map_cons, List.map_nil,
      List.append_assoc] using hnext

/-- A batch leaves a store that follows its log, with the answers at the end in the order in which
they are given. -/
theorem Follows.batch {calls : List (Call Nat FetchFailure Calendar)} (h : Follows script log s)
    (hcalls : ∀ call ∈ calls, call.fetch = scriptSource script) :
    Follows script (log ++ Happening.ofAnswers (s.answersInOrder calls)) (s.batch calls).2 := by
  rw [Store.answersInOrder_eq, (Store.batch_eq_series s calls).1]
  refine h.series fun x hx => ?_
  obtain ⟨i, _, hi⟩ := List.mem_filterMap.mp hx
  obtain ⟨call, hcall, rfl⟩ := Option.map_eq_some_iff.mp hi
  exact hcalls call (List.mem_of_getElem? hcall)

/-- Two answers with a calendar, between which none was stored and none dropped, rest on the same
calendar. -/
theorem Follows.same_calendar {before between after : List Happening}
    {j k : Nat} {first second : Served Calendar} (h : Follows script log s)
    (heq : log =
      before ++ .answered j (.ok first) :: (between ++ .answered k (.ok second) :: after))
    (hquiet : ∀ z ∈ between ++ [.answered k (.ok second)], ¬ z.Touches) :
    first.value = second.value := by
  have hfirst := (h.obtained _ _ _ _ heq).held_concat (k := j)
  have hobtained :
      Obtained script (before ++ [.answered j (.ok first)] ++ between) (.ok second) := by
    refine h.obtained _ k _ after ?_
    rw [heq]
    simp
  refine (hfirst.append hquiet).eq ?_
  rw [← List.append_assoc]
  exact hobtained.held_concat

end Follows

/-! ## Sessions -/

namespace Service

variable {σ : Type} {s : Service σ}

/-- The service after a number of steps. -/
def after (s : Service σ) (steps : List Step) : Service σ :=
  steps.foldl (fun s step => (s.step step).2) s

/-- The questions that a step puts to calculators. -/
def Step.questions : Step → List (Nat × Question)
  | .ask i question => [(i, question)]
  | .askTogether asked => asked
  | _ => []

/-- The verdicts of a reply, in the order of the questions. -/
def Reply.given : Reply → List Verdict
  | .verdict v => [v]
  | .verdicts vs => vs
  | _ => []

/-- What a step does to the shared calendar. -/
def happenings (s : Service σ) : Step → List Happening
  | .ask i question =>
    match (s.calculator i).settle s.today question with
    | some _ => []
    | none => [.answered 0 (s.store.get ((s.calculator i).call s.source)).1]
  | .askTogether asked =>
    let calls := Calculator.callsOf s.source s.today
      (asked.map fun (i, question) => (s.calculator i, question))
    Happening.ofAnswers (s.store.answersInOrder calls)
  | .calendar => [.answered 0 s.getCalendar.1]
  | .invalidate => [.dropped]
  | _ => []

/-- The log of a session. -/
def log (s : Service σ) : List Step → List Happening
  | [] => []
  | step :: steps => s.happenings step ++ (s.step step).2.log steps

/-- What happens in two lists of steps is what happens in the first, and then in the second after
it. -/
theorem log_append (xs ys : List Step) : s.log (xs ++ ys) = s.log xs ++ (s.after xs).log ys := by
  induction xs generalizing s with
  | nil => rfl
  | cons x xs ih => simp only [List.cons_append, log, ih, List.append_assoc, after, List.foldl_cons]

/-- Two lists of steps answer as the first does, and then as the second does after it. -/
theorem run_append (xs ys : List Step) : s.run (xs ++ ys) = s.run xs ++ (s.after xs).run ys := by
  induction xs generalizing s with
  | nil => rfl
  | cons x xs ih => simp only [List.cons_append, run, ih, after, List.foldl_cons]

theorem length_run (steps : List Step) : (s.run steps).length = steps.length := by
  induction steps generalizing s with
  | nil => rfl
  | cons step steps ih => simp only [run, List.length_cons, ih]

/-- The reply to a step among others is its reply to what the earlier ones leave. -/
theorem run_getElem? (earlier later : List Step) (step : Step) :
    (s.run (earlier ++ step :: later))[earlier.length]? = some ((s.after earlier).step step) := by
  rw [run_append, List.getElem?_append_right (Nat.le_of_eq (length_run earlier)), length_run,
    Nat.sub_self]
  rfl

/-- No step changes what day it is. -/
theorem after_today (steps : List Step) : (s.after steps).today = s.today := by
  induction steps generalizing s with
  | nil => rfl
  | cons step steps ih =>
    refine (ih (s := (s.step step).2)).trans ?_
    cases step <;> rfl

/-! ### One step -/

/-- A question that needs the calendar is concluded from the one answer to its own call. In a batch the
call is known by how many of the questions before it make one. -/
theorem exists_answer {step : Step} {p i : Nat} {q : Question}
    (hp : step.questions[p]? = some (i, q)) (hq : q.needsCalendar = true) :
    ∃ answer,
      (s.step step).1.given[p]? = some ((s.calculator i).conclude s.today q answer) ∧
      ∀ other, .answered (Calculator.callsBefore step.questions p) other ∈ s.happenings step ↔
        other = answer := by
  cases step with
  | ask i' q' =>
    cases p with
    | succ p => cases hp
    | zero =>
      cases hp
      have hsettle : (s.calculator i).settle s.today q = none :=
        Calculator.settle_eq_none_iff.mpr hq
      refine ⟨(s.store.get ((s.calculator i).call s.source)).1, ?_, fun other => ?_⟩
      · simp only [Service.step, Calculator.ask, hsettle]
        rfl
      · simp only [happenings, hsettle, List.mem_singleton, Happening.answered.injEq]
        exact and_iff_right rfl
  | askTogether asked =>
    have hasked : asked[p]? = some (i, q) := hp
    have hp' : (asked.map fun x => (s.calculator x.1, x.2))[p]? = some (s.calculator i, q) := by
      rw [List.getElem?_map, hasked, Option.map_some]
    obtain ⟨verdict, hgiven, hsettled | ⟨_, answer, hanswer, rfl⟩⟩ :=
      Calculator.askTogether_getElem? s.source s.today s.store hp'
    · cases hsettled.symm.trans (Calculator.settle_eq_none_iff.mpr hq)
    · rw [Calculator.callsBefore_map] at hanswer
      refine ⟨answer, hgiven, fun other => ?_⟩
      simp only [happenings, mem_ofAnswers, Store.mem_answersInOrder, Step.questions]
      rw [hanswer, Option.some.injEq]
      exact eq_comm
  | calendar | health | invalidate | advance _ | clone _ | withRegion _ => cases hp

/-- The source of the service is a script, and its probe leaves it alone. -/
structure IsScripted (script : List Scripted) (s : Service Nat) : Prop where
  source_eq : s.source = scriptSource script
  probe_eq : ∀ n, s.probe n = ((none, 0), n)

variable {script : List Scripted} {s : Service Nat} {log : List Happening}

/-- A service with a script for its source keeps it. -/
theorem IsScripted.step (h : s.IsScripted script) (step : Step) :
    (s.step step).2.IsScripted script := by
  cases step <;> exact ⟨h.source_eq, h.probe_eq⟩

/-- A step leaves a store that follows its log, with what has happened at the end. Questions that are
settled at once and probes add nothing to the log. -/
theorem follows_step (hs : s.IsScripted script) (h : Follows script log s.store) (step : Step) :
    Follows script (log ++ s.happenings step) (s.step step).2.store := by
  cases step with
  | ask i question =>
    cases hsettle : (s.calculator i).settle s.today question with
    | some verdict =>
      simp only [happenings, Service.step, Calculator.ask, hsettle, List.append_nil]
      exact h
    | none =>
      simp only [happenings, Service.step, Calculator.ask, hsettle]
      exact h.get hs.source_eq 0
  | askTogether asked =>
    refine h.batch fun call hcall => ?_
    exact (Calculator.of_mem_callsOf hcall).1.trans hs.source_eq
  | calendar => exact h.get hs.source_eq 0
  | health =>
    refine h.keep ?_ rfl
    simp only [Service.step, hs.probe_eq]
    rfl
  | invalidate => exact h.invalidate
  | advance ms => exact h.keep rfl rfl
  | clone i => exact h.keep rfl rfl
  | withRegion region => exact h.keep rfl rfl

/-- Steps leave a store that follows its log, with all that has happened at the end. -/
theorem follows_after (hs : s.IsScripted script) (h : Follows script log s.store)
    (steps : List Step) : Follows script (log ++ s.log steps) (s.after steps).store := by
  induction steps generalizing s log with
  | nil => rwa [Service.log, List.append_nil]
  | cons step steps ih =>
    have hrest := ih (hs.step step) (follows_step hs h step)
    rwa [List.append_assoc] at hrest

/-- The log of a session over a script accounts for its store. -/
theorem follows_log (script : List Scripted) (ttl : Int) (region : Region) (today : Date)
    (clock : Clock) (steps : List Step) :
    let opened := scripted script ttl region today clock
    Follows script (opened.log steps) (opened.after steps).store := by
  intro opened
  have hscripted : opened.IsScripted script := ⟨rfl, fun _ => rfl⟩
  have hfollows := follows_after hscripted (follows_empty clock) steps
  rwa [List.nil_append] at hfollows

/-- Every question that needs the calendar rests on one snapshot of it. In every session over a
scripted source, its call has one answer in the log of its step. With a calendar, which is then the
one that was stored last, the verdict is what that calendar tells for the region of the calculator,
a start too late for it included. With an error the verdict is that there is no calendar, for that
reason, and the error is that of the call's own fetch, the next of the script after all fetches that
the log has before. Every answer in the log is obtained like that, and the fetches of the log are
all that the source was asked for. And two answers with a calendar, between which none was stored
and none dropped, have the same. -/
theorem verdicts_rest_on_one_snapshot (script : List Scripted) (ttl : Int) (region : Region)
    (today : Date) (clock : Clock) (steps : List Step) :
    let opened := scripted script ttl region today clock
    (∀ earlier step later, steps = earlier ++ step :: later →
      let s := opened.after earlier
      (opened.run steps)[earlier.length]? = some (s.step step) ∧
      opened.log steps = opened.log earlier ++ s.happenings step ++ (s.step step).2.log later ∧
      ∀ p i q, step.questions[p]? = some (i, q) → q.needsCalendar = true →
        ∃ verdict answer before after,
          let call := Happening.answered (Calculator.callsBefore step.questions p) answer
          let seen := opened.log earlier ++ before
          (s.step step).1.given[p]? = some verdict ∧
          s.happenings step = before ++ call :: after ∧
          (∀ other, .answered (Calculator.callsBefore step.questions p) other ∈ s.happenings step →
            other = answer) ∧
          ((∃ served, answer = .ok served ∧ Held (seen ++ [call]) served.value ∧
              q.ToldBy (s.calculator i).region today served.value verdict) ∨
            ∃ e, answer = .error e ∧ verdict = .error (.noCalendar e) ∧
              (scriptSource script (fetches seen)).1.result = .error e)) ∧
    (∀ before k answer after, opened.log steps = before ++ .answered k answer :: after →
      Obtained script before answer) ∧
    (opened.after steps).store.source = fetches (opened.log steps) ∧
    (∀ before j first between k second after,
      opened.log steps =
        before ++ .answered j (.ok first) :: (between ++ .answered k (.ok second) :: after) →
      (∀ z ∈ between ++ [.answered k (.ok second)], ¬ z.Touches) →
      first.value = second.value) := by
  intro opened
  have hfollows : Follows script (opened.log steps) (opened.after steps).store :=
    follows_log script ttl region today clock steps
  refine ⟨?_, hfollows.obtained, hfollows.source_eq,
    fun _ _ _ _ _ _ _ heq hquiet => hfollows.same_calendar heq hquiet⟩
  rintro earlier step later rfl s
  have hlog : opened.log (earlier ++ step :: later) =
      opened.log earlier ++ s.happenings step ++ (s.step step).2.log later := by
    rw [log_append, List.append_assoc]
    rfl
  refine ⟨run_getElem? earlier later step, hlog, fun p i q hp hq => ?_⟩
  obtain ⟨answer, hgiven, hanswer⟩ := s.exists_answer hp hq
  -- what the answer rests on is what the log has before it, earlier steps and the rest of this one
  obtain ⟨before, after, hbefore⟩ := List.append_of_mem ((hanswer answer).mpr rfl)
  have htoday : s.today = today := after_today earlier
  rw [htoday] at hgiven
  have hobtained : Obtained script (opened.log earlier ++ before) answer := by
    refine hfollows.obtained _ (Calculator.callsBefore step.questions p) _
      (after ++ (s.step step).2.log later) ?_
    rw [hlog, hbefore]
    simp
  refine ⟨_, answer, before, after, hgiven, hbefore, fun other => (hanswer other).mp, ?_⟩
  cases answer with
  | ok served =>
    exact Or.inl ⟨served, rfl, hobtained.held_concat, Calculator.answerBy_toldBy hq⟩
  | error e =>
    cases hobtained with
    | failed result => exact Or.inr ⟨e, rfl, rfl, result⟩

/-- The first question fetches a calendar, and the second is told by the same. Once that is dropped
the next fetch fails, and with it the third. -/
theorem verdicts_rest_on_one_snapshot_until_dropped :
    let friday : Date := ⟨738876, by decide, by decide⟩
    let monday : Date := ⟨738879, by decide, by decide⟩
    let calendar : Calendar := ⟨[⟨"Christmas Day", monday, "", true⟩], [], []⟩
    let down : FetchFailure := .malformed "down"
    let script : List Scripted := [⟨.ok calendar, 5⟩, ⟨.error down, 0⟩]
    let opened := scripted script 60 .englandAndWales friday ⟨0, 0⟩
    let steps : List Step := [.ask 0 (.isWorkingDay monday), .ask 0 (.deadline 1 friday),
      .invalidate, .ask 0 (.isWorkingDay friday)]
    (∃ verdict s, (opened.run steps)[1]? = some (.verdict verdict, s) ∧
      (Question.deadline 1 friday).ToldBy .englandAndWales friday calendar verdict) ∧
    ∃ verdict s, (opened.run steps)[3]? = some (.verdict verdict, s) ∧
      verdict = .error (.noCalendar down) := by
  intro friday monday calendar down script opened steps
  obtain ⟨hsteps, _, _⟩ :=
    verdicts_rest_on_one_snapshot script 60 .englandAndWales friday ⟨0, 0⟩ steps
  refine ⟨?_, ?_⟩
  · obtain ⟨hrun, _, hquestions⟩ := hsteps [.ask 0 (.isWorkingDay monday)] _ _ rfl
    obtain ⟨verdict, answer, _, _, hgiven, _, hanswer, hends⟩ :=
      hquestions 0 0 (.deadline 1 friday) rfl rfl
    obtain rfl := hanswer (.ok ⟨calendar, .cache⟩) (List.mem_singleton.mpr rfl)
    rcases hends with ⟨served, hserved, _, htold⟩ | ⟨e, herror, _⟩
    · obtain rfl := Except.ok.inj hserved
      exact ⟨_, _, hrun, Option.some.inj hgiven ▸ htold⟩
    · cases herror
  · obtain ⟨hrun, _, hquestions⟩ := hsteps [.ask 0 (.isWorkingDay monday),
      .ask 0 (.deadline 1 friday), .invalidate] _ _ rfl
    obtain ⟨verdict, answer, _, _, hgiven, _, hanswer, hends⟩ :=
      hquestions 0 0 (.isWorkingDay friday) rfl rfl
    obtain rfl := hanswer (.error down) (List.mem_singleton.mpr rfl)
    rcases hends with ⟨served, hserved, _⟩ | ⟨e, herror, hverdict, _⟩
    · cases hserved
    · obtain rfl := Except.error.inj herror
      exact ⟨_, _, hrun, (Option.some.inj hgiven).trans hverdict⟩

end Service

end Workday
