import Workday.Calculator
import Workday.Proofs.Cache.Room.Batch

/-!
# Questions and what tells their answers

Which questions need the calendar, and what one calendar tells about a question in a region. The
first does not depend on the calculator; the second is all that a calculator takes from a calendar.
Among questions that are asked together, one that needs the calendar is known by how many of those
before it need it too (`callsBefore`): that is its place among the calls for the calendar.
-/

set_option autoImplicit false

namespace Workday

open Cache (Call Served)

namespace Question

/-- The count and the start of a deadline that is asked for. -/
def steps? (today : Date) : Question → Option (Int × Date)
  | deadline n start => some (n, start)
  | deadlineFromToday n => some (n, today)
  | _ => none

/-- The question cannot be answered without the calendar: whether a date is a working day, or a
deadline for a count from 1 to `maxCount`. -/
def needsCalendar : Question → Bool
  | isWorkingDay _ => true
  | deadline n _ | deadlineFromToday n => decide (1 ≤ n ∧ n ≤ maxCount)
  | region => false

/-- What one calendar tells about a question in a region: whether the date is a working day; the
date that many working days after the start; or that the calendar ends before it. -/
inductive ToldBy (q : Question) (region : Region) (today : Date) (calendar : Calendar) :
    Verdict → Prop where
  | working {date : Date} (asked : q = .isWorkingDay date) :
      ToldBy q region today calendar
        (.ok (.working (Workday.isWorkingDay (calendar.holidayDates region) date)))
  | date {n : Int} {start date : Date} (asked : q.steps? today = some (n, start))
      (counted : addWorkingDays (calendar.holidayDates region) n.toNat start = some date) :
      ToldBy q region today calendar (.ok (.date date))
  | outOfRange {n : Int} {start : Date} (asked : q.steps? today = some (n, start))
      (ended : addWorkingDays (calendar.holidayDates region) n.toNat start = none) :
      ToldBy q region today calendar (.error (.outOfRange start))

end Question

namespace Calculator

variable {σ : Type} {c : Calculator} {today : Date} {q : Question} {p : Nat}

/-! ## One question -/

/-- A deadline is left open exactly if its count can be stepped. -/
theorem settleDeadline_isNone (n : Int) (start : Date) :
    (settleDeadline n start).isNone = decide (1 ≤ n ∧ n ≤ maxCount) := by
  unfold settleDeadline
  by_cases hrange : n < 0 ∨ maxCount < n
  · rw [if_pos hrange]
    exact (decide_eq_false (by omega)).symm
  · rw [if_neg hrange]
    by_cases hzero : n = 0
    · rw [if_pos hzero]
      exact (decide_eq_false (by omega)).symm
    · rw [if_neg hzero]
      exact (decide_eq_true (by omega)).symm

/-- A question waits for the calendar exactly if it needs it, whoever is asked. -/
theorem settle_isNone (c : Calculator) (today : Date) (q : Question) :
    (c.settle today q).isNone = q.needsCalendar := by
  cases q with
  | isWorkingDay date => rfl
  | deadline n start => exact settleDeadline_isNone n start
  | deadlineFromToday n => exact settleDeadline_isNone n today
  | region => rfl

/-- A question is left open exactly if it needs the calendar. -/
theorem settle_eq_none_iff : c.settle today q = none ↔ q.needsCalendar = true := by
  rw [← settle_isNone c today q, Option.isNone_iff_eq_none]

/-- A question that needs no calendar is answered at once. -/
theorem settle_of_not_needsCalendar (c : Calculator) (today : Date) (h : q.needsCalendar = false) :
    ∃ verdict, c.settle today q = some verdict := by
  rw [← settle_isNone c today q] at h
  cases hsettle : c.settle today q with
  | none => rw [hsettle] at h; cases h
  | some verdict => exact ⟨verdict, rfl⟩

/-- What a calendar says to a deadline is what it tells of the question that asks for it: the date that
the steps lead to, or that there are too few working days for them. -/
theorem deadlineBy_toldBy {calendar : Calendar} {region : Region} {n : Int} {start : Date}
    (hasked : q.steps? today = some (n, start)) :
    q.ToldBy region today calendar (deadlineBy calendar region n.toNat start) := by
  unfold deadlineBy
  cases hadd : addWorkingDays (calendar.holidayDates region) n.toNat start with
  | some date => exact .date hasked hadd
  | none => exact .outOfRange hasked hadd

/-- A calculator answers a question that needs the calendar with what the calendar tells. -/
theorem answerBy_toldBy {calendar : Calendar} (h : q.needsCalendar = true) :
    q.ToldBy c.region today calendar (c.answerBy today calendar q) := by
  cases q with
  | isWorkingDay date => exact .working rfl
  | deadline n start => exact deadlineBy_toldBy rfl
  | deadlineFromToday n => exact deadlineBy_toldBy rfl
  | region => cases h

/-! ## Questions asked together -/

/-- How many of the questions need the calendar. -/
def callsAmong {ι : Type} (asked : List (ι × Question)) : Nat :=
  asked.countP fun x => x.2.needsCalendar

/-- How many of the questions before a place need it. -/
def callsBefore {ι : Type} (asked : List (ι × Question)) (p : Nat) : Nat :=
  callsAmong (asked.take p)

variable {asked : List (Calculator × Question)}
  {answers : List (Except FetchFailure (Served Calendar))}

/-- Another question in front is another call if it needs the calendar. -/
theorem callsAmong_cons {ι : Type} (x : ι × Question) (asked : List (ι × Question)) :
    callsAmong (x :: asked) = callsAmong asked + if x.2.needsCalendar then 1 else 0 :=
  List.countP_cons

/-- Behind another question in front there is one call more if that one needs the calendar. -/
theorem callsBefore_cons_succ {ι : Type} (x : ι × Question) (asked : List (ι × Question)) :
    callsBefore (x :: asked) (p + 1) =
      callsBefore asked p + if x.2.needsCalendar then 1 else 0 := by
  rw [callsBefore, List.take_succ_cons, callsAmong_cons]
  rfl

/-- How many calls come before a question does not depend on which handles are asked. -/
theorem callsBefore_map {ι κ : Type} (f : ι → κ) (asked : List (ι × Question)) :
    callsBefore (asked.map fun x => (f x.1, x.2)) p = callsBefore asked p := by
  rw [callsBefore, ← List.map_take, callsAmong, List.countP_map]
  rfl

/-- The calls that questions asked together make for the calendar. -/
def callsOf (source : CalendarSource σ) (today : Date) (asked : List (Calculator × Question)) :
    List (Call σ FetchFailure Calendar) :=
  (asked.filter fun (c, q) => (c.settle today q).isNone).map fun (c, _) => c.call source

/-- There are as many calls as questions that need the calendar. -/
theorem length_callsOf (source : CalendarSource σ) (today : Date)
    (asked : List (Calculator × Question)) :
    (callsOf source today asked).length = callsAmong asked := by
  have hneeding : (asked.filter fun (c, q) => (c.settle today q).isNone) =
      asked.filter fun x => x.2.needsCalendar :=
    List.filter_congr fun x _ => settle_isNone x.1 today x.2
  rw [callsOf, List.length_map, hneeding, callsAmong, List.countP_eq_length_filter]

/-- Every call is made of the shared source, with the time to live of its calculator. -/
theorem of_mem_callsOf {source : CalendarSource σ} {call : Call σ FetchFailure Calendar}
    (h : call ∈ callsOf source today asked) :
    call.fetch = source ∧ ∃ x ∈ asked, call.ttl = x.1.ttl := by
  obtain ⟨x, hx, rfl⟩ := List.mem_map.mp h
  exact ⟨rfl, x, (List.mem_filter.mp hx).1, rfl⟩

/-- The first of the questions is settled, or takes the first of the answers. The answers are as many as
the questions that need the calendar, and the rest of both match again. -/
theorem merge_cons (hlength : answers.length = callsAmong ((c, q) :: asked)) :
    (∃ verdict, c.settle today q = some verdict ∧ q.needsCalendar = false ∧
      answers.length = callsAmong asked ∧
      merge today ((c, q) :: asked) answers = verdict :: merge today asked answers) ∨
    (∃ answer rest, answers = answer :: rest ∧ c.settle today q = none ∧ q.needsCalendar = true ∧
      rest.length = callsAmong asked ∧
      merge today ((c, q) :: asked) answers =
        c.conclude today q answer :: merge today asked rest) := by
  rw [callsAmong_cons] at hlength
  cases hneeds : q.needsCalendar with
  | false =>
    obtain ⟨verdict, hsettle⟩ := settle_of_not_needsCalendar c today hneeds
    rw [hneeds] at hlength
    exact Or.inl ⟨verdict, hsettle, rfl, hlength, by simp only [merge, hsettle]⟩
  | true =>
    have hsettle : c.settle today q = none := settle_eq_none_iff.mpr hneeds
    rw [hneeds, if_pos rfl] at hlength
    cases answers with
    | nil => cases hlength
    | cons answer rest =>
      exact Or.inr ⟨answer, rest, rfl, hsettle, rfl, Nat.succ.inj hlength,
        by simp only [merge, hsettle]⟩

/-- Every question of a batch has a verdict. -/
theorem length_merge (hlength : answers.length = callsAmong asked) :
    (merge today asked answers).length = asked.length := by
  induction asked generalizing answers with
  | nil => rfl
  | cons x asked ih =>
    rcases merge_cons hlength with ⟨_, _, _, hrest, hmerge⟩ | ⟨_, _, _, _, _, hrest, hmerge⟩
    · rw [hmerge, List.length_cons, List.length_cons, ih hrest]
    · rw [hmerge, List.length_cons, List.length_cons, ih hrest]

/-- A question gets the verdict that it is settled with, or the one that follows from the answer to
its own call. -/
theorem merge_getElem? (hlength : answers.length = callsAmong asked)
    (hp : asked[p]? = some (c, q)) :
    ∃ verdict, (merge today asked answers)[p]? = some verdict ∧
      (c.settle today q = some verdict ∨ c.settle today q = none ∧
        ∃ answer, answers[callsBefore asked p]? = some answer ∧
          verdict = c.conclude today q answer) := by
  induction asked generalizing answers p with
  | nil => cases hp
  | cons x asked ih =>
    obtain ⟨c', q'⟩ := x
    -- the first question takes no answer, or the first of the answers
    rcases merge_cons hlength with ⟨verdict, hsettle, hneeds, hrest, hmerge⟩ |
      ⟨answer, rest, rfl, hsettle, hneeds, hrest, hmerge⟩
    all_goals rw [hmerge]
    · cases p with
      | zero =>
        cases hp
        exact ⟨verdict, rfl, Or.inl hsettle⟩
      | succ p =>
        rw [callsBefore_cons_succ, hneeds]
        exact ih hrest hp
    · cases p with
      | zero =>
        cases hp
        exact ⟨_, rfl, Or.inr ⟨hsettle, answer, rfl, rfl⟩⟩
      | succ p =>
        rw [callsBefore_cons_succ, hneeds]
        exact ih hrest hp

/-- Every question that is asked together with others gets its verdict. -/
theorem length_askTogether (source : CalendarSource σ) (today : Date) (s : CalendarStore σ)
    (asked : List (Calculator × Question)) :
    (askTogether source today s asked).1.length = asked.length :=
  length_merge ((s.length_batch _).trans (length_callsOf source today asked))

/-- A question that is asked together with others is settled, or it is concluded from the answer to
its own call in the batch. -/
theorem askTogether_getElem? (source : CalendarSource σ) (today : Date) (s : CalendarStore σ)
    (hp : asked[p]? = some (c, q)) :
    ∃ verdict, (askTogether source today s asked).1[p]? = some verdict ∧
      (c.settle today q = some verdict ∨ c.settle today q = none ∧
        ∃ answer, (s.batch (callsOf source today asked)).1[callsBefore asked p]? = some answer ∧
          verdict = c.conclude today q answer) :=
  merge_getElem? ((s.length_batch _).trans (length_callsOf source today asked)) hp

end Calculator

end Workday
