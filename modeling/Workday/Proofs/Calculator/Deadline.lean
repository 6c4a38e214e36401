import Mathlib.Data.Int.Interval
import Workday.Proofs.Calculator.Question
import Workday.Proofs.WorkingDay.Count
import Workday.Service

/-!
# Which deadlines are given

For a count that can be stepped, a deadline is given exactly when so many working days are left in
the calendar of dates; else the start is reported as too late. A count above `maxCount` is reported
as no count at all, like a negative one. It could not be met in any case, as the dates are fewer
than that.
-/

set_option autoImplicit false

namespace Workday

open Cache (Served)
open scoped Date.Chronology

/-- There are no more working days left than days. -/
theorem card_workingDays_le_daysLeft (holidays : List Date) (d : Date) :
    (workingDays holidays d Date.last).card ≤ d.daysLeft := by
  have hmaps : ∀ x ∈ workingDays holidays d Date.last, x.day ∈ Finset.Ioc d.day lastDay := by
    intro x hx
    rw [Finset.mem_Ioc]
    exact (mem_workingDays.mp hx).1
  calc (workingDays holidays d Date.last).card
      ≤ (Finset.Ioc d.day lastDay).card :=
        Finset.card_le_card_of_injOn Date.day hmaps fun _ _ _ _ hday => Date.ext hday
    _ = d.daysLeft := Int.card_Ioc d.day lastDay

/-- No start has more than `maxCount` working days after it. -/
theorem card_workingDays_lt_maxCount (holidays : List Date) (d : Date) :
    ((workingDays holidays d Date.last).card : Int) < maxCount := by
  have hcard := card_workingDays_le_daysLeft holidays d
  have hfirst := d.first_le
  unfold Date.daysLeft at hcard
  unfold firstDay at hfirst
  unfold lastDay at hcard
  unfold maxCount
  omega

namespace Calculator

variable {σ : Type} (c : Calculator) (source : CalendarSource σ) (today : Date)
  (s : CalendarStore σ) (n : Int) (start : Date)

/-- A count that cannot be stepped is refused, and the store is not asked. -/
theorem ask_deadline_of_invalid (h : n < 0 ∨ maxCount < n) :
    c.ask source today s (.deadline n start) = (.error (.invalidCount n), s) := by
  simp only [ask, settle, settleDeadline, if_pos h]

/-- A count that can be stepped is concluded from what the store is asked for. -/
theorem ask_deadline_of_steppable (h : 1 ≤ n ∧ n ≤ maxCount) :
    (c.ask source today s (.deadline n start)).1 =
      c.conclude today (.deadline n start) (s.get (c.call source)).1 := by
  have hsettle : c.settle today (.deadline n start) = none :=
    settle_eq_none_iff.mpr (decide_eq_true h)
  simp only [ask, hsettle]

/-- What the calendar tells is never that the count is invalid. -/
theorem conclude_deadline_ne_invalid (answer : Except FetchFailure (Served Calendar)) :
    c.conclude today (.deadline n start) answer ≠ .error (.invalidCount n) := by
  cases answer with
  | error e => nofun
  | ok served =>
    simp only [conclude, answerBy, deadlineBy]
    cases addWorkingDays (served.value.holidayDates c.region) n.toNat start <;> nofun

/-- A deadline is refused for its count exactly if the count is negative or too large to be stepped,
whatever the source and the store. -/
theorem ask_deadline_invalid_iff :
    (c.ask source today s (.deadline n start)).1 = .error (.invalidCount n) ↔
      n < 0 ∨ maxCount < n := by
  by_cases hinvalid : n < 0 ∨ maxCount < n
  · rw [ask_deadline_of_invalid c source today s n start hinvalid]
    exact iff_of_true rfl hinvalid
  · refine iff_of_false ?_ hinvalid
    by_cases hzero : n = 0
    · subst hzero
      nofun
    · rw [ask_deadline_of_steppable c source today s n start (by omega)]
      exact c.conclude_deadline_ne_invalid today n start _

/-- A steppable count is met exactly if as many working days are left. If there are fewer, the failure
names the start and not how far the steps have led. -/
theorem deadlineBy_of_count (calendar : Calendar) (region : Region) (start : Date) (n : Nat) :
    let left := (workingDays (calendar.holidayDates region) start Date.last).card
    (n ≤ left → ∃ date, deadlineBy calendar region n start = .ok (.date date)) ∧
      (left < n → deadlineBy calendar region n start = .error (.outOfRange start)) := by
  intro left
  unfold deadlineBy
  have hnone : addWorkingDays (calendar.holidayDates region) n start = none ↔ left < n :=
    addWorkingDays_eq_none_iff
  cases hadd : addWorkingDays (calendar.holidayDates region) n start with
  | none => exact ⟨fun henough => absurd (hnone.mp hadd) (Nat.not_lt.mpr henough), fun _ => rfl⟩
  | some date =>
    refine ⟨fun _ => ⟨date, rfl⟩, fun hfew => ?_⟩
    rw [hnone.mpr hfew] at hadd
    cases hadd

/-- The verdicts on a deadline. The count is reported as invalid exactly if it is negative or above
`maxCount`, whatever becomes of the call for the calendar. If that call is served, a count from 0 to
`maxCount` gets a date when at least so many working days are left from the start up to the latest
date, and otherwise the report that the start is too late. Of a count above `maxCount` there are
never enough working days left. -/
theorem deadline_given_iff_enough_left :
    ((c.ask source today s (.deadline n start)).1 = .error (.invalidCount n) ↔
      n < 0 ∨ maxCount < n) ∧
    ∀ served, (s.get (c.call source)).1 = .ok served →
      let left := (workingDays (served.value.holidayDates c.region) start Date.last).card
      (0 ≤ n → n ≤ maxCount →
        (n ≤ left → ∃ date, (c.ask source today s (.deadline n start)).1 = .ok (.date date)) ∧
        (left < n → (c.ask source today s (.deadline n start)).1 = .error (.outOfRange start))) ∧
      (maxCount < n → left < n) := by
  refine ⟨c.ask_deadline_invalid_iff source today s n start, ?_⟩
  intro served hserved left
  refine ⟨fun hnonneg hmost => ?_, (card_workingDays_lt_maxCount _ start).trans⟩
  by_cases hzero : n = 0
  · subst hzero
    exact ⟨fun _ => ⟨start, rfl⟩, fun hfew => absurd hfew (by omega)⟩
  · have hask := ask_deadline_of_steppable c source today s n start (by omega)
    have hverdict : c.conclude today (.deadline n start) (s.get (c.call source)).1 =
        deadlineBy served.value c.region n.toNat start := by
      rw [hserved]
      rfl
    rw [hask, hverdict]
    obtain ⟨henough, hfew⟩ := deadlineBy_of_count served.value c.region start n.toNat
    exact ⟨fun h => henough (by omega), fun h => hfew (by omega)⟩

/-- From the latest date no count can be met: one day is too late. -/
theorem deadline_given_iff_enough_left_at_the_end :
    let s : CalendarStore Nat := .empty ⟨0, 0⟩ 0
    let source := scriptSource [⟨.ok Calendar.empty, 0⟩]
    let c : Calculator := .new 60
    (s.get (c.call source)).1 = .ok ⟨Calendar.empty, .network⟩ ∧
      (c.ask source Date.last s (.deadline 1 Date.last)).1 = .error (.outOfRange Date.last) := by
  intro s source c
  have hserved : (s.get (c.call source)).1 = .ok ⟨Calendar.empty, .network⟩ := rfl
  have hnone : (workingDays (Calendar.empty.holidayDates c.region) Date.last Date.last).card < 1 := by
    rw [workingDays_self]
    exact Nat.zero_lt_one
  obtain ⟨_, hgiven⟩ := c.deadline_given_iff_enough_left source Date.last s 1 Date.last
  obtain ⟨hsteppable, _⟩ := hgiven _ hserved
  exact ⟨hserved, (hsteppable (by decide) (by decide)).2 (by exact_mod_cast hnone)⟩

/-- One more than `maxCount` is no negative count, and is reported as invalid all the same, although
the calendar is served and tells that the start is too late for it. -/
theorem large_count_called_invalid :
    let s : CalendarStore Nat := .empty ⟨0, 0⟩ 0
    let source := scriptSource [⟨.ok Calendar.empty, 0⟩]
    let c : Calculator := .new 60
    let start : Date := ⟨738886, by decide, by decide⟩
    let n : Int := 4294967296
    (s.get (c.call source)).1 = .ok ⟨Calendar.empty, .network⟩ ∧
      (workingDays (Calendar.empty.holidayDates c.region) start Date.last).card < n ∧
      ¬ ((c.ask source start s (.deadline n start)).1 = .error (.invalidCount n) ↔ n < 0) ∧
      (c.ask source start s (.deadline n start)).1 ≠ .error (.outOfRange start) := by
  intro s source c start n
  have hinvalid : c.ask source start s (.deadline n start) = (.error (.invalidCount n), s) :=
    ask_deadline_of_invalid c source start s n start (Or.inr (by decide))
  have hfew := card_workingDays_lt_maxCount (Calendar.empty.holidayDates c.region) start
  rw [hinvalid]
  refine ⟨rfl, hfew.trans (by decide), fun hclaimed => ?_, nofun⟩
  exact absurd (hclaimed.mp rfl) (by decide)

end Calculator

end Workday
