import Workday.Proofs.WorkingDay.Count

/-!
# Weeks without holidays

Where no holiday falls on a weekday, five working days are a week: how far away a deadline is follows
from the weekday of the start by one division. A step goes over a weekend at most, and what is ahead of
a day is the step and what is ahead of the day it leads to, so the scan agrees with the arithmetic step
by step, up to the end of the calendar.
-/

set_option autoImplicit false

namespace Workday

open scoped Date.Chronology

variable {holidays : List Date} {d e : Date} {n : Nat}

namespace Date

/-- The position in the week goes with the day number, and Monday is where it starts over. -/
theorem weekday_index (d : Date) : (d.weekday.index : Int) = (d.day - 1) % 7 := by
  have hindex : ∀ k < 7, (Weekday.ofIndex k).index = k := by decide
  rw [weekday, hindex _ (by omega)]
  omega

/-- The weekend is the last two days of the week. -/
theorem weekday_isWeekend (d : Date) : d.weekday.isWeekend = true ↔ 5 ≤ d.weekday.index := by
  cases d.weekday <;> decide

/-- There is no date for a number out of the bounds of the calendar. -/
theorem ofDay?_eq_none_iff {k : Int} : ofDay? k = none ↔ k < firstDay ∨ lastDay < k := by
  unfold ofDay?
  split
  · simp only [reduceCtorEq, false_iff]
    omega
  · simp only [true_iff]
    omega

end Date

namespace Weekday

/-- How many days a step goes on from a day of the week: over the weekend, if it comes to one. -/
def daysToNext (w : Weekday) : Nat := if w.index < 4 then 1 else 7 - w.index

/-- How many days it is from a day of the week to the date so many working days after it: a weekend of
two days more for every five working days counted from Monday, less what of a weekend has gone by. -/
def daysAhead (w : Weekday) (n : Nat) : Int :=
  let counted := min w.index 4
  n + 2 * ((counted + n) / 5 : Nat) - (w.index - counted : Nat)

theorem daysAhead_zero {w : Weekday} (hw : w.index < 5) : w.daysAhead 0 = 0 := by
  simp only [daysAhead]
  omega

/-- What is ahead of a day is the next step and what is ahead of the day it leads to. -/
theorem daysAhead_succ {w w' : Weekday} (hw : w'.index = (w.index + w.daysToNext) % 7) (n : Nat) :
    w.daysAhead (n + 1) = w.daysToNext + w'.daysAhead n := by
  have hle : w.index < 7 := by cases w <;> decide
  simp only [daysAhead, daysToNext] at hw ⊢
  split at hw <;> split <;> omega

/-- The first working day is not after the last one. -/
theorem daysToNext_le_daysAhead (w : Weekday) (n : Nat) : w.daysToNext ≤ w.daysAhead (n + 1) := by
  have hle : w.index < 7 := by cases w <;> decide
  simp only [daysAhead, daysToNext]
  split <;> omega

end Weekday

/-! ## Steps -/

/-- No holiday after a date is one from Monday to Friday. -/
def OnlyWeekendsAfter (holidays : List Date) (d : Date) : Prop :=
  ∀ x ∈ holidays, d < x → x.weekday.isWeekend = true

namespace OnlyWeekendsAfter

/-- What holds of all later dates holds of all dates later still. -/
theorem mono (hfree : OnlyWeekendsAfter holidays d) (hde : d ≤ e) : OnlyWeekendsAfter holidays e :=
  fun x hx hex => hfree x hx (hde.trans_lt hex)

/-- Where no holiday comes any more a working day is one of the first five of its week. -/
theorem isWorkingDay_iff (hfree : OnlyWeekendsAfter holidays d) (x : Date) (hdx : d < x) :
    isWorkingDay holidays x = true ↔ x.weekday.index < 5 := by
  have hweekend := x.weekday_isWeekend
  by_cases hindex : x.weekday.index < 5
  · have hx : x ∉ holidays := fun hmem => by
      have hlate := hweekend.mp (hfree x hmem hdx)
      omega
    have hnot : x.weekday.isWeekend = false := by
      rw [← Bool.not_eq_true, hweekend]
      omega
    simp [isWorkingDay, hnot, hx, hindex]
  · simp [isWorkingDay, hweekend.mpr (by omega), hindex]

/-- A step leads to the next day from Monday to Friday: tomorrow, or Monday from Friday on. Where that
day is past the calendar, there is no working day left at all. -/
theorem nextWorkingDay_eq (hfree : OnlyWeekendsAfter holidays d) :
    nextWorkingDay holidays d = Date.ofDay? (d.day + d.weekday.daysToNext) := by
  have hd := d.weekday_index
  have hworking := hfree.isWorkingDay_iff
  simp only [Date.lt_iff] at hworking
  have hnext : d.weekday.daysToNext = if d.weekday.index < 4 then 1 else 7 - d.weekday.index := rfl
  cases hstep : Date.ofDay? (d.day + d.weekday.daysToNext) with
  | none =>
    rw [Date.ofDay?_eq_none_iff] at hstep
    rw [nextWorkingDay_eq_none_iff]
    intro x hdx
    have hx := x.weekday_index
    have hfirst := d.first_le
    have hlast := x.le_last
    rw [Date.lt_iff] at hdx
    rw [← Bool.not_eq_true, hworking x hdx]
    split at hnext <;> omega
  | some e =>
    rw [Date.Chronology.ofDay?_eq_some_iff] at hstep
    have he := e.weekday_index
    rw [nextWorkingDay_eq_some_iff]
    simp only [Date.lt_iff]
    have hde : d.day < e.day := by split at hnext <;> omega
    refine ⟨⟨hde, (hworking e hde).mpr ?_⟩, ?_⟩
    · split at hnext <;> omega
    · rintro x ⟨hdx, hx⟩
      rw [hworking x hdx] at hx
      have hindex := x.weekday_index
      rw [Date.le_iff]
      split at hnext <;> omega

/-- The scan agrees with the arithmetic from every start that a count leads away from, and from every
day from Monday to Friday. -/
theorem addWorkingDays_eq (hfree : OnlyWeekendsAfter holidays d)
    (hstart : 1 ≤ n ∨ d.weekday.index < 5) :
    addWorkingDays holidays n d = Date.ofDay? (d.day + d.weekday.daysAhead n) := by
  induction n generalizing d with
  | zero =>
    rw [addWorkingDays, Weekday.daysAhead_zero (by omega), Int.add_zero, Date.ofDay?_day]
  | succ n ih =>
    rw [addWorkingDays, hfree.nextWorkingDay_eq]
    cases hstep : Date.ofDay? (d.day + d.weekday.daysToNext) with
    | none =>
      -- past the end after one step, and further past it after all
      have hfurther := d.weekday.daysToNext_le_daysAhead n
      rw [Date.ofDay?_eq_none_iff] at hstep
      have hfirst := d.first_le
      exact (Date.ofDay?_eq_none_iff.mpr (.inr (by omega))).symm
    | some e =>
      have hleads : nextWorkingDay holidays d = some e := by rw [hfree.nextWorkingDay_eq, hstep]
      obtain ⟨hde, hworking⟩ := (nextWorkingDay_eq_some_iff.mp hleads).1
      rw [Date.Chronology.ofDay?_eq_some_iff] at hstep
      have hindex : e.weekday.index = (d.weekday.index + d.weekday.daysToNext) % 7 := by
        have hd := d.weekday_index
        have he := e.weekday_index
        omega
      rw [Weekday.daysAhead_succ hindex, ← Int.add_assoc, ← hstep]
      exact ih (hfree.mono hde.le) (.inr ((hfree.isWorkingDay_iff e hde).mp hworking))

end OnlyWeekendsAfter

/-- Where no holiday after the start falls on a weekday, the deadline lies as many days ahead as the
arithmetic of weeks says, and there is none exactly when the calendar ends before that day. -/
theorem addWorkingDays_in_weeks_without_holidays (holidays : List Date) (n : Nat) (start : Date)
    (positive : 1 ≤ n) (free : OnlyWeekendsAfter holidays start) :
    (∀ deadline, addWorkingDays holidays n start = some deadline ↔
      deadline.day = start.day + start.weekday.daysAhead n) ∧
    (addWorkingDays holidays n start = none ↔
      Date.last.day < start.day + start.weekday.daysAhead n) := by
  obtain ⟨m, rfl⟩ := Nat.exists_eq_add_of_le' positive
  have hahead := start.weekday.daysToNext_le_daysAhead m
  have hfirst := start.first_le
  rw [free.addWorkingDays_eq (.inl positive)]
  refine ⟨fun deadline => Date.Chronology.ofDay?_eq_some_iff, ?_⟩
  rw [Date.ofDay?_eq_none_iff]
  constructor
  · rintro (hbefore | hafter)
    · omega
    · exact hafter
  · exact .inr

/-- From Saturday 30 December 2023, with the Friday before and the Sunday after for holidays: two million
working days are four hundred thousand weeks, less the day of the weekend that has gone by. -/
theorem addWorkingDays_in_weeks_without_holidays_from_a_saturday :
    let saturday : Date := ⟨738884, by decide, by decide⟩
    let holidays : List Date := [⟨738883, by decide, by decide⟩, ⟨738885, by decide, by decide⟩]
    let deadline : Date := ⟨738884 + 2799999, by decide, by decide⟩
    1 ≤ 2000000 ∧ OnlyWeekendsAfter holidays saturday ∧
      addWorkingDays holidays 2000000 saturday = some deadline ∧
      addWorkingDays holidays 4294967295 saturday = none := by
  intro saturday holidays deadline
  have hfree : OnlyWeekendsAfter holidays saturday :=
    show ∀ x ∈ holidays, saturday < x → x.weekday.isWeekend = true by decide
  obtain ⟨hsome, -⟩ :=
    addWorkingDays_in_weeks_without_holidays holidays 2000000 saturday (by decide) hfree
  obtain ⟨-, hnone⟩ :=
    addWorkingDays_in_weeks_without_holidays holidays 4294967295 saturday (by decide) hfree
  exact ⟨by decide, hfree, (hsome deadline).mpr (by decide), hnone.mpr (by decide)⟩

end Workday
