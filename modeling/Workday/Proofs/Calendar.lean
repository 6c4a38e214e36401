import Mathlib.Logic.Function.Basic
import Workday.Calendar
import Workday.Proofs.Date.Civil
import Workday.WorkingDay

/-!
# The views of a calendar

A region's events can be looked at as they are, as a set of dates, date by date and year by year. Each
view is written for itself. They agree: a date is a bank holiday if it is among the dates, if its year
has an event on it, and, Monday to Friday, if it is no working day. The years split the events, with
the order and the repetitions of the feed, and no view of a region depends on the others.
-/

set_option autoImplicit false

namespace Workday

variable {calendar : Calendar} {region other : Region} {date : Date} {event : Event} {year : Int}

/-! ## Lists that split a list -/

/-- The parts make up the whole: its elements, one after the other, each belong to one of the parts. -/
inductive Split {α ι : Type} [DecidableEq ι] : List α → (ι → List α) → Prop where
  | nil : Split [] fun _ => []
  | cons {whole : List α} {part : ι → List α} (a : α) (i : ι) (rest : Split whole part) :
      Split (a :: whole) (Function.update part i (a :: part i))

/-- A key sorts the elements of a list into parts. An element more goes to the front of the part of its
key, and no other part is touched. -/
theorem split_filter {α ι : Type} [DecidableEq ι] (key : α → ι) (whole : List α) :
    Split whole fun i => whole.filter fun a => key a == i := by
  induction whole with
  | nil => exact Split.nil
  | cons a whole ih =>
    have hpart : (fun i => (a :: whole).filter fun a => key a == i) =
        Function.update (fun i => whole.filter fun a => key a == i) (key a)
          (a :: whole.filter fun b => key b == key a) := by
      funext i
      by_cases hi : i = key a
      · rw [hi, Function.update_self]
        exact List.filter_cons_of_pos (beq_self_eq_true (key a))
      · rw [Function.update_of_ne hi, List.filter_cons_of_neg]
        exact fun h => hi (beq_iff_eq.mp h).symm
    rw [hpart]
    exact ih.cons a (key a)

/-! ## Dates -/

/-- Monday to Friday. -/
def mondayToFriday : List Weekday := [.monday, .tuesday, .wednesday, .thursday, .friday]

namespace Calendar

/-- A date is a bank holiday of a region if it is one of its dates. -/
theorem isBankHoliday_iff :
    calendar.isBankHoliday region date = true ↔ date ∈ calendar.holidayDates region := by
  simp only [isBankHoliday, holidayDates, List.any_eq_true, List.mem_map, beq_iff_eq]

/-- The events of a year are those of the region in that year. -/
theorem mem_eventsInYear :
    event ∈ calendar.eventsInYear region year ↔
      event ∈ calendar.events region ∧ event.date.year = year := by
  rw [eventsInYear, List.mem_filter, beq_iff_eq]

/-- A date is a holiday if an event of its own year is on it. -/
theorem mem_holidayDates_iff_eventsInYear : date ∈ calendar.holidayDates region ↔
    ∃ event ∈ calendar.eventsInYear region date.year, event.date = date := by
  simp only [holidayDates, List.mem_map, mem_eventsInYear]
  constructor
  · rintro ⟨event, hmem, rfl⟩
    exact ⟨event, ⟨hmem, rfl⟩, rfl⟩
  · rintro ⟨event, ⟨hmem, -⟩, hdate⟩
    exact ⟨event, hmem, hdate⟩

/-- A date is a working day by the holidays of a region if it is from Monday to Friday and no bank
holiday there. -/
theorem isWorkingDay_holidayDates : isWorkingDay (calendar.holidayDates region) date = true ↔
    date.weekday ∈ mondayToFriday ∧ calendar.isBankHoliday region date = false := by
  have hweek : date.weekday.isWeekend = false ↔ date.weekday ∈ mondayToFriday := by
    cases date.weekday <;> decide
  rw [isWorkingDay, Bool.and_eq_true, Bool.not_eq_true', Bool.not_eq_true', hweek,
    ← Bool.not_eq_true, ← Bool.not_eq_true, isBankHoliday_iff, List.contains_iff_mem]

/-! ## Years -/

/-- The year of a date, in 32 bits. -/
def yearKey (event : Event) : Int32 := Int32.ofInt event.date.year

/-- The year of a date fits into the width that years are asked for with. -/
theorem toInt_yearKey (event : Event) : (yearKey event).toInt = event.date.year := by
  have hyear : -262400 ≤ event.date.year ∧ event.date.year ≤ 262400 := event.date.year_bounds
  exact Int32.toInt_ofInt_of_le (by omega) (by omega)

/-- Over all years of 32 bits the events of a year split the events of the region. -/
theorem split_eventsInYear (calendar : Calendar) (region : Region) :
    Split (calendar.events region) fun year : Int32 => calendar.eventsInYear region year.toInt := by
  have hkey : (fun year : Int32 => calendar.eventsInYear region year.toInt) =
      fun year => (calendar.events region).filter fun event => yearKey event == year := by
    funext year
    refine List.filter_congr fun event _ => ?_
    rw [← toInt_yearKey, Bool.eq_iff_iff, beq_iff_eq, beq_iff_eq, Int32.toInt_inj]
  rw [hkey]
  exact split_filter yearKey _

/-! ## Regions -/

/-- The calendar with other events for one region. -/
def withEvents (calendar : Calendar) (region : Region) (events : List Event) : Calendar :=
  match region with
  | .englandAndWales => { calendar with englandAndWales := events }
  | .scotland => { calendar with scotland := events }
  | .northernIreland => { calendar with northernIreland := events }

/-- Other events in one region change nothing in the others. -/
theorem events_withEvents_of_ne (h : other ≠ region) (events : List Event) :
    (calendar.withEvents other events).events region = calendar.events region := by
  cases other <;> cases region <;> first | rfl | exact absurd rfl h

/-- All views of a region agree. A date is a bank holiday if and only if it is among the dates, and if
and only if an event of its year is on it; it is a working day if and only if it is Monday to Friday and
no bank holiday. The lists of the years split the events of the region, and other events of another
region change none of the views. -/
theorem views_agree (calendar : Calendar) (region : Region) :
    (∀ date, (calendar.isBankHoliday region date = true ↔ date ∈ calendar.holidayDates region) ∧
      (date ∈ calendar.holidayDates region ↔
        ∃ event ∈ calendar.eventsInYear region date.year, event.date = date) ∧
      (isWorkingDay (calendar.holidayDates region) date = true ↔
        date.weekday ∈ mondayToFriday ∧ calendar.isBankHoliday region date = false)) ∧
    Split (calendar.events region) (fun year : Int32 => calendar.eventsInYear region year.toInt) ∧
    ∀ other ≠ region, ∀ events, let changed := calendar.withEvents other events
      changed.events region = calendar.events region ∧
        changed.holidayDates region = calendar.holidayDates region ∧
        changed.isBankHoliday region = calendar.isBankHoliday region ∧
        changed.eventsInYear region = calendar.eventsInYear region ∧
        isWorkingDay (changed.holidayDates region) = isWorkingDay (calendar.holidayDates region) := by
  refine ⟨fun date => ⟨isBankHoliday_iff, mem_holidayDates_iff_eventsInYear,
    isWorkingDay_holidayDates⟩, split_eventsInYear calendar region, ?_⟩
  intro other hother events changed
  have hevents : changed.events region = calendar.events region := events_withEvents_of_ne hother events
  have hdates : changed.holidayDates region = calendar.holidayDates region := by
    rw [holidayDates, hevents, holidayDates]
  refine ⟨hevents, hdates, ?_, ?_, ?_⟩
  · funext date
    rw [isBankHoliday, hevents, isBankHoliday]
  · funext year
    rw [eventsInYear, hevents, eventsInYear]
  · rw [hdates]

/-- Scotland with an event of 2024, Christmas Day of that year twice, and an event before year 0: each
year has its own, Christmas Day is no working day though it is a Wednesday, and an event of England
changes nothing. -/
theorem views_agree_in_scotland :
    let christmas : Date := ⟨739245, by decide, by decide⟩
    let calendar : Calendar := ⟨[], [⟨"New Year", ⟨738887, by decide, by decide⟩, "", false⟩,
      ⟨"Christmas", christmas, "", true⟩, ⟨"Christmas", christmas, "", true⟩,
      ⟨"Old", ⟨-400, by decide, by decide⟩, "", false⟩], []⟩
    let changed := calendar.withEvents .englandAndWales
      [⟨"Easter", ⟨738620, by decide, by decide⟩, "", false⟩]
    changed.holidayDates .scotland = calendar.holidayDates .scotland ∧
      isWorkingDay (changed.holidayDates .scotland) christmas = false ∧
      (calendar.eventsInYear .scotland 2024).length = 3 ∧
      (calendar.eventsInYear .scotland (-1)).length = 1 := by
  intro christmas calendar changed
  obtain ⟨hviews, -, hchanged⟩ := views_agree calendar .scotland
  obtain ⟨-, hdates, -, -, hworking⟩ := hchanged .englandAndWales (by decide) _
  refine ⟨hdates, ?_, by decide +kernel, by decide +kernel⟩
  refine Bool.eq_false_iff.mpr fun h => ?_
  have hfree := ((hviews christmas).2.2.mp (congrFun hworking christmas ▸ h)).2
  have hevent : calendar.isBankHoliday .scotland christmas = true := by decide
  exact Bool.false_ne_true (hfree.symm.trans hevent)

end Calendar

end Workday
