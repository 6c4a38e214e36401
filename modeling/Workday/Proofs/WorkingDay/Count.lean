import Mathlib.Order.Bounds.Basic
import Workday.Proofs.Date.Order
import Workday.WorkingDay

/-!
# Counting working days

A step goes to the least working day after a date, and a deadline is the working day at which the
count is reached: `addWorkingDays` is described by an order and a count over an interval of dates,
with no mention of the scan. There is no deadline exactly when the calendar ends too soon.
-/

set_option autoImplicit false

namespace Workday

open scoped Date.Chronology

variable {holidays : List Date} {a b c d r : Date}

/-! ## The working days of an interval -/

/-- The working days after a date, up to another and with it. -/
def workingDays (holidays : List Date) (a b : Date) : Finset Date :=
  (Finset.Ioc a b).filter fun x => isWorkingDay holidays x

/-- The working days between two dates are those after the first and up to the second. -/
@[simp]
theorem mem_workingDays {x : Date} :
    x ∈ workingDays holidays a b ↔ (a < x ∧ x ≤ b) ∧ isWorkingDay holidays x := by
  simp only [workingDays, Finset.mem_filter, Finset.mem_Ioc]

@[simp]
theorem workingDays_self : workingDays holidays a a = ∅ := by
  simp only [workingDays, Finset.Ioc_self, Finset.filter_empty]

/-- If there is a working day between two dates, the first comes before the second. -/
theorem lt_of_card_workingDays (h : 0 < (workingDays holidays a b).card) : a < b := by
  obtain ⟨x, hx⟩ := Finset.card_pos.mp h
  obtain ⟨⟨hax, hxb⟩, _⟩ := mem_workingDays.mp hx
  exact hax.trans_le hxb

/-- Working days are counted piece by piece. -/
theorem card_workingDays_add (hab : a ≤ b) (hbc : b ≤ c) :
    (workingDays holidays a b).card + (workingDays holidays b c).card =
      (workingDays holidays a c).card := by
  have hdisjoint : Disjoint (workingDays holidays a b) (workingDays holidays b c) := by
    rw [Finset.disjoint_left]
    intro x hx hx'
    exact absurd (mem_workingDays.mp hx).1.2 (not_le_of_gt (mem_workingDays.mp hx').1.1)
  have hunion : workingDays holidays a b ∪ workingDays holidays b c = workingDays holidays a c := by
    simp only [workingDays]
    rw [← Finset.filter_union, Finset.Ioc_union_Ioc_eq_Ioc hab hbc]
  rw [← Finset.card_union_of_disjoint hdisjoint, hunion]

/-! ## One step -/

/-- After the last date there is no working day. -/
theorem nextWorkingDay_last : nextWorkingDay holidays Date.last = none := rfl

/-- The next working day is the next date, if that is one, or the next after it. -/
theorem nextWorkingDay_of_next? (h : a.next? = some b) :
    nextWorkingDay holidays a =
      if isWorkingDay holidays b then some b else nextWorkingDay holidays b := by
  have hleft := (Date.daysLeft_of_next? h).2
  simp only [nextWorkingDay, hleft, nextWorkingDayWithin, h]

/-- A step leads to the least working day after a date. The induction walks the calendar from its end:
on a working day the step is over, and else it goes on from there. -/
theorem nextWorkingDay_eq_some_iff :
    nextWorkingDay holidays d = some r ↔ IsLeast {x | d < x ∧ isWorkingDay holidays x} r := by
  induction d using Date.walk_induction with
  | atLast =>
    rw [nextWorkingDay_last]
    constructor
    · intro h
      cases h
    · rintro ⟨⟨hlt, _⟩, _⟩
      exact absurd (Date.le_latest r) (not_le_of_gt hlt)
  | step d e hnext ih =>
    rw [nextWorkingDay_of_next? hnext]
    simp only [Date.lt_iff_of_next? hnext]
    by_cases hworking : isWorkingDay holidays e = true
    · have hleast : IsLeast {x | e ≤ x ∧ isWorkingDay holidays x} e :=
        ⟨⟨le_refl e, hworking⟩, fun _ hx => hx.1⟩
      rw [if_pos hworking, Option.some.injEq]
      constructor
      · rintro rfl
        exact hleast
      · intro hr
        exact hleast.unique hr
    · -- no day is lost with one that is no working day
      have hsame : {x | e ≤ x ∧ isWorkingDay holidays x = true} =
          {x | e < x ∧ isWorkingDay holidays x = true} := by
        ext x
        refine and_congr_left fun hx => ⟨fun hle => lt_of_le_of_ne hle ?_, le_of_lt⟩
        rintro rfl
        exact hworking hx
      rw [if_neg hworking, ih, hsame]

/-- A step fails exactly when no working day is left. It walks date by date to the last date there is,
and has then found none. -/
theorem nextWorkingDay_eq_none_iff :
    nextWorkingDay holidays d = none ↔ ∀ x, d < x → isWorkingDay holidays x = false := by
  induction d using Date.walk_induction with
  | atLast =>
    refine iff_of_true nextWorkingDay_last fun x hx => ?_
    exact absurd (Date.le_latest x) (not_le_of_gt hx)
  | step d e hnext ih =>
    rw [nextWorkingDay_of_next? hnext]
    simp only [Date.lt_iff_of_next? hnext]
    cases hworking : isWorkingDay holidays e with
    | true =>
      rw [if_pos rfl]
      refine iff_of_false (Option.some_ne_none e) fun hall => ?_
      rw [hall e (le_refl e)] at hworking
      cases hworking
    | false =>
      rw [if_neg Bool.false_ne_true, ih]
      refine ⟨fun hall x hle => ?_, fun hall x hlt => hall x hlt.le⟩
      rcases hle.eq_or_lt with rfl | hlt
      · exact hworking
      · exact hall x hlt

/-- A step passes over one working day: the date it leads to is the only one up to there. -/
theorem card_workingDays_of_step (h : nextWorkingDay holidays d = some r) (hb : r ≤ b) :
    (workingDays holidays d b).card = (workingDays holidays r b).card + 1 := by
  obtain ⟨⟨hlt, hworking⟩, hleast⟩ := nextWorkingDay_eq_some_iff.mp h
  have hone : workingDays holidays d r = {r} := by
    ext x
    rw [mem_workingDays, Finset.mem_singleton]
    constructor
    · rintro ⟨⟨hdx, hxr⟩, hx⟩
      exact le_antisymm hxr (hleast ⟨hdx, hx⟩)
    · rintro rfl
      exact ⟨⟨hlt, le_refl x⟩, hworking⟩
  rw [← card_workingDays_add hlt.le hb, hone, Finset.card_singleton, Nat.add_comm]

/-! ## Many steps -/

/-- Steps are counted piece by piece, from wherever the first piece leads. -/
theorem addWorkingDays_add (holidays : List Date) (m n : Nat) (d : Date) :
    addWorkingDays holidays (m + n) d =
      (addWorkingDays holidays m d).bind (addWorkingDays holidays n) := by
  induction m generalizing d with
  | zero => rw [Nat.zero_add, addWorkingDays, Option.bind_some]
  | succ m ih =>
    rw [Nat.succ_add, addWorkingDays, addWorkingDays]
    cases nextWorkingDay holidays d with
    | none => rfl
    | some next => exact ih next

/-- The date a count of working days away, by order and count alone: the start itself for a count
of zero, and otherwise a working day after it. -/
theorem addWorkingDays_eq_some_iff {n : Nat} :
    addWorkingDays holidays n d = some r ↔
      d ≤ r ∧ (d < r → isWorkingDay holidays r) ∧ (workingDays holidays d r).card = n := by
  induction n generalizing d with
  | zero =>
    rw [addWorkingDays, Option.some.injEq]
    constructor
    · rintro rfl
      refine ⟨le_refl d, fun hlt => absurd hlt (lt_irrefl d), ?_⟩
      rw [workingDays_self, Finset.card_empty]
    · rintro ⟨hle, hworking, hcard⟩
      by_contra hne
      have hlt : d < r := lt_of_le_of_ne hle hne
      have hmem : r ∈ workingDays holidays d r :=
        mem_workingDays.mpr ⟨⟨hlt, le_refl r⟩, hworking hlt⟩
      rw [Finset.card_eq_zero.mp hcard] at hmem
      exact absurd hmem (Finset.notMem_empty r)
  | succ n ih =>
    -- one step uses up the first of the working days that are counted
    cases hstep : nextWorkingDay holidays d with
    | none =>
      simp only [addWorkingDays, hstep, reduceCtorEq, false_iff]
      rintro ⟨_, hworking, hcard⟩
      have hlt := lt_of_card_workingDays (by rw [hcard]; exact Nat.succ_pos n)
      have hnot := nextWorkingDay_eq_none_iff.mp hstep r hlt
      rw [hworking hlt] at hnot
      cases hnot
    | some m =>
      obtain ⟨⟨hdm, hm⟩, hleast⟩ := nextWorkingDay_eq_some_iff.mp hstep
      simp only [addWorkingDays, hstep]
      rw [ih]
      constructor
      · rintro ⟨hmr, hworking, hcard⟩
        refine ⟨(hdm.trans_le hmr).le, fun _ => ?_, ?_⟩
        · rcases hmr.eq_or_lt with rfl | hlt
          · exact hm
          · exact hworking hlt
        · rw [card_workingDays_of_step hstep hmr, hcard]
      · rintro ⟨_, hworking, hcard⟩
        have hlt := lt_of_card_workingDays (by rw [hcard]; exact Nat.succ_pos n)
        have hmr : m ≤ r := hleast ⟨hlt, hworking hlt⟩
        rw [card_workingDays_of_step hstep hmr] at hcard
        exact ⟨hmr, fun _ => hworking hlt, Nat.succ.inj hcard⟩

/-- There is no such date exactly when the calendar holds too few working days after the start. Each
step takes one of them from what is left. -/
theorem addWorkingDays_eq_none_iff {n : Nat} :
    addWorkingDays holidays n d = none ↔ (workingDays holidays d Date.last).card < n := by
  induction n generalizing d with
  | zero => simp only [addWorkingDays, reduceCtorEq, Nat.not_lt_zero]
  | succ n ih =>
    cases hstep : nextWorkingDay holidays d with
    | none =>
      have hempty : workingDays holidays d Date.last = ∅ := by
        refine Finset.eq_empty_of_forall_notMem fun x hx => ?_
        obtain ⟨⟨hlt, _⟩, hworking⟩ := mem_workingDays.mp hx
        rw [nextWorkingDay_eq_none_iff.mp hstep x hlt] at hworking
        cases hworking
      simp only [addWorkingDays, hstep, hempty, Finset.card_empty, Nat.zero_lt_succ]
    | some m =>
      simp only [addWorkingDays, hstep]
      rw [ih, card_workingDays_of_step hstep (Date.le_latest m), Nat.succ_lt_succ_iff]

/-- The counting law. No working days lead to the start itself; a positive count leads to the
working day after the start at which exactly that many have passed, and to nothing exactly when
fewer are left up to the latest date. -/
theorem addWorkingDays_counts (holidays : List Date) (start : Date) :
    addWorkingDays holidays 0 start = some start ∧
      ∀ n, 1 ≤ n →
        (∀ result, addWorkingDays holidays n start = some result ↔
          start < result ∧ isWorkingDay holidays result = true ∧
            (workingDays holidays start result).card = n) ∧
        (addWorkingDays holidays n start = none ↔
          (workingDays holidays start Date.last).card < n) := by
  refine ⟨rfl, fun n hn => ⟨fun result => ?_, addWorkingDays_eq_none_iff⟩⟩
  rw [addWorkingDays_eq_some_iff]
  constructor
  · rintro ⟨_, hworking, hcard⟩
    have hlt : start < result := lt_of_card_workingDays (by rw [hcard]; exact hn)
    exact ⟨hlt, hworking hlt, hcard⟩
  · rintro ⟨hlt, hworking, hcard⟩
    exact ⟨hlt.le, fun _ => hworking, hcard⟩

/-- Two working days after Friday 22 December 2023 is Thursday the 28th: the weekend, Christmas Day
and Boxing Day do not count. From the latest date there is nowhere to go. -/
theorem addWorkingDays_counts_over_christmas :
    let friday : Date := ⟨738876, by decide, by decide⟩
    let thursday : Date := ⟨738882, by decide, by decide⟩
    let holidays : List Date := [⟨738879, by decide, by decide⟩, ⟨738880, by decide, by decide⟩]
    1 ≤ 2 ∧ friday < thursday ∧ isWorkingDay holidays thursday = true ∧
      (workingDays holidays friday thursday).card = 2 ∧
      (workingDays holidays Date.last Date.last).card < 1 := by
  intro friday thursday holidays
  have hsome : addWorkingDays holidays 2 friday = some thursday := by decide +kernel
  have hnone : addWorkingDays holidays 1 Date.last = none := rfl
  have fromFriday := (addWorkingDays_counts holidays friday).2 2 (by decide)
  have fromLast := (addWorkingDays_counts holidays Date.last).2 1 (by decide)
  obtain ⟨hlt, hworking, hcard⟩ := (fromFriday.1 thursday).mp hsome
  exact ⟨by decide, hlt, hworking, hcard, fromLast.2.mp hnone⟩

end Workday
