import Workday.Proofs.WorkingDay.Count

/-!
# Deadlines compared

One more holiday takes at most one date from the working days of an interval, and a later start takes
those before it. What either does to a deadline is read off the counts: the deadline of the same count
is looked for in the thinned interval, and the counts say how far it has to go.
-/

set_option autoImplicit false

namespace Workday

open scoped Date.Chronology

variable {holidays : List Date} {a b d h r s : Date} {n : Nat}

/-- One step leads to the next working day. -/
theorem addWorkingDays_one (holidays : List Date) (d : Date) :
    addWorkingDays holidays 1 d = nextWorkingDay holidays d := by
  rw [addWorkingDays]
  cases nextWorkingDay holidays d <;> rfl

/-- The last of many steps is a step from where the others lead. -/
theorem addWorkingDays_succ (holidays : List Date) (n : Nat) (d : Date) :
    addWorkingDays holidays (n + 1) d =
      (addWorkingDays holidays n d).bind (nextWorkingDay holidays) := by
  rw [addWorkingDays_add]
  exact congrArg _ (funext (addWorkingDays_one holidays))

/-! ## One more holiday -/

/-- With one more holiday the working days are those before but for this one. -/
theorem isWorkingDay_cons {x : Date} :
    isWorkingDay (h :: holidays) x = true ↔ x ≠ h ∧ isWorkingDay holidays x = true := by
  simp only [isWorkingDay, List.contains_cons, Bool.and_eq_true, Bool.not_eq_true', Bool.or_eq_false_iff,
    beq_eq_false_iff_ne]
  exact and_left_comm

/-- One more holiday takes its own date from the working days, if it was one. -/
theorem workingDays_cons :
    workingDays (h :: holidays) a b = (workingDays holidays a b).erase h := by
  ext x
  rw [Finset.mem_erase, mem_workingDays, mem_workingDays, isWorkingDay_cons]
  exact and_left_comm

/-- A holiday that takes no working day up to a deadline leaves the deadline where it is. -/
theorem addWorkingDays_cons_of_notMem (hr : addWorkingDays holidays n d = some r)
    (hh : h ∉ workingDays holidays d r) : addWorkingDays (h :: holidays) n d = some r := by
  obtain ⟨hle, hworking, hcard⟩ := addWorkingDays_eq_some_iff.mp hr
  refine addWorkingDays_eq_some_iff.mpr
    ⟨hle, fun hlt => isWorkingDay_cons.mpr ⟨?_, hworking hlt⟩, ?_⟩
  · intro heq
    rw [← heq] at hh
    exact hh (mem_workingDays.mpr ⟨⟨hlt, le_refl r⟩, hworking hlt⟩)
  · rw [workingDays_cons, Finset.erase_eq_of_notMem hh, hcard]

/-- A working day made a holiday is made up for by the working day after the deadline. The count to
every date past the holiday is one less. -/
theorem addWorkingDays_cons_of_mem (hr : addWorkingDays holidays n d = some r)
    (hh : h ∈ workingDays holidays d r) :
    addWorkingDays (h :: holidays) n d = nextWorkingDay holidays r := by
  have hsucc : addWorkingDays holidays (n + 1) d = nextWorkingDay holidays r := by
    rw [addWorkingDays_succ, hr, Option.bind_some]
  obtain ⟨⟨hdh, hhr⟩, hholiday⟩ := mem_workingDays.mp hh
  have hcard (b : Date) (hrb : r ≤ b) :
      (workingDays (h :: holidays) d b).card + 1 = (workingDays holidays d b).card := by
    rw [workingDays_cons]
    exact Finset.card_erase_add_one (mem_workingDays.mpr ⟨⟨hdh, hhr.trans hrb⟩, hholiday⟩)
  rw [← hsucc]
  cases hs : addWorkingDays holidays (n + 1) d with
  | none =>
    rw [addWorkingDays_eq_none_iff, ← hcard Date.last (Date.le_latest r)] at hs
    exact addWorkingDays_eq_none_iff.mpr (Nat.lt_of_succ_lt_succ hs)
  | some s =>
    have hrs : r < s := (nextWorkingDay_eq_some_iff.mp (hsucc ▸ hs)).1.1
    obtain ⟨hle, hworking, hcount⟩ := addWorkingDays_eq_some_iff.mp hs
    rw [← hcard s hrs.le] at hcount
    refine addWorkingDays_eq_some_iff.mpr ⟨hle, fun hlt => ?_, Nat.succ.inj hcount⟩
    exact isWorkingDay_cons.mpr ⟨(hhr.trans_lt hrs).ne', hworking hlt⟩

/-- One more holiday moves a deadline only if it falls on a working day after the start and no later
than the deadline, and then to the next working day, if one is left. Where there is no deadline, there
is none with one more holiday. -/
theorem addWorkingDays_with_one_more_holiday (holidays : List Date) (n : Nat)
    (start holiday : Date) :
    addWorkingDays (holiday :: holidays) n start =
      (addWorkingDays holidays n start).bind fun deadline =>
        if 1 ≤ n ∧ start < holiday ∧ holiday ≤ deadline ∧ isWorkingDay holidays holiday = true then
          nextWorkingDay holidays deadline
        else some deadline := by
  cases hr : addWorkingDays holidays n start with
  | none =>
    rw [addWorkingDays_eq_none_iff] at hr
    rw [Option.bind_none, addWorkingDays_eq_none_iff, workingDays_cons]
    exact Finset.card_erase_le.trans_lt hr
  | some deadline =>
    rw [Option.bind_some]
    have hmoves : (1 ≤ n ∧ start < holiday ∧ holiday ≤ deadline ∧
        isWorkingDay holidays holiday = true) ↔ holiday ∈ workingDays holidays start deadline := by
      rw [mem_workingDays, and_assoc]
      refine ⟨fun hall => hall.2, fun hmem => ⟨?_, hmem⟩⟩
      rw [← (addWorkingDays_eq_some_iff.mp hr).2.2]
      exact Finset.card_pos.mpr ⟨holiday, mem_workingDays.mpr (and_assoc.mpr hmem)⟩
    by_cases hmem : holiday ∈ workingDays holidays start deadline
    · rw [if_pos (hmoves.mpr hmem), addWorkingDays_cons_of_mem hr hmem]
    · rw [if_neg (mt hmoves.mp hmem), addWorkingDays_cons_of_notMem hr hmem]

/-! ## A later start -/

/-- From two dates with no working day between them a step leads to the same date: the working days
after the one are those after the other. -/
theorem nextWorkingDay_eq_of_no_working_day (hab : a ≤ b)
    (hnone : ∀ x, a < x → x ≤ b → isWorkingDay holidays x = false) :
    nextWorkingDay holidays a = nextWorkingDay holidays b := by
  have hsame : {x | a < x ∧ isWorkingDay holidays x = true} =
      {x | b < x ∧ isWorkingDay holidays x = true} := by
    ext x
    refine and_congr_left fun hx => ⟨?_, hab.trans_lt⟩
    intro hax
    by_contra hbx
    rw [hnone x hax (le_of_not_gt hbx)] at hx
    cases hx
  ext r
  rw [nextWorkingDay_eq_some_iff, nextWorkingDay_eq_some_iff, hsame]

/-- Over a working day a deadline goes past that of the earlier start. -/
theorem lt_of_addWorkingDays (hbetween : 0 < (workingDays holidays a b).card)
    (hr : addWorkingDays holidays n a = some r) (hs : addWorkingDays holidays n b = some s) : r < s := by
  have hab : a ≤ b := (lt_of_card_workingDays hbetween).le
  obtain ⟨hbs, -, hcount⟩ := addWorkingDays_eq_some_iff.mp hs
  obtain ⟨-, -, hcount'⟩ := addWorkingDays_eq_some_iff.mp hr
  by_contra hsr
  have hfirst : (workingDays holidays a b).card + (workingDays holidays b s).card =
      (workingDays holidays a s).card := card_workingDays_add hab hbs
  have hrest : (workingDays holidays a s).card + (workingDays holidays s r).card =
      (workingDays holidays a r).card := card_workingDays_add (hab.trans hbs) (le_of_not_gt hsr)
  omega

/-- Where the calendar ends too soon, it does so from every later start. -/
theorem addWorkingDays_eq_none_of_le (hab : a ≤ b) (hnone : addWorkingDays holidays n a = none) :
    addWorkingDays holidays n b = none := by
  rw [addWorkingDays_eq_none_iff] at hnone ⊢
  have hsplit : (workingDays holidays a b).card + (workingDays holidays b Date.last).card =
      (workingDays holidays a Date.last).card := card_workingDays_add hab (Date.le_latest b)
  omega

/-- A later start never gives an earlier deadline. Without a working day after the one start and up to
the other the deadlines are the same; with one the later start has the later deadline, or none. -/
theorem addWorkingDays_from_a_later_start (holidays : List Date) (n : Nat) (start later : Date)
    (positive : 1 ≤ n) (hlater : start < later) :
    ((∀ x, start < x → x ≤ later → isWorkingDay holidays x = false) →
      addWorkingDays holidays n start = addWorkingDays holidays n later) ∧
    ((∃ x, start < x ∧ x ≤ later ∧ isWorkingDay holidays x = true) →
      (∀ deadline, addWorkingDays holidays n start = some deadline →
        addWorkingDays holidays n later = none ∨
        ∃ deadline', addWorkingDays holidays n later = some deadline' ∧ deadline < deadline') ∧
      (addWorkingDays holidays n start = none → addWorkingDays holidays n later = none)) := by
  constructor
  · intro hnone
    obtain ⟨m, rfl⟩ := Nat.exists_eq_add_of_le' positive
    simp only [addWorkingDays, nextWorkingDay_eq_of_no_working_day hlater.le hnone]
  · rintro ⟨x, hsx, hxl, hx⟩
    have hbetween : 0 < (workingDays holidays start later).card :=
      Finset.card_pos.mpr ⟨x, mem_workingDays.mpr ⟨⟨hsx, hxl⟩, hx⟩⟩
    refine ⟨?_, addWorkingDays_eq_none_of_le hlater.le⟩
    intro deadline hdeadline
    cases hlast : addWorkingDays holidays n later with
    | none => exact .inl rfl
    | some deadline' => exact .inr ⟨deadline', rfl, lt_of_addWorkingDays hbetween hdeadline hlast⟩

/-- Friday 22 December 2023 and Tuesday the 26th have only a weekend and holidays between them; Wednesday
the 27th is a working day. The latest date of the calendar is a Monday: from the Sunday before it one
working day is left. -/
theorem addWorkingDays_from_a_later_start_over_christmas :
    let friday : Date := ⟨738876, by decide, by decide⟩
    let tuesday : Date := ⟨738880, by decide, by decide⟩
    let wednesday : Date := ⟨738881, by decide, by decide⟩
    let thursday : Date := ⟨738882, by decide, by decide⟩
    let holidays : List Date := [⟨738879, by decide, by decide⟩, tuesday]
    let sunday : Date := ⟨lastDay - 1, by decide, by decide⟩
    1 ≤ 2 ∧ friday < tuesday ∧ friday < wednesday ∧ sunday < Date.last ∧
      addWorkingDays holidays 2 friday = addWorkingDays holidays 2 tuesday ∧
      (addWorkingDays holidays 2 wednesday = none ∨
        ∃ deadline, addWorkingDays holidays 2 wednesday = some deadline ∧ thursday < deadline) ∧
      addWorkingDays holidays 2 Date.last = none := by
  intro friday tuesday wednesday thursday holidays sunday
  have hnext : nextWorkingDay holidays friday = some wednesday := by decide +kernel
  have hthursday : addWorkingDays holidays 2 friday = some thursday := by decide +kernel
  have hnone : addWorkingDays holidays 2 sunday = none := by decide +kernel
  have hquiet : ∀ x, friday < x → x ≤ tuesday → isWorkingDay holidays x = false := by
    intro x hfx hxt
    by_contra hx
    have hwx := (nextWorkingDay_eq_some_iff.mp hnext).2 ⟨hfx, Bool.eq_true_of_not_eq_false hx⟩
    exact absurd (hwx.trans hxt) (by decide)
  have toTuesday := addWorkingDays_from_a_later_start holidays 2 friday tuesday (by decide) (by decide)
  have toWednesday :=
    addWorkingDays_from_a_later_start holidays 2 friday wednesday (by decide) (by decide)
  have toLast := addWorkingDays_from_a_later_start holidays 2 sunday Date.last (by decide) (by decide)
  have hstrict := toWednesday.2 ⟨wednesday, by decide, by decide, by decide⟩
  have hlast := toLast.2 ⟨Date.last, by decide, by decide, by decide⟩
  exact ⟨by decide, by decide, by decide, by decide, toTuesday.1 hquiet, hstrict.1 thursday hthursday,
    hlast.2 hnone⟩

end Workday
