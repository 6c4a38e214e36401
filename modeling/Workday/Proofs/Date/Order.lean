import Mathlib.Order.Interval.Finset.Basic
import Workday.Date

/-!
# Dates in order

Dates are ordered by their day numbers, and between any two of them lie finitely many. The next day
is the least date after a date, and a walk from day to day reaches the latest date, which is how
everything about such a walk is proved. The instances are opened with `Date.Chronology`.
-/

set_option autoImplicit false

namespace Workday
namespace Date

namespace Chronology

scoped instance : LinearOrder Date where
  le_refl a := Int.le_refl a.day
  le_trans _ _ _ := Int.le_trans
  lt_iff_le_not_ge a b := by
    simp only [lt_iff, le_iff]
    omega
  le_antisymm _ _ hab hba := ext (Int.le_antisymm hab hba)
  le_total a b := Int.le_total a.day b.day
  toDecidableEq := inferInstance
  toDecidableLE a b := inferInstanceAs (Decidable (a ≤ b))
  toDecidableLT a b := inferInstanceAs (Decidable (a < b))

/-- The date of a number is the one that has it for its day number. -/
theorem ofDay?_eq_some_iff {n : Int} {d : Date} : ofDay? n = some d ↔ d.day = n := by
  constructor
  · intro h
    unfold ofDay? at h
    split at h
    next =>
      cases h
      rfl
    next => cases h
  · rintro rfl
    exact ofDay?_day d

/-- The dates from one date to another, with both. -/
def span (a b : Date) : Finset Date :=
  ((List.range (b.day - a.day + 1).toNat).filterMap fun (n : Nat) => ofDay? (a.day + n)).toFinset

/-- The dates between two others, which are counted in. -/
theorem mem_span (a b x : Date) : x ∈ span a b ↔ a ≤ x ∧ x ≤ b := by
  simp only [span, List.mem_toFinset, List.mem_filterMap, List.mem_range, ofDay?_eq_some_iff,
    le_iff]
  constructor
  · rintro ⟨n, hn, hx⟩
    omega
  · rintro ⟨hax, hxb⟩
    exact ⟨(x.day - a.day).toNat, by omega, by omega⟩

scoped instance : LocallyFiniteOrder Date := .ofIcc Date span mem_span

end Chronology

open scoped Chronology

/-- No date is after the last one. -/
theorem le_latest (d : Date) : d ≤ last := d.le_last

/-- The next date is the one that has the next day number. -/
theorem next?_eq_some_iff {d e : Date} : d.next? = some e ↔ e.day = d.day + 1 := by
  constructor
  · intro h
    exact (daysLeft_of_next? h).1
  · intro h
    have hle := e.le_last
    have hlt : d.day < lastDay := by omega
    simp only [next?, dif_pos hlt, Option.some.injEq]
    exact ext h.symm

/-- The days after a date are the next day and the days after that. -/
theorem lt_iff_of_next? {d e : Date} (h : d.next? = some e) (x : Date) : d < x ↔ e ≤ x := by
  have hday := next?_eq_some_iff.mp h
  simp only [lt_iff, le_iff]
  omega

/-- A walk from day to day ends at the latest date: what holds there, and of a date whenever it
holds of the next day, holds of every date. -/
theorem walk_induction {motive : Date → Prop} (atLast : motive last)
    (step : ∀ d e, d.next? = some e → motive e → motive d) (d : Date) : motive d := by
  induction hleft : d.daysLeft generalizing d with
  | zero =>
    have hday : d.day = lastDay := by
      have := d.le_last
      unfold daysLeft at hleft
      omega
    have hd : d = last := ext hday
    exact hd ▸ atLast
  | succ n ih =>
    cases hnext : d.next? with
    | none => exact next?_eq_none_iff.mp hnext ▸ atLast
    | some e =>
      have hdays := (daysLeft_of_next? hnext).2
      exact step d e hnext (ih e (by omega))

end Date
end Workday
