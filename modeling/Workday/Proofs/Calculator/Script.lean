import Mathlib.Data.ENat.Lattice
import Workday.Service

/-!
# Scripted sources

What a script gives from a fetch on: its entries that are left, and the last of them again and
again. `failuresFrom` counts the fetches that fail before one succeeds; the script may never come to
that.
-/

set_option autoImplicit false

namespace Workday

/-- The entries that a script has left from a fetch on. The last is given again and again. -/
def entriesFrom (script : List Scripted) (f : Nat) : List Scripted :=
  script.drop (min f (script.length - 1))

/-- How many fetches fail one after the other from a fetch on, before one succeeds. If all entries
that are left fail there is no end to it. -/
def failuresFrom (script : List Scripted) (f : Nat) : ℕ∞ :=
  match (entriesFrom script f).findIdx? fun x => x.result.isOk with
  | some k => k
  | none => ⊤

section Script

variable {script : List Scripted} {f k : Nat}

/-- Every fetch moves on to the next entry. -/
theorem scriptSource_source (script : List Scripted) (n : Nat) :
    (scriptSource script n).2 = n + 1 := by
  unfold scriptSource
  split <;> rfl

/-- A fetch is given the entry that stands at it, and past the end the last one. -/
theorem scriptSource_result (script : List Scripted) (f k : Nat) :
    (scriptSource script (f + k)).1.result =
      match (entriesFrom script f)[min k ((entriesFrom script f).length - 1)]? with
      | some x => x.result
      | none => .error (.malformed "empty script") := by
  have hindex : min (f + k) (script.length - 1) =
      min f (script.length - 1) + min k ((entriesFrom script f).length - 1) := by
    rw [entriesFrom, List.length_drop]
    omega
  rw [entriesFrom, List.getElem?_drop, ← entriesFrom, ← hindex, scriptSource]
  cases script[min (f + k) (script.length - 1)]? <;> rfl

/-- An entry that is left is what its fetch is given. -/
theorem scriptSource_result_of_lt (h : k < (entriesFrom script f).length) :
    (scriptSource script (f + k)).1.result = (entriesFrom script f)[k].result := by
  rw [scriptSource_result, Nat.min_eq_left (Nat.le_sub_one_of_lt h), List.getElem?_eq_getElem h]

/-- A result that is no success is an error. -/
theorem eq_error_of_isOk_eq_false {result : Except FetchFailure Calendar}
    (h : result.isOk = false) : ∃ e, result = .error e := by
  cases result with
  | ok calendar => cases h
  | error e => exact ⟨e, rfl⟩

/-- The fetches before the first success fail. In a script without a success all fetches do, since the
last entry is given again and again. -/
theorem result_of_lt_failuresFrom (h : (k : ℕ∞) < failuresFrom script f) :
    ∃ e, (scriptSource script (f + k)).1.result = .error e := by
  unfold failuresFrom at h
  cases hfind : (entriesFrom script f).findIdx? fun x => x.result.isOk with
  | some first =>
    rw [hfind] at h
    have hlt : k < first := Nat.cast_lt.mp h
    obtain ⟨hfirst, _, hbefore⟩ := List.findIdx?_eq_some_iff_getElem.mp hfind
    rw [scriptSource_result_of_lt (Nat.lt_trans hlt hfirst)]
    exact eq_error_of_isOk_eq_false (Bool.not_eq_true _ ▸ hbefore k hlt)
  -- no entry that is left succeeds, so neither does the last of them when it is given again
  | none =>
    have hall := List.findIdx?_eq_none_iff.mp hfind
    rw [scriptSource_result]
    cases hentry : (entriesFrom script f)[min k ((entriesFrom script f).length - 1)]? with
    | some x => exact eq_error_of_isOk_eq_false (hall x (List.mem_of_getElem? hentry))
    | none => exact ⟨_, rfl⟩

/-- And then one succeeds, if there are that many failures and no more: endless failures are no number.
-/
theorem result_of_failuresFrom_eq (h : failuresFrom script f = k) :
    ∃ calendar, (scriptSource script (f + k)).1.result = .ok calendar := by
  unfold failuresFrom at h
  cases hfind : (entriesFrom script f).findIdx? fun x => x.result.isOk with
  | some first =>
    rw [hfind] at h
    obtain rfl : first = k := Nat.cast_inj.mp h
    obtain ⟨hfirst, hok, _⟩ := List.findIdx?_eq_some_iff_getElem.mp hfind
    rw [scriptSource_result_of_lt hfirst]
    cases hresult : (entriesFrom script f)[first].result with
    | ok calendar => exact ⟨calendar, rfl⟩
    | error e =>
      rw [hresult] at hok
      cases hok
  | none =>
    rw [hfind] at h
    exact absurd h.symm (ENat.natCast_ne_top k)

end Script

end Workday
