import Mathlib.Data.List.Induction

/-!
# The latest item of a history

An item of a history is the latest of its kind if nothing after it is of that kind. What a history
says about a state is told by the latest item that touches the state, and one more item either
takes its place or leaves it.
-/

set_option autoImplicit false

namespace Workday

variable {ι : Type} {touches : ι → Prop} {history : List ι} {item next : ι}

/-- The item stands in the history, and no item after it touches the state. -/
def IsLatest (touches : ι → Prop) (history : List ι) (item : ι) : Prop :=
  ∃ earlier later, history = earlier ++ item :: later ∧ ∀ x ∈ later, ¬ touches x

/-- The latest item is one of the history. -/
theorem IsLatest.mem (h : IsLatest touches history item) : item ∈ history := by
  obtain ⟨earlier, later, rfl, _⟩ := h
  exact List.mem_append_right earlier List.mem_cons_self

/-- Something earlier does not change which item is the latest. -/
theorem IsLatest.cons (h : IsLatest touches history item) :
    IsLatest touches (next :: history) item := by
  obtain ⟨earlier, later, rfl, hlater⟩ := h
  exact ⟨next :: earlier, later, rfl, hlater⟩

theorem not_isLatest_nil : ¬ IsLatest touches [] item := by
  rintro ⟨earlier, later, heq, _⟩
  cases earlier <;> cases heq

/-- One more item is the latest, or leaves the latest as it was if it touches nothing. -/
theorem isLatest_concat :
    IsLatest touches (history ++ [next]) item ↔
      item = next ∨ (¬ touches next ∧ IsLatest touches history item) := by
  constructor
  · rintro ⟨earlier, later, heq, hlater⟩
    rcases later.eq_nil_or_concat with rfl | ⟨later, x, rfl⟩
    · obtain ⟨_, hnext⟩ := List.append_inj' heq rfl
      exact Or.inl (List.singleton_inj.mp hnext).symm
    · rw [List.concat_eq_append] at heq hlater
      rw [← List.cons_append, ← List.append_assoc] at heq
      obtain ⟨hhistory, hnext⟩ := List.append_inj' heq rfl
      obtain rfl := List.singleton_inj.mp hnext
      refine Or.inr ⟨hlater next (by simp), earlier, later, hhistory, fun y hy => ?_⟩
      exact hlater y (List.mem_append_left _ hy)
  · rintro (rfl | ⟨hnext, earlier, later, rfl, hlater⟩)
    · exact ⟨history, [], rfl, by simp⟩
    · refine ⟨earlier, later ++ [next], by simp, fun x hx => ?_⟩
      rcases List.mem_append.mp hx with hx | hx
      · exact hlater x hx
      · exact List.mem_singleton.mp hx ▸ hnext

/-- What is told by the latest item is told by one more item, or as before if that touches
nothing. -/
theorem exists_isLatest_concat {P : ι → Prop} :
    (∃ x, IsLatest touches (history ++ [next]) x ∧ P x) ↔
      P next ∨ (¬ touches next ∧ ∃ x, IsLatest touches history x ∧ P x) := by
  simp only [isLatest_concat]
  constructor
  · rintro ⟨x, rfl | ⟨hquiet, hlatest⟩, hx⟩
    · exact Or.inl hx
    · exact Or.inr ⟨hquiet, x, hlatest, hx⟩
  · rintro (hnext | ⟨hquiet, x, hlatest, hx⟩)
    · exact ⟨next, Or.inl rfl, hnext⟩
    · exact ⟨x, Or.inr ⟨hquiet, hlatest⟩, hx⟩

/-- There is one latest item, if items of the kind that touches the state are asked for. Of the others
several may stand behind all that touches it. -/
theorem IsLatest.eq {other : ι} (h : IsLatest touches history item)
    (hother : IsLatest touches history other) (hitem : touches item) (htouches : touches other) :
    item = other := by
  induction history using List.reverseRecOn with
  | nil => exact absurd h not_isLatest_nil
  | append_singleton history next ih =>
    rcases isLatest_concat.mp h with rfl | ⟨hquiet, hold⟩
    · rcases isLatest_concat.mp hother with rfl | ⟨hquiet, _⟩
      · rfl
      · exact absurd hitem hquiet
    · rcases isLatest_concat.mp hother with rfl | ⟨_, hother⟩
      · exact absurd htouches hquiet
      · exact ih hold hother

end Workday
