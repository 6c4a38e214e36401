import Workday.Text
import Mathlib.Data.List.DropRight
import Mathlib.Data.List.Infix

/-!
# Blanks at the ends of a text

A text is cut in three by its blanks: those in front, those behind, and what is left. The cut is the
only one for which what is left has no blank at all.
-/

set_option autoImplicit false

namespace Workday.Text

variable {c : Char} {s text before after front back : List Char}

/-- Every character is blank. -/
def IsBlankText (s : List Char) : Prop := ∀ c ∈ s, isBlank c = true

/-- What is left between the blanks of a text. -/
theorem exists_trim (s : List Char) :
    ∃ before after, s = before ++ trim s ++ after ∧ IsBlankText before ∧ IsBlankText after := by
  refine ⟨s.takeWhile isBlank, (trimStart s).rtakeWhile isBlank, ?_, ?_, ?_⟩
  · show s = s.takeWhile isBlank ++ (trimStart s).rdropWhile isBlank ++
      (trimStart s).rtakeWhile isBlank
    rw [List.append_assoc, List.rdropWhile_append_rtakeWhile]
    exact List.takeWhile_append_dropWhile.symm
  · exact fun c hc => List.mem_takeWhile_imp hc
  · exact fun c hc => List.mem_takeWhile_imp (List.mem_reverse.mp hc)

/-- From a text without blanks nothing is dropped. -/
theorem dropWhile_isBlank_eq_self (h : ∀ c ∈ s, isBlank c = false) : s.dropWhile isBlank = s := by
  cases s with
  | nil => rfl
  | cons c s =>
    rw [List.dropWhile_cons_of_neg]
    rw [h c List.mem_cons_self]
    exact Bool.false_ne_true

/-- Blanks around a text without blanks are dropped. -/
theorem trim_append (hbefore : IsBlankText before) (hafter : IsBlankText after)
    (htext : ∀ c ∈ text, isBlank c = false) : trim (before ++ text ++ after) = text := by
  have hend : trimEnd (text ++ after) = text := by
    have hreverse : ∀ c ∈ text.reverse, isBlank c = false := fun c hc =>
      htext c (List.mem_reverse.mp hc)
    rw [trimEnd, List.reverse_append,
      List.dropWhile_append_of_pos fun c hc => hafter c (List.mem_reverse.mp hc),
      dropWhile_isBlank_eq_self hreverse, List.reverse_reverse]
  rw [trim, List.append_assoc, trimStart, List.dropWhile_append_of_pos hbefore]
  cases text with
  | nil =>
    rw [List.nil_append, List.dropWhile_eq_nil_iff.mpr hafter]
    rfl
  | cons c text =>
    rwa [List.cons_append, List.dropWhile_cons_of_neg]
    rw [htext c List.mem_cons_self]
    exact Bool.false_ne_true

/-- A character of a text that is not of the part between two blank ones is among the blanks in front
or among those behind. -/
theorem isBlankText_of_not_mem (h : before ++ c :: after = front ++ text ++ back)
    (hfront : IsBlankText front) (hback : IsBlankText back) (hc : c ∉ text) :
    IsBlankText (before ++ [c]) ∨ IsBlankText (c :: after) := by
  have hsplit : before ++ [c] ++ after = front ++ (text ++ back) := by
    rw [← List.append_assoc, ← h, List.append_assoc]
    rfl
  rcases List.prefix_or_prefix_of_prefix (List.prefix_append (before ++ [c]) after)
    (hsplit ▸ List.prefix_append front (text ++ back)) with hin | hfront'
  · exact Or.inl fun x hx => hfront x (hin.subset hx)
  rcases List.suffix_or_suffix_of_suffix (List.suffix_append before (c :: after))
    (h ▸ List.suffix_append (front ++ text) back) with hin | hback'
  · exact Or.inr fun x hx => hback x (hin.subset hx)
  rcases List.prefix_concat_iff.mp hfront' with hall | ⟨x, rfl⟩
  · exact Or.inl (hall ▸ hfront)
  rcases List.suffix_cons_iff.mp hback' with hall | ⟨y, rfl⟩
  · exact Or.inr (hall ▸ hback)
  have htext : x ++ c :: y = text := by
    rw [List.append_assoc, List.append_assoc, List.append_right_inj] at h
    rw [← List.append_left_inj back, List.append_assoc, List.cons_append]
    exact h
  exact absurd (htext ▸ List.mem_append_right x List.mem_cons_self) hc

end Workday.Text
