import Mathlib.Data.List.DropRight
import Workday.Client

/-!
# What is read of a text that goes on

Controls and spaces are dropped at the ends of a URL's text, and slashes at the end of a base URL before
the feed's path is added. Both go by the end of the text, which is no end any more once something
follows.
-/

set_option autoImplicit false

namespace Workday.Url

/-- Whether a character is dropped at the ends of a text. -/
def isControl (c : Char) : Bool := c.toNat ≤ 0x20

/-- Whether a character is read wherever it stands between the ends. -/
def isKept (c : Char) : Bool := c != '\t' && c != '\n' && c != '\r'

/-- What is read of the start of a text if something follows it. -/
def opening (s : List Char) : List Char := (s.dropWhile isControl).filter isKept

/-- What is read at the end of a text only if something follows it. -/
def blankEnd (s : List Char) : List Char := (s.rtakeWhile isControl).filter isKept

/-- What is significant of a text: it loses the controls at both ends, and the tabs and line breaks
in between. -/
theorem significant_eq (s : String) :
    significant s = ((s.toList.dropWhile isControl).rdropWhile isControl).filter isKept := rfl

theorem isControl_of_mem_blankEnd {s : List Char} {c : Char} (h : c ∈ blankEnd s) :
    isControl c = true :=
  List.mem_rtakeWhile_imp (List.mem_filter.mp h).1

/-- Where a text does not end in a control, what follows it begins as it does. -/
theorem dropWhile_append_of_head {s t : List Char} (h : ∀ c ∈ t.head?, isControl c = false) :
    (s ++ t).dropWhile isControl = s.dropWhile isControl ++ t := by
  induction s with
  | nil =>
    cases t with
    | nil => rfl
    | cons c t =>
      have hc := h c rfl
      simp only [List.nil_append, List.dropWhile_nil, List.dropWhile_cons, hc, Bool.false_eq_true,
        if_false]
  | cons c s ih =>
    simp only [List.cons_append, List.dropWhile_cons]
    split
    · exact ih
    · rfl

/-- What is dropped at the start does not change how a text ends, if there is more to the text than what
is dropped. -/
theorem rtakeWhile_dropWhile {s : List Char} (h : s.dropWhile isControl ≠ []) :
    (s.dropWhile isControl).rtakeWhile isControl = s.rtakeWhile isControl := by
  induction s with
  | nil => rfl
  | cons c s ih =>
    rw [List.dropWhile_cons] at h ⊢
    split at h
    · rename_i hc
      rw [if_pos hc, ih h]
      -- the first character is a control, and one that is none comes after it
      have hstop : ¬ ∀ x ∈ s.reverse, isControl x = true := by
        intro hall
        exact h (List.dropWhile_eq_nil_iff.mpr fun x hx => hall x (List.mem_reverse.mpr hx))
      unfold List.rtakeWhile
      rw [List.reverse_cons, List.takeWhile_append]
      have hlength : (s.reverse.takeWhile isControl).length ≠ s.reverse.length := by
        intro heq
        have hself := (List.takeWhile_prefix isControl (l := s.reverse)).eq_of_length heq
        exact hstop (List.takeWhile_eq_self_iff.mp hself)
      rw [if_neg hlength]
    · rename_i hc
      rw [if_neg hc]

/-- Characters that are all read go on after the opening of the text before them. -/
theorem opening_append {s t : List Char} (hhead : ∀ c ∈ t.head?, isControl c = false)
    (hkept : ∀ c ∈ t, isKept c = true) : opening (s ++ t) = opening s ++ t := by
  rw [opening, dropWhile_append_of_head hhead, List.filter_append, List.filter_eq_self.mpr hkept]
  rfl

/-- A text and its end are what is read of it if something follows. -/
theorem significant_append_blankEnd {s : String} (h : significant s ≠ []) :
    significant s ++ blankEnd s.toList = opening s.toList := by
  have hsome : s.toList.dropWhile isControl ≠ [] := by
    intro hnil
    rw [significant_eq, hnil] at h
    exact h rfl
  rw [significant_eq, blankEnd, ← rtakeWhile_dropWhile hsome, ← List.filter_append,
    List.rdropWhile_append_rtakeWhile]
  rfl

/-- A text that goes on with characters that are all read. -/
theorem significant_append {s t : String}
    (hhead : ∀ c ∈ t.toList.head?, isControl c = false) (hne : t.toList ≠ [])
    (hlast : ∀ c ∈ t.toList.getLast?, isControl c = false)
    (hkept : ∀ c ∈ t.toList, isKept c = true) :
    significant (s ++ t) = opening s.toList ++ t.toList := by
  have hend : (s.toList.dropWhile isControl ++ t.toList).rdropWhile isControl =
      s.toList.dropWhile isControl ++ t.toList := by
    refine List.rdropWhile_eq_self_iff.mpr fun hl => ?_
    rw [List.getLast_append_of_ne_nil hl hne, hlast _ (List.getLast?_eq_some_getLast hne)]
    exact Bool.false_ne_true
  rw [significant_eq, String.toList_append, dropWhile_append_of_head hhead, hend,
    List.filter_append, List.filter_eq_self.mpr hkept]
  rfl

end Workday.Url

namespace Workday.Client

open Url (significant opening blankEnd isControl)

/-- How many slashes a text ends with. -/
def endSlashes (s : String) : Nat := (s.toList.rtakeWhile (· == '/')).length

/-- A text without its slashes has lost those at its end, and no others. -/
theorem toList_withoutSlashes (s : String) :
    (withoutSlashes s).toList = s.toList.rdropWhile (· == '/') :=
  String.toList_ofList

/-- With its slashes put back a text is what it was. -/
theorem withoutSlashes_append_endSlashes (s : String) :
    (withoutSlashes s).toList ++ List.replicate (endSlashes s) '/' = s.toList := by
  have hslashes : s.toList.rtakeWhile (· == '/') = List.replicate (endSlashes s) '/' :=
    List.eq_replicate_iff.mpr ⟨rfl, fun c hc => by simpa using List.mem_rtakeWhile_imp hc⟩
  rw [toList_withoutSlashes, ← hslashes, List.rdropWhile_append_rtakeWhile]

/-- What is read of a text, with the blanks at its end, is what is read of it without slashes and then
the slashes. -/
theorem significant_append_blankEnd_eq {s : String} (h : significant s ≠ []) :
    significant s ++ blankEnd s.toList =
      opening (withoutSlashes s).toList ++ List.replicate (endSlashes s) '/' := by
  have hslash : ∀ c ∈ List.replicate (endSlashes s) '/', c = '/' :=
    fun c hc => List.eq_of_mem_replicate hc
  rw [Url.significant_append_blankEnd h, ← Url.opening_append, withoutSlashes_append_endSlashes]
  · intro c hc
    rw [hslash c (List.mem_of_mem_head? hc)]
    decide
  · intro c hc
    rw [hslash c hc]
    decide

/-- A text that ends with slashes does not end with blanks. -/
theorem blankEnd_eq_nil_or (s : String) : blankEnd s.toList = [] ∨ endSlashes s = 0 := by
  cases hslashes : endSlashes s with
  | zero => exact Or.inr rfl
  | succ n =>
    refine Or.inl ?_
    have hs := withoutSlashes_append_endSlashes s
    rw [hslashes, List.replicate_succ', ← List.append_assoc] at hs
    rw [blankEnd, ← hs, List.rtakeWhile_concat_neg _ _ _ (by decide)]
    rfl

end Workday.Client
