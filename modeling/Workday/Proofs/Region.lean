import Workday.Proofs.Text.Blank
import Workday.Proofs.Text.LowerCase
import Workday.Region
import Mathlib.Data.List.Forall2

/-!
# The spellings of a region

The texts that name a region: its published name, each letter in either case and each hyphen possibly
an underscore, with blanks around it. The reader lowers the text in the full Unicode mapping and looks
the result up among the names. No spelling is gained that way: the names have no `k`, which is the one
letter of ASCII that a character past ASCII is lowered to.
-/

set_option autoImplicit false

namespace Workday.Region

open Workday.Text

variable {region : Region} {c want : Char} {s : String} {text : List Char}

/-! ## Spellings -/

/-- The characters that may stand for one of a name. -/
def StandsFor (c want : Char) : Prop :=
  c = want ∨ c = want.toUpper ∨ (want = '-' ∧ c = '_')

instance (c want : Char) : Decidable (StandsFor c want) :=
  inferInstanceAs (Decidable (c = want ∨ c = want.toUpper ∨ (want = '-' ∧ c = '_')))

/-- The text is the name of the region, character by character. -/
def Spells (text : List Char) (region : Region) : Prop :=
  List.Forall₂ StandsFor text region.name.toList

instance (text : List Char) (region : Region) : Decidable (Spells text region) :=
  inferInstanceAs (Decidable (List.Forall₂ StandsFor text region.name.toList))

/-! ## The names -/

/-- A name is written in lower case, in ASCII, without an underscore and without a `k`. -/
structure IsNameChar (want : Char) : Prop where
  lower : want.toLower = want
  ascii : want.toNat < 0x80
  ne_underscore : want ≠ '_'
  ne_k : want ≠ 'k'

/-- The names of regions are made of small letters and hyphens. -/
theorem isNameChar_of_mem (h : want ∈ region.name.toList) : IsNameChar want := by
  have hall : (region.name.toList.all fun c =>
      c.toLower == c && decide (c.toNat < 0x80) && c != '_' && c != 'k') = true := by
    cases region <;> decide +kernel
  have hwant := List.all_eq_true.mp hall want h
  simp only [Bool.and_eq_true, beq_iff_eq, decide_eq_true_eq, bne_iff_ne] at hwant
  exact ⟨hwant.1.1.1, hwant.1.1.2, hwant.1.2, hwant.2⟩

/-- What stands for a character of a name is ASCII and no blank. -/
theorem plain_of_standsFor (h : want ∈ region.name.toList) (hc : StandsFor c want) :
    c.toNat < 0x80 ∧ isBlank c = false := by
  have hall : (region.name.toList.all fun want => [want, want.toUpper, '_'].all fun c =>
      decide (c.toNat < 0x80) && !isBlank c) = true := by
    cases region <;> decide +kernel
  have hmem : c ∈ [want, want.toUpper, '_'] := by
    rcases hc with rfl | rfl | ⟨-, rfl⟩ <;> simp
  have hplain := List.all_eq_true.mp (List.all_eq_true.mp hall want h) c hmem
  simpa only [Bool.and_eq_true, decide_eq_true_eq, Bool.not_eq_true'] using hplain

/-- Regions have different names. -/
theorem name_injective {region other : Region} (h : region.name.toList = other.name.toList) :
    region = other := by
  cases region <;> cases other <;> first | rfl | exact absurd h (by decide +kernel)

/-! ## Letter case -/

/-- Lower case moves the capitals of ASCII by 32 and leaves all other characters where they are. -/
theorem toNat_toLower (c : Char) :
    c.toLower.toNat = if 65 ≤ c.toNat ∧ c.toNat ≤ 90 then c.toNat + 32 else c.toNat := by
  unfold Char.toLower
  simp only [Char.toNat, ge_iff_le, UInt32.le_iff_toNat_le]
  split
  · rename_i h
    have hcapital : 65 ≤ c.val.toNat ∧ c.val.toNat ≤ 90 := h
    rw [if_pos hcapital]
    show (c.val + 32).toNat = c.val.toNat + 32
    rw [UInt32.toNat_add]
    exact Nat.mod_eq_of_lt (show c.val.toNat + 32 < 4294967296 by omega)
  · rename_i h
    have hother : ¬ (65 ≤ c.val.toNat ∧ c.val.toNat ≤ 90) := h
    rw [if_neg hother]

/-- Upper case moves the small letters of ASCII back by 32. -/
theorem toNat_toUpper (c : Char) :
    c.toUpper.toNat = if 97 ≤ c.toNat ∧ c.toNat ≤ 122 then c.toNat - 32 else c.toNat := by
  unfold Char.toUpper
  simp only [Char.toNat, UInt32.le_iff_toNat_le]
  split
  · rename_i h
    have hsmall : 97 ≤ c.val.toNat ∧ c.val.toNat ≤ 122 := h
    rw [if_pos hsmall]
    show (c.val + 4294967264).toNat = c.val.toNat - 32
    rw [UInt32.toNat_add]
    show (c.val.toNat + 4294967264) % 4294967296 = c.val.toNat - 32
    omega
  · rename_i h
    have hother : ¬ (97 ≤ c.val.toNat ∧ c.val.toNat ≤ 122) := h
    rw [if_neg hother]

/-- What is lowered to a character that is in lower case already: the character itself and, if it is a
letter of ASCII, its capital. -/
theorem toLower_eq_iff (h : want.toLower = want) : c.toLower = want ↔ c = want ∨ c = want.toUpper := by
  have hwant := toNat_toLower want
  rw [h] at hwant
  rw [← Char.toNat_inj, ← Char.toNat_inj, ← Char.toNat_inj, toNat_toLower, toNat_toUpper]
  split at hwant <;> split <;> split <;> omega

/-- A character stands for one of a name exactly if lower case, with a hyphen for a blank or a low
line, makes it that character. -/
theorem hyphenated_toLower_eq_iff (h : IsNameChar want) :
    hyphenated c.toLower = want ↔ StandsFor c want := by
  rw [StandsFor, ← or_assoc, ← toLower_eq_iff h.lower, hyphenated]
  by_cases hc : c = '_'
  · subst hc
    rw [if_pos (show '_'.toLower = '_' by decide)]
    constructor
    · rintro rfl
      exact Or.inr ⟨rfl, rfl⟩
    · rintro (hsame | ⟨rfl, -⟩)
      · exact absurd hsame.symm h.ne_underscore
      · rfl
  · have hlower : c.toLower ≠ '_' := by
      rw [ne_eq, toLower_eq_iff (by decide)]
      exact fun h => hc (or_self_iff.mp h)
    rw [if_neg hlower]
    exact (or_iff_left fun h => hc h.2).symm

/-- A spelling is what is lowered and hyphenated to the name, letter by letter. -/
theorem forall₂_standsFor_iff {names : List Char} (h : ∀ want ∈ names, IsNameChar want) :
    List.Forall₂ StandsFor text names ↔ text.map (fun c => hyphenated c.toLower) = names := by
  induction names generalizing text with
  | nil => rw [List.forall₂_nil_right_iff, List.map_eq_nil_iff]
  | cons want names ih =>
    obtain ⟨hwant, hnames⟩ := List.forall_mem_cons.mp h
    cases text with
    | nil => simp
    | cons c text =>
      rw [List.forall₂_cons, List.map_cons, List.cons.injEq, hyphenated_toLower_eq_iff hwant,
        ih hnames]

/-- What spells a name is made of ASCII characters, and none of them is a blank. -/
theorem plain_of_spells (h : Spells text region) (hc : c ∈ text) :
    c.toNat < 0x80 ∧ isBlank c = false := by
  have hname := (forall₂_standsFor_iff fun _ => isNameChar_of_mem).mp h
  have hmem : hyphenated c.toLower ∈ region.name.toList := hname ▸ List.mem_map_of_mem hc
  exact plain_of_standsFor hmem ((hyphenated_toLower_eq_iff (isNameChar_of_mem hmem)).mp rfl)

/-- The full lower case of a text is the name of a region only for the spellings of the name. A
character past ASCII leaves one in its lower case unless it becomes a `k`, and no name has a `k`. -/
theorem lowerCase_eq_name_iff :
    (lowerCase text).map hyphenated = region.name.toList ↔ Spells text region := by
  have hletters : (∀ c ∈ text, c.toNat < 0x80) →
      (lowerCase text).map hyphenated = text.map fun c => hyphenated c.toLower := by
    intro hascii
    rw [lowerCase, lowerFrom_of_ascii hascii, List.map_map]
    rfl
  constructor
  · intro h
    have hascii : ∀ c ∈ text, c.toNat < 0x80 := by
      refine ascii_of_lowerFrom [] fun x hx => ?_
      have hmem : hyphenated x ∈ region.name.toList := h ▸ List.mem_map_of_mem hx
      have hname := isNameChar_of_mem hmem
      unfold hyphenated at hname
      split at hname
      · next hx => exact hx ▸ ⟨by decide, by decide⟩
      · exact ⟨hname.ascii, hname.ne_k⟩
    exact (forall₂_standsFor_iff fun _ => isNameChar_of_mem).mpr (hletters hascii ▸ h)
  · intro h
    rw [hletters fun c hc => (plain_of_spells h hc).1]
    exact (forall₂_standsFor_iff fun _ => isNameChar_of_mem).mp h

/-! ## Reading -/

theorem mem_all (region : Region) : region ∈ all := by
  cases region <;> decide

/-- A text is that of a region exactly if it spells the name, with blanks around it or without. No two
regions have one name, so the first that is found is the only one. -/
theorem ofString?_eq_some_iff : ofString? s = some region ↔ Spells (trim s.toList) region := by
  rw [← lowerCase_eq_name_iff, ofString?]
  constructor
  · intro h
    have hname := List.find?_some h
    exact (beq_iff_eq.mp hname).symm
  · intro h
    cases hfound : all.find? fun region =>
        region.name.toList == (lowerCase (trim s.toList)).map hyphenated with
    | none =>
      have hnone := List.find?_eq_none.mp hfound region (mem_all region)
      exact absurd (beq_iff_eq.mpr h.symm) hnone
    | some other =>
      have hname := List.find?_some hfound
      exact congrArg some (name_injective ((beq_iff_eq.mp hname).trans h))

/-- A text is read as a region exactly if it spells its name, with blanks around it or without. -/
theorem read_eq_ok_iff : read s = .ok region ↔ Spells (trim s.toList) region := by
  rw [← ofString?_eq_some_iff, read]
  cases ofString? s <;> simp

/-- The texts that name a region, with what is around the spelling. -/
theorem spells_trim_iff : Spells (trim s.toList) region ↔
    ∃ before text after, s.toList = before ++ text ++ after ∧ IsBlankText before ∧
      IsBlankText after ∧ Spells text region := by
  constructor
  · intro h
    obtain ⟨before, after, hs, hbefore, hafter⟩ := exists_trim s.toList
    exact ⟨before, trim s.toList, after, hs, hbefore, hafter, h⟩
  · rintro ⟨before, text, after, hs, hbefore, hafter, h⟩
    rwa [hs, trim_append hbefore hafter fun c hc => (plain_of_spells h hc).2]

/-- Region names are read in exactly one language. A text is read as a region if and only if, without
the blanks around it, it spells the name of the region. In a text that is read, a character past ASCII
belongs to the blanks in front or to the blanks behind. A refusal reports the text unchanged. -/
theorem read_iff_spelled (s : String) :
    (∀ region, read s = .ok region ↔
      ∃ before text after, s.toList = before ++ text ++ after ∧ IsBlankText before ∧
        IsBlankText after ∧ Spells text region) ∧
    (∀ region before c after, read s = .ok region → s.toList = before ++ c :: after →
      0x80 ≤ c.toNat → IsBlankText (before ++ [c]) ∨ IsBlankText (c :: after)) ∧
    ∀ u, read s = .error u → u.text = s ∧ u.message = "unknown region '" ++ s ++
      "', expected one of: england-and-wales, scotland, northern-ireland" := by
  refine ⟨fun region => read_eq_ok_iff.trans spells_trim_iff, ?_, fun u h => ?_⟩
  · intro region before c after h hs hc
    obtain ⟨front, text, back, hparts, hfront, hback, hspells⟩ :=
      spells_trim_iff.mp (read_eq_ok_iff.mp h)
    refine isBlankText_of_not_mem (hs.symm.trans hparts) hfront hback fun hmem => ?_
    exact absurd (plain_of_spells hspells hmem).1 (Nat.not_lt.mpr hc)
  · unfold read at h
    cases hfound : ofString? s with
    | some region => rw [hfound] at h; cases h
    | none =>
      rw [hfound] at h
      cases h
      exact ⟨rfl, rfl⟩

/-- A name in capitals between a no-break space and a line end is read, the no-break space is in front
of it, and a name with a long s is refused as it is. -/
theorem read_iff_spelled_of_scotland :
    read "\u00A0SCOTLAND\n" = .ok .scotland ∧
      (IsBlankText ['\u00A0'] ∨ IsBlankText ('\u00A0' :: "SCOTLAND\n".toList)) ∧
      ∃ u, read "ſcotland" = .error u ∧ u.text = "ſcotland" := by
  obtain ⟨hread, hpast, -⟩ := read_iff_spelled "\u00A0SCOTLAND\n"
  have hblank : IsBlankText ['\u00A0'] ∧ IsBlankText ['\n'] := by
    constructor <;> exact fun c hc => List.mem_singleton.mp hc ▸ by decide
  have hok : read "\u00A0SCOTLAND\n" = .ok .scotland :=
    (hread .scotland).mpr ⟨['\u00A0'], "SCOTLAND".toList, ['\n'], by decide +kernel, hblank.1, hblank.2,
      by decide +kernel⟩
  have hfront := hpast .scotland [] '\u00A0' "SCOTLAND\n".toList hok (by decide +kernel) (by decide)
  have herror : read "ſcotland" = .error ⟨"ſcotland"⟩ := by decide +kernel
  exact ⟨hok, hfront, _, herror, ((read_iff_spelled "ſcotland").2.2 _ herror).1⟩

end Workday.Region
