import Mathlib.Data.List.Basic
import Workday.Text.LowerCase

/-!
# Lower case and ASCII

What the lower case of a text says of the text. A character past ASCII leaves a character past ASCII
in the lower case, with one exception: the Kelvin sign becomes the letter `k`. A text whose lower case
is ASCII and has no `k` was therefore ASCII to begin with, and of an ASCII text every letter is
lowered for itself.
-/

set_option autoImplicit false

namespace Workday.Text

variable {c : Char} {s before after : List Char}

/-! ## Runs of letters -/

/-- The run of the Kelvin sign alone. -/
def CaseRun.kelvin : CaseRun := ⟨0x212A, 0x212A, 0x6B, 1⟩

/-- Whether the lower cases are characters past ASCII. -/
def CaseRun.isPastAscii (run : CaseRun) : Bool :=
  0x80 ≤ run.lower && run.first ≤ run.last
    && (run.lower + (run.last - run.first) < 0xD800
      || (0xE000 ≤ run.lower && run.lower + (run.last - run.first) < 0x110000))

/-- No run but that of the Kelvin sign leads into ASCII. -/
theorem caseRuns_pastAscii : (caseRuns.all fun run => run == .kelvin || run.isPastAscii) = true := by
  decide +kernel

/-- A run changes the numbers between its bounds, and all of them by the same distance. -/
theorem CaseRun.eq_of_lower? {run : CaseRun} {n m : Nat} (h : run.lower? n = some m) :
    run.first ≤ n ∧ n ≤ run.last ∧ m = run.lower + (n - run.first) := by
  unfold CaseRun.lower? at h
  split at h
  · next hin => exact ⟨hin.1, hin.2.1, (Option.some.inj h).symm⟩
  · cases h

/-- The sign of the kelvin becomes the letter k. -/
theorem CaseRun.lower?_kelvin {n m : Nat} (h : CaseRun.kelvin.lower? n = some m) : m = 0x6B := by
  obtain ⟨-, hlast, hm⟩ := eq_of_lower? h
  simp only [kelvin] at hlast hm
  omega

/-- What a run past ASCII changes becomes no ASCII character. -/
theorem CaseRun.le_toNat_of_isPastAscii {run : CaseRun} {n m : Nat} (hrun : run.isPastAscii = true)
    (h : run.lower? n = some m) : 0x80 ≤ (Char.ofNat m).toNat := by
  obtain ⟨hfirst, hlast, rfl⟩ := eq_of_lower? h
  simp only [isPastAscii, Bool.and_eq_true, Bool.or_eq_true, decide_eq_true_eq] at hrun
  have hvalid : (run.lower + (n - run.first)).isValidChar := by
    rcases hrun.2 with hlow | hhigh
    · exact Or.inl (by omega)
    · exact Or.inr ⟨by omega, by omega⟩
  have hvalue : (Char.ofNat (run.lower + (n - run.first))).toNat = run.lower + (n - run.first) := by
    rw [Char.ofNat, dif_pos hvalid]
    rfl
  omega

/-! ## Characters -/

/-- An ASCII character becomes one character, by its ASCII case. -/
theorem lowerChar_of_ascii (h : c.toNat < 0x80) : lowerChar c = [c.toLower] :=
  if_pos h

/-- A character past ASCII leaves one in its lower case, unless it becomes a `k`. The dotted capital
leaves its dot, and of the runs only the Kelvin sign leads to a letter of ASCII. -/
theorem lowerChar_of_pastAscii (h : 0x80 ≤ c.toNat) :
    lowerChar c = ['k'] ∨ ∃ x ∈ lowerChar c, 0x80 ≤ x.toNat := by
  unfold lowerChar
  rw [if_neg (Nat.not_lt.mpr h)]
  by_cases hdotted : c = 'İ'
  · rw [if_pos hdotted]
    exact Or.inr ⟨'\u0307', by simp, by decide⟩
  rw [if_neg hdotted]
  cases hfound : caseRuns.findSome? fun run => run.lower? c.toNat with
  | none => exact Or.inr ⟨c, List.mem_singleton_self c, h⟩
  | some n =>
    obtain ⟨run, hmem, hlower⟩ := List.exists_of_findSome?_eq_some hfound
    rcases (Bool.or_eq_true _ _).mp (List.all_eq_true.mp caseRuns_pastAscii run hmem) with hk | hpast
    · rw [beq_iff_eq.mp hk] at hlower
      rw [CaseRun.lower?_kelvin hlower]
      exact Or.inl rfl
    · exact Or.inr ⟨_, List.mem_singleton_self _, CaseRun.le_toNat_of_isPastAscii hpast hlower⟩

/-- The Kelvin sign is the exception. -/
example : lowerChar '\u212A' = ['k'] := by decide +kernel

/-- Neither form of the small sigma is an ASCII character. -/
theorem le_toNat_lowerSigma (before after : List Char) : 0x80 ≤ (lowerSigma before after).toNat := by
  unfold lowerSigma
  split <;> decide

/-! ## Texts -/

/-- Of an ASCII text every letter is lowered for itself. -/
theorem lowerFrom_of_ascii (h : ∀ c ∈ s, c.toNat < 0x80) (before : List Char) :
    lowerFrom before s = s.map Char.toLower := by
  induction s generalizing before with
  | nil => rfl
  | cons c s ih =>
    obtain ⟨hc, hs⟩ := List.forall_mem_cons.mp h
    have hsigma : c ≠ 'Σ' := by
      rintro rfl
      exact absurd hc (by decide)
    rw [lowerFrom, if_neg hsigma, lowerChar_of_ascii hc, ih hs (c :: before)]
    rfl

/-- A text whose lower case is ASCII and has no `k` is ASCII. A capital sigma becomes one of two small
ones, and neither is ASCII. -/
theorem ascii_of_lowerFrom (before : List Char)
    (h : ∀ x ∈ lowerFrom before s, x.toNat < 0x80 ∧ x ≠ 'k') : ∀ c ∈ s, c.toNat < 0x80 := by
  induction s generalizing before with
  | nil => exact fun c hc => absurd hc List.not_mem_nil
  | cons c s ih =>
    rw [lowerFrom] at h
    have hrest := ih (c :: before) fun x hx => h x (List.mem_append_right _ hx)
    have hhead := fun x hx => h x (List.mem_append_left _ hx)
    refine List.forall_mem_cons.mpr ⟨Nat.lt_of_not_le fun hpast => ?_, hrest⟩
    by_cases hsigma : c = 'Σ'
    · rw [if_pos hsigma] at hhead
      exact absurd (hhead _ (List.mem_singleton_self _)).1
        (Nat.not_lt.mpr (le_toNat_lowerSigma before s))
    · rw [if_neg hsigma] at hhead
      rcases lowerChar_of_pastAscii hpast with hk | ⟨x, hx, hle⟩
      · rw [hk] at hhead
        exact (hhead 'k' (List.mem_singleton_self _)).2 rfl
      · exact absurd (hhead x hx).1 (Nat.not_lt.mpr hle)

end Workday.Text
