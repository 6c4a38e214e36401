import Workday.Date.Text
import Workday.Proofs.Date.Civil
import Workday.Proofs.Text.Digits

/-!
# Dates that are written and read

The reader reads every date from the text that it is written as, whatever its year: within 0 to 9999
a year has just the four digits that the reader takes, and outside it has a sign, after which the
reader takes all digits.
-/

set_option autoImplicit false

namespace Workday.Date

open Workday.Text

/-- A text that does not go on with digits. -/
def EndsDigits (s : List Char) : Prop := ∀ c ∈ s.head?, c.isDigit = false

theorem endsDigits_hyphen (s : List Char) : EndsDigits ('-' :: s) := by
  intro c hc
  cases hc
  rfl

/-- Where digits end there is none among the first characters, however many are looked at. -/
theorem takeWhile_take_of_endsDigits {s : List Char} (hs : EndsDigits s) (k : Nat) :
    (s.take k).takeWhile Char.isDigit = [] := by
  cases k with
  | zero => rfl
  | succ k =>
    cases s with
    | nil => rfl
    | cons c s =>
      rw [List.take_succ_cons, List.takeWhile_cons_of_neg]
      rw [hs c rfl]
      exact Bool.false_ne_true

/-- Digits are read up to where they end, if they fit in the width. -/
theorem readNumber_append {digits s : List Char} {width : Nat} (hne : digits ≠ [])
    (hdigits : ∀ c ∈ digits, c.isDigit = true) (hwidth : digits.length ≤ width)
    (hs : EndsDigits s) : readNumber width (digits ++ s) = .ok (digitsValue digits, s) := by
  have htake : ((digits ++ s).take width).takeWhile Char.isDigit = digits := by
    rw [List.take_append, List.take_of_length_le hwidth, List.takeWhile_append_of_pos hdigits,
      takeWhile_take_of_endsDigits hs, List.append_nil]
  obtain ⟨c, cs, rfl⟩ := List.exists_cons_of_ne_nil hne
  have hcons : c :: cs ++ s = c :: (cs ++ s) := rfl
  rw [hcons] at htake ⊢
  simp only [readNumber, htake]
  rw [← hcons, List.drop_left]
  rfl

/-- A padded number is read back, if it is not wider than what is read, and the reader stops behind
it. -/
theorem readNumber_padded {k n width : Nat} {s : List Char} (hwidth : (padded k n).length ≤ width)
    (hs : EndsDigits s) : readNumber width (padded k n ++ s) = .ok (n, s) := by
  rw [readNumber_append (padded_ne_nil k n) (fun _ => isDigit_of_mem_padded) hwidth hs,
    digitsValue_padded]

/-- No digit is a blank. -/
theorem isBlank_eq_false_of_isDigit {c : Char} (h : c.isDigit = true) : isBlank c = false := by
  simp only [Char.isDigit, Bool.and_eq_true, decide_eq_true_eq] at h
  have hlow : 48 ≤ c.toNat := UInt32.le_iff_toNat_le.mp h.1
  have hhigh : c.toNat ≤ 57 := UInt32.le_iff_toNat_le.mp h.2
  simp [isBlank]
  omega

/-- Nothing is trimmed before a character that is no blank. -/
theorem trimStart_cons {c : Char} (h : isBlank c = false) (s : List Char) :
    trimStart (c :: s) = c :: s := by
  rw [trimStart, List.dropWhile_cons_of_neg]
  rw [h]
  exact Bool.false_ne_true

/-- Nothing is trimmed before a padded number. -/
theorem trimStart_padded (k n : Nat) (s : List Char) :
    trimStart (padded k n ++ s) = padded k n ++ s := by
  obtain ⟨c, cs, hcons⟩ := List.exists_cons_of_ne_nil (padded_ne_nil k n)
  have hc : c.isDigit = true := isDigit_of_mem_padded (by rw [hcons]; exact List.mem_cons_self)
  rw [hcons]
  exact trimStart_cons (isBlank_eq_false_of_isDigit hc) _

theorem readHyphen_cons (s : List Char) : readHyphen ('-' :: s) = .ok s := by
  rw [readHyphen, trimStart_cons (by decide)]
  rfl

/-- A month or a day of two digits is read back, if it is in its bounds. -/
theorem readPart_padded {n : Nat} {s : List Char} (most : Nat) (hmost : most < 100) (hn : 1 ≤ n)
    (hn' : n ≤ most) (hs : EndsDigits s) : readPart most (padded 2 n ++ s) = .ok (n, s) := by
  have hlength : (padded 2 n).length ≤ 2 := (length_padded (k := 1) (by omega)).le
  rw [readPart, trimStart_padded, readNumber_padded hlength hs]
  simp [bind, Except.bind, hn, hn']
  rfl

/-- A year is read back from its form: four digits in the years 0 to 9999, and a sign before at
least four digits in all others. The sign lets the reader take any number of digits. -/
theorem readYear_yearChars (y : Int) {s : List Char} (hs : EndsDigits s) :
    readYear (yearChars y ++ s) = .ok (y, s) := by
  have hlength : (padded 4 y.natAbs).length ≤ (padded 4 y.natAbs ++ s).length := by
    rw [List.length_append]
    exact Nat.le_add_right _ _
  have hread := readNumber_padded hlength hs
  rw [yearChars]
  split
  next hneg =>
    rw [List.cons_append, readYear, trimStart_cons (by decide)]
    have hvalue : -((y.natAbs : Nat) : Int) = y := by omega
    simp only [hread, bind, Except.bind, hvalue]
    rfl
  next hpos =>
    have hvalue : ((y.natAbs : Nat) : Int) = y := by omega
    split
    next hfour =>
      -- without a sign no more than four digits are taken for the year
      have hfits : (padded 4 y.natAbs).length ≤ 4 := (length_padded (k := 3) (by omega)).le
      have hread := readNumber_padded hfits hs
      obtain ⟨c, cs, hcons⟩ := List.exists_cons_of_ne_nil (padded_ne_nil 4 y.natAbs)
      have hc : c.isDigit = true := isDigit_of_mem_padded (by rw [hcons]; exact List.mem_cons_self)
      rw [readYear, trimStart_padded]
      rw [hcons] at hread ⊢
      simp only [List.cons_append]
      split
      next heq => cases heq; cases hc
      next heq => cases heq; cases hc
      next =>
        rw [← List.cons_append, hread]
        simp only [bind, Except.bind, hvalue]
        rfl
    next =>
      rw [List.cons_append, readYear, trimStart_cons (by decide)]
      simp only [hread, bind, Except.bind, hvalue]
      rfl

/-- Every date is read back from its format, also one whose year has a sign or more than four digits. -/
theorem read_format (d : Date) : Date.read d.format = .ok d := by
  obtain ⟨hlow, hhigh⟩ := year_bounds d
  obtain ⟨hmonth, hmonth', hday, hday'⟩ := civil_bounds d
  have hfits : yearFits d.civil.year = true := by
    simp only [yearFits, Bool.and_eq_true, decide_eq_true_eq]
    omega
  have hread := readPart_padded (s := []) 31 (by decide) hday hday' (fun c hc => nomatch hc)
  rw [List.append_nil] at hread
  rw [Date.read, format, String.toList_ofList, chars, readChars, List.append_assoc,
    List.cons_append, readYear_yearChars _ (endsDigits_hyphen _)]
  simp only [bind, Except.bind, hfits, Bool.not_true, Bool.false_eq_true, if_false,
    readHyphen_cons, readPart_padded 12 (by decide) hmonth hmonth' (endsDigits_hyphen _), hread]
  have hcivil : ofCivil? ⟨d.civil.year, d.civil.month, d.civil.day⟩ = some d := ofCivil?_civil d
  simp only [hcivil]
  rfl

end Workday.Date
