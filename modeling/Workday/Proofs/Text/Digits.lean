import Workday.Text.Number
import Mathlib.Algebra.Group.Nat.Defs

/-!
# Digits that are written and read

The digits of a number have its value, with and without zeros in front, and fill no more than the
width that the number needs.
-/

set_option autoImplicit false

namespace Workday.Text

theorem isDigit_digitChar {n : Nat} (h : n < 10) : (digitChar n).isDigit = true := by
  have hall : ∀ n < 10, (digitChar n).isDigit = true := by decide
  exact hall n h

/-- The digit of a number below 10 has that number for its value. -/
theorem digitValue_digitChar {n : Nat} (h : n < 10) : digitValue (digitChar n) = n := by
  have hall : ∀ n < 10, digitValue (digitChar n) = n := by decide
  exact hall n h

/-- Another digit at the end counts once, and all before it ten times as much as without. -/
theorem digitsValue_append_singleton (s : List Char) (c : Char) :
    digitsValue (s ++ [c]) = digitsValue s * 10 + digitValue c :=
  List.foldl_append

/-- Zeros in front do not count. -/
theorem digitsValue_zeros_append (k : Nat) (s : List Char) :
    digitsValue (List.replicate k '0' ++ s) = digitsValue s := by
  induction k with
  | zero => rfl
  | succ k ih => exact ih

/-- Every number has a digit; zero has one, too. -/
theorem decimalDigits_ne_nil (n : Nat) : decimalDigits n ≠ [] := by
  rw [decimalDigits]
  split
  · exact List.cons_ne_nil _ _
  · exact List.append_ne_nil_of_right_ne_nil _ (List.cons_ne_nil _ _)

/-- The digits of a number are digits of numbers below 10. The induction is on the number, from
which a digit is split off at the end. -/
theorem exists_of_mem_decimalDigits {n : Nat} {c : Char} (h : c ∈ decimalDigits n) :
    ∃ k < 10, c = digitChar k := by
  induction n using decimalDigits.induct with
  | case1 n hlt =>
    rw [decimalDigits, if_pos hlt, List.mem_singleton] at h
    exact ⟨n, hlt, h⟩
  | case2 n hge ih =>
    rw [decimalDigits, if_neg hge, List.mem_append, List.mem_singleton] at h
    rcases h with hfront | hlast
    · exact ih hfront
    · exact ⟨n % 10, Nat.mod_lt n (by decide), hlast⟩

/-- A number is written in digits and nothing else. -/
theorem isDigit_of_mem_decimalDigits {n : Nat} {c : Char} (h : c ∈ decimalDigits n) :
    c.isDigit = true := by
  obtain ⟨k, hk, rfl⟩ := exists_of_mem_decimalDigits h
  exact isDigit_digitChar hk

/-- The digits of a number have the number for their value. -/
theorem digitsValue_decimalDigits (n : Nat) : digitsValue (decimalDigits n) = n := by
  induction n using decimalDigits.induct with
  | case1 n hlt =>
    rw [decimalDigits, if_pos hlt]
    exact (Nat.zero_add _).trans (digitValue_digitChar hlt)
  | case2 n hge ih =>
    rw [decimalDigits, if_neg hge, digitsValue_append_singleton, ih,
      digitValue_digitChar (Nat.mod_lt n (by decide))]
    omega

/-- A number below a power of ten has no more digits than the power has zeros. -/
theorem length_decimalDigits_le {n : Nat} (k : Nat) (h : n < 10 ^ (k + 1)) :
    (decimalDigits n).length ≤ k + 1 := by
  induction k generalizing n with
  | zero =>
    rw [decimalDigits, if_pos (by simpa using h)]
    exact Nat.le_refl 1
  | succ k ih =>
    rw [decimalDigits]
    split
    · exact Nat.succ_le_succ (Nat.zero_le _)
    · have hdiv : n / 10 < 10 ^ (k + 1) := by
        rw [Nat.pow_succ] at h
        exact Nat.div_lt_of_lt_mul (by omega)
      rw [List.length_append, List.length_singleton]
      exact Nat.succ_le_succ (ih hdiv)

/-- Only zero is written with a zero in front. -/
theorem eq_zero_of_head?_decimalDigits {n : Nat} (h : (decimalDigits n).head? = some '0') : n = 0 := by
  induction n using decimalDigits.induct with
  | case1 n hlt =>
    rw [decimalDigits, if_pos hlt] at h
    have hall : ∀ n < 10, digitChar n = '0' → n = 0 := by decide
    exact hall n hlt (Option.some.inj h)
  | case2 n hge ih =>
    obtain ⟨c, s, hs⟩ := List.exists_cons_of_ne_nil (decimalDigits_ne_nil (n / 10))
    rw [decimalDigits, if_neg hge, hs] at h
    have hdiv := ih (hs ▸ h)
    omega

/-- The value of a digit is below 10. -/
theorem digitValue_lt {c : Char} (h : c.isDigit = true) : digitValue c < 10 := by
  have hrange : 48 ≤ c.toNat ∧ c.toNat ≤ 57 := by simpa [Char.isDigit, UInt32.le_iff_toNat_le] using h
  have hzero : '0'.toNat = 48 := rfl
  rw [digitValue, hzero]
  omega

/-- A decimal digit has the same value as a hexadecimal one. -/
theorem hexDigitValue?_of_isDigit {c : Char} (h : c.isDigit = true) :
    hexDigitValue? c = some (digitValue c) := if_pos h

variable {width n : Nat}

theorem padded_ne_nil (width n : Nat) : padded width n ≠ [] :=
  List.append_ne_nil_of_right_ne_nil _ (decimalDigits_ne_nil n)

/-- A padded number is written in digits and nothing else. -/
theorem isDigit_of_mem_padded {c : Char} (h : c ∈ padded width n) : c.isDigit = true := by
  rcases List.mem_append.mp h with hzero | hdigit
  · rw [List.eq_of_mem_replicate hzero]
    rfl
  · exact isDigit_of_mem_decimalDigits hdigit

theorem digitsValue_padded : digitsValue (padded width n) = n := by
  rw [padded, digitsValue_zeros_append, digitsValue_decimalDigits]

/-- A number that fits into a width is padded to just that width. -/
theorem length_padded {k : Nat} (h : n < 10 ^ (k + 1)) : (padded (k + 1) n).length = k + 1 := by
  have hle := length_decimalDigits_le k h
  rw [padded, List.length_append, List.length_replicate]
  omega

end Workday.Text
