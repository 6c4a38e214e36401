/-!
# Numbers in texts

Numbers written in ASCII digits: the value of a run of digits, the digits of a number with zeros in
front up to a width, and integers with an optional sign that have to lie within bounds. An integer is
read from the left, and the first fault that is met is reported.
-/

set_option autoImplicit false

namespace Workday.Text

/-! ## Digits -/

/-- The value of an ASCII digit. -/
def digitValue (c : Char) : Nat := c.toNat - '0'.toNat

/-- The digit of a value below ten. -/
def digitChar (n : Nat) : Char := Char.ofNat ('0'.toNat + n)

/-- The value of a run of digits, the most significant first. -/
def digitsValue (s : List Char) : Nat :=
  s.foldl (fun n c => n * 10 + digitValue c) 0

/-- The digits of a number, the most significant first; zero has one digit. -/
def decimalDigits (n : Nat) : List Char :=
  if n < 10 then [digitChar n] else decimalDigits (n / 10) ++ [digitChar (n % 10)]
termination_by n

/-- The digits of a number, with zeros in front up to a width. -/
def padded (width n : Nat) : List Char :=
  let digits := decimalDigits n
  List.replicate (width - digits.length) '0' ++ digits

/-- The value of a hexadecimal digit. -/
def hexDigitValue? (c : Char) : Option Nat :=
  if c.isDigit then some (digitValue c)
  else if 'a' ≤ c && c ≤ 'f' then some (c.toNat - 'a'.toNat + 10)
  else if 'A' ≤ c && c ≤ 'F' then some (c.toNat - 'A'.toNat + 10)
  else none

/-! ## Integers within bounds -/

/-- Why a text is no integer within the bounds. -/
inductive IntegerFault where
  | empty
  | invalidDigit
  | tooLarge
  | tooSmall
  deriving DecidableEq, Repr

/-- The wording of a fault. -/
def IntegerFault.message : IntegerFault → String
  | empty => "cannot parse integer from empty string"
  | invalidDigit => "invalid digit found in string"
  | tooLarge => "number too large to fit in target type"
  | tooSmall => "number too small to fit in target type"

/-- Reads digits after a number that has been read, up to the largest number allowed. -/
def readDigits (most : Nat) (excess : IntegerFault) : Nat → List Char → Except IntegerFault Nat
  | n, [] => .ok n
  | n, c :: cs =>
    if !c.isDigit then .error .invalidDigit
    else if most < n * 10 + digitValue c then .error excess
    else readDigits most excess (n * 10 + digitValue c) cs

/-- Reads the digits of a magnitude, of which there is at least one. -/
def readMagnitude (most : Nat) (excess : IntegerFault) : List Char → Except IntegerFault Nat
  | [] => .error .invalidDigit
  | cs => readDigits most excess 0 cs

/-- Reads an integer that is at least `-below` and at most `most`. -/
def readInteger (below most : Nat) : List Char → Except IntegerFault Int
  | [] => .error .empty
  | '-' :: cs => (readMagnitude below .tooSmall cs).map fun n => -(n : Int)
  | '+' :: cs => (readMagnitude most .tooLarge cs).map fun n => (n : Int)
  | cs => (readMagnitude most .tooLarge cs).map fun n => (n : Int)

end Workday.Text
