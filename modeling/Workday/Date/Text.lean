import Workday.Date
import Workday.Text
import Workday.Text.Number

/-!
# Dates as text

A date is written `YYYY-MM-DD`, a year outside 0 to 9999 with a sign. The reader takes more: blanks
around the numbers and the hyphens, one-digit months and days, a sign before any year. Only an
unsigned year is held to four digits. `Date.read` gives the date or the first fault.
-/

set_option autoImplicit false

namespace Workday.Date

open Workday.Text

/-- Why a text is no date. -/
inductive Fault where
  /-- A character other than the one the format asks for. -/
  | invalid
  /-- The text ends within the date. -/
  | tooShort
  /-- A number that no date has at its place, or a day the calendar does not cover. -/
  | outOfRange
  /-- Something follows the date. -/
  | trailing
  deriving DecidableEq, Repr

/-- The wording of a fault. -/
def Fault.message : Fault → String
  | invalid => "input contains invalid characters"
  | tooShort => "premature end of input"
  | outOfRange => "input is out of range"
  | trailing => "trailing input"

/-- Reads at least one and at most `width` digits. -/
def readNumber (width : Nat) (s : List Char) : Except Fault (Nat × List Char) :=
  match s with
  | [] => .error .tooShort
  | c :: r =>
    let digits := ((c :: r).take width).takeWhile Char.isDigit
    if digits.isEmpty then .error .invalid
    else .ok (digitsValue digits, (c :: r).drop digits.length)

/-- Reads a year: four digits at most without a sign, any number of digits after one. -/
def readYear (s : List Char) : Except Fault (Int × List Char) :=
  match trimStart s with
  | '-' :: r => do
    let (n, r) ← readNumber r.length r
    return (-(n : Int), r)
  | '+' :: r => do
    let (n, r) ← readNumber r.length r
    return ((n : Int), r)
  | r => do
    let (n, r) ← readNumber 4 r
    return ((n : Int), r)

/-- Reads the hyphen between two numbers. -/
def readHyphen (s : List Char) : Except Fault (List Char) :=
  match trimStart s with
  | [] => .error .tooShort
  | '-' :: r => .ok r
  | _ => .error .invalid

/-- Reads a number of one or two digits from 1 to `most`. -/
def readPart (most : Nat) (s : List Char) : Except Fault (Nat × List Char) := do
  let (n, r) ← readNumber 2 (trimStart s)
  if 1 ≤ n && n ≤ most then return (n, r) else throw .outOfRange

/-- Years are held to 32 bits as they are read, and to the calendar once all has been read. -/
def yearFits (y : Int) : Bool := -2147483648 ≤ y && y ≤ 2147483647

/-- Reads a date from all of a text. -/
def readChars (s : List Char) : Except Fault Date := do
  let (year, r) ← readYear s
  if !yearFits year then throw .outOfRange
  let r ← readHyphen r
  let (month, r) ← readPart 12 r
  let r ← readHyphen r
  let (day, r) ← readPart 31 r
  if !(trimStart r).isEmpty then throw .trailing
  match ofCivil? ⟨year, month, day⟩ with
  | some date => return date
  | none => throw .outOfRange

/-- Reads a date from all of a text. -/
def read (s : String) : Except Fault Date := readChars s.toList

/-- The digits of a year, signed outside 0 to 9999: four digits at least, and after a `+` five. -/
def yearChars (y : Int) : List Char :=
  if y < 0 then '-' :: padded 4 y.natAbs
  else if y ≤ 9999 then padded 4 y.natAbs
  else '+' :: padded 4 y.natAbs

/-- The date as `YYYY-MM-DD`. -/
def chars (d : Date) : List Char :=
  yearChars d.civil.year ++ '-' :: padded 2 d.civil.month ++ '-' :: padded 2 d.civil.day

/-- The date as `YYYY-MM-DD`. -/
def format (d : Date) : String := String.ofList d.chars

instance : ToString Date := ⟨format⟩

end Workday.Date
