import Workday.Text.Number

/-!
# Decimal numbers held in 64 bits

A number written in decimal is held as the nearest number with 53 binary digits, and shown with the
fewest decimal digits that are read as the same number. All steps are exact.
-/

set_option autoImplicit false

namespace Workday

open Workday.Text (decimalDigits)

/-- A number held in 64 bits: a significand below 2^53 times a power of two. -/
structure Binary64 where
  significand : Nat
  exponent : Int
  deriving DecidableEq, Repr

namespace Binary64

/-- The least exponent. -/
def minExponent : Int := -1074

/-- The least significand of 53 binary digits. -/
def leastNormal : Nat := 4503599627370496

/-- The greatest exponent. -/
def maxExponent : Int := 971

/-- The natural number nearest to a quotient; a half goes to the even neighbour. -/
def roundDiv (num den : Nat) : Nat :=
  let q := num / den
  let twice := 2 * (num % den)
  if den < twice || (twice == den && q % 2 == 1) then q + 1 else q

/-- A power of a base with any exponent, as a quotient. -/
def power (base : Nat) (exponent : Int) : Nat × Nat :=
  (base.pow exponent.toNat, base.pow (-exponent).toNat)

/-- The number nearest to a quotient; none if that is too large to be held. -/
def ofQuotient? (num den : Nat) : Option Binary64 :=
  if num = 0 then some ⟨0, minExponent⟩
  else
    let guess : Int := (num.log2 : Int) - den.log2
    let (up, down) := power 2 guess
    let lead := if den * up ≤ num * down then guess else guess - 1
    let exponent := max (lead - 52) minExponent
    let (up, down) := power 2 exponent
    let rounded := roundDiv (num * down) (den * up)
    let b := if rounded = 2 * leastNormal then ⟨leastNormal, exponent + 1⟩ else ⟨rounded, exponent⟩
    if maxExponent < b.exponent then none else some b

/-- The number nearest to `digits` times a power of ten. Exponents far beyond what can be held are
not computed with. -/
def ofDecimal? (digits : Nat) (exponent : Int) : Option Binary64 :=
  let size := exponent + (decimalDigits digits).length
  if digits = 0 || size < -400 then some ⟨0, minExponent⟩
  else if 400 < size then none
  else
    let (up, down) := power 10 exponent
    ofQuotient? (digits * up) down

/-- The multiple of a power of ten that is read as the number and is nearest to it, if there is
one. Numbers up to half a step away are read as the number; where the step below is half as wide,
up to half of that; those just half a step away only if the significand is even. -/
def onGrid? (b : Binary64) (tens : Int) : Option Nat :=
  let below := if b.significand = leastNormal && minExponent < b.exponent then 1 else 2
  let (twoUp, twoDown) := power 2 (b.exponent - 2)
  let (tenUp, tenDown) := power 10 tens
  let grid := tenUp * twoDown
  let value := 4 * b.significand * twoUp * tenDown
  let low := (4 * b.significand - below) * twoUp * tenDown
  let high := (4 * b.significand + 2) * twoUp * tenDown
  let isRead := fun (n : Nat) =>
    0 < n && (if b.significand % 2 == 0 then low ≤ n * grid && n * grid ≤ high
      else low < n * grid && n * grid < high)
  let n := value / grid
  match isRead n, isRead (n + 1) with
  | true, true => some (roundDiv value grid)
  | true, false => some n
  | false, true => some (n + 1)
  | false, false => none

/-- The fewest digits that are read as the number, and the power of ten they are multiplied by. -/
def shortest (b : Binary64) : Nat × Int :=
  if b.significand = 0 then (0, 0) else
  ((List.range 750).findSome? fun (i : Nat) =>
    let tens : Int := 350 - (i : Int)
    (b.onGrid? tens).map (·, tens)).getD (0, 0)

/-- The number with the fewest digits, without an exponent, and at least one digit on both sides of
the point. -/
def format (b : Binary64) : String :=
  let (digits, tens) := b.shortest
  let all := decimalDigits digits
  if 0 ≤ tens then String.ofList (all ++ List.replicate tens.toNat '0' ++ ['.', '0'])
  else
    let places := tens.natAbs
    let all := List.replicate (places + 1 - all.length) '0' ++ all
    let whole := all.length - places
    String.ofList (all.take whole ++ '.' :: all.drop whole)

end Binary64

end Workday
