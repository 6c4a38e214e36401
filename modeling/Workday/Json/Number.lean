import Workday.Decimal
import Workday.Json.Cursor

/-!
# Numbers

A number is read as an integer of 64 bits where it is one, else as the product or quotient of what
its digits and its exponent give by themselves. A number that no one wants only has to be written
like one.
-/

set_option autoImplicit false

namespace Workday.Json

open Workday.Text (decimalDigits digitValue)

/-- A number. -/
inductive Number where
  | integer (value : Int)
  | real (negative : Bool) (magnitude : Binary64)
  deriving DecidableEq, Repr

/-- The text of a magnitude: without an exponent where the point is not far from the digits. -/
def realText (b : Binary64) : String :=
  let (n, tens) := b.shortest
  let digits := decimalDigits n
  let point := tens + digits.length
  if n = 0 || (-5 < point && point ≤ 16) then b.format
  else
    let fraction := digits.drop 1
    String.ofList (digits.take 1 ++ (if fraction.isEmpty then [] else '.' :: fraction))
      ++ "e" ++ toString (point - 1)

/-- A number as messages name it. -/
def Number.describe : Number → String
  | integer n => "integer \x60" ++ toString n ++ "\x60"
  | real negative magnitude =>
    "floating point \x60" ++ (if negative then "-" else "") ++ realText magnitude ++ "\x60"

/-- A magnitude times a quotient. -/
def scale? (b : Binary64) (up down : Nat) : Option Binary64 :=
  let (twoUp, twoDown) := Binary64.power 2 b.exponent
  Binary64.ofQuotient? (b.significand * twoUp * up) (twoDown * down)

/-- A magnitude times or over the power of ten nearest to the exact one. -/
def scaleTens? (b : Binary64) (tens : Int) : Option Binary64 :=
  (Binary64.ofDecimal? 1 tens.natAbs).bind fun factor =>
    let (up, down) := Binary64.power 2 factor.exponent
    if 0 ≤ tens then scale? b (factor.significand * up) down
    else scale? b down (factor.significand * up)

/-- The greatest power of ten that is multiplied with at once. -/
def maxTens : Nat := 308

/-- A significand times a power of ten; none if that is too large. -/
def scaled? : Nat → Binary64 → Int → Option Binary64
  | 0, b, _ => some b
  | fuel + 1, b, tens =>
    if tens.natAbs ≤ maxTens then scaleTens? b tens
    else if b.significand = 0 then some b
    else if 0 ≤ tens then none
    else (scaleTens? b (-maxTens)).bind fun b => scaled? fuel b (tens + maxTens)

/-- The greatest magnitude of a negative integer. -/
def maxNegative : Nat := 9223372036854775808

/-- The greatest significand. -/
def maxSignificand : Nat := 18446744073709551615

/-- Adds digits to a significand as long as it does not grow too large, and counts them. -/
def addDigits : Nat → List Char → Nat × Nat
  | n, [] => (n, 0)
  | n, d :: r =>
    let more := n * 10 + digitValue d
    if maxSignificand < more then (n, 0)
    else
      let (m, count) := addDigits more r
      (m, count + 1)

/-- Reads digits. -/
def Cursor.takeDigits (c : Cursor) : List Char × Cursor :=
  ((c.rest.map byteChar).takeWhile Char.isDigit, c.skipWhile Char.isDigit)

/-- Reads the digits before the point: one at least, and more only after one that is no zero. -/
def Cursor.takeWhole (c : Cursor) (atEnd : Problem) : Except Fault (List Char × Cursor) :=
  match c.peek? with
  | none => c.fail atEnd
  | some x =>
    if !x.isDigit then c.skip.fail .badNumber
    else if x == '0' then
      if c.skip.peek?.any Char.isDigit then c.skip.failNext .badNumber else .ok ([x], c.skip)
    else .ok c.takeDigits

/-- Reads the point and the digits after it, if there is a point. -/
def Cursor.takeFraction (c : Cursor) (atEnd : Problem) : Except Fault (List Char × Cursor) :=
  if c.peek? != some '.' then .ok ([], c)
  else
    let (digits, after) := c.skip.takeDigits
    if digits.isEmpty then after.failNext (if after.rest.isEmpty then atEnd else .badNumber)
    else .ok (digits, after)

/-- The sign and the digits of an exponent. -/
structure Exponent where
  negative : Bool
  digits : List Char

/-- Whether an exponent comes next. -/
def Cursor.atExponent (c : Cursor) : Bool := c.peek? == some 'e' || c.peek? == some 'E'

/-- Reads an exponent from its letter on. -/
def Cursor.takeExponent (c : Cursor) (atEnd : Problem) : Except Fault (Exponent × Cursor) :=
  let c := c.skip
  let negative := c.peek? == some '-'
  let c := if negative || c.peek? == some '+' then c.skip else c
  match c.peek? with
  | none => c.fail atEnd
  | some x =>
    if !x.isDigit then c.skip.fail .badNumber
    else
      let (digits, c) := c.takeDigits
      .ok (⟨negative, digits⟩, c)

/-- The greatest exponent that is computed with. -/
def maxExponent : Nat := 2147483647

/-- Adds digits to an exponent; gives how many fit. -/
def exponentFits : Nat → List Char → Nat × Nat
  | n, [] => (n, 0)
  | n, d :: r =>
    let more := n * 10 + digitValue d
    if maxExponent < more then (n, 0)
    else
      let (m, count) := exponentFits more r
      (m, count + 1)

/-- A number with a point or an exponent, or one that is too large for an integer. -/
def realOf (negative : Bool) (significand : Nat) (tens : Int) (c : Cursor) : Except Fault (Number × Cursor) :=
  match (Binary64.ofQuotient? significand 1).bind fun b => scaled? (tens.natAbs + 1) b tens with
  | some magnitude => .ok (.real negative magnitude, c)
  | none => c.fail .numberTooLarge

/-- Reads a number with an exponent, whose digits are known. -/
def Cursor.takeScaled (c : Cursor) (negative : Bool) (significand : Nat) (tens : Int) :
    Except Fault (Number × Cursor) := do
  if !c.atExponent then realOf negative significand tens c
  else
    let (e, after) ← c.takeExponent .endInValue
    let (n, count) := exponentFits 0 e.digits
    if count < e.digits.length then
      if significand ≠ 0 && !e.negative then
        let sign := if c.skip.peek?.any Char.isDigit then c.skip else c.skip.skip
        ((List.range (count + 1)).foldl (fun c _ => c.skip) sign).fail .numberTooLarge
      else return (.real negative ⟨0, Binary64.minExponent⟩, after)
    else realOf negative significand (if e.negative then tens - n else tens + n) after

/-- Reads a number after its sign. -/
def Cursor.takeNumber (c : Cursor) (negative : Bool) : Except Fault (Number × Cursor) := do
  let (whole, c) ← c.takeWhole .endInValue
  let (significand, kept) := addDigits 0 whole
  let isInteger := kept == whole.length && c.peek? != some '.' && !c.atExponent
  if isInteger && !negative then return (.integer significand, c)
  else if isInteger && significand ≠ 0 && significand ≤ maxNegative then
    return (.integer (-significand), c)
  else
    let tens : Int := (whole.length - kept : Nat)
    let (fraction, c) ← c.takeFraction .endInValue
    let (significand, kept) := addDigits significand fraction
    c.takeScaled negative significand (tens - kept)

/-- Passes over a number after its sign. -/
def Cursor.skipNumber (c : Cursor) : Except Fault Cursor := do
  let (_, c) ← c.takeWhole .badNumber
  let (_, c) ← c.takeFraction .badNumber
  if c.atExponent then
    let (_, c) ← c.takeExponent .badNumber
    return c
  else return c

end Workday.Json
