import Workday.Decimal
import Workday.Text.Printable
import Workday.Yaml.EventStream

/-!
# What scalars mean

A plain scalar is null, a truth value, an integer, a number with a point or an exponent, or else a
text. Integers with superfluous zeros in front are texts. A scalar with one of the standard tags is
held to that tag.
-/

set_option autoImplicit false

namespace Workday.Yaml

open Workday.Text (shown digitsValue hexDigitValue?)

/-- A number with a point or an exponent. -/
inductive Floating where
  | finite (negative : Bool) (magnitude : Binary64)
  | infinite (negative : Bool)
  | notANumber
  deriving DecidableEq, Repr

/-- The text of a number. -/
def Floating.format : Floating → String
  | finite negative magnitude => (if negative then "-" else "") ++ magnitude.format
  | infinite negative => if negative then "-inf" else "inf"
  | notANumber => "NaN"

/-- What a node means; of a collection, only what kind it is. -/
inductive Meaning where
  | null
  | truth (value : Bool)
  | integer (value : Int)
  | real (value : Floating)
  | text (value : String)
  | sequence
  | mapping
  deriving DecidableEq, Repr

/-- How a meaning is named in messages; integers of more than 64 bits are marked. -/
def Meaning.describe : Meaning → String
  | null => "unit value"
  | truth value => "boolean \x60" ++ toString value ++ "\x60"
  | integer n =>
    let wide :=
      if 18446744073709551615 < n then " as u128"
      else if n < -9223372036854775808 then " as i128"
      else ""
    "integer \x60" ++ toString n ++ "\x60" ++ wide
  | real value => "floating point \x60" ++ value.format ++ "\x60"
  | text value => "string " ++ shown value
  | sequence => "sequence"
  | mapping => "map"

/-- Whether a text is null. -/
def isNull (s : String) : Bool := s == "null" || s == "Null" || s == "NULL" || s == "~"

/-- The truth value that a text is. -/
def truth? : String → Option Bool
  | "true" | "True" | "TRUE" => some true
  | "false" | "False" | "FALSE" => some false
  | _ => none

/-- A text without a sign in front. -/
def withoutSign : List Char → List Char
  | '+' :: r | '-' :: r => r
  | s => s

/-- Whether a text is digits with superfluous zeros in front. -/
def hasSpareZero (s : List Char) : Bool :=
  match withoutSign s with
  | '0' :: r => !r.isEmpty && r.all Char.isDigit
  | _ => false

/-- The value of digits in a base, of which there must be one. -/
def digitsIn? (base : Nat) (s : List Char) : Option Nat :=
  if s.isEmpty then none
  else s.foldlM (fun n c => do
    let v ← hexDigitValue? c
    if v < base then some (n * base + v) else none) 0

/-- The natural number that a text without a sign is: hexadecimal, octal or binary after its mark,
else decimal. -/
def magnitude? : List Char → Option Nat
  | '0' :: 'x' :: r => digitsIn? 16 r
  | '0' :: 'o' :: r => digitsIn? 8 r
  | '0' :: 'b' :: r => digitsIn? 2 r
  | s => digitsIn? 10 s

/-- The natural number that a text is, which a plus sign may come before. -/
def natural? (s : List Char) : Option Nat :=
  if hasSpareZero s then none
  else match s with
    | '+' :: r => magnitude? r
    | s => magnitude? s

/-- The greatest natural number of 128 bits. -/
def mostNatural128 : Nat := 340282366920938463463374607431768211455

/-- The greatest magnitude of a negative integer of 128 bits. -/
def mostNegative128 : Nat := 170141183460469231731687303715884105728

/-- The integer of at most 128 bits that a text is. -/
def integer? (s : List Char) : Option Int :=
  match s with
  | '-' :: r =>
    if hasSpareZero s then none
    else ((magnitude? r).filter (· ≤ mostNegative128)).map fun n => -(n : Int)
  | s => ((natural? s).filter (· ≤ mostNatural128)).map Int.ofNat

/-- The exponent at the end of a number, zero if there is none. -/
def exponent? (s : List Char) : Option Int :=
  match s with
  | [] => some 0
  | e :: r =>
    if e != 'e' && e != 'E' then none
    else
      let digits := withoutSign r
      if digits.isEmpty || !digits.all Char.isDigit then none
      else some (if r.head? == some '-' then -(digitsValue digits : Int) else digitsValue digits)

/-- The magnitude of a decimal number with a point or an exponent. -/
def decimal? (s : List Char) : Option Binary64 :=
  let whole := s.takeWhile Char.isDigit
  let r := s.drop whole.length
  let fraction := match r with
    | '.' :: r => r.takeWhile Char.isDigit
    | _ => []
  let r := match r with
    | '.' :: r => r.drop fraction.length
    | r => r
  if whole.isEmpty && fraction.isEmpty then none
  else (exponent? r).bind fun exponent =>
    Binary64.ofDecimal? (digitsValue (whole ++ fraction)) (exponent - fraction.length)

/-- The number that a text is, which a sign may come before. -/
def real? (s : String) : Option Floating :=
  match s with
  | ".inf" | ".Inf" | ".INF" | "+.inf" | "+.Inf" | "+.INF" => some (.infinite false)
  | "-.inf" | "-.Inf" | "-.INF" => some (.infinite true)
  | ".nan" | ".NaN" | ".NAN" => some .notANumber
  | s =>
    match s.toList with
    | '-' :: r => (decimal? r).map (.finite true)
    | '+' :: r => (decimal? r).map (.finite false)
    | r => (decimal? r).map (.finite false)

/-- What a plain scalar means. -/
def plainMeaning (s : String) : Meaning :=
  if s.isEmpty || isNull s then .null
  else match truth? s, integer? s.toList with
    | some value, _ => .truth value
    | none, some n => .integer n
    | none, none =>
      match (if hasSpareZero s.toList then none else real? s) with
      | some value => .real value
      | none => .text s

/-- The start of the standard tags. -/
def standardTag (name : String) : String := "tag:yaml.org,2002:" ++ name

/-- Why a scalar means nothing: its tag asks for something that its text is not. -/
structure Mistagged where
  text : String
  /-- What the tag asks for. -/
  wanted : String
  deriving DecidableEq, Repr

/-- What a scalar means. -/
def meaning (tag : Option String) (scalar : Scalar) : Except Mistagged Meaning :=
  let held := fun (wanted : String) (found : Option Meaning) =>
    match found with
    | some m => Except.ok m
    | none => .error ⟨scalar.value, wanted⟩
  let plain := scalar.style == .plain
  match tag with
  | none => .ok (if plain then plainMeaning scalar.value else .text scalar.value)
  | some tag =>
    if tag == standardTag "bool" then held "a boolean" ((truth? scalar.value).map .truth)
    else if tag == standardTag "int" then
      held "an integer" ((integer? scalar.value.toList).map .integer)
    else if tag == standardTag "float" then held "a float" ((real? scalar.value).map .real)
    else if tag == standardTag "null" then
      held "null" (if isNull scalar.value then some .null else none)
    else .ok (if plain && tag.startsWith "!" then plainMeaning scalar.value else .text scalar.value)

end Workday.Yaml
