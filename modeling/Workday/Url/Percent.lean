import Workday.Text.Number

/-!
# Percent encoding

Characters that have no place in a part of a URL are written as the bytes of their UTF-8 form, each
a percent sign and two upper-case hexadecimal digits. Which characters those are depends on the
part; every part encodes controls and all that is not ASCII.
-/

set_option autoImplicit false

namespace Workday.Url

open Workday.Text (hexDigitValue?)

/-- What a part of a URL encodes: controls and non-ASCII characters, and these besides. -/
abbrev EncodeSet := List Char

namespace EncodeSet

/-- Controls only: opaque paths and hosts. -/
def control : EncodeSet := []

def query : EncodeSet := [' ', '"', '#', '<', '>']

/-- Queries of the special schemes. -/
def specialQuery : EncodeSet := '\'' :: query

def fragment : EncodeSet := [' ', '"', '<', '>', '\x60']

def path : EncodeSet := fragment ++ ['#', '?', '\x7b', '\x7d']

def userInfo : EncodeSet := path ++ ['/', ':', ';', '=', '@', '[', '\\', ']', '^', '|']

end EncodeSet

/-- The hexadecimal digit of a value below sixteen, in upper case. -/
def hexDigit (n : Nat) : Char :=
  if n < 10 then Char.ofNat (0x30 + n) else Char.ofNat (0x37 + n)

/-- A byte as a percent sign and two digits. -/
def percentByte (b : UInt8) : List Char :=
  ['%', hexDigit (b.toNat / 16), hexDigit (b.toNat % 16)]

/-- Whether a part encodes a character. -/
def EncodeSet.encodes (set : EncodeSet) (c : Char) : Bool :=
  c.toNat < 0x20 || 0x7F ≤ c.toNat || set.contains c

/-- The characters of a part as written. -/
def percentEncode (set : EncodeSet) (s : List Char) : List Char :=
  s.flatMap fun c =>
    if set.encodes c then (String.utf8EncodeChar c).flatMap percentByte else [c]

/-- The bytes of a text in which percent signs with two digits stand for bytes. Other percent signs
stand for themselves. -/
def percentDecode : List Char → List UInt8
  | [] => []
  | '%' :: a :: b :: r =>
    match hexDigitValue? a, hexDigitValue? b with
    | some x, some y => UInt8.ofNat (16 * x + y) :: percentDecode r
    | _, _ => '%'.toUInt8 :: percentDecode (a :: b :: r)
  | c :: r => String.utf8EncodeChar c ++ percentDecode r

end Workday.Url
