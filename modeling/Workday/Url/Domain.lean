import Workday.Text
import Workday.Url.Domain.Table
import Workday.Url.Percent
import Workday.Url.Punycode

/-!
# Domain names

A domain name is brought to ASCII before it is looked up: every character is kept, left out or
replaced, and each label that still has characters past ASCII is written in Punycode. A name is
refused for a character that no domain name holds, a label that begins with a combining mark or
mixes directions, and a label in Punycode that stands for no such label.

Names are taken to be composed: a letter and a mark after it stay two characters. Joiners are kept
wherever they stand, and directions are told by the blocks of the scripts.
-/

set_option autoImplicit false

namespace Workday.Url.Domain

open Workday.Text (splitAt)

/-- ASCII characters that no domain name holds. -/
def isForbidden (c : Char) : Bool :=
  c.toNat ≤ 0x20 || c.toNat == 0x7F || "%#/:<>?@[\\]^|".toList.contains c

/-- The replacement of a character by one other, if the tables have one. -/
def shift? (n : Nat) : Option Nat :=
  shifted.findSome? fun run =>
    match run with
    | [first, last, replacement, step] =>
      if first ≤ n ∧ n ≤ last ∧ (n - first) % step = 0 then some (replacement + (n - first)) else none
    | _ => none

/-- The replacement of a character by several, if the tables have one. -/
def expand? (n : Nat) : Option (List Nat) :=
  expanded.findSome? fun
    | m :: replacement => if m = n then some replacement else none
    | [] => none

/-- What becomes of a character; none if the name is refused. -/
def mapChar (c : Char) : Option (List Char) :=
  let n := c.toNat
  if n < 0x80 then some [c.toLower]
  else if leftOut.has n then some []
  else if refused.has n then none
  else match shift? n with
    | some m => some [Char.ofNat m]
    | none => match expand? n with
      | some ms => some (ms.map Char.ofNat)
      | none => some [c]

/-- Whether a letter is written from right to left: Hebrew, Arabic and the scripts beside them. -/
def isRightToLeft (c : Char) : Bool :=
  let n := c.toNat
  !marks.has n
    && ((0x5BE ≤ n && n ≤ 0x8FF) || (0xFB1D ≤ n && n ≤ 0xFDFF) || (0xFE70 ≤ n && n ≤ 0xFEFE)
      || (0x10800 ≤ n && n ≤ 0x10FFF) || (0x1E800 ≤ n && n ≤ 0x1EFFF))

/-- Whether a character is a letter written from left to right. Digits, and the ASCII signs a
label may hold, have no direction. -/
def isLeftToRight (c : Char) : Bool :=
  c.isAlpha || (0x80 ≤ c.toNat && !marks.has c.toNat && !isRightToLeft c)

/-- Whether a label keeps to one direction, as a name with letters from right to left asks. -/
def keepsDirection (label : List Char) : Bool :=
  match label with
  | [] => true
  | c :: _ =>
    let last := (label.reverse.dropWhile fun c => marks.has c.toNat).head?
    if isRightToLeft c then
      !label.any isLeftToRight && last.any fun c => isRightToLeft c || c.isDigit
    else
      isLeftToRight c && !label.any isRightToLeft && last.any fun c => isLeftToRight c || c.isDigit

/-- Whether all of a label's characters are kept as they are, and it begins with no mark. -/
def isSettled (label : List Char) : Bool :=
  label.all (fun c => mapChar c == some [c]) && !(label.head?.any fun c => marks.has c.toNat)

/-- A label as it is read: out of Punycode, if it is written in it. None if it is refused. -/
def readLabel (label : List Char) : Option (List Char) :=
  match label with
  | 'x' :: 'n' :: '-' :: '-' :: r => do
    let decoded ← Punycode.decode? r
    if decoded.all (fun c => c.toNat < 0x80) || !isSettled decoded then none else some decoded
  | label => if label.head?.any fun c => marks.has c.toNat then none else some label

/-- A label in ASCII. -/
def writeLabel (label : List Char) : List Char :=
  if label.all fun c => c.toNat < 0x80 then label
  else "xn--".toList ++ Punycode.encode label

/-- A domain name in ASCII; none if it is refused. -/
def toAscii? (s : List Char) : Option (List Char) := do
  let mapped := (← s.mapM mapChar).flatten
  if mapped.any fun c => c.toNat < 0x80 && isForbidden c then none
  let labels ← (splitAt (· == '.') mapped).mapM readLabel
  if labels.any (·.any isRightToLeft) && !labels.all keepsDirection then none
  return ['.'].intercalate (labels.map writeLabel)

end Workday.Url.Domain
