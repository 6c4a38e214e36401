import Workday.Json.Cursor
import Workday.Text
import Workday.Text.Number

/-!
# Strings

A string is read with its escapes and has to be UTF-8; escapes of surrogates come in pairs. A string
that no one wants is held to less: its bytes and surrogates may be anything.
-/

set_option autoImplicit false

namespace Workday.Json

open Workday.Text (decodeUtf8? hexDigitValue?)

/-- What a backslash and a character stand for by themselves. -/
def shortEscape? : Char → Option Char
  | '"' => some '"'
  | '\\' => some '\\'
  | '/' => some '/'
  | 'b' => some '\x08'
  | 'f' => some '\x0C'
  | 'n' => some '\n'
  | 'r' => some '\r'
  | 't' => some '\t'
  | _ => none

/-- Reads the four hexadecimal digits of an escape. -/
def Cursor.takeUnit (c : Cursor) : Except Fault (Nat × Cursor) :=
  match c.rest with
  | w :: x :: y :: z :: _ =>
    let after := c.skip.skip.skip.skip
    match [w, x, y, z].foldlM (fun n b => (hexDigitValue? (byteChar b)).map (n * 16 + ·)) 0 with
    | some n => .ok (n, after)
    | none => after.fail .badEscape
  | _ => (c.skipWhile fun _ => true).fail .endInString

/-- Whether a unit is the first of a pair. -/
def isLeading (unit : Nat) : Bool := 0xD800 ≤ unit && unit ≤ 0xDBFF

/-- Whether a unit is the second of a pair. -/
def isTrailing (unit : Nat) : Bool := 0xDC00 ≤ unit && unit ≤ 0xDFFF

/-- Reads one byte that has to be the given one for the second escape of a pair. -/
def Cursor.takePairSign (c : Cursor) (x : Char) : Except Fault Cursor :=
  match c.peek? with
  | none => c.fail .endInString
  | some y => if x == y then .ok c.skip else c.skip.fail .endOfEscapes

/-- Reads the character of one or two escapes after `\u`. -/
def Cursor.takeCodePoint (c : Cursor) : Except Fault (Char × Cursor) := do
  let (unit, c) ← c.takeUnit
  if isTrailing unit then c.fail .loneSurrogate
  else if !isLeading unit then return (Char.ofNat unit, c)
  else
    let c ← c.takePairSign '\\'
    let c ← c.takePairSign 'u'
    let (second, c) ← c.takeUnit
    if isTrailing second then
      return (Char.ofNat ((unit - 0xD800) * 0x400 + (second - 0xDC00) + 0x10000), c)
    else c.fail .loneSurrogate

/-- Reads an escape after its backslash. -/
def Cursor.takeEscape (c : Cursor) : Except Fault (Char × Cursor) :=
  match c.peek? with
  | none => c.fail .endInString
  | some x =>
    match shortEscape? x with
    | some value => .ok (value, c.skip)
    | none => if x == 'u' then c.skip.takeCodePoint else c.skip.fail .badEscape

/-- Reads the bytes of a string up to its closing quote, after those that have been read, the latest
first. -/
def takeStringBytes : Nat → Cursor → List UInt8 → Except Fault (List UInt8 × Cursor)
  | 0, c, _ => c.fail .endInString
  | fuel + 1, c, text =>
    match c.rest with
    | [] => c.fail .endInString
    | b :: _ =>
      match byteChar b with
      | '"' => .ok (text.reverse, c.skip)
      | '\\' => do
        let (value, c) ← c.skip.takeEscape
        takeStringBytes fuel c ((String.utf8EncodeChar value).reverse ++ text)
      | x => if x < ' ' then c.skip.fail .controlInString
        else takeStringBytes fuel c.skip (b :: text)

/-- Reads a string after its opening quote. -/
def Cursor.takeString (c : Cursor) : Except Fault (String × Cursor) := do
  let (bytes, c) ← takeStringBytes (c.rest.length + 1) c []
  match decodeUtf8? bytes with
  | some text => return (text, c)
  | none => c.fail .notUtf8

/-- Passes over an escape after its backslash. -/
def Cursor.skipEscape (c : Cursor) : Except Fault Cursor :=
  match c.peek? with
  | none => c.fail .endInString
  | some x =>
    if (shortEscape? x).isSome then .ok c.skip
    else if x == 'u' then c.skip.takeUnit.map Prod.snd
    else c.skip.fail .badEscape

/-- Passes over a string up to its closing quote. -/
def skipStringBytes : Nat → Cursor → Except Fault Cursor
  | 0, c => c.fail .endInString
  | fuel + 1, c =>
    match c.peek? with
    | none => c.fail .endInString
    | some '"' => .ok c.skip
    | some '\\' => do skipStringBytes fuel (← c.skip.skipEscape)
    | some x => if x < ' ' then c.fail .controlInString else skipStringBytes fuel c.skip

/-- Passes over a string after its opening quote. -/
def Cursor.skipString (c : Cursor) : Except Fault Cursor :=
  skipStringBytes (c.rest.length + 1) c

end Workday.Json
