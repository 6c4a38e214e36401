import Workday.Text.Number
import Workday.Yaml.Scalar

/-!
# Quoted scalars

Between single quotes, a quote is written twice. Between double quotes, a backslash starts an
escape, and at the end of a line it joins the next line on.
-/

set_option autoImplicit false

namespace Workday.Yaml

open Workday.Text (hexDigitValue?)

/-- What a backslash and a character stand for by themselves. -/
def shortEscape? : Char → Option Char
  | '0' => some '\x00'
  | 'a' => some '\x07'
  | 'b' => some '\x08'
  | 't' | '\t' => some '\t'
  | 'n' => some '\n'
  | 'v' => some '\x0B'
  | 'f' => some '\x0C'
  | 'r' => some '\r'
  | 'e' => some '\x1B'
  | ' ' => some ' '
  | '"' => some '"'
  | '/' => some '/'
  | '\\' => some '\\'
  | 'N' => some '\x85'
  | '_' => some '\xA0'
  | 'L' => some '\u2028'
  | 'P' => some '\u2029'
  | _ => none

/-- How many hexadecimal digits follow a backslash and a character. -/
def longEscape? : Char → Option Nat
  | 'x' => some 2
  | 'u' => some 4
  | 'U' => some 8
  | _ => none

/-- The value of so many hexadecimal digits at the front of a text. -/
def hexValue? (count : Nat) (s : List Char) : Option Nat :=
  if s.length < count then none
  else (s.take count).foldlM (fun n c => (hexDigitValue? c).map (n * 16 + ·)) 0

/-- The character of a code point; surrogates and what lies beyond the last one have none. -/
def codePoint? (n : Nat) : Option Char :=
  if n < 0xD800 || (0xDFFF < n && n ≤ 0x10FFFF) then some (Char.ofNat n) else none

/-- Reads an escape from its backslash on. -/
def Cursor.takeEscape (c : Cursor) (start : Mark) : Except Fault (Char × Cursor) :=
  let fault := Fault.whileReading .escape start
  match c.rest with
  | _ :: x :: r =>
    match shortEscape? x, longEscape? x with
    | some value, _ => .ok (value, c.skip 2)
    | none, some count =>
      match hexValue? count r with
      | none => .error (fault .noHexDigit (c.skip 2).mark)
      | some n =>
        match codePoint? n with
        | some value => .ok (value, c.skip (2 + count))
        | none => .error (fault .badCodePoint (c.skip 2).mark)
    | none, none => .error (fault .unknownEscape c.mark)
  | _ => .error (fault .unknownEscape c.mark)

/-- Reads a word between quotes: all up to a gap, a break or the closing quote, after the characters
that have been read, the latest first. Tells also whether it ended at an escaped line break, which
has been passed over then. -/
def quotedWord (single : Bool) (start : Mark) :
    Nat → Cursor → List Char → Except Fault (List Char × Bool × Cursor)
  | 0, c, word => .ok (word.reverse, false, c)
  | fuel + 1, c, word =>
    match c.rest with
    | [] => .ok (word.reverse, false, c)
    | x :: r =>
      if isGap x || isBreak x then .ok (word.reverse, false, c)
      else if single then
        if x != '\'' then quotedWord single start fuel (c.skip 1) (x :: word)
        else if r.head? == some '\'' then quotedWord single start fuel (c.skip 2) (x :: word)
        else .ok (word.reverse, false, c)
      else if x == '"' then .ok (word.reverse, false, c)
      else if x != '\\' then quotedWord single start fuel (c.skip 1) (x :: word)
      else if r.head?.any isBreak then .ok (word.reverse, true, (c.skip 1).skipBreak)
      else do
        let (value, c) ← c.takeEscape start
        quotedWord single start fuel c (value :: word)

/-- Reads words between quotes up to the closing quote. -/
def quotedWords (single : Bool) (start : Mark) :
    Nat → Cursor → List Char → Except Fault (List Char × Cursor)
  | 0, c, text => .ok (text, c)
  | fuel + 1, c, text =>
    if c.atDocumentMark then .error (.whileReading .quotedScalar start .documentInQuotes c.mark)
    else if c.isOver then .error (.whileReading .quotedScalar start .endInQuotes c.mark)
    else do
      let (word, joined, c) ← quotedWord single start (c.rest.length + 1) c []
      if c.isAt (if single then '\'' else '"') then return (text ++ word, c.skip 1)
      let pending := if joined then Between.breaks [] [] else .nothing
      let (between, c) ← c.takeBetween (fun _ => none) c.rest.length pending
      quotedWords single start fuel c (text ++ word ++ between.text)

/-- Reads a quoted scalar from its opening quote on. -/
def Cursor.quotedScalar (c : Cursor) (single : Bool) : Except Fault ScalarRead := do
  let (text, after) ← quotedWords single c.mark (c.rest.length + 1) (c.skip 1) []
  let style := if single then Style.singleQuoted else .doubleQuoted
  return ⟨⟨String.ofList text, style⟩, after.mark, after, false⟩

end Workday.Yaml
