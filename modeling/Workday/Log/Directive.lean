import Workday.Text
import Workday.Text.Number

/-!
# Filter directives

A directive says how much is let through from a part of the program, as in `client=debug`. It may
ask for a span and for fields as well, as in `client[fetch{url}]=debug`. A lone word is a verbosity
if it can be read as one, else the name of a part from which all is let through.

The scan goes over the text without the blanks around it, but the pieces that it finds are cut from
the whole text. So a directive behind a blank names nothing that it seems to name.
-/

set_option autoImplicit false

namespace Workday.Log

open Workday.Text

/-- How much is let through: nothing at zero, all levels at five. -/
abbrev Verbosity := Nat

/-- The verbosity that lets all through. -/
def everything : Verbosity := 5

/-- The words for verbosities, in any letter case, from the least on. -/
def verbosityWords : List String := ["off", "error", "warn", "info", "debug", "trace"]

/-- A number for a verbosity. -/
def numberedVerbosity? (text : List Char) : Option Verbosity :=
  let digits := if text.head? == some '+' then text.drop 1 else text
  if digits.isEmpty || !digits.all Char.isDigit || everything < digitsValue digits then none
  else some (digitsValue digits)

/-- A verbosity, by number or by word. -/
def verbosity? (text : List Char) : Option Verbosity :=
  match numberedVerbosity? text with
  | some n => some n
  | none => verbosityWords.findIdx? fun word => word.toList == text.map Char.toLower

/-- A field that a directive asks for. -/
structure Wanted where
  name : String
  value : Option String
  deriving DecidableEq, Repr

/-- How much is let through, and from where. -/
structure Directive where
  target : Option String := none
  span : Option String := none
  fields : List Wanted := []
  verbosity : Verbosity := everything
  deriving DecidableEq, Repr

/-- What is being scanned, with the place where it starts. -/
inductive Directive.Stage where
  | start
  | word (first : Nat)
  | span (first : Nat)
  | field (first : Nat)
  | afterField
  | afterSpan
  | verbosity (first : Nat)
  deriving DecidableEq, Repr

namespace Directive

/-- What has been found so far, and what is being scanned. -/
structure Scan where
  found : Directive := {}
  stage : Stage := .start
  deriving DecidableEq, Repr

/-- The characters from one place to before another. -/
def slice (whole : List Char) (first last : Nat) : List Char :=
  (whole.drop first).take (last - first)

/-- The same as a text. -/
def piece (whole : List Char) (first last : Nat) : String := String.ofList (slice whole first last)

/-- Whether a directive may start with a character. Outside ASCII every character may that is no
blank. -/
def mayStart (c : Char) : Bool :=
  c == '-' || c == ':' || c == '_' || c.isAlphanum || (0x80 ≤ c.toNat && !isBlank c)

/-- The field that a piece asks for: a name, and a value if an equals sign follows. -/
def wanted? (text : List Char) : Option Wanted :=
  match splitAt (· == '=') text with
  | [] => none
  | name :: values =>
    if text.isEmpty then none else some ⟨String.ofList name, values.head?.map String.ofList⟩

/-- Scans one character at a place. -/
def step (whole : List Char) (s : Scan) (i : Nat) (c : Char) : Option Scan :=
  match s.stage with
  | .start =>
    if c == '[' then some { s with stage := .span (i + 1) }
    else if mayStart c then some { s with stage := .word i }
    else none
  | .word first =>
    if c == '=' then
      some ⟨{ s.found with target := some (piece whole first i) }, .verbosity (i + 1)⟩
    else if c == '[' then
      some ⟨{ s.found with target := some (piece whole first i) }, .span (i + 1)⟩
    else some s
  | .span first =>
    if c == ']' then some ⟨{ s.found with span := some (piece whole first i) }, .afterSpan⟩
    else if c == '\x7b' then
      let name := piece whole first i
      some ⟨{ s.found with span := if name.isEmpty then none else some name }, .field (i + 1)⟩
    else some s
  | .field first =>
    if c == '\x7d' then
      (wanted? (slice whole first i)).map fun field =>
        ⟨{ s.found with fields := s.found.fields ++ [field] }, .afterField⟩
    else some s
  | .afterField => if c == ']' then some { s with stage := .afterSpan } else none
  | .afterSpan => if c == '=' then some { s with stage := .verbosity (i + 1) } else none
  | .verbosity _ => some s

/-- Scans characters from a place on. -/
def scan (whole : List Char) (s : Scan) : Nat → List Char → Option Scan
  | _, [] => some s
  | i, c :: cs => (step whole s i c).bind fun s => scan whole s (i + 1) cs

/-- What a scan has come to at the end of the text. -/
def finish (whole : List Char) (s : Scan) : Option Directive :=
  match s.stage with
  | .word first =>
    let rest := whole.drop first
    match verbosity? rest with
    | some verbosity => some { s.found with verbosity }
    | none => some { s.found with target := some (String.ofList rest) }
  | .verbosity first =>
    let rest := whole.drop first
    if rest.isEmpty then some s.found
    else (verbosity? rest).map fun verbosity => { s.found with verbosity }
  | .afterSpan => some s.found
  | _ => none

/-- The directive that a text holds. -/
def ofChars? (whole : List Char) : Option Directive :=
  (scan whole {} 0 (trim whole)).bind (finish whole)

end Directive

end Workday.Log
