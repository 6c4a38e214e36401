import Workday.Log
import Workday.Log.Directive

/-!
# Filters

A filter is read from directives between commas. Of the rules that apply to a record the most
specific one decides: the longest name of a part, then the most fields. A directive for a span never
lets a record through, because records are written outside of spans. Without any directive only
errors are let through.
-/

set_option autoImplicit false

namespace Workday.Log

open Workday.Text

/-- How much is let through from records with a target and with fields. -/
structure Rule where
  /-- What the record's target has to start with. -/
  target : Option String
  fields : List String
  verbosity : Verbosity
  deriving DecidableEq, Repr

/-- The rule that a directive states, unless it asks for a span or for the value of a field. -/
def Directive.rule? (d : Directive) : Option Rule :=
  if d.span.isSome || d.fields.any (·.value.isSome) then none
  else some ⟨d.target, d.fields.map Wanted.name, d.verbosity⟩

namespace Rule

/-- Whether a rule applies to a record. -/
def applies (rule : Rule) (r : Record) : Bool :=
  (match rule.target with
    | some target => target.toList.isPrefixOf r.part.target.toList
    | none => true)
  && rule.fields.all r.hasField

/-- How specific a target is. -/
def targetRank (rule : Rule) : Nat :=
  match rule.target with
  | some target => target.length + 1
  | none => 0

/-- The names of the fields as code points. -/
def fieldCodes (rule : Rule) : List (List Nat) :=
  rule.fields.map fun field => field.toList.map Char.toNat

/-- Whether a list comes before another one of the same length in dictionary order. -/
def comesBefore : List (List Nat) → List (List Nat) → Bool
  | a :: as, b :: bs =>
    if a = b then comesBefore as bs else List.lex a b fun m n => decide (m < n)
  | _, _ => false

/-- Whether a rule decides before another one. Of two rules that ask for as many fields, the one
whose fields come later in order decides; of two that ask for the same, the later one. -/
def precedes (rule other : Rule) : Bool :=
  if rule.targetRank ≠ other.targetRank then other.targetRank < rule.targetRank
  else if rule.fields.length ≠ other.fields.length then
    other.fields.length < rule.fields.length
  else !comesBefore rule.fieldCodes other.fieldCodes

end Rule

/-- What is let through. -/
structure Filter where
  rules : List Rule
  deriving DecidableEq, Repr

namespace Filter

/-- The rule that holds where there is no directive. -/
def errorsOnly : Rule := ⟨none, [], Level.error.rank⟩

/-- The filter that directives make up. -/
def ofDirectives (ds : List Directive) : Filter :=
  if ds.isEmpty then ⟨[errorsOnly]⟩ else ⟨ds.filterMap Directive.rule?⟩

/-- The rule that decides over a record. -/
def deciding? (f : Filter) (r : Record) : Option Rule :=
  (f.rules.filter (·.applies r)).foldl
    (fun best rule =>
      match best with
      | none => some rule
      | some other => if rule.precedes other then some rule else some other)
    none

/-- Whether a record is let through. -/
def allows (f : Filter) (r : Record) : Bool :=
  match f.deciding? r with
  | some rule => r.level.rank ≤ rule.verbosity
  | none => false

/-- The texts of the directives. -/
def pieces (text : String) : List (List Char) :=
  (splitAt (· == ',') text.toList).filter fun piece => !piece.isEmpty

/-- The filter that a text states, if each of its directives can be read. -/
def read? (text : String) : Option Filter :=
  ((pieces text).mapM Directive.ofChars?).map ofDirectives

/-- The filter that a text states; what cannot be read is left out. -/
def readLeniently (text : String) : Filter :=
  ofDirectives ((pieces text).filterMap Directive.ofChars?)

/-- The filter of a run: the one that the environment states, if it can be read, else the one that
the settings state. -/
def choose (stated : Option String) (level : String) : Filter :=
  match stated.bind read? with
  | some filter => filter
  | none => readLeniently level

end Filter

end Workday.Log
