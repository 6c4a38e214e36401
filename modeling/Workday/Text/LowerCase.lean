import Workday.Text.LowerCase.Table

/-!
# Lower case

The lower case of a text, in the full mapping of the Unicode standard that depends on no language.
Most characters are replaced by one or stay as they are. The capital I with a dot above becomes two,
and the capital sigma becomes one of two, by whether it ends a word.
-/

set_option autoImplicit false

namespace Workday.Text

/-- The lower case of a character that belongs to the run. -/
def CaseRun.lower? (run : CaseRun) (n : Nat) : Option Nat :=
  if run.first ≤ n ∧ n ≤ run.last ∧ (n - run.first) % run.step = 0 then
    some (run.lower + (n - run.first))
  else none

/-- The lower case of a character, whatever it stands among. -/
def lowerChar (c : Char) : List Char :=
  if c.toNat < 0x80 then [c.toLower]
  else if c = 'İ' then ['i', '\u0307']
  else match caseRuns.findSome? fun run => run.lower? c.toNat with
    | some n => [Char.ofNat n]
    | none => [c]

/-- Whether a text goes on with a character that has a case, but for those that are passed over. -/
def startsCased (s : List Char) : Bool :=
  (s.dropWhile fun c => caseIgnorable.has c.toNat).head?.any fun c => cased.has c.toNat

/-- The lower case of a capital sigma, by the text before it, read backwards, and the text after it. -/
def lowerSigma (before after : List Char) : Char :=
  if startsCased before && !startsCased after then 'ς' else 'σ'

/-- The lower case of the rest of a text, by the text before it, read backwards. -/
def lowerFrom (before : List Char) : List Char → List Char
  | [] => []
  | c :: rest =>
    (if c = 'Σ' then [lowerSigma before rest] else lowerChar c) ++ lowerFrom (c :: before) rest

/-- The lower case of a text. -/
def lowerCase (s : List Char) : List Char := lowerFrom [] s

end Workday.Text
