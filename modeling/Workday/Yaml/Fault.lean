/-!
# Faults of YAML texts

Where in a text something stands, what can be wrong there, and how that is worded: the problem with
its place, then what was being read with the place where that began.
-/

set_option autoImplicit false

namespace Workday.Yaml

/-- A place in a text: how many characters come before it, and its line and column from zero. -/
structure Mark where
  index : Nat := 0
  line : Nat := 0
  column : Nat := 0
  deriving DecidableEq, Repr

namespace Mark

/-- Whether a mark is the start of the text, which messages leave out. -/
def isStart (m : Mark) : Bool := m.line == 0 && m.column == 0

/-- Whether two marks have the same line and column. -/
def samePlace (m n : Mark) : Bool := m.line == n.line && m.column == n.column

/-- The line and column, counted from one. -/
def format (m : Mark) : String :=
  "line " ++ toString (m.line + 1) ++ " column " ++ toString (m.column + 1)

end Mark

/-- What is wrong at a place. -/
inductive Problem where
  | controlCharacter
  | noToken
  | unfinishedKey
  | entryNotAllowed
  | keyNotAllowed
  | valueNotAllowed
  | noDirectiveName
  | directiveNameNotOver
  | unknownDirective
  | lineNotOver
  | noVersionNumber
  | longVersionNumber
  | noVersionPoint
  | noWhitespace
  | noWhitespaceOrBreak
  | noAnchorName
  | noExclamationMark
  | noTagEnd
  | noTagUri
  | noOctet
  | badLeadingOctet
  | badTrailingOctet
  | zeroIndentation
  | tabForIndentation
  | tabInPlainScalar
  | colonInPlainScalar
  | documentInQuotes
  | endInQuotes
  | unknownEscape
  | noHexDigit
  | badCodePoint
  | duplicateVersion
  | otherVersion
  | duplicateHandle
  | undefinedHandle
  | noDocumentStart
  | noNode
  | noDash
  | noKey
  | noCommaOrBracket
  | noCommaOrBrace
  deriving DecidableEq, Repr

/-- The wording of a problem. -/
def Problem.message : Problem → String
  | controlCharacter => "control characters are not allowed"
  | noToken => "found character that cannot start any token"
  | unfinishedKey => "could not find expected ':'"
  | entryNotAllowed => "block sequence entries are not allowed in this context"
  | keyNotAllowed => "mapping keys are not allowed in this context"
  | valueNotAllowed => "mapping values are not allowed in this context"
  | noDirectiveName => "could not find expected directive name"
  | directiveNameNotOver => "found unexpected non-alphabetical character"
  | unknownDirective => "found unknown directive name"
  | lineNotOver => "did not find expected comment or line break"
  | noVersionNumber => "did not find expected version number"
  | longVersionNumber => "found extremely long version number"
  | noVersionPoint => "did not find expected digit or '.' character"
  | noWhitespace => "did not find expected whitespace"
  | noWhitespaceOrBreak => "did not find expected whitespace or line break"
  | noAnchorName => "did not find expected alphabetic or numeric character"
  | noExclamationMark => "did not find expected '!'"
  | noTagEnd => "did not find the expected '>'"
  | noTagUri => "did not find expected tag URI"
  | noOctet => "did not find URI escaped octet"
  | badLeadingOctet => "found an incorrect leading UTF-8 octet"
  | badTrailingOctet => "found an incorrect trailing UTF-8 octet"
  | zeroIndentation => "found an indentation indicator equal to 0"
  | tabForIndentation => "found a tab character where an indentation space is expected"
  | tabInPlainScalar => "found a tab character that violates indentation"
  | colonInPlainScalar => "found unexpected ':'"
  | documentInQuotes => "found unexpected document indicator"
  | endInQuotes => "found unexpected end of stream"
  | unknownEscape => "found unknown escape character"
  | noHexDigit => "did not find expected hexdecimal number"
  | badCodePoint => "found invalid Unicode character escape code"
  | duplicateVersion => "found duplicate %YAML directive"
  | otherVersion => "found incompatible YAML document"
  | duplicateHandle => "found duplicate %TAG directive"
  | undefinedHandle => "found undefined tag handle"
  | noDocumentStart => "did not find expected <document start>"
  | noNode => "did not find expected node content"
  | noDash => "did not find expected '-' indicator"
  | noKey => "did not find expected key"
  | noCommaOrBracket => "did not find expected ',' or ']'"
  | noCommaOrBrace => "did not find expected ',' or '\x7d'"

/-- What was being read. -/
inductive Activity where
  | nextToken
  | simpleKey
  | directive
  | versionDirective
  | tagDirective
  | tagDirectiveHandle
  | tagDirectiveHandleEnd
  | tagDirectivePrefix
  | tag
  | tagUri
  | anchor
  | aliasOf
  | blockScalar
  | plainScalar
  | quotedScalar
  | escape
  | node
  | blockNode
  | flowNode
  | blockSequence
  | blockMapping
  | flowSequence
  | flowMapping
  deriving DecidableEq, Repr

/-- The wording of what was being read. -/
def Activity.message : Activity → String
  | nextToken => "while scanning for the next token"
  | simpleKey => "while scanning a simple key"
  | directive => "while scanning a directive"
  | versionDirective => "while scanning a %YAML directive"
  | tagDirective => "while scanning a %TAG directive"
  | tagDirectiveHandle => "while scanning a tag directive"
  | tagDirectiveHandleEnd => "while parsing a tag directive"
  | tagDirectivePrefix => "while parsing a %TAG directive"
  | tag => "while scanning a tag"
  | tagUri => "while parsing a tag"
  | anchor => "while scanning an anchor"
  | aliasOf => "while scanning an alias"
  | blockScalar => "while scanning a block scalar"
  | plainScalar => "while scanning a plain scalar"
  | quotedScalar => "while scanning a quoted scalar"
  | escape => "while parsing a quoted scalar"
  | node => "while parsing a node"
  | blockNode => "while parsing a block node"
  | flowNode => "while parsing a flow node"
  | blockSequence => "while parsing a block collection"
  | blockMapping => "while parsing a block mapping"
  | flowSequence => "while parsing a flow sequence"
  | flowMapping => "while parsing a flow mapping"

/-- Where a problem is: at a mark, or so many bytes into the text. -/
inductive Place where
  | mark (mark : Mark)
  | offset (bytes : Nat)
  deriving DecidableEq, Repr

/-- A problem, its place, and what was being read since where. -/
structure Fault where
  problem : Problem
  place : Place
  during : Option (Activity × Mark) := none
  deriving DecidableEq, Repr

namespace Fault

/-- A problem at a mark. -/
def found (problem : Problem) (mark : Mark) : Fault := { problem, place := .mark mark }

/-- A problem at a mark, while something was being read. -/
def whileReading (activity : Activity) (start : Mark) (problem : Problem) (mark : Mark) : Fault :=
  { problem, place := .mark mark, during := some (activity, start) }

/-- The place of a problem; the start of the text is left out. -/
def placeText (f : Fault) : String :=
  match f.place with
  | .mark m => if m.isStart then "" else " at " ++ m.format
  | .offset bytes => if bytes == 0 then "" else " at position " ++ toString bytes

/-- What was being read; its start is left out where it is that of the text or of the problem. -/
def duringText (f : Fault) : String :=
  match f.during with
  | none => ""
  | some (activity, start) =>
    let known := match f.place with
      | .mark m => m.samePlace start
      | .offset _ => false
    ", " ++ activity.message ++ (if start.isStart || known then "" else " at " ++ start.format)

/-- The wording of a fault. -/
def message (f : Fault) : String :=
  f.problem.message ++ f.placeText ++ f.duringText

end Fault

end Workday.Yaml
