import Workday.Yaml.Document

/-!
# Mappings and how they are laid out

A mapping of two levels: every entry has a name and, as its content, a scalar or a mapping whose entries
have scalars only. `Document.Holds` says that a document is such a mapping and nothing else, however its
text is laid out.

`MappingWritten` is a grammar of texts for it in which indentation gives the structure. The entries of a
mapping start in one column, those of an inner one in a deeper column; a name and its scalar stand on one
line, each plain or between quotes; and what comes between two entries is a `Gap`, spaces, comments and blank
lines that lead to the column of the next. A scalar between double quotes may have any of its characters
escaped.
-/

set_option autoImplicit false

namespace Workday.Yaml

/-- An entry whose content is a scalar. -/
structure Pair where
  name : Scalar
  tag : Option String := none
  value : Scalar

/-- What an entry has under its name. -/
inductive Content where
  | scalar (tag : Option String) (value : Scalar)
  | mapping (pairs : List Pair)

/-- An entry of a mapping. -/
structure Entry where
  name : Scalar
  content : Content

/-- A pair as an entry. -/
def Pair.entry (p : Pair) : Entry := ⟨p.name, .scalar p.tag p.value⟩

/-- The nodes of an entry, without its name. -/
def Content.parts : Content → List Part
  | scalar tag value => [.scalar tag value]
  | mapping pairs =>
    .mappingStart :: (pairs.flatMap fun p => [.scalar none p.name, .scalar p.tag p.value])
      ++ [.mappingEnd]

/-- Whether no scalar has a tag. -/
def Content.Untagged : Content → Prop
  | scalar tag _ => tag = none
  | mapping pairs => ∀ p ∈ pairs, p.tag = none

/-- The nodes of an entry. -/
def Entry.parts (e : Entry) : List Part := .scalar none e.name :: e.content.parts

/-- A document is a mapping with these entries, complete, and the only one of its text. -/
structure Document.Holds (d : Document) (entries : List Entry) : Prop where
  parts : d.parts.map Prod.fst = .mappingStart :: entries.flatMap Entry.parts ++ [.mappingEnd]
  complete : d.fault = none
  alone : d.isFollowed = false

/-! ## Between the entries -/

/-- A character that may stand within a line. -/
def isInline (c : Char) : Bool := isReadable c && !isBreak c

/-- A comment, or none. -/
def IsComment (s : List Char) : Prop := s = [] ∨ ∃ t, s = '#' :: t ∧ ∀ c ∈ t, isInline c = true

/-- Spaces, or the rest of a line and what comes before the next entry. Whether a line ends in it is known,
and how many spaces are the last. -/
inductive Gap : Bool → Nat → List Char → Prop
  | spaces (n : Nat) : Gap false n (List.replicate n ' ')
  | line (n : Nat) {comment ending g : List Char} {crosses : Bool} {k : Nat}
      (isComment : IsComment comment) (isBreak : ending ∈ [['\n'], ['\r', '\n']])
      (rest : Gap crosses k g) :
      Gap true k (List.replicate n ' ' ++ (comment ++ (ending ++ g)))

/-! ## Scalars -/

/-- The quote of a style. -/
def quoteSign (single : Bool) : Char := if single then '\'' else '"'

/-- How a character is written between quotes. A quote is doubled between single quotes; between double
quotes it is escaped, and any other character may be. -/
inductive QuotedChar (single : Bool) : List Char → Char → Prop
  | plain {c : Char} (inline : isInline c = true) (noQuote : c ≠ quoteSign single)
      (noEscape : single = true ∨ c ≠ '\\') : QuotedChar single [c] c
  | doubled (isSingle : single = true) : QuotedChar single ['\'', '\''] '\''
  | short {x value : Char} (isDouble : single = false) (escape : shortEscape? x = some value) :
      QuotedChar single ['\\', x] value
  | long {x value : Char} {count n : Nat} {digits : List Char} (isDouble : single = false)
      (escape : longEscape? x = some count) (length : digits.length = count)
      (isHex : ∀ d ∈ digits, (Text.hexDigitValue? d).isSome = true)
      (number : hexValue? count digits = some n) (isCharacter : codePoint? n = some value) :
      QuotedChar single ('\\' :: x :: digits) value

/-- What may stand between quotes, and what it says. -/
inductive QuotedText (single : Bool) : List Char → List Char → Prop
  | nil : QuotedText single [] []
  | cons {w s t : List Char} {x : Char} (char : QuotedChar single w x) (rest : QuotedText single s t) :
      QuotedText single (w ++ s) (x :: t)

/-- A word of a plain scalar. -/
structure IsWord (w : List Char) : Prop where
  nonempty : w ≠ []
  inline : ∀ c ∈ w, isInline c = true ∧ isGap c = false ∧ c ≠ '\uFEFF'
  noColon : w.getLast? ≠ some ':'

/-- Words on one line, with gaps between them. -/
inductive Words : List Char → Prop
  | word {w : List Char} (isWord : IsWord w) : Words w
  | more {w g s : List Char} (isWord : IsWord w) (gap : g ≠ []) (isGap : ∀ c ∈ g, isGap c = true)
      (rest : Words s) (noComment : s.head? ≠ some '#') : Words (w ++ (g ++ s))

/-- The signs that no plain scalar begins with. -/
def reservedSigns : List Char :=
  [',', '[', ']', '{', '}', '#', '&', '*', '!', '|', '>', '\'', '"', '%', '@', '\x60']

/-- Whether a text begins as a plain scalar does: with no sign that has a meaning of its own. -/
def startsPlain : List Char → Bool
  | [] => false
  | c :: r => if c == '-' || c == '?' || c == ':' then !separates r else !reservedSigns.contains c

/-- A plain scalar on one line. -/
structure IsPlain (s : List Char) : Prop where
  words : Words s
  start : startsPlain s = true
  noMark : startsDocumentMark s = false

/-- How a scalar is written on one line. -/
inductive ScalarWritten : List Char → Scalar → Prop
  | plain {s : List Char} (isPlain : IsPlain s) : ScalarWritten s ⟨String.ofList s, .plain⟩
  | quoted {single : Bool} {s t : List Char} (text : QuotedText single s t) :
      ScalarWritten (quoteSign single :: (s ++ [quoteSign single]))
        ⟨String.ofList t, if single then .singleQuoted else .doubleQuoted⟩

/-! ## Entries -/

/-- A name with its colon, which must not be too far off. -/
inductive NameWritten : Scalar → List Char → Prop
  | mk {name : Scalar} {s : List Char} (spaces : Nat) (written : ScalarWritten s name)
      (short : s.length + spaces ≤ maxKeyLength) :
      NameWritten name (s ++ (List.replicate spaces ' ' ++ [':']))

/-- A scalar after the colon, with the gap after it, of which is known what `Gap` tells. -/
inductive ValueWritten : Scalar → Bool → Nat → List Char → Prop
  | mk {value : Scalar} {s g : List Char} {crosses : Bool} {k : Nat} (spaces : Nat)
      (written : ScalarWritten s value) (gap : Gap crosses k g) (apart : g.head? ≠ some '#') :
      ValueWritten value crosses k (List.replicate (spaces + 1) ' ' ++ (s ++ g))

/-- A pair with the gap after it. -/
inductive PairWritten : Pair → Bool → Nat → List Char → Prop
  | mk {name value : Scalar} {s t : List Char} {crosses : Bool} {k : Nat}
      (named : NameWritten name s) (valued : ValueWritten value crosses k t) :
      PairWritten ⟨name, none, value⟩ crosses k (s ++ t)

/-- Items that start in one column, with the gap after the last. -/
inductive Sequence {ι : Type} (ItemWritten : ι → Bool → Nat → List Char → Prop) (column : Nat) :
    List ι → Bool → Nat → List Char → Prop
  | last {i : ι} {crosses : Bool} {k : Nat} {s : List Char} (item : ItemWritten i crosses k s) :
      Sequence ItemWritten column [i] crosses k s
  | more {i : ι} {is : List ι} {crosses : Bool} {k : Nat} {s t : List Char}
      (item : ItemWritten i true column s) (rest : Sequence ItemWritten column is crosses k t) :
      Sequence ItemWritten column (i :: is) crosses k (s ++ t)

/-- An entry of a mapping in a column, with the gap after it. An inner mapping starts on a later line, in
a deeper column. -/
inductive EntryWritten (column : Nat) : Entry → Bool → Nat → List Char → Prop
  | scalar {name value : Scalar} {s t : List Char} {crosses : Bool} {k : Nat}
      (named : NameWritten name s) (valued : ValueWritten value crosses k t) :
      EntryWritten column ⟨name, .scalar none value⟩ crosses k (s ++ t)
  | mapping {name : Scalar} {pairs : List Pair} {s g t : List Char} {crosses : Bool} {k inner : Nat}
      (named : NameWritten name s) (gap : Gap true inner g) (apart : g.head? ≠ some '#')
      (deeper : column < inner) (written : Sequence PairWritten inner pairs crosses k t) :
      EntryWritten column ⟨name, .mapping pairs⟩ crosses k (s ++ (g ++ t))

/-- A text that is a mapping with these entries, in a column of its own, or without entries and a gap only. -/
inductive MappingWritten : List Entry → List Char → Prop
  | empty {crosses : Bool} {k : Nat} {g : List Char} (gap : Gap crosses k g) : MappingWritten [] g
  | entries {entries : List Entry} {lead crosses : Bool} {column k : Nat} {g s : List Char}
      (gap : Gap lead column g) (written : Sequence (EntryWritten column) column entries crosses k s) :
      MappingWritten entries (g ++ s)

end Workday.Yaml
