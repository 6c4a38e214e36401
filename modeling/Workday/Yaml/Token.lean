import Workday.Yaml.Scalar

/-!
# Tokens

The signs and scalars that a text consists of. Where the structure is given by indentation, tokens
without characters of their own mark where a collection begins and ends.
-/

set_option autoImplicit false

namespace Workday.Yaml

/-- A tag as written: a handle and what follows it. The handle is empty for a tag that is given in
full. -/
structure Tag where
  handle : String
  suffix : String
  deriving DecidableEq, Repr

/-- What a token is. -/
inductive TokenKind where
  | streamEnd
  | versionDirective (major minor : Nat)
  | tagDirective (handle replacement : String)
  | documentStart
  | documentEnd
  | blockSequenceStart
  | blockMappingStart
  | blockEnd
  | flowSequenceStart
  | flowSequenceEnd
  | flowMappingStart
  | flowMappingEnd
  | blockEntry
  | flowEntry
  | key
  | value
  | aliasOf (name : String)
  | anchor (name : String)
  | tag (tag : Tag)
  | scalar (scalar : Scalar)
  deriving DecidableEq, Repr

/-- A token and where it begins and ends. -/
structure Token where
  kind : TokenKind
  start : Mark
  stop : Mark
  deriving DecidableEq, Repr

end Workday.Yaml
