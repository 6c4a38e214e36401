import Workday.CommandLine.Values

/-!
# Reading command lines

The words of a command line are taken in order. A value that is attached to its option is read at
once; one that stands by itself is read when the next argument or the end of the level is reached.
The level after the verb is read to its end before the last value in front of the verb is.
-/

set_option autoImplicit false

namespace Workday.CommandLine

/-- An argument whose value has not been read, with the value if it is there. -/
structure Pending where
  slot : Slot
  value : Option String
  deriving DecidableEq

/-- How far a level has been read. -/
structure Progress where
  values : Values := {}
  pending : Option Pending := none
  /-- The arguments known by their place that are still to come. -/
  places : List Slot
  /-- Whether a separator has been read; all further words are such arguments. -/
  isBehindSeparator : Bool := false

/-- What a word that starts with hyphens is. -/
inductive Dashed where
  /-- Two hyphens and no more. -/
  | separator
  /-- A long name, and what follows an equals sign. -/
  | long (name : String) (attached : Option String)
  /-- Letters after one hyphen. -/
  | letters (cs : List Char)
  deriving DecidableEq

/-- What a word is if it starts with a hyphen. -/
def dashed? (word : String) : Option Dashed :=
  match word.toList with
  | ['-', '-'] => some .separator
  | '-' :: '-' :: cs =>
    let name := cs.takeWhile (· != '=')
    let attached := match cs.dropWhile (· != '=') with
      | [] => none
      | _ :: value => some (String.ofList value)
    some (.long (String.ofList name) attached)
  | '-' :: cs => some (.letters cs)
  | _ => none

/-- Whether characters are digits with at most one point and one `e`, in this order, neither of them
at the front and the `e` not at the end. -/
def looksNumeric (cs : List Char) : Bool :=
  let whole := cs.takeWhile Char.isDigit
  let rest := cs.dropWhile Char.isDigit
  let afterPoint := match rest with
    | '.' :: more => if whole.isEmpty then rest else more.dropWhile Char.isDigit
    | _ => rest
  match afterPoint with
  | [] => true
  | 'e' :: power => !whole.isEmpty && !power.isEmpty && power.all Char.isDigit
  | _ => false

namespace Grammar

/-- What a flag leads to, by its long name. -/
def longFlag? (g : Grammar) (name : String) : Option Stop :=
  if name == "help" then some (.help g.topic)
  else if g.hasVersion && name == "version" then some .version
  else none

/-- What a flag leads to, by its letter. -/
def letterFlag? (g : Grammar) (c : Char) : Option Stop :=
  if c == 'h' then some (.help g.topic)
  else if g.hasVersion && c == 'V' then some .version
  else none

/-- The verb that a word is at this level. -/
def verb? (g : Grammar) (word : String) : Option Verb := g.verbs.find? (·.name == word)

/-- Whether a word may start the next level. -/
def isVerb (g : Grammar) (word : String) : Bool :=
  !g.verbs.isEmpty && (word == helpWord || (g.verb? word).isSome)

/-- The fault of a word for which there is no place. -/
def surplus (g : Grammar) (isBehindSeparator : Bool) (word : String) : Fault :=
  if g.verbs.isEmpty || (isBehindSeparator && g.isVerb word) then .unexpected word
  else .unknownCommand word

end Grammar

/-- Where the words after the word for help lead. -/
def helpOn : List String → Stop
  | [] => .help .program
  | word :: rest =>
    match if word == helpWord then some Topic.help else (Verb.ofString? word).map Topic.verb with
    | none => .fault (.unknownCommand word)
    | some topic =>
      match rest with
      | [] => .help topic
      | further :: _ => .fault (.unknownCommand further)

namespace Progress

/-- The start of a level. -/
def start (g : Grammar) : Progress := { places := g.places }

/-- Whether an option waits for its value. -/
def isAwaiting (p : Progress) : Bool :=
  match p.pending with
  | some ⟨_, none⟩ => true
  | _ => false

/-- Reads the value that has not been read. -/
def settle (p : Progress) : Except Fault Progress :=
  match p.pending with
  | none => .ok p
  | some ⟨slot, none⟩ => .error (.missingValue slot)
  | some ⟨slot, some value⟩ =>
    (p.values.put slot value).map fun values => { p with values, pending := none }

/-- Takes an option, with its value if one is attached. -/
def takeOption (p : Progress) (slot : Slot) (attached : Option String) :
    Except Fault Progress := do
  let p ← p.settle
  match attached with
  | some value => return { p with values := ← p.values.put slot value }
  | none => return { p with pending := some ⟨slot, none⟩ }

/-- Takes a word as the next argument that is known by its place. -/
def takePlace (p : Progress) (g : Grammar) (word : String) : Except Fault Progress :=
  match p.places with
  | slot :: places =>
    p.settle.map fun p => { p with pending := some ⟨slot, some word⟩, places }
  | [] => .error (g.surplus p.isBehindSeparator word)

/-- Takes a word as a value. -/
def takeValue (p : Progress) (g : Grammar) (word : String) : Except Fault Progress :=
  match p.pending with
  | some ⟨slot, none⟩ => .ok { p with pending := some ⟨slot, some word⟩ }
  | _ => p.takePlace g word

/-- Takes a long name. -/
def takeLong (p : Progress) (g : Grammar) (name : String) (attached : Option String) :
    Except Stop Progress :=
  match g.options.find? (·.long? == some name), g.longFlag? name, attached with
  | some slot, _, _ => (p.takeOption slot attached).mapError .fault
  | none, some _, some value => .error (.fault (.unneededValue ("--" ++ name) value))
  | none, some stop, none =>
    match p.settle with
    | .ok _ => .error stop
    | .error fault => .error (.fault fault)
  | none, none, _ => .error (.fault (.unexpected ("--" ++ name)))

/-- The value attached to a letter: what follows it, without an equals sign in front. -/
def attachedToLetter : List Char → Option String
  | [] => none
  | '=' :: cs => some (String.ofList cs)
  | cs => some (String.ofList cs)

/-- Takes a letter, and what follows it. -/
def takeLetter (p : Progress) (g : Grammar) (c : Char) (cs : List Char) : Except Stop Progress :=
  match g.options.find? (·.letter? == some c), g.letterFlag? c with
  | some slot, _ => (p.takeOption slot (attachedToLetter cs)).mapError .fault
  | none, some stop =>
    match p.settle with
    | .ok _ => .error stop
    | .error fault => .error (.fault fault)
  | none, none => .error (.fault (.unexpected (String.ofList ['-', c])))

/-- Takes one word. -/
def take (p : Progress) (g : Grammar) (word : String) : Except Stop Progress :=
  if p.isBehindSeparator then (p.takePlace g word).mapError .fault
  else
    match dashed? word with
    | none => (p.takeValue g word).mapError .fault
    | some .separator => .ok { p with isBehindSeparator := true }
    | some (.long name attached) => p.takeLong g name attached
    | some (.letters cs) =>
      if p.places.head?.any Slot.takesNegative && looksNumeric cs then
        (p.takeValue g word).mapError .fault
      else
        match cs with
        | [] => (p.takeValue g word).mapError .fault
        | c :: cs => p.takeLetter g c cs

/-- Reads the words of a level: how far it came, and the verb that ended it with the words after. -/
def read (g : Grammar) : Progress → List String →
    Except Stop (Progress × Option (Verb × List String))
  | p, [] => .ok (p, none)
  | p, word :: rest =>
    if !p.isBehindSeparator && !p.isAwaiting && g.isVerb word then
      match g.verb? word with
      | some verb => .ok (p, some (verb, rest))
      | none => .error (helpOn rest)
    else (p.take g word).bind fun p => read g p rest

end Progress

/-- Reads the level after a verb. -/
def readCommand (verb : Verb) (words : List String) : Except Stop Command := do
  let grammar := Grammar.ofVerb verb
  let (p, _) ← Progress.read grammar (.start grammar) words
  (p.settle.bind fun p => p.values.command verb).mapError .fault

/-- Reads a command line without the name of the program. -/
def read (words : List String) : Except Stop Invocation := do
  let (p, found) ← Progress.read .program (.start .program) words
  match found with
  | some (verb, rest) =>
    let command ← readCommand verb rest
    let p ← p.settle.mapError Stop.fault
    return ⟨p.values.config, p.values.region.getD default, command⟩
  | none =>
    let p ← p.settle.mapError Stop.fault
    if p.values.config.isNone && p.values.region.isNone then throw (.fault .nothingAsked)
    else throw (.fault .missingCommand)

end Workday.CommandLine
