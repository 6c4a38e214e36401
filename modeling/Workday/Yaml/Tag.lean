import Workday.Yaml.Scalar.Quoted
import Workday.Yaml.Token

/-!
# Anchors, tags and directives

The properties that may stand before a node, and the lines that may stand before a document.
-/

set_option autoImplicit false

namespace Workday.Yaml

/-- A token that was read, and the cursor after it. -/
abbrev TokenRead := Except Fault (Token × Cursor)

/-- Whether the name of an anchor may end here. -/
def endsName (s : List Char) : Bool :=
  separates s || s.head?.any fun c =>
    c == '?' || c == ':' || c == ',' || c == ']' || c == '}' || c == '%' || c == '@' || c == '\x60'

/-- Reads an anchor or an alias from its sign on. -/
def Cursor.takeAnchor (c : Cursor) (isAlias : Bool) : TokenRead :=
  let (name, after) := (c.skip 1).takeWhile isWordChar
  if name.isEmpty || !endsName after.rest then
    .error (.whileReading (if isAlias then .aliasOf else .anchor) c.mark .noAnchorName after.mark)
  else
    let name := String.ofList name
    .ok (⟨if isAlias then .aliasOf name else .anchor name, c.mark, after.mark⟩, after)

/-- Where a handle or a tag stands, which decides how faults in it are reported. -/
structure TagContext where
  /-- In a directive rather than before a node. -/
  inDirective : Bool
  start : Mark

/-- Reads a handle: an exclamation mark and a name, with another exclamation mark after it if it is
a handle. -/
def Cursor.takeHandle (c : Cursor) (context : TagContext) :
    Except Fault (List Char × Cursor) :=
  if !c.isAt '!' then
    .error (.whileReading (if context.inDirective then .tagDirectiveHandle else .tag) context.start
      .noExclamationMark c.mark)
  else
    let (name, after) := (c.skip 1).takeWhile isWordChar
    if after.isAt '!' then .ok ('!' :: name ++ ['!'], after.skip 1)
    else if context.inDirective && !name.isEmpty then
      .error (.whileReading .tagDirectiveHandleEnd context.start .noExclamationMark after.mark)
    else .ok ('!' :: name, after)

/-- How many octets a character takes whose first octet is the given one. -/
def octetCount? (octet : Nat) : Option Nat :=
  if octet < 0x80 then some 1
  else if octet < 0xC0 then none
  else if octet < 0xE0 then some 2
  else if octet < 0xF0 then some 3
  else if octet < 0xF8 then some 4
  else none

/-- How many octets of a character are to come with this one, where so many are missing, or where
it is the first. -/
def octetsLeft (missing : Option Nat) (octet : Nat) : Except Problem Nat :=
  match missing, octetCount? octet with
  | some n, _ => if 0x80 ≤ octet && octet < 0xC0 then .ok n else .error .badTrailingOctet
  | none, some n => .ok n
  | none, none => .error .badLeadingOctet

/-- Reads the octets of an escaped character that are still missing, or all if none was read. The
octets stay apart. -/
def takeOctets (fault : Problem → Mark → Fault) :
    Nat → Option Nat → Cursor → List Char → Except Fault (List Char × Cursor)
  | 0, _, c, octets => .ok (octets, c)
  | fuel + 1, missing, c, octets =>
    match c.rest with
    | '%' :: a :: b :: _ =>
      match hexValue? 2 [a, b] with
      | none => .error (fault .noOctet c.mark)
      | some octet =>
        match octetsLeft missing octet with
        | .error problem => .error (fault problem c.mark)
        | .ok n =>
          let octets := octets ++ [Char.ofNat octet]
          if n ≤ 1 then .ok (octets, c.skip 3)
          else takeOctets fault fuel (some (n - 1)) (c.skip 3) octets
    | _ => .error (fault .noOctet c.mark)

/-- Whether a character may stand in a tag. -/
def isTagChar (inFull : Bool) (c : Char) : Bool :=
  isWordChar c || ";/?:@&=+$.%!~*'()".toList.contains c || (inFull && ",[]".toList.contains c)

/-- Reads the characters of a tag or of a tag prefix. -/
def takeTagChars (inFull : Bool) (fault : Problem → Mark → Fault) :
    Nat → Cursor → List Char → Except Fault (List Char × Cursor)
  | 0, c, text => .ok (text, c)
  | fuel + 1, c, text =>
    match c.peek? with
    | none => .ok (text, c)
    | some x =>
      if !isTagChar inFull x then .ok (text, c)
      else if x == '%' then do
        let (octets, c) ← takeOctets fault 4 none c []
        takeTagChars inFull fault fuel c (text ++ octets)
      else takeTagChars inFull fault fuel (c.skip 1) (text ++ [x])

/-- Reads a tag, or a tag prefix, after what has been read of it already. -/
def Cursor.takeTagText (c : Cursor) (inFull : Bool) (head : List Char) (context : TagContext) :
    Except Fault (List Char × Cursor) := do
  let fault := Fault.whileReading (if context.inDirective then .tagDirectivePrefix else .tagUri)
    context.start
  let (text, after) ← takeTagChars inFull fault c.rest.length c []
  if head.isEmpty && text.isEmpty then throw (fault .noTagUri after.mark)
  return (head.drop 1 ++ text, after)

/-- Reads a tag that is given in full between angle brackets. -/
def Cursor.takeFullTag (c : Cursor) (context : TagContext) : Except Fault (Tag × Cursor) := do
  let (suffix, c) ← (c.skip 2).takeTagText true [] context
  if c.isAt '>' then return (⟨"", String.ofList suffix⟩, c.skip 1)
  else throw (.whileReading .tag context.start .noTagEnd c.mark)

/-- Reads a tag that begins with a handle. -/
def Cursor.takeShortTag (c : Cursor) (context : TagContext) : Except Fault (Tag × Cursor) := do
  let (handle, c) ← c.takeHandle context
  if 1 < handle.length && handle.getLast? == some '!' then
    let (suffix, c) ← c.takeTagText false [] context
    return (⟨String.ofList handle, String.ofList suffix⟩, c)
  else
    let (suffix, c) ← c.takeTagText false handle context
    if suffix.isEmpty then return (⟨"", "!"⟩, c)
    else return (⟨"!", String.ofList suffix⟩, c)

/-- Reads a tag from its exclamation mark on. -/
def Cursor.takeTag (c : Cursor) (inFlow : Bool) : TokenRead := do
  let context := TagContext.mk false c.mark
  let (tag, after) ←
    if (c.skip 1).isAt '<' then c.takeFullTag context else c.takeShortTag context
  if after.atSeparator || (inFlow && after.isAt ',') then return (⟨.tag tag, c.mark, after.mark⟩, after)
  else throw (.whileReading .tag c.mark .noWhitespaceOrBreak after.mark)

/-- The most digits that a version number may have. -/
def maxVersionDigits : Nat := 9

/-- Reads one number of a version. -/
def Cursor.takeVersionNumber (c : Cursor) (start : Mark) : Except Fault (Nat × Cursor) :=
  let (digits, after) := c.takeWhile Char.isDigit
  let fault := Fault.whileReading .versionDirective start
  if maxVersionDigits < digits.length then
    .error (fault .longVersionNumber (c.skip maxVersionDigits).mark)
  else if digits.isEmpty then .error (fault .noVersionNumber c.mark)
  else .ok (digits.foldl (fun n d => n * 10 + (d.toNat - '0'.toNat)) 0, after)

/-- Reads the two numbers of a version. -/
def Cursor.takeVersion (c : Cursor) (start : Mark) : Except Fault (TokenKind × Cursor) := do
  let (major, c) ← c.skipGaps.takeVersionNumber start
  if !c.isAt '.' then throw (.whileReading .versionDirective start .noVersionPoint c.mark)
  let (minor, c) ← (c.skip 1).takeVersionNumber start
  return (.versionDirective major minor, c)

/-- Reads a handle and the prefix that it stands for. -/
def Cursor.takeHandlePrefix (c : Cursor) (start : Mark) : Except Fault (TokenKind × Cursor) := do
  let context := TagContext.mk true start
  let (handle, c) ← c.skipGaps.takeHandle context
  if !c.atGap then throw (.whileReading .tagDirective start .noWhitespace c.mark)
  let (replacement, c) ← c.skipGaps.takeTagText true [] context
  if !c.atSeparator then throw (.whileReading .tagDirective start .noWhitespaceOrBreak c.mark)
  return (.tagDirective (String.ofList handle) (String.ofList replacement), c)

/-- Reads a directive from its percent sign to the end of its line. -/
def Cursor.takeDirective (c : Cursor) : TokenRead := do
  let start := c.mark
  let fault := Fault.whileReading .directive start
  let (name, c) := (c.skip 1).takeWhile isWordChar
  if name.isEmpty then throw (fault .noDirectiveName c.mark)
  if !c.atSeparator then throw (fault .directiveNameNotOver c.mark)
  let (kind, c) ← match String.ofList name with
    | "YAML" => c.takeVersion start
    | "TAG" => c.takeHandlePrefix start
    | _ => throw (fault .unknownDirective c.mark)
  match c.finishLine? with
  | some after => return (⟨kind, start, c.mark⟩, after)
  | none => throw (fault .lineNotOver c.skipGaps.mark)

end Workday.Yaml
