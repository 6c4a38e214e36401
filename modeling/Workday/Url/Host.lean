import Workday.Text
import Workday.Url.Domain

/-!
# Hosts

The host of a URL is a domain name, an IPv4 address or an IPv6 address. A name whose last label is
a number is an IPv4 address in one of its spellings or an error.
-/

set_option autoImplicit false

namespace Workday.Url

open Workday.Text (decimalDigits decodeUtf8? digitsValue digitValue hexDigitValue? splitAt)

/-- Where a URL points. -/
inductive Host where
  /-- A domain name in ASCII; empty for a URL with an authority that names no host. -/
  | domain (name : String)
  /-- An address of 32 bits. -/
  | ipv4 (address : Nat)
  /-- An address of eight pieces of 16 bits. -/
  | ipv6 (pieces : List Nat)
  deriving DecidableEq, Repr

/-- Why a text is no URL. -/
inductive Fault where
  | emptyHost
  | invalidDomain
  | invalidPort
  | invalidIpv4
  | invalidIpv6
  | forbiddenHostCharacter
  /-- The text has no scheme, and there is no URL that it could be relative to. -/
  | relativeWithoutBase
  /-- The text has no scheme, and the URL it is relative to has no hierarchy. -/
  | relativeToOpaque
  deriving DecidableEq, Repr

/-- The wording of a fault. -/
def Fault.message : Fault → String
  | emptyHost => "empty host"
  | invalidDomain => "invalid international domain name"
  | invalidPort => "invalid port number"
  | invalidIpv4 => "invalid IPv4 address"
  | invalidIpv6 => "invalid IPv6 address"
  | forbiddenHostCharacter => "invalid domain character"
  | relativeWithoutBase => "relative URL without a base"
  | relativeToOpaque => "relative URL with a cannot-be-a-base base"

namespace Host

/-- The value of a run of digits in a base; none if one is no digit of the base. -/
def valueIn? (base : Nat) (s : List Char) : Option Nat :=
  s.foldlM (fun n c => do
    let v ← hexDigitValue? c
    if v < base then some (n * base + v) else none) 0

/-- A number of an IPv4 address: hexadecimal after `0x`, octal after a zero, else decimal. -/
def ipv4Number? (s : List Char) : Option Nat :=
  match s with
  | [] => none
  | '0' :: 'x' :: r | '0' :: 'X' :: r => valueIn? 16 r
  | '0' :: c :: r => valueIn? 8 (c :: r)
  | s => valueIn? 10 s

/-- Whether the last label of a name, or the one before a final full stop, is a number. -/
def endsInNumber (name : List Char) : Bool :=
  let last := match (splitAt (· == '.') name).reverse with
    | [] :: label :: _ => label
    | label :: _ => label
    | [] => []
  (!last.isEmpty && last.all Char.isDigit) || (ipv4Number? last).isSome

/-- An IPv4 address: up to four numbers, of which the last fills what the others leave. -/
def readIpv4 (name : List Char) : Except Fault Nat :=
  let parts := match (splitAt (· == '.') name).reverse with
    | [] :: labels => labels
    | labels => labels
  match parts.mapM ipv4Number? with
  | some (last :: others) =>
    if 3 < others.length ∨ others.any (255 < ·) ∨ Nat.pow 256 (4 - others.length) ≤ last then
      .error .invalidIpv4
    else
      .ok (others.reverse.foldr (fun n rest => n * 16777216 + rest / 256) 0 + last)
  | _ => .error .invalidIpv4

/-- The four decimal numbers that end an IPv6 address, as two pieces. -/
def readTail (s : List Char) : Option (List Nat) := do
  let numbers ← (splitAt (· == '.') s).mapM fun part =>
    match part with
    | [] => none
    | ['0'] => some 0
    | '0' :: _ => none
    | part => if part.all Char.isDigit ∧ digitsValue part ≤ 255 then some (digitsValue part) else none
  match numbers with
  | [a, b, c, d] => some [256 * a + b, 256 * c + d]
  | _ => none

/-- Pieces separated by single colons; the last may be an IPv4 address. -/
def readPieces (s : List Char) : Option (List Nat) :=
  let parts := splitAt (· == ':') s
  match parts.reverse with
  | last :: others => do
    let piece := fun (p : List Char) =>
      if p.isEmpty ∨ 4 < p.length then none else (valueIn? 16 p).map fun n => [n]
    let tail ← if last.contains '.' then readTail last else piece last
    let front ← others.reverse.mapM piece
    return front.flatten ++ tail
  | [] => none

/-- Cuts a text at the first double colon. -/
def splitGap : List Char → Option (List Char × List Char)
  | ':' :: ':' :: r => some ([], r)
  | c :: r => (splitGap r).map fun (a, b) => (c :: a, b)
  | [] => none

/-- An IPv6 address: eight pieces, or fewer with a double colon for the zeros left out. -/
def readIpv6 (s : List Char) : Except Fault (List Nat) :=
  let pieces := fun (p : List Char) => if p.isEmpty then some [] else readPieces p
  let read := match splitGap s with
    | none => (readPieces s).filter fun ps => ps.length = 8
    | some (front, rear) => do
      let a ← pieces front
      let b ← pieces rear
      if front.contains '.' ∨ 8 ≤ a.length + b.length then none
      else some (a ++ List.replicate (8 - a.length - b.length) 0 ++ b)
  match read with
  | some ps => .ok ps
  | none => .error .invalidIpv6

/-- Reads the text between brackets, if a host begins with one. -/
def readBracketed (s : List Char) : Except Fault Host :=
  match s.reverse with
  | ']' :: r => Host.ipv6 <$> readIpv6 r.reverse
  | _ => .error .invalidIpv6

/-- The host of a URL of a special scheme. -/
def read (s : List Char) : Except Fault Host :=
  match s with
  | '[' :: r => readBracketed r
  | s =>
    match (decodeUtf8? (percentDecode s)).bind fun t => Domain.toAscii? t.toList with
    | none => .error .invalidDomain
    | some [] => .error .emptyHost
    | some name =>
      if endsInNumber name then Host.ipv4 <$> readIpv4 name
      else .ok (.domain (String.ofList name))

/-- The host of a URL of any other scheme. -/
def readOpaque (s : List Char) : Except Fault Host :=
  match s with
  | '[' :: r => readBracketed r
  | s =>
    if s.any fun c => "\x00\t\n\r #/:<>?@[\\]^|".toList.contains c then
      .error .forbiddenHostCharacter
    else .ok (.domain (String.ofList (percentEncode .control s)))

/-- The longest run of zeros, if it has two or more, as where it begins and how long it is. -/
def longestGap (pieces : List Nat) : Option (Nat × Nat) :=
  let runs := (List.range pieces.length).map fun i =>
    (i, ((pieces.drop i).takeWhile (· == 0)).length)
  let best := runs.foldl (fun best run => if best.2 < run.2 then run else best) (0, 0)
  if 2 ≤ best.2 then some best else none

/-- Pieces in hexadecimal, separated by colons. -/
def formatPieces (pieces : List Nat) : String :=
  ":".intercalate (pieces.map fun n => String.ofList (Nat.toDigits 16 n))

/-- An IPv6 address without the brackets. -/
def formatIpv6 (pieces : List Nat) : String :=
  match longestGap pieces with
  | none => formatPieces pieces
  | some (i, n) => formatPieces (pieces.take i) ++ "::" ++ formatPieces (pieces.drop (i + n))

/-- An IPv4 address as four decimal numbers. -/
def formatIpv4 (address : Nat) : String :=
  ".".intercalate ([16777216, 65536, 256, 1].map fun unit => toString (address / unit % 256))

/-- The host as it stands in a URL. -/
def format : Host → String
  | domain name => name
  | ipv4 address => formatIpv4 address
  | ipv6 pieces => "[" ++ formatIpv6 pieces ++ "]"

end Host

end Workday.Url
