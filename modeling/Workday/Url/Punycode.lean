/-!
# Punycode

A label of a domain name with characters past ASCII is written in ASCII: its ASCII characters, then
for each other character, in increasing order, how far it lies from the one before. The distances
are numbers of base 36 whose digit thresholds adapt to the distances seen.
-/

set_option autoImplicit false

namespace Workday.Url.Punycode

/-- The digit of a value: letters, then decimal digits. -/
def digit (n : Nat) : Char :=
  if n < 26 then Char.ofNat (0x61 + n) else Char.ofNat (0x30 + (n - 26))

/-- The value of a digit. -/
def value? (c : Char) : Option Nat :=
  if 'a' ≤ c ∧ c ≤ 'z' then some (c.toNat - 0x61)
  else if 'A' ≤ c ∧ c ≤ 'Z' then some (c.toNat - 0x41)
  else if c.isDigit then some (c.toNat - 0x30 + 26)
  else none

/-- From which value on a digit at a place is not the last of its number. -/
def threshold (place bias : Nat) : Nat :=
  min 26 (max 1 (place - bias))

/-- Divides by 35 until the value is at most 455, counting in steps of 36. -/
def settle (delta count : Nat) : Nat × Nat :=
  if 455 < delta then settle (delta / 35) (count + 36) else (delta, count)
termination_by delta

/-- The bias after a distance, when so many characters have been placed. -/
def adapt (delta placed : Nat) (isFirst : Bool) : Nat :=
  let scaled := if isFirst then delta / 700 else delta / 2
  let (rest, count) := settle (scaled + scaled / placed) 0
  count + 36 * rest / (rest + 38)

/-- The digits of a distance from a place on. -/
def distance (bias place n : Nat) : List Char :=
  let t := threshold place bias
  if n < t then [digit n]
  else digit (t + (n - t) % (36 - t)) :: distance bias (place + 36) ((n - t) / (36 - t))
termination_by n
decreasing_by
  have h1 : 1 ≤ threshold place bias := by simp only [threshold]; omega
  have h2 := Nat.div_le_self (n - threshold place bias) (36 - threshold place bias)
  omega

/-- An encoding under way. -/
structure Encoding where
  out : List Char
  delta : Nat
  bias : Nat
  placed : Nat

/-- Passes over one character of the label while the code point `m` is being placed. -/
def Encoding.pass (basic m : Nat) (e : Encoding) (c : Char) : Encoding :=
  if c.toNat < m then { e with delta := e.delta + 1 }
  else if c.toNat = m then
    { out := e.out ++ distance e.bias 36 e.delta
      delta := 0
      bias := adapt e.delta (e.placed + 1) (e.placed == basic)
      placed := e.placed + 1 }
  else e

/-- Places the code points of a list, in increasing order, the last one placed being `n - 1`. -/
def Encoding.place (label : List Char) (basic : Nat) : List Nat → Nat → Encoding → Encoding
  | [], _, e => e
  | m :: rest, n, e =>
    let e := { e with delta := e.delta + (m - n) * (e.placed + 1) }
    let e := label.foldl (Encoding.pass basic m) e
    place label basic rest (m + 1) { e with delta := e.delta + 1 }

/-- A label in ASCII. -/
def encode (label : List Char) : List Char :=
  let basic := label.filter fun c => c.toNat < 0x80
  let others := (label.filter fun c => 0x80 ≤ c.toNat).map Char.toNat
  let points := (others.mergeSort fun a b => decide (a ≤ b)).eraseDups
  let e := Encoding.place label basic.length points 0x80 ⟨[], 0, 72, basic.length⟩
  basic ++ (if basic.isEmpty then [] else ['-']) ++ e.out

/-- A decoding under way. -/
structure Decoding where
  out : List Char
  /-- The code point last placed. -/
  point : Nat
  /-- Where it was placed, with the digits of the distance read so far. -/
  position : Nat
  /-- Where the distance began. -/
  start : Nat
  weight : Nat
  place : Nat
  bias : Nat

/-- Reads one digit. -/
def Decoding.step (d : Decoding) (c : Char) : Option Decoding := do
  let v ← value? c
  let position := d.position + v * d.weight
  let t := threshold d.place d.bias
  if t ≤ v then
    return { d with position, weight := d.weight * (36 - t), place := d.place + 36 }
  let count := d.out.length + 1
  let point := d.point + position / count
  if 0x10FFFF < point ∨ (0xD800 ≤ point ∧ point ≤ 0xDFFF) then none
  let at' := position % count
  return {
    out := d.out.take at' ++ Char.ofNat point :: d.out.drop at'
    point
    position := at' + 1
    start := at' + 1
    weight := 1
    place := 36
    bias := adapt (position - d.start) count (d.start == 0) }

/-- The label that ASCII stands for, if it stands for one. -/
def decode? (s : List Char) : Option (List Char) := do
  let basic := (s.reverse.dropWhile (· != '-')).drop 1 |>.reverse
  let digits := if s.contains '-' then s.drop (basic.length + 1) else s
  if basic.any fun c => 0x80 ≤ c.toNat then none
  let d ← digits.foldlM Decoding.step ⟨basic, 0x80, 0, 0, 1, 36, 72⟩
  if d.place = 36 then return d.out else none

end Workday.Url.Punycode
