/-!
# Texts

What every reader and writer here does with texts: their form as bytes, the pieces they are cut into,
and the two kinds of sets of characters that readers ask about, sets given by their runs of code points
and the blanks that stand around a value.
-/

set_option autoImplicit false

namespace Workday.Text

/-! ## Bytes -/

/-- The bytes of a text, its UTF-8 form. -/
def utf8 (s : String) : List UInt8 := s.toList.flatMap String.utf8EncodeChar

/-- The text that bytes encode, if they are UTF-8. -/
def decodeUtf8? (bytes : List UInt8) : Option String :=
  String.fromUTF8? ⟨bytes.toArray⟩

/-! ## Pieces -/

/-- Cuts a list at each element that satisfies a test. -/
def splitAt (test : Char → Bool) : List Char → List (List Char)
  | [] => [[]]
  | c :: r =>
    match splitAt test r with
    | piece :: pieces => if test c then [] :: piece :: pieces else (c :: piece) :: pieces
    | [] => [[]]

/-- However often a list is cut, there is a piece. -/
theorem splitAt_ne_nil (test : Char → Bool) (b : List Char) : splitAt test b ≠ [] := by
  cases b with
  | nil => exact List.cons_ne_nil _ _
  | cons c b =>
    rw [splitAt]
    split
    · split <;> exact List.cons_ne_nil _ _
    · exact List.cons_ne_nil _ _

/-! ## Sets of characters -/

/-- A set of code points, given by the bounds at which membership changes, in increasing order. The
first bound opens the first run, the second is the first code point after it. -/
structure Runs where
  bounds : List Nat

namespace Runs

/-- Whether membership has changed an odd number of times up to a code point. -/
def hasFrom : List Nat → Bool → Nat → Bool
  | [], inside, _ => inside
  | bound :: bounds, inside, n => if n < bound then inside else hasFrom bounds (!inside) n

/-- Membership. -/
def has (runs : Runs) (n : Nat) : Bool := hasFrom runs.bounds false n

end Runs

/-! ## Blanks -/

/-- The Unicode property White_Space, which 25 code points have. Core's `Char.isWhitespace` knows four
of them. -/
def isBlank (c : Char) : Bool :=
  let n := c.toNat
  (0x9 ≤ n && n ≤ 0xD) || n == 0x20 || n == 0x85 || n == 0xA0 || n == 0x1680
    || (0x2000 ≤ n && n ≤ 0x200A) || n == 0x2028 || n == 0x2029 || n == 0x202F
    || n == 0x205F || n == 0x3000

/-- Drops blanks at the front. -/
def trimStart (s : List Char) : List Char :=
  s.dropWhile isBlank

/-- Drops blanks at the end. -/
def trimEnd (s : List Char) : List Char :=
  (s.reverse.dropWhile isBlank).reverse

/-- Drops blanks at both ends. -/
def trim (s : List Char) : List Char :=
  trimEnd (trimStart s)

end Workday.Text
