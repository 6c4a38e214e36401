import Workday.Json.Decoder
import Workday.Proofs.Json.Document

/-!
# Cursors on texts

A cursor holds a text if what is left for it are the bytes of that text. This module says what the
steps of a cursor do to the text it holds; the marks, which only faults tell, are passed over. Every
token begins with an ASCII character, so a cursor before a token sees that character
(`Cursor.Holds.peek`); other characters stand within strings only.
-/

set_option autoImplicit false

namespace Workday.Json

open Workday.Text (utf8)

/-- The bytes of a text. -/
def bytesOf (s : List Char) : List UInt8 := s.flatMap String.utf8EncodeChar

/-- The bytes of a text are those of its characters. -/
theorem utf8_eq_bytesOf (s : String) : utf8 s = bytesOf s.toList := rfl

/-- The bytes of two texts in a row are the bytes of the first and then those of the second. -/
theorem bytesOf_append (s t : List Char) : bytesOf (s ++ t) = bytesOf s ++ bytesOf t :=
  List.flatMap_append

theorem bytesOf_cons (x : Char) (s : List Char) :
    bytesOf (x :: s) = String.utf8EncodeChar x ++ bytesOf s := rfl

def IsAscii (x : Char) : Prop := x.toNat < 128

instance (x : Char) : Decidable (IsAscii x) := inferInstanceAs (Decidable (x.toNat < 128))

/-- What a computation finds true of a list of characters holds of each of them. So the finite sets of
the grammar are gone through once, by evaluation, and not character by character in each proof. -/
theorem forall_mem_of_all {p : Char → Prop} [DecidablePred p] {s : List Char}
    (h : s.all (fun x => decide (p x)) = true) : ∀ x ∈ s, p x := by
  intro x hx
  exact of_decide_eq_true (List.all_eq_true.mp h x hx)

/-- An ASCII character is one byte, its number. -/
theorem utf8EncodeChar_of_ascii {x : Char} (h : IsAscii x) :
    String.utf8EncodeChar x = [UInt8.ofNat x.toNat] := by
  have hle : x.val.toNat ≤ 0x7f := Nat.le_of_lt_succ h
  simp only [String.utf8EncodeChar, if_pos hle]
  rfl

/-- The byte of an ASCII character is read as this character. -/
theorem byteChar_of_ascii {x : Char} (h : IsAscii x) : byteChar (UInt8.ofNat x.toNat) = x := by
  have hbyte : (UInt8.ofNat x.toNat).toNat = x.toNat :=
    UInt8.toNat_ofNat_of_lt (Nat.lt_trans h (by decide))
  rw [byteChar, hbyte, Char.ofNat_toNat]

/-- A text that starts with an ASCII character starts with the byte of it. -/
theorem bytesOf_cons_of_ascii {x : Char} (h : IsAscii x) (s : List Char) :
    bytesOf (x :: s) = UInt8.ofNat x.toNat :: bytesOf s := by
  rw [bytesOf_cons, utf8EncodeChar_of_ascii h]
  rfl

/-- A text has at least as many bytes as characters. Where the fuel of a reader counts bytes it is
enough for the characters. -/
theorem length_le_length_bytesOf (s : List Char) : s.length ≤ (bytesOf s).length := by
  induction s with
  | nil => exact Nat.le_refl 0
  | cons x s ih =>
    have hpos : 0 < (String.utf8EncodeChar x).length :=
      List.length_pos_iff.mpr String.utf8EncodeChar_ne_nil
    rw [bytesOf_cons, List.length_append, List.length_cons]
    omega

/-- A reading ends in a fault. -/
def Fails {α : Type} (result : Except Fault α) : Prop := ∃ fault, result = .error fault

/-- A computation that has failed is not gone on with. -/
theorem Fails.bind {α β : Type} {result : Except Fault α} (h : Fails result)
    (next : α → Except Fault β) : Fails (result >>= next) := by
  obtain ⟨fault, rfl⟩ := h
  exact ⟨fault, rfl⟩

theorem Cursor.fails_fail {α : Type} (c : Cursor) (problem : Problem) :
    Fails (c.fail problem : Except Fault α) := ⟨_, rfl⟩

/-- A cursor has the bytes of a text left. -/
def Cursor.Holds (c : Cursor) (s : List Char) : Prop := c.rest = bytesOf s

namespace Cursor

variable {c : Cursor} {x : Char} {a s r : List Char}

/-- The first byte of the rest is the one that is seen. -/
theorem peek_of_rest {b : UInt8} {bs : List UInt8} (h : c.rest = b :: bs) :
    c.peek? = some (byteChar b) := by
  rw [peek?, h]
  rfl

/-- A cursor before an ASCII character has its byte ahead. -/
theorem Holds.rest_cons (h : c.Holds (x :: s)) (hx : IsAscii x) :
    c.rest = UInt8.ofNat x.toNat :: bytesOf s := by
  rw [h, bytesOf_cons_of_ascii hx]

theorem Holds.peek (h : c.Holds (x :: s)) (hx : IsAscii x) : c.peek? = some x := by
  rw [peek_of_rest (h.rest_cons hx), byteChar_of_ascii hx]

theorem Holds.peek_nil (h : c.Holds []) : c.peek? = none := by
  rw [peek?, h]
  rfl

theorem skip_rest {b : UInt8} {bs : List UInt8} (h : c.rest = b :: bs) : c.skip.rest = bs := by
  unfold skip
  split
  next hnil => rw [hnil] at h; cases h
  next hcons => rw [hcons] at h; cases h; rfl

/-- A cursor that skips an ASCII character stands before what follows. -/
theorem Holds.skip (h : c.Holds (x :: s)) (hx : IsAscii x) : c.skip.Holds s :=
  skip_rest (h.rest_cons hx)

/-! ## Runs of characters -/

/-- A text begins with no character that satisfies a test, and is ASCII there. -/
def Stops (test : Char → Bool) (s : List Char) : Prop :=
  ∀ x ∈ s.head?, IsAscii x ∧ test x = false

/-- A run stops at the first character that fails the test. -/
theorem stops_cons {test : Char → Bool} (hx : IsAscii x) (h : test x = false) :
    Stops test (x :: s) := by
  intro y hy
  cases hy
  exact ⟨hx, h⟩

/-- A run of characters that pass the test is skipped as a whole, up to where it stops. The
induction is on the run; the mark is carried along and plays no part. -/
theorem skipWhile_go_rest {test : Char → Bool} (ha : ∀ x ∈ a, IsAscii x ∧ test x = true)
    (hs : Stops test s) (m : Mark) : (skipWhile.go test (bytesOf (a ++ s)) m).rest = bytesOf s := by
  induction a generalizing m with
  | nil =>
    cases s with
    | nil => rfl
    | cons x s =>
      obtain ⟨hx, hstop⟩ := hs x rfl
      rw [List.nil_append, bytesOf_cons_of_ascii hx, skipWhile.go, byteChar_of_ascii hx, hstop]
      rfl
  | cons y a ih =>
    obtain ⟨hy, hgo⟩ := ha y List.mem_cons_self
    rw [List.cons_append, bytesOf_cons_of_ascii hy, skipWhile.go, byteChar_of_ascii hy, if_pos hgo]
    exact ih (fun x hx => ha x (List.mem_cons_of_mem y hx)) _

/-- A cursor that skips a run stands before what stops it. -/
theorem Holds.skipWhile {test : Char → Bool} (h : c.Holds (a ++ s))
    (ha : ∀ x ∈ a, IsAscii x ∧ test x = true) (hs : Stops test s) : (c.skipWhile test).Holds s := by
  rw [Cursor.skipWhile, h]
  exact skipWhile_go_rest ha hs c.mark

/-- The four characters of white space are ASCII, and the reader takes them for white space. -/
theorem isSpace_of_mem (h : x ∈ spaces) : IsAscii x ∧ isSpace x = true := by
  simp only [spaces, List.mem_cons, List.not_mem_nil, or_false] at h
  rcases h with rfl | rfl | rfl | rfl <;> decide

/-- White space is skipped up to the first character that is none. -/
theorem Holds.skipSpace (h : c.Holds (a ++ s)) (ha : IsSpace a) (hs : Stops isSpace s) :
    c.skipSpace.Holds s :=
  h.skipWhile (fun x hx => isSpace_of_mem (ha x hx)) hs

/-- Behind white space the next character is seen, and the cursor stands before it. -/
theorem Holds.peek_skipSpace (h : c.Holds (a ++ x :: s)) (ha : IsSpace a)
    (hx : IsAscii x) (hstop : isSpace x = false) :
    c.skipSpace.peek? = some x ∧ c.skipSpace.Holds (x :: s) := by
  have hholds := h.skipSpace ha (stops_cons hx hstop)
  exact ⟨hholds.peek hx, hholds⟩

/-- A word that is ahead is taken, and the cursor stands behind it. -/
theorem Holds.takeWord (word : List Char) (h : c.Holds (word ++ s))
    (hword : ∀ x ∈ word, IsAscii x) : ∃ c', c.takeWord word = .ok c' ∧ c'.Holds s := by
  induction word generalizing c with
  | nil => exact ⟨c, rfl, h⟩
  | cons x word ih =>
    have hx := hword x List.mem_cons_self
    rw [Cursor.takeWord, h.peek hx]
    simp only [beq_self_eq_true, if_true]
    exact ih (h.skip hx) fun y hy => hword y (List.mem_cons_of_mem x hy)

end Cursor

/-! ## The tokens around values -/

/-- The characters that values begin with. -/
def valueStarts : List Char :=
  ['n', 't', 'f', '"', '[', '{', '-', '0', '1', '2', '3', '4', '5', '6', '7', '8', '9']

/-- What a value can start with is ASCII, is no white space and closes nothing. A reader that looks
at one character knows by this whether a value comes. -/
theorem of_mem_valueStarts {x : Char} (h : x ∈ valueStarts) :
    IsAscii x ∧ isSpace x = false ∧ x ≠ ']' ∧ x ≠ '}' := by
  have hall : ∀ y ∈ valueStarts, IsAscii y ∧ isSpace y = false ∧ y ≠ ']' ∧ y ≠ '}' :=
    forall_mem_of_all rfl
  exact hall x h

/-- A value can start with any digit. -/
theorem mem_valueStarts_of_isDigit {x : Char} (h : x.isDigit = true) : x ∈ valueStarts := by
  simp only [Char.isDigit, Bool.and_eq_true, decide_eq_true_eq] at h
  have hlow : 48 ≤ x.toNat := UInt32.le_iff_toNat_le.mp h.1
  have hhigh : x.toNat ≤ 57 := UInt32.le_iff_toNat_le.mp h.2
  have hall : ∀ n < 10, Char.ofNat (48 + n) ∈ valueStarts := by decide
  have hx := hall (x.toNat - 48) (by omega)
  rwa [Nat.add_sub_cancel' hlow, Char.ofNat_toNat] at hx

theorem isAscii_of_isDigit {x : Char} (h : x.isDigit = true) : IsAscii x :=
  (of_mem_valueStarts (mem_valueStarts_of_isDigit h)).1

/-- What stands before an element or a member: the comma after the one before, if there is one. -/
inductive Lead : Bool → List Char → Prop where
  | first : Lead true []
  | later {b : List Char} (space : IsSpace b) : Lead false (b ++ [','])

/-- A text that does not go on with the value that stands before it. -/
def Follows (s : List Char) : Prop := ∀ x ∈ s.head?, x ∈ spaces ++ [',', ']', '}']

/-- White space, a comma and closing brackets may follow a number. -/
theorem follows_cons {x : Char} (hx : x ∈ spaces ++ [',', ']', '}']) (s : List Char) :
    Follows (x :: s) := by
  intro y hy
  cases hy
  exact hx

/-- White space in front of what may follow a number changes nothing. -/
theorem follows_append {b s : List Char} (hb : IsSpace b) (hs : Follows s) : Follows (b ++ s) := by
  cases b with
  | nil => exact hs
  | cons x b => exact follows_cons (List.mem_append_left _ (hb x List.mem_cons_self)) (b ++ s)

namespace Cursor

variable {c : Cursor} {x : Char} {a b s r lead : List Char} {first : Bool}

/-- Before a value its first character is told, and the cursor stands before it. -/
theorem Holds.beforeValue (h : c.Holds (a ++ x :: s)) (ha : IsSpace a) (hx : x ∈ valueStarts) :
    ∃ c', c.beforeValue = .ok (x, c') ∧ c'.Holds (x :: s) := by
  obtain ⟨hascii, hspace, _⟩ := of_mem_valueStarts hx
  obtain ⟨hpeek, hholds⟩ := h.peek_skipSpace ha hascii hspace
  refine ⟨c.skipSpace, ?_, hholds⟩
  simp only [Cursor.beforeValue, hpeek]

/-- Where another element comes, first or behind a comma, it is announced, and the cursor stands
before it. -/
theorem Holds.nextElement (h : c.Holds (lead ++ (a ++ x :: s))) (hlead : Lead first lead)
    (ha : IsSpace a) (hx : x ∈ valueStarts) :
    ∃ c', c.nextElement first = .ok (true, c') ∧ c'.Holds (x :: s) := by
  obtain ⟨hascii, hspace, hclose, _⟩ := of_mem_valueStarts hx
  cases hlead with
  | first =>
    obtain ⟨hpeek, hholds⟩ := Holds.peek_skipSpace h ha hascii hspace
    refine ⟨c.skipSpace, ?_, hholds⟩
    simp only [Cursor.nextElement, hpeek, if_true]
  | later space =>
    rw [List.append_assoc] at h
    obtain ⟨hpeek, hholds⟩ := Holds.peek_skipSpace h space (by decide) (by decide)
    have hafter := hholds.skip (by decide)
    obtain ⟨hpeek', hholds'⟩ := Holds.peek_skipSpace hafter ha hascii hspace
    refine ⟨_, ?_, hholds'⟩
    simp [Cursor.nextElement, hpeek, hpeek']

/-- Where the elements end it is told that none comes, and the bracket is left for whoever closes
the list. -/
theorem Holds.nextElement_end (h : c.Holds (b ++ ']' :: r)) (hb : IsSpace b) (first : Bool) :
    ∃ c', c.nextElement first = .ok (false, c') ∧ c'.Holds (']' :: r) := by
  obtain ⟨hpeek, hholds⟩ := h.peek_skipSpace hb (by decide) (by decide)
  refine ⟨c.skipSpace, ?_, hholds⟩
  simp only [Cursor.nextElement, hpeek]

/-- Where another member comes it is announced, and the cursor stands behind the quote that opens
its name. -/
theorem Holds.nextMember (h : c.Holds (lead ++ (a ++ '"' :: s))) (hlead : Lead first lead)
    (ha : IsSpace a) : ∃ c', c.nextMember first = .ok (true, c') ∧ c'.Holds s := by
  cases hlead with
  | first =>
    obtain ⟨hpeek, hholds⟩ := Holds.peek_skipSpace h ha (by decide) (by decide)
    refine ⟨_, ?_, hholds.skip (by decide)⟩
    simp [Cursor.nextMember, hpeek]
  | later space =>
    rw [List.append_assoc] at h
    obtain ⟨hpeek, hholds⟩ := Holds.peek_skipSpace h space (by decide) (by decide)
    have hafter := hholds.skip (by decide)
    obtain ⟨hpeek', hholds'⟩ := Holds.peek_skipSpace hafter ha (by decide) (by decide)
    refine ⟨_, ?_, hholds'.skip (by decide)⟩
    simp [Cursor.nextMember, hpeek, hpeek']

/-- Where the members end it is told that none comes, and the brace is left for whoever closes the
object. -/
theorem Holds.nextMember_end (h : c.Holds (b ++ '}' :: r)) (hb : IsSpace b) (first : Bool) :
    ∃ c', c.nextMember first = .ok (false, c') ∧ c'.Holds ('}' :: r) := by
  obtain ⟨hpeek, hholds⟩ := h.peek_skipSpace hb (by decide) (by decide)
  refine ⟨c.skipSpace, ?_, hholds⟩
  simp only [Cursor.nextMember, hpeek]

/-- The colon behind a name is taken with the white space before it. -/
theorem Holds.takeColon (h : c.Holds (b ++ ':' :: s)) (hb : IsSpace b) :
    ∃ c', c.takeColon = .ok c' ∧ c'.Holds s := by
  obtain ⟨hpeek, hholds⟩ := h.peek_skipSpace hb (by decide) (by decide)
  refine ⟨_, ?_, hholds.skip (by decide)⟩
  simp only [Cursor.takeColon, hpeek]

/-- The end of a list is taken with the white space before it. -/
theorem Holds.endList (h : c.Holds (b ++ ']' :: r)) (hb : IsSpace b) :
    ∃ c', c.endList = .ok c' ∧ c'.Holds r := by
  obtain ⟨hpeek, hholds⟩ := h.peek_skipSpace hb (by decide) (by decide)
  refine ⟨_, ?_, hholds.skip (by decide)⟩
  simp only [Cursor.endList, hpeek]

end Cursor

end Workday.Json
