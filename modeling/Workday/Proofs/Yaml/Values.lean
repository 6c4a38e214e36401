import Workday.Proofs.Text.Digits
import Workday.Yaml.Reader

/-!
# Reading scalars as values

A text between double quotes is read as that text wherever a text is wanted, and digits as their number: the
style of a scalar keeps the one from being taken for anything else, and the other has no zeros to spare.
-/

set_option autoImplicit false

namespace Workday.Yaml

open Text (decimalDigits decimalDigits_ne_nil digitValue digitValue_lt digitsValue
  digitsValue_decimalDigits eq_zero_of_head?_decimalDigits hexDigitValue? hexDigitValue?_of_isDigit
  isDigit_of_mem_decimalDigits)

variable {α β : Type} {d : Document} {path : List String} {tag : Option String} {scalar : Scalar}
  {mark : Mark} {rest : Spot}

/-- The next part, whatever fault the document has: a fault counts only where the parts end. -/
theorem Spot.next_cons (d : Document) (part : Part × Mark) (rest : Spot) :
    Spot.next d (part :: rest) = .ok (part, rest) := by
  cases h : d.fault <;> simp only [Spot.next]

/-! ## Numbers -/

/-- Digits are read to their number. -/
theorem digitsIn?_ten {s : List Char} (hne : s ≠ []) (hs : ∀ c ∈ s, c.isDigit = true) :
    digitsIn? 10 s = some (digitsValue s) := by
  have hfold : ∀ n, s.foldlM (fun n c => do
      let v ← hexDigitValue? c
      if v < 10 then some (n * 10 + v) else none) n =
        some (s.foldl (fun n c => n * 10 + digitValue c) n) := by
    clear hne
    induction s with
    | nil => exact fun n => rfl
    | cons c s ih =>
      intro n
      have hc := hs c List.mem_cons_self
      rw [List.foldlM_cons, hexDigitValue?_of_isDigit hc, List.foldl_cons]
      simp only [Option.bind_eq_bind, Option.bind_some, if_pos (digitValue_lt hc)]
      exact ih (fun x hx => hs x (List.mem_cons_of_mem c hx)) _
  rw [digitsIn?, if_neg (by simpa using hne)]
  exact hfold 0

/-- A number that does not begin with a zero has neither a sign nor another base. A zero in front would
be that of a base, or make it no number. -/
theorem natural?_cons {c : Char} {r : List Char} (hdigit : c.isDigit = true) (hzero : c ≠ '0') :
    natural? (c :: r) = digitsIn? 10 (c :: r) := by
  have hplus : c ≠ '+' := by
    rintro rfl
    cases hdigit
  have hminus : c ≠ '-' := by
    rintro rfl
    cases hdigit
  have hsign : withoutSign (c :: r) = c :: r := by
    unfold withoutSign
    split
    next heq => exact absurd (List.cons.inj heq).1 hplus
    next heq => exact absurd (List.cons.inj heq).1 hminus
    next => rfl
  have hspare : hasSpareZero (c :: r) = false := by
    rw [hasSpareZero, hsign]
    split
    next heq => exact absurd (List.cons.inj heq).1 hzero
    next => rfl
  rw [natural?, hspare, if_neg Bool.false_ne_true]
  · unfold magnitude?
    split
    next heq => exact absurd (List.cons.inj heq).1 hzero
    next heq => exact absurd (List.cons.inj heq).1 hzero
    next heq => exact absurd (List.cons.inj heq).1 hzero
    next => rfl
  · exact fun _ heq => hplus (List.cons.inj heq).1

/-- A number is read back from its digits. Only zero is written with a zero in front, and it has no
other digit. -/
theorem natural?_decimalDigits (n : Nat) : natural? (decimalDigits n) = some n := by
  have hdigits := digitsIn?_ten (decimalDigits_ne_nil n) fun c => isDigit_of_mem_decimalDigits
  rw [digitsValue_decimalDigits] at hdigits
  by_cases hn : n = 0
  · subst hn
    rw [decimalDigits]
    decide
  · obtain ⟨c, r, hs⟩ := List.exists_cons_of_ne_nil (decimalDigits_ne_nil n)
    have hc : c.isDigit = true :=
      isDigit_of_mem_decimalDigits (hs ▸ List.mem_cons_self : c ∈ decimalDigits n)
    have hzero : c ≠ '0' := by
      rintro rfl
      exact hn (eq_zero_of_head?_decimalDigits (by rw [hs]; rfl))
    rw [← hdigits, hs]
    exact natural?_cons hc hzero

/-! ## Scalars -/

/-- A text between double quotes, as a scalar. -/
def quoted (s : String) : Scalar := ⟨s, .doubleQuoted⟩

/-- A number in decimal digits, as a scalar. -/
def decimal (n : Nat) : Scalar := ⟨String.ofList (decimalDigits n), .plain⟩

theorem natural?_decimal (n : Nat) : natural? (decimal n).value.toList = some n := by
  have hdigits : (decimal n).value.toList = decimalDigits n := String.toList_ofList
  rw [hdigits, natural?_decimalDigits]

namespace Reader

/-- A scalar is read as it stands: it is no reference to another part. -/
theorem node_scalar {read : Document → List String → Part × Mark → Spot → Except ReadFault (α × Spot)} :
    node read d path ((.scalar tag scalar, mark) :: rest) = read d path (.scalar tag scalar, mark) rest := by
  rw [node, Spot.next_cons]
  rfl

/-- A scalar is read as its text wherever a text is wanted. -/
theorem text_scalar {wanted : String} :
    text wanted d path ((.scalar tag scalar, mark) :: rest) = .ok (scalar.value, rest) :=
  node_scalar

/-- Each number of 64 bits is read back from its digits. -/
theorem natural64_decimal (n : UInt64) :
    natural64 d path ((.scalar tag (decimal n.toNat), mark) :: rest) = .ok (n.toNat, rest) := by
  have hle : n.toNat ≤ mostNatural64 := Nat.le_of_lt_succ n.toNat_lt
  have hplain : mayBeNumber tag (decimal n.toNat) = true := rfl
  rw [natural64, node_scalar]
  simp only [hplain, if_true, natural?_decimal, Option.filter_some, decide_eq_true hle]

/-- A text between quotes is something, even if the same text without them would be nothing. -/
theorem optional_quoted {within : List String × Mark} {wanted : String} (s : String) :
    optional within (text wanted) d path ((.scalar tag (quoted s), mark) :: rest) =
      .ok (some s, rest) := by
  have hsome : isNothing tag (quoted s) = .ok false := rfl
  simp only [optional, Spot.next_cons, bind, Except.bind, pure, Except.pure, hsome, text_scalar,
    Bool.false_eq_true, if_false]
  rfl

/-- Reading a field sets what has been read. -/
theorem read_field {name : String} {read : Reader β} {set : α → β → α} {value : β} {a : α}
    {within : List String × Mark} {spot : Spot} (h : read d path spot = .ok (value, rest)) :
    (field name read set).read within a d path spot = .ok (set a value, rest) := by
  simp only [field, Reader.map, h]
  rfl

end Reader

end Workday.Yaml
