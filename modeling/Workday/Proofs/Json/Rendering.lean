import Workday.Proofs.Json.Document

/-!
# Values that can be written

Every text can be written as a string, so values of texts and truth values have a document.
-/

set_option autoImplicit false

namespace Workday.Json

/-- Whether a character can be written as it stands. -/
def isBare (c : Char) : Bool := 32 ≤ c.toNat && c != '"' && c != '\\'

/-- A bare character may be written as it is. -/
theorem WrittenChar.of_isBare {c : Char} (h : isBare c = true) : WrittenChar c [c] := by
  simp only [isBare, Bool.and_eq_true, decide_eq_true_eq, bne_iff_ne] at h
  exact .plain (UInt32.le_iff_toNat_le.mpr h.1.1) h.1.2 h.2

/-- A text of bare characters may be written as it is. -/
theorem WrittenText.of_isBare {s : List Char} (h : s.all isBare = true) : WrittenText s s := by
  induction s with
  | nil => exact .nil
  | cons c s ih =>
    rw [List.all_cons, Bool.and_eq_true] at h
    exact .cons (.of_isBare h.1) (ih h.2)

theorem exists_hexDigit {n : Nat} (h : n < 16) : ∃ x, (x, n) ∈ hexDigits := by
  have hall : ∀ n < 16, ∃ p ∈ hexDigits, p.2 = n := by decide
  obtain ⟨p, hp, rfl⟩ := hall n h
  exact ⟨p.1, hp⟩

/-- Every 16-bit unit can be written with four hexadecimal digits, taken from its four parts of four
bits. -/
theorem exists_writtenUnit {n : Nat} (h : n < 0x10000) : ∃ s, WrittenUnit n s := by
  obtain ⟨w, hw⟩ := exists_hexDigit (n := n / 4096) (by omega)
  obtain ⟨x, hx⟩ := exists_hexDigit (n := n / 256 % 16) (by omega)
  obtain ⟨y, hy⟩ := exists_hexDigit (n := n / 16 % 16) (by omega)
  obtain ⟨z, hz⟩ := exists_hexDigit (n := n % 16) (by omega)
  exact ⟨[w, x, y, z], w, _, x, _, y, _, z, _, hw, hx, hy, hz, by omega, rfl⟩

/-- Every character can be written in a string: as it is, if it is bare, or by the escape of its
code point. What is not bare is an ASCII character, so one unit is enough. -/
theorem exists_writtenChar (c : Char) : ∃ s, WrittenChar c s := by
  by_cases hprintable : ' ' ≤ c
  · by_cases hquote : c = '"'
    · subst hquote
      exact ⟨['\\', '"'], .short (by decide)⟩
    by_cases hbackslash : c = '\\'
    · subst hbackslash
      exact ⟨['\\', '\\'], .short (by decide)⟩
    exact ⟨_, .plain hprintable hquote hbackslash⟩
  · have hcontrol : c.toNat < 32 :=
      UInt32.lt_iff_toNat_lt.mp (Char.lt_def.mp (Char.not_le.mp hprintable))
    obtain ⟨s, hs⟩ := exists_writtenUnit (n := c.toNat) (by omega)
    exact ⟨_, .unit hs⟩

/-- Every text can be written in a string, character by character. -/
theorem exists_writtenText (cs : List Char) : ∃ s, WrittenText cs s := by
  induction cs with
  | nil => exact ⟨[], .nil⟩
  | cons c cs ih =>
    obtain ⟨s, hs⟩ := exists_writtenChar c
    obtain ⟨t, ht⟩ := ih
    exact ⟨s ++ t, .cons hs ht⟩

/-- Every text has a string that stands for it. -/
theorem exists_writtenString (text : String) : ∃ s, WrittenString text s := by
  obtain ⟨s, hs⟩ := exists_writtenText text.toList
  exact ⟨s, .text hs⟩

/-- A text is the value of some piece of a document. -/
theorem exists_written_string (text : String) : ∃ s, Written (.value (.string text)) s := by
  obtain ⟨s, hs⟩ := exists_writtenString text
  exact ⟨_, .string hs⟩

theorem exists_written_bool (b : Bool) : ∃ s, Written (.value (.bool b)) s := by
  cases b with
  | true => exact ⟨_, .trueWord⟩
  | false => exact ⟨_, .falseWord⟩

/-- A value may be written without any white space around it. -/
theorem Written.spaced_nil {v : Value} {s : List Char} (h : Written (.value v) s) :
    Written (.spaced v) s := by
  have hspaced := Written.spaced isSpace_nil h isSpace_nil
  rwa [List.nil_append, List.append_nil] at hspaced

/-- If each element can be written, so can the array. An array of no elements has a form of its own;
any other is written element by element from the last. -/
theorem exists_written_array {vs : List Value} (h : ∀ v ∈ vs, ∃ s, Written (.value v) s) :
    ∃ s, Written (.value (.array vs)) s := by
  cases vs with
  | nil => exact ⟨_, .emptyArray isSpace_nil⟩
  | cons v vs =>
    suffices ∃ s, Written (.elements (v :: vs)) s by
      obtain ⟨s, hs⟩ := this
      exact ⟨_, .array hs⟩
    induction vs generalizing v with
    | nil =>
      obtain ⟨s, hs⟩ := h v List.mem_cons_self
      exact ⟨s, .element hs.spaced_nil⟩
    | cons w vs ih =>
      obtain ⟨s, hs⟩ := h v List.mem_cons_self
      obtain ⟨t, ht⟩ := ih w fun u hu => h u (List.mem_cons_of_mem v hu)
      exact ⟨_, .elements hs.spaced_nil ht⟩

/-- If the value of each member can be written, and each name is a text, so can the object be. The
names are written with whatever escapes they need. -/
theorem exists_written_object {ms : List Member} (hnamed : isNamed ms = true)
    (h : ∀ m ∈ ms, ∃ s, Written (.value m.2) s) : ∃ s, Written (.value (.object ms)) s := by
  have hname : ∀ m ∈ ms, ∃ n, WrittenString m.1 n := by
    intro m hm
    obtain ⟨name, hname⟩ := Option.isSome_iff_exists.mp (List.all_eq_true.mp hnamed m hm)
    rw [hname]
    exact exists_writtenString name
  cases ms with
  | nil => exact ⟨_, .emptyObject isSpace_nil⟩
  | cons m ms =>
    suffices ∃ s, Written (.members (m :: ms)) s by
      obtain ⟨s, hs⟩ := this
      exact ⟨_, .object hs⟩
    clear hnamed
    induction ms generalizing m with
    | nil =>
      obtain ⟨n, hn⟩ := hname m List.mem_cons_self
      obtain ⟨s, hs⟩ := h m List.mem_cons_self
      exact ⟨_, .member isSpace_nil hn isSpace_nil hs.spaced_nil⟩
    | cons m' ms ih =>
      obtain ⟨n, hn⟩ := hname m List.mem_cons_self
      obtain ⟨s, hs⟩ := h m List.mem_cons_self
      obtain ⟨t, ht⟩ := ih m' (fun u hu => h u (List.mem_cons_of_mem m hu))
        fun u hu => hname u (List.mem_cons_of_mem m hu)
      exact ⟨_, .members isSpace_nil hn isSpace_nil hs.spaced_nil ht⟩

/-- What can be written as a value can be written as a document. -/
theorem exists_document {v : Value} (h : ∃ s, Written (.value v) s) : ∃ text, IsDocument v text := by
  obtain ⟨s, hs⟩ := h
  refine ⟨String.ofList s, ?_⟩
  rw [IsDocument, String.toList_ofList]
  exact hs.spaced_nil

end Workday.Json
