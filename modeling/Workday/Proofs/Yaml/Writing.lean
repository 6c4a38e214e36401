import Workday.Proofs.Yaml.Scalar.Plain
import Workday.Proofs.Yaml.Values

/-!
# Everything can be written

Any text can be written between double quotes, whatever its characters, and a number in plain digits. From
ways to write their items a sequence is put together, and from that a mapping.
-/

set_option autoImplicit false

namespace Workday.Yaml

open Text (decimalDigits decimalDigits_ne_nil digitChar exists_of_mem_decimalDigits hexDigitValue?)

/-! ## Scalars -/

theorem exists_hexDigit {n : Nat} (h : n < 16) : ∃ d, hexDigitValue? d = some n := by
  have hall : ∀ n < 16, hexDigitValue? ("0123456789abcdef".toList.getD n ' ') = some n := by decide
  exact ⟨_, hall n h⟩

/-- A number has hexadecimal digits of any width that it fits in. -/
theorem exists_hexDigits (count : Nat) {n : Nat} (h : n < 16 ^ count) :
    ∃ ds : List Char, ds.length = count ∧ (∀ d ∈ ds, (hexDigitValue? d).isSome = true) ∧
      ds.foldlM (fun n c => (hexDigitValue? c).map (n * 16 + ·)) 0 = some n := by
  induction count generalizing n with
  | zero =>
    obtain rfl : n = 0 := by simpa using h
    exact ⟨[], rfl, List.forall_mem_nil _, rfl⟩
  | succ count ih =>
    obtain ⟨ds, hlength, hhex, hvalue⟩ := ih (n := n / 16) (by rw [Nat.pow_succ] at h; omega)
    obtain ⟨d, hd⟩ := exists_hexDigit (n := n % 16) (Nat.mod_lt n (by decide))
    refine ⟨ds ++ [d], by simp [hlength], ?_, ?_⟩
    · intro x hx
      rcases List.mem_append.mp hx with hx | hx
      · exact hhex x hx
      · rw [List.mem_singleton.mp hx, hd]
        rfl
    · rw [List.foldlM_append, hvalue]
      simp only [Option.bind_eq_bind, Option.bind_some, List.foldlM_cons, List.foldlM_nil, hd, Option.map_some]
      exact congrArg some (by omega)

/-- A character is read back from its code point. -/
theorem codePoint?_toNat (c : Char) : codePoint? c.toNat = some c := by
  have hvalid : c.toNat < 0xD800 ∨ 0xDFFF < c.toNat ∧ c.toNat < 0x110000 := c.valid
  have hpoint : (c.toNat < 0xD800 || (0xDFFF < c.toNat && c.toNat ≤ 0x10FFFF)) = true := by
    simp only [Bool.or_eq_true, Bool.and_eq_true, decide_eq_true_eq]
    omega
  rw [codePoint?, if_pos hpoint, Char.ofNat_toNat]

/-- Any character can be escaped. -/
theorem exists_quotedChar (c : Char) : ∃ w, QuotedChar false w c := by
  have hsmall : c.toNat < 16 ^ 8 := Nat.lt_of_lt_of_le c.val.toNat_lt (by decide)
  obtain ⟨ds, hlength, hhex, hvalue⟩ := exists_hexDigits 8 hsmall
  have hnumber : hexValue? 8 ds = some c.toNat := by
    rw [hexValue?, if_neg (by omega), List.take_of_length_le (by omega), hvalue]
  exact ⟨_, .long (x := 'U') rfl rfl hlength hhex hnumber (codePoint?_toNat c)⟩

/-- Any characters can be written between double quotes. -/
theorem exists_quotedText (t : List Char) : ∃ s, QuotedText false s t := by
  induction t with
  | nil => exact ⟨[], .nil⟩
  | cons c t ih =>
    obtain ⟨w, hw⟩ := exists_quotedChar c
    obtain ⟨s, hs⟩ := ih
    exact ⟨w ++ s, .cons hw hs⟩

/-- Any text can be written between double quotes. -/
theorem exists_written_quoted (s : String) : ∃ text, ScalarWritten text (quoted s) := by
  obtain ⟨inner, hinner⟩ := exists_quotedText s.toList
  have hwritten := ScalarWritten.quoted hinner
  rw [String.ofList_toList] at hwritten
  exact ⟨_, hwritten⟩

/-- Whether a word needs no quotes. -/
def isBare (s : List Char) : Bool :=
  !s.isEmpty && s.all (fun c => isInline c && !isGap c && c != '\uFEFF') && s.getLast? != some ':' &&
    startsPlain s && !startsDocumentMark s

/-- A word that needs no quotes is written as it is. -/
theorem written_bare {s : List Char} (h : isBare s = true) : ScalarWritten s ⟨String.ofList s, .plain⟩ := by
  simp only [isBare, Bool.and_eq_true, Bool.not_eq_true', List.isEmpty_eq_false_iff, List.all_eq_true,
    bne_iff_ne] at h
  obtain ⟨⟨⟨⟨hne, hinline⟩, hlast⟩, hstart⟩, hmark⟩ := h
  exact .plain ⟨.word ⟨hne, fun c hc => ⟨(hinline c hc).1.1, (hinline c hc).1.2, (hinline c hc).2⟩, hlast⟩,
    hstart, hmark⟩

/-- A number is written in its digits: bare, because no digit is a sign that would make it something
else than a plain scalar. -/
theorem written_decimal (n : Nat) : ScalarWritten (decimalDigits n) (decimal n) := by
  have hdigit : ∀ k < 10, (isInline (digitChar k) && !isGap (digitChar k) && digitChar k != '\uFEFF') = true ∧
      digitChar k ∉ ['-', '?', ':', '.'] ++ reservedSigns := by decide
  have hplain : ∀ x ∈ decimalDigits n, (isInline x && !isGap x && x != '\uFEFF') = true ∧
      x ∉ ['-', '?', ':', '.'] ++ reservedSigns := fun x hx => by
    obtain ⟨k, hk, rfl⟩ := exists_of_mem_decimalDigits hx
    exact hdigit k hk
  obtain ⟨c, r, hs⟩ := List.exists_cons_of_ne_nil (decimalDigits_ne_nil n)
  have hfirst := (hplain c (hs ▸ List.mem_cons_self)).2
  simp only [List.mem_append, List.mem_cons, List.not_mem_nil, or_false, not_or] at hfirst
  obtain ⟨⟨hdash, hmark, hcolon, hdot⟩, hreserved⟩ := hfirst
  have hlast : (decimalDigits n).getLast? ≠ some ':' := fun hlast =>
    (hplain ':' (List.mem_of_getLast? hlast)).2 (by decide)
  have hstart : startsPlain (decimalDigits n) = true := by
    simp [hs, startsPlain, hdash, hmark, hcolon, hreserved]
  have hnoMark : startsDocumentMark (decimalDigits n) = false := by
    rw [Bool.eq_false_iff]
    intro h
    obtain ⟨x, t, heq, hx, -⟩ := startsDocumentMark_iff.mp h
    obtain ⟨rfl, -⟩ := List.cons.inj (hs.symm.trans heq)
    exact hx.elim hdash hdot
  refine written_bare ?_
  rw [isBare, List.isEmpty_eq_false_iff.mpr (decimalDigits_ne_nil n),
    List.all_eq_true.mpr fun x hx => (hplain x hx).1, bne_iff_ne.mpr hlast, hstart, hnoMark]
  rfl

/-! ## Entries -/

section Entries

variable {name value : Scalar} {s t : List Char}

/-- A pair can be written on a line of its own. -/
theorem exists_written_pair (hname : ScalarWritten s name) (hshort : s.length ≤ maxKeyLength)
    (hvalue : ScalarWritten t value) (k : Nat) : ∃ text, PairWritten ⟨name, none, value⟩ true k text :=
  ⟨_, .mk (.mk 0 hname hshort) (.mk 0 hvalue (.line 0 (.inl rfl) List.mem_cons_self (.spaces k)) nofun)⟩

/-- A sequence can be written in any column if its items can, whatever comes after them. Each item is
written so that the next can stand in the column. -/
theorem exists_written_sequence {ι : Type} {ItemWritten : ι → Bool → Nat → List Char → Prop} {items : List ι}
    (column : Nat) (hne : items ≠ []) (h : ∀ i ∈ items, ∀ k, ∃ text, ItemWritten i true k text) (k : Nat) :
    ∃ text, Sequence ItemWritten column items true k text := by
  induction items with
  | nil => exact absurd rfl hne
  | cons i items ih =>
    obtain ⟨hi, hitems⟩ := List.forall_mem_cons.mp h
    cases items with
    | nil =>
      obtain ⟨text, htext⟩ := hi k
      exact ⟨text, .last htext⟩
    | cons j items =>
      obtain ⟨text, htext⟩ := hi column
      obtain ⟨text', htext'⟩ := ih (List.cons_ne_nil _ _) hitems
      exact ⟨text ++ text', .more htext htext'⟩

/-- A section can be written with its pairs one column further in, a line for each. -/
theorem exists_written_section {pairs : List Pair} (hname : ScalarWritten s name)
    (hshort : s.length ≤ maxKeyLength) (hne : pairs ≠ [])
    (h : ∀ p ∈ pairs, ∀ k, ∃ text, PairWritten p true k text) (k : Nat) :
    ∃ text, EntryWritten 0 ⟨name, .mapping pairs⟩ true k text := by
  obtain ⟨text, htext⟩ := exists_written_sequence 1 hne h k
  exact ⟨_, .mapping (.mk 0 hname hshort) (.line 0 (.inl rfl) List.mem_cons_self (.spaces 1)) nofun
    Nat.one_pos htext⟩

/-- A mapping can be written if its entries can. Without entries the empty text is one. -/
theorem exists_written_mapping {entries : List Entry}
    (h : ∀ e ∈ entries, ∀ k, ∃ text, EntryWritten 0 e true k text) : ∃ text, MappingWritten entries text := by
  by_cases hne : entries = []
  · subst hne
    exact ⟨_, .empty (.spaces 0)⟩
  · obtain ⟨text, htext⟩ := exists_written_sequence 0 hne h 0
    exact ⟨_, .entries (.spaces 0) htext⟩

end Entries

end Workday.Yaml
