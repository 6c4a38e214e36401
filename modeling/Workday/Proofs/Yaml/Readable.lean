import Workday.Proofs.Yaml.Gaps

/-!
# Readable texts

A text is read only if all of its characters may stand in one. Those of a written mapping may, piece by piece,
and no byte order mark comes first.
-/

set_option autoImplicit false

namespace Workday.Yaml

variable {s g text : List Char} {crosses single : Bool} {k column : Nat} {value : Char} {scalar : Scalar}

/-- No character of a readable text is in the way, from wherever one counts. -/
theorem unreadableAt?_eq_none (h : s.all isReadable = true) (n : Nat) : unreadableAt? n s = none := by
  induction s generalizing n with
  | nil => rfl
  | cons c s ih =>
    rw [List.all_cons, Bool.and_eq_true] at h
    rw [unreadableAt?, if_pos h.1]
    exact ih h.2 _

/-- A text of readable characters is read from its first one on. -/
theorem Cursor.start_eq (h : s.all isReadable = true) (hmark : s.head? ≠ some '\uFEFF') :
    Cursor.start s = .ok ⟨s, {}⟩ := by
  rw [Cursor.start, unreadableAt?_eq_none h]
  simp only [beq_false_of_ne hmark, Bool.false_eq_true, if_false]

/-- What may stand in a line can be read. Of what can be read only the breaks may not stand there. -/
theorem isReadable_of_isInline (h : isInline value = true) : isReadable value = true := by
  rw [isInline, Bool.and_eq_true] at h
  exact h.1

theorem all_isReadable_of_isInline (h : ∀ c ∈ s, isInline c = true) : s.all isReadable = true :=
  List.all_eq_true.mpr fun c hc => isReadable_of_isInline (h c hc)

/-- A comment can be read: what stands behind its sign stands in the line. -/
theorem IsComment.isReadable (h : IsComment s) : s.all isReadable = true := by
  rcases h with rfl | ⟨t, rfl, ht⟩
  · rfl
  · exact all_isReadable_of_isInline (List.forall_mem_cons.mpr ⟨rfl, ht⟩)

theorem all_isReadable_spaces (n : Nat) : (List.replicate n ' ').all isReadable = true :=
  List.all_eq_true.mpr fun c hc => by rw [List.eq_of_mem_replicate hc]; rfl

/-- A gap can be read: its spaces, its comments and its breaks. -/
theorem Gap.isReadable (h : Gap crosses k g) : g.all isReadable = true := by
  induction h with
  | spaces n => exact all_isReadable_spaces n
  | @line n comment ending g _ _ hcomment hbreak _ ih =>
    have hending : ending.all Yaml.isReadable = true := by
      simp only [List.mem_cons, List.not_mem_nil, or_false] at hbreak
      rcases hbreak with rfl | rfl <;> rfl
    simp only [List.all_append, all_isReadable_spaces, hcomment.isReadable, hending, ih, Bool.and_self]

/-! ## Scalars -/

/-- The letter of a short escape can be read. What it stands for need not be readable. -/
theorem isReadable_of_shortEscape {x : Char} (h : shortEscape? x = some value) : isReadable x = true := by
  unfold shortEscape? at h
  split at h <;> first | rfl | cases h

/-- The letter of a long escape can be read. Its digits are dealt with apart from it. -/
theorem isReadable_of_longEscape {x : Char} {count : Nat} (h : longEscape? x = some count) :
    isReadable x = true := by
  unfold longEscape? at h
  split at h <;> first | rfl | cases h

/-- The printable characters of ASCII can be read, from the space to the tilde. -/
theorem isReadable_of_printable {c : Char} (hfirst : ' ' ≤ c) (hlast : c ≤ '~') : isReadable c = true := by
  have hfirst : 0x20 ≤ c.toNat := hfirst
  have hlast : c.toNat ≤ 0x7E := hlast
  simp [Yaml.isReadable, hfirst, hlast]

/-- A hexadecimal digit can be read. -/
theorem isReadable_of_isHex {c : Char} (h : (Text.hexDigitValue? c).isSome = true) : isReadable c = true := by
  have hrange : ('0' ≤ c ∧ c ≤ '9') ∨ ('a' ≤ c ∧ c ≤ 'f') ∨ ('A' ≤ c ∧ c ≤ 'F') := by
    unfold Text.hexDigitValue? at h
    split at h
    next hdigit =>
      have hvalue : 48 ≤ c.val ∧ c.val ≤ 57 := by simpa [Char.isDigit] using hdigit
      exact .inl hvalue
    split at h
    next hlower => exact .inr (.inl (by simpa using hlower))
    split at h
    next hupper => exact .inr (.inr (by simpa using hupper))
    cases h
  rcases hrange with ⟨hfirst, hlast⟩ | ⟨hfirst, hlast⟩ | ⟨hfirst, hlast⟩ <;>
    exact isReadable_of_printable (Char.le_trans (by decide) hfirst) (Char.le_trans hlast (by decide))

/-- Between quotes a character is written readably, whichever it is: one that could not be read is
escaped. -/
theorem QuotedChar.isReadable (h : QuotedChar single s value) : s.all isReadable = true := by
  cases h with
  | plain hinline => simpa using isReadable_of_isInline hinline
  | doubled => rfl
  | short _ hescape => simpa using ⟨rfl, isReadable_of_shortEscape hescape⟩
  | long _ hescape _ hhex =>
    rw [List.all_cons, List.all_cons, isReadable_of_longEscape hescape,
      List.all_eq_true.mpr fun d hd => isReadable_of_isHex (hhex d hd)]
    rfl

/-- A text between quotes is written readably, character by character, whatever it stands for. -/
theorem QuotedText.isReadable {t : List Char} (h : QuotedText single s t) : s.all isReadable = true := by
  induction h with
  | nil => rfl
  | cons hchar _ ih => rw [List.all_append, hchar.isReadable, ih, Bool.and_self]

theorem IsWord.isReadable (h : IsWord s) : s.all isReadable = true :=
  all_isReadable_of_isInline fun c hc => (h.inline c hc).1

/-- Words can be read, and so can the gaps between them. -/
theorem Words.isReadable (h : Words s) : s.all isReadable = true := by
  induction h with
  | word hword => exact hword.isReadable
  | @more w g s hword _ hgap _ _ ih =>
    have hg : g.all Yaml.isReadable = true := List.all_eq_true.mpr fun c hc => by
      have hc := hgap c hc
      rw [isGap, Bool.or_eq_true, beq_iff_eq, beq_iff_eq] at hc
      rcases hc with rfl | rfl <;> rfl
    rw [List.all_append, List.all_append, hword.isReadable, hg, ih]
    rfl

/-- A written scalar can be read, plain or between its quotes. -/
theorem ScalarWritten.isReadable (h : ScalarWritten s scalar) : s.all isReadable = true := by
  cases h with
  | plain hplain => exact hplain.words.isReadable
  | @quoted single s _ htext =>
    have hsign : Yaml.isReadable (quoteSign single) = true := by cases single <;> rfl
    simp [htext.isReadable, hsign]

/-! ## Entries -/

/-- A name can be read, and so can the spaces and the colon behind it. -/
theorem NameWritten.isReadable (h : NameWritten scalar s) : s.all isReadable = true := by
  obtain ⟨spaces, hs, -⟩ := h
  rw [List.all_append, List.all_append, hs.isReadable, all_isReadable_spaces]
  rfl

theorem ValueWritten.isReadable (h : ValueWritten scalar crosses k s) : s.all isReadable = true := by
  obtain ⟨spaces, hs, hg, -⟩ := h
  rw [List.all_append, List.all_append, all_isReadable_spaces, hs.isReadable, hg.isReadable]
  rfl

theorem PairWritten.isReadable {p : Pair} (h : PairWritten p crosses k s) : s.all isReadable = true := by
  obtain ⟨hname, hvalue⟩ := h
  rw [List.all_append, hname.isReadable, hvalue.isReadable]
  rfl

/-- A sequence can be read if each of its items can: nothing stands between them that is not part of
one. -/
theorem Sequence.isReadable {ι : Type} {ItemWritten : ι → Bool → Nat → List Char → Prop} {items : List ι}
    (hitem : ∀ ⦃item crosses k s⦄, ItemWritten item crosses k s → s.all isReadable = true)
    (h : Sequence ItemWritten column items crosses k s) : s.all isReadable = true := by
  induction h with
  | last h => exact hitem h
  | more h _ ih => rw [List.all_append, hitem h, ih, Bool.and_self]

/-- An entry can be read, with one scalar behind its name or with a section of pairs below it. -/
theorem EntryWritten.isReadable {e : Entry} (h : EntryWritten column e crosses k s) :
    s.all isReadable = true := by
  cases h with
  | scalar hname hvalue => rw [List.all_append, hname.isReadable, hvalue.isReadable, Bool.and_self]
  | mapping hname hgap _ _ hpairs =>
    have hread := hpairs.isReadable fun _ _ _ _ => PairWritten.isReadable
    rw [List.all_append, List.all_append, hname.isReadable, hgap.isReadable, hread]
    rfl

/-- A written mapping can be read. A gap may stand in front of it, and is all there is to one with no
entries. -/
theorem MappingWritten.isReadable {es : List Entry} (h : MappingWritten es text) :
    text.all isReadable = true := by
  cases h with
  | empty hgap => exact hgap.isReadable
  | entries hgap hentries =>
    rw [List.all_append, hgap.isReadable, hentries.isReadable fun _ _ _ _ => EntryWritten.isReadable]
    rfl

end Workday.Yaml
