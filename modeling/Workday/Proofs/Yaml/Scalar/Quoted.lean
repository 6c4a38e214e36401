import Workday.Proofs.Yaml.Gaps

/-!
# Reading quoted scalars

A text that is written between quotes on one line is read as that text. The words between the gaps are read
character by character, each as it is written (`quotedWord_char`); the gaps are part of the text.
-/

set_option autoImplicit false

namespace Workday.Yaml

variable {single : Bool} {c : Cursor} {w s t r : List Char} {x : Char} {start : Mark}

theorem isBreak_quoteSign : isBreak (quoteSign single) = false := by cases single <;> rfl

theorem isGap_quoteSign : isGap (quoteSign single) = false := by cases single <;> rfl

/-! ## Escapes -/

/-- No line break is escaped as a character. -/
theorem isBreak_of_shortEscape? {value : Char} (h : shortEscape? x = some value) : isBreak x = false := by
  by_contra hbreak
  rw [Bool.not_eq_false] at hbreak
  simp only [isBreak, Bool.or_eq_true, beq_iff_eq] at hbreak
  rcases hbreak with (((rfl | rfl) | rfl) | rfl) | rfl <;> cases h

/-- The letter of a long escape is no break and no short escape. -/
theorem of_longEscape? {count : Nat} (h : longEscape? x = some count) :
    isBreak x = false ∧ shortEscape? x = none := by
  unfold longEscape? at h
  split at h
  · exact ⟨rfl, rfl⟩
  · exact ⟨rfl, rfl⟩
  · exact ⟨rfl, rfl⟩
  · cases h

/-- A number of given width is read off its own digits, whatever comes after them. -/
theorem hexValue?_append (digits r : List Char) :
    hexValue? digits.length (digits ++ r) = hexValue? digits.length digits := by
  have hle : ¬ (digits ++ r).length < digits.length := by
    rw [List.length_append]
    omega
  simp only [hexValue?, if_neg hle, Nat.lt_irrefl, if_false, List.take_left, List.take_length]

/-- A short escape is taken as the character that its letter stands for. -/
theorem takeEscape_short {value : Char} (h : shortEscape? x = some value) (hrest : c.rest = '\\' :: x :: r) :
    c.takeEscape start = .ok (value, c.skip 2) := by
  simp only [Cursor.takeEscape, hrest, h]

/-- A long escape is taken as the character whose code point its digits give. -/
theorem takeEscape_long {value : Char} {count n : Nat} {digits : List Char} (h : longEscape? x = some count)
    (hlength : digits.length = count) (hnumber : hexValue? count digits = some n)
    (hvalue : codePoint? n = some value) (hrest : c.rest = '\\' :: x :: (digits ++ r)) :
    c.takeEscape start = .ok (value, c.skip (2 + count)) := by
  subst hlength
  simp only [Cursor.takeEscape, hrest, (of_longEscape? h).2, h, hexValue?_append, hnumber, hvalue]

/-! ## Words -/

/-- A character is written in one character at least, so a quoted text has an end. -/
theorem QuotedChar.exists_cons (h : QuotedChar single w x) : ∃ y w', w = y :: w' := by
  cases h <;> exact ⟨_, _, rfl⟩

/-- A gap stands for itself. -/
theorem QuotedChar.eq_of_isGap {y : Char} (h : QuotedChar single (y :: w) x) (hgap : isGap y = true) :
    w = [] ∧ x = y := by
  cases h with
  | plain => exact ⟨rfl, rfl⟩
  | doubled => cases hgap
  | short => cases hgap
  | long => cases hgap

/-- One written character is read as itself: plain, as two quotes, or by a short or a long escape. -/
theorem quotedWord_char (h : QuotedChar single w x) (hgap : ∀ y ∈ w.head?, isGap y = false)
    (hrest : c.rest = w ++ r) (fuel : Nat) (word : List Char) :
    quotedWord single start (fuel + 1) c word = quotedWord single start fuel (c.skip w.length) (x :: word) := by
  cases h with
  | plain hinline hquote hescape =>
    have hstop : (isGap x || isBreak x) = false := by
      rw [hgap x rfl, isBreak_of_isInline hinline]
      rfl
    rw [quotedWord, hrest]
    simp only [List.cons_append, hstop, Bool.false_eq_true, if_false]
    cases single with
    | true =>
      have hno : (x != '\'') = true := bne_iff_ne.mpr hquote
      simp only [if_true, hno]
      rfl
    | false =>
      have hno : (x == '"') = false := beq_false_of_ne hquote
      have hbackslash : (x != '\\') = true := bne_iff_ne.mpr (hescape.resolve_left Bool.false_ne_true)
      simp only [Bool.false_eq_true, if_false, hno, hbackslash, if_true]
      rfl
  | doubled hsingle =>
    subst hsingle
    rw [quotedWord, hrest]
    rfl
  | @short y _ hdouble hvalue =>
    subst hdouble
    rw [quotedWord, hrest]
    have hno : (isGap '\\' || isBreak '\\') = false := rfl
    simp only [List.cons_append, List.nil_append, hno, Bool.false_eq_true, if_false, List.head?_cons,
      Option.any_some, isBreak_of_shortEscape? hvalue, takeEscape_short hvalue hrest]
    rfl
  | @long y _ count n digits hdouble hlong hlength _ hnumber hvalue =>
    subst hdouble
    rw [quotedWord, hrest]
    have hno : (isGap '\\' || isBreak '\\') = false := rfl
    simp only [List.cons_append, hno, Bool.false_eq_true, if_false, List.head?_cons,
      Option.any_some, (of_longEscape? hlong).1, takeEscape_long hlong hlength hnumber hvalue hrest]
    subst hlength
    rw [List.length_cons, List.length_cons, Nat.add_comm 2]
    rfl

/-- A word stops at a gap or at the closing quote. -/
theorem quotedWord_stop (hs : s = [] ∧ (single = true → r.head? ≠ some '\'') ∨ ∃ y ∈ s.head?, isGap y = true)
    (hrest : c.rest = s ++ quoteSign single :: r) (fuel : Nat) (word : List Char) :
    quotedWord single start (fuel + 1) c word = .ok (word.reverse, false, c) := by
  rw [quotedWord, hrest]
  rcases hs with ⟨rfl, hr⟩ | ⟨y, hy, hgap⟩
  · simp only [List.nil_append, isGap_quoteSign, isBreak_quoteSign, Bool.or_self, Bool.false_eq_true, if_false]
    cases single with
    | true =>
      have hone : (r.head? == some '\'') = false := beq_false_of_ne (hr rfl)
      rw [if_pos rfl, if_neg (by decide), hone]
      rfl
    | false => rfl
  · obtain ⟨z, s', rfl⟩ : ∃ z s', s = z :: s' := by
      cases s with
      | nil => cases hy
      | cons z s' => exact ⟨z, s', rfl⟩
    cases hy
    simp only [List.cons_append, hgap, Bool.true_or, if_true]

/-- A word is read up to the next gap or the closing quote. What is left is a written text again, so
that words and gaps can be read in turn. -/
theorem quotedWord_text (h : QuotedText single s t) (hr : single = true → r.head? ≠ some '\'')
    (hrest : c.rest = s ++ quoteSign single :: r) {fuel : Nat} (hfuel : s.length < fuel)
    (word : List Char) (start : Mark) :
    ∃ s₁ s₂ t₁ t₂, s = s₁ ++ s₂ ∧ t = t₁ ++ t₂ ∧ QuotedText single s₂ t₂ ∧
      (s₂ = [] ∧ t₂ = [] ∨ ∃ y ∈ s₂.head?, isGap y = true) ∧
      quotedWord single start fuel c word = .ok (word.reverse ++ t₁, false, c.skip s₁.length) := by
  induction h generalizing c fuel word with
  | nil =>
    obtain ⟨fuel, rfl⟩ := Nat.exists_eq_add_one_of_ne_zero (Nat.ne_zero_of_lt hfuel)
    refine ⟨[], [], [], [], rfl, rfl, .nil, .inl ⟨rfl, rfl⟩, ?_⟩
    rw [quotedWord_stop (.inl ⟨rfl, hr⟩) hrest, List.append_nil]
    rfl
  | @cons w s t x hchar htext ih =>
    obtain ⟨fuel, rfl⟩ := Nat.exists_eq_add_one_of_ne_zero (Nat.ne_zero_of_lt hfuel)
    obtain ⟨y, w, rfl⟩ := hchar.exists_cons
    cases hgap : isGap y with
    | true =>
      have hstop : ∃ z ∈ (y :: w ++ s).head?, isGap z = true := ⟨y, rfl, hgap⟩
      refine ⟨[], y :: w ++ s, [], x :: t, rfl, rfl, .cons hchar htext, .inr hstop, ?_⟩
      rw [quotedWord_stop (.inr hstop) hrest, List.append_nil]
      rfl
    | false =>
      have hno : ∀ z ∈ (y :: w).head?, isGap z = false := by
        rintro z ⟨⟩
        exact hgap
      rw [List.append_assoc] at hrest
      rw [List.length_append, List.length_cons] at hfuel
      obtain ⟨s₁, s₂, t₁, t₂, rfl, rfl, htext₂, hstop, heq⟩ :=
        ih (c := c.skip (y :: w).length) (by rw [Cursor.skip_eq hrest]) (show s.length < fuel by omega) (x :: word)
      refine ⟨y :: w ++ s₁, s₂, x :: t₁, t₂, (List.append_assoc ..).symm, rfl, htext₂, hstop, ?_⟩
      rw [quotedWord_char hchar hno hrest, heq, Cursor.skip_skip, List.length_append, List.reverse_cons,
        List.append_assoc, List.singleton_append]

/-! ## Whole scalars -/

/-- The gaps at the front of a text stand for themselves. -/
theorem QuotedText.exists_gaps (h : QuotedText single s t) :
    ∃ g s₂ t₂, s = g ++ s₂ ∧ t = g ++ t₂ ∧ (∀ y ∈ g, isGap y = true) ∧ QuotedText single s₂ t₂ ∧
      ∀ y ∈ s₂.head?, isGap y = false := by
  induction h with
  | nil => exact ⟨[], [], [], rfl, rfl, nofun, .nil, nofun⟩
  | @cons w s t x hchar htext ih =>
    obtain ⟨y, w, rfl⟩ := hchar.exists_cons
    cases hgap : isGap y with
    | true =>
      obtain ⟨rfl, rfl⟩ := hchar.eq_of_isGap hgap
      obtain ⟨g, s₂, t₂, rfl, rfl, hg, htext₂, hhead⟩ := ih
      exact ⟨x :: g, s₂, t₂, rfl, rfl, List.forall_mem_cons.mpr ⟨hgap, hg⟩, htext₂, hhead⟩
    | false =>
      refine ⟨[], y :: w ++ s, x :: t, rfl, rfl, nofun, .cons hchar htext, ?_⟩
      rintro z ⟨⟩
      exact hgap

/-- No character is written with a break in front. -/
theorem QuotedChar.isBreak_head {y : Char} (h : QuotedChar single (y :: w) x) : isBreak y = false := by
  cases h with
  | plain hinline => exact isBreak_of_isInline hinline
  | doubled => rfl
  | short => rfl
  | long => rfl

/-- Neither a written text nor the quote after it begins with a break. -/
theorem QuotedText.isBreak_head (h : QuotedText single s t) :
    ∀ y ∈ (s ++ quoteSign single :: r).head?, isBreak y = false := by
  cases h with
  | nil =>
    rintro y ⟨⟩
    exact isBreak_quoteSign
  | cons hchar htext =>
    obtain ⟨z, w, rfl⟩ := hchar.exists_cons
    rintro y ⟨⟩
    exact hchar.isBreak_head

/-- Gaps between words are taken as they stand. -/
theorem takeBetween_text (h : QuotedText single s t) (hrest : c.rest = s ++ quoteSign single :: r) :
    ∃ g s₂ t₂, s = g ++ s₂ ∧ t = g ++ t₂ ∧ QuotedText single s₂ t₂ ∧
      (∀ y ∈ s₂.head?, isGap y = false) ∧
      c.takeBetween (fun _ => none) c.rest.length .nothing = .ok (.gaps g, c.skip g.length) := by
  obtain ⟨g, s₂, t₂, rfl, rfl, hg, htext, hhead⟩ := h.exists_gaps
  refine ⟨g, s₂, t₂, rfl, rfl, htext, hhead, ?_⟩
  rw [List.append_assoc] at hrest
  have hrest' : (c.skip g.length).rest = s₂ ++ quoteSign single :: r := by rw [Cursor.skip_eq hrest]
  have hgap : ∀ y ∈ (s₂ ++ quoteSign single :: r).head?, isGap y = false := by
    cases s₂ with
    | nil =>
      rintro y ⟨⟩
      exact isGap_quoteSign
    | cons z s₂ => exact hhead
  rw [Cursor.takeBetween_gaps (b := .nothing) hg nofun hrest (by rw [hrest, List.length_append]; omega),
    Cursor.takeBetween_done (by rwa [hrest']) (by rw [hrest']; exact htext.isBreak_head), Between.nothing,
    Between.foldl_addGap, List.nil_append]

/-- Words and gaps alternate up to the closing quote. The induction is on the fuel, as each turn takes a
word and the gap after it, of which one may be empty but not both. -/
theorem quotedWords_text (h : QuotedText single s t) (hr : single = true → r.head? ≠ some '\'')
    (hrest : c.rest = s ++ quoteSign single :: r) (hcolumn : 0 < c.mark.column) {fuel : Nat}
    (hfuel : s.length < fuel) (text : List Char) :
    quotedWords single start fuel c text = .ok (text ++ t, c.skip (s.length + 1)) := by
  induction fuel generalizing s t c text with
  | zero => exact absurd hfuel (Nat.not_lt_zero _)
  | succ fuel ih =>
    have hmark : c.atDocumentMark = false := by
      rw [Cursor.atDocumentMark, beq_false_of_ne (Nat.ne_of_gt hcolumn), Bool.false_and]
    have hover : c.isOver = false := by
      rw [Cursor.isOver, hrest]
      cases s <;> rfl
    obtain ⟨s₁, s₂, t₁, t₂, rfl, rfl, htext, hstop, hword⟩ :=
      quotedWord_text h hr hrest
        (show s.length < c.rest.length + 1 by rw [hrest, List.length_append]; omega) [] start
    rw [List.append_assoc] at hrest
    have hrest₁ : (c.skip s₁.length).rest = s₂ ++ quoteSign single :: r := by rw [Cursor.skip_eq hrest]
    rw [quotedWords, hmark, hover, hword]
    simp only [Bool.false_eq_true, if_false, bind, Except.bind, List.reverse_nil, List.nil_append]
    rcases hstop with ⟨rfl, rfl⟩ | ⟨y, hy, hgap⟩
    · have hat : (c.skip s₁.length).isAt (if single then '\'' else '"') = true := by
        rw [Cursor.isAt, hrest₁]
        exact beq_self_eq_true _
      rw [hat, if_pos rfl, Cursor.skip_skip, List.append_nil, List.append_nil]
      rfl
    · obtain ⟨s₂, rfl⟩ : ∃ s', s₂ = y :: s' := List.head?_eq_some_iff.mp hy
      have hat : (c.skip s₁.length).isAt (if single then '\'' else '"') = false := by
        rw [Cursor.isAt, hrest₁]
        refine beq_false_of_ne fun heq => ?_
        have hy : y = quoteSign single := Option.some.inj heq
        rw [hy, isGap_quoteSign] at hgap
        cases hgap
      obtain ⟨g, s₃, t₃, hs, rfl, htext₃, hhead, hbetween⟩ := takeBetween_text htext hrest₁
      have hpos : 0 < g.length := by
        cases g with
        | nil =>
          rw [List.nil_append] at hs
          have hno := hhead y (hs ▸ rfl)
          rw [hgap] at hno
          cases hno
        | cons z g => exact Nat.succ_pos _
      rw [hs, List.append_assoc] at hrest₁
      simp only [hs, List.length_append] at hfuel
      simp only [hat, Bool.false_eq_true, if_false, hbetween, Between.text]
      rw [ih htext₃ (by rw [Cursor.skip_eq hrest₁])
        (hcolumn.trans_le (by simp [Cursor.skip, Mark.advance, Nat.add_assoc])) (by omega),
        Cursor.skip_skip, Cursor.skip_skip, hs]
      simp only [List.append_assoc, List.length_append, Nat.add_assoc]

/-- A text between quotes is read up to its closing quote. -/
theorem Cursor.quotedScalar_text (h : QuotedText single s t) (hr : single = true → r.head? ≠ some '\'')
    (hrest : c.rest = quoteSign single :: (s ++ [quoteSign single]) ++ r) :
    c.quotedScalar single = .ok ⟨⟨String.ofList t, if single then .singleQuoted else .doubleQuoted⟩,
      c.mark.advance (s.length + 2), ⟨r, c.mark.advance (s.length + 2)⟩, false⟩ := by
  have hlength : (quoteSign single :: (s ++ [quoteSign single])).length = s.length + 2 := by simp
  have hafter : c.skip (s.length + 2) = ⟨r, c.mark.advance (s.length + 2)⟩ := by
    rw [← hlength, skip_eq hrest]
  have hrest₁ : (c.skip 1).rest = s ++ quoteSign single :: r := by
    rw [skip, hrest]
    simp
  have hfuel : s.length < c.rest.length + 1 := by
    rw [hrest, List.length_append, hlength]
    omega
  rw [quotedScalar, quotedWords_text h hr hrest₁ (Nat.succ_pos _) hfuel, skip_skip, Nat.add_comm 1, hafter]
  rfl

end Workday.Yaml
