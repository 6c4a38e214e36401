import Workday.Proofs.Yaml.Gaps

/-!
# Reading plain scalars

Words on one line are read as they stand, up to a colon before a separator or to a gap. Of the gap the scalar
reads on up to the next line that could belong to it, which is none where the gap leads to a column before its
indentation.
-/

set_option autoImplicit false

namespace Workday.Yaml

variable {c : Cursor} {w s g r : List Char} {start stop : Mark} {indent : Int} {crosses : Bool} {k : Nat}

/-- A word is read up to where words end. The induction is on the word: a colon within it is followed by
a character of the word, so it does not end it. -/
theorem plainWord_word (hw : ∀ x ∈ w, isInline x = true ∧ isGap x = false) (hlast : w.getLast? ≠ some ':')
    (hend : endsWord false r = true) : plainWord false (w ++ r) = (w, false) := by
  have hcolon (s : List Char) : misplacedColon false s = false := by
    unfold misplacedColon
    split <;> rfl
  induction w with
  | nil =>
    cases r with
    | nil => rfl
    | cons x r => rw [List.nil_append, plainWord, hcolon, hend]; rfl
  | cons x w ih =>
    have hno : endsWord false (x :: (w ++ r)) = false := by
      obtain ⟨hinline, hgap⟩ := hw x List.mem_cons_self
      by_cases hx : x = ':'
      · subst hx
        cases w with
        | nil => exact absurd rfl hlast
        | cons y w =>
          obtain ⟨hinline, hgap⟩ := hw y (List.mem_cons_of_mem _ List.mem_cons_self)
          change (isGap y || isBreak y) = false
          rw [hgap, isBreak_of_isInline hinline]
          rfl
      · unfold endsWord
        split
        next heq => cases heq
        next heq => exact absurd (List.cons.inj heq).1 hx
        next heq =>
          obtain ⟨rfl, rfl⟩ := heq
          rw [hgap, isBreak_of_isInline hinline]
          rfl
    have hlast' : w.getLast? ≠ some ':' := by
      cases w with
      | nil => exact nofun
      | cons y w => rwa [List.getLast?_cons_cons] at hlast
    rw [List.cons_append, plainWord, hcolon, hno,
      ih (fun y hy => hw y (List.mem_cons_of_mem x hy)) hlast']
    rfl

/-- What ends a word without a gap is a colon or the end of the text. -/
theorem of_endsWord (hend : endsWord false r = true) (hr : Solid r) : r = [] ∨ ∃ r', r = ':' :: r' := by
  cases r with
  | nil => exact .inl rfl
  | cons x r =>
    by_cases hx : x = ':'
    · exact .inr ⟨r, by rw [hx]⟩
    · obtain ⟨hgap, hbreak, -⟩ := hr x rfl
      unfold endsWord at hend
      split at hend
      next heq => cases heq
      next heq => exact absurd (List.cons.inj heq).1 hx
      next heq =>
        obtain ⟨rfl, rfl⟩ := heq
        rw [hgap, hbreak] at hend
        cases hend

/-- Before a solid text the cursor is neither at a gap nor at a break. -/
theorem Cursor.atGap_or_atBreak_of_solid (h : Solid c.rest) : (c.atGap || c.atBreak) = false := by
  rw [atBreak_of_solid h, Bool.or_false, atGap]
  cases hhead : c.rest.head? with
  | none => rfl
  | some x => exact (h x hhead).1

/-- Nothing is added at a comment, or where words end. -/
theorem plainWords_done (hc : c.rest.head? = some '#' ∨ endsWord false c.rest = true ∧ Solid c.rest) (fuel : Nat)
    (text : List Char) (b : Between) :
    plainWords false indent start (fuel + 1) c text stop b =
      .ok ⟨⟨String.ofList text, .plain⟩, stop, c, b.crossesLines⟩ := by
  rcases hc with hcomment | ⟨hend, hsolid⟩
  · have hat : c.isAt '#' = true := beq_iff_eq.mpr hcomment
    rw [plainWords, hat, Bool.or_true, if_pos rfl]
  · have hword := plainWord_word (w := []) nofun nofun hend
    have hskip : c.skip ([] : List Char).length = c := rfl
    have hat : (c.atDocumentMark || c.isAt '#') = false := by
      rw [Cursor.atDocumentMark, Cursor.isAt]
      rcases of_endsWord hend hsolid with hrest | ⟨r, hrest⟩ <;> rw [hrest]
      · exact Bool.or_eq_false_iff.mpr ⟨Bool.and_false _, rfl⟩
      · exact Bool.or_eq_false_iff.mpr ⟨Bool.and_false _, rfl⟩
    rw [List.nil_append] at hword
    rw [plainWords, hat, if_neg Bool.false_ne_true, hword]
    simp only [hskip, Cursor.atGap_or_atBreak_of_solid hsolid, List.isEmpty_nil, if_true, Bool.not_false,
      Bool.false_eq_true, if_false]

/-- A gap of no characters ends no line and goes no further. -/
theorem Gap.eq_of_nil (hg : Gap crosses k g) (h : g = []) : crosses = false ∧ k = 0 := by
  cases hg with
  | spaces => exact ⟨rfl, by simpa using h⟩
  | line n hcomment hbreak rest =>
    obtain ⟨x, ending, rfl, -⟩ := exists_ending_cons hbreak
    simp at h

/-- A gap before a text that is no comment begins with a gap or a break. -/
theorem Gap.atGap_or_atBreak (hg : Gap crosses k g) (hne : g ≠ []) (hapart : g.head? ≠ some '#')
    (hrest : c.rest = g ++ r) : (c.atGap || c.atBreak) = true := by
  have hspace {s : List Char} (h : c.rest = ' ' :: s) : (c.atGap || c.atBreak) = true := by
    rw [Cursor.atGap, h]
    rfl
  cases hg with
  | spaces =>
    cases k with
    | zero => exact absurd rfl hne
    | succ k => exact hspace hrest
  | @line n comment ending g crosses _ hcomment hbreak rest =>
    cases n with
    | succ n => exact hspace hrest
    | zero =>
      rcases hcomment with rfl | ⟨t, rfl, -⟩
      · obtain ⟨x, s, rfl, hx, -⟩ := exists_ending_cons hbreak
        rw [Cursor.atBreak_of_head (by rw [hrest]; rfl) hx, Bool.or_true]
      · exact absurd rfl hapart

/-- A gap or a break ends a word. -/
theorem endsWord_of_atGap (h : (c.atGap || c.atBreak) = true) : endsWord false c.rest = true := by
  obtain ⟨s, m⟩ := c
  cases s with
  | nil => cases h
  | cons x s =>
    change (isGap x || isBreak x) = true at h
    unfold endsWord
    split
    next heq => cases heq
    next heq =>
      obtain ⟨rfl, rfl⟩ := List.cons.inj heq
      cases h
    next heq =>
      obtain ⟨rfl, rfl⟩ := List.cons.inj heq
      rw [h, Bool.true_or]

/-- The fault of a tab before the indentation of a scalar. -/
def plainTab (start : Mark) (indent : Int) (m : Mark) : Option Fault :=
  if (m.column : Int) < indent then some (.whileReading .plainScalar start .tabInPlainScalar m) else none

/-- A word is not taken for a comment. -/
theorem IsWord.isAt (hw : IsWord w) (hcomment : w.head? ≠ some '#') (hrest : c.rest = w ++ r) :
    c.isAt '#' = false := by
  rw [Cursor.isAt, hrest]
  obtain ⟨x, w, rfl⟩ := List.exists_cons_of_ne_nil hw.nonempty
  exact beq_false_of_ne hcomment

/-- A word with nothing after it ends the scalar. -/
theorem plainWords_word (hw : IsWord w) (hcomment : w.head? ≠ some '#') (hend : endsWord false r = true)
    (hr : Solid r) (hrest : c.rest = w ++ r) (hmark : c.atDocumentMark = false) (fuel : Nat)
    (text : List Char) (b : Between) :
    plainWords false indent start (fuel + 1) c text stop b =
      .ok ⟨⟨String.ofList (text ++ b.text ++ w), .plain⟩, c.mark.advance w.length,
        ⟨r, c.mark.advance w.length⟩, false⟩ := by
  have hword := plainWord_word (fun x hx => ⟨(hw.inline x hx).1, (hw.inline x hx).2.1⟩) hw.noColon hend
  have hnonempty : w.isEmpty = false := by simpa using hw.nonempty
  have hat := Cursor.atGap_or_atBreak_of_solid (c := ⟨r, c.mark.advance w.length⟩) hr
  rw [plainWords, hmark, hw.isAt hcomment hrest, hrest, hword]
  simp only [Cursor.skip_eq hrest, Bool.or_self, Bool.false_eq_true, if_false, hnonempty, hat, Bool.not_false,
    if_true]
  rfl

/-- A word with a gap after it: the scalar goes on unless the next line stands before its indentation. -/
theorem plainWords_word_gap {b b' : Between} {c' : Cursor} (hw : IsWord w) (hcomment : w.head? ≠ some '#')
    (hrest : c.rest = w ++ r) (hmark : c.atDocumentMark = false)
    (hat : ((⟨r, c.mark.advance w.length⟩ : Cursor).atGap ||
      (⟨r, c.mark.advance w.length⟩ : Cursor).atBreak) = true)
    (htake : (⟨r, c.mark.advance w.length⟩ : Cursor).takeBetween (plainTab start indent) r.length .nothing =
      .ok (b', c')) (fuel : Nat) (text : List Char) :
    plainWords false indent start (fuel + 1) c text stop b =
      if (c'.mark.column : Int) < indent then
        .ok ⟨⟨String.ofList (text ++ b.text ++ w), .plain⟩, c.mark.advance w.length, c', b'.crossesLines⟩
      else plainWords false indent start fuel c' (text ++ b.text ++ w) (c.mark.advance w.length) b' := by
  have hword := plainWord_word (fun x hx => ⟨(hw.inline x hx).1, (hw.inline x hx).2.1⟩) hw.noColon
    (endsWord_of_atGap hat)
  have hnonempty : w.isEmpty = false := by simpa using hw.nonempty
  rw [plainWords, hmark, hw.isAt hcomment hrest, hrest, hword]
  simp only [Cursor.skip_eq hrest, Bool.or_self, Bool.false_eq_true, if_false, hnonempty, hat, Bool.not_true,
    Bool.not_false, Bool.true_and, decide_eq_true_eq]
  change (Cursor.takeBetween (plainTab start indent) _ _ _ >>= _) = _
  rw [htake]
  rfl

/-- How words begin: on the line, with no gap and no byte order mark. -/
theorem Words.exists_cons (hs : Words s) :
    ∃ x s', s = x :: s' ∧ isInline x = true ∧ isGap x = false ∧ x ≠ '\uFEFF' := by
  cases hs with
  | word hw =>
    obtain ⟨x, w, rfl⟩ := List.exists_cons_of_ne_nil hw.nonempty
    exact ⟨x, w, rfl, hw.inline x List.mem_cons_self⟩
  | @more w gap s hw =>
    obtain ⟨x, w, rfl⟩ := List.exists_cons_of_ne_nil hw.nonempty
    exact ⟨x, w ++ (gap ++ s), rfl, hw.inline x List.mem_cons_self⟩

/-- The last word ends the scalar, which passes over some of the gap that follows. It goes on to the
next line only if that is indented, and looks for another word there; it finds none before a solid text
that ends words. -/
theorem plainWords_last (hw : IsWord w) (hcomment : w.head? ≠ some '#') (hg : Gap crosses k g)
    (hapart : g.head? ≠ some '#') (hr : Solid r)
    (hend : endsWord false r = true ∨ crosses = true ∧ (k : Int) < indent) (hrest : c.rest = w ++ (g ++ r))
    (hmark : c.atDocumentMark = false) (fuel : Nat) (text xs : List Char) :
    ∃ stop' c' crossed, plainWords false indent start (fuel + 2) c text stop (.gaps xs) =
        .ok ⟨⟨String.ofList (text ++ xs ++ w), .plain⟩, stop', c', crossed⟩ ∧
      StopsIn (c.mark.advance w.length) crosses k r crossed c' := by
  by_cases hnil : g = []
  · subst hnil
    obtain ⟨rfl, rfl⟩ := hg.eq_of_nil rfl
    rw [plainWords_word hw hcomment (hend.resolve_right fun h => absurd h.1 Bool.false_ne_true) hr hrest hmark]
    exact ⟨_, _, _, rfl, .past rfl⟩
  · obtain ⟨b, c', htake, hstop⟩ := Cursor.takeBetween_gap (plainTab start indent) hg hr
      (c := ⟨g ++ r, c.mark.advance w.length⟩) rfl (show g.length ≤ (g ++ r).length by simp) .nothing
    have hstops : StopsIn (c.mark.advance w.length) crosses k r b.crossesLines c' := by
      rcases hstop with ⟨m, rfl, hafter, hb⟩ | ⟨hlines, g', m, rfl, hg', hhead⟩
      · rw [show b.crossesLines = crosses from hb]
        exact .past hafter
      · exact .atComment hg' hhead hlines
    rw [plainWords_word_gap hw hcomment hrest hmark (hg.atGap_or_atBreak hnil hapart rfl) htake]
    by_cases hcolumn : (c'.mark.column : Int) < indent
    · rw [if_pos hcolumn]
      exact ⟨_, _, _, rfl, hstops⟩
    · have hdone : c'.rest.head? = some '#' ∨ endsWord false c'.rest = true ∧ Solid c'.rest := by
        rcases hstop with ⟨m, rfl, hafter, -⟩ | ⟨-, g', m, rfl, -, hhead⟩
        · refine .inr ⟨hend.resolve_right fun ⟨hlines, hk⟩ => hcolumn ?_, hr⟩
          subst hlines
          rwa [show _ = k from hafter]
        · obtain ⟨g', rfl⟩ := List.head?_eq_some_iff.mp hhead
          exact .inl rfl
      rw [if_neg hcolumn, plainWords_done hdone]
      exact ⟨_, _, _, rfl, hstops⟩

/-- Words are read as they stand, with the gaps between them, and then some of the gap that follows. The
induction is on the words; what has been read stands before them. -/
theorem plainWords_words (hs : Words s) (hg : Gap crosses k g) (hapart : g.head? ≠ some '#') (hr : Solid r)
    (hend : endsWord false r = true ∨ crosses = true ∧ (k : Int) < indent) (hrest : c.rest = s ++ (g ++ r))
    (hmark : c.atDocumentMark = false) (hcomment : s.head? ≠ some '#') (hcolumn : indent ≤ c.mark.column + 1)
    {fuel : Nat} (hfuel : s.length < fuel) (text xs : List Char) (start stop : Mark) :
    ∃ stop' c' crossed, plainWords false indent start fuel c text stop (.gaps xs) =
        .ok ⟨⟨String.ofList (text ++ xs ++ s), .plain⟩, stop', c', crossed⟩ ∧
      StopsIn (c.mark.advance s.length) crosses k r crossed c' := by
  obtain ⟨fuel, rfl⟩ := Nat.exists_eq_add_one_of_ne_zero (Nat.ne_zero_of_lt hfuel)
  induction hs generalizing c fuel text stop xs with
  | @word w hw =>
    have hpos := List.length_pos_iff.mpr hw.nonempty
    obtain ⟨fuel, rfl⟩ := Nat.exists_eq_add_one_of_ne_zero (show fuel ≠ 0 by omega)
    exact plainWords_last hw hcomment hg hapart hr hend hrest hmark fuel text xs
  | @more w gap s hw hne hgap hs hno ih =>
    obtain ⟨x, s', hx, hinline, hnogap, hbom⟩ := hs.exists_cons
    have hhead : w.head? ≠ some '#' := by
      obtain ⟨y, w, rfl⟩ := List.exists_cons_of_ne_nil hw.nonempty
      exact hcomment
    simp only [List.append_assoc] at hrest
    simp only [List.length_append] at hfuel
    have hpos := List.length_pos_iff.mpr hw.nonempty
    set m := c.mark.advance w.length with hm
    have hat : ((⟨gap ++ (s ++ (g ++ r)), m⟩ : Cursor).atGap || (⟨gap ++ (s ++ (g ++ r)), m⟩ : Cursor).atBreak) =
        true := by
      obtain ⟨y, gap, rfl⟩ := List.exists_cons_of_ne_nil hne
      have hy : isGap y = true := hgap y List.mem_cons_self
      exact (congrArg (· || _) hy).trans (Bool.true_or _)
    have htake : (⟨gap ++ (s ++ (g ++ r)), m⟩ : Cursor).takeBetween (plainTab start indent)
        (gap ++ (s ++ (g ++ r))).length .nothing = .ok (.gaps gap, ⟨s ++ (g ++ r), m.advance gap.length⟩) := by
      rw [Cursor.takeBetween_gaps (b := .nothing) hgap nofun rfl (by simp), Cursor.skip_eq rfl,
        Cursor.takeBetween_done]
      · rw [Between.nothing, Between.foldl_addGap, List.nil_append]
      · rw [hx]
        rintro y ⟨⟩
        exact hnogap
      · rw [hx]
        rintro y ⟨⟩
        exact isBreak_of_isInline hinline
    have hcolumn' : indent ≤ (m.advance gap.length).column := by
      simp only [hm, Mark.advance]
      omega
    rw [plainWords_word_gap hw hhead hrest hmark hat htake, if_neg (Int.not_lt.mpr hcolumn')]
    obtain ⟨fuel, rfl⟩ := Nat.exists_eq_add_one_of_ne_zero (show fuel ≠ 0 by omega)
    have hmark' : (⟨s ++ (g ++ r), m.advance gap.length⟩ : Cursor).atDocumentMark = false := by
      have hne : (m.advance gap.length).column ≠ 0 := by
        simp only [hm, Mark.advance]
        omega
      rw [Cursor.atDocumentMark, beq_false_of_ne hne, Bool.false_and]
    obtain ⟨stop', c', crossed, heq, hstop⟩ := ih (c := ⟨s ++ (g ++ r), m.advance gap.length⟩)
      rfl hmark' hno (Int.le_add_one hcolumn') (text ++ xs ++ w) gap m fuel (by omega)
    refine ⟨stop', c', crossed, ?_, ?_⟩
    · simpa only [Between.text, List.append_assoc] using heq
    · simpa only [hm, Mark.advance_advance, List.length_append, Nat.add_assoc] using hstop

/-- What a document mark is: three dashes or three dots, with nothing directly after them. -/
theorem startsDocumentMark_iff :
    startsDocumentMark s = true ↔ ∃ x r, s = x :: x :: x :: r ∧ (x = '-' ∨ x = '.') ∧ separates r = true := by
  constructor
  · intro h
    unfold startsDocumentMark at h
    split at h
    next r => exact ⟨'-', r, rfl, .inl rfl, h⟩
    next r => exact ⟨'.', r, rfl, .inr rfl, h⟩
    next => cases h
  · rintro ⟨x, r, rfl, rfl | rfl, h⟩ <;> exact h

/-- A text that is no document mark by itself is none where words may end after it. -/
theorem startsDocumentMark_append {t : List Char} (hne : s ≠ []) (hs : startsDocumentMark s = false)
    (ht : endsWord false t = true) : startsDocumentMark (s ++ t) = false := by
  refine Bool.eq_false_iff.mpr fun hmark => ?_
  obtain ⟨x, r, hst, hx, hr⟩ := startsDocumentMark_iff.mp hmark
  have hhead : t.head? ≠ some x := by
    intro h
    obtain ⟨t, rfl⟩ := List.head?_eq_some_iff.mp h
    rcases hx with rfl | rfl <;> cases ht
  have hno {r : List Char} (hr : separates r = true) (hsr : s = x :: x :: x :: r) : False := by
    rw [startsDocumentMark_iff.mpr ⟨x, r, hsr, hx, hr⟩] at hs
    cases hs
  -- a mark that is not within the text would go on after it
  rcases s with _ | ⟨a, _ | ⟨b, _ | ⟨c, _ | ⟨d, s⟩⟩⟩⟩
  · exact hne rfl
  · obtain ⟨rfl, rfl⟩ := List.cons.inj hst
    exact hhead rfl
  · simp only [List.cons_append, List.nil_append, List.cons.injEq] at hst
    exact hhead (by rw [hst.2.2]; rfl)
  · simp only [List.cons_append, List.nil_append, List.cons.injEq] at hst
    exact hno (r := []) rfl (by rw [hst.1, hst.2.1, hst.2.2.1])
  · simp only [List.cons_append, List.cons.injEq] at hst
    refine hno (r := d :: s) ?_ (by rw [hst.1, hst.2.1, hst.2.2.1])
    rw [← hst.2.2.2] at hr
    exact hr

/-- A plain scalar is read as it stands. -/
theorem Cursor.plainScalar_text (hs : IsPlain s) (hg : Gap crosses k g) (hapart : g.head? ≠ some '#')
    (hr : Solid r) (hend : endsWord false r = true ∨ crosses = true ∧ (k : Int) < indent)
    (hrest : c.rest = s ++ (g ++ r)) (hmark : c.atDocumentMark = false) (hcolumn : indent ≤ c.mark.column + 1) :
    ∃ stop c' crossed, c.plainScalar false indent = .ok ⟨⟨String.ofList s, .plain⟩, stop, c', crossed⟩ ∧
      StopsIn (c.mark.advance s.length) crosses k r crossed c' := by
  have hcomment : s.head? ≠ some '#' := by
    intro h
    obtain ⟨s, rfl⟩ := List.head?_eq_some_iff.mp h
    cases hs.start
  have hfuel : s.length < c.rest.length + 1 := by
    rw [hrest, List.length_append]
    omega
  obtain ⟨stop, c', crossed, heq, hstop⟩ :=
    plainWords_words hs.words hg hapart hr hend hrest hmark hcomment hcolumn hfuel [] [] c.mark c.mark
  exact ⟨stop, c', crossed, heq, hstop⟩

end Workday.Yaml
