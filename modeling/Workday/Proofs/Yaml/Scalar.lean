import Workday.Proofs.Yaml.Scalar.Plain
import Workday.Proofs.Yaml.Scalar.Quoted

/-!
# Reading written scalars

A scalar that is written in one of its ways gives one token with that scalar, and the stream stops somewhere
in the gap after it.
-/

set_option autoImplicit false

namespace Workday.Yaml

variable {s g r : List Char} {scalar : Scalar} {crosses : Bool} {k : Nat}

/-- A word ends before a gap. Without one it ends before the text that follows, if that ends words. -/
theorem endsWord_gap (hg : Gap crosses k g) (hapart : g.head? ≠ some '#')
    (hend : endsWord false r = true ∨ crosses = true) : endsWord false (g ++ r) = true := by
  by_cases hnil : g = []
  · obtain ⟨rfl, rfl⟩ := hg.eq_of_nil hnil
    subst hnil
    exact hend.resolve_right Bool.false_ne_true
  · exact endsWord_of_atGap (c := ⟨g ++ r, {}⟩) (hg.atGap_or_atBreak hnil hapart rfl)

/-- How a written scalar begins. -/
theorem ScalarWritten.exists_cons (hs : ScalarWritten s scalar) :
    ∃ x s', s = x :: s' ∧ isGap x = false ∧ isBreak x = false ∧ x ≠ '#' ∧ x ≠ '\uFEFF' ∧ x ≠ '%' := by
  cases hs with
  | plain hplain =>
    obtain ⟨x, s', rfl, hinline, hgap, hbom⟩ := hplain.words.exists_cons
    refine ⟨x, s', rfl, hgap, isBreak_of_isInline hinline, ?_, hbom, ?_⟩ <;>
      (rintro rfl; cases hplain.start)
  | @quoted single s t htext =>
    refine ⟨_, _, rfl, isGap_quoteSign, isBreak_quoteSign, ?_⟩
    cases single <;> decide

/-- No gap goes on with a written scalar, so blanks end before it. -/
theorem ScalarWritten.solid (hs : ScalarWritten s scalar) (r : List Char) : Solid (s ++ r) := by
  obtain ⟨x, s, rfl, hgap, hbreak, hcomment, hbom, -⟩ := hs.exists_cons
  exact solid_cons hgap hbreak hcomment hbom

namespace TokenStream

variable {t : TokenStream}

/-- What begins as a plain scalar is read as one. A hyphen, a question mark or a colon would begin
something else only before a gap, and here none follows it. -/
theorem tokenFrom_plain {x : Char} (hs : IsPlain (x :: s)) (hflow : t.outerKeys = []) :
    t.tokenFrom x (s ++ r) = t.plainScalar := by
  have hin := inFlow_eq_false hflow
  have hsep (h : startsPlain (x :: s) = !separates s) : separates (s ++ r) = false := by
    rw [hs.start] at h
    cases s with
    | nil => cases h
    | cons y s =>
      have hno : separates (y :: s) = false := by simpa using h.symm
      exact hno
  obtain ⟨y, s', hy, -, hgap, -⟩ := hs.words.exists_cons
  obtain ⟨rfl, rfl⟩ := List.cons.inj hy
  unfold tokenFrom
  split
  all_goals first
    | rfl
    | rw [hsep rfl, hin]; rfl
    | exact absurd hgap (by decide)
    | exact absurd hs.start Bool.false_ne_true

/-- A written scalar is read as one token. Its first character tells which kind it is; a key is
remembered before it is read, and the stream stops somewhere in the gap behind it. -/
theorem tokenFrom_scalar (hs : ScalarWritten s scalar) (hg : Gap crosses k g) (hapart : g.head? ≠ some '#')
    (hr : Solid r) (hend : endsWord false r = true ∨ crosses = true ∧ (k : Int) ≤ t.indent)
    (hflow : t.outerKeys = []) (hrest : t.cursor.rest = s ++ (g ++ r)) (hcolumn : t.indent ≤ t.cursor.mark.column)
    {key : Option KeyPlace} (hsave : t.saveKey = .ok { t with key }) :
    ∃ x rest stop c' crossed, t.cursor.rest = x :: rest ∧ x ≠ '%' ∧ t.cursor.atDocumentMark = false ∧
      StopsIn (t.cursor.mark.advance s.length) crosses k r crossed c' ∧
      t.tokenFrom x rest = .ok ({ t with key }.pushScalar ⟨scalar, stop, c', crossed⟩ crossed) := by
  have hin := inFlow_eq_false hflow
  have hends : endsWord false (g ++ r) = true := endsWord_gap hg hapart (hend.imp_right And.left)
  cases hs with
  | plain hs =>
    have hmark : t.cursor.atDocumentMark = false := by
      obtain ⟨x, s', rfl, -⟩ := hs.words.exists_cons
      rw [Cursor.atDocumentMark, hrest, startsDocumentMark_append (List.cons_ne_nil _ _) hs.noMark hends,
        Bool.and_false]
    obtain ⟨stop, c', crossed, hread, hstop⟩ := Cursor.plainScalar_text hs hg hapart hr
      (hend.imp_right (And.imp_right Int.lt_add_one_of_le)) hrest hmark
      (show t.indent + 1 ≤ (t.cursor.mark.column : Int) + 1 by omega)
    obtain ⟨x, s, rfl, -⟩ := hs.words.exists_cons
    refine ⟨x, s ++ (g ++ r), stop, c', crossed, hrest, ?_, hmark, hstop, ?_⟩
    · rintro rfl
      cases hs.start
    · rw [tokenFrom_plain hs hflow, plainScalar, hsave]
      have hin' : ({ t with key } : TokenStream).inFlow = false := hin
      simp only [bind, Except.bind, hin', hread]
      rfl
  | @quoted single s u htext =>
    -- a second quote directly behind would go on with the scalar
    have hquote : single = true → (g ++ r).head? ≠ some '\'' := by
      rintro -  h
      obtain ⟨w, hw⟩ := List.head?_eq_some_iff.mp h
      rw [hw] at hends
      cases hends
    have hread := Cursor.quotedScalar_text htext hquote hrest
    have hmark : t.cursor.atDocumentMark = false := by
      rw [Cursor.atDocumentMark, hrest]
      cases single <;> exact Bool.and_false _
    have hlength : (quoteSign single :: (s ++ [quoteSign single])).length = s.length + 2 := by simp
    have hpercent : quoteSign single ≠ '%' := by cases single <;> decide
    rw [← hlength] at hread
    refine ⟨_, _, t.cursor.mark.advance (quoteSign single :: (s ++ [quoteSign single])).length, _, _, hrest,
      hpercent, hmark, .before hg, ?_⟩
    have hquoted : t.tokenFrom (quoteSign single) ((s ++ [quoteSign single]) ++ (g ++ r)) =
        t.quotedScalar single := by
      cases single <;> rfl
    refine hquoted.trans ?_
    rw [quotedScalar, hsave]
    simp only [bind, Except.bind, hread]
    rfl

end TokenStream

end Workday.Yaml
