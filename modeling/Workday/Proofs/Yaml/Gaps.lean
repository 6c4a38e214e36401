import Mathlib.Data.List.TakeWhile
import Workday.Proofs.Yaml.Layout
import Workday.Yaml.TokenStream

/-!
# Passing over gaps

Before each token the spaces, comments and line breaks that come next are passed over. On a gap that means:
the cursor comes to what follows the gap, in the column to which the gap leads if a line ends in it, and a
name may begin there just then.
-/

set_option autoImplicit false

namespace Workday.Yaml

variable {c : Cursor} {r s g : List Char} {n k : Nat} {crosses : Bool}

/-- A text that no gap goes on with. -/
def Solid (s : List Char) : Prop :=
  ∀ c ∈ s.head?, isGap c = false ∧ isBreak c = false ∧ c ≠ '#' ∧ c ≠ '\uFEFF'

theorem solid_nil : Solid [] := nofun

/-- A text is solid by its first character. -/
theorem solid_cons {x : Char} (hgap : isGap x = false) (hbreak : isBreak x = false) (hcomment : x ≠ '#')
    (hmark : x ≠ '\uFEFF') : Solid (x :: s) := by
  intro c hc
  cases hc
  exact ⟨hgap, hbreak, hcomment, hmark⟩

theorem Mark.advance_advance (m : Mark) (i j : Nat) : (m.advance i).advance j = m.advance (i + j) := by
  simp only [advance, Nat.add_assoc]

namespace Cursor

/-- The cursor comes to what follows the characters that are skipped. -/
theorem skip_eq (hrest : c.rest = s ++ r) : c.skip s.length = ⟨r, c.mark.advance s.length⟩ := by
  rw [skip, hrest, List.drop_left]

/-- Characters are taken as long as they pass the test, and the cursor stands before the first that
does not. -/
theorem takeWhile_eq {test : Char → Bool} (hrest : c.rest = s ++ r) (hs : ∀ x ∈ s, test x = true)
    (hr : ∀ x ∈ r.head?, test x = false) :
    c.takeWhile test = (s, ⟨r, c.mark.advance s.length⟩) := by
  have hnone : r.takeWhile test = [] := by
    cases r with
    | nil => rfl
    | cons x r => rw [List.takeWhile_cons_of_neg (by simp [hr x rfl])]
  have hrun : c.rest.takeWhile test = s := by
    rw [hrest, List.takeWhile_append_of_pos hs, hnone, List.append_nil]
  simp only [takeWhile, hrun, skip_eq hrest]

theorem skipWhile_eq {test : Char → Bool} (hrest : c.rest = s ++ r) (hs : ∀ x ∈ s, test x = true)
    (hr : ∀ x ∈ r.head?, test x = false) : c.skipWhile test = ⟨r, c.mark.advance s.length⟩ := by
  rw [skipWhile, takeWhile_eq hrest hs hr]

theorem skipComment_of_not (h : c.rest.head? ≠ some '#') : c.skipComment = c := by
  rw [skipComment, isAt, beq_false_of_ne h]
  rfl

/-- A comment is skipped up to the break that ends it. -/
theorem skipComment_eq (hs : IsComment s) (hrest : c.rest = s ++ r)
    (hr : ∀ x ∈ r.head?, isBreak x = true) (hhead : r.head? ≠ some '#') :
    c.skipComment = ⟨r, c.mark.advance s.length⟩ := by
  rcases hs with rfl | ⟨t, rfl, ht⟩
  · rw [List.nil_append] at hrest
    rw [skipComment_of_not (hrest ▸ hhead), ← hrest]
    rfl
  · have hat : c.isAt '#' = true := by
      rw [isAt, hrest]
      rfl
    rw [skipComment, if_pos hat, skipLine]
    refine skipWhile_eq hrest ?_ (fun x hx => by rw [hr x hx]; rfl)
    intro x hx
    rcases List.mem_cons.mp hx with rfl | hx
    · rfl
    · have hinline := ht x hx
      rw [isInline, Bool.and_eq_true] at hinline
      exact hinline.2

theorem atBreak_of_head {x : Char} (hrest : c.rest = x :: r) (hx : isBreak x = true) :
    c.atBreak = true := by
  rw [atBreak, hrest]
  exact hx

/-- The cursor is at no break before a solid text. -/
theorem atBreak_of_solid (h : Solid c.rest) : c.atBreak = false := by
  unfold atBreak
  cases hhead : c.rest.head? with
  | none => rfl
  | some x => exact (h x hhead).2.1

/-- Either way to end a line is taken as a line feed, and the next line begins. -/
theorem takeBreak_eq {ending : List Char} (hending : ending ∈ [['\n'], ['\r', '\n']])
    (hrest : c.rest = ending ++ r) :
    c.takeBreak = (['\n'], ⟨r, c.mark.nextLine ending.length⟩) := by
  rw [takeBreak, hrest]
  simp only [List.mem_cons, List.not_mem_nil, or_false] at hending
  rcases hending with rfl | rfl <;> rfl

end Cursor

/-- What ends a line begins with a break: no gap, no comment and no byte order mark. -/
theorem exists_ending_cons {ending : List Char} (h : ending ∈ [['\n'], ['\r', '\n']]) :
    ∃ x t, ending = x :: t ∧ isBreak x = true ∧ isGap x = false ∧ x ≠ '#' ∧ x ≠ '\uFEFF' := by
  simp only [List.mem_cons, List.not_mem_nil, or_false] at h
  rcases h with rfl | rfl
  · exact ⟨'\n', [], rfl, rfl, rfl, by decide, by decide⟩
  · exact ⟨'\r', ['\n'], rfl, rfl, rfl, by decide, by decide⟩

/-- A gap does not begin with the byte order mark. -/
theorem Gap.head?_ne_mark (hg : Gap crosses k g) (hr : Solid r) : (g ++ r).head? ≠ some '\uFEFF' := by
  cases hg with
  | spaces =>
    cases k with
    | zero => exact fun h => (hr _ h).2.2.2 rfl
    | succ n => exact fun h => absurd (Option.some.inj h) (by decide)
  | @line n comment ending g crosses _ hcomment hbreak rest =>
    obtain ⟨x, s, rfl, -, -, -, hx⟩ := exists_ending_cons hbreak
    cases n with
    | zero =>
      rcases hcomment with rfl | ⟨t, rfl, -⟩
      · exact fun h => hx (Option.some.inj h)
      · exact fun h => absurd (Option.some.inj h) (by decide)
    | succ n => exact fun h => absurd (Option.some.inj h) (by decide)

/-- Where a gap ends: in the column it leads to if a line ends in it, else so much further on. -/
def AfterGap (start : Mark) (crosses : Bool) (k : Nat) (stop : Mark) : Prop :=
  if crosses then stop.column = k else stop = start.advance k

/-- After a line has ended, a gap ends in the column that it leads to, whether further lines end in
it or not. -/
theorem AfterGap.column_of_nextLine {start stop : Mark} {i : Nat}
    (h : AfterGap (start.nextLine i) crosses k stop) : stop.column = k := by
  cases crosses with
  | true => exact h
  | false =>
    have hcolumn : stop.column = 0 + k := congrArg Mark.column h
    exact hcolumn.trans (Nat.zero_add k)

namespace TokenStream

variable {t : TokenStream}

/-- Outside of flow collections no keys are remembered for outer ones. -/
theorem inFlow_eq_false (hflow : t.outerKeys = []) : t.inFlow = false := by
  rw [inFlow, hflow]
  rfl

/-- One turn of passing over blanks: spaces and a comment, and the break after them. Only a break is
followed by another turn, and behind it a name may begin. -/
theorem skipBlanks_turn (hflow : t.outerKeys = []) (hmark : t.cursor.rest.head? ≠ some '\uFEFF')
    {comment : List Char} (hcomment : IsComment comment)
    (hrest : t.cursor.rest = List.replicate n ' ' ++ (comment ++ r))
    (hr : ∀ x ∈ r.head?, isGap x = false ∧ x ≠ '#' ∧ (comment ≠ [] → isBreak x = true)) (fuel : Nat) :
    t.skipBlanks (fuel + 1) =
      let c : Cursor := ⟨r, (t.cursor.mark.advance n).advance comment.length⟩
      if c.atBreak then skipBlanks fuel { t with cursor := c.skipBreak, keyAllowed := true }
      else { t with cursor := c } := by
  have hbom : (t.cursor.mark.index == 0 && t.cursor.isAt '\uFEFF') = false := by
    rw [Cursor.isAt, beq_false_of_ne hmark, Bool.and_false]
  have hspaces : (t.cursor.skipWhile fun x => x == ' ' || ((t.inFlow || !t.keyAllowed) && x == '\t')) =
      ⟨comment ++ r, t.cursor.mark.advance n⟩ := by
    rw [Cursor.skipWhile_eq hrest, List.length_replicate]
    · intro x hx
      rw [List.eq_of_mem_replicate hx]
      rfl
    · intro x hx
      have hgap : isGap x = false := by
        rcases hcomment with rfl | ⟨s, rfl, -⟩
        · exact (hr x hx).1
        · cases hx
          rfl
      rw [isGap, Bool.or_eq_false_iff] at hgap
      rw [hgap.1, hgap.2, Bool.and_false]
      rfl
  have hskip : (⟨comment ++ r, t.cursor.mark.advance n⟩ : Cursor).skipComment =
      ⟨r, (t.cursor.mark.advance n).advance comment.length⟩ := by
    by_cases hnil : comment = []
    · subst hnil
      exact Cursor.skipComment_of_not fun h => (hr _ h).2.1 rfl
    · exact Cursor.skipComment_eq hcomment rfl (fun x hx => (hr x hx).2.2 hnil)
        fun h => (hr _ h).2.1 rfl
  rw [skipBlanks]
  simp only [hbom, Bool.false_eq_true, if_false, hspaces, hskip]
  rw [inFlow_eq_false hflow, Bool.not_false, Bool.or_true]

/-- Passing over blanks leads over a gap. The induction is on the gap, one turn for each of its lines
and one for the spaces at the end; the fuel is more than the characters. -/
theorem skipBlanks_gap (hg : Gap crosses k g) (hr : Solid r) (hflow : t.outerKeys = [])
    (hrest : t.cursor.rest = g ++ r) {fuel : Nat} (hfuel : g.length < fuel) :
    ∃ m, AfterGap t.cursor.mark crosses k m ∧
      t.skipBlanks fuel = { t with cursor := ⟨r, m⟩, keyAllowed := t.keyAllowed || crosses } := by
  have hmark : t.cursor.rest.head? ≠ some '\uFEFF' := hrest ▸ hg.head?_ne_mark hr
  obtain ⟨fuel, rfl⟩ := Nat.exists_eq_add_one_of_ne_zero (Nat.ne_zero_of_lt hfuel)
  induction hg generalizing t fuel with
  | spaces n =>
    refine ⟨t.cursor.mark.advance n, rfl, ?_⟩
    rw [skipBlanks_turn hflow hmark (.inl rfl) hrest fun x hx => ⟨(hr x hx).1, (hr x hx).2.2.1, nofun⟩]
    have hno : (⟨r, (t.cursor.mark.advance n).advance 0⟩ : Cursor).atBreak = false :=
      Cursor.atBreak_of_solid hr
    simp only [List.length_nil, hno, Bool.false_eq_true, if_false, Bool.or_false]
    rfl
  | @line n comment ending g crosses k hcomment hbreak hg ih =>
    obtain ⟨x, ending', hx, hxbreak, hxgap, hxcomment, -⟩ := exists_ending_cons hbreak
    simp only [List.append_assoc] at hrest
    rw [skipBlanks_turn hflow hmark hcomment hrest (by
      rw [hx]
      rintro y ⟨⟩
      exact ⟨hxgap, hxcomment, fun _ => hxbreak⟩)]
    set stop := (t.cursor.mark.advance n).advance comment.length with hstop
    have hat : (⟨ending ++ (g ++ r), stop⟩ : Cursor).atBreak = true :=
      Cursor.atBreak_of_head (by rw [hx]; rfl) hxbreak
    have hskip : (⟨ending ++ (g ++ r), stop⟩ : Cursor).skipBreak = ⟨g ++ r, stop.nextLine ending.length⟩ := by
      rw [Cursor.skipBreak, Cursor.takeBreak_eq hbreak rfl]
    simp only [hat, if_true, hskip]
    have hlength : g.length < fuel := by
      simp only [List.length_append, hx, List.length_cons] at hfuel
      omega
    obtain ⟨fuel, rfl⟩ := Nat.exists_eq_add_one_of_ne_zero (Nat.ne_zero_of_lt hlength)
    obtain ⟨m, hm, heq⟩ := ih
      (t := { t with cursor := ⟨g ++ r, stop.nextLine ending.length⟩, keyAllowed := true })
      hflow rfl (hg.head?_ne_mark hr) fuel hlength
    exact ⟨m, hm.column_of_nextLine, by rw [heq, Bool.true_or, Bool.or_true]⟩

/-- Passing over blanks changes the cursor and where a name may begin, and looks at nothing else. -/
theorem skipBlanks_frame (hflow : t.outerKeys = []) (fuel : Nat) :
    t.skipBlanks fuel =
      let passed := skipBlanks fuel { cursor := t.cursor, keyAllowed := t.keyAllowed }
      { t with cursor := passed.cursor, keyAllowed := passed.keyAllowed } := by
  have hin := inFlow_eq_false hflow
  have hstart (c : Cursor) (allowed : Bool) :
      inFlow { cursor := c, keyAllowed := allowed } = false := rfl
  induction fuel generalizing t with
  | zero => rfl
  | succ fuel ih =>
    rw [skipBlanks, skipBlanks]
    simp only [hin, hstart]
    generalize Cursor.skipComment _ = c
    cases c.atBreak with
    | true =>
      exact ih (t := { t with cursor := c.skipBreak, keyAllowed := t.keyAllowed || !false }) hflow hin
    | false => rfl

/-- Before the next token blanks lead from one cursor to another, and change where a name may begin. -/
def Passes (c : Cursor) (allowed : Bool) (c' : Cursor) (allowed' : Bool) : Prop :=
  ∀ t : TokenStream, t.outerKeys = [] → t.cursor = c → t.keyAllowed = allowed →
    t.skipBlanks (c.rest.length + 1) = { t with cursor := c', keyAllowed := allowed' }

/-- Blanks lead over a gap. A name may begin after it if one could before or if a line has ended. -/
theorem passes_gap (hg : Gap crosses k g) (hr : Solid r) (hrest : c.rest = g ++ r) (allowed : Bool) :
    ∃ m, AfterGap c.mark crosses k m ∧ Passes c allowed ⟨r, m⟩ (allowed || crosses) := by
  have hlength : g.length < c.rest.length + 1 := by
    rw [hrest, List.length_append]
    omega
  obtain ⟨m, hm, heq⟩ := skipBlanks_gap (t := { cursor := c, keyAllowed := allowed }) hg hr rfl hrest hlength
  refine ⟨m, hm, ?_⟩
  rintro t hflow rfl rfl
  rw [skipBlanks_frame hflow, heq]

end TokenStream

/-! ## Within scalars -/

theorem Between.crossesLines_addGap (b : Between) (x : Char) : (b.addGap x).crossesLines = b.crossesLines := by
  cases b <;> rfl

/-- Gaps within a line are gathered in order. -/
theorem Between.foldl_addGap (xs s : List Char) : s.foldl Between.addGap (.gaps xs) = .gaps (xs ++ s) := by
  induction s generalizing xs with
  | nil => rw [List.append_nil, List.foldl_nil]
  | cons x s ih => rw [List.foldl_cons, Between.addGap, ih, List.append_assoc, List.singleton_append]

/-- Gaps within a line end no line, however many. -/
theorem Between.crossesLines_foldl_addGap (b : Between) (s : List Char) :
    (s.foldl Between.addGap b).crossesLines = b.crossesLines := by
  induction s generalizing b with
  | nil => rfl
  | cons x s ih => rw [List.foldl_cons, ih, crossesLines_addGap]

theorem isBreak_of_isInline {x : Char} (h : isInline x = true) : isBreak x = false := by
  simpa using (Bool.and_eq_true_iff.mp h).2

theorem isBreak_of_isGap {x : Char} (h : isGap x = true) : isBreak x = false := by
  rw [isGap, Bool.or_eq_true, beq_iff_eq, beq_iff_eq] at h
  rcases h with rfl | rfl <;> rfl

namespace Cursor

variable {tabFault : Mark → Option Fault} {fuel : Nat} {b : Between}

theorem skip_skip (c : Cursor) (i j : Nat) : (c.skip i).skip j = c.skip (i + j) := by
  simp only [skip, List.drop_drop, Mark.advance_advance]

/-- Nothing is taken up where neither a gap nor a break comes next. -/
theorem takeBetween_done (hgap : ∀ x ∈ c.rest.head?, isGap x = false)
    (hbreak : ∀ x ∈ c.rest.head?, isBreak x = false) : c.takeBetween tabFault fuel b = .ok (b, c) := by
  cases fuel with
  | zero => rfl
  | succ fuel =>
    have hat : c.atBreak = false := by
      unfold atBreak
      cases hhead : c.rest.head? with
      | none => rfl
      | some x => exact hbreak x hhead
    rw [takeBetween, hat, if_neg Bool.false_ne_true, peek?]
    cases hhead : c.rest.head? with
    | none => rfl
    | some x => simp only [hgap x hhead, Bool.not_false, if_true]

/-- Gaps within a line are taken up, but tabs only while no line has ended: at the start of a line a tab
may be a fault. -/
theorem takeBetween_gaps (hs : ∀ x ∈ s, isGap x = true) (htab : b.crossesLines = true → '\t' ∉ s)
    (hrest : c.rest = s ++ r) (hfuel : s.length ≤ fuel) :
    c.takeBetween tabFault fuel b =
      (c.skip s.length).takeBetween tabFault (fuel - s.length) (s.foldl Between.addGap b) := by
  induction s generalizing c fuel b with
  | nil => rfl
  | cons x s ih =>
    obtain ⟨fuel, rfl⟩ := Nat.exists_eq_add_one_of_ne_zero (Nat.ne_zero_of_lt hfuel)
    have hx := hs x List.mem_cons_self
    have hhead : c.rest.head? = some x := by
      rw [hrest]
      rfl
    have hat : c.atBreak = false := by
      rw [atBreak, hhead]
      exact isBreak_of_isGap hx
    have hfault : (b.crossesLines && x == '\t') = false := by
      cases hcross : b.crossesLines with
      | false => rfl
      | true =>
        refine beq_false_of_ne ?_
        rintro rfl
        exact htab hcross List.mem_cons_self
    have hskip : (c.skip 1).rest = s ++ r := by
      rw [skip, hrest]
      rfl
    rw [takeBetween, hat, if_neg Bool.false_ne_true, peek?, hhead]
    simp only [hx, Bool.not_true, Bool.false_eq_true, if_false, hfault]
    rw [ih (fun y hy => hs y (List.mem_cons_of_mem x hy))
      (fun hcross hmem => htab (by rwa [Between.crossesLines_addGap] at hcross) (List.mem_cons_of_mem x hmem))
      hskip (Nat.le_of_succ_le_succ hfuel), skip_skip, List.foldl_cons, List.length_cons, Nat.add_comm 1,
      Nat.add_sub_add_right]

/-- Spaces are taken up wherever they stand: they are never the tabs that may be a fault. -/
theorem takeBetween_spaces (hrest : c.rest = List.replicate n ' ' ++ r) (hfuel : n ≤ fuel) :
    c.takeBetween tabFault fuel b = (⟨r, c.mark.advance n⟩ : Cursor).takeBetween tabFault (fuel - n)
      ((List.replicate n ' ').foldl Between.addGap b) := by
  have hlength : (List.replicate n ' ').length = n := List.length_replicate
  have hskip : c.skip n = ⟨r, c.mark.advance n⟩ := by rw [← hlength, skip_eq hrest, hlength]
  rw [takeBetween_gaps (fun x hx => by rw [List.eq_of_mem_replicate hx]; rfl)
    (fun _ hmem => absurd (List.eq_of_mem_replicate hmem) (by decide)) hrest (by rwa [hlength]), hlength,
    hskip]

/-- A break is taken up, and the next line goes on. -/
theorem takeBetween_break {ending : List Char} (hending : ending ∈ [['\n'], ['\r', '\n']])
    (hrest : c.rest = ending ++ r) :
    c.takeBetween tabFault (fuel + 1) b =
      (⟨r, c.mark.nextLine ending.length⟩ : Cursor).takeBetween tabFault fuel (b.addBreak ['\n']) := by
  obtain ⟨x, ending', rfl, hx, -⟩ := exists_ending_cons hending
  rw [takeBetween, atBreak_of_head hrest hx, if_pos rfl, takeBreak_eq hending hrest]

end Cursor

/-- Where a scalar stops looking at the gap before a text: before it, past it, or at a comment in it. -/
inductive StopsIn (start : Mark) (crosses : Bool) (k : Nat) (r : List Char) : Bool → Cursor → Prop
  | before {g : List Char} (gap : Gap crosses k g) : StopsIn start crosses k r false ⟨g ++ r, start⟩
  | past {m : Mark} (after : AfterGap start crosses k m) : StopsIn start crosses k r crosses ⟨r, m⟩
  | atComment {g : List Char} {m : Mark} {crossed : Bool} (gap : Gap true k g) (head : g.head? = some '#')
      (lines : crosses = true) : StopsIn start crosses k r crossed ⟨g ++ r, m⟩

namespace StopsIn

variable {start : Mark} {crossed : Bool}

/-- Passing over blanks leads over the rest of the gap. -/
theorem passes (h : StopsIn start crosses k r crossed c) (hr : Solid r) :
    ∃ m, AfterGap start crosses k m ∧ TokenStream.Passes c crossed ⟨r, m⟩ crosses := by
  cases h with
  | @before g hg =>
    obtain ⟨m, hm, hpasses⟩ := TokenStream.passes_gap (c := ⟨g ++ r, start⟩) hg hr rfl false
    exact ⟨m, hm, hpasses⟩
  | @past m hafter =>
    obtain ⟨m', rfl, hpasses⟩ := TokenStream.passes_gap (c := ⟨r, m⟩) (.spaces 0) hr rfl crosses
    rw [Bool.or_false] at hpasses
    exact ⟨m, hafter, hpasses⟩
  | @atComment g m _ hg hhead hlines =>
    obtain ⟨m', hm', hpasses⟩ := TokenStream.passes_gap (c := ⟨g ++ r, m⟩) hg hr rfl crossed
    rw [Bool.or_true] at hpasses
    subst hlines
    exact ⟨m', hm', hpasses⟩

/-- Where no line ends, it stops no further than the gap goes. -/
theorem near (h : StopsIn start false k r crossed c) : ∃ j ≤ k, c.mark = start.advance j := by
  cases h with
  | before => exact ⟨0, Nat.zero_le k, rfl⟩
  | past hafter => exact ⟨k, Nat.le_refl k, hafter⟩
  | atComment _ _ hlines => cases hlines

end StopsIn

namespace Cursor

/-- What stands between is taken up to the text after the gap, or up to a comment, at which a scalar
stops looking. In the second case the rest of the gap is left to the blanks. -/
theorem takeBetween_gap (tabFault : Mark → Option Fault) (hg : Gap crosses k g) (hr : Solid r)
    (hrest : c.rest = g ++ r) {fuel : Nat} (hfuel : g.length ≤ fuel) (b : Between) :
    ∃ b' c', c.takeBetween tabFault fuel b = .ok (b', c') ∧
      ((∃ m, c' = ⟨r, m⟩ ∧ AfterGap c.mark crosses k m ∧ b'.crossesLines = (b.crossesLines || crosses)) ∨
        (crosses = true ∧ ∃ g' m, c' = ⟨g' ++ r, m⟩ ∧ Gap true k g' ∧ g'.head? = some '#')) := by
  induction hg generalizing c fuel b with
  | spaces n =>
    rw [takeBetween_spaces hrest (by simpa using hfuel),
      takeBetween_done (fun x hx => (hr x hx).1) fun x hx => (hr x hx).2.1]
    exact ⟨_, _, rfl, .inl ⟨_, rfl, rfl, by rw [Between.crossesLines_foldl_addGap, Bool.or_false]⟩⟩
  | @line n comment ending g crosses k hcomment hbreak hg ih =>
    simp only [List.append_assoc] at hrest
    simp only [List.length_append, List.length_replicate] at hfuel
    rw [takeBetween_spaces hrest (by omega)]
    rcases hcomment with rfl | ⟨t, rfl, ht⟩
    · obtain ⟨x, ending', hx, -⟩ := exists_ending_cons hbreak
      have hpos : 0 < ending.length := by simp [hx]
      simp only [List.length_nil] at hfuel
      obtain ⟨fuel', hfuel'⟩ : ∃ fuel', fuel - n = fuel' + 1 := ⟨fuel - n - 1, by omega⟩
      rw [hfuel', takeBetween_break hbreak rfl]
      set b₁ := ((List.replicate n ' ').foldl Between.addGap b).addBreak ['\n'] with hb₁
      have hcross : b₁.crossesLines = true := by
        rw [hb₁]
        cases (List.replicate n ' ').foldl Between.addGap b <;> rfl
      obtain ⟨b', c', htake, hstop⟩ :=
        ih (c := ⟨g ++ r, (c.mark.advance n).nextLine ending.length⟩) rfl (show g.length ≤ fuel' by omega) b₁
      refine ⟨b', c', htake, ?_⟩
      rcases hstop with ⟨m, rfl, hafter, hb'⟩ | ⟨hlines, g', m, rfl, hg', hhead⟩
      · exact .inl ⟨m, rfl, hafter.column_of_nextLine, by rw [hb', hcross, Bool.true_or, Bool.or_true]⟩
      · exact .inr ⟨rfl, g', m, rfl, hg', hhead⟩
    · rw [takeBetween_done (by rintro x ⟨⟩; rfl) (by rintro x ⟨⟩; rfl)]
      refine ⟨_, _, rfl, .inr ⟨rfl, '#' :: t ++ (ending ++ g), c.mark.advance n, ?_, ?_, rfl⟩⟩
      · simp only [List.append_assoc]
      · exact .line 0 (.inr ⟨t, rfl, ht⟩) hbreak hg

end Cursor

end Workday.Yaml
