import Workday.Proofs.Yaml.Readable
import Workday.Proofs.Yaml.Scalar

/-!
# The tokens of a mapping

The tokens of a written mapping, found by running the stream over its text. Between two entries the stream
knows its cursor, the columns of the blocks it is in and whether a name may begin; a key is remembered only
from a name to its colon. `Enters` says which blocks end and begin at the column of an entry. Those that an entry
leaves open end only where the next one begins (`Closes`), so that the runs over entries chain, whichever mapping
they are in (`ItemComes.sequence`).
-/

set_option autoImplicit false

namespace Workday.Yaml

/-- The tokens of a pair. -/
def Pair.tokens (p : Pair) : List TokenKind := [.key, .scalar p.name, .value, .scalar p.value]

/-- The tokens of what an entry has under its name. -/
def Content.tokens : Content → List TokenKind
  | scalar _ value => [.scalar value]
  | mapping pairs => .blockMappingStart :: pairs.flatMap Pair.tokens ++ [.blockEnd]

/-- The tokens of an entry. -/
def Entry.tokens (e : Entry) : List TokenKind := [.key, .scalar e.name, .value] ++ e.content.tokens

/-- The tokens of a mapping with entries: those of the entries, within a block. Without entries there are none. -/
def mappingTokens : List Entry → List TokenKind
  | [] => []
  | e :: es => .blockMappingStart :: (e :: es).flatMap Entry.tokens ++ [.blockEnd]

/-- The tokens of a mapping that is not empty. -/
theorem mappingTokens_of_ne {es : List Entry} (h : es ≠ []) :
    mappingTokens es = .blockMappingStart :: es.flatMap Entry.tokens ++ [.blockEnd] := by
  cases es with
  | nil => exact absurd rfl h
  | cons => rfl

/-- A written sequence has an item. -/
theorem Sequence.ne_nil {ι : Type} {ItemWritten : ι → Bool → Nat → List Char → Prop} {column k : Nat}
    {crosses : Bool} {items : List ι} {text : List Char} (h : Sequence ItemWritten column items crosses k text) :
    items ≠ [] := by
  cases h with
  | last => exact List.cons_ne_nil _ _
  | more => exact List.cons_ne_nil _ _

namespace TokenStream

variable {c : Cursor} {s g r : List Char} {m : Mark} {ts : List Token} {indent i : Int}
  {outer o : List Int} {allowed crosses : Bool} {n k : Nat} {t : TokenStream} {scalar : Scalar}

/-- A stream outside of flow collections that remembers no key. -/
def between (c : Cursor) (ts : List Token) (indent : Int) (outer : List Int) (allowed : Bool) : TokenStream :=
  { cursor := c, tokens := ts, indent, outerIndents := outer, keyAllowed := allowed }

/-! ## Steps -/

/-- Reads the token that comes next where no blanks are left. -/
def dispatch (t : TokenStream) : Except Fault TokenStream :=
  match t.cursor.rest with
  | [] => t.endStream
  | x :: rest =>
    if t.cursor.mark.column == 0 && x == '%' then t.directive
    else if t.cursor.atDocumentMark then
      t.documentMark (if x == '-' then .documentStart else .documentEnd)
    else t.tokenFrom x rest

/-- The next token in three steps: blanks are passed over, blocks further in are closed, and what
comes next is read. -/
theorem next_eq (t : TokenStream) :
    t.next = (do
      let t ← (t.skipBlanks (t.cursor.rest.length + 1)).expireKeys
      let t ← (t.closeBlocks t.cursor.mark.column).dispatch
      t.expireKeys) := by
  rw [next]
  refine bind_congr fun t => ?_
  unfold dispatch
  generalize t.closeBlocks _ = u
  dsimp only
  cases u.cursor.rest with
  | nil => rfl
  | cons x rest =>
    dsimp only
    cases u.cursor.mark.column == 0 && x == '%' with
    | true => rfl
    | false => cases u.cursor.atDocumentMark <;> rfl

/-- The next token from its steps, where no key that is remembered expires. -/
theorem next_of_steps {t₀ t₁ t₂ : TokenStream} (hskip : t.skipBlanks (t.cursor.rest.length + 1) = t₀)
    (hexpire₀ : t₀.expireKeys = .ok t₀) (hclose : t₀.closeBlocks t₀.cursor.mark.column = t₁)
    (hdispatch : t₁.dispatch = .ok t₂) (hexpire₂ : t₂.expireKeys = .ok t₂) : t.next = .ok t₂ := by
  rw [next_eq, hskip, hexpire₀]
  simp only [bind, Except.bind, hclose, hdispatch, hexpire₂]

/-- Where neither a directive nor a document mark stands, the first character says what is read. -/
theorem dispatch_eq {x : Char} {rest : List Char} (hrest : t.cursor.rest = x :: rest) (hx : x ≠ '%')
    (hmark : t.cursor.atDocumentMark = false) : t.dispatch = t.tokenFrom x rest := by
  rw [dispatch, hrest]
  simp only [beq_false_of_ne hx, Bool.and_false, Bool.false_eq_true, if_false, hmark]

theorem expireKeys_none (hkey : t.key = none) (hflow : t.outerKeys = []) : t.expireKeys = .ok t := by
  obtain ⟨c, ts, i, o, key, outerKeys, a⟩ := t
  subst hkey hflow
  rfl

/-- A key that is not too far back does not expire. -/
theorem expireKeys_near {place : KeyPlace} (hkey : t.key = some place) (hflow : t.outerKeys = [])
    (hnear : place.isPast t.cursor.mark = false) : t.expireKeys = .ok t := by
  obtain ⟨c, ts, i, o, key, outerKeys, a⟩ := t
  subst hkey hflow
  simp only [expireKeys, List.findSome?_cons, List.findSome?_nil, Option.filter_some]
  have hno : place.isPast c.mark = false := hnear
  simp [hno]

/-- A key is not too far back on its own line. -/
theorem isPast_advance {j : Nat} (h : j ≤ maxKeyLength) (required : Bool) (place : Nat) (m : Mark) :
    KeyPlace.isPast ⟨required, place, m⟩ (m.advance j) = false := by
  simp [KeyPlace.isPast, Mark.advance]
  omega

theorem leave_of_le (h : i ≤ n) (o : List Int) : leave n i o = (0, i, o) := by
  cases o with
  | nil => rfl
  | cons j o => rw [leave, if_neg (Int.not_lt.mpr h)]

/-- Each block that is left gives a token for its end. -/
theorem closeBlocks_eq (hflow : t.outerKeys = []) {column : Int}
    (hleave : leave column t.indent t.outerIndents = (n, i, o)) :
    t.closeBlocks column =
      { t with
        tokens := t.tokens ++ List.replicate n ⟨.blockEnd, t.cursor.mark, t.cursor.mark⟩
        indent := i
        outerIndents := o } := by
  have hin := inFlow_eq_false hflow
  rw [closeBlocks, hin, if_neg Bool.false_ne_true, hleave]

/-- The place of a key that may begin at a mark, if one may. -/
def placeAt (allowed : Bool) (required : Bool) (place : Nat) (m : Mark) : Option KeyPlace :=
  if allowed then some ⟨required, place, m⟩ else none

/-- What comes next is remembered as a key if a name may begin here. -/
theorem saveKey_eq (hkey : t.key = none) (hflow : t.outerKeys = []) :
    t.saveKey = .ok { t with
      key := placeAt t.keyAllowed (t.indent == (t.cursor.mark.column : Int)) t.tokens.length t.cursor.mark } := by
  obtain ⟨c, ts, i, o, key, outerKeys, allowed⟩ := t
  subst hkey hflow
  cases allowed <;> rfl

/-- A written scalar gives its token, with the ends of the blocks before it. Where a name may begin its
place is kept, since the colon that makes it a name comes later. -/
theorem next_scalar (hs : ScalarWritten s scalar) (hg : Gap crosses k g) (hapart : g.head? ≠ some '#')
    (hr : Solid r) {allowed' : Bool} (hpass : Passes c allowed ⟨s ++ (g ++ r), m⟩ allowed')
    (hleave : leave m.column indent outer = (n, i, o)) (hi : i ≤ m.column)
    (hend : endsWord false r = true ∨ crosses = true ∧ (k : Int) ≤ i)
    (hnear : allowed' = true → crosses = false ∧ s.length + k ≤ maxKeyLength) (ts : List Token) :
    ∃ c' crossed stop, StopsIn (m.advance s.length) crosses k r crossed c' ∧
      (between c ts indent outer allowed).next =
        .ok { between c' (ts ++ List.replicate n ⟨.blockEnd, m, m⟩ ++ [⟨.scalar scalar, m, stop⟩]) i o crossed with
          key := placeAt allowed' (i == m.column) (ts.length + n) m } := by
  set ts₁ := ts ++ List.replicate n ⟨.blockEnd, m, m⟩ with hts₁
  have hlength : ts₁.length = ts.length + n := by simp [hts₁]
  set t₁ := between ⟨s ++ (g ++ r), m⟩ ts₁ i o allowed' with ht₁
  have hclose : (between ⟨s ++ (g ++ r), m⟩ ts indent outer allowed').closeBlocks m.column = t₁ :=
    closeBlocks_eq rfl hleave
  have hsave : t₁.saveKey = .ok { t₁ with key := placeAt allowed' (i == m.column) (ts.length + n) m } := by
    rw [← hlength]
    exact saveKey_eq rfl rfl
  obtain ⟨x, rest, stop, c', crossed, hrest, hx, hmark, hstop, hread⟩ :=
    tokenFrom_scalar (t := t₁) hs hg hapart hr hend rfl rfl hi hsave
  refine ⟨c', crossed, stop, hstop, next_of_steps (hpass _ rfl rfl rfl) (expireKeys_none rfl rfl) hclose
    ((dispatch_eq hrest hx hmark).trans hread) ?_⟩
  cases allowed' with
  | false => exact expireKeys_none rfl rfl
  | true =>
    obtain ⟨rfl, hlong⟩ := hnear rfl
    obtain ⟨j, hj, hc'⟩ := hstop.near
    have hmark' : c'.mark = m.advance (s.length + j) := hc'.trans (Mark.advance_advance m s.length j)
    refine expireKeys_near rfl rfl ?_
    change KeyPlace.isPast _ c'.mark = false
    rw [hmark']
    exact isPast_advance (by omega) _ _ m

/-- Whether a block begins at a column where the innermost one stands at the same column or before it: the
token for it and the columns around the block that is innermost then. -/
inductive Opened (column : Nat) : Int → List Int → List TokenKind → List Int → Prop
  | opens {i : Int} {o : List Int} (deeper : i < column) : Opened column i o [.blockMappingStart] (i :: o)
  | stays {o : List Int} : Opened column column o [] o

/-- Whether or not a block has begun, the one around stands no further in. -/
theorem Opened.le {column : Nat} {opening : List TokenKind} {outer' : List Int}
    (h : Opened column i o opening outer') : i ≤ column := by
  cases h with
  | opens hlt => exact Int.le_of_lt hlt
  | stays => exact Int.le_refl _

/-- What is inserted after the first tokens stands before the others. -/
theorem insertIdx_append_length {α : Type} (xs ys : List α) (a : α) :
    (xs ++ ys).insertIdx xs.length a = xs ++ a :: ys := by
  induction xs with
  | nil => rfl
  | cons x xs ih => rw [List.cons_append, List.length_cons, List.insertIdx_succ_cons, ih, List.cons_append]

/-- A block begins before the tokens of its first key. That there is a block is known only at the colon,
when these tokens have already been read. -/
theorem openBlock_opened {opening : List TokenKind} (hopened : Opened m.column i o opening outer) (c : Cursor)
    (ts us : List Token) (allowed : Bool) :
    ∃ ts', ts'.map Token.kind = ts.map Token.kind ++ opening ++ us.map Token.kind ∧
      (between c (ts ++ us) i o allowed).openBlock .blockMappingStart m ts.length =
        between c ts' m.column outer allowed := by
  cases hopened with
  | opens hlt =>
    refine ⟨ts ++ ⟨.blockMappingStart, m, m⟩ :: us, by simp, ?_⟩
    have hno : ((between c (ts ++ us) i o allowed).inFlow ||
        decide ((m.column : Int) ≤ (between c (ts ++ us) i o allowed).indent)) = false :=
      decide_eq_false (Int.not_le.mpr hlt)
    rw [openBlock, if_neg (Bool.eq_false_iff.mp hno), ← insertIdx_append_length]
    rfl
  | stays =>
    refine ⟨ts ++ us, by simp, ?_⟩
    rw [openBlock, if_pos (by simp [between])]

/-- The colon after a name that was remembered: the name is a key, of a block that begins with it if it is
the first in its column. -/
theorem next_value {m₂ : Mark} {opening : List TokenKind} (ts : List Token) (token : Token) (required : Bool)
    (hopened : Opened m.column i o opening outer) (hr : separates r = true)
    (hpass : Passes c allowed ⟨':' :: r, m₂⟩ false) (hcolumn : m.column < m₂.column)
    (hnear : KeyPlace.isPast ⟨required, ts.length, m⟩ m₂ = false) :
    ∃ ts', ts'.map Token.kind = ts.map Token.kind ++ opening ++ [.key, token.kind, .value] ∧
      { between c (ts ++ [token]) i o allowed with key := some ⟨required, ts.length, m⟩ }.next =
        .ok (between ⟨r, m₂.advance 1⟩ ts' m.column outer false) := by
  have hle := hopened.le
  set place : KeyPlace := ⟨required, ts.length, m⟩ with hplace
  set t₁ : TokenStream := { between ⟨':' :: r, m₂⟩ (ts ++ [token]) i o false with key := some place } with ht₁
  have hclose : t₁.closeBlocks m₂.column = t₁ := by
    rw [closeBlocks_eq rfl (leave_of_le (show i ≤ (m₂.column : Int) by omega) o), List.replicate_zero,
      List.append_nil]
    rfl
  have hmark : t₁.cursor.atDocumentMark = false := Bool.and_false _
  have hdispatch : t₁.dispatch = t₁.valueSign := by
    rw [dispatch_eq rfl (by decide) hmark]
    have halone : (t₁.inFlow || separates r) = true := by rw [hr, Bool.or_true]
    simp only [tokenFrom, halone, if_true]
  set keyed : TokenStream := between ⟨':' :: r, m₂⟩ (ts ++ [⟨.key, m, m⟩, token]) i o false with hkeyed
  have hsign : t₁.valueSign = .ok ((keyed.openBlock .blockMappingStart m ts.length).pushSign .value 1) := by
    rw [hkeyed, ← insertIdx_append_length ts [token]]
    rfl
  obtain ⟨ts', hkinds, hopen⟩ :=
    openBlock_opened hopened ⟨':' :: r, m₂⟩ ts [⟨.key, m, m⟩, token] false
  refine ⟨ts' ++ [⟨.value, m₂, m₂.advance 1⟩], by simp [hkinds], next_of_steps (hpass _ rfl rfl rfl)
    (expireKeys_near rfl rfl hnear) hclose (hdispatch.trans (hsign.trans ?_)) (expireKeys_none rfl rfl)⟩
  rw [hopen]
  rfl

/-! ## Runs -/

/-- A run goes on from one stream to another, by so many tokens at most. -/
def Leads (length : Nat) (t t' : TokenStream) : Prop :=
  ∃ n ≤ length, ∀ fuel, run (fuel + n) t = run fuel t'

/-- Runs chain, and so many tokens as both take are enough. -/
theorem Leads.trans {length length' : Nat} {t t' t'' : TokenStream} (h : Leads length t t')
    (h' : Leads length' t' t'') : Leads (length + length') t t'' := by
  obtain ⟨n, hn, hrun⟩ := h
  obtain ⟨n', hn', hrun'⟩ := h'
  refine ⟨n' + n, by omega, fun fuel => ?_⟩
  rw [← Nat.add_assoc, hrun, hrun']

theorem Leads.mono {length length' : Nat} {t t' : TokenStream} (h : Leads length t t') (hle : length ≤ length') :
    Leads length' t t' := by
  obtain ⟨n, hn, hrun⟩ := h
  exact ⟨n, hn.trans hle, hrun⟩

/-- One token that does not end the stream is one turn of the run. -/
theorem Leads.step {t t' : TokenStream} (h : t.next = .ok t')
    (hlast : (t'.tokens.map Token.kind).getLast? ≠ some .streamEnd) : Leads 1 t t' := by
  refine ⟨1, Nat.le_refl 1, fun fuel => ?_⟩
  have hno : t'.tokens.getLast?.any (·.kind == .streamEnd) = false := by
    rw [List.getLast?_map] at hlast
    cases htoken : t'.tokens.getLast? with
    | none => rfl
    | some token =>
      rw [htoken] at hlast
      exact beq_false_of_ne fun h => hlast (congrArg some h)
  rw [run, h]
  simp only [hno, Bool.false_eq_true, if_false]

/-- How blocks end and one may begin at a column: the tokens for that, and the columns around the block that
is innermost then. -/
inductive Enters (column : Nat) (indent : Int) (outer : List Int) : List TokenKind → List Int → Prop
  | mk {n : Nat} {i : Int} {o : List Int} {opening : List TokenKind} {outer' : List Int}
      (left : leave column indent outer = (n, i, o)) (opened : Opened column i o opening outer') :
      Enters column indent outer (List.replicate n .blockEnd ++ opening) outer'

/-- A name with its colon, in two tokens of the stream. First the scalar is read and remembered as a
key; at the colon the key goes before it, and with it the block that begins there. -/
theorem leads_name {name : Scalar} {text : List Char} {kinds : List TokenKind} {outer' : List Int}
    (hname : NameWritten name text) (hr : separates r = true) (hpass : Passes c allowed ⟨text ++ r, m⟩ true)
    (henters : Enters m.column indent outer kinds outer') (ts : List Token) :
    ∃ m' ts', m.column < m'.column ∧
      ts'.map Token.kind = ts.map Token.kind ++ kinds ++ [.key, .scalar name, .value] ∧
      Leads text.length (between c ts indent outer allowed) (between ⟨r, m'⟩ ts' m.column outer' false) := by
  obtain ⟨spaces, hs, hshort⟩ := hname
  obtain ⟨hleft, hopened⟩ := henters
  rename_i s n i o opening
  simp only [List.append_assoc, List.singleton_append] at hpass
  have hsolid : Solid (':' :: r) := solid_cons rfl rfl (by decide) (by decide)
  have hapart : (List.replicate spaces ' ').head? ≠ some '#' := by
    cases spaces <;> simp [List.replicate_succ]
  obtain ⟨c', crossed, stop, hstop, hscalar⟩ := next_scalar hs (.spaces spaces) hapart hsolid hpass hleft
    hopened.le (.inl hr) (fun _ => ⟨rfl, hshort⟩) ts
  obtain ⟨m₂, rfl, hpass₂⟩ := hstop.passes hsolid
  have hplace : placeAt true (i == (m.column : Int)) (ts.length + n) m =
      some ⟨i == (m.column : Int), (ts ++ List.replicate n (⟨.blockEnd, m, m⟩ : Token)).length, m⟩ := by
    simp [placeAt]
  rw [hplace] at hscalar
  have hpos : 0 < s.length := by
    obtain ⟨x, s', rfl, -⟩ := hs.exists_cons
    exact Nat.succ_pos _
  have hcolumn : m.column < ((m.advance s.length).advance spaces).column := by
    simp only [Mark.advance]
    omega
  obtain ⟨ts', hkinds, hvalue⟩ := next_value (ts ++ List.replicate n ⟨.blockEnd, m, m⟩)
    ⟨.scalar name, m, stop⟩ (i == (m.column : Int)) hopened hr hpass₂ hcolumn
    (by rw [Mark.advance_advance]; exact isPast_advance hshort _ _ m)
  refine ⟨((m.advance s.length).advance spaces).advance 1, ts', Nat.lt_succ_of_lt hcolumn,
    by simpa using hkinds, ?_⟩
  refine ((Leads.step hscalar (by simp [between])).trans (Leads.step hvalue (by simp [between, hkinds]))).mono ?_
  simp only [List.length_append, List.length_replicate, List.length_singleton]
  omega

/-- Blanks lead from a cursor to a text, in the column of which is known what a gap tells. -/
def Before (crosses : Bool) (k : Nat) (r : List Char) (c : Cursor) (allowed : Bool) : Prop :=
  ∃ m : Mark, (crosses = true → m.column = k) ∧ Passes c allowed ⟨r, m⟩ crosses

/-- A scalar after the colon, in one token. No name may begin there, so nothing is remembered, until a
line ends. -/
theorem leads_value {value : Scalar} {text : List Char} (hvalue : ValueWritten value crosses k text)
    (hr : Solid r) (hend : r = [] ∨ crosses = true ∧ (k : Int) ≤ indent) (hcolumn : indent < m.column)
    (outer : List Int) (ts : List Token) :
    ∃ c' allowed' ts', Before crosses k r c' allowed' ∧
      ts'.map Token.kind = ts.map Token.kind ++ [.scalar value] ∧
      Leads text.length (between ⟨text ++ r, m⟩ ts indent outer false) (between c' ts' indent outer allowed') := by
  obtain ⟨spaces, hs, hg, hapart⟩ := hvalue
  rename_i s g
  have hsolid : Solid (s ++ (g ++ r)) := hs.solid _
  obtain ⟨m₁, hm₁, hpass⟩ := passes_gap (c := ⟨List.replicate (spaces + 1) ' ' ++ (s ++ (g ++ r)), m⟩)
    (.spaces (spaces + 1)) hsolid rfl false
  have hdeeper : indent ≤ (m₁.column : Int) := by
    have hm₁ : m₁.column = m.column + (spaces + 1) := congrArg Mark.column hm₁
    omega
  obtain ⟨c', crossed, stop, hstop, hscalar⟩ := next_scalar hs hg hapart hr hpass (leave_of_le hdeeper outer)
    hdeeper (hend.imp_left fun h => by rw [h]; rfl) nofun ts
  obtain ⟨m₂, hafter, hpass₂⟩ := hstop.passes hr
  refine ⟨c', crossed, ts ++ List.replicate 0 ⟨.blockEnd, m₁, m₁⟩ ++ [⟨.scalar value, m₁, stop⟩],
    ⟨m₂, fun hlines => ?_, hpass₂⟩, by simp, ?_⟩
  · subst hlines
    exact hafter
  · have htext : List.replicate (spaces + 1) ' ' ++ (s ++ g) ++ r =
        List.replicate (spaces + 1) ' ' ++ (s ++ (g ++ r)) := by simp only [List.append_assoc]
    rw [htext]
    refine (Leads.step hscalar (by simp [between])).mono ?_
    rw [List.length_append, List.length_replicate]
    omega

/-- The blocks that end before the next entry of a block, which is not the innermost one. -/
inductive Closes (column : Nat) (indent : Int) (outer : List Int) (around : List Int) : List TokenKind → Prop
  | mk {n : Nat} (left : leave column indent outer = (n, (column : Int), around)) :
      Closes column indent outer around (List.replicate n .blockEnd)

/-- Blocks that end before the next entry are left on the way to it, and none begins there. -/
theorem Closes.enters {column : Nat} {around : List Int} {closing : List TokenKind}
    (h : Closes column indent outer around closing) : Enters column indent outer closing around := by
  obtain ⟨hleft⟩ := h
  simpa using Enters.mk hleft .stays

/-- Blocks are left at once for a column as they are by way of one further in. So the blocks that an
entry leaves open may be closed by whatever comes next. -/
theorem leave_leave {column inner : Int} (hle : column ≤ inner) {i' i'' : Int} {o' o'' : List Int} {n n' : Nat}
    (h : leave inner i o = (n, i', o')) (h' : leave column i' o' = (n', i'', o'')) :
    leave column i o = (n + n', i'', o'') := by
  induction o generalizing i n with
  | nil =>
    cases h
    rw [h', Nat.zero_add]
  | cons j o ih =>
    rw [leave] at h
    split at h
    next hlt =>
      cases hinner : leave inner j o with
      | mk count remaining =>
        rw [hinner] at h
        cases h
        rw [leave, if_pos (Int.lt_of_le_of_lt hle hlt), ih hinner, Nat.add_right_comm]
    next hge =>
      cases h
      rw [h', Nat.zero_add]

/-- A block that ends before a column ends the blocks in it. -/
theorem Closes.outward {column inner : Nat} {around : List Int} {closing : List TokenKind} (hlt : column < inner)
    (h : Closes inner indent outer (column :: around) closing) :
    Closes column indent outer around (closing ++ [.blockEnd]) := by
  obtain ⟨hleft⟩ := h
  rename_i n
  have hone : leave column inner ((column : Int) :: around) = (1, (column : Int), around) := by
    rw [leave, if_pos (by omega), leave_of_le (Int.le_refl _)]
  rw [← List.replicate_succ']
  exact .mk (leave_leave (by omega) hleft hone)

/-! ## Sequences -/

/-- A stream comes to the text after an item in a column, with so many steps at most. Of the blocks that the item
leaves open the ends come later, with the next item; with them the tokens are these. -/
def Comes (length : Nat) (crosses : Bool) (k : Nat) (r : List Char) (column : Nat) (around : List Int)
    (kinds : List TokenKind) (t : TokenStream) : Prop :=
  ∃ c allowed ts indent outer closing, Before crosses k r c allowed ∧ Closes column indent outer around closing ∧
    ts.map Token.kind ++ closing = kinds ∧ Leads length t (between c ts indent outer allowed)

section Sequences

variable {ι : Type} {ItemWritten : ι → Bool → Nat → List Char → Prop} {tokens : ι → List TokenKind}
  {column : Nat} {around : List Int}

/-- A stream comes from an item in a column to the text after it, whatever was read before. -/
def ItemComes (ItemWritten : ι → Bool → Nat → List Char → Prop) (tokens : ι → List TokenKind) (column : Nat)
    (around : List Int) : Prop :=
  ∀ ⦃item : ι⦄ ⦃crosses : Bool⦄ ⦃k : Nat⦄ ⦃text r : List Char⦄ ⦃c : Cursor⦄ ⦃allowed : Bool⦄ ⦃m : Mark⦄
    ⦃indent : Int⦄ ⦃outer : List Int⦄ ⦃opening : List TokenKind⦄,
    ItemWritten item crosses k text → Solid r → r = [] ∨ crosses = true ∧ k ≤ column →
    Passes c allowed ⟨text ++ r, m⟩ true → m.column = column → Enters column indent outer opening around →
    ∀ ts : List Token, Comes text.length crosses k r column around (ts.map Token.kind ++ opening ++ tokens item)
      (between c ts indent outer allowed)

/-- Items that begin with no gap. -/
def ItemSolid (ItemWritten : ι → Bool → Nat → List Char → Prop) : Prop :=
  ∀ ⦃item : ι⦄ ⦃crosses : Bool⦄ ⦃k : Nat⦄ ⦃text : List Char⦄, ItemWritten item crosses k text →
    ∀ r, Solid (text ++ r)

/-- A sequence begins as its first item does. -/
theorem ItemSolid.sequence (hsolid : ItemSolid ItemWritten) : ItemSolid (Sequence ItemWritten column) := by
  intro items crosses k text h r
  cases h with
  | last h => exact hsolid h r
  | more h _ =>
    rw [List.append_assoc]
    exact hsolid h _

/-- The streams of items chain over a sequence: where one item ends the next one begins. -/
theorem ItemComes.sequence (hitem : ItemComes ItemWritten tokens column around) (hsolid : ItemSolid ItemWritten) :
    ItemComes (Sequence ItemWritten column) (List.flatMap tokens) column around := by
  intro items crosses k text r c allowed m indent outer opening hseq hr hend hpass hm henters ts
  induction hseq generalizing c allowed m indent outer opening ts with
  | last h =>
    rw [List.flatMap_singleton]
    exact hitem h hr hend hpass hm henters ts
  | @more item items crosses k s t h hrest ih =>
    rw [List.append_assoc] at hpass
    obtain ⟨c₁, allowed₁, ts₁, indent₁, outer₁, closing₁, ⟨m₁, hcolumn, hpass₁⟩, hcloses, hkinds₁, hleads₁⟩ :=
      hitem h (hsolid.sequence hrest r) (.inr ⟨rfl, Nat.le_refl _⟩) hpass hm henters ts
    obtain ⟨c₂, allowed₂, ts₂, indent₂, outer₂, closing₂, hbefore, hcloses₂, hkinds₂, hleads₂⟩ :=
      ih hend hpass₁ (hcolumn rfl) hcloses.enters ts₁
    refine ⟨c₂, allowed₂, ts₂, indent₂, outer₂, closing₂, hbefore, hcloses₂, ?_, ?_⟩
    · rw [hkinds₂, hkinds₁, List.flatMap_cons, List.append_assoc]
    · rw [List.length_append]
      exact hleads₁.trans hleads₂

end Sequences

/-! ## Entries -/

/-- A name and its scalar, which leave no block open. The colon after the name turns what has been read
into a key, and opens the block if it is the first. -/
theorem leads_pair {name value : Scalar} {text text' : List Char} {column : Nat} {around : List Int}
    {opening : List TokenKind} (hname : NameWritten name text) (hvalue : ValueWritten value crosses k text')
    (hr : Solid r) (hend : r = [] ∨ crosses = true ∧ k ≤ column)
    (hpass : Passes c allowed ⟨text ++ text' ++ r, m⟩ true) (hm : m.column = column)
    (henters : Enters column indent outer opening around) (ts : List Token) :
    Comes (text ++ text').length crosses k r column around
      (ts.map Token.kind ++ opening ++ [.key, .scalar name, .value, .scalar value])
      (between c ts indent outer allowed) := by
  subst hm
  rw [List.append_assoc] at hpass
  have hseparates : separates (text' ++ r) = true := by
    obtain ⟨spaces, -⟩ := hvalue
    rfl
  obtain ⟨m₁, ts₁, hcolumn, hkinds₁, hleads₁⟩ := leads_name hname hseparates hpass henters ts
  obtain ⟨c₂, allowed₂, ts₂, hbefore, hkinds₂, hleads₂⟩ := leads_value hvalue hr
    (hend.imp_right (And.imp_right Int.ofNat_le.mpr)) (Int.ofNat_lt.mpr hcolumn) around ts₁
  refine ⟨c₂, allowed₂, ts₂, m.column, around, [], hbefore, .mk (n := 0) (leave_of_le (Int.le_refl _) _), ?_, ?_⟩
  · simp [hkinds₂, hkinds₁]
  · rw [List.length_append]
    exact hleads₁.trans hleads₂

theorem pair_comes (column : Nat) (around : List Int) : ItemComes PairWritten Pair.tokens column around := by
  intro pair crosses k text r c allowed m indent outer opening h hr hend hpass hm henters ts
  obtain ⟨hname, hvalue⟩ := h
  exact leads_pair hname hvalue hr hend hpass hm henters ts

theorem solid_name {name : Scalar} {text : List Char} (h : NameWritten name text) (r : List Char) :
    Solid (text ++ r) := by
  obtain ⟨spaces, hs, -⟩ := h
  rw [List.append_assoc]
  exact hs.solid _

theorem pair_solid : ItemSolid PairWritten := by
  rintro pair crosses k _ ⟨hname, -⟩ r
  rw [List.append_assoc]
  exact solid_name hname _

theorem entry_solid (column : Nat) : ItemSolid (EntryWritten column) := by
  intro entry crosses k text h r
  cases h with
  | scalar hname =>
    rw [List.append_assoc]
    exact solid_name hname _
  | mapping hname =>
    rw [List.append_assoc]
    exact solid_name hname _

/-- A stream comes from an entry to the text after it. A section opens a block that is further in,
and may leave it open. -/
theorem entry_comes (column : Nat) (around : List Int) :
    ItemComes (EntryWritten column) Entry.tokens column around := by
  intro entry crosses k text r c allowed m indent outer opening h hr hend hpass hm henters ts
  cases h with
  | scalar hname hvalue => exact leads_pair hname hvalue hr hend hpass hm henters ts
  | @mapping name pairs s g t _ _ inner hname hgap hapart hdeeper hpairs =>
    subst hm
    simp only [List.append_assoc] at hpass
    have hnext : Solid (t ++ r) := pair_solid.sequence hpairs r
    have hseparates : separates (g ++ (t ++ r)) = true := by
      have hne : g ≠ [] := fun h => Bool.noConfusion (hgap.eq_of_nil h).1
      obtain ⟨x, g, rfl⟩ := List.exists_cons_of_ne_nil hne
      exact hgap.atGap_or_atBreak (c := ⟨x :: g ++ (t ++ r), m⟩) hne hapart rfl
    obtain ⟨m₁, ts₁, -, hkinds₁, hleads₁⟩ := leads_name hname hseparates hpass henters ts
    obtain ⟨m₂, hm₂, hpass₂⟩ := passes_gap (c := ⟨g ++ (t ++ r), m₁⟩) hgap hnext rfl false
    -- the section is further in than the entry, so a block begins with its first pair
    have henters₂ : Enters inner m.column around [.blockMappingStart] (m.column :: around) :=
      .mk (n := 0) (leave_of_le (by omega) _) (.opens (by omega))
    obtain ⟨c₃, allowed₃, ts₃, indent₃, outer₃, closing₃, hbefore, hcloses, hkinds₃, hleads₃⟩ :=
      (pair_comes inner (m.column :: around)).sequence pair_solid hpairs hr
        (hend.imp_right (And.imp_right fun h => h.trans (Nat.le_of_lt hdeeper))) hpass₂ hm₂ henters₂ ts₁
    refine ⟨c₃, allowed₃, ts₃, indent₃, outer₃, closing₃ ++ [.blockEnd], hbefore, hcloses.outward hdeeper, ?_, ?_⟩
    · rw [← List.append_assoc, hkinds₃, hkinds₁]
      simp [Entry.tokens, Content.tokens]
    · rw [List.length_append]
      refine (hleads₁.trans hleads₃).mono ?_
      rw [List.length_append]
      omega

/-! ## Whole texts -/

/-- At the end of the text all blocks end. Those further in than the last column end before the end of
the line is made up for, and the others after it. -/
theorem run_end (hpass : Passes c allowed ⟨[], m⟩ crosses) (hleave : leave (-1) indent outer = (n, -1, []))
    (ts : List Token) (fuel : Nat) :
    ∃ ts', ts'.map Token.kind = ts.map Token.kind ++ List.replicate n .blockEnd ++ [.streamEnd] ∧
      run (fuel + 1) (between c ts indent outer allowed) = (ts', none) := by
  rcases hleft : leave m.column indent outer with ⟨n₁, i₁, o₁⟩
  rcases hleft₂ : leave (-1) i₁ o₁ with ⟨n₂, i₂, o₂⟩
  obtain ⟨rfl, -⟩ : n = n₁ + n₂ ∧ _ :=
    Prod.mk.inj (hleave.symm.trans (leave_leave (by omega) hleft hleft₂))
  set t₁ := between ⟨[], m⟩ (ts ++ List.replicate n₁ ⟨.blockEnd, m, m⟩) i₁ o₁ crosses with ht₁
  have hclose : (between ⟨[], m⟩ ts indent outer crosses).closeBlocks m.column = t₁ := closeBlocks_eq rfl hleft
  set m' : Mark := if m.column == 0 then m else ⟨m.index, m.line + 1, 0⟩ with hm'
  set ts₂ := t₁.tokens ++ List.replicate n₂ ⟨.blockEnd, m', m'⟩ with hts₂
  have hclose₂ : (between ⟨[], m'⟩ t₁.tokens i₁ o₁ crosses).closeBlocks (-1) =
      between ⟨[], m'⟩ ts₂ i₂ o₂ crosses := closeBlocks_eq rfl hleft₂
  set stop := between ⟨[], m'⟩ (ts₂ ++ [⟨.streamEnd, m', m'⟩]) i₂ o₂ false with hstop
  have hend : t₁.dispatch = .ok stop := by
    change t₁.endStream = _
    rw [endStream]
    change (Except.bind (((between ⟨[], m'⟩ t₁.tokens i₁ o₁ crosses).closeBlocks (-1)).dropKey) _) = _
    rw [hclose₂]
    rfl
  have hnext := next_of_steps (hpass (between c ts indent outer allowed) rfl rfl rfl) (expireKeys_none rfl rfl)
    hclose hend (expireKeys_none rfl rfl)
  have hlast : stop.tokens.getLast?.any (·.kind == .streamEnd) = true := by
    rw [hstop, between, List.getLast?_concat]
    rfl
  refine ⟨stop.tokens, ?_, ?_⟩
  · simp only [hstop, hts₂, ht₁, between, List.map_append, List.map_replicate, List.map_cons, List.map_nil,
      List.append_assoc]
    rw [← List.append_assoc (List.replicate n₁ _), List.replicate_append_replicate]
  · rw [run, hnext]
    simp only [hlast, if_true]

/-- A written mapping is read as its tokens. The text has a character for each token at least, so its
length is fuel enough. -/
theorem run_mapping {entries : List Entry} {text : List Char} (h : MappingWritten entries text) :
    ∃ ts, ts.map Token.kind = mappingTokens entries ++ [.streamEnd] ∧
      run (text.length + 1) { cursor := ⟨text, {}⟩ } = (ts, none) := by
  cases h with
  | @empty crosses k _ hgap =>
    obtain ⟨m, -, hpass⟩ := passes_gap (c := ⟨text ++ [], {}⟩) hgap solid_nil rfl true
    rw [List.append_nil] at hpass
    exact run_end hpass (show leave (-1) (-1) [] = (0, -1, []) from rfl) [] text.length
  | @entries _ lead crosses column k g s hgap hentries =>
    obtain ⟨m, hm, hpass⟩ := passes_gap (c := ⟨g ++ (s ++ []), {}⟩) hgap
      ((entry_solid column).sequence hentries []) rfl true
    have hcolumn : m.column = column := by
      cases lead with
      | true => exact hm
      | false => exact (congrArg Mark.column hm).trans (Nat.zero_add _)
    have henters : Enters column (-1) [] [.blockMappingStart] [-1] :=
      .mk (n := 0) (leave_of_le (by omega) _) (.opens (by omega))
    obtain ⟨c', allowed', ts', indent', outer', closing, ⟨m', -, hpass'⟩, hcloses, hkinds, hleads⟩ :=
      (entry_comes column [-1]).sequence (entry_solid column) hentries solid_nil (.inl rfl) hpass hcolumn
        henters []
    obtain ⟨hleft⟩ := hcloses
    rename_i n
    -- only the block of the mapping itself is open around its last entry
    have hone : leave (-1) (column : Int) [-1] = (1, -1, []) := by
      rw [leave, if_pos (by omega)]
      rfl
    obtain ⟨i, hi, hrun⟩ := hleads
    have hlength : (g ++ s).length + 1 = ((g ++ s).length - i) + 1 + i := by
      rw [List.length_append]
      omega
    obtain ⟨ts, hts, hend⟩ := run_end hpass' (leave_leave (by omega) hleft hone) ts' ((g ++ s).length - i)
    refine ⟨ts, ?_, ?_⟩
    · rw [hts, List.replicate_succ', ← List.append_assoc, hkinds, mappingTokens_of_ne hentries.ne_nil]
      rfl
    · rw [List.append_nil] at hrun
      rw [hlength]
      exact (hrun _).trans hend

end TokenStream

/-- Written mappings are read from their first character on. -/
theorem MappingWritten.head?_ne_mark {es : List Entry} {text : List Char} (h : MappingWritten es text) :
    text.head? ≠ some '\uFEFF' := by
  cases h with
  | empty hgap => simpa using hgap.head?_ne_mark solid_nil
  | entries hgap hentries =>
    have hsolid := (TokenStream.entry_solid _).sequence hentries []
    rw [List.append_nil] at hsolid
    exact hgap.head?_ne_mark hsolid

/-- The tokens of a written mapping. -/
theorem tokensOf_mapping {es : List Entry} {text : List Char} (h : MappingWritten es text) :
    ∃ ts, ts.map Token.kind = mappingTokens es ++ [.streamEnd] ∧ tokensOf text = (ts, none) := by
  obtain ⟨ts, hkinds, hrun⟩ := TokenStream.run_mapping h
  refine ⟨ts, hkinds, ?_⟩
  rw [tokensOf, Cursor.start_eq h.isReadable h.head?_ne_mark]
  exact hrun

end Workday.Yaml
