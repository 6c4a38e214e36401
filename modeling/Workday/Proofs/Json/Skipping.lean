import Workday.Proofs.Json.Strings

/-!
# Passing over values

A value that no one wants is passed over in one loop, with a stack of the collections that are open.
`Cursor.resume` is what the loop does after a value. The invariant is `Skips`, by induction on the
grammar: from the beginning of a part the loop comes to `resume` at its end, with the same stack.
The fuel always exceeds the bytes that are left, so it never runs out.
-/

set_option autoImplicit false

namespace Workday.Json

namespace Cursor

variable {c c' : Cursor} {x : Char} {a b s t r : List Char}

/-! ## Lengths -/

/-- A cursor that has gone on has no more bytes ahead than before. -/
theorem Holds.length_le_of_suffix (h : c.Holds s) (h' : c'.Holds r) (hr : r <:+ s) :
    c'.rest.length ≤ c.rest.length := by
  obtain ⟨t, rfl⟩ := hr
  rw [h, h', bytesOf_append, List.length_append]
  exact Nat.le_add_left _ _

/-- A cursor that has taken something has fewer bytes ahead than before. -/
theorem Holds.length_lt_of_append (h : c.Holds (t ++ r)) (h' : c'.Holds r) (ht : t ≠ []) :
    c'.rest.length < c.rest.length := by
  have hpos := List.length_pos_iff.mpr ht
  have hle := length_le_length_bytesOf t
  rw [h, h', bytesOf_append, List.length_append]
  omega

/-- A cursor that has taken a character and more has fewer bytes ahead than before. -/
theorem Holds.length_lt_of_cons (h : c.Holds (x :: (s ++ r))) (h' : c'.Holds r) :
    c'.rest.length < c.rest.length :=
  Holds.length_lt_of_append (t := x :: s) h h' (List.cons_ne_nil x s)

/-! ## Numbers -/

/-- What a cursor sees is the first character of the text ahead, if that is ASCII or there is none. -/
theorem Holds.peek_head (h : c.Holds s) (hs : ∀ x ∈ s.head?, IsAscii x) : c.peek? = s.head? := by
  cases s with
  | nil => exact h.peek_nil
  | cons x s => exact h.peek (hs x rfl)

/-- Of the bytes of a text just those of its first run are taken. What ends the run is ASCII, so no byte
of a longer character is mistaken for one of the run. -/
theorem takeWhile_bytesOf {test : Char → Bool} (ha : ∀ x ∈ a, IsAscii x ∧ test x = true)
    (hs : Stops test s) : ((bytesOf (a ++ s)).map byteChar).takeWhile test = a := by
  induction a with
  | nil =>
    cases s with
    | nil => rfl
    | cons x s =>
      obtain ⟨hx, hstop⟩ := hs x rfl
      rw [List.nil_append, bytesOf_cons_of_ascii hx, List.map_cons, byteChar_of_ascii hx,
        List.takeWhile_cons_of_neg (by rw [hstop]; exact Bool.false_ne_true)]
  | cons y a ih =>
    obtain ⟨hy, hgo⟩ := ha y List.mem_cons_self
    rw [List.cons_append, bytesOf_cons_of_ascii hy, List.map_cons, byteChar_of_ascii hy,
      List.takeWhile_cons_of_pos hgo, ih fun x hx => ha x (List.mem_cons_of_mem y hx)]

/-- The digits that are ahead are taken, up to the first character that is none. -/
theorem Holds.takeDigits (h : c.Holds (a ++ s)) (ha : ∀ x ∈ a, x.isDigit = true)
    (hs : Stops Char.isDigit s) : ∃ c', c.takeDigits = (a, c') ∧ c'.Holds s := by
  have hascii : ∀ x ∈ a, IsAscii x ∧ x.isDigit = true := fun x hx =>
    ⟨isAscii_of_isDigit (ha x hx), ha x hx⟩
  refine ⟨c.skipWhile Char.isDigit, ?_, h.skipWhile hascii hs⟩
  rw [Cursor.takeDigits, h, takeWhile_bytesOf hascii hs]

/-- The whole part of a number is taken: a zero alone, or digits that do not start with one. -/
theorem Holds.takeWhole (h : c.Holds (a ++ s)) (ha : IsWhole a) (hs : Stops Char.isDigit s)
    (atEnd : Problem) : ∃ c', c.takeWhole atEnd = .ok (a, c') ∧ c'.Holds s := by
  rcases ha with rfl | ⟨⟨hne, hdigits⟩, hhead⟩
  · have hafter : c.skip.Holds s := Holds.skip h (by decide)
    have hnext : c.skip.peek?.any Char.isDigit = false := by
      rw [hafter.peek_head fun x hx => (hs x hx).1]
      cases hhead : s.head? with
      | none => rfl
      | some x => exact (hs x hhead).2
    refine ⟨c.skip, ?_, hafter⟩
    simp [Cursor.takeWhole, Holds.peek h (by decide), hnext]
  · cases a with
    | nil => exact absurd rfl hne
    | cons d ds =>
      have hd : d.isDigit = true := hdigits d List.mem_cons_self
      have hzero : d ≠ '0' := fun heq => hhead (by rw [heq]; rfl)
      obtain ⟨c', htake, hc'⟩ := h.takeDigits hdigits hs
      refine ⟨c', ?_, hc'⟩
      simp [Cursor.takeWhole, Holds.peek h (isAscii_of_isDigit hd), hd, hzero, htake]

/-- The fraction of a number is taken, if there is one. Where there is none, no point may follow. -/
theorem Holds.takeFraction (h : c.Holds (a ++ s)) (ha : IsFraction a) (hs : Stops Char.isDigit s)
    (hpoint : s.head? ≠ some '.') (atEnd : Problem) :
    ∃ digits c', c.takeFraction atEnd = .ok (digits, c') ∧ c'.Holds s := by
  rcases ha with rfl | ⟨digits, ⟨hne, hdigits⟩, rfl⟩
  · have hpeek : c.peek? = s.head? := Holds.peek_head h fun x hx => (hs x hx).1
    refine ⟨[], c, ?_, h⟩
    simp [Cursor.takeFraction, hpeek, hpoint]
  · obtain ⟨c', htake, hc'⟩ := Holds.takeDigits (Holds.skip h (by decide)) hdigits hs
    refine ⟨digits, c', ?_, hc'⟩
    simp [Cursor.takeFraction, Holds.peek h (by decide), htake, hne]

/-- A cursor before digits sees a digit and takes them all. -/
theorem Holds.peek_takeDigits (h : c.Holds (a ++ s)) (ha : IsDigits a)
    (hs : Stops Char.isDigit s) : ∃ d c', d.isDigit = true ∧ c.peek? = some d ∧
      c.takeDigits = (a, c') ∧ c'.Holds s := by
  obtain ⟨hne, hall⟩ := ha
  obtain ⟨c', htake, hc'⟩ := h.takeDigits hall hs
  obtain ⟨d, ds, rfl⟩ := List.exists_cons_of_ne_nil hne
  have hd : d.isDigit = true := hall d List.mem_cons_self
  exact ⟨d, c', hd, Holds.peek h (isAscii_of_isDigit hd), htake, hc'⟩

/-- The exponent of a number is taken with its letter, its sign, if it has one, and its digits. Its
value does not matter here: a number that is passed over may be of any size. -/
theorem Holds.takeExponent {letter : Char} {sign digits : List Char}
    (h : c.Holds (letter :: (sign ++ (digits ++ s)))) (hletter : IsAscii letter)
    (hsign : sign ∈ [[], ['+'], ['-']]) (hdigits : IsDigits digits) (hs : Stops Char.isDigit s)
    (atEnd : Problem) : ∃ e c', c.takeExponent atEnd = .ok (e, c') ∧ c'.Holds s := by
  have hne := hdigits.1
  have hafter := h.skip hletter
  simp only [List.mem_cons, List.not_mem_nil, or_false] at hsign
  rcases hsign with rfl | rfl | rfl
  · rw [List.nil_append] at hafter
    obtain ⟨d, c', hd, hpeek, htake, hc'⟩ := hafter.peek_takeDigits hdigits hs
    have hplus : d ≠ '+' := by rintro rfl; cases hd
    have hminus : d ≠ '-' := by rintro rfl; cases hd
    refine ⟨⟨false, digits⟩, c', ?_, hc'⟩
    simp [Cursor.takeExponent, hpeek, hd, hplus, hminus, htake]
  · rw [List.singleton_append] at hafter
    have hsigned := hafter.peek (by decide)
    obtain ⟨d, c', hd, hpeek, htake, hc'⟩ :=
      (hafter.skip (by decide)).peek_takeDigits hdigits hs
    refine ⟨⟨false, digits⟩, c', ?_, hc'⟩
    simp [Cursor.takeExponent, hsigned, hpeek, hd, htake]
  · rw [List.singleton_append] at hafter
    have hsigned := hafter.peek (by decide)
    obtain ⟨d, c', hd, hpeek, htake, hc'⟩ :=
      (hafter.skip (by decide)).peek_takeDigits hdigits hs
    refine ⟨⟨true, digits⟩, c', ?_, hc'⟩
    simp [Cursor.takeExponent, hsigned, hpeek, hd, htake]

/-- A run stops where something comes that starts with no character of it. -/
theorem stops_append {test : Char → Bool} (ha : ∀ x ∈ a.head?, IsAscii x ∧ test x = false)
    (hs : Stops test s) : Stops test (a ++ s) := by
  cases a with
  | nil => exact hs
  | cons x a => exact ha

/-- A fraction starts with its point. -/
theorem head_of_isFraction (h : IsFraction a) : ∀ x ∈ a.head?, x = '.' := by
  rcases h with rfl | ⟨digits, -, rfl⟩
  · exact fun x hx => nomatch hx
  · exact fun x hx => (Option.some.inj hx).symm

/-- An exponent starts with its letter, of either case. -/
theorem head_of_isExponent (h : IsExponent a) : ∀ x ∈ a.head?, x = 'e' ∨ x = 'E' := by
  rcases h with rfl | ⟨letter, hletter, sign, -, digits, -, rfl⟩
  · exact fun x hx => nomatch hx
  · intro x hx
    obtain rfl := Option.some.inj hx
    simpa using hletter

/-- A text that may follow a value is told apart from the digits and signs of a number. -/
theorem stops_of_follows {test : Char → Bool} (hr : Follows r)
    (htest : (spaces ++ [',', ']', '}']).all (fun x => !test x) = true) : Stops test r := by
  have hascii : ∀ x ∈ spaces ++ [',', ']', '}'], IsAscii x := forall_mem_of_all rfl
  intro x hx
  have hstop := List.all_eq_true.mp htest x (hr x hx)
  exact ⟨hascii x (hr x hx), Bool.not_eq_true' _ ▸ hstop⟩

/-- Behind the fraction it shows whether there is an exponent: what may follow a number starts with
no letter. -/
theorem Holds.atExponent_eq (h : c.Holds (a ++ r)) (ha : IsExponent a) (hr : Follows r) :
    c.atExponent = !a.isEmpty := by
  rcases ha with rfl | ⟨letter, hletter, sign, -, digits, -, rfl⟩
  · have hstops : Stops (fun x => x == 'e' || x == 'E') r := stops_of_follows hr rfl
    have hpeek : c.peek? = r.head? := Holds.peek_head h fun x hx => (hstops x hx).1
    rw [Cursor.atExponent, hpeek]
    cases hhead : r.head? with
    | none => rfl
    | some x => exact (hstops x hhead).2
  · simp only [List.mem_cons, List.not_mem_nil, or_false] at hletter
    rcases hletter with rfl | rfl
    · rw [Cursor.atExponent, Holds.peek h (by decide)]
      rfl
    · rw [Cursor.atExponent, Holds.peek h (by decide)]
      rfl

/-- A number is passed over in its three parts, the whole, the fraction and the exponent. Each part ends
where the next one begins, and the last where the value does. -/
theorem Holds.skipNumber (h : c.Holds (s ++ r)) (hs : IsMagnitude s) (hr : Follows r) :
    ∃ c', c.skipNumber = .ok c' ∧ c'.Holds r := by
  obtain ⟨whole, fraction, exponent, hwhole, hfraction, hexponent, rfl⟩ := hs
  rw [List.append_assoc, List.append_assoc] at h
  have hstops : Stops Char.isDigit r := stops_of_follows hr rfl
  have hstops' : Stops Char.isDigit (exponent ++ r) := by
    refine stops_append (fun x hx => ?_) hstops
    rcases head_of_isExponent hexponent x hx with rfl | rfl <;> decide
  have hpoint : (exponent ++ r).head? ≠ some '.' := by
    have hstops : Stops (· == '.') (exponent ++ r) := by
      refine stops_append (fun x hx => ?_) (stops_of_follows hr rfl)
      rcases head_of_isExponent hexponent x hx with rfl | rfl <;> decide
    intro hhead
    exact absurd (hstops '.' hhead).2 (by decide)
  have hstops'' : Stops Char.isDigit (fraction ++ (exponent ++ r)) := by
    refine stops_append (fun x hx => ?_) hstops'
    rw [head_of_isFraction hfraction x hx]
    decide
  obtain ⟨c₁, htake₁, hc₁⟩ := h.takeWhole hwhole hstops'' .badNumber
  obtain ⟨digits, c₂, htake₂, hc₂⟩ := hc₁.takeFraction hfraction hstops' hpoint .badNumber
  have hat := hc₂.atExponent_eq hexponent hr
  rcases hexponent with rfl | ⟨letter, hletter, sign, hsign, digits', hdigits', rfl⟩
  · refine ⟨c₂, ?_, hc₂⟩
    simp only [Cursor.skipNumber, htake₁, htake₂, hat, bind, Except.bind]
    rfl
  · have hascii : IsAscii letter := by
      simp only [List.mem_cons, List.not_mem_nil, or_false] at hletter
      rcases hletter with rfl | rfl <;> decide
    rw [List.cons_append, List.append_assoc] at hc₂
    obtain ⟨e, c₃, htake₃, hc₃⟩ := hc₂.takeExponent hascii hsign hdigits' hstops .badNumber
    refine ⟨c₃, ?_, hc₃⟩
    simp only [Cursor.skipNumber, htake₁, htake₂, hat, htake₃, bind, Except.bind]
    rfl

/-- Where a run has been skipped there is nothing of it left to skip. -/
theorem skipWhile_go_idem (test : Char → Bool) (bs : List UInt8) (m : Mark) :
    (skipWhile.go test bs m).skipWhile test = skipWhile.go test bs m := by
  induction bs generalizing m with
  | nil => rfl
  | cons b bs ih =>
    by_cases h : test (byteChar b) = true
    · rw [skipWhile.go, if_pos h]
      exact ih _
    · rw [skipWhile.go, if_neg h, Cursor.skipWhile, skipWhile.go, if_neg h]

/-- White space is skipped once. A reader that skips it before its turn changes nothing. -/
theorem skipSpace_skipSpace (c : Cursor) : c.skipSpace.skipSpace = c.skipSpace :=
  skipWhile_go_idem isSpace c.rest c.mark

/-! ## The loop -/

/-- The sign that closes a collection. -/
def closing : Enclosing → Char
  | .list => ']'
  | .object => '}'

/-- What the loop does after a value: it closes collections and goes on behind the next comma. -/
def resume (fuel : Nat) (outer : List Enclosing) (c : Cursor) : Except Fault Cursor :=
  closeValue (outer.length + 1) outer true c >>= proceed fuel
where
  /-- Goes on with the collections that are still open. -/
  proceed (fuel : Nat) : List Enclosing × Cursor → Except Fault Cursor
    | ([], c) => .ok c
    | (within :: outer, c) => c.skipName within >>= skipValues fuel (within :: outer)

variable {fuel : Nat} {within : Enclosing} {outer : List Enclosing} {afterValue : Bool}

/-- Outside of all brackets there is nothing to go on with. -/
theorem resume_nil (fuel : Nat) (c : Cursor) : resume fuel [] c = .ok c := rfl

/-- Closing takes one turn for each collection that is open. -/
theorem closeValue_succ {n : Nat} (h : outer.length < n) (afterValue : Bool) (c : Cursor) :
    closeValue (n + 1) outer afterValue c = closeValue n outer afterValue c := by
  induction outer generalizing n afterValue c with
  | nil =>
    obtain ⟨n, rfl⟩ := Nat.exists_eq_add_one_of_ne_zero (Nat.ne_zero_of_lt h)
    rfl
  | cons within outer ih =>
    obtain ⟨n, rfl⟩ := Nat.exists_eq_add_one_of_ne_zero (Nat.ne_zero_of_lt h)
    have houter : outer.length < n := Nat.lt_of_succ_lt_succ h
    cases within <;> simp only [closeValue, ih houter]

/-- A bracket that closes is taken, and the value around it may be closed as well. -/
theorem Holds.closeValue_closing (h : c.Holds (b ++ closing within :: r)) (hb : IsSpace b)
    (outer : List Enclosing) (afterValue : Bool) (n : Nat) : ∃ c', c'.Holds r ∧
      closeValue (n + 1) (within :: outer) afterValue c = closeValue n outer true c' := by
  have hsign : IsAscii (closing within) ∧ isSpace (closing within) = false := by
    cases within <;> decide
  obtain ⟨hpeek, hholds⟩ := h.peek_skipSpace hb hsign.1 hsign.2
  refine ⟨_, hholds.skip hsign.1, ?_⟩
  cases within <;> simp [Cursor.closeValue, hpeek, closing]

/-- Behind an opening bracket a first value is waited for, if the bracket is not closed at once. -/
theorem Holds.closeValue_first (h : c.Holds (a ++ x :: s)) (ha : IsSpace a) (hx : IsAscii x)
    (hspace : isSpace x = false) (hopen : x ≠ closing within) (outer : List Enclosing) (n : Nat) :
    closeValue (n + 1) (within :: outer) false c = .ok (within :: outer, c.skipSpace) := by
  obtain ⟨hpeek, -⟩ := h.peek_skipSpace ha hx hspace
  cases within <;> simp_all [Cursor.closeValue, closing]

/-- Behind a comma another value is waited for within the same brackets. -/
theorem Holds.closeValue_comma (h : c.Holds (b ++ ',' :: s)) (hb : IsSpace b)
    (within : Enclosing) (outer : List Enclosing) (n : Nat) :
    ∃ c', c'.Holds s ∧ closeValue (n + 1) (within :: outer) true c = .ok (within :: outer, c') := by
  obtain ⟨hpeek, hholds⟩ := h.peek_skipSpace hb (by decide) (by decide)
  refine ⟨_, hholds.skip (by decide), ?_⟩
  cases within <;> simp [Cursor.closeValue, hpeek]

/-- A value that is closed by its bracket goes on as a value of what is around it. -/
theorem Holds.resume_closing (within : Enclosing) (h : c.Holds (b ++ closing within :: r))
    (hb : IsSpace b) :
    ∃ c', c'.Holds r ∧ c'.rest.length ≤ c.rest.length ∧
      resume fuel (within :: outer) c = resume fuel outer c' := by
  obtain ⟨c', hc', hclose⟩ := h.closeValue_closing hb outer true (outer.length + 1)
  have hle := h.length_le_of_suffix hc' ⟨b ++ [closing within], List.append_assoc _ _ _⟩
  exact ⟨c', hc', hle, by rw [resume, List.length_cons, hclose]; rfl⟩

/-- Behind a comma the next member or element is passed over. -/
theorem Holds.resume_comma (within : Enclosing) (h : c.Holds (b ++ ',' :: s)) (hb : IsSpace b) :
    ∃ c' : Cursor, c'.Holds s ∧ c'.rest.length ≤ c.rest.length ∧
      resume fuel (within :: outer) c =
        (c'.skipName within >>= skipValues fuel (within :: outer)) := by
  obtain ⟨c', hc', hclose⟩ := h.closeValue_comma hb within outer (outer.length + 1)
  have hle := h.length_le_of_suffix hc' ⟨b ++ [','], List.append_assoc _ _ _⟩
  exact ⟨c', hc', hle, by rw [resume, List.length_cons, hclose]; rfl⟩

/-- White space before a value is skipped by whoever comes first. -/
theorem skipValues_skipSpace (fuel : Nat) (outer : List Enclosing) (c : Cursor) :
    skipValues (fuel + 1) outer c.skipSpace = skipValues (fuel + 1) outer c := by
  simp only [skipValues, Cursor.beforeValue, skipSpace_skipSpace]

/-- White space before a name is skipped by whoever comes first. -/
theorem skipName_skipSpace (c : Cursor) :
    c.skipSpace.skipName .object = c.skipName .object := by
  simp only [Cursor.skipName, skipSpace_skipSpace]
  rfl

/-- A value without brackets is passed over, and what is around it goes on. -/
theorem skipValues_scalar {c₁ c₂ : Cursor} (hbefore : c.beforeValue = .ok (x, c₁))
    (hskip : c₁.skipScalar x = .ok (none, c₂)) :
    skipValues (fuel + 1) outer c = resume fuel outer c₂ := by
  have hclose := closeValue_succ (Nat.lt_succ_self outer.length) true c₂
  simp only [skipValues, hbefore, hskip, bind, Except.bind, Option.toList, List.nil_append,
    Option.isNone_none, hclose, resume]
  cases closeValue (outer.length + 1) outer true c₂ with
  | error => rfl
  | ok p => obtain ⟨_ | ⟨within, outer⟩, c⟩ := p <;> rfl

/-- Behind an opening bracket the first value within is passed over, or the bracket is closed. -/
theorem skipValues_open {c₁ c₂ : Cursor} (hbefore : c.beforeValue = .ok (x, c₁))
    (hskip : c₁.skipScalar x = .ok (some within, c₂)) :
    skipValues (fuel + 1) outer c =
      (closeValue (outer.length + 2) (within :: outer) false c₂ >>= resume.proceed fuel) := by
  simp only [skipValues, hbefore, hskip, bind, Except.bind, Option.toList, List.cons_append,
    List.nil_append, Option.isNone_some]
  cases closeValue (outer.length + 2) (within :: outer) false c₂ with
  | error => rfl
  | ok p => obtain ⟨_ | ⟨within, outer⟩, c⟩ := p <;> rfl

/-- White space before a member or an element is skipped by whoever comes first. -/
theorem goOn_skipSpace (fuel : Nat) (within : Enclosing) (outer : List Enclosing) (c : Cursor) :
    (c.skipSpace.skipName within >>= skipValues (fuel + 1) (within :: outer)) =
      (c.skipName within >>= skipValues (fuel + 1) (within :: outer)) := by
  cases within with
  | list => exact skipValues_skipSpace fuel (.list :: outer) c
  | object => rw [skipName_skipSpace]

/-- A name is passed over with its colon, whether it stands for a text or not. -/
theorem Holds.skipName {n : List Char} {name : Option String}
    (h : c.Holds (a ++ '"' :: (n ++ '"' :: (b ++ ':' :: s)))) (ha : IsSpace a)
    (hn : WrittenString name n) (hb : IsSpace b) :
    ∃ c', c.skipName .object = .ok c' ∧ c'.Holds s ∧ c'.rest.length ≤ c.rest.length := by
  obtain ⟨hpeek, hquote⟩ := h.peek_skipSpace ha (by decide) (by decide)
  obtain ⟨c₁, hskip, hc₁⟩ := Holds.skipString (hquote.skip (by decide)) hn.isStringBody
  obtain ⟨c₂, htake, hc₂⟩ := hc₁.takeColon hb
  have hle := h.length_le_of_suffix hc₂ ⟨a ++ '"' :: (n ++ '"' :: (b ++ [':'])), by simp⟩
  refine ⟨c₂, ?_, hc₂, hle⟩
  simp only [Cursor.skipName, hpeek, hskip]
  exact htake

end Cursor

/-! ## Beginnings -/

variable {s : List Char}

/-- A number without its sign starts with a digit. -/
theorem magnitude_start (h : IsMagnitude s) : ∃ d t, d.isDigit = true ∧ s = d :: t := by
  obtain ⟨whole, fraction, exponent, hwhole, -, -, rfl⟩ := h
  rcases hwhole with rfl | ⟨⟨hne, hdigits⟩, -⟩
  · exact ⟨'0', _, rfl, rfl⟩
  · obtain ⟨d, ds, rfl⟩ := List.exists_cons_of_ne_nil hne
    exact ⟨d, _, hdigits d List.mem_cons_self, rfl⟩

/-- A value can begin with a character. -/
def Starts : Value → Char → Prop
  | .null, x => x = 'n'
  | .bool true, x => x = 't'
  | .bool false, x => x = 'f'
  | .number _, x => x = '-' ∨ x.isDigit = true
  | .string _, x => x = '"'
  | .array _, x => x = '['
  | .object _, x => x = '{'

/-- The first character of a value is one that a value can start with. -/
theorem Starts.mem_valueStarts {v : Value} {x : Char} (h : Starts v x) : x ∈ valueStarts := by
  cases v with
  | number literal =>
    rcases h with rfl | hdigit
    · decide
    · exact mem_valueStarts_of_isDigit hdigit
  | bool b => cases b <;> (obtain rfl := h; decide)
  | null | string | array | object => obtain rfl := h; decide

/-- A written value starts with a character that tells its kind. -/
theorem value_start {v : Value} (h : Written (.value v) s) : ∃ x t, Starts v x ∧ s = x :: t := by
  cases h with
  | nullWord | trueWord | falseWord | string => exact ⟨_, _, rfl, rfl⟩
  | emptyArray | array | emptyObject | object => exact ⟨_, _, rfl, rfl⟩
  | number literal =>
    rcases literal with hmagnitude | ⟨t, -, rfl⟩
    · obtain ⟨d, t, hd, rfl⟩ := magnitude_start hmagnitude
      exact ⟨d, t, .inr hd, rfl⟩
    · exact ⟨'-', t, .inl rfl, rfl⟩

/-- Behind white space a value starts. -/
theorem spaced_start {v : Value} (h : Written (.spaced v) s) :
    ∃ a x t, IsSpace a ∧ x ∈ valueStarts ∧ s = a ++ x :: t := by
  cases h with
  | @spaced _ a w b before value after =>
    obtain ⟨x, t, hx, rfl⟩ := value_start value
    exact ⟨a, x, t ++ b, before, hx.mem_valueStarts, rfl⟩

/-- Elements start with a value, with white space before it. -/
theorem elements_start {vs : List Value} (h : Written (.elements vs) s) :
    ∃ a x t, IsSpace a ∧ x ∈ valueStarts ∧ s = a ++ x :: t := by
  cases h with
  | element value => exact spaced_start value
  | @elements _ _ w t value rest =>
    obtain ⟨a, x, u, ha, hx, rfl⟩ := spaced_start value
    exact ⟨a, x, u ++ ',' :: t, ha, hx, by rw [List.append_assoc]; rfl⟩

/-- Members start with a quote, with white space before it. -/
theorem members_start {ms : List Member} (h : Written (.members ms) s) :
    ∃ a t, IsSpace a ∧ s = a ++ '"' :: t := by
  cases h with
  | member before chars after value => exact ⟨_, _, before, rfl⟩
  | members before chars after value rest => exact ⟨_, _, before, rfl⟩

/-! ## The invariant -/

/-- Passing over a part comes to `resume` at its end. -/
def Skips : Part → List Char → Prop
  | .value _, s => ∀ (c : Cursor) (r : List Char) (fuel : Nat) (outer : List Enclosing),
      c.Holds (s ++ r) → c.rest.length < fuel → Follows r →
      ∃ c' fuel', c'.Holds r ∧ c'.rest.length < fuel' ∧
        Cursor.skipValues fuel outer c = Cursor.resume fuel' outer c'
  | .spaced _, s => ∀ (c : Cursor) (r : List Char) (fuel : Nat) (outer : List Enclosing),
      c.Holds (s ++ r) → c.rest.length < fuel → Follows r →
      ∃ c' fuel' b, IsSpace b ∧ c'.Holds (b ++ r) ∧ c'.rest.length < fuel' ∧
        Cursor.skipValues fuel outer c = Cursor.resume fuel' outer c'
  | .elements _, s => ∀ (c : Cursor) (r : List Char) (fuel : Nat) (outer : List Enclosing),
      c.Holds (s ++ ']' :: r) → c.rest.length < fuel →
      ∃ c' fuel', c'.Holds r ∧ c'.rest.length < fuel' ∧
        Cursor.skipValues fuel (.list :: outer) c = Cursor.resume fuel' outer c'
  | .members _, s => ∀ (c : Cursor) (r : List Char) (fuel : Nat) (outer : List Enclosing),
      c.Holds (s ++ '}' :: r) → c.rest.length < fuel →
      ∃ c' fuel', c'.Holds r ∧ c'.rest.length < fuel' ∧
        (c.skipName .object >>= Cursor.skipValues fuel (.object :: outer)) =
          Cursor.resume fuel' outer c'

/-- A value that is passed over at once, whatever follows it, is passed over within any brackets. -/
theorem skips_scalar {v : Value} {x : Char} {t : List Char} (hx : x ∈ valueStarts)
    (hskip : ∀ (c : Cursor) (r : List Char), c.Holds (x :: (t ++ r)) → Follows r →
      ∃ c', c.skipScalar x = .ok (none, c') ∧ c'.Holds r) :
    Skips (.value v) (x :: t) := by
  intro c r fuel outer hc hfuel hr
  obtain ⟨c₁, hbefore, hc₁⟩ := Cursor.Holds.beforeValue hc isSpace_nil hx
  obtain ⟨c₂, hscalar, hc₂⟩ := hskip c₁ r hc₁ hr
  obtain ⟨fuel, rfl⟩ := Nat.exists_eq_add_one_of_ne_zero (Nat.ne_zero_of_lt hfuel)
  have hlt := Cursor.Holds.length_lt_of_cons hc hc₂
  exact ⟨c₂, fuel, hc₂, by omega, Cursor.skipValues_scalar hbefore hscalar⟩

/-- An array or an object with nothing in it is passed over by its two brackets. It takes one turn, and
the brackets that were open before are open after it. -/
theorem skips_empty {v : Value} {x : Char} {a : List Char} (within : Enclosing)
    (hx : x ∈ valueStarts) (ha : IsSpace a)
    (hskip : ∀ c : Cursor, c.skipScalar x = .ok (some within, c.skip)) :
    Skips (.value v) (x :: (a ++ [Cursor.closing within])) := by
  intro c r fuel outer hc hfuel hr
  obtain ⟨c₁, hbefore, hc₁⟩ := Cursor.Holds.beforeValue hc isSpace_nil hx
  have hinside : c₁.skip.Holds (a ++ Cursor.closing within :: r) := by
    simpa only [List.append_eq, List.append_assoc, List.singleton_append] using
      hc₁.skip (of_mem_valueStarts hx).1
  obtain ⟨c₂, hc₂, hclose⟩ := hinside.closeValue_closing ha outer false (outer.length + 1)
  obtain ⟨fuel, rfl⟩ := Nat.exists_eq_add_one_of_ne_zero (Nat.ne_zero_of_lt hfuel)
  have hlt := Cursor.Holds.length_lt_of_cons hc hc₂
  refine ⟨c₂, fuel, hc₂, by omega, ?_⟩
  rw [Cursor.skipValues_open hbefore (hskip c₁), hclose]
  rfl

/-- Opening a collection that is not empty goes on at its first element or name. -/
theorem opens {x y : Char} {a t : List Char} {c : Cursor} {fuel : Nat} (within : Enclosing)
    (outer : List Enclosing) (hc : c.Holds (x :: (a ++ y :: t))) (hfuel : c.rest.length < fuel)
    (hx : x ∈ valueStarts) (ha : IsSpace a) (hy : IsAscii y) (hspace : isSpace y = false)
    (hopen : y ≠ Cursor.closing within)
    (hskip : ∀ c : Cursor, c.skipScalar x = .ok (some within, c.skip)) :
    ∃ (c' : Cursor) (fuel' : Nat), c'.Holds (a ++ y :: t) ∧ c'.rest.length < fuel' ∧
      Cursor.skipValues fuel outer c =
        (c'.skipName within >>= Cursor.skipValues fuel' (within :: outer)) := by
  obtain ⟨c₁, hbefore, hc₁⟩ := Cursor.Holds.beforeValue hc isSpace_nil hx
  have hinside := hc₁.skip (of_mem_valueStarts hx).1
  obtain ⟨fuel, rfl⟩ := Nat.exists_eq_add_one_of_ne_zero (Nat.ne_zero_of_lt hfuel)
  have hclose := hinside.closeValue_first ha hy hspace hopen outer (outer.length + 1)
  have hlt := Cursor.Holds.length_lt_of_cons (s := []) hc hinside
  obtain ⟨fuel, rfl⟩ := Nat.exists_eq_add_one_of_ne_zero (n := fuel) (by omega)
  refine ⟨c₁.skip, fuel + 1, hinside, by omega, ?_⟩
  rw [Cursor.skipValues_open hbefore (hskip c₁), hclose]
  exact Cursor.goOn_skipSpace fuel within outer c₁.skip

/-- A value that starts with a digit is passed over as a number. -/
theorem skipScalar_of_isDigit {c : Cursor} {x : Char} (h : x.isDigit = true) :
    c.skipScalar x = c.skipNumber.map fun c => (none, c) := by
  unfold Cursor.skipScalar
  split
  case h_8 => simp only [h, if_true]; rfl
  all_goals cases h

/-- The three words are passed over. -/
theorem skips_word {v : Value} {x : Char} {t : List Char} (hx : x ∈ valueStarts)
    (ht : ∀ y ∈ t, IsAscii y)
    (hskip : ∀ c : Cursor, c.skipScalar x = (c.skip.takeWord t).map fun c => (none, c)) :
    Skips (.value v) (x :: t) := by
  refine skips_scalar hx fun c r hc _ => ?_
  obtain ⟨c', htake, hc'⟩ := Cursor.Holds.takeWord t (hc.skip (of_mem_valueStarts hx).1) ht
  exact ⟨c', by rw [hskip, htake]; rfl, hc'⟩

/-- Numbers are passed over, with a sign or without. -/
theorem skips_number {s : List Char} (literal : IsNumber s) : Skips (.value (.number s)) s := by
  rcases literal with hs | ⟨t, ht, rfl⟩
  · obtain ⟨d, t, hd, rfl⟩ := magnitude_start hs
    refine skips_scalar (mem_valueStarts_of_isDigit hd) fun c r hc hr => ?_
    obtain ⟨c', hskip, hc'⟩ := Cursor.Holds.skipNumber hc hs hr
    exact ⟨c', by rw [skipScalar_of_isDigit hd, hskip]; rfl, hc'⟩
  · refine skips_scalar (by decide) fun c r hc hr => ?_
    obtain ⟨c', hskip, hc'⟩ := Cursor.Holds.skipNumber (hc.skip (by decide)) ht hr
    exact ⟨c', by simp only [Cursor.skipScalar, hskip]; rfl, hc'⟩

/-- Strings are passed over by their body, whether they stand for a text or not. -/
theorem skips_string {v : Value} {s : List Char} (body : IsStringBody s) :
    Skips (.value v) ('"' :: (s ++ ['"'])) := by
  refine skips_scalar (by decide) fun c r hc _ => ?_
  rw [List.append_assoc] at hc
  obtain ⟨c', hskip, hc'⟩ := Cursor.Holds.skipString (hc.skip (by decide)) body
  exact ⟨c', by simp only [Cursor.skipScalar, hskip]; rfl, hc'⟩

/-- Space before a value is passed over with it. -/
theorem Skips.spaced {v : Value} {a s r : List Char} (h : Skips (.value v) s)
    (hs : Written (.value v) s) (ha : IsSpace a) (hr : Follows r) {c : Cursor} {fuel : Nat}
    (hc : c.Holds (a ++ (s ++ r))) (hfuel : c.rest.length < fuel) (outer : List Enclosing) :
    ∃ c' fuel', c'.Holds r ∧ c'.rest.length < fuel' ∧
      Cursor.skipValues fuel outer c = Cursor.resume fuel' outer c' := by
  obtain ⟨x, t, hx, rfl⟩ := value_start hs
  obtain ⟨hascii, hspace, -, -⟩ := of_mem_valueStarts hx.mem_valueStarts
  have hc₁ : c.skipSpace.Holds (x :: t ++ r) :=
    hc.skipSpace ha (Cursor.stops_cons hascii hspace)
  have hle := hc.length_le_of_suffix hc₁ (List.suffix_append a _)
  obtain ⟨fuel, rfl⟩ := Nat.exists_eq_add_one_of_ne_zero (Nat.ne_zero_of_lt hfuel)
  rw [← Cursor.skipValues_skipSpace]
  exact h c.skipSpace r (fuel + 1) outer hc₁ (by omega) hr

/-- Every part of a document is passed over. The induction is on how the part is written, one case
for each rule of the grammar. -/
theorem Written.skips {part : Part} {s : List Char} (h : Written part s) : Skips part s := by
  induction h with
  | nullWord => exact skips_word (by decide) (forall_mem_of_all rfl) fun _ => rfl
  | trueWord => exact skips_word (by decide) (forall_mem_of_all rfl) fun _ => rfl
  | falseWord => exact skips_word (by decide) (forall_mem_of_all rfl) fun _ => rfl
  | number literal => exact skips_number literal
  | string chars => exact skips_string chars.isStringBody
  | emptyArray space => exact skips_empty .list (by decide) space fun _ => rfl
  | emptyObject space => exact skips_empty .object (by decide) space fun _ => rfl
  | @array vs s elements ih =>
    intro c r fuel outer hc hfuel _
    obtain ⟨a, x, t, ha, hx, rfl⟩ := elements_start elements
    obtain ⟨hascii, hspace, hclose, -⟩ := of_mem_valueStarts hx
    simp only [List.cons_append, List.append_assoc] at hc
    obtain ⟨c₁, fuel₁, hc₁, hfuel₁, hopen⟩ := opens .list outer hc hfuel
      (by decide) ha hascii hspace hclose fun _ => rfl
    obtain ⟨c₂, fuel₂, hc₂, hfuel₂, hloop⟩ := ih c₁ r fuel₁ outer
      (by simpa using hc₁) hfuel₁
    exact ⟨c₂, fuel₂, hc₂, hfuel₂, hopen.trans hloop⟩
  | @object ms s members ih =>
    intro c r fuel outer hc hfuel _
    obtain ⟨a, t, ha, rfl⟩ := members_start members
    simp only [List.cons_append, List.append_assoc] at hc
    obtain ⟨c₁, fuel₁, hc₁, hfuel₁, hopen⟩ := opens .object outer hc hfuel
      (by decide) ha (by decide) (by decide) (by decide) fun _ => rfl
    obtain ⟨c₂, fuel₂, hc₂, hfuel₂, hloop⟩ := ih c₁ r fuel₁ outer
      (by simpa using hc₁) hfuel₁
    exact ⟨c₂, fuel₂, hc₂, hfuel₂, hopen.trans hloop⟩
  | @spaced v a s b before value after ih =>
    intro c r fuel outer hc hfuel hr
    simp only [List.append_assoc] at hc
    obtain ⟨c', fuel', hc', hfuel', hskip⟩ :=
      Skips.spaced ih value before (follows_append after hr) hc hfuel outer
    exact ⟨c', fuel', b, after, hc', hfuel', hskip⟩
  | @element v s value ih =>
    intro c r fuel outer hc hfuel
    obtain ⟨c₁, fuel₁, b, hb, hc₁, hfuel₁, hskip⟩ :=
      ih c (']' :: r) fuel (.list :: outer) hc hfuel (follows_cons (by decide) r)
    obtain ⟨c₂, hc₂, hle, hresume⟩ := hc₁.resume_closing .list hb
    exact ⟨c₂, fuel₁, hc₂, by omega, hskip.trans hresume⟩
  | @elements v vs s t value rest ihValue ihRest =>
    intro c r fuel outer hc hfuel
    rw [List.append_assoc] at hc
    obtain ⟨c₁, fuel₁, b, hb, hc₁, hfuel₁, hskip⟩ :=
      ihValue c _ fuel (.list :: outer) hc hfuel (follows_cons (by decide) _)
    obtain ⟨c₂, hc₂, hle, hresume⟩ := hc₁.resume_comma .list hb
    obtain ⟨c₃, fuel₃, hc₃, hfuel₃, hloop⟩ := ihRest c₂ r fuel₁ outer hc₂ (by omega)
    exact ⟨c₃, fuel₃, hc₃, hfuel₃, hskip.trans (hresume.trans hloop)⟩
  | @member name v a n b s before chars after value ih =>
    intro c r fuel outer hc hfuel
    simp only [List.cons_append, List.append_assoc] at hc
    obtain ⟨c₁, hname, hc₁, hle⟩ := hc.skipName before chars after
    obtain ⟨c₂, fuel₂, b', hb', hc₂, hfuel₂, hskip⟩ :=
      ih c₁ ('}' :: r) fuel (.object :: outer) hc₁ (by omega) (follows_cons (by decide) r)
    obtain ⟨c₃, hc₃, hle₃, hresume⟩ := hc₂.resume_closing .object hb'
    refine ⟨c₃, fuel₂, hc₃, by omega, ?_⟩
    rw [hname]
    exact hskip.trans hresume
  | @members name v ms a n b s t before chars after value rest ihValue ihRest =>
    intro c r fuel outer hc hfuel
    simp only [List.cons_append, List.append_assoc] at hc
    obtain ⟨c₁, hname, hc₁, hle⟩ := hc.skipName before chars after
    obtain ⟨c₂, fuel₂, b', hb', hc₂, hfuel₂, hskip⟩ :=
      ihValue c₁ _ fuel (.object :: outer) hc₁ (by omega) (follows_cons (by decide) _)
    obtain ⟨c₃, hc₃, hle₃, hresume⟩ := hc₂.resume_comma .object hb'
    obtain ⟨c₄, fuel₄, hc₄, hfuel₄, hloop⟩ := ihRest c₃ r fuel₂ outer hc₃ (by omega)
    refine ⟨c₄, fuel₄, hc₄, hfuel₄, ?_⟩
    rw [hname]
    exact hskip.trans (hresume.trans hloop)

/-- A value is passed over, whatever it is. -/
theorem Cursor.Holds.skipValue {c : Cursor} {v : Value} {a s r : List Char}
    (h : c.Holds (a ++ (s ++ r))) (ha : IsSpace a) (hs : Written (.value v) s) (hr : Follows r) :
    ∃ c', c.skipValue = .ok c' ∧ c'.Holds r := by
  obtain ⟨c', fuel', hc', -, hskip⟩ := hs.skips.spaced hs ha hr h (Nat.lt_succ_self _) []
  exact ⟨c', hskip.trans (Cursor.resume_nil fuel' c'), hc'⟩

end Workday.Json
