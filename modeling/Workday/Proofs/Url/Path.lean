import Workday.Proofs.Url.Layout

/-!
# The path of a URL of the web

A path is cut into segments and these are followed one by one. All but the last are followed alike
whatever comes after them, so a path with something added behind a slash leads on from the directory
that it named without it.
-/

set_option autoImplicit false

namespace Workday.Text

variable {test : Char → Bool} {b : List Char}

/-- A cut at the first character leaves an empty piece before it. -/
theorem splitAt_cons_of_pos {c : Char} (hc : test c = true) (b : List Char) :
    splitAt test (c :: b) = [] :: splitAt test b := by
  cases hb : splitAt test b with
  | nil => exact absurd hb (splitAt_ne_nil test b)
  | cons piece pieces => simp only [splitAt, hb, hc, if_true]

/-- Two texts together are cut where each is cut, and the pieces that meet become one: the last of the
first text and the first of the second. -/
theorem exists_splitAt_append (test : Char → Bool) (a : List Char) :
    ∃ front last, splitAt test a = front ++ [last] ∧ ∀ b head rear,
      splitAt test b = head :: rear → splitAt test (a ++ b) = front ++ (last ++ head) :: rear := by
  induction a with
  | nil => exact ⟨[], [], rfl, fun b head rear h => h⟩
  | cons c a ih =>
    obtain ⟨front, last, ha, hab⟩ := ih
    by_cases hc : test c = true
    · refine ⟨[] :: front, last, ?_, fun b head rear hb => ?_⟩
      · rw [splitAt_cons_of_pos hc, ha, List.cons_append]
      · rw [List.cons_append, splitAt_cons_of_pos hc, hab b head rear hb, List.cons_append]
    · cases front with
      | nil =>
        refine ⟨[], c :: last, ?_, fun b head rear hb => ?_⟩
        · simp only [splitAt, ha, List.nil_append, hc, Bool.false_eq_true, if_false]
        · simp only [List.cons_append, splitAt, hab b head rear hb, List.nil_append, hc,
            Bool.false_eq_true, if_false]
      | cons piece front =>
        refine ⟨(c :: piece) :: front, last, ?_, fun b head rear hb => ?_⟩
        · simp only [splitAt, ha, List.cons_append, hc, Bool.false_eq_true, if_false]
        · simp only [List.cons_append, splitAt, hab b head rear hb, hc, Bool.false_eq_true, if_false]

/-- A text is cut at a character as if its two sides stood alone. -/
theorem splitAt_append_cons {c : Char} (hc : test c = true) (a b : List Char) :
    splitAt test (a ++ c :: b) = splitAt test a ++ splitAt test b := by
  obtain ⟨front, last, ha, hab⟩ := exists_splitAt_append test a
  rw [hab _ _ _ (splitAt_cons_of_pos hc b), ha, List.append_nil, List.append_assoc]
  rfl

/-- A text without a cut is one piece. -/
theorem splitAt_plain (hb : ∀ c ∈ b, test c = false) : splitAt test b = [b] := by
  induction b with
  | nil => rfl
  | cons c b ih =>
    have hrest := ih fun d hd => hb d (List.mem_cons_of_mem c hd)
    simp only [splitAt, hrest, hb c List.mem_cons_self, Bool.false_eq_true, if_false]

/-- What holds no cut belongs to the last piece. -/
theorem exists_splitAt_append_plain (test : Char → Bool) (a : List Char) :
    ∃ front last, splitAt test a = front ++ [last] ∧
      ∀ b, (∀ c ∈ b, test c = false) → splitAt test (a ++ b) = front ++ [last ++ b] := by
  obtain ⟨front, last, ha, hab⟩ := exists_splitAt_append test a
  exact ⟨front, last, ha, fun b hb => hab b b [] (splitAt_plain hb)⟩

/-- Cuts one after the other leave nothing but empty pieces, one more than there are cuts. -/
theorem splitAt_replicate {c : Char} (hc : test c = true) (n : Nat) :
    splitAt test (List.replicate n c) = List.replicate (n + 1) [] := by
  induction n with
  | zero => rfl
  | succ n ih => rw [List.replicate_succ, splitAt_cons_of_pos hc, ih, ← List.replicate_succ]

end Workday.Text

namespace Workday.Url

open Workday.Text (splitAt)

variable {scheme : String} {names : List String}

/-! ## Segments -/

/-- Where a segment leads from a place. -/
def step (names : List String) (segment : List Char) : List String :=
  let encoded := percentEncode .path segment
  if isDoubleDot encoded then goUp false names
  else if isSingleDot encoded then names
  else names ++ [String.ofList encoded]

/-- Whether a segment names a place by its dots. -/
def isDots (segment : List Char) : Bool :=
  isDoubleDot (percentEncode .path segment) || isSingleDot (percentEncode .path segment)

/-- A segment that is no dots is the name of what it leads to, encoded. -/
theorem step_of_not_isDots {segment : List Char} (h : isDots segment = false) :
    step names segment = names ++ [String.ofList (percentEncode .path segment)] := by
  simp only [isDots, Bool.or_eq_false_iff] at h
  simp only [step, h.1, h.2, Bool.false_eq_true, if_false]

/-- A segment with others behind it. -/
theorem follow_cons {segments : List (List Char)} (segment : List Char) (h : segments ≠ []) :
    follow false names (segment :: segments) = follow false (step names segment) segments := by
  have hsome : segments.isEmpty = false := List.isEmpty_eq_false_iff.mpr h
  rw [follow]
  simp only [hsome, Bool.false_eq_true, if_false, Bool.false_and, step]
  split
  · rfl
  · split <;> rfl

/-- The last segment; one of dots leads to a directory, which is written with a slash at its end. -/
theorem follow_last (segment : List Char) :
    follow false names [segment] =
      step names segment ++ List.replicate (if isDots segment then 1 else 0) "" := by
  simp only [follow, step, isDots, Bool.false_and, Bool.false_eq_true, if_false, List.isEmpty_nil,
    if_true]
  split
  · rename_i hdots
    simp only [hdots, Bool.true_or, if_true]
    rfl
  · rename_i hdots
    split
    · rename_i hdot
      simp only [hdot, Bool.or_true, if_true]
      rfl
    · rename_i hdot
      simp [hdots, hdot]

/-- Segments are followed one by one. -/
theorem follow_append {segments rest : List (List Char)} (h : rest ≠ []) :
    follow false names (segments ++ rest) = follow false (segments.foldl step names) rest := by
  induction segments generalizing names with
  | nil => rfl
  | cons segment segments ih =>
    rw [List.cons_append, follow_cons segment (List.append_ne_nil_of_right_ne_nil segments h), ih,
      List.foldl_cons]

/-- Empty segments are names of their own: slashes at the end of a path are not dropped. -/
theorem follow_replicate (n : Nat) :
    follow false names (List.replicate (n + 1) []) = names ++ List.replicate (n + 1) "" := by
  have hempty : isDots [] = false := by decide
  have hstep : ∀ names, step names [] = names ++ [""] := fun names => step_of_not_isDots hempty
  induction n generalizing names with
  | zero =>
    rw [List.replicate_one, follow_last, hstep, hempty]
    exact List.append_nil _
  | succ n ih =>
    rw [List.replicate_succ, follow_cons [] (by simp), ih, hstep, List.append_assoc,
      List.replicate_succ (n := n + 1)]
    rfl

/-! ## Paths -/

/-- The path of a URL of the web begins at the root. -/
theorem IsWeb.readPathStart_eq (h : IsWeb scheme) (s : List Char) :
    readPathStart scheme s =
      .segments (follow false [] (splitAt isSlash (dropSlash true s))) := by
  have hslash : (fun c => c == '/' || (true && c == '\\')) = isSlash := rfl
  simp only [readPathStart, readSegments, h.isSpecial, h.ne_file, Bool.not_true, Bool.and_false,
    Bool.false_eq_true, if_false, hslash]

/-- One slash at the start of a path belongs to no segment. -/
theorem dropSlash_cons {c : Char} (h : isSlash c = true) (s : List Char) :
    dropSlash true (c :: s) = s := by
  simp only [isSlash, Bool.or_eq_true, beq_iff_eq] at h
  rcases h with rfl | rfl <;> rfl

/-- A path that slashes may be added to leads to a directory, with an empty name for each slash that
stands for itself. A name added behind a slash is in that directory. -/
theorem exists_directory (hweb : IsWeb scheme) {front : List Char}
    (hrooted : ∀ c ∈ front.head?, isSlash c = true) (n : Nat) :
    ∃ directory k,
      readPathStart scheme (front ++ List.replicate n '/') =
        .segments (directory ++ List.replicate k "") ∧
      ∀ last, (∀ c ∈ last, isSlash c = false) → isDots last = false →
        readPathStart scheme (front ++ '/' :: last) =
          .segments (directory ++ [String.ofList (percentEncode .path last)]) := by
  have hslash : isSlash '/' = true := rfl
  cases front with
  | nil =>
    refine ⟨[], n.pred + 1, ?_, fun last hplain hname => ?_⟩
    · have hdrop : dropSlash true (List.replicate n '/') = List.replicate n.pred '/' := by
        cases n <;> rfl
      rw [hweb.readPathStart_eq, List.nil_append, hdrop, Text.splitAt_replicate hslash,
        follow_replicate]
    · rw [hweb.readPathStart_eq, List.nil_append, dropSlash_cons hslash, Text.splitAt_plain hplain,
        follow_last, step_of_not_isDots hname, hname]
      rfl
  | cons c front =>
    have hc : isSlash c = true := hrooted c rfl
    have hwalk : ∀ s, readPathStart scheme (c :: front ++ s) =
        .segments (follow false [] (splitAt isSlash (front ++ s))) := by
      intro s
      rw [hweb.readPathStart_eq, List.cons_append, dropSlash_cons hc]
    have hname : ∀ last, (∀ c ∈ last, isSlash c = false) → isDots last = false →
        readPathStart scheme (c :: front ++ '/' :: last) =
          .segments ((splitAt isSlash front).foldl step [] ++
            [String.ofList (percentEncode .path last)]) := by
      intro last hplain hdots
      rw [hwalk, Text.splitAt_append_cons hslash, Text.splitAt_plain hplain,
        follow_append (List.cons_ne_nil _ _), follow_last, step_of_not_isDots hdots, hdots]
      simp only [Bool.false_eq_true, if_false, List.replicate_zero, List.append_nil]
    cases n with
    | zero =>
      obtain ⟨segments, last, hsplit, -⟩ := Text.exists_splitAt_append isSlash front
      refine ⟨(splitAt isSlash front).foldl step [], if isDots last then 1 else 0, ?_, hname⟩
      rw [hwalk, List.replicate_zero, List.append_nil, hsplit, follow_append (List.cons_ne_nil _ _),
        follow_last, List.foldl_append]
      rfl
    | succ n =>
      refine ⟨(splitAt isSlash front).foldl step [], n + 1, ?_, hname⟩
      rw [hwalk, List.replicate_succ, Text.splitAt_append_cons hslash, Text.splitAt_replicate hslash,
        follow_append (by simp), follow_replicate]

/-! ## Paths as written -/

/-- The names of a path as they are written. -/
def written (names : List String) : List Char := names.flatMap fun name => '/' :: name.toList

theorem written_append (names rest : List String) :
    written (names ++ rest) = written names ++ written rest :=
  List.flatMap_append

theorem written_ofList (text : List Char) : written [String.ofList text] = '/' :: text := by
  rw [written, List.flatMap_singleton, String.toList_ofList]

/-- Empty names are written as slashes. -/
theorem written_replicate (n : Nat) : written (List.replicate n "") = List.replicate n '/' := by
  induction n with
  | zero => rfl
  | succ n ih =>
    rw [List.replicate_succ, List.replicate_succ, ← ih]
    rfl

/-- A path is formatted as its names are written. -/
theorem toList_format (names : List String) : (Path.segments names).format.toList = written names := by
  have hjoin : ∀ (texts : List String) (before : String),
      (texts.foldl (· ++ ·) before).toList = before.toList ++ texts.flatMap String.toList := by
    intro texts
    induction texts with
    | nil => intro before; exact (List.append_nil _).symm
    | cons text texts ih =>
      intro before
      rw [List.foldl_cons, ih, String.toList_append, List.append_assoc, List.flatMap_cons]
  rw [Path.format, String.join, hjoin, List.flatMap_map]
  simp only [String.toList_append]
  rfl

/-- Where a segment leads is written no longer than the place and the segment. Dots leave out names or
add nothing but the slash at the end. -/
theorem length_written_follow_le (names : List String) (segment : List Char) :
    (written (follow false names [segment])).length ≤
      (written names).length + 1 + (percentEncode .path segment).length := by
  have hup : (written (goUp false names)).length ≤ (written names).length := by
    have hgoUp : goUp false names = names.dropLast := by
      unfold goUp
      split <;> rfl
    obtain ⟨rest, hrest⟩ := List.dropLast_prefix names
    have hlength := congrArg (fun ns => (written ns).length) hrest
    simp only [written_append, List.length_append] at hlength
    rw [hgoUp]
    omega
  rw [follow_last, written_append, List.length_append, written_replicate, List.length_replicate]
  cases hdots : isDots segment with
  | false =>
    rw [step_of_not_isDots hdots, written_append, List.length_append, written_ofList,
      List.length_cons]
    simp only [Bool.false_eq_true, if_false]
    omega
  | true =>
    have hstep : (written (step names segment)).length ≤ (written names).length := by
      simp only [isDots, Bool.or_eq_true] at hdots
      unfold step
      simp only
      split
      · exact hup
      · rename_i hdouble
        rw [if_pos (hdots.resolve_left hdouble)]
    simp only [if_true]
    omega

end Workday.Url
