import Mathlib.Data.List.TakeWhile
import Workday.Url.Reader

/-!
# How the text of a URL is laid out

The text of a URL of the web is a scheme with slashes, an authority, a path and a tail, each of which
ends where the next begins. Whatever is written in these places is read apart from the others.
-/

set_option autoImplicit false

namespace Workday.Url

variable {scheme : String} {s rest authority path tail : List Char} {u : Url} {a : Authority}

/-- The schemes of the web. -/
def IsWeb (scheme : String) : Prop := scheme = "http" ∨ scheme = "https"

/-- The schemes of the web are special: both kinds of slash stand for one. -/
theorem IsWeb.isSpecial (h : IsWeb scheme) : isSpecial scheme = true := by
  rcases h with rfl | rfl <;> decide

theorem IsWeb.ne_file (h : IsWeb scheme) : (scheme == "file") = false := by
  rcases h with rfl | rfl <;> decide

/-- Reads what is significant of a text. -/
def readSignificant (s : List Char) : Except Fault Url :=
  match readScheme s with
  | some (scheme, r) => readWithScheme scheme r
  | none => .error .relativeWithoutBase

theorem read_eq (s : String) : read s = readSignificant (significant s) := rfl

/-! ## The parts -/

/-- A text is cut where its second part begins. -/
theorem cutAt_append {test : Char → Bool} {front rear : List Char}
    (hfront : ∀ c ∈ front, test c = false) (hrear : ∀ c ∈ rear.head?, test c = true) :
    cutAt test (front ++ rear) = (front, rear) := by
  have hall : ∀ c ∈ front, (!test c) = true := fun c hc => by rw [hfront c hc]; rfl
  have hstop : rear.takeWhile (!test ·) = [] ∧ rear.dropWhile (!test ·) = rear := by
    cases rear with
    | nil => exact ⟨rfl, rfl⟩
    | cons c rear =>
      have hc : test c = true := hrear c rfl
      simp only [List.takeWhile_cons, List.dropWhile_cons, hc, Bool.not_true, Bool.false_eq_true,
        if_false, and_self]
  rw [cutAt, List.takeWhile_append_of_pos hall, List.dropWhile_append_of_pos hall, hstop.1, hstop.2,
    List.append_nil]

/-- The two parts of a cut are the text again. The test is first met where the second one begins. -/
theorem of_cutAt {test : Char → Bool} {front rear : List Char} (h : cutAt test s = (front, rear)) :
    s = front ++ rear ∧ (∀ c ∈ front, test c = false) ∧ ∀ c ∈ rear.head?, test c = true := by
  cases h
  refine ⟨(List.takeWhile_append_dropWhile).symm, fun c hc => ?_, fun c hc => ?_⟩
  · simpa using List.mem_takeWhile_imp hc
  · have hstop := List.head?_dropWhile_not (!test ·) s
    rw [Option.mem_def.mp hc] at hstop
    simpa using hstop

/-- What stands after the slashes of a URL of the web. -/
structure Laid (authority path tail : List Char) : Prop where
  plainAuthority : ∀ c ∈ authority, endsAuthority true c = false
  plainPath : ∀ c ∈ path, endsPath c = false
  rootedPath : ∀ c ∈ path.head?, isSlash c = true
  tailStart : ∀ c ∈ tail.head?, endsPath c = true

/-- The URL that is put together from the parts. -/
def compose (scheme : String) (a : Authority) (path tail : List Char) : Url :=
  ⟨scheme, a.username, a.password, some a.host, a.port, readPathStart scheme path,
    (readTail scheme tail).1, (readTail scheme tail).2⟩

/-- What ends an authority but no path is a slash, of either kind. -/
theorem isSlash_of_endsAuthority {c : Char} (h : endsAuthority true c = true)
    (hpath : endsPath c = false) : isSlash c = true := by
  simp only [endsAuthority, endsPath, isSlash, Bool.or_eq_true, Bool.or_eq_false_iff, beq_iff_eq,
    beq_eq_false_iff_ne, Bool.true_and] at h hpath ⊢
  rcases h with ((h | h) | h) | h
  · exact Or.inl h
  · exact absurd h hpath.1
  · exact absurd h hpath.2
  · exact Or.inr h

/-- A slash of either kind ends an authority. -/
theorem endsAuthority_of_isSlash {c : Char} (h : isSlash c = true) :
    endsAuthority true c = true := by
  simp only [endsAuthority, isSlash, Bool.or_eq_true, beq_iff_eq, Bool.true_and] at h ⊢
  rcases h with h | h
  · exact Or.inl (Or.inl (Or.inl h))
  · exact Or.inr h

/-- What ends a path ends an authority that stands before it. -/
theorem endsAuthority_of_endsPath {c : Char} (h : endsPath c = true) :
    endsAuthority true c = true := by
  simp only [endsAuthority, endsPath, Bool.or_eq_true, beq_iff_eq, Bool.true_and] at h ⊢
  rcases h with h | h
  · exact Or.inl (Or.inl (Or.inr h))
  · exact Or.inl (Or.inr h)

/-- A host and a port are what they are cut from; a port begins with a colon. A colon between brackets
is one of the host. -/
theorem of_splitPort {inBrackets : Bool} {host port : List Char}
    (h : splitPort inBrackets s = (host, port)) : s = host ++ port ∧ ∀ c ∈ port.head?, c = ':' := by
  induction s generalizing inBrackets host with
  | nil =>
    cases h
    exact ⟨rfl, fun c hc => by cases hc⟩
  | cons c s ih =>
    rw [splitPort] at h
    split at h
    · rename_i hcolon
      cases h
      refine ⟨rfl, fun d hd => ?_⟩
      cases hd
      simp only [Bool.and_eq_true, beq_iff_eq] at hcolon
      exact hcolon.1
    · cases h
      obtain ⟨hparts, hstart⟩ := ih rfl
      exact ⟨congrArg (c :: ·) hparts, hstart⟩

/-- What an authority of a special scheme is read from: a host that is there, and a port. -/
theorem readAuthority_eq (hscheme : isSpecial scheme = true) (more : Bool)
    {info host port : List Char} (hinfo : (splitUserInfo authority).getD ([], authority) = (info, rest))
    (hport : splitPort false rest = (host, port)) :
    readAuthority scheme authority more =
      if host = [] then .error .emptyHost
      else do
        let h ← Host.read host
        let p ← readPort scheme port
        return ⟨(readUserInfo info).1, (readUserInfo info).2, h, p⟩ := by
  unfold readAuthority
  simp only [hinfo, hport, hscheme, Bool.true_and, if_true]
  cases host with
  | nil =>
    simp only [List.isEmpty_nil, if_true]
    split <;> rfl
  | cons c host =>
    have hrest : rest.isEmpty = false := by rw [(of_splitPort hport).1]; rfl
    simp only [hrest, List.isEmpty_cons, Bool.and_false, Bool.false_and, Bool.false_eq_true,
      if_false, reduceCtorEq]

/-- In a special scheme a host must stand whether or not more follows. -/
theorem readAuthority_more (hscheme : isSpecial scheme = true) (more : Bool) :
    readAuthority scheme authority more = readAuthority scheme authority true := by
  rw [readAuthority_eq hscheme more rfl rfl, readAuthority_eq hscheme true rfl rfl]

/-- The parts of a URL are read apart from each other. What ends the authority is a slash or what ends
the path, so none of the parts reaches into the next. -/
theorem readAfterSlashes_eq (hscheme : isSpecial scheme = true) (h : Laid authority path tail) :
    readAfterSlashes scheme (authority ++ (path ++ tail)) =
      (readAuthority scheme authority true).map fun a => compose scheme a path tail := by
  have hrest : ∀ c ∈ (path ++ tail).head?, endsAuthority true c = true := by
    intro c hc
    cases path with
    | nil => exact endsAuthority_of_endsPath (h.tailStart c hc)
    | cons d path => exact endsAuthority_of_isSlash (h.rootedPath c hc)
  have hcut : cutAt (endsAuthority true) (authority ++ (path ++ tail)) = (authority, path ++ tail) :=
    cutAt_append h.plainAuthority hrest
  have hpath : cutAt endsPath (path ++ tail) = (path, tail) := cutAt_append h.plainPath h.tailStart
  unfold readAfterSlashes
  simp only [hscheme, hcut, hpath, readAuthority_more hscheme]
  cases readAuthority scheme authority true <;> rfl

/-- What is read after the slashes has the parts of a URL, cut where the reader cuts it: the authority
before the first slash, the path before the first query or fragment. -/
theorem exists_laid (hscheme : isSpecial scheme = true) (h : readAfterSlashes scheme rest = .ok u) :
    ∃ authority path tail a, rest = authority ++ (path ++ tail) ∧ Laid authority path tail ∧
      readAuthority scheme authority true = .ok a ∧ u = compose scheme a path tail := by
  obtain ⟨authority, r, hcut⟩ : ∃ authority r, cutAt (endsAuthority true) rest = (authority, r) :=
    ⟨_, _, rfl⟩
  obtain ⟨path, tail, hpath⟩ : ∃ path tail, cutAt endsPath r = (path, tail) := ⟨_, _, rfl⟩
  obtain ⟨hrest, hauthority, hr⟩ := of_cutAt hcut
  obtain ⟨hparts, hplain, htail⟩ := of_cutAt hpath
  have hlaid : Laid authority path tail := by
    refine ⟨hauthority, hplain, fun c hc => ?_, htail⟩
    have hmem : c ∈ r.head? := by
      rw [hparts]
      cases path with
      | nil => cases hc
      | cons d path => exact hc
    exact isSlash_of_endsAuthority (hr c hmem) (hplain c (List.mem_of_mem_head? hc))
  rw [hparts] at hrest
  rw [hrest, readAfterSlashes_eq hscheme hlaid] at h
  cases hread : readAuthority scheme authority true with
  | error fault => rw [hread] at h; cases h
  | ok a =>
    rw [hread] at h
    cases h
    exact ⟨authority, path, tail, a, hrest, hlaid, hread, rfl⟩

/-! ## The start -/

/-- What a computation of two steps gives has been given by both. -/
theorem exists_of_bind {ε α β : Type} {x : Except ε α} {f : α → Except ε β} {b : β}
    (h : x >>= f = .ok b) : ∃ a, x = .ok a ∧ f a = .ok b := by
  cases x with
  | error fault => cases h
  | ok a => exact ⟨a, rfl, h⟩

/-- The scheme is kept by what is read after the slashes. -/
theorem scheme_of_readAfterSlashes (h : readAfterSlashes scheme rest = .ok u) : u.scheme = scheme := by
  obtain ⟨a, -, hu⟩ := exists_of_bind h
  cases hu
  rfl

/-- A file URL is given no other scheme. -/
theorem scheme_of_readFile (h : readFile rest = .ok u) : u.scheme = "file" := by
  unfold readFile at h
  split at h
  · split at h
    all_goals
      obtain ⟨place, -, hu⟩ := exists_of_bind h
      cases hu
      rfl
  · cases h
    rfl

/-- A URL has the scheme that its text begins with. -/
theorem scheme_of_readWithScheme (h : readWithScheme scheme rest = .ok u) : u.scheme = scheme := by
  unfold readWithScheme at h
  split at h
  · rename_i hfile
    exact (scheme_of_readFile h).trans (beq_iff_eq.mp hfile).symm
  · split at h
    · exact scheme_of_readAfterSlashes h
    · split at h
      · exact scheme_of_readAfterSlashes h
      · cases h
        rfl

/-- A scheme is read off the text that it begins. It begins with a letter, is told in lower case, and
ends with the first colon. -/
theorem readScheme_eq_some_iff :
    readScheme s = some (scheme, rest) ↔
      ∃ name, s = name ++ ':' :: rest ∧ (∀ c ∈ name, isSchemeChar c = true) ∧
        name.head?.any Char.isAlpha = true ∧ scheme = String.ofList (name.map Char.toLower) := by
  constructor
  · intro h
    unfold readScheme at h
    dsimp only at h
    split at h
    · rename_i r hcolon
      split at h
      · rename_i halpha
        cases h
        obtain ⟨after, hafter⟩ := List.takeWhile_prefix isSchemeChar (l := s)
        have hdrop := congrArg (List.drop (s.takeWhile isSchemeChar).length) hafter.symm
        rw [List.drop_left, hcolon] at hdrop
        rw [← hdrop] at hafter
        exact ⟨s.takeWhile isSchemeChar, hafter.symm, fun c hc => List.mem_takeWhile_imp hc, halpha, rfl⟩
      · cases h
    · cases h
  · rintro ⟨name, rfl, hname, halpha, rfl⟩
    have hcolon : isSchemeChar ':' = false := by decide
    have htake : (name ++ ':' :: rest).takeWhile isSchemeChar = name := by
      rw [List.takeWhile_append_of_pos hname, List.takeWhile_cons, hcolon]
      exact List.append_nil name
    unfold readScheme
    simp only [htake, List.drop_left, halpha, if_true]

/-- The start of a URL of the web does not tell what follows its slashes, and is told by nothing
there. -/
theorem exists_front (h : readSignificant s = .ok u) (hweb : IsWeb u.scheme) :
    ∃ front rest, s = front ++ rest ∧ readAfterSlashes u.scheme rest = .ok u ∧
      ∀ rest', (∀ c ∈ rest'.head?, isSlash c = false) →
        readSignificant (front ++ rest') = readAfterSlashes u.scheme rest' := by
  unfold readSignificant at h
  split at h
  · rename_i scheme r hread
    have hscheme : u.scheme = scheme := scheme_of_readWithScheme h
    rw [hscheme] at hweb ⊢
    have hafter : ∀ r', readWithScheme scheme r' = readAfterSlashes scheme (r'.dropWhile isSlash) := by
      intro r'
      simp only [readWithScheme, hweb.ne_file, hweb.isSpecial, Bool.false_eq_true, if_false, if_true]
    obtain ⟨name, rfl, hname, halpha, hlower⟩ := readScheme_eq_some_iff.mp hread
    refine ⟨name ++ ':' :: r.takeWhile isSlash, r.dropWhile isSlash, ?_, ?_, fun rest' hrest' => ?_⟩
    · rw [List.append_assoc, List.cons_append, List.takeWhile_append_dropWhile]
    · rw [← hafter, h]
    · have hread' : readScheme (name ++ ':' :: (r.takeWhile isSlash ++ rest')) =
          some (scheme, r.takeWhile isSlash ++ rest') :=
        readScheme_eq_some_iff.mpr ⟨name, rfl, hname, halpha, hlower⟩
      have hslashes : ∀ c ∈ r.takeWhile isSlash, isSlash c = true :=
        fun c hc => List.mem_takeWhile_imp hc
      have hstop : rest'.dropWhile isSlash = rest' := by
        cases rest' with
        | nil => rfl
        | cons c rest' => rw [List.dropWhile_cons, hrest' c rfl]; rfl
      rw [List.append_assoc, List.cons_append, readSignificant, hread']
      show readWithScheme scheme _ = _
      rw [hafter, List.dropWhile_append_of_pos hslashes, hstop]
  · cases h

/-- A URL of the web needs a host: an authority without a character is refused. -/
theorem readAuthority_nil (hscheme : isSpecial scheme = true) :
    readAuthority scheme [] true = .error .emptyHost := by
  have hinfo : (splitUserInfo []).getD ([], []) = ([], []) := rfl
  have hport : splitPort false [] = ([], []) := rfl
  rw [readAuthority_eq hscheme true hinfo hport, if_pos rfl]

/-- The start of a URL of the web: whatever stands behind it is read by its parts. -/
def IsFront (scheme : String) (front : List Char) : Prop :=
  ∀ authority path tail, Laid authority path tail → authority ≠ [] →
    readSignificant (front ++ (authority ++ (path ++ tail))) =
      (readAuthority scheme authority true).map fun a => compose scheme a path tail

/-- A text without a query and a fragment is read by its authority and its path. -/
theorem IsFront.read_of_path {front : List Char} (h : IsFront scheme front)
    (hlaid : Laid authority path []) (hne : authority ≠ []) :
    readSignificant (front ++ (authority ++ path)) =
      (readAuthority scheme authority true).map fun a => compose scheme a path [] := by
  have hread := h authority path [] hlaid hne
  rwa [List.append_nil] at hread

/-- A URL of the web has a start, an authority, a path and a tail. With the same start any other parts
are read alike, so one of them can be exchanged. -/
theorem exists_parts (h : readSignificant s = .ok u) (hweb : IsWeb u.scheme) :
    ∃ front authority path tail a, s = front ++ (authority ++ (path ++ tail)) ∧
      Laid authority path tail ∧ authority ≠ [] ∧ readAuthority u.scheme authority true = .ok a ∧
      u = compose u.scheme a path tail ∧ IsFront u.scheme front := by
  obtain ⟨front, rest, rfl, hrest, hfront⟩ := exists_front h hweb
  obtain ⟨authority, path, tail, a, rfl, hlaid, hread, hu⟩ := exists_laid hweb.isSpecial hrest
  have hne : authority ≠ [] := by
    rintro rfl
    rw [readAuthority_nil hweb.isSpecial] at hread
    cases hread
  refine ⟨front, authority, path, tail, a, rfl, hlaid, hne, hread, hu, ?_⟩
  intro authority' path' tail' hlaid' hne'
  rw [hfront, readAfterSlashes_eq hweb.isSpecial hlaid']
  intro c hc
  obtain ⟨d, rest', rfl⟩ := List.exists_cons_of_ne_nil hne'
  cases hc
  have hplain := hlaid'.plainAuthority c List.mem_cons_self
  exact Bool.eq_false_iff.mpr fun hslash =>
    Bool.false_ne_true (hplain.symm.trans (endsAuthority_of_isSlash hslash))

end Workday.Url
