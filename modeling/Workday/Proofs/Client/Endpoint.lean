import Workday.Proofs.Settings.Check
import Workday.Proofs.Url.Blank

/-!
# Where the feed is asked for

The endpoint is the text of the base URL without the slashes at its end and the path of the feed behind
it. The base URL is checked as a text of its own, and what it reads as is not always what it is the
beginning of: a query or a fragment takes the path of the feed into itself, a blank at the end is no
end any more, and an empty name that no slash at the end stands for stays in the path.
-/

set_option autoImplicit false

namespace Workday.Client

open Url (IsWeb IsFront Laid compose readAuthority readPathStart readSignificant significant blankEnd opening
  isControl isSlash endsPath written)

variable {scheme : String} {s : String} {u v : Url} {a : Url.Authority}

/-- A URL is that of the feed below a base URL. -/
structure IsFeedOf (u v : Url) : Prop where
  scheme : v.scheme = u.scheme
  username : v.username = u.username
  password : v.password = u.password
  host : v.host = u.host
  port : v.port = u.port
  path : v.path.format = withoutSlashes u.path.format ++ feedPath
  fragment : v.fragment = none

/-- The name of the feed in a directory. -/
def feedName : String := "bank-holidays.json"

/-- The path of the feed is a slash and the name of the feed. -/
theorem feedPath_eq : feedPath = "/" ++ feedName := by decide

theorem toList_feedPath : feedPath.toList = '/' :: feedName.toList := by decide

/-- The name of the feed has no character in it that a reader of URLs would take out, or take for
the end of a part. -/
theorem feedName_plain :
    ∀ c ∈ feedName.toList, isControl c = false ∧ isSlash c = false ∧ endsPath c = false :=
  Json.forall_mem_of_all rfl

/-- The path of the feed goes on to its end. -/
theorem feedName_endsPath : ∀ c ∈ '/' :: feedName.toList, endsPath c = false :=
  Json.forall_mem_of_all rfl

/-- The name of the feed is written in a URL as it is. -/
theorem feedName_encoded : String.ofList (Url.percentEncode .path feedName.toList) = feedName := by
  decide

/-! ## Slashes at the end -/

/-- Before the slashes at its end a text goes on from what does not end with one, so all the slashes are
in the rest. -/
theorem exists_of_append_replicate {front rear text : List Char} {n : Nat}
    (h : front ++ rear = text ++ List.replicate n '/') (hlast : ∀ c ∈ front.getLast?, c ≠ '/') :
    ∃ rest, text = front ++ rest ∧ rear = rest ++ List.replicate n '/' := by
  rcases List.append_eq_append_iff.mp h with ⟨rest, htext, hrear⟩ | ⟨more, hfront, hslashes⟩
  · exact ⟨rest, htext, hrear⟩
  · cases more with
    | nil => exact ⟨[], by simpa using hfront.symm, by simpa using hslashes.symm⟩
    | cons c more =>
      have hend : front.getLast? = some ((c :: more).getLast (List.cons_ne_nil _ _)) := by
        rw [hfront, List.getLast?_append_of_ne_nil _ (List.cons_ne_nil _ _),
          List.getLast?_eq_some_getLast (List.cons_ne_nil _ _)]
      have hmem : (c :: more).getLast (List.cons_ne_nil _ _) ∈ List.replicate n '/' := by
        rw [hslashes]
        exact List.mem_append_left _ (List.getLast_mem _)
      exact absurd (List.eq_of_mem_replicate hmem) (hlast _ hend)

/-- Slashes at the end of a text are dropped, however many there are. -/
theorem rdropWhile_append_replicate (text : List Char) (n : Nat) :
    (text ++ List.replicate n '/').rdropWhile (· == '/') = text.rdropWhile (· == '/') := by
  induction n with
  | zero => rw [List.replicate_zero, List.append_nil]
  | succ n ih =>
    rw [List.replicate_succ', ← List.append_assoc, List.rdropWhile_concat_pos _ _ _ (by decide), ih]

/-- No text is that without its slashes and the path of the feed behind it. -/
theorem rdropWhile_append_feedPath_ne (text : List Char) :
    text.rdropWhile (· == '/') ++ feedPath.toList ≠ text := by
  intro h
  have hfeed : feedPath.toList = text.rtakeWhile (· == '/') := by
    refine (List.append_right_inj (text.rdropWhile (· == '/'))).mp ?_
    rw [h, List.rdropWhile_append_rtakeWhile]
  have hslash : ('b' == '/') = true :=
    List.mem_rtakeWhile_imp (l := text) (p := (· == '/')) (hfeed ▸ by decide)
  exact absurd hslash (by decide)

/-- A text ends with no slash just if a slash behind it is not the second. In this form it is a
condition on what is formatted: no doubled slash at the end. -/
theorem rdropWhile_eq_self_iff_not_suffix (text : List Char) :
    text.rdropWhile (· == '/') = text ↔ ¬ ['/', '/'] <:+ text ++ ['/'] := by
  rw [List.rdropWhile_eq_self_iff]
  constructor
  · rintro h ⟨front, hfront⟩
    have htext : front ++ ['/'] = text := by
      refine (List.append_left_inj ['/']).mp ?_
      rw [List.append_assoc]
      exact hfront
    subst htext
    exact h (by simp) (by simp)
  · intro h hne hslash
    refine h ⟨text.dropLast, ?_⟩
    have hlast : text.getLast hne = '/' := beq_iff_eq.mp hslash
    have htext : text.dropLast ++ ['/'] = text := hlast ▸ List.dropLast_append_getLast hne
    calc text.dropLast ++ ['/', '/'] = (text.dropLast ++ ['/']) ++ ['/'] := by simp
      _ = text ++ ['/'] := by rw [htext]

/-- The feed is below a base just if its directory is the base without slashes at the end. -/
theorem format_feed_eq_iff {names base : List String} :
    (Url.Path.segments (names ++ [feedName])).format =
        withoutSlashes (Url.Path.segments base).format ++ feedPath ↔
      written names = (written base).rdropWhile (· == '/') := by
  have hfeed : written [feedName] = feedPath.toList := by decide
  rw [← String.toList_inj, String.toList_append, toList_withoutSlashes, Url.toList_format,
    Url.toList_format, Url.written_append, hfeed, List.append_left_inj]

/-- Slashes at the end of the base aside, that asks for a directory without an empty name at its end. -/
theorem format_feed_eq_iff_not_suffix {directory : List String} {k : Nat} :
    (Url.Path.segments (directory ++ [feedName])).format =
        withoutSlashes (Url.Path.segments (directory ++ List.replicate k "")).format ++ feedPath ↔
      ¬ ['/', '/'] <:+ (Url.Path.segments (directory ++ [""])).format.toList := by
  have hslash : written [""] = ['/'] := rfl
  rw [format_feed_eq_iff, Url.written_append, Url.written_replicate, rdropWhile_append_replicate,
    Url.toList_format, Url.written_append, hslash, ← rdropWhile_eq_self_iff_not_suffix]
  exact eq_comm

/-! ## What is requested -/

/-- A URL is asked for with its path. -/
theorem path_requestUrl (url : Url) : (requestUrl url).path = url.path := by
  unfold requestUrl
  split
  · rfl
  · split <;> rfl

/-- What is requested has the path of the endpoint. -/
theorem path_of_target {endpoint : String} {t : Url} (hv : Url.read endpoint = .ok v)
    (ht : target endpoint = .ok t) : t.path = v.path := by
  unfold target at ht
  simp only [hv] at ht
  split at ht
  · cases ht
  · split at ht
    · cases ht
    · cases ht
      exact path_requestUrl v

/-! ## The parts of the endpoint -/

/-- A text with an authority in it is not blank. -/
theorem significant_ne_nil {front authority rest : List Char} (hs : significant s = front ++ (authority ++ rest))
    (hne : authority ≠ []) : significant s ≠ [] := by
  rw [hs]
  exact List.append_ne_nil_of_right_ne_nil _ (List.append_ne_nil_of_left_ne_nil hne _)

/-- What is read of a text that a path is added to. Controls at its start are still dropped; those at
its end are not, because they no longer stand at the end. -/
theorem significant_withoutSlashes {name : String} (hname : ∀ c ∈ name.toList, isControl c = false) :
    significant (withoutSlashes s ++ ("/" ++ name)) =
      opening (withoutSlashes s).toList ++ '/' :: name.toList := by
  have hall : ∀ c ∈ ("/" ++ name).toList, isControl c = false := by
    intro c hc
    rw [String.toList_append] at hc
    rcases List.mem_append.mp hc with h | h
    · rw [List.mem_singleton.mp h]
      decide
    · exact hname c h
  have hkept : ∀ c ∈ ("/" ++ name).toList, Url.isKept c = true := by
    intro c hc
    have hdiffers : ∀ d, isControl d = true → (c != d) = true := by
      intro d hd
      exact bne_iff_ne.mpr (Url.ne_of_isControl hd (hall c hc)).symm
    rw [Url.isKept, hdiffers _ (by decide), hdiffers _ (by decide), hdiffers _ (by decide)]
    rfl
  rw [Url.significant_append (fun c hc => hall c (List.mem_of_mem_head? hc)) (by simp)
    (fun c hc => hall c (List.mem_of_getLast? hc)) hkept, String.toList_append]
  rfl

/-- A tail gives a query or a fragment. -/
theorem tail_eq_nil {tail : List Char} (htail : ∀ c ∈ tail.head?, endsPath c = true)
    (hquery : (Url.readTail scheme tail).1 = none) (hfragment : (Url.readTail scheme tail).2 = none) :
    tail = [] := by
  cases tail with
  | nil => rfl
  | cons c tail =>
    have hc := htail c rfl
    simp only [endsPath, Bool.or_eq_true, beq_iff_eq] at hc
    rcases hc with rfl | rfl
    · simp [Url.readTail, Url.cutAt] at hquery
    · simp [Url.readTail, Url.cutAt] at hfragment

/-- A query or a fragment takes what is added: the path stays as it is. The text is read again with the
same parts up to the sign that begins the tail, and everything behind that sign is the tail. -/
theorem read_endpoint_of_tail (hu : Url.read s = .ok u) (hweb : IsWeb u.scheme)
    (h : u.query ≠ none ∨ u.fragment ≠ none) :
    ∃ v, Url.read (withoutSlashes s ++ feedPath) = .ok v ∧ v.path = u.path := by
  obtain ⟨front, authority, path, tail, a, hs, hlaid, hne, hread, hparts, hfront⟩ :=
    Url.exists_parts hu hweb
  cases tail with
  | nil =>
    rw [hparts] at h
    exact absurd h (by simp [compose, Url.readTail, Url.cutAt])
  | cons c tail =>
    have hc : endsPath c = true := hlaid.tailStart c rfl
    have hends := significant_append_blankEnd_eq (significant_ne_nil hs hne)
    have hassoc : significant s ++ blankEnd s.toList =
        (front ++ (authority ++ (path ++ [c]))) ++ (tail ++ blankEnd s.toList) := by
      rw [hs]
      simp
    rw [hassoc] at hends
    -- the sign is no slash, so it is kept when the slashes at the end are taken off
    obtain ⟨rest, hrest, -⟩ := exists_of_append_replicate hends (by
      intro d hd
      simp at hd
      rw [← hd]
      rintro rfl
      exact absurd hc (by decide))
    have hlaid' : Laid authority path (c :: (rest ++ feedPath.toList)) :=
      ⟨hlaid.plainAuthority, hlaid.plainPath, hlaid.rootedPath, fun d hd => hlaid.tailStart d hd⟩
    refine ⟨compose u.scheme a path (c :: (rest ++ feedPath.toList)), ?_, ?_⟩
    · have hsignificant : significant (withoutSlashes s ++ feedPath) =
          front ++ (authority ++ (path ++ (c :: (rest ++ feedPath.toList)))) := by
        rw [feedPath_eq, significant_withoutSlashes fun d hd => (feedName_plain d hd).1, hrest,
          ← feedPath_eq, toList_feedPath]
        simp
      rw [Url.read_eq, hsignificant, hfront _ _ _ hlaid' hne, hread]
      rfl
    · rw [hparts]
      rfl

/-- Without a query and a fragment, what is added comes behind the path and the blanks at its end. The
slashes at the end are taken off the text as it is, so blanks behind them keep them from being taken. -/
theorem exists_opening (hu : Url.read s = .ok u) (hweb : IsWeb u.scheme) (hquery : u.query = none)
    (hfragment : u.fragment = none) :
    ∃ front authority path a rest, Laid authority path [] ∧ authority ≠ [] ∧
      readAuthority u.scheme authority true = .ok a ∧ u = compose u.scheme a path [] ∧
      opening (withoutSlashes s).toList = front ++ (authority ++ rest) ∧
      path ++ blankEnd s.toList = rest ++ List.replicate (endSlashes s) '/' ∧
      IsFront u.scheme front := by
  obtain ⟨front, authority, path, tail, a, hs, hlaid, hne, hread, hparts, hfront⟩ :=
    Url.exists_parts hu hweb
  have htail : tail = [] := by
    rw [hparts] at hquery hfragment
    exact tail_eq_nil hlaid.tailStart hquery hfragment
  subst htail
  have hends := significant_append_blankEnd_eq (significant_ne_nil hs hne)
  have hassoc : significant s ++ blankEnd s.toList =
      (front ++ authority) ++ (path ++ blankEnd s.toList) := by
    rw [hs]
    simp
  rw [hassoc] at hends
  -- an authority has no slash at its end, so only slashes of the path and of the blanks are taken off
  obtain ⟨rest, hrest, hpath⟩ := exists_of_append_replicate hends (by
    intro c hc
    rw [List.getLast?_append_of_ne_nil _ hne] at hc
    have hplain := hlaid.plainAuthority c (List.mem_of_getLast? hc)
    rintro rfl
    exact absurd hplain (by decide))
  refine ⟨front, authority, path, a, rest, hlaid, hne, hread, hparts, ?_, hpath, hfront⟩
  rw [hrest, List.append_assoc]

/-- Without blanks at the end, a name added behind a slash is in the directory of the path. The name may
be empty, which gives the directory itself. -/
theorem exists_directory_of_read (hu : Url.read s = .ok u) (hweb : IsWeb u.scheme)
    (hquery : u.query = none) (hfragment : u.fragment = none) (hblank : blankEnd s.toList = []) :
    ∃ directory k, u.path = .segments (directory ++ List.replicate k "") ∧
      ∀ name : String,
        (∀ c ∈ name.toList, isControl c = false ∧ isSlash c = false ∧ endsPath c = false) →
        Url.isDots name.toList = false →
        Url.read (withoutSlashes s ++ ("/" ++ name)) = .ok { u with
          path := .segments
            (directory ++ [String.ofList (Url.percentEncode .path name.toList)]) } := by
  obtain ⟨front, authority, path, a, rest, hlaid, hne, hread, hparts, hopening, hpath, hfront⟩ :=
    exists_opening hu hweb hquery hfragment
  rw [hblank, List.append_nil] at hpath
  subst hpath
  have hrooted : ∀ c ∈ rest.head?, isSlash c = true := by
    intro c hc
    obtain ⟨d, rest', rfl⟩ := List.exists_cons_of_ne_nil (l := rest) (by rintro rfl; cases hc)
    exact hlaid.rootedPath c hc
  obtain ⟨directory, k, hbase, hname⟩ := Url.exists_directory hweb hrooted (endSlashes s)
  refine ⟨directory, k, by rw [hparts]; exact hbase, fun name hplain hdots => ?_⟩
  have hlaid' : Laid authority (rest ++ '/' :: name.toList) [] := by
    refine ⟨hlaid.plainAuthority, fun c hc => ?_, fun c hc => ?_, hlaid.tailStart⟩
    · rcases List.mem_append.mp hc with h | h
      · exact hlaid.plainPath c (List.mem_append_left _ h)
      · rcases List.mem_cons.mp h with rfl | h
        · decide
        · exact (hplain c h).2.2
    · cases rest with
      | nil => cases hc; rfl
      | cons d rest => exact hrooted c hc
  rw [Url.read_eq, significant_withoutSlashes fun c hc => (hplain c hc).1, hopening,
    List.append_assoc, List.append_assoc, hfront.read_of_path hlaid' hne, hread]
  rw [hparts]
  simp only [Except.map, compose]
  rw [hname _ (fun c hc => (hplain c hc).2.1) hdots]

/-- Blanks at the end of a base URL without a path would be part of its authority, which cannot be. -/
theorem read_blanks_in_authority {front authority blanks : List Char} {c : Char}
    (hfront : IsFront scheme front) (hweb : IsWeb scheme)
    (hplain : ∀ d ∈ authority, Url.endsAuthority true d = false) (hne : authority ≠ [])
    (hcontrol : ∀ d ∈ blanks ++ [c], isControl d = true) :
    readSignificant (front ++ ((authority ++ (blanks ++ [c])) ++ '/' :: feedName.toList)) ≠ .ok v := by
  have hlaid : Laid (authority ++ (blanks ++ [c])) ('/' :: feedName.toList) [] := by
    refine ⟨fun d hd => ?_, feedName_endsPath, fun d hd => by cases hd; rfl, fun d hd => by cases hd⟩
    rcases List.mem_append.mp hd with hd | hd
    · exact hplain d hd
    · exact Url.endsAuthority_of_isControl (hcontrol d hd)
  have hc : isControl c = true := hcontrol c (by simp)
  rw [hfront.read_of_path hlaid (List.append_ne_nil_of_left_ne_nil hne _)]
  intro hv
  cases hauth : readAuthority scheme (authority ++ (blanks ++ [c])) true with
  | error fault =>
    rw [hauth] at hv
    cases hv
  | ok a' =>
    rw [← List.append_assoc] at hauth
    exact Url.readAuthority_concat hweb.isSpecial hc hauth

/-- Blanks at the end of a base URL with a path are part of its last name, which stays a name of its
own. -/
theorem not_isFeedOf_of_blanks_in_path {front authority path blanks : List Char} {c : Char}
    (hfront : IsFront u.scheme front) (hweb : IsWeb u.scheme) (hlaid : Laid authority path [])
    (hne : authority ≠ []) (hpath : path ≠ []) (hread : readAuthority u.scheme authority true = .ok a)
    (hparts : u = compose u.scheme a path [])
    (hcontrol : ∀ d ∈ blanks ++ [c], isControl d = true)
    (hv : readSignificant (front ++ (authority ++ (path ++ (blanks ++ [c]) ++ '/' :: feedName.toList))) =
      .ok v) : ¬ IsFeedOf u v := by
  obtain ⟨slash, path, rfl⟩ := List.exists_cons_of_ne_nil hpath
  have hslash : isSlash slash = true := hlaid.rootedPath slash rfl
  have hc : isControl c = true := hcontrol c (by simp)
  obtain ⟨before, after, hbefore, hafter, hlonger⟩ := Url.exists_longer hweb hslash hc path blanks
    (fun d hd => hcontrol d (List.mem_append_left _ hd)) (fun d hd => (feedName_plain d hd).2.1)
    (by decide)
  have hlaid' : Laid authority (slash :: (path ++ (blanks ++ [c])) ++ '/' :: feedName.toList) [] := by
    refine ⟨hlaid.plainAuthority, fun d hd => ?_, fun d hd => hlaid.rootedPath d hd,
      hlaid.tailStart⟩
    rw [← List.cons_append] at hd
    rcases List.mem_append.mp hd with hd | hd
    · rcases List.mem_append.mp hd with hd | hd
      · exact hlaid.plainPath d hd
      · exact Url.endsPath_of_isControl (hcontrol d hd)
    · exact feedName_endsPath d hd
  rw [List.cons_append, hfront.read_of_path hlaid' hne, hread] at hv
  cases hv
  intro hfeed
  have hformat := hfeed.path
  rw [hparts] at hformat
  simp only [compose, hbefore, hafter, feedName_encoded, format_feed_eq_iff] at hformat
  -- the path before the last name is longer than the base path without its slashes
  have hshort := (List.rdropWhile_prefix (· == '/') (l := written before)).length_le
  rw [← hformat] at hshort
  omega

/-- With blanks at the end, what is added comes too late: they are no longer at the end of the text, and
become a part of its authority or of its last segment. -/
theorem not_isFeedOf_of_blank (hu : Url.read s = .ok u) (hweb : IsWeb u.scheme)
    (hquery : u.query = none) (hfragment : u.fragment = none) (hblank : blankEnd s.toList ≠ [])
    (hv : Url.read (withoutSlashes s ++ feedPath) = .ok v) : ¬ IsFeedOf u v := by
  obtain ⟨front, authority, path, a, rest, hlaid, hne, hread, hparts, hopening, hpath, hfront⟩ :=
    exists_opening hu hweb hquery hfragment
  have hrest : rest = path ++ blankEnd s.toList := by
    rw [hpath, (blankEnd_eq_nil_or s).resolve_left hblank, List.replicate_zero, List.append_nil]
  obtain ⟨blanks, c, hend⟩ := (List.eq_nil_or_concat _).resolve_left hblank
  have hcontrol : ∀ d ∈ blanks ++ [c], isControl d = true := by
    rw [← List.concat_eq_append, ← hend]
    exact fun d hd => Url.isControl_of_mem_blankEnd hd
  rw [Url.read_eq, feedPath_eq, significant_withoutSlashes fun d hd => (feedName_plain d hd).1,
    hopening, hrest, hend, List.concat_eq_append] at hv
  by_cases hnone : path = []
  · subst hnone
    rw [List.nil_append, List.append_assoc] at hv
    exact absurd hv (read_blanks_in_authority hfront hweb hlaid.plainAuthority hne hcontrol)
  · rw [List.append_assoc, List.append_assoc authority] at hv
    exact not_isFeedOf_of_blanks_in_path hfront hweb hlaid hne hnone hread hparts hcontrol hv

/-- A base URL that passes the check and is of the web has the feed below it, and requests go there,
just if it has no query and no fragment, does not end with blanks, and with one slash at its end does
not end with two. A query or a fragment keeps the path of the base URL itself. -/
theorem feed_below_base_iff (s : Settings) (h : s.check = .ok ()) :
    ∃ u, Url.read s.feed.url = .ok u ∧ (u.scheme = "http" ∨ u.scheme = "https" →
      ((∃ v, Url.read (ofSettings s.feed).endpoint = .ok v ∧ IsFeedOf u v ∧
          ∀ t, target (ofSettings s.feed).endpoint = .ok t → t.path = v.path) ↔
        u.query = none ∧ u.fragment = none ∧ blankEnd s.feed.url.toList = [] ∧
          ∀ d, Url.read (withoutSlashes s.feed.url ++ "/") = .ok d →
            ¬ ['/', '/'] <:+ d.path.format.toList) ∧
      (u.query ≠ none ∨ u.fragment ≠ none →
        ∃ v, Url.read (ofSettings s.feed).endpoint = .ok v ∧ v.path = u.path)) := by
  obtain ⟨⟨u, hu⟩, -⟩ := Settings.check_eq_ok_iff.mp h
  refine ⟨u, hu, fun hweb => ⟨⟨?_, ?_⟩, read_endpoint_of_tail hu hweb⟩⟩
  · rintro ⟨v, hv, hfeed, -⟩
    have htail : ¬ (u.query ≠ none ∨ u.fragment ≠ none) := by
      intro htail
      obtain ⟨v', hv', hpath⟩ := read_endpoint_of_tail hu hweb htail
      cases hv.symm.trans hv'
      have hformat := congrArg String.toList hfeed.path
      rw [hpath, String.toList_append, toList_withoutSlashes] at hformat
      exact rdropWhile_append_feedPath_ne _ hformat.symm
    simp only [not_or, not_not] at htail
    -- blanks would be part of a name of the path; what is left is a text that ends where its path does
    have hblank : blankEnd s.feed.url.toList = [] :=
      by_contra fun hblank => not_isFeedOf_of_blank hu hweb htail.1 htail.2 hblank hv hfeed
    obtain ⟨directory, k, hbase, hname⟩ :=
      exists_directory_of_read hu hweb htail.1 htail.2 hblank
    refine ⟨htail.1, htail.2, hblank, fun d hd => ?_⟩
    have hfeedRead := hname feedName feedName_plain (by decide)
    rw [← feedPath_eq, feedName_encoded] at hfeedRead
    cases hv.symm.trans hfeedRead
    -- with one slash at its end the base is the directory that the feed is in
    cases hd.symm.trans (hname "" (by simp) (by decide))
    have hformat := hfeed.path
    rw [hbase] at hformat
    exact format_feed_eq_iff_not_suffix.mp hformat
  · rintro ⟨hquery, hfragment, hblank, hslashes⟩
    obtain ⟨directory, k, hbase, hname⟩ := exists_directory_of_read hu hweb hquery hfragment hblank
    have hfeedRead := hname feedName feedName_plain (by decide)
    rw [← feedPath_eq, feedName_encoded] at hfeedRead
    refine ⟨_, hfeedRead, ⟨rfl, rfl, rfl, rfl, rfl, ?_, hfragment⟩,
      fun t ht => path_of_target hfeedRead ht⟩
    rw [hbase]
    exact format_feed_eq_iff_not_suffix.mpr (hslashes _ (hname "" (by simp) (by decide)))

/-- Dots and slashes at the end do no harm. -/
theorem feed_below_base_iff_behind_dots :
    let s : Settings := { feed := { url := " HTTP://me@h:8080/a/../uk//" } }
    s.check = .ok () ∧ ∃ u v, Url.read s.feed.url = .ok u ∧ u.scheme = "http" ∧
      Url.read (ofSettings s.feed).endpoint = .ok v ∧ IsFeedOf u v ∧
      v.path.format = "/uk/bank-holidays.json" := by
  intro s
  let base : Url :=
    ⟨"http", "me", "", some (.domain "h"), some 8080, .segments ["uk", "", ""], none, none⟩
  let below : Url := { base with path := .segments ["uk", ""] }
  have hbase : Url.read s.feed.url = .ok base := by decide +kernel
  have hbelow : Url.read (withoutSlashes s.feed.url ++ "/") = .ok below := by decide +kernel
  have hcheck : s.check = .ok () := by decide +kernel
  have hblank : blankEnd s.feed.url.toList = [] := by decide +kernel
  obtain ⟨u, hu, hiff⟩ := feed_below_base_iff s hcheck
  cases hbase.symm.trans hu
  obtain ⟨v, hv, hfeed, -⟩ := (hiff (Or.inl rfl)).1.mpr ⟨rfl, rfl, hblank, fun d hd => by
    cases hbelow.symm.trans hd
    decide⟩
  refine ⟨hcheck, base, v, hu, rfl, hv, hfeed, ?_⟩
  rw [hfeed.path]
  decide

/-- A fragment is no part of a request: the feed's path is not asked for. -/
theorem fragment_takes_the_feed_path :
    let s : Settings := { feed := { url := "http://h#f" } }
    s.check = .ok () ∧ ∃ u t, Url.read s.feed.url = .ok u ∧ u.scheme = "http" ∧
      (¬ ∃ v, Url.read (ofSettings s.feed).endpoint = .ok v ∧ IsFeedOf u v) ∧
      target (ofSettings s.feed).endpoint = .ok t ∧ t.path.format = "/" := by
  intro s
  let u : Url := ⟨"http", "", "", some (.domain "h"), none, .segments [""], none, some "f"⟩
  let v : Url := { u with fragment := some "f/bank-holidays.json" }
  have hu : Url.read s.feed.url = .ok u := by decide +kernel
  have hv : Url.read (ofSettings s.feed).endpoint = .ok v := by decide +kernel
  have hcheck : s.check = .ok () := by decide +kernel
  have ht : target (ofSettings s.feed).endpoint = .ok v := by decide +kernel
  refine ⟨hcheck, u, v, hu, rfl, ?_, ht, by decide⟩
  rintro ⟨v', hv', hfeed⟩
  cases hv.symm.trans hv'
  exact absurd hfeed.fragment (by decide)

end Workday.Client
