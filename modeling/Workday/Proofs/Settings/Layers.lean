import Workday.Proofs.FileTree.Paths
import Workday.Proofs.Settings.Check
import Workday.Settings.Load
import Mathlib.Data.List.Find

/-!
# Which layer tells the settings

A run takes its settings from one file or from the defaults. What that file gives is then changed in
one place by the variable for the URL, and checked. The rest of the files and of the variables has no
say: a file that is chosen and gives no settings ends the matter.
-/

set_option autoImplicit false

namespace Workday

/-- Two environments with the same files that differ at most in the value of a variable. -/
structure Environment.SameBut (name : String) (e e' : Environment) : Prop where
  files : e'.files = e.files
  lookup (other : String) (h : other ≠ name) : e'.lookup other = e.lookup other

namespace Settings

open FileTree (joined)

variable {e e' : Environment} {asked : Option String} {path text url : String} {s s' : Settings}

/-- The file that tells the settings, the ones asked for before all others. -/
inductive Tells (e : Environment) : Option String → String → Prop where
  | asked (path : String) : Tells e (some path) path
  | inWorkingDirectory (h : e.files.has localFile = true) : Tells e none localFile
  | inSettingsDirectory (directory : String) (hlocal : e.files.has localFile = false)
      (h : e.settingsDirectory? = some directory)
      (hthere : e.files.has (joined (joined directory "san-working-days") "config.yaml") = true) :
      Tells e none (joined (joined directory "san-working-days") "config.yaml")

/-- The files that are asked for at all: none behind the first that is there. -/
def consulted (e : Environment) (asked : Option String) : List String :=
  match asked with
  | some path => [path]
  | none => if e.files.has localFile then [localFile] else candidates e

/-- Settings with the URL that a variable gives, if they can be used. -/
def settle (value : Option String) (found : Settings) : Except LoadFault Settings :=
  let s := value.elim found found.withUrl
  match s.check with
  | .ok _ => .ok s
  | .error fault => .error (.unusable fault)

/-- What the layer of files gives. -/
def found (e : Environment) (asked : Option String) : Except LoadFault Settings :=
  match choose e asked with
  | .error fault => .error fault
  | .ok none => .ok {}
  | .ok (some path) => readFile e path

/-- The variable comes after the files, and the check after the variable. So what a file gives and what
becomes of it can be told apart. -/
theorem load_eq_settle (e : Environment) (asked : Option String) :
    load e asked = (found e asked).bind (settle (e.lookup urlVariable)) := by
  unfold load found settle
  cases choose e asked with
  | error fault => rfl
  | ok chosen =>
    cases chosen with
    | none =>
      simp only [bind, Except.bind, pure, Except.pure]
      -- the defaults could be checked here and now, which is not to the point
      generalize ({} : Settings) = s
      cases e.lookup urlVariable with
      | none =>
        simp only [Option.elim_none]
        cases s.check <;> rfl
      | some url =>
        simp only [Option.elim_some]
        cases (s.withUrl url).check <;> rfl
    | some path =>
      simp only [bind, Except.bind, pure, Except.pure]
      cases readFile e path with
      | error fault => rfl
      | ok s =>
        cases e.lookup urlVariable with
        | none =>
          simp only [Option.elim_none]
          cases s.check <;> rfl
        | some url =>
          simp only [Option.elim_some]
          cases (s.withUrl url).check <;> rfl

/-- The files that may be chosen from are looked at up to the first that is there. -/
theorem choose_of_tells (h : Tells e asked path) (hthere : e.files.has path = true) :
    choose e asked = .ok (some path) := by
  cases h with
  | asked => simp only [choose, hthere, if_true]
  | inWorkingDirectory => simp only [choose, candidates, List.find?_cons, hthere]
  | inSettingsDirectory directory hlocal hdirectory =>
    simp only [choose, candidates, hdirectory, Option.map_some, Option.toList_some,
      List.find?_cons, hlocal, hthere]

/-- If no file tells the settings, none is chosen, and that is no failure. A path that is asked for
always tells them, be there a file or not. -/
theorem choose_of_no_tells (h : ∀ path, ¬ Tells e asked path) : choose e asked = .ok none := by
  cases asked with
  | some path => exact absurd (.asked path) (h path)
  | none =>
    have hlocal : e.files.has localFile = false :=
      Bool.eq_false_iff.mpr fun hthere => h _ (.inWorkingDirectory hthere)
    cases hdirectory : e.settingsDirectory? with
    | none => simp [choose, candidates, hlocal, hdirectory]
    | some directory =>
      have hno : e.files.has (joined (joined directory "san-working-days") "config.yaml") = false :=
        Bool.eq_false_iff.mpr fun hthere => h _ (.inSettingsDirectory directory hlocal hdirectory hthere)
      simp [choose, candidates, hlocal, hdirectory, hno]

/-- The file that tells the settings, if it is there, is the one that is read. -/
theorem found_of_tells (h : Tells e asked path) (hthere : e.files.has path = true) :
    found e asked = readFile e path := by
  simp only [found, choose_of_tells h hthere]

/-- A file that leads nowhere tells the settings only if it is asked for. -/
theorem found_of_missing (h : Tells e asked path) (hmissing : e.files.has path = false) :
    found e asked = .error (.notFound path) := by
  cases h with
  | asked => simp only [found, choose, hmissing, Bool.false_eq_true, if_false]
  | inWorkingDirectory hthere => exact absurd hthere (by simp [hmissing])
  | inSettingsDirectory directory _ _ hthere => exact absurd hthere (by simp [hmissing])

/-! ## Changes that no file asked for takes notice of -/

/-- Where the files that are asked for give the same, the same one is chosen. A file in the working
directory keeps all others from being asked for, so nothing need be known of them then. -/
theorem found_of_agree
    (hgives : ∀ path ∈ consulted e asked,
      e'.files.has path = e.files.has path ∧ e'.files.readText path = e.files.readText path)
    (hcandidates : asked = none → e.files.has localFile = false → candidates e' = candidates e) :
    found e' asked = found e asked := by
  have hread : ∀ path ∈ consulted e asked, readFile e' path = readFile e path := by
    intro path hpath
    simp only [readFile, (hgives path hpath).2]
  cases asked with
  | some path =>
    have hpath : path ∈ consulted e (some path) := List.mem_singleton_self path
    simp only [found, choose, (hgives path hpath).1]
    cases e.files.has path with
    | false => rfl
    | true => exact hread path hpath
  | none =>
    cases hlocal : e.files.has localFile with
    | true =>
      have hpath : localFile ∈ consulted e none := by simp [consulted, hlocal]
      have hlocal' : e'.files.has localFile = true := (hgives _ hpath).1.trans hlocal
      rw [found_of_tells (.inWorkingDirectory hlocal') hlocal',
        found_of_tells (.inWorkingDirectory hlocal) hlocal, hread _ hpath]
    | false =>
      have hall : consulted e none = candidates e := by simp [consulted, hlocal]
      rw [hall] at hgives hread
      have hchoose : choose e' none = choose e none := by
        simp only [choose, hcandidates rfl hlocal]
        congr 1
        exact List.find?_congr fun path hpath => (hgives path hpath).1
      unfold found
      rw [hchoose]
      cases hfound : (candidates e).find? e.files.has with
      | none => simp only [choose, hfound]
      | some path =>
        simp only [choose, hfound]
        exact hread path (List.mem_of_find?_eq_some hfound)

/-- Changes off the way of every file that is asked for make no difference. -/
theorem found_of_sameOff {qs : List Place} (hfiles : FileTree.SameOff qs e.files e'.files)
    (hoff : ∀ path ∈ consulted e asked, ∀ p ∈ e.files.way path, ∀ q ∈ qs, ¬ q <+: p)
    (hcandidates : asked = none → e.files.has localFile = false → candidates e' = candidates e) :
    found e' asked = found e asked := by
  refine found_of_agree (fun path hpath => ?_) hcandidates
  have hway := hfiles.agree (hoff path hpath)
  exact ⟨FileTree.has_of_agree hfiles.workingDirectory hway,
    FileTree.readText_of_agree hfiles.workingDirectory hway⟩

/-- The variable for the URL has no part in where the files are looked for. -/
theorem candidates_of_sameBut (h : Environment.SameBut urlVariable e e') :
    candidates e' = candidates e := by
  have hset : e'.lookup "XDG_CONFIG_HOME" = e.lookup "XDG_CONFIG_HOME" := h.lookup _ (by decide)
  have hhome : e'.lookup "HOME" = e.lookup "HOME" := h.lookup _ (by decide)
  simp only [candidates, Environment.settingsDirectory?, hset, hhome]

/-- The layer of files does not depend on the variable for the URL. -/
theorem found_of_sameBut (h : Environment.SameBut urlVariable e e') :
    found e' asked = found e asked :=
  found_of_agree (fun path _ => by rw [h.files]; exact ⟨rfl, rfl⟩) fun _ _ => candidates_of_sameBut h

/-! ## What is checked -/

/-- What was found is settled with the URL of the variable, if there is one, and passes the check. -/
theorem settle_eq_ok_iff {value : Option String} :
    settle value s = .ok s' ↔ s' = value.elim s s.withUrl ∧ s'.check = .ok () := by
  cases hcheck : (value.elim s s.withUrl).check with
  | error fault =>
    simp only [settle, hcheck, reduceCtorEq, false_iff]
    rintro ⟨rfl, hok⟩
    cases hcheck.symm.trans hok
  | ok _ =>
    simp only [settle, hcheck, Except.ok.injEq]
    constructor
    · rintro rfl
      exact ⟨rfl, hcheck⟩
    · rintro ⟨rfl, -⟩
      rfl

/-- With a URL of its own only the rest of what was found is checked. -/
theorem settle_url_eq_ok_iff :
    settle (some url) s = .ok s' ↔
      s' = s.withUrl url ∧ (∃ u, Url.read url = .ok u) ∧ s.feed.timeoutSecs ≠ 0 ∧
        s.feed.healthTimeoutSecs ≠ 0 ∧ s.feed.ttlSecs ≤ maxTtlSecs := by
  have hcheck := @check_eq_ok_iff (s.withUrl url)
  simp only [withUrl] at hcheck
  rw [settle_eq_ok_iff, Option.elim_some]
  constructor
  · rintro ⟨rfl, h⟩
    exact ⟨rfl, hcheck.mp h⟩
  · rintro ⟨rfl, h⟩
    exact ⟨rfl, hcheck.mpr h⟩

/-! ## Loading -/

/-- Settings come from one file, or from none: what the file gives is changed by the variable alone and
then checked, and a file that gives no settings is the end. Whatever is changed off the way of the
files that are asked for makes no difference, and neither do the variables that tell where a file
would be that is not asked for. What is loaded passes the check and can be used. -/
theorem load_rests_on_one_file (e : Environment) (asked : Option String) :
    (∀ path, Tells e asked path → ∀ e', e.SameBut urlVariable e' →
      (e.files.has path = false → load e' asked = .error (.notFound path)) ∧
      (∀ fault, e.files.has path = true → e.files.readText path = .error fault →
        load e' asked = .error (.unreadable path fault)) ∧
      (∀ text fault, e.files.readText path = .ok text → read text = .error fault →
        load e' asked = .error (.malformed path fault)) ∧
      (∀ text s, e.files.readText path = .ok text → read text = .ok s →
        load e' asked = settle (e'.lookup urlVariable) s)) ∧
    ((∀ path, ¬ Tells e asked path) → ∀ e', e.SameBut urlVariable e' →
      load e' asked = settle (e'.lookup urlVariable) {}) ∧
    (∀ e' qs, FileTree.SameOff qs e.files e'.files →
      (∀ path ∈ consulted e asked, ∀ p ∈ e.files.way path, ∀ q ∈ qs, ¬ q <+: p) →
      (asked = none → e.files.has localFile = false →
        e'.settingsDirectory? = e.settingsDirectory?) →
      e'.lookup urlVariable = e.lookup urlVariable → load e' asked = load e asked) ∧
    (∀ s s' url, settle (some url) s = .ok s' ↔
      s' = s.withUrl url ∧ (∃ u, Url.read url = .ok u) ∧ s.feed.timeoutSecs ≠ 0 ∧
        s.feed.healthTimeoutSecs ≠ 0 ∧ s.feed.ttlSecs ≤ maxTtlSecs) ∧
    ∀ s, load e asked = .ok s →
      s.check = .ok () ∧ s.feed.ttl = .ok (s.feed.ttlSecs * 1000 : Nat) := by
  refine ⟨fun path htells e' hsame => ?_, fun hnone e' hsame => ?_,
    fun e' qs hfiles hoff hdirectory hvariable => ?_, fun s s' url => settle_url_eq_ok_iff,
    fun s hload => ?_⟩
  · have hload : load e' asked = (found e asked).bind (settle (e'.lookup urlVariable)) := by
      rw [load_eq_settle, found_of_sameBut hsame]
    refine ⟨fun hmissing => ?_, fun fault hthere hread => ?_, fun text fault hread hbad => ?_,
      fun text s hread hgood => ?_⟩
    · rw [hload, found_of_missing htells hmissing, Except.bind]
    · rw [hload, found_of_tells htells hthere]
      simp only [readFile, hread, Except.bind]
    · rw [hload, found_of_tells htells (FileTree.has_of_readText hread)]
      simp only [readFile, hread, hbad, Except.mapError, Except.bind]
    · rw [hload, found_of_tells htells (FileTree.has_of_readText hread)]
      simp only [readFile, hread, hgood, Except.mapError, Except.bind]
  · have hnothing : found e asked = .ok {} := by simp only [found, choose_of_no_tells hnone]
    rw [load_eq_settle, found_of_sameBut hsame, hnothing, Except.bind]
  · -- without a file in the working directory the variables tell where to look, and only then do they
    -- count
    have hcandidates : asked = none → e.files.has localFile = false → candidates e' = candidates e :=
      fun hasked hlocal => by rw [candidates, candidates, hdirectory hasked hlocal]
    rw [load_eq_settle, load_eq_settle, hvariable, found_of_sameOff hfiles hoff hcandidates]
  · rw [load_eq_settle] at hload
    cases hfound : found e asked with
    | error fault =>
      rw [hfound] at hload
      cases hload
    | ok given =>
      rw [hfound, Except.bind] at hload
      obtain ⟨-, hcheck⟩ := settle_eq_ok_iff.mp hload
      exact ⟨hcheck, ttl_of_check hcheck⟩

/-- Only the file in the working directory is there. It gives a URL that cannot be used. -/
def oneFile : FileTree where
  entries :=
    [(["home", "san-working-days.yaml"], .file (Text.utf8 "bank_holidays: {url: nonsense}")),
      (["etc", "san-working-days"], .directory)]
  workingDirectory := ["home"]

/-- With the variable set the URL in the file makes no difference, and neither does a file that is put
where one would be looked for without it. -/
theorem load_rests_on_one_file_with_a_broken_one :
    let e : Environment := ⟨[("XDG_CONFIG_HOME", "/etc")], oneFile⟩
    let e₁ : Environment := ⟨[(urlVariable, "http://h"), ("XDG_CONFIG_HOME", "/etc")], oneFile⟩
    let broken : Place := ["etc", "san-working-days", "config.yaml"]
    let e₂ : Environment := { e₁ with files := oneFile.put broken (.file (Text.utf8 "[")) }
    Tells e none localFile ∧ Environment.SameBut urlVariable e e₁ ∧
      FileTree.SameOff [broken] e₁.files e₂.files ∧
      (∀ path ∈ consulted e₁ none, ∀ p ∈ e₁.files.way path, ∀ q ∈ [broken], ¬ q <+: p) ∧
      (∃ s, load e₁ none = .ok s ∧ s.feed.url = "http://h") ∧ load e₂ none = load e₁ none := by
  intro e e₁ broken e₂
  have htells : Tells e none localFile := .inWorkingDirectory (by decide +kernel)
  have hsame : Environment.SameBut urlVariable e e₁ := by
    refine ⟨rfl, fun other hother => ?_⟩
    have hapart : (other == urlVariable) = false := by simpa using hother
    simp only [Environment.lookup, e, e₁, List.lookup_cons, hapart]
  have hoff : FileTree.SameOff [broken] e₁.files e₂.files :=
    FileTree.sameOff_put _ (by decide +kernel)
  have hway : ∀ path ∈ consulted e₁ none, ∀ p ∈ e₁.files.way path, ∀ q ∈ [broken], ¬ q <+: p := by
    decide +kernel
  obtain ⟨hfiles, -, -, hsettle, -⟩ := load_rests_on_one_file e none
  obtain ⟨-, -, hchanges, -, -⟩ := load_rests_on_one_file e₁ none
  obtain ⟨-, -, -, hread⟩ := hfiles localFile htells e₁ hsame
  have hloaded : load e₁ none = settle (some "http://h") { feed := { url := "nonsense" } } :=
    hread "bank_holidays: {url: nonsense}" _ (by decide +kernel) (by decide +kernel)
  have hurl : ∃ u, Url.read "http://h" = .ok u := by
    have hok : (Url.read "http://h").isOk = true := by decide +kernel
    cases hu : Url.read "http://h" with
    | ok u => exact ⟨u, rfl⟩
    | error fault => rw [hu] at hok; cases hok
  have haccepted : load e₁ none = .ok (withUrl { feed := { url := "nonsense" } } "http://h") := by
    rw [hloaded]
    exact (hsettle _ _ _).mpr ⟨rfl, hurl, by decide, by decide, by decide⟩
  exact ⟨htells, hsame, hoff, hway, ⟨_, haccepted, rfl⟩,
    hchanges e₂ [broken] hoff hway (fun _ _ => rfl) rfl⟩

end Settings
end Workday
