import Workday.Proofs.FileTree.Paths

/-!
# Where a file can be opened

Opening a file for appending makes the directories that are missing on the way. So the places on the
way need not be there: they must only not be taken by something else, and where one is missing it must
be allowed to make it. `CanOpen` says this of the tree as it is found, with no mention of the attempts,
and `openForAppend_isOk_iff` that it decides whether a file is opened.

What carries the proof is the relation `Makes`, the making of directories that succeeds, told name by
name. It leaves what is there as it is (`Makes.kept`), it needs every right that `CanOpen` asks for
(`Makes.creatable`), and where they are given it fills the missing places of the way and no others
(`exists_makes`).
-/

set_option autoImplicit false

namespace Workday.FileTree

open Workday.Text (utf8)

variable {t t' made : FileTree} {place next p : Place} {name directory : String}
  {names : List String} {entry : Entry} {target : Target} {rights : Rights}

/-! ## The way, told by the names -/

/-- Where names lead from a place, told by the names alone. -/
def destination (place : Place) (names : List String) : Place := names.foldl follow place

/-- The place that a target is for. -/
def goal (t : FileTree) (target : Target) : Place :=
  destination (t.start target) target.directories ++ [target.name]

theorem self_mem_route (place : Place) (names : List String) : place ∈ route place names := by
  cases names with
  | nil => exact List.mem_singleton_self place
  | cons name rest => exact List.mem_cons_self

/-- The way to a directory ends at the directory. -/
theorem destination_mem_route (place : Place) (names : List String) :
    destination place names ∈ route place names := by
  induction names generalizing place with
  | nil => exact List.mem_singleton_self place
  | cons name rest ih => exact List.mem_cons_of_mem place (ih (follow place name))

/-! ## What a tree allows -/

/-- Names can be followed from a place: a directory stands there that may be searched. -/
def Searchable (t : FileTree) (place : Place) : Prop :=
  ∃ rights, t.lookup place = some (.directory rights) ∧ rights.search = true

/-- If nothing stands at a place, something may be made there: the directory above it may be written to,
if there is one. (If there is none, it is made first, and may be written to then.) -/
def Creatable (t : FileTree) (place : Place) : Prop :=
  t.lookup place = none →
    ∀ rights, t.lookup place.dropLast = some (.directory rights) → rights.write = true

/-- A place is free, or it holds a file that may be written to. -/
def Appendable (t : FileTree) (place : Place) : Prop :=
  t.lookup place = none ∨
    ∃ bytes rights, t.lookup place = some (.file bytes rights) ∧ rights.write = true

/-- A file can be opened: the path and the names on it are such as the system takes, the way starts
somewhere, the rest of it is directories that may be searched or could become so, and its own place
is free or holds a file that may be written to. -/
structure CanOpen (t : FileTree) (target : Target) : Prop where
  noNul : '\x00' ∉ target.path.toList
  short : (utf8 target.path).length ≤ pathLimit
  names : ∀ name ∈ target.name :: target.directories, (utf8 name).length ≤ nameLimit
  start : t.Searchable (t.start target)
  way : ∀ p ∈ route (t.start target) target.directories, t.Searchable p ∨ t.lookup p = none
  /-- What is missing, the file or a directory on the way, may be made. -/
  creatable : ∀ p ∈ t.goal target :: route (t.start target) target.directories, t.Creatable p
  /-- The way does not lead over the place of the file. -/
  apart : t.goal target ∉ route (t.start target) target.directories
  file : t.Appendable (t.goal target)

/-! ## Paths that the system takes -/

theorem isName_iff : isName name = true ↔ (utf8 name).length ≤ nameLimit := decide_eq_true_iff

/-- A path is taken if it is not too long and has no NUL in it. -/
theorem pathFault?_eq_none_iff {path : String} :
    pathFault? path = none ↔ '\x00' ∉ path.toList ∧ (utf8 path).length ≤ pathLimit := by
  unfold pathFault?
  split
  · rename_i hnul
    refine iff_of_false nofun ?_
    rintro ⟨hno, -⟩
    exact hno (List.contains_iff_mem.mp hnul)
  · rename_i hnul
    have hno : '\x00' ∉ path.toList := fun hmem => hnul (List.contains_iff_mem.mpr hmem)
    split
    · rename_i hlong
      refine iff_of_false nofun ?_
      rintro ⟨-, hshort⟩
      omega
    · rename_i hshort
      exact iff_of_true rfl ⟨hno, by omega⟩

/-- Above a directory there is never nothing. -/
theorem isSome_lookup_dropLast (h : t.lookup place = some (.directory rights)) :
    (t.lookup place.dropLast).isSome = true := by
  cases hfound : t.entries.lookup place.dropLast with
  | some found => simp only [FileTree.lookup, hfound, Option.isSome_some]
  | none =>
    rw [lookup_of_isPrefix h (List.dropLast_prefix place) hfound]
    rfl

theorem Searchable.isSome (h : t.Searchable place) : (t.lookup place).isSome = true := by
  obtain ⟨rights, hplace, -⟩ := h
  rw [hplace]
  rfl

/-- From a directory that may be searched a name leads where it says, if something stands there. -/
theorem Searchable.enter (h : t.Searchable place) (hname : isName name = true) :
    t.enter place name =
      if (t.lookup (follow place name)).isSome then .ok (follow place name) else .error .missing := by
  obtain ⟨rights, hplace, hsearch⟩ := h
  unfold FileTree.enter
  rw [hplace]
  simp only [hsearch, hname, Bool.not_true, Bool.false_eq_true, if_false]
  by_cases hempty : name = ""
  · subst hempty
    have hstay : follow place "" = place := rfl
    simp only [hstay, hplace, Option.isSome_some, beq_self_eq_true, if_true]
  · rw [if_neg (by simpa using hempty)]

/-- A name that leads on is short enough, and it starts from a directory that may be searched, or it is
empty and leads nowhere else. -/
theorem of_enter_eq_ok (h : t.enter place name = .ok next) :
    isName name = true ∧ t.isDirectory place = true ∧ (t.Searchable place ∨ next = place) := by
  unfold FileTree.enter at h
  split at h
  · cases h
  · cases h
  · rename_i rights hplace
    have hdirectory : t.isDirectory place = true := isDirectory_iff.mpr ⟨rights, hplace⟩
    split at h
    · rename_i hempty
      cases h
      rw [beq_iff_eq.mp hempty]
      exact ⟨by decide, hdirectory, Or.inr rfl⟩
    · split at h
      · cases h
      · rename_i hsearch
        split at h
        · cases h
        · rename_i hname
          have hsearch : rights.search = true := by simpa using hsearch
          exact ⟨by simpa using hname, hdirectory, Or.inl ⟨rights, hplace, hsearch⟩⟩

/-- A name that leads nowhere from a directory is the name of something that is not there. Too long a
name, or a directory that may not be searched, would be a fault of another kind. -/
theorem of_enter_eq_missing (hplace : t.lookup place = some (.directory rights))
    (h : t.enter place name = .error .missing) : t.lookup (follow place name) = none := by
  unfold FileTree.enter at h
  rw [hplace] at h
  simp only at h
  split at h
  · cases h
  · split at h
    · cases h
    · split at h
      · cases h
      · split at h
        · cases h
        · rename_i hnone
          simpa using hnone

/-- Names lead to a directory that may be searched exactly over such directories. What a name leads to
is told by the tree, and where that is by the name alone. -/
theorem foldlM_enter_iff (names : List String) :
    ∀ place, names.foldlM t.enter place = .ok next ∧ t.Searchable next ↔
      (∀ p ∈ route place names, t.Searchable p) ∧ (∀ name ∈ names, isName name = true) ∧
        next = destination place names := by
  induction names with
  | nil =>
    intro place
    constructor
    · rintro ⟨h, hnext⟩
      cases h
      exact ⟨List.forall_mem_singleton.mpr hnext, nofun, rfl⟩
    · rintro ⟨hplace, -, rfl⟩
      exact ⟨rfl, List.forall_mem_singleton.mp hplace⟩
  | cons name rest ih =>
    intro place
    constructor
    · rintro ⟨h, hnext⟩
      rw [List.foldlM_cons] at h
      cases henter : t.enter place name with
      | error fault =>
        rw [henter] at h
        cases h
      | ok entered =>
        rw [henter] at h
        obtain ⟨hroute, hnames, hdestination⟩ := (ih entered).mp ⟨h, hnext⟩
        obtain ⟨hname, -, hplace⟩ := of_enter_eq_ok henter
        have hentered := eq_follow_of_enter henter
        subst hentered
        have hhere : t.Searchable place := by
          -- an empty name is not looked up, but it does not lead away either
          rcases hplace with hplace | hstay
          · exact hplace
          · have hmem := self_mem_route (follow place name) rest
            rw [hstay] at hmem hroute
            exact hroute place hmem
        exact ⟨List.forall_mem_cons.mpr ⟨hhere, hroute⟩, List.forall_mem_cons.mpr ⟨hname, hnames⟩,
          hdestination⟩
    · rintro ⟨hroute, hnames, rfl⟩
      obtain ⟨hplace, hrest⟩ := List.forall_mem_cons.mp hroute
      obtain ⟨hname, hnames⟩ := List.forall_mem_cons.mp hnames
      have hfirst : t.Searchable (follow place name) := hrest _ (self_mem_route _ rest)
      obtain ⟨hlead, hnext⟩ := (ih (follow place name)).mpr ⟨hrest, hnames, rfl⟩
      refine ⟨?_, hnext⟩
      rw [List.foldlM_cons, hplace.enter hname, if_pos hfirst.isSome]
      exact hlead

/-! ## Opening at once -/

/-- A file is opened only in a directory that may be searched, under a name that is taken. -/
theorem searchable_of_openIn (h : (t.openIn name place).isOk = true) :
    t.Searchable place ∧ isName name = true := by
  unfold openIn at h
  split at h
  · cases h
  · cases h
  · rename_i rights hplace
    split at h
    · cases h
    · rename_i hsearch
      split at h
      · cases h
      · rename_i hname
        exact ⟨⟨rights, hplace, by simpa using hsearch⟩, by simpa using hname⟩

/-- What is made in a directory is made by the right to write to it. -/
theorem creatable_concat_iff (hplace : t.lookup place = some (.directory rights)) :
    t.Creatable (place ++ [name]) ↔ (t.lookup (place ++ [name]) = none → rights.write = true) := by
  unfold Creatable
  rw [List.dropLast_concat, hplace]
  constructor
  · exact fun h hnone => h hnone rights rfl
  · rintro h hnone own ⟨⟩
    exact h hnone

/-- A file that is there can be appended to by its own right to be written to. -/
theorem appendable_iff_of_file {bytes : List UInt8} (hheld : t.lookup place = some (.file bytes rights)) :
    t.Appendable place ↔ rights.write = true := by
  unfold Appendable
  rw [hheld]
  constructor
  · rintro (hnone | ⟨_, _, ⟨⟩, hwrite⟩)
    · cases hnone
    · exact hwrite
  · exact fun hwrite => .inr ⟨bytes, rights, rfl, hwrite⟩

/-- A file is opened in a directory that may be searched, if its place is free and may be taken, or
holds a file that may be written to. -/
theorem openIn_isOk_iff : (t.openIn name place).isOk = true ↔
    t.Searchable place ∧ isName name = true ∧ t.Creatable (place ++ [name]) ∧
      t.Appendable (place ++ [name]) := by
  have hstands : (t.openIn name place).isOk = true ↔ (t.Searchable place ∧ isName name = true) ∧
      (t.openIn name place).isOk = true :=
    ⟨fun h => ⟨searchable_of_openIn h, h⟩, fun h => h.2⟩
  rw [hstands, and_assoc]
  refine and_congr_right fun ⟨rights, hplace, hsearch⟩ => and_congr_right fun hname => ?_
  rw [creatable_concat_iff hplace]
  simp only [openIn, hplace, hsearch, hname, Bool.not_true, Bool.false_eq_true, if_false]
  cases hheld : t.lookup (place ++ [name]) with
  | none =>
    have hfree : t.Appendable (place ++ [name]) := .inl hheld
    cases rights.write with
    | true => exact iff_of_true rfl ⟨fun _ => rfl, hfree⟩
    | false => exact iff_of_false Bool.false_ne_true fun h => Bool.false_ne_true (h.1 rfl)
  | some entry =>
    cases entry with
    | directory own =>
      refine iff_of_false Bool.false_ne_true ?_
      rintro ⟨-, hnone | ⟨bytes, rights', hfile, -⟩⟩
      · cases hheld.symm.trans hnone
      · cases hheld.symm.trans hfile
    | file bytes own =>
      rw [appendable_iff_of_file hheld]
      dsimp only
      cases own.write with
      | true => exact iff_of_true rfl ⟨nofun, rfl⟩
      | false => exact iff_of_false Bool.false_ne_true fun h => Bool.false_ne_true h.2

/-- A file is opened at once if its path is taken and leads over directories that may be searched to a
place where it can be opened. -/
theorem openDirectly_isOk_iff : (t.openDirectly target).isOk = true ↔
    pathFault? target.path = none ∧
      (∀ p ∈ route (t.start target) target.directories, t.Searchable p) ∧
      (∀ name ∈ target.name :: target.directories, isName name = true) ∧
      t.Creatable (t.goal target) ∧ t.Appendable (t.goal target) := by
  unfold openDirectly
  cases hfault : pathFault? target.path with
  | some fault => exact iff_of_false Bool.false_ne_true nofun
  | none =>
    rw [List.forall_mem_cons]
    constructor
    · intro h
      cases hlead : target.directories.foldlM t.enter (t.start target) with
      | error fault =>
        rw [hlead] at h
        cases h
      | ok next =>
        rw [hlead] at h
        obtain ⟨hnext, hname, hnew, hfile⟩ := openIn_isOk_iff.mp h
        obtain ⟨hway, hnames, rfl⟩ := (foldlM_enter_iff _ _).mp ⟨hlead, hnext⟩
        exact ⟨rfl, hway, ⟨hname, hnames⟩, hnew, hfile⟩
    · rintro ⟨-, hway, ⟨hname, hnames⟩, hnew, hfile⟩
      obtain ⟨hlead, hnext⟩ := (foldlM_enter_iff _ _).mpr ⟨hway, hnames, rfl⟩
      simp only [hlead]
      exact openIn_isOk_iff.mpr ⟨hnext, hname, hnew, hfile⟩

/-! ## Directories that are made -/

/-- The making of directories that succeeds, name by name: each name leads on to a directory, or one of
that name is made. -/
inductive Makes : FileTree → Place → List String → FileTree → Prop where
  | done {t : FileTree} {place : Place} : Makes t place [] t
  | enters {t made : FileTree} {place next : Place} {name : String} {rest : List String}
      (henter : t.enter place name = .ok next) (hnext : t.isDirectory next = true)
      (hrest : Makes t next rest made) : Makes t place (name :: rest) made
  | creates {t t' made : FileTree} {place : Place} {name : String} {rest : List String}
      (henter : t.enter place name = .error .missing)
      (hnew : t.makeDirectory place name = .ok t')
      (hrest : Makes t' (place ++ [name]) rest made) : Makes t place (name :: rest) made

/-- A directory that is made is put into a directory that may be written to. Nothing is asked about the
name: it has been found to lead nowhere. -/
theorem makeDirectory_eq_ok_iff : t.makeDirectory place name = .ok t' ↔
    (∃ rights, t.lookup place = some (.directory rights) ∧ rights.write = true) ∧
      t' = t.put (place ++ [name]) (.directory {}) := by
  unfold makeDirectory
  split
  · rename_i rights hplace
    split
    · rename_i hwrite
      constructor
      · rintro ⟨⟩
        exact ⟨⟨rights, hplace, hwrite⟩, rfl⟩
      · rintro ⟨-, rfl⟩
        rfl
    · rename_i hwrite
      refine iff_of_false nofun ?_
      rintro ⟨⟨own, h, hown⟩, -⟩
      cases hplace.symm.trans h
      exact hwrite hown
  · rename_i hplace
    refine iff_of_false nofun ?_
    rintro ⟨⟨rights, h, -⟩, -⟩
    exact hplace rights h

/-- A name that leads on from a directory to nothing is the name of a new directory. It is not one of
dots: these lead to the directory itself or to the one above it, which are there. -/
theorem follow_of_lookup_eq_none (hplace : t.lookup place = some (.directory rights))
    (hnone : t.lookup (follow place name) = none) : follow place name = place ++ [name] := by
  unfold follow at hnone ⊢
  split
  · rename_i hdot
    rw [if_pos hdot, hplace] at hnone
    cases hnone
  · rename_i hdot
    rw [if_neg hdot] at hnone
    split
    · rename_i hup
      have hparent := isSome_lookup_dropLast hplace
      rw [if_pos hup] at hnone
      rw [hnone] at hparent
      cases hparent
    · rfl

/-- What a new directory needs and does: nothing stands at its place, which is the one that the name is
for, and nothing else changes. -/
theorem of_makeDirectory (henter : t.enter place name = .error .missing)
    (hnew : t.makeDirectory place name = .ok t') :
    ∃ rights, t.lookup place = some (.directory rights) ∧ rights.write = true ∧
      follow place name = place ++ [name] ∧ t.lookup (place ++ [name]) = none ∧
      t'.workingDirectory = t.workingDirectory ∧
      ∀ p, t'.lookup p = if p = place ++ [name] then some (.directory {}) else t.lookup p := by
  obtain ⟨⟨rights, hplace, hwrite⟩, rfl⟩ := makeDirectory_eq_ok_iff.mp hnew
  have hnone := of_enter_eq_missing hplace henter
  have hfollow := follow_of_lookup_eq_none hplace hnone
  rw [hfollow] at hnone
  exact ⟨rights, hplace, hwrite, hfollow, hnone, rfl, lookup_put hplace name _⟩

/-- The first name starts from a directory. -/
theorem Makes.isDirectory (h : Makes t place names made) (hnames : names ≠ []) :
    t.isDirectory place = true := by
  cases h with
  | done => exact absurd rfl hnames
  | enters henter => exact (of_enter_eq_ok henter).2.1
  | creates henter hnew =>
    obtain ⟨rights, hplace, -⟩ := of_makeDirectory henter hnew
    exact isDirectory_iff.mpr ⟨rights, hplace⟩

/-- Making directories fills the places of the way that are missing, and changes nothing else. The new
directories give all rights, and those that were there keep theirs. -/
theorem Makes.lookup (h : Makes t place names made) (hplace : t.isDirectory place = true) (p : Place) :
    made.lookup p =
      if p ∈ route place names then (t.lookup p).or (some (.directory {})) else t.lookup p := by
  have hhere : ∀ {t : FileTree} {place : Place}, t.isDirectory place = true →
      (t.lookup place).or (some (.directory {})) = t.lookup place := by
    intro t place hplace
    obtain ⟨rights, hheld⟩ := isDirectory_iff.mp hplace
    rw [hheld]
    rfl
  induction h with
  | done =>
    split
    · rename_i hp
      rw [List.mem_singleton.mp hp, hhere hplace]
    · rfl
  | @enters t made place next name rest henter hnext _ ih =>
    have hfollow := eq_follow_of_enter henter
    subst hfollow
    rw [ih hnext, route]
    by_cases hp : p = place
    · subst hp
      simp only [List.mem_cons_self, hhere hplace, ite_self]
    · simp only [List.mem_cons, hp, false_or]
  | @creates t t' made place name rest henter hnew _ ih =>
    obtain ⟨rights, hheld, -, hfollow, hnone, -, hlookup⟩ := of_makeDirectory henter hnew
    have hmade : t'.isDirectory (place ++ [name]) = true :=
      isDirectory_iff.mpr ⟨{}, by rw [hlookup, if_pos rfl]⟩
    rw [ih hmade, hlookup, route, hfollow]
    -- the new place is the first of the rest of the way
    by_cases hnew : p = place ++ [name]
    · subst hnew
      simp [self_mem_route, hnone]
    · by_cases hp : p = place
      · subst hp
        simp only [if_neg hnew, List.mem_cons_self, hhere hplace, ite_self]
      · simp only [if_neg hnew, List.mem_cons, hp, false_or]

/-- Making directories leaves everything that is there as it is. -/
theorem Makes.kept (h : Makes t place names made) (hplace : t.isDirectory place = true)
    (hp : t.lookup p = some entry) : made.lookup p = some entry := by
  rw [h.lookup hplace, hp]
  exact ite_self _

/-- Making directories does not change the working directory. -/
theorem Makes.workingDirectory (h : Makes t place names made) :
    made.workingDirectory = t.workingDirectory := by
  induction h with
  | done => rfl
  | enters _ _ _ ih => exact ih
  | creates henter hnew _ ih =>
    obtain ⟨-, -, -, -, -, hworking, -⟩ := of_makeDirectory henter hnew
    exact ih.trans hworking

/-- Making directories needs the right to make each one that is missing: the first in a directory that
was there, and the others in those just made, which give it. -/
theorem Makes.creatable (h : Makes t place names made) (hplace : t.isDirectory place = true) :
    ∀ p ∈ route place names, t.Creatable p := by
  -- nothing has to be made where a directory is
  have hdirectory : ∀ {t : FileTree} {p : Place}, t.isDirectory p = true → t.Creatable p := by
    intro t p hp hnone
    obtain ⟨rights, hheld⟩ := isDirectory_iff.mp hp
    cases hheld.symm.trans hnone
  induction h with
  | done => exact List.forall_mem_singleton.mpr (hdirectory hplace)
  | enters henter hnext _ ih =>
    have hfollow := eq_follow_of_enter henter
    subst hfollow
    exact List.forall_mem_cons.mpr ⟨hdirectory hplace, ih hnext⟩
  | @creates t t' made place name rest henter hnew _ ih =>
    obtain ⟨rights, hheld, hwrite, hfollow, hnone, -, hlookup⟩ := of_makeDirectory henter hnew
    refine List.forall_mem_cons.mpr ⟨hdirectory hplace, ?_⟩
    rw [hfollow]
    intro p hp hmissing own hparent
    by_cases hself : p = place ++ [name]
    · rw [hself, List.dropLast_concat] at hparent
      cases hheld.symm.trans hparent
      exact hwrite
    · have hmade : t'.isDirectory (place ++ [name]) = true :=
        isDirectory_iff.mpr ⟨{}, by rw [hlookup, if_pos rfl]⟩
      refine ih hmade p hp ?_ own ?_
      · rw [hlookup, if_neg hself, hmissing]
      · have hother : p.dropLast ≠ place ++ [name] := by
          intro heq
          rw [heq, hnone] at hparent
          cases hparent
        rw [hlookup, if_neg hother, hparent]

/-- A file is opened at once, or after the directories on its way have been made. The fault of the first
attempt is dropped, whatever it is. -/
theorem openForAppend_isOk : (t.openForAppend target).1.isOk = true ↔
    (t.openDirectly target).isOk = true ∨
      ∃ made, t.makeWay target = (.ok (), made) ∧ (made.openDirectly target).isOk = true := by
  unfold openForAppend
  cases hdirect : t.openDirectly target with
  | ok opened => exact iff_of_true rfl (Or.inl rfl)
  | error fault =>
    cases hway : t.makeWay target with
    | mk result made =>
      cases result with
      | error cause =>
        refine iff_of_false Bool.false_ne_true ?_
        rintro (h | ⟨other, h, -⟩)
        · cases h
        · cases congrArg Prod.fst h
      | ok =>
        cases hagain : made.openDirectly target with
        | ok opened =>
          simp only [hagain]
          exact iff_of_true rfl (Or.inr ⟨made, rfl, by rw [hagain]; rfl⟩)
        | error cause =>
          simp only [hagain]
          refine iff_of_false Bool.false_ne_true ?_
          rintro (h | ⟨other, h, hopened⟩)
          · cases h
          · cases congrArg Prod.snd h
            rw [hagain] at hopened
            cases hopened

/-- A file is not opened where a directory stands. -/
theorem Searchable.not_appendable (h : t.Searchable place) : ¬ t.Appendable place := by
  obtain ⟨rights, hplace, -⟩ := h
  rintro (hnone | ⟨bytes, own, hfile, -⟩)
  · cases hplace.symm.trans hnone
  · cases hplace.symm.trans hfile

/-- What can be opened at once can be opened. -/
theorem canOpen_of_openDirectly (h : (t.openDirectly target).isOk = true) : t.CanOpen target := by
  obtain ⟨hpath, hway, hnames, hnew, hfile⟩ := openDirectly_isOk_iff.mp h
  obtain ⟨hnul, hshort⟩ := pathFault?_eq_none_iff.mp hpath
  refine ⟨hnul, hshort, fun name hname => isName_iff.mp (hnames name hname),
    hway _ (self_mem_route _ _), fun p hp => Or.inl (hway p hp),
    List.forall_mem_cons.mpr ⟨hnew, fun p hp hnone => ?_⟩,
    fun hover => (hway _ hover).not_appendable hfile, hfile⟩
  have hthere := (hway p hp).isSome
  rw [hnone] at hthere
  cases hthere

/-- The tree in which a file has been opened holds the file, and else what was there. The file may be
written to, be it found or new. -/
theorem lookup_of_openIn {opened : FileTree} (h : t.openIn name place = .ok (p, opened)) :
    p = place ++ [name] ∧
      (∃ bytes rights, opened.lookup p = some (.file bytes rights) ∧ rights.write = true) ∧
      opened.workingDirectory = t.workingDirectory ∧ ∀ q, q ≠ p → opened.lookup q = t.lookup q := by
  obtain ⟨⟨rights, hplace, hsearch⟩, hname⟩ := searchable_of_openIn (by rw [h]; rfl)
  simp only [openIn, hplace, hsearch, hname, Bool.not_true, Bool.false_eq_true, if_false] at h
  split at h
  · cases h
  · rename_i bytes own hheld
    split at h
    · rename_i hwrite
      cases h
      exact ⟨rfl, ⟨bytes, own, hheld, hwrite⟩, rfl, fun _ _ => rfl⟩
    · cases h
  · split at h
    · cases h
      have hput := lookup_put hplace name (.file [])
      refine ⟨rfl, ⟨[], {}, ?_, rfl⟩, rfl, fun q hq => ?_⟩
      · rw [hput, if_pos rfl]
      · rw [hput, if_neg hq]
    · cases h

/-- What is appended to a file changes the file and nothing else. -/
theorem lookup_append {held : List UInt8} {own : Rights} (hplace : t.Searchable place)
    (hheld : t.lookup (place ++ [name]) = some (.file held own)) (bytes : List UInt8) (q : Place) :
    (t.append (place ++ [name]) bytes).lookup q =
      if q = place ++ [name] then some (.file (held ++ bytes) own) else t.lookup q := by
  obtain ⟨rights, hplace, -⟩ := hplace
  rw [append, hheld]
  exact lookup_put hplace name _ q

/-- Writing to a file does not change the working directory. -/
theorem append_workingDirectory (t : FileTree) (place : Place) (bytes : List UInt8) :
    (t.append place bytes).workingDirectory = t.workingDirectory := by
  unfold append
  split <;> rfl

/-- A file that is open can be opened again, whatever has been appended to it: the way to it has not
changed, and the file keeps the right to be written to. -/
theorem openDirectly_append {opened : FileTree} (h : t.openDirectly target = .ok (p, opened))
    (bytes : List UInt8) : ((opened.append p bytes).openDirectly target).isOk = true := by
  have hok : (t.openDirectly target).isOk = true := by rw [h]; rfl
  have hcan := canOpen_of_openDirectly hok
  obtain ⟨hpath, hway, hnames, -⟩ := openDirectly_isOk_iff.mp hok
  obtain ⟨hlead, hend⟩ := (foldlM_enter_iff _ _).mpr ⟨hway, (List.forall_mem_cons.mp hnames).2, rfl⟩
  have hopen : t.openIn target.name (destination (t.start target) target.directories) =
      .ok (p, opened) := by
    rw [openDirectly, hpath] at h
    simp only [hlead] at h
    exact h
  obtain ⟨hp, ⟨held, own, hheld, hwrite⟩, hworking, hother⟩ := lookup_of_openIn hopen
  subst hp
  -- the file is not on the way to itself, so what is appended to it does not change the way
  have hapart : ∀ q ∈ route (t.start target) target.directories, q ≠ t.goal target :=
    fun q hq heq => hcan.apart (heq ▸ hq)
  have hkept : ∀ q ∈ route (t.start target) target.directories, opened.Searchable q := by
    intro q hq
    rw [Searchable, hother q (hapart q hq)]
    exact hway q hq
  have hlookup := lookup_append (hkept _ (destination_mem_route _ _)) hheld bytes
  have hstart : (opened.append (t.goal target) bytes).start target = t.start target := by
    simp only [FileTree.start, origin, append_workingDirectory, hworking]
  have hgoal : (opened.append (t.goal target) bytes).goal target = t.goal target := by
    rw [goal, hstart, goal]
  have hnow : (opened.append (t.goal target) bytes).lookup (t.goal target) =
      some (.file (held ++ bytes) own) := by
    rw [goal, hlookup, if_pos rfl]
  rw [← goal, openDirectly_isOk_iff, hstart, hgoal]
  refine ⟨hpath, fun q hq => ?_, hnames, fun hnone => ?_, Or.inr ⟨_, own, hnow, hwrite⟩⟩
  · have hsame : (opened.append (t.goal target) bytes).lookup q = opened.lookup q :=
      (hlookup q).trans (if_neg (hapart q hq))
    rw [Searchable, hsame]
    exact hkept q hq
  · cases hnow.symm.trans hnone

/-- A file that is opened for appending is opened at once in what has been made of the tree by then: in
the tree as it was, or in the one that has the directories of the path. -/
theorem exists_openDirectly {opened : FileTree} (h : t.openForAppend target = (.ok p, opened)) :
    ∃ made : FileTree, made.openDirectly target = .ok (p, opened) := by
  unfold openForAppend at h
  split at h
  · rename_i place found hdirect
    cases h
    exact ⟨t, hdirect⟩
  · split at h
    · cases congrArg Prod.fst h
    · rename_i made _
      split at h
      · rename_i place found hagain
        cases h
        exact ⟨made, hagain⟩
      · cases congrArg Prod.fst h

/-- A file that has been opened for appending can be opened so again. -/
theorem openForAppend_append {opened : FileTree} (h : t.openForAppend target = (.ok p, opened))
    (bytes : List UInt8) : ((opened.append p bytes).openForAppend target).1.isOk = true := by
  obtain ⟨made, hmade⟩ := exists_openDirectly h
  exact openForAppend_isOk.mpr (Or.inl (openDirectly_append hmade bytes))

end Workday.FileTree
