import Workday.FileTree.Writing

/-!
# What a path looks at

Following a path asks only for the places on its way. Two trees that agree there lead the path to
the same place and give the same text, however they differ elsewhere. All that is needed of a single
name is that `enter` asks for the place it starts at and for the one it names (`enter_of_agree`); the
rest is an induction on the names.
-/

set_option autoImplicit false

namespace Workday.FileTree

variable {t t' : FileTree} {p q place next : Place} {name path : String} {rights : Rights}
  {fault : Fault}

/-- The places that are looked at while names are followed from a place. -/
def visits (t : FileTree) (place : Place) : List String → List Place
  | [] => [place]
  | name :: rest =>
    place :: match t.enter place name with
      | .ok next => t.visits next rest
      | .error _ => [follow place name]

/-- The places that are looked at while a path is followed. -/
def way (t : FileTree) (path : String) : List Place := t.visits (t.origin path) (names path)

/-- Two trees that differ at most in what stands at some places and below them. -/
structure SameOff (qs : List Place) (t t' : FileTree) : Prop where
  workingDirectory : t'.workingDirectory = t.workingDirectory
  lookup (p : Place) (h : ∀ q ∈ qs, ¬ q <+: p) : t'.lookup p = t.lookup p

/-- Whether a directory stands at a place, whatever may be done with it. -/
def isDirectory (t : FileTree) (place : Place) : Bool :=
  match t.lookup place with
  | some (.directory _) => true
  | _ => false

/-- Whether a directory stands at a place is told by its entry, with whatever rights. -/
theorem isDirectory_iff : t.isDirectory place = true ↔ ∃ rights, t.lookup place = some (.directory rights) := by
  unfold isDirectory
  split
  · rename_i rights h
    exact iff_of_true rfl ⟨rights, h⟩
  · rename_i h
    refine iff_of_false Bool.false_ne_true ?_
    rintro ⟨rights, hplace⟩
    exact h rights hplace

/-! ## New entries -/

/-- What stands on the way to a directory is not nothing: a place above it that has no entry is a
directory by having something below it. -/
theorem lookup_of_isPrefix (h : t.lookup place = some (.directory rights)) (hp : p <+: place)
    (hnone : t.entries.lookup p = none) : t.lookup p = some (.directory {}) := by
  have hbefore : p.isEmpty = true ∨ (t.entries.any fun e => p.isPrefixOf e.1) = true := by
    unfold FileTree.lookup at h
    split at h
    · rename_i found hfound
      obtain ⟨earlier, later, hentries, -⟩ := List.lookup_eq_some_iff.mp hfound
      have hmem : (place, found) ∈ t.entries := by
        rw [hentries]
        exact List.mem_append_right earlier List.mem_cons_self
      exact Or.inr (List.any_eq_true.mpr ⟨_, hmem, List.isPrefixOf_iff_prefix.mpr hp⟩)
    · split at h
      · rename_i hany
        rcases Bool.or_eq_true_iff.mp hany with hempty | hany
        · rw [List.isEmpty_iff.mp hempty] at hp
          exact Or.inl (List.isEmpty_iff.mpr (List.prefix_nil.mp hp))
        · obtain ⟨e, he, hplace⟩ := List.any_eq_true.mp hany
          have hprefix := hp.trans (List.isPrefixOf_iff_prefix.mp hplace)
          exact Or.inr (List.any_eq_true.mpr ⟨e, he, List.isPrefixOf_iff_prefix.mpr hprefix⟩)
      · cases h
  unfold FileTree.lookup
  rw [hnone]
  exact if_pos (Bool.or_eq_true_iff.mpr hbefore)

/-- A new entry in a directory changes nothing else. The place itself is told by the entry; every other
place either has an entry of its own, or it is above the directory and was one before, or nothing
about it has changed. -/
theorem lookup_put (h : t.lookup place = some (.directory rights)) (name : String) (entry : Entry)
    (p : Place) :
    (t.put (place ++ [name]) entry).lookup p =
      if p = place ++ [name] then some entry else t.lookup p := by
  by_cases hp : p = place ++ [name]
  · subst hp
    simp only [FileTree.lookup, put, List.lookup_cons_self, if_true]
  · have hother : (p == place ++ [name]) = false := by simpa using hp
    have hentries : (t.put (place ++ [name]) entry).entries.lookup p = t.entries.lookup p := by
      simp only [put, List.lookup_cons, hother]
    rw [if_neg hp]
    cases hfound : t.entries.lookup p with
    | some found => simp only [FileTree.lookup, hentries, hfound]
    | none =>
      by_cases hbefore : p <+: place ++ [name]
      · have hparent : p <+: place := (List.prefix_concat_iff.mp hbefore).resolve_left hp
        have hany : p.isPrefixOf (place ++ [name]) = true := List.isPrefixOf_iff_prefix.mpr hbefore
        rw [lookup_of_isPrefix h hparent hfound]
        simp only [FileTree.lookup, hentries, hfound]
        simp only [put, List.any_cons, hany, Bool.true_or, Bool.or_true, if_true]
      · have hapart : p.isPrefixOf (place ++ [name]) = false :=
          Bool.eq_false_iff.mpr fun h => hbefore (List.isPrefixOf_iff_prefix.mp h)
        simp only [FileTree.lookup, hentries, hfound]
        simp only [put, List.any_cons, hapart, Bool.false_or]

/-- An entry put into a directory is seen at its place and below, and nowhere else. -/
theorem sameOff_put (entry : Entry) (h : ∀ n < q.length, t.isDirectory (q.take n) = true) :
    SameOff [q] t (t.put q entry) := by
  refine ⟨rfl, fun p hp => ?_⟩
  have hq : ¬ q <+: p := hp q (List.mem_singleton_self q)
  rcases q.eq_nil_or_concat with rfl | ⟨parent, name, hconcat⟩
  · exact absurd List.nil_prefix hq
  · rw [List.concat_eq_append] at hconcat
    subst hconcat
    obtain ⟨rights, hparent⟩ : ∃ rights, t.lookup parent = some (.directory rights) := by
      have hhere := h parent.length (by rw [List.length_append, List.length_singleton]; omega)
      rw [List.take_left] at hhere
      exact isDirectory_iff.mp hhere
    have hother : p ≠ parent ++ [name] := fun heq => hq (heq ▸ List.prefix_rfl)
    rw [lookup_put hparent, if_neg hother]

/-! ## Following names -/

/-- A name that leads on leads where it says. The tree decides whether it leads on, and has no part in
where to: there are no links. -/
theorem eq_follow_of_enter (h : t.enter place name = .ok next) : next = follow place name := by
  unfold enter at h
  split at h
  · cases h
  · cases h
  · split at h
    · rename_i hempty
      cases h
      rw [follow, hempty, Bool.true_or, if_pos rfl]
    · split at h
      · cases h
      · split at h
        · cases h
        · split at h
          · cases h
            rfl
          · cases h

/-- The place where names start is looked at. -/
theorem self_mem_visits (t : FileTree) (place : Place) (names : List String) :
    place ∈ t.visits place names := by
  cases names with
  | nil => exact List.mem_singleton_self place
  | cons name rest => exact List.mem_cons_self

/-- The place that a name is for is looked at, whether the name leads there or not. -/
theorem follow_mem_visits (t : FileTree) (place : Place) (name : String) (rest : List String) :
    follow place name ∈ t.visits place (name :: rest) := by
  refine List.mem_cons_of_mem place ?_
  cases hnext : t.enter place name with
  | error fault => exact List.mem_singleton_self _
  | ok next =>
    rw [← eq_follow_of_enter hnext]
    exact self_mem_visits t next rest

/-- Following a name asks for the place it starts at and for the one it names. -/
theorem enter_of_agree (hhere : t'.lookup place = t.lookup place)
    (hnamed : t'.lookup (follow place name) = t.lookup (follow place name)) :
    t'.enter place name = t.enter place name := by
  simp only [enter, hhere, hnamed]

/-- Names lead to the same place in two trees that agree on the way: at each name only the directory and
what the name leads to are looked at. -/
theorem foldlM_enter_of_agree (names : List String) :
    ∀ place, (∀ p ∈ t.visits place names, t'.lookup p = t.lookup p) →
      names.foldlM t'.enter place = names.foldlM t.enter place := by
  induction names with
  | nil => intro place _; rfl
  | cons name rest ih =>
    intro place h
    have hhere := h place (self_mem_visits t place _)
    have hnamed := h _ (follow_mem_visits t place name rest)
    rw [List.foldlM_cons, List.foldlM_cons, enter_of_agree hhere hnamed]
    cases hnext : t.enter place name with
    | error fault => rfl
    | ok next =>
      refine ih next fun p hp => h p ?_
      rw [visits, hnext]
      exact List.mem_cons_of_mem place hp

/-- Where names lead has been looked at. -/
theorem mem_visits_of_foldlM (names : List String) :
    ∀ place, names.foldlM t.enter place = .ok q → q ∈ t.visits place names := by
  induction names with
  | nil =>
    intro place h
    cases h
    exact self_mem_visits t q []
  | cons name rest ih =>
    intro place h
    rw [List.foldlM_cons] at h
    cases hnext : t.enter place name with
    | error fault =>
      rw [hnext] at h
      cases h
    | ok next =>
      rw [hnext] at h
      rw [visits, hnext]
      exact List.mem_cons_of_mem place (ih next h)

/-- The place that a path leads to is on its way. -/
theorem mem_way_of_find (h : t.find path = .ok q) : q ∈ t.way path := by
  unfold find at h
  split at h
  · cases h
  · split at h
    · cases h
    · exact mem_visits_of_foldlM _ _ h

/-- A path that gives a text leads somewhere. -/
theorem has_of_readText {text : String} (h : t.readText path = .ok text) : t.has path = true := by
  unfold readText at h
  unfold has
  cases hfound : t.find path with
  | error fault =>
    rw [hfound] at h
    cases h
  | ok q => rfl

section

variable (hworking : t'.workingDirectory = t.workingDirectory)
  (hway : ∀ p ∈ t.way path, t'.lookup p = t.lookup p)
include hworking hway

/-- A path leads to the same place in two trees that agree on its way. -/
theorem find_of_agree : t'.find path = t.find path := by
  have horigin : t'.origin path = t.origin path := by rw [origin, origin, hworking]
  unfold find
  rw [horigin, foldlM_enter_of_agree (names path) (t.origin path) hway]

/-- Whether a path leads anywhere is told by its way. -/
theorem has_of_agree : t'.has path = t.has path := by
  rw [has, has, find_of_agree hworking hway]

/-- A path gives the same text, or fails for the same reason, in two trees that agree on its way. -/
theorem readText_of_agree : t'.readText path = t.readText path := by
  unfold readText
  rw [find_of_agree hworking hway]
  cases hfound : t.find path with
  | error fault => rfl
  | ok q =>
    show t'.textAt q = t.textAt q
    rw [textAt, textAt, hway q (mem_way_of_find hfound)]

end

/-- Changes off the way of a path do not reach what the path gives. -/
theorem SameOff.agree {qs : List Place} (h : SameOff qs t t')
    (hoff : ∀ p ∈ t.way path, ∀ q ∈ qs, ¬ q <+: p) :
    ∀ p ∈ t.way path, t'.lookup p = t.lookup p :=
  fun p hp => h.lookup p (hoff p hp)

end Workday.FileTree
