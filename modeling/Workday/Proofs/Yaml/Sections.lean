import Mathlib.Data.List.Basic
import Workday.Proofs.Yaml.Layout
import Workday.Proofs.Yaml.Values

/-!
# Reading sections

A section that stands for a list of items is read item by item, and each item changes what has been read so
far. `IsRead` says what change an entry makes: that of its field, or none if no field has its name.
`fieldsOf_eq` folds the changes over the section. What they leave in one place is told by the items that
touch it alone (`get_foldl`), wherever they stand among the others.
-/

set_option autoImplicit false

namespace Workday.Yaml

variable {α β ι : Type} {d : Document} {path : List String} {marked rest : Spot} {mark : Mark}

/-- The parts of a section are those of its pairs as entries. -/
theorem Content.parts_mapping (ps : List Pair) :
    (Content.mapping ps).parts =
      .mappingStart :: (ps.map Pair.entry).flatMap Entry.parts ++ [.mappingEnd] := by
  rw [Content.parts, List.flatMap_map]
  rfl

namespace Reader

theorem entryName_scalar {tag : Option String} {scalar : Scalar} :
    entryName d path ((.scalar tag scalar, mark) :: rest) = .ok ((scalar.value, scalar.value), rest) := by
  rw [entryName, Spot.next_cons, text_scalar]
  rfl

theorem skip_scalar {tag : Option String} {scalar : Scalar} (fuel : Nat) :
    skip d (fuel + 1) 0 ((.scalar tag scalar, mark) :: rest) = .ok rest := by
  rw [skip, Spot.next_cons]
  rfl

/-! ## Items -/

/-- The change that reading an entry makes: none if no field has its name and a scalar is passed over, else
that of its field. -/
inductive IsRead (fields : List (Field α)) (change : α → α) (e : Entry) : Prop
  | other {tag : Option String} {scalar : Scalar}
      (unknown : fields.find? (·.name == e.name.value) = none) (content : e.content = .scalar tag scalar)
      (kept : ∀ a, change a = a)
  | field {f : Field α} (known : fields.find? (·.name == e.name.value) = some f)
      (read : ∀ (within : List String × Mark) (a : α) (d : Document) (path : List String) (marked rest : Spot),
        marked.map Prod.fst = e.content.parts →
          f.read within a d path (marked ++ rest) = .ok (change a, rest))

/-- Reading one entry makes its change. The name of a field may not have been seen before; a name that
is of no field is passed over, seen or not. -/
theorem entries_step {fields : List (Field α)} {change : α → α} {e : Entry} (d : Document) (path : List String)
    (mark : Mark) (rest : Spot) (h : IsRead fields change e)
    (hmarked : marked.map Prod.fst = e.parts) (fuel : Nat) (seen : List String) (a : α)
    (hfresh : fields.find? (·.name == e.name.value) ≠ none → e.name.value ∉ seen) :
    ∃ seen', (seen' = seen ∨ seen' = e.name.value :: seen) ∧
      entries fields d path mark (fuel + 1) seen a (marked ++ rest) =
        entries fields d path mark fuel seen' (change a) rest := by
  obtain ⟨⟨part, m⟩, marked, rfl, hname, hcontent⟩ := List.map_eq_cons_iff.mp hmarked
  obtain rfl : part = .scalar none e.name := hname
  rw [entries, List.cons_append, Spot.next_cons]
  simp only [bind, Except.bind, reduceCtorEq, if_false, entryName_scalar]
  cases h with
  | other hunknown hscalar hkept =>
    refine ⟨seen, .inl rfl, ?_⟩
    rw [hscalar, Content.parts] at hcontent
    obtain ⟨⟨part, m'⟩, marked, rfl, hpart, hnil⟩ := List.map_eq_cons_iff.mp hcontent
    obtain rfl : part = .scalar _ _ := hpart
    obtain rfl : marked = [] := List.map_eq_nil_iff.mp hnil
    simp only [hunknown, List.cons_append, List.nil_append, List.length_cons, skip_scalar, hkept]
  | field hknown hread =>
    refine ⟨_, .inr rfl, ?_⟩
    have hseen : seen.contains e.name.value = false := by
      simpa using hfresh (by rw [hknown]; exact Option.some_ne_none _)
    simp only [hknown, hseen, Bool.false_eq_true, if_false, hread _ _ _ _ _ _ hcontent]

/-- Entries are read one by one up to the end of the mapping. The induction is on the items; what it
carries is that no field that is still to come has been seen. -/
theorem entries_eq {fields : List (Field α)} {entry : ι → Entry} {put : α → ι → α} {is : List ι}
    (his : ∀ i ∈ is, IsRead fields (put · i) (entry i)) {seen : List String}
    (hunique : ∀ f ∈ fields, (seen ++ is.map fun i => (entry i).name.value).count f.name ≤ 1) (a : α)
    (hmarked : marked.map Prod.fst = (is.map entry).flatMap Entry.parts) {fuel : Nat}
    (hfuel : is.length < fuel) {m : Mark} :
    entries fields d path mark fuel seen a (marked ++ (.mappingEnd, m) :: rest) =
      .ok (is.foldl put a, rest) := by
  induction is generalizing seen a marked fuel with
  | nil =>
    obtain ⟨fuel, rfl⟩ := Nat.exists_eq_add_one_of_ne_zero (Nat.ne_zero_of_lt hfuel)
    obtain rfl : marked = [] := List.map_eq_nil_iff.mp hmarked
    rw [entries, List.nil_append, Spot.next_cons]
    rfl
  | cons i is ih =>
    obtain ⟨fuel, rfl⟩ := Nat.exists_eq_add_one_of_ne_zero (Nat.ne_zero_of_lt hfuel)
    obtain ⟨front, back, rfl, hfront, hback⟩ := List.map_eq_append_iff.mp hmarked
    have hfresh : fields.find? (·.name == (entry i).name.value) ≠ none → (entry i).name.value ∉ seen := by
      intro hknown hmem
      obtain ⟨f, hf⟩ := Option.ne_none_iff_exists'.mp hknown
      have hname : f.name = (entry i).name.value := by simpa using List.find?_some hf
      have hcount := hunique f (List.mem_of_find?_eq_some hf)
      have hpos := List.count_pos_iff.mpr hmem
      rw [hname, List.count_append, List.map_cons, List.count_cons_self] at hcount
      omega
    obtain ⟨seen', hseen', hstep⟩ := entries_step d path mark (back ++ (.mappingEnd, m) :: rest)
      (his i List.mem_cons_self) hfront fuel seen a hfresh
    rw [List.append_assoc, hstep, List.foldl_cons]
    refine ih (fun j hj => his j (List.mem_cons_of_mem i hj)) ?_ _ hback (Nat.lt_of_succ_lt_succ hfuel)
    intro f hf
    have hcount := hunique f hf
    rw [List.map_cons, List.count_append, List.count_cons] at hcount
    rw [List.count_append]
    rcases hseen' with rfl | rfl
    · omega
    · rw [List.count_cons]
      omega

/-- Each entry has a part at least, so the parts last for as many turns as there are entries. -/
theorem length_le_parts (es : List Entry) : es.length ≤ (es.flatMap Entry.parts).length := by
  induction es with
  | nil => exact Nat.le_refl 0
  | cons e es ih =>
    simp only [List.flatMap_cons, List.length_append, List.length_cons, Entry.parts]
    omega

/-- A section is read item by item. Its fuel goes by the parts that are left, and every item has at
least one. -/
theorem fieldsOf_eq {wanted : String} {fields : List (Field α)} {entry : ι → Entry} {put : α → ι → α}
    {is : List ι} (his : ∀ i ∈ is, IsRead fields (put · i) (entry i))
    (hunique : ∀ f ∈ fields, (is.map fun i => (entry i).name.value).count f.name ≤ 1) (a : α)
    (hmarked : marked.map Prod.fst = .mappingStart :: (is.map entry).flatMap Entry.parts ++ [.mappingEnd]) :
    fieldsOf wanted fields a d path (marked ++ rest) = .ok (is.foldl put a, rest) := by
  obtain ⟨front, back, rfl, hfront, hback⟩ := List.map_eq_append_iff.mp hmarked
  obtain ⟨⟨part, m⟩, front, rfl, hstart, hitems⟩ := List.map_eq_cons_iff.mp hfront
  obtain rfl : part = .mappingStart := hstart
  obtain ⟨⟨part, m'⟩, back, rfl, hend, hnil⟩ := List.map_eq_cons_iff.mp hback
  obtain rfl : part = .mappingEnd := hend
  obtain rfl : back = [] := List.map_eq_nil_iff.mp hnil
  have hlength : is.length ≤ front.length := by
    simpa only [← hitems, List.length_map] using length_le_parts (is.map entry)
  rw [fieldsOf, node, List.append_assoc, List.cons_append, Spot.next_cons]
  refine entries_eq his hunique a hitems ?_
  rw [List.length_append]
  omega

end Reader

/-! ## Places -/

/-- What a fold leaves in a place is up to the items that own it. -/
theorem get_foldl {put : α → ι → α} {get : α → β} (own : ι → Bool) (value : ι → β)
    (hown : ∀ a i, own i = true → get (put a i) = value i)
    (hother : ∀ a i, own i = false → get (put a i) = get a) (is : List ι) (a : α) :
    get (is.foldl put a) = ((is.filter own).map value).getLast?.getD (get a) := by
  induction is generalizing a with
  | nil => rfl
  | cons i is ih =>
    rw [List.foldl_cons, ih, List.filter_cons]
    cases hi : own i with
    | true => simp [hown a i hi, List.getLast?_cons]
    | false => simp [hother a i hi]

/-- The scalars under a name. -/
def scalarsOf (ps : List Pair) (name : String) : List Scalar :=
  (ps.filter (·.name.value == name)).map Pair.value

/-- What stands under a name in a mapping of two levels. -/
def contentsOf (es : List Entry) (name : String) : List Content :=
  (es.filter (·.name.value == name)).map Entry.content

variable {ps : List Pair} {p : Pair} {name : String} {fields : List (Reader.Field α)} {change : α → α}

theorem mem_scalarsOf (hp : p ∈ ps) (hname : p.name.value = name) : p.value ∈ scalarsOf ps name :=
  List.mem_map_of_mem (List.mem_filter.mpr ⟨hp, by simp [hname]⟩)

/-- A name occurs as often as there are scalars under it. -/
theorem count_name_pairs (ps : List Pair) (name : String) :
    (ps.map fun p => p.entry.name.value).count name = (scalarsOf ps name).length := by
  rw [scalarsOf, List.length_map, ← List.countP_eq_length_filter, List.count, List.countP_map]
  rfl

theorem count_name_entries (es : List Entry) (name : String) :
    (es.map fun e => e.name.value).count name = (contentsOf es name).length := by
  rw [contentsOf, List.length_map, ← List.countP_eq_length_filter, List.count, List.countP_map]
  rfl

/-- What is left in a place by the scalar under its name, if there is one. -/
theorem get_foldl_scalar {σ : Type} (put : α → Pair → α) (get : α → β) (value : Scalar → β)
    {scalar : σ → Scalar} {given : Option σ} (a : α)
    (hown : ∀ a p, p.name.value = name → get (put a p) = value p.value)
    (hother : ∀ a p, p.name.value ≠ name → get (put a p) = get a)
    (hgiven : scalarsOf ps name = (given.map scalar).toList) :
    get (ps.foldl put a) = (given.map (value ∘ scalar)).getD (get a) := by
  rw [get_foldl (·.name.value == name) (value ∘ Pair.value)
    (fun a p hp => hown a p (by simpa using hp)) (fun a p hp => hother a p (by simpa using hp)),
    ← List.map_map, ← scalarsOf, hgiven]
  cases given <;> rfl

/-- A pair of another name is passed over. -/
theorem isRead_other (hother : ∀ f ∈ fields, p.name.value ≠ f.name) (hkept : ∀ a, change a = a) :
    Reader.IsRead fields change p.entry :=
  .other (List.find?_eq_none.mpr fun f hf => by simpa [Pair.entry] using (hother f hf).symm) rfl hkept

/-- A pair of the name of a field is read by it. -/
theorem isRead_field {f : Reader.Field α} (hfind : fields.find? (·.name == p.name.value) = some f)
    (hread : ∀ (within : List String × Mark) (a : α) (d : Document) (path : List String) (m : Mark)
      (rest : Spot), f.read within a d path ((.scalar p.tag p.value, m) :: rest) = .ok (change a, rest)) :
    Reader.IsRead fields change p.entry := by
  refine .field hfind fun within a d path marked rest hmarked => ?_
  obtain ⟨⟨part, m⟩, marked, rfl, hpart, hnil⟩ := List.map_eq_cons_iff.mp hmarked
  obtain rfl : part = .scalar p.tag p.value := hpart
  obtain rfl : marked = [] := List.map_eq_nil_iff.mp hnil
  exact hread within a d path m rest

end Workday.Yaml
