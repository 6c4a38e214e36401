import Mathlib.Data.List.Pairwise
import Workday.Proofs.Json.Decoding

/-!
# Decoding records

A record is read member by member into a draft. A `Column` is a field of a record together with what
it means: the slot of the draft that it fills and the meaning of the values that go there. Reading
all members amounts to `fill`; and since columns do not touch each other's slots, what `fill` leaves
in a slot is told by the members of that name alone (`slot?`), wherever they stand.
-/

set_option autoImplicit false

namespace Workday.Json

open Workday.Text (utf8)

variable {α δ : Type} {c : Cursor} {v : Value} {x : Char} {s r : List Char}
  {ms : List Member} {name : String}

/-- A field of a record with its slot in the draft, the values that may stand there and what they
mean. -/
structure Column (δ : Type) where
  Content : Type
  name : String
  mayBeMissing : Bool
  decoder : Decoder Content
  domain : Value → Prop
  meaning : Value → Option Content
  get : δ → Option Content
  set : Content → δ → δ
  get_set : ∀ content draft, get (set content draft) = some content
  decodes : Decodes decoder domain meaning

/-- The field that a column describes. -/
def Column.field (column : Column δ) : Field δ where
  name := column.name
  isRead draft := (column.get draft).isSome
  mayBeMissing := column.mayBeMissing
  read draft c := do
    let (content, c) ← column.decoder c
    return (column.set content draft, c)

/-- What the members of an object fill into a draft, unless one has no name, is given twice or means
nothing. -/
def fill (columns : List (Column δ)) : δ → List Member → Option δ
  | draft, [] => some draft
  | _, (none, _) :: _ => none
  | draft, (some name, v) :: ms =>
    match columns.find? (·.name == name) with
    | none => fill columns draft ms
    | some column =>
      if (column.get draft).isSome then none
      else (column.meaning v).bind fun content => fill columns (column.set content draft) ms

/-! ## Reading members -/

/-- Where no members remain there is only white space. -/
theorem Remaining.members_nil {first : Bool} (h : Remaining first (.members []) s) :
    IsSpace s := by
  cases h with
  | noMember space => exact space
  | more _ rest => cases rest

/-- Where members remain there is a comma, unless the first comes, then a name, a colon and a value,
then the rest of them. -/
theorem Remaining.members_cons {first : Bool} {name : Option String}
    (h : Remaining first (.members ((name, v) :: ms)) s) :
    ∃ lead a n b a' w t, Lead first lead ∧ IsSpace a ∧ WrittenString name n ∧ IsSpace b ∧
      IsSpace a' ∧ Written (.value v) w ∧ Remaining false (.members ms) t ∧
      s = lead ++ (a ++ '"' :: (n ++ '"' :: (b ++ ':' :: (a' ++ (w ++ t))))) := by
  cases h with
  | @more _ lead s before rest =>
    cases rest with
    | member ha hn hb value =>
      cases value with
      | spaced ha' hw hb' =>
        exact ⟨lead, _, _, _, _, _, _, before, ha, hn, hb, ha', hw, .noMember hb', rfl⟩
    | @members _ _ _ _ _ _ _ t ha hn hb value rest =>
      cases value with
      | @spaced _ a' w b' ha' hw hb' =>
        refine ⟨lead, _, _, _, a', w, b' ++ [','] ++ t, before, ha, hn, hb, ha', hw,
          .more (.later hb') rest, ?_⟩
        simp only [List.append_assoc, List.singleton_append]

/-- A value under a name stays one when a member comes in front. -/
theorem mem_valuesOf_cons_of_mem {m : Member} {w : Value} {other : String}
    (h : w ∈ valuesOf ms other) : w ∈ valuesOf (m :: ms) other := by
  rw [valuesOf, List.filter_cons]
  split
  · exact List.mem_cons_of_mem m.2 h
  · exact h

/-- A member in front gives the first value under its name. -/
theorem valuesOf_cons_self : valuesOf ((some name, v) :: ms) name = v :: valuesOf ms name := by
  rw [valuesOf, List.filter_cons, if_pos (beq_self_eq_true (some name))]
  rfl

/-- All values that stand in a column are in its domain. -/
def InDomain (columns : List (Column δ)) (ms : List Member) : Prop :=
  ∀ column ∈ columns, ∀ v ∈ valuesOf ms column.name, column.domain v

/-- Reads the value of a member, and the members after it. -/
def Shape.member (shape : Shape α δ) (fuel : Nat) (draft : δ) (name : String) (named : Cursor) :
    Decoder δ := fun c =>
  match shape.fields.find? (·.name == name) with
  | none => c.skipValue >>= shape.members fuel false draft
  | some field =>
    if field.isRead draft then (endOfObject named).fail (.duplicateField name)
    else field.read draft c >>= fun p => shape.members fuel false p.1 p.2

/-- One turn over the members: a name is read, then a colon, then what the name is for. -/
theorem members_step {shape : Shape α δ} {fuel : Nat} {first : Bool} {draft : δ}
    {c₁ c₂ c₃ : Cursor} (hnext : c.nextMember first = .ok (true, c₁))
    (hname : c₁.takeString = .ok (name, c₂)) (hcolon : c₂.takeColon = .ok c₃) :
    shape.members (fuel + 1) first draft c = shape.member fuel draft name c₂ c₃ := by
  simp only [Shape.members, Shape.member, hnext, hname, hcolon, bind, Except.bind]
  rfl

/-- A name that is no text ends the reading of the members. -/
theorem members_fails {shape : Shape α δ} {fuel : Nat} {first : Bool} {draft : δ} {c₁ : Cursor}
    (hnext : c.nextMember first = .ok (true, c₁)) (hname : Fails c₁.takeString) :
    Fails (shape.members (fuel + 1) first draft c) := by
  obtain ⟨fault, hfault⟩ := hname
  refine ⟨fault, ?_⟩
  simp only [Shape.members, hnext, hfault, bind, Except.bind]
  rfl

/-- A member changes the draft as `fill` says: a name that no column has is passed over, a column that
is filled already is a fault, and any other is filled by what the value means. -/
theorem member_gives {shape : Shape α δ} {columns : List (Column δ)}
    (hfields : shape.fields = columns.map Column.field) {fuel : Nat} {draft : δ} {named : Cursor}
    {a w : List Char} (hv : ∀ column ∈ columns, column.name = name → column.domain v)
    (ha : IsSpace a) (hw : Written (.value v) w) (hs : Follows s) (hc : c.Holds (a ++ (w ++ s)))
    (hrest : ∀ draft c, c.Holds s →
      Gives (shape.members fuel false draft c) (fill columns draft ms) r) :
    Gives (shape.member fuel draft name named c) (fill columns draft ((some name, v) :: ms)) r := by
  have hfind : shape.fields.find? (·.name == name) =
      (columns.find? (·.name == name)).map Column.field := by
    rw [hfields, List.find?_map]
    rfl
  rw [Shape.member, hfind, fill]
  cases hcolumn : columns.find? (·.name == name) with
  | none =>
    obtain ⟨c', hskip, hc'⟩ := hc.skipValue ha hw hs
    simp only [Option.map_none, hskip]
    exact hrest draft c' hc'
  | some column =>
    have hname : column.name = name := by simpa using List.find?_some hcolumn
    have hdomain := hv column (List.mem_of_find?_eq_some hcolumn) hname
    by_cases hread : (column.get draft).isSome = true
    · simp only [Option.map_some, Column.field, hread, if_true]
      exact Cursor.fails_fail _ _
    · have hvalue := column.decodes v w a _ c hw hdomain ha hs hc
      simp only [Option.map_some, Column.field, hread, Bool.false_eq_true, if_false, bind_assoc,
        pure_bind]
      exact hvalue.bind fun content c' hc' => hrest (column.set content draft) c' hc'

/-- Reading the members of an object fills the draft. The induction is on the members; a name without a
text ends the reading, as `fill` says. -/
theorem members_gives {shape : Shape α δ} {columns : List (Column δ)}
    (hfields : shape.fields = columns.map Column.field) (hdomain : InDomain columns ms)
    {first : Bool} {fuel : Nat} (draft : δ) (hs : Remaining first (.members ms) s)
    (hc : c.Holds (s ++ '}' :: r)) (hfuel : c.rest.length < fuel) :
    Gives (shape.members fuel first draft c) (fill columns draft ms) ('}' :: r) := by
  induction ms generalizing first s c fuel draft with
  | nil =>
    obtain ⟨fuel, rfl⟩ := Nat.exists_eq_add_one_of_ne_zero (Nat.ne_zero_of_lt hfuel)
    obtain ⟨c', hnext, hc'⟩ := hc.nextMember_end hs.members_nil first
    refine ⟨c', ?_, hc'⟩
    simp only [Shape.members, hnext, bind, Except.bind]
    rfl
  | cons m ms ih =>
    obtain ⟨name, v⟩ := m
    obtain ⟨fuel, rfl⟩ := Nat.exists_eq_add_one_of_ne_zero (Nat.ne_zero_of_lt hfuel)
    obtain ⟨lead, a, n, b, a', w, t, hlead, ha, hn, hb, ha', hw, ht, rfl⟩ := hs.members_cons
    simp only [List.append_assoc, List.cons_append] at hc
    obtain ⟨c₁, hnext, hc₁⟩ := hc.nextMember hlead ha
    cases hn with
    | noText body noText => exact members_fails hnext (hc₁.takeString_fails body noText)
    | @text name _ hn =>
    obtain ⟨c₂, htake, hc₂⟩ := hc₁.takeString hn
    obtain ⟨c₃, hcolon, hc₃⟩ := hc₂.takeColon hb
    have hafter : Follows (t ++ '}' :: r) := ht.follows (by decide) r
    have hshorter {c' : Cursor} (hc' : c'.Holds (t ++ '}' :: r)) : c'.rest.length < fuel := by
      have hlt := Cursor.Holds.length_lt_of_append
        (t := lead ++ (a ++ '"' :: (n ++ '"' :: (b ++ ':' :: (a' ++ w)))))
        (by simpa only [List.append_assoc, List.cons_append] using hc) hc' (by simp)
      omega
    have hdomain' : InDomain columns ms := fun column hcolumn w hw =>
      hdomain column hcolumn w (mem_valuesOf_cons_of_mem hw)
    have hv : ∀ column ∈ columns, column.name = name → column.domain v := by
      rintro column hcolumn rfl
      exact hdomain column hcolumn v (by rw [valuesOf_cons_self]; exact List.mem_cons_self)
    rw [members_step hnext htake hcolon]
    exact member_gives hfields hv ha' hw hafter hc₃ fun draft c' hc' =>
      ih hdomain' draft ht hc' (hshorter hc')

/-! ## Slots -/

/-- What the values of one name leave in a slot, unless they are too many or one means nothing. -/
def slot? (meaning : Value → Option α) : Option α → List Value → Option (Option α)
  | slot, [] => some slot
  | none, v :: vs => (meaning v).bind fun content => slot? meaning (some content) vs
  | some _, _ :: _ => none

/-- The meaning of the only value. -/
def sole? (meaning : Value → Option α) : List Value → Option α
  | [v] => meaning v
  | _ => none

/-- The meaning of the only value, a default if there is none. -/
def soleOr? (default : α) (meaning : Value → Option α) : List Value → Option α
  | [] => some default
  | vs => sole? meaning vs

/-- One value under a name is what a slot holds that is empty before and filled once. -/
theorem sole?_eq_slot? {meaning : Value → Option α} {vs : List Value} :
    sole? meaning vs = (slot? meaning none vs).join := by
  cases vs with
  | nil => rfl
  | cons v vs =>
    rw [slot?]
    cases vs with
    | nil => cases h : meaning v <;> simp [sole?, slot?, h]
    | cons w vs => cases h : meaning v <;> simp [sole?, slot?]

/-- One value under a name or none is what a slot holds that may stay empty. -/
theorem soleOr?_eq_slot? {meaning : Value → Option α} {vs : List Value} (default : α) :
    soleOr? default meaning vs = (slot? meaning none vs).map (·.getD default) := by
  cases vs with
  | nil => rfl
  | cons v vs =>
    change sole? meaning (v :: vs) = _
    rw [sole?_eq_slot?, slot?]
    cases vs <;> cases meaning v <;> simp [slot?]

/-- Two columns have different names and do not touch each other's slots. -/
def Apart (p q : Column δ) : Prop :=
  p.name ≠ q.name ∧ (∀ content draft, q.get (p.set content draft) = q.get draft) ∧
    ∀ content draft, p.get (q.set content draft) = p.get draft

instance : Std.Symm (Apart (δ := δ)) := ⟨fun _ _ h => ⟨h.1.symm, h.2.2, h.2.1⟩⟩

/-- A member of another name adds no value. -/
theorem valuesOf_cons_of_ne {other : String} (h : name ≠ other) :
    valuesOf ((some name, v) :: ms) other = valuesOf ms other := by
  rw [valuesOf, List.filter_cons, if_neg (by simpa using h)]
  rfl

/-- What the members leave in the slot of a column. -/
def Column.slot? (column : Column δ) (draft : δ) (ms : List Member) :
    Option (Option column.Content) :=
  Json.slot? column.meaning (column.get draft) (valuesOf ms column.name)

/-- The slots of the columns tell what the members fill into a draft. -/
def SlotsTell (columns : List (Column δ)) (draft : δ) (ms : List Member) :
    Option δ → Prop
  | some result => ∀ column ∈ columns, column.slot? draft ms = some (column.get result)
  | none => ∃ column ∈ columns, column.slot? draft ms = none

/-- What slots tell depends on the draft and the members by the slots alone. -/
theorem SlotsTell.congr {columns : List (Column δ)} {draft draft' : δ}
    {ms' : List Member} {outcome : Option δ} (h : SlotsTell columns draft' ms' outcome)
    (heq : ∀ column ∈ columns, column.slot? draft ms = column.slot? draft' ms') :
    SlotsTell columns draft ms outcome := by
  cases outcome with
  | some result => exact fun column hcolumn => (heq column hcolumn).trans (h column hcolumn)
  | none =>
    obtain ⟨column, hcolumn, hnone⟩ := h
    exact ⟨column, hcolumn, (heq column hcolumn).trans hnone⟩

/-- A member of another name leaves a slot as it is. -/
theorem Column.slot?_of_ne {column : Column δ} (h : name ≠ column.name) (draft : δ) :
    column.slot? draft ((some name, v) :: ms) = column.slot? draft ms := by
  rw [Column.slot?, valuesOf_cons_of_ne h, Column.slot?]

/-- A member of the name of a column is the next to go into its slot. -/
theorem Column.slot?_self (column : Column δ) (draft : δ) :
    column.slot? draft ((some column.name, v) :: ms) =
      Json.slot? column.meaning (column.get draft) (v :: valuesOf ms column.name) := by
  rw [Column.slot?, valuesOf_cons_self]

/-- Filling a slot changes what is read for its own column only. -/
theorem slot?_set {columns : List (Column δ)} (hapart : columns.Pairwise Apart) {p : Column δ}
    (hp : p ∈ columns) {draft : δ} (hempty : p.get draft = none) {content : p.Content}
    (hmeaning : p.meaning v = some content) {column : Column δ} (hcolumn : column ∈ columns) :
    column.slot? draft ((some p.name, v) :: ms) = column.slot? (p.set content draft) ms := by
  by_cases heq : p = column
  · subst heq
    rw [Column.slot?_self, hempty, Json.slot?, hmeaning, Column.slot?, p.get_set]
    rfl
  · obtain ⟨hname, hget, -⟩ := hapart.forall hp hcolumn heq
    rw [Column.slot?_of_ne hname, Column.slot?, Column.slot?, hget]

/-- Among members one of which has no text for a name a draft is never filled, wherever that member
stands. -/
theorem fill_eq_none_of_not_named {columns : List (Column δ)} (h : isNamed ms = false) (draft : δ) :
    fill columns draft ms = none := by
  induction ms generalizing draft with
  | nil => cases h
  | cons m ms ih =>
    obtain ⟨_ | name, v⟩ := m
    · rfl
    rw [fill]
    cases columns.find? (·.name == name) with
    | none => exact ih h draft
    | some column =>
      dsimp only
      split
      · rfl
      · cases column.meaning v with
        | none => rfl
        | some content => exact ih h (column.set content draft)

/-- A draft is filled with what its slots tell, each by the values under its own name. The induction
is on the members: one goes into the slot of its name, if there is one, and leaves all others as
they are. -/
theorem fill_slotsTell {columns : List (Column δ)} (hapart : columns.Pairwise Apart) (draft : δ)
    (hnamed : isNamed ms = true) : SlotsTell columns draft ms (fill columns draft ms) := by
  induction ms generalizing draft with
  | nil => exact fun _ _ => rfl
  | cons m ms ih =>
    obtain ⟨_ | name, v⟩ := m
    · cases hnamed
    have ih := fun draft => ih draft hnamed
    rw [fill]
    cases hfind : columns.find? (·.name == name) with
    | none =>
      refine (ih draft).congr fun column hcolumn => Column.slot?_of_ne (fun heq => ?_) draft
      have hne := List.find?_eq_none.mp hfind column hcolumn
      exact hne (by simp [heq])
    | some p =>
      have hp := List.mem_of_find?_eq_some hfind
      obtain rfl : p.name = name := by simpa using List.find?_some hfind
      dsimp only
      cases hslot : p.get draft with
      | some content =>
        rw [Option.isSome_some, if_pos rfl]
        exact ⟨p, hp, by rw [Column.slot?_self, hslot, Json.slot?]⟩
      | none =>
        rw [Option.isSome_none, if_neg Bool.false_ne_true]
        cases hmeaning : p.meaning v with
        | none => exact ⟨p, hp, by rw [Column.slot?_self, hslot, Json.slot?, hmeaning]; rfl⟩
        | some content =>
          exact (ih (p.set content draft)).congr fun column hcolumn =>
            slot?_set hapart hp hslot hmeaning hcolumn

/-! ## Whole records -/

/-- What an object gives as a record. -/
def recordOf (shape : Shape α δ) (columns : List (Column δ)) (ms : List Member) :
    Option α :=
  (fill columns shape.start ms).bind shape.finish

/-- An object with a name that has no text is no record. -/
theorem recordOf_eq_ite {shape : Shape α δ} {columns : List (Column δ)} {outcome : Option α}
    (h : isNamed ms = true → recordOf shape columns ms = outcome) :
    recordOf shape columns ms = if isNamed ms then outcome else none := by
  split
  next hnamed => exact h hnamed
  next hnamed =>
    rw [recordOf, fill_eq_none_of_not_named (eq_false_of_ne_true hnamed)]
    rfl

/-- An object with values in its columns that may stand there. -/
def IsRecord (columns : List (Column δ)) (v : Value) : Prop :=
  ∃ ms, v = .object ms ∧ InDomain columns ms

/-- Ending a record gives what the draft comes to, if a draft comes to nothing without the fields
that may not be missing. -/
theorem close_gives {shape : Shape α δ} {columns : List (Column δ)}
    (hfields : shape.fields = columns.map Column.field) {draft : δ}
    (hneeded : ∀ column ∈ columns, column.mayBeMissing = false → column.get draft = none →
      shape.finish draft = none) (hc : c.Holds r) :
    Gives (shape.close draft c) (shape.finish draft) r := by
  unfold Shape.close
  cases hfind : shape.fields.find? fun field => !field.mayBeMissing && !field.isRead draft with
  | none =>
    cases shape.finish draft with
    | none => exact c.fails_fail _
    | some result => exact gives_pure result hc
  | some field =>
    have hmissing := List.find?_some hfind
    have hmem := List.mem_of_find?_eq_some hfind
    rw [hfields] at hmem
    obtain ⟨column, hcolumn, rfl⟩ := List.mem_map.mp hmem
    simp only [Column.field, Bool.and_eq_true, Bool.not_eq_true', Option.isSome_eq_false_iff,
      Option.isNone_iff_eq_none] at hmissing
    rw [hneeded column hcolumn hmissing.1 hmissing.2]
    exact c.fails_fail _

/-- A record is decoded to what its columns make of the members of an object. Fields that are needed
have to be there, and anything that is no object fails. -/
theorem record_decodes {shape : Shape α δ} {columns : List (Column δ)}
    (hfields : shape.fields = columns.map Column.field)
    (hneeded : ∀ draft, ∀ column ∈ columns, column.mayBeMissing = false →
      column.get draft = none → shape.finish draft = none) :
    Decodes shape.decoder (IsRecord columns) fun v => v.object?.bind (recordOf shape columns) := by
  rintro v s a r c hs ⟨ms, rfl, hdomain⟩ ha hr hc
  obtain ⟨w, rfl, hw⟩ : ∃ w, s = '{' :: (w ++ ['}']) ∧ Remaining true (.members ms) w := by
    cases hs with
    | emptyObject space => exact ⟨_, rfl, .noMember space⟩
    | object members => exact ⟨_, rfl, .more .first members⟩
  simp only [List.cons_append, List.append_assoc] at hc
  obtain ⟨c₁, hbefore, hc₁⟩ := hc.beforeValue ha (by decide)
  have hstart : shape.decoder c =
      shape.members (c₁.rest.length + 1) true shape.start c₁.skip >>= fun p =>
        shape.close p.1 p.2.skip := by
    rw [Shape.decoder, hbefore]
    rfl
  have hlt : c₁.skip.rest.length < c₁.rest.length :=
    Cursor.Holds.length_lt_of_cons (s := []) hc₁ (hc₁.skip (by decide))
  rw [hstart]
  refine (members_gives hfields hdomain shape.start hw (hc₁.skip (by decide)) (by omega)).bind
    fun draft c₂ hc₂ => ?_
  exact close_gives hfields (hneeded draft) (hc₂.skip (by decide))

/-- Decoding all of a document gives what its value means, however it is written. Behind the value only
blanks may be left. -/
theorem decode_document {decoder : Decoder α} {domain : Value → Prop} {meaning : Value → Option α}
    (h : Decodes decoder domain meaning) {text : String} (hdoc : IsDocument v text)
    (hv : domain v) : (decode decoder (utf8 text)).toOption = meaning v := by
  have hholds : Cursor.Holds { rest := utf8 text } text.toList := utf8_eq_bytesOf text
  rw [IsDocument] at hdoc
  generalize text.toList = s at hdoc hholds
  cases hdoc with
  | @spaced _ a s b before value after =>
    have hfollows : Follows b := fun x hx =>
      List.mem_append_left _ (after x (List.mem_of_mem_head? hx))
    have hgives := h v s a b _ value hv before hfollows hholds
    rw [decode]
    cases hmeaning : meaning v with
    | none =>
      rw [hmeaning] at hgives
      obtain ⟨fault, hfault⟩ := hgives
      rw [hfault]
      rfl
    | some result =>
      rw [hmeaning] at hgives
      obtain ⟨c, hc, hrest⟩ := hgives
      have hend : c.skipSpace.Holds [] :=
        Cursor.Holds.skipSpace (a := b) (by rwa [List.append_nil]) after (fun x hx => nomatch hx)
      have hempty : c.skipSpace.rest.isEmpty = true := by
        rw [hend]
        rfl
      simp only [hc, bind, Except.bind, hempty, if_true]
      rfl

end Workday.Json
