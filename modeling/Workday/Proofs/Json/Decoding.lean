import Workday.Proofs.Json.Skipping

/-!
# Decoding documents

What a decoder makes of a written value is told by the value alone, not by how it is written:
`Decodes` relates the two, on the values of a domain. Lists are read in a loop over what remains of
them; `Remaining` describes that for lists and objects alike.
-/

set_option autoImplicit false

namespace Workday.Json

variable {α β : Type} {c : Cursor} {v : Value} {x : Char} {a b s r : List Char}

/-- A reading gives a content and stops before a text. Where there is no content it fails. -/
def Gives (result : Except Fault (α × Cursor)) (outcome : Option α) (r : List Char) : Prop :=
  match outcome with
  | some value => ∃ c, result = .ok (value, c) ∧ c.Holds r
  | none => Fails result

/-- What is returned is given, and the cursor stays. -/
theorem gives_pure (value : α) (hc : c.Holds r) :
    Gives (pure (value, c)) (some value) r := ⟨c, rfl, hc⟩

/-- Decoders in a row give what their outcomes in a row give: the second goes on where the first has
left the cursor, and a failure of either is a failure of both. -/
theorem Gives.bind {result : Except Fault (α × Cursor)} {outcome : Option α} {r' : List Char}
    {next : α × Cursor → Except Fault (β × Cursor)} {outcome' : α → Option β}
    (h : Gives result outcome r)
    (hnext : ∀ value c, c.Holds r → Gives (next (value, c)) (outcome' value) r') :
    Gives (result >>= next) (outcome.bind outcome') r' := by
  cases outcome with
  | none => exact Fails.bind h next
  | some value =>
    obtain ⟨c, rfl, hc⟩ := h
    exact hnext value c hc

/-- Decoding a value of the domain gives what the value means, however it is written. -/
def Decodes (decoder : Decoder α) (domain : Value → Prop) (meaning : Value → Option α) : Prop :=
  ∀ v s a r c, Written (.value v) s → domain v → IsSpace a → Follows r →
    Cursor.Holds c (a ++ (s ++ r)) → Gives (decoder c) (meaning v) r

/-- A decoder that is right about some values is right about fewer. -/
theorem Decodes.mono {decoder : Decoder α} {domain domain' : Value → Prop}
    {meaning : Value → Option α} (h : Decodes decoder domain meaning)
    (hdomain : ∀ v, domain' v → domain v) : Decodes decoder domain' meaning :=
  fun v s a r c hs hv => h v s a r c hs (hdomain v hv)

/-! ## Scalars -/

/-- Only strings start with a quote. -/
theorem Starts.quote (h : Starts v '"') : ∃ text, v = .string text := by
  cases v with
  | string text => exact ⟨text, rfl⟩
  | bool b => cases b <;> simp [Starts] at h
  | _ => simp [Starts] at h

/-- Only arrays start with a square bracket. -/
theorem Starts.bracket (h : Starts v '[') : ∃ vs, v = .array vs := by
  cases v with
  | array vs => exact ⟨vs, rfl⟩
  | bool b => cases b <;> simp [Starts] at h
  | _ => simp [Starts] at h

/-- A value of the wrong kind is reported, whatever it starts with. -/
theorem Cursor.wrongKind_fails (c : Cursor) (x : Char) (wanted : String) :
    Fails (c.wrongKind x wanted : Except Fault α) := by
  unfold Cursor.wrongKind
  cases Cursor.wrongKind.found c x with
  | error fault => exact ⟨fault, rfl⟩
  | ok p => exact p.2.fails_fail _

/-- A string is decoded to its text, and the text is read. A string that is no text fails, and so
does a text that is not read and a value of any other kind. -/
theorem stringWith_decodes (wanted : String) (read : String → Except String α) :
    Decodes (stringWith wanted read) (fun _ => True)
      fun v => v.string?.bind fun text => (read text).toOption := by
  intro v s a r c hs _ ha hr hc
  show Gives (stringWith wanted read c) (v.string?.bind fun text => (read text).toOption) r
  obtain ⟨x, t, hx, rfl⟩ := value_start hs
  obtain ⟨c₁, hbefore, hc₁⟩ := Cursor.Holds.beforeValue hc ha hx.mem_valueStarts
  rw [stringWith, hbefore]
  simp only [bind, Except.bind]
  by_cases hquote : x = '"'
  · subst hquote
    rw [bne_self_eq_false, if_neg Bool.false_ne_true]
    have hinside := hc₁.skip (by decide)
    obtain ⟨text, rfl⟩ := hx.quote
    cases hs with
    | string chars =>
      rw [List.append_eq, List.append_assoc] at hinside
      cases chars with
      | @text text _ chars =>
        obtain ⟨c₂, htake, hc₂⟩ := hinside.takeString chars
        simp only [htake, Value.string?, Option.bind_some]
        cases read text with
        | ok value => exact gives_pure value hc₂
        | error message => exact c₂.fails_fail _
      | noText body noText => exact (hinside.takeString_fails body noText).bind _
  · -- only a string begins with a quote, so the value is no string
    have hnone : v.string? = none := by
      cases v with
      | string text => exact absurd hx hquote
      | _ => rfl
    rw [if_pos (bne_iff_ne.mpr hquote), hnone]
    exact c₁.wrongKind_fails x wanted

/-- A string is decoded to its text. -/
theorem string_decodes : Decodes string (fun _ => True) Value.string? := by
  have h := stringWith_decodes "a string" (Except.ok (ε := String))
  have hmeaning : (fun v : Value => v.string?.bind fun text =>
      (Except.ok (ε := String) text).toOption) = Value.string? := by
    funext v
    exact Option.bind_fun_some v.string?
  rwa [hmeaning] at h

/-- A truth value is decoded to itself. Every other value starts with another character and fails by
it. -/
theorem boolean_decodes : Decodes boolean (fun _ => True) Value.bool? := by
  intro v s a r c hs _ ha hr hc
  obtain ⟨x, t, hx, rfl⟩ := value_start hs
  obtain ⟨c₁, hbefore, hc₁⟩ := Cursor.Holds.beforeValue hc ha hx.mem_valueStarts
  rw [boolean, hbefore]
  by_cases hbool : ∃ b, v = .bool b
  · obtain ⟨b, rfl⟩ := hbool
    cases hs with
    | trueWord =>
      obtain ⟨c₂, htake, hc₂⟩ :=
        Cursor.Holds.takeWord "rue".toList (hc₁.skip (by decide)) (forall_mem_of_all rfl)
      simp only [bind, Except.bind, htake]
      exact gives_pure true hc₂
    | falseWord =>
      obtain ⟨c₂, htake, hc₂⟩ :=
        Cursor.Holds.takeWord "alse".toList (hc₁.skip (by decide)) (forall_mem_of_all rfl)
      simp only [bind, Except.bind, htake]
      exact gives_pure false hc₂
  · have hmeaning : v.bool? = none := by
      cases v with
      | bool b => exact absurd ⟨b, rfl⟩ hbool
      | _ => rfl
    rw [hmeaning]
    simp only [bind, Except.bind]
    split
    · cases v with
      | bool b => exact absurd ⟨b, rfl⟩ hbool
      | _ => simp [Starts] at hx
    · cases v with
      | bool b => exact absurd ⟨b, rfl⟩ hbool
      | _ => simp [Starts] at hx
    · exact c₁.wrongKind_fails x _

/-! ## Lists -/

/-- What remains of a collection: space before its end, or parts, which a comma comes before unless
they are the first ones. -/
inductive Remaining (first : Bool) : Part → List Char → Prop where
  | noElement {b : List Char} (space : IsSpace b) : Remaining first (.elements []) b
  | noMember {b : List Char} (space : IsSpace b) : Remaining first (.members []) b
  | more {part : Part} {lead s : List Char} (before : Lead first lead) (rest : Written part s) :
      Remaining first part (lead ++ s)

/-- What remains of a list or an object may follow a number. -/
theorem Remaining.follows {part : Part} (h : Remaining false part s)
    (hx : x ∈ spaces ++ [',', ']', '}']) (r : List Char) : Follows (s ++ x :: r) := by
  cases h with
  | noElement space | noMember space => exact follows_append space (follows_cons hx r)
  | more before rest =>
    cases before with
    | later space =>
      rw [List.append_assoc, List.append_assoc]
      exact follows_append space (follows_cons (by decide) _)

/-- Where no elements remain there is only white space. -/
theorem Remaining.elements_nil {first : Bool} (h : Remaining first (.elements []) s) :
    IsSpace s := by
  cases h with
  | noElement space => exact space
  | more _ rest => cases rest

/-- Where elements remain there is a comma, unless the first comes, then an element, then the rest
of them. -/
theorem Remaining.elements_cons {first : Bool} {vs : List Value}
    (h : Remaining first (.elements (v :: vs)) s) :
    ∃ lead a w t, Lead first lead ∧ IsSpace a ∧ Written (.value v) w ∧
      Remaining false (.elements vs) t ∧ s = lead ++ (a ++ (w ++ t)) := by
  cases h with
  | @more _ lead s before rest =>
    cases rest with
    | element value =>
      cases value with
      | @spaced _ a w b ha hw hb => exact ⟨lead, a, w, b, before, ha, hw, .noElement hb, rfl⟩
    | @elements _ _ s t value rest =>
      cases value with
      | @spaced _ a w b ha hw hb =>
        refine ⟨lead, a, w, b ++ [','] ++ t, before, ha, hw, .more (.later hb) rest, ?_⟩
        simp only [List.append_assoc, List.singleton_append]

/-- Reading the elements of a list gives what they mean, all of them in order. The values that have been
read are kept in reverse; the fuel is more than the bytes that are left, and each element takes one. -/
theorem elements_gives {element : Decoder α} {domain : Value → Prop} {meaning : Value → Option α}
    (h : Decodes element domain meaning) {vs : List Value} (hvs : ∀ v ∈ vs, domain v)
    {first : Bool} {fuel : Nat} (values : List α) (hs : Remaining first (.elements vs) s)
    (hc : c.Holds (s ++ ']' :: r)) (hfuel : c.rest.length < fuel) :
    Gives (elements element fuel first values c) ((vs.mapM meaning).map (values.reverse ++ ·))
      (']' :: r) := by
  induction vs generalizing first s c fuel values with
  | nil =>
    obtain ⟨fuel, rfl⟩ := Nat.exists_eq_add_one_of_ne_zero (Nat.ne_zero_of_lt hfuel)
    obtain ⟨c', hnext, hc'⟩ := hc.nextElement_end hs.elements_nil first
    refine ⟨c', ?_, hc'⟩
    simp only [elements, hnext, bind, Except.bind, List.reverse_nil, List.append_nil]
    rfl
  | cons v vs ih =>
    obtain ⟨fuel, rfl⟩ := Nat.exists_eq_add_one_of_ne_zero (Nat.ne_zero_of_lt hfuel)
    obtain ⟨lead, a, w, t, hlead, ha, hw, ht, rfl⟩ := hs.elements_cons
    obtain ⟨x, u, hx, rfl⟩ := value_start hw
    simp only [List.append_assoc] at hc
    obtain ⟨c₁, hnext, hc₁⟩ := hc.nextElement hlead ha hx.mem_valueStarts
    have hle := hc.length_le_of_suffix hc₁ ⟨lead ++ a, List.append_assoc _ _ _⟩
    have hstep : elements element (fuel + 1) first values c =
        element c₁ >>= fun p => elements element fuel false (p.1 :: values) p.2 := by
      simp only [elements, hnext, bind, Except.bind]
      rfl
    have hmeaning : ((v :: vs).mapM meaning).map (values.reverse ++ ·) =
        (meaning v).bind fun y => (vs.mapM meaning).map ((y :: values).reverse ++ ·) := by
      rw [List.mapM_cons]
      cases meaning v with
      | none => rfl
      | some y => cases vs.mapM meaning <;> simp
    rw [hstep, hmeaning]
    refine Gives.bind (h v _ [] _ c₁ hw (hvs v List.mem_cons_self) isSpace_nil
      (ht.follows (by decide) r) hc₁) fun y c₂ hc₂ => ?_
    have hlt := hc₁.length_lt_of_cons hc₂
    have hfuel₂ : c₂.rest.length < fuel := by omega
    exact ih (fun w hw => hvs w (List.mem_cons_of_mem v hw)) (y :: values) ht hc₂ hfuel₂

/-- A list is decoded element by element, and it fails if one of them does, or if it is none. Nothing is
known of a list whose elements are not in the domain of their decoder. -/
theorem list_decodes {element : Decoder α} {domain : Value → Prop} {meaning : Value → Option α}
    (h : Decodes element domain meaning) :
    Decodes (list element) (fun v => ∀ vs, v = .array vs → ∀ w ∈ vs, domain w)
      fun v => v.array?.bind fun vs => vs.mapM meaning := by
  intro v s a r c hs hv ha hr hc
  show Gives (list element c) (v.array?.bind fun vs => vs.mapM meaning) r
  obtain ⟨x, t, hx, rfl⟩ := value_start hs
  obtain ⟨c₁, hbefore, hc₁⟩ := Cursor.Holds.beforeValue hc ha hx.mem_valueStarts
  have hstart : list element c =
      if x != '[' then c₁.wrongKind x "a sequence"
      else elements element c₁.rest.length true [] c₁.skip >>= fun p =>
        p.2.endList >>= fun c => pure (p.1, c) := by
    rw [list, hbefore]
    rfl
  rw [hstart]
  by_cases hbracket : x = '['
  · subst hbracket
    obtain ⟨vs, rfl⟩ := hx.bracket
    rw [bne_self_eq_false, if_neg Bool.false_ne_true]
    obtain ⟨w, rfl, hw⟩ : ∃ w, t = w ++ [']'] ∧ Remaining true (.elements vs) w := by
      cases hs with
      | emptyArray space => exact ⟨_, rfl, .noElement space⟩
      | array elements => exact ⟨_, rfl, .more .first elements⟩
    have hinside := hc₁.skip (by decide)
    rw [List.append_eq, List.append_assoc] at hinside
    have hlt : c₁.skip.rest.length < c₁.rest.length :=
      Cursor.Holds.length_lt_of_cons (s := []) hc₁ (hc₁.skip (by decide))
    have hmap : (vs.mapM meaning).map (([] : List α).reverse ++ ·) = vs.mapM meaning :=
      Option.map_id'
    have helements := elements_gives h (hv vs rfl) [] hw hinside hlt
    rw [hmap] at helements
    rw [Value.array?, Option.bind_some, ← Option.bind_fun_some (vs.mapM meaning)]
    refine Gives.bind helements fun values c₂ hc₂ => ?_
    obtain ⟨c₃, hend, hc₃⟩ := Cursor.Holds.endList hc₂ isSpace_nil
    rw [hend]
    exact gives_pure values hc₃
  · have hnone : v.array? = none := by
      cases v with
      | array vs => exact absurd hx hbracket
      | _ => rfl
    rw [if_pos (bne_iff_ne.mpr hbracket), hnone]
    exact c₁.wrongKind_fails x _

end Workday.Json
