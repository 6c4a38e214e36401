import Workday.Proofs.Yaml.Tokens

/-!
# The document of a mapping

The tokens of a written mapping give the parts of its entries. What a stream of events adds to a document is
told by `Gives`, from one state of the stream to another; each part costs at least one token, so the
stream is not given up too early. Where the tokens stand in the text does not matter: only the parts are
compared, and of a token only what it is.
-/

set_option autoImplicit false

namespace Workday.Yaml

open Document (Draft)

variable {ts : List Token} {kinds rest : List TokenKind} {parts parts' : List Part} {part : Part}
  {event : Event} {mark start : Mark} {outer : List Expected} {s s' s'' : EventStream} {text : List Char}

/-- Adds parts to a document. -/
def Document.Draft.addAll (d : Draft) (marked : Spot) : Draft :=
  { d with document := { d.document with parts := d.document.parts ++ marked } }

/-- Parts that are added in two portions are added in order. -/
theorem Document.Draft.addAll_addAll (d : Draft) (marked marked' : Spot) :
    (d.addAll marked).addAll marked' = d.addAll (marked ++ marked') := by
  simp only [addAll, List.append_assoc]

/-- The part that an event adds. -/
inductive Event.Adds : Event → Part → Prop
  | scalar (scalar : Scalar) : Adds (.scalar {} scalar) (.scalar none scalar)
  | mappingStart : Adds (.mappingStart {}) .mappingStart
  | mappingEnd : Adds .mappingEnd .mappingEnd

namespace EventStream

/-- The document that a stream goes on to, after what has been read of it. -/
def documentFrom (s : EventStream) (fuel : Nat) (d : Draft) : Document :=
  Document.ofEvents (s.run fuel).2 d (s.run fuel).1

/-- One event adds its part, and the document goes on from there. -/
theorem documentFrom_adds (h : s.next = .ok ((event, mark), s')) (hadds : event.Adds part) (fuel : Nat)
    (d : Draft) : s.documentFrom (fuel + 1) d = s'.documentFrom fuel (d.addAll [(part, mark)]) := by
  rw [documentFrom, run, h]
  cases hadds <;> rfl

/-- A stream goes on to another by parts, each of which uses up a token. -/
def Gives (parts : List Part) (s s' : EventStream) : Prop :=
  ∃ (marked : Spot) (i : Nat), marked.map Prod.fst = parts ∧ i + s'.tokens.length ≤ s.tokens.length ∧
    ∀ fuel d, s.documentFrom (fuel + i) d = s'.documentFrom fuel (d.addAll marked)

theorem Gives.refl (s : EventStream) : Gives [] s s :=
  ⟨[], 0, rfl, Nat.le_of_eq (Nat.zero_add _), fun fuel d => by simp [Document.Draft.addAll]⟩

/-- Where one way ends another begins, and the parts of both are given. -/
theorem Gives.trans (h : Gives parts s s') (h' : Gives parts' s' s'') : Gives (parts ++ parts') s s'' := by
  obtain ⟨marked, i, rfl, hi, hfrom⟩ := h
  obtain ⟨marked', i', rfl, hi', hfrom'⟩ := h'
  refine ⟨marked ++ marked', i' + i, List.map_append, by omega, fun fuel d => ?_⟩
  rw [← Nat.add_assoc, hfrom, hfrom', Document.Draft.addAll_addAll]

/-- An event that uses up a token gives its part. -/
theorem Gives.step (h : s.next = .ok ((event, mark), s')) (hadds : event.Adds part)
    (htokens : s'.tokens.length < s.tokens.length) : Gives [part] s s' :=
  ⟨[(part, mark)], 1, rfl, by omega, documentFrom_adds h hadds⟩

/-! ## Block mappings -/

/-- A stream in the only document of a text without directives. -/
def within (ts : List Token) (expected : Expected) (outer : List Expected) : EventStream :=
  { tokens := ts, fault := none, expected, outer, handles := standardHandles }

/-- The first token by its kind. Its place in the text is left open. -/
theorem exists_token {kind : TokenKind} (h : ts.map Token.kind = kind :: rest) :
    ∃ a b ts', ts = ⟨kind, a, b⟩ :: ts' ∧ ts'.map Token.kind = rest := by
  obtain ⟨⟨_, a, b⟩, ts', rfl, rfl, hrest⟩ := List.map_eq_cons_iff.mp h
  exact ⟨a, b, ts', rfl, hrest⟩

/-- In a block mapping a key and a scalar give the name of an entry. Its value comes next. -/
theorem gives_name {name : Scalar} (h : ts.map Token.kind = [.key, .scalar name] ++ rest) :
    ∃ ts', ts'.map Token.kind = rest ∧
      Gives [.scalar none name] (within ts (.blockKey start) outer) (within ts' (.blockValue start) outer) := by
  obtain ⟨_, _, _, rfl, h₁⟩ := exists_token h
  obtain ⟨_, _, ts, rfl, h₂⟩ := exists_token h₁
  exact ⟨ts, h₂, .step rfl (.scalar name) (Nat.lt_add_of_pos_right Nat.two_pos)⟩

/-- A scalar after the sign for a value gives the value, and the next entry may follow. -/
theorem gives_value {value : Scalar} (h : ts.map Token.kind = [.value, .scalar value] ++ rest) :
    ∃ ts', ts'.map Token.kind = rest ∧
      Gives [.scalar none value] (within ts (.blockValue start) outer) (within ts' (.blockKey start) outer) := by
  obtain ⟨_, _, _, rfl, h₁⟩ := exists_token h
  obtain ⟨_, _, ts, rfl, h₂⟩ := exists_token h₁
  exact ⟨ts, h₂, .step rfl (.scalar value) (Nat.lt_add_of_pos_right Nat.two_pos)⟩

/-- A block after the sign for a value begins an inner mapping. The outer one waits for its next
entry. -/
theorem gives_mappingStart (h : ts.map Token.kind = [.value, .blockMappingStart] ++ rest) :
    ∃ ts' inner, ts'.map Token.kind = rest ∧
      Gives [.mappingStart] (within ts (.blockValue start) outer)
        (within ts' (.blockKey inner) (.blockKey start :: outer)) := by
  obtain ⟨_, _, _, rfl, h₁⟩ := exists_token h
  obtain ⟨inner, _, ts, rfl, h₂⟩ := exists_token h₁
  exact ⟨ts, inner, h₂, .step rfl .mappingStart (Nat.lt_add_of_pos_right Nat.two_pos)⟩

/-- The end of a block ends its mapping, and what was waiting around it goes on. -/
theorem gives_mappingEnd {after : Expected} (h : ts.map Token.kind = [.blockEnd] ++ rest) :
    ∃ ts', ts'.map Token.kind = rest ∧
      Gives [.mappingEnd] (within ts (.blockKey start) (after :: outer)) (within ts' after outer) := by
  obtain ⟨_, _, ts, rfl, h₁⟩ := exists_token h
  exact ⟨ts, h₁, .step rfl .mappingEnd (Nat.lt_succ_self _)⟩

/-- Entries of a block mapping with these tokens give these parts, wherever the mapping is. -/
def Entries (kinds : List TokenKind) (parts : List Part) : Prop :=
  ∀ ⦃start : Mark⦄ ⦃outer : List Expected⦄ ⦃rest : List TokenKind⦄ ⦃ts : List Token⦄,
    ts.map Token.kind = kinds ++ rest →
      ∃ ts', ts'.map Token.kind = rest ∧
        Gives parts (within ts (.blockKey start) outer) (within ts' (.blockKey start) outer)

/-- Items that are entries each on their own are entries together. -/
theorem Entries.flatMap {ι : Type} {tokens : ι → List TokenKind} {parts : ι → List Part} {items : List ι}
    (h : ∀ i ∈ items, Entries (tokens i) (parts i)) : Entries (items.flatMap tokens) (items.flatMap parts) := by
  induction items with
  | nil => exact fun start outer rest ts hts => ⟨ts, hts, .refl _⟩
  | cons i items ih =>
    obtain ⟨hi, hitems⟩ := List.forall_mem_cons.mp h
    intro start outer rest ts hts
    rw [List.flatMap_cons, List.append_assoc] at hts
    obtain ⟨ts₁, hts₁, hgives₁⟩ := hi hts
    obtain ⟨ts₂, hts₂, hgives₂⟩ := ih hitems hts₁
    exact ⟨ts₂, hts₂, hgives₁.trans hgives₂⟩

/-- A name and a scalar are an entry. -/
theorem entries_scalar (name value : Scalar) :
    Entries [.key, .scalar name, .value, .scalar value] [.scalar none name, .scalar none value] := by
  intro start outer rest ts hts
  obtain ⟨ts₁, hts₁, hgives₁⟩ := gives_name hts
  obtain ⟨ts₂, hts₂, hgives₂⟩ := gives_value hts₁
  exact ⟨ts₂, hts₂, hgives₁.trans hgives₂⟩

theorem entries_pair {p : Pair} (h : p.tag = none) :
    Entries p.tokens [.scalar none p.name, .scalar p.tag p.value] := by
  rw [h]
  exact entries_scalar p.name p.value

/-- An entry without tags gives its parts. One with a section goes into the inner mapping and comes
back. -/
theorem entries_entry {e : Entry} (h : e.content.Untagged) : Entries e.tokens e.parts := by
  obtain ⟨name, content⟩ := e
  cases content with
  | scalar tag value =>
    obtain rfl : tag = none := h
    exact entries_scalar name value
  | mapping pairs =>
    intro start outer rest ts hts
    have htokens : Entry.tokens ⟨name, .mapping pairs⟩ ++ rest =
        [.key, .scalar name] ++ ([.value, .blockMappingStart] ++
          (pairs.flatMap Pair.tokens ++ ([.blockEnd] ++ rest))) := by
      simp [Entry.tokens, Content.tokens]
    rw [htokens] at hts
    obtain ⟨ts₁, hts₁, hgives₁⟩ := gives_name hts
    obtain ⟨ts₂, inner, hts₂, hgives₂⟩ := gives_mappingStart hts₁
    obtain ⟨ts₃, hts₃, hgives₃⟩ := Entries.flatMap (fun p hp => entries_pair (h p hp)) hts₂
    obtain ⟨ts₄, hts₄, hgives₄⟩ := gives_mappingEnd hts₃
    exact ⟨ts₄, hts₄, hgives₁.trans (hgives₂.trans (hgives₃.trans hgives₄))⟩

/-! ## Whole texts -/

/-- From the start of the document to the end of its mapping. -/
theorem gives_document {es : List Entry} (hes : ∀ e ∈ es, e.content.Untagged)
    (h : ts.map Token.kind = .blockMappingStart :: es.flatMap Entry.tokens ++ [.blockEnd] ++ rest) :
    ∃ ts', ts'.map Token.kind = rest ∧
      Gives (.mappingStart :: es.flatMap Entry.parts ++ [.mappingEnd]) (within ts (.content false) [])
        (within ts' .documentEnd []) := by
  simp only [List.cons_append, List.append_assoc] at h
  obtain ⟨start, stop, ts₁, rfl, h₁⟩ := exists_token h
  have hgives₁ : Gives [.mappingStart] (within (⟨.blockMappingStart, start, stop⟩ :: ts₁) (.content false) [])
      (within ts₁ (.blockKey start) [.documentEnd]) :=
    .step rfl .mappingStart (Nat.lt_succ_self _)
  obtain ⟨ts₂, h₂, hgives₂⟩ := Entries.flatMap (fun e he => entries_entry (hes e he)) h₁
  obtain ⟨ts₃, h₃, hgives₃⟩ := gives_mappingEnd h₂
  exact ⟨ts₃, h₃, hgives₁.trans (hgives₂.trans hgives₃)⟩

/-- The start of the text and that of the document add nothing. -/
theorem documentFrom_start {a b : Mark} (fuel : Nat) (d : Draft) :
    documentFrom { tokens := ⟨.blockMappingStart, a, b⟩ :: ts, fault := none } (fuel + 1) d =
      documentFrom (within (⟨.blockMappingStart, a, b⟩ :: ts) (.content false) []) fuel d := rfl

/-- The end of the document and that of the text add nothing. No other document follows. -/
theorem documentFrom_end {a b : Mark} (fuel : Nat) (d : Draft) :
    documentFrom (within [⟨.streamEnd, a, b⟩] .documentEnd []) (fuel + 2) d =
      { d.document with isFollowed := false } := rfl

end EventStream

/-! ## Written mappings -/

/-- What holds of written items holds of those in a written sequence. -/
theorem Sequence.forall {ι : Type} {ItemWritten : ι → Bool → Nat → List Char → Prop} {column k : Nat}
    {items : List ι} {crosses : Bool} {p : ι → Prop}
    (hitem : ∀ ⦃item crosses k text⦄, ItemWritten item crosses k text → p item)
    (h : Sequence ItemWritten column items crosses k text) : ∀ i ∈ items, p i := by
  induction h with
  | last h => exact List.forall_mem_singleton.mpr (hitem h)
  | more h _ ih => exact List.forall_mem_cons.mpr ⟨hitem h, ih⟩

/-- A written entry has no tags: the grammar has no way to write one. -/
theorem EntryWritten.untagged {column k : Nat} {e : Entry} {crosses : Bool}
    (h : EntryWritten column e crosses k text) : e.content.Untagged := by
  cases h with
  | scalar => rfl
  | mapping _ _ _ _ hpairs =>
    refine hpairs.forall fun p _ _ _ hp => ?_
    cases hp
    rfl

/-- A written mapping has no tags. -/
theorem MappingWritten.untagged {es : List Entry} (h : MappingWritten es text) :
    ∀ e ∈ es, e.content.Untagged := by
  cases h with
  | empty => exact List.forall_mem_nil _
  | entries _ hentries => exact hentries.forall fun _ _ _ _ => EntryWritten.untagged

namespace Document

/-- The document of a text whose tokens are known, with turns enough for all of them. -/
theorem ofText_eq {text : String} (h : tokensOf text.toList = (ts, none)) :
    ofText text = EventStream.documentFrom { tokens := ts, fault := none } (4 * ts.length + 8) {} := by
  rw [ofText, eventsOf, h]
  rfl

/-- A written mapping with entries is the document of its text. -/
theorem holds_of_written {es : List Entry} {text : String} (hes : es ≠ [])
    (h : MappingWritten es text.toList) : (ofText text).Holds es := by
  obtain ⟨ts, hkinds, htokens⟩ := tokensOf_mapping h
  rw [mappingTokens_of_ne hes] at hkinds
  obtain ⟨ts', hend, marked, i, hparts, hi, hfrom⟩ := EventStream.gives_document h.untagged hkinds
  obtain ⟨a, b, _, rfl, hnil⟩ := EventStream.exists_token hend
  obtain rfl := List.map_eq_nil_iff.mp hnil
  obtain ⟨start, stop, us, rfl, -⟩ := EventStream.exists_token hkinds
  have hi : i + 1 ≤ us.length + 1 := hi
  obtain ⟨fuel, hfuel⟩ : ∃ fuel, 4 * (us.length + 1) + 8 = fuel + 2 + i + 1 :=
    ⟨4 * (us.length + 1) + 5 - i, by omega⟩
  rw [ofText_eq htokens, List.length_cons, hfuel, EventStream.documentFrom_start, hfrom,
    EventStream.documentFrom_end]
  exact ⟨hparts, rfl, rfl⟩

/-- Without entries there is no document. -/
theorem void_of_written {text : String} (h : MappingWritten [] text.toList) :
    ∃ mark, ofText text = { parts := [(.void, mark)] } := by
  obtain ⟨ts, hkinds, htokens⟩ := tokensOf_mapping h
  obtain ⟨mark, stop, us, rfl, hnil⟩ := EventStream.exists_token hkinds
  obtain rfl := List.map_eq_nil_iff.mp hnil
  exact ⟨mark, ofText_eq htokens⟩

end Document

end Workday.Yaml
