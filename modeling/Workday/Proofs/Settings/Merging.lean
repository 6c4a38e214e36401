import Workday.Proofs.Yaml.Events
import Workday.Proofs.Yaml.Sections
import Workday.Proofs.Yaml.Writing
import Workday.Settings.Text

/-!
# Settings given in part

Settings of which some are given in a text and the others keep their defaults, one by one. What is given may
stand in any order, among entries of other names, and a section of which nothing is given may be missing.
-/

set_option autoImplicit false

namespace Workday

open Yaml (Content Document Entry EntryWritten Gap MappingWritten Pair PairWritten QuotedChar Scalar
  ScalarWritten contentsOf count_name_entries count_name_pairs decimal get_foldl get_foldl_scalar isRead_field
  isRead_other mem_scalarsOf natural? natural?_decimal quoted scalarsOf written_bare written_decimal)
open Yaml.Reader (IsRead field fieldsOf fieldsOf_eq natural64 natural64_decimal optional_quoted read_field
  text_scalar)

/-! ## What is given -/

namespace Settings

/-- Settings of which some are given. -/
structure Given where
  url : Option String := none
  timeoutSecs : Option UInt64 := none
  healthTimeoutSecs : Option UInt64 := none
  ttlSecs : Option UInt64 := none
  level : Option String := none
  file : Option String := none

/-- The settings given, and the defaults of the others. -/
def Given.settings (g : Given) : Settings where
  feed :=
    let default : FeedSettings := {}
    { url := g.url.getD default.url
      timeoutSecs := (g.timeoutSecs.map UInt64.toNat).getD default.timeoutSecs
      healthTimeoutSecs := (g.healthTimeoutSecs.map UInt64.toNat).getD default.healthTimeoutSecs
      ttlSecs := (g.ttlSecs.map UInt64.toNat).getD default.ttlSecs }
  log :=
    let default : LogSettings := {}
    { level := g.level.getD default.level
      file := g.file.or default.file }

/-- The pairs of the section on the feed: those of the settings given, and others. -/
structure Given.Feed (g : Given) (ps : List Pair) : Prop where
  url : scalarsOf ps "url" = (g.url.map quoted).toList
  timeoutSecs : scalarsOf ps "timeout_secs" = (g.timeoutSecs.map (decimal ·.toNat)).toList
  healthTimeoutSecs : scalarsOf ps "health_timeout_secs" = (g.healthTimeoutSecs.map (decimal ·.toNat)).toList
  ttlSecs : scalarsOf ps "cache_ttl_secs" = (g.ttlSecs.map (decimal ·.toNat)).toList

/-- The pairs of the section on logging: those of the settings given, and others. -/
structure Given.Log (g : Given) (ps : List Pair) : Prop where
  level : scalarsOf ps "level" = (g.level.map quoted).toList
  file : scalarsOf ps "file" = (g.file.map quoted).toList

/-- The section of a name, which may be left out if it can do without pairs. -/
inductive Section (es : List Entry) (name : String) (holds : List Pair → Prop) : Prop
  | leftOut (none : contentsOf es name = []) (empty : holds [])
  | written {ps : List Pair} (once : contentsOf es name = [.mapping ps]) (pairs : holds ps)

/-- A mapping gives these settings and no others. The entries of other names are scalars. -/
structure Given.In (g : Given) (es : List Entry) : Prop where
  feed : Section es "bank_holidays" g.Feed
  log : Section es "log" g.Log
  others : ∀ e ∈ es, e.name.value ≠ "bank_holidays" → e.name.value ≠ "log" →
    ∃ tag scalar, e.content = .scalar tag scalar

end Settings

variable {g : Settings.Given} {ps : List Pair} {p : Pair}

/-! ## The section on the feed -/

namespace FeedSettings

/-- The number that a scalar is. -/
def secs (s : Scalar) : Nat := (natural? s.value.toList).getD 0

/-- A number of seconds is found again by its digits. -/
theorem secs_decimal (n : Nat) : secs (decimal n) = n := by
  rw [secs, natural?_decimal]
  rfl

/-- What a pair changes. -/
def put (s : FeedSettings) (p : Pair) : FeedSettings :=
  if p.name.value = "url" then { s with url := p.value.value }
  else if p.name.value = "timeout_secs" then { s with timeoutSecs := secs p.value }
  else if p.name.value = "health_timeout_secs" then { s with healthTimeoutSecs := secs p.value }
  else if p.name.value = "cache_ttl_secs" then { s with ttlSecs := secs p.value }
  else s

/-- A pair of seconds is read as the number it gives. -/
theorem isRead_secs {name : String} {given : Option UInt64} {set : FeedSettings → Nat → FeedSettings}
    {change : FeedSettings → FeedSettings} (hp : p ∈ ps) (hname : p.name.value = name)
    (hfind : fields.find? (·.name == name) = some (field name natural64 set))
    (hgiven : scalarsOf ps name = (given.map (decimal ·.toNat)).toList)
    (hchange : ∀ s, change s = set s (secs p.value)) : IsRead fields change p.entry := by
  have hmem := mem_scalarsOf hp hname
  rw [hgiven, Option.mem_toList, Option.map_eq_some_iff] at hmem
  obtain ⟨n, -, hn⟩ := hmem
  refine isRead_field (by rw [hname]; exact hfind) fun within s d path m rest => ?_
  rw [hchange, ← hn, secs_decimal]
  exact read_field (natural64_decimal n)

/-- An entry of the feed section is read into the field of its name. -/
theorem isRead_put (hg : g.Feed ps) (hp : p ∈ ps) : IsRead fields (put · p) p.entry := by
  by_cases hurl : p.name.value = "url"
  · refine isRead_field (by rw [hurl]; rfl) fun within s d path m rest => ?_
    simp only [put, if_pos hurl]
    exact read_field text_scalar
  by_cases htimeout : p.name.value = "timeout_secs"
  · exact isRead_secs hp htimeout rfl hg.timeoutSecs fun s => by simp [put, htimeout]
  by_cases hhealth : p.name.value = "health_timeout_secs"
  · exact isRead_secs hp hhealth rfl hg.healthTimeoutSecs fun s => by simp [put, hhealth]
  by_cases httl : p.name.value = "cache_ttl_secs"
  · exact isRead_secs hp httl rfl hg.ttlSecs fun s => by simp [put, httl]
  refine isRead_other ?_ fun s => by simp only [put, hurl, htimeout, hhealth, httl, if_false]
  simp only [fields, field, List.mem_cons, List.not_mem_nil, or_false, forall_eq_or_imp, forall_eq]
  exact ⟨hurl, htimeout, hhealth, httl⟩

/-- No setting is given twice. -/
theorem count_name_le_one (hg : g.Feed ps) :
    ∀ f ∈ fields, (ps.map fun p => p.entry.name.value).count f.name ≤ 1 := by
  simp only [fields, field, List.mem_cons, List.not_mem_nil, or_false, forall_eq_or_imp, forall_eq,
    count_name_pairs, hg.url, hg.timeoutSecs, hg.healthTimeoutSecs, hg.ttlSecs]
  exact ⟨Option.length_toList_le, Option.length_toList_le, Option.length_toList_le,
    Option.length_toList_le⟩

/-- The pairs leave what is given over the defaults. -/
theorem foldl_put (hg : g.Feed ps) : ps.foldl put {} = g.settings.feed := by
  have hurl := get_foldl_scalar put url Scalar.value {}
    (fun s p hp => by simp [put, hp]) (fun s p hp => by grind [put]) hg.url
  have htimeout := get_foldl_scalar put timeoutSecs secs {}
    (fun s p hp => by simp [put, hp]) (fun s p hp => by grind [put]) hg.timeoutSecs
  have hhealth := get_foldl_scalar put healthTimeoutSecs secs {}
    (fun s p hp => by simp [put, hp]) (fun s p hp => by grind [put]) hg.healthTimeoutSecs
  have httl := get_foldl_scalar put ttlSecs secs {}
    (fun s p hp => by simp [put, hp]) (fun s p hp => by grind [put]) hg.ttlSecs
  have hsecs : secs ∘ (decimal ·.toNat) = UInt64.toNat := funext fun n => secs_decimal n.toNat
  have hvalue : Scalar.value ∘ quoted = id := rfl
  rw [hvalue, Option.map_id_fun, id] at hurl
  rw [hsecs] at htimeout hhealth httl
  calc ps.foldl put {}
      = ⟨(ps.foldl put {}).url, (ps.foldl put {}).timeoutSecs, (ps.foldl put {}).healthTimeoutSecs,
          (ps.foldl put {}).ttlSecs⟩ := rfl
    _ = g.settings.feed := by
        rw [hurl, htimeout, hhealth, httl]
        rfl

end FeedSettings

/-! ## The section on logging -/

namespace LogSettings

/-- What a pair changes. -/
def put (s : LogSettings) (p : Pair) : LogSettings :=
  if p.name.value = "level" then { s with level := p.value.value }
  else if p.name.value = "file" then { s with file := some p.value.value }
  else s

/-- An entry of the log section is read into the field of its name. -/
theorem isRead_put (hg : g.Log ps) (hp : p ∈ ps) : IsRead fields (put · p) p.entry := by
  by_cases hlevel : p.name.value = "level"
  · refine isRead_field (by rw [hlevel]; rfl) fun within s d path m rest => ?_
    simp only [put, if_pos hlevel]
    exact read_field text_scalar
  by_cases hfile : p.name.value = "file"
  · have hmem := mem_scalarsOf hp hfile
    rw [hg.file, Option.mem_toList, Option.map_eq_some_iff] at hmem
    obtain ⟨file, -, hquoted⟩ := hmem
    refine isRead_field (by rw [hfile]; rfl) fun within s d path m rest => ?_
    simp only [put, if_neg hlevel, if_pos hfile, ← hquoted, Yaml.Reader.map, optional_quoted]
    rfl
  refine isRead_other ?_ fun s => by simp only [put, hlevel, hfile, if_false]
  simp only [fields, field, List.mem_cons, List.not_mem_nil, or_false, forall_eq_or_imp, forall_eq]
  exact ⟨hlevel, hfile⟩

/-- No setting is given twice. -/
theorem count_name_le_one (hg : g.Log ps) :
    ∀ f ∈ fields, (ps.map fun p => p.entry.name.value).count f.name ≤ 1 := by
  simp only [fields, field, List.mem_cons, List.not_mem_nil, or_false, forall_eq_or_imp, forall_eq,
    count_name_pairs, hg.level, hg.file]
  exact ⟨Option.length_toList_le, Option.length_toList_le⟩

/-- The pairs leave what is given over the defaults. -/
theorem foldl_put (hg : g.Log ps) : ps.foldl put {} = g.settings.log := by
  have hlevel := get_foldl_scalar put level Scalar.value {}
    (fun s p hp => by simp [put, hp]) (fun s p hp => by grind [put]) hg.level
  have hfile := get_foldl_scalar put file (fun s => some s.value) {}
    (fun s p hp => by simp [put, hp]) (fun s p hp => by grind [put]) hg.file
  have hvalue : Scalar.value ∘ quoted = id := rfl
  have hsome : (fun s : Scalar => some s.value) ∘ quoted = some := rfl
  rw [hvalue, Option.map_id_fun, id] at hlevel
  rw [hsome] at hfile
  calc ps.foldl put {}
      = ⟨(ps.foldl put {}).level, (ps.foldl put {}).file⟩ := rfl
    _ = g.settings.log := by
        rw [hlevel, hfile]
        cases h : g.file <;> simp [Settings.Given.settings, h]

end LogSettings

/-! ## Whole settings -/

namespace Settings

/-- What a section holds. -/
def pairsOf : Content → List Pair
  | .mapping ps => ps
  | .scalar .. => []

/-- What an entry changes. -/
def put (s : Settings) (e : Entry) : Settings :=
  if e.name.value = "bank_holidays" then { s with feed := (pairsOf e.content).foldl FeedSettings.put {} }
  else if e.name.value = "log" then { s with log := (pairsOf e.content).foldl LogSettings.put {} }
  else s

variable {es : List Entry} {e : Entry}

theorem isRead_section {α : Type} {fields : List (Yaml.Reader.Field α)} {start : α} (putPair : α → Pair → α)
    {holds : List Pair → Prop} {name wanted : String} {set : Settings → α → Settings}
    {change : Settings → Settings} (he : e ∈ es) (hname : e.name.value = name)
    (hfind : sections.find? (·.name == name) = some (field name (Yaml.Reader.fieldsOf wanted fields start) set))
    (hsection : Section es name holds)
    (hread : ∀ {ps : List Pair}, holds ps → ∀ p ∈ ps, IsRead fields (putPair · p) p.entry)
    (hunique : ∀ {ps : List Pair}, holds ps →
      ∀ f ∈ fields, (ps.map fun p => p.entry.name.value).count f.name ≤ 1)
    (hchange : ∀ s, change s = set s ((pairsOf e.content).foldl putPair start)) :
    IsRead sections change e := by
  have hmem : e.content ∈ contentsOf es name :=
    List.mem_map_of_mem (List.mem_filter.mpr ⟨he, by simp [hname]⟩)
  cases hsection with
  | leftOut hnone hempty =>
    rw [hnone] at hmem
    cases hmem
  | @written ps honce hpairs =>
    rw [honce, List.mem_singleton] at hmem
    refine .field (by rw [hname]; exact hfind) fun within s d path marked rest hmarked => ?_
    rw [hmem, Yaml.Content.parts_mapping] at hmarked
    rw [hchange, hmem]
    exact read_field (fieldsOf_eq (hread hpairs) (hunique hpairs) start hmarked)

/-- An entry of the settings is read into the section of its name, or passed over. -/
theorem isRead_put (hg : g.In es) (he : e ∈ es) : IsRead sections (put · e) e := by
  by_cases hfeed : e.name.value = "bank_holidays"
  · exact isRead_section FeedSettings.put he hfeed rfl hg.feed
      (fun hps p hp => FeedSettings.isRead_put hps hp) FeedSettings.count_name_le_one
      fun s => by simp [put, hfeed]
  by_cases hlog : e.name.value = "log"
  · exact isRead_section LogSettings.put he hlog rfl hg.log
      (fun hps p hp => LogSettings.isRead_put hps hp) LogSettings.count_name_le_one
      fun s => by simp [put, hlog]
  obtain ⟨tag, scalar, hcontent⟩ := hg.others e he hfeed hlog
  refine .other (List.find?_eq_none.mpr ?_) hcontent fun s => by simp only [put, hfeed, hlog, if_false]
  simp only [sections, field, List.mem_cons, List.not_mem_nil, or_false, forall_eq_or_imp, forall_eq,
    beq_iff_eq]
  exact ⟨Ne.symm hfeed, Ne.symm hlog⟩

/-- A section is given at most once. -/
theorem Section.length_le_one {name : String} {holds : List Pair → Prop} (h : Section es name holds) :
    (contentsOf es name).length ≤ 1 := by
  cases h with
  | leftOut hnone => simp [hnone]
  | written honce => simp [honce]

/-- What the section of a name leaves in its place, also if it is left out. A section is written at most
once, and no entry of another name touches its place. -/
theorem get_foldl_section {α : Type} (get : Settings → α) {name : String} {holds : List Pair → Prop}
    {fill : List Pair → α} {result : α} (s : Settings) (hsection : Section es name holds)
    (hown : ∀ s e, e.name.value = name → get (put s e) = fill (pairsOf e.content))
    (hother : ∀ s e, e.name.value ≠ name → get (put s e) = get s)
    (hstart : get s = fill []) (hfill : ∀ ps, holds ps → fill ps = result) :
    get (es.foldl put s) = result := by
  rw [get_foldl (·.name.value == name) (fun e => fill (pairsOf e.content))
    (fun s e he => hown s e (by simpa using he)) (fun s e he => hother s e (by simpa using he))]
  have hcontents : (es.filter (·.name.value == name)).map (fun e => fill (pairsOf e.content)) =
      (contentsOf es name).map (fun content => fill (pairsOf content)) := by
    rw [contentsOf, List.map_map]
    rfl
  rw [hcontents]
  cases hsection with
  | leftOut hnone hempty =>
    rw [hnone]
    exact hstart.trans (hfill [] hempty)
  | @written ps honce hpairs =>
    rw [honce]
    exact hfill ps hpairs

/-- All entries together put the given values over the defaults. -/
theorem foldl_put (hg : g.In es) : es.foldl put {} = g.settings := by
  have hfeed := get_foldl_section feed {} hg.feed (fun s e he => by simp [put, he])
    (fun s e he => by grind [put]) rfl fun ps hps => FeedSettings.foldl_put hps
  have hlog := get_foldl_section log {} hg.log (fun s e he => by simp [put, he])
    (fun s e he => by grind [put]) rfl fun ps hps => LogSettings.foldl_put hps
  calc es.foldl put {} = ⟨(es.foldl put {}).feed, (es.foldl put {}).log⟩ := rfl
    _ = g.settings := by rw [hfeed, hlog]

/-- A document that is such a mapping is read as the settings given, over the defaults. It is to hold
nothing behind the mapping, and no second document. -/
theorem read_of_holds {text : String} (hg : g.In es) (h : (Document.ofText text).Holds es) :
    Settings.read text = .ok g.settings := by
  have hunique : ∀ f ∈ sections, (es.map fun e => e.name.value).count f.name ≤ 1 := by
    simp only [sections, field, List.mem_cons, List.not_mem_nil, or_false, forall_eq_or_imp, forall_eq,
      count_name_entries]
    exact ⟨hg.feed.length_le_one, hg.log.length_le_one⟩
  have hread : fieldsOf "struct Config" sections {} (Document.ofText text) []
      ((Document.ofText text).parts ++ []) = .ok (es.foldl put {}, []) :=
    fieldsOf_eq (fun e he => isRead_put hg he) hunique {} (by rw [List.map_id']; exact h.parts)
  rw [List.append_nil, foldl_put hg] at hread
  simp only [Settings.read, Yaml.Reader.run, hread, h.complete, h.alone, bind, Except.bind,
    Bool.false_eq_true, if_false]
  rfl

/-- A text without a document leaves the defaults. -/
theorem read_of_void {text : String} {mark : Yaml.Mark}
    (h : Document.ofText text = { parts := [(.void, mark)] }) :
    Settings.read text = .ok {} := by
  rw [Settings.read, Yaml.Reader.run, h]
  rfl

/-- A text that writes entries in the grammar is read as the given values over the defaults. -/
theorem read_of_written {text : String} (hg : g.In es) (h : MappingWritten es text.toList) :
    Settings.read text = .ok g.settings := by
  by_cases hes : es = []
  · subst hes
    obtain ⟨mark, hvoid⟩ := Document.void_of_written h
    rw [read_of_void hvoid, ← foldl_put hg]
    rfl
  · exact read_of_holds hg (Document.holds_of_written hes h)

/-- A mapping that gives some settings is read as these over the defaults of all others, be it laid out as
a block mapping or in any way that its document tells. -/
theorem given_over_defaults {text : String} (hg : g.In es)
    (h : MappingWritten es text.toList ∨ (Document.ofText text).Holds es) :
    Settings.read text = .ok g.settings :=
  h.elim (read_of_written hg) (read_of_holds hg)

/-- A text that gives a level and a lifetime, among other names. -/
def mixedText : String :=
  "# over the defaults\nlog:\n  level: \"de\\x62ug\"\n\nport: 80 # not ours\nbank_holidays:\n" ++
    "  colour: red\n  cache_ttl_secs: 86400\n"

/-- Its entries. -/
def mixedEntries : List Entry :=
  [⟨⟨"log", .plain⟩, .mapping [⟨⟨"level", .plain⟩, none, quoted "debug"⟩]⟩,
    ⟨⟨"port", .plain⟩, .scalar none ⟨"80", .plain⟩⟩,
    ⟨⟨"bank_holidays", .plain⟩,
      .mapping [⟨⟨"colour", .plain⟩, none, ⟨"red", .plain⟩⟩, ⟨⟨"cache_ttl_secs", .plain⟩, none, decimal 86400⟩]⟩]

/-- The text of the example is written in the grammar, with its comment, its quotes and its unknown
entry. -/
theorem written_mixed : MappingWritten mixedEntries mixedText.toList := by
  have hending : ['\n'] ∈ [['\n'], ['\r', '\n']] := List.mem_cons_self
  have hplain {c : Char} (h : Yaml.isInline c = true ∧ c ≠ '"' ∧ c ≠ '\\') : QuotedChar false [c] c :=
    .plain h.1 h.2.1 (.inr h.2.2)
  -- the escape stands for a letter of the level
  have hb : QuotedChar false "\\x62".toList 'b' := .long rfl rfl rfl (List.all_eq_true.mp rfl) rfl rfl
  have hlevel : PairWritten ⟨⟨"level", .plain⟩, none, quoted "debug"⟩ true 0
      "level: \"de\\x62ug\"\n\n".toList :=
    .mk (.mk 0 (written_bare (s := "level".toList) rfl) (by decide))
      (.mk 0 (.quoted (.cons (hplain (by decide)) (.cons (hplain (by decide)) (.cons hb
          (.cons (hplain (by decide)) (.cons (hplain (by decide)) .nil))))))
        (.line 0 (.inl rfl) hending (.line 0 (.inl rfl) hending (.spaces 0))) (ne_of_beq_false rfl))
  have hlog : EntryWritten 0 ⟨⟨"log", .plain⟩, .mapping [⟨⟨"level", .plain⟩, none, quoted "debug"⟩]⟩ true 0
      "log:\n  level: \"de\\x62ug\"\n\n".toList :=
    .mapping (.mk 0 (written_bare (s := "log".toList) rfl) (by decide))
      (.line 0 (.inl rfl) hending (.spaces 2)) (ne_of_beq_false rfl) Nat.two_pos (.last hlevel)
  have hport : EntryWritten 0 ⟨⟨"port", .plain⟩, .scalar none ⟨"80", .plain⟩⟩ true 0
      "port: 80 # not ours\n".toList :=
    .scalar (.mk 0 (written_bare (s := "port".toList) rfl) (by decide))
      (.mk 0 (written_bare (s := "80".toList) rfl)
        (.line 1 (.inr ⟨" not ours".toList, rfl, List.all_eq_true.mp rfl⟩) hending (.spaces 0))
        (ne_of_beq_false rfl))
  have hcolour : PairWritten ⟨⟨"colour", .plain⟩, none, ⟨"red", .plain⟩⟩ true 2 "colour: red\n  ".toList :=
    .mk (.mk 0 (written_bare (s := "colour".toList) rfl) (by decide))
      (.mk 0 (written_bare (s := "red".toList) rfl) (.line 0 (.inl rfl) hending (.spaces 2)) (ne_of_beq_false rfl))
  have hsecs : ScalarWritten "86400".toList (decimal 86400) := by
    have hdigits : Text.decimalDigits 86400 = "86400".toList := by simp [Text.decimalDigits, Text.digitChar]
    rw [← hdigits]
    exact written_decimal 86400
  have httl : PairWritten ⟨⟨"cache_ttl_secs", .plain⟩, none, decimal 86400⟩ true 0
      "cache_ttl_secs: 86400\n".toList :=
    .mk (.mk 0 (written_bare (s := "cache_ttl_secs".toList) rfl) (by decide))
      (.mk 0 hsecs (.line 0 (.inl rfl) hending (.spaces 0)) (ne_of_beq_false rfl))
  have hfeed : EntryWritten 0 ⟨⟨"bank_holidays", .plain⟩, .mapping [⟨⟨"colour", .plain⟩, none, ⟨"red", .plain⟩⟩,
      ⟨⟨"cache_ttl_secs", .plain⟩, none, decimal 86400⟩]⟩ true 0
      "bank_holidays:\n  colour: red\n  cache_ttl_secs: 86400\n".toList :=
    .mapping (.mk 0 (written_bare (s := "bank_holidays".toList) rfl) (by decide))
      (.line 0 (.inl rfl) hending (.spaces 2)) (ne_of_beq_false rfl) Nat.two_pos (.more hcolour (.last httl))
  have hlead : Gap true 0 "# over the defaults\n".toList :=
    .line 0 (.inr ⟨" over the defaults".toList, rfl, List.all_eq_true.mp rfl⟩) hending (.spaces 0)
  have htext : mixedText.toList = "# over the defaults\n".toList ++
      ("log:\n  level: \"de\\x62ug\"\n\n".toList ++ ("port: 80 # not ours\n".toList ++
        "bank_holidays:\n  colour: red\n  cache_ttl_secs: 86400\n".toList)) := by decide +kernel
  rw [htext]
  exact .entries hlead (.more hlog (.more hport (.last hfeed)))

/-- Two settings in sections of their own, an unknown name in one of them and one beside them. -/
theorem given_over_defaults_of_two_settings :
    ({ ttlSecs := some 86400, level := some "debug" } : Given).In mixedEntries ∧
      MappingWritten mixedEntries mixedText.toList ∧
      Settings.read mixedText = .ok { feed := { ttlSecs := 86400 }, log := { level := "debug" } } := by
  have hgiven : ({ ttlSecs := some 86400, level := some "debug" } : Given).In mixedEntries :=
    { feed := .written rfl ⟨rfl, rfl, rfl, rfl⟩
      log := .written rfl ⟨rfl, rfl⟩
      others := by
        intro e he hfeed hlog
        simp only [mixedEntries, List.mem_cons, List.not_mem_nil, or_false] at he
        rcases he with rfl | rfl | rfl
        · exact absurd rfl hlog
        · exact ⟨_, _, rfl⟩
        · exact absurd rfl hfeed }
  exact ⟨hgiven, written_mixed, given_over_defaults hgiven (.inl written_mixed)⟩

end Settings

end Workday
