import Workday.Proofs.Settings.Merging

/-!
# Settings can be given

Whatever settings are given, with whatever values, there is a text that gives them: a section for those of each
kind, if there are any, and a pair for each.
-/

set_option autoImplicit false

namespace Workday

open Yaml (Content Entry EntryWritten MappingWritten Pair PairWritten Scalar ScalarWritten contentsOf decimal
  exists_written_mapping exists_written_pair exists_written_quoted exists_written_section quoted scalarsOf
  written_bare written_decimal)

namespace Settings.Given

variable {σ : Type} {name other : String} {scalar : σ → Scalar} {given : Option σ} {ps : List Pair}

/-- A name without quotes. -/
def plainName (name : String) : Scalar := ⟨name, .plain⟩

/-- The pair of a setting, if it is given. -/
def pairOf (name : String) (scalar : σ → Scalar) (given : Option σ) : List Pair :=
  (given.map fun value => ⟨plainName name, none, scalar value⟩).toList

/-- A section, if it has pairs. -/
def sectionOf (name : String) (ps : List Pair) : List Entry :=
  if ps = [] then [] else [⟨plainName name, .mapping ps⟩]

/-- The pairs of the settings on the feed. -/
def feedPairs (g : Given) : List Pair :=
  pairOf "url" quoted g.url ++ pairOf "timeout_secs" (fun n : UInt64 => decimal n.toNat) g.timeoutSecs ++
    pairOf "health_timeout_secs" (fun n : UInt64 => decimal n.toNat) g.healthTimeoutSecs ++
    pairOf "cache_ttl_secs" (fun n : UInt64 => decimal n.toNat) g.ttlSecs

/-- The pairs of the settings on logging. -/
def logPairs (g : Given) : List Pair := pairOf "level" quoted g.level ++ pairOf "file" quoted g.file

/-- The sections of all settings given. -/
def entries (g : Given) : List Entry := sectionOf "bank_holidays" g.feedPairs ++ sectionOf "log" g.logPairs

/-! ## What the entries give -/

/-- The scalars under a name in two lists of pairs are those of the first and then those of the
second. -/
theorem scalarsOf_append (ps ps' : List Pair) (name : String) :
    scalarsOf (ps ++ ps') name = scalarsOf ps name ++ scalarsOf ps' name := by
  simp only [scalarsOf, List.filter_append, List.map_append]

/-- A value that is given is the scalar under its own name. -/
theorem scalarsOf_pairOf_self (name : String) (scalar : σ → Scalar) (given : Option σ) :
    scalarsOf (pairOf name scalar given) name = (given.map scalar).toList := by
  cases given <;> simp [scalarsOf, pairOf, plainName]

/-- A value that is given is no scalar under another name. -/
theorem scalarsOf_pairOf_of_ne (h : name ≠ other) (scalar : σ → Scalar) (given : Option σ) :
    scalarsOf (pairOf name scalar given) other = [] := by
  cases given <;> simp [scalarsOf, pairOf, plainName, h]

/-- The pairs that are written for the feed give its values, each of them once. -/
theorem feed_feedPairs (g : Given) : g.Feed g.feedPairs := by
  constructor <;> simp [feedPairs, scalarsOf_append, scalarsOf_pairOf_self, scalarsOf_pairOf_of_ne]

/-- The pairs that are written for the log give its values, each of them once. -/
theorem log_logPairs (g : Given) : g.Log g.logPairs := by
  constructor <;> simp [logPairs, scalarsOf_append, scalarsOf_pairOf_self, scalarsOf_pairOf_of_ne]

/-- The contents under a name in two lists of entries are those of the first and then those of the
second. -/
theorem contentsOf_append (es es' : List Entry) (name : String) :
    contentsOf (es ++ es') name = contentsOf es name ++ contentsOf es' name := by
  simp only [contentsOf, List.filter_append, List.map_append]

/-- A section without pairs is left out; any other is the one content under its name. -/
theorem contentsOf_sectionOf_self (name : String) (ps : List Pair) :
    contentsOf (sectionOf name ps) name = if ps = [] then [] else [.mapping ps] := by
  unfold sectionOf
  split <;> simp [contentsOf, plainName]

/-- A section is no content under another name. -/
theorem contentsOf_sectionOf_of_ne (h : name ≠ other) (ps : List Pair) :
    contentsOf (sectionOf name ps) other = [] := by
  unfold sectionOf
  split <;> simp [contentsOf, plainName, h]

/-- One content under a name, or none if there are no pairs, is a section that holds the pairs. -/
theorem section_of_contents {es : List Entry} {holds : List Pair → Prop} (hps : holds ps)
    (h : contentsOf es name = if ps = [] then [] else [.mapping ps]) : Section es name holds := by
  by_cases hnil : ps = []
  · subst hnil
    exact .leftOut h hps
  · exact .written (h.trans (if_neg hnil)) hps

/-- An entry that is written for a section is a mapping of all its pairs. -/
theorem mem_sectionOf {e : Entry} (h : e ∈ sectionOf name ps) :
    ps ≠ [] ∧ e = ⟨plainName name, .mapping ps⟩ := by
  unfold sectionOf at h
  split at h
  next => cases h
  next hne => exact ⟨hne, List.mem_singleton.mp h⟩

/-- The entries give the settings. -/
theorem in_entries (g : Given) : g.In g.entries where
  feed := section_of_contents g.feed_feedPairs (by
    rw [entries, contentsOf_append, contentsOf_sectionOf_self, contentsOf_sectionOf_of_ne (by decide),
      List.append_nil])
  log := section_of_contents g.log_logPairs (by
    rw [entries, contentsOf_append, contentsOf_sectionOf_self, contentsOf_sectionOf_of_ne (by decide),
      List.nil_append])
  others := by
    intro e he hfeed hlog
    rcases List.mem_append.mp he with he | he
    · exact absurd (by rw [(mem_sectionOf he).2]; rfl) hfeed
    · exact absurd (by rw [(mem_sectionOf he).2]; rfl) hlog

/-! ## Their text -/

/-- The names of sections and settings. -/
def names : List String :=
  ["bank_holidays", "log", "url", "timeout_secs", "health_timeout_secs", "cache_ttl_secs", "level", "file"]

/-- No name needs quotes, and none is too long for a key. -/
theorem written_plainName (h : name ∈ names) :
    ScalarWritten name.toList (plainName name) ∧ name.toList.length ≤ Yaml.maxKeyLength := by
  have hnames : ∀ name ∈ names, Yaml.isBare name.toList = true ∧ name.toList.length ≤ Yaml.maxKeyLength := by
    decide
  obtain ⟨hbare, hlength⟩ := hnames name h
  have hwritten := written_bare hbare
  rw [String.ofList_toList] at hwritten
  exact ⟨hwritten, hlength⟩

/-- A pair whose scalar can be written can be written, at any depth. -/
theorem exists_written_of_mem_pairOf {p : Pair} (hname : name ∈ names)
    (hscalar : ∀ value, ∃ text, ScalarWritten text (scalar value)) (hp : p ∈ pairOf name scalar given) (k : Nat) :
    ∃ text, PairWritten p true k text := by
  rw [pairOf, Option.mem_toList, Option.map_eq_some_iff] at hp
  obtain ⟨value, -, rfl⟩ := hp
  obtain ⟨text, htext⟩ := hscalar value
  obtain ⟨hwritten, hshort⟩ := written_plainName hname
  exact exists_written_pair hwritten hshort htext k

/-- Every number of 64 bits can be written by its digits. -/
theorem exists_written_decimal (n : UInt64) : ∃ text, ScalarWritten text (decimal n.toNat) :=
  ⟨_, written_decimal n.toNat⟩

/-- Each pair for the feed can be written, its URL in quotes and its times by their digits. -/
theorem exists_written_of_mem_feedPairs {g : Given} {p : Pair} (hp : p ∈ g.feedPairs) (k : Nat) :
    ∃ text, PairWritten p true k text := by
  simp only [feedPairs, List.mem_append] at hp
  rcases hp with ((hp | hp) | hp) | hp
  · exact exists_written_of_mem_pairOf (by decide) exists_written_quoted hp k
  · exact exists_written_of_mem_pairOf (by decide) exists_written_decimal hp k
  · exact exists_written_of_mem_pairOf (by decide) exists_written_decimal hp k
  · exact exists_written_of_mem_pairOf (by decide) exists_written_decimal hp k

/-- Each pair for the log can be written, its texts in quotes. -/
theorem exists_written_of_mem_logPairs {g : Given} {p : Pair} (hp : p ∈ g.logPairs) (k : Nat) :
    ∃ text, PairWritten p true k text := by
  simp only [logPairs, List.mem_append] at hp
  rcases hp with hp | hp
  · exact exists_written_of_mem_pairOf (by decide) exists_written_quoted hp k
  · exact exists_written_of_mem_pairOf (by decide) exists_written_quoted hp k

/-- A section whose pairs can be written can be written. -/
theorem exists_written_of_mem_sectionOf {e : Entry} (hname : name ∈ names)
    (hps : ∀ p ∈ ps, ∀ k, ∃ text, PairWritten p true k text) (he : e ∈ sectionOf name ps) (k : Nat) :
    ∃ text, EntryWritten 0 e true k text := by
  obtain ⟨hne, rfl⟩ := mem_sectionOf he
  obtain ⟨hwritten, hshort⟩ := written_plainName hname
  exact exists_written_section hwritten hshort hne hps k

/-- Any settings can be given by a text, which is read as these over the defaults. -/
theorem exists_text (g : Given) :
    ∃ text : String, MappingWritten g.entries text.toList ∧ Settings.read text = .ok g.settings := by
  obtain ⟨text, htext⟩ := exists_written_mapping fun e (he : e ∈ g.entries) k => by
    rcases List.mem_append.mp he with he | he
    · exact exists_written_of_mem_sectionOf (by decide) (fun p => exists_written_of_mem_feedPairs) he k
    · exact exists_written_of_mem_sectionOf (by decide) (fun p => exists_written_of_mem_logPairs) he k
  have hwritten : MappingWritten g.entries (String.ofList text).toList := by rwa [String.toList_ofList]
  exact ⟨String.ofList text, hwritten, read_of_written g.in_entries hwritten⟩

end Settings.Given

end Workday
