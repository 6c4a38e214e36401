import Workday.Client
import Workday.Proofs.Feed.Meaning
import Workday.Proofs.Json.Rendering

/-!
# Faults of a feed

What can be wrong with a feed whose parts are objects where objects are wanted. A fault may sit at
any event of any region, among any members; a feed with one has no calendar. A feed without one has a
calendar if it can be read at all (`Legible`): a name or a string with an escape of half a surrogate
pair is well-formed and stands for no text (`calendarOf?_eq_none_iff`). A service that fetches a feed
without a calendar passes the failure on and keeps what it holds.
-/

set_option autoImplicit false

namespace Workday.Feed

open Json (Value Member IsDocument valuesOf isNamed sole? soleOr?)
open Workday.Text (utf8)

variable {α : Type} {ms : List Member}

/-- What can be wrong with the members of an event. -/
inductive EventFault (ms : List Member) : Prop where
  | missing {name : String} (needed : name ∈ ["title", "date"]) (absent : valuesOf ms name = [])
  | repeated {name : String} (known : name ∈ ["title", "date", "notes", "bunting"])
      (twice : 2 ≤ (valuesOf ms name).length)
  | noString {name : String} {v : Value} (textual : name ∈ ["title", "date", "notes"])
      (given : v ∈ valuesOf ms name) (other : ∀ text, v ≠ .string text)
  | noTruthValue {v : Value} (given : v ∈ valuesOf ms "bunting") (other : ∀ b, v ≠ .bool b)
  | noDate {text : String} {fault : Date.Fault} (given : .string (some text) ∈ valuesOf ms "date")
      (refused : Date.read text = .error fault)

/-- What can be wrong with the members of a region. -/
inductive DivisionFault (ms : List Member) : Prop where
  | missing (absent : valuesOf ms "events" = [])
  | repeated (twice : 2 ≤ (valuesOf ms "events").length)
  | noArray {v : Value} (given : v ∈ valuesOf ms "events") (other : ∀ es, v ≠ .array es)
  | event {es : List Value} {i : Nat} {fields : List Member}
      (given : .array es ∈ valuesOf ms "events") (place : es[i]? = some (.object fields))
      (fault : EventFault fields)

/-- What can be wrong with the members of a feed document. -/
inductive FeedFault (ms : List Member) : Prop where
  | missing {region : Region} (absent : valuesOf ms region.name = [])
  | repeated {region : Region} (twice : 2 ≤ (valuesOf ms region.name).length)
  | division {region : Region} {fields : List Member}
      (given : .object fields ∈ valuesOf ms region.name) (fault : DivisionFault fields)

/-! ## Texts that are not there -/

/-- The names in an event have texts, and so have the strings that are read from it. -/
structure LegibleEvent (ms : List Member) : Prop where
  names : isNamed ms = true
  strings : ∀ name ∈ ["title", "date", "notes"], .string none ∉ valuesOf ms name

/-- The names in a region have texts, and its events are legible. -/
structure LegibleDivision (ms : List Member) : Prop where
  names : isNamed ms = true
  events : ∀ es fields, .array es ∈ valuesOf ms "events" → .object fields ∈ es → LegibleEvent fields

/-- The names in a feed document have texts, and its regions are legible. Members that are passed over
may hold what they like. -/
structure Legible (ms : List Member) : Prop where
  names : isNamed ms = true
  divisions : ∀ (region : Region) fields, .object fields ∈ valuesOf ms region.name →
    LegibleDivision fields

/-- A value has no text if it is a string without one, or no string. -/
theorem string?_eq_none_iff {v : Value} :
    v.string? = none ↔ v = .string none ∨ ∀ text, v ≠ .string text := by
  cases v with
  | string text => cases text <;> simp [Value.string?]
  | _ => simp [Value.string?]

theorem bool?_eq_none_iff {v : Value} : v.bool? = none ↔ ∀ b, v ≠ .bool b := by
  cases v <;> simp [Value.bool?]

theorem array?_eq_none_iff {v : Value} : v.array? = none ↔ ∀ es, v ≠ .array es := by
  cases v <;> simp [Value.array?]

/-- An event with texts for its names is illegible by one of its strings. -/
theorem exists_string_of_not_legibleEvent (h : ¬ LegibleEvent ms) (hnamed : isNamed ms = true) :
    ∃ name ∈ ["title", "date", "notes"], .string none ∈ valuesOf ms name := by
  by_contra hno
  exact h ⟨hnamed, fun name hname hgiven => hno ⟨name, hname, hgiven⟩⟩

/-- A region with texts for its names is illegible by one of its events. -/
theorem exists_event_of_not_legibleDivision (h : ¬ LegibleDivision ms) (hnamed : isNamed ms = true) :
    ∃ es fields, .array es ∈ valuesOf ms "events" ∧ .object fields ∈ es ∧ ¬ LegibleEvent fields := by
  by_contra hno
  refine h ⟨hnamed, fun es fields hes hfields => ?_⟩
  by_contra hevent
  exact hno ⟨es, fields, hes, hfields, hevent⟩

/-- A feed document with texts for its names is illegible by one of its regions. -/
theorem exists_division_of_not_legible (h : ¬ Legible ms) (hnamed : isNamed ms = true) :
    ∃ (region : Region) (fields : List Member),
      .object fields ∈ valuesOf ms region.name ∧ ¬ LegibleDivision fields := by
  by_contra hno
  refine h ⟨hnamed, fun region fields hfields => ?_⟩
  by_contra hdivision
  exact hno ⟨region, fields, hfields, hdivision⟩

/-! ## Faults and meanings -/

/-- There is not one meaning under a name if there is no value, or more than one, or one that means
nothing. -/
theorem sole?_eq_none_iff {meaning : Value → Option α} {vs : List Value} :
    sole? meaning vs = none ↔ vs = [] ∨ 2 ≤ vs.length ∨ ∃ v ∈ vs, meaning v = none := by
  match vs with
  | [] => simp [sole?]
  | [v] => simp [sole?]
  | v :: w :: vs => simp [sole?]

/-- There is not at most one meaning under a name if there is more than one value, or one that means
nothing. -/
theorem soleOr?_eq_none_iff {default : α} {meaning : Value → Option α} {vs : List Value} :
    soleOr? default meaning vs = none ↔ 2 ≤ vs.length ∨ ∃ v ∈ vs, meaning v = none := by
  match vs with
  | [] => simp [soleOr?]
  | [v] => simp [soleOr?, sole?]
  | v :: w :: vs => simp [soleOr?, sole?]

/-- Elements have no meanings all together if one of them means nothing, wherever it stands. -/
theorem mapM_eq_none_iff {meaning : Value → Option α} {vs : List Value} :
    vs.mapM meaning = none ↔ ∃ v ∈ vs, meaning v = none := by
  induction vs with
  | nil => simp
  | cons v vs ih =>
    rw [List.mapM_cons]
    simp only [List.mem_cons, exists_eq_or_imp, ← ih]
    cases meaning v <;> cases vs.mapM meaning <;> simp

/-- A value is no date if it has no text, or a text that is not read as a date. -/
theorem dateOf?_eq_none_iff {v : Value} :
    dateOf? v = none ↔ v.string? = none ∨
      ∃ text fault, v = .string (some text) ∧ Date.read text = .error fault := by
  cases v with
  | string text =>
    cases text with
    | none => simp [dateOf?, Value.string?]
    | some text => cases h : Date.read text <;> simp [dateOf?, Value.string?, h, Except.toOption]
  | _ => simp [dateOf?, Value.string?]

/-- An event means nothing just if a name in it has no text, or if one of its columns means nothing. -/
theorem eventOf?_eq_none_iff_columns : eventOf? ms = none ↔ isNamed ms = false ∨
    sole? Value.string? (valuesOf ms "title") = none ∨ sole? dateOf? (valuesOf ms "date") = none ∨
    soleOr? "" Value.string? (valuesOf ms "notes") = none ∨
    soleOr? false Value.bool? (valuesOf ms "bunting") = none := by
  rw [eventOf?]
  cases isNamed ms <;> cases sole? Value.string? (valuesOf ms "title") <;>
    cases sole? dateOf? (valuesOf ms "date") <;>
    cases soleOr? "" Value.string? (valuesOf ms "notes") <;>
    cases soleOr? false Value.bool? (valuesOf ms "bunting") <;> simp

/-- An event means nothing if a value without a text stands where a string is read, in whichever column. -/
theorem eventOf?_eq_none_of_string {name : String} {v : Value}
    (hname : name ∈ ["title", "date", "notes"]) (hv : v ∈ valuesOf ms name) (hnone : v.string? = none) :
    eventOf? ms = none := by
  rw [eventOf?_eq_none_iff_columns]
  simp only [List.mem_cons, List.not_mem_nil, or_false] at hname
  rcases hname with rfl | rfl | rfl
  · exact .inr (.inl (sole?_eq_none_iff.mpr (.inr (.inr ⟨v, hv, hnone⟩))))
  · have hdate := dateOf?_eq_none_iff.mpr (.inl hnone)
    exact .inr (.inr (.inl (sole?_eq_none_iff.mpr (.inr (.inr ⟨v, hv, hdate⟩)))))
  · exact .inr (.inr (.inr (.inl (soleOr?_eq_none_iff.mpr (.inr ⟨v, hv, hnone⟩)))))

/-- An event with a fault means nothing, whatever else is in it. Each fault leaves one of the four
columns without a value, and one is enough. -/
theorem EventFault.eventOf?_eq_none (h : EventFault ms) : eventOf? ms = none := by
  cases h with
  | missing needed absent =>
    rw [eventOf?_eq_none_iff_columns]
    simp only [List.mem_cons, List.not_mem_nil, or_false] at needed
    rcases needed with rfl | rfl
    · exact .inr (.inl (sole?_eq_none_iff.mpr (.inl absent)))
    · exact .inr (.inr (.inl (sole?_eq_none_iff.mpr (.inl absent))))
  | repeated known twice =>
    rw [eventOf?_eq_none_iff_columns]
    simp only [List.mem_cons, List.not_mem_nil, or_false] at known
    rcases known with rfl | rfl | rfl | rfl
    · exact .inr (.inl (sole?_eq_none_iff.mpr (.inr (.inl twice))))
    · exact .inr (.inr (.inl (sole?_eq_none_iff.mpr (.inr (.inl twice)))))
    · exact .inr (.inr (.inr (.inl (soleOr?_eq_none_iff.mpr (.inl twice)))))
    · exact .inr (.inr (.inr (.inr (soleOr?_eq_none_iff.mpr (.inl twice)))))
  | noString textual given other =>
    exact eventOf?_eq_none_of_string textual given (string?_eq_none_iff.mpr (.inr other))
  | noTruthValue given other =>
    rw [eventOf?_eq_none_iff_columns]
    have hnone := bool?_eq_none_iff.mpr other
    exact .inr (.inr (.inr (.inr (soleOr?_eq_none_iff.mpr (.inr ⟨_, given, hnone⟩)))))
  | noDate given refused =>
    rw [eventOf?_eq_none_iff_columns]
    have hdate := dateOf?_eq_none_iff.mpr (.inr ⟨_, _, rfl, refused⟩)
    exact .inr (.inr (.inl (sole?_eq_none_iff.mpr (.inr (.inr ⟨_, given, hdate⟩)))))

/-- An illegible event means nothing, though it may have no fault. -/
theorem eventOf?_eq_none_of_not_legible (h : ¬ LegibleEvent ms) : eventOf? ms = none := by
  cases hnamed : isNamed ms with
  | false => exact eventOf?_eq_none_iff_columns.mpr (.inl hnamed)
  | true =>
    obtain ⟨name, hname, hgiven⟩ := exists_string_of_not_legibleEvent h hnamed
    exact eventOf?_eq_none_of_string hname hgiven rfl

/-- An event that means nothing has a fault, or is illegible: it has a name without a text, or a string
without one where a text is wanted. -/
theorem eventOf?_eq_none_iff : eventOf? ms = none ↔ EventFault ms ∨ ¬ LegibleEvent ms := by
  -- a string that gives no text is no string, or takes the event its legibility
  have hstring {name : String} {v : Value} (hname : name ∈ ["title", "date", "notes"])
      (hv : v ∈ valuesOf ms name) (hnone : v.string? = none) :
      EventFault ms ∨ ¬ LegibleEvent ms := by
    rcases string?_eq_none_iff.mp hnone with rfl | hother
    · exact .inr fun hlegible => hlegible.strings name hname hv
    · exact .inl (.noString hname hv hother)
  constructor
  · intro h
    rw [eventOf?_eq_none_iff_columns, sole?_eq_none_iff, sole?_eq_none_iff, soleOr?_eq_none_iff,
      soleOr?_eq_none_iff] at h
    rcases h with hunnamed | htitle | hdate | hnotes | hbunting
    · exact .inr fun hlegible => Bool.false_ne_true (hunnamed.symm.trans hlegible.names)
    · rcases htitle with habsent | htwice | ⟨v, hv, hnone⟩
      · exact .inl (.missing (by simp) habsent)
      · exact .inl (.repeated (by simp) htwice)
      · exact hstring (by simp) hv hnone
    · rcases hdate with habsent | htwice | ⟨v, hv, hnone⟩
      · exact .inl (.missing (by simp) habsent)
      · exact .inl (.repeated (by simp) htwice)
      · rcases dateOf?_eq_none_iff.mp hnone with hother | ⟨text, fault, rfl, hrefused⟩
        · exact hstring (by simp) hv hother
        · exact .inl (.noDate hv hrefused)
    · rcases hnotes with htwice | ⟨v, hv, hnone⟩
      · exact .inl (.repeated (by simp) htwice)
      · exact hstring (by simp) hv hnone
    · rcases hbunting with htwice | ⟨v, hv, hnone⟩
      · exact .inl (.repeated (by simp) htwice)
      · exact .inl (.noTruthValue hv (bool?_eq_none_iff.mp hnone))
  · rintro (hfault | hillegible)
    · exact hfault.eventOf?_eq_none
    · exact eventOf?_eq_none_of_not_legible hillegible

/-- A list of events means nothing if one of them does, or if it is no list. It is read as a whole: no
event is left out for a fault of its own. -/
theorem eventsOf?_eq_none_iff {v : Value} (hobjects : ∀ es, v = .array es → ∀ e ∈ es, IsObject e) :
    eventsOf? v = none ↔ (∀ es, v ≠ .array es) ∨
      ∃ es fields, v = .array es ∧ .object fields ∈ es ∧ (EventFault fields ∨ ¬ LegibleEvent fields) := by
  cases harray : v.array? with
  | none =>
    have hother := array?_eq_none_iff.mp harray
    have hnone : eventsOf? v = none := by
      rw [eventsOf?, harray]
      rfl
    exact iff_of_true hnone (.inl hother)
  | some es =>
    obtain rfl : v = .array es := by
      cases v with
      | array es' => exact congrArg Value.array (Option.some.inj harray)
      | _ => cases harray
    rw [eventsOf?, harray, Option.bind_some, mapM_eq_none_iff]
    constructor
    · rintro ⟨e, he, hnone⟩
      obtain ⟨fields, rfl⟩ := hobjects es rfl e he
      exact .inr ⟨es, fields, rfl, he, eventOf?_eq_none_iff.mp hnone⟩
    · rintro (hother | ⟨es', fields, heq, hgiven, hfault⟩)
      · exact absurd rfl (hother es)
      · cases heq
        exact ⟨_, hgiven, eventOf?_eq_none_iff.mpr hfault⟩

/-- A region that means nothing has a fault, or is illegible. It has one column only, the list of its
events, and what it means is what all of these mean. -/
theorem divisionOf?_eq_none_iff
    (hobjects : ∀ es, .array es ∈ valuesOf ms "events" → ∀ e ∈ es, IsObject e) :
    divisionOf? ms = none ↔ DivisionFault ms ∨ ¬ LegibleDivision ms := by
  have hparts : divisionOf? ms = none ↔
      isNamed ms = false ∨ sole? eventsOf? (valuesOf ms "events") = none := by
    rw [divisionOf?]
    cases isNamed ms <;> simp
  have hevents {v : Value} (hv : v ∈ valuesOf ms "events") :=
    eventsOf?_eq_none_iff (v := v) fun es heq => hobjects es (heq ▸ hv)
  rw [hparts, sole?_eq_none_iff]
  constructor
  · rintro (hunnamed | habsent | htwice | ⟨v, hv, hnone⟩)
    · exact .inr fun hlegible => Bool.false_ne_true (hunnamed.symm.trans hlegible.names)
    · exact .inl (.missing habsent)
    · exact .inl (.repeated htwice)
    · rcases (hevents hv).mp hnone with hother | ⟨es, fields, rfl, hgiven, hfault | hillegible⟩
      · exact .inl (.noArray hv hother)
      · obtain ⟨i, hi, hplace⟩ := List.mem_iff_getElem.mp hgiven
        exact .inl (.event hv (List.getElem?_eq_some_iff.mpr ⟨hi, hplace⟩) hfault)
      · exact .inr fun hlegible => hillegible (hlegible.events es fields hv hgiven)
  · rintro (hfault | hillegible)
    · cases hfault with
      | missing absent => exact .inr (.inl absent)
      | repeated twice => exact .inr (.inr (.inl twice))
      | noArray given other => exact .inr (.inr (.inr ⟨_, given, (hevents given).mpr (.inl other)⟩))
      | event given place fault =>
        have hnone := (hevents given).mpr
          (.inr ⟨_, _, rfl, List.mem_of_getElem? place, .inl fault⟩)
        exact .inr (.inr (.inr ⟨_, given, hnone⟩))
    · cases hnamed : isNamed ms with
      | false => exact .inl rfl
      | true =>
        obtain ⟨es, fields, hes, hfields, hevent⟩ := exists_event_of_not_legibleDivision hillegible hnamed
        have hnone := (hevents hes).mpr (.inr ⟨es, fields, rfl, hfields, .inr hevent⟩)
        exact .inr (.inr (.inr ⟨_, hes, hnone⟩))

/-- A feed has a calendar just if it has no fault and is legible. Each region is told by the values
under its name, wherever they stand among the members. -/
theorem calendarOf?_eq_none_iff (hfeed : IsFeed ms) :
    calendarOf? ms = none ↔ FeedFault ms ∨ ¬ Legible ms := by
  have hregion (region : Region) : regionOf? ms region = none ↔
      valuesOf ms region.name = [] ∨ 2 ≤ (valuesOf ms region.name).length ∨
        ∃ fields, .object fields ∈ valuesOf ms region.name ∧
          (DivisionFault fields ∨ ¬ LegibleDivision fields) := by
    rw [regionOf?, sole?_eq_none_iff]
    refine or_congr_right (or_congr_right ⟨?_, ?_⟩)
    · rintro ⟨v, hv, hnone⟩
      obtain ⟨fields, rfl, hevents⟩ := hfeed region v hv
      exact ⟨fields, hv, (divisionOf?_eq_none_iff hevents).mp hnone⟩
    · rintro ⟨fields, hfields, hfault⟩
      obtain ⟨_, heq, hevents⟩ := hfeed region _ hfields
      cases heq
      exact ⟨_, hfields, (divisionOf?_eq_none_iff hevents).mpr hfault⟩
  have hparts : calendarOf? ms = none ↔ isNamed ms = false ∨ regionOf? ms .englandAndWales = none ∨
      regionOf? ms .scotland = none ∨ regionOf? ms .northernIreland = none := by
    rw [calendarOf?]
    cases isNamed ms <;> cases regionOf? ms .englandAndWales <;> cases regionOf? ms .scotland <;>
      cases regionOf? ms .northernIreland <;> simp
  -- the regions are asked for in turn, but any of them may be the one without a meaning
  have hsome : (∃ region, regionOf? ms region = none) ↔ regionOf? ms .englandAndWales = none ∨
      regionOf? ms .scotland = none ∨ regionOf? ms .northernIreland = none := by
    constructor
    · rintro ⟨_ | _ | _, hnone⟩
      · exact .inl hnone
      · exact .inr (.inl hnone)
      · exact .inr (.inr hnone)
    · rintro (hnone | hnone | hnone) <;> exact ⟨_, hnone⟩
  rw [hparts, ← hsome]
  constructor
  · rintro (hunnamed | ⟨region, hnone⟩)
    · exact .inr fun hlegible => Bool.false_ne_true (hunnamed.symm.trans hlegible.names)
    rcases (hregion region).mp hnone with habsent | htwice | ⟨fields, hfields, hfault | hillegible⟩
    · exact .inl (.missing habsent)
    · exact .inl (.repeated htwice)
    · exact .inl (.division hfields hfault)
    · exact .inr fun hlegible => hillegible (hlegible.divisions region fields hfields)
  · rintro (hfault | hillegible)
    · cases hfault with
      | @missing region absent => exact .inr ⟨region, (hregion region).mpr (.inl absent)⟩
      | @repeated region twice => exact .inr ⟨region, (hregion region).mpr (.inr (.inl twice))⟩
      | @division region fields given fault =>
        exact .inr ⟨region, (hregion region).mpr (.inr (.inr ⟨fields, given, .inl fault⟩))⟩
    · cases hnamed : isNamed ms with
      | false => exact .inl rfl
      | true =>
        obtain ⟨region, fields, hfields, hdivision⟩ := exists_division_of_not_legible hillegible hnamed
        exact .inr ⟨region, (hregion region).mpr (.inr (.inr ⟨fields, hfields, .inr hdivision⟩))⟩

/-! ## A name that is half a pair -/

/-- Three regions without events, and a member whose name is half a surrogate pair. -/
def halfPairMembers : List Member :=
  (none, .null) :: Region.all.map fun region => (region.name, .object [("events", .array [])])

/-- A document of these members. -/
def halfPairText : String :=
  "\x7b\"\\ud800\":null,\"england-and-wales\":\x7b\"events\":[]\x7d,\"scotland\":\x7b\"events\":[]\x7d,\"northern-ireland\":\x7b\"events\":[]\x7d\x7d"

/-- Half a surrogate pair can be written in a string, and the string stands for no text. -/
theorem written_halfPair : Json.WrittenString none ['\\', 'u', 'd', '8', '0', '0'] := by
  have hunit : Json.WrittenUnit 0xD800 ['d', '8', '0', '0'] :=
    ⟨'d', 13, '8', 8, '0', 0, '0', 0, by decide, by decide, by decide, by decide, rfl, rfl⟩
  refine .noText (.unit hunit .nil) fun cs h => ?_
  generalize hs : ['\\', 'u', 'd', '8', '0', '0'] = s at h
  cases h with
  | nil => cases hs
  | @cons c _ _ _ head tail =>
    cases head with
    | plain _ _ noBackslash => exact noBackslash (List.cons.inj hs).1.symm
    | short listed =>
      obtain rfl := (List.cons.inj (List.cons.inj hs).2).1
      exact absurd listed (by simp [Json.shortEscapes])
    | unit digits =>
      -- the only unit in these letters is no character
      have hvalid := (Json.Cursor.not_surrogate c).2
      obtain ⟨w, i, x, j, y, k, z, l, hw, hx, hy, hz, hvalue, rfl⟩ := digits
      simp only [List.cons_append, List.nil_append, List.cons.injEq, true_and] at hs
      obtain ⟨rfl, rfl, rfl, rfl, -⟩ := hs
      simp only [Json.hexDigits, List.mem_cons, Prod.mk.injEq, Char.reduceEq, true_and, false_and,
        List.not_mem_nil, or_false, false_or] at hw hx hy hz
      subst hw hx hy hz
      rw [hvalue] at hvalid
      cases hvalid
    | pair digits digits' =>
      -- a pair takes more letters than these
      obtain ⟨w, i, x, j, y, k, z, l, -, -, -, -, -, rfl⟩ := digits
      simp at hs

/-- The document with half a surrogate pair for a name is well-formed. -/
theorem halfPairText_written : IsDocument (.object halfPairMembers) halfPairText := by
  have hnil := Json.isSpace_nil
  have hbare (name : String) (h : name.toList.all Json.isBare = true) :
      Json.WrittenString name name.toList := .text (.of_isBare h)
  have hempty := Json.Written.object (.member hnil (hbare "events" rfl) hnil
    (.spaced hnil (.emptyArray hnil) hnil))
  have hfeed := Json.Written.spaced hnil (.object (.members hnil written_halfPair hnil
    (.spaced hnil .nullWord hnil) (.members hnil (hbare "england-and-wales" rfl) hnil
      (.spaced hnil hempty hnil) (.members hnil (hbare "scotland" rfl) hnil
        (.spaced hnil hempty hnil) (.member hnil (hbare "northern-ireland" rfl) hnil
          (.spaced hnil hempty hnil)))))) hnil
  rw [← String.toList_ofList (l := [] ++ _)] at hfeed
  exact hfeed

/-- Each region of the document is given once and has one list of events, which is empty. -/
theorem valuesOf_halfPairMembers (region : Region) :
    valuesOf halfPairMembers region.name = [.object [("events", .array [])]] := by
  cases region <;> rfl

/-- Its regions are objects with arrays of events, as a feed has them. -/
theorem isFeed_halfPairMembers : IsFeed halfPairMembers := by
  intro region v hv
  rw [valuesOf_halfPairMembers, List.mem_singleton] at hv
  refine ⟨_, hv, fun es hes e he => ?_⟩
  cases List.mem_singleton.mp hes
  cases he

/-- There is no event in the document, and so no place for a fault of one. -/
theorem not_feedFault_halfPairMembers : ¬ FeedFault halfPairMembers := by
  have hevents : valuesOf [("events", .array [])] "events" = [.array []] := rfl
  intro hfault
  cases hfault with
  | missing absent =>
    rw [valuesOf_halfPairMembers] at absent
    cases absent
  | repeated twice =>
    rw [valuesOf_halfPairMembers] at twice
    exact absurd twice (by decide)
  | division given fault =>
    rw [valuesOf_halfPairMembers] at given
    cases List.mem_singleton.mp given
    cases fault with
    | missing absent => exact absurd (hevents.symm.trans absent) (List.cons_ne_nil _ _)
    | repeated twice => exact absurd twice (by decide)
    | noArray given other => exact other [] (List.mem_singleton.mp given)
    | event given place _ =>
      cases List.mem_singleton.mp given
      cases place

/-- The document means no calendar, by its one name. -/
theorem calendarOf?_halfPairMembers : calendarOf? halfPairMembers = none := rfl

end Workday.Feed

namespace Workday

open Json (Value Member IsDocument)
open Workday.Text (utf8)

/-! ## Fetches -/

/-- The request for the feed ends, after what redirects there are, with a success and a body that is
complete. -/
def Client.Receives (client : Client) (network : Network) (n : Nat) (body : List UInt8) : Prop :=
  ∃ url reply, Client.target client.endpoint = .ok url ∧
    (Client.follow network (client.timeoutSecs * 1000) url Client.maxRedirects url n).result =
      .ok reply ∧ reply.isSuccess = true ∧ reply.isCutShort = false ∧ reply.body = body

/-- A body that is received in full with a success is what the fetch decodes. -/
theorem Client.fetch_result_of_receives {client : Client} {network : Network} {n : Nat}
    {body : List UInt8} (h : client.Receives network n body) :
    (client.fetch network n).1.result = Client.decode body := by
  obtain ⟨url, reply, htarget, hfollow, hsuccess, hcomplete, rfl⟩ := h
  simp only [Client.fetch, Client.get, htarget, hfollow, Client.judge, hsuccess, hcomplete]
  rfl

/-- What a failed fetch does to a service: the calls that need the calendar and hold no fresh one fail
with its cause, and the entry stays. -/
def Service.PassesOn {σ : Type} (service : Service σ) (cause : FetchFailure) : Prop :=
  (service.store.fresh? service.ttl = none →
    (service.step .calendar).1 = .calendar (.error cause) ∧
    (service.step .calendar).2.store.entry = service.store.entry) ∧
  ∀ i question, (service.calculator i).settle service.today question = none →
    service.store.fresh? (service.calculator i).ttl = none →
    (service.step (.ask i question)).1 = .verdict (.error (.noCalendar cause)) ∧
    (service.step (.ask i question)).2.store.entry = service.store.entry

/-- A service whose fetch fails passes the failure on and keeps what it holds. -/
theorem Service.passesOn_of_fetch {σ : Type} {service : Service σ} {cause : FetchFailure}
    (h : (service.source service.store.source).1.result = .error cause) :
    service.PassesOn cause := by
  have hget (ttl : Int) (hstale : service.store.fresh? ttl = none) :
      (service.store.get ⟨ttl, service.source⟩).1 = .error cause ∧
      (service.store.get ⟨ttl, service.source⟩).2.entry = service.store.entry := by
    simp only [Cache.Store.get, hstale, Cache.Store.start, h]
    exact ⟨rfl, rfl⟩
  refine ⟨fun hstale => ?_, fun i question hsettle hstale => ?_⟩
  · have hanswer := hget service.ttl hstale
    simp only [Service.step, Service.getCalendar]
    generalize service.store.get ⟨service.ttl, service.source⟩ = outcome at hanswer
    obtain ⟨answer, store⟩ := outcome
    obtain ⟨rfl, hentry⟩ := hanswer
    exact ⟨rfl, hentry⟩
  · have hanswer := hget (service.calculator i).ttl hstale
    simp only [Service.step, Calculator.ask, hsettle, Calculator.call]
    generalize service.store.get ⟨(service.calculator i).ttl, service.source⟩ = outcome at hanswer
    obtain ⟨answer, store⟩ := outcome
    obtain ⟨rfl, hentry⟩ := hanswer
    exact ⟨rfl, hentry⟩

/-- A feed whose parts are objects where objects are wanted gives no calendar if anything in it is at
fault, or if a name or a string that is read stands for no text: the fetch fails as malformed, and a
service passes that on. Otherwise it gives one. -/
theorem Client.malformed_feed_gives_no_calendar (client : Client) (network : Network) (n : Nat)
    (ms : List Member) (text : String) (received : client.Receives network n (utf8 text))
    (written : IsDocument (.object ms) text) (objects : Feed.IsFeed ms) :
    (Feed.FeedFault ms ∨ ¬ Feed.Legible ms → ∃ message,
      (client.fetch network n).1.result = .error (.malformed message) ∧
      ∀ service : Service Nat, service.source = client.fetch network → service.store.source = n →
        service.PassesOn (.malformed message)) ∧
    (¬ Feed.FeedFault ms → Feed.Legible ms →
      ∃ calendar, (client.fetch network n).1.result = .ok calendar) := by
  have hmeaning := Feed.decode_eq_calendarOf? written objects
  have hresult := Client.fetch_result_of_receives received
  have hnone := Feed.calendarOf?_eq_none_iff objects
  rw [← hmeaning] at hnone
  cases hdecode : Feed.decode (utf8 text) with
  | error fault =>
    have hmalformed : (client.fetch network n).1.result = .error (.malformed fault.message) := by
      rw [hresult, Client.decode, hdecode]
      rfl
    have hfaulty : Feed.FeedFault ms ∨ ¬ Feed.Legible ms := hnone.mp (by rw [hdecode]; rfl)
    refine ⟨fun _ => ⟨fault.message, hmalformed, ?_⟩, fun hsound hlegible =>
      absurd hfaulty (not_or.mpr ⟨hsound, not_not_intro hlegible⟩)⟩
    rintro service hsource rfl
    exact Service.passesOn_of_fetch (hsource ▸ hmalformed)
  | ok calendar =>
    refine ⟨fun hfaulty => ?_, fun _ _ => ⟨calendar, ?_⟩⟩
    · have hno := hnone.mpr hfaulty
      rw [hdecode] at hno
      cases hno
    · rw [hresult, Client.decode, hdecode]
      rfl

set_option maxRecDepth 1000 in
/-- The last region of a feed has an event without a title. -/
theorem Client.malformed_feed_gives_no_calendar_without_a_title :
    let client : Client := ⟨"http://feed/", 30, 5⟩
    let body := "\x7b\"england-and-wales\": \x7b\"events\": []\x7d, \"scotland\": \x7b\"events\": []\x7d, \"northern-ireland\": \x7b\"events\": [\x7b\"date\": \"2024-12-25\"\x7d]\x7d\x7d"
    let network : Network := ⟨fun _ => some (.reply { status := 200, body := utf8 body })⟩
    let service : Service Nat :=
      ⟨client.fetch network, client.probe network, 60000, .first, .empty ⟨0, 0⟩ 0, [.new 60000]⟩
    ∃ message, (client.fetch network 0).1.result = .error (.malformed message) ∧
      (service.step (.ask 0 (.isWorkingDay .first))).1 =
        .verdict (.error (.noCalendar (.malformed message))) := by
  intro client body network service
  have hspace : Json.IsSpace [' '] := by simp [Json.IsSpace, Json.spaces]
  have hnil := Json.isSpace_nil
  have hbare (name : String) (h : name.toList.all Json.isBare = true) :
      Json.WrittenString name name.toList := .text (.of_isBare h)
  have hevent := Json.Written.object (.member hnil (hbare "date" rfl) hnil
    (.spaced hspace (.string (hbare "2024-12-25" rfl)) hnil))
  have hempty := Json.Written.object (.member hnil (hbare "events" rfl) hnil
    (.spaced hspace (.emptyArray hnil) hnil))
  have hireland := Json.Written.object (.member hnil (hbare "events" rfl) hnil
    (.spaced hspace (.array (.element (.spaced hnil hevent hnil))) hnil))
  have hfeed := Json.Written.spaced hnil (.object
    (.members hnil (hbare "england-and-wales" rfl) hnil (.spaced hspace hempty hnil)
      (.members hspace (hbare "scotland" rfl) hnil (.spaced hspace hempty hnil)
        (.member hspace (hbare "northern-ireland" rfl) hnil
          (.spaced hspace hireland hnil))))) hnil
  rw [← String.toList_ofList (l := [] ++ _)] at hfeed
  have htarget : ∃ url, Client.target "http://feed/" = .ok url := ⟨_, rfl⟩
  obtain ⟨url, htarget⟩ := htarget
  have hreceived : client.Receives network 0 (utf8 body) :=
    ⟨url, { status := 200, body := utf8 body }, htarget, rfl, rfl, rfl, rfl⟩
  let ms : List Member := [("england-and-wales", .object [("events", .array [])]),
    ("scotland", .object [("events", .array [])]),
    ("northern-ireland", .object [("events", .array [.object [("date", .string "2024-12-25")]])])]
  have hobjects : Feed.IsFeed ms := by
    intro region v hv
    have hregion : ∃ es, v = .object [("events", .array es)] ∧ ∀ e ∈ es, Feed.IsObject e := by
      cases region with
      | englandAndWales | scotland =>
        exact ⟨[], List.mem_singleton.mp hv, fun e he => absurd he List.not_mem_nil⟩
      | northernIreland =>
        refine ⟨_, List.mem_singleton.mp hv, fun e he => ?_⟩
        exact ⟨_, List.mem_singleton.mp he⟩
    obtain ⟨es, rfl, hes⟩ := hregion
    refine ⟨_, rfl, fun es' hes' => ?_⟩
    cases List.mem_singleton.mp hes'
    exact hes
  have hfault : Feed.EventFault [("date", .string "2024-12-25")] := .missing (List.mem_cons_self) rfl
  have hgiven : .object [("events", .array [.object [("date", .string "2024-12-25")]])] ∈
      Json.valuesOf ms Region.northernIreland.name := .head _
  obtain ⟨hmalformed, -⟩ :=
    Client.malformed_feed_gives_no_calendar client network 0 ms body hreceived hfeed hobjects
  obtain ⟨message, hresult, hservice⟩ :=
    hmalformed (.inl (.division hgiven (.event (i := 0) (.head _) rfl hfault)))
  obtain ⟨-, hask⟩ := hservice service rfl rfl
  exact ⟨message, hresult, (hask 0 (.isWorkingDay .first) rfl rfl).1⟩

/-- A name that is half a surrogate pair takes a feed its calendar, though nothing that the decoder
reads is at fault: the regions are there once, with a list of events each. -/
theorem Client.name_without_a_text_gives_no_calendar :
    let client : Client := ⟨"http://feed/", 30, 5⟩
    let network : Network :=
      ⟨fun _ => some (.reply { status := 200, body := utf8 Feed.halfPairText })⟩
    client.Receives network 0 (utf8 Feed.halfPairText) ∧
      IsDocument (.object Feed.halfPairMembers) Feed.halfPairText ∧
      Feed.IsFeed Feed.halfPairMembers ∧ ¬ Feed.FeedFault Feed.halfPairMembers ∧
      ¬ ∃ calendar, (client.fetch network 0).1.result = .ok calendar := by
  intro client network
  obtain ⟨url, htarget⟩ : ∃ url, Client.target "http://feed/" = .ok url := ⟨_, rfl⟩
  have hreceived : client.Receives network 0 (utf8 Feed.halfPairText) :=
    ⟨url, { status := 200, body := utf8 Feed.halfPairText }, htarget, rfl, rfl, rfl, rfl⟩
  refine ⟨hreceived, Feed.halfPairText_written, Feed.isFeed_halfPairMembers,
    Feed.not_feedFault_halfPairMembers, ?_⟩
  rintro ⟨calendar, hcalendar⟩
  rw [Client.fetch_result_of_receives hreceived, Client.decode] at hcalendar
  have hmeaning := Feed.decode_eq_calendarOf? Feed.halfPairText_written Feed.isFeed_halfPairMembers
  rw [Feed.calendarOf?_halfPairMembers] at hmeaning
  cases hdecode : Feed.decode (utf8 Feed.halfPairText) with
  | error fault =>
    rw [hdecode] at hcalendar
    cases hcalendar
  | ok decoded =>
    rw [hdecode] at hmeaning
    cases hmeaning

end Workday
