import Workday.Proofs.Date.Text
import Workday.Proofs.Feed.Fault
import Workday.Proofs.Json.Rendering

/-!
# Feeds of a calendar

A calendar is described by the members of a feed document, in any order and among others. Whatever
document has such members, decoding it gives the calendar, as long as the names that the decoder reads
stand for texts: it refuses a name with half a surrogate pair, even that of a member it would pass over.
What the other members hold is free.
-/

set_option autoImplicit false

namespace Workday.Feed

open Json (Value Member IsDocument valuesOf isNamed sole? soleOr?)
open Workday.Text (utf8)

variable {ms : List Member}

/-- The members of an object describe an event: its title and date, and its notes and bunting unless
these are what a missing member stands for. -/
structure DescribesEvent (event : Event) (ms : List Member) : Prop where
  title : valuesOf ms "title" = [.string event.title]
  date : valuesOf ms "date" = [.string event.date.format]
  notes : valuesOf ms "notes" = [.string event.notes] ∨ valuesOf ms "notes" = [] ∧ event.notes = ""
  bunting : valuesOf ms "bunting" = [.bool event.bunting] ∨
    valuesOf ms "bunting" = [] ∧ event.bunting = false

/-- The members of an object describe the events of a region, in their order. -/
def DescribesDivision (events : List Event) (ms : List Member) : Prop :=
  ∃ es, valuesOf ms "events" = [.array es] ∧
    List.Forall₂ (fun event v => ∃ fields, v = .object fields ∧ DescribesEvent event fields) events es

/-- The members of a feed document describe a calendar. -/
def DescribesCalendar (calendar : Calendar) (ms : List Member) : Prop :=
  ∀ region : Region, ∃ division, valuesOf ms region.name = [.object division] ∧
    DescribesDivision (calendar.events region) division

/-- What an event is described by are strings with texts, so names alone decide whether it is legible. -/
theorem DescribesEvent.legible {event : Event} (h : DescribesEvent event ms)
    (hnamed : isNamed ms = true) : LegibleEvent ms := by
  refine ⟨hnamed, fun name hname hgiven => ?_⟩
  simp only [List.mem_cons, List.not_mem_nil, or_false] at hname
  rcases hname with rfl | rfl | rfl
  · rw [h.title] at hgiven
    cases List.mem_singleton.mp hgiven
  · rw [h.date] at hgiven
    cases List.mem_singleton.mp hgiven
  · rcases h.notes with hnotes | ⟨hnotes, -⟩
    · rw [hnotes] at hgiven
      cases List.mem_singleton.mp hgiven
    · rw [hnotes] at hgiven
      cases hgiven

/-- A legible event that is described means that event. Notes that are empty and a bunting that is false
may be left out, since they are what is put in the place of what is missing. -/
theorem eventOf?_of_describes {event : Event} (h : DescribesEvent event ms)
    (hlegible : LegibleEvent ms) : eventOf? ms = some event := by
  have hdate : dateOf? (.string event.date.format) = some event.date := by
    rw [dateOf?, Value.string?, Option.bind_some, Date.read_format]
    rfl
  have hnotes : soleOr? "" Value.string? (valuesOf ms "notes") = some event.notes := by
    rcases h.notes with hgiven | ⟨hmissing, hempty⟩
    · rw [hgiven]
      rfl
    · rw [hmissing, hempty]
      rfl
  have hbunting : soleOr? false Value.bool? (valuesOf ms "bunting") = some event.bunting := by
    rcases h.bunting with hgiven | ⟨hmissing, hfalse⟩
    · rw [hgiven]
      rfl
    · rw [hmissing, hfalse]
      rfl
  rw [eventOf?, if_pos hlegible.names, h.title, h.date, hnotes, hbunting]
  simp only [sole?, Value.string?, hdate]
  rfl

/-- A legible region whose events are described means these events, none lost and in their order. The
same event may come twice, and then it is there twice. -/
theorem divisionOf?_of_describes {events : List Event} (h : DescribesDivision events ms)
    (hlegible : LegibleDivision ms) : divisionOf? ms = some events := by
  obtain ⟨es, hes, hevents⟩ := h
  have hfields : ∀ fields, .object fields ∈ es → LegibleEvent fields := fun fields hmem =>
    hlegible.events es fields (hes ▸ List.mem_singleton_self _) hmem
  rw [divisionOf?, if_pos hlegible.names, hes]
  change es.mapM (fun v => v.object?.bind eventOf?) = some events
  clear hes
  induction hevents with
  | nil => rfl
  | @cons event v events es hevent _ ih =>
    obtain ⟨fields, rfl, hdescribes⟩ := hevent
    have hrest := ih fun fields hmem => hfields fields (List.mem_cons_of_mem _ hmem)
    rw [List.mapM_cons, hrest, Value.object?, Option.bind_some,
      eventOf?_of_describes hdescribes (hfields fields List.mem_cons_self)]
    rfl

/-- A legible feed that describes a calendar means that calendar. -/
theorem calendarOf?_of_describes {calendar : Calendar} (h : DescribesCalendar calendar ms)
    (hlegible : Legible ms) : calendarOf? ms = some calendar := by
  have hregion (region : Region) : regionOf? ms region = some (calendar.events region) := by
    obtain ⟨division, hdivision, hevents⟩ := h region
    have hmem : .object division ∈ valuesOf ms region.name := hdivision ▸ List.mem_singleton_self _
    rw [regionOf?, hdivision]
    exact divisionOf?_of_describes hevents (hlegible.divisions region division hmem)
  rw [calendarOf?, if_pos hlegible.names, hregion, hregion, hregion]
  rfl

/-- What describes a calendar has objects and arrays where a feed has them, so all that is known of
feeds holds of it. -/
theorem DescribesCalendar.isFeed {calendar : Calendar} (h : DescribesCalendar calendar ms) :
    IsFeed ms := by
  intro region v hv
  obtain ⟨division, hdivision, es, hes, hevents⟩ := h region
  rw [hdivision, List.mem_singleton] at hv
  refine ⟨division, hv, fun es' hes' e he => ?_⟩
  rw [hes, List.mem_singleton, Value.array.injEq] at hes'
  subst hes'
  clear hes
  generalize calendar.events region = events at hevents
  induction hevents with
  | nil => cases he
  | cons hevent _ ih =>
    rcases List.mem_cons.mp he with rfl | hrest
    · obtain ⟨fields, hfields, -⟩ := hevent
      exact ⟨fields, hfields⟩
    · exact ih hrest

/-! ## Every calendar has a document -/

def eventMembers (event : Event) : List Member :=
  [("title", .string event.title), ("date", .string event.date.format),
    ("notes", .string event.notes), ("bunting", .bool event.bunting)]

def divisionMembers (events : List Event) : List Member :=
  [("events", .array (events.map fun event => .object (eventMembers event)))]

def calendarMembers (calendar : Calendar) : List Member :=
  Region.all.map fun region => (region.name, .object (divisionMembers (calendar.events region)))

/-- The members that are written for an event describe it. -/
theorem describesEvent_eventMembers (event : Event) : DescribesEvent event (eventMembers event) where
  title := by simp [valuesOf, eventMembers]
  date := by simp [valuesOf, eventMembers]
  notes := .inl (by simp [valuesOf, eventMembers])
  bunting := .inl (by simp [valuesOf, eventMembers])

/-- The members that are written for a region describe its events. -/
theorem describesDivision_divisionMembers (events : List Event) :
    DescribesDivision events (divisionMembers events) := by
  refine ⟨_, rfl, ?_⟩
  induction events with
  | nil => exact .nil
  | cons event events ih => exact .cons ⟨_, rfl, describesEvent_eventMembers event⟩ ih

/-- The members that are written for a calendar describe it. -/
theorem describesCalendar_calendarMembers (calendar : Calendar) :
    DescribesCalendar calendar (calendarMembers calendar) := by
  intro region
  refine ⟨divisionMembers (calendar.events region), ?_, describesDivision_divisionMembers _⟩
  cases region <;> rfl

/-- Every calendar has a document that describes it, whatever its titles, notes and years. So there
is no calendar that a feed could not bring. -/
theorem exists_document_of_calendar (calendar : Calendar) :
    ∃ ms text, DescribesCalendar calendar ms ∧ IsDocument (.object ms) text := by
  have hevent (event : Event) : ∃ s, Json.Written (.value (.object (eventMembers event))) s := by
    refine Json.exists_written_object rfl ?_
    simp only [eventMembers, List.forall_mem_cons]
    exact ⟨Json.exists_written_string _, Json.exists_written_string _,
      Json.exists_written_string _, Json.exists_written_bool _, nofun⟩
  have hdivision (events : List Event) :
      ∃ s, Json.Written (.value (.object (divisionMembers events))) s := by
    refine Json.exists_written_object rfl ?_
    simp only [divisionMembers, List.forall_mem_cons]
    refine ⟨Json.exists_written_array fun v hv => ?_, nofun⟩
    obtain ⟨event, -, rfl⟩ := List.mem_map.mp hv
    exact hevent event
  have hmembers : ∀ m ∈ calendarMembers calendar, ∃ s, Json.Written (.value m.2) s := by
    intro m hm
    obtain ⟨region, -, rfl⟩ := List.mem_map.mp hm
    exact hdivision _
  obtain ⟨text, htext⟩ := Json.exists_document (Json.exists_written_object rfl hmembers)
  exact ⟨calendarMembers calendar, text, describesCalendar_calendarMembers calendar, htext⟩

/-! ## Every document gives its calendar -/

/-- Every legible document that describes a calendar is decoded to that calendar, whatever years its
dates have, however its strings are escaped and whatever else stands in it. A document that describes a
calendar and is not legible is refused. -/
theorem every_rendering_gives_the_calendar (calendar : Calendar) (ms : List Member)
    (text : String) (describes : DescribesCalendar calendar ms)
    (written : IsDocument (.object ms) text) :
    (Legible ms → decode (utf8 text) = .ok calendar) ∧
      (¬ Legible ms → ∃ fault, decode (utf8 text) = .error fault) := by
  have hmeaning := decode_eq_calendarOf? written describes.isFeed
  have hnone := calendarOf?_eq_none_iff describes.isFeed
  cases hdecode : decode (utf8 text) with
  | error fault =>
    rw [hdecode] at hmeaning
    refine ⟨fun hlegible => ?_, fun _ => ⟨fault, rfl⟩⟩
    cases hmeaning.trans (calendarOf?_of_describes describes hlegible)
  | ok result =>
    rw [hdecode] at hmeaning
    refine ⟨fun hlegible => ?_, fun hillegible => ?_⟩
    · cases hmeaning.trans (calendarOf?_of_describes describes hlegible)
      rfl
    · cases hmeaning.trans (hnone.mpr (.inr hillegible))

set_option maxRecDepth 1000 in
/-- A feed with its regions out of order, an escape, a member that no one knows, a year of five digits
and neither notes nor bunting. -/
theorem every_rendering_gives_the_calendar_of_scotland :
    decode (utf8 "\x7b\"scotland\": \x7b\"division\": null, \"events\": [\x7b\"date\": \"+12345-12-25\", \"title\": \"\\u0058mas\"\x7d]\x7d, \"northern-ireland\": \x7b\"events\": []\x7d, \"england-and-wales\": \x7b\"events\": []\x7d\x7d") =
      .ok ⟨[], [⟨"Xmas", ⟨4508912, by decide, by decide⟩, "", false⟩], []⟩ := by
  let ms : List Member :=
    [("scotland", .object [("division", .null),
        ("events", .array [.object [("date", .string "+12345-12-25"), ("title", .string "Xmas")]])]),
      ("northern-ireland", .object [("events", .array [])]),
      ("england-and-wales", .object [("events", .array [])])]
  have hevent : DescribesEvent ⟨"Xmas", ⟨4508912, by decide, by decide⟩, "", false⟩
      [("date", .string "+12345-12-25"), ("title", .string "Xmas")] := by
    refine ⟨rfl, ?_, .inr ⟨rfl, rfl⟩, .inr ⟨rfl, rfl⟩⟩
    have hcivil : (⟨4508912, by decide, by decide⟩ : Date).civil = ⟨12345, 12, 25⟩ := rfl
    have hyear : Date.yearChars 12345 = "+12345".toList := by
      simp [Date.yearChars, Text.padded, Text.decimalDigits, Text.digitChar]
    have hmonth : Text.padded 2 12 = "12".toList := by
      simp [Text.padded, Text.decimalDigits, Text.digitChar]
    have hday : Text.padded 2 25 = "25".toList := by
      simp [Text.padded, Text.decimalDigits, Text.digitChar]
    have hformat : (⟨4508912, by decide, by decide⟩ : Date).format = "+12345-12-25" := by
      rw [Date.format, Date.chars, hcivil, hyear, hmonth, hday]
      rfl
    simp only [hformat]
    rfl
  have hdescribes :
      DescribesCalendar ⟨[], [⟨"Xmas", ⟨4508912, by decide, by decide⟩, "", false⟩], []⟩ ms := by
    intro region
    cases region with
    | englandAndWales => exact ⟨_, rfl, _, rfl, .nil⟩
    | northernIreland => exact ⟨_, rfl, _, rfl, .nil⟩
    | scotland => exact ⟨_, rfl, _, rfl, .cons ⟨_, rfl, hevent⟩ .nil⟩
  have hlegible : Legible ms := by
    refine ⟨rfl, fun region fields hregion => ?_⟩
    cases region with
    | englandAndWales | northernIreland =>
      cases List.mem_singleton.mp hregion
      refine ⟨rfl, fun es fields hes hfields => ?_⟩
      cases List.mem_singleton.mp hes
      cases hfields
    | scotland =>
      cases List.mem_singleton.mp hregion
      refine ⟨rfl, fun es fields hes hfields => ?_⟩
      cases List.mem_singleton.mp hes
      cases List.mem_singleton.mp hfields
      exact hevent.legible rfl
  refine (every_rendering_gives_the_calendar _ ms _ hdescribes ?_).1 hlegible
  have hspace : Json.IsSpace [' '] := by simp [Json.IsSpace, Json.spaces]
  have hnil := Json.isSpace_nil
  have hxmas : Json.WrittenString "Xmas" "\\u0058mas".toList :=
    .text (.cons (.unit ⟨'0', 0, '0', 0, '5', 5, '8', 8, by decide, by decide, by decide, by decide, rfl,
      rfl⟩) (.of_isBare (s := "mas".toList) rfl))
  have hbare (name : String) (h : name.toList.all Json.isBare = true) :
      Json.WrittenString name name.toList := .text (.of_isBare h)
  have hevent := Json.Written.object (.members hnil (hbare "date" rfl) hnil
    (.spaced hspace (.string (hbare "+12345-12-25" rfl)) hnil)
    (.member hspace (hbare "title" rfl) hnil (.spaced hspace (.string hxmas) hnil)))
  have hempty := Json.Written.object (.member hnil (hbare "events" rfl) hnil
    (.spaced hspace (.emptyArray hnil) hnil))
  have hscotland := Json.Written.object (.members hnil (hbare "division" rfl) hnil
    (.spaced hspace .nullWord hnil) (.member hspace (hbare "events" rfl) hnil
      (.spaced hspace (.array (.element (.spaced hnil hevent hnil))) hnil)))
  have hfeed := Json.Written.spaced hnil (.object (.members hnil (hbare "scotland" rfl) hnil
    (.spaced hspace hscotland hnil) (.members hspace (hbare "northern-ireland" rfl) hnil
      (.spaced hspace hempty hnil) (.member hspace (hbare "england-and-wales" rfl) hnil
        (.spaced hspace hempty hnil))))) hnil
  rw [← String.toList_ofList (l := [] ++ _)] at hfeed
  exact hfeed

/-- The empty calendar is described by a document with half a surrogate pair for the name of a member
that no one knows, and the document does not give it. -/
theorem name_without_a_text_is_refused :
    DescribesCalendar ⟨[], [], []⟩ halfPairMembers ∧
      IsDocument (.object halfPairMembers) halfPairText ∧
      decode (utf8 halfPairText) ≠ .ok ⟨[], [], []⟩ := by
  have hdescribes : DescribesCalendar ⟨[], [], []⟩ halfPairMembers := by
    intro region
    refine ⟨_, valuesOf_halfPairMembers region, _, rfl, ?_⟩
    cases region <;> exact .nil
  refine ⟨hdescribes, halfPairText_written, fun hdecode => ?_⟩
  have hmeaning := decode_eq_calendarOf? halfPairText_written isFeed_halfPairMembers
  rw [hdecode, calendarOf?_halfPairMembers] at hmeaning
  cases hmeaning

end Workday.Feed
