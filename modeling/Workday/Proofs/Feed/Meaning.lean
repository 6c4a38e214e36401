import Workday.Feed
import Workday.Proofs.Json.Records

/-!
# What a feed document means

The calendar in a feed document, told by the values of its members: the title and date of an event
are the only values of their names, notes and bunting may be missing, and a list means what all its
elements mean. An object with a name that has no text means nothing. `decode_eq_calendarOf?` says
that decoding a document, however it is written, gives this calendar.
-/

set_option autoImplicit false

namespace Workday.Feed

open Json (Value Member Column Decodes valuesOf isNamed sole? soleOr? slot? SlotsTell)
open Workday.Text (utf8)

def IsObject (v : Value) : Prop := ∃ ms, v = .object ms

/-! ## Meanings -/

def dateOf? (v : Value) : Option Date := v.string?.bind fun text => (Date.read text).toOption

/-- The event that the members of an object mean. -/
def eventOf? (ms : List Member) : Option Event :=
  if isNamed ms then do
    let title ← sole? Value.string? (valuesOf ms "title")
    let date ← sole? dateOf? (valuesOf ms "date")
    let notes ← soleOr? "" Value.string? (valuesOf ms "notes")
    let bunting ← soleOr? false Value.bool? (valuesOf ms "bunting")
    return ⟨title, date, notes, bunting⟩
  else none

/-- The events that a list of objects means. -/
def eventsOf? (v : Value) : Option (List Event) :=
  v.array?.bind fun vs => vs.mapM fun v => v.object?.bind eventOf?

/-- The events of the region that an object describes. -/
def divisionOf? (ms : List Member) : Option (List Event) :=
  if isNamed ms then sole? eventsOf? (valuesOf ms "events") else none

/-- The events of a region in a feed. -/
def regionOf? (ms : List Member) (region : Region) : Option (List Event) :=
  sole? (fun v => v.object?.bind divisionOf?) (valuesOf ms region.name)

/-- The calendar that the members of a feed document mean. -/
def calendarOf? (ms : List Member) : Option Calendar :=
  if isNamed ms then do
    let englandAndWales ← regionOf? ms .englandAndWales
    let scotland ← regionOf? ms .scotland
    let northernIreland ← regionOf? ms .northernIreland
    return ⟨englandAndWales, scotland, northernIreland⟩
  else none

/-! ## Events -/

/-- A date is decoded to what its text is read as. -/
theorem date_decodes : Decodes date (fun _ => True) dateOf? := by
  have h := Json.stringWith_decodes "a formatted date string" fun s =>
    (Date.read s).mapError Date.Fault.message
  have hmeaning : (fun v : Value => v.string?.bind fun text =>
      ((Date.read text).mapError Date.Fault.message).toOption) = dateOf? := by
    funext v
    rw [dateOf?]
    congr 1
    funext text
    cases Date.read text <;> rfl
  rwa [hmeaning] at h

def eventColumns : List (Column EventDraft) :=
  [{ Content := String, name := "title", mayBeMissing := false, decoder := Json.string,
     domain := fun _ => True, meaning := Value.string?,
     get := EventDraft.title, set := fun title d => { d with title := some title },
     get_set := fun _ _ => rfl, decodes := Json.string_decodes },
   { Content := Date, name := "date", mayBeMissing := false, decoder := date,
     domain := fun _ => True, meaning := dateOf?,
     get := EventDraft.date, set := fun date d => { d with date := some date },
     get_set := fun _ _ => rfl, decodes := date_decodes },
   { Content := String, name := "notes", mayBeMissing := true, decoder := Json.string,
     domain := fun _ => True, meaning := Value.string?,
     get := EventDraft.notes, set := fun notes d => { d with notes := some notes },
     get_set := fun _ _ => rfl, decodes := Json.string_decodes },
   { Content := Bool, name := "bunting", mayBeMissing := true, decoder := Json.boolean,
     domain := fun _ => True, meaning := Value.bool?,
     get := EventDraft.bunting, set := fun bunting d => { d with bunting := some bunting },
     get_set := fun _ _ => rfl, decodes := Json.boolean_decodes }]

/-- The fields that the decoder of an event knows are those of its columns. -/
theorem eventShape_fields : eventShape.fields = eventColumns.map Column.field := rfl

/-- The columns of an event do not touch each other: each has a name and a slot of its own. -/
theorem eventColumns_apart : eventColumns.Pairwise Json.Apart := by
  simp [eventColumns, Json.Apart]

/-- The draft that the members of an object fill comes to the event that they mean. Filling goes by the
order of the members, and the meaning asks for each name apart from the others. -/
theorem recordOf_event (ms : List Member) :
    Json.recordOf eventShape eventColumns ms = eventOf? ms := by
  rw [eventOf?]
  refine Json.recordOf_eq_ite fun hnamed => ?_
  have htell := Json.fill_slotsTell eventColumns_apart eventShape.start hnamed
  rw [Json.recordOf]
  simp only [Json.sole?_eq_slot?, Json.soleOr?_eq_slot?]
  cases hfill : Json.fill eventColumns eventShape.start ms with
  | some draft =>
    rw [hfill] at htell
    simp only [SlotsTell, eventColumns, List.forall_mem_cons, Column.slot?, eventShape] at htell
    obtain ⟨htitle, hdate, hnotes, hbunting, -⟩ := htell
    rw [htitle, hdate, hnotes, hbunting]
    rfl
  | none =>
    rw [hfill] at htell
    simp only [SlotsTell, eventColumns, Column.slot?, eventShape, List.mem_cons, List.not_mem_nil,
      or_false, exists_eq_or_imp, exists_eq_left] at htell
    rcases htell with hnone | hnone | hnone | hnone <;> simp [hnone]

/-- An event without a title or a date is not finished. -/
theorem event_needs (draft : EventDraft) : ∀ column ∈ eventColumns, column.mayBeMissing = false →
    column.get draft = none → eventShape.finish draft = none := by
  simp only [eventColumns, List.forall_mem_cons, eventShape, reduceCtorEq, false_imp_iff]
  refine ⟨fun _ htitle => ?_, fun _ hdate => ?_, trivial, trivial, nofun⟩
  · rw [htitle]
    rfl
  · rw [hdate]
    cases draft.title <;> rfl

/-- An object is an event or none, by its members. -/
theorem event_decodes : Decodes event IsObject fun v => v.object?.bind eventOf? := by
  have h := Json.record_decodes eventShape_fields event_needs
  rw [show Json.recordOf eventShape eventColumns = eventOf? from funext recordOf_event] at h
  refine h.mono fun v hv => ?_
  obtain ⟨ms, rfl⟩ := hv
  refine ⟨ms, rfl, ?_⟩
  simp [Json.InDomain, eventColumns]

/-! ## Regions -/

/-- The events of a region stand where objects are wanted. -/
def IsDivision (v : Value) : Prop :=
  ∃ ms, v = .object ms ∧ ∀ es, .array es ∈ valuesOf ms "events" → ∀ e ∈ es, IsObject e

def divisionColumns : List (Column (Option (List Event))) :=
  [{ Content := List Event, name := "events", mayBeMissing := false, decoder := Json.list event,
     domain := fun v => ∀ es, v = .array es → ∀ e ∈ es, IsObject e, meaning := eventsOf?,
     get := id, set := fun events _ => some events,
     get_set := fun _ _ => rfl, decodes := Json.list_decodes event_decodes }]

/-- The fields that the decoder of a region knows are those of its one column. -/
theorem divisionShape_fields : divisionShape.fields = divisionColumns.map Column.field := rfl

/-- One column is apart from all others. -/
theorem divisionColumns_apart : divisionColumns.Pairwise Json.Apart :=
  List.pairwise_singleton _ _

/-- What the columns of a region make of its members is what the members mean. -/
theorem recordOf_division (ms : List Member) :
    Json.recordOf divisionShape divisionColumns ms = divisionOf? ms := by
  rw [divisionOf?]
  refine Json.recordOf_eq_ite fun hnamed => ?_
  have htell := Json.fill_slotsTell divisionColumns_apart divisionShape.start hnamed
  rw [Json.recordOf, Json.sole?_eq_slot?]
  cases hfill : Json.fill divisionColumns divisionShape.start ms with
  | some draft =>
    rw [hfill] at htell
    simp only [SlotsTell, divisionColumns, List.forall_mem_cons, Column.slot?, divisionShape,
      id_eq] at htell
    rw [htell.1]
    rfl
  | none =>
    rw [hfill] at htell
    simp only [SlotsTell, divisionColumns, Column.slot?, divisionShape, List.mem_cons,
      List.not_mem_nil, or_false, exists_eq_left, id_eq] at htell
    rw [htell]
    rfl

/-- A region without events is not finished. -/
theorem division_needs (draft : Option (List Event)) : ∀ column ∈ divisionColumns,
    column.mayBeMissing = false → column.get draft = none → divisionShape.finish draft = none := by
  simp only [divisionColumns, List.forall_mem_cons]
  exact ⟨fun _ hevents => hevents, nofun⟩

/-- A region is decoded to what its members mean. Only its events are read, so only they have to be
objects. -/
theorem division_decodes : Decodes division IsDivision fun v => v.object?.bind divisionOf? := by
  have h := Json.record_decodes divisionShape_fields division_needs
  rw [show Json.recordOf divisionShape divisionColumns = divisionOf? from
    funext recordOf_division] at h
  refine h.mono fun v hv => ?_
  obtain ⟨ms, rfl, hevents⟩ := hv
  refine ⟨ms, rfl, ?_⟩
  simp only [Json.InDomain, divisionColumns, List.forall_mem_cons]
  refine ⟨fun v hv es heq => ?_, nofun⟩
  subst heq
  exact hevents es hv

/-! ## Calendars -/

/-- The parts of a feed stand where objects are wanted. -/
def IsFeed (ms : List Member) : Prop :=
  ∀ region : Region, ∀ v ∈ valuesOf ms region.name, IsDivision v

/-- The column of a region, with its slot in the draft. -/
def regionColumn (region : Region) (get : Draft → Option (List Event))
    (set : List Event → Draft → Draft)
    (get_set : ∀ events draft, get (set events draft) = some events) : Column Draft where
  Content := List Event
  name := region.name
  mayBeMissing := false
  decoder := division
  domain := IsDivision
  meaning v := v.object?.bind divisionOf?
  get := get
  set := set
  get_set := get_set
  decodes := division_decodes

def feedColumns : List (Column Draft) :=
  [regionColumn .englandAndWales Draft.englandAndWales
     (fun events d => { d with englandAndWales := some events }) fun _ _ => rfl,
   regionColumn .scotland Draft.scotland
     (fun events d => { d with scotland := some events }) fun _ _ => rfl,
   regionColumn .northernIreland Draft.northernIreland
     (fun events d => { d with northernIreland := some events }) fun _ _ => rfl]

/-- The fields that the decoder of a feed knows are those of its columns, one for each region. -/
theorem shape_fields : shape.fields = feedColumns.map Column.field := rfl

/-- The columns of the regions do not touch each other. -/
theorem feedColumns_apart : feedColumns.Pairwise Json.Apart := by
  simp [feedColumns, Json.Apart, regionColumn, Region.name]

/-- What the columns of a feed make of its members is what the members mean. -/
theorem recordOf_calendar (ms : List Member) :
    Json.recordOf shape feedColumns ms = calendarOf? ms := by
  rw [calendarOf?]
  refine Json.recordOf_eq_ite fun hnamed => ?_
  have htell := Json.fill_slotsTell feedColumns_apart shape.start hnamed
  rw [Json.recordOf]
  simp only [regionOf?, Json.sole?_eq_slot?]
  cases hfill : Json.fill feedColumns shape.start ms with
  | some draft =>
    rw [hfill] at htell
    simp only [SlotsTell, feedColumns, regionColumn, List.forall_mem_cons, Column.slot?, shape]
      at htell
    obtain ⟨hengland, hscotland, hireland, -⟩ := htell
    rw [hengland, hscotland, hireland]
    rfl
  | none =>
    rw [hfill] at htell
    simp only [SlotsTell, feedColumns, regionColumn, Column.slot?, shape, List.mem_cons,
      List.not_mem_nil, or_false, exists_eq_or_imp, exists_eq_left] at htell
    rcases htell with hnone | hnone | hnone <;> simp [hnone]

/-- A feed in which a region is missing is not finished. -/
theorem feed_needs (draft : Draft) : ∀ column ∈ feedColumns, column.mayBeMissing = false →
    column.get draft = none → shape.finish draft = none := by
  simp only [feedColumns, regionColumn, List.forall_mem_cons, shape]
  refine ⟨fun _ hengland => ?_, fun _ hscotland => ?_, fun _ hireland => ?_, nofun⟩
  · simp [hengland]
  · simp [hscotland]
  · simp [hireland]

/-- A feed is decoded to what its members mean. -/
theorem feed_decodes : Decodes shape.decoder (fun v => ∃ ms, v = .object ms ∧ IsFeed ms)
    fun v => v.object?.bind calendarOf? := by
  have h := Json.record_decodes shape_fields feed_needs
  rw [show Json.recordOf shape feedColumns = calendarOf? from funext recordOf_calendar] at h
  refine h.mono fun v hv => ?_
  obtain ⟨ms, rfl, hregions⟩ := hv
  refine ⟨ms, rfl, ?_⟩
  simp only [Json.InDomain, feedColumns, regionColumn, List.forall_mem_cons]
  exact ⟨hregions .englandAndWales, hregions .scotland, hregions .northernIreland, nofun⟩

/-- Decoding a feed document gives the calendar that it means, however it is written. -/
theorem decode_eq_calendarOf? {ms : List Member} {text : String}
    (hdoc : Json.IsDocument (.object ms) text) (hfeed : IsFeed ms) :
    (decode (utf8 text)).toOption = calendarOf? ms :=
  Json.decode_document feed_decodes hdoc ⟨ms, rfl, hfeed⟩

end Workday.Feed
