import Workday.Calendar
import Workday.Date.Text
import Workday.Json.Decoder

/-!
# The feed

The published calendar is a JSON document: an object with one member for each region, in each the
list of its events. Decoding it gives the whole calendar or a fault, never a part of it.
-/

set_option autoImplicit false

namespace Workday.Feed

open Workday.Json (Decoder Field Shape)

/-- An event as far as it has been read. -/
structure EventDraft where
  title : Option String := none
  date : Option Date := none
  notes : Option String := none
  bunting : Option Bool := none

/-- Decodes a date. -/
def date : Decoder Date :=
  Json.stringWith "a formatted date string" fun s => (Date.read s).mapError Date.Fault.message

/-- An event; without notes they are empty, and without a word on bunting there is none. -/
def eventShape : Shape Event EventDraft where
  wanted := "struct ApiEvent"
  start := {}
  fields :=
    [{ name := "title", isRead := (·.title.isSome),
       read := fun d c => do
        let (title, c) ← Json.string c
        return ({ d with title := some title }, c) },
     { name := "date", isRead := (·.date.isSome),
       read := fun d c => do
        let (date, c) ← Feed.date c
        return ({ d with date := some date }, c) },
     { name := "notes", isRead := (·.notes.isSome), mayBeMissing := true,
       read := fun d c => do
        let (notes, c) ← Json.string c
        return ({ d with notes := some notes }, c) },
     { name := "bunting", isRead := (·.bunting.isSome), mayBeMissing := true,
       read := fun d c => do
        let (bunting, c) ← Json.boolean c
        return ({ d with bunting := some bunting }, c) }]
  finish d := do
    return ⟨← d.title, ← d.date, d.notes.getD "", d.bunting.getD false⟩

/-- Decodes an event. -/
def event : Decoder Event := eventShape.decoder

/-- The part of a region: the list of its events. -/
def divisionShape : Shape (List Event) (Option (List Event)) where
  wanted := "struct ApiDivision"
  start := none
  fields :=
    [{ name := "events", isRead := Option.isSome,
       read := fun _ c => do
        let (events, c) ← Json.list event c
        return (some events, c) }]
  finish := id

/-- Decodes the part of a region. -/
def division : Decoder (List Event) := divisionShape.decoder

/-- A calendar as far as it has been read. -/
structure Draft where
  englandAndWales : Option (List Event) := none
  scotland : Option (List Event) := none
  northernIreland : Option (List Event) := none

/-- The parts of all regions. -/
def shape : Shape Calendar Draft where
  wanted := "struct ApiBankHolidaysResponse"
  start := {}
  fields :=
    [{ name := Region.englandAndWales.name, isRead := (·.englandAndWales.isSome),
       read := fun d c => do
        let (events, c) ← division c
        return ({ d with englandAndWales := some events }, c) },
     { name := Region.scotland.name, isRead := (·.scotland.isSome),
       read := fun d c => do
        let (events, c) ← division c
        return ({ d with scotland := some events }, c) },
     { name := Region.northernIreland.name, isRead := (·.northernIreland.isSome),
       read := fun d c => do
        let (events, c) ← division c
        return ({ d with northernIreland := some events }, c) }]
  finish d := do
    return ⟨← d.englandAndWales, ← d.scotland, ← d.northernIreland⟩

/-- Decodes the calendar in a feed document. -/
def decode (bytes : List UInt8) : Except Json.Fault Calendar :=
  Json.decode shape.decoder bytes

end Workday.Feed
