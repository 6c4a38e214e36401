import Workday.Client
import Workday.Log
import Workday.Status

/-!
# The journal

What is recorded while the feed is fetched or probed. A fetch is announced, and ends with the cause
of its failure or with the moment that the calendar was stored. A probe records its failure only.
-/

set_option autoImplicit false

namespace Workday

open Log (Record Level Part)

/-- What the client records about a failure. -/
def FetchFailure.record (moment : Moment) (endpoint : String) (failure : FetchFailure) : Record :=
  let of := fun message name value =>
    (⟨moment, .warn, .client, message, [("url", endpoint), (name, value)]⟩ : Record)
  match failure with
  | .transport _ cause => of "bank holidays request failed" "error" cause.message
  | .status _ code => of "bank holidays request rejected" "status" (Status.text code)
  | .malformed message => of "bank holidays payload did not parse" "error" message

namespace Log

/-- The record that a run starts with. -/
def starting (moment : Moment) (url : String) (region : Region) : Record :=
  ⟨moment, .info, .program, "starting", [("url", url), ("region", region.name)]⟩

/-- The record that announces a fetch. -/
def fetching (moment : Moment) (endpoint : String) : Record :=
  ⟨moment, .info, .client, "fetching bank holidays", [("url", endpoint)]⟩

/-- The record of a fetch that the cached calendar could not use. -/
def unavailable (moment : Moment) (failure : FetchFailure) : Record :=
  ⟨moment, .warn, .cache, "bank holiday calendar unavailable", [("error", failure.message)]⟩

/-- The record of a calendar that has been stored. -/
def refreshed (moment : Moment) (ttl : Int) : Record :=
  ⟨moment, .debug, .cache, "bank holiday calendar refreshed",
    [("cached_at", moment.format), ("ttl_secs", toString (ttl.tdiv 1000))]⟩

/-- What is recorded about a fetch, from its start to its end. -/
def fetchRecords (endpoint : String) (ttl : Int) (start finish : Moment)
    (failure : Option FetchFailure) : List Record :=
  fetching start endpoint ::
    match failure with
    | some failure => [failure.record finish endpoint, unavailable finish failure]
    | none => [refreshed finish ttl]

/-- What is recorded about a probe. -/
def probeRecords (endpoint : String) (finish : Moment) (failure : Option FetchFailure) :
    List Record :=
  (failure.map (FetchFailure.record finish endpoint)).toList

end Log

end Workday
