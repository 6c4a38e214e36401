import Workday.Settings
import Workday.Yaml.Reader

/-!
# Settings as text

Settings are written as a YAML mapping with the sections `bank_holidays` and `log`. What is not
written keeps its default, and unknown names are passed over.
-/

set_option autoImplicit false

namespace Workday

open Yaml (Reader)
open Yaml.Reader (field fieldsOf natural64 optional text)

/-- The fields of the section on the feed. -/
def FeedSettings.fields : List (Reader.Field FeedSettings) :=
  [field "url" (text "a string") fun s url => { s with url },
    field "timeout_secs" natural64 fun s timeoutSecs => { s with timeoutSecs },
    field "health_timeout_secs" natural64 fun s healthTimeoutSecs => { s with healthTimeoutSecs },
    field "cache_ttl_secs" natural64 fun s ttlSecs => { s with ttlSecs }]

/-- The fields of the section on logging. -/
def LogSettings.fields : List (Reader.Field LogSettings) :=
  [field "level" (text "a string") fun s level => { s with level },
    ⟨"file", fun within s =>
      (optional within (text "path string")).map fun file => { s with file }⟩]

/-- The sections. -/
def Settings.sections : List (Reader.Field Settings) :=
  [field "bank_holidays" (fieldsOf "struct BankHolidaysConfig" FeedSettings.fields {})
      fun s feed => { s with feed },
    field "log" (fieldsOf "struct LogConfig" LogSettings.fields {}) fun s log => { s with log }]

/-- Reads settings from a text. -/
def Settings.read (s : String) : Except Yaml.ReadFault Settings :=
  Reader.run (fieldsOf "struct Config" Settings.sections {}) s

end Workday
