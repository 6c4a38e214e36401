import Workday.Text
import Workday.Text.LowerCase

/-!
# Regions

The three jurisdictions that publish bank holidays. A region is read from its published name in
any letter case, with underscores for hyphens and blanks around it.
-/

set_option autoImplicit false

namespace Workday

open Workday.Text

/-- A jurisdiction that a list of bank holidays is published for. -/
inductive Region where
  | englandAndWales
  | scotland
  | northernIreland
  deriving DecidableEq, Repr

namespace Region

instance : Inhabited Region := ⟨englandAndWales⟩

/-- All regions, in the order they are published. -/
def all : List Region := [englandAndWales, scotland, northernIreland]

/-- The name under which the feed publishes the region. -/
def name : Region → String
  | englandAndWales => "england-and-wales"
  | scotland => "scotland"
  | northernIreland => "northern-ireland"

/-- The place in `Region.all`. -/
def index : Region → Nat
  | englandAndWales => 0
  | scotland => 1
  | northernIreland => 2

instance : ToString Region := ⟨name⟩

/-- A hyphen for an underscore. -/
def hyphenated (c : Char) : Char :=
  if c = '_' then '-' else c

/-- The region that a text names. -/
def ofString? (s : String) : Option Region :=
  let wanted := (lowerCase (trim s.toList)).map hyphenated
  all.find? fun region => region.name.toList == wanted

/-- A text that names no region. -/
structure Unknown where
  text : String
  deriving DecidableEq, Repr

/-- The wording of the refusal. -/
def Unknown.message (u : Unknown) : String :=
  "unknown region '" ++ u.text
    ++ "', expected one of: england-and-wales, scotland, northern-ireland"

/-- The region that a text names, or the refusal of the text. -/
def read (s : String) : Except Unknown Region :=
  match ofString? s with
  | some region => .ok region
  | none => .error ⟨s⟩

end Region

end Workday
