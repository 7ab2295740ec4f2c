import Ipsc2Mmdvm.Data.Clock
import Ipsc2Mmdvm.Data.GoMap
import Mathlib.Data.String.Basic

namespace Ipsc2Mmdvm.Data

/-! JSON values; `encoding/json` writes different values as different texts. -/

inductive Json where
  | null
  | bool (value : Bool)
  | number (value : Int)
  | float (value : Rat)
  | time (value : Time)
  | text (value : String)
  | array (items : List Json)
  | object (members : List (String × Json))

namespace Json

def ofSlice (items : List Json) : Json := if items.isEmpty then .null else .array items

def ofMap {K V : Type} [DecidableEq K] (text : K → String) (injective : Function.Injective text)
    (value : V → Json) (m : GoMap K V) : Json :=
  .object (((Enumeration.ranked text injective).order m.keys).filterMap fun key =>
    (m.lookup key).map fun found => (text key, value found))

def member (name : String) : Json → Option Json
  | .object members => members.lookup name
  | _ => none

end Json

end Ipsc2Mmdvm.Data
