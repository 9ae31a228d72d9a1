import Launchpad.Double.Text
import Launchpad.Sorting
import Launchpad.Text.Quoted

/-!
# JSON values

The values in which configurations and reports are written. The fields of an object are pairs of a
key and a value; a reader visits them in ascending order of their keys.
-/

namespace Launchpad

inductive Json where
  | null
  | bool (value : Bool)
  | int (value : Int)
  | real (value : Double)
  | text (value : String)
  | list (items : List Json)
  | object (fields : List (String × Json))
  deriving Repr, Inhabited

namespace Json

def ofText? : Option String → Json
  | some s => .text s
  | none => .null

def texts (items : List String) : Json := .list (items.map .text)

def nat (n : Nat) : Json := .int n

def sortFields (fields : List (String × Json)) : List (String × Json) :=
  sortBy (fun a b => !decide (b.1 < a.1)) fields

def describe : Json → String
  | .null => "null"
  | .bool value => "boolean `" ++ (if value then "true" else "false") ++ "`"
  | .int value => "integer `" ++ toString value ++ "`"
  | .real value => "floating point `" ++ value.text ++ "`"
  | .text value => "string " ++ Text.quote value
  | .list _ => "sequence"
  | .object _ => "map"

end Json

end Launchpad
