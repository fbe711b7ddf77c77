import TelemetryBridge.Number.Decimal

/-!
# JSON values
-/

namespace TelemetryBridge

/-- A JSON value. An object keeps its members in the order of the text. -/
inductive Json where
  | null
  | bool (value : Bool)
  | number (value : Number)
  | text (value : String)
  | array (items : List Json)
  | object (members : List (String × Json))
deriving Inhabited

namespace Json

/-- The last member of a name. -/
def member? (name : String) (members : List (String × Json)) : Option Json :=
  members.reverse.lookup name

mutual

/-- A value as a plain text: items of an array separated by commas, an object by its class. -/
def display : Json → String
  | null => "null"
  | bool value => if value then "true" else "false"
  | number value => value.text
  | text value => value
  | array items => ",".intercalate (displayItems items)
  | object _ => "[object Object]"

def displayItems : List Json → List String
  | [] => []
  | null :: items => "" :: displayItems items
  | item :: items => display item :: displayItems items

end

end Json

end TelemetryBridge
