import TelemetryBridge.Path.Basic
import TelemetryBridge.Text.Units

/-!
# Writing paths

Each element is written behind a slash, its keys in the order of UTF-16 code units. A backslash
stands before every character that would end the part in which it occurs.
-/

namespace TelemetryBridge

namespace Path

/-- Puts a backslash before every backslash and before every special character. -/
def escape (special : Char → Bool) (cs : List Char) : List Char :=
  cs.flatMap fun c => if c == '\\' || special c then ['\\', c] else [c]

def writeKey (entry : String × Option String) : List Char :=
  '[' :: escape (fun c => c == '=' || c == ']') entry.1.toList ++
    '=' :: escape (· == ']') (entry.2.getD "").toList ++ [']']

end Path

def KeyMap.sorted {α : Type} (m : KeyMap α) : List (String × α) :=
  m.entries.mergeSort fun a b => Text.textLe a.1 b.1

def PathElem.write (e : PathElem) : List Char :=
  '/' :: Path.escape (fun c => c == '/' || c == '[') e.name.toList ++
    e.key.sorted.flatMap Path.writeKey

/-- The text of a path; without elements it is a lone slash. -/
def Path.format (p : Path) : String :=
  match p.elem with
  | [] => "/"
  | elems => .ofList (elems.flatMap PathElem.write)

end TelemetryBridge
