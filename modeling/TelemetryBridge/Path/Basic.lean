import TelemetryBridge.Path.KeyMap

/-!
# Paths

A path names a subtree of the target's data: a list of elements, each with a name and keys. The
raw segments from which the elements were read travel along for targets that know no elements; a
path that was not read from a text may be without them.
-/

namespace TelemetryBridge

/-- One step of a path. A key may stand without a value. -/
structure PathElem where
  name : String
  key : KeyMap (Option String)
deriving DecidableEq, Inhabited

/-- A path, with the raw segments it was read from, if it was. -/
structure Path where
  element : Option (List String) := none
  elem : List PathElem
  origin : Option String := none
  target : Option String := none
deriving DecidableEq, Inhabited

/-- Same name, and same keys in whatever order. -/
def PathElem.same (a b : PathElem) : Bool :=
  a.name == b.name && a.key.same b.key

/-- Same elements. Raw segments, origin and target do not count. -/
def Path.same (a b : Path) : Bool :=
  a.elem.length == b.elem.length && (a.elem.zip b.elem).all fun p => p.1.same p.2

end TelemetryBridge
