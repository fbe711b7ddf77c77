import TelemetryBridge.Address.Basic

/-!
# Dialable targets

The pattern of the texts that can be dialed: an optional scheme, an optional authority between
`//` and `/`, and an endpoint of at least one character without line terminators.
-/

namespace TelemetryBridge.Address

def isLineEnd (c : Char) : Bool :=
  c == '\n' || c == '\r' || c == '\u2028' || c == '\u2029'

def isEndpoint (cs : List Char) : Bool :=
  cs ≠ [] && cs.all fun c => !isLineEnd c

def afterScheme? (cs : List Char) : Option (List Char) :=
  match cs.takeWhile isSchemeChar, cs.dropWhile isSchemeChar with
  | _ :: _, ':' :: rest => some rest
  | _, _ => none

def afterAuthority? : List Char → Option (List Char)
  | '/' :: '/' :: rest =>
    match rest.dropWhile (· != '/') with
    | _ :: endpoint => some endpoint
    | [] => none
  | _ => none

/-- Whether the text can be dialed: with or without a scheme, with or without an authority, what is
left is an endpoint. -/
def isDialable (address : String) : Bool :=
  let cs := address.toList
  let starts := cs :: (afterScheme? cs).toList
  (starts ++ starts.filterMap afterAuthority?).any isEndpoint

end TelemetryBridge.Address
