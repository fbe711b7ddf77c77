import TelemetryBridge.Json.Basic
import TelemetryBridge.Text.Units

/-!
# Writing JSON

A value on one line, without blanks. Quotes, backslashes, control characters and surrogates that
stand alone in a text are escaped.
-/

namespace TelemetryBridge.Json

def hexDigit (n : Nat) : Char :=
  if n < 10 then Char.ofNat ('0'.toNat + n) else Char.ofNat ('a'.toNat + (n - 10))

def escapeChar (c : Char) : List Char :=
  if c = '"' then ['\\', '"']
  else if c = '\\' then ['\\', '\\']
  else if c = '\n' then ['\\', 'n']
  else if c = '\r' then ['\\', 'r']
  else if c = '\t' then ['\\', 't']
  else if c.toNat < 0x20 then
    ['\\', 'u', '0', '0', hexDigit (c.toNat / 16), hexDigit (c.toNat % 16)]
  else [c]

def escapeCode (code : Nat) : List Char :=
  if Text.isHigh code || Text.isLow code then
    ['\\', 'u', 'd', hexDigit (code / 0x100 % 16), hexDigit (code / 16 % 16), hexDigit (code % 16)]
  else escapeChar (Char.ofNat code)

def quote (s : String) : String :=
  "\"" ++ .ofList ((Text.codes s.toList).flatMap escapeCode) ++ "\""

mutual

def write : Json → String
  | null => "null"
  | bool value => if value then "true" else "false"
  | number value => value.text
  | text value => quote value
  | array items => "[" ++ ",".intercalate (writeItems items) ++ "]"
  | object members => "\x7b" ++ ",".intercalate (writeMembers members) ++ "\x7d"

def writeItems : List Json → List String
  | [] => []
  | item :: items => write item :: writeItems items

def writeMembers : List (String × Json) → List String
  | [] => []
  | (name, value) :: members => (quote name ++ ":" ++ write value) :: writeMembers members

end

end TelemetryBridge.Json
