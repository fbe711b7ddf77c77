import TelemetryBridge.Json.Basic
import TelemetryBridge.Text.Units

/-!
# Reading JSON

The JSON grammar: blanks are space, tab, line feed and carriage return; texts hold no control
characters; numbers are read as binary64. Reading is bounded by the length of the text, since every
value takes at least one character.
-/

namespace TelemetryBridge.Json

/-- What reads part of a text: a result and the rest, or nothing. -/
abbrev Reader (α : Type) := List Char → Option (α × List Char)

def skipBlanks (cs : List Char) : List Char :=
  cs.dropWhile fun c => c == ' ' || c == '\t' || c == '\n' || c == '\r'

def word {α : Type} (w : String) (value : α) : Reader α := fun cs =>
  if w.toList.isPrefixOf cs then some (value, cs.drop w.length) else none

/-- The character of a one-letter escape. -/
def escaped? : Char → Option Char
  | '"' => some '"'
  | '\\' => some '\\'
  | '/' => some '/'
  | 'b' => some '\x08'
  | 'f' => some '\x0c'
  | 'n' => some '\n'
  | 'r' => some '\r'
  | 't' => some '\t'
  | _ => none

/-- Four hexadecimal digits. -/
def codeUnit : Reader Nat
  | a :: b :: c :: d :: cs =>
    match [a, b, c, d].mapM (Number.digitValue? 16) with
    | some digits => some (digits.foldl (fun n x => 16 * n + x) 0, cs)
    | none => none
  | _ => none

/-- What a text holds for one code unit and, for a high surrogate, the low surrogate behind it. -/
def unitsChars (unit : Nat) (cs : List Char) : List Char × List Char :=
  if Text.isHigh unit then
    match cs with
    | '\\' :: 'u' :: rest =>
      match codeUnit rest with
      | some (low, after) =>
        if Text.isLow low then (Text.spell (Char.ofNat (Text.pairCode unit low)), after)
        else ([Text.standIn unit], cs)
      | none => ([Text.standIn unit], cs)
    | _ => ([Text.standIn unit], cs)
  else if Text.isLow unit then ([Text.standIn unit], cs)
  else ([Char.ofNat unit], cs)

/-- The characters of a text up to its closing quote. -/
def chars : Nat → Reader (List Char)
  | 0, _ => none
  | fuel + 1, cs =>
    match cs with
    | '"' :: rest => some ([], rest)
    | '\\' :: 'u' :: rest => do
      let (unit, rest) ← codeUnit rest
      let (held, rest) := unitsChars unit rest
      let (tail, rest) ← chars fuel rest
      return (held ++ tail, rest)
    | '\\' :: c :: rest => do
      let c ← escaped? c
      let (tail, rest) ← chars fuel rest
      return (c :: tail, rest)
    | c :: rest =>
      if c.toNat < 0x20 then none
      else do
        let (tail, rest) ← chars fuel rest
        return (Text.spell c ++ tail, rest)
    | [] => none

/-- A number: no leading zeros, and digits on both sides of a point. -/
def number? : Reader Number := fun cs =>
  let (negative, body) := match cs with
    | '-' :: rest => (true, rest)
    | rest => (false, rest)
  match Number.takePoint body with
  | (whole, fraction, rest) =>
    if whole = [] ∨ (whole.head? = some '0' ∧ whole.length ≠ 1) ∨ fraction = some [] then none
    else do
      let (exponent, rest) ← Number.takeExponent rest
      return (Number.ofParts negative whole (fraction.getD []) exponent, rest)

mutual

/-- A value without blanks before it. -/
def value : Nat → Reader Json
  | 0, _ => none
  | fuel + 1, cs =>
    match cs with
    | 'n' :: _ => word "null" .null cs
    | 't' :: _ => word "true" (.bool true) cs
    | 'f' :: _ => word "false" (.bool false) cs
    | '"' :: rest => (chars (rest.length + 1) rest).map fun (t, rest) => (.text (.ofList t), rest)
    | '[' :: rest =>
      match skipBlanks rest with
      | ']' :: rest => some (.array [], rest)
      | rest => (items fuel rest).map fun (l, rest) => (.array l, rest)
    | '\x7b' :: rest =>
      match skipBlanks rest with
      | '\x7d' :: rest => some (.object [], rest)
      | rest => (members fuel rest).map fun (l, rest) => (.object l, rest)
    | _ => (number? cs).map fun (n, rest) => (.number n, rest)

def items : Nat → Reader (List Json)
  | 0, _ => none
  | fuel + 1, cs => do
    let (item, rest) ← value fuel cs
    match skipBlanks rest with
    | ',' :: rest =>
      let (tail, rest) ← items fuel (skipBlanks rest)
      return (item :: tail, rest)
    | ']' :: rest => return ([item], rest)
    | _ => none

def members : Nat → Reader (List (String × Json))
  | 0, _ => none
  | fuel + 1, cs =>
    match cs with
    | '"' :: rest => do
      let (name, rest) ← chars (rest.length + 1) rest
      match skipBlanks rest with
      | ':' :: rest =>
        let (item, rest) ← value fuel (skipBlanks rest)
        match skipBlanks rest with
        | ',' :: rest =>
          let (tail, rest) ← members fuel (skipBlanks rest)
          return ((.ofList name, item) :: tail, rest)
        | '\x7d' :: rest => return ([(.ofList name, item)], rest)
        | _ => none
      | _ => none
    | _ => none

end

/-- A whole text as one value, with blanks around it. -/
def parse? (text : String) : Option Json :=
  let cs := text.toList
  match value (cs.length + 1) (skipBlanks cs) with
  | some (json, rest) => if skipBlanks rest = [] then some json else none
  | none => none

end TelemetryBridge.Json
