import TelemetryBridge.CommandLine.Help
import TelemetryBridge.CommandLine.Suggestion

/-!
# Reading the command line

Words are read from left to right. A flag with an operand takes it from the same word or else the
next word, whatever that is. An unknown flag is reported only when all words have been read, unless
help is asked for among the words behind it.
-/

namespace TelemetryBridge

/-- Why a command line is not carried out. -/
inductive CommandExit where
  | version
  | help
  | missingOperand (flag : Flag)
  | invalidOperand (flag : Flag) (value : String)
  | unknownFlag (word : String)

namespace CommandExit

/-- What may have been meant by an unknown flag. -/
def meant (word : String) : String :=
  if "--".toList.isPrefixOf word.toList then
    let candidates := Flag.all.map Flag.long ++ ["help"]
    match Suggestion.similar (.ofList (word.toList.drop 2)) candidates with
    | [] => ""
    | [name] => "\n(Did you mean --" ++ name ++ "?)"
    | names =>
      "\n(Did you mean one of " ++ ", ".intercalate (names.map fun name => "--" ++ name) ++ "?)"
  else ""

def message : CommandExit → String
  | version => Help.version
  | help => "(outputHelp)"
  | missingOperand flag => "error: option '" ++ flag.term ++ "' argument missing"
  | invalidOperand flag value =>
    "error: option '" ++ flag.term ++ "' argument '" ++ value ++
      "' is invalid. Must be a non-negative integer."
  | unknownFlag word => "error: unknown option '" ++ word ++ "'" ++ meant word

def name : CommandExit → String
  | version => "version"
  | help => "helpDisplayed"
  | missingOperand _ => "optionMissingArgument"
  | invalidOperand _ _ => "invalidArgument"
  | unknownFlag _ => "unknownOption"

def status : CommandExit → Nat
  | version | help => 0
  | missingOperand _ | invalidOperand _ _ | unknownFlag _ => 1

def output : CommandExit → String
  | version => Help.version ++ "\n"
  | help => Help.page
  | _ => ""

def errorOutput : CommandExit → String
  | version | help => ""
  | exit => exit.message ++ "\n"

end CommandExit

namespace CommandLine

/-- What a word is. -/
inductive Word where
  /-- All words behind it are no flags. -/
  | stop
  | flag (flag : Flag)
  | flagWith (flag : Flag) (value : String)
  | unknown
  | other

/-- A flag with its operand in the same word: behind a short name, or behind a long name and an
equals sign. Of the short names only the one of the version has no operand, and it ends the
reading. -/
def joined? (cs : List Char) : Option Word :=
  match cs with
  | '-' :: '-' :: _ =>
    match (cs.span (· != '=')) with
    | (name, _ :: value) =>
      (Flag.ofWord? (.ofList name)).bind fun flag =>
        flag.operand?.map fun _ => .flagWith flag (.ofList value)
    | _ => none
  | '-' :: c :: d :: rest =>
    (Flag.ofWord? (.ofList ['-', c])).map fun flag =>
      match flag.operand? with
      | some _ => .flagWith flag (.ofList (d :: rest))
      | none => .flag flag
  | _ => none

def classify (word : String) : Word :=
  if word = "--" then .stop
  else
    match Flag.ofWord? word, joined? word.toList with
    | some flag, _ => .flag flag
    | none, some joined => joined
    | none, none =>
      match word.toList with
      | '-' :: _ :: _ => .unknown
      | _ => .other

/-- What has been read: the options, and the words from the first unknown flag on. -/
structure Reading where
  options : CommandOptions := {}
  unknown : List String := []

/-- Sets a flag. The version is asked for by reading its flag. -/
def Reading.set (r : Reading) (flag : Flag) (value : String) : Except CommandExit Reading :=
  if flag = .version then .error .version
  else
    match flag.set? value r.options with
    | some options => .ok { r with options }
    | none => .error (.invalidOperand flag value)

/-- Keeps words behind an unknown flag. -/
def Reading.keep (r : Reading) (words : List String) : Reading :=
  if r.unknown = [] then r else { r with unknown := r.unknown ++ words }

def readWords (r : Reading) : List String → Except CommandExit Reading
  | [] => .ok r
  | [word] =>
    match classify word with
    | .stop | .other => .ok (r.keep [word])
    | .unknown => .ok { r with unknown := r.unknown ++ [word] }
    | .flagWith flag value => r.set flag value
    | .flag flag =>
      match flag.operand? with
      | some _ => .error (.missingOperand flag)
      | none => r.set flag ""
  | word :: next :: rest =>
    match classify word with
    | .stop => .ok (r.keep (word :: next :: rest))
    | .other => readWords (r.keep [word]) (next :: rest)
    | .unknown => readWords { r with unknown := r.unknown ++ [word] } (next :: rest)
    | .flagWith flag value => do readWords (← r.set flag value) (next :: rest)
    | .flag flag =>
      match flag.operand? with
      | some _ => do readWords (← r.set flag next) rest
      | none => do readWords (← r.set flag "") (next :: rest)

def isHelp (word : String) : Bool := word == "-h" || word == "--help"

def read (words : List String) : Except CommandExit CommandOptions := do
  let r ← readWords {} words
  if r.unknown.any isHelp then throw .help
  match r.unknown with
  | [] => return r.options
  | word :: _ => throw (.unknownFlag word)

end CommandLine

end TelemetryBridge
