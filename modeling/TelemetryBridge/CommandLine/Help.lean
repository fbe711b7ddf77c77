import TelemetryBridge.CommandLine.Flag

/-!
# Help

The page that lists the flags, wrapped for a terminal of eighty columns.
-/

namespace TelemetryBridge.Help

def version : String := "0.1.0"

def summary : String :=
  "Subscribe to a gNMI target and publish every update to a collector that cannot dial the target"

def columns : Nat := 80

/-- Words put on lines of at most `width` characters, or of one word. `line` is the line begun. -/
def wrapFrom (width : Nat) (line : String) : List String → List String
  | [] => [line]
  | word :: words =>
    if line.length + 1 + word.length ≤ width then wrapFrom width (line ++ " " ++ word) words
    else line :: wrapFrom width word words

def wrap (width : Nat) (text : String) : List String :=
  match (Text.pieces ' ' text.toList).map String.ofList with
  | [] => []
  | word :: words => wrapFrom width word words

/-- The flags with their descriptions, and behind them the flag for this page. -/
def entries : List (String × String) :=
  Flag.all.map (fun flag => (flag.term, flag.description)) ++
    [("-h, --help", "display help for command")]

/-- A text with blanks behind it up to the given width. -/
def padded (width : Nat) (s : String) : String :=
  s ++ .ofList (List.replicate (width - s.length) ' ')

def termWidth : Nat := (entries.map fun entry => entry.1.length).foldl max 0

def entryLines (entry : String × String) : List String :=
  let indent := termWidth + 2
  match wrap (columns - 2 - indent - 1) entry.2 with
  | [] => ["  " ++ entry.1]
  | first :: rest =>
    ("  " ++ padded indent entry.1 ++ first) ::
      rest.map fun line => "  " ++ padded indent "" ++ line

def page : String :=
  "\n".intercalate <|
    ["Usage: gnmi-dialout [options]", ""] ++ wrap (columns - 1) summary ++ ["", "Options:"] ++
      entries.flatMap entryLines ++ [""]

end TelemetryBridge.Help
