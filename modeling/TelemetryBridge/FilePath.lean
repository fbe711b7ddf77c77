import TelemetryBridge.Text.Blank

/-!
# File paths

Paths are segments between slashes. A segment `.` means nothing and a segment `..` takes back the
one before it; above the root there is nothing to take back.
-/

namespace TelemetryBridge.FilePath

/-- What stands between two slashes. -/
abbrev Segment := List Char

/-- Follows the segments. The list of those passed is kept in reverse; outside an absolute path a
`..` that takes nothing back is kept. -/
def walk (absolute : Bool) (passed : List Segment) : List Segment → List Segment
  | [] => passed.reverse
  | segment :: rest =>
    if segment = [] ∨ segment = ['.'] then walk absolute passed rest
    else if segment = ['.', '.'] then
      match passed with
      | last :: before =>
        if last = ['.', '.'] then walk absolute (segment :: passed) rest
        else walk absolute before rest
      | [] => walk absolute (if absolute then [] else [segment]) rest
    else walk absolute (segment :: passed) rest

def joinSegments (segments : List Segment) : List Char :=
  ['/'].intercalate segments

def isAbsolute (path : List Char) : Bool := path.head? == some '/'

/-- The segments of a path without `.` and, as far as possible, without `..`. -/
def plainSegments (path : List Char) : List Char :=
  joinSegments (walk (isAbsolute path) [] (Text.pieces '/' path))

/-- The shortest spelling of a path. A slash at its end is kept. -/
def normalize (path : List Char) : List Char :=
  let body := plainSegments path
  let trailing := path.getLast? == some '/'
  if path = [] then ['.']
  else if isAbsolute path then
    if body = [] then ['/'] else '/' :: body ++ (if trailing then ['/'] else [])
  else if body = [] then (if trailing then ['.', '/'] else ['.'])
  else body ++ (if trailing then ['/'] else [])

/-- A path below a directory, in its shortest spelling. -/
def join (directory path : List Char) : List Char :=
  if directory = [] then normalize path
  else if path = [] then normalize directory
  else normalize (directory ++ '/' :: path)

/-- A path behind a directory, unless it is absolute. -/
def below (directory path : List Char) : List Char :=
  if isAbsolute path ∨ directory = [] then path
  else if path = [] then directory
  else directory ++ '/' :: path

/-- A path seen from a base directory, which is itself seen from the working directory. Without a
slash at its end, except for the root. -/
def resolve (cwd base path : List Char) : List Char :=
  let whole := below cwd (below base path)
  let body := plainSegments whole
  if isAbsolute whole then '/' :: body else if body = [] then ['.'] else body

/-- The directory in which a path lies: all before the last slash that has a name behind it. A slash
that opens the path stays. -/
def directory (path : List Char) : List Char :=
  match (path.reverse.dropWhile (· == '/')).dropWhile (· != '/') with
  | [] => if isAbsolute path then ['/'] else ['.']
  | [_] => ['/']
  | [_, '/'] => ['/', '/']
  | _ :: rest => rest.reverse

end TelemetryBridge.FilePath
