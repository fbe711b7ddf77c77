import TelemetryBridge.Config.Basic
import TelemetryBridge.Failure
import TelemetryBridge.FilePath

/-!
# Loggers

Which records a logger lets pass, and where they go. A logger that also writes to a file lets all
records pass and leaves the choice to its two destinations.
-/

namespace TelemetryBridge

/-- A place records are written to, and the least severe of them. -/
structure LogDestination where
  level : LogLevel
  /-- Without a file it is standard output. -/
  file : Option String

structure Logger where
  level : LogLevel
  destinations : List LogDestination

namespace Logger

/-- The severity of fatal records; every logger lets them pass. -/
def fatal : Nat := 60

def enabled (logger : Logger) (severity : Nat) : Bool := logger.level.severity ≤ severity

def bindings : List (String × String) := [("service", "gnmi-dialout")]

def directory? (filePath : Option String) : Option String :=
  (filePath.filter (· ≠ "")).map fun file => .ofList (FilePath.directory file.toList)

/-- A logger for the given settings. Creating the directory of the log file may fail. -/
def create (makeDirectory : String → Except String Unit) (level : LogLevel)
    (filePath : Option String) (fileLevel : Option LogLevel) : Except Failure Logger :=
  match directory? filePath with
  | none => .ok ⟨level, [⟨level, none⟩]⟩
  | some directory =>
    match makeDirectory directory with
    | .error reason =>
      .error (.config ("Cannot create log directory " ++ directory ++ ": " ++ reason) none)
    | .ok () => .ok ⟨.trace, [⟨level, none⟩, ⟨fileLevel.getD level, filePath⟩]⟩

end Logger

end TelemetryBridge
