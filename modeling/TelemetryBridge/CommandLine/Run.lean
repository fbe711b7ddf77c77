import TelemetryBridge.CommandLine.Reader
import TelemetryBridge.Config.Load
import TelemetryBridge.Diagnostic

/-!
# Running a command line

The configuration is loaded and the service is started with it. Whatever fails is shown to the
operator.
-/

namespace TelemetryBridge

/-- What a command line comes to: an exit without a start, or the configuration that was started, if
it could be loaded, with what the operator was shown. -/
inductive CommandResult where
  | exit (exit : CommandExit)
  | ran (started : Option Settings) (handled : Handled Unit)

namespace CommandLine

def load (host : Host) (options : CommandOptions) : Except Failure Settings :=
  (Config.load host options.configPath options.overrides).mapError ConfigFault.toFailure

def carryOut (host : Host) (trace : Failure → Option String)
    (start : Settings → Except Failure Unit) (options : CommandOptions) : CommandResult :=
  let handle (result : Except Failure Unit) : Handled Unit :=
    let failure := match result with
      | .ok () => none
      | .error failure => some failure
    handleFailure { verbose := options.verbose } (failure.bind trace) result
  match load host options with
  | .error failure => .ran none (handle (.error failure))
  | .ok cfg => .ran (some cfg) (handle (start cfg))

/-- Carries out a command line. `trace` gives the stack trace of a failure, and `start` runs the
service. -/
def run (host : Host) (trace : Failure → Option String)
    (start : Settings → Except Failure Unit) (words : List String) : CommandResult :=
  match read words with
  | .error exit => .exit exit
  | .ok options => carryOut host trace start options

end CommandLine

end TelemetryBridge
