import TelemetryBridge.CommandLine.Run
import TelemetryBridge.Json.Writer
import TelemetryBridge.Log.Logger
import TelemetryBridge.Service

/-!
# The program

Reads the command line, loads the configuration and its TLS files, and reports what the service
starts with. The calls themselves are made by whoever drives the service.
-/

namespace TelemetryBridge

def readFile (file : String) : IO (String × Except String Bytes) := do
  try
    let bytes ← IO.FS.readBinFile file
    return (file, .ok bytes.toList)
  catch e =>
    return (file, .error e.toString)

def lookUp (files : List (String × Except String Bytes)) (file : String) : Except String Bytes :=
  (files.lookup file).getD (.error "not read")

/-- The surroundings of this process, before any file is read. -/
def currentHost : IO Host := do
  return {
    cwd := (← IO.currentDir).toString
    home := (← IO.getEnv "HOME").getD "/"
    configVariable := ← IO.getEnv "GNMI_DIALOUT_CONFIG"
    read := lookUp [] }

def makeDirectory (directory : String) : IO (Except String Unit) := do
  try
    IO.FS.createDirAll directory
    return .ok ()
  catch e =>
    return .error e.toString

def report (cfg : Settings) : IO (Except Failure Unit) := do
  let tls := cfg.config.collector.tls
  let files ← (tls.caFile.toList ++ tls.certFile.toList ++ tls.keyFile.toList).mapM readFile
  let logging := cfg.config.logging
  let made ← match Logger.directory? cfg.resolved.logFilePath with
    | some directory => makeDirectory directory
    | none => pure (.ok ())
  match Logger.create (fun _ => made) logging.level cfg.resolved.logFilePath logging.fileLevel,
      Credentials.build X509.pki (lookUp files) tls with
  | .error failure, _ => return .error failure
  | _, .error fault => return .error fault.toFailure
  | .ok logger, .ok credentials =>
    let bindings := Logger.bindings.map fun (name, value) => (name, Json.text value)
    for event in Service.startEvents cfg credentials do
      if logger.enabled event.severity then IO.println (event.record bindings).write
    return .ok ()

def carryOutHere (options : CommandOptions) : IO UInt32 := do
  let host ← currentHost
  let files ← (host.configPath options.configPath).toList.mapM readFile
  let result ← match CommandLine.load { host with read := lookUp files } options with
    | .error failure => pure (.error failure)
    | .ok cfg => report cfg
  let handled := handleFailure { verbose := options.verbose } none result
  for text in handled.written do
    IO.eprintln text
  return UInt32.ofNat handled.exitCode

end TelemetryBridge

open TelemetryBridge

def main (words : List String) : IO UInt32 := do
  match CommandLine.read words with
  | .error exit =>
    IO.print exit.output
    IO.eprint exit.errorOutput
    return UInt32.ofNat exit.status
  | .ok options => carryOutHere options
