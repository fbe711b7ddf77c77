import TelemetryBridge.Session.Subscribe

/-!
# Publish sessions

A publish session opens a stream to the collector and sends every update it is handed, one at a
time. The collector's side of the stream is never read. It ends only by a failure of the stream or
by cancellation.
-/

namespace TelemetryBridge.PublishSession

/-- What the session is waiting for, or how it ended. -/
inductive Phase where
  | taking
  | sending (update : Update)
  | ended (failure : Failure)

inductive Reply where
  | taken (result : Except Failure Update)
  | sent (result : Except Failure Unit)

inductive Command where
  | take
  | send (update : Update)
  | forwarded (update : Update)
  | close
  | noteOpened

/-- The start of a session whose scope is cancelled already: no stream is opened. -/
def refused (reason : Failure) : Phase := .ended (.cancelled reason)

/-- The start of a session that tried to open its stream. -/
def opened : Except Failure Unit → Phase × List Command
  | .error e => (.ended (.stream ("error from Publish: " ++ e.message)), [])
  | .ok () => (.taking, [.noteOpened, .take])

def react (aborted : Option Failure) : Phase → Reply → Phase × List Command
  | .taking, .taken (.ok update) => (.sending update, [.send update])
  | .taking, .taken (.error e) => (.ended e, [.close])
  | .sending update, .sent (.ok ()) => (.taking, [.forwarded update, .take])
  | .sending _, .sent (.error e) =>
    (.ended (.ofStream aborted ("error from Publish.Send: " ++ e.message)), [.close])
  | phase, _ => (phase, [])

end TelemetryBridge.PublishSession
