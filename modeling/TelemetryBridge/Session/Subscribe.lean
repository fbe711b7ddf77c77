import TelemetryBridge.Failure
import TelemetryBridge.Request.Basic
import TelemetryBridge.Text.Utf8

/-!
# Subscribe sessions

A subscribe session opens a stream to the target, sends the request, and hands every update it
receives to the publishing side before it asks for the next one. It ends only by a failure: of the
stream, by the target closing the stream, or by cancellation.
-/

namespace TelemetryBridge

/-- One encoded update. The bridge never looks into it. -/
abbrev Update := Bytes

namespace SubscribeSession

/-- What the session is waiting for, or how it ended. -/
inductive Phase where
  | requesting
  | receiving
  | offering (update : Update)
  | ended (failure : Failure)

/-- The answers a session waits for. A stream that the target closed yields no update. -/
inductive Reply where
  | requestSent (result : Except Failure Unit)
  | received (result : Except Failure (Option Update))
  | offered (result : Except Failure Unit)

inductive Command where
  | sendRequest
  | receive
  | offer (update : Update)
  | close
  | noteRequestSent

/-- The start of a session whose scope is cancelled already: no stream is opened. -/
def refused (reason : Failure) : Phase := .ended (.cancelled reason)

/-- The start of a session that tried to open its stream. -/
def opened : Except Failure Unit → Phase × List Command
  | .error e => (.ended (.stream ("error from Subscribe: " ++ e.message)), [])
  | .ok () => (.requesting, [.sendRequest])

/-- The session's reaction to an answer. A failing call is a cancellation if the scope was
cancelled. Whoever ends closes the stream. -/
def react (aborted : Option Failure) : Phase → Reply → Phase × List Command
  | .requesting, .requestSent (.ok ()) => (.receiving, [.noteRequestSent, .receive])
  | .requesting, .requestSent (.error e) =>
    (.ended (.ofStream aborted ("error sending SubscribeRequest: " ++ e.message)), [.close])
  | .receiving, .received (.ok (some update)) => (.offering update, [.offer update])
  | .receiving, .received (.ok none) =>
    (.ended (.stream "subscription stream closed by target"), [.close])
  | .receiving, .received (.error e) =>
    (.ended (.ofStream aborted ("error from Subscribe.Recv: " ++ e.message)), [.close])
  | .offering _, .offered (.ok ()) => (.receiving, [.receive])
  | .offering _, .offered (.error e) => (.ended e, [.close])
  | phase, _ => (phase, [])

end SubscribeSession

end TelemetryBridge
