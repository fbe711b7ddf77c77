import TelemetryBridge.Request.Wire
import TelemetryBridge.Session.Endpoints
import TelemetryBridge.Stream.Call

/-!
# Endpoints of remote calls

A pair of endpoints that opens a fresh call for each stream. The sessions use the call that was
opened last on their side, one operation at a time.
-/

namespace TelemetryBridge

/-- Name and password as metadata of a call. -/
def Login.entries (m : Login) : List (String × String) :=
  [("username", m.username), ("password", m.password)]

/-- The calls opened last on each side, and how many there were. -/
structure Calls where
  targetCalls : Nat := 0
  collectorCalls : Nat := 0
  target : Option TargetCall := none
  collector : Option CollectorCall := none
  accepted : List Update := []

namespace Calls

/-- The answer that the outcome of an operation is to the subscribe session. Reads pass through the
buffer of the call. What can be read at once takes one turn more than a write, and what had to be
waited for takes two. -/
def targetAnswer : Nat × TargetOutcome → Answer
  | (_, .written result) => .subscriber (.requestSent result)
  | (_, .read result) => .later (.later (.subscriber (.received result)))

/-- The answer that the outcome of a write is to the publish session. What had to be waited for
takes one turn more than what fails at once. -/
def collectorAnswer : Nat × Except Failure Unit → Answer
  | (_, result) => .later (.publisher (.sent result))

/-- An answer that has not been waited for. -/
def atOnce : Answer → Answer
  | .later answer => answer
  | answer => answer

def withTarget (w : Calls) (result : TargetCall.Result) : List Answer × Calls :=
  (result.2.map targetAnswer, { w with target := some result.1 })

def withCollector (w : Calls) (result : CollectorCall.Result) : List Answer × Calls :=
  (result.2.map collectorAnswer, { w with collector := some result.1 })

def openSubscribe (metadata : Option Login) (w : Calls) : Except Failure Unit × Calls :=
  match TargetCall.create ((metadata.map Login.entries).getD []) with
  | .ok call => (.ok (), { w with targetCalls := w.targetCalls + 1, target := some call })
  | .error e => (.error e, w)

def openPublish (w : Calls) : Except Failure Unit × Calls :=
  (.ok (), { w with collectorCalls := w.collectorCalls + 1, collector := some {} })

def sendRequest (request : SubscribeRequest) (w : Calls) : List Answer × Calls :=
  match w.target with
  | some call => w.withTarget (call.write 0 (Wire.request request))
  | none => ([], w)

def receive (w : Calls) : List Answer × Calls :=
  match w.target with
  | some call =>
    let (answers, w) := w.withTarget (call.read 0)
    (answers.map atOnce, w)
  | none => ([], w)

def sendUpdate (update : Update) (w : Calls) : List Answer × Calls :=
  match w.collector with
  | some call =>
    let (answers, w) := w.withCollector (call.write 0 update)
    (answers.map atOnce, w)
  | none => ([], w)

def cancelTarget (w : Calls) : List Answer × Calls :=
  match w.target with
  | some call => w.withTarget call.cancel
  | none => ([], w)

def cancelCollector (w : Calls) : List Answer × Calls :=
  match w.collector with
  | some call => w.withCollector call.cancel
  | none => ([], w)

def cancel (w : Calls) : List Answer × Calls :=
  let (subscribe, w) := w.cancelTarget
  let (publish, w) := w.cancelCollector
  (subscribe ++ publish, w)

/-- To close a stream is to cancel its call. -/
instance : Endpoints Calls where
  openSubscribe := openSubscribe
  sendRequest := sendRequest
  receive := receive
  closeSubscribe := cancelTarget
  openPublish := openPublish
  sendUpdate := sendUpdate
  closePublish := cancelCollector
  cancel := cancel
  backlog w := w.target.elim 0 fun call => call.inbox.length

inductive Event where
  | target (event : TargetCall.Event)
  | collector (event : CollectorCall.Event)

def occur : Event → Calls → Option (List Answer × Calls)
  | .target event, w => do
    let call ← w.target
    return w.withTarget (← call.occur event)
  | .collector event, w => do
    let call ← w.collector
    let result ← call.occur event
    return { w with accepted := w.accepted ++ call.acceptedBy event }.withCollector result

end Calls

end TelemetryBridge
