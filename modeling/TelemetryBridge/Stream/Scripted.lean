import TelemetryBridge.Session.Endpoints

/-!
# Scripted streams

Endpoints whose behaviour is told from outside, event by event: when a send succeeds or fails, which
updates arrive, when the target closes or breaks the stream. A stream may honour the cancellation of
its scope, so that a blocked call fails, or ignore it.
-/

namespace TelemetryBridge

/-- What does not change while the streams are used. -/
structure Script where
  /-- The k-th entry is the failure of the k-th attempt to open a stream. -/
  subscribeErrors : List (Option String) := []
  publishErrors : List (Option String) := []
  /-- Sending the request succeeds at once. -/
  autoRequest : Bool := false
  /-- Sending an update succeeds at once. -/
  autoSend : Bool := false
  /-- The streams go on after their scope is cancelled. -/
  ignoreSubscribe : Bool := false
  ignorePublish : Bool := false

/-- What the target puts on a stream. -/
inductive StreamItem where
  | update (update : Update)
  | close
  | failure (message : String)

/-- The answer that an item gives to a call for an update. -/
def StreamItem.result : StreamItem → Except Failure (Option Update)
  | update u => .ok (some u)
  | close => .ok none
  | failure message => .error (.error message)

/-- A call that is blocked on the stream to the target. -/
inductive BlockedCall where
  | send
  | receive
deriving DecidableEq

/-- The stream to the target. -/
structure ScriptedSubscribe where
  requests : Nat := 0
  blocked : Option BlockedCall := none
  queue : List StreamItem := []
  closed : Bool := false
  cancelled : Bool := false

/-- The stream to the collector. -/
structure ScriptedPublish where
  sending : Option Update := none
  closed : Bool := false
  cancelled : Bool := false

/-- The streams opened last on each side, and what they have done. -/
structure Scripted where
  script : Script
  subscribeCalls : Nat := 0
  publishCalls : Nat := 0
  metadata : Option Login := none
  subscribe : Option ScriptedSubscribe := none
  publish : Option ScriptedPublish := none
  accepted : List Update := []

namespace Scripted

/-- The failure of a call that is blocked when its scope is cancelled. -/
def cancelledCall : Failure := .error "stream cancelled"

def received (result : Except Failure (Option Update)) : Answer := .subscriber (.received result)

def requestSent (result : Except Failure Unit) : Answer := .subscriber (.requestSent result)

def sent (result : Except Failure Unit) : Answer := .publisher (.sent result)

/-- The outcome of the attempt to open a stream that follows `calls` others. -/
def openResult (errors : List (Option String)) (calls : Nat) : Except Failure Unit :=
  match errors[calls]?.join with
  | some message => .error (.error message)
  | none => .ok ()

def openSubscribe (metadata : Option Login) (w : Scripted) : Except Failure Unit × Scripted :=
  let result := openResult w.script.subscribeErrors w.subscribeCalls
  let w := { w with subscribeCalls := w.subscribeCalls + 1, metadata }
  match result with
  | .ok () => (.ok (), { w with subscribe := some {} })
  | .error e => (.error e, w)

def openPublish (w : Scripted) : Except Failure Unit × Scripted :=
  let result := openResult w.script.publishErrors w.publishCalls
  let w := { w with publishCalls := w.publishCalls + 1 }
  match result with
  | .ok () => (.ok (), { w with publish := some {} })
  | .error e => (.error e, w)

def sendRequest (w : Scripted) : List Answer × Scripted :=
  match w.subscribe with
  | none => ([], w)
  | some s =>
    let s := { s with requests := s.requests + 1 }
    if w.script.autoRequest then ([requestSent (.ok ())], { w with subscribe := some s })
    else if s.cancelled && !w.script.ignoreSubscribe then
      ([requestSent (.error cancelledCall)], { w with subscribe := some s })
    else ([], { w with subscribe := some { s with blocked := some .send } })

/-- Asks for an update: the queue is served first, also after cancellation. -/
def receive (w : Scripted) : List Answer × Scripted :=
  match w.subscribe with
  | none => ([], w)
  | some s =>
    match s.queue with
    | item :: queue => ([received item.result], { w with subscribe := some { s with queue } })
    | [] =>
      if s.cancelled && !w.script.ignoreSubscribe then ([received (.error cancelledCall)], w)
      else ([], { w with subscribe := some { s with blocked := some .receive } })

def sendUpdate (update : Update) (w : Scripted) : List Answer × Scripted :=
  match w.publish with
  | none => ([], w)
  | some s =>
    if w.script.autoSend then ([sent (.ok ())], { w with accepted := w.accepted ++ [update] })
    else if s.cancelled && !w.script.ignorePublish then ([sent (.error cancelledCall)], w)
    else ([], { w with publish := some { s with sending := some update } })

def closeSubscribe (w : Scripted) : List Answer × Scripted :=
  ([], { w with subscribe := w.subscribe.map fun s => { s with closed := true } })

def closePublish (w : Scripted) : List Answer × Scripted :=
  ([], { w with publish := w.publish.map fun s => { s with closed := true } })

def cancelSubscribe (w : Scripted) : List Answer × Scripted :=
  match w.subscribe with
  | none => ([], w)
  | some s =>
    let s := { s with cancelled := true }
    if w.script.ignoreSubscribe then ([], { w with subscribe := some s })
    else
      let answers := match s.blocked with
        | some .send => [requestSent (.error cancelledCall)]
        | some .receive => [received (.error cancelledCall)]
        | none => []
      (answers, { w with subscribe := some { s with blocked := none } })

def cancelPublish (w : Scripted) : List Answer × Scripted :=
  match w.publish with
  | none => ([], w)
  | some s =>
    let s := { s with cancelled := true }
    if w.script.ignorePublish then ([], { w with publish := some s })
    else
      let answers := match s.sending with
        | some _ => [sent (.error cancelledCall)]
        | none => []
      (answers, { w with publish := some { s with sending := none } })

def cancel (w : Scripted) : List Answer × Scripted :=
  let (subscribe, w) := w.cancelSubscribe
  let (publish, w) := w.cancelPublish
  (subscribe ++ publish, w)

instance : Endpoints Scripted where
  openSubscribe := openSubscribe
  sendRequest _ := sendRequest
  receive := receive
  closeSubscribe := closeSubscribe
  openPublish := openPublish
  sendUpdate := sendUpdate
  closePublish := closePublish
  cancel := cancel
  backlog w := w.subscribe.elim 0 fun s => s.queue.length

/-! ## Several worlds -/

/-- A further world with the same script, in which no stream has been opened yet. The attempts to
open one are counted on. -/
def next (w : Scripted) : Scripted := { w with subscribe := none, publish := none, accepted := [] }

def hasStream (w : Scripted) : Bool := w.subscribe.isSome || w.publish.isSome

/-- What is seen of the streams of two worlds: the attempts counted by the later one, and the
streams opened last. -/
def seenWith (earlier later : Scripted) : Scripted :=
  { later with
    subscribe := later.subscribe <|> earlier.subscribe
    publish := later.publish <|> earlier.publish }

/-! ## Events -/

inductive Event where
  | requestOk
  | requestError (message : String)
  | sendOk
  | sendError (message : String)
  | arrive (items : List StreamItem)

def settleRequest (result : Except Failure Unit) (w : Scripted) : Option (List Answer × Scripted) :=
  match w.subscribe with
  | some s =>
    if s.blocked = some .send then
      some ([requestSent result], { w with subscribe := some { s with blocked := none } })
    else none
  | none => none

/-- Settles the blocked update; if it succeeds the collector has accepted it. -/
def settleUpdate (result : Except Failure Unit) (w : Scripted) : Option (List Answer × Scripted) :=
  match w.publish with
  | some s =>
    match s.sending with
    | some update =>
      let w := { w with publish := some { s with sending := none } }
      match result with
      | .ok () => some ([sent result], { w with accepted := w.accepted ++ [update] })
      | .error _ => some ([sent result], w)
    | none => none
  | none => none

/-- Items arrive at a stream that is not closed: the first goes to a blocked call for an update, the
others are queued. -/
def arrive (items : List StreamItem) (w : Scripted) : Option (List Answer × Scripted) :=
  match w.subscribe with
  | some s =>
    if s.closed then none
    else
      match items, s.blocked with
      | item :: rest, some .receive =>
        some ([received item.result],
          { w with subscribe := some { s with blocked := none, queue := s.queue ++ rest } })
      | _, _ => some ([], { w with subscribe := some { s with queue := s.queue ++ items } })
  | none => none

def occur : Event → Scripted → Option (List Answer × Scripted)
  | .requestOk => settleRequest (.ok ())
  | .requestError message => settleRequest (.error (.error message))
  | .sendOk => settleUpdate (.ok ())
  | .sendError message => settleUpdate (.error (.error message))
  | .arrive items => arrive items

end Scripted

end TelemetryBridge
