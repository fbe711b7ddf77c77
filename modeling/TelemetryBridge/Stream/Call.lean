import TelemetryBridge.Session.Subscribe

/-!
# Remote calls

One call to the target and one to the collector, as the client sees them. Writes are done one at a
time and block until the peer takes them. Operations on a call are named by numbers; an operation
that is done yields its number with its outcome.
-/

namespace TelemetryBridge

/-- The failure of a call that the client cancels. -/
def cancelledOnClient : Failure := .error "1 CANCELLED: Cancelled on client"

/-- What arrives from the target. A message that is no sequence of bytes cannot be relayed. -/
inductive Arrival where
  | update (update : Update)
  | unreadable

/-- What a read makes of an arrival. -/
def Arrival.result : Arrival → Except Failure (Option Update)
  | update u => .ok (some u)
  | unreadable => .error (.error "Subscribe stream yielded a non-binary message")

inductive TargetOutcome where
  | written (result : Except Failure Unit)
  | read (result : Except Failure (Option Update))

/-- Where the reading of a call stands. Reads that go on may be heading for a failure. -/
inductive Reading where
  | notBegun
  | goingOn (fault : Option Failure)
  | over

/-- A failure reaches the reads. The first one stays. -/
def Reading.raise (failure : Failure) : Reading → Reading
  | goingOn none => goingOn (some failure)
  | reading => reading

/-- A call to the target. It can have ended, and it can be destroyed: the target decides on the
first, a write that fails or the last read on the second. Messages reach a destroyed call no more.
-/
structure TargetCall where
  metadata : List (String × String)
  /-- The request that is being written, or was written last. -/
  request : Option Bytes := none
  /-- Writes that are not done, the one in progress first. -/
  writes : List (Nat × Bytes) := []
  /-- Messages that nobody has read. -/
  inbox : List Arrival := []
  reading : Reading := .notBegun
  /-- Reads that wait for a message. -/
  readers : List Nat := []
  ended : Bool := false
  /-- The first failure of the call. -/
  failure : Option Failure := none
  /-- The failure that destroyed the call. -/
  destroyed : Option Failure := none
  cancelled : Bool := false

namespace TargetCall

def method : String := "/gnmi.gNMI/Subscribe"

/-- The failure of a call whose reading is over. -/
def abandoned : Failure := .foreign "AbortError" "The operation was aborted"

/-- The failure of a write on a destroyed call. -/
def writeRefused : Failure := .error "Cannot call write after a stream was destroyed"

/-- Whether a metadata value can be transmitted: printable ASCII only. -/
def isLegalValue (value : String) : Bool :=
  value.toList.all fun c => 0x20 ≤ c.toNat && c.toNat ≤ 0x7E

/-- Opens a call. The first metadata value that cannot be transmitted is reported. -/
def create (metadata : List (String × String)) : Except Failure TargetCall :=
  match metadata.find? fun entry => !isLegalValue entry.2 with
  | some (_, value) =>
    .error (.error ("Metadata string value \"" ++ value ++ "\" contains illegal characters"))
  | none => .ok { metadata }

/-- The call after an operation, and the operations that are done. -/
abbrev Result := TargetCall × List (Nat × TargetOutcome)

def beginWrite (c : TargetCall) : TargetCall :=
  match c.writes with
  | (_, bytes) :: _ => { c with request := some bytes }
  | [] => c

/-- Writes a request. Also a call that has ended takes it; only a destroyed one does not. -/
def write (c : TargetCall) (number : Nat) (bytes : Bytes) : Result :=
  match c.destroyed with
  | some _ => (c, [(number, .written (.error writeRefused))])
  | none => ({ c with writes := c.writes ++ [(number, bytes)] }.beginWrite, [])

/-- Lets all the writes fail. -/
def failWrites (failure : Failure) (writes : List (Nat × Bytes)) : List (Nat × TargetOutcome) :=
  writes.map fun write => (write.1, .written (.error failure))

/-- Notes a failure. The first one stays. -/
def raise (c : TargetCall) (failure : Failure) : TargetCall :=
  { c with failure := c.failure <|> some failure, reading := c.reading.raise failure }

/-- Destroys the call, unless that has happened before. What nobody has read is lost. -/
def destroy (c : TargetCall) (failure : Failure) : TargetCall :=
  match c.destroyed with
  | some _ => c
  | none => { c.raise failure with destroyed := some failure, inbox := [] }

/-- What a read yields when there is nothing more to come. -/
def ending (c : TargetCall) : Except Failure (Option Update) :=
  match c.failure with
  | some failure => .error failure
  | none => .ok none

/-- What a read yields when no message waits for it; none if it has to wait. -/
def verdict? (c : TargetCall) : Option (Except Failure (Option Update)) :=
  match c.reading with
  | .goingOn (some fault) => some (.error fault)
  | .over => some c.ending
  | _ => if c.ended then some c.ending else none

/-- Serves the reads that wait. The message that arrived first goes to the read that waits longest.
When there is nothing more to come the reading is over, and the call is destroyed with it. -/
def serve (c : TargetCall) : Result :=
  match c.readers, c.inbox with
  | [], _ => (c, [])
  | number :: readers, arrival :: inbox =>
    ({ c with readers, inbox }, [(number, .read arrival.result)])
  | number :: readers, [] =>
    match c.verdict? with
    | none => (c, [])
    | some verdict =>
      ({ c with readers := [], reading := .over }.destroy abandoned,
        (number, .read verdict) :: readers.map fun number => (number, .read c.ending))

/-- The first read begins the reading; on a destroyed call it heads for that failure. -/
def beginReading (c : TargetCall) : TargetCall :=
  match c.reading with
  | .notBegun => { c with reading := .goingOn c.destroyed }
  | _ => c

/-- Reads a message: those that have arrived come first, then the end of the call. -/
def read (c : TargetCall) (number : Nat) : Result :=
  { c.beginReading with readers := c.readers ++ [number] }.serve

/-- The write in progress fails, and with it the call. -/
def failWrite (c : TargetCall) (failure : Failure) : Result :=
  let failed := failWrites failure (c.writes.take 1) ++
    failWrites (c.destroyed.getD failure) (c.writes.drop 1)
  let (c, read) := { c with writes := [] }.destroy failure |>.serve
  (c, failed ++ read)

/-- Cancels the call. On a call that has ended it has no effect. -/
def cancel (c : TargetCall) : Result :=
  let c := { c with cancelled := true }
  if c.ended then (c, [])
  else if c.writes = [] then { c with ended := true }.raise cancelledOnClient |>.serve
  else { c with ended := true }.failWrite cancelledOnClient

inductive Event where
  | requestTaken
  | requestRefused (message : String)
  | arrive (arrival : Arrival)
  | close
  | fail (message : String)

/-- Lets an event happen, if it applies: there must be a write to settle, or else the call must not
have ended. -/
def occur (c : TargetCall) : Event → Option Result
  | .requestTaken =>
    match c.writes, c.destroyed with
    | [], _ => none
    | (number, _) :: writes, none =>
      some ({ c with writes }.beginWrite, [(number, .written (.ok ()))])
    | (number, _) :: writes, some failure =>
      some ({ c with writes := [] }, (number, .written (.ok ())) :: failWrites failure writes)
  | .requestRefused message => if c.writes = [] then none else some (c.failWrite (.error message))
  | .arrive arrival =>
    if c.ended then none
    else if c.destroyed.isSome then some (c, [])
    else some { c with inbox := c.inbox ++ [arrival] }.serve
  | .close => if c.ended then none else some { c with ended := true }.serve
  | .fail message =>
    if c.ended then none else some ({ c with ended := true }.raise (.error message)).serve

end TargetCall

structure CollectorCall where
  writes : List (Nat × Update) := []
  failure : Option Failure := none
  finished : Bool := false
  cancelled : Bool := false

namespace CollectorCall

def method : String := "/gnmireverse.gNMIReverse/Publish"

/-- The call after an operation, and the writes that are done. -/
abbrev Result := CollectorCall × List (Nat × Except Failure Unit)

/-- Writes an update. Nothing is written on a call that has failed or been answered. -/
def write (c : CollectorCall) (number : Nat) (update : Update) : Result :=
  match c.failure with
  | some failure => (c, [(number, .error failure)])
  | none => ({ c with writes := c.writes ++ [(number, update)] }, [])

def note (c : CollectorCall) (failure : Failure) : CollectorCall :=
  { c with failure := c.failure <|> some failure }

/-- Destroys the call: all its writes fail. It is not finished by that alone. -/
def destroy (c : CollectorCall) (failure : Failure) : Result :=
  ({ c.note failure with writes := [] }, c.writes.map fun write => (write.1, .error failure))

/-- Cancels the call. On a call that has finished it has no effect. -/
def cancel (c : CollectorCall) : Result :=
  let c := { c with cancelled := true }
  if c.finished then (c, []) else { c with finished := true }.destroy cancelledOnClient

/-- What the collector can do. An answer ends the call, whatever it says. -/
inductive Event where
  | updateTaken
  | updateRefused (message : String)
  | answer
  | refuse (message : String)
  | fail (message : String)

/-- What the collector has accepted when an event happens: the update in progress. -/
def acceptedBy (c : CollectorCall) : Event → List Update
  | .updateTaken => (c.writes.take 1).map Prod.snd
  | _ => []

def occur (c : CollectorCall) : Event → Option Result
  | .updateTaken =>
    match c.writes with
    | [] => none
    | (number, _) :: writes => some ({ c with writes }, [(number, .ok ())])
  | .updateRefused message => if c.writes = [] then none else some (c.destroy (.error message))
  | .answer =>
    if c.finished then none
    else some ({ c.note (.error "publish stream closed by collector") with finished := true }, [])
  | .refuse message =>
    if c.finished then none else some ({ c.note (.error message) with finished := true }, [])
  | .fail message => some (c.note (.error message), [])

end CollectorCall

end TelemetryBridge
