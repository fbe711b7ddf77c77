import TelemetryBridge.Proofs.Likeness
import TelemetryBridge.Stream.Calls

/-!
# Metadata of calls

A call keeps the metadata that it was opened with and never looks at it: with other metadata every
operation does the same. Calls are therefore alike, whatever the logins they are opened with, if
both logins are accepted (`Calls.relabelling_holds`) or both are refused (`Calls.refusing_holds`).
-/

namespace TelemetryBridge

namespace TargetCall

variable (metadata : List (String × String)) (c : TargetCall)

/-- The call with other metadata. -/
def relabel : TargetCall := { c with metadata }

/-- The result of an operation on the call with other metadata. -/
def relabelled (result : Result) : Result := (result.1.relabel metadata, result.2)

@[simp] lemma relabel_writes : (c.relabel metadata).writes = c.writes := rfl

@[simp] lemma relabel_inbox : (c.relabel metadata).inbox = c.inbox := rfl

@[simp] lemma relabel_reading : (c.relabel metadata).reading = c.reading := rfl

@[simp] lemma relabel_readers : (c.relabel metadata).readers = c.readers := rfl

@[simp] lemma relabel_ended : (c.relabel metadata).ended = c.ended := rfl

@[simp] lemma relabel_destroyed : (c.relabel metadata).destroyed = c.destroyed := rfl

@[simp] lemma relabel_verdict? : (c.relabel metadata).verdict? = c.verdict? := rfl

lemma destroy_relabel (failure : Failure) :
    (c.relabel metadata).destroy failure = (c.destroy failure).relabel metadata := by
  unfold destroy
  rw [relabel_destroyed]
  split <;> rfl

lemma serve_relabel : (c.relabel metadata).serve = relabelled metadata c.serve := by
  unfold serve
  rw [relabel_readers, relabel_inbox, relabel_verdict?]
  cases c.readers with
  | nil => rfl
  | cons number readers =>
    cases c.inbox with
    | cons arrival inbox => rfl
    | nil => cases c.verdict? with
      | none => rfl
      | some verdict =>
        have hdestroyed := destroy_relabel metadata
          { c with readers := [], inbox := [], reading := .over } abandoned
        exact congrArg (·, _) hdestroyed

lemma beginWrite_relabel : (c.relabel metadata).beginWrite = c.beginWrite.relabel metadata := by
  unfold beginWrite
  rw [relabel_writes]
  split <;> rfl

lemma write_relabel (number : Nat) (bytes : Bytes) :
    (c.relabel metadata).write number bytes = relabelled metadata (c.write number bytes) := by
  unfold write
  rw [relabel_destroyed]
  cases c.destroyed with
  | some failure => rfl
  | none =>
    have hbegun := beginWrite_relabel metadata
      { c with writes := c.writes ++ [(number, bytes)], destroyed := none }
    exact congrArg (·, []) hbegun

lemma beginReading_relabel :
    (c.relabel metadata).beginReading = c.beginReading.relabel metadata := by
  unfold beginReading
  rw [relabel_reading]
  split <;> rfl

lemma read_relabel (number : Nat) :
    (c.relabel metadata).read number = relabelled metadata (c.read number) := by
  unfold read
  rw [beginReading_relabel]
  exact serve_relabel metadata { c.beginReading with readers := c.readers ++ [number] }

lemma failWrite_relabel (failure : Failure) :
    (c.relabel metadata).failWrite failure = relabelled metadata (c.failWrite failure) := by
  have hserved : (({ c.relabel metadata with writes := [] } : TargetCall).destroy failure).serve =
      relabelled metadata (({ c with writes := [] } : TargetCall).destroy failure).serve := by
    rw [← serve_relabel, ← destroy_relabel]
    rfl
  unfold failWrite
  dsimp only
  rw [hserved]
  rfl

lemma cancel_relabel : (c.relabel metadata).cancel = relabelled metadata c.cancel := by
  unfold cancel
  dsimp only
  rw [relabel_ended, relabel_writes]
  split_ifs
  · rfl
  · exact serve_relabel metadata
      (({ c with cancelled := true, ended := true } : TargetCall).raise cancelledOnClient)
  · exact failWrite_relabel metadata { c with cancelled := true, ended := true } cancelledOnClient

lemma occur_relabel (event : Event) :
    (c.relabel metadata).occur event = (c.occur event).map (relabelled metadata) := by
  cases event with
  | requestTaken =>
    dsimp only [occur]
    rw [relabel_writes, relabel_destroyed]
    cases c.writes with
    | nil => rfl
    | cons write writes => cases c.destroyed with
      | some failure => rfl
      | none =>
        have hbegun := beginWrite_relabel metadata { c with writes, destroyed := none }
        exact congrArg (fun call => some (call, [(write.1, TargetOutcome.written (.ok ()))])) hbegun
  | requestRefused message =>
    dsimp only [occur]
    rw [relabel_writes, failWrite_relabel]
    split_ifs <;> rfl
  | arrive arrival =>
    have hserved := serve_relabel metadata { c with inbox := c.inbox ++ [arrival] }
    dsimp only [occur]
    rw [relabel_ended, relabel_destroyed]
    split_ifs
    · rfl
    · rfl
    · exact congrArg some hserved
  | close =>
    have hserved := serve_relabel metadata { c with ended := true }
    dsimp only [occur]
    rw [relabel_ended]
    split_ifs
    · rfl
    · exact congrArg some hserved
  | fail message =>
    have hserved := serve_relabel metadata
      (({ c with ended := true } : TargetCall).raise (.error message))
    dsimp only [occur]
    rw [relabel_ended]
    split_ifs
    · rfl
    · exact congrArg some hserved

end TargetCall

/-- The metadata that a login is sent as. -/
def Login.metadata (login : Option Login) : List (String × String) := (login.map entries).getD []

/-- The failure of opening a call with a login, if it is refused. -/
def Login.refusal? (login : Option Login) : Option Failure :=
  match TargetCall.create (metadata login) with
  | .ok _ => none
  | .error failure => some failure

/-- How a value is reported that cannot be transmitted. -/
def TargetCall.illegalValue (value : String) : Failure :=
  .error ("Metadata string value \"" ++ value ++ "\" contains illegal characters")

section

variable {login : Option Login} {cause : Failure}

lemma TargetCall.create_of_accepted (h : Login.refusal? login = none) :
    create (Login.metadata login) = .ok { metadata := Login.metadata login } := by
  unfold Login.refusal? at h
  split at h
  · next call hcall =>
    unfold create at hcall ⊢
    split at hcall
    · cases hcall
    · rfl
  · cases h

lemma TargetCall.create_of_refused (h : Login.refusal? login = some cause) :
    create (Login.metadata login) = .error cause := by
  unfold Login.refusal? at h
  split at h
  · cases h
  · next failure hfailure => rw [hfailure, Option.some.inj h]

/-- A login is refused for one of its values. -/
lemma Login.exists_of_refusal (h : refusal? login = some cause) :
    ∃ value, cause = TargetCall.illegalValue value := by
  have hcreate := TargetCall.create_of_refused h
  unfold TargetCall.create at hcreate
  split at hcreate
  · next value _ => exact ⟨value, (Except.error.inj hcreate).symm⟩
  · cases hcreate

/-- Values are told apart by how they are reported. -/
lemma TargetCall.illegalValue_inj {value value' : String} :
    illegalValue value = illegalValue value' ↔ value = value' := by
  simp [illegalValue, Failure.error]

/-- The user name is looked at first. -/
lemma Login.refusal?_some (login : Login) : refusal? (some login) =
    if TargetCall.isLegalValue login.username then
      if TargetCall.isLegalValue login.password then none
      else some (TargetCall.illegalValue login.password)
    else some (TargetCall.illegalValue login.username) := by
  cases hu : TargetCall.isLegalValue login.username <;>
    cases hp : TargetCall.isLegalValue login.password <;>
      simp [refusal?, TargetCall.create, metadata, entries, hu, hp, TargetCall.illegalValue]

end

namespace Calls

/-- The calls with other metadata of the call to the target. -/
def relabel (metadata : List (String × String)) (w : Calls) : Calls :=
  { w with target := w.target.map (TargetCall.relabel metadata) }

section

variable (metadata : List (String × String)) (w : Calls)

/-- The result of an operation on the calls with other metadata. -/
def relabelled (result : List Answer × Calls) : List Answer × Calls :=
  (result.1, result.2.relabel metadata)

lemma relabel_relabel (other : List (String × String)) :
    (w.relabel other).relabel metadata = w.relabel metadata := by
  unfold relabel
  rw [Option.map_map]
  rfl

lemma sendRequest_relabel (request : SubscribeRequest) :
    (w.relabel metadata).sendRequest request = relabelled metadata (w.sendRequest request) := by
  obtain ⟨targetCalls, collectorCalls, target, collector, accepted⟩ := w
  cases target with
  | none => rfl
  | some call =>
    exact congrArg (withTarget _) (call.write_relabel metadata 0 (Wire.request request))

lemma receive_relabel : (w.relabel metadata).receive = relabelled metadata w.receive := by
  obtain ⟨targetCalls, collectorCalls, target, collector, accepted⟩ := w
  cases target with
  | none => rfl
  | some call =>
    have hread := call.read_relabel metadata 0
    unfold receive relabel
    dsimp only [Option.map_some]
    rw [hread]
    rfl

lemma cancelTarget_relabel :
    (w.relabel metadata).cancelTarget = relabelled metadata w.cancelTarget := by
  obtain ⟨targetCalls, collectorCalls, target, collector, accepted⟩ := w
  cases target with
  | none => rfl
  | some call => exact congrArg (withTarget _) (call.cancel_relabel metadata)

lemma sendUpdate_relabel (update : Update) :
    (w.relabel metadata).sendUpdate update = relabelled metadata (w.sendUpdate update) := by
  obtain ⟨targetCalls, collectorCalls, target, collector, accepted⟩ := w
  cases collector <;> rfl

lemma cancelCollector_relabel :
    (w.relabel metadata).cancelCollector = relabelled metadata w.cancelCollector := by
  obtain ⟨targetCalls, collectorCalls, target, collector, accepted⟩ := w
  cases collector <;> rfl

lemma cancel_relabel : (w.relabel metadata).cancel = relabelled metadata w.cancel := by
  unfold cancel
  rw [cancelTarget_relabel]
  dsimp only [relabelled]
  rw [cancelCollector_relabel]
  rfl

lemma occur_relabel (event : Event) :
    occur event (w.relabel metadata) = (occur event w).map (relabelled metadata) := by
  obtain ⟨targetCalls, collectorCalls, target, collector, accepted⟩ := w
  cases event with
  | target event => cases target with
    | none => rfl
    | some call =>
      have hcall := call.occur_relabel metadata event
      unfold occur relabel
      dsimp only [Option.map_some, Option.bind_eq_bind, Option.bind_some]
      rw [hcall]
      cases call.occur event <;> rfl
  | collector event => cases collector with
    | none => rfl
    | some call =>
      unfold occur relabel
      dsimp only [Option.bind_eq_bind, Option.bind_some]
      cases call.occur event <;> rfl

end

/-! ## Logins that are accepted -/

/-- Calls that differ by the metadata of two logins. -/
def relabelling (login login' : Option Login) : Likeness Calls where
  failure := Eq
  world w w' := w' = w.relabel (Login.metadata login')
  logins := (login, login')

variable {login login' : Option Login} {cause cause' : Failure}

lemma openSubscribe_of_accepted (h : Login.refusal? login = none) (w : Calls) :
    w.openSubscribe login = (.ok (), { w with
      targetCalls := w.targetCalls + 1
      target := some { metadata := Login.metadata login } }) := by
  unfold openSubscribe
  rw [← Login.metadata, TargetCall.create_of_accepted h]

lemma openSubscribe_of_refused (h : Login.refusal? login = some cause) (w : Calls) :
    w.openSubscribe login = (.error cause, w) := by
  unfold openSubscribe
  rw [← Login.metadata, TargetCall.create_of_refused h]

lemma yields_of_relabelled {x x' : List Answer × Calls}
    (h : x' = relabelled (Login.metadata login') x) : (relabelling login login').Yields x x' := by
  subst h
  exact ⟨rfl, rfl⟩

/-- With two logins that are accepted, calls differ in nothing but their metadata. -/
lemma relabelling_holds (h : Login.refusal? login = none) (h' : Login.refusal? login' = none) :
    (relabelling login login').Holds occur where
  failures := Failure.isLikeness_eq
  openSubscribe := by
    rintro w _ rfl
    have hopened := w.openSubscribe_of_accepted h
    have hopened' := (w.relabel (Login.metadata login')).openSubscribe_of_accepted h'
    change ResultAlike Eq (w.openSubscribe login).1 ((w.relabel _).openSubscribe login').1 ∧
      ((w.relabel _).openSubscribe login').2 = (w.openSubscribe login).2.relabel _
    rw [hopened, hopened']
    exact ⟨.ok (), rfl⟩
  openPublish := by
    rintro w _ rfl
    exact ⟨.ok (), rfl⟩
  sendRequest := by
    rintro request w _ rfl
    exact yields_of_relabelled (w.sendRequest_relabel _ request)
  receive := by
    rintro w _ rfl
    exact yields_of_relabelled (w.receive_relabel _)
  closeSubscribe := by
    rintro w _ rfl
    exact yields_of_relabelled (w.cancelTarget_relabel _)
  sendUpdate := by
    rintro update w _ rfl
    exact yields_of_relabelled (w.sendUpdate_relabel _ update)
  closePublish := by
    rintro w _ rfl
    exact yields_of_relabelled (w.cancelCollector_relabel _)
  cancel := by
    rintro w _ rfl
    exact yields_of_relabelled (w.cancel_relabel _)
  occur := by
    rintro event w _ rfl
    rw [occur_relabel]
    cases occur event w with
    | none => exact .none
    | some result => exact .some ⟨rfl, rfl⟩

/-! ## Logins that are refused -/

/-- No call to the target has been opened. -/
structure Unopened (w : Calls) : Prop where
  targetCalls : w.targetCalls = 0
  target : w.target = none

section

variable {w : Calls}

lemma Unopened.sendRequest (h : w.Unopened) (request : SubscribeRequest) :
    (w.sendRequest request).2.Unopened := by
  rw [Calls.sendRequest, h.target]
  exact h

lemma Unopened.receive (h : w.Unopened) : w.receive.2.Unopened := by
  rw [Calls.receive, h.target]
  exact h

lemma Unopened.cancelTarget (h : w.Unopened) : w.cancelTarget.2.Unopened := by
  rw [Calls.cancelTarget, h.target]
  exact h

lemma Unopened.openPublish (h : w.Unopened) : w.openPublish.2.Unopened := ⟨h.targetCalls, h.target⟩

lemma Unopened.sendUpdate (h : w.Unopened) (update : Update) :
    (w.sendUpdate update).2.Unopened := by
  unfold Calls.sendUpdate
  split <;> exact ⟨h.targetCalls, h.target⟩

lemma Unopened.cancelCollector (h : w.Unopened) : w.cancelCollector.2.Unopened := by
  unfold Calls.cancelCollector
  split <;> exact ⟨h.targetCalls, h.target⟩

lemma Unopened.cancel (h : w.Unopened) : w.cancel.2.Unopened :=
  h.cancelTarget.cancelCollector

lemma Unopened.occur (h : w.Unopened) {event : Event} {result : List Answer × Calls}
    (happened : occur event w = some result) : result.2.Unopened := by
  unfold Calls.occur at happened
  cases event with
  | target event => simp [h.target] at happened
  | collector event =>
    obtain ⟨call, -, happened⟩ := Option.bind_eq_some_iff.mp happened
    obtain ⟨called, -, happened⟩ := Option.bind_eq_some_iff.mp happened
    obtain rfl := Option.some.inj happened
    exact ⟨h.targetCalls, h.target⟩

end

/-- Calls to the collector only, with two logins that the target refuses. -/
def refusing (login login' : Option Login) : Likeness Calls where
  failure _ _ := True
  world w w' := w = w' ∧ w.Unopened
  logins := (login, login')

lemma refusing_holds (h : Login.refusal? login = some cause)
    (h' : Login.refusal? login' = some cause') : (refusing login login').Holds occur where
  failures := ⟨fun _ => trivial, fun _ => trivial, fun _ _ _ _ => trivial⟩
  openSubscribe := by
    rintro w _ ⟨rfl, hw⟩
    change ResultAlike _ (w.openSubscribe login).1 (w.openSubscribe login').1 ∧
      (w.openSubscribe login).2 = (w.openSubscribe login').2 ∧ (w.openSubscribe login).2.Unopened
    rw [w.openSubscribe_of_refused h, w.openSubscribe_of_refused h']
    exact ⟨.error trivial, rfl, hw⟩
  openPublish := by
    rintro w _ ⟨rfl, hw⟩
    exact ⟨.ok (), rfl, hw.openPublish⟩
  sendRequest := by
    rintro request w _ ⟨rfl, hw⟩
    exact ⟨rfl, rfl, hw.sendRequest request⟩
  receive := by
    rintro w _ ⟨rfl, hw⟩
    exact ⟨rfl, rfl, hw.receive⟩
  closeSubscribe := by
    rintro w _ ⟨rfl, hw⟩
    exact ⟨rfl, rfl, hw.cancelTarget⟩
  sendUpdate := by
    rintro update w _ ⟨rfl, hw⟩
    exact ⟨rfl, rfl, hw.sendUpdate update⟩
  closePublish := by
    rintro w _ ⟨rfl, hw⟩
    exact ⟨rfl, rfl, hw.cancelCollector⟩
  cancel := by
    rintro w _ ⟨rfl, hw⟩
    exact ⟨rfl, rfl, hw.cancel⟩
  occur := by
    rintro event w _ ⟨rfl, hw⟩
    rcases happened : occur event w with _ | result
    · exact .none
    · exact .some ⟨rfl, rfl, hw.occur happened⟩

end Calls

end TelemetryBridge
