import TelemetryBridge.Proofs.ScriptedSteps
import TelemetryBridge.Stream.Calls

/-!
# Answers of streams

An answer is to a call on a stream or to a call at the hand-off. `StreamsAnswer` is all that is asked
of streams elsewhere: they answer for themselves, at any time and in any way. Scripted streams and
remote calls do.
-/

namespace TelemetryBridge

namespace Answer

/-- Whether an answer ends the offer of an update. -/
def isOffered : Answer → Bool
  | subscriber (.offered _) => true
  | later answer => answer.isOffered
  | _ => false

/-- Whether an answer ends the wait for an update. -/
def isTaken : Answer → Bool
  | publisher (.taken _) => true
  | later answer => answer.isTaken
  | _ => false

/-- Whether the hand-off refuses a call. -/
def isRefusal : Answer → Bool
  | subscriber (.offered (.error _)) | publisher (.taken (.error _)) => true
  | later answer => answer.isRefusal
  | _ => false

/-- Whether an answer is to a call on a stream, and not at the hand-off. -/
def isOfStream (a : Answer) : Bool := !a.isOffered && !a.isTaken

@[simp] lemma isOfStream_requestSent (result : Except Failure Unit) :
    (subscriber (.requestSent result)).isOfStream = true := rfl

@[simp] lemma isOfStream_received (result : Except Failure (Option Update)) :
    (subscriber (.received result)).isOfStream = true := rfl

@[simp] lemma isOfStream_sent (result : Except Failure Unit) :
    (publisher (.sent result)).isOfStream = true := rfl

@[simp] lemma isOfStream_later (answer : Answer) :
    (later answer).isOfStream = answer.isOfStream := rfl

lemma isOfStream_iff {a : Answer} :
    a.isOfStream = true ↔ a.isOffered = false ∧ a.isTaken = false := by
  simp [isOfStream]

lemma isRefusal_of_isOfStream {a : Answer} (h : a.isOfStream = true) :
    a.isRefusal = false := by
  obtain ⟨ho, ht⟩ := isOfStream_iff.mp h
  induction a with
  | subscriber reply => cases reply with
    | offered result => cases ho
    | requestSent result | received result => rfl
  | publisher reply => cases reply with
    | taken result => cases ht
    | sent result => rfl
  | later answer ih => exact ih h ho ht

end Answer

/-- Streams answer the calls that are made on them. They never answer for the hand-off. -/
structure StreamsAnswer {ω ε : Type} [Endpoints ω] (occur : ε → ω → Option (List Answer × ω)) :
    Prop where
  sendRequest : ∀ request (w : ω), ∀ a ∈ (Endpoints.sendRequest request w).1, a.isOfStream = true
  receive : ∀ w : ω, ∀ a ∈ (Endpoints.receive w).1, a.isOfStream = true
  closeSubscribe : ∀ w : ω, ∀ a ∈ (Endpoints.closeSubscribe w).1, a.isOfStream = true
  sendUpdate : ∀ update (w : ω), ∀ a ∈ (Endpoints.sendUpdate update w).1, a.isOfStream = true
  closePublish : ∀ w : ω, ∀ a ∈ (Endpoints.closePublish w).1, a.isOfStream = true
  cancel : ∀ w : ω, ∀ a ∈ (Endpoints.cancel w).1, a.isOfStream = true
  occur : ∀ event (w : ω) result, occur event w = some result → ∀ a ∈ result.1, a.isOfStream = true

namespace Scripted

lemma streamsAnswer : StreamsAnswer occur where
  sendRequest _ w := by
    change ∀ a ∈ w.sendRequest.1, _
    unfold sendRequest
    split
    · simp
    · dsimp only
      split
      · simp [requestSent]
      · split <;> simp [requestSent]
  receive w := by
    change ∀ a ∈ w.receive.1, _
    unfold receive
    split
    · simp
    · split
      · simp [received]
      · split <;> simp [received]
  closeSubscribe w := by simp [Endpoints.closeSubscribe, closeSubscribe]
  sendUpdate update w := by
    change ∀ a ∈ (w.sendUpdate update).1, _
    unfold sendUpdate
    split
    · simp
    · split
      · simp [sent]
      · split <;> simp [sent]
  closePublish w := by simp [Endpoints.closePublish, closePublish]
  cancel w a ha := by
    change a ∈ w.cancel.1 at ha
    rw [cancel_eq] at ha
    rcases List.mem_append.mp ha with ha | ha
    · obtain ⟨reply, hr, rfl⟩ := List.mem_map.mp ha
      unfold subscriberCut at hr
      repeat' split at hr
      all_goals simp_all
    · obtain ⟨reply, hr, rfl⟩ := List.mem_map.mp ha
      unfold publisherCut at hr
      repeat' split at hr
      all_goals simp_all
  occur event w result h := by
    have hh := happens_of_occur h
    generalize event.put = put at hh
    cases hh <;> simp

end Scripted

namespace Calls

@[simp] lemma isOfStream_targetAnswer (result : Nat × TargetOutcome) :
    (targetAnswer result).isOfStream = true := by
  obtain ⟨n, _ | _⟩ := result <;> rfl

@[simp] lemma isOfStream_collectorAnswer (result : Nat × Except Failure Unit) :
    (collectorAnswer result).isOfStream = true := rfl

@[simp] lemma isOfStream_atOnce (a : Answer) : (atOnce a).isOfStream = a.isOfStream := by
  cases a <;> rfl

lemma isOfStream_withTarget (w : Calls) (result : TargetCall.Result) :
    ∀ a ∈ (w.withTarget result).1, a.isOfStream = true := by
  intro a ha
  obtain ⟨outcome, -, rfl⟩ := List.mem_map.mp ha
  exact isOfStream_targetAnswer outcome

lemma isOfStream_withCollector (w : Calls) (result : CollectorCall.Result) :
    ∀ a ∈ (w.withCollector result).1, a.isOfStream = true := by
  intro a ha
  obtain ⟨outcome, -, rfl⟩ := List.mem_map.mp ha
  exact isOfStream_collectorAnswer outcome

lemma isOfStream_cancelTarget (w : Calls) : ∀ a ∈ w.cancelTarget.1, a.isOfStream = true := by
  unfold cancelTarget
  split
  · exact isOfStream_withTarget w _
  · simp

lemma isOfStream_cancelCollector (w : Calls) :
    ∀ a ∈ w.cancelCollector.1, a.isOfStream = true := by
  unfold cancelCollector
  split
  · exact isOfStream_withCollector w _
  · simp

lemma streamsAnswer : StreamsAnswer occur where
  sendRequest request w := by
    change ∀ a ∈ (w.sendRequest request).1, _
    unfold sendRequest
    split
    · exact isOfStream_withTarget w _
    · simp
  receive w := by
    change ∀ a ∈ w.receive.1, _
    unfold receive
    split
    · simpa using isOfStream_withTarget w _
    · simp
  closeSubscribe := isOfStream_cancelTarget
  sendUpdate update w := by
    change ∀ a ∈ (w.sendUpdate update).1, _
    unfold sendUpdate
    split
    · simpa using isOfStream_withCollector w _
    · simp
  closePublish := isOfStream_cancelCollector
  cancel w a ha := by
    rcases List.mem_append.mp ha with ha | ha
    · exact isOfStream_cancelTarget w a ha
    · exact isOfStream_cancelCollector _ a ha
  occur event w result h := by
    cases event with
    | target event =>
      obtain ⟨call, -, h⟩ := Option.bind_eq_some_iff.mp h
      obtain ⟨outcome, -, h⟩ := Option.bind_eq_some_iff.mp h
      obtain rfl := Option.some.inj h
      exact isOfStream_withTarget w outcome
    | collector event =>
      obtain ⟨call, -, h⟩ := Option.bind_eq_some_iff.mp h
      obtain ⟨outcome, -, h⟩ := Option.bind_eq_some_iff.mp h
      obtain rfl := Option.some.inj h
      exact isOfStream_withCollector _ outcome

end Calls

end TelemetryBridge
