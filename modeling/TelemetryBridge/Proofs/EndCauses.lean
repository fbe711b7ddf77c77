import TelemetryBridge.Proofs.SessionEnds

/-!
# Causes of ends

Why a session ends: its scope was cancelled before it started, its stream could not be opened, a call
failed, or the target closed its stream. `EndCause.failure` is the failure that tells the cause, and
`Relay.Judges` says that from one relay to another the sessions have ended with the given failures.
-/

namespace TelemetryBridge

/-- A call on a stream. -/
inductive StreamCall where
  | request
  | receive
  | update

/-- How a failure names the call that failed. -/
def StreamCall.text : StreamCall → String
  | request => "error sending SubscribeRequest: "
  | receive => "error from Subscribe.Recv: "
  | update => "error from Publish.Send: "

/-- How a failure names the stream that could not be opened. -/
def Side.openText : Side → String
  | subscribe => "error from Subscribe: "
  | publish => "error from Publish: "

/-- Why a session ends. -/
inductive EndCause where
  /-- The scope was cancelled before the session started. -/
  | cancelledBefore (reason : Failure)
  | unopened (side : Side) (failure : Failure)
  | failed (call : StreamCall) (failure : Failure)
  /-- The hand-off has refused a call. -/
  | refused (failure : Failure)
  /-- The target has closed its stream. -/
  | closed

/-- The failure that tells the cause of an end, in a scope that is cancelled with a reason or not. A
call on a stream of a cancelled scope has been cancelled, whatever it failed with. -/
def EndCause.failure (aborted : Option Failure) : EndCause → Failure
  | cancelledBefore reason => .cancelled reason
  | unopened side failure => .stream (side.openText ++ failure.message)
  | failed call failure => match aborted with
    | some reason => .cancelled reason
    | none => .stream (call.text ++ failure.message)
  | refused failure => failure
  | closed => .stream "subscription stream closed by target"

/-- The failure with which the hand-off refuses a call of a session. -/
def Answer.refusal? : Answer → Option Failure
  | subscriber (.offered (.error failure)) | publisher (.taken (.error failure)) => some failure
  | later answer => answer.refusal?
  | _ => none

/-- Why a session in this phase ends when it hears a reply, if it does. -/
def SubscribeSession.Phase.cause? :
    SubscribeSession.Phase → SubscribeSession.Reply → Option EndCause
  | requesting, .requestSent (.error failure) => some (.failed .request failure)
  | receiving, .received (.error failure) => some (.failed .receive failure)
  | receiving, .received (.ok none) => some .closed
  | offering _, .offered (.error failure) => some (.refused failure)
  | _, _ => none

/-- Why a session in this phase ends when it hears a reply, if it does. -/
def PublishSession.Phase.cause? : PublishSession.Phase → PublishSession.Reply → Option EndCause
  | taking, .taken (.error failure) => some (.refused failure)
  | sending _, .sent (.error failure) => some (.failed .update failure)
  | _, _ => none

lemma Failure.ofStream_call (aborted : Option Failure) (call : StreamCall) (failure : Failure) :
    Failure.ofStream aborted (call.text ++ failure.message) =
      (EndCause.failed call failure).failure aborted := by
  cases aborted <;> rfl

/-- A session that hears a reply ends with the failure that tells the cause. -/
lemma SubscribeSession.failure?_react (aborted : Option Failure) {phase : SubscribeSession.Phase}
    (hl : phase.isLive = true) (reply : SubscribeSession.Reply) :
    (SubscribeSession.react aborted phase reply).1.failure? =
      (phase.cause? reply).map (·.failure aborted) := by
  cases phase with
  | requesting =>
    rcases reply with (failure | _) | result | result
    · exact congrArg some (Failure.ofStream_call aborted .request failure)
    · rfl
    · rfl
    · rfl
  | receiving =>
    rcases reply with result | (failure | _ | update) | result
    · rfl
    · exact congrArg some (Failure.ofStream_call aborted .receive failure)
    · rfl
    · rfl
    · rfl
  | offering update => rcases reply with result | result | (failure | _) <;> rfl
  | ended failure => cases hl

lemma PublishSession.failure?_react (aborted : Option Failure) {phase : PublishSession.Phase}
    (hl : phase.isLive = true) (reply : PublishSession.Reply) :
    (PublishSession.react aborted phase reply).1.failure? =
      (phase.cause? reply).map (·.failure aborted) := by
  cases phase with
  | taking => rcases reply with (failure | update) | result <;> rfl
  | sending update =>
    rcases reply with result | (failure | _)
    · rfl
    · exact congrArg some (Failure.ofStream_call aborted .update failure)
    · rfl
  | ended failure => cases hl

namespace Relay

variable {ω : Type} {r r' r'' : Relay ω}

/-- The failures with which sessions of a side have ended, of those told. -/
def endsOf (side : Side) (tidings : List (Side × Failure)) : List Failure :=
  tidings.filterMap fun e => if e.1 = side then some e.2 else none

lemma endsOf_append (side : Side) (es es' : List (Side × Failure)) :
    endsOf side (es ++ es') = endsOf side es ++ endsOf side es' :=
  List.filterMap_append

lemma endsOf_single (side s : Side) (failure? : Option Failure) :
    endsOf side (failure?.toList.map (s, ·)) = if s = side then failure?.toList else [] := by
  cases failure? <;> by_cases h : s = side <;> simp [endsOf, h]

/-- From the first relay to the second the sessions have ended with the given failures, and that
becomes news. -/
structure Judges (verdict : Side → Option Failure) (r r' : Relay ω) : Prop where
  failure : ∀ side, r'.failure? side = (r.failure? side <|> verdict side)
  told : ∀ side, endsOf side r'.tidings = endsOf side r.tidings ++ (verdict side).toList

/-- What concerns one side only. -/
def only {α : Type} (side : Side) (a? : Option α) (s : Side) : Option α :=
  if s = side then a? else none

lemma map_only {α β : Type} (f : α → β) (side : Side) (a? : Option α) (s : Side) :
    (only side a? s).map f = only side (a?.map f) s := by
  by_cases h : s = side <;> simp [only, h]

/-- Nothing concerns either side. -/
lemma only_none {α : Type} (side s : Side) : only side (none : Option α) s = none := ite_self _

/-- No session ends. -/
lemma Judges.of_same (hs : r'.subscriber = r.subscriber) (hp : r'.publisher = r.publisher)
    (ht : r'.tidings = r.tidings) : Judges (fun _ => none) r r' := by
  constructor
  · intro side
    cases side <;> simp [failure?, hs, hp]
  · intro side
    rw [ht]
    exact (List.append_nil _).symm

lemma Judges.of_steady (h : r.Steady r') : Judges (fun _ => none) r r' :=
  .of_same h.subscriber h.publisher h.tidings

/-- A judgement after what ends no session. -/
lemma Judges.after {verdict : Side → Option Failure} (h : r'.Judges verdict r'')
    (hs : r'.subscriber = r.subscriber) (hp : r'.publisher = r.publisher)
    (ht : r'.tidings = r.tidings) : Judges verdict r r'' := by
  have hf : ∀ side, r'.failure? side = r.failure? side := by
    intro side
    cases side <;> simp [failure?, hs, hp]
  refine ⟨fun side => ?_, fun side => ?_⟩
  · rw [h.failure, hf]
  · rw [h.told, ht]

section

variable [Endpoints ω]

/-- The result of opening the stream of a side. -/
def opening (r : Relay ω) : Side → Except Failure Unit
  | .subscribe => (Endpoints.openSubscribe r.metadata r.world).1
  | .publish => (Endpoints.openPublish r.world).1

/-- Whether the session of a side has not been started. -/
def isUnstarted (r : Relay ω) : Side → Bool
  | .subscribe => r.subscriber.isNone
  | .publish => r.publisher.isNone

def start (r : Relay ω) : Side → Relay ω
  | .subscribe => r.startSubscriber
  | .publish => r.startPublisher

/-- Why a session ends when it starts, if it does. -/
def startCause? (r : Relay ω) (side : Side) : Option EndCause :=
  match r.cancelled?, r.opening side with
  | some reason, _ => some (.cancelledBefore reason)
  | none, .error failure => some (.unopened side failure)
  | none, .ok _ => none

/-- Why an answer ends the session of a side, if it does. -/
def answerCause? (r : Relay ω) : Side → Answer → Option EndCause
  | .subscribe, .subscriber reply => r.subscriber.bind (·.cause? reply)
  | .publish, .publisher reply => r.publisher.bind (·.cause? reply)
  | _, _ => none

lemma judges_moveSubscriber (r : Relay ω) (hnone : r.failure? .subscribe = none)
    (next : SubscribeSession.Phase × List SubscribeSession.Command) :
    Judges (only .subscribe next.1.failure?) r (r.moveSubscriber next) := by
  obtain ⟨hs, hp⟩ := moveSubscriber_phases r next
  refine ⟨fun side => ?_, fun side => ?_⟩
  · cases side with
    | subscribe =>
      rw [hnone, failure?, hs]
      rfl
    | publish =>
      rw [failure?, failure?, hp]
      simp [only]
  · rw [tidings_moveSubscriber, endsOf_append, endsOf_single]
    cases side <;> rfl

lemma judges_movePublisher (r : Relay ω) (hnone : r.failure? .publish = none)
    (next : PublishSession.Phase × List PublishSession.Command) :
    Judges (only .publish next.1.failure?) r (r.movePublisher next) := by
  obtain ⟨hs, hp⟩ := movePublisher_phases r next
  refine ⟨fun side => ?_, fun side => ?_⟩
  · cases side with
    | subscribe =>
      rw [failure?, failure?, hs]
      simp [only]
    | publish =>
      rw [hnone, failure?, hp]
      rfl
  · rw [tidings_movePublisher, endsOf_append, endsOf_single]
    cases side <;> rfl

/-- A session that starts in a cancelled scope ends before it opens a stream. -/
lemma start_of_cancelled {reason : Failure} (hc : r.cancelled? = some reason) :
    r.startSubscriber = r.moveSubscriber (SubscribeSession.refused reason, []) ∧
      r.startPublisher = r.movePublisher (PublishSession.refused reason, []) := by
  unfold startSubscriber startPublisher
  rw [hc]
  exact ⟨rfl, rfl⟩

lemma judges_startSubscriber (r : Relay ω) (hnone : r.subscriber = none) :
    Judges (only .subscribe ((r.startCause? .subscribe).map (·.failure r.cancelled?))) r
      r.startSubscriber := by
  have hfailure : r.failure? .subscribe = none := by rw [failure?, hnone]; rfl
  cases hc : r.cancelled? with
  | some reason =>
    have hmoved := r.judges_moveSubscriber hfailure (SubscribeSession.refused reason, [])
    rw [(start_of_cancelled hc).1, startCause?, hc]
    exact hmoved
  | none =>
    unfold startSubscriber startCause? opening
    rw [hc]
    dsimp only
    generalize (Endpoints.openSubscribe r.metadata r.world).1 = result
    generalize hr : ({ r with world := (Endpoints.openSubscribe r.metadata r.world).2 } :
      Relay ω).noteOpening .subscribe result = r₁
    have hsteady : r.Steady r₁ := hr ▸ r.steady_opening _ .subscribe result
    have hfailure₁ : r₁.failure? .subscribe = none := by
      rw [failure?, hsteady.subscriber, hnone]
      rfl
    have hmoved := (r₁.judges_moveSubscriber hfailure₁ (SubscribeSession.opened result)).after
      hsteady.subscriber hsteady.publisher hsteady.tidings
    cases result <;> exact hmoved

lemma judges_startPublisher (r : Relay ω) (hnone : r.publisher = none) :
    Judges (only .publish ((r.startCause? .publish).map (·.failure r.cancelled?))) r
      r.startPublisher := by
  have hfailure : r.failure? .publish = none := by rw [failure?, hnone]; rfl
  cases hc : r.cancelled? with
  | some reason =>
    have hmoved := r.judges_movePublisher hfailure (PublishSession.refused reason, [])
    rw [(start_of_cancelled hc).2, startCause?, hc]
    exact hmoved
  | none =>
    unfold startPublisher startCause? opening
    rw [hc]
    dsimp only
    generalize (Endpoints.openPublish r.world).1 = result
    generalize hr : ({ r with world := (Endpoints.openPublish r.world).2 } :
      Relay ω).noteOpening .publish result = r₁
    have hsteady : r.Steady r₁ := hr ▸ r.steady_opening _ .publish result
    have hfailure₁ : r₁.failure? .publish = none := by
      rw [failure?, hsteady.publisher, hnone]
      rfl
    have hmoved := (r₁.judges_movePublisher hfailure₁ (PublishSession.opened result)).after
      hsteady.subscriber hsteady.publisher hsteady.tidings
    cases result <;> exact hmoved

lemma startCause?_cases {side : Side} {cause : EndCause} (h : r.startCause? side = some cause) :
    (∃ reason, r.cancelled? = some reason ∧ cause = .cancelledBefore reason) ∨
      r.cancelled? = none ∧ ∃ failure, cause = .unopened side failure := by
  cases hr : r.cancelled? with
  | some reason => exact Or.inl ⟨reason, rfl, by simpa [startCause?, hr] using h.symm⟩
  | none =>
    cases ho : r.opening side with
    | error failure => exact Or.inr ⟨rfl, failure, by simpa [startCause?, hr, ho] using h.symm⟩
    | ok _ => simp [startCause?, hr, ho] at h

omit [Endpoints ω] in
lemma answerCause?_cases {side : Side} {a : Answer} {cause : EndCause}
    (h : r.answerCause? side a = some cause) :
    (∃ call failure, cause = .failed call failure) ∨ cause = .closed ∨
      ∃ failure, a.refusal? = some failure ∧ cause = .refused failure := by
  unfold answerCause? at h
  split at h
  · next reply =>
    obtain ⟨phase, -, h⟩ := Option.bind_eq_some_iff.mp h
    unfold SubscribeSession.Phase.cause? at h
    split at h
    · exact Or.inl ⟨_, _, (Option.some.inj h).symm⟩
    · exact Or.inl ⟨_, _, (Option.some.inj h).symm⟩
    · exact Or.inr (Or.inl (Option.some.inj h).symm)
    · exact Or.inr (Or.inr ⟨_, rfl, (Option.some.inj h).symm⟩)
    · cases h
  · next reply =>
    obtain ⟨phase, -, h⟩ := Option.bind_eq_some_iff.mp h
    unfold PublishSession.Phase.cause? at h
    split at h
    · exact Or.inr (Or.inr ⟨_, rfl, (Option.some.inj h).symm⟩)
    · exact Or.inl ⟨_, _, (Option.some.inj h).symm⟩
    · cases h
  · cases h

/-- A start ends the session with the failure that tells the cause. -/
lemma judges_start (r : Relay ω) {side : Side} (h : r.isUnstarted side = true) :
    Judges (only side ((r.startCause? side).map (·.failure r.cancelled?))) r (r.start side) := by
  cases side with
  | subscribe => exact r.judges_startSubscriber (Option.isNone_iff_eq_none.mp h)
  | publish => exact r.judges_startPublisher (Option.isNone_iff_eq_none.mp h)

omit [Endpoints ω] in
/-- Nothing ends a session that has not started or has ended. -/
lemma answerCause?_of_not_live {side : Side} (h : r.isLive side = false) (a : Answer) :
    r.answerCause? side a = none := by
  cases side with
  | subscribe => cases a with
    | subscriber reply => cases hs : r.subscriber with
      | none => simp [answerCause?, hs]
      | some phase => cases phase <;>
          simp_all [answerCause?, isLive, SubscribeSession.Phase.isLive,
            SubscribeSession.Phase.cause?]
    | publisher reply | later a => rfl
  | publish => cases a with
    | publisher reply => cases hp : r.publisher with
      | none => simp [answerCause?, hp]
      | some phase => cases phase <;>
          simp_all [answerCause?, isLive, PublishSession.Phase.isLive, PublishSession.Phase.cause?]
    | subscriber reply | later a => rfl

omit [Endpoints ω] in
lemma answerCause?_subscriber (r : Relay ω) (reply : SubscribeSession.Reply) (side : Side) :
    r.answerCause? side (.subscriber reply) =
      only .subscribe (r.subscriber.bind (·.cause? reply)) side := by
  cases side <;> rfl

omit [Endpoints ω] in
lemma answerCause?_publisher (r : Relay ω) (reply : PublishSession.Reply) (side : Side) :
    r.answerCause? side (.publisher reply) =
      only .publish (r.publisher.bind (·.cause? reply)) side := by
  cases side <;> rfl

/-- An answer ends a session with the failure that tells the cause. -/
lemma judges_answer (r : Relay ω) (a : Answer) :
    Judges (fun side => (r.answerCause? side a).map (·.failure r.cancelled?)) r (r.answer a) := by
  cases a with
  | subscriber reply =>
    simp only [answerCause?_subscriber, map_only]
    cases hl : r.isLive .subscribe with
    | false =>
      have hnone : r.subscriber.bind (·.cause? reply) = none :=
        answerCause?_of_not_live hl (.subscriber reply)
      rw [answer_subscriber_of_not_live hl]
      simp only [hnone, Option.map_none, only_none]
      exact .of_same rfl rfl rfl
    | true =>
      obtain ⟨phase, hs, hlive⟩ := exists_of_isLive_subscribe hl
      have hmoved := (r.note (.subscriberTold reply)).judges_moveSubscriber (failure?_of_isLive hl)
        (SubscribeSession.react r.cancelled? phase reply)
      rw [SubscribeSession.failure?_react r.cancelled? hlive reply] at hmoved
      rw [answer_subscriber_of_live hs hlive, hs]
      exact hmoved.after rfl rfl rfl
  | publisher reply =>
    simp only [answerCause?_publisher, map_only]
    cases hl : r.isLive .publish with
    | false =>
      have hnone : r.publisher.bind (·.cause? reply) = none :=
        answerCause?_of_not_live hl (.publisher reply)
      rw [answer_publisher_of_not_live hl]
      simp only [hnone, Option.map_none, only_none]
      exact .of_same rfl rfl rfl
    | true =>
      obtain ⟨phase, hp, hlive⟩ := exists_of_isLive_publish hl
      have hmoved := (r.note (.publisherTold reply)).judges_movePublisher (failure?_of_isLive hl)
        (PublishSession.react r.cancelled? phase reply)
      rw [PublishSession.failure?_react r.cancelled? hlive reply] at hmoved
      rw [answer_publisher_of_live hp hlive, hp]
      exact hmoved.after rfl rfl rfl
  | later a =>
    have hnone : ∀ side, r.answerCause? side (.later a) = none := by rintro (_ | _) <;> rfl
    simp only [hnone]
    exact .of_same rfl rfl ((tidings_post _ _).trans (List.append_nil _))

end

end Relay

end TelemetryBridge
