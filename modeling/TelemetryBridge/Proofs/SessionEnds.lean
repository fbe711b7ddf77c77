import TelemetryBridge.Proofs.FailureReports
import TelemetryBridge.Proofs.HandoffReplies

/-!
# How sessions end

With which failure a session ends, for any endpoints: a start ends it by a failure of its stream, an
answer by such a failure or in a cancelled scope. `Relay.Course` follows the ends from where they
happen to where the bridge hears of them.
-/

namespace TelemetryBridge

/-- The failure with which a session in this phase has ended. -/
def SubscribeSession.Phase.failure? : SubscribeSession.Phase → Option Failure
  | ended failure => some failure
  | _ => none

/-- The failure with which a session in this phase has ended. -/
def PublishSession.Phase.failure? : PublishSession.Phase → Option Failure
  | ended failure => some failure
  | _ => none

/-- Whether a stream has failed of itself. -/
def Failure.IsOfStream (failure : Failure) : Prop := ∃ message, failure = .stream message

namespace Relay

variable {ω : Type}

/-- The failure with which the session of a side has ended. -/
def failure? (r : Relay ω) : Side → Option Failure
  | .subscribe => r.subscriber.bind (·.failure?)
  | .publish => r.publisher.bind (·.failure?)

/-- The sessions that have ended from the first relay to the second. When both have ended at once,
which only a start can do, the subscribe session was the first. -/
def newEnds (r r' : Relay ω) : List (Side × Failure) :=
  [Side.subscribe, Side.publish].filterMap fun side =>
    if (r.failure? side).isSome then none else (r'.failure? side).map (side, ·)

/-- From the first relay to the second some ends have been heard of and some are new. -/
structure Course (r r' : Relay ω) (heard new : List (Side × Failure)) : Prop where
  history : ∃ ns, r'.history = r.history ++ ns ∧ ns.filterMap Note.rejection? = heard.map (·.2)
  ended : r.newEnds r' = new
  tidings : r.tidings ++ new = heard ++ r'.tidings

lemma newEnds_of_same {r r' : Relay ω} (hs : r'.subscriber = r.subscriber)
    (hp : r'.publisher = r.publisher) : r.newEnds r' = [] := by
  have hf : ∀ side, r'.failure? side = r.failure? side := by
    intro side
    cases side <;> simp [failure?, hs, hp]
  refine List.filterMap_eq_nil_iff.mpr fun side _ => ?_
  rw [hf]
  cases r.failure? side <;> rfl

lemma newEnds_of_subscriber {r r' : Relay ω} (hnone : r.failure? .subscribe = none)
    (hp : r'.publisher = r.publisher) :
    r.newEnds r' = (r'.failure? .subscribe).toList.map (Side.subscribe, ·) := by
  have hf : r'.failure? .publish = r.failure? .publish := by simp [failure?, hp]
  cases hs : r'.failure? .subscribe <;> cases hq : r.failure? .publish <;>
    simp [newEnds, hnone, hf, hs, hq]

lemma newEnds_of_publisher {r r' : Relay ω} (hnone : r.failure? .publish = none)
    (hs : r'.subscriber = r.subscriber) :
    r.newEnds r' = (r'.failure? .publish).toList.map (Side.publish, ·) := by
  have hf : r'.failure? .subscribe = r.failure? .subscribe := by simp [failure?, hs]
  cases hp : r'.failure? .publish <;> cases hq : r.failure? .subscribe <;>
    simp [newEnds, hnone, hf, hp, hq]

/-- No session moves and nothing is heard of. -/
lemma Course.of_same {r r' : Relay ω} (hn : r.Silent r') (hs : r'.subscriber = r.subscriber)
    (hp : r'.publisher = r.publisher) (ht : r'.tidings = r.tidings) : r.Course r' [] [] := by
  obtain ⟨ns, hsilent, hn⟩ := hn
  exact ⟨⟨ns, hn, (Bridge.filterMap_of_silent hsilent).1⟩, newEnds_of_same hs hp,
    by simpa using ht.symm⟩

section

variable [Endpoints ω]

/-! ## Ends -/

omit [Endpoints ω] in
/-- A session ends by a failure of its stream, or because it is cancelled or refused. -/
lemma react_subscriber_blame {aborted : Option Failure} {phase : SubscribeSession.Phase}
    (hl : phase.isLive = true) {reply : SubscribeSession.Reply} {failure : Failure}
    (hf : (SubscribeSession.react aborted phase reply).1.failure? = some failure) :
    failure.IsOfStream ∨ aborted.isSome = true ∨ (Answer.subscriber reply).isRefusal = true := by
  unfold SubscribeSession.react at hf
  split at hf
  · cases hf
  · obtain rfl := Option.some.inj hf
    cases aborted with
    | none => exact Or.inl ⟨_, rfl⟩
    | some reason => exact Or.inr (Or.inl rfl)
  · cases hf
  · obtain rfl := Option.some.inj hf
    exact Or.inl ⟨_, rfl⟩
  · obtain rfl := Option.some.inj hf
    cases aborted with
    | none => exact Or.inl ⟨_, rfl⟩
    | some reason => exact Or.inr (Or.inl rfl)
  · cases hf
  · exact Or.inr (Or.inr rfl)
  · cases phase with
    | ended failure => cases hl
    | requesting | receiving | offering update => cases hf

omit [Endpoints ω] in
lemma react_publisher_blame {aborted : Option Failure} {phase : PublishSession.Phase}
    (hl : phase.isLive = true) {reply : PublishSession.Reply} {failure : Failure}
    (hf : (PublishSession.react aborted phase reply).1.failure? = some failure) :
    failure.IsOfStream ∨ aborted.isSome = true ∨ (Answer.publisher reply).isRefusal = true := by
  unfold PublishSession.react at hf
  split at hf
  · cases hf
  · exact Or.inr (Or.inr rfl)
  · cases hf
  · obtain rfl := Option.some.inj hf
    cases aborted with
    | none => exact Or.inl ⟨_, rfl⟩
    | some reason => exact Or.inr (Or.inl rfl)
  · cases phase with
    | ended failure => cases hl
    | taking | sending update => cases hf

lemma tidings_moveSubscriber (r : Relay ω)
    (next : SubscribeSession.Phase × List SubscribeSession.Command) :
    (r.moveSubscriber next).tidings =
      r.tidings ++ next.1.failure?.toList.map (Side.subscribe, ·) := by
  have h : (next.2.foldl obeySubscriber { r with subscriber := some next.1 }).tidings = r.tidings :=
    (steady_obeySubscriber _ next.2).tidings
  unfold moveSubscriber
  dsimp only
  split
  · next failure hf =>
    rw [tidings_post, h, hf]
    rfl
  · next hlive =>
    have hf : next.1.failure? = none := by
      cases hn : next.1 with
      | ended failure => exact absurd hn (hlive failure)
      | requesting | receiving | offering update => rfl
    simp [h, hf]

lemma tidings_movePublisher (r : Relay ω)
    (next : PublishSession.Phase × List PublishSession.Command) :
    (r.movePublisher next).tidings =
      r.tidings ++ next.1.failure?.toList.map (Side.publish, ·) := by
  have h : (next.2.foldl obeyPublisher { r with publisher := some next.1 }).tidings = r.tidings :=
    (steady_obeyPublisher _ next.2).tidings
  unfold movePublisher
  dsimp only
  split
  · next failure hf =>
    rw [tidings_post, h, hf]
    rfl
  · next hlive =>
    have hf : next.1.failure? = none := by
      cases hn : next.1 with
      | ended failure => exact absurd hn (hlive failure)
      | taking | sending update => rfl
    simp [h, hf]

omit [Endpoints ω] in
lemma failure?_of_isLive {r : Relay ω} {side : Side} (h : r.isLive side = true) :
    r.failure? side = none := by
  cases side with
  | subscribe =>
    obtain ⟨phase, hs, hl⟩ := exists_of_isLive_subscribe h
    cases phase with
    | ended failure => cases hl
    | requesting | receiving | offering update =>
      simp [failure?, hs, SubscribeSession.Phase.failure?]
  | publish =>
    obtain ⟨phase, hp, hl⟩ := exists_of_isLive_publish h
    cases phase with
    | ended failure => cases hl
    | taking | sending update => simp [failure?, hp, PublishSession.Phase.failure?]

/-- An answer brings no news of an end. -/
lemma rejections_answer (r : Relay ω) (a : Answer) :
    ∃ ns, (r.answer a).history = r.history ++ ns ∧
      ns.filterMap Note.rejection? = ([] : List (Side × Failure)).map (·.2) := by
  have hsilent : r.Silent (r.answer a) := by
    rcases r.answer_continues_or_ends a with h | ⟨side, h⟩
    · exact .of_continues h
    · exact .of_ends h
  obtain ⟨ns, hns, hn⟩ := hsilent
  exact ⟨ns, hn, (Bridge.filterMap_of_silent hns).1⟩

/-- How an answer to a live session ends it, if it does. -/
lemma course_subscriber (r : Relay ω) {reply : SubscribeSession.Reply}
    (hr : (Answer.subscriber reply).isRefusal = true → r.isCancelled = true)
    (hl : r.isLive .subscribe = true) : ∃ new, r.Course (r.answer (.subscriber reply)) [] new ∧
      ∀ e ∈ new, r.isLive e.1 = true ∧ (e.2.IsOfStream ∨ r.isCancelled = true) := by
  have hnotes := r.rejections_answer (.subscriber reply)
  have hnone := failure?_of_isLive hl
  obtain ⟨phase, hs, hlive⟩ := exists_of_isLive_subscribe hl
  rw [answer_subscriber_of_live hs hlive] at hnotes ⊢
  have hsame := moveSubscriber_phases (r.note (.subscriberTold reply))
    (SubscribeSession.react r.cancelled? phase reply)
  have htidings := tidings_moveSubscriber (r.note (.subscriberTold reply))
    (SubscribeSession.react r.cancelled? phase reply)
  refine ⟨_, ⟨hnotes, ?_, htidings.symm⟩, ?_⟩
  · rw [newEnds_of_subscriber hnone hsame.2, failure?, hsame.1]
    rfl
  · intro e he
    obtain ⟨failure, hf, rfl⟩ := List.mem_map.mp he
    refine ⟨hl, ?_⟩
    rcases react_subscriber_blame hlive (Option.mem_toList.mp hf) with h | h | h
    · exact Or.inl h
    · exact Or.inr h
    · exact Or.inr (hr h)

lemma course_publisher (r : Relay ω) {reply : PublishSession.Reply}
    (hr : (Answer.publisher reply).isRefusal = true → r.isCancelled = true)
    (hl : r.isLive .publish = true) : ∃ new, r.Course (r.answer (.publisher reply)) [] new ∧
      ∀ e ∈ new, r.isLive e.1 = true ∧ (e.2.IsOfStream ∨ r.isCancelled = true) := by
  have hnotes := r.rejections_answer (.publisher reply)
  have hnone := failure?_of_isLive hl
  obtain ⟨phase, hp, hlive⟩ := exists_of_isLive_publish hl
  rw [answer_publisher_of_live hp hlive] at hnotes ⊢
  have hsame := movePublisher_phases (r.note (.publisherTold reply))
    (PublishSession.react r.cancelled? phase reply)
  have htidings := tidings_movePublisher (r.note (.publisherTold reply))
    (PublishSession.react r.cancelled? phase reply)
  refine ⟨_, ⟨hnotes, ?_, htidings.symm⟩, ?_⟩
  · rw [newEnds_of_publisher hnone hsame.1, failure?, hsame.2]
    rfl
  · intro e he
    obtain ⟨failure, hf, rfl⟩ := List.mem_map.mp he
    refine ⟨hl, ?_⟩
    rcases react_publisher_blame hlive (Option.mem_toList.mp hf) with h | h | h
    · exact Or.inl h
    · exact Or.inr h
    · exact Or.inr (hr h)

/-- An answer ends at most the session that it reaches, and that by a failure of its stream unless
the scope is cancelled. -/
lemma course_answer (r : Relay ω) {a : Answer} (hr : a.isRefusal = true → r.isCancelled = true) :
    ∃ new, r.Course (r.answer a) [] new ∧
      ∀ e ∈ new, r.isLive e.1 = true ∧ (e.2.IsOfStream ∨ r.isCancelled = true) := by
  cases a with
  | subscriber reply =>
    rcases hl : r.isLive .subscribe
    · rw [answer_subscriber_of_not_live hl]
      exact ⟨[], .of_same (.refl r) rfl rfl rfl, by simp⟩
    · exact r.course_subscriber hr hl
  | publisher reply =>
    rcases hl : r.isLive .publish
    · rw [answer_publisher_of_not_live hl]
      exact ⟨[], .of_same (.refl r) rfl rfl rfl, by simp⟩
    · exact r.course_publisher hr hl
  | later answer =>
    have ht : (r.answer (.later answer)).tidings = r.tidings :=
      (tidings_post _ _).trans (List.append_nil _)
    exact ⟨[], .of_same (.refl r) rfl rfl ht, by simp⟩

lemma cancelled?_moveSubscriber (r : Relay ω)
    (next : SubscribeSession.Phase × List SubscribeSession.Command) :
    (r.moveSubscriber next).cancelled? = r.cancelled? := by
  have h : (next.2.foldl obeySubscriber { r with subscriber := some next.1 }).handoff.aborted =
      r.handoff.aborted := (steady_obeySubscriber _ next.2).aborted
  unfold moveSubscriber
  dsimp only
  split <;> exact congrArg (List.lookup Scope.session) h

lemma cancelled?_movePublisher (r : Relay ω)
    (next : PublishSession.Phase × List PublishSession.Command) :
    (r.movePublisher next).cancelled? = r.cancelled? := by
  have h : (next.2.foldl obeyPublisher { r with publisher := some next.1 }).handoff.aborted =
      r.handoff.aborted := (steady_obeyPublisher _ next.2).aborted
  unfold movePublisher
  dsimp only
  split <;> exact congrArg (List.lookup Scope.session) h

/-- Cancellation moves no session; they hear of it by answers. -/
lemma cancel_same (r : Relay ω) (reason : Failure) :
    (r.cancel reason).subscriber = r.subscriber ∧ (r.cancel reason).publisher = r.publisher ∧
      (r.cancel reason).tidings = r.tidings := by
  unfold cancel
  split
  · exact ⟨rfl, rfl, rfl⟩
  · exact ⟨rfl, rfl, (tidings_withHandoff _ _).trans (steady_withWorld r _).tidings⟩

/-- An answer never cancels the scope. -/
lemma cancelled?_answer (r : Relay ω) (a : Answer) : (r.answer a).cancelled? = r.cancelled? := by
  cases a with
  | subscriber reply =>
    rcases hl : r.isLive .subscribe
    · rw [answer_subscriber_of_not_live hl]
    · obtain ⟨phase, hs, hlive⟩ := exists_of_isLive_subscribe hl
      rw [answer_subscriber_of_live hs hlive]
      exact cancelled?_moveSubscriber _ _
  | publisher reply =>
    rcases hl : r.isLive .publish
    · rw [answer_publisher_of_not_live hl]
    · obtain ⟨phase, hp, hlive⟩ := exists_of_isLive_publish hl
      rw [answer_publisher_of_live hp hlive]
      exact cancelled?_movePublisher _ _
  | later answer => rfl

/-! ## Starts -/

/-- A fresh scope is not cancelled. -/
lemma cancelled?_startPair (r : Relay ω) (status : BridgeStatus) :
    (r.startPair status).cancelled? = none := by
  have hs : ((r.fresh.note (.opening .subscribe 2 status)).startSubscriber.note
      (.opening .publish 2 status)).cancelled? = none := by
    change Handoff.reason? (Relay.startSubscriber _).handoff .session = none
    rw [startSubscriber_handoff _ rfl]
    rfl
  unfold startPair
  generalize Relay.note _ (.opening .publish 2 status) = r₁ at hs ⊢
  unfold startPublisher
  rw [hs]
  dsimp only
  rw [cancelled?_movePublisher]
  rcases (Endpoints.openPublish r₁.world).1 with failure | _ <;> exact hs

omit [Endpoints ω] in
/-- The attempt to open a stream ends no session. -/
lemma steady_opening (r : Relay ω) (world : ω) (side : Side) (result : Except Failure Unit) :
    r.Steady ({ r with world }.noteOpening side result) := by
  cases result <;> exact ⟨rfl, rfl, rfl, rfl⟩

/-- A session whose stream cannot be opened fails at once. -/
lemma startSubscriber_ends (r : Relay ω) (hc : r.cancelled? = none) :
    ∃ message : Option String,
      r.startSubscriber.failure? .subscribe = message.map Failure.stream ∧
      r.startSubscriber.publisher = r.publisher ∧
      r.startSubscriber.tidings =
        r.tidings ++ message.toList.map fun m => (Side.subscribe, Failure.stream m) := by
  unfold startSubscriber
  rw [hc]
  dsimp only
  generalize (Endpoints.openSubscribe r.metadata r.world).1 = result
  generalize hr : ({ r with world := (Endpoints.openSubscribe r.metadata r.world).2 } :
    Relay ω).noteOpening .subscribe result = r₁
  have hsteady : r.Steady r₁ := hr ▸ r.steady_opening _ .subscribe result
  obtain ⟨hs, hp⟩ := moveSubscriber_phases r₁ (SubscribeSession.opened result)
  have htidings := tidings_moveSubscriber r₁ (SubscribeSession.opened result)
  rw [hsteady.tidings] at htidings
  rcases result with failure | _
  · exact ⟨some _, by rw [failure?, hs]; rfl, hp.trans hsteady.publisher, htidings⟩
  · exact ⟨none, by rw [failure?, hs]; rfl, hp.trans hsteady.publisher, htidings⟩

lemma startPublisher_ends (r : Relay ω) (hc : r.cancelled? = none) :
    ∃ message : Option String,
      r.startPublisher.failure? .publish = message.map Failure.stream ∧
      r.startPublisher.subscriber = r.subscriber ∧
      r.startPublisher.tidings =
        r.tidings ++ message.toList.map fun m => (Side.publish, Failure.stream m) := by
  unfold startPublisher
  rw [hc]
  dsimp only
  generalize (Endpoints.openPublish r.world).1 = result
  generalize hr : ({ r with world := (Endpoints.openPublish r.world).2 } :
    Relay ω).noteOpening .publish result = r₁
  have hsteady : r.Steady r₁ := hr ▸ r.steady_opening _ .publish result
  obtain ⟨hs, hp⟩ := movePublisher_phases r₁ (PublishSession.opened result)
  have htidings := tidings_movePublisher r₁ (PublishSession.opened result)
  rw [hsteady.tidings] at htidings
  rcases result with failure | _
  · exact ⟨some _, by rw [failure?, hp]; rfl, hs.trans hsteady.subscriber, htidings⟩
  · exact ⟨none, by rw [failure?, hp]; rfl, hs.trans hsteady.subscriber, htidings⟩

/-- The ends that a start leads to are failures of streams. -/
lemma startPair_ends (r : Relay ω) (status : BridgeStatus) (hr : r.tidings = []) :
    r.fresh.newEnds (r.startPair status) = (r.startPair status).tidings ∧
      ∀ e ∈ (r.startPair status).tidings, e.2.IsOfStream := by
  have hcancelled : (r.fresh.note (.opening .subscribe 2 status)).startSubscriber.cancelled? =
      none := by
    change Handoff.reason? (Relay.startSubscriber _).handoff .session = none
    rw [startSubscriber_handoff _ rfl]
    rfl
  obtain ⟨m, hf, hp, ht⟩ :=
    startSubscriber_ends (r.fresh.note (.opening .subscribe 2 status)) rfl
  obtain ⟨m', hf', hs', ht'⟩ := startPublisher_ends
    ((r.fresh.note (.opening .subscribe 2 status)).startSubscriber.note
      (.opening .publish 2 status)) hcancelled
  have hsub : (r.startPair status).failure? .subscribe = m.map Failure.stream := by
    have h : (r.startPair status).failure? .subscribe =
        (r.fresh.note (.opening .subscribe 2 status)).startSubscriber.failure? .subscribe := by
      rw [failure?, failure?, startPair, hs']
      rfl
    exact h.trans hf
  have htidings : (r.startPair status).tidings =
      m.toList.map (fun m => (Side.subscribe, Failure.stream m)) ++
        m'.toList.map fun m => (Side.publish, Failure.stream m) := by
    have h : (r.fresh.note (.opening .subscribe 2 status)).tidings = [] := hr
    rw [startPair, ht']
    change (Relay.startSubscriber _).tidings ++ _ = _
    rw [ht, h]
    rfl
  have hpub : (r.startPair status).failure? .publish = m'.map Failure.stream := hf'
  rw [htidings]
  constructor
  · have hfresh : ∀ side, r.fresh.failure? side = none := fun side => by cases side <;> rfl
    cases m <;> cases m' <;> simp [newEnds, hfresh, hsub, hpub]
  · intro e he
    rcases List.mem_append.mp he with he | he <;> obtain ⟨message, -, rfl⟩ := List.mem_map.mp he <;>
      exact ⟨message, rfl⟩

end

end Relay

end TelemetryBridge
