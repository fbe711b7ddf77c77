import TelemetryBridge.Proofs.Settling

/-!
# Cancellation reaches the sibling

When streams honour the cancellation of their scope, the end of one session ends the other: at rest
either both sessions are live or none is. A session that is cancelled has no place to wait in but an
answer underway (`SubscriberAwaits.of_cancelled`), the bridge cancels the scope as soon as it
hears of the first end (`Bridge.half_step`), and settling makes all deliveries.
-/

namespace TelemetryBridge

/-- Streams that honour the cancellation of their scope. -/
structure Script.Honours (script : Script) : Prop where
  subscribe : script.ignoreSubscribe = false
  publish : script.ignorePublish = false

/-- In a cancelled scope a session has no place left to wait in but an answer underway. -/
lemma SubscriberAwaits.of_cancelled {phase : Option SubscribeSession.Phase}
    {stream : Option ScriptedSubscribe} {offers : List Update}
    (h : SubscriberAwaits true false phase [] stream offers) : phase.any (·.isLive) = false := by
  cases h with
  | absent | ended => rfl
  | requesting blocked isOpen may | receiving blocked isOpen may => simp at may
  | offering free isOpen going => cases going

lemma PublisherAwaits.of_cancelled {phase : Option PublishSession.Phase}
    {stream : Option ScriptedPublish} {asking : Bool}
    (h : PublisherAwaits true false phase [] stream asking) : phase.any (·.isLive) = false := by
  cases h with
  | absent | ended => rfl
  | taking free same going => cases going
  | sending blocked same may => simp at may

namespace Relay

variable {r r' : Relay Scripted}

lemma Placed.not_live_of_cancelled (h : r.Placed) (hi : r.world.script.Honours)
    (hc : r.isCancelled = true) (hu : r.underway = []) (side : Side) : r.isLive side = false := by
  have hs := h.subscriber
  have hp := h.publisher
  have hsr : r.subscriberReplies = [] := subscriberReplies_of hu
  have hpr : r.publisherReplies = [] := publisherReplies_of hu
  rw [hc, hi.subscribe, hsr] at hs
  rw [hc, hi.publish, hpr] at hp
  cases side with
  | subscribe => exact hs.of_cancelled
  | publish => exact hp.of_cancelled

lemma script_step {put : List Update} (h : r.Step put r') : r'.world.script = r.world.script := by
  cases h with
  | noted ns => rfl
  | cancelled reason => exact (r.cancel_frame reason).2.2.2
  | happened _ outcome happens => cases happens <;> rfl
  | answered n a rest _ first done => cases done <;> rfl
  | heard side failure rest ns first => exact (Relay.cancel_frame _ failure).2.2.2

lemma script_startPair (r : Relay Scripted) (status : BridgeStatus) :
    (r.startPair status).world.script = r.world.script := by
  obtain ⟨r₁, hs, -, -, hp⟩ := r.startPair_starts status
  have h₁ : r₁.world.script = r.world.script := by
    cases hs <;> rfl
  rw [← h₁]
  generalize r.startPair status = r₂ at hp
  cases hp <;> rfl

end Relay

namespace Bridge

/-- Both sessions are live. -/
structure WholePair {ω : Type} (b : Bridge ω) : Prop where
  live : ∀ side, b.relay.isLive side = true
  active : b.active = 2
  status : b.status = .running

/-- No session is live. -/
structure NoPair {ω : Type} (b : Bridge ω) : Prop where
  dead : ∀ side, b.relay.isLive side = false
  active : b.active = 0
  status : b.status = .idle ∨ b.status = .restarting ∨ b.status = .stopped

/-- With one session left its scope is cancelled. -/
lemma half_step {b : Bridge Scripted} (h : b.relay.Placed)
    (half : b.active = 1 → b.relay.isCancelled = true) (e : BridgeEvent Scripted.Event)
    (ha : (b.step Scripted.occur e).active = 1) :
    (b.step Scripted.occur e).relay.isCancelled = true := by
  have heard {side : Side} {failure : Failure} {rest : List Delivery}
      (first : b.relay.underway = .ended side failure :: rest) :
      (b.hear side failure rest).relay.isCancelled = true :=
    Relay.Placed.isCancelled_cancel ((h.of_ended first).note _) failure
  have ht := step_transition Scripted.occur b e
  generalize b.step Scripted.occur e = b' at ht ha
  cases ht with
  | still | refused | declined | signalled | interrupted | waited | completed => exact half ha
  | started | resumed => cases ha
  | cancelled signal reason => exact h.isCancelled_cancel reason
  | occurred event result => exact half ha
  | answered n a rest first => exact (Relay.isCancelled_answered (h.answered first)).trans (half ha)
  | guestAnswered => exact half ha
  | rejected side failure rest first => exact heard first
  | joinedStopped side failure rest run first => exact heard first
  | joinedFailed side failure rest run first => exact heard first

lemma script_kept {b : Bridge Scripted} (hb : b.Lifecycle) (h : b.relay.Placed)
    (e : BridgeEvent Scripted.Event) :
    (b.step Scripted.occur e).relay.world.script = b.relay.world.script := by
  cases relayStep hb h e with
  | within same step => exact Relay.script_step step
  | starts next nothing dead fresh =>
    rw [fresh]
    exact Relay.script_startPair _ .running

/-- What holds of a bridge whose streams honour the cancellation of their scope. -/
structure Obeyed (b : Bridge Scripted) : Prop where
  lifecycle : b.Lifecycle
  placed : b.relay.Placed
  honours : b.relay.world.script.Honours
  half : b.active = 1 → b.relay.isCancelled = true

lemma Obeyed.step {b : Bridge Scripted} (h : b.Obeyed) (e : BridgeEvent Scripted.Event) :
    (b.step Scripted.occur e).Obeyed :=
  ⟨h.lifecycle.step _ e, placed_step h.lifecycle h.placed e,
    script_kept h.lifecycle h.placed e ▸ h.honours, half_step h.placed h.half e⟩

/-- At rest there are two live sessions or none. -/
lemma Obeyed.whole_or_none {b : Bridge Scripted} (h : b.Obeyed) (hr : b.AtRest) :
    b.WholePair ∨ b.NoPair := by
  have hactive := h.lifecycle.active_of_atRest hr
  have hstatus := h.lifecycle.status
  unfold StatusFits at hstatus
  rcases hs : b.relay.isLive .subscribe <;> rcases hp : b.relay.isLive .publish
  · rw [hs, hp] at hactive
    refine Or.inr ⟨fun side => by cases side <;> assumption, hactive, ?_⟩
    rcases hb : b.status
    · exact Or.inl rfl
    · rw [hb] at hstatus
      have := hstatus.2.2
      simp [hactive] at this
    · exact Or.inr (Or.inl rfl)
    · exact Or.inr (Or.inr rfl)
  · have hone : b.active = 1 := by rw [hactive, hs, hp]; rfl
    have := h.placed.not_live_of_cancelled h.honours (h.half hone) hr .publish
    rw [hp] at this
    cases this
  · have hone : b.active = 1 := by rw [hactive, hs, hp]; rfl
    have := h.placed.not_live_of_cancelled h.honours (h.half hone) hr .subscribe
    rw [hs] at this
    cases this
  · rw [hs, hp] at hactive
    have hne : b.active ≠ 0 := by rw [hactive]; decide
    exact Or.inl ⟨fun side => by cases side <;> assumption, hactive,
      (h.lifecycle.running_of_active hne).1⟩

lemma isLive_turn {b : Bridge Scripted} {side : Side} (hl : b.relay.isLive side = false) :
    (b.step Scripted.occur .turn).relay.isLive side = false := by
  have heard {s : Side} {failure : Failure} {rest : List Delivery} :
      (b.hear s failure rest).relay.isLive side = false := by
    have hc := Relay.continues_cancel
      ({ b.relay with underway := rest }.note (.sessionEnded s failure)) failure
    refine (hc.live side).trans ?_
    cases side <;> exact hl
  have ht := step_transition Scripted.occur b .turn
  generalize b.step Scripted.occur .turn = b' at ht
  cases ht with
  | still => exact hl
  | answered n a rest first =>
    have hu : { b.relay with underway := rest }.isLive side = false := by
      cases side <;> exact hl
    rcases Relay.answer_continues_or_ends { b.relay with underway := rest } a with hr | ⟨s, hr⟩
    · exact (hr.live side).trans hu
    · by_cases he : side = s
      · rw [he]
        exact hr.dead
      · exact (hr.live side he).trans hu
  | guestAnswered => cases side <;> exact hl
  | rejected side failure rest first => exact heard
  | joinedStopped => exact heard
  | joinedFailed => exact heard

lemma isLive_turns {b : Bridge Scripted} {side : Side} (hl : b.relay.isLive side = false) (n : Nat) :
    (b.after Scripted.occur (List.replicate n .turn)).relay.isLive side = false := by
  induction n generalizing b with
  | zero => exact hl
  | succ n ih =>
    change ((b.step Scripted.occur .turn).after Scripted.occur _).relay.isLive side = false
    exact ih (isLive_turn hl)

/-- When streams honour the cancellation of their scope, every run comes to rest with both sessions
live or with none; and once one session has ended, deliveries alone end the other. -/
theorem cancellation_reaches_sibling (script : Script) (honours : script.Honours)
    (request : SubscribeRequest) (metadata : Option Login) (policy : Backoff.Policy)
    (timer : Backoff.Timer)
    (events : List (BridgeEvent Scripted.Event)) :
    let b := (create { script } request metadata policy timer).after Scripted.occur events
    (b.AtRest → b.WholePair ∨ b.NoPair) ∧
      b.settle.AtRest ∧ (b.settle.WholePair ∨ b.settle.NoPair) ∧
      ∀ side, b.relay.isLive side = false → b.settle.NoPair := by
  intro b
  have reach (es : List (BridgeEvent Scripted.Event)) :
      ((create { script } request metadata policy timer).after Scripted.occur es).Obeyed :=
    after_induction (fun _ e h => h.step e)
      ⟨lifecycle_create _ request metadata policy timer,
        placed_create script request metadata policy timer,
        honours, fun h => by cases h⟩ es
  have hb : b.Obeyed := reach events
  have hsettle : b.settle = b.after Scripted.occur (List.replicate b.relay.work .turn) :=
    turns_eq_after Scripted.occur b.relay.work b
  have hrest : b.settle.AtRest := atRest_settle hb.lifecycle hb.placed
  have hafter : b.settle.Obeyed := by
    rw [hsettle, ← after_append]
    exact reach _
  have hpair := hafter.whole_or_none hrest
  refine ⟨hb.whole_or_none, hrest, hpair, fun side hl => ?_⟩
  have hdead : b.settle.relay.isLive side = false := by
    rw [hsettle]
    exact isLive_turns hl _
  rcases hpair with hw | hn
  · rw [hw.live side] at hdead
    cases hdead
  · exact hn

/-- A stream that breaks while its sibling waits for an update takes the sibling with it. -/
theorem broken_stream_ends_publish_session :
    let b := (create ({ script := {} } : Scripted) ⟨"", []⟩ none fun _ _ => .ofNat 0).after
      Scripted.occur [.start ⟨0, none, none⟩, .endpoint .requestOk, .turn,
        .endpoint (.arrive [.failure "boom"]), .turn]
    b.relay.isLive .subscribe = false ∧ b.relay.isLive .publish = true ∧ b.settle.NoPair :=
  ⟨by decide, by decide,
    (cancellation_reaches_sibling {} ⟨rfl, rfl⟩ _ _ _ _ _).2.2.2 .subscribe (by decide)⟩

end Bridge

end TelemetryBridge
