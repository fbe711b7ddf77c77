import TelemetryBridge.Proofs.Conservation
import TelemetryBridge.Proofs.Progress

/-!
# The counts agree with the streams

Over scripted streams every attempt tries to open each stream once, and the updates forwarded are those
that the collector has accepted. `Bridge.Audited` collects what holds of a run and its ledgers.
-/

namespace TelemetryBridge

/-! ## What the streams have seen -/

namespace Relay

variable {r r' : Relay Scripted} {put : List Update}

/-- Replies underway which say that the collector has accepted an update. -/
def acceptances (r : Relay Scripted) : Nat := r.publisherReplies.countP (·.isAccepted)

lemma acceptances_congr (hr : r'.publisherReplies = r.publisherReplies) :
    r'.acceptances = r.acceptances := by
  rw [acceptances, acceptances, hr]

/-- The updates forwarded are those accepted, but for those of which the news is underway. -/
def Tallied (r : Relay Scripted) : Prop :=
  r.forwarded + r.acceptances = r.world.accepted.length

lemma Tallied.of_same (h : r.Tallied) (forwarded : r'.forwarded = r.forwarded)
    (acceptances : r'.acceptances = r.acceptances)
    (accepted : r'.world.accepted = r.world.accepted) : r'.Tallied := by
  unfold Tallied
  rw [forwarded, acceptances, accepted]
  exact h

lemma Tallied.answered_subscriber {n : Nat} {reply : SubscribeSession.Reply} {rest : List Delivery}
    (h : r.Tallied) (hu : r.underway = .answer n (.subscriber reply) :: rest)
    (ha : Answered { r with underway := rest } (.subscriber reply) r') : r'.Tallied := by
  have hr : r.publisherReplies = rest.filterMap Delivery.publisherReply? :=
    (publisherReplies_of hu).trans rfl
  refine h.of_same ?_ ?_ ?_
  · cases ha <;> rfl
  · unfold acceptances
    rw [hr]
    -- An update that goes through the hand-off is not accepted yet.
    cases ha <;> simp [publisherReplies, PublishSession.Reply.isAccepted]
  · cases ha <;> rfl

lemma Tallied.answered_publisher {n : Nat} {reply : PublishSession.Reply} {rest : List Delivery}
    (h : r.Tallied) (hu : r.underway = .answer n (.publisher reply) :: rest)
    (ha : Answered { r with underway := rest } (.publisher reply) r') : r'.Tallied := by
  have hr : r.publisherReplies = reply :: rest.filterMap Delivery.publisherReply? :=
    publisherReplies_of hu
  unfold Tallied acceptances at h ⊢
  rw [hr] at h
  cases ha with
  | publisherEnds phase _ ns failure current fails told =>
    cases fails <;>
      simpa [publisherReplies, PublishSession.Reply.isAccepted, List.filterMap_cons] using h
  | _ =>
    simp [publisherReplies, PublishSession.Reply.isAccepted, List.filterMap_cons] at h ⊢
    omega

/-- A cancellation neither forwards an update nor opens a stream. -/
lemma cancel_counts (r : Relay Scripted) (reason : Failure) :
    (r.cancel reason).forwarded = r.forwarded ∧
      (r.cancel reason).world.subscribeCalls = r.world.subscribeCalls ∧
      (r.cancel reason).world.publishCalls = r.world.publishCalls := by
  unfold cancel
  split
  · exact ⟨rfl, rfl, rfl⟩
  · refine ⟨rfl, ?_⟩
    change (Scripted.cancel r.world).2.subscribeCalls = _ ∧
      (Scripted.cancel r.world).2.publishCalls = _
    rw [Scripted.cancel_eq]
    exact ⟨rfl, rfl⟩

lemma Placed.tallied_cancel (hp : r.Placed) (h : r.Tallied) (reason : Failure) :
    (r.cancel reason).Tallied := by
  obtain ⟨fails, hf, hr⟩ := hp.cancel_replies reason
  have hzero : fails.countP (·.isAccepted) = 0 :=
    List.countP_eq_zero.mpr fun reply hm => by simp [(hf reply hm).1]
  refine h.of_same (r.cancel_counts reason).1 ?_ (r.cancel_frame reason).2.2.1
  unfold acceptances
  rw [hr, List.countP_append, hzero, Nat.add_zero]

lemma Tallied.happens (h : r.Tallied) {outcome : List Answer × Scripted}
    (ho : r.world.Happens put outcome) : (r.withWorld outcome).Tallied := by
  unfold Tallied acceptances at h ⊢
  cases ho <;>
    simp [withWorld, post, publisherReplies, PublishSession.Reply.isAccepted,
      List.filterMap_cons] at h ⊢ <;>
    omega

/-- Every step of an attempt keeps the tally. -/
theorem Placed.tallied_step (hp : r.Placed) (h : r.Tallied) (hs : r.Step put r') : r'.Tallied := by
  cases hs with
  | noted ns told => exact h
  | cancelled reason => exact hp.tallied_cancel h reason
  | happened _ outcome happens => exact h.happens happens
  | answered n a rest _ first done =>
    cases a with
    | subscriber reply => exact h.answered_subscriber first done
    | publisher reply => exact h.answered_publisher first done
    | later a => cases done
  | heard side failure rest ns first told =>
    have hreplies : { r with underway := rest }.publisherReplies = r.publisherReplies :=
      (publisherReplies_of first).symm
    have hrest : { r with underway := rest }.Tallied :=
      h.of_same rfl (acceptances_congr hreplies) rfl
    exact (hp.of_ended first).tallied_cancel hrest failure

/-- At rest the collector has accepted what is forwarded. -/
lemma Tallied.forwarded_of_atRest (h : r.Tallied) (hu : r.underway = []) :
    r.forwarded = r.world.accepted.length := by
  have hnone : r.acceptances = 0 := by
    unfold acceptances
    rw [publisherReplies_of hu]
    rfl
  unfold Tallied at h
  rwa [hnone, Nat.add_zero] at h

/-- Without a publish session nothing is underway to one. -/
lemma Placed.forwarded_of_dead (hp : r.Placed) (h : r.Tallied) (hd : r.isLive .publish = false) :
    r.forwarded = r.world.accepted.length := by
  have hnone : r.acceptances = 0 := by
    unfold acceptances
    rw [(hp.publisher.of_not_live hd).1]
    rfl
  unfold Tallied at h
  rwa [hnone, Nat.add_zero] at h

lemma Placed.tallied_startPair (hp : r.Placed) (h : r.Tallied)
    (hd : ∀ side, r.isLive side = false) (status : BridgeStatus) : (r.startPair status).Tallied := by
  obtain ⟨hsr, -⟩ := hp.subscriber.of_not_live (hd .subscribe)
  obtain ⟨hpr, -⟩ := hp.publisher.of_not_live (hd .publish)
  obtain ⟨-, haccepted⟩ := r.startPair_silent status
  obtain ⟨r₁, hs, -, -, hp'⟩ := r.startPair_starts status
  obtain ⟨hreplies, -⟩ := hs.empty hsr hpr
  have hforwarded : r₁.forwarded = r.forwarded := by cases hs <;> rfl
  generalize r.startPair status = r₂ at haccepted hp'
  refine h.of_same (Eq.trans ?_ hforwarded) (acceptances_congr (Eq.trans ?_ hpr.symm)) haccepted
  · cases hp' <;> rfl
  · replace hreplies : (r₁.note (.opening .publish 2 status)).publisherReplies = [] := hreplies
    cases hp' <;> simpa [publisherReplies] using hreplies

lemma calls_step (hs : r.Step put r') : r'.world.subscribeCalls = r.world.subscribeCalls ∧
    r'.world.publishCalls = r.world.publishCalls := by
  cases hs with
  | noted ns => exact ⟨rfl, rfl⟩
  | cancelled reason => exact (r.cancel_counts reason).2
  | happened _ outcome happens => cases happens <;> exact ⟨rfl, rfl⟩
  | answered n a rest _ first done => cases done <;> exact ⟨rfl, rfl⟩
  | heard side failure rest ns first => exact (cancel_counts _ failure).2

/-- An attempt tries to open each stream once. -/
lemma calls_startPair (r : Relay Scripted) (status : BridgeStatus) :
    (r.startPair status).world.subscribeCalls = r.world.subscribeCalls + 1 ∧
      (r.startPair status).world.publishCalls = r.world.publishCalls + 1 := by
  obtain ⟨r₁, hs, -, -, hp⟩ := r.startPair_starts status
  have h₁ : r₁.world.subscribeCalls = r.world.subscribeCalls + 1 ∧
      r₁.world.publishCalls = r.world.publishCalls := by
    cases hs <;> exact ⟨rfl, rfl⟩
  rw [← h₁.1, ← h₁.2]
  generalize r.startPair status = r₂ at hp
  cases hp <;> exact ⟨rfl, rfl⟩

end Relay

/-! ## Counts and ledgers -/

namespace Chronicle

/-- How many updates the collector has accepted in an attempt. -/
def acceptedIn (c : Chronicle Ledger) (attempt : Nat) : Nat :=
  c.all[attempt]?.elim 0 (·.accepted.length)

lemma acceptedIn_current (c : Chronicle Ledger) :
    c.acceptedIn c.past.length = c.current.accepted.length := by
  simp [acceptedIn, all]

end Chronicle

namespace Bridge

/-- The counts of a bridge agree with its streams and its ledgers. -/
structure Counted (b : Bridge Scripted) (c : Chronicle Ledger) : Prop where
  subscribed : b.relay.world.subscribeCalls = b.attempts
  published : b.relay.world.publishCalls = b.attempts
  tallied : b.relay.Tallied
  before : b.forwardedBefore = (c.past.flatMap (·.accepted)).length

/-- What holds of every run and its ledgers. -/
structure Audited (b : Bridge Scripted) (c : Chronicle Ledger) : Prop where
  lifecycle : b.Lifecycle
  placed : b.relay.Placed
  conserves : b.Conserves c
  counted : b.Counted c

variable {b : Bridge Scripted} {c : Chronicle Ledger}

/-- In an attempt without a publish session no update is accepted. -/
lemma Audited.accepted_of_dead (h : b.Audited c) {e : BridgeEvent Scripted.Event}
    (same : (b.step Scripted.occur e).attempts = b.attempts)
    (dead : (b.step Scripted.occur e).relay.isLive .publish = false) :
    (b.step Scripted.occur e).relay.world.accepted = b.relay.world.accepted := by
  cases relayStep h.lifecycle h.placed e with
  | within _ step =>
    obtain ⟨offered, accepted, hf⟩ := h.placed.flow step
    rw [hf.accepts, (hf.silent dead).2, List.append_nil]
  | starts next => omega

/-- The ledger of an attempt is final once its publish session has ended. -/
lemma Audited.acceptedIn_update (h : b.Audited c) (e : BridgeEvent Scripted.Event) {k : Nat}
    (hk : k ≤ b.attempts)
    (final : k = b.attempts → (b.step Scripted.occur e).attempts = b.attempts →
      (b.step Scripted.occur e).relay.isLive .publish = false) :
    (ledgerRecorder.update b e (b.step Scripted.occur e) c).acceptedIn k = c.acceptedIn k := by
  rw [← h.conserves.length] at hk final
  unfold Recorder.update
  split
  · next same =>
    rcases Nat.lt_or_eq_of_le hk with hlt | rfl
    · simp [Chronicle.acceptedIn, Chronicle.all, List.getElem?_append_left hlt]
    · have haccepted := h.accepted_of_dead same (final rfl (same.trans h.conserves.length.symm))
      rw [Chronicle.acceptedIn_current c]
      refine (Chronicle.acceptedIn_current _).trans ?_
      simp [ledgerRecorder, haccepted]
  · have hlt : k < (c.past ++ [c.current]).length := by
      rw [List.length_append]
      exact Nat.lt_succ_of_le hk
    unfold Chronicle.acceptedIn Chronicle.all
    rw [List.getElem?_append_left hlt]

lemma Audited.counted_step (h : b.Audited c) (e : BridgeEvent Scripted.Event) :
    (b.step Scripted.occur e).Counted (ledgerRecorder.update b e (b.step Scripted.occur e) c) := by
  have hprogress := h.lifecycle.progress Scripted.occur e
  cases relayStep h.lifecycle h.placed e with
  | within same step =>
    obtain ⟨hsub, hpub⟩ := Relay.calls_step step
    have hbefore : (b.step Scripted.occur e).forwardedBefore = b.forwardedBefore := by
      cases hprogress with
      | begins run cause more rested next => omega
      | goesOn _ _ before | fails _ _ _ _ _ before | ends _ _ _ _ _ before => exact before
    refine ⟨?_, ?_, h.placed.tallied_step h.counted.tallied step, ?_⟩
    · rw [hsub, same, h.counted.subscribed]
    · rw [hpub, same, h.counted.published]
    · rw [hbefore, h.counted.before, Recorder.update, if_pos same]
  | starts next nothing dead fresh =>
    have hnoted := h.placed.note (.log (.attemptStarted (b.attempts + 1)))
    obtain ⟨hsub, hpub⟩ := Relay.calls_startPair
      (b.relay.note (.log (.attemptStarted (b.attempts + 1)))) .running
    have hdead : ∀ side,
        (b.relay.note (.log (.attemptStarted (b.attempts + 1)))).isLive side = false := by
      intro side
      rw [← dead side]
      cases side <;> rfl
    have hbefore : (b.step Scripted.occur e).forwardedBefore = b.relay.forwarded := by
      cases hprogress with
      | begins _ _ _ _ _ _ before => exact before
      | goesOn same | fails _ _ _ same | ends _ _ _ same => omega
    refine ⟨?_, ?_, ?_, ?_⟩
    · rw [fresh, hsub, next, ← h.counted.subscribed]
      rfl
    · rw [fresh, hpub, next, ← h.counted.published]
      rfl
    · rw [fresh]
      exact hnoted.tallied_startPair h.counted.tallied hdead .running
    · rw [hbefore, h.placed.forwarded_of_dead h.counted.tallied (dead .publish),
        ← h.conserves.accepted, Recorder.update, if_neg (by omega)]
      rfl

/-- What is kept of a run and its ledgers by every event. -/
lemma Audited.step (h : b.Audited c) (e : BridgeEvent Scripted.Event) :
    (b.step Scripted.occur e).Audited
      (ledgerRecorder.update b e (b.step Scripted.occur e) c) :=
  ⟨h.lifecycle.step _ e, placed_step h.lifecycle h.placed e,
    h.conserves.step h.lifecycle h.placed e, h.counted_step e⟩

lemma audited_follow (script : Script) (request : SubscribeRequest) (metadata : Option Login)
    (policy : Backoff.Policy) (timer : Backoff.Timer) (events : List (BridgeEvent Scripted.Event)) :
    let s :=
      ledgerRecorder.follow Scripted.occur (create { script } request metadata policy timer) events
    s.1.Audited s.2 :=
  Recorder.follow_induction (fun _ e _ h => h.step e)
    ⟨lifecycle_create _ request metadata policy timer,
      placed_create script request metadata policy timer,
      conserves_create script request metadata policy timer, ⟨rfl, rfl, rfl, rfl⟩⟩ events

/-- The updates forwarded in an attempt whose publish session has ended. -/
lemma Audited.forwarded_in_attempt (h : b.Audited c) (dead : b.relay.isLive .publish = false) :
    b.relay.forwarded - b.forwardedBefore = c.current.accepted.length := by
  rw [h.placed.forwarded_of_dead h.counted.tallied dead, ← h.conserves.accepted, h.counted.before]
  simp [Chronicle.all]

end Bridge

end TelemetryBridge
