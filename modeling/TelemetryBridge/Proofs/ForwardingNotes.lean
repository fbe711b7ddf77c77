import TelemetryBridge.Proofs.Lifecycle

/-!
# Notes of forwarded updates

The count of forwarded updates goes with the history: an event adds as many notes of forwarding as it
adds to the count, and none without a publish session.
-/

namespace TelemetryBridge

/-- Whether a note says that an update has been forwarded. -/
def Note.isForwarding : Note → Bool
  | publisherAsked (.forwarded _) => true
  | _ => false

namespace Relay

variable {ω : Type} {r r' r'' : Relay ω} {k k' : Nat}

/-- From the first relay to the second some updates are forwarded, and the history tells of each. -/
structure Forwards (k : Nat) (r r' : Relay ω) : Prop where
  count : r'.forwarded = r.forwarded + k
  notes : r'.history.countP Note.isForwarding = r.history.countP Note.isForwarding + k

lemma Forwards.refl (r : Relay ω) : r.Forwards 0 r := ⟨rfl, rfl⟩

lemma Forwards.trans (h : r.Forwards k r') (h' : r'.Forwards k' r'') :
    r.Forwards (k + k') r'' :=
  ⟨by rw [h'.count, h.count, Nat.add_assoc], by rw [h'.notes, h.notes, Nat.add_assoc]⟩

/-- A step that forwards nothing behind one that may. -/
lemma Forwards.still (h : r.Forwards k r') (h' : r'.Forwards 0 r'') : r.Forwards k r'' := h.trans h'

lemma Forwards.note (h : r.Forwards k r') {n : Note} (hn : n.isForwarding = false) :
    r.Forwards k (r'.note n) := by
  refine ⟨h.count, ?_⟩
  simp [Relay.note, h.notes, hn]

lemma forwards_underway (r : Relay ω) (ds : List Delivery) :
    r.Forwards 0 { r with underway := ds } := ⟨rfl, rfl⟩

lemma forwards_withWorld (r : Relay ω) (result : List Answer × ω) :
    r.Forwards 0 (r.withWorld result) := ⟨rfl, rfl⟩

lemma forwards_withHandoff (r : Relay ω)
    (result : Handoff Party Scope Update × List (Party × CallOutcome Update)) :
    r.Forwards 0 (r.withHandoff result) := ⟨rfl, rfl⟩

lemma forwards_noteOpening (r : Relay ω) (side : Side) (result : Except Failure Unit) :
    r.Forwards 0 (r.noteOpening side result) := by
  cases result with
  | ok => exact (Forwards.refl r).note rfl
  | error => exact .refl r

section

variable [Endpoints ω]

lemma forwards_cancel (r : Relay ω) (reason : Failure) : r.Forwards 0 (r.cancel reason) := by
  unfold cancel
  split
  · exact .refl r
  · exact (forwards_withWorld r _).still (forwards_withHandoff _ _)

lemma forwards_obeySubscriber (r : Relay ω) (command : SubscribeSession.Command) :
    r.Forwards 0 (r.obeySubscriber command) := by
  have hnoted : r.Forwards 0 (r.note (.subscriberAsked command)) := (Forwards.refl r).note rfl
  cases command with
  | offer update => exact hnoted.still (forwards_withHandoff _ _)
  | noteRequestSent => exact hnoted.note rfl
  | sendRequest | receive | close => exact hnoted.still (forwards_withWorld _ _)

/-- How many updates the commands of a publish session say have been forwarded. -/
def forwardedBy (commands : List PublishSession.Command) : Nat :=
  commands.countP fun command => (Note.publisherAsked command).isForwarding

lemma forwards_obeyPublisher (r : Relay ω) (command : PublishSession.Command) :
    r.Forwards (forwardedBy [command]) (r.obeyPublisher command) := by
  cases command with
  | forwarded update =>
    refine ⟨rfl, ?_⟩
    simp [obeyPublisher, carryOutPublisher, Relay.note, forwardedBy, Note.isForwarding]
  | take => exact ((Forwards.refl r).note rfl).still (forwards_withHandoff _ _)
  | noteOpened => exact ((Forwards.refl r).note rfl).note rfl
  | send | close => exact ((Forwards.refl r).note rfl).still (forwards_withWorld _ _)

lemma forwards_moveSubscriber (r : Relay ω)
    (next : SubscribeSession.Phase × List SubscribeSession.Command) :
    r.Forwards 0 (r.moveSubscriber next) := by
  have hobeyed : ∀ (commands : List SubscribeSession.Command) (r' : Relay ω),
      r'.Forwards 0 (commands.foldl obeySubscriber r') := by
    intro commands
    induction commands with
    | nil => exact .refl
    | cons command commands ih =>
      exact fun r' => (forwards_obeySubscriber r' command).still (ih _)
  have hmoved := hobeyed next.2 { r with subscriber := some next.1 }
  unfold moveSubscriber
  dsimp only
  split
  · exact ⟨hmoved.count, hmoved.notes⟩
  · exact ⟨hmoved.count, hmoved.notes⟩

lemma forwards_movePublisher (r : Relay ω)
    (next : PublishSession.Phase × List PublishSession.Command) :
    r.Forwards (forwardedBy next.2) (r.movePublisher next) := by
  have hobeyed : ∀ (commands : List PublishSession.Command) (r' : Relay ω),
      r'.Forwards (forwardedBy commands) (commands.foldl obeyPublisher r') := by
    intro commands
    induction commands with
    | nil => exact .refl
    | cons command commands ih =>
      intro r'
      have hsplit : forwardedBy (command :: commands) =
          forwardedBy [command] + forwardedBy commands := by
        rw [← List.singleton_append, forwardedBy, List.countP_append]
        rfl
      rw [hsplit]
      exact (forwards_obeyPublisher r' command).trans (ih _)
  have hmoved := hobeyed next.2 { r with publisher := some next.1 }
  unfold movePublisher
  dsimp only
  split
  · exact ⟨hmoved.count, hmoved.notes⟩
  · exact ⟨hmoved.count, hmoved.notes⟩

lemma forwards_startSubscriber (r : Relay ω) : r.Forwards 0 r.startSubscriber := by
  unfold startSubscriber
  split
  · exact forwards_moveSubscriber r _
  · have hopened := forwards_noteOpening
      { r with world := (Endpoints.openSubscribe r.metadata r.world).2 } .subscribe
      (Endpoints.openSubscribe r.metadata r.world).1
    have hmoved := hopened.still (forwards_moveSubscriber _
      (SubscribeSession.opened (Endpoints.openSubscribe r.metadata r.world).1))
    exact ⟨hmoved.count, hmoved.notes⟩

lemma forwards_startPublisher (r : Relay ω) : r.Forwards 0 r.startPublisher := by
  unfold startPublisher
  split
  · next reason _ => exact forwards_movePublisher r (PublishSession.refused reason, [])
  · have hnone : ∀ result, forwardedBy (PublishSession.opened result).2 = 0 := by
      rintro (_ | _) <;> rfl
    have hopened := forwards_noteOpening { r with world := (Endpoints.openPublish r.world).2 }
      .publish (Endpoints.openPublish r.world).1
    have hmoved := hopened.trans
      (forwards_movePublisher _ (PublishSession.opened (Endpoints.openPublish r.world).1))
    rw [hnone] at hmoved
    exact ⟨hmoved.count, hmoved.notes⟩

lemma forwards_startPair (r : Relay ω) (status : BridgeStatus) :
    r.Forwards 0 (r.startPair status) := by
  have hfresh : r.Forwards 0 r.fresh := ⟨rfl, rfl⟩
  have hopening := hfresh.note (n := .opening .subscribe 2 status) rfl
  exact ((hopening.still (forwards_startSubscriber _)).note rfl).still (forwards_startPublisher _)

/-- Only a publish session that has not ended can forward what an answer tells it. -/
lemma forwards_answer (r : Relay ω) (a : Answer) :
    ∃ k, r.Forwards k (r.answer a) ∧ (r.isLive .publish = false → k = 0) := by
  cases a with
  | subscriber reply =>
    refine ⟨0, ?_, fun _ => rfl⟩
    unfold answer
    dsimp only
    split
    · exact .refl r
    · exact .refl r
    · exact ((Forwards.refl r).note rfl).still (forwards_moveSubscriber _ _)
  | publisher reply =>
    rcases hlive : r.isLive .publish
    · rw [answer_publisher_of_not_live hlive]
      exact ⟨0, .refl r, fun _ => rfl⟩
    · obtain ⟨phase, hphase, hl⟩ := exists_of_isLive_publish hlive
      rw [answer_publisher_of_live hphase hl]
      exact ⟨_, ((Forwards.refl r).note rfl).trans (forwards_movePublisher _ _), nofun⟩
  | later a => exact ⟨0, ⟨rfl, rfl⟩, fun _ => rfl⟩

end

end Relay

namespace Bridge

variable {ω ε : Type} {b : Bridge ω}

/-- The count of forwarded updates is that of the history. -/
def Reckoned (b : Bridge ω) : Prop :=
  b.relay.forwarded = b.relay.history.countP Note.isForwarding

variable [Endpoints ω]

lemma forwards_startAttempt (b : Bridge ω) (run : BridgeRun) :
    b.relay.Forwards 0 (b.startAttempt run).relay := by
  have hnoted : b.relay.Forwards 0 (b.relay.note (.log (.attemptStarted (b.attempts + 1)))) :=
    (Relay.Forwards.refl _).note rfl
  exact hnoted.still (Relay.forwards_startPair _ .running)

lemma forwards_hear (b : Bridge ω) (side : Side) (failure : Failure) (rest : List Delivery) :
    b.relay.Forwards 0 (b.hear side failure rest).relay := by
  have hnoted : b.relay.Forwards 0
      ({ b.relay with underway := rest }.note (.sessionEnded side failure)) :=
    (b.relay.forwards_underway rest).note rfl
  exact hnoted.still (Relay.forwards_cancel _ failure)

/-- An event tells of every update that it forwards, and without a publish session forwards none. -/
theorem forwards_step (occur : ε → ω → Option (List Answer × ω)) (b : Bridge ω)
    (e : BridgeEvent ε) : ∃ k, b.relay.Forwards k (b.step occur e).relay ∧
      (b.relay.isLive .publish = false → k = 0) := by
  have ht := step_transition occur b e
  generalize b.step occur e = b' at ht ⊢
  cases ht with
  | answered number a rest first =>
    obtain ⟨k, hk, hdead⟩ := Relay.forwards_answer { b.relay with underway := rest } a
    exact ⟨k, ⟨hk.count, hk.notes⟩, hdead⟩
  | still | signalled | waited => exact ⟨0, .refl _, fun _ => rfl⟩
  | refused => exact ⟨0, (Relay.Forwards.refl b.relay).note rfl, fun _ => rfl⟩
  | guestAnswered number outcome rest =>
    exact ⟨0, (b.relay.forwards_underway rest).note rfl, fun _ => rfl⟩
  | started run => exact ⟨0, forwards_startAttempt b run, fun _ => rfl⟩
  | resumed duration run =>
    exact ⟨0, forwards_startAttempt { b with clock := b.clock + duration } run, fun _ => rfl⟩
  | declined run | interrupted signal reason run | completed duration run =>
    exact ⟨0, ((Relay.Forwards.refl b.relay).note rfl).note rfl, fun _ => rfl⟩
  | cancelled signal reason => exact ⟨0, Relay.forwards_cancel _ reason, fun _ => rfl⟩
  | occurred event result => exact ⟨0, Relay.forwards_withWorld _ result, fun _ => rfl⟩
  | rejected side failure rest => exact ⟨0, forwards_hear b side failure rest, fun _ => rfl⟩
  | joinedStopped side failure rest | joinedFailed side failure rest =>
    exact ⟨0, ((forwards_hear b side failure rest).note rfl).note rfl, fun _ => rfl⟩

/-- Every event keeps the count in line with the history. -/
theorem Reckoned.step (h : b.Reckoned) (occur : ε → ω → Option (List Answer × ω))
    (e : BridgeEvent ε) : (b.step occur e).Reckoned := by
  obtain ⟨k, hk, -⟩ := forwards_step occur b e
  unfold Reckoned at h ⊢
  rw [hk.count, hk.notes, h]

end Bridge

end TelemetryBridge
