import TelemetryBridge.Proofs.UpdateFlow

/-!
# Updates are conserved

A ledger of the updates of each attempt: those that the target puts on its stream, those that are
offered to the collector and those that the collector accepts. None is lost, doubled, reordered or
carried over into the next attempt: what is accepted comes first in what is offered, what is offered
comes first in what is put, and at rest the difference is where a call is blocked.
-/

namespace TelemetryBridge

/-- The updates of an attempt. -/
structure Ledger where
  /-- Put on the stream by the target. -/
  put : List Update := []
  /-- Offered to the stream of the collector. -/
  offered : List Update := []
  /-- Accepted by the collector. -/
  accepted : List Update := []

/-- Records the updates of each attempt. -/
def ledgerRecorder : Recorder Scripted Scripted.Event Ledger where
  blank := {}
  record b e b' L :=
    { put := L.put ++ b.putBy e
      offered := L.offered ++ (b'.relay.history.drop b.relay.history.length).filterMap Note.offer?
      accepted := L.accepted ++ b'.relay.world.accepted.drop b.relay.world.accepted.length }

lemma ledger_record {b b' : Bridge Scripted} {ns : List Note} {offered accepted : List Update}
    (hn : b'.relay.history = b.relay.history ++ ns) (ho : Note.Offers offered ns)
    (ha : b'.relay.world.accepted = b.relay.world.accepted ++ accepted)
    (e : BridgeEvent Scripted.Event) (L : Ledger) : ledgerRecorder.record b e b' L =
      ⟨L.put ++ b.putBy e, L.offered ++ offered, L.accepted ++ accepted⟩ := by
  unfold Note.Offers at ho
  simp [ledgerRecorder, hn, ha, ho]

namespace Relay

/-- The update whose send to the collector is blocked. -/
def sending (r : Relay Scripted) : Option Update := r.world.publish.bind (·.sending)

/-- The call that is blocked on the stream to the target. -/
def blocked (r : Relay Scripted) : Option BlockedCall := r.world.subscribe.bind (·.blocked)

/-- The ledger of an attempt tells where its updates are. -/
structure Conserved (r : Relay Scripted) (L : Ledger) : Prop where
  -- `accepts` and `takes` are all that is left of the other two when the session of a side has ended.
  accepts : L.accepted <+: L.offered
  sends : r.isLive .publish = true → L.offered = L.accepted ++ r.unaccepted
  takes : L.offered ++ r.taken <+: L.put
  moves : r.isLive .subscribe = true → r.isCancelled = false → L.put = L.offered ++ r.between

variable {r r' : Relay Scripted} {put offered accepted : List Update} {L : Ledger}

lemma Conserved.flow (h : r.Conserved L) (hf : r.Flow put r' offered accepted) :
    r'.Conserved ⟨L.put ++ put, L.offered ++ offered, L.accepted ++ accepted⟩ := by
  have hsends : r'.isLive .publish = true →
      L.offered ++ offered = L.accepted ++ accepted ++ r'.unaccepted := by
    intro hl
    obtain ⟨hlive, heq⟩ := hf.sends hl
    rw [h.sends hlive, List.append_assoc, heq, List.append_assoc]
  have hmoves : r'.isLive .subscribe = true → r'.isCancelled = false →
      L.put ++ put = L.offered ++ offered ++ r'.between := by
    intro hl hc
    obtain ⟨hlive, hgoing, heq⟩ := hf.moves hl hc
    rw [h.moves hlive hgoing, List.append_assoc, heq, List.append_assoc]
  refine ⟨?_, hsends, ?_, hmoves⟩
  · by_cases hl : r'.isLive .publish = true
    · rw [hsends hl]
      exact List.prefix_append _ _
    · obtain ⟨ho, ha⟩ := hf.silent (Bool.eq_false_iff.mpr hl)
      rw [ho, ha, List.append_nil, List.append_nil]
      exact h.accepts
  · rcases hf.takes with ht | ⟨hl, hc⟩
    · have hput : L.offered ++ (offered ++ r'.taken) <+: L.put := ht ▸ h.takes
      rw [List.append_assoc]
      exact hput.trans (List.prefix_append _ _)
    · -- The line as it is after the step begins with what the publish session takes.
      rw [hmoves hl hc]
      unfold between
      rw [← List.append_assoc]
      exact List.prefix_append _ _

/-- At rest an update waits only where a call is blocked. -/
lemma Placed.at_rest (h : r.Placed) (hu : r.underway = []) (hl : ∀ side, r.isLive side = true) :
    r.between = r.offers ++ StreamItem.updates r.queue ∧ r.unaccepted = r.sending.toList ∧
      r.offers.length ≤ 1 ∧ (r.offers ≠ [] → r.sending.isSome) ∧
      (r.queue ≠ [] → r.blocked = some .send ∨ r.offers ≠ []) := by
  have hsr : r.subscriberReplies = [] := subscriberReplies_of hu
  have hpr : r.publisherReplies = [] := publisherReplies_of hu
  have hs := h.subscriber
  have hp := h.publisher
  rw [hsr] at hs
  rw [hpr] at hp
  obtain ⟨c, hc⟩ := h.channel
  refine ⟨?_, ?_, ?_, ?_, fun hq => ?_⟩
  · unfold between taken received
    rw [hsr, hpr]
    rfl
  · unfold unaccepted sending
    rcases hp.of_quiet (hl .publish) with ⟨hphase, hfree, -⟩ | ⟨update, hphase, hblocked⟩
    · rw [hphase, hfree]
      rfl
    · rw [hphase, hblocked, hpr]
      rfl
  · unfold offers
    rw [hc]
    cases c <;> simp [Channel.handoff]
  · unfold offers sending
    rcases hp.of_quiet (hl .publish) with ⟨-, -, hasking⟩ | ⟨update, -, hblocked⟩
    · rw [hc] at hasking ⊢
      cases c with
      | asking => simp [Channel.handoff]
      | idle | offering | closed => cases hasking
    · rw [hblocked]
      exact fun _ => rfl
  · rcases hs.of_quiet (hl .subscribe) with hblocked | hdrained | hoffers
    · exact Or.inl hblocked
    · exact absurd hdrained hq
    · exact Or.inr hoffers

/-! ## The start of an attempt -/

lemma SubscriberStarts.empty (h : SubscriberStarts r r') (hs : r.subscriberReplies = [])
    (hp : r.publisherReplies = []) : r'.publisherReplies = [] ∧
      (r'.isLive .subscribe = true → r'.received = [] ∧ r'.queue = []) := by
  unfold subscriberReplies at hs
  unfold publisherReplies at hp
  cases h with
  | failed failure =>
    refine ⟨?_, fun hl => ?_⟩
    · simp [publisherReplies, hp]
    · cases hl
  | requested ns told =>
    refine ⟨?_, fun _ => ⟨?_, rfl⟩⟩
    · simp [publisherReplies, hp]
    · simp [received, subscriberReplies, hs, SubscribeSession.Reply.update?]
  | requests ns told =>
    refine ⟨hp, fun _ => ⟨?_, rfl⟩⟩
    simp [received, subscriberReplies, hs]

lemma PublisherStarts.empty (h : PublisherStarts r r') (hp : r.publisherReplies = [])
    (ho : r.offers = []) : r'.taken = [] ∧ r'.offers = [] ∧ r'.unaccepted = [] ∧
      r'.received = r.received ∧ r'.queue = r.queue ∧ r'.subscriber = r.subscriber := by
  unfold publisherReplies at hp
  cases h with
  | failed failure =>
    refine ⟨?_, ho, rfl, ?_, rfl, rfl⟩
    · simp [taken, publisherReplies, hp]
    · simp [received, subscriberReplies]
  | asks ns told =>
    refine ⟨?_, rfl, rfl, rfl, rfl, rfl⟩
    simp [taken, publisherReplies, hp]

/-- An attempt begins without updates. -/
lemma Placed.conserved_startPair (h : r.Placed) (hl : ∀ side, r.isLive side = false)
    (status : BridgeStatus) : (r.startPair status).Conserved {} := by
  obtain ⟨r₁, hs, hidle, -, hp⟩ := r.startPair_starts status
  obtain ⟨hsr, -⟩ := h.subscriber.of_not_live (hl .subscribe)
  obtain ⟨hpr, -⟩ := h.publisher.of_not_live (hl .publish)
  obtain ⟨hreplies, hempty⟩ := hs.empty hsr hpr
  have hoffers : (r₁.note (.opening .publish 2 status)).offers = [] := by
    change r₁.handoff.senders.map (·.value) = []
    rw [hidle]
    rfl
  obtain ⟨htaken, hnone, hheld, hreceived, hqueue, hphase⟩ := hp.empty hreplies hoffers
  refine ⟨List.nil_prefix, fun _ => ?_, ?_, fun hlive _ => ?_⟩
  · rw [hheld]
    rfl
  · rw [htaken]
    exact List.nil_prefix
  · rw [isLive_subscribe_congr hphase] at hlive
    obtain ⟨hrec, hq⟩ := hempty hlive
    unfold between
    rw [htaken, hnone, hreceived, hqueue]
    change _ = [] ++ ([] ++ ([] ++ (r₁.received ++ StreamItem.updates r₁.queue)))
    rw [hrec, hq]
    rfl

lemma SubscriberStarts.silent (h : SubscriberStarts r r') :
    (∃ ns, r'.history = r.history ++ ns ∧ Note.Offers [] ns) ∧
      r'.world.accepted = r.world.accepted := by
  cases h with
  | failed failure => exact ⟨⟨[], (List.append_nil _).symm, rfl⟩, rfl⟩
  | requested ns told | requests ns told => exact ⟨⟨ns, rfl, told⟩, rfl⟩

lemma PublisherStarts.silent (h : PublisherStarts r r') :
    (∃ ns, r'.history = r.history ++ ns ∧ Note.Offers [] ns) ∧
      r'.world.accepted = r.world.accepted := by
  cases h with
  | failed failure => exact ⟨⟨[], (List.append_nil _).symm, rfl⟩, rfl⟩
  | asks ns told => exact ⟨⟨ns, rfl, told⟩, rfl⟩

lemma startPair_silent (r : Relay Scripted) (status : BridgeStatus) :
    (∃ ns, (r.startPair status).history = r.history ++ ns ∧ Note.Offers [] ns) ∧
      (r.startPair status).world.accepted = r.world.accepted := by
  obtain ⟨r₁, hs, -, -, hp⟩ := r.startPair_starts status
  obtain ⟨⟨ns, hn, told⟩, ha⟩ := hs.silent
  obtain ⟨⟨ns', hn', told'⟩, ha'⟩ := hp.silent
  refine ⟨⟨[.opening .subscribe 2 status] ++ ns ++ ([.opening .publish 2 status] ++ ns'), ?_, ?_⟩, ?_⟩
  · rw [hn']
    change r₁.history ++ _ ++ _ = _
    rw [hn]
    change r.history ++ _ ++ _ ++ _ ++ _ = _
    simp
  · unfold Note.Offers at told told' ⊢
    rw [List.filterMap_append, List.filterMap_append, List.filterMap_append, told, told']
    rfl
  · exact ha'.trans ha

lemma isCancelled_startPair (r : Relay Scripted) (status : BridgeStatus) :
    (r.startPair status).isCancelled = false := by
  obtain ⟨r₁, -, hidle, -, hp⟩ := r.startPair_starts status
  have h₁ : r₁.isCancelled = false := by
    rw [isCancelled_channel hidle]
    rfl
  generalize r.startPair status = r₂ at hp
  cases hp with
  | failed failure => exact h₁
  | asks ns told => rfl

end Relay

namespace Bridge

/-- While no session has ended both are unfinished, and their scope goes on until the signal of the
run is aborted. -/
def Undisturbed (b : Bridge Scripted) : Prop :=
  b.status = .running → b.firstFailure = none →
    b.active = 2 ∧ (b.run.bind b.stopReason? = none → b.relay.isCancelled = false)

lemma Undisturbed.step {b : Bridge Scripted} (h : b.relay.Placed)
    (hu : b.Undisturbed) (e : BridgeEvent Scripted.Event) :
    (b.step Scripted.occur e).Undisturbed := by
  have ht := step_transition Scripted.occur b e
  generalize b.step Scripted.occur e = b' at ht
  cases ht with
  | still | refused | waited | guestAnswered => exact hu
  | started run free going more => exact fun _ _ => ⟨rfl, fun _ => Relay.isCancelled_startPair _ _⟩
  | resumed duration run pause current paused going more =>
    exact fun _ _ => ⟨rfl, fun _ => Relay.isCancelled_startPair _ _⟩
  | declined | interrupted | completed | joinedStopped | joinedFailed => exact fun hs _ => by cases hs
  | signalled signal reason fresh other =>
    intro hs hf
    obtain ⟨hactive, hgoing⟩ := hu hs hf
    refine ⟨hactive, fun hn => hgoing ?_⟩
    rcases hr : b.run with _ | run
    · rfl
    · change b.run.bind { b with aborted := b.aborted ++ [(signal, reason)] }.stopReason? = none at hn
      rw [hr] at hn
      rw [← Option.not_isSome_iff_eq_none] at hn ⊢
      intro hold
      exact hn (stopReason?_mono (List.prefix_append _ _) hold)
  | cancelled signal reason run fresh current own unpaused =>
    intro hs hf
    refine ⟨(hu hs hf).1, fun hn => ?_⟩
    simp [current, stopReason?, own, List.lookup_append] at hn
  | occurred event result happened => exact hu
  | answered n a rest first =>
    intro hs hf
    obtain ⟨hactive, hgoing⟩ := hu hs hf
    refine ⟨hactive, fun hn => ?_⟩
    exact (Relay.isCancelled_answered (h.answered first)).trans (hgoing hn)
  | rejected side failure rest first left =>
    -- The bridge has just heard of a failure.
    intro _ hf
    change (b.firstFailure <|> some failure) = none at hf
    rcases hfirst : b.firstFailure <;> simp [hfirst] at hf

/-- The ledgers of a run conserve the updates of its attempts. -/
structure Conserves (b : Bridge Scripted) (c : Chronicle Ledger) : Prop where
  length : c.past.length = b.attempts
  past : ∀ L ∈ c.past, L.accepted <+: L.offered ∧ L.offered <+: L.put
  current : b.relay.Conserved c.current
  offered : c.all.flatMap (·.offered) = b.relay.history.filterMap Note.offer?
  accepted : c.all.flatMap (·.accepted) = b.relay.world.accepted

lemma conserves_create (script : Script) (request : SubscribeRequest) (metadata : Option Login)
    (policy : Backoff.Policy) (timer : Backoff.Timer) :
    (create ({ script } : Scripted) request metadata policy timer).Conserves
      { current := ledgerRecorder.blank } := by
  refine ⟨rfl, fun L hL => ?_, ⟨List.nil_prefix, fun hl => ?_, List.nil_prefix, fun hl => ?_⟩, rfl, rfl⟩
  · cases hL
  · cases hl
  · cases hl

lemma Conserves.step {b : Bridge Scripted} {c : Chronicle Ledger} (hc : b.Conserves c)
    (hb : b.Lifecycle) (h : b.relay.Placed) (e : BridgeEvent Scripted.Event) :
    (b.step Scripted.occur e).Conserves (ledgerRecorder.update b e (b.step Scripted.occur e) c) := by
  cases relayStep hb h e with
  | within same step =>
    obtain ⟨offered, accepted, hf⟩ := h.flow step
    obtain ⟨ns, hn, told⟩ := hf.notes
    have hu : ledgerRecorder.update b e (b.step Scripted.occur e) c = { c with current :=
        ⟨c.current.put ++ b.putBy e, c.current.offered ++ offered, c.current.accepted ++ accepted⟩ } := by
      unfold Recorder.update
      rw [if_pos same, ledger_record hn told hf.accepts]
    rw [hu]
    refine ⟨hc.length.trans same.symm, hc.past, hc.current.flow hf, ?_, ?_⟩
    · rw [hn, List.filterMap_append, show ns.filterMap Note.offer? = offered from told, ← hc.offered]
      simp [Chronicle.all]
    · rw [hf.accepts, ← hc.accepted]
      simp [Chronicle.all]
  | starts next nothing dead fresh =>
    have hdead : ∀ side, (b.relay.note (.log (.attemptStarted (b.attempts + 1)))).isLive side = false := by
      intro side
      rw [← dead side]
      cases side <;> rfl
    have hempty := (h.note (.log (.attemptStarted (b.attempts + 1)))).conserved_startPair hdead .running
    obtain ⟨⟨ns, hn, told⟩, ha⟩ :=
      (b.relay.note (.log (.attemptStarted (b.attempts + 1)))).startPair_silent .running
    rw [← fresh] at hempty hn ha
    have hn' : (b.step Scripted.occur e).relay.history =
        b.relay.history ++ (.log (.attemptStarted (b.attempts + 1)) :: ns) := by
      rw [hn]
      simp [Relay.note]
    have hu : ledgerRecorder.update b e (b.step Scripted.occur e) c =
        { past := c.past ++ [c.current], current := {} } := by
      unfold Recorder.update
      rw [if_neg (by omega), ledger_record hn' told (ha.trans (List.append_nil _).symm), nothing]
      rfl
    rw [hu]
    refine ⟨?_, fun L hL => ?_, hempty, ?_, ?_⟩
    · rw [next, ← hc.length]
      exact List.length_append
    · rcases List.mem_append.mp hL with hL | hL
      · exact hc.past L hL
      · rw [List.mem_singleton.mp hL]
        exact ⟨hc.current.accepts, (List.prefix_append _ _).trans hc.current.takes⟩
    · have htold : (Note.log (.attemptStarted (b.attempts + 1)) :: ns).filterMap Note.offer? = [] := told
      rw [hn', List.filterMap_append, htold, ← hc.offered]
      simp [Chronicle.all]
    · rw [ha]
      change _ = b.relay.world.accepted
      rw [← hc.accepted]
      simp [Chronicle.all]

/-- Whatever the target, the collector and the caller do, and in whatever order: in every attempt the
updates that the collector accepts come first among those that are offered to it, and these come
first, in the same order, among those that the target has put on the stream of that attempt; and when
a running bridge is at rest, no session has ended and its signal is not aborted, the updates that the
target has put are those accepted, then the one whose send is blocked, then the one that waits at the
hand-off, then those that wait on the stream. -/
theorem updates_conserved (script : Script) (request : SubscribeRequest) (metadata : Option Login)
    (policy : Backoff.Policy) (timer : Backoff.Timer) (events : List (BridgeEvent Scripted.Event)) :
    let s :=
      ledgerRecorder.follow Scripted.occur (create { script } request metadata policy timer) events
    let b := s.1
    let c := s.2
    b = (create { script } request metadata policy timer).after Scripted.occur events ∧
      c.past.length = b.attempts ∧
      c.all.flatMap (·.offered) = b.relay.history.filterMap Note.offer? ∧
      c.all.flatMap (·.accepted) = b.relay.world.accepted ∧
      (∀ L ∈ c.all, L.accepted <+: L.offered ∧ L.offered <+: L.put) ∧
      (b.AtRest → b.status = .running → b.firstFailure = none → b.run.bind b.stopReason? = none →
        c.current.put = c.current.accepted ++ b.relay.sending.toList ++ b.relay.offers ++
            StreamItem.updates b.relay.queue ∧
          b.relay.offers.length ≤ 1 ∧ (b.relay.offers ≠ [] → b.relay.sending.isSome) ∧
          (b.relay.queue ≠ [] → b.relay.blocked = some .send ∨ b.relay.offers ≠ [])) := by
  intro s b c
  have hfirst : (create ({ script } : Scripted) request metadata policy timer).Undisturbed := by
    intro hs
    cases hs
  obtain ⟨hb, hp, hu, hc⟩ : b.Lifecycle ∧ b.relay.Placed ∧ b.Undisturbed ∧ b.Conserves c :=
    Recorder.follow_induction
      (P := fun b c => b.Lifecycle ∧ b.relay.Placed ∧ b.Undisturbed ∧ b.Conserves c)
      (fun b e c h => ⟨h.1.step _ e, placed_step h.1 h.2.1 e, h.2.2.1.step h.2.1 e,
        h.2.2.2.step h.1 h.2.1 e⟩)
      ⟨lifecycle_create _ request metadata policy timer,
        placed_create script request metadata policy timer,
        hfirst, conserves_create script request metadata policy timer⟩ events
  refine ⟨Recorder.follow_fst _ _ _ _, hc.length, hc.offered, hc.accepted, fun L hL => ?_,
    fun hrest hs hf hn => ?_⟩
  · rcases List.mem_append.mp hL with hL | hL
    · exact hc.past L hL
    · rw [List.mem_singleton.mp hL]
      exact ⟨hc.current.accepts, (List.prefix_append _ _).trans hc.current.takes⟩
  · obtain ⟨hactive, hgoing⟩ := hu hs hf
    have hlive := hb.live_of_atRest hrest hactive
    obtain ⟨hbetween, hheld, hone, hsending, hqueue⟩ := hp.at_rest hrest hlive
    refine ⟨?_, hone, hsending, hqueue⟩
    rw [hc.current.moves (hlive _) (hgoing hn), hc.current.sends (hlive _), hbetween, hheld]
    simp

/-- With the collector slow to take the second of four updates, the third waits at the hand-off and the
fourth on the stream. -/
example :
    let s := ledgerRecorder.follow Scripted.occur
      (create { script := {} } ⟨"", []⟩ none fun _ _ => .ofNat 0)
      ([.start ⟨0, none, none⟩, .endpoint .requestOk,
        .endpoint (.arrive [.update [1], .update [2], .update [3], .update [4]])] ++
        List.replicate 6 .turn ++ [.endpoint .sendOk] ++ List.replicate 6 .turn)
    s.1.relay.underway.length = 0 ∧ s.2.current.accepted = [[1]] ∧ s.1.relay.sending = some [2] ∧
      s.1.relay.offers = [[3]] ∧ StreamItem.updates s.1.relay.queue = [[4]] := by
  decide

end Bridge

end TelemetryBridge
