import TelemetryBridge.Proofs.AddedNotes
import TelemetryBridge.Proofs.Cancellation
import TelemetryBridge.Proofs.Pairing

/-!
# An external stop

What follows the abort of the signal of a run. From then on the run is being stopped
(`Bridge.Stopping`): every event leaves it so and adds only notes that tell of nothing new, or
concludes it. When the streams honour the cancellation of their scope, deliveries alone conclude it.
-/

namespace TelemetryBridge

namespace Note

/-- Whether a note tells of no attempt, delay or retry that begins, and of no run that is over. -/
def isSubdued : Note → Bool
  | log (.attemptStarted _) | log (.retrying _ _ _ _) | log (.bridgeStopped _) | opening _ _ _
  | opened _ | backoffAsked _ | runEnded _ (.ok _) => false
  | _ => true

/-- Whether a note is the record that the bridge has stopped. -/
def isStop : Note → Bool
  | log (.bridgeStopped _) => true
  | _ => false

lemma isSubdued_of_isQuiet {n : Note} (h : n.isQuiet = true) : n.isSubdued = true := by
  cases n with
  | log event => cases event <;> first | rfl | cases h
  | opening | opened | backoffAsked | runEnded => cases h
  | _ => rfl

lemma coversCourse_isSubdued : CoversCourse isSubdued :=
  ⟨fun _ => isSubdued_of_isQuiet, by rintro (_ | _) <;> rfl, fun _ _ => rfl⟩

lemma coversRun_isStop : CoversRun (!·.isStop) where
  quiet n h := by
    cases n with
    | log event => cases event <;> first | rfl | cases h
    | _ => rfl
  closing := by rintro (_ | _) <;> rfl
  heard _ _ := rfl
  attempt _ := rfl
  opening _ _ _ := rfl
  opened _ := rfl
  refusal _ _ := rfl
  delay _ := rfl
  retry _ _ _ _ := rfl

end Note

namespace Bridge

variable {ω ε : Type}

/-- A run whose signal is aborted is in progress, and in no delay. -/
structure Stopping (run : BridgeRun) (b : Bridge ω) : Prop where
  current : b.run = some run
  stopped : (b.stopReason? run).isSome = true
  unpaused : b.pause = none

/-- A run is over that was being stopped when the history was the given one. It has yielded the
counts, and the last record is that of the stop. -/
structure Concluded (run : BridgeRun) (before : List Note) (b : Bridge ω) : Prop where
  status : b.status = .stopped
  ended : b.run = none
  active : b.active = 0
  streams : ∀ side, History.opened side b.relay.history = History.closed side b.relay.history
  record : ∃ ns, (∀ n ∈ ns, n.isSubdued = true) ∧ b.relay.history =
    before ++ ns ++ [.log (.bridgeStopped b.stats), .runEnded run.number (.ok b.stats)]

lemma Concluded.stop {run : BridgeRun} {b b₀ : Bridge ω} (hb : (b.stop run).Lifecycle)
    (hp : (b.stop run).Pairs) (h : b₀.relay.Adds Note.isSubdued b.relay) :
    (b.stop run).Concluded run b₀.relay.history := by
  have hactive : (b.stop run).active = 0 := hb.active_eq_zero (Or.inl rfl)
  refine ⟨rfl, rfl, hactive, fun side => ?_, ?_⟩
  · have hu := hb.unfinished_eq_zero hactive side
    have hs := hp.pairing.streams side
    rwa [(Nat.add_eq_zero_iff.mp hu).1, Nat.add_zero] at hs
  · obtain ⟨ns, hs, hn⟩ := h
    refine ⟨ns, hs, ?_⟩
    change b.relay.history ++ _ ++ _ = _
    rw [hn]
    simp [Bridge.stop, Bridge.note, Relay.note, stats]

lemma Concluded.of_adds {run : BridgeRun} {b b' : Bridge ω} {c : Bridge ω}
    (h : b.relay.Adds Note.isSubdued b'.relay) (hc : c.Concluded run b'.relay.history) :
    c.Concluded run b.relay.history := by
  obtain ⟨ns, hs, hn⟩ := h
  obtain ⟨ms, hs', hm⟩ := hc.record
  refine ⟨hc.status, hc.ended, hc.active, hc.streams, ns ++ ms, fun n hmem => ?_, ?_⟩
  · rcases List.mem_append.mp hmem with h | h
    · exact hs n h
    · exact hs' n h
  · rw [hm, hn]
    simp

section

variable [Endpoints ω] {occur : ε → ω → Option (List Answer × ω)} {run : BridgeRun}

variable (occur) in
/-- What an event does while the run is being stopped. -/
theorem Stopping.step {b : Bridge ω} (h : b.Stopping run) (hb : b.Lifecycle) (hp : b.Pairs)
    (e : BridgeEvent ε) :
    ((b.step occur e).Stopping run ∧ b.relay.Adds Note.isSubdued (b.step occur e).relay) ∨
      (b.step occur e).Concluded run b.relay.history := by
  have hb' := hb.step occur e
  have hp' := hp.step hb occur e
  have busy : b.isBusy = true := hb.isBusy_iff.mpr (Option.isSome_of_eq_some h.current)
  have paused {pause : Pause} (hpause : b.pause = some pause) : False := by
    rw [h.unpaused] at hpause
    cases hpause
  have course := Note.coversCourse_isSubdued
  have ht := step_transition occur b e
  generalize b.step occur e = b' at ht hb' hp' ⊢
  cases ht with
  | still | waited => exact Or.inl ⟨⟨h.current, h.stopped, h.unpaused⟩, .refl _⟩
  | refused run' isBusy =>
    exact Or.inl ⟨⟨h.current, h.stopped, h.unpaused⟩, (Relay.Adds.refl _).note rfl⟩
  | started run' isFree | declined run' isFree =>
    rw [busy] at isFree
    cases isFree
  | signalled signal reason fresh other =>
    exact Or.inl ⟨⟨h.current, stopReason?_mono (List.prefix_append _ _) h.stopped, h.unpaused⟩,
      .refl _⟩
  | cancelled signal reason run' fresh current own unpaused =>
    exact Or.inl ⟨⟨h.current, stopReason?_mono (List.prefix_append _ _) h.stopped, h.unpaused⟩,
      .of_continues course (Relay.continues_cancel b.relay reason)⟩
  | interrupted signal reason run' pause fresh current own isPaused => exact (paused isPaused).elim
  | resumed duration run' pause current isPaused => exact (paused isPaused).elim
  | completed duration run' pause current isPaused => exact (paused isPaused).elim
  | occurred event result happened =>
    exact Or.inl ⟨⟨h.current, h.stopped, h.unpaused⟩,
      .of_continues course (Relay.continues_withWorld b.relay result)⟩
  | answered relay answer rest first =>
    exact Or.inl ⟨⟨h.current, h.stopped, h.unpaused⟩, Relay.adds_answer course b.relay rest answer⟩
  | guestAnswered number outcome rest first =>
    exact Or.inl ⟨⟨h.current, h.stopped, h.unpaused⟩, (Relay.Adds.refl b.relay).note rfl⟩
  | rejected side failure rest first left =>
    exact Or.inl ⟨⟨h.current, h.stopped, h.unpaused⟩, adds_hear course b side failure rest⟩
  | joinedStopped side failure rest run' first last current stopped =>
    obtain rfl : run' = run := Option.some.inj (current.symm.trans h.current)
    exact Or.inr (.stop hb' hp' (adds_hear course b side failure rest))
  | joinedFailed side failure rest run' first last current going =>
    obtain rfl : run' = run := Option.some.inj (current.symm.trans h.current)
    have hs := h.stopped
    rw [going] at hs
    cases hs

variable (occur) in
/-- What any events do while the run is being stopped. -/
theorem Stopping.after {b : Bridge ω} (h : b.Stopping run) (hb : b.Lifecycle) (hp : b.Pairs)
    (events : List (BridgeEvent ε)) :
    ((b.after occur events).Stopping run ∧
        b.relay.Adds Note.isSubdued (b.after occur events).relay) ∨
      ∃ es, es <+: events ∧ (b.after occur es).Concluded run b.relay.history := by
  induction events generalizing b with
  | nil => exact Or.inl ⟨h, .refl _⟩
  | cons e events ih =>
    rcases h.step occur hb hp e with ⟨hstep, hadds⟩ | hstep
    · rcases ih hstep (hb.step occur e) (hp.step hb occur e) with ⟨hafter, hmore⟩ | ⟨es, hes, hc⟩
      · exact Or.inl ⟨hafter, hadds.trans hmore⟩
      · exact Or.inr ⟨e :: es, List.cons_prefix_cons.mpr ⟨rfl, hes⟩, hc.of_adds hadds⟩
    · exact Or.inr ⟨[e], List.cons_prefix_cons.mpr ⟨rfl, List.nil_prefix⟩, hstep⟩

/-- While a run goes on no record says that the bridge has stopped. -/
lemma adds_of_run {b : Bridge ω} {e : BridgeEvent ε} (h : (b.step occur e).run.isSome = true) :
    b.relay.Adds (!·.isStop) (b.step occur e).relay := by
  rcases adds_or_stops Note.coversRun_isStop occur b e with hadds | ⟨b₀, run, -, hstop⟩
  · exact hadds
  · rw [hstop] at h
    cases h

lemma adds_of_runs {b : Bridge ω} {events : List (BridgeEvent ε)}
    (h : ∀ es, es <+: events → es ≠ [] → (b.after occur es).run.isSome = true) :
    b.relay.Adds (!·.isStop) (b.after occur events).relay := by
  induction events generalizing b with
  | nil => exact .refl _
  | cons e events ih =>
    have hone := h [e] (List.cons_prefix_cons.mpr ⟨rfl, List.nil_prefix⟩) (List.cons_ne_nil _ _)
    exact (adds_of_run hone).trans (ih fun es hes _ =>
      h (e :: es) (List.cons_prefix_cons.mpr ⟨rfl, hes⟩) (List.cons_ne_nil _ _))

/-- A run whose signal is aborted already is over before it begins. -/
lemma concluded_start {b : Bridge ω} (hb : b.Lifecycle) (hp : b.Pairs) (free : b.isBusy = false)
    (hs : (b.stopReason? run).isSome = true) :
    (b.step occur (.start run)).Concluded run b.relay.history := by
  have hstop : b.step occur (.start run) = b.stop run := by
    rcases nextAttempt_cases b run with ⟨-, h⟩ | ⟨going, -, -⟩
    · simpa [Bridge.step, start, free] using h
    · rw [going] at hs
      cases hs
  have hb' := hb.step occur (.start run)
  have hp' := hp.step hb occur (.start run)
  rw [hstop] at hb' hp' ⊢
  exact .stop hb' hp' (.refl _)

variable (occur) in
/-- The abort of the signal of a run stops it, or concludes it when it is in its delay. -/
lemma stopping_abort {b : Bridge ω} (hb : b.Lifecycle) (hp : b.Pairs) {signal : Nat}
    (current : b.run = some run) (own : run.signal = some signal)
    (heeded : (b.stopReason? run).isSome = true → b.pause = none) (reason : Failure) :
    ((b.step occur (.abort signal reason)).Stopping run ∧
        b.relay.Adds Note.isSubdued (b.step occur (.abort signal reason)).relay) ∨
      (b.step occur (.abort signal reason)).Concluded run b.relay.history := by
  have hb' := hb.step occur (.abort signal reason)
  have hp' := hp.step hb occur (.abort signal reason)
  have hnew := stopReason?_aborted b own reason
  rcases hl : b.aborted.lookup signal with _ | old
  · rcases hpause : b.pause with _ | pause
    · have he : b.step occur (.abort signal reason) =
          { b with aborted := b.aborted ++ [(signal, reason)], relay := b.relay.cancel reason } := by
        simp [Bridge.step, abort, hl, current, own, hpause]
      rw [he]
      exact Or.inl ⟨⟨current, hnew, hpause⟩,
        .of_continues Note.coversCourse_isSubdued (Relay.continues_cancel b.relay reason)⟩
    · have he : b.step occur (.abort signal reason) =
          ({ b with aborted := b.aborted ++ [(signal, reason)] } : Bridge ω).stop run := by
        simp [Bridge.step, abort, hl, current, own, hpause]
      rw [he] at hb' hp' ⊢
      exact Or.inr (.stop hb' hp' (.refl b.relay))
  · have he : b.step occur (.abort signal reason) = b := by
      simp [Bridge.step, abort, hl]
    have hs : (b.stopReason? run).isSome = true := by
      simp [stopReason?, own, hl]
    rw [he]
    exact Or.inl ⟨⟨current, hs, heeded hs⟩, .refl _⟩

end

/-! ## Scripted streams -/

/-- A run whose signal is aborted is in no delay, and the scope of its sessions is cancelled. -/
def Heeded (b : Bridge Scripted) : Prop :=
  ∀ run, b.run = some run → (b.stopReason? run).isSome = true →
    b.pause = none ∧ b.relay.isCancelled = true

/-- The abort of another signal does not stop a run. -/
lemma stopReason?_of_other {b : Bridge ω} {run : BridgeRun} {signal : Nat} {reason : Failure}
    (other : run.signal ≠ some signal)
    (h : (({ b with aborted := b.aborted ++ [(signal, reason)] } : Bridge ω).stopReason?
      run).isSome = true) : (b.stopReason? run).isSome = true := by
  unfold stopReason? at h ⊢
  rcases hs : run.signal with _ | own
  · rw [hs] at h
    cases h
  · have hne : (own == signal) = false := by
      rw [beq_eq_false_iff_ne]
      rintro rfl
      exact other hs
    simpa [hs, List.lookup_append, List.lookup_cons, hne] using h

lemma Heeded.step {b : Bridge Scripted} (h : b.Heeded) (hr : b.relay.Placed)
    (e : BridgeEvent Scripted.Event) : (b.step Scripted.occur e).Heeded := by
  have heard {side : Side} {failure : Failure} {rest : List Delivery}
      (first : b.relay.underway = .ended side failure :: rest) :
      (b.hear side failure rest).relay.isCancelled = true :=
    Relay.Placed.isCancelled_cancel ((hr.of_ended first).note _) failure
  have ht := step_transition Scripted.occur b e
  generalize b.step Scripted.occur e = b' at ht
  cases ht with
  | still | refused | waited | occurred | guestAnswered => exact h
  | started run isFree going =>
    intro run' hrun hs
    obtain rfl : run = run' := Option.some.inj hrun
    have hnone : (b.startAttempt run).stopReason? run = none := going
    rw [hnone] at hs
    cases hs
  | resumed duration run pause current paused going =>
    intro run' hrun hs
    obtain rfl : run = run' := Option.some.inj hrun
    have hnone : ({ b with clock := b.clock + duration }.startAttempt run).stopReason? run = none :=
      going
    rw [hnone] at hs
    cases hs
  | declined | interrupted | completed | joinedStopped => rintro run' ⟨⟩
  | signalled signal reason fresh other =>
    intro run hrun hs
    exact h run hrun (stopReason?_of_other (other run hrun) hs)
  | cancelled signal reason run fresh current own unpaused =>
    exact fun _ _ _ => ⟨unpaused, hr.isCancelled_cancel reason⟩
  | answered n a rest first =>
    intro run hrun hs
    obtain ⟨hpause, hc⟩ := h run hrun hs
    exact ⟨hpause, (Relay.isCancelled_answered (hr.answered first)).trans hc⟩
  | rejected side failure rest first left =>
    intro run hrun hs
    exact ⟨(h run hrun hs).1, heard first⟩
  | joinedFailed side failure rest run first last current going =>
    intro run' hrun hs
    obtain rfl : run = run' := Option.some.inj (current.symm.trans hrun)
    have hnone : (b.hear side failure rest).startPause.stopReason? run = none := going
    rw [hnone] at hs
    cases hs

/-- Without active sessions nothing is underway. -/
lemma atRest_of_inactive {b : Bridge Scripted} (hb : b.Lifecycle) (hr : b.relay.Placed)
    (hz : b.active = 0) : b.AtRest := by
  have dead (side : Side) : b.relay.isLive side = false ∧ b.relay.news side = 0 := by
    have hu := Nat.add_eq_zero_iff.mp (hb.unfinished_eq_zero hz side)
    exact ⟨Bool.toNat_eq_zero.mp hu.1, hu.2⟩
  have hs : b.relay.subscriberReplies = [] := (hr.subscriber.of_not_live (dead .subscribe).1).1
  have hp : b.relay.publisherReplies = [] := (hr.publisher.of_not_live (dead .publish).1).1
  refine List.eq_nil_iff_forall_not_mem.mpr fun d hd => ?_
  cases d with
  | guest number outcome => cases hr.plain _ hd
  | ended side failure =>
    exact absurd (List.countP_eq_zero.mp (dead side).2 _ hd) (by simp [Delivery.tells])
  | answer n a =>
    cases a with
    | later a => cases hr.plain _ hd
    | subscriber reply =>
      have := List.filterMap_eq_nil_iff.mp hs _ hd
      cases this
    | publisher reply =>
      have := List.filterMap_eq_nil_iff.mp hp _ hd
      cases this

/-- At rest further turns change nothing. -/
lemma after_turns_of_atRest {b : Bridge Scripted} (hr : b.AtRest) (n : Nat) :
    b.after Scripted.occur (List.replicate n .turn) = b := by
  induction n with
  | zero => rfl
  | succ n ih =>
    have hstep : b.step Scripted.occur .turn = b := by
      have hnone : b.turn? = none := by
        unfold turn?
        rw [hr]
      simp [step, hnone]
    change (b.step Scripted.occur .turn).after Scripted.occur (List.replicate n .turn) = b
    rw [hstep, ih]

/-- What holds of a bridge over scripted streams after any events. -/
structure Tracked (script : Script) (b : Bridge Scripted) : Prop where
  lifecycle : b.Lifecycle
  placed : b.relay.Placed
  pairs : b.Pairs
  heeded : b.Heeded
  script : b.relay.world.script = script

lemma Tracked.after {script : Script} {b : Bridge Scripted} (h : b.Tracked script)
    (events : List (BridgeEvent Scripted.Event)) :
    (b.after Scripted.occur events).Tracked script :=
  after_induction (fun _ e h => ⟨h.lifecycle.step _ e, placed_step h.lifecycle h.placed e,
    h.pairs.step h.lifecycle _ e, h.heeded.step h.placed e,
    (script_kept h.lifecycle h.placed e).trans h.script⟩) h events

lemma tracked_create (script : Script) (request : SubscribeRequest) (metadata : Option Login)
    (policy : Backoff.Policy) (timer : Backoff.Timer) :
    (create ({ script } : Scripted) request metadata policy timer).Tracked script :=
  ⟨lifecycle_create _ request metadata policy timer,
    placed_create script request metadata policy timer,
    pairs_create _ request metadata policy timer, fun _ h => (by cases h), rfl⟩

/-- When the streams honour the cancellation of their scope, a run that is being stopped is over as
soon as all deliveries are made. -/
theorem Stopping.settle {script : Script} {run : BridgeRun} {b : Bridge Scripted}
    (h : b.Stopping run) (ht : b.Tracked script) (honours : script.Honours) :
    b.settle.AtRest ∧ b.settle.Concluded run b.relay.history := by
  have hsettle : b.settle = b.after Scripted.occur (List.replicate b.relay.work .turn) :=
    turns_eq_after Scripted.occur b.relay.work b
  have hrest : b.settle.AtRest := atRest_settle ht.lifecycle ht.placed
  have hafter : b.settle.Tracked script := hsettle ▸ ht.after _
  refine ⟨hrest, ?_⟩
  rcases h.after Scripted.occur ht.lifecycle ht.pairs
    (List.replicate b.relay.work .turn) with ⟨hs, -⟩ | ⟨es, hes, hc⟩
  · -- A session that is left would wait, and in a cancelled scope it cannot.
    rw [← hsettle] at hs
    obtain ⟨-, hcancelled⟩ := hafter.heeded run hs.current hs.stopped
    have dead := hafter.placed.not_live_of_cancelled (hafter.script ▸ honours) hcancelled hrest
    have hactive := hafter.lifecycle.active_of_atRest hrest
    rw [dead .subscribe, dead .publish, Bool.toNat_false] at hactive
    have hfits := hafter.lifecycle.status
    unfold StatusFits at hfits
    rcases hst : b.settle.status <;> rw [hst] at hfits <;> simp [hs.current, hs.unpaused] at hfits
    omega
  · obtain ⟨hle, hturns⟩ := List.prefix_replicate_iff.mp hes
    have hes' : (b.after Scripted.occur es).Tracked script := ht.after es
    have hsplit : List.replicate b.relay.work (.turn : BridgeEvent Scripted.Event) =
        es ++ List.replicate (b.relay.work - es.length) .turn := by
      conv_rhs => rw [hturns]
      rw [List.length_replicate, List.replicate_append_replicate, Nat.add_sub_cancel' hle]
    rw [hsettle, hsplit, after_append, after_turns_of_atRest
      (atRest_of_inactive hes'.lifecycle hes'.placed hc.active)]
    exact hc

/-- An external stop is final and clean. A run whose signal is aborted already is over at once. A run
in progress whose signal is aborted, at whatever moment, begins no attempt and no delay any more and
reports no retry: while it lasts only subdued notes are added, and as soon as it is over it has
yielded the counts and the last record is the only one that says so. When the streams honour the
cancellation of their scope, it is over as soon as all deliveries are made. -/
theorem external_stop_is_final (script : Script) (request : SubscribeRequest)
    (metadata : Option Login) (policy : Backoff.Policy) (timer : Backoff.Timer)
    (events : List (BridgeEvent Scripted.Event))
    (run : BridgeRun) (signal : Nat) (own : run.signal = some signal)
    (free : ((create { script } request metadata policy timer).after Scripted.occur
      events).isBusy = false) :
    let b₀ := (create { script } request metadata policy timer).after Scripted.occur events
    ((b₀.stopReason? run).isSome = true →
      (b₀.step Scripted.occur (.start run)).Concluded run b₀.relay.history) ∧
    ∀ during : List (BridgeEvent Scripted.Event),
      (∀ es, es <+: during →
        ((b₀.step Scripted.occur (.start run)).after Scripted.occur es).run = some run) →
      let b := (b₀.step Scripted.occur (.start run)).after Scripted.occur during
      b₀.relay.Adds (!·.isStop) b.relay ∧
      ∀ (reason : Failure) (later : List (BridgeEvent Scripted.Event)),
        let a := b.step Scripted.occur (.abort signal reason)
        (∃ es, es <+: later ∧
          (a.after Scripted.occur es).Concluded run b.relay.history) ∨
        ((a.after Scripted.occur later).Stopping run ∧
          b.relay.Adds Note.isSubdued (a.after Scripted.occur later).relay ∧
          (script.Honours →
            (a.after Scripted.occur later).settle.AtRest ∧
            (a.after Scripted.occur later).settle.Concluded run b.relay.history)) := by
  intro b₀
  have h₀ : b₀.Tracked script := (tracked_create script request metadata policy timer).after events
  refine ⟨concluded_start h₀.lifecycle h₀.pairs free, ?_⟩
  intro during going b
  have hb : b.Tracked script := h₀.after (.start run :: during)
  have current : b.run = some run := going during (List.prefix_refl _)
  have busy (es : List (BridgeEvent Scripted.Event)) (hes : es <+: .start run :: during)
      (hne : es ≠ []) : (b₀.after Scripted.occur es).run.isSome = true := by
    obtain ⟨e, es, rfl⟩ := List.exists_cons_of_ne_nil hne
    obtain ⟨rfl, hduring⟩ := List.cons_prefix_cons.mp hes
    exact Option.isSome_of_eq_some (going es hduring)
  refine ⟨adds_of_runs busy, ?_⟩
  intro reason later a
  have ha : a.Tracked script := hb.after [.abort signal reason]
  rcases stopping_abort Scripted.occur hb.lifecycle hb.pairs current own
    (fun hs => (hb.heeded run current hs).1) reason with ⟨hs, hadds⟩ | hc
  · rcases hs.after Scripted.occur ha.lifecycle ha.pairs later with
      ⟨hlater, hmore⟩ | ⟨es, hes, hc⟩
    · refine Or.inr ⟨hlater, hadds.trans hmore, fun honours => ?_⟩
      obtain ⟨hrest, hc⟩ := hlater.settle (ha.after later) honours
      exact ⟨hrest, hc.of_adds (hadds.trans hmore)⟩
    · exact Or.inl ⟨es, hes, hc.of_adds hadds⟩
  · exact Or.inl ⟨[], List.nil_prefix, hc⟩

/-- A run that is stopped while it waits for the target and for an update is over once the streams
have failed. -/
theorem stopped_while_receiving :
    let b := ((create ({ script := {} } : Scripted) ⟨"", []⟩ none fun _ _ => .ofNat 0).step
      Scripted.occur (.start ⟨0, some 0, none⟩)).after Scripted.occur [.endpoint .requestOk, .turn]
    let a := b.step Scripted.occur (.abort 0 (.error "stop"))
    a.settle.AtRest ∧ a.settle.Concluded ⟨0, some 0, none⟩ b.relay.history := by
  intro b a
  obtain ⟨-, h⟩ := external_stop_is_final {} ⟨"", []⟩ none (fun _ _ => .ofNat 0) Backoff.punctual []
    ⟨0, some 0, none⟩ 0 rfl rfl
  obtain ⟨-, h⟩ := h [.endpoint .requestOk, .turn] fun es hes => by
    rcases List.prefix_cons_iff.mp hes with rfl | ⟨rest, rfl, hrest⟩
    · rfl
    · rcases List.prefix_cons_iff.mp hrest with rfl | ⟨none, rfl, hnone⟩
      · rfl
      · rw [List.prefix_nil.mp hnone]
        rfl
  rcases h (.error "stop") [] with ⟨es, hes, hc⟩ | ⟨-, -, h⟩
  · rw [List.prefix_nil.mp hes] at hc
    cases hc.ended
  · exact h ⟨rfl, rfl⟩

end Bridge

end TelemetryBridge
