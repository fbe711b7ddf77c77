import TelemetryBridge.Proofs.AddedNotes
import TelemetryBridge.Proofs.SessionEnds

/-!
# The primary fault

Which failure a warning before a retry carries, for any streams that answer the calls made on them.
The session that ends first fails through its own stream, unless the run is being stopped: only then
is its scope cancelled while nobody has been heard to fail. Its news is the first to arrive, and what
arrives later is not reported.
-/

namespace TelemetryBridge

/-- What is recorded of an attempt, and how its sessions have ended. -/
structure FaultRecord extends AttemptRecord where
  /-- The sessions that have ended, with their failures, in the order in which they ended. -/
  ends : List (Side × Failure) := []

/-- The entries of a chronicle seen through a function. -/
def Chronicle.map {ρ τ : Type} (f : ρ → τ) (c : Chronicle ρ) : Chronicle τ :=
  ⟨c.past.map f, f c.current⟩

lemma Chronicle.all_map {ρ τ : Type} (f : ρ → τ) (c : Chronicle ρ) :
    (c.map f).all = c.all.map f := by
  simp [all, map]

/-- Records the ends of sessions besides what becomes of their failures. An attempt begins with a
fresh relay. -/
def faultRecorder {ω ε : Type} : Recorder ω ε FaultRecord where
  blank := {}
  record b e b' R :=
    { toAttemptRecord := attemptRecorder.record b e b' R.toAttemptRecord
      ends := R.ends ++
        (if b'.attempts = b.attempts then b.relay else b.relay.fresh).newEnds b'.relay }

/-- The first failure is that of a stream, unless the run was stopped before anything was heard. -/
def FaultRecord.Primary (R : FaultRecord) : Prop :=
  ∀ e, R.ends.head? = some e → e.2.IsOfStream ∨ R.stoppedAt = some 0

namespace Bridge

variable {ω ε : Type}

lemma map_update {b b' : Bridge ω} {e : BridgeEvent ε} (c : Chronicle FaultRecord) :
    (faultRecorder.update b e b' c).map FaultRecord.toAttemptRecord =
      attemptRecorder.update b e b' (c.map FaultRecord.toAttemptRecord) := by
  unfold Recorder.update
  split
  · rfl
  · simp [Chronicle.map, faultRecorder, attemptRecorder]

/-- While sessions are active, their scope is cancelled only after a failure was heard of or the run
was stopped. -/
def Excused (b : Bridge ω) : Prop :=
  b.active ≠ 0 → b.relay.isCancelled = true →
    b.firstFailure.isSome = true ∨ (b.run.bind b.stopReason?).isSome = true

/-- The sessions end in the order in which the bridge hears of it, and the first of them by a failure
of its stream unless the run is being stopped. -/
structure Faults (b : Bridge ω) (c : Chronicle FaultRecord) : Prop where
  accounts : b.Accounts (c.map FaultRecord.toAttemptRecord)
  order : c.current.ends.map (·.2) = c.current.rejections ++ b.relay.tidings.map (·.2)
  heard : ∀ R ∈ c.past, R.rejections <+: R.ends.map (·.2)
  primary : ∀ R ∈ c.all, R.Primary

/-- When the run is stopped before an end was heard of, that is recorded. -/
lemma Accounts.stoppedAt_first {b : Bridge ω} {c : Chronicle AttemptRecord} (h : b.Accounts c)
    (ha : b.active ≠ 0) (hs : (b.run.bind b.stopReason?).isSome = true)
    (hr : c.current.rejections = []) : c.current.stoppedAt = some 0 := by
  have hsome := h.stopped ha
  rw [hs] at hsome
  obtain ⟨n, hn⟩ := Option.isSome_iff_exists.mp hsome
  have hle := h.early n hn
  rw [hr] at hle
  rw [hn, Nat.le_zero.mp hle]

lemma stoppedAt_of_some {b b' : Bridge ω} {R : AttemptRecord} {n : Nat} (h : R.stoppedAt = some n) :
    stoppedAt b b' R = some n := by
  simp [stoppedAt, h]

/-- When nobody has ended yet, a session that fails otherwise than through its stream is being
stopped. -/
lemma Faults.stoppedAt_of_new {b : Bridge ω} {c : Chronicle FaultRecord} (h : b.Faults c)
    (hx : b.Excused) (hnone : c.current.ends = []) (ha : b.active ≠ 0)
    (hc : b.relay.isCancelled = true) : c.current.stoppedAt = some 0 := by
  have hrej : c.current.rejections = [] := by
    have horder := h.order
    rw [hnone] at horder
    exact (List.append_eq_nil_iff.mp horder.symm).1
  have hfirst : b.firstFailure = none := by
    have := h.accounts.first ha
    rw [this]
    exact congrArg List.head? hrej
  rcases hx ha hc with hf | hs
  · rw [hfirst] at hf
    cases hf
  · exact h.accounts.stoppedAt_first ha hs hrej

/-- An event that begins no attempt. -/
lemma Faults.keep {b b' : Bridge ω} {e : BridgeEvent ε} {c : Chronicle FaultRecord}
    {heard new : List (Side × Failure)} (h : b.Faults c) (hx : b.Excused)
    (hacc : b'.Accounts ((faultRecorder.update b e b' c).map FaultRecord.toAttemptRecord))
    (ha : b'.attempts = b.attempts) (hc : b.relay.Course b'.relay heard new)
    (hnew : ∀ e ∈ new, b.active ≠ 0 ∧ (e.2.IsOfStream ∨ b.relay.isCancelled = true)) :
    b'.Faults (faultRecorder.update b e b' c) := by
  obtain ⟨ns, hn, hrej⟩ := hc.history
  have hu : faultRecorder.update b e b' c = { c with current := {
      toAttemptRecord := attemptRecorder.record b e b' c.current.toAttemptRecord
      ends := c.current.ends ++ new } } := by
    unfold Recorder.update
    simp [ha, faultRecorder, hc.ended]
  rw [hu] at hacc ⊢
  rw [record_of_append hn, hrej] at hacc ⊢
  refine ⟨hacc, ?_, h.heard, fun R hR => ?_⟩
  · have ht := congrArg (List.map (·.2)) hc.tidings
    simp only [List.map_append] at ht ⊢
    rw [h.order, List.append_assoc, ht, List.append_assoc]
  · rcases List.mem_append.mp hR with hR | hR
    · exact h.primary R (List.mem_append_left _ hR)
    · have hcurrent := h.primary c.current (List.mem_append_right _ (List.mem_singleton_self _))
      obtain rfl := List.mem_singleton.mp hR
      intro first hfirst
      rcases hends : c.current.ends with _ | ⟨e, rest⟩
      · -- The first session to end does so now.
        have hmem : first ∈ new := by
          rw [hends] at hfirst
          exact List.mem_of_mem_head? hfirst
        obtain ⟨hactive, hstream | hcancelled⟩ := hnew first hmem
        · exact Or.inl hstream
        · exact Or.inr (stoppedAt_of_some (h.stoppedAt_of_new hx hends hactive hcancelled))
      · have he : c.current.ends.head? = some first := by
          rw [hends] at hfirst ⊢
          exact hfirst
        rcases hcurrent first he with hstream | hstopped
        · exact Or.inl hstream
        · exact Or.inr (stoppedAt_of_some hstopped)

/-- An event that begins an attempt. -/
lemma Faults.begin [Endpoints ω] {b b' : Bridge ω} {e : BridgeEvent ε} {c : Chronicle FaultRecord}
    (h : b.Faults c)
    (hacc : b'.Accounts ((faultRecorder.update b e b' c).map FaultRecord.toAttemptRecord))
    (ha : b'.attempts = b.attempts + 1) (hn : b.relay.Silent b'.relay)
    (ht : b.relay.tidings = []) (hends : b.relay.fresh.newEnds b'.relay = b'.relay.tidings)
    (hstream : ∀ e ∈ b'.relay.tidings, e.2.IsOfStream) :
    b'.Faults (faultRecorder.update b e b' c) := by
  obtain ⟨ns, hsilent, hn⟩ := hn
  have hne : b'.attempts ≠ b.attempts := by omega
  have hu : faultRecorder.update b e b' c = {
      past := c.past ++ [c.current]
      current := {
        toAttemptRecord := attemptRecorder.record b e b' {}
        ends := b'.relay.tidings } } := by
    unfold Recorder.update
    simp [hne, faultRecorder, hends]
  rw [hu] at hacc ⊢
  rw [record_of_append hn, (filterMap_of_silent hsilent).1] at hacc ⊢
  refine ⟨hacc, by simp, fun R hR => ?_, fun R hR => ?_⟩
  · rcases List.mem_append.mp hR with hR | hR
    · exact h.heard R hR
    · obtain rfl := List.mem_singleton.mp hR
      rw [h.order, ht]
      exact List.prefix_append _ _
  · rcases List.mem_append.mp hR with hR | hR
    · exact h.primary R hR
    · obtain rfl := List.mem_singleton.mp hR
      intro first hfirst
      exact Or.inl (hstream first (List.mem_of_mem_head? hfirst))

section

variable [Endpoints ω] {occur : ε → ω → Option (List Answer × ω)}

omit [Endpoints ω] in
lemma Excused.keep {b b' : Bridge ω} (h : b.Excused) (hact : b'.active = b.active)
    (hc : b'.relay.cancelled? = b.relay.cancelled?) (hff : b'.firstFailure = b.firstFailure)
    (hg : b.aborted <+: b'.aborted) (hrun : b.active ≠ 0 → b'.run = b.run) : b'.Excused := by
  intro ha hcancelled
  rw [hact] at ha
  rw [Relay.isCancelled, hc] at hcancelled
  rw [hff, hrun ha]
  refine (h ha hcancelled).imp_right fun hs => ?_
  obtain ⟨run, hr⟩ : ∃ run, b.run = some run := by
    rcases hr : b.run with _ | run
    · rw [hr] at hs
      cases hs
    · exact ⟨run, rfl⟩
  rw [hr] at hs ⊢
  exact stopReason?_mono hg hs

/-- No scope is cancelled without a cause. -/
lemma Excused.step {b : Bridge ω} (h : b.Excused) (hb : b.Lifecycle) (e : BridgeEvent ε) :
    (b.step occur e).Excused := by
  have free (hf : b.run = none ∨ b.pause.isSome = true) : b.active = 0 := hb.active_eq_zero hf
  have hstart (r : Relay ω) (status : BridgeStatus) : (r.startPair status).isCancelled = false := by
    rw [Relay.isCancelled, Relay.cancelled?_startPair]
    rfl
  have ht := step_transition occur b e
  generalize b.step occur e = b' at ht
  cases ht with
  | still => exact h
  | refused | waited | occurred | guestAnswered =>
    exact h.keep rfl rfl rfl (List.prefix_refl _) fun _ => rfl
  | declined run isFree spent =>
    have hr : b.run = none := by simpa [isFree] using hb.isBusy_iff
    exact fun hz => absurd (free (Or.inl hr)) hz
  | interrupted signal reason run pause fresh current own paused =>
    exact fun hz => absurd (free (Or.inr (Option.isSome_of_eq_some paused))) hz
  | completed duration run pause current paused spent =>
    exact fun hz => absurd (free (Or.inr (Option.isSome_of_eq_some paused))) hz
  | signalled signal reason fresh other =>
    exact h.keep rfl rfl rfl (List.prefix_append _ _) fun _ => rfl
  | started run isFree going more =>
    intro _ hcancelled
    rw [show (b.startAttempt run).relay.isCancelled = false from hstart _ _] at hcancelled
    cases hcancelled
  | resumed duration run pause current paused going more =>
    intro _ hcancelled
    rw [show (({ b with clock := b.clock + duration } : Bridge ω).startAttempt run).relay.isCancelled =
      false from hstart _ _] at hcancelled
    cases hcancelled
  | cancelled signal reason run fresh current own unpaused =>
    intro _ _
    right
    simp [current, stopReason?, own, List.lookup_append, fresh]
  | answered relay answer rest first =>
    exact h.keep rfl (Relay.cancelled?_answer _ answer) rfl (List.prefix_refl _) fun _ => rfl
  | rejected side failure rest first left =>
    intro _ _
    left
    change (b.firstFailure <|> some failure).isSome = true
    cases b.firstFailure <;> rfl
  | joinedStopped side failure rest run first last current stopped =>
    exact fun hz => absurd last hz
  | joinedFailed side failure rest run first last current going =>
    exact fun hz => absurd last hz

omit [Endpoints ω] in
lemma active_pos_of_isLive {b : Bridge ω} (hb : b.Lifecycle) {side : Side}
    (hl : b.relay.isLive side = true) : b.active ≠ 0 := by
  intro hz
  have hu := hb.unfinished_eq_zero hz side
  simp [unfinished, hl] at hu

omit [Endpoints ω] in
/-- Without active sessions no end is underway as news. -/
lemma tidings_of_inactive {b : Bridge ω} (hb : b.Lifecycle) (hz : b.active = 0) :
    b.relay.tidings = [] := by
  refine List.filterMap_eq_nil_iff.mpr fun d hd => ?_
  cases d with
  | answer n a => rfl
  | guest n outcome => rfl
  | ended side failure =>
    have hn : b.relay.news side = 0 := (Nat.add_eq_zero_iff.mp (hb.unfinished_eq_zero hz side)).2
    exact absurd (List.countP_eq_zero.mp hn _ hd) (by simp [Delivery.tells])

/-- News of an end is heard. -/
lemma course_heard {b : Bridge ω} {side : Side} {failure : Failure} {rest : List Delivery}
    (first : b.relay.underway = .ended side failure :: rest) {r : Relay ω}
    (hn : ∃ ns, r.history = (b.hear side failure rest).relay.history ++ ns ∧
      ns.filterMap Note.rejection? = [])
    (hs : r.subscriber = (b.hear side failure rest).relay.subscriber)
    (hp : r.publisher = (b.hear side failure rest).relay.publisher)
    (ht : r.tidings = (b.hear side failure rest).relay.tidings) :
    b.relay.Course r [(side, failure)] [] := by
  obtain ⟨ms, hm, hrej⟩ := hn
  obtain ⟨ns, hr, -, hh⟩ := heard_history b side failure rest (.refl _)
  obtain ⟨hs', hp', ht'⟩ := Relay.cancel_same
    ({ b.relay with underway := rest }.note (.sessionEnded side failure)) failure
  refine ⟨⟨.sessionEnded side failure :: ns ++ ms, ?_, ?_⟩,
    Relay.newEnds_of_same (hs.trans hs') (hp.trans hp'), ?_⟩
  · rw [hm, hh, List.append_assoc]
  · rw [List.filterMap_append, hrej, List.append_nil]
    exact congrArg (failure :: ·) hr
  · rw [ht.trans ht', List.append_nil, Relay.tidings, first]
    rfl

/-- The ends are recorded in order, whatever happens. -/
theorem Faults.step {b : Bridge ω} {c : Chronicle FaultRecord} (h : b.Faults c) (hb : b.Lifecycle)
    (hm : b.relay.Matched) (hx : b.Excused) (e : BridgeEvent ε) :
    (b.step occur e).Faults (faultRecorder.update b e (b.step occur e) c) := by
  have hacc : (b.step occur e).Accounts
      ((faultRecorder.update b e (b.step occur e) c).map FaultRecord.toAttemptRecord) := by
    rw [map_update]
    exact h.accounts.step hb occur e
  have free (hf : b.run = none ∨ b.pause.isSome = true) : b.active = 0 := hb.active_eq_zero hf
  have quiet {b' : Bridge ω}
      (hacc : b'.Accounts ((faultRecorder.update b e b' c).map FaultRecord.toAttemptRecord))
      (ha : b'.attempts = b.attempts) (hn : b.relay.Silent b'.relay)
      (hs : b'.relay.subscriber = b.relay.subscriber) (hp : b'.relay.publisher = b.relay.publisher)
      (ht : b'.relay.tidings = b.relay.tidings) : b'.Faults (faultRecorder.update b e b' c) :=
    h.keep hx hacc ha (.of_same hn hs hp ht) (by simp)
  have begins {b' : Bridge ω}
      (hacc : b'.Accounts ((faultRecorder.update b e b' c).map FaultRecord.toAttemptRecord))
      (ha : b'.attempts = b.attempts + 1) (hz : b.active = 0)
      (hr : b'.relay =
        (b.relay.note (.log (.attemptStarted (b.attempts + 1)))).startPair .running) :
      b'.Faults (faultRecorder.update b e b' c) := by
    have htidings := tidings_of_inactive hb hz
    obtain ⟨hends, hstream⟩ := Relay.startPair_ends
      (b.relay.note (.log (.attemptStarted (b.attempts + 1)))) .running htidings
    rw [← hr] at hends hstream
    have hn : b.relay.Silent b'.relay := by
      rw [hr]
      exact ((Relay.Silent.refl _).note ⟨rfl, rfl⟩).trans (Relay.silent_startPair _ .running)
    exact h.begin hacc ha hn htidings hends hstream
  have ht := step_transition occur b e
  generalize b.step occur e = b' at ht hacc ⊢
  cases ht with
  | still => exact quiet hacc rfl (.refl _) rfl rfl rfl
  | refused run busy =>
    exact quiet hacc rfl ((Relay.Silent.refl _).note ⟨rfl, rfl⟩) rfl rfl rfl
  | declined | interrupted | completed =>
    exact quiet hacc rfl (((Relay.Silent.refl _).note ⟨rfl, rfl⟩).note ⟨rfl, rfl⟩) rfl rfl rfl
  | signalled | waited => exact quiet hacc rfl (.refl _) rfl rfl rfl
  | started run isFree going more =>
    have hr : b.run = none := by simpa [isFree] using hb.isBusy_iff
    exact begins hacc rfl (free (Or.inl hr)) rfl
  | cancelled signal reason run fresh current own unpaused =>
    obtain ⟨hs, hp, ht⟩ := b.relay.cancel_same reason
    exact quiet hacc rfl (.of_continues (Relay.continues_cancel b.relay reason)) hs hp ht
  | resumed duration run pause current paused going more =>
    exact begins hacc rfl (free (Or.inr (Option.isSome_of_eq_some paused))) rfl
  | occurred event result happened =>
    exact quiet hacc rfl (.of_continues (Relay.continues_withWorld b.relay result)) rfl rfl
      (Relay.steady_withWorld b.relay result).tidings
  | answered relay answer rest first =>
    obtain ⟨new, hc, hnew⟩ := Relay.course_answer { b.relay with underway := rest } (a := answer)
      (hm.refused answer (List.mem_filterMap.mpr ⟨_, first ▸ List.mem_cons_self, rfl⟩))
    have ht : b.relay.tidings = ({ b.relay with underway := rest } : Relay ω).tidings := by
      rw [Relay.tidings, first]
      rfl
    refine h.keep hx hacc rfl ⟨hc.history, hc.ended, ht ▸ hc.tidings⟩ fun e he => ?_
    obtain ⟨hl, hblame⟩ := hnew e he
    exact ⟨active_pos_of_isLive hb hl, hblame⟩
  | guestAnswered number outcome rest first =>
    refine quiet hacc rfl ((Relay.Silent.refl _).note ⟨rfl, rfl⟩) rfl rfl ?_
    rw [Relay.tidings, Relay.tidings, first]
    rfl
  | rejected side failure rest first left =>
    exact h.keep hx hacc rfl (course_heard first ⟨[], by simp, rfl⟩ rfl rfl rfl) (by simp)
  | joinedStopped side failure rest run first last current stopped =>
    exact h.keep hx hacc rfl
      (course_heard first ⟨_, List.append_assoc _ _ _, rfl⟩ rfl rfl rfl) (by simp)
  | joinedFailed side failure rest run first last current going =>
    exact h.keep hx hacc rfl
      (course_heard first ⟨_, List.append_assoc _ _ _, rfl⟩ rfl rfl rfl) (by simp)

omit [Endpoints ω] in
lemma Accounts.accounted {b : Bridge ω} {c : Chronicle AttemptRecord} (h : b.Accounts c) {k : Nat}
    {R : AttemptRecord} (hk : c.all[k]? = some R) : R.Accounted k := by
  rcases Chronicle.getElem?_all hk with hpast | ⟨rfl, rfl⟩
  · exact (h.past k R hpast).1
  · rw [h.length]
    exact h.current

omit [Endpoints ω] in
lemma Faults.heard_all {b : Bridge ω} {c : Chronicle FaultRecord} (h : b.Faults c) {R : FaultRecord}
    (hR : R ∈ c.all) : R.rejections <+: R.ends.map (·.2) := by
  rcases List.mem_append.mp hR with hR | hR
  · exact h.heard R hR
  · obtain rfl := List.mem_singleton.mp hR
    exact ⟨_, h.order.symm⟩

/-- What is heard of first has ended first. -/
lemma head_of_rejections {R : FaultRecord} (h : R.rejections <+: R.ends.map (·.2))
    {failure : Failure} (hf : R.rejections.head? = some failure) :
    ∃ e, R.ends.head? = some e ∧ e.2 = failure := by
  have hhead : (R.ends.map (·.2)).head? = some failure := by
    obtain ⟨rest, hrest⟩ := h
    rw [← hrest, List.head?_append, hf]
    rfl
  rw [List.head?_map] at hhead
  exact Option.map_eq_some_iff.mp hhead

omit [Endpoints ω] in
lemma matched_create (world : ω) (request : SubscribeRequest) (metadata : Option Login)
    (policy : Backoff.Policy) (timer : Backoff.Timer) :
    (create world request metadata policy timer).relay.Matched :=
  ⟨⟨.idle, rfl⟩, rfl, rfl, by simp [Relay.answers, create]⟩

omit [Endpoints ω] in
lemma faults_create (world : ω) (request : SubscribeRequest) (metadata : Option Login)
    (policy : Backoff.Policy) (timer : Backoff.Timer) :
    (create world request metadata policy timer).Faults { current := {} } := by
  refine ⟨accounts_create world request metadata policy timer, rfl, by simp, fun R hR => ?_⟩
  obtain rfl := List.mem_singleton.mp hR
  intro e he
  cases he

/-- Every warning of the history is in the record of an attempt. -/
lemma warnings_recorded (world : ω) (request : SubscribeRequest) (metadata : Option Login)
    (policy : Backoff.Policy) (timer : Backoff.Timer) (occur : ε → ω → Option (List Answer × ω))
    (events : List (BridgeEvent ε)) :
    let s := faultRecorder.follow occur (create world request metadata policy timer) events
    s.2.all.flatMap (·.warnings) = s.1.relay.history.filterMap Note.warning? := by
  refine Recorder.follow_induction (P := fun (b : Bridge ω) (c : Chronicle FaultRecord) =>
    c.all.flatMap (·.warnings) = b.relay.history.filterMap Note.warning?)
    (fun b e c h => ?_) rfl events
  obtain ⟨ns, hn⟩ := history_step occur b e
  unfold Recorder.update
  split
  · simp [Chronicle.all, faultRecorder, attemptRecorder, ← hn, ← h]
  · simp [Chronicle.all, faultRecorder, attemptRecorder, ← hn, ← h]

/-- Every warning before a retry carries a failure of a stream, and the one with which the first
session of its attempt to end has failed. It is the cancellation of no session, and when both sessions
fail of themselves it is the failure of the first. The streams may open, fail, block or react to
cancellation as they like, and answer at any time. -/
theorem warnings_report_primary_fault (streams : StreamsAnswer occur) (world : ω)
    (request : SubscribeRequest) (metadata : Option Login) (policy : Backoff.Policy)
    (timer : Backoff.Timer)
    (events : List (BridgeEvent ε)) :
    let s := faultRecorder.follow occur (create world request metadata policy timer) events
    s.1 = (create world request metadata policy timer).after occur events ∧
      ∀ failure k, (failure, k) ∈ s.1.relay.history.filterMap Note.warning? →
        ∃ R side message, s.2.all[k]? = some R ∧ R.ends.head? = some (side, .stream message) ∧
          failure = .stream message := by
  intro s
  refine ⟨Recorder.follow_fst _ _ _ _, fun failure k hwarned => ?_⟩
  have hs : s.1.Lifecycle ∧ s.1.relay.Matched ∧ s.1.Excused ∧ s.1.Faults s.2 :=
    Recorder.follow_induction
      (P := fun b c => b.Lifecycle ∧ b.relay.Matched ∧ b.Excused ∧ b.Faults c)
      (fun b e c h => ⟨h.1.step occur e, matched_step streams h.1 h.2.1 e, h.2.2.1.step h.1 e,
        h.2.2.2.step h.1 h.2.1 h.2.2.1 e⟩)
      ⟨lifecycle_create world request metadata policy timer,
        matched_create world request metadata policy timer,
        fun hz => absurd rfl hz, faults_create world request metadata policy timer⟩ events
  obtain ⟨-, -, -, h⟩ := hs
  have hrecorded : s.2.all.flatMap (·.warnings) = s.1.relay.history.filterMap Note.warning? :=
    warnings_recorded world request metadata policy timer occur events
  rw [← hrecorded] at hwarned
  obtain ⟨R, hR, hw⟩ := List.mem_flatMap.mp hwarned
  obtain ⟨n, hn⟩ := List.mem_iff_getElem?.mp hR
  obtain ⟨hwarnings, -⟩ := h.accounts.accounted (k := n) (R := R.toAttemptRecord)
    (by simp [Chronicle.all_map, hn])
  rw [hwarnings] at hw
  split at hw
  · next joined =>
    obtain ⟨failure, hf, hk⟩ := List.mem_map.mp hw
    obtain ⟨rfl, rfl⟩ := Prod.mk.inj hk
    obtain ⟨e, he, rfl⟩ : ∃ e, R.ends.head? = some e ∧ e.2 = failure :=
      head_of_rejections (h.heard_all hR) (Option.mem_toList.mp hf)
    rcases h.primary R hR e he with ⟨message, hm⟩ | hstopped
    · exact ⟨R, e.1, message, hn, by rw [he, ← hm], hm⟩
    · exact absurd hstopped joined.2.1
  · cases hw

end

/-- The target breaks the stream and the publish session is cancelled for it: what is reported is the
failure of the subscribe session. -/
theorem broken_stream_is_reported :
    let s := faultRecorder.follow Scripted.occur
      (create { script := {} } ⟨"", []⟩ none fun _ _ => .ofNat 0)
      [.start ⟨0, none, none⟩, .endpoint .requestOk, .turn, .endpoint (.arrive [.failure "boom"]),
        .turn, .turn, .turn, .turn]
    ∃ failure, (failure, 1) ∈ s.1.relay.history.filterMap Note.warning? ∧
      ∃ R side message, s.2.all[1]? = some R ∧ R.ends.head? = some (side, .stream message) ∧
        failure = .stream message := by
  intro s
  obtain ⟨failure, hwarned⟩ : ∃ failure,
      (failure, 1) ∈ s.1.relay.history.filterMap Note.warning? := ⟨_, List.mem_cons_self⟩
  exact ⟨failure, hwarned, (warnings_report_primary_fault Scripted.streamsAnswer
    { script := {} } ⟨"", []⟩ none (fun _ _ => .ofNat 0) Backoff.punctual _).2 failure 1 hwarned⟩

end Bridge

end TelemetryBridge
