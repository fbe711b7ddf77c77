import Mathlib.Algebra.GroupWithZero.Nat
import TelemetryBridge.Proofs.Lifecycle
import TelemetryBridge.Stream.Scripted

/-!
# Reports of failures

Which failures are counted and reported, attempt by attempt, for any endpoints. The bridge decides
when it has heard of the end of both sessions: an attempt is counted, and reported with the failure
that was heard of first, unless the signal of the run was aborted before. An abort between the two
ends thus hides a failure that came before it.
-/

namespace TelemetryBridge

namespace Note

/-- The failure of a session of whose end the bridge hears. -/
def rejection? : Note → Option Failure
  | sessionEnded _ failure => some failure
  | _ => none

/-- What a warning before a retry carries: a failure and the number of the attempt. -/
def warning? : Note → Option (Failure × Nat)
  | log (.retrying failure attempt _ _) => some (failure, attempt)
  | _ => none

/-- Whether a note tells neither of the end of a session nor of a retry. -/
def IsSilent (n : Note) : Prop := n.rejection? = none ∧ n.warning? = none

lemma isSilent_of_isQuiet {n : Note} (h : n.isQuiet = true) : n.IsSilent := by
  cases n with
  | log event => cases event <;> first | exact ⟨rfl, rfl⟩ | cases h
  | sessionEnded side failure => cases h
  | _ => exact ⟨rfl, rfl⟩

lemma isSilent_closing (side : Side) : (closing side).IsSilent := by
  cases side <;> exact ⟨rfl, rfl⟩

end Note

namespace Relay

variable {ω : Type}

/-- Between the two relays nothing was noted of the end of a session or of a retry. -/
def Silent (r r' : Relay ω) : Prop :=
  ∃ ns, (∀ n ∈ ns, n.IsSilent) ∧ r'.history = r.history ++ ns

lemma Silent.refl (r : Relay ω) : r.Silent r := ⟨[], by simp, (List.append_nil _).symm⟩

lemma Silent.trans {r r' r'' : Relay ω} (h : r.Silent r') (h' : r'.Silent r'') : r.Silent r'' := by
  obtain ⟨ns, hs, hn⟩ := h
  obtain ⟨ms, hs', hm⟩ := h'
  refine ⟨ns ++ ms, fun n hmem => ?_, by rw [hm, hn, List.append_assoc]⟩
  rcases List.mem_append.mp hmem with h | h
  · exact hs n h
  · exact hs' n h

lemma Silent.note {r r' : Relay ω} (h : r.Silent r') {n : Note} (hn : n.IsSilent) :
    r.Silent (r'.note n) :=
  h.trans ⟨[n], by simpa using hn, rfl⟩

lemma Silent.of_continues {r r' : Relay ω} (h : r.Continues r') : r.Silent r' := by
  obtain ⟨ns, hq, hn⟩ := h.history
  exact ⟨ns, fun n hmem => Note.isSilent_of_isQuiet (hq n hmem), hn⟩

lemma Silent.of_ends {r r' : Relay ω} {side : Side} (h : r.Ends side r') : r.Silent r' := by
  obtain ⟨ns, hq, hn⟩ := h.history
  have hquiet : r.Silent { r with history := r.history ++ ns } :=
    ⟨ns, fun n hmem => Note.isSilent_of_isQuiet (hq n hmem), rfl⟩
  exact hquiet.trans ⟨[.closing side], by simpa using Note.isSilent_closing side, hn⟩

lemma Silent.of_starts {r r' : Relay ω} {side : Side} (h : r.Starts side r') : r.Silent r' := by
  rcases h.outcome with ⟨-, -, ns, hq, hn⟩ | ⟨-, -, hn⟩
  · refine ⟨.opened side :: ns, fun n hmem => ?_, hn⟩
    rcases List.mem_cons.mp hmem with rfl | hmem
    · exact ⟨rfl, rfl⟩
    · exact Note.isSilent_of_isQuiet (hq n hmem)
  · exact ⟨[], by simp, by simpa using hn⟩

lemma silent_startPair [Endpoints ω] (r : Relay ω) (status : BridgeStatus) :
    r.Silent (r.startPair status) := by
  obtain ⟨r₁, hs, hp⟩ := r.starts_pair status
  have hfresh : r.Silent r.fresh := Silent.refl r
  have h₁ : r.Silent r₁ := (hfresh.note ⟨rfl, rfl⟩).trans (Silent.of_starts hs)
  exact (h₁.note ⟨rfl, rfl⟩).trans (Silent.of_starts hp)

end Relay

/-- What is recorded of an attempt. -/
structure AttemptRecord where
  /-- The failures of its sessions, in the order in which the bridge heard of their ends. -/
  rejections : List Failure := []
  /-- How many ends had been heard of when the signal of the run was aborted. -/
  stoppedAt : Option Nat := none
  /-- The warnings before a retry, each with a failure and the number of an attempt. -/
  warnings : List (Failure × Nat) := []
  /-- By how much the count of failures has grown. -/
  counted : Nat := 0

namespace AttemptRecord

/-- Whether both sessions have ended before the signal of the run was aborted. -/
def JoinedUnstopped (R : AttemptRecord) : Prop :=
  R.rejections.length = 2 ∧ R.stoppedAt ≠ some 0 ∧ R.stoppedAt ≠ some 1

instance (R : AttemptRecord) : Decidable R.JoinedUnstopped :=
  inferInstanceAs (Decidable (_ ∧ _))

/-- Failures are counted and reported once, with the failure heard of first, if both sessions have
ended before the signal was aborted, and not at all otherwise. -/
def Accounted (attempt : Nat) (R : AttemptRecord) : Prop :=
  R.warnings = (if R.JoinedUnstopped then R.rejections.head?.toList.map (·, attempt) else []) ∧
    R.counted = R.warnings.length

end AttemptRecord

/-- Records what happens to the failures of each attempt. -/
def attemptRecorder {ω ε : Type} : Recorder ω ε AttemptRecord where
  blank := {}
  record b _ b' R :=
    let ns := b'.relay.history.drop b.relay.history.length
    { rejections := R.rejections ++ ns.filterMap Note.rejection?
      stoppedAt := R.stoppedAt <|>
        if (b.run.bind b'.stopReason?).isSome then some R.rejections.length else none
      warnings := R.warnings ++ ns.filterMap Note.warning?
      counted := R.counted + (b'.failures - b.failures) }

namespace Bridge

variable {ω ε : Type}

/-- The account that a bridge gives of the failures of its attempts. -/
structure Accounts (b : Bridge ω) (c : Chronicle AttemptRecord) : Prop where
  length : c.past.length = b.attempts
  past : ∀ k R, c.past[k]? = some R →
    R.Accounted k ∧ R.rejections.length = if k = 0 then 0 else 2
  current : c.current.Accounted b.attempts
  heard : b.active + c.current.rejections.length = if b.attempts = 0 then 0 else 2
  first : b.active ≠ 0 → b.firstFailure = c.current.rejections.head?
  stopped : b.active ≠ 0 → c.current.stoppedAt.isSome = (b.run.bind b.stopReason?).isSome
  early : ∀ n, c.current.stoppedAt = some n → n ≤ c.current.rejections.length
  total : b.failures = (c.all.map (·.counted)).sum

lemma filterMap_of_silent {ns : List Note} (h : ∀ n ∈ ns, n.IsSilent) :
    ns.filterMap Note.rejection? = [] ∧ ns.filterMap Note.warning? = [] :=
  ⟨List.filterMap_eq_nil_iff.mpr fun n hn => (h n hn).1,
    List.filterMap_eq_nil_iff.mpr fun n hn => (h n hn).2⟩

/-- When the signal of the run of the earlier bridge is aborted in the later one, it is recorded how
many ends had been heard of. -/
def stoppedAt (b b' : Bridge ω) (R : AttemptRecord) : Option Nat :=
  R.stoppedAt <|> if (b.run.bind b'.stopReason?).isSome then some R.rejections.length else none

lemma record_of_append {b b' : Bridge ω} {ns : List Note}
    (h : b'.relay.history = b.relay.history ++ ns) (e : BridgeEvent ε) (R : AttemptRecord) :
    attemptRecorder.record b e b' R =
      { rejections := R.rejections ++ ns.filterMap Note.rejection?
        stoppedAt := stoppedAt b b' R
        warnings := R.warnings ++ ns.filterMap Note.warning?
        counted := R.counted + (b'.failures - b.failures) } := by
  simp [attemptRecorder, stoppedAt, h]

lemma record_of_silent {b b' : Bridge ω} (h : b.relay.Silent b'.relay) (hf : b'.failures = b.failures)
    (e : BridgeEvent ε) (R : AttemptRecord) :
    attemptRecorder.record b e b' R = { R with stoppedAt := stoppedAt b b' R } := by
  obtain ⟨ns, hs, hn⟩ := h
  obtain ⟨hr, hw⟩ := filterMap_of_silent hs
  rw [record_of_append hn]
  simp [hr, hw, hf]

lemma stoppedAt_early {b b' : Bridge ω} {R : AttemptRecord}
    (h : ∀ n, R.stoppedAt = some n → n ≤ R.rejections.length) :
    ∀ n, stoppedAt b b' R = some n → n ≤ R.rejections.length := by
  intro n hn
  unfold stoppedAt at hn
  rcases hR : R.stoppedAt with _ | m
  · rw [hR] at hn
    by_cases hs : (b.run.bind b'.stopReason?).isSome = true <;> simp [hs] at hn
    omega
  · rw [hR] at hn
    obtain rfl : m = n := by simpa using hn
    exact h m hR

/-- Until the signal is aborted nothing is recorded of it. -/
lemma stoppedAt_isSome {b b' : Bridge ω} {R : AttemptRecord} (h : b.aborted <+: b'.aborted)
    (hR : R.stoppedAt.isSome = (b.run.bind b.stopReason?).isSome) :
    (stoppedAt b b' R).isSome = (b.run.bind b'.stopReason?).isSome := by
  unfold stoppedAt
  rcases hr : R.stoppedAt with _ | n
  · by_cases hs : (b.run.bind b'.stopReason?).isSome = true <;> simp [hs]
  · rw [hr] at hR
    rcases hrun : b.run with _ | run
    · simp [hrun] at hR
    · have hold : (b.stopReason? run).isSome := by simpa [hrun] using hR.symm
      simpa using (stopReason?_mono h hold).symm

/-- An abort after both ends were heard of changes nothing. -/
lemma joinedUnstopped_stoppedAt (b b' : Bridge ω) (R : AttemptRecord) :
    { R with stoppedAt := stoppedAt b b' R }.JoinedUnstopped ↔ R.JoinedUnstopped := by
  unfold AttemptRecord.JoinedUnstopped stoppedAt
  rcases hR : R.stoppedAt with _ | n
  · by_cases hs : (b.run.bind b'.stopReason?).isSome = true
    · simp only [hs, if_true]
      constructor
      · exact fun h => ⟨h.1, by simp⟩
      · exact fun h => ⟨h.1, by simp [h.1]⟩
    · simp [hs]
  · simp

lemma accounted_stoppedAt {k : Nat} {R : AttemptRecord} (h : R.Accounted k) (b b' : Bridge ω) :
    { R with stoppedAt := stoppedAt b b' R }.Accounted k := by
  unfold AttemptRecord.Accounted at h ⊢
  simp only [joinedUnstopped_stoppedAt]
  exact h

/-- What neither tells of an end nor begins an attempt keeps the account. -/
lemma Accounts.keep {b b' : Bridge ω} {e : BridgeEvent ε} {c : Chronicle AttemptRecord} (h : b.Accounts c)
    (hr : b.relay.Silent b'.relay) (ha : b'.attempts = b.attempts) (hf : b'.failures = b.failures)
    (hact : b'.active = b.active) (hff : b'.firstFailure = b.firstFailure)
    (hg : b.aborted <+: b'.aborted) (hrun : b.active ≠ 0 → b'.run = b.run) :
    b'.Accounts (attemptRecorder.update b e b' c) := by
  have hu : attemptRecorder.update b e b' c =
      { c with current := { c.current with stoppedAt := stoppedAt b b' c.current } } := by
    unfold Recorder.update
    rw [if_pos ha, record_of_silent hr hf]
  rw [hu]
  refine ⟨h.length.trans ha.symm, h.past, ?_, ?_, fun hz => ?_, fun hz => ?_, ?_, ?_⟩
  · rw [ha]
    exact accounted_stoppedAt h.current b b'
  · rw [ha, hact]
    exact h.heard
  · rw [hff]
    exact h.first (hact ▸ hz)
  · rw [hrun (hact ▸ hz)]
    exact stoppedAt_isSome hg (h.stopped (hact ▸ hz))
  · exact stoppedAt_early h.early
  · rw [hf, h.total]
    simp [Chronicle.all]

/-- The warnings that the news of an end leads to: one, if it is the last end of the attempt and the
signal of the run is not aborted. -/
def warningsAfter (b : Bridge ω) (failure : Failure) : List (Failure × Nat) :=
  if b.active - 1 = 0 ∧ b.run.bind b.stopReason? = none then
    [((b.firstFailure <|> some failure).getD .absent, b.attempts)]
  else []

lemma Accounts.hear {b b' : Bridge ω} {e : BridgeEvent ε} {c : Chronicle AttemptRecord}
    {ns : List Note} {failure : Failure} (h : b.Accounts c) (hz : b.active ≠ 0)
    (hn : b'.relay.history = b.relay.history ++ ns)
    (hrej : ns.filterMap Note.rejection? = [failure])
    (hwarn : ns.filterMap Note.warning? = b.warningsAfter failure)
    (ha : b'.attempts = b.attempts) (hf : b'.failures = b.failures + (b.warningsAfter failure).length)
    (hact : b'.active = b.active - 1) (hff : b'.firstFailure = (b.firstFailure <|> some failure))
    (hg : b'.aborted = b.aborted) (hrun : b'.active ≠ 0 → b'.run = b.run) :
    b'.Accounts (attemptRecorder.update b e b' c) := by
  have hsr : b'.stopReason? = b.stopReason? := by
    funext run
    unfold stopReason?
    rw [hg]
  have hstop : stoppedAt b b' c.current = c.current.stoppedAt := by
    have hs := h.stopped hz
    unfold stoppedAt
    rw [hsr, ← hs]
    cases c.current.stoppedAt <;> rfl
  have hu : attemptRecorder.update b e b' c =
      { c with current := {
          rejections := c.current.rejections ++ [failure]
          stoppedAt := c.current.stoppedAt
          warnings := c.current.warnings ++ b.warningsAfter failure
          counted := c.current.counted + (b.warningsAfter failure).length } } := by
    unfold Recorder.update
    rw [if_pos ha, record_of_append hn, hrej, hwarn, hstop, hf, Nat.add_sub_cancel_left]
  have hheard := h.heard
  have hattempts : b.attempts ≠ 0 := by
    intro h0
    rw [if_pos h0] at hheard
    omega
  rw [if_neg hattempts] at hheard
  have hopen : ¬ c.current.JoinedUnstopped := fun hj => by
    have := hj.1
    omega
  obtain ⟨hw, hc⟩ := h.current
  rw [if_neg hopen] at hw
  rw [hw] at hc
  rw [hu]
  refine ⟨h.length.trans ha.symm, h.past, ⟨?_, ?_⟩, ?_, fun hz' => ?_, fun hz' => ?_, ?_, ?_⟩
  · rw [ha]
    simp only [hw, List.nil_append]
    rcases hr : c.current.rejections with _ | ⟨f, _ | ⟨f', l⟩⟩
    · have h2 : b.active = 2 := by simpa [hr] using hheard
      simp [warningsAfter, AttemptRecord.JoinedUnstopped, h2]
    · have h1 : b.active = 1 := by simpa [hr] using hheard
      have hfirst : b.firstFailure = some f := by simpa [hr] using h.first hz
      have hs := h.stopped hz
      rcases ho : c.current.stoppedAt with _ | n
      · have hnone : b.run.bind b.stopReason? = none := by simpa [ho] using hs.symm
        simp [warningsAfter, AttemptRecord.JoinedUnstopped, h1, hnone, hfirst]
      · have hsome : b.run.bind b.stopReason? ≠ none := by
          rw [← Option.isSome_iff_ne_none, ← hs, ho]
          rfl
        have hle : n ≤ 1 := by simpa [hr] using h.early n ho
        have hn01 : n = 0 ∨ n = 1 := by omega
        rcases hn01 with rfl | rfl <;>
          simp [warningsAfter, AttemptRecord.JoinedUnstopped, hsome]
    · simp [hr] at hheard
      omega
  · simp [hw, hc]
  · rw [ha, if_neg hattempts, hact]
    simp
    omega
  · rw [hff, h.first hz]
    rcases c.current.rejections with _ | ⟨f, l⟩ <;> rfl
  · rw [hrun hz', hsr]
    exact h.stopped hz
  · intro n hn'
    have := h.early n hn'
    simp
    omega
  · rw [hf, h.total]
    simp [Chronicle.all]
    omega

lemma Accounts.begin {b b' : Bridge ω} {e : BridgeEvent ε} {c : Chronicle AttemptRecord} (h : b.Accounts c)
    (hz : b.active = 0) (hr : b.relay.Silent b'.relay) (ha : b'.attempts = b.attempts + 1)
    (hf : b'.failures = b.failures) (hact : b'.active = 2) (hff : b'.firstFailure = none)
    (hs : b.run.bind b'.stopReason? = none) (hs' : b'.run.bind b'.stopReason? = none) :
    b'.Accounts (attemptRecorder.update b e b' c) := by
  have hne : b'.attempts ≠ b.attempts := by omega
  have hu : attemptRecorder.update b e b' c = { past := c.past ++ [c.current], current := {} } := by
    unfold Recorder.update
    rw [if_neg hne, record_of_silent hr hf]
    simp [attemptRecorder, stoppedAt, hs]
  have hheard := h.heard
  rw [hz, Nat.zero_add] at hheard
  rw [hu]
  refine ⟨?_, fun k R hk => ?_, ?_, ?_, fun _ => hff, fun _ => ?_, ?_, ?_⟩
  · simp [h.length, ha]
  · rcases Nat.lt_or_ge k c.past.length with hlt | hge
    · rw [List.getElem?_append_left hlt] at hk
      exact h.past k R hk
    · rw [List.getElem?_append_right hge] at hk
      have hk0 : k - c.past.length = 0 := by
        rcases hd : k - c.past.length with _ | m
        · rfl
        · simp [hd] at hk
      have hkeq : k = b.attempts := by
        have := h.length
        omega
      obtain rfl : c.current = R := by simpa [hk0] using hk
      rw [hkeq]
      exact ⟨h.current, hheard⟩
  · simp [AttemptRecord.Accounted, AttemptRecord.JoinedUnstopped]
  · simp [hact, ha]
  · rw [hs']
    rfl
  · intro n hn
    cases hn
  · rw [hf, h.total]
    simp [Chronicle.all]

lemma accounts_create (world : ω) (request : SubscribeRequest) (metadata : Option Login)
    (policy : Backoff.Policy) (timer : Backoff.Timer) :
    (create world request metadata policy timer).Accounts { current := {} } := by
  refine ⟨rfl, fun k R hk => ?_, ⟨rfl, rfl⟩, rfl, fun h => absurd rfl h, fun h => absurd rfl h, ?_, rfl⟩
  · simp at hk
  · intro n hn
    cases hn

section

variable [Endpoints ω]

lemma heard_history (b : Bridge ω) (side : Side) (failure : Failure) (rest : List Delivery)
    {r : Relay ω} (h : (b.hear side failure rest).relay.Silent r) :
    ∃ ns, ns.filterMap Note.rejection? = [] ∧ ns.filterMap Note.warning? = [] ∧
      r.history = b.relay.history ++ .sessionEnded side failure :: ns := by
  have hc : Relay.Silent ({ b.relay with underway := rest }.note (.sessionEnded side failure))
      (b.hear side failure rest).relay := .of_continues (Relay.continues_cancel _ failure)
  obtain ⟨ns, hs, hn⟩ := hc.trans h
  obtain ⟨hr, hw⟩ := filterMap_of_silent hs
  exact ⟨ns, hr, hw, hn.trans (List.append_assoc _ _ _)⟩

/-- The account is kept by every event. -/
theorem Accounts.step {b : Bridge ω} {c : Chronicle AttemptRecord} (h : b.Accounts c)
    (hb : b.Lifecycle) (occur : ε → ω → Option (List Answer × ω)) (e : BridgeEvent ε) :
    (b.step occur e).Accounts (attemptRecorder.update b e (b.step occur e) c) := by
  have free (hf : b.run = none ∨ b.pause.isSome = true) : b.active = 0 := hb.active_eq_zero hf
  have ht := step_transition occur b e
  generalize b.step occur e = b' at ht
  cases ht with
  | still =>
    exact h.keep (.refl _) rfl rfl rfl rfl (List.prefix_refl _) (fun _ => rfl)
  | refused run busy =>
    exact h.keep ((Relay.Silent.refl _).note ⟨rfl, rfl⟩) rfl rfl rfl rfl (List.prefix_refl _)
      fun _ => rfl
  | started run isFree going more =>
    have hr : b.run = none := by simpa [isFree] using hb.isBusy_iff
    have hs : b.relay.Silent (b.startAttempt run).relay :=
      ((Relay.Silent.refl _).note ⟨rfl, rfl⟩).trans (Relay.silent_startPair _ .running)
    exact h.begin (free (Or.inl hr)) hs rfl rfl rfl rfl (by rw [hr]; rfl) going
  | declined run isFree spent =>
    have hr : b.run = none := by simpa [isFree] using hb.isBusy_iff
    exact h.keep (((Relay.Silent.refl _).note ⟨rfl, rfl⟩).note ⟨rfl, rfl⟩) rfl rfl rfl rfl
      (List.prefix_refl _) (fun hz => absurd (free (Or.inl hr)) hz)
  | signalled signal reason fresh other =>
    exact h.keep (.refl _) rfl rfl rfl rfl (List.prefix_append _ _) (fun _ => rfl)
  | cancelled signal reason run fresh current own unpaused =>
    exact h.keep (.of_continues (Relay.continues_cancel b.relay reason)) rfl rfl rfl rfl
      (List.prefix_append _ _) (fun _ => rfl)
  | interrupted signal reason run pause fresh current own paused =>
    exact h.keep (((Relay.Silent.refl _).note ⟨rfl, rfl⟩).note ⟨rfl, rfl⟩) rfl rfl rfl rfl
      (List.prefix_append _ _)
      (fun hz => absurd (free (Or.inr (Option.isSome_of_eq_some paused))) hz)
  | waited duration =>
    exact h.keep (.refl _) rfl rfl rfl rfl (List.prefix_refl _) (fun _ => rfl)
  | resumed duration run pause current paused going more =>
    have hs : b.relay.Silent (({ b with clock := b.clock + duration }.startAttempt run).relay) :=
      ((Relay.Silent.refl _).note ⟨rfl, rfl⟩).trans (Relay.silent_startPair _ .running)
    exact h.begin (free (Or.inr (Option.isSome_of_eq_some paused))) hs rfl rfl rfl rfl
      (by rw [current]; exact going) going
  | completed duration run pause current paused spent =>
    exact h.keep (((Relay.Silent.refl _).note ⟨rfl, rfl⟩).note ⟨rfl, rfl⟩) rfl rfl rfl rfl
      (List.prefix_refl _)
      (fun hz => absurd (free (Or.inr (Option.isSome_of_eq_some paused))) hz)
  | occurred event result happened =>
    exact h.keep (.of_continues (Relay.continues_withWorld b.relay result)) rfl rfl rfl rfl
      (List.prefix_refl _) (fun _ => rfl)
  | answered relay answer rest first =>
    have hc : b.relay.Continues { b.relay with underway := rest } :=
      Relay.continues_underway b.relay (by simp [first, Delivery.tells])
    have hs : b.relay.Silent ({ b.relay with underway := rest }.answer answer) := by
      rcases Relay.answer_continues_or_ends { b.relay with underway := rest } answer with
        hr | ⟨side, hr⟩
      · exact .of_continues (hc.trans hr)
      · exact .of_ends (hc.ends hr)
    exact h.keep hs rfl rfl rfl rfl (List.prefix_refl _) (fun _ => rfl)
  | guestAnswered number outcome rest first =>
    have hc : b.relay.Continues { b.relay with underway := rest } :=
      Relay.continues_underway b.relay (by simp [first, Delivery.tells])
    exact h.keep ((Relay.Silent.of_continues hc).note ⟨rfl, rfl⟩) rfl rfl rfl rfl
      (List.prefix_refl _) (fun _ => rfl)
  | rejected side failure rest first left =>
    have hz : b.active ≠ 0 := active_pos_of_news hb first
    have hl : b.active - 1 ≠ 0 := by
      rcases left with left | left
      · exact left
      · exact absurd (free (Or.inl left)) hz
    obtain ⟨ns, hr, hw, hn⟩ := heard_history b side failure rest (.refl _)
    have hnone : b.warningsAfter failure = [] := by simp [warningsAfter, hl]
    exact h.hear hz hn (congrArg (failure :: ·) hr) (hw.trans hnone.symm) rfl
      (by rw [hnone]; rfl) rfl rfl rfl (fun _ => rfl)
  | joinedStopped side failure rest run first last current stopped =>
    obtain ⟨ns, hr, hw, hn⟩ := heard_history b side failure rest
      (r := ((b.hear side failure rest).stop run).relay)
      (((Relay.Silent.refl _).note ⟨rfl, rfl⟩).note ⟨rfl, rfl⟩)
    have hnone : b.warningsAfter failure = [] := by
      have : b.stopReason? run ≠ none := Option.isSome_iff_ne_none.mp stopped
      simp [warningsAfter, current, this]
    exact h.hear (active_pos_of_news hb first) hn (congrArg (failure :: ·) hr)
      (hw.trans hnone.symm) rfl (by rw [hnone]; rfl) rfl rfl rfl fun hne => absurd last hne
  | joinedFailed side failure rest run first last current going =>
    have hone : b.warningsAfter failure =
        [((b.firstFailure <|> some failure).getD .absent, b.attempts)] := by
      simp [warningsAfter, current, going, last]
    obtain ⟨failures, forwarded, delay, hlog⟩ : ∃ failures forwarded delay,
        (b.hear side failure rest).startPause.relay.history =
          ((b.hear side failure rest).relay.note (.backoffAsked failures)).history ++
            [.log (.retrying ((b.firstFailure <|> some failure).getD .absent) b.attempts forwarded
              delay)] :=
      ⟨_, _, _, rfl⟩
    obtain ⟨ns, hr, hw, hn⟩ := heard_history b side failure rest
      ((Relay.Silent.refl _).note (n := .backoffAsked failures) ⟨rfl, rfl⟩)
    rw [hn, List.append_assoc, List.cons_append] at hlog
    refine h.hear (active_pos_of_news hb first) hlog ?_ ?_ rfl (by rw [hone]; rfl) rfl rfl rfl
      fun hne => absurd last hne
    · refine congrArg (failure :: ·) ?_
      rw [List.filterMap_append, hr]
      rfl
    · refine Eq.trans ?_ hone.symm
      change List.filterMap Note.warning? (ns ++ _) = _
      rw [List.filterMap_append, hw]
      rfl

/-- Every failure of a session reaches the count and the log, once for each attempt and with the
failure heard of first, unless the signal of the run was aborted before both ends had been heard of.
An attempt of which a session had failed before the abort, but not both, is left out. -/
theorem failures_reported_unless_stopped (world : ω) (request : SubscribeRequest)
    (metadata : Option Login) (policy : Backoff.Policy) (timer : Backoff.Timer)
    (occur : ε → ω → Option (List Answer × ω))
    (events : List (BridgeEvent ε)) :
    let s := attemptRecorder.follow occur (create world request metadata policy timer) events
    s.2.all.length = s.1.attempts + 1 ∧
      (∀ k (R : AttemptRecord), s.2.past[k]? = some R →
        R.rejections.length = if k = 0 then 0 else 2) ∧
      (∀ k (R : AttemptRecord), s.2.all[k]? = some R →
        R.warnings = (if R.rejections.length = 2 ∧ R.stoppedAt ≠ some 0 ∧ R.stoppedAt ≠ some 1 then
          R.rejections.head?.toList.map (·, k) else []) ∧
        R.counted = R.warnings.length) ∧
      s.1.failures = (s.2.all.map (·.counted)).sum := by
  intro s
  have h : s.1.Lifecycle ∧ s.1.Accounts s.2 :=
    Recorder.follow_induction (P := fun b c => b.Lifecycle ∧ b.Accounts c)
      (fun b e c hc => ⟨hc.1.step occur e, hc.2.step hc.1 occur e⟩)
      ⟨lifecycle_create world request metadata policy timer,
        accounts_create world request metadata policy timer⟩ events
  obtain ⟨-, h⟩ := h
  refine ⟨by simp [Chronicle.all, h.length], fun k R hk => (h.past k R hk).2, fun k R hk => ?_,
    h.total⟩
  change R.Accounted k
  unfold Chronicle.all at hk
  rcases Nat.lt_or_ge k s.2.past.length with hlt | hge
  · rw [List.getElem?_append_left hlt] at hk
    exact (h.past k R hk).1
  · rw [List.getElem?_append_right hge] at hk
    have hk0 : k - s.2.past.length = 0 := by
      rcases hd : k - s.2.past.length with _ | m
      · rfl
      · simp [hd] at hk
    have hkeq : k = s.1.attempts := by
      have := h.length
      omega
    obtain rfl : s.2.current = R := by simpa [hk0] using hk
    rw [hkeq]
    exact h.current

end

/-- The target breaks the stream, and the bridge is stopped while the collector still takes its
time: both ends are heard of, and the failure is neither counted nor reported. -/
example :
    let s := attemptRecorder.follow Scripted.occur
      (create { script := { ignorePublish := true } } ⟨"", []⟩ none fun _ _ => .ofNat 0)
      [.start ⟨0, some 0, none⟩, .endpoint .requestOk, .turn, .endpoint (.arrive [.update [97]]),
        .turn, .turn, .turn, .endpoint (.arrive [.failure "boom"]), .turn, .turn,
        .abort 0 (.error "stop"), .endpoint .sendOk, .turn, .turn, .turn]
    s.2.current.rejections.length = 2 ∧ s.2.current.stoppedAt = some 1 ∧
      s.2.current.warnings.length = 0 ∧ s.1.failures = 0 := by
  decide

end Bridge

end TelemetryBridge
