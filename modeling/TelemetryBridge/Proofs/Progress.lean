import Mathlib.Data.List.Induction
import TelemetryBridge.Proofs.AddedNotes

/-!
# What an event does to the counts

A bridge counts its attempts, their failures and the updates it has forwarded, and its history tells
of retries, delays and the ends of runs. `Bridge.Progress` is the table of what an event can do to
these: the run goes on, begins an attempt, fails one or ends. `Bridge.Solo` says how the counts go
together when only one run uses the bridge.
-/

namespace TelemetryBridge

/-! ## What the history tells -/

namespace Note

/-- The attempt that a retry is reported of, and the number of updates that it forwarded. -/
def retry? : Note → Option (Nat × Nat)
  | log (.retrying _ attempt forwarded _) => some (attempt, forwarded)
  | _ => none

/-- Whether a note says that a delay is asked for. -/
def isBackoff : Note → Bool
  | backoffAsked _ => true
  | _ => false

/-- The number of a run that is over, and its result. -/
def verdict? : Note → Option (Nat × Except Failure Totals)
  | runEnded number result => some (number, result)
  | _ => none

/-- Whether a note tells of no retry, no delay and no end of a run. -/
def isUneventful (n : Note) : Bool := n.retry?.isNone && !n.isBackoff && n.verdict?.isNone

lemma coversStart_isUneventful : CoversStart isUneventful where
  quiet n h := by
    cases n with
    | log event => cases event <;> first | rfl | cases h
    | backoffAsked | runEnded => cases h
    | _ => rfl
  closing := by rintro (_ | _) <;> rfl
  heard _ _ := rfl
  attempt _ := rfl
  opening _ _ _ := rfl
  opened _ := rfl

lemma isUneventful_iff {n : Note} : n.isUneventful = true ↔
    n.retry? = none ∧ n.isBackoff = false ∧ n.verdict? = none := by
  simp [isUneventful, and_assoc]

end Note

/-- The run that a call asks for. -/
def BridgeEvent.run? {ε : Type} : BridgeEvent ε → Option BridgeRun
  | start run => some run
  | _ => none

namespace Relay

/-- Uneventful notes tell nothing of retries, delays and the ends of runs. -/
lemma Adds.told {ω : Type} {r r' : Relay ω} (h : r.Adds Note.isUneventful r') :
    r'.history.filterMap Note.retry? = r.history.filterMap Note.retry? ∧
      r'.history.countP Note.isBackoff = r.history.countP Note.isBackoff ∧
      r'.history.filterMap Note.verdict? = r.history.filterMap Note.verdict? := by
  obtain ⟨ns, hs, hn⟩ := h
  have hretry : ns.filterMap Note.retry? = [] :=
    List.filterMap_eq_nil_iff.mpr fun n hm => (Note.isUneventful_iff.mp (hs n hm)).1
  have hbackoff : ns.countP Note.isBackoff = 0 :=
    List.countP_eq_zero.mpr fun n hm => by simp [(Note.isUneventful_iff.mp (hs n hm)).2.1]
  have hverdict : ns.filterMap Note.verdict? = [] :=
    List.filterMap_eq_nil_iff.mpr fun n hm => (Note.isUneventful_iff.mp (hs n hm)).2.2
  rw [hn, List.filterMap_append, List.countP_append, List.filterMap_append, hretry, hbackoff,
    hverdict]
  exact ⟨List.append_nil _, rfl, List.append_nil _⟩

end Relay

/-! ## What an event does to the counts -/

namespace Bridge

variable {ω ε : Type}

/-- Whether an event is the doing of a run: it asks a free bridge for it, or the run goes on. -/
def Runs (b : Bridge ω) (e : BridgeEvent ε) (run : BridgeRun) : Prop :=
  e.run? = some run ∧ b.isBusy = false ∨ b.run = some run

/-- What an event can do to the counts of a bridge. -/
inductive Progress (b : Bridge ω) (e : BridgeEvent ε) (b' : Bridge ω) : Prop
  | goesOn (attempts : b'.attempts = b.attempts) (failures : b'.failures = b.failures)
    (before : b'.forwardedBefore = b.forwardedBefore) (status : b'.status = b.status)
    (current : b'.run = b.run)
    -- A call that a busy bridge refuses is over at once, and that is told.
    (told : e.run?.isSome = true ∧ b.isBusy = true ∨ b.relay.Adds Note.isUneventful b'.relay)
  | begins (run) (cause : b.Runs e run) (more : b.isExhausted run = false)
    (rested : b.status ≠ .running) (attempts : b'.attempts = b.attempts + 1)
    (failures : b'.failures = b.failures) (before : b'.forwardedBefore = b.relay.forwarded)
    (status : b'.status = .running) (current : b'.run = some run)
    (told : b.relay.Adds Note.isUneventful b'.relay)
  | fails (run) (running : b.status = .running) (was : b.run = some run)
    (attempts : b'.attempts = b.attempts) (failures : b'.failures = b.failures + 1)
    (before : b'.forwardedBefore = b.forwardedBefore) (status : b'.status = .restarting)
    (current : b'.run = some run)
    (told : ∃ (r : Relay ω) (failures : Nat) (cause : Failure) (delay : Number),
      b.relay.Adds Note.isUneventful r ∧ b'.relay.history = r.history ++ [.backoffAsked failures,
        .log (.retrying cause b'.attempts (b'.relay.forwarded - b'.forwardedBefore) delay)])
  | ends (run) (cause : b.Runs e run)
    (why : (b'.stopReason? run).isSome = true ∨ b.status ≠ .running ∧ b.isExhausted run = true)
    (attempts : b'.attempts = b.attempts) (failures : b'.failures = b.failures)
    (before : b'.forwardedBefore = b.forwardedBefore) (status : b'.status = .stopped)
    (current : b'.run = none)
    (told : ∃ r : Relay ω, b.relay.Adds Note.isUneventful r ∧ b'.relay.history = r.history ++
      [.log (.bridgeStopped b'.stats), .runEnded run.number (.ok b'.stats)])

lemma stop_told {b : Bridge ω} {r : Relay ω} (h : r.Adds Note.isUneventful b.relay)
    (run : BridgeRun) : ∃ r' : Relay ω, r.Adds Note.isUneventful r' ∧
      (b.stop run).relay.history = r'.history ++
        [.log (.bridgeStopped (b.stop run).stats), .runEnded run.number (.ok (b.stop run).stats)] :=
  ⟨b.relay, h, by simp [stop, note, Relay.note, stats]⟩

lemma startPause_told {b : Bridge ω} {r : Relay ω} (h : r.Adds Note.isUneventful b.relay) :
    ∃ (r' : Relay ω) (failures : Nat) (cause : Failure) (delay : Number),
      r.Adds Note.isUneventful r' ∧ b.startPause.relay.history = r'.history ++
        [.backoffAsked failures, .log (.retrying cause b.startPause.attempts
          (b.startPause.relay.forwarded - b.startPause.forwardedBefore) delay)] :=
  ⟨b.relay, _, _, _, h, List.append_assoc _ _ _⟩

section

variable [Endpoints ω]

/-- The table of what happens to the counts is complete. -/
theorem Lifecycle.progress {b : Bridge ω} (hb : b.Lifecycle)
    (occur : ε → ω → Option (List Answer × ω)) (e : BridgeEvent ε) :
    b.Progress e (b.step occur e) := by
  have start := Note.coversStart_isUneventful
  have course := start.toCoversCourse
  have free (hf : b.isBusy = false) : b.status ≠ .running := by
    intro hs
    simp [isBusy, hs] at hf
  have paused {pause : Pause} (hp : b.pause = some pause) : b.status ≠ .running := by
    intro hs
    have hfits := hb.status
    unfold StatusFits at hfits
    rw [hs] at hfits
    cases hp.symm.trans hfits.2.1
  have ht := step_transition occur b e
  generalize b.step occur e = b' at ht ⊢
  cases ht with
  | still | signalled | waited => exact .goesOn rfl rfl rfl rfl rfl (Or.inr (.refl _))
  | refused run busy => exact .goesOn rfl rfl rfl rfl rfl (Or.inl ⟨rfl, busy⟩)
  | started run isFree going more =>
    exact .begins run (Or.inl ⟨rfl, isFree⟩) more (free isFree) rfl rfl rfl rfl rfl
      (adds_startAttempt start b run)
  | declined run isFree spent =>
    refine .ends run (Or.inl ⟨rfl, isFree⟩) ?_ rfl rfl rfl rfl rfl (stop_told (.refl _) run)
    exact spent.imp id fun h => ⟨free isFree, h⟩
  | cancelled signal reason run fresh current own unpaused =>
    exact .goesOn rfl rfl rfl rfl rfl
      (Or.inr (.of_continues course (Relay.continues_cancel _ reason)))
  | interrupted signal reason run pause fresh current own isPaused =>
    exact .ends run (Or.inr current) (Or.inl (stopReason?_aborted b own reason)) rfl rfl rfl rfl rfl
      (stop_told (b := { b with aborted := b.aborted ++ [(signal, reason)] }) (.refl _) run)
  | resumed duration run pause current isPaused going more =>
    exact .begins run (Or.inr current) more (paused isPaused) rfl rfl rfl rfl rfl
      (adds_startAttempt start { b with clock := b.clock + duration } run)
  | completed duration run pause current isPaused spent =>
    refine .ends run (Or.inr current) ?_ rfl rfl rfl rfl rfl
      (stop_told (b := { b with clock := b.clock + duration }) (.refl _) run)
    exact spent.imp id fun h => ⟨paused isPaused, h⟩
  | occurred event result happened =>
    exact .goesOn rfl rfl rfl rfl rfl
      (Or.inr (.of_continues course (Relay.continues_withWorld _ result)))
  | answered relay answer rest first =>
    exact .goesOn rfl rfl rfl rfl rfl (Or.inr (Relay.adds_answer course _ rest answer))
  | guestAnswered number outcome rest first =>
    exact .goesOn rfl rfl rfl rfl rfl (Or.inr ((Relay.Adds.refl b.relay).note rfl))
  | rejected side failure rest first left =>
    exact .goesOn rfl rfl rfl rfl rfl (Or.inr (adds_hear course b side failure rest))
  | joinedStopped side failure rest run first last current stopped =>
    exact .ends run (Or.inr current) (Or.inl stopped) rfl rfl rfl rfl rfl
      (stop_told (adds_hear course b side failure rest) run)
  | joinedFailed side failure rest run first last current going =>
    obtain ⟨running, -, -⟩ := hb.running_of_active (active_pos_of_news hb first)
    exact .fails run running current rfl rfl rfl rfl current
      (startPause_told (adds_hear course b side failure rest))

end

/-! ## A single run -/

section

variable {b : Bridge ω} {e : BridgeEvent ε} {run : BridgeRun}

/-- How the attempts and the failures of a single run go together. -/
def CountsFit (run : BridgeRun) (b : Bridge ω) : Prop :=
  match b.status with
  | .idle | .restarting => b.attempts = b.failures
  | .running => b.attempts = b.failures + 1
  | .stopped => b.failures ≤ b.attempts ∧
      ((b.stopReason? run).isSome = true ∨ b.attempts = b.failures ∧ b.isExhausted run = true)

/-- What holds of a bridge that only the given run uses. -/
structure Solo (run : BridgeRun) (b : Bridge ω) : Prop where
  own : ∀ r, b.run = some r → r = run
  fits : b.CountsFit run
  limited : ∀ k < b.attempts, { b with attempts := k }.isExhausted run = false

/-- An event that asks for no run but the given one, and for that while the bridge is idle. -/
def Asks (run : BridgeRun) (b : Bridge ω) (e : BridgeEvent ε) : Prop :=
  ∀ r, e.run? = some r → r = run ∧ b.status = .idle

lemma CountsFit.failures_le (h : b.CountsFit run) : b.failures ≤ b.attempts := by
  unfold CountsFit at h
  split at h
  · exact Nat.le_of_eq h.symm
  · exact Nat.le_of_eq h.symm
  · omega
  · exact h.1

lemma CountsFit.not_running (h : b.CountsFit run) (he : b.attempts ≤ b.failures) :
    b.status ≠ .running := by
  intro hs
  unfold CountsFit at h
  rw [hs] at h
  dsimp only at h
  omega

/-- Between two attempts all of them have failed. -/
lemma CountsFit.even (h : b.CountsFit run) (rested : b.status ≠ .running)
    (going : b.status ≠ .stopped) : b.attempts = b.failures := by
  unfold CountsFit at h
  split at h
  · exact h
  · exact h
  · next hs => exact absurd hs rested
  · next hs => exact absurd hs going

/-- What is the doing of a run happens to a bridge that is idle or in the run. -/
lemma Solo.of_runs (h : b.Solo run) (hb : b.Lifecycle) (asks : b.Asks run e) {r : BridgeRun}
    (hr : b.Runs e r) : r = run ∧ b.status ≠ .stopped := by
  rcases hr with ⟨hasked, -⟩ | hcurrent
  · obtain ⟨rfl, hs⟩ := asks r hasked
    exact ⟨rfl, by simp [hs]⟩
  · have busy : b.isBusy = true := hb.isBusy_iff.mpr (Option.isSome_of_eq_some hcurrent)
    refine ⟨h.own r hcurrent, fun hs => ?_⟩
    simp [isBusy, hs] at busy

/-- A limit on the number of attempts is used up exactly when they have reached it. -/
lemma isExhausted_ofNat {m : Nat} (hl : run.limit = some (.ofNat m)) :
    b.isExhausted run = decide (m ≤ b.attempts) := by
  have hle : Number.le (.ofNat m) (.ofNat b.attempts) = decide (m ≤ b.attempts) :=
    decide_eq_decide.mpr Rat.natCast_le_natCast
  simp [isExhausted, hl, hle]

/-- A run with a limit that is over and was not stopped has failed as often as the limit says. -/
lemma Solo.attempts_of_limit (h : b.Solo run) {m : Nat} (hl : run.limit = some (.ofNat m))
    (going : b.stopReason? run = none) (hs : b.status = .stopped) :
    b.attempts = m ∧ b.failures = m := by
  have hfits := h.fits
  unfold CountsFit at hfits
  rw [hs] at hfits
  obtain ⟨-, hstop | ⟨heven, hspent⟩⟩ := hfits
  · rw [going] at hstop
    cases hstop
  · rw [isExhausted_ofNat hl, decide_eq_true_iff] at hspent
    have hle : b.attempts ≤ m := by
      by_contra hlt
      have hopen := h.limited m (Nat.lt_of_not_le hlt)
      rw [isExhausted_ofNat hl, decide_eq_false_iff_not] at hopen
      exact hopen (Nat.le_refl m)
    have hall : b.attempts = m := Nat.le_antisymm hle hspent
    exact ⟨hall, heven.symm.trans hall⟩

variable [Endpoints ω]

lemma aborted_step (occur : ε → ω → Option (List Answer × ω))
    (b : Bridge ω) (e : BridgeEvent ε) : b.aborted <+: (b.step occur e).aborted := by
  have ht := step_transition occur b e
  generalize b.step occur e = b' at ht
  cases ht with
  | signalled | cancelled | interrupted => exact List.prefix_append _ _
  | _ => exact List.prefix_refl _

/-- Every event keeps what holds of a bridge that only the given run uses. -/
theorem Solo.step (h : b.Solo run) (hb : b.Lifecycle)
    (occur : ε → ω → Option (List Answer × ω)) (asks : b.Asks run e) :
    (b.step occur e).Solo run := by
  have hprogress := hb.progress occur e
  have haborted := aborted_step occur b e
  generalize b.step occur e = b' at *
  cases hprogress with
  | goesOn attempts failures before status current told =>
    refine ⟨fun r hr => h.own r (current ▸ hr), ?_, attempts ▸ h.limited⟩
    have hfits := h.fits
    unfold CountsFit isExhausted at hfits ⊢
    rw [status, attempts, failures]
    split at hfits
    · exact hfits
    · exact hfits
    · exact hfits
    · exact ⟨hfits.1, hfits.2.imp (stopReason?_mono haborted) id⟩
  | begins r cause more rested attempts failures before status current told =>
    obtain ⟨rfl, going⟩ := h.of_runs hb asks cause
    refine ⟨fun r' hr => Option.some.inj (hr.symm.trans current), ?_, fun k hk => ?_⟩
    · unfold CountsFit
      rw [status, attempts, failures, h.fits.even rested going]
    · rw [attempts] at hk
      rcases Nat.lt_or_eq_of_le (Nat.le_of_lt_succ hk) with hlt | rfl
      · exact h.limited k hlt
      · exact more
  | fails r running was attempts failures before status current told =>
    obtain rfl := h.own r was
    refine ⟨fun r' hr => Option.some.inj (hr.symm.trans current), ?_, attempts ▸ h.limited⟩
    have hfits := h.fits
    unfold CountsFit at hfits ⊢
    rw [running] at hfits
    rw [status, attempts, failures, hfits]
  | ends r cause why attempts failures before status current told =>
    obtain ⟨rfl, going⟩ := h.of_runs hb asks cause
    refine ⟨fun r' hr => ?_, ?_, attempts ▸ h.limited⟩
    · rw [current] at hr
      cases hr
    · unfold CountsFit isExhausted at *
      rw [status, attempts, failures]
      exact ⟨h.fits.failures_le, why.imp id fun ⟨rested, hspent⟩ =>
        ⟨h.fits.even rested going, hspent⟩⟩

/-- Before the run begins the bridge stays idle. -/
lemma idle_step (hb : b.Lifecycle) (occur : ε → ω → Option (List Answer × ω))
    (hs : b.status = .idle) (he : e.run? = none) : (b.step occur e).status = .idle := by
  have unasked (run : BridgeRun) : ¬b.Runs e run := by
    rintro (⟨hasked, -⟩ | hcurrent)
    · cases he.symm.trans hasked
    · have busy : b.isBusy = true := hb.isBusy_iff.mpr (Option.isSome_of_eq_some hcurrent)
      simp [isBusy, hs] at busy
  cases hb.progress occur e with
  | goesOn _ _ _ status => exact status.trans hs
  | begins run cause => exact absurd cause (unasked run)
  | fails run _ was => exact absurd (Or.inr was) (unasked run)
  | ends run cause => exact absurd cause (unasked run)

/-- What holds at first, and is kept by every event while only the given run uses the bridge, holds
of every such run and its record. -/
theorem solo_induction {ρ : Type} {k : Recorder ω ε ρ} {occur : ε → ω → Option (List Answer × ω)}
    {P : Bridge ω → Chronicle ρ → Prop}
    (keep : ∀ b e c, b.Lifecycle → b.Solo run → b.Asks run e → P b c →
      P (b.step occur e) (k.update b e (b.step occur e) c))
    {world : ω} {request : SubscribeRequest} {metadata : Option Login} {policy : Backoff.Policy}
    {timer : Backoff.Timer}
    (h : P (create world request metadata policy timer) { current := k.blank })
    (events : List (BridgeEvent ε)) (single : events.filterMap BridgeEvent.run? <+: [run]) :
    let s := k.follow occur (create world request metadata policy timer) events
    s.1.Lifecycle ∧ s.1.Solo run ∧ P s.1 s.2 := by
  suffices hidle : let s := k.follow occur (create world request metadata policy timer) events
      s.1.Lifecycle ∧ s.1.Solo run ∧ P s.1 s.2 ∧
        (events.filterMap BridgeEvent.run? = [] → s.1.status = .idle) from
    ⟨hidle.1, hidle.2.1, hidle.2.2.1⟩
  induction events using List.reverseRecOn with
  | nil =>
    refine ⟨lifecycle_create world request metadata policy timer,
      ⟨fun _ hr => ?_, rfl, fun _ hk => absurd hk (Nat.not_lt_zero _)⟩, h, fun _ => rfl⟩
    cases hr
  | append_singleton events e ih =>
    rw [List.filterMap_append] at single
    obtain ⟨hlife, hsolo, hP, hidle⟩ := ih ((List.prefix_append _ _).trans single)
    rw [Recorder.follow_snoc]
    generalize k.follow occur _ events = s at *
    have asks : s.1.Asks run e := by
      -- A call is the only one: it is the run, and nothing has been asked for before.
      intro r hr
      have hlast : [e].filterMap BridgeEvent.run? = [r] := by simp [hr]
      rw [hlast] at single
      have hfirst : events.filterMap BridgeEvent.run? = [] := by
        have hlength := single.length_le
        rw [List.length_append] at hlength
        exact List.eq_nil_of_length_eq_zero (Nat.le_zero.mp (Nat.le_of_succ_le_succ hlength))
      rw [hfirst] at single
      exact ⟨(List.cons_prefix_cons.mp single).1, hidle hfirst⟩
    refine ⟨hlife.step occur e, hsolo.step hlife occur asks, keep s.1 e s.2 hlife hsolo asks hP,
      fun hnone => ?_⟩
    rw [List.filterMap_append, List.append_eq_nil_iff] at hnone
    exact idle_step hlife occur (hidle hnone.1) (by simpa using hnone.2)

end

end Bridge

end TelemetryBridge
