import TelemetryBridge.Proofs.ForwardingNotes
import TelemetryBridge.Proofs.Progress
import TelemetryBridge.Proofs.Timers
import TelemetryBridge.Stream.Scripted

/-!
# The pace of retries

The delay after a failed attempt depends on how many attempts in a row have failed, which is counted
anew whenever one forwards an update. The next attempt begins when the timer has run that was set to
the delay, and this is not before the delay is over if the timer keeps it (`Backoff.Timer.Keeps`).
`Bridge.Beat` is the table of what an event does to the count and to the wait. A run is recorded
attempt by attempt, with the times at which attempts begin and fail; `Bridge.Paced` says what the
record tells of a single run.
-/

namespace TelemetryBridge

namespace Note

/-- The count with which a delay is asked for. -/
def backoff? : Note → Option Nat
  | backoffAsked failures => some failures
  | _ => none

/-- The delay that is logged with a retry. -/
def delay? : Note → Option Number
  | log (.retrying _ _ _ delay) => some delay
  | _ => none

/-- Whether a note tells nothing of delays. -/
def isUnpaced (n : Note) : Bool := n.backoff?.isNone && n.delay?.isNone

lemma coversStart_isUnpaced : CoversStart isUnpaced where
  quiet n h := by
    cases n with
    | log event => cases event <;> first | rfl | cases h
    | backoffAsked => cases h
    | _ => rfl
  closing := by rintro (_ | _) <;> rfl
  heard _ _ := rfl
  attempt _ := rfl
  opening _ _ _ := rfl
  opened _ := rfl

lemma filterMap_of_isUnpaced {ns : List Note} (h : ∀ n ∈ ns, n.isUnpaced = true) :
    ns.filterMap backoff? = [] ∧ ns.filterMap delay? = [] := by
  have hnone : ∀ n ∈ ns, n.backoff? = none ∧ n.delay? = none := by
    simpa [isUnpaced] using h
  exact ⟨List.filterMap_eq_nil_iff.mpr fun n hn => (hnone n hn).1,
    List.filterMap_eq_nil_iff.mpr fun n hn => (hnone n hn).2⟩

end Note

/-! ## What an event does to the pace -/

namespace Bridge

variable {ω ε : Type} [Endpoints ω] {b : Bridge ω} {e : BridgeEvent ε}

/-- An event neither begins an attempt nor counts a failure. -/
structure Keeps (b b' : Bridge ω) : Prop where
  attempts : b'.attempts = b.attempts
  failures : b'.failures = b.failures
  consecutive : b'.consecutive = b.consecutive
  before : b'.forwardedBefore = b.forwardedBefore
  idle : b'.status = .idle → b.status = .idle
  pause : b'.pause = none ∨ b'.pause = b.pause
  told : b.relay.Adds Note.isUnpaced b'.relay

/-- An event begins an attempt: a call, or the end of the wait. -/
structure Begins (b : Bridge ω) (e : BridgeEvent ε) (b' : Bridge ω) : Prop where
  attempts : b'.attempts = b.attempts + 1
  failures : b'.failures = b.failures
  consecutive : b'.consecutive = b.consecutive
  before : b'.forwardedBefore = b.relay.forwarded
  busy : b'.status ≠ .idle
  pause : b'.pause = none
  told : b.relay.Adds Note.isUnpaced b'.relay
  cause : e.run?.isSome = true ∧ b.isBusy = false ∨ ∃ duration pause, e = .elapse duration ∧
    b.pause = some pause ∧ b'.clock = b.clock + duration ∧
    Number.le pause.due (.finite b'.clock) = true

/-- An event counts the failure of the attempt: a delay is asked for and logged, and the timer is
set to it. -/
structure Fails (b : Bridge ω) (e : BridgeEvent ε) (b' : Bridge ω) : Prop where
  turn : e = .turn
  running : b.status = .running
  attempts : b'.attempts = b.attempts
  failures : b'.failures = b.failures + 1
  consecutive : b'.consecutive =
    if 0 < b.relay.forwarded - b.forwardedBefore then 1 else b.consecutive + 1
  before : b'.forwardedBefore = b.forwardedBefore
  busy : b'.status ≠ .idle
  pause : let delay := b.policy b.failures b'.consecutive
    b'.pause = some ⟨delay, (b.timer delay).after b'.clock⟩
  told : ∃ (r : Relay ω) (cause : Failure) (forwarded : Nat), b.relay.Adds Note.isUnpaced r ∧
    b.relay.Forwards 0 r ∧ b'.relay.history = r.history ++ [.backoffAsked b'.consecutive,
      .log (.retrying cause b.attempts forwarded (b.policy b.failures b'.consecutive))]

/-- What an event can do to the counts of a bridge and to its delay. -/
inductive Beat (b : Bridge ω) (e : BridgeEvent ε) (b' : Bridge ω) : Prop
  | keeps (kept : b.Keeps b')
  | begins (begun : b.Begins e b')
  | fails (failed : b.Fails e b')

lemma fails_startPause (running : b.status = .running) (side : Side) (failure : Failure)
    (rest : List Delivery) :
    b.Fails (.turn : BridgeEvent ε) (b.hear side failure rest).startPause := by
  have hheard := forwards_hear b side failure rest
  refine ⟨rfl, running, rfl, rfl, ?_, rfl, nofun, rfl, ?_⟩
  · rw [← Nat.add_zero b.relay.forwarded, ← hheard.count]
    rfl
  · exact ⟨(b.hear side failure rest).relay, _, _,
      adds_hear Note.coversStart_isUnpaced.toCoversCourse b side failure rest, hheard,
      List.append_assoc _ _ _⟩

/-- Time alone begins an attempt only when the timer has run. -/
lemma due_of_elapse {duration : Rat} (h : (b.elapse duration).attempts ≠ b.attempts) :
    ∃ pause, b.pause = some pause ∧ Number.le pause.due (.finite (b.clock + duration)) = true := by
  unfold elapse at h
  dsimp only at h
  split at h
  · next run pause hr hp =>
    refine ⟨pause, hp, ?_⟩
    by_contra hearly
    rw [if_neg hearly] at h
    exact h rfl
  · exact absurd rfl h

/-- The table of what happens to the pace is complete. -/
theorem Lifecycle.beat (hb : b.Lifecycle) (occur : ε → ω → Option (List Answer × ω))
    (e : BridgeEvent ε) : b.Beat e (b.step occur e) := by
  have start := Note.coversStart_isUnpaced
  have course := start.toCoversCourse
  have ht := step_transition occur b e
  generalize hstep : b.step occur e = b' at ht ⊢
  cases ht with
  | still | signalled | waited => exact .keeps ⟨rfl, rfl, rfl, rfl, id, Or.inr rfl, .refl _⟩
  | refused run | guestAnswered number outcome rest =>
    exact .keeps ⟨rfl, rfl, rfl, rfl, id, Or.inr rfl, (Relay.Adds.refl b.relay).note rfl⟩
  | started run free =>
    exact .begins
      ⟨rfl, rfl, rfl, rfl, nofun, rfl, adds_startAttempt start b run, Or.inl ⟨rfl, free⟩⟩
  | resumed duration run =>
    have hbegun : (b.elapse duration).attempts ≠ b.attempts := by
      change (b.step occur (.elapse duration)).attempts ≠ b.attempts
      rw [hstep]
      exact Nat.succ_ne_self b.attempts
    obtain ⟨pause, hp, hdue⟩ := due_of_elapse hbegun
    exact .begins ⟨rfl, rfl, rfl, rfl, nofun, rfl,
      adds_startAttempt start { b with clock := b.clock + duration } run,
      Or.inr ⟨duration, pause, rfl, hp, rfl, hdue⟩⟩
  | declined run | interrupted signal reason run | completed duration run =>
    exact .keeps ⟨rfl, rfl, rfl, rfl, nofun, Or.inl rfl,
      ((Relay.Adds.refl b.relay).note rfl).note rfl⟩
  | cancelled signal reason =>
    exact .keeps ⟨rfl, rfl, rfl, rfl, id, Or.inr rfl,
      .of_continues course (Relay.continues_cancel _ reason)⟩
  | occurred event result =>
    exact .keeps ⟨rfl, rfl, rfl, rfl, id, Or.inr rfl,
      .of_continues course (Relay.continues_withWorld _ result)⟩
  | answered relay answer rest =>
    exact .keeps ⟨rfl, rfl, rfl, rfl, id, Or.inr rfl,
      Relay.adds_answer course _ rest answer⟩
  | rejected side failure rest =>
    exact .keeps ⟨rfl, rfl, rfl, rfl, id, Or.inr rfl,
      adds_hear course b side failure rest⟩
  | joinedStopped side failure rest =>
    exact .keeps ⟨rfl, rfl, rfl, rfl, nofun, Or.inl rfl,
      ((adds_hear course b side failure rest).note rfl).note rfl⟩
  | joinedFailed side failure rest run first =>
    obtain ⟨running, -, -⟩ := hb.running_of_active (active_pos_of_news hb first)
    exact .fails (fails_startPause running side failure rest)

lemma policy_step (occur : ε → ω → Option (List Answer × ω)) (b : Bridge ω) (e : BridgeEvent ε) :
    (b.step occur e).policy = b.policy := by
  have ht := step_transition occur b e
  generalize b.step occur e = b' at ht ⊢
  cases ht <;> rfl

lemma timer_step (occur : ε → ω → Option (List Answer × ω)) (b : Bridge ω) (e : BridgeEvent ε) :
    (b.step occur e).timer = b.timer := by
  have ht := step_transition occur b e
  generalize b.step occur e = b' at ht ⊢
  cases ht <;> rfl

/-- Only a call or the end of a wait begins an attempt, and no delivery does. -/
lemma Lifecycle.attempts_step (hb : b.Lifecycle) (occur : ε → ω → Option (List Answer × ω))
    (e : BridgeEvent ε) : (b.step occur e).attempts = b.attempts ∨
      (b.step occur e).attempts = b.attempts + 1 ∧ (e.run?.isSome = true ∧ b.isBusy = false ∨
        ∃ duration pause, e = .elapse duration ∧ b.pause = some pause ∧
          Number.le pause.due (.finite (b.clock + duration)) = true) := by
  cases hb.beat occur e with
  | keeps kept => exact Or.inl kept.attempts
  | begins begun =>
    refine Or.inr ⟨begun.attempts, begun.cause.imp id ?_⟩
    rintro ⟨duration, pause, he, hp, hclock, hdue⟩
    exact ⟨duration, pause, he, hp, hclock ▸ hdue⟩
  | fails failed => exact Or.inl failed.attempts

/-- Deliveries begin no attempt. -/
lemma Lifecycle.attempts_turns (hb : b.Lifecycle) (occur : ε → ω → Option (List Answer × ω))
    (k : Nat) : (b.after occur (List.replicate k .turn)).attempts = b.attempts := by
  induction k generalizing b with
  | zero => rfl
  | succ k ih =>
    refine (ih (hb.step occur .turn)).trans ?_
    rcases hb.attempts_step occur .turn with h | ⟨-, ⟨h, -⟩ | ⟨_, _, h, -⟩⟩
    · exact h
    · cases h
    · cases h

/-- An attempt fails only when a delivery is made. -/
lemma Lifecycle.failures_step (hb : b.Lifecycle) (occur : ε → ω → Option (List Answer × ω))
    (he : e ≠ .turn) : (b.step occur e).failures = b.failures := by
  cases hb.beat occur e with
  | keeps kept => exact kept.failures
  | begins begun => exact begun.failures
  | fails failed => exact absurd failed.turn he

end Bridge

/-! ## The record -/

/-- What is recorded of an attempt: what happened in it and after it, when it began, and when its
failure was counted. -/
structure Pace where
  notes : List Note := []
  began : Rat := 0
  failed : Option Rat := none

/-- How many updates were forwarded in an attempt. -/
def Pace.forwarded (R : Pace) : Nat := R.notes.countP Note.isForwarding

/-- Whether a record tells of the given count of failures in a row and the delay that follows, if
any. -/
structure Pace.Shows (R : Pace) (retry : Option (Nat × Number)) : Prop where
  asked : R.notes.filterMap Note.backoff? = (retry.map Prod.fst).toList
  logged : R.notes.filterMap Note.delay? = (retry.map Prod.snd).toList
  timed : R.failed.isSome = retry.isSome

/-- Records the notes, the begin and the failure of every attempt. -/
def paceRecorder {ω ε : Type} : Recorder ω ε Pace where
  blank := {}
  record b _ b' R :=
    { notes := R.notes ++ b'.relay.history.drop b.relay.history.length
      began := if b'.attempts = b.attempts then R.began else b'.clock
      failed := if b'.failures = b.failures then R.failed else some b'.clock }

namespace Chronicle

variable {c c' : Chronicle Pace} {policy : Backoff.Policy} {failures failures' n : Nat}

def forwardedIn (c : Chronicle Pace) (n : Nat) : Nat := c.all[n]?.elim 0 Pace.forwarded

/-- How many attempts in a row have failed when the n-th does: those from the last one on that
forwarded an update, or all. -/
def FailedInRow (c : Chronicle Pace) (n count : Nat) : Prop :=
  (∃ m, 1 ≤ m ∧ m ≤ n ∧ 0 < c.forwardedIn m ∧ (∀ k, m < k → k ≤ n → c.forwardedIn k = 0) ∧
      count = n - m + 1) ∨
    (∀ k, 1 ≤ k → k ≤ n → c.forwardedIn k = 0) ∧ count = n

/-- The count of failures in a row, attempt by attempt. -/
def streak (c : Chronicle Pace) : Nat → Nat
  | 0 => 0
  | n + 1 => if 0 < c.forwardedIn (n + 1) then 1 else c.streak n + 1

lemma failedInRow_streak (c : Chronicle Pace) (n : Nat) : c.FailedInRow n (c.streak n) := by
  induction n with
  | zero => exact Or.inr ⟨fun k hk hz => by omega, rfl⟩
  | succ n ih =>
    unfold streak
    split
    · next hsome =>
      exact Or.inl ⟨n + 1, by omega, Nat.le_refl _, hsome, fun k hk hz => by omega, by simp⟩
    · next hnone =>
      have hlast : c.forwardedIn (n + 1) = 0 := by omega
      have hzero {k : Nat} (hk : k ≤ n + 1) (h : k ≤ n → c.forwardedIn k = 0) :
          c.forwardedIn k = 0 := by
        rcases Nat.lt_or_eq_of_le hk with hlt | rfl
        · exact h (by omega)
        · exact hlast
      rcases ih with ⟨m, hm, hmn, hsome, hrest, hcount⟩ | ⟨hrest, hcount⟩
      · exact Or.inl ⟨m, hm, by omega, hsome, fun k hk hkn => hzero hkn (hrest k hk), by omega⟩
      · exact Or.inr ⟨fun k hk hkn => hzero hkn (hrest k hk), by omega⟩

/-- What the entry of an attempt is to show when some attempts have failed. -/
def pace? (c : Chronicle Pace) (policy : Backoff.Policy) (failures n : Nat) :
    Option (Nat × Number) :=
  if 1 ≤ n ∧ n ≤ failures then some (c.streak n, policy (n - 1) (c.streak n)) else none

lemma streak_congr (h : ∀ k, 1 ≤ k → k ≤ n → c'.forwardedIn k = c.forwardedIn k) :
    c'.streak n = c.streak n := by
  induction n with
  | zero => rfl
  | succ n ih =>
    rw [streak, streak, h (n + 1) (by omega) (Nat.le_refl _), ih fun k hk hkn => h k hk (by omega)]

lemma pace?_congr (h : ∀ k, 1 ≤ k → k ≤ n → k ≤ failures → c'.forwardedIn k = c.forwardedIn k)
    (hf : n ≤ failures' ↔ n ≤ failures) :
    c'.pace? policy failures' n = c.pace? policy failures n := by
  unfold pace?
  simp only [hf]
  split
  · next hn => rw [streak_congr fun k hk hkn => h k hk hkn (by omega)]
  · rfl

lemma all_last (c : Chronicle Pace) : c.all[c.past.length]? = some c.current := by simp [all]

lemma forwardedIn_last (c : Chronicle Pace) :
    c.forwardedIn c.past.length = c.current.forwarded := by
  rw [forwardedIn, all_last]
  rfl

lemma all_of_lt {R : Pace} (h : n < c.past.length) :
    { c with current := R }.all[n]? = c.all[n]? := by
  simp [all, List.getElem?_append_left h]

/-- The entry of an attempt that is over does not change, and neither does that of the current one
when no update is added to it. -/
lemma forwardedIn_current {R : Pace} (hn : n ≤ c.past.length)
    (h : n = c.past.length → R.forwarded = c.current.forwarded) :
    { c with current := R }.forwardedIn n = c.forwardedIn n := by
  rcases Nat.lt_or_eq_of_le hn with hlt | rfl
  · rw [forwardedIn, forwardedIn, all_of_lt hlt]
  · rw [forwardedIn_last c]
    exact (forwardedIn_last { c with current := R }).trans (h rfl)

lemma entry_cases {R R' : Pace} (h : { c with current := R }.all[n]? = some R') :
    n < c.past.length ∧ c.all[n]? = some R' ∨ n = c.past.length ∧ R' = R := by
  rcases getElem?_all h with hpast | hlast
  · obtain ⟨hlt, -⟩ := List.getElem?_eq_some_iff.mp hpast
    exact Or.inl ⟨hlt, all_of_lt hlt ▸ h⟩
  · exact Or.inr hlast

/-- A new entry changes none of those before it. -/
lemma all_begin {R : Pace} (hn : n ≤ c.past.length) :
    (⟨c.all, R⟩ : Chronicle Pace).all[n]? = c.all[n]? := by
  have hlt : n < c.all.length := by
    rw [all, List.length_append]
    exact Nat.lt_succ_of_le hn
  exact List.getElem?_append_left hlt

lemma forwardedIn_begin {R : Pace} (hn : n ≤ c.past.length) :
    (⟨c.all, R⟩ : Chronicle Pace).forwardedIn n = c.forwardedIn n := by
  rw [forwardedIn, forwardedIn, all_begin hn]

end Chronicle

namespace Bridge

variable {ω ε : Type} {b b' : Bridge ω} {e : BridgeEvent ε} {c : Chronicle Pace}
  {policy : Backoff.Policy} {timer : Backoff.Timer} {run : BridgeRun}

/-- What the record of a single run tells of its pace. -/
structure Paced (policy : Backoff.Policy) (timer : Backoff.Timer) (b : Bridge ω)
    (c : Chronicle Pace) : Prop where
  asks : b.policy = policy
  waits : b.timer = timer
  unused : b.status = .idle → b.attempts = 0
  reckoned : b.Reckoned
  length : c.past.length = b.attempts
  history : c.all.flatMap (·.notes) = b.relay.history
  before : b.forwardedBefore = (c.past.flatMap (·.notes)).countP Note.isForwarding
  consecutive : b.consecutive = c.streak b.failures
  shows : ∀ (n : Nat) (R : Pace), c.all[n]? = some R → R.Shows (c.pace? policy b.failures n)
  /-- The timer is set to the delay that was asked for last, and has run since the failure. -/
  waiting : ∀ pause, b.pause = some pause → ∃ count delay begun,
    c.pace? policy b.failures b.failures = some (count, delay) ∧
    c.current.failed = some begun ∧ pause = ⟨delay, (timer delay).after begun⟩
  waited : ∀ (n : Nat) (R R' : Pace), 1 ≤ n → c.all[n]? = some R → c.all[n + 1]? = some R' →
    ∃ count delay begun, c.pace? policy b.failures n = some (count, delay) ∧
      R.failed = some begun ∧ Number.le ((timer delay).after begun) (.finite R'.began) = true

section

variable {ns : List Note}

lemma update_keeps (attempts : b'.attempts = b.attempts) (failures : b'.failures = b.failures)
    (hn : b'.relay.history = b.relay.history ++ ns) : paceRecorder.update b e b' c =
      { c with current := { c.current with notes := c.current.notes ++ ns } } := by
  simp [Recorder.update, paceRecorder, attempts, failures, hn]

lemma update_begins (attempts : b'.attempts = b.attempts + 1) (failures : b'.failures = b.failures)
    (hn : b'.relay.history = b.relay.history ++ ns) :
    paceRecorder.update b e b' c = ⟨c.all, { notes := ns, began := b'.clock }⟩ := by
  simp [Recorder.update, paceRecorder, attempts, failures, hn, Chronicle.all]

lemma update_fails (attempts : b'.attempts = b.attempts) (failures : b'.failures = b.failures + 1)
    (hn : b'.relay.history = b.relay.history ++ ns) : paceRecorder.update b e b' c =
      { c with current := { c.current with
          notes := c.current.notes ++ ns, failed := some b'.clock } } := by
  simp [Recorder.update, paceRecorder, attempts, failures, hn]

end

/-- What was forwarded in the current attempt. -/
lemma Paced.forwarded_in_attempt (h : b.Paced policy timer c) :
    b.relay.forwarded - b.forwardedBefore = c.current.forwarded := by
  rw [h.reckoned, h.before, ← h.history, Chronicle.all, List.flatMap_append, List.countP_append]
  simp [Pace.forwarded]

lemma Lifecycle.restarting_of_pause (h : b.Lifecycle) {pause : Pause} (hp : b.pause = some pause) :
    b.status = .restarting := by
  have hs := h.status
  unfold StatusFits at hs
  split at hs
  · cases hp.symm.trans hs.2.1
  · assumption
  · cases hp.symm.trans hs.2.1
  · cases hp.symm.trans hs.2.1

section

variable [Endpoints ω]

lemma elapse_of_paused {run : BridgeRun} {pause : Pause} (hr : b.run = some run)
    (hp : b.pause = some pause) (duration : Rat) : b.elapse duration =
      if Number.le pause.due (.finite (b.clock + duration)) then
        ({ b with clock := b.clock + duration } : Bridge ω).nextAttempt run
      else { b with clock := b.clock + duration } := by
  obtain ⟨_⟩ := b
  cases hr
  cases hp
  rfl

/-- A wait is over at a step of the clock exactly when the timer has run. -/
lemma Lifecycle.over_iff (hb : b.Lifecycle) {pause : Pause} (hp : b.pause = some pause)
    (duration : Rat) : (b.elapse duration).pause = none ↔
      Number.le pause.due (.finite (b.clock + duration)) = true := by
  have hfits := hb.status
  unfold StatusFits at hfits
  rw [hb.restarting_of_pause hp] at hfits
  obtain ⟨run, hrun⟩ := Option.isSome_iff_exists.mp hfits.1
  rw [elapse_of_paused hrun hp]
  split
  · next hdue =>
    refine iff_of_true ?_ hdue
    rcases nextAttempt_cases { b with clock := b.clock + duration } run with
      ⟨-, h⟩ | ⟨-, -, h⟩ <;> rw [h] <;> rfl
  · next hdue => exact iff_of_false (fun hover => by cases hp.symm.trans hover) hdue

/-- No step of the clock ends a wait before its delay is over, if and only if the timer keeps it. -/
lemma Lifecycle.kept_iff (hb : b.Lifecycle) {timer : Backoff.Timer} {delay : Number} {begun : Rat}
    (hp : b.pause = some ⟨delay, (timer delay).after begun⟩) :
    (∀ duration, (b.elapse duration).pause = none →
      Number.le (delay.after begun) (.finite (b.clock + duration)) = true) ↔ timer.Keeps delay := by
  simp only [hb.over_iff hp]
  rw [Backoff.Timer.Keeps, Number.le_iff_after begun]
  constructor
  · intro hover t
    have hthen := hover (t - b.clock)
    rwa [add_sub_cancel] at hthen
  · exact fun hover duration => hover (b.clock + duration)

end

/-- An event that neither begins nor fails an attempt. The attempts that have failed are over, so
that it adds nothing to what they forwarded. -/
lemma Paced.keep (h : b.Paced policy timer c) (hs : b.Solo run) (hb : b.Lifecycle)
    (kept : b.Keeps b') (asks : b'.policy = b.policy) (waits : b'.timer = b.timer)
    (reckoned : b'.Reckoned) {k : Nat} (hk : b.relay.Forwards k b'.relay)
    (hdead : b.relay.isLive .publish = false → k = 0) :
    b'.Paced policy timer (paceRecorder.update b e b' c) := by
  obtain ⟨ns, hunpaced, hn⟩ := kept.told
  obtain ⟨hbackoff, hdelay⟩ := Note.filterMap_of_isUnpaced hunpaced
  have hforwarded : ns.countP Note.isForwarding = k := by
    have hnotes := hk.notes
    rw [hn, List.countP_append] at hnotes
    omega
  rw [update_keeps kept.attempts kept.failures hn]
  generalize hc : ({ c.current with notes := c.current.notes ++ ns } : Pace) = R
  have hfinal : ∀ n, n ≤ b.failures → { c with current := R }.forwardedIn n = c.forwardedIn n := by
    intro n hle
    have hlast := Nat.le_trans hle hs.fits.failures_le
    refine Chronicle.forwardedIn_current (h.length ▸ hlast) fun heq => ?_
    have hrested := hs.fits.not_running (h.length ▸ heq ▸ hle)
    rw [← hc, Pace.forwarded, List.countP_append, hforwarded, hdead (hb.dead hrested .publish)]
    rfl
  have hretry : ∀ n, { c with current := R }.pace? policy b.failures n =
      c.pace? policy b.failures n :=
    fun n => Chronicle.pace?_congr (fun j _ _ hj => hfinal j hj) Iff.rfl
  refine ⟨asks.trans h.asks, waits.trans h.waits,
    fun hi => kept.attempts.trans (h.unused (kept.idle hi)), reckoned,
    h.length.trans kept.attempts.symm, ?_, kept.before.trans h.before, ?_, ?_, ?_, ?_⟩
  · rw [hn, ← h.history]
    simp [Chronicle.all, ← hc]
  · rw [kept.consecutive, kept.failures, h.consecutive]
    exact (Chronicle.streak_congr fun j _ hj => hfinal j hj).symm
  · intro n R' hR
    rw [kept.failures, hretry]
    rcases Chronicle.entry_cases hR with ⟨-, hold⟩ | ⟨rfl, rfl⟩
    · exact h.shows n R' hold
    · have hlast := h.shows _ _ c.all_last
      rw [← hc]
      exact ⟨by rw [List.filterMap_append, hbackoff, List.append_nil, hlast.asked],
        by rw [List.filterMap_append, hdelay, List.append_nil, hlast.logged], hlast.timed⟩
  · intro q hq
    rw [kept.failures, hretry]
    rcases kept.pause with hnone | hsame
    · cases hnone.symm.trans hq
    · rw [← hc]
      exact h.waiting q (hsame ▸ hq)
  · intro n R₁ R₂ hone h₁ h₂
    rw [kept.failures, hretry]
    rcases Chronicle.entry_cases h₁ with ⟨-, hold₁⟩ | ⟨rfl, -⟩
    · rcases Chronicle.entry_cases h₂ with ⟨-, hold₂⟩ | ⟨hlast, rfl⟩
      · exact h.waited n R₁ R₂ hone hold₁ hold₂
      · rw [← hc]
        exact h.waited n R₁ c.current hone hold₁ (hlast ▸ c.all_last)
    · rcases Chronicle.entry_cases h₂ with ⟨hlt, -⟩ | ⟨heq, -⟩ <;> omega

/-- A new attempt begins. -/
lemma Paced.begin (h : b.Paced policy timer c) (hs : b.Solo run) (hb : b.Lifecycle)
    (asked : b.Asks run e) (begun : b.Begins e b') (asks : b'.policy = b.policy)
    (waits : b'.timer = b.timer) (reckoned : b'.Reckoned) :
    b'.Paced policy timer (paceRecorder.update b e b' c) := by
  obtain ⟨ns, hunpaced, hn⟩ := begun.told
  obtain ⟨hbackoff, hdelay⟩ := Note.filterMap_of_isUnpaced hunpaced
  rw [update_begins begun.attempts begun.failures hn]
  generalize hc : ({ notes := ns, began := b'.clock } : Pace) = R
  have hretry : ∀ n, (⟨c.all, R⟩ : Chronicle Pace).pace? policy b.failures n =
      c.pace? policy b.failures n :=
    fun n => Chronicle.pace?_congr (fun j _ _ hj => Chronicle.forwardedIn_begin
      (h.length ▸ Nat.le_trans hj hs.fits.failures_le)) Iff.rfl
  have hentry {n : Nat} {R' : Pace} (hR : (⟨c.all, R⟩ : Chronicle Pace).all[n]? = some R') :
      n ≤ c.past.length ∧ c.all[n]? = some R' ∨ n = c.past.length + 1 ∧ R' = R := by
    rcases Chronicle.getElem?_all hR with hold | ⟨hlast, rfl⟩
    · obtain ⟨hlt, -⟩ := List.getElem?_eq_some_iff.mp hold
      rw [Chronicle.all, List.length_append] at hlt
      exact Or.inl ⟨Nat.le_of_lt_succ hlt, hold⟩
    · exact Or.inr ⟨hlast.trans (by simp [Chronicle.all]), rfl⟩
  refine ⟨asks.trans h.asks, waits.trans h.waits, fun hi => absurd hi begun.busy, reckoned, ?_, ?_,
    ?_, ?_, ?_, ?_, ?_⟩
  · rw [begun.attempts, ← h.length]
    simp [Chronicle.all]
  · rw [hn, ← h.history]
    simp [Chronicle.all, ← hc]
  · rw [begun.before, h.reckoned, ← h.history]
  · rw [begun.consecutive, begun.failures, h.consecutive]
    exact (Chronicle.streak_congr fun j _ hj => Chronicle.forwardedIn_begin
      (h.length ▸ Nat.le_trans hj hs.fits.failures_le)).symm
  · intro n R' hR
    rw [begun.failures, hretry]
    rcases hentry hR with ⟨-, hold⟩ | ⟨rfl, rfl⟩
    · exact h.shows n R' hold
    · have hnone : c.pace? policy b.failures (c.past.length + 1) = none := by
        have := hs.fits.failures_le
        have := h.length
        exact if_neg (by omega)
      rw [hnone, ← hc]
      exact ⟨hbackoff, hdelay, rfl⟩
  · intro q hq
    cases begun.pause.symm.trans hq
  · intro n R₁ R₂ hone h₁ h₂
    rw [begun.failures, hretry]
    rcases hentry h₁ with ⟨hle, hold₁⟩ | ⟨rfl, -⟩
    · rcases hentry h₂ with ⟨-, hold₂⟩ | ⟨hlast, rfl⟩
      · exact h.waited n R₁ R₂ hone hold₁ hold₂
      · -- The attempt before the new one is the last that failed, and its delay is over.
        obtain rfl : n = c.past.length := Nat.succ.inj hlast
        obtain rfl : R₁ = c.current := Option.some.inj (hold₁.symm.trans c.all_last)
        rcases begun.cause with ⟨hcall, -⟩ | ⟨duration, q, -, hq, -, hdue⟩
        · obtain ⟨r, hr⟩ := Option.isSome_iff_exists.mp hcall
          have := h.unused (asked r hr).2
          have := h.length
          omega
        · obtain ⟨count, delay, since, hcount, hsince, rfl⟩ := h.waiting q hq
          have hfits := hs.fits
          unfold CountsFit at hfits
          rw [hb.restarting_of_pause hq] at hfits
          have heven : c.past.length = b.failures := h.length.trans hfits
          refine ⟨count, delay, since, heven ▸ hcount, hsince, ?_⟩
          rw [← hc]
          exact hdue
    · rcases hentry h₂ with ⟨hle, -⟩ | ⟨heq, -⟩ <;> omega

/-- The current attempt fails, and the delay before the next one begins. -/
lemma Paced.fail (h : b.Paced policy timer c) (hs : b.Solo run) (failed : b.Fails e b')
    (asks : b'.policy = b.policy) (waits : b'.timer = b.timer) (reckoned : b'.Reckoned) :
    b'.Paced policy timer (paceRecorder.update b e b' c) := by
  have hlast : c.past.length = b.failures + 1 := by
    have hfits := hs.fits
    unfold CountsFit at hfits
    rw [failed.running] at hfits
    exact h.length.trans hfits
  obtain ⟨r, cause, told, ⟨ns, hunpaced, hn⟩, hforwards, hhistory⟩ := failed.told
  obtain ⟨hbackoff, hdelay⟩ := Note.filterMap_of_isUnpaced hunpaced
  have hnone : ns.countP Note.isForwarding = 0 := by
    have hnotes := hforwards.notes
    rw [hn, List.countP_append] at hnotes
    omega
  have hconsecutive := failed.consecutive
  have hpause := failed.pause
  obtain ⟨count, hcount⟩ : ∃ count, b'.consecutive = count := ⟨_, rfl⟩
  rw [hcount, h.forwarded_in_attempt] at hconsecutive
  rw [hcount, h.asks, h.waits] at hpause
  rw [hcount, h.asks, hn, List.append_assoc] at hhistory
  rw [update_fails failed.attempts failed.failures hhistory]
  generalize hc : (Pace.mk (c.current.notes ++ (ns ++ _)) c.current.began (some b'.clock)) = R
  have hforwarded : R.forwarded = c.current.forwarded := by
    rw [← hc]
    simp [Pace.forwarded, hnone, Note.isForwarding]
  have hfinal : ∀ n, n ≤ b.failures → { c with current := R }.forwardedIn n = c.forwardedIn n :=
    fun n hle => Chronicle.forwardedIn_current (by omega) fun _ => hforwarded
  have hstreak : { c with current := R }.streak (b.failures + 1) = count := by
    have hin : { c with current := R }.forwardedIn (b.failures + 1) = c.current.forwarded := by
      rw [← hlast]
      exact (Chronicle.forwardedIn_last { c with current := R }).trans hforwarded
    rw [Chronicle.streak, hin, Chronicle.streak_congr fun j _ hj => hfinal j hj, ← h.consecutive,
      hconsecutive]
  have hearlier : ∀ n, n ≤ b.failures →
      { c with current := R }.pace? policy (b.failures + 1) n = c.pace? policy b.failures n :=
    fun n hle => Chronicle.pace?_congr (fun j _ _ hj => hfinal j hj) (by omega)
  have hnow : { c with current := R }.pace? policy (b.failures + 1) (b.failures + 1) =
      some (count, policy b.failures count) := by
    unfold Chronicle.pace?
    rw [if_pos ⟨Nat.succ_pos _, Nat.le_refl _⟩, hstreak]
    rfl
  refine ⟨asks.trans h.asks, waits.trans h.waits, fun hi => absurd hi failed.busy, reckoned,
    h.length.trans failed.attempts.symm, ?_, failed.before.trans h.before, ?_, ?_, ?_, ?_⟩
  · rw [hhistory, ← h.history]
    simp [Chronicle.all, ← hc]
  · rw [hcount, failed.failures, hstreak]
  · intro n R' hR
    rw [failed.failures]
    rcases Chronicle.entry_cases hR with ⟨hlt, hold⟩ | ⟨rfl, rfl⟩
    · rw [hearlier n (by omega)]
      exact h.shows n R' hold
    · have hbefore := h.shows _ _ c.all_last
      have hunfailed : c.pace? policy b.failures c.past.length = none := if_neg (by omega)
      rw [hunfailed] at hbefore
      rw [hlast, hnow, ← hc]
      refine ⟨?_, ?_, rfl⟩
      · rw [List.filterMap_append, List.filterMap_append, hbefore.asked, hbackoff]
        rfl
      · rw [List.filterMap_append, List.filterMap_append, hbefore.logged, hdelay]
        rfl
  · intro q hq
    obtain rfl := Option.some.inj (hpause.symm.trans hq)
    rw [failed.failures, hnow, ← hc]
    exact ⟨count, _, b'.clock, rfl, rfl, rfl⟩
  · intro n R₁ R₂ hone h₁ h₂
    rw [failed.failures]
    rcases Chronicle.entry_cases h₁ with ⟨hlt, hold₁⟩ | ⟨rfl, -⟩
    · rw [hearlier n (by omega)]
      rcases Chronicle.entry_cases h₂ with ⟨-, hold₂⟩ | ⟨hend, rfl⟩
      · exact h.waited n R₁ R₂ hone hold₁ hold₂
      · rw [← hc]
        exact h.waited n R₁ c.current hone hold₁ (hend ▸ c.all_last)
    · rcases Chronicle.entry_cases h₂ with ⟨hlt, -⟩ | ⟨heq, -⟩ <;> omega

/-- A bridge that is restarting waits after the attempt that began last, and has failed. -/
lemma Paced.paused (h : b.Paced policy timer c) (hb : b.Lifecycle) (hs : b.Solo run)
    (hstatus : b.status = .restarting) :
    c.all[b.failures]? = some c.current ∧ ∃ pause, b.pause = some pause := by
  have hfits := hb.status
  have hcounts := hs.fits
  unfold StatusFits at hfits
  unfold CountsFit at hcounts
  rw [hstatus] at hfits hcounts
  have hlast : c.past.length = b.failures := h.length.trans hcounts
  exact ⟨hlast ▸ c.all_last, Option.isSome_iff_exists.mp hfits.2.1⟩

section

variable [Endpoints ω]

/-- Every event of a single run keeps what its record tells. -/
theorem Paced.step (h : b.Paced policy timer c) (hs : b.Solo run) (hb : b.Lifecycle)
    (occur : ε → ω → Option (List Answer × ω)) (asks : b.Asks run e) :
    (b.step occur e).Paced policy timer (paceRecorder.update b e (b.step occur e) c) := by
  have hpolicy := policy_step occur b e
  have htimer := timer_step occur b e
  have hreckoned := h.reckoned.step occur e
  cases hb.beat occur e with
  | keeps kept =>
    obtain ⟨k, hk, hdead⟩ := forwards_step occur b e
    exact h.keep hs hb kept hpolicy htimer hreckoned hk hdead
  | begins begun => exact h.begin hs hb asks begun hpolicy htimer hreckoned
  | fails failed => exact h.fail hs failed hpolicy htimer hreckoned

omit [Endpoints ω] in
lemma paced_create (world : ω) (request : SubscribeRequest) (metadata : Option Login)
    (policy : Backoff.Policy) (timer : Backoff.Timer) :
    (create world request metadata policy timer).Paced policy timer { current := {} } := by
  refine ⟨rfl, rfl, fun _ => rfl, rfl, rfl, rfl, rfl, rfl, ?_, nofun, ?_⟩
  · intro n R hR
    rcases Chronicle.getElem?_all hR with hpast | ⟨rfl, rfl⟩
    · cases hpast
    · exact ⟨rfl, rfl, rfl⟩
  · intro n R R' _ _ h'
    rcases Chronicle.getElem?_all h' with hpast | ⟨hlast, -⟩
    · cases hpast
    · cases hlast

/-- The pace of a single run, whatever the endpoints, the policy and the timer. When the n-th
attempt has failed, the delay has been asked for once, with the number of attempts in a row that
have failed: those from the last one on that forwarded an update, or all. What the policy answers is
logged, and the timer is set to it. The next attempt begins only when time has passed to the moment
at which the timer has run or beyond. If the timer keeps the delay, this is when the delay is over
or later; if it does not, the clock can end the wait before. The timer of the system keeps just the
whole delays up to the longest, and those that are over within a millisecond. An event begins at
most one attempt, and before any delivery that it leads to; attempts fail only when deliveries are
made, which begin none. -/
theorem retries_are_paced (occur : ε → ω → Option (List Answer × ω)) (world : ω)
    (request : SubscribeRequest) (metadata : Option Login) (policy : Backoff.Policy)
    (timer : Backoff.Timer) (run : BridgeRun) (events : List (BridgeEvent ε))
    (single : events.filterMap BridgeEvent.run? <+: [run]) :
    let s := paceRecorder.follow occur (create world request metadata policy timer) events
    let b := s.1
    let c := s.2
    b = (create world request metadata policy timer).after occur events ∧
      c.past.length = b.attempts ∧ b.failures ≤ b.attempts ∧
      c.all.flatMap (·.notes) = b.relay.history ∧
      (∀ (n : Nat) (R : Pace), c.all[n]? = some R → 1 ≤ n → n ≤ b.failures →
        ∃ (count : Nat) (delay : Number) (ended : Rat), c.FailedInRow n count ∧
          delay = policy (n - 1) count ∧ R.notes.filterMap Note.backoff? = [count] ∧
          R.notes.filterMap Note.delay? = [delay] ∧ R.failed = some ended ∧
          (b.status = .restarting → n = b.failures →
            b.pause = some ⟨delay, (timer delay).after ended⟩ ∧
            ((∀ duration, (b.step occur (.elapse duration)).pause = none →
              Number.le (delay.after ended) (.finite (b.clock + duration)) = true) ↔
                timer.Keeps delay)) ∧
          ∀ R', c.all[n + 1]? = some R' →
            Number.le ((timer delay).after ended) (.finite R'.began) = true ∧
            (timer.Keeps delay → Number.le (delay.after ended) (.finite R'.began) = true)) ∧
      (∀ delay, Backoff.punctual.Keeps delay ∧ (Backoff.systemTimer.Keeps delay ↔
        Number.le delay 1 = true ∨ ∃ d : Nat, d ≤ Backoff.longestTimer ∧ delay = .ofNat d)) ∧
      (∀ (n : Nat) (R : Pace), c.all[n]? = some R → n = 0 ∨ b.failures < n →
        R.notes.filterMap Note.backoff? = [] ∧ R.notes.filterMap Note.delay? = [] ∧
          R.failed = none) ∧
      ∀ (e : BridgeEvent ε) (k : Nat), e ≠ .turn →
        let b₁ := b.step occur e
        (b₁.after occur (List.replicate k .turn)).attempts = b₁.attempts ∧
          b₁.failures = b.failures ∧
          (b₁.attempts = b.attempts ∨ b₁.attempts = b.attempts + 1 ∧
            (e.run?.isSome = true ∧ b.isBusy = false ∨
              ∃ duration pause, e = .elapse duration ∧ b.pause = some pause ∧
                Number.le pause.due (.finite (b.clock + duration)) = true)) := by
  intro s b c
  obtain ⟨hb, hs, h⟩ := solo_induction (P := fun b c => b.Paced policy timer c)
    (fun _ e _ hb hs asks h => h.step hs hb occur asks)
    (paced_create world request metadata policy timer) events single
  refine ⟨Recorder.follow_fst _ _ _ _, h.length, hs.fits.failures_le, h.history, ?_, ?_, ?_, ?_⟩
  · intro n R hR hone hn
    have hshows := h.shows n R hR
    have hretry : c.pace? policy b.failures n = some (c.streak n, policy (n - 1) (c.streak n)) :=
      if_pos ⟨hone, hn⟩
    rw [hretry] at hshows
    obtain ⟨ended, hended⟩ := Option.isSome_iff_exists.mp hshows.timed
    refine ⟨c.streak n, _, ended, c.failedInRow_streak n, rfl, hshows.asked, hshows.logged, hended,
      ?_, ?_⟩
    · rintro hstatus rfl
      obtain ⟨hlast, q, hq⟩ := h.paused hb hs hstatus
      obtain rfl : c.current = R := Option.some.inj (hlast.symm.trans hR)
      obtain ⟨count, delay, begun, hcount, hbegun, rfl⟩ := h.waiting q hq
      obtain ⟨rfl, rfl⟩ := Prod.mk.inj (Option.some.inj (hretry.symm.trans hcount))
      obtain rfl := Option.some.inj (hended.symm.trans hbegun)
      exact ⟨hq, hb.kept_iff hq⟩
    · intro R' hR'
      obtain ⟨count, delay, begun, hcount, hbegun, hran⟩ := h.waited n R R' hone hR hR'
      obtain ⟨rfl, rfl⟩ := Prod.mk.inj (Option.some.inj (hretry.symm.trans hcount))
      obtain rfl := Option.some.inj (hended.symm.trans hbegun)
      exact ⟨hran, fun keeps => (Number.le_iff_after _ _ _).mp keeps _ hran⟩
  · exact fun delay => ⟨Backoff.punctual_keeps delay, Backoff.systemTimer_keeps_iff delay⟩
  · intro n R hR hn
    have hshows := h.shows n R hR
    have hretry : c.pace? policy b.failures n = none := if_neg (by omega)
    rw [hretry] at hshows
    have htimed := Option.isNone_iff_eq_none.mp (Option.isSome_eq_false_iff.mp hshows.timed)
    exact ⟨hshows.asked, hshows.logged, htimed⟩
  · intro e k he
    exact ⟨(hb.step occur e).attempts_turns occur k, hb.failures_step occur he,
      hb.attempts_step occur e⟩

end

/-- Three attempts of which only the second forwards an update. The third failure is the second in a
row, and the timer of the system waits out the twenty milliseconds after it. -/
theorem third_failure_is_second_in_row :
    let run : BridgeRun := ⟨0, none, none⟩
    let policy : Backoff.Policy := fun _ failures => .finite (10 * failures)
    let events : List (BridgeEvent Scripted.Event) :=
      [.start run, .endpoint (.arrive [.close])] ++ List.replicate 20 .turn ++
        [.elapse 10, .endpoint (.arrive [.update [1], .close])] ++ List.replicate 20 .turn ++
        [.elapse 15, .endpoint (.arrive [.close])] ++ List.replicate 20 .turn
    let s := paceRecorder.follow Scripted.occur
      (create { script := { autoRequest := true, autoSend := true } } ⟨"", []⟩ none policy
        Backoff.systemTimer) events
    events.filterMap BridgeEvent.run? <+: [run] ∧ s.1.failures = 3 ∧ s.2.FailedInRow 3 2 ∧
      s.1.relay.history.filterMap Note.backoff? = [1, 1, 2] ∧
      s.1.pause = some ⟨.finite 20, .finite 45⟩ ∧
      ∀ duration, (s.1.step Scripted.occur (.elapse duration)).pause = none →
        Number.le (.finite 45) (.finite (s.1.clock + duration)) = true := by
  intro run policy events s
  have single : events.filterMap BridgeEvent.run? <+: [run] := List.prefix_refl [run]
  obtain ⟨-, -, -, -, hfailed, hkeeps, -⟩ := retries_are_paced Scripted.occur
    { script := { autoRequest := true, autoSend := true } } ⟨"", []⟩ none policy
    Backoff.systemTimer run events single
  have hfailures : s.1.failures = 3 := by decide +kernel
  have hlast : (s.2.all[3]?.map fun R => (R.notes.filterMap Note.backoff?, R.failed)) =
      some ([2], some 25) := by decide +kernel
  obtain ⟨R, hR, hshown⟩ := Option.map_eq_some_iff.mp hlast
  obtain ⟨count, delay, ended, hrow, hdelay, hasked, -, hended, hpause, -⟩ :=
    hfailed 3 R hR (by decide) (Nat.le_of_eq hfailures.symm)
  obtain ⟨hcount, hclock⟩ := Prod.mk.inj hshown
  obtain rfl : count = 2 := (List.cons.inj (hasked.symm.trans hcount)).1
  obtain rfl : ended = 25 := Option.some.inj (hended.symm.trans hclock)
  obtain rfl : delay = .finite 20 := hdelay.trans (by decide +kernel)
  have hover : (Number.finite 20).after 25 = .finite 45 := by decide +kernel
  have hran : (Backoff.systemTimer (.finite 20)).after 25 = .finite 45 := by decide +kernel
  obtain ⟨hpause, hkept⟩ := hpause (by decide +kernel) hfailures.symm
  rw [hran] at hpause
  rw [hover] at hkept
  refine ⟨single, hfailures, hrow, by decide +kernel, hpause, hkept.mpr ?_⟩
  exact (hkeeps (.finite 20)).2.mpr (.inr ⟨20, by decide, by decide +kernel⟩)

/-- Three billion milliseconds are more than the timer of the system keeps, and the next attempt
begins after one. -/
example :
    let b := (create ({ script := {} } : Scripted) ⟨"", []⟩ none (fun _ _ => 3000000000)
      Backoff.systemTimer).after Scripted.occur
        ([.start ⟨0, none, none⟩, .endpoint (.requestError "gone")] ++ List.replicate 20 .turn)
    b.pause.map Pause.due = some 1 ∧ (b.step Scripted.occur (.elapse 1)).attempts = 2 := by
  decide +kernel

end Bridge

end TelemetryBridge
