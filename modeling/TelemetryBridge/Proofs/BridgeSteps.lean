import Mathlib.Tactic.Common
import TelemetryBridge.Bridge

/-!
# Steps of the bridge

What can happen to a bridge, one event at a time. Events come in any order: a call that runs the
bridge, an aborted signal, the passing of time and events at the endpoints may all fall between two
deliveries. `Transition` is the table of what an event can do, and `step_transition` says that it is
complete. A run is recorded attempt by attempt in a `Chronicle`.
-/

namespace TelemetryBridge

/-- What can happen to a bridge whose endpoints have events `ε`. -/
inductive BridgeEvent (ε : Type) where
  | start (run : BridgeRun)
  | abort (signal : Nat) (reason : Failure)
  | elapse (duration : Rat)
  | endpoint (event : ε)
  /-- The delivery that has been underway longest is made. -/
  | turn

namespace Bridge

variable {ω ε ρ : Type}

/-- The delay after a failed attempt begins: the failure is counted and reported. -/
def startPause (b : Bridge ω) : Bridge ω :=
  let forwarded := b.relay.forwarded - b.forwardedBefore
  let consecutive := if 0 < forwarded then 1 else b.consecutive + 1
  let delay := b.policy b.failures consecutive
  let pause : Pause := ⟨delay, (b.timer delay).after b.clock⟩
  let b := { b with
    status := .restarting, failures := b.failures + 1, consecutive, pause := some pause }
  (b.note (.backoffAsked consecutive)).note
    (.log (.retrying (b.firstFailure.getD .absent) b.attempts forwarded delay))

/-- Whether a run has had all its attempts. -/
def isExhausted (b : Bridge ω) (run : BridgeRun) : Bool :=
  run.limit.any fun limit => Number.le limit (.ofNat b.attempts)

/-- At rest: everything that can run has run. -/
def AtRest (b : Bridge ω) : Prop := b.relay.underway = []

lemma stopReason?_mono {b b' : Bridge ω} (h : b.aborted <+: b'.aborted) {run : BridgeRun}
    (hs : (b.stopReason? run).isSome) : (b'.stopReason? run).isSome := by
  obtain ⟨l, hl⟩ := h
  unfold stopReason? at hs ⊢
  rcases hr : run.signal with _ | signal
  · simp [hr] at hs
  · simp only [hr, Option.bind_some] at hs ⊢
    rw [← hl, List.lookup_append]
    simp [hs]

/-- A run whose own signal is aborted is stopped. -/
lemma stopReason?_aborted (b : Bridge ω) {run : BridgeRun} {signal : Nat}
    (own : run.signal = some signal) (reason : Failure) :
    (({ b with aborted := b.aborted ++ [(signal, reason)] } : Bridge ω).stopReason?
      run).isSome = true := by
  simp only [stopReason?, own, Option.bind_some, List.lookup_append]
  cases b.aborted.lookup signal <;> simp

lemma finishAttempt_cases (b : Bridge ω) :
    (b.run = none ∧ b.finishAttempt = b) ∨
      (∃ run, b.run = some run ∧ (b.stopReason? run).isSome ∧ b.finishAttempt = b.stop run) ∨
      (∃ run, b.run = some run ∧ b.stopReason? run = none ∧ b.finishAttempt = b.startPause) := by
  unfold finishAttempt
  split
  · next hr => exact Or.inl ⟨hr, rfl⟩
  · next run hr =>
    right
    dsimp only
    split
    · next reason hs => exact Or.inl ⟨run, hr, Option.isSome_of_eq_some hs, rfl⟩
    · next hs => exact Or.inr ⟨run, hr, hs, rfl⟩

section

variable [Endpoints ω]

/-- Lets an event happen. One that does not apply changes nothing. -/
def step (occur : ε → ω → Option (List Answer × ω)) (b : Bridge ω) : BridgeEvent ε → Bridge ω
  | .start run => b.start run
  | .abort signal reason => b.abort signal reason
  | .elapse duration => b.elapse duration
  | .endpoint event => (b.occur? (occur event)).getD b
  | .turn => b.turn?.getD b

/-- The bridge after a list of events. -/
def after (occur : ε → ω → Option (List Answer × ω)) (b : Bridge ω)
    (events : List (BridgeEvent ε)) : Bridge ω :=
  events.foldl (step occur) b

/-- The next attempt of a run begins. -/
def startAttempt (b : Bridge ω) (run : BridgeRun) : Bridge ω :=
  ({ b with attempts := b.attempts + 1, status := .running, run := some run, pause := none }.note
    (.log (.attemptStarted (b.attempts + 1)))).startSessions

/-- The news that a session has ended reaches the bridge. -/
def hear (b : Bridge ω) (side : Side) (failure : Failure) (rest : List Delivery) : Bridge ω :=
  { b with
    firstFailure := b.firstFailure <|> some failure
    relay := ({ b.relay with underway := rest }.note (.sessionEnded side failure)).cancel failure
    active := b.active - 1 }

/-- What an event can do to a bridge. -/
inductive Transition (occur : ε → ω → Option (List Answer × ω)) (b : Bridge ω) :
    BridgeEvent ε → Bridge ω → Prop
  | still (e : BridgeEvent ε) (idle : e = .turn → b.AtRest) : Transition occur b e b
  | refused (run : BridgeRun) (busy : b.isBusy = true) :
    Transition occur b (.start run)
      (b.note (.runEnded run.number (.error (.error "Bridge already running"))))
  | started (run : BridgeRun) (free : b.isBusy = false) (going : b.stopReason? run = none)
    (more : b.isExhausted run = false) : Transition occur b (.start run) (b.startAttempt run)
  | declined (run : BridgeRun) (free : b.isBusy = false)
    (spent : (b.stopReason? run).isSome ∨ b.isExhausted run = true) :
    Transition occur b (.start run) (b.stop run)
  | signalled (signal : Nat) (reason : Failure) (fresh : b.aborted.lookup signal = none)
    (other : ∀ run, b.run = some run → run.signal ≠ some signal) :
    Transition occur b (.abort signal reason) { b with aborted := b.aborted ++ [(signal, reason)] }
  | cancelled (signal : Nat) (reason : Failure) (run : BridgeRun)
    (fresh : b.aborted.lookup signal = none) (current : b.run = some run)
    (own : run.signal = some signal) (unpaused : b.pause = none) :
    Transition occur b (.abort signal reason)
      { b with aborted := b.aborted ++ [(signal, reason)], relay := b.relay.cancel reason }
  | interrupted (signal : Nat) (reason : Failure) (run : BridgeRun) (pause : Pause)
    (fresh : b.aborted.lookup signal = none) (current : b.run = some run)
    (own : run.signal = some signal) (paused : b.pause = some pause) :
    Transition occur b (.abort signal reason)
      ({ b with aborted := b.aborted ++ [(signal, reason)] }.stop run)
  | waited (duration : Rat) :
    Transition occur b (.elapse duration) { b with clock := b.clock + duration }
  | resumed (duration : Rat) (run : BridgeRun) (pause : Pause) (current : b.run = some run)
    (paused : b.pause = some pause) (going : b.stopReason? run = none)
    (more : b.isExhausted run = false) :
    Transition occur b (.elapse duration) ({ b with clock := b.clock + duration }.startAttempt run)
  | completed (duration : Rat) (run : BridgeRun) (pause : Pause) (current : b.run = some run)
    (paused : b.pause = some pause)
    (spent : (b.stopReason? run).isSome ∨ b.isExhausted run = true) :
    Transition occur b (.elapse duration) ({ b with clock := b.clock + duration }.stop run)
  | occurred (event : ε) (result : List Answer × ω) (happened : occur event b.relay.world = some result) :
    Transition occur b (.endpoint event) { b with relay := b.relay.withWorld result }
  | answered (relay : Nat) (answer : Answer) (rest : List Delivery)
    (first : b.relay.underway = .answer relay answer :: rest) :
    Transition occur b .turn { b with relay := { b.relay with underway := rest }.answer answer }
  | guestAnswered (number : Nat) (outcome : CallOutcome Update) (rest : List Delivery)
    (first : b.relay.underway = .guest number outcome :: rest) :
    Transition occur b .turn
      { b with relay := { b.relay with underway := rest }.note (.guestAnswered number outcome) }
  | rejected (side : Side) (failure : Failure) (rest : List Delivery)
    (first : b.relay.underway = .ended side failure :: rest) (left : b.active - 1 ≠ 0 ∨ b.run = none) :
    Transition occur b .turn (b.hear side failure rest)
  | joinedStopped (side : Side) (failure : Failure) (rest : List Delivery) (run : BridgeRun)
    (first : b.relay.underway = .ended side failure :: rest) (last : b.active - 1 = 0)
    (current : b.run = some run) (stopped : (b.stopReason? run).isSome) :
    Transition occur b .turn ((b.hear side failure rest).stop run)
  | joinedFailed (side : Side) (failure : Failure) (rest : List Delivery) (run : BridgeRun)
    (first : b.relay.underway = .ended side failure :: rest) (last : b.active - 1 = 0)
    (current : b.run = some run) (going : b.stopReason? run = none) :
    Transition occur b .turn (b.hear side failure rest).startPause

lemma nextAttempt_cases (b : Bridge ω) (run : BridgeRun) :
    (((b.stopReason? run).isSome ∨ b.isExhausted run = true) ∧ b.nextAttempt run = b.stop run) ∨
      (b.stopReason? run = none ∧ b.isExhausted run = false ∧
        b.nextAttempt run = b.startAttempt run) := by
  by_cases h : ((b.stopReason? run).isSome || b.isExhausted run) = true
  · left
    exact ⟨by simpa using h, if_pos h⟩
  · right
    have h' : b.stopReason? run = none ∧ b.isExhausted run = false := by simpa using h
    exact ⟨h'.1, h'.2, if_neg h⟩

lemma start_transition (occur : ε → ω → Option (List Answer × ω)) (b : Bridge ω) (run : BridgeRun) :
    Transition occur b (.start run) (b.start run) := by
  rcases hb : b.isBusy
  · rcases nextAttempt_cases b run with ⟨spent, h⟩ | ⟨going, more, h⟩
    · simpa [start, hb, h] using Transition.declined run hb spent
    · simpa [start, hb, h] using Transition.started run hb going more
  · simpa [start, hb] using Transition.refused run hb

lemma abort_transition (occur : ε → ω → Option (List Answer × ω)) (b : Bridge ω) (signal : Nat)
    (reason : Failure) : Transition occur b (.abort signal reason) (b.abort signal reason) := by
  rcases hl : b.aborted.lookup signal with _ | old
  · rcases hr : b.run with _ | run
    · simpa [abort, hl, hr] using Transition.signalled signal reason hl (by simp [hr])
    · by_cases hs : run.signal = some signal
      · rcases hp : b.pause with _ | pause
        · simpa [abort, hl, hr, hs, hp] using Transition.cancelled signal reason run hl hr hs hp
        · simpa [abort, hl, hr, hs, hp] using
            Transition.interrupted signal reason run pause hl hr hs hp
      · simpa [abort, hl, hr, hs] using
          Transition.signalled signal reason hl (fun r h => by simp_all)
  · simpa [abort, hl] using Transition.still (.abort signal reason) (by simp)

lemma elapse_transition (occur : ε → ω → Option (List Answer × ω)) (b : Bridge ω) (duration : Rat) :
    Transition occur b (.elapse duration) (b.elapse duration) := by
  unfold elapse
  dsimp only
  split
  · next run pause hr hp =>
    split
    · rcases nextAttempt_cases { b with clock := b.clock + duration } run with
        ⟨spent, h⟩ | ⟨going, more, h⟩
      · rw [h]
        exact Transition.completed duration run pause hr hp spent
      · rw [h]
        exact Transition.resumed duration run pause hr hp going more
    · exact Transition.waited duration
  · exact Transition.waited duration

lemma turn_transition (occur : ε → ω → Option (List Answer × ω)) (b : Bridge ω) :
    Transition occur b .turn (b.turn?.getD b) := by
  rcases hu : b.relay.underway with _ | ⟨d, rest⟩
  · simpa [turn?, hu] using Transition.still .turn fun _ => hu
  · cases d with
    | answer relay answer =>
      simpa [turn?, hu, deliver, Relay.deliver] using Transition.answered relay answer rest hu
    | guest number outcome =>
      simpa [turn?, hu, deliver, Relay.deliver] using Transition.guestAnswered number outcome rest hu
    | ended side failure =>
      have h : b.turn?.getD b =
          if b.active - 1 = 0 then (b.hear side failure rest).finishAttempt
          else b.hear side failure rest := by
        simp only [turn?, hu, deliver, sessionEnded, note, Option.getD_some]
        rfl
      rw [h]
      by_cases hz : b.active - 1 = 0
      · rw [if_pos hz]
        rcases finishAttempt_cases (b.hear side failure rest) with
          ⟨hr, h⟩ | ⟨run, hr, hs, h⟩ | ⟨run, hr, hs, h⟩
        · rw [h]
          exact Transition.rejected side failure rest hu (Or.inr hr)
        · rw [h]
          exact Transition.joinedStopped side failure rest run hu hz hr hs
        · rw [h]
          exact Transition.joinedFailed side failure rest run hu hz hr hs
      · rw [if_neg hz]
        exact Transition.rejected side failure rest hu (Or.inl hz)

/-- The table of transitions is complete. -/
theorem step_transition (occur : ε → ω → Option (List Answer × ω)) (b : Bridge ω)
    (e : BridgeEvent ε) : Transition occur b e (b.step occur e) := by
  cases e with
  | start run => exact start_transition occur b run
  | abort signal reason => exact abort_transition occur b signal reason
  | elapse duration => exact elapse_transition occur b duration
  | endpoint event =>
    rcases h : occur event b.relay.world with _ | result
    · simpa [step, occur?, Relay.occur?, h] using Transition.still (.endpoint event) (by simp)
    · simpa [step, occur?, Relay.occur?, h] using Transition.occurred event result h
  | turn => exact turn_transition occur b

/-- What holds at first and is kept by every event holds after every run. -/
theorem after_induction {occur : ε → ω → Option (List Answer × ω)} {P : Bridge ω → Prop}
    (keep : ∀ b e, P b → P (b.step occur e)) {b : Bridge ω} (h : P b)
    (events : List (BridgeEvent ε)) : P (b.after occur events) := by
  induction events generalizing b with
  | nil => exact h
  | cons e events ih => exact ih (keep b e h)

lemma after_append (occur : ε → ω → Option (List Answer × ω)) (b : Bridge ω)
    (es es' : List (BridgeEvent ε)) : b.after occur (es ++ es') = (b.after occur es).after occur es' :=
  List.foldl_append

/-- Deliveries that are made one after the other are turns of the run. -/
lemma turns_eq_after (occur : ε → ω → Option (List Answer × ω)) (n : Nat) (b : Bridge ω) :
    b.turns n = b.after occur (List.replicate n .turn) := by
  induction n generalizing b with
  | zero => rfl
  | succ n ih =>
    rcases h : b.turn? with _ | b'
    · have hstep : b.step occur .turn = b := by simp [step, h]
      have hfix : ∀ m, b.after occur (List.replicate m .turn) = b := by
        intro m
        induction m with
        | zero => rfl
        | succ m ihm =>
          change (b.step occur .turn).after occur _ = b
          rw [hstep, ihm]
      rw [hfix]
      simp [turns, h]
    · have hstep : b.step occur .turn = b' := by simp [step, h]
      change _ = (b.step occur .turn).after occur _
      rw [hstep, ← ih]
      simp [turns, h]

end

end Bridge

/-! ## Records of a run -/

/-- What is recorded of the attempts of a run. The first entry is about the time before the first
attempt. -/
structure Chronicle (ρ : Type) where
  past : List ρ := []
  current : ρ

/-- All entries, in order. -/
def Chronicle.all {ρ : Type} (c : Chronicle ρ) : List ρ := c.past ++ [c.current]

/-- An entry is one of the past or the current one. -/
lemma Chronicle.getElem?_all {ρ : Type} {c : Chronicle ρ} {k : Nat} {R : ρ}
    (h : c.all[k]? = some R) : c.past[k]? = some R ∨ k = c.past.length ∧ R = c.current := by
  rcases Nat.lt_or_ge k c.past.length with hlt | hge
  · left
    rwa [all, List.getElem?_append_left hlt] at h
  · right
    rw [all, List.getElem?_append_right hge] at h
    rcases hd : k - c.past.length with _ | m
    · rw [hd] at h
      exact ⟨by omega, (Option.some.inj h).symm⟩
    · rw [hd] at h
      cases h

/-- A way to keep a record: an empty entry, and how an event adds to the current one, told by the
bridge before and after it. -/
structure Recorder (ω ε ρ : Type) where
  blank : ρ
  record : Bridge ω → BridgeEvent ε → Bridge ω → ρ → ρ

namespace Recorder

variable {ω ε ρ : Type}

/-- Takes an event into the record. With a new attempt a new entry begins. -/
def update (k : Recorder ω ε ρ) (b : Bridge ω) (e : BridgeEvent ε) (b' : Bridge ω)
    (c : Chronicle ρ) : Chronicle ρ :=
  if b'.attempts = b.attempts then { c with current := k.record b e b' c.current }
  else { past := c.past ++ [c.current], current := k.record b e b' k.blank }

variable [Endpoints ω]

/-- The bridge after a list of events, with the record of what has happened. -/
def follow (k : Recorder ω ε ρ) (occur : ε → ω → Option (List Answer × ω)) (b : Bridge ω)
    (events : List (BridgeEvent ε)) : Bridge ω × Chronicle ρ :=
  events.foldl (fun s e => (s.1.step occur e, k.update s.1 e (s.1.step occur e) s.2))
    (b, { current := k.blank })

/-- What holds at first and is kept by every event holds of every run and its record. -/
theorem follow_induction {k : Recorder ω ε ρ} {occur : ε → ω → Option (List Answer × ω)}
    {P : Bridge ω → Chronicle ρ → Prop}
    (keep : ∀ b e c, P b c → P (b.step occur e) (k.update b e (b.step occur e) c)) {b : Bridge ω}
    (h : P b { current := k.blank }) (events : List (BridgeEvent ε)) :
    P (k.follow occur b events).1 (k.follow occur b events).2 := by
  suffices ∀ s : Bridge ω × Chronicle ρ, P s.1 s.2 →
      P (events.foldl (fun s e => (s.1.step occur e, k.update s.1 e (s.1.step occur e) s.2)) s).1
        (events.foldl (fun s e => (s.1.step occur e, k.update s.1 e (s.1.step occur e) s.2)) s).2 from
    this (b, { current := k.blank }) h
  induction events with
  | nil => exact fun _ hs => hs
  | cons e events ih => exact fun s hs => ih _ (keep s.1 e s.2 hs)

/-- Keeping a record does not change the run. -/
@[simp] lemma follow_fst (k : Recorder ω ε ρ) (occur : ε → ω → Option (List Answer × ω))
    (b : Bridge ω) (events : List (BridgeEvent ε)) :
    (k.follow occur b events).1 = b.after occur events := by
  suffices ∀ s : Bridge ω × Chronicle ρ,
      (events.foldl (fun s e => (s.1.step occur e, k.update s.1 e (s.1.step occur e) s.2)) s).1 =
        s.1.after occur events from this _
  induction events with
  | nil => exact fun _ => rfl
  | cons e events ih => exact fun s => ih _

/-- The last event of a run, and the record of it. -/
lemma follow_snoc (k : Recorder ω ε ρ) (occur : ε → ω → Option (List Answer × ω)) (b : Bridge ω)
    (events : List (BridgeEvent ε)) (e : BridgeEvent ε) :
    let s := k.follow occur b events
    k.follow occur b (events ++ [e]) =
      (s.1.step occur e, k.update s.1 e (s.1.step occur e) s.2) :=
  List.foldl_append

end Recorder

end TelemetryBridge
