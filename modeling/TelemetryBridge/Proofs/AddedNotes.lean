import TelemetryBridge.Proofs.Lifecycle

/-!
# What is added to the history

Which kinds of notes an event adds. The course and the end of sessions add only what
`Note.CoversCourse` asks a kind to contain, the start of an attempt what `Note.CoversStart` asks, and
every event but the stop of a run what `Note.CoversRun` asks.
-/

namespace TelemetryBridge

/-- A kind of notes that contains those about the course and the end of sessions. -/
structure Note.CoversCourse (p : Note → Bool) : Prop where
  quiet : ∀ n, n.isQuiet = true → p n = true
  closing : ∀ side, p (.closing side) = true
  heard : ∀ side failure, p (.sessionEnded side failure) = true

/-- A kind of notes that contains those about the start of an attempt as well. -/
structure Note.CoversStart (p : Note → Bool) : Prop extends Note.CoversCourse p where
  attempt : ∀ k, p (.log (.attemptStarted k)) = true
  opening : ∀ side active status, p (.opening side active status) = true
  opened : ∀ side, p (.opened side) = true

/-- A kind of notes that contains all but those about the stop of a run. -/
structure Note.CoversRun (p : Note → Bool) : Prop extends Note.CoversStart p where
  refusal : ∀ number failure, p (.runEnded number (.error failure)) = true
  delay : ∀ failures, p (.backoffAsked failures) = true
  retry : ∀ failure attempt forwarded delay,
    p (.log (.retrying failure attempt forwarded delay)) = true

lemma Note.coversRun_all : Note.CoversRun fun _ => true where
  quiet _ _ := rfl
  closing _ := rfl
  heard _ _ := rfl
  attempt _ := rfl
  opening _ _ _ := rfl
  opened _ := rfl
  refusal _ _ := rfl
  delay _ := rfl
  retry _ _ _ _ := rfl

namespace Relay

variable {ω : Type} {p : Note → Bool} {r r' r'' : Relay ω}

/-- From the first relay to the second only notes of a kind are added to the history. -/
def Adds (p : Note → Bool) (r r' : Relay ω) : Prop :=
  ∃ ns, (∀ n ∈ ns, p n = true) ∧ r'.history = r.history ++ ns

lemma Adds.refl (r : Relay ω) : r.Adds p r := ⟨[], by simp, (List.append_nil _).symm⟩

lemma Adds.trans (h : r.Adds p r') (h' : r'.Adds p r'') : r.Adds p r'' := by
  obtain ⟨ns, hs, hn⟩ := h
  obtain ⟨ms, hs', hm⟩ := h'
  refine ⟨ns ++ ms, fun n hmem => ?_, by rw [hm, hn, List.append_assoc]⟩
  rcases List.mem_append.mp hmem with h | h
  · exact hs n h
  · exact hs' n h

lemma Adds.note (h : r.Adds p r') {n : Note} (hn : p n = true) : r.Adds p (r'.note n) :=
  h.trans ⟨[n], by simpa using hn, rfl⟩

lemma Adds.of_continues (hp : Note.CoversCourse p) (h : r.Continues r') : r.Adds p r' := by
  obtain ⟨ns, hq, hn⟩ := h.history
  exact ⟨ns, fun n hmem => hp.quiet n (hq n hmem), hn⟩

lemma Adds.of_ends (hp : Note.CoversCourse p) {side : Side} (h : r.Ends side r') :
    r.Adds p r' := by
  obtain ⟨ns, hq, hn⟩ := h.history
  have hcourse : r.Adds p { r with history := r.history ++ ns } :=
    ⟨ns, fun n hmem => hp.quiet n (hq n hmem), rfl⟩
  exact hcourse.trans ⟨[.closing side], by simpa using hp.closing side, hn⟩

lemma Adds.of_starts (hp : Note.CoversStart p) {side : Side} (h : r.Starts side r') :
    r.Adds p r' := by
  rcases h.outcome with ⟨-, -, ns, hq, hn⟩ | ⟨-, -, hn⟩
  · refine ⟨.opened side :: ns, fun n hmem => ?_, hn⟩
    rcases List.mem_cons.mp hmem with rfl | hmem
    · exact hp.opened side
    · exact hp.quiet n (hq n hmem)
  · exact ⟨[], by simp, by simpa using hn⟩

section

variable [Endpoints ω]

/-- An answer that was underway. -/
lemma adds_answer (hp : Note.CoversCourse p) (r : Relay ω) (rest : List Delivery) (a : Answer) :
    r.Adds p ({ r with underway := rest }.answer a) := by
  have hrest : r.Adds p { r with underway := rest } := .refl r
  rcases answer_continues_or_ends { r with underway := rest } a with h | ⟨side, h⟩
  · exact hrest.trans (.of_continues hp h)
  · exact hrest.trans (.of_ends hp h)

lemma adds_startPair (hp : Note.CoversStart p) (r : Relay ω) (status : BridgeStatus) :
    r.Adds p (r.startPair status) := by
  obtain ⟨r₁, hs, hs'⟩ := r.starts_pair status
  have hfresh : r.Adds p (r.fresh.note (.opening .subscribe 2 status)) :=
    (Adds.refl r).note (hp.opening .subscribe 2 status)
  have hmid := (hfresh.trans (.of_starts hp hs)).note (hp.opening .publish 2 status)
  exact hmid.trans (.of_starts hp hs')

end

end Relay

namespace Bridge

variable {ω ε : Type} [Endpoints ω] {p : Note → Bool}

lemma adds_hear (hp : Note.CoversCourse p) (b : Bridge ω) (side : Side) (failure : Failure)
    (rest : List Delivery) : b.relay.Adds p (b.hear side failure rest).relay := by
  have hn : b.relay.Adds p ({ b.relay with underway := rest }.note (.sessionEnded side failure)) :=
    (Relay.Adds.refl _).note (hp.heard side failure)
  exact hn.trans (.of_continues hp (Relay.continues_cancel _ failure))

lemma adds_startAttempt (hp : Note.CoversStart p) (b : Bridge ω) (run : BridgeRun) :
    b.relay.Adds p (b.startAttempt run).relay := by
  have hn : b.relay.Adds p (b.relay.note (.log (.attemptStarted (b.attempts + 1)))) :=
    (Relay.Adds.refl _).note (hp.attempt _)
  exact hn.trans (Relay.adds_startPair hp _ .running)

/-- What an event adds, unless it stops the run. -/
theorem adds_or_stops (hp : Note.CoversRun p) (occur : ε → ω → Option (List Answer × ω))
    (b : Bridge ω) (e : BridgeEvent ε) : b.relay.Adds p (b.step occur e).relay ∨
      ∃ (b₀ : Bridge ω) (run : BridgeRun), b.relay.Adds p b₀.relay ∧
        b.step occur e = b₀.stop run := by
  have start := hp.toCoversStart
  have course := start.toCoversCourse
  have ht := step_transition occur b e
  generalize b.step occur e = b' at ht ⊢
  cases ht with
  | still | signalled | waited => exact Or.inl (.refl _)
  | refused run => exact Or.inl ((Relay.Adds.refl b.relay).note (hp.refusal _ _))
  | guestAnswered => exact Or.inl ((Relay.Adds.refl b.relay).note (hp.quiet _ rfl))
  | started run => exact Or.inl (adds_startAttempt start b run)
  | resumed duration run =>
    exact Or.inl (adds_startAttempt start { b with clock := b.clock + duration } run)
  | declined run => exact Or.inr ⟨b, run, .refl _, rfl⟩
  | interrupted signal reason run =>
    exact Or.inr ⟨{ b with aborted := b.aborted ++ [(signal, reason)] }, run, .refl _, rfl⟩
  | completed duration run =>
    exact Or.inr ⟨{ b with clock := b.clock + duration }, run, .refl _, rfl⟩
  | cancelled signal reason =>
    exact Or.inl (.of_continues course (Relay.continues_cancel b.relay reason))
  | occurred event result =>
    exact Or.inl (.of_continues course (Relay.continues_withWorld b.relay result))
  | answered relay answer rest => exact Or.inl (Relay.adds_answer course b.relay rest answer)
  | rejected side failure rest => exact Or.inl (adds_hear course b side failure rest)
  | joinedStopped side failure rest run =>
    exact Or.inr ⟨b.hear side failure rest, run, adds_hear course b side failure rest, rfl⟩
  | joinedFailed side failure rest =>
    exact Or.inl
      (((adds_hear course b side failure rest).note (hp.delay _)).note (hp.retry _ _ _ _))

/-- An event takes nothing back from the history. -/
theorem history_step (occur : ε → ω → Option (List Answer × ω)) (b : Bridge ω)
    (e : BridgeEvent ε) : b.relay.history <+: (b.step occur e).relay.history := by
  have h : b.relay.Adds (fun _ => true) (b.step occur e).relay := by
    rcases adds_or_stops Note.coversRun_all occur b e with h | ⟨b₀, run, h, hstop⟩
    · exact h
    · rw [hstop]
      exact (h.note rfl).note rfl
  obtain ⟨ns, -, hn⟩ := h
  exact ⟨ns, hn.symm⟩

end Bridge

end TelemetryBridge
