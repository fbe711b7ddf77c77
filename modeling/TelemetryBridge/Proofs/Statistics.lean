import TelemetryBridge.Proofs.Tally

/-!
# The counts of a single run

When only one run uses a bridge, its failures are the delays asked for and the retries reported, in
order, and its attempts are as many, or one more while an attempt goes on.
-/

namespace TelemetryBridge

namespace Chronicle

variable {c c' : Chronicle Ledger} {n : Nat}

/-- What is to be reported of the first attempts: their numbers, and the updates accepted in them. -/
def reports (c : Chronicle Ledger) (n : Nat) : List (Nat × Nat) :=
  (List.range n).map fun k => (k + 1, c.acceptedIn (k + 1))

lemma reports_succ (c : Chronicle Ledger) (n : Nat) :
    c.reports (n + 1) = c.reports n ++ [(n + 1, c.acceptedIn (n + 1))] := by
  simp [reports, List.range_succ]

lemma reports_congr (h : ∀ k ≤ n, c'.acceptedIn k = c.acceptedIn k) :
    c'.reports n = c.reports n := by
  refine List.map_congr_left fun k hk => ?_
  rw [h (k + 1) (List.mem_range.mp hk)]

end Chronicle

namespace Bridge

variable {b : Bridge Scripted} {c : Chronicle Ledger}

/-- A bridge without sessions forwards nothing. -/
lemma Audited.forwarded_of_dead (h : b.Audited c) {e : BridgeEvent Scripted.Event}
    (h' : (b.step Scripted.occur e).Audited (ledgerRecorder.update b e (b.step Scripted.occur e) c))
    (same : (b.step Scripted.occur e).attempts = b.attempts)
    (dead : b.relay.isLive .publish = false)
    (dead' : (b.step Scripted.occur e).relay.isLive .publish = false) :
    (b.step Scripted.occur e).relay.forwarded = b.relay.forwarded := by
  rw [h'.placed.forwarded_of_dead h'.counted.tallied dead', h.accepted_of_dead same dead',
    h.placed.forwarded_of_dead h.counted.tallied dead]

/-- What is reported of an attempt that has failed is what its ledger, the current one, says. -/
lemma Audited.report_of_failed (h : b.Audited c) (hs : b.status = .restarting) :
    (b.attempts, b.relay.forwarded - b.forwardedBefore) =
      (b.attempts, c.acceptedIn b.attempts) := by
  rw [h.forwarded_in_attempt (h.lifecycle.dead (by simp [hs]) .publish), ← h.conserves.length,
    Chronicle.acceptedIn_current]

/-- What the history tells of a bridge that only the given run uses. -/
structure Tells (run : BridgeRun) (b : Bridge Scripted) (c : Chronicle Ledger) : Prop where
  backoffs : b.relay.history.countP Note.isBackoff = b.failures
  retries : b.relay.history.filterMap Note.retry? = c.reports b.failures
  verdicts : b.relay.history.filterMap Note.verdict? =
    if b.status = .stopped then [(run.number, .ok b.stats)] else []

variable {run : BridgeRun} {e : BridgeEvent Scripted.Event}

/-- What has been reported stays true: the ledgers of the attempts that have failed are final. -/
lemma Solo.reports_update (h : b.Solo run) (ha : b.Audited c) (e : BridgeEvent Scripted.Event) :
    (ledgerRecorder.update b e (b.step Scripted.occur e) c).reports b.failures =
      c.reports b.failures := by
  have hb' := ha.lifecycle.step Scripted.occur e
  refine Chronicle.reports_congr fun k hk => ?_
  refine ha.acceptedIn_update e (Nat.le_trans hk h.fits.failures_le) fun hlast same => ?_
  have hrested := h.fits.not_running (hlast ▸ hk)
  refine hb'.dead ?_ .publish
  cases ha.lifecycle.progress Scripted.occur e with
  | goesOn _ _ _ status => rwa [status]
  | begins _ _ _ _ attempts => omega
  | fails _ running => exact absurd running hrested
  | ends _ _ _ _ _ _ status => simp [status]

/-- Every event keeps what the history tells of a bridge that only the given run uses. -/
theorem Tells.step (h : Tells run b c) (hs : b.Solo run) (ha : b.Audited c)
    (asks : b.Asks run e) : Tells run (b.step Scripted.occur e)
      (ledgerRecorder.update b e (b.step Scripted.occur e) c) := by
  have ha' := ha.step e
  have hprogress := ha.lifecycle.progress Scripted.occur e
  have hforwarded := ha.forwarded_of_dead ha'
  have hreports := hs.reports_update ha e
  generalize b.step Scripted.occur e = b' at *
  cases hprogress with
  | goesOn attempts failures before status current told =>
    have told : b.relay.Adds Note.isUneventful b'.relay := by
      refine told.resolve_left fun ⟨hasked, busy⟩ => ?_
      obtain ⟨r, hr⟩ := Option.isSome_iff_exists.mp hasked
      simp [isBusy, (asks r hr).2] at busy
    obtain ⟨hretry, hbackoff, hverdict⟩ := told.told
    refine ⟨?_, ?_, ?_⟩
    · rw [hbackoff, failures, h.backoffs]
    · rw [hretry, failures, hreports, h.retries]
    · rw [hverdict, h.verdicts, status]
      split
      · next hstopped =>
        have dead := ha.lifecycle.dead (by simp [hstopped]) .publish
        have dead' := ha'.lifecycle.dead (by simp [status, hstopped]) .publish
        unfold stats
        rw [attempts, failures, hforwarded attempts dead dead']
      · rfl
  | begins r cause more rested attempts failures before status current told =>
    obtain ⟨-, going⟩ := hs.of_runs ha.lifecycle asks cause
    obtain ⟨hretry, hbackoff, hverdict⟩ := told.told
    refine ⟨?_, ?_, ?_⟩
    · rw [hbackoff, failures, h.backoffs]
    · rw [hretry, failures, hreports, h.retries]
    · rw [hverdict, h.verdicts, if_neg going, if_neg (by simp [status])]
  | fails r running was attempts failures before status current told =>
    obtain ⟨mid, asked, cause, delay, hadds, hhistory⟩ := told
    obtain ⟨hretry, hbackoff, hverdict⟩ := hadds.told
    have hfits := hs.fits
    unfold CountsFit at hfits
    rw [running] at hfits
    have hlast : (b'.attempts, b'.relay.forwarded - b'.forwardedBefore) = (b.failures + 1,
        (ledgerRecorder.update b e b' c).acceptedIn (b.failures + 1)) :=
      attempts.trans hfits ▸ ha'.report_of_failed status
    refine ⟨?_, ?_, ?_⟩
    · rw [hhistory, List.countP_append, hbackoff, failures, h.backoffs]
      rfl
    · rw [hhistory, List.filterMap_append, hretry, failures, Chronicle.reports_succ, hreports,
        h.retries, ← hlast]
      rfl
    · rw [hhistory, List.filterMap_append, hverdict, h.verdicts, if_neg (by simp [running]),
        if_neg (by simp [status])]
      rfl
  | ends r cause why attempts failures before status current told =>
    obtain ⟨rfl, going⟩ := hs.of_runs ha.lifecycle asks cause
    obtain ⟨mid, hadds, hhistory⟩ := told
    obtain ⟨hretry, hbackoff, hverdict⟩ := hadds.told
    refine ⟨?_, ?_, ?_⟩
    · rw [hhistory, List.countP_append, hbackoff, failures, h.backoffs]
      rfl
    · rw [hhistory, List.filterMap_append, hretry, failures, hreports, h.retries]
      exact List.append_nil _
    · rw [hhistory, List.filterMap_append, hverdict, h.verdicts, if_neg going, if_pos status]
      rfl

/-- What holds of a bridge that only the given run uses, after any events. -/
theorem tells_follow (script : Script) (request : SubscribeRequest) (metadata : Option Login)
    (policy : Backoff.Policy) (timer : Backoff.Timer) (run : BridgeRun)
    (events : List (BridgeEvent Scripted.Event))
    (single : events.filterMap BridgeEvent.run? <+: [run]) :
    let s :=
      ledgerRecorder.follow Scripted.occur (create { script } request metadata policy timer) events
    s.1.Solo run ∧ Tells run s.1 s.2 := by
  have ha := audited_follow script request metadata policy timer []
  obtain ⟨-, hsolo, -, htells⟩ := solo_induction (P := fun b c => b.Audited c ∧ Tells run b c)
    (fun _ e _ _ hs asks h => ⟨h.1.step e, h.2.step hs h.1 asks⟩) ⟨ha, rfl, rfl, rfl⟩ events single
  exact ⟨hsolo, htells⟩

/-- The counts agree with what happened. However a target, a collector and the caller behave, when the
bridge is run once: the attempts are those to open a stream, on either side; the failures are the
delays asked for and the retries reported, which are of the first, the second, … attempt and tell the
number of updates accepted in it; the attempts are as many as the failures, or one more while an
attempt goes on; and at rest the updates forwarded are those that the collector has accepted. The run
yields the counts when the bridge stops, and a run with a limit that is not aborted has then failed as
often as the limit says. -/
theorem statistics_agree (script : Script) (request : SubscribeRequest) (metadata : Option Login)
    (policy : Backoff.Policy) (timer : Backoff.Timer) (run : BridgeRun)
    (events : List (BridgeEvent Scripted.Event))
    (single : events.filterMap BridgeEvent.run? <+: [run]) :
    let s :=
      ledgerRecorder.follow Scripted.occur (create { script } request metadata policy timer) events
    let b := s.1
    let c := s.2
    b = (create { script } request metadata policy timer).after Scripted.occur events ∧
      c.past.length = b.stats.attempts ∧
      b.stats.attempts = b.relay.world.subscribeCalls ∧
      b.stats.attempts = b.relay.world.publishCalls ∧
      b.stats.failures = b.relay.history.countP Note.isBackoff ∧
      b.relay.history.filterMap Note.retry? =
        (List.range b.stats.failures).map (fun k => (k + 1, c.acceptedIn (k + 1))) ∧
      (b.status = .idle ∨ b.status = .restarting → b.stats.attempts = b.stats.failures) ∧
      (b.status = .running → b.stats.attempts = b.stats.failures + 1) ∧
      c.all.flatMap (·.accepted) = b.relay.world.accepted ∧
      (b.AtRest → b.stats.forwarded = b.relay.world.accepted.length) ∧
      b.relay.history.filterMap Note.verdict? =
        (if b.status = .stopped then [(run.number, .ok b.stats)] else []) ∧
      ∀ m, run.limit = some (.ofNat m) → b.stopReason? run = none → b.status = .stopped →
        b.stats.attempts = m ∧ b.stats.failures = m := by
  intro s b c
  obtain ⟨hsolo, htells⟩ := tells_follow script request metadata policy timer run events single
  have ha : b.Audited c := audited_follow script request metadata policy timer events
  have hfits : b.CountsFit run := hsolo.fits
  unfold CountsFit at hfits
  refine ⟨Recorder.follow_fst _ _ _ _, ha.conserves.length, ha.counted.subscribed.symm,
    ha.counted.published.symm, htells.backoffs.symm, htells.retries, ?_, fun hs => ?_,
    ha.conserves.accepted, ha.counted.tallied.forwarded_of_atRest, htells.verdicts,
    fun m hm going hs => hsolo.attempts_of_limit hm going hs⟩
  · rintro (hs | hs) <;> rw [hs] at hfits <;> exact hfits
  · rw [hs] at hfits
    exact hfits

/-- A run of one attempt, in which the collector accepts two updates before the target closes. -/
theorem single_attempt_is_counted :
    let run : BridgeRun := ⟨0, none, some (.ofNat 1)⟩
    let events : List (BridgeEvent Scripted.Event) :=
      [.start run, .endpoint (.arrive [.update [1], .update [2], .close])] ++
        List.replicate 20 .turn ++ [.elapse 0]
    let s := ledgerRecorder.follow Scripted.occur
      (create { script := { autoRequest := true, autoSend := true } } ⟨"", []⟩ none
        fun _ _ => .ofNat 0) events
    events.filterMap BridgeEvent.run? <+: [run] ∧ s.1.stats.attempts = 1 ∧
      s.1.stats.failures = 1 ∧ s.1.stats.forwarded = 2 ∧
      s.1.relay.history.filterMap Note.retry? = [(1, 2)] := by
  intro run events s
  have single : events.filterMap BridgeEvent.run? <+: [run] := List.prefix_refl [run]
  obtain ⟨-, -, -, -, -, hretries, -, -, -, hforwarded, -, hlimit⟩ :=
    statistics_agree { autoRequest := true, autoSend := true } ⟨"", []⟩ none (fun _ _ => .ofNat 0)
      Backoff.punctual run events single
  obtain ⟨hattempts, hfailures⟩ := hlimit 1 rfl rfl (by decide +kernel)
  have hrest : s.1.AtRest := List.isEmpty_iff.mp (by decide +kernel)
  refine ⟨single, hattempts, hfailures, (hforwarded hrest).trans (by decide +kernel), ?_⟩
  rw [hretries, hfailures]
  decide +kernel

end Bridge

end TelemetryBridge
