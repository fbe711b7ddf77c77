import TelemetryBridge.Config.Load
import TelemetryBridge.Proofs.CallMetadata
import TelemetryBridge.Proofs.ClientLifetimes
import TelemetryBridge.Proofs.Outcomes
import TelemetryBridge.Proofs.RefusedStreams

/-!
# Who learns the password

Services whose settings differ only in the password of the target, while the same happens to them.
Passwords that can be transmitted make no difference but in the metadata of the calls to the target.
One that cannot be transmitted is quoted by each warning before a retry, and no call to the target
is opened (`Service.password_is_hidden_iff`).
-/

namespace TelemetryBridge

/-- The settings with another password for the target. -/
def Settings.withPassword (cfg : Settings) (password : String) : Settings :=
  { cfg with config.target.password := some password }

/-- The login with another password, if any is sent. -/
def Settings.login (cfg : Settings) (password : String) : Option Login :=
  Login.ofCredentials cfg.config.target.username (some password)

/-- A record that blames another failure, if it is of a retry. -/
def LogEvent.blaming (failure? : Option Failure) : LogEvent → LogEvent
  | retrying failure attempt forwarded delay =>
    retrying (failure?.getD failure) attempt forwarded delay
  | event => event

section

variable {failure : Failure}

lemma LogEvent.map_blaming_none (events : List LogEvent) : events.map (blaming none) = events := by
  have hid : blaming none = id := by
    funext event
    cases event <;> rfl
  rw [hid, List.map_id]

lemma LogEvent.Alike.eq {event event' : LogEvent} (h : event.Alike Eq event') : event = event' := by
  cases h with
  | same => rfl
  | retrying attempt forwarded delay hf => rw [hf]

/-- Records that are alike cannot be told apart once they blame the same. -/
lemma LogEvent.Alike.blaming {R : Failure → Failure → Prop} {event event' : LogEvent}
    (h : event.Alike R event') (failure : Failure) :
    event.blaming (some failure) = event'.blaming (some failure) := by
  cases h <;> rfl

lemma Note.event?_blaming {n : Note} (h : ∀ w, n.warning? = some w → w.1 = failure) :
    n.event?.map (LogEvent.blaming (some failure)) = n.event? := by
  cases n with
  | log event => cases event with
    | retrying cause attempt forwarded delay =>
      have hcause : cause = failure := h _ rfl
      rw [hcause]
      rfl
    | _ => rfl
  | _ => rfl

/-- What is reported before a retry is all that there is to blame. -/
lemma Relay.records_blaming {ω : Type} {r : Relay ω}
    (h : ∀ w ∈ r.history.filterMap Note.warning?, w.1 = failure) :
    r.records.map (LogEvent.blaming (some failure)) = r.records := by
  rw [records, List.map_filterMap]
  refine List.filterMap_congr fun n hn => Note.event?_blaming fun w hw => ?_
  exact h w (List.mem_filterMap.mpr ⟨n, hn, hw⟩)

end

namespace Service

/-! ## Services that are alike -/

/-- Services that differ at most in their bridges, and these are alike. -/
structure Alike (L : Likeness Calls) (s s' : Service) : Prop where
  clients : s'.clients = s.clients
  log : s'.log = s.log
  bridge : Option.Rel (Bridge.Alike L) s.bridge s'.bridge
  result : s'.result = s.result

section

variable {L : Likeness Calls} {s s' : Service}

lemma Alike.step (hL : L.Holds Calls.occur) (h : s.Alike L s') (e : Event) :
    (s.step e).Alike L (s'.step e) := by
  obtain ⟨_, _, bridge, _⟩ := s
  obtain ⟨clients, log, bridge', result⟩ := s'
  obtain ⟨rfl, rfl, hbridge, rfl⟩ := h
  cases hbridge with
  | none => cases e <;> exact ⟨rfl, rfl, .none, rfl⟩
  | @some b b' hb => cases e with
    | turns n => cases result with
      | some result => exact ⟨rfl, rfl, .some hb, rfl⟩
      | none =>
        have hturned := hb.after hL (List.replicate n .turn)
        rw [← Bridge.turns_eq_after, ← Bridge.turns_eq_after] at hturned
        unfold step turns
        dsimp only
        rw [hturned.status, hturned.stats]
        split_ifs
        · exact ⟨rfl, rfl, .some hturned, rfl⟩
        · exact ⟨rfl, rfl, .some hturned, rfl⟩
    | abort reason => exact ⟨rfl, rfl, .some (hb.abort hL signal reason), rfl⟩
    | elapse duration => exact ⟨rfl, rfl, .some (hb.elapse hL duration), rfl⟩
    | endpoint event =>
      have hoccurred := hb.occur? hL event
      unfold step occur?
      dsimp only [Option.bind_eq_bind, Option.bind_some]
      generalize b.occur? (Calls.occur event) = b?, b'.occur? (Calls.occur event) = b?'
        at hoccurred
      cases hoccurred with
      | none => exact ⟨rfl, rfl, .some hb, rfl⟩
      | some hoccurred => exact ⟨rfl, rfl, .some hoccurred, rfl⟩

lemma Alike.stats (h : s.Alike L s') :
    s'.bridge.map Bridge.stats = s.bridge.map Bridge.stats := by
  have hbridge := h.bridge
  generalize s.bridge = b?, s'.bridge = b?' at hbridge ⊢
  cases hbridge with
  | none => rfl
  | some hb => exact congrArg some hb.stats

lemma Alike.pause? (h : s.Alike L s') : s'.pause? = s.pause? := by
  have hbridge := h.bridge
  unfold Service.pause?
  generalize s.bridge = b?, s'.bridge = b?' at hbridge ⊢
  cases hbridge with
  | none => rfl
  | some hb => exact hb.pause

lemma Alike.calls (h : s.Alike L s') (hunused : L.world {} {}) : L.world s.calls s'.calls := by
  have hbridge := h.bridge
  unfold Service.calls
  generalize s.bridge = b?, s'.bridge = b?' at hbridge ⊢
  cases hbridge with
  | none => exact hunused
  | some hb => exact hb.relay.world

lemma events_eq (s : Service) :
    s.events = s.log ++ s.bridge.elim [] fun bridge => bridge.relay.records := by
  unfold events
  cases s.bridge <;> rfl

lemma Alike.events (h : s.Alike L s') :
    List.Forall₂ (LogEvent.Alike L.failure) s.events s'.events := by
  rw [events_eq, events_eq, h.log]
  refine List.rel_append (List.forall₂_same.mpr fun event _ => .same event) ?_
  have hbridge := h.bridge
  generalize s.bridge = b?, s'.bridge = b?' at hbridge ⊢
  cases hbridge with
  | none => exact .nil
  | some hb => exact hb.relay.records

lemma Alike.after (hL : L.Holds Calls.occur) (h : s.Alike L s') (events : List Event) :
    (s.after events).Alike L (s'.after events) := by
  induction events generalizing s s' with
  | nil => exact h
  | cons e events ih => exact ih (h.step hL e)

end

/-- What a service shows, all retries blamed on a failure if there is one, is what the other shows:
what it logs, how it ends, its counts, its clients and its delays, and its calls but for their
metadata. -/
structure ShowsAs (failure? : Option Failure) (s s' : Service) : Prop where
  events : s'.events = s.events.map (LogEvent.blaming failure?)
  result : s'.result = s.result
  stats : s'.bridge.map Bridge.stats = s.bridge.map Bridge.stats
  clients : s'.clients = s.clients
  pause? : s'.pause? = s.pause?
  calls : s'.calls.relabel [] = s.calls.relabel []

section

variable {s s' : Service} {login login' : Option Login} {failure : Failure}

lemma ShowsAs.refl (s : Service) : ShowsAs none s s :=
  ⟨(LogEvent.map_blaming_none _).symm, rfl, rfl, rfl, rfl, rfl⟩

/-- Accepted logins make no difference but in the metadata. -/
lemma Alike.showsAs_of_accepted (h : s.Alike (Calls.relabelling login login') s') :
    ShowsAs none s s' := by
  have hevents : s.events = s'.events :=
    List.forall₂_eq_eq_eq ▸ h.events.imp fun _ _ hevent => hevent.eq
  have hcalls : s'.calls = s.calls.relabel (Login.metadata login') := h.calls rfl
  refine ⟨?_, h.result, h.stats, h.clients, h.pause?, ?_⟩
  · rw [LogEvent.map_blaming_none, hevents]
  · rw [hcalls, Calls.relabel_relabel]

/-- Refused logins make no difference but in what retries are blamed on. -/
lemma Alike.showsAs_of_refused (h : s.Alike (Calls.refusing login login') s')
    (hblamed : s'.events.map (LogEvent.blaming (some failure)) = s'.events) :
    ShowsAs (some failure) s s' := by
  have hevents : s.events.map (LogEvent.blaming (some failure)) =
      s'.events.map (LogEvent.blaming (some failure)) := by
    rw [← List.forall₂_eq_eq_eq, List.forall₂_map_left_iff, List.forall₂_map_right_iff]
    exact h.events.imp fun _ _ hevent => hevent.blaming failure
  obtain ⟨hcalls, -⟩ : s.calls = s'.calls ∧ s.calls.Unopened := h.calls ⟨rfl, rfl, rfl⟩
  exact ⟨hblamed.symm.trans hevents.symm, h.result, h.stats, h.clients, h.pause?, by rw [hcalls]⟩

end

/-! ## The start -/

section

variable (around : Surroundings) (cfg : Settings)

/-- What starts the bridge of a service. -/
def startingEvents (aborted : Option Failure) : List (BridgeEvent Calls.Event) :=
  (aborted.map (.abort signal)).toList ++ [.start run]

/-- Records that blame nothing. -/
def Blameless (events : List LogEvent) : Prop :=
  ∀ failure, events.map (LogEvent.blaming (some failure)) = events

/-- A service starts the same with every password, but for its bridge. -/
lemma start_withPassword :
    (∃ s : Service, s.bridge = none ∧ Blameless s.log ∧
      ∀ password aborted, start around (cfg.withPassword password) aborted = s) ∨
    ∃ clients log, Blameless log ∧
      ∀ password aborted, start around (cfg.withPassword password) aborted =
        { clients, log, bridge := some ((createBridge around (cfg.withPassword password)).after
          Calls.occur (startingEvents aborted)) } := by
  have started (credentials : Credentials) : Blameless (startEvents cfg credentials) := by
    intro failure
    unfold startEvents
    dsimp only
    split_ifs <;> rfl
  cases hbuild : Credentials.build around.pki around.read cfg.config.collector.tls with
  | error refusal =>
    have hbuild' (password : String) : Credentials.build around.pki around.read
      (cfg.withPassword password).config.collector.tls = .error refusal := hbuild
    exact .inl ⟨_, rfl, fun _ => rfl, fun password aborted =>
      after_of_refused (hbuild' password) []⟩
  | ok credentials =>
    have hbuild' (password : String) : Credentials.build around.pki around.read
      (cfg.withPassword password).config.collector.tls = .ok credentials := hbuild
    rcases hdial : dialPeers cfg { outcomes := around.outcomes } with ⟨fault | ⟨⟩, clients⟩
    · have hdial' (password : String) : dialPeers (cfg.withPassword password)
        { outcomes := around.outcomes } = (.error fault, clients) := hdial
      refine .inl ⟨{
        clients, log := startEvents cfg credentials, result := some (.error fault.toFailure) },
        rfl, started credentials, fun password aborted => ?_⟩
      exact after_of_undialed (hbuild' password) (hdial' password) []
    · have hdial' (password : String) : dialPeers (cfg.withPassword password)
        { outcomes := around.outcomes } = (.ok (), clients) := hdial
      refine .inr ⟨clients, startEvents cfg credentials, started credentials,
        fun password aborted => ?_⟩
      unfold start
      rw [hbuild' password]
      dsimp only
      rw [hdial' password]
      cases aborted <;> rfl

end

/-! ## Runs with a password -/

lemma bridge_after {s : Service} {b : Bridge Calls} (h : s.bridge = some b) (events : List Event) :
    ∃ es, (s.after events).bridge = some (b.after Calls.occur es) ∧
      (s.after events).log = s.log := by
  induction events generalizing s b with
  | nil => exact ⟨[], h, rfl⟩
  | cons e events ih =>
    obtain ⟨es, -, hmoves⟩ := step_moves h e
    obtain ⟨hbridge, hlog⟩ : (s.step e).bridge = some (b.after Calls.occur es) ∧
        (s.step e).log = s.log := by
      generalize s.step e = s' at hmoves
      cases hmoves <;> exact ⟨rfl, rfl⟩
    obtain ⟨es', hbridge', hlog'⟩ := ih hbridge
    refine ⟨es ++ es', ?_, hlog'.trans hlog⟩
    rw [Bridge.after_append]
    exact hbridge'

/-- What becomes of a service with a password for the target. -/
def ranWith (around : Surroundings) (cfg : Settings) (aborted : Option Failure)
    (events : List Event) (password : String) : Service :=
  (start around (cfg.withPassword password) aborted).after events

section

variable {around : Surroundings} {cfg : Settings} {p q : String}

lemma alike_ranWith {L : Likeness Calls} (hL : L.Holds Calls.occur) (hunused : L.world {} {})
    (hlogins : L.logins = (cfg.login p, cfg.login q)) (aborted : Option Failure)
    (events : List Event) :
    (ranWith around cfg aborted events p).Alike L (ranWith around cfg aborted events q) := by
  refine Alike.after hL ?_ events
  obtain ⟨s, hnone, -, hstart⟩ | ⟨clients, log, -, hstart⟩ := start_withPassword around cfg
  · rw [hstart, hstart]
    exact ⟨rfl, rfl, by rw [hnone]; exact .none, rfl⟩
  · rw [hstart, hstart]
    have hcreated := Bridge.Alike.create hunused
      (.ofPaths cfg.config.target.value cfg.resolved.paths)
      (cfg.config.retry.policy Backoff.binary64 around.random) around.timer
    rw [hlogins] at hcreated
    exact ⟨rfl, rfl, .some (hcreated.after hL _), rfl⟩

lemma showsAs_of_accepted (hp : Login.refusal? (cfg.login p) = none)
    (hq : Login.refusal? (cfg.login q) = none) (aborted : Option Failure) (events : List Event) :
    ShowsAs none (ranWith around cfg aborted events p) (ranWith around cfg aborted events q) :=
  (alike_ranWith (Calls.relabelling_holds hp hq) rfl rfl aborted events).showsAs_of_accepted

lemma refuses_of_refusal {login : Option Login} {cause : Failure}
    (h : Login.refusal? login = some cause) : Refuses Calls login cause :=
  fun w => congrArg Prod.fst (w.openSubscribe_of_refused h)

/-- A service whose login is refused reports nothing else before a retry. -/
lemma events_of_refused {cause : Failure} (hp : Login.refusal? (cfg.login p) = some cause)
    (aborted : Option Failure) (events : List Event) :
    (ranWith around cfg aborted events p).events.map (LogEvent.blaming (some cause.unopened)) =
      (ranWith around cfg aborted events p).events := by
  unfold ranWith
  obtain ⟨s, hnone, hlog, hstart⟩ | ⟨clients, log, hlog, hstart⟩ := start_withPassword around cfg
  · rw [hstart, after_of_no_bridge hnone, events_eq, hnone, Option.elim_none, List.append_nil, hlog]
  · rw [hstart]
    obtain ⟨es, hbridge, hlog'⟩ := bridge_after (s := { clients, log, bridge := _ }) rfl events
    rw [events_eq, hbridge, hlog', Option.elim_some, List.map_append, hlog, ← Bridge.after_append]
    exact congrArg (log ++ ·) (Relay.records_blaming
      (Bridge.warnings_of_refused (refuses_of_refusal hp) {} _ _ _ Calls.occur _))

lemma showsAs_of_refused {cause cause' : Failure}
    (hp : Login.refusal? (cfg.login p) = some cause)
    (hq : Login.refusal? (cfg.login q) = some cause') (aborted : Option Failure)
    (events : List Event) :
    ShowsAs (some cause'.unopened) (ranWith around cfg aborted events p)
      (ranWith around cfg aborted events q) :=
  (alike_ranWith (Calls.refusing_holds hp hq) ⟨rfl, rfl, rfl⟩ rfl aborted
    events).showsAs_of_refused (events_of_refused hq aborted events)

/-- No call to the target is opened with a login that is refused. -/
lemma unopened_of_refused {cause : Failure} (hp : Login.refusal? (cfg.login p) = some cause)
    (aborted : Option Failure) (events : List Event) :
    (ranWith around cfg aborted events p).calls.Unopened :=
  ((alike_ranWith (Calls.refusing_holds hp hp) ⟨rfl, rfl, rfl⟩ rfl aborted events).calls
    ⟨rfl, rfl, rfl⟩).2

/-- Whatever calls to the target there are carry the login. -/
lemma relabel_ranWith (around : Surroundings) (cfg : Settings) (aborted : Option Failure)
    (events : List Event) (p : String) :
    (ranWith around cfg aborted events p).calls.relabel (Login.metadata (cfg.login p)) =
      (ranWith around cfg aborted events p).calls := by
  cases hp : Login.refusal? (cfg.login p) with
  | none =>
    have hself : (ranWith around cfg aborted events p).Alike
        (Calls.relabelling (cfg.login p) (cfg.login p)) (ranWith around cfg aborted events p) :=
      alike_ranWith (Calls.relabelling_holds hp hp) rfl rfl aborted events
    exact (hself.calls rfl).symm
  | some cause =>
    have hcalls : (ranWith around cfg aborted events p).calls.Unopened :=
      unopened_of_refused hp aborted events
    unfold Calls.relabel
    rw [hcalls.target, Option.map_none, ← hcalls.target]

/-! ## What gives passwords away -/

/-- A session whose stream has been opened goes on with it. -/
lemma startSubscriber_of_opened {r : Relay Calls} {w : Calls}
    (opened : Calls.openSubscribe r.metadata r.world = (.ok (), w)) (hc : r.cancelled? = none) :
    r.startSubscriber =
      (({ r with world := w } : Relay Calls).note (.opened .subscribe)).moveSubscriber
        (SubscribeSession.opened (.ok ())) := by
  have hopened : Endpoints.openSubscribe r.metadata r.world = (.ok (), w) := opened
  unfold Relay.startSubscriber
  rw [hc]
  dsimp only
  rw [hopened]
  rfl

/-- A bridge whose login is accepted opens a call to the target at once. -/
lemma targetCalls_of_accepted {login : Option Login} (h : Login.refusal? login = none)
    (request : SubscribeRequest) (policy : Backoff.Policy) (timer : Backoff.Timer) :
    ((Bridge.create ({} : Calls) request login policy timer).start
      run).relay.world.targetCalls = 1 := by
  have hopened := Calls.openSubscribe_of_accepted h {}
  let b := Bridge.create ({} : Calls) request login policy timer
  change (b.startAttempt run).relay.world.targetCalls = 1
  unfold Bridge.startAttempt
  rw [Bridge.startSessions_eq]
  dsimp only
  rw [Relay.startPair, startSubscriber_of_opened hopened rfl]
  rfl

/-- A session whose login is refused ends as it starts, and touches no call. -/
lemma startSubscriber_of_refusal {r : Relay Calls} {cause : Failure}
    (h : Login.refusal? r.metadata = some cause) (hc : r.cancelled? = none) :
    r.startSubscriber = ({ r with subscriber := some (.ended cause.unopened) } : Relay Calls).post
      [.ended .subscribe cause.unopened] := by
  have hworld : (Endpoints.openSubscribe r.metadata r.world).2 = r.world :=
    congrArg Prod.snd (r.world.openSubscribe_of_refused h)
  rw [Relay.startSubscriber_of_refused (refuses_of_refusal h) hc, hworld]

/-- A bridge whose login is refused soon reports it. -/
lemma records_of_refused {login : Option Login} {cause : Failure}
    (h : Login.refusal? login = some cause) (request : SubscribeRequest) (policy : Backoff.Policy)
    (timer : Backoff.Timer) :
    (((Bridge.create ({} : Calls) request login policy timer).start run).turns 3).relay.records =
      [.attemptStarted 1, .publishOpened, .retrying cause.unopened 1 0 (policy 0 1)] := by
  let b := Bridge.create ({} : Calls) request login policy timer
  change ((b.startAttempt run).turns 3).relay.records = _
  unfold Bridge.startAttempt
  rw [Bridge.startSessions_eq, Relay.startPair, startSubscriber_of_refusal h rfl]
  rfl

/-- What is reported of a value that cannot be transmitted gives it away. -/
lemma unopened_illegalValue_inj {value value' : String} :
    (TargetCall.illegalValue value).unopened = (TargetCall.illegalValue value').unopened ↔
      value = value' := by
  simp [Failure.unopened, TargetCall.illegalValue, Failure.error, Failure.message]

/-- Services that show the same open equally many calls to the target. -/
lemma ShowsAs.targetCalls {failure? : Option Failure} {s s' : Service} (h : ShowsAs failure? s s') :
    s'.calls.targetCalls = s.calls.targetCalls :=
  have hcalls := congrArg Calls.targetCalls h.calls
  hcalls

lemma events_turns {s : Service} {b : Bridge Calls} (hb : s.bridge = some b)
    (pending : s.result = none) (n : Nat) :
    (s.turns n).events = s.log ++ (b.turns n).relay.records := by
  unfold turns
  rw [hb, pending, events_eq]
  dsimp only
  split_ifs <;> rfl

/-- If the bridge is started, services that show the same have logins that are refused alike. -/
lemma refusal?_eq_of_hidden
    (hidden : ∀ aborted events, ShowsAs none (ranWith around cfg aborted events p)
      (ranWith around cfg aborted events q))
    (hbridge : (start around (cfg.withPassword p) none).bridge ≠ none) :
    Login.refusal? (cfg.login p) = Login.refusal? (cfg.login q) := by
  obtain ⟨s, hnone, -, hstart⟩ | ⟨clients, log, -, hstart⟩ := start_withPassword around cfg
  · rw [hstart] at hbridge
    exact absurd hnone hbridge
  · -- An accepted login opens a call that a refused one does not; two refused ones are told apart
    -- by the first warning, which quotes what they are refused for.
    have hopened {password : String} (h : Login.refusal? (cfg.login password) = none) :
        (ranWith around cfg none [] password).calls.targetCalls = 1 := by
      unfold ranWith
      rw [hstart]
      exact targetCalls_of_accepted h _ _ _
    have hreported {password : String} {cause : Failure}
        (h : Login.refusal? (cfg.login password) = some cause) :
        ∃ delay, (ranWith around cfg none [.turns 3] password).events =
          log ++ [.attemptStarted 1, .publishOpened, .retrying cause.unopened 1 0 delay] := by
      have hturned := events_turns (s := ⟨clients, log,
        some ((createBridge around (cfg.withPassword password)).start run), none⟩) rfl rfl 3
      unfold ranWith
      rw [hstart]
      exact ⟨_, hturned.trans (congrArg (log ++ ·) (records_of_refused h _ _ _))⟩
    have hcalls := (hidden none []).targetCalls
    cases hp : Login.refusal? (cfg.login p) with
    | none => cases hq : Login.refusal? (cfg.login q) with
      | none => rfl
      | some cause =>
        rw [hopened hp, (unopened_of_refused hq none []).targetCalls] at hcalls
        cases hcalls
    | some cause => cases hq : Login.refusal? (cfg.login q) with
      | none =>
        rw [hopened hq, (unopened_of_refused hp none []).targetCalls] at hcalls
        cases hcalls
      | some cause' =>
        obtain ⟨value, rfl⟩ := Login.exists_of_refusal hp
        obtain ⟨value', rfl⟩ := Login.exists_of_refusal hq
        obtain ⟨delay, hevents⟩ := hreported hp
        obtain ⟨delay', hevents'⟩ := hreported hq
        have hsame := (hidden none [.turns 3]).events
        rw [hevents, hevents', LogEvent.map_blaming_none] at hsame
        obtain ⟨hunopened, -⟩ : (TargetCall.illegalValue value').unopened =
            (TargetCall.illegalValue value).unopened ∧ delay' = delay := by simpa using hsame
        rw [unopened_illegalValue_inj.mp hunopened]

lemma login_of_no_name (h : cfg.config.target.username.getD "" = "") : cfg.login p = none := by
  unfold Settings.login
  cases hname : cfg.config.target.username with
  | none => rfl
  | some name =>
    rw [hname, Option.getD_some] at h
    rw [h]
    rfl

lemma login_of_name {name : String} (h : cfg.config.target.username = some name) (hne : name ≠ "") :
    cfg.login p = some ⟨name, p⟩ := by
  unfold Settings.login Login.ofCredentials
  rw [h]
  split
  · next hnone => cases hnone
  · next hempty => exact absurd (Option.some.inj hempty) hne
  · next hsome => rw [← Option.some.inj hsome, Option.getD_some]

/-- With a name that can be transmitted, it depends on the passwords whether logins are refused
alike. -/
lemma refusal?_eq_iff {name : String} (hname : TargetCall.isLegalValue name = true) :
    Login.refusal? (some ⟨name, p⟩) = Login.refusal? (some ⟨name, q⟩) ↔
      p = q ∨ TargetCall.isLegalValue p = true ∧ TargetCall.isLegalValue q = true := by
  rw [Login.refusal?_some, Login.refusal?_some, if_pos hname, if_pos hname]
  cases hp : TargetCall.isLegalValue p <;> cases hq : TargetCall.isLegalValue q
  · simp [TargetCall.illegalValue_inj]
  · simpa using fun h : p = q => by simp [h, hq] at hp
  · simpa using fun h : p = q => by simp [h, hq] at hp
  · simp

/-- Without a user name the password is not used at all. -/
lemma ranWith_of_no_name (h : cfg.config.target.username.getD "" = "") (aborted : Option Failure)
    (events : List Event) :
    ranWith around cfg aborted events q = ranWith around cfg aborted events p := by
  have hcreate (password : String) : createBridge around (cfg.withPassword password) =
      Bridge.create {} (.ofPaths cfg.config.target.value cfg.resolved.paths) none
        (cfg.config.retry.policy Backoff.binary64 around.random) around.timer := by
    rw [← login_of_no_name (p := password) h]
    rfl
  unfold ranWith
  obtain ⟨s, -, -, hstart⟩ | ⟨clients, log, -, hstart⟩ := start_withPassword around cfg
  · rw [hstart, hstart]
  · rw [hstart, hstart, hcreate, hcreate]

/-- A service that starts no bridge does not use the password either. -/
lemma ranWith_of_no_bridge (h : (start around (cfg.withPassword p) none).bridge = none)
    (aborted : Option Failure) (events : List Event) :
    ranWith around cfg aborted events q = ranWith around cfg aborted events p := by
  unfold ranWith
  obtain ⟨s, -, -, hstart⟩ | ⟨clients, log, -, hstart⟩ := start_withPassword around cfg
  · rw [hstart, hstart]
  · rw [hstart] at h
    cases h

end

/-- Without a user name the password makes no difference, and no metadata is sent. With one that can
be transmitted, two passwords that can be transmitted as well make a difference only in the metadata
of the calls to the target, which all carry the password. Of two that cannot be transmitted, either
is quoted by each warning before a retry, and no call to the target is opened. If the peers have
been dialed, different passwords are thus hidden exactly when both can be transmitted. -/
theorem password_is_hidden_iff (around : Surroundings) (cfg : Settings) (p q : String) :
    let ran := ranWith around cfg
    let metadata (name password : String) := [("username", name), ("password", password)]
    (cfg.config.target.username.getD "" = "" → ∀ aborted events,
      ran aborted events q = ran aborted events p ∧
        (ran aborted events p).calls.relabel [] = (ran aborted events p).calls) ∧
    ∀ name, cfg.config.target.username = some name → name ≠ "" →
      TargetCall.isLegalValue name = true →
      (TargetCall.isLegalValue p = true → TargetCall.isLegalValue q = true → ∀ aborted events,
        ShowsAs none (ran aborted events p) (ran aborted events q) ∧
          (ran aborted events p).calls.relabel (metadata name p) = (ran aborted events p).calls ∧
          (ran aborted events p).calls.relabel (metadata name q) = (ran aborted events q).calls) ∧
      (TargetCall.isLegalValue p = false → TargetCall.isLegalValue q = false → ∀ aborted events,
        ShowsAs (some (TargetCall.illegalValue q).unopened) (ran aborted events p)
          (ran aborted events q) ∧ (ran aborted events p).calls.Unopened) ∧
      ((∀ aborted events, ShowsAs none (ran aborted events p) (ran aborted events q)) ↔
        p = q ∨ (TargetCall.isLegalValue p = true ∧ TargetCall.isLegalValue q = true) ∨
          (start around (cfg.withPassword p) none).bridge = none) := by
  intro ran metadata
  refine ⟨fun unnamed aborted events => ?_, fun name named nonempty hname => ?_⟩
  · have hmetadata := relabel_ranWith around cfg aborted events p
    rw [login_of_no_name unnamed] at hmetadata
    exact ⟨ranWith_of_no_name unnamed aborted events, hmetadata⟩
  · have hlogin (password : String) : cfg.login password = some ⟨name, password⟩ :=
      login_of_name named nonempty
    have accepted {password : String} (h : TargetCall.isLegalValue password = true) :
        Login.refusal? (cfg.login password) = none := by
      rw [hlogin, Login.refusal?_some, if_pos hname, if_pos h]
    have refused {password : String} (h : TargetCall.isLegalValue password = false) :
        Login.refusal? (cfg.login password) = some (TargetCall.illegalValue password) := by
      rw [hlogin, Login.refusal?_some, if_pos hname, if_neg (by simp [h])]
    have shown (hp : TargetCall.isLegalValue p = true) (hq : TargetCall.isLegalValue q = true)
        (aborted : Option Failure) (events : List Event) :
        ShowsAs none (ran aborted events p) (ran aborted events q) :=
      showsAs_of_accepted (accepted hp) (accepted hq) aborted events
    refine ⟨fun hp hq aborted events => ?_, fun hp hq aborted events => ?_, fun hidden => ?_, ?_⟩
    · have halike : (ran aborted events p).Alike
          (Calls.relabelling (cfg.login p) (cfg.login q)) (ran aborted events q) :=
        alike_ranWith (Calls.relabelling_holds (accepted hp) (accepted hq)) rfl rfl aborted events
      have hown := relabel_ranWith around cfg aborted events p
      have hother : (ran aborted events q).calls =
          (ran aborted events p).calls.relabel (Login.metadata (cfg.login q)) := halike.calls rfl
      rw [hlogin] at hown hother
      exact ⟨shown hp hq aborted events, hown, hother.symm⟩
    · exact ⟨showsAs_of_refused (refused hp) (refused hq) aborted events,
        unopened_of_refused (refused hp) aborted events⟩
    · by_cases hbridge : (start around (cfg.withPassword p) none).bridge = none
      · exact .inr (.inr hbridge)
      · have hrefusal := refusal?_eq_of_hidden hidden hbridge
        rw [hlogin, hlogin, refusal?_eq_iff hname] at hrefusal
        exact hrefusal.imp_right .inl
    · rintro (rfl | ⟨hp, hq⟩ | hnone) aborted events
      · exact ShowsAs.refl _
      · exact shown hp hq aborted events
      · rw [show ran aborted events q = ran aborted events p from
          ranWith_of_no_bridge hnone aborted events]
        exact ShowsAs.refl _

/-- Two passwords that can be transmitted are hidden from all but the target, and of two others the
second is reported. -/
theorem illegal_password_is_reported :
    let host : Host := {
      cwd := "/work", home := "/home/u", configVariable := none, read := fun _ => .error "absent" }
    let o : Overrides :=
      { username := some "admin", collectorAddr := some "10.0.0.5:6000", collectorTls := some false
        subscribe := ["/system"] }
    let around : Surroundings := {
      read := fun _ => .error "absent", pki := X509.pki, random := fun _ => 1 / 2, outcomes := [] }
    ∃ settings, Config.load host none o = .ok settings ∧
      let ran := ranWith around settings
      (∀ aborted events,
        ShowsAs none (ran aborted events "s3cret") (ran aborted events "hunter2")) ∧
      (∀ aborted events, ShowsAs (some (TargetCall.illegalValue "sécret").unopened)
        (ran aborted events "pä55") (ran aborted events "sécret")) ∧
      (¬∀ aborted events,
        ShowsAs none (ran aborted events "s3cret") (ran aborted events "sécret")) ∧
      let nameless : Settings := { settings with config.target.username := none }
      ∀ aborted events, ranWith around nameless aborted events "sécret" =
        ranWith around nameless aborted events "s3cret" := by
  intro host o around
  have hseen : (Config.load host none o).toOption.map (fun settings =>
      (settings.config.target.username,
        (start around (settings.withPassword "s3cret") none).bridge.isNone)) =
      some (some "admin", false) := by
    decide +kernel
  obtain ⟨settings, hsome, hseen⟩ := Option.map_eq_some_iff.mp hseen
  obtain ⟨named, hbridge⟩ := Prod.mk.inj hseen
  have going : (start around (settings.withPassword "s3cret") none).bridge ≠ none :=
    fun hnone => by simp [hnone] at hbridge
  obtain ⟨-, hnamed⟩ := password_is_hidden_iff around settings "s3cret" "hunter2"
  obtain ⟨hidden, -, -⟩ := hnamed "admin" named (by decide) (by decide)
  obtain ⟨-, hnamed⟩ := password_is_hidden_iff around settings "pä55" "sécret"
  obtain ⟨-, reported, -⟩ := hnamed "admin" named (by decide) (by decide)
  obtain ⟨-, hnamed⟩ := password_is_hidden_iff around settings "s3cret" "sécret"
  obtain ⟨-, -, hiff⟩ := hnamed "admin" named (by decide) (by decide)
  obtain ⟨unnamed, -⟩ := password_is_hidden_iff around
    { settings with config.target.username := none } "s3cret" "sécret"
  refine ⟨settings, toOption_eq_some.mp hsome, fun aborted events => ?_, fun aborted events => ?_,
    fun h => ?_, fun aborted events => ?_⟩
  · exact (hidden (by decide) (by decide) aborted events).1
  · exact (reported (by decide) (by decide) aborted events).1
  · obtain heq | ⟨-, hlegal⟩ | hnone := hiff.mp h
    · exact absurd heq (by decide)
    · exact absurd hlegal (by decide)
    · exact going hnone
  · exact (unnamed rfl aborted events).1

end Service

end TelemetryBridge
