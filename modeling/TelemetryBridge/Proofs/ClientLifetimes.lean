import TelemetryBridge.Proofs.Progress
import TelemetryBridge.Service

/-!
# The lifetimes of clients

A service makes at most one client for each peer. While its bridge runs, the clients are open; when
it has settled, each that was made is closed, and closed once. No stream is opened before both peers
have been dialed, and what keeps a service from its bridge is what it settles with.
-/

namespace TelemetryBridge

/-! ## The verdict of a run -/

lemma Relay.forwarded_answer_of_dead {ω : Type} [Endpoints ω] {r : Relay ω}
    (dead : ∀ side, r.isLive side = false) (a : Answer) : (r.answer a).forwarded = r.forwarded := by
  cases a with
  | subscriber reply => rw [answer_subscriber_of_not_live (dead .subscribe)]
  | publisher reply => rw [answer_publisher_of_not_live (dead .publish)]
  | later a => rfl

namespace Bridge

variable {ω ε : Type} {b : Bridge ω} {run : BridgeRun} {e : BridgeEvent ε}

/-- The run yields the counts when the bridge stops, and nothing before. -/
def Yields (run : BridgeRun) (b : Bridge ω) : Prop :=
  b.relay.history.filterMap Note.verdict? =
    if b.status = .stopped then [(run.number, .ok b.stats)] else []

variable [Endpoints ω]

/-- A bridge that has stopped stays so, and its counts are final, unless it is called again. -/
lemma stopped_step (hb : b.Lifecycle) (hs : b.status = .stopped)
    (occur : ε → ω → Option (List Answer × ω)) (unasked : e.run? = none) :
    (b.step occur e).status = .stopped ∧ (b.step occur e).stats = b.stats := by
  have hfits := hb.status
  unfold StatusFits at hfits
  rw [hs] at hfits
  have idle {run : BridgeRun} (current : b.run = some run) : False := by
    cases current.symm.trans hfits.1
  have heard {side : Side} {failure : Failure} {rest : List Delivery}
      (first : b.relay.underway = .ended side failure :: rest) : False :=
    active_pos_of_news hb first hfits.2.2
  have dead := hb.dead (by simp [hs])
  have ht := step_transition occur b e
  generalize b.step occur e = b' at ht
  cases ht with
  | still | signalled | waited | occurred | guestAnswered => exact ⟨hs, rfl⟩
  | refused | started | declined => cases unasked
  | cancelled signal reason run fresh current => exact (idle current).elim
  | interrupted signal reason run pause fresh current => exact (idle current).elim
  | resumed duration run pause current => exact (idle current).elim
  | completed duration run pause current => exact (idle current).elim
  | answered relay answer rest first =>
    have hdead : ∀ side, { b.relay with underway := rest }.isLive side = false := by
      rintro (_ | _)
      · exact dead .subscribe
      · exact dead .publish
    have hforwarded := Relay.forwarded_answer_of_dead hdead answer
    exact ⟨hs, congrArg (Totals.mk b.attempts b.failures) hforwarded⟩
  | rejected side failure rest first => exact (heard first).elim
  | joinedStopped side failure rest run first => exact (heard first).elim
  | joinedFailed side failure rest run first => exact (heard first).elim

lemma stopped_after (hb : b.Lifecycle) (hs : b.status = .stopped)
    (occur : ε → ω → Option (List Answer × ω)) {events : List (BridgeEvent ε)}
    (unasked : events.filterMap BridgeEvent.run? = []) :
    (b.after occur events).status = .stopped ∧ (b.after occur events).stats = b.stats := by
  induction events generalizing b with
  | nil => exact ⟨hs, rfl⟩
  | cons e events ih =>
    obtain ⟨hfirst, hrest⟩ := List.forall_mem_cons.mp (List.filterMap_eq_nil_iff.mp unasked)
    obtain ⟨hstopped, hstats⟩ := stopped_step hb hs occur hfirst
    obtain ⟨hlast, hfinal⟩ :=
      ih (hb.step occur e) hstopped (List.filterMap_eq_nil_iff.mpr hrest)
    exact ⟨hlast, hfinal.trans hstats⟩

lemma Yields.step (h : b.Yields run) (hb : b.Lifecycle) (hs : b.Solo run)
    (occur : ε → ω → Option (List Answer × ω)) (asks : b.Asks run e) :
    (b.step occur e).Yields run := by
  have unasked (hstopped : b.status = .stopped) : e.run? = none := by
    refine Option.eq_none_iff_forall_ne_some.mpr fun r hr => ?_
    cases hstopped.symm.trans (asks r hr).2
  have final (hstopped : b.status = .stopped) := stopped_step hb hstopped occur (unasked hstopped)
  have hprogress := hb.progress occur e
  generalize b.step occur e = b' at *
  unfold Yields at h ⊢
  cases hprogress with
  | goesOn attempts failures before status current told =>
    have told : b.relay.Adds Note.isUneventful b'.relay := by
      refine told.resolve_left fun ⟨hasked, busy⟩ => ?_
      obtain ⟨r, hr⟩ := Option.isSome_iff_exists.mp hasked
      simp [isBusy, (asks r hr).2] at busy
    rw [told.told.2.2, h, status]
    split
    · next hstopped => rw [(final hstopped).2]
    · rfl
  | begins r cause more rested attempts failures before status current told =>
    obtain ⟨-, going⟩ := hs.of_runs hb asks cause
    rw [told.told.2.2, h, if_neg going, if_neg (by simp [status])]
  | fails r running was attempts failures before status current told =>
    obtain ⟨mid, asked, cause, delay, hadds, hhistory⟩ := told
    rw [hhistory, List.filterMap_append, hadds.told.2.2, h, if_neg (by simp [running]),
      if_neg (by simp [status])]
    rfl
  | ends r cause why attempts failures before status current told =>
    obtain ⟨rfl, going⟩ := hs.of_runs hb asks cause
    obtain ⟨mid, hadds, hhistory⟩ := told
    rw [hhistory, List.filterMap_append, hadds.told.2.2, h, if_neg going, if_pos status]
    rfl

/-- A run that is the only one never fails: it yields the counts, once. -/
lemma yields_after (world : ω) (request : SubscribeRequest) (metadata : Option Login)
    (policy : Backoff.Policy) (timer : Backoff.Timer) (occur : ε → ω → Option (List Answer × ω))
    (events : List (BridgeEvent ε)) (single : events.filterMap BridgeEvent.run? <+: [run]) :
    ((create world request metadata policy timer).after occur events).Yields run := by
  let k : Recorder ω ε Unit := ⟨(), fun _ _ _ c => c⟩
  obtain ⟨-, -, h⟩ := solo_induction (k := k) (P := fun b _ => b.Yields run)
    (fun _ _ _ hb hs asks h => h.step hb hs occur asks) rfl events single
  rwa [Recorder.follow_fst] at h

end Bridge

/-! ## The client of a peer -/

def ClientEvent.peer : ClientEvent → Peer
  | created peer => peer
  | waited peer _ => peer
  | closed peer => peer

namespace Clients

/-- A client of the peer has been made, and is open. -/
def Opened (peer : Peer) (events : List ClientEvent) : Prop :=
  ∃ waits, (∀ e ∈ waits, ∃ timeout, e = .waited peer timeout) ∧ events = .created peer :: waits

/-- No client of the peer has been made, or one has been, and has been closed once. -/
def Released (peer : Peer) (events : List ClientEvent) : Prop :=
  events = [] ∨ ∃ opened, Opened peer opened ∧ events = opened ++ [.closed peer]

/-- What has happened to the client of a peer. -/
def about (c : Clients) (peer : Peer) : List ClientEvent :=
  c.events.filter fun e => e.peer = peer

variable {c c' : Clients} {peer other : Peer} {address : String} {timeout : Number}
  {events : List ClientEvent}

lemma Opened.peer_eq (h : Opened peer events) : ∀ e ∈ events, e.peer = peer := by
  obtain ⟨waits, hwaits, rfl⟩ := h
  refine List.forall_mem_cons.mpr ⟨rfl, fun e he => ?_⟩
  obtain ⟨timeout, rfl⟩ := hwaits e he
  rfl

lemma Released.peer_eq (h : Released peer events) : ∀ e ∈ events, e.peer = peer := by
  obtain rfl | ⟨opened, hopened, rfl⟩ := h
  · simp
  · exact List.forall_mem_append.mpr ⟨hopened.peer_eq, by simp [ClientEvent.peer]⟩

lemma about_of_append (added : c'.events = c.events ++ events) (own : ∀ e ∈ events, e.peer = peer) :
    c'.about peer = c.about peer ++ events ∧ ∀ other ≠ peer, c'.about other = c.about other := by
  unfold about
  rw [added]
  constructor
  · rw [List.filter_append, List.filter_eq_self.mpr fun e he => decide_eq_true (own e he)]
  · intro other hne
    have hnone : events.filter (fun e => e.peer = other) = [] :=
      List.filter_eq_nil_iff.mpr fun e he => by simp [own e he, hne.symm]
    rw [List.filter_append, hnone, List.append_nil]

/-- What a dial leaves of its client: an open one if it succeeds, and none, or a closed one, if it
fails. -/
def Leaves (peer : Peer) (outcome : Except DialFault Unit) (events : List ClientEvent) : Prop :=
  match outcome with
  | .ok () => Opened peer events
  | .error _ => Released peer events

lemma Leaves.peer_eq {outcome : Except DialFault Unit} (h : Leaves peer outcome events) :
    ∀ e ∈ events, e.peer = peer := by
  cases outcome with
  | ok => exact Opened.peer_eq h
  | error fault => exact Released.peer_eq h

lemma exists_dial (c : Clients) (peer : Peer) (address : String) (timeout : Number) :
    ∃ events, (c.dial peer address timeout).2.events = c.events ++ events ∧
      Leaves peer (c.dial peer address timeout).1 events := by
  have waiting : ∀ e ∈ [ClientEvent.waited peer timeout], ∃ t, e = .waited peer t := by simp
  unfold dial
  split_ifs with hrefused hinstant
  · exact ⟨[], (List.append_nil _).symm, .inl rfl⟩
  · exact ⟨[.created peer], rfl, [], by simp, rfl⟩
  · dsimp only [note, close]
    cases c.outcomes.head?.join with
    | none =>
      exact ⟨[.created peer, .waited peer timeout], List.append_assoc _ _ _, _, waiting, rfl⟩
    | some reason =>
      have hopened : Opened peer [.created peer, .waited peer timeout] := ⟨_, waiting, rfl⟩
      refine ⟨[.created peer, .waited peer timeout, .closed peer], ?_, .inr ⟨_, hopened, rfl⟩⟩
      simp

/-- A dial leaves what it does of its own client, and touches no other. -/
lemma leaves_of_dial {outcome : Except DialFault Unit}
    (h : c.dial peer address timeout = (outcome, c')) (unmade : c.about peer = []) :
    Leaves peer outcome (c'.about peer) ∧ (∀ other ≠ peer, c'.about other = c.about other) ∧
      c.events <+: c'.events := by
  obtain ⟨events, added, hleaves⟩ := exists_dial c peer address timeout
  rw [h] at added hleaves
  obtain ⟨hown, hothers⟩ := about_of_append added hleaves.peer_eq
  rw [unmade, List.nil_append] at hown
  exact ⟨hown ▸ hleaves, hothers, events, added.symm⟩

lemma released_of_close (h : Opened peer (c.about peer)) :
    Released peer ((c.close peer).about peer) ∧
      ∀ other ≠ peer, (c.close peer).about other = c.about other := by
  have added : (c.close peer).events = c.events ++ [.closed peer] := rfl
  have own : ∀ e ∈ [ClientEvent.closed peer], e.peer = peer := by simp [ClientEvent.peer]
  obtain ⟨hown, hothers⟩ := about_of_append added own
  exact ⟨.inr ⟨_, h, hown⟩, hothers⟩

end Clients

/-! ## Events of a service -/

namespace Service

/-- What can happen to a service that has been started. -/
inductive Event where
  /-- Up to the given number of deliveries are made. -/
  | turns (n : Nat)
  | abort (reason : Failure)
  | elapse (duration : Rat)
  | endpoint (event : Calls.Event)

/-- Lets an event happen. One that does not apply changes nothing. -/
def step (s : Service) : Event → Service
  | .turns n => s.turns n
  | .abort reason => s.abort reason
  | .elapse duration => s.elapse duration
  | .endpoint event => (s.occur? event).getD s

/-- The service after a list of events. -/
def after (s : Service) (events : List Event) : Service := events.foldl step s

/-- The only run of the bridge of a service. -/
def run : BridgeRun := ⟨signal, some signal, none⟩

variable {s : Service} {b : Bridge Calls}

/-- Without a bridge nothing happens any more. -/
lemma after_of_no_bridge (h : s.bridge = none) (events : List Event) : s.after events = s := by
  have hstep (e : Event) : s.step e = s := by
    obtain ⟨clients, log, bridge, result⟩ := s
    subst h
    cases e <;> rfl
  induction events with
  | nil => rfl
  | cons e events ih =>
    change (s.step e).after events = s
    rw [hstep, ih]

/-- What an event does to a service with a bridge: the bridge goes on, and once it has stopped the
service may settle. -/
inductive Moves (s : Service) (b : Bridge Calls) : Service → Prop
  | goesOn : Moves s b { s with bridge := some b }
  | settles (pending : s.result = none) (stopped : b.status = .stopped) : Moves s b { s with
      bridge := some b
      clients := (s.clients.close .target).close .collector
      result := some (.ok b.stats) }

/-- The events of a service are events of its bridge, none of which is a call. -/
lemma step_moves (h : s.bridge = some b) (e : Event) :
    ∃ es, es.filterMap BridgeEvent.run? = [] ∧ Moves s (b.after Calls.occur es) (s.step e) := by
  obtain ⟨clients, log, bridge, result⟩ := s
  subst h
  cases e with
  | turns n =>
    cases result with
    | some result => exact ⟨[], rfl, .goesOn⟩
    | none =>
      refine ⟨List.replicate n .turn, by simp [List.filterMap_replicate, BridgeEvent.run?], ?_⟩
      rw [← Bridge.turns_eq_after, step, turns]
      dsimp only
      split_ifs with hstopped
      · exact .settles rfl hstopped
      · exact .goesOn
  | abort reason => exact ⟨[.abort signal reason], rfl, .goesOn⟩
  | elapse duration => exact ⟨[.elapse duration], rfl, .goesOn⟩
  | endpoint event =>
    refine ⟨[.endpoint event], rfl, ?_⟩
    have hstep : b.after Calls.occur [.endpoint event] =
      (b.occur? (Calls.occur event)).getD b := rfl
    change Moves _ (b.after Calls.occur [.endpoint event])
      (((b.occur? (Calls.occur event)).bind fun b' => some ⟨clients, log, some b', result⟩).getD _)
    rw [hstep]
    cases b.occur? (Calls.occur event) with
    | none => exact .goesOn
    | some b' => exact .goesOn

/-- What holds of a service whose bridge has been started, after any events. -/
structure Serves (created : Bridge Calls) (dialed : Clients) (b : Bridge Calls) (s : Service) :
    Prop where
  bridge : s.bridge = some b
  ran : ∃ es, es.filterMap BridgeEvent.run? = [run] ∧ b = created.after Calls.occur es
  pending : s.result = none → s.clients = dialed
  settled : ∀ result, s.result = some result → b.status = .stopped ∧ result = .ok b.stats ∧
    s.clients = (dialed.close .target).close .collector

/-- The service has rejected with a failure, and no stream has been opened. -/
structure Rejects (s : Service) (failure : Failure) : Prop where
  result : s.result = some (.error failure)
  unopened : s.calls = {}

/-! ## Dials -/

/-- How the dial of the collector ends, and what is left of its client. -/
def dialCollector (around : Surroundings) (cfg : Settings) : Except DialFault Unit × Clients :=
  ({ outcomes := around.outcomes } : Clients).dial .collector cfg.resolved.collector.address
    cfg.config.dialTimeoutMs

/-- How the dial of the target ends, and what is left of both clients. -/
def dialTarget (cfg : Settings) (clients : Clients) : Except DialFault Unit × Clients :=
  clients.dial .target cfg.resolved.targetAddress cfg.config.dialTimeoutMs

lemma dialPeers_eq (around : Surroundings) (cfg : Settings) :
    dialPeers cfg { outcomes := around.outcomes } = match dialCollector around cfg with
      | (.error fault, clients) => (.error fault, clients)
      | (.ok (), clients) => match dialTarget cfg clients with
        | (.error fault, clients) => (.error fault, clients.close .collector)
        | (.ok (), clients) => (.ok (), clients) := rfl

section

variable {around : Surroundings} {cfg : Settings} {aborted : Option Failure}
  {created : Bridge Calls} {dialed clients : Clients}

lemma Serves.step (lifecycle : b.Lifecycle) (h : Serves created dialed b s) (e : Event) :
    ∃ b', Serves created dialed b' (s.step e) := by
  obtain ⟨es, unasked, hmoves⟩ := step_moves h.bridge e
  obtain ⟨before, single, hb⟩ := h.ran
  have ran : ∃ es', es'.filterMap BridgeEvent.run? = [run] ∧
      b.after Calls.occur es = created.after Calls.occur es' := by
    refine ⟨before ++ es, ?_, ?_⟩
    · rw [List.filterMap_append, single, unasked, List.append_nil]
    · rw [Bridge.after_append, hb]
  refine ⟨b.after Calls.occur es, ?_⟩
  generalize s.step e = s' at hmoves
  cases hmoves with
  | goesOn =>
    refine ⟨rfl, ran, h.pending, fun result hresult => ?_⟩
    obtain ⟨hstopped, hstats, hclients⟩ := h.settled result hresult
    obtain ⟨hstopped', hstats'⟩ := Bridge.stopped_after lifecycle hstopped Calls.occur unasked
    exact ⟨hstopped', by rw [hstats, hstats'], hclients⟩
  | settles pending stopped =>
    refine ⟨rfl, ran, nofun, ?_⟩
    rintro _ ⟨⟩
    exact ⟨stopped, rfl, by rw [h.pending pending]⟩

lemma Serves.after (lifecycle : ∀ es, (created.after Calls.occur es).Lifecycle)
    (h : Serves created dialed b s) (events : List Event) :
    ∃ b', Serves created dialed b' (s.after events) := by
  induction events generalizing b s with
  | nil => exact ⟨b, h⟩
  | cons e events ih =>
    obtain ⟨es, -, hb⟩ := h.ran
    obtain ⟨b', h'⟩ := h.step (hb ▸ lifecycle es) e
    exact ih h'

/-- Once both peers have been dialed the bridge is started. -/
lemma serves_start {credentials : Credentials}
    (hbuild : Credentials.build around.pki around.read cfg.config.collector.tls = .ok credentials)
    (hdial : dialPeers cfg { outcomes := around.outcomes } = (.ok (), dialed)) :
    ∃ b, Serves (createBridge around cfg) dialed b (start around cfg aborted) := by
  unfold start
  rw [hbuild]
  dsimp only
  rw [hdial]
  cases aborted with
  | none => exact ⟨_, rfl, ⟨[.start run], rfl, rfl⟩, fun _ => rfl, nofun⟩
  | some reason =>
    exact ⟨_, rfl, ⟨[.abort signal reason, .start run], rfl, rfl⟩, fun _ => rfl, nofun⟩

end

section

variable {around : Surroundings} {cfg : Settings} {aborted : Option Failure}
  {clients dialed : Clients} {fault : DialFault} {created : Bridge Calls}

lemma dialPeers_of_collector (hcollector : dialCollector around cfg = (.error fault, clients)) :
    dialPeers cfg { outcomes := around.outcomes } = (.error fault, clients) := by
  rw [dialPeers_eq, hcollector]

lemma dialPeers_of_target (hcollector : dialCollector around cfg = (.ok (), clients))
    (htarget : dialTarget cfg clients = (.error fault, dialed)) :
    dialPeers cfg { outcomes := around.outcomes } = (.error fault, dialed.close .collector) := by
  rw [dialPeers_eq, hcollector]
  dsimp only
  rw [htarget]

lemma dialPeers_of_both (hcollector : dialCollector around cfg = (.ok (), clients))
    (htarget : dialTarget cfg clients = (.ok (), dialed)) :
    dialPeers cfg { outcomes := around.outcomes } = (.ok (), dialed) := by
  rw [dialPeers_eq, hcollector]
  dsimp only
  rw [htarget]

/-- If the credentials cannot be built the service has rejected, and nothing happens any more. -/
lemma after_of_refused {refusal : CredentialFault}
    (hbuild : Credentials.build around.pki around.read cfg.config.collector.tls = .error refusal)
    (events : List Event) : (start around cfg aborted).after events =
      { clients := { outcomes := around.outcomes }
        result := some (.error refusal.toFailure) } := by
  have hstart : start around cfg aborted =
      { clients := { outcomes := around.outcomes }
        result := some (.error refusal.toFailure) } := by
    rw [start, hbuild]
  rw [after_of_no_bridge (by rw [hstart]), hstart]

/-- If a peer cannot be dialed the service has rejected, and nothing happens any more. -/
lemma after_of_undialed {credentials : Credentials}
    (hbuild : Credentials.build around.pki around.read cfg.config.collector.tls = .ok credentials)
    (hdial : dialPeers cfg { outcomes := around.outcomes } = (.error fault, dialed))
    (events : List Event) : (start around cfg aborted).after events =
      { clients := dialed, log := startEvents cfg credentials,
        result := some (.error fault.toFailure) } := by
  have hstart : start around cfg aborted =
      { clients := dialed, log := startEvents cfg credentials,
        result := some (.error fault.toFailure) } := by
    unfold start
    rw [hbuild]
    dsimp only
    rw [hdial]
  rw [after_of_no_bridge (by rw [hstart]), hstart]

/-- Both clients are open once both peers have been dialed. -/
lemma opened_of_dials (hcollector : dialCollector around cfg = (.ok (), clients))
    (htarget : dialTarget cfg clients = (.ok (), dialed)) :
    ∀ peer, Clients.Opened peer (dialed.about peer) := by
  obtain ⟨hopened, hothers, -⟩ := Clients.leaves_of_dial hcollector rfl
  obtain ⟨hopened', hothers', -⟩ := Clients.leaves_of_dial htarget (hothers .target (by decide))
  intro peer
  cases peer with
  | target => exact hopened'
  | collector => rwa [hothers' .collector (by decide)]

lemma released_of_closes (h : ∀ peer, Clients.Opened peer (dialed.about peer)) (peer : Peer) :
    Clients.Released peer (((dialed.close .target).close .collector).about peer) := by
  obtain ⟨htarget, hothers⟩ := Clients.released_of_close (h .target)
  have hopen : Clients.Opened .collector ((dialed.close .target).about .collector) := by
    rw [hothers .collector (by decide)]
    exact h .collector
  obtain ⟨hcollector, hothers'⟩ := Clients.released_of_close hopen
  cases peer with
  | target => rwa [hothers' .target (by decide)]
  | collector => exact hcollector

lemma Serves.released (h : Serves created dialed b s)
    (opened : ∀ peer, Clients.Opened peer (dialed.about peer)) (settled : s.result ≠ none)
    (peer : Peer) : Clients.Released peer (s.clients.about peer) := by
  obtain ⟨result, hresult⟩ := Option.ne_none_iff_exists'.mp settled
  obtain ⟨-, -, hclients⟩ := h.settled result hresult
  rw [hclients]
  exact released_of_closes opened peer

lemma Serves.events_prefix (h : Serves created dialed b s) :
    dialed.events <+: s.clients.events := by
  cases hresult : s.result with
  | none => simp only [h.pending hresult, List.prefix_refl]
  | some result =>
    obtain ⟨-, -, hclients⟩ := h.settled result hresult
    rw [hclients]
    exact (List.prefix_append _ _).trans (List.prefix_append _ _)

/-- The service settles when the bridge has stopped, with the counts, and not before. -/
lemma Serves.outcome (h : Serves created dialed b s)
    (opened : ∀ peer, Clients.Opened peer (dialed.about peer)) :
    match s.result with
    | none => (∀ peer, Clients.Opened peer (s.clients.about peer)) ∧
      (b.status = .stopped → (s.turns 0).result ≠ none)
    | some result => b.status = .stopped ∧ result = .ok b.stats := by
  cases hresult : s.result with
  | none =>
    refine ⟨?_, fun stopped => ?_⟩
    · rw [h.pending hresult]
      exact opened
    · have hturns : s.turns 0 = { s with
          clients := (s.clients.close .target).close .collector
          result := some (.ok b.stats) } := by
        rw [turns, h.bridge, hresult]
        dsimp only [Bridge.turns]
        rw [if_pos stopped, ← h.bridge]
      rw [hturns]
      nofun
  | some result =>
    obtain ⟨stopped, hstats, -⟩ := h.settled result hresult
    exact ⟨stopped, hstats⟩

/-- A client of the collector is not left open when the target cannot be dialed. -/
lemma released_of_undialed (hcollector : dialCollector around cfg = (.ok (), clients))
    (htarget : dialTarget cfg clients = (.error fault, dialed)) (peer : Peer) :
    Clients.Released peer ((dialed.close .collector).about peer) := by
  obtain ⟨hopened, hothers, -⟩ := Clients.leaves_of_dial hcollector rfl
  obtain ⟨hreleased, hothers', -⟩ :=
    Clients.leaves_of_dial htarget (hothers .target (by decide))
  have hopen : Clients.Opened .collector (dialed.about .collector) := by
    rwa [hothers' .collector (by decide)]
  obtain ⟨hclosed, hothers''⟩ := Clients.released_of_close hopen
  cases peer with
  | target => rwa [hothers'' .target (by decide)]
  | collector => exact hclosed

/-- The bridge that is started goes through one run, whatever happens to the service. -/
lemma serves_after {credentials : Credentials}
    (hbuild : Credentials.build around.pki around.read cfg.config.collector.tls = .ok credentials)
    (hdial : dialPeers cfg { outcomes := around.outcomes } = (.ok (), dialed))
    (events : List Event) :
    ∃ b, Serves (createBridge around cfg) dialed b ((start around cfg aborted).after events) ∧
      b.Yields run := by
  obtain ⟨b₀, hstart⟩ : ∃ b, Serves (createBridge around cfg) dialed b
      (start around cfg aborted) := serves_start hbuild hdial
  have lifecycle : ∀ es, ((createBridge around cfg).after Calls.occur es).Lifecycle :=
    Bridge.lifecycle_after _ _ _ _ _ Calls.occur
  obtain ⟨b, h⟩ := hstart.after lifecycle events
  obtain ⟨es, single, hb⟩ := h.ran
  have only : es.filterMap BridgeEvent.run? <+: [run] := by simp only [single, List.prefix_refl]
  refine ⟨b, h, ?_⟩
  rw [hb]
  exact Bridge.yields_after _ _ _ _ _ Calls.occur es only

end

/-- A service holds each client that it makes until it settles, and then has closed it, once. If the
credentials cannot be built, nothing is dialed; the target is dialed only when the collector has
been; and if either fails, the service has rejected with just that failure, and no stream is opened.
If both have been dialed, the clients are open while the bridge runs, whose run cannot fail, and the
service settles with what the run yields. -/
theorem clients_are_released (around : Surroundings) (cfg : Settings) (aborted : Option Failure)
    (events : List Event) :
    let s := (start around cfg aborted).after events
    (s.result ≠ none → ∀ peer, Clients.Released peer (s.clients.about peer)) ∧
    match Credentials.build around.pki around.read cfg.config.collector.tls with
    | .error fault => s.Rejects fault.toFailure ∧
      fault.toFailure.className? = some "ConfigError" ∧ s.clients.events = []
    | .ok _ => match dialCollector around cfg with
      | (.error fault, _) => s.Rejects fault.toFailure ∧
        fault.toFailure.className? = some "DialError" ∧ s.clients.about .target = []
      | (.ok (), clients) => clients.about .target = [] ∧ clients.events <+: s.clients.events ∧
        match dialTarget cfg clients with
        | (.error fault, _) => s.Rejects fault.toFailure ∧
          fault.toFailure.className? = some "DialError"
        | (.ok (), _) => ∃ b, s.bridge = some b ∧ b.Yields run ∧ match s.result with
          | none => (∀ peer, Clients.Opened peer (s.clients.about peer)) ∧
            (b.status = .stopped → (s.turns 0).result ≠ none)
          | some result => b.status = .stopped ∧ result = .ok b.stats := by
  intro s
  cases hbuild : Credentials.build around.pki around.read cfg.config.collector.tls with
  | error fault =>
    have hs : s = _ := after_of_refused hbuild events
    rw [hs]
    exact ⟨fun _ _ => .inl rfl, ⟨rfl, rfl⟩, rfl, rfl⟩
  | ok credentials =>
    dsimp only
    rcases hcollector : dialCollector around cfg with ⟨fault | ⟨⟩, clients⟩
    · obtain ⟨hreleased, hothers, -⟩ := Clients.leaves_of_dial hcollector rfl
      have hs : s = _ :=
        after_of_undialed hbuild (dialPeers_of_collector hcollector) events
      rw [hs]
      refine ⟨fun _ peer => ?_, ⟨rfl, rfl⟩, rfl, hothers .target (by decide)⟩
      cases peer with
      | target => exact .inl (hothers .target (by decide))
      | collector => exact hreleased
    · obtain ⟨-, hothers, -⟩ := Clients.leaves_of_dial hcollector rfl
      have untouched : clients.about .target = [] := hothers .target (by decide)
      dsimp only
      rcases htarget : dialTarget cfg clients with ⟨fault | ⟨⟩, dialed⟩
      · obtain ⟨-, -, hbegins⟩ := Clients.leaves_of_dial htarget untouched
        have hs : s = _ :=
          after_of_undialed hbuild (dialPeers_of_target hcollector htarget) events
        rw [hs]
        exact ⟨fun _ => released_of_undialed hcollector htarget, untouched,
          hbegins.trans (List.prefix_append _ _), ⟨rfl, rfl⟩, rfl⟩
      · obtain ⟨-, -, hbegins⟩ := Clients.leaves_of_dial htarget untouched
        have opened := opened_of_dials hcollector htarget
        obtain ⟨b, h, hyields⟩ : ∃ b, Serves (createBridge around cfg) dialed b s ∧ b.Yields run :=
          serves_after hbuild (dialPeers_of_both hcollector htarget) events
        exact ⟨h.released opened, untouched, hbegins.trans h.events_prefix, b, h.bridge, hyields,
          h.outcome opened⟩

end Service

end TelemetryBridge
