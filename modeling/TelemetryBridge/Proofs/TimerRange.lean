import TelemetryBridge.Proofs.RetryDelays
import TelemetryBridge.Proofs.RetryPaces
import TelemetryBridge.Proofs.UsableSettings
import TelemetryBridge.Service

/-!
# The range of timers

A delay that is loaded from a configuration is a whole number of milliseconds up to the cap, whatever
rounding does to the powers of two. But any cap is accepted, while a timer keeps no delay above
`2 ^ 31 - 1`. So a configuration keeps to the range of timers only if its cap does, or if it asks for
no delays at all.
-/

namespace TelemetryBridge

/-! ## Rounding -/

lemma Number.binary64_nonneg {x y : Rat} (hx : 0 ≤ x) (h : Number.binary64 x = .finite y) :
    0 ≤ y := by
  unfold Number.binary64 at h
  by_cases hzero : x = 0
  · rw [if_pos hzero] at h
    exact (Number.finite.inj h).le
  · rw [if_neg hzero] at h
    dsimp only at h
    split at h
    · cases h
    · rw [if_neg (not_lt.mpr hx)] at h
      rw [← Number.finite.inj h]
      exact Rat.mkRat_nonneg (Int.natCast_nonneg _) _

namespace Backoff

lemma nearest_whole {x : Rat} (hx : 0 ≤ x) : ∃ n : Nat, nearest x = n := by
  have hfloor : 0 ≤ (x + 1 / 2).floor := by
    apply Rat.le_floor_iff.mpr
    push_cast
    linarith
  obtain ⟨n, hn⟩ := Int.eq_ofNat_of_zero_le hfloor
  exact ⟨n, by rw [nearest, hn, Int.cast_natCast]⟩

section

variable {initial random : Rat}

lemma base_nonneg (hi : 0 ≤ initial) {n : Nat} {base : Rat}
    (h : product binary64 initial (binary64.powerOfTwo n) = .finite base) : 0 ≤ base := by
  by_cases hn : n < 1024
  · have hpower : binary64.powerOfTwo n = .finite (2 ^ n) := if_pos hn
    rw [hpower] at h
    exact Number.binary64_nonneg (mul_nonneg hi (by positivity)) h
  · have hpower : binary64.powerOfTwo n = .infinite false := if_neg hn
    rw [hpower] at h
    cases h

/-- Rounded as they are, delays are whole numbers up to the cap. -/
lemma delay_whole (hi : 0 ≤ initial) (hr : 0 ≤ random) (cap n : Nat) :
    ∃ d : Nat, delay binary64 initial cap random n = .ofNat d ∧ d ≤ cap := by
  have hcap : ∃ d : Nat, Number.finite (cap : Rat) = .ofNat d ∧ d ≤ cap := ⟨cap, rfl, le_rfl⟩
  unfold delay
  dsimp only
  split
  · exact hcap
  · next half hhalf =>
    have hhalf : 0 ≤ half := Number.binary64_nonneg (div_nonneg hr (by norm_num)) hhalf
    split
    · next jitter base hjitter hbase =>
      have hjitter : 0 ≤ jitter := Number.binary64_nonneg (by linarith) hjitter
      have hbase : 0 ≤ base := base_nonneg hi hbase
      split
      · next jittered hjittered =>
        have hjittered : 0 ≤ jittered := Number.binary64_nonneg (mul_nonneg hbase hjitter) hjittered
        obtain ⟨d, hd⟩ := nearest_whole hjittered
        refine ⟨Min.min d cap, ?_, min_le_right d cap⟩
        rw [hd, Number.min_finite, ← Nat.cast_min]
        rfl
      · exact hcap
    · exact hcap

/-- Where the power of two has no binary64 number, the delay is the cap. -/
lemma delay_of_overflow (initial cap random : Rat) {n : Nat} (hn : 1025 ≤ n) :
    delay binary64 initial cap random n = .finite cap := by
  have hpower : binary64.powerOfTwo (n - 1) = .infinite false := if_neg (by omega)
  unfold delay
  rw [hpower]
  dsimp only [product]
  split
  · rfl
  · split
    · next hbase => cases hbase
    · rfl

end

/-! ## Policies of configurations -/

variable {initial cap : Nat} {random : Nat → Rat}

lemma policy_zero (k : Nat) (n : Int) :
    RetryConfig.policy binary64 random ⟨.ofNat 0, .ofNat cap⟩ k n = .ofNat 0 := by
  have hzero : ¬(0 : Rat) < ((0 : Nat) : Rat) := by simp
  simp only [RetryConfig.policy, Number.ofNat, if_neg hzero]
  rfl

lemma policy_pos (hi : 0 < initial) (k : Nat) {n : Nat} (hn : 1 ≤ n) :
    RetryConfig.policy binary64 random ⟨.ofNat initial, .ofNat cap⟩ k n =
      delay binary64 initial cap (random k) n := by
  have hinitial : (0 : Rat) < initial := Nat.cast_pos.mpr hi
  have hpolicy : RetryConfig.policy binary64 random ⟨.ofNat initial, .ofNat cap⟩ =
      exponential binary64 initial cap random := if_pos hinitial
  rw [hpolicy, exponential, if_pos (draws_of_pos hinitial hn), Int.toNat_natCast]

lemma policy_whole (initial cap : Nat) (hr : ∀ k, 0 ≤ random k) (k : Nat) {n : Nat} (hn : 1 ≤ n) :
    ∃ d : Nat, RetryConfig.policy binary64 random ⟨.ofNat initial, .ofNat cap⟩ k n = .ofNat d ∧
      d ≤ cap := by
  rcases Nat.eq_zero_or_pos initial with rfl | hi
  · exact ⟨0, policy_zero k n, Nat.zero_le cap⟩
  · rw [policy_pos hi k hn]
    exact delay_whole (Nat.cast_nonneg initial) (hr k) cap n

/-- Delays keep to the range of timers if the cap does, or if there are none. -/
lemma policy_fits_iff (hr : ∀ k, 0 ≤ random k) :
    (∀ k n d : Nat, 1 ≤ n →
      RetryConfig.policy binary64 random ⟨.ofNat initial, .ofNat cap⟩ k n = .ofNat d →
        d ≤ longestTimer) ↔ initial = 0 ∨ cap ≤ longestTimer := by
  constructor
  · intro hfits
    rcases Nat.eq_zero_or_pos initial with hi | hi
    · exact Or.inl hi
    · refine Or.inr (hfits 0 1025 cap (by decide) ?_)
      rw [policy_pos hi 0 (by decide)]
      exact delay_of_overflow initial cap (random 0) le_rfl
  · intro hbound k n d hn hd
    rcases hbound with rfl | hcap
    · have hzero := hd.symm.trans (policy_zero k n)
      have : (d : Rat) = 0 := Number.finite.inj hzero
      exact (Nat.cast_eq_zero.mp this).trans_le (Nat.zero_le _)
    · obtain ⟨d', hd', hle⟩ := policy_whole initial cap hr k hn
      have : (d : Rat) = d' := Number.finite.inj (hd.symm.trans hd')
      exact (Nat.cast_injective this).trans_le (hle.trans hcap)

end Backoff

/-! ## Delays of a bridge -/

namespace Bridge

variable {ω ε : Type} {b : Bridge ω} {policy : Backoff.Policy}

/-- Whether the policy gives a delay after some failures in a row. -/
def Gives (policy : Backoff.Policy) (delay : Number) : Prop :=
  ∃ k n : Nat, 1 ≤ n ∧ policy k n = delay

/-- Every delay that is waited out, or was logged, is one that the policy gives. -/
structure WaitsBy (policy : Backoff.Policy) (b : Bridge ω) : Prop where
  asks : b.policy = policy
  pause : ∀ pause, b.pause = some pause → Gives policy pause.delay
  logged : ∀ delay ∈ b.relay.history.filterMap Note.delay?, Gives policy delay

lemma WaitsBy.logged_of_adds {r r' : Relay ω} (h : r.Adds Note.isUnpaced r') :
    r'.history.filterMap Note.delay? = r.history.filterMap Note.delay? := by
  obtain ⟨ns, hunpaced, hn⟩ := h
  rw [hn, List.filterMap_append, (Note.filterMap_of_isUnpaced hunpaced).2, List.append_nil]

section

variable [Endpoints ω]

/-- Only a failure brings a delay, and it is the one that the policy gives for it. -/
lemma WaitsBy.step (h : b.WaitsBy policy) (hb : b.Lifecycle)
    (occur : ε → ω → Option (List Answer × ω)) (e : BridgeEvent ε) :
    (b.step occur e).WaitsBy policy := by
  have hasks := (policy_step occur b e).trans h.asks
  cases hb.beat occur e with
  | keeps kept =>
    refine ⟨hasks, ?_, ?_⟩
    · intro pause hpause
      rcases kept.pause with hnone | hsame
      · cases hnone.symm.trans hpause
      · exact h.pause pause (hsame ▸ hpause)
    · rw [logged_of_adds kept.told]
      exact h.logged
  | begins begun =>
    refine ⟨hasks, ?_, ?_⟩
    · intro pause hpause
      cases begun.pause.symm.trans hpause
    · rw [logged_of_adds begun.told]
      exact h.logged
  | fails failed =>
    have hcount : 1 ≤ (b.step occur e).consecutive := by
      rw [failed.consecutive]
      split
      · exact le_rfl
      · exact Nat.le_add_left 1 _
    have hgives : Gives policy (b.policy b.failures (b.step occur e).consecutive) :=
      ⟨b.failures, (b.step occur e).consecutive, hcount, by rw [h.asks]⟩
    refine ⟨hasks, ?_, ?_⟩
    · intro pause hpause
      obtain rfl := Option.some.inj (failed.pause.symm.trans hpause)
      exact hgives
    · obtain ⟨r, cause, forwarded, told, -, hhistory⟩ := failed.told
      intro delay hdelay
      rw [hhistory, List.filterMap_append, logged_of_adds told, List.mem_append] at hdelay
      rcases hdelay with hold | hnew
      · exact h.logged delay hold
      · obtain rfl := List.mem_singleton.mp hnew
        exact hgives

lemma waitsBy_after (world : ω) (request : SubscribeRequest) (metadata : Option Login)
    (policy : Backoff.Policy) (timer : Backoff.Timer) (occur : ε → ω → Option (List Answer × ω))
    (events : List (BridgeEvent ε)) :
    ((create world request metadata policy timer).after occur events).WaitsBy policy := by
  have hcreate : (create world request metadata policy timer).WaitsBy policy := ⟨rfl, nofun, nofun⟩
  exact (after_induction (P := fun b => b.Lifecycle ∧ b.WaitsBy policy)
    (fun _ e h => ⟨h.1.step occur e, h.2.step h.1 occur e⟩)
    ⟨lifecycle_create world request metadata policy timer, hcreate⟩ events).2

end

end Bridge

/-! ## Delays of a configuration -/

lemma Number.isCount_ofNat (n : Nat) : (Number.ofNat n).IsCount false :=
  ⟨decide_eq_true (Rat.den_natCast n), decide_eq_true (Nat.cast_nonneg n)⟩

lemma Number.isCount_of_pos {n : Nat} (hn : 1 ≤ n) : (Number.ofNat n).IsCount true := by
  have hle : Number.le (.ofNat n) 0 = false := by
    apply decide_eq_false
    exact not_le.mpr (Nat.cast_pos.mpr hn)
  exact ⟨(isCount_ofNat n).1, by rw [if_pos rfl, Number.lt, hle]; rfl⟩

/-- Nothing but the sign of the cap is asked of delays: any others are accepted in their place. -/
lemma load_with_delays {host : Host} {given : Option String} {o : Overrides} {settings : Settings}
    (loaded : Config.load host given o = .ok settings) (initial : Nat) {cap : Nat} (hc : 1 ≤ cap) :
    ∃ settings', Config.load host given
        { o with retryDelay := some (.ofNat initial), retryMaxDelay := some (.ofNat cap) } =
          .ok settings' ∧
      settings'.config.retry = ⟨.ofNat initial, .ofNat cap⟩ := by
  obtain ⟨json, hjson, hbase, hlevel, hcounts, hresolve⟩ := load_eq_ok.mp loaded
  obtain ⟨isOf, hconfig, hlog⟩ := resolve_eq_ok.mp hresolve
  let retry : RetryConfig := ⟨.ofNat initial, .ofNat cap⟩
  refine ⟨{ settings with config := { settings.config with retry } },
    load_eq_ok.mpr ⟨json, hjson, hbase, hlevel, ?_, ?_⟩, rfl⟩
  · exact ⟨Number.isCount_ofNat initial, Number.isCount_of_pos hc, hcounts.dialTimeout⟩
  · refine resolve_eq_ok.mpr ⟨⟨isOf.subscribed, isOf.paths, isOf.targetAddress, isOf.named,
      isOf.collector, isOf.sourceAddress⟩, ?_, hlog⟩
    rw [hconfig]
    rfl

/-- What the service waits between attempts, in every run of its bridge, is what the policy of its
configuration gives for some number of failures in a row. That is a whole number of milliseconds up
to the cap. All these delays keep to the range of timers if and only if the cap does or the first
delay is none. With other flags for the delays a configuration is loaded too, whatever they are. -/
theorem delays_fit_timer_iff {host : Host} {given : Option String} {o : Overrides}
    {settings : Settings} (loaded : Config.load host given o = .ok settings)
    (around : Surroundings) (drawn : ∀ k, 0 ≤ around.random k ∧ around.random k < 1) :
    let bridge := Service.createBridge around settings
    ∃ initial cap : Nat, settings.config.retry = ⟨.ofNat initial, .ofNat cap⟩ ∧
      (∀ k n : Nat, 1 ≤ n → ∃ d : Nat, bridge.policy k n = .ofNat d ∧ d ≤ cap) ∧
      (∀ events : List (BridgeEvent Calls.Event), let b := bridge.after Calls.occur events
        (∀ pause, b.pause = some pause → Bridge.Gives bridge.policy pause.delay) ∧
        ∀ delay ∈ b.relay.history.filterMap Note.delay?, Bridge.Gives bridge.policy delay) ∧
      ((∀ k n d : Nat, 1 ≤ n → bridge.policy k n = .ofNat d → d ≤ Backoff.longestTimer) ↔
        initial = 0 ∨ cap ≤ Backoff.longestTimer) ∧
      ∀ initial' cap' : Nat, 1 ≤ cap' → ∃ settings', Config.load host given
          { o with retryDelay := some (.ofNat initial'), retryMaxDelay := some (.ofNat cap') } =
            .ok settings' ∧
        settings'.config.retry = ⟨.ofNat initial', .ofNat cap'⟩ := by
  intro bridge
  obtain ⟨json, -, -, -, hcounts, hresolve⟩ := load_eq_ok.mp loaded
  have usable := isUsable_of_resolve hcounts hresolve
  obtain ⟨initial, hinitial⟩ := usable.initialDelay
  obtain ⟨cap, -, hcap⟩ := usable.maxDelay
  have hretry : settings.config.retry = ⟨.ofNat initial, .ofNat cap⟩ := by
    rw [← hinitial, ← hcap]
  have hpolicy : bridge.policy =
      RetryConfig.policy Backoff.binary64 around.random ⟨.ofNat initial, .ofNat cap⟩ := by
    rw [← hretry]
    rfl
  have hrandom : ∀ k, 0 ≤ around.random k := fun k => (drawn k).1
  refine ⟨initial, cap, hretry, ?_, ?_, ?_,
    fun initial' _ hcap' => load_with_delays loaded initial' hcap'⟩
  · intro k n hn
    rw [hpolicy]
    exact Backoff.policy_whole initial cap hrandom k hn
  · intro events
    have hwaits := Bridge.waitsBy_after (ω := Calls) {} (.ofPaths settings.config.target.value
      settings.resolved.paths) (Login.ofCredentials settings.config.target.username
      settings.config.target.password) bridge.policy around.timer Calls.occur events
    exact ⟨hwaits.pause, hwaits.logged⟩
  · rw [hpolicy]
    exact Backoff.policy_fits_iff hrandom

/-- Delays of three billion milliseconds are accepted. The target refuses the request, and what is
waited then is more than a timer keeps. -/
theorem long_delay_exceeds_timer :
    let host : Host :=
      { cwd := "/work", home := "/home/u", configVariable := none, read := fun _ => .error "absent" }
    let o : Overrides :=
      { subscribe := ["/a"], collectorAddr := some "c:1"
        retryDelay := some 3000000000, retryMaxDelay := some 3000000000 }
    let around : Surroundings := {
      read := fun _ => .error "absent", pki := X509.pki, random := fun _ => 1 / 2, outcomes := [] }
    let events : List (BridgeEvent Calls.Event) :=
      [.start ⟨0, none, none⟩, .endpoint (.target (.requestRefused "gone"))] ++
        List.replicate 20 .turn
    ∃ settings, Config.load host none o = .ok settings ∧
      let bridge := Service.createBridge around settings
      (∃ pause, (bridge.after Calls.occur events).pause = some pause ∧
        pause.delay = .ofNat 3000000000 ∧ Bridge.Gives bridge.policy pause.delay) ∧
      ¬∀ k n d : Nat, 1 ≤ n → bridge.policy k n = .ofNat d → d ≤ Backoff.longestTimer := by
  intro host o around events
  have hseen : (Config.load host none o).toOption.bind (fun settings =>
      ((Service.createBridge around settings).after Calls.occur events).pause.map fun pause =>
        (pause.delay, settings.config.retry)) =
      some (.ofNat 3000000000, ⟨.ofNat 3000000000, .ofNat 3000000000⟩) := by
    decide +kernel
  obtain ⟨settings, hsome, hseen⟩ := Option.bind_eq_some_iff.mp hseen
  obtain ⟨pause, hpause, hseen⟩ := Option.map_eq_some_iff.mp hseen
  obtain ⟨hdelay, hconfig⟩ := Prod.mk.inj hseen
  have loaded : Config.load host none o = .ok settings := toOption_eq_some.mp hsome
  have drawn : ∀ k, 0 ≤ around.random k ∧ around.random k < 1 := by
    intro k
    change (0 : Rat) ≤ 1 / 2 ∧ (1 / 2 : Rat) < 1
    norm_num
  obtain ⟨initial, cap, hretry, -, hwaits, hfits, -⟩ := delays_fit_timer_iff loaded around drawn
  obtain ⟨hinitial, hcap⟩ := RetryConfig.mk.inj (hretry.symm.trans hconfig)
  have hinitial : initial = 3000000000 := by exact_mod_cast Number.finite.inj hinitial
  have hcap : cap = 3000000000 := by exact_mod_cast Number.finite.inj hcap
  refine ⟨settings, loaded, ⟨pause, hpause, hdelay, (hwaits events).1 pause hpause⟩, ?_⟩
  intro hall
  rcases hfits.mp hall with hzero | hfit
  · exact absurd (hinitial.symm.trans hzero) (by decide)
  · exact absurd (hcap ▸ hfit) (by decide)

end TelemetryBridge
