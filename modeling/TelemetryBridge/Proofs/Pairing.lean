import TelemetryBridge.Proofs.Lifecycle

/-!
# Sessions come in pairs

The history of a bridge counts the sessions that started and ended on each side, and the streams that
were opened and closed. `History.Paired` says when each of these may happen, and every run keeps to it
(`Relay.Pairing`), for any endpoints: an attempt begins when all that went before has ended and is
closed, and every stream is closed when its session ends.
-/

namespace TelemetryBridge

namespace Note

/-- Whether a session of the side starts. -/
def starts (side : Side) : Note → Bool
  | opening s _ _ => s = side
  | _ => false

/-- Whether the bridge hears that a session of the side has ended. -/
def finishes (side : Side) : Note → Bool
  | sessionEnded s _ => s = side
  | _ => false

/-- Whether a stream of the side is opened. -/
def opens (side : Side) : Note → Bool
  | opened s => s = side
  | _ => false

/-- Whether a stream of the side is closed. -/
def closes (side : Side) : Note → Bool
  | subscriberAsked .close => side = .subscribe
  | publisherAsked .close => side = .publish
  | _ => false

/-- Whether a note counts neither a session nor a stream. -/
def IsNeutral (n : Note) : Prop :=
  ∀ side, n.starts side = false ∧ n.finishes side = false ∧ n.opens side = false ∧
    n.closes side = false

lemma isNeutral_of_isQuiet {n : Note} (h : n.isQuiet = true) : n.IsNeutral := by
  intro side
  cases n with
  | subscriberAsked command =>
    cases command with
    | close => cases h
    | _ => exact ⟨rfl, rfl, rfl, rfl⟩
  | publisherAsked command =>
    cases command with
    | close => cases h
    | _ => exact ⟨rfl, rfl, rfl, rfl⟩
  | opening | opened | sessionEnded => cases h
  | _ => exact ⟨rfl, rfl, rfl, rfl⟩

lemma isNeutral_log (event : LogEvent) : (Note.log event).IsNeutral :=
  fun _ => ⟨rfl, rfl, rfl, rfl⟩

end Note

namespace History

/-- How many sessions of the side have started. -/
def started (side : Side) (h : List Note) : Nat := h.countP (Note.starts side)

/-- Of how many sessions of the side the bridge has heard that they ended. -/
def finished (side : Side) (h : List Note) : Nat := h.countP (Note.finishes side)

/-- How many streams of the side were opened. -/
def opened (side : Side) (h : List Note) : Nat := h.countP (Note.opens side)

/-- How many streams of the side were closed. -/
def closed (side : Side) (h : List Note) : Nat := h.countP (Note.closes side)

/-- All sessions of the side have ended, and all its streams are closed. -/
def Settled (side : Side) (h : List Note) : Prop :=
  started side h = finished side h ∧ opened side h = closed side h

/-- When a note that counts a session or a stream may follow a history. -/
def Allowed (h : List Note) : Note → Prop
  | .opening .subscribe _ _ =>
    (∀ side, Settled side h) ∧ started .subscribe h = started .publish h
  | .opening .publish _ _ =>
    Settled .publish h ∧ started .subscribe h = started .publish h + 1
  | .opened side => started side h = finished side h + 1 ∧ opened side h = closed side h
  | .sessionEnded side _ => started side h = finished side h + 1 ∧ opened side h = closed side h
  | .subscriberAsked .close => opened .subscribe h = closed .subscribe h + 1
  | .publisherAsked .close => opened .publish h = closed .publish h + 1
  | _ => True

/-- A history each of whose notes may follow those before it. -/
inductive Paired : List Note → Prop
  | nil : Paired []
  | snoc {h : List Note} {n : Note} : Paired h → Allowed h n → Paired (h ++ [n])

lemma Paired.allowed {h : List Note} (hp : Paired h) {p : List Note} {n : Note}
    (hn : p ++ [n] <+: h) : Allowed p n := by
  induction hp with
  | nil => simp at hn
  | snoc _ ha ih =>
    rcases List.prefix_concat_iff.mp hn with he | hn
    · obtain ⟨rfl, hl⟩ := List.append_inj' he rfl
      obtain rfl := List.singleton_inj.mp hl
      exact ha
    · exact ih hn

lemma Paired.of_prefix {h p : List Note} (hp : Paired h) (hn : p <+: h) : Paired p := by
  induction hp with
  | nil => rw [List.prefix_nil.mp hn]; exact .nil
  | snoc hp ha ih =>
    rcases List.prefix_concat_iff.mp hn with rfl | hn
    · exact hp.snoc ha
    · exact ih hn

section

variable (side : Side) (h h' : List Note) (n : Note)

@[simp] lemma started_append : started side (h ++ h') = started side h + started side h' :=
  List.countP_append

@[simp] lemma finished_append : finished side (h ++ h') = finished side h + finished side h' :=
  List.countP_append

@[simp] lemma opened_append : opened side (h ++ h') = opened side h + opened side h' :=
  List.countP_append

@[simp] lemma closed_append : closed side (h ++ h') = closed side h + closed side h' :=
  List.countP_append

@[simp] lemma started_cons : started side (n :: h) = started side h + (n.starts side).toNat := by
  cases hn : n.starts side <;> simp [started, hn]

@[simp] lemma finished_cons : finished side (n :: h) = finished side h + (n.finishes side).toNat := by
  cases hn : n.finishes side <;> simp [finished, hn]

@[simp] lemma opened_cons : opened side (n :: h) = opened side h + (n.opens side).toNat := by
  cases hn : n.opens side <;> simp [opened, hn]

@[simp] lemma closed_cons : closed side (n :: h) = closed side h + (n.closes side).toNat := by
  cases hn : n.closes side <;> simp [closed, hn]

@[simp] lemma started_nil : started side [] = 0 := rfl
@[simp] lemma finished_nil : finished side [] = 0 := rfl
@[simp] lemma opened_nil : opened side [] = 0 := rfl
@[simp] lemma closed_nil : closed side [] = 0 := rfl

end

lemma counts_of_neutral {ns : List Note} (h : ∀ n ∈ ns, n.IsNeutral) (side : Side) :
    started side ns = 0 ∧ finished side ns = 0 ∧ opened side ns = 0 ∧ closed side ns = 0 := by
  induction ns with
  | nil => exact ⟨rfl, rfl, rfl, rfl⟩
  | cons n ns ih =>
    obtain ⟨h₁, h₂, h₃, h₄⟩ := h n List.mem_cons_self side
    obtain ⟨i₁, i₂, i₃, i₄⟩ := ih fun m hm => h m (List.mem_cons_of_mem _ hm)
    simp [h₁, h₂, h₃, h₄, i₁, i₂, i₃, i₄]

lemma allowed_of_isNeutral (h : List Note) {n : Note} (hn : n.IsNeutral) : Allowed h n := by
  cases n with
  | opening side _ _ => simpa [Note.starts] using (hn side).1
  | opened side => simpa [Note.opens] using (hn side).2.2.1
  | sessionEnded side _ => simpa [Note.finishes] using (hn side).2.1
  | subscriberAsked command =>
    cases command <;> first | trivial | simpa [Note.closes] using (hn .subscribe).2.2.2
  | publisherAsked command =>
    cases command <;> first | trivial | simpa [Note.closes] using (hn .publish).2.2.2
  | _ => trivial

lemma Paired.append_neutral {h ns : List Note} (hp : Paired h) (hn : ∀ n ∈ ns, n.IsNeutral) :
    Paired (h ++ ns) := by
  induction ns generalizing h with
  | nil => simpa using hp
  | cons n ns ih =>
    rw [← List.singleton_append, ← List.append_assoc]
    exact ih (hp.snoc (allowed_of_isNeutral h (hn n List.mem_cons_self)))
      fun m hm => hn m (List.mem_cons_of_mem _ hm)

/-- At any time at most one session of a side is unfinished and at most one of its streams open. -/
lemma Paired.counts {h : List Note} (hp : Paired h) (side : Side) :
    (finished side h ≤ started side h ∧ started side h ≤ finished side h + 1) ∧
      (closed side h ≤ opened side h ∧ opened side h ≤ closed side h + 1) := by
  induction hp with
  | nil => simp
  | @snoc h n _ ha ih =>
    cases n with
    | opening s a st =>
      cases s with
      | subscribe =>
        have := ha.1 side
        unfold Settled at this
        cases side <;> simp [Note.starts, Note.finishes, Note.opens, Note.closes] <;> omega
      | publish =>
        have := ha.1
        unfold Settled at this
        cases side <;> simp [Note.starts, Note.finishes, Note.opens, Note.closes] <;> omega
    | opened s =>
      unfold Allowed at ha
      cases side <;> cases s <;> simp [Note.starts, Note.finishes, Note.opens, Note.closes] <;> omega
    | sessionEnded s f =>
      unfold Allowed at ha
      cases side <;> cases s <;> simp [Note.starts, Note.finishes, Note.opens, Note.closes] <;> omega
    | subscriberAsked command =>
      unfold Allowed at ha
      cases command <;> cases side <;>
        simp [Note.starts, Note.finishes, Note.opens, Note.closes] <;> simp at ha <;> omega
    | publisherAsked command =>
      unfold Allowed at ha
      cases command <;> cases side <;>
        simp [Note.starts, Note.finishes, Note.opens, Note.closes] <;> simp at ha <;> omega
    | _ => simpa [Note.starts, Note.finishes, Note.opens, Note.closes] using ih

/-- The subscribe session of an attempt starts first, and its publish session before any of the two
has been heard of. -/
lemma Paired.order {h : List Note} (hp : Paired h) :
    started .subscribe h = started .publish h ∨
      (started .subscribe h = started .publish h + 1 ∧ Settled .publish h) := by
  induction hp with
  | nil => exact Or.inl rfl
  | @snoc h n _ ha ih =>
    unfold Settled at ih ⊢
    cases n with
    | opening s a st =>
      cases s with
      | subscribe =>
        obtain ⟨hset, he⟩ := ha
        have := hset .publish
        unfold Settled at this
        right
        simp [Note.starts, Note.finishes, Note.opens, Note.closes, he, this]
      | publish =>
        left
        simp [Note.starts, ha.2]
    | opened s =>
      unfold Allowed at ha
      cases s <;> simp [Note.starts, Note.finishes, Note.opens, Note.closes] <;> omega
    | sessionEnded s f =>
      unfold Allowed at ha
      cases s <;> simp [Note.starts, Note.finishes, Note.opens, Note.closes] <;> omega
    | subscriberAsked command =>
      cases command <;> simpa [Note.starts, Note.finishes, Note.opens, Note.closes] using ih
    | publisherAsked command =>
      unfold Allowed at ha
      cases command <;> simp [Note.starts, Note.finishes, Note.opens, Note.closes] <;> simp at ha <;>
        omega
    | _ => simpa [Note.starts, Note.finishes, Note.opens, Note.closes] using ih

/-- Sessions that have started can be counted off by their openings. -/
lemma Paired.exists_opening {h : List Note} (hp : Paired h) {side : Side} {k : Nat}
    (hk : k < started side h) :
    ∃ q n status, q ++ [.opening side n status] <+: h ∧ started side q = k := by
  induction hp with
  | nil => simp at hk
  | @snoc h note _ _ ih =>
    by_cases hlt : k < started side h
    · obtain ⟨q, n, status, hq, hs⟩ := ih hlt
      exact ⟨q, n, status, hq.trans (List.prefix_append _ _), hs⟩
    · cases hn : note.starts side with
      | false => simp [hn] at hk; omega
      | true =>
        cases note with
        | opening s n status =>
          obtain rfl : s = side := by simpa [Note.starts] using hn
          exact ⟨h, n, status, List.prefix_refl _, by simp [Note.starts] at hk; omega⟩
        | _ => cases hn

/-- A stream is opened in an attempt before whose start all sessions had ended and all streams were
closed. -/
lemma Paired.before_opened {h p : List Note} {side : Side} (hp : Paired h)
    (ho : p ++ [.opened side] <+: h) :
    ∃ q n status, q ++ [.opening .subscribe n status] <+: p ∧ (∀ s, Settled s q) ∧
      started side p = started side q + 1 := by
  have hpp : Paired p := hp.of_prefix ((List.prefix_append _ _).trans ho)
  have hs : started side p = finished side p + 1 := (hp.allowed ho).1
  have hord := hpp.order
  have hpos : 0 < started .subscribe p := by cases side <;> omega
  have hlt : started .subscribe p - 1 < started .subscribe p := by omega
  obtain ⟨q, n, status, hq, hk⟩ := hpp.exists_opening hlt
  obtain ⟨hset, he⟩ := hpp.allowed hq
  refine ⟨q, n, status, hq, hset, ?_⟩
  cases side with
  | subscribe => omega
  | publish =>
    rcases hord with hord | ⟨-, hfin, -⟩ <;> omega

end History

open History

namespace Relay

variable {ω : Type}

/-- The history of a relay is paired, and tells which of its sessions are unfinished and which of
its streams are open. -/
structure Pairing (r : Relay ω) : Prop where
  paired : Paired r.history
  sessions : ∀ side,
    started side r.history = finished side r.history + ((r.isLive side).toNat + r.news side)
  streams : ∀ side, opened side r.history = closed side r.history + (r.isLive side).toNat

lemma Pairing.settled {r : Relay ω} (h : r.Pairing) {side : Side} (hl : r.isLive side = false)
    (hn : r.news side = 0) : Settled side r.history := by
  have hs := h.sessions side
  have ho := h.streams side
  rw [hl] at hs ho
  exact ⟨by simpa [hn] using hs, by simpa using ho⟩

lemma Pairing.of_neutral {r r' : Relay ω} (h : r.Pairing) (ns : List Note)
    (hns : ∀ n ∈ ns, n.IsNeutral) (hl : ∀ side, r'.isLive side = r.isLive side)
    (hn : ∀ side, r'.news side = r.news side) (hh : r'.history = r.history ++ ns) : r'.Pairing := by
  have hc := counts_of_neutral hns
  refine ⟨hh ▸ h.paired.append_neutral hns, fun s => ?_, fun s => ?_⟩
  · simp [hh, hc, hl, hn, h.sessions s]
  · simp [hh, hc, hl, h.streams s]

lemma Pairing.of_continues {r r' : Relay ω} (h : r.Pairing) (hr : r.Continues r') : r'.Pairing := by
  obtain ⟨ns, hq, hh⟩ := hr.history
  exact h.of_neutral ns (fun n hn => Note.isNeutral_of_isQuiet (hq n hn)) hr.live hr.news hh

lemma Pairing.note {r : Relay ω} (h : r.Pairing) {n : Note} (hn : n.IsNeutral) :
    (r.note n).Pairing :=
  h.of_neutral [n] (fun m hm => by rwa [List.mem_singleton.mp hm]) (fun s => by cases s <;> rfl)
    (fun _ => rfl) rfl

lemma started_of_continues {r r' : Relay ω} (hr : r.Continues r') (side : Side) :
    started side r'.history = started side r.history := by
  obtain ⟨ns, hq, hh⟩ := hr.history
  have hc := counts_of_neutral fun n hn => Note.isNeutral_of_isQuiet (hq n hn)
  simp [hh, hc]

lemma started_of_ends {r r' : Relay ω} {side : Side} (hr : r.Ends side r') (s : Side) :
    started s r'.history = started s r.history := by
  obtain ⟨ns, hq, hh⟩ := hr.history
  have hc := counts_of_neutral fun n hn => Note.isNeutral_of_isQuiet (hq n hn)
  cases side <;> simp [hh, hc, Note.closing, Note.starts]

lemma started_of_starts {r r' : Relay ω} {side : Side} (hr : r.Starts side r') (s : Side) :
    started s r'.history = started s r.history := by
  rcases hr.outcome with ⟨-, -, ns, hq, hh⟩ | ⟨-, -, hh⟩
  · have hc := counts_of_neutral fun n hn => Note.isNeutral_of_isQuiet (hq n hn)
    simp [hh, hc, Note.starts]
  · rw [hh]

lemma Pairing.of_ends {r r' : Relay ω} {side : Side} (h : r.Pairing) (hr : r.Ends side r') :
    r'.Pairing := by
  obtain ⟨ns, hq, hh⟩ := hr.history
  have hns : ∀ n ∈ ns, n.IsNeutral := fun n hn => Note.isNeutral_of_isQuiet (hq n hn)
  have hc := counts_of_neutral hns
  have hopen : opened side (r.history ++ ns) = closed side (r.history ++ ns) + 1 := by
    have := h.streams side
    rw [hr.wasLive] at this
    simpa [hc] using this
  have hclosing : Allowed (r.history ++ ns) (.closing side) := by
    cases side <;> exact hopen
  refine ⟨hh ▸ (h.paired.append_neutral hns).snoc hclosing, fun s => ?_, fun s => ?_⟩
  · have := h.sessions s
    rw [hh, hr.news]
    by_cases he : s = side
    · subst he
      rw [hr.wasLive] at this
      cases s <;> simp [hc, hr.dead, Note.closing, Note.starts, Note.finishes] <;> simp at this <;> omega
    · cases side <;> simp [hc, he, hr.live s he, Note.closing, Note.starts, Note.finishes, this]
  · have := h.streams s
    rw [hh]
    by_cases he : s = side
    · subst he
      rw [hr.wasLive] at this
      cases s <;> simp [hc, hr.dead, Note.closing, Note.opens, Note.closes] <;> simp at this <;> omega
    · cases side <;> simp [hc, he, hr.live s he, Note.closing, Note.opens, Note.closes, this]

lemma Pairing.starts {r r' : Relay ω} {side : Side} {n : Nat} {status : BridgeStatus} (h : r.Pairing)
    (hl : r.isLive side = false) (hn : r.news side = 0)
    (ha : Allowed r.history (.opening side n status))
    (hr : (r.note (.opening side n status)).Starts side r') : r'.Pairing := by
  have hset := h.settled hl hn
  unfold Settled at hset
  have hpre : Paired (r.history ++ [.opening side n status]) := h.paired.snoc ha
  have hlive : ∀ s, s ≠ side → r'.isLive s = r.isLive s := fun s hs =>
    (hr.live s hs).trans (by cases s <;> rfl)
  have hnews : ∀ s, s ≠ side → r'.news s = r.news s := hr.news
  rcases hr.outcome with ⟨hl', hn', ns, hq, hh⟩ | ⟨hl', hn', hh⟩
  · have hns : ∀ n ∈ ns, n.IsNeutral := fun n hn => Note.isNeutral_of_isQuiet (hq n hn)
    have hc := counts_of_neutral hns
    have hnews' : r'.news side = 0 := hn'.trans hn
    replace hh : r'.history = (r.history ++ [.opening side n status]) ++ [.opened side] ++ ns := by
      rw [hh]
      simp [Relay.note]
    refine ⟨?_, fun s => ?_, fun s => ?_⟩
    · have hopen : Allowed (r.history ++ [.opening side n status]) (.opened side) := by
        unfold Allowed
        simp [Note.starts, Note.finishes, Note.opens, Note.closes, hset.1, hset.2]
      rw [hh]
      exact (hpre.snoc hopen).append_neutral hns
    · have := h.sessions s
      by_cases he : s = side
      · subst he
        simp [hh, hc, hl', hnews', hset.1, Note.starts, Note.finishes]
      · simp [hh, hc, hlive s he, hnews s he, Ne.symm he, Note.starts, Note.finishes, this]
    · have := h.streams s
      by_cases he : s = side
      · subst he
        simp [hh, hc, hl', hset.2, Note.opens, Note.closes]
      · simp [hh, hc, hlive s he, Ne.symm he, Note.opens, Note.closes, this]
  · have hnews' : r'.news side = 1 := by
      rw [hn']
      exact congrArg (· + 1) hn
    replace hh : r'.history = r.history ++ [.opening side n status] := hh
    refine ⟨hh ▸ hpre, fun s => ?_, fun s => ?_⟩
    · have := h.sessions s
      by_cases he : s = side
      · subst he
        simp [hh, hl', hnews', hset.1, Note.starts, Note.finishes]
      · simp [hh, hlive s he, hnews s he, Ne.symm he, Note.starts, Note.finishes, this]
    · have := h.streams s
      by_cases he : s = side
      · subst he
        simp [hh, hl', hset.2, Note.opens, Note.closes]
      · simp [hh, hlive s he, Note.opens, Note.closes, this]

lemma Pairing.finishes {r : Relay ω} {side : Side} {failure : Failure} {rest : List Delivery}
    (h : r.Pairing) (hu : r.underway = .ended side failure :: rest)
    (once : (r.isLive side).toNat + r.news side ≤ 1) :
    ({ r with underway := rest }.note (.sessionEnded side failure)).Pairing := by
  have hnews : ∀ s, r.news s = rest.countP (Delivery.tells s) + (decide (side = s)).toNat := by
    intro s
    unfold news
    rw [hu, List.countP_cons]
    by_cases hs : side = s <;> simp [Delivery.tells, hs]
  have hl : r.isLive side = false := by
    have := hnews side
    cases hb : r.isLive side
    · rfl
    · rw [hb] at once
      simp at this once
      omega
  have hs := h.sessions side
  have ho := h.streams side
  have hone : r.news side = 1 := by
    have := hnews side
    simp at this
    omega
  rw [hl, hone] at hs
  rw [hl] at ho
  refine ⟨h.paired.snoc ⟨by simpa using hs, by simpa using ho⟩, fun s => ?_, fun s => ?_⟩
  · have := h.sessions s
    rw [hnews s] at this
    change started s (r.history ++ [_]) = finished s (r.history ++ [_]) +
      ((r.isLive s).toNat + rest.countP (Delivery.tells s))
    by_cases he : side = s <;> simp [Note.starts, Note.finishes, he] <;> simp [he] at this <;> omega
  · change opened s (r.history ++ [_]) = closed s (r.history ++ [_]) + (r.isLive s).toNat
    simp [Note.opens, Note.closes, h.streams s]

lemma Pairing.startPair {r : Relay ω} [Endpoints ω] (h : r.Pairing)
    (hu : ∀ side, (r.isLive side).toNat + r.news side = 0)
    (he : started .subscribe r.history = started .publish r.history) (status : BridgeStatus) :
    (r.startPair status).Pairing ∧
      ∀ side, started side (r.startPair status).history = started side r.history + 1 := by
  have hdead : ∀ side, r.isLive side = false := fun s => by
    simpa using (Nat.add_eq_zero_iff.mp (hu s)).1
  have hnone : ∀ side, r.news side = 0 := fun s => (Nat.add_eq_zero_iff.mp (hu s)).2
  have hset : ∀ side, Settled side r.history := fun s => h.settled (hdead s) (hnone s)
  obtain ⟨r₁, hs, hp⟩ := r.starts_pair status
  have hfresh : r.fresh.Pairing :=
    h.of_neutral [] (by simp) (fun s => by rw [hdead s]; cases s <;> rfl) (fun _ => rfl)
      (List.append_nil _).symm
  have h₁ : r₁.Pairing := hfresh.starts rfl (hnone .subscribe) ⟨hset, he⟩ hs
  have hl₁ : r₁.isLive .publish = false := (hs.live .publish (by decide)).trans rfl
  have hn₁ : r₁.news .publish = 0 := (hs.news .publish (by decide)).trans (hnone .publish)
  have hc₁ : ∀ s, started s r₁.history = started s (r.history ++ [.opening .subscribe 2 status]) :=
    started_of_starts hs
  have hnext : started .subscribe r₁.history = started .publish r₁.history + 1 := by
    rw [hc₁, hc₁]
    simp [Note.starts, he]
  refine ⟨h₁.starts hl₁ hn₁ ⟨h₁.settled hl₁ hn₁, hnext⟩ hp, fun s => ?_⟩
  have hc : started s (r.startPair status).history =
      started s (r₁.history ++ [.opening .publish 2 status]) := started_of_starts hp s
  rw [hc, started_append, hc₁]
  cases s <;> simp [Note.starts]

end Relay

namespace Bridge

variable {ω ε : Type}

/-- The sessions of a bridge come in pairs, one pair for each attempt. -/
structure Pairs (b : Bridge ω) : Prop where
  pairing : b.relay.Pairing
  counted : ∀ side, started side b.relay.history = b.attempts

lemma Pairs.note {b : Bridge ω} (h : b.Pairs) {n : Note} (hn : n.IsNeutral) : (b.note n).Pairs :=
  ⟨h.pairing.note hn, fun s => by
    have : started s (b.relay.history ++ [n]) = b.attempts := by simp [h.counted s, (hn s).1]
    exact this⟩

lemma Pairs.stop {b : Bridge ω} (h : b.Pairs) (run : BridgeRun) : (b.stop run).Pairs :=
  Pairs.note (Pairs.note (b := { b with status := .stopped, run := none, pause := none })
    ⟨h.pairing, h.counted⟩ (Note.isNeutral_log _)) fun _ => ⟨rfl, rfl, rfl, rfl⟩

lemma Pairs.startPause {b : Bridge ω} (h : b.Pairs) : b.startPause.Pairs := by
  unfold Bridge.startPause
  refine Pairs.note (Pairs.note ?_ fun _ => ⟨rfl, rfl, rfl, rfl⟩) (Note.isNeutral_log _)
  exact ⟨h.pairing, h.counted⟩

lemma pairs_create (world : ω) (request : SubscribeRequest) (metadata : Option Login)
    (policy : Backoff.Policy) (timer : Backoff.Timer) :
    (create world request metadata policy timer).Pairs :=
  ⟨⟨.nil, fun s => by cases s <;> rfl, fun s => by cases s <;> rfl⟩, fun _ => rfl⟩

section

variable [Endpoints ω]

lemma Pairs.startAttempt {b : Bridge ω} (h : b.Pairs) (hu : ∀ side, b.unfinished side = 0)
    (run : BridgeRun) : (b.startAttempt run).Pairs := by
  have hn : (b.note (.log (.attemptStarted (b.attempts + 1)))).Pairs := h.note (Note.isNeutral_log _)
  have hu' : ∀ side, ((b.note (.log (.attemptStarted (b.attempts + 1)))).relay.isLive side).toNat +
      (b.note (.log (.attemptStarted (b.attempts + 1)))).relay.news side = 0 := fun s => by
    have := hu s
    cases s <;> exact this
  have he := (hn.counted .subscribe).trans (hn.counted .publish).symm
  obtain ⟨hp, hc⟩ := hn.pairing.startPair hu' he .running
  exact ⟨hp, fun s => (hc s).trans (congrArg (· + 1) (hn.counted s))⟩

lemma Pairs.hear {b : Bridge ω} (h : b.Pairs) (hb : b.Lifecycle) {side : Side} {failure : Failure}
    {rest : List Delivery} (hu : b.relay.underway = .ended side failure :: rest) :
    (b.hear side failure rest).Pairs := by
  have hc := Relay.continues_cancel
    ({ b.relay with underway := rest }.note (.sessionEnded side failure)) failure
  refine ⟨(h.pairing.finishes hu (hb.once side)).of_continues hc, fun s => ?_⟩
  refine (Relay.started_of_continues hc s).trans ?_
  have : started s (b.relay.history ++ [.sessionEnded side failure]) = b.attempts := by
    simp [h.counted s, Note.starts]
  exact this

/-- Pairs are kept by every event. -/
theorem Pairs.step {b : Bridge ω} (h : b.Pairs) (hb : b.Lifecycle)
    (occur : ε → ω → Option (List Answer × ω)) (e : BridgeEvent ε) : (b.step occur e).Pairs := by
  have free (hf : b.run = none ∨ b.pause.isSome = true) (side : Side) : b.unfinished side = 0 :=
    hb.unfinished_eq_zero (hb.active_eq_zero hf) side
  have go {r : Relay ω} (hr : b.relay.Continues r) : { b with relay := r }.Pairs :=
    ⟨h.pairing.of_continues hr, fun s => (Relay.started_of_continues hr s).trans (h.counted s)⟩
  have ht := step_transition occur b e
  generalize b.step occur e = b' at ht
  cases ht with
  | still => exact h
  | refused run busy => exact h.note fun _ => ⟨rfl, rfl, rfl, rfl⟩
  | started run isFree going more =>
    have : b.run = none := by simpa [isFree] using hb.isBusy_iff
    exact h.startAttempt (free (Or.inl this)) run
  | declined run isFree spent => exact h.stop run
  | signalled signal reason fresh other => exact ⟨h.pairing, h.counted⟩
  | cancelled signal reason run fresh current own unpaused =>
    have hc := go (Relay.continues_cancel b.relay reason)
    exact ⟨hc.pairing, hc.counted⟩
  | interrupted signal reason run pause fresh current own paused =>
    exact Pairs.stop (b := { b with aborted := b.aborted ++ [(signal, reason)] })
      ⟨h.pairing, h.counted⟩ run
  | waited duration => exact ⟨h.pairing, h.counted⟩
  | resumed duration run pause current paused going more =>
    exact Pairs.startAttempt (b := { b with clock := b.clock + duration }) ⟨h.pairing, h.counted⟩
      (free (Or.inr (Option.isSome_of_eq_some paused))) run
  | completed duration run pause current paused spent =>
    exact Pairs.stop (b := { b with clock := b.clock + duration }) ⟨h.pairing, h.counted⟩ run
  | occurred event result happened => exact go (Relay.continues_withWorld b.relay result)
  | answered relay answer rest first =>
    have hc : b.relay.Continues { b.relay with underway := rest } :=
      Relay.continues_underway b.relay (by simp [first, Delivery.tells])
    rcases Relay.answer_continues_or_ends { b.relay with underway := rest } answer with
      hr | ⟨side, hr⟩
    · exact go (hc.trans hr)
    · have he := hc.ends hr
      exact ⟨h.pairing.of_ends he, fun s => (Relay.started_of_ends he s).trans (h.counted s)⟩
  | guestAnswered number outcome rest first =>
    have hc : b.relay.Continues { b.relay with underway := rest } :=
      Relay.continues_underway b.relay (by simp [first, Delivery.tells])
    exact go (hc.trans (Relay.continues_note _ rfl))
  | rejected side failure rest first left => exact h.hear hb first
  | joinedStopped side failure rest run first last current stopped => exact (h.hear hb first).stop run
  | joinedFailed side failure rest run first last current going => exact (h.hear hb first).startPause

/-- The pairs hold after every run. -/
theorem pairs_after (world : ω) (request : SubscribeRequest) (metadata : Option Login)
    (policy : Backoff.Policy) (timer : Backoff.Timer) (occur : ε → ω → Option (List Answer × ω))
    (events : List (BridgeEvent ε)) :
    ((create world request metadata policy timer).after occur events).Pairs :=
  (after_induction (P := fun b => b.Lifecycle ∧ b.Pairs)
    (fun _ e h => ⟨h.1.step occur e, h.2.step h.1 occur e⟩)
    ⟨lifecycle_create world request metadata policy timer,
      pairs_create world request metadata policy timer⟩
    events).2

/-- Whatever happens, and in whatever order: on each side at most one session is unfinished and at
most one stream open; at rest the bridge counts its unfinished sessions; every stream is opened in an
attempt that began when all sessions before it had ended and all their streams were closed; the open
streams are those of the live sessions; and a busy bridge that is run again refuses, and nothing but
the refusal is added to its history. -/
theorem sessions_in_pairs (world : ω) (request : SubscribeRequest) (metadata : Option Login)
    (policy : Backoff.Policy) (timer : Backoff.Timer) (occur : ε → ω → Option (List Answer × ω))
    (events : List (BridgeEvent ε)) :
    let b := (create world request metadata policy timer).after occur events
    let h := b.relay.history
    (∀ side, b.unfinished side ≤ 1) ∧
      (∀ p, p <+: h → ∀ side,
        (finished side p ≤ started side p ∧ started side p ≤ finished side p + 1) ∧
          (closed side p ≤ opened side p ∧ opened side p ≤ closed side p + 1)) ∧
      (b.AtRest →
        b.active = (b.relay.isLive .subscribe).toNat + (b.relay.isLive .publish).toNat ∧
          ∀ side, started side h = finished side h + (b.relay.isLive side).toNat) ∧
      (∀ p side, p ++ [.opened side] <+: h →
        ∃ q n status, q ++ [.opening .subscribe n status] <+: p ∧ (∀ s, Settled s q) ∧
          started side p = started side q + 1) ∧
      (∀ side, opened side h = closed side h + (b.relay.isLive side).toNat) ∧
      ∀ run, b.status = .running ∨ b.status = .restarting →
        b.step occur (.start run) =
          b.note (.runEnded run.number (.error (.error "Bridge already running"))) := by
  intro b h
  have hb : b.Lifecycle := lifecycle_after world request metadata policy timer occur events
  have hp : b.Pairs := pairs_after world request metadata policy timer occur events
  refine ⟨hb.once, fun p hpre => (hp.pairing.paired.of_prefix hpre).counts, fun hrest => ?_,
    fun p side ho => hp.pairing.paired.before_opened ho, hp.pairing.streams, fun run hs => ?_⟩
  · refine ⟨hb.active_of_atRest hrest, fun side => ?_⟩
    have := hp.pairing.sessions side
    rwa [news_of_atRest hrest] at this
  · have hbusy : b.isBusy = true := by
      rcases hs with hs | hs <;> simp [isBusy, hs]
    exact if_pos hbusy

end

end Bridge

end TelemetryBridge
