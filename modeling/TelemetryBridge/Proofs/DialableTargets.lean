import TelemetryBridge.Dial
import TelemetryBridge.Proofs.AddressForms

/-!
# Which addresses can be dialed

An address is accepted for how it starts, but it is dialed by what it ends with: behind its scheme
and its authority there must be an endpoint without line ends. So the addresses that are accepted and
yet cannot be dialed are targets with a line end in them, except where all line ends are in the
authority behind a scheme.
-/

namespace TelemetryBridge

namespace Address

/-! ## The pattern of targets -/

/-- Nothing, or a scheme with its colon. -/
inductive IsSchemePart : List Char → Prop
  | none : IsSchemePart []
  | scheme {name : List Char} (named : name ≠ []) (word : ∀ c ∈ name, isSchemeChar c = true) :
    IsSchemePart (name ++ [':'])

/-- Nothing, or an authority between its slashes. -/
inductive IsAuthorityPart : List Char → Prop
  | none : IsAuthorityPart []
  | authority {host : List Char} (plain : '/' ∉ host) :
    IsAuthorityPart ('/' :: '/' :: (host ++ ['/']))

/-- One or more characters, no line end among them. -/
structure IsEndpoint (cs : List Char) : Prop where
  filled : cs ≠ []
  oneLine : ∀ c ∈ cs, isLineEnd c = false

/-- A text that can be cut into a scheme, an authority and an endpoint. -/
inductive IsTarget : List Char → Prop
  | intro {scheme authority endpoint : List Char} (isScheme : IsSchemePart scheme)
    (isAuthority : IsAuthorityPart authority) (isEndpoint : IsEndpoint endpoint) :
    IsTarget (scheme ++ (authority ++ endpoint))

section

variable {cs rest : List Char} {address : String}

lemma isEndpoint_iff : isEndpoint cs = true ↔ IsEndpoint cs := by
  simp only [isEndpoint, Bool.and_eq_true, decide_eq_true_eq, List.all_eq_true, Bool.not_eq_true']
  exact ⟨fun ⟨filled, oneLine⟩ => ⟨filled, oneLine⟩, fun h => ⟨h.filled, h.oneLine⟩⟩

lemma afterScheme_eq_some : afterScheme? cs = some rest ↔
    ∃ name ≠ [], (∀ c ∈ name, isSchemeChar c = true) ∧ cs = name ++ ':' :: rest := by
  constructor
  · intro h
    unfold afterScheme? at h
    split at h
    · next first more found htake hdrop =>
      cases h
      refine ⟨cs.takeWhile isSchemeChar, by simp [htake], ?_, (eq_of_dropWhile hdrop).2⟩
      exact fun c hc => List.mem_takeWhile_imp hc
    · cases h
  · rintro ⟨name, named, word, rfl⟩
    have hcolon : isSchemeChar ':' = false := rfl
    obtain ⟨first, more, rfl⟩ := List.exists_cons_of_ne_nil named
    rw [afterScheme?, takeWhile_stop word hcolon, dropWhile_stop word hcolon]
    rfl

lemma afterAuthority_eq_some : afterAuthority? cs = some rest ↔
    ∃ host, '/' ∉ host ∧ cs = '/' :: '/' :: (host ++ '/' :: rest) := by
  constructor
  · intro h
    unfold afterAuthority? at h
    split at h
    · next inner =>
      split at h
      · next slash endpoint hdrop =>
        cases h
        obtain ⟨hslash, hinner⟩ := eq_of_dropWhile hdrop
        rw [bne_eq_false_iff_eq.mp hslash] at hinner
        refine ⟨inner.takeWhile (· != '/'), ?_, congrArg ('/' :: '/' :: ·) hinner⟩
        intro hmem
        exact absurd (List.mem_takeWhile_imp hmem) (by decide)
      · cases h
    · cases h
  · rintro ⟨host, plain, rfl⟩
    rw [afterAuthority?, dropWhile_bne plain]

lemma mem_starts : rest ∈ cs :: (afterScheme? cs).toList ↔
    ∃ scheme, IsSchemePart scheme ∧ cs = scheme ++ rest := by
  rw [List.mem_cons, Option.mem_toList, afterScheme_eq_some]
  constructor
  · rintro (rfl | ⟨name, named, word, rfl⟩)
    · exact ⟨[], .none, rfl⟩
    · exact ⟨name ++ [':'], .scheme named word, by simp⟩
  · rintro ⟨_, isScheme, rfl⟩
    cases isScheme with
    | none => exact Or.inl rfl
    | scheme named word => exact Or.inr ⟨_, named, word, by simp⟩

lemma eq_or_afterAuthority {start : List Char} :
    rest = start ∨ afterAuthority? start = some rest ↔
      ∃ authority, IsAuthorityPart authority ∧ start = authority ++ rest := by
  rw [afterAuthority_eq_some]
  constructor
  · rintro (rfl | ⟨host, plain, rfl⟩)
    · exact ⟨[], .none, rfl⟩
    · exact ⟨_, .authority plain, by simp⟩
  · rintro ⟨_, isAuthority, rfl⟩
    cases isAuthority with
    | none => exact Or.inl rfl
    | authority plain => exact Or.inr ⟨_, plain, by simp⟩

/-- Whatever is cut off first, a text can be dialed if it can be cut at all. -/
lemma isDialable_iff : isDialable address = true ↔ IsTarget address.toList := by
  have hrests : isDialable address = true ↔
      ∃ start ∈ address.toList :: (afterScheme? address.toList).toList, ∃ rest,
        (rest = start ∨ afterAuthority? start = some rest) ∧ isEndpoint rest = true := by
    simp only [isDialable, List.any_eq_true, List.mem_append, List.mem_filterMap]
    constructor
    · rintro ⟨rest, hmem | ⟨start, hmem, hrest⟩, hend⟩
      · exact ⟨rest, hmem, rest, Or.inl rfl, hend⟩
      · exact ⟨start, hmem, rest, Or.inr hrest, hend⟩
    · rintro ⟨start, hmem, rest, rfl | hrest, hend⟩
      · exact ⟨rest, Or.inl hmem, hend⟩
      · exact ⟨rest, Or.inr ⟨start, hmem, hrest⟩, hend⟩
  simp only [hrests, mem_starts, eq_or_afterAuthority, isEndpoint_iff]
  generalize address.toList = cs
  constructor
  · rintro ⟨start, ⟨scheme, isScheme, rfl⟩, rest, ⟨authority, isAuthority, rfl⟩, isEndpoint⟩
    exact .intro isScheme isAuthority isEndpoint
  · rintro ⟨isScheme, isAuthority, isEndpoint⟩
    exact ⟨_, ⟨_, isScheme, rfl⟩, _, ⟨_, isAuthority, rfl⟩, isEndpoint⟩

end

/-! ## Line ends in addresses -/

/-- No line end in a text, except in an authority behind a scheme and before an endpoint. -/
inductive LineEndsInAuthority : List Char → Prop
  | none {cs : List Char} (oneLine : ∀ c ∈ cs, isLineEnd c = false) : LineEndsInAuthority cs
  | authority {scheme host endpoint : List Char} (named : scheme ≠ [])
    (word : ∀ c ∈ scheme, isSchemeChar c = true) (plain : '/' ∉ host)
    (isEndpoint : IsEndpoint endpoint) :
    LineEndsInAuthority (scheme ++ ':' :: '/' :: '/' :: (host ++ '/' :: endpoint))

section

variable {c : Char} {cs : List Char}

lemma isLineEnd_eq_false
    (h : isSchemeChar c = true ∨ isZoneChar c = true ∨ Text.isBlank c = false) :
    isLineEnd c = false := by
  rw [Bool.eq_false_iff]
  intro hend
  simp only [isLineEnd, Bool.or_eq_true, beq_iff_eq] at hend
  rcases hend with ((rfl | rfl) | rfl) | rfl <;> exact absurd h (by decide)

lemma IsPort.oneLine {digits : List Char} (port : IsPort digits) :
    ∀ c ∈ digits, isLineEnd c = false := by
  intro c hc
  exact isLineEnd_eq_false (Or.inr (Or.inl (isZoneChar_of_isDigit (port.decimal c hc))))

/-- Hosts, IP literals and ports are on one line. -/
lemma oneLine_of_isAddress (h : IsAddress cs) (hscheme : hasScheme cs = false)
    (hunix : isUnix cs = false) : ∀ c ∈ cs, isLineEnd c = false := by
  cases h with
  | unix rest => exact absurd (isUnix_iff.mpr ⟨rest, rfl⟩) (Bool.eq_false_iff.mp hunix)
  | uri starts continues rest =>
    have htarget := hasScheme_iff.mpr
      ⟨_, _, rest, starts, fun c hc => isSchemeChar_iff.mpr (continues c hc), rfl⟩
    exact absurd htarget (Bool.eq_false_iff.mp hscheme)
  | hostPort isHost port =>
    rw [List.forall_mem_append, List.forall_mem_cons]
    refine ⟨?_, rfl, port.oneLine⟩
    exact fun c hc => isLineEnd_eq_false (Or.inr (Or.inr (isHost.plain c hc).2.2.2))
  | literalPort ip port =>
    rw [List.forall_mem_cons, List.forall_mem_append, List.forall_mem_cons, List.forall_mem_cons]
    refine ⟨rfl, ?_, rfl, rfl, port.oneLine⟩
    intro c hc
    rcases chars_of_isIPv6 ip c hc with hzone | rfl
    · exact isLineEnd_eq_false (Or.inr (Or.inl hzone))
    · rfl

/-- An address can be cut if and only if no line end in it is in the way. -/
lemma isTarget_iff (h : IsAddress cs) : IsTarget cs ↔ LineEndsInAuthority cs := by
  constructor
  · rintro ⟨isScheme, isAuthority, isEndpoint⟩
    cases isAuthority with
    | none =>
      refine .none ?_
      rw [List.nil_append, List.forall_mem_append]
      refine ⟨?_, isEndpoint.oneLine⟩
      cases isScheme with
      | none => exact nofun
      | scheme named word =>
        rw [List.forall_mem_append, List.forall_mem_singleton]
        exact ⟨fun c hc => isLineEnd_eq_false (Or.inl (word c hc)), rfl⟩
    | authority plain =>
      cases isScheme with
      -- A text that starts with a slash is an address only as a host with a port.
      | none => exact .none (oneLine_of_isAddress h rfl rfl)
      | scheme named word =>
        have hauthority := LineEndsInAuthority.authority named word plain isEndpoint
        simpa using hauthority
  · intro hends
    cases hends with
    | none oneLine => exact .intro .none .none ⟨h.ne_nil, oneLine⟩
    | authority named word plain isEndpoint =>
      have htarget := IsTarget.intro (.scheme named word) (.authority plain) isEndpoint
      simpa using htarget

end

end Address

namespace Clients

open Address

variable {address : String}

lemma dial_of_not_dialable (h : isDialable address = false) (clients : Clients) (peer : Peer)
    (timeout : Number) :
    clients.dial peer address timeout = (.error (.notDialable peer address), clients) := by
  rw [dial, h]
  rfl

lemma dial_of_dialable (h : isDialable address = true) (clients : Clients) (peer other : Peer)
    (timeout : Number) (name : String) :
    (clients.dial peer address timeout).1 ≠ .error (.notDialable other name) := by
  simp only [dial, h, Bool.not_true, Bool.false_eq_true, if_false]
  split_ifs
  · exact nofun
  · split <;> exact nofun

/-- An address that is accepted, for the target or for the collector, is refused by the dialer if and
only if it has a line end that is not in an authority behind a scheme. Then no client is made, and the
address starts with a scheme or with `unix:`, as hosts, IP literals and ports are on one line. -/
theorem refused_dial_iff {value address : String}
    (accepted : (∃ what, validate value what = .ok address) ∨
      ∃ vrf, parseCollector value = .ok ⟨vrf, address⟩)
    (clients : Clients) (peer : Peer) (timeout : Number) :
    ((∃ other name, (clients.dial peer address timeout).1 = .error (.notDialable other name)) ↔
      ¬LineEndsInAuthority address.toList) ∧
    (¬LineEndsInAuthority address.toList →
      clients.dial peer address timeout = (.error (.notDialable peer address), clients) ∧
      (hasScheme address.toList || isUnix address.toList) = true) := by
  have hagain : validate address "" = .ok address := by
    rcases accepted with ⟨what, h⟩ | ⟨vrf, h⟩
    · exact validate_trimmed h ""
    · exact (collector_of_parse h).1 ""
  have isAddress : IsAddress address.toList := by
    have hform := isAddress_of_validate hagain
    rwa [← trimmed_of_validate hagain] at hform
  have hdialable : isDialable address = true ↔ LineEndsInAuthority address.toList :=
    isDialable_iff.trans (isTarget_iff isAddress)
  have hrefused : ¬LineEndsInAuthority address.toList →
      clients.dial peer address timeout = (.error (.notDialable peer address), clients) := by
    intro h
    exact dial_of_not_dialable (Bool.eq_false_iff.mpr (mt hdialable.mp h)) clients peer timeout
  refine ⟨⟨?_, ?_⟩, ?_⟩
  · rintro ⟨other, name, hdial⟩ h
    exact dial_of_dialable (hdialable.mpr h) clients peer other timeout name hdial
  · intro h
    exact ⟨peer, address, by rw [hrefused h]⟩
  · intro h
    refine ⟨hrefused h, ?_⟩
    by_contra htarget
    obtain ⟨hscheme, hunix⟩ := Bool.or_eq_false_iff.mp (Bool.eq_false_iff.mpr htarget)
    exact h (.none (oneLine_of_isAddress isAddress hscheme hunix))

/-- A socket whose name has a line end is accepted, but cannot be dialed. -/
theorem socket_with_line_end_is_refused :
    validate "unix:/tmp/a\nb" "target" = .ok "unix:/tmp/a\nb" ∧
    ¬LineEndsInAuthority "unix:/tmp/a\nb".toList ∧
    (({} : Clients).dial .target "unix:/tmp/a\nb" 0).1 =
      .error (.notDialable .target "unix:/tmp/a\nb") := by
  have accepted : validate "unix:/tmp/a\nb" "target" = .ok "unix:/tmp/a\nb" := by decide +kernel
  have hdialable : isDialable "unix:/tmp/a\nb" = false := by decide +kernel
  have hdial := dial_of_not_dialable hdialable {} .target 0
  have hends := (refused_dial_iff (Or.inl ⟨"target", accepted⟩) {} .target 0).1.mp
    ⟨.target, _, congrArg Prod.fst hdial⟩
  exact ⟨accepted, hends, congrArg Prod.fst hdial⟩

end Clients

end TelemetryBridge
