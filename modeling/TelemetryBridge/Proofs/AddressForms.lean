import TelemetryBridge.Proofs.AddressParts
import TelemetryBridge.Proofs.UsableSettings

/-!
# The forms of addresses

What an address is, said without a scanner: a target that starts with `unix:` or with a scheme and
`://`, or a host or a bracketed IP literal with a port. Exactly the texts that have one of these forms
between their blanks are accepted.
-/

namespace TelemetryBridge

namespace Address

/-! ## Forms -/

/-- One or more decimal digits. -/
structure IsDigits (digits : List Char) : Prop where
  filled : digits ≠ []
  decimal : ∀ c ∈ digits, c.isDigit = true

/-- Digits of a port, however many: their exact value is in the range of ports. -/
structure IsPort (digits : List Char) : Prop extends IsDigits digits where
  positive : 1 ≤ Number.ofDigits digits
  bounded : Number.ofDigits digits ≤ 65535

/-- A host: one or more characters, no colon, no bracket and no blank among them. -/
structure IsHost (host : List Char) : Prop where
  named : host ≠ []
  plain : ∀ c ∈ host, c ≠ ':' ∧ c ≠ '[' ∧ c ≠ ']' ∧ Text.isBlank c = false

/-- The text of an address without blanks around it. -/
inductive IsAddress : List Char → Prop
  | unix (rest : List Char) : IsAddress ("unix:".toList ++ rest)
  | uri {letter : Char} {scheme : List Char} (starts : letter.isAlpha = true)
    (continues : ∀ c ∈ scheme, c.isAlphanum = true ∨ c = '+' ∨ c = '.' ∨ c = '-')
    (rest : List Char) : IsAddress (letter :: (scheme ++ ("://".toList ++ rest)))
  | hostPort {host digits : List Char} (isHost : IsHost host) (port : IsPort digits) :
    IsAddress (host ++ ':' :: digits)
  | literalPort {literal digits : List Char} (ip : isIPv6 literal = true) (port : IsPort digits) :
    IsAddress ('[' :: (literal ++ ']' :: ':' :: digits))

/-! ## Tests of the parts -/

section

variable {c : Char} {cs digits : List Char}

lemma isSchemeChar_iff :
    isSchemeChar c = true ↔ c.isAlphanum = true ∨ c = '+' ∨ c = '.' ∨ c = '-' := by
  simp [isSchemeChar, or_assoc]

lemma isHostChar_iff :
    isHostChar c = true ↔ c ≠ ':' ∧ c ≠ '[' ∧ c ≠ ']' ∧ Text.isBlank c = false := by
  simp [isHostChar, and_assoc]

lemma isUnix_iff : isUnix cs = true ↔ ∃ rest, cs = "unix:".toList ++ rest := by
  rw [isUnix, List.isPrefixOf_iff_prefix]
  exact exists_congr fun _ => eq_comm

lemma hasScheme_iff : hasScheme cs = true ↔ ∃ letter scheme rest,
    letter.isAlpha = true ∧ (∀ c ∈ scheme, isSchemeChar c = true) ∧
      cs = letter :: (scheme ++ ("://".toList ++ rest)) := by
  constructor
  · intro h
    cases cs with
    | nil => cases h
    | cons letter cs =>
      rw [hasScheme, Bool.and_eq_true, List.isPrefixOf_iff_prefix] at h
      obtain ⟨hletter, rest, hrest⟩ := h
      refine ⟨letter, cs.takeWhile isSchemeChar, rest, hletter, ?_, ?_⟩
      · exact fun c hc => List.mem_takeWhile_imp hc
      · rw [hrest, List.takeWhile_append_dropWhile]
  · rintro ⟨letter, scheme, rest, hletter, hscheme, rfl⟩
    rw [hasScheme, hletter, List.dropWhile_append_of_pos hscheme]
    rfl

lemma portDigits_eq_some : portDigits? cs = some digits ↔ cs = ':' :: digits ∧ IsDigits digits := by
  constructor
  · intro h
    unfold portDigits? at h
    split at h
    · split_ifs at h with hdigits
      cases h
      exact ⟨rfl, hdigits.1, List.all_eq_true.mp hdigits.2⟩
    · cases h
  · rintro ⟨rfl, hdigits⟩
    rw [portDigits?, if_pos ⟨hdigits.filled, List.all_eq_true.mpr hdigits.decimal⟩]

lemma hostPort_host {host : List Char} (isHost : IsHost host) (hdigits : IsDigits digits) :
    hostPort? (host ++ ':' :: digits) = some (none, digits) := by
  have hplain : ∀ c ∈ host, isHostChar c = true :=
    fun c hc => isHostChar_iff.mpr (isHost.plain c hc)
  have hcolon : isHostChar ':' = false := rfl
  have htake := takeWhile_stop hplain hcolon digits
  have hdrop := dropWhile_stop hplain hcolon digits
  obtain ⟨c, rest, rfl⟩ := List.exists_cons_of_ne_nil isHost.named
  have hbracket : c ≠ '[' := (isHost.plain c List.mem_cons_self).2.1
  unfold hostPort?
  split
  · next heq => exact absurd (List.cons.inj heq).1 hbracket
  · rw [htake, hdrop, portDigits_eq_some.mpr ⟨rfl, hdigits⟩]
    rfl

lemma hostPort_literal {literal : List Char} (filled : literal ≠ []) (closed : ']' ∉ literal)
    (hdigits : IsDigits digits) :
    hostPort? ('[' :: (literal ++ ']' :: ':' :: digits)) = some (some literal, digits) := by
  have htake := takeWhile_bne closed (':' :: digits)
  have hdrop := dropWhile_bne closed (':' :: digits)
  obtain ⟨c, rest, rfl⟩ := List.exists_cons_of_ne_nil filled
  simp only [hostPort?, htake, hdrop]
  rw [portDigits_eq_some.mpr ⟨rfl, hdigits⟩]
  rfl

/-- What is read as a host with a port, or as an IP literal with a port. -/
lemma hostPort_eq_some {literal : Option (List Char)}
    (h : hostPort? cs = some (literal, digits)) : IsDigits digits ∧
      literal.elim (∃ host, IsHost host ∧ cs = host ++ ':' :: digits)
        fun literal => cs = '[' :: (literal ++ ']' :: ':' :: digits) := by
  unfold hostPort? at h
  split at h
  · next rest =>
    split at h
    · cases h
    · cases h
    · next bracket tail hdrop _ =>
      obtain ⟨found, hport, heq⟩ := Option.map_eq_some_iff.mp h
      cases heq
      obtain ⟨rfl, hdigits⟩ := portDigits_eq_some.mp hport
      obtain ⟨hbracket, hrest⟩ := eq_of_dropWhile hdrop
      rw [bne_eq_false_iff_eq.mp hbracket] at hrest
      exact ⟨hdigits, congrArg ('[' :: ·) hrest⟩
  · split at h
    · cases h
    · next hne =>
      obtain ⟨found, hport, heq⟩ := Option.map_eq_some_iff.mp h
      cases heq
      obtain ⟨hdrop, hdigits⟩ := portDigits_eq_some.mp hport
      refine ⟨hdigits, cs.takeWhile isHostChar, ⟨hne, ?_⟩, ?_⟩
      · exact fun c hc => isHostChar_iff.mp (List.mem_takeWhile_imp hc)
      · rw [← hdrop, List.takeWhile_append_dropWhile]

/-! ## What is accepted -/

lemma IsAddress.ne_nil (h : IsAddress cs) : cs ≠ [] := by
  cases h with
  | hostPort isHost => simp
  | _ => exact List.cons_ne_nil _ _

variable {address peer found : String}

lemma isAddress_of_validate (h : validate address peer = .ok found) :
    IsAddress (Text.trim address).toList := by
  simp only [validate] at h
  generalize Text.trim address = t at h ⊢
  split_ifs at h with hnil htarget
  · rcases Bool.or_eq_true_iff.mp htarget with hscheme | hunix
    · obtain ⟨letter, scheme, rest, hletter, hscheme, heq⟩ := hasScheme_iff.mp hscheme
      rw [heq]
      exact .uri hletter (fun c hc => isSchemeChar_iff.mp (hscheme c hc)) rest
    · obtain ⟨rest, heq⟩ := isUnix_iff.mp hunix
      rw [heq]
      exact .unix rest
  · split at h
    · cases h
    · next literal digits hhost =>
      obtain ⟨hdigits, hform⟩ := hostPort_eq_some hhost
      split_ifs at h with hip hport
      obtain ⟨positive, bounded⟩ := portNumber_inRange.mp (Bool.eq_false_iff.mpr hport)
      have port : IsPort digits := ⟨hdigits, positive, bounded⟩
      cases literal with
      | none =>
        obtain ⟨host, isHost, heq⟩ := hform
        rw [heq]
        exact .hostPort isHost port
      | some literal =>
        have ip : isIPv6 literal = true := by simpa using hip
        rw [show t.toList = _ from hform]
        exact .literalPort ip port

lemma validate_of_target (hne : (Text.trim address).toList ≠ [])
    (h : (hasScheme (Text.trim address).toList || isUnix (Text.trim address).toList) = true) :
    validate address peer = .ok (Text.trim address) := by
  simp only [validate]
  rw [if_neg hne, if_pos h]

/-- A host or a literal with a port is accepted, also if it could be taken for a target. -/
lemma validate_of_hostPort {literal : Option (List Char)} (port : IsPort digits)
    (hne : (Text.trim address).toList ≠ [])
    (hhost : hostPort? (Text.trim address).toList = some (literal, digits))
    (ip : literal.any (fun l => !isIPv6 l) = false) :
    validate address peer = .ok (Text.trim address) := by
  by_cases htarget :
      (hasScheme (Text.trim address).toList || isUnix (Text.trim address).toList) = true
  · exact validate_of_target hne htarget
  · simp only [validate]
    rw [if_neg hne, if_neg htarget, hhost]
    dsimp only
    rw [ip, portNumber_inRange.mpr ⟨port.positive, port.bounded⟩, if_neg Bool.false_ne_true,
      if_neg Bool.false_ne_true]

lemma validate_of_isAddress (peer : String) (h : IsAddress (Text.trim address).toList) :
    validate address peer = .ok (Text.trim address) := by
  have hne := h.ne_nil
  generalize hcs : (Text.trim address).toList = cs at h
  cases h with
  | unix rest =>
    exact validate_of_target hne (Bool.or_eq_true_iff.mpr (Or.inr (isUnix_iff.mpr ⟨rest, hcs⟩)))
  | uri starts continues rest =>
    have hscheme := hasScheme_iff.mpr
      ⟨_, _, rest, starts, fun c hc => isSchemeChar_iff.mpr (continues c hc), hcs⟩
    exact validate_of_target hne (Bool.or_eq_true_iff.mpr (Or.inl hscheme))
  | hostPort isHost port =>
    exact validate_of_hostPort port hne (hcs ▸ hostPort_host isHost port.toIsDigits) rfl
  | @literalPort literal digits ip port =>
    have filled : literal ≠ [] := by
      rintro rfl
      exact absurd ip (by decide)
    have closed : ']' ∉ literal := notMem_of_isIPv6 ip (by decide) (by decide)
    refine validate_of_hostPort port hne (hcs ▸ hostPort_literal filled closed port.toIsDigits) ?_
    rw [Option.any_some, ip]
    rfl

lemma validate_eq_ok : validate address peer = .ok found ↔
    found = Text.trim address ∧ IsAddress (Text.trim address).toList := by
  constructor
  · intro h
    exact ⟨trimmed_of_validate h, isAddress_of_validate h⟩
  · rintro ⟨rfl, h⟩
    exact validate_of_isAddress peer h

/-- A refusal says for whom the address was, and which it was unless it is blank. -/
lemma error_of_validate {e : AddressError} (h : validate address peer = .error e) :
    e = .missing peer ∧ Text.trim address = "" ∨ e = .notHostPort peer address ∨
      e = .badIPv6 peer address ∨ e = .badPort peer address := by
  simp only [validate] at h
  split_ifs at h with hnil
  · cases h
    exact Or.inl ⟨rfl, String.toList_eq_nil_iff.mp hnil⟩
  · split at h
    · cases h
      exact Or.inr (Or.inl rfl)
    · split_ifs at h
      · cases h
        exact Or.inr (Or.inr (Or.inl rfl))
      · cases h
        exact Or.inr (Or.inr (Or.inr rfl))

/-- Exactly the forms of addresses are accepted. What is returned is the text between its blanks, and
it is accepted again as it is, whoever it is for. Every other text is refused with a configuration
failure, which says for whom the address was, and which it was unless it is blank. -/
theorem accepted_iff_isAddress (address peer : String) :
    (∀ found, validate address peer = .ok found ↔
      found = Text.trim address ∧ IsAddress (Text.trim address).toList) ∧
    (∀ found other, validate address peer = .ok found → validate found other = .ok found) ∧
    ((∃ e, validate address peer = .error e) ↔ ¬IsAddress (Text.trim address).toList) ∧
    ∀ e, validate address peer = .error e → e.toFailure = .config e.message none ∧
      (e = .missing peer ∧ Text.trim address = "" ∨ e = .notHostPort peer address ∨
        e = .badIPv6 peer address ∨ e = .badPort peer address) := by
  refine ⟨fun found => validate_eq_ok, fun found other h => validate_trimmed h other, ?_, ?_⟩
  · constructor
    · rintro ⟨e, he⟩ h
      cases he.symm.trans (validate_of_isAddress peer h)
    · intro h
      cases hread : validate address peer with
      | error e => exact ⟨e, rfl⟩
      | ok found => exact absurd (isAddress_of_validate hread) h
  · exact fun e h => ⟨rfl, error_of_validate h⟩

/-- Leading zeros do not count, but the value of the digits does. -/
example : validate " [fe80::1%eth0]:00006030\n" "target" = .ok "[fe80::1%eth0]:00006030" ∧
    validate "host:65536" "target" = .error (.badPort "target" "host:65536") := by
  decide +kernel

end

end Address

end TelemetryBridge
