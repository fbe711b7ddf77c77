import TelemetryBridge.Proofs.AddressForms

/-!
# Network instances before addresses

The collector's address may have the name of a network instance and a slash before it. A text with
`://` somewhere is taken for a target with a scheme, in which a slash names no instance. So a name
can stand before every address without `://`, and before no other.
-/

namespace TelemetryBridge

namespace Address

/-! ## The mark of a scheme -/

section

variable {as cs digits : List Char}

lemma containsSchemeMark_iff : containsSchemeMark cs = true ↔ "://".toList <:+: cs := by
  induction cs with
  | nil => exact iff_of_false Bool.false_ne_true (by simp)
  | cons c cs ih =>
    rw [containsSchemeMark, Bool.or_eq_true, List.isPrefixOf_iff_prefix, ih, List.infix_cons_iff]

/-- The mark does not begin in a text without a colon. -/
lemma schemeMark_append (h : ':' ∉ as) (cs : List Char) :
    "://".toList <:+: as ++ cs ↔ "://".toList <:+: cs := by
  induction as with
  | nil => rfl
  | cons a as ih =>
    obtain ⟨ha, has⟩ := not_or.mp (mt List.mem_cons.mpr h)
    rw [List.cons_append, List.infix_cons_iff, ih has]
    refine or_iff_right ?_
    rintro ⟨rest, hrest⟩
    exact ha (List.cons.inj hrest).1

lemma IsDigits.notMem (h : IsDigits digits) {c : Char} (hc : c.isDigit = false) : c ∉ digits := by
  intro hmem
  exact Bool.false_ne_true (hc.symm.trans (h.decimal c hmem))

/-- The colon before a port is not that of a scheme. -/
lemma no_schemeMark_hostPort {host : List Char} (isHost : IsHost host) (hdigits : IsDigits digits) :
    ¬"://".toList <:+: host ++ ':' :: digits := by
  rw [schemeMark_append fun h => (isHost.plain ':' h).1 rfl, List.infix_cons_iff]
  rintro (⟨rest, hrest⟩ | hwithin)
  · have hslash : '/' ∈ digits := (List.cons.inj hrest).2 ▸ List.mem_cons_self
    exact hdigits.notMem (by decide) hslash
  · exact hdigits.notMem (by decide) (hwithin.subset List.mem_cons_self)

end

/-! ## Names before addresses -/

/-- The name of a network instance: a word without slashes and colons. -/
structure IsInstanceName (name : List Char) : Prop where
  named : name ≠ []
  word : ∀ c ∈ name, Text.isBlank c = false ∧ c ≠ '/' ∧ c ≠ ':'

namespace IsInstanceName

variable {name rest : List Char}

lemma iff_all : name ≠ [] ∧ (name.all fun c => !Text.isBlank c && c != '/' && c != ':') = true ↔
    IsInstanceName name := by
  simp only [List.all_eq_true, Bool.and_eq_true, Bool.not_eq_true', bne_iff_ne, and_assoc]
  exact ⟨fun ⟨named, word⟩ => ⟨named, word⟩, fun h => ⟨h.named, h.word⟩⟩

instance (name : List Char) : Decidable (IsInstanceName name) := decidable_of_iff _ iff_all

lemma slash (h : IsInstanceName name) : '/' ∉ name := fun hc => (h.word '/' hc).2.1 rfl

lemma colon (h : IsInstanceName name) : ':' ∉ name := fun hc => (h.word ':' hc).2.2 rfl

/-- No colon stands before the first slash, so what begins with the name is no target. -/
lemma ne_target (h : IsInstanceName name) (before : List Char) (hbefore : '/' ∉ before)
    (rest more : List Char) : name ++ '/' :: rest ≠ before ++ ':' :: more := by
  intro heq
  have htake := takeWhile_bne h.slash rest
  rw [heq, List.takeWhile_append_of_pos (forall_bne hbefore),
    List.takeWhile_cons_of_pos (by decide)] at htake
  exact h.colon (htake ▸ List.mem_append_right before List.mem_cons_self)

lemma not_isUnix (h : IsInstanceName name) (rest : List Char) :
    isUnix (name ++ '/' :: rest) = false := by
  rw [Bool.eq_false_iff, ne_eq, isUnix_iff]
  rintro ⟨more, heq⟩
  exact h.ne_target "unix".toList (by decide) rest more heq

/-- With a name before it, only a host with a port is an address. -/
lemma no_schemeMark_of_isAddress (h : IsInstanceName name)
    (isAddress : IsAddress (name ++ '/' :: rest)) : ¬"://".toList <:+: name ++ '/' :: rest := by
  generalize hcs : name ++ '/' :: rest = cs at isAddress
  cases isAddress with
  | unix more => exact absurd hcs (h.ne_target "unix".toList (by decide) rest more)
  | @uri letter scheme starts continues more =>
    have hslash : '/' ∉ letter :: scheme := by
      rw [List.mem_cons, not_or]
      constructor
      · rintro rfl
        exact absurd starts (by decide)
      · exact fun hmem => absurd (continues '/' hmem) (by decide)
    exact absurd hcs (h.ne_target (letter :: scheme) hslash rest ("//".toList ++ more))
  | hostPort isHost port => exact no_schemeMark_hostPort isHost port.toIsDigits
  | @literalPort literal digits ip port =>
    have hslash : '/' ∉ '[' :: (literal ++ ']' :: ':' :: digits) := by
      have hliteral : '/' ∉ literal := notMem_of_isIPv6 ip (by decide) (by decide)
      have hdigits : '/' ∉ digits := port.toIsDigits.notMem (by decide)
      simp [hliteral, hdigits]
    rw [← hcs] at hslash
    exact absurd (List.mem_append_right name List.mem_cons_self) hslash

/-- Blanks behind the slash stay where they are. -/
lemma trimChars_eq (h : IsInstanceName name) {before core after : List Char} (hcore : core ≠ [])
    (trimmed : Text.IsTrimmed core) (hafter : ∀ c ∈ after, Text.isBlank c = true) :
    Text.trimChars (name ++ '/' :: (before ++ core ++ after)) = name ++ '/' :: (before ++ core) := by
  have hwhole : Text.IsTrimmed (name ++ '/' :: (before ++ core)) := by
    constructor
    · intro c hc
      rw [List.head?_append_of_ne_nil _ h.named] at hc
      exact (h.word c (List.mem_of_mem_head? hc)).1
    · intro c hc
      rw [List.getLast?_append_of_ne_nil _ (List.cons_ne_nil _ _), ← List.cons_append,
        List.getLast?_append_of_ne_nil _ hcore] at hc
      exact trimmed.ends c hc
  have hnone : ∀ c ∈ ([] : List Char), Text.isBlank c = true := List.forall_mem_nil _
  have htrim := hwhole.trimChars_append (List.append_ne_nil_of_left_ne_nil h.named _) hnone hafter
  rwa [List.nil_append, List.append_assoc, List.cons_append] at htrim

end IsInstanceName

section

variable {value : String} {name rest : List Char}

lemma parseCollector_of_schemeMark (h : "://".toList <:+: (Text.trim value).toList) :
    parseCollector value =
      (validate (Text.trim value) "collector").map fun address => ⟨none, address⟩ := by
  have hwhole : (!(Text.trim value).toList.contains '/' || isUnix (Text.trim value).toList ||
      containsSchemeMark (Text.trim value).toList) = true := by
    rw [containsSchemeMark_iff.mpr h, Bool.or_true]
  simp only [parseCollector, hwhole, if_true]
  cases validate (Text.trim value) "collector" <;> rfl

lemma parseCollector_of_name (isName : IsInstanceName name)
    (htrim : (Text.trim value).toList = name ++ '/' :: rest)
    (hmark : ¬"://".toList <:+: name ++ '/' :: rest) :
    parseCollector value =
      (validate (.ofList rest) "collector").map fun address => ⟨some (.ofList name), address⟩ := by
  have hslash : (name ++ '/' :: rest).contains '/' = true := by simp
  have hwhole : (!(name ++ '/' :: rest).contains '/' || isUnix (name ++ '/' :: rest) ||
      containsSchemeMark (name ++ '/' :: rest)) = false := by
    rw [hslash, isName.not_isUnix, Bool.eq_false_iff.mpr (mt containsSchemeMark_iff.mp hmark)]
    rfl
  have hblank : ¬(name = [] ∨ name.any Text.isBlank = true) := by
    rw [not_or, Bool.not_eq_true, List.any_eq_false]
    exact ⟨isName.named, fun c hc => Bool.not_eq_true _ ▸ (isName.word c hc).1⟩
  simp only [parseCollector, htrim, hwhole, takeWhile_bne isName.slash,
    dropWhile_bne isName.slash, if_neg hblank, List.tail_cons]
  cases validate (.ofList rest) "collector" <;> rfl

/-- Between its blanks, a text that begins with a name is the name and what is the address between
its own blanks. -/
lemma exists_trim_named {vrf address : String} (isName : IsInstanceName vrf.toList)
    (hne : (Text.trim address).toList ≠ []) : ∃ rest,
      (Text.trim (vrf ++ "/" ++ address)).toList = vrf.toList ++ '/' :: rest ∧
      Text.trim (.ofList rest) = Text.trim address ∧
      ("://".toList <:+: vrf.toList ++ '/' :: rest ↔
        "://".toList <:+: (Text.trim address).toList) := by
  simp only [Text.trim, String.toList_ofList] at hne ⊢
  obtain ⟨before, after, haddress, hbefore, hafter⟩ := Text.exists_blanks address.toList
  have trimmed := Text.isTrimmed_trimChars address.toList
  generalize Text.trimChars address.toList = core at hne haddress trimmed ⊢
  refine ⟨before ++ core, ?_, ?_, ?_⟩
  · rw [String.toList_append, String.toList_append, haddress, List.append_assoc]
    exact isName.trimChars_eq hne trimmed hafter
  · have hnone : ∀ c ∈ ([] : List Char), Text.isBlank c = true := List.forall_mem_nil _
    have htrim := trimmed.trimChars_append hne hbefore hnone
    rw [List.append_nil] at htrim
    rw [htrim]
  · have hcolon : ':' ∉ vrf.toList ++ '/' :: before := by
      rw [List.mem_append, List.mem_cons, not_or, not_or]
      exact ⟨isName.colon, by decide, fun h => absurd (hbefore ':' h) (by decide)⟩
    rw [← List.cons_append, ← List.append_assoc, schemeMark_append hcolon]

end

/-- A name of a network instance can be put before an address that is accepted if and only if the
address is without `://`. Else the whole text is taken for a target with a scheme, and refused, as no
scheme has a slash in it. -/
theorem instance_composes_iff {vrf address peer found : String} (named : vrf ≠ "")
    (word : ∀ c ∈ vrf.toList, Text.isBlank c = false ∧ c ≠ '/' ∧ c ≠ ':')
    (accepted : validate address peer = .ok found) :
    (parseCollector (vrf ++ "/" ++ address) = .ok ⟨some vrf, found⟩ ↔
      ¬"://".toList <:+: found.toList) ∧
    ("://".toList <:+: found.toList →
      ∃ e, parseCollector (vrf ++ "/" ++ address) = .error e) := by
  obtain ⟨rfl, isAddress⟩ := validate_eq_ok.mp accepted
  have isName : IsInstanceName vrf.toList := ⟨by simpa using named, word⟩
  obtain ⟨rest, hwhole, hrest, hmark⟩ := exists_trim_named isName isAddress.ne_nil
  have hrefused : "://".toList <:+: (Text.trim address).toList →
      ∃ e, parseCollector (vrf ++ "/" ++ address) = .error e := by
    intro hscheme
    have hwithin := hmark.mpr hscheme
    rw [← hwhole] at hwithin
    rw [parseCollector_of_schemeMark hwithin]
    cases hread : validate (Text.trim (vrf ++ "/" ++ address)) "collector" with
    | error e => exact ⟨e, rfl⟩
    | ok whole =>
      have hform := isAddress_of_validate hread
      rw [Text.trim_trim, hwhole] at hform
      rw [hwhole] at hwithin
      exact absurd hwithin (isName.no_schemeMark_of_isAddress hform)
  refine ⟨⟨?_, ?_⟩, hrefused⟩
  · intro hok hscheme
    obtain ⟨e, herror⟩ := hrefused hscheme
    cases hok.symm.trans herror
  · intro hplain
    have hread : validate (.ofList rest) "collector" = .ok (Text.trim address) :=
      validate_eq_ok.mpr ⟨hrest.symm, by rwa [hrest]⟩
    rw [parseCollector_of_name isName hwhole (mt hmark.mp hplain), hread, String.ofList_toList]
    rfl

/-- A name before an IP literal, with blanks around the address. -/
theorem instance_before_literal :
    "mgmt" ≠ "" ∧ (∀ c ∈ "mgmt".toList, Text.isBlank c = false ∧ c ≠ '/' ∧ c ≠ ':') ∧
      validate " [fe80::1%eth0]:6000 " "collector" = .ok "[fe80::1%eth0]:6000" ∧
      parseCollector ("mgmt" ++ "/" ++ " [fe80::1%eth0]:6000 ") =
        .ok ⟨some "mgmt", "[fe80::1%eth0]:6000"⟩ := by
  have accepted : validate " [fe80::1%eth0]:6000 " "collector" = .ok "[fe80::1%eth0]:6000" := by
    decide +kernel
  have plain : ¬"://".toList <:+: "[fe80::1%eth0]:6000".toList := by
    rw [← containsSchemeMark_iff]
    decide
  have isName : IsInstanceName "mgmt".toList := by decide
  exact ⟨by decide, isName.word, accepted,
    (instance_composes_iff (by decide) isName.word accepted).1.mpr plain⟩

/-- A name before a target with a scheme is refused. -/
theorem scheme_takes_no_instance :
    "mgmt" ≠ "" ∧ (∀ c ∈ "mgmt".toList, Text.isBlank c = false ∧ c ≠ '/' ∧ c ≠ ':') ∧
      validate "dns:///collector:6000" "collector" = .ok "dns:///collector:6000" ∧
      parseCollector ("mgmt" ++ "/" ++ "dns:///collector:6000") =
        .error (.notHostPort "collector" "mgmt/dns:///collector:6000") := by
  have isName : IsInstanceName "mgmt".toList := by decide
  refine ⟨by decide, isName.word, ?_⟩
  decide +kernel

end Address

end TelemetryBridge
