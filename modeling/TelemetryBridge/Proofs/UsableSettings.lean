import Mathlib.Data.List.DropRight
import Mathlib.Algebra.Order.Ring.Rat
import TelemetryBridge.Proofs.ConfigLayers
import TelemetryBridge.Proofs.ParsedPaths

/-!
# Usable settings

Whatever the files, the environment and the flags say, the settings that are loaded can be used as
they are, and a configuration is refused only for a cause, with a configuration failure.
-/

namespace TelemetryBridge

/-! ## Blanks -/

namespace Text

lemma dropWhile_trimChars (cs : List Char) :
    (trimChars cs).dropWhile isBlank = trimChars cs := by
  have hprefix : trimChars cs <+: cs.dropWhile isBlank := by
    rw [← List.reverse_suffix, trimChars, List.reverse_reverse]
    exact List.dropWhile_suffix _
  cases h : trimChars cs with
  | nil => rfl
  | cons c rest =>
    rw [h] at hprefix
    obtain ⟨behind, hbehind⟩ := hprefix
    have hc : isBlank c = false := by
      have hhead := List.head?_dropWhile_not isBlank cs
      rw [← hbehind] at hhead
      simpa using hhead
    exact List.dropWhile_cons_of_neg (by simp [hc])

lemma trimChars_trimChars (cs : List Char) : trimChars (trimChars cs) = trimChars cs := by
  rw [trimChars, dropWhile_trimChars, trimChars, List.reverse_reverse, List.dropWhile_idempotent]

lemma trim_trim (s : String) : trim (trim s) = trim s := by
  rw [trim, trim, String.toList_ofList, trimChars_trimChars]

/-- A text that neither starts nor ends with a blank. -/
structure IsTrimmed (cs : List Char) : Prop where
  starts : ∀ c ∈ cs.head?, isBlank c = false
  ends : ∀ c ∈ cs.getLast?, isBlank c = false

section

variable {before cs after : List Char}

lemma dropWhile_blanks (hbefore : ∀ c ∈ before, isBlank c = true)
    (starts : ∀ c ∈ cs.head?, isBlank c = false) : (before ++ cs).dropWhile isBlank = cs := by
  rw [List.dropWhile_append_of_pos hbefore]
  cases cs with
  | nil => rfl
  | cons c cs => exact List.dropWhile_cons_of_neg (by simp [starts c rfl])

/-- Blanks around a trimmed text are cut off. -/
lemma IsTrimmed.trimChars_append (h : IsTrimmed cs) (hne : cs ≠ [])
    (hbefore : ∀ c ∈ before, isBlank c = true) (hafter : ∀ c ∈ after, isBlank c = true) :
    trimChars (before ++ cs ++ after) = cs := by
  have hstarts : ∀ c ∈ (cs ++ after).head?, isBlank c = false := by
    rw [List.head?_append_of_ne_nil _ hne]
    exact h.starts
  have hends : ∀ c ∈ cs.reverse.head?, isBlank c = false := by
    rw [List.head?_reverse]
    exact h.ends
  have hafter' : ∀ c ∈ after.reverse, isBlank c = true :=
    fun c hc => hafter c (List.mem_reverse.mp hc)
  rw [trimChars, List.append_assoc, dropWhile_blanks hbefore hstarts, List.reverse_append,
    dropWhile_blanks hafter' hends, List.reverse_reverse]

lemma isTrimmed_trimChars (cs : List Char) : IsTrimmed (trimChars cs) := by
  constructor
  · have hhead := List.head?_dropWhile_not isBlank (trimChars cs)
    rw [dropWhile_trimChars] at hhead
    intro c hc
    rw [hc] at hhead
    exact hhead
  · have hlast := List.head?_dropWhile_not isBlank (cs.dropWhile isBlank).reverse
    rw [← List.reverse_reverse (List.dropWhile _ _), List.head?_reverse] at hlast
    intro c hc
    rw [trimChars] at hc
    rw [hc] at hlast
    exact hlast

/-- A text is its trimmed text with blanks around it. -/
lemma exists_blanks (cs : List Char) : ∃ before after, cs = before ++ trimChars cs ++ after ∧
    (∀ c ∈ before, isBlank c = true) ∧ ∀ c ∈ after, isBlank c = true := by
  refine ⟨cs.takeWhile isBlank, ((cs.dropWhile isBlank).reverse.takeWhile isBlank).reverse,
    ?_, ?_, ?_⟩
  · rw [trimChars, List.append_assoc, ← List.reverse_append, List.takeWhile_append_dropWhile,
      List.reverse_reverse, List.takeWhile_append_dropWhile]
  · exact fun c hc => List.mem_takeWhile_imp hc
  · exact fun c hc => List.mem_takeWhile_imp (List.mem_reverse.mp hc)

end
end Text

/-! ## Addresses -/

namespace Address

variable {address peer trimmed : String}

lemma trimmed_of_validate (h : validate address peer = .ok trimmed) :
    trimmed = Text.trim address := by
  simp only [validate] at h
  split_ifs at h
  · exact (Except.ok.inj h).symm
  · split at h
    · cases h
    · split_ifs at h
      exact (Except.ok.inj h).symm

/-- What is accepted is accepted again as it is, whoever it is for. -/
lemma validate_trimmed (h : validate address peer = .ok trimmed) (other : String) :
    validate trimmed other = .ok trimmed := by
  obtain rfl := trimmed_of_validate h
  simp only [validate, Text.trim_trim] at h ⊢
  generalize Text.trim address = t at h ⊢
  by_cases hnil : t.toList = []
  · rw [if_pos hnil] at h
    cases h
  rw [if_neg hnil] at h ⊢
  by_cases hscheme : (hasScheme t.toList || isUnix t.toList) = true
  · rw [if_pos hscheme]
  rw [if_neg hscheme] at h ⊢
  cases hhost : hostPort? t.toList with
  | none =>
    rw [hhost] at h
    cases h
  | some found =>
    obtain ⟨literal, digits⟩ := found
    simp only [hhost] at h ⊢
    split_ifs at h ⊢
    rfl

/-- The collector's address can be dialed, and the name before it is a word without slashes. -/
lemma collector_of_parse {value : String} {collector : Collector}
    (h : parseCollector value = .ok collector) :
    (∀ other, validate collector.address other = .ok collector.address) ∧
      ∀ vrf ∈ collector.vrf, vrf ≠ "" ∧ ∀ c ∈ vrf.toList, Text.isBlank c = false ∧ c ≠ '/' := by
  simp only [parseCollector] at h
  split_ifs at h with hplain hvrf
  · obtain ⟨address, haddress, hcollector⟩ := bind_eq_ok.mp h
    cases hcollector
    exact ⟨validate_trimmed haddress, by simp⟩
  · obtain ⟨address, haddress, hcollector⟩ := bind_eq_ok.mp h
    cases hcollector
    refine ⟨validate_trimmed haddress, ?_⟩
    intro vrf hmem
    obtain rfl := Option.mem_some_iff.mp hmem
    obtain ⟨hne, hblank⟩ := not_or.mp hvrf
    refine ⟨by simpa [String.ofList_eq_empty_iff] using hne, ?_⟩
    intro c hc
    rw [String.toList_ofList] at hc
    constructor
    · simp only [List.any_eq_true, not_exists, not_and, Bool.not_eq_true] at hblank
      exact hblank c hc
    · simpa using List.mem_takeWhile_imp hc

lemma isIP_of_validateSource {value : String} (h : validateSource value = .ok address) :
    isIP address.toList = true := by
  simp only [validateSource] at h
  split_ifs at h with hip
  cases h
  exact hip

end Address

/-! ## Numbers -/

namespace Number

lemma exists_nat_of_isInteger {x : Rat} (hinteger : (finite x).isInteger = true) (hle : 0 ≤ x) :
    ∃ k : Nat, x = k := by
  have hden : x.den = 1 := beq_iff_eq.mp hinteger
  obtain ⟨k, hk⟩ := Int.eq_ofNat_of_zero_le (Rat.num_nonneg.mpr hle)
  refine ⟨k, ?_⟩
  rw [← (Rat.den_eq_one_iff x).mp hden, hk]
  rfl

lemma IsCount.exists_nat {n : Number} (h : n.IsCount false) : ∃ k : Nat, n = .ofNat k := by
  obtain ⟨hinteger, hle⟩ := h
  cases n with
  | infinite negative => cases hinteger
  | finite x =>
    have hx : (0 : Rat) ≤ x := of_decide_eq_true hle
    obtain ⟨k, rfl⟩ := exists_nat_of_isInteger hinteger hx
    exact ⟨k, rfl⟩

lemma IsCount.exists_pos {n : Number} (h : n.IsCount true) : ∃ k : Nat, 1 ≤ k ∧ n = .ofNat k := by
  obtain ⟨hinteger, hlt⟩ := h
  cases n with
  | infinite negative => cases hinteger
  | finite x =>
    have hnle : ¬x ≤ 0 := by
      intro hle
      have hle' : Number.le (finite x) 0 = true := decide_eq_true hle
      rw [lt, hle'] at hlt
      cases hlt
    obtain ⟨k, rfl⟩ := exists_nat_of_isInteger hinteger (le_of_not_ge hnle)
    refine ⟨k, ?_, rfl⟩
    rw [Nat.one_le_iff_ne_zero]
    rintro rfl
    exact hnle (le_refl _)

end Number

/-! ## What can be used -/

/-- The bridge can start with the settings as they are: there is something to subscribe to, every
subscription is read as the path at its place, the addresses can be dialed as they are written, and
the times are whole milliseconds. -/
structure Settings.IsUsable (s : Settings) : Prop where
  subscribed : s.config.subscriptions ≠ []
  paths : List.Forall₂ (fun text path => Path.parse text = .ok path) s.config.subscriptions
    s.resolved.paths
  target : ∀ peer, Address.validate s.resolved.targetAddress peer = .ok s.resolved.targetAddress
  collector : ∀ peer,
    Address.validate s.resolved.collector.address peer = .ok s.resolved.collector.address
  vrf : ∀ vrf ∈ s.resolved.collector.vrf,
    vrf ≠ "" ∧ ∀ c ∈ vrf.toList, Text.isBlank c = false ∧ c ≠ '/'
  source : ∀ address ∈ s.resolved.sourceAddress, Address.isIP address.toList = true
  initialDelay : ∃ k : Nat, s.config.retry.initialDelayMs = .ofNat k
  maxDelay : ∃ k : Nat, 1 ≤ k ∧ s.config.retry.maxDelayMs = .ofNat k
  dialTimeout : ∃ k : Nat, s.config.dialTimeoutMs = .ofNat k

lemma subscriptionPath_eq_ok {text : String} {path : Path} :
    Config.subscriptionPath text = .ok path ↔ Path.parse text = .ok path := by
  rw [Config.subscriptionPath, mapError_eq_ok]

lemma paths_of_isOf {r : Resolved} {config : Config} (h : r.IsOf config) :
    List.Forall₂ (fun text path => Path.parse text = .ok path) config.subscriptions r.paths := by
  apply (forall₂_of_mapM_ok h.paths).imp
  intro text path hpath
  exact subscriptionPath_eq_ok.mp hpath

lemma isUsable_of_resolve {host : Host} {base : Option String} {config : Config}
    {settings : Settings} (counts : config.HasCounts)
    (h : Config.resolve host base config = .ok settings) : settings.IsUsable := by
  obtain ⟨isOf, hconfig, -⟩ := resolve_eq_ok.mp h
  obtain ⟨hcollector, hvrf⟩ := Address.collector_of_parse isOf.collector
  have hpaths := paths_of_isOf isOf
  have hsource : ∀ address ∈ settings.resolved.sourceAddress,
      Address.isIP address.toList = true := by
    intro address hmem
    have hresolved := isOf.sourceAddress
    rw [Option.mem_def.mp hmem] at hresolved
    cases hfilter : config.collector.sourceAddress.filter (Text.trim · ≠ "") with
    | none =>
      rw [hfilter] at hresolved
      cases hresolved
    | some value =>
      rw [hfilter, Option.elim_some] at hresolved
      obtain ⟨found, hfound, heq⟩ := map_eq_ok.mp hresolved
      obtain rfl := Option.some.inj heq
      exact Address.isIP_of_validateSource hfound
  rw [Config.withTlsFiles] at hconfig
  constructor
  · rw [hconfig]
    exact isOf.subscribed
  · rw [hconfig]
    exact hpaths
  · exact Address.validate_trimmed isOf.targetAddress
  · exact hcollector
  · exact hvrf
  · exact hsource
  · rw [hconfig]
    exact counts.initialDelay.exists_nat
  · rw [hconfig]
    exact counts.maxDelay.exists_pos
  · rw [hconfig]
    exact counts.dialTimeout.exists_nat

/-- With absolute home and working directories, every file that is used is named absolutely. -/
lemma isAbsolute_used {host : Host} {base : Option String} {config : Config} {settings : Settings}
    (h : Config.resolve host base config = .ok settings) (rooted : host.IsRooted)
    {file : FileSetting} {path : String} (hpath : file.used settings = some path) :
    FilePath.isAbsolute path.toList = true := by
  obtain ⟨-, hconfig, hlog⟩ := resolve_eq_ok.mp h
  have hused : file.used settings = (file.written config).bind (host.resolvePath base) := by
    cases file with
    | logFile => exact hlog
    | _ =>
      rw [FileSetting.used, hconfig]
      rfl
  obtain ⟨value, -, hvalue⟩ := Option.bind_eq_some_iff.mp (hused.symm.trans hpath)
  exact Host.isAbsolute_resolvePath rooted hvalue

/-! ## Refusals -/

/-- What keeps a configuration from being resolved. -/
inductive Config.Lacks (config : Config) : ConfigFault → Prop
  | noSubscriptions (nothing : config.subscriptions = []) : config.Lacks .noSubscriptions
  | badPath {text : String} {reason : PathFault} (listed : text ∈ config.subscriptions)
    (unread : Path.parse text = .error reason) : config.Lacks (.badPath text reason)
  | badTarget {reason : AddressError}
    (refused : Address.validate config.target.address "target" = .error reason) :
    config.Lacks (.badAddress reason)
  | noCollector (blank : Text.trim config.collector.address = "") : config.Lacks .noCollector
  | badCollector {reason : AddressError}
    (refused : Address.parseCollector config.collector.address = .error reason) :
    config.Lacks (.badAddress reason)
  | badSource {value : String} {reason : AddressError}
    (named : config.collector.sourceAddress = some value) (notBlank : Text.trim value ≠ "")
    (refused : Address.validateSource value = .error reason) : config.Lacks (.badAddress reason)

/-- Why no configuration is loaded: the file cannot be read, the schema refuses the file or what flags
and file give together, the level of a flag does not exist, or what they give together has no
subscription, a bad one, or an address that is missing or bad. -/
inductive Refusal (host : Host) (given : Option String) (o : Overrides) : ConfigFault → Prop
  | unreadable {file reason : String} (named : host.configPath given = some file)
    (failed : host.read file = .error reason) : Refusal host given o (.unreadable file reason)
  | notJson {file : String} {bytes : Bytes} (named : host.configPath given = some file)
    (content : host.read file = .ok bytes) (unread : Json.parse? (Text.decode bytes) = none) :
    Refusal host given o (.notJson file Config.notJsonReason)
  | invalidFile {json : Json} {issues : List Issue} (content : host.configContent given = .ok json)
    (refused : Config.ofJson json = .error issues) :
    Refusal host given o (.invalid ((host.configPath given).getD "configuration") issues)
  | badLogLevel {value : String} (flag : o.logLevel = some value)
    (unknown : LogLevel.ofName? value = none) : Refusal host given o (.badLogLevel value)
  | invalidFlags {json : Json} {issues : List Issue} (content : host.configContent given = .ok json)
    (refused : Config.ofJson (Config.flagged host json o).toJson = .error issues) :
    Refusal host given o (.invalid "command line" issues)
  | unresolved {json : Json} {fault : ConfigFault} (content : host.configContent given = .ok json)
    (unresolved : (Config.flagged host json o).Lacks fault) : Refusal host given o fault

section

variable {host : Host} {given base : Option String} {o : Overrides} {config : Config}
  {fault : ConfigFault} {settings : Settings}

lemma lacks_of_resolve (h : Config.resolve host base config = .error fault) :
    config.Lacks fault := by
  unfold Config.resolve at h
  rcases throw_or_eq_error.mp h with ⟨hnothing, rfl⟩ | ⟨-, h⟩
  · exact .noSubscriptions hnothing
  rcases bind_eq_error.mp h with hpaths | ⟨paths, -, h⟩
  · obtain ⟨text, hmem, htext⟩ := exists_of_mapM_error hpaths
    obtain ⟨reason, hreason, rfl⟩ := mapError_eq_error.mp htext
    exact .badPath hmem hreason
  rcases bind_eq_error.mp h with htarget | ⟨targetAddress, -, h⟩
  · obtain ⟨reason, hreason, rfl⟩ := mapError_eq_error.mp htarget
    exact .badTarget hreason
  rcases throw_or_eq_error.mp h with ⟨hblank, rfl⟩ | ⟨-, h⟩
  · exact .noCollector hblank
  rcases bind_eq_error.mp h with hcollector | ⟨collector, -, h⟩
  · obtain ⟨reason, hreason, rfl⟩ := mapError_eq_error.mp hcollector
    exact .badCollector hreason
  split at h
  · next value hfilter =>
    obtain ⟨named, notBlank⟩ := Option.filter_eq_some_iff.mp hfilter
    rcases bind_eq_error.mp h with hsource | ⟨sourceAddress, -, h⟩
    · obtain ⟨reason, hreason, rfl⟩ := mapError_eq_error.mp (map_eq_error.mp hsource)
      exact .badSource named (by simpa using notBlank) hreason
    · cases h
  · cases h

lemma refusal_of_content (h : host.configContent given = .error fault) :
    Refusal host given o fault := by
  unfold Host.configContent at h
  split at h
  · next file named =>
    unfold Config.readFile at h
    split at h
    · next reason failed =>
      cases h
      exact .unreadable named failed
    · next bytes content =>
      split at h
      · cases h
      · next unread =>
        cases h
        exact .notJson named content unread
  · cases h

lemma refusal_of_override (h : Config.override host config o = .error fault) :
    Refusal host given o fault := by
  unfold Config.override at h
  rcases bind_eq_error.mp h with hlevel | ⟨level, -, h⟩
  · unfold Config.flagLevel at hlevel
    split at hlevel
    · cases hlevel
    · next value flag =>
      split at hlevel
      · cases hlevel
      · next unknown =>
        cases hlevel
        exact .badLogLevel flag unknown
  · cases h

lemma refusal_of_load (h : Config.load host given o = .error fault) :
    Refusal host given o fault := by
  rw [load_eq] at h
  rcases bind_eq_error.mp h with hcontent | ⟨json, hjson, h⟩
  · exact refusal_of_content hcontent
  rcases bind_eq_error.mp h with hfile | ⟨found, hfound, h⟩
  · obtain ⟨issues, hissues, rfl⟩ := mapError_eq_error.mp hfile
    exact .invalidFile hjson hissues
  rw [Config.ofJson_finds (check_eq_ok.mp hfound)] at h
  rcases bind_eq_error.mp h with hlevel | ⟨merged, hmerged, h⟩
  · exact refusal_of_override hlevel
  obtain ⟨-, rfl⟩ := override_ofLeaves.mp hmerged
  rcases bind_eq_error.mp h with hflags | ⟨checked, hchecked, h⟩
  · obtain ⟨issues, hissues, rfl⟩ := mapError_eq_error.mp hflags
    exact .invalidFlags hjson hissues
  obtain ⟨-, rfl⟩ := Config.ofJson_toJson.mp (check_eq_ok.mp hchecked)
  exact .unresolved hjson (lacks_of_resolve h)

lemma not_lacks_of_resolve (h : Config.resolve host base config = .ok settings) :
    ¬config.Lacks fault := by
  obtain ⟨isOf, -, -⟩ := resolve_eq_ok.mp h
  intro lacks
  cases lacks with
  | noSubscriptions nothing => exact isOf.subscribed nothing
  | badPath listed unread =>
    obtain ⟨i, hi, rfl⟩ := List.mem_iff_getElem.mp listed
    have hpaths := List.forall₂_iff_get.mp (paths_of_isOf isOf)
    have hread := hpaths.2 i hi (hpaths.1 ▸ hi)
    cases unread.symm.trans hread
  | badTarget refused =>
    cases refused.symm.trans isOf.targetAddress
  | noCollector blank => exact isOf.named blank
  | badCollector refused =>
    cases refused.symm.trans isOf.collector
  | badSource named notBlank refused =>
    have hfilter : config.collector.sourceAddress.filter (Text.trim · ≠ "") = some _ :=
      Option.filter_eq_some_iff.mpr ⟨named, by simpa using notBlank⟩
    have hsource := isOf.sourceAddress
    rw [hfilter, Option.elim_some, refused] at hsource
    cases hsource

/-- Where there is a cause, nothing is loaded. -/
lemma not_refusal_of_load (h : Config.load host given o = .ok settings) :
    ¬Refusal host given o fault := by
  obtain ⟨json, hjson, ⟨found, hfound⟩, ⟨level, hlevel⟩, hcounts, hresolve⟩ := load_eq_ok.mp h
  intro refusal
  cases refusal with
  | unreadable named failed =>
    simp [Host.configContent, Config.readFile, named, failed] at hjson
  | notJson named content unread =>
    simp [Host.configContent, Config.readFile, named, content, unread] at hjson
  | invalidFile content refused =>
    cases content.symm.trans hjson
    cases refused.symm.trans hfound
  | badLogLevel flag unknown =>
    simp [Config.flagLevel, flag, unknown] at hlevel
  | invalidFlags content refused =>
    cases content.symm.trans hjson
    cases refused.symm.trans (Config.ofJson_toJson.mpr ⟨hcounts, rfl⟩)
  | unresolved content lacks =>
    cases content.symm.trans hjson
    exact not_lacks_of_resolve hresolve lacks

end

/-- Whatever the files, the environment and the flags are, either a configuration is refused by a
configuration failure, and there is a cause for it, or there is no cause to refuse it, and what is
loaded can be used as it is; then, if home and working directory are absolute, so is every path of a
file. -/
theorem loaded_settings_are_usable (host : Host) (given : Option String) (o : Overrides) :
    match Config.load host given o with
    | .error fault => fault.toFailure.className? = some "ConfigError" ∧ Refusal host given o fault
    | .ok settings =>
      settings.IsUsable ∧ (∀ fault, ¬Refusal host given o fault) ∧
        (host.IsRooted → ∀ (file : FileSetting) (path : String), file.used settings = some path →
          FilePath.isAbsolute path.toList = true) := by
  cases h : Config.load host given o with
  | error fault => exact ⟨rfl, refusal_of_load h⟩
  | ok settings =>
    obtain ⟨json, -, -, -, hcounts, hresolve⟩ := load_eq_ok.mp h
    exact ⟨isUsable_of_resolve hcounts hresolve, fun _ => not_refusal_of_load h,
      fun rooted _ _ hused => isAbsolute_used hresolve rooted hused⟩

end TelemetryBridge
