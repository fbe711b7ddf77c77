import TelemetryBridge.Proofs.UsableSettings

/-!
# What the second check blames

A configuration that the schema accepted is accepted again as it is. Flags that are laid over it can
only bring in three numbers, so what the second check finds wrong are numbers that flags gave. The
file is blamed by the first check alone, whatever the flags are.
-/

namespace TelemetryBridge

/-! ## All that is wrong -/

/-- A value, unless something is wrong with it. -/
def Checked.ofIssues {α : Type} (a : α) (issues : List Issue) : Checked α :=
  if issues = [] then .ok a else .error issues

namespace Checked

variable {α β : Type} {a : α} {b : β} {issues more : List Issue}

lemma ofIssues_nil : ofIssues a [] = .ok a := rfl

lemma ofIssues_of_ne_nil (h : issues ≠ []) : ofIssues a issues = .error issues := if_neg h

lemma and_ofIssues :
    (ofIssues a issues).and (ofIssues b more) = ofIssues (a, b) (issues ++ more) := by
  cases issues <;> cases more <;> simp [ofIssues, Checked.and]

lemma map_ofIssues (f : α → β) : (ofIssues a issues).map f = ofIssues (f a) issues := by
  cases issues <;> rfl

lemma ofIssues_eq_error : ofIssues a issues = .error more ↔ issues = more ∧ more ≠ [] := by
  by_cases h : issues = []
  · subst h
    rw [ofIssues_nil]
    exact ⟨nofun, fun ⟨hmore, hne⟩ => absurd hmore.symm hne⟩
  · rw [ofIssues_of_ne_nil h, Except.error.injEq]
    exact ⟨fun hmore => ⟨hmore, hmore ▸ h⟩, And.left⟩

end Checked

/-! ## Numbers of a configuration -/

/-- The numbers of a configuration. -/
inductive CountSetting where
  | initialDelay
  | maxDelay
  | dialTimeout

namespace CountSetting

/-- All of them, in the order of the schema. -/
def all : List CountSetting := [initialDelay, maxDelay, dialTimeout]

def setting : CountSetting → Setting
  | initialDelay => .initialDelay
  | maxDelay => .maxDelay
  | dialTimeout => .dialTimeout

/-- Whether zero is refused. -/
def isPositive : CountSetting → Bool
  | maxDelay => true
  | _ => false

def flag (o : Overrides) : CountSetting → Option Number
  | initialDelay => o.retryDelay
  | maxDelay => o.retryMaxDelay
  | dialTimeout => o.dialTimeout

def number (config : Config) : CountSetting → Number
  | initialDelay => config.retry.initialDelayMs
  | maxDelay => config.retry.maxDelayMs
  | dialTimeout => config.dialTimeoutMs

end CountSetting

/-- What the schema has to say about a number. -/
def Number.issues (positive : Bool) (place : List String) (n : Number) : List Issue :=
  (if n.isInteger then [] else [⟨place, .wrongType "integer" "float"⟩]) ++
    if positive then (if Number.lt 0 n then [] else [⟨place, .notPositive⟩])
    else (if Number.le 0 n then [] else [⟨place, .negative⟩])

/-- What is wrong with a number where it stands. -/
def CountSetting.issues (c : CountSetting) (n : Number) : List Issue :=
  n.issues c.isPositive c.setting.place

def Config.issues (config : Config) : List Issue :=
  CountSetting.all.flatMap fun c => c.issues (c.number config)

/-- What is wrong with the numbers that flags give. -/
def Overrides.issues (o : Overrides) : List Issue :=
  CountSetting.all.flatMap fun c => (c.flag o).elim [] c.issues

lemma Schema.integer_eq (positive : Bool) (place : List String) (n : Number) :
    integer positive place (.number n) = .ofIssues n (n.issues positive place) := rfl

lemma Number.issues_eq_nil {positive : Bool} {place : List String} {n : Number} :
    n.issues positive place = [] ↔ n.IsCount positive := by
  cases positive <;> simp [issues, IsCount, List.append_eq_nil_iff]

lemma Number.place_of_mem_issues {positive : Bool} {place : List String} {n : Number}
    {issue : Issue} (h : issue ∈ n.issues positive place) : issue.place = place := by
  rcases List.mem_append.mp h with hwhole | hrange
  · rw [List.mem_singleton.mp (List.mem_ite_nil_left.mp hwhole).2]
  · cases positive with
    | true => rw [List.mem_singleton.mp (List.mem_ite_nil_left.mp hrange).2]
    | false => rw [List.mem_singleton.mp (List.mem_ite_nil_left.mp hrange).2]

/-- What is wrong with the numbers of flags is wrong with one that a flag gives, at its place. -/
lemma Overrides.exists_of_mem_issues {o : Overrides} {issue : Issue} (h : issue ∈ o.issues) :
    ∃ (c : CountSetting) (n : Number), c.flag o = some n ∧ issue.place = c.setting.place ∧
      ¬n.IsCount c.isPositive := by
  obtain ⟨c, -, hc⟩ := List.mem_flatMap.mp h
  cases hflag : c.flag o with
  | none =>
    rw [hflag] at hc
    cases hc
  | some n =>
    rw [hflag] at hc
    refine ⟨c, n, hflag, Number.place_of_mem_issues hc, fun hcount => ?_⟩
    rw [Option.elim_some, CountSetting.issues, Number.issues_eq_nil.mpr hcount] at hc
    cases hc

/-! ## What the schema accepts -/

namespace Config

variable {config base merged : Config} {json : Json} {o : Overrides}

lemma HasCounts.isCount (h : config.HasCounts) (c : CountSetting) :
    (c.number config).IsCount c.isPositive := by
  cases c with
  | initialDelay => exact h.initialDelay
  | maxDelay => exact h.maxDelay
  | dialTimeout => exact h.dialTimeout

/-- The numbers that stand for those left out are admitted. -/
lemma hasCounts_default : ({} : Config).HasCounts :=
  ⟨⟨by decide, by decide⟩, ⟨by decide, by decide⟩, ⟨by decide, by decide⟩⟩

/-- The schema finds nothing wrong but the numbers with a configuration that is written. -/
lemma ofJson_toJson_eq (config : Config) :
    ofJson config.toJson = .ofIssues config config.issues := by
  have htarget : Schema.withDefault Schema.target {} "target" [] config.members =
      .ofIssues config.target [] := target_targetJson config.target
  have hsubscriptions : Schema.withDefault (Schema.list Schema.text) [] "subscriptions" []
      config.members = .ofIssues config.subscriptions [] := list_texts config.subscriptions
  have hcollector : Schema.withDefault Schema.collector {} "collector" [] config.members =
      .ofIssues config.collector [] := collector_collectorJson config.collector
  have hretry : Schema.withDefault Schema.retry {} "retry" [] config.members =
      .ofIssues config.retry (CountSetting.initialDelay.issues config.retry.initialDelayMs ++
        CountSetting.maxDelay.issues config.retry.maxDelayMs) := by
    change Except.map _ (Checked.and (.ofIssues _ _) (.ofIssues _ _)) = _
    rw [Checked.and_ofIssues, Checked.map_ofIssues]
    rfl
  have hdial : Schema.withDefault (Schema.integer false) 0 "dialTimeoutMs" [] config.members =
      .ofIssues config.dialTimeoutMs (CountSetting.dialTimeout.issues config.dialTimeoutMs) :=
    Schema.integer_eq false ["dialTimeoutMs"] config.dialTimeoutMs
  have hlogging : Schema.withDefault Schema.logging {} "logging" [] config.members =
      .ofIssues config.logging [] := logging_loggingJson config.logging
  change Except.map _ _ = _
  rw [htarget, hsubscriptions, hcollector, hretry, hdial, hlogging]
  simp only [Checked.and_ofIssues, Checked.map_ofIssues]
  simp [issues, CountSetting.all, CountSetting.number]

end Config

/-- A number that is read is one the schema admits, as its default is. -/
lemma Schema.isCount_of_withDefault {positive : Bool} {default n : Number} {name : String}
    {place : List String} {members : List (String × Json)} (admitted : default.IsCount positive)
    (ok : withDefault (integer positive) default name place members = .ok n) :
    n.IsCount positive := by
  unfold withDefault at ok
  split at ok
  · cases ok
    exact admitted
  · next json found =>
    cases json with
    | number m =>
      obtain ⟨hcount, rfl⟩ := integer_number.mp ok
      exact hcount
    | _ => cases ok

lemma Schema.isCount_of_retry {place : List String} {json : Json} {r : RetryConfig}
    (ok : retry place json = .ok r) :
    r.initialDelayMs.IsCount false ∧ r.maxDelayMs.IsCount true := by
  cases json with
  | object members =>
    obtain ⟨⟨initialDelayMs, maxDelayMs⟩, hand, rfl⟩ := map_eq_ok.mp ok
    obtain ⟨hinitial, hmax⟩ := Checked.and_eq_ok.mp hand
    exact ⟨isCount_of_withDefault Config.hasCounts_default.initialDelay hinitial,
      isCount_of_withDefault Config.hasCounts_default.maxDelay hmax⟩
  | _ => cases ok

namespace Config

variable {host : Host} {config base merged : Config} {json : Json} {o : Overrides}

/-- The numbers of a configuration that the schema accepts are those it admits. -/
lemma hasCounts_of_ofJson (h : ofJson json = .ok config) : config.HasCounts := by
  cases json with
  | object members =>
    obtain ⟨⟨target, subscriptions, collector, retry, dialTimeoutMs, logging⟩, hand, rfl⟩ :=
      map_eq_ok.mp h
    obtain ⟨-, hand⟩ := Checked.and_eq_ok.mp hand
    obtain ⟨-, hand⟩ := Checked.and_eq_ok.mp hand
    obtain ⟨-, hand⟩ := Checked.and_eq_ok.mp hand
    obtain ⟨hretry, hand⟩ := Checked.and_eq_ok.mp hand
    obtain ⟨hdial, -⟩ := Checked.and_eq_ok.mp hand
    have hdelays : retry.initialDelayMs.IsCount false ∧ retry.maxDelayMs.IsCount true := by
      unfold Schema.withDefault at hretry
      split at hretry
      · cases hretry
        exact ⟨hasCounts_default.initialDelay, hasCounts_default.maxDelay⟩
      · exact Schema.isCount_of_retry hretry
    exact ⟨hdelays.1, hdelays.2,
      Schema.isCount_of_withDefault hasCounts_default.dialTimeout hdial⟩
  | _ => cases h

/-! ## What flags bring in -/

lemma override_nothing (host : Host) (base : Config) : override host base {} = .ok base := rfl

lemma number_override (h : override host base o = .ok merged) (c : CountSetting) :
    c.number merged = (c.flag o).getD (c.number base) := by
  obtain ⟨level, -, hmerged⟩ := bind_eq_ok.mp h
  cases hmerged
  cases c <;> rfl

/-- Over a configuration that was accepted, what is wrong is what flags brought in. -/
lemma issues_override (counts : base.HasCounts) (h : override host base o = .ok merged) :
    merged.issues = o.issues := by
  refine List.flatMap_congr fun c _ => ?_
  rw [number_override h c]
  cases c.flag o with
  | none => exact Number.issues_eq_nil.mpr (counts.isCount c)
  | some n => rfl

lemma ofJson_override (accepted : ofJson json = .ok base)
    (h : override host base o = .ok merged) :
    ofJson merged.toJson = .ofIssues merged o.issues := by
  rw [ofJson_toJson_eq, issues_override (hasCounts_of_ofJson accepted) h]

end Config

/-! ## Blame -/

/-- Whom an invalid configuration is blamed on, and for what: on the file, if the schema refuses
what it says, and on the command line, if the schema accepts the file but not the numbers of flags.
-/
inductive Blamed (host : Host) (given : Option String) (o : Overrides) :
    String → List Issue → Prop
  | file {json : Json} {issues : List Issue} (content : host.configContent given = .ok json)
    (refused : Config.ofJson json = .error issues) :
    Blamed host given o ((host.configPath given).getD "configuration") issues
  | flags {json : Json} {base : Config} {level : Option LogLevel}
    (content : host.configContent given = .ok json) (accepted : Config.ofJson json = .ok base)
    (known : Config.flagLevel o.logLevel = .ok level) (wrong : o.issues ≠ []) :
    Blamed host given o "command line" o.issues

section

variable {host : Host} {given : Option String} {o : Overrides} {source : String}
  {issues : List Issue}

lemma configContent_ne_invalid : host.configContent given ≠ .error (.invalid source issues) := by
  unfold Host.configContent
  split
  · unfold Config.readFile
    split
    · nofun
    · split <;> nofun
  · nofun

lemma flagLevel_ne_invalid {flag : Option String} :
    Config.flagLevel flag ≠ .error (.invalid source issues) := by
  unfold Config.flagLevel
  split
  · nofun
  · split <;> nofun

lemma check_eq_invalid {asked : String} {json : Json} :
    Config.check asked json = .error (.invalid source issues) ↔
      Config.ofJson json = .error issues ∧ asked = source := by
  simp only [Config.check, mapError_eq_error, ConfigFault.invalid.injEq]
  constructor
  · rintro ⟨_, hissues, rfl, rfl⟩
    exact ⟨hissues, rfl⟩
  · rintro ⟨hissues, rfl⟩
    exact ⟨issues, hissues, rfl, rfl⟩

lemma blamed_of_load (h : Config.load host given o = .error (.invalid source issues)) :
    Blamed host given o source issues := by
  rw [load_eq] at h
  rcases bind_eq_error.mp h with hcontent | ⟨json, hjson, h⟩
  · exact absurd hcontent configContent_ne_invalid
  rcases bind_eq_error.mp h with hfile | ⟨base, hbase, h⟩
  · obtain ⟨refused, rfl⟩ := check_eq_invalid.mp hfile
    exact .file hjson refused
  have accepted : Config.ofJson json = .ok base := check_eq_ok.mp hbase
  rcases bind_eq_error.mp h with hlevel | ⟨merged, hmerged, h⟩
  · rcases bind_eq_error.mp hlevel with hflag | ⟨level, -, hnone⟩
    · exact absurd hflag flagLevel_ne_invalid
    · cases hnone
  obtain ⟨level, known, -⟩ := bind_eq_ok.mp hmerged
  rcases bind_eq_error.mp h with hflags | ⟨checked, hchecked, h⟩
  · obtain ⟨refused, rfl⟩ := check_eq_invalid.mp hflags
    rw [Config.ofJson_override accepted hmerged, Checked.ofIssues_eq_error] at refused
    obtain ⟨rfl, wrong⟩ := refused
    exact .flags hjson accepted known wrong
  · cases lacks_of_resolve h

lemma load_of_blamed (h : Blamed host given o source issues) :
    Config.load host given o = .error (.invalid source issues) := by
  rw [load_eq]
  cases h with
  | @file json _ content refused =>
    refine bind_eq_error.mpr (.inr ⟨json, content, bind_eq_error.mpr (.inl ?_)⟩)
    exact check_eq_invalid.mpr ⟨refused, rfl⟩
  | @flags json base level content accepted known wrong =>
    refine bind_eq_error.mpr (.inr ⟨json, content, ?_⟩)
    refine bind_eq_error.mpr (.inr ⟨base, check_eq_ok.mpr accepted, ?_⟩)
    obtain ⟨merged, hmerged⟩ : ∃ merged, Config.override host base o = .ok merged :=
      ⟨_, bind_eq_ok.mpr ⟨level, known, rfl⟩⟩
    refine bind_eq_error.mpr (.inr ⟨merged, hmerged, bind_eq_error.mpr (.inl ?_)⟩)
    refine check_eq_invalid.mpr ⟨?_, rfl⟩
    rw [Config.ofJson_override accepted hmerged, Checked.ofIssues_of_ne_nil wrong]

lemma configSource_ne (rooted : host.IsRooted) :
    (host.configPath given).getD "configuration" ≠ "command line" := by
  cases hfile : host.configPath given with
  | none => decide
  | some path =>
    rintro rfl
    have habsolute := Host.isAbsolute_configPath rooted hfile
    cases habsolute

end

/-- A configuration that the schema accepts is the same with no flags over it, and is accepted
again. With flags over it the schema finds wrong what is wrong with their numbers, and nothing else:
every issue is at the place of one of three numbers, which a flag gives and the schema does not
admit. So an invalid configuration is blamed on the file if and only if the file is refused,
whatever the flags are, and on the command line if and only if the file is accepted and the numbers
of flags are not; the two have different names if home and working directory are absolute. -/
theorem second_check_blames_flags (host : Host) (given : Option String) (o : Overrides) :
    (∀ json base, Config.ofJson json = .ok base →
      Config.override host base {} = .ok base ∧ Config.ofJson base.toJson = .ok base ∧
      ∀ merged, Config.override host base o = .ok merged →
        Config.ofJson merged.toJson = .ofIssues merged o.issues) ∧
    (∀ issue ∈ o.issues, ∃ (c : CountSetting) (n : Number), c.flag o = some n ∧
      issue.place = c.setting.place ∧ ¬n.IsCount c.isPositive) ∧
    (∀ source issues, Config.load host given o = .error (.invalid source issues) ↔
      Blamed host given o source issues) ∧
    (host.IsRooted → (host.configPath given).getD "configuration" ≠ "command line") := by
  refine ⟨?_, fun _ => Overrides.exists_of_mem_issues, fun _ _ => ⟨blamed_of_load, load_of_blamed⟩,
    configSource_ne⟩
  intro json base accepted
  have again : Config.ofJson base.toJson = .ok base :=
    Config.ofJson_toJson.mpr ⟨Config.hasCounts_of_ofJson accepted, rfl⟩
  exact ⟨Config.override_nothing host base, again, fun _ => Config.ofJson_override accepted⟩

end TelemetryBridge
