import TelemetryBridge.Proofs.FilePaths
import TelemetryBridge.Proofs.SchemaReading

/-!
# Flags over file over defaults

Every field of a configuration that was loaded is the one a flag gives, or else the one of the file,
or else the default. So the file can be changed wherever flags speak, a file path of a flag does not
depend on where the file is, and one of the file does not depend on the working directory.
-/

namespace TelemetryBridge

open Json

/-! ## Settings -/

/-- The files a configuration names. -/
inductive FileSetting where
  | certFile
  | keyFile
  | caFile
  | logFile
deriving DecidableEq

namespace FileSetting

def flag (o : Overrides) : FileSetting → Option String
  | certFile => o.collectorCertFile
  | keyFile => o.collectorKeyFile
  | caFile => o.collectorCaFile
  | logFile => o.logFile

/-- Where the file is named in the configuration file. -/
def place : FileSetting → List String
  | certFile => ["collector", "tls", "certFile"]
  | keyFile => ["collector", "tls", "keyFile"]
  | caFile => ["collector", "tls", "caFile"]
  | logFile => ["logging", "filePath"]

/-- The path as it stands in a configuration. -/
def written (config : Config) : FileSetting → Option String
  | certFile => config.collector.tls.certFile
  | keyFile => config.collector.tls.keyFile
  | caFile => config.collector.tls.caFile
  | logFile => config.logging.filePath

/-- The path the bridge uses. -/
def used (settings : Settings) : FileSetting → Option String
  | certFile => settings.config.collector.tls.certFile
  | keyFile => settings.config.collector.tls.keyFile
  | caFile => settings.config.collector.tls.caFile
  | logFile => settings.resolved.logFilePath

/-- The path of a flag, seen from the working directory. It is resolved once more, which takes off
blanks that are left at its end. -/
def fromFlag (host : Host) (o : Overrides) (file : FileSetting) : Option String :=
  ((file.flag o).bind (host.resolvePath none)).bind (host.resolvePath none)

/-- The path of the configuration file, seen from the base directory. -/
def fromFile (host : Host) (base : Option String) (json : Json) (file : FileSetting) :
    Option String :=
  (json.leaf? file.place toText?).bind (host.resolvePath base)

end FileSetting

/-- What flags can override. -/
inductive Setting where
  | targetAddress
  | targetValue
  | username
  | password
  | subscriptions
  | collectorAddress
  | sourceAddress
  | tlsEnabled
  | skipVerify
  | initialDelay
  | maxDelay
  | dialTimeout
  | logLevel
  | file (file : FileSetting)
deriving DecidableEq

namespace Setting

/-- Where the setting stands in the configuration file. -/
def place : Setting → List String
  | targetAddress => ["target", "address"]
  | targetValue => ["target", "value"]
  | username => ["target", "username"]
  | password => ["target", "password"]
  | subscriptions => ["subscriptions"]
  | collectorAddress => ["collector", "address"]
  | sourceAddress => ["collector", "sourceAddress"]
  | tlsEnabled => ["collector", "tls", "enabled"]
  | skipVerify => ["collector", "tls", "skipVerify"]
  | initialDelay => ["retry", "initialDelayMs"]
  | maxDelay => ["retry", "maxDelayMs"]
  | dialTimeout => ["dialTimeoutMs"]
  | logLevel => ["logging", "level"]
  | file f => f.place

/-- The setting is given by flags: a list that is not empty, a file path that is not blank, anything
else if it is there. -/
def IsGiven (o : Overrides) : Setting → Prop
  | targetAddress => o.targetAddr ≠ none
  | targetValue => o.targetValue ≠ none
  | username => o.username ≠ none
  | password => o.password ≠ none
  | subscriptions => o.subscribe ≠ []
  | collectorAddress => o.collectorAddr ≠ none
  | sourceAddress => o.sourceAddr ≠ none
  | tlsEnabled => o.collectorTls ≠ none
  | skipVerify => o.collectorTlsSkipVerify ≠ none
  | initialDelay => o.retryDelay ≠ none
  | maxDelay => o.retryMaxDelay ≠ none
  | dialTimeout => o.dialTimeout ≠ none
  | logLevel => o.logLevel ≠ none
  | file f => ∃ value, f.flag o = some value ∧ Text.trim value ≠ ""

end Setting

/-- Where the configuration file sets the level of the log file. No flag does. -/
def fileLevelPlace : List String := ["logging", "fileLevel"]

/-- Two configuration files differ in nothing but what flags override. -/
structure Overrides.Covers (o : Overrides) (json json' : Json) : Prop where
  settings : ∀ s : Setting, ¬s.IsGiven o → json'.at? s.place = json.at? s.place
  fileLevel : json'.at? fileLevelPlace = json.at? fileLevelPlace

namespace Config

/-- What flags give, or else the file, or else the defaults. File paths of flags are seen from the
working directory, those of the file are as they are written. -/
def flagged (host : Host) (json : Json) (o : Overrides) : Config :=
  let default : Config := {}
  let filePath (file : FileSetting) : Option String :=
    (file.flag o).bind (host.resolvePath none) <|> json.leaf? file.place toText?
  { target := {
      address := (o.targetAddr <|> json.leaf? Setting.targetAddress.place toText?).getD
        default.target.address
      value := (o.targetValue <|> json.leaf? Setting.targetValue.place toText?).getD
        default.target.value
      username := o.username <|> json.leaf? Setting.username.place toText?
      password := o.password <|> json.leaf? Setting.password.place toText? }
    subscriptions := ((if o.subscribe = [] then none else some o.subscribe) <|>
      json.leaf? Setting.subscriptions.place toTexts?).getD default.subscriptions
    collector := {
      address := (o.collectorAddr <|> json.leaf? Setting.collectorAddress.place toText?).getD
        default.collector.address
      sourceAddress := o.sourceAddr <|> json.leaf? Setting.sourceAddress.place toText?
      tls := {
        enabled := (o.collectorTls <|> json.leaf? Setting.tlsEnabled.place toBool?).getD
          default.collector.tls.enabled
        skipVerify :=
          (o.collectorTlsSkipVerify <|> json.leaf? Setting.skipVerify.place toBool?).getD
            default.collector.tls.skipVerify
        certFile := filePath .certFile
        keyFile := filePath .keyFile
        caFile := filePath .caFile } }
    retry := {
      initialDelayMs := (o.retryDelay <|> json.leaf? Setting.initialDelay.place toNumber?).getD
        default.retry.initialDelayMs
      maxDelayMs := (o.retryMaxDelay <|> json.leaf? Setting.maxDelay.place toNumber?).getD
        default.retry.maxDelayMs }
    dialTimeoutMs := (o.dialTimeout <|> json.leaf? Setting.dialTimeout.place toNumber?).getD
      default.dialTimeoutMs
    logging := {
      level := (o.logLevel.bind LogLevel.ofName? <|>
        json.leaf? Setting.logLevel.place toLevel?).getD default.logging.level
      filePath := filePath .logFile
      fileLevel := json.leaf? fileLevelPlace toLevel? } }

/-- The configuration with other TLS files. -/
def withTlsFiles (config : Config) (file : FileSetting → Option String) : Config :=
  { config with
    collector := { config.collector with
      tls := { config.collector.tls with
        certFile := file .certFile
        keyFile := file .keyFile
        caFile := file .caFile } } }

end Config

/-- What flags give, or else the file, or else the defaults, and the TLS files as the bridge uses
them. -/
def Config.layered (host : Host) (base : Option String) (json : Json) (o : Overrides) : Config :=
  (flagged host json o).withTlsFiles fun file =>
    file.fromFlag host o <|> file.fromFile host base json

/-! ## Overriding -/

/-- A level that a flag gives is one that exists. -/
lemma flagLevel_ok {flag : Option String} {level : Option LogLevel}
    (h : Config.flagLevel flag = .ok level) :
    level = flag.bind LogLevel.ofName? ∧ (level = none → flag = none) := by
  cases flag with
  | none =>
    cases h
    exact ⟨rfl, fun _ => rfl⟩
  | some value =>
    rw [Config.flagLevel] at h
    split at h
    · next found =>
      cases h
      exact ⟨found.symm, nofun⟩
    · cases h

lemma override_ofLeaves {host : Host} {json : Json} {o : Overrides} {config : Config} :
    Config.override host (.ofLeaves json) o = .ok config ↔
      (∃ level, Config.flagLevel o.logLevel = .ok level) ∧ Config.flagged host json o = config := by
  cases hlevel : Config.flagLevel o.logLevel with
  | error fault => simp [Config.override, hlevel, bind, Except.bind]
  | ok level =>
    have hsame : Config.override host (.ofLeaves json) o = .ok (.flagged host json o) := by
      simp only [Config.override, hlevel, bind, Except.bind, pure, Except.pure, Config.flagged,
        Config.ofLeaves, TargetConfig.ofLeaves, CollectorConfig.ofLeaves, TlsConfig.ofLeaves,
        RetryConfig.ofLeaves, LoggingConfig.ofLeaves, at?_bind_at?, at?_bind_leaf?,
        (flagLevel_ok hlevel).1]
      by_cases hnone : o.subscribe = [] <;>
        simp [Setting.place, FileSetting.place, FileSetting.flag, fileLevelPlace, Option.getD_or,
          hnone]
    rw [hsame]
    simp

/-- The path of a flag is none if and only if the flag is left out or blank. -/
lemma flag_bind_eq_none_iff (host : Host) {o : Overrides} {file : FileSetting} :
    (file.flag o).bind (host.resolvePath none) = none ↔ ¬(Setting.file file).IsGiven o := by
  cases h : file.flag o with
  | none => simp [Setting.IsGiven, h]
  | some value =>
    rw [Option.bind_some, Host.resolvePath_eq_none_iff]
    simp [Setting.IsGiven, h]

/-- Where flags speak, the file does not matter. -/
lemma flagged_of_covers {host : Host} {json json' : Json} {o : Overrides}
    (covers : o.Covers json json') {level : Option LogLevel}
    (hlevel : Config.flagLevel o.logLevel = .ok level) :
    Config.flagged host json' o = Config.flagged host json o := by
  have hlayer {α : Type} (s : Setting) (kind : Json → Option α) (flag : Option α)
      (hflag : flag = none → ¬s.IsGiven o) :
      (flag <|> json'.leaf? s.place kind) = (flag <|> json.leaf? s.place kind) := by
    cases flag with
    | some a => rfl
    | none => simp only [leaf?, covers.settings s (hflag rfl)]
  have hfile (file : FileSetting) :
      ((file.flag o).bind (host.resolvePath none) <|> json'.leaf? file.place toText?) =
        ((file.flag o).bind (host.resolvePath none) <|> json.leaf? file.place toText?) :=
    hlayer (.file file) toText? _ (flag_bind_eq_none_iff host).mp
  have hlogLevel := hlayer .logLevel toLevel? (o.logLevel.bind LogLevel.ofName?) fun hnone => by
    rw [← (flagLevel_ok hlevel).1] at hnone
    exact not_not_intro ((flagLevel_ok hlevel).2 hnone)
  have hfileLevel : json'.leaf? fileLevelPlace toLevel? = json.leaf? fileLevelPlace toLevel? := by
    simp only [leaf?, covers.fileLevel]
  simp only [Config.flagged, hfile, hlogLevel, hfileLevel]
  rw [hlayer .targetAddress toText? o.targetAddr not_not_intro,
    hlayer .targetValue toText? o.targetValue not_not_intro,
    hlayer .username toText? o.username not_not_intro,
    hlayer .password toText? o.password not_not_intro,
    hlayer .subscriptions toTexts? _ (by simp [Setting.IsGiven]),
    hlayer .collectorAddress toText? o.collectorAddr not_not_intro,
    hlayer .sourceAddress toText? o.sourceAddr not_not_intro,
    hlayer .tlsEnabled toBool? o.collectorTls not_not_intro,
    hlayer .skipVerify toBool? o.collectorTlsSkipVerify not_not_intro,
    hlayer .initialDelay toNumber? o.retryDelay not_not_intro,
    hlayer .maxDelay toNumber? o.retryMaxDelay not_not_intro,
    hlayer .dialTimeout toNumber? o.dialTimeout not_not_intro]

/-! ## Resolving -/

/-- The paths and addresses are those of the configuration. -/
structure Resolved.IsOf (r : Resolved) (config : Config) : Prop where
  subscribed : config.subscriptions ≠ []
  paths : config.subscriptions.mapM Config.subscriptionPath = .ok r.paths
  targetAddress : Address.validate config.target.address "target" = .ok r.targetAddress
  named : Text.trim config.collector.address ≠ ""
  collector : Address.parseCollector config.collector.address = .ok r.collector
  sourceAddress : (config.collector.sourceAddress.filter (Text.trim · ≠ "")).elim (.ok none)
    (fun value => (Address.validateSource value).map some) = .ok r.sourceAddress

lemma Resolved.IsOf.withTlsFiles {r : Resolved} {config : Config} (h : r.IsOf config)
    (file : FileSetting → Option String) : r.IsOf (config.withTlsFiles file) :=
  ⟨h.subscribed, h.paths, h.targetAddress, h.named, h.collector, h.sourceAddress⟩

lemma resolve_eq_ok {host : Host} {base : Option String} {config : Config} {settings : Settings} :
    Config.resolve host base config = .ok settings ↔
      settings.resolved.IsOf config ∧
      settings.config =
        config.withTlsFiles (fun file => (file.written config).bind (host.resolvePath base)) ∧
      settings.resolved.logFilePath = config.logging.filePath.bind (host.resolvePath base) := by
  simp only [Config.resolve, throw_or_eq_ok, bind_eq_ok, mapError_eq_ok]
  constructor
  · rintro ⟨hsubscribed, paths, hpaths, targetAddress, htarget, hnamed, collector, hcollector, h⟩
    split at h
    · next value hfilter =>
      obtain ⟨sourceAddress, hsource, hsettings⟩ := bind_eq_ok.mp h
      obtain ⟨address, haddress, rfl⟩ := map_eq_ok.mp hsource
      cases hsettings
      refine ⟨⟨hsubscribed, hpaths, htarget, hnamed, hcollector, ?_⟩, rfl, rfl⟩
      rw [hfilter, Option.elim_some]
      exact map_eq_ok.mpr ⟨address, mapError_eq_ok.mp haddress, rfl⟩
    · next hfilter =>
      cases h
      exact ⟨⟨hsubscribed, hpaths, htarget, hnamed, hcollector, by rw [hfilter, Option.elim_none]⟩,
        rfl, rfl⟩
  · obtain ⟨found, resolved⟩ := settings
    rintro ⟨isOf, hconfig, hlog⟩
    refine ⟨isOf.subscribed, _, isOf.paths, _, isOf.targetAddress, isOf.named, _, isOf.collector, ?_⟩
    have hsource := isOf.sourceAddress
    dsimp only at hconfig hlog hsource
    rw [hconfig, ← hlog]
    split
    · next value hfilter =>
      rw [hfilter, Option.elim_some] at hsource
      obtain ⟨address, haddress, hresolved⟩ := map_eq_ok.mp hsource
      refine bind_eq_ok.mpr ⟨some address, map_eq_ok.mpr ⟨address, ?_, rfl⟩, ?_⟩
      · exact mapError_eq_ok.mpr haddress
      · rw [hresolved]
        rfl
    · next hfilter =>
      rw [hfilter, Option.elim_none] at hsource
      injection hsource with hresolved
      refine bind_eq_ok.mpr ⟨none, rfl, ?_⟩
      rw [hresolved]
      rfl

/-! ## Loading -/

namespace Host

/-- The directory of the configuration file, if there is one. -/
def configDirectory (host : Host) (given : Option String) : Option String :=
  (host.configPath given).map fun file => .ofList (FilePath.directory file.toList)

/-- What the configuration file says; an empty object if there is no file. -/
def configContent (host : Host) (given : Option String) : Except ConfigFault Json :=
  match host.configPath given with
  | some file => Config.readFile host file
  | none => .ok (.object [])

end Host

lemma check_eq_ok {source : String} {json : Json} {config : Config} :
    Config.check source json = .ok config ↔ Config.ofJson json = .ok config :=
  mapError_eq_ok

lemma load_eq (host : Host) (given : Option String) (o : Overrides) :
    Config.load host given o = (do
      let json ← host.configContent given
      let base ← Config.check ((host.configPath given).getD "configuration") json
      let merged ← Config.override host base o
      let merged ← Config.check "command line" merged.toJson
      Config.resolve host (host.configDirectory given) merged) := by
  unfold Config.load Host.configContent Host.configDirectory
  cases host.configPath given <;> rfl

/-- A configuration is loaded if and only if the schema accepts the file, the level of a flag
exists, the schema accepts the numbers that flags and file give together, and what they give together
comes down to the outcome. -/
lemma load_eq_ok {host : Host} {given : Option String} {o : Overrides} {settings : Settings} :
    Config.load host given o = .ok settings ↔
      ∃ json, host.configContent given = .ok json ∧ (∃ base, Config.ofJson json = .ok base) ∧
        (∃ level, Config.flagLevel o.logLevel = .ok level) ∧
        (Config.flagged host json o).HasCounts ∧
        Config.resolve host (host.configDirectory given) (.flagged host json o) = .ok settings := by
  simp only [load_eq, bind_eq_ok, check_eq_ok, Config.ofJson_toJson]
  constructor
  · rintro ⟨json, hjson, base, hbase, merged, hmerged, _, ⟨hcounts, rfl⟩, hresolve⟩
    have hbase' := Config.ofJson_finds hbase
    rw [hbase', override_ofLeaves] at hmerged
    obtain ⟨hlevel, rfl⟩ := hmerged
    exact ⟨json, hjson, ⟨base, hbase⟩, hlevel, hcounts, hresolve⟩
  · rintro ⟨json, hjson, ⟨base, hbase⟩, hlevel, hcounts, hresolve⟩
    have hmerged : Config.override host base o = .ok (.flagged host json o) := by
      rw [Config.ofJson_finds hbase]
      exact override_ofLeaves.mpr ⟨hlevel, rfl⟩
    exact ⟨json, hjson, base, hbase, _, hmerged, _, ⟨hcounts, rfl⟩, hresolve⟩

/-! ## File paths -/

section

variable {host host' : Host} {given given' base : Option String} {json : Json} {o o' : Overrides}
  {settings : Settings} {file : FileSetting}

lemma written_flagged : file.written (.flagged host json o) =
    ((file.flag o).bind (host.resolvePath none) <|> json.leaf? file.place toText?) := by
  cases file <;> rfl

/-- A path that a flag gives is absolute already when the base directory comes in. -/
lemma written_flagged_bind (rooted : host.IsRooted) :
    (file.written (.flagged host json o)).bind (host.resolvePath base) =
      (file.fromFlag host o <|> file.fromFile host base json) := by
  rw [written_flagged, FileSetting.fromFlag, FileSetting.fromFile]
  cases h : (file.flag o).bind (host.resolvePath none) with
  | none => rfl
  | some path =>
    obtain ⟨value, -, hvalue⟩ := Option.bind_eq_some_iff.mp h
    change host.resolvePath base path = (host.resolvePath none path <|> _)
    rw [Host.resolvePath_resolved rooted hvalue, Host.resolvePath_resolved rooted hvalue]
    rfl

lemma used_of_resolve (rooted : host.IsRooted)
    (h : Config.resolve host base (.flagged host json o) = .ok settings) :
    file.used settings = (file.fromFlag host o <|> file.fromFile host base json) := by
  obtain ⟨-, hconfig, hlog⟩ := resolve_eq_ok.mp h
  rw [← written_flagged_bind rooted]
  cases file with
  | logFile => exact hlog
  | _ =>
    rw [FileSetting.used, hconfig]
    rfl

lemma fromFlag_eq_none_iff (rooted : host.IsRooted) :
    file.fromFlag host o = none ↔ ¬(Setting.file file).IsGiven o := by
  rw [← flag_bind_eq_none_iff host, FileSetting.fromFlag]
  cases h : (file.flag o).bind (host.resolvePath none) with
  | none => simp
  | some path =>
    obtain ⟨value, -, hvalue⟩ := Option.bind_eq_some_iff.mp h
    rw [Option.bind_some, Host.resolvePath_resolved rooted hvalue]
    simp

lemma fromFlag_congr (cwd : host'.cwd = host.cwd) (home : host'.home = host.home)
    (flag : file.flag o' = file.flag o) : file.fromFlag host' o' = file.fromFlag host o := by
  have hresolve : host'.resolvePath none = host.resolvePath none := by
    funext value
    simp only [Host.resolvePath, cwd, home]
  rw [FileSetting.fromFlag, FileSetting.fromFlag, flag, hresolve]

/-- Seen from the directory of the configuration file, the working directory does not matter. -/
lemma fromFile_congr (rooted : host.IsRooted) (home : host'.home = host.home)
    (content : host.configContent given = .ok json) :
    file.fromFile host' (host.configDirectory given) json =
      file.fromFile host (host.configDirectory given) json := by
  unfold FileSetting.fromFile Host.configDirectory
  cases hfile : host.configPath given with
  | none =>
    have hempty : json = .object [] := by
      simpa [Host.configContent, hfile] using content.symm
    subst hempty
    cases file <;> rfl
  | some path =>
    have habsolute := FilePath.isAbsolute_directory (Host.isAbsolute_configPath rooted hfile)
    rw [Option.map_some]
    congr 1
    funext value
    exact Host.resolvePath_of_isAbsolute_base (by rwa [String.toList_ofList]) home

end

/-! ## Precedence -/

section

variable {host host' : Host} {given given' : Option String} {json json' : Json} {o o' : Overrides}
  {settings settings' : Settings}

/-- Flags over the file over the defaults. -/
lemma layered_of_load (rooted : host.IsRooted) (content : host.configContent given = .ok json)
    (loaded : Config.load host given o = .ok settings) :
    settings.config = .layered host (host.configDirectory given) json o ∧
      settings.resolved.IsOf settings.config ∧
      ∀ file : FileSetting, file.used settings =
        (file.fromFlag host o <|> file.fromFile host (host.configDirectory given) json) := by
  obtain ⟨found, hfound, -, -, -, hresolve⟩ := load_eq_ok.mp loaded
  cases hfound.symm.trans content
  obtain ⟨hisOf, hconfig, -⟩ := resolve_eq_ok.mp hresolve
  refine ⟨?_, ?_, fun file => used_of_resolve rooted hresolve⟩
  · rw [hconfig, Config.layered]
    congr 1
    funext file
    exact written_flagged_bind rooted
  · rw [hconfig]
    exact hisOf.withTlsFiles _

/-- The file can be changed where flags speak. -/
lemma load_of_covers (loaded : Config.load host given o = .ok settings)
    (content : host.configContent given = .ok json) {read : String → Except String Bytes}
    (content' : { host with read }.configContent given = .ok json')
    (accepted : ∃ base, Config.ofJson json' = .ok base) (covers : o.Covers json json') :
    Config.load { host with read } given o = .ok settings := by
  obtain ⟨found, hfound, -, ⟨level, hlevel⟩, hcounts, hresolve⟩ := load_eq_ok.mp loaded
  cases hfound.symm.trans content
  have hsame : Config.flagged { host with read } json' o = .flagged host json o :=
    flagged_of_covers covers hlevel
  refine load_eq_ok.mpr ⟨json', content', accepted, ⟨level, hlevel⟩, ?_, ?_⟩
  · rwa [hsame]
  · rw [hsame]
    exact hresolve

/-- A file path of a flag stays the same wherever the configuration file is. -/
lemma used_of_given (rooted : host.IsRooted) (loaded : Config.load host given o = .ok settings)
    (loaded' : Config.load host' given' o' = .ok settings') (cwd : host'.cwd = host.cwd)
    (home : host'.home = host.home) {file : FileSetting} (isGiven : (Setting.file file).IsGiven o)
    (flag : file.flag o' = file.flag o) : file.used settings' = file.used settings := by
  have rooted' : host'.IsRooted := ⟨cwd ▸ rooted.cwd, home ▸ rooted.home⟩
  obtain ⟨_, -, -, -, -, hresolve⟩ := load_eq_ok.mp loaded
  obtain ⟨_, -, -, -, -, hresolve'⟩ := load_eq_ok.mp loaded'
  rw [used_of_resolve rooted hresolve, used_of_resolve rooted' hresolve',
    fromFlag_congr cwd home flag]
  cases h : file.fromFlag host o with
  | none => exact absurd isGiven ((fromFlag_eq_none_iff rooted).mp h)
  | some path => rfl

/-- With the same configuration file, a configuration is loaded wherever the bridge runs, and the
file paths of the configuration file stay the same. -/
lemma load_elsewhere (rooted : host.IsRooted) (loaded : Config.load host given o = .ok settings)
    (rooted' : host'.IsRooted) (home : host'.home = host.home) (read : host'.read = host.read)
    (file : host'.configPath given' = host.configPath given) :
    ∃ settings', Config.load host' given' o = .ok settings' ∧
      ∀ file : FileSetting, ¬(Setting.file file).IsGiven o →
        file.used settings' = file.used settings := by
  obtain ⟨json, hjson, hbase, hlevel, hcounts, hresolve⟩ := load_eq_ok.mp loaded
  have hcontent : host'.configContent given' = .ok json := by
    rw [← hjson]
    simp only [Host.configContent, file, Config.readFile, read]
  have hdirectory : host'.configDirectory given' = host.configDirectory given := by
    rw [Host.configDirectory, Host.configDirectory, file]
  let config := Config.flagged host' json o
  let base := host.configDirectory given
  let settings' : Settings :=
    { config := config.withTlsFiles fun file => (file.written config).bind (host'.resolvePath base)
      resolved := { settings.resolved with
        logFilePath := config.logging.filePath.bind (host'.resolvePath base) } }
  have hresolve' : Config.resolve host' base config = .ok settings' := by
    obtain ⟨isOf, -, -⟩ := resolve_eq_ok.mp hresolve
    exact resolve_eq_ok.mpr ⟨⟨isOf.subscribed, isOf.paths, isOf.targetAddress, isOf.named,
      isOf.collector, isOf.sourceAddress⟩, rfl, rfl⟩
  refine ⟨settings', load_eq_ok.mpr ⟨json, hcontent, hbase, hlevel, ?_, ?_⟩, ?_⟩
  · exact ⟨hcounts.initialDelay, hcounts.maxDelay, hcounts.dialTimeout⟩
  · rwa [hdirectory]
  · intro file left
    rw [used_of_resolve rooted hresolve, used_of_resolve rooted' hresolve',
      (fromFlag_eq_none_iff rooted).mpr left, (fromFlag_eq_none_iff rooted').mpr left,
      fromFile_congr rooted home hjson]

end

/-- Let home and working directory be absolute, and let a configuration be loaded. Every field is
the one a flag gives, or else the one of the file, or else the default; the level of the log file is
never given by a flag. So the outcome stays the same when the file changes where flags speak. A file
path of a flag stays the same wherever the configuration file is, and one of the configuration file
stays the same wherever the bridge runs, as long as it is the same file; an absolute name always
names the same file. -/
theorem flags_over_file_over_defaults {host : Host} {given : Option String} {o : Overrides}
    {settings : Settings} (rooted : host.IsRooted)
    (loaded : Config.load host given o = .ok settings) :
    (∃ json, host.configContent given = .ok json ∧
      settings.config = .layered host (host.configDirectory given) json o ∧
      settings.resolved.IsOf settings.config ∧
      (∀ file : FileSetting, file.used settings =
        (file.fromFlag host o <|> file.fromFile host (host.configDirectory given) json)) ∧
      (∀ file : FileSetting, file.fromFlag host o = none ↔ ¬(Setting.file file).IsGiven o) ∧
      ∀ read json', { host with read }.configContent given = .ok json' →
        (∃ base, Config.ofJson json' = .ok base) → o.Covers json json' →
        Config.load { host with read } given o = .ok settings) ∧
    (∀ (host' : Host) (given' : Option String) (o' : Overrides) (settings' : Settings),
      host'.cwd = host.cwd → host'.home = host.home →
      Config.load host' given' o' = .ok settings' →
      ∀ file : FileSetting, (Setting.file file).IsGiven o → file.flag o' = file.flag o →
        file.used settings' = file.used settings) ∧
    (∀ (host' : Host) (given' : Option String), host'.IsRooted → host'.home = host.home →
      host'.read = host.read → host'.configPath given' = host.configPath given →
      ∃ settings', Config.load host' given' o = .ok settings' ∧
        ∀ file : FileSetting, ¬(Setting.file file).IsGiven o →
          file.used settings' = file.used settings) ∧
    ∀ (host' : Host) (path : String), FilePath.isAbsolute (Text.trimChars path.toList) = true →
      host'.configPath (some path) = host.configPath (some path) := by
  obtain ⟨json, hjson, -⟩ := load_eq_ok.mp loaded
  obtain ⟨hconfig, hisOf, hused⟩ := layered_of_load rooted hjson loaded
  refine ⟨⟨json, hjson, hconfig, hisOf, hused, fun _ => fromFlag_eq_none_iff rooted, ?_⟩,
    ?_, ?_, ?_⟩
  · intro read json' content' accepted covers
    exact load_of_covers loaded hjson content' accepted covers
  · intro host' given' o' settings' cwd home loaded' file isGiven flag
    exact used_of_given rooted loaded loaded' cwd home isGiven flag
  · intro host' given' rooted' home read file
    exact load_elsewhere rooted loaded rooted' home read file
  · intro host' path absolute
    exact Host.configPath_of_isAbsolute absolute

/-- A flag names the authorities and leaves the certificate blank; the file names both. -/
theorem paths_of_flag_and_file :
    let file :=
      "\x7b\"collector\":\x7b\"tls\":\x7b\"certFile\":\"c/c.pem\",\"caFile\":\"ca\"\x7d\x7d\x7d"
    let host : Host :=
      { cwd := "/work", home := "/home/u", configVariable := none
        read := fun path => if path = "/etc/c.json" then .ok (Text.utf8 file) else .error "absent" }
    let o : Overrides :=
      { subscribe := ["/a"], collectorAddr := some "c:1"
        collectorCertFile := some " ", collectorCaFile := some "./ca.pem" }
    host.IsRooted ∧ ∃ settings, Config.load host (some "/etc/c.json") o = .ok settings ∧
      FileSetting.caFile.used settings = some "/work/ca.pem" ∧
      FileSetting.certFile.used settings = some "/etc/c/c.pem" ∧
      settings.config.subscriptions = ["/a"] ∧
      ∃ settings', Config.load { host with cwd := "/" } (some "/etc/c.json") o = .ok settings' ∧
        FileSetting.certFile.used settings' = some "/etc/c/c.pem" := by
  intro file host o
  have rooted : host.IsRooted := ⟨by decide, by decide⟩
  have hok : (Config.load host (some "/etc/c.json") o).toOption.isSome = true := by
    decide +kernel
  obtain ⟨settings, hsome⟩ := Option.isSome_iff_exists.mp hok
  have loaded : Config.load host (some "/etc/c.json") o = .ok settings :=
    toOption_eq_some.mp hsome
  obtain ⟨⟨json, hjson, hconfig, -, hused, -⟩, -, helsewhere, habsolute⟩ :=
    flags_over_file_over_defaults rooted loaded
  have hcert : json.leaf? FileSetting.certFile.place toText? = some "c/c.pem" := by
    have hleaf : (host.configContent (some "/etc/c.json")).toOption.bind
        (·.leaf? FileSetting.certFile.place toText?) = some "c/c.pem" := by
      decide +kernel
    rwa [hjson] at hleaf
  have usedCa : FileSetting.caFile.used settings = some "/work/ca.pem" := by
    have hflag : FileSetting.caFile.fromFlag host o = some "/work/ca.pem" := by decide +kernel
    rw [hused, hflag]
    rfl
  have usedCert : FileSetting.certFile.used settings = some "/etc/c/c.pem" := by
    rw [hused, FileSetting.fromFile, hcert]
    decide +kernel
  have subscriptions : settings.config.subscriptions = ["/a"] := by
    rw [hconfig]
    rfl
  obtain ⟨settings', loaded', hsame⟩ := helsewhere { host with cwd := "/" } (some "/etc/c.json")
    ⟨by decide, by decide⟩ rfl rfl (habsolute _ _ (by decide))
  have left : ¬(Setting.file .certFile).IsGiven o := by
    rintro ⟨value, hvalue, hblank⟩
    cases hvalue
    exact hblank (by decide)
  exact ⟨rooted, settings, loaded, usedCa, usedCert, subscriptions, settings', loaded',
    (hsame .certFile left).trans usedCert⟩

end TelemetryBridge
