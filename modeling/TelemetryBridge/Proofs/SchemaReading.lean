import Mathlib.Data.List.Basic
import TelemetryBridge.Config.Schema
import TelemetryBridge.Proofs.Outcomes

/-!
# Reading by the schema

What the schema accepts is read leaf by leaf: every field of the configuration is the leaf at its
place in the file, or its default where the file has none. A configuration that is written as JSON
is accepted if its numbers are, and is read as itself.
-/

namespace TelemetryBridge

namespace Json

variable {α : Type}

/-- The value that is found by following names through objects. -/
def at? : List String → Json → Option Json
  | [], json => some json
  | name :: place, object members => (member? name members).bind (at? place)
  | _ :: _, _ => none

def toText? : Json → Option String
  | text s => some s
  | _ => none

def toBool? : Json → Option Bool
  | bool b => some b
  | _ => none

def toNumber? : Json → Option Number
  | number n => some n
  | _ => none

def toLevel? (json : Json) : Option LogLevel := json.toText?.bind LogLevel.ofName?

def toTexts? : Json → Option (List String)
  | array items => items.mapM toText?
  | _ => none

/-- The leaf at a place, if there is one of its kind. -/
def leaf? (json : Json) (place : List String) (kind : Json → Option α) : Option α :=
  (json.at? place).bind kind

lemma at?_object (name : String) (members : List (String × Json)) :
    (object members).at? [name] = member? name members := by
  cases h : member? name members <;> simp [at?, h]

lemma leaf?_object (name : String) (members : List (String × Json)) (kind : Json → Option α) :
    (object members).leaf? [name] kind = (member? name members).bind kind := by
  rw [leaf?, at?_object]

/-- What stands in a section of the file. -/
lemma at?_bind_at? (json : Json) (outer inner : List String) :
    ((json.at? outer).bind fun found => found.at? inner) = json.at? (outer ++ inner) := by
  induction outer generalizing json with
  | nil => rfl
  | cons name outer ih =>
    cases json with
    | object members =>
      cases h : member? name members with
      | none => simp [at?, h]
      | some found => simpa [at?, h] using ih found
    | _ => rfl

lemma at?_bind_leaf? (json : Json) (outer inner : List String) (kind : Json → Option α) :
    ((json.at? outer).bind fun found => found.leaf? inner kind) =
      json.leaf? (outer ++ inner) kind := by
  rw [leaf?, ← at?_bind_at?, Option.bind_assoc]
  rfl

end Json

/-! ## Sections by their leaves -/

open Json

def TlsConfig.ofLeaves (json : Option Json) : TlsConfig where
  enabled := (json.bind (·.leaf? ["enabled"] toBool?)).getD ({} : TlsConfig).enabled
  skipVerify := (json.bind (·.leaf? ["skipVerify"] toBool?)).getD ({} : TlsConfig).skipVerify
  certFile := json.bind (·.leaf? ["certFile"] toText?)
  keyFile := json.bind (·.leaf? ["keyFile"] toText?)
  caFile := json.bind (·.leaf? ["caFile"] toText?)

def TargetConfig.ofLeaves (json : Option Json) : TargetConfig where
  address := (json.bind (·.leaf? ["address"] toText?)).getD ({} : TargetConfig).address
  value := (json.bind (·.leaf? ["value"] toText?)).getD ({} : TargetConfig).value
  username := json.bind (·.leaf? ["username"] toText?)
  password := json.bind (·.leaf? ["password"] toText?)

def CollectorConfig.ofLeaves (json : Option Json) : CollectorConfig where
  address := (json.bind (·.leaf? ["address"] toText?)).getD ({} : CollectorConfig).address
  sourceAddress := json.bind (·.leaf? ["sourceAddress"] toText?)
  tls := .ofLeaves (json.bind (·.at? ["tls"]))

def RetryConfig.ofLeaves (json : Option Json) : RetryConfig where
  initialDelayMs :=
    (json.bind (·.leaf? ["initialDelayMs"] toNumber?)).getD ({} : RetryConfig).initialDelayMs
  maxDelayMs := (json.bind (·.leaf? ["maxDelayMs"] toNumber?)).getD ({} : RetryConfig).maxDelayMs

def LoggingConfig.ofLeaves (json : Option Json) : LoggingConfig where
  level := (json.bind (·.leaf? ["level"] toLevel?)).getD ({} : LoggingConfig).level
  filePath := json.bind (·.leaf? ["filePath"] toText?)
  fileLevel := json.bind (·.leaf? ["fileLevel"] toLevel?)

def Config.ofLeaves (json : Json) : Config where
  target := .ofLeaves (json.at? ["target"])
  subscriptions := (json.leaf? ["subscriptions"] toTexts?).getD ({} : Config).subscriptions
  collector := .ofLeaves (json.at? ["collector"])
  retry := .ofLeaves (json.at? ["retry"])
  dialTimeoutMs := (json.leaf? ["dialTimeoutMs"] toNumber?).getD ({} : Config).dialTimeoutMs
  logging := .ofLeaves (json.at? ["logging"])

/-- A whole number that is not negative, or positive if asked for. -/
def Number.IsCount (positive : Bool) (n : Number) : Prop :=
  n.isInteger = true ∧ (if positive then Number.lt 0 n else Number.le 0 n) = true

/-! ## Rules -/

lemma Checked.and_eq_ok {α β : Type} {x : Checked α} {y : Checked β} {a : α} {b : β} :
    x.and y = .ok (a, b) ↔ x = .ok a ∧ y = .ok b := by
  cases x <;> cases y <;> simp [Checked.and]

namespace Schema

variable {α : Type} {place : List String} {json : Json} {members : List (String × Json)}

/-- What the rule accepts is what is found in the file. -/
def Rule.Finds (rule : Rule α) (kind : Json → Option α) : Prop :=
  ∀ (place : List String) (json : Json) (a : α), rule place json = .ok a → kind json = some a

lemma text_finds : Rule.Finds text toText? := by
  intro place json a h
  cases json <;> cases h
  rfl

lemma bool_finds : Rule.Finds bool toBool? := by
  intro place json a h
  cases json <;> cases h
  rfl

lemma integer_number {positive : Bool} {n a : Number} :
    integer positive place (.number n) = .ok a ↔ n.IsCount positive ∧ n = a := by
  cases positive with
  | false => cases hwhole : n.isInteger <;> cases hrange : Number.le 0 n <;>
      simp [integer, Number.IsCount, hwhole, hrange]
  | true => cases hwhole : n.isInteger <;> cases hrange : Number.lt 0 n <;>
      simp [integer, Number.IsCount, hwhole, hrange]

lemma integer_finds (positive : Bool) : Rule.Finds (integer positive) toNumber? := by
  intro place json a h
  cases json with
  | number n => rw [toNumber?, (integer_number.mp h).2]
  | _ => cases h

lemma level_finds : Rule.Finds level toLevel? := by
  intro place json a h
  cases json with
  | text s =>
    dsimp only [level] at h
    split at h
    · next hname =>
      cases h
      exact hname
    · cases h
  | _ => cases h

lemma list_finds : Rule.Finds (list text) toTexts? := by
  intro place json texts h
  cases json with
  | array elements =>
    change items text place 0 elements = .ok texts at h
    generalize 0 = n at h
    induction elements generalizing n texts with
    | nil =>
      cases h
      rfl
    | cons json rest ih =>
      obtain ⟨⟨a, as⟩, hand, rfl⟩ := map_eq_ok.mp h
      obtain ⟨hfirst, hrest⟩ := Checked.and_eq_ok.mp hand
      have htext := text_finds _ _ _ hfirst
      have htexts : rest.mapM toText? = some as := ih as (n + 1) hrest
      simp [toTexts?, List.mapM_cons, htext, htexts]
  | _ => cases h

lemma withDefault_finds {rule : Rule α} {kind : Json → Option α} (h : rule.Finds kind)
    {default a : α} {name : String} (ok : withDefault rule default name place members = .ok a) :
    a = ((member? name members).bind kind).getD default := by
  unfold withDefault at ok
  split at ok
  · next hnone =>
    cases ok
    rw [hnone]
    rfl
  · next json hsome =>
    rw [hsome, Option.bind_some, h _ _ _ ok, Option.getD_some]

lemma optional_finds {rule : Rule α} {kind : Json → Option α} (h : rule.Finds kind) {a : Option α}
    {name : String} (ok : optional rule name place members = .ok a) :
    a = (member? name members).bind kind := by
  unfold optional at ok
  split at ok
  · next hnone =>
    cases ok
    rw [hnone]
    rfl
  · next json hsome =>
    obtain ⟨a, hok, rfl⟩ := map_eq_ok.mp ok
    rw [hsome, Option.bind_some, h _ _ _ hok]

/-- A section that is left out has the defaults of its fields. -/
lemma section_finds {rule : Rule α} {ofLeaves : Option Json → α} {default a : α} {name : String}
    (h : rule.Finds fun json => some (ofLeaves (some json))) (left : ofLeaves none = default)
    (ok : withDefault rule default name place members = .ok a) :
    a = ofLeaves ((Json.object members).at? [name]) := by
  rw [withDefault_finds h ok, at?_object]
  cases member? name members with
  | none => exact left.symm
  | some json => rfl

/-! ## Sections -/

lemma tls_finds : Rule.Finds tls fun json => some (.ofLeaves (some json)) := by
  intro place json t h
  cases json with
  | object members =>
    obtain ⟨⟨⟨enabled, skipVerify⟩, certFile, keyFile, caFile⟩, hand, rfl⟩ := map_eq_ok.mp h
    obtain ⟨hflags, hfiles⟩ := Checked.and_eq_ok.mp hand
    obtain ⟨henabled, hskip⟩ := Checked.and_eq_ok.mp hflags
    obtain ⟨hcert, hfiles⟩ := Checked.and_eq_ok.mp hfiles
    obtain ⟨hkey, hca⟩ := Checked.and_eq_ok.mp hfiles
    simp only [TlsConfig.ofLeaves, Option.bind_some, leaf?_object]
    rw [withDefault_finds bool_finds henabled, withDefault_finds bool_finds hskip,
      optional_finds text_finds hcert, optional_finds text_finds hkey,
      optional_finds text_finds hca]
  | _ => cases h

lemma target_finds : Rule.Finds target fun json => some (.ofLeaves (some json)) := by
  intro place json t h
  cases json with
  | object members =>
    obtain ⟨⟨⟨address, value⟩, username, password⟩, hand, rfl⟩ := map_eq_ok.mp h
    obtain ⟨hdefaults, hoptional⟩ := Checked.and_eq_ok.mp hand
    obtain ⟨haddress, hvalue⟩ := Checked.and_eq_ok.mp hdefaults
    obtain ⟨husername, hpassword⟩ := Checked.and_eq_ok.mp hoptional
    simp only [TargetConfig.ofLeaves, Option.bind_some, leaf?_object]
    rw [withDefault_finds text_finds haddress, withDefault_finds text_finds hvalue,
      optional_finds text_finds husername, optional_finds text_finds hpassword]
  | _ => cases h

lemma collector_finds : Rule.Finds collector fun json => some (.ofLeaves (some json)) := by
  intro place json c h
  cases json with
  | object members =>
    obtain ⟨⟨address, sourceAddress, security⟩, hand, rfl⟩ := map_eq_ok.mp h
    obtain ⟨haddress, hrest⟩ := Checked.and_eq_ok.mp hand
    obtain ⟨hsource, htls⟩ := Checked.and_eq_ok.mp hrest
    simp only [CollectorConfig.ofLeaves, Option.bind_some, leaf?_object]
    rw [withDefault_finds text_finds haddress, optional_finds text_finds hsource,
      section_finds tls_finds rfl htls]
  | _ => cases h

lemma retry_finds : Rule.Finds retry fun json => some (.ofLeaves (some json)) := by
  intro place json r h
  cases json with
  | object members =>
    obtain ⟨⟨initialDelayMs, maxDelayMs⟩, hand, rfl⟩ := map_eq_ok.mp h
    obtain ⟨hinitial, hmax⟩ := Checked.and_eq_ok.mp hand
    simp only [RetryConfig.ofLeaves, Option.bind_some, leaf?_object]
    rw [withDefault_finds (integer_finds false) hinitial,
      withDefault_finds (integer_finds true) hmax]
  | _ => cases h

lemma logging_finds : Rule.Finds logging fun json => some (.ofLeaves (some json)) := by
  intro place json l h
  cases json with
  | object members =>
    obtain ⟨⟨threshold, filePath, fileLevel⟩, hand, rfl⟩ := map_eq_ok.mp h
    obtain ⟨hlevel, hrest⟩ := Checked.and_eq_ok.mp hand
    obtain ⟨hpath, hfileLevel⟩ := Checked.and_eq_ok.mp hrest
    simp only [LoggingConfig.ofLeaves, Option.bind_some, leaf?_object]
    rw [withDefault_finds level_finds hlevel, optional_finds text_finds hpath,
      optional_finds level_finds hfileLevel]
  | _ => cases h

end Schema

/-- A configuration that is read from a file has the leaves of the file. -/
theorem Config.ofJson_finds {json : Json} {config : Config} (h : ofJson json = .ok config) :
    config = .ofLeaves json := by
  cases json with
  | object members =>
    obtain ⟨⟨target, subscriptions, collector, retry, dialTimeoutMs, logging⟩, hand, rfl⟩ :=
      map_eq_ok.mp h
    obtain ⟨htarget, hand⟩ := Checked.and_eq_ok.mp hand
    obtain ⟨hsubscriptions, hand⟩ := Checked.and_eq_ok.mp hand
    obtain ⟨hcollector, hand⟩ := Checked.and_eq_ok.mp hand
    obtain ⟨hretry, hand⟩ := Checked.and_eq_ok.mp hand
    obtain ⟨hdial, hlogging⟩ := Checked.and_eq_ok.mp hand
    simp only [Config.ofLeaves, leaf?_object]
    rw [Schema.section_finds Schema.target_finds rfl htarget,
      Schema.withDefault_finds Schema.list_finds hsubscriptions,
      Schema.section_finds Schema.collector_finds rfl hcollector,
      Schema.section_finds Schema.retry_finds rfl hretry,
      Schema.withDefault_finds (Schema.integer_finds false) hdial,
      Schema.section_finds Schema.logging_finds rfl hlogging]
  | _ => cases h

/-! ## Writing and reading -/

namespace Config

variable {place : List String}

lemma tls_tlsJson (t : TlsConfig) : Schema.tls place (tlsJson t) = .ok t := by
  obtain ⟨enabled, skipVerify, certFile, keyFile, caFile⟩ := t
  cases certFile <;> cases keyFile <;> cases caFile <;> rfl

lemma target_targetJson (t : TargetConfig) : Schema.target place (targetJson t) = .ok t := by
  obtain ⟨address, value, username, password⟩ := t
  cases username <;> cases password <;> rfl

lemma collector_collectorJson (c : CollectorConfig) :
    Schema.collector place (collectorJson c) = .ok c := by
  obtain ⟨address, sourceAddress, tls⟩ := c
  refine map_eq_ok.mpr ⟨(address, sourceAddress, tls), ?_, rfl⟩
  refine Checked.and_eq_ok.mpr ⟨?_, Checked.and_eq_ok.mpr ⟨?_, ?_⟩⟩
  · cases sourceAddress <;> rfl
  · cases sourceAddress <;> rfl
  · cases sourceAddress <;> exact tls_tlsJson tls

lemma logging_loggingJson (l : LoggingConfig) : Schema.logging place (loggingJson l) = .ok l := by
  obtain ⟨level, filePath, fileLevel⟩ := l
  cases level <;> cases filePath <;> rcases fileLevel with _ | _ | _ <;> rfl

lemma list_texts (texts : List String) :
    Schema.list Schema.text place (.array (texts.map .text)) = .ok texts := by
  change Schema.items Schema.text place 0 (texts.map .text) = .ok texts
  generalize 0 = n
  induction texts generalizing n with
  | nil => rfl
  | cons s texts ih =>
    rw [List.map_cons, Schema.items, ih]
    rfl

lemma retry_retryJson {r r' : RetryConfig} : Schema.retry place (retryJson r) = .ok r' ↔
    (r.initialDelayMs.IsCount false ∧ r.maxDelayMs.IsCount true) ∧ r = r' := by
  have hread : Schema.retry place (retryJson r) =
      ((Schema.integer false (place ++ ["initialDelayMs"]) (.number r.initialDelayMs)).and
        (Schema.integer true (place ++ ["maxDelayMs"]) (.number r.maxDelayMs))).map
          fun delays => ⟨delays.1, delays.2⟩ := rfl
  rw [hread, map_eq_ok]
  constructor
  · rintro ⟨⟨initialDelayMs, maxDelayMs⟩, hand, rfl⟩
    obtain ⟨hinitial, hmax⟩ := Checked.and_eq_ok.mp hand
    obtain ⟨hdelay, rfl⟩ := Schema.integer_number.mp hinitial
    obtain ⟨hlimit, rfl⟩ := Schema.integer_number.mp hmax
    exact ⟨⟨hdelay, hlimit⟩, rfl⟩
  · rintro ⟨⟨hinitial, hmax⟩, rfl⟩
    exact ⟨(r.initialDelayMs, r.maxDelayMs), Checked.and_eq_ok.mpr
      ⟨Schema.integer_number.mpr ⟨hinitial, rfl⟩, Schema.integer_number.mpr ⟨hmax, rfl⟩⟩, rfl⟩

/-- The numbers of a configuration are those the schema admits. -/
structure HasCounts (config : Config) : Prop where
  initialDelay : config.retry.initialDelayMs.IsCount false
  maxDelay : config.retry.maxDelayMs.IsCount true
  dialTimeout : config.dialTimeoutMs.IsCount false

/-- A configuration written as JSON is accepted if its numbers are, and is read as itself. -/
theorem ofJson_toJson {config config' : Config} :
    ofJson config.toJson = .ok config' ↔ config.HasCounts ∧ config = config' := by
  have htarget : Schema.withDefault Schema.target {} "target" [] config.members =
      .ok config.target := target_targetJson config.target
  have hsubscriptions : Schema.withDefault (Schema.list Schema.text) [] "subscriptions" []
      config.members = .ok config.subscriptions := list_texts config.subscriptions
  have hcollector : Schema.withDefault Schema.collector {} "collector" [] config.members =
      .ok config.collector := collector_collectorJson config.collector
  have hretry : Schema.withDefault Schema.retry {} "retry" [] config.members =
      Schema.retry ["retry"] (retryJson config.retry) := rfl
  have hdial : Schema.withDefault (Schema.integer false) 0 "dialTimeoutMs" [] config.members =
      Schema.integer false ["dialTimeoutMs"] (.number config.dialTimeoutMs) := rfl
  have hlogging : Schema.withDefault Schema.logging {} "logging" [] config.members =
      .ok config.logging := logging_loggingJson config.logging
  change Except.map _ _ = _ ↔ _
  simp only [map_eq_ok, Prod.exists, Checked.and_eq_ok, htarget, hsubscriptions,
    hcollector, hretry, hdial, hlogging, retry_retryJson, Schema.integer_number, Except.ok.injEq]
  constructor
  · rintro ⟨_, _, _, _, _, _, ⟨rfl, rfl, rfl, ⟨⟨hinitial, hmax⟩, rfl⟩, ⟨hdial, rfl⟩, rfl⟩, rfl⟩
    exact ⟨⟨hinitial, hmax, hdial⟩, rfl⟩
  · rintro ⟨⟨hinitial, hmax, hdial⟩, rfl⟩
    exact ⟨_, _, _, _, _, _, ⟨rfl, rfl, rfl, ⟨⟨hinitial, hmax⟩, rfl⟩, ⟨hdial, rfl⟩, rfl⟩, rfl⟩

end Config

end TelemetryBridge
