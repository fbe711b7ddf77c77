import TelemetryBridge.Credentials
import TelemetryBridge.Proofs.Outcomes

/-!
# Credentials and their files

Credentials are what the settings ask for, made of the files that the settings name, or they are
refused for a cause. No file is read that is not needed.
-/

namespace TelemetryBridge

namespace Armor

lemma cutAt_eq {mark cs before after : List Char} (h : cutAt mark cs = some (before, after)) :
    cs = before ++ mark ++ after := by
  induction cs generalizing before after with
  | nil => cases h
  | cons c cs ih =>
    rw [cutAt] at h
    split at h
    · next hmark =>
      obtain ⟨rest, hrest⟩ := List.isPrefixOf_iff_prefix.mp hmark
      cases h
      rw [← hrest, List.drop_left, List.nil_append]
    · obtain ⟨⟨before', after'⟩, hcut, heq⟩ := Option.map_eq_some_iff.mp h
      cases heq
      rw [ih hcut]
      rfl

/-- A certificate block is a piece of the text. -/
lemma certificateBlocks_infix {cs : List Char} :
    ∀ block ∈ certificateBlocks cs, block <:+: cs := by
  fun_induction certificateBlocks cs with
  | case1 | case2 | case3 => simp
  | case4 cs before c body hbegin inner after hend ih =>
    have hcs : cs = before ++ (certificateBegin ++ c :: inner ++ certificateEnd) ++ after := by
      rw [cutAt_eq hbegin, cutAt_eq hend]
      simp
    intro block hmem
    rcases List.mem_cons.mp hmem with rfl | hmem
    · exact ⟨before, after, hcs.symm⟩
    · have hafter : after <:+ cs := ⟨_, hcs.symm⟩
      exact (ih block hmem).trans hafter.isInfix

end Armor

namespace Credentials

/-! ## Files that are read -/

/-- Reads files and keeps a list of them. -/
def recording (read : FileReader) (file : String) : StateM (List String) (Except String Bytes) := do
  modify (· ++ [file])
  return read file

/-- A program has the result and reads the files that are wanted, in order, up to where it fails. -/
def Reads {α : Type} (program : ExceptT CredentialFault (StateM (List String)) α)
    (result : Except CredentialFault α) (wanted : List String) : Prop :=
  ∃ files, (∀ seen, program.run.run seen = (result, seen ++ files)) ∧ files <+: wanted ∧
    ∀ a, result = .ok a → files = wanted

section

variable {α β : Type} {program : ExceptT CredentialFault (StateM (List String)) α}
  {result : Except CredentialFault α} {wanted : List String}

lemma reads_pure (a : α) : Reads (pure a) (.ok a) [] :=
  ⟨[], fun seen => by rw [List.append_nil]; rfl, List.prefix_refl _, fun _ _ => rfl⟩

lemma reads_throw (fault : CredentialFault) : Reads (α := α) (throw fault) (.error fault) [] :=
  ⟨[], fun seen => by rw [List.append_nil]; rfl, List.prefix_refl _, fun _ _ => rfl⟩

lemma Reads.bind (h : Reads program result wanted)
    {next : α → ExceptT CredentialFault (StateM (List String)) β}
    {nextResult : α → Except CredentialFault β} {more : List String}
    (hnext : ∀ a, Reads (next a) (nextResult a) more) :
    Reads (program >>= next) (result >>= nextResult) (wanted ++ more) := by
  obtain ⟨files, hrun, hprefix, hall⟩ := h
  cases result with
  | error fault =>
    refine ⟨files, ?_, hprefix.trans (List.prefix_append _ _), nofun⟩
    intro seen
    rw [ExceptT.run_bind, StateT.run_bind, hrun seen]
    rfl
  | ok a =>
    obtain rfl := hall a rfl
    obtain ⟨files', hrun', hprefix', hall'⟩ := hnext a
    refine ⟨files ++ files', ?_, (List.prefix_append_right_inj _).mpr hprefix', ?_⟩
    · intro seen
      rw [ExceptT.run_bind, StateT.run_bind, hrun seen, ← List.append_assoc]
      exact hrun' (seen ++ files)
    · intro b hb
      rw [hall' b hb]

lemma Reads.map (h : Reads program result wanted) (f : α → β) :
    Reads (f <$> program) (result.map f) wanted := by
  have hbind := h.bind fun a => reads_pure (f a)
  rw [List.append_nil] at hbind
  have hresult : (result >>= fun a => .ok (f a)) = result.map f := by
    cases result <;> rfl
  rw [hresult] at hbind
  exact hbind

end

/-! ## Parts of the credentials -/

section

variable (pki : Pki) (read : FileReader) (tls : TlsConfig)

def roots : Except CredentialFault (Option Bytes) := rootsIn (m := Id) pki read tls

def client : Except CredentialFault (Option KeyPair) := clientIn (m := Id) pki read tls

/-- A certificate is named without a key. -/
def LacksKey : Prop := named? tls.certFile ≠ none ∧ named? tls.keyFile = none

instance : Decidable (LacksKey tls) := inferInstanceAs (Decidable (_ ∧ _))

def rootFiles : List String := if tls.skipVerify then [] else (named? tls.caFile).toList

def pairFiles : List String :=
  match named? tls.certFile, named? tls.keyFile with
  | some certFile, some keyFile => [certFile, keyFile]
  | _, _ => []

end

section

variable {m : Type → Type} [Monad m] [LawfulMonad m] {readIn : String → m (Except String Bytes)}
  {pki : Pki} {tls : TlsConfig}

omit [LawfulMonad m] in
lemma buildIn_of_disabled (h : tls.enabled = false) :
    buildIn pki readIn tls = pure .plaintext := by
  simp [buildIn, h]

lemma buildIn_of_lacksKey (h : tls.enabled = true) (hl : LacksKey tls) :
    buildIn pki readIn tls = throw .incompletePair := by
  obtain ⟨hcert, hkey⟩ := hl
  have hpair : ((named? tls.certFile).isSome && (named? tls.keyFile).isNone) = true := by
    simp [Option.isSome_iff_ne_none, hcert, hkey]
  simp [buildIn, h, hpair]

lemma buildIn_of_enabled (h : tls.enabled = true) (hl : ¬LacksKey tls) :
    buildIn pki readIn tls = (do
      let roots ← rootsIn pki readIn tls
      let client ← clientIn pki readIn tls
      return .tls tls.skipVerify roots client) := by
  have hpair : ((named? tls.certFile).isSome && (named? tls.keyFile).isNone) = false := by
    simpa [LacksKey, ← Option.isSome_iff_ne_none] using hl
  simp [buildIn, h, hpair]

end

section

variable {ε α β : Type}

lemma bind_id (x : Except ε α) (f : α → Except ε β) :
    @bind (ExceptT ε Id) _ α β x f = x >>= f := by
  cases x <;> rfl

lemma map_id (x : Except ε α) (f : α → β) : @Functor.map (ExceptT ε Id) _ α β f x = x.map f := by
  cases x <;> rfl

end

variable {pki : Pki} {read : FileReader} {tls : TlsConfig}

lemma roots_eq : roots pki read tls =
    match tls.skipVerify, named? tls.caFile with
    | false, some file => (loadBundle pki read file).map some
    | _, _ => .ok none := by
  unfold roots rootsIn
  cases tls.skipVerify with
  | true => rfl
  | false => cases named? tls.caFile with
    | none => rfl
    | some file => exact map_id (loadBundle pki read file) some

lemma client_eq : client pki read tls =
    match named? tls.certFile, named? tls.keyFile with
    | some certFile, some keyFile => (loadPair pki read certFile keyFile).map some
    | _, _ => .ok none := by
  unfold client clientIn
  cases named? tls.certFile with
  | none => rfl
  | some certFile => cases named? tls.keyFile with
    | none => rfl
    | some keyFile => exact map_id (loadPair pki read certFile keyFile) some

lemma build_of_enabled (h : tls.enabled = true) (hl : ¬LacksKey tls) : build pki read tls =
    roots pki read tls >>= fun roots => client pki read tls >>= fun client =>
      .ok (.tls tls.skipVerify roots client) := by
  have hbuild : build pki read tls = @bind (ExceptT CredentialFault Id) _ _ _ (roots pki read tls)
      fun roots => @bind (ExceptT CredentialFault Id) _ _ _ (client pki read tls) fun client =>
        pure (.tls tls.skipVerify roots client) := buildIn_of_enabled h hl
  rw [hbuild, bind_id]
  simp only [bind_id]
  rfl

lemma loadBundle_eq (file : String) : loadBundle pki read file =
    (read file).mapError (.unreadable "CA file" file) >>= fun bytes =>
      match bundle pki (Text.decodeChars bytes) with
      | [] => .error (.noCertificates file)
      | blocks => .ok (Text.utf8 (.ofList (blocks.flatMap fun block => block ++ ['\n']))) := by
  unfold loadBundle loadBundleIn readMaterialIn
  cases read file with
  | error reason => rfl
  | ok bytes => rfl

lemma loadPair_eq (certFile keyFile : String) : loadPair pki read certFile keyFile =
    (read certFile).mapError (.unreadable "certificate file" certFile) >>= fun certificate =>
      (read keyFile).mapError (.unreadable "key file" keyFile) >>= fun key =>
        match pki.matching? certificate key with
        | none => .error (.badPair certFile keyFile badPairReason)
        | some false => .error (.mismatch certFile keyFile)
        | some true => .ok ⟨certificate, key⟩ := by
  unfold loadPair loadPairIn readMaterialIn
  cases read certFile with
  | error reason => rfl
  | ok certificate =>
    cases read keyFile with
    | error reason => rfl
    | ok key => rfl

lemma reads_readMaterialIn (what file : String) :
    Reads (readMaterialIn (recording read) what file)
      ((read file).mapError (.unreadable what file)) [file] :=
  ⟨[file], fun _ => rfl, List.prefix_refl _, fun _ _ => rfl⟩

lemma reads_loadBundleIn (file : String) :
    Reads (loadBundleIn pki (recording read) file) (loadBundle pki read file) [file] := by
  have hwanted : [file] = [file] ++ [] := rfl
  rw [loadBundle_eq, hwanted]
  apply (reads_readMaterialIn "CA file" file).bind
  intro bytes
  cases bundle pki (Text.decodeChars bytes) with
  | nil => exact reads_throw _
  | cons block blocks => exact reads_pure _

lemma reads_loadPairIn (certFile keyFile : String) :
    Reads (loadPairIn pki (recording read) certFile keyFile) (loadPair pki read certFile keyFile)
      [certFile, keyFile] := by
  rw [loadPair_eq]
  apply Reads.bind (reads_readMaterialIn "certificate file" certFile)
  intro certificate
  apply Reads.bind (reads_readMaterialIn "key file" keyFile)
  intro key
  cases pki.matching? certificate key with
  | none => exact reads_throw _
  | some isMatching => cases isMatching with
    | false => exact reads_throw _
    | true => exact reads_pure _

lemma reads_rootsIn : Reads (rootsIn pki (recording read) tls) (roots pki read tls)
    (rootFiles tls) := by
  rw [roots_eq]
  unfold rootsIn rootFiles
  cases tls.skipVerify with
  | true => exact reads_pure none
  | false => cases named? tls.caFile with
    | none => exact reads_pure none
    | some file => exact (reads_loadBundleIn file).map some

lemma reads_clientIn : Reads (clientIn pki (recording read) tls) (client pki read tls)
    (pairFiles tls) := by
  rw [client_eq]
  unfold clientIn pairFiles
  cases named? tls.certFile with
  | none => exact reads_pure none
  | some certFile => cases named? tls.keyFile with
    | none => exact reads_pure none
    | some keyFile => exact (reads_loadPairIn certFile keyFile).map some

/-- Credentials are built of the roots and of the client's pair, in this order. -/
lemma reads_buildIn (h : tls.enabled = true) (hl : ¬LacksKey tls) :
    Reads (buildIn pki (recording read) tls) (build pki read tls)
      (rootFiles tls ++ pairFiles tls) := by
  rw [buildIn_of_enabled h hl, build_of_enabled h hl, ← List.append_nil (pairFiles tls)]
  apply reads_rootsIn.bind
  intro roots
  apply reads_clientIn.bind
  intro client
  exact reads_pure _

/-! ## What is asked for -/

section

variable (pki : Pki) (read : FileReader) (tls : TlsConfig)

/-- The roots that are asked for: those of the system, or the certificates of the named file, of which
there is one at least. -/
def RootsOf : Option Bytes → Prop
  | none => tls.skipVerify = true ∨ named? tls.caFile = none
  | some bytes => tls.skipVerify = false ∧ ∃ file content blocks,
    named? tls.caFile = some file ∧ read file = .ok content ∧ blocks ≠ [] ∧
    blocks.Sublist (Armor.certificateBlocks (Text.decodeChars content)) ∧
    (∀ block ∈ blocks, pki.isCertificate (Text.utf8 (.ofList block)) = true ∧
      block <:+: Text.decodeChars content) ∧
    bytes = Text.utf8 (.ofList (blocks.flatMap fun block => block ++ ['\n']))

/-- Both files of the pair are named. -/
def NamesPair (certFile keyFile : String) : Prop :=
  named? tls.certFile = some certFile ∧ named? tls.keyFile = some keyFile

/-- The pair that is asked for: none, or the contents of both named files, which belong together. -/
def ClientOf : Option KeyPair → Prop
  | none => named? tls.certFile = none ∨ named? tls.keyFile = none
  | some pair => ∃ certFile keyFile, NamesPair tls certFile keyFile ∧
    read certFile = .ok pair.certificate ∧ read keyFile = .ok pair.key ∧
    pki.matching? pair.certificate pair.key = some true

/-- Why the settings are refused: a key is missing, a file that is needed cannot be read, or what it
holds is not what is asked for. -/
inductive Refusal : CredentialFault → Prop
  | incompletePair (lacks : LacksKey tls) : Refusal .incompletePair
  | unreadableBundle {file reason : String} (verified : tls.skipVerify = false)
    (named : named? tls.caFile = some file) (failed : read file = .error reason) :
    Refusal (.unreadable "CA file" file reason)
  | noCertificates {file : String} {content : Bytes} (verified : tls.skipVerify = false)
    (named : named? tls.caFile = some file) (readable : read file = .ok content)
    (nothing : bundle pki (Text.decodeChars content) = []) : Refusal (.noCertificates file)
  | unreadableCertificate {certFile keyFile reason : String} (named : NamesPair tls certFile keyFile)
    (failed : read certFile = .error reason) :
    Refusal (.unreadable "certificate file" certFile reason)
  | unreadableKey {certFile keyFile reason : String} (named : NamesPair tls certFile keyFile)
    (failed : read keyFile = .error reason) : Refusal (.unreadable "key file" keyFile reason)
  | badPair {certFile keyFile : String} {certificate key : Bytes}
    (named : NamesPair tls certFile keyFile) (readableCert : read certFile = .ok certificate)
    (readableKey : read keyFile = .ok key) (unread : pki.matching? certificate key = none) :
    Refusal (.badPair certFile keyFile badPairReason)
  | mismatch {certFile keyFile : String} {certificate key : Bytes}
    (named : NamesPair tls certFile keyFile) (readableCert : read certFile = .ok certificate)
    (readableKey : read keyFile = .ok key) (differs : pki.matching? certificate key = some false) :
    Refusal (.mismatch certFile keyFile)

end

lemma loadBundle_eq_ok {file : String} {bytes : Bytes} :
    loadBundle pki read file = .ok bytes ↔ ∃ content, read file = .ok content ∧
      bundle pki (Text.decodeChars content) ≠ [] ∧
      bytes = Text.utf8 (.ofList
        ((bundle pki (Text.decodeChars content)).flatMap fun block => block ++ ['\n'])) := by
  rw [loadBundle_eq]
  simp only [bind_eq_ok, mapError_eq_ok]
  apply exists_congr
  intro content
  cases bundle pki (Text.decodeChars content) with
  | nil => simp
  | cons block blocks => simp [eq_comm]

lemma loadPair_eq_ok {certFile keyFile : String} {pair : KeyPair} :
    loadPair pki read certFile keyFile = .ok pair ↔
      read certFile = .ok pair.certificate ∧ read keyFile = .ok pair.key ∧
        pki.matching? pair.certificate pair.key = some true := by
  rw [loadPair_eq]
  simp only [bind_eq_ok, mapError_eq_ok]
  constructor
  · rintro ⟨certificate, hcert, key, hkey, h⟩
    split at h
    · cases h
    · cases h
    · next hmatch =>
      cases h
      exact ⟨hcert, hkey, hmatch⟩
  · rintro ⟨hcert, hkey, hmatch⟩
    exact ⟨_, hcert, _, hkey, by rw [hmatch]⟩

lemma rootsOf_of_roots {found : Option Bytes} (h : roots pki read tls = .ok found) :
    RootsOf pki read tls found := by
  rw [roots_eq] at h
  split at h
  · next file verified hfile =>
    obtain ⟨bytes, hbytes, rfl⟩ := map_eq_ok.mp h
    obtain ⟨content, hcontent, hne, rfl⟩ := loadBundle_eq_ok.mp hbytes
    refine ⟨verified, file, content, _, hfile, hcontent, hne, List.filter_sublist, ?_, rfl⟩
    intro block hblock
    obtain ⟨hmem, hcert⟩ := List.mem_filter.mp hblock
    exact ⟨hcert, Armor.certificateBlocks_infix block hmem⟩
  · next hnone =>
    cases h
    cases hskip : tls.skipVerify with
    | true => exact Or.inl hskip
    | false =>
      apply Or.inr
      cases hfile : named? tls.caFile with
      | none => rfl
      | some file => exact (hnone file hskip hfile).elim

lemma clientOf_of_client {found : Option KeyPair} (h : client pki read tls = .ok found) :
    ClientOf pki read tls found := by
  rw [client_eq] at h
  split at h
  · next certFile keyFile hcert hkey =>
    obtain ⟨pair, hpair, rfl⟩ := map_eq_ok.mp h
    exact ⟨certFile, keyFile, ⟨hcert, hkey⟩, loadPair_eq_ok.mp hpair⟩
  · next hnone =>
    cases h
    cases hcert : named? tls.certFile with
    | none => exact Or.inl hcert
    | some certFile => cases hkey : named? tls.keyFile with
      | none => exact Or.inr hkey
      | some keyFile => exact (hnone certFile keyFile hcert hkey).elim

lemma refusal_of_roots {fault : CredentialFault} (h : roots pki read tls = .error fault) :
    Refusal pki read tls fault := by
  rw [roots_eq] at h
  split at h
  · next file verified hfile =>
    rw [map_eq_error, loadBundle_eq] at h
    rcases bind_eq_error.mp h with hread | ⟨content, hread, h⟩
    · obtain ⟨reason, hreason, rfl⟩ := mapError_eq_error.mp hread
      exact .unreadableBundle verified hfile hreason
    · split at h
      · next nothing =>
        cases h
        exact .noCertificates verified hfile (mapError_eq_ok.mp hread) nothing
      · cases h
  · cases h

lemma refusal_of_client {fault : CredentialFault} (h : client pki read tls = .error fault) :
    Refusal pki read tls fault := by
  rw [client_eq] at h
  split at h
  · next certFile keyFile hcert hkey =>
    rw [map_eq_error, loadPair_eq] at h
    rcases bind_eq_error.mp h with hread | ⟨certificate, hread, h⟩
    · obtain ⟨reason, hreason, rfl⟩ := mapError_eq_error.mp hread
      exact .unreadableCertificate ⟨hcert, hkey⟩ hreason
    rcases bind_eq_error.mp h with hread' | ⟨key, hread', h⟩
    · obtain ⟨reason, hreason, rfl⟩ := mapError_eq_error.mp hread'
      exact .unreadableKey ⟨hcert, hkey⟩ hreason
    have readableCert := mapError_eq_ok.mp hread
    have readableKey := mapError_eq_ok.mp hread'
    split at h
    · next unread =>
      cases h
      exact .badPair ⟨hcert, hkey⟩ readableCert readableKey unread
    · next differs =>
      cases h
      exact .mismatch ⟨hcert, hkey⟩ readableCert readableKey differs
    · cases h
  · cases h

/-- Roots that fulfil the settings leave no cause to refuse the file they are from. -/
lemma bundle_of_rootsOf {found : Option Bytes} (h : RootsOf pki read tls found)
    (verified : tls.skipVerify = false) {file : String} (named : named? tls.caFile = some file) :
    ∃ content, read file = .ok content ∧ bundle pki (Text.decodeChars content) ≠ [] := by
  cases found with
  | none =>
    rcases h with hskip | hnone
    · cases verified.symm.trans hskip
    · cases named.symm.trans hnone
  | some bytes =>
    obtain ⟨-, file', content, blocks, hfile, hread, hne, hsub, hcert, -⟩ := h
    obtain rfl := Option.some.inj (hfile.symm.trans named)
    refine ⟨content, hread, ?_⟩
    obtain ⟨block, hblock⟩ := List.exists_mem_of_ne_nil blocks hne
    have hmem : block ∈ bundle pki (Text.decodeChars content) :=
      List.mem_filter.mpr ⟨hsub.subset hblock, (hcert block hblock).1⟩
    exact List.ne_nil_of_mem hmem

lemma pair_of_clientOf {found : Option KeyPair} (h : ClientOf pki read tls found)
    {certFile keyFile : String} (named : NamesPair tls certFile keyFile) :
    ∃ certificate key, read certFile = .ok certificate ∧ read keyFile = .ok key ∧
      pki.matching? certificate key = some true := by
  obtain ⟨hcert, hkey⟩ := named
  cases found with
  | none =>
    rcases h with hnone | hnone
    · cases hcert.symm.trans hnone
    · cases hkey.symm.trans hnone
  | some pair =>
    obtain ⟨certFile', keyFile', ⟨hcert', hkey'⟩, hpair⟩ := h
    obtain rfl := Option.some.inj (hcert'.symm.trans hcert)
    obtain rfl := Option.some.inj (hkey'.symm.trans hkey)
    exact ⟨_, _, hpair⟩

/-- What fulfils the settings leaves no cause to refuse them. -/
lemma not_refusal {found : Option Bytes} {pair : Option KeyPair} (hl : ¬LacksKey tls)
    (hroots : RootsOf pki read tls found) (hclient : ClientOf pki read tls pair)
    (fault : CredentialFault) : ¬Refusal pki read tls fault := by
  intro refusal
  cases refusal with
  | incompletePair lacks => exact hl lacks
  | unreadableBundle verified named failed =>
    obtain ⟨content, hread, -⟩ := bundle_of_rootsOf hroots verified named
    cases failed.symm.trans hread
  | noCertificates verified named readable nothing =>
    obtain ⟨content, hread, hne⟩ := bundle_of_rootsOf hroots verified named
    cases readable.symm.trans hread
    exact hne nothing
  | unreadableCertificate named failed =>
    obtain ⟨certificate, key, hcert, -, -⟩ := pair_of_clientOf hclient named
    cases failed.symm.trans hcert
  | unreadableKey named failed =>
    obtain ⟨certificate, key, -, hkey, -⟩ := pair_of_clientOf hclient named
    cases failed.symm.trans hkey
  | badPair named readableCert readableKey unread =>
    obtain ⟨certificate, key, hcert, hkey, hmatch⟩ := pair_of_clientOf hclient named
    cases readableCert.symm.trans hcert
    cases readableKey.symm.trans hkey
    cases unread.symm.trans hmatch
  | mismatch named readableCert readableKey differs =>
    obtain ⟨certificate, key, hcert, hkey, hmatch⟩ := pair_of_clientOf hclient named
    cases readableCert.symm.trans hcert
    cases readableKey.symm.trans hkey
    cases differs.symm.trans hmatch

/-! ## What is built -/

lemma build_cases (h : tls.enabled = true) (hl : ¬LacksKey tls) :
    (∃ fault, build pki read tls = .error fault ∧ Refusal pki read tls fault) ∨
      ∃ roots client, build pki read tls = .ok (.tls tls.skipVerify roots client) ∧
        RootsOf pki read tls roots ∧ ClientOf pki read tls client := by
  rw [build_of_enabled h hl]
  cases hroots : roots pki read tls with
  | error fault => exact Or.inl ⟨fault, rfl, refusal_of_roots hroots⟩
  | ok found => cases hclient : client pki read tls with
    | error fault => exact Or.inl ⟨fault, rfl, refusal_of_client hclient⟩
    | ok pair =>
      exact Or.inr ⟨found, pair, rfl, rootsOf_of_roots hroots, clientOf_of_client hclient⟩

/-- The files that are read unless one of them fails: without TLS, or without a key for the
certificate, there are none. -/
def wantedFiles (tls : TlsConfig) : List String :=
  if tls.enabled = true ∧ ¬LacksKey tls then rootFiles tls ++ pairFiles tls else []

/-- For all settings and files: without TLS, and only then, the connection is not secured. Settings
with TLS are refused by a configuration failure, for a cause, or there is no cause to refuse them, and
the credentials have the roots and the pair that are asked for. A certificate without a key is refused
before any file is read, and where any certificate is accepted no roots are read. -/
theorem credentials_fail_closed (pki : Pki) (read : FileReader) (tls : TlsConfig) :
    let run := (buildIn pki (recording read) tls).run.run []
    run.1 = build pki read tls ∧ run.2 <+: wantedFiles tls ∧
    match build pki read tls with
    | .error fault =>
      tls.enabled = true ∧ fault.toFailure.className? = some "ConfigError" ∧
        Refusal pki read tls fault ∧ (LacksKey tls → fault = .incompletePair)
    | .ok .plaintext => tls.enabled = false
    | .ok (.tls skipVerify roots client) =>
      tls.enabled = true ∧ skipVerify = tls.skipVerify ∧ RootsOf pki read tls roots ∧
        ClientOf pki read tls client ∧ (∀ fault, ¬Refusal pki read tls fault) ∧
        run.2 = wantedFiles tls := by
  intro run
  by_cases henabled : tls.enabled = true
  · by_cases hl : LacksKey tls
    · have hbuild : build pki read tls = .error .incompletePair := buildIn_of_lacksKey henabled hl
      have hrun : run = (.error .incompletePair, []) := by
        change (buildIn pki (recording read) tls).run.run [] = _
        rw [buildIn_of_lacksKey henabled hl]
        rfl
      rw [hrun, hbuild]
      exact ⟨rfl, List.nil_prefix, henabled, rfl, .incompletePair hl, fun _ => rfl⟩
    · have hreads : Reads (buildIn pki (recording read) tls) (build pki read tls)
          (rootFiles tls ++ pairFiles tls) := reads_buildIn henabled hl
      obtain ⟨files, hfiles, hprefix, hall⟩ := hreads
      have hrun : run = (build pki read tls, files) := hfiles []
      have hwanted : wantedFiles tls = rootFiles tls ++ pairFiles tls := if_pos ⟨henabled, hl⟩
      rw [hrun, hwanted]
      refine ⟨rfl, hprefix, ?_⟩
      rcases build_cases henabled hl with ⟨fault, hbuild, hrefusal⟩ |
        ⟨roots, client, hbuild, hroots, hclient⟩
      · rw [hbuild]
        exact ⟨henabled, rfl, hrefusal, fun lacks => absurd lacks hl⟩
      · rw [hbuild]
        exact ⟨henabled, rfl, hroots, hclient, not_refusal hl hroots hclient, hall _ hbuild⟩
  · have hdisabled : tls.enabled = false := by simpa using henabled
    have hbuild : build pki read tls = .ok .plaintext := buildIn_of_disabled hdisabled
    have hrun : run = (.ok .plaintext, []) := by
      change (buildIn pki (recording read) tls).run.run [] = _
      rw [buildIn_of_disabled hdisabled]
      rfl
    rw [hrun, hbuild]
    exact ⟨rfl, List.nil_prefix, hdisabled⟩

end Credentials

end TelemetryBridge
