import Naboscale.Cli.Tampering

/-!
# A new pair of keys

`cmd_init` saves an identity and a WireGuard key one after the other. Each file is replaced as a
whole, and the pair is not: an error in between leaves the new identity beside the old WireGuard
key.
-/

namespace Naboscale.Cli.Keystore

open Rust

/-- `PassphraseSource`. -/
inductive PassphraseSource where
  | bytes (passphrase : Bytes)
  | env
  | required

/-- `PassphraseSource::resolve`, with the value of `NABOSCALE_PASSPHRASE` if it is set. -/
def PassphraseSource.resolve (var : Option Bytes) :
    PassphraseSource → Except KeystoreError (Option Bytes)
  | bytes passphrase => .ok (some passphrase)
  | env => .ok var
  | required =>
      match var with
      | some passphrase => .ok (some passphrase)
      | none => .error (.badConfig
          "passphrase required: set NABOSCALE_PASSPHRASE env var or use --passphrase-file")

/-- `ServerConfig`. -/
structure ServerConfig where
  url : String

/-- `Config`. -/
structure Config where
  server : ServerConfig

/-- `Config::default_with_server`. -/
def Config.defaultWithServer (url : String) : Config := ⟨⟨url⟩⟩

/-- `toml::to_string_pretty` of a configuration, with an error as it is displayed. -/
abbrev Toml := Config → Except String Bytes

/-- `CONFIG_FILE`. -/
def configFile : String := "config.toml"

/-- `Config::save`. -/
def Config.save (toml : Toml) (config : Config) : Method Disk KeystoreError Unit := do
  let text ← .lift .tomlSer (toml config)
  .mapErr .io (Operation.write configFile text).perform

/-- `ensure_dir`. -/
def ensureDir : Method Disk KeystoreError Unit := do
  let s ← Method.get
  if s.folder.entries.isSome then pure ()
  else .mapErr .io Operation.createDirAll.perform

/-- `identity_exists`. -/
def identityExists (dir : Folder) : Bool :=
  dir.contains KeyKind.identity.fileName && dir.contains KeyKind.wg.fileName

/-- What `cmd_init` draws: both keys, and a salt and a nonce for each file. -/
structure Draws where
  identity : Key
  wg : Key
  identitySalt : Arr saltLen
  identityNonce : Arr nonceLen
  wgSalt : Arr saltLen
  wgNonce : Arr nonceLen

section Crates

variable [KeystoreCrates]

/-- `cmd_init`. -/
def cmdInit (toml : Toml) (server : String) (force : Bool) (pp : PassphraseSource)
    (var : Option Bytes) (draws : Draws) : Method Disk KeystoreError Unit := do
  ensureDir
  let s ← Method.get
  if identityExists s.folder && !force then
    .fail (.badConfig "identity already exists; use --force to overwrite")
  else do
    let resolved ← .lift id (pp.resolve var)
    match resolved with
    | none => .fail (.badConfig ("initializing an encrypted keystore requires a passphrase. " ++
        "set NABOSCALE_PASSPHRASE or pass --passphrase-file <path>"))
    | some passphrase => do
        saveKey .identity draws.identity.val passphrase draws.identitySalt draws.identityNonce
        saveKey .wg draws.wg.val passphrase draws.wgSalt draws.wgNonce
        Config.save toml (.defaultWithServer server)

/-! ## Where it ends -/

variable {toml : Toml} {server : String} {pp : PassphraseSource} {var : Option Bytes}
  {draws : Draws} {s s' : Disk} {kind : KeyKind} {bytes : Bytes} {ops : List Operation}

/-- Both key files are the new ones, under the passphrase that was resolved. -/
def Renewed (draws : Draws) (resolved : Except KeystoreError (Option Bytes)) (k k' : Keyring) :
    Prop :=
  ∃ passphrase bytes wgBytes, resolved = .ok (some passphrase) ∧
    encrypt draws.identity.val passphrase draws.identitySalt draws.identityNonce = .ok bytes ∧
    encrypt draws.wg.val passphrase draws.wgSalt draws.wgNonce = .ok wgBytes ∧
    k' = (k.replace .identity bytes).replace .wg wgBytes

/-- What an error of `cmd_init` leaves: it came before the first key file was replaced, between the
two, or after the second. -/
inductive Interrupted (draws : Draws) (resolved : Except KeystoreError (Option Bytes))
    (s s' : Disk) : Prop where
  | before (ops : List Operation) : s'.performed = s.performed ++ ops →
      (∀ kind : KeyKind, .setPermissions kind.fileName ∉ ops) →
      keyring s'.folder = keyring s.folder → Interrupted draws resolved s s'
  | between (ops : List Operation) (passphrase bytes : Bytes) :
      s'.performed = s.performed ++ ops →
      .setPermissions KeyKind.identity.fileName ∈ ops →
      .setPermissions KeyKind.wg.fileName ∉ ops → resolved = .ok (some passphrase) →
      encrypt draws.identity.val passphrase draws.identitySalt draws.identityNonce = .ok bytes →
      keyring s'.folder = (keyring s.folder).replace .identity bytes →
      Interrupted draws resolved s s'
  | after (ops : List Operation) : s'.performed = s.performed ++ ops →
      .setPermissions KeyKind.identity.fileName ∈ ops →
      .setPermissions KeyKind.wg.fileName ∈ ops →
      Renewed draws resolved (keyring s.folder) (keyring s'.folder) →
      Interrupted draws resolved s s'

omit [KeystoreCrates] in
theorem mem_steps {name : String} :
    Operation.setPermissions name ∈ steps kind bytes ↔ name = kind.fileName := by
  simp [steps]

omit [KeystoreCrates] in
/-- A save that stops early does not come to its last step. -/
theorem not_mem_of_stopped (hops : ops <+: steps kind bytes) (hne : ops ≠ steps kind bytes) :
    .setPermissions kind.fileName ∉ ops := by
  have hinit : ops <+: (steps kind bytes).take 3 :=
    (List.prefix_concat_iff.1 hops).resolve_left hne
  intro hmem
  have := hinit.subset hmem
  simp [steps] at this

omit [KeystoreCrates] in
theorem wp_ensureDir {Q : Method.Post Disk KeystoreError Unit}
    (hdir : s.folder.entries.isSome = true) : ensureDir.wp Q s ↔ Q.ok () s := by
  rw [ensureDir, Method.wp_get_bind, if_pos hdir, Method.wp_pure]

omit [KeystoreCrates] in
/-- The configuration file is no key file. -/
theorem keyring_put_config {dir : Folder} (entry : Option Entry) :
    keyring (dir.put configFile entry) = keyring dir := by
  simp only [keyring, Folder.path_put, Keyring.mk.injEq, true_and]
  funext kind
  exact Folder.entry_put_of_ne (by cases kind <;> decide)

omit [KeystoreCrates] in
/-- `Config::save` does not touch the key files. -/
theorem wp_configSave {config : Config} :
    (config.save toml).wp ⟨fun _ s' => keyring s'.folder = keyring s.folder,
      fun _ s' => ∃ ops, s'.performed = s.performed ++ ops ∧ keyring s'.folder = keyring s.folder,
      False⟩ s := by
  rw [Config.save, Method.wp_bind, Method.wp_lift]
  refine ⟨fun text _ => ?_, fun e _ => ⟨[], (List.append_nil _).symm, rfl⟩⟩
  refine (Method.wp_mapErr _ _).2 (Operation.wp_perform ?_ ?_ ?_)
  · intro d hd
    rw [Operation.apply] at hd
    split at hd <;> cases hd
    exact keyring_put_config _
  · exact fun failure => ⟨[_], rfl, keyring_put_config _⟩
  · exact fun e _ => ⟨[_], rfl, rfl⟩

/-- The second save and what comes after it: the identity has been replaced. -/
theorem wp_wg {passphrase : Bytes} {s₁ : Disk} (hresolved : pp.resolve var = .ok (some passphrase))
    (hbytes : encrypt draws.identity.val passphrase draws.identitySalt draws.identityNonce =
      .ok bytes)
    (hdone : Performed .identity bytes s s₁ (steps .identity bytes)) :
    (do
      saveKey .wg draws.wg.val passphrase draws.wgSalt draws.wgNonce
      Config.save toml (.defaultWithServer server)).wp
      ⟨fun _ s' => Renewed draws (pp.resolve var) (keyring s.folder) (keyring s'.folder),
        fun _ s' => Interrupted draws (pp.resolve var) s s', False⟩ s₁ := by
  have hid : ∀ rest, Operation.setPermissions KeyKind.identity.fileName ∈
      steps .identity bytes ++ rest := fun rest => List.mem_append_left _ (mem_steps.2 rfl)
  have hbetween : ∀ ops (s' : Disk), s'.performed = s₁.performed ++ ops →
      .setPermissions KeyKind.wg.fileName ∉ ops → keyring s'.folder = keyring s₁.folder →
      Interrupted draws (pp.resolve var) s s' := by
    intro ops s' hperformed hops hkeys
    refine .between (steps .identity bytes ++ ops) passphrase bytes ?_ (hid ops) ?_ hresolved hbytes
      (hkeys.trans hdone.saved)
    · rw [hperformed, hdone.performed, List.append_assoc]
    · rw [List.mem_append, mem_steps]
      exact fun h => h.elim (by decide) hops
  have hrenewed : ∀ wgBytes (s₂ : Disk),
      encrypt draws.wg.val passphrase draws.wgSalt draws.wgNonce = .ok wgBytes →
      Performed .wg wgBytes s₁ s₂ (steps .wg wgBytes) →
      Renewed draws (pp.resolve var) (keyring s.folder) (keyring s₂.folder) :=
    fun wgBytes s₂ hwgBytes hwg => ⟨passphrase, bytes, wgBytes, hresolved, hbytes, hwgBytes,
      hwg.saved.trans (by rw [hdone.saved])⟩
  have hafter : ∀ wgBytes ops (s₂ s' : Disk),
      encrypt draws.wg.val passphrase draws.wgSalt draws.wgNonce = .ok wgBytes →
      Performed .wg wgBytes s₁ s₂ (steps .wg wgBytes) → s'.performed = s₂.performed ++ ops →
      keyring s'.folder = keyring s₂.folder → Interrupted draws (pp.resolve var) s s' := by
    intro wgBytes ops s₂ s' hwgBytes hwg hperformed hkeys
    refine .after (steps .identity bytes ++ (steps .wg wgBytes ++ ops)) ?_ (hid _)
      (List.mem_append_right _ (List.mem_append_left _ (mem_steps.2 rfl))) ?_
    · rw [hperformed, hwg.performed, hdone.performed, List.append_assoc, List.append_assoc]
    · rw [hkeys]
      exact hrenewed wgBytes s₂ hwgBytes hwg
  -- The key file is either not replaced yet, or replaced and the rest of the run left to do.
  rw [Method.wp_bind]
  refine Method.wp_mono (wp_saveKey .wg draws.wg.val passphrase draws.wgSalt draws.wgNonce s₁)
    ?_ ?_ id
  · rintro - s₂ ⟨-, wgBytes, hwgBytes, hwg⟩
    refine Method.wp_mono wp_configSave ?_ ?_ id
    · intro _ s' hkeys
      show Renewed draws (pp.resolve var) (keyring s.folder) (keyring s'.folder)
      rw [hkeys]
      exact hrenewed wgBytes s₂ hwgBytes hwg
    · rintro - s' ⟨ops, hperformed, hkeys⟩
      exact hafter wgBytes ops s₂ s' hwgBytes hwg hperformed hkeys
  · rintro - s' (rfl | ⟨-, wgBytes, ops, hwgBytes, hops, hwg⟩)
    · exact hbetween [] s' (List.append_nil _).symm nofun rfl
    · by_cases hall : ops = steps .wg wgBytes
      · exact hafter wgBytes [] s' s' hwgBytes (hall ▸ hwg) (List.append_nil _).symm rfl
      · exact hbetween ops s' hwg.performed (not_mem_of_stopped hops hall) (hwg.kept hall)

/-- In a directory that exists, `cmd_init` with `--force` renews both keys, or it ends with an error
at one of the three places. -/
theorem wp_cmdInit (hdir : s.folder.entries.isSome = true) :
    (cmdInit toml server true pp var draws).wp
      ⟨fun _ s' => Renewed draws (pp.resolve var) (keyring s.folder) (keyring s'.folder),
        fun _ s' => Interrupted draws (pp.resolve var) s s', False⟩ s := by
  have hbefore : Interrupted draws (pp.resolve var) s s :=
    .before [] (List.append_nil _).symm (fun _ => nofun) rfl
  rw [cmdInit, Method.wp_bind, wp_ensureDir hdir]
  refine (Method.wp_get_bind _).2 ?_
  rw [Bool.not_true, Bool.and_false, if_neg Bool.false_ne_true, Method.wp_bind, Method.wp_lift]
  refine ⟨fun resolved hresolved => ?_, fun _ _ => hbefore⟩
  cases resolved with
  | none => exact hbefore
  | some passphrase =>
      refine (Method.wp_bind _ _).2 (Method.wp_mono (wp_saveKey .identity draws.identity.val
        passphrase draws.identitySalt draws.identityNonce s) ?_ ?_ id)
      · rintro - s₁ ⟨-, bytes, hbytes, hdone⟩
        exact wp_wg hresolved hbytes hdone
      · rintro - s' (rfl | ⟨-, bytes, ops, hbytes, hops, hdone⟩)
        · exact hbefore
        · have hwg : .setPermissions KeyKind.wg.fileName ∉ ops := fun hmem =>
            absurd (mem_steps.1 (hops.subset hmem)) (by decide)
          by_cases hall : ops = steps .identity bytes
          · rw [hall] at hdone hwg
            exact .between _ passphrase bytes hdone.performed (mem_steps.2 rfl) hwg hresolved hbytes
              hdone.saved
          · refine .before ops hdone.performed (fun kind => ?_) (hdone.kept hall)
            cases kind with
            | identity => exact not_mem_of_stopped hops hall
            | wg => exact hwg

/-! ## What the pair is then -/

omit [KeystoreCrates] in
theorem copyFromSlice_zeros (bytes : Bytes) (dir : Folder) :
    (Arr.zeros keyLen).copyFromSlice 0 keyLen bytes dir =
      if h : bytes.length = keyLen then (.ok ⟨bytes, h⟩ dir : Outcome Folder KeystoreError Key)
      else .panic := by
  by_cases h : bytes.length = keyLen
  · rw [dif_pos h]
    refine (congrFun (Arr.copyFromSlice_eq (Arr.zeros keyLen) ⟨Nat.zero_le _, le_rfl, h⟩)
      dir).trans ?_
    refine congrArg (fun key => Outcome.ok key dir) (Subtype.ext ?_)
    show [] ++ bytes ++ List.drop keyLen (List.replicate keyLen 0) = bytes
    rw [List.drop_replicate]
    exact List.append_nil bytes
  · rw [dif_neg h, Arr.copyFromSlice, dif_neg fun hrange => h hrange.2.2]
    rfl

/-- Both keys are loaded before either is copied. -/
theorem openDir_eq {dir : Folder} {passphrase : Option Bytes} {idBytes wgBytes : Bytes}
    (hid : loadKey dir .identity passphrase = .ok idBytes)
    (hwg : loadKey dir .wg passphrase = .ok wgBytes) :
    OpenedKeys.openDir passphrase dir =
      if h : idBytes.length = keyLen ∧ wgBytes.length = keyLen then
        .ok ⟨⟨idBytes, h.1⟩, ⟨wgBytes, h.2⟩⟩ dir
      else .panic := by
  rw [OpenedKeys.openDir, Method.bind_ok (Method.get_apply dir), hid, hwg]
  show (Arr.copyFromSlice _ _ _ idBytes >>= _) dir = _
  by_cases hidLength : idBytes.length = keyLen
  · have hidCopy := copyFromSlice_zeros idBytes dir
    rw [dif_pos hidLength] at hidCopy
    rw [Method.bind_ok hidCopy]
    by_cases hwgLength : wgBytes.length = keyLen
    · have hwgCopy := copyFromSlice_zeros wgBytes dir
      rw [dif_pos hwgLength] at hwgCopy
      rw [Method.bind_ok hwgCopy, dif_pos ⟨hidLength, hwgLength⟩]
      rfl
    · have hwgCopy := copyFromSlice_zeros wgBytes dir
      rw [dif_neg hwgLength] at hwgCopy
      rw [Method.bind_panic hwgCopy, dif_neg fun h => hwgLength h.2]
  · have hidCopy := copyFromSlice_zeros idBytes dir
    rw [dif_neg hidLength] at hidCopy
    rw [Method.bind_panic hidCopy, dif_neg fun h => hidLength h.1]

/-- Keys that open are two files that load. -/
theorem openDir_eq_ok_iff {dir : Folder} {passphrase : Option Bytes} {keys : OpenedKeys} :
    OpenedKeys.openDir passphrase dir = .ok keys dir ↔
      loadKey dir .identity passphrase = .ok keys.identity.val ∧
        loadKey dir .wg passphrase = .ok keys.wg.val := by
  constructor
  · intro h
    cases hid : loadKey dir .identity passphrase with
    | error e =>
        rw [OpenedKeys.openDir, Method.bind_ok (Method.get_apply dir), hid] at h
        cases h
    | ok idBytes =>
        cases hwg : loadKey dir .wg passphrase with
        | error e =>
            rw [OpenedKeys.openDir, Method.bind_ok (Method.get_apply dir), hid, hwg] at h
            cases h
        | ok wgBytes =>
            rw [openDir_eq hid hwg] at h
            split at h
            · cases h
              exact ⟨rfl, rfl⟩
            · cases h
  · rintro ⟨hid, hwg⟩
    rw [openDir_eq hid hwg, dif_pos ⟨keys.identity.length_eq, keys.wg.length_eq⟩]

/-- A key that is loaded has 32 bytes, so that opening the keys does not panic. -/
theorem openDir_ne_panic (haead : AeadLaws) (dir : Folder) (passphrase : Option Bytes) :
    OpenedKeys.openDir passphrase dir ≠ .panic := by
  cases hid : loadKey dir .identity passphrase with
  | error e =>
      rw [OpenedKeys.openDir, Method.bind_ok (Method.get_apply dir), hid]
      exact nofun
  | ok idBytes =>
      cases hwg : loadKey dir .wg passphrase with
      | error e =>
          rw [OpenedKeys.openDir, Method.bind_ok (Method.get_apply dir), hid, hwg]
          exact nofun
      | ok wgBytes =>
          rw [openDir_eq hid hwg,
            dif_pos ⟨length_of_loadKey haead hid, length_of_loadKey haead hwg⟩]
          exact nofun

/-- New keys open under the passphrase that was resolved. -/
theorem Renewed.opens (haead : AeadLaws) {k : Keyring} {dir : Folder}
    (h : Renewed draws (pp.resolve var) k (keyring dir)) : ∃ q, pp.resolve var = .ok (some q) ∧
      OpenedKeys.openDir (some q) dir = .ok ⟨draws.identity, draws.wg⟩ dir := by
  obtain ⟨q, bytes, wgBytes, hresolved, hbytes, hwgBytes, hkeys⟩ := h
  have hfile : dir.entry KeyKind.identity.fileName = some (.file bytes) :=
    (entry_of_replace_ne hkeys (by decide)).trans (Keyring.files_replace ..)
  exact ⟨q, hresolved, openDir_eq_ok_iff.2
    ⟨loadKey_envelope haead hfile hbytes draws.identity.length_eq,
      loadKey_envelope haead (entry_of_replace hkeys) hwgBytes draws.wg.length_eq⟩⟩

/-- After `cmd_init` with `--force` the keys that it drew open under its passphrase. -/
theorem cmdInit_ok (haead : AeadLaws) (hdir : s.folder.entries.isSome = true)
    (hrun : cmdInit toml server true pp var draws s = .ok () s') : ∃ q,
    pp.resolve var = .ok (some q) ∧
      OpenedKeys.openDir (some q) s'.folder = .ok ⟨draws.identity, draws.wg⟩ s'.folder := by
  have hwp : (cmdInit toml server true pp var draws).wp _ s := wp_cmdInit hdir
  rw [Method.wp, hrun] at hwp
  exact Renewed.opens haead hwp

/-- Where `cmd_init` with `--force` fails in a directory whose keys open, the keys are the old ones
up to the rename of the identity, the identity is the new one and the WireGuard key the old one up
to the rename of the second file, and both are new after that. -/
theorem cmdInit_error (haead : AeadLaws) {p : Option Bytes} {old : OpenedKeys} {e : KeystoreError}
    (hold : OpenedKeys.openDir p s.folder = .ok old s.folder)
    (hrun : cmdInit toml server true pp var draws s = .err e s') :
    (.setPermissions KeyKind.identity.fileName ∉ s'.performed.drop s.performed.length →
        OpenedKeys.openDir p s'.folder = .ok old s'.folder) ∧
      (.setPermissions KeyKind.identity.fileName ∈ s'.performed.drop s.performed.length →
        .setPermissions KeyKind.wg.fileName ∉ s'.performed.drop s.performed.length →
        ∃ q, pp.resolve var = .ok (some q) ∧
          loadKey s'.folder .identity (some q) = .ok draws.identity.val ∧
          ∀ any, loadKey s'.folder .wg any = loadKey s.folder .wg any) ∧
      (.setPermissions KeyKind.wg.fileName ∈ s'.performed.drop s.performed.length →
        ∃ q, pp.resolve var = .ok (some q) ∧
          OpenedKeys.openDir (some q) s'.folder = .ok ⟨draws.identity, draws.wg⟩ s'.folder) := by
  have hdir : s.folder.entries.isSome = true := by
    cases hentries : s.folder.entries with
    | some _ => rfl
    | none =>
        have hmissing : s.folder.entry KeyKind.identity.fileName = none := by
          rw [Folder.entry, hentries]
          rfl
        cases (loadKey_missing hmissing p).symm.trans (openDir_eq_ok_iff.1 hold).1
  have hspec : Interrupted draws (pp.resolve var) s s' := by
    have hwp : (cmdInit toml server true pp var draws).wp _ s := wp_cmdInit hdir
    rw [Method.wp, hrun] at hwp
    exact hwp
  obtain ⟨hid, hwg⟩ := openDir_eq_ok_iff.1 hold
  cases hspec with
  | before ops hperformed hnone hkeys =>
      rw [hperformed, List.drop_left]
      refine ⟨fun _ => ?_, fun h => absurd h (hnone .identity), fun h => absurd h (hnone .wg)⟩
      exact openDir_eq_ok_iff.2 ⟨(loadKey_of_keyring hkeys _ p).trans hid,
        (loadKey_of_keyring hkeys _ p).trans hwg⟩
  | between ops q bytes hperformed hidDone hwgNot hresolved hbytes hkeys =>
      rw [hperformed, List.drop_left]
      refine ⟨fun h => absurd hidDone h, fun _ _ => ⟨q, hresolved, ?_, ?_⟩,
        fun h => absurd h hwgNot⟩
      · exact loadKey_envelope haead (entry_of_replace hkeys) hbytes draws.identity.length_eq
      · exact loadKey_congr (congrArg Keyring.path hkeys) (entry_of_replace_ne hkeys (by decide))
  | after ops hperformed hidDone hwgDone hrenewed =>
      rw [hperformed, List.drop_left]
      exact ⟨fun h => absurd hidDone h, fun _ h => absurd hwgDone h, fun _ => hrenewed.opens haead⟩

end Crates

end Naboscale.Cli.Keystore

/-! ## A full disk -/

namespace Naboscale.Cli.Keystore.Samples

open Rust

attribute [local instance] crates

/-- The keys of the directory so far, under the passphrase `p`. -/
def pair : Folder where
  path := "/etc/naboscale"
  entries := some fun name =>
    if name = KeyKind.identity.fileName then some (.file (envelope secret))
    else if name = KeyKind.wg.fileName then some (.file (envelope threes))
    else none

/-- There is no room for the temporary file of a kind. -/
def full (kind : KeyKind) (performed : List Operation) : Option Failure :=
  match performed.getLast? with
  | some (.write name _) =>
      if name = kind.tmpName then some ⟨.other "No space left on device", none⟩ else none
  | _ => none

/-- The new keys. -/
def draws : Draws where
  identity := ⟨List.replicate 32 5, rfl⟩
  wg := ⟨List.replicate 32 6, rfl⟩
  identitySalt := .zeros saltLen
  identityNonce := .zeros nonceLen
  wgSalt := .zeros saltLen
  wgNonce := .zeros nonceLen

/-- `init --force` under a passphrase, on a disk that is full when it comes to a kind. -/
def initForce (kind : KeyKind) (passphrase : Bytes) : Outcome Disk KeystoreError Unit :=
  cmdInit (fun _ => .ok []) "https://coord.example" true (.bytes passphrase) none draws
    ⟨pair, [], full kind⟩

/-- An error at the second file leaves the new identity with the old WireGuard key where the
passphrase is the same, and nothing that opens where it is another one. -/
theorem init_force_mixes :
    OpenedKeys.openDir (some [112]) pair = .ok ⟨secret, threes⟩ pair ∧
      (∃ e s', initForce .wg [112] = .err e s' ∧
        OpenedKeys.openDir (some [112]) s'.folder = .ok ⟨draws.identity, threes⟩ s'.folder) ∧
      ∃ e s', initForce .wg [113] = .err e s' ∧
        ∀ any keys, OpenedKeys.openDir any s'.folder ≠ .ok keys s'.folder := by
  obtain ⟨e, s', bytes, hrun, hbytes, hfile, e', hother⟩ : ∃ e s' bytes,
      initForce .wg [113] = .err e s' ∧
        encrypt draws.identity.val [113] (.zeros saltLen) (.zeros nonceLen) = .ok bytes ∧
        s'.folder.entry KeyKind.identity.fileName = some (.file bytes) ∧
        ∃ e', loadKey s'.folder .wg (some [113]) = .error e' := ⟨_, _, _, rfl, rfl, rfl, _, rfl⟩
  refine ⟨rfl, ⟨_, _, rfl, rfl⟩, e, s', hrun, fun any keys hopen => ?_⟩
  obtain ⟨hid, hwg⟩ := openDir_eq_ok_iff.1 hopen
  -- only the new passphrase opens the identity, and it does not open the old file
  by_cases hany : any = some [113]
  · rw [hany, hother] at hwg
    cases hwg
  · obtain ⟨e, he⟩ := loadKey_other (ideal _ _ _ _) hfile hbytes hany
    cases he.symm.trans hid

/-- An error at the first file leaves the old keys. -/
theorem init_force_keeps : ∃ e s', initForce .identity [113] = .err e s' ∧
    OpenedKeys.openDir (some [112]) s'.folder = .ok ⟨secret, threes⟩ s'.folder := by
  have hold : OpenedKeys.openDir (some [112]) pair = .ok ⟨secret, threes⟩ pair := rfl
  obtain ⟨e, s', hrun, hbefore⟩ : ∃ e s', initForce .identity [113] = .err e s' ∧
      .setPermissions KeyKind.identity.fileName ∉ s'.performed.drop 0 := ⟨_, _, rfl, by decide⟩
  exact ⟨e, s', hrun, (cmdInit_error aeadLaws hold hrun).1 hbefore⟩

end Naboscale.Cli.Keystore.Samples
