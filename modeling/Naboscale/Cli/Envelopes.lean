import Naboscale.Cli.Keystore

/-!
# What an envelope opens to

`decrypt` accepts an envelope exactly if its first five bytes are those of version 2 and the rest
from the salt on is what `encrypt` makes under the passphrase. The three bytes in between are read
by nothing.
-/

namespace Naboscale.Cli.Keystore

open Rust

variable [KeystoreCrates]

/-- A ciphertext is 16 bytes longer than its message, and decrypts under its key and nonce to the
message that encrypts to it there, and to nothing else. -/
structure AeadLaws : Prop where
  length_eq {key : Key} {nonce msg aad ct : Bytes} :
    KeystoreCrates.encrypt key nonce msg aad = .ok ct → ct.length = msg.length + 16
  decrypt_iff {key : Key} {nonce msg aad ct : Bytes} : nonce.length = nonceLen →
    (KeystoreCrates.decrypt key nonce ct aad = some msg ↔
      KeystoreCrates.encrypt key nonce msg aad = .ok ct)

/-- The bytes are an envelope of the secret under the passphrase. -/
def Envelops (passphrase secret bytes : Bytes) : Prop :=
  ∃ salt nonce, encrypt secret passphrase salt nonce = .ok bytes

variable {dir : Folder} {kind : KeyKind} {passphrase secret bytes : Bytes} {salt : Arr saltLen}
  {nonce : Arr nonceLen}

/-! ## Writing one -/

theorem encrypt_eq_ok_iff :
    encrypt secret passphrase salt nonce = .ok bytes ↔
      ∃ key ct, deriveKey passphrase salt.val = .ok key ∧
        KeystoreCrates.encrypt key nonce.val secret [] = .ok ct ∧
        bytes = magic ++ [version] ++ [0, 0, 0] ++ salt.val ++ nonce.val ++ ct := by
  rw [encrypt]
  constructor
  · intro h
    obtain ⟨key, hkey, h⟩ := ok_of_bind h
    obtain ⟨ct, hct, h⟩ := ok_of_bind h
    cases hencrypt : KeystoreCrates.encrypt key nonce.val secret [] with
    | error e =>
        rw [hencrypt] at hct
        cases hct
    | ok made =>
        rw [hencrypt] at hct
        cases hct
        cases h
        exact ⟨key, ct, hkey, hencrypt, rfl⟩
  · rintro ⟨key, ct, hkey, hct, rfl⟩
    rw [hkey]
    show (do
      let ct ← (KeystoreCrates.encrypt key nonce.val secret []).mapError _
      pure _) = _
    rw [hct]
    rfl

/-- The parts of an envelope are where `decrypt` looks for them. -/
structure Parts (bytes : Bytes) (salt nonce ct : Bytes) : Prop where
  magic : bytes.take 4 = magic
  version : bytes.getD 4 0 = version
  salt : sub bytes 8 (8 + saltLen) = salt
  nonce : sub bytes (8 + saltLen) headerLen = nonce
  ct : bytes.drop headerLen = ct

omit [KeystoreCrates] in
/-- What follows the reserved bytes, in the three parts that `decrypt` takes it to be. -/
theorem drop_eq_parts (bytes : Bytes) :
    bytes.drop 8 = sub bytes 8 (8 + saltLen) ++ sub bytes (8 + saltLen) headerLen ++
      bytes.drop headerLen := by
  have hnonce : sub bytes (8 + saltLen) headerLen ++ bytes.drop headerLen =
      (bytes.drop 8).drop saltLen := by
    rw [List.drop_drop, ← List.take_append_drop nonceLen (bytes.drop (8 + saltLen)), List.drop_drop]
    rfl
  rw [List.append_assoc, hnonce]
  exact (List.take_append_drop saltLen (bytes.drop 8)).symm

omit [KeystoreCrates] in
theorem Parts.drop {salt nonce ct : Bytes} (h : Parts bytes salt nonce ct) :
    bytes.drop 8 = salt ++ nonce ++ ct := by
  rw [drop_eq_parts, h.salt, h.nonce, h.ct]

omit [KeystoreCrates] in
theorem parts_envelope (salt : Arr saltLen) (nonce : Arr nonceLen) (ct : Bytes) :
    Parts (magic ++ [version] ++ [0, 0, 0] ++ salt.val ++ nonce.val ++ ct) salt.val nonce.val
      ct where
  magic := rfl
  version := rfl
  salt := by
    rw [List.append_assoc _ nonce.val]
    exact sub_append rfl salt.length_eq
  nonce := by
    refine sub_append ?_ nonce.length_eq
    rw [List.length_append, salt.length_eq]
    rfl
  ct := by
    refine List.drop_left' ?_
    rw [List.length_append, List.length_append, salt.length_eq, nonce.length_eq]
    rfl

theorem take_of_encrypt (h : encrypt secret passphrase salt nonce = .ok bytes) :
    bytes.take 4 = magic := by
  obtain ⟨key, ct, -, -, rfl⟩ := encrypt_eq_ok_iff.1 h
  exact (parts_envelope salt nonce ct).magic

/-- The assertion of `encrypt`. -/
theorem length_of_encrypt (haead : AeadLaws) (h : encrypt secret passphrase salt nonce = .ok bytes)
    (hsecret : secret.length = keyLen) : bytes.length = fileLen := by
  obtain ⟨key, ct, -, hct, rfl⟩ := encrypt_eq_ok_iff.1 h
  have hlength := haead.length_eq hct
  rw [hsecret] at hlength
  rw [List.length_append, List.length_append, List.length_append, salt.length_eq, nonce.length_eq,
    hlength]
  rfl

/-! ## Reading one -/

theorem decrypt_eq_ok_iff :
    decrypt bytes passphrase = .ok secret ↔
      bytes.length = fileLen ∧ bytes.take 4 = magic ∧ bytes.getD 4 0 = version ∧
        ∃ key, deriveKey passphrase (sub bytes 8 (8 + saltLen)) = .ok key ∧
          KeystoreCrates.decrypt key (sub bytes (8 + saltLen) headerLen) (bytes.drop headerLen) [] =
            some secret := by
  rw [decrypt]
  by_cases hlength : bytes.length = fileLen
  · rw [if_neg (not_not.2 hlength)]
    by_cases hmagic : bytes.take 4 = magic
    · rw [if_neg (not_not.2 hmagic)]
      by_cases hversion : bytes.getD 4 0 = version
      · rw [if_neg (not_not.2 hversion)]
        constructor
        · intro h
          obtain ⟨key, hkey, h⟩ := ok_of_bind h
          split at h
          · cases h
            exact ⟨hlength, hmagic, hversion, key, hkey, ‹_›⟩
          · cases h
        · rintro ⟨-, -, -, key, hkey, hopens⟩
          simp only [hkey, hopens, bind, Except.bind]
      · rw [if_pos hversion]
        exact iff_of_false (fun h => by cases h) fun h => hversion h.2.2.1
    · rw [if_pos hmagic]
      exact iff_of_false (fun h => by cases h) fun h => hmagic h.2.1
  · rw [if_pos hlength]
    exact iff_of_false (fun h => by cases h) fun h => hlength h.1

/-- An envelope opens under its passphrase. -/
theorem decrypt_encrypt (haead : AeadLaws) (h : encrypt secret passphrase salt nonce = .ok bytes)
    (hsecret : secret.length = keyLen) : decrypt bytes passphrase = .ok secret := by
  have hlength := length_of_encrypt haead h hsecret
  obtain ⟨key, ct, hkey, hct, rfl⟩ := encrypt_eq_ok_iff.1 h
  have hparts := parts_envelope salt nonce ct
  refine decrypt_eq_ok_iff.2 ⟨hlength, hparts.magic, hparts.version, key, ?_, ?_⟩
  · rw [hparts.salt, hkey]
  · rw [hparts.nonce, hparts.ct, haead.decrypt_iff nonce.length_eq]
    exact hct

omit [KeystoreCrates] in
theorem take_five_iff (hlength : 4 < bytes.length) :
    bytes.take 5 = magic ++ [version] ↔ bytes.take 4 = magic ∧ bytes.getD 4 0 = version := by
  have htake : bytes.take 5 = bytes.take 4 ++ [bytes.getD 4 0] := by
    rw [List.take_add_one, List.getD_eq_getElem?_getD, List.getElem?_eq_getElem hlength]
    rfl
  rw [htake]
  constructor
  · intro h
    exact ⟨List.append_inj_left' h rfl, List.singleton_inj.1 (List.append_inj_right' h rfl)⟩
  · rintro ⟨hmagic, hversion⟩
    rw [hmagic, hversion]

/-- `decrypt` looks at the first five bytes, and from the eighth on for what `encrypt` makes under
the passphrase. -/
theorem decrypt_eq_ok_iff_envelops (haead : AeadLaws) :
    decrypt bytes passphrase = .ok secret ↔
      bytes.length = fileLen ∧ bytes.take 5 = magic ++ [version] ∧
        ∃ written, Envelops passphrase secret written ∧ written.drop 8 = bytes.drop 8 := by
  rw [decrypt_eq_ok_iff]
  constructor
  · rintro ⟨hlength, hmagic, hversion, key, hkey, hopens⟩
    have hsalt : (sub bytes 8 (8 + saltLen)).length = saltLen := by
      rw [sub_length (hlength.symm ▸ by decide)]
      rfl
    have hnonce : (sub bytes (8 + saltLen) headerLen).length = nonceLen := by
      rw [sub_length (hlength.symm ▸ by decide)]
      rfl
    have hct := (haead.decrypt_iff hnonce).1 hopens
    refine ⟨hlength, (take_five_iff (hlength.symm ▸ by decide)).2 ⟨hmagic, hversion⟩, _,
      ⟨⟨_, hsalt⟩, ⟨_, hnonce⟩, encrypt_eq_ok_iff.2 ⟨key, _, hkey, hct, rfl⟩⟩, ?_⟩
    exact (parts_envelope ⟨_, hsalt⟩ ⟨_, hnonce⟩ _).drop.trans (drop_eq_parts bytes).symm
  · rintro ⟨hlength, hfive, written, ⟨salt, nonce, hwritten⟩, hdrop⟩
    obtain ⟨hmagic, hversion⟩ := (take_five_iff (hlength.symm ▸ by decide)).1 hfive
    obtain ⟨key, ct, hkey, hct, rfl⟩ := encrypt_eq_ok_iff.1 hwritten
    have hparts := parts_envelope salt nonce ct
    have hsalt : sub bytes 8 (8 + saltLen) = salt.val := by
      rw [sub, ← hdrop]
      exact hparts.salt
    have hnonce : sub bytes (8 + saltLen) headerLen = nonce.val := by
      rw [sub, ← List.drop_drop, ← hdrop, List.drop_drop]
      exact hparts.nonce
    have hrest : bytes.drop headerLen = ct := by
      rw [← hparts.ct]
      show bytes.drop (8 + 40) = List.drop (8 + 40) _
      rw [← List.drop_drop, ← List.drop_drop, hdrop]
    refine ⟨hlength, hmagic, hversion, key, hsalt ▸ hkey, ?_⟩
    rw [hnonce, hrest, haead.decrypt_iff nonce.length_eq]
    exact hct

/-! ## Files -/

/-- A file is read as an envelope if it starts like one, whatever its length. -/
theorem loadKey_file (h : dir.entry kind.fileName = some (.file bytes))
    (passphrase : Option Bytes) :
    loadKey dir kind passphrase =
      if bytes.take 4 = magic then
        match passphrase with
        | some passphrase => decrypt bytes passphrase
        | none => .error (.badConfig
            s!"{kind.fileName} is encrypted; set NABOSCALE_PASSPHRASE or pass --passphrase-file")
      else if bytes.length = keyLen then .ok bytes
      else .error (.badConfig
        s!"{kind.fileName} has wrong length {bytes.length} (expected {keyLen})") := by
  have hcontains : dir.contains kind.fileName = true := Folder.contains_iff.2 ⟨_, h⟩
  have hread : dir.read kind.fileName = .ok bytes := Folder.read_file h
  have hv2 : isV2 dir kind.fileName = .ok (bytes.take 4 == magic) := by
    rw [isV2, hread]
    show (if bytes.length < 4 then Except.ok false else .ok (bytes.take 4 == magic)) = _
    split
    · have hne : bytes.take 4 ≠ magic := fun heq => by
        have hshort := congrArg List.length heq
        rw [List.length_take] at hshort
        change min 4 bytes.length = 4 at hshort
        omega
      rw [beq_eq_false_iff_ne.2 hne]
    · rfl
  unfold loadKey
  rw [if_pos hcontains, hv2]
  by_cases hmagic : bytes.take 4 = magic
  · rw [if_pos hmagic, beq_iff_eq.2 hmagic]
    cases passphrase with
    | none => rfl
    | some passphrase =>
        show readV2 dir kind passphrase = _
        rw [readV2, hread]
        rfl
  · rw [if_neg hmagic, beq_eq_false_iff_ne.2 hmagic]
    show readV1 dir kind = _
    rw [readV1, hread]
    show (if bytes.length ≠ keyLen then _ else _) = _
    rw [ite_not]

/-- What is loaded depends on nothing but the path and what the name stands for. -/
theorem loadKey_congr {dir' : Folder} (hpath : dir'.path = dir.path)
    (hentry : dir'.entry kind.fileName = dir.entry kind.fileName) (passphrase : Option Bytes) :
    loadKey dir' kind passphrase = loadKey dir kind passphrase := by
  have hcontains : dir'.contains kind.fileName = dir.contains kind.fileName := by
    rw [Folder.contains, Folder.contains, hentry]
  have hread : dir'.read kind.fileName = dir.read kind.fileName := by
    rw [Folder.read, Folder.read, hentry]
  simp only [loadKey, isV2, readV1, readV2, hcontains, hread, hpath]

/-- A file that holds an envelope gives its secret. -/
theorem loadKey_envelope (haead : AeadLaws) (h : dir.entry kind.fileName = some (.file bytes))
    (hbytes : encrypt secret passphrase salt nonce = .ok bytes) (hsecret : secret.length = keyLen) :
    loadKey dir kind (some passphrase) = .ok secret := by
  rw [loadKey_file h, if_pos (take_of_encrypt hbytes)]
  exact decrypt_encrypt haead hbytes hsecret

theorem loadKey_missing (h : dir.entry kind.fileName = none) (passphrase : Option Bytes) :
    loadKey dir kind passphrase = .error (.notInitialized dir.path) := by
  have hcontains : dir.contains kind.fileName = false := by
    rw [Folder.contains, h]
    rfl
  unfold loadKey
  rw [hcontains]
  rfl

theorem loadKey_unreadable {text : String} (h : dir.entry kind.fileName = some (.unreadable text))
    (passphrase : Option Bytes) :
    loadKey dir kind passphrase = .error (.io (.other text)) := by
  have hcontains : dir.contains kind.fileName = true := Folder.contains_iff.2 ⟨_, h⟩
  have hv2 : isV2 dir kind.fileName = .error (.io (.other text)) := by
    rw [isV2, Folder.read, h]
  unfold loadKey
  rw [if_pos hcontains, hv2]
  rfl

/-- What opens has the length of a key. -/
theorem length_of_decrypt (haead : AeadLaws) (h : decrypt bytes passphrase = .ok secret) :
    secret.length = keyLen := by
  obtain ⟨hlength, -, -, key, -, hopens⟩ := decrypt_eq_ok_iff.1 h
  have hnonce : (sub bytes (8 + saltLen) headerLen).length = nonceLen := by
    rw [sub_length (hlength.symm ▸ by decide)]
    rfl
  have hct := haead.length_eq ((haead.decrypt_iff hnonce).1 hopens)
  rw [List.length_drop, hlength] at hct
  exact Nat.add_right_cancel hct.symm

/-- Whatever is loaded has the length of a key. -/
theorem length_of_loadKey (haead : AeadLaws) {passphrase : Option Bytes}
    (h : loadKey dir kind passphrase = .ok secret) : secret.length = keyLen := by
  match hentry : dir.entry kind.fileName with
  | none => cases (loadKey_missing hentry passphrase).symm.trans h
  | some (.unreadable text) => cases (loadKey_unreadable hentry passphrase).symm.trans h
  | some (.file bytes) =>
      rw [loadKey_file hentry] at h
      split at h
      · cases passphrase with
        | none => cases h
        | some passphrase => exact length_of_decrypt haead h
      · split at h
        · rename_i hlength
          cases h
          exact hlength
        · cases h

/-! ## Files of version 1 -/

/-- A file of 32 bytes is a key of version 1, unless the key starts like an envelope: then no
passphrase loads it. -/
theorem loadKey_legacy {key : Key} (h : dir.entry kind.fileName = some (.file key.val))
    (passphrase : Option Bytes) :
    loadKey dir kind passphrase = .ok key.val ↔ key.val.take 4 ≠ magic := by
  rw [loadKey_file h]
  by_cases hmagic : key.val.take 4 = magic
  · rw [if_pos hmagic]
    refine iff_of_false ?_ (not_not.2 hmagic)
    cases passphrase with
    | none => exact nofun
    | some passphrase =>
        have hlength : key.val.length ≠ fileLen := by
          rw [key.length_eq]
          decide
        show decrypt key.val passphrase ≠ _
        rw [decrypt, if_pos hlength]
        exact nofun
  · rw [if_neg hmagic, if_pos (show key.val.length = keyLen from key.length_eq)]
    exact iff_of_true rfl hmagic

/-- Whatever passphrase there is, a key of version 1 is loaded exactly if its first four bytes are
not those of an envelope. -/
theorem legacy_loads_iff {key : Key} (h : dir.entry kind.fileName = some (.file key.val)) :
    (∀ passphrase, loadKey dir kind passphrase = .ok key.val) ↔ key.val.take 4 ≠ magic := by
  simp only [loadKey_legacy h, forall_const]

end Naboscale.Cli.Keystore

/-! ## Crates that compute

A passphrase of at most 15 bytes is the first half of its key, the salt is the second half, and the
tag of a ciphertext is the first half of the key. -/

namespace Naboscale.Cli.Keystore.Samples

open Rust

/-- A passphrase with its length, filled up to 16 bytes. -/
def pack (passphrase : Bytes) : Bytes :=
  UInt8.ofNat passphrase.length :: (passphrase ++ List.replicate (15 - passphrase.length) 0)

theorem length_pack {passphrase : Bytes} (h : passphrase.length ≤ 15) :
    (pack passphrase).length = 16 := by
  simp only [pack, List.length_cons, List.length_append, List.length_replicate]
  omega

theorem pack_injective {passphrase other : Bytes} (h : passphrase.length ≤ 15)
    (hother : other.length ≤ 15) (heq : pack passphrase = pack other) : passphrase = other := by
  obtain ⟨hlength, hrest⟩ := List.cons.inj heq
  have hnat : passphrase.length = other.length := by
    have := congrArg UInt8.toNat hlength
    rw [UInt8.toNat_ofNat', UInt8.toNat_ofNat'] at this
    omega
  exact List.append_inj_left hrest hnat

/-- The key of a passphrase and a salt. -/
def key (passphrase salt : Bytes) : Except String Key :=
  if h : passphrase.length ≤ 15 ∧ salt.length = 16 then
    .ok ⟨pack passphrase ++ salt, by rw [List.length_append, length_pack h.1, h.2]⟩
  else .error "password is too long"

theorem key_eq_ok_iff {passphrase salt : Bytes} {made : Key} :
    key passphrase salt = .ok made ↔
      (passphrase.length ≤ 15 ∧ salt.length = 16) ∧ made.val = pack passphrase ++ salt := by
  rw [key]
  split
  · rename_i h
    rw [Except.ok.injEq, Subtype.ext_iff, eq_comm]
    exact (and_iff_right h).symm
  · rename_i h
    exact iff_of_false nofun fun hmade => h hmade.1

/-- The crates. -/
@[reducible] def crates : KeystoreCrates where
  Params := Unit
  paramsNew _ _ _ _ := .ok ()
  hashPasswordInto _ passphrase salt := key passphrase salt
  expandMultiInfo _ material _ := .ok material
  encrypt key _ msg _ := .ok (msg ++ key.val.take 16)
  decrypt key _ ct _ :=
    if ct.drop (ct.length - 16) = key.val.take 16 then some (ct.take (ct.length - 16)) else none

attribute [local instance] crates

theorem deriveKey_eq_ok_iff {passphrase salt : Bytes} {made : Key} :
    deriveKey passphrase salt = .ok made ↔
      (passphrase.length ≤ 15 ∧ salt.length = 16) ∧ made.val = pack passphrase ++ salt := by
  rw [← key_eq_ok_iff]
  show ((key passphrase salt).mapError _ >>= fun out => Except.ok out) = _ ↔ _
  cases key passphrase salt with
  | error e => exact iff_of_false nofun nofun
  | ok found =>
      show Except.ok found = .ok made ↔ Except.ok found = .ok made
      rw [Except.ok.injEq, Except.ok.injEq]

theorem length_tag (key : Key) : (key.val.take 16).length = 16 := by
  rw [List.length_take, key.length_eq]
  rfl

theorem aeadLaws : AeadLaws where
  length_eq := by
    intro key nonce msg aad ct h
    cases h
    rw [List.length_append, length_tag]
  decrypt_iff := by
    intro key nonce msg aad ct hnonce
    show (if ct.drop (ct.length - 16) = key.val.take 16 then some (ct.take (ct.length - 16))
      else none) = some msg ↔ Except.ok (msg ++ key.val.take 16) = .ok ct
    constructor
    · intro h
      split at h
      · rename_i htag
        rw [← Option.some.inj h, ← htag, List.take_append_drop]
      · cases h
    · intro h
      cases h
      rw [List.length_append, length_tag, Nat.add_sub_cancel, List.drop_left, if_pos rfl,
        List.take_left]

/-! ## Two old keys -/

/-- A directory with one key file. -/
def holding (kind : KeyKind) (bytes : Bytes) : Folder :=
  ⟨"/etc/naboscale", some fun name => if name = kind.fileName then some (.file bytes) else none⟩

theorem entry_holding (kind : KeyKind) (bytes : Bytes) :
    (holding kind bytes).entry kind.fileName = some (.file bytes) := if_pos rfl

/-- A key that starts with the bytes of `NAB1`. -/
def unlucky : Key := ⟨magic ++ List.replicate 28 7, rfl⟩

/-- The file of the test `legacy_v1_still_loads`. -/
def threes : Key := ⟨List.replicate 32 3, rfl⟩

/-- A key of version 1 that starts like an envelope is not loaded. -/
theorem unlucky_key_refused :
    (holding .wg unlucky.val).entry KeyKind.wg.fileName = some (.file unlucky.val) ∧
      ¬ ∀ passphrase, loadKey (holding .wg unlucky.val) .wg passphrase = .ok unlucky.val := by
  refine ⟨entry_holding .wg _, fun h => ?_⟩
  exact (loadKey_legacy (entry_holding .wg _) none).1 (h none) rfl

/-- One that does not is. -/
theorem threes_loaded :
    (holding .wg threes.val).entry KeyKind.wg.fileName = some (.file threes.val) ∧
      ∀ passphrase, loadKey (holding .wg threes.val) .wg passphrase = .ok threes.val :=
  ⟨entry_holding .wg _, (legacy_loads_iff (entry_holding .wg _)).2 (by decide)⟩

end Naboscale.Cli.Keystore.Samples
