import Naboscale.Cli.Envelopes

/-!
# Replacing one key

What the two key files are is all that `load_key` depends on. `write_atomic` leaves it as it is up
to its rename, and from the rename on the file of one kind has the new content.
-/

namespace Naboscale.Cli.Keystore

open Rust

/-- What the keystore is to `load_key`: the path of its directory and the two key files. -/
structure Keyring where
  path : String
  files : KeyKind → Option Entry

/-- The key files of a directory. -/
def keyring (dir : Folder) : Keyring := ⟨dir.path, fun kind => dir.entry kind.fileName⟩

/-- The key files with a new file of one kind. -/
def Keyring.replace (k : Keyring) (kind : KeyKind) (bytes : Bytes) : Keyring :=
  { k with files := Function.update k.files kind (some (.file bytes)) }

theorem Keyring.files_replace (k : Keyring) (kind : KeyKind) (bytes : Bytes) :
    (k.replace kind bytes).files kind = some (.file bytes) := Function.update_self ..

/-- The name of the temporary file. -/
def KeyKind.tmpName (kind : KeyKind) : String := s!".{kind.fileName}.tmp"

/-- The operations of `write_atomic`. -/
def steps (kind : KeyKind) (bytes : Bytes) : List Operation :=
  [.createDirAll, .write kind.tmpName bytes, .rename kind.tmpName kind.fileName,
    .setPermissions kind.fileName]

theorem KeyKind.fileName_ne_tmpName (kind other : KeyKind) : other.fileName ≠ kind.tmpName := by
  cases kind <;> cases other <;> decide

theorem KeyKind.fileName_injective : Function.Injective KeyKind.fileName := by
  intro kind other h
  cases kind <;> cases other <;> first | rfl | exact absurd h (by decide)

variable {dir : Folder} {kind : KeyKind} {bytes : Bytes}

@[simp] theorem keyring_create : keyring dir.create = keyring dir := by
  simp [keyring]

/-- The temporary file is no key file. -/
@[simp] theorem keyring_put_tmp (entry : Option Entry) :
    keyring (dir.put kind.tmpName entry) = keyring dir := by
  simp only [keyring, Folder.path_put, Keyring.mk.injEq, true_and]
  funext other
  exact Folder.entry_put_of_ne (kind.fileName_ne_tmpName other)

theorem keyring_put (hdir : dir.entries.isSome = true) :
    keyring (dir.put kind.fileName (some (.file bytes))) = (keyring dir).replace kind bytes := by
  simp only [keyring, Keyring.replace, Folder.path_put, Keyring.mk.injEq, true_and]
  funext other
  by_cases h : other = kind
  · rw [h, Function.update_self]
    exact Folder.entry_put_same hdir
  · rw [Function.update_of_ne h]
    exact Folder.entry_put_of_ne fun heq => h (KeyKind.fileName_injective heq)

theorem entry_of_replace {k : Keyring} (h : keyring dir = k.replace kind bytes) :
    dir.entry kind.fileName = some (.file bytes) :=
  (congrFun (congrArg Keyring.files h) kind).trans (k.files_replace kind bytes)

theorem entry_of_replace_ne {k : Keyring} {other : KeyKind} (h : keyring dir = k.replace kind bytes)
    (hne : other ≠ kind) : dir.entry other.fileName = k.files other :=
  (congrFun (congrArg Keyring.files h) other).trans (Function.update_of_ne hne ..)

/-! ## The steps -/

theorem writeAtomic_eq (kind : KeyKind) (bytes : Bytes) :
    writeAtomic kind.fileName bytes = Operation.performAll (steps kind bytes) := by
  simp only [steps, Operation.performAll, bind_pure_unit]
  rfl

/-- The directory with the temporary file. -/
def prepared (dir : Folder) (kind : KeyKind) (bytes : Bytes) : Folder :=
  dir.create.put kind.tmpName (some (.file bytes))

theorem keyring_prepared : keyring (prepared dir kind bytes) = keyring dir :=
  (keyring_put_tmp _).trans keyring_create

/-- The directory after the rename. -/
def renamed (dir : Folder) (kind : KeyKind) (bytes : Bytes) : Folder :=
  ((prepared dir kind bytes).put kind.fileName (some (.file bytes))).put kind.tmpName none

theorem keyring_renamed : keyring (renamed dir kind bytes) = (keyring dir).replace kind bytes := by
  rw [renamed, keyring_put_tmp, keyring_put rfl, keyring_prepared]

theorem applyAll_rename : Operation.applyAll ((steps kind bytes).take 3) dir =
    .ok (renamed dir kind bytes) := by
  have hentry : (prepared dir kind bytes).entry kind.tmpName = some (.file bytes) :=
    Folder.entry_put_same rfl
  show (Operation.rename kind.tmpName kind.fileName).apply (prepared dir kind bytes) >>= _ = _
  rw [Operation.apply, Folder.contains, hentry]
  rfl

theorem applyAll_steps : Operation.applyAll (steps kind bytes) dir =
    .ok (renamed dir kind bytes) := by
  have hentry : (renamed dir kind bytes).contains kind.fileName = true := by
    rw [Folder.contains, renamed, Folder.entry_put_of_ne (kind.fileName_ne_tmpName kind),
      Folder.entry_put_same rfl]
    rfl
  show Operation.applyAll ((steps kind bytes).take 3 ++ [.setPermissions kind.fileName]) dir = _
  rw [Operation.applyAll_append, applyAll_rename]
  show (Operation.setPermissions kind.fileName).apply (renamed dir kind bytes) >>= _ = _
  rw [Operation.apply, if_pos hentry]
  rfl

/-- The steps that were performed, and what they have made of the key files. -/
structure Performed (kind : KeyKind) (bytes : Bytes) (s s' : Disk) (ops : List Operation) :
    Prop where
  performed : s'.performed = s.performed ++ ops
  keys : keyring s'.folder =
    if ops = steps kind bytes then (keyring s.folder).replace kind bytes else keyring s.folder

namespace Performed

variable {s s' : Disk} {ops : List Operation}

theorem saved (h : Performed kind bytes s s' (steps kind bytes)) :
    keyring s'.folder = (keyring s.folder).replace kind bytes := by
  rw [h.keys, if_pos rfl]

theorem kept (h : Performed kind bytes s s' ops) (hops : ops ≠ steps kind bytes) :
    keyring s'.folder = keyring s.folder := by
  rw [h.keys, if_neg hops]

theorem drop (h : Performed kind bytes s s' ops) :
    s'.performed.drop s.performed.length = ops := by
  rw [h.performed, List.drop_left]

end Performed

/-- `write_atomic` performs its steps in order, up to one that fails. The key file has the new
content once the last step is reached, and before that every key file is as it was. -/
theorem wp_writeAtomic (kind : KeyKind) (bytes : Bytes) (s : Disk) :
    (writeAtomic kind.fileName bytes).wp
      ⟨fun _ s' => Performed kind bytes s s' (steps kind bytes),
        fun _ s' => ∃ ops, ops <+: steps kind bytes ∧ Performed kind bytes s s' ops,
        False⟩ s := by
  rw [writeAtomic_eq]
  refine Method.wp_mono (Operation.wp_performAll _ s) ?_ ?_ id
  · rintro - s' ⟨hperformed, happlied⟩
    refine ⟨hperformed, ?_⟩
    rw [if_pos rfl, ← Except.ok.inj (applyAll_steps.symm.trans happlied), keyring_renamed]
  · rintro - s' ⟨done, op, rest, d, hops, hperformed, happlied, hfolder⟩
    refine ⟨done ++ [op], ⟨rest, by rw [hops]; simp⟩, ⟨hperformed, ?_⟩⟩
    -- where it stopped
    rcases done with _ | ⟨a, _ | ⟨b, _ | ⟨c, _ | ⟨last, done⟩⟩⟩⟩
    · cases hops
      cases happlied
      have hsame : s'.folder = s.folder := hfolder.elim id fun ⟨_, h⟩ => h
      rw [if_neg nofun, hsame]
    · cases hops
      cases happlied
      rw [if_neg nofun]
      rcases hfolder with hfolder | ⟨failure, hfolder⟩
      · rw [hfolder, keyring_create]
      · rw [hfolder]
        exact (keyring_put_tmp _).trans keyring_create
    · cases hops
      cases happlied
      have hsame : s'.folder = prepared s.folder kind bytes := hfolder.elim id fun ⟨_, h⟩ => h
      rw [if_neg nofun, hsame, keyring_prepared]
    · cases hops
      have hd : renamed s.folder kind bytes = d :=
        Except.ok.inj (applyAll_rename.symm.trans happlied)
      have hall : ([.createDirAll, .write kind.tmpName bytes, .rename kind.tmpName kind.fileName] ++
          [.setPermissions kind.fileName] : List Operation) = steps kind bytes := rfl
      have hsame : s'.folder = d := hfolder.elim id fun ⟨_, h⟩ => h
      rw [if_pos hall, ← keyring_renamed, hd, hsame]
    · have hlength := congrArg List.length hops
      simp [steps] at hlength

/-! ## One key -/

section Crates

variable [KeystoreCrates] {passphrase plaintext : Bytes} {salt : Arr saltLen}
  {nonce : Arr nonceLen}

/-- `save_key` replaces the file of its kind by an envelope, or stops before that. -/
theorem wp_saveKey (kind : KeyKind) (plaintext passphrase : Bytes) (salt : Arr saltLen)
    (nonce : Arr nonceLen) (s : Disk) :
    (saveKey kind plaintext passphrase salt nonce).wp
      ⟨fun _ s' => plaintext.length = keyLen ∧ ∃ bytes,
          encrypt plaintext passphrase salt nonce = .ok bytes ∧
            Performed kind bytes s s' (steps kind bytes),
        fun _ s' => s' = s ∨ plaintext.length = keyLen ∧ ∃ bytes ops,
          encrypt plaintext passphrase salt nonce = .ok bytes ∧ ops <+: steps kind bytes ∧
            Performed kind bytes s s' ops,
        False⟩ s := by
  rw [saveKey]
  split
  · exact .inl rfl
  · rename_i hlength
    replace hlength := not_not.1 hlength
    rw [saveV2, Method.wp_bind, Method.wp_lift]
    refine ⟨fun bytes hbytes => ?_, fun _ _ => .inl rfl⟩
    refine (Method.wp_mapErr _ _).2 (Method.wp_mono (wp_writeAtomic kind bytes s) ?_ ?_ id)
    · exact fun _ _ hdone => ⟨hlength, bytes, hbytes, hdone⟩
    · rintro - s' ⟨ops, hops, hdone⟩
      exact .inr ⟨hlength, bytes, ops, hbytes, hops, hdone⟩

/-- What is loaded depends on the key files alone. -/
theorem loadKey_of_keyring {dir dir' : Folder} (h : keyring dir' = keyring dir) (kind : KeyKind)
    (passphrase : Option Bytes) : loadKey dir' kind passphrase = loadKey dir kind passphrase :=
  loadKey_congr (congrArg Keyring.path h) (congrFun (congrArg Keyring.files h) kind) passphrase

/-- Argon2id with HKDF and the AEAD are ideal at a passphrase, a salt, a nonce and a secret: no
other passphrase derives the same key from the salt, and no other key that one derives from it opens
the ciphertext. -/
structure Ideal (passphrase : Bytes) (salt : Arr saltLen) (nonce : Arr nonceLen) (secret : Bytes) :
    Prop where
  derives_apart {other : Bytes} {key : Key} : other ≠ passphrase →
    deriveKey passphrase salt.val = .ok key → deriveKey other salt.val ≠ .ok key
  opens_only {other ct : Bytes} {key key' : Key} : deriveKey passphrase salt.val = .ok key →
    deriveKey other salt.val = .ok key' → key' ≠ key →
    KeystoreCrates.encrypt key nonce.val secret [] = .ok ct →
    KeystoreCrates.decrypt key' nonce.val ct [] = none

/-- An envelope does not open under another passphrase. -/
theorem decrypt_other {secret bytes other : Bytes} (hideal : Ideal passphrase salt nonce secret)
    (h : encrypt secret passphrase salt nonce = .ok bytes) (hother : other ≠ passphrase) :
    ∃ e, decrypt bytes other = .error e := by
  cases hdecrypt : decrypt bytes other with
  | error e => exact ⟨e, rfl⟩
  | ok found =>
      obtain ⟨key, ct, hkey, hct, rfl⟩ := encrypt_eq_ok_iff.1 h
      have hparts := parts_envelope salt nonce ct
      obtain ⟨-, -, -, key', hkey', hopens⟩ := decrypt_eq_ok_iff.1 hdecrypt
      rw [hparts.salt] at hkey'
      rw [hparts.nonce, hparts.ct] at hopens
      have hne : key' ≠ key := fun heq => hideal.derives_apart hother hkey (heq ▸ hkey')
      cases (hideal.opens_only hkey hkey' hne hct).symm.trans hopens

/-- A file that holds an envelope gives nothing to another passphrase. -/
theorem loadKey_other {dir : Folder} {secret : Bytes} {other : Option Bytes}
    (hideal : Ideal passphrase salt nonce secret)
    (hfile : dir.entry kind.fileName = some (.file bytes))
    (hbytes : encrypt secret passphrase salt nonce = .ok bytes) (hother : other ≠ some passphrase) :
    ∃ e, loadKey dir kind other = .error e := by
  rw [loadKey_file hfile, if_pos (take_of_encrypt hbytes)]
  cases other with
  | none => exact ⟨_, rfl⟩
  | some other => exact decrypt_other hideal hbytes fun heq => hother (congrArg some heq)

/-- Where a save succeeds, the key is loaded with its passphrase, and with nothing else; the other
key is what it was. Where it fails up to the rename, both keys are what they were. -/
theorem saveKey_replaces (haead : AeadLaws) (kind : KeyKind) (secret : Key) (passphrase : Bytes)
    (salt : Arr saltLen) (nonce : Arr nonceLen) (hideal : Ideal passphrase salt nonce secret.val)
    (s : Disk) :
    (saveKey kind secret.val passphrase salt nonce).wp
      ⟨fun _ s' => loadKey s'.folder kind (some passphrase) = .ok secret.val ∧
          (∀ other, other ≠ some passphrase → ∃ e, loadKey s'.folder kind other = .error e) ∧
          ∀ kind', kind' ≠ kind → s'.folder.entry kind'.fileName = s.folder.entry kind'.fileName ∧
            ∀ any, loadKey s'.folder kind' any = loadKey s.folder kind' any,
        fun _ s' => .setPermissions kind.fileName ∉ s'.performed.drop s.performed.length →
          ∀ kind' any, loadKey s'.folder kind' any = loadKey s.folder kind' any,
        False⟩ s := by
  refine Method.wp_mono (wp_saveKey kind secret.val passphrase salt nonce s) ?_ ?_ id
  · rintro - s' ⟨-, bytes, hbytes, hdone⟩
    have hfile : s'.folder.entry kind.fileName = some (.file bytes) := entry_of_replace hdone.saved
    refine ⟨loadKey_envelope haead hfile hbytes secret.length_eq,
      fun other hother => loadKey_other hideal hfile hbytes hother, fun kind' hne => ?_⟩
    · have hentry : s'.folder.entry kind'.fileName = s.folder.entry kind'.fileName :=
        entry_of_replace_ne hdone.saved hne
      exact ⟨hentry, loadKey_congr (congrArg Keyring.path hdone.saved) hentry⟩
  · rintro - s' (rfl | ⟨-, bytes, ops, -, -, hdone⟩) hbefore
    · exact fun _ _ => rfl
    · rw [hdone.drop] at hbefore
      have hops : ops ≠ steps kind bytes := fun heq => hbefore (by simp [heq, steps])
      exact loadKey_of_keyring (hdone.kept hops)

end Crates

end Naboscale.Cli.Keystore

/-! ## A save -/

namespace Naboscale.Cli.Keystore.Samples

open Rust

attribute [local instance] crates

/-- Every passphrase that derives a key derives another one than all the others. -/
theorem ideal (passphrase : Bytes) (salt : Arr saltLen) (nonce : Arr nonceLen) (secret : Bytes) :
    Ideal passphrase salt nonce secret where
  derives_apart := by
    intro other key hother hkey hkey'
    rw [deriveKey_eq_ok_iff] at hkey hkey'
    have hpack : pack other = pack passphrase :=
      List.append_cancel_right (hkey'.2.symm.trans hkey.2)
    exact hother (pack_injective hkey'.1.1 hkey.1.1 hpack)
  opens_only := by
    intro other ct key key' hkey hkey' hne hct
    rw [deriveKey_eq_ok_iff] at hkey hkey'
    cases hct
    show (if List.drop _ _ = key'.val.take 16 then _ else none) = none
    rw [List.length_append, length_tag, Nat.add_sub_cancel, List.drop_left]
    refine if_neg fun htag => hne (Subtype.ext ?_)
    rw [hkey.2, hkey'.2, List.take_left' (length_pack hkey.1.1),
      List.take_left' (length_pack hkey'.1.1)] at htag
    rw [hkey.2, hkey'.2, htag]

/-- An empty directory, in which nothing fails. -/
def fresh : Disk := ⟨⟨"/etc/naboscale", some fun _ => none⟩, [], fun _ => none⟩

/-- The key of the test `roundtrip_encrypted`. -/
def secret : Key := ⟨List.replicate 32 42, rfl⟩

/-- Saved under a passphrase, it is loaded with that one only. -/
theorem saved_key_loads : ∃ s',
    saveKey .identity secret.val [112] (.zeros saltLen) (.zeros nonceLen) fresh = .ok () s' ∧
      loadKey s'.folder .identity (some [112]) = .ok secret.val ∧
      ∀ other, other ≠ some [112] → ∃ e, loadKey s'.folder .identity other = .error e := by
  have hsafe := saveKey_replaces aeadLaws .identity secret [112] (.zeros saltLen) (.zeros nonceLen)
    (ideal _ _ _ _) fresh
  have hok : (saveKey .identity secret.val [112] (.zeros saltLen) (.zeros nonceLen)
      fresh).okAnd (fun _ _ => true) = true := by decide +kernel
  obtain ⟨⟨⟩, s', hrun, -⟩ := Outcome.okAnd_iff.1 hok
  rw [Method.wp, hrun] at hsafe
  exact ⟨s', hrun, hsafe.1, hsafe.2.1⟩

end Naboscale.Cli.Keystore.Samples
