import Naboscale.Crypto.Basic
import Naboscale.Rust.Files

/-!
# The keystore

`keystore.rs`: two key files, each a version 2 envelope under a passphrase or the 32 bytes of a key
as version 1 wrote them. A file is read without changing anything, so reading is a function of the
directory; a file is replaced by a temporary file that is renamed.
-/

namespace Naboscale.Cli.Keystore

open Rust

/-- The crates `argon2`, `hkdf` and `chacha20poly1305`, as far as the keystore calls them. An error
is given by the text that it is displayed as. -/
class KeystoreCrates where
  /-- `argon2::Params`. -/
  Params : Type
  /-- `Params::new` of the memory in KiB, the passes, the lanes and the output length. -/
  paramsNew : ℕ → ℕ → ℕ → Option ℕ → Except String Params
  /-- `hash_password_into` of Argon2id at version 0x13, of a passphrase and a salt. -/
  hashPasswordInto : Params → Bytes → Bytes → Except String (Arr 32)
  /-- `expand_multi_info` of the `Hkdf::<Sha256>` with a salt and key material. -/
  expandMultiInfo : Bytes → Arr 32 → List Bytes → Except String (Arr 32)
  /-- `XChaCha20Poly1305::encrypt` with a key and a nonce, of a message and associated data. -/
  encrypt : Key → Bytes → Bytes → Bytes → Except String Bytes
  /-- `XChaCha20Poly1305::decrypt` with a key and a nonce, of a ciphertext and associated data. -/
  decrypt : Key → Bytes → Bytes → Bytes → Option Bytes

/-- `MAGIC`, the bytes of `NAB1`. -/
def magic : Bytes := [78, 65, 66, 49]

/-- `VERSION`. -/
def version : UInt8 := 2

/-- `SALT_LEN`. -/
def saltLen : ℕ := 16

/-- `NONCE_LEN`. -/
def nonceLen : ℕ := 24

/-- `HEADER_LEN`. -/
def headerLen : ℕ := 4 + 1 + 3 + saltLen + nonceLen

/-- `KEY_LEN`. -/
def keyLen : ℕ := 32

/-- `FILE_LEN`. -/
def fileLen : ℕ := headerLen + keyLen + 16

/-- The variants of `Error` that the keystore and `cmd_init` return. -/
inductive KeystoreError where
  | io (error : IoError)
  | badConfig (text : String)
  | notInitialized (path : String)
  | tomlSer (text : String)

/-- `KeyKind`. -/
inductive KeyKind where
  | identity
  | wg
  deriving DecidableEq

/-- `KeyKind::file_name`. -/
def KeyKind.fileName : KeyKind → String
  | identity => "identity.key"
  | wg => "wg.key"

/-! ## Envelopes -/

/-- The info of `expand_multi_info`, the bytes of `naboscale/v2/aead`. -/
def aeadInfo : Bytes :=
  [110, 97, 98, 111, 115, 99, 97, 108, 101, 47, 118, 50, 47, 97, 101, 97, 100]

section Envelopes

variable [KeystoreCrates]

/-- `derive_key`. -/
def deriveKey (passphrase salt : Bytes) : Except KeystoreError Key := do
  let params ← (KeystoreCrates.paramsNew (64 * 1024) 3 1 (some 32)).mapError fun e =>
    .badConfig s!"argon2 params invalid: {e}"
  let out ← (KeystoreCrates.hashPasswordInto params passphrase salt).mapError fun e =>
    .badConfig s!"argon2 KDF failed: {e}"
  (KeystoreCrates.expandMultiInfo salt out [aeadInfo]).mapError fun e =>
    .badConfig s!"hkdf expand failed: {e}"

/-- `encrypt`, with the salt and the nonce that it draws. The assertion on its length is
`length_of_encrypt`. -/
def encrypt (plaintext passphrase : Bytes) (salt : Arr saltLen) (nonce : Arr nonceLen) :
    Except KeystoreError Bytes := do
  let key ← deriveKey passphrase salt.val
  let ct ← (KeystoreCrates.encrypt key nonce.val plaintext []).mapError fun e =>
    .badConfig s!"encryption failed: {e}"
  pure (magic ++ [version] ++ [0, 0, 0] ++ salt.val ++ nonce.val ++ ct)

/-- `decrypt`. The first check puts every index and every slice after it in range. -/
def decrypt (envelope passphrase : Bytes) : Except KeystoreError Bytes :=
  if envelope.length ≠ fileLen then
    .error (.badConfig s!"envelope length {envelope.length} != expected {fileLen}")
  else if envelope.take 4 ≠ magic then
    .error (.badConfig "bad magic")
  else if envelope.getD 4 0 ≠ version then
    .error (.badConfig s!"unsupported keystore version {envelope.getD 4 0}")
  else do
    let salt := sub envelope 8 (8 + saltLen)
    let nonce := sub envelope (8 + saltLen) headerLen
    let ct := envelope.drop headerLen
    let key ← deriveKey passphrase salt
    match KeystoreCrates.decrypt key nonce ct [] with
    | some plaintext => .ok plaintext
    | none => .error (.badConfig "decryption failed (wrong passphrase or tampered file)")

end Envelopes

/-! ## Reading -/

/-- `is_v2`. -/
def isV2 (dir : Folder) (name : String) : Except KeystoreError Bool :=
  match dir.read name with
  | .ok bytes => if bytes.length < 4 then .ok false else .ok (bytes.take 4 == magic)
  | .error .notFound => .ok false
  | .error e => .error (.io e)

/-- `read_v1`. -/
def readV1 (dir : Folder) (kind : KeyKind) : Except KeystoreError Bytes := do
  let bytes ← (dir.read kind.fileName).mapError .io
  if bytes.length ≠ keyLen then
    .error (.badConfig s!"{kind.fileName} has wrong length {bytes.length} (expected {keyLen})")
  else .ok bytes

section Crates

variable [KeystoreCrates]

/-- `read_v2`. -/
def readV2 (dir : Folder) (kind : KeyKind) (passphrase : Bytes) : Except KeystoreError Bytes := do
  let bytes ← (dir.read kind.fileName).mapError .io
  decrypt bytes passphrase

/-- `load_key`. -/
def loadKey (dir : Folder) (kind : KeyKind) (passphrase : Option Bytes) :
    Except KeystoreError Bytes :=
  if dir.contains kind.fileName then do
    if ← isV2 dir kind.fileName then
      match passphrase with
      | some passphrase => readV2 dir kind passphrase
      | none => .error (.badConfig
          s!"{kind.fileName} is encrypted; set NABOSCALE_PASSPHRASE or pass --passphrase-file")
    else readV1 dir kind
  else .error (.notInitialized dir.path)

/-- `OpenedKeys`, by the secret bytes of both keys. -/
structure OpenedKeys where
  identity : Key
  wg : Key

/-- `OpenedKeys::open`. -/
def OpenedKeys.openDir (passphrase : Option Bytes) : Method Folder KeystoreError OpenedKeys := do
  let dir ← Method.get
  let idBytes ← .lift id (loadKey dir .identity passphrase)
  let wgBytes ← .lift id (loadKey dir .wg passphrase)
  let idArr ← (Arr.zeros keyLen).copyFromSlice 0 keyLen idBytes
  let wgArr ← (Arr.zeros keyLen).copyFromSlice 0 keyLen wgBytes
  pure ⟨idArr, wgArr⟩

end Crates

/-! ## Writing -/

/-- `write_atomic` of a name in the directory, on Unix. -/
def writeAtomic (name : String) (bytes : Bytes) : Method Disk IoError Unit := do
  let tmp := s!".{name}.tmp"
  Operation.createDirAll.perform
  (Operation.write tmp bytes).perform
  (Operation.rename tmp name).perform
  (Operation.setPermissions name).perform

section Crates

variable [KeystoreCrates]

/-- `save_v2`. -/
def saveV2 (kind : KeyKind) (plaintext passphrase : Bytes) (salt : Arr saltLen)
    (nonce : Arr nonceLen) : Method Disk KeystoreError Unit := do
  let bytes ← .lift id (encrypt plaintext passphrase salt nonce)
  .mapErr .io (writeAtomic kind.fileName bytes)

/-- `save_key`. -/
def saveKey (kind : KeyKind) (plaintext passphrase : Bytes) (salt : Arr saltLen)
    (nonce : Arr nonceLen) : Method Disk KeystoreError Unit :=
  if plaintext.length ≠ keyLen then
    .fail (.badConfig s!"key has wrong length {plaintext.length} (expected {keyLen})")
  else saveV2 kind plaintext passphrase salt nonce

end Crates

end Naboscale.Cli.Keystore
