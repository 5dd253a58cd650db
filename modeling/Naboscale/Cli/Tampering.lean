import Naboscale.Cli.Replacement

/-!
# An altered key file

`load_key` checks the magic and the version of an envelope, and the AEAD binds everything from the
salt on. Nothing checks the reserved bytes, and nothing binds an envelope to the kind of its key.
-/

namespace Naboscale.Cli.Keystore

open Rust

variable [KeystoreCrates] {kind : KeyKind} {passphrase secret written altered : Bytes} {key : Key}
  {salt : Arr saltLen} {nonce : Arr nonceLen} {s s' : Disk} {made : Set Bytes}

/-- What `save_key` wrote. -/
theorem encrypt_of_saveKey (hsave : saveKey kind secret passphrase salt nonce s = .ok () s')
    (hwritten : s'.folder.entry kind.fileName = some (.file written)) :
    secret.length = keyLen ∧ encrypt secret passphrase salt nonce = .ok written := by
  have hspec := wp_saveKey kind secret passphrase salt nonce s
  rw [Method.wp, hsave] at hspec
  obtain ⟨hlength, bytes, hbytes, hdone⟩ := hspec
  cases (entry_of_replace hdone.saved).symm.trans hwritten
  exact ⟨hlength, hbytes⟩

theorem take_five_of_encrypt (h : encrypt secret passphrase salt nonce = .ok written) :
    written.take 5 = magic ++ [version] := by
  obtain ⟨key, ct, -, -, rfl⟩ := encrypt_eq_ok_iff.1 h
  rfl

/-- The envelopes that were made under a passphrase. What an altered file has from the salt on is
either from one of them, or nothing that `encrypt` makes under the passphrase: whoever alters the
file cannot seal under a key that he does not know. -/
structure Unforged (passphrase altered : Bytes) (made : Set Bytes) : Prop where
  envelops {bytes : Bytes} : bytes ∈ made → ∃ secret, Envelops passphrase secret bytes
  copied {bytes secret : Bytes} : Envelops passphrase secret bytes →
    bytes.drop 8 = altered.drop 8 → ∃ old ∈ made, old.drop 8 = altered.drop 8

/-- Which secret an altered file gives. -/
theorem loadKey_altered (haead : AeadLaws) {dir : Folder}
    (hfile : dir.entry kind.fileName = some (.file altered)) (hlength : altered.length = fileLen) :
    loadKey dir kind (some passphrase) = .ok secret ↔ altered.take 5 = magic ++ [version] ∧
      ∃ bytes, Envelops passphrase secret bytes ∧ bytes.drop 8 = altered.drop 8 := by
  rw [loadKey_file hfile]
  by_cases hmagic : altered.take 4 = magic
  · rw [if_pos hmagic]
    show decrypt altered passphrase = .ok secret ↔ _
    rw [decrypt_eq_ok_iff_envelops haead]
    exact and_iff_right hlength
  · have hother : altered.length ≠ keyLen := by
      rw [hlength]
      decide
    rw [if_neg hmagic, if_neg hother]
    refine iff_of_false nofun fun h => hmagic ?_
    exact ((take_five_iff (hlength.symm ▸ by decide)).1 h.1).1

/-- An altered file is refused exactly if its magic or its version is another one, or if its salt,
nonce and ciphertext together are those of no envelope that was made under the passphrase. -/
theorem altered_refused_iff (haead : AeadLaws)
    (hsave : saveKey kind key.val passphrase salt nonce s = .ok () s')
    (hwritten : s'.folder.entry kind.fileName = some (.file written))
    (hlength : altered.length = written.length) (hunforged : Unforged passphrase altered made) :
    (∃ e, loadKey (s'.folder.put kind.fileName (some (.file altered))) kind (some passphrase) =
        .error e) ↔
      altered.take 5 ≠ written.take 5 ∨ ∀ bytes ∈ made, bytes.drop 8 ≠ altered.drop 8 := by
  obtain ⟨hsecret, hencrypt⟩ := encrypt_of_saveKey hsave hwritten
  have hdir : s'.folder.entries.isSome = true := by
    cases hentries : s'.folder.entries with
    | some _ => rfl
    | none =>
        rw [Folder.entry, hentries] at hwritten
        cases hwritten
  have hloads (secret : Bytes) : loadKey (s'.folder.put kind.fileName (some (.file altered))) kind
      (some passphrase) = .ok secret ↔ _ :=
    loadKey_altered haead (Folder.entry_put_same hdir)
      (hlength.trans (length_of_encrypt haead hencrypt hsecret))
  rw [take_five_of_encrypt hencrypt]
  constructor
  · rintro ⟨e, he⟩
    by_contra hnot
    push Not at hnot
    obtain ⟨hfive, bytes, hbytes, hdrop⟩ := hnot
    obtain ⟨secret, hsecret⟩ := hunforged.envelops hbytes
    cases he.symm.trans ((hloads secret).2 ⟨hfive, bytes, hsecret, hdrop⟩)
  · intro h
    cases hload : loadKey (s'.folder.put kind.fileName (some (.file altered))) kind
        (some passphrase) with
    | error e => exact ⟨e, rfl⟩
    | ok secret =>
        obtain ⟨hfive, bytes, hbytes, hdrop⟩ := (hloads secret).1 hload
        obtain ⟨copied, hcopied, hsame⟩ := hunforged.copied hbytes hdrop
        exact absurd hsame (h.elim (fun hne => absurd hfive hne) fun hall => hall copied hcopied)

end Naboscale.Cli.Keystore

/-! ## Three altered files -/

namespace Naboscale.Cli.Keystore.Samples

open Rust

attribute [local instance] crates

/-- The envelope of a secret that has the passphrase `p`. -/
def envelope (secret : Key) : Bytes :=
  magic ++ [version] ++ [0, 0, 0] ++ List.replicate 16 0 ++ List.replicate 24 0 ++
    (secret.val ++ pack [112])

/-- Both keys are saved. A reserved byte of the first file may be changed, and so may the whole file
to the other one. -/
theorem altered_files_load : ∃ s₁ s₂ : Disk,
    saveKey .identity secret.val [112] (.zeros saltLen) (.zeros nonceLen) fresh = .ok () s₁ ∧
      saveKey .wg threes.val [112] (.zeros saltLen) (.zeros nonceLen) s₁ = .ok () s₂ ∧
      s₂.folder.entry KeyKind.identity.fileName = some (.file (envelope secret)) ∧
      s₂.folder.entry KeyKind.wg.fileName = some (.file (envelope threes)) ∧
      (envelope secret).set 5 1 ≠ envelope secret ∧
      loadKey (s₂.folder.put KeyKind.identity.fileName (some (.file ((envelope secret).set 5 1))))
        .identity (some [112]) = .ok secret.val ∧
      loadKey (s₂.folder.put KeyKind.identity.fileName (some (.file (envelope threes))))
        .identity (some [112]) = .ok threes.val :=
  ⟨_, _, rfl, rfl, rfl, rfl, by decide, rfl, rfl⟩

/-- An envelope ends with its passphrase. -/
theorem suffix_of_envelops {passphrase secret bytes : Bytes}
    (h : Envelops passphrase secret bytes) : pack passphrase <:+ bytes.drop 8 := by
  obtain ⟨salt, nonce, hbytes⟩ := h
  obtain ⟨key, ct, hkey, hct, rfl⟩ := encrypt_eq_ok_iff.1 hbytes
  obtain ⟨⟨hpassphrase, -⟩, hval⟩ := deriveKey_eq_ok_iff.1 hkey
  cases hct
  refine ⟨salt.val ++ nonce.val ++ secret, ?_⟩
  rw [(parts_envelope salt nonce _).drop, hval, List.take_left' (length_pack hpassphrase),
    List.append_assoc (salt.val ++ nonce.val)]

/-- The last byte may not, as in the test `tamper_detection`. -/
theorem flipped_tag_refused : ∃ s' : Disk,
    saveKey .identity secret.val [112] (.zeros saltLen) (.zeros nonceLen) fresh = .ok () s' ∧
      ∃ e, loadKey (s'.folder.put KeyKind.identity.fileName
        (some (.file ((envelope secret).set 95 1)))) .identity (some [112]) = .error e := by
  obtain ⟨s', hsave, hwritten⟩ : ∃ s' : Disk,
      saveKey .identity secret.val [112] (.zeros saltLen) (.zeros nonceLen) fresh = .ok () s' ∧
        s'.folder.entry KeyKind.identity.fileName = some (.file (envelope secret)) := ⟨_, rfl, rfl⟩
  have hflipped : ¬ pack [112] <:+ ((envelope secret).set 95 1).drop 8 := by decide
  have hunforged : Unforged [112] ((envelope secret).set 95 1) {envelope secret} := by
    constructor
    · rintro _ rfl
      exact ⟨secret.val, .zeros saltLen, .zeros nonceLen, rfl⟩
    · intro bytes secret' hbytes hdrop
      exact absurd (hdrop ▸ suffix_of_envelops hbytes) hflipped
  refine ⟨s', hsave, (altered_refused_iff aeadLaws hsave hwritten List.length_set hunforged).2
    (.inr ?_)⟩
  rintro _ rfl
  decide

end Naboscale.Cli.Keystore.Samples
