import Naboscale.Coord.Server
import Naboscale.Crypto.Symbolic

/-!
# Clients over symbolic signatures

Base64 as the coordinator's crate reads and writes it, signatures by which a key determines the
signature of each message, the requests of a client that holds a key, and short runs of them.
-/

namespace Naboscale.Coord.Parties

open Rust Concurrent

/-! ## Base64 -/

/-- The alphabet. -/
def alphabet : List Char :=
  "ABCDEFGHIJKLMNOPQRSTUVWXYZabcdefghijklmnopqrstuvwxyz0123456789+/".toList

/-- The character of the low six bits. -/
def character (n : ℕ) : Char := alphabet.getD (n % 64) 'A'

/-- `STANDARD.encode`. -/
def encode : Bytes → List Char
  | a :: b :: c :: rest =>
      let n := (a.toNat * 256 + b.toNat) * 256 + c.toNat
      character (n / 64 ^ 3) :: character (n / 64 ^ 2) :: character (n / 64) :: character n ::
        encode rest
  | [a, b] =>
      let n := (a.toNat * 256 + b.toNat) * 4
      [character (n / 64 ^ 2), character (n / 64), character n, '=']
  | [a] => [character (a.toNat * 16 / 64), character (a.toNat * 16), '=', '=']
  | [] => []

/-- The number that characters write. -/
def number (text : List Char) : Option ℕ :=
  text.foldlM (fun n c => (alphabet.idxOf? c).map fun digit => n * 64 + digit) 0

/-- `STANDARD.decode`: the padding is there, and the bits that it cuts off are zero. -/
def decode : List Char → Option Bytes
  | [] => some []
  | [a, b, '=', '='] => do
      let n ← number [a, b]
      if n % 16 = 0 then some [UInt8.ofNat (n / 16)] else none
  | [a, b, c, '='] => do
      let n ← number [a, b, c]
      if n % 4 = 0 then some [UInt8.ofNat (n / 1024), UInt8.ofNat (n / 4)] else none
  | a :: b :: c :: d :: rest => do
      let n ← number [a, b, c, d]
      let bytes ← decode rest
      some (UInt8.ofNat (n / 256 ^ 2) :: UInt8.ofNat (n / 256) :: UInt8.ofNat n :: bytes)
  | _ => none

theorem idxOf_character (n : ℕ) : alphabet.idxOf? (character n) = some (n % 64) := by
  have hall : ∀ d : Fin 64, alphabet.idxOf? (character d.val) = some d.val := by decide +kernel
  have hlow : character (n % 64) = character n := by rw [character, character, Nat.mod_mod]
  have hdigit := hall ⟨n % 64, Nat.mod_lt n (by decide)⟩
  rwa [hlow] at hdigit

/-- No character of the alphabet is the padding. -/
theorem character_ne_pad (n : ℕ) : character n ≠ '=' := by
  intro h
  have hindex := idxOf_character n
  rw [h] at hindex
  cases hindex

/-- The digits of a number are read back. -/
theorem number_characters (digits : List ℕ) (m : ℕ) :
    (digits.map character).foldlM (fun n c => (alphabet.idxOf? c).map fun digit => n * 64 + digit) m =
      some (digits.foldl (fun n digit => n * 64 + digit % 64) m) := by
  induction digits generalizing m with
  | nil => rfl
  | cons digit digits ih =>
      rw [List.map_cons, List.foldlM_cons, idxOf_character]
      exact ih _

/-- The text of bytes is decoded to them. -/
theorem decode_encode (bytes : Bytes) : decode (encode bytes) = some bytes := by
  have hbyte {n : ℕ} {b : UInt8} (h : n % 256 = b.toNat) : UInt8.ofNat n = b := by
    apply UInt8.toNat_inj.1
    rw [UInt8.toNat_ofNat', h]
  induction bytes using encode.induct with
  | case1 a b c rest ih =>
      have ha := a.toNat_lt
      have hb := b.toNat_lt
      have hc := c.toNat_lt
      obtain ⟨n, hn⟩ : ∃ n, n = (a.toNat * 256 + b.toNat) * 256 + c.toNat := ⟨_, rfl⟩
      have hnumber : number [character (n / 64 ^ 3), character (n / 64 ^ 2), character (n / 64),
          character n] = some n := by
        refine (number_characters [n / 64 ^ 3, n / 64 ^ 2, n / 64, n] 0).trans ?_
        simp only [List.foldl_cons, List.foldl_nil, Option.some.injEq]
        omega
      simp only [encode, ← hn]
      rw [decode.eq_4 _ _ _ _ _ (fun h => absurd h (character_ne_pad _))
        (fun h => absurd h (character_ne_pad _)), hnumber, ih]
      simp only [Option.bind_eq_bind, Option.bind_some, Option.some.injEq, List.cons.injEq, and_true]
      exact ⟨hbyte (by omega), hbyte (by omega), hbyte (by omega)⟩
  | case2 a b =>
      have ha := a.toNat_lt
      have hb := b.toNat_lt
      obtain ⟨n, hn⟩ : ∃ n, n = (a.toNat * 256 + b.toNat) * 4 := ⟨_, rfl⟩
      have hnumber : number [character (n / 64 ^ 2), character (n / 64), character n] = some n := by
        refine (number_characters [n / 64 ^ 2, n / 64, n] 0).trans ?_
        simp only [List.foldl_cons, List.foldl_nil, Option.some.injEq]
        omega
      have hpad : n % 4 = 0 := by omega
      simp only [encode, ← hn]
      rw [decode.eq_3 _ _ _ (character_ne_pad _), hnumber]
      simp only [Option.bind_eq_bind, Option.bind_some, if_pos hpad, Option.some.injEq,
        List.cons.injEq, and_true]
      exact ⟨hbyte (by omega), hbyte (by omega)⟩
  | case3 a =>
      have ha := a.toNat_lt
      have hnumber : number [character (a.toNat * 16 / 64), character (a.toNat * 16)] =
          some (a.toNat * 16) := by
        refine (number_characters [a.toNat * 16 / 64, a.toNat * 16] 0).trans ?_
        simp only [List.foldl_cons, List.foldl_nil, Option.some.injEq]
        omega
      have hpad : a.toNat * 16 % 16 = 0 := by omega
      simp only [encode]
      rw [decode.eq_2, hnumber]
      simp only [Option.bind_eq_bind, Option.bind_some, if_pos hpad, Option.some.injEq,
        List.cons.injEq, and_true]
      exact hbyte (by omega)
  | case4 => rfl

/-! ## Clients -/

/-- The signature of a message by the key. -/
def sign (key : Arr 32) (msg : Bytes) : Arr 64 :=
  ⟨Symbolic.digest 64 (key.val ++ msg), Symbolic.digest_length _ _⟩

/-- Base64, and the signatures that keys determine. -/
@[reducible] def crates : CoordCrates where
  VerifyingKey := Arr 32
  keyFromBytes := some
  verify := fun key msg sig => decide (sig = sign key msg)
  DecodeError := Unit
  base64Encode := fun bytes => String.ofList (encode bytes)
  base64Decode := fun s => (decode s.toList).elim (.error ()) .ok

attribute [local instance] crates Symbolic.release

/-- The text of bytes. -/
def text (bytes : Bytes) : String := String.ofList (encode bytes)

/-- The address of a client. -/
def client (n : UInt8) : SocketAddr := ⟨.v4 ⟨192, 0, 2, n⟩, 40000⟩

/-- Thirty-two times the same byte. -/
def key (byte : UInt8) : Arr 32 := Symbolic.key byte

/-- What the handler of a request draws. -/
def draws (nodeId : String) (byte : UInt8) : Draws := ⟨nodeId, key byte⟩

/-- The registration of the keys by a client. -/
def registerBy (n : UInt8) (identity wg : Arr 32) (timestamp : I64) : Request :=
  .register (client n) {
    identityPubkey := text identity.val
    wgPubkey := text wg.val
    timestamp := timestamp
    signature := text (sign identity (buildRegisterMessage timestamp identity wg)).val }

/-- The header of a token. -/
def bearer (token : String) : Option String := some ("Bearer " ++ token)

/-- A heartbeat by the holder of the identity key. -/
def heartbeatBy (n : UInt8) (identity : Arr 32) (token endpoint : String)
    (viaRelay : Option String) (timestamp : I64) : Request :=
  .heartbeat (client n) (bearer token) {
    endpoint := endpoint
    viaRelay := viaRelay
    timestamp := timestamp
    signature := text (sign identity (buildHeartbeatMessage timestamp endpoint viaRelay)).val }

/-- The refresh of a token by the holder of the identity key. -/
def refreshBy (n : UInt8) (identity : Arr 32) (token : String) (timestamp : I64) : Request :=
  .refreshToken (client n) (bearer token)
    ⟨timestamp, text (sign identity (buildRefreshMessage timestamp)).val⟩

/-- The deletion of a node by the holder of the identity key. -/
def deleteBy (n : UInt8) (identity : Arr 32) (token : String) (timestamp : I64) : Request :=
  .deleteNode (client n) (bearer token)
    ⟨timestamp, text (sign identity (buildDeleteNodeMessage timestamp)).val⟩

instance neZero_bound : NeZero (2 ^ 63) := inferInstance

/-- A moment of the clock. -/
def moment (t : Fin (2 ^ 63)) : Clock := ⟨t.val, by omega, by have := t.isLt; omega⟩

/-- A small `i64`. -/
def seconds (t : Fin (2 ^ 63)) : I64 := ⟨t.val, by have := t.isLt; constructor <;> omega⟩

/-! ## Runs of one server -/

/-- The handler at an index takes a number of steps. -/
def advances (i n : ℕ) : List Event := List.replicate n (.advance i)

/-- A server at the time 1000 that gives tokens a hundred seconds. -/
def server : Server := .start (seconds 100) (moment 1000) 0

/-- A registration of the keys 1 and 2, handled alone. -/
def registration : List Event :=
  .spawn 0 (registerBy 1 (key 1) (key 2) (seconds 1000)) (draws "node" 7) :: advances 0 4

/-- The token that the registration returns. -/
def firstToken : String := (draws "node" 7).authToken

/-- A refresh of the first token, handled alone. -/
def refresh : List Event :=
  .spawn 1 (refreshBy 1 (key 1) firstToken (seconds 1000)) (draws "" 8) :: advances 1 5

/-- The row of the first token. -/
def firstRow : TokenRecord := ⟨firstToken, "node", 1000, 1100, false⟩

end Naboscale.Coord.Parties
