import Naboscale.Cli.Roles
import Naboscale.Coord.Messages

/-!
# The requests of the client

`CoordClient` builds the bytes that it signs on its own, apart from the code of the coordinator.
Both sides mean the same bytes, and these determine the request.
-/

namespace Naboscale.Cli

open Rust Coord

/-- What the client uses of `naboscale_crypto::Identity`. -/
structure Identity where
  publicKey : Arr 32
  sign : Bytes → Arr 64

section General

variable [CoordCrates]

namespace CoordClient

variable (identity : Identity) (timestamp : I64)

/-- `CoordClient::register`, with the time that it reads. -/
def register (wgPubkey : Arr 32) : RegisterRequest :=
  let msg := utf8 "register" ++ timestamp.toBe.val ++ identity.publicKey.val ++ wgPubkey.val
  { identityPubkey := CoordCrates.base64Encode identity.publicKey.val
    wgPubkey := CoordCrates.base64Encode wgPubkey.val
    timestamp := timestamp
    signature := CoordCrates.base64Encode (identity.sign msg).val }

/-- `CoordClient::heartbeat`. -/
def heartbeat (endpoint : String) (viaRelay : Option String) : HeartbeatRequest :=
  let msg := utf8 "heartbeat" ++ timestamp.toBe.val ++ utf8 endpoint ++
    match viaRelay with
    | some r => 0 :: utf8 r
    | none => [1]
  { endpoint := endpoint
    viaRelay := viaRelay
    timestamp := timestamp
    signature := CoordCrates.base64Encode (identity.sign msg).val }

/-- `CoordClient::refresh_token`. -/
def refreshToken : SignedRequest :=
  let msg := utf8 "token_refresh" ++ timestamp.toBe.val
  { timestamp := timestamp
    signature := CoordCrates.base64Encode (identity.sign msg).val }

/-- `CoordClient::delete_node`. -/
def deleteNode : SignedRequest :=
  let msg := utf8 "delete_node" ++ timestamp.toBe.val
  { timestamp := timestamp
    signature := CoordCrates.base64Encode (identity.sign msg).val }

end CoordClient

/-- The request carries the identity's signature of the bytes that the coordinator rebuilds. -/
def SignedBy (request : Request) (identity : Identity) (params : Signed) : Prop :=
  ∃ text, request.signed = some (params, text) ∧
    decodeSignature text = .ok (identity.sign params.message)

theorem decodePubkey_encode (hbase64 : Base64RoundTrip) (key : Arr 32) :
    decodePubkey (CoordCrates.base64Encode key.val) = .ok key := by
  rw [decodePubkey, hbase64]
  exact dif_pos key.property

variable [Profile]

end General

section Parties

open Coord.Parties

attribute [local instance] crates Symbolic.release

end Parties

end Naboscale.Cli
