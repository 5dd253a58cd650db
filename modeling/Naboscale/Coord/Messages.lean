import Naboscale.Coord.Handlers
import Naboscale.Rust.Text

/-!
# What a signature is about

The messages that clients sign. Their tags begin with different bytes and times have a fixed
length; only in a heartbeat a text of any length is followed by another one. There the parser of
`via_relay` decides: no address contains a byte 0 or 1, so that the last of them is the separator.
-/

namespace Naboscale.Coord

open Rust Concurrent

/-! ## Texts -/

/-- What a client signs: the kind of a request with its parameters. -/
inductive Signed where
  | register (timestamp : I64) (identityPubkey wgPubkey : Arr 32)
  | heartbeat (timestamp : I64) (endpoint : String) (viaRelay : Option String)
  | refresh (timestamp : I64)
  | delete (timestamp : I64)

/-- The bytes that are signed. -/
def Signed.message : Signed → Bytes
  | register timestamp identityPubkey wgPubkey =>
      buildRegisterMessage timestamp identityPubkey wgPubkey
  | heartbeat timestamp endpoint viaRelay => buildHeartbeatMessage timestamp endpoint viaRelay
  | refresh timestamp => buildRefreshMessage timestamp
  | delete timestamp => buildDeleteNodeMessage timestamp

section Handlers

variable [Profile] [CoordCrates]

/-- What the signature of a request is about, with the text of the signature. -/
def Request.signed : Request → Option (Signed × String)
  | register _ req => do
      let identityPubkey ← (decodePubkey req.identityPubkey).toOption
      let wgPubkey ← (decodePubkey req.wgPubkey).toOption
      some (.register req.timestamp identityPubkey wgPubkey, req.signature)
  | peers _ _ => none
  | heartbeat _ _ req => some (.heartbeat req.timestamp req.endpoint req.viaRelay, req.signature)
  | refreshToken _ _ req => some (.refresh req.timestamp, req.signature)
  | deleteNode _ _ req => some (.delete req.timestamp, req.signature)

/-- The operations by which a request takes effect. -/
def Op.TakesEffect : Op → Prop
  | insertNode _ _ _ | updateHeartbeat _ _ _ _ | createToken _ _ _ _ | deleteNode _ => True
  | _ => False

variable {request : Request} {ttl : I64} {draws : Draws} {peer : SocketAddr}
  {authorization : Option String}

end Handlers

end Naboscale.Coord
