import Naboscale.Coord.State

/-!
# The handlers of the coordinator

The requests of `routes.rs` with the checks of `auth.rs`, as programs over the operations of the
state. What a handler draws at random is given to it.
-/

namespace Naboscale.Coord

open Rust Concurrent

variable [Profile] [CoordCrates]

/-! ## Requests and responses -/

/-- `RegisterRequest`. -/
structure RegisterRequest where
  identityPubkey : String
  wgPubkey : String
  timestamp : I64
  signature : String
  deriving DecidableEq

/-- `HeartbeatRequest`. -/
structure HeartbeatRequest where
  endpoint : String
  viaRelay : Option String
  timestamp : I64
  signature : String

/-- `SignedRequest`. -/
structure SignedRequest where
  timestamp : I64
  signature : String

/-- A request from a peer. `authorization` is the text of the header `Authorization`, where there
is one that is text. -/
inductive Request where
  | register (peer : SocketAddr) (req : RegisterRequest)
  | peers (peer : SocketAddr) (authorization : Option String)
  | heartbeat (peer : SocketAddr) (authorization : Option String) (req : HeartbeatRequest)
  | refreshToken (peer : SocketAddr) (authorization : Option String) (req : SignedRequest)
  | deleteNode (peer : SocketAddr) (authorization : Option String) (req : SignedRequest)

/-- `RegisterResponse`. -/
structure RegisterResponse where
  nodeId : String
  ip : String
  authToken : String
  authTokenExpiresAt : ℤ
  derpUrl : String

/-- `PeerEntry`. -/
structure PeerEntry where
  nodeId : String
  wgPubkey : String
  ip : String
  lastEndpoint : Option String
  viaRelay : Option String
  lastSeen : Option ℤ

/-- `RefreshResponse`. -/
structure RefreshResponse where
  authToken : String
  authTokenExpiresAt : ℤ
  oldTokenExpiresAt : ℤ

/-- What a handler returns. -/
inductive Response where
  | registered (response : RegisterResponse)
  | peers (peers : List PeerEntry)
  | ok
  | refreshed (response : RefreshResponse)
  | noContent

/-- What a handler draws at random: the node id and the bytes of the token. -/
structure Draws where
  nodeId : String
  token : Arr 32

/-- `generate_token`. -/
def Draws.authToken (draws : Draws) : String := CoordCrates.base64Encode draws.token.val

/-! ## Checks -/

/-- `DERP_URL_DEFAULT`. -/
def derpUrlDefault : String := ""

/-- `TIMESTAMP_WINDOW_SECONDS`. -/
def timestampWindowSeconds : ℤ := 300

/-- `Identity::verify`. -/
def identityVerify (pubkey : Arr 32) (msg : Bytes) (sig : Arr 64) : Bool :=
  (CoordCrates.keyFromBytes pubkey).any fun vk => CoordCrates.verify vk msg sig

/-- The bytes of a text. -/
def utf8 (s : String) : Bytes := s.toUTF8.data.toList

/-- `build_register_message`. -/
def buildRegisterMessage (timestamp : I64) (identityPubkey wgPubkey : Arr 32) : Bytes :=
  utf8 "register" ++ timestamp.toBe.val ++ identityPubkey.val ++ wgPubkey.val

/-- `build_heartbeat_message`. -/
def buildHeartbeatMessage (timestamp : I64) (endpoint : String) (viaRelay : Option String) :
    Bytes :=
  utf8 "heartbeat" ++ timestamp.toBe.val ++ utf8 endpoint ++
    match viaRelay with
    | some r => 0 :: utf8 r
    | none => [1]

/-- `build_refresh_message`. -/
def buildRefreshMessage (timestamp : I64) : Bytes := utf8 "token_refresh" ++ timestamp.toBe.val

/-- `build_delete_node_message`. -/
def buildDeleteNodeMessage (timestamp : I64) : Bytes := utf8 "delete_node" ++ timestamp.toBe.val

/-- `validate_timestamp`; none where it panics. -/
def validateTimestamp (timestamp now : ℤ) : Option (Except Error Unit) := do
  let diff ← I64.value (now - timestamp)
  let diff ← I64.value |diff|
  pure (if timestampWindowSeconds < diff then .error (.invalidTimestamp timestampWindowSeconds)
    else .ok ())

/-- A signature that must be valid. -/
def checkSignature (pubkey : Arr 32) (msg : Bytes) (sig : Arr 64) : Except Error Unit :=
  if identityVerify pubkey msg sig then .ok () else .error .invalidSignature

/-- `decode_pubkey`. -/
def decodePubkey (s : String) : Except Error (Arr 32) :=
  match CoordCrates.base64Decode s with
  | .error e => .error (.base64 e)
  | .ok bytes => if h : bytes.length = 32 then .ok ⟨bytes, h⟩ else .error .invalidPubkey

/-- `decode_signature`. -/
def decodeSignature (s : String) : Except Error (Arr 64) :=
  match CoordCrates.base64Decode s with
  | .error e => .error (.base64 e)
  | .ok bytes =>
      if h : bytes.length = 64 then .ok ⟨bytes, h⟩
      else .error (.invalidRequest .signatureLength)

/-- `extract_bearer`. -/
def extractBearer (authorization : Option String) : Except Error String :=
  match authorization.bind fun auth => ("Bearer ".toList.isPrefixOf? auth.toList) with
  | none => .error .invalidAuthToken
  | some token => .ok (String.ofList token)

/-- `identity_pubkey.copy_from_slice`; none where the length is another one. -/
def identityKey (bytes : Bytes) : Option (Arr 32) :=
  if h : bytes.length = 32 then some ⟨bytes, h⟩ else none

/-! ## Handlers -/

/-- The handler of a request. -/
abbrev Handler := Program Op Op.Result Error

/-- A handler that calls one operation. -/
abbrev Op.call (op : Op) : Handler op.Result := .perform op

/-- `check_rate_limit`. -/
def checkRateLimit (peer : SocketAddr) (bucket : Bucket) : Handler Unit := do
  let admitted ← (Op.checkRateLimit peer.ip bucket).call
  .lift (fun retry => .rateLimited (max (retry / second) 1)) admitted

/-- The caller that a bearer token authenticates at the present time. -/
def authenticate (authorization : Option String) : Handler (ℤ × NodeRecord) := do
  let token ← .lift id (extractBearer authorization)
  let now ← Op.currentTimestamp.call
  let caller ← (Op.getNodeByToken token now.val).call
  match caller with
  | none => .fail .invalidAuthToken
  | some caller => pure (now.val, caller)

/-- The caller's key and the signature of a request, where the signature and the time are
well-formed. -/
def decodeSigned (caller : NodeRecord) (signature : String) (timestamp now : ℤ) :
    Handler (Arr 32 × Arr 64) := do
  let signature ← .lift id (decodeSignature signature)
  let valid ← .unwrap (validateTimestamp timestamp now)
  .lift id valid
  let identityPubkey ← .unwrap (identityKey caller.identityPubkey)
  pure (identityPubkey, signature)

/-- `register` from the address on that it was given. -/
def insertAllocated (ttl : I64) (draws : Draws) (identityPubkey wgPubkey : Arr 32) (now : ℤ)
    (ip : Ipv4Addr) : Handler Response := do
  let expiresAt ← .unwrap (I64.value (now + ttl.val))
  let record : NodeRecord := {
    nodeId := draws.nodeId
    identityPubkey := identityPubkey.val
    wgPubkey := wgPubkey.val
    ip := toString ip
    lastEndpoint := none
    viaRelay := none
    lastSeen := none
    createdAt := now }
  let inserted ← (Op.insertNode record draws.authToken ttl.val).call
  .lift .database inserted
  pure (.registered {
    nodeId := draws.nodeId
    ip := toString ip
    authToken := draws.authToken
    authTokenExpiresAt := expiresAt
    derpUrl := derpUrlDefault })

/-- `register`. -/
def register (ttl : I64) (draws : Draws) (peer : SocketAddr) (req : RegisterRequest) :
    Handler Response := do
  checkRateLimit peer .register
  let identityPubkey ← .lift id (decodePubkey req.identityPubkey)
  let wgPubkey ← .lift id (decodePubkey req.wgPubkey)
  let signature ← .lift id (decodeSignature req.signature)
  let now ← Op.currentTimestamp.call
  let valid ← .unwrap (validateTimestamp req.timestamp now)
  .lift id valid
  .lift id (checkSignature identityPubkey
    (buildRegisterMessage req.timestamp identityPubkey wgPubkey) signature)
  let allocated ← Op.allocate.call
  match allocated with
  | none => .fail .ipPoolExhausted
  | some ip => insertAllocated ttl draws identityPubkey wgPubkey now.val ip

/-- `peers`. -/
def peers (peer : SocketAddr) (authorization : Option String) : Handler Response := do
  checkRateLimit peer .default
  let (_, caller) ← authenticate authorization
  let peers ← (Op.listPeers (some caller.nodeId)).call
  pure (.peers (peers.map fun p => {
    nodeId := p.nodeId
    wgPubkey := CoordCrates.base64Encode p.wgPubkey
    ip := p.ip
    lastEndpoint := p.lastEndpoint
    viaRelay := p.viaRelay
    lastSeen := p.lastSeen }))

/-- `heartbeat`. -/
def heartbeat (peer : SocketAddr) (authorization : Option String) (req : HeartbeatRequest) :
    Handler Response := do
  checkRateLimit peer .heartbeat
  let (now, caller) ← authenticate authorization
  let (identityPubkey, signature) ← decodeSigned caller req.signature req.timestamp now
  .lift id (checkSignature identityPubkey
    (buildHeartbeatMessage req.timestamp req.endpoint req.viaRelay) signature)
  match req.viaRelay.filter fun r => !isSocketAddr r with
  | some r => .fail (.invalidRequest (.viaRelay r))
  | none =>
      (Op.updateHeartbeat caller.nodeId req.endpoint req.viaRelay now).call
      pure .ok

/-- `refresh_token`. -/
def refreshToken (ttl : I64) (draws : Draws) (peer : SocketAddr) (authorization : Option String)
    (req : SignedRequest) : Handler Response := do
  checkRateLimit peer .token
  let (now, caller) ← authenticate authorization
  let (identityPubkey, signature) ← decodeSigned caller req.signature req.timestamp now
  .lift id (checkSignature identityPubkey (buildRefreshMessage req.timestamp) signature)
  let _ ← (Op.revokeAllTokensForNode caller.nodeId).call
  let created ← (Op.createToken caller.nodeId draws.authToken now ttl.val).call
  .lift .database created
  let expiresAt ← .unwrap (I64.value (now + ttl.val))
  pure (.refreshed ⟨draws.authToken, expiresAt, expiresAt⟩)

/-- `delete_node`. -/
def deleteNode (peer : SocketAddr) (authorization : Option String) (req : SignedRequest) :
    Handler Response := do
  checkRateLimit peer .token
  let (now, caller) ← authenticate authorization
  let (identityPubkey, signature) ← decodeSigned caller req.signature req.timestamp now
  .lift id (checkSignature identityPubkey (buildDeleteNodeMessage req.timestamp) signature)
  let ip ← (Op.deleteNode caller.nodeId).call
  match ip.bind Ipv4Addr.parse with
  | none => pure .noContent
  | some addr =>
      (Op.release addr).call
      pure .noContent

/-- The handler that the router gives a request to. -/
def Request.handler (ttl : I64) (draws : Draws) : Request → Handler Response
  | register peer req => Coord.register ttl draws peer req
  | peers peer authorization => Coord.peers peer authorization
  | heartbeat peer authorization req => Coord.heartbeat peer authorization req
  | refreshToken peer authorization req => Coord.refreshToken ttl draws peer authorization req
  | deleteNode peer authorization req => Coord.deleteNode peer authorization req

end Naboscale.Coord
