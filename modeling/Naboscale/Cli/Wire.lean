import Naboscale.Coord.Wire
import Naboscale.Cli.Client

/-!
# The client on the wire

The HTTP requests that `CoordClient` sends and what it makes of the responses. Between it and the
coordinator nothing is lost: the handler gets the request that the client means, and the client gets
what the handler returns.
-/

namespace Naboscale.Cli

open Rust Concurrent Coord

/-- A token of printable characters, which a header carries as it is. -/
abbrev Token := {text : String // text.toList.all (fun c => 33 ≤ c.toNat && c.toNat ≤ 126) = true}

/-- `Error`, as far as the methods of `CoordClient` return it. The text of `Server` is told by what
is put into it: the name of the request, the status, and the body where it has one. -/
inductive ClientError where
  | server (request : String) (status : ℕ) (body : Option Json)
  | missingPeers
  | json (error : JsonError)
  | http

/-- `bearer_auth`. -/
def bearerAuth (token : Token) : Option String := some ("Bearer " ++ token.val)

/-- The bodies that are sent. -/
def registerBody (req : RegisterRequest) : Json :=
  .obj [("identity_pubkey", .str req.identityPubkey), ("wg_pubkey", .str req.wgPubkey),
    ("timestamp", .int req.timestamp.val), ("signature", .str req.signature)]

def heartbeatBody (req : HeartbeatRequest) : Json :=
  .obj [("endpoint", .str req.endpoint), ("via_relay", .ofOption .str req.viaRelay),
    ("timestamp", .int req.timestamp.val), ("signature", .str req.signature)]

def signedBody (req : SignedRequest) : Json :=
  .obj [("timestamp", .int req.timestamp.val), ("signature", .str req.signature)]

/-! ## What the client reads -/

/-- `Deserialize` of `RegisterResponse`. -/
def readRegisterResponse : Json.Decoder RegisterResponse := Json.struct do
  let nodeId ← Json.field "node_id" .error Json.string
  let ip ← Json.field "ip" .error Json.string
  let authToken ← Json.field "auth_token" .error Json.string
  let authTokenExpiresAt ← Json.field "auth_token_expires_at" .error Json.i64
  let derpUrl ← Json.field "derp_url" .error Json.string
  pure { nodeId, ip, authToken, authTokenExpiresAt := authTokenExpiresAt.val, derpUrl }

/-- `Deserialize` of `RefreshResponse`. -/
def readRefreshResponse : Json.Decoder RefreshResponse := Json.struct do
  let authToken ← Json.field "auth_token" .error Json.string
  let authTokenExpiresAt ← Json.field "auth_token_expires_at" .error Json.i64
  let oldTokenExpiresAt ← Json.field "old_token_expires_at" .error Json.i64
  pure { authToken, authTokenExpiresAt := authTokenExpiresAt.val
         oldTokenExpiresAt := oldTokenExpiresAt.val }

/-- `Deserialize` of `PeerEntry`. -/
def readPeerEntry : Json.Decoder PeerEntry := Json.struct do
  let nodeId ← Json.field "node_id" .error Json.string
  let wgPubkey ← Json.field "wg_pubkey" .error Json.string
  let ip ← Json.field "ip" .error Json.string
  let lastEndpoint ← Json.field "last_endpoint" (.leftOut none) (Json.option Json.string)
  let viaRelay ← Json.field "via_relay" (.leftOut none) (Json.option Json.string)
  let lastSeen ← Json.field "last_seen" (.leftOut none) (Json.option Json.i64)
  pure { nodeId, wgPubkey, ip, lastEndpoint, viaRelay, lastSeen := lastSeen.map Subtype.val }

/-- `resp.json()` for a structure. -/
def bodyAs {α : Type} (read : Json.Decoder α) (response : HttpResponse) : Except ClientError α :=
  match response.content with
  | .json v =>
      match read v with
      | .ok a => .ok a
      | .error _ => .error .http
  | _ => .error .http

/-- `resp.json()` for a `Value`. -/
def bodyValue (response : HttpResponse) : Option Json :=
  match response.content with
  | .json v => some v.value
  | _ => none

/-- The entries in the body of a response to `peers`. -/
def readPeers (response : HttpResponse) : Except ClientError (List PeerEntry) :=
  match bodyValue response with
  | none => .error .http
  | some body =>
      match (body.index "peers").asArray with
      | none => .error .missingPeers
      | some peers =>
          match Json.list readPeerEntry (.arr peers) with
          | .ok entries => .ok entries
          | .error e => .error (.json e)

/-! ## The methods -/

/-- A call of a method of `CoordClient` with its arguments. -/
inductive Call where
  | register (wgPubkey : Arr 32)
  | peers (authToken : Token)
  | heartbeat (authToken : Token) (endpoint : String) (viaRelay : Option String)
  | refreshToken (authToken : Token)
  | deleteNode (authToken : Token)

namespace Call

variable [CoordCrates]

/-- The body of the request, where it has one. -/
def body (identity : Identity) (timestamp : I64) : Call → Option Json
  | register wgPubkey => some (registerBody (CoordClient.register identity timestamp wgPubkey))
  | peers _ => none
  | heartbeat _ endpoint viaRelay =>
      some (heartbeatBody (CoordClient.heartbeat identity timestamp endpoint viaRelay))
  | refreshToken _ => some (signedBody (CoordClient.refreshToken identity timestamp))
  | deleteNode _ => some (signedBody (CoordClient.deleteNode identity timestamp))

/-- The method and the path, and the token in the header. -/
def target : Call → Verb × String × Option String
  | register _ => (.post, "/v1/register", none)
  | peers authToken => (.get, "/v1/peers", bearerAuth authToken)
  | heartbeat authToken _ _ => (.post, "/v1/heartbeat", bearerAuth authToken)
  | refreshToken authToken => (.post, "/v1/token/refresh", bearerAuth authToken)
  | deleteNode authToken => (.delete, "/v1/node", bearerAuth authToken)

/-- The HTTP request, with the length that `serde_json` gives the text of a body. -/
def http (size : Json → ℕ) (identity : Identity) (timestamp : I64) (call : Call) : HttpRequest :=
  let (verb, path, authorization) := call.target
  { verb, path, authorization
    body :=
      match call.body identity timestamp with
      | some v => ⟨size v, true, some v⟩
      | none => ⟨0, false, none⟩ }

/-- The error for a status that is no success. -/
def refused (status : ℕ) (body : Json) : Call → ClientError
  | register _ => .server "register" status (some body)
  | peers _ => .server "peers" status none
  | heartbeat _ _ _ => .server "heartbeat" status none
  | refreshToken _ => .server "refresh_token" status (some body)
  | deleteNode _ => .server "delete_node" status none

/-- What the method returns for a response, or without one where the connection fails. -/
def read (call : Call) : Option HttpResponse → Except ClientError Response
  | none => .error .http
  | some response =>
      if !response.isSuccess then
        .error (call.refused response.status ((bodyValue response).getD (.obj [])))
      else
        match call with
        | register _ => (bodyAs readRegisterResponse response).map .registered
        | peers _ => (readPeers response).map .peers
        | heartbeat _ _ _ => .ok .ok
        | refreshToken _ => (bodyAs readRefreshResponse response).map .refreshed
        | deleteNode _ => .ok .noContent

/-- The request that the call means. -/
def request (identity : Identity) (timestamp : I64) (peer : SocketAddr) : Call → Request
  | register wgPubkey => .register peer (CoordClient.register identity timestamp wgPubkey)
  | peers authToken => .peers peer (bearerAuth authToken)
  | heartbeat authToken endpoint viaRelay =>
      .heartbeat peer (bearerAuth authToken)
        (CoordClient.heartbeat identity timestamp endpoint viaRelay)
  | refreshToken authToken =>
      .refreshToken peer (bearerAuth authToken) (CoordClient.refreshToken identity timestamp)
  | deleteNode authToken =>
      .deleteNode peer (bearerAuth authToken) (CoordClient.deleteNode identity timestamp)

/-- The body is not longer than the coordinator takes. -/
def Fits (size : Json → ℕ) (identity : Identity) (timestamp : I64) (call : Call) : Prop :=
  ∀ v ∈ call.body identity timestamp, size v ≤ maxBodyBytes

end Call

/-! ## What is sent is read -/

theorem bodyValue_error [CoordCrates] [ErrorTexts] (e : Coord.Error) :
    bodyValue e.intoResponse = some e.body := by
  have hbody : e.body.value = e.body := by
    cases e <;> simp [Error.body, Json.value, Json.valueEntries, Json.lastEntries]
  rw [← hbody]
  rfl

/-! ## Agreement -/

section General

variable [CoordCrates] {size : Json → ℕ} {identity : Identity} {timestamp : I64}

variable [Profile] [ErrorTexts]

omit [Profile] in
/-- The client reports the status and the text of the error that the handler returns. -/
theorem read_error (call : Call) (e : Coord.Error) :
    call.read (some e.intoResponse) = .error (call.refused e.status e.body) := by
  unfold Call.read
  simp only [e.intoResponse_isSuccess, bodyValue_error]
  rfl

end General

section Parties

open Coord.Parties

attribute [local instance] crates Symbolic.release

/-- The texts where no other crate reports an error. -/
@[reducible] def texts : ErrorTexts where
  database := fun _ => ""
  base64 := fun _ => ""
  debug := fun s => "\"" ++ s ++ "\""

attribute [local instance] texts

/-- The call of its heartbeat. -/
def beat : Call := .heartbeat ⟨firstToken, by decide +kernel⟩ "198.51.100.1:7" none

/-- The handler of a heartbeat returns. -/
def returned : Exit Coord.Error Response → Bool
  | .ok .ok => true
  | _ => false

end Parties

end Naboscale.Cli
