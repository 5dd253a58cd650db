import Naboscale.Rust.Json
import Naboscale.Coord.Journal

/-!
# The coordinator on the wire

What `build_router` makes of an HTTP request before a handler runs, and the HTTP response that it
makes of what the handler returns. The text of a body is left to `serde_json`: a body is its length
with the value that it is parsed to.
-/

namespace Naboscale.Coord

open Rust Concurrent

/-! ## Messages -/

/-- The HTTP methods of the routes. -/
inductive Verb where
  | get
  | post
  | delete
  deriving DecidableEq

/-- A body: its length, whether its content type is JSON, and what its text is parsed to. -/
structure Payload where
  length : ℕ
  isJson : Bool
  parsed : Option Json

/-- A request. A header `Authorization` is its text, where it is text. -/
structure HttpRequest where
  verb : Verb
  path : String
  authorization : Option String
  body : Payload

/-- What a response carries. -/
inductive Content where
  | empty
  | text (text : String)
  | json (v : Json)

/-- A response, with the header `Retry-After`. -/
structure HttpResponse where
  status : ℕ
  retryAfter : Option ℕ
  content : Content

/-- `StatusCode::is_success`. -/
def HttpResponse.isSuccess (response : HttpResponse) : Bool :=
  decide (200 ≤ response.status ∧ response.status < 300)

/-! ## Requests -/

/-- `MAX_BODY_BYTES`. -/
def maxBodyBytes : ℕ := 4 * 1024

/-- `Deserialize` of `RegisterRequest`. -/
def RegisterRequest.read : Json.Decoder RegisterRequest := Json.struct do
  let identityPubkey ← Json.field "identity_pubkey" .error Json.string
  let wgPubkey ← Json.field "wg_pubkey" .error Json.string
  let timestamp ← Json.field "timestamp" .error Json.i64
  let signature ← Json.field "signature" .error Json.string
  pure { identityPubkey, wgPubkey, timestamp, signature }

/-- `Deserialize` of `HeartbeatRequest`. -/
def HeartbeatRequest.read : Json.Decoder HeartbeatRequest := Json.struct do
  let endpoint ← Json.field "endpoint" .error Json.string
  let viaRelay ← Json.field "via_relay" (.leftOut none) (Json.option Json.string)
  let timestamp ← Json.field "timestamp" .error Json.i64
  let signature ← Json.field "signature" .error Json.string
  pure { endpoint, viaRelay, timestamp, signature }

/-- `Deserialize` of `SignedRequest`. -/
def SignedRequest.read : Json.Decoder SignedRequest := Json.struct do
  let timestamp ← Json.field "timestamp" .error Json.i64
  let signature ← Json.field "signature" .error Json.string
  pure { timestamp, signature }

/-- A response of the router or of an extractor, whose text comes from `axum`. -/
def rejection (status : ℕ) : HttpResponse := ⟨status, none, .text ""⟩

/-- The extractor `Json` under the body limit of the router. -/
def extract {α : Type} (read : Json.Decoder α) (body : Payload) : Except HttpResponse α :=
  if !body.isJson then .error (rejection 415)
  else if maxBodyBytes < body.length then .error (rejection 413)
  else
    match body.parsed with
    | none => .error (rejection 400)
    | some v =>
        match read v with
        | .error _ => .error (rejection 422)
        | .ok req => .ok req

/-- Where the router sends a request. -/
inductive Routed where
  | rejected (response : HttpResponse)
  | health
  | handled (request : Request)

/-- The handler of a request with a body. -/
def Routed.ofBody {α : Type} (request : α → Request) : Except HttpResponse α → Routed
  | .error response => rejected response
  | .ok req => handled (request req)

/-- The method of a route, and where its handler takes the request. -/
def route (peer : SocketAddr) (http : HttpRequest) : Option (Verb × Routed) :=
  if http.path = "/v1/register" then
    some (.post, .ofBody (.register peer) (extract RegisterRequest.read http.body))
  else if http.path = "/v1/peers" then
    some (.get, .handled (.peers peer http.authorization))
  else if http.path = "/v1/heartbeat" then
    some (.post, .ofBody (.heartbeat peer http.authorization)
      (extract HeartbeatRequest.read http.body))
  else if http.path = "/v1/token/refresh" then
    some (.post, .ofBody (.refreshToken peer http.authorization)
      (extract SignedRequest.read http.body))
  else if http.path = "/v1/node" then
    some (.delete, .ofBody (.deleteNode peer http.authorization)
      (extract SignedRequest.read http.body))
  else if http.path = "/v1/health" then some (.get, .health)
  else none

/-- `build_router`. -/
def buildRouter (peer : SocketAddr) (http : HttpRequest) : Routed :=
  match route peer http with
  | none => .rejected (rejection 404)
  | some (verb, routed) => if http.verb = verb then routed else .rejected (rejection 405)

/-! ## Responses -/

/-- How the errors of other crates are shown, and `{:?}` of a `str`. -/
class ErrorTexts [CoordCrates] where
  database : Violation → String
  base64 : CoordCrates.DecodeError → String
  debug : String → String

variable [CoordCrates]

namespace Error

variable [ErrorTexts]

/-- `Display` of `Error`. -/
def display : Error → String
  | database violation => "database error: " ++ ErrorTexts.database violation
  | ipPoolExhausted => "ip pool exhausted"
  | invalidSignature => "invalid signature"
  | invalidTimestamp seconds => "invalid timestamp: drift exceeds " ++ toString seconds ++ " seconds"
  | invalidPubkey => "invalid public key"
  | invalidAuthToken => "invalid auth token"
  | rateLimited secs => "rate limit exceeded; retry after " ++ toString secs ++ "s"
  | invalidRequest .signatureLength => "invalid request: invalid signature length"
  | invalidRequest (.viaRelay relay) =>
      "invalid request: via_relay " ++ ErrorTexts.debug relay ++ " is not a valid ip:port"
  | base64 error => "base64 decode error: " ++ ErrorTexts.base64 error

/-- The status of `into_response`. -/
def status : Error → ℕ
  | invalidSignature | invalidAuthToken => 401
  | invalidRequest _ | invalidPubkey | invalidTimestamp _ => 400
  | ipPoolExhausted => 503
  | rateLimited _ => 429
  | database _ | base64 _ => 500

/-- The body of `into_response`. -/
def body (e : Error) : Json :=
  match e with
  | rateLimited secs => .obj [("error", .str e.display), ("retry_after_seconds", .int secs)]
  | _ => .obj [("error", .str e.display)]

/-- `into_response`. -/
def intoResponse (e : Error) : HttpResponse where
  status := e.status
  retryAfter :=
    match e with
    | rateLimited secs => some secs
    | _ => none
  content := .json e.body

/-- No error is a success. -/
theorem intoResponse_isSuccess (e : Error) : e.intoResponse.isSuccess = false := by
  cases e <;> rfl

end Error

/-- `Serialize` of `RegisterResponse`. -/
def RegisterResponse.write (r : RegisterResponse) : Json :=
  .obj [("node_id", .str r.nodeId), ("ip", .str r.ip), ("auth_token", .str r.authToken),
    ("auth_token_expires_at", .int r.authTokenExpiresAt), ("derp_url", .str r.derpUrl)]

/-- `Serialize` of `PeerEntry`. -/
def PeerEntry.write (p : PeerEntry) : Json :=
  .obj [("node_id", .str p.nodeId), ("wg_pubkey", .str p.wgPubkey), ("ip", .str p.ip),
    ("last_endpoint", .ofOption .str p.lastEndpoint), ("via_relay", .ofOption .str p.viaRelay),
    ("last_seen", .ofOption .int p.lastSeen)]

/-- `Serialize` of `RefreshResponse`. -/
def RefreshResponse.write (r : RefreshResponse) : Json :=
  .obj [("auth_token", .str r.authToken), ("auth_token_expires_at", .int r.authTokenExpiresAt),
    ("old_token_expires_at", .int r.oldTokenExpiresAt)]

/-- The HTTP response of what a handler returns. -/
def Response.intoResponse : Response → HttpResponse
  | .registered response => ⟨200, none, .json response.write⟩
  | .peers entries => ⟨200, none, .json (.obj [("peers", .arr (entries.map PeerEntry.write))])⟩
  | .ok => ⟨200, none, .empty⟩
  | .refreshed response => ⟨200, none, .json response.write⟩
  | .noContent => ⟨204, none, .empty⟩

variable [Profile] [ErrorTexts]

/-- A request on the wire, handled while no other one is in flight. Where the handler panics, the
connection is closed without a response. -/
def Coordinator.answer (self : Coordinator) (peer : SocketAddr) (http : HttpRequest)
    (draws : Draws) : Option HttpResponse × Coordinator :=
  match buildRouter peer http with
  | .rejected response => (some response, self)
  | .health => (some ⟨200, none, .text "ok"⟩, self)
  | .handled request =>
      match self.serve request draws with
      | (.ok response, after) => (some response.intoResponse, after)
      | (.err e, after) => (some e.intoResponse, after)
      | (.panic, after) => (none, after)

/-! ## What a handler returns -/

omit [ErrorTexts] [Profile] in
/-- The responses that the handler of a request may return, with the numbers that it computes. -/
def Request.Returns : Request → Response → Prop
  | .register _ _, .registered response => I64.InRange response.authTokenExpiresAt
  | .peers _ _, .peers _ => True
  | .heartbeat _ _ _, .ok => True
  | .refreshToken _ _ _, .refreshed response =>
      I64.InRange response.authTokenExpiresAt ∧ I64.InRange response.oldTokenExpiresAt
  | .deleteNode _ _ _, .noContent => True
  | _, _ => False

section Yields

variable {α β δ : Type} {P : β → Prop}

omit [ErrorTexts] [Profile] in
/-- The handler returns only what satisfies a condition. -/
def Yields (P : α → Prop) : Handler α → Prop
  | .done a => P a
  | .call _ next => ∀ r, Yields P (next r)
  | _ => True

omit [ErrorTexts] in
theorem Yields.run {p : Handler β} {self after : Coordinator} {b : β} (h : Yields P p)
    (hrun : p.run Coordinator.handle self = (.ok b, after)) : P b := by
  induction p generalizing self with
  | done a =>
      cases hrun
      exact h
  | call op next ih =>
      rw [Program.run] at hrun
      split at hrun
      · exact ih _ (h _) hrun
      · cases hrun
  | fail e => cases hrun
  | panic => cases hrun

end Yields

omit [CoordCrates] [ErrorTexts] [Profile] in
/-- The times of the last heartbeats are `i64`. -/
def Coordinator.StoresI64 (self : Coordinator) : Prop :=
  ∀ n ∈ self.db.nodes.rows, ∀ t ∈ n.lastSeen, I64.InRange t

omit [CoordCrates] [ErrorTexts] [Profile] in
/-- A heartbeat is stored with a time of the clock. -/
def Op.IsTimed : Op → Prop
  | .updateHeartbeat _ _ _ lastSeen => I64.InRange lastSeen
  | _ => True

/-- A handler that stores only times of the clock. -/
def Timed (p : Handler Response) : Prop := p.Always fun op _ => op.IsTimed

omit [CoordCrates] [ErrorTexts] in
theorem Coordinator.StoresI64.handle {self : Coordinator} {op : Op} (h : self.StoresI64)
    (hop : op.IsTimed) : (Coordinator.handle op self).2.StoresI64 := by
  intro n hn t ht
  rw [Coordinator.handle_rows] at hn
  split at hn
  · exact h n hn t ht
  · cases op with
    | insertNode node token ttlSecs =>
        rw [Op.rows] at hn
        split at hn
        · obtain hn | hn := List.mem_append.1 hn
          · exact h n hn t ht
          · cases List.mem_singleton.1 hn
            cases ht
        · exact h n hn t ht
    | updateHeartbeat nodeId endpoint viaRelay lastSeen =>
        obtain ⟨before, hbefore, rfl⟩ := List.mem_map.1 hn
        split at ht
        · cases ht
          exact hop
        · exact h before hbefore t ht
    | deleteNode nodeId => exact h n (List.mem_filter.1 hn).1 t ht
    | _ => exact h n hn t ht

namespace Server

variable {s t : Server} {event : Event}

end Server

end Naboscale.Coord
