import Naboscale.Coord.Journal
import Naboscale.Coord.Refresh

/-!
# Commands on one configuration directory

The commands of the client that read and write `state.json`, and one round of the heartbeat loop of
the daemon, as programs whose atomic steps are a load, a save, a reading of the clock and a request.
A request is handled at one moment, by the database of the coordinator as the handlers of
`Coord.Routes` leave it.
-/

namespace Naboscale

open Rust Concurrent

/-! ## Requests that the coordinator grants -/

section Granted

variable [Profile]

/-- The operations of a `refresh_token` that is granted. -/
def Coord.Database.refreshed (db : Coord.Database) (nodeId token : String) (now ttlSecs : ℤ) :
    Option (Except Coord.Violation Unit) × Coord.Database :=
  (db.revokeAllTokensForNode nodeId).2.createToken nodeId token now ttlSecs

namespace Coord.Database

variable {db made : Database} {row : TokenRecord} {nodeId token : String} {now ttlSecs expiresAt : ℤ}

omit [Profile] in
theorem unrevoked_addToken (h : db.addToken row = .ok made) (hvalid : row.revoked = false) :
    made.unrevoked row.nodeId = db.unrevoked row.nodeId ++ [row] := by
  rw [unrevoked, (rows_addToken h).2, List.filter_append]
  simp [hvalid, unrevoked]

/-- A node that has a row has one token after a refresh, the one that was drawn. -/
theorem refreshed_known (hvalue : I64.value (now + ttlSecs) = some expiresAt)
    (hfresh : ∀ t ∈ db.tokens.rows, t.token ≠ token) (hknown : nodeId ∈ db.nodeIds) :
    ∃ made, db.refreshed nodeId token now ttlSecs = (some (.ok ()), made) ∧
      made.unrevoked nodeId = [⟨token, nodeId, now, expiresAt, false⟩] := by
  have hnone : (db.revokeAllTokensForNode nodeId).2.unrevoked nodeId = [] := by
    have hvalid := congrFun (@validTokens_revoke db nodeId) nodeId
    rw [Function.update_self] at hvalid
    exact List.map_eq_nil_iff.1 hvalid
  have hfresh' : ∀ t ∈ (db.revokeAllTokensForNode nodeId).2.tokens.rows, t.token ≠ token := by
    intro t ht
    obtain ⟨before, hbefore, rfl⟩ := List.mem_map.1 ht
    split <;> exact hfresh before hbefore
  obtain ⟨made, hadd⟩ : ∃ made, (db.revokeAllTokensForNode nodeId).2.addToken
      ⟨token, nodeId, now, expiresAt, false⟩ = .ok made := addToken_known hfresh' hknown
  have hmade := unrevoked_addToken hadd rfl
  refine ⟨made, ?_, by rw [hmade, hnone, List.nil_append]⟩
  rw [refreshed, createToken, hvalue]
  simp only [hadd]

omit [Profile] in
/-- A token that is not revoked is refused exactly when it has expired. -/
theorem getNodeByToken_unrevoked (hrow : row ∈ db.unrevoked nodeId) :
    db.getNodeByToken row.token now = none ↔ row.expiresAt ≤ now := by
  obtain ⟨hmem, hvalid⟩ := List.mem_filter.1 hrow
  simp only [Bool.and_eq_true, decide_eq_true_eq, Bool.not_eq_true'] at hvalid
  rw [getNodeByToken_eq_none]
  constructor
  · intro hall
    exact (hall row hmem rfl).resolve_left fun hrevoked => by
      rw [hvalid.2] at hrevoked
      cases hrevoked
  · intro hexpired t ht htoken
    have hsame : t = row := db.tokens.eq_of_not_apart ht hmem fun hapart => hapart htoken
    exact .inr (hsame ▸ hexpired)

omit [Profile] in
/-- A valid token of a node finds no other node. -/
theorem nodeId_of_unrevoked {caller : NodeRecord} (hrow : row ∈ db.unrevoked nodeId)
    (hfound : db.getNodeByToken row.token now = some caller) : caller.nodeId = nodeId := by
  obtain ⟨hmem, hvalid⟩ := List.mem_filter.1 hrow
  simp only [Bool.and_eq_true, decide_eq_true_eq] at hvalid
  obtain ⟨t, ht, htoken, hid, -⟩ := row_of_getNodeByToken hfound
  have hsame : t = row := db.tokens.eq_of_not_apart ht hmem fun hapart => hapart htoken
  rw [← hid, hsame, hvalid.1]

end Coord.Database

namespace Coord

variable [CoordCrates] {self after : Coordinator} {peer : SocketAddr}
  {authorization : Option String} {draws : Draws} {response : Response}

/-- A heartbeat that is granted finds the caller and stores the endpoint. -/
theorem heartbeat_of_serve {req : HeartbeatRequest}
    (h : self.serve (.heartbeat peer authorization req) draws = (.ok response, after)) :
    ∃ token caller, extractBearer authorization = .ok token ∧
      self.db.getNodeByToken token self.clock.val = some caller ∧
      after.db =
        self.db.updateHeartbeat caller.nodeId req.endpoint req.viaRelay self.clock.val := by
  obtain ⟨_, admitted, hlimit, hrest⟩ := Program.run_bind_ok h
  have hadmitted := checkRateLimit_ok hlimit
  obtain ⟨⟨now, caller⟩, s, hcaller, hrest⟩ := Program.run_bind_ok hrest
  obtain ⟨hnow, -, hs, token, htoken, hfound⟩ := authenticate_ok hcaller
  subst s
  obtain ⟨⟨key, sig⟩, s, hdecoded, hrest⟩ := Program.run_bind_ok hrest
  have hs := decodeSigned_ok hdecoded
  subst s
  obtain ⟨_, s, hchecked, hrest⟩ := Program.run_bind_ok hrest
  have hs := (Program.run_lift_ok hchecked).2
  subst s
  rw [hadmitted] at hnow hfound
  subst hnow
  dsimp only at hrest
  split at hrest
  · cases hrest
  · obtain ⟨_, s, hcall, hanswer⟩ := Program.run_bind_ok hrest
    have hlocked : admitted.locked (fun db => (some (),
        db.updateHeartbeat caller.nodeId req.endpoint req.viaRelay self.clock.val)) =
          (some (), s) := Program.run_perform_ok hcall
    obtain ⟨-, -, hafter⟩ := Coordinator.locked_inv hlocked
    cases hanswer
    rw [hafter, hadmitted]
    exact ⟨token, caller, htoken, hfound, rfl⟩

/-- A refresh that is granted finds the caller and replaces the caller's tokens. -/
theorem refresh_of_serve {req : SignedRequest}
    (h : self.serve (.refreshToken peer authorization req) draws = (.ok response, after)) :
    ∃ token caller expiresAt, extractBearer authorization = .ok token ∧
      self.db.getNodeByToken token self.clock.val = some caller ∧
      I64.value (self.clock.val + self.tokenTtlSecs.val) = some expiresAt ∧
      self.db.refreshed caller.nodeId draws.authToken self.clock.val self.tokenTtlSecs.val =
        (some (.ok ()), after.db) ∧
      response = .refreshed ⟨draws.authToken, expiresAt, expiresAt⟩ := by
  obtain ⟨_, admitted, hlimit, hrest⟩ := Program.run_bind_ok h
  have hadmitted := checkRateLimit_ok hlimit
  obtain ⟨⟨now, caller⟩, s, hcaller, hrest⟩ := Program.run_bind_ok hrest
  obtain ⟨hnow, -, hs, token, htoken, hfound⟩ := authenticate_ok hcaller
  subst s
  obtain ⟨⟨key, sig⟩, s, hdecoded, hrest⟩ := Program.run_bind_ok hrest
  have hs := decodeSigned_ok hdecoded
  subst s
  obtain ⟨_, s, hchecked, hrest⟩ := Program.run_bind_ok hrest
  have hs := (Program.run_lift_ok hchecked).2
  subst s
  rw [hadmitted] at hnow hfound
  subst hnow
  obtain ⟨_, revoked, hrevoke, hrest'⟩ := Program.run_bind_ok hrest
  obtain ⟨created, s, hcreate, hmake⟩ := Program.run_bind_ok hrest'
  obtain ⟨_, s', hmade, hvalue⟩ := Program.run_bind_ok hmake
  obtain ⟨hcreated, hs'⟩ := Program.run_lift_ok hmade
  obtain ⟨expiresAt, s'', hunwrap, hanswer⟩ := Program.run_bind_ok hvalue
  obtain ⟨hexpires, hs''⟩ := Program.run_unwrap_ok hunwrap
  cases hanswer
  subst hs'' hs' hcreated
  -- Both operations found the lock sound, and the second one worked on what the first one left.
  have hfirst : admitted.locked (fun db => (db.revokeAllTokensForNode caller.nodeId).map some id) =
      (some _, revoked) := Program.run_perform_ok hrevoke
  obtain ⟨-, -, hrevoked⟩ := Coordinator.locked_inv hfirst
  have hsecond : revoked.locked (fun db => db.createToken caller.nodeId draws.authToken
      self.clock.val self.tokenTtlSecs.val) = (some (.ok _), after) := Program.run_perform_ok hcreate
  obtain ⟨-, hresult, hafter⟩ := Coordinator.locked_inv hsecond
  rw [hrevoked, hadmitted] at hresult hafter
  refine ⟨token, caller, expiresAt, htoken, hfound, hexpires, ?_, rfl⟩
  exact Prod.ext hresult (congrArg Coordinator.db hafter).symm

end Coord

end Granted

namespace Cli

open Coord

/-! ## `state.json` -/

/-- `PeerInfo`. -/
structure PeerInfo where
  nodeId : String
  wgPubkeyB64 : String
  ip : String
  lastEndpoint : Option String
  viaRelay : Option String

/-- `State`. -/
structure State where
  nodeId : String
  ip : String
  authToken : String
  authTokenExpiresAt : Option ℤ
  lastEndpoint : Option String
  lastHandshakeAt : Option ℤ
  knownPeers : List PeerInfo

/-- The peer information of an entry that the coordinator lists. -/
def PeerInfo.ofEntry (p : PeerEntry) : PeerInfo where
  nodeId := p.nodeId
  wgPubkeyB64 := p.wgPubkey
  ip := p.ip
  lastEndpoint := p.lastEndpoint
  viaRelay := p.viaRelay

/-- `is_token_expired`. -/
def isTokenExpired (expiresAt : Option ℤ) (now : ℤ) : Bool :=
  expiresAt.all fun exp => decide (exp ≤ now)

/-- `is_token_expired_soon`. -/
def isTokenExpiredSoon (expiresAt : Option ℤ) (graceSecs now : ℤ) : Bool :=
  expiresAt.all fun exp => decide (exp ≤ now + graceSecs)

/-! ## Programs -/

/-- `Error`: the coordinator answered with a status that is no success, or no answer came that the
client can read. -/
inductive ServerError where
  | server
  | http

/-- The atomic steps of a command. -/
inductive Action where
  | load
  | save (state : State)
  | timestamp
  | taiSeconds
  | peers (authToken : String)
  | heartbeat (authToken endpoint : String) (viaRelay : Option String)
  | refreshToken (authToken : String)

/-- The result of a step. -/
@[reducible] def Action.Result : Action → Type
  | load => State
  | save _ => Unit
  | timestamp => ℤ
  | taiSeconds => ℤ
  | peers _ => Except ServerError (List PeerEntry)
  | heartbeat _ _ _ => Except ServerError Unit
  | refreshToken _ => Except ServerError RefreshResponse

/-- A program of such steps. -/
abbrev Command := Program Action Action.Result ServerError

/-- A command that makes one step. -/
abbrev Action.call (action : Action) : Command action.Result := .perform action

/-- The state with the token of a response. -/
def State.withToken (state : State) (response : RefreshResponse) : State :=
  { state with
    authToken := response.authToken
    authTokenExpiresAt := some response.authTokenExpiresAt }

/-- `cmd_peers`. -/
def cmdPeers : Command Unit := do
  let state ← Action.load.call
  let answer ← (Action.peers state.authToken).call
  let peers ← .lift id answer
  (Action.save { state with knownPeers := peers.map .ofEntry }).call

/-- The refresh of `cmd_heartbeat`, before it sends the heartbeat. -/
def refreshExpired (state : State) (now : ℤ) : Command State :=
  if isTokenExpired state.authTokenExpiresAt now then do
    let answer ← (Action.refreshToken state.authToken).call
    let refreshed ← .lift id answer
    pure (state.withToken refreshed)
  else pure state

/-- `cmd_heartbeat`. -/
def cmdHeartbeat (endpoint : String) (viaRelay : Option String) : Command Unit := do
  let loaded ← Action.load.call
  let now ← Action.timestamp.call
  let state ← refreshExpired loaded now
  let answer ← (Action.heartbeat state.authToken endpoint viaRelay).call
  .lift id answer
  let now ← Action.timestamp.call
  (Action.save { state with lastEndpoint := some endpoint, lastHandshakeAt := some now }).call

/-- `cmd_refresh_token`. -/
def cmdRefreshToken : Command Unit := do
  let state ← Action.load.call
  let answer ← (Action.refreshToken state.authToken).call
  let response ← .lift id answer
  (Action.save (state.withToken response)).call

/-- A tick of `peer_discovery` in `cmd_up`, up to what becomes of the listing. -/
def discovery : Command Unit := do
  let state ← Action.load.call
  let _ ← (Action.peers state.authToken).call
  pure ()

/-- The refresh of the heartbeat task, where the token is about to expire. It is made with the
token that the task holds, whatever token the file has. -/
def refreshExpiring (authToken : String) (state : State) (now : ℤ) : Command String :=
  if isTokenExpiredSoon state.authTokenExpiresAt 60 now then do
    let answer ← (Action.refreshToken authToken).call
    match answer with
    | .ok response =>
        let state ← Action.load.call
        (Action.save (state.withToken response)).call
        pure response.authToken
    | .error _ => pure authToken
  else pure authToken

/-- The heartbeat task from one sleep to the next, with the token that it holds then. -/
def heartbeatRound (endpoint : String) (viaRelay : Option String) (authToken : String) :
    Command String := do
  let state ← Action.load.call
  let now ← Action.timestamp.call
  let authToken ← refreshExpiring authToken state now
  let _ ← (Action.heartbeat authToken endpoint viaRelay).call
  let state ← Action.load.call
  let now ← Action.taiSeconds.call
  (Action.save { state with lastEndpoint := some endpoint, lastHandshakeAt := some now }).call
  pure authToken

/-! ## The file and the coordinator -/

/-- `TAI_OFFSET_SECONDS`. -/
def taiOffsetSeconds : ℤ := 37

/-- The file, the database of the coordinator with its TTL, and the time in milliseconds. -/
structure World where
  file : State
  db : Database
  ttlSecs : ℤ
  millis : ℕ

namespace World

/-- Seconds since the epoch. -/
def now (w : World) : ℤ := (w.millis / 1000 : ℕ)

/-- The world after a time. -/
def later (w : World) (millis : ℕ) : World := { w with millis := w.millis + millis }

variable [Profile] [CoordCrates]

/-- A refresh: it is granted to a token that finds its node. -/
def refresh (w : World) (authToken drawn : String) :
    Except ServerError RefreshResponse × World :=
  match w.db.getNodeByToken authToken w.now with
  | none => (.error .server, w)
  | some caller =>
      match I64.value (w.now + w.ttlSecs), w.db.refreshed caller.nodeId drawn w.now w.ttlSecs with
      | some expiresAt, (some (.ok ()), db) =>
          (.ok ⟨drawn, expiresAt, expiresAt⟩, { w with db })
      | _, (_, db) => (.error .server, { w with db })

/-- One step of a command, where the coordinator draws a token. -/
def handle (drawn : String) : Semantics Action Action.Result World
  | .load, w => (some w.file, w)
  | .save state, w => (some (), { w with file := state })
  | .timestamp, w => (some w.now, w)
  | .taiSeconds, w => (some (w.now + taiOffsetSeconds), w)
  | .peers authToken, w =>
      match w.db.getNodeByToken authToken w.now with
      | none => (some (.error .server), w)
      | some caller => (some (.ok ((w.db.listPeers (some caller.nodeId)).map NodeRecord.listed)), w)
  | .heartbeat authToken endpoint viaRelay, w =>
      match w.db.getNodeByToken authToken w.now with
      | none => (some (.error .server), w)
      | some caller =>
          (some (.ok ()), { w with
            db := w.db.updateHeartbeat caller.nodeId endpoint viaRelay w.now })
  | .refreshToken authToken, w =>
      let (result, w) := w.refresh authToken drawn
      (some result, w)

/-! ## What a request does to the tokens -/

/-- The coordinator can make a new token: what it draws is not stored, and the time does not
overflow. -/
structure Serves (w : World) (drawn : String) : Prop where
  fresh : ∀ t ∈ w.db.tokens.rows, t.token ≠ drawn
  inRange : I64.InRange (w.now + w.ttlSecs)

variable {w : World} {authToken drawn : String} {caller : NodeRecord}

omit [CoordCrates] in
theorem refresh_refused (h : w.db.getNodeByToken authToken w.now = none) :
    w.refresh authToken drawn = (.error .server, w) := by
  rw [refresh, h]

omit [CoordCrates] in
/-- A refresh that is granted leaves the caller one token, the one that was drawn. -/
theorem refresh_granted (hfound : w.db.getNodeByToken authToken w.now = some caller)
    (hserves : w.Serves drawn) :
    ∃ db, w.refresh authToken drawn =
        (.ok ⟨drawn, w.now + w.ttlSecs, w.now + w.ttlSecs⟩, { w with db }) ∧
      db.unrevoked caller.nodeId =
        [⟨drawn, caller.nodeId, w.now, w.now + w.ttlSecs, false⟩] := by
  have hvalue := I64.value_eq hserves.inRange
  obtain ⟨db, hcreate, hunrevoked⟩ := Database.refreshed_known hvalue hserves.fresh
    ⟨caller, Database.mem_of_getNodeByToken hfound, rfl⟩
  refine ⟨db, ?_, hunrevoked⟩
  rw [refresh, hfound]
  simp only [hvalue, hcreate]

end World

end Cli

end Naboscale
